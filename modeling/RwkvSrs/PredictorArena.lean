import RwkvSrs.KeyedMerge
import RwkvSrs.StateLayouts

/-!
A state arena of the GPU predictor: one buffer of half-precision states, and the
slot of every identity in it. A slot is taken at the end and only the last one is
given back, so the slots are always the numbers below their count, each of one
identity, and the buffer holds the state of each identity at its slot.
-/

namespace RwkvSrs.PredictorArena

open Std RwkvSrs.KeyedMerge RwkvSrs.ModuleState RwkvSrs.NativeRnnState RwkvSrs.ResultSteps
open RwkvSrs.StateLayouts RwkvSrs.StrideBlocks

set_option autoImplicit false

variable {V H Value Next : Type}

/-- A computation that asks the device, given what it answers to the requests of one call in their
order; past the end of the answers it grants them. -/
abbrev Device := StateT (List (Option String)) (Except String)

def request : Device Unit := fun answers =>
  match answers with
  | [] => .ok ((), [])
  | none :: rest => .ok ((), rest)
  | some message :: _ => .error message

def check (result : Except String Value) : Device Value := fun answers =>
  match result with
  | .ok value => .ok (value, answers)
  | .error message => .error message

theorem device_bind_ok {step : Device Value} {next : Value → Device Next}
    {answers last : List (Option String)} {result : Next}
    (ran : (step >>= next) answers = .ok (result, last)) :
    ∃ value middle, step answers = .ok (value, middle) ∧
      next value middle = .ok (result, last) := by
  obtain ⟨⟨value, middle⟩, stepped, rest⟩ := bind_ok.mp ran
  exact ⟨value, middle, stepped, rest⟩

theorem device_pure_ok {value result : Value} {answers last : List (Option String)}
    (ran : (pure value : Device Value) answers = .ok (result, last)) : value = result := by
  cases ran
  rfl

theorem device_check_ok {found : Except String Value} {answers last : List (Option String)}
    {value : Value} (ran : check found answers = .ok (value, last)) : found = .ok value := by
  cases found with
  | error message => cases ran
  | ok found =>
      cases ran
      rfl

/-- A buffer takes a write that lies within it. -/
def writeBuffer (buffer : List H) (offset : Nat) (values : List H) : Device (List H) := do
  request
  check (if offset + values.length ≤ buffer.length then .ok (writeAt buffer offset values)
    else .error "buffer write is out of range")

theorem write_buffer_ok {buffer values written : List H} {offset : Nat}
    {answers last : List (Option String)}
    (ran : writeBuffer buffer offset values answers = .ok (written, last)) :
    offset + values.length ≤ buffer.length ∧ written = writeAt buffer offset values := by
  obtain ⟨_, middle, _, rest⟩ := device_bind_ok ran
  have checked := device_check_ok rest
  split at checked
  · rename_i fits
    cases checked
    exact ⟨fits, rfl⟩
  · cases checked

def appendTensorF16 (toHalf : V → H) (name : String) (output : List H) (tensor : Tensor V)
    (expected : Nat) : Except String (List H) :=
  if tensor.dims.prod ≠ expected then
    .error (s!"{name} state tensor expected {expected} values, got {tensor.dims.prod} " ++
      s!"with shape {tensor.dims}")
  else .ok (output ++ tensor.data.map toHalf)

def appendLayerF16 (toHalf : V → H) (name : String) (output : List H) (layer : LayerTensors V) :
    Except String (List H) := do
  let output ← appendTensorF16 toHalf name output layer.1 flatStateChannels
  let output ← appendTensorF16 toHalf name output layer.2.1 flatStateMatrixElements
  appendTensorF16 toHalf name output layer.2.2 flatStateChannels

def appendStateF16 (toHalf : V → H) (name : String) (output : List H)
    (state : NativeRnnModuleState V) (layers : Nat) : Except String (List H) := do
  if state.timeXShiftB1cByLayer.length = layers ∧ state.timeStateB1hkkByLayer.length = layers ∧
      state.channelStateB1cByLayer.length = layers then
    let packed ← (toLayers state).foldlM (appendLayerF16 toHalf name) output
    if packed.length - output.length = layers * flatStateLayerElements then return packed
    else throw s!"{name} packed state length mismatch"
  else throw s!"{name} expected {layers} layers of each recurrent state"

def appendFlatStateF16 (toHalf : V → H) (name : String) (output : List H)
    (state : FlatNativeRnnModuleState V) (layers : Nat) : Except String (List H) :=
  let values := (shapedFlat state).entityValues
  let expected := layers * flatStateLayerElements
  if state.layers ≠ layers then
    .error s!"{name} expected {layers} flat recurrent-state layers, got {state.layers}"
  else if values.length ≠ expected then
    .error s!"{name} expected {expected} flat recurrent-state values, got {values.length}"
  else .ok (output ++ values.map toHalf)

/-- A state in half precision, in the order of the buffer. -/
def halves (toHalf : V → H) (state : NativeRnnModuleState V) : List H :=
  (stateValues state).map toHalf

structure StateArena (H : Type) where
  name : String
  buffer : List H
  slots : ExtTreeMap Int64 UInt32
  layers : Nat
  capacity : Nat
  maxCapacity : Nat

namespace StateArena

def stride (arena : StateArena H) : Nat := arena.layers * flatStateLayerElements

def invalidOffset : UInt32 := 0xffffffff

def slot (arena : StateArena H) (identity : Int64) : UInt32 :=
  (arena.slots[identity]?).getD invalidOffset

end StateArena

def initialUploadChunkBytes : Nat := 16 * 1024 * 1024

abbrev CpuStateEntry (V : Type) := NativeRnnModuleState V ⊕ FlatNativeRnnModuleState V

def appendEntryF16 (toHalf : V → H) (name : String) (output : List H) (layers : Nat) :
    CpuStateEntry V → Except String (List H)
  | .inl state => appendStateF16 toHalf name output state layers
  | .inr flat => appendFlatStateF16 toHalf name output flat layers

structure Upload (H : Type) where
  slots : ExtTreeMap Int64 UInt32
  chunk : List H
  chunkStart : Nat
  slot : Nat
  buffer : List H

/-- Uploads the chunk that has been collected. -/
def flushChunk (stride : Nat) (upload : Upload H) : Device (Upload H) := do
  let buffer ← writeBuffer upload.buffer (upload.chunkStart * stride) upload.chunk
  request
  return { upload with buffer := buffer, chunk := [] }

def uploadEntry (toHalf : V → H) (name : String) (layers chunkEntries : Nat) (upload : Upload H)
    (entry : Int64 × CpuStateEntry V) : Device (Upload H) := do
  let chunk ← check (appendEntryF16 toHalf name upload.chunk layers entry.2)
  let next : Upload H :=
    { slots := upload.slots.insert entry.1 (UInt32.ofNat upload.slot)
      chunk := chunk
      chunkStart := if upload.chunk.isEmpty then upload.slot else upload.chunkStart
      slot := upload.slot + 1
      buffer := upload.buffer }
  if chunkEntries * layers * flatStateLayerElements ≤ chunk.length then
    flushChunk (layers * flatStateLayerElements) next
  else return next

def flushRest (stride : Nat) (upload : Upload H) : Device (Upload H) :=
  if upload.chunk.isEmpty then pure upload else flushChunk stride upload

namespace StateArena

/-- `maxBufferBytes` is the smaller of the device's two limits on a buffer. -/
def new [Zero H] (toHalf : V → H) (maxBufferBytes : Nat) (name : String) (layers : Nat)
    (states : ExtTreeMap Int64 (NativeRnnModuleState V))
    (flatStates : ExtTreeMap Int64 (FlatNativeRnnModuleState V)) : Device (StateArena H) := do
  let stride := layers * flatStateLayerElements
  let entryBytes := stride * 2
  let maxCapacity := maxBufferBytes / entryBytes
  let stateCount := states.size + flatStates.size
  check (if stateCount ≤ maxCapacity then .ok () else
    .error (s!"{name} FP16 state requires {stateCount} entries but this GPU supports at most " ++
      s!"{maxCapacity}"))
  let headroom := max (stateCount / 64) 8
  let capacity := max 1 (min (stateCount + headroom) (max maxCapacity 1))
  request
  let chunkEntries := max (initialUploadChunkBytes / entryBytes) 1
  let (entries, shared) := merge states.toList flatStates.toList
  let start : Upload H := ⟨∅, [], 0, 0, List.replicate (capacity * stride) 0⟩
  let upload ← entries.foldlM (uploadEntry toHalf name layers chunkEntries) start
  check (match shared with
    | none => .ok ()
    | some identity =>
        .error s!"{name} identity {identity} exists in flat and canonical CPU state")
  let upload ← flushRest stride upload
  return ⟨name, upload.buffer, upload.slots, layers, capacity, maxCapacity⟩

/-- The global state as a map with one identity. -/
def singleEntry {State : Type} (state : Option State) : ExtTreeMap Int64 State :=
  match state with
  | some state => (∅ : ExtTreeMap Int64 State).insert 0 state
  | none => ∅

def singleton [Zero H] (toHalf : V → H) (maxBufferBytes : Nat) (name : String) (layers : Nat)
    (state : Option (NativeRnnModuleState V)) (flatState : Option (FlatNativeRnnModuleState V)) :
    Device (StateArena H) :=
  new toHalf maxBufferBytes name layers (singleEntry state) (singleEntry flatState)

def grow [Zero H] (arena : StateArena H) : Device (StateArena H) := do
  check (if arena.capacity < arena.maxCapacity then .ok () else
    .error s!"{arena.name} FP16 state buffer is at this GPU's binding-size limit")
  let newCapacity := min (arena.capacity + arena.capacity / 8 + 8) arena.maxCapacity
  request
  let used := arena.slots.size * arena.stride
  return { arena with
    buffer := writeAt (List.replicate (newCapacity * arena.stride) 0) 0 (arena.buffer.take used)
    capacity := newCapacity }

def growIfFull [Zero H] (arena : StateArena H) : Device (StateArena H) :=
  if arena.slots.size = arena.capacity then arena.grow else pure arena

/-- The slot of an identity, taken at the end where it has none. -/
def placeSlot [Zero H] (arena : StateArena H) (identity : Int64) :
    Device (StateArena H × UInt32) :=
  match arena.slots[identity]? with
  | some slot => pure (arena, slot)
  | none => do
      let grown ← arena.growIfFull
      let slot := UInt32.ofNat grown.slots.size
      return ({ grown with slots := grown.slots.insert identity slot }, slot)

def update [Zero H] (toHalf : V → H) (arena : StateArena H) (identity : Int64)
    (state : NativeRnnModuleState V) : Device (StateArena H) := do
  let (placed, slot) ← arena.placeSlot identity
  let values ← check (appendStateF16 toHalf arena.name [] state arena.layers)
  let buffer ← writeBuffer placed.buffer (slot.toNat * arena.stride) values
  return { placed with buffer := buffer }

end StateArena

def retireTailSlot (slots : ExtTreeMap Int64 UInt32) (identity : Int64) (arenaName : String) :
    Except String (ExtTreeMap Int64 UInt32 × Bool) :=
  match slots[identity]? with
  | none => .ok (slots, false)
  | some slot =>
      let expectedTail := UInt32.ofNat (slots.size - 1)
      if slot = expectedTail then .ok (slots.erase identity, true)
      else
        .error (s!"cannot retire non-tail {arenaName} GPU state slot {slot}; " ++
          s!"expected {expectedTail}")

/-- The arena after an undo, and whether an identity has gained or lost its slot. -/
def StateArena.restoreAfterUndo [Zero H] (toHalf : V → H) (arena : StateArena H)
    (identity : Int64) (state : Option (NativeRnnModuleState V)) :
    Device (StateArena H × Bool) :=
  match state with
  | some state => do
      let topologyChanged := (arena.slots[identity]?).isNone
      return (← arena.update toHalf identity state, topologyChanged)
  | none => do
      let (slots, retired) ← check (retireTailSlot arena.slots identity arena.name)
      return ({ arena with slots := slots }, retired)

end RwkvSrs.PredictorArena
