import Std.Data.ExtTreeMap
import Std.Data.ExtTreeSet
import RwkvSrs.CheckpointBytes
import RwkvSrs.DeterministicState
import RwkvSrs.ModuleState

/-!
The readers of a binary checkpoint. Both versions read every section into
values of their own before anything of a runtime changes. With a scope the
second version keeps only the selected identities; the state maps seek past the
entries that are not selected, every other section reads them and drops them.
-/

namespace RwkvSrs.CheckpointReader

open Std CheckpointBytes DeterministicState ModuleState TorchRng

set_option autoImplicit false

def torchRngStateByteLen : Nat := 632 * 8

def torchWord (bytes : List UInt8) (index : Nat) : Nat := fromLe ((bytes.drop (8 * index)).take 8)

def fromTorchRngState (bytes : List UInt8) : Except String TorchMt19937 :=
  if bytes.length ≠ torchRngStateByteLen then
    .error ("torch RNG state must contain " ++ toString torchRngStateByteLen ++ " bytes, got " ++
      toString bytes.length)
  else
    let packedLeft := torchWord bytes 1
    let left := packedLeft % 2 ^ 32
    let next := torchWord bytes 2
    if packedLeft / 2 ^ 32 ≠ 1 then .error "unsupported torch RNG state header"
    else if mersenneStateN < left then
      .error ("torch RNG state left count must be <= " ++ toString mersenneStateN ++ ", got " ++
        toString left)
    else if mersenneStateN < next then
      .error ("torch RNG state next index must be <= " ++ toString mersenneStateN ++ ", got " ++
        toString next)
    else
      match (List.range mersenneStateN).find? fun index => 2 ^ 32 ≤ torchWord bytes (3 + index) with
      | some index => .error ("torch RNG state word " ++ toString index ++ " exceeds u32 range")
      | none =>
          if (List.range 5).any fun index => torchWord bytes (3 + mersenneStateN + index) ≠ 0 then
            .error "unsupported nonzero torch RNG state tail"
          else .ok {
            seed := UInt64.ofNat (torchWord bytes 0)
            left := UInt64.ofNat left
            next := UInt64.ofNat next
            state := Vector.ofFn fun index => UInt32.ofNat (torchWord bytes (3 + index)) }

structure CheckpointScope where
  cardIds : ExtTreeSet Int64
  noteIds : ExtTreeSet Int64
  deckIds : ExtTreeSet Int64
  presetIds : ExtTreeSet Int64

def CheckpointScope.idsForSubmodule (scope : CheckpointScope) : IdSubmodule → ExtTreeSet Int64
  | .cardId => scope.cardIds
  | .noteId => scope.noteIds
  | .deckId => scope.deckIds
  | .presetId => scope.presetIds

/-- Without a selection every identity is kept. -/
def isSelected (selectedIds : Option (ExtTreeSet Int64)) (id : Int64) : Bool :=
  match selectedIds with
  | some selected => decide (id ∈ selected)
  | none => true

def collectSet (selectedIds : Option (ExtTreeSet Int64)) (values : List Int64) :
    ExtTreeSet Int64 :=
  values.foldl (fun kept value => if isSelected selectedIds value then kept.insert value else kept) ∅

def collectMap {Value : Type} (selectedIds : Option (ExtTreeSet Int64))
    (kept : ExtTreeMap Int64 Value) (entries : List (Int64 × Value)) : ExtTreeMap Int64 Value :=
  entries.foldl
    (fun kept entry => if isSelected selectedIds entry.1 then kept.insert entry.1 entry.2 else kept)
    kept

def binReadI64SetSelected (field : String) (selectedIds : Option (ExtTreeSet Int64)) :
    Reader (ExtTreeSet Int64) := do
  let len ← binReadUsize field
  return collectSet selectedIds (← readItems (fun _ => binReadI64 field) 0 len)

/-- The maps of identities to words and floats differ only in how a value is read. -/
def binReadI64MapSelected {Value : Type} (field : String) (read : Reader Value)
    (selectedIds : Option (ExtTreeSet Int64)) : Reader (ExtTreeMap Int64 Value) := do
  let len ← binReadUsize field
  let entries ← readItems (fun _ => do
    let key ← binReadI64 field
    return (key, ← read)) 0 len
  return collectMap selectedIds ∅ entries

def binReadI64UsizeMapSelected (field : String) (selectedIds : Option (ExtTreeSet Int64)) :
    Reader (ExtTreeMap Int64 UInt64) :=
  binReadI64MapSelected field (do return UInt64.ofNat (← binReadUsize field)) selectedIds

def binReadI64I64MapSelected (field : String) (selectedIds : Option (ExtTreeSet Int64)) :
    Reader (ExtTreeMap Int64 Int64) :=
  binReadI64MapSelected field (binReadI64 field) selectedIds

def binReadI64F64MapSelected (field : String) (selectedIds : Option (ExtTreeSet Int64)) :
    Reader (ExtTreeMap Int64 Binary64) :=
  binReadI64MapSelected field (binReadF64 field) selectedIds

def encodingField (submodule : IdSubmodule) (index : String) : String :=
  "id_encodings[" ++ submodule.name ++ "][" ++ index ++ "]"

def binReadIdEncoding (submodule : IdSubmodule) (index : Nat) :
    Reader (Int64 × List Binary32) := do
  let id ← binReadI64 (encodingField submodule (toString index) ++ ".id")
  let field := encodingField submodule (toString id)
  let valueCount ← binReadUsize field
  if valueCount ≠ submodule.dim then
    fail (field ++ " expected length " ++ toString submodule.dim ++ ", got " ++ toString valueCount)
  else return (id, ← readItems (fun _ => binReadF32 field) 0 valueCount)

def binReadSubmoduleEncodings (scope : Option CheckpointScope) (out : IdEncodings Binary32) :
    Reader (IdEncodings Binary32) := do
  let name ← binReadString "id_encodings.submodule"
  match idSubmodules.find? fun submodule => submodule.name == name with
  | none => fail ("unsupported id_encodings submodule \"" ++ name ++ "\"")
  | some submodule =>
      let encodingCount ← binReadUsize ("id_encodings[" ++ name ++ "]")
      let entries ← readItems (binReadIdEncoding submodule) 0 encodingCount
      let selectedIds := scope.map fun scope => scope.idsForSubmodule submodule
      return fun other =>
        if other = submodule then collectMap selectedIds (out submodule) entries else out other

def readModules (scope : Option CheckpointScope) :
    Nat → IdEncodings Binary32 → Reader (IdEncodings Binary32)
  | 0, out => pure out
  | count + 1, out => do readModules scope count (← binReadSubmoduleEncodings scope out)

def binReadIdEncodingsSelected (scope : Option CheckpointScope) :
    Reader (IdEncodings Binary32) := do
  let moduleCount ← binReadUsize "id_encodings"
  readModules scope moduleCount emptyIdEncodings

/-- The product of the dimensions, unless it leaves the range of a usize on the way. -/
def checkedProduct (dims : List Nat) : Option Nat :=
  dims.foldlM (fun count dim => if count * dim < 2 ^ 64 then some (count * dim) else none) 1

def binReadF32VecBulk (valueCount : Nat) (field : String) : Reader (List Binary32) := do
  if 2 ^ 64 ≤ valueCount * 4 then fail (field ++ " byte count overflow")
  else if valueCount = 0 then return []
  else
    binVecWithCapacity 4 valueCount field
    let bytes ← binReadExact (valueCount * 4) field
    return (List.range valueCount).map fun index =>
      ⟨UInt32.ofNat (fromLe ((bytes.drop (4 * index)).take 4))⟩

def binReadTensor (field : String) (expectedRank : Nat) : Reader (Tensor Binary32) := do
  let rank ← binReadU8 field
  if rank ≠ expectedRank then
    fail (field ++ " expected rank " ++ toString expectedRank ++ ", got " ++ toString rank)
  else
    let dims ← readItems
      (fun index => binReadUsize (field ++ ".shape[" ++ toString index ++ "]")) 0 rank
    match checkedProduct dims with
    | none => fail (field ++ " element count overflow")
    | some expectedValues =>
        let valueCount ← binReadUsize (field ++ ".values")
        if valueCount ≠ expectedValues then
          fail (field ++ " expected " ++ toString expectedValues ++ " values from shape, got " ++
            toString valueCount)
        else
          let values ← binReadF32VecBulk valueCount field
          match Tensor.fromVec values dims with
          | .ok tensor => return tensor
          | .error message => fail message

def binReadTensorVec (field : String) (expectedRank : Nat) : Reader (List (Tensor Binary32)) := do
  let len ← binReadUsize field
  binVecWithCapacity 8 len field
  readItems (fun index => binReadTensor (field ++ "[" ++ toString index ++ "]") expectedRank) 0 len

def nativeModuleStateFromParts {V : Type} (timeXShift timeState channelState : List (Tensor V))
    (name : String) : Except String (NativeRnnModuleState V) :=
  if timeXShift.length ≠ timeState.length ∨ timeXShift.length ≠ channelState.length then
    .error (name ++ " expected time x-shift, time recurrent, and channel state layer counts to " ++
      "match, got " ++ toString timeXShift.length ++ ", " ++ toString timeState.length ++
      ", and " ++ toString channelState.length)
  else .ok ⟨timeXShift, timeState, channelState⟩

def binReadEntityState (field : String) : Reader (NativeRnnModuleState Binary32) := do
  let timeX ← binReadTensorVec (field ++ ".time_x_shift_b1c_by_layer") 3
  let timeRecurrent ← binReadTensorVec (field ++ ".time_state_b1hkk_by_layer") 5
  let channel ← binReadTensorVec (field ++ ".channel_state_b1c_by_layer") 3
  match nativeModuleStateFromParts timeX timeRecurrent channel field with
  | .ok state => return state
  | .error message => fail message

def binReadOptionalState (field : String) : Reader (Option (NativeRnnModuleState Binary32)) := do
  match ← binReadU8 field with
  | 0 => return none
  | 1 => return some (← binReadEntityState field)
  | tag => fail (field ++ " optional state tag must be 0 or 1, got " ++ toString tag)

abbrev StateMap := ExtTreeMap Int64 (NativeRnnModuleState Binary32)

/-- The states of the first version follow one another without an index. -/
def binReadStateMap (field : String) : Reader StateMap := do
  let len ← binReadUsize field
  let entries ← readItems (fun index => do
    let id ← binReadI64 (field ++ "[" ++ toString index ++ "].id")
    return (id, ← binReadEntityState (field ++ "[" ++ toString id ++ "]"))) 0 len
  return collectMap none ∅ entries

/-- Where the reader stands, and where the next entry begins. -/
structure IndexedPosition where
  offset : Nat
  readerPosition : Nat
  states : StateMap

def binReadIndexedEntry (field : String) (selectedIds : Option (ExtTreeSet Int64))
    (reached : IndexedPosition) (entry : Int64 × Nat) : Reader IndexedPosition := do
  let (identity, byteLen) := entry
  let nextOffset := reached.offset + byteLen
  let entryField := field ++ "[" ++ toString identity ++ "]"
  if 2 ^ 64 ≤ nextOffset then fail (field ++ " offset overflow")
  else if isSelected selectedIds identity then
    if reached.readerPosition ≠ reached.offset then
      seekTo reached.offset ("failed to seek Rust checkpoint field " ++ entryField)
    let (state, remaining) ← limited byteLen (binReadEntityState entryField)
    if remaining ≠ 0 then
      fail (entryField ++ " expected " ++ toString byteLen ++ " bytes, consumed " ++
        toString (byteLen - remaining))
    else return ⟨nextOffset, nextOffset, reached.states.insert identity state⟩
  else return { reached with offset := nextOffset }

def binReadIndexedStateMap (field : String) (selectedIds : Option (ExtTreeSet Int64)) :
    Reader StateMap := do
  let len ← binReadUsize field
  binVecWithCapacity 16 len field
  let index ← readItems (fun itemIndex => do
    let identity ← binReadI64 (field ++ "[" ++ toString itemIndex ++ "].id")
    return (identity, ← binReadUsize (field ++ "[" ++ toString identity ++ "].byte_len"))) 0 len
  let dataStart ← streamPosition
  let reached ← index.foldlM (binReadIndexedEntry field selectedIds) ⟨dataStart, dataStart, ∅⟩
  if reached.readerPosition ≠ reached.offset then
    seekTo reached.offset ("failed to seek past Rust checkpoint field " ++ field)
  return reached.states

/-- Everything a checkpoint holds, the generator still as the bytes of its torch state. -/
structure CheckpointContents where
  firstDayOffset : Option Binary64
  prevDayOffset : Option Binary64
  cardCount : UInt64
  cardSet : ExtTreeSet Int64
  lastNewCards : ExtTreeMap Int64 UInt64
  i : Int64
  lastI : ExtTreeMap Int64 Int64
  today : Binary64
  todayReviews : Int64
  todayNewCards : Int64
  card2firstDayOffset : ExtTreeMap Int64 Binary64
  card2elapsedDaysCumulative : ExtTreeMap Int64 Binary64
  card2elapsedSecondsCumulative : ExtTreeMap Int64 Binary64
  idEncodings : IdEncodings Binary32
  rngState : List UInt8
  cardStates : StateMap
  noteStates : StateMap
  deckStates : StateMap
  presetStates : StateMap
  globalState : Option (NativeRnnModuleState Binary32)

/-- The first version stores no card count; it is the size of the card set. -/
def readContentsV1 : Reader CheckpointContents := do
  let firstDayOffset ← binReadOptionF64 "first_day_offset"
  let prevDayOffset ← binReadOptionF64 "prev_day_offset"
  let cardSet ← binReadI64SetSelected "card_set" none
  let lastNewCards ← binReadI64UsizeMapSelected "last_new_cards" none
  let i ← binReadI64 "i"
  let lastI ← binReadI64I64MapSelected "last_i" none
  let today ← binReadF64 "today"
  let todayReviews ← binReadI64 "today_reviews"
  let todayNewCards ← binReadI64 "today_new_cards"
  let card2firstDayOffset ← binReadI64F64MapSelected "card2first_day_offset" none
  let card2elapsedDaysCumulative ← binReadI64F64MapSelected "card2elapsed_days_cumulative" none
  let card2elapsedSecondsCumulative ←
    binReadI64F64MapSelected "card2elapsed_seconds_cumulative" none
  let idEncodings ← binReadIdEncodingsSelected none
  let rngState ← binReadBytes "torch_rng_state"
  let cardStates ← binReadStateMap "card_states"
  let noteStates ← binReadStateMap "note_states"
  let deckStates ← binReadStateMap "deck_states"
  let presetStates ← binReadStateMap "preset_states"
  let globalState ← binReadOptionalState "global_state"
  return {
    firstDayOffset, prevDayOffset, cardCount := UInt64.ofNat cardSet.size, cardSet, lastNewCards, i
    lastI, today, todayReviews, todayNewCards, card2firstDayOffset, card2elapsedDaysCumulative
    card2elapsedSecondsCumulative, idEncodings, rngState, cardStates, noteStates, deckStates
    presetStates, globalState }

def readContentsV2 (scope : Option CheckpointScope) : Reader CheckpointContents := do
  let cardIds := scope.map CheckpointScope.cardIds
  let firstDayOffset ← binReadOptionF64 "first_day_offset"
  let prevDayOffset ← binReadOptionF64 "prev_day_offset"
  let cardCount ← binReadUsize "card_count"
  let cardSet ← binReadI64SetSelected "card_set" cardIds
  let lastNewCards ← binReadI64UsizeMapSelected "last_new_cards" cardIds
  let i ← binReadI64 "i"
  let lastI ← binReadI64I64MapSelected "last_i" cardIds
  let today ← binReadF64 "today"
  let todayReviews ← binReadI64 "today_reviews"
  let todayNewCards ← binReadI64 "today_new_cards"
  let card2firstDayOffset ← binReadI64F64MapSelected "card2first_day_offset" cardIds
  let card2elapsedDaysCumulative ←
    binReadI64F64MapSelected "card2elapsed_days_cumulative" cardIds
  let card2elapsedSecondsCumulative ←
    binReadI64F64MapSelected "card2elapsed_seconds_cumulative" cardIds
  let idEncodings ← binReadIdEncodingsSelected scope
  let rngState ← binReadBytes "torch_rng_state"
  let cardStates ← binReadIndexedStateMap "card_states" cardIds
  let noteStates ← binReadIndexedStateMap "note_states" (scope.map CheckpointScope.noteIds)
  let deckStates ← binReadIndexedStateMap "deck_states" (scope.map CheckpointScope.deckIds)
  let presetStates ← binReadIndexedStateMap "preset_states" (scope.map CheckpointScope.presetIds)
  let globalState ← binReadOptionalState "global_state"
  return {
    firstDayOffset, prevDayOffset, cardCount := UInt64.ofNat cardCount, cardSet, lastNewCards, i
    lastI, today, todayReviews, todayNewCards, card2firstDayOffset, card2elapsedDaysCumulative
    card2elapsedSecondsCumulative, idEncodings, rngState, cardStates, noteStates, deckStates
    presetStates, globalState }

def checkpointBinMagic : List UInt8 := "RWKVPCPUBINCHK1".toUTF8.toList

def checkpointBinVersion : Nat := 2

def legacyCheckpointBinVersion : Nat := 1

/-- The version of a file, once its header and metadata are read. -/
def readHeader : Reader Nat := do
  let magic ← binReadExact checkpointBinMagic.length "binary checkpoint magic"
  if magic ≠ checkpointBinMagic then fail "unsupported Rust binary checkpoint magic"
  else
    let version ← binReadU32 "binary checkpoint version"
    if version ≠ legacyCheckpointBinVersion ∧ version ≠ checkpointBinVersion then
      fail ("unsupported Rust binary checkpoint version " ++ toString version ++ ", expected " ++
        toString legacyCheckpointBinVersion ++ " or " ++ toString checkpointBinVersion)
    else
      let metadataLen ← binReadUsize "metadata_json"
      let _metadata ← binReadExact metadataLen "binary checkpoint metadata"
      return version

end RwkvSrs.CheckpointReader
