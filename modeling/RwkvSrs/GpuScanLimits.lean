import Std.Data.ExtHashMap.Lemmas
import Std.Data.ExtHashSet.Lemmas
import RwkvSrs.CheckpointWriter
import RwkvSrs.GpuScanPlan
import RwkvSrs.ResidentArena

/-!
Resource limits of a GPU scan batch. Before a batch is planned, the longest
prefix of the reviews that fits the device is found with counters that grow
review by review: the identities met in each keyed module, the transforms their
streams need, and the bytes of state and output that are read back. What a batch
demands also depends on where its states stay, which the search does not know.
-/

namespace RwkvSrs.GpuScanLimits

open Std RwkvSrs.CheckpointWriter RwkvSrs.GpuScanPlan RwkvSrs.NativeRnnState
open RwkvSrs.ResidentArena

set_option autoImplicit false

def featureDim : Nat := 92
def channels : Nat := 128
def floatBytes : Nat := 4
def transformElements : Nat := 2 * (4 * 32 * 32)
def stateLayerBytes : Nat := stateLayerElements * floatBytes
def transformBytes : Nat := transformElements * floatBytes

/-- The limits are `usize` values. -/
structure ProcessResourceLimits where
  maxStorageBufferBytes : Nat
  maxBufferBytes : Nat
  maxWorkgroups : Nat
  storageUsize : maxStorageBufferBytes < 2 ^ 64
  bufferUsize : maxBufferBytes < 2 ^ 64

def outputBytesPerReview : GpuProcessScanMode → Nat
  | .curves => (1 + 2 * channels) * floatBytes
  | .predictions => floatBytes
  | .stateOnly => 0

def scanKind : EntityModule → ModuleKind
  | .card => .card
  | .deck => .deck
  | .note => .note
  | .preset => .preset

/-- The order of the source's arrays. -/
def keyedModules : List EntityModule := [.card, .deck, .note, .preset]

/-- The local variables of the search. -/
structure PrefixCounts where
  identities : EntityModule → ExtHashSet Int64
  streamReviews : EntityModule → ExtHashMap Int64 Nat
  moduleTransforms : EntityModule → Nat
  combinedStateBytes : Nat

def PrefixCounts.start : PrefixCounts where
  identities _ := ∅
  streamReviews _ := ∅
  moduleTransforms _ := 0
  combinedStateBytes := 4 * stateLayerBytes

section Search

variable (limits : ProcessResourceLimits) (chunkReviews : Nat) (mode : GpuProcessScanMode)

def maxTransforms : Nat := limits.maxStorageBufferBytes / transformBytes

def nextModuleTransforms (counts : PrefixCounts) (ids : ReviewIds) (module : EntityModule) : Nat :=
  let previousReviews := (counts.streamReviews module).getD (module.key ids) 0
  let nextReviews := previousReviews + 1
  counts.moduleTransforms module +
    ((nextReviews - 1) / chunkReviews - (previousReviews - 1) / chunkReviews)

/-- `none` is the early return of the index. -/
def admitModule (counts : PrefixCounts) (ids : ReviewIds) (newStateBytes : Nat)
    (module : EntityModule) : Option Nat :=
  if nextModuleTransforms chunkReviews counts ids module > maxTransforms limits then none
  else if module.key ids ∈ counts.identities module then some newStateBytes
  else do
    let nextCount := (counts.identities module).size + 1
    let count ← checkedMul nextCount (moduleLayers (scanKind module))
    let requiredBytes ← checkedMul count stateLayerBytes
    if requiredBytes > limits.maxStorageBufferBytes then none
    else do
      let moduleBytes ← checkedMul (moduleLayers (scanKind module)) stateLayerBytes
      checkedAdd newStateBytes moduleBytes

def admitReview (counts : PrefixCounts) (index : Nat) (ids : ReviewIds) : Option PrefixCounts := do
  let newStateBytes ← keyedModules.foldlM (admitModule limits chunkReviews counts ids) 0
  let nextStateBytes ← checkedAdd counts.combinedStateBytes newStateBytes
  let outputBytes ← checkedMul (index + 1) (outputBytesPerReview mode)
  let readbackBytes ← checkedAdd nextStateBytes outputBytes
  if readbackBytes > limits.maxBufferBytes then none
  else if index / chunkReviews > maxTransforms limits then none
  else some {
    identities := fun module => (counts.identities module).insert (module.key ids)
    streamReviews := fun module => (counts.streamReviews module).insert (module.key ids)
      ((counts.streamReviews module).getD (module.key ids) 0 + 1)
    moduleTransforms := nextModuleTransforms chunkReviews counts ids
    combinedStateBytes := nextStateBytes }

/-- The index of the first review that is refused. -/
def searchPrefix (counts : PrefixCounts) (index : Nat) : List ReviewIds → Nat
  | [] => index
  | ids :: rest =>
      match admitReview limits chunkReviews mode counts index ids with
      | none => index
      | some next => searchPrefix next (index + 1) rest

/-- The counters behind reviews of which none is refused. -/
def countReviews (ids : List ReviewIds) : Option PrefixCounts :=
  ids.zipIdx.foldlM (fun counts (ids, index) =>
    admitReview limits chunkReviews mode counts index ids) .start

/-- The bound that holds whatever the reviews name. -/
def maxReviews (count : Nat) : Nat :=
  [mode.rowsPerReview * channels * floatBytes, mode.rowsPerReview * featureDim * floatBytes,
    channels * floatBytes].foldl
      (fun reviews bytesPerReview => min reviews (limits.maxStorageBufferBytes / bytesPerReview))
      (min count (limits.maxWorkgroups / mode.rowsPerReview))

def maxSafeProcessPrefix (ids : List ReviewIds) : Nat :=
  if 4 * stateLayerBytes > limits.maxStorageBufferBytes then 0
  else searchPrefix limits chunkReviews mode .start 0
    (ids.take (maxReviews limits mode ids.length))

/-- The rows of the first attempt at the remaining reviews. -/
def firstAttempt (remainingIds : List ReviewIds) : Except String Nat :=
  let safePrefix := maxSafeProcessPrefix limits chunkReviews mode remainingIds
  if safePrefix = 0 then
    .error "one GPU process review exceeds this adapter's buffer or dispatch limits"
  else .ok (min safePrefix remainingIds.length)

end Search

def alignDown (value alignment : Nat) : Nat := value / alignment * alignment

def alignUp (value alignment : Nat) : Nat := (value + alignment - 1) / alignment * alignment

/-- `ReusableBuffer` accepts a size. -/
def BufferFits (capacity requiredBytes : Nat) : Prop :=
  max requiredBytes 4 ≤ alignDown capacity 4

instance (capacity requiredBytes : Nat) : Decidable (BufferFits capacity requiredBytes) :=
  inferInstanceAs (Decidable (_ ≤ _))

def stateElements (kind : ModuleKind) (plan : ModulePlan) : Nat :=
  plan.keys.length * moduleLayers kind * stateLayerElements

def moduleKinds : List ModuleKind := [.card, .deck, .note, .preset, .global]

/-- Where the states of a batch stay: they are returned to the CPU, or deferred to the working set
that the batch before left on the device, or kept in the arenas. -/
inductive StateResidency where
  | returned
  | workingSet (keys : ModuleKind → List (Option Int64))
  | fullyResident (keys : ModuleKind → List (Option Int64))

/-- The keys of the working set that the batch does not name. -/
def evictedKeys (residency : StateResidency) (kind : ModuleKind) (plan : ModulePlan) :
    List (Option Int64) :=
  match residency with
  | .workingSet keys => (keys kind).filter fun key => !plan.keys.contains key
  | _ => []

/-- The keys of the batch whose states are uploaded. -/
def hostKeys (residency : StateResidency) (kind : ModuleKind) (plan : ModulePlan) :
    List (Option Int64) :=
  match residency with
  | .returned => plan.keys
  | .workingSet keys | .fullyResident keys => plan.keys.filter fun key => !(keys kind).contains key

def hostStateElements (residency : StateResidency) (kind : ModuleKind) (plan : ModulePlan) : Nat :=
  (hostKeys residency kind plan).length * moduleLayers kind * stateLayerElements

def evictedStateElements (residency : StateResidency) (kind : ModuleKind) (plan : ModulePlan) :
    Nat :=
  (evictedKeys residency kind plan).length * moduleLayers kind * stateLayerElements

def readbackStateElements (residency : StateResidency) (kind : ModuleKind) (plan : ModulePlan) :
    Nat :=
  match residency with
  | .fullyResident _ => 0
  | .workingSet _ => evictedStateElements residency kind plan
  | .returned => stateElements kind plan

def addStateBytes (residency : StateResidency) (plans : ModuleKind → ModulePlan) (bytes : Nat)
    (kind : ModuleKind) : Option Nat := do
  let stateBytes ← checkedMul (readbackStateElements residency kind (plans kind)) floatBytes
  checkedAdd (alignUp bytes 4) stateBytes

def processReadbackBytes (residency : StateResidency) (mode : GpuProcessScanMode) (reviews : Nat)
    (plans : ModuleKind → ModulePlan) : Option Nat := do
  let bytes ← checkedMul reviews (outputBytesPerReview mode)
  moduleKinds.foldlM (addStateBytes residency plans) bytes

def returnsPredictions (mode : GpuProcessScanMode) : Bool := mode != .stateOnly

def returnsCurves (mode : GpuProcessScanMode) : Bool := mode == .curves

/-- The demands of a batch and of its five plans, each with the limit it is checked against. The
buffers of the arenas are sized by the arenas themselves. -/
structure WithinLimits (limits : ProcessResourceLimits) (residency : StateResidency)
    (mode : GpuProcessScanMode) (reviews : Nat) (plans : ModuleKind → ModulePlan) : Prop where
  rowWorkgroups : reviews * mode.rowsPerReview ≤ limits.maxWorkgroups
  topologyWorkgroups :
    (reviews * mode.rowsPerReview * channels + 255) / 256 ≤ limits.maxWorkgroups
  entityWorkgroups : ∀ kind, (plans kind).keys.length ≤ limits.maxWorkgroups
  evictedWorkgroups : ∀ kind, (evictedKeys residency kind (plans kind)).length ≤ limits.maxWorkgroups
  transformWorkgroups : ∀ kind, (plans kind).transformMetadata.length ≤ limits.maxWorkgroups
  replayWorkgroups : ∀ kind, (plans kind).finalChunkMetadata.length ≤ limits.maxWorkgroups
  features : BufferFits limits.maxStorageBufferBytes
    (reviews * mode.rowsPerReview * featureDim * floatBytes)
  rowValues : BufferFits limits.maxStorageBufferBytes
    (reviews * mode.rowsPerReview * channels * floatBytes)
  transforms : ∀ kind, BufferFits limits.maxStorageBufferBytes
    (max (plans kind).transformMetadata.length 1 * transformElements * floatBytes)
  probabilities : BufferFits limits.maxStorageBufferBytes
    (if returnsPredictions mode then reviews * floatBytes else 0)
  curves : BufferFits limits.maxStorageBufferBytes
    (if returnsCurves mode then reviews * channels * floatBytes else floatBytes)
  states : ∀ kind, BufferFits limits.maxStorageBufferBytes
    (stateElements kind (plans kind) * floatBytes)
  hostStates : ∀ kind, BufferFits limits.maxStorageBufferBytes
    (hostStateElements residency kind (plans kind) * floatBytes)
  evictedEntities : ∀ kind, BufferFits limits.maxStorageBufferBytes
    ((evictedKeys residency kind (plans kind)).length * 4)
  evictedStates : ∀ kind, BufferFits limits.maxStorageBufferBytes
    (evictedStateElements residency kind (plans kind) * floatBytes)
  stateSources : ∀ kind, BufferFits limits.maxStorageBufferBytes ((plans kind).keys.length * 16)
  rowMetadata : ∀ kind, BufferFits limits.maxStorageBufferBytes
    ((plans kind).rowMetadata.length * 16)
  transformMetadata : ∀ kind, BufferFits limits.maxStorageBufferBytes
    ((plans kind).transformMetadata.length * 16)
  finalChunkMetadata : ∀ kind, BufferFits limits.maxStorageBufferBytes
    ((plans kind).finalChunkMetadata.length * 32)
  permutation : ∀ kind, BufferFits limits.maxStorageBufferBytes
    ((plans kind).sequenceToOriginal.length * 4)
  readback : ∃ bytes, processReadbackBytes residency mode reviews plans = some bytes ∧
    BufferFits limits.maxBufferBytes bytes

/-- What the counters stand for in the plans of the reviews counted so far. -/
structure Accounts (counts : PrefixCounts) (reviews : Nat) (plans : ModuleKind → ModulePlan) :
    Prop where
  entities : ∀ module,
    (counts.identities module).size = (plans (scanKind module)).keys.length
  transforms : ∀ module,
    counts.moduleTransforms module = (plans (scanKind module)).transformMetadata.length
  stateBytes : 0 < reviews → counts.combinedStateBytes =
    (moduleKinds.map fun kind => stateElements kind (plans kind) * floatBytes).sum

end RwkvSrs.GpuScanLimits
