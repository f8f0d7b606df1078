import RwkvSrs.PredictorSlots
import RwkvSrs.ReviewUndo

/-!
The GPU predictor of a runtime: an arena for each module and a cache of the slots
that rows have resolved to. It is built from the CPU states when a prediction
needs it, follows each stored review and each undo, and is dropped when either
does not succeed or when the states change in any other way.
-/

namespace RwkvSrs.PredictorCache

open Std RwkvSrs.FallibleMethod RwkvSrs.DeterministicState RwkvSrs.ModuleState
open RwkvSrs.NativeRnnState RwkvSrs.PredictorArena RwkvSrs.ReviewProcessing RwkvSrs.ReviewUndo

set_option autoImplicit false

variable {V H : Type}

/-- The `[u32; 5]` of a row: the keyed modules and the global state. -/
structure RowSlots where
  keyed : EntityModule → UInt32
  global : UInt32

def RowSlots.valid (slots : RowSlots) : Bool :=
  slots.keyed .card != StateArena.invalidOffset && slots.keyed .deck != StateArena.invalidOffset &&
    slots.keyed .note != StateArena.invalidOffset &&
    slots.keyed .preset != StateArena.invalidOffset && slots.global != StateArena.invalidOffset

structure GpuPredictor (H : Type) where
  states : EntityModule → StateArena H
  globalStates : StateArena H
  slotCache : ExtHashMap ReviewIds RowSlots

/-- What construction takes from the weights and the device. -/
structure PredictorDevice where
  layers : EntityModule → Nat
  globalLayers : Nat
  maxBufferBytes : Nat
  /-- No device binds a buffer with so many states that their slots leave the range of a `u32`. -/
  few : maxBufferBytes / (flatStateLayerElements * 2) < 2 ^ 32 - 1

namespace GpuPredictor

def new [Zero H] (toHalf : V → H) (device : PredictorDevice) (rnn : NativeRnn V) :
    Device (GpuPredictor H) := do
  request
  let arena := fun entity name => StateArena.new toHalf device.maxBufferBytes name
    (device.layers entity) (rnn.states entity) (rnn.flatStates entity)
  let cardStates ← arena .card "rwkv-srs card FP16 states"
  let deckStates ← arena .deck "rwkv-srs deck FP16 states"
  let noteStates ← arena .note "rwkv-srs note FP16 states"
  let presetStates ← arena .preset "rwkv-srs preset FP16 states"
  let globalStates ← StateArena.singleton toHalf device.maxBufferBytes
    "rwkv-srs global FP16 state" device.globalLayers rnn.globalState rnn.flatGlobalState
  request
  return {
    states := fun
      | .card => cardStates
      | .deck => deckStates
      | .note => noteStates
      | .preset => presetStates
    globalStates := globalStates
    slotCache := ∅ }

/-- The slots that the arenas assign to a row. -/
def currentSlots (predictor : GpuPredictor H) (ids : ReviewIds) : RowSlots where
  keyed entity := (predictor.states entity).slot (entity.key ids)
  global := predictor.globalStates.slot 0

def cachedSlots (predictor : GpuPredictor H) (ids : ReviewIds) (useCache : Bool) :
    Option RowSlots :=
  if useCache then predictor.slotCache[ids]? else none

def querySlots (ids : ReviewIds) (useCache : Bool) : Method (GpuPredictor H) RowSlots :=
  fun predictor =>
    match predictor.cachedSlots ids useCache with
    | some slots => (.ok slots, predictor)
    | none =>
        let slots := predictor.currentSlots ids
        if useCache && slots.valid then
          (.ok slots, { predictor with slotCache := predictor.slotCache.insert ids slots })
        else (.ok slots, predictor)

def resolveRow (useCache : Bool) (rowIndex : Nat) (ids : ReviewIds) :
    Method (GpuPredictor H) RowSlots := do
  let rowSlots ← querySlots ids useCache
  if rowSlots.valid then return rowSlots
  else fail (.error s!"GPU prediction row {rowIndex} is missing a recurrent state slot")

def resolveRows (useCache : Bool) (rowIndex : Nat) :
    List ReviewIds → Method (GpuPredictor H) (List RowSlots)
  | [] => pure []
  | ids :: rest => do
      let rowSlots ← resolveRow useCache rowIndex ids
      return rowSlots :: (← resolveRows useCache (rowIndex + 1) rest)

def featureDim : Nat := 92

def checkFeatureRow (row : List V × Nat) : Except String Unit :=
  if row.1.length = featureDim then .ok ()
  else .error s!"GPU feature row {row.2} has {row.1.length} values, expected {featureDim}"

/-- What the device answers to a submission: before the slots are resolved, where the shape of the
launch is chosen, and after it, where buffers are made and the kernel is run and read back. -/
structure Launch where
  shape : Except String Unit
  run : Except String Unit

/-- The slots of the rows as they are uploaded for the kernel. -/
def submitPrediction (features : List (List V)) (ids : List ReviewIds) (useSlotCache : Bool)
    (launch : Launch) : Method (GpuPredictor H) (List RowSlots) := do
  lift (if features.length = ids.length then .ok ()
    else .error "feature and identity row counts do not match")
  lift (if features.isEmpty then .error "cannot submit an empty GPU prediction" else .ok ())
  lift launch.shape
  lift (features.zipIdx.forM checkFeatureRow)
  let slots ← resolveRows useSlotCache 0 ids
  lift launch.run
  return slots

def predict (features : List (List V)) (ids : List ReviewIds) (useSlotCache : Bool)
    (launch : Launch) : Method (GpuPredictor H) (List RowSlots) := do
  lift (if features.length = ids.length then .ok ()
    else .error "feature and identity row counts do not match")
  if features.isEmpty then return [] else submitPrediction features ids useSlotCache launch

def updateReviewStates [Zero H] (toHalf : V → H) (predictor : GpuPredictor H) (ids : ReviewIds)
    (state : EntityModule → NativeRnnModuleState V) (globalState : NativeRnnModuleState V) :
    Device (GpuPredictor H) := do
  let update := fun entity => (predictor.states entity).update toHalf (entity.key ids) (state entity)
  let cardStates ← update .card
  let deckStates ← update .deck
  let noteStates ← update .note
  let presetStates ← update .preset
  let globalStates ← predictor.globalStates.update toHalf 0 globalState
  return { predictor with
    states := fun
      | .card => cardStates
      | .deck => deckStates
      | .note => noteStates
      | .preset => presetStates
    globalStates := globalStates }

/-- The rows of the cache that name no identity whose slot has changed. -/
def retained (ids : ReviewIds) (changed : EntityModule → Bool)
    (slotCache : ExtHashMap ReviewIds RowSlots) : ExtHashMap ReviewIds RowSlots :=
  slotCache.filter fun cached _ =>
    (!changed .card || EntityModule.key .card cached != EntityModule.key .card ids) &&
      (!changed .note || EntityModule.key .note cached != EntityModule.key .note ids) &&
      (!changed .deck || EntityModule.key .deck cached != EntityModule.key .deck ids) &&
      (!changed .preset || EntityModule.key .preset cached != EntityModule.key .preset ids)

def restoreReviewStatesAfterUndo [Zero H] (toHalf : V → H) (predictor : GpuPredictor H)
    (ids : ReviewIds) (state : EntityModule → Option (NativeRnnModuleState V))
    (globalState : Option (NativeRnnModuleState V)) : Device (GpuPredictor H) := do
  let restore := fun entity =>
    (predictor.states entity).restoreAfterUndo toHalf (entity.key ids) (state entity)
  let (cardStates, cardChanged) ← restore .card
  let (deckStates, deckChanged) ← restore .deck
  let (noteStates, noteChanged) ← restore .note
  let (presetStates, presetChanged) ← restore .preset
  let (globalStates, globalChanged) ← predictor.globalStates.restoreAfterUndo toHalf 0 globalState
  let changed := fun
    | EntityModule.card => cardChanged
    | EntityModule.deck => deckChanged
    | EntityModule.note => noteChanged
    | EntityModule.preset => presetChanged
  return {
    states := fun
      | .card => cardStates
      | .deck => deckStates
      | .note => noteStates
      | .preset => presetStates
    globalStates := globalStates
    slotCache :=
      if globalChanged then ∅
      else if cardChanged || noteChanged || deckChanged || presetChanged then
        retained ids changed predictor.slotCache
      else predictor.slotCache }

end GpuPredictor

/-- The part of a runtime that the predictor follows: the CPU states and the recurrent part of the
undo frames, the latest first. -/
structure PredictorRuntime (V H : Type) where
  rnn : NativeRnn V
  gpu : Option (GpuPredictor H)
  undoStack : List (RecurrentUndoFrame V)

section Runtime

variable [Zero H] (toHalf : V → H) (device : PredictorDevice)

def ensureGpu (answers : List (Option String)) : Method (PredictorRuntime V H) Unit :=
  fun runtime =>
    match runtime.gpu with
    | some _ => (.ok (), runtime)
    | none =>
        match GpuPredictor.new toHalf device runtime.rnn answers with
        | .ok (predictor, _) => (.ok (), { runtime with gpu := some predictor })
        | .error message => (.error (.error message), runtime)

def onPredictor {Value : Type} (step : Method (GpuPredictor H) Value) :
    Method (PredictorRuntime V H) Value := fun runtime =>
  match runtime.gpu with
  | some predictor =>
      let (result, reached) := step predictor
      (result, { runtime with gpu := some reached })
  | none => (.error (.panic "GPU predictor initialized"), runtime)

def predictGpu (features : List (List V)) (ids : List ReviewIds) (useSlotCache : Bool)
    (answers : List (Option String)) (launch : GpuPredictor.Launch) :
    Method (PredictorRuntime V H) (List RowSlots) := do
  ensureGpu toHalf device answers
  onPredictor (GpuPredictor.predict features ids useSlotCache launch)

/-- A chunk of a pipelined prediction, which is collected later. -/
def submitGpuPrediction (features : List (List V)) (ids : List ReviewIds) (useSlotCache : Bool)
    (answers : List (Option String)) (launch : GpuPredictor.Launch) :
    Method (PredictorRuntime V H) (List RowSlots) := do
  ensureGpu toHalf device answers
  onPredictor (GpuPredictor.submitPrediction features ids useSlotCache launch)

def orMissing {Value : Type} (value : Option Value) (message : String) : Except String Value :=
  match value with
  | some value => .ok value
  | none => .error message

/-- The predictor is taken out first and put back only after a complete update. -/
def syncGpuReviewStates (ids : ReviewIds) (answers : List (Option String)) :
    Method (PredictorRuntime V H) Unit := fun runtime =>
  match runtime.gpu with
  | none => (.ok (), runtime)
  | some predictor =>
      let taken := { runtime with gpu := none }
      let states : Except String ((EntityModule → NativeRnnModuleState V) ×
          NativeRnnModuleState V) := do
        let card ← orMissing (runtime.rnn.states .card)[EntityModule.key .card ids]?
          "updated card state is missing"
        let note ← orMissing (runtime.rnn.states .note)[EntityModule.key .note ids]?
          "updated note state is missing"
        let deck ← orMissing (runtime.rnn.states .deck)[EntityModule.key .deck ids]?
          "updated deck state is missing"
        let preset ← orMissing (runtime.rnn.states .preset)[EntityModule.key .preset ids]?
          "updated preset state is missing"
        let globalState ← orMissing runtime.rnn.globalState "updated global state is missing"
        return (fun
          | .card => card
          | .deck => deck
          | .note => note
          | .preset => preset, globalState)
      match states with
      | .error message => (.error (.error message), taken)
      | .ok (state, globalState) =>
          match predictor.updateReviewStates toHalf ids state globalState answers with
          | .ok (updated, _) => (.ok (), { runtime with gpu := some updated })
          | .error _ => (.ok (), taken)

def restoreGpuReviewStatesAfterUndo (ids : ReviewIds) (answers : List (Option String)) :
    Method (PredictorRuntime V H) Unit := fun runtime =>
  match runtime.gpu with
  | none => (.ok (), runtime)
  | some predictor =>
      match predictor.restoreReviewStatesAfterUndo toHalf ids
        (fun entity => (runtime.rnn.states entity)[entity.key ids]?) runtime.rnn.globalState
          answers with
      | .ok (restored, _) => (.ok (), { runtime with gpu := some restored })
      | .error _ => (.ok (), { runtime with gpu := none })

/-- What a runtime does to its states and its predictor. -/
inductive PredictorCall (V : Type) where
  | predict (features : List (List V)) (ids : List ReviewIds) (useSlotCache : Bool)
      (answers : List (Option String)) (launch : GpuPredictor.Launch)
  | submit (features : List (List V)) (ids : List ReviewIds) (useSlotCache : Bool)
      (answers : List (Option String)) (launch : GpuPredictor.Launch)
  /-- The end of a review on the CPU. -/
  | storeReviewStates (ids : ReviewIds) (state : EntityModule → NativeRnnModuleState V)
      (globalState : NativeRnnModuleState V) (answers : List (Option String))
  /-- The start of an undoable review: flat states are materialized before the frame is saved. -/
  | captureUndo (ids : ReviewIds)
  /-- A frame is restored, by an undo or by the rollback of a review that failed. -/
  | undo (answers : List (Option String))
  | dropOldestUndo
  | clearUndoHistory
  | materialize
  | invalidateGpu
  /-- Any other change of the states: a batch, a GPU scan or a restored snapshot. -/
  | replaceStates (rnn : NativeRnn V)

def onRnnStates {Value : Type} (step : Method (NativeRnn V) Value) :
    Method (PredictorRuntime V H) Value :=
  onPart PredictorRuntime.rnn (fun rnn runtime => { runtime with rnn := rnn }) step

def undoReview (answers : List (Option String)) : Method (PredictorRuntime V H) Unit := do
  match (← current).undoStack with
  | [] => fail (.error "no undoable process is available")
  | frame :: rest =>
      update fun runtime =>
        { runtime with rnn := frame.restore runtime.rnn, undoStack := rest }
      restoreGpuReviewStatesAfterUndo toHalf frame.ids answers

def PredictorCall.perform : PredictorCall V → Method (PredictorRuntime V H) (List RowSlots)
  | .predict features ids useSlotCache answers launch =>
      predictGpu toHalf device features ids useSlotCache answers launch
  | .submit features ids useSlotCache answers launch =>
      submitGpuPrediction toHalf device features ids useSlotCache answers launch
  | .storeReviewStates ids state globalState answers => do
      update fun runtime => { runtime with rnn := insertReviewStates ids state globalState runtime.rnn }
      syncGpuReviewStates toHalf ids answers
      return []
  | .captureUndo ids => do
      onRnnStates materializeFlatCpuState
      update fun runtime =>
        { runtime with undoStack := captureRecurrent runtime.rnn ids :: runtime.undoStack }
      return []
  | .undo answers => do
      undoReview toHalf answers
      return []
  | .dropOldestUndo => do
      update fun runtime => { runtime with undoStack := runtime.undoStack.dropLast }
      return []
  | .clearUndoHistory => do
      update fun runtime => { runtime with undoStack := [] }
      return []
  | .materialize => do
      onRnnStates materializeFlatCpuState
      return []
  | .invalidateGpu => do
      update fun runtime => { runtime with gpu := none }
      return []
  | .replaceStates rnn => do
      update fun _ => ⟨rnn, none, []⟩
      return []

end Runtime

end RwkvSrs.PredictorCache
