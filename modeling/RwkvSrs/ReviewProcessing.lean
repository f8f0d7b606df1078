import RwkvSrs.BatchJournal

/-!
Processing reviews one at a time on the CPU. A review is predicted from its
query row, then its process row is run through the network, the five next
states are stored and the review is recorded. The network is an arbitrary
function of the features and of the states of the review's identities.
-/

namespace RwkvSrs.ReviewProcessing

open Std RwkvSrs.FallibleMethod RwkvSrs.FeatureScaling RwkvSrs.ReviewInput
open RwkvSrs.DeterministicState RwkvSrs.DeterministicUndo RwkvSrs.DeterministicTouch
open RwkvSrs.ModuleState RwkvSrs.NativeRnnState RwkvSrs.BatchJournal

set_option autoImplicit false
set_option linter.unusedSectionVars false

/-- Time x-shift, time recurrent and channel tensors of each module, layer by layer. -/
structure SrsReviewState (V : Type) where
  timeXShiftB1cByModule : List (List (Tensor V))
  timeStateB1hkkByModule : List (List (Tensor V))
  channelStateB1cByModule : List (List (Tensor V))

def srsReviewStateModules : Nat := 5

section States

variable {V : Type}

def appendStateInput (inputs : SrsReviewState V) (state : Option (NativeRnnModuleState V)) :
    SrsReviewState V :=
  match state with
  | some state => ⟨inputs.timeXShiftB1cByModule ++ [state.timeXShiftB1cByLayer],
      inputs.timeStateB1hkkByModule ++ [state.timeStateB1hkkByLayer],
      inputs.channelStateB1cByModule ++ [state.channelStateB1cByLayer]⟩
  | none => ⟨inputs.timeXShiftB1cByModule ++ [[]], inputs.timeStateB1hkkByModule ++ [[]],
      inputs.channelStateB1cByModule ++ [[]]⟩

def stateInputs (rnn : NativeRnn V) (ids : ReviewIds) : SrsReviewState V :=
  let (cardId, noteId, deckId, presetId) := ids
  [(rnn.states .card)[cardId]?, (rnn.states .note)[noteId]?, (rnn.states .deck)[deckId]?,
    (rnn.states .preset)[presetId]?, rnn.globalState].foldl appendStateInput ⟨[], [], []⟩

def nativeModuleStateFromParts (timeXShift timeState channelState : List (Tensor V))
    (name : String) : Except String (NativeRnnModuleState V) :=
  if timeXShift.length ≠ timeState.length ∨ timeXShift.length ≠ channelState.length then
    .error (s!"{name} expected time x-shift, time recurrent, and channel state layer counts to " ++
      s!"match, got {timeXShift.length}, {timeState.length}, and {channelState.length}")
  else .ok ⟨timeXShift, timeState, channelState⟩

def nativeModuleStatesFromReviewOutput (output : SrsReviewState V) :
    Except String (List (NativeRnnModuleState V)) :=
  let counts := [output.timeXShiftB1cByModule.length, output.timeStateB1hkkByModule.length,
    output.channelStateB1cByModule.length]
  if counts.any (· ≠ srsReviewStateModules) then
    .error (s!"native recurrent state expected {srsReviewStateModules} module states, " ++
      s!"got {counts}")
  else
    (((output.timeXShiftB1cByModule.zip output.timeStateB1hkkByModule).zip
      output.channelStateB1cByModule).zipIdx).mapM fun (((timeXShift, timeState), channelState), i) =>
        nativeModuleStateFromParts timeXShift timeState channelState s!"review_state[{i}]"

/-- One state for each keyed module under the review's identity, and the global one. -/
def insertReviewStates (ids : ReviewIds) (state : EntityModule → NativeRnnModuleState V)
    (globalState : NativeRnnModuleState V) (rnn : NativeRnn V) : NativeRnn V where
  states entity := (rnn.states entity).insert (entity.key ids) (state entity)
  globalState := some globalState
  flatStates entity := (rnn.flatStates entity).erase (entity.key ids)
  flatGlobalState := none

def storeReviewStates (ids : ReviewIds) (output : SrsReviewState V) : Method (NativeRnn V) Unit := do
  match ← lift (nativeModuleStatesFromReviewOutput output) with
  | [cardState, noteState, deckState, presetState, globalState] =>
      update (insertReviewStates ids (fun
        | .card => cardState
        | .note => noteState
        | .deck => deckState
        | .preset => presetState) globalState)
  | _ => fail (.panic "review output has five states")

end States

structure SrsReviewOutput (V Logits : Type) where
  aheadLogits : Option Logits
  w : Option Logits
  predictionLogits : Option Logits
  states : SrsReviewState V

structure ReviewNetwork (F V Logits Rows : Type) where
  reviewForward : List V → SrsReviewState V → (returnCurve returnPrediction : Bool) →
    Except String (SrsReviewOutput V Logits)
  predictForward : List V → SrsReviewState V → Except String Logits
  probabilityFromLogits : Logits → Except String F
  toVec2 : Logits → Except String Rows

variable {F V Logits Rows : Type} [Float64Ops F] [Float32Ops V] [FeatureFloat F V]
variable (network : ReviewNetwork F V Logits Rows)

def tensorFromFeatureVector (values : List V) (name : String) : Except String (List V) :=
  if values.isEmpty then .error s!"{name} must not be empty" else .ok values

def validateNumThreads (numThreads : Option Nat) : Except String Unit :=
  if numThreads = some 0 then .error "num_threads must be at least 1" else .ok ()

/-- `predict_prepared_row_probability` in the oracle mode. -/
def predictPreparedRowProbability (predictRow : PreparedRow F) (ids : ReviewIds) :
    Method (ModelState F V) F := do
  let predictFeatures ← onFeatures (predictFeatureVector predictRow)
  let predictFeatures ← lift (tensorFromFeatureVector predictFeatures "predict_features")
  let inputs := stateInputs (← onRnn current) ids
  let logits ← lift (network.predictForward predictFeatures inputs)
  lift (network.probabilityFromLogits logits)

def curveRows (logits : Option Logits) (absent : String) : Method (ModelState F V) Rows :=
  match logits with
  | some logits => lift (network.toVec2 logits)
  | none => fail (.panic absent)

/-- The rows of both curve outputs, read only when curves are returned. -/
def curveOutput (returnCurves : Bool) (output : SrsReviewOutput V Logits) :
    Method (ModelState F V) (Option (Rows × Rows)) := do
  if returnCurves then
    let ahead ← curveRows network output.aheadLogits "curve logits are present when requested"
    let w ← curveRows network output.w "curve weights are present when requested"
    return some (ahead, w)
  else return none

def processPreparedRowWithState (processRow : PreparedRow F) (ids : ReviewIds)
    (returnCurves : Bool) : Method (ModelState F V) (Option (Rows × Rows)) := do
  let processFeatures ← onFeatures (processFeatureVector processRow)
  let processFeatures ← lift (tensorFromFeatureVector processFeatures "process_features")
  let inputs := stateInputs (← onRnn current) ids
  let output ← lift (network.reviewForward processFeatures inputs returnCurves false)
  onRnn (storeReviewStates ids output.states)
  onFeatures (recordRecurrentStateUpdate processRow)
  onFeatures (recordProcessedRow processRow)
  curveOutput network returnCurves output

def processReviewInputWithState (returnCurves : Bool) (input : ReviewInput F) :
    Method (ModelState F V) (F × Option (Rows × Rows)) := do
  let predictRow := preparePredictRow (← onFeatures current) input
  let ids ← lift (reviewIdsFromPrepared predictRow)
  let probability ← predictPreparedRowProbability network predictRow ids
  let processRow ← lift (prepareProcessRow (← onFeatures current) input)
  let curves ← processPreparedRowWithState network processRow ids returnCurves
  return (probability, curves)

def buildStateOnlyInput (input : ReviewInput F) : Method (ModelState F V) Unit := do
  let processRow ← lift (prepareProcessRow (← onFeatures current) input)
  let ids ← lift (reviewIdsFromPrepared processRow)
  let _ ← processPreparedRowWithState network processRow ids false
  return ()

structure NativeProcessManyOutput (F Rows : Type) where
  predictionProbabilities : List F
  curves : Option (List (Rows × Rows))

/-- One turn of a loop that pushes what a review returns. -/
def pushReview (returnCurves : Bool) (output : NativeProcessManyOutput F Rows)
    (review : F × Option (Rows × Rows)) : Method (ModelState F V) (NativeProcessManyOutput F Rows) :=
  if returnCurves then
    match output.curves, review.2 with
    | some curves, some curve =>
        pure ⟨output.predictionProbabilities ++ [review.1], some (curves ++ [curve])⟩
    | none, _ => fail (.panic "curve outputs requested")
    | _, none => fail (.panic "curve logits are present when requested")
  else pure ⟨output.predictionProbabilities ++ [review.1], output.curves⟩

def emptyOutput (returnCurves : Bool) : NativeProcessManyOutput F Rows :=
  ⟨[], if returnCurves then some [] else none⟩

def processReview (returnCurves : Bool) (output : NativeProcessManyOutput F Rows)
    (input : ReviewInput F) : Method (ModelState F V) (NativeProcessManyOutput F Rows) := do
  let review ← processReviewInputWithState network returnCurves input
  pushReview returnCurves output review

def processReviews (returnCurves : Bool) (inputs : List (ReviewInput F)) :
    Method (ModelState F V) (NativeProcessManyOutput F Rows) :=
  inputs.foldlM (processReview network returnCurves) (emptyOutput returnCurves)

def buildState (_ : Unit) (input : ReviewInput F) : Method (ModelState F V) Unit :=
  buildStateOnlyInput network input

def buildStates (inputs : List (ReviewInput F)) : Method (ModelState F V) Nat := do
  inputs.foldlM (buildState network) ()
  return inputs.length

/-- The journal of the batch, captured before `step` and restored when it returns an error. -/
def journaled {Value : Type} (inputs : List (ReviewInput F)) (step : Method (ModelState F V) Value) :
    Method (ModelState F V) Value :=
  restoringOnError (fun before reached =>
    (BatchUndoFrame.capture before (inputs.map normalizedReviewIds)).restore reached) step

def processReviewInputsWithState (inputs : List (ReviewInput F)) (returnCurves : Bool)
    (numThreads : Option Nat) : Method (ModelState F V) (NativeProcessManyOutput F Rows) := do
  lift (validateNumThreads numThreads)
  onRnn materializeFlatCpuState
  journaled inputs (processReviews network returnCurves inputs)

def buildStateOnlyInputsWithState (inputs : List (ReviewInput F)) (numThreads : Option Nat) :
    Method (ModelState F V) Nat := do
  lift (validateNumThreads numThreads)
  onRnn materializeFlatCpuState
  journaled inputs (buildStates network inputs)

end RwkvSrs.ReviewProcessing
