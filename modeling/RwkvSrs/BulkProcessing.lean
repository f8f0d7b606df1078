import RwkvSrs.BulkExecution
import RwkvSrs.ReviewProcessing

/-!
Batches that do not go review by review. The layered bulk executor makes all
features first, then runs one module after the other over all rows and commits
its final states; `process_many` takes the features of all rows from its caller.
-/

namespace RwkvSrs.BulkProcessing

open Std RwkvSrs.FallibleMethod RwkvSrs.FeatureScaling RwkvSrs.ReviewInput
open RwkvSrs.DeterministicState RwkvSrs.DeterministicUndo RwkvSrs.NativeRnnState
open RwkvSrs.BatchJournal RwkvSrs.ReviewProcessing RwkvSrs.PipelineLine RwkvSrs.BulkStreamPlan
open RwkvSrs.BulkExecution

set_option autoImplicit false
set_option linter.unusedSectionVars false

variable {F V Logits Rows : Type} [Float64Ops F] [Float32Ops V] [FeatureFloat F V]

/-- `tensor_from_2d`: a matrix as its rows and its number of columns. -/
def tensorFrom2d (values : List (List V)) (name : String) : Except String (List (List V) × Nat) :=
  match values with
  | [] => .error s!"{name} must not be empty"
  | first :: _ =>
      if first.length = 0 then .error s!"{name} rows must not be empty"
      else if values.any fun row => row.length ≠ first.length then
        .error s!"{name} must be rectangular"
      else .ok (values, first.length)

section Bulk

variable (config : BulkConfig) (network : BulkNetwork F V (Rows × Rows))

def prepassReview (steps : List (BulkFeatureStep V)) (input : ReviewInput F) :
    Method (FeatureState F V) (List (BulkFeatureStep V)) := do
  let step ← featurePrepassStep input
  return steps ++ [step]

def featurePrepass (inputs : List (ReviewInput F)) :
    Method (FeatureState F V) (List (BulkFeatureStep V)) :=
  inputs.foldlM prepassReview []

def featuresToCardRows (features : List (List V)) (tensorName : String) :
    Except String (List (List V)) :=
  features.mapM fun featureRow => do
    let _ ← tensorFrom2d [featureRow] tensorName
    network.features2cardForward featureRow

def bulkExecutionOrder : List SrsModule :=
  [.keyed .card, .keyed .deck, .keyed .note, .keyed .preset, .global]

def executeModule (plan : SrsModule → BulkModuleStreamPlan) (rows : BulkModuleInput V)
    (module : SrsModule) : Method (NativeRnn V) (BulkModuleInput V) := do
  let rnn ← current
  let output ← lift (executeBulkModulePair config network module rnn (plan module) rows)
  update (applyBulkModuleFinalStates module output.finalStates)
  return ⟨output.queryOutputs, output.processOutputs⟩

def bulkCurves (returnCurves : Bool) (processRows : List (List V)) :
    Except String (Option (List (Rows × Rows))) :=
  if returnCurves then do return some (← network.curveOutputs processRows) else .ok none

def processBulkLayeredPrepass (steps : List (BulkFeatureStep V)) (returnCurves : Bool) :
    Method (NativeRnn V) (NativeProcessManyOutput F Rows) := do
  let rnn ← current
  let plan := fun module => BulkModuleStreamPlan.fromIds module rnn (steps.map (·.ids))
  let queryRows ← lift (featuresToCardRows network (steps.map (·.predictFeatures))
    "predict_features")
  let processRows ← lift (featuresToCardRows network (steps.map (·.processFeatures))
    "process_features")
  let rows ← bulkExecutionOrder.foldlM (executeModule config network plan) ⟨queryRows, processRows⟩
  let probabilities ← lift (network.predictionProbabilities rows.queryRows)
  if probabilities.length ≠ steps.length then
    lift (.error (s!"bulk layered predict returned {probabilities.length} probabilities for " ++
      s!"{steps.length} rows"))
  else do
    let curves ← lift (bulkCurves network returnCurves rows.processRows)
    return ⟨probabilities, curves⟩

def processRowsLayered (inputs : List (ReviewInput F)) (returnCurves : Bool) :
    Method (ModelState F V) (NativeProcessManyOutput F Rows) := do
  let steps ← onFeatures (featurePrepass inputs)
  onRnn (processBulkLayeredPrepass config network steps returnCurves)

def processLayered (inputs : List (ReviewInput F)) (returnCurves : Bool) :
    Method (ModelState F V) (NativeProcessManyOutput F Rows) :=
  if inputs.isEmpty then pure (emptyOutput returnCurves)
  else journaled inputs (processRowsLayered config network inputs returnCurves)

/-- The payload arrives parsed, or with the message its parsing failed with. -/
def processReviewsBulkLayeredWithState (payload : Except String (List (ReviewInput F)))
    (returnCurves : Bool) (numThreads : Option Nat) :
    Method (ModelState F V) (NativeProcessManyOutput F Rows) := do
  lift (validateNumThreads numThreads)
  onRnn materializeFlatCpuState
  let inputs ← lift payload
  processLayered config network inputs returnCurves

end Bulk

section ProcessMany

variable (network : ReviewNetwork F V Logits Rows)

structure FeatureRow (V : Type) where
  predictFeature : List V
  processFeature : List V
  ids : ReviewIds

/-- `srs_review_forward`, which always returns the prediction logits. -/
def predictionOutput (logits : Option Logits) : Method (NativeRnn V) F :=
  match logits with
  | some logits => lift (network.probabilityFromLogits logits)
  | none => fail (.panic "prediction logits are present when return_prediction=true")

def logitRows (logits : Option Logits) (absent : String) : Method (NativeRnn V) Rows :=
  match logits with
  | some logits => lift (network.toVec2 logits)
  | none => fail (.panic absent)

def pushCurves (returnCurves : Bool) (output : SrsReviewOutput V Logits)
    (curves : Option (List (Rows × Rows))) :
    Method (NativeRnn V) (Option (List (Rows × Rows))) := do
  if returnCurves then
    match curves with
    | none => fail (.panic "curve outputs requested")
    | some curves =>
        let ahead ← logitRows network output.aheadLogits "curve logits are present when requested"
        let w ← logitRows network output.w "curve weights are present when requested"
        return some (curves ++ [(ahead, w)])
  else return curves

def processFeatureRow (returnCurves : Bool) (made : NativeProcessManyOutput F Rows)
    (row : FeatureRow V) : Method (NativeRnn V) (NativeProcessManyOutput F Rows) := do
  let inputs := stateInputs (← current) row.ids
  let predicted ← lift (network.reviewForward row.predictFeature inputs false true)
  let probability ← predictionOutput network predicted.predictionLogits
  let inputs := stateInputs (← current) row.ids
  let output ← lift (network.reviewForward row.processFeature inputs returnCurves false)
  storeReviewStates row.ids output.states
  let curves ← pushCurves network returnCurves output made.curves
  return ⟨made.predictionProbabilities ++ [probability], curves⟩

def featureRows (predictFeatures processFeatures : List (List V)) (ids : List ReviewIds) :
    List (FeatureRow V) :=
  ((predictFeatures.zip processFeatures).zip ids).map fun ((predict, process), ids) =>
    ⟨predict, process, ids⟩

/-- The checks on the two matrices and the identities before the first row. -/
def checkFeatureRows (predictFeatures processFeatures : List (List V)) (ids : List ReviewIds) :
    Except String (List (FeatureRow V)) := do
  let (predictRows, predictCols) ← tensorFrom2d predictFeatures "predict_features"
  let (processRows, processCols) ← tensorFrom2d processFeatures "process_features"
  if predictRows.length ≠ processRows.length ∨ predictCols ≠ processCols then
    .error (s!"predict_features and process_features must have matching shapes, got " ++
      s!"{[predictRows.length, predictCols]} and {[processRows.length, processCols]}")
  else if ids.length ≠ predictRows.length then
    .error (s!"ids length must match feature rows, got {ids.length} ids for " ++
      s!"{predictRows.length} rows")
  else return featureRows predictRows processRows ids

def processFeatureRows (rows : List (FeatureRow V)) (returnCurves : Bool) :
    Method (NativeRnn V) (NativeProcessManyOutput F Rows) :=
  rows.foldlM (processFeatureRow network returnCurves) (emptyOutput returnCurves)

def processMany (predictFeatures processFeatures : List (List V)) (ids : List ReviewIds)
    (returnCurves : Bool) : Method (NativeRnn V) (NativeProcessManyOutput F Rows) := do
  materializeFlatCpuState
  let rows ← lift (checkFeatureRows predictFeatures processFeatures ids)
  restoringOnError (fun before reached => (BatchRecurrentUndoFrame.capture before ids).restore reached)
    (processFeatureRows network rows returnCurves)

end ProcessMany

end RwkvSrs.BulkProcessing
