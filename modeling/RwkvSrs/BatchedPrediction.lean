import RwkvSrs.CheckpointReader
import RwkvSrs.DirectFeatures
import RwkvSrs.ReviewProcessing

/-!
Predicting a list of reviews in batches. Rows whose encodings and states exist are
buffered and predicted together; any other row empties the buffer and is predicted
alone. The CPU loop, its parallel form over prepared rows and the three GPU loops
keep the order of the source, with the network and the device as parameters.
-/

namespace RwkvSrs.BatchedPrediction

open Std RwkvSrs.FallibleMethod RwkvSrs.FeatureScaling RwkvSrs.ReviewInput
open RwkvSrs.DeterministicState RwkvSrs.DeterministicUndo RwkvSrs.ModuleState
open RwkvSrs.NativeRnnState RwkvSrs.BatchJournal RwkvSrs.DirectFeatures
open RwkvSrs.ReviewProcessing
  (SrsReviewState stateInputs appendStateInput tensorFromFeatureVector validateNumThreads)
open RwkvSrs.CheckpointReader (CheckpointScope)

set_option autoImplicit false
set_option linter.unusedSectionVars false

inductive PredictManyForwardMode where
  | oracle
  | lightning
deriving DecidableEq

def PredictManyForwardMode.fromLightning (lightning : Bool) : PredictManyForwardMode :=
  if lightning then .lightning else .oracle

/-- The forwards of one row and of a batch; a batch comes with the states of its rows unpacked. -/
structure PredictionNetwork (F V Logits : Type) where
  predictManyLightningModuleLimit : Except String Nat
  predictForward : PredictManyForwardMode → List V → Option (SrsReviewState V) →
    Except String Logits
  batchForward : PredictManyForwardMode → List (List V) → Option (List (SrsReviewState V)) →
    Except String Logits
  lightningModulewiseForward : List (List V) →
    (Nat → Except String (List (NativeRnnModuleState V))) → Except String Logits
  probabilitiesFromLogits : Logits → Except String (List F)

/-- The switches read from the environment. -/
structure PredictManySwitches where
  lightningParallelBatches : Bool
  lightningModulewiseStatePack : Bool
  gpuParallelFeatures : Bool
  gpuPredictionPipeline : Except String Bool

def predictManyLightningParallelMinRows : Nat := 192

variable {F V Logits Device Handle : Type} [Float64Ops F] [Float32Ops V] [FeatureFloat F V]
variable (network : PredictionNetwork F V Logits)

def PredictionNetwork.requiresState : PredictManyForwardMode → Except String Bool
  | .oracle => .ok true
  | .lightning => do return 0 < (← network.predictManyLightningModuleLimit)

def PredictionNetwork.probabilityFromLogits (logits : Logits) : Except String F := do
  match ← network.probabilitiesFromLogits logits with
  | [] => .error "prediction logits have no rows"
  | probability :: _ => return probability

def existingState (rnn : NativeRnn V) (entity : EntityModule) (id : Int64) :
    Except String (NativeRnnModuleState V) :=
  match (rnn.states entity)[id]? with
  | some state => .ok state
  | none => .error s!"missing {entity.name}_states recurrent state for id {id}"

def existingGlobalState (rnn : NativeRnn V) : Except String (NativeRnnModuleState V) :=
  match rnn.globalState with
  | some state => .ok state
  | none => .error "missing global recurrent state"

def existingStates (rnn : NativeRnn V) (globalState : NativeRnnModuleState V) (ids : ReviewIds) :
    Except String (SrsReviewState V) := do
  let card ← existingState rnn .card ids.1
  let note ← existingState rnn .note ids.2.1
  let deck ← existingState rnn .deck ids.2.2.1
  let preset ← existingState rnn .preset ids.2.2.2
  return [some card, some note, some deck, some preset, some globalState].foldl
    appendStateInput ⟨[], [], []⟩

def batchStateInputs (rnn : NativeRnn V) (ids : List ReviewIds) :
    Except String (List (SrsReviewState V)) := do
  if ids.isEmpty then throw "batch_state_inputs requires at least one review id tuple"
  let globalState ← existingGlobalState rnn
  ids.mapM (existingStates rnn globalState)

def batchModuleStateInputs (rnn : NativeRnn V) (ids : List ReviewIds) (moduleIndex : Nat) :
    Except String (List (NativeRnnModuleState V)) :=
  if ids.isEmpty then .error "batch_module_state_inputs requires at least one review id tuple"
  else
    match moduleIndex with
    | 0 => ids.mapM fun ids => existingState rnn .card ids.1
    | 1 => ids.mapM fun ids => existingState rnn .deck ids.2.2.1
    | 2 => ids.mapM fun ids => existingState rnn .note ids.2.1
    | 3 => ids.mapM fun ids => existingState rnn .preset ids.2.2.2
    | 4 => do
        let globalState ← existingGlobalState rnn
        return ids.map fun _ => globalState
    | _ => .error s!"invalid RWKV module index {moduleIndex}"

def tensorFrom2d (values : List (List V)) (name : String) : Except String (List (List V)) :=
  match values with
  | [] => .error s!"{name} must not be empty"
  | row :: _ =>
      if row.isEmpty then .error s!"{name} rows must not be empty"
      else if values.any (·.length ≠ row.length) then .error s!"{name} must be rectangular"
      else .ok values

/-- The states a forward receives: none at all where the mode reads none. -/
def rowInputs (rnn : NativeRnn V) (mode : PredictManyForwardMode) (ids : ReviewIds) :
    Except String (Option (SrsReviewState V)) := do
  if ← network.requiresState mode then return some (stateInputs rnn ids) else return none

def predictPreparedRowProbability (forwardMode : PredictManyForwardMode)
    (predictRow : PreparedRow F) (ids : ReviewIds) : Method (ModelState F V) F := do
  let predictFeatures ← onFeatures (predictFeatureVector predictRow)
  let predictFeatures ← lift (tensorFromFeatureVector predictFeatures "predict_features")
  let inputs ← lift (rowInputs network (← onRnn current) forwardMode ids)
  let logits ← lift (network.predictForward forwardMode predictFeatures inputs)
  lift (network.probabilityFromLogits logits)

/-- `predict_probability_with_state`, which always forwards in the oracle mode. -/
def predictProbabilityWithState (forwardMode : PredictManyForwardMode) (numThreads : Option Nat)
    (input : ReviewInput F) : Method (ModelState F V) F := do
  lift (validateNumThreads numThreads)
  onRnn materializeFlatCpuState
  let predictRow := preparePredictRow (← onFeatures current) input
  let ids ← lift (reviewIdsFromPrepared predictRow)
  predictPreparedRowProbability network forwardMode predictRow ids

structure PredictBatch (F : Type) where
  batchRows : List (PreparedRow F)
  batchIds : List ReviewIds
  predictionProbabilities : List F

def checkedBatch (probabilities : List F) (rows : Nat) : Except String (List F) :=
  if probabilities.length ≠ rows then
    .error s!"batched predict returned {probabilities.length} probabilities for {rows} rows"
  else .ok probabilities

def batchInputs (rnn : NativeRnn V) (mode : PredictManyForwardMode) (ids : List ReviewIds) :
    Except String (Option (List (SrsReviewState V))) := do
  if ← network.requiresState mode then return some (← batchStateInputs rnn ids) else return none

def batchProbabilities (forwardMode : PredictManyForwardMode) (state : ModelState F V)
    (batchRows : List (PreparedRow F)) (batchIds : List ReviewIds) : Except String (List F) := do
  let predictFeatures ← featureVectors state.1 batchRows
  let predictFeatures ← tensorFrom2d predictFeatures "predict_features"
  let inputs ← batchInputs network state.2 forwardMode batchIds
  let logits ← network.batchForward forwardMode predictFeatures inputs
  let probabilities ← network.probabilitiesFromLogits logits
  checkedBatch probabilities batchRows.length

def flushPredictBatch (forwardMode : PredictManyForwardMode) (batch : PredictBatch F) :
    Method (ModelState F V) (PredictBatch F) := do
  if batch.batchRows.isEmpty then return batch
  else
    let probabilities ← lift
      (batchProbabilities network forwardMode (← current) batch.batchRows batch.batchIds)
    return ⟨[], [], batch.predictionProbabilities ++ probabilities⟩

def preparedInput (state : FeatureState F V) (input : ReviewInput F) :
    Except String (PreparedRow F × ReviewIds) := do
  let row := preparePredictRow state input
  return (row, ← reviewIdsFromPrepared row)

/-- One prepared row of the sequential loops. -/
def predictPreparedTurn (forwardMode : PredictManyForwardMode) (batchSize : Nat)
    (batch : PredictBatch F) (prepared : PreparedRow F × ReviewIds) :
    Method (ModelState F V) (PredictBatch F) := do
  if ← lift (canBatchPredict (← onFeatures current) prepared.1) then
    let batch := { batch with
      batchRows := batch.batchRows ++ [prepared.1]
      batchIds := batch.batchIds ++ [prepared.2] }
    if batchSize ≤ batch.batchRows.length then flushPredictBatch network forwardMode batch
    else return batch
  else
    let batch ← flushPredictBatch network forwardMode batch
    let probability ← predictPreparedRowProbability network forwardMode prepared.1 prepared.2
    return { batch with
      predictionProbabilities := batch.predictionProbabilities ++ [probability] }

def predictInputTurn (forwardMode : PredictManyForwardMode) (batchSize : Nat)
    (batch : PredictBatch F) (input : ReviewInput F) :
    Method (ModelState F V) (PredictBatch F) := do
  let prepared ← lift (preparedInput (← onFeatures current) input)
  predictPreparedTurn network forwardMode batchSize batch prepared

def predictPreparedReviewsWithStateSequential (batchSize : Nat)
    (prepared : List (PreparedRow F × ReviewIds)) : Method (ModelState F V) (List F) := do
  let batch ← prepared.foldlM (predictPreparedTurn network .lightning batchSize) ⟨[], [], []⟩
  let batch ← flushPredictBatch network .lightning batch
  return batch.predictionProbabilities

/-- The lightning forward of a batch, which may ask for the states module by module. -/
def lightningLogits (switches : PredictManySwitches) (rnn : NativeRnn V)
    (predictFeatures : List (List V)) (batchIds : List ReviewIds) : Except String Logits :=
  if switches.lightningModulewiseStatePack then
    network.lightningModulewiseForward predictFeatures (batchModuleStateInputs rnn batchIds)
  else do
    let inputs ← batchStateInputs rnn batchIds
    network.batchForward .lightning predictFeatures (some inputs)

def predictPreparedBatchLightning (switches : PredictManySwitches) (state : ModelState F V)
    (prepared : List (PreparedRow F × ReviewIds)) : Except String (List F) := do
  let predictFeatures ← featureVectors state.1 (prepared.map Prod.fst)
  let predictFeatures ← tensorFrom2d predictFeatures "predict_features"
  let logits ← lightningLogits network switches state.2 predictFeatures (prepared.map Prod.snd)
  let probabilities ← network.probabilitiesFromLogits logits
  checkedBatch probabilities prepared.length

/-- `(0..rows).step_by(batch_size)` with the end of each range. -/
def batchRanges (rows batchSize : Nat) : List (Nat × Nat) :=
  (List.range ((rows + batchSize - 1) / batchSize)).map fun block =>
    (block * batchSize, min (block * batchSize + batchSize) rows)

def batchablePrepared (state : FeatureState F V) (input : ReviewInput F) :
    Except String ((PreparedRow F × ReviewIds) × Bool) := do
  let prepared ← preparedInput state input
  return (prepared, ← canBatchPredict state prepared.1)

def predictReviewsWithStateParallelBatches (switches : PredictManySwitches)
    (inputs : List (ReviewInput F)) (batchSize : Nat) (numThreads : Option Nat) :
    Method (ModelState F V) (List F) := do
  let state ← current
  let rows ← lift (inputs.mapM (batchablePrepared state.1))
  let prepared := rows.map Prod.fst
  if prepared.isEmpty then return []
  else if ¬ rows.all Prod.snd ∨ prepared.length < predictManyLightningParallelMinRows ∨
      prepared.length ≤ batchSize ∨ numThreads = some 1 ∨
      ¬ switches.lightningParallelBatches then
    predictPreparedReviewsWithStateSequential network batchSize prepared
  else
    let batches ← lift ((batchRanges prepared.length batchSize).mapM fun range =>
      predictPreparedBatchLightning network switches state
        ((prepared.drop range.1).take (range.2 - range.1)))
    return batches.flatten

def predictReviewInputsCpu (switches : PredictManySwitches) (inputs : List (ReviewInput F))
    (batchSize : Nat) (numThreads : Option Nat) (lightning profiled : Bool) :
    Method (ModelState F V) (List F) := do
  if batchSize < 1 then lift (.error "batch_size must be at least 1")
  else
    lift (validateNumThreads numThreads)
    onRnn materializeFlatCpuState
    if lightning ∧ ¬ profiled ∧ switches.lightningParallelBatches then
      predictReviewsWithStateParallelBatches network switches inputs batchSize numThreads
    else
      let forwardMode := PredictManyForwardMode.fromLightning lightning
      let batch ← inputs.foldlM (predictInputTurn network forwardMode batchSize) ⟨[], [], []⟩
      let batch ← flushPredictBatch network forwardMode batch
      return batch.predictionProbabilities

def predictReviewInputsCpuFastCallerProfiled (switches : PredictManySwitches)
    (inputs : List (ReviewInput F)) (batchSize : Nat) (numThreads : Option Nat) :
    Method (ModelState F V) (List F) := do
  if batchSize < 1 then lift (.error "batch_size must be at least 1")
  else
    lift (validateNumThreads numThreads)
    onRnn materializeFlatCpuState
    predictReviewsWithStateParallelBatches network switches inputs batchSize numThreads

structure GpuFailure where
  message : String
  outOfMemory : Bool

/-- What the predictor answers may depend on everything it was asked before. -/
structure GpuPredictor (F V Device Handle : Type) where
  predictGpu : List (List V) → List ReviewIds → Device → Except GpuFailure (List F) × Device
  submitGpuPrediction : List (List V) → List ReviewIds → Device →
    Except GpuFailure Handle × Device
  collectGpuPrediction : Handle → Device → Except GpuFailure (List F) × Device
  recoverGpuPredictionOom : Device → Except GpuFailure Unit × Device
  beginGpuPredictionPipeline : Device → Except GpuFailure Unit × Device

abbrev GpuMethod (F V Device Value : Type) := Method (ModelState F V × Device) Value

def onModel {Value : Type} (step : Method (ModelState F V) Value) : GpuMethod F V Device Value :=
  onPart Prod.fst (fun model whole => (model, whole.2)) step

def attempt {Value : Type} (step : Device → Except GpuFailure Value × Device) :
    GpuMethod F V Device (Except GpuFailure Value) := fun (model, device) =>
  let (result, reached) := step device
  (.ok result, (model, reached))

def failGpu {Value : Type} (failure : GpuFailure) : GpuMethod F V Device Value :=
  fail (.error failure.message)

def require {Value : Type} (step : Device → Except GpuFailure Value × Device) :
    GpuMethod F V Device Value := do
  match ← attempt step with
  | .ok value => return value
  | .error failure => failGpu failure

structure GpuBatch (F V Handle : Type) where
  batchFeatures : List (List V)
  batchIds : List ReviewIds
  pending : List Handle
  probabilities : List F

variable (predictor : GpuPredictor F V Device Handle)

def predictGpuAdaptive (features : List (List V)) (ids : List ReviewIds) (probabilities : List F) :
    GpuMethod F V Device (List F) := do
  match ← attempt (predictor.predictGpu features ids) with
  | .ok values =>
      if values.length ≠ features.length then
        lift (.error (s!"GPU predict returned {values.length} probabilities for " ++
          s!"{features.length} rows"))
      else return probabilities ++ values
  | .error failure =>
      if many : failure.outOfMemory = true ∧ 1 < features.length then do
        require predictor.recoverGpuPredictionOom
        let midpoint := features.length / 2
        let probabilities ← predictGpuAdaptive (features.take midpoint) (ids.take midpoint)
          probabilities
        predictGpuAdaptive (features.drop midpoint) (ids.drop midpoint) probabilities
      else failGpu failure
termination_by features.length
decreasing_by
  · simp only [List.length_take]
    omega
  · simp only [List.length_drop]
    omega

def flushGpuBatch (batch : GpuBatch F V Handle) : GpuMethod F V Device (GpuBatch F V Handle) := do
  if batch.batchFeatures.isEmpty then return batch
  else
    let probabilities ← predictGpuAdaptive predictor batch.batchFeatures batch.batchIds
      batch.probabilities
    return { batch with batchFeatures := [], batchIds := [], probabilities }

/-- The scalar answer to a row without a direct one; the states are read where they are. -/
def fallbackProbability (input : ReviewInput F) : Method (ModelState F V) F := do
  let row := preparePredictRow (← onFeatures current) input
  let ids ← lift (reviewIdsFromPrepared row)
  predictPreparedRowProbability network .oracle row ids

/-- One row of the GPU loops; `settle` hands the buffer over, `finish` also awaits the answers. -/
def gpuRowTurn (settle finish : GpuBatch F V Handle → GpuMethod F V Device (GpuBatch F V Handle))
    (batchSize : Nat) (batch : GpuBatch F V Handle)
    (row : ReviewInput F × Option (List V × ReviewIds)) :
    GpuMethod F V Device (GpuBatch F V Handle) := do
  match row.2 with
  | some (features, ids) =>
      let batch := { batch with
        batchFeatures := batch.batchFeatures ++ [features]
        batchIds := batch.batchIds ++ [ids] }
      if batch.batchFeatures.length = batchSize then settle batch else return batch
  | none =>
      let batch ← finish batch
      let probability ← onModel (fallbackProbability network row.1)
      return { batch with probabilities := batch.probabilities ++ [probability] }

def directFeatures (input : ReviewInput F) :
    Method (ModelState F V) (Option (List V × ReviewIds)) := do
  lift (directPredictFeatures (← onFeatures current) input)

def gpuInputTurn (batchSize : Nat) (batch : GpuBatch F V Handle) (input : ReviewInput F) :
    GpuMethod F V Device (GpuBatch F V Handle) := do
  let direct ← onModel (directFeatures input)
  gpuRowTurn network (flushGpuBatch predictor) (flushGpuBatch predictor) batchSize batch
    (input, direct)

def directFeaturesOf (inputs : List (ReviewInput F)) :
    Method (ModelState F V) (List (Option (List V × ReviewIds))) := do
  let state ← onFeatures current
  lift (inputs.mapM (directPredictFeatures state))

def consumeGpuInputChunk (batchSize : Nat) (inputs : List (ReviewInput F))
    (batch : GpuBatch F V Handle) : GpuMethod F V Device (GpuBatch F V Handle) := do
  if inputs.isEmpty then return batch
  else
    let directResults ← onModel (directFeaturesOf inputs)
    (inputs.zip directResults).foldlM
      (gpuRowTurn network (flushGpuBatch predictor) (flushGpuBatch predictor) batchSize) batch

/-- One input of the loops that gather chunks of `batchSize` inputs before they consume them. -/
def gatherTurn
    (consume : List (ReviewInput F) → GpuBatch F V Handle →
      GpuMethod F V Device (GpuBatch F V Handle))
    (batchSize : Nat) (gathered : List (ReviewInput F) × GpuBatch F V Handle)
    (input : ReviewInput F) : GpuMethod F V Device (List (ReviewInput F) × GpuBatch F V Handle) := do
  let inputs := gathered.1 ++ [input]
  if inputs.length = batchSize then return ([], ← consume inputs gathered.2)
  else return (inputs, gathered.2)

def emptyGpuBatch : GpuBatch F V Handle := ⟨[], [], [], []⟩

def gatherChunks
    (consume : List (ReviewInput F) → GpuBatch F V Handle →
      GpuMethod F V Device (GpuBatch F V Handle))
    (batchSize : Nat) (inputs : List (ReviewInput F)) :
    GpuMethod F V Device (GpuBatch F V Handle) := do
  let gathered ← inputs.foldlM (gatherTurn consume batchSize) ([], emptyGpuBatch)
  consume gathered.1 gathered.2

/-- Collects what is queued and drops the answers; the first error is kept. -/
def discardPending : List Handle → Device → Option String × Device
  | [], device => (none, device)
  | submitted :: rest, device =>
      match predictor.collectGpuPrediction submitted device with
      | (.ok _, reached) => discardPending rest reached
      | (.error failure, reached) => (some failure.message, (discardPending rest reached).2)

def discardGpuPredictionPipeline (pending : List Handle) : GpuMethod F V Device (Option String) :=
  fun (model, device) =>
    let (cleanup, reached) := discardPending predictor pending device
    (.ok cleanup, (model, reached))

def failAfterDiscard {Value : Type} (pending : List Handle) (failure : GpuFailure)
    (drained : String) : GpuMethod F V Device Value := do
  match ← discardGpuPredictionPipeline predictor pending with
  | some cleanup => failGpu ⟨s!"also failed to drain {drained} GPU prediction: {cleanup}", false⟩
  | none => failGpu failure

def collectOldestGpuPrediction (batch : GpuBatch F V Handle) :
    GpuMethod F V Device (GpuBatch F V Handle) := do
  match batch.pending with
  | [] => fail (.panic "prediction pipeline collection requires a pending chunk")
  | submitted :: rest =>
      match ← attempt (predictor.collectGpuPrediction submitted) with
      | .ok values =>
          return { batch with pending := rest, probabilities := batch.probabilities ++ values }
      | .error failure => failAfterDiscard predictor rest failure "a later"

def drainTimes : Nat → GpuBatch F V Handle → GpuMethod F V Device (GpuBatch F V Handle)
  | 0, batch => return batch
  | queued + 1, batch => do drainTimes queued (← collectOldestGpuPrediction predictor batch)

def drainGpuPredictionPipeline (batch : GpuBatch F V Handle) :
    GpuMethod F V Device (GpuBatch F V Handle) :=
  drainTimes predictor batch.pending.length batch

def submitGpuPredictionPipelineBatch (batch : GpuBatch F V Handle) :
    GpuMethod F V Device (GpuBatch F V Handle) := do
  if batch.batchFeatures.isEmpty then return batch
  else
    match ← attempt (predictor.submitGpuPrediction batch.batchFeatures batch.batchIds) with
    | .ok submitted =>
        let batch := { batch with
          pending := batch.pending ++ [submitted], batchFeatures := [], batchIds := [] }
        if batch.pending.length = 2 then collectOldestGpuPrediction predictor batch
        else return batch
    | .error failure =>
        if failure.outOfMemory = true ∧ 1 < batch.batchFeatures.length then
          let batch ← drainGpuPredictionPipeline predictor batch
          require predictor.recoverGpuPredictionOom
          let probabilities ← predictGpuAdaptive predictor batch.batchFeatures batch.batchIds
            batch.probabilities
          return { batch with batchFeatures := [], batchIds := [], probabilities }
        else failAfterDiscard predictor batch.pending failure "a queued"

def submitAndDrainGpuPredictions (batch : GpuBatch F V Handle) :
    GpuMethod F V Device (GpuBatch F V Handle) := do
  drainGpuPredictionPipeline predictor (← submitGpuPredictionPipelineBatch predictor batch)

/-- The direct features of a chunk, with the queue drained where they cannot be made. -/
def directFeaturesOrDiscard (pending : List Handle) (inputs : List (ReviewInput F)) :
    GpuMethod F V Device (List (Option (List V × ReviewIds))) := do
  let state ← onModel (onFeatures current)
  match inputs.mapM (directPredictFeatures state) with
  | .ok directResults => return directResults
  | .error message =>
      match ← discardGpuPredictionPipeline predictor pending with
      | some _ =>
          lift (.error (s!"while draining queued work after feature construction failed: " ++
            message))
      | none => lift (.error message)

def consumeGpuInputChunkPipelined (batchSize : Nat) (inputs : List (ReviewInput F))
    (batch : GpuBatch F V Handle) : GpuMethod F V Device (GpuBatch F V Handle) := do
  if inputs.isEmpty then return batch
  else
    let directResults ← directFeaturesOrDiscard predictor batch.pending inputs
    (inputs.zip directResults).foldlM
      (gpuRowTurn network (submitGpuPredictionPipelineBatch predictor)
        (submitAndDrainGpuPredictions predictor) batchSize) batch

def requireLoadedScope (scope : CheckpointScope) (input : ReviewInput F) : Except String Unit :=
  let ids := normalizedReviewIds input
  let unavailable := idSubmodules.filter fun submodule =>
    submodule.key ids ∉ scope.idsForSubmodule submodule
  if unavailable.isEmpty then .ok ()
  else
    .error ("Review identity is outside the selectively loaded checkpoint scope: " ++
      ", ".intercalate (unavailable.map fun submodule =>
        s!"{submodule.name}={submodule.key ids}") ++
      ". Reload the checkpoint with this card included or omit cards= to load the full state.")

def requireLoadedScopes (loadedScope : Option CheckpointScope) (inputs : List (ReviewInput F)) :
    Except String Unit :=
  match loadedScope with
  | some scope => inputs.forM (requireLoadedScope scope)
  | none => .ok ()

def predictReviewInputsGpuSequential (inputs : List (ReviewInput F)) (batchSize : Nat) :
    GpuMethod F V Device (GpuBatch F V Handle) := do
  let batch ← inputs.foldlM (gpuInputTurn network predictor batchSize) emptyGpuBatch
  flushGpuBatch predictor batch

def predictReviewInputsGpuParallelFeatures (inputs : List (ReviewInput F)) (batchSize : Nat) :
    GpuMethod F V Device (GpuBatch F V Handle) := do
  let batch ← gatherChunks (consumeGpuInputChunk network predictor batchSize) batchSize inputs
  flushGpuBatch predictor batch

def predictReviewInputsGpuParallelFeaturesPipelined (inputs : List (ReviewInput F))
    (batchSize : Nat) : GpuMethod F V Device (GpuBatch F V Handle) := do
  require predictor.beginGpuPredictionPipeline
  let batch ← gatherChunks (consumeGpuInputChunkPipelined network predictor batchSize) batchSize
    inputs
  submitAndDrainGpuPredictions predictor batch

/-- Whether the call is pipelined; the switch is read only for more rows than one batch. -/
def usesPipeline (switches : PredictManySwitches) (rows batchSize : Nat) : Except String Bool :=
  if batchSize < rows then switches.gpuPredictionPipeline else .ok false

/-- The loop the switches choose. -/
def predictGpuBatches (switches : PredictManySwitches) (loadedScope : Option CheckpointScope)
    (inputs : List (ReviewInput F)) (batchSize : Nat) :
    GpuMethod F V Device (GpuBatch F V Handle) :=
  if switches.gpuParallelFeatures then do
    let pipelined ← lift (usesPipeline switches inputs.length batchSize)
    lift (requireLoadedScopes loadedScope inputs)
    if pipelined then
      predictReviewInputsGpuParallelFeaturesPipelined network predictor inputs batchSize
    else predictReviewInputsGpuParallelFeatures network predictor inputs batchSize
  else do
    lift (requireLoadedScopes loadedScope inputs)
    predictReviewInputsGpuSequential network predictor inputs batchSize

def predictReviewInputsGpu (switches : PredictManySwitches) (loadedScope : Option CheckpointScope)
    (inputs : List (ReviewInput F)) (batchSize : Nat) (numThreads : Option Nat) :
    GpuMethod F V Device (List F) := do
  if batchSize < 1 then lift (.error "batch_size must be at least 1")
  else
    lift (validateNumThreads numThreads)
    let batch ← predictGpuBatches network predictor switches loadedScope inputs batchSize
    return batch.probabilities

end RwkvSrs.BatchedPrediction
