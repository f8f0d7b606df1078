import RwkvSrs.BatchAccount
import RwkvSrs.BatchedPrediction
import RwkvSrs.DirectPaths
import RwkvSrs.PredictionPurity

/-!
The rows of a batched prediction. A batchable row has the same features in every
path, and the batch forward is assumed to answer it like the forward of one row.
Any other row is answered by the scalar call itself.
-/

namespace RwkvSrs.BatchedRows

open Std RwkvSrs.FallibleMethod RwkvSrs.FeatureScaling RwkvSrs.ReviewInput
open RwkvSrs.DeterministicState RwkvSrs.DeterministicUndo RwkvSrs.DeterministicTouch
open RwkvSrs.ModuleState RwkvSrs.NativeRnnState RwkvSrs.BatchJournal RwkvSrs.DirectFeatures
open RwkvSrs.DirectAgreement RwkvSrs.DirectPaths RwkvSrs.BatchAccount RwkvSrs.ResultSteps
open RwkvSrs.BatchedPrediction RwkvSrs.PredictionPurity
open RwkvSrs.ReviewProcessing
  (SrsReviewState stateInputs appendStateInput tensorFromFeatureVector validateNumThreads)

set_option autoImplicit false
set_option linter.unusedSectionVars false

variable {F V Logits : Type} [Float64Ops F] [Float32Ops V]

section Features

variable [ExactFeatureFloat F V] {state : FeatureState F V} {input : ReviewInput F}

structure Batchable (state : FeatureState F V) (input : ReviewInput F) : Prop where
  accepted : canBatchPredict state (preparePredictRow state input) = .ok true

def queryFeatures (state : FeatureState F V) (input : ReviewInput F) : List V :=
  directCardFeatures input (reviewValues state input) ++
    storedEncodings state (normalizedReviewIds input) idSubmodules ++
    dayOffsetEncoding (reviewValues state input).dayOffset (reviewValues state input).dayOffsetFirst

theorem prepared_input (state : FeatureState F V) (input : ReviewInput F) :
    preparedInput state input =
      .ok (preparePredictRow state input, normalizedReviewIds input) := by
  unfold preparedInput
  simp only [(row_ids_of_int (predict_row_id state input)).2]
  rfl

theorem batchable_or_not (state : FeatureState F V) (input : ReviewInput F) :
    Batchable state input ∨
      canBatchPredict state (preparePredictRow state input) = .ok false := by
  cases found : decide ((idSubmodules.any fun submodule =>
      submodule.key (normalizedReviewIds input) ∉ state.idEncodings submodule) = false ∧
    recurrentKeysHave state.recurrentStateKeys (normalizedReviewIds input) = true) with
  | true => exact Or.inl ⟨(can_batch_row state input).trans (congrArg _ found)⟩
  | false => exact Or.inr ((can_batch_row state input).trans (congrArg _ found))

theorem batchable_parts (batchable : Batchable state input) :
    Stored state (normalizedReviewIds input) idSubmodules ∧
      recurrentKeysHave state.recurrentStateKeys (normalizedReviewIds input) = true := by
  have accepted := batchable.accepted
  rw [can_batch_row] at accepted
  have present := of_decide_eq_true (Except.ok.inj accepted)
  exact ⟨stored_of_present present.1, present.2⟩

theorem predict_day_features (state : FeatureState F V) (input : ReviewInput F) :
    dayOffsetFeatures (preparePredictRow state input) = .ok
      (dayOffsetEncoding (reviewValues state input).dayOffset
        (reviewValues state input).dayOffsetFirst : List V) :=
  day_features (lane_no_days _ _ _ _ _)

theorem batchable_feature_vector (batchable : Batchable state input) :
    (do
      let features ← cardFeatures (preparePredictRow state input)
      let features ← idSubmodules.foldlM (encodingsOfRow state (preparePredictRow state input))
        features
      return features ++ (← dayOffsetFeatures (preparePredictRow state input)) :
      Except String (List V)) = .ok (queryFeatures state input) := by
  have folded := encodings_fold (predict_row_id state input) (batchable_parts batchable).1
    (directCardFeatures input (reviewValues state input))
  apply bind_ok.mpr
  refine ⟨_, predict_card_features state input, ?_⟩
  apply bind_ok.mpr
  refine ⟨_, folded, ?_⟩
  apply bind_ok.mpr
  exact ⟨_, predict_day_features state input, rfl⟩

theorem batchable_feature_vectors {inputs : List (ReviewInput F)}
    (batchable : ∀ input ∈ inputs, Batchable state input) :
    featureVectors state (inputs.map (preparePredictRow state)) =
      .ok (inputs.map (queryFeatures state)) := by
  induction inputs with
  | nil => rfl
  | cons input inputs ih =>
      have first := batchable_feature_vector (batchable input (by simp))
      have rest := ih fun other member => batchable other (List.mem_cons_of_mem _ member)
      unfold featureVectors at rest ⊢
      rw [List.map_cons, List.mapM_cons, rest]
      apply bind_ok.mpr
      exact ⟨_, first, rfl⟩

theorem stored_scalar_features (stored : Stored state (normalizedReviewIds input) idSubmodules) :
    predictFeatureVector (preparePredictRow state input) state =
      (.ok (queryFeatures state input), state) := by
  have vector := predict_vector state (predict_row_id state input)
    (predict_card_features state input) (predict_day_features state input)
  exact vector.1 _ _ (encode_all_of_stored true stored)

theorem batchable_scalar_features (batchable : Batchable state input) :
    predictFeatureVector (preparePredictRow state input) state =
      (.ok (queryFeatures state input), state) :=
  stored_scalar_features (batchable_parts batchable).1

theorem query_features_nonempty (state : FeatureState F V) (input : ReviewInput F) :
    (queryFeatures state input : List V) ≠ [] := by
  simp [queryFeatures, directCardFeatures]

/-- The direct call answers a batchable row exactly when the row has its 92 values. -/
theorem direct_batchable (batchable : Batchable state input) (found : Option (List V × ReviewIds)) :
    directPredictFeatures state input = .ok found ↔
      (queryFeatures state input : List V).length = 92 ∧
        found = some (queryFeatures state input, normalizedReviewIds input) := by
  rcases direct_predict state input with ⟨unbatchable, _⟩ | ⟨_, features, vectors, direct⟩
  · rw [batchable.accepted] at unbatchable
    cases unbatchable
  · have made : featureVectors state ([input].map (preparePredictRow state)) =
        .ok ([input].map (queryFeatures state)) := by
      apply batchable_feature_vectors
      intro other member
      exact List.mem_singleton.mp member ▸ batchable
    rw [List.map_cons, List.map_nil, vectors] at made
    cases made
    rw [direct]
    by_cases length : (queryFeatures state input : List V).length = 92
    · simp [length, eq_comm]
    · simp [length]

theorem direct_unbatchable
    (unbatchable : canBatchPredict state (preparePredictRow state input) = .ok false) :
    directPredictFeatures state input = .ok none := by
  rcases direct_predict state input with ⟨_, direct⟩ | ⟨batchable, _⟩
  · exact direct
  · rw [batchable] at unbatchable
    cases unbatchable

theorem query_features_length (sized : EncodingsSized state) (batchable : Batchable state input) :
    (queryFeatures state input).length = 92 := by
  have encoded := stored_length sized (batchable_parts batchable).1
  simp [queryFeatures, card_features_length, day_offset_encoding_length, encoded]
  rfl

end Features

section States

variable {rnn : NativeRnn V} {ids : ReviewIds}

def rowStates (rnn : NativeRnn V) (ids : ReviewIds) : List (Option (NativeRnnModuleState V)) :=
  [(rnn.states .card)[ids.1]?, (rnn.states .note)[ids.2.1]?, (rnn.states .deck)[ids.2.2.1]?,
    (rnn.states .preset)[ids.2.2.2]?, rnn.globalState]

def layersOf (layers : NativeRnnModuleState V → List (Tensor V))
    (state : Option (NativeRnnModuleState V)) : List (Tensor V) :=
  match state with
  | some state => layers state
  | none => []

theorem append_inputs (states : List (Option (NativeRnnModuleState V)))
    (inputs : SrsReviewState V) :
    states.foldl appendStateInput inputs =
      ⟨inputs.timeXShiftB1cByModule ++ states.map (layersOf (·.timeXShiftB1cByLayer)),
        inputs.timeStateB1hkkByModule ++ states.map (layersOf (·.timeStateB1hkkByLayer)),
        inputs.channelStateB1cByModule ++ states.map (layersOf (·.channelStateB1cByLayer))⟩ := by
  induction states generalizing inputs with
  | nil => simp
  | cons state states ih =>
      rw [List.foldl_cons, ih]
      cases state <;> simp [appendStateInput, layersOf]

theorem state_inputs_modules :
    stateInputs rnn ids = ⟨(rowStates rnn ids).map (layersOf (·.timeXShiftB1cByLayer)),
      (rowStates rnn ids).map (layersOf (·.timeStateB1hkkByLayer)),
      (rowStates rnn ids).map (layersOf (·.channelStateB1cByLayer))⟩ := by
  obtain ⟨cardId, noteId, deckId, presetId⟩ := ids
  exact append_inputs _ _

end States

section Network

variable (network : PredictionNetwork F V Logits)

/-- What the forward of one row answers, given all its states. -/
def rowProbability (mode : PredictManyForwardMode) (features : List V)
    (states : SrsReviewState V) : Except String F := do
  let inputs := if ← network.requiresState mode then some states else none
  let logits ← network.predictForward mode features inputs
  network.probabilityFromLogits logits

def batchOutcome (logits : Except String Logits) : Except String (List F) := do
  network.probabilitiesFromLogits (← logits)

def RowAnswer (mode : PredictManyForwardMode) (row : List V × SrsReviewState V) (value : F) : Prop :=
  rowProbability network mode row.1 row.2 = .ok value

/-- Where the states of a row hold the module a forward passes through at `moduleIndex`. -/
def stateIndex (moduleIndex : Nat) : Nat :=
  match moduleIndex with
  | 1 => 2
  | 2 => 1
  | other => other

def moduleInput (moduleIndex : Nat) (states : SrsReviewState V) : NativeRnnModuleState V :=
  ⟨states.timeXShiftB1cByModule.getD (stateIndex moduleIndex) [],
    states.timeStateB1hkkByModule.getD (stateIndex moduleIndex) [],
    states.channelStateB1cByModule.getD (stateIndex moduleIndex) []⟩

/-- The batch forwards answer row by row what the forward of one row answers. -/
structure RowWise : Prop where
  batch : ∀ (mode : PredictManyForwardMode) (rows : List (List V × SrsReviewState V))
    (given : Option (List (SrsReviewState V))) (values : List F), rows ≠ [] →
    (given = some (rows.map Prod.snd) ∨ network.requiresState mode = .ok false ∧ given = none) →
    (batchOutcome network (network.batchForward mode (rows.map Prod.fst) given) = .ok values ↔
      List.Forall₂ (RowAnswer network mode) rows values)
  modulewise : ∀ (rows : List (List V × SrsReviewState V))
    (states : Nat → Except String (List (NativeRnnModuleState V))) (values : List F), rows ≠ [] →
    (∀ moduleIndex given, states moduleIndex = .ok given →
      given = rows.map fun row => moduleInput moduleIndex row.2) →
    batchOutcome network (network.lightningModulewiseForward (rows.map Prod.fst) states) =
      .ok values → List.Forall₂ (RowAnswer network .lightning) rows values
  modulewiseRuns : ∀ (rows : List (List V × SrsReviewState V))
    (states : Nat → Except String (List (NativeRnnModuleState V))) (values : List F), rows ≠ [] →
    (∀ moduleIndex < 5, states moduleIndex =
      .ok (rows.map fun row => moduleInput moduleIndex row.2)) →
    List.Forall₂ (RowAnswer network .lightning) rows values →
    batchOutcome network (network.lightningModulewiseForward (rows.map Prod.fst) states) =
      .ok values

theorem module_input_of {rnn : NativeRnn V} {ids : ReviewIds} {moduleIndex : Nat}
    {state : NativeRnnModuleState V}
    (here : (rowStates rnn ids)[stateIndex moduleIndex]? = some (some state)) :
    moduleInput moduleIndex (stateInputs rnn ids) = state := by
  rw [state_inputs_modules]
  simp [moduleInput, List.getD_eq_getElem?_getD, here, layersOf]

variable [ExactFeatureFloat F V] {mode : PredictManyForwardMode} {model : ModelState F V}
  {input : ReviewInput F} {value : F}

/-- What the scalar prediction answers to a row where the states are materialized. -/
def Answered (mode : PredictManyForwardMode) (model : ModelState F V) (input : ReviewInput F)
    (value : F) : Prop :=
  (predictPreparedRowProbability network mode (preparePredictRow model.1 input)
    (normalizedReviewIds input) model).1 = .ok value

theorem row_inputs_forward (rnn : NativeRnn V) (ids : ReviewIds) (features : List V) :
    (rowInputs network rnn mode ids >>= fun inputs =>
      network.predictForward mode features inputs >>= network.probabilityFromLogits) =
      rowProbability network mode features (stateInputs rnn ids) := by
  unfold rowInputs rowProbability
  cases network.requiresState mode with
  | error message => rfl
  | ok needed => cases needed <;> rfl

theorem scalar_run_of_features {features : List V} {reached : FeatureState F V}
    (made : predictFeatureVector (preparePredictRow model.1 input) model.1 =
      (.ok features, reached)) :
    predictPreparedRowProbability network mode (preparePredictRow model.1 input)
        (normalizedReviewIds input) model =
      (lift (tensorFromFeatureVector features "predict_features" >>= fun features =>
        rowProbability network mode features (stateInputs model.2 (normalizedReviewIds input))) :
        Method (ModelState F V) F) (reached, model.2) := by
  have first : onFeatures (predictFeatureVector (preparePredictRow model.1 input)) model =
      (.ok features, (reached, model.2)) := by
    unfold onFeatures onPart
    rw [made]
  unfold predictPreparedRowProbability
  rw [bind_of_ok first]
  cases tensorFromFeatureVector features "predict_features" with
  | error message => rfl
  | ok features =>
      rw [bind_of_ok (lift_ok _ _), bind_of_ok (rfl : onRnn current (reached, model.2) = _)]
      simp only [lift_lift, row_inputs_forward]
      rfl

theorem answered_features :
    Answered network mode model input value ↔
      ∃ features, (predictFeatureVector (preparePredictRow model.1 input) model.1).1 =
          .ok features ∧ features ≠ [] ∧
        rowProbability network mode features
          (stateInputs model.2 (normalizedReviewIds input)) = .ok value := by
  unfold Answered
  match made : predictFeatureVector (preparePredictRow model.1 input) model.1 with
  | (.error failure, reached) =>
      have stopped : onFeatures (predictFeatureVector (preparePredictRow model.1 input)) model =
          (.error failure, (reached, model.2)) := by
        unfold onFeatures onPart
        rw [made]
      unfold predictPreparedRowProbability
      rw [bind_of_error stopped]
      simp
  | (.ok features, reached) =>
      rw [scalar_run_of_features network made]
      cases features with
      | nil => simp [tensorFromFeatureVector, bind, Except.bind]
      | cons first rest =>
          change (lift (rowProbability network mode (first :: rest)
            (stateInputs model.2 (normalizedReviewIds input))) (reached, model.2)).1 = _ ↔ _
          cases answer : rowProbability network mode (first :: rest)
              (stateInputs model.2 (normalizedReviewIds input)) <;> simp [answer]

theorem answered_batchable (batchable : Batchable model.1 input) :
    Answered network mode model input value ↔
      RowAnswer network mode
        (queryFeatures model.1 input, stateInputs model.2 (normalizedReviewIds input)) value := by
  rw [answered_features, batchable_scalar_features batchable]
  constructor
  · rintro ⟨features, made, _, answer⟩
    cases made
    exact answer
  · intro answer
    exact ⟨_, rfl, query_features_nonempty model.1 input, answer⟩

end Network

end RwkvSrs.BatchedRows
