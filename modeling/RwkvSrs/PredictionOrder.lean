import RwkvSrs.ExactNumbers
import RwkvSrs.GpuBatches

/-!
Batched predictions against the scalar call. On the CPU each value is the one the
scalar call gives for its row. On the GPU so is each value of a direct row, but a
row that falls back is answered from canonical states alone, while the scalar call
first materializes what is held flat.
-/

namespace RwkvSrs.PredictionOrder

open Std RwkvSrs.FallibleMethod RwkvSrs.FeatureScaling RwkvSrs.ReviewInput
open RwkvSrs.DeterministicState RwkvSrs.DeterministicUndo RwkvSrs.DeterministicTouch
open RwkvSrs.ModuleState RwkvSrs.NativeRnnState RwkvSrs.BatchJournal RwkvSrs.DirectFeatures
open RwkvSrs.DirectAgreement RwkvSrs.DirectPaths RwkvSrs.BatchAccount RwkvSrs.ResultSteps
open RwkvSrs.BatchedPrediction RwkvSrs.BatchedRows RwkvSrs.CpuBatches RwkvSrs.GpuBatches
open RwkvSrs.ReviewProcessing
  (SrsReviewState stateInputs appendStateInput tensorFromFeatureVector validateNumThreads)
open RwkvSrs.CheckpointReader (CheckpointScope)

set_option autoImplicit false
set_option linter.unusedSectionVars false

variable {F V Logits Device Handle : Type} [Float64Ops F] [Float32Ops V] [ExactFeatureFloat F V]

/-- What the scalar call answers to a row, asked before anything else. -/
def ScalarAnswers (network : PredictionNetwork F V Logits) (mode : PredictManyForwardMode)
    (numThreads : Option Nat) (state : ModelState F V) (input : ReviewInput F) (value : F) : Prop :=
  (predictProbabilityWithState network mode numThreads input state).1 = .ok value

section Scalar

variable {network : PredictionNetwork F V Logits} {mode : PredictManyForwardMode}
  {numThreads : Option Nat} {state model : ModelState F V} {input : ReviewInput F} {value : F}
  {inputs : List (ReviewInput F)}

theorem scalar_answers (threads : validateNumThreads numThreads = .ok ())
    (materialized : onRnn materializeFlatCpuState state = (.ok (), model)) :
    ScalarAnswers network mode numThreads state input value ↔
      Answered network mode model input value := by
  unfold ScalarAnswers predictProbabilityWithState Answered
  rw [threads, bind_of_ok (lift_ok _ _), bind_of_ok materialized,
    bind_of_ok (on_features_current model),
    (row_ids_of_int (predict_row_id model.1 input)).2, bind_of_ok (lift_ok _ _)]

theorem on_rnn_ok {reached : NativeRnn V} (ran : materializeFlatCpuState state.2 = (.ok (), reached)) :
    onRnn materializeFlatCpuState state = (.ok (), (state.1, reached)) := by
  unfold onRnn onPart
  rw [ran]

theorem on_rnn_steps (ran : onRnn materializeFlatCpuState state = (.ok (), model)) :
    model.1 = state.1 ∧ materializeFlatCpuState state.2 = (.ok (), model.2) := by
  unfold onRnn onPart at ran
  match stepped : materializeFlatCpuState state.2 with
  | (result, reached) =>
      rw [stepped] at ran
      cases ran
      exact ⟨rfl, rfl⟩

theorem scalar_in_order {values : List F} (threads : validateNumThreads numThreads = .ok ())
    (materialized : onRnn materializeFlatCpuState state = (.ok (), model))
    (answered : List.Forall₂ (Answered network mode model) inputs values) :
    InOrder (ScalarAnswers network mode numThreads state) inputs values := by
  rw [in_order_iff]
  apply answered.imp
  intro input value answer
  exact (scalar_answers threads materialized).mpr answer

end Scalar

/-- Every state that a batchable row reads is held, and the stored encodings have their size. -/
structure RowsHeld (state : ModelState F V) : Prop where
  sized : EncodingsSized state.1
  held : ∀ ids, recurrentKeysHave state.1.recurrentStateKeys ids = true →
    (∀ entity : EntityModule, ∃ found, state.2.latest entity (entity.key ids) = some found) ∧
      ∃ found, state.2.latestGlobal = some found

section Cpu

variable {network : PredictionNetwork F V Logits} {switches : PredictManySwitches}
  {numThreads : Option Nat} {state model : ModelState F V} {inputs : List (ReviewInput F)}
  {batchSize : Nat} {lightning profiled : Bool}

theorem rows_held_ready (held : RowsHeld state)
    (materialized : onRnn materializeFlatCpuState state = (.ok (), model)) : BatchReady model := by
  obtain ⟨sameFeatures, ran⟩ := on_rnn_steps materialized
  have latest := materialize_latest state.2
  rw [ran] at latest
  have canonical := materialize_ok ran
  constructor
  · rw [sameFeatures]
    exact held.sized
  · intro ids keys
    rw [sameFeatures] at keys
    obtain ⟨states, globalState⟩ := held.held ids keys
    constructor
    · intro entity
      rw [← canonical.latest, latest.keyed]
      exact states entity
    · rw [← canonical.latestGlobal, latest.global]
      exact globalState

theorem cpu_ok_checks {values : List F} {after : ModelState F V}
    (ran : predictReviewInputsCpu network switches inputs batchSize numThreads lightning profiled
      state = (.ok values, after)) :
    validateNumThreads numThreads = .ok () ∧
      ∃ model, onRnn materializeFlatCpuState state = (.ok (), model) := by
  unfold predictReviewInputsCpu at ran
  split at ran
  · cases ran
  · obtain ⟨_, middle, checked, rest⟩ := bind_ok_steps ran
    obtain ⟨threads, same⟩ := lift_ok_value checked
    rw [same] at rest
    obtain ⟨_, model, materialized, _⟩ := bind_ok_steps rest
    exact ⟨threads, model, materialized⟩

theorem profiled_ok_checks {values : List F} {after : ModelState F V}
    (ran : predictReviewInputsCpuFastCallerProfiled network switches inputs batchSize numThreads
      state = (.ok values, after)) :
    validateNumThreads numThreads = .ok () ∧
      ∃ model, onRnn materializeFlatCpuState state = (.ok (), model) := by
  unfold predictReviewInputsCpuFastCallerProfiled at ran
  split at ran
  · cases ran
  · obtain ⟨_, middle, checked, rest⟩ := bind_ok_steps ran
    obtain ⟨threads, same⟩ := lift_ok_value checked
    rw [same] at rest
    obtain ⟨_, model, materialized, _⟩ := bind_ok_steps rest
    exact ⟨threads, model, materialized⟩

theorem cpu_in_order (rowWise : RowWise network) (positive : 0 < batchSize) {values : List F}
    {after : ModelState F V}
    (ran : predictReviewInputsCpu network switches inputs batchSize numThreads lightning profiled
      state = (.ok values, after)) :
    InOrder (ScalarAnswers network (.fromLightning lightning) numThreads state) inputs values := by
  obtain ⟨threads, model, materialized⟩ := cpu_ok_checks ran
  apply scalar_in_order threads materialized
  exact (cpu_reaches rowWise positive threads materialized (Or.inl trivial)
    (Or.inl trivial)).arrives values after ran

theorem profiled_in_order (rowWise : RowWise network) (positive : 0 < batchSize) {values : List F}
    {after : ModelState F V}
    (ran : predictReviewInputsCpuFastCallerProfiled network switches inputs batchSize numThreads
      state = (.ok values, after)) :
    InOrder (ScalarAnswers network .lightning numThreads state) inputs values := by
  obtain ⟨threads, model, materialized⟩ := profiled_ok_checks ran
  apply scalar_in_order threads materialized
  exact (caller_profiled_reaches rowWise positive threads materialized (Or.inl trivial)
    (Or.inl trivial)).arrives values after ran

theorem cpu_returns (rowWise : RowWise network) (positive : 0 < batchSize) (held : RowsHeld state)
    (threads : validateNumThreads numThreads = .ok ())
    (materializes : ∃ model, onRnn materializeFlatCpuState state = (.ok (), model))
    (answers : ∀ input ∈ inputs, ∃ value,
      ScalarAnswers network (.fromLightning lightning) numThreads state input value) :
    ∃ values after, predictReviewInputsCpu network switches inputs batchSize numThreads lightning
      profiled state = (.ok values, after) := by
  obtain ⟨model, materialized⟩ := materializes
  have answered : ∀ input ∈ inputs, ∃ value,
      Answered network (.fromLightning lightning) model input value := by
    intro input member
    obtain ⟨value, answer⟩ := answers input member
    exact ⟨value, (scalar_answers threads materialized).mp answer⟩
  obtain ⟨values, after, ran, _⟩ := reaches_some (cpu_reaches rowWise positive threads materialized
    (Or.inr (rows_held_ready held materialized)) (Or.inr answered))
  exact ⟨values, after, ran⟩

end Cpu

section Gpu

variable {network : PredictionNetwork F V Logits} {predictor : GpuPredictor F V Device Handle}
  {switches : PredictManySwitches} {loadedScope : Option CheckpointScope}
  {numThreads : Option Nat} {state model : ModelState F V} {input : ReviewInput F}
  {inputs : List (ReviewInput F)} {batchSize : Nat} {device : Device} {value : F}

/-- The features of a row can be made: 92 of them where the row is direct. -/
def RowReady (state : ModelState F V) (input : ReviewInput F) : Prop :=
  (Batchable state.1 input → (queryFeatures state.1 input : List V).length = 92) ∧
    ∃ features, (predictFeatureVector (preparePredictRow state.1 input) state.1).1 = .ok features ∧
      features ≠ []

/-- A row that falls back, some of whose states a forward would find only where they are flat. -/
def FlatFallback (state : ModelState F V) (input : ReviewInput F) : Prop :=
  canBatchPredict state.1 (preparePredictRow state.1 input) = .ok false ∧
    stateInputs state.2 (normalizedReviewIds input) ≠
      latestInputs state.2 (normalizedReviewIds input)

/-- The call passes its checks and makes its features, and one of its rows is such a row. -/
structure FlatFallbackCall (switches : PredictManySwitches) (loadedScope : Option CheckpointScope)
    (inputs : List (ReviewInput F)) (batchSize : Nat) (numThreads : Option Nat)
    (state : ModelState F V) : Prop where
  checks : GpuChecks switches loadedScope inputs batchSize numThreads
  ready : ∀ input ∈ inputs, RowReady state input
  flat : ∃ input ∈ inputs, FlatFallback state input

theorem gpu_ok_checks {values : List F} {whole after : ModelState F V × Device}
    (ran : predictReviewInputsGpu network predictor switches loadedScope inputs batchSize numThreads
      whole = (.ok values, after)) :
    GpuChecks switches loadedScope inputs batchSize numThreads := by
  unfold predictReviewInputsGpu at ran
  split at ran
  · cases ran
  · obtain ⟨_, middle, checked, rest⟩ := bind_ok_steps ran
    obtain ⟨batch, reached, batches, _⟩ := bind_ok_steps rest
    have threads := (lift_ok_value checked).1
    unfold predictGpuBatches at batches
    split at batches
    · obtain ⟨pipelined, later, uses, entered⟩ := bind_ok_steps batches
      obtain ⟨_, last, scopes, _⟩ := bind_ok_steps entered
      exact ⟨threads, (lift_ok_value scopes).1, fun _ => ⟨pipelined, (lift_ok_value uses).1⟩⟩
    · rename_i sequential
      obtain ⟨_, last, scopes, _⟩ := bind_ok_steps batches
      exact ⟨threads, (lift_ok_value scopes).1, fun parallel => absurd parallel sequential⟩

theorem served_ready (served : Served network state input value) : RowReady state input := by
  rcases served with ⟨direct, _⟩ | ⟨unbatchable, answered⟩
  · refine ⟨fun _ => direct.length, queryFeatures state.1 input, ?_, ?_⟩
    · rw [batchable_scalar_features direct.batchable]
    · exact query_features_nonempty state.1 input
  · obtain ⟨features, made, nonempty, _⟩ := (answered_features network).mp answered
    refine ⟨?_, features, made, nonempty⟩
    intro batchable
    rw [batchable.accepted] at unbatchable
    cases unbatchable

theorem answered_inputs {other : ModelState F V} (sameFeatures : other.1 = state.1)
    (sameInputs : stateInputs other.2 (normalizedReviewIds input) =
      stateInputs state.2 (normalizedReviewIds input)) :
    Answered network .oracle other input value ↔ Answered network .oracle state input value := by
  rw [answered_features, answered_features, sameFeatures, sameInputs]

/-- Where no state of the row is hidden in flat form, what is served is the scalar answer. -/
theorem served_scalar (threads : validateNumThreads numThreads = .ok ())
    (materialized : onRnn materializeFlatCpuState state = (.ok (), model))
    (seen : ¬FlatFallback state input) :
    Served network state input value ∧ RowReady state input ↔
      ScalarAnswers network .oracle numThreads state input value ∧ RowReady state input := by
  obtain ⟨sameFeatures, ran⟩ := on_rnn_steps materialized
  have latest := materialize_latest state.2
  rw [ran] at latest
  have inputsOf := materialized_inputs latest (materialize_ok ran) (normalizedReviewIds input)
  rw [scalar_answers threads materialized]
  apply and_congr_left
  intro ready
  cases batchable_or_not state.1 input with
  | inl batchable =>
      have batchableModel : Batchable model.1 input := sameFeatures ▸ batchable
      rw [answered_batchable network batchableModel, sameFeatures, inputsOf]
      constructor
      · rintro (⟨_, answer⟩ | ⟨unbatchable, _⟩)
        · exact answer
        · rw [batchable.accepted] at unbatchable
          cases unbatchable
      · intro answer
        exact Or.inl ⟨⟨batchable, ready.1 batchable⟩, answer⟩
  | inr unbatchable =>
      have sameInputs : stateInputs model.2 (normalizedReviewIds input) =
          stateInputs state.2 (normalizedReviewIds input) := by
        rw [inputsOf]
        by_contra differs
        exact seen ⟨unbatchable, fun same => differs same.symm⟩
      rw [answered_inputs sameFeatures sameInputs]
      constructor
      · rintro (⟨direct, _⟩ | ⟨_, answered⟩)
        · rw [direct.batchable.accepted] at unbatchable
          cases unbatchable
        · exact answered
      · intro answered
        exact Or.inr ⟨unbatchable, answered⟩

theorem gpu_in_order (positive : 0 < batchSize)
    (rowWise : RowWiseDevice network state.2 predictor)
    (materializes : ∃ model, onRnn materializeFlatCpuState state = (.ok (), model))
    (seen : ¬FlatFallbackCall switches loadedScope inputs batchSize numThreads state)
    {values : List F} {after : ModelState F V × Device}
    (ran : predictReviewInputsGpu network predictor switches loadedScope inputs batchSize numThreads
      (state, device) = (.ok values, after)) :
    InOrder (ScalarAnswers network .oracle numThreads state) inputs values := by
  obtain ⟨model, materialized⟩ := materializes
  have checks := gpu_ok_checks ran
  have served := (gpu_reaches positive rowWise (Or.inl trivial) (Or.inl trivial)
    (Or.inl trivial)).arrives values after ran
  have ready : ∀ input ∈ inputs, RowReady state input := by
    intro input member
    obtain ⟨value, _, here⟩ := forall₂_member served member
    exact served_ready here
  rw [in_order_iff]
  apply ((List.forall₂_and_left _ _).mpr ⟨fun input member => member, served⟩).imp
  rintro input value ⟨member, here⟩
  have notFlat : ¬FlatFallback state input := fun flat => seen ⟨checks, ready, input, member, flat⟩
  exact ((served_scalar checks.threads materialized notFlat).mp ⟨here, ready input member⟩).1

theorem gpu_returns (positive : 0 < batchSize) (rowWise : RowWiseDevice network state.2 predictor)
    (splits : SplitsOnly predictor)
    (materializes : ∃ model, onRnn materializeFlatCpuState state = (.ok (), model))
    (checks : GpuChecks switches loadedScope inputs batchSize numThreads)
    (ready : ∀ input ∈ inputs, RowReady state input)
    (seen : ∀ input ∈ inputs, ¬FlatFallback state input)
    (answers : ∀ input ∈ inputs, ∃ value,
      ScalarAnswers network .oracle numThreads state input value) :
    ∃ values after, predictReviewInputsGpu network predictor switches loadedScope inputs batchSize
      numThreads (state, device) = (.ok values, after) := by
  obtain ⟨model, materialized⟩ := materializes
  have served : ∀ input ∈ inputs, ∃ value, Served network state input value := by
    intro input member
    obtain ⟨value, answer⟩ := answers input member
    exact ⟨value, ((served_scalar checks.threads materialized (seen input member)).mpr
      ⟨answer, ready input member⟩).1⟩
  obtain ⟨values, after, ran, _⟩ := reaches_some (gpu_reaches positive rowWise (Or.inr splits)
    (Or.inr checks) (Or.inr served))
  exact ⟨values, after, ran⟩

end Gpu

section Answering

variable (answer : SrsReviewState V → F) (constant : F)

def answeringNetwork : PredictionNetwork F V (List F) where
  predictManyLightningModuleLimit := .ok 5
  predictForward
    | .oracle, _, some states => .ok [answer states]
    | _, _, _ => .ok [constant]
  batchForward
    | .oracle, _, some states => .ok (states.map answer)
    | _, features, _ => .ok (features.map fun _ => constant)
  lightningModulewiseForward features _ := .ok (features.map fun _ => constant)
  probabilitiesFromLogits := .ok

def answeringPredictor (rnn : NativeRnn V) : GpuPredictor F V Unit (List F) where
  predictGpu _ ids _ := (.ok (ids.map fun ids => answer (latestInputs rnn ids)), ())
  submitGpuPrediction _ ids _ := (.ok (ids.map fun ids => answer (latestInputs rnn ids)), ())
  collectGpuPrediction values _ := (.ok values, ())
  recoverGpuPredictionOom _ := (.ok (), ())
  beginGpuPredictionPipeline _ := (.ok (), ())

theorem forall₂_same {Row : Type} {value : Row → F} {Relation : Row → F → Prop}
    (each : ∀ row found, Relation row found ↔ found = value row) {rows : List Row}
    {values : List F} : List.Forall₂ Relation rows values ↔ values = rows.map value := by
  induction rows generalizing values with
  | nil => simp
  | cons row rows ih => simp [List.forall₂_cons_left_iff, each, ih]

theorem answering_row_oracle (row : List V × SrsReviewState V) (found : F) :
    RowAnswer (answeringNetwork answer constant) .oracle row found ↔ found = answer row.2 := by
  constructor
  · intro answered
    cases answered
    rfl
  · intro same
    rw [same]
    rfl

theorem answering_row_lightning (row : List V × SrsReviewState V) (found : F) :
    RowAnswer (answeringNetwork answer constant) .lightning row found ↔ found = constant := by
  constructor
  · intro answered
    cases answered
    rfl
  · intro same
    rw [same]
    rfl

theorem answering_row_wise : RowWise (answeringNetwork answer constant) := by
  constructor
  · intro mode rows given values _ form
    have states : given = some (rows.map Prod.snd) := by
      rcases form with states | ⟨stateless, _⟩
      · exact states
      · cases mode <;> cases stateless
    rw [states]
    cases mode with
    | oracle =>
        rw [forall₂_same (answering_row_oracle answer constant)]
        change Except.ok ((rows.map Prod.snd).map answer) = Except.ok values ↔ _
        rw [Except.ok.injEq, List.map_map, eq_comm]
        rfl
    | lightning =>
        rw [forall₂_same (answering_row_lightning answer constant)]
        change Except.ok ((rows.map Prod.fst).map fun _ => constant) = Except.ok values ↔ _
        rw [Except.ok.injEq, List.map_map, eq_comm]
        rfl
  · intro rows states values _ _ made
    rw [forall₂_same (answering_row_lightning answer constant)]
    change Except.ok ((rows.map Prod.fst).map fun _ => constant) = Except.ok values at made
    rw [Except.ok.injEq, List.map_map] at made
    exact made.symm
  · intro rows states values _ _ answered
    rw [forall₂_same (answering_row_lightning answer constant)] at answered
    change Except.ok ((rows.map Prod.fst).map fun _ => constant) = Except.ok values
    rw [answered, List.map_map]
    rfl

theorem answering_device_wise (rnn : NativeRnn V) :
    RowWiseDevice (answeringNetwork answer constant) rnn (answeringPredictor answer rnn) := by
  have each : ∀ (row : List V × ReviewIds) (found : F),
      DeviceAnswer (answeringNetwork answer constant) rnn row found ↔
        found = answer (latestInputs rnn row.2) :=
    fun row found => answering_row_oracle answer constant (row.1, latestInputs rnn row.2) found
  constructor
  · intro rows device reached values ran
    cases ran
    rw [forall₂_same each, List.map_map]
    rfl
  · intro rows device reached handle ran later last values collected
    cases ran
    cases collected
    rw [forall₂_same each, List.map_map]
    rfl

theorem answering_splits (rnn : NativeRnn V) :
    SplitsOnly (answeringPredictor answer rnn) := by
  constructor
  · intro features ids device reached failure ran
    cases ran
  · intro features ids device reached failure ran
    cases ran
  · intro handle device reached failure ran
    cases ran
  · intro device reached failure ran
    cases ran
  · intro device reached failure ran
    cases ran

theorem answering_scalar {model : ModelState F V} {input : ReviewInput F} {value : F}
    (made : ∃ features, (predictFeatureVector (preparePredictRow model.1 input) model.1).1 =
      .ok features ∧ features ≠ []) :
    Answered (answeringNetwork answer constant) .oracle model input value ↔
      value = answer (stateInputs model.2 (normalizedReviewIds input)) := by
  rw [answered_features]
  constructor
  · rintro ⟨features, _, _, answered⟩
    exact (answering_row_oracle answer constant (features, _) value).mp answered
  · intro same
    obtain ⟨features, found, nonempty⟩ := made
    exact ⟨features, found, nonempty,
      (answering_row_oracle answer constant (features, _) value).mpr same⟩

theorem answering_served {state : ModelState F V} {input : ReviewInput F}
    (ready : RowReady state input) :
    ∃ value, Served (answeringNetwork answer constant) state input value := by
  cases batchable_or_not state.1 input with
  | inl batchable =>
      refine ⟨answer (latestInputs state.2 (normalizedReviewIds input)),
        Or.inl ⟨⟨batchable, ready.1 batchable⟩, ?_⟩⟩
      exact (answering_row_oracle answer constant _ _).mpr rfl
  | inr unbatchable =>
      exact ⟨_, Or.inr ⟨unbatchable, (answering_scalar answer constant ready.2).mpr rfl⟩⟩

end Answering

/-- Where the hidden states matter to the network, the row that reads them gets another value. -/
theorem hidden_states_misread {answer : SrsReviewState V → F} (constant : F)
    {switches : PredictManySwitches} {loadedScope : Option CheckpointScope}
    {numThreads : Option Nat} {state : ModelState F V} {inputs : List (ReviewInput F)}
    {batchSize : Nat} (positive : 0 < batchSize)
    (materializes : ∃ model, onRnn materializeFlatCpuState state = (.ok (), model))
    (checks : GpuChecks switches loadedScope inputs batchSize numThreads)
    (ready : ∀ input ∈ inputs, RowReady state input) {bad : ReviewInput F} (member : bad ∈ inputs)
    (unbatchable : canBatchPredict state.1 (preparePredictRow state.1 bad) = .ok false)
    (differ : answer (stateInputs state.2 (normalizedReviewIds bad)) ≠
      answer (latestInputs state.2 (normalizedReviewIds bad))) :
    ∃ values after,
      predictReviewInputsGpu (answeringNetwork answer constant) (answeringPredictor answer state.2)
        switches loadedScope inputs batchSize numThreads (state, ()) = (.ok values, after) ∧
      ¬InOrder (ScalarAnswers (answeringNetwork answer constant) .oracle numThreads state) inputs
        values := by
  obtain ⟨model, materialized⟩ := materializes
  obtain ⟨sameFeatures, ran⟩ := on_rnn_steps materialized
  have latest := materialize_latest state.2
  rw [ran] at latest
  have inputsOf := materialized_inputs latest (materialize_ok ran) (normalizedReviewIds bad)
  have served : ∀ input ∈ inputs, ∃ value,
      Served (answeringNetwork answer constant) state input value :=
    fun input inside => answering_served answer constant (ready input inside)
  have run : Reaches False
      (fun values _ => List.Forall₂ (Served (answeringNetwork answer constant) state) inputs values)
      (predictReviewInputsGpu (answeringNetwork answer constant) (answeringPredictor answer state.2)
        switches loadedScope inputs batchSize numThreads (state, ())) :=
    gpu_reaches positive (answering_device_wise answer constant state.2)
      (Or.inr (answering_splits answer state.2)) (Or.inr checks) (Or.inr served)
  obtain ⟨values, after, returned, rows⟩ := reaches_some run
  refine ⟨values, after, returned, ?_⟩
  intro ordered
  obtain ⟨i, inside, here⟩ := List.mem_iff_getElem.mp member
  have found : inputs[i]? = some bad := by rw [List.getElem?_eq_getElem inside, here]
  obtain ⟨value, given⟩ : ∃ value, values[i]? = some value :=
    ⟨_, List.getElem?_eq_getElem (by rw [ordered.1]; exact inside)⟩
  have madeState := (ready bad member).2
  have madeModel : ∃ features,
      (predictFeatureVector (preparePredictRow model.1 bad) model.1).1 = .ok features ∧
        features ≠ [] := by
    rw [sameFeatures]
    exact madeState
  have scalar : value = answer (latestInputs state.2 (normalizedReviewIds bad)) := by
    have answered := (scalar_answers checks.threads materialized).mp
      (ordered.2 i bad value found given)
    rw [(answering_scalar answer constant madeModel).mp answered, inputsOf]
  have fallback : value = answer (stateInputs state.2 (normalizedReviewIds bad)) := by
    have rowServed := (in_order_iff.mpr rows).2 i bad value found given
    rcases rowServed with ⟨direct, _⟩ | ⟨_, answered⟩
    · rw [direct.batchable.accepted] at unbatchable
      cases unbatchable
    · exact (answering_scalar answer constant madeState).mp answered
  exact differ (fallback.symm.trans scalar)

/-- On such a call some network is answered with a value that is not the scalar one. -/
theorem flat_fallback_misread [Nontrivial F] {switches : PredictManySwitches}
    {loadedScope : Option CheckpointScope} {numThreads : Option Nat} {state : ModelState F V}
    {inputs : List (ReviewInput F)} {batchSize : Nat} (positive : 0 < batchSize)
    (materializes : ∃ model, onRnn materializeFlatCpuState state = (.ok (), model))
    (misread : FlatFallbackCall switches loadedScope inputs batchSize numThreads state) :
    ∃ (network : PredictionNetwork F V (List F)) (predictor : GpuPredictor F V Unit (List F)),
      RowWise network ∧ RowWiseDevice network state.2 predictor ∧ ∃ values after,
        predictReviewInputsGpu network predictor switches loadedScope inputs batchSize numThreads
          (state, ()) = (.ok values, after) ∧
        ¬InOrder (ScalarAnswers network .oracle numThreads state) inputs values := by
  classical
  obtain ⟨bad, member, unbatchable, hidden⟩ := misread.flat
  obtain ⟨one, other, differ⟩ := exists_pair_ne F
  let answer : SrsReviewState V → F := fun states =>
    if states = latestInputs state.2 (normalizedReviewIds bad) then one else other
  have differs : answer (stateInputs state.2 (normalizedReviewIds bad)) ≠
      answer (latestInputs state.2 (normalizedReviewIds bad)) := by
    have canonical : answer (stateInputs state.2 (normalizedReviewIds bad)) = other :=
      if_neg hidden
    have latest : answer (latestInputs state.2 (normalizedReviewIds bad)) = one := if_pos rfl
    rw [canonical, latest]
    exact differ.symm
  exact ⟨answeringNetwork answer other, answeringPredictor answer state.2,
    answering_row_wise answer other, answering_device_wise answer other state.2,
    hidden_states_misread other positive materializes misread.checks misread.ready member
      unbatchable differs⟩

/-- On the CPU every call that returns answers each row like the scalar call, in order. On the GPU
the same holds of every network and device exactly when no row that falls back has a state that is
only held flat, where the call makes its features at all. -/
theorem batched_predictions_follow_the_rows [Nontrivial F] :
    (∀ (Logits : Type) (network : PredictionNetwork F V Logits), RowWise network →
      ∀ (switches : PredictManySwitches) (state : ModelState F V) (inputs : List (ReviewInput F))
        (batchSize : Nat) (numThreads : Option Nat) (lightning profiled : Bool), 0 < batchSize →
      (∀ values after, predictReviewInputsCpu network switches inputs batchSize numThreads
          lightning profiled state = (.ok values, after) →
        InOrder (ScalarAnswers network (.fromLightning lightning) numThreads state) inputs
          values) ∧
      (∀ values after, predictReviewInputsCpuFastCallerProfiled network switches inputs batchSize
          numThreads state = (.ok values, after) →
        InOrder (ScalarAnswers network .lightning numThreads state) inputs values) ∧
      (RowsHeld state → validateNumThreads numThreads = .ok () →
        (∃ model, onRnn materializeFlatCpuState state = (.ok (), model)) →
        (∀ input ∈ inputs, ∃ value,
          ScalarAnswers network (.fromLightning lightning) numThreads state input value) →
        ∃ values after, predictReviewInputsCpu network switches inputs batchSize numThreads
          lightning profiled state = (.ok values, after))) ∧
    ∀ (switches : PredictManySwitches) (loadedScope : Option CheckpointScope)
      (state : ModelState F V) (inputs : List (ReviewInput F)) (batchSize : Nat)
      (numThreads : Option Nat), 0 < batchSize →
      (∃ model, onRnn materializeFlatCpuState state = (.ok (), model)) →
      ((∀ (Logits Device Handle : Type) (network : PredictionNetwork F V Logits)
          (predictor : GpuPredictor F V Device Handle) (device : Device), RowWise network →
          RowWiseDevice network state.2 predictor → ∀ values after,
          predictReviewInputsGpu network predictor switches loadedScope inputs batchSize
            numThreads (state, device) = (.ok values, after) →
          InOrder (ScalarAnswers network .oracle numThreads state) inputs values) ↔
        ¬FlatFallbackCall switches loadedScope inputs batchSize numThreads state) ∧
      ∀ (Logits Device Handle : Type) (network : PredictionNetwork F V Logits)
        (predictor : GpuPredictor F V Device Handle) (device : Device),
        RowWiseDevice network state.2 predictor → SplitsOnly predictor →
        GpuChecks switches loadedScope inputs batchSize numThreads →
        (∀ input ∈ inputs, RowReady state input ∧ ¬FlatFallback state input ∧
          ∃ value, ScalarAnswers network .oracle numThreads state input value) →
        ∃ values after, predictReviewInputsGpu network predictor switches loadedScope inputs
          batchSize numThreads (state, device) = (.ok values, after) := by
  constructor
  · intro Logits network rowWise switches state inputs batchSize numThreads lightning profiled
      positive
    refine ⟨?_, ?_, ?_⟩
    · intro values after ran
      exact cpu_in_order rowWise positive ran
    · intro values after ran
      exact profiled_in_order rowWise positive ran
    · intro held threads materializes answers
      exact cpu_returns rowWise positive held threads materializes answers
  · intro switches loadedScope state inputs batchSize numThreads positive materializes
    refine ⟨⟨?_, ?_⟩, ?_⟩
    · intro answers misread
      obtain ⟨network, predictor, rowWise, deviceWise, values, after, ran, wrong⟩ :=
        flat_fallback_misread positive materializes misread
      exact wrong (answers _ _ _ network predictor () rowWise deviceWise values after ran)
    · intro seen Logits Device Handle network predictor device _ rowWise values after ran
      exact gpu_in_order positive rowWise materializes seen ran
    · intro Logits Device Handle network predictor device rowWise splits checks each
      exact gpu_returns positive rowWise splits materializes checks
        (fun input member => (each input member).1) (fun input member => (each input member).2.1)
        (fun input member => (each input member).2.2)

section Fallback

open RwkvSrs.ExactNumbers

def reviewEncodings (submodule : IdSubmodule) : ExtTreeMap Int64 (List Exact) :=
  (∅ : ExtTreeMap Int64 (List Exact)).insert (submodule.key (normalizedReviewIds oneReview))
    (List.replicate submodule.dim 0.5)

/-- Every encoding of the review is stored, but none of its states is recorded. -/
def encodedState : FeatureState Exact Exact :=
  { (withTorchSeed 5489 : FeatureState Exact Exact) with idEncodings := reviewEncodings }

theorem encoded_state_stored : Stored encodedState (normalizedReviewIds oneReview) idSubmodules := by
  intro submodule _
  exact ⟨_, ExtTreeMap.getElem?_insert_self⟩

theorem encoded_state_sized : EncodingsSized encodedState := by
  intro submodule id encoding found
  have stored : (reviewEncodings submodule)[id]? = some encoding := found
  unfold reviewEncodings at stored
  rw [ExtTreeMap.getElem?_insert] at stored
  split at stored
  · cases stored
    exact List.length_replicate
  · simp at stored

theorem encoded_state_unrecorded (ids : ReviewIds) :
    recurrentKeysHave encodedState.recurrentStateKeys ids = false := by
  have noCard : ids.1 ∉ encodedState.recurrentStateKeys.cardStates := by
    change ids.1 ∉ (∅ : ExtTreeSet Int64)
    simp
  simp [recurrentKeysHave, noCard]

theorem encoded_state_unbatchable :
    canBatchPredict encodedState (preparePredictRow encodedState oneReview) = .ok false := by
  rw [can_batch_row, encoded_state_unrecorded]
  simp

theorem encoded_state_ready (rnn : NativeRnn Exact) : RowReady (encodedState, rnn) oneReview := by
  constructor
  · intro batchable
    exact query_features_length encoded_state_sized batchable
  · refine ⟨queryFeatures encodedState oneReview, ?_, query_features_nonempty _ _⟩
    rw [stored_scalar_features encoded_state_stored]

def defaultSwitches : PredictManySwitches := ⟨true, true, true, .ok true⟩

theorem one_review_checks : GpuChecks defaultSwitches none [oneReview] 2 none :=
  ⟨rfl, rfl, fun _ => ⟨false, rfl⟩⟩

def canonicalRnn : NativeRnn Exact := ⟨fun _ => ∅, none, fun _ => ∅, none⟩

def zeroLayer : FlatNativeRnnModuleState Exact where
  values := List.replicate flatStateLayerElements 0.0
  offset := 0
  layers := 1
  inRange := by
    rw [List.length_replicate]
    omega

/-- The global state as a GPU call leaves it, one layer of zeros. -/
def flatGlobalRnn : NativeRnn Exact := { canonicalRnn with flatGlobalState := some zeroLayer }

theorem flat_global_materializes :
    ∃ model, onRnn materializeFlatCpuState (encodedState, flatGlobalRnn) = (.ok (), model) := by
  have each : ∀ entity, materializeMap entity flatGlobalRnn = (.ok (), flatGlobalRnn) :=
    fun _ => materialize_map_id rfl
  have materialized : ∃ rnn, materializeFlatCpuState flatGlobalRnn = (.ok (), rnn) := by
    unfold materializeFlatCpuState
    rw [bind_of_ok (each .card), bind_of_ok (each .note), bind_of_ok (each .deck),
      bind_of_ok (each .preset)]
    exact ⟨_, rfl⟩
  obtain ⟨rnn, ran⟩ := materialized
  exact ⟨_, on_rnn_ok ran⟩

/-- The layers of the global module, the last of a row's states. -/
def globalLayers (states : SrsReviewState Exact) : Nat :=
  (states.channelStateB1cByModule.getLastD []).length

theorem flat_global_layers :
    globalLayers (stateInputs flatGlobalRnn (normalizedReviewIds oneReview)) = 0 ∧
      globalLayers (latestInputs flatGlobalRnn (normalizedReviewIds oneReview)) = 1 := by
  constructor
  · have absent : flatGlobalRnn.globalState = none := rfl
    rw [state_inputs_modules]
    simp [globalLayers, rowStates, absent, layersOf]
  · have held : flatGlobalRnn.latestGlobal = some zeroLayer.materialize := rfl
    have layers : zeroLayer.materialize.channelStateB1cByLayer.length = 1 := by
      rw [FlatNativeRnnModuleState.materialize, List.length_map, List.length_finRange]
      rfl
    unfold latestInputs
    rw [append_inputs]
    simp [globalLayers, held, layersOf, layers]

/-- A network that answers 1 where the global state has layers and 0 where it has none. -/
def globalLayerAnswer (states : SrsReviewState Exact) : Exact := ⟨globalLayers states⟩

/-- After a GPU call, a new card is predicted as if the collection had no global state. -/
theorem gpu_fallback_misses_global_state :
    RowWise (answeringNetwork globalLayerAnswer (0.0 : Exact)) ∧
      RowWiseDevice (answeringNetwork globalLayerAnswer (0.0 : Exact)) flatGlobalRnn
        (answeringPredictor globalLayerAnswer flatGlobalRnn) ∧
      ∃ values after, predictReviewInputsGpu (answeringNetwork globalLayerAnswer (0.0 : Exact))
        (answeringPredictor globalLayerAnswer flatGlobalRnn) defaultSwitches none [oneReview] 2 none
        ((encodedState, flatGlobalRnn), ()) = (.ok values, after) ∧
      ¬InOrder (ScalarAnswers (answeringNetwork globalLayerAnswer (0.0 : Exact)) .oracle none
        (encodedState, flatGlobalRnn)) [oneReview] values := by
  refine ⟨answering_row_wise _ _, answering_device_wise _ _ _, ?_⟩
  have ready : ∀ input ∈ [oneReview], RowReady (encodedState, flatGlobalRnn) input := by
    intro input member
    rw [List.mem_singleton.mp member]
    exact encoded_state_ready flatGlobalRnn
  apply hidden_states_misread 0.0 (by decide) flat_global_materializes one_review_checks ready
    (List.mem_singleton.mpr rfl) encoded_state_unbatchable
  unfold globalLayerAnswer
  rw [flat_global_layers.1, flat_global_layers.2]
  decide

instance : Nontrivial Exact := ⟨⟨0⟩, ⟨1⟩, by decide⟩

/-- A review of a card that has encodings and no states. -/
def newCardReview : ReviewInput Exact := { oneReview with cardId := 9 }

/-- The card of the first review has been reviewed, card 9 has not. -/
def mixedState : FeatureState Exact Exact :=
  { encodedState with
    idEncodings := fun submodule => (reviewEncodings submodule).insert
      (submodule.key (normalizedReviewIds newCardReview)) (List.replicate submodule.dim 0.5)
    recurrentStateKeys :=
      ⟨(∅ : ExtTreeSet Int64).insert 1, (∅ : ExtTreeSet Int64).insert 2,
        (∅ : ExtTreeSet Int64).insert 3, (∅ : ExtTreeSet Int64).insert 4, true⟩ }

def mixedRnn : NativeRnn Exact :=
  ⟨fun entity => (∅ : ExtTreeMap Int64 (NativeRnnModuleState Exact)).insert
    (entity.key (1, 2, 3, 4)) zeroLayer.materialize, some zeroLayer.materialize, fun _ => ∅, none⟩

/-- Two rows for the batched forward with one between them that falls back. -/
def mixedReviews : List (ReviewInput Exact) := [oneReview, newCardReview, oneReview]

theorem mixed_member {input : ReviewInput Exact} (member : input ∈ mixedReviews) :
    input = oneReview ∨ input = newCardReview := by
  rcases List.mem_cons.mp member with first | member
  · exact Or.inl first
  · exact (List.mem_pair.mp member).symm

theorem mixed_materialized : Materialized mixedRnn := ⟨fun _ => rfl, rfl⟩

theorem mixed_encoding {submodule : IdSubmodule} {id : Int64} {encoding : List Exact}
    (found : (mixedState.idEncodings submodule)[id]? = some encoding) :
    encoding = List.replicate submodule.dim 0.5 := by
  change ((reviewEncodings submodule).insert _ _)[id]? = some encoding at found
  unfold reviewEncodings at found
  rw [ExtTreeMap.getElem?_insert] at found
  split at found
  · exact (Option.some.inj found).symm
  · rw [ExtTreeMap.getElem?_insert] at found
    split at found
    · exact (Option.some.inj found).symm
    · simp at found

theorem mixed_sized : EncodingsSized mixedState := by
  intro submodule id encoding found
  rw [mixed_encoding found]
  exact List.length_replicate

theorem mixed_stored {input : ReviewInput Exact} (member : input ∈ mixedReviews) :
    Stored mixedState (normalizedReviewIds input) idSubmodules := by
  intro submodule _
  change ∃ encoding, ((reviewEncodings submodule).insert _ _)[_]? = some encoding
  rcases mixed_member member with first | second
  · rw [first, ExtTreeMap.getElem?_insert]
    split
    · exact ⟨_, rfl⟩
    · exact ⟨_, ExtTreeMap.getElem?_insert_self⟩
  · rw [second]
    exact ⟨_, ExtTreeMap.getElem?_insert_self⟩

theorem mixed_recorded (ids : ReviewIds) :
    recurrentKeysHave mixedState.recurrentStateKeys ids = true ↔ ids = (1, 2, 3, 4) := by
  obtain ⟨card, note, deck, preset⟩ := ids
  have single : ∀ key found : Int64, found ∈ (∅ : ExtTreeSet Int64).insert key ↔ found = key := by
    intro key found
    rw [ExtTreeSet.mem_insert, Std.compare_eq_iff_eq, eq_comm]
    simp
  have recorded := and_congr (single 1 card) (and_congr (single 2 note)
    (and_congr (single 3 deck) (single 4 preset)))
  rw [Prod.mk.injEq, Prod.mk.injEq, Prod.mk.injEq]
  exact decide_eq_true_iff.trans recorded

theorem mixed_batchable :
    canBatchPredict mixedState (preparePredictRow mixedState oneReview) = .ok true ∧
      canBatchPredict mixedState (preparePredictRow mixedState newCardReview) = .ok false := by
  have stored : (idSubmodules.any fun submodule =>
      submodule.key (normalizedReviewIds oneReview) ∉ mixedState.idEncodings submodule) = false := by
    rw [List.any_eq_false]
    intro submodule member
    obtain ⟨encoding, found⟩ := mixed_stored (List.mem_cons_self : oneReview ∈ mixedReviews)
      submodule member
    simp [ExtTreeMap.mem_iff_isSome_getElem?, found]
  constructor
  · have recorded : recurrentKeysHave mixedState.recurrentStateKeys
        (normalizedReviewIds oneReview) = true := (mixed_recorded _).mpr (by decide)
    rw [can_batch_row, stored, recorded]
    rfl
  · rw [can_batch_row]
    have unrecorded : recurrentKeysHave mixedState.recurrentStateKeys
        (normalizedReviewIds newCardReview) ≠ true := by
      rw [ne_eq, mixed_recorded]
      decide
    simp [unrecorded]

theorem mixed_rows_held : RowsHeld (mixedState, mixedRnn) := by
  refine ⟨mixed_sized, ?_⟩
  intro ids recorded
  rw [mixed_recorded] at recorded
  subst recorded
  refine ⟨?_, zeroLayer.materialize, rfl⟩
  intro entity
  refine ⟨zeroLayer.materialize, ?_⟩
  have held : (mixedRnn.states entity)[entity.key (1, 2, 3, 4)]? = some zeroLayer.materialize :=
    ExtTreeMap.getElem?_insert_self
  unfold NativeRnn.latest
  rw [held]
  rfl

theorem mixed_ready {input : ReviewInput Exact} (member : input ∈ mixedReviews) :
    RowReady (mixedState, mixedRnn) input := by
  constructor
  · intro batchable
    exact query_features_length mixed_sized batchable
  · refine ⟨queryFeatures mixedState input, ?_, query_features_nonempty _ _⟩
    rw [stored_scalar_features (mixed_stored member)]

theorem mixed_answered {input : ReviewInput Exact} (member : input ∈ mixedReviews) :
    ¬FlatFallback (mixedState, mixedRnn) input ∧ ∃ value,
      ScalarAnswers (answeringNetwork globalLayerAnswer (0.0 : Exact)) .oracle none
        (mixedState, mixedRnn) input value := by
  constructor
  · rintro ⟨_, hidden⟩
    apply hidden
    exact materialized_inputs (SameLatest.refl mixedRnn) mixed_materialized _
  · have materialized : onRnn materializeFlatCpuState (mixedState, mixedRnn) =
        (.ok (), (mixedState, mixedRnn)) := on_rnn_ok (materialize_id mixed_materialized)
    exact ⟨_, (scalar_answers rfl materialized).mpr
      ((answering_scalar globalLayerAnswer 0.0 (mixed_ready member).2).mpr rfl)⟩

/-- Two batches of a state that was never on the GPU, and in the first of them a row that falls
back. -/
theorem mixed_reviews_follow_their_rows :
    (canBatchPredict mixedState (preparePredictRow mixedState oneReview) = .ok true ∧
      canBatchPredict mixedState (preparePredictRow mixedState newCardReview) = .ok false) ∧
    (∃ values after, predictReviewInputsCpu (answeringNetwork globalLayerAnswer (0.0 : Exact))
        defaultSwitches mixedReviews 2 none false false (mixedState, mixedRnn) =
          (.ok values, after) ∧
      InOrder (ScalarAnswers (answeringNetwork globalLayerAnswer (0.0 : Exact)) .oracle none
        (mixedState, mixedRnn)) mixedReviews values) ∧
    ∃ values after, predictReviewInputsGpu (answeringNetwork globalLayerAnswer (0.0 : Exact))
        (answeringPredictor globalLayerAnswer mixedRnn) defaultSwitches none mixedReviews 2 none
        ((mixedState, mixedRnn), ()) = (.ok values, after) ∧
      InOrder (ScalarAnswers (answeringNetwork globalLayerAnswer (0.0 : Exact)) .oracle none
        (mixedState, mixedRnn)) mixedReviews values := by
  have materializes : ∃ model, onRnn materializeFlatCpuState (mixedState, mixedRnn) =
      (.ok (), model) := ⟨_, on_rnn_ok (materialize_id mixed_materialized)⟩
  have seen : ¬FlatFallbackCall defaultSwitches none mixedReviews 2 none
      (mixedState, mixedRnn) := by
    intro call
    obtain ⟨input, member, flat⟩ := call.flat
    exact (mixed_answered member).1 flat
  have checks : GpuChecks defaultSwitches none mixedReviews 2 none :=
    ⟨rfl, rfl, fun _ => ⟨true, rfl⟩⟩
  have both := batched_predictions_follow_the_rows (F := Exact) (V := Exact)
  refine ⟨mixed_batchable, ?_, ?_⟩
  · have cpu := both.1 _ _ (answering_row_wise globalLayerAnswer 0.0) defaultSwitches
      (mixedState, mixedRnn) mixedReviews 2 none false false (by decide)
    obtain ⟨values, after, ran⟩ := cpu.2.2 mixed_rows_held rfl materializes
      fun input member => (mixed_answered member).2
    exact ⟨values, after, ran, cpu.1 values after ran⟩
  · have gpu := both.2 defaultSwitches none (mixedState, mixedRnn) mixedReviews 2 none
      (by decide) materializes
    obtain ⟨values, after, ran⟩ := gpu.2 _ _ _ _ _ () (answering_device_wise _ 0.0 mixedRnn)
      (answering_splits globalLayerAnswer mixedRnn) checks
      fun input member => ⟨mixed_ready member, mixed_answered member⟩
    exact ⟨values, after, ran, gpu.1.mpr seen _ _ _ _ _ () (answering_row_wise _ _)
      (answering_device_wise _ _ mixedRnn) values after ran⟩

end Fallback

end RwkvSrs.PredictionOrder
