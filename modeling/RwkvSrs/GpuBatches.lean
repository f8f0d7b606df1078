import RwkvSrs.CpuBatches

/-!
Batched prediction on the GPU. Whatever allocations fail and however batches are
split, queued and collected, each value belongs to its own row: a direct row is
answered from the latest states of its identities, and any other row from the
states the scalar call finds in canonical form.
-/

namespace RwkvSrs.GpuBatches

open Std RwkvSrs.FallibleMethod RwkvSrs.FeatureScaling RwkvSrs.ReviewInput
open RwkvSrs.DeterministicState RwkvSrs.DeterministicUndo RwkvSrs.DeterministicTouch
open RwkvSrs.ModuleState RwkvSrs.NativeRnnState RwkvSrs.BatchJournal RwkvSrs.DirectFeatures
open RwkvSrs.DirectPaths RwkvSrs.BatchAccount RwkvSrs.ResultSteps
open RwkvSrs.BatchedPrediction RwkvSrs.BatchedRows RwkvSrs.CpuBatches RwkvSrs.PredictionPurity
open RwkvSrs.ReviewProcessing
  (SrsReviewState stateInputs appendStateInput tensorFromFeatureVector validateNumThreads)
open RwkvSrs.CheckpointReader (CheckpointScope)

set_option autoImplicit false
set_option linter.unusedSectionVars false

variable {F V Logits Device Handle : Type} [Float64Ops F] [Float32Ops V]

/-- The states of a row wherever they are held. -/
def latestInputs (rnn : NativeRnn V) (ids : ReviewIds) : SrsReviewState V :=
  [rnn.latest .card ids.1, rnn.latest .note ids.2.1, rnn.latest .deck ids.2.2.1,
    rnn.latest .preset ids.2.2.2, rnn.latestGlobal].foldl appendStateInput ⟨[], [], []⟩

theorem materialized_inputs {before after : NativeRnn V} (same : SameLatest before after)
    (materialized : Materialized after) (ids : ReviewIds) :
    stateInputs after ids = latestInputs before ids := by
  obtain ⟨cardId, noteId, deckId, presetId⟩ := ids
  unfold stateInputs latestInputs
  simp only [← materialized.latest, ← materialized.latestGlobal, same.keyed, same.global]

def DeviceAnswer (network : PredictionNetwork F V Logits) (rnn : NativeRnn V)
    (row : List V × ReviewIds) (value : F) : Prop :=
  RowAnswer network .oracle (row.1, latestInputs rnn row.2) value

/-- What the device answers is what the forward of one row answers, row by row. -/
structure RowWiseDevice (network : PredictionNetwork F V Logits) (rnn : NativeRnn V)
    (predictor : GpuPredictor F V Device Handle) : Prop where
  predict : ∀ (rows : List (List V × ReviewIds)) (device reached : Device) (values : List F),
    predictor.predictGpu (rows.map Prod.fst) (rows.map Prod.snd) device = (.ok values, reached) →
    List.Forall₂ (DeviceAnswer network rnn) rows values
  collect : ∀ (rows : List (List V × ReviewIds)) (device reached : Device) (handle : Handle),
    predictor.submitGpuPrediction (rows.map Prod.fst) (rows.map Prod.snd) device =
      (.ok handle, reached) →
    ∀ (later last : Device) (values : List F),
      predictor.collectGpuPrediction handle later = (.ok values, last) →
      List.Forall₂ (DeviceAnswer network rnn) rows values

/-- Nothing fails but the allocations of batches that can still be split. -/
structure SplitsOnly (predictor : GpuPredictor F V Device Handle) : Prop where
  predict : ∀ (features : List (List V)) (ids : List ReviewIds) (device reached : Device)
    (failure : GpuFailure),
    predictor.predictGpu features ids device = (.error failure, reached) →
    failure.outOfMemory = true ∧ 1 < features.length
  submit : ∀ (features : List (List V)) (ids : List ReviewIds) (device reached : Device)
    (failure : GpuFailure),
    predictor.submitGpuPrediction features ids device = (.error failure, reached) →
    failure.outOfMemory = true ∧ 1 < features.length
  collect : ∀ (handle : Handle) (device reached : Device) (failure : GpuFailure),
    predictor.collectGpuPrediction handle device ≠ (.error failure, reached)
  recover : ∀ (device reached : Device) (failure : GpuFailure),
    predictor.recoverGpuPredictionOom device ≠ (.error failure, reached)
  begins : ∀ (device reached : Device) (failure : GpuFailure),
    predictor.beginGpuPredictionPipeline device ≠ (.error failure, reached)

section Calls

variable {model : ModelState F V} {device : Device} {mayFail : Prop}

theorem attempt_reaches {Value : Type} (step : Device → Except GpuFailure Value × Device) :
    Reaches mayFail (fun result state => ∃ reached, state = (model, reached) ∧
      step device = (result, reached)) (attempt step (model, device)) := by
  constructor
  · intro result state ran
    cases ran
    exact ⟨_, rfl, rfl⟩
  · intro failure state ran
    cases ran

theorem require_reaches {Value : Type} {step : Device → Except GpuFailure Value × Device}
    (succeeds : mayFail ∨ ∀ reached failure, step device ≠ (.error failure, reached)) :
    Reaches mayFail (fun _ state => ∃ reached, state = (model, reached))
      (require step (model, device)) := by
  apply reaches_bind (attempt_reaches step)
  intro result state ran
  obtain ⟨reached, same, stepped⟩ := ran
  subst same
  cases result with
  | ok value => exact reaches_pure ⟨reached, rfl⟩
  | error failure =>
      apply reaches_fail
      exact succeeds.resolve_right fun none => none reached failure stepped

theorem on_model_reaches {Value : Type} {step : Method (ModelState F V) Value}
    {Goal : Value → ModelState F V × Device → Prop}
    (reaches : Reaches mayFail (fun value reached => Goal value (reached, device)) (step model)) :
    Reaches mayFail Goal (onModel step (model, device)) := by
  unfold onModel onPart
  match ran : step model with
  | (.ok value, reached) => exact reaches_pure (reaches.arrives value reached ran)
  | (.error failure, reached) => exact reaches_fail (reaches.fails failure reached ran)

theorem fail_after_discard_reaches {Value : Type} {predictor : GpuPredictor F V Device Handle}
    {Goal : Value → ModelState F V × Device → Prop} (may : mayFail) (pending : List Handle)
    (failure : GpuFailure) (drained : String) (state : ModelState F V × Device) :
    Reaches mayFail Goal (failAfterDiscard predictor pending failure drained state) := by
  have discards : Reaches mayFail (fun _ _ => True)
      (discardGpuPredictionPipeline predictor pending state) := by
    constructor
    · intro _ _ _
      trivial
    · intro stopped reached ran
      cases ran
  apply reaches_bind discards
  intro cleanup reached _
  cases cleanup with
  | none => exact reaches_fail may
  | some cleanup => exact reaches_fail may

end Calls

section Served

variable [ExactFeatureFloat F V]

/-- A row that is handed to the device. -/
structure Direct (model : ModelState F V) (input : ReviewInput F) : Prop where
  batchable : Batchable model.1 input
  length : (queryFeatures model.1 input : List V).length = 92

def directRow (model : ModelState F V) (input : ReviewInput F) : List V × ReviewIds :=
  (queryFeatures model.1 input, normalizedReviewIds input)

/-- What a GPU call answers to a row. -/
def Served (network : PredictionNetwork F V Logits) (model : ModelState F V)
    (input : ReviewInput F) (value : F) : Prop :=
  (Direct model input ∧ DeviceAnswer network model.2 (directRow model input) value) ∨
    (canBatchPredict model.1 (preparePredictRow model.1 input) = .ok false ∧
      Answered network .oracle model input value)

variable {network : PredictionNetwork F V Logits} {predictor : GpuPredictor F V Device Handle}
  {model : ModelState F V} {device : Device} {mayFail : Prop} {held seen : List (ReviewInput F)}
  {values : List F} {batch : GpuBatch F V Handle} {pendingAllowed : Prop} {input : ReviewInput F}
  {batchSize : Nat}

theorem rows_served (direct : ∀ input ∈ held, Direct model input)
    (rows : List.Forall₂ (DeviceAnswer network model.2) (held.map (directRow model)) values) :
    List.Forall₂ (Served network model) held values := by
  rw [List.forall₂_map_left_iff] at rows
  apply ((List.forall₂_and_left _ _).mpr ⟨direct, rows⟩).imp
  intro input value answered
  exact Or.inl answered

theorem direct_columns (held : List (ReviewInput F)) :
    (held.map (directRow model)).map Prod.fst = held.map (queryFeatures model.1) ∧
      (held.map (directRow model)).map Prod.snd = held.map normalizedReviewIds := by
  constructor <;> simp [directRow]

/-- The answers to a batch follow those already made. -/
def Extended (network : PredictionNetwork F V Logits) (model : ModelState F V)
    (probabilities : List F) (held : List (ReviewInput F)) (made : List F)
    (state : ModelState F V × Device) : Prop :=
  (∃ reached, state = (model, reached)) ∧
    ∃ more, made = probabilities ++ more ∧ List.Forall₂ (Served network model) held more

/-- Splitting a batch keeps the rows in their order. -/
theorem adaptive_reaches (rowWise : RowWiseDevice network model.2 predictor)
    (splits : mayFail ∨ SplitsOnly predictor) (direct : ∀ input ∈ held, Direct model input)
    (probabilities : List F) (device : Device) :
    Reaches mayFail (Extended network model probabilities held)
      (predictGpuAdaptive predictor (held.map (queryFeatures model.1))
        (held.map normalizedReviewIds) probabilities (model, device)) := by
  induction size : held.length using Nat.strong_induction_on generalizing held probabilities device with
  | _ size ih =>
  unfold predictGpuAdaptive
  apply reaches_bind (attempt_reaches _)
  intro result state ran
  obtain ⟨reached, same, stepped⟩ := ran
  subst same
  cases result with
  | ok values =>
      have columns : (held.map (directRow model)).map Prod.fst = held.map (queryFeatures model.1) ∧
          (held.map (directRow model)).map Prod.snd = held.map normalizedReviewIds :=
        direct_columns held
      rw [← columns.1, ← columns.2] at stepped
      have served := rows_served direct (rowWise.predict _ _ _ _ stepped)
      dsimp only
      rw [if_neg (by simpa using served.length_eq.symm)]
      exact reaches_pure ⟨⟨reached, rfl⟩, values, rfl, served⟩
  | error failure =>
      dsimp only
      split
      · rename_i many
        have long : 1 < held.length := by simpa using many.2
        apply reaches_bind (require_reaches (splits.imp_right fun only => only.recover reached))
        intro _ state recovered
        obtain ⟨reached, same⟩ := recovered
        subst same
        have front := ih (held.take (held.length / 2)).length
          (by rw [List.length_take]; omega)
          (fun input member => direct input (List.mem_of_mem_take member)) probabilities reached rfl
        have back := fun made reached => ih (held.drop (held.length / 2)).length
          (by rw [List.length_drop]; omega)
          (fun input member => direct input (List.mem_of_mem_drop member)) made reached rfl
        simp only [List.length_map, ← List.map_take, ← List.map_drop]
        apply reaches_bind front
        intro made state arrived
        obtain ⟨⟨reached, same⟩, more, first, servedFront⟩ := arrived
        subst same
        apply reaches_mono (back made reached)
        intro last state arrived
        obtain ⟨there, others, second, servedBack⟩ := arrived
        refine ⟨there, more ++ others, by rw [second, first, List.append_assoc], ?_⟩
        have joined : List.Forall₂ (Served network model)
            (held.take (held.length / 2) ++ held.drop (held.length / 2)) (more ++ others) :=
          List.rel_append servedFront servedBack
        rwa [List.take_append_drop] at joined
      · rename_i single
        apply reaches_fail
        exact splits.resolve_right fun only => single (only.predict _ _ _ _ _ stepped)

/-- The queued call answers these rows whenever it is collected. -/
def Owes (network : PredictionNetwork F V Logits) (predictor : GpuPredictor F V Device Handle)
    (model : ModelState F V) (rows : List (ReviewInput F)) (handle : Handle) : Prop :=
  ∀ (later last : Device) (values : List F),
    predictor.collectGpuPrediction handle later = (.ok values, last) →
    List.Forall₂ (Served network model) rows values

/-- Every row is answered, queued or in the buffer, and only direct rows are in the buffer. -/
def GpuKept (network : PredictionNetwork F V Logits) (predictor : GpuPredictor F V Device Handle)
    (model : ModelState F V) (pendingAllowed : Prop) (seen : List (ReviewInput F))
    (batch : GpuBatch F V Handle) (state : ModelState F V × Device) : Prop :=
  (∃ reached, state = (model, reached)) ∧ (pendingAllowed ∨ batch.pending = []) ∧
    ∃ held : List (ReviewInput F),
      Account (Served network model) (Owes network predictor model) seen batch.probabilities
        batch.pending held ∧
      batch.batchFeatures = held.map (queryFeatures model.1) ∧
      batch.batchIds = held.map normalizedReviewIds ∧ ∀ input ∈ held, Direct model input

def GpuDone (network : PredictionNetwork F V Logits) (predictor : GpuPredictor F V Device Handle)
    (model : ModelState F V) (seen : List (ReviewInput F)) (batch : GpuBatch F V Handle)
    (state : ModelState F V × Device) : Prop :=
  (∃ reached, state = (model, reached)) ∧ batch.pending = [] ∧ batch.batchFeatures = [] ∧
    batch.batchIds = [] ∧
    Account (Served network model) (Owes network predictor model) seen batch.probabilities [] []

theorem GpuDone.kept {state : ModelState F V × Device}
    (done : GpuDone network predictor model seen batch state) :
    GpuKept network predictor model pendingAllowed seen batch state := by
  obtain ⟨there, pending, features, ids, account⟩ := done
  refine ⟨there, Or.inr pending, [], ?_, features, ids, by simp⟩
  rw [pending]
  exact account

theorem flush_gpu_reaches (rowWise : RowWiseDevice network model.2 predictor)
    (splits : mayFail ∨ SplitsOnly predictor)
    (kept : GpuKept network predictor model False seen batch (model, device)) :
    Reaches mayFail (GpuDone network predictor model seen)
      (flushGpuBatch predictor batch (model, device)) := by
  obtain ⟨_, noPending, held, account, features, ids, direct⟩ := kept
  have pending := noPending.resolve_left id
  rw [pending] at account
  unfold flushGpuBatch
  by_cases empty : held = []
  · subst empty
    rw [if_pos (by simp [features])]
    exact reaches_pure ⟨⟨device, rfl⟩, pending, features, ids, account⟩
  · rw [if_neg (by simpa [features] using empty), features, ids]
    apply reaches_bind (adaptive_reaches rowWise splits direct batch.probabilities device)
    intro made state arrived
    obtain ⟨there, more, same, served⟩ := arrived
    rw [same]
    exact reaches_pure ⟨there, pending, rfl, rfl, account_flush account served⟩

theorem collect_reaches (splits : mayFail ∨ SplitsOnly predictor) {submitted : Handle}
    {rest : List Handle} (queued : batch.pending = submitted :: rest)
    (kept : GpuKept network predictor model True seen batch (model, device)) :
    Reaches mayFail (fun made state => GpuKept network predictor model True seen made state ∧
        made.pending = rest ∧ made.batchFeatures = batch.batchFeatures)
      (collectOldestGpuPrediction predictor batch (model, device)) := by
  obtain ⟨_, _, held, account, features, ids, direct⟩ := kept
  rw [queued] at account
  unfold collectOldestGpuPrediction
  rw [queued]
  dsimp only
  apply reaches_bind (attempt_reaches _)
  intro result state ran
  obtain ⟨reached, same, stepped⟩ := ran
  subst same
  cases result with
  | ok values =>
      have collected := account_collect account fun rows owes => owes device reached values stepped
      exact reaches_pure
        ⟨⟨⟨reached, rfl⟩, Or.inl trivial, held, collected, features, ids, direct⟩, rfl, rfl⟩
  | error failure =>
      apply fail_after_discard_reaches
      exact splits.resolve_right fun only => only.collect submitted device reached failure stepped

theorem drain_times_reaches (splits : mayFail ∨ SplitsOnly predictor) {queued : Nat}
    (length : batch.pending.length = queued)
    (kept : GpuKept network predictor model True seen batch (model, device)) :
    Reaches mayFail (fun made state => GpuKept network predictor model True seen made state ∧
        made.pending = [] ∧ made.batchFeatures = batch.batchFeatures)
      (drainTimes predictor queued batch (model, device)) := by
  induction queued generalizing batch device with
  | zero => exact reaches_pure ⟨kept, List.length_eq_zero_iff.mp length, rfl⟩
  | succ queued ih =>
      obtain ⟨submitted, rest, same⟩ := List.exists_cons_of_length_eq_add_one length
      apply reaches_bind (collect_reaches splits same kept)
      intro made state arrived
      obtain ⟨keptMade, left, features⟩ := arrived
      obtain ⟨reached, there⟩ := keptMade.1
      subst there
      have shorter : made.pending.length = queued := by
        rw [left]
        rw [same] at length
        simpa using length
      apply reaches_mono (ih shorter keptMade)
      intro last state arrived
      exact ⟨arrived.1, arrived.2.1, arrived.2.2.trans features⟩

theorem drain_reaches (splits : mayFail ∨ SplitsOnly predictor)
    (kept : GpuKept network predictor model True seen batch (model, device)) :
    Reaches mayFail (fun made state => GpuKept network predictor model True seen made state ∧
        made.pending = [] ∧ made.batchFeatures = batch.batchFeatures)
      (drainGpuPredictionPipeline predictor batch (model, device)) :=
  drain_times_reaches splits rfl kept

theorem queued_kept (rowWise : RowWiseDevice network model.2 predictor) {reached : Device}
    {submitted : Handle}
    (kept : GpuKept network predictor model True seen batch (model, device))
    (stepped : predictor.submitGpuPrediction batch.batchFeatures batch.batchIds device =
      (.ok submitted, reached)) :
    GpuKept network predictor model True seen
      { batch with pending := batch.pending ++ [submitted], batchFeatures := [], batchIds := [] }
      (model, reached) := by
  obtain ⟨_, _, held, account, features, ids, direct⟩ := kept
  have columns : (held.map (directRow model)).map Prod.fst = held.map (queryFeatures model.1) ∧
      (held.map (directRow model)).map Prod.snd = held.map normalizedReviewIds :=
    direct_columns held
  rw [features, ids, ← columns.1, ← columns.2] at stepped
  have owes : Owes network predictor model held submitted := by
    intro later last values collected
    exact rows_served direct (rowWise.collect _ _ _ _ stepped later last values collected)
  exact ⟨⟨reached, rfl⟩, Or.inl trivial, [], account_submit account owes, rfl, rfl, by simp⟩

/-- Handing the buffer over empties it; a batch that cannot be queued is answered at once. -/
theorem submit_reaches (rowWise : RowWiseDevice network model.2 predictor)
    (splits : mayFail ∨ SplitsOnly predictor)
    (kept : GpuKept network predictor model True seen batch (model, device)) :
    Reaches mayFail (fun made state => GpuKept network predictor model True seen made state ∧
        made.batchFeatures = [])
      (submitGpuPredictionPipelineBatch predictor batch (model, device)) := by
  unfold submitGpuPredictionPipelineBatch
  by_cases empty : batch.batchFeatures = []
  · rw [if_pos (by simp [empty])]
    exact reaches_pure ⟨kept, empty⟩
  · rw [if_neg (by simpa using empty)]
    apply reaches_bind (attempt_reaches _)
    intro result state ran
    obtain ⟨reached, same, stepped⟩ := ran
    subst same
    cases result with
    | ok submitted =>
        have queued := queued_kept rowWise kept stepped
        dsimp only
        split
        · obtain ⟨oldest, rest, same⟩ := List.exists_cons_of_ne_nil
            (show batch.pending ++ [submitted] ≠ [] by simp)
          apply reaches_mono (collect_reaches splits same queued)
          intro made state arrived
          exact ⟨arrived.1, arrived.2.2⟩
        · exact reaches_pure ⟨queued, rfl⟩
    | error failure =>
        dsimp only
        split
        · have again : GpuKept network predictor model True seen batch (model, reached) :=
            ⟨⟨reached, rfl⟩, kept.2⟩
          apply reaches_bind (drain_reaches splits again)
          intro drained state arrived
          obtain ⟨keptDrained, noPending, _⟩ := arrived
          obtain ⟨⟨reached, there⟩, _, held, account, features, ids, direct⟩ := keptDrained
          subst there
          apply reaches_bind (require_reaches (splits.imp_right fun only => only.recover reached))
          intro _ state recovered
          obtain ⟨reached, there⟩ := recovered
          subst there
          rw [features, ids]
          apply reaches_bind (adaptive_reaches rowWise splits direct drained.probabilities reached)
          intro made state arrived
          obtain ⟨there, more, same, served⟩ := arrived
          rw [noPending] at account
          have done : GpuDone network predictor model seen
              { drained with batchFeatures := [], batchIds := [], probabilities := made } state := by
            refine ⟨there, noPending, rfl, rfl, ?_⟩
            dsimp only
            rw [same]
            exact account_flush account served
          exact reaches_pure ⟨done.kept, rfl⟩
        · rename_i single
          apply fail_after_discard_reaches
          exact splits.resolve_right fun only => single (only.submit _ _ _ _ _ stepped)

theorem finish_reaches (rowWise : RowWiseDevice network model.2 predictor)
    (splits : mayFail ∨ SplitsOnly predictor)
    (kept : GpuKept network predictor model True seen batch (model, device)) :
    Reaches mayFail (GpuDone network predictor model seen)
      (submitAndDrainGpuPredictions predictor batch (model, device)) := by
  apply reaches_bind (submit_reaches rowWise splits kept)
  intro submitted state arrived
  obtain ⟨keptSubmitted, emptied⟩ := arrived
  obtain ⟨reached, there⟩ := keptSubmitted.1
  subst there
  apply reaches_mono (drain_reaches splits keptSubmitted)
  intro drained state arrived
  obtain ⟨⟨there, _, held, account, features, ids, _⟩, noPending, same⟩ := arrived
  have noneHeld : held = [] := by simpa [same, emptied] using features.symm
  subst noneHeld
  rw [noPending] at account
  exact ⟨there, noPending, features, ids, account⟩

/-- What the loops need of the calls that hand the buffer over. -/
structure Settles (network : PredictionNetwork F V Logits) (predictor : GpuPredictor F V Device Handle)
    (model : ModelState F V) (mayFail pendingAllowed : Prop)
    (settle finish : GpuBatch F V Handle → GpuMethod F V Device (GpuBatch F V Handle)) : Prop where
  settle : ∀ (seen : List (ReviewInput F)) (batch : GpuBatch F V Handle) (device : Device),
    GpuKept network predictor model pendingAllowed seen batch (model, device) →
    Reaches mayFail (GpuKept network predictor model pendingAllowed seen)
      (settle batch (model, device))
  finish : ∀ (seen : List (ReviewInput F)) (batch : GpuBatch F V Handle) (device : Device),
    GpuKept network predictor model pendingAllowed seen batch (model, device) →
    Reaches mayFail (GpuDone network predictor model seen) (finish batch (model, device))

theorem flush_settles (rowWise : RowWiseDevice network model.2 predictor)
    (splits : mayFail ∨ SplitsOnly predictor) :
    Settles network predictor model mayFail False (flushGpuBatch predictor)
      (flushGpuBatch predictor) := by
  constructor
  · intro seen batch device kept
    apply reaches_mono (flush_gpu_reaches rowWise splits kept)
    intro made state done
    exact done.kept
  · intro seen batch device kept
    exact flush_gpu_reaches rowWise splits kept

theorem pipeline_settles (rowWise : RowWiseDevice network model.2 predictor)
    (splits : mayFail ∨ SplitsOnly predictor) :
    Settles network predictor model mayFail True (submitGpuPredictionPipelineBatch predictor)
      (submitAndDrainGpuPredictions predictor) := by
  constructor
  · intro seen batch device kept
    apply reaches_mono (submit_reaches rowWise splits kept)
    intro made state arrived
    exact arrived.1
  · intro seen batch device kept
    exact finish_reaches rowWise splits kept

theorem fallback_reaches (answerable : mayFail ∨ ∃ value, Answered network .oracle model input value) :
    Reaches mayFail (fun value state => state = model ∧ Answered network .oracle model input value)
      (fallbackProbability network input model) := by
  unfold fallbackProbability
  rw [bind_of_ok (on_features_current model), (row_ids_of_int (predict_row_id model.1 input)).2,
    bind_of_ok (lift_ok _ _)]
  exact scalar_reaches answerable

theorem served_direct (batchable : Batchable model.1 input)
    (served : ∃ value, Served network model input value) : Direct model input := by
  obtain ⟨value, ⟨direct, _⟩ | ⟨unbatchable, _⟩⟩ := served
  · exact direct
  · rw [batchable.accepted] at unbatchable
    cases unbatchable

theorem row_turn
    {settle finish : GpuBatch F V Handle → GpuMethod F V Device (GpuBatch F V Handle)}
    (settles : Settles network predictor model mayFail pendingAllowed settle finish)
    (answerable : mayFail ∨ ∃ value, Served network model input value)
    {direct : Option (List V × ReviewIds)}
    (found : directPredictFeatures model.1 input = .ok direct)
    (kept : GpuKept network predictor model pendingAllowed seen batch (model, device)) :
    Reaches mayFail (GpuKept network predictor model pendingAllowed (seen ++ [input]))
      (gpuRowTurn network settle finish batchSize batch (input, direct) (model, device)) := by
  unfold gpuRowTurn
  cases batchable_or_not model.1 input with
  | inl batchable =>
      obtain ⟨length, same⟩ := (direct_batchable batchable direct).mp found
      subst same
      obtain ⟨there, pending, held, account, features, ids, direct⟩ := kept
      have pushed : GpuKept network predictor model pendingAllowed (seen ++ [input])
          { batch with
            batchFeatures := batch.batchFeatures ++ [queryFeatures model.1 input]
            batchIds := batch.batchIds ++ [normalizedReviewIds input] } (model, device) := by
        refine ⟨there, pending, held ++ [input], account_hold account, ?_, ?_, ?_⟩
        · simp [features]
        · simp [ids]
        · intro other member
          rcases List.mem_append.mp member with before | here
          · exact direct other before
          · exact List.mem_singleton.mp here ▸ ⟨batchable, length⟩
      dsimp only
      split
      · exact settles.settle _ _ _ pushed
      · exact reaches_pure pushed
  | inr unbatchable =>
      rw [direct_unbatchable unbatchable] at found
      cases found
      apply reaches_bind (settles.finish _ _ _ kept)
      intro finished state done
      obtain ⟨⟨reached, there⟩, pending, features, ids, account⟩ := done
      subst there
      have scalar : mayFail ∨ ∃ value, Answered network .oracle model input value := by
        rcases answerable with may | ⟨value, ⟨direct, _⟩ | ⟨_, answered⟩⟩
        · exact Or.inl may
        · rw [direct.batchable.accepted] at unbatchable
          cases unbatchable
        · exact Or.inr ⟨value, answered⟩
      have answers : Reaches mayFail (fun value state => state = (model, reached) ∧
          Answered network .oracle model input value)
          (onModel (fallbackProbability network input) (model, reached)) := by
        apply on_model_reaches
        apply reaches_mono (fallback_reaches scalar)
        intro value state arrived
        exact ⟨by rw [arrived.1], arrived.2⟩
      apply reaches_bind answers
      intro value state arrived
      have served : Served network model input value := Or.inr ⟨unbatchable, arrived.2⟩
      have after : GpuDone network predictor model (seen ++ [input])
          { finished with probabilities := finished.probabilities ++ [value] } state :=
        ⟨⟨reached, arrived.1⟩, pending, features, ids, account_answer account served⟩
      exact reaches_pure after.kept

theorem direct_of_served (served : ∃ value, Served network model input value) :
    ∃ direct, directPredictFeatures model.1 input = .ok direct := by
  cases batchable_or_not model.1 input with
  | inl batchable =>
      have length := (served_direct batchable served).length
      exact ⟨_, (direct_batchable batchable _).mpr ⟨length, rfl⟩⟩
  | inr unbatchable => exact ⟨none, direct_unbatchable unbatchable⟩

theorem input_turn (rowWise : RowWiseDevice network model.2 predictor)
    (splits : mayFail ∨ SplitsOnly predictor)
    (answerable : mayFail ∨ ∃ value, Served network model input value)
    (kept : GpuKept network predictor model False seen batch (model, device)) :
    Reaches mayFail (GpuKept network predictor model False (seen ++ [input]))
      (gpuInputTurn network predictor batchSize batch input (model, device)) := by
  have made : Reaches mayFail (fun direct state => state = (model, device) ∧
      directPredictFeatures model.1 input = .ok direct)
      (onModel (directFeatures input) (model, device)) := by
    apply on_model_reaches
    unfold directFeatures
    rw [bind_of_ok (on_features_current model)]
    apply reaches_lift
    · intro direct found
      exact ⟨rfl, found⟩
    · intro message failed
      rcases answerable with may | served
      · exact may
      · obtain ⟨direct, found⟩ := direct_of_served served
        rw [found] at failed
        cases failed
  unfold gpuInputTurn
  apply reaches_bind made
  intro direct state arrived
  rw [arrived.1]
  exact row_turn (flush_settles rowWise splits) answerable arrived.2 kept

/-- The rows of a chunk, each with the direct features made for it. -/
theorem chunk_rows_reach
    {settle finish : GpuBatch F V Handle → GpuMethod F V Device (GpuBatch F V Handle)}
    (settles : Settles network predictor model mayFail pendingAllowed settle finish)
    {inputs : List (ReviewInput F)} {directs : List (Option (List V × ReviewIds))}
    (answerable : mayFail ∨ ∀ input ∈ inputs, ∃ value, Served network model input value)
    (made : inputs.mapM (directPredictFeatures model.1) = .ok directs)
    (kept : GpuKept network predictor model pendingAllowed seen batch (model, device)) :
    Reaches mayFail (GpuKept network predictor model pendingAllowed (seen ++ inputs))
      ((inputs.zip directs).foldlM (gpuRowTurn network settle finish batchSize) batch
        (model, device)) := by
  have pairs := List.forall₂_iff_zip.mp (mapM_ok made)
  have columns : (inputs.zip directs).map Prod.fst = inputs := by
    rw [List.map_fst_zip]
    exact pairs.1.le
  have turns : ∀ (before : List (ReviewInput F × Option (List V × ReviewIds)))
      (row : ReviewInput F × Option (List V × ReviewIds)), row ∈ inputs.zip directs →
      ∀ (batch : GpuBatch F V Handle) (state : ModelState F V × Device),
      GpuKept network predictor model pendingAllowed (seen ++ before.map Prod.fst) batch state →
      Reaches mayFail (fun made state => GpuKept network predictor model pendingAllowed
          (seen ++ (before ++ [row]).map Prod.fst) made state)
        (gpuRowTurn network settle finish batchSize batch row state) := by
    intro before row member batch state kept
    obtain ⟨reached, there⟩ := kept.1
    subst there
    obtain ⟨input, direct⟩ := row
    have inside : input ∈ inputs := (List.of_mem_zip member).1
    have found := pairs.2 member
    rw [List.map_append, ← List.append_assoc]
    exact row_turn settles (answerable.imp_right fun each => each input inside) found kept
  have run := reaches_foldlM [] turns (by simpa using kept)
  rw [List.nil_append, columns] at run
  exact run

theorem consume_reaches (rowWise : RowWiseDevice network model.2 predictor)
    (splits : mayFail ∨ SplitsOnly predictor) (inputs : List (ReviewInput F))
    (answerable : mayFail ∨ ∀ input ∈ inputs, ∃ value, Served network model input value)
    (kept : GpuKept network predictor model False seen batch (model, device)) :
    Reaches mayFail (GpuKept network predictor model False (seen ++ inputs))
      (consumeGpuInputChunk network predictor batchSize inputs batch (model, device)) := by
  unfold consumeGpuInputChunk
  by_cases empty : inputs = []
  · subst empty
    rw [if_pos (by simp), List.append_nil]
    exact reaches_pure kept
  · have made : Reaches mayFail (fun directs state => state = (model, device) ∧
        inputs.mapM (directPredictFeatures model.1) = .ok directs)
        (onModel (directFeaturesOf inputs) (model, device)) := by
      apply on_model_reaches
      unfold directFeaturesOf
      rw [bind_of_ok (on_features_current model)]
      apply reaches_lift
      · intro directs found
        exact ⟨rfl, found⟩
      · intro message failed
        obtain ⟨input, member, stopped⟩ := mapM_error_mem failed
        rcases answerable with may | each
        · exact may
        · obtain ⟨direct, found⟩ := direct_of_served (each input member)
          rw [found] at stopped
          cases stopped
    rw [if_neg (by simpa using empty)]
    apply reaches_bind made
    intro directs state arrived
    rw [arrived.1]
    exact chunk_rows_reach (flush_settles rowWise splits) answerable arrived.2 kept

theorem consume_pipelined_reaches (rowWise : RowWiseDevice network model.2 predictor)
    (splits : mayFail ∨ SplitsOnly predictor) (inputs : List (ReviewInput F))
    (answerable : mayFail ∨ ∀ input ∈ inputs, ∃ value, Served network model input value)
    (kept : GpuKept network predictor model True seen batch (model, device)) :
    Reaches mayFail (GpuKept network predictor model True (seen ++ inputs))
      (consumeGpuInputChunkPipelined network predictor batchSize inputs batch (model, device)) := by
  unfold consumeGpuInputChunkPipelined
  by_cases empty : inputs = []
  · subst empty
    rw [if_pos (by simp), List.append_nil]
    exact reaches_pure kept
  · have made : Reaches mayFail (fun directs state => state = (model, device) ∧
        inputs.mapM (directPredictFeatures model.1) = .ok directs)
        (directFeaturesOrDiscard predictor batch.pending inputs (model, device)) := by
      unfold directFeaturesOrDiscard
      rw [bind_of_ok (show onModel (onFeatures current) (model, device) =
        (.ok model.1, (model, device)) from rfl)]
      cases found : inputs.mapM (directPredictFeatures model.1) with
      | ok directs => exact reaches_pure ⟨rfl, rfl⟩
      | error message =>
          have may : mayFail := by
            obtain ⟨input, member, stopped⟩ := mapM_error_mem found
            rcases answerable with may | each
            · exact may
            · obtain ⟨direct, made⟩ := direct_of_served (each input member)
              rw [made] at stopped
              cases stopped
          have discards : Reaches mayFail (fun _ _ => True)
              (discardGpuPredictionPipeline predictor batch.pending (model, device)) := by
            constructor
            · intro _ _ _
              trivial
            · intro stopped reached ran
              cases ran
          apply reaches_bind discards
          intro cleanup reached _
          cases cleanup with
          | none => exact reaches_fail may
          | some cleanup => exact reaches_fail may
    rw [if_neg (by simpa using empty)]
    apply reaches_bind made
    intro directs state arrived
    rw [arrived.1]
    exact chunk_rows_reach (pipeline_settles rowWise splits) answerable arrived.2 kept

theorem empty_batch_kept :
    GpuKept network predictor model pendingAllowed [] (emptyGpuBatch : GpuBatch F V Handle)
      (model, device) :=
  GpuDone.kept ⟨⟨device, rfl⟩, rfl, rfl, rfl, account_start⟩

/-- What was consumed comes before what is gathered. -/
def Gathered (network : PredictionNetwork F V Logits) (predictor : GpuPredictor F V Device Handle)
    (model : ModelState F V) (pendingAllowed : Prop) (inputs seen : List (ReviewInput F))
    (gathered : List (ReviewInput F) × GpuBatch F V Handle)
    (state : ModelState F V × Device) : Prop :=
  ∃ front, seen = front ++ gathered.1 ∧ (∀ input ∈ gathered.1, input ∈ inputs) ∧
    GpuKept network predictor model pendingAllowed front gathered.2 state

/-- What the loops need of the consumption of a chunk. -/
def Consumes (network : PredictionNetwork F V Logits) (predictor : GpuPredictor F V Device Handle)
    (model : ModelState F V) (mayFail pendingAllowed : Prop) (inputs : List (ReviewInput F))
    (consume : List (ReviewInput F) → GpuBatch F V Handle →
      GpuMethod F V Device (GpuBatch F V Handle)) : Prop :=
  ∀ (seen chunk : List (ReviewInput F)) (batch : GpuBatch F V Handle) (device : Device),
    (∀ input ∈ chunk, input ∈ inputs) →
    GpuKept network predictor model pendingAllowed seen batch (model, device) →
    Reaches mayFail (GpuKept network predictor model pendingAllowed (seen ++ chunk))
      (consume chunk batch (model, device))

theorem gather_turn {inputs : List (ReviewInput F)}
    {consume : List (ReviewInput F) → GpuBatch F V Handle →
      GpuMethod F V Device (GpuBatch F V Handle)}
    (consumes : Consumes network predictor model mayFail pendingAllowed inputs consume)
    (member : input ∈ inputs) {gathered : List (ReviewInput F) × GpuBatch F V Handle}
    {state : ModelState F V × Device}
    (gathering : Gathered network predictor model pendingAllowed inputs seen gathered state) :
    Reaches mayFail (Gathered network predictor model pendingAllowed inputs (seen ++ [input]))
      (gatherTurn consume batchSize gathered input state) := by
  obtain ⟨front, parts, inside, kept⟩ := gathering
  obtain ⟨reached, there⟩ := kept.1
  subst there
  have insideMore : ∀ other ∈ gathered.1 ++ [input], other ∈ inputs := by
    intro other found
    rcases List.mem_append.mp found with before | here
    · exact inside other before
    · exact List.mem_singleton.mp here ▸ member
  unfold gatherTurn
  split
  · apply reaches_bind (consumes front (gathered.1 ++ [input]) gathered.2 reached insideMore kept)
    intro made state consumed
    refine reaches_pure ⟨seen ++ [input], by simp, by simp, ?_⟩
    rw [parts, List.append_assoc]
    exact consumed
  · refine reaches_pure ⟨front, ?_, insideMore, kept⟩
    rw [parts, List.append_assoc]

/-- Gathering the inputs in chunks consumes them all, in order. -/
theorem gather_reaches {inputs : List (ReviewInput F)}
    {consume : List (ReviewInput F) → GpuBatch F V Handle →
      GpuMethod F V Device (GpuBatch F V Handle)}
    (consumes : Consumes network predictor model mayFail pendingAllowed inputs consume) :
    Reaches mayFail (GpuKept network predictor model pendingAllowed inputs)
      (gatherChunks consume batchSize inputs (model, device)) := by
  have start : Gathered network predictor model pendingAllowed inputs []
      (([], emptyGpuBatch) : List (ReviewInput F) × GpuBatch F V Handle) (model, device) :=
    ⟨[], rfl, by simp, empty_batch_kept⟩
  unfold gatherChunks
  apply reaches_bind (reaches_foldlM [] (fun seen input member gathered state gathering =>
    gather_turn consumes member gathering) start)
  intro gathered state arrived
  obtain ⟨front, parts, inside, kept⟩ := arrived
  obtain ⟨reached, there⟩ := kept.1
  subst there
  have last := consumes front gathered.1 gathered.2 reached inside kept
  rw [← parts] at last
  exact last

/-- What the call checks before it makes features for a row. -/
structure GpuChecks (switches : PredictManySwitches) (loadedScope : Option CheckpointScope)
    (inputs : List (ReviewInput F)) (batchSize : Nat) (numThreads : Option Nat) : Prop where
  threads : validateNumThreads numThreads = .ok ()
  scopes : requireLoadedScopes loadedScope inputs = .ok ()
  pipeline : switches.gpuParallelFeatures = true →
    ∃ pipelined, usesPipeline switches inputs.length batchSize = .ok pipelined

theorem checked_reaches {Value Next : Type} {check : Except String Value}
    {next : Value → GpuMethod F V Device Next} {Goal : Next → ModelState F V × Device → Prop}
    {state : ModelState F V × Device} (passes : mayFail ∨ ∃ value, check = .ok value)
    (rest : ∀ value, Reaches mayFail Goal (next value state)) :
    Reaches mayFail Goal ((lift check >>= next) state) := by
  cases check with
  | ok value =>
      rw [bind_of_ok (lift_ok _ _)]
      exact rest value
  | error message =>
      apply reaches_fail
      rcases passes with may | ⟨value, impossible⟩
      · exact may
      · cases impossible

theorem done_served {inputs : List (ReviewInput F)} {state : ModelState F V × Device}
    (done : GpuDone network predictor model inputs batch state) :
    List.Forall₂ (Served network model) inputs batch.probabilities :=
  account_settled done.2.2.2.2

theorem sequential_reaches (rowWise : RowWiseDevice network model.2 predictor)
    (splits : mayFail ∨ SplitsOnly predictor) {inputs : List (ReviewInput F)}
    (answerable : mayFail ∨ ∀ input ∈ inputs, ∃ value, Served network model input value) :
    Reaches mayFail (GpuDone network predictor model inputs)
      (predictReviewInputsGpuSequential network predictor inputs batchSize (model, device)) := by
  have turns : ∀ (seen : List (ReviewInput F)) (input : ReviewInput F), input ∈ inputs →
      ∀ (batch : GpuBatch F V Handle) (state : ModelState F V × Device),
      GpuKept network predictor model False seen batch state →
      Reaches mayFail (GpuKept network predictor model False (seen ++ [input]))
        (gpuInputTurn network predictor batchSize batch input state) := by
    intro seen input member batch state kept
    obtain ⟨reached, there⟩ := kept.1
    subst there
    exact input_turn rowWise splits (answerable.imp_right fun each => each input member) kept
  unfold predictReviewInputsGpuSequential
  apply reaches_bind (reaches_foldlM [] turns empty_batch_kept)
  intro batch state kept
  obtain ⟨reached, there⟩ := kept.1
  subst there
  exact flush_gpu_reaches rowWise splits kept

theorem parallel_features_reaches (rowWise : RowWiseDevice network model.2 predictor)
    (splits : mayFail ∨ SplitsOnly predictor) {inputs : List (ReviewInput F)}
    (answerable : mayFail ∨ ∀ input ∈ inputs, ∃ value, Served network model input value) :
    Reaches mayFail (GpuDone network predictor model inputs)
      (predictReviewInputsGpuParallelFeatures network predictor inputs batchSize
        (model, device)) := by
  have consumes : Consumes network predictor model mayFail False inputs
      (consumeGpuInputChunk network predictor batchSize) := by
    intro seen chunk batch device inside kept
    exact consume_reaches rowWise splits chunk
      (answerable.imp_right fun each input member => each input (inside input member)) kept
  unfold predictReviewInputsGpuParallelFeatures
  apply reaches_bind (gather_reaches consumes)
  intro batch state kept
  obtain ⟨reached, there⟩ := kept.1
  subst there
  exact flush_gpu_reaches rowWise splits kept

theorem pipelined_reaches (rowWise : RowWiseDevice network model.2 predictor)
    (splits : mayFail ∨ SplitsOnly predictor) {inputs : List (ReviewInput F)}
    (answerable : mayFail ∨ ∀ input ∈ inputs, ∃ value, Served network model input value) :
    Reaches mayFail (GpuDone network predictor model inputs)
      (predictReviewInputsGpuParallelFeaturesPipelined network predictor inputs batchSize
        (model, device)) := by
  have consumes : Consumes network predictor model mayFail True inputs
      (consumeGpuInputChunkPipelined network predictor batchSize) := by
    intro seen chunk batch device inside kept
    exact consume_pipelined_reaches rowWise splits chunk
      (answerable.imp_right fun each input member => each input (inside input member)) kept
  unfold predictReviewInputsGpuParallelFeaturesPipelined
  apply reaches_bind (require_reaches (splits.imp_right fun only => only.begins device))
  intro _ state begun
  obtain ⟨reached, there⟩ := begun
  subst there
  apply reaches_bind (gather_reaches consumes)
  intro batch state kept
  obtain ⟨reached, there⟩ := kept.1
  subst there
  exact finish_reaches rowWise splits kept

/-- A call that returns has served every row; it returns where nothing fails but allocations. -/
theorem gpu_reaches {switches : PredictManySwitches} {loadedScope : Option CheckpointScope}
    {inputs : List (ReviewInput F)} {numThreads : Option Nat} (positive : 0 < batchSize)
    (rowWise : RowWiseDevice network model.2 predictor) (splits : mayFail ∨ SplitsOnly predictor)
    (checks : mayFail ∨ GpuChecks switches loadedScope inputs batchSize numThreads)
    (answerable : mayFail ∨ ∀ input ∈ inputs, ∃ value, Served network model input value) :
    Reaches mayFail (fun values _ => List.Forall₂ (Served network model) inputs values)
      (predictReviewInputsGpu network predictor switches loadedScope inputs batchSize numThreads
        (model, device)) := by
  have scopes : mayFail ∨ ∃ value, requireLoadedScopes loadedScope inputs = .ok value :=
    checks.imp_right fun passed => ⟨(), passed.scopes⟩
  have batches : Reaches mayFail (GpuDone network predictor model inputs)
      (predictGpuBatches network predictor switches loadedScope inputs batchSize
        (model, device)) := by
    unfold predictGpuBatches
    split
    · rename_i parallel
      apply checked_reaches (checks.imp_right fun passed => passed.pipeline parallel)
      intro pipelined
      apply checked_reaches scopes
      intro _
      cases pipelined with
      | true => exact pipelined_reaches rowWise splits answerable
      | false => exact parallel_features_reaches rowWise splits answerable
    · apply checked_reaches scopes
      intro _
      exact sequential_reaches rowWise splits answerable
  unfold predictReviewInputsGpu
  rw [if_neg (by omega)]
  apply checked_reaches (checks.imp_right fun passed => ⟨(), passed.threads⟩)
  intro _
  apply reaches_bind batches
  intro batch state done
  exact reaches_pure (done_served done)

end Served

end RwkvSrs.GpuBatches
