import RwkvSrs.BulkProcessing
import RwkvSrs.ExactNumbers

/-!
Batches on the CPU are atomic. Whatever a batch executor has done when it fails,
it wrote entries of the batch's identities only, so the journal captured before
the first row puts every entry back.
-/

namespace RwkvSrs.BatchAtomicity

open Std RwkvSrs.FallibleMethod RwkvSrs.FeatureScaling RwkvSrs.ReviewInput
open RwkvSrs.DeterministicState RwkvSrs.DeterministicUndo RwkvSrs.DeterministicTouch
open RwkvSrs.ModuleState RwkvSrs.NativeRnnState RwkvSrs.BatchJournal RwkvSrs.ReviewProcessing
open RwkvSrs.PipelineLine RwkvSrs.BulkStreamPlan RwkvSrs.BulkExecution RwkvSrs.BulkProcessing

set_option autoImplicit false
set_option linter.unusedSectionVars false

variable {F V Logits Rows Value Next : Type} [Float64Ops F] [Float32Ops V] [FeatureFloat F V]
variable {identities : BatchIdentitySets} {network : ReviewNetwork F V Logits Rows}

abbrev Stores (identities : BatchIdentitySets) (step : Method (NativeRnn V) Value) : Prop :=
  Keeps (StoresWithin identities) step

theorem stores_bind {step : Method (NativeRnn V) Value} {next : Value → Method (NativeRnn V) Next}
    (first : Stores identities step) (rest : ∀ value, Stores identities (next value)) :
    Stores identities (step >>= next) :=
  keeps_bind (fun _ _ _ before after => before.trans after) first rest

theorem stores_lift (result : Except String Value) :
    Stores identities (lift result : Method (NativeRnn V) Value) :=
  keeps_lift StoresWithin.refl result

theorem stores_current : Stores identities (current : Method (NativeRnn V) (NativeRnn V)) :=
  keeps_current StoresWithin.refl

theorem stores_insert {ids : ReviewIds} (covered : Covered identities ids)
    (state : EntityModule → NativeRnnModuleState V) (globalState : NativeRnnModuleState V) :
    Stores identities (update (insertReviewStates ids state globalState)) := by
  apply keeps_update
  intro rnn
  constructor
  · intro entity key outside
    have different : entity.key ids ≠ key := by
      intro same
      exact outside (same ▸ covered_module covered entity)
    simp [insertReviewStates, ExtTreeMap.getElem?_insert, different]
  · intro materialized
    constructor
    · intro entity
      have empty := materialized.keyed entity
      simp [insertReviewStates, empty]
    · rfl

theorem stores_review_states {ids : ReviewIds} (covered : Covered identities ids)
    (output : SrsReviewState V) : Stores identities (storeReviewStates ids output) := by
  apply stores_bind (stores_lift _)
  intro states
  split
  · exact stores_insert covered _ _
  · exact keeps_fail StoresWithin.refl _

abbrev Within (identities : BatchIdentitySets) (step : Method (ModelState F V) Value) : Prop :=
  Keeps (BatchWithin identities) step

theorem within_lift (result : Except String Value) :
    Within identities (lift result : Method (ModelState F V) Value) :=
  keeps_lift BatchWithin.refl result

theorem within_rnn_current :
    Within identities (onRnn current : Method (ModelState F V) (NativeRnn V)) :=
  within_rnn stores_current

theorem within_features_current :
    Within identities (onFeatures current : Method (ModelState F V) (FeatureState F V)) :=
  within_features (keeps_current AgreeOutside.refl)

theorem within_probability {row : PreparedRow F} {ids : ReviewIds}
    (covered : RowCovered identities row) :
    Within identities (predictPreparedRowProbability network row ids) := by
  apply within_bind (within_features (touches_predict_feature_vector covered))
  intro features
  apply within_bind (within_lift _)
  intro tensor
  apply within_bind within_rnn_current
  intro rnn
  apply within_bind (within_lift _)
  intro logits
  exact within_lift _

theorem within_curve_rows (logits : Option Logits) (absent : String) :
    Within identities (curveRows network logits absent : Method (ModelState F V) Rows) := by
  cases logits with
  | none => exact keeps_fail BatchWithin.refl _
  | some logits => exact within_lift _

theorem within_curve_output (returnCurves : Bool) (output : SrsReviewOutput V Logits) :
    Within identities (curveOutput network returnCurves output :
      Method (ModelState F V) (Option (Rows × Rows))) := by
  unfold curveOutput
  split
  · apply within_bind (within_curve_rows _ _)
    intro ahead
    apply within_bind (within_curve_rows _ _)
    intro w
    exact keeps_pure BatchWithin.refl _
  · exact keeps_pure BatchWithin.refl _

theorem within_process_row {row : PreparedRow F} {ids : ReviewIds}
    (covered : Covered identities ids)
    (found : ∀ submodule : IdSubmodule, row[submodule.name]? = some (.int (submodule.key ids)))
    (returnCurves : Bool) :
    Within identities (processPreparedRowWithState network row ids returnCurves) := by
  apply within_bind (within_features (touches_feature_vector (row_covered covered found) true))
  intro features
  apply within_bind (within_lift _)
  intro tensor
  apply within_bind within_rnn_current
  intro rnn
  apply within_bind (within_lift _)
  intro output
  apply within_bind (within_rnn (stores_review_states covered _))
  intro _
  apply within_bind
  · apply within_features
    apply touches_record_recurrent
    intro read same
    rw [(row_ids_of_int found).1] at same
    cases same
    exact covered
  intro _
  apply within_bind
  · apply within_features
    apply touches_record_processed
    intro cardId read
    exact row_covered covered found .cardId cardId read
  intro _
  exact within_curve_output returnCurves output

variable {input : ReviewInput F}

theorem within_process_review (covered : Covered identities (normalizedReviewIds input))
    (returnCurves : Bool) :
    Within identities (processReviewInputWithState network returnCurves input) := by
  apply within_bind within_features_current
  intro state
  have predicted := predict_row_id state input
  apply keeps_lift_bind BatchWithin.refl
  intro ids read
  rw [(row_ids_of_int predicted).2] at read
  cases read
  apply within_bind (within_probability (row_covered covered predicted))
  intro probability
  apply within_bind within_features_current
  intro reached
  apply keeps_lift_bind BatchWithin.refl
  intro row prepared
  apply within_bind (within_process_row covered (process_row_id prepared) returnCurves)
  intro curves
  exact keeps_pure BatchWithin.refl _

theorem within_build_state (covered : Covered identities (normalizedReviewIds input)) :
    Within identities (buildStateOnlyInput network input) := by
  apply within_bind within_features_current
  intro state
  apply keeps_lift_bind BatchWithin.refl
  intro row prepared
  have found := process_row_id prepared
  apply keeps_lift_bind BatchWithin.refl
  intro ids read
  rw [(row_ids_of_int found).2] at read
  cases read
  apply within_bind (within_process_row covered found false)
  intro _
  exact keeps_pure BatchWithin.refl _

theorem within_push (returnCurves : Bool) (output : NativeProcessManyOutput F Rows)
    (review : F × Option (Rows × Rows)) :
    Within identities (pushReview returnCurves output review :
      Method (ModelState F V) (NativeProcessManyOutput F Rows)) := by
  unfold pushReview
  split
  · split
    · exact keeps_pure BatchWithin.refl _
    · exact keeps_fail BatchWithin.refl _
    · exact keeps_fail BatchWithin.refl _
  · exact keeps_pure BatchWithin.refl _

section Batches

variable {inputs : List (ReviewInput F)}

theorem batch_covers (member : input ∈ inputs) :
    Covered (BatchIdentitySets.fromIds (inputs.map normalizedReviewIds))
      (normalizedReviewIds input) :=
  from_ids_covers (List.mem_map_of_mem member)

theorem within_process_reviews (returnCurves : Bool) :
    Within (BatchIdentitySets.fromIds (inputs.map normalizedReviewIds))
      (processReviews network returnCurves inputs) := by
  apply keeps_foldlM BatchWithin.refl (fun _ _ _ before after => before.trans after)
  intro output input member
  apply within_bind (within_process_review (batch_covers member) returnCurves)
  intro review
  exact within_push returnCurves output review

theorem within_build_states :
    Within (BatchIdentitySets.fromIds (inputs.map normalizedReviewIds))
      (buildStates network inputs) := by
  apply within_bind
  · apply keeps_foldlM BatchWithin.refl (fun _ _ _ before after => before.trans after)
    intro _ input member
    exact within_build_state (batch_covers member)
  intro _
  exact keeps_pure BatchWithin.refl _

end Batches

section Bulk

variable {inputs : List (ReviewInput F)} {config : BulkConfig}
  {bulk : BulkNetwork F V (Rows × Rows)}

theorem within_prepass :
    Within (BatchIdentitySets.fromIds (inputs.map normalizedReviewIds))
      (onFeatures (featurePrepass inputs) : Method (ModelState F V) (List (BulkFeatureStep V))) := by
  apply within_features
  apply keeps_foldlM AgreeOutside.refl (fun _ _ _ before after => before.trans after)
  intro steps input member
  apply touches_bind (touches_feature_prepass_step (batch_covers member))
  intro step
  exact keeps_pure AgreeOutside.refl _

theorem prepass_step_ids {input : ReviewInput F} {before after : FeatureState F V}
    {step : BulkFeatureStep V} (ran : featurePrepassStep input before = (.ok step, after)) :
    step.ids = normalizedReviewIds input := by
  unfold featurePrepassStep at ran
  obtain ⟨state, _, _, ran⟩ := bind_ok_steps ran
  obtain ⟨ids, _, read, ran⟩ := bind_ok_steps ran
  have same := (lift_ok_value read).1
  rw [(row_ids_of_int (predict_row_id state input)).2] at same
  cases same
  obtain ⟨predictFeatures, _, _, ran⟩ := bind_ok_steps ran
  obtain ⟨_, _, _, ran⟩ := bind_ok_steps ran
  obtain ⟨row, _, _, ran⟩ := bind_ok_steps ran
  obtain ⟨processFeatures, _, _, ran⟩ := bind_ok_steps ran
  obtain ⟨_, _, _, ran⟩ := bind_ok_steps ran
  obtain ⟨_, _, _, ran⟩ := bind_ok_steps ran
  cases ran
  rfl

theorem prepass_ids {before after : FeatureState F V} {steps : List (BulkFeatureStep V)}
    (ran : featurePrepass inputs before = (.ok steps, after)) :
    ∀ step ∈ steps, ∃ input ∈ inputs, step.ids = normalizedReviewIds input := by
  apply foldlM_ok_keeps (fun steps : List (BulkFeatureStep V) =>
    ∀ step ∈ steps, ∃ input ∈ inputs, step.ids = normalizedReviewIds input) ?_ (by simp) ran
  intro steps input member before next after kept stepped
  unfold prepassReview at stepped
  obtain ⟨step, middle, made, stepped⟩ := bind_ok_steps stepped
  cases stepped
  intro other inside
  rcases List.mem_append.mp inside with earlier | last
  · exact kept other earlier
  · rw [List.mem_singleton.mp last]
    exact ⟨input, member, prepass_step_ids made⟩

theorem plan_key_covered {entity : EntityModule} {rnn : NativeRnn V} {ids : List ReviewIds}
    {key : Int64} (own : StreamKey (BulkModuleStreamPlan.fromIds (.keyed entity) rnn ids) key)
    (covered : ∀ one ∈ ids, Covered identities one) : key ∈ moduleIds identities entity := by
  obtain ⟨stream, member, same⟩ := own
  obtain ⟨keys, _, streams, touched, _⟩ := plan_streams (.keyed entity) rnn ids
  rw [streams] at member
  obtain ⟨found, inside, made⟩ := List.mem_map.mp member
  obtain ⟨one, within, equal⟩ := (touched found).mp inside
  have keyOf : entity.key one = key := by
    rw [← made] at same
    have both : some (entity.key one) = some key := equal.trans same
    exact Option.some.inj both
  rw [← keyOf]
  exact covered_module (covered one within) entity

theorem stores_final_states {module : SrsModule} {planned before : NativeRnn V}
    {ids : List ReviewIds} {rows : BulkModuleInput V} {output : BulkModulePairOutput V}
    (covered : ∀ one ∈ ids, Covered identities one)
    (executed : executeBulkModulePair config bulk module before
      (BulkModuleStreamPlan.fromIds module planned ids) rows = .ok output) (rnn : NativeRnn V) :
    StoresWithin identities rnn (applyBulkModuleFinalStates module output.finalStates rnn) := by
  unfold applyBulkModuleFinalStates
  split
  · rename_i entity states keyed
    have keys := module_pair_keys executed keyed
    constructor
    · intro other key outside
      by_cases same : other = entity
      · subst same
        simp only [if_true]
        refine (inserted_elsewhere ?_).symm
        intro entry member equal
        exact outside (equal ▸ plan_key_covered (keys entry member) covered)
      · simp [same]
    · intro materialized
      exact ⟨materialized.keyed, materialized.global⟩
  · exact ⟨fun _ _ _ => rfl, fun materialized => ⟨materialized.keyed, materialized.global⟩⟩
  · exact StoresWithin.refl rnn

theorem stores_layered {steps : List (BulkFeatureStep V)} (returnCurves : Bool)
    (covered : ∀ step ∈ steps, Covered identities step.ids) :
    Stores identities (processBulkLayeredPrepass config bulk steps returnCurves) := by
  have coveredIds : ∀ one ∈ steps.map (·.ids), Covered identities one := by
    intro one member
    obtain ⟨step, inside, same⟩ := List.mem_map.mp member
    exact same ▸ covered step inside
  apply stores_bind stores_current
  intro planned
  apply stores_bind (stores_lift _)
  intro queryRows
  apply stores_bind (stores_lift _)
  intro processRows
  apply stores_bind
  · apply keeps_foldlM StoresWithin.refl (fun _ _ _ before after => before.trans after)
    intro rows module _
    apply stores_bind stores_current
    intro rnn
    apply keeps_lift_bind StoresWithin.refl
    intro output executed
    apply stores_bind (keeps_update (stores_final_states coveredIds executed))
    intro _
    exact keeps_pure StoresWithin.refl _
  intro rows
  apply stores_bind (stores_lift _)
  intro probabilities
  split
  · exact stores_lift _
  · apply stores_bind (stores_lift _)
    intro curves
    exact keeps_pure StoresWithin.refl _

theorem within_rows_layered (returnCurves : Bool) :
    Within (BatchIdentitySets.fromIds (inputs.map normalizedReviewIds))
      (processRowsLayered config bulk inputs returnCurves) := by
  apply keeps_bind_run (fun _ _ _ before after => before.trans after) within_prepass
  intro state steps reached ran
  apply within_rnn
  apply stores_layered
  intro step member
  have prepass : featurePrepass inputs state.1 = (.ok steps, reached.1) := by
    cases ran' : featurePrepass inputs state.1
    simp only [onFeatures, onPart, ran', Prod.mk.injEq] at ran
    obtain ⟨sameResult, sameState⟩ := ran
    rw [sameResult, ← sameState]
  obtain ⟨input, inside, same⟩ := prepass_ids prepass step member
  exact same ▸ batch_covers inside

end Bulk

section ProcessMany

theorem stores_prediction (logits : Option Logits) :
    Stores identities (predictionOutput network logits : Method (NativeRnn V) F) := by
  cases logits with
  | none => exact keeps_fail StoresWithin.refl _
  | some logits => exact stores_lift _

theorem stores_logit_rows (logits : Option Logits) (absent : String) :
    Stores identities (logitRows network logits absent : Method (NativeRnn V) Rows) := by
  cases logits with
  | none => exact keeps_fail StoresWithin.refl _
  | some logits => exact stores_lift _

theorem stores_curves (returnCurves : Bool) (output : SrsReviewOutput V Logits)
    (curves : Option (List (Rows × Rows))) :
    Stores identities (pushCurves network returnCurves output curves) := by
  unfold pushCurves
  split
  · cases curves with
    | none => exact keeps_fail StoresWithin.refl _
    | some curves =>
        apply stores_bind (stores_logit_rows _ _)
        intro ahead
        apply stores_bind (stores_logit_rows _ _)
        intro w
        exact keeps_pure StoresWithin.refl _
  · exact keeps_pure StoresWithin.refl _

theorem stores_feature_row (returnCurves : Bool) (made : NativeProcessManyOutput F Rows)
    {row : FeatureRow V} (covered : Covered identities row.ids) :
    Stores identities (processFeatureRow network returnCurves made row) := by
  apply stores_bind stores_current
  intro rnn
  apply stores_bind (stores_lift _)
  intro predicted
  apply stores_bind (stores_prediction _)
  intro probability
  apply stores_bind stores_current
  intro rnn
  apply stores_bind (stores_lift _)
  intro output
  apply stores_bind (stores_review_states covered _)
  intro _
  apply stores_bind (stores_curves _ _ _)
  intro curves
  exact keeps_pure StoresWithin.refl _

theorem checked_rows_ids {predictFeatures processFeatures : List (List V)} {ids : List ReviewIds}
    {rows : List (FeatureRow V)}
    (checked : checkFeatureRows predictFeatures processFeatures ids = .ok rows) :
    ∀ row ∈ rows, row.ids ∈ ids := by
  obtain ⟨⟨predictRows, predictCols⟩, _, checked⟩ := ResultSteps.bind_ok.mp checked
  obtain ⟨⟨processRows, processCols⟩, _, checked⟩ := ResultSteps.bind_ok.mp checked
  simp only at checked
  split at checked
  · cases checked
  · split at checked
    · cases checked
    · cases checked
      intro row member
      obtain ⟨⟨pair, own⟩, inside, same⟩ := List.mem_map.mp member
      rw [← same]
      exact (List.of_mem_zip inside).2

theorem stores_feature_rows {ids : List ReviewIds} {rows : List (FeatureRow V)}
    (within : ∀ row ∈ rows, row.ids ∈ ids) (returnCurves : Bool) :
    Stores (BatchIdentitySets.fromIds ids) (processFeatureRows network rows returnCurves) := by
  apply keeps_foldlM StoresWithin.refl (fun _ _ _ before after => before.trans after)
  intro made row member
  exact stores_feature_row returnCurves made (from_ids_covers (within row member))

end ProcessMany

/-- Nothing changed but where recurrent states are held, and not even that if all were canonical. -/
structure Unchanged (before after : ModelState F V) : Prop where
  features : after.1 = before.1
  states : SameLatest before.2 after.2
  canonical : Materialized before.2 → after = before

def Atomic (call : Method (ModelState F V) Value) : Prop :=
  ∀ before message after, call before = (.error (.error message), after) → Unchanged before after

def AtomicRnn (call : Method (NativeRnn V) Value) : Prop :=
  ∀ before message after, call before = (.error (.error message), after) →
    SameLatest before after ∧ (Materialized before → after = before)

/-- The state a batch begins its first row in. -/
def Begins (before begun : ModelState F V) : Prop :=
  begun.1 = before.1 ∧ materializeFlatCpuState before.2 = (.ok (), begun.2)

/-- A row that fails after any processed rows fails the call, in the state it began in. -/
def RowFailureRestores {Item : Type} (turn : Value → Item → Method (ModelState F V) Value)
    (start : Value) (call : List Item → Method (ModelState F V) Next) : Prop :=
  ∀ done item rest before begun value reached message failed, Begins before begun →
    done.foldlM turn start begun = (.ok value, reached) →
    turn value item reached = (.error (.error message), failed) →
    call (done ++ item :: rest) before = (.error (.error message), begun)

theorem unchanged_refl (state : ModelState F V) : Unchanged state state :=
  ⟨rfl, SameLatest.refl state.2, fun _ => rfl⟩

/-- After a failed or finished materialization alone. -/
theorem unchanged_materialized (before : ModelState F V) :
    Unchanged before (before.1, (materializeFlatCpuState before.2).2) where
  features := rfl
  states := materialize_latest before.2
  canonical materialized := by rw [materialize_id materialized]

section Journaled

variable {inputs : List (ReviewInput F)} {step : Method (ModelState F V) Value}

/-- The journal undoes every error of a step that writes under the batch's identities alone. -/
theorem journaled_error {begun after : ModelState F V} {message : String}
    (within : Within (BatchIdentitySets.fromIds (inputs.map normalizedReviewIds)) step)
    (materialized : Materialized begun.2)
    (ran : journaled inputs step begun = (.error (.error message), after)) : after = begun := by
  obtain ⟨_, same⟩ := restoring_error ran
  rw [same]
  exact restore_batch_capture materialized (within begun)

theorem journaled_of_error {begun reached : ModelState F V} {message : String}
    (within : Within (BatchIdentitySets.fromIds (inputs.map normalizedReviewIds)) step)
    (materialized : Materialized begun.2)
    (failed : step begun = (.error (.error message), reached)) :
    journaled inputs step begun = (.error (.error message), begun) := by
  have restored := restore_batch_capture materialized (within begun)
  rw [failed] at restored
  rw [journaled, restoring_of_error failed, restored]

/-- The argument check and the materialization before a journaled step. -/
theorem atomic_prepared {check : Except String Unit} {step : Method (ModelState F V) Value}
    (rest : ∀ begun message after, Materialized begun.2 →
      step begun = (.error (.error message), after) → after = begun) :
    Atomic (do
      lift check
      onRnn materializeFlatCpuState
      step : Method (ModelState F V) Value) := by
  intro before message after ran
  cases check with
  | error message =>
      cases ran
      exact unchanged_refl before
  | ok _ =>
      rw [bind_of_ok (lift_ok _ before)] at ran
      have unchanged := unchanged_materialized before
      match materialized : materializeFlatCpuState before.2 with
      | (.error failure, rnn) =>
          have stopped : (onRnn materializeFlatCpuState : Method (ModelState F V) Unit) before =
              (.error failure, (before.1, rnn)) := by simp [onRnn, onPart, materialized]
          rw [bind_of_error stopped] at ran
          cases ran
          rw [materialized] at unchanged
          exact unchanged
      | (.ok (), rnn) =>
          have started : (onRnn materializeFlatCpuState : Method (ModelState F V) Unit) before =
              (.ok (), (before.1, rnn)) := by simp [onRnn, onPart, materialized]
          rw [bind_of_ok started] at ran
          rw [rest _ _ _ (materialize_ok materialized) ran]
          rw [materialized] at unchanged
          exact unchanged

theorem prepared_of_begins {check : Except String Unit} {step : Method (ModelState F V) Value}
    {before begun : ModelState F V} (checked : check = .ok ()) (begins : Begins before begun) :
    (do
      lift check
      onRnn materializeFlatCpuState
      step : Method (ModelState F V) Value) before = step begun := by
  obtain ⟨sameFeatures, materialized⟩ := begins
  have started : (onRnn materializeFlatCpuState : Method (ModelState F V) Unit) before =
      (.ok (), begun) := by
    simp only [onRnn, onPart, materialized]
    rw [← sameFeatures]
  rw [checked, bind_of_ok (lift_ok _ before), bind_of_ok started]

end Journaled

theorem begins_materialized {before begun : ModelState F V} (begins : Begins before begun) :
    Materialized begun.2 := materialize_ok begins.2

theorem validate_threads {numThreads : Option Nat} (positive : numThreads ≠ some 0) :
    validateNumThreads numThreads = .ok () := by
  rw [validateNumThreads, if_neg positive]

section Executors

variable (network) (config : BulkConfig) (bulk : BulkNetwork F V (Rows × Rows))

theorem process_inputs_atomic (inputs : List (ReviewInput F)) (returnCurves : Bool)
    (numThreads : Option Nat) :
    Atomic (processReviewInputsWithState network inputs returnCurves numThreads) := by
  apply atomic_prepared
  intro begun message after materialized ran
  exact journaled_error (within_process_reviews returnCurves) materialized ran

theorem build_inputs_atomic (inputs : List (ReviewInput F)) (numThreads : Option Nat) :
    Atomic (buildStateOnlyInputsWithState network inputs numThreads) := by
  apply atomic_prepared
  intro begun message after materialized ran
  exact journaled_error within_build_states materialized ran

theorem layered_error {inputs : List (ReviewInput F)} {returnCurves : Bool}
    {begun after : ModelState F V} {message : String} (materialized : Materialized begun.2)
    (ran : processLayered config bulk inputs returnCurves begun = (.error (.error message), after)) :
    after = begun := by
  unfold processLayered at ran
  split at ran
  · cases ran
  · exact journaled_error (within_rows_layered returnCurves) materialized ran

theorem bulk_layered_atomic (payload : Except String (List (ReviewInput F))) (returnCurves : Bool)
    (numThreads : Option Nat) :
    Atomic (processReviewsBulkLayeredWithState config bulk payload returnCurves numThreads) := by
  apply atomic_prepared
  intro begun message after materialized ran
  cases payload with
  | error message =>
      cases ran
      rfl
  | ok inputs =>
      rw [bind_of_ok (lift_ok _ begun)] at ran
      exact layered_error config bulk materialized ran

theorem process_many_atomic (predictFeatures processFeatures : List (List V))
    (ids : List ReviewIds) (returnCurves : Bool) :
    AtomicRnn (processMany network predictFeatures processFeatures ids returnCurves) := by
  intro before message after ran
  have latest := materialize_latest before
  have canonical : Materialized before → (materializeFlatCpuState before).2 = before := by
    intro materialized
    rw [materialize_id materialized]
  unfold processMany at ran
  match materialized : materializeFlatCpuState before with
  | (.error failure, rnn) =>
      rw [bind_of_error materialized] at ran
      cases ran
      rw [materialized] at latest canonical
      exact ⟨latest, canonical⟩
  | (.ok (), rnn) =>
      rw [bind_of_ok materialized] at ran
      rw [materialized] at latest canonical
      have same : after = rnn := by
        cases checked : checkFeatureRows predictFeatures processFeatures ids with
        | error message =>
            rw [checked] at ran
            cases ran
            rfl
        | ok rows =>
            rw [checked, bind_of_ok (lift_ok _ rnn)] at ran
            obtain ⟨_, restored⟩ := restoring_error ran
            rw [restored]
            exact restore_recurrent_capture (materialize_ok materialized)
              (stores_feature_rows (checked_rows_ids checked) returnCurves rnn)
      rw [same]
      exact ⟨latest, canonical⟩

theorem process_row_failure (returnCurves : Bool) {numThreads : Option Nat}
    (positive : numThreads ≠ some 0) :
    RowFailureRestores (processReview network returnCurves) (emptyOutput returnCurves)
      (fun inputs => processReviewInputsWithState network inputs returnCurves numThreads) := by
  intro done input rest before begun output reached message failed begins ran fails
  have stopped := foldlM_fails_at rest ran fails
  change processReviewInputsWithState network (done ++ input :: rest) returnCurves numThreads
    before = _
  unfold processReviewInputsWithState
  rw [prepared_of_begins (validate_threads positive) begins]
  exact journaled_of_error (within_process_reviews returnCurves) (begins_materialized begins) stopped

theorem build_row_failure {numThreads : Option Nat} (positive : numThreads ≠ some 0) :
    RowFailureRestores (buildState network) ()
      (fun inputs => buildStateOnlyInputsWithState network inputs numThreads) := by
  intro done input rest before begun output reached message failed begins ran fails
  have stopped := foldlM_fails_at rest ran fails
  have built : buildStates network (done ++ input :: rest) begun =
      (.error (.error message), failed) := bind_of_error stopped
  change buildStateOnlyInputsWithState network (done ++ input :: rest) numThreads before = _
  unfold buildStateOnlyInputsWithState
  rw [prepared_of_begins (validate_threads positive) begins]
  exact journaled_of_error within_build_states (begins_materialized begins) built

/-- The two ways the layered executor fails: while making features, or while running modules. -/
theorem bulk_failure {inputs : List (ReviewInput F)} {before begun : ModelState F V}
    {reached : ModelState F V} {message : String} {returnCurves : Bool} {numThreads : Option Nat}
    (positive : numThreads ≠ some 0) (begins : Begins before begun) (nonempty : inputs ≠ [])
    (failed : processRowsLayered config bulk inputs returnCurves begun =
      (.error (.error message), reached)) :
    processReviewsBulkLayeredWithState config bulk (.ok inputs) returnCurves numThreads before =
      (.error (.error message), begun) := by
  unfold processReviewsBulkLayeredWithState
  rw [prepared_of_begins (validate_threads positive) begins, bind_of_ok (lift_ok _ begun),
    processLayered, if_neg (by simpa using nonempty)]
  exact journaled_of_error (within_rows_layered returnCurves) (begins_materialized begins) failed

theorem bulk_row_failure {done rest : List (ReviewInput F)} {input : ReviewInput F}
    {before begun : ModelState F V} {steps : List (BulkFeatureStep V)}
    {reached failed : FeatureState F V} {message : String} {returnCurves : Bool}
    {numThreads : Option Nat} (positive : numThreads ≠ some 0) (begins : Begins before begun)
    (ran : done.foldlM prepassReview [] begun.1 = (.ok steps, reached))
    (fails : prepassReview steps input reached = (.error (.error message), failed)) :
    processReviewsBulkLayeredWithState config bulk (.ok (done ++ input :: rest)) returnCurves
      numThreads before = (.error (.error message), begun) := by
  have stopped : featurePrepass (done ++ input :: rest) begun.1 =
      (.error (.error message), failed) := foldlM_fails_at rest ran fails
  have lifted : (onFeatures (featurePrepass (done ++ input :: rest)) :
      Method (ModelState F V) _) begun = (.error (.error message), (failed, begun.2)) := by
    simp [onFeatures, onPart, stopped]
  apply bulk_failure config bulk positive begins (by simp)
  exact bind_of_error lifted

theorem bulk_forward_failure {inputs : List (ReviewInput F)} {before begun : ModelState F V}
    {steps : List (BulkFeatureStep V)} {features : FeatureState F V} {failed : NativeRnn V}
    {message : String} {returnCurves : Bool} {numThreads : Option Nat}
    (positive : numThreads ≠ some 0) (begins : Begins before begun) (nonempty : inputs ≠ [])
    (ran : featurePrepass inputs begun.1 = (.ok steps, features))
    (fails : processBulkLayeredPrepass config bulk steps returnCurves begun.2 =
      (.error (.error message), failed)) :
    processReviewsBulkLayeredWithState config bulk (.ok inputs) returnCurves numThreads before =
      (.error (.error message), begun) := by
  have lifted : (onFeatures (featurePrepass inputs) : Method (ModelState F V) _) begun =
      (.ok steps, (features, begun.2)) := by
    simp [onFeatures, onPart, ran]
  have stopped : (onRnn (processBulkLayeredPrepass config bulk steps returnCurves) :
      Method (ModelState F V) _) (features, begun.2) =
        (.error (.error message), (features, failed)) := by
    simp [onRnn, onPart, fails]
  apply bulk_failure config bulk positive begins nonempty
  unfold processRowsLayered
  rw [bind_of_ok lifted]
  exact stopped

theorem feature_row_failure {predictFeatures processFeatures : List (List V)}
    {ids : List ReviewIds} {done rest : List (FeatureRow V)} {row : FeatureRow V}
    {before begun reached failed : NativeRnn V} {output : NativeProcessManyOutput F Rows}
    {message : String} {returnCurves : Bool}
    (begins : materializeFlatCpuState before = (.ok (), begun))
    (checked : checkFeatureRows predictFeatures processFeatures ids = .ok (done ++ row :: rest))
    (ran : done.foldlM (processFeatureRow network returnCurves) (emptyOutput returnCurves) begun =
      (.ok output, reached))
    (fails : processFeatureRow network returnCurves output row reached =
      (.error (.error message), failed)) :
    processMany network predictFeatures processFeatures ids returnCurves before =
      (.error (.error message), begun) := by
  have stopped : processFeatureRows network (done ++ row :: rest) returnCurves begun =
      (.error (.error message), failed) := foldlM_fails_at rest ran fails
  have stores : Stores (BatchIdentitySets.fromIds ids)
      (processFeatureRows network (done ++ row :: rest) returnCurves) :=
    stores_feature_rows (checked_rows_ids checked) returnCurves
  have restored := restore_recurrent_capture (materialize_ok begins) (stores begun)
  unfold processMany
  rw [bind_of_ok begins, checked, bind_of_ok (lift_ok _ begun), restoring_of_error stopped]
  rw [stopped] at restored
  exact congrArg (Prod.mk _) restored

/-- Every error of a CPU batch leaves every state as it was, and every failing row is an error. -/
theorem cpu_batches_atomic :
    (∀ inputs returnCurves numThreads,
      Atomic (processReviewInputsWithState network inputs returnCurves numThreads) ∧
      (numThreads ≠ some 0 → RowFailureRestores (processReview network returnCurves)
        (emptyOutput returnCurves)
        (processReviewInputsWithState network · returnCurves numThreads))) ∧
    (∀ inputs numThreads,
      Atomic (buildStateOnlyInputsWithState network inputs numThreads) ∧
      (numThreads ≠ some 0 → RowFailureRestores (buildState network) ()
        (buildStateOnlyInputsWithState network · numThreads))) ∧
    (∀ predictFeatures processFeatures ids returnCurves,
      AtomicRnn (processMany network predictFeatures processFeatures ids returnCurves) ∧
      ∀ done row rest before begun output reached message failed,
        materializeFlatCpuState before = (.ok (), begun) →
        checkFeatureRows predictFeatures processFeatures ids = .ok (done ++ row :: rest) →
        done.foldlM (processFeatureRow network returnCurves) (emptyOutput returnCurves) begun =
          (.ok output, reached) →
        processFeatureRow network returnCurves output row reached =
          (.error (.error message), failed) →
        processMany network predictFeatures processFeatures ids returnCurves before =
          (.error (.error message), begun)) ∧
    (∀ payload returnCurves numThreads,
      Atomic (processReviewsBulkLayeredWithState config bulk payload returnCurves numThreads) ∧
      (numThreads ≠ some 0 → ∀ before begun : ModelState F V, Begins before begun →
        (∀ done input rest steps reached message failed,
          done.foldlM prepassReview [] begun.1 = (.ok steps, reached) →
          prepassReview steps input reached = (.error (.error message), failed) →
          processReviewsBulkLayeredWithState config bulk (.ok (done ++ input :: rest)) returnCurves
            numThreads before = (.error (.error message), begun)) ∧
        ∀ inputs steps features message failed, inputs ≠ [] →
          featurePrepass inputs begun.1 = (.ok steps, features) →
          processBulkLayeredPrepass config bulk steps returnCurves begun.2 =
            (.error (.error message), failed) →
          processReviewsBulkLayeredWithState config bulk (.ok inputs) returnCurves numThreads before =
            (.error (.error message), begun))) := by
  refine ⟨?_, ?_, ?_, ?_⟩
  · intro inputs returnCurves numThreads
    exact ⟨process_inputs_atomic network inputs returnCurves numThreads,
      process_row_failure network returnCurves⟩
  · intro inputs numThreads
    exact ⟨build_inputs_atomic network inputs numThreads, build_row_failure network⟩
  · intro predictFeatures processFeatures ids returnCurves
    constructor
    · exact process_many_atomic network predictFeatures processFeatures ids returnCurves
    · intro done row rest before begun output reached message failed begins checked ran fails
      exact feature_row_failure network begins checked ran fails
  · intro payload returnCurves numThreads
    constructor
    · exact bulk_layered_atomic config bulk payload returnCurves numThreads
    · intro positive before begun begins
      constructor
      · intro done input rest steps reached message failed ran fails
        exact bulk_row_failure config bulk positive begins ran fails
      · intro inputs steps features message failed nonempty ran fails
        exact bulk_forward_failure config bulk positive begins nonempty ran fails

end Executors

section Refused

open RwkvSrs.ExactNumbers

/-- The forward refuses a row that begins with a zero. -/
def refusingNetwork : ReviewNetwork Exact Exact Unit Unit where
  reviewForward features _ _ returnPrediction :=
    if features.head? = some ⟨0⟩ then .error "refused"
    else
      let noLayers : List (List (Tensor Exact)) := List.replicate srsReviewStateModules []
      .ok ⟨none, none, if returnPrediction then some () else none, ⟨noLayers, noLayers, noLayers⟩⟩
  predictForward _ _ := .ok ()
  probabilityFromLogits _ := .ok ⟨1⟩
  toVec2 _ := .ok ()

def noStates : NativeRnn Exact := ⟨fun _ => ∅, none, fun _ => ∅, none⟩

def firstRow : FeatureRow Exact := ⟨[⟨1⟩], [⟨1⟩], (1, 2, 3, 4)⟩

/-- The first row is stored, and the second is refused after its prediction. -/
example : ∃ output reached failed,
    processFeatureRow refusingNetwork false (emptyOutput false) firstRow noStates =
      (.ok output, reached) ∧ reached.globalState.isSome ∧
    processFeatureRow refusingNetwork false output ⟨[⟨1⟩], [⟨0⟩], (5, 2, 3, 4)⟩ reached =
      (.error (.error "refused"), failed) ∧
    processMany refusingNetwork [[⟨1⟩], [⟨1⟩]] [[⟨1⟩], [⟨0⟩]] [(1, 2, 3, 4), (5, 2, 3, 4)] false
      noStates = (.error (.error "refused"), noStates) := by
  have begins : materializeFlatCpuState noStates = (.ok (), noStates) :=
    materialize_id ⟨fun _ => rfl, rfl⟩
  have ran : [firstRow].foldlM (processFeatureRow refusingNetwork false) (emptyOutput false)
      noStates = processFeatureRow refusingNetwork false (emptyOutput false) firstRow noStates := rfl
  exact ⟨_, _, _, rfl, rfl, rfl, feature_row_failure refusingNetwork begins rfl ran rfl⟩

end Refused

end RwkvSrs.BatchAtomicity
