import RwkvSrs.ScopedLayers
import RwkvSrs.UndoableProcess

/-!
Processing through a layer. A batch of reviews of the identities, an undoable
review of one and a prediction return through the layer what they return without
it, and leave related models, whether they succeed or fail. An undo frame of
these identities restores alike on both.
-/

namespace RwkvSrs.ScopedProcessing

open Std FallibleMethod LockstepRules FeatureScaling ReviewInput TorchRng DeterministicState
open DeterministicUndo DeterministicTouch ModuleState NativeRnnState BatchJournal ReviewProcessing
open BatchAtomicity ReviewUndo UndoableProcess MergeCopies ScopedLayers

set_option autoImplicit false
set_option linter.unusedSectionVars false

variable {F V Logits Rows Value Next : Type}
  {identities : BatchIdentitySets}

section States

variable {backing : NativeRnn V} {ids : ReviewIds}

theorem whole_materialized {part whole : NativeRnn V}
    (laid : StatesLaid identities backing part whole) : Materialized whole := by
  have same := laid.laid
  subst same
  exact ⟨laid.materialized.keyed, laid.materialized.global⟩

theorem lockstep_materialize :
    Lockstep (StatesLaid identities backing) materializeFlatCpuState materializeFlatCpuState := by
  intro part whole laid
  rw [materialize_id laid.materialized, materialize_id (whole_materialized laid)]
  exact ⟨rfl, laid⟩

theorem laid_inputs (rnn : NativeRnn V) (covered : Covered identities ids) :
    stateInputs (layStates identities backing rnn) ids = stateInputs rnn ids := by
  have found : ∀ entity : EntityModule,
      ((layStates identities backing rnn).states entity)[entity.key ids]? =
        (rnn.states entity)[entity.key ids]? :=
    fun entity => laid_entry (covered_module covered entity)
  have card : ((layStates identities backing rnn).states .card)[ids.1]? = _ := found .card
  have note : ((layStates identities backing rnn).states .note)[ids.2.1]? = _ := found .note
  have deck : ((layStates identities backing rnn).states .deck)[ids.2.2.1]? = _ := found .deck
  have preset : ((layStates identities backing rnn).states .preset)[ids.2.2.2]? = _ :=
    found .preset
  unfold stateInputs
  dsimp only
  rw [card, note, deck, preset]
  rfl

theorem laid_insert_states (state : EntityModule → NativeRnnModuleState V)
    (globalState : NativeRnnModuleState V) {part whole : NativeRnn V}
    (laid : StatesLaid identities backing part whole) :
    StatesLaid identities backing (insertReviewStates ids state globalState part)
      (insertReviewStates ids state globalState whole) := by
  have same := laid.laid
  subst same
  apply StatesLaid.mk
  · unfold insertReviewStates layStates
    simp only [laid_insert]
  · apply Materialized.mk
    · intro entity
      have empty := laid.materialized.keyed entity
      simp [insertReviewStates, empty]
    · rfl

theorem lockstep_store (output : SrsReviewState V) :
    Lockstep (StatesLaid identities backing) (storeReviewStates ids output)
      (storeReviewStates ids output) := by
  apply lockstep_bind (lockstep_lift _)
  intro states
  split
  · apply lockstep_update
    intro part whole laid
    exact laid_insert_states _ _ laid
  · exact lockstep_fail _

end States

variable {backing : ModelState F V}

abbrev ModelInStep (identities : BatchIdentitySets) (backing : ModelState F V)
    (step : Method (ModelState F V) Value) : Prop :=
  Lockstep (ModelLaid identities backing) step step

theorem lockstep_features {step : Method (FeatureState F V) Value}
    (lockstep : InStep identities backing.1 step) :
    ModelInStep identities backing (onFeatures step) := by
  apply lockstep_on_part lockstep
  · intro part whole laid
    exact laid.features
  · intro part whole reached reached' laid related
    exact ⟨related, laid.states⟩

theorem lockstep_rnn {step : Method (NativeRnn V) Value}
    (lockstep : Lockstep (StatesLaid identities backing.2) step step) :
    ModelInStep identities backing (onRnn step) := by
  apply lockstep_on_part lockstep
  · intro part whole laid
    exact laid.states
  · intro part whole reached reached' laid related
    exact ⟨laid.features, related⟩

theorem lockstep_read_features {next next' : FeatureState F V → Method (ModelState F V) Next}
    (rest : ∀ part : FeatureState F V, Lockstep (ModelLaid identities backing) (next part)
      (next' (layFeatures identities backing.1 part))) :
    Lockstep (ModelLaid identities backing) (onFeatures current >>= next)
      (onFeatures current >>= next') := by
  apply lockstep_read_part (fun _ => rfl) (fun _ => rfl)
  intro part whole laid
  have same : whole.1 = layFeatures identities backing.1 part.1 := laid.features
  rw [same]
  exact rest part.1

theorem lockstep_read_rnn {next next' : NativeRnn V → Method (ModelState F V) Next}
    (rest : ∀ part : NativeRnn V, Lockstep (ModelLaid identities backing) (next part)
      (next' (layStates identities backing.2 part))) :
    Lockstep (ModelLaid identities backing) (onRnn current >>= next) (onRnn current >>= next') := by
  apply lockstep_read_part (fun _ => rfl) (fun _ => rfl)
  intro part whole laid
  rw [laid.states.laid]
  exact rest part.2

variable [Float64Ops F] [Float32Ops V] [FeatureFloat F V] {network : ReviewNetwork F V Logits Rows}
  {row : PreparedRow F} {ids : ReviewIds} {input : ReviewInput F}

theorem lockstep_probability (covered : Covered identities ids)
    (found : ∀ submodule : IdSubmodule, row[submodule.name]? = some (.int (submodule.key ids))) :
    ModelInStep identities backing (predictPreparedRowProbability network row ids) := by
  apply lockstep_bind (lockstep_features (lockstep_predict_vector (row_covered covered found)))
  intro features
  apply lockstep_bind (lockstep_lift _)
  intro tensor
  apply lockstep_read_rnn
  intro rnn
  rw [laid_inputs rnn covered]
  apply lockstep_bind (lockstep_lift _)
  intro logits
  exact lockstep_lift _

theorem lockstep_curve_rows (logits : Option Logits) (absent : String) :
    ModelInStep identities backing (curveRows network logits absent) := by
  cases logits with
  | none => exact lockstep_fail _
  | some found => exact lockstep_lift _

theorem lockstep_curves (returnCurves : Bool) (output : SrsReviewOutput V Logits) :
    ModelInStep identities backing (curveOutput network returnCurves output) := by
  cases returnCurves with
  | false => exact lockstep_pure _
  | true =>
      apply lockstep_bind (lockstep_curve_rows _ _)
      intro ahead
      apply lockstep_bind (lockstep_curve_rows _ _)
      intro w
      exact lockstep_pure _

theorem lockstep_process_row (covered : Covered identities ids)
    (found : ∀ submodule : IdSubmodule, row[submodule.name]? = some (.int (submodule.key ids)))
    (returnCurves : Bool) :
    ModelInStep identities backing (processPreparedRowWithState network row ids returnCurves) := by
  have rowInside := row_covered covered found
  apply lockstep_bind (lockstep_features (lockstep_feature_vector rowInside true))
  intro features
  apply lockstep_bind (lockstep_lift _)
  intro tensor
  apply lockstep_read_rnn
  intro rnn
  rw [laid_inputs rnn covered]
  apply lockstep_bind (lockstep_lift _)
  intro output
  apply lockstep_bind (lockstep_rnn (lockstep_store _))
  intro _
  apply lockstep_bind (lockstep_features lockstep_record_recurrent)
  intro _
  apply lockstep_bind
  · apply lockstep_features
    apply lockstep_record_processed
    intro cardId read
    exact rowInside .cardId cardId read
  intro _
  exact lockstep_curves returnCurves output

theorem lockstep_review (covered : Covered identities (normalizedReviewIds input))
    (returnCurves : Bool) :
    ModelInStep identities backing (processReviewInputWithState network returnCurves input) := by
  apply lockstep_read_features
  intro state
  rw [laid_predict_row state (covered .cardId)]
  have predicted := predict_row_id state input
  apply lockstep_lift_bind
  intro ids read
  rw [(row_ids_of_int predicted).2] at read
  cases read
  apply lockstep_bind (lockstep_probability covered predicted)
  intro probability
  apply lockstep_read_features
  intro reached
  rw [laid_process_row reached (covered .cardId)]
  apply lockstep_lift_bind
  intro row prepared
  apply lockstep_bind (lockstep_process_row covered (process_row_id prepared) returnCurves)
  intro curves
  exact lockstep_pure _

theorem lockstep_build (covered : Covered identities (normalizedReviewIds input)) :
    ModelInStep identities backing (buildStateOnlyInput network input) := by
  apply lockstep_read_features
  intro state
  rw [laid_process_row state (covered .cardId)]
  apply lockstep_lift_bind
  intro row prepared
  have found := process_row_id prepared
  apply lockstep_lift_bind
  intro ids read
  rw [(row_ids_of_int found).2] at read
  cases read
  apply lockstep_bind (lockstep_process_row covered found false)
  intro _
  exact lockstep_pure _

section Batches

variable {inputs : List (ReviewInput F)}

/-- A batch all of whose reviews are of the identities. -/
def BatchCovered (identities : BatchIdentitySets) (inputs : List (ReviewInput F)) : Prop :=
  ∀ input ∈ inputs, Covered identities (normalizedReviewIds input)

theorem lockstep_push (returnCurves : Bool) (output : NativeProcessManyOutput F Rows)
    (review : F × Option (Rows × Rows)) :
    ModelInStep identities backing (pushReview returnCurves output review) := by
  unfold pushReview
  split
  · split
    · exact lockstep_pure _
    · exact lockstep_fail _
    · exact lockstep_fail _
  · exact lockstep_pure _

theorem lockstep_reviews (covered : BatchCovered identities inputs) (returnCurves : Bool) :
    ModelInStep identities backing (processReviews network returnCurves inputs) := by
  apply lockstep_foldlM
  intro output input member
  apply lockstep_bind (lockstep_review (covered input member) returnCurves)
  intro review
  exact lockstep_push returnCurves output review

theorem lockstep_builds (covered : BatchCovered identities inputs) :
    ModelInStep identities backing (buildStates network inputs) := by
  apply lockstep_bind
  · apply lockstep_foldlM
    intro _ input member
    exact lockstep_build (covered input member)
  intro _
  exact lockstep_pure _

/-- Either journal takes its batch back. -/
theorem lockstep_journaled {step : Method (ModelState F V) Value}
    (within : Within (BatchIdentitySets.fromIds (inputs.map normalizedReviewIds)) step)
    (lockstep : ModelInStep identities backing step) :
    ModelInStep identities backing (journaled inputs step) := by
  intro part whole laid
  obtain ⟨same, reached⟩ := lockstep part whole laid
  cases left : step part with
  | mk result state =>
      cases right : step whole with
      | mk result' state' =>
          rw [left, right] at same reached
          have equal : result = result' := same
          subst equal
          cases result with
          | ok value =>
              unfold journaled restoringOnError
              rw [left, right]
              exact ⟨rfl, reached⟩
          | error failure =>
              cases failure with
              | panic message =>
                  unfold journaled restoringOnError
                  rw [left, right]
                  exact ⟨rfl, reached⟩
              | error message =>
                  rw [journaled_of_error within laid.states.materialized left,
                    journaled_of_error within (whole_materialized laid.states) right]
                  exact ⟨rfl, laid⟩

theorem lockstep_process_inputs (covered : BatchCovered identities inputs) (returnCurves : Bool)
    (numThreads : Option Nat) :
    ModelInStep identities backing
      (processReviewInputsWithState network inputs returnCurves numThreads) := by
  apply lockstep_bind (lockstep_lift _)
  intro _
  apply lockstep_bind (lockstep_rnn lockstep_materialize)
  intro _
  exact lockstep_journaled (within_process_reviews returnCurves)
    (lockstep_reviews covered returnCurves)

theorem lockstep_build_inputs (covered : BatchCovered identities inputs)
    (numThreads : Option Nat) :
    ModelInStep identities backing (buildStateOnlyInputsWithState network inputs numThreads) := by
  apply lockstep_bind (lockstep_lift _)
  intro _
  apply lockstep_bind (lockstep_rnn lockstep_materialize)
  intro _
  exact lockstep_journaled within_build_states (lockstep_builds covered)

end Batches

section Frames

variable {frame : UndoFrame F V} {saved : ModelState F V}

/-- Everything the frame restores is of the identities. -/
structure FrameInside (identities : BatchIdentitySets) (frame : UndoFrame F V) : Prop where
  states : Covered identities frame.recurrent.ids
  keys : Covered identities frame.deterministic.recurrentKeys.ids
  encodings : ∀ entry ∈ frame.deterministic.idEncodings, entry.id ∈ identities.of entry.submodule

theorem prepared_id (found : ∀ submodule : IdSubmodule,
    row[submodule.name]? = some (.int (submodule.key ids))) (submodule : IdSubmodule) :
    preparedI64 row submodule.name = .ok (submodule.key ids) := by
  unfold preparedI64
  rw [found submodule]
  rfl

theorem encodings_captured (found : ∀ submodule : IdSubmodule,
    row[submodule.name]? = some (.int (submodule.key ids))) (state : FeatureState F V)
    (submodules : List IdSubmodule) :
    submodules.mapM (captureEncoding state row) = .ok (submodules.map fun submodule =>
      ⟨submodule, submodule.key ids, (state.idEncodings submodule)[submodule.key ids]?⟩) := by
  induction submodules with
  | nil => rfl
  | cons submodule rest ih =>
      have captured : captureEncoding state row submodule = .ok
          ⟨submodule, submodule.key ids, (state.idEncodings submodule)[submodule.key ids]?⟩ := by
        unfold captureEncoding
        rw [prepared_id found submodule]
        rfl
      rw [List.mapM_cons, captured, ih]
      rfl

theorem captured_inside (covered : Covered identities ids) (found : ∀ submodule : IdSubmodule,
      row[submodule.name]? = some (.int (submodule.key ids)))
    (captured : UndoFrame.capture saved row ids = .ok frame) : FrameInside identities frame := by
  unfold UndoFrame.capture DeterministicUndoFrame.capture at captured
  rw [encodings_captured found] at captured
  cases captured
  apply FrameInside.mk
  · exact covered
  · exact covered
  · intro entry member
    obtain ⟨submodule, _, same⟩ := List.mem_map.mp member
    subst same
    exact covered submodule

/-- The frame of a review of the identities is the same through the layer. -/
theorem laid_captured (covered : Covered identities ids) (found : ∀ submodule : IdSubmodule,
      row[submodule.name]? = some (.int (submodule.key ids))) {part whole : ModelState F V}
    (laid : ModelLaid identities backing part whole) :
    UndoFrame.capture whole row ids = UndoFrame.capture part row ids := by
  have sameFeatures : whole.1 = layFeatures identities backing.1 part.1 := laid.features
  have encodings : (idSubmodules.map fun submodule => (⟨submodule, submodule.key ids,
      (whole.1.idEncodings submodule)[submodule.key ids]?⟩ : IdEncodingUndoEntry V)) =
        idSubmodules.map fun submodule =>
          ⟨submodule, submodule.key ids, (part.1.idEncodings submodule)[submodule.key ids]?⟩ := by
    apply List.map_congr_left
    intro submodule _
    rw [sameFeatures, laid_encoding part.1 (covered submodule)]
  have recurrent : captureRecurrent whole.2 ids = captureRecurrent part.2 ids := by
    unfold captureRecurrent
    rw [laid.states.laid]
    have found : ∀ entity : EntityModule,
        ((layStates identities backing.2 part.2).states entity)[entity.key ids]? =
          (part.2.states entity)[entity.key ids]? :=
      fun entity => laid_entry (covered_module covered entity)
    simp only [found]
    rfl
  have known : ids.1 ∈ whole.1.cardSet ↔ ids.1 ∈ part.1.cardSet := by
    rw [sameFeatures]
    exact laid_member (covered .cardId)
  have keys : ∀ (selected base kept : ExtTreeSet Int64) (id : Int64), id ∈ selected →
      decide (id ∈ overlaySet selected base kept) = decide (id ∈ kept) := by
    intro selected base kept id inside
    exact decide_eq_decide.mpr (laid_member inside)
  unfold UndoFrame.capture DeterministicUndoFrame.capture
  rw [encodings_captured found, encodings_captured found, encodings, recurrent]
  simp only [known]
  rw [sameFeatures]
  unfold layFeatures layKeys
  dsimp only
  have card : ids.1 ∈ identities.cardIds := covered .cardId
  have note : ids.2.1 ∈ identities.noteIds := covered .noteId
  have deck : ids.2.2.1 ∈ identities.deckIds := covered .deckId
  have preset : ids.2.2.2 ∈ identities.presetIds := covered .presetId
  rw [keys _ _ _ _ card, keys _ _ _ _ note, keys _ _ _ _ deck, keys _ _ _ _ preset,
    laid_entry card, laid_entry card, laid_entry card, laid_entry card, laid_entry card]

theorem laid_encodings_restored {backing encodings : IdEncodings V}
    {entries : List (IdEncodingUndoEntry V)}
    (inside : ∀ entry ∈ entries, entry.id ∈ identities.of entry.submodule) :
    entries.foldl restoreEncoding (layEncodings identities backing encodings) =
      layEncodings identities backing (entries.foldl restoreEncoding encodings) := by
  induction entries generalizing encodings with
  | nil => rfl
  | cons entry rest ih =>
      have one : restoreEncoding (layEncodings identities backing encodings) entry =
          layEncodings identities backing (restoreEncoding encodings entry) := by
        funext submodule
        unfold restoreEncoding layEncodings
        by_cases same : submodule = entry.submodule
        · have held : entry.id ∈ identities.of submodule := by
            rw [same]
            exact inside entry List.mem_cons_self
          simp only [if_pos same]
          exact (laid_restored held entry.previous).symm
        · simp only [if_neg same]
      rw [List.foldl_cons, List.foldl_cons, one]
      exact ih fun other member => inside other (List.mem_cons_of_mem entry member)

theorem laid_features_restored (inside : FrameInside identities frame) (state : FeatureState F V) :
    frame.deterministic.restore (layFeatures identities backing.1 state) =
      layFeatures identities backing.1 (frame.deterministic.restore state) := by
  have card : frame.deterministic.recurrentKeys.ids.1 ∈ identities.cardIds := inside.keys .cardId
  have note : frame.deterministic.recurrentKeys.ids.2.1 ∈ identities.noteIds :=
    inside.keys .noteId
  have deck : frame.deterministic.recurrentKeys.ids.2.2.1 ∈ identities.deckIds :=
    inside.keys .deckId
  have preset : frame.deterministic.recurrentKeys.ids.2.2.2 ∈ identities.presetIds :=
    inside.keys .presetId
  unfold DeterministicUndoFrame.restore RecurrentKeyUndoFrame.restore layFeatures layKeys
  dsimp only
  rw [laid_set_restored card, laid_set_restored card, laid_set_restored note,
    laid_set_restored deck, laid_set_restored preset, laid_restored card, laid_restored card,
    laid_restored card, laid_restored card, laid_restored card,
    laid_encodings_restored inside.encodings]

theorem laid_frame_restored (inside : FrameInside identities frame) {part whole : ModelState F V}
    (laid : ModelLaid identities backing part whole) :
    ModelLaid identities backing (frame.restore part) (frame.restore whole) := by
  have sameFeatures : whole.1 = layFeatures identities backing.1 part.1 := laid.features
  apply ModelLaid.mk
  · unfold FeaturesLaid UndoFrame.restore
    rw [sameFeatures]
    exact laid_features_restored inside part.1
  · apply StatesLaid.mk
    · unfold UndoFrame.restore RecurrentUndoFrame.restore
      rw [laid.states.laid]
      unfold layStates
      dsimp only
      congr 1
      funext entity
      exact (laid_restored (covered_module inside.states entity) _).symm
    · exact ⟨laid.states.materialized.keyed, laid.states.materialized.global⟩

/-- A step that fails with an error is undone by its frame. -/
theorem lockstep_restoring (inside : FrameInside identities frame)
    {step : Method (ModelState F V) Value} (lockstep : ModelInStep identities backing step) :
    ModelInStep identities backing
      (restoringOnError (fun _ reached => frame.restore reached) step) := by
  intro part whole laid
  obtain ⟨same, reached⟩ := lockstep part whole laid
  cases left : step part with
  | mk result state =>
      cases right : step whole with
      | mk result' state' =>
          rw [left, right] at same reached
          have equal : result = result' := same
          subst equal
          unfold restoringOnError
          rw [left, right]
          cases result with
          | ok value => exact ⟨rfl, reached⟩
          | error failure =>
              cases failure with
              | panic message => exact ⟨rfl, reached⟩
              | error message => exact ⟨rfl, laid_frame_restored inside reached⟩

end Frames

theorem lockstep_undoable (covered : Covered identities (normalizedReviewIds input))
    (returnCurves : Bool) (numThreads : Option Nat) :
    ModelInStep identities backing
      (undoableProcessInputWithState network input returnCurves numThreads) := by
  apply lockstep_bind (lockstep_lift _)
  intro _
  apply lockstep_bind (lockstep_rnn lockstep_materialize)
  intro _
  apply lockstep_read_features
  intro state
  rw [laid_predict_row state (covered .cardId)]
  have predicted := predict_row_id state input
  apply lockstep_lift_bind
  intro ids read
  rw [(row_ids_of_int predicted).2] at read
  cases read
  apply lockstep_bind (lockstep_probability covered predicted)
  intro probability
  apply lockstep_read_features
  intro reached
  rw [laid_process_row reached (covered .cardId)]
  apply lockstep_lift_bind
  intro row prepared
  have found := process_row_id prepared
  apply lockstep_read
  intro part whole laid
  rw [laid_captured covered found laid]
  apply lockstep_lift_bind
  intro frame captured
  have inside := captured_inside covered found captured
  apply lockstep_bind (lockstep_restoring inside (lockstep_process_row covered found returnCurves))
  intro curves
  exact lockstep_pure _

end RwkvSrs.ScopedProcessing
