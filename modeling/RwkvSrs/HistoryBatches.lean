import RwkvSrs.CalmProcessing

/-!
A batch adds its reviews to the history, and a batch that fails adds none of
them. Whatever path a review takes, it leaves the feature state and the
recurrent states of the longer history.
-/

namespace RwkvSrs.HistoryBatches

open Std FallibleMethod FeatureScaling ReviewInput DeterministicState DeterministicTouch
open DirectFeatures DirectAgreement ModuleState NativeRnnState BatchJournal ReviewProcessing
open BatchAtomicity PredictionPurity UndoableProcess ReviewUndo ReviewHistory HistoryFeatures
open HistoryStates CalmMethods CalmProcessing

set_option autoImplicit false
set_option linter.unusedSectionVars false

variable {F V Logits Rows Value State Whole : Type}
  [Float64Ops F] [Float32Ops V] [ExactFeatureFloat F V]

/-- A relation between histories and models that a processed review takes one step further. -/
structure Records (network : ReviewNetwork F V Logits Rows)
    (follows : History F → ModelState F V → Prop) : Prop where
  materialized : ∀ {history : History F} {state : ModelState F V},
    follows history state → Materialized state.2
  seeded : ∀ {history : History F} {state : ModelState F V},
    follows history state → SeededModel state
  row : ∀ {history : History F} {input : ReviewInput F} {before after : ModelState F V}
    {row : PreparedRow F} {returnCurves : Bool} {curves : Option (Rows × Rows)},
      follows history before → prepareProcessRow before.1 input = .ok row →
        processPreparedRowWithState network row (normalizedReviewIds input) returnCurves before =
          (.ok curves, after) → follows (input :: history) after

variable {modules : RwkvModules} {network : ReviewNetwork F V Logits Rows}
  {follows : History F → ModelState F V → Prop} {history : History F}
  {before begun after : ModelState F V} {input : ReviewInput F} {returnCurves : Bool}

theorem begun_same (materialized : Materialized before.2) (begins : Begins before begun) :
    begun = before := by
  obtain ⟨sameFeatures, started⟩ := begins
  rw [materialize_id materialized] at started
  have sameStates := congrArg Prod.snd started
  exact Prod.ext sameFeatures sameStates.symm

theorem on_part_ok {part : Whole → State} {put : State → Whole → Whole} {step : Method State Value}
    {whole last : Whole} {value : Value}
    (ran : onPart part put step whole = (.ok value, last)) :
    ∃ reached, step (part whole) = (.ok value, reached) ∧ last = put reached whole := by
  unfold onPart at ran
  cases stepped : step (part whole) with
  | mk result reached =>
      rw [stepped] at ran
      cases ran
      exact ⟨reached, rfl, rfl⟩

theorem read_ok {step : Method State Value} {value : Value} {first last : State}
    (reads : ReadsOnly step) (ran : step first = (.ok value, last)) : last = first := by
  have same := reads first
  rw [ran] at same
  apply same
  intro panicked
  obtain ⟨message, impossible⟩ := panicked
  cases impossible

theorem reads_rnn :
    ReadsOnly (onRnn current : Method (ModelState F V) (NativeRnn V)) := by
  intro state _
  rfl

theorem reads_curve_rows (logits : Option Logits) (absent : String) :
    ReadsOnly (curveRows network logits absent : Method (ModelState F V) Rows) := by
  cases logits with
  | none =>
      intro state finishes
      exact absurd ⟨absent, rfl⟩ finishes
  | some found => exact reads_only_lift _

theorem reads_curves (output : SrsReviewOutput V Logits) :
    ReadsOnly (curveOutput network returnCurves output :
      Method (ModelState F V) (Option (Rows × Rows))) := by
  cases returnCurves with
  | false =>
      intro state _
      rfl
  | true =>
      apply reads_only_bind (reads_curve_rows _ _)
      intro ahead
      apply reads_only_bind (reads_curve_rows _ _)
      intro w state _
      rfl

/-- The process row records its review and stores the states the forward returned. -/
theorem row_steps {row : PreparedRow F} {curves : Option (Rows × Rows)}
    (prepared : prepareProcessRow before.1 input = .ok row)
    (ran : processPreparedRowWithState network row (normalizedReviewIds input) returnCurves before =
      (.ok curves, after)) :
    ∃ output features states tensor, Processes input before.1 features ∧
      network.reviewForward tensor (stateInputs before.2 (normalizedReviewIds input)) returnCurves
        false = .ok output ∧
      storeReviewStates (normalizedReviewIds input) output.states before.2 = (.ok (), states) ∧
      after = (features, states) := by
  obtain ⟨features, encoded, encode, ran⟩ := bind_ok_steps ran
  obtain ⟨drawn, drew, encodedSame⟩ := on_part_ok encode
  subst encodedSame
  obtain ⟨tensor, _, ran⟩ := ok_after_read (reads_only_lift _) ran
  obtain ⟨rnn, readRnn, ran⟩ := ok_after_read reads_rnn ran
  cases readRnn
  obtain ⟨output, forwarded, ran⟩ := ok_after_read (reads_only_lift _) ran
  obtain ⟨_, stored, store, ran⟩ := bind_ok_steps ran
  obtain ⟨states, storeRan, storedSame⟩ := on_part_ok store
  subst storedSame
  obtain ⟨_, keyed, key, ran⟩ := bind_ok_steps ran
  obtain ⟨keyedFeatures, keyRan, keyedSame⟩ := on_part_ok key
  subst keyedSame
  obtain ⟨_, recorded, record, ran⟩ := bind_ok_steps ran
  obtain ⟨recordedFeatures, recordRan, recordedSame⟩ := on_part_ok record
  subst recordedSame
  have same := read_ok (reads_curves output) ran
  subst same
  have recurrent := (record_prepared prepared drawn).1.symm.trans keyRan
  cases recurrent
  have processed := (record_prepared prepared _).2.symm.trans recordRan
  cases processed
  obtain ⟨encodings, encodedAll⟩ := process_row_draws prepared drew
  exact ⟨output, _, states, tensor, ⟨encodings, drawn, encodedAll, rfl⟩,
    (lift_ok_value forwarded).1, storeRan, rfl⟩

theorem review_follows (records : Records network follows) {review : F × Option (Rows × Rows)}
    (held : follows history before)
    (ran : processReviewInputWithState network returnCurves input before = (.ok review, after)) :
    follows (input :: history) after := by
  unfold processReviewInputWithState at ran
  obtain ⟨_, stateRead, ran⟩ := ok_after_read reads_features ran
  cases stateRead
  obtain ⟨ids, idsRead, ran⟩ := ok_after_read (reads_only_lift _) ran
  cases read_ids idsRead
  obtain ⟨probability, _, ran⟩ := ok_after_read (predict_probability_pure _ _ _) ran
  obtain ⟨_, reachedRead, ran⟩ := ok_after_read reads_features ran
  cases reachedRead
  obtain ⟨row, rowRead, ran⟩ := ok_after_read (reads_only_lift _) ran
  obtain ⟨curves, last, processed, ran⟩ := bind_ok_steps ran
  cases ran
  exact records.row held (lift_ok_value rowRead).1 processed

theorem build_follows (records : Records network follows) (held : follows history before)
    (ran : buildStateOnlyInput network input before = (.ok (), after)) :
    follows (input :: history) after := by
  unfold buildStateOnlyInput at ran
  obtain ⟨_, stateRead, ran⟩ := ok_after_read reads_features ran
  cases stateRead
  obtain ⟨row, rowRead, ran⟩ := ok_after_read (reads_only_lift _) ran
  have prepared := (lift_ok_value rowRead).1
  obtain ⟨ids, idsRead, ran⟩ := ok_after_read (reads_only_lift _) ran
  have own := (lift_ok_value idsRead).1
  rw [(row_ids_of_int (process_row_id prepared)).2] at own
  cases own
  obtain ⟨curves, last, processed, ran⟩ := bind_ok_steps ran
  cases ran
  exact records.row held prepared processed

theorem undoable_follows (records : Records network follows) {numThreads : Option Nat}
    {review : (F × Option (Rows × Rows)) × UndoFrame F V}
    (held : follows history before)
    (ran : undoableProcessInputWithState network input returnCurves numThreads before =
      (.ok review, after)) :
    follows (input :: history) after := by
  obtain ⟨_, _, ran⟩ := ok_after_read (reads_only_lift _) ran
  obtain ⟨_, begun, started, ran⟩ := bind_ok_steps ran
  cases begun_same (records.materialized held) (started_begins started)
  obtain ⟨_, stateRead, ran⟩ := ok_after_read reads_features ran
  cases stateRead
  obtain ⟨ids, idsRead, ran⟩ := ok_after_read (reads_only_lift _) ran
  cases read_ids idsRead
  obtain ⟨probability, _, ran⟩ := ok_after_read (predict_probability_pure _ _ _) ran
  obtain ⟨_, reachedRead, ran⟩ := ok_after_read reads_features ran
  cases reachedRead
  obtain ⟨row, rowRead, ran⟩ := ok_after_read (reads_only_lift _) ran
  obtain ⟨_, capturedRead, ran⟩ := ok_after_read reads_current ran
  obtain ⟨frame, _, ran⟩ := ok_after_read (reads_only_lift _) ran
  obtain ⟨curves, last, processed, ran⟩ := bind_ok_steps ran
  cases ran
  exact records.row held (lift_ok_value rowRead).1 (restoring_ok processed)

/-- A call that returns has added its reviews to the history, and one that fails has added none. -/
structure Adds (follows : History F → ModelState F V → Prop) (added : History F)
    (call : Method (ModelState F V) Value) : Prop where
  added : ∀ {history : History F} {before after : ModelState F V} {value : Value},
    follows history before → call before = (.ok value, after) → follows (added ++ history) after
  failed : ∀ {history : History F} {before after : ModelState F V} {failure : Failure},
    follows history before → call before = (.error failure, after) → after = before

theorem adds_calm (records : Records network follows) {added : History F} {good : Value → Prop}
    {call : Method (ModelState F V) Value} (calm : Calm SeededModel good call)
    (atomic : Atomic call)
    (returned : ∀ {history : History F} {before after : ModelState F V} {value : Value},
      follows history before → call before = (.ok value, after) →
        follows (added ++ history) after) :
    Adds follows added call := by
  apply Adds.mk
  · exact returned
  · intro history before after failure held ran
    cases failure with
    | error message =>
        exact (atomic before message after ran).canonical (records.materialized held)
    | panic message =>
        have quiet := calm.calm before message (records.seeded held)
        rw [ran] at quiet
        exact absurd rfl quiet

theorem turns_follow {turn : Value → ReviewInput F → Method (ModelState F V) Value}
    (each : ∀ {history : History F} {made next : Value} {input : ReviewInput F}
      {before after : ModelState F V}, follows history before →
        turn made input before = (.ok next, after) → follows (input :: history) after)
    {inputs : List (ReviewInput F)} {made last : Value} (held : follows history before)
    (ran : inputs.foldlM turn made before = (.ok last, after)) :
    follows (inputs.reverse ++ history) after := by
  induction inputs generalizing history made before with
  | nil =>
      cases ran
      exact held
  | cons input inputs ih =>
      rw [List.foldlM_cons] at ran
      obtain ⟨next, middle, first, rest⟩ := bind_ok_steps ran
      have later := ih (each held first) rest
      rw [List.reverse_cons, List.append_assoc]
      exact later

theorem reads_push (output : NativeProcessManyOutput F Rows) (review : F × Option (Rows × Rows)) :
    ReadsOnly (pushReview returnCurves output review :
      Method (ModelState F V) (NativeProcessManyOutput F Rows)) := by
  unfold pushReview
  split
  · split
    · intro state _
      rfl
    · intro state finishes
      exact absurd ⟨_, rfl⟩ finishes
    · intro state finishes
      exact absurd ⟨_, rfl⟩ finishes
  · intro state _
    rfl

theorem process_inputs_adds (forward : WeightsForward modules network)
    (records : Records network follows) (inputs : List (ReviewInput F)) (returnCurves : Bool)
    (numThreads : Option Nat) :
    Adds follows inputs.reverse
      (processReviewInputsWithState network inputs returnCurves numThreads) := by
  apply adds_calm records (calm_process_inputs forward inputs returnCurves numThreads)
    (process_inputs_atomic network inputs returnCurves numThreads)
  intro history before after value held ran
  unfold processReviewInputsWithState at ran
  obtain ⟨_, _, ran⟩ := ok_after_read (reads_only_lift _) ran
  obtain ⟨_, begun, started, ran⟩ := bind_ok_steps ran
  cases begun_same (records.materialized held) (started_begins started)
  have turns := restoring_ok ran
  unfold processReviews at turns
  apply turns_follow _ held turns
  intro history made next input before after held turn
  unfold processReview at turn
  obtain ⟨review, middle, reviewed, pushed⟩ := bind_ok_steps turn
  have same := read_ok (reads_push made review) pushed
  rw [same]
  exact review_follows records held reviewed

theorem build_inputs_adds (forward : WeightsForward modules network)
    (records : Records network follows) (inputs : List (ReviewInput F))
    (numThreads : Option Nat) :
    Adds follows inputs.reverse (buildStateOnlyInputsWithState network inputs numThreads) := by
  apply adds_calm records (calm_build_inputs forward inputs numThreads)
    (build_inputs_atomic network inputs numThreads)
  intro history before after value held ran
  unfold buildStateOnlyInputsWithState at ran
  obtain ⟨_, _, ran⟩ := ok_after_read (reads_only_lift _) ran
  obtain ⟨_, begun, started, ran⟩ := bind_ok_steps ran
  cases begun_same (records.materialized held) (started_begins started)
  have turns := restoring_ok ran
  unfold buildStates at turns
  obtain ⟨_, built, folded, ended⟩ := bind_ok_steps turns
  cases ended
  apply turns_follow _ held folded
  intro history _ _ input before after held turn
  exact build_follows records held turn

theorem undoable_adds (forward : WeightsForward modules network)
    (records : Records network follows) (input : ReviewInput F) (returnCurves : Bool)
    (numThreads : Option Nat) :
    Adds follows [input]
      (undoableProcessInputWithState network input returnCurves numThreads) := by
  apply adds_calm records (calm_undoable forward input returnCurves numThreads) undoable_input_atomic
  intro history before after value held ran
  exact undoable_follows records held ran

/-- A prediction writes nothing once the flat states are tensors. -/
theorem prediction_rests (network : ReviewNetwork F V Logits Rows)
    (review : Except String (ReviewInput F)) (numThreads : Option Nat)
    (materialized : Materialized before.2)
    (finishes : ¬Panics (NativeCalls.predictProbability network review numThreads before).1) :
    (NativeCalls.predictProbability network review numThreads before).2 = before := by
  have started : (onRnn materializeFlatCpuState : Method (ModelState F V) Unit) before =
      (.ok (), before) := by
    unfold onRnn onPart
    rw [materialize_id materialized]
  unfold NativeCalls.predictProbability at finishes ⊢
  cases threads : validateNumThreads numThreads with
  | error message => rfl
  | ok _ =>
      rw [threads, bind_of_ok (lift_ok _ _), bind_of_ok started] at finishes
      rw [bind_of_ok (lift_ok _ _), bind_of_ok started]
      apply reads_only_bind (reads_only_lift review) _ before finishes
      intro input
      apply reads_only_bind reads_features
      intro features
      apply reads_only_bind (reads_only_lift _)
      intro ids
      exact predict_probability_pure _ _ _

theorem prediction_adds (records : Records network follows)
    (review : Except String (ReviewInput F)) (numThreads : Option Nat) :
    Adds follows ([] : History F) (NativeCalls.predictProbability network review numThreads) := by
  apply Adds.mk
  · intro history before after value held ran
    have rests := prediction_rests network review numThreads (records.materialized held)
    rw [ran] at rests
    have same : after = before := by
      apply rests
      intro panicked
      obtain ⟨message, impossible⟩ := panicked
      cases impossible
    rw [same]
    exact held
  · intro history before after failure held ran
    have rests := prediction_rests network review numThreads (records.materialized held)
    have calm : Calm SeededModel anything
        (NativeCalls.predictProbability network review numThreads) := calm_prediction _ _
    have quiet := calm.calm before
    rw [ran] at rests quiet
    apply rests
    intro panicked
    obtain ⟨message, impossible⟩ := panicked
    cases impossible
    exact quiet message (records.seeded held) rfl

/-- The model after a history, with the floats kept of it where they are asked for. -/
structure ModelFollows (modules : RwkvModules) (dated : Prop) (history : History F)
    (state : ModelState F V) : Prop where
  features : FollowsHistory history state.1
  dates : dated → DatesHistory history state.1
  states : HoldsHistory modules history state.2
  materialized : Materialized state.2

theorem model_records (forward : WeightsForward modules network) (dated : Prop) :
    Records network (ModelFollows modules dated) := by
  apply Records.mk
  · intro history state follows
    exact follows.materialized
  · intro history state follows
    exact follows.features.generator
  · intro history input before after row returnCurves curves follows prepared ran
    obtain ⟨output, features, states, _, processes, forwarded, stored, same⟩ :=
      row_steps prepared ran
    subst same
    have kept := holds_stored follows.states (forward.shaped _ _ _ _ _ forwarded) stored
    apply ModelFollows.mk
    · exact follows_processes follows.features processes
    · intro asked
      exact dates_processes follows.features (follows.dates asked) processes
    · exact kept.1
    · exact kept.2 follows.materialized

end RwkvSrs.HistoryBatches
