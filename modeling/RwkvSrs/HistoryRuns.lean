import RwkvSrs.BatchedPrediction
import RwkvSrs.HistoryBatches

/-!
Runs of a runtime from its construction. Every call that returns adds its
reviews to the history, undoing the latest review takes it off again, and a
call that fails leaves the history alone. Whatever the order of the calls, the
model is that of the history.
-/

namespace RwkvSrs.HistoryRuns

open Std FallibleMethod FeatureScaling ReviewInput DeterministicState DeterministicTouch
open DirectFeatures ModuleState
open NativeRnnState BatchJournal ReviewProcessing BatchAtomicity PredictionPurity UndoableProcess
open UndoStack NativeCalls BatchedPrediction ReviewHistory HistoryFeatures HistoryStates CalmMethods
open CalmProcessing HistoryBatches
open RuntimeRestore (NativeRuntime requireNoLiveSession clearUndoStack)

set_option autoImplicit false
set_option linter.unusedSectionVars false

variable {F V Logits Rows Live Session Value : Type}
  [Float64Ops F] [Float32Ops V] [ExactFeatureFloat F V]

section Calls

variable (network : ReviewNetwork F V Logits Rows)

/-- The reviews arrive parsed, or with the message their parsing failed with. -/
def processReviewsWithState (reviews : Except String (List (ReviewInput F))) (returnCurves : Bool)
    (numThreads : Option Nat) : Method (ModelState F V) (NativeProcessManyOutput F Rows) := do
  lift (validateNumThreads numThreads)
  let inputs ← lift reviews
  processReviewInputsWithState network inputs returnCurves numThreads

def processPackedReviewsWithState (payload : Except String (List (ReviewInput F)))
    (returnCurves : Bool) (numThreads : Option Nat) :
    Method (ModelState F V) (NativeProcessManyOutput F Rows) :=
  processReviewsWithState network payload returnCurves numThreads

def buildStateOnlyPackedWithState (payload : Except String (List (ReviewInput F)))
    (numThreads : Option Nat) : Method (ModelState F V) Nat := do
  lift (validateNumThreads numThreads)
  let inputs ← lift payload
  buildStateOnlyInputsWithState network inputs numThreads

end Calls

inductive HistoryCall (F : Type) where
  | processReviews (reviews : Except String (List (ReviewInput F))) (returnCurves : Bool)
      (numThreads : Option Nat)
  | processReviewBatch (inputs : List (ReviewInput F)) (returnCurves : Bool)
      (numThreads : Option Nat)
  | processReviewsPacked (payload : Except String (List (ReviewInput F))) (returnCurves : Bool)
      (numThreads : Option Nat)
  | buildStateOnlyPacked (payload : Except String (List (ReviewInput F))) (numThreads : Option Nat)
  | buildStateOnlyBatch (inputs : List (ReviewInput F)) (numThreads : Option Nat)
  | undoableProcessReview (review : Except String (ReviewInput F)) (returnCurves : Bool)
      (numThreads : Option Nat)
  | undoLastProcess
  | clearUndoHistory
  | predictProbability (review : Except String (ReviewInput F)) (numThreads : Option Nat)

/-- A runtime with the history of its calls. -/
structure Traced (F V Live Session : Type) where
  runtime : NotedRuntime F V Live Session
  history : History F

def traced (next : History F → History F) (call : Method (NotedRuntime F V Live Session) Value)
    (state : Traced F V Live Session) : Traced F V Live Session :=
  match call state.runtime with
  | (.ok _, reached) => ⟨reached, next state.history⟩
  | (.error _, reached) => ⟨reached, state.history⟩

/-- The reviews a payload holds, the latest first. -/
def reviewsOf : Except String (List (ReviewInput F)) → History F
  | .ok inputs => inputs.reverse
  | .error _ => []

def reviewOf : Except String (ReviewInput F) → History F
  | .ok input => [input]
  | .error _ => []

def HistoryCall.perform (network : ReviewNetwork F V Logits Rows) (state : Traced F V Live Session) :
    HistoryCall F → Traced F V Live Session
  | .processReviews reviews returnCurves numThreads =>
      traced (reviewsOf reviews ++ ·) (clearingCall "process_reviews" (.ok ())
        (processReviewsWithState network reviews returnCurves numThreads)) state
  | .processReviewBatch inputs returnCurves numThreads =>
      traced (inputs.reverse ++ ·) (clearingCall "process_review_batch"
        (requireLoadedScopes state.runtime.loadedScope inputs)
        (processReviewInputsWithState network inputs returnCurves numThreads)) state
  | .processReviewsPacked payload returnCurves numThreads =>
      traced (reviewsOf payload ++ ·) (clearingCall "process_reviews_packed" (.ok ())
        (processPackedReviewsWithState network payload returnCurves numThreads)) state
  | .buildStateOnlyPacked payload numThreads =>
      traced (reviewsOf payload ++ ·) (clearingCall "build_state_only" (.ok ())
        (buildStateOnlyPackedWithState network payload numThreads)) state
  | .buildStateOnlyBatch inputs numThreads =>
      traced (inputs.reverse ++ ·) (clearingCall "build_state_only_batch"
        (requireLoadedScopes state.runtime.loadedScope inputs)
        (buildStateOnlyInputsWithState network inputs numThreads)) state
  | .undoableProcessReview review returnCurves numThreads =>
      traced (reviewOf review ++ ·)
        (NativeCalls.undoableProcess network review returnCurves numThreads) state
  | .undoLastProcess => traced List.tail UndoableProcess.undoLastProcess state
  | .clearUndoHistory => traced id UndoableProcess.clearUndoHistory state
  | .predictProbability review numThreads =>
      traced id (UndoableProcess.onModel
        (NativeCalls.predictProbability network review numThreads)) state

def newModel (torchSeed : UInt64) : ModelState F V :=
  (withTorchSeed torchSeed, ⟨fun _ => ∅, none, fun _ => ∅, none⟩)

/-- A new runtime has processed nothing. -/
def started (torchSeed undoLimit : UInt64) : Traced F V Live Session where
  runtime := ⟨withTorchSeed torchSeed, ⟨fun _ => ∅, none, fun _ => ∅, none⟩, [], undoLimit, none,
    none, none⟩
  history := []

inductive HistoryRun (network : ReviewNetwork F V Logits Rows) (torchSeed : UInt64) :
    Traced F V Live Session → Prop where
  | start (undoLimit : UInt64) : HistoryRun network torchSeed (started torchSeed undoLimit)
  | next {state : Traced F V Live Session} (run : HistoryRun network torchSeed state)
      (call : HistoryCall F) : HistoryRun network torchSeed (call.perform network state)

variable {modules : RwkvModules} {network : ReviewNetwork F V Logits Rows} {torchSeed : UInt64}
  {follows : History F → ModelState F V → Prop}

/-- Every frame remembers the model of the history before its review. -/
def FramesFollow (follows : History F → ModelState F V → Prop) : History F →
    List (RuntimeUndoFrame F V Live (ModelState F V)) → Prop
  | _, [] => True
  | history, frame :: rest =>
      follows history.tail frame.note ∧ FramesFollow follows history.tail rest

structure Tracks (follows : History F → ModelState F V → Prop) (state : Traced F V Live Session) :
    Prop where
  model : follows state.history (modelState state.runtime)
  exact : RuntimeExact id state.runtime
  frames : FramesFollow follows state.history state.runtime.undoStack

theorem frames_dropped {history : History F}
    {stack : List (RuntimeUndoFrame F V Live (ModelState F V))}
    (frames : FramesFollow follows history stack) :
    FramesFollow follows history stack.dropLast := by
  induction stack generalizing history with
  | nil => trivial
  | cons frame rest ih =>
      cases rest with
      | nil => trivial
      | cons other rest => exact ⟨frames.1, ih frames.2⟩

theorem frames_pushed {history : History F} (undoLimit : UInt64)
    {frame : RuntimeUndoFrame F V Live (ModelState F V)}
    {stack : List (RuntimeUndoFrame F V Live (ModelState F V))}
    (frames : FramesFollow follows history (frame :: stack)) :
    FramesFollow follows history (pushed undoLimit frame stack) := by
  unfold pushed
  split
  · exact frames_dropped frames
  · exact frames

theorem tracks_cleared {state : Traced F V Live Session}
    (model : follows state.history (modelState state.runtime))
    (cleared : state.runtime.undoStack = []) : Tracks follows state := by
  apply Tracks.mk model
  · unfold RuntimeExact
    rw [cleared]
    trivial
  · rw [cleared]
    trivial

theorem traced_of_ok {next : History F → History F}
    {call : Method (NotedRuntime F V Live Session) Value} {state : Traced F V Live Session}
    {value : Value} {reached : NotedRuntime F V Live Session}
    (ran : call state.runtime = (.ok value, reached)) :
    traced next call state = ⟨reached, next state.history⟩ := by
  unfold traced
  rw [ran]

theorem traced_of_error {next : History F → History F}
    {call : Method (NotedRuntime F V Live Session) Value} {state : Traced F V Live Session}
    {failure : Failure} {reached : NotedRuntime F V Live Session}
    (ran : call state.runtime = (.error failure, reached)) :
    traced next call state = ⟨reached, state.history⟩ := by
  unfold traced
  rw [ran]

/-- The call is refused before it clears anything, or it runs on the model alone. -/
theorem clearing_cases (operation : String) (check : Except String Unit)
    (body : Method (ModelState F V) Value) (runtime : NotedRuntime F V Live Session) :
    (∃ failure, clearingCall operation check body runtime = (.error failure, runtime)) ∨
      clearingCall operation check body runtime =
        ((body (modelState runtime)).1,
          { putModel (body (modelState runtime)).2 runtime with undoStack := [] }) := by
  unfold clearingCall
  rcases require_cases operation runtime with free | ⟨message, live⟩
  · rw [bind_of_ok free]
    cases check with
    | error message => exact Or.inl ⟨_, rfl⟩
    | ok _ => exact Or.inr rfl
  · rw [bind_of_error live]
    exact Or.inl ⟨_, rfl⟩

theorem clearing_tracks {state : Traced F V Live Session} {operation : String}
    {check : Except String Unit} {added : History F} {body : Method (ModelState F V) Value}
    (adds : Adds follows added body) (tracks : Tracks follows state) :
    Tracks follows (traced (added ++ ·) (clearingCall operation check body) state) := by
  rcases clearing_cases operation check body state.runtime with ⟨failure, refused⟩ | ran
  · rw [traced_of_error refused]
    exact tracks
  · cases result : body (modelState state.runtime) with
    | mk outcome after =>
        rw [result] at ran
        cases outcome with
        | ok value =>
            rw [traced_of_ok ran]
            exact tracks_cleared (adds.added tracks.model result) rfl
        | error failure =>
            rw [traced_of_error ran]
            apply tracks_cleared _ rfl
            rw [adds.failed tracks.model result]
            exact tracks.model

theorem payload_adds {Made : Type} {check : Except String Unit}
    {reviews : Except String (List (ReviewInput F))}
    {body : List (ReviewInput F) → Method (ModelState F V) Made}
    (adds : ∀ inputs, Adds follows inputs.reverse (body inputs)) :
    Adds follows (reviewsOf reviews)
      (lift check >>= fun _ => lift reviews >>= body) := by
  cases check with
  | error message =>
      apply Adds.mk
      · intro history before after value _ ran
        cases ran
      · intro history before after failure _ ran
        cases ran
        rfl
  | ok _ =>
      cases reviews with
      | error message =>
          apply Adds.mk
          · intro history before after value _ ran
            cases ran
          · intro history before after failure _ ran
            cases ran
            rfl
      | ok inputs =>
          apply Adds.mk
          · intro history before after value held ran
            exact (adds inputs).added held ran
          · intro history before after failure held ran
            exact (adds inputs).failed held ran

theorem undone_tracks (records : Records network follows) {state : Traced F V Live Session}
    (tracks : Tracks follows state) :
    Tracks follows (traced List.tail UndoableProcess.undoLastProcess state) := by
  rcases undo_last_cases state.runtime with ⟨message, refused⟩ | ⟨frame, rest, stacked, undone⟩
  · rw [traced_of_error refused]
    exact tracks
  · rw [traced_of_ok undone]
    have frames := tracks.frames
    have exact := tracks.exact
    unfold RuntimeExact at exact
    rw [stacked] at frames exact
    have restored := stack_undone exact
    have same := restored.1.canonical (records.materialized frames.1)
    apply Tracks.mk
    · change follows state.history.tail (frame.model.restore (modelState state.runtime))
      rw [same]
      exact frames.1
    · exact restored.2
    · exact frames.2

theorem history_cleared_tracks {state : Traced F V Live Session}
    (tracks : Tracks follows state) :
    Tracks follows (traced id UndoableProcess.clearUndoHistory state) := by
  rcases require_cases "clear_undo_history" state.runtime with free | ⟨message, live⟩
  · have ran : UndoableProcess.clearUndoHistory state.runtime =
        (.ok 0, { state.runtime with undoStack := [] }) :=
      history_cleared free
    rw [traced_of_ok ran]
    exact tracks_cleared tracks.model rfl
  · have ran : UndoableProcess.clearUndoHistory state.runtime =
        (.error (.error message), state.runtime) := by
      unfold UndoableProcess.clearUndoHistory
      rw [bind_of_error live]
    rw [traced_of_error ran]
    exact tracks

theorem prediction_tracks (records : Records network follows) {state : Traced F V Live Session}
    (review : Except String (ReviewInput F)) (numThreads : Option Nat)
    (tracks : Tracks follows state) :
    Tracks follows (traced id (UndoableProcess.onModel
      (NativeCalls.predictProbability network review numThreads)) state) := by
  have adds : Adds follows ([] : History F)
      (NativeCalls.predictProbability network review numThreads) :=
    prediction_adds records review numThreads
  have exact : RuntimeExact id (UndoableProcess.onModel
      (NativeCalls.predictProbability network review numThreads) state.runtime).2 :=
    predict_probability_exact tracks.exact
  cases result : NativeCalls.predictProbability network review numThreads
      (modelState state.runtime) with
  | mk outcome after =>
      have ran : UndoableProcess.onModel
          (NativeCalls.predictProbability network review numThreads) state.runtime =
            (outcome, putModel after state.runtime) := by
        unfold UndoableProcess.onModel onPart
        rw [result]
      rw [ran] at exact
      cases outcome with
      | ok value =>
          rw [traced_of_ok ran]
          exact Tracks.mk (adds.added tracks.model result) exact tracks.frames
      | error failure =>
          rw [adds.failed tracks.model result] at ran
          have failed : UndoableProcess.onModel
              (NativeCalls.predictProbability network review numThreads) state.runtime =
                (.error failure, state.runtime) := ran
          rw [traced_of_error failed]
          exact tracks

/-- The call is refused before anything runs, or its frame is pushed once its review is done. -/
theorem undoable_cases {Note : Type} (network : ReviewNetwork F V Logits Rows) (note : Note)
    (review : Except String (ReviewInput F)) (returnCurves : Bool) (numThreads : Option Nat)
    (runtime : Runtime F V Live Note Session) :
    (∃ failure, undoableProcessReview network note review returnCurves numThreads runtime =
        (.error failure, runtime)) ∨
      ∃ input, review = .ok input ∧
        undoableProcessReview network note review returnCurves numThreads runtime =
          (UndoableProcess.onModel
              (undoableProcessInputWithState network input returnCurves numThreads) >>= fun made =>
            pushFrame ⟨made.2, none, note⟩ >>= fun _ => pure made.1) runtime := by
  unfold undoableProcessReview
  rcases require_cases "undoable_process_review" runtime with free | ⟨message, live⟩
  · rw [bind_of_ok free]
    cases validateNumThreads numThreads with
    | error message => exact Or.inl ⟨_, rfl⟩
    | ok _ =>
        rw [bind_of_ok (lift_ok _ _), bind_of_ok (current_apply _)]
        split
        · exact Or.inl ⟨_, rfl⟩
        · cases review with
          | error message => exact Or.inl ⟨_, rfl⟩
          | ok input => exact Or.inr ⟨input, rfl, rfl⟩
  · rw [bind_of_error live]
    exact Or.inl ⟨_, rfl⟩

theorem undoable_tracks (forward : WeightsForward modules network)
    (records : Records network follows) {state : Traced F V Live Session}
    (review : Except String (ReviewInput F)) (returnCurves : Bool) (numThreads : Option Nat)
    (tracks : Tracks follows state) :
    Tracks follows (traced (reviewOf review ++ ·)
      (NativeCalls.undoableProcess network review returnCurves numThreads) state) := by
  rcases undoable_cases network (modelState state.runtime) review returnCurves numThreads
    state.runtime with ⟨failure, refused⟩ | ⟨input, given, ran⟩
  · have same : NativeCalls.undoableProcess network review returnCurves numThreads state.runtime =
        (.error failure, state.runtime) := refused
    rw [traced_of_error same]
    exact tracks
  · subst given
    have adds : Adds follows [input]
        (undoableProcessInputWithState network input returnCurves numThreads) :=
      undoable_adds forward records input returnCurves numThreads
    cases result : undoableProcessInputWithState network input returnCurves numThreads
        (modelState state.runtime) with
    | mk outcome after =>
        have onto : UndoableProcess.onModel
            (undoableProcessInputWithState network input returnCurves numThreads) state.runtime =
              (outcome, putModel after state.runtime) := by
          unfold UndoableProcess.onModel onPart
          rw [result]
        cases outcome with
        | ok made =>
            rw [bind_of_ok onto] at ran
            have finishes : ¬Panics (undoableProcessReview network (modelState state.runtime)
                (.ok input) returnCurves numThreads state.runtime).1 := by
              rw [ran]
              intro panicked
              obtain ⟨message, impossible⟩ := panicked
              cases impossible
            have remembers : id (modelState state.runtime) = modelState state.runtime := rfl
            have exact := undoable_process_exact remembers tracks.exact finishes
            rw [ran] at exact
            have finished : NativeCalls.undoableProcess network (.ok input) returnCurves numThreads
                state.runtime = _ := ran
            rw [traced_of_ok finished]
            apply Tracks.mk (adds.added tracks.model result) exact
            apply frames_pushed
            exact ⟨tracks.model, tracks.frames⟩
        | error failure =>
            rw [bind_of_error onto, adds.failed tracks.model result] at ran
            have failed : NativeCalls.undoableProcess network (.ok input) returnCurves numThreads
                state.runtime = (.error failure, state.runtime) := ran
            rw [traced_of_error failed]
            exact tracks

theorem perform_tracks (forward : WeightsForward modules network)
    (records : Records network follows) {state : Traced F V Live Session}
    (tracks : Tracks follows state) (call : HistoryCall F) :
    Tracks follows (call.perform network state) := by
  cases call with
  | processReviews reviews returnCurves numThreads =>
      apply clearing_tracks _ tracks
      apply payload_adds
      intro inputs
      exact process_inputs_adds forward records inputs returnCurves numThreads
  | processReviewBatch inputs returnCurves numThreads =>
      exact clearing_tracks (process_inputs_adds forward records inputs returnCurves numThreads)
        tracks
  | processReviewsPacked payload returnCurves numThreads =>
      apply clearing_tracks _ tracks
      apply payload_adds
      intro inputs
      exact process_inputs_adds forward records inputs returnCurves numThreads
  | buildStateOnlyPacked payload numThreads =>
      apply clearing_tracks _ tracks
      apply payload_adds
      intro inputs
      exact build_inputs_adds forward records inputs numThreads
  | buildStateOnlyBatch inputs numThreads =>
      exact clearing_tracks (build_inputs_adds forward records inputs numThreads) tracks
  | undoableProcessReview review returnCurves numThreads =>
      exact undoable_tracks forward records review returnCurves numThreads tracks
  | undoLastProcess => exact undone_tracks records tracks
  | clearUndoHistory => exact history_cleared_tracks tracks
  | predictProbability review numThreads => exact prediction_tracks records review numThreads tracks

theorem run_tracks (forward : WeightsForward modules network) (records : Records network follows)
    (starts : follows [] (newModel torchSeed)) {state : Traced F V Live Session}
    (run : HistoryRun network torchSeed state) : Tracks follows state := by
  induction run with
  | start undoLimit => exact tracks_cleared starts rfl
  | next run call ih => exact perform_tracks forward records ih call

theorem new_model_follows (modules : RwkvModules) (dated : Prop) (torchSeed : UInt64) :
    ModelFollows modules dated [] (newModel torchSeed : ModelState F V) := by
  apply ModelFollows.mk
  · exact seeded_follows torchSeed
  · intro _
    exact seeded_dates torchSeed
  · exact nothing_held modules
  · exact ⟨fun _ => rfl, rfl⟩

/-- Whatever calls a run makes, and wherever they fail, its model is that of its history. -/
theorem run_follows_history (forward : WeightsForward modules network)
    {state : Traced F V Live Session} (run : HistoryRun network torchSeed state) :
    FollowsHistory state.history state.runtime.deterministic ∧
      DatesHistory state.history state.runtime.deterministic ∧
      HoldsHistory modules state.history state.runtime.rnn ∧
      (state.history.length + 1 < 2 ^ 63 → CoherentFeatures state.runtime.deterministic) := by
  have tracks : Tracks (ModelFollows modules True) state :=
    run_tracks forward (model_records forward True) (new_model_follows modules True torchSeed) run
  have follows : FollowsHistory state.history state.runtime.deterministic := tracks.model.features
  exact ⟨follows, tracks.model.dates trivial, tracks.model.states, follows_coherent follows⟩

/-- The model that building one review after the other from `start` leaves. -/
def Rebuilt (network : ReviewNetwork F V Logits Rows) (start : ModelState F V) :
    History F → ModelState F V → Prop
  | [], state => state = start
  | input :: earlier, state => ∃ before, Rebuilt network start earlier before ∧
      buildStateOnlyInput network input before = (.ok (), state)

/-- The states a row stores do not depend on the curves it returns. -/
theorem row_curveless (forward : WeightsForward modules network) {row : PreparedRow F}
    {ids : ReviewIds} {returnCurves : Bool} {curves : Option (Rows × Rows)}
    {before after : ModelState F V}
    (ran : processPreparedRowWithState network row ids returnCurves before = (.ok curves, after)) :
    processPreparedRowWithState network row ids false before = (.ok none, after) := by
  unfold processPreparedRowWithState at ran ⊢
  obtain ⟨features, encoded, encode, ran⟩ := bind_ok_steps ran
  obtain ⟨tensor, checked, ran⟩ := ok_after_read (reads_only_lift _) ran
  obtain ⟨rnn, readRnn, ran⟩ := ok_after_read reads_rnn ran
  obtain ⟨output, forwarded, ran⟩ := ok_after_read (reads_only_lift _) ran
  obtain ⟨_, stored, store, ran⟩ := bind_ok_steps ran
  obtain ⟨_, keyed, key, ran⟩ := bind_ok_steps ran
  obtain ⟨_, recorded, record, ran⟩ := bind_ok_steps ran
  cases read_ok (reads_curves output) ran
  have plainly : ∃ plain, network.reviewForward tensor (stateInputs rnn ids) false false =
      .ok plain ∧ plain.states = output.states := by
    cases returnCurves with
    | false => exact ⟨output, (lift_ok_value forwarded).1, rfl⟩
    | true => exact forward.curveless _ _ _ _ (lift_ok_value forwarded).1
  obtain ⟨plain, plainForward, sameStates⟩ := plainly
  rw [bind_of_ok encode, bind_of_ok checked, bind_of_ok readRnn, plainForward,
    bind_of_ok (lift_ok _ _), sameStates, bind_of_ok store, bind_of_ok key, bind_of_ok record]
  rfl

theorem rebuilt_records (forward : WeightsForward modules network) (torchSeed : UInt64) :
    Records network fun history state => ModelFollows modules False history state ∧
      Rebuilt network (newModel torchSeed) history state := by
  have records := model_records forward False
  apply Records.mk
  · intro history state held
    exact records.materialized held.1
  · intro history state held
    exact records.seeded held.1
  · intro history input before after row returnCurves curves held prepared ran
    have built : buildStateOnlyInput network input before = (.ok (), after) := by
      have read : (onFeatures current : Method (ModelState F V) (FeatureState F V)) before =
          (.ok before.1, before) := rfl
      unfold buildStateOnlyInput
      rw [bind_of_ok read, prepared, bind_of_ok (lift_ok _ _),
        (row_ids_of_int (process_row_id prepared)).2, bind_of_ok (lift_ok _ _),
        bind_of_ok (row_curveless forward ran)]
      rfl
    exact ⟨records.row held.1 prepared ran, before, held.2, built⟩

theorem rebuilt_built {start state : ModelState F V} {history : History F}
    (rebuilt : Rebuilt network start history state) :
    history.reverse.foldlM (buildState network) () start = (.ok (), state) := by
  induction history generalizing state with
  | nil =>
      rw [rebuilt]
      rfl
  | cons input earlier ih =>
      obtain ⟨before, later, built⟩ := rebuilt
      rw [List.reverse_cons, List.foldlM_append, bind_of_ok (ih later), List.foldlM_cons]
      change (buildStateOnlyInput network input >>= fun made => pure made) before = _
      rw [bind_of_ok built]
      rfl

/-- The model of a run is the one that building its history on a new runtime leaves: batches,
predictions, undone reviews and failed calls leave no other trace in it. -/
theorem run_rebuilds (forward : WeightsForward modules network) {state : Traced F V Live Session}
    (run : HistoryRun network torchSeed state) {numThreads : Option Nat}
    (threads : numThreads ≠ some 0) :
    buildStateOnlyInputsWithState network state.history.reverse numThreads (newModel torchSeed) =
      (.ok state.history.length, modelState state.runtime) := by
  have starts : ModelFollows modules False [] (newModel torchSeed : ModelState F V) ∧
      Rebuilt network (newModel torchSeed) [] (newModel torchSeed) :=
    ⟨new_model_follows modules False torchSeed, rfl⟩
  have tracks := run_tracks forward (rebuilt_records forward torchSeed) starts run
  have built := rebuilt_built tracks.model.2
  have materialized : Materialized (newModel torchSeed : ModelState F V).2 := ⟨fun _ => rfl, rfl⟩
  have begins : Begins (newModel torchSeed : ModelState F V) (newModel torchSeed) :=
    ⟨rfl, materialize_id materialized⟩
  have counted : buildStates network state.history.reverse (newModel torchSeed) =
      (.ok state.history.length, modelState state.runtime) := by
    unfold buildStates
    rw [bind_of_ok built, List.length_reverse]
    rfl
  unfold buildStateOnlyInputsWithState
  rw [prepared_of_begins (validate_threads threads) begins]
  unfold journaled
  rw [restoring_of_ok counted]

section OneReview

open ExactNumbers DirectPaths TorchRng GeneratorStates

/-- One head of one channel. -/
def oneHead : StateBlock where
  nHeads := 1
  headSize := 1
  countable := by decide
  measurable := by decide
  allocatable := by decide

/-- Five modules of one layer. -/
def oneHeadModules : RwkvModules := List.replicate srsReviewStateModules [oneHead]

def zeroState : NativeRnnModuleState V where
  timeXShiftB1cByLayer := [⟨[1, 1, 1], [0.0], rfl⟩]
  timeStateB1hkkByLayer := [⟨[1, 1, 1, 1, 1], [0.0], rfl⟩]
  channelStateB1cByLayer := [⟨[1, 1, 1], [0.0], rfl⟩]

def zeroStates : SrsReviewState V where
  timeXShiftB1cByModule := List.replicate srsReviewStateModules zeroState.timeXShiftB1cByLayer
  timeStateB1hkkByModule := List.replicate srsReviewStateModules zeroState.timeStateB1hkkByLayer
  channelStateB1cByModule := List.replicate srsReviewStateModules zeroState.channelStateB1cByLayer

/-- Accepts everything and returns states of zeros. -/
def zeroNetwork : ReviewNetwork F V Unit Unit where
  reviewForward _ _ returnCurve _ :=
    .ok ⟨if returnCurve then some () else none, if returnCurve then some () else none, none,
      zeroStates⟩
  predictForward _ _ := .ok ()
  probabilityFromLogits _ := .ok 0.5
  toVec2 _ := .ok ()

theorem zero_states_read : nativeModuleStatesFromReviewOutput (zeroStates : SrsReviewState V) =
    .ok (List.replicate srsReviewStateModules zeroState) := rfl

theorem zero_network_accepts : Accepts (zeroNetwork : ReviewNetwork F V Unit Unit) where
  predicts _ _ := ⟨(), 0.5, rfl, rfl⟩
  forwards _ _ := ⟨_, _, _, _, _, _, rfl, zero_states_read⟩

theorem zero_fits : FitsBlocks [oneHead] (zeroState : NativeRnnModuleState V) := ⟨rfl, rfl, rfl⟩

theorem zero_network_forward :
    WeightsForward oneHeadModules (zeroNetwork : ReviewNetwork F V Unit Unit) := by
  apply WeightsForward.mk
  · intro features states returnCurve returnPrediction output returned
    cases returned
    apply ShapedOutput.mk
    intro card note deck preset globalState read
    have same := zero_states_read.symm.trans read
    cases same
    exact ⟨zero_fits, zero_fits, zero_fits, zero_fits, zero_fits⟩
  · intro features states returnPrediction output returned
    cases returned
    exact ⟨rfl, rfl⟩
  · intro features states returnPrediction output returned
    cases returned
    exact ⟨_, rfl, rfl⟩

theorem pushed_filled {Frame : Type} {undoLimit : UInt64} (frame : Frame) (stack : List Frame)
    (room : 1 < undoLimit.toNat) : pushed undoLimit frame stack ≠ [] := by
  unfold pushed
  split
  · rename_i crowded
    rw [← List.length_pos_iff, List.length_dropLast]
    omega
  · exact List.cons_ne_nil _ _

structure Recorded (input : ReviewInput F) (before after : Traced F V Live Session) : Prop where
  history : after.history = input :: before.history
  idle : after.runtime.liveSession = none ∧ after.runtime.pendingLiveSession = none
  limit : after.runtime.undoLimit = before.runtime.undoLimit
  stacked : 1 < before.runtime.undoLimit.toNat → after.runtime.undoStack ≠ []

theorem review_recorded {state : Traced F V Live Session} {input : ReviewInput F}
    {fields : Int64 × F × F} (run : HistoryRun zeroNetwork torchSeed state)
    (valid : processFields input = .ok fields)
    (idle : state.runtime.liveSession = none ∧ state.runtime.pendingLiveSession = none)
    (enabled : state.runtime.undoLimit ≠ 0) :
    Recorded input state
      ((HistoryCall.undoableProcessReview (.ok input) false none).perform zeroNetwork state) := by
  have records := model_records (F := F) (V := V) zero_network_forward False
  have tracks := run_tracks zero_network_forward records (new_model_follows _ False torchSeed) run
  have seeded : Seeded state.runtime.deterministic.idRng := records.seeded tracks.model
  have materialized : Materialized (modelState state.runtime).2 :=
    records.materialized tracks.model
  obtain ⟨step, features, prepass, predictFeatures, processFeatures⟩ := prepass_seeded valid seeded
  have threads : (none : Option Nat) ≠ some 0 := by simp
  obtain ⟨output, model, after, ran, _⟩ := undoable_of_prepass zero_network_accepts threads
    materialized prepass predictFeatures processFeatures
  have processed : NativeCalls.undoableProcess zeroNetwork (.ok input) false none
      state.runtime = _ :=
    undoable_process_succeeds idle threads enabled ran
  rw [HistoryCall.perform, traced_of_ok processed]
  exact ⟨rfl, idle, rfl, pushed_filled _ _⟩

theorem first_review_recorded {input : ReviewInput F} {fields : Int64 × F × F}
    (valid : processFields input = .ok fields) (torchSeed undoLimit : UInt64)
    (enabled : undoLimit ≠ 0) :
    ((HistoryCall.undoableProcessReview (.ok input) false none).perform zeroNetwork
      (started torchSeed undoLimit : Traced F V Live Session)).history = [input] := by
  have run : HistoryRun zeroNetwork torchSeed
      (started torchSeed undoLimit : Traced F V Live Session) :=
    HistoryRun.start undoLimit
  exact (review_recorded run valid ⟨rfl, rfl⟩ enabled).history

theorem refused_review_ignored (network : ReviewNetwork F V Logits Rows) (message : String)
    (returnCurves : Bool) (numThreads : Option Nat) (state : Traced F V Live Session) :
    (HistoryCall.undoableProcessReview (.error message) returnCurves numThreads).perform network
      state = state := by
  rcases undoable_cases network (modelState state.runtime) (.error message) returnCurves numThreads
    state.runtime with ⟨failure, refused⟩ | ⟨input, given, _⟩
  · rw [HistoryCall.perform]
    exact traced_of_error refused
  · cases given

theorem latest_review_undone (network : ReviewNetwork F V Logits Rows)
    {state : Traced F V Live Session}
    (idle : state.runtime.liveSession = none ∧ state.runtime.pendingLiveSession = none)
    (kept : state.runtime.undoStack ≠ []) :
    (HistoryCall.undoLastProcess.perform network state).history = state.history.tail := by
  obtain ⟨frame, rest, stacked⟩ := List.exists_cons_of_ne_nil kept
  have undone := undo_of_frame (require_idle _ idle) stacked
  rw [HistoryCall.perform, traced_of_ok undone]

def otherReview : ReviewInput Exact := { oneReview with reviewId := 2, cardId := 7 }

def firstReview : Traced Exact Exact Unit Unit :=
  (HistoryCall.undoableProcessReview (.ok oneReview) false none).perform zeroNetwork
    (started 5489 30)

def refusedReview : Traced Exact Exact Unit Unit :=
  (HistoryCall.undoableProcessReview (.error "rating is missing") false none).perform zeroNetwork
    firstReview

def secondReview : Traced Exact Exact Unit Unit :=
  (HistoryCall.undoableProcessReview (.ok otherReview) false none).perform zeroNetwork refusedReview

def undoneReview : Traced Exact Exact Unit Unit :=
  HistoryCall.undoLastProcess.perform zeroNetwork secondReview

theorem second_review_run : HistoryRun zeroNetwork 5489 secondReview :=
  HistoryRun.next (HistoryRun.next (HistoryRun.next (HistoryRun.start 30) _) _) _

theorem undone_review_run : HistoryRun zeroNetwork 5489 undoneReview :=
  HistoryRun.next second_review_run _

theorem second_review_recorded : secondReview.history = [otherReview, oneReview] ∧
    undoneReview.history = [oneReview] := by
  have valid : processFields oneReview = .ok (3, 2.0, 1.0) := rfl
  have otherValid : processFields otherReview = .ok (3, 2.0, 1.0) := rfl
  have ignored : refusedReview = firstReview := refused_review_ignored _ _ _ _ _
  have start : HistoryRun zeroNetwork 5489 (started 5489 30 : Traced Exact Exact Unit Unit) :=
    HistoryRun.start 30
  have enabled : (30 : UInt64) ≠ 0 := by decide
  have first : Recorded oneReview (started 5489 30) firstReview :=
    review_recorded start valid ⟨rfl, rfl⟩ enabled
  have limit : firstReview.runtime.undoLimit = 30 := first.limit
  have firstRun : HistoryRun zeroNetwork 5489 firstReview := HistoryRun.next start _
  have onto : secondReview =
      (HistoryCall.undoableProcessReview (.ok otherReview) false none).perform zeroNetwork
        firstReview := by
    rw [secondReview, ignored]
  have second : Recorded otherReview firstReview secondReview := by
    rw [onto]
    apply review_recorded firstRun otherValid first.idle
    rw [limit]
    exact enabled
  have history : secondReview.history = [otherReview, oneReview] := by
    rw [second.history, first.history]
    rfl
  have stacked : secondReview.runtime.undoStack ≠ [] := by
    apply second.stacked
    rw [limit]
    decide
  have undone := latest_review_undone zeroNetwork second.idle stacked
  rw [history] at undone
  exact ⟨history, undone⟩

/-- A refused review and one that is undone leave the history of the first review. -/
theorem undone_review_follows :
    FollowsHistory undoneReview.history undoneReview.runtime.deterministic ∧
      DatesHistory undoneReview.history undoneReview.runtime.deterministic ∧
      HoldsHistory oneHeadModules undoneReview.history undoneReview.runtime.rnn ∧
      CoherentFeatures undoneReview.runtime.deterministic ∧
      undoneReview.history = [oneReview] := by
  have follows := run_follows_history zero_network_forward undone_review_run
  have history := second_review_recorded.2
  have short : undoneReview.history.length + 1 < 2 ^ 63 := by
    rw [history]
    decide
  exact ⟨follows.1, follows.2.1, follows.2.2.1, follows.2.2.2 short, history⟩

theorem undone_review_rebuilt :
    buildStateOnlyInputsWithState zeroNetwork [oneReview] none (newModel 5489) =
        (.ok 1, modelState undoneReview.runtime) ∧
      buildStateOnlyInputsWithState zeroNetwork [oneReview, otherReview] none (newModel 5489) =
        (.ok 2, modelState secondReview.runtime) := by
  have threads : (none : Option Nat) ≠ some 0 := by simp
  have undone := run_rebuilds zero_network_forward undone_review_run threads
  have second := run_rebuilds zero_network_forward second_review_run threads
  rw [second_review_recorded.2] at undone
  rw [second_review_recorded.1] at second
  exact ⟨undone, second⟩

end OneReview

end RwkvSrs.HistoryRuns
