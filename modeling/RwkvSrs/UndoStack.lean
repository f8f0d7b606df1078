import RwkvSrs.UndoableProcess

/-!
The undo stack is exact when every frame covers the state in which the frame
above it was captured. Undoing the frames one after the other then walks back
through the states in which their reviews began.
-/

namespace RwkvSrs.UndoStack

open Std RwkvSrs.FallibleMethod RwkvSrs.FeatureScaling RwkvSrs.ReviewInput RwkvSrs.TorchRng
open RwkvSrs.DeterministicState RwkvSrs.DeterministicUndo RwkvSrs.DeterministicTouch
open RwkvSrs.ModuleState RwkvSrs.NativeRnnState RwkvSrs.BatchJournal RwkvSrs.ReviewProcessing
open RwkvSrs.BatchAtomicity RwkvSrs.PredictionPurity RwkvSrs.ReviewUndo RwkvSrs.UndoableProcess
open RwkvSrs.RuntimeRestore (NativeRuntime requireNoLiveSession)

set_option autoImplicit false
set_option linter.unusedSectionVars false

variable {F V Logits Rows Live Note Session : Type}
  [Float64Ops F] [Float32Ops V] [FeatureFloat F V]

/-- `noted` reads the state before the review of a frame off what the frame remembers. -/
def StackExact (noted : Note → ModelState F V) :
    ModelState F V → List (RuntimeUndoFrame F V Live Note) → Prop
  | _, [] => True
  | state, frame :: rest => ∃ begun, Begins (noted frame.note) begun ∧
      FrameCovers begun frame.model state ∧ StackExact noted begun rest

variable {noted : Note → ModelState F V} {before after : ModelState F V}
  {frame : RuntimeUndoFrame F V Live Note} {stack : List (RuntimeUndoFrame F V Live Note)}

theorem begins_unchanged {begun : ModelState F V} (begins : Begins before begun) :
    Unchanged before begun := by
  have unchanged := unchanged_materialized before
  rw [begins.2] at unchanged
  obtain ⟨features, states⟩ := begun
  cases begins.1
  exact unchanged

theorem stack_materialized (exact : StackExact noted before (frame :: stack)) :
    Materialized before.2 := by
  obtain ⟨begun, begins, covers, restExact⟩ := exact
  exact covers.within.states.flat covers.materialized

theorem stack_unchanged (exact : StackExact noted before stack)
    (unchanged : Unchanged before after) : StackExact noted after stack := by
  cases stack with
  | nil => trivial
  | cons frame rest =>
      rw [unchanged.canonical (stack_materialized exact)]
      exact exact

theorem stack_pushed (exact : StackExact noted (noted frame.note) stack) {begun : ModelState F V}
    (begins : Begins (noted frame.note) begun) (covers : FrameCovers begun frame.model after) :
    StackExact noted after (frame :: stack) :=
  ⟨begun, begins, covers, stack_unchanged exact (begins_unchanged begins)⟩

theorem stack_dropped (exact : StackExact noted before stack) :
    StackExact noted before stack.dropLast := by
  induction stack generalizing before with
  | nil => trivial
  | cons frame rest ih =>
      obtain ⟨begun, begins, covers, restExact⟩ := exact
      cases rest with
      | nil => trivial
      | cons next rest => exact ⟨begun, begins, covers, ih restExact⟩

theorem stack_limited (undoLimit : UInt64) (exact : StackExact noted after (frame :: stack)) :
    StackExact noted after (pushed undoLimit frame stack) := by
  unfold pushed
  split
  · exact stack_dropped exact
  · exact exact

/-- Writes under the identities of the latest frame are restored with it. -/
theorem stack_within (exact : StackExact noted before stack)
    (within : ∀ frame ∈ stack.head?,
      BatchWithin (BatchIdentitySets.fromIds [frame.model.recurrent.ids]) before after) :
    StackExact noted after stack := by
  cases stack with
  | nil => trivial
  | cons frame rest =>
      obtain ⟨begun, begins, covers, restExact⟩ := exact
      exact ⟨begun, begins, frame_covers_within covers (within frame rfl), restExact⟩

theorem stack_undone (exact : StackExact noted before (frame :: stack)) :
    Unchanged (noted frame.note) (frame.model.restore before) ∧
      StackExact noted (frame.model.restore before) stack := by
  obtain ⟨begun, begins, covers, restExact⟩ := exact
  rw [frame_covers_exact covers]
  exact ⟨begins_unchanged begins, restExact⟩

abbrev RuntimeExact (noted : Note → ModelState F V) (runtime : Runtime F V Live Note Session) : Prop :=
  StackExact noted (modelState runtime) runtime.undoStack

variable {network : ReviewNetwork F V Logits Rows} {runtime : Runtime F V Live Note Session}

omit [Float64Ops F] [Float32Ops V] [FeatureFloat F V] in
theorem require_cases (operation : String) (runtime : Runtime F V Live Note Session) :
    requireNoLiveSession operation runtime = (.ok (), runtime) ∨
      ∃ message, requireNoLiveSession operation runtime = (.error (.error message), runtime) := by
  unfold requireNoLiveSession
  split
  · exact Or.inl rfl
  · exact Or.inr ⟨_, rfl⟩

omit [Float64Ops F] [Float32Ops V] [FeatureFloat F V] in
theorem require_idle (operation : String)
    (idle : runtime.liveSession = none ∧ runtime.pendingLiveSession = none) :
    requireNoLiveSession operation runtime = (.ok (), runtime) := by
  unfold requireNoLiveSession
  rw [idle.1, idle.2]
  rfl

omit [Float64Ops F] [Float32Ops V] [FeatureFloat F V] in
theorem reads_require (operation : String) :
    ReadsOnly (requireNoLiveSession operation : Method (Runtime F V Live Note Session) Unit) := by
  intro runtime _
  rcases require_cases operation runtime with free | ⟨message, live⟩
  · rw [free]
  · rw [live]

section Undoable

variable {note : Note} {review : Except String (ReviewInput F)} {returnCurves : Bool}
  {numThreads : Option Nat} {reached : Runtime F V Live Note Session}

/-- A finished undoable call pushes a frame that covers everything it has written. -/
theorem undoable_process_ok {output : F × Option (Rows × Rows)}
    (ran : undoableProcessReview network note review returnCurves numThreads runtime =
      (.ok output, reached)) :
    ∃ model begun after, Begins (modelState runtime) begun ∧ FrameCovers begun model after ∧
      reached = { putModel after runtime with
        undoStack := pushed runtime.undoLimit ⟨model, none, note⟩ runtime.undoStack } := by
  obtain ⟨_, _, ran⟩ := ok_after_read (reads_require _) ran
  obtain ⟨_, _, ran⟩ := ok_after_read (reads_only_lift _) ran
  rw [bind_of_ok (current_apply _)] at ran
  split at ran
  · cases ran
  · obtain ⟨input, _, ran⟩ := ok_after_read (reads_only_lift _) ran
    obtain ⟨⟨value, model⟩, middle, processed, ran⟩ := bind_ok_steps ran
    cases ran
    unfold onModel onPart at processed
    match step : undoableProcessInputWithState network input returnCurves numThreads
        (modelState runtime) with
    | (result, after) =>
        rw [step] at processed
        cases processed
        obtain ⟨begun, begins, covers, _⟩ := undoable_input_ok step
        exact ⟨model, begun, after, begins, covers, rfl⟩

/-- A failed one leaves the stack alone and every state as it was. -/
theorem undoable_process_error {message : String}
    (ran : undoableProcessReview network note review returnCurves numThreads runtime =
      (.error (.error message), reached)) :
    ∃ after, Unchanged (modelState runtime) after ∧ reached = putModel after runtime := by
  have same : reached = runtime →
      ∃ after, Unchanged (modelState runtime) after ∧ reached = putModel after runtime := by
    intro unchanged
    exact ⟨modelState runtime, unchanged_refl _, unchanged⟩
  rcases error_after_read (reads_require _) ran with unchanged | ⟨_, _, ran⟩
  · exact same unchanged
  rcases error_after_read (reads_only_lift _) ran with unchanged | ⟨_, _, ran⟩
  · exact same unchanged
  rw [bind_of_ok (current_apply _)] at ran
  split at ran
  · cases ran
    exact same rfl
  · rcases error_after_read (reads_only_lift _) ran with unchanged | ⟨input, _, ran⟩
    · exact same unchanged
    rw [bind_apply] at ran
    unfold onModel onPart at ran
    match step : undoableProcessInputWithState network input returnCurves numThreads
        (modelState runtime) with
    | (.ok (value, model), after) =>
        rw [step] at ran
        cases ran
    | (.error failure, after) =>
        rw [step] at ran
        cases ran
        exact ⟨after, undoable_input_atomic _ _ _ step, rfl⟩

theorem undoable_process_succeeds {input : ReviewInput F} {output : F × Option (Rows × Rows)}
    {model : UndoFrame F V} {after : ModelState F V}
    (idle : runtime.liveSession = none ∧ runtime.pendingLiveSession = none)
    (threads : numThreads ≠ some 0) (enabled : runtime.undoLimit ≠ 0)
    (ran : undoableProcessInputWithState network input returnCurves numThreads
      (modelState runtime) = (.ok (output, model), after)) :
    undoableProcessReview network note (.ok input) returnCurves numThreads runtime =
      (.ok output, { putModel after runtime with
        undoStack := pushed runtime.undoLimit ⟨model, none, note⟩ runtime.undoStack }) := by
  have free := require_idle "undoable_process_review" idle
  have processed : onModel (undoableProcessInputWithState network input returnCurves numThreads)
      runtime = (.ok (output, model), putModel after runtime) := by
    unfold onModel onPart
    rw [ran]
  unfold undoableProcessReview
  rw [bind_of_ok free, validate_threads threads, bind_of_ok (lift_ok _ _),
    bind_of_ok (current_apply _), if_neg enabled, bind_of_ok (lift_ok _ _), bind_of_ok processed]
  rfl

theorem undoable_process_exact (remembers : noted note = modelState runtime)
    (exact : RuntimeExact noted runtime)
    (finishes : ¬Panics (undoableProcessReview network note review returnCurves numThreads runtime).1) :
    RuntimeExact noted
      (undoableProcessReview network note review returnCurves numThreads runtime).2 := by
  match ran : undoableProcessReview network note review returnCurves numThreads runtime with
  | (.ok output, reached) =>
      obtain ⟨model, begun, after, begins, covers, same⟩ := undoable_process_ok ran
      subst same
      unfold RuntimeExact at exact ⊢
      rw [← remembers] at begins exact
      exact stack_limited _ (stack_pushed exact begins covers)
  | (.error (.error message), reached) =>
      obtain ⟨after, unchanged, same⟩ := undoable_process_error ran
      subst same
      exact stack_unchanged exact unchanged
  | (.error (.panic message), reached) =>
      rw [ran] at finishes
      exact absurd ⟨message, rfl⟩ finishes

end Undoable

/-- An undo pops the latest frame, restores its model state and nothing else. -/
theorem undo_of_frame {frame : RuntimeUndoFrame F V Live Note}
    {rest : List (RuntimeUndoFrame F V Live Note)}
    (free : requireNoLiveSession "undo_last_process" runtime = (.ok (), runtime))
    (stacked : runtime.undoStack = frame :: rest) :
    undoLastProcess runtime =
      (.ok rest.length, { putModel (frame.model.restore (modelState runtime)) runtime with
        undoStack := rest }) := by
  unfold undoLastProcess
  rw [bind_of_ok free, bind_of_ok (current_apply _), stacked]
  rfl

theorem history_cleared
    (free : requireNoLiveSession "clear_undo_history" runtime = (.ok (), runtime)) :
    clearUndoHistory runtime = (.ok 0, { runtime with undoStack := [] }) := by
  unfold clearUndoHistory
  rw [bind_of_ok free]
  rfl

theorem undo_last_cases (runtime : Runtime F V Live Note Session) :
    (∃ message, undoLastProcess runtime = (.error (.error message), runtime)) ∨
      ∃ frame rest, runtime.undoStack = frame :: rest ∧ undoLastProcess runtime =
        (.ok rest.length, { putModel (frame.model.restore (modelState runtime)) runtime with
          undoStack := rest }) := by
  rcases require_cases "undo_last_process" runtime with free | ⟨message, live⟩
  · cases stacked : runtime.undoStack with
    | nil =>
        unfold undoLastProcess
        rw [bind_of_ok free, bind_of_ok (current_apply _), stacked]
        exact Or.inl ⟨_, rfl⟩
    | cons frame rest => exact Or.inr ⟨frame, rest, rfl, undo_of_frame free stacked⟩
  · unfold undoLastProcess
    rw [bind_of_error live]
    exact Or.inl ⟨message, rfl⟩

theorem undo_last_exact (exact : RuntimeExact noted runtime) :
    RuntimeExact noted (undoLastProcess runtime).2 := by
  rcases undo_last_cases runtime with ⟨message, refused⟩ | ⟨frame, rest, stacked, undone⟩
  · rw [refused]
    exact exact
  · unfold RuntimeExact at exact
    rw [stacked] at exact
    rw [undone]
    exact (stack_undone exact).2

end RwkvSrs.UndoStack
