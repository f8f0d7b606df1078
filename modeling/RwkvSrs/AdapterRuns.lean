import RwkvSrs.NativeCalls
import RwkvSrs.UndoableAdapter

/-!
Undoable calls of the adapter in a run of public calls. While the native stack
is below its limit, an undoable call deepens it by one, so exactly one of the
two layers notices a late exception and undoes the call. At the limit the push
drops the oldest frame instead, and no layer notices anything.
-/

namespace RwkvSrs.AdapterRuns

open Std RwkvSrs.FallibleMethod RwkvSrs.FeatureScaling RwkvSrs.ReviewInput
open RwkvSrs.DeterministicState RwkvSrs.NativeRnnState RwkvSrs.BatchJournal
open RwkvSrs.ReviewProcessing RwkvSrs.BatchAtomicity RwkvSrs.PredictionPurity
open RwkvSrs.UndoableProcess RwkvSrs.UndoStack
open RwkvSrs.LiveTypes RwkvSrs.LiveSessionState RwkvSrs.LiveSessionOperations
open RwkvSrs.LiveSessionInvariant RwkvSrs.LiveSessionStaging RwkvSrs.LiveUndoFrame
open RwkvSrs.LiveUndoExact RwkvSrs.LiveUndoEdits RwkvSrs.LiveAnswers RwkvSrs.UndoableAdapter
open RwkvSrs.RuntimeRestore (NativeRuntime requireNoLiveSession)
open RwkvSrs.HistoryDigest (HistoryMetadata)

set_option autoImplicit false
set_option linter.unusedSectionVars false

variable {F V Logits Rows Note Output Value : Type} [Float64Ops F] [Float32Ops V]
  [FeatureFloat F V] [SessionFloat F] [DecidableEq F]

structure Settled (runtime : LiveRuntime F V Note) : Prop where
  sized : runtime.undoStack.length ≤ runtime.undoLimit.toNat
  idle : runtime.pendingLiveSession = none
  live : ∀ session ∈ runtime.liveSession, SessionStackExact session runtime.undoStack

/-- Nothing of the runtime has changed that a caller can see. -/
structure RolledBack (before after : LiveRuntime F V Note) : Prop where
  model : Unchanged (modelState before) (modelState after)
  session : Option.Rel SameLogicalContent before.liveSession after.liveSession
  undoStack : after.undoStack = before.undoStack
  undoLimit : after.undoLimit = before.undoLimit
  settled : Settled after

theorem same_content_refl {session : LivePredictionSessionState F}
    (exact : SessionExact False session) : SameLogicalContent session session := by
  constructor
  case retentionExtra => rfl
  case targetTimestampSeconds => rfl
  case targetDayOffset => rfl
  case slotByCardId => rfl
  case value => exact fun _ _ => rfl
  case orderedSlots => rfl
  case appended =>
    intro slot beyond
    have removed : ¬(LiveSessionSlots.indexOf session).Live slot := by
      intro live
      have inRange := exact_live_range exact.toSlotsExact live
      omega
    exact ⟨not_not.mp removed, fun listed => removed ((exact.ordered.listed slot).mp listed)⟩

section Native

variable {runtime reached : LiveRuntime F V Note} {note : Note}

theorem rolled_back_put {after : ModelState F V} (settled : Settled runtime)
    (unchanged : Unchanged (modelState runtime) after) :
    RolledBack runtime (putModel after runtime) := by
  constructor
  case model => exact unchanged
  case session =>
    change Option.Rel SameLogicalContent runtime.liveSession runtime.liveSession
    cases live : runtime.liveSession with
    | none => exact Option.Rel.none
    | some session => exact Option.Rel.some (same_content_refl (settled.live session live).1)
  case undoStack => rfl
  case undoLimit => rfl
  case settled => exact ⟨settled.sized, settled.idle, settled.live⟩

theorem pushed_length {Frame : Type} (undoLimit : UInt64) (frame : Frame) {stack : List Frame}
    (sized : stack.length ≤ undoLimit.toNat) :
    (pushed undoLimit frame stack).length ≤ undoLimit.toNat := by
  unfold pushed
  split
  · rw [List.length_dropLast, List.length_cons]
    omega
  · omega

theorem pushed_below {Frame : Type} {undoLimit : UInt64} (frame : Frame) {stack : List Frame}
    (room : stack.length < undoLimit.toNat) : pushed undoLimit frame stack = frame :: stack := by
  unfold pushed
  rw [if_neg]
  rw [List.length_cons]
  omega

/-- A native call that pushes a frame, together with the undo of it. -/
structure Guarded (note : Note) (undo : Method (LiveRuntime F V Note) Unit)
    (call : Method (LiveRuntime F V Note) Output) (runtime : LiveRuntime F V Note) : Prop where
  pushes : ∀ output reached, call runtime = (.ok output, reached) →
    Settled reached ∧ reached.undoLimit = runtime.undoLimit ∧
      ∃ frame : RuntimeUndoFrame F V (LiveIndexUndoFrame F) Note, frame.note = note ∧
        reached.undoStack = pushed runtime.undoLimit frame runtime.undoStack
  undoes : ∀ output reached, call runtime = (.ok output, reached) →
    runtime.undoStack.length < runtime.undoLimit.toNat → RolledBack runtime (undo reached).2
  refuses : ∀ message reached, call runtime = (.error (.error message), reached) →
    RolledBack runtime reached
  panics : ∀ message reached, call runtime = (.error (.panic message), reached) →
    ∃ after, reached = putModel after runtime

section Undoable

variable {network : ReviewNetwork F V Logits Rows} {review : Except String (ReviewInput F)}
  {requeueAfterPrediction returnCurves : Bool} {numThreads : Option Nat}

theorem require_ok {operation : String} {value : Unit}
    (ran : requireNoLiveSession operation runtime = (.ok value, reached)) :
    runtime.liveSession = none ∧ runtime.pendingLiveSession = none := by
  unfold requireNoLiveSession at ran
  split at ran
  · rename_i idle
    rw [Bool.and_eq_true, Option.isNone_iff_eq_none, Option.isNone_iff_eq_none] at idle
    exact idle
  · cases ran

theorem drop_result_state {State : Type} (step : Method State Value) (state : State) :
    (dropResult step state).2 = (step state).2 := by
  unfold dropResult
  rw [bind_apply]
  match step state with
  | (.ok value, reached) => rfl
  | (.error failure, reached) => rfl

theorem drop_result {State : Type} {step : Method State Value} {before after : State} {value : Value}
    (ran : step before = (.ok value, after)) : (dropResult step before).2 = after := by
  rw [drop_result_state, ran]

/-- A check stops with an error or passes, and writes nothing. -/
def Checks {State : Type} (step : Method State Value) : Prop :=
  ∀ state, (∃ value, step state = (.ok value, state)) ∨
    ∃ message, step state = (.error (.error message), state)

theorem checks_lift {State : Type} (result : Except String Value) :
    Checks (lift result : Method State Value) := by
  intro state
  cases result with
  | ok value => exact Or.inl ⟨value, rfl⟩
  | error message => exact Or.inr ⟨message, rfl⟩

theorem checks_require (operation : String) :
    Checks (requireNoLiveSession operation : Method (LiveRuntime F V Note) Unit) := by
  intro runtime
  rcases require_cases operation runtime with free | refused
  · exact Or.inl ⟨(), free⟩
  · exact Or.inr refused

theorem checks_live_session_ref (token : UInt64) :
    Checks (liveSessionRef token : Method (LiveRuntime F V Note) (LivePredictionSessionState F)) := by
  intro runtime
  rcases live_session_ref_cases token runtime with refused | ⟨session, _, _, found⟩
  · exact Or.inr refused
  · exact Or.inl ⟨session, found⟩

/-- A panic comes from what follows a check. -/
theorem panic_after_check {State Next : Type} {step : Method State Value}
    {next : Value → Method State Next} {before after : State} {message : String}
    (checks : Checks step) (ran : (step >>= next) before = (.error (.panic message), after)) :
    ∃ value, next value before = (.error (.panic message), after) := by
  rcases checks before with ⟨value, passed⟩ | ⟨other, refused⟩
  · rw [bind_of_ok passed] at ran
    exact ⟨value, ran⟩
  · rw [bind_of_error refused] at ran
    cases ran

theorem panic_on_model {step : Method (ModelState F V) Value}
    {next : Value → Method (LiveRuntime F V Note) Output}
    (finishes : ∀ value state, ∃ output after, next value state = (.ok output, after))
    {message : String}
    (ran : (onModel step >>= next) runtime = (.error (.panic message), reached)) :
    ∃ after, reached = putModel after runtime := by
  rw [bind_apply] at ran
  unfold onModel onPart at ran
  match stepped : step (modelState runtime) with
  | (.ok value, after) =>
      rw [stepped] at ran
      obtain ⟨output, final, finished⟩ := finishes value (putModel after runtime)
      cases finished.symm.trans ran
  | (.error failure, after) =>
      rw [stepped] at ran
      cases ran
      exact ⟨after, rfl⟩

theorem undoable_guarded (settled : Settled runtime) :
    Guarded note (dropResult UndoableProcess.undoLastProcess)
      (undoableProcessReview network note review returnCurves numThreads) runtime := by
  constructor
  case pushes =>
    intro output reached ran
    obtain ⟨_, _, free, _⟩ := bind_ok_steps ran
    obtain ⟨model, begun, after, _, _, same⟩ := undoable_process_ok ran
    subst same
    refine ⟨⟨pushed_length _ _ settled.sized, settled.idle, ?_⟩, rfl, _, rfl, rfl⟩
    intro session live
    have closed : runtime.liveSession = none := (require_ok free).1
    cases closed.symm.trans live
  case undoes =>
    intro output reached ran room
    obtain ⟨_, _, free, _⟩ := bind_ok_steps ran
    obtain ⟨model, begun, after, begins, covers, same⟩ := undoable_process_ok ran
    rw [pushed_below _ room] at same
    have closed := require_ok free
    have idle : reached.liveSession = none ∧ reached.pendingLiveSession = none := by
      rw [same]
      exact closed
    have stacked : reached.undoStack = ⟨model, none, note⟩ :: runtime.undoStack := by rw [same]
    rw [drop_result (undo_of_frame (require_idle _ idle) stacked), same]
    have unchanged : Unchanged (modelState runtime) (model.restore after) := by
      rw [frame_covers_exact covers]
      exact begins_unchanged begins
    exact rolled_back_put settled unchanged
  case refuses =>
    intro message reached ran
    obtain ⟨after, unchanged, same⟩ := undoable_process_error ran
    rw [same]
    exact rolled_back_put settled unchanged
  case panics =>
    intro message reached ran
    obtain ⟨_, ran⟩ := panic_after_check (checks_require _) ran
    obtain ⟨_, ran⟩ := panic_after_check (checks_lift _) ran
    rw [bind_of_ok (current_apply _)] at ran
    split at ran
    · cases ran
    · obtain ⟨input, ran⟩ := panic_after_check (checks_lift _) ran
      exact panic_on_model (fun _ _ => ⟨_, _, rfl⟩) ran

theorem live_guarded (settled : Settled runtime) (token : UInt64) :
    Guarded note (dropResult (LiveAnswers.liveUndoLastProcess token))
      (LiveAnswers.liveProcessAnswer network note token review requeueAfterPrediction numThreads
        returnCurves) runtime := by
  constructor
  case pushes =>
    intro output reached ran
    obtain ⟨⟨session, input, requeueAfterPrediction, slot, model, begun, processed, live, current,
      found, begins, covers, same⟩⟩ := live_answer_ok ran
    subst same
    have exact := session_stack_answered (settled.live session live) found input
      requeueAfterPrediction (rfl : (⟨model, _, note⟩ : RuntimeUndoFrame F V _ Note).live = _)
    refine ⟨⟨pushed_length _ _ settled.sized, settled.idle, ?_⟩, rfl, _, rfl, rfl⟩
    intro answered opened
    cases opened
    exact session_stack_limited runtime.undoLimit exact
  case undoes =>
    intro output reached ran room
    obtain ⟨⟨session, input, requeueAfterPrediction, slot, model, begun, processed, live, current,
      found, begins, covers, same⟩⟩ := live_answer_ok ran
    rw [pushed_below _ room] at same
    have stack := settled.live session live
    have exact := session_stack_answered stack found input requeueAfterPrediction
      (rfl : (⟨model, _, note⟩ : RuntimeUndoFrame F V _ Note).live = _)
    obtain ⟨sameToken, undo, restExact⟩ := session_stack_undone exact rfl
    have ownToken : (applyAnswer session slot input requeueAfterPrediction).token = token :=
      sameToken.symm.trans current
    have idle : reached.pendingLiveSession = none := by
      rw [same]
      exact settled.idle
    have opened : reached.liveSession = some (applyAnswer session slot input
        requeueAfterPrediction) := by rw [same]
    have stacked : reached.undoStack = ⟨model, some (beginAnswerUndo session slot), note⟩ ::
        runtime.undoStack := by rw [same]
    rw [← ownToken, drop_result (live_undo_of_frame idle opened stacked rfl sameToken undo), same]
    have unchanged : Unchanged (modelState runtime) (model.restore processed) := by
      rw [frame_covers_exact covers]
      exact begins_unchanged begins
    constructor
    case model => exact unchanged
    case session =>
      change Option.Rel SameLogicalContent runtime.liveSession (some _)
      rw [live]
      exact Option.Rel.some (answer_undone stack found input requeueAfterPrediction)
    case undoStack => rfl
    case undoLimit => rfl
    case settled =>
      refine ⟨settled.sized, settled.idle, ?_⟩
      intro restored opened
      cases opened
      exact restExact
  case refuses =>
    intro message reached ran
    obtain ⟨after, unchanged, same⟩ := live_answer_error ran
    rw [same]
    exact rolled_back_put settled unchanged
  case panics =>
    intro message reached ran
    unfold LiveAnswers.liveProcessAnswer at ran
    rw [bind_of_ok (current_apply _)] at ran
    split at ran
    · cases ran
    · obtain ⟨input, ran⟩ := panic_after_check (checks_lift _) ran
      obtain ⟨session, ran⟩ := panic_after_check (checks_live_session_ref token) ran
      obtain ⟨slot, ran⟩ := panic_after_check (checks_lift _) ran
      obtain ⟨_, ran⟩ := panic_after_check (checks_lift _) ran
      exact panic_on_model (fun _ _ => ⟨_, _, rfl⟩) ran

end Undoable

end Native

/-- The metadata stack remembers, frame by frame, the metadata from before the review. -/
structure AdapterExact (adapter : Adapter F V) : Prop where
  settled : Settled adapter.runtime
  aligned : adapter.undoMetadataStack = adapter.runtime.undoStack.map (·.note.metadata)

/-- All that a failed undoable call has to leave as it was. -/
structure Restored (before after : Adapter F V) : Prop where
  model : Unchanged (modelState before.runtime) (modelState after.runtime)
  session : Option.Rel SameLogicalContent before.runtime.liveSession after.runtime.liveSession
  undoStack : after.runtime.undoStack = before.runtime.undoStack
  metadata : after.metadata = before.metadata
  undoMetadataStack : after.undoMetadataStack = before.undoMetadataStack

/-- An exception arrives only below the limit, and before the metadata is touched. -/
def FaultsCaught (faults : Faults) (runtime : LiveRuntime F V Note) : Prop :=
  ∀ point, (faults point).isSome = true →
    (point = .conversion ∨ point = .reviewId) ∧
      runtime.undoStack.length < runtime.undoLimit.toNat

section Layers

variable {adapter reached : Adapter F V} {faults : Faults}

theorem restored_of_rolled_back {runtime : LiveRuntime F V (Moment F V)}
    (exact : AdapterExact adapter) (rolledBack : RolledBack adapter.runtime runtime) :
    AdapterExact { adapter with runtime := runtime } ∧
      Restored adapter { adapter with runtime := runtime } := by
  constructor
  · refine ⟨rolledBack.settled, ?_⟩
    change adapter.undoMetadataStack = _
    rw [rolledBack.undoStack]
    exact exact.aligned
  · exact ⟨rolledBack.model, rolledBack.session, rolledBack.undoStack, rfl, rfl⟩

section Undoing

variable {undo : Method (LiveRuntime F V (Moment F V)) Unit} {step : Method (Adapter F V) Value}
  {message : String}

theorem undoing_deeper (stepped : step adapter = (.error (.error message), reached))
    (deeper : adapter.runtime.undoStack.length < reached.runtime.undoStack.length) :
    undoingIfDeeper undo step adapter =
      (.error (.error message), { reached with runtime := (undo reached.runtime).2 }) := by
  unfold undoingIfDeeper
  rw [restoring_of_error stepped, if_pos deeper]

theorem undoing_level (stepped : step adapter = (.error (.error message), reached))
    (level : reached.runtime.undoStack.length ≤ adapter.runtime.undoStack.length) :
    undoingIfDeeper undo step adapter = (.error (.error message), reached) := by
  unfold undoingIfDeeper
  rw [restoring_of_error stepped, if_neg (Nat.not_lt.mpr level)]

theorem undoing_raises (stepped : step adapter = (.error (.error message), reached)) :
    ∃ after, undoingIfDeeper undo step adapter = (.error (.error message), after) :=
  ⟨_, restoring_of_error stepped⟩

theorem undoing_panic (stepped : step adapter = (.error (.panic message), reached)) :
    undoingIfDeeper undo step adapter = (.error (.panic message), reached) := by
  unfold undoingIfDeeper restoringOnError
  rw [stepped]

theorem undoing_congr {other : Method (Adapter F V) Value} (same : step adapter = other adapter) :
    undoingIfDeeper undo step adapter = undoingIfDeeper undo other adapter := by
  unfold undoingIfDeeper restoringOnError
  rw [same]

end Undoing

/-- The body of the inner layer. -/
def converted (call : Method (LiveRuntime F V (Moment F V)) Output) (faults : Faults) :
    Method (Adapter F V) Output := do
  let output ← onRuntime call
  raiseAt faults .conversion
  return output

/-- Both layers of `undoable_process` and of `_live_process_answer`, after their checks. -/
def layered (undo : Method (LiveRuntime F V (Moment F V)) Unit)
    (call : Method (LiveRuntime F V (Moment F V)) Output) (faults : Faults)
    (review : AdapterReview F) (nextDigest : Option String) (previous : HistoryMetadata) :
    Method (Adapter F V) Output :=
  undoingIfDeeper undo do
    let output ← undoingIfDeeper undo (converted call faults)
    recordUndoable faults review nextDigest previous
    return output

/-- The metadata stack after `_trim_undo_metadata_stack`. -/
def trimmed (undoLimit : UInt64) (stack : List HistoryMetadata) : List HistoryMetadata :=
  if undoLimit.toNat < stack.length then stack.take undoLimit.toNat else stack

theorem trim_aligned {undoLimit : UInt64}
    {frame : RuntimeUndoFrame F V (LiveIndexUndoFrame F) (Moment F V)}
    {stack : List (RuntimeUndoFrame F V (LiveIndexUndoFrame F) (Moment F V))}
    (sized : stack.length ≤ undoLimit.toNat) :
    trimmed undoLimit ((frame :: stack).map (·.note.metadata)) =
      (pushed undoLimit frame stack).map (·.note.metadata) := by
  unfold trimmed pushed
  rw [List.length_map]
  split
  · rename_i deeper
    rw [List.map_dropLast, List.dropLast_eq_take, List.length_map]
    congr 1
    rw [List.length_cons] at deeper ⊢
    omega
  · rfl

theorem raise_at_none {point : FaultPoint} (quiet : faults point = none) :
    (raiseAt faults point : Method (Adapter F V) Unit) = pure () := by
  unfold raiseAt
  rw [quiet]

theorem raise_at_some {point : FaultPoint} {message : String}
    (raised : faults point = some message) :
    (raiseAt faults point : Method (Adapter F V) Unit) = fail (.error message) := by
  unfold raiseAt
  rw [raised]

theorem trim_apply (adapter : Adapter F V) :
    trimUndoMetadataStack adapter = (.ok (), { adapter with
      undoMetadataStack := trimmed adapter.runtime.undoLimit adapter.undoMetadataStack }) := by
  unfold trimUndoMetadataStack trimmed
  rw [update_apply]
  split <;> rfl

def recordedMetadata (review : AdapterReview F) (nextDigest : Option String)
    (metadata : HistoryMetadata) : HistoryMetadata :=
  match nextDigest with
  | none => { metadata with lastReviewId := review.lastReviewId }
  | some digest => ⟨some digest, metadata.processedReviewCount + 1, review.lastReviewId⟩

/-- Without an exception the metadata stack grows by the previous metadata, up to the limit. -/
theorem record_quiet (quiet : ∀ point, faults point = none) (review : AdapterReview F)
    (nextDigest : Option String) (previous : HistoryMetadata) :
    recordUndoable faults review nextDigest previous adapter = (.ok (),
      ⟨adapter.runtime, recordedMetadata review nextDigest adapter.metadata,
        trimmed adapter.runtime.undoLimit (previous :: adapter.undoMetadataStack)⟩) := by
  unfold recordUndoable
  simp only [raise_at_none (quiet _), pure_bind]
  cases nextDigest with
  | none => exact trim_apply { adapter with
      metadata := recordedMetadata review none adapter.metadata
      undoMetadataStack := previous :: adapter.undoMetadataStack }
  | some digest => exact trim_apply { adapter with
      metadata := recordedMetadata review (some digest) adapter.metadata
      undoMetadataStack := previous :: adapter.undoMetadataStack }

theorem converted_raises {call : Method (LiveRuntime F V (Moment F V)) Output} {output : Output}
    {runtime : LiveRuntime F V (Moment F V)} {message : String}
    (ran : call adapter.runtime = (.ok output, runtime))
    (raised : faults .conversion = some message) :
    converted call faults adapter = (.error (.error message), { adapter with runtime := runtime }) := by
  have ran' : onRuntime call adapter = (.ok output, { adapter with runtime := runtime }) := by
    unfold onRuntime onPart
    rw [ran]
  unfold converted
  rw [bind_of_ok ran', raise_at_some raised]
  rfl

theorem converted_quiet {call : Method (LiveRuntime F V (Moment F V)) Output} {output : Output}
    {runtime : LiveRuntime F V (Moment F V)} (ran : call adapter.runtime = (.ok output, runtime))
    (quiet : faults .conversion = none) :
    converted call faults adapter = (.ok output, { adapter with runtime := runtime }) := by
  have ran' : onRuntime call adapter = (.ok output, { adapter with runtime := runtime }) := by
    unfold onRuntime onPart
    rw [ran]
  unfold converted
  rw [bind_of_ok ran', raise_at_none quiet]
  rfl

theorem converted_fails {call : Method (LiveRuntime F V (Moment F V)) Output} {failure : Failure}
    {runtime : LiveRuntime F V (Moment F V)}
    (ran : call adapter.runtime = (.error failure, runtime)) :
    converted call faults adapter = (.error failure, { adapter with runtime := runtime }) := by
  apply bind_of_error
  unfold onRuntime onPart
  rw [ran]

theorem layered_quiet {undo : Method (LiveRuntime F V (Moment F V)) Unit}
    {call : Method (LiveRuntime F V (Moment F V)) Output} {output : Output}
    {runtime : LiveRuntime F V (Moment F V)} (ran : call adapter.runtime = (.ok output, runtime))
    (quiet : ∀ point, faults point = none) (review : AdapterReview F)
    (nextDigest : Option String) (previous : HistoryMetadata) :
    layered undo call faults review nextDigest previous adapter = (.ok output,
      ⟨runtime, recordedMetadata review nextDigest adapter.metadata,
        trimmed runtime.undoLimit (previous :: adapter.undoMetadataStack)⟩) := by
  have inner : undoingIfDeeper undo (converted call faults) adapter = _ :=
    restoring_of_ok (converted_quiet ran (quiet _))
  apply restoring_of_ok
  rw [bind_of_ok inner, bind_of_ok (record_quiet quiet review nextDigest previous)]
  rfl

section Raised

variable {undo : Method (LiveRuntime F V (Moment F V)) Unit}
  {call : Method (LiveRuntime F V (Moment F V)) Output} {output : Output}
  {runtime : LiveRuntime F V (Moment F V)} {message : String}

/-- Both layers hand the exception on. -/
theorem layered_raises (ran : call adapter.runtime = (.ok output, runtime))
    (raised : faults .conversion = some message) (review : AdapterReview F)
    (nextDigest : Option String) (previous : HistoryMetadata) :
    ∃ reached, layered undo call faults review nextDigest previous adapter =
      (.error (.error message), reached) := by
  obtain ⟨stopped, inner⟩ : ∃ stopped, undoingIfDeeper undo (converted call faults) adapter =
      (.error (.error message), stopped) := undoing_raises (converted_raises ran raised)
  exact undoing_raises (bind_of_error inner)

/-- Where the push has not deepened the stack, nothing is undone. -/
theorem layered_full (ran : call adapter.runtime = (.ok output, runtime))
    (raised : faults .conversion = some message)
    (level : runtime.undoStack.length ≤ adapter.runtime.undoStack.length)
    (review : AdapterReview F) (nextDigest : Option String) (previous : HistoryMetadata) :
    layered undo call faults review nextDigest previous adapter =
      (.error (.error message), { adapter with runtime := runtime }) := by
  have inner : undoingIfDeeper undo (converted call faults) adapter = _ :=
    undoing_level (converted_raises ran raised) level
  exact undoing_level (bind_of_error inner) level

end Raised

/-- A finished call is recorded, or undone by the layer that first sees the exception. -/
theorem layered_pushed {undo : Method (LiveRuntime F V (Moment F V)) Unit}
    {call : Method (LiveRuntime F V (Moment F V)) Output} (exact : AdapterExact adapter)
    (guarded : Guarded (moment adapter) undo call adapter.runtime)
    (caught : FaultsCaught faults adapter.runtime) (review : AdapterReview F)
    (nextDigest : Option String) {output : Output} {runtime : LiveRuntime F V (Moment F V)}
    (ran : call adapter.runtime = (.ok output, runtime)) :
    (∃ reached, layered undo call faults review nextDigest adapter.metadata adapter =
        (.ok output, reached) ∧ AdapterExact reached) ∨
      ∃ message, layered undo call faults review nextDigest adapter.metadata adapter =
          (.error (.error message), { adapter with runtime := (undo runtime).2 }) ∧
        RolledBack adapter.runtime (undo runtime).2 := by
  obtain ⟨settled, sameLimit, frame, noted, stacked⟩ := guarded.pushes output runtime ran
  have deeper : adapter.runtime.undoStack.length < adapter.runtime.undoLimit.toNat →
      adapter.runtime.undoStack.length < runtime.undoStack.length := by
    intro room
    rw [stacked, pushed_below _ room, List.length_cons]
    omega
  cases conversion : faults .conversion with
  | some message =>
      have room := (caught .conversion (by rw [conversion]; rfl)).2
      have rolledBack := guarded.undoes output runtime ran room
      have inner : undoingIfDeeper undo (converted call faults) adapter = _ :=
        undoing_deeper (converted_raises ran conversion) (deeper room)
      refine Or.inr ⟨message, ?_, rolledBack⟩
      apply undoing_level
      · exact bind_of_error inner
      · rw [rolledBack.undoStack]
  | none =>
      have inner : undoingIfDeeper undo (converted call faults) adapter = _ :=
        restoring_of_ok (converted_quiet ran conversion)
      cases reviewId : faults .reviewId with
      | some message =>
          have room := (caught .reviewId (by rw [reviewId]; rfl)).2
          refine Or.inr ⟨message, ?_, guarded.undoes output runtime ran room⟩
          have body : (undoingIfDeeper undo (converted call faults) >>= fun output =>
              recordUndoable faults review nextDigest adapter.metadata >>= fun _ => pure output)
                adapter = (.error (.error message), { adapter with runtime := runtime }) := by
            rw [bind_of_ok inner]
            unfold recordUndoable
            rw [raise_at_some reviewId]
            rfl
          exact undoing_deeper body (deeper room)
      | none =>
          have quiet : ∀ point, faults point = none := by
            intro point
            cases raised : faults point with
            | none => rfl
            | some message =>
                rcases (caught point (by rw [raised]; rfl)).1 with same | same
                · rw [same, conversion] at raised
                  cases raised
                · rw [same, reviewId] at raised
                  cases raised
          left
          refine ⟨_, layered_quiet ran quiet review nextDigest adapter.metadata, settled, ?_⟩
          · have remembered : frame.note.metadata = adapter.metadata := by
              rw [noted]
              rfl
            change trimmed _ _ = runtime.undoStack.map _
            rw [stacked, ← trim_aligned exact.settled.sized, List.map_cons, remembered,
              ← exact.aligned, sameLimit]

theorem layered_exact {undo : Method (LiveRuntime F V (Moment F V)) Unit}
    {call : Method (LiveRuntime F V (Moment F V)) Output} (exact : AdapterExact adapter)
    (guarded : Guarded (moment adapter) undo call adapter.runtime)
    (caught : FaultsCaught faults adapter.runtime) (review : AdapterReview F)
    (nextDigest : Option String) :
    AdapterExact (layered undo call faults review nextDigest adapter.metadata adapter).2 ∧
      ∀ message reached, layered undo call faults review nextDigest adapter.metadata adapter =
        (.error (.error message), reached) → Restored adapter reached := by
  match ran : call adapter.runtime with
  | (.ok output, runtime) =>
      rcases layered_pushed exact guarded caught review nextDigest ran with
        ⟨reached, finished, reachedExact⟩ | ⟨message, undone, rolledBack⟩
      · rw [finished]
        refine ⟨reachedExact, ?_⟩
        intro _ _ same
        cases same
      · rw [undone]
        obtain ⟨reachedExact, restored⟩ := restored_of_rolled_back exact rolledBack
        refine ⟨reachedExact, ?_⟩
        intro _ _ same
        cases same
        exact restored
  | (.error (.error message), runtime) =>
      have rolledBack := guarded.refuses message runtime ran
      obtain ⟨reachedExact, restored⟩ := restored_of_rolled_back exact rolledBack
      have inner : undoingIfDeeper undo (converted call faults) adapter =
          (.error (.error message), { adapter with runtime := runtime }) := by
        apply undoing_level (converted_fails ran)
        rw [rolledBack.undoStack]
      have outer : layered undo call faults review nextDigest adapter.metadata adapter =
          (.error (.error message), { adapter with runtime := runtime }) := by
        apply undoing_level
        · exact bind_of_error inner
        · rw [rolledBack.undoStack]
      rw [outer]
      refine ⟨reachedExact, ?_⟩
      intro _ _ same
      cases same
      exact restored
  | (.error (.panic message), runtime) =>
      have inner : undoingIfDeeper undo (converted call faults) adapter =
          (.error (.panic message), { adapter with runtime := runtime }) :=
        undoing_panic (converted_fails ran)
      have outer : layered undo call faults review nextDigest adapter.metadata adapter =
          (.error (.panic message), { adapter with runtime := runtime }) :=
        undoing_panic (bind_of_error inner)
      rw [outer]
      obtain ⟨after, same⟩ := guarded.panics message runtime ran
      subst same
      refine ⟨⟨⟨exact.settled.sized, exact.settled.idle, exact.settled.live⟩, exact.aligned⟩, ?_⟩
      intro _ _ same
      cases same

end Layers

/-- A call with its arguments; the texts of the exceptions that arrive during it are given. -/
inductive PublicCall (F V : Type) where
  | undoableProcess (faults : Faults) (checks : Except String Unit) (review : AdapterReview F)
      (returnCurves : Bool) (numThreads : Option Nat)
  | undoLastProcess
  | liveProcessAnswer (faults : Faults) (checks : Except String Unit) (review : AdapterReview F)
      (requeueAfterPrediction returnCurves : Bool) (numThreads : Option Nat)
  | liveUndoLastProcess
  | liveEdit (edit : LiveEdit F) (prediction : Method (ModelState F V) Unit)
  | replaceCandidates (seeds : List (LiveCandidateSeed F)) (predict : Predictor F)
      (prediction : Method (ModelState F V) Unit)
  | predictManyLiveSession (opening : LiveOpening F V)
  | closeLiveSession
  | clearing (operation : String) (checks nativeChecks : Except String Unit)
      (body : Method (Moment F V) Unit)
  | reading (body : Method (ModelState F V) Unit)

def PublicCall.perform (network : ReviewNetwork F V Logits Rows) :
    PublicCall F V → Method (Adapter F V) Unit
  | .undoableProcess faults checks review returnCurves numThreads =>
      dropResult (UndoableAdapter.undoableProcess network faults checks review returnCurves numThreads)
  | .undoLastProcess => dropResult UndoableAdapter.undoLastProcess
  | .liveProcessAnswer faults checks review requeueAfterPrediction returnCurves numThreads =>
      dropResult (UndoableAdapter.liveProcessAnswer network faults checks review
        requeueAfterPrediction returnCurves numThreads)
  | .liveUndoLastProcess => dropResult UndoableAdapter.liveUndoLastProcess
  | .liveEdit edit prediction => UndoableAdapter.liveEdit edit prediction
  | .replaceCandidates seeds predict prediction =>
      UndoableAdapter.replaceCandidates seeds predict prediction
  | .predictManyLiveSession opening => UndoableAdapter.predictManyLiveSession opening
  | .closeLiveSession => UndoableAdapter.closeLiveSession
  | .clearing operation checks nativeChecks body => clearingCall operation checks nativeChecks body
  | .reading body => readingCall body

/-- The two calls that are all or nothing. -/
def PublicCall.Undoable : PublicCall F V → Prop
  | .undoableProcess _ _ _ _ _ => True
  | .liveProcessAnswer _ _ _ _ _ _ => True
  | _ => False

/-- Exceptions arrive where a layer notices them. -/
def Sound (adapter : Adapter F V) : PublicCall F V → Prop
  | .undoableProcess faults _ _ _ _ => FaultsCaught faults adapter.runtime
  | .liveProcessAnswer faults _ _ _ _ _ => FaultsCaught faults adapter.runtime
  | _ => True

/-- Runs from a new adapter, or one with a restored checkpoint. -/
inductive SoundRun (network : ReviewNetwork F V Logits Rows) : Adapter F V → Prop where
  | start {adapter : Adapter F V} (closed : adapter.runtime.liveSession = none)
      (idle : adapter.runtime.pendingLiveSession = none) (fresh : adapter.runtime.undoStack = [])
      (freshMetadata : adapter.undoMetadataStack = []) : SoundRun network adapter
  | step {adapter : Adapter F V} (run : SoundRun network adapter) (call : PublicCall F V)
      (sound : Sound adapter call) : SoundRun network (call.perform network adapter).2

/-- What one call keeps, and what a failed undoable one restores. -/
structure CallExact (call : Method (Adapter F V) Value) (adapter : Adapter F V) : Prop where
  exact : AdapterExact (call adapter).2
  restored : ∀ message reached, call adapter = (.error (.error message), reached) →
    Restored adapter reached

section Calls

variable {adapter : Adapter F V}

theorem restored_refl (exact : AdapterExact adapter) : Restored adapter adapter :=
  (restored_of_rolled_back exact
    (rolled_back_put exact.settled (unchanged_refl (modelState adapter.runtime)))).2

theorem call_unchanged {call : Method (Adapter F V) Value} {result : Except Failure Value}
    (exact : AdapterExact adapter) (ran : call adapter = (result, adapter)) :
    CallExact call adapter := by
  constructor
  · rw [ran]
    exact exact
  · intro message reached failed
    cases failed.symm.trans ran
    exact restored_refl exact

/-- Behind a check only the passing case is left. -/
theorem call_after_check {Next : Type} {check : Method (Adapter F V) Value}
    {next : Value → Method (Adapter F V) Next} (checks : Checks check)
    (exact : AdapterExact adapter)
    (rest : ∀ value, check adapter = (.ok value, adapter) → CallExact (next value) adapter) :
    CallExact (check >>= next) adapter := by
  rcases checks adapter with ⟨value, passed⟩ | ⟨message, refused⟩
  · have after := rest value passed
    constructor
    · rw [bind_of_ok passed]
      exact after.exact
    · intro message reached failed
      rw [bind_of_ok passed] at failed
      exact after.restored message reached failed
  · exact call_unchanged exact (bind_of_error refused)

theorem checks_require_no_active (operation : String) :
    Checks (requireNoActiveLiveSession operation : Method (Adapter F V) Unit) := by
  intro adapter
  unfold requireNoActiveLiveSession
  rw [bind_of_ok (current_apply _)]
  split
  · exact Or.inr ⟨_, rfl⟩
  · exact Or.inl ⟨(), rfl⟩

theorem checks_require_open : Checks (requireOpen : Method (Adapter F V) UInt64) := by
  intro adapter
  unfold requireOpen
  rw [bind_of_ok (current_apply _)]
  cases adapter.runtime.liveSession with
  | none => exact Or.inr ⟨_, rfl⟩
  | some session => exact Or.inl ⟨session.token, rfl⟩

theorem checks_current : Checks (current : Method (Adapter F V) (Adapter F V)) :=
  fun adapter => Or.inl ⟨adapter, rfl⟩

theorem call_congr {call other : Method (Adapter F V) Value} (same : call adapter = other adapter)
    (exact : CallExact other adapter) : CallExact call adapter := by
  constructor
  · rw [same]
    exact exact.exact
  · rw [same]
    exact exact.restored

theorem call_without_result {call : Method (Adapter F V) Value} (exact : CallExact call adapter) :
    CallExact (dropResult call) adapter := by
  constructor
  · rw [drop_result_state]
    exact exact.exact
  · intro message reached failed
    unfold dropResult at failed
    rw [bind_apply] at failed
    match ran : call adapter with
    | (.ok value, stopped) =>
        rw [ran] at failed
        cases failed
    | (.error failure, stopped) =>
        rw [ran] at failed
        cases failed
        exact exact.restored message reached ran

theorem layered_call {undo : Method (LiveRuntime F V (Moment F V)) Unit} {faults : Faults}
    {call : Method (LiveRuntime F V (Moment F V)) Output} {inner : Method (Adapter F V) Output}
    (exact : AdapterExact adapter)
    (guarded : Guarded (moment adapter) undo call adapter.runtime)
    (caught : FaultsCaught faults adapter.runtime)
    (same : inner adapter = undoingIfDeeper undo (converted call faults) adapter)
    (review : AdapterReview F) (nextDigest : Option String) :
    CallExact (undoingIfDeeper undo do
      let output ← inner
      recordUndoable faults review nextDigest adapter.metadata
      return output) adapter := by
  have layers := layered_exact exact guarded caught review nextDigest
  refine call_congr ?_ ⟨layers.1, layers.2⟩
  unfold layered
  apply undoing_congr
  rw [bind_apply, bind_apply, same]

/-- With nothing in the way of the native call, only the two layers are left. -/
theorem undoable_process_layered (network : ReviewNetwork F V Logits Rows) (faults : Faults)
    (closed : adapter.runtime.liveSession = none) (enabled : adapter.runtime.undoLimit ≠ 0)
    (untracked : adapter.metadata.historyDigest = none) (review : AdapterReview F)
    (returnCurves : Bool) (numThreads : Option Nat) :
    UndoableAdapter.undoableProcess network faults (.ok ()) review returnCurves numThreads adapter =
      layered (dropResult UndoableProcess.undoLastProcess)
        (undoableProcessReview network (moment adapter) review.input returnCurves numThreads) faults
        review none adapter.metadata adapter := by
  have passed : requireNoActiveLiveSession "undoable_process" adapter = (.ok (), adapter) := by
    unfold requireNoActiveLiveSession
    rw [bind_of_ok (current_apply _), closed]
    rfl
  have digest : nextHistoryDigest review adapter.metadata = .ok none := by
    unfold nextHistoryDigest
    rw [untracked]
  unfold UndoableAdapter.undoableProcess
  rw [bind_of_ok passed, bind_of_ok (current_apply _), if_neg enabled, bind_of_ok (lift_ok _ _),
    digest, bind_of_ok (lift_ok _ _)]
  unfold layered
  apply undoing_congr
  rw [bind_apply, bind_apply]
  unfold undoableProcessRow
  rw [bind_of_ok (current_apply _), if_neg enabled]
  rfl

theorem undoable_process_call (network : ReviewNetwork F V Logits Rows) {faults : Faults}
    (exact : AdapterExact adapter)
    (caught : FaultsCaught faults adapter.runtime) (checks : Except String Unit)
    (review : AdapterReview F) (returnCurves : Bool) (numThreads : Option Nat) :
    CallExact (UndoableAdapter.undoableProcess network faults checks review returnCurves numThreads)
      adapter := by
  unfold UndoableAdapter.undoableProcess
  apply call_after_check (checks_require_no_active _) exact
  intro _ _
  apply call_after_check checks_current exact
  rintro _ ⟨⟩
  by_cases disabled : adapter.runtime.undoLimit = 0
  · rw [if_pos disabled]
    exact call_unchanged exact rfl
  · rw [if_neg disabled]
    apply call_after_check (checks_lift _) exact
    intro _ _
    apply call_after_check (checks_lift _) exact
    intro nextDigest _
    apply layered_call exact (undoable_guarded exact.settled) caught
    unfold undoableProcessRow
    rw [bind_of_ok (current_apply _), if_neg disabled]
    rfl

theorem live_process_call (network : ReviewNetwork F V Logits Rows) {faults : Faults}
    (exact : AdapterExact adapter)
    (caught : FaultsCaught faults adapter.runtime) (checks : Except String Unit)
    (review : AdapterReview F) (requeueAfterPrediction returnCurves : Bool)
    (numThreads : Option Nat) :
    CallExact (UndoableAdapter.liveProcessAnswer network faults checks review
      requeueAfterPrediction returnCurves numThreads) adapter := by
  unfold UndoableAdapter.liveProcessAnswer
  apply call_after_check checks_require_open exact
  intro token _
  apply call_after_check checks_current exact
  rintro _ ⟨⟩
  by_cases disabled : adapter.runtime.undoLimit = 0
  · rw [if_pos disabled]
    exact call_unchanged exact rfl
  · rw [if_neg disabled]
    apply call_after_check (checks_lift _) exact
    intro _ _
    apply call_after_check (checks_lift _) exact
    intro nextDigest _
    apply layered_call exact (live_guarded exact.settled token) caught
    rfl

theorem settled_closed {runtime : LiveRuntime F V Note} (closed : runtime.liveSession = none)
    (idle : runtime.pendingLiveSession = none)
    (sized : runtime.undoStack.length ≤ runtime.undoLimit.toNat) : Settled runtime := by
  refine ⟨sized, idle, ?_⟩
  intro session live
  cases closed.symm.trans live

theorem exact_put (exact : AdapterExact adapter) (state : ModelState F V) :
    AdapterExact { adapter with runtime := putModel state adapter.runtime } :=
  ⟨⟨exact.settled.sized, exact.settled.idle, exact.settled.live⟩, exact.aligned⟩

theorem closed_of_passed {operation : String} {value : Unit} {reached : Adapter F V}
    (passed : requireNoActiveLiveSession operation adapter = (.ok value, reached)) :
    adapter.runtime.liveSession = none := by
  unfold requireNoActiveLiveSession at passed
  rw [bind_of_ok (current_apply _)] at passed
  split at passed
  · cases passed
  · rename_i closed
    exact Option.not_isSome_iff_eq_none.mp closed

theorem open_session {token : UInt64} {reached : Adapter F V}
    (opened : requireOpen adapter = (.ok token, reached)) :
    ∃ session, adapter.runtime.liveSession = some session ∧ session.token = token := by
  unfold requireOpen at opened
  rw [bind_of_ok (current_apply _)] at opened
  cases live : adapter.runtime.liveSession with
  | none =>
      rw [live] at opened
      cases opened
  | some session =>
      rw [live] at opened
      cases opened
      exact ⟨session, rfl, rfl⟩

/-- The two stacks hold a frame together. -/
theorem aligned_cons (exact : AdapterExact adapter) {previous : HistoryMetadata}
    {rest : List HistoryMetadata} (remembered : adapter.undoMetadataStack = previous :: rest) :
    ∃ frame frames, adapter.runtime.undoStack = frame :: frames ∧
      rest = frames.map (·.note.metadata) := by
  have aligned := exact.aligned
  cases stacked : adapter.runtime.undoStack with
  | nil =>
      rw [remembered, stacked] at aligned
      cases aligned
  | cons frame frames =>
      rw [remembered, stacked, List.map_cons, List.cons.injEq] at aligned
      exact ⟨frame, frames, rfl, aligned.2⟩

theorem undo_last_kept (exact : AdapterExact adapter) :
    AdapterExact (UndoableAdapter.undoLastProcess adapter).2 := by
  unfold UndoableAdapter.undoLastProcess
  rcases checks_require_no_active "undo_last_process" adapter with ⟨_, passed⟩ | ⟨message, refused⟩
  · have closed := closed_of_passed passed
    rw [bind_of_ok passed, bind_of_ok (current_apply _)]
    cases remembered : adapter.undoMetadataStack with
    | nil => exact exact
    | cons previous rest =>
        obtain ⟨frame, frames, stacked, aligned⟩ := aligned_cons exact remembered
        have sized := exact.settled.sized
        rw [stacked, List.length_cons] at sized
        simp only [undo_of_frame (require_idle _ ⟨closed, exact.settled.idle⟩) stacked]
        rw [if_neg (by simp [aligned])]
        refine ⟨settled_closed closed exact.settled.idle ?_, aligned⟩
        change frames.length ≤ adapter.runtime.undoLimit.toNat
        omega
  · rw [bind_of_error refused]
    exact exact

theorem live_undo_kept (exact : AdapterExact adapter) :
    AdapterExact (UndoableAdapter.liveUndoLastProcess adapter).2 := by
  unfold UndoableAdapter.liveUndoLastProcess
  rcases checks_require_open adapter with ⟨token, opened⟩ | ⟨message, refused⟩
  · obtain ⟨session, live, ownToken⟩ := open_session opened
    subst ownToken
    rw [bind_of_ok opened, bind_of_ok (current_apply _)]
    cases remembered : adapter.undoMetadataStack with
    | nil => exact exact
    | cons previous rest =>
        obtain ⟨frame, frames, stacked, aligned⟩ := aligned_cons exact remembered
        have sized := exact.settled.sized
        have stack := exact.settled.live session live
        rw [stacked] at sized stack
        rw [List.length_cons] at sized
        obtain ⟨part, own⟩ : ∃ part, frame.live = some part := by
          obtain ⟨_, parts, same, _⟩ := stack
          cases parts with
          | nil => cases same
          | cons part parts => exact ⟨part, (List.cons.inj same).1⟩
        obtain ⟨sameToken, undo, restExact⟩ := session_stack_undone stack own
        simp only [live_undo_of_frame exact.settled.idle live stacked own sameToken undo]
        rw [if_neg (by simp [aligned])]
        refine ⟨⟨?_, exact.settled.idle, ?_⟩, aligned⟩
        · change frames.length ≤ adapter.runtime.undoLimit.toNat
          omega
        · intro restored opened
          cases opened
          exact restExact
  · rw [bind_of_error refused]
    exact exact

theorem put_live_shape (undo : Option (LiveIndexUndoFrame F))
    (stack : List (RuntimeUndoFrame F V (LiveIndexUndoFrame F) Note)) :
    (putLive undo stack).map (·.note) = stack.map (·.note) := by
  cases undo with
  | none => rfl
  | some live => cases stack <;> rfl

theorem live_edit_kept (exact : AdapterExact adapter) (edit : LiveEdit F)
    (prediction : Method (ModelState F V) Unit) :
    AdapterExact (UndoableAdapter.liveEdit edit prediction adapter).2 := by
  unfold UndoableAdapter.liveEdit
  rcases checks_require_open adapter with ⟨token, opened⟩ | ⟨message, refused⟩
  · obtain ⟨session, live, ownToken⟩ := open_session opened
    subst ownToken
    rw [bind_of_ok opened]
    unfold onRuntime onPart LiveAnswers.liveEdit
    rw [bind_of_ok (live_session_ref_open exact.settled.idle live), bind_apply]
    unfold onModel onPart
    match prediction (modelState adapter.runtime) with
    | (.error failure, state) => exact exact_put exact state
    | (.ok _, state) =>
        have edited := session_stack_edited (exact.settled.live session live) edit
        have notes := put_live_shape
          (applyEdit edit (session, latestLive session.token adapter.runtime.undoStack)).2
          adapter.runtime.undoStack
        have lengths := congrArg List.length notes
        rw [List.length_map, List.length_map] at lengths
        have metadata := congrArg (List.map Moment.metadata) notes
        rw [List.map_map, List.map_map] at metadata
        refine ⟨⟨lengths.trans_le exact.settled.sized, exact.settled.idle, ?_⟩,
          exact.aligned.trans metadata.symm⟩
        intro reached same
        cases same
        exact edited
  · rw [bind_of_error refused]
    exact exact

theorem replace_kept (exact : AdapterExact adapter) (seeds : List (LiveCandidateSeed F))
    (predict : Predictor F) (prediction : Method (ModelState F V) Unit) :
    AdapterExact (UndoableAdapter.replaceCandidates seeds predict prediction adapter).2 := by
  unfold UndoableAdapter.replaceCandidates
  rcases checks_require_open adapter with ⟨token, opened⟩ | ⟨message, refused⟩
  · obtain ⟨session, live, ownToken⟩ := open_session opened
    subst ownToken
    rw [bind_of_ok opened, bind_apply]
    unfold onRuntime onPart liveReplaceCandidates
    rw [bind_of_ok (live_session_ref_open exact.settled.idle live), bind_apply]
    unfold onModel onPart
    match prediction (modelState adapter.runtime) with
    | (.error failure, state) => exact exact_put exact state
    | (.ok _, state) =>
        cases built : replaceLiveSessionCandidates session seeds predict with
        | error message =>
            exact exact_put exact state
        | ok replaced =>
            refine ⟨⟨Nat.zero_le _, exact.settled.idle, ?_⟩, rfl⟩
            intro reached same
            cases same
            exact session_stack_empty (replace_exact built)
  · rw [bind_of_error refused]
    exact exact

theorem close_kept (exact : AdapterExact adapter) :
    AdapterExact (UndoableAdapter.closeLiveSession adapter).2 := by
  unfold UndoableAdapter.closeLiveSession
  rw [bind_of_ok (current_apply _)]
  cases live : adapter.runtime.liveSession with
  | none => exact exact
  | some session =>
      have closed : closeLivePredictionSession session.token adapter.runtime =
          (.ok (), { adapter.runtime with liveSession := none, undoStack := [] }) := by
        unfold closeLivePredictionSession
        rw [bind_of_ok (live_session_ref_open exact.settled.idle live)]
        rfl
      simp only [onRuntime, onPart, closed]
      exact ⟨settled_closed rfl exact.settled.idle (Nat.zero_le _), rfl⟩

theorem reading_kept (exact : AdapterExact adapter) (body : Method (ModelState F V) Unit) :
    AdapterExact (readingCall body adapter).2 := exact_put exact _

theorem clear_history (exact : AdapterExact adapter) (closed : adapter.runtime.liveSession = none) :
    UndoableAdapter.clearUndoHistory adapter = (.ok (), { adapter with
      runtime := { adapter.runtime with undoStack := [] }, undoMetadataStack := [] }) := by
  unfold UndoableAdapter.clearUndoHistory
  rw [bind_of_ok (current_apply _)]
  cases remembered : adapter.undoMetadataStack with
  | nil =>
      have empty : adapter.runtime.undoStack = [] := by
        have aligned := exact.aligned
        rw [remembered, eq_comm, List.map_eq_nil_iff] at aligned
        exact aligned
      have same : { adapter.runtime with undoStack := [] } = adapter.runtime := by rw [← empty]
      rw [same]
      rfl
  | cons previous rest =>
      have cleared : UndoableProcess.clearUndoHistory adapter.runtime =
          (.ok 0, { adapter.runtime with undoStack := [] }) :=
        history_cleared (require_idle _ ⟨closed, exact.settled.idle⟩)
      rw [bind_of_ok (update_apply _ _)]
      simp only [List.isEmpty_cons, Bool.not_false, if_true]
      rw [bind_apply]
      unfold onRuntime onPart
      simp only [cleared]
      rfl

/-- Only a call without a session gets past its first check, and it leaves both stacks empty. -/
theorem clearing_kept (exact : AdapterExact adapter) (operation : String)
    (checks nativeChecks : Except String Unit) (body : Method (Moment F V) Unit) :
    AdapterExact (clearingCall operation checks nativeChecks body adapter).2 := by
  unfold clearingCall
  rcases checks_require_no_active operation adapter with ⟨_, passed⟩ | ⟨message, refused⟩
  · have closed := closed_of_passed passed
    rw [bind_of_ok passed]
    cases checks with
    | error message => exact exact
    | ok _ =>
        rw [bind_of_ok (lift_ok _ _), bind_of_ok (clear_history exact closed)]
        cases nativeChecks with
        | error message =>
            exact ⟨settled_closed closed exact.settled.idle (Nat.zero_le _), rfl⟩
        | ok _ => exact ⟨settled_closed closed exact.settled.idle (Nat.zero_le _), rfl⟩
  · rw [bind_of_error refused]
    exact exact

theorem finalize_pending {runtime : LiveRuntime F V Note} {session : LivePredictionSessionState F}
    (closed : runtime.liveSession = none) (pending : runtime.pendingLiveSession = some session) :
    finalizeLivePredictionSession runtime = (.ok (), { runtime with
      pendingLiveSession := none, undoStack := [], liveSession := some session }) := by
  unfold finalizeLivePredictionSession
  rw [bind_of_ok (current_apply _)]
  simp [closed, pending]

theorem create_cases {runtime : LiveRuntime F V Note} (closed : runtime.liveSession = none)
    (idle : runtime.pendingLiveSession = none)
    (created : Except String (LivePredictionSessionState F))
    (prediction : Method (ModelState F V) Unit) :
    ∃ state, (∃ failure, createLivePredictionSession created prediction runtime =
        (.error failure, putModel state runtime)) ∨
      ∃ session, created = .ok session ∧ createLivePredictionSession created prediction runtime =
        (.ok (), { putModel state runtime with pendingLiveSession := some session }) := by
  have free : ¬(runtime.liveSession.isSome || runtime.pendingLiveSession.isSome) = true := by
    rw [closed, idle]
    simp
  unfold createLivePredictionSession
  rw [bind_of_ok (current_apply _), if_neg free, bind_apply]
  unfold onModel onPart
  match prediction (modelState runtime) with
  | (.error failure, state) => exact ⟨state, Or.inl ⟨failure, rfl⟩⟩
  | (.ok _, state) =>
      cases created with
      | error message => exact ⟨state, Or.inl ⟨.error message, rfl⟩⟩
      | ok session => exact ⟨state, Or.inr ⟨session, rfl, rfl⟩⟩

theorem on_runtime_ran {step : Method (LiveRuntime F V (Moment F V)) Value}
    {runtime : LiveRuntime F V (Moment F V)} {result : Except Failure Value}
    (ran : step adapter.runtime = (result, runtime)) :
    onRuntime step adapter = (result, { adapter with runtime := runtime }) := by
  unfold onRuntime onPart
  rw [ran]

theorem open_kept (exact : AdapterExact adapter) (opening : LiveOpening F V) :
    AdapterExact (UndoableAdapter.predictManyLiveSession opening adapter).2 := by
  unfold UndoableAdapter.predictManyLiveSession
  rw [bind_of_ok (current_apply _)]
  by_cases live : adapter.runtime.liveSession.isSome = true
  · rw [if_pos live]
    exact exact
  rw [if_neg live]
  have closed := Option.not_isSome_iff_eq_none.mp live
  obtain ⟨state, ⟨failure, failed⟩ | ⟨session, built, created⟩⟩ :=
    create_cases closed exact.settled.idle (createLiveSession opening.settings opening.seeds
      opening.targetTimestampSeconds opening.targetDayOffset opening.predict) opening.prediction
  · rw [bind_of_error (on_runtime_ran failed)]
    exact exact_put exact state
  · rw [bind_of_ok (on_runtime_ran created)]
    cases facade : opening.facade with
    | error message => exact ⟨settled_closed closed rfl exact.settled.sized, exact.aligned⟩
    | ok _ =>
        let pending : Adapter F V := { adapter with
          runtime := { putModel state adapter.runtime with pendingLiveSession := some session } }
        have finalized : onRuntime finalizeLivePredictionSession pending = _ :=
          on_runtime_ran (finalize_pending closed rfl)
        rw [bind_of_ok (restoring_of_ok (by rw [bind_of_ok (lift_ok _ _), finalized]))]
        refine ⟨⟨Nat.zero_le _, rfl, ?_⟩, rfl⟩
        intro opened same
        cases same
        exact session_stack_empty (create_session_exact built)

end Calls

section Runs

variable {network : ReviewNetwork F V Logits Rows} {adapter : Adapter F V}

theorem call_exact (exact : AdapterExact adapter) {call : PublicCall F V}
    (sound : Sound adapter call) :
    AdapterExact (call.perform network adapter).2 ∧
      (call.Undoable → ∀ message reached,
        call.perform network adapter = (.error (.error message), reached) →
          Restored adapter reached) := by
  cases call with
  | undoableProcess faults checks review returnCurves numThreads =>
      have kept := call_without_result
        (undoable_process_call network exact sound checks review returnCurves numThreads)
      exact ⟨kept.exact, fun _ => kept.restored⟩
  | liveProcessAnswer faults checks review requeueAfterPrediction returnCurves numThreads =>
      have kept := call_without_result (live_process_call network exact sound checks review
        requeueAfterPrediction returnCurves numThreads)
      exact ⟨kept.exact, fun _ => kept.restored⟩
  | undoLastProcess =>
      refine ⟨?_, fun undoable => undoable.elim⟩
      rw [PublicCall.perform, drop_result_state]
      exact undo_last_kept exact
  | liveUndoLastProcess =>
      refine ⟨?_, fun undoable => undoable.elim⟩
      rw [PublicCall.perform, drop_result_state]
      exact live_undo_kept exact
  | liveEdit edit prediction =>
      exact ⟨live_edit_kept exact edit prediction, fun undoable => undoable.elim⟩
  | replaceCandidates seeds predict prediction =>
      exact ⟨replace_kept exact seeds predict prediction, fun undoable => undoable.elim⟩
  | predictManyLiveSession opening =>
      exact ⟨open_kept exact opening, fun undoable => undoable.elim⟩
  | closeLiveSession => exact ⟨close_kept exact, fun undoable => undoable.elim⟩
  | clearing operation checks nativeChecks body =>
      exact ⟨clearing_kept exact operation checks nativeChecks body, fun undoable => undoable.elim⟩
  | reading body => exact ⟨reading_kept exact body, fun undoable => undoable.elim⟩

theorem sound_run_exact (run : SoundRun network adapter) : AdapterExact adapter := by
  induction run with
  | start closed idle fresh freshMetadata =>
      refine ⟨settled_closed closed idle ?_, ?_⟩
      · rw [fresh]
        exact Nat.zero_le _
      · rw [fresh, freshMetadata]
        rfl
  | step run call sound ih => exact (call_exact ih sound).1

/-- After every sound run the metadata stack and the native stack agree entry by entry, and a sound
undoable call that fails leaves everything as it was. -/
theorem undoable_calls_all_or_nothing (run : SoundRun network adapter) :
    adapter.undoMetadataStack = adapter.runtime.undoStack.map (·.note.metadata) ∧
      ∀ call : PublicCall F V, call.Undoable → Sound adapter call → ∀ message reached,
        call.perform network adapter = (.error (.error message), reached) →
          Restored adapter reached :=
  ⟨(sound_run_exact run).aligned, fun _ undoable sound =>
    (call_exact (sound_run_exact run) sound).2 undoable⟩

end Runs

/-! With a limit of one, the frame of a second review takes the place of the first. Neither layer
sees a deeper stack, so a failed conversion of its result leaves the review in the model. -/

section Full

open RwkvSrs.ExactNumbers RwkvSrs.DirectAgreement RwkvSrs.DirectPaths RwkvSrs.NativeCalls

def adapterReview : AdapterReview Exact := ⟨.ok oneReview, .ok, .int 1⟩

def failedConversion : Faults
  | .conversion => some "MemoryError"
  | _ => none

theorem conversion_fails : failedConversion .conversion = some "MemoryError" := rfl

/-- An adapter whose checkpoint had no fingerprint. -/
def newAdapter (undoLimit : UInt64) : Adapter Exact Exact :=
  ⟨⟨encodedState, newRnn, [], undoLimit, none, none, none⟩, ⟨none, 0, .none⟩, []⟩

def reviewCall (faults : Faults) : PublicCall Exact Exact :=
  .undoableProcess faults (.ok ()) adapterReview false none

/-- One review has been processed. -/
def reviewed (undoLimit : UInt64) : Adapter Exact Exact :=
  ((reviewCall fun _ => none).perform quietNetwork (newAdapter undoLimit)).2

structure Ready (adapter : Adapter Exact Exact) : Prop where
  closed : adapter.runtime.liveSession = none ∧ adapter.runtime.pendingLiveSession = none
  enabled : adapter.runtime.undoLimit ≠ 0
  untracked : adapter.metadata.historyDigest = none
  materialized : Materialized adapter.runtime.rnn
  stored : Stored adapter.runtime.deterministic (normalizedReviewIds oneReview) idSubmodules

/-- The native call of `undoable_process` for the review. -/
def nativeReview (adapter : Adapter Exact Exact) :
    Method (LiveRuntime Exact Exact (Moment Exact Exact)) (Exact × Option (Unit × Unit)) :=
  undoableProcessReview quietNetwork (moment adapter) (.ok oneReview) false none

variable {adapter : Adapter Exact Exact}

theorem ready_review_pushes (ready : Ready adapter) :
    ∃ output model after, nativeReview adapter adapter.runtime = (.ok output,
        { putModel after adapter.runtime with
          undoStack := pushed adapter.runtime.undoLimit ⟨model, none, moment adapter⟩
            adapter.runtime.undoStack }) ∧
      Materialized after.2 ∧ Stored after.1 (normalizedReviewIds oneReview) idSubmodules := by
  obtain ⟨step, features, prepass, predictFeatures, processFeatures, sameEncodings⟩ :=
    stored_review_prepared ready.stored
  have threads : (none : Option Nat) ≠ some 0 := by simp
  have materialized : Materialized (modelState adapter.runtime).2 := ready.materialized
  obtain ⟨output, model, after, ran, sameFeatures⟩ := undoable_of_prepass quiet_network_accepts
    threads materialized prepass predictFeatures processFeatures
  obtain ⟨begun, begins, covers, _⟩ := undoable_input_ok ran
  refine ⟨output, model, after,
    undoable_process_succeeds ready.closed threads ready.enabled ran, ?_, ?_⟩
  · exact covers.within.states.flat covers.materialized
  · intro submodule member
    rw [sameFeatures, sameEncodings]
    exact ready.stored submodule member

theorem review_call_layered (ready : Ready adapter) (faults : Faults) :
    (reviewCall faults).perform quietNetwork adapter =
      dropResult (layered (dropResult UndoableProcess.undoLastProcess) (nativeReview adapter) faults
        adapterReview none adapter.metadata) adapter := by
  rw [reviewCall, PublicCall.perform]
  unfold dropResult
  rw [bind_apply, bind_apply, undoable_process_layered quietNetwork faults ready.closed.1
    ready.enabled ready.untracked]
  rfl

theorem new_adapter_ready {undoLimit : UInt64} (enabled : undoLimit ≠ 0) :
    Ready (newAdapter undoLimit) :=
  ⟨⟨rfl, rfl⟩, enabled, rfl, ⟨fun _ => rfl, rfl⟩, first_review_stored⟩

theorem reviewed_pushes {undoLimit : UInt64} (enabled : undoLimit ≠ 0) :
    ∃ model after, reviewed undoLimit =
        ⟨{ putModel after (newAdapter undoLimit).runtime with
          undoStack := [⟨model, none, moment (newAdapter undoLimit)⟩] },
          ⟨none, 0, .int 1⟩, [⟨none, 0, .none⟩]⟩ ∧ Ready (reviewed undoLimit) := by
  have positive : 0 < undoLimit.toNat := by
    rw [Nat.pos_iff_ne_zero]
    intro zero
    exact enabled (UInt64.toNat_inj.mp zero)
  obtain ⟨output, model, after, ran, materialized, stored⟩ :=
    ready_review_pushes (new_adapter_ready enabled)
  have stacked : pushed (newAdapter undoLimit).runtime.undoLimit
      (⟨model, none, moment (newAdapter undoLimit)⟩ :
        RuntimeUndoFrame Exact Exact (LiveIndexUndoFrame Exact) _)
      (newAdapter undoLimit).runtime.undoStack = [_] := pushed_below _ positive
  have kept : trimmed undoLimit [⟨none, 0, .none⟩] = [⟨none, 0, .none⟩] := by
    unfold trimmed
    rw [if_neg]
    rw [List.length_singleton]
    omega
  have quiet : layered (dropResult UndoableProcess.undoLastProcess)
      (nativeReview (newAdapter undoLimit)) (fun _ => none) adapterReview none
      (newAdapter undoLimit).metadata (newAdapter undoLimit) = _ :=
    layered_quiet ran (fun _ => rfl) adapterReview none (newAdapter undoLimit).metadata
  have same : reviewed undoLimit = ⟨{ putModel after (newAdapter undoLimit).runtime with
      undoStack := [⟨model, none, moment (newAdapter undoLimit)⟩] },
      ⟨none, 0, .int 1⟩, [⟨none, 0, .none⟩]⟩ := by
    rw [reviewed, review_call_layered (new_adapter_ready enabled), drop_result quiet, stacked]
    rw [Adapter.mk.injEq]
    exact ⟨rfl, rfl, kept⟩
  refine ⟨model, after, same, ?_⟩
  rw [same]
  exact ⟨⟨rfl, rfl⟩, enabled, rfl, materialized, stored⟩

theorem reviewed_sound {undoLimit : UInt64} : SoundRun quietNetwork (reviewed undoLimit) := by
  apply SoundRun.step (SoundRun.start rfl rfl rfl rfl)
  intro point raised
  cases raised

theorem failed_conversion_raised (ready : Ready adapter) :
    ∃ reached, (reviewCall failedConversion).perform quietNetwork adapter =
      (.error (.error "MemoryError"), reached) := by
  obtain ⟨output, model, after, ran, _⟩ := ready_review_pushes ready
  obtain ⟨reached, raised⟩ := layered_raises ran conversion_fails adapterReview none adapter.metadata
  rw [review_call_layered ready]
  exact ⟨reached, bind_of_error raised⟩

theorem second_review_restored :
    ∃ reached, (reviewCall failedConversion).perform quietNetwork (reviewed 2) =
      (.error (.error "MemoryError"), reached) ∧ Restored (reviewed 2) reached := by
  obtain ⟨model, after, pushed, ready⟩ := reviewed_pushes (by decide : (2 : UInt64) ≠ 0)
  obtain ⟨reached, failed⟩ := failed_conversion_raised ready
  refine ⟨reached, failed, (undoable_calls_all_or_nothing reviewed_sound).2
    (reviewCall failedConversion) trivial ?_ "MemoryError" reached failed⟩
  intro point raised
  rw [pushed]
  cases point with
  | conversion =>
      refine ⟨Or.inl rfl, ?_⟩
      change 1 < (2 : UInt64).toNat
      decide
  | reviewId => cases raised
  | reviewIdAssigned => cases raised
  | digestAssigned => cases raised
  | countAssigned => cases raised
  | appended => cases raised

theorem full_stack_unrestored (ready : Ready adapter) (limited : adapter.runtime.undoLimit = 1)
    {first : RuntimeUndoFrame Exact Exact (LiveIndexUndoFrame Exact) (Moment Exact Exact)}
    (single : adapter.runtime.undoStack = [first])
    (aligned : adapter.undoMetadataStack = [first.note.metadata])
    (changed : first.note.metadata ≠ adapter.metadata) :
    ∃ reached, (reviewCall failedConversion).perform quietNetwork adapter =
        (.error (.error "MemoryError"), reached) ∧ ¬Restored adapter reached ∧
      reached.undoMetadataStack ≠ reached.runtime.undoStack.map (·.note.metadata) := by
  obtain ⟨output, model, after, ran, _⟩ := ready_review_pushes ready
  have full : pushed adapter.runtime.undoLimit
      (⟨model, none, moment adapter⟩ :
        RuntimeUndoFrame Exact Exact (LiveIndexUndoFrame Exact) _) adapter.runtime.undoStack =
          [⟨model, none, moment adapter⟩] := by
    rw [limited, single]
    rfl
  rw [full] at ran
  have level : ([⟨model, none, moment adapter⟩] :
      List (RuntimeUndoFrame Exact Exact (LiveIndexUndoFrame Exact) _)).length ≤
        adapter.runtime.undoStack.length := by
    rw [single]
    rfl
  have kept : layered (dropResult UndoableProcess.undoLastProcess) (nativeReview adapter)
      failedConversion adapterReview none adapter.metadata adapter = _ :=
    layered_full ran conversion_fails level adapterReview none adapter.metadata
  rw [review_call_layered ready]
  refine ⟨_, bind_of_error kept, ?_, ?_⟩
  · intro restored
    have same := restored.undoStack
    change [_] = adapter.runtime.undoStack at same
    rw [single, List.singleton_inj] at same
    apply changed
    rw [← same]
    rfl
  · change adapter.undoMetadataStack ≠ [adapter.metadata]
    rw [aligned]
    intro same
    exact changed (List.singleton_inj.mp same)

/-- The failed review stays in the model and takes the place of the first in the native stack, while
the metadata stack still remembers the metadata from before the first. -/
theorem full_stack_keeps_failed_review :
    ∃ reached, SoundRun quietNetwork (reviewed 1) ∧
      (reviewCall failedConversion).perform quietNetwork (reviewed 1) =
        (.error (.error "MemoryError"), reached) ∧
      ¬Restored (reviewed 1) reached ∧
      reached.undoMetadataStack ≠ reached.runtime.undoStack.map (·.note.metadata) := by
  obtain ⟨model, after, pushed, ready⟩ := reviewed_pushes (by decide : (1 : UInt64) ≠ 0)
  have changed : (⟨none, 0, .none⟩ : HistoryMetadata) ≠ (reviewed 1).metadata := by
    rw [pushed]
    simp
  have single : (reviewed 1).runtime.undoStack = [⟨model, none, moment (newAdapter 1)⟩] := by
    rw [pushed]
  obtain ⟨reached, failed, unrestored, misaligned⟩ := full_stack_unrestored ready (by rw [pushed]; rfl)
    single (by rw [pushed]; rfl) changed
  exact ⟨reached, reviewed_sound, failed, unrestored, misaligned⟩

end Full

end RwkvSrs.AdapterRuns
