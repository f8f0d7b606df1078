import RwkvSrs.LiveUndoRuns
import RwkvSrs.UndoStack

/-!
Answers of a live session on the runtime. An answer is an undoable review whose
frame also carries the live part, and its undo restores both halves. The live
parts of the frames then form an exact stack of their own.
-/

namespace RwkvSrs.LiveAnswers

open Std RwkvSrs.FallibleMethod RwkvSrs.FeatureScaling RwkvSrs.ReviewInput
open RwkvSrs.DeterministicState RwkvSrs.ModuleState RwkvSrs.NativeRnnState RwkvSrs.BatchJournal
open RwkvSrs.ReviewProcessing RwkvSrs.BatchAtomicity RwkvSrs.PredictionPurity
open RwkvSrs.UndoableProcess RwkvSrs.UndoStack
open RwkvSrs.LiveTypes RwkvSrs.LiveSessionState RwkvSrs.LiveSessionIndex
open RwkvSrs.LiveSessionOperations RwkvSrs.LiveSessionInvariant RwkvSrs.LiveSessionStaging
open RwkvSrs.LiveSessionSlots RwkvSrs.LiveUndoFrame RwkvSrs.LiveUndoExact RwkvSrs.LiveUndoEdits
open RwkvSrs.RuntimeRestore (NativeRuntime)

set_option autoImplicit false
set_option linter.unusedSectionVars false

variable {F V Logits Rows Note : Type} [Float64Ops F] [Float32Ops V] [FeatureFloat F V]
  [SessionFloat F] [DecidableEq F]

abbrev LiveRuntime (F V Note : Type) :=
  Runtime F V (LiveIndexUndoFrame F) Note (LivePredictionSessionState F)

def liveSessionRef (token : UInt64) :
    Method (LiveRuntime F V Note) (LivePredictionSessionState F) := do
  let runtime ← current
  if runtime.pendingLiveSession.any (·.token = token) then
    fail (.error "live prediction session construction is not finalized")
  else
    match runtime.liveSession with
    | none => fail (.error "live prediction session is closed")
    | some state =>
        if state.token ≠ token then fail (.error "live prediction session token is stale")
        else return state

def setLiveSession (session : LivePredictionSessionState F) : Method (LiveRuntime F V Note) Unit :=
  update fun runtime => { runtime with liveSession := some session }

/-- The review is parsed and checked against the loaded scope. -/
def liveProcessAnswer (network : ReviewNetwork F V Logits Rows) (note : Note) (token : UInt64)
    (review : Except String (ReviewInput F)) (requeueAfterPrediction : Bool)
    (numThreads : Option Nat) (returnCurves : Bool) :
    Method (LiveRuntime F V Note) ((F × Option (Rows × Rows)) × UInt64) := do
  if (← current).undoLimit = 0 then
    fail (.error "live process_answer is disabled by undo_limit=0")
  else
    let input ← lift review
    let session ← liveSessionRef token
    let slot ← lift (session.candidateSlot input.cardId)
    lift (validateAnswerUpdate session slot input)
    let (output, model) ← onModel (undoableProcessInputWithState network input returnCurves numThreads)
    let answered := applyAnswer session slot input requeueAfterPrediction
    setLiveSession answered
    pushFrame ⟨model, some (beginAnswerUndo session slot), note⟩
    return (output, answered.generation)

def liveUndoLastProcess (token : UInt64) : Method (LiveRuntime F V Note) (Nat × UInt64) := do
  let session ← liveSessionRef token
  match (← current).undoStack with
  | [] => fail (.error "no live-session process is available to undo")
  | frame :: rest =>
      match frame.live with
      | none => fail (.error "no live-session process is available to undo")
      | some live =>
          if live.sessionToken ≠ token then
            fail (.error "latest undo frame does not belong to this live prediction session")
          else
            update fun runtime =>
              { putModel (frame.model.restore (modelState runtime)) runtime with undoStack := rest }
            let restored ← lift (restoreUndo session live)
            setLiveSession restored
            return (rest.length, restored.generation)

/-- The live part of the latest frame, if it belongs to this session. -/
def latestLive (token : UInt64) (stack : List (RuntimeUndoFrame F V (LiveIndexUndoFrame F) Note)) :
    Option (LiveIndexUndoFrame F) :=
  (stack.head?.bind (·.live)).filter (·.sessionToken = token)

def putLive (undo : Option (LiveIndexUndoFrame F))
    (stack : List (RuntimeUndoFrame F V (LiveIndexUndoFrame F) Note)) :
    List (RuntimeUndoFrame F V (LiveIndexUndoFrame F) Note) :=
  match undo, stack with
  | some live, frame :: rest => { frame with live := some live } :: rest
  | _, stack => stack

/-- The calls on the session alone; `prediction` is what its predictions do to the model. -/
def liveEdit (token : UInt64) (edit : LiveEdit F) (prediction : Method (ModelState F V) Unit) :
    Method (LiveRuntime F V Note) Unit := do
  let session ← liveSessionRef token
  onModel prediction
  update fun runtime =>
    let (edited, undo) := applyEdit edit (session, latestLive token runtime.undoStack)
    { runtime with liveSession := some edited, undoStack := putLive undo runtime.undoStack }

def liveReplaceCandidates (token : UInt64) (seeds : List (LiveCandidateSeed F))
    (predict : Predictor F) (prediction : Method (ModelState F V) Unit) :
    Method (LiveRuntime F V Note) Unit := do
  let session ← liveSessionRef token
  onModel prediction
  let replaced ← lift (replaceLiveSessionCandidates session seeds predict)
  update fun runtime => { runtime with liveSession := some replaced, undoStack := [] }

def createLivePredictionSession (created : Except String (LivePredictionSessionState F))
    (prediction : Method (ModelState F V) Unit) : Method (LiveRuntime F V Note) Unit := do
  let runtime ← current
  if runtime.liveSession.isSome || runtime.pendingLiveSession.isSome then
    fail (.error "only one live prediction session may be active per runtime")
  else
    onModel prediction
    let state ← lift created
    update fun runtime => { runtime with pendingLiveSession := some state }

def finalizeLivePredictionSession : Method (LiveRuntime F V Note) Unit := do
  let runtime ← current
  if runtime.liveSession.isSome then
    fail (.error "only one live prediction session may be active per runtime")
  else
    match runtime.pendingLiveSession with
    | none => fail (.error "live prediction session construction is not pending")
    | some state =>
        update fun runtime =>
          { runtime with pendingLiveSession := none, undoStack := [], liveSession := some state }

def abortLivePredictionSession : Method (LiveRuntime F V Note) Unit :=
  update fun runtime => { runtime with pendingLiveSession := none }

def closeLivePredictionSession (token : UInt64) : Method (LiveRuntime F V Note) Unit := do
  let _ ← liveSessionRef token
  update fun runtime => { runtime with liveSession := none, undoStack := [] }

section Answer

variable {network : ReviewNetwork F V Logits Rows} {note : Note} {token : UInt64}
  {review : Except String (ReviewInput F)} {requeueAfterPrediction returnCurves : Bool}
  {numThreads : Option Nat} {runtime reached : LiveRuntime F V Note}

theorem live_session_ref_cases (token : UInt64) (runtime : LiveRuntime F V Note) :
    (∃ message, liveSessionRef token runtime = (.error (.error message), runtime)) ∨
      ∃ session, runtime.liveSession = some session ∧ session.token = token ∧
        liveSessionRef token runtime = (.ok session, runtime) := by
  unfold liveSessionRef
  rw [bind_of_ok (current_apply _)]
  by_cases pending : runtime.pendingLiveSession.any (·.token = token) = true
  · rw [if_pos pending]
    exact Or.inl ⟨_, rfl⟩
  · rw [if_neg pending]
    cases live : runtime.liveSession with
    | none => exact Or.inl ⟨_, rfl⟩
    | some session =>
        by_cases current : session.token = token
        · exact Or.inr ⟨session, rfl, current, by simp [current]⟩
        · exact Or.inl ⟨"live prediction session token is stale", by simp [current]⟩

theorem live_session_ref_ok {session : LivePredictionSessionState F}
    (ran : liveSessionRef token runtime = (.ok session, reached)) :
    runtime.liveSession = some session ∧ session.token = token := by
  rcases live_session_ref_cases token runtime with ⟨message, refused⟩ | ⟨found, live, current, opened⟩
  · rw [refused] at ran
    cases ran
  · rw [opened] at ran
    cases ran
    exact ⟨live, current⟩

theorem reads_live_session_ref :
    ReadsOnly (liveSessionRef token :
      Method (LiveRuntime F V Note) (LivePredictionSessionState F)) := by
  intro runtime _
  rcases live_session_ref_cases token runtime with ⟨message, refused⟩ | ⟨found, _, _, opened⟩
  · rw [refused]
  · rw [opened]

theorem live_session_ref_open {session : LivePredictionSessionState F}
    (idle : runtime.pendingLiveSession = none) (live : runtime.liveSession = some session) :
    liveSessionRef session.token runtime = (.ok session, runtime) := by
  unfold liveSessionRef
  rw [bind_of_ok (current_apply _)]
  simp [idle, live]

/-- What a finished answer leaves behind. -/
structure Answered (token : UInt64) (note : Note) (before after : LiveRuntime F V Note) where
  session : LivePredictionSessionState F
  input : ReviewInput F
  requeueAfterPrediction : Bool
  slot : Nat
  model : ReviewUndo.UndoFrame F V
  begun : ModelState F V
  processed : ModelState F V
  live : before.liveSession = some session
  token : session.token = token
  found : session.candidateSlot input.cardId = .ok slot
  begins : Begins (modelState before) begun
  covers : UndoableProcess.FrameCovers begun model processed
  after : after = { putModel processed before with
    liveSession := some (applyAnswer session slot input requeueAfterPrediction)
    undoStack :=
      pushed before.undoLimit ⟨model, some (beginAnswerUndo session slot), note⟩ before.undoStack }

theorem live_answer_ok {output : (F × Option (Rows × Rows)) × UInt64}
    (ran : liveProcessAnswer network note token review requeueAfterPrediction numThreads returnCurves
      runtime = (.ok output, reached)) : Nonempty (Answered token note runtime reached) := by
  unfold liveProcessAnswer at ran
  rw [bind_of_ok (current_apply _)] at ran
  split at ran
  · cases ran
  · obtain ⟨input, _, ran⟩ := ok_after_read (reads_only_lift _) ran
    obtain ⟨session, referenced, ran⟩ := ok_after_read reads_live_session_ref ran
    obtain ⟨slot, found, ran⟩ := ok_after_read (reads_only_lift _) ran
    obtain ⟨_, _, ran⟩ := ok_after_read (reads_only_lift _) ran
    obtain ⟨⟨value, model⟩, middle, processed, ran⟩ := bind_ok_steps ran
    cases ran
    obtain ⟨live, current⟩ := live_session_ref_ok referenced
    unfold onModel onPart at processed
    match step : undoableProcessInputWithState network input returnCurves numThreads
        (modelState runtime) with
    | (result, after) =>
        rw [step] at processed
        cases processed
        obtain ⟨begun, begins, covers, _⟩ := undoable_input_ok step
        exact ⟨⟨session, input, requeueAfterPrediction, slot, model, begun, after, live, current,
          (lift_ok_value found).1, begins, covers, rfl⟩⟩

theorem live_answer_error {message : String}
    (ran : liveProcessAnswer network note token review requeueAfterPrediction numThreads returnCurves
      runtime = (.error (.error message), reached)) :
    ∃ after, Unchanged (modelState runtime) after ∧ reached = putModel after runtime := by
  have same : reached = runtime →
      ∃ after, Unchanged (modelState runtime) after ∧ reached = putModel after runtime := by
    intro unchanged
    exact ⟨modelState runtime, unchanged_refl _, unchanged⟩
  unfold liveProcessAnswer at ran
  rw [bind_of_ok (current_apply _)] at ran
  split at ran
  · cases ran
    exact same rfl
  · rcases error_after_read (reads_only_lift _) ran with unchanged | ⟨input, _, ran⟩
    · exact same unchanged
    rcases error_after_read reads_live_session_ref ran with unchanged | ⟨session, _, ran⟩
    · exact same unchanged
    rcases error_after_read (reads_only_lift _) ran with unchanged | ⟨slot, _, ran⟩
    · exact same unchanged
    rcases error_after_read (reads_only_lift _) ran with unchanged | ⟨_, _, ran⟩
    · exact same unchanged
    rw [bind_apply] at ran
    unfold onModel onPart at ran
    match step : undoableProcessInputWithState network input returnCurves numThreads
        (modelState runtime) with
    | (.ok (value, model), after) =>
        rw [step] at ran
        cases ran
    | (.error failure, after) =>
        rw [step] at ran
        cases ran
        exact ⟨after, undoable_input_atomic _ _ _ step, rfl⟩

/-- An undo that finds its own frame restores both halves of it. -/
theorem live_undo_of_frame {session restored : LivePredictionSessionState F}
    {frame : RuntimeUndoFrame F V (LiveIndexUndoFrame F) Note} {live : LiveIndexUndoFrame F}
    {rest : List (RuntimeUndoFrame F V (LiveIndexUndoFrame F) Note)}
    (idle : runtime.pendingLiveSession = none) (opened : runtime.liveSession = some session)
    (stacked : runtime.undoStack = frame :: rest) (own : frame.live = some live)
    (current : live.sessionToken = session.token) (undo : restoreUndo session live = .ok restored) :
    liveUndoLastProcess session.token runtime = (.ok (rest.length, restored.generation),
      { putModel (frame.model.restore (modelState runtime)) runtime with
        undoStack := rest, liveSession := some restored }) := by
  unfold liveUndoLastProcess
  rw [bind_of_ok (live_session_ref_open idle opened), bind_of_ok (current_apply _), stacked]
  simp only [own]
  rw [if_neg (by simp [current]), bind_of_ok (update_apply _ _), undo, bind_of_ok (lift_ok _ _)]
  rfl

end Answer

/-- Every frame carries a live part, and the live parts are exact for the session. Nothing is said
of the cached flags: an answer that is undone at once restores whatever flag it saved. -/
def SessionStackExact (session : LivePredictionSessionState F)
    (stack : List (RuntimeUndoFrame F V (LiveIndexUndoFrame F) Note)) : Prop :=
  SessionExact False session ∧ ∃ frames : List (LiveIndexUndoFrame F),
    stack.map (·.live) = frames.map some ∧ LiveUndoRuns.StackExact False session frames

variable {session : LivePredictionSessionState F}
  {stack : List (RuntimeUndoFrame F V (LiveIndexUndoFrame F) Note)}

theorem session_stack_empty (exact : SessionExact False session) :
    SessionStackExact session ([] : List (RuntimeUndoFrame F V (LiveIndexUndoFrame F) Note)) :=
  ⟨exact, [], rfl, trivial⟩

theorem session_stack_answered (exact : SessionStackExact session stack) {cardId : Int64}
    {slot : Nat} (found : session.candidateSlot cardId = .ok slot) (input : ReviewInput F)
    (requeueAfterPrediction : Bool) {frame : RuntimeUndoFrame F V (LiveIndexUndoFrame F) Note}
    (live : frame.live = some (beginAnswerUndo session slot)) :
    SessionStackExact (applyAnswer session slot input requeueAfterPrediction) (frame :: stack) := by
  obtain ⟨sessionExact, frames, same, framesExact⟩ := exact
  obtain ⟨liveSlot, _⟩ := candidate_slot_live sessionExact.mapped found
  refine ⟨apply_answer_exact sessionExact liveSlot input requeueAfterPrediction,
    beginAnswerUndo session slot :: frames, by rw [List.map_cons, live, same]; rfl, ?_⟩
  exact ⟨session, sessionExact,
    LiveUndoRuns.answered_frame_exact sessionExact liveSlot input requeueAfterPrediction, framesExact⟩

theorem session_stack_dropped (exact : SessionStackExact session stack) :
    SessionStackExact session stack.dropLast := by
  obtain ⟨sessionExact, frames, same, framesExact⟩ := exact
  refine ⟨sessionExact, frames.dropLast, ?_, LiveUndoRuns.stack_exact_dropped framesExact⟩
  rw [List.map_dropLast, List.map_dropLast, same]

theorem session_stack_limited (undoLimit : UInt64)
    {frame : RuntimeUndoFrame F V (LiveIndexUndoFrame F) Note}
    (exact : SessionStackExact session (frame :: stack)) :
    SessionStackExact session (pushed undoLimit frame stack) := by
  unfold pushed
  split
  · exact session_stack_dropped exact
  · exact exact

/-- Undoing the latest frame never fails, and the rest of the stack is exact for the restored
session. -/
theorem session_stack_undone {frame : RuntimeUndoFrame F V (LiveIndexUndoFrame F) Note}
    (exact : SessionStackExact session (frame :: stack)) {live : LiveIndexUndoFrame F}
    (own : frame.live = some live) :
    live.sessionToken = session.token ∧
      restoreUndo session live = .ok (finishedUndo session live) ∧
      SessionStackExact (finishedUndo session live) stack := by
  obtain ⟨sessionExact, frames, same, framesExact⟩ := exact
  cases frames with
  | nil => cases same
  | cons top frames =>
      rw [List.map_cons, List.map_cons, List.cons.injEq, own, Option.some.injEq] at same
      obtain ⟨sameTop, sameRest⟩ := same
      subst sameTop
      obtain ⟨captured, capturedExact, frameExact, restExact⟩ := framesExact
      have undo := (finished_undo_spec capturedExact frameExact).1
      have sameToken := frameExact.frameToken.trans frameExact.token.symm
      refine ⟨sameToken, restore_undo_finishes sameToken, ⟨undo.slots, undo.ordered, False.elim⟩,
        frames, sameRest, ?_⟩
      exact LiveUndoRuns.stack_exact_undone restExact capturedExact undo False.elim

theorem answered_others (exact : SessionExact False session) {slot : Nat}
    (inRange : slot < session.candidateCount) (input : ReviewInput F)
    (requeueAfterPrediction : Bool) :
    (applyAnswer session slot input requeueAfterPrediction).retentionExtra =
        session.retentionExtra ∧
      ∀ other, other ≠ slot →
        (applyAnswer session slot input requeueAfterPrediction).value other =
          session.value other := by
  have written := index_apply_answer exact.sized inRange input requeueAfterPrediction
  cases requeueAfterPrediction with
  | false =>
      refine ⟨congrArg LiveIndex.retentionExtra written, ?_⟩
      intro other different
      exact (congrFun (congrArg LiveIndex.value written) other).trans
        (Function.update_of_ne different _ _)
  | true =>
      refine ⟨congrArg LiveIndex.retentionExtra written, ?_⟩
      intro other different
      exact (congrFun (congrArg LiveIndex.value written) other).trans
        (Function.update_of_ne different _ _)

/-- The frame of the answer alone holds the value of the answered slot and no other. -/
theorem answer_undone (exact : SessionStackExact session stack) {cardId : Int64} {slot : Nat}
    (found : session.candidateSlot cardId = .ok slot) (input : ReviewInput F)
    (requeueAfterPrediction : Bool) :
    SameLogicalContent session
      (finishedUndo (applyAnswer session slot input requeueAfterPrediction)
        (beginAnswerUndo session slot)) := by
  obtain ⟨sessionExact, _⟩ := exact
  obtain ⟨live, _⟩ := candidate_slot_live sessionExact.mapped found
  have inRange := exact_live_range sessionExact.toSlotsExact live
  have frameExact := LiveUndoRuns.answered_frame_exact sessionExact live input
    requeueAfterPrediction
  obtain ⟨sameExtra, others⟩ := answered_others sessionExact inRange input requeueAfterPrediction
  obtain ⟨undo, values⟩ := finished_undo_spec sessionExact frameExact
  have spec := restored_slots_spec sessionExact frameExact
  have kept : (deltaBase (applyAnswer session slot input requeueAfterPrediction)
      (beginAnswerUndo session slot)).retentionExtra = session.retentionExtra := sameExtra
  rw [show (beginAnswerUndo session slot).previousRetentionExtra = session.retentionExtra from rfl,
    if_pos kept] at values
  apply same_content_of_values sessionExact undo
  intro other _
  rw [values]
  by_cases same : other = slot
  · subst same
    exact spec.full _ _ (List.mem_singleton_self _)
  · have unrecorded : (beginAnswerUndo session slot).recordedSlot other = .unrecorded := by
      rw [LiveUndoRuns.captured_marks sessionExact live]
      exact if_neg same
    rw [spec.unrecorded other unrecorded]
    exact others other same

theorem session_stack_edited (exact : SessionStackExact session stack) (edit : LiveEdit F) :
    SessionStackExact (applyEdit edit (session, latestLive session.token stack)).1
      (putLive (applyEdit edit (session, latestLive session.token stack)).2 stack) := by
  obtain ⟨sessionExact, frames, same, framesExact⟩ := exact
  cases stack with
  | nil =>
      have kept := edit_keeps sessionExact sessionExact edit none
      refine ⟨kept.edited.exact, [], ?_, trivial⟩
      change (putLive (applyEdit edit (session, none)).2 _).map _ = _
      rw [kept.unrecorded rfl]
      rfl
  | cons frame rest =>
      cases frames with
      | nil => cases same
      | cons top frames =>
          rw [List.map_cons, List.map_cons, List.cons.injEq] at same
          obtain ⟨captured, capturedExact, frameExact, restExact⟩ := framesExact
          have sameToken := frameExact.frameToken.trans frameExact.token.symm
          have latest : latestLive session.token (frame :: rest) = some top := by
            unfold latestLive
            rw [List.head?_cons, Option.bind_some, same.1]
            simp [sameToken]
          rw [latest]
          have kept := edit_keeps capturedExact sessionExact edit (some top)
          obtain ⟨next, recorded, nextExact⟩ := kept.recorded top rfl frameExact
          rw [recorded]
          refine ⟨kept.edited.exact, next :: frames, ?_, captured, capturedExact, nextExact, restExact⟩
          change some next :: rest.map _ = _
          rw [same.2]
          rfl

end RwkvSrs.LiveAnswers
