import RwkvSrs.LiveUndoMarks

/-!
Runs of a live session with its undo stack. Every frame of the stack covers
the session that the frame above it was captured in, so undoing the frames one
after the other walks back through the captured sessions. Beside the stack a run
keeps the marks of its answers, and they decide which undos are exact.
-/

namespace RwkvSrs.LiveUndoRuns

open Std RwkvSrs.LiveTypes RwkvSrs.LiveSessionState RwkvSrs.LiveSessionIndex
open RwkvSrs.LiveSessionSlots RwkvSrs.LiveSessionOperations RwkvSrs.LiveSessionInvariant
open RwkvSrs.LiveSessionStaging RwkvSrs.LiveUndoFrame RwkvSrs.LiveUndoCover
open RwkvSrs.LiveUndoExact RwkvSrs.LiveUndoEdits RwkvSrs.LiveUndoMarks SessionFloat

set_option autoImplicit false
set_option linter.unusedSectionVars false

variable {F : Type} [SessionFloat F] [DecidableEq F] {flagged : Prop}

inductive LiveCommand (F : Type) where
  | edit (edit : LiveEdit F)
  | processAnswer (input : ReviewInput F) (requeueAfterPrediction : Bool)
  | replaceCandidates (seeds : List (LiveCandidateSeed F)) (predict : Predictor F)
  | undoLastProcess

/-- The live part of the runtime; the latest frame comes first. -/
structure LiveRuntime (F : Type) where
  session : LivePredictionSessionState F
  undoStack : List (LiveIndexUndoFrame F)
  undoLimit : Nat

/-- `push_back`, then `pop_front` above the limit. -/
def pushFrame {Frame : Type} (undoLimit : Nat) (frame : Frame) (stack : List Frame) :
    List Frame :=
  if undoLimit < (frame :: stack).length then (frame :: stack).dropLast else frame :: stack

/-- `live_process_answer` for a review the model accepts. -/
def processAnswer (runtime : LiveRuntime F) (input : ReviewInput F)
    (requeueAfterPrediction : Bool) : LiveRuntime F :=
  if runtime.undoLimit = 0 then runtime
  else
    match runtime.session.candidateSlot input.cardId with
    | .error _ => runtime
    | .ok slot =>
        match validateAnswerUpdate runtime.session slot input with
        | .error _ => runtime
        | .ok () =>
            { runtime with
              session := applyAnswer runtime.session slot input requeueAfterPrediction
              undoStack := pushFrame runtime.undoLimit (beginAnswerUndo runtime.session slot)
                runtime.undoStack }

/-- `live_undo_last_process`. -/
def undoLastProcess (runtime : LiveRuntime F) : LiveRuntime F :=
  match runtime.undoStack with
  | [] => runtime
  | frame :: rest =>
      match restoreUndo runtime.session frame with
      | .error _ => runtime
      | .ok session => { runtime with session := session, undoStack := rest }

def LiveRuntime.step (runtime : LiveRuntime F) : LiveCommand F → LiveRuntime F
  | .edit edit =>
      let (session, top) := applyEdit edit (runtime.session, runtime.undoStack.head?)
      { runtime with session := session, undoStack := top.toList ++ runtime.undoStack.tail }
  | .processAnswer input requeueAfterPrediction =>
      processAnswer runtime input requeueAfterPrediction
  | .replaceCandidates seeds predict =>
      match replaceLiveSessionCandidates runtime.session seeds predict with
      | .error _ => runtime
      | .ok session => { runtime with session := session, undoStack := [] }
  | .undoLastProcess => undoLastProcess runtime

def marksAnswered (runtime : LiveRuntime F) (marks : List (AnswerMark F))
    (input : ReviewInput F) : List (AnswerMark F) :=
  if runtime.undoLimit = 0 then marks
  else
    match runtime.session.candidateSlot input.cardId with
    | .error _ => marks
    | .ok slot =>
        match validateAnswerUpdate runtime.session slot input with
        | .error _ => marks
        | .ok () => pushFrame runtime.undoLimit (AnswerMark.begin runtime.session slot) marks

/-- The marks of the stacked answers after one command. -/
def marksAfter (runtime : LiveRuntime F) (marks : List (AnswerMark F)) :
    LiveCommand F → List (AnswerMark F)
  | .edit edit =>
      match marks with
      | [] => []
      | mark :: rest => mark.edit runtime.session edit :: rest
  | .processAnswer input _ => marksAnswered runtime marks input
  | .replaceCandidates seeds predict =>
      match replaceLiveSessionCandidates runtime.session seeds predict with
      | .error _ => marks
      | .ok _ => []
  | .undoLastProcess =>
      match runtime.undoStack with
      | [] => marks
      | frame :: _ =>
          match restoreUndo runtime.session frame with
          | .error _ => marks
          | .ok _ => marks.tail

/-- The command is not an undo of an answer since which a slot was first touched under a retention
extra that gives it another flag. -/
def CommandKept (runtime : LiveRuntime F) (marks : List (AnswerMark F)) : LiveCommand F → Prop
  | .undoLastProcess => ∀ mark ∈ marks.head?, mark.FlagsKept runtime.session.retentionExtra
  | _ => True

instance (runtime : LiveRuntime F) (marks : List (AnswerMark F)) (command : LiveCommand F) :
    Decidable (CommandKept runtime marks command) :=
  match command with
  | .undoLastProcess => inferInstanceAs (Decidable (∀ mark ∈ marks.head?, _))
  | .edit _ | .processAnswer _ _ | .replaceCandidates _ _ => isTrue trivial

theorem captured_marks {state : LivePredictionSessionState F} (exact : SessionExact flagged state)
    {slot : Nat} (live : (indexOf state).Live slot) :
    (beginAnswerUndo state slot).recordedSlot =
      fun other => if other = slot then .fullDelta else .unrecorded := by
  have inRange := exact_live_range exact.toSlotsExact live
  have bound : slot < (List.replicate state.candidates.length UndoSlot.unrecorded).length := by
    rw [List.length_replicate]
    exact inRange
  have unmarked : ∀ other : Nat,
      (List.replicate state.candidates.length UndoSlot.unrecorded).getD other .unrecorded =
        .unrecorded := by
    intro other
    rw [List.getD_eq_getElem?_getD, List.getElem?_replicate]
    split <;> rfl
  funext other
  change ((List.replicate state.candidates.length UndoSlot.unrecorded).set slot .fullDelta).getD
    other .unrecorded = _
  rw [getD_set bound, unmarked]

theorem captured_covers {state : LivePredictionSessionState F} (exact : SessionExact flagged state)
    {slot : Nat} (live : (indexOf state).Live slot) :
    FrameCovers (indexOf state) (beginAnswerUndo state slot) (indexOf state) ∧
      (beginAnswerUndo state slot).recordedSlot slot = .fullDelta := by
  have marks := captured_marks exact live
  refine ⟨?_, by rw [marks]; exact if_pos rfl⟩
  unfold FrameCovers
  rw [marks]
  constructor
  case counted => exact Nat.le_refl _
  case cards => exact fun _ _ => rfl
  case distinctFull => exact List.nodup_singleton _
  case distinctRefresh => exact List.nodup_nil
  case fullMarked =>
    intro other
    change other ∈ [slot] ↔ _
    by_cases same : other = slot
    · simp [same]
    · simp [same]
  case refreshMarked =>
    intro other marked
    split at marked <;> cases marked
  case refreshListed =>
    intro other member
    cases member
  case unrecordedOld => exact fun _ _ _ => rfl
  case unrecordedNew =>
    intro other _ beyond
    rw [exact.mapped.blank other beyond]
    rfl
  case refreshSaved =>
    intro other saved member
    cases member
  case fullSaved =>
    intro other value member
    rw [show (beginAnswerUndo state slot).candidateDeltas = [(slot, some (state.value slot))] from
      rfl, List.mem_singleton] at member
    cases member
    exact ⟨live, rfl⟩
  case newSaved =>
    intro other member
    rw [show (beginAnswerUndo state slot).candidateDeltas = [(slot, some (state.value slot))] from
      rfl, List.mem_singleton] at member
    cases member

theorem answered_frame_exact {state : LivePredictionSessionState F} (exact : SessionExact flagged state)
    {slot : Nat} (live : (indexOf state).Live slot) (input : ReviewInput F)
    (requeueAfterPrediction : Bool) :
    FrameExact flagged state (beginAnswerUndo state slot)
      (applyAnswer state slot input requeueAfterPrediction) := by
  have inRange := exact_live_range exact.toSlotsExact live
  have written := index_apply_answer exact.sized inRange input requeueAfterPrediction
  obtain ⟨covers, marked⟩ := captured_covers exact live
  set value := answeredValue (state.value slot) state.targetTimestampSeconds input
    requeueAfterPrediction with valueDef
  have sameRest : (indexOf (applyAnswer state slot input requeueAfterPrediction)).token =
        state.token ∧
      (indexOf (applyAnswer state slot input requeueAfterPrediction)).order = state.order ∧
      (indexOf (applyAnswer state slot input requeueAfterPrediction)).count =
        state.candidateCount ∧
      (indexOf (applyAnswer state slot input requeueAfterPrediction)).value =
        Function.update state.value slot value := by
    rw [written]
    cases requeueAfterPrediction with
    | false => exact ⟨rfl, rfl, rfl, rfl⟩
    | true => exact ⟨rfl, rfl, rfl, rfl⟩
  obtain ⟨sameToken, sameOrder, sameCount, sameValue⟩ := sameRest
  constructor
  case frameToken => rfl
  case token => exact sameToken
  case order => exact sameOrder
  case retentionExtra => rfl
  case targetTimestampSeconds => rfl
  case targetDayOffset => rfl
  case base => exact apply_answer_exact exact live input requeueAfterPrediction
  case covers =>
    exact covers_write_full covers marked (Nat.le_of_eq sameCount.symm) sameValue fun _ => rfl

/-- Each frame covers the session the frame above it was captured in. -/
def StackExact (flagged : Prop) :
    LivePredictionSessionState F → List (LiveIndexUndoFrame F) → Prop
  | _, [] => True
  | state, frame :: rest =>
      ∃ captured, SessionExact flagged captured ∧ FrameExact flagged captured frame state ∧
        StackExact flagged captured rest

/-- A session with the captured slots is as good for the frame below as the
captured session itself. -/
theorem frame_exact_undone {captured before after : LivePredictionSessionState F}
    {frame : LiveIndexUndoFrame F} (exact : FrameExact flagged captured frame before)
    (beforeExact : SessionExact flagged before) (undo : UndoFinished before after)
    (fresh : flagged → (indexOf after).Fresh) : FrameExact flagged captured frame after := by
  have edited : EditedExact flagged before after :=
    ⟨⟨undo.slots, undo.ordered, fresh⟩, undo.token, undo.order⟩
  cases saved : frame.preReconciliationState with
  | some previous => exact frame_exact_closed exact (by rw [saved]; rfl) edited
  | none =>
      have covers := covers_open exact saved
      refine frame_exact_open exact saved edited ⟨rfl, rfl, rfl, rfl, rfl⟩ ?_
      constructor
      case counted => exact Nat.le_trans covers.counted undo.counted
      case cards =>
        intro slot old
        have within : slot < before.candidateCount := Nat.lt_of_lt_of_le old covers.counted
        exact (unflagged_card (undo.old slot within)).trans (covers.cards slot old)
      case distinctFull => exact covers.distinctFull
      case distinctRefresh => exact covers.distinctRefresh
      case fullMarked => exact covers.fullMarked
      case refreshMarked => exact covers.refreshMarked
      case refreshListed => exact covers.refreshListed
      case unrecordedOld =>
        intro slot marked old
        have within : slot < before.candidateCount := Nat.lt_of_lt_of_le old covers.counted
        exact (undo.old slot within).trans (covers.unrecordedOld slot marked old)
      case unrecordedNew =>
        intro slot marked beyond
        by_cases within : slot < before.candidateCount
        · exact (unflagged_status (undo.old slot within)).trans
            (covers.unrecordedNew slot marked beyond)
        · exact undo.new slot (by omega)
      case refreshSaved =>
        intro slot delta member marked
        obtain ⟨originLive, live, same⟩ := covers.refreshSaved slot delta member marked
        have within : slot < before.candidateCount :=
          exact_live_range beforeExact.toSlotsExact live
        have sameValue := undo.old slot within
        refine ⟨originLive, ?_, ?_⟩
        · intro removed
          exact live ((unflagged_status sameValue).symm.trans removed)
        · have sameRestored := congrArg delta.restoreFullValue sameValue
          exact (congrArg unflagged sameRestored).trans same
      case fullSaved => exact covers.fullSaved
      case newSaved =>
        intro slot member
        exact ⟨(covers.newSaved slot member).1,
          Nat.lt_of_lt_of_le (covers.newSaved slot member).2 undo.counted⟩

theorem stack_exact_undone {before after : LivePredictionSessionState F}
    {stack : List (LiveIndexUndoFrame F)} (exact : StackExact flagged before stack)
    (beforeExact : SessionExact flagged before) (undo : UndoFinished before after)
    (fresh : flagged → (indexOf after).Fresh) : StackExact flagged after stack := by
  cases stack with
  | nil => trivial
  | cons frame rest =>
      obtain ⟨captured, capturedExact, frameExact, restExact⟩ := exact
      exact ⟨captured, capturedExact, frame_exact_undone frameExact beforeExact undo fresh, restExact⟩

theorem stack_exact_dropped {state : LivePredictionSessionState F}
    {stack : List (LiveIndexUndoFrame F)} (exact : StackExact flagged state stack) :
    StackExact flagged state stack.dropLast := by
  induction stack generalizing state with
  | nil => trivial
  | cons frame rest ih =>
      obtain ⟨captured, capturedExact, frameExact, restExact⟩ := exact
      cases rest with
      | nil => trivial
      | cons next rest => exact ⟨captured, capturedExact, frameExact, ih restExact⟩

/-- Each frame covers the session of its mark, and the mark tells the flags that it saved. -/
def StackMarked :
    LivePredictionSessionState F → List (LiveIndexUndoFrame F) → List (AnswerMark F) → Prop
  | _, [], [] => True
  | state, frame :: rest, mark :: marks =>
      SessionExact True mark.captured ∧ FrameExact True mark.captured frame state ∧
        MarkHolds mark frame ∧ StackMarked mark.captured rest marks
  | _, _, _ => False

structure RuntimeMarked (runtime : LiveRuntime F) (marks : List (AnswerMark F)) : Prop where
  session : SessionExact True runtime.session
  stack : StackMarked runtime.session runtime.undoStack marks

/-- Runs from a created session in which every undo is of an answer whose flags are kept. -/
inductive SoundRun : LiveRuntime F → List (AnswerMark F) → Prop where
  | created {settings : LiveSessionSettings} {seeds : List (LiveCandidateSeed F)}
      {targetTimestampSeconds targetDayOffset : F} {predict : Predictor F}
      {session : LivePredictionSessionState F}
      (built : createLiveSession settings seeds targetTimestampSeconds targetDayOffset predict =
        .ok session) (undoLimit : Nat) : SoundRun ⟨session, [], undoLimit⟩ []
  | step {runtime : LiveRuntime F} {marks : List (AnswerMark F)} (run : SoundRun runtime marks)
      (command : LiveCommand F) (kept : CommandKept runtime marks command) :
      SoundRun (runtime.step command) (marksAfter runtime marks command)

theorem stack_marked_dropped {state : LivePredictionSessionState F}
    {stack : List (LiveIndexUndoFrame F)} {marks : List (AnswerMark F)}
    (marked : StackMarked state stack marks) :
    StackMarked state stack.dropLast marks.dropLast ∧ stack.length = marks.length := by
  induction stack generalizing state marks with
  | nil =>
      cases marks with
      | nil => exact ⟨trivial, rfl⟩
      | cons mark marks => exact marked.elim
  | cons frame rest ih =>
      cases marks with
      | nil => exact marked.elim
      | cons mark marks =>
          obtain ⟨capturedExact, frameExact, holds, restMarked⟩ := marked
          obtain ⟨dropped, sameLength⟩ := ih restMarked
          refine ⟨?_, congrArg Nat.succ sameLength⟩
          cases rest with
          | nil =>
              cases marks with
              | nil => trivial
              | cons next marks => cases sameLength
          | cons next rest =>
              cases marks with
              | nil => cases sameLength
              | cons nextMark marks => exact ⟨capturedExact, frameExact, holds, dropped⟩

private theorem edit_step_marked {runtime : LiveRuntime F} {marks : List (AnswerMark F)}
    (marked : RuntimeMarked runtime marks) (edit : LiveEdit F) :
    RuntimeMarked (runtime.step (.edit edit)) (marksAfter runtime marks (.edit edit)) := by
  obtain ⟨session, stack, undoLimit⟩ := runtime
  obtain ⟨sessionExact, stackMarked⟩ := marked
  cases stack with
  | nil =>
      cases marks with
      | nil =>
          have kept := edit_keeps sessionExact sessionExact edit none
          refine ⟨kept.edited.exact, ?_⟩
          change StackMarked _ ((applyEdit edit (session, none)).2.toList ++ []) []
          rw [kept.unrecorded rfl]
          trivial
      | cons mark marks => exact stackMarked.elim
  | cons frame rest =>
      cases marks with
      | nil => exact stackMarked.elim
      | cons mark marks =>
          obtain ⟨capturedExact, frameExact, holds, restMarked⟩ := stackMarked
          have kept := edit_keeps capturedExact sessionExact edit (some frame)
          obtain ⟨next, recorded, nextExact, nextHolds⟩ :=
            edit_marked capturedExact sessionExact frameExact holds edit
          refine ⟨kept.edited.exact, ?_⟩
          change StackMarked _ ((applyEdit edit (session, some frame)).2.toList ++ rest)
            (mark.edit session edit :: marks)
          rw [recorded]
          change SessionExact True (mark.edit session edit).captured ∧
            FrameExact True (mark.edit session edit).captured next _ ∧ _ ∧
              StackMarked (mark.edit session edit).captured rest marks
          rw [edit_captured]
          exact ⟨capturedExact, nextExact, nextHolds, restMarked⟩

theorem begun_marked {state : LivePredictionSessionState F} (exact : SessionExact True state)
    {slot : Nat} (live : (indexOf state).Live slot) :
    MarkHolds (AnswerMark.begin state slot) (beginAnswerUndo state slot) :=
  begun_mark_holds (exact.fresh trivial) (by simp [captured_marks exact live])

private theorem answer_step_marked {runtime : LiveRuntime F} {marks : List (AnswerMark F)}
    (marked : RuntimeMarked runtime marks) (input : ReviewInput F)
    (requeueAfterPrediction : Bool) :
    RuntimeMarked (processAnswer runtime input requeueAfterPrediction)
      (marksAfter runtime marks (.processAnswer input requeueAfterPrediction)) := by
  change RuntimeMarked _ (marksAnswered runtime marks input)
  unfold processAnswer marksAnswered
  split
  · exact marked
  · cases found : runtime.session.candidateSlot input.cardId with
    | error message => exact marked
    | ok slot =>
        dsimp only
        cases validateAnswerUpdate runtime.session slot input with
        | error message => exact marked
        | ok _ =>
            obtain ⟨live, _⟩ := candidate_slot_live marked.session.mapped found
            have pushed : StackMarked
                (applyAnswer runtime.session slot input requeueAfterPrediction)
                (beginAnswerUndo runtime.session slot :: runtime.undoStack)
                (AnswerMark.begin runtime.session slot :: marks) :=
              ⟨marked.session,
                answered_frame_exact marked.session live input requeueAfterPrediction,
                begun_marked marked.session live, marked.stack⟩
            refine ⟨apply_answer_exact marked.session live input requeueAfterPrediction, ?_⟩
            change StackMarked _ (pushFrame _ _ _) (pushFrame _ _ _)
            obtain ⟨dropped, sameLength⟩ := stack_marked_dropped pushed
            unfold pushFrame
            rw [sameLength]
            by_cases full : runtime.undoLimit <
                (AnswerMark.begin runtime.session slot :: marks).length
            · rw [if_pos full, if_pos full]
              exact dropped
            · rw [if_neg full, if_neg full]
              exact pushed

/-- A session with the captured slots is as good for the marked frames below. -/
theorem stack_marked_undone {before after : LivePredictionSessionState F}
    {stack : List (LiveIndexUndoFrame F)} {marks : List (AnswerMark F)}
    (marked : StackMarked before stack marks) (beforeExact : SessionExact True before)
    (undo : UndoFinished before after) (fresh : (indexOf after).Fresh) :
    StackMarked after stack marks := by
  cases stack with
  | nil =>
      cases marks with
      | nil => trivial
      | cons mark marks => exact marked.elim
  | cons frame rest =>
      cases marks with
      | nil => exact marked.elim
      | cons mark marks =>
          obtain ⟨capturedExact, frameExact, holds, restMarked⟩ := marked
          exact ⟨capturedExact, frame_exact_undone frameExact beforeExact undo fun _ => fresh,
            holds, restMarked⟩

private theorem undo_step_marked {runtime : LiveRuntime F} {marks : List (AnswerMark F)}
    (marked : RuntimeMarked runtime marks) (kept : CommandKept runtime marks .undoLastProcess) :
    RuntimeMarked (undoLastProcess runtime) (marksAfter runtime marks .undoLastProcess) := by
  obtain ⟨session, stack, undoLimit⟩ := runtime
  obtain ⟨sessionExact, stackMarked⟩ := marked
  cases stack with
  | nil => exact ⟨sessionExact, stackMarked⟩
  | cons frame rest =>
      cases marks with
      | nil => exact stackMarked.elim
      | cons mark marks =>
          obtain ⟨capturedExact, frameExact, holds, restMarked⟩ := stackMarked
          have flags := (flags_current_iff capturedExact frameExact holds).mpr (kept mark rfl)
          have undo := (finished_undo_spec capturedExact frameExact).1
          have fresh := finished_fresh capturedExact frameExact trivial flags
          have sameToken := frameExact.frameToken.trans frameExact.token.symm
          unfold undoLastProcess marksAfter
          simp only [restore_undo_finishes sameToken]
          exact ⟨⟨undo.slots, undo.ordered, fun _ => fresh⟩,
            stack_marked_undone restMarked capturedExact undo fresh⟩

theorem step_marked {runtime : LiveRuntime F} {marks : List (AnswerMark F)}
    (marked : RuntimeMarked runtime marks) (command : LiveCommand F)
    (kept : CommandKept runtime marks command) :
    RuntimeMarked (runtime.step command) (marksAfter runtime marks command) := by
  cases command with
  | edit edit => exact edit_step_marked marked edit
  | processAnswer input requeueAfterPrediction =>
      exact answer_step_marked marked input requeueAfterPrediction
  | replaceCandidates seeds predict =>
      unfold LiveRuntime.step marksAfter
      dsimp only
      cases built : replaceLiveSessionCandidates runtime.session seeds predict with
      | error message => exact marked
      | ok replaced => exact ⟨replace_exact built, trivial⟩
  | undoLastProcess => exact undo_step_marked marked kept

theorem sound_run_marked {runtime : LiveRuntime F} {marks : List (AnswerMark F)}
    (run : SoundRun runtime marks) : RuntimeMarked runtime marks := by
  induction run with
  | created built undoLimit => exact ⟨create_session_exact built, trivial⟩
  | step run command kept ih => exact step_marked ih command kept

/-- The commands one after the other. -/
def runAfter (runtime : LiveRuntime F) (commands : List (LiveCommand F)) : LiveRuntime F :=
  commands.foldl LiveRuntime.step runtime

def marksAlong (runtime : LiveRuntime F) (marks : List (AnswerMark F)) :
    List (LiveCommand F) → List (AnswerMark F)
  | [] => marks
  | command :: rest => marksAlong (runtime.step command) (marksAfter runtime marks command) rest

def KeptRun (runtime : LiveRuntime F) (marks : List (AnswerMark F)) : List (LiveCommand F) → Prop
  | [] => True
  | command :: rest => CommandKept runtime marks command ∧
      KeptRun (runtime.step command) (marksAfter runtime marks command) rest

instance decidableKeptRun (runtime : LiveRuntime F) (marks : List (AnswerMark F)) :
    (commands : List (LiveCommand F)) → Decidable (KeptRun runtime marks commands)
  | [] => isTrue trivial
  | command :: rest =>
      have := decidableKeptRun (runtime.step command) (marksAfter runtime marks command) rest
      inferInstanceAs (Decidable (_ ∧ _))

theorem sound_run_after {runtime : LiveRuntime F} {marks : List (AnswerMark F)}
    (run : SoundRun runtime marks) {commands : List (LiveCommand F)}
    (kept : KeptRun runtime marks commands) :
    SoundRun (runAfter runtime commands) (marksAlong runtime marks commands) := by
  induction commands generalizing runtime marks with
  | nil => exact run
  | cons command rest ih => exact ih (run.step command kept.1) kept.2

/-- The session and the frame after an answer and the edits recorded since. -/
def recordedRun (state : LivePredictionSessionState F) (slot : Nat) (input : ReviewInput F)
    (requeueAfterPrediction : Bool) (edits : List (LiveEdit F)) :
    LivePredictionSessionState F × Option (LiveIndexUndoFrame F) :=
  edits.foldl (fun current edit => applyEdit edit current)
    (applyAnswer state slot input requeueAfterPrediction, some (beginAnswerUndo state slot))

/-- The mark of the answer after the same edits; no frame is recorded into. -/
def markedRun (state : LivePredictionSessionState F) (slot : Nat) (input : ReviewInput F)
    (requeueAfterPrediction : Bool) (edits : List (LiveEdit F)) : AnswerMark F :=
  (edits.foldl (fun current edit =>
    ((applyEdit edit (current.1, none)).1, current.2.edit current.1 edit))
    (applyAnswer state slot input requeueAfterPrediction, AnswerMark.begin state slot)).2

theorem recorded_run_marked {captured : LivePredictionSessionState F}
    (capturedExact : SessionExact True captured) {slot : Nat}
    (live : (indexOf captured).Live slot) (input : ReviewInput F) (requeueAfterPrediction : Bool)
    (edits : List (LiveEdit F)) :
    ∃ frame, (recordedRun captured slot input requeueAfterPrediction edits).2 = some frame ∧
      FrameExact True captured frame
        (recordedRun captured slot input requeueAfterPrediction edits).1 ∧
      MarkHolds (markedRun captured slot input requeueAfterPrediction edits) frame ∧
      (markedRun captured slot input requeueAfterPrediction edits).captured = captured := by
  have step : ∀ (rest : List (LiveEdit F)) (state : LivePredictionSessionState F)
      (frame : LiveIndexUndoFrame F) (mark : AnswerMark F), SessionExact True state →
      mark.captured = captured → FrameExact True captured frame state → MarkHolds mark frame →
      let marked := (rest.foldl (fun current edit =>
        ((applyEdit edit (current.1, none)).1, current.2.edit current.1 edit)) (state, mark)).2
      ∃ last, (rest.foldl (fun current edit => applyEdit edit current) (state, some frame)).2 =
          some last ∧ FrameExact True captured last
        (rest.foldl (fun current edit => applyEdit edit current) (state, some frame)).1 ∧
        MarkHolds marked last ∧ marked.captured = captured := by
    intro rest
    induction rest with
    | nil => exact fun state frame mark _ same exact holds => ⟨frame, rfl, exact, holds, same⟩
    | cons edit rest ih =>
        rintro state frame mark exact rfl frameExact holds
        have kept := edit_keeps capturedExact exact edit (some frame)
        obtain ⟨next, recorded, nextExact, nextHolds⟩ :=
          edit_marked capturedExact exact frameExact holds edit
        have result : applyEdit edit (state, some frame) =
            ((applyEdit edit (state, none)).1, some next) :=
          Prod.ext (session_unrecorded edit _) recorded
        have nextSession := kept.edited.exact
        rw [List.foldl_cons, List.foldl_cons, result]
        rw [result] at nextExact nextSession
        exact ih _ next _ nextSession (edit_captured mark state edit) nextExact nextHolds
  exact step edits _ _ _ (apply_answer_exact capturedExact live input requeueAfterPrediction) rfl
    (answered_frame_exact capturedExact live input requeueAfterPrediction)
    (begun_marked capturedExact live)

/-- Undoing an answer after any recorded edits succeeds, and brings the captured session back
exactly when no slot was first touched under a retention extra that gives it another flag. -/
theorem answer_undo_exact_iff {runtime : LiveRuntime F} {marks : List (AnswerMark F)}
    (run : SoundRun runtime marks) {cardId : Int64} {slot : Nat}
    (answered : runtime.session.candidateSlot cardId = .ok slot)
    (input : ReviewInput F) (requeueAfterPrediction : Bool) (edits : List (LiveEdit F)) :
    let recorded := recordedRun runtime.session slot input requeueAfterPrediction edits
    let mark := markedRun runtime.session slot input requeueAfterPrediction edits
    ∃ frame restored, recorded.2 = some frame ∧ restoreUndo recorded.1 frame = .ok restored ∧
      (SameLogicalContent runtime.session restored ↔ mark.FlagsKept recorded.1.retentionExtra) := by
  have exact := (sound_run_marked run).session
  obtain ⟨live, _⟩ := candidate_slot_live exact.mapped answered
  obtain ⟨frame, recorded, frameExact, holds, same⟩ :=
    recorded_run_marked exact live input requeueAfterPrediction edits
  have sameToken := frameExact.frameToken.trans frameExact.token.symm
  refine ⟨frame, _, recorded, restore_undo_finishes sameToken, ?_⟩
  rw [undo_exact_iff exact frameExact trivial]
  exact flags_current_iff (same.symm ▸ exact) (same.symm ▸ frameExact) holds

/-! A card is excluded while another retention extra is in force, so its flag of
that moment is saved; the retention extra is then changed back, and the undo
restores the saved flag without recomputing it. -/

def half : Binary64 := ⟨0x3FE0000000000000⟩
def quarter : Binary64 := ⟨0x3FD0000000000000⟩

def newCardSeed (cardId : Int64) : LiveCandidateSeed Binary64 where
  row := {
    reviewId := 0
    cardId := cardId
    noteId := .missing
    deckId := .missing
    presetId := .missing
    dayOffset := zero
    elapsedDays := negOne
    elapsedSeconds := negOne
    rating := none
    duration := none
    state := none }
  targetRetrievability := half
  intradayTargetRetrievability := half
  tieBreaker := 0
  randomKey := 0

def twoCardSettings : LiveSessionSettings where
  token := 1
  order := .retrievabilityAscending
  mode := .oracle
  batchSize := 1
  refreshLimit := 1
  numThreads := none
  profiling := false

def predictHalf : Predictor Binary64 := fun rows => .ok (rows.map fun _ => half)

/-- Cards 1 and 2, both new, predicted at their target. -/
def twoCardSession : Except String (LivePredictionSessionState Binary64) :=
  createLiveSession twoCardSettings [newCardSeed 1, newCardSeed 2] zero zero predictHalf

def staleEdits : List (LiveEdit Binary64) :=
  [.setRetentionExtra quarter, .excludeCard 2, .setRetentionExtra zero]

/-- The flag of card 2 before the answer to card 1, and after undoing it. -/
def flagsAroundUndo (session : LivePredictionSessionState Binary64) : Option (Bool × Bool) :=
  let recorded := recordedRun session 0 (newCardSeed 1).row true staleEdits
  match recorded.2 with
  | none => none
  | some frame =>
      match restoreUndo recorded.1 frame with
      | .error _ => none
      | .ok restored => some (session.eligibility 1, restored.eligibility 1)

private theorem two_card_session_built : ∃ session, twoCardSession = .ok session ∧
    session.candidateSlot 1 = .ok 0 ∧ session.status 1 = .active ∧
    flagsAroundUndo session = some (false, true) := by
  have slot : (twoCardSession >>= fun session => session.candidateSlot 1) = .ok 0 := by
    decide +kernel
  have status : (twoCardSession.map fun session => session.status 1) = .ok .active := by
    decide +kernel
  have flags : (twoCardSession.map flagsAroundUndo) = .ok (some (false, true)) := by
    decide +kernel
  cases built : twoCardSession with
  | error message =>
      rw [built] at slot
      cases slot
  | ok session =>
      rw [built] at slot status flags
      exact ⟨session, rfl, slot, Except.ok.inj status, Except.ok.inj flags⟩

theorem answer_undo_restores_stale_flag :
    ∃ runtime : LiveRuntime Binary64, SoundRun runtime [] ∧
      runtime.session.candidateSlot 1 = .ok 0 ∧
      ∃ frame restored,
        (recordedRun runtime.session 0 (newCardSeed 1).row true staleEdits).2 = some frame ∧
        restoreUndo (recordedRun runtime.session 0 (newCardSeed 1).row true staleEdits).1 frame =
          .ok restored ∧ ¬ SameLogicalContent runtime.session restored := by
  obtain ⟨session, built, slot, active, flags⟩ := two_card_session_built
  refine ⟨⟨session, [], 30⟩, SoundRun.created built 30, slot, ?_⟩
  unfold flagsAroundUndo at flags
  simp only at flags
  split at flags
  · cases flags
  · next frame recorded =>
      split at flags
      · cases flags
      · next restored restoredOk =>
          refine ⟨frame, restored, recorded, restoredOk, ?_⟩
          intro content
          have live : session.status 1 ≠ .removed := by
            rw [active]
            simp
          have sameFlag := congrArg LiveCandidateValue.eligible (content.value 1 live)
          have flagPair := Option.some.inj flags
          have before : session.eligibility 1 = false := congrArg Prod.fst flagPair
          have after : restored.eligibility 1 = true := congrArg Prod.snd flagPair
          have contradiction : true = false := after.symm.trans (sameFlag.trans before)
          cases contradiction

/-- Card 1 is answered and undone, with card 2 excluded in between. -/
def undoneAnswer : List (LiveCommand Binary64) :=
  [.processAnswer (newCardSeed 1).row true, .edit (.excludeCard 2), .undoLastProcess]

/-- Card 2 is first touched under the captured retention extra, which is in force again later. -/
def keptEdits : List (LiveEdit Binary64) :=
  [.excludeCard 2, .setRetentionExtra quarter, .includeCard 2, .setRetentionExtra zero]

theorem two_card_run_kept : ∃ session, twoCardSession = .ok session ∧
    KeptRun ⟨session, [], 30⟩ [] undoneAnswer ∧
    (runAfter ⟨session, [], 30⟩ undoneAnswer).session.candidateSlot 1 = .ok 0 ∧
    (markedRun (runAfter ⟨session, [], 30⟩ undoneAnswer).session 0 (newCardSeed 1).row true
      keptEdits).FlagsKept (recordedRun (runAfter ⟨session, [], 30⟩ undoneAnswer).session 0
        (newCardSeed 1).row true keptEdits).1.retentionExtra := by
  have facts : (twoCardSession.map fun session =>
      let state := (runAfter ⟨session, [], 30⟩ undoneAnswer).session
      decide (KeptRun ⟨session, [], 30⟩ [] undoneAnswer ∧ state.candidateSlot 1 = .ok 0 ∧
        (markedRun state 0 (newCardSeed 1).row true keptEdits).FlagsKept
          (recordedRun state 0 (newCardSeed 1).row true keptEdits).1.retentionExtra)) =
        .ok true := by
    decide +kernel
  cases built : twoCardSession with
  | error message =>
      rw [built] at facts
      cases facts
  | ok session =>
      rw [built] at facts
      exact ⟨session, rfl, of_decide_eq_true (Except.ok.inj facts)⟩

/-- The statement above after an answer of the two-card session that was undone. -/
theorem answer_undo_exact_two_cards :
    ∃ (runtime : LiveRuntime Binary64) (marks : List (AnswerMark Binary64))
      (frame : LiveIndexUndoFrame Binary64) (restored : LivePredictionSessionState Binary64),
      SoundRun runtime marks ∧
      (recordedRun runtime.session 0 (newCardSeed 1).row true keptEdits).2 = some frame ∧
      restoreUndo (recordedRun runtime.session 0 (newCardSeed 1).row true keptEdits).1 frame =
        .ok restored ∧ SameLogicalContent runtime.session restored := by
  obtain ⟨session, built, kept, slot, flags⟩ := two_card_run_kept
  have run := sound_run_after (SoundRun.created built 30) kept
  obtain ⟨frame, restored, recorded, undone, exact⟩ :=
    answer_undo_exact_iff run slot (newCardSeed 1).row true keptEdits
  exact ⟨_, _, frame, restored, run, recorded, undone, exact.mpr flags⟩

end RwkvSrs.LiveUndoRuns
