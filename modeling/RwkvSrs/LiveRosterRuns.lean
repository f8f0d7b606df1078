import RwkvSrs.LiveRosterEdits

/-!
Every call of a live run keeps the roster: an answer pushes a frame of the
session it was captured in, and an undo writes saved candidates back to slots
that exist.
-/

namespace RwkvSrs.LiveRosterRuns

open Std RwkvSrs.LiveTypes RwkvSrs.LiveSessionState RwkvSrs.LiveSessionSelection
open RwkvSrs.LiveSessionOperations RwkvSrs.LiveUndoFrame RwkvSrs.LiveUndoEdits
open RwkvSrs.LiveUndoRuns RwkvSrs.LiveIndexRuns RwkvSrs.ResultSteps RwkvSrs.LiveRoster
open RwkvSrs.LiveRosterEdits SessionFloat

set_option autoImplicit false
set_option linter.unusedSectionVars false

variable {F : Type} [SessionFloat F] [DecidableEq F]

theorem apply_edit_kept {state : LivePredictionSessionState F} (kept : Kept (rosterOf state))
    (edit : LiveEdit F) (undo : Option (LiveIndexUndoFrame F)) :
    EditKept state undo (applyEdit edit (state, undo)).1 (applyEdit edit (state, undo)).2 := by
  cases edit with
  | excludeCard cardId => exact exclude_kept kept cardId undo
  | includeCard cardId => exact include_kept kept cardId undo
  | removeCard cardId => exact remove_kept kept cardId undo
  | upsertCandidates seeds => exact upsert_kept kept seeds undo
  | setRetentionExtra value => exact set_retention_kept kept value undo
  | refresh predict request => exact refresh_kept kept predict request undo
  | reconcileCandidates seeds predict request =>
      exact reconcile_candidates_kept kept seeds predict request undo
  | reconcileMembership cardIds changedCandidates predict request =>
      exact reconcile_membership_kept kept cardIds changedCandidates predict request undo
  | setMode mode =>
      apply edit_same_roster kept
      rfl
  | currentSelection selectLimit excludedCardIds =>
      apply edit_same_roster kept
      exact roster_select_final state selectLimit excludedCardIds

structure RuntimeKept (runtime : LiveRuntime F) : Prop where
  roster : Kept (rosterOf runtime.session)
  stack : StackKept runtime.session.candidates.length runtime.undoStack

theorem edit_step_kept {runtime : LiveRuntime F} (kept : RuntimeKept runtime)
    (edit : LiveEdit F) : RuntimeKept (runtime.step (.edit edit)) := by
  obtain ⟨session, stack, undoLimit⟩ := runtime
  obtain ⟨roster, stackKept⟩ := kept
  have edited := apply_edit_kept roster edit stack.head?
  obtain ⟨record, recorded, recordKept⟩ := edited.recorded
  refine ⟨edited.roster, ?_⟩
  change StackKept _ ((applyEdit edit (session, stack.head?)).2.toList ++ stack.tail)
  rw [recorded]
  cases stack with
  | nil => trivial
  | cons frame rest =>
      obtain ⟨frameKept, restKept⟩ := stackKept
      obtain ⟨nextKept, grows⟩ := recordKept frame frameKept
      exact ⟨nextKept, stack_grows grows restKept⟩

theorem stack_dropped {count : Nat} {stack : List (LiveIndexUndoFrame F)}
    (kept : StackKept count stack) : StackKept count stack.dropLast := by
  induction stack generalizing count with
  | nil => trivial
  | cons frame rest ih =>
      cases rest with
      | nil => trivial
      | cons next rest => exact ⟨kept.1, ih kept.2⟩

theorem answered_anchored {state : LivePredictionSessionState F} {slot : Nat}
    {input : ReviewInput F} (valid : validateAnswerUpdate state slot input = .ok ()) :
    Anchored (answeredCandidate (state.candidateAt slot) state.targetTimestampSeconds input) := by
  unfold validateAnswerUpdate at valid
  dsimp only at valid
  split at valid
  · cases valid
  · rename_i finite
    simp only [Bool.or_eq_true, Bool.not_eq_true', not_or, Bool.not_eq_false] at finite
    constructor
    · intro _
      exact ⟨_, _, rfl, rfl, finite.1, finite.2⟩
    · intro new
      cases new

theorem answered_kept {state : LivePredictionSessionState F} (kept : Kept (rosterOf state))
    {slot : Nat} (inside : slot < state.candidates.length) {input : ReviewInput F}
    (valid : validateAnswerUpdate state slot input = .ok ()) (requeueAfterPrediction : Bool) :
    Kept (rosterOf (applyAnswer state slot input requeueAfterPrediction)) ∧
      (applyAnswer state slot input requeueAfterPrediction).candidates.length =
        state.candidates.length := by
  have written : Members (state.candidates.set slot
      (answeredCandidate (state.candidateAt slot) state.targetTimestampSeconds input))
      state.slotByCardId := by
    apply members_rewritten kept.members (candidate_read inside)
    · rfl
    · intro _
      exact answered_anchored valid
  have same : rosterOf (applyAnswer state slot input requeueAfterPrediction) =
      { rosterOf state with
        candidates := state.candidates.set slot
          (answeredCandidate (state.candidateAt slot) state.targetTimestampSeconds input)
        slotByCardId := if requeueAfterPrediction then state.slotByCardId
          else state.slotByCardId.erase (state.candidateAt slot).cardId } := by
    unfold applyAnswer
    dsimp only
    apply (roster_update_order _ _ _).trans
    cases requeueAfterPrediction with
    | true => rfl
    | false => rfl
  constructor
  · rw [same]
    refine ⟨?_, kept.batch, kept.refresh⟩
    cases requeueAfterPrediction with
    | true => exact written
    | false => exact members_erased written _
  · apply (congrArg (fun roster => roster.candidates.length) same).trans
    exact List.length_set

theorem answer_step_kept {runtime : LiveRuntime F} (kept : RuntimeKept runtime)
    (input : ReviewInput F) (requeueAfterPrediction : Bool) :
    RuntimeKept (processAnswer runtime input requeueAfterPrediction) := by
  unfold processAnswer
  split
  · exact kept
  · split
    · exact kept
    · rename_i slot located
      split
      · exact kept
      · rename_i valid
        obtain ⟨inside, _, _, anchored⟩ :=
          mapped_candidate kept.roster (candidate_slot_found located)
        obtain ⟨roster, same⟩ := answered_kept kept.roster inside valid requeueAfterPrediction
        have pushed : StackKept runtime.session.candidates.length
            (beginAnswerUndo runtime.session slot :: runtime.undoStack) := by
          refine ⟨⟨?_, ?_⟩, kept.stack⟩
          · intro delta member
            rw [show (beginAnswerUndo runtime.session slot).candidateDeltas =
              [(slot, some (runtime.session.value slot))] from rfl, List.mem_singleton] at member
            rw [member]
            refine ⟨inside, ?_⟩
            intro value saved
            cases saved
            exact anchored
          · intro previous member
            cases member
        refine ⟨roster, ?_⟩
        change StackKept (applyAnswer _ _ _ _).candidates.length (pushFrame _ _ _)
        rw [same]
        unfold pushFrame
        split
        · exact stack_dropped pushed
        · exact pushed

theorem base_kept {state : LivePredictionSessionState F} (kept : Kept (rosterOf state))
    {frame : LiveIndexUndoFrame F} (frameKept : FrameKept state.candidates.length frame) :
    Kept (rosterOf (deltaBase state frame)) ∧
      (deltaBase state frame).candidates.length = baseCount state.candidates.length frame := by
  unfold deltaBase baseCount
  cases saved : frame.preReconciliationState with
  | some previous =>
      exact ⟨⟨frameKept.previous previous saved, kept.batch, kept.refresh⟩, rfl⟩
  | none => exact ⟨kept, rfl⟩

theorem refresh_deltas_kept (recordedSlot : Nat → UndoSlot)
    (deltas : List (Nat × LiveRefreshUndoValue F))
    {current : LivePredictionSessionState F × List Nat} (kept : Kept (rosterOf current.1)) :
    Kept (rosterOf (deltas.foldl (restoreRefreshDelta recordedSlot) current).1) ∧
      (deltas.foldl (restoreRefreshDelta recordedSlot) current).1.candidates.length =
        current.1.candidates.length := by
  induction deltas generalizing current with
  | nil => exact ⟨kept, rfl⟩
  | cons delta deltas ih =>
      have first : Kept (rosterOf (restoreRefreshDelta recordedSlot current delta).1) ∧
          (restoreRefreshDelta recordedSlot current delta).1.candidates.length =
            current.1.candidates.length := by
        unfold restoreRefreshDelta
        split
        · exact ⟨kept, rfl⟩
        · refine ⟨⟨?_, kept.batch, kept.refresh⟩, List.length_set⟩
          exact members_requeried kept delta.1 _ _ _ _
      obtain ⟨rest, same⟩ := ih first.1
      exact ⟨rest, same.trans first.2⟩

theorem discard_kept {state : LivePredictionSessionState F} (kept : Kept (rosterOf state))
    (slot : Nat) :
    Kept (rosterOf (discardNewSlot state slot)) ∧
      (discardNewSlot state slot).candidates.length = state.candidates.length := by
  unfold discardNewSlot
  split
  · dsimp only
    split
    · exact ⟨kept_erased kept _, rfl⟩
    · exact ⟨kept, rfl⟩
  · exact ⟨kept, rfl⟩

theorem candidate_deltas_kept (deltas : List (Nat × Option (LiveCandidateValue F)))
    {current : LivePredictionSessionState F × List Nat} (kept : Kept (rosterOf current.1))
    (saved : ∀ delta ∈ deltas, delta.1 < current.1.candidates.length ∧
      ∀ value ∈ delta.2, Anchored value.candidate) :
    Kept (rosterOf (deltas.foldl restoreCandidateDelta current).1) ∧
      (deltas.foldl restoreCandidateDelta current).1.candidates.length =
        current.1.candidates.length := by
  induction deltas generalizing current with
  | nil => exact ⟨kept, rfl⟩
  | cons delta deltas ih =>
      obtain ⟨inside, anchored⟩ := saved delta List.mem_cons_self
      have first : Kept (rosterOf (restoreCandidateDelta current delta).1) ∧
          (restoreCandidateDelta current delta).1.candidates.length =
            current.1.candidates.length := by
        unfold restoreCandidateDelta
        split
        · rename_i value present
          exact ⟨kept_restored kept inside (anchored value present), List.length_set⟩
        · exact discard_kept kept delta.1
      obtain ⟨rest, same⟩ := ih first.1 (by
        intro later member
        rw [first.2]
        exact saved later (List.mem_cons_of_mem _ member))
      exact ⟨rest, same.trans first.2⟩

theorem restored_kept {state restored : LivePredictionSessionState F}
    (kept : Kept (rosterOf state)) {frame : LiveIndexUndoFrame F}
    (frameKept : FrameKept state.candidates.length frame)
    (undone : restoreUndo state frame = .ok restored) :
    Kept (rosterOf restored) ∧
      restored.candidates.length = baseCount state.candidates.length frame := by
  obtain ⟨base, baseLength⟩ := base_kept kept frameKept
  let retimed := { deltaBase state frame with
    retentionExtra := frame.previousRetentionExtra
    targetTimestampSeconds := frame.previousTargetTimestampSeconds
    targetDayOffset := frame.previousTargetDayOffset }
  have retimedKept : Kept (rosterOf (retimed, ([] : List Nat)).1) := base
  obtain ⟨refreshed, refreshedLength⟩ :=
    refresh_deltas_kept frame.recordedSlot frame.refreshDeltas retimedKept
  obtain ⟨written, writtenLength⟩ := candidate_deltas_kept frame.candidateDeltas refreshed (by
    intro delta member
    rw [refreshedLength]
    change delta.1 < (deltaBase state frame).candidates.length ∧ _
    rw [baseLength]
    exact frameKept.deltas delta member)
  unfold restoreUndo at undone
  split at undone
  · cases undone
  · cases undone
    have same : ∀ (advanced : LivePredictionSessionState F) (slots : List Nat) (changed : Bool),
        rosterOf (if changed then advanced.recomputeAllEligibilities.rebuildOrder
          else advanced.updateOrderAfterRefresh slots false) = rosterOf advanced := by
      intro advanced slots changed
      cases changed with
      | true => exact roster_recompute advanced
      | false => exact roster_update_order advanced slots false
    have final := same
    constructor
    · refine Eq.mpr (congrArg Kept (final _ _ _)) ?_
      exact written
    · refine (congrArg (fun roster => roster.candidates.length) (final _ _ _)).trans ?_
      exact writtenLength.trans (refreshedLength.trans baseLength)

theorem undo_step_kept {runtime : LiveRuntime F} (kept : RuntimeKept runtime) :
    RuntimeKept (undoLastProcess runtime) := by
  unfold undoLastProcess
  split
  · exact kept
  · rename_i frame rest top
    split
    · exact kept
    · rename_i session undone
      have stack := kept.stack
      rw [top] at stack
      obtain ⟨roster, same⟩ := restored_kept kept.roster stack.1 undone
      refine ⟨roster, ?_⟩
      change StackKept session.candidates.length rest
      rw [same]
      exact stack.2

theorem create_session_kept {settings : LiveSessionSettings} {seeds : List (LiveCandidateSeed F)}
    {targetTimestampSeconds targetDayOffset : F} {predict : Predictor F}
    {session : LivePredictionSessionState F}
    (built : createLiveSession settings seeds targetTimestampSeconds targetDayOffset predict =
      .ok session) : Kept (rosterOf session) := by
  obtain ⟨unranked, staged, initialized⟩ := bind_ok.mp built
  rw [roster_initialized initialized]
  exact new_unranked_kept staged

theorem reached_kept {runtime : LiveRuntime F} (run : Reached runtime) : RuntimeKept runtime := by
  induction run with
  | created built undoLimit => exact ⟨create_session_kept built, trivial⟩
  | step run command kept =>
      cases command with
      | edit edit => exact edit_step_kept kept edit
      | processAnswer input requeueAfterPrediction =>
          exact answer_step_kept kept input requeueAfterPrediction
      | replaceCandidates seeds predict =>
          unfold LiveRuntime.step
          dsimp only
          split
          · exact kept
          · rename_i session replaced
            obtain ⟨replacement, predicted, finished⟩ := bind_ok.mp replaced
            cases finished
            have replacementKept := replacement_kept predicted
            exact ⟨replacementKept, trivial⟩
      | undoLastProcess => exact undo_step_kept kept

end RwkvSrs.LiveRosterRuns
