import RwkvSrs.LiveUndoRuns

/-!
What every reachable session satisfies, in the terms of its own arrays, map and
comparator. Every call keeps it, except an undo of an answer since which a slot
was first touched under a retention extra that gives it another flag.
-/

namespace RwkvSrs.LiveIndexRuns

open RwkvSrs.LiveTypes RwkvSrs.LiveSessionState RwkvSrs.LiveSessionIndex
open RwkvSrs.LiveSessionRank RwkvSrs.LiveSessionSlots RwkvSrs.LiveSessionOrder
open RwkvSrs.LiveSessionOperations RwkvSrs.LiveSessionInvariant RwkvSrs.LiveUndoFrame
open RwkvSrs.LiveUndoExact RwkvSrs.LiveUndoEdits RwkvSrs.LiveUndoMarks RwkvSrs.LiveUndoRuns
open SessionFloat

set_option autoImplicit false
set_option linter.unusedSectionVars false

variable {F : Type} [SessionFloat F]

/-- The slot is in the session: it exists and has not been removed. -/
def InSession (state : LivePredictionSessionState F) (slot : Nat) : Prop :=
  slot < state.candidateCount ∧ state.status slot ≠ .removed

structure IndexInvariant (state : LivePredictionSessionState F) : Prop where
  sized : SlotsSized state
  mapped : ∀ (cardId : Int64) (slot : Nat), state.slotByCardId[cardId]? = some slot ↔
    InSession state slot ∧ (state.candidateAt slot).cardId = cardId
  injective : ∀ (left right : Int64) (slot : Nat), state.slotByCardId[left]? = some slot →
    state.slotByCardId[right]? = some slot → left = right
  distinct : state.orderedSlots.Nodup
  listed : ∀ slot, slot ∈ state.orderedSlots ↔ InSession state slot
  ascending : state.orderedSlots.Pairwise fun left right => state.compareSlots left right = .lt
  rebuilt : state.rebuildOrder.orderedSlots = state.orderedSlots
  eligible : ∀ slot, slot < state.candidateCount →
    state.eligibility slot = state.calculateEligibility slot
  unusedMarks : ∀ generation, state.updateMarkGeneration < generation →
    ∀ mark ∈ state.updateMarks, mark ≠ generation
  nextMark : ∀ slot, state.advanceUpdateMark.marked slot = false

theorem in_session_live {state : LivePredictionSessionState F} (slots : SlotsExact state)
    (slot : Nat) : InSession state slot ↔ (indexOf state).Live slot := by
  constructor
  · intro inSession
    exact inSession.2
  · intro live
    exact ⟨exact_live_range slots live, live⟩

theorem compare_slots_less (state : LivePredictionSessionState F) {left right : Nat}
    (less : slotKey state left < slotKey state right) : state.compareSlots left right = .lt := by
  have swapped : state.compareSlots right left = .gt :=
    (compare_slots_greater state right left).mpr less
  have notGreater : state.compareSlots left right ≠ .gt := by
    intro greater
    exact lt_asymm less ((compare_slots_greater state left right).mp greater)
  cases compared : state.compareSlots left right with
  | lt => rfl
  | gt => exact absurd compared notGreater
  | eq =>
      -- Equal slots have equal keys, part by part.
      have same : slotKey state left = slotKey state right := by
        unfold LivePredictionSessionState.compareSlots RankKey.cmp at compared
        simp only [Ordering.then_eq_eq, Std.compare_eq_iff_eq] at compared
        obtain ⟨⟨sameClass, sameOrder⟩, sameTie, sameCard⟩ := compared
        change rankedKey (state.rankKey left) (state.tieBreaker left)
            (state.candidateAt left).cardId =
          rankedKey (state.rankKey right) (state.tieBreaker right) (state.candidateAt right).cardId
        unfold rankedKey
        rw [sameClass, sameOrder, sameTie, sameCard]
      exact absurd less (same ▸ lt_irrefl _)

theorem index_invariant_of_exact {state : LivePredictionSessionState F}
    (exact : SessionExact True state) : IndexInvariant state where
  sized := exact.sized
  mapped cardId slot := by
    rw [in_session_live exact.toSlotsExact]
    exact exact.mapped.mapped cardId slot
  injective left right slot leftFound rightFound :=
    (LiveIndex.card_of_mapped exact.mapped leftFound).symm.trans
      (LiveIndex.card_of_mapped exact.mapped rightFound)
  distinct := by
    apply exact.ordered.ranked.imp
    intro left right less same
    subst same
    exact lt_irrefl _ less
  listed slot := by
    rw [in_session_live exact.toSlotsExact]
    exact exact.ordered.listed slot
  ascending := exact.ordered.ranked.imp fun less => compare_slots_less state less
  rebuilt := by
    apply LiveIndex.ordered_unique _ exact.ordered
    exact rebuild_ordered exact.sized exact.mapped
  eligible slot _ := exact.fresh trivial slot
  unusedMarks generation unused mark member same :=
    absurd (same ▸ exact.bounded mark member) (UInt64.not_le.mpr unused)
  nextMark := advance_unmarked exact.bounded

/-- Of the parts of the invariant, the flags are the one that says what the values should be. -/
theorem fresh_of_invariant {state : LivePredictionSessionState F}
    (invariant : IndexInvariant state) : (indexOf state).Fresh := by
  intro slot
  by_cases inside : slot < state.candidateCount
  · exact invariant.eligible slot inside
  · have blank := value_out_of_range invariant.sized (Nat.le_of_not_lt inside)
    change FlagFresh state.retentionExtra (state.value slot)
    rw [blank]
    exact flag_fresh_of_unusable _ rfl rfl

variable [DecidableEq F]

/-- Every run of a created session. -/
inductive Reached : LiveRuntime F → Prop where
  | created {settings : LiveSessionSettings} {seeds : List (LiveCandidateSeed F)}
      {targetTimestampSeconds targetDayOffset : F} {predict : Predictor F}
      {session : LivePredictionSessionState F}
      (built : createLiveSession settings seeds targetTimestampSeconds targetDayOffset predict =
        .ok session) (undoLimit : Nat) : Reached ⟨session, [], undoLimit⟩
  | step {runtime : LiveRuntime F} (run : Reached runtime) (command : LiveCommand F) :
      Reached (runtime.step command)

theorem flags_current_of_fresh {captured state : LivePredictionSessionState F}
    {frame : LiveIndexUndoFrame F} (capturedExact : SessionExact True captured)
    (exact : FrameExact True captured frame state)
    (fresh : (indexOf (finishedUndo state frame)).Fresh) : FlagsCurrent state frame := by
  obtain ⟨undo, values⟩ := finished_undo_spec capturedExact exact
  apply (undo_exact_iff capturedExact exact trivial).mp
  exact same_content_of_fresh capturedExact trivial undo fresh

/-- From a session whose calls so far all met the condition, a call keeps the invariant exactly
when it meets the condition itself. -/
theorem step_invariant_iff {runtime : LiveRuntime F} {marks : List (AnswerMark F)}
    (marked : RuntimeMarked runtime marks) (command : LiveCommand F) :
    IndexInvariant (runtime.step command).session ↔ CommandKept runtime marks command := by
  constructor
  · intro invariant
    cases command with
    | undoLastProcess =>
        rintro mark top
        obtain ⟨session, stack, undoLimit⟩ := runtime
        obtain ⟨_, stackMarked⟩ := marked
        cases marks with
        | nil => cases top
        | cons first marks =>
            cases top
            cases stack with
            | nil => exact stackMarked.elim
            | cons frame rest =>
                obtain ⟨capturedExact, frameExact, holds, _⟩ := stackMarked
                have sameToken := frameExact.frameToken.trans frameExact.token.symm
                change IndexInvariant (undoLastProcess _).session at invariant
                unfold undoLastProcess at invariant
                simp only [restore_undo_finishes sameToken] at invariant
                exact (flags_current_iff capturedExact frameExact holds).mp
                  (flags_current_of_fresh capturedExact frameExact (fresh_of_invariant invariant))
    | _ => trivial
  · intro kept
    exact index_invariant_of_exact (step_marked marked command kept).session

/-- Every session of a run whose undos all met the condition satisfies the invariant, and the next
call keeps it unless it is an undo that does not meet the condition. -/
theorem live_index_invariant {runtime : LiveRuntime F} {marks : List (AnswerMark F)}
    (run : SoundRun runtime marks) :
    IndexInvariant runtime.session ∧ ∀ command : LiveCommand F,
      IndexInvariant (runtime.step command).session ↔ CommandKept runtime marks command := by
  have marked := sound_run_marked run
  constructor
  · exact index_invariant_of_exact marked.session
  · intro command
    exact step_invariant_iff marked command

def staleCommands : List (LiveCommand Binary64) :=
  .processAnswer (newCardSeed 1).row true :: staleEdits.map .edit ++ [.undoLastProcess]

theorem reached_after {session : LivePredictionSessionState Binary64}
    (built : twoCardSession = .ok session) (commands : List (LiveCommand Binary64)) :
    Reached (runAfter ⟨session, [], 30⟩ commands) := by
  have fold : ∀ (rest : List (LiveCommand Binary64)) (runtime : LiveRuntime Binary64),
      Reached runtime → Reached (rest.foldl LiveRuntime.step runtime) := by
    intro rest
    induction rest with
    | nil =>
        intro runtime run
        exact run
    | cons command rest ih =>
        intro runtime run
        rw [List.foldl_cons]
        apply ih
        exact .step run command
  apply fold
  exact .created built 30

/-- Card 2 is cached as eligible after the undo, while its prediction is at its target. -/
theorem live_index_stale_after_undo :
    ∃ runtime : LiveRuntime Binary64, Reached runtime ∧ ¬ IndexInvariant runtime.session := by
  have flags : (twoCardSession.map fun session =>
      let undone := (runAfter ⟨session, [], 30⟩ staleCommands).session
      (decide (1 < undone.candidateCount), undone.eligibility 1, undone.calculateEligibility 1)) =
        .ok (true, true, false) := by
    decide +kernel
  cases built : twoCardSession with
  | error message =>
      rw [built] at flags
      cases flags
  | ok session =>
      rw [built] at flags
      have read := Except.ok.inj flags
      have inside := of_decide_eq_true (congrArg Prod.fst read)
      have cached := congrArg (fun flag => flag.2.1) read
      have calculated := congrArg (fun flag => flag.2.2) read
      simp only at inside cached calculated
      refine ⟨_, reached_after built staleCommands, ?_⟩
      intro invariant
      have same := invariant.eligible 1 inside
      rw [cached, calculated] at same
      cases same

/-- An answer, four edits and an undo of it that meets the condition. -/
def keptCommands : List (LiveCommand Binary64) :=
  .processAnswer (newCardSeed 1).row true :: keptEdits.map .edit ++ [.undoLastProcess]

/-- The invariant after the undo, and the calls it survives. -/
theorem live_index_invariant_two_cards :
    ∃ (runtime : LiveRuntime Binary64) (marks : List (AnswerMark Binary64)),
      runtime.session.candidateCount = 2 ∧ runtime.session.generation = 7 ∧
      IndexInvariant runtime.session ∧ ∀ command : LiveCommand Binary64,
        IndexInvariant (runtime.step command).session ↔ CommandKept runtime marks command := by
  have facts : (twoCardSession.map fun session =>
      let reached := (runAfter ⟨session, [], 30⟩ keptCommands).session
      decide (KeptRun ⟨session, [], 30⟩ [] keptCommands ∧ reached.candidateCount = 2 ∧
        reached.generation = 7)) = .ok true := by
    decide +kernel
  cases built : twoCardSession with
  | error message =>
      rw [built] at facts
      cases facts
  | ok session =>
      rw [built] at facts
      obtain ⟨kept, count, generation⟩ := of_decide_eq_true (Except.ok.inj facts)
      have run := sound_run_after (SoundRun.created built 30) kept
      exact ⟨_, _, count, generation, live_index_invariant run⟩

end RwkvSrs.LiveIndexRuns
