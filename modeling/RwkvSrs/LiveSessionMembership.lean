import RwkvSrs.LiveSessionOrder
import RwkvSrs.LiveSessionSelection

/-!
Which slots a refresh re-predicts. The two marking passes select the first
pending slots and then the first included slots of the rank order, up to the
refresh limit; the marks only serve to keep the second pass off the first
pass's slots and to list the selection in slot order.
-/

namespace RwkvSrs.LiveSessionMembership

open RwkvSrs.LiveTypes RwkvSrs.LiveSessionState RwkvSrs.LiveSessionSelection
open RwkvSrs.LiveSessionIndex RwkvSrs.LiveSessionSlots RwkvSrs.LiveSessionOrder

set_option autoImplicit false
set_option linter.unusedSectionVars false

variable {F : Type} [SessionFloat F]

/-- Selecting one slot does not change whether another one is wanted. -/
def LocallyWanted (wanted : LivePredictionSessionState F → Nat → Bool) : Prop :=
  ∀ (state : LivePredictionSessionState F) (slot other : Nat), other ≠ slot →
    wanted (selectSlot state slot) other = wanted state other

def selectSlots (state : LivePredictionSessionState F) (slots : List Nat) :
    LivePredictionSessionState F :=
  slots.foldl selectSlot state

theorem select_slots_shape (slots : List Nat) (state : LivePredictionSessionState F) :
    selectSlots state slots =
      { state with
        selectedScratch := state.selectedScratch ++ slots
        updateMarks := slots.foldl
          (fun marks slot => marks.set slot state.updateMarkGeneration) state.updateMarks } := by
  induction slots generalizing state with
  | nil => simp [selectSlots]
  | cons slot slots ih =>
      have rest := ih (selectSlot state slot)
      simp only [selectSlots, List.foldl_cons] at rest ⊢
      rw [rest]
      simp [selectSlot]

theorem select_slots_marks (slots : List Nat) (state : LivePredictionSessionState F) :
    selectSlots state slots =
      { state.markSlots slots with selectedScratch := state.selectedScratch ++ slots } :=
  select_slots_shape slots state

theorem select_pass_spec {wanted : LivePredictionSessionState F → Nat → Bool}
    (locally : LocallyWanted wanted) {slots : List Nat} (distinct : slots.Nodup)
    (state : LivePredictionSessionState F) :
    selectPass wanted slots state = selectSlots state
      ((slots.filter (wanted state)).take (state.refreshLimit - state.selectedScratch.length)) := by
  induction slots generalizing state with
  | nil => simp [selectPass, selectSlots]
  | cons slot slots ih =>
      obtain ⟨notLater, restDistinct⟩ := List.nodup_cons.mp distinct
      have tail := ih restDistinct
      simp only [selectPass, List.foldl_cons] at tail ⊢
      by_cases full : state.refreshLimit ≤ state.selectedScratch.length
      · rw [if_pos full, tail state, Nat.sub_eq_zero_of_le full]
        simp
      · rw [if_neg full]
        by_cases want : wanted state slot = true
        · rw [if_pos want, tail (selectSlot state slot), List.filter_cons_of_pos want]
          have sameFilter : slots.filter (wanted (selectSlot state slot)) =
              slots.filter (wanted state) := by
            apply List.filter_congr
            intro other member
            exact locally state slot other fun same => notLater (same ▸ member)
          have room : state.refreshLimit - state.selectedScratch.length =
              (selectSlot state slot).refreshLimit -
                (selectSlot state slot).selectedScratch.length + 1 := by
            simp only [selectSlot, List.length_append, List.length_singleton]
            omega
          rw [sameFilter, room, List.take_succ_cons]
          rfl
        · rw [if_neg want, tail state, List.filter_cons_of_neg want]

private theorem pending_locally (isExcluded : Nat → Bool) :
    LocallyWanted fun (current : LivePredictionSessionState F) slot =>
      current.status slot == .pendingRefresh && !isExcluded slot :=
  fun _ _ _ _ => rfl

private theorem included_locally (isExcluded : Nat → Bool) :
    LocallyWanted fun (current : LivePredictionSessionState F) slot =>
      (current.status slot).isIncluded && !isExcluded slot && !current.marked slot := by
  intro state slot other different
  have sameMark : (selectSlot state slot).marked other = state.marked other := by
    simp only [LivePredictionSessionState.marked, LivePredictionSessionState.updateMark, selectSlot,
      List.getD_eq_getElem?_getD, List.getElem?_set_ne (Ne.symm different)]
  change ((state.status other).isIncluded && !isExcluded other &&
    !(selectSlot state slot).marked other) = _
  rw [sameMark]

/-- Pending slots in slot order, as many as the limit allows. -/
def pendingSelection (state : LivePredictionSessionState F) (isExcluded : Nat → Bool) : List Nat :=
  ((List.range state.candidateCount).filter fun slot =>
    state.status slot == .pendingRefresh && !isExcluded slot).take state.refreshLimit

/-- The other included slots in rank order, as far as the limit still allows. -/
def rankedSelection (state : LivePredictionSessionState F) (isExcluded : Nat → Bool) : List Nat :=
  (state.orderedSlots.filter fun slot => (state.status slot).isIncluded && !isExcluded slot &&
    !decide (slot ∈ pendingSelection state isExcluded)).take
      (state.refreshLimit - (pendingSelection state isExcluded).length)

def refreshSelection (state : LivePredictionSessionState F) (isExcluded : Nat → Bool) : List Nat :=
  pendingSelection state isExcluded ++ rankedSelection state isExcluded

theorem pending_selection_mem {state : LivePredictionSessionState F} {isExcluded : Nat → Bool}
    {slot : Nat} (member : slot ∈ pendingSelection state isExcluded) :
    slot < state.candidateCount ∧ state.status slot = .pendingRefresh ∧ isExcluded slot = false := by
  have listed := List.mem_of_mem_take member
  rw [List.mem_filter, List.mem_range, Bool.and_eq_true, beq_iff_eq, Bool.not_eq_true'] at listed
  exact listed

theorem ranked_selection_mem {state : LivePredictionSessionState F} {isExcluded : Nat → Bool}
    {slot : Nat} (member : slot ∈ rankedSelection state isExcluded) :
    slot ∈ state.orderedSlots ∧ (state.status slot).isIncluded = true ∧ isExcluded slot = false := by
  have listed := List.mem_of_mem_take member
  rw [List.mem_filter, Bool.and_eq_true, Bool.and_eq_true, Bool.not_eq_true'] at listed
  exact ⟨listed.1, listed.2.1⟩

structure SelectionReady (state : LivePredictionSessionState F) : Prop where
  sized : SlotsSized state
  bounded : MarksBounded state
  distinct : state.orderedSlots.Nodup
  inRange : ∀ slot ∈ state.orderedSlots, slot < state.candidateCount

theorem refresh_selection_range {state : LivePredictionSessionState F}
    (ready : SelectionReady state) {isExcluded : Nat → Bool} {slot : Nat}
    (member : slot ∈ refreshSelection state isExcluded) : slot < state.candidateCount := by
  rcases List.mem_append.mp member with pending | ranked
  · exact (pending_selection_mem pending).1
  · exact ready.inRange slot (ranked_selection_mem ranked).1

theorem refresh_selection_included {state : LivePredictionSessionState F}
    {isExcluded : Nat → Bool} {slot : Nat} (member : slot ∈ refreshSelection state isExcluded) :
    (state.status slot).isIncluded = true := by
  rcases List.mem_append.mp member with pending | ranked
  · rw [(pending_selection_mem pending).2.1]
    rfl
  · exact (ranked_selection_mem ranked).2.1

theorem select_membership_spec {state : LivePredictionSessionState F}
    (ready : SelectionReady state) (isExcluded : Nat → Bool) :
    ∃ marks generation, selectRefreshMembershipBy isExcluded state =
        { state with
          selectedScratch := refreshSelection state isExcluded
          transportSlots := (List.range state.candidateCount).filter fun slot =>
            decide (slot ∈ refreshSelection state isExcluded)
          updateMarks := marks
          updateMarkGeneration := generation } ∧
      marks.length = state.updateMarks.length ∧ ∀ mark ∈ marks, mark ≤ generation := by
  set pending := pendingSelection state isExcluded with pendingDef
  set ranked := rankedSelection state isExcluded with rankedDef
  set cleared : LivePredictionSessionState F := { state with selectedScratch := [] } with clearedDef
  have clearedBounded : MarksBounded cleared := ready.bounded
  have inRange : ∀ slot ∈ refreshSelection state isExcluded, slot < cleared.updateMarks.length := by
    intro slot member
    change slot < state.updateMarks.length
    rw [ready.sized.updateMarks]
    exact refresh_selection_range ready member
  have pendingRange : ∀ slot ∈ pending, slot < cleared.updateMarks.length := fun slot member =>
    inRange slot (List.mem_append_left _ member)
  obtain ⟨marks, generation, shape, sameLength⟩ := advance_mark_shape cleared
  have firstPass : selectPass (fun current slot =>
      current.status slot == .pendingRefresh && !isExcluded slot)
      (List.range state.candidateCount) cleared.advanceUpdateMark =
      selectSlots cleared.advanceUpdateMark pending := by
    rw [select_pass_spec (pending_locally isExcluded) List.nodup_range, shape]
    rfl
  have secondPass : selectPass (fun current slot =>
      (current.status slot).isIncluded && !isExcluded slot && !current.marked slot)
      state.orderedSlots (selectSlots cleared.advanceUpdateMark pending) =
      selectSlots (selectSlots cleared.advanceUpdateMark pending) ranked := by
    rw [select_pass_spec (included_locally isExcluded) ready.distinct]
    have sameTest : (fun slot => ((selectSlots cleared.advanceUpdateMark pending).status slot).isIncluded
          && !isExcluded slot && !(selectSlots cleared.advanceUpdateMark pending).marked slot) =
        fun slot => (state.status slot).isIncluded && !isExcluded slot &&
          !decide (slot ∈ pending) := by
      funext slot
      rw [← marked_after_mark clearedBounded pendingRange slot, select_slots_marks, shape]
      rfl
    have scratch : (selectSlots cleared.advanceUpdateMark pending).selectedScratch = pending := by
      rw [select_slots_shape, shape]
      rfl
    have limit : (selectSlots cleared.advanceUpdateMark pending).refreshLimit =
        state.refreshLimit := by
      rw [select_slots_shape, shape]
    rw [sameTest, scratch, limit]
    rfl
  have together : selectSlots (selectSlots cleared.advanceUpdateMark pending) ranked =
      { cleared.advanceUpdateMark.markSlots (refreshSelection state isExcluded) with
        selectedScratch := refreshSelection state isExcluded } := by
    rw [show selectSlots (selectSlots cleared.advanceUpdateMark pending) ranked =
      selectSlots cleared.advanceUpdateMark (pending ++ ranked) from
        (List.foldl_append ..).symm, select_slots_marks, shape]
    rfl
  have marked := marked_after_mark clearedBounded inRange
  have bounded := mark_slots_bounded (advance_mark_bounded clearedBounded)
    (refreshSelection state isExcluded)
  refine ⟨_, _, ?_, ?_, bounded⟩
  · unfold selectRefreshMembershipBy
    simp only
    rw [show ({ state with selectedScratch := [] } : LivePredictionSessionState F) = cleared from rfl,
      firstPass, secondPass, together]
    have listed : (fun slot => LivePredictionSessionState.marked
        { cleared.advanceUpdateMark.markSlots (refreshSelection state isExcluded) with
          selectedScratch := refreshSelection state isExcluded } slot) =
        fun slot => decide (slot ∈ refreshSelection state isExcluded) := funext marked
    rw [listed, shape]
    rfl
  · rw [shape]
    exact (set_all_length _ _ _).trans sameLength

end RwkvSrs.LiveSessionMembership
