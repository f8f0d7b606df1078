import RwkvSrs.LiveSessionMembership
import RwkvSrs.LiveSessionOperations

/-!
The invariant of a native session, and what each operation does to the
abstract index. An operation is described once, as index writes; the
invariant then follows from the write lemmas and from order maintenance.
-/

namespace RwkvSrs.LiveSessionInvariant

open Std RwkvSrs.LiveTypes RwkvSrs.LiveSessionState RwkvSrs.LiveSessionSelection
open RwkvSrs.LiveSessionRank RwkvSrs.LiveSessionIndex RwkvSrs.LiveSessionSlots
open RwkvSrs.LiveSessionOrder RwkvSrs.LiveSessionMembership RwkvSrs.LiveSessionOperations
open SessionFloat

set_option autoImplicit false
set_option linter.unusedSectionVars false

variable {F : Type} [SessionFloat F]

/-- Sized slot arrays, bounded marks, an exact card map. -/
structure SlotsExact (state : LivePredictionSessionState F) : Prop where
  sized : SlotsSized state
  bounded : MarksBounded state
  mapped : (indexOf state).Mapped

/-- `flagged` says whether the cached flags are known to be current. -/
structure SessionExact (flagged : Prop) (state : LivePredictionSessionState F) : Prop
    extends SlotsExact state where
  ordered : (indexOf state).Ordered state.orderedSlots
  fresh : flagged → (indexOf state).Fresh

variable {flagged : Prop}

theorem exact_live_range {state : LivePredictionSessionState F} (exact : SlotsExact state)
    {slot : Nat} (live : (indexOf state).Live slot) : slot < state.candidateCount :=
  LiveIndex.live_in_range exact.mapped live

/-- The order update after a change of the listed slots completes the invariant. -/
theorem exact_after_update {state : LivePredictionSessionState F} (slots : SlotsExact state)
    (fresh : flagged → (indexOf state).Fresh) {before : LiveIndex F}
    (ordered : before.Ordered state.orderedSlots) (sameOrder : before.order = state.order)
    {updatedSlots : List Nat} (distinct : updatedSlots.Nodup)
    (inRange : ∀ slot ∈ updatedSlots, slot < state.candidateCount)
    (unchanged : ∀ slot, slot ∉ updatedSlots → before.value slot = state.value slot) :
    SessionExact flagged (state.updateOrderAfterRefresh updatedSlots false) where
  sized := update_order_sized slots.sized updatedSlots false
  bounded := update_order_bounded slots.bounded updatedSlots false
  mapped := (index_update_order state updatedSlots false).symm ▸ slots.mapped
  ordered := (index_update_order state updatedSlots false).symm ▸
    update_order_ordered slots.sized slots.bounded slots.mapped ordered sameOrder distinct inRange
      unchanged
  fresh := (index_update_order state updatedSlots false).symm ▸ fresh

theorem exact_after_rebuild {state : LivePredictionSessionState F} (slots : SlotsExact state)
    (fresh : flagged → (indexOf state).Fresh) : SessionExact flagged state.rebuildOrder where
  sized := slots.sized
  bounded := slots.bounded
  mapped := slots.mapped
  ordered := rebuild_ordered slots.sized slots.mapped
  fresh := fresh

/-- The value an answer leaves in its slot. -/
def answeredValue (value : LiveCandidateValue F) (targetTimestampSeconds : F)
    (input : ReviewInput F) (requeueAfterPrediction : Bool) : LiveCandidateValue F :=
  { value with
    candidate := answeredCandidate value.candidate targetTimestampSeconds input
    prediction := nan
    status :=
      if requeueAfterPrediction then
        if value.status.isExcluded then .excludedPendingRefresh else .pendingRefresh
      else .removed
    eligible := false }

/-- `apply_answer` before the generation and the order are updated. -/
def answeredSlots (state : LivePredictionSessionState F) (slot : Nat) (input : ReviewInput F)
    (requeueAfterPrediction : Bool) : LivePredictionSessionState F :=
  { state with
    candidates := state.candidates.set slot
      (answeredCandidate (state.candidateAt slot) state.targetTimestampSeconds input)
    predictions := state.predictions.set slot nan
    eligibilities := state.eligibilities.set slot false
    statuses := state.statuses.set slot
      (answeredValue (state.value slot) state.targetTimestampSeconds input
        requeueAfterPrediction).status
    slotByCardId :=
      if requeueAfterPrediction then state.slotByCardId
      else state.slotByCardId.erase (state.candidateAt slot).cardId }

theorem apply_answer_slots (state : LivePredictionSessionState F) (slot : Nat)
    (input : ReviewInput F) (requeueAfterPrediction : Bool) :
    applyAnswer state slot input requeueAfterPrediction =
      (answeredSlots state slot input
        requeueAfterPrediction).advanceGeneration.updateOrderAfterRefresh [slot] false := by
  cases requeueAfterPrediction <;> rfl

theorem index_answered_slots {state : LivePredictionSessionState F} (sized : SlotsSized state)
    {slot : Nat} (inRange : slot < state.candidateCount) (input : ReviewInput F)
    (requeueAfterPrediction : Bool) :
    indexOf (answeredSlots state slot input requeueAfterPrediction) =
      let written := (indexOf state).write slot
        (answeredValue (state.value slot) state.targetTimestampSeconds input requeueAfterPrediction)
      if requeueAfterPrediction then written else written.unmap ((indexOf state).card slot) := by
  obtain ⟨predictions, _, _, _, _, statuses, eligibilities, _⟩ := sized
  change slot < state.candidates.length at inRange
  have read : ∀ other, (answeredSlots state slot input requeueAfterPrediction).value other =
      if other = slot then answeredValue (state.value slot) state.targetTimestampSeconds input
        requeueAfterPrediction else state.value other := by
    intro other
    simp only [LivePredictionSessionState.value, answeredSlots,
      LivePredictionSessionState.candidateAt, LivePredictionSessionState.prediction,
      LivePredictionSessionState.status, LivePredictionSessionState.eligibility,
      getD_set inRange, getD_set (predictions ▸ inRange), getD_set (statuses ▸ inRange),
      getD_set (eligibilities ▸ inRange)]
    split
    · next same => subst same; rfl
    · rfl
  cases requeueAfterPrediction with
  | true => exact index_of_write read List.length_set rfl
  | false =>
      have written : indexOf { answeredSlots state slot input false with
          slotByCardId := state.slotByCardId } = _ := index_of_write read List.length_set rfl
      exact congrArg (fun index => index.unmap ((indexOf state).card slot)) written

theorem answered_value_fresh (retentionExtra : F) (value : LiveCandidateValue F)
    (targetTimestampSeconds : F) (input : ReviewInput F) (requeueAfterPrediction : Bool) :
    FlagFresh retentionExtra
      (answeredValue value targetTimestampSeconds input requeueAfterPrediction) := by
  apply flag_fresh_of_unusable
  · unfold answeredValue
    cases requeueAfterPrediction with
    | false => rfl
    | true => cases value.status <;> rfl
  · rfl

theorem apply_answer_exact {state : LivePredictionSessionState F} (exact : SessionExact flagged state)
    {slot : Nat} (live : (indexOf state).Live slot) (input : ReviewInput F)
    (requeueAfterPrediction : Bool) :
    SessionExact flagged (applyAnswer state slot input requeueAfterPrediction) := by
  have inRange := exact_live_range exact.toSlotsExact live
  have written := index_answered_slots exact.sized inRange input requeueAfterPrediction
  set answered := answeredSlots state slot input requeueAfterPrediction with answeredDef
  set value := answeredValue (state.value slot) state.targetTimestampSeconds input
    requeueAfterPrediction with valueDef
  have flag : FlagFresh (indexOf state).retentionExtra value := answered_value_fresh _ _ _ _ _
  have mapped : (indexOf answered).Mapped := by
    rw [written]
    cases requeueAfterPrediction with
    | false => exact LiveIndex.remove_mapped exact.mapped live rfl
    | true =>
        refine LiveIndex.write_mapped exact.mapped live ?_ rfl
        rw [valueDef]
        unfold answeredValue
        cases (state.value slot).status <;> simp [CandidateStatus.isExcluded]
  have fresh : flagged → (indexOf answered).Fresh := by
    intro current
    rw [written]
    cases requeueAfterPrediction with
    | false => exact LiveIndex.write_fresh (exact.fresh current) flag
    | true => exact LiveIndex.write_fresh (exact.fresh current) flag
  have sized : SlotsSized answered := by
    obtain ⟨predictions, normal, intraday, ties, randoms, statuses, eligibilities, marks⟩ :=
      exact.sized
    constructor <;> simpa [answered, answeredSlots]
  have unchanged : ∀ other, other ∉ [slot] → state.value other = answered.value other := by
    intro other outside
    have read := congrFun (congrArg LiveIndex.value written) other
    rw [List.mem_singleton] at outside
    refine Eq.trans ?_ read.symm
    cases requeueAfterPrediction with
    | false => exact (Function.update_of_ne outside _ _).symm
    | true => exact (Function.update_of_ne outside _ _).symm
  have sameCount : answered.candidateCount = state.candidateCount := List.length_set
  have slots : SlotsExact answered.advanceGeneration := ⟨sized, exact.bounded, mapped⟩
  have ordered : (indexOf state).Ordered answered.advanceGeneration.orderedSlots := exact.ordered
  rw [apply_answer_slots]
  refine exact_after_update slots fresh ordered rfl (List.nodup_singleton slot) ?_ unchanged
  intro other member
  rw [List.mem_singleton.mp member]
  exact sameCount ▸ inRange

theorem index_apply_answer {state : LivePredictionSessionState F} (sized : SlotsSized state)
    {slot : Nat} (inRange : slot < state.candidateCount) (input : ReviewInput F)
    (requeueAfterPrediction : Bool) :
    indexOf (applyAnswer state slot input requeueAfterPrediction) =
      let written := (indexOf state).write slot
        (answeredValue (state.value slot) state.targetTimestampSeconds input requeueAfterPrediction)
      if requeueAfterPrediction then written else written.unmap ((indexOf state).card slot) := by
  rw [apply_answer_slots, index_update_order]
  exact index_answered_slots sized inRange input requeueAfterPrediction

theorem candidate_slot_ok {state : LivePredictionSessionState F} {cardId : Int64} {slot : Nat}
    (found : state.candidateSlot cardId = .ok slot) : state.slotByCardId[cardId]? = some slot := by
  unfold LivePredictionSessionState.candidateSlot at found
  split at found
  · next mapped => cases found; exact mapped
  · cases found

theorem candidate_slot_live {state : LivePredictionSessionState F}
    (mapped : (indexOf state).Mapped) {cardId : Int64} {slot : Nat}
    (found : state.candidateSlot cardId = .ok slot) :
    (indexOf state).Live slot ∧ (indexOf state).card slot = cardId :=
  (mapped.mapped cardId slot).mp (candidate_slot_ok found)

/-- A status change that keeps the slot live and its prediction as usable as before. -/
theorem set_status_exact {state : LivePredictionSessionState F} (exact : SessionExact flagged state)
    {slot : Nat} (live : (indexOf state).Live slot) {status : CandidateStatus}
    (kept : status ≠ .removed)
    (sameUse : status.predictionIsUsable = (state.status slot).predictionIsUsable) :
    SessionExact flagged (state.setStatus slot status) := by
  have inRange := exact_live_range exact.toSlotsExact live
  have written := index_set_status exact.sized inRange status
  have sameEligible : ∀ retention : F,
      valueEligible retention { state.value slot with status := status } =
        valueEligible retention (state.value slot) := by
    intro retention
    unfold valueEligible
    rw [sameUse]
    rfl
  have sameRank : ∀ other, (indexOf (state.setStatus slot status)).rank other =
      (indexOf state).rank other := by
    intro other
    rw [written]
    unfold LiveIndex.rank
    by_cases same : other = slot
    · subst same
      rw [LiveIndex.write_value, Function.update_self]
      rfl
    · rw [LiveIndex.write_value, Function.update_of_ne same]
      rfl
  have sameLive : ∀ other, (indexOf (state.setStatus slot status)).Live other ↔
      (indexOf state).Live other := by
    intro other
    rw [written]
    unfold LiveIndex.Live
    by_cases same : other = slot
    · subst same
      rw [LiveIndex.write_value, Function.update_self]
      exact ⟨fun _ => live, fun _ => kept⟩
    · rw [LiveIndex.write_value, Function.update_of_ne same]
  exact {
    sized := set_status_sized exact.sized slot status
    bounded := exact.bounded
    mapped := written ▸ LiveIndex.write_mapped exact.mapped live kept rfl
    ordered := LiveIndex.ordered_congr exact.ordered (fun other _ => sameRank other) sameLive
    fresh := by
      intro current
      rw [written]
      apply LiveIndex.write_fresh (exact.fresh current)
      unfold FlagFresh
      rw [sameEligible]
      exact exact.fresh current slot }

theorem excluded_kept {status : CandidateStatus} (kept : status ≠ .removed) :
    status.toExcluded ≠ .removed ∧ status.toExcluded.predictionIsUsable = status.predictionIsUsable := by
  cases status <;> simp_all [CandidateStatus.toExcluded, CandidateStatus.predictionIsUsable]

theorem included_kept {status : CandidateStatus} (kept : status ≠ .removed) :
    status.toIncluded ≠ .removed ∧ status.toIncluded.predictionIsUsable = status.predictionIsUsable := by
  cases status <;> simp_all [CandidateStatus.toIncluded, CandidateStatus.predictionIsUsable]

theorem refreshed_kept {status : CandidateStatus} (kept : status ≠ .removed) :
    status.refreshed ≠ .removed ∧ status.refreshed.predictionIsUsable = true := by
  cases status <;> simp_all [CandidateStatus.refreshed, CandidateStatus.predictionIsUsable]

theorem with_generation_exact {state : LivePredictionSessionState F} (exact : SessionExact flagged state) :
    SessionExact flagged state.advanceGeneration where
  sized := exact.sized
  bounded := exact.bounded
  mapped := exact.mapped
  ordered := exact.ordered
  fresh := exact.fresh

def removedValue (value : LiveCandidateValue F) : LiveCandidateValue F :=
  { value with status := .removed, eligible := false }

/-- The two writes that take a slot out of the session. -/
theorem index_removed {state : LivePredictionSessionState F} (sized : SlotsSized state)
    {slot : Nat} (inRange : slot < state.candidateCount) :
    SlotsSized ((state.setStatus slot .removed).setEligibility slot false) ∧
      indexOf ((state.setStatus slot .removed).setEligibility slot false) =
        (indexOf state).write slot (removedValue (state.value slot)) := by
  have statusSized := set_status_sized sized slot .removed
  have statusWritten := index_set_status sized inRange .removed
  have slotValue : (state.setStatus slot .removed).value slot =
      { state.value slot with status := .removed } := by
    rw [show (state.setStatus slot .removed).value slot = _ from
      congrFun (congrArg LiveIndex.value statusWritten) slot]
    exact Function.update_self _ _ _
  have written := index_set_eligibility statusSized
    (show slot < (state.setStatus slot .removed).candidateCount from inRange) false
  rw [statusWritten, slotValue, LiveIndex.write_write] at written
  exact ⟨set_eligibility_sized statusSized slot false, written⟩

theorem index_remove_slot {state : LivePredictionSessionState F} (sized : SlotsSized state)
    {slot : Nat} (inRange : slot < state.candidateCount) (cardId : Int64) :
    indexOf (removeSlot cardId state slot) =
      ((indexOf state).write slot (removedValue (state.value slot))).unmap cardId := by
  have written := (index_removed sized inRange).2
  unfold removeSlot
  rw [index_update_order]
  exact congrArg (fun index => index.unmap cardId) written

theorem remove_slot_exact {state : LivePredictionSessionState F} (exact : SessionExact flagged state)
    {cardId : Int64} {slot : Nat} (live : (indexOf state).Live slot)
    (sameCard : (indexOf state).card slot = cardId) :
    SessionExact flagged (removeSlot cardId state slot) := by
  have inRange := exact_live_range exact.toSlotsExact live
  have written := index_remove_slot exact.sized inRange cardId
  unfold removeSlot at written ⊢
  rw [index_update_order] at written
  set removed : LivePredictionSessionState F :=
    { (state.setStatus slot .removed).setEligibility slot false with
      slotByCardId := state.slotByCardId.erase cardId } with removedDef
  have mapped : (indexOf removed).Mapped := by
    rw [show indexOf removed = _ from written, ← sameCard]
    exact LiveIndex.remove_mapped exact.mapped live rfl
  have fresh : flagged → (indexOf removed).Fresh := by
    intro current
    rw [show indexOf removed = _ from written]
    have flag : FlagFresh (indexOf state).retentionExtra (removedValue (state.value slot)) :=
      flag_fresh_of_unusable _ rfl rfl
    exact LiveIndex.write_fresh (exact.fresh current) flag
  have unchanged : ∀ other, other ∉ [slot] → state.value other = removed.value other := by
    intro other outside
    rw [List.mem_singleton] at outside
    have read := congrFun (congrArg LiveIndex.value written) other
    exact (read.trans (Function.update_of_ne outside _ _)).symm
  have slots : SlotsExact removed.advanceGeneration :=
    ⟨(index_removed exact.sized inRange).1, exact.bounded, mapped⟩
  have ordered : (indexOf state).Ordered removed.advanceGeneration.orderedSlots := exact.ordered
  refine exact_after_update slots fresh ordered rfl (List.nodup_singleton slot) ?_ unchanged
  intro other member
  rw [List.mem_singleton.mp member]
  exact inRange

end RwkvSrs.LiveSessionInvariant
