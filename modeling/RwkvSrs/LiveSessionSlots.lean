import RwkvSrs.LiveSessionIndex
import Mathlib.Data.List.GetD

/-!
The slot arrays as an index. All per-slot vectors have one length, so each
write of the session is one write or append of the abstract index, and leaves
every other slot alone.
-/

namespace RwkvSrs.LiveSessionSlots

open RwkvSrs.LiveTypes RwkvSrs.LiveSessionState RwkvSrs.LiveSessionRank
open RwkvSrs.LiveSessionIndex SessionFloat

set_option autoImplicit false
set_option linter.unusedSectionVars false

variable {F : Type} [SessionFloat F]

structure EqualLengths (candidates : List (LiveCandidate F))
    (predictions normalTargets intradayTargets : List F) (tieBreakers randomKeys : List UInt64)
    (statuses : List CandidateStatus) (eligibilities : List Bool) (updateMarks : List UInt64) :
    Prop where
  predictions : predictions.length = candidates.length
  normalTargets : normalTargets.length = candidates.length
  intradayTargets : intradayTargets.length = candidates.length
  tieBreakers : tieBreakers.length = candidates.length
  randomKeys : randomKeys.length = candidates.length
  statuses : statuses.length = candidates.length
  eligibilities : eligibilities.length = candidates.length
  updateMarks : updateMarks.length = candidates.length

def SlotsSized (state : LivePredictionSessionState F) : Prop :=
  EqualLengths state.candidates state.predictions state.normalTargets state.intradayTargets
    state.tieBreakers state.randomKeys state.statuses state.eligibilities state.updateMarks

theorem getD_set {Value : Type*} {values : List Value} {slot : Nat} (inRange : slot < values.length)
    (value : Value) (other : Nat) (default : Value) :
    (values.set slot value).getD other default =
      if other = slot then value else values.getD other default := by
  rw [List.getD_eq_getElem?_getD, List.getD_eq_getElem?_getD, List.getElem?_set]
  by_cases same : slot = other
  · rw [if_pos same, if_pos inRange, if_pos same.symm, Option.getD_some]
  · rw [if_neg same, if_neg (Ne.symm same)]

theorem getD_append_single {Value : Type*} (values : List Value) (value : Value) (slot : Nat)
    (default : Value) :
    (values ++ [value]).getD slot default =
      if slot = values.length then value else values.getD slot default := by
  rcases lt_trichotomy slot values.length with before | same | after
  · rw [List.getD_append _ _ _ _ before, if_neg (by omega)]
  · rw [if_pos same, same, List.getD_append_right _ _ _ _ (le_refl _), Nat.sub_self]
    rfl
  · rw [if_neg (by omega), List.getD_eq_default _ _ (by simp; omega),
      List.getD_eq_default _ _ (by omega)]

def indexOf (state : LivePredictionSessionState F) : LiveIndex F where
  token := state.token
  order := state.order
  count := state.candidateCount
  value := state.value
  slotByCardId := state.slotByCardId
  retentionExtra := state.retentionExtra
  targetTimestampSeconds := state.targetTimestampSeconds
  targetDayOffset := state.targetDayOffset

theorem value_out_of_range {state : LivePredictionSessionState F} (sized : SlotsSized state)
    {slot : Nat} (outside : state.candidateCount ≤ slot) : state.value slot = blankValue := by
  unfold LivePredictionSessionState.candidateCount at outside
  unfold LivePredictionSessionState.value LivePredictionSessionState.candidateAt
    LivePredictionSessionState.prediction LivePredictionSessionState.normalTarget
    LivePredictionSessionState.intradayTarget LivePredictionSessionState.tieBreaker
    LivePredictionSessionState.randomKey LivePredictionSessionState.status
    LivePredictionSessionState.eligibility blankValue
  obtain ⟨predictions, normal, intraday, ties, randoms, statuses, eligibilities, _⟩ := sized
  simp only [List.getD_eq_default _ _ outside, List.getD_eq_default _ _ (predictions.trans_le outside),
    List.getD_eq_default _ _ (normal.trans_le outside),
    List.getD_eq_default _ _ (intraday.trans_le outside),
    List.getD_eq_default _ _ (ties.trans_le outside),
    List.getD_eq_default _ _ (randoms.trans_le outside),
    List.getD_eq_default _ _ (statuses.trans_le outside),
    List.getD_eq_default _ _ (eligibilities.trans_le outside)]

theorem index_of_write {state next : LivePredictionSessionState F} {slot : Nat}
    {value : LiveCandidateValue F}
    (read : ∀ other, next.value other = if other = slot then value else state.value other)
    (sameCount : next.candidates.length = state.candidates.length)
    (sameRest : { indexOf next with value := state.value, count := state.candidateCount } =
      indexOf state) :
    indexOf next = (indexOf state).write slot value := by
  have written : next.value = Function.update state.value slot value := by
    funext other
    rw [read, Function.update_apply]
  rw [← sameRest]
  unfold indexOf LivePredictionSessionState.candidateCount
  rw [written, sameCount]
  rfl

section Writes

variable {state : LivePredictionSessionState F} (sized : SlotsSized state)
include sized

theorem set_status_sized (slot : Nat) (status : CandidateStatus) :
    SlotsSized (state.setStatus slot status) := by
  obtain ⟨predictions, normal, intraday, ties, randoms, statuses, eligibilities, marks⟩ := sized
  constructor <;> simpa [LivePredictionSessionState.setStatus]

theorem set_eligibility_sized (slot : Nat) (eligible : Bool) :
    SlotsSized (state.setEligibility slot eligible) := by
  obtain ⟨predictions, normal, intraday, ties, randoms, statuses, eligibilities, marks⟩ := sized
  constructor <;> simpa [LivePredictionSessionState.setEligibility]

theorem restore_value_sized (slot : Nat) (value : LiveCandidateValue F) :
    SlotsSized (state.restoreValue slot value) := by
  obtain ⟨predictions, normal, intraday, ties, randoms, statuses, eligibilities, marks⟩ := sized
  constructor <;> simpa [LivePredictionSessionState.restoreValue]

theorem restore_refresh_value_sized (slot : Nat) (saved : LiveRefreshUndoValue F) :
    SlotsSized (state.restoreRefreshValue slot saved) := by
  obtain ⟨predictions, normal, intraday, ties, randoms, statuses, eligibilities, marks⟩ := sized
  constructor <;> simpa [LivePredictionSessionState.restoreRefreshValue]

theorem append_slot_sized (value : LiveCandidateValue F) :
    SlotsSized (state.appendSlot value) := by
  obtain ⟨predictions, normal, intraday, ties, randoms, statuses, eligibilities, marks⟩ := sized
  constructor <;> simpa [LivePredictionSessionState.appendSlot]

theorem index_set_status {slot : Nat} (inRange : slot < state.candidateCount)
    (status : CandidateStatus) :
    indexOf (state.setStatus slot status) =
      (indexOf state).write slot { state.value slot with status := status } := by
  have bound : slot < state.statuses.length := sized.statuses ▸ inRange
  refine index_of_write ?_ rfl rfl
  intro other
  simp only [LivePredictionSessionState.value, LivePredictionSessionState.setStatus,
    LivePredictionSessionState.status, getD_set bound]
  split
  · next same => subst same; rfl
  · rfl

theorem index_set_eligibility {slot : Nat} (inRange : slot < state.candidateCount)
    (eligible : Bool) :
    indexOf (state.setEligibility slot eligible) =
      (indexOf state).write slot { state.value slot with eligible := eligible } := by
  have bound : slot < state.eligibilities.length := sized.eligibilities ▸ inRange
  refine index_of_write ?_ rfl rfl
  intro other
  simp only [LivePredictionSessionState.value, LivePredictionSessionState.setEligibility,
    LivePredictionSessionState.eligibility, getD_set bound]
  split
  · next same => subst same; rfl
  · rfl

theorem value_restore_value {slot : Nat} (inRange : slot < state.candidateCount)
    (value : LiveCandidateValue F) (other : Nat) :
    (state.restoreValue slot value).value other =
      if other = slot then value else state.value other := by
  obtain ⟨predictions, normal, intraday, ties, randoms, statuses, eligibilities, _⟩ := sized
  change slot < state.candidates.length at inRange
  simp only [LivePredictionSessionState.value, LivePredictionSessionState.restoreValue,
    LivePredictionSessionState.candidateAt, LivePredictionSessionState.prediction,
    LivePredictionSessionState.normalTarget, LivePredictionSessionState.intradayTarget,
    LivePredictionSessionState.tieBreaker, LivePredictionSessionState.randomKey,
    LivePredictionSessionState.status, LivePredictionSessionState.eligibility,
    getD_set inRange, getD_set (predictions ▸ inRange), getD_set (normal ▸ inRange),
    getD_set (intraday ▸ inRange), getD_set (ties ▸ inRange), getD_set (randoms ▸ inRange),
    getD_set (statuses ▸ inRange), getD_set (eligibilities ▸ inRange)]
  split <;> rfl

/-- The map forgets the slot's current card first, then learns the restored one. -/
theorem index_restore_value {slot : Nat} (inRange : slot < state.candidateCount)
    (value : LiveCandidateValue F) :
    indexOf (state.restoreValue slot value) =
      if value.status = .removed then
        ((indexOf state).write slot value).unmap (state.candidateAt slot).cardId
      else (((indexOf state).write slot value).unmap (state.candidateAt slot).cardId).map
        value.candidate.cardId slot := by
  have written : (state.restoreValue slot value).value =
      Function.update state.value slot value := by
    funext other
    rw [value_restore_value sized inRange, Function.update_apply]
  have counted : (state.restoreValue slot value).candidateCount = state.candidateCount :=
    List.length_set
  have erased : slot < state.candidates.length := inRange
  unfold indexOf
  rw [written, counted]
  simp only [LivePredictionSessionState.restoreValue, if_pos erased]
  split <;> rfl

theorem index_restore_refresh_value {slot : Nat} (inRange : slot < state.candidateCount)
    (saved : LiveRefreshUndoValue F) :
    indexOf (state.restoreRefreshValue slot saved) =
      (indexOf state).write slot (saved.restoreFullValue (state.value slot)) := by
  obtain ⟨predictions, normal, intraday, ties, randoms, statuses, eligibilities, _⟩ := sized
  change slot < state.candidates.length at inRange
  refine index_of_write ?_ List.length_set rfl
  intro other
  simp only [LivePredictionSessionState.value, LivePredictionSessionState.restoreRefreshValue,
    LivePredictionSessionState.candidateAt, LivePredictionSessionState.prediction,
    LivePredictionSessionState.status, LivePredictionSessionState.eligibility,
    getD_set inRange, getD_set (predictions ▸ inRange), getD_set (statuses ▸ inRange),
    getD_set (eligibilities ▸ inRange)]
  split
  · next same => subst same; rfl
  · rfl

theorem index_append_slot (value : LiveCandidateValue F) :
    indexOf (state.appendSlot value) = (indexOf state).append value := by
  have written : (state.appendSlot value).value =
      Function.update state.value state.candidates.length value := by
    obtain ⟨predictions, normal, intraday, ties, randoms, statuses, eligibilities, _⟩ := sized
    funext other
    simp only [LivePredictionSessionState.value, LivePredictionSessionState.appendSlot,
      LivePredictionSessionState.candidateAt, LivePredictionSessionState.prediction,
      LivePredictionSessionState.normalTarget, LivePredictionSessionState.intradayTarget,
      LivePredictionSessionState.tieBreaker, LivePredictionSessionState.randomKey,
      LivePredictionSessionState.status, LivePredictionSessionState.eligibility,
      getD_append_single, predictions, normal, intraday, ties, randoms, statuses, eligibilities,
      Function.update_apply]
    split <;> rfl
  have counted : (state.appendSlot value).candidateCount = state.candidateCount + 1 :=
    List.length_append
  unfold indexOf
  rw [written, counted]
  rfl

end Writes

theorem recompute_shape (state : LivePredictionSessionState F) :
    ∃ eligibilities, state.recomputeAllEligibilities =
      { state with eligibilities := eligibilities } := by
  unfold LivePredictionSessionState.recomputeAllEligibilities
  have step : ∀ (slots : List Nat) (current : LivePredictionSessionState F),
      (∃ eligibilities, current = { state with eligibilities := eligibilities }) →
      ∃ eligibilities, slots.foldl (fun current slot => { current with
        eligibilities := current.eligibilities.set slot (current.calculateEligibility slot) })
          current = { state with eligibilities := eligibilities } := by
    intro slots
    induction slots with
    | nil => intro current same; exact same
    | cons slot slots ih =>
        intro current same
        obtain ⟨eligibilities, rfl⟩ := same
        exact ih _ ⟨_, rfl⟩
  exact step _ state ⟨state.eligibilities, rfl⟩

private theorem recompute_swept {state : LivePredictionSessionState F} (sized : SlotsSized state)
    (count : Nat) (inRange : count ≤ state.candidateCount) :
    let swept := (List.range count).foldl (fun current slot => { current with
      eligibilities := current.eligibilities.set slot (current.calculateEligibility slot) }) state
    SlotsSized swept ∧ swept.candidateCount = state.candidateCount ∧
      indexOf swept = { indexOf state with
        value := fun slot => if slot < count then freshValue state.retentionExtra (state.value slot)
          else state.value slot } := by
  induction count with
  | zero => exact ⟨sized, rfl, by simp [indexOf]⟩
  | succ count ih =>
      obtain ⟨sweptSized, sameCount, sweptIndex⟩ := ih (by omega)
      rw [List.range_succ, List.foldl_append]
      set swept := (List.range count).foldl _ state with sweptDef
      have slotRange : count < swept.candidateCount := by omega
      have countValue : swept.value count = state.value count := by
        have sameValue := congrArg (fun index => index.value count) sweptIndex
        simp only [lt_irrefl, if_false] at sameValue
        exact sameValue
      have flag : swept.calculateEligibility count =
          valueEligible state.retentionExtra (state.value count) := by
        have sameExtra := congrArg LiveIndex.retentionExtra sweptIndex
        rw [calculate_eligibility_value, countValue, show swept.retentionExtra = _ from sameExtra]
        rfl
      refine ⟨set_eligibility_sized sweptSized count _, sameCount, ?_⟩
      change indexOf (swept.setEligibility count (swept.calculateEligibility count)) = _
      rw [index_set_eligibility sweptSized slotRange, flag, countValue, sweptIndex]
      unfold LiveIndex.write
      congr 1
      funext slot
      by_cases same : slot = count
      · subst same
        simp [freshValue]
      · rw [Function.update_of_ne same]
        simp only [show slot < count + 1 ↔ slot < count by omega]

theorem recompute_sized {state : LivePredictionSessionState F} (sized : SlotsSized state) :
    SlotsSized state.recomputeAllEligibilities :=
  (recompute_swept sized state.candidateCount (le_refl _)).1

theorem index_recompute {state : LivePredictionSessionState F} (sized : SlotsSized state) :
    indexOf state.recomputeAllEligibilities = (indexOf state).reflagged := by
  have swept := (recompute_swept sized state.candidateCount (le_refl _)).2.2
  have flags : (fun slot => if slot < state.candidateCount then
      freshValue state.retentionExtra (state.value slot) else state.value slot) =
      fun slot => freshValue state.retentionExtra (state.value slot) := by
    funext slot
    split
    · rfl
    · next outside => rw [value_out_of_range sized (by omega), fresh_value_blank]
  rw [flags] at swept
  exact swept

end RwkvSrs.LiveSessionSlots
