import RwkvSrs.LiveSessionState
import Mathlib.Data.Prod.Lex
import Mathlib.Order.Compare

/-!
Rank keys as elements of a linear order. The key of a slot is a function of
the slot's value alone, so an operation changes the order of exactly the slots
whose values it changes. A full rebuild and a partial merge both produce the
ranked listing of the slots that are not removed.
-/

namespace RwkvSrs.LiveSessionRank

open RwkvSrs.LiveTypes RwkvSrs.LiveSessionState RwkvSrs.KeyedOrder SessionFloat

set_option autoImplicit false

variable {F : Type} [SessionFloat F]

def valueTarget (value : LiveCandidateValue F) : F :=
  if inUnitRange value.candidate.queriedElapsedDays then value.intradayTarget
  else value.normalTarget

def valueEligible (retentionExtra : F) (value : LiveCandidateValue F) : Bool :=
  value.status.predictionIsUsable && isFinite value.prediction && isFinite (valueTarget value)
    && lt value.prediction (clampUnit (add (valueTarget value) retentionExtra))

theorem calculate_eligibility_value (state : LivePredictionSessionState F) (slot : Nat) :
    state.calculateEligibility slot = valueEligible state.retentionExtra (state.value slot) := rfl

def valueRankValue (order : LiveOrder) (value : LiveCandidateValue F) : Option F :=
  match order with
  | .retrievabilityAscending | .retrievabilityDescending =>
      if isFinite value.prediction then some value.prediction else none
  | .relativeOverdueness =>
      if isFinite value.prediction && isFinite (valueTarget value) then
        let score := div (SessionFloat.max value.prediction scoreFloor)
          (SessionFloat.max (valueTarget value) scoreFloor)
        if isFinite score then some score else none
      else none
  | .random => none

def valueRankKey (order : LiveOrder) (value : LiveCandidateValue F) : RankKey :=
  let ineligible : UInt8 := if value.eligible then 0 else 1
  if order = .random then ⟨ineligible, value.randomKey⟩
  else
    match valueRankValue order value with
    | some score =>
        ⟨ineligible <<< 1,
          if order = .retrievabilityDescending then ~~~(orderedKey score) else orderedKey score⟩
    | none => ⟨ineligible <<< 1 ||| 1, 0⟩

abbrev SlotKey := Nat ×ₗ Nat ×ₗ Nat ×ₗ Int

def rankedKey (key : RankKey) (tieBreaker : UInt64) (cardId : Int64) : SlotKey :=
  toLex (key.rankClass.toNat,
    toLex (key.orderKey.toNat, toLex (tieBreaker.toNat, cardId.toInt)))

def valueKey (order : LiveOrder) (value : LiveCandidateValue F) : SlotKey :=
  rankedKey (valueRankKey order value) value.tieBreaker value.candidate.cardId

def slotKey (state : LivePredictionSessionState F) (slot : Nat) : SlotKey :=
  valueKey state.order (state.value slot)

theorem value_key_card {order : LiveOrder} {left right : LiveCandidateValue F}
    (same : valueKey order left = valueKey order right) :
    left.candidate.cardId = right.candidate.cardId := by
  simp only [valueKey, rankedKey, EmbeddingLike.apply_eq_iff_eq, Prod.mk.injEq] at same
  exact Int64.toInt_inj.mp same.2.2.2

private theorem uint8_compare (left right : UInt8) :
    compare left right = compare left.toNat right.toNat := by
  simp [compare, compareOfLessAndEq, UInt8.lt_iff_toNat_lt, ← UInt8.toNat_inj]

private theorem uint64_compare (left right : UInt64) :
    compare left right = compare left.toNat right.toNat := by
  simp [compare, compareOfLessAndEq, UInt64.lt_iff_toNat_lt, ← UInt64.toNat_inj]

private theorem int64_compare (left right : Int64) :
    compare left right = compare left.toInt right.toInt := by
  simp [compare, compareOfLessAndEq, Int64.lt_iff_toInt_lt, ← Int64.toInt_inj]

theorem ranked_comparison_greater (leftKey rightKey : RankKey) (leftTie rightTie : UInt64)
    (leftCard rightCard : Int64) :
    (leftKey.cmp rightKey).then ((compare leftTie rightTie).then (compare leftCard rightCard)) = .gt ↔
      rankedKey rightKey rightTie rightCard < rankedKey leftKey leftTie leftCard := by
  simp only [RankKey.cmp, uint8_compare, uint64_compare, int64_compare, rankedKey,
    Ordering.then_assoc, Ordering.then_eq_gt, compare_gt_iff_gt, compare_eq_iff_eq,
    Prod.Lex.toLex_lt_toLex]
  grind

theorem compare_slots_greater (state : LivePredictionSessionState F) (left right : Nat) :
    state.compareSlots left right = .gt ↔ slotKey state right < slotKey state left :=
  ranked_comparison_greater _ _ _ _ _ _

/-- An entry whose key was computed from the state it is compared in. -/
def CurrentEntry (state : LivePredictionSessionState F) (entry : RankEntry) : Prop :=
  entry.key = state.rankKey entry.slot

theorem current_entry (state : LivePredictionSessionState F) (slot : Nat) :
    CurrentEntry state ⟨state.rankKey slot, slot⟩ := rfl

theorem compare_entry_greater (state : LivePredictionSessionState F) (left : Nat)
    (entry : RankEntry) (current : CurrentEntry state entry) :
    state.compareSlotToRankEntry left entry = .gt ↔
      slotKey state entry.slot < slotKey state left := by
  unfold LivePredictionSessionState.compareSlotToRankEntry
  rw [show entry.key = _ from current]
  exact ranked_comparison_greater _ _ _ _ _ _

theorem compare_entries_greater (state : LivePredictionSessionState F) (left right : RankEntry)
    (leftCurrent : CurrentEntry state left) (rightCurrent : CurrentEntry state right) :
    state.compareRankEntries left right = .gt ↔
      slotKey state right.slot < slotKey state left.slot := by
  unfold LivePredictionSessionState.compareRankEntries
  rw [show left.key = _ from leftCurrent, show right.key = _ from rightCurrent]
  exact ranked_comparison_greater _ _ _ _ _ _

end RwkvSrs.LiveSessionRank
