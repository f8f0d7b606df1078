import RwkvSrs.LiveSessionRank
import Mathlib.Logic.Function.Basic

/-!
What the live session is for, without its arrays: a finite function from slots
to candidate values, the card map, and the target parameters. The rank order
is not part of it, because it is determined by the values. A session operation
is a few writes, appends and removals of this index.
-/

namespace RwkvSrs.LiveSessionIndex

open Std RwkvSrs.LiveTypes RwkvSrs.LiveSessionState RwkvSrs.LiveSessionRank
open RwkvSrs.KeyedOrder SessionFloat

set_option autoImplicit false
set_option linter.unusedSectionVars false

structure LiveIndex (F : Type) where
  token : UInt64
  order : LiveOrder
  count : Nat
  value : Nat → LiveCandidateValue F
  slotByCardId : ExtTreeMap Int64 Nat
  retentionExtra : F
  targetTimestampSeconds : F
  targetDayOffset : F

variable {F : Type} [SessionFloat F]

/-- The value read beyond the last slot. -/
def blankValue : LiveCandidateValue F where
  candidate := blankCandidate
  prediction := nan
  normalTarget := nan
  intradayTarget := nan
  tieBreaker := 0
  randomKey := 0
  status := .removed
  eligible := false

/-- A value with its cached flag recomputed. -/
def freshValue (retentionExtra : F) (value : LiveCandidateValue F) : LiveCandidateValue F :=
  { value with eligible := valueEligible retentionExtra value }

def FlagFresh (retentionExtra : F) (value : LiveCandidateValue F) : Prop :=
  value.eligible = valueEligible retentionExtra value

instance (retentionExtra : F) (value : LiveCandidateValue F) :
    Decidable (FlagFresh retentionExtra value) :=
  inferInstanceAs (Decidable (_ = _))

theorem flag_fresh_of_unusable (retentionExtra : F) {value : LiveCandidateValue F}
    (unusable : value.status.predictionIsUsable = false) (off : value.eligible = false) :
    FlagFresh retentionExtra value := by
  simp [FlagFresh, valueEligible, unusable, off]

theorem fresh_value_fresh (retentionExtra : F) (value : LiveCandidateValue F) :
    FlagFresh retentionExtra (freshValue retentionExtra value) := rfl

theorem fresh_value_of_fresh {retentionExtra : F} {value : LiveCandidateValue F}
    (fresh : FlagFresh retentionExtra value) : freshValue retentionExtra value = value := by
  unfold freshValue
  rw [← show value.eligible = valueEligible retentionExtra value from fresh]

theorem fresh_value_blank (retentionExtra : F) :
    freshValue retentionExtra (blankValue : LiveCandidateValue F) = blankValue :=
  fresh_value_of_fresh (flag_fresh_of_unusable retentionExtra rfl rfl)

namespace LiveIndex

variable (index : LiveIndex F)

def Live (slot : Nat) : Prop := (index.value slot).status ≠ .removed

instance (slot : Nat) : Decidable (index.Live slot) := inferInstanceAs (Decidable (_ ≠ _))

def card (slot : Nat) : Int64 := (index.value slot).candidate.cardId

def rank (slot : Nat) : SlotKey := valueKey index.order (index.value slot)

def write (slot : Nat) (value : LiveCandidateValue F) : LiveIndex F :=
  { index with value := Function.update index.value slot value }

def append (value : LiveCandidateValue F) : LiveIndex F :=
  { index with
    count := index.count + 1
    value := Function.update index.value index.count value
    slotByCardId := index.slotByCardId.insert value.candidate.cardId index.count }

def unmap (cardId : Int64) : LiveIndex F :=
  { index with slotByCardId := index.slotByCardId.erase cardId }

def map (cardId : Int64) (slot : Nat) : LiveIndex F :=
  { index with slotByCardId := index.slotByCardId.insert cardId slot }

def retimed (retentionExtra targetTimestampSeconds targetDayOffset : F) : LiveIndex F :=
  { index with
    retentionExtra := retentionExtra
    targetTimestampSeconds := targetTimestampSeconds
    targetDayOffset := targetDayOffset }

def reflagged : LiveIndex F :=
  { index with value := fun slot => freshValue index.retentionExtra (index.value slot) }

/-- The rank order: the listing of the live slots by strictly increasing rank. -/
structure Ordered (slots : List Nat) : Prop where
  ranked : Ranked index.rank slots
  listed : ∀ slot, slot ∈ slots ↔ index.Live slot

/-- No value beyond the last slot, and the map finds exactly the live slots. -/
structure Mapped : Prop where
  blank : ∀ slot, index.count ≤ slot → index.value slot = blankValue
  mapped : ∀ cardId slot,
    index.slotByCardId[cardId]? = some slot ↔ index.Live slot ∧ index.card slot = cardId

def Fresh : Prop := ∀ slot, FlagFresh index.retentionExtra (index.value slot)

variable {index}

theorem ordered_unique {left right : List Nat} (leftOrdered : index.Ordered left)
    (rightOrdered : index.Ordered right) : left = right :=
  ranked_unique leftOrdered.ranked rightOrdered.ranked fun slot =>
    (leftOrdered.listed slot).trans (rightOrdered.listed slot).symm

theorem ordered_congr {other : LiveIndex F} {slots : List Nat} (ordered : index.Ordered slots)
    (sameRank : ∀ slot, index.Live slot → other.rank slot = index.rank slot)
    (sameLive : ∀ slot, other.Live slot ↔ index.Live slot) : other.Ordered slots where
  ranked := ranked_congr
    (fun slot member => (sameRank slot ((ordered.listed slot).mp member)).symm) ordered.ranked
  listed slot := (ordered.listed slot).trans (sameLive slot).symm

theorem live_in_range (mapped : index.Mapped) {slot : Nat} (live : index.Live slot) :
    slot < index.count := by
  by_contra outside
  apply live
  rw [mapped.blank slot (by omega)]
  rfl

theorem live_of_mapped (mapped : index.Mapped) {cardId : Int64} {slot : Nat}
    (found : index.slotByCardId[cardId]? = some slot) : index.Live slot :=
  ((mapped.mapped cardId slot).mp found).1

theorem card_of_mapped (mapped : index.Mapped) {cardId : Int64} {slot : Nat}
    (found : index.slotByCardId[cardId]? = some slot) : index.card slot = cardId :=
  ((mapped.mapped cardId slot).mp found).2

theorem live_slot_unique (mapped : index.Mapped) {left right : Nat} (leftLive : index.Live left)
    (rightLive : index.Live right) (sameCard : index.card left = index.card right) :
    left = right := by
  have leftFound := (mapped.mapped _ left).mpr ⟨leftLive, rfl⟩
  have rightFound := (mapped.mapped _ right).mpr ⟨rightLive, sameCard.symm⟩
  exact Option.some.inj (leftFound.symm.trans rightFound)

theorem rank_separates (mapped : index.Mapped) {left right : Nat} (leftLive : index.Live left)
    (rightLive : index.Live right) (sameRank : index.rank left = index.rank right) :
    left = right :=
  live_slot_unique mapped leftLive rightLive (value_key_card sameRank)

@[simp] theorem write_value (slot : Nat) (value : LiveCandidateValue F) :
    (index.write slot value).value = Function.update index.value slot value := rfl

@[simp] theorem append_value (value : LiveCandidateValue F) :
    (index.append value).value = Function.update index.value index.count value := rfl

theorem write_write (slot : Nat) (first second : LiveCandidateValue F) :
    (index.write slot first).write slot second = index.write slot second := by
  unfold write
  simp only [Function.update_idem]

theorem write_mapped (mapped : index.Mapped) {slot : Nat} {value : LiveCandidateValue F}
    (live : index.Live slot) (kept : value.status ≠ .removed)
    (sameCard : value.candidate.cardId = index.card slot) : (index.write slot value).Mapped where
  blank other outside := by
    have inRange := live_in_range mapped live
    change index.count ≤ other at outside
    rw [write_value, Function.update_of_ne (by omega), mapped.blank other outside]
  mapped cardId other := by
    rw [show (index.write slot value).slotByCardId = index.slotByCardId from rfl, mapped.mapped]
    by_cases same : other = slot
    · subst same
      simp only [Live, card, write_value, Function.update_self, sameCard, kept, ne_eq,
        not_false_eq_true, true_and]
      exact ⟨fun both => both.2, fun cardSame => ⟨live, cardSame⟩⟩
    · simp only [Live, card, write_value, Function.update_of_ne same]

theorem remove_mapped (mapped : index.Mapped) {slot : Nat} {value : LiveCandidateValue F}
    (live : index.Live slot) (removed : value.status = .removed) :
    ((index.write slot value).unmap (index.card slot)).Mapped where
  blank other outside := by
    have inRange := live_in_range mapped live
    change index.count ≤ other at outside
    change Function.update index.value slot value other = blankValue
    rw [Function.update_of_ne (by omega), mapped.blank other outside]
  mapped cardId other := by
    change (index.slotByCardId.erase (index.card slot))[cardId]? = some other ↔
      (Function.update index.value slot value other).status ≠ .removed ∧
        (Function.update index.value slot value other).candidate.cardId = cardId
    rw [ExtTreeMap.getElem?_erase]
    by_cases sameCard : index.card slot = cardId
    · rw [if_pos (by simp [sameCard])]
      simp only [reduceCtorEq, false_iff, not_and]
      intro otherLive otherCard
      by_cases same : other = slot
      · subst same
        rw [Function.update_self] at otherLive
        exact otherLive removed
      · rw [Function.update_of_ne same] at otherLive otherCard
        exact same (live_slot_unique mapped otherLive live (otherCard.trans sameCard.symm))
    · rw [if_neg (by simp [sameCard]), mapped.mapped]
      by_cases same : other = slot
      · subst same
        simp [sameCard, removed]
      · simp only [Live, card, Function.update_of_ne same]

theorem append_mapped (mapped : index.Mapped) {value : LiveCandidateValue F}
    (kept : value.status ≠ .removed)
    (absent : index.slotByCardId[value.candidate.cardId]? = none) : (index.append value).Mapped where
  blank other outside := by
    change index.count + 1 ≤ other at outside
    change Function.update index.value index.count value other = blankValue
    rw [Function.update_of_ne (by omega), mapped.blank other (by omega)]
  mapped cardId other := by
    change (index.slotByCardId.insert value.candidate.cardId index.count)[cardId]? = some other ↔
      (Function.update index.value index.count value other).status ≠ .removed ∧
        (Function.update index.value index.count value other).candidate.cardId = cardId
    rw [ExtTreeMap.getElem?_insert]
    by_cases same : other = index.count
    · subst same
      rw [Function.update_self]
      by_cases sameCard : value.candidate.cardId = cardId
      · simp [sameCard, kept]
      · rw [if_neg (by simp [sameCard])]
        simp only [sameCard, and_false, iff_false]
        intro found
        have live := live_of_mapped mapped found
        exact absurd (live_in_range mapped live) (lt_irrefl _)
    · rw [Function.update_of_ne same]
      by_cases sameCard : value.candidate.cardId = cardId
      · rw [if_pos (by simp [sameCard])]
        constructor
        · intro equal
          exact absurd (Option.some.inj equal).symm same
        · intro both
          rw [sameCard, (mapped.mapped cardId other).mpr both] at absent
          cases absent
      · rw [if_neg (by simp [sameCard])]
        exact mapped.mapped cardId other

theorem reflagged_mapped (mapped : index.Mapped) : index.reflagged.Mapped where
  blank other outside := by
    change freshValue index.retentionExtra (index.value other) = blankValue
    rw [mapped.blank other outside, fresh_value_blank]
  mapped := mapped.mapped

theorem reflagged_fresh : index.reflagged.Fresh := fun slot =>
  fresh_value_fresh index.retentionExtra (index.value slot)

theorem write_fresh (fresh : index.Fresh) {slot : Nat} {value : LiveCandidateValue F}
    (flag : FlagFresh index.retentionExtra value) : (index.write slot value).Fresh := by
  intro other
  by_cases same : other = slot
  · subst same
    rw [write_value, Function.update_self]
    exact flag
  · rw [write_value, Function.update_of_ne same]
    exact fresh other

theorem append_fresh (fresh : index.Fresh) {value : LiveCandidateValue F}
    (flag : FlagFresh index.retentionExtra value) : (index.append value).Fresh :=
  write_fresh fresh flag

end LiveIndex

end RwkvSrs.LiveSessionIndex
