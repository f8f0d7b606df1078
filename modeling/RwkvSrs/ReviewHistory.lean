import Mathlib.Data.List.Dedup
import RwkvSrs.FeatureScaling
import RwkvSrs.ReviewInput

/-!
What a history of reviews says about its cards, and the feature state that
follows it. A history lists its reviews with the latest one first, so a review
is added at the head and everything said here is by recursion on what came
before it.
-/

namespace RwkvSrs.ReviewHistory

open FeatureScaling ReviewInput Float64Ops

set_option autoImplicit false

variable {F : Type}

/-- Distinct cards seen so far. -/
def cardsSeen (cards : List Int64) : Nat := cards.dedup.length

/-- The position of the latest review of a card, counted from the first review. -/
def lastIndex : List Int64 → Int64 → Option Nat
  | [], _ => none
  | card :: earlier, cardId => if card = cardId then some earlier.length else lastIndex earlier cardId

/-- How many cards had been seen once the latest review of a card was done. -/
def cardsAtLast : List Int64 → Int64 → Option Nat
  | [], _ => none
  | card :: earlier, cardId =>
      if card = cardId then some (cardsSeen (card :: earlier)) else cardsAtLast earlier cardId

theorem cards_seen_cons (card : Int64) (earlier : List Int64) :
    cardsSeen (card :: earlier) = cardsSeen earlier + if card ∈ earlier then 0 else 1 := by
  rw [cardsSeen, cardsSeen]
  by_cases seen : card ∈ earlier
  · rw [List.dedup_cons_of_mem seen, if_pos seen, Nat.add_zero]
  · rw [List.dedup_cons_of_notMem seen, if_neg seen, List.length_cons]

theorem cards_seen_le (cards : List Int64) : cardsSeen cards ≤ cards.length := by
  induction cards with
  | nil => exact Nat.le_refl 0
  | cons card earlier ih =>
      rw [cards_seen_cons, List.length_cons]
      split
      · omega
      · omega

theorem last_index_some (cards : List Int64) (cardId : Int64) :
    (lastIndex cards cardId).isSome ↔ cardId ∈ cards := by
  induction cards with
  | nil => simp [lastIndex]
  | cons card earlier ih =>
      rw [lastIndex, List.mem_cons]
      by_cases here : card = cardId
      · simp [here]
      · rw [if_neg here, ih]
        simp [Ne.symm here]

theorem cards_at_last_some (cards : List Int64) (cardId : Int64) :
    (cardsAtLast cards cardId).isSome ↔ cardId ∈ cards := by
  induction cards with
  | nil => simp [cardsAtLast]
  | cons card earlier ih =>
      rw [cardsAtLast, List.mem_cons]
      by_cases here : card = cardId
      · simp [here]
      · rw [if_neg here, ih]
        simp [Ne.symm here]

theorem last_index_lt {cards : List Int64} {cardId : Int64} {index : Nat}
    (last : lastIndex cards cardId = some index) : index < cards.length := by
  induction cards with
  | nil => cases last
  | cons card earlier ih =>
      rw [lastIndex] at last
      rw [List.length_cons]
      split at last
      · cases last
        omega
      · have before := ih last
        omega

/-- Two cards were never reviewed last at the same position. -/
theorem last_index_card {cards : List Int64} {first second : Int64} {index : Nat}
    (firstLast : lastIndex cards first = some index)
    (secondLast : lastIndex cards second = some index) : first = second := by
  induction cards with
  | nil => cases firstLast
  | cons card earlier ih =>
      rw [lastIndex] at firstLast secondLast
      split at firstLast
      · rename_i firstHere
        split at secondLast
        · rename_i secondHere
          exact firstHere.symm.trans secondHere
        · cases firstLast
          have before := last_index_lt secondLast
          omega
      · split at secondLast
        · cases secondLast
          have before := last_index_lt firstLast
          omega
        · exact ih firstLast secondLast

theorem cards_at_last_bounds {cards : List Int64} {cardId : Int64} {count : Nat}
    (last : cardsAtLast cards cardId = some count) : 0 < count ∧ count ≤ cardsSeen cards := by
  induction cards with
  | nil => cases last
  | cons card earlier ih =>
      rw [cardsAtLast] at last
      split at last
      · cases last
        have member : card ∈ (card :: earlier).dedup := List.mem_dedup.mpr List.mem_cons_self
        exact ⟨List.length_pos_of_mem member, Nat.le_refl _⟩
      · have before := ih last
        rw [cards_seen_cons]
        exact ⟨before.1, by omega⟩

/-- The latest review first. -/
abbrev History (F : Type) := List (ReviewInput F)

def cardsOf (history : History F) : List Int64 := history.map ReviewInput.cardId

section Days

variable [Float64Ops F]

/-- The day of the first review is where the days are counted from. -/
def firstDay : History F → Option F
  | [] => none
  | _ :: _ => some 0.0

def reviewDay (earlier : History F) (input : ReviewInput F) : F :=
  match firstDay earlier with
  | some first => input.dayOffset - first
  | none => 0.0

def lastDay : History F → Option F
  | [] => none
  | input :: earlier => some (reviewDay earlier input)

def today : History F → F
  | [] => -1.0
  | input :: earlier =>
      if eq (reviewDay earlier input) (today earlier) then today earlier
      else reviewDay earlier input

def sameDay (earlier : History F) (input : ReviewInput F) : Bool :=
  eq (reviewDay earlier input) (today earlier)

/-- Reviews of the current day after its first one. -/
def reviewsToday : History F → Nat
  | [] => 0
  | input :: earlier => if sameDay earlier input then reviewsToday earlier + 1 else 0

def newCardsToday : History F → Nat
  | [] => 0
  | input :: earlier =>
      (if sameDay earlier input then newCardsToday earlier else 0) +
        if input.cardId ∈ cardsOf earlier then 0 else 1

/-- The times of a card's reviews, summed in their order. -/
def elapsedTotal (elapsed : ReviewInput F → F) : History F → Int64 → Option F
  | [], _ => none
  | input :: earlier, cardId =>
      if input.cardId = cardId then
        some ((elapsedTotal elapsed earlier cardId).getD 0.0 + elapsed input)
      else elapsedTotal elapsed earlier cardId

/-- The day a card was first reviewed on. -/
def firstDayOf : History F → Int64 → Option F
  | [], _ => none
  | input :: earlier, cardId =>
      if input.cardId = cardId ∧ input.cardId ∉ cardsOf earlier then
        some (reviewDay earlier input - (firstDay earlier).getD (reviewDay earlier input))
      else firstDayOf earlier cardId

end Days

end RwkvSrs.ReviewHistory
