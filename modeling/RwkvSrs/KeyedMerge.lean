import Std.Data.ExtTreeMap
import Mathlib.Data.List.Basic
import Mathlib.Data.List.Nodup
import Mathlib.Data.List.Perm.Basic

/-!
Walking two key-ordered maps as one. Each step takes the smaller of the two
front keys; the walk stops at a key that both maps hold. Where the maps share no
key, every entry of both is visited once, in ascending order.
-/

namespace RwkvSrs.KeyedMerge

open Std

set_option autoImplicit false

variable {Key Left Right : Type} [Ord Key]

/-- The entries before the first key that both sides hold, and that key. -/
def merge : List (Key × Left) → List (Key × Right) → List (Key × (Left ⊕ Right)) × Option Key
  | [], right => (right.map fun entry => (entry.1, .inr entry.2), none)
  | left, [] => (left.map fun entry => (entry.1, .inl entry.2), none)
  | (leftKey, leftValue) :: left, (rightKey, rightValue) :: right =>
      match compare leftKey rightKey with
      | .lt =>
          let (merged, shared) := merge left ((rightKey, rightValue) :: right)
          ((leftKey, .inl leftValue) :: merged, shared)
      | .gt =>
          let (merged, shared) := merge ((leftKey, leftValue) :: left) right
          ((rightKey, .inr rightValue) :: merged, shared)
      | .eq => ([], some leftKey)
termination_by left right => left.length + right.length

def Ascending {Value : Type} (entries : List (Key × Value)) : Prop :=
  entries.Pairwise fun first second => compare first.1 second.1 = .lt

def tagged (left : List (Key × Left)) (right : List (Key × Right)) : List (Key × (Left ⊕ Right)) :=
  left.map (fun entry => (entry.1, .inl entry.2)) ++
    right.map fun entry => (entry.1, .inr entry.2)

theorem merge_tagged {left : List (Key × Left)} {right : List (Key × Right)}
    (apart : (merge left right).2 = none) : (merge left right).1.Perm (tagged left right) := by
  fun_induction merge left right with
  | case1 right => exact List.Perm.refl _
  | case2 left =>
      rw [tagged, List.map_nil, List.append_nil]
  | case3 leftKey leftValue left rightKey rightValue right less merged shared same ih =>
      rw [same] at ih
      rw [tagged, List.map_cons, List.cons_append]
      exact List.Perm.cons _ (ih apart)
  | case4 leftKey leftValue left rightKey rightValue right greater merged shared same ih =>
      rw [same] at ih
      refine (List.Perm.cons _ (ih apart)).trans ?_
      rw [tagged, tagged, List.map_cons (l := right)]
      exact List.perm_middle.symm
  | case5 leftKey leftValue left rightKey rightValue right equal => cases apart

theorem merge_length {left : List (Key × Left)} {right : List (Key × Right)}
    (apart : (merge left right).2 = none) :
    (merge left right).1.length = left.length + right.length := by
  rw [(merge_tagged apart).length_eq, tagged, List.length_append, List.length_map,
    List.length_map]

theorem mem_merge {left : List (Key × Left)} {right : List (Key × Right)}
    (apart : (merge left right).2 = none) {entry : Key × (Left ⊕ Right)} :
    entry ∈ (merge left right).1 ↔
      (∃ value, entry.2 = .inl value ∧ (entry.1, value) ∈ left) ∨
        ∃ value, entry.2 = .inr value ∧ (entry.1, value) ∈ right := by
  obtain ⟨key, value⟩ := entry
  rw [(merge_tagged apart).mem_iff, tagged, List.mem_append]
  constructor
  · rintro (member | member)
    · obtain ⟨found, inside, same⟩ := List.mem_map.mp member
      cases same
      exact Or.inl ⟨found.2, rfl, inside⟩
    · obtain ⟨found, inside, same⟩ := List.mem_map.mp member
      cases same
      exact Or.inr ⟨found.2, rfl, inside⟩
  · rintro (⟨found, same, inside⟩ | ⟨found, same, inside⟩)
    · exact Or.inl (List.mem_map.mpr ⟨_, inside, by rw [← same]⟩)
    · exact Or.inr (List.mem_map.mpr ⟨_, inside, by rw [← same]⟩)

section Ordered

variable [TransOrd Key] {left : List (Key × Left)} {right : List (Key × Right)}

theorem merge_ascending (leftAscending : Ascending left) (rightAscending : Ascending right)
    (apart : (merge left right).2 = none) : Ascending (merge left right).1 := by
  fun_induction merge left right with
  | case1 right => exact List.pairwise_map.mpr rightAscending
  | case2 left => exact List.pairwise_map.mpr leftAscending
  | case3 leftKey leftValue left rightKey rightValue right less merged shared same ih =>
      rw [same] at ih
      obtain ⟨leftFirst, leftRest⟩ := List.pairwise_cons.mp leftAscending
      refine List.pairwise_cons.mpr ⟨?_, ih leftRest rightAscending apart⟩
      intro entry member
      have merged := congrArg Prod.snd same
      rcases (mem_merge (merged.trans apart)).mp (by rw [same]; exact member) with
        ⟨value, _, inside⟩ | ⟨value, _, inside⟩
      · exact leftFirst _ inside
      · rcases List.mem_cons.mp inside with here | there
        · rw [congrArg Prod.fst here]
          exact less
        · exact TransCmp.lt_trans less ((List.pairwise_cons.mp rightAscending).1 _ there)
  | case4 leftKey leftValue left rightKey rightValue right greater merged shared same ih =>
      rw [same] at ih
      obtain ⟨rightFirst, rightRest⟩ := List.pairwise_cons.mp rightAscending
      refine List.pairwise_cons.mpr ⟨?_, ih leftAscending rightRest apart⟩
      intro entry member
      have merged := congrArg Prod.snd same
      have less := OrientedCmp.lt_of_gt greater
      rcases (mem_merge (merged.trans apart)).mp (by rw [same]; exact member) with
        ⟨value, _, inside⟩ | ⟨value, _, inside⟩
      · rcases List.mem_cons.mp inside with here | there
        · rw [congrArg Prod.fst here]
          exact less
        · exact TransCmp.lt_trans less ((List.pairwise_cons.mp leftAscending).1 _ there)
      · exact rightFirst _ inside
  | case5 leftKey leftValue left rightKey rightValue right equal => cases apart

theorem ascending_keys_nodup {Value : Type} {entries : List (Key × Value)}
    (ascending : Ascending entries) : (entries.map Prod.fst).Nodup := by
  apply List.pairwise_map.mpr
  refine List.Pairwise.imp ?_ ascending
  intro first second less same
  have equal : compare second.1 second.1 = .eq := ReflCmp.compare_self
  rw [same, equal] at less
  cases less

end Ordered

/-- Maps that share no key are walked to the end. -/
theorem merge_apart [LawfulEqOrd Key] {left : List (Key × Left)} {right : List (Key × Right)}
    (apart : ∀ first ∈ left, ∀ second ∈ right, first.1 ≠ second.1) :
    (merge left right).2 = none := by
  fun_induction merge left right with
  | case1 right => rfl
  | case2 left => rfl
  | case3 leftKey leftValue left rightKey rightValue right less merged shared same ih =>
      rw [same] at ih
      exact ih fun first member => apart first (List.mem_cons_of_mem _ member)
  | case4 leftKey leftValue left rightKey rightValue right greater merged shared same ih =>
      rw [same] at ih
      exact ih fun first member second inside =>
        apart first member second (List.mem_cons_of_mem _ inside)
  | case5 leftKey leftValue left rightKey rightValue right equal =>
      exact absurd (LawfulEqCmp.compare_eq_iff_eq.mp equal)
        (apart (leftKey, leftValue) (by simp) (rightKey, rightValue) (by simp))

/-- The walk stops at a key that both maps hold. -/
theorem merge_stops [LawfulEqOrd Key] {left : List (Key × Left)} {right : List (Key × Right)}
    {key : Key} (stopped : (merge left right).2 = some key) :
    (∃ first ∈ left, first.1 = key) ∧ ∃ second ∈ right, second.1 = key := by
  fun_induction merge left right with
  | case1 right => cases stopped
  | case2 left => cases stopped
  | case3 leftKey leftValue left rightKey rightValue right less merged shared same ih =>
      rw [same] at ih
      obtain ⟨⟨first, member, found⟩, inRight⟩ := ih stopped
      exact ⟨⟨first, List.mem_cons_of_mem _ member, found⟩, inRight⟩
  | case4 leftKey leftValue left rightKey rightValue right greater merged shared same ih =>
      rw [same] at ih
      obtain ⟨inLeft, second, member, found⟩ := ih stopped
      exact ⟨inLeft, second, List.mem_cons_of_mem _ member, found⟩
  | case5 leftKey leftValue left rightKey rightValue right equal =>
      cases stopped
      exact ⟨⟨_, List.mem_cons_self, rfl⟩, _, List.mem_cons_self,
        (LawfulEqCmp.compare_eq_iff_eq.mp equal).symm⟩

/-- It stops exactly when they share a key. -/
theorem merge_ends [TransOrd Key] [LawfulEqOrd Key] {left : List (Key × Left)}
    {right : List (Key × Right)} (leftAscending : Ascending left)
    (rightAscending : Ascending right) :
    (merge left right).2 = none ↔ ∀ first ∈ left, ∀ second ∈ right, first.1 ≠ second.1 := by
  constructor
  · intro apart first inLeft second inRight same
    have nodup := ascending_keys_nodup (merge_ascending leftAscending rightAscending apart)
    have one : (first.1, Sum.inl first.2) ∈ (merge left right).1 :=
      (mem_merge apart).mpr (.inl ⟨first.2, rfl, inLeft⟩)
    have two : (first.1, Sum.inr second.2) ∈ (merge left right).1 :=
      (mem_merge apart).mpr (.inr ⟨second.2, rfl, by rw [same]; exact inRight⟩)
    have equal := List.inj_on_of_nodup_map nodup one two rfl
    cases congrArg Prod.snd equal
  · exact merge_apart

end RwkvSrs.KeyedMerge
