import Mathlib.Data.List.TakeWhile
import RwkvSrs.KeyedMerge

/-!
Laying one key-ordered list over another while the lower one is read entry by
entry. Before an entry of the lower list the upper entries below it are taken; an
upper entry of the same key replaces it, and otherwise it is taken only if it is
kept. The result is ascending and holds every upper entry, and the kept lower
entries whose keys the upper list does not have.
-/

namespace RwkvSrs.KeyedOverlay

open Std KeyedMerge

set_option autoImplicit false
set_option linter.unusedSectionVars false

variable {Key Value : Type} [Ord Key]

def isBelow (key : Key) (entry : Key × Value) : Bool := compare entry.1 key == .lt

/-- What is taken at one lower entry, given the upper entries that are not below it, and what is
left of these. -/
def takeAt (kept : Key → Bool) (lower : Key × Value) :
    List (Key × Value) → List (Key × Value) × List (Key × Value)
  | entry :: upper =>
      if compare entry.1 lower.1 = .eq then ([entry], upper)
      else (if kept lower.1 then [lower] else [], entry :: upper)
  | [] => (if kept lower.1 then [lower] else [], [])

/-- What has been taken when the lower list ends, and what is left of the upper one. -/
def overlay (kept : Key → Bool) :
    List (Key × Value) → List (Key × Value) → List (Key × Value) × List (Key × Value)
  | [], upper => ([], upper)
  | lower :: rest, upper =>
      let taken := takeAt kept lower (upper.dropWhile (isBelow lower.1))
      let later := overlay kept rest taken.2
      (upper.takeWhile (isBelow lower.1) ++ (taken.1 ++ later.1), later.2)

def overlaid (kept : Key → Bool) (lower upper : List (Key × Value)) : List (Key × Value) :=
  (overlay kept lower upper).1 ++ (overlay kept lower upper).2

theorem overlaid_nil (kept : Key → Bool) (upper : List (Key × Value)) :
    overlaid kept [] upper = upper := rfl

theorem overlaid_cons (kept : Key → Bool) (lower : Key × Value) (rest upper : List (Key × Value)) :
    overlaid kept (lower :: rest) upper =
      upper.takeWhile (isBelow lower.1) ++
        ((takeAt kept lower (upper.dropWhile (isBelow lower.1))).1 ++
          overlaid kept rest (takeAt kept lower (upper.dropWhile (isBelow lower.1))).2) := by
  simp only [overlaid, overlay, List.append_assoc]

section Ordered

variable [TransOrd Key] [LawfulEqOrd Key]

/-- Every key of a list follows the given one. -/
def Follows (key : Key) (entries : List (Key × Value)) : Prop :=
  ∀ entry ∈ entries, compare key entry.1 = .lt

theorem follows_absent {key : Key} {entries : List (Key × Value)} (follows : Follows key entries) :
    key ∉ entries.map Prod.fst := by
  intro member
  obtain ⟨entry, inside, same⟩ := List.mem_map.mp member
  have less := follows entry inside
  have equal : compare entry.1 entry.1 = .eq := ReflCmp.compare_self
  rw [← same, equal] at less
  cases less

/-- Two ascending listings of the same entries are the same. -/
theorem ascending_unique {first second : List (Key × Value)}
    (firstAscending : Ascending first) (secondAscending : Ascending second)
    (same : ∀ entry, entry ∈ first ↔ entry ∈ second) : first = second := by
  have nodup : ∀ {entries : List (Key × Value)}, Ascending entries → entries.Nodup :=
    fun ascending => (ascending_keys_nodup ascending).of_map Prod.fst
  have permutation : first.Perm second :=
    (List.perm_ext_iff_of_nodup (nodup firstAscending) (nodup secondAscending)).mpr same
  apply List.Perm.eq_of_pairwise ?_ firstAscending secondAscending permutation
  intro left right _ _ less greater
  have opposite := OrientedCmp.gt_of_lt greater
  rw [less] at opposite
  cases opposite

theorem ascending_cons {entry : Key × Value} {entries : List (Key × Value)} :
    Ascending (entry :: entries) ↔ Follows entry.1 entries ∧ Ascending entries :=
  List.pairwise_cons

/-- The upper entries that are not below a key begin at it or follow it. -/
theorem not_below {key : Key} {entries : List (Key × Value)} (ascending : Ascending entries) :
    (∃ entry later, entries.dropWhile (isBelow key) = entry :: later ∧ entry.1 = key ∧
        Follows key later) ∨
      Follows key (entries.dropWhile (isBelow key)) := by
  induction entries with
  | nil =>
      apply Or.inr
      intro entry member
      cases member
  | cons entry entries ih =>
      obtain ⟨first, rest⟩ := ascending_cons.mp ascending
      cases order : compare entry.1 key with
      | lt =>
          have below : isBelow key entry = true := by simp [isBelow, order]
          rw [List.dropWhile_cons, if_pos below]
          exact ih rest
      | eq =>
          have below : ¬ isBelow key entry = true := by simp [isBelow, order]
          have same : entry.1 = key := LawfulEqCmp.compare_eq_iff_eq.mp order
          rw [List.dropWhile_cons, if_neg below]
          apply Or.inl
          refine ⟨entry, entries, rfl, same, ?_⟩
          rw [← same]
          exact first
      | gt =>
          have below : ¬ isBelow key entry = true := by simp [isBelow, order]
          have less := OrientedCmp.lt_of_gt order
          rw [List.dropWhile_cons, if_neg below]
          apply Or.inr
          intro other member
          rcases List.mem_cons.mp member with here | there
          · rw [here]
            exact less
          · exact TransCmp.lt_trans less (first other there)

theorem below_key {key : Key} {entries : List (Key × Value)} {entry : Key × Value}
    (member : entry ∈ entries.takeWhile (isBelow key)) : compare entry.1 key = .lt := by
  have below := List.mem_takeWhile_imp member
  simpa [isBelow] using below

/-- What laying the upper list over the lower one gives. -/
structure Overlaid (kept : Key → Bool) (lower upper out : List (Key × Value)) : Prop where
  ascending : Ascending out
  entries : ∀ entry, entry ∈ out ↔
    entry ∈ upper ∨ (entry ∈ lower ∧ kept entry.1 = true ∧ entry.1 ∉ upper.map Prod.fst)

theorem absent_append {key : Key} {first second : List (Key × Value)} :
    key ∉ (first ++ second).map Prod.fst ↔
      key ∉ first.map Prod.fst ∧ key ∉ second.map Prod.fst := by
  rw [List.map_append, List.mem_append, not_or]

/-- The upper list around the key of a lower entry. -/
structure Around (key : Key) (below here later : List (Key × Value)) : Prop where
  below : ∀ entry ∈ below, compare entry.1 key = .lt
  here : here = [] ∨ ∃ entry, here = [entry] ∧ entry.1 = key
  later : Follows key later

theorem here_key {key : Key} {below here later : List (Key × Value)}
    (around : Around key below here later) : ∀ entry ∈ here, entry.1 = key := by
  intro entry member
  rcases around.here with none | one
  · rw [none] at member
    cases member
  · obtain ⟨found, same, keyed⟩ := one
    rw [same] at member
    rw [List.mem_singleton.mp member]
    exact keyed

/-- A key that follows can only be held behind it. -/
theorem absent_around {key other : Key} {below here later : List (Key × Value)}
    (around : Around key below here later) (follows : compare key other = .lt) :
    other ∉ (below ++ (here ++ later)).map Prod.fst ↔ other ∉ later.map Prod.fst := by
  rw [absent_append, absent_append]
  have notBelow : other ∉ below.map Prod.fst := by
    intro member
    obtain ⟨entry, inside, same⟩ := List.mem_map.mp member
    have less := TransCmp.lt_trans (around.below entry inside) follows
    have equal : compare entry.1 entry.1 = .eq := ReflCmp.compare_self
    rw [← same, equal] at less
    cases less
  have notHere : other ∉ here.map Prod.fst := by
    intro member
    obtain ⟨entry, inside, same⟩ := List.mem_map.mp member
    have equal : compare entry.1 entry.1 = .eq := ReflCmp.compare_self
    rw [← same, ← here_key around entry inside, equal] at follows
    cases follows
  simp only [notBelow, notHere, not_false_eq_true, true_and]

theorem ascending_around {key : Key} {below taken out : List (Key × Value)}
    (isBelow : ∀ entry ∈ below, compare entry.1 key = .lt) (belowAscending : Ascending below)
    (takenOne : taken = [] ∨ ∃ entry, taken = [entry] ∧ entry.1 = key)
    (outFollows : Follows key out) (outAscending : Ascending out) :
    Ascending (below ++ (taken ++ out)) := by
  have tail : Ascending (taken ++ out) := by
    rcases takenOne with none | one
    · rw [none]
      exact outAscending
    · obtain ⟨entry, same, keyed⟩ := one
      rw [same]
      apply ascending_cons.mpr
      rw [keyed]
      exact ⟨outFollows, outAscending⟩
  apply List.pairwise_append.mpr
  refine ⟨belowAscending, tail, ?_⟩
  intro first inside second member
  have less := isBelow first inside
  rcases List.mem_append.mp member with there | there
  · rcases takenOne with none | one
    · rw [none] at there
      cases there
    · obtain ⟨entry, same, keyed⟩ := one
      rw [same] at there
      rw [List.mem_singleton.mp there, keyed]
      exact less
  · exact TransCmp.lt_trans less (outFollows second there)

theorem laid_follows {kept : Key → Bool} {key : Key} {rest later out : List (Key × Value)}
    (laid : Overlaid kept rest later out) (restFollows : Follows key rest)
    (laterFollows : Follows key later) : Follows key out := by
  intro entry member
  rcases (laid.entries entry).mp member with held | held
  · exact laterFollows entry held
  · exact restFollows entry held.1

/-- The upper list has the key: its entry replaces the lower one. -/
theorem overlaid_replaced {kept : Key → Bool} {lower entry : Key × Value}
    {rest below later out : List (Key × Value)} (restFollows : Follows lower.1 rest)
    (around : Around lower.1 below [entry] later) (belowAscending : Ascending below)
    (laid : Overlaid kept rest later out) :
    Overlaid kept (lower :: rest) (below ++ ([entry] ++ later)) (below ++ ([entry] ++ out)) := by
  have keyed := here_key around entry List.mem_cons_self
  apply Overlaid.mk
  · exact ascending_around around.below belowAscending (Or.inr ⟨entry, rfl, keyed⟩)
      (laid_follows laid restFollows around.later) laid.ascending
  · intro other
    have held : lower.1 ∈ (below ++ ([entry] ++ later)).map Prod.fst := by
      rw [← keyed]
      apply List.mem_map_of_mem
      simp
    have fromRest : other ∈ rest → (other.1 ∉ (below ++ ([entry] ++ later)).map Prod.fst ↔
        other.1 ∉ later.map Prod.fst) :=
      fun member => absent_around around (restFollows other member)
    have inOut := laid.entries other
    constructor
    · intro member
      rcases List.mem_append.mp member with inBelow | inTail
      · exact Or.inl (List.mem_append_left _ inBelow)
      · rcases List.mem_append.mp inTail with inEntry | inside
        · exact Or.inl (List.mem_append_right _ (List.mem_append_left _ inEntry))
        · rcases inOut.mp inside with inLater | fromLower
          · exact Or.inl (List.mem_append_right _ (List.mem_append_right _ inLater))
          · obtain ⟨inRest, isKept, absent⟩ := fromLower
            have stillAbsent := (fromRest inRest).mpr absent
            exact Or.inr ⟨List.mem_cons_of_mem lower inRest, isKept, stillAbsent⟩
    · intro either
      rcases either with inUpper | fromLower
      · rcases List.mem_append.mp inUpper with inBelow | inTail
        · exact List.mem_append_left _ inBelow
        · apply List.mem_append_right
          rcases List.mem_append.mp inTail with inEntry | inLater
          · exact List.mem_append_left _ inEntry
          · exact List.mem_append_right _ (inOut.mpr (Or.inl inLater))
      · obtain ⟨inLower, isKept, absent⟩ := fromLower
        rcases List.mem_cons.mp inLower with same | inRest
        · rw [same] at absent
          exact absurd held absent
        · apply List.mem_append_right
          apply List.mem_append_right
          exact inOut.mpr (Or.inr ⟨inRest, isKept, (fromRest inRest).mp absent⟩)

/-- The upper list does not have the key: the lower entry is taken where it is kept. -/
theorem overlaid_alone {kept : Key → Bool} {lower : Key × Value}
    {rest below later out : List (Key × Value)} (restFollows : Follows lower.1 rest)
    (around : Around lower.1 below [] later) (belowAscending : Ascending below)
    (laid : Overlaid kept rest later out) :
    Overlaid kept (lower :: rest) (below ++ later)
      (below ++ ((if kept lower.1 then [lower] else []) ++ out)) := by
  have takenOne : (if kept lower.1 then [lower] else []) = [] ∨
      ∃ entry, (if kept lower.1 then [lower] else []) = [entry] ∧ entry.1 = lower.1 := by
    cases kept lower.1 with
    | true => exact Or.inr ⟨lower, rfl, rfl⟩
    | false => exact Or.inl rfl
  apply Overlaid.mk
  · exact ascending_around around.below belowAscending takenOne
      (laid_follows laid restFollows around.later) laid.ascending
  · intro other
    have alone : lower.1 ∉ (below ++ later).map Prod.fst := by
      apply absent_append.mpr
      apply And.intro _ (follows_absent around.later)
      intro member
      obtain ⟨entry, inside, same⟩ := List.mem_map.mp member
      have less := around.below entry inside
      have equal : compare entry.1 entry.1 = .eq := ReflCmp.compare_self
      rw [← same, equal] at less
      cases less
    have fromRest : other ∈ rest → (other.1 ∉ (below ++ later).map Prod.fst ↔
        other.1 ∉ later.map Prod.fst) :=
      fun member => absent_around around (restFollows other member)
    have inTaken : other ∈ (if kept lower.1 then [lower] else []) ↔
        other = lower ∧ kept lower.1 = true := by
      cases kept lower.1 with
      | true => simp
      | false => simp
    have inOut := laid.entries other
    constructor
    · intro member
      rcases List.mem_append.mp member with inBelow | inTail
      · exact Or.inl (List.mem_append_left _ inBelow)
      · rcases List.mem_append.mp inTail with inHere | inside
        · obtain ⟨same, isKept⟩ := inTaken.mp inHere
          subst same
          exact Or.inr ⟨List.mem_cons_self, isKept, alone⟩
        · rcases inOut.mp inside with inLater | fromLower
          · exact Or.inl (List.mem_append_right _ inLater)
          · obtain ⟨inRest, isKept, absent⟩ := fromLower
            have stillAbsent := (fromRest inRest).mpr absent
            exact Or.inr ⟨List.mem_cons_of_mem lower inRest, isKept, stillAbsent⟩
    · intro either
      rcases either with inUpper | fromLower
      · rcases List.mem_append.mp inUpper with inBelow | inLater
        · exact List.mem_append_left _ inBelow
        · apply List.mem_append_right
          exact List.mem_append_right _ (inOut.mpr (Or.inl inLater))
      · obtain ⟨inLower, isKept, absent⟩ := fromLower
        apply List.mem_append_right
        rcases List.mem_cons.mp inLower with same | inRest
        · subst same
          exact List.mem_append_left _ (inTaken.mpr ⟨rfl, isKept⟩)
        · apply List.mem_append_right
          exact inOut.mpr (Or.inr ⟨inRest, isKept, (fromRest inRest).mp absent⟩)

theorem overlaid_spec {kept : Key → Bool} {lower upper : List (Key × Value)}
    (lowerAscending : Ascending lower) (upperAscending : Ascending upper) :
    Overlaid kept lower upper (overlaid kept lower upper) := by
  induction lower generalizing upper with
  | nil =>
      rw [overlaid_nil]
      apply Overlaid.mk upperAscending
      intro entry
      simp
  | cons lower rest ih =>
      obtain ⟨restFollows, restAscending⟩ := ascending_cons.mp lowerAscending
      rw [overlaid_cons]
      have whole : upper.takeWhile (isBelow lower.1) ++ upper.dropWhile (isBelow lower.1) = upper :=
        List.takeWhile_append_dropWhile
      have parts := List.pairwise_append.mp (whole.symm ▸ upperAscending)
      have belowAscending : Ascending (upper.takeWhile (isBelow lower.1)) := parts.1
      have behindAscending : Ascending (upper.dropWhile (isBelow lower.1)) := parts.2.1
      have below : ∀ entry ∈ upper.takeWhile (isBelow lower.1), compare entry.1 lower.1 = .lt :=
        fun entry member => below_key member
      rcases not_below upperAscending with found | follows
      · obtain ⟨entry, later, behind, keyed, laterFollows⟩ := found
        rw [behind] at behindAscending whole ⊢
        have equal : compare entry.1 lower.1 = .eq := LawfulEqCmp.compare_eq_iff_eq.mpr keyed
        have laid := ih restAscending (ascending_cons.mp behindAscending).2
        have around : Around lower.1 (upper.takeWhile (isBelow lower.1)) [entry] later :=
          ⟨below, Or.inr ⟨entry, rfl, keyed⟩, laterFollows⟩
        have step := overlaid_replaced restFollows around belowAscending laid
        rw [List.singleton_append, whole] at step
        rw [takeAt, if_pos equal]
        exact step
      · have laid := ih restAscending behindAscending
        have around : Around lower.1 (upper.takeWhile (isBelow lower.1)) []
            (upper.dropWhile (isBelow lower.1)) := ⟨below, Or.inl rfl, follows⟩
        have step := overlaid_alone restFollows around belowAscending laid
        rw [whole] at step
        have taken : takeAt kept lower (upper.dropWhile (isBelow lower.1)) =
            (if kept lower.1 then [lower] else [], upper.dropWhile (isBelow lower.1)) := by
          cases behind : upper.dropWhile (isBelow lower.1) with
          | nil => rfl
          | cons entry later =>
              have different : ¬compare entry.1 lower.1 = .eq := by
                intro equal
                have less := OrientedCmp.gt_of_lt (follows entry (behind ▸ List.mem_cons_self))
                rw [equal] at less
                cases less
              rw [takeAt, if_neg different]
        rw [taken]
        exact step

end Ordered

end RwkvSrs.KeyedOverlay
