import Mathlib.Data.List.Sort
import Mathlib.Data.List.Nodup
import Mathlib.Order.Basic

/-!
Lists ranked by a key into a linear order. A ranked list of a given set of
items is unique, so a full sort and an incremental two-pointer merge can be
compared without looking at either algorithm again: each one only has to
produce a ranked permutation. The key need not be injective on the whole item
type, only on the items that are present.
-/

namespace RwkvSrs.KeyedOrder

set_option autoImplicit false

variable {Item Entry Key : Type*} [LinearOrder Key]

def Ranked (key : Item → Key) (items : List Item) : Prop :=
  items.Pairwise fun left right => key left < key right

theorem ranked_cons (key : Item → Key) (item : Item) (items : List Item) :
    Ranked key (item :: items) ↔ (∀ other ∈ items, key item < key other) ∧ Ranked key items :=
  List.pairwise_cons

theorem ranked_nodup {key : Item → Key} {items : List Item} (ranked : Ranked key items) :
    items.Nodup := by
  refine List.Pairwise.imp ?_ ranked
  intro left right less same
  rw [same] at less
  exact lt_irrefl _ less

theorem ranked_filter {key : Item → Key} {items : List Item} (keep : Item → Bool)
    (ranked : Ranked key items) : Ranked key (items.filter keep) :=
  List.Pairwise.filter keep ranked

theorem ranked_congr {left right : Item → Key} {items : List Item}
    (same : ∀ item ∈ items, left item = right item) (ranked : Ranked left items) :
    Ranked right items := by
  refine List.Pairwise.imp_of_mem ?_ ranked
  intro first second firstMem secondMem less
  rwa [← same first firstMem, ← same second secondMem]

/-- A set of items has at most one ranked listing. -/
theorem ranked_unique {key : Item → Key} {left right : List Item}
    (leftRanked : Ranked key left) (rightRanked : Ranked key right)
    (sameItems : ∀ item, item ∈ left ↔ item ∈ right) : left = right := by
  have permutation : left.Perm right :=
    (List.perm_ext_iff_of_nodup (ranked_nodup leftRanked) (ranked_nodup rightRanked)).mpr sameItems
  refine List.Perm.eq_of_pairwise ?_ leftRanked rightRanked permutation
  intro first second _ _ less greater
  exact absurd (lt_trans less greater) (lt_irrefl _)

def sortByKey (key : Item → Key) (items : List Item) : List Item :=
  items.insertionSort fun left right => key left ≤ key right

theorem mem_sort_by_key (key : Item → Key) (items : List Item) (item : Item) :
    item ∈ sortByKey key items ↔ item ∈ items :=
  List.mem_insertionSort _

theorem sort_by_key_ranked (key : Item → Key) (items : List Item)
    (distinct : items.Pairwise fun left right => key left ≠ key right) :
    Ranked key (sortByKey key items) := by
  have sorted : (sortByKey key items).Pairwise fun left right => key left ≤ key right := by
    have total : Std.Total fun left right : Item => key left ≤ key right :=
      ⟨fun left right => le_total _ _⟩
    have transitive : IsTrans Item fun left right => key left ≤ key right :=
      ⟨fun _ _ _ => le_trans⟩
    exact List.pairwise_insertionSort _ items
  have apart : (sortByKey key items).Pairwise fun left right => key left ≠ key right :=
    (List.perm_insertionSort _ items).symm.pairwise distinct fun different => different.symm
  exact (sorted.and apart).imp fun both => lt_of_le_of_ne both.1 both.2

/-- One source run of the loop for a fixed left head. `rest` is the loop on the
left tail, reached when the left head is emitted. -/
def mergeHead (keepLeft : Item → Entry → Bool) (itemOf : Entry → Item) (head : Item)
    (tail : List Item) (rest : List Entry → List Item) : List Entry → List Item
  | [] => head :: tail
  | entry :: entries =>
      if keepLeft head entry then head :: rest (entry :: entries)
      else itemOf entry :: mergeHead keepLeft itemOf head tail rest entries

/-- Merge left items with right entries, preferring the left item whenever
`keepLeft` says so; whatever remains on either side is appended. -/
def mergeEntries (keepLeft : Item → Entry → Bool) (itemOf : Entry → Item) :
    List Item → List Entry → List Item
  | [], entries => entries.map itemOf
  | head :: tail, entries =>
      mergeHead keepLeft itemOf head tail (mergeEntries keepLeft itemOf tail) entries

theorem mem_merge_entries (keepLeft : Item → Entry → Bool) (itemOf : Entry → Item)
    (items : List Item) (entries : List Entry) (item : Item) :
    item ∈ mergeEntries keepLeft itemOf items entries ↔
      item ∈ items ∨ item ∈ entries.map itemOf := by
  induction items generalizing entries with
  | nil => simp [mergeEntries]
  | cons head tail leftInduction =>
      simp only [mergeEntries]
      induction entries with
      | nil => simp [mergeHead]
      | cons entry entries rightInduction =>
          simp only [mergeHead]
          split
          · simp only [List.mem_cons, leftInduction, or_assoc]
          · simp only [List.mem_cons, rightInduction, List.map_cons]
            tauto

/-- The merged list is ranked as soon as both sides are, the loop's test is the
key comparison, and no key occurs on both sides. -/
theorem merge_entries_ranked (key : Item → Key) (keepLeft : Item → Entry → Bool)
    (itemOf : Entry → Item) (items : List Item) (entries : List Entry)
    (itemsRanked : Ranked key items) (entriesRanked : Ranked key (entries.map itemOf))
    (test : ∀ item ∈ items, ∀ entry ∈ entries,
      keepLeft item entry = true ↔ key item ≤ key (itemOf entry))
    (apart : ∀ item ∈ items, ∀ entry ∈ entries, key item ≠ key (itemOf entry)) :
    Ranked key (mergeEntries keepLeft itemOf items entries) := by
  induction items generalizing entries with
  | nil => exact entriesRanked
  | cons head tail leftInduction =>
      simp only [mergeEntries]
      induction entries with
      | nil => exact itemsRanked
      | cons entry entries rightInduction =>
          obtain ⟨headLess, tailRanked⟩ := (ranked_cons _ _ _).mp itemsRanked
          obtain ⟨entryLess, restRanked⟩ := (ranked_cons _ _ _).mp entriesRanked
          simp only [mergeHead]
          split
          case isTrue keep =>
            have atMost := (test head (by simp) entry (by simp)).mp keep
            have less : key head < key (itemOf entry) :=
              lt_of_le_of_ne atMost (apart head (by simp) entry (by simp))
            refine (ranked_cons _ _ _).mpr ⟨?_, ?_⟩
            · intro other member
              rcases (mem_merge_entries _ _ _ _ _).mp member with old | updated
              · exact headLess other old
              · rcases List.mem_cons.mp updated with same | later
                · rw [same]; exact less
                · exact lt_trans less (entryLess other later)
            · exact leftInduction (entry :: entries) tailRanked entriesRanked
                (fun item member => test item (List.mem_cons_of_mem _ member))
                (fun item member => apart item (List.mem_cons_of_mem _ member))
          case isFalse skip =>
            have greater : key (itemOf entry) < key head := by
              rw [← not_le, ← test head (by simp) entry (by simp)]
              exact skip
            have remaining := rightInduction restRanked
              (fun item itemMember other member =>
                test item itemMember other (List.mem_cons_of_mem _ member))
              (fun item itemMember other member =>
                apart item itemMember other (List.mem_cons_of_mem _ member))
            refine (ranked_cons _ _ _).mpr ⟨?_, remaining⟩
            intro other member
            have listed := (mem_merge_entries keepLeft itemOf (head :: tail) entries other).mp member
            rcases listed with old | updated
            · rcases List.mem_cons.mp old with same | later
              · rw [same]; exact greater
              · exact lt_trans greater (headLess other later)
            · exact entryLess other updated

end RwkvSrs.KeyedOrder
