import Mathlib.Data.List.Nodup
import Mathlib.Logic.Function.Basic

/-!
Keys kept in the slots of several shards. A table gives the keys of every
shard in slot order, and a directory names a slot for some keys. The two are
coherent when the directory names exactly the slot a key stands in. A list of
placements made one after the other appends every key to its shard, so the
slot a placement names is the next free one of its shard at that moment.
-/

namespace RwkvSrs.SlotTable

set_option autoImplicit false

universe u

structure Slot where
  shard : Nat
  entity : Nat
deriving DecidableEq

variable {Key : Type u}

abbrev Table (Key : Type u) := Nat → List Key

abbrev Directory (Key : Type u) := Key → Option Slot

def Holds (table : Table Key) (slot : Slot) (key : Key) : Prop :=
  (table slot.shard)[slot.entity]? = some key

def Coherent (table : Table Key) (directory : Directory Key) : Prop :=
  ∀ key slot, directory key = some slot ↔ Holds table slot key

theorem coherent_injective {table : Table Key} {directory : Directory Key}
    (coherent : Coherent table directory) {key other : Key} {slot : Slot}
    (found : directory key = some slot) (otherFound : directory other = some slot) :
    key = other := by
  have held := (coherent key slot).mp found
  have otherHeld := (coherent other slot).mp otherFound
  rw [Holds] at held otherHeld
  rw [held] at otherHeld
  exact Option.some.inj otherHeld

def place (table : Table Key) (placed : Key × Slot) : Table Key :=
  Function.update table placed.2.shard (table placed.2.shard ++ [placed.1])

/-- The slot is the next free one of its shard. -/
def Fits (table : Table Key) (slot : Slot) : Prop := slot.entity = (table slot.shard).length

theorem place_same (table : Table Key) (key : Key) (slot : Slot) :
    place table (key, slot) slot.shard = table slot.shard ++ [key] := by
  simp [place]

theorem place_other (table : Table Key) (key : Key) {slot : Slot} {shard : Nat}
    (apart : shard ≠ slot.shard) : place table (key, slot) shard = table shard := by
  simp [place, apart]

theorem place_extends (table : Table Key) (placed : Key × Slot) (shard : Nat) :
    table shard <+: place table placed shard := by
  obtain ⟨key, slot⟩ := placed
  by_cases same : shard = slot.shard
  · rw [same, place_same]
    apply List.prefix_append
  · rewrite [place_other table key same]
    exact List.prefix_refl _

theorem holds_place {table : Table Key} {key other : Key} {slot found : Slot}
    (fits : Fits table slot) :
    Holds (place table (key, slot)) found other ↔
      Holds table found other ∨ (found = slot ∧ other = key) := by
  obtain ⟨shard, entity⟩ := found
  obtain ⟨goal, free⟩ := slot
  have next : free = (table goal).length := fits
  by_cases same : shard = goal
  · subst same
    rw [Holds, Holds, place_same]
    rcases Nat.lt_trichotomy entity (table shard).length with inside | here | beyond
    · have apart : entity ≠ free := by omega
      simp [List.getElem?_append_left inside, apart]
    · simp [here, next, eq_comm]
    · have apart : entity ≠ free := by omega
      have past : (table shard ++ [key])[entity]? = none := by
        rw [List.getElem?_eq_none_iff, List.length_append, List.length_singleton]
        exact beyond
      simp [past, List.getElem?_eq_none (Nat.le_of_lt beyond), apart]
  · have unchanged : place table (key, ⟨goal, free⟩) shard = table shard :=
      place_other table key same
    simp [Holds, unchanged, same]

theorem coherent_place [DecidableEq Key] {table : Table Key} {directory : Directory Key}
    (coherent : Coherent table directory) {key : Key} {slot : Slot} (fits : Fits table slot)
    (absent : directory key = none) :
    Coherent (place table (key, slot)) (Function.update directory key (some slot)) := by
  intro other found
  rw [holds_place fits, ← coherent]
  by_cases same : other = key
  · subst same
    rw [Function.update_self, absent]
    simp [eq_comm]
  · rw [Function.update_of_ne same]
    simp [same]

def placeAll (table : Table Key) (placements : List (Key × Slot)) : Table Key :=
  placements.foldl place table

/-- Every placement names the next free slot of its shard at its turn. -/
def InOrder : Table Key → List (Key × Slot) → Prop
  | _, [] => True
  | table, placed :: rest => Fits table placed.2 ∧ InOrder (place table placed) rest

theorem place_all_append (table : Table Key) (placements more : List (Key × Slot)) :
    placeAll table (placements ++ more) = placeAll (placeAll table placements) more :=
  List.foldl_append

theorem in_order_append {table : Table Key} {placements more : List (Key × Slot)} :
    InOrder table (placements ++ more) ↔
      InOrder table placements ∧ InOrder (placeAll table placements) more := by
  induction placements generalizing table with
  | nil => simp [InOrder, placeAll]
  | cons placed placements ih =>
      rw [List.cons_append, InOrder, InOrder, ih, and_assoc]
      rfl

theorem place_all_extends (table : Table Key) (placements : List (Key × Slot)) (shard : Nat) :
    table shard <+: placeAll table placements shard := by
  induction placements generalizing table with
  | nil => exact List.prefix_refl _
  | cons placed placements ih => exact (place_extends table placed shard).trans (ih _)

theorem holds_place_all {table : Table Key} {slot : Slot} {key : Key}
    (placements : List (Key × Slot)) (held : Holds table slot key) :
    Holds (placeAll table placements) slot key := by
  obtain ⟨later, joined⟩ := place_all_extends table placements slot.shard
  rw [Holds, ← joined, List.getElem?_append_left (List.getElem?_eq_some_iff.mp held).1]
  exact held

theorem placed_held {table : Table Key} {placements : List (Key × Slot)}
    (ordered : InOrder table placements) {key : Key} {slot : Slot}
    (member : (key, slot) ∈ placements) : Holds (placeAll table placements) slot key := by
  induction placements generalizing table with
  | nil => cases member
  | cons placed placements ih =>
      rcases List.mem_cons.mp member with here | later
      · rw [← here] at ordered ⊢
        apply holds_place_all placements
        exact (holds_place ordered.1).mpr (Or.inr ⟨rfl, rfl⟩)
      · exact ih ordered.2 later

end RwkvSrs.SlotTable
