import Mathlib.Algebra.BigOperators.Fin
import Mathlib.Tactic.Ring
import RwkvSrs.CheckedLoops

/-!
Vectors of lanes over a commutative ring. `Simd` is what a kernel may assume of
the vector type of a machine: its width, the lane-wise operations and a
reduction that is the sum of the lanes. A slice is read as full vectors and a
tail. A vector accumulator is described by the sum of its lanes alone, which is
all a reduction at the end of a loop can see.
-/

namespace RwkvSrs.SimdLanes

open CheckedLoops

set_option autoImplicit false

variable {R : Type} [CommRing R]

structure Simd (R : Type) [CommRing R] where
  F32s : Type
  lanes : Nat
  lanesPositive : 0 < lanes
  lane : F32s → Fin lanes → R
  pack : (Fin lanes → R) → F32s
  splat : R → F32s
  mul : F32s → F32s → F32s
  sub : F32s → F32s → F32s
  mulAdd : F32s → F32s → F32s → F32s
  reduceSum : F32s → R
  lane_pack : ∀ values, lane (pack values) = values
  lane_splat : ∀ value place, lane (splat value) place = value
  lane_mul : ∀ left right place, lane (mul left right) place = lane left place * lane right place
  lane_sub : ∀ left right place, lane (sub left right) place = lane left place - lane right place
  lane_mulAdd : ∀ left right addend place,
    lane (mulAdd left right addend) place = lane left place * lane right place + lane addend place
  reduceSum_lanes : ∀ vector, reduceSum vector = ∑ place, lane vector place

attribute [simp] Simd.lane_pack Simd.lane_splat Simd.lane_mul Simd.lane_sub Simd.lane_mulAdd

/-- Lanes as plain functions, for any width. -/
def laneFunctions (R : Type) [CommRing R] (lanes : Nat) (positive : 0 < lanes) : Simd R where
  F32s := Fin lanes → R
  lanes := lanes
  lanesPositive := positive
  lane := id
  pack := id
  splat := fun value _ => value
  mul := fun left right place => left place * right place
  sub := fun left right place => left place - right place
  mulAdd := fun left right addend place => left place * right place + addend place
  reduceSum := fun vector => ∑ place, vector place
  lane_pack := fun _ => rfl
  lane_splat := fun _ _ => rfl
  lane_mul := fun _ _ _ => rfl
  lane_sub := fun _ _ _ => rfl
  lane_mulAdd := fun _ _ _ _ => rfl
  reduceSum_lanes := fun _ => rfl

/-- The value at a position, where the slice has one. -/
def cell (values : List R) (index : Nat) : R := values.getD index 0

theorem sum_block (term : Nat → R) (block lanes : Nat) :
    ∑ index ∈ Finset.range ((block + 1) * lanes), term index =
      ∑ index ∈ Finset.range (block * lanes), term index +
        ∑ place : Fin lanes, term (block * lanes + place) := by
  rw [Nat.succ_mul, Finset.sum_range_add]
  apply congrArg
  exact Finset.sum_range fun place => term (block * lanes + place)

theorem sum_split (term : Nat → R) {whole first rest : Nat} (parts : whole = first + rest) :
    ∑ index ∈ Finset.range whole, term index =
      ∑ index ∈ Finset.range first, term index +
        ∑ index ∈ Finset.range rest, term (first + index) := by
  rw [parts, Finset.sum_range_add]

def dot (left right : List R) (count : Nat) : R :=
  ∑ index ∈ Finset.range count, cell left index * cell right index

theorem cell_of_get {values : List R} {index : Nat} {value : R}
    (found : values[index]? = some value) : cell values index = value := by
  unfold cell
  rw [List.getD_eq_getElem?_getD, found]
  rfl

theorem get_cell {values : List R} {index : Nat} (inside : index < values.length) :
    values[index]? = some (cell values index) := by
  unfold cell
  rw [List.getD_eq_getElem?_getD, List.getElem?_eq_getElem inside]
  rfl

theorem cell_of_same {left right : List R} {first second : Nat}
    (same : left[first]? = right[second]?) : cell left first = cell right second := by
  unfold cell
  rw [List.getD_eq_getElem?_getD, List.getD_eq_getElem?_getD, same]

namespace Simd

variable (simd : Simd R)

theorem reduce_splat_zero : simd.reduceSum (simd.splat 0) = 0 := by
  rw [simd.reduceSum_lanes]
  simp

theorem reduce_mul_add (left right addend : simd.F32s) :
    simd.reduceSum (simd.mulAdd left right addend) =
      simd.reduceSum addend + ∑ place, simd.lane left place * simd.lane right place := by
  rw [simd.reduceSum_lanes, simd.reduceSum_lanes, ← Finset.sum_add_distrib]
  apply Finset.sum_congr rfl
  intro place _
  rw [simd.lane_mulAdd, add_comm]

def vectorCount (values : List R) : Nat := values.length / simd.lanes

def vectors (values : List R) : List simd.F32s :=
  (List.range (simd.vectorCount values)).map fun block =>
    simd.pack fun place => cell values (block * simd.lanes + place)

def tail (values : List R) : List R := values.drop (simd.vectorCount values * simd.lanes)

/-- A vector written over the lanes of a slice, where the slice has that vector. -/
def storeVector (values : List R) (block : Nat) (vector : simd.F32s) : Option (List R) :=
  if block < simd.vectorCount values then
    storeSlice values (block * simd.lanes) (List.ofFn (simd.lane vector))
  else none

@[simp] theorem vectors_length (values : List R) :
    (simd.vectors values).length = simd.vectorCount values := by
  simp [vectors]

theorem block_end {values : List R} {block : Nat} (inside : block < simd.vectorCount values) :
    block * simd.lanes + simd.lanes ≤ values.length := by
  have whole := Nat.div_mul_le_self values.length simd.lanes
  have room := Nat.mul_le_mul_right simd.lanes (Nat.succ_le_of_lt inside)
  rw [Nat.succ_mul] at room
  exact Nat.le_trans room whole

theorem count_and_tail (values : List R) :
    values.length = simd.vectorCount values * simd.lanes + (simd.tail values).length := by
  have whole := Nat.div_mul_le_self values.length simd.lanes
  simp only [tail, List.length_drop, vectorCount]
  omega

theorem vector_read {values : List R} {block : Nat} (inside : block < simd.vectorCount values) :
    ∃ vector, (simd.vectors values)[block]? = some vector ∧
      ∀ place, simd.lane vector place = cell values (block * simd.lanes + place) := by
  exists simd.pack fun place => cell values (block * simd.lanes + place)
  constructor
  · rw [vectors, List.getElem?_map, List.getElem?_range inside]
    rfl
  · intro place
    rw [simd.lane_pack]

theorem tail_read {values : List R} {index : Nat} (inside : index < (simd.tail values).length) :
    (simd.tail values)[index]? =
      some (cell values (simd.vectorCount values * simd.lanes + index)) := by
  have whole := simd.count_and_tail values
  rw [tail, List.getElem?_drop]
  exact get_cell (by omega)

/-! Slices of one size have their vectors and their tails at the same positions. -/

def tailBase (size : Nat) : Nat := size / simd.lanes * simd.lanes

theorem tail_base_below (size : Nat) : simd.tailBase size ≤ size :=
  Nat.div_mul_le_self size simd.lanes

theorem vectors_sized {values : List R} {size : Nat} (length : values.length = size) :
    (simd.vectors values).length = size / simd.lanes := by
  rw [vectors_length, vectorCount, length]

theorem tail_sized {values : List R} {size : Nat} (length : values.length = size) :
    (simd.tail values).length = size - simd.tailBase size := by
  rw [tail, List.length_drop, vectorCount, length]
  rfl

theorem vector_at {values : List R} {size block : Nat} (length : values.length = size)
    (inside : block < size / simd.lanes) :
    ∃ vector, (simd.vectors values)[block]? = some vector ∧
      ∀ place, simd.lane vector place = cell values (block * simd.lanes + place) := by
  subst length
  exact simd.vector_read inside

theorem tail_at {values : List R} {size index : Nat} (length : values.length = size)
    (inside : index < size - simd.tailBase size) :
    (simd.tail values)[index]? = some (cell values (simd.tailBase size + index)) := by
  subst length
  apply simd.tail_read
  rw [simd.tail_sized rfl]
  exact inside

theorem store_vector_fills {wanted : Nat → R} {size block : Nat} {values : List R}
    {vector : simd.F32s} (filled : FilledTo wanted size (block * simd.lanes) values)
    (inside : block < simd.vectorCount values)
    (lanes : ∀ place, simd.lane vector place = wanted (block * simd.lanes + place)) :
    ∃ next, simd.storeVector values block vector = some next ∧
      FilledTo wanted size ((block + 1) * simd.lanes) next := by
  have room := simd.block_end inside
  rw [filled.length] at room
  have block : FilledTo (fun place => wanted (block * simd.lanes + place)) simd.lanes simd.lanes
      (List.ofFn (simd.lane vector)) := by
    constructor
    · rw [List.length_ofFn]
    · intro place below
      rw [List.getElem?_ofFn, dif_pos below, lanes ⟨place, below⟩]
  obtain ⟨next, stored, filledNext⟩ := filled.storeSlice room block
  refine ⟨next, ?_, ?_⟩
  · rw [storeVector, if_pos inside, stored]
  · rw [Nat.succ_mul]
    exact filledNext

end Simd

/-- A place in the values of one slice. -/
structure Pointer (R : Type) where
  values : List R
  offset : Nat

def pointerTo (values : List R) : Pointer R := ⟨values, 0⟩

def Pointer.add (pointer : Pointer R) (count : Nat) : Pointer R :=
  ⟨pointer.values, pointer.offset + count⟩

def Pointer.read (pointer : Pointer R) : Option R := pointer.values[pointer.offset]?

namespace Simd

variable (simd : Simd R)

/-- A vector from the lanes at a pointer, all of which must lie inside the slice. -/
def loadu (pointer : Pointer R) : Option simd.F32s :=
  if pointer.offset + simd.lanes ≤ pointer.values.length then
    some (simd.pack fun place => cell pointer.values (pointer.offset + place))
  else none

theorem loadu_lanes (pointer : Pointer R)
    (inside : pointer.offset + simd.lanes ≤ pointer.values.length) :
    ∃ vector, simd.loadu pointer = some vector ∧
      ∀ place, simd.lane vector place = cell pointer.values (pointer.offset + place) := by
  exists simd.pack fun place => cell pointer.values (pointer.offset + place)
  constructor
  · rw [loadu, if_pos inside]
  · intro place
    rw [simd.lane_pack]

theorem accumulate_vectors {count : Nat} {body : Nat → simd.F32s → Option simd.F32s}
    (term : Nat → R)
    (turn : ∀ block acc, block < count → ∃ left right, body block acc =
      some (simd.mulAdd left right acc) ∧
        ∀ place, simd.lane left place * simd.lane right place = term (block * simd.lanes + place)) :
    ∃ acc, forBelow count body (simd.splat 0) = some acc ∧
      simd.reduceSum acc = ∑ index ∈ Finset.range (count * simd.lanes), term index := by
  apply for_runs fun block acc =>
    simd.reduceSum acc = ∑ index ∈ Finset.range (block * simd.lanes), term index
  · intro block acc below summed
    obtain ⟨left, right, ran, terms⟩ := turn block acc below
    refine ⟨_, ran, ?_⟩
    rw [simd.reduce_mul_add, summed, sum_block]
    simp only [terms]
  · rw [simd.reduce_splat_zero, Nat.zero_mul, Finset.sum_range_zero]

end Simd

theorem accumulate_tail {count : Nat} {body : Nat → R → Option R} (term : Nat → R)
    (turn : ∀ index output, index < count → body index output = some (term index + output))
    (start : R) :
    forBelow count body start =
      some (start + ∑ index ∈ Finset.range count, term index) := by
  obtain ⟨final, ran, summed⟩ := for_runs (fun index output =>
      output = start + ∑ place ∈ Finset.range index, term place)
    (fun index output below summed => ⟨_, turn index output below, by
      rw [summed, Finset.sum_range_succ]
      ring⟩) (by simp : start = start + ∑ place ∈ Finset.range 0, term place)
  rw [ran, summed]

end RwkvSrs.SimdLanes
