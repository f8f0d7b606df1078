import Mathlib.Algebra.BigOperators.Group.List.Basic
import Mathlib.Algebra.Group.Pi.Basic
import Mathlib.Data.Matrix.Mul
import Mathlib.Data.Nat.Bitwise

/-!
Affine recurrences and their parallel evaluation. Affine maps on the rows of a
matrix form a monoid under composition, and a doubling scan over any monoid
turns every item of a segment into the product of the segment up to it. The
scan needs one level for each power of two below the longest segment, and it
never looks past the start of a segment.
-/

namespace RwkvSrs.AffineScan

set_option autoImplicit false

/-- The values one, two, four and so on of a loop that doubles its counter
while it is below the bound. -/
def doublingsFrom (offset bound : Nat) : List Nat :=
  if 0 < offset ∧ offset < bound then offset :: doublingsFrom (offset * 2) bound else []
termination_by bound - offset

def doublings (bound : Nat) : List Nat := doublingsFrom 1 bound

section Doubling

variable {State : Type*}

/-- A loop over doublings that keeps a property indexed by the counter ends
with the property at a counter that is not below the bound. -/
theorem doubling_loop (bound : Nat) (level : State → Nat → State) (Kept : Nat → State → Prop)
    (turn : ∀ offset state, 0 < offset → offset < bound → Kept offset state →
      Kept (offset * 2) (level state offset))
    (offset : Nat) (state : State) (positive : 0 < offset) (kept : Kept offset state) :
    ∃ last, bound ≤ last ∧ Kept last ((doublingsFrom offset bound).foldl level state) := by
  induction offset using doublingsFrom.induct bound generalizing state with
  | case1 offset inside ih =>
      rw [doublingsFrom, if_pos inside, List.foldl_cons]
      apply ih
      · omega
      · exact turn offset state inside.1 inside.2 kept
  | case2 offset outside =>
      rw [doublingsFrom, if_neg outside]
      exact ⟨offset, by omega, kept⟩

end Doubling

section Window

variable {M : Type*} [Monoid M]

/-- The product of the `length` items that end with item `last`, the oldest first. -/
def windowProduct (values : Nat → M) (last length : Nat) : M :=
  ((List.range length).map fun place => values (last + 1 - length + place)).prod

theorem window_one (values : Nat → M) (last : Nat) : windowProduct values last 1 = values last := by
  simp [windowProduct]

theorem window_append (values : Nat → M) (last older newer : Nat) (room : newer ≤ last + 1)
    (fits : older + newer ≤ last + 1) (nonempty : 0 < older) :
    windowProduct values (last - newer) older * windowProduct values last newer =
      windowProduct values last (older + newer) := by
  have olderStart : last - newer + 1 - older = last + 1 - (older + newer) := by omega
  have newerStart : ∀ place, last + 1 - newer + place = last + 1 - (older + newer) + (older + place) :=
    by omega
  simp only [windowProduct, List.range_add, List.map_append, List.prod_append, List.map_map,
    Function.comp_def, olderStart, newerStart]

/-- One level: an item whose place in its segment is below the offset is
copied, any other is multiplied by the item that far to its left. -/
def scanLevel (place : Nat → Nat) (values : Nat → M) (offset : Nat) : Nat → M :=
  fun item => if place item < offset then values item else values (item - offset) * values item

def scan (place : Nat → Nat) (bound : Nat) (values : Nat → M) : Nat → M :=
  (doublings bound).foldl (scanLevel place) values

/-- Items stand in segments: the items to the left of an item, down to place
zero, are the earlier places of the same segment. -/
structure Segmented (place : Nat → Nat) (count : Nat) : Prop where
  inside : ∀ item, item < count → place item ≤ item
  earlier : ∀ item back, item < count → back ≤ place item →
    place (item - back) = place item - back

/-- After the levels below `offset` every item holds the product of the last
`offset` items of its segment. -/
def Windowed (place : Nat → Nat) (count : Nat) (values : Nat → M) (offset : Nat)
    (scanned : Nat → M) : Prop :=
  ∀ item, item < count → scanned item = windowProduct values item (min offset (place item + 1))

theorem scan_level_windowed {place : Nat → Nat} {count : Nat} (segmented : Segmented place count)
    (values scanned : Nat → M) (offset : Nat) (positive : 0 < offset)
    (windowed : Windowed place count values offset scanned) :
    Windowed place count values (offset * 2) (scanLevel place scanned offset) := by
  intro item inside
  have start := segmented.inside item inside
  by_cases near : place item < offset
  · rw [scanLevel, if_pos near, windowed item inside]
    congr 1
    omega
  · have leftPlace := segmented.earlier item offset inside (by omega)
    rw [scanLevel, if_neg near, windowed item inside, windowed (item - offset) (by omega),
      leftPlace]
    have newest : min offset (place item + 1) = offset := by omega
    have length : min (offset * 2) (place item + 1) =
        min offset (place item - offset + 1) + offset := by omega
    rw [newest, length]
    apply window_append <;> omega

/-- The scan of segments that are no longer than the bound gives every item
the product of its segment up to and including it. -/
theorem scan_segments {place : Nat → Nat} {count : Nat} (segmented : Segmented place count)
    (bound : Nat) (values : Nat → M) (item : Nat) (inside : item < count)
    (short : place item < bound) :
    scan place bound values item = windowProduct values item (place item + 1) := by
  have first : Windowed place count values 1 values := by
    intro other _
    rw [Nat.min_eq_left (by omega), window_one]
  obtain ⟨last, covers, windowed⟩ := doubling_loop bound (scanLevel place)
    (Windowed place count values)
    (fun offset scanned positive _ kept =>
      scan_level_windowed segmented values scanned offset positive kept)
    1 values (by omega) first
  rw [scan, doublings, windowed item inside]
  congr 1
  omega

end Window

/-- The affine map that takes a matrix of row vectors `state` to `state * mul + add`. -/
@[ext] structure AffineTransform (Place R : Type*) where
  mul : Matrix Place Place R
  add : Matrix Place Place R

namespace AffineTransform

variable {Place R : Type*} [Fintype Place] [DecidableEq Place] [CommRing R]

def apply (transform : AffineTransform Place R) (state : Matrix Place Place R) :
    Matrix Place Place R :=
  state * transform.mul + transform.add

/-- `left * right` is `left` followed by `right`. -/
instance : Monoid (AffineTransform Place R) where
  one := ⟨1, 0⟩
  mul left right := ⟨left.mul * right.mul, left.add * right.mul + right.add⟩
  one_mul transform := by
    apply AffineTransform.ext
    · exact one_mul transform.mul
    · change 0 * transform.mul + transform.add = transform.add
      rw [zero_mul, zero_add]
  mul_one transform := by
    apply AffineTransform.ext
    · exact mul_one transform.mul
    · change transform.add * 1 + 0 = transform.add
      rw [mul_one, add_zero]
  mul_assoc first second third := by
    apply AffineTransform.ext
    · exact mul_assoc first.mul second.mul third.mul
    · change (first.add * second.mul + second.add) * third.mul + third.add =
        first.add * (second.mul * third.mul) + (second.add * third.mul + third.add)
      rw [add_mul, mul_assoc, add_assoc]

theorem mul_mul (left right : AffineTransform Place R) :
    (left * right).mul = left.mul * right.mul := rfl

theorem mul_add (left right : AffineTransform Place R) :
    (left * right).add = left.add * right.mul + right.add := rfl

theorem one_mul_part : (1 : AffineTransform Place R).mul = 1 := rfl

theorem one_add_part : (1 : AffineTransform Place R).add = 0 := rfl

theorem apply_one (state : Matrix Place Place R) :
    (1 : AffineTransform Place R).apply state = state := by
  simp [apply, one_mul_part, one_add_part]

theorem apply_mul (left right : AffineTransform Place R) (state : Matrix Place Place R) :
    (left * right).apply state = right.apply (left.apply state) := by
  simp only [apply, mul_mul, mul_add, add_mul, mul_assoc, add_assoc]

omit [DecidableEq Place] in
theorem mul_outer (state : Matrix Place Place R) (removed key : Place → R) (row column : Place) :
    (state * Matrix.vecMulVec removed key) row column =
      (∑ place, state row place * removed place) * key column := by
  rw [Matrix.mul_apply, Finset.sum_mul]
  exact Finset.sum_congr rfl fun place _ => (mul_assoc _ _ _).symm

/-- Decay of the columns, less what stands along `removed` taken off along `key`. -/
theorem mul_decay (state : Matrix Place Place R) (decay removed key : Place → R)
    (row column : Place) :
    (state * (Matrix.diagonal decay - Matrix.vecMulVec removed key)) row column =
      state row column * decay column - (∑ place, state row place * removed place) * key column := by
  rw [Matrix.mul_sub, Matrix.sub_apply, Matrix.mul_diagonal, mul_outer]

end AffineTransform

end RwkvSrs.AffineScan
