import RwkvSrs.LinearKernels

/-!
What the dot-product kernels compute. A turn of the tile adds eight products to
the lane sum of every accumulator, the scalar rest adds one product at a time,
and both loops end at the input width; so every tile is the matrix of the inner
products of its input rows with its weight rows, however the rows are addressed.
-/

namespace RwkvSrs.LinearTiles

open CheckedLoops SimdLanes PortableRecurrence LinearKernels

set_option autoImplicit false

variable {R : Type} [CommRing R]

/-- The value at a distance from a pointer. -/
def pointerCell (pointer : Pointer R) (index : Nat) : R :=
  cell pointer.values (pointer.offset + index)

/-- The products of an input row and a weight row before a position. -/
def product (x weight : Nat → R) (count : Nat) : R :=
  ∑ index ∈ Finset.range count, x index * weight index

theorem product_succ (x weight : Nat → R) (count : Nat) :
    product x weight (count + 1) = product x weight count + x count * weight count :=
  Finset.sum_range_succ _ _

theorem product_add (x weight : Nat → R) (count lanes : Nat) :
    product x weight (count + lanes) =
      product x weight count + ∑ place : Fin lanes, x (count + place) * weight (count + place) := by
  unfold product
  rw [Finset.sum_range_add]
  apply congrArg
  exact Finset.sum_range fun place => x (count + place) * weight (count + place)

section Tile

variable (simd : Simd R) {rows outputs : Nat} {x : Fin rows → Nat → R}
  {weight : Fin outputs → Nat → R}

/-- A load that finds the wanted lanes at a position. -/
def Loads (load : Nat → Option simd.F32s) (wanted : Nat → R) (index : Nat) : Prop :=
  ∃ vector, load index = some vector ∧
    ∀ place, simd.lane vector place = wanted (index + place)

theorem pointer_loads {pointer : Pointer R} {index : Nat}
    (inside : pointer.offset + index + simd.lanes ≤ pointer.values.length) :
    Loads simd (fun index => simd.loadu (pointer.add index)) (pointerCell pointer) index := by
  obtain ⟨vector, loaded, lanes⟩ := simd.loadu_lanes (pointer.add index) inside
  refine ⟨vector, loaded, ?_⟩
  intro place
  rw [lanes]
  unfold pointerCell Pointer.add
  rw [Nat.add_assoc]

theorem tile_turn {loadX : Fin rows → Nat → Option simd.F32s}
    {loadWeight : Fin outputs → Nat → Option simd.F32s} {index : Nat}
    {acc : Fin rows → Fin outputs → simd.F32s}
    (loadsX : ∀ row, Loads simd (loadX row) (x row) index)
    (loadsWeight : ∀ output, Loads simd (loadWeight output) (weight output) index)
    (summed : ∀ row output,
      simd.reduceSum (acc row output) = product (x row) (weight output) index) :
    ∃ next, tileTurn simd loadX loadWeight index acc = some next ∧ ∀ row output,
      simd.reduceSum (next row output) =
        product (x row) (weight output) (index + simd.lanes) := by
  obtain ⟨xs, readX, lanesX⟩ := gather_each _ loadsX
  obtain ⟨weights, readWeight, lanesWeight⟩ := gather_each _ loadsWeight
  refine ⟨fun row output => simd.mulAdd (xs row) (weights output) (acc row output), ?_, ?_⟩
  · unfold tileTurn
    rw [readX, readWeight]
    rfl
  · intro row output
    rw [simd.reduce_mul_add, summed, product_add]
    simp only [lanesX, lanesWeight]

theorem get_from_pointer {pointer : Pointer R} {index : Nat}
    (inside : pointer.offset + index < pointer.values.length) :
    (pointer.add index).read = some (pointerCell pointer index) :=
  get_cell inside

theorem tile_rest_turn {xs : Fin rows → Pointer R} {weights : Fin outputs → Pointer R}
    {index : Nat} {sums : Fin rows → Fin outputs → R}
    (insideX : ∀ row, (xs row).offset + index < (xs row).values.length)
    (insideWeight : ∀ output, (weights output).offset + index < (weights output).values.length)
    (summed : ∀ row output, sums row output =
      product (pointerCell (xs row)) (pointerCell (weights output)) index) :
    ∃ next, tileRestTurn xs weights index sums = some next ∧ ∀ row output,
      next row output =
        product (pointerCell (xs row)) (pointerCell (weights output)) (index + 1) := by
  obtain ⟨x, readX, valuesX⟩ := gather_each (fun row value => value = pointerCell (xs row) index)
    fun row => ⟨_, get_from_pointer (insideX row), rfl⟩
  obtain ⟨weight, readWeight, valuesWeight⟩ :=
    gather_each (fun output value => value = pointerCell (weights output) index)
      fun output => ⟨_, get_from_pointer (insideWeight output), rfl⟩
  refine ⟨fun row output => sums row output + x row * weight output, ?_, ?_⟩
  · unfold tileRestTurn
    rw [readX, readWeight]
    rfl
  · intro row output
    rw [product_succ, ← summed, ← valuesX, ← valuesWeight]

end Tile

section Whole

variable (switches : LinearSwitches) (direct : Bool) {rows outputs : Nat}

theorem tile_vectors (reach limit : Nat)
    {loadX : Fin rows → Nat → Option (m256 R switches direct).F32s}
    {loadWeight : Fin outputs → Nat → Option (m256 R switches direct).F32s}
    {x : Fin rows → Nat → R} {weight : Fin outputs → Nat → R} (Reached : Nat → Prop)
    (start : Reached 0)
    (turn : ∀ index, index + reach ≤ limit → Reached index →
      (∀ row, Loads (m256 R switches direct) (loadX row) (x row) index) ∧
      (∀ output, Loads (m256 R switches direct) (loadWeight output) (weight output) index) ∧
      Reached (index + 8)) :
    ∃ last acc, whileBelow reach 8 limit (tileTurn (m256 R switches direct) loadX loadWeight) 0
        (fun _ _ => (m256 R switches direct).splat 0) = some (last, acc) ∧
      limit < last + reach ∧ Reached last ∧ ∀ row output,
        (m256 R switches direct).reduceSum (acc row output) =
          product (x row) (weight output) last := by
  apply while_runs fun index (acc : Fin rows → Fin outputs → (m256 R switches direct).F32s) =>
    Reached index ∧ ∀ row output, (m256 R switches direct).reduceSum (acc row output) =
      product (x row) (weight output) index
  · intro index acc inside before
    obtain ⟨loadsX, loadsWeight, reached⟩ := turn index inside before.1
    obtain ⟨next, ran, summed⟩ := tile_turn _ loadsX loadsWeight before.2
    exact ⟨next, ran, reached, summed⟩
  · refine ⟨start, ?_⟩
    intro row output
    rw [Simd.reduce_splat_zero]
    rfl

/-- Every pointer has the whole input width in front of it. -/
def Holds {count : Nat} (pointers : Fin count → Pointer R) (inDim : Nat) : Prop :=
  ∀ place, (pointers place).offset + inDim ≤ (pointers place).values.length

theorem held_loads {count : Nat} {pointers : Fin count → Pointer R} {inDim index : Nat}
    (holds : Holds pointers inDim) (inside : index + 8 ≤ inDim) (place : Fin count) :
    Loads (m256 R switches direct)
      (fun index => (m256 R switches direct).loadu ((pointers place).add index))
      (pointerCell (pointers place)) index := by
  apply pointer_loads
  have held := holds place
  change (pointers place).offset + index + 8 ≤ (pointers place).values.length
  omega

theorem dot_tile {xs : Fin rows → Pointer R} {weights : Fin outputs → Pointer R} {inDim : Nat}
    (holdsX : Holds xs inDim) (holdsWeight : Holds weights inDim) :
    dotTile (m256 R switches direct) xs weights inDim = some fun row output =>
      product (pointerCell (xs row)) (pointerCell (weights output)) inDim := by
  obtain ⟨last, acc, ranVectors, _, reached, summedVectors⟩ :=
    tile_vectors switches direct 8 inDim (fun index => index ≤ inDim) (Nat.zero_le inDim)
      fun index inside _ => ⟨held_loads switches direct holdsX inside,
        held_loads switches direct holdsWeight inside, inside⟩
  have rest : ∃ final sums, whileBelow 1 1 inDim (tileRestTurn xs weights) last
        (fun row output => (m256 R switches direct).reduceSum (acc row output)) =
          some (final, sums) ∧
      inDim < final + 1 ∧ final ≤ inDim ∧ ∀ row output, sums row output =
        product (pointerCell (xs row)) (pointerCell (weights output)) final := by
    apply while_runs fun index (sums : Fin rows → Fin outputs → R) =>
      index ≤ inDim ∧ ∀ row output, sums row output =
        product (pointerCell (xs row)) (pointerCell (weights output)) index
    · intro index sums inside before
      have insideX : ∀ row, (xs row).offset + index < (xs row).values.length := by
        intro row
        have held := holdsX row
        omega
      have insideWeight : ∀ output,
          (weights output).offset + index < (weights output).values.length := by
        intro output
        have held := holdsWeight output
        omega
      obtain ⟨next, ran, summed⟩ := tile_rest_turn insideX insideWeight before.2
      exact ⟨next, ran, inside, summed⟩
    · exact ⟨reached, summedVectors⟩
  obtain ⟨final, sums, ranRest, beyond, finished, summed⟩ := rest
  have whole : final = inDim := by omega
  subst whole
  unfold dotTile
  rw [ranVectors]
  simp only [Option.bind_eq_bind, Option.bind_some]
  rw [ranRest]
  simp only [Option.bind_some, Option.pure_def]
  apply congrArg
  funext row output
  exact summed row output

/-- A tile of a width that is a multiple of eight, however its loads are addressed. -/
theorem dot_tile_fixed {loadX : Fin rows → Nat → Option (m256 R switches direct).F32s}
    {loadWeight : Fin outputs → Nat → Option (m256 R switches direct).F32s}
    {x : Fin rows → Nat → R} {weight : Fin outputs → Nat → R} {inDim : Nat} (eights : 8 ∣ inDim)
    (loadsX : ∀ row index, 8 ∣ index → index + 8 ≤ inDim →
      Loads (m256 R switches direct) (loadX row) (x row) index)
    (loadsWeight : ∀ output index, 8 ∣ index → index + 8 ≤ inDim →
      Loads (m256 R switches direct) (loadWeight output) (weight output) index) :
    dotTileFixed (m256 R switches direct) loadX loadWeight inDim = some fun row output =>
      product (x row) (weight output) inDim := by
  obtain ⟨last, acc, ranVectors, beyond, reached, summed⟩ :=
    tile_vectors switches direct 1 inDim (fun index => 8 ∣ index ∧ index ≤ inDim)
      ⟨Nat.dvd_zero 8, Nat.zero_le inDim⟩
      fun index inside before => by
        have room : index + 8 ≤ inDim := by omega
        refine ⟨fun row => loadsX row index before.1 room,
          fun output => loadsWeight output index before.1 room, ?_, room⟩
        exact (Nat.dvd_add_right before.1).mpr (Nat.dvd_refl 8)
  have whole : last = inDim := by omega
  subst whole
  unfold dotTileFixed
  rw [ranVectors]
  simp only [Option.bind_eq_bind, Option.bind_some, Option.pure_def]
  apply congrArg
  funext row output
  exact summed row output

theorem fixed_pointers {xs : Fin rows → Pointer R} {weights : Fin outputs → Pointer R}
    {inDim : Nat} (eights : 8 ∣ inDim) (holdsX : Holds xs inDim)
    (holdsWeight : Holds weights inDim) :
    dotTileFixed (m256 R switches direct)
        (fun row index => (m256 R switches direct).loadu ((xs row).add index))
        (fun output index => (m256 R switches direct).loadu ((weights output).add index)) inDim =
      some fun row output =>
        product (pointerCell (xs row)) (pointerCell (weights output)) inDim :=
  dot_tile_fixed switches direct eights
    (fun row _ _ room => held_loads switches direct holdsX room row)
    (fun output _ _ room => held_loads switches direct holdsWeight room output)

end Whole

end RwkvSrs.LinearTiles
