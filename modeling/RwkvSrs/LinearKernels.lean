import RwkvSrs.PortableRecurrence

/-!
Dot-product kernels of the linear projections. All vector kernels are one tile:
some input rows against some weight rows, one accumulator for each pair, full
vectors first and then the scalar rest. The kernels differ in the numbers of
rows, in how the weight rows are addressed (slices or one pointer with offsets)
and in which switch picks the horizontal sum. Every load is checked against the
slice it reads.
-/

namespace RwkvSrs.LinearKernels

open CheckedLoops SimdLanes PortableRecurrence

set_option autoImplicit false

variable {R : Type} [CommRing R]

structure LinearSwitches where
  dot4SameX : Bool
  dot8SameX : Bool
  dot12SameX : Bool
  dot12PointerRows : Bool
  dot12DirectHorizontalSum : Bool
  blockedInput8Dot12Layout : Bool
  sharedDirectHorizontalSum : Bool
  fixedInDimSameX : Bool
  batchedSameX : Bool
  batchedFourRowSameX : Bool
  batchedPointerRows : Bool
  fusedBiasAdd : Bool
  fastAvx2HorizontalSum : Bool

inductive NativeLinearDotKernel where
  | scalar
  | avx2Fma
  | pulp
deriving DecidableEq

/-- Two halves are added, then the two halves of that, then its two lanes. -/
def horizontalSumAvx2Register (values : Fin 8 → R) : R :=
  let sum128 : Fin 4 → R := fun place => values (place.castAdd 4) + values (place.natAdd 4)
  (sum128 0 + sum128 2) + (sum128 1 + sum128 3)

def horizontalSumAvx2 (switches : LinearSwitches) (values : Fin 8 → R) : R :=
  if switches.fastAvx2HorizontalSum then horizontalSumAvx2Register values
  else (List.ofFn values).foldl (· + ·) 0

def horizontalSumAvx2Linear (switches : LinearSwitches) (useDirectSum : Bool)
    (values : Fin 8 → R) : R :=
  if useDirectSum then horizontalSumAvx2Register values else horizontalSumAvx2 switches values

theorem register_sum (values : Fin 8 → R) :
    horizontalSumAvx2Register values = ∑ place, values place := by
  simp only [Fin.sum_univ_eight]
  change (values 0 + values 4 + (values 2 + values 6)) +
    (values 1 + values 5 + (values 3 + values 7)) = _
  ring

theorem horizontal_sum (switches : LinearSwitches) (useDirectSum : Bool) (values : Fin 8 → R) :
    horizontalSumAvx2Linear switches useDirectSum values = ∑ place, values place := by
  unfold horizontalSumAvx2Linear horizontalSumAvx2
  split
  · exact register_sum values
  · split
    · exact register_sum values
    · simp only [Fin.sum_univ_eight]
      change 0 + values 0 + values 1 + values 2 + values 3 + values 4 + values 5 + values 6 +
        values 7 = _
      ring

/-- The eight lanes of an AVX2 register, summed as the switches say. -/
def m256 (R : Type) [CommRing R] (switches : LinearSwitches) (useDirectSum : Bool) : Simd R where
  F32s := Fin 8 → R
  lanes := 8
  lanesPositive := by decide
  lane := id
  pack := id
  splat := fun value _ => value
  mul := fun left right place => left place * right place
  sub := fun left right place => left place - right place
  mulAdd := fun left right addend place => left place * right place + addend place
  reduceSum := horizontalSumAvx2Linear switches useDirectSum
  lane_pack := fun _ => rfl
  lane_splat := fun _ _ => rfl
  lane_mul := fun _ _ _ => rfl
  lane_sub := fun _ _ _ => rfl
  lane_mulAdd := fun _ _ _ _ => rfl
  reduceSum_lanes := horizontal_sum switches useDirectSum

/-- The vectors of the kernels that follow the shared horizontal-sum switch. -/
def sharedM256 (R : Type) [CommRing R] (switches : LinearSwitches) : Simd R :=
  m256 R switches (switches.sharedDirectHorizontalSum && switches.fastAvx2HorizontalSum)

/-- The vectors of the kernels that follow the horizontal-sum switch of the twelve-row tile. -/
def dot12M256 (R : Type) [CommRing R] (switches : LinearSwitches) : Simd R :=
  m256 R switches (switches.dot12DirectHorizontalSum && switches.fastAvx2HorizontalSum)

scoped instance strideOne : NeZero 1 := ⟨by decide⟩

scoped instance strideTwo : NeZero 2 := ⟨by decide⟩

scoped instance strideFour : NeZero 4 := ⟨by decide⟩

scoped instance strideEight : NeZero 8 := ⟨by decide⟩

scoped instance strideTwelve : NeZero 12 := ⟨by decide⟩

section Tile

variable (simd : Simd R) {rows outputs : Nat}

def tileTurn (loadX : Fin rows → Nat → Option simd.F32s)
    (loadWeight : Fin outputs → Nat → Option simd.F32s) (index : Nat)
    (acc : Fin rows → Fin outputs → simd.F32s) : Option (Fin rows → Fin outputs → simd.F32s) := do
  let xs ← gather fun row => loadX row index
  let weights ← gather fun output => loadWeight output index
  return fun row output => simd.mulAdd (xs row) (weights output) (acc row output)

def tileRestTurn (xs : Fin rows → Pointer R) (weights : Fin outputs → Pointer R) (index : Nat)
    (sums : Fin rows → Fin outputs → R) : Option (Fin rows → Fin outputs → R) := do
  let x ← gather fun row => ((xs row).add index).read
  let weight ← gather fun output => ((weights output).add index).read
  return fun row output => sums row output + x row * weight output

/-- `while index + 8 <= in_dim`, the horizontal sums and the scalar rest. -/
def dotTile (xs : Fin rows → Pointer R) (weights : Fin outputs → Pointer R) (inDim : Nat) :
    Option (Fin rows → Fin outputs → R) := do
  let vectors ← whileBelow 8 8 inDim
    (tileTurn simd (fun row index => simd.loadu ((xs row).add index))
      fun output index => simd.loadu ((weights output).add index))
    0 fun _ _ => simd.splat 0
  let sums ← whileBelow 1 1 inDim (tileRestTurn xs weights) vectors.1
    fun row output => simd.reduceSum (vectors.2 row output)
  return sums.2

/-- `while index < IN_DIM` in steps of eight, without a scalar rest. -/
def dotTileFixed (loadX : Fin rows → Nat → Option simd.F32s)
    (loadWeight : Fin outputs → Nat → Option simd.F32s) (inDim : Nat) :
    Option (Fin rows → Fin outputs → R) := do
  let vectors ← whileBelow 1 8 inDim (tileTurn simd loadX loadWeight) 0 fun _ _ => simd.splat 0
  return fun row output => simd.reduceSum (vectors.2 row output)

end Tile

section Avx2

variable (switches : LinearSwitches)

/-- One input row against weight rows that are slices. -/
def dotRows (outputs : Nat) (xsRow : List R) (weightRows : Fin outputs → List R) :
    Option (Fin 1 → Fin outputs → R) :=
  dotTile (sharedM256 R switches) (fun _ => pointerTo xsRow)
    (fun output => pointerTo (weightRows output)) xsRow.length

def dotRowsFixed (outputs inDim : Nat) (xsRow : List R) (weightRows : Fin outputs → List R) :
    Option (Fin 1 → Fin outputs → R) :=
  dotTileFixed (sharedM256 R switches)
    (fun _ index => (sharedM256 R switches).loadu ((pointerTo xsRow).add index))
    (fun output index => (sharedM256 R switches).loadu ((pointerTo (weightRows output)).add index))
    inDim

def linearDotAvx2Fma (xsRow weightRow : List R) : Option (Fin 1 → Fin 1 → R) :=
  dotRows switches 1 xsRow fun _ => weightRow

def linearDotAvx2FmaFixed (inDim : Nat) (xsRow weightRow : List R) :
    Option (Fin 1 → Fin 1 → R) :=
  dotRowsFixed switches 1 inDim xsRow fun _ => weightRow

def linearDot4SameXAvx2Fma (xsRow : List R) (weightRows : Fin 4 → List R) :
    Option (Fin 1 → Fin 4 → R) :=
  dotRows switches 4 xsRow weightRows

def linearDot4SameXAvx2FmaFixed (inDim : Nat) (xsRow : List R) (weightRows : Fin 4 → List R) :
    Option (Fin 1 → Fin 4 → R) :=
  dotRowsFixed switches 4 inDim xsRow weightRows

def linearDot8SameXAvx2Fma (xsRow : List R) (weightRows : Fin 8 → List R) :
    Option (Fin 1 → Fin 8 → R) :=
  dotRows switches 8 xsRow weightRows

def linearDot8SameXAvx2FmaFixed (inDim : Nat) (xsRow : List R) (weightRows : Fin 8 → List R) :
    Option (Fin 1 → Fin 8 → R) :=
  dotRowsFixed switches 8 inDim xsRow weightRows

def linearDot12SameXAvx2Fma (xsRow : List R) (weightRows : Fin 12 → List R) :
    Option (Fin 1 → Fin 12 → R) :=
  dotRows switches 12 xsRow weightRows

def linearDot12SameXAvx2FmaFixed (inDim : Nat) (xsRow : List R) (weightRows : Fin 12 → List R) :
    Option (Fin 1 → Fin 12 → R) :=
  dotRowsFixed switches 12 inDim xsRow weightRows

def linearDot12SameXAvx2FmaPtr (xsRow : List R) (weightPtr : Pointer R) (inDim : Nat) :
    Option (Fin 1 → Fin 12 → R) :=
  dotTile (dot12M256 R switches) (fun _ => pointerTo xsRow)
    (fun output => weightPtr.add (output * inDim)) inDim

def linearDot12SameXAvx2FmaFixedPtr (inDim : Nat) (xsRow : List R) (weightPtr : Pointer R) :
    Option (Fin 1 → Fin 12 → R) :=
  dotTileFixed (dot12M256 R switches)
    (fun _ index => (dot12M256 R switches).loadu ((pointerTo xsRow).add index))
    (fun output index => (dot12M256 R switches).loadu (weightPtr.add (output * inDim + index)))
    inDim

def linearDot2FourRowsSameXAvx2Fma (xsRows : Fin 4 → List R) (weightRows : Fin 2 → List R) :
    Option (Fin 4 → Fin 2 → R) :=
  dotTile (sharedM256 R switches) (fun row => pointerTo (xsRows row))
    (fun output => pointerTo (weightRows output)) (xsRows 0).length

def linearDot2FourRowsSameXAvx2FmaPtr (xsRows : Fin 4 → List R) (weightPtr : Pointer R)
    (inDim : Nat) : Option (Fin 4 → Fin 2 → R) :=
  dotTile (sharedM256 R switches) (fun row => pointerTo (xsRows row))
    (fun output => weightPtr.add (output * inDim)) inDim

def linearDot4TwoRowsSameXAvx2Fma (xsRows : Fin 2 → List R) (weightRows : Fin 4 → List R) :
    Option (Fin 2 → Fin 4 → R) :=
  dotTile (sharedM256 R switches) (fun row => pointerTo (xsRows row))
    (fun output => pointerTo (weightRows output)) (xsRows 0).length

def linearDot4TwoRowsSameXAvx2FmaPtr (xsRows : Fin 2 → List R) (weightPtr : Pointer R)
    (inDim : Nat) : Option (Fin 2 → Fin 4 → R) :=
  dotTile (sharedM256 R switches) (fun row => pointerTo (xsRows row))
    (fun output => weightPtr.add (output * inDim)) inDim

end Avx2

def linearDotScalar (xsRow weightRow : List R) : Option R :=
  forBelow xsRow.length (fun index acc => do
    return acc + (← xsRow[index]?) * (← weightRow[index]?)) 0

/-- Four accumulators over one input row, as the scalar projection keeps them. -/
def scalarDot4 (xsRow : List R) (weightRows : Fin 4 → List R) (inDim : Nat) :
    Option (Fin 1 → Fin 4 → R) :=
  forBelow inDim (tileRestTurn (fun _ => pointerTo xsRow)
    fun output => pointerTo (weightRows output)) fun _ _ => 0

def linearDot (switches : LinearSwitches) (pulp : Simd R) (kernel : NativeLinearDotKernel)
    (xsRow weightRow : List R) : Option R :=
  match kernel with
  | .scalar => linearDotScalar xsRow weightRow
  | .avx2Fma => do return (← linearDotAvx2Fma switches xsRow weightRow) 0 0
  | .pulp => linearDotSimd pulp xsRow weightRow

end RwkvSrs.LinearKernels
