import RwkvSrs.LinearKernels
import RwkvSrs.ModuleState

/-!
Linear projections over the dot-product kernels: outputs are written in chunks
of twelve, eight, four and one, rows in groups of four, two and one, and the
switches and the kernel decide which chunks and groups there are. The blocked
layout repacks the weight rows of every twelve outputs in pieces of eight inputs.
-/

namespace RwkvSrs.LinearProjection

open CheckedLoops SimdLanes PortableRecurrence LinearKernels
open ModuleState (Tensor Tensor.fromVec)

set_option autoImplicit false

variable {R : Type} [CommRing R]

/-- `while out_index + width <= out_dim`, for as many rows as the kernel answers. -/
def projectChunks {rows : Nat} (width : Nat) [NeZero width] (outDim : Nat)
    (dots : Nat → Option (Fin rows → Fin width → R)) (outIndex : Nat)
    (outputRows : Fin rows → List R) : Option (Nat × (Fin rows → List R)) :=
  whileBelow width width outDim (fun outIndex outputRows => do
    let values ← dots outIndex
    gather fun row => storeSlice (outputRows row) outIndex (List.ofFn (values row)))
    outIndex outputRows

def weightRows (count : Nat) (weightValues : List R) (inDim outIndex : Nat) :
    Option (Fin count → List R) :=
  gather fun output =>
    slice weightValues ((outIndex + output) * inDim) ((outIndex + output + 1) * inDim)

section Avx2Row

variable (switches : LinearSwitches) (fixed : Bool) (xsRow weightValues : List R)
  (outDim inDim : Nat)

def dot1At (outIndex : Nat) : Option (Fin 1 → Fin 1 → R) := do
  let rows ← weightRows 1 weightValues inDim outIndex
  if fixed then linearDotAvx2FmaFixed switches inDim xsRow (rows 0)
  else linearDotAvx2Fma switches xsRow (rows 0)

def dot4At (outIndex : Nat) : Option (Fin 1 → Fin 4 → R) := do
  let rows ← weightRows 4 weightValues inDim outIndex
  if fixed then linearDot4SameXAvx2FmaFixed switches inDim xsRow rows
  else linearDot4SameXAvx2Fma switches xsRow rows

def dot8At (outIndex : Nat) : Option (Fin 1 → Fin 8 → R) := do
  let rows ← weightRows 8 weightValues inDim outIndex
  if fixed then linearDot8SameXAvx2FmaFixed switches inDim xsRow rows
  else linearDot8SameXAvx2Fma switches xsRow rows

def dot12PtrAt (outIndex : Nat) : Option (Fin 1 → Fin 12 → R) :=
  if fixed then
    linearDot12SameXAvx2FmaFixedPtr switches inDim xsRow
      ((pointerTo weightValues).add (outIndex * inDim))
  else
    linearDot12SameXAvx2FmaPtr switches xsRow ((pointerTo weightValues).add (outIndex * inDim))
      inDim

def dot12RowsAt (outIndex : Nat) : Option (Fin 1 → Fin 12 → R) := do
  let rows ← weightRows 12 weightValues inDim outIndex
  if fixed then linearDot12SameXAvx2FmaFixed switches inDim xsRow rows
  else linearDot12SameXAvx2Fma switches xsRow rows

def dot12At (outIndex : Nat) : Option (Fin 1 → Fin 12 → R) :=
  if switches.dot12PointerRows then dot12PtrAt switches fixed xsRow weightValues inDim outIndex
  else dot12RowsAt switches fixed xsRow weightValues inDim outIndex

def chunksFrom4 (start : Nat × (Fin 1 → List R)) : Option (List R) := do
  let fours ← projectChunks 4 outDim (dot4At switches fixed xsRow weightValues inDim) start.1 start.2
  let ones ← projectChunks 1 outDim (dot1At switches fixed xsRow weightValues inDim) fours.1 fours.2
  return ones.2 0

def chunksFrom8 (start : Nat × (Fin 1 → List R)) : Option (List R) := do
  let eights ← projectChunks 8 outDim (dot8At switches fixed xsRow weightValues inDim) start.1 start.2
  chunksFrom4 switches fixed xsRow weightValues outDim inDim eights

def chunksFrom12 (start : Nat × (Fin 1 → List R)) : Option (List R) := do
  let twelves ← projectChunks 12 outDim (dot12At switches fixed xsRow weightValues inDim)
    start.1 start.2
  chunksFrom8 switches fixed xsRow weightValues outDim inDim twelves

def linearProjectRowSameXAvx2Fma (outputRow : List R) : Option (List R) :=
  chunksFrom4 switches false xsRow weightValues outDim inDim (0, fun _ => outputRow)

def linearProjectRowSameXAvx2FmaFixed (outputRow : List R) : Option (List R) :=
  chunksFrom4 switches true xsRow weightValues outDim inDim (0, fun _ => outputRow)

def linearProjectRowSameXAvx2FmaDot8 (outputRow : List R) : Option (List R) :=
  chunksFrom8 switches false xsRow weightValues outDim inDim (0, fun _ => outputRow)

def linearProjectRowSameXAvx2FmaDot8Fixed (outputRow : List R) : Option (List R) :=
  chunksFrom8 switches true xsRow weightValues outDim inDim (0, fun _ => outputRow)

def linearProjectRowSameXAvx2FmaDot12 (outputRow : List R) : Option (List R) :=
  chunksFrom12 switches false xsRow weightValues outDim inDim (0, fun _ => outputRow)

def linearProjectRowSameXAvx2FmaDot12Fixed (outputRow : List R) : Option (List R) :=
  chunksFrom12 switches true xsRow weightValues outDim inDim (0, fun _ => outputRow)

end Avx2Row

section Avx2Rows

variable (switches : LinearSwitches)

def dot2FourRowsAt (xsRows : Fin 4 → List R) (weightValues : List R) (inDim outIndex : Nat) :
    Option (Fin 4 → Fin 2 → R) :=
  if switches.batchedPointerRows then
    linearDot2FourRowsSameXAvx2FmaPtr switches xsRows
      ((pointerTo weightValues).add (outIndex * inDim)) inDim
  else do
    linearDot2FourRowsSameXAvx2Fma switches xsRows (← weightRows 2 weightValues inDim outIndex)

def dot4TwoRowsAt (xsRows : Fin 2 → List R) (weightValues : List R) (inDim outIndex : Nat) :
    Option (Fin 2 → Fin 4 → R) :=
  if switches.batchedPointerRows then
    linearDot4TwoRowsSameXAvx2FmaPtr switches xsRows
      ((pointerTo weightValues).add (outIndex * inDim)) inDim
  else do
    linearDot4TwoRowsSameXAvx2Fma switches xsRows (← weightRows 4 weightValues inDim outIndex)

/-- One weight row against each of the input rows. -/
def dot1RowsAt {rows : Nat} (xsRows : Fin rows → List R) (weightValues : List R)
    (inDim outIndex : Nat) : Option (Fin rows → Fin 1 → R) := do
  let weightRow ← slice weightValues (outIndex * inDim) ((outIndex + 1) * inDim)
  gather fun row => do return (← linearDotAvx2Fma switches (xsRows row) weightRow) 0

def linearProjectFourRowsSameXAvx2Fma (xsRows : Fin 4 → List R) (weightValues : List R)
    (outDim inDim : Nat) (outputRows : Fin 4 → List R) : Option (Fin 4 → List R) := do
  let twos ← projectChunks 2 outDim (dot2FourRowsAt switches xsRows weightValues inDim) 0 outputRows
  let ones ← projectChunks 1 outDim (dot1RowsAt switches xsRows weightValues inDim) twos.1 twos.2
  return ones.2

def linearProjectTwoRowsSameXAvx2Fma (xsRows : Fin 2 → List R) (weightValues : List R)
    (outDim inDim : Nat) (outputRows : Fin 2 → List R) : Option (Fin 2 → List R) := do
  let fours ← projectChunks 4 outDim (dot4TwoRowsAt switches xsRows weightValues inDim) 0 outputRows
  let ones ← projectChunks 1 outDim (dot1RowsAt switches xsRows weightValues inDim) fours.1 fours.2
  return ones.2

end Avx2Rows

section Portable

variable (simd : Simd R)

def biasAt (bias : Option (List R)) (index : Nat) : Option R :=
  match bias with
  | some values => values[index]?
  | none => some 0

def chunkValue (input weightRow : List R) (bias : Option (List R)) (accumulator : simd.F32s)
    (index : Nat) : Option R := do
  let value ← forBelow (simd.tail input).length (fun inputIndex value => do
    return (← (simd.tail input)[inputIndex]?) * (← (simd.tail weightRow)[inputIndex]?) + value)
    (simd.reduceSum accumulator)
  return value + (← biasAt bias index)

def linearProjectChunkSimd (outputs : Nat) (input weights : List R) (bias : Option (List R))
    (inDim outBase : Nat) : Option (Fin 1 → Fin outputs → R) := do
  let parts ← gather fun offset : Fin outputs =>
    slice weights ((outBase + offset) * inDim) ((outBase + offset) * inDim + inDim)
  let accumulators ← forBelow (simd.vectors input).length
    (tileTurn simd (fun (_ : Fin 1) index => (simd.vectors input)[index]?)
      fun offset index => (simd.vectors (parts offset))[index]?)
    fun _ _ => simd.splat 0
  let values ← gather fun offset =>
    chunkValue simd input (parts offset) bias (accumulators 0 offset) (outBase + offset)
  return fun _ => values

def linearProjectOneSimd (input weights : List R) (bias : Option (List R)) (inDim outBase : Nat) :
    Option (Fin 1 → Fin 1 → R) := do
  let weightRow ← slice weights (outBase * inDim) ((outBase + 1) * inDim)
  let value ← linearDotSimd simd input weightRow
  let bias ← biasAt bias outBase
  return fun _ _ => value + bias

def linearProjectRowSimd (input weights : List R) (bias : Option (List R)) (outDim inDim : Nat)
    (output : List R) : Option (List R) := do
  let twelves ← projectChunks 12 outDim (linearProjectChunkSimd simd 12 input weights bias inDim)
    0 fun _ => output
  let eights ← projectChunks 8 outDim (linearProjectChunkSimd simd 8 input weights bias inDim)
    twelves.1 twelves.2
  let fours ← projectChunks 4 outDim (linearProjectChunkSimd simd 4 input weights bias inDim)
    eights.1 eights.2
  let ones ← projectChunks 1 outDim (linearProjectOneSimd simd input weights bias inDim)
    fours.1 fours.2
  return ones.2 0

def pulpLinearProjectBatch (input : List R) (rowCount inDim : Nat) (weights : List R)
    (bias : Option (List R)) (outDim : Nat) (output : List R) : Option (List R) :=
  forBelow rowCount (fun row output => do
    let xsRow ← slice input (row * inDim) ((row + 1) * inDim)
    updateSlice output (row * outDim) ((row + 1) * outDim)
      (linearProjectRowSimd simd xsRow weights bias outDim inDim)) output

def pulpLinearProjectRow (input weights : List R) (bias : Option (List R)) (outDim inDim : Nat)
    (output : List R) : Option (List R) :=
  pulpLinearProjectBatch simd input 1 inDim weights bias outDim output

end Portable

end RwkvSrs.LinearProjection
