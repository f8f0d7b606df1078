import RwkvSrs.SimdLanes

/-!
The portable recurrence kernels. A row of the state is advanced by one time
step in full vectors and a scalar tail, with or without a place to keep the next
state; the algebraic head answers for all rows of a head from one combined query
vector and never forms a next state. Every slice access is checked.
-/

namespace RwkvSrs.PortableRecurrence

open CheckedLoops SimdLanes

set_option autoImplicit false

variable {R M : Type} [CommRing R]

def linearDotSimd (simd : Simd R) (xs weights : List R) : Option R := do
  let acc ← forBelow (simd.vectors xs).length (fun index acc => do
    return simd.mulAdd (← (simd.vectors xs)[index]?) (← (simd.vectors weights)[index]?) acc)
    (simd.splat 0)
  forBelow (simd.tail xs).length (fun index output => do
    return (← (simd.tail xs)[index]?) * (← (simd.tail weights)[index]?) + output)
    (simd.reduceSum acc)

structure RecurrenceOptions (M : Type) where
  forceSkipDeformation : Bool
  deformationThreshold : Option M
  reuseDeformedKey : Bool

structure TimestepOutputRow (R M : Type) where
  state : List R
  nextState : Option (List R)
  r : List R
  k : List R
  value : R
  w : List R
  a : List R
  kDeformed : List R
  options : RecurrenceOptions M

section Row

variable (simd : Simd R) (row : TimestepOutputRow R M)

/-- The sum is the loop of the dot product over the state and the deformed key. -/
def deformationLeft : Option R :=
  if row.options.forceSkipDeformation then some 0
  else linearDotSimd simd row.state row.kDeformed

def skipDeformation [LE M] [DecidableLE M] (magnitude : R → M) (options : RecurrenceOptions M)
    (deformation : R) : Bool :=
  options.forceSkipDeformation ||
    match options.deformationThreshold with
    | some threshold => decide (magnitude deformation ≤ threshold)
    | none => false

def deformedKeyVector (index : Nat) : Option simd.F32s :=
  if row.options.reuseDeformedKey then (simd.vectors row.k)[index]?
  else do
    return simd.mul (← (simd.vectors row.a)[index]?) (← (simd.vectors row.kDeformed)[index]?)

def nextVector (skip : Bool) (deformation : R) (index : Nat) : Option simd.F32s := do
  let stateDecay := simd.mul (← (simd.vectors row.state)[index]?) (← (simd.vectors row.w)[index]?)
  let key ← (simd.vectors row.k)[index]?
  if skip then return simd.mulAdd (simd.splat row.value) key stateDecay
  else
    let deformedKey ← deformedKeyVector simd row index
    let base := simd.sub stateDecay (simd.mul (simd.splat deformation) deformedKey)
    return simd.mulAdd (simd.splat row.value) key base

def keepVector (nextState : Option (List R)) (index : Nat) (next : simd.F32s) :
    Option (Option (List R)) :=
  match nextState with
  | some values => (simd.storeVector values index next).map some
  | none => some none

def vectorTurn (skip : Bool) (deformation : R) (index : Nat)
    (progress : simd.F32s × Option (List R)) : Option (simd.F32s × Option (List R)) := do
  let next ← nextVector simd row skip deformation index
  let nextState ← keepVector simd progress.2 index next
  return (simd.mulAdd next (← (simd.vectors row.r)[index]?) progress.1, nextState)

def deformedKeyTail (index : Nat) : Option R :=
  if row.options.reuseDeformedKey then (simd.tail row.k)[index]?
  else do return (← (simd.tail row.a)[index]?) * (← (simd.tail row.kDeformed)[index]?)

def nextTail (skip : Bool) (deformation : R) (index : Nat) : Option R := do
  let stateDecay := (← (simd.tail row.state)[index]?) * (← (simd.tail row.w)[index]?)
  let key ← (simd.tail row.k)[index]?
  if skip then return row.value * key + stateDecay
  else
    let deformedKey ← deformedKeyTail simd row index
    return row.value * key + (stateDecay - deformation * deformedKey)

def keepTail (nextState : Option (List R)) (index : Nat) (next : R) :
    Option (Option (List R)) :=
  match nextState with
  | some values => (store values index next).map some
  | none => some none

def tailTurn (skip : Bool) (deformation : R) (index : Nat) (progress : R × Option (List R)) :
    Option (R × Option (List R)) := do
  let next ← nextTail simd row skip deformation index
  let nextTailBase := (simd.vectors row.state).length * simd.lanes
  let nextState ← keepTail progress.2 (nextTailBase + index) next
  return (next * (← (simd.tail row.r)[index]?) + progress.1, nextState)

/-- The output of the row, and the next state where there was a place for it. -/
def timestepOutputRowSimd [LE M] [DecidableLE M] (magnitude : R → M) :
    Option (R × Option (List R)) := do
  let deformation ← deformationLeft simd row
  let skip := skipDeformation magnitude row.options deformation
  let vectors ← forBelow (simd.vectors row.state).length (vectorTurn simd row skip deformation)
    (simd.splat 0, row.nextState)
  forBelow (simd.tail row.state).length (tailTurn simd row skip deformation)
    (simd.reduceSum vectors.1, vectors.2)

end Row

structure AlgebraicOutputHead (R : Type) where
  state : List R
  output : List R
  r : List R
  k : List R
  v : List R
  w : List R
  a : List R
  kDeformed : List R
  skipDeformation : Bool
  reuseDeformedKey : Bool

section Head

variable (simd : Simd R) (head : AlgebraicOutputHead R)

def headKeyVector (index : Nat) : Option simd.F32s :=
  if head.reuseDeformedKey then (simd.vectors head.k)[index]?
  else do
    return simd.mul (← (simd.vectors head.a)[index]?) (← (simd.vectors head.kDeformed)[index]?)

def headKeyTail (index : Nat) : Option R :=
  if head.reuseDeformedKey then (simd.tail head.k)[index]?
  else do return (← (simd.tail head.a)[index]?) * (← (simd.tail head.kDeformed)[index]?)

def readoutVectorTurn (index : Nat) (accs : simd.F32s × simd.F32s) :
    Option (simd.F32s × simd.F32s) := do
  let r ← (simd.vectors head.r)[index]?
  let keyAcc := simd.mulAdd (← (simd.vectors head.k)[index]?) r accs.1
  if head.skipDeformation then return (keyAcc, accs.2)
  else return (keyAcc, simd.mulAdd (← headKeyVector simd head index) r accs.2)

def readoutTailTurn (index : Nat) (readouts : R × R) : Option (R × R) := do
  let r ← (simd.tail head.r)[index]?
  let keyReadout := (← (simd.tail head.k)[index]?) * r + readouts.1
  if head.skipDeformation then return (keyReadout, readouts.2)
  else return (keyReadout, (← headKeyTail simd head index) * r + readouts.2)

/-- The key readout and the deformation readout of the head. -/
def readouts : Option (R × R) := do
  let accs ← forBelow (simd.vectors head.r).length (readoutVectorTurn simd head)
    (simd.splat 0, simd.splat 0)
  forBelow (simd.tail head.r).length (readoutTailTurn simd head)
    (simd.reduceSum accs.1, simd.reduceSum accs.2)

def queryVectorTurn (deformation : R) (index : Nat) (query : List R) : Option (List R) := do
  let weightedR := simd.mul (← (simd.vectors head.w)[index]?) (← (simd.vectors head.r)[index]?)
  let deformed ← (simd.vectors head.kDeformed)[index]?
  simd.storeVector query index
    (simd.sub weightedR (simd.mul (simd.splat deformation) deformed))

def queryTailTurn (deformation : R) (queryTailBase index : Nat) (query : List R) :
    Option (List R) := do
  let weightedR := (← (simd.tail head.w)[index]?) * (← (simd.tail head.r)[index]?)
  let deformed ← (simd.tail head.kDeformed)[index]?
  store query (queryTailBase + index) (weightedR - deformation * deformed)

def queryVector (headSize : Nat) (deformation : R) : Option (List R) := do
  let query := List.replicate headSize (0 : R)
  let vectors ← forBelow (simd.vectorCount query) (queryVectorTurn simd head deformation) query
  forBelow (simd.tail query).length
    (queryTailTurn simd head deformation (simd.vectorCount query * simd.lanes)) vectors

def outputRowTurn (headSize : Nat) (query : List R) (keyReadout : R) (row : Nat)
    (output : List R) : Option (List R) := do
  let stateRow ← slice head.state (row * headSize) ((row + 1) * headSize)
  store output row ((← linearDotSimd simd stateRow query) + (← head.v[row]?) * keyReadout)

def algebraicOutputHead : Option (List R) := do
  let headSize := head.output.length
  let readout ← readouts simd head
  let query ← queryVector simd head headSize readout.2
  forBelow headSize (outputRowTurn simd head headSize query readout.1) head.output

end Head

end RwkvSrs.PortableRecurrence
