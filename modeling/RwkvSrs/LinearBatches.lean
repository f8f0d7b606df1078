import RwkvSrs.LinearProjection

/-!
Projections of whole batches. A row goes to the kernel that the switches, the
widths and the machine allow; a batch is cut into groups of four, two and one
rows that are handed out as parts of the output buffer. The entry points take
tensors, or weights that were unpacked once and perhaps repacked in blocks.
-/

namespace RwkvSrs.LinearBatches

open CheckedLoops SimdLanes PortableRecurrence LinearKernels LinearProjection
open ModuleState (Tensor Tensor.fromVec)

set_option autoImplicit false

variable {R : Type} [CommRing R]

def scalar4At (xsRow weightValues : List R) (inDim outIndex : Nat) :
    Option (Fin 1 → Fin 4 → R) := do
  scalarDot4 xsRow (← weightRows 4 weightValues inDim outIndex) inDim

def scalar1At (xsRow weightValues : List R) (inDim outIndex : Nat) :
    Option (Fin 1 → Fin 1 → R) := do
  let weightRow ← slice weightValues (outIndex * inDim) ((outIndex + 1) * inDim)
  let value ← linearDotScalar xsRow weightRow
  return fun _ _ => value

def linearProjectRowSameXScalar (xsRow weightValues : List R) (outDim inDim : Nat)
    (outputRow : List R) : Option (List R) := do
  let fours ← projectChunks 4 outDim (scalar4At xsRow weightValues inDim) 0 fun _ => outputRow
  let ones ← projectChunks 1 outDim (scalar1At xsRow weightValues inDim) fours.1 fours.2
  return ones.2 0

section Kernels

variable (switches : LinearSwitches) (pulp : Simd R) (kernel : NativeLinearDotKernel)

def linearDotEach (xsRow weightValues : List R) (outDim inDim : Nat) (outputRow : List R) :
    Option (List R) :=
  forBelow outDim (fun outIndex output => do
    let weightRow ← slice weightValues (outIndex * inDim) ((outIndex + 1) * inDim)
    store output outIndex (← linearDot switches pulp kernel xsRow weightRow)) outputRow

/-- The widths the kernels are specialised for. -/
def fixedWidth (inDim : Nat) : Bool := inDim == 16 || inDim == 128 || inDim == 512

/-- The kernels left when no AVX2 kernel of eight or more outputs applies. -/
def linearProjectRowDot4 (xsRow weightValues : List R) (outDim inDim : Nat)
    (outputRow : List R) : Option (List R) :=
  if switches.dot4SameX ∧ 4 ≤ outDim then
    match kernel with
    | .scalar => linearProjectRowSameXScalar xsRow weightValues outDim inDim outputRow
    | .avx2Fma => linearProjectRowSameXAvx2Fma switches xsRow weightValues outDim inDim outputRow
    | .pulp => none
  else linearDotEach switches pulp kernel xsRow weightValues outDim inDim outputRow

def linearProjectRowSameX (xsRow weightValues : List R) (outDim inDim : Nat)
    (outputRow : List R) : Option (List R) :=
  if kernel = .pulp then
    pulpLinearProjectRow pulp xsRow weightValues none outDim inDim outputRow
  else if switches.fixedInDimSameX ∧ switches.dot12SameX ∧ switches.dot8SameX ∧
      switches.dot4SameX ∧ 32 ≤ outDim ∧ kernel = .avx2Fma ∧ fixedWidth inDim then
    linearProjectRowSameXAvx2FmaDot12Fixed switches xsRow weightValues outDim inDim outputRow
  else if switches.dot12SameX ∧ switches.dot8SameX ∧ switches.dot4SameX ∧ 32 ≤ outDim ∧
      kernel = .avx2Fma then
    linearProjectRowSameXAvx2FmaDot12 switches xsRow weightValues outDim inDim outputRow
  else if switches.fixedInDimSameX ∧ switches.dot8SameX ∧ switches.dot4SameX ∧ 8 ≤ outDim ∧
      kernel = .avx2Fma ∧ fixedWidth inDim then
    linearProjectRowSameXAvx2FmaDot8Fixed switches xsRow weightValues outDim inDim outputRow
  else if switches.dot8SameX ∧ switches.dot4SameX ∧ 8 ≤ outDim ∧ kernel = .avx2Fma then
    linearProjectRowSameXAvx2FmaDot8 switches xsRow weightValues outDim inDim outputRow
  else if switches.fixedInDimSameX ∧ switches.dot4SameX ∧ 4 ≤ outDim ∧ kernel = .avx2Fma ∧
      fixedWidth inDim then
    linearProjectRowSameXAvx2FmaFixed switches xsRow weightValues outDim inDim outputRow
  else linearProjectRowDot4 switches pulp kernel xsRow weightValues outDim inDim outputRow

def addLinearBiasToOutputRow (biasValues outputRow : List R) : Option (List R) :=
  forBelow outputRow.length (fun outIndex row => do
    store row outIndex ((← row[outIndex]?) + (← biasValues[outIndex]?))) outputRow

def addLinearBiasToOutputRows (outputValues : List R) (rowCount outDim : Nat)
    (biasValues : List R) : Option (List R) :=
  forBelow rowCount (fun rowIndex output =>
    updateSlice output (rowIndex * outDim) (rowIndex * outDim + outDim)
      (addLinearBiasToOutputRow biasValues)) outputValues

def finishRow (bias : Option (List R)) (outputRow : List R) : Option (List R) :=
  match bias with
  | some biasValues => addLinearBiasToOutputRow biasValues outputRow
  | none => some outputRow

/-- `linear_project_row_same_x`, or its variant with a bias. -/
def projectRow (bias : Option (List R)) (xsRow weightValues : List R) (outDim inDim : Nat)
    (outputRow : List R) : Option (List R) := do
  finishRow bias (← linearProjectRowSameX switches pulp kernel xsRow weightValues outDim inDim
    outputRow)

def linearProjectRowSameXWithBias (xsRow weightValues biasValues : List R) (outDim inDim : Nat)
    (outputRow : List R) : Option (List R) :=
  projectRow switches pulp kernel (some biasValues) xsRow weightValues outDim inDim outputRow

section Batch

variable (bias : Option (List R)) (inputValues : List R) (rowCount inDim : Nat)
  (weightValues : List R) (outDim : Nat)

/-- Four rows of the output, handed out by splitting the buffer, and put back. -/
def projectFourRows (rowIndex : Nat) (output : List R) : Option (List R) := do
  let xsRows ← gather fun row : Fin 4 =>
    slice inputValues ((rowIndex + row) * inDim) ((rowIndex + row) * inDim + inDim)
  let (beforeRow1, fromRow1) ← splitAt output ((rowIndex + 1) * outDim)
  let outputRow0 ← slice beforeRow1 (rowIndex * outDim) (rowIndex * outDim + outDim)
  let (outputRow1, fromRow2) ← splitAt fromRow1 outDim
  let (outputRow2, fromRow3) ← splitAt fromRow2 outDim
  let outputRow3 ← slice fromRow3 0 outDim
  let rows ← linearProjectFourRowsSameXAvx2Fma switches xsRows weightValues outDim inDim
    ![outputRow0, outputRow1, outputRow2, outputRow3]
  let finished ← gather fun row => finishRow bias (rows row)
  let beforeRow1 ← storeSlice beforeRow1 (rowIndex * outDim) (finished 0)
  let fromRow3 ← storeSlice fromRow3 0 (finished 3)
  return beforeRow1 ++ (finished 1 ++ (finished 2 ++ fromRow3))

def projectTwoRows (rowIndex : Nat) (output : List R) : Option (List R) := do
  let xsRows ← gather fun row : Fin 2 =>
    slice inputValues ((rowIndex + row) * inDim) ((rowIndex + row) * inDim + inDim)
  let (beforeRow1, fromRow1) ← splitAt output ((rowIndex + 1) * outDim)
  let outputRow0 ← slice beforeRow1 (rowIndex * outDim) (rowIndex * outDim + outDim)
  let outputRow1 ← slice fromRow1 0 outDim
  let rows ← linearProjectTwoRowsSameXAvx2Fma switches xsRows weightValues outDim inDim
    ![outputRow0, outputRow1]
  let finished ← gather fun row => finishRow bias (rows row)
  let beforeRow1 ← storeSlice beforeRow1 (rowIndex * outDim) (finished 0)
  let fromRow1 ← storeSlice fromRow1 0 (finished 1)
  return beforeRow1 ++ fromRow1

def projectLastRow (rowIndex : Nat) (output : List R) : Option (List R) :=
  if rowIndex < rowCount then do
    let xsRow ← slice inputValues (rowIndex * inDim) (rowIndex * inDim + inDim)
    updateSlice output (rowIndex * outDim) (rowIndex * outDim + outDim)
      (projectRow switches pulp kernel bias xsRow weightValues outDim inDim)
  else some output

def avx2Batch (output : List R) : Option (List R) := do
  let fours ←
    if switches.batchedFourRowSameX then
      whileBelow 4 4 rowCount (projectFourRows switches bias inputValues inDim weightValues outDim)
        0 output
    else some (0, output)
  let twos ← whileBelow 2 2 rowCount
    (projectTwoRows switches bias inputValues inDim weightValues outDim) fours.1 fours.2
  projectLastRow switches pulp .avx2Fma bias inputValues rowCount inDim weightValues outDim
    twos.1 twos.2

/-- Whether the batch was projected as one, and the output buffer. -/
def batchSameX (output : List R) : Option (Bool × List R) :=
  if switches.batchedSameX = false ∨ rowCount < 2 ∨ outDim < 4 then some (false, output)
  else
    match kernel with
    | .pulp => do
        return (true, ← pulpLinearProjectBatch pulp inputValues rowCount inDim weightValues bias
          outDim output)
    | .avx2Fma => do
        return (true, ← avx2Batch switches pulp bias inputValues rowCount inDim weightValues
          outDim output)
    | .scalar => some (false, output)

def eachRow (project : List R → List R → Option (List R)) (output : List R) : Option (List R) :=
  forBelow rowCount (fun rowIndex output => do
    let xsRow ← slice inputValues (rowIndex * inDim) ((rowIndex + 1) * inDim)
    updateSlice output (rowIndex * outDim) ((rowIndex + 1) * outDim) (project xsRow)) output

/-- The batch as one where that is possible, else row by row. -/
def projectRows (output : List R) : Option (List R) := do
  let (projected, output) ← batchSameX switches pulp kernel bias inputValues rowCount inDim
    weightValues outDim output
  if projected then return output
  else
    eachRow inputValues rowCount inDim outDim
      (fun xsRow => projectRow switches pulp kernel bias xsRow weightValues outDim inDim) output

end Batch

def linearProjectBatchSameX (inputValues : List R) (rowCount inDim : Nat) (weightValues : List R)
    (outDim : Nat) (outputValues : List R) : Option (Bool × List R) :=
  batchSameX switches pulp kernel none inputValues rowCount inDim weightValues outDim outputValues

def linearProjectBatchSameXWithBias (inputValues : List R) (rowCount inDim : Nat)
    (weightValues biasValues : List R) (outDim : Nat) (outputValues : List R) :
    Option (Bool × List R) :=
  batchSameX switches pulp kernel (some biasValues) inputValues rowCount inDim weightValues outDim
    outputValues

structure LinearWeights (R : Type) where
  weight : Tensor R
  bias : Option (Tensor R)

/-- An access outside its slice, which panics or is undefined. -/
def accessed {Value : Type} : Option Value → Except String Value
  | some value => .ok value
  | none => .error "access outside of a slice"

def dims2 (tensor : Tensor R) : Except String (Nat × Nat) :=
  match tensor.dims with
  | [rows, columns] => .ok (rows, columns)
  | _ => .error "unexpected rank, expected: 2"

/-- The output values of a batch under the bias switches. -/
def nativeValues (xsValues : List R) (rowCount inDim : Nat) (weightValues : List R) (outDim : Nat)
    (biasValues : Option (List R)) : Option (List R) :=
  let out := List.replicate (rowCount * outDim) (0 : R)
  match biasValues with
  | some biasValues =>
      if switches.fusedBiasAdd then
        projectRows switches pulp kernel (some biasValues) xsValues rowCount inDim weightValues
          outDim out
      else do
        let out ← projectRows switches pulp kernel none xsValues rowCount inDim weightValues outDim
          out
        addLinearBiasToOutputRows out rowCount outDim biasValues
  | none => projectRows switches pulp kernel none xsValues rowCount inDim weightValues outDim out

def linearNativeF32WithKernel (xs : Tensor R) (weights : LinearWeights R) :
    Except String (Option (Tensor R)) :=
  if xs.dims.length < 2 then .ok none
  else do
    let (outDim, inDim) ← dims2 weights.weight
    if xs.dims.getLast? ≠ some inDim then return none
    else if ∃ bias ∈ weights.bias, bias.dims ≠ [outDim] then return none
    else
      let rowCount := xs.dims.dropLast.prod
      if rowCount = 0 ∨ outDim = 0 ∨ inDim = 0 then return none
      else if xs.data.length ≠ rowCount * inDim ∨ weights.weight.data.length ≠ outDim * inDim then
        return none
      else
        let out ← accessed (nativeValues switches pulp kernel xs.data rowCount inDim
          weights.weight.data outDim (weights.bias.map Tensor.data))
        return some (← Tensor.fromVec out (xs.dims.dropLast ++ [outDim]))

structure LinearBlockedInput8Dot12Weights (R : Type) where
  values : List R
  fullOutDim : Nat
  inDim : Nat

structure LinearF32Weights (R : Type) where
  outDim : Nat
  inDim : Nat
  weight : List R
  bias : Option (List R)
  blockedInput8Dot12 : Option (LinearBlockedInput8Dot12Weights R)

def packInputs (weightValues : List R) (inDim outBase inputBase : Nat) (values : List R) :
    Option (List R) :=
  forBelow 12 (fun outputOffset values => do
    let sourceBase := (outBase + outputOffset) * inDim + inputBase
    return values ++ (← slice weightValues sourceBase (sourceBase + 8))) values

def packOutputs (weightValues : List R) (inDim outBase : Nat) (values : List R) :
    Option (List R) := do
  let packed ← whileBelow 1 8 inDim (packInputs weightValues inDim outBase) 0 values
  return packed.2

def linearPackInput8Dot12Weights (weightValues : List R) (outDim inDim : Nat) :
    Option (Option (LinearBlockedInput8Dot12Weights R)) :=
  if inDim = 0 ∨ inDim % 8 ≠ 0 ∨ weightValues.length ≠ outDim * inDim then some none
  else do
    let fullOutDim := outDim / 12 * 12
    let packed ← whileBelow 1 12 fullOutDim (packOutputs weightValues inDim) 0 []
    return some ⟨packed.2, fullOutDim, inDim⟩

/-- The shapes for which the blocked layout is made. -/
def blockedShape (outDim inDim : Nat) : Bool :=
  (outDim, inDim) ∈ [(128, 128), (192, 128), (256, 128), (128, 192), (128, 256)]

def unpackBias (outDim : Nat) (bias : Option (Tensor R)) : Except String (Option (List R)) :=
  match bias with
  | some bias =>
      if bias.dims ≠ [outDim] then
        .error s!"linear bias expected shape [{outDim}], got {bias.dims}"
      else if bias.data.length ≠ outDim then
        .error s!"linear bias expected {outDim} values, got {bias.data.length}"
      else .ok (some bias.data)
  | none => .ok none

def linearF32WeightsWithBlocked (isX86 : Bool) (weights : LinearWeights R)
    (enableBlocked : Bool) : Except String (LinearF32Weights R) := do
  let (outDim, inDim) ← dims2 weights.weight
  if weights.weight.data.length ≠ outDim * inDim then
    .error s!"linear weight expected {outDim * inDim} values, got {weights.weight.data.length}"
  else
    let bias ← unpackBias outDim weights.bias
    let blocked ←
      if isX86 ∧ enableBlocked ∧ switches.blockedInput8Dot12Layout ∧ blockedShape outDim inDim then
        accessed (linearPackInput8Dot12Weights weights.weight.data outDim inDim)
      else pure none
    return ⟨outDim, inDim, weights.weight.data, bias, blocked⟩

/-- Twelve outputs from one block: twelve vectors of eight inputs stand together. -/
def blockedDot12At (xsRow : List R) (blocked : LinearBlockedInput8Dot12Weights R)
    (outBase : Nat) : Option (Fin 1 → Fin 12 → R) :=
  let blockBase := outBase * blocked.inDim
  dotTileFixed (dot12M256 R switches)
    (fun _ inputBase => (dot12M256 R switches).loadu ((pointerTo xsRow).add inputBase))
    (fun output inputBase => (dot12M256 R switches).loadu
      (((pointerTo blocked.values).add (blockBase + inputBase * 12)).add (output * 8)))
    blocked.inDim

def blockedTurn (xsRow : List R) (blocked : LinearBlockedInput8Dot12Weights R) (outBase : Nat)
    (outputRow : List R) : Option (List R) := do
  let sums ← blockedDot12At switches xsRow blocked outBase
  storeSlice outputRow outBase (List.ofFn (sums 0))

def rowMajorRows (count : Nat) (rowMajorWeightValues : List R) (inDim outIndex : Nat) :
    Option (Fin count → List R) :=
  let weightBase := outIndex * inDim
  gather fun output =>
    slice rowMajorWeightValues (weightBase + output * inDim) (weightBase + (output + 1) * inDim)

def blockedRestAt (count : Nat) (xsRow rowMajorWeightValues : List R) (inDim outIndex : Nat) :
    Option (Fin 1 → Fin count → R) := do
  dotRows switches count xsRow (← rowMajorRows count rowMajorWeightValues inDim outIndex)

def linearProjectRowSameXAvx2FmaBlockedInput8Dot12 (xsRow : List R)
    (blocked : LinearBlockedInput8Dot12Weights R) (rowMajorWeightValues : List R) (outDim : Nat)
    (outputRow : List R) : Option (List R) := do
  let full ← whileBelow 1 12 blocked.fullOutDim (blockedTurn switches xsRow blocked) 0 outputRow
  let eights ← projectChunks 8 outDim
    (blockedRestAt switches 8 xsRow rowMajorWeightValues blocked.inDim)
    blocked.fullOutDim fun _ : Fin 1 => full.2
  let fours ← projectChunks 4 outDim
    (blockedRestAt switches 4 xsRow rowMajorWeightValues blocked.inDim) eights.1 eights.2
  let ones ← projectChunks 1 outDim
    (blockedRestAt switches 1 xsRow rowMajorWeightValues blocked.inDim) fours.1 fours.2
  return ones.2 0

def linearProjectF32RowSameX (xsRow : List R) (weights : LinearF32Weights R)
    (outputRow : List R) : Option (List R) :=
  match kernel, weights.blockedInput8Dot12 with
  | .avx2Fma, some blocked =>
      linearProjectRowSameXAvx2FmaBlockedInput8Dot12 switches xsRow blocked weights.weight
        weights.outDim outputRow
  | _, _ =>
      linearProjectRowSameX switches pulp kernel xsRow weights.weight weights.outDim weights.inDim
        outputRow

def linearProjectF32BatchSameX (inputValues : List R) (rowCount : Nat)
    (weights : LinearF32Weights R) (outputValues : List R) : Option (List R) :=
  if rowCount = 1 then
    linearProjectF32RowSameX switches pulp kernel inputValues weights outputValues
  else do
    let (projected, outputValues) ← linearProjectBatchSameX switches pulp kernel inputValues
      rowCount weights.inDim weights.weight weights.outDim outputValues
    if projected then return outputValues
    else
      eachRow inputValues rowCount weights.inDim weights.outDim
        (fun xsRow => linearProjectRowSameX switches pulp kernel xsRow weights.weight
          weights.outDim weights.inDim) outputValues

end Kernels

end RwkvSrs.LinearBatches
