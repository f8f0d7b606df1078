import Mathlib.Data.Matrix.Mul
import RwkvSrs.LinearBlocked

/-!
The linear projections as products of matrices. The buffers of the code are
matrices stored row by row; whatever kernel and switches are used, the native
projection leaves the product with the transposed weights and the bias, and the
projection of unpacked weights leaves the product alone: its callers refuse
weights with a bias, or add it themselves.
-/

namespace RwkvSrs.LinearProducts

open CheckedLoops SimdLanes PortableRecurrence LinearKernels LinearTiles LinearProjection
open LinearBatches LinearRows LinearDispatch LinearGroups LinearBlocked
open ModuleState (Tensor Tensor.fromVec)

set_option autoImplicit false

variable {R : Type} [CommRing R]

/-- A buffer of rows as a matrix. -/
def rowMatrix (values : List R) (rows columns : Nat) : Matrix (Fin rows) (Fin columns) R :=
  Matrix.of fun row column => cell values (row * columns + column)

/-- The bias in every row, where there is one. -/
def biasMatrix (bias : Option (List R)) (rows columns : Nat) :
    Matrix (Fin rows) (Fin columns) R :=
  Matrix.of fun _ column => biasCell bias column

/-- An output buffer with every cell written, as the product with the bias. -/
structure Projected (bias : Option (List R)) (input weights : List R) (rowCount outDim inDim : Nat)
    (output : List R) : Prop where
  length : output.length = rowCount * outDim
  product : rowMatrix output rowCount outDim =
    rowMatrix input rowCount inDim * (rowMatrix weights outDim inDim).transpose +
      biasMatrix bias rowCount outDim

theorem written_projected {bias : Option (List R)} {input weights output : List R}
    {rowCount outDim inDim : Nat}
    (written : Written (batchProduct bias input weights inDim) rowCount outDim rowCount output) :
    Projected bias input weights rowCount outDim inDim output := by
  refine ⟨written.length, ?_⟩
  apply Matrix.ext
  intro row column
  have inside : row * outDim + column < rowCount * outDim := by
    have rowEnd := Nat.mul_le_mul_right outDim (Nat.succ_le_of_lt row.isLt)
    rw [Nat.succ_mul] at rowEnd
    have below := column.isLt
    omega
  have found := cell_of_get (written.cells _ inside)
  rw [row_cells _ _ column.isLt] at found
  rw [Matrix.add_apply, Matrix.mul_apply]
  change cell output (row * outDim + column) = _
  rw [found]
  unfold batchProduct
  apply congrArg (· + _)
  exact Finset.sum_range fun index =>
    cell input (row * inDim + index) * cell weights (column * inDim + index)

section Native

variable (switches : LinearSwitches) (pulp : Simd R) (kernel : NativeLinearDotKernel)
  {rowCount outDim inDim : Nat}

theorem bias_rows {biasValues : List R} {wanted : Nat → Nat → R}
    (sized : biasValues.length = outDim) {output : List R}
    (written : Written wanted rowCount outDim rowCount output) :
    ∃ final, addLinearBiasToOutputRows output rowCount outDim biasValues = some final ∧
      Written (fun row column => wanted row column + cell biasValues column) rowCount outDim
        rowCount final := by
  let biased := fun row column => wanted row column + cell biasValues column
  let mixed := fun rows place =>
    if place < rows * outDim then rowCells biased outDim place else rowCells wanted outDim place
  have loop : ∃ final, addLinearBiasToOutputRows output rowCount outDim biasValues = some final ∧
      FilledTo (mixed rowCount) (rowCount * outDim) (rowCount * outDim) final := by
    apply for_runs fun row output =>
      FilledTo (mixed row) (rowCount * outDim) (rowCount * outDim) output
    · intro row output below before
      have inside := rows_inside row 1 outDim (Nat.succ_le_of_lt below)
      rw [Nat.one_mul] at inside
      apply before.updateWithin inside
      · intro place outside
        change (if place < (row + 1) * outDim then _ else _) = if place < row * outDim then _ else _
        rw [Nat.succ_mul]
        split_ifs with early late
        · rfl
        · omega
        · omega
        · rfl
      · intro part filled
        have rowPart : FilledTo (wanted row) outDim outDim part := by
          apply filled.congr
          intro column under
          change (if row * outDim + column < row * outDim then _ else _) = _
          rw [if_neg (by omega), row_cells wanted row under]
        obtain ⟨updated, ran, full⟩ := bias_row sized rowPart
        refine ⟨updated, ran, ?_⟩
        apply full.congr
        intro column under
        change _ = if row * outDim + column < (row + 1) * outDim then _ else _
        rw [Nat.succ_mul, if_pos (by omega), row_cells biased row under]
    · apply FilledTo.congr written
      intro place _
      change _ = if place < 0 * outDim then _ else _
      rw [Nat.zero_mul, if_neg (Nat.not_lt_zero place)]
  obtain ⟨final, ran, full⟩ := loop
  exact ⟨final, ran, full.congr fun place below => if_pos below⟩

theorem native_values {xsValues weightValues : List R} {bias : Option (List R)}
    (shaped : BatchShaped xsValues weightValues rowCount outDim inDim)
    (sized : BiasSized bias outDim) :
    ∃ out, nativeValues switches pulp kernel xsValues rowCount inDim weightValues outDim bias =
        some out ∧
      Written (batchProduct bias xsValues weightValues inDim) rowCount outDim rowCount out := by
  have zeros : (List.replicate (rowCount * outDim) (0 : R)).length = rowCount * outDim :=
    List.length_replicate
  have unbiased : BiasSized (none : Option (List R)) outDim := by
    intro values given
    cases given
  unfold nativeValues
  dsimp only
  cases bias with
  | none => exact project_rows switches pulp kernel shaped sized _ zeros
  | some biasValues =>
      dsimp only
      split
      · exact project_rows switches pulp kernel shaped sized _ zeros
      · obtain ⟨out, ran, written⟩ := project_rows switches pulp kernel shaped unbiased _ zeros
        obtain ⟨final, added, writtenFinal⟩ := bias_rows (sized biasValues rfl) written
        refine ⟨final, ?_, ?_⟩
        · rw [ran]
          exact added
        · apply FilledTo.congr writtenFinal
          intro place _
          unfold rowCells batchProduct biasCell
          dsimp only
          rw [add_zero]

/-- An input and weights that fit each other, with at least one output and one input. -/
structure Fits (xs : Tensor R) (weights : LinearWeights R) (outDim inDim : Nat) : Prop where
  rank : 2 ≤ xs.dims.length
  input : xs.dims.getLast? = some inDim
  weight : weights.weight.dims = [outDim, inDim]
  bias : ∀ bias ∈ weights.bias, bias.dims = [outDim]
  outputs : 0 < outDim
  inputs : 0 < inDim

omit [CommRing R] in
theorem fits_batch {xs : Tensor R} {weights : LinearWeights R}
    (fits : Fits xs weights outDim inDim) :
    BatchShaped xs.data weights.weight.data xs.dims.dropLast.prod outDim inDim := by
  constructor
  · obtain ⟨first, whole⟩ := List.getLast?_eq_some_iff.mp fits.input
    rw [xs.sized, whole, List.prod_append, List.dropLast_concat, List.prod_singleton]
  · rw [weights.weight.sized, fits.weight]
    simp

omit [CommRing R] in
theorem fits_bias {xs : Tensor R} {weights : LinearWeights R}
    (fits : Fits xs weights outDim inDim) :
    BiasSized (weights.bias.map Tensor.data) outDim := by
  intro values given
  obtain ⟨bias, found, rfl⟩ := Option.map_eq_some_iff.mp given
  rw [bias.sized, fits.bias bias found]
  simp

theorem native_projects {xs : Tensor R} {weights : LinearWeights R}
    (fits : Fits xs weights outDim inDim) (rows : xs.dims.dropLast.prod ≠ 0) :
    ∃ out, linearNativeF32WithKernel switches pulp kernel xs weights = .ok (some out) ∧
      out.dims = xs.dims.dropLast ++ [outDim] ∧
      Projected (weights.bias.map Tensor.data) xs.data weights.weight.data
        xs.dims.dropLast.prod outDim inDim out.data := by
  have shaped := fits_batch fits
  obtain ⟨values, ran, written⟩ := native_values switches pulp kernel shaped (fits_bias fits)
  have sized : values.length = (xs.dims.dropLast ++ [outDim]).prod := by
    rw [written.length, List.prod_append, List.prod_singleton]
  have narrow : ¬xs.dims.length < 2 := Nat.not_lt.mpr fits.rank
  have biases : ¬∃ bias ∈ weights.bias, bias.dims ≠ [outDim] := by
    rintro ⟨bias, found, different⟩
    exact different (fits.bias bias found)
  have dims : ¬(xs.dims.dropLast.prod = 0 ∨ outDim = 0 ∨ inDim = 0) := by
    have outputs := fits.outputs
    have inputs := fits.inputs
    omega
  have data : ¬(xs.data.length ≠ xs.dims.dropLast.prod * inDim ∨
      weights.weight.data.length ≠ outDim * inDim) := by
    have input := shaped.input
    have weight := shaped.weight
    omega
  refine ⟨⟨_, values, sized⟩, ?_, rfl, written_projected written⟩
  unfold linearNativeF32WithKernel dims2
  rw [if_neg narrow, fits.weight]
  dsimp only [Except.bind, bind]
  rw [if_neg (not_not.mpr fits.input), if_neg biases, if_neg dims, if_neg data, ran]
  unfold accessed Tensor.fromVec
  dsimp only
  rw [dif_pos sized]
  rfl

theorem no_rows {xs : Tensor R} {weights : LinearWeights R} (fits : Fits xs weights outDim inDim)
    (rows : xs.dims.dropLast.prod = 0) :
    linearNativeF32WithKernel switches pulp kernel xs weights = .ok none := by
  have narrow : ¬xs.dims.length < 2 := Nat.not_lt.mpr fits.rank
  have biases : ¬∃ bias ∈ weights.bias, bias.dims ≠ [outDim] := by
    rintro ⟨bias, found, different⟩
    exact different (fits.bias bias found)
  unfold linearNativeF32WithKernel dims2
  rw [if_neg narrow, fits.weight]
  dsimp only [Except.bind, bind]
  rw [if_neg (not_not.mpr fits.input), if_neg biases, if_pos (.inl rows)]
  rfl

end Native

section Unpacked

variable (switches : LinearSwitches) (pulp : Simd R) (kernel : NativeLinearDotKernel)

/-- The weights that the loader unpacks carry no other blocked layout than their own. -/
theorem loaded_unpacked {isX86 enableBlocked : Bool} {weights : LinearWeights R}
    {unpacked : LinearF32Weights R}
    (loaded : linearF32WeightsWithBlocked switches isX86 weights enableBlocked = .ok unpacked) :
    Unpacked unpacked := by
  unfold linearF32WeightsWithBlocked at loaded
  cases dims : dims2 weights.weight with
  | error problem =>
      rw [dims] at loaded
      cases loaded
  | ok size =>
      obtain ⟨outDim, inDim⟩ := size
      rw [dims] at loaded
      dsimp only [Except.bind, bind] at loaded
      split at loaded
      · cases loaded
      · rename_i sized
        cases biases : unpackBias outDim weights.bias with
        | error problem =>
            rw [biases] at loaded
            cases loaded
        | ok bias =>
            rw [biases] at loaded
            dsimp only [Except.bind, bind] at loaded
            split at loaded
            · obtain ⟨packed, made, _⟩ := pack_weights weights.weight.data outDim inDim
              rw [made] at loaded
              cases loaded
              refine ⟨not_not.mp sized, ?_⟩
              intro blocked given
              exact made.trans (congrArg some given)
            · cases loaded
              refine ⟨not_not.mp sized, ?_⟩
              intro blocked given
              cases given

/-- The pieces of the blocked layout, as the blocked kernel loads them, are the weights. -/
structure ReadsBack (weightValues : List R) (outDim inDim : Nat)
    (blocked : LinearBlockedInput8Dot12Weights R) : Prop where
  width : blocked.inDim = inDim
  rows : blocked.fullOutDim = outDim / 12 * 12
  pieces : ∀ outBase inputBase, 12 ∣ outBase → outBase + 12 ≤ blocked.fullOutDim →
    8 ∣ inputBase → inputBase + 8 ≤ inDim → ∀ output : Fin 12,
      Loads (dot12M256 R switches)
        (fun inputBase => (dot12M256 R switches).loadu
          (((pointerTo blocked.values).add (outBase * inDim + inputBase * 12)).add (output * 8)))
        (fun index => cell weightValues ((outBase + output) * inDim + index)) inputBase

theorem reads_back {weightValues : List R} {outDim inDim : Nat}
    {blocked : LinearBlockedInput8Dot12Weights R}
    (packed : PackedWeights weightValues outDim inDim blocked) :
    ReadsBack switches weightValues outDim inDim blocked := by
  refine ⟨packed.width, packed.rows, ?_⟩
  intro outBase inputBase dozens rows eights inside output
  exact piece_loads switches packed dozens rows eights inside output

/-- Every linear projection is the matrix product, on any kernel and under any switches. -/
theorem linear_kernels_project :
    (∀ (xs : Tensor R) (weights : LinearWeights R) (outDim inDim : Nat),
      Fits xs weights outDim inDim →
        (xs.dims.dropLast.prod = 0 →
          linearNativeF32WithKernel switches pulp kernel xs weights = .ok none) ∧
        (xs.dims.dropLast.prod ≠ 0 → ∃ out,
          linearNativeF32WithKernel switches pulp kernel xs weights = .ok (some out) ∧
            out.dims = xs.dims.dropLast ++ [outDim] ∧
            Projected (weights.bias.map Tensor.data) xs.data weights.weight.data
              xs.dims.dropLast.prod outDim inDim out.data)) ∧
    (∀ (weights : LinearF32Weights R) (inputValues outputValues : List R) (rowCount : Nat),
      Unpacked weights → inputValues.length = rowCount * weights.inDim →
        outputValues.length = rowCount * weights.outDim → ∃ final,
          linearProjectF32BatchSameX switches pulp kernel inputValues rowCount weights
              outputValues = some final ∧
            Projected none inputValues weights.weight rowCount weights.outDim weights.inDim
              final) ∧
    ∀ (weightValues : List R) (outDim inDim : Nat), ∃ packed,
      linearPackInput8Dot12Weights weightValues outDim inDim = some packed ∧
        ∀ blocked, packed = some blocked →
          ReadsBack switches weightValues outDim inDim blocked := by
  refine ⟨?_, ?_, ?_⟩
  · intro xs weights outDim inDim fits
    exact ⟨no_rows switches pulp kernel fits, native_projects switches pulp kernel fits⟩
  · intro weights inputValues outputValues rowCount unpacked input output
    obtain ⟨final, ran, written⟩ :=
      f32_batch switches pulp kernel unpacked input outputValues output
    exact ⟨final, ran, written_projected written⟩
  · intro weightValues outDim inDim
    obtain ⟨packed, made, whole⟩ := pack_weights weightValues outDim inDim
    refine ⟨packed, made, ?_⟩
    intro blocked found
    exact reads_back switches (whole blocked found).2

end Unpacked

def everySwitch : LinearSwitches :=
  ⟨true, true, true, true, true, true, true, true, true, true, true, true, true⟩

def threeRows : Tensor Int := ⟨[3, 2], [1, 2, 3, 4, 5, 6], rfl⟩

def oneOutput : LinearWeights Int := ⟨⟨[1, 2], [10, 1], rfl⟩, some ⟨[1], [7], rfl⟩⟩

theorem three_rows_fit : Fits threeRows oneOutput 1 2 := by
  refine ⟨by decide, rfl, rfl, ?_, by decide, by decide⟩
  intro bias found
  cases found
  rfl

theorem three_rows_projected : ∃ out,
    linearNativeF32WithKernel everySwitch (laneFunctions Int 4 (by decide)) .avx2Fma threeRows
        oneOutput = .ok (some out) ∧ out.dims = [3, 1] ∧
      Projected (some [7]) [1, 2, 3, 4, 5, 6] [10, 1] 3 1 2 out.data := by
  have every := linear_kernels_project everySwitch (laneFunctions Int 4 (by decide)) .avx2Fma
  exact (every.1 threeRows oneOutput 1 2 three_rows_fit).2 (by decide)

def biasedWeights : LinearF32Weights Int := ⟨1, 1, [2], some [5], none⟩

/-- The bias of unpacked weights is left out of the projection. -/
theorem unpacked_bias_left_out :
    linearProjectF32BatchSameX everySwitch (laneFunctions Int 4 (by decide)) .scalar [3] 1
        biasedWeights [0] = some [6] ∧
      ¬Projected biasedWeights.bias [3] biasedWeights.weight 1 1 1 [6] := by
  refine ⟨by decide, ?_⟩
  intro projected
  have product := congrFun (congrFun projected.product 0) 0
  revert product
  decide

end RwkvSrs.LinearProducts
