import RwkvSrs.LinearRows

/-!
Every row, whichever kernel is chosen for it. The AVX2 kernels of eight and
twelve outputs, the specialised widths, the scalar kernel, the portable kernel
and the loop over single outputs all leave the row of products, and the bias is
added to each cell of it once.
-/

namespace RwkvSrs.LinearDispatch

open CheckedLoops SimdLanes PortableRecurrence LinearKernels LinearTiles LinearProjection
open LinearBatches LinearRows

set_option autoImplicit false

variable {R : Type} [CommRing R]

omit [CommRing R] in
theorem projects_congr {project : List R → Option (List R)} {wanted other : Nat → R}
    {outDim : Nat} (projects : Projects project wanted outDim)
    (same : ∀ output < outDim, wanted output = other output) :
    Projects project other outDim := by
  intro outputRow length
  obtain ⟨final, ran, full⟩ := projects outputRow length
  exact ⟨final, ran, full.congr same⟩

section Avx2

variable (switches : LinearSwitches) (fixed : Bool) {xsRow weightValues : List R}
  {outDim inDim : Nat}

theorem fixed_width_eights (wide : fixedWidth inDim) : 8 ∣ inDim := by
  unfold fixedWidth at wide
  simp only [Bool.or_eq_true, beq_iff_eq] at wide
  omega

theorem dot4_row (shaped : RowShaped xsRow weightValues outDim inDim)
    (eights : fixed = true → 8 ∣ inDim) :
    Projects (fun outputRow =>
        chunksFrom4 switches fixed xsRow weightValues outDim inDim (0, fun _ => outputRow))
      (rowProduct xsRow weightValues inDim) outDim := by
  intro outputRow length
  apply chunks_from4 switches fixed shaped eights (Nat.zero_le outDim)
  exact row_starts _ length

theorem dot8_row (shaped : RowShaped xsRow weightValues outDim inDim)
    (eights : fixed = true → 8 ∣ inDim) :
    Projects (fun outputRow =>
        chunksFrom8 switches fixed xsRow weightValues outDim inDim (0, fun _ => outputRow))
      (rowProduct xsRow weightValues inDim) outDim := by
  intro outputRow length
  apply chunks_from8 switches fixed shaped eights (Nat.zero_le outDim)
  exact row_starts _ length

theorem dot12_row (shaped : RowShaped xsRow weightValues outDim inDim)
    (eights : fixed = true → 8 ∣ inDim) :
    Projects (fun outputRow =>
        chunksFrom12 switches fixed xsRow weightValues outDim inDim (0, fun _ => outputRow))
      (rowProduct xsRow weightValues inDim) outDim := by
  intro outputRow length
  apply chunks_from12 switches fixed shaped eights (Nat.zero_le outDim)
  exact row_starts _ length

end Avx2

section Kernels

variable (switches : LinearSwitches) (pulp : Simd R) (kernel : NativeLinearDotKernel)
  {xsRow weightValues : List R} {outDim inDim : Nat}

theorem single_dot (xsLength : xsRow.length = inDim) {output : Nat} {weightRow : List R}
    (wanted : WeightRow weightValues inDim output weightRow) :
    linearDotAvx2Fma switches xsRow weightRow = some fun _ (place : Fin 1) =>
      rowProduct xsRow weightValues inDim (output + place) := by
  apply dot_rows switches xsLength
  intro place
  rw [Fin.val_eq_zero, Nat.add_zero]
  exact wanted

theorem linear_dot_row (xsLength : xsRow.length = inDim) {output : Nat} {weightRow : List R}
    (wanted : WeightRow weightValues inDim output weightRow) :
    linearDot switches pulp kernel xsRow weightRow =
      some (rowProduct xsRow weightValues inDim output) := by
  cases kernel with
  | scalar => exact linear_dot_scalar xsLength wanted
  | avx2Fma =>
      unfold linearDot
      dsimp only
      rw [single_dot switches xsLength wanted]
      rfl
  | pulp =>
      apply (RecurrenceAgreement.linear_dot_simd pulp xsLength wanted.length).trans
      apply congrArg
      exact product_congr (fun _ _ => rfl) wanted.cells

theorem each_output (shaped : RowShaped xsRow weightValues outDim inDim) :
    Projects (linearDotEach switches pulp kernel xsRow weightValues outDim inDim)
      (rowProduct xsRow weightValues inDim) outDim := by
  intro outputRow length
  apply for_runs fun outIndex output =>
    FilledTo (rowProduct xsRow weightValues inDim) outDim outIndex output
  · intro outIndex output below filled
    obtain ⟨weightRow, taken, wanted⟩ := weight_slice shaped.weight below
    obtain ⟨next, stored, filledNext⟩ := filled.store below
    refine ⟨next, ?_, filledNext⟩
    rw [taken]
    simp only [Option.bind_eq_bind, Option.bind_some]
    rw [linear_dot_row switches pulp kernel shaped.x wanted]
    exact stored
  · exact row_starts _ length 0

theorem pulp_row (shaped : RowShaped xsRow weightValues outDim inDim) :
    Projects (pulpLinearProjectRow pulp xsRow weightValues none outDim inDim)
      (rowProduct xsRow weightValues inDim) outDim := by
  intro outputRow length
  have unbiased : BiasSized (none : Option (List R)) outDim := by
    intro values given
    cases given
  have whole : slice xsRow (0 * inDim) ((0 + 1) * inDim) = some xsRow := by
    unfold slice
    rw [Nat.zero_mul, Nat.zero_add, Nat.one_mul, if_pos ⟨Nat.zero_le _, le_of_eq shaped.x.symm⟩,
      ← shaped.x, List.take_length, List.drop_zero]
  have project : Projects (linearProjectRowSimd pulp xsRow weightValues none outDim inDim)
      (fun index => rowProduct xsRow weightValues inDim (0 + index)) outDim := by
    apply projects_congr (portable_row pulp shaped unbiased)
    intro output _
    rw [Nat.zero_add]
    exact add_zero _
  have start := row_starts (rowProduct xsRow weightValues inDim) length 0
  obtain ⟨final, ran, full⟩ := start.updateSlice (by rw [Nat.zero_add]) project
  refine ⟨final, ?_, ?_⟩
  · unfold pulpLinearProjectRow pulpLinearProjectBatch forBelow
    simp only [List.range_one, List.foldlM_cons, List.foldlM_nil, Option.bind_eq_bind]
    rw [whole]
    simp only [Option.bind_some, Nat.zero_mul, Nat.zero_add, Nat.one_mul] at ran ⊢
    rw [ran]
    rfl
  · rw [Nat.zero_add] at full
    exact full

theorem dot4_choice (shaped : RowShaped xsRow weightValues outDim inDim)
    (native : kernel ≠ .pulp) :
    Projects (linearProjectRowDot4 switches pulp kernel xsRow weightValues outDim inDim)
      (rowProduct xsRow weightValues inDim) outDim := by
  intro outputRow length
  unfold linearProjectRowDot4
  split
  · cases kernel with
    | scalar => exact scalar_row shaped outputRow length
    | avx2Fma => exact dot4_row switches false shaped (fun no => nomatch no) outputRow length
    | pulp => exact absurd rfl native
  · exact each_output switches pulp kernel shaped outputRow length

theorem row_same_x (shaped : RowShaped xsRow weightValues outDim inDim) :
    Projects (linearProjectRowSameX switches pulp kernel xsRow weightValues outDim inDim)
      (rowProduct xsRow weightValues inDim) outDim := by
  intro outputRow length
  unfold linearProjectRowSameX
  split_ifs with isPulp fixed12 plain12 fixed8 plain8 fixed4
  · exact pulp_row pulp shaped outputRow length
  · have eights := fixed_width_eights fixed12.2.2.2.2.2.2
    exact dot12_row switches true shaped (fun _ => eights) outputRow length
  · exact dot12_row switches false shaped (fun no => nomatch no) outputRow length
  · have eights := fixed_width_eights fixed8.2.2.2.2.2
    exact dot8_row switches true shaped (fun _ => eights) outputRow length
  · exact dot8_row switches false shaped (fun no => nomatch no) outputRow length
  · have eights := fixed_width_eights fixed4.2.2.2.2
    exact dot4_row switches true shaped (fun _ => eights) outputRow length
  · exact dot4_choice switches pulp kernel shaped isPulp outputRow length

theorem bias_row {biasValues : List R} {wanted : Nat → R} (sized : biasValues.length = outDim)
    {outputRow : List R} (full : FilledTo wanted outDim outDim outputRow) :
    ∃ final, addLinearBiasToOutputRow biasValues outputRow = some final ∧
      FilledTo (fun output => wanted output + cell biasValues output) outDim outDim final := by
  have loop : ∃ final, addLinearBiasToOutputRow biasValues outputRow = some final ∧
      FilledTo (fun output => if output < outDim then wanted output + cell biasValues output
        else wanted output) outDim outDim final := by
    unfold addLinearBiasToOutputRow
    rw [full.length]
    apply for_runs fun outIndex row => FilledTo (fun output =>
      if output < outIndex then wanted output + cell biasValues output else wanted output)
      outDim outDim row
    · intro outIndex row below added
      have found : row[outIndex]? = some (wanted outIndex) := by
        rw [added.cells outIndex below, if_neg (Nat.lt_irrefl outIndex)]
      have read : biasValues[outIndex]? = some (cell biasValues outIndex) := by
        apply get_cell
        rw [sized]
        exact below
      obtain ⟨next, stored, written⟩ :=
        added.overwrite below (wanted outIndex + cell biasValues outIndex)
      refine ⟨next, ?_, ?_⟩
      · rw [found, read]
        exact stored
      · apply written.congr
        intro output _
        split_ifs with same before after
        · rw [same]
        · omega
        · rfl
        · omega
        · omega
        · rfl
    · exact full.congr fun output _ => (if_neg (Nat.not_lt_zero output)).symm
  obtain ⟨final, ran, written⟩ := loop
  exact ⟨final, ran, written.congr fun output below => if_pos below⟩

/-- A finished row carries its bias. -/
theorem finish_row {bias : Option (List R)} (sized : BiasSized bias outDim) {outputRow : List R}
    (full : FilledTo (rowProduct xsRow weightValues inDim) outDim outDim outputRow) :
    ∃ final, finishRow bias outputRow = some final ∧
      FilledTo (biasedProduct bias xsRow weightValues inDim) outDim outDim final := by
  cases bias with
  | none => exact ⟨outputRow, rfl, full.congr fun output _ => (add_zero _).symm⟩
  | some biasValues => exact bias_row (sized biasValues rfl) full

theorem project_row {bias : Option (List R)} (shaped : RowShaped xsRow weightValues outDim inDim)
    (sized : BiasSized bias outDim) :
    Projects (projectRow switches pulp kernel bias xsRow weightValues outDim inDim)
      (biasedProduct bias xsRow weightValues inDim) outDim := by
  intro outputRow length
  obtain ⟨products, projected, full⟩ := row_same_x switches pulp kernel shaped outputRow length
  obtain ⟨final, finished, fullFinal⟩ := finish_row sized full
  refine ⟨final, ?_, fullFinal⟩
  unfold projectRow
  rw [projected]
  exact finished

end Kernels

end RwkvSrs.LinearDispatch
