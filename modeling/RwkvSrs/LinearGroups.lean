import Mathlib.Tactic.FinCases
import RwkvSrs.LinearDispatch

/-!
Batches of rows. The output is a buffer of rows, filled from the front: one row
is written through a handed out part, four or two rows through the parts that
splitting the buffer leaves. The rows that a group leaves over are taken by the
next smaller group, so every row of the buffer is written.
-/

namespace RwkvSrs.LinearGroups

open CheckedLoops SimdLanes PortableRecurrence LinearKernels LinearTiles LinearProjection
open LinearBatches LinearRows LinearDispatch

set_option autoImplicit false

variable {R : Type} [CommRing R]

def rowCells (wanted : Nat → Nat → R) (outDim place : Nat) : R :=
  wanted (place / outDim) (place % outDim)

omit [CommRing R] in
theorem row_cells (wanted : Nat → Nat → R) {outDim output : Nat} (row : Nat)
    (below : output < outDim) :
    rowCells wanted outDim (row * outDim + output) = wanted row output := by
  have positive : 0 < outDim := Nat.lt_of_le_of_lt (Nat.zero_le output) below
  unfold rowCells
  rw [Nat.mul_comm row outDim, Nat.mul_add_div positive, Nat.div_eq_of_lt below, Nat.add_zero,
    Nat.mul_add_mod, Nat.mod_eq_of_lt below]

omit [CommRing R] in
theorem row_filled {wanted : Nat → Nat → R} {outDim : Nat} (row : Nat) {part : List R}
    (full : FilledTo (wanted row) outDim outDim part) :
    FilledTo (fun index => rowCells wanted outDim (row * outDim + index)) outDim outDim part := by
  apply full.congr
  intro index below
  exact (row_cells wanted row below).symm

/-- All rows of the output buffer are written. -/
def Written (wanted : Nat → Nat → R) (rowCount outDim row : Nat) (output : List R) : Prop :=
  FilledTo (rowCells wanted outDim) (rowCount * outDim) (row * outDim) output

section Buffer

variable {wanted : Nat → Nat → R} {rowCount outDim : Nat}

theorem rows_inside (row count outDim : Nat) (below : row + count ≤ rowCount) :
    row * outDim + count * outDim ≤ rowCount * outDim := by
  rw [← Nat.add_mul]
  exact Nat.mul_le_mul_right outDim below

omit [CommRing R] in
theorem write_row {row : Nat} {output : List R} {project : List R → Option (List R)}
    (written : Written wanted rowCount outDim row output) (below : row < rowCount)
    (projects : Projects project (wanted row) outDim) :
    ∃ next, updateSlice output (row * outDim) (row * outDim + outDim) project = some next ∧
      Written wanted rowCount outDim (row + 1) next := by
  have inside := rows_inside row 1 outDim (Nat.succ_le_of_lt below)
  rw [Nat.one_mul] at inside
  have fills : ∀ part : List R, part.length = outDim → ∃ updated, project part = some updated ∧
      FilledTo (fun index => rowCells wanted outDim (row * outDim + index)) outDim outDim
        updated := by
    intro part length
    obtain ⟨updated, ran, full⟩ := projects part length
    exact ⟨updated, ran, row_filled row full⟩
  obtain ⟨next, ran, filled⟩ := FilledTo.updateSlice written inside fills
  refine ⟨next, ran, ?_⟩
  unfold Written
  rw [Nat.succ_mul]
  exact filled

/-! Four or two rows are split off the buffer, and put back around what follows them. -/

section Parts

variable {Value : Type} {cells : Nat → Value} {size base width : Nat} {output part : List Value}

theorem head_back (filled : FilledTo cells size base output) (room : base + width ≤ size)
    (full : FilledTo (fun index => cells (base + index)) width width part) :
    ∃ before, storeSlice (output.take (base + width)) base part = some before ∧
      FilledTo cells (base + width) (base + width) before := by
  apply FilledTo.storeSlice
  · exact filled.take room (Nat.le_add_right base width)
  · exact Nat.le_refl _
  · exact full

theorem tail_back {first : Nat} (rest : List Value) (room : width ≤ rest.length)
    (full : FilledTo (fun index => cells (first + index)) width width part) :
    ∃ after, storeSlice rest 0 part = some after ∧
      FilledTo (fun index => cells (first + index)) rest.length width after := by
  have start := FilledTo.start (fun index => cells (first + index)) rest
  obtain ⟨after, stored, filled⟩ := start.storeSlice (by rw [Nat.zero_add]; exact room)
    (full.congr fun index _ => by rw [Nat.zero_add])
  rw [Nat.zero_add] at filled
  exact ⟨after, stored, filled⟩

theorem two_back (filled : FilledTo cells size base output) (room : base + 2 * width ≤ size)
    {finished : Fin 2 → List Value}
    (full : ∀ row : Fin 2,
      FilledTo (fun index => cells (base + row * width + index)) width width (finished row)) :
    ∃ before after, storeSlice (output.take (base + width)) base (finished 0) = some before ∧
      storeSlice (output.drop (base + width)) 0 (finished 1) = some after ∧
      FilledTo cells size (base + 2 * width) (before ++ after) := by
  have first := full 0
  have second := full 1
  simp only [Fin.val_zero, Fin.val_one, Nat.zero_mul, Nat.add_zero, Nat.one_mul] at first second
  have length : (output.drop (base + width)).length = size - (base + width) := by
    rw [List.length_drop, filled.length]
  obtain ⟨before, stored, filledBefore⟩ := head_back filled (by omega) first
  obtain ⟨after, storedAfter, filledAfter⟩ := tail_back (output.drop (base + width)) (by omega) second
  refine ⟨before, after, stored, storedAfter, ?_⟩
  have joined := filledBefore.append filledAfter
  rw [length] at joined
  have whole : base + width + (size - (base + width)) = size := by omega
  have reached : base + width + width = base + 2 * width := by omega
  rw [whole, reached] at joined
  exact joined

theorem four_back (filled : FilledTo cells size base output) (room : base + 4 * width ≤ size)
    {finished : Fin 4 → List Value}
    (full : ∀ row : Fin 4,
      FilledTo (fun index => cells (base + row * width + index)) width width (finished row)) :
    ∃ before after, storeSlice (output.take (base + width)) base (finished 0) = some before ∧
      storeSlice (((output.drop (base + width)).drop width).drop width) 0 (finished 3) =
        some after ∧
      FilledTo cells size (base + 4 * width)
        (before ++ (finished 1 ++ (finished 2 ++ after))) := by
  have first := full 0
  have second := full 1
  have third := full 2
  have fourth := full 3
  have threeWidths : base + 3 * width = base + width + width + width := by omega
  have twoWidths : base + 2 * width = base + width + width := by omega
  simp only [Fin.isValue, Fin.coe_ofNat_eq_mod, Nat.zero_mod, Nat.reduceMod, Nat.zero_mul,
    Nat.add_zero, Nat.one_mul, twoWidths, threeWidths] at first second third fourth
  have length : (((output.drop (base + width)).drop width).drop width).length =
      size - (base + 3 * width) := by
    rw [List.length_drop, List.length_drop, List.length_drop, filled.length]
    omega
  obtain ⟨before, stored, filledBefore⟩ := head_back filled (by omega) first
  obtain ⟨after, storedAfter, filledAfter⟩ :=
    tail_back (((output.drop (base + width)).drop width).drop width) (by omega) fourth
  refine ⟨before, after, stored, storedAfter, ?_⟩
  have last : FilledTo (fun index => cells (base + width + (width + index)))
      (width + (size - (base + 3 * width))) (width + width) (finished 2 ++ after) := by
    apply FilledTo.append
    · exact third.congr fun index _ => by rw [Nat.add_assoc (base + width)]
    · rw [← length]
      exact filledAfter.congr fun index _ => by simp only [Nat.add_assoc]
  have joined := filledBefore.append (second.append last)
  have whole : base + width + (width + (width + (size - (base + 3 * width)))) = size := by omega
  have reached : base + width + (width + (width + width)) = base + 4 * width := by omega
  rw [whole, reached] at joined
  exact joined

end Parts

end Buffer

section Groups

variable (switches : LinearSwitches) {rows : Nat} {xsRows : Fin rows → List R}
  {weightValues : List R} {outDim inDim : Nat}

theorem group_slices (lengths : ∀ row, (xsRows row).length = inDim) {count outIndex : Nat}
    {weights : Fin count → List R}
    (wanted : ∀ output : Fin count,
      WeightRow weightValues inDim (outIndex + output) (weights output)) :
    dotTile (sharedM256 R switches) (fun row => pointerTo (xsRows row))
        (fun output => pointerTo (weights output)) inDim =
      some fun row (output : Fin count) =>
        rowProduct (xsRows row) weightValues inDim (outIndex + output) := by
  unfold sharedM256
  rw [dot_tile switches _ (slice_holds lengths) (slice_holds fun output => (wanted output).length)]
  apply congrArg
  funext row output
  exact row_of_slices (xsRows row) (wanted output)

theorem group_pointers (lengths : ∀ row, (xsRows row).length = inDim)
    (sized : weightValues.length = outDim * inDim) {count outIndex : Nat}
    (inside : outIndex + count ≤ outDim) :
    dotTile (sharedM256 R switches) (fun row => pointerTo (xsRows row))
        (fun output : Fin count =>
          ((pointerTo weightValues).add (outIndex * inDim)).add (output * inDim)) inDim =
      some fun row (output : Fin count) =>
        rowProduct (xsRows row) weightValues inDim (outIndex + output) := by
  unfold sharedM256
  rw [dot_tile switches _ (slice_holds lengths) (pointer_holds sized inside)]
  apply congrArg
  funext row output
  exact pointer_row (xsRows row) weightValues inDim outIndex output

theorem one_group_answers (lengths : ∀ row, (xsRows row).length = inDim)
    (sized : weightValues.length = outDim * inDim) :
    Answers (dot1RowsAt switches xsRows weightValues inDim)
      (fun row => rowProduct (xsRows row) weightValues inDim) outDim := by
  intro outIndex inside
  obtain ⟨weightRow, taken, wanted⟩ := weight_slice sized (Nat.lt_of_succ_le inside)
  have answered : ∀ row, ∃ value, (do
      return (← linearDotAvx2Fma switches (xsRows row) weightRow) 0) = some value ∧
      value = fun place : Fin 1 => rowProduct (xsRows row) weightValues inDim (outIndex + place) := by
    intro row
    rw [single_dot switches (lengths row) wanted]
    exact ⟨_, rfl, rfl⟩
  obtain ⟨values, gathered, found⟩ := gather_each
    (fun row value => value = fun place : Fin 1 =>
      rowProduct (xsRows row) weightValues inDim (outIndex + place)) answered
  unfold dot1RowsAt
  rw [taken]
  simp only [Option.bind_eq_bind, Option.bind_some]
  apply gathered.trans
  apply congrArg
  funext row
  exact found row

/-- A kernel for several rows fills each of their output rows. -/
def GroupProjects (project : (Fin rows → List R) → Option (Fin rows → List R))
    (wanted : Fin rows → Nat → R) (outDim : Nat) : Prop :=
  ∀ outputRows : Fin rows → List R, (∀ row, (outputRows row).length = outDim) →
    ∃ final, project outputRows = some final ∧ ∀ row, FilledTo (wanted row) outDim outDim (final row)

omit [CommRing R] in
theorem group_starts {wanted : Fin rows → Nat → R} {outputRows : Fin rows → List R}
    (lengths : ∀ row, (outputRows row).length = outDim) (row : Fin rows) :
    FilledTo (wanted row) outDim 0 (outputRows row) := by
  have start := FilledTo.start (wanted row) (outputRows row)
  rw [lengths row] at start
  exact start

end Groups

section FourAndTwo

variable (switches : LinearSwitches) {weightValues : List R} {outDim inDim : Nat}

theorem four_rows_answer {xsRows : Fin 4 → List R} (lengths : ∀ row, (xsRows row).length = inDim)
    (sized : weightValues.length = outDim * inDim) :
    Answers (dot2FourRowsAt switches xsRows weightValues inDim)
      (fun row => rowProduct (xsRows row) weightValues inDim) outDim := by
  intro outIndex inside
  unfold dot2FourRowsAt
  split
  · exact group_pointers switches lengths sized inside
  · obtain ⟨weights, taken, wanted⟩ := weight_rows sized inside
    rw [taken]
    simp only [Option.bind_eq_bind, Option.bind_some]
    unfold linearDot2FourRowsSameXAvx2Fma
    rw [lengths 0]
    exact group_slices switches lengths wanted

theorem two_rows_answer {xsRows : Fin 2 → List R} (lengths : ∀ row, (xsRows row).length = inDim)
    (sized : weightValues.length = outDim * inDim) :
    Answers (dot4TwoRowsAt switches xsRows weightValues inDim)
      (fun row => rowProduct (xsRows row) weightValues inDim) outDim := by
  intro outIndex inside
  unfold dot4TwoRowsAt
  split
  · exact group_pointers switches lengths sized inside
  · obtain ⟨weights, taken, wanted⟩ := weight_rows sized inside
    rw [taken]
    simp only [Option.bind_eq_bind, Option.bind_some]
    unfold linearDot4TwoRowsSameXAvx2Fma
    rw [lengths 0]
    exact group_slices switches lengths wanted

theorem four_rows {xsRows : Fin 4 → List R} (lengths : ∀ row, (xsRows row).length = inDim)
    (sized : weightValues.length = outDim * inDim) :
    GroupProjects (linearProjectFourRowsSameXAvx2Fma switches xsRows weightValues outDim inDim)
      (fun row => rowProduct (xsRows row) weightValues inDim) outDim := by
  intro outputRows outputLengths
  obtain ⟨_, twos, ranTwos, _, insideTwos, filledTwos⟩ :=
    chunks_fill (four_rows_answer switches lengths sized) (Nat.zero_le outDim)
      (group_starts outputLengths)
  obtain ⟨_, ones, ranOnes, full⟩ :=
    last_chunks (one_group_answers switches lengths sized) insideTwos filledTwos
  refine ⟨ones, ?_, full⟩
  unfold linearProjectFourRowsSameXAvx2Fma
  rw [ranTwos]
  simp only [Option.bind_eq_bind, Option.bind_some]
  rw [ranOnes]
  rfl

theorem two_rows {xsRows : Fin 2 → List R} (lengths : ∀ row, (xsRows row).length = inDim)
    (sized : weightValues.length = outDim * inDim) :
    GroupProjects (linearProjectTwoRowsSameXAvx2Fma switches xsRows weightValues outDim inDim)
      (fun row => rowProduct (xsRows row) weightValues inDim) outDim := by
  intro outputRows outputLengths
  obtain ⟨_, fours, ranFours, _, insideFours, filledFours⟩ :=
    chunks_fill (two_rows_answer switches lengths sized) (Nat.zero_le outDim)
      (group_starts outputLengths)
  obtain ⟨_, ones, ranOnes, full⟩ :=
    last_chunks (one_group_answers switches lengths sized) insideFours filledFours
  refine ⟨ones, ?_, full⟩
  unfold linearProjectTwoRowsSameXAvx2Fma
  rw [ranFours]
  simp only [Option.bind_eq_bind, Option.bind_some]
  rw [ranOnes]
  rfl

end FourAndTwo

/-- The product of an input row of a batch and a weight row, with its bias. -/
def batchProduct (bias : Option (List R)) (inputValues weightValues : List R)
    (inDim row output : Nat) : R :=
  product (fun index => cell inputValues (row * inDim + index))
    (fun index => cell weightValues (output * inDim + index)) inDim + biasCell bias output

structure BatchShaped (inputValues weightValues : List R) (rowCount outDim inDim : Nat) : Prop where
  input : inputValues.length = rowCount * inDim
  weight : weightValues.length = outDim * inDim

section Batch

variable {inputValues weightValues : List R} {rowCount outDim inDim : Nat}

/-- A row of the batch, with the products it stands for. -/
structure InputRow (bias : Option (List R)) (inputValues weightValues : List R)
    (outDim inDim row : Nat) (xsRow : List R) : Prop where
  shaped : RowShaped xsRow weightValues outDim inDim
  products : ∀ output, biasedProduct bias xsRow weightValues inDim output =
    batchProduct bias inputValues weightValues inDim row output

theorem input_row (bias : Option (List R))
    (shaped : BatchShaped inputValues weightValues rowCount outDim inDim) {row : Nat}
    (below : row < rowCount) :
    ∃ xsRow, slice inputValues (row * inDim) (row * inDim + inDim) = some xsRow ∧
      InputRow bias inputValues weightValues outDim inDim row xsRow := by
  obtain ⟨xsRow, taken, found⟩ := weight_slice shaped.input below
  rw [Nat.succ_mul] at taken
  refine ⟨xsRow, taken, ⟨found.length, shaped.weight⟩, ?_⟩
  intro output
  unfold biasedProduct batchProduct
  apply congrArg (· + _)
  exact product_congr found.cells fun _ _ => rfl

theorem input_rows (bias : Option (List R))
    (shaped : BatchShaped inputValues weightValues rowCount outDim inDim) {count rowIndex : Nat}
    (room : rowIndex + count ≤ rowCount) :
    ∃ xsRows : Fin count → List R, gather (fun row : Fin count => slice inputValues
        ((rowIndex + row) * inDim) ((rowIndex + row) * inDim + inDim)) = some xsRows ∧
      ∀ row : Fin count, InputRow bias inputValues weightValues outDim inDim (rowIndex + row)
        (xsRows row) := by
  apply gather_each
  intro row
  exact input_row bias shaped (by omega)

variable (switches : LinearSwitches) (pulp : Simd R) (kernel : NativeLinearDotKernel)
  {bias : Option (List R)}

/-- The rows of a group, with their bias, as cells of the output buffer. -/
theorem finish_rows (sized : BiasSized bias outDim) {count rowIndex : Nat}
    {xsRows projected : Fin count → List R}
    (inputs : ∀ row : Fin count, InputRow bias inputValues weightValues outDim inDim (rowIndex + row)
      (xsRows row))
    (full : ∀ row, FilledTo (rowProduct (xsRows row) weightValues inDim) outDim outDim
      (projected row)) :
    ∃ finished, gather (fun row => finishRow bias (projected row)) = some finished ∧
      ∀ row : Fin count, FilledTo (fun index =>
        rowCells (batchProduct bias inputValues weightValues inDim) outDim
          (rowIndex * outDim + row * outDim + index)) outDim outDim (finished row) := by
  apply gather_each fun (row : Fin count) values => FilledTo (fun index =>
    rowCells (batchProduct bias inputValues weightValues inDim) outDim
      (rowIndex * outDim + row * outDim + index)) outDim outDim values
  intro row
  obtain ⟨finished, ran, filled⟩ := finish_row sized (full row)
  refine ⟨finished, ran, ?_⟩
  rw [← Nat.add_mul]
  apply row_filled (rowIndex + row)
  exact filled.congr fun output _ => (inputs row).products output

theorem four_rows_turn (shaped : BatchShaped inputValues weightValues rowCount outDim inDim)
    (sized : BiasSized bias outDim) {rowIndex : Nat} {output : List R}
    (room : rowIndex + 4 ≤ rowCount)
    (written : Written (batchProduct bias inputValues weightValues inDim) rowCount outDim rowIndex
      output) :
    ∃ next, projectFourRows switches bias inputValues inDim weightValues outDim rowIndex output =
        some next ∧
      Written (batchProduct bias inputValues weightValues inDim) rowCount outDim (rowIndex + 4)
        next := by
  obtain ⟨xsRows, taken, inputs⟩ := input_rows bias shaped room
  have inside := rows_inside rowIndex 4 outDim room
  have length : output.length = rowCount * outDim := written.length
  obtain ⟨projected, ran, full⟩ := four_rows switches (fun row => (inputs row).shaped.x)
    shaped.weight ![
      (((output.take (rowIndex * outDim + outDim)).take (rowIndex * outDim + outDim)).drop
        (rowIndex * outDim)),
      (output.drop (rowIndex * outDim + outDim)).take outDim,
      ((output.drop (rowIndex * outDim + outDim)).drop outDim).take outDim,
      ((((output.drop (rowIndex * outDim + outDim)).drop outDim).drop outDim).take outDim).drop 0]
    (by
      intro row
      fin_cases row <;> simp [length] <;> omega)
  obtain ⟨finished, gathered, filled⟩ := finish_rows sized inputs full
  obtain ⟨before, after, storedBefore, storedAfter, back⟩ := four_back written inside filled
  refine ⟨before ++ (finished 1 ++ (finished 2 ++ after)), ?_, ?_⟩
  · unfold projectFourRows
    rw [taken, Nat.succ_mul]
    simp only [Option.bind_eq_bind, Option.bind_some]
    rw [split_inside (by omega)]
    simp only [Option.bind_some]
    rw [slice_inside (by omega) (by rw [List.length_take]; omega)]
    simp only [Option.bind_some]
    rw [split_inside (by rw [List.length_drop]; omega)]
    simp only [Option.bind_some]
    rw [split_inside (by rw [List.length_drop, List.length_drop]; omega)]
    simp only [Option.bind_some]
    rw [slice_inside (by omega)
      (by rw [List.length_drop, List.length_drop, List.length_drop]; omega)]
    simp only [Option.bind_some]
    rw [ran]
    simp only [Option.bind_some]
    rw [gathered]
    simp only [Option.bind_some]
    rw [storedBefore]
    simp only [Option.bind_some]
    rw [storedAfter]
    rfl
  · unfold Written
    rw [Nat.add_mul]
    exact back

theorem two_rows_turn (shaped : BatchShaped inputValues weightValues rowCount outDim inDim)
    (sized : BiasSized bias outDim) {rowIndex : Nat} {output : List R}
    (room : rowIndex + 2 ≤ rowCount)
    (written : Written (batchProduct bias inputValues weightValues inDim) rowCount outDim rowIndex
      output) :
    ∃ next, projectTwoRows switches bias inputValues inDim weightValues outDim rowIndex output =
        some next ∧
      Written (batchProduct bias inputValues weightValues inDim) rowCount outDim (rowIndex + 2)
        next := by
  obtain ⟨xsRows, taken, inputs⟩ := input_rows bias shaped room
  have inside := rows_inside rowIndex 2 outDim room
  have length : output.length = rowCount * outDim := written.length
  obtain ⟨projected, ran, full⟩ := two_rows switches (fun row => (inputs row).shaped.x)
    shaped.weight ![
      (((output.take (rowIndex * outDim + outDim)).take (rowIndex * outDim + outDim)).drop
        (rowIndex * outDim)),
      ((output.drop (rowIndex * outDim + outDim)).take outDim).drop 0]
    (by
      intro row
      fin_cases row <;> simp [length] <;> omega)
  obtain ⟨finished, gathered, filled⟩ := finish_rows sized inputs full
  obtain ⟨before, after, storedBefore, storedAfter, back⟩ := two_back written inside filled
  refine ⟨before ++ after, ?_, ?_⟩
  · unfold projectTwoRows
    rw [taken, Nat.succ_mul]
    simp only [Option.bind_eq_bind, Option.bind_some]
    rw [split_inside (by omega)]
    simp only [Option.bind_some]
    rw [slice_inside (by omega) (by rw [List.length_take]; omega)]
    simp only [Option.bind_some]
    rw [slice_inside (by omega) (by rw [List.length_drop]; omega)]
    simp only [Option.bind_some]
    rw [ran]
    simp only [Option.bind_some]
    rw [gathered]
    simp only [Option.bind_some]
    rw [storedBefore]
    simp only [Option.bind_some]
    rw [storedAfter]
    rfl
  · unfold Written
    rw [Nat.add_mul]
    exact back

theorem last_row (shaped : BatchShaped inputValues weightValues rowCount outDim inDim)
    (sized : BiasSized bias outDim) {rowIndex : Nat} {output : List R}
    (reached : rowIndex ≤ rowCount) (near : rowCount < rowIndex + 2)
    (written : Written (batchProduct bias inputValues weightValues inDim) rowCount outDim rowIndex
      output) :
    ∃ final, projectLastRow switches pulp kernel bias inputValues rowCount inDim weightValues
        outDim rowIndex output = some final ∧
      Written (batchProduct bias inputValues weightValues inDim) rowCount outDim rowCount
        final := by
  unfold projectLastRow
  split
  · rename_i below
    obtain ⟨xsRow, taken, input⟩ := input_row bias shaped below
    have projects := projects_congr (project_row switches pulp kernel input.shaped sized)
      fun output _ => input.products output
    obtain ⟨final, ran, writtenFinal⟩ := write_row written below projects
    have whole : rowIndex + 1 = rowCount := by omega
    rw [whole] at writtenFinal
    refine ⟨final, ?_, writtenFinal⟩
    rw [taken]
    exact ran
  · rename_i finished
    have whole : rowIndex = rowCount := by omega
    rw [whole] at written
    exact ⟨output, rfl, written⟩

/-- An output buffer of a batch, filled as a whole. -/
def FillsBatch (fill : List R → Option (List R)) (wanted : Nat → Nat → R)
    (rowCount outDim : Nat) : Prop :=
  ∀ output : List R, output.length = rowCount * outDim →
    ∃ final, fill output = some final ∧ Written wanted rowCount outDim rowCount final

omit [CommRing R] in
theorem batch_starts (wanted : Nat → Nat → R) {output : List R}
    (length : output.length = rowCount * outDim) : Written wanted rowCount outDim 0 output := by
  have start := FilledTo.start (rowCells wanted outDim) output
  unfold Written
  rw [Nat.zero_mul, ← length]
  exact start

theorem avx2_batch (shaped : BatchShaped inputValues weightValues rowCount outDim inDim)
    (sized : BiasSized bias outDim) :
    FillsBatch (avx2Batch switches pulp bias inputValues rowCount inDim weightValues outDim)
      (batchProduct bias inputValues weightValues inDim) rowCount outDim := by
  intro output length
  have start := batch_starts (batchProduct bias inputValues weightValues inDim) length
  have fourRows : ∃ fourEnd fours,
      (if switches.batchedFourRowSameX then whileBelow 4 4 rowCount
        (projectFourRows switches bias inputValues inDim weightValues outDim) 0 output
      else some (0, output)) = some (fourEnd, fours) ∧ fourEnd ≤ rowCount ∧
      Written (batchProduct bias inputValues weightValues inDim) rowCount outDim fourEnd
        fours := by
    split
    · obtain ⟨last, final, ran, _, reached, written⟩ := while_runs
        (fun rowIndex output => rowIndex ≤ rowCount ∧
          Written (batchProduct bias inputValues weightValues inDim) rowCount outDim rowIndex
            output)
        (fun rowIndex output room before => by
          obtain ⟨next, ran, written⟩ := four_rows_turn switches shaped sized room before.2
          exact ⟨next, ran, room, written⟩)
        0 output ⟨Nat.zero_le rowCount, start⟩
      exact ⟨last, final, ran, reached, written⟩
    · exact ⟨0, output, rfl, Nat.zero_le rowCount, start⟩
  obtain ⟨fourEnd, fours, ranFours, reachedFours, writtenFours⟩ := fourRows
  obtain ⟨twoEnd, twos, ranTwos, beyond, reachedTwos, writtenTwos⟩ := while_runs
    (fun rowIndex output => rowIndex ≤ rowCount ∧
      Written (batchProduct bias inputValues weightValues inDim) rowCount outDim rowIndex output)
    (fun rowIndex output room before => by
      obtain ⟨next, ran, written⟩ := two_rows_turn switches shaped sized room before.2
      exact ⟨next, ran, room, written⟩)
    fourEnd fours ⟨reachedFours, writtenFours⟩
  obtain ⟨final, ranLast, written⟩ :=
    last_row switches pulp .avx2Fma shaped sized reachedTwos beyond writtenTwos
  refine ⟨final, ?_, written⟩
  unfold avx2Batch
  dsimp only
  split at ranFours
  · rename_i grouped
    rw [if_pos grouped, ranFours]
    simp only [Option.bind_eq_bind, Option.bind_some]
    rw [ranTwos]
    exact ranLast
  · rename_i single
    cases ranFours
    rw [if_neg single]
    simp only [Option.bind_eq_bind, Option.bind_some]
    rw [ranTwos]
    exact ranLast

omit [CommRing R] in
/-- Row by row, through whatever projects a row. -/
theorem each_row {wanted : Nat → Nat → R} {project : List R → List R → Option (List R)}
    (rows : ∀ row < rowCount, ∃ xsRow,
      slice inputValues (row * inDim) (row * inDim + inDim) = some xsRow ∧
        Projects (project xsRow) (wanted row) outDim) :
    FillsBatch (eachRow inputValues rowCount inDim outDim project) wanted rowCount outDim := by
  intro output length
  apply for_runs fun row output => Written wanted rowCount outDim row output
  · intro row output below written
    obtain ⟨xsRow, taken, projects⟩ := rows row below
    obtain ⟨next, ran, writtenNext⟩ := write_row written below projects
    refine ⟨next, ?_, writtenNext⟩
    rw [Nat.succ_mul, Nat.succ_mul, taken]
    exact ran
  · exact batch_starts wanted length

theorem pulp_batch (shaped : BatchShaped inputValues weightValues rowCount outDim inDim)
    (sized : BiasSized bias outDim) :
    FillsBatch (pulpLinearProjectBatch pulp inputValues rowCount inDim weightValues bias outDim)
      (batchProduct bias inputValues weightValues inDim) rowCount outDim := by
  apply each_row
  intro row below
  obtain ⟨xsRow, taken, input⟩ := input_row bias shaped below
  exact ⟨xsRow, taken, projects_congr (portable_row pulp input.shaped sized)
    fun output _ => input.products output⟩

theorem project_rows (shaped : BatchShaped inputValues weightValues rowCount outDim inDim)
    (sized : BiasSized bias outDim) :
    FillsBatch
      (projectRows switches pulp kernel bias inputValues rowCount inDim weightValues outDim)
      (batchProduct bias inputValues weightValues inDim) rowCount outDim := by
  have rowByRow : FillsBatch (eachRow inputValues rowCount inDim outDim fun xsRow =>
      projectRow switches pulp kernel bias xsRow weightValues outDim inDim)
      (batchProduct bias inputValues weightValues inDim) rowCount outDim := by
    apply each_row
    intro row below
    obtain ⟨xsRow, taken, input⟩ := input_row bias shaped below
    exact ⟨xsRow, taken, projects_congr (project_row switches pulp kernel input.shaped sized)
      fun output _ => input.products output⟩
  intro output length
  unfold projectRows batchSameX
  split
  · exact rowByRow output length
  · cases kernel with
    | scalar => exact rowByRow output length
    | avx2Fma =>
        obtain ⟨final, ran, written⟩ := avx2_batch switches pulp shaped sized output length
        refine ⟨final, ?_, written⟩
        dsimp only
        rw [ran]
        rfl
    | pulp =>
        obtain ⟨final, ran, written⟩ := pulp_batch pulp shaped sized output length
        refine ⟨final, ?_, written⟩
        dsimp only
        rw [ran]
        rfl

end Batch

end RwkvSrs.LinearGroups
