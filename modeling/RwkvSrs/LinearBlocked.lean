import RwkvSrs.LinearGroups

/-!
The blocked weight layout. Twelve weight rows are stored together, eight inputs
of each after the other; the packing appends those pieces in order, and a load
of the blocked kernel at the position of a piece finds the eight weights of its
row. The outputs beyond the last full dozen are read from the row-major weights.
-/

namespace RwkvSrs.LinearBlocked

open CheckedLoops SimdLanes PortableRecurrence LinearKernels LinearTiles LinearProjection
open LinearBatches LinearRows LinearDispatch LinearGroups

set_option autoImplicit false

variable {R : Type} [CommRing R]

/-- The weight that stands at a position of the blocked layout. -/
def packedCell (weightValues : List R) (inDim place : Nat) : R :=
  let within := place % (12 * inDim)
  cell weightValues
    ((place / (12 * inDim) * 12 + within % 96 / 8) * inDim + (within / 96 * 8 + within % 8))

/-- Where a piece of eight inputs of one output begins. -/
def piecePosition (inDim outBase inputBase output : Nat) : Nat :=
  outBase * inDim + inputBase * 12 + output * 8

theorem packed_piece (weightValues : List R) {inDim outBase inputBase output lane : Nat}
    (dozens : 12 ∣ outBase) (eights : 8 ∣ inputBase) (inside : inputBase + 8 ≤ inDim)
    (row : output < 12) (piece : lane < 8) :
    packedCell weightValues inDim (piecePosition inDim outBase inputBase output + lane) =
      cell weightValues ((outBase + output) * inDim + (inputBase + lane)) := by
  obtain ⟨block, rfl⟩ := dozens
  obtain ⟨inputBlock, rfl⟩ := eights
  have position : piecePosition inDim (12 * block) (8 * inputBlock) output + lane =
      12 * inDim * block + (96 * inputBlock + (8 * output + lane)) := by
    unfold piecePosition
    rw [Nat.mul_assoc 12 block, Nat.mul_assoc 12 inDim, Nat.mul_comm block inDim]
    omega
  have below : 96 * inputBlock + (8 * output + lane) < 12 * inDim := by omega
  have positive : 0 < 12 * inDim := by omega
  unfold packedCell
  dsimp only
  rw [position, Nat.mul_add_div positive, Nat.mul_add_mod, Nat.div_eq_of_lt below,
    Nat.mod_eq_of_lt below]
  have rowOf : (96 * inputBlock + (8 * output + lane)) % 96 / 8 = output := by omega
  have inputOf : (96 * inputBlock + (8 * output + lane)) / 96 = inputBlock := by omega
  have laneOf : (96 * inputBlock + (8 * output + lane)) % 8 = lane := by omega
  rw [rowOf, inputOf, laneOf, Nat.add_zero, Nat.mul_comm block 12, Nat.mul_comm inputBlock 8]

section Pack

variable {weightValues : List R} {outDim inDim : Nat}

/-- The blocked layout up to a position. -/
def PackedTo (weightValues : List R) (inDim count : Nat) (values : List R) : Prop :=
  FilledTo (packedCell weightValues inDim) count count values

theorem pack_inputs (sized : weightValues.length = outDim * inDim) {outBase inputBase : Nat}
    (dozens : 12 ∣ outBase) (rows : outBase + 12 ≤ outDim) (eights : 8 ∣ inputBase)
    (inside : inputBase + 8 ≤ inDim) {values : List R}
    (packed : PackedTo weightValues inDim (outBase * inDim + inputBase * 12) values) :
    ∃ next, packInputs weightValues inDim outBase inputBase values = some next ∧
      PackedTo weightValues inDim (outBase * inDim + (inputBase + 8) * 12) next := by
  have loop : ∃ next, packInputs weightValues inDim outBase inputBase values = some next ∧
      PackedTo weightValues inDim (piecePosition inDim outBase inputBase 12) next := by
    apply for_runs fun output values =>
      PackedTo weightValues inDim (piecePosition inDim outBase inputBase output) values
    · intro output values below before
      have rowEnd : (outBase + output + 1) * inDim ≤ outDim * inDim :=
        Nat.mul_le_mul_right inDim (by omega)
      rw [Nat.succ_mul] at rowEnd
      have ordered : (outBase + output) * inDim + inputBase ≤
          (outBase + output) * inDim + inputBase + 8 := Nat.le_add_right _ 8
      obtain ⟨piece, taken, length, cells⟩ := slice_part ordered
        (by rw [sized]; omega : _ ≤ weightValues.length)
      rw [Nat.add_sub_cancel_left] at length cells
      have filled : FilledTo (fun lane => packedCell weightValues inDim
          (piecePosition inDim outBase inputBase output + lane)) 8 8 piece := by
        refine ⟨length, ?_⟩
        intro lane under
        rw [cells lane under, packed_piece weightValues dozens eights inside below under,
          Nat.add_assoc]
        apply get_cell
        rw [sized]
        omega
      refine ⟨values ++ piece, ?_, ?_⟩
      · dsimp only
        rw [taken]
        rfl
      · have position : piecePosition inDim outBase inputBase (output + 1) =
            piecePosition inDim outBase inputBase output + 8 := by
          unfold piecePosition
          omega
        rw [position]
        exact FilledTo.append before filled
    · exact packed
  obtain ⟨next, ran, packedNext⟩ := loop
  have position : outBase * inDim + (inputBase + 8) * 12 =
      piecePosition inDim outBase inputBase 12 := by
    unfold piecePosition
    omega
  rw [position]
  exact ⟨next, ran, packedNext⟩

theorem pack_outputs (sized : weightValues.length = outDim * inDim) (wide : 8 ∣ inDim)
    {outBase : Nat} (dozens : 12 ∣ outBase) (rows : outBase + 12 ≤ outDim) {values : List R}
    (packed : PackedTo weightValues inDim (outBase * inDim) values) :
    ∃ next, packOutputs weightValues inDim outBase values = some next ∧
      PackedTo weightValues inDim ((outBase + 12) * inDim) next := by
  have loop : ∃ last final, whileBelow 1 8 inDim (packInputs weightValues inDim outBase) 0 values =
      some (last, final) ∧ inDim < last + 1 ∧ (8 ∣ last ∧ last ≤ inDim) ∧
        PackedTo weightValues inDim (outBase * inDim + last * 12) final := by
    apply while_runs fun inputBase values => (8 ∣ inputBase ∧ inputBase ≤ inDim) ∧
      PackedTo weightValues inDim (outBase * inDim + inputBase * 12) values
    · intro inputBase values inside before
      have room : inputBase + 8 ≤ inDim := by omega
      obtain ⟨next, ran, packedNext⟩ := pack_inputs sized dozens rows before.1.1 room before.2
      refine ⟨next, ran, ⟨?_, room⟩, packedNext⟩
      exact (Nat.dvd_add_right before.1.1).mpr (Nat.dvd_refl 8)
    · exact ⟨⟨Nat.dvd_zero 8, Nat.zero_le inDim⟩, packed⟩
  obtain ⟨last, final, ran, beyond, ⟨_, reached⟩, full⟩ := loop
  have whole : last = inDim := by omega
  subst whole
  refine ⟨final, ?_, ?_⟩
  · unfold packOutputs
    rw [ran]
    rfl
  · rw [Nat.add_mul, Nat.mul_comm 12]
    exact full

/-- The packed layout of a whole weight matrix. -/
structure PackedWeights (weightValues : List R) (outDim inDim : Nat)
    (blocked : LinearBlockedInput8Dot12Weights R) : Prop where
  width : blocked.inDim = inDim
  eights : 8 ∣ inDim
  rows : blocked.fullOutDim = outDim / 12 * 12
  values : PackedTo weightValues inDim (blocked.fullOutDim * inDim) blocked.values

theorem pack_whole (sized : weightValues.length = outDim * inDim) (wide : 8 ∣ inDim) :
    ∃ last values, whileBelow 1 12 (outDim / 12 * 12) (packOutputs weightValues inDim) 0 [] =
        some (last, values) ∧
      PackedTo weightValues inDim (outDim / 12 * 12 * inDim) values := by
  have loop : ∃ last values, whileBelow 1 12 (outDim / 12 * 12) (packOutputs weightValues inDim) 0
      [] = some (last, values) ∧ outDim / 12 * 12 < last + 1 ∧
        (12 ∣ last ∧ last ≤ outDim / 12 * 12) ∧
        PackedTo weightValues inDim (last * inDim) values := by
    apply while_runs fun outBase values => (12 ∣ outBase ∧ outBase ≤ outDim / 12 * 12) ∧
      PackedTo weightValues inDim (outBase * inDim) values
    · intro outBase values inside before
      have room : outBase + 12 ≤ outDim / 12 * 12 := by omega
      have rows : outBase + 12 ≤ outDim := by omega
      obtain ⟨next, ran, packedNext⟩ := pack_outputs sized wide before.1.1 rows before.2
      refine ⟨next, ran, ⟨?_, room⟩, packedNext⟩
      exact (Nat.dvd_add_right before.1.1).mpr (Nat.dvd_refl 12)
    · refine ⟨⟨Nat.dvd_zero 12, Nat.zero_le _⟩, ?_⟩
      rw [Nat.zero_mul]
      exact FilledTo.start _ []
  obtain ⟨last, values, ran, beyond, ⟨_, reached⟩, packed⟩ := loop
  have whole : last = outDim / 12 * 12 := by omega
  rw [whole] at packed
  exact ⟨last, values, ran, packed⟩

/-- Packing never leaves its slices, and what it makes is the blocked layout. -/
theorem pack_weights (weightValues : List R) (outDim inDim : Nat) :
    ∃ packed, linearPackInput8Dot12Weights weightValues outDim inDim = some packed ∧
      ∀ blocked, packed = some blocked → weightValues.length = outDim * inDim ∧
        PackedWeights weightValues outDim inDim blocked := by
  unfold linearPackInput8Dot12Weights
  split
  · refine ⟨none, rfl, ?_⟩
    intro blocked made
    cases made
  · rename_i regular
    have sized : weightValues.length = outDim * inDim := by
      by_contra different
      exact regular (.inr (.inr different))
    have wide : 8 ∣ inDim := by omega
    obtain ⟨last, values, ran, packed⟩ := pack_whole sized wide
    refine ⟨some ⟨values, outDim / 12 * 12, inDim⟩, ?_, ?_⟩
    · dsimp only
      rw [ran]
      rfl
    · intro blocked made
      cases made
      exact ⟨sized, rfl, wide, rfl, packed⟩

end Pack

section Kernel

variable (switches : LinearSwitches) {xsRow weightValues : List R} {outDim inDim : Nat}
  {blocked : LinearBlockedInput8Dot12Weights R}

/-- The load of a piece reads back eight weights of its row. -/
theorem piece_loads (packed : PackedWeights weightValues outDim inDim blocked)
    {outBase inputBase : Nat} (dozens : 12 ∣ outBase) (rows : outBase + 12 ≤ blocked.fullOutDim)
    (eights : 8 ∣ inputBase) (inside : inputBase + 8 ≤ inDim) (output : Fin 12) :
    Loads (dot12M256 R switches)
      (fun inputBase => (dot12M256 R switches).loadu
        (((pointerTo blocked.values).add (outBase * inDim + inputBase * 12)).add (output * 8)))
      (fun index => cell weightValues ((outBase + output) * inDim + index)) inputBase := by
  have rowEnd : (outBase + 12) * inDim ≤ blocked.fullOutDim * inDim :=
    Nat.mul_le_mul_right inDim rows
  rw [Nat.add_mul] at rowEnd
  have below := output.isLt
  have room : 0 + (outBase * inDim + inputBase * 12) + output * 8 + 8 ≤
      blocked.values.length := by
    rw [packed.values.length]
    omega
  obtain ⟨vector, loaded, lanes⟩ := (dot12M256 R switches).loadu_lanes
    (((pointerTo blocked.values).add (outBase * inDim + inputBase * 12)).add (output * 8)) room
  refine ⟨vector, loaded, ?_⟩
  intro place
  have under : (place : Nat) < 8 := place.isLt
  dsimp only
  rw [lanes, ← packed_piece weightValues dozens eights inside below under]
  have found := packed.values.cells (piecePosition inDim outBase inputBase output + place)
    (by unfold piecePosition; omega)
  rw [← cell_of_get found]
  unfold piecePosition Pointer.add pointerTo
  rw [Nat.zero_add]

theorem blocked_dot12 (packed : PackedWeights weightValues outDim inDim blocked)
    (xsLength : xsRow.length = inDim) {outBase : Nat} (dozens : 12 ∣ outBase)
    (rows : outBase + 12 ≤ blocked.fullOutDim) :
    blockedDot12At switches xsRow blocked outBase = some fun _ (output : Fin 12) =>
      rowProduct xsRow weightValues inDim (outBase + output) := by
  unfold blockedDot12At
  rw [packed.width]
  apply (dot_tile_fixed switches _ packed.eights
    (fun row index _ room =>
      held_loads switches _ (slice_holds fun _ : Fin 1 => xsLength) room row)
    (fun output index eights room =>
      piece_loads switches packed dozens rows eights room output)).trans
  apply congrArg
  funext _ output
  exact product_congr (fun index _ => pointer_to_cell xsRow index) fun _ _ => rfl

theorem blocked_turns (packed : PackedWeights weightValues outDim inDim blocked)
    (xsLength : xsRow.length = inDim) {outputRow : List R} (length : outputRow.length = outDim) :
    ∃ last final, whileBelow 1 12 blocked.fullOutDim (blockedTurn switches xsRow blocked) 0
        outputRow = some (last, final) ∧
      FilledTo (rowProduct xsRow weightValues inDim) outDim blocked.fullOutDim final := by
  have full : blocked.fullOutDim = outDim / 12 * 12 := packed.rows
  have loop : ∃ last final, whileBelow 1 12 blocked.fullOutDim
        (blockedTurn switches xsRow blocked) 0 outputRow = some (last, final) ∧
      blocked.fullOutDim < last + 1 ∧ (12 ∣ last ∧ last ≤ blocked.fullOutDim) ∧
      FilledTo (rowProduct xsRow weightValues inDim) outDim last final := by
    apply while_runs fun outBase outputRow => (12 ∣ outBase ∧ outBase ≤ blocked.fullOutDim) ∧
      FilledTo (rowProduct xsRow weightValues inDim) outDim outBase outputRow
    · intro outBase outputRow inside before
      have rows : outBase + 12 ≤ blocked.fullOutDim := by omega
      have room : outBase + 12 ≤ outDim := by omega
      have dozen : FilledTo (fun output => rowProduct xsRow weightValues inDim (outBase + output))
          12 12 (List.ofFn fun output : Fin 12 =>
            rowProduct xsRow weightValues inDim (outBase + output)) := by
        constructor
        · rw [List.length_ofFn]
        · intro output below
          rw [List.getElem?_ofFn, dif_pos below]
      obtain ⟨next, stored, filled⟩ := before.2.storeSlice room dozen
      refine ⟨next, ?_, ⟨?_, rows⟩, filled⟩
      · unfold blockedTurn
        rw [blocked_dot12 switches packed xsLength before.1.1 rows]
        exact stored
      · exact (Nat.dvd_add_right before.1.1).mpr (Nat.dvd_refl 12)
    · exact ⟨⟨Nat.dvd_zero 12, Nat.zero_le _⟩, row_starts _ length 0⟩
  obtain ⟨last, final, ran, beyond, ⟨_, reached⟩, filled⟩ := loop
  have whole : last = blocked.fullOutDim := by omega
  rw [whole] at filled
  exact ⟨last, final, ran, filled⟩

/-- The weight rows of the rest are those of the row-major weights. -/
theorem rest_answers (count : Nat) (shaped : RowShaped xsRow weightValues outDim inDim) :
    Answers (blockedRestAt switches count xsRow weightValues inDim)
      (fun _ => rowProduct xsRow weightValues inDim) outDim := by
  have rows : rowMajorRows count weightValues inDim = weightRows count weightValues inDim := by
    funext outIndex
    unfold rowMajorRows weightRows
    dsimp only
    apply congrArg
    funext output
    rw [← Nat.add_mul, ← Nat.add_mul, Nat.add_assoc outIndex]
  unfold blockedRestAt
  rw [rows]
  exact slices_answer switches false shaped fun no => nomatch no

theorem blocked_row (packed : PackedWeights weightValues outDim inDim blocked)
    (shaped : RowShaped xsRow weightValues outDim inDim) :
    Projects (linearProjectRowSameXAvx2FmaBlockedInput8Dot12 switches xsRow blocked weightValues
      outDim) (rowProduct xsRow weightValues inDim) outDim := by
  intro outputRow length
  obtain ⟨_, full, ranFull, filledFull⟩ := blocked_turns switches packed shaped.x length
  have inside : blocked.fullOutDim ≤ outDim := by
    rw [packed.rows]
    omega
  obtain ⟨_, eights, ranEights, _, insideEights, filledEights⟩ :=
    chunks_fill (rest_answers switches 8 shaped) inside fun _ => filledFull
  obtain ⟨_, fours, ranFours, _, insideFours, filledFours⟩ :=
    chunks_fill (rest_answers switches 4 shaped) insideEights filledEights
  obtain ⟨_, ones, ranOnes, filled⟩ :=
    last_chunks (rest_answers switches 1 shaped) insideFours filledFours
  refine ⟨ones 0, ?_, filled 0⟩
  unfold linearProjectRowSameXAvx2FmaBlockedInput8Dot12
  rw [ranFull, packed.width]
  simp only [Option.bind_eq_bind, Option.bind_some]
  rw [ranEights]
  simp only [Option.bind_some]
  rw [ranFours]
  simp only [Option.bind_some]
  rw [ranOnes]
  rfl

end Kernel

section Unpacked

variable (switches : LinearSwitches) (pulp : Simd R) (kernel : NativeLinearDotKernel)

/-- Weights whose blocked layout, where there is one, was packed from them. -/
structure Unpacked (weights : LinearF32Weights R) : Prop where
  sized : weights.weight.length = weights.outDim * weights.inDim
  blocked : ∀ blocked, weights.blockedInput8Dot12 = some blocked →
    linearPackInput8Dot12Weights weights.weight weights.outDim weights.inDim = some (some blocked)

theorem f32_row {weights : LinearF32Weights R} (unpacked : Unpacked weights) {xsRow : List R}
    (xsLength : xsRow.length = weights.inDim) :
    Projects (linearProjectF32RowSameX switches pulp kernel xsRow weights)
      (rowProduct xsRow weights.weight weights.inDim) weights.outDim := by
  have shaped : RowShaped xsRow weights.weight weights.outDim weights.inDim :=
    ⟨xsLength, unpacked.sized⟩
  have rowMajor := row_same_x switches pulp kernel shaped
  intro outputRow length
  unfold linearProjectF32RowSameX
  split
  · rename_i blocked layout
    obtain ⟨packed, made, whole⟩ := pack_weights weights.weight weights.outDim weights.inDim
    have same := unpacked.blocked blocked layout
    rw [made] at same
    cases same
    exact blocked_row switches (whole blocked rfl).2 shaped outputRow length
  · exact rowMajor outputRow length

/-- Without a bias a row is finished as it is. -/
theorem unbiased_row (xsRow weightValues : List R) (outDim inDim : Nat) :
    projectRow switches pulp kernel none xsRow weightValues outDim inDim =
      linearProjectRowSameX switches pulp kernel xsRow weightValues outDim inDim := by
  funext outputRow
  unfold projectRow
  cases linearProjectRowSameX switches pulp kernel xsRow weightValues outDim inDim outputRow with
  | none => rfl
  | some final => rfl

theorem several_rows (weights : LinearF32Weights R) (inputValues : List R) {rowCount : Nat}
    (several : rowCount ≠ 1) :
    linearProjectF32BatchSameX switches pulp kernel inputValues rowCount weights =
      projectRows switches pulp kernel none inputValues rowCount weights.inDim weights.weight
        weights.outDim := by
  funext output
  unfold linearProjectF32BatchSameX projectRows linearProjectBatchSameX
  rw [if_neg several]
  simp only [unbiased_row]

theorem f32_batch {weights : LinearF32Weights R} (unpacked : Unpacked weights)
    {inputValues : List R} {rowCount : Nat}
    (input : inputValues.length = rowCount * weights.inDim) :
    FillsBatch (linearProjectF32BatchSameX switches pulp kernel inputValues rowCount weights)
      (batchProduct none inputValues weights.weight weights.inDim) rowCount weights.outDim := by
  by_cases single : rowCount = 1
  · subst single
    rw [Nat.one_mul] at input
    intro output length
    rw [Nat.one_mul] at length
    obtain ⟨final, ran, full⟩ := f32_row switches pulp kernel unpacked input output length
    refine ⟨final, ?_, ?_⟩
    · unfold linearProjectF32BatchSameX
      rw [if_pos rfl]
      exact ran
    · unfold Written
      rw [Nat.one_mul]
      apply full.congr
      intro index below
      have cells := row_cells (batchProduct none inputValues weights.weight weights.inDim) 0 below
      rw [Nat.zero_mul, Nat.zero_add] at cells
      rw [cells]
      unfold batchProduct rowProduct biasCell
      rw [add_zero]
      apply product_congr
      · intro place _
        rw [Nat.zero_mul, Nat.zero_add]
      · intro place _
        rfl
  · have shaped : BatchShaped inputValues weights.weight rowCount weights.outDim weights.inDim :=
      ⟨input, unpacked.sized⟩
    have unbiased : BiasSized (none : Option (List R)) weights.outDim := by
      intro values given
      cases given
    rw [several_rows switches pulp kernel weights inputValues single]
    exact project_rows switches pulp kernel shaped unbiased

end Unpacked

end RwkvSrs.LinearBlocked
