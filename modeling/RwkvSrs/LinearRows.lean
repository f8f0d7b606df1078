import RwkvSrs.LinearTiles
import RwkvSrs.LinearBatches
import RwkvSrs.RecurrenceAgreement

/-!
Rows of the linear projections. Every kernel answers for a chunk of outputs with
the products of the input row and the matching weight rows, a chain of chunks
fills the output row up to its end, and so every row kernel that the switches
can choose leaves the same row of products.
-/

namespace RwkvSrs.LinearRows

open CheckedLoops SimdLanes PortableRecurrence RecurrenceAgreement LinearKernels LinearTiles
open LinearProjection LinearBatches

set_option autoImplicit false

variable {R : Type} [CommRing R]

/-- The inner product of an input row with one row of the weight matrix. -/
def rowProduct (xsRow weightValues : List R) (inDim output : Nat) : R :=
  product (cell xsRow) (fun index => cell weightValues (output * inDim + index)) inDim

theorem product_congr {x x' weight weight' : Nat → R} {count : Nat}
    (sameX : ∀ index < count, x index = x' index)
    (sameWeight : ∀ index < count, weight index = weight' index) :
    product x weight count = product x' weight' count := by
  apply Finset.sum_congr rfl
  intro index inside
  have below := Finset.mem_range.mp inside
  rw [sameX index below, sameWeight index below]

/-- A kernel that answers for every chunk inside the output width. -/
def Answers {rows width : Nat} (dots : Nat → Option (Fin rows → Fin width → R))
    (wanted : Fin rows → Nat → R) (outDim : Nat) : Prop :=
  ∀ outIndex, outIndex + width ≤ outDim →
    dots outIndex = some fun row (output : Fin width) => wanted row (outIndex + output)

omit [CommRing R] in
theorem chunks_fill {rows width outDim : Nat} [NeZero width]
    {dots : Nat → Option (Fin rows → Fin width → R)} {wanted : Fin rows → Nat → R}
    (answers : Answers dots wanted outDim) {outIndex : Nat} {outputRows : Fin rows → List R}
    (inside : outIndex ≤ outDim)
    (filled : ∀ row, FilledTo (wanted row) outDim outIndex (outputRows row)) :
    ∃ last final, projectChunks width outDim dots outIndex outputRows = some (last, final) ∧
      outDim < last + width ∧ last ≤ outDim ∧
      ∀ row, FilledTo (wanted row) outDim last (final row) := by
  apply while_runs fun outIndex (outputRows : Fin rows → List R) =>
    outIndex ≤ outDim ∧ ∀ row, FilledTo (wanted row) outDim outIndex (outputRows row)
  · intro outIndex outputRows room before
    have stored : ∀ row, ∃ next,
        storeSlice (outputRows row) outIndex
          (List.ofFn fun output : Fin width => wanted row (outIndex + output)) = some next ∧
        FilledTo (wanted row) outDim (outIndex + width) next := by
      intro row
      apply (before.2 row).storeSlice room
      constructor
      · rw [List.length_ofFn]
      · intro place below
        rw [List.getElem?_ofFn, dif_pos below]
    obtain ⟨next, gathered, filledNext⟩ := gather_each _ stored
    refine ⟨next, ?_, room, filledNext⟩
    rw [answers outIndex room]
    simp only [Option.bind_eq_bind, Option.bind_some]
    exact gathered
  · exact ⟨inside, filled⟩

omit [CommRing R] in
/-- Chunks of one output reach the end of the row. -/
theorem last_chunks {rows outDim : Nat} {dots : Nat → Option (Fin rows → Fin 1 → R)}
    {wanted : Fin rows → Nat → R} (answers : Answers dots wanted outDim) {outIndex : Nat}
    {outputRows : Fin rows → List R} (inside : outIndex ≤ outDim)
    (filled : ∀ row, FilledTo (wanted row) outDim outIndex (outputRows row)) :
    ∃ last final, projectChunks 1 outDim dots outIndex outputRows = some (last, final) ∧
      ∀ row, FilledTo (wanted row) outDim outDim (final row) := by
  obtain ⟨last, final, ran, beyond, reached, full⟩ := chunks_fill answers inside filled
  have whole : last = outDim := by omega
  subst whole
  exact ⟨last, final, ran, full⟩

/-- A row kernel fills every output row of the right size with the wanted values. -/
def Projects (project : List R → Option (List R)) (wanted : Nat → R) (outDim : Nat) : Prop :=
  ∀ outputRow : List R, outputRow.length = outDim →
    ∃ final, project outputRow = some final ∧ FilledTo wanted outDim outDim final

omit [CommRing R] in
theorem row_starts (wanted : Nat → R) {outputRow : List R} {outDim : Nat}
    (length : outputRow.length = outDim) :
    ∀ _ : Fin 1, FilledTo wanted outDim 0 outputRow := by
  intro _
  subst length
  exact FilledTo.start wanted outputRow

section Avx2

variable (switches : LinearSwitches) {xsRow weightValues : List R} {outDim inDim : Nat}

/-- The weight rows of a chunk, as slices of the input width. -/
structure WeightRow (weightValues : List R) (inDim output : Nat) (row : List R) : Prop where
  length : row.length = inDim
  cells : ∀ index < inDim, cell row index = cell weightValues (output * inDim + index)

theorem weight_slice (sized : weightValues.length = outDim * inDim) {output : Nat}
    (inside : output < outDim) :
    ∃ row, slice weightValues (output * inDim) ((output + 1) * inDim) = some row ∧
      WeightRow weightValues inDim output row := by
  have room : (output + 1) * inDim ≤ weightValues.length := by
    rw [sized]
    exact Nat.mul_le_mul_right inDim (Nat.succ_le_of_lt inside)
  obtain ⟨row, taken, length, cells⟩ :=
    slice_part (Nat.mul_le_mul_right inDim (Nat.le_succ output)) room
  have width : (output + 1) * inDim - output * inDim = inDim := by
    rw [Nat.succ_mul]
    omega
  rw [width] at length cells
  exact ⟨row, taken, length, fun index below => cell_of_same (cells index below)⟩

theorem weight_rows (sized : weightValues.length = outDim * inDim) {count outIndex : Nat}
    (inside : outIndex + count ≤ outDim) :
    ∃ rows : Fin count → List R, weightRows count weightValues inDim outIndex = some rows ∧
      ∀ output : Fin count,
        WeightRow weightValues inDim (outIndex + output) (rows output) := by
  apply gather_each
  intro output
  exact weight_slice sized (by omega)

omit [CommRing R] in
theorem slice_holds {count : Nat} {rows : Fin count → List R}
    (lengths : ∀ place, (rows place).length = inDim) :
    Holds (fun place => pointerTo (rows place)) inDim := by
  intro place
  change 0 + inDim ≤ (rows place).length
  rw [lengths place]
  omega

theorem pointer_to_cell (values : List R) (index : Nat) :
    pointerCell (pointerTo values) index = cell values index := by
  unfold pointerCell pointerTo
  rw [Nat.zero_add]

theorem row_of_slices (xsRow : List R) {weightRow : List R} {output : Nat}
    (wanted : WeightRow weightValues inDim output weightRow) :
    product (pointerCell (pointerTo xsRow)) (pointerCell (pointerTo weightRow)) inDim =
      rowProduct xsRow weightValues inDim output := by
  apply product_congr
  · intro index _
    exact pointer_to_cell _ index
  · intro index below
    rw [pointer_to_cell, wanted.cells index below]

theorem dot_rows (xsLength : xsRow.length = inDim) {count outIndex : Nat}
    {rows : Fin count → List R}
    (wanted : ∀ output : Fin count,
      WeightRow weightValues inDim (outIndex + output) (rows output)) :
    dotRows switches count xsRow rows = some fun _ (output : Fin count) =>
      rowProduct xsRow weightValues inDim (outIndex + output) := by
  unfold dotRows sharedM256
  rw [xsLength, dot_tile switches _ (slice_holds fun _ => xsLength)
    (slice_holds fun output => (wanted output).length)]
  apply congrArg
  funext row output
  exact row_of_slices xsRow (wanted output)

theorem dot_rows_fixed (eights : 8 ∣ inDim) (xsLength : xsRow.length = inDim)
    {count outIndex : Nat} {rows : Fin count → List R}
    (wanted : ∀ output : Fin count,
      WeightRow weightValues inDim (outIndex + output) (rows output)) :
    dotRowsFixed switches count inDim xsRow rows = some fun _ (output : Fin count) =>
      rowProduct xsRow weightValues inDim (outIndex + output) := by
  unfold dotRowsFixed sharedM256
  rw [dot_tile_fixed switches _ eights
    (fun row index _ room => held_loads switches _ (slice_holds fun _ : Fin 1 => xsLength) room row)
    (fun output index _ room =>
      held_loads switches _ (slice_holds fun output => (wanted output).length) room output)]
  apply congrArg
  funext row output
  exact row_of_slices xsRow (wanted output)

section Single

variable (fixed : Bool)

/-- What the row kernels are called with. -/
structure RowShaped (xsRow weightValues : List R) (outDim inDim : Nat) : Prop where
  x : xsRow.length = inDim
  weight : weightValues.length = outDim * inDim

theorem slices_answer {count : Nat} (shaped : RowShaped xsRow weightValues outDim inDim)
    (eights : fixed = true → 8 ∣ inDim) :
    Answers (fun outIndex => do
        let rows ← weightRows count weightValues inDim outIndex
        if fixed then dotRowsFixed switches count inDim xsRow rows
        else dotRows switches count xsRow rows)
      (fun _ => rowProduct xsRow weightValues inDim) outDim := by
  intro outIndex inside
  obtain ⟨rows, taken, wanted⟩ := weight_rows shaped.weight inside
  dsimp only
  rw [taken]
  simp only [Option.bind_eq_bind, Option.bind_some]
  cases fixed with
  | true => exact dot_rows_fixed switches (eights rfl) shaped.x wanted
  | false => exact dot_rows switches shaped.x wanted

theorem pointer_row (xsRow weightValues : List R) (inDim base output : Nat) :
    product (pointerCell (pointerTo xsRow))
        (pointerCell (((pointerTo weightValues).add (base * inDim)).add (output * inDim))) inDim =
      rowProduct xsRow weightValues inDim (base + output) := by
  apply product_congr
  · intro index _
    exact pointer_to_cell _ index
  · intro index _
    unfold pointerCell Pointer.add pointerTo
    rw [Nat.zero_add, Nat.add_mul]

omit [CommRing R] in
theorem pointer_holds (sized : weightValues.length = outDim * inDim) {count outIndex : Nat}
    (inside : outIndex + count ≤ outDim) :
    Holds (fun output : Fin count =>
      ((pointerTo weightValues).add (outIndex * inDim)).add (output * inDim)) inDim := by
  intro output
  change 0 + outIndex * inDim + output * inDim + inDim ≤ weightValues.length
  rw [sized, Nat.zero_add, ← Nat.add_mul, ← Nat.succ_mul]
  apply Nat.mul_le_mul_right
  have below := output.isLt
  omega

theorem pointers_answer (shaped : RowShaped xsRow weightValues outDim inDim)
    (eights : fixed = true → 8 ∣ inDim) :
    Answers (dot12PtrAt switches fixed xsRow weightValues inDim)
      (fun _ => rowProduct xsRow weightValues inDim) outDim := by
  intro outIndex inside
  have holdsX : Holds (fun _ : Fin 1 => pointerTo xsRow) inDim := slice_holds fun _ => shaped.x
  have holdsWeight := pointer_holds shaped.weight inside
  unfold dot12PtrAt
  cases fixed with
  | false =>
      change linearDot12SameXAvx2FmaPtr switches xsRow _ inDim = _
      unfold linearDot12SameXAvx2FmaPtr dot12M256
      rw [dot_tile switches _ holdsX holdsWeight]
      apply congrArg
      funext _ output
      exact pointer_row xsRow weightValues inDim outIndex output
  | true =>
      change linearDot12SameXAvx2FmaFixedPtr switches inDim xsRow _ = _
      unfold linearDot12SameXAvx2FmaFixedPtr dot12M256
      have tile := fixed_pointers switches
        (switches.dot12DirectHorizontalSum && switches.fastAvx2HorizontalSum) (eights rfl) holdsX
        holdsWeight
      simp only [Pointer.add, Nat.add_assoc] at tile ⊢
      rw [tile]
      apply congrArg
      funext _ output
      have row := pointer_row xsRow weightValues inDim outIndex output
      simp only [Pointer.add, Nat.add_assoc] at row
      exact row

theorem dot12_answers (shaped : RowShaped xsRow weightValues outDim inDim)
    (eights : fixed = true → 8 ∣ inDim) :
    Answers (dot12At switches fixed xsRow weightValues inDim)
      (fun _ => rowProduct xsRow weightValues inDim) outDim := by
  intro outIndex inside
  unfold dot12At
  split
  · exact pointers_answer switches fixed shaped eights outIndex inside
  · exact slices_answer switches fixed shaped eights outIndex inside

theorem dot1_answers (shaped : RowShaped xsRow weightValues outDim inDim)
    (eights : fixed = true → 8 ∣ inDim) :
    Answers (dot1At switches fixed xsRow weightValues inDim)
      (fun _ => rowProduct xsRow weightValues inDim) outDim := by
  intro outIndex inside
  obtain ⟨rows, taken, wanted⟩ := weight_rows shaped.weight inside
  have same : (fun _ : Fin 1 => rows 0) = rows := by
    funext place
    rw [Subsingleton.elim place 0]
  unfold dot1At linearDotAvx2FmaFixed linearDotAvx2Fma
  rw [taken]
  simp only [Option.bind_eq_bind, Option.bind_some, same]
  cases fixed with
  | true => exact dot_rows_fixed switches (eights rfl) shaped.x wanted
  | false => exact dot_rows switches shaped.x wanted

theorem chunks_from4 (shaped : RowShaped xsRow weightValues outDim inDim)
    (eights : fixed = true → 8 ∣ inDim) {start : Nat × (Fin 1 → List R)}
    (inside : start.1 ≤ outDim)
    (filled : ∀ row, FilledTo (rowProduct xsRow weightValues inDim) outDim start.1 (start.2 row)) :
    ∃ final, chunksFrom4 switches fixed xsRow weightValues outDim inDim start = some final ∧
      FilledTo (rowProduct xsRow weightValues inDim) outDim outDim final := by
  have answers4 : Answers (dot4At switches fixed xsRow weightValues inDim)
      (fun _ => rowProduct xsRow weightValues inDim) outDim :=
    slices_answer switches fixed shaped eights
  obtain ⟨fourEnd, fours, ranFours, _, insideFours, filledFours⟩ :=
    chunks_fill answers4 inside filled
  obtain ⟨last, ones, ranOnes, full⟩ :=
    last_chunks (dot1_answers switches fixed shaped eights) insideFours filledFours
  refine ⟨ones 0, ?_, full 0⟩
  unfold chunksFrom4
  rw [ranFours]
  simp only [Option.bind_eq_bind, Option.bind_some]
  rw [ranOnes]
  rfl

theorem chunks_from8 (shaped : RowShaped xsRow weightValues outDim inDim)
    (eights : fixed = true → 8 ∣ inDim) {start : Nat × (Fin 1 → List R)}
    (inside : start.1 ≤ outDim)
    (filled : ∀ row, FilledTo (rowProduct xsRow weightValues inDim) outDim start.1 (start.2 row)) :
    ∃ final, chunksFrom8 switches fixed xsRow weightValues outDim inDim start = some final ∧
      FilledTo (rowProduct xsRow weightValues inDim) outDim outDim final := by
  have answers8 : Answers (dot8At switches fixed xsRow weightValues inDim)
      (fun _ => rowProduct xsRow weightValues inDim) outDim :=
    slices_answer switches fixed shaped eights
  obtain ⟨last, final, ran, _, insideEights, filledEights⟩ := chunks_fill answers8 inside filled
  unfold chunksFrom8
  rw [ran]
  exact chunks_from4 switches fixed shaped eights insideEights filledEights

theorem chunks_from12 (shaped : RowShaped xsRow weightValues outDim inDim)
    (eights : fixed = true → 8 ∣ inDim) {start : Nat × (Fin 1 → List R)}
    (inside : start.1 ≤ outDim)
    (filled : ∀ row, FilledTo (rowProduct xsRow weightValues inDim) outDim start.1 (start.2 row)) :
    ∃ final, chunksFrom12 switches fixed xsRow weightValues outDim inDim start = some final ∧
      FilledTo (rowProduct xsRow weightValues inDim) outDim outDim final := by
  obtain ⟨last, final, ran, _, insideTwelves, filledTwelves⟩ :=
    chunks_fill (dot12_answers switches fixed shaped eights) inside filled
  unfold chunksFrom12
  rw [ran]
  exact chunks_from8 switches fixed shaped eights insideTwelves filledTwelves

end Single

end Avx2

section Other

variable {xsRow weightValues : List R} {outDim inDim : Nat}

theorem scalar4_answers (shaped : RowShaped xsRow weightValues outDim inDim) :
    Answers (scalar4At xsRow weightValues inDim) (fun _ => rowProduct xsRow weightValues inDim)
      outDim := by
  intro outIndex inside
  obtain ⟨rows, taken, wanted⟩ := weight_rows shaped.weight inside
  have loop : ∃ sums, scalarDot4 xsRow rows inDim = some sums ∧ ∀ row output, sums row output =
      product (pointerCell (pointerTo xsRow)) (pointerCell (pointerTo (rows output))) inDim := by
    apply for_runs fun index (sums : Fin 1 → Fin 4 → R) => ∀ row output, sums row output =
      product (pointerCell (pointerTo xsRow)) (pointerCell (pointerTo (rows output))) index
    · intro index sums below summed
      apply tile_rest_turn _ _ summed
      · intro row
        change 0 + index < xsRow.length
        rw [shaped.x]
        omega
      · intro output
        change 0 + index < (rows output).length
        rw [(wanted output).length]
        omega
    · intro row output
      rfl
  obtain ⟨sums, ran, summed⟩ := loop
  unfold scalar4At
  rw [taken]
  simp only [Option.bind_eq_bind, Option.bind_some]
  rw [ran]
  apply congrArg
  funext row output
  rw [summed]
  exact row_of_slices xsRow (wanted output)

theorem linear_dot_scalar {weightRow : List R} {output : Nat} (xsLength : xsRow.length = inDim)
    (wanted : WeightRow weightValues inDim output weightRow) :
    linearDotScalar xsRow weightRow = some (rowProduct xsRow weightValues inDim output) := by
  have loop : ∃ acc, linearDotScalar xsRow weightRow = some acc ∧
      acc = product (cell xsRow) (fun index => cell weightValues (output * inDim + index))
        xsRow.length := by
    apply for_runs fun index acc => acc =
      product (cell xsRow) (fun index => cell weightValues (output * inDim + index)) index
    · intro index acc below summed
      have read : weightRow[index]? = some (cell weightRow index) := by
        apply get_cell
        rw [wanted.length, ← xsLength]
        exact below
      rw [get_cell below, read, wanted.cells index (by omega)]
      refine ⟨_, rfl, ?_⟩
      rw [summed, product_succ]
    · rfl
  obtain ⟨acc, ran, summed⟩ := loop
  rw [ran, summed, xsLength]
  rfl

theorem scalar1_answers (shaped : RowShaped xsRow weightValues outDim inDim) :
    Answers (scalar1At xsRow weightValues inDim) (fun _ => rowProduct xsRow weightValues inDim)
      outDim := by
  intro outIndex inside
  obtain ⟨row, taken, wanted⟩ := weight_slice shaped.weight (Nat.lt_of_succ_le inside)
  unfold scalar1At
  rw [taken]
  simp only [Option.bind_eq_bind, Option.bind_some]
  rw [linear_dot_scalar shaped.x wanted]
  simp only [Option.bind_some, Option.pure_def]
  apply congrArg
  funext _ output
  rw [Fin.val_eq_zero, Nat.add_zero]

theorem scalar_row (shaped : RowShaped xsRow weightValues outDim inDim) :
    Projects (linearProjectRowSameXScalar xsRow weightValues outDim inDim)
      (rowProduct xsRow weightValues inDim) outDim := by
  intro outputRow length
  obtain ⟨fourEnd, fours, ranFours, _, insideFours, filledFours⟩ :=
    chunks_fill (scalar4_answers shaped) (Nat.zero_le outDim) (row_starts _ length)
  obtain ⟨last, ones, ranOnes, full⟩ :=
    last_chunks (scalar1_answers shaped) insideFours filledFours
  refine ⟨ones 0, ?_, full 0⟩
  unfold linearProjectRowSameXScalar
  rw [ranFours]
  simp only [Option.bind_eq_bind, Option.bind_some]
  rw [ranOnes]
  rfl

def biasCell (bias : Option (List R)) (output : Nat) : R :=
  match bias with
  | some values => cell values output
  | none => 0

/-- A bias, where there is one, has a value for every output. -/
def BiasSized (bias : Option (List R)) (outDim : Nat) : Prop :=
  ∀ values, bias = some values → values.length = outDim

theorem bias_at {bias : Option (List R)} (sized : BiasSized bias outDim) {output : Nat}
    (below : output < outDim) : biasAt bias output = some (biasCell bias output) := by
  cases bias with
  | none => rfl
  | some values =>
      apply get_cell
      rw [sized values rfl]
      exact below

/-- An output with its bias. -/
def biasedProduct (bias : Option (List R)) (xsRow weightValues : List R) (inDim output : Nat) :
    R :=
  rowProduct xsRow weightValues inDim output + biasCell bias output

section Simd

variable (simd : Simd R) {bias : Option (List R)}

theorem chunk_accumulators {outputs : Nat} (xsLength : xsRow.length = inDim)
    {parts : Fin outputs → List R} (lengths : ∀ output, (parts output).length = inDim) :
    ∃ accumulators, forBelow (inDim / simd.lanes)
        (tileTurn simd (fun (_ : Fin 1) index => (simd.vectors xsRow)[index]?)
          fun offset index => (simd.vectors (parts offset))[index]?)
        (fun _ _ => simd.splat 0) = some accumulators ∧
      ∀ row output, simd.reduceSum (accumulators row output) =
        product (cell xsRow) (cell (parts output)) (simd.tailBase inDim) := by
  apply for_runs fun index (acc : Fin 1 → Fin outputs → simd.F32s) => ∀ row output,
    simd.reduceSum (acc row output) =
      product (cell xsRow) (cell (parts output)) (index * simd.lanes)
  · intro index acc below summed
    have vectorX : ∀ _ : Fin 1, ∃ vector, (simd.vectors xsRow)[index]? = some vector ∧
        ∀ place, simd.lane vector place = cell xsRow (index * simd.lanes + place) :=
      fun _ => simd.vector_at xsLength below
    obtain ⟨xs, readX, lanesX⟩ := gather_each _ vectorX
    have vectorWeight : ∀ output, ∃ vector, (simd.vectors (parts output))[index]? = some vector ∧
        ∀ place, simd.lane vector place =
          cell (parts output) (index * simd.lanes + place) :=
      fun output => simd.vector_at (lengths output) below
    obtain ⟨weights, readWeight, lanesWeight⟩ := gather_each
      (fun output vector => ∀ place, simd.lane vector place =
        cell (parts output) (index * simd.lanes + place)) vectorWeight
    refine ⟨fun row output => simd.mulAdd (xs row) (weights output) (acc row output), ?_, ?_⟩
    · unfold tileTurn
      rw [readX, readWeight]
      rfl
    · intro row output
      rw [simd.reduce_mul_add, summed, Nat.succ_mul, product_add]
      simp only [lanesX, lanesWeight]
  · intro row output
    rw [simd.reduce_splat_zero, Nat.zero_mul]
    rfl

theorem chunk_value (sized : BiasSized bias outDim) (xsLength : xsRow.length = inDim)
    {output : Nat} (below : output < outDim) {weightRow : List R}
    (wanted : WeightRow weightValues inDim output weightRow) {accumulator : simd.F32s}
    (summed : simd.reduceSum accumulator =
      product (cell xsRow) (cell weightRow) (simd.tailBase inDim)) :
    chunkValue simd xsRow weightRow bias accumulator output =
      some (biasedProduct bias xsRow weightValues inDim output) := by
  have term : ∀ index output, index < inDim - simd.tailBase inDim → (do
      return (← (simd.tail xsRow)[index]?) * (← (simd.tail weightRow)[index]?) + output) =
        some (cell xsRow (simd.tailBase inDim + index) *
          cell weightRow (simd.tailBase inDim + index) + output) := by
    intro index output inside
    rw [simd.tail_at xsLength inside, simd.tail_at wanted.length inside]
    rfl
  unfold chunkValue
  rw [simd.tail_sized xsLength, accumulate_tail _ term]
  simp only [Option.bind_eq_bind, Option.bind_some]
  rw [bias_at sized below]
  simp only [Option.bind_some, Option.pure_def]
  apply congrArg
  unfold biasedProduct
  apply congrArg (· + _)
  rw [summed]
  have split := sum_split (fun index => cell xsRow index * cell weightRow index)
    (Nat.add_sub_cancel' (simd.tail_base_below inDim)).symm
  apply split.symm.trans
  exact product_congr (fun _ _ => rfl) wanted.cells

theorem chunk_answers (outputs : Nat) (shaped : RowShaped xsRow weightValues outDim inDim)
    (sized : BiasSized bias outDim) :
    Answers (linearProjectChunkSimd simd outputs xsRow weightValues bias inDim)
      (fun _ => biasedProduct bias xsRow weightValues inDim) outDim := by
  intro outBase inside
  have slices : ∀ offset : Fin outputs, ∃ row,
      slice weightValues ((outBase + offset) * inDim) ((outBase + offset) * inDim + inDim) =
        some row ∧ WeightRow weightValues inDim (outBase + offset) row := by
    intro offset
    rw [← Nat.succ_mul]
    exact weight_slice shaped.weight (by omega)
  obtain ⟨parts, taken, wanted⟩ := gather_each
    (fun (offset : Fin outputs) row => WeightRow weightValues inDim (outBase + offset) row) slices
  obtain ⟨accumulators, ran, summed⟩ :=
    chunk_accumulators simd shaped.x fun output => (wanted output).length
  have answered : ∀ offset : Fin outputs, ∃ value,
      chunkValue simd xsRow (parts offset) bias (accumulators 0 offset) (outBase + offset) =
        some value ∧ value = biasedProduct bias xsRow weightValues inDim (outBase + offset) :=
    fun offset => ⟨_, chunk_value simd sized shaped.x (by omega) (wanted offset)
      (summed 0 offset), rfl⟩
  obtain ⟨values, gathered, cells⟩ := gather_each
    (fun (offset : Fin outputs) value =>
      value = biasedProduct bias xsRow weightValues inDim (outBase + offset)) answered
  unfold linearProjectChunkSimd
  rw [taken]
  simp only [Option.bind_eq_bind, Option.bind_some]
  rw [simd.vectors_sized shaped.x, ran]
  simp only [Option.bind_some]
  rw [gathered]
  simp only [Option.bind_some, Option.pure_def]
  apply congrArg
  funext _ offset
  exact cells offset

theorem one_answers (shaped : RowShaped xsRow weightValues outDim inDim)
    (sized : BiasSized bias outDim) :
    Answers (linearProjectOneSimd simd xsRow weightValues bias inDim)
      (fun _ => biasedProduct bias xsRow weightValues inDim) outDim := by
  intro outBase inside
  have below : outBase < outDim := Nat.lt_of_succ_le inside
  obtain ⟨row, taken, wanted⟩ := weight_slice shaped.weight below
  unfold linearProjectOneSimd
  rw [taken]
  simp only [Option.bind_eq_bind, Option.bind_some]
  rw [RecurrenceAgreement.linear_dot_simd simd shaped.x wanted.length, bias_at sized below]
  simp only [Option.bind_some, Option.pure_def]
  apply congrArg
  funext _ output
  rw [Fin.val_eq_zero, Nat.add_zero]
  apply congrArg (· + _)
  exact product_congr (fun _ _ => rfl) wanted.cells

theorem portable_row (shaped : RowShaped xsRow weightValues outDim inDim)
    (sized : BiasSized bias outDim) :
    Projects (linearProjectRowSimd simd xsRow weightValues bias outDim inDim)
      (biasedProduct bias xsRow weightValues inDim) outDim := by
  intro output length
  obtain ⟨_, twelves, ranTwelves, _, insideTwelves, filledTwelves⟩ :=
    chunks_fill (chunk_answers simd 12 shaped sized) (Nat.zero_le outDim) (row_starts _ length)
  obtain ⟨_, eights, ranEights, _, insideEights, filledEights⟩ :=
    chunks_fill (chunk_answers simd 8 shaped sized) insideTwelves filledTwelves
  obtain ⟨_, fours, ranFours, _, insideFours, filledFours⟩ :=
    chunks_fill (chunk_answers simd 4 shaped sized) insideEights filledEights
  obtain ⟨_, ones, ranOnes, full⟩ :=
    last_chunks (one_answers simd shaped sized) insideFours filledFours
  refine ⟨ones 0, ?_, full 0⟩
  unfold linearProjectRowSimd
  rw [ranTwelves]
  simp only [Option.bind_eq_bind, Option.bind_some]
  rw [ranEights]
  simp only [Option.bind_some]
  rw [ranFours]
  simp only [Option.bind_some]
  rw [ranOnes]
  rfl

end Simd

end Other

end RwkvSrs.LinearRows
