import Mathlib.Algebra.BigOperators.Fin
import RwkvSrs.GpuScanKernels
import RwkvSrs.GpuScanTopology

/-!
The transform kernels against affine maps. A chunk of the transform buffer
holds one affine map for each head; building a chunk composes the maps of its
reviews in order, and the scan dispatches are the doubling scan over the
segments of the entities, so that after them a chunk holds the composition of
its entity's chunks up to and including it.
-/

namespace RwkvSrs.GpuScanTransforms

set_option autoImplicit false
set_option linter.unusedSectionVars false

open ComputeDispatch GpuScanPlan GpuScanKernels GpuScanTopology AffineScan

section Lanes

variable (workgroup : TransformWorkgroup)

/-- The lanes of a matrix row are a power of two and divide its columns. -/
theorem workgroup_shape : ∃ levels, workgroup.lanesPerRow = 2 ^ levels ∧
    0 < workgroup.lanesPerRow ∧ 0 < workgroup.columnsPerLane ∧
    workgroup.columnsPerLane * workgroup.lanesPerRow = headSize ∧
    workgroup.size = channels * workgroup.lanesPerRow := by
  rcases workgroup.supported with size | size | size | size
  · exact ⟨0, by simp [TransformWorkgroup.lanesPerRow, TransformWorkgroup.columnsPerLane, size,
      channels, headSize]⟩
  · exact ⟨1, by simp [TransformWorkgroup.lanesPerRow, TransformWorkgroup.columnsPerLane, size,
      channels, headSize]⟩
  · exact ⟨2, by simp [TransformWorkgroup.lanesPerRow, TransformWorkgroup.columnsPerLane, size,
      channels, headSize]⟩
  · exact ⟨3, by simp [TransformWorkgroup.lanesPerRow, TransformWorkgroup.columnsPerLane, size,
      channels, headSize]⟩

theorem lanes_positive : 0 < workgroup.lanesPerRow := by
  obtain ⟨_, _, positive, _⟩ := workgroup_shape workgroup
  exact positive

/-- The lane that holds a column of a matrix row. -/
def laneOf (row column : Nat) : Nat :=
  row * workgroup.lanesPerRow + column % workgroup.lanesPerRow

def localOf (column : Nat) : Nat := column / workgroup.lanesPerRow

theorem lane_row (row column : Nat) : matrixRow workgroup (laneOf workgroup row column) = row := by
  have positive := lanes_positive workgroup
  rw [matrixRow, laneOf, Nat.add_comm, Nat.add_mul_div_right _ _ positive,
    Nat.div_eq_of_lt (Nat.mod_lt _ positive), Nat.zero_add]

theorem lane_column (row column : Nat) :
    columnOf workgroup (laneOf workgroup row column) (localOf workgroup column) = column := by
  rw [columnOf, laneOf, localOf, Nat.add_comm (row * workgroup.lanesPerRow),
    Nat.add_mul_mod_self_right, Nat.mod_mod, Nat.mod_add_div']

theorem lane_unique {lane localColumn row column : Nat} (sameRow : matrixRow workgroup lane = row)
    (sameColumn : columnOf workgroup lane localColumn = column) :
    lane = laneOf workgroup row column ∧ localColumn = localOf workgroup column := by
  have positive := lanes_positive workgroup
  subst sameRow sameColumn
  constructor
  · rw [laneOf, columnOf, Nat.add_mul_mod_self_right, Nat.mod_mod, matrixRow, Nat.div_add_mod']
  · rw [localOf, columnOf, Nat.add_mul_div_right _ _ positive,
      Nat.div_eq_of_lt (Nat.mod_lt _ positive), Nat.zero_add]

theorem lane_bound {row column : Nat} (inside : row < channels) :
    laneOf workgroup row column < workgroup.size := by
  obtain ⟨_, _, positive, _, _, size⟩ := workgroup_shape workgroup
  have column := Nat.mod_lt column positive
  rw [laneOf, size]
  calc row * workgroup.lanesPerRow + _ < row * workgroup.lanesPerRow + workgroup.lanesPerRow := by
        omega
    _ = (row + 1) * workgroup.lanesPerRow := by ring
    _ ≤ channels * workgroup.lanesPerRow := Nat.mul_le_mul_right _ inside

theorem local_bound {column : Nat} (inside : column < headSize) :
    localOf workgroup column < workgroup.columnsPerLane := by
  obtain ⟨_, _, positive, _, columns, _⟩ := workgroup_shape workgroup
  rw [localOf, Nat.div_lt_iff_lt_mul positive, columns]
  exact inside

theorem row_bound {lane : Nat} (inside : lane < workgroup.size) :
    matrixRow workgroup lane < channels := by
  obtain ⟨_, _, positive, _, _, size⟩ := workgroup_shape workgroup
  rw [matrixRow, Nat.div_lt_iff_lt_mul positive, ← size]
  exact inside

theorem column_bound {lane localColumn : Nat} (inside : localColumn < workgroup.columnsPerLane) :
    columnOf workgroup lane localColumn < headSize := by
  obtain ⟨_, _, positive, _, columns, _⟩ := workgroup_shape workgroup
  have lane := Nat.mod_lt lane positive
  rw [columnOf, ← columns]
  calc _ < workgroup.lanesPerRow + localColumn * workgroup.lanesPerRow := by omega
    _ = (localColumn + 1) * workgroup.lanesPerRow := by ring
    _ ≤ workgroup.columnsPerLane * workgroup.lanesPerRow := Nat.mul_le_mul_right _ inside

end Lanes

section Store

variable {R : Type*} (workgroup : TransformWorkgroup)

theorem mul_index_unique {chunk row column otherChunk otherRow otherColumn : Nat}
    (rowInside : row < channels) (columnInside : column < headSize)
    (otherRowInside : otherRow < channels) (otherColumnInside : otherColumn < headSize)
    (same : mulIndex chunk row column = mulIndex otherChunk otherRow otherColumn) :
    chunk = otherChunk ∧ row = otherRow ∧ column = otherColumn := by
  simp only [mulIndex, transformValues, headSize, channels] at *
  omega

theorem add_index_unique {chunk row column otherChunk otherRow otherColumn : Nat}
    (rowInside : row < channels) (columnInside : column < headSize)
    (otherRowInside : otherRow < channels) (otherColumnInside : otherColumn < headSize)
    (same : addIndex chunk row column = addIndex otherChunk otherRow otherColumn) :
    chunk = otherChunk ∧ row = otherRow ∧ column = otherColumn := by
  simp only [addIndex, matrixValues, transformValues, headSize, channels] at *
  omega

theorem mul_add_apart {chunk row column otherChunk otherRow otherColumn : Nat}
    (rowInside : row < channels) (columnInside : column < headSize)
    (otherRowInside : otherRow < channels) (otherColumnInside : otherColumn < headSize) :
    mulIndex chunk row column ≠ addIndex otherChunk otherRow otherColumn := by
  simp only [mulIndex, addIndex, matrixValues, transformValues, headSize, channels] at *
  omega

variable (schedule : Schedule R) (count : Nat) (mul add : Nat → Nat → Nat → R) (buffer : Buffer R)

theorem transform_write_cases (write : Write R) :
    write ∈ transformWrites workgroup count mul add ↔
      ∃ chunk, chunk < count ∧ ∃ lane, lane < workgroup.size ∧
        ∃ localColumn, localColumn < workgroup.columnsPerLane ∧
          (write = (mulIndex chunk (matrixRow workgroup lane)
              (columnOf workgroup lane localColumn), mul chunk lane localColumn) ∨
            write = (addIndex chunk (matrixRow workgroup lane)
              (columnOf workgroup lane localColumn), add chunk lane localColumn)) := by
  simp [transformWrites]

theorem stored_mul {chunk row column : Nat} (present : chunk < count) (rowInside : row < channels)
    (columnInside : column < headSize) :
    dispatch schedule (transformWrites workgroup count mul add) buffer (mulIndex chunk row column) =
      mul chunk (laneOf workgroup row column) (localOf workgroup column) := by
  apply dispatch_agreed
  · intro write member same
    obtain ⟨other, _, lane, laneInside, localColumn, localInside, isMul | isAdd⟩ :=
      (transform_write_cases workgroup count mul add write).mp member
    · rw [isMul] at same ⊢
      obtain ⟨sameChunk, sameRow, sameColumn⟩ := mul_index_unique
        (row_bound workgroup laneInside) (column_bound workgroup localInside) rowInside
        columnInside same
      obtain ⟨sameLane, sameLocal⟩ := lane_unique workgroup sameRow sameColumn
      rw [sameChunk, sameLane, sameLocal]
    · rw [isAdd] at same
      exact absurd same.symm (mul_add_apart rowInside columnInside
        (row_bound workgroup laneInside) (column_bound workgroup localInside))
  · refine ⟨_, (transform_write_cases workgroup count mul add _).mpr
      ⟨chunk, present, laneOf workgroup row column, lane_bound workgroup rowInside,
        localOf workgroup column, local_bound workgroup columnInside, Or.inl rfl⟩, ?_⟩
    rw [lane_row, lane_column]

theorem stored_add {chunk row column : Nat} (present : chunk < count) (rowInside : row < channels)
    (columnInside : column < headSize) :
    dispatch schedule (transformWrites workgroup count mul add) buffer (addIndex chunk row column) =
      add chunk (laneOf workgroup row column) (localOf workgroup column) := by
  apply dispatch_agreed
  · intro write member same
    obtain ⟨other, _, lane, laneInside, localColumn, localInside, isMul | isAdd⟩ :=
      (transform_write_cases workgroup count mul add write).mp member
    · rw [isMul] at same
      exact absurd same (mul_add_apart (row_bound workgroup laneInside)
        (column_bound workgroup localInside) rowInside columnInside)
    · rw [isAdd] at same ⊢
      obtain ⟨sameChunk, sameRow, sameColumn⟩ := add_index_unique
        (row_bound workgroup laneInside) (column_bound workgroup localInside) rowInside
        columnInside same
      obtain ⟨sameLane, sameLocal⟩ := lane_unique workgroup sameRow sameColumn
      rw [sameChunk, sameLane, sameLocal]
  · refine ⟨_, (transform_write_cases workgroup count mul add _).mpr
      ⟨chunk, present, laneOf workgroup row column, lane_bound workgroup rowInside,
        localOf workgroup column, local_bound workgroup columnInside, Or.inr rfl⟩, ?_⟩
    rw [lane_row, lane_column]

end Store

section Maps

variable {R : Type*} [CommRing R] (workgroup : TransformWorkgroup)

abbrev HeadTransform (R : Type*) := AffineTransform (Fin 32) R

/-- The matrix row of a place in a head. -/
def headRow (head : Fin 4) (place : Fin 32) : Nat := head * headSize + place

theorem head_row_bound (head : Fin 4) (place : Fin 32) : headRow head place < channels := by
  simp only [headRow, headSize, channels]
  omega

theorem head_row_head (head : Fin 4) (place : Fin 32) : headRow head place / headSize = head := by
  simp only [headRow, headSize]
  omega

theorem head_row_place (head : Fin 4) (place : Fin 32) : headRow head place % headSize = place := by
  simp only [headRow, headSize]
  omega

/-- The maps a chunk of a transform buffer holds, one for each head. -/
def transformAt (buffer : Buffer R) (chunk : Nat) (head : Fin 4) : HeadTransform R where
  mul := Matrix.of fun place column => buffer (mulIndex chunk (headRow head place) column)
  add := Matrix.of fun place column => buffer (addIndex chunk (headRow head place) column)

/-- The map of one review: decay, removal along the deformed key, and the new
key and value. -/
def reviewTransform (rows : RowBuffers R) (inputRow : Nat) (head : Fin 4) : HeadTransform R where
  mul := Matrix.diagonal (fun column : Fin 32 => rows.w (inputRow * channels + headRow head column)) -
    Matrix.vecMulVec (fun column : Fin 32 => rows.kDeformed (inputRow * channels + headRow head column))
      (fun column : Fin 32 => rows.k (inputRow * channels + headRow head column))
  add := Matrix.vecMulVec (fun place : Fin 32 => rows.v (inputRow * channels + headRow head place))
    (fun column : Fin 32 => rows.k (inputRow * channels + headRow head column))

def registerTransform (registers : TransformRegisters R) (head : Fin 4) : HeadTransform R where
  mul := Matrix.of fun place column => registers.mul (laneOf workgroup (headRow head place) column)
    (localOf workgroup column)
  add := Matrix.of fun place column => registers.add (laneOf workgroup (headRow head place) column)
    (localOf workgroup column)

theorem initial_registers_one : registerTransform workgroup (initialRegisters workgroup) =
    (1 : Fin 4 → HeadTransform R) := by
  funext head
  apply AffineTransform.ext
  · ext place column
    simp only [registerTransform, initialRegisters, Matrix.of_apply, lane_row, lane_column,
      head_row_place]
    rw [show (1 : Fin 4 → HeadTransform R) head = 1 from rfl, AffineTransform.one_mul_part,
      Matrix.one_apply]
    simp only [Fin.ext_iff]
  · rfl

theorem vector_offset_lane (inputRow : Nat) (head : Fin 4) (place : Fin 32) (column : Nat) :
    vectorOffset workgroup inputRow (laneOf workgroup (headRow head place) column) =
      inputRow * channels + head * headSize := by
  rw [vectorOffset, lane_row, head_row_head]

theorem vector_index (inputRow : Nat) (head : Fin 4) (place : Fin 32) (laneColumn : Nat)
    (column : Fin 32) :
    vectorOffset workgroup inputRow (laneOf workgroup (headRow head place) laneColumn) + column =
      inputRow * channels + headRow head column := by
  rw [vector_offset_lane, headRow, Nat.add_assoc]

/-- The shuffled sum of a lane is the whole product of its matrix row with the
deformed key. -/
theorem deformation_row (rows : RowBuffers R) (inputRow : Nat) (values : Nat → Nat → R)
    (head : Fin 4) (place column : Fin 32) :
    deformation workgroup rows inputRow values (laneOf workgroup (headRow head place) column) =
      ∑ other : Fin 32, values (laneOf workgroup (headRow head place) other)
        (localOf workgroup other) * rows.kDeformed (inputRow * channels + headRow head other) := by
  obtain ⟨levels, lanes, positive, _, columns, _⟩ := workgroup_shape workgroup
  have group : laneOf workgroup (headRow head place) column / workgroup.lanesPerRow =
      headRow head place := lane_row workgroup (headRow head place) column
  rw [deformation]
  conv_lhs => rw [lanes]
  rw [lane_sum_group, ← lanes, group, groupSum, ← lanes]
  have term : ∀ lane ∈ Finset.range workgroup.lanesPerRow,
      (∑ localColumn ∈ Finset.range workgroup.columnsPerLane,
        values (headRow head place * workgroup.lanesPerRow + lane) localColumn *
          rows.kDeformed (vectorOffset workgroup inputRow
              (headRow head place * workgroup.lanesPerRow + lane) +
            columnOf workgroup (headRow head place * workgroup.lanesPerRow + lane) localColumn)) =
      ∑ localColumn ∈ Finset.range workgroup.columnsPerLane,
        (fun index => values (laneOf workgroup (headRow head place) index)
          (localOf workgroup index) *
            rows.kDeformed (inputRow * channels + (head * headSize + index)))
          (lane + localColumn * workgroup.lanesPerRow) := by
    intro lane member
    have small := Finset.mem_range.mp member
    apply Finset.sum_congr rfl
    intro localColumn _
    have column : (lane + localColumn * workgroup.lanesPerRow) % workgroup.lanesPerRow = lane := by
      rw [Nat.add_mul_mod_self_right, Nat.mod_eq_of_lt small]
    have localColumnOf : localOf workgroup (lane + localColumn * workgroup.lanesPerRow) =
        localColumn := by
      rw [localOf, Nat.add_mul_div_right _ _ positive, Nat.div_eq_of_lt small, Nat.zero_add]
    have laneIs : laneOf workgroup (headRow head place) (lane + localColumn * workgroup.lanesPerRow) =
        headRow head place * workgroup.lanesPerRow + lane := by
      rw [laneOf, column]
    have columnIs : columnOf workgroup (headRow head place * workgroup.lanesPerRow + lane)
        localColumn = lane + localColumn * workgroup.lanesPerRow := by
      have whole := lane_column workgroup (headRow head place)
        (lane + localColumn * workgroup.lanesPerRow)
      rw [laneIs, localColumnOf] at whole
      exact whole
    simp only [laneIs, localColumnOf, columnIs]
    rw [← laneIs, vector_offset_lane, Nat.add_assoc]
  have whole := sum_columns (fun index => values (laneOf workgroup (headRow head place) index)
    (localOf workgroup index) * rows.kDeformed (inputRow * channels + (head * headSize + index)))
    workgroup.lanesPerRow workgroup.columnsPerLane
  rw [Finset.sum_congr rfl term, whole, columns]
  exact Finset.sum_range _

/-- One review multiplies the maps in the registers by the map of the review. -/
theorem transform_review_mul (rows : RowBuffers R) (inputRow : Nat)
    (registers : TransformRegisters R) :
    registerTransform workgroup (transformReview workgroup rows inputRow registers) =
      registerTransform workgroup registers * reviewTransform rows inputRow := by
  funext head
  apply AffineTransform.ext
  · ext place column
    rw [Pi.mul_apply, AffineTransform.mul_mul, reviewTransform, AffineTransform.mul_decay]
    simp only [registerTransform, transformReview, Matrix.of_apply, lane_column, vector_index,
      deformation_row]
  · ext place column
    rw [Pi.mul_apply, AffineTransform.mul_add, reviewTransform, Matrix.add_apply,
      AffineTransform.mul_decay]
    simp only [registerTransform, transformReview, Matrix.of_apply, Matrix.vecMulVec_apply, lane_row,
      lane_column, vector_index, deformation_row]

/-- A chunk's registers hold the maps of its reviews, composed in order. -/
theorem chunk_registers_product (mode : GpuProcessScanMode) (rows : RowBuffers R)
    (chunkInfo : TransformMeta) :
    registerTransform workgroup (chunkRegisters workgroup mode rows chunkInfo) =
      ((List.range chunkInfo.reviewCount).map fun review =>
        reviewTransform rows (processInputRow mode chunkInfo.startRow review)).prod := by
  rw [chunkRegisters]
  induction chunkInfo.reviewCount with
  | zero => exact initial_registers_one workgroup
  | succ count ih =>
      rw [List.range_succ, List.foldl_append, List.foldl_cons, List.foldl_nil,
        transform_review_mul, ih, List.map_append, List.prod_append, List.map_singleton,
        List.prod_singleton]

theorem stored_transform (schedule : Schedule R) (count : Nat) (mul add : Nat → Nat → Nat → R)
    (buffer : Buffer R) (chunk : Nat) (present : chunk < count) :
    transformAt (dispatch schedule (transformWrites workgroup count mul add) buffer) chunk =
      registerTransform workgroup ⟨mul chunk, add chunk⟩ := by
  funext head
  apply AffineTransform.ext
  · ext place column
    exact stored_mul workgroup schedule count mul add buffer present (head_row_bound head place)
      column.isLt
  · ext place column
    exact stored_add workgroup schedule count mul add buffer present (head_row_bound head place)
      column.isLt

theorem built_transform (schedule : Schedule R) (mode : GpuProcessScanMode) (rows : RowBuffers R)
    (transformMetadata : List TransformMeta) (buffers : TransformBuffers R) (chunk : Nat)
    (info : TransformMeta) (present : transformMetadata[chunk]? = some info) :
    transformAt (buildChunkTransforms workgroup schedule mode rows transformMetadata buffers).a
        chunk =
      ((List.range info.reviewCount).map fun review =>
        reviewTransform rows (processInputRow mode info.startRow review)).prod := by
  have inside := (List.getElem?_eq_some_iff.mp present).1
  have found : transformMetadata.getD chunk noTransform = info := by
    rw [List.getD_eq_getElem?_getD, present, Option.getD_some]
  rw [buildChunkTransforms, stored_transform workgroup schedule _ _ _ _ chunk inside]
  simp only [found]
  exact chunk_registers_product workgroup mode rows info

def placeOf (transformMetadata : List TransformMeta) (chunk : Nat) : Nat :=
  (transformMetadata.getD chunk noTransform).localIndex

/-- One scan dispatch is one level of the doubling scan. -/
theorem scanned_level (schedule : Schedule R) (source buffer : Buffer R)
    (transformMetadata : List TransformMeta) (scanOffset chunk : Nat)
    (present : chunk < transformMetadata.length) :
    transformAt (dispatch schedule (scanWrites workgroup source transformMetadata scanOffset) buffer)
        chunk =
      scanLevel (placeOf transformMetadata) (transformAt source) scanOffset chunk := by
  rw [scanWrites, stored_transform workgroup schedule _ _ _ _ chunk present]
  by_cases near : (transformMetadata.getD chunk noTransform).localIndex < scanOffset
  · rw [scanLevel, if_pos (show placeOf transformMetadata chunk < scanOffset from near)]
    funext head
    apply AffineTransform.ext <;> ext place column <;>
      simp only [registerTransform, transformAt, scannedMul, scannedAdd, near, if_true,
        Matrix.of_apply, lane_row, lane_column]
  · rw [scanLevel, if_neg (show ¬ placeOf transformMetadata chunk < scanOffset from near)]
    funext head
    rw [Pi.mul_apply]
    apply AffineTransform.ext
    · ext place column
      simp only [AffineTransform.mul_mul, Matrix.mul_apply, registerTransform, transformAt,
        scannedMul, near, if_false, Matrix.of_apply, lane_row, lane_column, head_row_head]
      exact Finset.sum_range _
    · ext place column
      simp only [AffineTransform.mul_add, Matrix.add_apply, Matrix.mul_apply, registerTransform,
        transformAt, scannedAdd, near, if_false, Matrix.of_apply, lane_row, lane_column,
        head_row_head, head_row_place]
      rw [Finset.sum_range]
      rfl

theorem scan_dispatch_level (schedule : Schedule R) (transformMetadata : List TransformMeta)
    (state : TransformBuffers R × Bool) (scanOffset chunk : Nat)
    (present : chunk < transformMetadata.length) :
    let next := scanChunkTransforms workgroup schedule transformMetadata state scanOffset
    transformAt (next.1.value next.2) chunk =
      scanLevel (placeOf transformMetadata) (transformAt (state.1.value state.2)) scanOffset
        chunk := by
  obtain ⟨buffers, sourceB⟩ := state
  cases sourceB
  · exact scanned_level workgroup schedule (buffers.value false) buffers.b transformMetadata
      scanOffset chunk present
  · exact scanned_level workgroup schedule (buffers.value true) buffers.a transformMetadata
      scanOffset chunk present

/-- The ping-pong loop computes the doubling scan of the built transforms. -/
theorem scan_transforms_scan (schedule : Schedule R) (plan : ModulePlan)
    (buffers : TransformBuffers R) (chunk : Nat) (present : chunk < plan.transformMetadata.length) :
    let last := scanTransforms workgroup schedule plan buffers
    transformAt (last.1.value last.2) chunk =
      scan (placeOf plan.transformMetadata) plan.maxTransformRun (transformAt buffers.a) chunk := by
  have loop : ∀ (offsets : List Nat) (state : TransformBuffers R × Bool)
      (values : Nat → Fin 4 → HeadTransform R),
      (∀ other, other < plan.transformMetadata.length →
        transformAt (state.1.value state.2) other = values other) →
      ∀ other, other < plan.transformMetadata.length →
        transformAt ((offsets.foldl (scanChunkTransforms workgroup schedule plan.transformMetadata)
            state).1.value
          (offsets.foldl (scanChunkTransforms workgroup schedule plan.transformMetadata) state).2)
            other =
          offsets.foldl (scanLevel (placeOf plan.transformMetadata)) values other := by
    intro offsets
    induction offsets with
    | nil =>
        intro state values agree
        exact agree
    | cons offset offsets ih =>
        intro state values agree
        rw [List.foldl_cons, List.foldl_cons]
        apply ih
        intro other inside
        have level := scan_dispatch_level workgroup schedule plan.transformMetadata state offset
          other inside
        rw [level, scanLevel, scanLevel, agree other inside, agree (other - offset) (by omega)]
  exact loop (doublings plan.maxTransformRun) (buffers, false) (transformAt buffers.a)
    (fun _ _ => rfl) chunk present

end Maps

section Segments

variable {R : Type*} [CommRing R] {mode : GpuProcessScanMode} {chunkReviews : Nat}
  {hasState : Option Int64 → Bool} {streams : List EntityStream} {plan : ModulePlan}

theorem planned_place (planned : Planned mode chunkReviews hasState streams plan) {entity : Nat}
    {stream : EntityStream} (found : streams[entity]? = some stream) {chunk : Nat}
    (inside : chunk < transformCount chunkReviews stream) :
    placeOf plan.transformMetadata (transformStart chunkReviews streams entity + chunk) = chunk := by
  rw [placeOf, List.getD_eq_getElem?_getD, planned.transformPlaces entity stream found chunk inside]
  rfl

theorem transforms_segmented (planned : Planned mode chunkReviews hasState streams plan) :
    Segmented (placeOf plan.transformMetadata) plan.transformMetadata.length := by
  constructor
  · intro item below
    obtain ⟨entity, stream, found, chunk, inside, same⟩ := planned.transformsCovered item below
    rw [same, planned_place planned found inside]
    omega
  · intro item back below near
    obtain ⟨entity, stream, found, chunk, inside, same⟩ := planned.transformsCovered item below
    rw [same, planned_place planned found inside] at near ⊢
    have earlier : transformStart chunkReviews streams entity + chunk - back =
        transformStart chunkReviews streams entity + (chunk - back) := by omega
    rw [earlier, planned_place planned found (by omega)]

theorem process_input_row (mode : GpuProcessScanMode) (startRow review : Nat) :
    processInputRow mode startRow review =
      startRow + review * mode.rowsPerReview + mode.processRowOffset := by
  cases mode <;>
    simp [processInputRow, GpuProcessScanMode.rowsPerReview, GpuProcessScanMode.processRowOffset,
      Nat.add_assoc]

/-- The map of the process row at a position of an entity. -/
def positionTransform (mode : GpuProcessScanMode) (rows : RowBuffers R) (start position : Nat) :
    Fin 4 → HeadTransform R :=
  reviewTransform rows (start + position * mode.rowsPerReview + mode.processRowOffset)

/-- A chunk that is followed by another one is full. -/
theorem transform_chunk_full {stream : EntityStream} {chunk : Nat}
    (inside : chunk < transformCount chunkReviews stream) :
    min (stream.rows.length - chunk * chunkReviews) chunkReviews = chunkReviews := by
  rw [transformCount, finalChunkCount] at inside
  rcases Nat.eq_zero_or_pos chunkReviews with zero | positive
  · rw [zero]
    exact Nat.min_zero _
  · have quotient : chunk + 2 ≤ (stream.rows.length + chunkReviews - 1) / chunkReviews := by omega
    have long := (Nat.le_div_iff_mul_le positive).mp quotient
    have split : (chunk + 2) * chunkReviews = chunk * chunkReviews + chunkReviews + chunkReviews := by
      ring
    omega

/-- After the scan a transform chunk holds the maps of all reviews of its
entity up to the end of the chunk. -/
theorem scanned_transform (workgroup : TransformWorkgroup) (schedule : Schedule R)
    (planned : Planned mode chunkReviews hasState streams plan) (rows : RowBuffers R)
    (buffers : TransformBuffers R) {entity : Nat} {stream : EntityStream}
    (found : streams[entity]? = some stream) {chunk : Nat}
    (inside : chunk < transformCount chunkReviews stream) :
    let built := buildChunkTransforms workgroup schedule mode rows plan.transformMetadata buffers
    let last := scanTransforms workgroup schedule plan built
    transformAt (last.1.value last.2) (transformStart chunkReviews streams entity + chunk) =
      ((List.range ((chunk + 1) * chunkReviews)).map
        (positionTransform mode rows (rowStart mode streams entity))).prod := by
  intro built last
  have place := planned.transformPlaces entity stream found chunk inside
  have present := (List.getElem?_eq_some_iff.mp place).1
  have bound := planned.runs stream (List.mem_of_getElem? found)
  have short : placeOf plan.transformMetadata (transformStart chunkReviews streams entity + chunk) <
      plan.maxTransformRun := by
    rw [planned_place planned found inside]
    omega
  have scanned := scan_transforms_scan workgroup schedule plan built
    (transformStart chunkReviews streams entity + chunk) present
  rw [scanned, scan_segments (transforms_segmented planned) _ _ _ present short,
    planned_place planned found inside, windowProduct]
  clear scanned short bound present place
  -- The window starts at the entity's first transform chunk.
  have starts : ∀ earlier, transformStart chunkReviews streams entity + chunk + 1 - (chunk + 1) +
      earlier = transformStart chunkReviews streams entity + earlier := by omega
  have chunkProduct : ∀ earlier, earlier < chunk + 1 →
      transformAt built.a (transformStart chunkReviews streams entity + earlier) =
        ((List.range chunkReviews).map fun review => positionTransform mode rows
          (rowStart mode streams entity) (earlier * chunkReviews + review)).prod := by
    intro earlier below
    have earlierInside : earlier < transformCount chunkReviews stream := by omega
    rw [built_transform workgroup schedule mode rows plan.transformMetadata buffers _ _
      (planned.transformPlaces entity stream found earlier earlierInside), plannedTransform,
      transform_chunk_full earlierInside]
    congr 1
    apply List.map_congr_left
    intro review _
    rw [positionTransform, process_input_row]
    congr 1
    ring
  have mapped : (List.range (chunk + 1)).map (fun earlier => transformAt built.a
      (transformStart chunkReviews streams entity + chunk + 1 - (chunk + 1) + earlier)) =
      (List.range (chunk + 1)).map fun earlier => ((List.range chunkReviews).map fun review =>
        positionTransform mode rows (rowStart mode streams entity)
          (earlier * chunkReviews + review)).prod := by
    apply List.map_congr_left
    intro earlier member
    rw [starts, chunkProduct earlier (List.mem_range.mp member)]
  rw [mapped]
  clear mapped chunkProduct starts inside
  generalize chunk + 1 = chunks
  induction chunks with
  | zero => simp
  | succ chunks ih =>
      rw [List.range_succ, List.map_append, List.prod_append, ih, Nat.succ_mul, List.range_add,
        List.map_append, List.prod_append, List.map_map, List.map_singleton, List.prod_singleton]
      rfl

end Segments

end RwkvSrs.GpuScanTransforms
