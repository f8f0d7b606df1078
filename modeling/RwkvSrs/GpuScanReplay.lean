import RwkvSrs.GpuScanRecurrence

/-!
The replay of the chunks, and with it the whole time mixer of a layer: every
row's output and every entity's final state are those of the sequential
recurrence, for any chunk size, any mode and any order of the device's writes.
-/

namespace RwkvSrs.GpuScanReplay

set_option autoImplicit false
set_option linter.unusedSectionVars false

open ComputeDispatch GpuScanPlan GpuScanKernels GpuScanTopology GpuScanTransforms
open GpuScanRecurrence AffineScan

section Entity

variable {X R : Type*} [CommRing R] (layer : LayerFunctions X R) {layers localLayer : Nat}
  {mode : GpuProcessScanMode} {chunkReviews : Nat} {hasState : Option Int64 → Bool}
  {streams : List EntityStream} {plan : ModulePlan} (values : Option Int64 → Nat → R)
  (originalX : Nat → X)

/-- The state of a stream's entity after its first reviews. -/
def stateAfter (mode : GpuProcessScanMode) (hasState : Option Int64 → Bool) (localLayer : Nat)
    (stream : EntityStream) (count : Nat) : EntityState R :=
  processReviews layer mode originalX (storedState hasState values localLayer stream.key)
    (stream.rows.take count)

theorem state_after_succ {stream : EntityStream} {position review : Nat}
    (found : stream.rows[position]? = some review) :
    stateAfter layer values originalX mode hasState localLayer stream (position + 1) =
      processReview layer mode originalX
        (stateAfter layer values originalX mode hasState localLayer stream position) review := by
  obtain ⟨below, here⟩ := List.getElem?_eq_some_iff.mp found
  rw [stateAfter, List.take_succ_eq_append_getElem below, processReviews, List.foldl_append, here]
  rfl

theorem planned_key (planned : Planned mode chunkReviews hasState streams plan) {entity : Nat}
    {stream : EntityStream} (found : streams[entity]? = some stream) :
    plan.keys[entity]? = some stream.key := by
  rw [planned.keys, List.getElem?_map, found, Option.map_some]

theorem gathered_row (planned : Planned mode chunkReviews hasState streams plan) {entity : Nat}
    {stream : EntityStream} (found : streams[entity]? = some stream) {position review offset : Nat}
    (placed : stream.rows[position]? = some review) (small : offset < mode.rowsPerReview) :
    gather originalX plan.sequenceToOriginal
        (rowStart mode streams entity + position * mode.rowsPerReview + offset) =
      originalX (review * mode.rowsPerReview + offset) := by
  have here := (planned.rows entity stream found position review placed offset small).1
  rw [gather, List.getD_eq_getElem?_getD, here, Option.getD_some]

/-- The shift a row loads is the one its entity has reached. -/
theorem loaded_shift (planned : Planned mode chunkReviews hasState streams plan)
    (inside : localLayer < layers) {entity : Nat} {stream : EntityStream}
    (found : streams[entity]? = some stream) {position review offset : Nat}
    (placed : stream.rows[position]? = some review) (small : offset < mode.rowsPerReview) :
    loadShiftedNorm layer layers localLayer (uploadedStates layers values plan.keys)
        (gather originalX plan.sequenceToOriginal)
        (rowStart mode streams entity + position * mode.rowsPerReview + offset)
        (plannedRow mode hasState (rowStart mode streams entity) entity stream position offset) =
      (stateAfter layer values originalX mode hasState localLayer stream position).shift.getD
        (layer.normalize (originalX (review * mode.rowsPerReview + offset))) := by
  have positive := rows_per_review_positive mode
  cases position with
  | zero =>
      have row := gathered_row originalX planned found placed small
      rw [loadShiftedNorm, stateAfter, List.take_zero, processReviews, List.foldl_nil, storedState]
      simp only [plannedRow, if_true]
      by_cases stored : hasState stream.key = true
      · rw [if_pos stored, if_pos stored, Option.getD_some]
        funext channel
        exact uploaded_value layers localLayer inside values plan.keys entity stream.key
          (planned_key planned found) channel (by simp only [stateLayerStride]; omega)
      · rw [if_neg stored, if_neg stored, Option.getD_none, row]
  | succ position =>
      have below : position < stream.rows.length := by
        have := (List.getElem?_eq_some_iff.mp placed).1
        omega
      have before : stream.rows[position]? = some stream.rows[position] :=
        List.getElem?_eq_getElem below
      have offsetSmall : mode.processRowOffset < mode.rowsPerReview := by
        rw [GpuProcessScanMode.processRowOffset]
        omega
      have previous : rowStart mode streams entity + (position + 1) * mode.rowsPerReview - 1 =
          rowStart mode streams entity + position * mode.rowsPerReview + mode.processRowOffset := by
        rw [Nat.succ_mul, GpuProcessScanMode.processRowOffset]
        omega
      have row := gathered_row originalX planned found before offsetSmall
      rw [state_after_succ layer values originalX before, processReview, Option.getD_some,
        loadShiftedNorm]
      simp only [plannedRow, Nat.succ_ne_zero, if_false, previous, row, processRow]

/-- What the buffers hold for a row is what its entity's state projects it to. -/
theorem planned_row_holds (planned : Planned mode chunkReviews hasState streams plan)
    (inside : localLayer < layers) (schedule : Schedule R) (buffers : RowBuffers R) {entity : Nat}
    {stream : EntityStream} (found : streams[entity]? = some stream) {position review offset : Nat}
    (placed : stream.rows[position]? = some review) (small : offset < mode.rowsPerReview) :
    RowHolds
      (prepareLayer layer layers localLayer (uploadedStates layers values plan.keys)
        (gather originalX plan.sequenceToOriginal) plan.rowMetadata schedule buffers)
      (rowStart mode streams entity + position * mode.rowsPerReview + offset)
      (rowProjections layer originalX
        (stateAfter layer values originalX mode hasState localLayer stream position)
        (review * mode.rowsPerReview + offset)) := by
  have metadata := (planned.rows entity stream found position review placed offset small).2
  have held := prepared_row layer layers localLayer (uploadedStates layers values plan.keys)
    (gather originalX plan.sequenceToOriginal) plan.rowMetadata schedule buffers _ _ metadata
  rw [loaded_shift layer values originalX planned inside found placed small,
    gathered_row originalX planned found placed small] at held
  exact held

variable {rows : RowBuffers R} {entity : Nat} {stream : EntityStream}

/-- Every row of a stream is in the buffers. -/
def StreamHolds (mode : GpuProcessScanMode) (hasState : Option Int64 → Bool) (localLayer : Nat)
    (streams : List EntityStream) (rows : RowBuffers R) (entity : Nat) (stream : EntityStream) :
    Prop :=
  ∀ position review offset, stream.rows[position]? = some review → offset < mode.rowsPerReview →
    RowHolds rows (rowStart mode streams entity + position * mode.rowsPerReview + offset)
      (rowProjections layer originalX
        (stateAfter layer values originalX mode hasState localLayer stream position)
        (review * mode.rowsPerReview + offset))

theorem process_offset_small (mode : GpuProcessScanMode) :
    mode.processRowOffset < mode.rowsPerReview := by
  have positive := rows_per_review_positive mode
  rw [GpuProcessScanMode.processRowOffset]
  omega

/-- The maps of the first reviews of a stream lead to the state after them. -/
theorem product_state
    (holds : StreamHolds layer values originalX mode hasState localLayer streams rows entity stream)
    (count : Nat) (short : count ≤ stream.rows.length) (head : Fin 4) :
    ((((List.range count).map
        (positionTransform mode rows (rowStart mode streams entity))).prod) head).apply
        ((storedState hasState values localLayer stream.key).timeState head) =
      (stateAfter layer values originalX mode hasState localLayer stream count).timeState head := by
  induction count with
  | zero => exact AffineTransform.apply_one _
  | succ count ih =>
      have placed : stream.rows[count]? = some stream.rows[count] :=
        List.getElem?_eq_getElem (by omega)
      have held := holds count _ mode.processRowOffset placed (process_offset_small mode)
      rw [List.range_succ, List.map_append, List.prod_append, List.map_singleton,
        List.prod_singleton, Pi.mul_apply, AffineTransform.apply_mul, ih (by omega),
        positionTransform, holds_transform held, projection_transform_apply,
        state_after_succ layer values originalX placed]
      rfl

/-- A chunk starts from the state after all reviews before it. -/
theorem chunk_state_before
    (holds : StreamHolds layer values originalX mode hasState localLayer streams rows entity stream)
    (inside : localLayer < layers) (keys : List (Option Int64))
    (key : keys[entity]? = some stream.key) (transforms : Buffer R) (transformsStart : Nat)
    (scanned : ∀ chunk, chunk < transformCount chunkReviews stream →
      transformAt transforms (transformsStart + chunk) =
        ((List.range ((chunk + 1) * chunkReviews)).map
          (positionTransform mode rows (rowStart mode streams entity))).prod)
    {chunk : Nat} (present : chunk < finalChunkCount chunkReviews stream)
    (short : chunk * chunkReviews ≤ stream.rows.length) (head : Fin 4) (place column : Fin 32) :
    chunkState transforms (uploadedStates layers values keys) layers localLayer
        (plannedChunk mode chunkReviews (rowStart mode streams entity) transformsStart entity stream
          chunk) (headRow head place) column =
      (stateAfter layer values originalX mode hasState localLayer stream
        (chunk * chunkReviews)).timeState head place column := by
  have stored := uploaded_state layers localLayer inside hasState values keys entity stream.key key
  have cell := fun (other : Fin 32) =>
    congrFun (congrFun (congrFun stored head) place) other
  have before := product_state layer values originalX holds (chunk * chunkReviews) short head
  cases chunk with
  | zero =>
      rw [Nat.zero_mul] at before ⊢
      rw [← before, chunkState]
      simp only [plannedChunk, if_true]
      rw [show ((List.range 0).map (positionTransform mode rows (rowStart mode streams entity))).prod
        = 1 from rfl, Pi.one_apply, AffineTransform.apply_one]
      exact cell column
  | succ chunk =>
      have scan := scanned chunk (by rw [transformCount]; omega)
      have place' : transformsStart + (chunk + 1) - 1 = transformsStart + chunk := by omega
      rw [← before, ← scan, chunkState]
      simp only [plannedChunk, Nat.succ_ne_zero, if_false, place', sum_head, head_row_head]
      rw [AffineTransform.apply, Matrix.add_apply, Matrix.mul_apply, add_comm]
      congr 1
      apply Finset.sum_congr rfl
      intro other _
      rw [← cell other]
      rfl

/-- The replay of a chunk, review by review: the lane holds its row of the
state, and the outputs so far are those of the rows so far. -/
theorem replay_lane_steps
    (holds : StreamHolds layer values originalX mode hasState localLayer streams rows entity stream)
    (first : Nat) (head : Fin 4) (place : Fin 32) (start : Nat → R)
    (started : ∀ column : Fin 32, start column =
      (stateAfter layer values originalX mode hasState localLayer stream first).timeState head place
        column)
    (count : Nat) (short : first + count ≤ stream.rows.length) :
    let progress := (List.range count).foldl
      (replayReview mode rows (headRow head place)
        (rowStart mode streams entity + first * mode.rowsPerReview)) ([], start)
    (∀ column : Fin 32, progress.2 column =
        (stateAfter layer values originalX mode hasState localLayer stream
          (first + count)).timeState head place column) ∧
      ∀ write, write ∈ progress.1 ↔ ∃ review, review < count ∧ ∃ original,
        stream.rows[first + review]? = some original ∧ ∃ offset, offset < mode.rowsPerReview ∧
          write = ((rowStart mode streams entity + (first + review) * mode.rowsPerReview + offset) *
              channels + headRow head place,
            rowOutput layer originalX
              (stateAfter layer values originalX mode hasState localLayer stream (first + review))
              (original * mode.rowsPerReview + offset) head place) := by
  induction count with
  | zero => exact ⟨started, by simp⟩
  | succ count ih =>
      obtain ⟨reached, written⟩ := ih (by omega)
      rw [List.range_succ, List.foldl_append, List.foldl_cons, List.foldl_nil]
      generalize (List.range count).foldl (replayReview mode rows (headRow head place)
        (rowStart mode streams entity + first * mode.rowsPerReview)) ([], start) = progress at *
      obtain ⟨outputs, lane⟩ := progress
      have placed : stream.rows[first + count]? = some stream.rows[first + count] :=
        List.getElem?_eq_getElem (by omega)
      have index : ∀ offset, rowStart mode streams entity + first * mode.rowsPerReview +
          count * mode.rowsPerReview + offset =
          rowStart mode streams entity + (first + count) * mode.rowsPerReview + offset := by
        intro offset
        ring
      have held := fun offset small => holds (first + count) _ offset placed small
      have processHeld := held mode.processRowOffset (process_offset_small mode)
      constructor
      · intro column
        rw [← Nat.add_assoc, state_after_succ layer values originalX placed, replayReview]
        simp only [process_input_row, index]
        exact lane_next_recurrence processHeld head place lane _ reached column
      · intro write
        have outputOf := fun offset small =>
          lane_output_recurrence (held offset small) head place lane _ reached
        have added : (replayReview mode rows (headRow head place)
            (rowStart mode streams entity + first * mode.rowsPerReview) (outputs, lane) count).1 =
            outputs ++ (List.range mode.rowsPerReview).map fun offset =>
              ((rowStart mode streams entity + (first + count) * mode.rowsPerReview + offset) *
                  channels + headRow head place,
                laneOutput rows (rowStart mode streams entity +
                  (first + count) * mode.rowsPerReview + offset) (headRow head place) lane) := by
          simp only [← index]
          cases mode <;>
            simp [replayReview, processInputRow, GpuProcessScanMode.rowsPerReview, List.range_succ]
        rw [added, List.mem_append, written, List.mem_map]
        constructor
        · rintro (⟨review, earlier, rest⟩ | ⟨offset, member, same⟩)
          · exact ⟨review, by omega, rest⟩
          · have small := List.mem_range.mp member
            refine ⟨count, by omega, _, placed, offset, small, ?_⟩
            rw [← same, outputOf offset small]
            rfl
        · rintro ⟨review, below, original, found, offset, small, same⟩
          by_cases earlier : review < count
          · exact Or.inl ⟨review, earlier, original, found, offset, small, same⟩
          · have last : review = count := by omega
            subst last
            rw [placed] at found
            have sameOriginal := Option.some.inj found
            refine Or.inr ⟨offset, List.mem_range.mpr small, ?_⟩
            rw [same, outputOf offset small, sameOriginal]
            rfl

end Entity

section Chunks

variable {chunkReviews : Nat} {stream : EntityStream}

theorem chunk_present (positive : 0 < chunkReviews) (chunk : Nat) :
    chunk < finalChunkCount chunkReviews stream ↔ chunk * chunkReviews < stream.rows.length := by
  rw [finalChunkCount, Nat.lt_iff_add_one_le, Nat.le_div_iff_mul_le positive, Nat.succ_mul]
  omega

/-- The last chunk ends with the last review. -/
theorem last_chunk_end (positive : 0 < chunkReviews) {chunk : Nat}
    (last : chunk + 1 = finalChunkCount chunkReviews stream) :
    chunk * chunkReviews + min (stream.rows.length - chunk * chunkReviews) chunkReviews =
      stream.rows.length := by
  have inside : chunk * chunkReviews < stream.rows.length :=
    (chunk_present positive chunk).mp (by omega)
  have outside : ¬ (chunk + 1) * chunkReviews < stream.rows.length := by
    intro beyond
    have := (chunk_present positive (chunk + 1)).mpr beyond
    omega
  rw [Nat.succ_mul] at outside
  omega

theorem lane_of_head {lane : Nat} (inside : lane < channels) :
    ∃ head place, lane = headRow head place := by
  simp only [channels] at inside
  refine ⟨⟨lane / 32, by omega⟩, ⟨lane % 32, by omega⟩, ?_⟩
  simp only [headRow, headSize]
  omega

theorem head_row_unique {head otherHead : Fin 4} {place otherPlace : Fin 32}
    (same : headRow head place = headRow otherHead otherPlace) :
    head = otherHead ∧ place = otherPlace := by
  simp only [headRow, headSize] at same
  constructor <;> apply Fin.ext <;> omega

/-- Rows of different chunks of channels do not meet. -/
theorem row_address_unique {row otherRow : Nat} {head otherHead : Fin 4} {place otherPlace : Fin 32}
    (same : row * channels + headRow head place = otherRow * channels + headRow otherHead otherPlace) :
    row = otherRow ∧ head = otherHead ∧ place = otherPlace := by
  have below := head_row_bound head place
  have otherBelow := head_row_bound otherHead otherPlace
  have rows : row = otherRow := by
    simp only [channels] at *
    omega
  rw [rows] at same
  exact ⟨rows, head_row_unique (Nat.add_left_cancel same)⟩

theorem state_address_unique {layers localLayer entity otherEntity offset otherOffset : Nat}
    (inside : localLayer < layers) (small : offset < stateLayerStride)
    (otherSmall : otherOffset < stateLayerStride)
    (same : stateLayerBase layers localLayer entity + offset =
      stateLayerBase layers localLayer otherEntity + otherOffset) :
    entity = otherEntity ∧ offset = otherOffset := by
  have base : ∀ other, stateLayerBase layers localLayer other =
      (other * layers + localLayer) * stateLayerStride := by
    intro other
    rw [stateLayerBase]
    ring
  rw [base, base] at same
  have blocks : entity * layers + localLayer = otherEntity * layers + localLayer := by
    simp only [stateLayerStride] at *
    omega
  have entities : entity = otherEntity :=
    Nat.eq_of_mul_eq_mul_right (by omega) (Nat.add_right_cancel blocks)
  rw [entities] at same
  exact ⟨entities, Nat.add_left_cancel same⟩

theorem channel_offset_small (channel : Fin 128) : (channel : Nat) < stateLayerStride := by
  simp only [stateLayerStride]
  omega

theorem time_offset_small (head : Fin 4) (place column : Fin 32) :
    timeStateOffset + headRow head place * headSize + column < stateLayerStride := by
  have row := head_row_bound head place
  simp only [timeStateOffset, headSize, stateLayerStride, channels] at *
  omega

theorem state_cell {R : Type*} (layers localLayer : Nat) (buffer : Buffer R) (entity : Nat)
    (head : Fin 4) (place column : Fin 32) :
    stateAt layers localLayer buffer entity head place column =
      buffer (stateLayerBase layers localLayer entity +
        (timeStateOffset + headRow head place * headSize + column)) := by
  simp only [stateAt, Matrix.of_apply, Nat.add_assoc]

theorem time_offset_unique {head otherHead : Fin 4} {place otherPlace column otherColumn : Fin 32}
    (same : timeStateOffset + headRow head place * headSize + column =
      timeStateOffset + headRow otherHead otherPlace * headSize + otherColumn) :
    head = otherHead ∧ place = otherPlace ∧ column = otherColumn := by
  have rows : headRow head place = headRow otherHead otherPlace := by
    simp only [timeStateOffset, headSize] at same
    omega
  obtain ⟨heads, places⟩ := head_row_unique rows
  rw [rows] at same
  exact ⟨heads, places, Fin.ext (Nat.add_left_cancel same)⟩

end Chunks

section Batch

variable {X R : Type*} [CommRing R] (layer : LayerFunctions X R) {layers localLayer : Nat}
  {mode : GpuProcessScanMode} {chunkReviews : Nat} {hasState : Option Int64 → Bool}
  {streams : List EntityStream} {plan : ModulePlan} (values : Option Int64 → Nat → R)
  (originalX : Nat → X) {rows : RowBuffers R} {transforms : Buffer R}

/-- What the dispatches before the replay have to leave behind. -/
structure ReplayReady (mode : GpuProcessScanMode) (chunkReviews : Nat)
    (hasState : Option Int64 → Bool) (localLayer : Nat) (streams : List EntityStream)
    (rows : RowBuffers R) (transforms : Buffer R) : Prop where
  held : ∀ entity stream, streams[entity]? = some stream →
    StreamHolds layer values originalX mode hasState localLayer streams rows entity stream
  scanned : ∀ entity stream, streams[entity]? = some stream →
    ∀ chunk, chunk < transformCount chunkReviews stream →
      transformAt transforms (transformStart chunkReviews streams entity + chunk) =
        ((List.range ((chunk + 1) * chunkReviews)).map
          (positionTransform mode rows (rowStart mode streams entity))).prod

variable (planned : Planned mode chunkReviews hasState streams plan)
  (ready : ReplayReady layer values originalX mode chunkReviews hasState localLayer streams rows
    transforms)
  (positive : 0 < chunkReviews) (inside : localLayer < layers)

include planned ready positive inside

theorem chunk_replayed {entity : Nat} {stream : EntityStream}
    (found : streams[entity]? = some stream) {chunk : Nat}
    (present : chunk < finalChunkCount chunkReviews stream) (head : Fin 4) (place : Fin 32) :
    let progress := replayLane transforms (uploadedStates layers values plan.keys) layers localLayer
      mode rows (plannedChunk mode chunkReviews (rowStart mode streams entity)
        (transformStart chunkReviews streams entity) entity stream chunk) (headRow head place)
    (∀ column : Fin 32, progress.2 column =
        (stateAfter layer values originalX mode hasState localLayer stream (chunk * chunkReviews +
          min (stream.rows.length - chunk * chunkReviews) chunkReviews)).timeState head place
          column) ∧
      ∀ write, write ∈ progress.1 ↔ ∃ review,
        review < min (stream.rows.length - chunk * chunkReviews) chunkReviews ∧ ∃ original,
        stream.rows[chunk * chunkReviews + review]? = some original ∧
        ∃ offset, offset < mode.rowsPerReview ∧
          write = ((rowStart mode streams entity +
              (chunk * chunkReviews + review) * mode.rowsPerReview + offset) * channels +
                headRow head place,
            rowOutput layer originalX (stateAfter layer values originalX mode hasState localLayer
              stream (chunk * chunkReviews + review)) (original * mode.rowsPerReview + offset)
              head place) := by
  have begins := (chunk_present positive chunk).mp present
  apply replay_lane_steps layer values originalX (ready.held entity stream found)
  · intro column
    exact chunk_state_before layer values originalX (ready.held entity stream found) inside
      plan.keys (planned_key planned found) transforms (transformStart chunkReviews streams entity)
      (ready.scanned entity stream found) present begins.le head place column
  · simp only [plannedChunk]
    omega

/-- The outputs the replay writes are the outputs of the rows, each at its place. -/
theorem output_writes (write : Write R) :
    write ∈ replayOutputWrites transforms (uploadedStates layers values plan.keys) layers localLayer
        mode rows plan.finalChunkMetadata ↔
      ∃ entity stream, streams[entity]? = some stream ∧ ∃ position original,
        stream.rows[position]? = some original ∧ ∃ offset, offset < mode.rowsPerReview ∧
        ∃ head place,
          write = ((rowStart mode streams entity + position * mode.rowsPerReview + offset) *
              channels + headRow head place,
            rowOutput layer originalX
              (stateAfter layer values originalX mode hasState localLayer stream position)
              (original * mode.rowsPerReview + offset) head place) := by
  have replayed := fun {entity : Nat} {stream : EntityStream}
      (found : streams[entity]? = some stream) {chunk : Nat}
      (present : chunk < finalChunkCount chunkReviews stream) =>
    chunk_replayed layer values originalX planned ready positive inside found present
  simp only [replayOutputWrites, List.mem_flatMap]
  constructor
  · rintro ⟨chunkInfo, member, lane, laneMember, written⟩
    obtain ⟨entity, stream, found, chunk, present, same⟩ := (planned.chunks chunkInfo).mp member
    obtain ⟨head, place, isLane⟩ := lane_of_head (List.mem_range.mp laneMember)
    subst same isLane
    obtain ⟨review, _, original, placed, offset, small, value⟩ :=
      ((replayed found present head place).2 write).mp written
    exact ⟨entity, stream, found, chunk * chunkReviews + review, original, placed, offset, small,
      head, place, value⟩
  · rintro ⟨entity, stream, found, position, original, placed, offset, small, head, place, value⟩
    have below := (List.getElem?_eq_some_iff.mp placed).1
    have split := Nat.div_add_mod' position chunkReviews
    have rest := Nat.mod_lt position positive
    have present : position / chunkReviews < finalChunkCount chunkReviews stream := by
      rw [chunk_present positive]
      omega
    refine ⟨_, (planned.chunks _).mpr ⟨entity, stream, found, position / chunkReviews, present, rfl⟩,
      headRow head place, List.mem_range.mpr (head_row_bound head place),
      ((replayed found present head place).2 write).mpr
        ⟨position % chunkReviews, by omega, original, ?_, offset, small, ?_⟩⟩
    · rw [split]
      exact placed
    · rw [split]
      exact value

/-- The states the replay writes are those after all reviews of an entity. -/
theorem state_writes (write : Write R) :
    write ∈ replayStateWrites transforms (uploadedStates layers values plan.keys) layers localLayer
        mode rows plan.finalChunkMetadata ↔
      ∃ entity stream, streams[entity]? = some stream ∧ stream.rows ≠ [] ∧
        ∃ head place, ∃ column : Fin 32,
        write = (stateLayerBase layers localLayer entity +
            (timeStateOffset + headRow head place * headSize + column),
          (stateAfter layer values originalX mode hasState localLayer stream
            stream.rows.length).timeState head place column) := by
  have replayed := fun {entity : Nat} {stream : EntityStream}
      (found : streams[entity]? = some stream) {chunk : Nat}
      (present : chunk < finalChunkCount chunkReviews stream) =>
    chunk_replayed layer values originalX planned ready positive inside found present
  simp only [replayStateWrites, List.mem_flatMap]
  constructor
  · rintro ⟨chunkInfo, member, lane, laneMember, written⟩
    obtain ⟨entity, stream, found, chunk, present, same⟩ := (planned.chunks chunkInfo).mp member
    obtain ⟨head, place, isLane⟩ := lane_of_head (List.mem_range.mp laneMember)
    subst same isLane
    split at written
    · rename_i last
      have lastChunk : chunk + 1 = finalChunkCount chunkReviews stream := by
        simpa [plannedChunk] using last
      obtain ⟨column, columnMember, value⟩ := List.mem_map.mp written
      have columnInside := List.mem_range.mp columnMember
      have reached := (replayed found present head place).1 ⟨column, columnInside⟩
      rw [last_chunk_end positive lastChunk] at reached
      have begins := (chunk_present positive chunk).mp present
      refine ⟨entity, stream, found, ?_, head, place, ⟨column, columnInside⟩, ?_⟩
      · intro empty
        rw [empty, List.length_nil] at begins
        omega
      · rw [← value, ← reached]
        simp only [plannedChunk, Nat.add_assoc]
    · cases written
  · rintro ⟨entity, stream, found, nonempty, head, place, column, value⟩
    have some := List.length_pos_iff.mpr nonempty
    have one : 0 < finalChunkCount chunkReviews stream := by
      rw [chunk_present positive]
      omega
    have lastChunk : finalChunkCount chunkReviews stream - 1 + 1 =
        finalChunkCount chunkReviews stream := by omega
    have present : finalChunkCount chunkReviews stream - 1 < finalChunkCount chunkReviews stream :=
      by omega
    have reached := (replayed found present head place).1 column
    rw [last_chunk_end positive lastChunk] at reached
    refine ⟨_, (planned.chunks _).mpr
      ⟨entity, stream, found, finalChunkCount chunkReviews stream - 1, present, rfl⟩,
      headRow head place, List.mem_range.mpr (head_row_bound head place), ?_⟩
    rw [if_pos (by simpa [plannedChunk] using lastChunk)]
    refine List.mem_map.mpr ⟨column, List.mem_range.mpr column.isLt, ?_⟩
    rw [value, ← reached]
    simp only [plannedChunk, Nat.add_assoc]

end Batch

section Result

variable {X R : Type*} [CommRing R] (kind : ModuleKind)

theorem key_rows_initial (ids : List ReviewIds) (count : Nat) (key : Option Int64) :
    keyRows kind (ids.take count) key <+: keyRows kind ids key := by
  have whole : ids = ids.take count ++ ids.drop count := (List.take_append_drop count ids).symm
  generalize ids.take count = first at *
  generalize ids.drop count = rest at *
  subst whole
  induction rest using List.reverseRecOn with
  | nil => rw [List.append_nil]
  | append_singleton rest added ih =>
      rw [← List.append_assoc, key_rows_append]
      exact ih.trans (List.prefix_append _ _)

theorem key_rows_nodup (ids : List ReviewIds) (key : Option Int64) : (keyRows kind ids key).Nodup :=
  List.nodup_range.filter _

/-- Where a review stands among the reviews of its key, and what is before it. -/
theorem key_rows_position {ids : List ReviewIds} {review : Nat} {id : ReviewIds}
    (found : ids[review]? = some id) :
    (keyRows kind ids (kind.key id))[(keyRows kind (ids.take review) (kind.key id)).length]? =
        some review ∧
      (keyRows kind ids (kind.key id)).take
          (keyRows kind (ids.take review) (kind.key id)).length =
        keyRows kind (ids.take review) (kind.key id) := by
  obtain ⟨below, here⟩ := List.getElem?_eq_some_iff.mp found
  have next : keyRows kind (ids.take (review + 1)) (kind.key id) =
      keyRows kind (ids.take review) (kind.key id) ++ [review] := by
    rw [List.take_succ_eq_append_getElem below, here, key_rows_append, if_pos rfl,
      List.length_take, Nat.min_eq_left below.le]
  obtain ⟨later, whole⟩ := key_rows_initial kind ids (review + 1) (kind.key id)
  rw [next] at whole
  constructor
  · rw [← whole, List.append_assoc, List.getElem?_append_right (Nat.le_refl _), Nat.sub_self]
    rfl
  · rw [← whole, List.append_assoc, List.take_left]

theorem key_rows_review {ids : List ReviewIds} {key : Option Int64} {position review : Nat}
    (placed : (keyRows kind ids key)[position]? = some review) :
    ∃ id, ids[review]? = some id ∧ kind.key id = key := by
  have member := List.mem_of_getElem? placed
  rw [keyRows, List.mem_filter] at member
  obtain ⟨below, same⟩ := member
  rw [List.getElem?_eq_getElem (List.mem_range.mp below)] at same
  exact ⟨_, List.getElem?_eq_getElem (List.mem_range.mp below), by simpa using same⟩

theorem keys_separate {streams : List EntityStream}
    (distinct : (streams.map EntityStream.key).Nodup) {entity otherEntity : Nat}
    {stream otherStream : EntityStream} (found : streams[entity]? = some stream)
    (otherFound : streams[otherEntity]? = some otherStream)
    (same : stream.key = otherStream.key) : entity = otherEntity := by
  have here : (streams.map EntityStream.key)[entity]? = some stream.key := by simp [found]
  have there : (streams.map EntityStream.key)[otherEntity]? = some stream.key := by
    simp [otherFound, same]
  obtain ⟨below, value⟩ := List.getElem?_eq_some_iff.mp here
  obtain ⟨otherBelow, otherValue⟩ := List.getElem?_eq_some_iff.mp there
  exact (distinct.getElem_inj_iff).mp (value.trans otherValue.symm)

variable (layer : LayerFunctions X R) {layers localLayer : Nat}
  (mode : GpuProcessScanMode) {chunkReviews : Nat} (hasState : Option Int64 → Bool)
  (values : Option Int64 → Nat → R) (originalX : Nat → X)

theorem ready_to_replay {streams : List EntityStream} {plan : ModulePlan}
    (planned : Planned mode chunkReviews hasState streams plan) (inside : localLayer < layers)
    (workgroup : TransformWorkgroup) (schedule : Schedule R) (buffers : LayerBuffers R) :
    let rows := prepareLayer layer layers localLayer (uploadedStates layers values plan.keys)
      (gather originalX plan.sequenceToOriginal) plan.rowMetadata schedule buffers.rows
    let last := scanTransforms workgroup schedule plan
      (if plan.transformMetadata.isEmpty then buffers.transforms
        else buildChunkTransforms workgroup schedule mode rows plan.transformMetadata
          buffers.transforms)
    ReplayReady layer values originalX mode chunkReviews hasState localLayer streams rows
      (last.1.value last.2) := by
  intro rows last
  constructor
  · intro entity stream found position review offset placed small
    exact planned_row_holds layer values originalX planned inside schedule buffers.rows found placed
      small
  · intro entity stream found chunk present
    have place := planned.transformPlaces entity stream found chunk present
    have some : plan.transformMetadata.isEmpty = false := by
      rw [List.isEmpty_eq_false_iff]
      intro none
      rw [none] at place
      cases place
    have scanned := scanned_transform workgroup schedule planned rows buffers.transforms found present
    simp only [last, some, Bool.false_eq_true, if_false]
    exact scanned

/-- The state of a key after its reviews among the first `count` of a batch. -/
def sequentialState (localLayer : Nat) (ids : List ReviewIds) (key : Option Int64) (count : Nat) :
    EntityState R :=
  processReviews layer mode originalX (storedState hasState values localLayer key)
    (keyRows kind (ids.take count) key)

variable (ids : List ReviewIds)

variable (localLayer) in
theorem state_after_sequential {stream : EntityStream}
    (grouped : stream.rows = keyRows kind ids stream.key) {position review : Nat}
    (placed : stream.rows[position]? = some review) :
    stateAfter layer values originalX mode hasState localLayer stream position =
      sequentialState kind layer mode hasState values originalX localLayer ids stream.key review := by
  rw [grouped] at placed
  obtain ⟨id, found, same⟩ := key_rows_review kind placed
  have here := key_rows_position kind found
  rw [same] at here
  obtain ⟨below, value⟩ := List.getElem?_eq_some_iff.mp placed
  obtain ⟨otherBelow, otherValue⟩ := List.getElem?_eq_some_iff.mp here.1
  have position : position = (keyRows kind (ids.take review) stream.key).length :=
    ((key_rows_nodup kind ids stream.key).getElem_inj_iff).mp (value.trans otherValue.symm)
  rw [stateAfter, sequentialState, grouped, position, here.2]

variable (localLayer) in
theorem state_after_batch {stream : EntityStream}
    (grouped : stream.rows = keyRows kind ids stream.key) :
    stateAfter layer values originalX mode hasState localLayer stream stream.rows.length =
      sequentialState kind layer mode hasState values originalX localLayer ids stream.key
        ids.length := by
  rw [stateAfter, sequentialState, List.take_length, List.take_length, grouped]

variable (chunkReviews) in
/-- Every original row has exactly one place in the sequence. -/
theorem sequence_place (review : Nat) (id : ReviewIds) (found : ids[review]? = some id)
    (offset : Nat) (small : offset < mode.rowsPerReview) :
    ∃ entity stream position, (groupStreams kind ids)[entity]? = some stream ∧
      stream.rows[position]? = some review ∧ stream.key = kind.key id ∧
      ∀ row, (ModulePlan.build mode chunkReviews hasState kind ids).sequenceToOriginal[row]? =
          some (review * mode.rowsPerReview + offset) ↔
        row = rowStart mode (groupStreams kind ids) entity + position * mode.rowsPerReview + offset := by
  have grouped := group_streams_grouped kind ids
  have planned : Planned mode chunkReviews hasState (groupStreams kind ids)
      (ModulePlan.build mode chunkReviews hasState kind ids) := build_planned (groupStreams kind ids)
  obtain ⟨stream, member, sameKey⟩ := (grouped.present (kind.key id)).mpr
    ⟨id, List.mem_of_getElem? found, rfl⟩
  obtain ⟨entity, streamFound⟩ := List.getElem?_of_mem member
  have placed := (key_rows_position kind found).1
  rw [← sameKey, ← grouped.rows stream member] at placed
  generalize (keyRows kind (ids.take review) stream.key).length = position at placed
  refine ⟨entity, stream, position, streamFound, placed, sameKey, ?_⟩
  intro row
  constructor
  · intro here
    obtain ⟨other, otherStream, otherFound, otherPosition, otherBelow, otherOffset, otherSmall, same⟩ :=
      planned.rowsCovered row (List.getElem?_eq_some_iff.mp here).1
    have otherPlaced := List.getElem?_eq_getElem otherBelow
    have otherRow := (planned.rows other otherStream otherFound otherPosition _ otherPlaced otherOffset
      otherSmall).1
    rw [← same, here] at otherRow
    have sum := Option.some.inj otherRow
    have reviews : review = otherStream.rows[otherPosition] := by
      have left := Nat.mul_add_div (Nat.zero_lt_of_lt small) review offset
      have right := Nat.mul_add_div (Nat.zero_lt_of_lt small) otherStream.rows[otherPosition] otherOffset
      rw [Nat.div_eq_of_lt small, Nat.mul_comm] at left
      rw [Nat.div_eq_of_lt otherSmall, Nat.mul_comm] at right
      rw [sum] at left
      omega
    rw [← reviews] at otherPlaced sum
    have offsets : offset = otherOffset := Nat.add_left_cancel sum
    rw [grouped.rows otherStream (List.mem_of_getElem? otherFound)] at otherPlaced
    obtain ⟨otherId, otherIdFound, otherKey⟩ := key_rows_review kind otherPlaced
    rw [found] at otherIdFound
    rw [← Option.some.inj otherIdFound] at otherKey
    have entities : entity = other := keys_separate grouped.distinct streamFound otherFound
      (sameKey.trans otherKey)
    subst entities
    rw [streamFound] at otherFound
    have streams := Option.some.inj otherFound
    rw [← streams, ← grouped.rows stream member] at otherPlaced
    obtain ⟨below, value⟩ := List.getElem?_eq_some_iff.mp placed
    obtain ⟨_, otherValue⟩ := List.getElem?_eq_some_iff.mp otherPlaced
    have distinctRows : stream.rows.Nodup := by
      rw [grouped.rows stream member]
      exact key_rows_nodup kind ids stream.key
    have positions : position = otherPosition :=
      (distinctRows.getElem_inj_iff).mp (value.trans otherValue.symm)
    rw [same, positions, offsets]
  · intro here
    rw [here]
    exact (planned.rows entity stream streamFound position review placed offset small).1

/-- The last process row of an entity leaves its shift. -/
theorem final_shift_written {streams : List EntityStream} {plan : ModulePlan}
    (planned : Planned mode chunkReviews hasState streams plan) {entity : Nat} {stream : EntityStream}
    (found : streams[entity]? = some stream) (nonempty : stream.rows ≠ [])
    (inside : localLayer < layers) (schedule : Schedule R) (buffer : Buffer R) (channel : Fin 128) :
    some (dispatch schedule (shiftStateWrites layer layers localLayer
        (gather originalX plan.sequenceToOriginal) plan.rowMetadata) buffer
          (stateLayerBase layers localLayer entity + channel)) =
      ((stateAfter layer values originalX mode hasState localLayer stream
        stream.rows.length).shift.map fun shift => shift channel) := by
  have length := List.length_pos_iff.mpr nonempty
  have lastBelow : stream.rows.length - 1 < stream.rows.length := by omega
  have count : stream.rows.length = stream.rows.length - 1 + 1 := by omega
  have lastPlaced := List.getElem?_eq_getElem lastBelow
  have reached : stateAfter layer values originalX mode hasState localLayer stream
      (stream.rows.length - 1 + 1) = processReview layer mode originalX
        (stateAfter layer values originalX mode hasState localLayer stream (stream.rows.length - 1))
        stream.rows[stream.rows.length - 1] :=
    state_after_succ layer values originalX lastPlaced
  rw [count, reached, processReview, Option.map_some]
  congr 1
  apply dispatch_agreed
  · intro write member same
    obtain ⟨⟨info, row⟩, infoMember, written⟩ := List.mem_flatMap.mp member
    have infoFound : plan.rowMetadata[row]? = some info := by
      simpa using List.mem_zipIdx_iff_getElem?.mp infoMember
    by_cases last : info.rowLastProcess = true
    · simp only [last, if_true] at written
      obtain ⟨place, _, value⟩ := List.mem_map.mp written
      have rowBelow : row < plan.sequenceToOriginal.length := by
        rw [← planned.metadata]
        exact (List.getElem?_eq_some_iff.mp infoFound).1
      obtain ⟨other, otherStream, otherFound, position, below, offset, small, rowIs⟩ :=
        planned.rowsCovered row rowBelow
      have placed := List.getElem?_eq_getElem below
      have metadata := (planned.rows other otherStream otherFound position _ placed offset small).2
      rw [← rowIs, infoFound] at metadata
      have infoIs := Option.some.inj metadata
      rw [← value] at same ⊢
      simp only [infoIs, plannedRow] at same last
      obtain ⟨entities, places⟩ := state_address_unique inside
        (channel_offset_small place) (channel_offset_small channel) same
      subst entities
      rw [found] at otherFound
      have streams := Option.some.inj otherFound
      subst streams
      have ends : offset = mode.processRowOffset ∧ position + 1 = stream.rows.length := by
        simpa using last
      have lastPosition : position = stream.rows.length - 1 := by omega
      have samePlace : place = channel := Fin.ext places
      subst lastPosition samePlace rowIs
      have gathered := gathered_row originalX planned found placed small
      dsimp only
      rw [gathered, ends.1]
      rfl
    · simp only [last, Bool.false_eq_true, if_false, List.not_mem_nil] at written
  · have metadata := (planned.rows entity stream found _ _ lastPlaced mode.processRowOffset
      (process_offset_small mode)).2
    have row := gathered_row originalX planned found lastPlaced (process_offset_small mode)
    refine ⟨(stateLayerBase layers localLayer entity + channel, layer.normalize
      (originalX (processRow mode stream.rows[stream.rows.length - 1])) channel), ?_, rfl⟩
    refine List.mem_flatMap.mpr ⟨(_, _), List.mem_zipIdx_iff_getElem?.mpr metadata, ?_⟩
    have last : (mode.processRowOffset == mode.processRowOffset &&
        stream.rows.length - 1 + 1 == stream.rows.length) = true := by
      simp [← count]
    simp only [last, if_true, row]
    exact List.mem_map.mpr ⟨channel, List.mem_finRange channel, rfl⟩

/-- The chunked scan of a batch against the recurrence, for one layer of one
module. Each original row has one place in the sequence and the output of the
recurrence there; each key of the batch has one entity, and the states written
for it are those after its reviews in input order. -/
theorem chunked_scan_recurrence (workgroup : TransformWorkgroup) (schedule : Schedule R)
    (positive : 0 < chunkReviews) (inside : localLayer < layers) (buffers : LayerBuffers R) :
    let plan := ModulePlan.build mode chunkReviews hasState kind ids
    let after := runTimeMixer workgroup schedule layer layers localLayer mode plan
      (uploadedStates layers values plan.keys) (gather originalX plan.sequenceToOriginal) buffers
    let stateOf := sequentialState kind layer mode hasState values originalX localLayer ids
    (∀ review id, ids[review]? = some id → ∀ offset, offset < mode.rowsPerReview →
      ∃ row, (∀ other, plan.sequenceToOriginal[other]? =
          some (review * mode.rowsPerReview + offset) ↔ other = row) ∧
        ∀ head place, after.timeOutputRows (row * channels + headRow head place) =
          rowOutput layer originalX (stateOf (kind.key id) review)
            (review * mode.rowsPerReview + offset) head place) ∧
    plan.keys.Nodup ∧ (∀ key, key ∈ plan.keys ↔ ∃ id ∈ ids, kind.key id = key) ∧
    ∀ entity key, plan.keys[entity]? = some key →
      stateAt layers localLayer after.nextRecurrentStates entity =
          (stateOf key ids.length).timeState ∧
        ∀ channel : Fin 128,
          some (after.nextRecurrentStates (stateLayerBase layers localLayer entity + channel)) =
            (stateOf key ids.length).shift.map fun shift => shift channel := by
  intro plan after stateOf
  have grouped := group_streams_grouped kind ids
  have planned : Planned mode chunkReviews hasState (groupStreams kind ids) plan :=
    build_planned (groupStreams kind ids)
  have ready := ready_to_replay layer mode hasState values originalX planned inside workgroup
    schedule buffers
  have outputs := output_writes layer values originalX planned ready positive inside
  have states := state_writes layer values originalX planned ready positive inside
  have rowsOf : ∀ (stream : EntityStream) (entity : Nat),
      (groupStreams kind ids)[entity]? = some stream →
      stream.rows = keyRows kind ids stream.key :=
    fun stream _ found => grouped.rows stream (List.mem_of_getElem? found)
  refine ⟨?_, ?_, ?_, ?_⟩
  · intro review id found offset small
    obtain ⟨entity, stream, position, streamFound, placed, sameKey, places⟩ :=
      sequence_place kind mode chunkReviews hasState ids review id found offset small
    refine ⟨_, places, ?_⟩
    intro head place
    have reached := state_after_sequential kind layer localLayer mode hasState values
      originalX ids (rowsOf stream entity streamFound) placed
    apply dispatch_agreed
    · intro write member same
      obtain ⟨other, otherStream, otherFound, otherPosition, original, otherPlaced, otherOffset,
        otherSmall, otherHead, otherPlace, value⟩ := (outputs write).mp member
      rw [value] at same ⊢
      obtain ⟨rows, heads, placesEq⟩ := row_address_unique same
      have here := (planned.rows other otherStream otherFound otherPosition original otherPlaced
        otherOffset otherSmall).1
      have there := (planned.rows entity stream streamFound position review placed offset small).1
      rw [rows, there] at here
      have originals := Option.some.inj here
      have otherReached := state_after_sequential kind layer localLayer mode hasState
        values originalX ids (rowsOf otherStream other otherFound) otherPlaced
      have reviews : original = review := by
        have left := Nat.mul_add_div (Nat.zero_lt_of_lt small) review offset
        have right := Nat.mul_add_div (Nat.zero_lt_of_lt small) original otherOffset
        rw [Nat.div_eq_of_lt small, Nat.mul_comm] at left
        rw [Nat.div_eq_of_lt otherSmall, Nat.mul_comm] at right
        rw [originals] at left
        omega
      have keys : otherStream.key = kind.key id := by
        rw [rowsOf otherStream other otherFound, reviews] at otherPlaced
        obtain ⟨otherId, otherIdFound, otherKey⟩ := key_rows_review kind otherPlaced
        rw [found] at otherIdFound
        rw [← otherKey, Option.some.inj otherIdFound]
      have offsets : otherOffset = offset := by
        rw [reviews] at originals
        exact (Nat.add_left_cancel originals).symm
      simp only [otherReached, keys, reviews, offsets, heads, placesEq]
      rfl
    · exact ⟨_, (outputs _).mpr ⟨entity, stream, streamFound, position, review, placed, offset, small,
        head, place, rfl⟩, rfl⟩
  · rw [planned.keys]
    exact grouped.distinct
  · intro key
    rw [planned.keys, ← grouped.present key, List.mem_map]
  · intro entity key found
    rw [planned.keys, List.getElem?_map, Option.map_eq_some_iff] at found
    obtain ⟨stream, streamFound, sameKey⟩ := found
    have reached := state_after_batch kind layer localLayer mode hasState values
      originalX ids (rowsOf stream entity streamFound)
    have nonempty : stream.rows ≠ [] := by
      obtain ⟨id, member, idKey⟩ := (grouped.present stream.key).mp
        ⟨stream, List.mem_of_getElem? streamFound, rfl⟩
      obtain ⟨review, idFound⟩ := List.getElem?_of_mem member
      have placed := (key_rows_position kind idFound).1
      rw [idKey, ← rowsOf stream entity streamFound] at placed
      exact List.ne_nil_of_mem (List.mem_of_getElem? placed)
    rw [← sameKey]
    constructor
    · funext head
      ext place column
      have value : stateAt layers localLayer after.nextRecurrentStates entity head place column =
          (stateAfter layer values originalX mode hasState localLayer stream
            stream.rows.length).timeState head place column := by
        rw [state_cell]
        apply dispatch_agreed
        · intro write member same
          obtain ⟨other, otherStream, otherFound, _, otherHead, otherPlace, otherColumn, value⟩ :=
            (states write).mp member
          rw [value] at same ⊢
          obtain ⟨entities, offsets⟩ := state_address_unique inside
            (time_offset_small otherHead otherPlace otherColumn)
            (time_offset_small head place column) same
          obtain ⟨heads, places, columns⟩ := time_offset_unique offsets
          rw [entities, streamFound] at otherFound
          rw [← Option.some.inj otherFound, heads, places, columns]
        · exact ⟨_, (states _).mpr
            ⟨entity, stream, streamFound, nonempty, head, place, column, rfl⟩, rfl⟩
      rw [value, reached]
    · intro channel
      have untouched : after.nextRecurrentStates (stateLayerBase layers localLayer entity + channel) =
          dispatch schedule (shiftStateWrites layer layers localLayer
            (gather originalX plan.sequenceToOriginal) plan.rowMetadata) buffers.nextRecurrentStates
            (stateLayerBase layers localLayer entity + channel) := by
        apply dispatch_untouched
        intro write member same
        obtain ⟨other, _, _, _, otherHead, otherPlace, otherColumn, value⟩ := (states write).mp member
        rw [value] at same
        have offsets := (state_address_unique inside
          (time_offset_small otherHead otherPlace otherColumn)
          (channel_offset_small channel) same).2
        simp only [timeStateOffset] at offsets
        omega
      rw [untouched, final_shift_written layer mode hasState values originalX planned streamFound
        nonempty inside schedule buffers.nextRecurrentStates channel, reached]

end Result

def sampleLayer : LayerFunctions Int Int where
  normalize x channel := x + channel.val
  project x shift :=
    { r := fun channel => x + channel
      k := fun channel => shift 0 - channel
      v := fun _ => x
      w := fun _ => 2
      kDeformed := fun channel => shift 1 + channel }

def sampleIds : List ReviewIds := [(1, 10, 100, 7), (2, 20, 100, 7), (1, 10, 100, 7)]

def sampleBuffers : LayerBuffers Int where
  rows := ⟨fun _ => 0, fun _ => 0, fun _ => 0, fun _ => 0, fun _ => 0⟩
  transforms := ⟨fun _ => 0, fun _ => 0⟩
  timeOutputRows := fun _ => 0
  nextRecurrentStates := fun _ => 0

/-- Two reviews of one card in chunks of one review, with four lanes a row. -/
theorem chunked_scan_three_reviews :
    let plan := ModulePlan.build .predictions 1 (fun _ => false) .card sampleIds
    let after := runTimeMixer ⟨512, by decide⟩ ⟨id, fun writes => List.Perm.refl writes⟩ sampleLayer 3
      1 .predictions plan (uploadedStates 3 (fun _ _ => 0) plan.keys)
      (gather (fun row => row) plan.sequenceToOriginal) sampleBuffers
    ∃ row, plan.sequenceToOriginal[row]? = some 5 ∧
      after.timeOutputRows (row * channels + headRow 2 3) =
        rowOutput sampleLayer (fun row => row) (sequentialState .card sampleLayer .predictions
          (fun _ => false) (fun _ _ => 0) (fun row => row) 1 sampleIds (some 1) 2) 5 2 3 := by
  intro plan after
  have replayed := chunked_scan_recurrence .card
    sampleLayer .predictions (fun _ => false) (fun _ _ => 0) (fun row => row) sampleIds
    ⟨512, by decide⟩ ⟨id, fun writes => List.Perm.refl writes⟩ (show 0 < 1 by decide)
    (show 1 < 3 by decide) sampleBuffers
  obtain ⟨row, places, output⟩ := replayed.1 2 (1, 10, 100, 7) rfl 1 (by decide)
  exact ⟨row, (places row).mpr rfl, output 2 3⟩

end RwkvSrs.GpuScanReplay
