import RwkvSrs.GpuScanTransforms

/-!
The recurrence a batch has to compute, review by review: for each key the
reviews of that key run in input order, every row is projected from its own
content and the row processed before it, and the time state moves by decay,
removal along the deformed key and the new key and value. The prepared rows
and the chunk prefixes of the GPU scan are compared with it here.
-/

namespace RwkvSrs.GpuScanRecurrence

set_option autoImplicit false
set_option linter.unusedSectionVars false

open ComputeDispatch GpuScanPlan GpuScanKernels GpuScanTopology GpuScanTransforms AffineScan

abbrev TimeState (R : Type*) := Fin 4 → Matrix (Fin 32) (Fin 32) R

structure EntityState (R : Type*) where
  shift : Option (Fin 128 → R)
  timeState : TimeState R

section Recurrence

variable {X R : Type*} [CommRing R]

/-- The part of a vector of channels that belongs to a head. -/
def headVector (values : Nat → R) (head : Fin 4) (place : Fin 32) : R := values (headRow head place)

/-- The recurrence: the new state of one head from its old state. -/
def recurrence (projections : Projections R) (head : Fin 4) (state : Matrix (Fin 32) (Fin 32) R) :
    Matrix (Fin 32) (Fin 32) R :=
  state * Matrix.diagonal (headVector projections.w head) -
    Matrix.vecMulVec (state.mulVec (headVector projections.kDeformed head))
      (headVector projections.k head) +
    Matrix.vecMulVec (headVector projections.v head) (headVector projections.k head)

def timeOutput (projections : Projections R) (head : Fin 4) (next : Matrix (Fin 32) (Fin 32) R)
    (place : Fin 32) : R :=
  ∑ column : Fin 32, next place column * headVector projections.r head column

variable (layer : LayerFunctions X R) (mode : GpuProcessScanMode) (originalX : Nat → X)

/-- What a row is projected to when its entity is in the given state. -/
def rowProjections (state : EntityState R) (row : Nat) : Projections R :=
  layer.project (originalX row) (state.shift.getD (layer.normalize (originalX row)))

def processRow (review : Nat) : Nat := review * mode.rowsPerReview + mode.processRowOffset

def processReview (state : EntityState R) (review : Nat) : EntityState R where
  shift := some (layer.normalize (originalX (processRow mode review)))
  timeState head := recurrence (rowProjections layer originalX state (processRow mode review)) head
    (state.timeState head)

def processReviews (state : EntityState R) (reviews : List Nat) : EntityState R :=
  reviews.foldl (processReview layer mode originalX) state

/-- The output of a row, which leaves the state of its entity alone. -/
def rowOutput (state : EntityState R) (row : Nat) (head : Fin 4) (place : Fin 32) : R :=
  let projections := rowProjections layer originalX state row
  timeOutput projections head (recurrence projections head (state.timeState head)) place

/-- The state of a key before the batch, as it is stored for one layer. -/
def storedState (hasState : Option Int64 → Bool) (values : Option Int64 → Nat → R)
    (localLayer : Nat) (key : Option Int64) : EntityState R where
  shift :=
    if hasState key then
      some fun channel => values key (localLayer * stateLayerStride + channel)
    else none
  timeState head := Matrix.of fun place column =>
    values key (localLayer * stateLayerStride + timeStateOffset + headRow head place * headSize +
      column)

/-- The affine map of a row's projections. -/
def projectionTransform (projections : Projections R) (head : Fin 4) : HeadTransform R where
  mul := Matrix.diagonal (headVector projections.w head) -
    Matrix.vecMulVec (headVector projections.kDeformed head) (headVector projections.k head)
  add := Matrix.vecMulVec (headVector projections.v head) (headVector projections.k head)

theorem projection_transform_apply (projections : Projections R) (head : Fin 4)
    (state : Matrix (Fin 32) (Fin 32) R) :
    (projectionTransform projections head).apply state = recurrence projections head state := by
  ext place column
  rw [AffineTransform.apply, projectionTransform, recurrence, Matrix.add_apply, Matrix.add_apply,
    AffineTransform.mul_decay, Matrix.sub_apply, Matrix.mul_diagonal]
  rfl

end Recurrence

section States

variable {R : Type*}

def stateAt (layers localLayer : Nat) (buffer : Buffer R) (entity : Nat) : TimeState R :=
  fun head => Matrix.of fun place column =>
    buffer (stateLayerBase layers localLayer entity + timeStateOffset +
      headRow head place * headSize + column)

theorem uploaded_value (layers localLayer : Nat) (inside : localLayer < layers)
    (values : Option Int64 → Nat → R) (keys : List (Option Int64)) (entity : Nat)
    (key : Option Int64) (found : keys[entity]? = some key) (offset : Nat)
    (small : offset < stateLayerStride) :
    uploadedStates layers values keys (stateLayerBase layers localLayer entity + offset) =
      values key (localLayer * stateLayerStride + offset) := by
  have stride : localLayer * stateLayerStride + offset < layers * stateLayerStride := by
    calc localLayer * stateLayerStride + offset
        < localLayer * stateLayerStride + stateLayerStride := by omega
      _ = (localLayer + 1) * stateLayerStride := by ring
      _ ≤ layers * stateLayerStride := Nat.mul_le_mul_right _ inside
  have address : stateLayerBase layers localLayer entity + offset =
      localLayer * stateLayerStride + offset + entity * (layers * stateLayerStride) := by
    rw [stateLayerBase]
    ring
  have positive : 0 < layers * stateLayerStride := by omega
  rw [uploadedStates, address, Nat.add_mul_div_right _ _ positive, Nat.div_eq_of_lt stride,
    Nat.add_mul_mod_self_right, Nat.mod_eq_of_lt stride, Nat.zero_add, List.getD_eq_getElem?_getD,
    found, Option.getD_some]

theorem uploaded_state [CommRing R] (layers localLayer : Nat) (inside : localLayer < layers)
    (hasState : Option Int64 → Bool) (values : Option Int64 → Nat → R)
    (keys : List (Option Int64)) (entity : Nat) (key : Option Int64)
    (found : keys[entity]? = some key) :
    stateAt layers localLayer (uploadedStates layers values keys) entity =
      (storedState hasState values localLayer key).timeState := by
  funext head
  ext place column
  have small : timeStateOffset + headRow head place * headSize + column < stateLayerStride := by
    have row := head_row_bound head place
    simp only [timeStateOffset, headSize, stateLayerStride, channels] at *
    omega
  have value := uploaded_value layers localLayer inside values keys entity key found _ small
  simp only [stateAt, storedState, Matrix.of_apply, Nat.add_assoc] at value ⊢
  exact value

end States

section Prepared

variable {X R : Type*} [CommRing R] (layer : LayerFunctions X R) (layers localLayer : Nat)
  (recurrentStates : Buffer R) (sequenceX : Nat → X) (rowMetadata : List RowMeta)

theorem prepared_vector (schedule : Schedule R) (vector : Projections R → Nat → R)
    (buffer : Buffer R) (row : Nat) (info : RowMeta) (found : rowMetadata[row]? = some info)
    (channel : Nat) (inside : channel < channels) :
    dispatch schedule
        (prepareWrites layer layers localLayer recurrentStates sequenceX rowMetadata vector) buffer
        (row * channels + channel) =
      vector (layer.project (sequenceX row)
        (loadShiftedNorm layer layers localLayer recurrentStates sequenceX row info)) channel := by
  have here : prepareRow layer layers localLayer recurrentStates sequenceX rowMetadata row =
      some (layer.project (sequenceX row)
        (loadShiftedNorm layer layers localLayer recurrentStates sequenceX row info)) := by
    rw [prepareRow, found, Option.map_some]
  have below := (List.getElem?_eq_some_iff.mp found).1
  apply dispatch_agreed
  · intro write member same
    rw [prepareWrites, List.mem_flatMap] at member
    obtain ⟨other, _, inRow⟩ := member
    split at inRow
    · rename_i projections prepared
      obtain ⟨place, placeInside, written⟩ := List.mem_map.mp inRow
      have placeBound := List.mem_range.mp placeInside
      rw [← written] at same ⊢
      have sameRow : other = row := by
        simp only [channels] at *
        omega
      have sameChannel : place = channel := by
        simp only [channels] at *
        omega
      rw [sameRow, here] at prepared
      rw [sameChannel, Option.some.inj prepared]
    · cases inRow
  · refine ⟨(row * channels + channel, vector (layer.project (sequenceX row)
      (loadShiftedNorm layer layers localLayer recurrentStates sequenceX row info)) channel), ?_, rfl⟩
    rw [prepareWrites, List.mem_flatMap]
    refine ⟨row, List.mem_range.mpr below, ?_⟩
    rw [here]
    exact List.mem_map.mpr ⟨channel, List.mem_range.mpr inside, rfl⟩

/-- The row buffers hold the projections of a row. -/
structure RowHolds (rows : RowBuffers R) (row : Nat) (projections : Projections R) : Prop where
  r : ∀ head place, rows.r (row * channels + headRow head place) = headVector projections.r head place
  k : ∀ head place, rows.k (row * channels + headRow head place) = headVector projections.k head place
  v : ∀ head place, rows.v (row * channels + headRow head place) = headVector projections.v head place
  w : ∀ head place, rows.w (row * channels + headRow head place) = headVector projections.w head place
  kDeformed : ∀ head place, rows.kDeformed (row * channels + headRow head place) =
    headVector projections.kDeformed head place

theorem prepared_row (schedule : Schedule R) (buffers : RowBuffers R) (row : Nat)
    (info : RowMeta) (found : rowMetadata[row]? = some info) :
    RowHolds
      (prepareLayer layer layers localLayer recurrentStates sequenceX rowMetadata schedule buffers)
      row (layer.project (sequenceX row)
        (loadShiftedNorm layer layers localLayer recurrentStates sequenceX row info)) := by
  constructor <;> intro head place <;>
    exact prepared_vector layer layers localLayer recurrentStates sequenceX rowMetadata schedule _ _
      row info found (headRow head place) (head_row_bound head place)

theorem sum_head (values : Nat → R) :
    ∑ place ∈ Finset.range headSize, values place = ∑ place : Fin 32, values place :=
  Finset.sum_range values

variable {rows : RowBuffers R} {row : Nat} {projections : Projections R}

theorem holds_transform (holds : RowHolds rows row projections) (head : Fin 4) :
    reviewTransform rows row head = projectionTransform projections head := by
  simp only [reviewTransform, projectionTransform, holds.w, holds.kDeformed, holds.k, holds.v]

theorem recurrence_apply (projections : Projections R) (head : Fin 4)
    (state : Matrix (Fin 32) (Fin 32) R) (place column : Fin 32) :
    recurrence projections head state place column =
      state place column * headVector projections.w head column -
        (∑ other : Fin 32, state place other * headVector projections.kDeformed head other) *
          headVector projections.k head column +
        headVector projections.v head place * headVector projections.k head column := by
  rw [recurrence, Matrix.add_apply, Matrix.sub_apply, Matrix.mul_diagonal]
  rfl

/-- A lane that holds a row of the state moves it by the recurrence. -/
theorem lane_next_recurrence (holds : RowHolds rows row projections) (head : Fin 4)
    (place : Fin 32) (lane : Nat → R) (state : Matrix (Fin 32) (Fin 32) R)
    (same : ∀ column : Fin 32, lane column = state place column) (column : Fin 32) :
    laneNext rows row (headRow head place) lane column =
      recurrence projections head state place column := by
  have index : ∀ other : Fin 32, row * channels + head * headSize + other =
      row * channels + headRow head other := by
    intro other
    rw [headRow, Nat.add_assoc]
  rw [recurrence_apply, laneNext]
  simp only [head_row_head, sum_head, index, same, holds.w, holds.kDeformed, holds.k, holds.v]

theorem lane_output_recurrence (holds : RowHolds rows row projections) (head : Fin 4)
    (place : Fin 32) (lane : Nat → R) (state : Matrix (Fin 32) (Fin 32) R)
    (same : ∀ column : Fin 32, lane column = state place column) :
    laneOutput rows row (headRow head place) lane =
      timeOutput projections head (recurrence projections head state) place := by
  have index : ∀ other : Fin 32, row * channels + head * headSize + other =
      row * channels + headRow head other := by
    intro other
    rw [headRow, Nat.add_assoc]
  rw [laneOutput, timeOutput]
  simp only [head_row_head, sum_head, index, holds.r,
    lane_next_recurrence holds head place lane state same]

end Prepared

end RwkvSrs.GpuScanRecurrence
