import Mathlib.Data.List.FinRange
import RwkvSrs.ComputeDispatch
import RwkvSrs.GpuScanPlan

/-!
The time-mixing kernels of the GPU scan over exact arithmetic, with the flat
addresses of the shader. The projections of `prepare_layer` are a parameter: a
workgroup reads its own row and a shifted row and writes the five vectors the
recurrence needs. The transform kernels run with one, two, four or eight lanes
for each matrix row, and the lanes of a row add their parts by shuffles.
-/

namespace RwkvSrs.GpuScanKernels

set_option autoImplicit false

open ComputeDispatch GpuScanPlan

def channels : Nat := 128
def heads : Nat := 4
def headSize : Nat := 32
def stateLayerStride : Nat := 4352
def timeStateOffset : Nat := 128
def matrixValues : Nat := 4096
def transformValues : Nat := 8192

/-- The sizes `transform_workgroup_sizes` chooses from. -/
structure TransformWorkgroup where
  size : Nat
  supported : size = 128 ∨ size = 256 ∨ size = 512 ∨ size = 1024

def TransformWorkgroup.lanesPerRow (workgroup : TransformWorkgroup) : Nat :=
  workgroup.size / channels

def TransformWorkgroup.columnsPerLane (workgroup : TransformWorkgroup) : Nat :=
  headSize / workgroup.lanesPerRow

/-- What `prepare_layer` computes for one row, channel by channel. -/
structure Projections (R : Type*) where
  r : Nat → R
  k : Nat → R
  v : Nat → R
  w : Nat → R
  kDeformed : Nat → R

structure LayerFunctions (X R : Type*) where
  normalize : X → Fin 128 → R
  project : X → (Fin 128 → R) → Projections R

structure RowBuffers (R : Type*) where
  r : Buffer R
  k : Buffer R
  v : Buffer R
  w : Buffer R
  kDeformed : Buffer R

structure TransformBuffers (R : Type*) where
  a : Buffer R
  b : Buffer R

def TransformBuffers.value {R : Type*} (buffers : TransformBuffers R) (sourceB : Bool)
    (index : Nat) : R :=
  if sourceB then buffers.b index else buffers.a index

def stateLayerBase (layers localLayer entity : Nat) : Nat :=
  entity * layers * stateLayerStride + localLayer * stateLayerStride

def mulIndex (chunk matrixRow column : Nat) : Nat :=
  chunk * transformValues + matrixRow * headSize + column

def addIndex (chunk matrixRow column : Nat) : Nat :=
  chunk * transformValues + matrixValues + matrixRow * headSize + column

section Prepare

variable {X R : Type*}

def loadShiftedNorm (layer : LayerFunctions X R) (layers localLayer : Nat)
    (recurrentStates : Buffer R) (sequenceX : Nat → X) (row : Nat) (info : RowMeta) :
    Fin 128 → R :=
  match info.previousProcessRow with
  | some previous => layer.normalize (sequenceX previous)
  | none =>
      if info.rowHasState then
        fun channel => recurrentStates (stateLayerBase layers localLayer info.entity + channel)
      else layer.normalize (sequenceX row)

variable (layer : LayerFunctions X R) (layers localLayer : Nat) (recurrentStates : Buffer R)
  (sequenceX : Nat → X) (rowMetadata : List RowMeta)

def prepareRow (row : Nat) : Option (Projections R) :=
  rowMetadata[row]?.map fun info =>
    layer.project (sequenceX row)
      (loadShiftedNorm layer layers localLayer recurrentStates sequenceX row info)

/-- Workgroup `row` writes channel `c` of its vectors at `row * CHANNELS + c`. -/
def prepareWrites (vector : Projections R → Nat → R) : List (Write R) :=
  (List.range rowMetadata.length).flatMap fun row =>
    match prepareRow layer layers localLayer recurrentStates sequenceX rowMetadata row with
    | some projections =>
        (List.range channels).map fun channel => (row * channels + channel, vector projections channel)
    | none => []

def shiftStateWrites : List (Write R) :=
  rowMetadata.zipIdx.flatMap fun (info, row) =>
    if info.rowLastProcess then
      (List.finRange 128).map fun (channel : Fin 128) =>
        (stateLayerBase layers localLayer info.entity + channel.val,
          layer.normalize (sequenceX row) channel)
    else []

def prepareLayer (schedule : Schedule R) (rows : RowBuffers R) : RowBuffers R where
  r := dispatch schedule
    (prepareWrites layer layers localLayer recurrentStates sequenceX rowMetadata (·.r)) rows.r
  k := dispatch schedule
    (prepareWrites layer layers localLayer recurrentStates sequenceX rowMetadata (·.k)) rows.k
  v := dispatch schedule
    (prepareWrites layer layers localLayer recurrentStates sequenceX rowMetadata (·.v)) rows.v
  w := dispatch schedule
    (prepareWrites layer layers localLayer recurrentStates sequenceX rowMetadata (·.w)) rows.w
  kDeformed := dispatch schedule
    (prepareWrites layer layers localLayer recurrentStates sequenceX rowMetadata (·.kDeformed))
    rows.kDeformed

end Prepare

section Transforms

variable {R : Type*} [CommRing R] (workgroup : TransformWorkgroup)

def matrixRow (lane : Nat) : Nat := lane / workgroup.lanesPerRow

def columnOf (lane localColumn : Nat) : Nat :=
  lane % workgroup.lanesPerRow + localColumn * workgroup.lanesPerRow

/-- The private arrays `mul` and `add` of every lane. -/
structure TransformRegisters (R : Type*) where
  mul : Nat → Nat → R
  add : Nat → Nat → R

def initialRegisters : TransformRegisters R where
  mul lane localColumn :=
    if matrixRow workgroup lane % headSize = columnOf workgroup lane localColumn then 1 else 0
  add _ _ := 0

def vectorOffset (inputRow lane : Nat) : Nat :=
  inputRow * channels + matrixRow workgroup lane / headSize * headSize

def deformation (rows : RowBuffers R) (inputRow : Nat) (values : Nat → Nat → R) : Nat → R :=
  laneSum workgroup.lanesPerRow fun lane =>
    ∑ localColumn ∈ Finset.range workgroup.columnsPerLane,
      values lane localColumn *
        rows.kDeformed (vectorOffset workgroup inputRow lane + columnOf workgroup lane localColumn)

def transformReview (rows : RowBuffers R) (inputRow : Nat) (registers : TransformRegisters R) :
    TransformRegisters R where
  mul lane localColumn :=
    let index := vectorOffset workgroup inputRow lane + columnOf workgroup lane localColumn
    registers.mul lane localColumn * rows.w index -
      deformation workgroup rows inputRow registers.mul lane * rows.k index
  add lane localColumn :=
    let index := vectorOffset workgroup inputRow lane + columnOf workgroup lane localColumn
    registers.add lane localColumn * rows.w index -
      deformation workgroup rows inputRow registers.add lane * rows.k index +
      rows.v (inputRow * channels + matrixRow workgroup lane) * rows.k index

/-- The process row of a review in `build_chunk_transforms` and
`build_chunk_transforms_state_only`. -/
def processInputRow (mode : GpuProcessScanMode) (startRow review : Nat) : Nat :=
  if mode = .stateOnly then startRow + review else startRow + review * 2 + 1

def chunkRegisters (mode : GpuProcessScanMode) (rows : RowBuffers R) (chunkInfo : TransformMeta) :
    TransformRegisters R :=
  (List.range chunkInfo.reviewCount).foldl
    (fun registers review =>
      transformReview workgroup rows (processInputRow mode chunkInfo.startRow review) registers)
    (initialRegisters workgroup)

/-- Both transform kernels store a multiplier and an addend for every column
of every lane of every workgroup. -/
def transformWrites (count : Nat) (mul add : Nat → Nat → Nat → R) : List (Write R) :=
  (List.range count).flatMap fun chunk =>
    (List.range workgroup.size).flatMap fun lane =>
      (List.range workgroup.columnsPerLane).flatMap fun localColumn =>
        [(mulIndex chunk (matrixRow workgroup lane) (columnOf workgroup lane localColumn),
            mul chunk lane localColumn),
          (addIndex chunk (matrixRow workgroup lane) (columnOf workgroup lane localColumn),
            add chunk lane localColumn)]

def noTransform : TransformMeta := ⟨0, 0, 0, 0⟩

def buildChunkTransforms (schedule : Schedule R) (mode : GpuProcessScanMode) (rows : RowBuffers R)
    (transformMetadata : List TransformMeta) (buffers : TransformBuffers R) : TransformBuffers R :=
  let registers := fun chunk =>
    chunkRegisters workgroup mode rows (transformMetadata.getD chunk noTransform)
  { buffers with
    a := dispatch schedule
      (transformWrites workgroup transformMetadata.length
        (fun chunk => (registers chunk).mul) (fun chunk => (registers chunk).add)) buffers.a }

section Scan

variable (source : Buffer R) (transformMetadata : List TransformMeta) (scanOffset : Nat)

def scannedMul (chunk lane localColumn : Nat) : R :=
  let row := matrixRow workgroup lane
  let column := columnOf workgroup lane localColumn
  if (transformMetadata.getD chunk noTransform).localIndex < scanOffset then
    source (mulIndex chunk row column)
  else
    ∑ inner ∈ Finset.range headSize,
      source (mulIndex (chunk - scanOffset) row inner) *
        source (mulIndex chunk (row / headSize * headSize + inner) column)

def scannedAdd (chunk lane localColumn : Nat) : R :=
  let row := matrixRow workgroup lane
  let column := columnOf workgroup lane localColumn
  if (transformMetadata.getD chunk noTransform).localIndex < scanOffset then
    source (addIndex chunk row column)
  else
    ∑ inner ∈ Finset.range headSize,
        source (addIndex (chunk - scanOffset) row inner) *
          source (mulIndex chunk (row / headSize * headSize + inner) column) +
      source (addIndex chunk (row / headSize * headSize + row % headSize) column)

def scanWrites : List (Write R) :=
  transformWrites workgroup transformMetadata.length
    (scannedMul workgroup source transformMetadata scanOffset)
    (scannedAdd workgroup source transformMetadata scanOffset)

end Scan

def scanChunkTransforms (schedule : Schedule R) (transformMetadata : List TransformMeta)
    (state : TransformBuffers R × Bool) (scanOffset : Nat) : TransformBuffers R × Bool :=
  let (buffers, sourceB) := state
  let writes := scanWrites workgroup (buffers.value sourceB) transformMetadata scanOffset
  if sourceB then ({ buffers with a := dispatch schedule writes buffers.a }, !sourceB)
  else ({ buffers with b := dispatch schedule writes buffers.b }, !sourceB)

/-- The loop of scan dispatches: while the offset is below the longest run,
swap the buffers and double it. -/
def scanTransforms (schedule : Schedule R) (plan : ModulePlan) (buffers : TransformBuffers R) :
    TransformBuffers R × Bool :=
  (AffineScan.doublings plan.maxTransformRun).foldl
    (scanChunkTransforms workgroup schedule plan.transformMetadata) (buffers, false)

end Transforms

section Replay

variable {R : Type*} [CommRing R]

/-- The next value of one column of a lane's matrix row. -/
def laneNext (rows : RowBuffers R) (inputRow lane : Nat) (state : Nat → R) (column : Nat) : R :=
  let vectorBase := inputRow * channels + lane / headSize * headSize
  let deformation := ∑ other ∈ Finset.range headSize, state other * rows.kDeformed (vectorBase + other)
  state column * rows.w (vectorBase + column) - deformation * rows.k (vectorBase + column) +
    rows.v (inputRow * channels + lane) * rows.k (vectorBase + column)

def laneOutput (rows : RowBuffers R) (inputRow lane : Nat) (state : Nat → R) : R :=
  let vectorBase := inputRow * channels + lane / headSize * headSize
  ∑ column ∈ Finset.range headSize,
    laneNext rows inputRow lane state column * rows.r (vectorBase + column)

/-- One review of a chunk: the outputs it stores and the state after it. The
state-only kernel has no query row. -/
def replayReview (mode : GpuProcessScanMode) (rows : RowBuffers R) (lane startRow : Nat)
    (progress : List (Write R) × (Nat → R)) (review : Nat) : List (Write R) × (Nat → R) :=
  let (outputs, state) := progress
  let processRow := processInputRow mode startRow review
  let queryRow := startRow + review * 2
  let query :=
    if mode = .stateOnly then []
    else [(queryRow * channels + lane, laneOutput rows queryRow lane state)]
  (outputs ++ query ++ [(processRow * channels + lane, laneOutput rows processRow lane state)],
    laneNext rows processRow lane state)

variable (transforms : Buffer R) (recurrentStates : Buffer R) (layers localLayer : Nat)

def chunkState (chunkInfo : FinalChunkMeta) (lane column : Nat) : R :=
  let stateBase := stateLayerBase layers localLayer chunkInfo.entity + timeStateOffset +
    lane * headSize
  match chunkInfo.prefixTransform with
  | none => recurrentStates (stateBase + column)
  | some transform =>
      transforms (addIndex transform lane column) +
        ∑ inner ∈ Finset.range headSize,
          recurrentStates (stateBase + inner) *
            transforms (mulIndex transform (lane / headSize * headSize + inner) column)

def replayLane (mode : GpuProcessScanMode) (rows : RowBuffers R) (chunkInfo : FinalChunkMeta)
    (lane : Nat) : List (Write R) × (Nat → R) :=
  (List.range chunkInfo.reviewCount).foldl
    (replayReview mode rows lane chunkInfo.startRow)
    ([], chunkState transforms recurrentStates layers localLayer chunkInfo lane)

def replayOutputWrites (mode : GpuProcessScanMode) (rows : RowBuffers R)
    (finalChunkMetadata : List FinalChunkMeta) : List (Write R) :=
  finalChunkMetadata.flatMap fun chunkInfo =>
    (List.range channels).flatMap fun lane =>
      (replayLane transforms recurrentStates layers localLayer mode rows chunkInfo lane).1

def replayStateWrites (mode : GpuProcessScanMode) (rows : RowBuffers R)
    (finalChunkMetadata : List FinalChunkMeta) : List (Write R) :=
  finalChunkMetadata.flatMap fun chunkInfo =>
    (List.range channels).flatMap fun lane =>
      if chunkInfo.chunkLast then
        (List.range headSize).map fun column =>
          (stateLayerBase layers localLayer chunkInfo.entity + timeStateOffset + lane * headSize +
              column,
            (replayLane transforms recurrentStates layers localLayer mode rows chunkInfo lane).2
              column)
      else []

end Replay

/-- The buffers a layer finds: what earlier dispatches left in them. -/
structure LayerBuffers (R : Type*) where
  rows : RowBuffers R
  transforms : TransformBuffers R
  timeOutputRows : Buffer R
  nextRecurrentStates : Buffer R

/-- The states of the batch's entities, laid out entity by entity. -/
def uploadedStates {R : Type*} (layers : Nat) (values : Option Int64 → Nat → R)
    (keys : List (Option Int64)) : Buffer R :=
  fun address =>
    values (keys.getD (address / (layers * stateLayerStride)) none)
      (address % (layers * stateLayerStride))

def gather {X : Type*} (originalX : Nat → X) (sequenceToOriginal : List Nat) (row : Nat) : X :=
  originalX (sequenceToOriginal.getD row 0)

/-- The dispatches of one layer up to and including the chunk replay. -/
def runTimeMixer {X R : Type*} [CommRing R] (workgroup : TransformWorkgroup)
    (schedule : Schedule R) (layer : LayerFunctions X R) (layers localLayer : Nat)
    (mode : GpuProcessScanMode) (plan : ModulePlan) (recurrentStates : Buffer R)
    (sequenceX : Nat → X) (buffers : LayerBuffers R) : LayerBuffers R :=
  let rows := prepareLayer layer layers localLayer recurrentStates sequenceX plan.rowMetadata
    schedule buffers.rows
  let shifted := dispatch schedule
    (shiftStateWrites layer layers localLayer sequenceX plan.rowMetadata)
    buffers.nextRecurrentStates
  let built :=
    if plan.transformMetadata.isEmpty then buffers.transforms
    else buildChunkTransforms workgroup schedule mode rows plan.transformMetadata
      buffers.transforms
  let (transforms, sourceB) := scanTransforms workgroup schedule plan built
  { rows
    transforms
    timeOutputRows := dispatch schedule
      (replayOutputWrites (transforms.value sourceB) recurrentStates layers localLayer mode rows
        plan.finalChunkMetadata) buffers.timeOutputRows
    nextRecurrentStates := dispatch schedule
      (replayStateWrites (transforms.value sourceB) recurrentStates layers localLayer mode rows
        plan.finalChunkMetadata) shifted }

end RwkvSrs.GpuScanKernels
