import RwkvSrs.ModuleState
import RwkvSrs.StrideBlocks

/-!
Several working states held as one batch: in every layer the values of the
states follow each other. A batch is made of native states of one layout, a row
of it is read back as a state, and selected rows are kept either in new vectors
or by moving them to the front of the old ones.
-/

namespace RwkvSrs.BulkStateBatch

open RwkvSrs.FallibleMethod RwkvSrs.ResultSteps RwkvSrs.ModuleState RwkvSrs.StrideBlocks

set_option autoImplicit false

variable {V : Type}

abbrev TimeLayers (V : Type) := List (TimeMixerFlatLayerState V)

abbrev ChannelLayers (V : Type) := List (ChannelMixerFlatLayerState V)

def flatBatch (timeStateByLayer : TimeLayers V) (channelStateByLayer : ChannelLayers V) :
    BulkWorkingModuleState V := ⟨timeStateByLayer, none, some channelStateByLayer⟩

def missingLayer (mixer : String) (stateIndex layerIndex : Nat) : String :=
  s!"deck persistent frontier state {stateIndex} is missing {mixer} layer {layerIndex}"

/-- The layers of all states at one index, which must have the shape of the first state's. -/
def gatherLayers {State Layer : Type} (mixer : String) (layers : State → Except String (List Layer))
    (fits : Layer → Bool) (layerIndex : Nat) (states : List State) :
    Except String (List Layer) :=
  states.zipIdx.mapM fun (state, stateIndex) => do
    match (← layers state)[layerIndex]? with
    | none => .error (missingLayer mixer stateIndex layerIndex)
    | some layer =>
        if fits layer then return layer
        else .error s!"deck persistent frontier {mixer} layer {layerIndex} shape mismatch"

def channelLayersOf (state : BulkWorkingModuleState V) : Except String (ChannelLayers V) :=
  match state.channelFlatStateByLayer with
  | some layers => .ok layers
  | none => .error "deck persistent frontier initial state is missing flat ChannelMixer state"

def sameTimeShape (first layer : TimeMixerFlatLayerState V) : Bool :=
  layer.channels = first.channels ∧ layer.heads = first.heads ∧ layer.headSize = first.headSize

def batchTimeLayer (first : TimeMixerFlatLayerState V) (layers : TimeLayers V) :
    TimeMixerFlatLayerState V :=
  ⟨layers.flatMap (·.xShiftValues), layers.flatMap (·.stateValues), first.channels, first.heads,
    first.headSize⟩

def batchChannelLayer (first : ChannelMixerFlatLayerState V) (layers : ChannelLayers V) :
    ChannelMixerFlatLayerState V :=
  ⟨layers.flatMap (·.stateValues), first.channels⟩

def batchedFlatWorkingModuleStateFromNative (states : List (NativeRnnModuleState V)) :
    Except String (BulkWorkingModuleState V) := do
  match states with
  | [] => .error "deck persistent frontier state batch is empty"
  | first :: _ =>
      let layerCount := first.timeXShiftB1cByLayer.length
      if first.timeStateB1hkkByLayer.length ≠ layerCount ∨
          first.channelStateB1cByLayer.length ≠ layerCount then
        .error "deck persistent frontier initial state layer counts do not match"
      else do
        let flatStates ← states.mapM (flatWorkingModuleStateFromNative · true)
        match flatStates with
        | [] => .error "deck persistent frontier state batch is empty"
        | firstFlat :: _ => do
            let timeStateByLayer ← mapLayers (fun layerIndex firstLayer => do
              let layers ← gatherLayers "TimeMixer" (fun state => .ok state.timeStateByLayer)
                (sameTimeShape firstLayer) layerIndex flatStates
              return batchTimeLayer firstLayer layers) 0 firstFlat.timeStateByLayer
            let channelStateByLayer ← mapLayers (fun layerIndex firstLayer => do
              let layers ← gatherLayers "ChannelMixer" channelLayersOf
                (fun layer => layer.channels = firstLayer.channels) layerIndex flatStates
              return batchChannelLayer firstLayer layers) 0 (← channelLayersOf firstFlat)
            return flatBatch timeStateByLayer channelStateByLayer

def stateStride (layer : TimeMixerFlatLayerState V) : Nat :=
  layer.heads * layer.headSize * layer.headSize

def timeLayerBatchRow (batchIndex batchSize layerIndex : Nat)
    (layer : TimeMixerFlatLayerState V) : Except String (TimeMixerFlatLayerState V) :=
  let expectedX := batchSize * layer.channels
  let expectedState := batchSize * stateStride layer
  if layer.xShiftValues.length ≠ expectedX then
    .error (s!"singleton batch TimeMixer layer {layerIndex} expected {expectedX} x-shift values, " ++
      s!"got {layer.xShiftValues.length}")
  else if layer.stateValues.length ≠ expectedState then
    .error (s!"singleton batch TimeMixer layer {layerIndex} expected {expectedState} recurrent " ++
      s!"values, got {layer.stateValues.length}")
  else .ok { layer with
    xShiftValues := slice layer.xShiftValues (batchIndex * layer.channels) layer.channels
    stateValues := slice layer.stateValues (batchIndex * stateStride layer) (stateStride layer) }

def channelLayerBatchRow (batchIndex batchSize layerIndex : Nat)
    (layer : ChannelMixerFlatLayerState V) : Except String (ChannelMixerFlatLayerState V) :=
  let expected := batchSize * layer.channels
  if layer.stateValues.length ≠ expected then
    .error (s!"singleton batch ChannelMixer layer {layerIndex} expected {expected} state values, " ++
      s!"got {layer.stateValues.length}")
  else .ok { layer with
    stateValues := slice layer.stateValues (batchIndex * layer.channels) layer.channels }

def flatWorkingModuleStateBatchRow (timeStateByLayer : TimeLayers V)
    (channelStateByLayer : ChannelLayers V) (batchIndex batchSize : Nat) :
    Except String (BulkWorkingModuleState V) := do
  let timeLayers ← mapLayers (timeLayerBatchRow batchIndex batchSize) 0 timeStateByLayer
  let channelLayers ← mapLayers (channelLayerBatchRow batchIndex batchSize) 0 channelStateByLayer
  return flatBatch timeLayers channelLayers

def selectedRowOutside (row batchSize : Nat) : String :=
  s!"deck persistent frontier selected row {row} is outside batch size {batchSize}"

/-- The slices of the selected rows in a new vector. -/
def copySelected (batchSize stride : Nat) (selectedRows : List Nat) (values : List V) :
    Except String (List V) := do
  let parts ← selectedRows.mapM fun row =>
    if row ≥ batchSize then .error (selectedRowOutside row batchSize)
    else .ok (slice values (row * stride) stride)
  return parts.flatten

def selectTimeLayer (batchSize : Nat) (selectedRows : List Nat) (layerIndex : Nat)
    (layer : TimeMixerFlatLayerState V) : Except String (TimeMixerFlatLayerState V) := do
  let expectedX := batchSize * layer.channels
  let expectedState := batchSize * stateStride layer
  if layer.xShiftValues.length ≠ expectedX ∨ layer.stateValues.length ≠ expectedState then
    .error (s!"deck persistent frontier TimeMixer layer {layerIndex} expected " ++
      s!"{expectedX}/{expectedState} values, got {layer.xShiftValues.length}/" ++
      s!"{layer.stateValues.length}")
  else do
    let xShiftValues ← copySelected batchSize layer.channels selectedRows layer.xShiftValues
    let stateValues ← copySelected batchSize (stateStride layer) selectedRows layer.stateValues
    return { layer with xShiftValues, stateValues }

def selectChannelLayer (batchSize : Nat) (selectedRows : List Nat) (layerIndex : Nat)
    (layer : ChannelMixerFlatLayerState V) : Except String (ChannelMixerFlatLayerState V) := do
  let expected := batchSize * layer.channels
  if layer.stateValues.length ≠ expected then
    .error (s!"deck persistent frontier ChannelMixer layer {layerIndex} expected {expected} " ++
      s!"values, got {layer.stateValues.length}")
  else do
    let stateValues ← copySelected batchSize layer.channels selectedRows layer.stateValues
    return { layer with stateValues }

def compactFlatStateValuesInPlace (values : List V) (batchSize stride : Nat)
    (selectedRows : List Nat) (layerKind : String) (layerIndex : Nat) (valueKind : String) :
    Except String (List V) :=
  let expected := batchSize * stride
  if values.length ≠ expected then
    .error (s!"deck persistent frontier {layerKind} layer {layerIndex} {valueKind} expected " ++
      s!"{expected} values, got {values.length}")
  else
    match selectedRows.find? (· ≥ batchSize) with
    | some row => .error (selectedRowOutside row batchSize)
    | none => .ok ((moveSelected stride values 0 selectedRows).take (selectedRows.length * stride))

def compactTimeLayer (batchSize : Nat) (selectedRows : List Nat) (layerIndex : Nat)
    (layer : TimeMixerFlatLayerState V) : Except String (TimeMixerFlatLayerState V) := do
  let xShiftValues ← compactFlatStateValuesInPlace layer.xShiftValues batchSize layer.channels
    selectedRows "TimeMixer" layerIndex "x-shift"
  let stateValues ← compactFlatStateValuesInPlace layer.stateValues batchSize (stateStride layer)
    selectedRows "TimeMixer" layerIndex "recurrent"
  return { layer with xShiftValues, stateValues }

def compactChannelLayer (batchSize : Nat) (selectedRows : List Nat) (layerIndex : Nat)
    (layer : ChannelMixerFlatLayerState V) : Except String (ChannelMixerFlatLayerState V) := do
  let stateValues ← compactFlatStateValuesInPlace layer.stateValues batchSize layer.channels
    selectedRows "ChannelMixer" layerIndex "state"
  return { layer with stateValues }

/-- Every row is inside the batch and lies after the previous one. -/
def selectedRowsAreFrontCompactable (batchSize : Nat) : Option Nat → List Nat → Bool
  | _, [] => true
  | previous, row :: rows =>
      if row ≥ batchSize ∨ previous.any (row ≤ ·) then false
      else selectedRowsAreFrontCompactable batchSize (some row) rows

def selectBatchedFlatWorkingStateRows (inPlaceStateCompaction : Bool)
    (timeStateByLayer : TimeLayers V) (channelStateByLayer : ChannelLayers V) (batchSize : Nat)
    (selectedRows : List Nat) : Except String (BulkWorkingModuleState V) :=
  if selectedRows = List.range batchSize then
    .ok (flatBatch timeStateByLayer channelStateByLayer)
  else if inPlaceStateCompaction ∧ selectedRowsAreFrontCompactable batchSize none selectedRows then do
    let timeLayers ← mapLayers (compactTimeLayer batchSize selectedRows) 0 timeStateByLayer
    let channelLayers ← mapLayers (compactChannelLayer batchSize selectedRows) 0 channelStateByLayer
    return flatBatch timeLayers channelLayers
  else do
    let timeLayers ← mapLayers (selectTimeLayer batchSize selectedRows) 0 timeStateByLayer
    let channelLayers ← mapLayers (selectChannelLayer batchSize selectedRows) 0 channelStateByLayer
    return flatBatch timeLayers channelLayers

/-- `narrow(0, index, 1)`. -/
def narrowFirst (index : Nat) (tensor : Tensor V) : Except String (Tensor V) :=
  match tensor.dims with
  | [] => .error "narrow invalid args dim for scalar"
  | first :: rest =>
      if index ≥ first then .error s!"narrow invalid args start + len > dim_len: {index}"
      else Tensor.fromVec (slice tensor.data (index * rest.prod) rest.prod) (1 :: rest)

def batchTimeTensors (batchSize layerIndex : Nat) (layer : TimeMixerFlatLayerState V) :
    Except String (Tensor V × Tensor V) := do
  let expectedX := batchSize * layer.channels
  if layer.xShiftValues.length ≠ expectedX then
    .error (s!"singleton state-view batch TimeMixer layer {layerIndex} expected {expectedX} " ++
      s!"x-shift values, got {layer.xShiftValues.length}")
  else do
    let expectedState := batchSize * stateStride layer
    if layer.stateValues.length ≠ expectedState then
      .error (s!"singleton state-view batch TimeMixer layer {layerIndex} expected " ++
        s!"{expectedState} recurrent values, got {layer.stateValues.length}")
    else return (← Tensor.fromVec layer.xShiftValues [batchSize, 1, layer.channels],
      ← Tensor.fromVec layer.stateValues [batchSize, 1, layer.heads, layer.headSize, layer.headSize])

def batchChannelTensor (batchSize layerIndex : Nat) (layer : ChannelMixerFlatLayerState V) :
    Except String (Tensor V) :=
  let expected := batchSize * layer.channels
  if layer.stateValues.length ≠ expected then
    .error (s!"singleton state-view batch ChannelMixer layer {layerIndex} expected {expected} " ++
      s!"state values, got {layer.stateValues.length}")
  else Tensor.fromVec layer.stateValues [batchSize, 1, layer.channels]

def nativeStateView (timeTensors : List (Tensor V × Tensor V)) (channelTensors : List (Tensor V))
    (batchIndex : Nat) : Except String (NativeRnnModuleState V) := do
  let xShifts ← timeTensors.mapM fun layer => narrowFirst batchIndex layer.1
  let recurrents ← timeTensors.mapM fun layer => narrowFirst batchIndex layer.2
  let channels ← channelTensors.mapM (narrowFirst batchIndex)
  return ⟨xShifts, recurrents, channels⟩

def nativeModuleStatesFromBatchedFlatWorking (timeStateByLayer : TimeLayers V)
    (channelStateByLayer : ChannelLayers V) (batchSize : Nat) :
    Except String (List (NativeRnnModuleState V)) := do
  let timeTensors ← mapLayers (batchTimeTensors batchSize) 0 timeStateByLayer
  let channelTensors ← mapLayers (batchChannelTensor batchSize) 0 channelStateByLayer
  (List.range batchSize).mapM (nativeStateView timeTensors channelTensors)

end RwkvSrs.BulkStateBatch
