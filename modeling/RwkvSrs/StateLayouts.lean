import RwkvSrs.NativeRnnState
import RwkvSrs.StrideBlocks

/-!
One float buffer holds the layers of a module state one after the other, each as
its time shift, its head matrices and its channel state. The routines that write
and read this layout take the sizes of a layer as parameters here; the runtime's
own sizes are one instance. Appending a state and decoding it are inverse.
-/

namespace RwkvSrs.StateLayouts

open RwkvSrs.ModuleState RwkvSrs.NativeRnnState RwkvSrs.ResultSteps RwkvSrs.StrideBlocks

set_option autoImplicit false

variable {V : Type}

/-- A dimension is a usize, and the values of one layer fit one allocation. -/
structure LayerShape where
  channels : Nat
  heads : Nat
  headSize : Nat
  countable : heads < 2 ^ 64
  allocatable : 4 * (channels + heads * headSize * headSize + channels) < 2 ^ 63

namespace LayerShape

def matrixElements (shape : LayerShape) : Nat := shape.heads * shape.headSize * shape.headSize

def layerElements (shape : LayerShape) : Nat :=
  shape.channels + shape.matrixElements + shape.channels

def shiftDims (shape : LayerShape) : List Nat := [1, 1, shape.channels]

def matrixDims (shape : LayerShape) : List Nat :=
  [1, 1, shape.heads, shape.headSize, shape.headSize]

theorem shift_prod (shape : LayerShape) : shape.shiftDims.prod = shape.channels := by
  simp [shiftDims]

theorem matrix_prod (shape : LayerShape) : shape.matrixDims.prod = shape.matrixElements := by
  simp [matrixDims, matrixElements, Nat.mul_assoc]

end LayerShape

def nativeShape : LayerShape where
  channels := flatStateChannels
  heads := flatStateHeads
  headSize := flatStateHeadSize
  countable := by decide
  allocatable := by decide

/-- The tensors of one layer: time shift, head matrices, channel state. -/
abbrev LayerTensors (V : Type) := Tensor V × Tensor V × Tensor V

structure Shaped (shape : LayerShape) (layer : LayerTensors V) : Prop where
  shift : layer.1.dims = shape.shiftDims
  matrix : layer.2.1.dims = shape.matrixDims
  channel : layer.2.2.dims = shape.shiftDims

def ofLayers (layers : List (LayerTensors V)) : NativeRnnModuleState V where
  timeXShiftB1cByLayer := layers.map fun layer => layer.1
  timeStateB1hkkByLayer := layers.map fun layer => layer.2.1
  channelStateB1cByLayer := layers.map fun layer => layer.2.2

def toLayers (state : NativeRnnModuleState V) : List (LayerTensors V) :=
  state.timeXShiftB1cByLayer.zip
    (state.timeStateB1hkkByLayer.zip state.channelStateB1cByLayer)

/-- A state whose tensors have the shapes of every layer. -/
structure Consistent (shape : LayerShape) (layers : Nat) (state : NativeRnnModuleState V) :
    Prop where
  shifts : state.timeXShiftB1cByLayer.length = layers
  matrices : state.timeStateB1hkkByLayer.length = layers
  channels : state.channelStateB1cByLayer.length = layers
  shiftDims : ∀ tensor ∈ state.timeXShiftB1cByLayer, tensor.dims = shape.shiftDims
  matrixDims : ∀ tensor ∈ state.timeStateB1hkkByLayer, tensor.dims = shape.matrixDims
  channelDims : ∀ tensor ∈ state.channelStateB1cByLayer, tensor.dims = shape.shiftDims

def appendTensorValues (output : List V) (tensor : Tensor V) (expected : Nat) :
    Except String (List V) :=
  if tensor.dims.prod ≠ expected then .error "GPU scan state tensor shape mismatch"
  else .ok (output ++ tensor.data)

def appendLayer (shape : LayerShape) (output : List V) (layer : LayerTensors V) :
    Except String (List V) := do
  let output ← appendTensorValues output layer.1 shape.channels
  let output ← appendTensorValues output layer.2.1 shape.matrixElements
  appendTensorValues output layer.2.2 shape.channels

def appendModuleState [Zero V] (shape : LayerShape) (output : List V)
    (state : Option (NativeRnnModuleState V)) (layers : Nat) : Except String (List V) :=
  match state with
  | some state =>
      if state.timeXShiftB1cByLayer.length = layers ∧
          state.timeStateB1hkkByLayer.length = layers ∧
          state.channelStateB1cByLayer.length = layers then
        (toLayers state).foldlM (appendLayer shape) output
      else .error "GPU scan recurrent state layer count mismatch"
  | none => .ok (output ++ List.replicate (layers * shape.layerElements) 0)

def layerFromValues (shape : LayerShape) (values : List V) (layer : Nat) :
    Except String (LayerTensors V) := do
  let base := layer * shape.layerElements
  let shift ← Tensor.fromVec (slice values base shape.channels) shape.shiftDims
  let stateBase := base + shape.channels
  let matrix ← Tensor.fromVec (slice values stateBase shape.matrixElements) shape.matrixDims
  let channelBase := stateBase + shape.matrixElements
  let channel ← Tensor.fromVec (slice values channelBase shape.channels) shape.shiftDims
  return (shift, matrix, channel)

def layersFromValues (shape : LayerShape) (values : List V) (layers : Nat) :
    Except String (NativeRnnModuleState V) := do
  return ofLayers (← (List.range layers).mapM (layerFromValues shape values))

def moduleStateFromValues (shape : LayerShape) (values : List V) (layers : Nat) :
    Except String (NativeRnnModuleState V) :=
  if values.length ≠ layers * shape.layerElements then
    .error "GPU scan state layer stride mismatch"
  else layersFromValues shape values layers

/-- A slice of a shared buffer, of the given sizes. -/
structure FlatModuleState (shape : LayerShape) (V : Type) where
  values : List V
  offset : Nat
  layers : Nat
  inRange : offset + layers * shape.layerElements ≤ values.length

namespace FlatModuleState

variable {shape : LayerShape}

def fromSharedValues (shape : LayerShape) (values : List V) (entity layers : Nat) :
    Except String (FlatModuleState shape V) :=
  let entityValues := layers * shape.layerElements
  let offset := entity * entityValues
  if inRange : offset + entityValues ≤ values.length then .ok ⟨values, offset, layers, inRange⟩
  else
    .error (s!"flat recurrent-state entity {entity} ends at {offset + entityValues}, beyond " ++
      s!"{values.length} values")

def entityValues (state : FlatModuleState shape V) : List V :=
  slice state.values state.offset (state.layers * shape.layerElements)

def materialize (state : FlatModuleState shape V) : Except String (NativeRnnModuleState V) :=
  layersFromValues shape state.entityValues state.layers

end FlatModuleState

/-- `narrow(0, start, len)`. -/
def narrowFirst (tensor : Tensor V) (start len : Nat) : Except String (Tensor V) :=
  match tensor.dims with
  | [] => .error "dimension index 0 out of range for shape []"
  | rows :: rest =>
      if start + len ≤ rows then
        Tensor.fromVec (slice tensor.data (start * rest.prod) (len * rest.prod)) (len :: rest)
      else
        .error (s!"narrow invalid args start + len > dim_len: {tensor.dims}, dim: 0, " ++
          s!"start: {start}, len:{len}")

/-- One field of one layer of every entity, the entities one after the other. -/
def sharedField (shape : LayerShape) (values : List V) (layers entities offset count : Nat)
    (layer : Nat) : List V :=
  (List.range entities).flatMap fun entity =>
    slice values ((entity * layers + layer) * shape.layerElements + offset) count

/-- A batched tensor of one field for each layer. -/
def sharedBatch (shape : LayerShape) (values : List V) (layers entities offset count : Nat)
    (rowDims : List Nat) : Except String (List (Tensor V)) :=
  (List.range layers).mapM fun layer =>
    Tensor.fromVec (sharedField shape values layers entities offset count layer)
      (entities :: rowDims)

def moduleStatesFromSharedValues (shape : LayerShape) (values : List V) (layers entities : Nat) :
    Except String (List (NativeRnnModuleState V)) :=
  if values.length ≠ entities * layers * shape.layerElements then
    .error "shared CPU recurrent-state layout mismatch"
  else if entities = 0 then .ok []
  else do
    let shifts ← sharedBatch shape values layers entities 0 shape.channels [1, shape.channels]
    let matrices ← sharedBatch shape values layers entities shape.channels shape.matrixElements
      [1, shape.heads, shape.headSize, shape.headSize]
    let channels ← sharedBatch shape values layers entities (shape.channels + shape.matrixElements)
      shape.channels [1, shape.channels]
    (List.range entities).mapM fun entity => do
      let timeX ← shifts.mapM fun tensor => narrowFirst tensor entity 1
      let timeState ← matrices.mapM fun tensor => narrowFirst tensor entity 1
      let channel ← channels.mapM fun tensor => narrowFirst tensor entity 1
      return ⟨timeX, timeState, channel⟩

def layerValues (layer : LayerTensors V) : List V :=
  layer.1.data ++ (layer.2.1.data ++ layer.2.2.data)

/-- The values of a state in the order of the buffer. -/
def stateValues (state : NativeRnnModuleState V) : List V := (toLayers state).flatMap layerValues

variable {shape : LayerShape}

namespace Shaped

variable {layer : LayerTensors V}

theorem shift_length (shaped : Shaped shape layer) : layer.1.data.length = shape.channels := by
  rw [layer.1.sized, shaped.shift, shape.shift_prod]

theorem matrix_length (shaped : Shaped shape layer) :
    layer.2.1.data.length = shape.matrixElements := by
  rw [layer.2.1.sized, shaped.matrix, shape.matrix_prod]

theorem channel_length (shaped : Shaped shape layer) : layer.2.2.data.length = shape.channels := by
  rw [layer.2.2.sized, shaped.channel, shape.shift_prod]

theorem values_length (shaped : Shaped shape layer) :
    (layerValues layer).length = shape.layerElements := by
  rw [layerValues, List.length_append, List.length_append, shaped.shift_length,
    shaped.matrix_length, shaped.channel_length, LayerShape.layerElements, Nat.add_assoc]

theorem shift_slice (shaped : Shaped shape layer) :
    slice (layerValues layer) 0 shape.channels = layer.1.data := by
  rw [slice, List.drop_zero, layerValues, List.take_left' shaped.shift_length]

theorem matrix_slice (shaped : Shaped shape layer) :
    slice (layerValues layer) shape.channels shape.matrixElements = layer.2.1.data := by
  rw [slice, layerValues, List.drop_left' shaped.shift_length,
    List.take_left' shaped.matrix_length]

theorem channel_slice (shaped : Shaped shape layer) :
    slice (layerValues layer) (shape.channels + shape.matrixElements) shape.channels =
      layer.2.2.data := by
  rw [slice, layerValues, ← List.drop_drop, List.drop_left' shaped.shift_length,
    List.drop_left' shaped.matrix_length, ← shaped.channel_length, List.take_length]

end Shaped

theorem from_vec_tensor (tensor : Tensor V) :
    Tensor.fromVec tensor.data tensor.dims = .ok tensor := from_vec_ok tensor.sized

theorem to_layers_of_layers (layers : List (LayerTensors V)) : toLayers (ofLayers layers) = layers := by
  rw [toLayers, ofLayers]
  induction layers with
  | nil => rfl
  | cons layer layers ih => simpa using ih

theorem Consistent.of_layers {layers : List (LayerTensors V)}
    (shaped : ∀ layer ∈ layers, Shaped shape layer) :
    Consistent shape layers.length (ofLayers layers) where
  shifts := List.length_map _
  matrices := List.length_map _
  channels := List.length_map _
  shiftDims := by
    intro tensor member
    obtain ⟨layer, inside, rfl⟩ := List.mem_map.mp member
    exact (shaped layer inside).shift
  matrixDims := by
    intro tensor member
    obtain ⟨layer, inside, rfl⟩ := List.mem_map.mp member
    exact (shaped layer inside).matrix
  channelDims := by
    intro tensor member
    obtain ⟨layer, inside, rfl⟩ := List.mem_map.mp member
    exact (shaped layer inside).channel

theorem Consistent.to_layers {layers : Nat} {state : NativeRnnModuleState V}
    (consistent : Consistent shape layers state) :
    (toLayers state).length = layers ∧ (∀ layer ∈ toLayers state, Shaped shape layer) ∧
      ofLayers (toLayers state) = state := by
  obtain ⟨shifts, matrices, channels, shiftDims, matrixDims, channelDims⟩ := consistent
  have pairs : (state.timeStateB1hkkByLayer.zip state.channelStateB1cByLayer).length = layers := by
    rw [List.length_zip, matrices, channels, Nat.min_self]
  refine ⟨?_, ?_, ?_⟩
  · rw [toLayers, List.length_zip, shifts, pairs, Nat.min_self]
  · rintro ⟨shift, matrix, channel⟩ member
    have first := List.of_mem_zip member
    have second := List.of_mem_zip first.2
    exact ⟨shiftDims _ first.1, matrixDims _ second.1, channelDims _ second.2⟩
  · have firsts : (toLayers state).map Prod.fst = state.timeXShiftB1cByLayer :=
      List.map_fst_zip (by rw [shifts, pairs])
    have seconds : (toLayers state).map Prod.snd =
        state.timeStateB1hkkByLayer.zip state.channelStateB1cByLayer :=
      List.map_snd_zip (by rw [shifts, pairs])
    have same : ofLayers (toLayers state) =
        ⟨(toLayers state).map Prod.fst, ((toLayers state).map Prod.snd).map Prod.fst,
          ((toLayers state).map Prod.snd).map Prod.snd⟩ := by
      simp [ofLayers, List.map_map, Function.comp_def]
    rw [same, firsts, seconds, List.map_fst_zip (by rw [matrices, channels]),
      List.map_snd_zip (by rw [matrices, channels])]

theorem sized_layers {layers : List (LayerTensors V)}
    (shaped : ∀ layer ∈ layers, Shaped shape layer) :
    Sized shape.layerElements (layers.map layerValues) := by
  intro block member
  obtain ⟨layer, inside, rfl⟩ := List.mem_map.mp member
  exact (shaped layer inside).values_length

theorem layers_length {layers : List (LayerTensors V)}
    (shaped : ∀ layer ∈ layers, Shaped shape layer) :
    (layers.flatMap layerValues).length = layers.length * shape.layerElements := by
  rw [List.flatMap_def, flatten_length (sized_layers shaped), List.length_map]

theorem layer_slice {layers : List (LayerTensors V)}
    (shaped : ∀ layer ∈ layers, Shaped shape layer) {i : Nat} (inside : i < layers.length)
    (start count : Nat) (fits : start + count ≤ shape.layerElements) :
    slice (layers.flatMap layerValues) (i * shape.layerElements + start) count =
      slice (layerValues layers[i]) start count := by
  rw [List.flatMap_def, slice_inside (sized_layers shaped) (by simpa using inside) fits,
    List.getElem_map]

/-- A buffer of whole layers holds the values of some layers. -/
theorem values_are_layers {values : List V} {count : Nat}
    (sized : values.length = count * shape.layerElements) :
    ∃ layers : List (LayerTensors V), layers.length = count ∧
      (∀ layer ∈ layers, Shaped shape layer) ∧ layers.flatMap layerValues = values := by
  induction count generalizing values with
  | zero =>
      rw [Nat.zero_mul] at sized
      exact ⟨[], rfl, by simp, (List.eq_nil_of_length_eq_zero sized).symm⟩
  | succ count ih =>
      rw [Nat.succ_mul] at sized
      obtain ⟨layers, lengths, shaped, written⟩ := @ih (values.drop shape.layerElements) (by
        rw [List.length_drop]
        omega)
      have elements : shape.layerElements =
        shape.channels + shape.matrixElements + shape.channels := rfl
      have shift : (slice values 0 shape.channels).length = shape.shiftDims.prod := by
        rw [shape.shift_prod, slice_length (by omega)]
      have matrix : (slice values shape.channels shape.matrixElements).length =
          shape.matrixDims.prod := by
        rw [shape.matrix_prod, slice_length (by omega)]
      have channel : (slice values (shape.channels + shape.matrixElements) shape.channels).length =
          shape.shiftDims.prod := by
        rw [shape.shift_prod, slice_length (by omega)]
      refine ⟨(⟨_, _, shift⟩, ⟨_, _, matrix⟩, ⟨_, _, channel⟩) :: layers, ?_, ?_, ?_⟩
      · rw [List.length_cons, lengths]
      · intro layer member
        rcases List.mem_cons.mp member with here | there
        · subst here
          exact ⟨rfl, rfl, rfl⟩
        · exact shaped layer there
      · rw [List.flatMap_cons, written]
        simp only [layerValues, slice, List.drop_zero]
        rw [← List.append_assoc (List.take shape.channels values), ← List.take_add,
          ← List.take_add, ← elements, List.take_append_drop]

theorem layer_from_values {layers : List (LayerTensors V)}
    (shaped : ∀ layer ∈ layers, Shaped shape layer) {i : Nat} (inside : i < layers.length) :
    layerFromValues shape (layers.flatMap layerValues) i = .ok layers[i] := by
  have layer := shaped layers[i] (List.getElem_mem inside)
  have elements : shape.layerElements =
    shape.channels + shape.matrixElements + shape.channels := rfl
  have shift := layer_slice shaped inside 0 shape.channels (by omega)
  have matrix := layer_slice shaped inside shape.channels shape.matrixElements (by omega)
  have channel := layer_slice shaped inside (shape.channels + shape.matrixElements)
    shape.channels (by omega)
  rw [layer.shift_slice] at shift
  rw [layer.matrix_slice] at matrix
  rw [layer.channel_slice] at channel
  rw [Nat.add_zero] at shift
  rw [← Nat.add_assoc] at channel
  unfold layerFromValues
  simp only [shift, matrix, channel]
  rw [← layer.shift, from_vec_tensor, ← layer.matrix, from_vec_tensor]
  rw [layer.shift, ← layer.channel, from_vec_tensor]
  rfl

theorem layers_from_values {layers : List (LayerTensors V)}
    (shaped : ∀ layer ∈ layers, Shaped shape layer) :
    layersFromValues shape (layers.flatMap layerValues) layers.length = .ok (ofLayers layers) := by
  rw [layersFromValues, mapM_range_ok fun i inside => layer_from_values shaped inside]
  rfl

theorem append_tensor_ok {tensor : Tensor V} {dims : List Nat} (same : tensor.dims = dims)
    (output : List V) :
    appendTensorValues output tensor dims.prod = .ok (output ++ tensor.data) := by
  rw [appendTensorValues, same, if_neg (by simp)]

theorem append_layer_ok {layer : LayerTensors V} (shaped : Shaped shape layer) (output : List V) :
    appendLayer shape output layer = .ok (output ++ layerValues layer) := by
  have shift := append_tensor_ok shaped.shift output
  have matrix := append_tensor_ok shaped.matrix (output ++ layer.1.data)
  have channel := append_tensor_ok shaped.channel (output ++ layer.1.data ++ layer.2.1.data)
  rw [shape.shift_prod] at shift channel
  rw [shape.matrix_prod] at matrix
  apply bind_ok.mpr
  refine ⟨_, shift, ?_⟩
  apply bind_ok.mpr
  refine ⟨_, matrix, ?_⟩
  rw [channel, layerValues, List.append_assoc, List.append_assoc]

theorem append_layers_ok {layers : List (LayerTensors V)}
    (shaped : ∀ layer ∈ layers, Shaped shape layer) (output : List V) :
    layers.foldlM (appendLayer shape) output = .ok (output ++ layers.flatMap layerValues) := by
  induction layers generalizing output with
  | nil =>
      rw [List.flatMap_nil, List.append_nil]
      rfl
  | cons layer layers ih =>
      rw [List.foldlM_cons, append_layer_ok (shaped layer (by simp))]
      change layers.foldlM (appendLayer shape) (output ++ layerValues layer) = _
      rw [ih fun other member => shaped other (List.mem_cons_of_mem _ member), List.flatMap_cons,
        List.append_assoc]

section States

variable {layers : Nat} {state : NativeRnnModuleState V}

theorem state_values_length (consistent : Consistent shape layers state) :
    (stateValues state).length = layers * shape.layerElements := by
  obtain ⟨count, shaped, _⟩ := consistent.to_layers
  rw [stateValues, layers_length shaped, count]

theorem append_state_ok [Zero V] (consistent : Consistent shape layers state) (output : List V) :
    appendModuleState shape output (some state) layers = .ok (output ++ stateValues state) := by
  obtain ⟨_, shaped, _⟩ := consistent.to_layers
  rw [appendModuleState, if_pos ⟨consistent.shifts, consistent.matrices, consistent.channels⟩,
    append_layers_ok shaped, stateValues]

theorem layers_of_state (consistent : Consistent shape layers state) :
    layersFromValues shape (stateValues state) layers = .ok state := by
  obtain ⟨count, shaped, same⟩ := consistent.to_layers
  have decoded := layers_from_values shaped
  rwa [count, same] at decoded

theorem values_of_state (consistent : Consistent shape layers state) :
    moduleStateFromValues shape (stateValues state) layers = .ok state := by
  rw [moduleStateFromValues, if_neg (not_not.mpr (state_values_length consistent)),
    layers_of_state consistent]

/-- Values of whole layers are those of one consistent state. -/
theorem state_of_values {values : List V} (sized : values.length = layers * shape.layerElements) :
    ∃ state, Consistent shape layers state ∧ stateValues state = values := by
  obtain ⟨tensors, count, shaped, written⟩ := values_are_layers sized
  refine ⟨ofLayers tensors, count ▸ Consistent.of_layers shaped, ?_⟩
  rw [stateValues, to_layers_of_layers, written]

end States

namespace FlatModuleState

variable {flat : FlatModuleState shape V}

theorem values_length (flat : FlatModuleState shape V) :
    flat.entityValues.length = flat.layers * shape.layerElements := slice_length flat.inRange

theorem materialize_ok {state : NativeRnnModuleState V}
    (consistent : Consistent shape flat.layers state)
    (same : flat.entityValues = stateValues state) : flat.materialize = .ok state := by
  rw [materialize, same, layers_of_state consistent]

/-- Every flat state is that of one consistent state. -/
theorem has_state (flat : FlatModuleState shape V) :
    ∃ state, flat.materialize = .ok state ∧ Consistent shape flat.layers state ∧
      flat.entityValues = stateValues state := by
  obtain ⟨state, consistent, same⟩ := state_of_values flat.values_length
  exact ⟨state, materialize_ok consistent same.symm, consistent, same.symm⟩

/-- A state written between other values is found at the place it was written. -/
theorem appended {layers : Nat} {state : NativeRnnModuleState V}
    (consistent : Consistent shape layers state) (output rest : List V) :
    ∃ inRange, (⟨output ++ stateValues state ++ rest, output.length, layers, inRange⟩ :
      FlatModuleState shape V).materialize = .ok state := by
  have sized := state_values_length consistent
  refine ⟨by simp [sized], ?_⟩
  apply materialize_ok consistent
  have found : slice (output ++ stateValues state ++ rest) output.length
      (layers * shape.layerElements) = stateValues state := by
    rw [slice, List.append_assoc, List.drop_left' rfl, List.take_left' sized]
  exact found

theorem from_shared_ok {values : List V} {entity layers : Nat}
    (inRange : entity * (layers * shape.layerElements) + layers * shape.layerElements ≤
      values.length) :
    fromSharedValues shape values entity layers =
      .ok ⟨values, entity * (layers * shape.layerElements), layers, inRange⟩ := dif_pos inRange

end FlatModuleState

/-- Where a field of a layer lies, and what its tensor is. -/
structure LayerField (shape : LayerShape) (V : Type) where
  offset : Nat
  count : Nat
  rowDims : List Nat
  pick : LayerTensors V → Tensor V
  counted : count = rowDims.prod
  fits : offset + count ≤ shape.layerElements
  dims : ∀ {layer}, Shaped shape layer → (pick layer).dims = 1 :: rowDims
  found : ∀ {layer}, Shaped shape layer → slice (layerValues layer) offset count = (pick layer).data

def shiftField (shape : LayerShape) (V : Type) : LayerField shape V where
  offset := 0
  count := shape.channels
  rowDims := [1, shape.channels]
  pick := fun layer => layer.1
  counted := by simp
  fits := by
    rw [LayerShape.layerElements]
    omega
  dims := Shaped.shift
  found := Shaped.shift_slice

def matrixField (shape : LayerShape) (V : Type) : LayerField shape V where
  offset := shape.channels
  count := shape.matrixElements
  rowDims := [1, shape.heads, shape.headSize, shape.headSize]
  pick := fun layer => layer.2.1
  counted := by simp [LayerShape.matrixElements, Nat.mul_assoc]
  fits := by
    rw [LayerShape.layerElements]
    omega
  dims := Shaped.matrix
  found := Shaped.matrix_slice

def channelField (shape : LayerShape) (V : Type) : LayerField shape V where
  offset := shape.channels + shape.matrixElements
  count := shape.channels
  rowDims := [1, shape.channels]
  pick := fun layer => layer.2.2
  counted := by simp
  fits := by
    rw [LayerShape.layerElements]
  dims := Shaped.channel
  found := Shaped.channel_slice

section Shared

variable {layers : Nat} {entities : List (List (LayerTensors V))}

theorem shared_slice (rows : Sized layers entities)
    (shaped : ∀ entity ∈ entities, ∀ layer ∈ entity, Shaped shape layer) {entity : Nat}
    (inside : entity < entities.length) {layer : Nat} (small : layer < layers) :
    ∃ tensors, entities[entity][layer]? = some tensors ∧ Shaped shape tensors ∧
      ∀ start count, start + count ≤ shape.layerElements →
        slice (entities.flatten.flatMap layerValues)
            ((entity * layers + layer) * shape.layerElements + start) count =
          slice (layerValues tensors) start count := by
  have whole : ∀ tensors ∈ entities.flatten, Shaped shape tensors := by
    intro tensors member
    obtain ⟨row, rowMember, tensorsMember⟩ := List.mem_flatten.mp member
    exact shaped row rowMember tensors tensorsMember
  have row : entities[entity].length = layers := rows _ (List.getElem_mem inside)
  have present : entities[entity][layer]? = some (entities[entity][layer]) :=
    List.getElem?_eq_getElem (by omega)
  have place := getElem_flatten rows inside small
  rw [present] at place
  obtain ⟨within, same⟩ := List.getElem?_eq_some_iff.mp place
  refine ⟨_, present, same ▸ whole _ (List.getElem_mem within), ?_⟩
  intro start count fits
  rw [layer_slice whole within start count fits, same]

theorem field_blocks (rows : Sized layers entities)
    (shaped : ∀ entity ∈ entities, ∀ layer ∈ entity, Shaped shape layer)
    (field : LayerField shape V) {layer : Nat} (small : layer < layers) :
    Sized field.count ((List.range entities.length).map fun entity =>
      slice (entities.flatten.flatMap layerValues)
        ((entity * layers + layer) * shape.layerElements + field.offset) field.count) := by
  intro block member
  obtain ⟨entity, inside, rfl⟩ := List.mem_map.mp member
  obtain ⟨tensors, _, shapedHere, slices⟩ :=
    shared_slice rows shaped (List.mem_range.mp inside) small
  rw [slices _ _ field.fits, field.found shapedHere, Tensor.sized, field.dims shapedHere,
    List.prod_cons, Nat.one_mul, field.counted]

/-- The values of a field of one layer, every entity in its row. -/
theorem field_batch (rows : Sized layers entities)
    (shaped : ∀ entity ∈ entities, ∀ layer ∈ entity, Shaped shape layer)
    (field : LayerField shape V) {layer : Nat} (small : layer < layers) :
    ∃ batch : Tensor V, batch.dims = entities.length :: field.rowDims ∧
      Tensor.fromVec (sharedField shape (entities.flatten.flatMap layerValues) layers
        entities.length field.offset field.count layer) (entities.length :: field.rowDims) =
          .ok batch ∧
      ∀ entity, (inside : entity < entities.length) → ∃ tensors,
        entities[entity][layer]? = some tensors ∧
          narrowFirst batch entity 1 = .ok (field.pick tensors) := by
  have blocks := field_blocks rows shaped field small
  have sized : (sharedField shape (entities.flatten.flatMap layerValues) layers entities.length
      field.offset field.count layer).length = (entities.length :: field.rowDims).prod := by
    rw [sharedField, List.flatMap_def, flatten_length blocks, List.length_map, List.length_range,
      List.prod_cons, field.counted]
  refine ⟨⟨_, _, sized⟩, rfl, from_vec_ok sized, ?_⟩
  intro entity inside
  obtain ⟨tensors, present, shapedHere, slices⟩ := shared_slice rows shaped inside small
  refine ⟨tensors, present, ?_⟩
  have data : slice (sharedField shape (entities.flatten.flatMap layerValues) layers
      entities.length field.offset field.count layer) (entity * field.rowDims.prod)
        (1 * field.rowDims.prod) = (field.pick tensors).data := by
    rw [Nat.one_mul, ← field.counted, sharedField, List.flatMap_def,
      slice_block blocks (by simpa using inside), List.getElem_map, List.getElem_range,
      slices _ _ field.fits, field.found shapedHere]
  simp only [narrowFirst, if_pos (Nat.succ_le_of_lt inside), data]
  rw [← field.dims shapedHere, from_vec_tensor]

/-- Narrowing the batched tensors of a field to a row gives the tensors of that entity. -/
theorem shared_batch_ok (rows : Sized layers entities)
    (shaped : ∀ entity ∈ entities, ∀ layer ∈ entity, Shaped shape layer)
    (field : LayerField shape V) :
    ∃ batches, sharedBatch shape (entities.flatten.flatMap layerValues) layers entities.length
        field.offset field.count field.rowDims = .ok batches ∧
      ∀ entity, (inside : entity < entities.length) →
        (batches.mapM fun tensor => narrowFirst tensor entity 1) =
          .ok (entities[entity].map field.pick) := by
  have each : ∀ layer ∈ List.range layers, ∃ batch, Tensor.fromVec
      (sharedField shape (entities.flatten.flatMap layerValues) layers entities.length
        field.offset field.count layer) (entities.length :: field.rowDims) = .ok batch := by
    intro layer member
    obtain ⟨batch, _, made, _⟩ := field_batch rows shaped field (List.mem_range.mp member)
    exact ⟨batch, made⟩
  obtain ⟨batches, run⟩ := mapM_each_ok each
  refine ⟨batches, run, ?_⟩
  intro entity inside
  have row : entities[entity].length = layers := rows _ (List.getElem_mem inside)
  obtain ⟨lengths, made⟩ := List.forall₂_iff_get.mp (mapM_ok run)
  rw [List.length_range] at lengths
  apply mapM_of_pairs
  apply List.forall₂_iff_get.mpr
  refine ⟨by rw [List.length_map, row, lengths], ?_⟩
  intro layer small _
  have within : layer < layers := by omega
  obtain ⟨batch, _, here, narrowed⟩ := field_batch rows shaped field within
  obtain ⟨tensors, present, found⟩ := narrowed entity inside
  obtain ⟨_, same⟩ := List.getElem?_eq_some_iff.mp present
  have stepped := made layer (by simpa using within) small
  simp only [List.get_eq_getElem, List.getElem_range, List.getElem_map] at stepped ⊢
  rw [here] at stepped
  rw [← Except.ok.inj stepped, same, found]

theorem shared_states_ok (rows : Sized layers entities)
    (shaped : ∀ entity ∈ entities, ∀ layer ∈ entity, Shaped shape layer) :
    moduleStatesFromSharedValues shape (entities.flatten.flatMap layerValues) layers
      entities.length = .ok (entities.map ofLayers) := by
  have whole : ∀ tensors ∈ entities.flatten, Shaped shape tensors := by
    intro tensors member
    obtain ⟨row, rowMember, tensorsMember⟩ := List.mem_flatten.mp member
    exact shaped row rowMember tensors tensorsMember
  have sized : (entities.flatten.flatMap layerValues).length =
      entities.length * layers * shape.layerElements := by
    rw [layers_length whole, flatten_length rows]
  rw [moduleStatesFromSharedValues, if_neg (not_not.mpr sized)]
  by_cases empty : entities.length = 0
  · rw [if_pos empty, List.eq_nil_of_length_eq_zero empty]
    rfl
  · rw [if_neg empty]
    obtain ⟨shifts, shiftsMade, shiftRows⟩ := shared_batch_ok rows shaped (shiftField shape V)
    obtain ⟨matrices, matricesMade, matrixRows⟩ :=
      shared_batch_ok rows shaped (matrixField shape V)
    obtain ⟨channels, channelsMade, channelRows⟩ :=
      shared_batch_ok rows shaped (channelField shape V)
    apply bind_ok.mpr
    refine ⟨shifts, shiftsMade, ?_⟩
    apply bind_ok.mpr
    refine ⟨matrices, matricesMade, ?_⟩
    apply bind_ok.mpr
    refine ⟨channels, channelsMade, ?_⟩
    have turns := @mapM_range_ok String _ (fun entity => do
      let timeX ← shifts.mapM fun tensor => narrowFirst tensor entity 1
      let timeState ← matrices.mapM fun tensor => narrowFirst tensor entity 1
      let channel ← channels.mapM fun tensor => narrowFirst tensor entity 1
      return (⟨timeX, timeState, channel⟩ : NativeRnnModuleState V)) (entities.map ofLayers) (by
        intro entity small
        have inside : entity < entities.length := by simpa using small
        rw [shiftRows entity inside, matrixRows entity inside, channelRows entity inside,
          List.getElem_map]
        rfl)
    rwa [List.length_map] at turns

end Shared

section SharedStates

variable {layers : Nat} {states : List (NativeRnnModuleState V)}

theorem sized_states (consistent : ∀ state ∈ states, Consistent shape layers state) :
    Sized (layers * shape.layerElements) (states.map stateValues) := by
  intro block member
  obtain ⟨state, inside, rfl⟩ := List.mem_map.mp member
  exact state_values_length (consistent state inside)

theorem states_length (consistent : ∀ state ∈ states, Consistent shape layers state) :
    (states.flatMap stateValues).length = states.length * (layers * shape.layerElements) := by
  rw [List.flatMap_def, flatten_length (sized_states consistent), List.length_map]

theorem entity_slice (consistent : ∀ state ∈ states, Consistent shape layers state) {entity : Nat}
    (inside : entity < states.length) :
    slice (states.flatMap stateValues) (entity * (layers * shape.layerElements))
      (layers * shape.layerElements) = stateValues states[entity] := by
  rw [List.flatMap_def, slice_block (sized_states consistent) (by simpa using inside),
    List.getElem_map]

theorem append_states_ok [Zero V] (consistent : ∀ state ∈ states, Consistent shape layers state)
    (output : List V) :
    states.foldlM (fun output state => appendModuleState shape output (some state) layers) output =
      .ok (output ++ states.flatMap stateValues) := by
  induction states generalizing output with
  | nil =>
      rw [List.flatMap_nil, List.append_nil]
      rfl
  | cons state states ih =>
      rw [List.foldlM_cons, append_state_ok (consistent state (by simp)), List.flatMap_cons,
        ← List.append_assoc]
      exact ih (fun other member => consistent other (List.mem_cons_of_mem _ member)) _

theorem shared_states (consistent : ∀ state ∈ states, Consistent shape layers state) :
    moduleStatesFromSharedValues shape (states.flatMap stateValues) layers states.length =
      .ok states := by
  have rows : Sized layers (states.map toLayers) := by
    intro row member
    obtain ⟨state, inside, rfl⟩ := List.mem_map.mp member
    exact (consistent state inside).to_layers.1
  have shaped : ∀ row ∈ states.map toLayers, ∀ layer ∈ row, Shaped shape layer := by
    intro row member
    obtain ⟨state, inside, rfl⟩ := List.mem_map.mp member
    exact (consistent state inside).to_layers.2.1
  have values : (states.map toLayers).flatten.flatMap layerValues = states.flatMap stateValues := by
    rw [← List.flatMap_def, List.flatMap_assoc]
    rfl
  have back : (states.map toLayers).map ofLayers = states := by
    rw [List.map_map]
    apply (List.map_congr_left _).trans (List.map_id states)
    intro state inside
    exact (consistent state inside).to_layers.2.2
  have decoded := shared_states_ok rows shaped
  rwa [values, List.length_map, back] at decoded

theorem states_of_values {values : List V} {entities : Nat}
    (sized : values.length = entities * (layers * shape.layerElements)) :
    ∃ states : List (NativeRnnModuleState V), states.length = entities ∧
      (∀ state ∈ states, Consistent shape layers state) ∧
      states.flatMap stateValues = values := by
  induction entities generalizing values with
  | zero =>
      rw [Nat.zero_mul] at sized
      exact ⟨[], rfl, by simp, (List.eq_nil_of_length_eq_zero sized).symm⟩
  | succ entities ih =>
      rw [Nat.succ_mul] at sized
      obtain ⟨states, count, consistent, rest⟩ :=
        @ih (values.drop (layers * shape.layerElements)) (by
          rw [List.length_drop]
          omega)
      obtain ⟨state, first, same⟩ := @state_of_values _ shape layers
        (values.take (layers * shape.layerElements)) (by
          rw [List.length_take]
          omega)
      refine ⟨state :: states, by rw [List.length_cons, count], ?_, ?_⟩
      · intro other member
        rcases List.mem_cons.mp member with here | there
        · exact here ▸ first
        · exact consistent other there
      · rw [List.flatMap_cons, same, rest, List.take_append_drop]

/-- The flat view of an entity in a shared buffer materializes to its state. -/
theorem shared_flat (consistent : ∀ state ∈ states, Consistent shape layers state) {entity : Nat}
    (inside : entity < states.length) (rest : List V) :
    ∃ flat, FlatModuleState.fromSharedValues shape (states.flatMap stateValues ++ rest) entity
        layers = .ok flat ∧ flat.materialize = .ok states[entity] := by
  have count := states_length consistent
  have next := Nat.mul_le_mul_right (layers * shape.layerElements) (Nat.succ_le_of_lt inside)
  rw [Nat.succ_mul] at next
  have within : entity * (layers * shape.layerElements) + layers * shape.layerElements ≤
      (states.flatMap stateValues).length := by omega
  have inRange : entity * (layers * shape.layerElements) + layers * shape.layerElements ≤
      (states.flatMap stateValues ++ rest).length := by
    rw [List.length_append]
    omega
  refine ⟨_, FlatModuleState.from_shared_ok inRange, ?_⟩
  apply FlatModuleState.materialize_ok (consistent _ (List.getElem_mem inside))
  have found : slice (states.flatMap stateValues ++ rest)
      (entity * (layers * shape.layerElements)) (layers * shape.layerElements) =
        stateValues states[entity] := by
    rw [slice, List.drop_append_of_le_length (by omega),
      List.take_append_of_le_length (by rw [List.length_drop]; omega), ← slice,
      entity_slice consistent inside]
  exact found

end SharedStates

def shapedFlat (flat : FlatNativeRnnModuleState V) : FlatModuleState nativeShape V where
  values := flat.values
  offset := flat.offset
  layers := flat.layers
  inRange := flat.inRange

theorem slice_slice {values : List V} {offset length start count : Nat}
    (fits : start + count ≤ length) :
    slice (slice values offset length) start count =
      ((values.drop offset).drop start).take count := by
  rw [slice, slice, List.drop_take, List.take_take, Nat.min_eq_left (by omega)]

theorem shaped_layer (flat : FlatNativeRnnModuleState V) (layer : Fin flat.layers) :
    layerFromValues nativeShape (shapedFlat flat).entityValues layer =
      .ok (flat.xShift layer, flat.recurrent layer, flat.channel layer) := by
  have bound := flat.layer_bound layer
  have elements : flatStateLayerElements =
    flatStateChannels + flatStateMatrixElements + flatStateChannels := rfl
  have values : ∀ start count, start + count ≤ flat.layers * flatStateLayerElements →
      slice (shapedFlat flat).entityValues start count = flat.slice start count := by
    intro start count fits
    exact slice_slice fits
  have shift := values (layer * flatStateLayerElements) flatStateChannels (by omega)
  have matrix := values (layer * flatStateLayerElements + flatStateChannels)
    flatStateMatrixElements (by omega)
  have channel := values (layer * flatStateLayerElements + flatStateChannels +
    flatStateMatrixElements) flatStateChannels (by omega)
  apply bind_ok.mpr
  refine ⟨flat.xShift layer, ?_, ?_⟩
  · exact (congrArg (Tensor.fromVec · nativeShape.shiftDims) shift).trans
      (from_vec_tensor (flat.xShift layer))
  · apply bind_ok.mpr
    refine ⟨flat.recurrent layer, ?_, ?_⟩
    · exact (congrArg (Tensor.fromVec · nativeShape.matrixDims) matrix).trans
        (from_vec_tensor (flat.recurrent layer))
    · apply bind_ok.mpr
      refine ⟨flat.channel layer, ?_, rfl⟩
      exact (congrArg (Tensor.fromVec · nativeShape.shiftDims) channel).trans
        (from_vec_tensor (flat.channel layer))

theorem shaped_materialize (flat : FlatNativeRnnModuleState V) :
    (shapedFlat flat).materialize = .ok flat.materialize := by
  apply bind_ok.mpr
  refine ⟨(List.finRange flat.layers).map fun layer =>
    (flat.xShift layer, flat.recurrent layer, flat.channel layer), ?_, ?_⟩
  · have turns := @mapM_range_ok _ _
      (layerFromValues nativeShape (shapedFlat flat).entityValues)
      ((List.finRange flat.layers).map fun layer =>
        (flat.xShift layer, flat.recurrent layer, flat.channel layer)) (by
        intro layer inside
        rw [List.getElem_map, List.getElem_finRange]
        exact shaped_layer flat ⟨layer, by simpa using inside⟩)
    rwa [List.length_map, List.length_finRange] at turns
  · change Except.ok (ofLayers _) = _
    rw [ofLayers, FlatNativeRnnModuleState.materialize]
    simp only [List.map_map]
    rfl

theorem shaped_values (flat : FlatNativeRnnModuleState V) :
    (shapedFlat flat).entityValues = stateValues flat.materialize := by
  obtain ⟨state, materialized, _, same⟩ := (shapedFlat flat).has_state
  rw [shaped_materialize] at materialized
  cases materialized
  exact same

end RwkvSrs.StateLayouts
