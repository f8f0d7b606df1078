import RwkvSrs.CheckpointReader
import RwkvSrs.LittleEndian
import RwkvSrs.StateLayouts

/-!
Writing recurrent states to a checkpoint. A writer is the bytes it adds to the
file, or the error that stops it. Numbers are little-endian, and a value that is
not a number is written in its one canonical form. A state is three vectors of
tensors, whichever representation it is held in; the sizes declared for the index
are computed beforehand, in arithmetic that checks for overflow.
-/

namespace RwkvSrs.CheckpointWriter

open RwkvSrs.CheckpointBytes RwkvSrs.CheckpointReader RwkvSrs.LittleEndian RwkvSrs.ModuleState
open RwkvSrs.ResultSteps RwkvSrs.StateLayouts RwkvSrs.StrideBlocks

set_option autoImplicit false

def binWriteU64 (value : Nat) : List UInt8 := toLe 8 value

def binWriteF32 (value : Binary32) : List UInt8 :=
  if value.isNan then toLe 4 0x7fc00000 else toLe 4 value.bits.toNat

theorem write_u64_length (value : Nat) : (binWriteU64 value).length = 8 := to_le_length 8 value

theorem write_f32_length (value : Binary32) : (binWriteF32 value).length = 4 := by
  rw [binWriteF32]
  split
  · exact to_le_length 4 _
  · exact to_le_length 4 _

def binWriteRank (dims : List Nat) : Except String (List UInt8) :=
  if dims.length < 256 then .ok (toLe 1 dims.length) else .error "tensor rank exceeds u8"

def binWriteTensor (tensor : Tensor Binary32) (expectedRank : Nat) : Except String (List UInt8) :=
  if tensor.dims.length ≠ expectedRank then
    .error s!"binary checkpoint tensor expected rank {expectedRank}, got shape {tensor.dims}"
  else do
    let rank ← binWriteRank tensor.dims
    return rank ++ tensor.dims.flatMap binWriteU64 ++ binWriteU64 tensor.data.length ++
      tensor.data.flatMap binWriteF32

def binWriteTensorVec (tensors : List (Tensor Binary32)) (expectedRank : Nat) :
    Except String (List UInt8) := do
  let entries ← tensors.mapM fun tensor => binWriteTensor tensor expectedRank
  return binWriteU64 tensors.length ++ entries.flatten

def binWriteEntityState (state : NativeRnnModuleState Binary32) : Except String (List UInt8) := do
  let timeX ← binWriteTensorVec state.timeXShiftB1cByLayer 3
  let timeState ← binWriteTensorVec state.timeStateB1hkkByLayer 5
  let channel ← binWriteTensorVec state.channelStateB1cByLayer 3
  return timeX ++ timeState ++ channel

/-- The bytes of the values in memory. -/
def castSlice (values : List Binary32) : List UInt8 :=
  values.flatMap fun value => toLe 4 value.bits.toNat

def binWriteFlatTensor (dims : List Nat) (values : List Binary32) : Except String (List UInt8) :=
  match checkedProduct dims with
  | none => .error "flat tensor element count overflow"
  | some expectedValues =>
      if expectedValues ≠ values.length then
        .error s!"flat tensor shape {dims} expects {expectedValues} values, got {values.length}"
      else do
        let rank ← binWriteRank dims
        return rank ++ dims.flatMap binWriteU64 ++ binWriteU64 values.length ++
          if values.all fun value => !value.isNan then castSlice values
          else values.flatMap binWriteF32

def binWriteFlatTensorVec (shape : LayerShape) (values : List Binary32) (layers offset count : Nat)
    (dims : List Nat) : Except String (List UInt8) := do
  let entries ← (List.range layers).mapM fun layer =>
    binWriteFlatTensor dims (slice values (layer * shape.layerElements + offset) count)
  return binWriteU64 layers ++ entries.flatten

def binWriteFlatEntityState {shape : LayerShape} (state : FlatModuleState shape Binary32) :
    Except String (List UInt8) :=
  let layers := state.layers
  let values := state.entityValues
  if values.length ≠ layers * shape.layerElements then
    .error "flat recurrent-state layout has the wrong size"
  else do
    let timeX ← binWriteFlatTensorVec shape values layers 0 shape.channels shape.shiftDims
    let recurrent ← binWriteFlatTensorVec shape values layers shape.channels shape.matrixElements
      shape.matrixDims
    let channel ← binWriteFlatTensorVec shape values layers
      (shape.channels + shape.matrixElements) shape.channels shape.shiftDims
    return timeX ++ recurrent ++ channel

def inUsize (value : Nat) : Option Nat := if value < 2 ^ 64 then some value else none

def checkedAdd (left right : Nat) : Option Nat := inUsize (left + right)

def checkedMul (left right : Nat) : Option Nat := inUsize (left * right)

def orError (value : Option Nat) (message : String) : Except String Nat :=
  match value with
  | some value => .ok value
  | none => .error message

def binTensorSize (expectedRank elemCount : Nat) : Except String Nat := do
  let dims ← orError (checkedMul expectedRank 8) "tensor shape byte size overflow"
  orError (do
    let size ← checkedAdd 1 dims
    let size ← checkedAdd size 8
    checkedAdd size (← checkedMul elemCount 4)) "tensor byte size overflow"

def addTensorSize (expectedRank size : Nat) (tensor : Tensor Binary32) : Except String Nat :=
  if tensor.dims.length ≠ expectedRank then
    .error s!"binary checkpoint tensor expected rank {expectedRank}, got shape {tensor.dims}"
  else do
    let tensorSize ← binTensorSize expectedRank tensor.dims.prod
    orError (checkedAdd size tensorSize) "tensor vector byte size overflow"

def binTensorVecSize (tensors : List (Tensor Binary32)) (expectedRank : Nat) : Except String Nat :=
  tensors.foldlM (addTensorSize expectedRank) 8

def sumSizes (timeX timeState channel : Nat) (message : String) : Except String Nat :=
  orError (do checkedAdd (← checkedAdd timeX timeState) channel) message

def binEntityStateSize (state : NativeRnnModuleState Binary32) : Except String Nat := do
  let timeX ← binTensorVecSize state.timeXShiftB1cByLayer 3
  let timeState ← binTensorVecSize state.timeStateB1hkkByLayer 5
  let channel ← binTensorVecSize state.channelStateB1cByLayer 3
  sumSizes timeX timeState channel "entity state byte size overflow"

def flatTensorVecSize (layers rank values : Nat) : Except String Nat := do
  let dims ← orError (checkedMul rank 8) "flat tensor shape size overflow"
  let tensorSize ← orError (do
    let size ← checkedAdd 1 dims
    let size ← checkedAdd size 8
    checkedAdd size (← checkedMul values 4)) "flat tensor byte size overflow"
  let all ← orError (checkedMul layers tensorSize) "flat tensor vector size overflow"
  orError (checkedAdd 8 all) "flat tensor vector size overflow"

def binFlatEntityStateSize {shape : LayerShape} (state : FlatModuleState shape Binary32) :
    Except String Nat := do
  let layers := state.layers
  let timeX ← flatTensorVecSize layers 3 shape.channels
  let recurrent ← flatTensorVecSize layers 5 shape.matrixElements
  let channel ← flatTensorVecSize layers 3 shape.channels
  sumSizes timeX recurrent channel "flat entity state byte size overflow"

theorem cast_slice_written {values : List Binary32}
    (numbers : (values.all fun value => !value.isNan) = true) :
    castSlice values = values.flatMap binWriteF32 := by
  rw [castSlice]
  apply List.flatMap_congr
  intro value member
  have number := List.all_eq_true.mp numbers value member
  rw [binWriteF32, if_neg (by simpa using number)]

theorem flat_tensor_written {tensor : Tensor Binary32} {dims : List Nat}
    (shaped : tensor.dims = dims) (counted : checkedProduct dims = some dims.prod) :
    binWriteFlatTensor dims tensor.data = binWriteTensor tensor dims.length := by
  subst shaped
  have values : (if tensor.data.all fun value => !value.isNan then castSlice tensor.data
      else tensor.data.flatMap binWriteF32) = tensor.data.flatMap binWriteF32 := by
    split
    · rename_i numbers
      exact cast_slice_written numbers
    · rfl
  simp only [binWriteFlatTensor, counted, binWriteTensor, tensor.sized, ne_eq, not_true_eq_false,
    if_false]
  rw [values]

variable {shape : LayerShape}

theorem checked_shift (shape : LayerShape) :
    checkedProduct shape.shiftDims = some shape.shiftDims.prod := by
  have bound := shape.allocatable
  simp [checkedProduct, LayerShape.shiftDims]
  omega

theorem checked_matrix (shape : LayerShape) :
    checkedProduct shape.matrixDims = some shape.matrixDims.prod := by
  have bound := shape.allocatable
  have heads : shape.heads < 18446744073709551616 := shape.countable
  have whole : shape.heads * shape.headSize * shape.headSize < 18446744073709551616 := by omega
  have part : shape.heads * shape.headSize < 18446744073709551616 := by
    rcases Nat.eq_zero_or_pos shape.headSize with zero | positive
    · simp [zero]
    · exact Nat.lt_of_le_of_lt (Nat.le_mul_of_pos_right _ positive) whole
  simp only [checkedProduct, LayerShape.matrixDims]
  simp [heads, part, ← Nat.mul_assoc, whole]

theorem flat_field_written {layers : List (LayerTensors Binary32)}
    (shaped : ∀ layer ∈ layers, Shaped shape layer) (field : LayerField shape Binary32)
    (counted : checkedProduct (1 :: field.rowDims) = some (1 :: field.rowDims).prod) :
    binWriteFlatTensorVec shape (layers.flatMap layerValues) layers.length field.offset field.count
        (1 :: field.rowDims) =
      binWriteTensorVec (layers.map field.pick) (1 :: field.rowDims).length := by
  have each : ∀ i, (inside : i < layers.length) →
      binWriteFlatTensor (1 :: field.rowDims) (slice (layers.flatMap layerValues)
        (i * shape.layerElements + field.offset) field.count) =
          binWriteTensor (field.pick layers[i]) (1 :: field.rowDims).length := by
    intro i inside
    have layer := shaped layers[i] (List.getElem_mem inside)
    rw [layer_slice shaped inside _ _ field.fits, field.found layer]
    exact flat_tensor_written (field.dims layer) counted
  have entries : (List.range layers.length).mapM (fun layer =>
      binWriteFlatTensor (1 :: field.rowDims) (slice (layers.flatMap layerValues)
        (layer * shape.layerElements + field.offset) field.count)) =
      layers.mapM ((fun tensor => binWriteTensor tensor (1 :: field.rowDims).length) ∘
        field.pick) := mapM_range each
  rw [binWriteFlatTensorVec, binWriteTensorVec, entries, List.mapM_map, List.length_map]

/-- The bytes of a flat state are those of the state it materializes to. -/
theorem flat_state_written {flat : FlatModuleState shape Binary32}
    {state : NativeRnnModuleState Binary32} (consistent : Consistent shape flat.layers state)
    (same : flat.entityValues = stateValues state) :
    binWriteFlatEntityState flat = binWriteEntityState state := by
  obtain ⟨count, shaped, back⟩ := consistent.to_layers
  have shift := flat_field_written shaped (shiftField shape Binary32) (checked_shift shape)
  have matrix := flat_field_written shaped (matrixField shape Binary32) (checked_matrix shape)
  have channel := flat_field_written shaped (channelField shape Binary32) (checked_shift shape)
  have sized := flat.values_length
  rw [count, ← stateValues, ← same] at shift matrix channel
  have canonical : binWriteEntityState (ofLayers (toLayers state)) = binWriteEntityState state := by
    rw [back]
  rw [← canonical, binWriteFlatEntityState, if_neg (not_not.mpr sized)]
  exact congrArg₂ _ shift (funext fun _ => congrArg₂ _ matrix (funext fun _ =>
    congrArg₂ _ channel rfl))

/-- A size that is computed exactly, and refused only when it leaves the range of a usize. -/
def Declares (size : Except String Nat) (total : Nat) : Prop :=
  ∀ found, size = .ok found ↔ found = total ∧ found < 2 ^ 64

theorem in_usize_some {value found : Nat} :
    inUsize value = some found ↔ found = value ∧ found < 2 ^ 64 := by
  rw [inUsize]
  split
  · rename_i small
    constructor
    · intro same
      cases same
      exact ⟨rfl, small⟩
    · rintro ⟨rfl, _⟩
      rfl
  · rename_i large
    constructor
    · intro impossible
      cases impossible
    · rintro ⟨rfl, small⟩
      exact absurd small large

theorem or_error_ok {value : Option Nat} {message : String} {found : Nat} :
    orError value message = .ok found ↔ value = some found := by
  cases value with
  | none => simp [orError]
  | some value => simp [orError]

theorem declares_of_checked {value total : Nat} {message : String} (same : value = total) :
    Declares (orError (inUsize value) message) total := by
  intro found
  rw [or_error_ok, in_usize_some, same]

theorem sum_declares {timeX timeState channel : Except String Nat} {first second third : Nat}
    (firstSize : Declares timeX first) (secondSize : Declares timeState second)
    (thirdSize : Declares channel third) (message : String) :
    Declares (do sumSizes (← timeX) (← timeState) (← channel) message)
      (first + second + third) := by
  intro found
  constructor
  · intro ran
    obtain ⟨x, xRan, rest⟩ := bind_ok.mp ran
    obtain ⟨y, yRan, rest⟩ := bind_ok.mp rest
    obtain ⟨z, zRan, summed⟩ := bind_ok.mp rest
    obtain ⟨rfl, _⟩ := (firstSize x).mp xRan
    obtain ⟨rfl, _⟩ := (secondSize y).mp yRan
    obtain ⟨rfl, _⟩ := (thirdSize z).mp zRan
    obtain ⟨part, partSum, whole⟩ := Option.bind_eq_some_iff.mp (or_error_ok.mp summed)
    obtain ⟨rfl, _⟩ := in_usize_some.mp partSum
    exact in_usize_some.mp whole
  · rintro ⟨rfl, small⟩
    apply bind_ok.mpr
    refine ⟨first, (firstSize first).mpr ⟨rfl, by omega⟩, ?_⟩
    apply bind_ok.mpr
    refine ⟨second, (secondSize second).mpr ⟨rfl, by omega⟩, ?_⟩
    apply bind_ok.mpr
    refine ⟨third, (thirdSize third).mpr ⟨rfl, by omega⟩, ?_⟩
    apply or_error_ok.mpr
    apply Option.bind_eq_some_iff.mpr
    exact ⟨first + second, in_usize_some.mpr ⟨rfl, by omega⟩, in_usize_some.mpr ⟨rfl, small⟩⟩

/-- The rank, the dimensions, the number of values and the values. -/
def tensorBytes (rank values : Nat) : Nat := 1 + rank * 8 + 8 + values * 4

theorem tensor_body_size {dims values found : Nat} :
    (do
      let size ← checkedAdd 1 dims
      let size ← checkedAdd size 8
      checkedAdd size (← checkedMul values 4)) = some found ↔
      found = 1 + dims + 8 + values * 4 ∧ found < 2 ^ 64 := by
  constructor
  · intro ran
    obtain ⟨tagged, first, rest⟩ := Option.bind_eq_some_iff.mp ran
    obtain ⟨counted, second, rest⟩ := Option.bind_eq_some_iff.mp rest
    obtain ⟨bytes, third, last⟩ := Option.bind_eq_some_iff.mp rest
    obtain ⟨rfl, _⟩ := in_usize_some.mp first
    obtain ⟨rfl, _⟩ := in_usize_some.mp second
    obtain ⟨rfl, _⟩ := in_usize_some.mp third
    exact in_usize_some.mp last
  · rintro ⟨rfl, small⟩
    apply Option.bind_eq_some_iff.mpr
    refine ⟨_, in_usize_some.mpr ⟨rfl, by omega⟩, ?_⟩
    apply Option.bind_eq_some_iff.mpr
    refine ⟨_, in_usize_some.mpr ⟨rfl, by omega⟩, ?_⟩
    apply Option.bind_eq_some_iff.mpr
    exact ⟨_, in_usize_some.mpr ⟨rfl, by omega⟩, in_usize_some.mpr ⟨rfl, small⟩⟩

theorem tensor_size_declares (rank values : Nat) :
    Declares (binTensorSize rank values) (tensorBytes rank values) := by
  intro found
  rw [binTensorSize, bind_ok, tensorBytes]
  constructor
  · rintro ⟨dims, dimsRan, rest⟩
    obtain ⟨rfl, _⟩ := in_usize_some.mp (or_error_ok.mp dimsRan)
    exact tensor_body_size.mp (or_error_ok.mp rest)
  · rintro ⟨rfl, small⟩
    refine ⟨rank * 8, or_error_ok.mpr (in_usize_some.mpr ⟨rfl, by omega⟩), ?_⟩
    exact or_error_ok.mpr (tensor_body_size.mpr ⟨rfl, small⟩)

theorem add_tensor_size {rank size : Nat} {tensor : Tensor Binary32}
    (ranked : tensor.dims.length = rank) :
    Declares (addTensorSize rank size tensor) (size + tensorBytes rank tensor.dims.prod) := by
  intro found
  rw [addTensorSize, if_neg (not_not.mpr ranked), bind_ok]
  constructor
  · rintro ⟨tensorSize, sized, summed⟩
    obtain ⟨rfl, _⟩ := (tensor_size_declares rank _ _).mp sized
    exact in_usize_some.mp (or_error_ok.mp summed)
  · rintro ⟨rfl, small⟩
    refine ⟨_, (tensor_size_declares rank _ _).mpr ⟨rfl, by omega⟩, ?_⟩
    exact or_error_ok.mpr (in_usize_some.mpr ⟨rfl, small⟩)

def tensorVecBytes (rank : Nat) (tensors : List (Tensor Binary32)) : Nat :=
  8 + (tensors.map fun tensor => tensorBytes rank tensor.dims.prod).sum

theorem add_tensor_sizes {rank start : Nat} {tensors : List (Tensor Binary32)}
    (ranked : ∀ tensor ∈ tensors, tensor.dims.length = rank) (small : start < 2 ^ 64) :
    Declares (tensors.foldlM (addTensorSize rank) start)
      (start + (tensors.map fun tensor => tensorBytes rank tensor.dims.prod).sum) := by
  induction tensors generalizing start with
  | nil =>
      intro found
      rw [List.map_nil, List.sum_nil, Nat.add_zero]
      constructor
      · intro same
        cases same
        exact ⟨rfl, small⟩
      · rintro ⟨rfl, _⟩
        rfl
  | cons tensor tensors ih =>
      intro found
      have first : Declares (addTensorSize rank start tensor) _ :=
        add_tensor_size (ranked tensor (by simp))
      have rest := fun {start : Nat} (small : start < 2 ^ 64) =>
        @ih start (fun other member => ranked other (List.mem_cons_of_mem _ member)) small
      rw [List.foldlM_cons, bind_ok, List.map_cons, List.sum_cons, ← Nat.add_assoc]
      constructor
      · rintro ⟨next, stepped, later⟩
        obtain ⟨rfl, smallNext⟩ := (first next).mp stepped
        exact (rest smallNext found).mp later
      · rintro ⟨rfl, smallAll⟩
        have smallNext : start + tensorBytes rank tensor.dims.prod < 2 ^ 64 := by omega
        exact ⟨_, (first _).mpr ⟨rfl, smallNext⟩, (rest smallNext _).mpr ⟨rfl, smallAll⟩⟩

theorem tensor_vec_declares {rank : Nat} {tensors : List (Tensor Binary32)}
    (ranked : ∀ tensor ∈ tensors, tensor.dims.length = rank) :
    Declares (binTensorVecSize tensors rank) (tensorVecBytes rank tensors) :=
  add_tensor_sizes ranked (by decide)

theorem words_length (values : List Nat) :
    (values.flatMap binWriteU64).length = values.length * 8 := by
  induction values with
  | nil => rfl
  | cons value values ih =>
      rw [List.flatMap_cons, List.length_append, write_u64_length, ih, List.length_cons,
        Nat.succ_mul, Nat.add_comm]

theorem floats_length (values : List Binary32) :
    (values.flatMap binWriteF32).length = values.length * 4 := by
  induction values with
  | nil => rfl
  | cons value values ih =>
      rw [List.flatMap_cons, List.length_append, write_f32_length, ih, List.length_cons,
        Nat.succ_mul, Nat.add_comm]

theorem tensor_written {tensor : Tensor Binary32} {rank : Nat} {bytes : List UInt8}
    (written : binWriteTensor tensor rank = .ok bytes) :
    tensor.dims.length = rank ∧ bytes.length = tensorBytes rank tensor.dims.prod := by
  rw [binWriteTensor] at written
  split at written
  · cases written
  · rename_i ranked
    rw [not_not] at ranked
    refine ⟨ranked, ?_⟩
    obtain ⟨rankBytes, rankWritten, same⟩ := bind_ok.mp written
    rw [binWriteRank] at rankWritten
    split at rankWritten
    · cases rankWritten
      cases same
      rw [List.length_append, List.length_append, List.length_append, to_le_length, words_length,
        write_u64_length, floats_length, ranked, tensor.sized, tensorBytes]
    · cases rankWritten

theorem tensor_vec_written {tensors : List (Tensor Binary32)} {rank : Nat} {bytes : List UInt8}
    (written : binWriteTensorVec tensors rank = .ok bytes) :
    (∀ tensor ∈ tensors, tensor.dims.length = rank) ∧
      bytes.length = tensorVecBytes rank tensors := by
  obtain ⟨entries, ran, same⟩ := bind_ok.mp written
  cases same
  have pairs := mapM_ok ran
  rw [List.length_append, write_u64_length, tensorVecBytes]
  clear written ran
  induction pairs with
  | nil => exact ⟨by simp, rfl⟩
  | cons stepped _ ih =>
      obtain ⟨ranked, length⟩ := tensor_written stepped
      obtain ⟨others, lengths⟩ := ih
      refine ⟨?_, ?_⟩
      · intro tensor member
        rcases List.mem_cons.mp member with here | there
        · exact here ▸ ranked
        · exact others tensor there
      · rw [List.flatten_cons, List.length_append, List.map_cons, List.sum_cons, length]
        omega

theorem entity_size_declares {state : NativeRnnModuleState Binary32} {bytes : List UInt8}
    (written : binWriteEntityState state = .ok bytes) :
    Declares (binEntityStateSize state) bytes.length := by
  obtain ⟨timeX, timeXWritten, rest⟩ := bind_ok.mp written
  obtain ⟨timeState, timeStateWritten, rest⟩ := bind_ok.mp rest
  obtain ⟨channel, channelWritten, same⟩ := bind_ok.mp rest
  cases same
  obtain ⟨timeXRanked, timeXLength⟩ := tensor_vec_written timeXWritten
  obtain ⟨timeStateRanked, timeStateLength⟩ := tensor_vec_written timeStateWritten
  obtain ⟨channelRanked, channelLength⟩ := tensor_vec_written channelWritten
  rw [List.length_append, List.length_append, timeXLength, timeStateLength, channelLength]
  exact sum_declares (tensor_vec_declares timeXRanked) (tensor_vec_declares timeStateRanked)
    (tensor_vec_declares channelRanked) _

theorem flat_tensor_vec_declares {layers rank values : Nat}
    (fits : tensorBytes rank values < 2 ^ 64) :
    Declares (flatTensorVecSize layers rank values) (8 + layers * tensorBytes rank values) := by
  intro found
  rw [flatTensorVecSize, bind_ok]
  constructor
  · rintro ⟨dims, dimsRan, rest⟩
    obtain ⟨rfl, _⟩ := in_usize_some.mp (or_error_ok.mp dimsRan)
    obtain ⟨tensorSize, sized, rest⟩ := bind_ok.mp rest
    obtain ⟨rfl, _⟩ := tensor_body_size.mp (or_error_ok.mp sized)
    obtain ⟨all, allRan, last⟩ := bind_ok.mp rest
    obtain ⟨rfl, _⟩ := in_usize_some.mp (or_error_ok.mp allRan)
    exact in_usize_some.mp (or_error_ok.mp last)
  · rintro ⟨rfl, small⟩
    have dims : rank * 8 < 2 ^ 64 := by
      rw [tensorBytes] at fits
      omega
    refine ⟨rank * 8, or_error_ok.mpr (in_usize_some.mpr ⟨rfl, dims⟩), ?_⟩
    apply bind_ok.mpr
    refine ⟨tensorBytes rank values, or_error_ok.mpr (tensor_body_size.mpr ⟨rfl, fits⟩), ?_⟩
    apply bind_ok.mpr
    refine ⟨_, or_error_ok.mpr (in_usize_some.mpr ⟨rfl, by omega⟩), ?_⟩
    exact or_error_ok.mpr (in_usize_some.mpr ⟨rfl, small⟩)

theorem uniform_vec_bytes {rank : Nat} {tensors : List (Tensor Binary32)} {dims : List Nat}
    (uniform : ∀ tensor ∈ tensors, tensor.dims = dims) :
    tensorVecBytes rank tensors = 8 + tensors.length * tensorBytes rank dims.prod := by
  have each : (tensors.map fun tensor => tensorBytes rank tensor.dims.prod) =
      List.replicate tensors.length (tensorBytes rank dims.prod) := by
    rw [List.eq_replicate_iff]
    refine ⟨List.length_map _, ?_⟩
    intro size member
    obtain ⟨tensor, inside, rfl⟩ := List.mem_map.mp member
    rw [uniform tensor inside]
  rw [tensorVecBytes, each, List.sum_replicate]
  rfl

/-- The number of bytes of a state of so many layers. -/
def stateBytes (shape : LayerShape) (layers : Nat) : Nat :=
  (8 + layers * tensorBytes 3 shape.channels) +
    (8 + layers * tensorBytes 5 shape.matrixElements) +
      (8 + layers * tensorBytes 3 shape.channels)

theorem flat_size_declares (flat : FlatModuleState shape Binary32) :
    Declares (binFlatEntityStateSize flat) (stateBytes shape flat.layers) := by
  have bound := shape.allocatable
  have shift : tensorBytes 3 shape.channels < 2 ^ 64 := by
    rw [tensorBytes]
    omega
  have matrix : tensorBytes 5 shape.matrixElements < 2 ^ 64 := by
    rw [tensorBytes, LayerShape.matrixElements]
    omega
  exact sum_declares (flat_tensor_vec_declares shift) (flat_tensor_vec_declares matrix)
    (flat_tensor_vec_declares shift) _

/-- A consistent state is written, in as many bytes as its shape says. -/
theorem consistent_written {layers : Nat} {state : NativeRnnModuleState Binary32}
    (consistent : Consistent shape layers state) :
    ∃ bytes, binWriteEntityState state = .ok bytes ∧ bytes.length = stateBytes shape layers := by
  have written : ∀ {tensors : List (Tensor Binary32)} {dims : List Nat}, dims.length < 256 →
      (∀ tensor ∈ tensors, tensor.dims = dims) →
        ∃ bytes, binWriteTensorVec tensors dims.length = .ok bytes := by
    intro tensors dims small uniform
    have each : ∀ tensor ∈ tensors, ∃ bytes, binWriteTensor tensor dims.length = .ok bytes := by
      intro tensor member
      rw [binWriteTensor, uniform tensor member, if_neg (by simp), binWriteRank, if_pos small]
      exact ⟨_, rfl⟩
    obtain ⟨entries, ran⟩ := mapM_each_ok each
    exact ⟨_, bind_ok.mpr ⟨entries, ran, rfl⟩⟩
  have shiftRank : shape.shiftDims.length < 256 := (by decide : 3 < 256)
  have matrixRank : shape.matrixDims.length < 256 := (by decide : 5 < 256)
  obtain ⟨timeX, timeXWritten⟩ := written shiftRank consistent.shiftDims
  obtain ⟨timeState, timeStateWritten⟩ := written matrixRank consistent.matrixDims
  obtain ⟨channel, channelWritten⟩ := written shiftRank consistent.channelDims
  refine ⟨timeX ++ timeState ++ channel, ?_, ?_⟩
  · apply bind_ok.mpr
    refine ⟨timeX, timeXWritten, ?_⟩
    apply bind_ok.mpr
    refine ⟨timeState, timeStateWritten, ?_⟩
    apply bind_ok.mpr
    exact ⟨channel, channelWritten, rfl⟩
  · rw [List.length_append, List.length_append, (tensor_vec_written timeXWritten).2,
      (tensor_vec_written timeStateWritten).2, (tensor_vec_written channelWritten).2,
      uniform_vec_bytes consistent.shiftDims, uniform_vec_bytes consistent.matrixDims,
      uniform_vec_bytes consistent.channelDims, consistent.shifts, consistent.matrices,
      consistent.channels, shape.shift_prod, shape.matrix_prod]
    rfl

end RwkvSrs.CheckpointWriter
