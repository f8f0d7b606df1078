import RwkvSrs.CheckpointPieces
import RwkvSrs.HistoryStates

/-!
The size of a checkpoint before it is written, from the numbers of identities
alone. It adds up what each section will take, in arithmetic that checks for
overflow, so it is refused exactly when the file would be too long to measure.
-/

namespace RwkvSrs.CheckpointSize

open Std CheckpointBytes CheckpointReader CheckpointWriter CheckpointSections CheckpointPieces
open DeterministicState NativeRnnState HistoryStates ReviewProcessing PipelineLine TorchRng
open GeneratorStates ResultSteps SectionReadBack ModuleState StateLayouts SelectiveReaders

set_option autoImplicit false

def checkedSizeAdd (field : String) (value size : Nat) : Except String Nat :=
  orError (checkedAdd size value) s!"checkpoint field {field} byte size overflow"

def checkedCountedSizeAdd (field : String) (count entrySize size : Nat) : Except String Nat := do
  let size ← checkedSizeAdd field 8 size
  let entriesSize ←
    orError (checkedMul count entrySize) s!"checkpoint field {field} byte size overflow"
  checkedSizeAdd field entriesSize size

def expectedTensorSize (rank valueCount : Nat) : Except String Nat := do
  let shapeBytes ← orError (checkedMul rank 8) "tensor shape byte size overflow"
  let valueBytes ← orError (checkedMul valueCount 4) "tensor value byte size overflow"
  orError (do
    let size ← checkedAdd 1 shapeBytes
    let size ← checkedAdd size 8
    checkedAdd size valueBytes) "tensor byte size overflow"

def addLayerSize (size : Nat) (layer : StateBlock) : Except String Nat := do
  let channels ←
    orError (checkedMul layer.nHeads layer.headSize) "module state channel count overflow"
  let recurrentValues ←
    orError (checkedMul channels layer.headSize) "module recurrent state size overflow"
  let timeX ← expectedTensorSize 3 channels
  let size ← checkedSizeAdd "time_x_shift state" timeX size
  let recurrent ← expectedTensorSize 5 recurrentValues
  let size ← checkedSizeAdd "time recurrent state" recurrent size
  let channel ← expectedTensorSize 3 channels
  checkedSizeAdd "channel state" channel size

def expectedModuleStateSize (module : List StateBlock) : Except String Nat := do
  let size ← orError (checkedMul 3 8) "module state vector size overflow"
  module.foldlM addLayerSize size

structure IdentityCounts where
  cardCount : Nat
  noteCount : Nat
  deckCount : Nat
  presetCount : Nat

def IdentityCounts.of (counts : IdentityCounts) : IdSubmodule → Nat
  | .cardId => counts.cardCount
  | .noteId => counts.noteCount
  | .deckId => counts.deckCount
  | .presetId => counts.presetCount

def headerSize (metadataLen size : Nat) : Except String Nat := do
  let size ← checkedSizeAdd "checkpoint magic" checkpointBinMagic.length size
  let size ← checkedSizeAdd "checkpoint version" 4 size
  let size ← checkedSizeAdd "metadata length" 8 size
  checkedSizeAdd "metadata" metadataLen size

def featuresSize (cardCount size : Nat) : Except String Nat := do
  let optionF64Size := 1 + if cardCount ≠ 0 then 8 else 0
  let size ← checkedSizeAdd "first_day_offset" optionF64Size size
  let size ← checkedSizeAdd "prev_day_offset" optionF64Size size
  let size ← checkedSizeAdd "card_count" 8 size
  let size ← checkedCountedSizeAdd "card_set" cardCount 8 size
  let size ← checkedCountedSizeAdd "last_new_cards" cardCount (8 + 8) size
  let size ← checkedSizeAdd "review index" 8 size
  let size ← checkedCountedSizeAdd "last_i" cardCount (8 * 2) size
  let size ← checkedSizeAdd "today counters" (8 + 8 * 2) size
  let size ← checkedCountedSizeAdd "card2first_day_offset" cardCount (8 + 8) size
  let size ← checkedCountedSizeAdd "card2elapsed_days_cumulative" cardCount (8 + 8) size
  checkedCountedSizeAdd "card2elapsed_seconds_cumulative" cardCount (8 + 8) size

def addSubmoduleSize (counts : IdentityCounts) (size : Nat) (submodule : IdSubmodule) :
    Except String Nat := do
  let size ← checkedSizeAdd "id encoding submodule name" (8 + submodule.name.utf8ByteSize) size
  let encodingBytes ← orError (checkedMul submodule.dim 4) "ID encoding byte size overflow"
  checkedCountedSizeAdd submodule.name (counts.of submodule) (8 + 8 + encodingBytes) size

def encodingsSize (counts : IdentityCounts) (size : Nat) : Except String Nat := do
  let size ← checkedSizeAdd "id_encodings" 8 size
  idSubmodules.foldlM (addSubmoduleSize counts) size

/-- An index entry and a state; this sum is not checked. -/
def stateEntrySize (stateSize : Nat) : Nat := (8 + 8 + stateSize) % 2 ^ 64

def expectedCheckpointBinSize (modules : RwkvModules) (metadataLen : Nat) (counts : IdentityCounts) :
    Except String Nat :=
  if metadataLen = 0 then .error "binary checkpoint metadata must not be empty"
  else if counts.cardCount = 0 ∧
      (counts.noteCount ≠ 0 ∨ counts.deckCount ≠ 0 ∨ counts.presetCount ≠ 0) then
    .error "note_count, deck_count, and preset_count must be zero when card_count is zero"
  else if counts.cardCount ≠ 0 ∧
      (counts.noteCount = 0 ∨ counts.deckCount = 0 ∨ counts.presetCount = 0) then
    .error ("note_count, deck_count, and preset_count must be nonzero when card_count is nonzero; " ++
      "missing identities are stored as normalized placeholders")
  else if modules.length ≠ srsReviewStateModules then
    .error (s!"checkpoint size calculation expected {srsReviewStateModules} RWKV state modules, " ++
      s!"got {modules.length}")
  else do
    let cardStateSize ← expectedModuleStateSize (modules.blocks (.keyed .card))
    let deckStateSize ← expectedModuleStateSize (modules.blocks (.keyed .deck))
    let noteStateSize ← expectedModuleStateSize (modules.blocks (.keyed .note))
    let presetStateSize ← expectedModuleStateSize (modules.blocks (.keyed .preset))
    let globalStateSize ← expectedModuleStateSize (modules.blocks .global)
    let size ← headerSize metadataLen 0
    let size ← featuresSize counts.cardCount size
    let size ← encodingsSize counts size
    let size ← checkedSizeAdd "torch_rng_state" (8 + torchRngStateByteLen) size
    let size ← checkedCountedSizeAdd "card_states" counts.cardCount (stateEntrySize cardStateSize) size
    let size ← checkedCountedSizeAdd "note_states" counts.noteCount (stateEntrySize noteStateSize) size
    let size ← checkedCountedSizeAdd "deck_states" counts.deckCount (stateEntrySize deckStateSize) size
    let size ←
      checkedCountedSizeAdd "preset_states" counts.presetCount (stateEntrySize presetStateSize) size
    let size ← checkedSizeAdd "global_state tag" 1 size
    if counts.cardCount ≠ 0 then checkedSizeAdd "global_state" globalStateSize size else return size

/-- A step that adds an amount, and is refused only when the sum leaves the range of a usize. -/
structure Adds (step : Nat → Except String Nat) (amount : Nat) : Prop where
  added : ∀ size, size < 2 ^ 64 → Declares (step size) (size + amount)

theorem adds_field (field : String) (value : Nat) : Adds (checkedSizeAdd field value) value := by
  apply Adds.mk
  intro size _
  exact declares_of_checked rfl

theorem adds_nothing : Adds (fun size => .ok size) 0 := by
  apply Adds.mk
  intro size small found
  rw [Nat.add_zero]
  constructor
  · intro same
    cases same
    exact ⟨rfl, small⟩
  · intro same
    rw [same.1]

theorem adds_bind {first second : Nat → Except String Nat} {head tail : Nat}
    (firstAdds : Adds first head) (secondAdds : Adds second tail) :
    Adds (fun size => first size >>= second) (head + tail) := by
  apply Adds.mk
  intro size small found
  rw [bind_ok]
  constructor
  · intro ran
    obtain ⟨middle, firstRan, secondRan⟩ := ran
    obtain ⟨same, middleSmall⟩ := (firstAdds.added size small middle).mp firstRan
    have last := (secondAdds.added middle middleSmall found).mp secondRan
    exact ⟨by omega, last.2⟩
  · intro same
    have middleSmall : size + head < 2 ^ 64 := by omega
    have firstRan := (firstAdds.added size small (size + head)).mpr ⟨rfl, middleSmall⟩
    have secondRan := (secondAdds.added (size + head) middleSmall found).mpr ⟨by omega, same.2⟩
    exact ⟨size + head, firstRan, secondRan⟩

/-- A value computed on the way, which always fits. -/
theorem adds_given {value : Except String Nat} {given amount : Nat}
    {step : Nat → Nat → Except String Nat} (known : value = .ok given)
    (adds : Adds (step given) amount) :
    Adds (fun size => value >>= fun found => step found size) amount := by
  subst known
  exact adds

theorem adds_counted (field : String) (count entrySize : Nat) :
    Adds (checkedCountedSizeAdd field count entrySize) (8 + count * entrySize) := by
  have entries : Adds (fun size => do
      let entriesSize ←
        orError (checkedMul count entrySize) s!"checkpoint field {field} byte size overflow"
      checkedSizeAdd field entriesSize size) (count * entrySize) := by
    apply Adds.mk
    intro size small found
    rw [bind_ok]
    constructor
    · intro ran
      obtain ⟨entriesSize, multiplied, rest⟩ := ran
      obtain ⟨same, _⟩ := in_usize_some.mp (or_error_ok.mp multiplied)
      rw [same] at rest
      exact in_usize_some.mp (or_error_ok.mp rest)
    · intro same
      have multiplied : count * entrySize < 2 ^ 64 := by omega
      exact ⟨count * entrySize, or_error_ok.mpr (in_usize_some.mpr ⟨rfl, multiplied⟩),
        or_error_ok.mpr (in_usize_some.mpr same)⟩
  exact adds_bind (adds_field field 8) entries

theorem adds_fold {Item : Type} {step : Nat → Item → Except String Nat} {amount : Item → Nat}
    {items : List Item} (each : ∀ item ∈ items, Adds (fun size => step size item) (amount item)) :
    Adds (fun size => items.foldlM step size) (items.map amount).sum := by
  induction items with
  | nil => exact adds_nothing
  | cons item items ih =>
      have rest := ih fun other member => each other (List.mem_cons_of_mem item member)
      simp only [List.foldlM_cons, List.map_cons, List.sum_cons]
      exact adds_bind (each item List.mem_cons_self) rest

def layerBytes (layer : StateBlock) : Nat :=
  tensorBytes 3 layer.shape.channels +
    (tensorBytes 5 layer.shape.matrixElements + tensorBytes 3 layer.shape.channels)

def moduleBytes (module : List StateBlock) : Nat := 24 + (module.map layerBytes).sum

theorem tensor_expected {rank values : Nat} (small : 9 + rank * 8 + values * 4 < 2 ^ 64) :
    expectedTensorSize rank values = .ok (tensorBytes rank values) := by
  have shape : orError (checkedMul rank 8) "tensor shape byte size overflow" = .ok (rank * 8) :=
    or_error_ok.mpr (in_usize_some.mpr ⟨rfl, by omega⟩)
  have value : orError (checkedMul values 4) "tensor value byte size overflow" = .ok (values * 4) :=
    or_error_ok.mpr (in_usize_some.mpr ⟨rfl, by omega⟩)
  have tagged : checkedAdd 1 (rank * 8) = some (1 + rank * 8) := in_usize_some.mpr ⟨rfl, by omega⟩
  have counted : checkedAdd (1 + rank * 8) 8 = some (1 + rank * 8 + 8) :=
    in_usize_some.mpr ⟨rfl, by omega⟩
  have whole : checkedAdd (1 + rank * 8 + 8) (values * 4) = some (tensorBytes rank values) :=
    in_usize_some.mpr ⟨rfl, by rw [tensorBytes]; omega⟩
  rw [expectedTensorSize, shape, value]
  change orError (checkedAdd 1 (rank * 8) >>= fun size =>
    checkedAdd size 8 >>= fun size => checkedAdd size (values * 4)) _ = _
  rw [tagged]
  change orError (checkedAdd (1 + rank * 8) 8 >>= fun size => checkedAdd size (values * 4)) _ = _
  rw [counted]
  change orError (checkedAdd (1 + rank * 8 + 8) (values * 4)) _ = _
  rw [whole]
  rfl

theorem adds_layer (layer : StateBlock) :
    Adds (fun size => addLayerSize size layer) (layerBytes layer) := by
  have bound := layer.allocatable
  have channels : orError (checkedMul layer.nHeads layer.headSize)
      "module state channel count overflow" = .ok layer.shape.channels :=
    or_error_ok.mpr (in_usize_some.mpr ⟨rfl, by rw [StateBlock.shape]; dsimp only; omega⟩)
  have recurrent : orError (checkedMul layer.shape.channels layer.headSize)
      "module recurrent state size overflow" = .ok layer.shape.matrixElements :=
    or_error_ok.mpr (in_usize_some.mpr ⟨rfl, by
      rw [LayerShape.matrixElements, StateBlock.shape]
      dsimp only
      omega⟩)
  have shift : expectedTensorSize 3 layer.shape.channels =
      .ok (tensorBytes 3 layer.shape.channels) := by
    apply tensor_expected
    rw [StateBlock.shape]
    dsimp only
    omega
  have matrix : expectedTensorSize 5 layer.shape.matrixElements =
      .ok (tensorBytes 5 layer.shape.matrixElements) := by
    apply tensor_expected
    rw [LayerShape.matrixElements, StateBlock.shape]
    dsimp only
    omega
  apply adds_given channels
  apply adds_given recurrent
  apply adds_given shift
  apply adds_bind (adds_field _ _)
  apply adds_given matrix
  apply adds_bind (adds_field _ _)
  apply adds_given shift
  exact adds_field _ _

theorem module_expected {module : List StateBlock} (small : moduleBytes module < 2 ^ 64) :
    expectedModuleStateSize module = .ok (moduleBytes module) := by
  have layers := adds_fold (fun layer (_ : layer ∈ module) => adds_layer layer)
  have vectors : orError (checkedMul 3 8) "module state vector size overflow" = .ok 24 := rfl
  rw [expectedModuleStateSize, vectors]
  exact (layers.added 24 (by decide) _).mpr ⟨rfl, small⟩

theorem tensor_piece_length (tensor : Tensor Binary32) :
    (tensorPiece tensor).length = tensorBytes tensor.dims.length tensor.dims.prod := by
  rw [tensorPiece, List.length_append, List.length_append, List.length_append, words_length,
    write_u64_length, floats_length, tensor.sized, LittleEndian.to_le_length, tensorBytes]
  omega

theorem tensor_vec_length {tensors : List (Tensor Binary32)} {blocks : List StateBlock}
    {dims : StateBlock → List Nat} (shaped : tensors.map Tensor.dims = blocks.map dims) :
    (tensorVecPiece tensors).length =
      8 + (blocks.map fun block => tensorBytes (dims block).length (dims block).prod).sum := by
  have each : (tensors.map fun tensor => (tensorPiece tensor).length) =
      (tensors.map Tensor.dims).map fun dims => tensorBytes dims.length dims.prod := by
    rw [List.map_map]
    apply List.map_congr_left
    intro tensor _
    exact tensor_piece_length tensor
  rw [tensorVecPiece, List.length_append, write_u64_length, List.length_flatMap, each, shaped,
    List.map_map]
  rfl

theorem state_piece_length {blocks : List StateBlock} {state : EntityState}
    (fits : FitsBlocks blocks state) : (statePiece state).length = moduleBytes blocks := by
  have layers : (blocks.map layerBytes).sum =
      (blocks.map fun block => tensorBytes 3 block.shape.channels).sum +
      ((blocks.map fun block => tensorBytes 5 block.shape.matrixElements).sum +
        (blocks.map fun block => tensorBytes 3 block.shape.channels).sum) := by
    rw [← List.sum_map_add, ← List.sum_map_add]
    rfl
  rw [statePiece, List.length_append, List.length_append, tensor_vec_length fits.shifts,
    tensor_vec_length fits.matrices, tensor_vec_length fits.channels, moduleBytes, layers]
  have shiftRank : ∀ shape : LayerShape, shape.shiftDims.length = 3 := fun _ => rfl
  have matrixRank : ∀ shape : LayerShape, shape.matrixDims.length = 5 := fun _ => rfl
  simp only [LayerShape.shift_prod, LayerShape.matrix_prod, shiftRank, matrixRank]
  omega

theorem fits_storable {blocks : List StateBlock} {state : EntityState}
    (fits : FitsBlocks blocks state) : StorableState state := by
  have lengths : ∀ {tensors : List (Tensor Binary32)} {dims : StateBlock → List Nat},
      tensors.map Tensor.dims = blocks.map dims → tensors.length = blocks.length := by
    intro tensors dims same
    have counted := congrArg List.length same
    rwa [List.length_map, List.length_map] at counted
  have block : ∀ {tensors : List (Tensor Binary32)} {dims : StateBlock → List Nat},
      tensors.map Tensor.dims = blocks.map dims →
        ∀ tensor ∈ tensors, ∃ block : StateBlock, dims block = tensor.dims := by
    intro tensors dims same tensor member
    have mapped : tensor.dims ∈ tensors.map Tensor.dims := List.mem_map_of_mem member
    rw [same] at mapped
    obtain ⟨block, _, shaped⟩ := List.mem_map.mp mapped
    exact ⟨block, shaped⟩
  apply StorableState.mk
  · rw [lengths fits.matrices, lengths fits.shifts]
  · rw [lengths fits.channels, lengths fits.shifts]
  · intro tensor member
    obtain ⟨layer, shaped⟩ := block fits.shifts tensor member
    exact shift_storable shaped.symm
  · intro tensor member
    obtain ⟨layer, shaped⟩ := block fits.matrices tensor member
    exact matrix_storable layer.measurable shaped.symm
  · intro tensor member
    obtain ⟨layer, shaped⟩ := block fits.channels tensor member
    exact shift_storable shaped.symm

/-- Weights of five modules whose states can be measured beside an index entry. -/
structure MeasuredModules (modules : RwkvModules) : Prop where
  five : modules.length = srsReviewStateModules
  small : ∀ module, 16 + moduleBytes (modules.blocks module) < 2 ^ 64

/-- Cards come with notes, decks and presets, and nothing comes without cards. -/
structure MatchedCounts (counts : IdentityCounts) : Prop where
  matched : ∀ submodule, counts.of submodule = 0 ↔ counts.cardCount = 0

def featuresBytes (cardCount : Nat) : Nat :=
  2 * (1 + if cardCount ≠ 0 then 8 else 0) + 8 + (8 + cardCount * 8) + (8 + cardCount * 16) + 8 +
    (8 + cardCount * 16) + 24 + 3 * (8 + cardCount * 16)

def encodingsBytes (counts : IdentityCounts) : Nat :=
  8 + (idSubmodules.map fun submodule => submoduleLength submodule (counts.of submodule)).sum

def statesBytes (count : Nat) (module : List StateBlock) : Nat :=
  8 + count * (16 + moduleBytes module)

/-- Everything the file of a runtime with these numbers of identities is made of. -/
def forecastBytes (modules : RwkvModules) (metadataLen : Nat) (counts : IdentityCounts) : Nat :=
  27 + metadataLen + featuresBytes counts.cardCount + encodingsBytes counts +
    (8 + torchRngStateByteLen) + statesBytes counts.cardCount (modules.blocks (.keyed .card)) +
    statesBytes counts.noteCount (modules.blocks (.keyed .note)) +
    statesBytes counts.deckCount (modules.blocks (.keyed .deck)) +
    statesBytes counts.presetCount (modules.blocks (.keyed .preset)) + 1 +
    if counts.cardCount ≠ 0 then moduleBytes (modules.blocks .global) else 0

theorem adds_total {step : Nat → Except String Nat} {amount total : Nat} (adds : Adds step amount)
    (same : amount = total) : Adds step total := same ▸ adds

theorem adds_header (metadataLen : Nat) : Adds (headerSize metadataLen) (27 + metadataLen) := by
  have magic : checkpointBinMagic.length = 15 := by decide +kernel
  have adds : Adds (headerSize metadataLen)
      (checkpointBinMagic.length + (4 + (8 + metadataLen))) := by
    apply adds_bind (adds_field _ _)
    apply adds_bind (adds_field _ _)
    apply adds_bind (adds_field _ _)
    exact adds_field _ _
  apply adds_total adds
  omega

theorem adds_features (cardCount : Nat) : Adds (featuresSize cardCount) (featuresBytes cardCount) := by
  apply adds_total
  · apply adds_bind (adds_field _ _)
    apply adds_bind (adds_field _ _)
    apply adds_bind (adds_field _ _)
    apply adds_bind (adds_counted _ _ _)
    apply adds_bind (adds_counted _ _ _)
    apply adds_bind (adds_field _ _)
    apply adds_bind (adds_counted _ _ _)
    apply adds_bind (adds_field _ _)
    apply adds_bind (adds_counted _ _ _)
    apply adds_bind (adds_counted _ _ _)
    exact adds_counted _ _ _
  · rw [featuresBytes]
    omega

theorem adds_submodule (counts : IdentityCounts) (submodule : IdSubmodule) :
    Adds (fun size => addSubmoduleSize counts size submodule)
      (submoduleLength submodule (counts.of submodule)) := by
  have values : orError (checkedMul submodule.dim 4) "ID encoding byte size overflow" =
      .ok (submodule.dim * 4) := by
    cases submodule with
    | cardId => rfl
    | noteId => rfl
    | deckId => rfl
    | presetId => rfl
  apply adds_bind (adds_field _ _)
  apply adds_given values
  exact adds_counted _ _ _

theorem adds_encodings (counts : IdentityCounts) :
    Adds (encodingsSize counts) (encodingsBytes counts) := by
  apply adds_bind (adds_field _ _)
  apply adds_fold
  intro submodule _
  exact adds_submodule counts submodule

theorem entry_small {modules : RwkvModules} (measured : MeasuredModules modules) (module : SrsModule) :
    stateEntrySize (moduleBytes (modules.blocks module)) = 16 + moduleBytes (modules.blocks module) :=
  Nat.mod_eq_of_lt (measured.small module)

theorem adds_states {modules : RwkvModules} (measured : MeasuredModules modules) (field : String)
    (count : Nat) (module : SrsModule) :
    Adds (checkedCountedSizeAdd field count (stateEntrySize (moduleBytes (modules.blocks module))))
      (statesBytes count (modules.blocks module)) := by
  rw [entry_small measured]
  exact adds_counted field count _

/-- The calculation gives the forecast, and is refused only when the forecast cannot be measured. -/
theorem forecast_declares {modules : RwkvModules} {metadataLen : Nat} {counts : IdentityCounts}
    (measured : MeasuredModules modules) (metadata : metadataLen ≠ 0) (matched : MatchedCounts counts) :
    Declares (expectedCheckpointBinSize modules metadataLen counts)
      (forecastBytes modules metadataLen counts) := by
  have note : counts.noteCount = 0 ↔ counts.cardCount = 0 := matched.matched .noteId
  have deck : counts.deckCount = 0 ↔ counts.cardCount = 0 := matched.matched .deckId
  have preset : counts.presetCount = 0 ↔ counts.cardCount = 0 := matched.matched .presetId
  have module : ∀ module, expectedModuleStateSize (modules.blocks module) =
      .ok (moduleBytes (modules.blocks module)) := by
    intro module
    have small := measured.small module
    exact module_expected (by omega)
  rw [expectedCheckpointBinSize, if_neg metadata, if_neg (by omega), if_neg (by omega),
    if_neg (not_not.mpr measured.five), module, module, module, module, module]
  have globalState : Adds (fun size =>
      if counts.cardCount ≠ 0 then
        checkedSizeAdd "global_state" (moduleBytes (modules.blocks .global)) size
      else return size)
      (if counts.cardCount ≠ 0 then moduleBytes (modules.blocks .global) else 0) := by
    by_cases populated : counts.cardCount ≠ 0
    · simp only [if_pos populated]
      exact adds_field _ _
    · simp only [if_neg populated]
      exact adds_nothing
  have adds := adds_bind (adds_header metadataLen) (adds_bind (adds_features counts.cardCount)
    (adds_bind (adds_encodings counts)
    (adds_bind (adds_field "torch_rng_state" (8 + torchRngStateByteLen))
    (adds_bind (adds_states measured "card_states" counts.cardCount (.keyed .card))
    (adds_bind (adds_states measured "note_states" counts.noteCount (.keyed .note))
    (adds_bind (adds_states measured "deck_states" counts.deckCount (.keyed .deck))
    (adds_bind (adds_states measured "preset_states" counts.presetCount (.keyed .preset))
    (adds_bind (adds_field "global_state tag" 1) globalState))))))))
  have whole : 27 + metadataLen + (featuresBytes counts.cardCount + (encodingsBytes counts +
      (8 + torchRngStateByteLen + (statesBytes counts.cardCount (modules.blocks (.keyed .card)) +
      (statesBytes counts.noteCount (modules.blocks (.keyed .note)) +
      (statesBytes counts.deckCount (modules.blocks (.keyed .deck)) +
      (statesBytes counts.presetCount (modules.blocks (.keyed .preset)) + (1 +
      if counts.cardCount ≠ 0 then moduleBytes (modules.blocks .global) else 0)))))))) =
        forecastBytes modules metadataLen counts := by
    rw [forecastBytes]
    omega
  have total := (adds_total adds whole).added 0 (by decide)
  rw [Nat.zero_add] at total
  exact total

end RwkvSrs.CheckpointSize
