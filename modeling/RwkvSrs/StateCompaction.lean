import RwkvSrs.BulkStateJoin

/-!
Keeping selected rows of a batch of working states. Whether the rows are copied
into new vectors or moved to the front of the old ones, the same rows are kept:
rows are only moved within a vector when each of them lies behind all rows
before it, so none is overwritten before it is read.
-/

namespace RwkvSrs.StateCompaction

open RwkvSrs.BulkStateBatch RwkvSrs.BulkStateJoin RwkvSrs.ModuleState RwkvSrs.ResultSteps
open RwkvSrs.StrideBlocks

set_option autoImplicit false

variable {V : Type}

/-- A batch whose vectors hold a value for every row. -/
structure BatchedFlatState (V : Type) where
  batchSize : Nat
  timeStateByLayer : TimeLayers V
  channelStateByLayer : ChannelLayers V
  xShifts : ∀ layer ∈ timeStateByLayer, layer.xShiftValues.length = batchSize * layer.channels
  states : ∀ layer ∈ timeStateByLayer, layer.stateValues.length = batchSize * stateStride layer
  channels : ∀ layer ∈ channelStateByLayer, layer.stateValues.length = batchSize * layer.channels

/-- The selected rows in their order. -/
def gatherRows (stride : Nat) (selectedRows : List Nat) (values : List V) : List V :=
  selectedRows.flatMap fun row => slice values (row * stride) stride

def gatherTimeLayer (selectedRows : List Nat) (layer : TimeMixerFlatLayerState V) :
    TimeMixerFlatLayerState V :=
  { layer with
    xShiftValues := gatherRows layer.channels selectedRows layer.xShiftValues
    stateValues := gatherRows (stateStride layer) selectedRows layer.stateValues }

def gatherChannelLayer (selectedRows : List Nat) (layer : ChannelMixerFlatLayerState V) :
    ChannelMixerFlatLayerState V :=
  { layer with stateValues := gatherRows layer.channels selectedRows layer.stateValues }

namespace BatchedFlatState

def select (state : BatchedFlatState V) (inPlaceStateCompaction : Bool) (selectedRows : List Nat) :
    Except String (BulkWorkingModuleState V) :=
  selectBatchedFlatWorkingStateRows inPlaceStateCompaction state.timeStateByLayer
    state.channelStateByLayer state.batchSize selectedRows

def gathered (state : BatchedFlatState V) (selectedRows : List Nat) : BulkWorkingModuleState V :=
  flatBatch (state.timeStateByLayer.map (gatherTimeLayer selectedRows))
    (state.channelStateByLayer.map (gatherChannelLayer selectedRows))

end BatchedFlatState

section Vector

variable {batchSize stride : Nat} {values : List V} {selectedRows : List Nat}

def rowBlocks (batchSize stride : Nat) (values : List V) : List (List V) :=
  (List.range batchSize).map fun row => slice values (row * stride) stride

theorem row_blocks_sized (sized : values.length = batchSize * stride) :
    Sized stride (rowBlocks batchSize stride values) := by
  intro block member
  obtain ⟨row, inside, rfl⟩ := List.mem_map.mp member
  apply slice_length
  rw [sized, ← Nat.succ_mul]
  exact Nat.mul_le_mul_right _ (List.mem_range.mp inside)

theorem row_blocks_length : (rowBlocks batchSize stride values).length = batchSize := by
  rw [rowBlocks, List.length_map, List.length_range]

theorem row_blocks_flatten (sized : values.length = batchSize * stride) :
    (rowBlocks batchSize stride values).flatten = values := by
  rw [rowBlocks, slices_flatten, ← sized, List.take_length]

theorem row_blocks_selected (inside : ∀ row ∈ selectedRows, row < batchSize) :
    selectedRows.map (fun row => (rowBlocks batchSize stride values)[row]?) =
      (selectedRows.map fun row => slice values (row * stride) stride).map some := by
  rw [List.map_map]
  apply List.map_congr_left
  intro row member
  rw [rowBlocks, List.getElem?_map, List.getElem?_range (inside row member)]
  rfl

theorem copy_gathers (sized : values.length = batchSize * stride)
    (inside : ∀ row ∈ selectedRows, row < batchSize) :
    copySelected batchSize stride selectedRows values =
      .ok (gatherRows stride selectedRows values) := by
  have copied := copy_selected_ok (row_blocks_sized sized) row_blocks_length
    (row_blocks_selected inside)
  rw [row_blocks_flatten sized] at copied
  rw [copied, gatherRows, List.flatMap_def]

theorem compact_gathers (sized : values.length = batchSize * stride)
    (inside : ∀ row ∈ selectedRows, row < batchSize) (ascending : selectedRows.Pairwise (· < ·))
    (layerKind : String) (layerIndex : Nat) (valueKind : String) :
    compactFlatStateValuesInPlace values batchSize stride selectedRows layerKind layerIndex
      valueKind = .ok (gatherRows stride selectedRows values) := by
  have moved := compact_values_ok (row_blocks_sized sized) row_blocks_length ascending
    (row_blocks_selected inside) layerKind layerIndex valueKind
  rw [row_blocks_flatten sized] at moved
  rw [moved, gatherRows, List.flatMap_def]

/-- Nothing is copied from outside the batch. -/
theorem copied_inside {copied : List V}
    (ran : copySelected batchSize stride selectedRows values = .ok copied) :
    ∀ row ∈ selectedRows, row < batchSize := by
  intro row member
  obtain ⟨parts, taken, _⟩ := bind_ok.mp ran
  obtain ⟨_, _, part⟩ := mapM_member_ok taken member
  split at part
  · cases part
  · omega

end Vector

theorem map_layers_ok {Source Target : Type} {convert : Nat → Source → Except String Target}
    {made : Source → Target} {layers : List Source}
    (each : ∀ layerIndex, ∀ layer ∈ layers, convert layerIndex layer = .ok (made layer))
    (layerIndex : Nat) : mapLayers convert layerIndex layers = .ok (layers.map made) := by
  induction layers generalizing layerIndex with
  | nil => rfl
  | cons layer layers ih =>
      have rest := ih (fun index other member => each index other (List.mem_cons_of_mem _ member))
        (layerIndex + 1)
      exact bind_ok.mpr ⟨_, each layerIndex layer (by simp), bind_ok.mpr ⟨_, rest, rfl⟩⟩

section Batch

variable {state : BatchedFlatState V} {selectedRows : List Nat}

theorem select_copies (inside : ∀ row ∈ selectedRows, row < state.batchSize) :
    (do
      let timeLayers ← mapLayers (selectTimeLayer state.batchSize selectedRows) 0
        state.timeStateByLayer
      let channelLayers ← mapLayers (selectChannelLayer state.batchSize selectedRows) 0
        state.channelStateByLayer
      return flatBatch timeLayers channelLayers) = .ok (state.gathered selectedRows) := by
  have time : mapLayers (selectTimeLayer state.batchSize selectedRows) 0 state.timeStateByLayer =
      .ok (state.timeStateByLayer.map (gatherTimeLayer selectedRows)) := by
    apply map_layers_ok
    intro layerIndex layer member
    have xSized := state.xShifts layer member
    have stateSized := state.states layer member
    rw [selectTimeLayer, if_neg (by simp [xSized, stateSized])]
    exact bind_ok.mpr ⟨_, copy_gathers xSized inside,
      bind_ok.mpr ⟨_, copy_gathers stateSized inside, rfl⟩⟩
  have channel : mapLayers (selectChannelLayer state.batchSize selectedRows) 0
      state.channelStateByLayer =
        .ok (state.channelStateByLayer.map (gatherChannelLayer selectedRows)) := by
    apply map_layers_ok
    intro layerIndex layer member
    have sized := state.channels layer member
    rw [selectChannelLayer, if_neg (by simp [sized])]
    exact bind_ok.mpr ⟨_, copy_gathers sized inside, rfl⟩
  exact bind_ok.mpr ⟨_, time, bind_ok.mpr ⟨_, channel, rfl⟩⟩

theorem select_compacts (inside : ∀ row ∈ selectedRows, row < state.batchSize)
    (ascending : selectedRows.Pairwise (· < ·)) :
    (do
      let timeLayers ← mapLayers (compactTimeLayer state.batchSize selectedRows) 0
        state.timeStateByLayer
      let channelLayers ← mapLayers (compactChannelLayer state.batchSize selectedRows) 0
        state.channelStateByLayer
      return flatBatch timeLayers channelLayers) = .ok (state.gathered selectedRows) := by
  have time : mapLayers (compactTimeLayer state.batchSize selectedRows) 0 state.timeStateByLayer =
      .ok (state.timeStateByLayer.map (gatherTimeLayer selectedRows)) := by
    apply map_layers_ok
    intro layerIndex layer member
    have shift := compact_gathers (state.xShifts layer member) inside ascending "TimeMixer"
      layerIndex "x-shift"
    have recurrent := compact_gathers (state.states layer member) inside ascending "TimeMixer"
      layerIndex "recurrent"
    exact bind_ok.mpr ⟨_, shift, bind_ok.mpr ⟨_, recurrent, rfl⟩⟩
  have channel : mapLayers (compactChannelLayer state.batchSize selectedRows) 0
      state.channelStateByLayer =
        .ok (state.channelStateByLayer.map (gatherChannelLayer selectedRows)) := by
    apply map_layers_ok
    intro layerIndex layer member
    have moved := compact_gathers (state.channels layer member) inside ascending "ChannelMixer"
      layerIndex "state"
    exact bind_ok.mpr ⟨_, moved, rfl⟩
  exact bind_ok.mpr ⟨_, time, bind_ok.mpr ⟨_, channel, rfl⟩⟩

/-- A layer is copied only when all selected rows are inside the batch. -/
theorem selected_inside {selected : BulkWorkingModuleState V}
    (layered : state.timeStateByLayer ≠ [] ∨ state.channelStateByLayer ≠ [])
    (ran : (do
      let timeLayers ← mapLayers (selectTimeLayer state.batchSize selectedRows) 0
        state.timeStateByLayer
      let channelLayers ← mapLayers (selectChannelLayer state.batchSize selectedRows) 0
        state.channelStateByLayer
      return flatBatch timeLayers channelLayers) = .ok selected) :
    ∀ row ∈ selectedRows, row < state.batchSize := by
  obtain ⟨_, time, rest⟩ := bind_ok.mp ran
  obtain ⟨_, channel, _⟩ := bind_ok.mp rest
  rcases layered with some | some
  · obtain ⟨layer, layers, same⟩ := List.exists_cons_of_ne_nil some
    rw [same] at time
    obtain ⟨_, first, _⟩ := bind_ok.mp time
    rw [selectTimeLayer] at first
    split at first
    · cases first
    · obtain ⟨_, copied, _⟩ := bind_ok.mp first
      exact copied_inside copied
  · obtain ⟨layer, layers, same⟩ := List.exists_cons_of_ne_nil some
    rw [same] at channel
    obtain ⟨_, first, _⟩ := bind_ok.mp channel
    rw [selectChannelLayer] at first
    split at first
    · cases first
    · obtain ⟨_, copied, _⟩ := bind_ok.mp first
      exact copied_inside copied

theorem compactable_inside {batchSize : Nat} {previous : Option Nat} {selectedRows : List Nat}
    (compactable : selectedRowsAreFrontCompactable batchSize previous selectedRows = true) :
    ∀ row ∈ selectedRows, row < batchSize := by
  induction selectedRows generalizing previous with
  | nil => simp
  | cons row selectedRows ih =>
      rw [selectedRowsAreFrontCompactable] at compactable
      split at compactable
      · cases compactable
      · rename_i valid
        intro other member
        rcases List.mem_cons.mp member with here | there
        · subst here
          by_contra outside
          exact valid (.inl (Nat.not_lt.mp outside))
        · exact ih compactable other there

/-- All rows in order are the batch as it is. -/
theorem gather_all : state.gathered (List.range state.batchSize) =
    flatBatch state.timeStateByLayer state.channelStateByLayer := by
  have whole : ∀ {stride : Nat} {values : List V}, values.length = state.batchSize * stride →
      gatherRows stride (List.range state.batchSize) values = values := by
    intro stride values sized
    rw [gatherRows, List.flatMap_def]
    exact row_blocks_flatten sized
  have time : state.timeStateByLayer.map (gatherTimeLayer (List.range state.batchSize)) =
      state.timeStateByLayer := by
    have same : ∀ layer ∈ state.timeStateByLayer,
        gatherTimeLayer (List.range state.batchSize) layer = id layer := by
      intro layer member
      rw [gatherTimeLayer, whole (state.xShifts layer member), whole (state.states layer member)]
      rfl
    rw [List.map_congr_left same, List.map_id]
  have channel : state.channelStateByLayer.map (gatherChannelLayer (List.range state.batchSize)) =
      state.channelStateByLayer := by
    have same : ∀ layer ∈ state.channelStateByLayer,
        gatherChannelLayer (List.range state.batchSize) layer = id layer := by
      intro layer member
      rw [gatherChannelLayer, whole (state.channels layer member)]
      rfl
    rw [List.map_congr_left same, List.map_id]
  rw [BatchedFlatState.gathered, time, channel]

end Batch

theorem select_same (state : BatchedFlatState V) (selectedRows : List Nat) :
    state.select true selectedRows = state.select false selectedRows := by
  unfold BatchedFlatState.select selectBatchedFlatWorkingStateRows
  split
  · rfl
  · by_cases compactable : selectedRowsAreFrontCompactable state.batchSize none selectedRows = true
    · have inside := compactable_inside compactable
      have ascending := (front_compactable_ascending compactable).1
      rw [if_pos ⟨rfl, compactable⟩, if_neg (by simp), select_copies inside]
      exact select_compacts inside ascending
    · rw [if_neg fun both => compactable both.2, if_neg fun both => compactable both.2]

theorem select_gathers (state : BatchedFlatState V) (selectedRows : List Nat) :
    (∀ selected, state.select false selectedRows = .ok selected →
        selected = state.gathered selectedRows) ∧
      ((∃ selected, state.select false selectedRows = .ok selected) ↔
        (state.timeStateByLayer = [] ∧ state.channelStateByLayer = []) ∨
          ∀ row ∈ selectedRows, row < state.batchSize) := by
  unfold BatchedFlatState.select selectBatchedFlatWorkingStateRows
  split
  · rename_i all
    subst all
    rw [gather_all]
    refine ⟨fun selected ran => (Except.ok.inj ran).symm, ?_⟩
    constructor
    · intro _
      exact .inr fun row member => List.mem_range.mp member
    · intro _
      exact ⟨_, rfl⟩
  · rw [if_neg (by simp)]
    by_cases layered : state.timeStateByLayer = [] ∧ state.channelStateByLayer = []
    · obtain ⟨time, channel⟩ := layered
      rw [BatchedFlatState.gathered, time, channel]
      refine ⟨fun selected ran => (Except.ok.inj ran).symm, ?_⟩
      constructor
      · intro _
        exact .inl ⟨rfl, rfl⟩
      · intro _
        exact ⟨_, rfl⟩
    · have some : state.timeStateByLayer ≠ [] ∨ state.channelStateByLayer ≠ [] :=
        not_and_or.mp layered
      constructor
      · intro selected ran
        rw [select_copies (selected_inside some ran)] at ran
        exact (Except.ok.inj ran).symm
      · constructor
        · rintro ⟨selected, ran⟩
          exact .inr (selected_inside some ran)
        · rintro (impossible | inside)
          · exact absurd impossible layered
          · exact ⟨_, select_copies inside⟩

/-- Moving rows and copying them succeed on the same selections and with the same batch, which
holds the selected rows in their order and nothing else. -/
theorem compaction_gathers (state : BatchedFlatState V) (selectedRows : List Nat) :
    state.select true selectedRows = state.select false selectedRows ∧
      (∀ inPlaceStateCompaction selected,
        state.select inPlaceStateCompaction selectedRows = .ok selected →
          selected = state.gathered selectedRows) ∧
      ∀ inPlaceStateCompaction,
        (∃ selected, state.select inPlaceStateCompaction selectedRows = .ok selected) ↔
          (state.timeStateByLayer = [] ∧ state.channelStateByLayer = []) ∨
            ∀ row ∈ selectedRows, row < state.batchSize := by
  have same := select_same state selectedRows
  obtain ⟨gathers, succeeds⟩ := select_gathers state selectedRows
  refine ⟨same, ?_, ?_⟩
  · intro inPlaceStateCompaction
    cases inPlaceStateCompaction with
    | false => exact gathers
    | true =>
        rw [same]
        exact gathers
  · intro inPlaceStateCompaction
    cases inPlaceStateCompaction with
    | false => exact succeeds
    | true =>
        rw [same]
        exact succeeds

/-- Three rows of one layer, each with two channels and one head of size one. -/
def threeRows : BatchedFlatState Nat where
  batchSize := 3
  timeStateByLayer := [⟨[1, 2, 11, 12, 21, 22], [3, 13, 23], 2, 1, 1⟩]
  channelStateByLayer := [⟨[4, 5, 14, 15, 24, 25], 2⟩]
  xShifts := by simp
  states := by simp [stateStride]
  channels := by simp

example : threeRows.select true [0, 2] = .ok (flatBatch [⟨[1, 2, 21, 22], [3, 23], 2, 1, 1⟩]
    [⟨[4, 5, 24, 25], 2⟩]) := by rfl

example : (threeRows.select true [0, 3]).isOk = false := by rfl

end RwkvSrs.StateCompaction
