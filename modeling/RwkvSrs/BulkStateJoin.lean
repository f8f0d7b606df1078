import RwkvSrs.BulkStateBatch

/-!
The batch of some states of one layout, and that every operation on batches
gives what it should for it: a row is the state it was made of, selected rows
are the batch of the selected states whether they are copied or moved, and the
batch made of native states is the batch of their working states.
-/

namespace RwkvSrs.BulkStateJoin

open RwkvSrs.ResultSteps RwkvSrs.ModuleState RwkvSrs.StrideBlocks RwkvSrs.BulkStateBatch

set_option autoImplicit false

section Columns

variable {Shape Layer Target : Type}

/-- One target for every layer, made from the layers all states have there. -/
def overColumns (make : Shape → List Layer → Target) : List Shape → List (List Layer) → List Target
  | [], _ => []
  | shape :: shapes, states =>
      make shape (states.filterMap List.head?) :: overColumns make shapes (states.map List.tail)

def HasShapes (Fits : Shape → Layer → Prop) (shapes : List Shape) (states : List (List Layer)) :
    Prop := ∀ state ∈ states, List.Forall₂ Fits shapes state

variable {Fits : Shape → Layer → Prop} {shape : Shape} {shapes : List Shape}
  {states : List (List Layer)}

theorem columns_cons (fitted : HasShapes Fits (shape :: shapes) states) :
    ∃ heads, states.filterMap List.head? = heads ∧ heads.length = states.length ∧
      (∀ layer ∈ heads, Fits shape layer) ∧ HasShapes Fits shapes (states.map List.tail) ∧
      ∀ (i : Nat) state, states[i]? = some state → ∃ layer rest, state = layer :: rest ∧
        heads[i]? = some layer ∧ (states.map List.tail)[i]? = some rest := by
  induction states with
  | nil => exact ⟨[], rfl, rfl, by simp, by simp [HasShapes], by simp⟩
  | cons state states ih =>
      obtain ⟨heads, same, count, fits, tails, each⟩ := ih
        fun other member => fitted other (List.mem_cons_of_mem _ member)
      have first := fitted state (by simp)
      cases first with
      | @cons _ layer _ rest fit later =>
          refine ⟨layer :: heads, by simp [same], by simp [count], ?_, ?_, ?_⟩
          · intro other member
            rcases List.mem_cons.mp member with here | there
            · exact here ▸ fit
            · exact fits other there
          · intro other member
            rcases List.mem_cons.mp member with here | there
            · exact here ▸ later
            · exact tails other there
          · intro i other found
            cases i with
            | zero =>
                cases found
                exact ⟨layer, rest, rfl, rfl, rfl⟩
            | succ i => exact each i other found

/-- What the targets are made of, column by column. -/
inductive ColumnsMade (Made : Shape → List Layer → Target → Prop) :
    List Shape → List (List Layer) → List Target → Prop
  | nil {states : List (List Layer)} : ColumnsMade Made [] states []
  | cons {shape : Shape} {shapes : List Shape} {states : List (List Layer)} {target : Target}
      {targets : List Target} (made : Made shape (states.filterMap List.head?) target)
      (rest : ColumnsMade Made shapes (states.map List.tail) targets) :
      ColumnsMade Made (shape :: shapes) states (target :: targets)

theorem map_layers_columns {Joined : Type} {join : Shape → List Layer → Joined}
    {convert : Nat → Joined → Except String Target} {Made : Shape → List Layer → Target → Prop}
    (fitted : HasShapes Fits shapes states)
    (works : ∀ i shape column, column.length = states.length → (∀ layer ∈ column, Fits shape layer) →
      ∃ target, convert i (join shape column) = .ok target ∧ Made shape column target)
    (start : Nat) :
    ∃ targets, mapLayers convert start (overColumns join shapes states) = .ok targets ∧
      ColumnsMade Made shapes states targets := by
  induction shapes generalizing states start with
  | nil => exact ⟨[], rfl, .nil⟩
  | cons shape shapes ih =>
      obtain ⟨heads, same, count, fits, tails, _⟩ := columns_cons fitted
      obtain ⟨target, converted, made⟩ := works start shape heads count fits
      obtain ⟨targets, rest, restMade⟩ := ih tails (by simpa using works) (start + 1)
      refine ⟨target :: targets, ?_, .cons (by rw [same]; exact made) restMade⟩
      rw [overColumns, mapLayers, same]
      exact bind_ok.mpr ⟨target, converted, bind_ok.mpr ⟨targets, rest, rfl⟩⟩

theorem columns_made_row {Made : Shape → List Layer → Target → Prop} {targets : List Target}
    (fitted : HasShapes Fits shapes states) (made : ColumnsMade Made shapes states targets)
    {i : Nat} {state : List Layer} (found : states[i]? = some state) :
    List.Forall₂ (fun target layer => ∃ shape column, Made shape column target ∧
      column[i]? = some layer) targets state := by
  induction made generalizing state with
  | nil =>
      have none := fitted state (List.mem_of_getElem? found)
      cases none
      exact .nil
  | @cons shape shapes states target targets headMade _ ih =>
      obtain ⟨heads, same, _, _, tails, each⟩ := columns_cons fitted
      obtain ⟨layer, rest, rfl, here, there⟩ := each i state found
      rw [same] at headMade
      exact .cons ⟨shape, heads, headMade, here⟩ (ih tails there)

theorem selected_columns {heads : List Layer}
    (each : ∀ (i : Nat) state, states[i]? = some state → ∃ layer rest, state = layer :: rest ∧
      heads[i]? = some layer ∧ (states.map List.tail)[i]? = some rest)
    {selectedRows : List Nat} {picked : List (List Layer)}
    (selected : selectedRows.map (fun row => states[row]?) = picked.map some) :
    selectedRows.map (fun row => heads[row]?) = (picked.filterMap List.head?).map some ∧
      selectedRows.map (fun row => (states.map List.tail)[row]?) =
        (picked.map List.tail).map some := by
  induction selectedRows generalizing picked with
  | nil =>
      cases picked with
      | nil => exact ⟨rfl, rfl⟩
      | cons _ _ => cases selected
  | cons row selectedRows ih =>
      cases picked with
      | nil => cases selected
      | cons state picked =>
          simp only [List.map_cons, List.cons.injEq] at selected
          obtain ⟨layer, rest, rfl, here, there⟩ := each row state selected.1
          obtain ⟨one, two⟩ := ih selected.2
          refine ⟨?_, ?_⟩
          · rw [List.map_cons, here, one]
            rfl
          · rw [List.map_cons, there, two]
            rfl

theorem columns_made_selected {join : Shape → List Layer → Target} {targets : List Target}
    {selectedRows : List Nat} (fitted : HasShapes Fits shapes states)
    (made : ColumnsMade (fun shape column target => ∀ picked,
      selectedRows.map (fun row => column[row]?) = picked.map some → target = join shape picked)
      shapes states targets) {picked : List (List Layer)}
    (selected : selectedRows.map (fun row => states[row]?) = picked.map some) :
    targets = overColumns join shapes picked := by
  induction made generalizing picked with
  | nil => rfl
  | @cons shape shapes states target targets headMade _ ih =>
      obtain ⟨heads, same, _, _, tails, each⟩ := columns_cons fitted
      have split := selected_columns each selected
      rw [overColumns, ← ih tails split.2, headMade _ (by rw [same]; exact split.1)]

end Columns

variable {V : Type}

structure TimeShape where
  channels : Nat
  heads : Nat
  headSize : Nat

structure StateLayout where
  time : List TimeShape
  channel : List Nat

def timeLayersOf (state : WorkingState V) : TimeLayers V := state.1.timeStateByLayer

def channelFlatLayersOf (state : WorkingState V) : ChannelLayers V :=
  state.1.channelFlatStateByLayer.getD []

def timeShape (layer : TimeMixerFlatLayerState V) : TimeShape :=
  ⟨layer.channels, layer.heads, layer.headSize⟩

def layoutOf (state : WorkingState V) : StateLayout :=
  ⟨(timeLayersOf state).map timeShape, (channelFlatLayersOf state).map (·.channels)⟩

def joinTime (shape : TimeShape) (layers : TimeLayers V) : TimeMixerFlatLayerState V :=
  ⟨(layers.map (·.xShiftValues)).flatten, (layers.map (·.stateValues)).flatten, shape.channels,
    shape.heads, shape.headSize⟩

def joinChannel (channels : Nat) (layers : ChannelLayers V) : ChannelMixerFlatLayerState V :=
  ⟨(layers.map (·.stateValues)).flatten, channels⟩

def joinedTime (layout : StateLayout) (states : List (WorkingState V)) : TimeLayers V :=
  overColumns joinTime layout.time (states.map timeLayersOf)

def joinedChannel (layout : StateLayout) (states : List (WorkingState V)) : ChannelLayers V :=
  overColumns joinChannel layout.channel (states.map channelFlatLayersOf)

def joinedStates (layout : StateLayout) (states : List (WorkingState V)) :
    BulkWorkingModuleState V := flatBatch (joinedTime layout states) (joinedChannel layout states)

def TimeFits (shape : TimeShape) (layer : TimeMixerFlatLayerState V) : Prop :=
  timeShape layer = shape ∧ layer.WellFormed

def ChannelFits (channels : Nat) (layer : ChannelMixerFlatLayerState V) : Prop :=
  layer.channels = channels ∧ layer.WellFormed

theorem working_flat (state : WorkingState V) :
    state.1 = flatBatch (timeLayersOf state) (channelFlatLayersOf state) := by
  obtain ⟨⟨time, native, flat⟩, wellFormed⟩ := state
  obtain ⟨layers, found, _⟩ := wellFormed.channel
  cases wellFormed.native
  cases found
  rfl

theorem fits_of_map {Layer Shape : Type} {shapeOf : Layer → Shape} {Good : Layer → Prop}
    {layers : List Layer} (good : ∀ layer ∈ layers, Good layer) :
    List.Forall₂ (fun shape layer => shapeOf layer = shape ∧ Good layer) (layers.map shapeOf)
      layers := by
  induction layers with
  | nil => exact .nil
  | cons layer layers ih =>
      exact .cons ⟨rfl, good layer (by simp)⟩
        (ih fun other member => good other (List.mem_cons_of_mem _ member))

section Joined

variable {layout : StateLayout} {states : List (WorkingState V)}

theorem time_shapes (uniform : ∀ state ∈ states, layoutOf state = layout) :
    HasShapes TimeFits layout.time (states.map timeLayersOf) := by
  intro layers member
  obtain ⟨state, within, rfl⟩ := List.mem_map.mp member
  rw [← uniform state within]
  exact fits_of_map state.2.time

theorem channel_shapes (uniform : ∀ state ∈ states, layoutOf state = layout) :
    HasShapes ChannelFits layout.channel (states.map channelFlatLayersOf) := by
  intro layers member
  obtain ⟨state, within, rfl⟩ := List.mem_map.mp member
  rw [← uniform state within]
  apply fits_of_map
  obtain ⟨found, same, good⟩ := state.2.channel
  rw [channelFlatLayersOf, same]
  exact good

end Joined

section Layers

variable {shape : TimeShape} {layers : TimeLayers V} {channels : Nat} {flats : ChannelLayers V}

theorem sized_map {Layer : Type} {values : Layer → List V} {stride : Nat} {column : List Layer}
    (each : ∀ layer ∈ column, (values layer).length = stride) : Sized stride (column.map values) := by
  intro block member
  obtain ⟨layer, within, rfl⟩ := List.mem_map.mp member
  exact each layer within

theorem time_sized (fits : ∀ layer ∈ layers, TimeFits shape layer) :
    Sized shape.channels (layers.map (·.xShiftValues)) ∧
      Sized (shape.heads * shape.headSize * shape.headSize) (layers.map (·.stateValues)) := by
  constructor
  · apply sized_map
    intro layer member
    obtain ⟨rfl, x, _, _⟩ := fits layer member
    exact x
  · apply sized_map
    intro layer member
    obtain ⟨rfl, _, state, _⟩ := fits layer member
    exact state

theorem channel_sized (fits : ∀ layer ∈ flats, ChannelFits channels layer) :
    Sized channels (flats.map (·.stateValues)) := by
  apply sized_map
  intro layer member
  obtain ⟨rfl, good⟩ := fits layer member
  exact good

theorem slice_row {Layer : Type} {values : Layer → List V} {stride : Nat} {column : List Layer}
    (sized : Sized stride (column.map values)) {i : Nat} {layer : Layer}
    (found : column[i]? = some layer) :
    slice (column.map values).flatten (i * stride) stride = values layer := by
  obtain ⟨inside, same⟩ := List.getElem?_eq_some_iff.mp found
  rw [slice_block sized (by simpa using inside), List.getElem_map, same]

end Layers

section Rows

variable {layout : StateLayout} {states : List (WorkingState V)}

theorem joined_time_lengths {shape : TimeShape} {layers : TimeLayers V}
    (fits : ∀ layer ∈ layers, TimeFits shape layer) :
    (joinTime shape layers).xShiftValues.length =
        layers.length * (joinTime shape layers).channels ∧
      (joinTime shape layers).stateValues.length =
        layers.length * stateStride (joinTime shape layers) := by
  obtain ⟨x, state⟩ := time_sized fits
  have xLength := flatten_length x
  have stateLength := flatten_length state
  rw [List.length_map] at xLength stateLength
  exact ⟨xLength, stateLength⟩

theorem joined_channel_length {channels : Nat} {layers : ChannelLayers V}
    (fits : ∀ layer ∈ layers, ChannelFits channels layer) :
    (joinChannel channels layers).stateValues.length =
      layers.length * (joinChannel channels layers).channels := by
  have length := flatten_length (channel_sized fits)
  rw [List.length_map] at length
  exact length

theorem time_row_ok {shape : TimeShape} {layers : TimeLayers V}
    (fits : ∀ layer ∈ layers, TimeFits shape layer) {i : Nat} (inside : i < layers.length)
    (layerIndex : Nat) : timeLayerBatchRow i layers.length layerIndex (joinTime shape layers) =
      .ok layers[i] := by
  obtain ⟨x, state⟩ := joined_time_lengths fits
  obtain ⟨xSized, stateSized⟩ := time_sized fits
  have found : layers[i]? = some layers[i] := List.getElem?_eq_getElem inside
  obtain ⟨same, _⟩ := fits layers[i] (List.getElem_mem inside)
  have xRow := slice_row xSized found
  have stateRow := slice_row stateSized found
  rw [timeLayerBatchRow, if_neg (not_not.mpr x), if_neg (not_not.mpr state)]
  congr 1
  rw [joinTime, stateStride, xRow, stateRow, ← same]
  rfl

theorem channel_row_ok {channels : Nat} {layers : ChannelLayers V}
    (fits : ∀ layer ∈ layers, ChannelFits channels layer) {i : Nat} (inside : i < layers.length)
    (layerIndex : Nat) :
    channelLayerBatchRow i layers.length layerIndex (joinChannel channels layers) =
      .ok layers[i] := by
  have length := joined_channel_length fits
  have found : layers[i]? = some layers[i] := List.getElem?_eq_getElem inside
  obtain ⟨same, _⟩ := fits layers[i] (List.getElem_mem inside)
  have row := slice_row (channel_sized fits) found
  rw [channelLayerBatchRow, if_neg (not_not.mpr length)]
  congr 1
  rw [joinChannel, row, ← same]

/-- Layers that are all of one column are the state they were taken from. -/
theorem row_of_columns {Shape Layer : Type} {Fits : Shape → Layer → Prop} {shapes : List Shape}
    {columns : List (List Layer)} {targets state : List Layer} {i : Nat}
    (fitted : HasShapes Fits shapes columns)
    (made : ColumnsMade (fun _ column target => column[i]? = some target) shapes columns targets)
    (found : columns[i]? = some state) : targets = state := by
  have pairs := columns_made_row fitted made found
  clear made found
  induction pairs with
  | nil => rfl
  | cons head _ ih =>
      obtain ⟨_, _, one, two⟩ := head
      rw [one] at two
      cases two
      rw [ih]

theorem joined_batch_row (uniform : ∀ state ∈ states, layoutOf state = layout) {i : Nat}
    {state : WorkingState V} (found : states[i]? = some state) :
    flatWorkingModuleStateBatchRow (joinedTime layout states) (joinedChannel layout states) i
      states.length = .ok state.1 := by
  obtain ⟨inside, _⟩ := List.getElem?_eq_some_iff.mp found
  have timeWorks : ∀ layerIndex shape (column : TimeLayers V), column.length = (states.map timeLayersOf).length →
      (∀ layer ∈ column, TimeFits shape layer) → ∃ target,
        timeLayerBatchRow i states.length layerIndex (joinTime shape column) = .ok target ∧
          column[i]? = some target := by
    intro layerIndex shape column count fits
    rw [List.length_map] at count
    refine ⟨column[i], ?_, List.getElem?_eq_getElem (by omega)⟩
    rw [← count]
    exact time_row_ok fits (by omega) layerIndex
  have channelWorks : ∀ layerIndex channels (column : ChannelLayers V),
      column.length = (states.map channelFlatLayersOf).length →
      (∀ layer ∈ column, ChannelFits channels layer) → ∃ target,
        channelLayerBatchRow i states.length layerIndex (joinChannel channels column) = .ok target ∧
          column[i]? = some target := by
    intro layerIndex channels column count fits
    rw [List.length_map] at count
    refine ⟨column[i], ?_, List.getElem?_eq_getElem (by omega)⟩
    rw [← count]
    exact channel_row_ok fits (by omega) layerIndex
  have timeFitted := time_shapes uniform
  have channelFitted := channel_shapes uniform
  obtain ⟨timeLayers, time, timeMade⟩ := map_layers_columns timeFitted timeWorks 0
  obtain ⟨channelLayers, channel, channelMade⟩ := map_layers_columns channelFitted channelWorks 0
  have timeRow := row_of_columns timeFitted timeMade (by rw [List.getElem?_map, found]; rfl)
  have channelRow := row_of_columns channelFitted channelMade
    (by rw [List.getElem?_map, found]; rfl)
  have row : state.1 = flatBatch timeLayers channelLayers := by
    rw [timeRow, channelRow, working_flat state]
  rw [row]
  exact bind_ok.mpr ⟨timeLayers, time, bind_ok.mpr ⟨channelLayers, channel, rfl⟩⟩

end Rows

section Selection

variable {layout : StateLayout} {states picked : List (WorkingState V)} {selectedRows : List Nat}

theorem rows_inside {Item : Type} {items picked : List Item}
    (selected : selectedRows.map (fun row => items[row]?) = picked.map some) :
    ∀ row ∈ selectedRows, row < items.length := by
  intro row member
  have found : items[row]? ∈ picked.map some := by
    rw [← selected]
    exact List.mem_map_of_mem member
  obtain ⟨item, _, same⟩ := List.mem_map.mp found
  exact (List.getElem?_eq_some_iff.mp same.symm).1

theorem selected_map {Item Other : Type} (project : Item → Other) {items picked : List Item}
    (selected : selectedRows.map (fun row => items[row]?) = picked.map some) :
    selectedRows.map (fun row => (items.map project)[row]?) = (picked.map project).map some := by
  have projected := congrArg (List.map (Option.map project)) selected
  simpa [List.map_map, Function.comp_def] using projected

theorem copy_selected_ok {batchSize stride : Nat} {blocks parts : List (List V)}
    (sized : Sized stride blocks) (count : blocks.length = batchSize)
    (selected : selectedRows.map (fun row => blocks[row]?) = parts.map some) :
    copySelected batchSize stride selectedRows blocks.flatten = .ok parts.flatten := by
  have taken : selectedRows.mapM (fun row =>
      if row ≥ batchSize then Except.error (selectedRowOutside row batchSize)
      else .ok (slice blocks.flatten (row * stride) stride)) = .ok parts := by
    induction selectedRows generalizing parts with
    | nil =>
        cases parts with
        | nil => rfl
        | cons _ _ => cases selected
    | cons row selectedRows ih =>
        cases parts with
        | nil => cases selected
        | cons part parts =>
            simp only [List.map_cons, List.cons.injEq] at selected
            obtain ⟨inside, same⟩ := List.getElem?_eq_some_iff.mp selected.1
            rw [List.mapM_cons, if_neg (by omega), slice_block sized inside, same]
            exact bind_ok.mpr ⟨part, rfl, bind_ok.mpr ⟨parts, ih selected.2, rfl⟩⟩
  exact bind_ok.mpr ⟨parts, taken, rfl⟩

theorem compact_values_ok {batchSize stride : Nat} {blocks parts : List (List V)}
    (sized : Sized stride blocks) (count : blocks.length = batchSize)
    (ascending : selectedRows.Pairwise (· < ·))
    (selected : selectedRows.map (fun row => blocks[row]?) = parts.map some)
    (layerKind : String) (layerIndex : Nat) (valueKind : String) :
    compactFlatStateValuesInPlace blocks.flatten batchSize stride selectedRows layerKind layerIndex
      valueKind = .ok parts.flatten := by
  have inside := rows_inside selected
  have length := flatten_length sized
  rw [count] at length
  have none : selectedRows.find? (· ≥ batchSize) = none := by
    apply List.find?_eq_none.mpr
    intro row member
    have := inside row member
    simp
    omega
  rw [compactFlatStateValuesInPlace, if_neg (not_not.mpr length), none]
  simp only [move_selected_front sized inside ascending selected]

theorem front_compactable_ascending {batchSize : Nat} {previous : Option Nat}
    (compactable : selectedRowsAreFrontCompactable batchSize previous selectedRows = true) :
    selectedRows.Pairwise (· < ·) ∧ ∀ first, previous = some first → ∀ row ∈ selectedRows,
      first < row := by
  induction selectedRows generalizing previous with
  | nil => exact ⟨List.Pairwise.nil, by simp⟩
  | cons row selectedRows ih =>
      rw [selectedRowsAreFrontCompactable] at compactable
      split at compactable
      · cases compactable
      · rename_i valid
        obtain ⟨ascending, after⟩ := ih compactable
        refine ⟨List.pairwise_cons.mpr ⟨after row rfl, ascending⟩, ?_⟩
        rintro first rfl other member
        have ahead : first < row := by
          simp at valid
          omega
        rcases List.mem_cons.mp member with here | there
        · omega
        · exact Nat.lt_trans ahead (after row rfl other there)

theorem time_picked {shape : TimeShape} {column chosen : TimeLayers V} {batchSize : Nat}
    (fits : ∀ layer ∈ column, TimeFits shape layer) (count : column.length = batchSize)
    (chosenRows : selectedRows.map (fun row => column[row]?) = chosen.map some) (layerIndex : Nat) :
    selectTimeLayer batchSize selectedRows layerIndex (joinTime shape column) =
        .ok (joinTime shape chosen) ∧
      (selectedRows.Pairwise (· < ·) →
        compactTimeLayer batchSize selectedRows layerIndex (joinTime shape column) =
          .ok (joinTime shape chosen)) := by
  obtain ⟨x, state⟩ := joined_time_lengths fits
  obtain ⟨xSized, stateSized⟩ := time_sized fits
  rw [count] at x state
  constructor
  · rw [selectTimeLayer, if_neg (not_or.mpr ⟨not_not.mpr x, not_not.mpr state⟩)]
    apply bind_ok.mpr ⟨_, copy_selected_ok xSized (by simpa) (selected_map _ chosenRows), ?_⟩
    exact bind_ok.mpr ⟨_, copy_selected_ok stateSized (by simpa) (selected_map _ chosenRows), rfl⟩
  · intro ascending
    apply bind_ok.mpr ⟨_, compact_values_ok xSized (by simpa) ascending
      (selected_map _ chosenRows) _ _ _, ?_⟩
    exact bind_ok.mpr ⟨_, compact_values_ok stateSized (by simpa) ascending
      (selected_map _ chosenRows) _ _ _, rfl⟩

theorem channel_picked {channels : Nat} {column chosen : ChannelLayers V} {batchSize : Nat}
    (fits : ∀ layer ∈ column, ChannelFits channels layer) (count : column.length = batchSize)
    (chosenRows : selectedRows.map (fun row => column[row]?) = chosen.map some) (layerIndex : Nat) :
    selectChannelLayer batchSize selectedRows layerIndex (joinChannel channels column) =
        .ok (joinChannel channels chosen) ∧
      (selectedRows.Pairwise (· < ·) →
        compactChannelLayer batchSize selectedRows layerIndex (joinChannel channels column) =
          .ok (joinChannel channels chosen)) := by
  have length := joined_channel_length fits
  have sized := channel_sized fits
  rw [count] at length
  constructor
  · rw [selectChannelLayer, if_neg (not_not.mpr length)]
    exact bind_ok.mpr ⟨_, copy_selected_ok sized (by simpa) (selected_map _ chosenRows), rfl⟩
  · intro ascending
    exact bind_ok.mpr ⟨_, compact_values_ok sized (by simpa) ascending
      (selected_map _ chosenRows) _ _ _, rfl⟩

theorem chosen_rows {Item : Type} {items : List Item}
    (inside : ∀ row ∈ selectedRows, row < items.length) :
    ∃ chosen : List Item, selectedRows.map (fun row => items[row]?) = chosen.map some := by
  induction selectedRows with
  | nil => exact ⟨[], rfl⟩
  | cons row selectedRows ih =>
      obtain ⟨chosen, same⟩ := ih fun other member => inside other (List.mem_cons_of_mem _ member)
      have first := inside row (by simp)
      refine ⟨items[row] :: chosen, ?_⟩
      rw [List.map_cons, same, List.getElem?_eq_getElem first]
      rfl

/-- A loop over joined layers that picks the selected rows of each picks them of the states. -/
theorem layers_selected {Shape Layer : Type} {Fits : Shape → Layer → Prop}
    {join : Shape → List Layer → Layer} {convert : Nat → Layer → Except String Layer}
    {shapes : List Shape} {columns picked : List (List Layer)}
    (fitted : HasShapes Fits shapes columns)
    (works : ∀ i shape column chosen, column.length = columns.length →
      (∀ layer ∈ column, Fits shape layer) →
      selectedRows.map (fun row => column[row]?) = chosen.map some →
      convert i (join shape column) = .ok (join shape chosen))
    (selected : selectedRows.map (fun row => columns[row]?) = picked.map some) :
    mapLayers convert 0 (overColumns join shapes columns) = .ok (overColumns join shapes picked) := by
  have inside := rows_inside selected
  have each : ∀ i shape column, column.length = columns.length →
      (∀ layer ∈ column, Fits shape layer) → ∃ target, convert i (join shape column) = .ok target ∧
        ∀ chosen, selectedRows.map (fun row => column[row]?) = chosen.map some →
          target = join shape chosen := by
    intro i shape column count fits
    obtain ⟨chosen, rows⟩ := chosen_rows fun row member => count ▸ inside row member
    refine ⟨join shape chosen, works i shape column chosen count fits rows, ?_⟩
    intro other same
    have equal := List.map_injective_iff.mpr (fun _ _ => Option.some.inj) (rows.symm.trans same)
    rw [equal]
  obtain ⟨targets, run, made⟩ := map_layers_columns fitted each 0
  rw [run, columns_made_selected fitted made selected]

theorem range_selected {Item : Type} {items picked : List Item}
    (selected : (List.range items.length).map (fun row => items[row]?) = picked.map some) :
    picked = items := by
  have whole : (List.range items.length).map (fun row => items[row]?) = items.map some := by
    apply List.ext_getElem (by simp)
    intro i _ _
    simp
  exact List.map_injective_iff.mpr (fun _ _ => Option.some.inj) (selected.symm.trans whole)

theorem joined_selected (uniform : ∀ state ∈ states, layoutOf state = layout)
    (inPlaceStateCompaction : Bool)
    (selected : selectedRows.map (fun row => states[row]?) = picked.map some) :
    selectBatchedFlatWorkingStateRows inPlaceStateCompaction (joinedTime layout states)
      (joinedChannel layout states) states.length selectedRows =
        .ok (joinedStates layout picked) := by
  have timeFitted := time_shapes uniform
  have channelFitted := channel_shapes uniform
  have timeSelected := selected_map timeLayersOf selected
  have channelSelected := selected_map channelFlatLayersOf selected
  unfold selectBatchedFlatWorkingStateRows
  split
  · rename_i all
    subst all
    rw [range_selected selected]
    rfl
  · split
    · rename_i compactable
      have ascending := (front_compactable_ascending compactable.2).1
      have time := layers_selected timeFitted (fun i shape column chosen count fits rows =>
        (time_picked fits (by simpa using count) rows i).2 ascending) timeSelected
      have channel := layers_selected channelFitted (fun i shape column chosen count fits rows =>
        (channel_picked fits (by simpa using count) rows i).2 ascending) channelSelected
      exact bind_ok.mpr ⟨_, time, bind_ok.mpr ⟨_, channel, rfl⟩⟩
    · have time := layers_selected timeFitted (fun i shape column chosen count fits rows =>
        (time_picked fits (by simpa using count) rows i).1) timeSelected
      have channel := layers_selected channelFitted (fun i shape column chosen count fits rows =>
        (channel_picked fits (by simpa using count) rows i).1) channelSelected
      exact bind_ok.mpr ⟨_, time, bind_ok.mpr ⟨_, channel, rfl⟩⟩

end Selection

end RwkvSrs.BulkStateJoin
