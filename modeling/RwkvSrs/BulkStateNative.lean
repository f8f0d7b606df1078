import RwkvSrs.BulkStateJoin
import RwkvSrs.PipelineStages

/-!
Batches on the side of the native states: the batch made of native states is
the one of their working states, and the views of a batch are the native states
of its rows.
-/

namespace RwkvSrs.BulkStateNative

open RwkvSrs.ResultSteps RwkvSrs.ModuleState RwkvSrs.StrideBlocks RwkvSrs.BulkStateBatch
open RwkvSrs.BulkStateJoin RwkvSrs.PipelineStages

set_option autoImplicit false

variable {V : Type}

/-- What `native_module_state_from_parts` checks of every state that enters the runtime. -/
structure LayersMatch (native : NativeRnnModuleState V) : Prop where
  recurrent : native.timeStateB1hkkByLayer.length = native.timeXShiftB1cByLayer.length
  channel : native.channelStateB1cByLayer.length = native.timeXShiftB1cByLayer.length

theorem to_working_ok {native : NativeRnnModuleState V} {state : WorkingState V}
    (converted : toWorking native = .ok state) :
    flatWorkingModuleStateFromNative native true = .ok state.1 := by
  unfold toWorking at converted
  split at converted
  · rename_i found same
    cases converted
    exact same
  · cases converted

theorem map_layers_length {Source Target : Type} {convert : Nat → Source → Except String Target}
    {start : Nat} {layers : List Source} {targets : List Target}
    (converted : mapLayers convert start layers = .ok targets) : targets.length = layers.length := by
  induction layers generalizing start targets with
  | nil =>
      cases converted
      rfl
  | cons layer layers ih =>
      obtain ⟨target, _, rest⟩ := bind_ok.mp converted
      obtain ⟨later, mapped, same⟩ := bind_ok.mp rest
      cases same
      rw [List.length_cons, List.length_cons, ih mapped]

section Gather

variable {State Layer Shape : Type} {mixer : String} {fits : Layer → Bool}
  {layersOf : State → Except String (List Layer)} {list : State → List Layer}

theorem mapped_column {layerIndex start : Nat} {states : List State} {column : List Layer}
    {gather : State × Nat → Except String Layer}
    (found : states.map (fun state => (list state)[layerIndex]?) = column.map some)
    (gathers : ∀ state ∈ states, ∀ layer ∈ column, (list state)[layerIndex]? = some layer →
      ∀ index, gather (state, index) = .ok layer) :
    (states.zipIdx start).mapM gather = .ok column := by
  induction states generalizing column start with
  | nil =>
      cases column with
      | nil => rfl
      | cons _ _ => cases found
  | cons state states ih =>
      cases column with
      | nil => cases found
      | cons layer column =>
          simp only [List.map_cons, List.cons.injEq] at found
          rw [List.zipIdx_cons, List.mapM_cons]
          have first := gathers state (by simp) layer (by simp) found.1 start
          have later : (states.zipIdx (start + 1)).mapM gather = .ok column := by
            apply ih found.2
            intro other member others among
            exact gathers other (List.mem_cons_of_mem _ member) others
              (List.mem_cons_of_mem _ among)
          exact bind_ok.mpr ⟨layer, first, bind_ok.mpr ⟨column, later, rfl⟩⟩

theorem gather_column {layerIndex : Nat} {states : List State} {column : List Layer}
    (read : ∀ state ∈ states, layersOf state = .ok (list state))
    (found : states.map (fun state => (list state)[layerIndex]?) = column.map some)
    (fit : ∀ layer ∈ column, fits layer = true) :
    gatherLayers mixer layersOf fits layerIndex states = .ok column := by
  apply mapped_column found
  intro state member layer among here index
  dsimp only
  rw [read state member]
  simp [bind, Except.bind, here, fit layer among, pure, Except.pure]

/-- The loop over the first state's layers goes through the columns one after the other. -/
theorem gather_columns {Fits : Shape → Layer → Prop} {join : Shape → List Layer → Layer}
    {fits : Layer → Layer → Bool} {batchLayer : Layer → List Layer → Layer}
    {shapes : List Shape} {states : List State} {first : State}
    (read : ∀ state ∈ states, layersOf state = .ok (list state))
    (fit : ∀ shape layer other, Fits shape layer → Fits shape other → fits layer other = true)
    (joined : ∀ shape layer column, Fits shape layer → batchLayer layer column = join shape column)
    (fitted : HasShapes Fits shapes (states.map list)) (member : first ∈ states) :
    mapLayers (fun layerIndex firstLayer => do
      let layers ← gatherLayers mixer layersOf (fits firstLayer) layerIndex states
      return batchLayer firstLayer layers) 0 (list first) =
        .ok (overColumns join shapes (states.map list)) := by
  have onward : ∀ (start : Nat) (shapes : List Shape),
      HasShapes Fits shapes (states.map fun state => (list state).drop start) →
      mapLayers (fun layerIndex firstLayer => do
        let layers ← gatherLayers mixer layersOf (fits firstLayer) layerIndex states
        return batchLayer firstLayer layers) start ((list first).drop start) =
          .ok (overColumns join shapes (states.map fun state => (list state).drop start)) := by
    intro start shapes fitted
    induction shapes generalizing start with
    | nil =>
        have none := fitted _ (List.mem_map_of_mem member)
        cases same : (list first).drop start with
        | nil => rfl
        | cons _ _ =>
            rw [same] at none
            cases none
    | cons shape shapes ih =>
        obtain ⟨heads, same, count, headFits, tails, each⟩ := columns_cons fitted
        have dropped : (states.map fun state => (list state).drop start).map List.tail =
            states.map fun state => (list state).drop (start + 1) := by
          rw [List.map_map]
          apply List.map_congr_left
          intro state _
          simp [List.tail_drop]
        have column : states.map (fun state => (list state)[start]?) = heads.map some := by
          apply List.ext_getElem?
          intro i
          cases found : states[i]? with
          | none =>
              have outside := List.getElem?_eq_none_iff.mp found
              rw [List.length_map] at count
              simp [found, List.getElem?_eq_none_iff.mpr (count ▸ outside)]
          | some state =>
              obtain ⟨layer, rest, split, here, _⟩ := each i ((list state).drop start)
                (by simp [found])
              have at0 : (list state)[start]? = some layer := by
                have := congrArg (fun layers => layers[0]?) split
                simpa using this
              simp [found, at0, here]
        obtain ⟨position, within, sameFirst⟩ := List.getElem_of_mem member
        obtain ⟨layer, rest, split, here, _⟩ := each position ((list first).drop start)
          (by simp [List.getElem?_eq_getElem within, sameFirst])
        have firstFits := headFits layer (List.mem_of_getElem? here)
        have gathered : gatherLayers mixer layersOf (fits layer) start states = .ok heads :=
          gather_column read column fun other otherMember =>
            fit shape layer other firstFits (headFits other otherMember)
        have restDrop : (list first).drop (start + 1) = rest := by
          rw [← List.tail_drop, split]
          rfl
        have later := ih (start + 1) (dropped ▸ tails)
        rw [restDrop] at later
        rw [split, mapLayers, overColumns, same, dropped]
        refine bind_ok.mpr ⟨join shape heads, ?_, bind_ok.mpr ⟨_, later, rfl⟩⟩
        rw [gathered]
        exact congrArg Except.ok (joined shape layer heads firstFits)
  have whole := onward 0 shapes (by simpa using fitted)
  simpa using whole

end Gather

theorem same_time_shape (shape : TimeShape) (layer other : TimeMixerFlatLayerState V)
    (one : TimeFits shape layer) (two : TimeFits shape other) :
    sameTimeShape layer other = true := by
  obtain ⟨rfl, _⟩ := one
  have same := two.1
  simp only [timeShape, TimeShape.mk.injEq] at same
  simp [sameTimeShape, same]

theorem batch_time_layer (shape : TimeShape) (layer : TimeMixerFlatLayerState V)
    (column : TimeLayers V) (fits : TimeFits shape layer) :
    batchTimeLayer layer column = joinTime shape column := by
  obtain ⟨rfl, _⟩ := fits
  simp [batchTimeLayer, joinTime, timeShape, List.flatMap_def]

theorem same_channels (channels : Nat) (layer other : ChannelMixerFlatLayerState V)
    (one : ChannelFits channels layer) (two : ChannelFits channels other) :
    (other.channels = layer.channels : Bool) = true := by
  simp [one.1, two.1]

theorem batch_channel_layer (channels : Nat) (layer : ChannelMixerFlatLayerState V)
    (column : ChannelLayers V) (fits : ChannelFits channels layer) :
    batchChannelLayer layer column = joinChannel channels column := by
  obtain ⟨rfl, _⟩ := fits
  simp [batchChannelLayer, joinChannel, List.flatMap_def]

theorem channel_layers_of_working (state : WorkingState V) :
    channelLayersOf state.1 = .ok (channelFlatLayersOf state) := by
  obtain ⟨layers, found, _⟩ := state.2.channel
  rw [channelLayersOf, channelFlatLayersOf, found]
  rfl

theorem batched_of_native {layout : StateLayout} {natives : List (NativeRnnModuleState V)}
    {states : List (WorkingState V)} (nonempty : natives ≠ [])
    (converted : List.Forall₂ (fun native state => toWorking native = .ok state) natives states)
    (matching : ∀ native ∈ natives, LayersMatch native)
    (uniform : ∀ state ∈ states, layoutOf state = layout) :
    batchedFlatWorkingModuleStateFromNative natives = .ok (joinedStates layout states) := by
  have flats : natives.mapM (flatWorkingModuleStateFromNative · true) =
      .ok (states.map Subtype.val) := by
    clear nonempty matching uniform
    induction converted with
    | nil => rfl
    | cons first _ ih =>
        rw [List.mapM_cons]
        exact bind_ok.mpr ⟨_, to_working_ok first, bind_ok.mpr ⟨_, ih, rfl⟩⟩
  cases converted with
  | nil => exact absurd rfl nonempty
  | @cons native state natives states first rest =>
      have head := matching native (by simp)
      have member : state.1 ∈ (state :: states).map Subtype.val := by simp
      have timeColumns : ((state :: states).map Subtype.val).map
          BulkWorkingModuleState.timeStateByLayer = (state :: states).map timeLayersOf := by
        rw [List.map_map]
        rfl
      have channelColumns : ((state :: states).map Subtype.val).map
          (fun flat : BulkWorkingModuleState V => flat.channelFlatStateByLayer.getD []) =
            (state :: states).map channelFlatLayersOf := by
        rw [List.map_map]
        rfl
      have time : mapLayers (fun layerIndex firstLayer => do
          let layers ← gatherLayers "TimeMixer"
            (fun flat : BulkWorkingModuleState V => .ok flat.timeStateByLayer)
            (sameTimeShape firstLayer) layerIndex ((state :: states).map Subtype.val)
          return batchTimeLayer firstLayer layers) 0 state.1.timeStateByLayer =
            .ok (joinedTime layout (state :: states)) := by
        rw [joinedTime, ← timeColumns]
        exact gather_columns (fun _ _ => rfl) same_time_shape batch_time_layer
          (timeColumns ▸ time_shapes uniform) member
      have channel : mapLayers (fun layerIndex firstLayer => do
          let layers ← gatherLayers "ChannelMixer" channelLayersOf
            (fun layer => layer.channels = firstLayer.channels) layerIndex
            ((state :: states).map Subtype.val)
          return batchChannelLayer firstLayer layers) 0 (channelFlatLayersOf state) =
            .ok (joinedChannel layout (state :: states)) := by
        have read : ∀ flat ∈ (state :: states).map Subtype.val,
            channelLayersOf flat = .ok (flat.channelFlatStateByLayer.getD []) := by
          intro flat within
          obtain ⟨working, _, rfl⟩ := List.mem_map.mp within
          exact channel_layers_of_working working
        rw [joinedChannel, ← channelColumns]
        exact gather_columns read same_channels batch_channel_layer
          (channelColumns ▸ channel_shapes uniform) member
      simp only [batchedFlatWorkingModuleStateFromNative]
      rw [if_neg (by simp [head.recurrent, head.channel])]
      refine bind_ok.mpr ⟨_, flats, ?_⟩
      refine bind_ok.mpr ⟨_, time, ?_⟩
      refine bind_ok.mpr ⟨_, channel_layers_of_working state, ?_⟩
      exact bind_ok.mpr ⟨_, channel, rfl⟩

/-- Row `i` of the two tensors of a layer is the native form of the state's layer. -/
def TimeViews (_ : TimeShape) (column : TimeLayers V) (tensors : Tensor V × Tensor V) : Prop :=
  ∀ i layer, column[i]? = some layer → ∃ x state, narrowFirst i tensors.1 = .ok x ∧
    narrowFirst i tensors.2 = .ok state ∧ ∀ j, timeLayerToNative j layer = .ok (x, state)

def ChannelViews (_ : Nat) (column : ChannelLayers V) (tensor : Tensor V) : Prop :=
  ∀ i layer, column[i]? = some layer → ∃ state, narrowFirst i tensor = .ok state ∧
    ∀ j, channelLayerToNative j layer = .ok state

/-- The view of one row of stacked blocks. -/
theorem narrow_row {Layer : Type} {values : Layer → List V} {rest : List Nat} {column : List Layer}
    (sized : Sized rest.prod (column.map values))
    (total : (column.map values).flatten.length = (column.length :: rest).prod) {i : Nat}
    {layer : Layer} (found : column[i]? = some layer) :
    narrowFirst i ⟨column.length :: rest, (column.map values).flatten, total⟩ =
      Tensor.fromVec (values layer) (1 :: rest) := by
  obtain ⟨inside, _⟩ := List.getElem?_eq_some_iff.mp found
  simp only [narrowFirst]
  rw [if_neg (by omega), slice_row sized found]

theorem time_views {shape : TimeShape} {column : TimeLayers V}
    (fits : ∀ layer ∈ column, TimeFits shape layer) (layerIndex : Nat) :
    ∃ tensors, batchTimeTensors column.length layerIndex (joinTime shape column) = .ok tensors ∧
      TimeViews shape column tensors := by
  obtain ⟨x, state⟩ := joined_time_lengths fits
  obtain ⟨xSized, stateSized⟩ := time_sized fits
  have xRest : Sized [1, shape.channels].prod
      (column.map TimeMixerFlatLayerState.xShiftValues) := by simpa using xSized
  have stateRest : Sized [1, shape.heads, shape.headSize, shape.headSize].prod
      (column.map TimeMixerFlatLayerState.stateValues) := by
    simpa [Nat.mul_assoc] using stateSized
  have xTotal : (column.map TimeMixerFlatLayerState.xShiftValues).flatten.length =
      (column.length :: [1, shape.channels]).prod := by
    rw [List.prod_cons, flatten_length xRest, List.length_map]
  have stateTotal : (column.map TimeMixerFlatLayerState.stateValues).flatten.length =
      (column.length :: [1, shape.heads, shape.headSize, shape.headSize]).prod := by
    rw [List.prod_cons, flatten_length stateRest, List.length_map]
  refine ⟨(⟨_, _, xTotal⟩, ⟨_, _, stateTotal⟩), ?_, ?_⟩
  · rw [batchTimeTensors, if_neg (not_not.mpr x), if_neg (not_not.mpr state)]
    exact bind_ok.mpr ⟨_, from_vec_ok xTotal, bind_ok.mpr ⟨_, from_vec_ok stateTotal, rfl⟩⟩
  · intro i layer found
    obtain ⟨rfl, xLength, stateLength, _⟩ := fits layer (List.mem_of_getElem? found)
    have xOne : layer.xShiftValues.length = [1, 1, layer.channels].prod := by simp [xLength]
    have stateOne : layer.stateValues.length =
        [1, 1, layer.heads, layer.headSize, layer.headSize].prod := by
      simp [stateLength, Nat.mul_assoc]
    refine ⟨⟨_, _, xOne⟩, ⟨_, _, stateOne⟩, ?_, ?_, ?_⟩
    · rw [narrow_row xRest xTotal found]
      exact from_vec_ok xOne
    · rw [narrow_row stateRest stateTotal found]
      exact from_vec_ok stateOne
    · intro j
      rw [timeLayerToNative, if_neg (not_not.mpr xLength), if_neg (not_not.mpr stateLength)]
      exact bind_ok.mpr ⟨_, from_vec_ok xOne, bind_ok.mpr ⟨_, from_vec_ok stateOne, rfl⟩⟩

theorem channel_views {channels : Nat} {column : ChannelLayers V}
    (fits : ∀ layer ∈ column, ChannelFits channels layer) (layerIndex : Nat) :
    ∃ tensor, batchChannelTensor column.length layerIndex (joinChannel channels column) =
        .ok tensor ∧ ChannelViews channels column tensor := by
  have length := joined_channel_length fits
  have rest : Sized [1, channels].prod
      (column.map ChannelMixerFlatLayerState.stateValues) := by simpa using channel_sized fits
  have total : (column.map ChannelMixerFlatLayerState.stateValues).flatten.length =
      (column.length :: [1, channels]).prod := by
    rw [List.prod_cons, flatten_length rest, List.length_map]
  refine ⟨⟨_, _, total⟩, ?_, ?_⟩
  · rw [batchChannelTensor, if_neg (not_not.mpr length)]
    exact from_vec_ok total
  · intro i layer found
    obtain ⟨rfl, stateLength⟩ := fits layer (List.mem_of_getElem? found)
    have count : layer.stateValues.length = layer.channels := stateLength
    have one : layer.stateValues.length = [1, 1, layer.channels].prod := by simp [count]
    refine ⟨⟨_, _, one⟩, ?_, ?_⟩
    · rw [narrow_row rest total found]
      exact from_vec_ok one
    · intro j
      rw [channelLayerToNative, if_neg (not_not.mpr count)]
      exact from_vec_ok one

theorem time_rows_viewed {i : Nat} {tensors : List (Tensor V × Tensor V)} {layers : TimeLayers V}
    (rows : List.Forall₂ (fun pair layer => ∃ x state, narrowFirst i pair.1 = .ok x ∧
      narrowFirst i pair.2 = .ok state ∧ ∀ j, timeLayerToNative j layer = .ok (x, state))
      tensors layers) (start : Nat) :
    ∃ xs states, tensors.mapM (fun layer => narrowFirst i layer.1) = .ok xs ∧
      tensors.mapM (fun layer => narrowFirst i layer.2) = .ok states ∧
      mapLayers timeLayerToNative start layers = .ok (xs.zip states) ∧
      xs.length = states.length := by
  induction rows generalizing start with
  | nil => exact ⟨[], [], rfl, rfl, rfl, rfl⟩
  | cons first _ ih =>
      obtain ⟨x, state, one, two, native⟩ := first
      obtain ⟨xs, states, ones, twos, natives, count⟩ := ih (start + 1)
      refine ⟨x :: xs, state :: states, ?_, ?_, ?_, by simp [count]⟩
      · rw [List.mapM_cons]
        exact bind_ok.mpr ⟨x, one, bind_ok.mpr ⟨xs, ones, rfl⟩⟩
      · rw [List.mapM_cons]
        exact bind_ok.mpr ⟨state, two, bind_ok.mpr ⟨states, twos, rfl⟩⟩
      · exact bind_ok.mpr ⟨_, native start, bind_ok.mpr ⟨_, natives, rfl⟩⟩

theorem channel_rows_viewed {i : Nat} {tensors : List (Tensor V)} {layers : ChannelLayers V}
    (rows : List.Forall₂ (fun tensor layer => ∃ state, narrowFirst i tensor = .ok state ∧
      ∀ j, channelLayerToNative j layer = .ok state) tensors layers) (start : Nat) :
    ∃ states, tensors.mapM (narrowFirst i) = .ok states ∧
      mapLayers channelLayerToNative start layers = .ok states := by
  induction rows generalizing start with
  | nil => exact ⟨[], rfl, rfl⟩
  | cons first _ ih =>
      obtain ⟨state, one, native⟩ := first
      obtain ⟨states, ones, natives⟩ := ih (start + 1)
      refine ⟨state :: states, ?_, ?_⟩
      · rw [List.mapM_cons]
        exact bind_ok.mpr ⟨state, one, bind_ok.mpr ⟨states, ones, rfl⟩⟩
      · exact bind_ok.mpr ⟨state, native start, bind_ok.mpr ⟨states, natives, rfl⟩⟩

theorem view_of_rows {state : WorkingState V} {i : Nat}
    {timeTensors : List (Tensor V × Tensor V)} {channelTensors : List (Tensor V)}
    (time : List.Forall₂ (fun pair layer => ∃ x state, narrowFirst i pair.1 = .ok x ∧
      narrowFirst i pair.2 = .ok state ∧ ∀ j, timeLayerToNative j layer = .ok (x, state))
      timeTensors (timeLayersOf state))
    (channel : List.Forall₂ (fun tensor layer => ∃ state, narrowFirst i tensor = .ok state ∧
      ∀ j, channelLayerToNative j layer = .ok state) channelTensors (channelFlatLayersOf state)) :
    nativeStateView timeTensors channelTensors i = toNative state := by
  obtain ⟨xs, recurrents, ones, twos, natives, count⟩ := time_rows_viewed time 0
  obtain ⟨views, narrowed, converted⟩ := channel_rows_viewed channel 0
  have viewed : nativeStateView timeTensors channelTensors i = .ok ⟨xs, recurrents, views⟩ :=
    bind_ok.mpr ⟨xs, ones, bind_ok.mpr ⟨recurrents, twos, bind_ok.mpr ⟨views, narrowed, rfl⟩⟩⟩
  have native : toNative state = .ok ⟨xs, recurrents, views⟩ := by
    rw [toNative, working_flat state]
    refine bind_ok.mpr ⟨_, natives, bind_ok.mpr ⟨views, converted, ?_⟩⟩
    rw [List.map_fst_zip (Nat.le_of_eq count), List.map_snd_zip (Nat.le_of_eq count.symm)]
    rfl
  rw [viewed, native]

theorem native_views {layout : StateLayout} {states : List (WorkingState V)}
    {natives : List (NativeRnnModuleState V)}
    (uniform : ∀ state ∈ states, layoutOf state = layout)
    (converted : List.Forall₂ (fun state native => toNative state = .ok native) states natives) :
    nativeModuleStatesFromBatchedFlatWorking (joinedTime layout states)
      (joinedChannel layout states) states.length = .ok natives := by
  have timeFitted := time_shapes uniform
  have channelFitted := channel_shapes uniform
  have timeWorks : ∀ layerIndex shape (column : TimeLayers V),
      column.length = (states.map timeLayersOf).length → (∀ layer ∈ column, TimeFits shape layer) →
      ∃ tensors, batchTimeTensors states.length layerIndex (joinTime shape column) = .ok tensors ∧
        TimeViews shape column tensors := by
    intro layerIndex shape column count fits
    rw [List.length_map] at count
    rw [← count]
    exact time_views fits layerIndex
  have channelWorks : ∀ layerIndex channels (column : ChannelLayers V),
      column.length = (states.map channelFlatLayersOf).length →
      (∀ layer ∈ column, ChannelFits channels layer) →
      ∃ tensor, batchChannelTensor states.length layerIndex (joinChannel channels column) =
        .ok tensor ∧ ChannelViews channels column tensor := by
    intro layerIndex channels column count fits
    rw [List.length_map] at count
    rw [← count]
    exact channel_views fits layerIndex
  obtain ⟨timeTensors, time, timeMade⟩ := map_layers_columns timeFitted timeWorks 0
  obtain ⟨channelTensors, channel, channelMade⟩ := map_layers_columns channelFitted channelWorks 0
  have each : ∀ (i : Nat) state, states[i]? = some state →
      nativeStateView timeTensors channelTensors i = toNative state := by
    intro i state found
    apply view_of_rows
    · apply (columns_made_row timeFitted timeMade (by rw [List.getElem?_map, found]; rfl)).imp
      rintro tensors layer ⟨shape, column, views, here⟩
      exact views i layer here
    · apply (columns_made_row channelFitted channelMade
        (by rw [List.getElem?_map, found]; rfl)).imp
      rintro tensor layer ⟨shape, column, views, here⟩
      exact views i layer here
  refine bind_ok.mpr ⟨_, time, bind_ok.mpr ⟨_, channel, ?_⟩⟩
  have viewed : (List.range states.length).mapM (nativeStateView timeTensors channelTensors) =
      states.mapM toNative := by
    have pointwise : ∀ (rest : List (WorkingState V)) (start : Nat),
        (∀ (i : Nat) state, rest[i]? = some state →
          nativeStateView timeTensors channelTensors (start + i) = toNative state) →
        (List.range' start rest.length).mapM (nativeStateView timeTensors channelTensors) =
          rest.mapM toNative := by
      intro rest
      induction rest with
      | nil => exact fun _ _ => rfl
      | cons state rest ih =>
          intro start agrees
          have first := agrees 0 state rfl
          rw [Nat.add_zero] at first
          have later := ih (start + 1) fun i other found => by
            have next := agrees (i + 1) other found
            rwa [show start + (i + 1) = start + 1 + i by omega] at next
          rw [List.length_cons, List.range'_succ, List.mapM_cons, List.mapM_cons, first, later]
    rw [List.range_eq_range']
    exact pointwise states 0 (by simpa using each)
  rw [viewed]
  clear each viewed time channel timeMade channelMade timeWorks channelWorks timeFitted
    channelFitted uniform
  induction converted with
  | nil => rfl
  | cons first _ ih =>
      rw [List.mapM_cons]
      exact bind_ok.mpr ⟨_, first, bind_ok.mpr ⟨_, ih, rfl⟩⟩

end RwkvSrs.BulkStateNative
