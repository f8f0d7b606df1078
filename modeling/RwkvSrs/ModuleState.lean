import Std.Data.ExtTreeMap
import Mathlib.Data.List.Basic
import Mathlib.Algebra.BigOperators.Group.List.Basic
import RwkvSrs.FallibleMethod
import RwkvSrs.ResultSteps

/-!
Recurrent states of one module for one identity, in the three layouts the
runtime keeps them in: tensors per layer, the flat layout of the GPU arena, and
the working layout the CPU forward advances. Conversions carry the shape checks
of the source; a working state that passes them converts to tensors and back
unchanged.
-/

namespace RwkvSrs.ModuleState

open Std RwkvSrs.FallibleMethod RwkvSrs.ResultSteps

set_option autoImplicit false

variable {V : Type}

structure Tensor (V : Type) where
  dims : List Nat
  data : List V
  sized : data.length = dims.prod

def Tensor.fromVec (data : List V) (dims : List Nat) : Except String (Tensor V) :=
  if sized : data.length = dims.prod then .ok ⟨dims, data, sized⟩
  else .error s!"shape mismatch, got buffer of size {data.length} for shape {dims}"

structure NativeRnnModuleState (V : Type) where
  timeXShiftB1cByLayer : List (Tensor V)
  timeStateB1hkkByLayer : List (Tensor V)
  channelStateB1cByLayer : List (Tensor V)

structure TimeMixerFlatLayerState (V : Type) where
  xShiftValues : List V
  stateValues : List V
  channels : Nat
  heads : Nat
  headSize : Nat

structure ChannelMixerFlatLayerState (V : Type) where
  stateValues : List V
  channels : Nat

structure BulkWorkingModuleState (V : Type) where
  timeStateByLayer : List (TimeMixerFlatLayerState V)
  channelStateB1cByLayer : Option (List (Tensor V))
  channelFlatStateByLayer : Option (List (ChannelMixerFlatLayerState V))

/-- A loop over layers that numbers them from `layerIndex` on. -/
def mapLayers {Source Target : Type} (convert : Nat → Source → Except String Target)
    (layerIndex : Nat) : List Source → Except String (List Target)
  | [] => .ok []
  | layer :: layers => do
      let converted ← convert layerIndex layer
      return converted :: (← mapLayers convert (layerIndex + 1) layers)

def timeLayerFromNative (layerIndex : Nat) (layer : Tensor V × Tensor V) :
    Except String (TimeMixerFlatLayerState V) :=
  let (xShift, recurrent) := layer
  match xShift.dims with
  | [xBatch, xOne, channels] =>
      if xBatch ≠ 1 ∨ xOne ≠ 1 then
        .error (s!"flat TimeMixer state expected x-shift layer {layerIndex} shape [1, 1, C], " ++
          s!"got {xShift.dims}")
      else
        match recurrent.dims with
        | [stateBatch, stateOne, heads, headSize, headSize2] =>
            if stateBatch ≠ 1 ∨ stateOne ≠ 1 ∨ headSize ≠ headSize2 ∨
                channels ≠ heads * headSize then
              .error (s!"flat TimeMixer state expected recurrent layer {layerIndex} shape " ++
                s!"[1, 1, H, K, K] compatible with C={channels}, got {recurrent.dims}")
            else .ok ⟨xShift.data, recurrent.data, channels, heads, headSize⟩
        | dims => .error s!"unexpected rank, expected: 5, got: {dims.length}"
  | dims => .error s!"unexpected rank, expected: 3, got: {dims.length}"

def channelLayerFromNative (layerIndex : Nat) (channelState : Tensor V) :
    Except String (ChannelMixerFlatLayerState V) :=
  match channelState.dims with
  | [batch, one, channels] =>
      if batch ≠ 1 ∨ one ≠ 1 then
        .error (s!"flat ChannelMixer state expected layer {layerIndex} shape [1, 1, C], " ++
          s!"got {channelState.dims}")
      else .ok ⟨channelState.data, channels⟩
  | dims => .error s!"unexpected rank, expected: 3, got: {dims.length}"

def flatWorkingModuleStateFromNative (state : NativeRnnModuleState V) (flatChannelState : Bool) :
    Except String (BulkWorkingModuleState V) := do
  let timeStateByLayer ← mapLayers timeLayerFromNative 0
    (state.timeXShiftB1cByLayer.zip state.timeStateB1hkkByLayer)
  if flatChannelState then
    let flatLayers ← mapLayers channelLayerFromNative 0 state.channelStateB1cByLayer
    return ⟨timeStateByLayer, none, some flatLayers⟩
  else
    return ⟨timeStateByLayer, some state.channelStateB1cByLayer, none⟩

def timeLayerToNative (layerIndex : Nat) (layer : TimeMixerFlatLayerState V) :
    Except String (Tensor V × Tensor V) := do
  if layer.xShiftValues.length ≠ layer.channels then
    throw (s!"flat TimeMixer state layer {layerIndex} expected {layer.channels} x-shift values, " ++
      s!"got {layer.xShiftValues.length}")
  let recurrentLen := layer.heads * layer.headSize * layer.headSize
  if layer.stateValues.length ≠ recurrentLen then
    throw (s!"flat TimeMixer state layer {layerIndex} expected {recurrentLen} recurrent " ++
      s!"values, got {layer.stateValues.length}")
  return (← Tensor.fromVec layer.xShiftValues [1, 1, layer.channels],
    ← Tensor.fromVec layer.stateValues [1, 1, layer.heads, layer.headSize, layer.headSize])

def channelLayerToNative (layerIndex : Nat) (layer : ChannelMixerFlatLayerState V) :
    Except String (Tensor V) :=
  if layer.stateValues.length ≠ layer.channels then
    .error (s!"flat ChannelMixer state layer {layerIndex} expected {layer.channels} values, " ++
      s!"got {layer.stateValues.length}")
  else Tensor.fromVec layer.stateValues [1, 1, layer.channels]

def nativeModuleStateFromFlatWorking (state : BulkWorkingModuleState V) :
    Except String (NativeRnnModuleState V) := do
  let timeLayers ← mapLayers timeLayerToNative 0 state.timeStateByLayer
  let channelStates ← match state.channelStateB1cByLayer with
    | some channelStates => .ok channelStates
    | none =>
        match state.channelFlatStateByLayer with
        | some flatLayers => mapLayers channelLayerToNative 0 flatLayers
        | none => .error "flat working state is missing ChannelMixer state"
  return ⟨timeLayers.map Prod.fst, timeLayers.map Prod.snd, channelStates⟩

def TimeMixerFlatLayerState.WellFormed (layer : TimeMixerFlatLayerState V) : Prop :=
  layer.xShiftValues.length = layer.channels ∧
    layer.stateValues.length = layer.heads * layer.headSize * layer.headSize ∧
    layer.channels = layer.heads * layer.headSize

def ChannelMixerFlatLayerState.WellFormed (layer : ChannelMixerFlatLayerState V) : Prop :=
  layer.stateValues.length = layer.channels

structure BulkWorkingModuleState.WellFormed (state : BulkWorkingModuleState V) : Prop where
  time : ∀ layer ∈ state.timeStateByLayer, layer.WellFormed
  native : state.channelStateB1cByLayer = none
  channel : ∃ layers, state.channelFlatStateByLayer = some layers ∧
    ∀ layer ∈ layers, layer.WellFormed

/-- What the CPU forward receives and returns: the flat-channel working layout. -/
abbrev WorkingState (V : Type) := { state : BulkWorkingModuleState V // state.WellFormed }

theorem map_layers_inverse {Source Target : Type} {convert : Nat → Source → Except String Target}
    {back : Nat → Target → Except String Source} {layers : List Source}
    (inverse : ∀ layer ∈ layers, ∀ i, ∃ target, convert i layer = .ok target ∧
      ∀ j, back j target = .ok layer) (start : Nat) :
    ∃ targets, mapLayers convert start layers = .ok targets ∧
      ∀ j, mapLayers back j targets = .ok layers := by
  induction layers generalizing start with
  | nil => exact ⟨[], rfl, fun _ => rfl⟩
  | cons layer layers ih =>
      obtain ⟨target, converted, restored⟩ := inverse layer (by simp) start
      obtain ⟨targets, rest, restoredRest⟩ := ih
        (fun other member => inverse other (List.mem_cons_of_mem _ member)) (start + 1)
      refine ⟨target :: targets, ?_, ?_⟩
      · rw [mapLayers, converted]
        change (do return target :: (← mapLayers convert (start + 1) layers)) = _
        rw [rest]
        rfl
      · intro j
        rw [mapLayers, restored]
        change (do return layer :: (← mapLayers back (j + 1) targets)) = _
        rw [restoredRest]
        rfl

theorem map_layers_all {Source Target : Type} {convert : Nat → Source → Except String Target}
    {Good : Target → Prop} (good : ∀ i layer target, convert i layer = .ok target → Good target)
    {start : Nat} {layers : List Source} {targets : List Target}
    (converted : mapLayers convert start layers = .ok targets) : ∀ target ∈ targets, Good target := by
  induction layers generalizing start targets with
  | nil =>
      cases converted
      simp
  | cons layer layers ih =>
      obtain ⟨head, first, rest⟩ := bind_ok.mp converted
      obtain ⟨tail, later, same⟩ := bind_ok.mp rest
      cases same
      intro target member
      rcases List.mem_cons.mp member with here | there
      · exact here ▸ good start layer head first
      · exact ih later target there

theorem from_vec_ok {data : List V} {dims : List Nat} (sized : data.length = dims.prod) :
    Tensor.fromVec data dims = .ok ⟨dims, data, sized⟩ := dif_pos sized

theorem time_layer_round_trip {layer : TimeMixerFlatLayerState V} (wellFormed : layer.WellFormed)
    (i : Nat) :
    ∃ native, timeLayerToNative i layer = .ok native ∧
      ∀ j, timeLayerFromNative j native = .ok layer := by
  obtain ⟨xShift, recurrent, channels⟩ := wellFormed
  have xSized : layer.xShiftValues.length = [1, 1, layer.channels].prod := by simp [xShift]
  have recurrentSized : layer.stateValues.length =
      [1, 1, layer.heads, layer.headSize, layer.headSize].prod := by
    simp [recurrent, Nat.mul_assoc]
  refine ⟨(⟨_, _, xSized⟩, ⟨_, _, recurrentSized⟩), ?_, ?_⟩
  · simp [timeLayerToNative, xShift, recurrent, from_vec_ok xSized, from_vec_ok recurrentSized,
      pure, Except.pure, bind, Except.bind]
  · intro j
    rw [timeLayerFromNative]
    simp [← channels]

theorem channel_layer_round_trip {layer : ChannelMixerFlatLayerState V}
    (wellFormed : layer.WellFormed) (i : Nat) :
    ∃ native, channelLayerToNative i layer = .ok native ∧
      ∀ j, channelLayerFromNative j native = .ok layer := by
  have length : layer.stateValues.length = layer.channels := wellFormed
  have sized : layer.stateValues.length = [1, 1, layer.channels].prod := by
    simp [length]
  refine ⟨⟨_, _, sized⟩, ?_, ?_⟩
  · rw [channelLayerToNative, if_neg (not_not.mpr length)]
    exact from_vec_ok sized
  · intro j
    simp [channelLayerFromNative]

theorem working_round_trip {state : BulkWorkingModuleState V} (wellFormed : state.WellFormed) :
    ∃ native, nativeModuleStateFromFlatWorking state = .ok native ∧
      flatWorkingModuleStateFromNative native true = .ok state := by
  obtain ⟨flatLayers, flat, channels⟩ := wellFormed.channel
  obtain ⟨timeLayers, timeConverted, timeRestored⟩ := map_layers_inverse
    (fun layer member i => time_layer_round_trip (wellFormed.time layer member) i) 0
  obtain ⟨channelLayers, channelConverted, channelRestored⟩ := map_layers_inverse
    (fun layer member i => channel_layer_round_trip (channels layer member) i) 0
  refine ⟨⟨timeLayers.map Prod.fst, timeLayers.map Prod.snd, channelLayers⟩, ?_, ?_⟩
  · unfold nativeModuleStateFromFlatWorking
    rw [timeConverted, wellFormed.native, flat]
    simp only [channelConverted]
    rfl
  · unfold flatWorkingModuleStateFromNative
    have zipped : (timeLayers.map Prod.fst).zip (timeLayers.map Prod.snd) = timeLayers := by
      rw [← List.unzip_fst, ← List.unzip_snd, List.zip_unzip]
    simp only [zipped, timeRestored, channelRestored, if_true]
    obtain ⟨time, native, channel⟩ := state
    cases wellFormed.native
    cases flat
    rfl

theorem time_layer_of_native {i : Nat} {native : Tensor V × Tensor V}
    {layer : TimeMixerFlatLayerState V} (made : timeLayerFromNative i native = .ok layer) :
    layer.WellFormed := by
  obtain ⟨⟨xDims, xData, xSized⟩, ⟨dims, data, sized⟩⟩ := native
  unfold timeLayerFromNative at made
  simp only at made
  split at made
  · split at made
    · cases made
    · rename_i xOnes
      split at made
      · split at made
        · cases made
        · rename_i ones
          cases made
          push Not at xOnes ones
          obtain ⟨rfl, rfl, rfl, rfl⟩ := ones
          obtain ⟨rfl, rfl⟩ := xOnes
          refine ⟨?_, ?_, rfl⟩
          · simpa using xSized
          · simpa [Nat.mul_assoc] using sized
      · cases made
  · cases made

theorem channel_layer_of_native {i : Nat} {native : Tensor V}
    {layer : ChannelMixerFlatLayerState V} (made : channelLayerFromNative i native = .ok layer) :
    layer.WellFormed := by
  obtain ⟨dims, data, sized⟩ := native
  unfold channelLayerFromNative at made
  simp only at made
  split at made
  · split at made
    · cases made
    · rename_i ones
      cases made
      push Not at ones
      obtain ⟨rfl, rfl⟩ := ones
      change data.length = _
      simpa using sized
  · cases made

theorem working_of_native {native : NativeRnnModuleState V} {state : BulkWorkingModuleState V}
    (converted : flatWorkingModuleStateFromNative native true = .ok state) : state.WellFormed := by
  obtain ⟨timeLayers, time, rest⟩ := bind_ok.mp converted
  simp only [if_true] at rest
  obtain ⟨flatLayers, channel, same⟩ := bind_ok.mp rest
  cases same
  refine ⟨map_layers_all ?_ time, rfl, flatLayers, rfl, map_layers_all ?_ channel⟩
  · intro i layer target made
    exact time_layer_of_native made
  · intro i layer target made
    exact channel_layer_of_native made

end RwkvSrs.ModuleState
