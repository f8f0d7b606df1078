import Std.Data.ExtTreeMap
import Std.Data.ExtTreeSet
import RwkvSrs.DeterministicState
import RwkvSrs.ModuleState

/-!
The recurrent states a runtime holds: canonical tensor maps for the four keyed
modules and one global state, beside the flat states read back from the GPU.
An identity is in one of the two at a time; materializing moves the flat ones
over and changes no identity's latest state.
-/

namespace RwkvSrs.NativeRnnState

open Std RwkvSrs.FallibleMethod RwkvSrs.DeterministicState RwkvSrs.ModuleState

set_option autoImplicit false

variable {V : Type}

def flatStateChannels : Nat := 128

def flatStateHeads : Nat := 4

def flatStateHeadSize : Nat := 32

def flatStateMatrixElements : Nat := flatStateHeads * flatStateHeadSize * flatStateHeadSize

def flatStateLayerElements : Nat := flatStateChannels + flatStateMatrixElements + flatStateChannels

/-- A slice of a shared readback allocation; the range was checked when it was made. -/
structure FlatNativeRnnModuleState (V : Type) where
  values : List V
  offset : Nat
  layers : Nat
  inRange : offset + layers * flatStateLayerElements ≤ values.length

namespace FlatNativeRnnModuleState

def fromSharedValues (values : List V) (entity layers : Nat) :
    Except String (FlatNativeRnnModuleState V) :=
  let entityValues := layers * flatStateLayerElements
  let offset := entity * entityValues
  if inRange : offset + entityValues ≤ values.length then .ok ⟨values, offset, layers, inRange⟩
  else
    .error (s!"flat recurrent-state entity {entity} ends at {offset + entityValues}, beyond " ++
      s!"{values.length} values")

def slice (state : FlatNativeRnnModuleState V) (start count : Nat) : List V :=
  ((state.values.drop state.offset).drop start).take count

theorem slice_length (state : FlatNativeRnnModuleState V) {start count : Nat}
    (bound : start + count ≤ state.layers * flatStateLayerElements) :
    (state.slice start count).length = count := by
  have inRange := state.inRange
  simp only [slice, List.length_take, List.length_drop]
  omega

theorem layer_bound (state : FlatNativeRnnModuleState V) (layer : Fin state.layers) :
    layer.val * flatStateLayerElements + flatStateLayerElements ≤
      state.layers * flatStateLayerElements := by
  have succ := Nat.mul_le_mul_right flatStateLayerElements (Nat.succ_le_of_lt layer.isLt)
  rwa [Nat.succ_mul] at succ

def xShift (state : FlatNativeRnnModuleState V) (layer : Fin state.layers) : Tensor V where
  dims := [1, 1, flatStateChannels]
  data := state.slice (layer * flatStateLayerElements) flatStateChannels
  sized := by
    have fits : flatStateChannels ≤ flatStateLayerElements := by decide
    rw [slice_length state (by have := state.layer_bound layer; omega)]
    decide

def recurrent (state : FlatNativeRnnModuleState V) (layer : Fin state.layers) : Tensor V where
  dims := [1, 1, flatStateHeads, flatStateHeadSize, flatStateHeadSize]
  data := state.slice (layer * flatStateLayerElements + flatStateChannels) flatStateMatrixElements
  sized := by
    have fits : flatStateChannels + flatStateMatrixElements ≤ flatStateLayerElements := by decide
    rw [slice_length state (by have := state.layer_bound layer; omega)]
    decide

def channel (state : FlatNativeRnnModuleState V) (layer : Fin state.layers) : Tensor V where
  dims := [1, 1, flatStateChannels]
  data := state.slice (layer * flatStateLayerElements + flatStateChannels +
    flatStateMatrixElements) flatStateChannels
  sized := by
    have fits : flatStateChannels + flatStateMatrixElements + flatStateChannels =
      flatStateLayerElements := by decide
    rw [slice_length state (by have := state.layer_bound layer; omega)]
    decide

/-- The size checks of `Tensor::from_vec` hold by the range of the slice. -/
def materialize (state : FlatNativeRnnModuleState V) : NativeRnnModuleState V where
  timeXShiftB1cByLayer := (List.finRange state.layers).map state.xShift
  timeStateB1hkkByLayer := (List.finRange state.layers).map state.recurrent
  channelStateB1cByLayer := (List.finRange state.layers).map state.channel

end FlatNativeRnnModuleState

/-- The keyed modules, in the order a row passes through them. -/
inductive EntityModule where
  | card
  | deck
  | note
  | preset
deriving DecidableEq

def EntityModule.name : EntityModule → String
  | .card => "card"
  | .deck => "deck"
  | .note => "note"
  | .preset => "preset"

def EntityModule.key : EntityModule → ReviewIds → Int64
  | .card, ids => ids.1
  | .deck, ids => ids.2.2.1
  | .note, ids => ids.2.1
  | .preset, ids => ids.2.2.2

abbrev ModuleStates (State : Type) := EntityModule → ExtTreeMap Int64 State

structure NativeRnn (V : Type) where
  states : ModuleStates (NativeRnnModuleState V)
  globalState : Option (NativeRnnModuleState V)
  flatStates : ModuleStates (FlatNativeRnnModuleState V)
  flatGlobalState : Option (FlatNativeRnnModuleState V)

/-- The state of an identity wherever it is held, and none where it has none. -/
def NativeRnn.latest (rnn : NativeRnn V) (entity : EntityModule) (key : Int64) :
    Option (NativeRnnModuleState V) :=
  (rnn.states entity)[key]?.or
    ((rnn.flatStates entity)[key]?.map FlatNativeRnnModuleState.materialize)

def NativeRnn.latestGlobal (rnn : NativeRnn V) : Option (NativeRnnModuleState V) :=
  rnn.globalState.or (rnn.flatGlobalState.map FlatNativeRnnModuleState.materialize)

def materializeMap (entity : EntityModule) : Method (NativeRnn V) Unit := fun rnn =>
  match (rnn.flatStates entity).keys.find? (· ∈ rnn.states entity) with
  | some identity =>
      (.error (.error (s!"{entity.name}_states identity {identity} exists in flat and canonical " ++
        "CPU state")), rnn)
  | none =>
      (.ok (), { rnn with
        states := fun other =>
          if other = entity then
            rnn.states entity ∪
              (rnn.flatStates entity).map fun _ => FlatNativeRnnModuleState.materialize
          else rnn.states other
        flatStates := fun other => if other = entity then ∅ else rnn.flatStates other })

def materializeGlobal : Method (NativeRnn V) Unit := fun rnn =>
  match rnn.flatGlobalState, rnn.globalState with
  | none, _ => (.ok (), rnn)
  | some _, some _ =>
      (.error (.error "global state exists in flat and canonical CPU state"), rnn)
  | some flat, none => (.ok (), { rnn with globalState := flat.materialize, flatGlobalState := none })

def materializeFlatCpuState : Method (NativeRnn V) Unit := do
  materializeMap .card
  materializeMap .note
  materializeMap .deck
  materializeMap .preset
  materializeGlobal

structure SameLatest (before after : NativeRnn V) : Prop where
  keyed : ∀ entity key, after.latest entity key = before.latest entity key
  global : after.latestGlobal = before.latestGlobal

theorem SameLatest.refl (rnn : NativeRnn V) : SameLatest rnn rnn := ⟨fun _ _ => rfl, rfl⟩

theorem SameLatest.trans {first middle last : NativeRnn V} (before : SameLatest first middle)
    (after : SameLatest middle last) : SameLatest first last :=
  ⟨fun entity key => (after.keyed entity key).trans (before.keyed entity key),
    after.global.trans before.global⟩

theorem materialize_map_latest (entity : EntityModule) :
    Keeps SameLatest (materializeMap entity : Method (NativeRnn V) Unit) := by
  intro rnn
  unfold materializeMap
  split
  · exact SameLatest.refl rnn
  · rename_i disjoint
    refine ⟨?_, rfl⟩
    intro other key
    by_cases same : other = entity
    · subst same
      simp only [NativeRnn.latest, if_true, ExtTreeMap.getElem?_union, ExtTreeMap.getElem?_map]
      cases flat : (rnn.flatStates other)[key]? with
      | none => simp
      | some state =>
          have member : key ∈ (rnn.flatStates other).keys := by
            rw [ExtTreeMap.mem_keys, ExtTreeMap.mem_iff_isSome_getElem?, flat]
            rfl
          have absent : key ∉ rnn.states other := by
            simpa using List.find?_eq_none.mp disjoint key member
          simp [absent]
    · simp [NativeRnn.latest, same]

theorem materialize_global_latest :
    Keeps SameLatest (materializeGlobal : Method (NativeRnn V) Unit) := by
  intro rnn
  unfold materializeGlobal
  split
  · exact SameLatest.refl rnn
  · exact SameLatest.refl rnn
  · rename_i flat flatFound canonical
    exact ⟨fun _ _ => rfl, by simp [NativeRnn.latestGlobal, flatFound, canonical]⟩

theorem materialize_latest :
    Keeps SameLatest (materializeFlatCpuState : Method (NativeRnn V) Unit) := by
  have chain : ∀ first middle last : NativeRnn V, SameLatest first middle →
      SameLatest middle last → SameLatest first last := fun _ _ _ => SameLatest.trans
  apply keeps_bind chain (materialize_map_latest .card)
  intro _
  apply keeps_bind chain (materialize_map_latest .note)
  intro _
  apply keeps_bind chain (materialize_map_latest .deck)
  intro _
  apply keeps_bind chain (materialize_map_latest .preset)
  intro _
  exact materialize_global_latest

/-- Every state is canonical. -/
structure Materialized (rnn : NativeRnn V) : Prop where
  keyed : ∀ entity, rnn.flatStates entity = ∅
  global : rnn.flatGlobalState = none

theorem Materialized.latest {rnn : NativeRnn V} (materialized : Materialized rnn)
    (entity : EntityModule) (key : Int64) : rnn.latest entity key = (rnn.states entity)[key]? := by
  simp [NativeRnn.latest, materialized.keyed entity]

theorem Materialized.latestGlobal {rnn : NativeRnn V} (materialized : Materialized rnn) :
    rnn.latestGlobal = rnn.globalState := by
  simp [NativeRnn.latestGlobal, materialized.global]

theorem materialize_map_ok {entity : EntityModule} {before after : NativeRnn V}
    (run : materializeMap entity before = (.ok (), after)) :
    after.flatStates = (fun other => if other = entity then ∅ else before.flatStates other) ∧
      after.flatGlobalState = before.flatGlobalState := by
  unfold materializeMap at run
  split at run
  · cases run
  · cases run
    exact ⟨rfl, rfl⟩

theorem materialize_ok {before after : NativeRnn V}
    (run : materializeFlatCpuState before = (.ok (), after)) : Materialized after := by
  obtain ⟨_, card, cardRun, run⟩ := bind_ok_steps run
  obtain ⟨_, note, noteRun, run⟩ := bind_ok_steps run
  obtain ⟨_, deck, deckRun, run⟩ := bind_ok_steps run
  obtain ⟨_, preset, presetRun, globalRun⟩ := bind_ok_steps run
  have cards := materialize_map_ok cardRun
  have notes := materialize_map_ok noteRun
  have decks := materialize_map_ok deckRun
  have presets := materialize_map_ok presetRun
  have flats : after.flatStates = preset.flatStates ∧ after.flatGlobalState = none := by
    unfold materializeGlobal at globalRun
    split at globalRun
    · rename_i none
      cases globalRun
      exact ⟨rfl, none⟩
    · cases globalRun
    · cases globalRun
      exact ⟨rfl, rfl⟩
  refine ⟨?_, flats.2⟩
  intro entity
  rw [flats.1, presets.1, decks.1, notes.1, cards.1]
  cases entity <;> rfl

theorem materialize_map_id {entity : EntityModule} {rnn : NativeRnn V}
    (empty : rnn.flatStates entity = ∅) : materializeMap entity rnn = (.ok (), rnn) := by
  have keys : (rnn.flatStates entity).keys.find? (· ∈ rnn.states entity) = none := by
    simp [empty]
  unfold materializeMap
  rw [keys]
  obtain ⟨states, globalState, flatStates, flatGlobalState⟩ := rnn
  simp only [Prod.mk.injEq, true_and, NativeRnn.mk.injEq, and_true]
  constructor
  · funext other
    by_cases same : other = entity
    · subst same
      rw [if_pos rfl, show flatStates other = ∅ from empty]
      apply ExtTreeMap.ext_getElem?
      intro key
      simp [ExtTreeMap.getElem?_union]
    · simp [same]
  · funext other
    by_cases same : other = entity
    · subst same
      rw [if_pos rfl]
      exact empty.symm
    · rw [if_neg same]

/-- Materializing again changes nothing. -/
theorem materialize_id {rnn : NativeRnn V} (materialized : Materialized rnn) :
    materializeFlatCpuState rnn = (.ok (), rnn) := by
  have each : ∀ entity : EntityModule, materializeMap entity rnn = (.ok (), rnn) :=
    fun entity => materialize_map_id (materialized.keyed entity)
  unfold materializeFlatCpuState
  rw [bind_of_ok (each .card), bind_of_ok (each .note), bind_of_ok (each .deck),
    bind_of_ok (each .preset), materializeGlobal, materialized.global]

end RwkvSrs.NativeRnnState
