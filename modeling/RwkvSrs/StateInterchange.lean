import RwkvSrs.CheckpointWriter

/-!
A recurrent state can be held flat or as tensors without a difference: the
checkpoint receives the same bytes, as many as its index declares, and a state
that is appended to a buffer is the one that every decoder finds in its place.
-/

namespace RwkvSrs.StateInterchange

open RwkvSrs.CheckpointWriter RwkvSrs.ModuleState RwkvSrs.NativeRnnState RwkvSrs.ResultSteps
open RwkvSrs.StateLayouts RwkvSrs.StrideBlocks

set_option autoImplicit false

instance : Zero Binary32 := ⟨⟨0⟩⟩

variable {shape : LayerShape}

/-- Both representations are written as the same bytes, and both sizes declare them. -/
structure SameBytes (flat : FlatModuleState shape Binary32)
    (state : NativeRnnModuleState Binary32) (bytes : List UInt8) : Prop where
  flatBytes : binWriteFlatEntityState flat = .ok bytes
  canonicalBytes : binWriteEntityState state = .ok bytes
  flatSize : Declares (binFlatEntityStateSize flat) bytes.length
  canonicalSize : Declares (binEntityStateSize state) bytes.length

/-- Every decoder finds the states in a buffer, one entity after the other. -/
structure DecodesTo (shape : LayerShape) (layers : Nat) (values : List Binary32)
    (states : List (NativeRnnModuleState Binary32)) : Prop where
  appended : states.foldlM
    (fun output state => appendModuleState shape output (some state) layers) [] = .ok values
  shared : moduleStatesFromSharedValues shape values layers states.length = .ok states
  single : ∀ entity, (inside : entity < states.length) →
    moduleStateFromValues shape (slice values (entity * (layers * shape.layerElements))
      (layers * shape.layerElements)) layers = .ok states[entity]
  flat : ∀ entity, (inside : entity < states.length) → ∀ rest, ∃ flat,
    FlatModuleState.fromSharedValues shape (values ++ rest) entity layers = .ok flat ∧
      flat.materialize = .ok states[entity]

/-- What it takes for the two representations to be interchangeable, for one shape. -/
structure Interchange (shape : LayerShape) : Prop where
  flat : ∀ flat : FlatModuleState shape Binary32, ∃ state bytes, flat.materialize = .ok state ∧
    Consistent shape flat.layers state ∧ SameBytes flat state bytes
  state : ∀ layers (state : NativeRnnModuleState Binary32), Consistent shape layers state →
    ∃ values bytes, values.length = layers * shape.layerElements ∧
      moduleStateFromValues shape values layers = .ok state ∧ ∀ output rest,
        appendModuleState shape output (some state) layers = .ok (output ++ values) ∧
          ∃ flat : FlatModuleState shape Binary32, flat.values = output ++ values ++ rest ∧
            flat.offset = output.length ∧ flat.layers = layers ∧
            flat.materialize = .ok state ∧ SameBytes flat state bytes
  states : ∀ layers (states : List (NativeRnnModuleState Binary32)),
    (∀ state ∈ states, Consistent shape layers state) → ∃ values, DecodesTo shape layers values states
  values : ∀ layers entities values, values.length = entities * (layers * shape.layerElements) →
    ∃ states, states.length = entities ∧ (∀ state ∈ states, Consistent shape layers state) ∧
      DecodesTo shape layers values states

theorem same_bytes {flat : FlatModuleState shape Binary32} {state : NativeRnnModuleState Binary32}
    {bytes : List UInt8} (consistent : Consistent shape flat.layers state)
    (same : flat.entityValues = stateValues state)
    (written : binWriteEntityState state = .ok bytes)
    (length : bytes.length = stateBytes shape flat.layers) : SameBytes flat state bytes where
  flatBytes := (flat_state_written consistent same).trans written
  canonicalBytes := written
  flatSize := length ▸ flat_size_declares flat
  canonicalSize := entity_size_declares written

theorem states_decode {layers : Nat} {states : List (NativeRnnModuleState Binary32)}
    (consistent : ∀ state ∈ states, Consistent shape layers state) :
    DecodesTo shape layers (states.flatMap stateValues) states where
  appended := append_states_ok consistent []
  shared := shared_states consistent
  single := by
    intro entity inside
    rw [entity_slice consistent inside]
    exact values_of_state (consistent _ (List.getElem_mem inside))
  flat := fun _ inside rest => shared_flat consistent inside rest

/-- Flat and canonical states are interchangeable, for every shape; the runtime's flat states are
those of its own shape. -/
theorem flat_and_canonical_interchange :
    (∀ shape, Interchange shape) ∧
      ∀ flat : FlatNativeRnnModuleState Binary32,
        (shapedFlat flat).materialize = .ok flat.materialize := by
  refine ⟨?_, shaped_materialize⟩
  intro shape
  constructor
  · intro flat
    obtain ⟨state, materialized, consistent, same⟩ := flat.has_state
    obtain ⟨bytes, written, length⟩ := consistent_written consistent
    exact ⟨state, bytes, materialized, consistent, same_bytes consistent same written length⟩
  · intro layers state consistent
    obtain ⟨bytes, written, length⟩ := consistent_written consistent
    refine ⟨stateValues state, bytes, state_values_length consistent, values_of_state consistent, ?_⟩
    intro output rest
    refine ⟨append_state_ok consistent output, ?_⟩
    obtain ⟨inRange, materialized⟩ := FlatModuleState.appended consistent output rest
    obtain ⟨found, again, foundConsistent, same⟩ := FlatModuleState.has_state
      (⟨output ++ stateValues state ++ rest, output.length, layers, inRange⟩ :
        FlatModuleState shape Binary32)
    rw [materialized] at again
    cases again
    exact ⟨_, rfl, rfl, rfl, materialized, same_bytes foundConsistent same written length⟩
  · intro layers states consistent
    exact ⟨_, states_decode consistent⟩
  · intro layers entities values sized
    obtain ⟨states, count, consistent, same⟩ := states_of_values sized
    exact ⟨states, count, consistent, same ▸ states_decode consistent⟩

end RwkvSrs.StateInterchange
