import RwkvSrs.RowWiseBatches

/-!
The network that runs every lane of a batch by itself. It takes a batch apart into
its lanes, applies the forwards of single rows and joins the results, so there is
a row-wise network for all forwards of single rows.
-/

namespace RwkvSrs.RowLanes

open RwkvSrs.ResultSteps RwkvSrs.ModuleState RwkvSrs.StrideBlocks RwkvSrs.PipelineLine
open RwkvSrs.PipelineStages RwkvSrs.BulkStateBatch RwkvSrs.BulkStateJoin RwkvSrs.BulkExecution
open RwkvSrs.RowWiseBatches

set_option autoImplicit false

variable {F V Curve : Type}

def laneState (batch : BulkWorkingModuleState V) (batchSize batchIndex : Nat) :
    Except String (WorkingState V) := do
  let flatState ← flatWorkingModuleStateBatchRow batch.timeStateByLayer
    (batch.channelFlatStateByLayer.getD []) batchIndex batchSize
  toWorking (← nativeModuleStateFromFlatWorking flatState)

def laneStart (state : Option (BulkWorkingModuleState V)) (batchSize batchIndex : Nat) :
    Except String (Option (WorkingState V)) :=
  match state with
  | none => .ok none
  | some batch => do return some (← laneState batch batchSize batchIndex)

def laneOf (rows : RowForwards V) (state : Option (BulkWorkingModuleState V)) (values : List V)
    (batchSize batchIndex : Nat) : Except String (Option (WorkingState V) × List V) := do
  let own ← laneStart state batchSize batchIndex
  return (own, slice values (batchIndex * rows.channels) rows.channels)

def laneNetwork (rows : RowForwards V) (features2cardForward : List V → Except String (List V))
    (predictionProbabilities : List (List V) → Except String (List F))
    (curveOutputs : List (List V) → Except String (List Curve)) : BulkNetwork F V Curve where
  channels := rows.channels
  features2cardForward := features2cardForward
  predictForwardValues module values batchSize state := do
    let lanes ← (List.range batchSize).mapM (laneOf rows state values batchSize)
    return (lanes.map fun lane => rows.query module lane.1 lane.2).flatten
  forwardValues module values batchSize state := do
    let lanes ← (List.range batchSize).mapM (laneOf rows state values batchSize)
    let next := lanes.map fun lane => rows.process module lane.1 lane.2
    return ((next.map Prod.fst).flatten, joinedTime (rows.layout module) (next.map Prod.snd),
      joinedChannel (rows.layout module) (next.map Prod.snd))
  predictionProbabilities := predictionProbabilities
  curveOutputs := curveOutputs

theorem range_read {Value : Type} {read : Nat → Except String Value} {values : List Value}
    (each : ∀ i value, values[i]? = some value → read i = .ok value) :
    (List.range values.length).mapM read = .ok values := by
  have shifted : ∀ first : Nat, (∀ i value, values[i]? = some value →
      read (first + i) = .ok value) →
        (List.range' first values.length).mapM read = .ok values := by
    clear each
    induction values with
    | nil => exact fun _ _ => rfl
    | cons value values ih =>
        intro first each
        have here := each 0 value rfl
        have later := ih (first + 1) (by
          intro i other found
          have next := each (i + 1) other found
          rw [← next]
          congr 1
          omega)
        rw [List.length_cons, List.range'_succ, List.mapM_cons]
        exact bind_ok.mpr ⟨value, here, bind_ok.mpr ⟨values, later, rfl⟩⟩
  rw [List.range_eq_range']
  exact shifted 0 (by simpa using each)

section Lanes

variable {rows : RowForwards V} {module : SrsModule}
  {lanes : List (Option (WorkingState V) × List V)}

theorem lane_state_read {layout : StateLayout} {states : List (WorkingState V)}
    (uniform : ∀ state ∈ states, layoutOf state = layout) {i : Nat} {state : WorkingState V}
    (found : states[i]? = some state) :
    laneState (joinedStates layout states) states.length i = .ok state := by
  obtain ⟨native, converted, restored⟩ := to_native_ok state
  exact bind_ok.mpr ⟨state.1, joined_batch_row uniform found,
    bind_ok.mpr ⟨native, converted, restored⟩⟩

theorem all_held {states : List (Option (WorkingState V))}
    (some : ∀ state ∈ states, state.isSome) :
    ∃ held : List (WorkingState V), states = held.map Option.some := by
  induction states with
  | nil => exact ⟨[], rfl⟩
  | cons state states ih =>
      obtain ⟨held, rest⟩ := ih fun other member => some other (List.mem_cons_of_mem _ member)
      obtain ⟨one, here⟩ := Option.isSome_iff_exists.mp (some state (by simp))
      exact ⟨one :: held, by rw [here, rest]; rfl⟩

theorem lane_start_read (uniform : Uniform (lanes.map Prod.fst))
    (laid : ∀ lane ∈ lanes, OfLayout (rows.layout module) lane.1) {i : Nat}
    {lane : Option (WorkingState V) × List V} (found : lanes[i]? = some lane) :
    laneStart (heldStates (rows.layout module) (lanes.map Prod.fst)) lanes.length i =
      .ok lane.1 := by
  have own : (lanes.map Prod.fst)[i]? = some lane.1 := by
    rw [List.getElem?_map, found]
    rfl
  rcases uniform with fresh | held
  · rw [held_none fresh, fresh lane.1 (List.mem_of_getElem? own)]
    rfl
  · obtain ⟨states, all⟩ := all_held held
    have count : lanes.length = states.length := by
      have same := congrArg List.length all
      simpa using same
    have layouts : ∀ state ∈ states, layoutOf state = rows.layout module := by
      intro state member
      have inside : some state ∈ lanes.map Prod.fst := by
        rw [all]
        exact List.mem_map_of_mem member
      obtain ⟨other, otherMember, same⟩ := List.mem_map.mp inside
      exact laid other otherMember state same
    rw [all, List.getElem?_map] at own
    obtain ⟨state, at_, same⟩ := Option.map_eq_some_iff.mp own
    have nonempty : states ≠ [] := List.ne_nil_of_mem (List.mem_of_getElem? at_)
    rw [all, held_some nonempty, count, ← same]
    exact bind_ok.mpr ⟨state, lane_state_read layouts at_, rfl⟩

theorem lanes_read (uniform : Uniform (lanes.map Prod.fst))
    (fits : ∀ lane ∈ lanes, OfLayout (rows.layout module) lane.1 ∧ lane.2.length = rows.channels) :
    (List.range lanes.length).mapM (laneOf rows
      (heldStates (rows.layout module) (lanes.map Prod.fst)) (lanes.map Prod.snd).flatten
      lanes.length) = .ok lanes := by
  apply range_read
  intro i lane found
  have started := lane_start_read uniform (fun lane member => (fits lane member).1) found
  obtain ⟨inside, here⟩ := List.getElem?_eq_some_iff.mp found
  have sized : Sized rows.channels (lanes.map Prod.snd) := by
    intro values member
    obtain ⟨other, otherMember, rfl⟩ := List.mem_map.mp member
    exact (fits other otherMember).2
  have values := slice_block sized (by simpa using inside)
  rw [List.getElem_map, here] at values
  refine bind_ok.mpr ⟨lane.1, started, ?_⟩
  rw [values]
  rfl

theorem lane_network_row_wise (rows : RowForwards V)
    (features2cardForward : List V → Except String (List V))
    (predictionProbabilities : List (List V) → Except String (List F))
    (curveOutputs : List (List V) → Except String (List Curve)) :
    RowWise (laneNetwork rows features2cardForward predictionProbabilities curveOutputs) rows where
  channels := rfl
  query module lanes _ uniform fits :=
    bind_ok.mpr ⟨lanes, lanes_read uniform fits, rfl⟩
  process module lanes _ uniform fits := by
    refine bind_ok.mpr ⟨lanes, lanes_read uniform fits, ?_⟩
    simp only [List.map_map]
    rfl

end Lanes

end RwkvSrs.RowLanes
