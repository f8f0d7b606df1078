import RwkvSrs.BulkExecution
import RwkvSrs.BulkStateNative

/-!
The forwards of one row alone, and what it says that the forwards of a batch are
row-wise equal to them. From there one batch of lanes, each a row with the state
it is run from, has the outputs and next states of its rows.
-/

namespace RwkvSrs.RowWiseBatches

open RwkvSrs.ResultSteps RwkvSrs.ModuleState RwkvSrs.StrideBlocks RwkvSrs.PipelineLine
open RwkvSrs.BulkStateBatch RwkvSrs.BulkStateJoin RwkvSrs.BulkExecution

set_option autoImplicit false

variable {F V Curve : Type}

def OfLayout (layout : StateLayout) (state : Option (WorkingState V)) : Prop :=
  ∀ one, state = some one → layoutOf one = layout

/-- Every module is an arbitrary function of a row and of the state the row is run from. -/
structure RowForwards (V : Type) where
  channels : Nat
  layout : SrsModule → StateLayout
  query : SrsModule → Option (WorkingState V) → List V → List V
  process : SrsModule → Option (WorkingState V) → List V → List V × WorkingState V
  layered : ∀ module, 0 < (layout module).time.length ∧
    (layout module).channel.length = (layout module).time.length
  querySized : ∀ module state row, OfLayout (layout module) state → row.length = channels →
    (query module state row).length = channels
  processSized : ∀ module state row, OfLayout (layout module) state → row.length = channels →
    (process module state row).1.length = channels
  keepsLayout : ∀ module state row, OfLayout (layout module) state → row.length = channels →
    layoutOf (process module state row).2 = layout module

/-- Rows of a batch start all without a state, or all from one. -/
def Uniform (states : List (Option (WorkingState V))) : Prop :=
  (∀ state ∈ states, state = none) ∨ ∀ state ∈ states, state.isSome

def heldStates (layout : StateLayout) (states : List (Option (WorkingState V))) :
    Option (BulkWorkingModuleState V) :=
  if states.all Option.isNone then none else some (joinedStates layout (states.filterMap id))

/-- The batched forwards of a network are row-wise equal to the forwards of single rows. -/
structure RowWise (network : BulkNetwork F V Curve) (rows : RowForwards V) : Prop where
  channels : network.channels = rows.channels
  query : ∀ (module : SrsModule) (lanes : List (Option (WorkingState V) × List V)), lanes ≠ [] →
    Uniform (lanes.map Prod.fst) →
    (∀ lane ∈ lanes, OfLayout (rows.layout module) lane.1 ∧ lane.2.length = rows.channels) →
    network.predictForwardValues module (lanes.map Prod.snd).flatten lanes.length
      (heldStates (rows.layout module) (lanes.map Prod.fst)) =
        .ok (lanes.map fun lane => rows.query module lane.1 lane.2).flatten
  process : ∀ (module : SrsModule) (lanes : List (Option (WorkingState V) × List V)), lanes ≠ [] →
    Uniform (lanes.map Prod.fst) →
    (∀ lane ∈ lanes, OfLayout (rows.layout module) lane.1 ∧ lane.2.length = rows.channels) →
    network.forwardValues module (lanes.map Prod.snd).flatten lanes.length
      (heldStates (rows.layout module) (lanes.map Prod.fst)) =
        .ok ((lanes.map fun lane => (rows.process module lane.1 lane.2).1).flatten,
          joinedTime (rows.layout module)
            (lanes.map fun lane => (rows.process module lane.1 lane.2).2),
          joinedChannel (rows.layout module)
            (lanes.map fun lane => (rows.process module lane.1 lane.2).2))

section Held

variable {layout : StateLayout}

theorem held_none {states : List (Option (WorkingState V))}
    (none : ∀ state ∈ states, state = none) :
    heldStates layout states = Option.none := by
  apply if_pos
  rw [List.all_eq_true]
  intro state member
  rw [none state member]
  rfl

theorem held_some {states : List (WorkingState V)} (some : states ≠ []) :
    heldStates layout (states.map Option.some) = Option.some (joinedStates layout states) := by
  have kept : (states.map Option.some).filterMap id = states := by simp [List.filterMap_map]
  rw [heldStates, if_neg, kept]
  intro none
  cases states with
  | nil => exact some rfl
  | cons state states => simp at none

theorem over_single {Shape Layer Target : Type} {Fits : Shape → Layer → Prop}
    {make : Shape → List Layer → Target} {one : Layer → Target} {shapes : List Shape}
    {layers : List Layer} (fitted : List.Forall₂ Fits shapes layers)
    (makes : ∀ shape layer, Fits shape layer → make shape [layer] = one layer) :
    overColumns make shapes [layers] = layers.map one := by
  induction fitted with
  | nil => rfl
  | @cons shape layer shapes layers fits _ ih =>
      change make shape [layer] :: overColumns make shapes [layers] = _
      rw [makes shape layer fits, ih]
      rfl

theorem joined_single {state : WorkingState V} (own : layoutOf state = layout) :
    joinedStates layout [state] = state.1 := by
  have uniform : ∀ one ∈ [state], layoutOf one = layout := by
    intro one member
    rw [List.mem_singleton.mp member]
    exact own
  have timeFits := time_shapes uniform (timeLayersOf state) (by simp)
  have channelFits := channel_shapes uniform (channelFlatLayersOf state) (by simp)
  have time : joinedTime layout [state] = (timeLayersOf state).map id := by
    apply over_single timeFits
    rintro shape layer ⟨rfl, _⟩
    simp [joinTime, timeShape]
  have channel : joinedChannel layout [state] = (channelFlatLayersOf state).map id := by
    apply over_single channelFits
    rintro shape layer ⟨rfl, _⟩
    simp [joinChannel]
  rw [joinedStates, time, channel, List.map_id, List.map_id, ← working_flat state]

theorem held_single {state : Option (WorkingState V)} (own : OfLayout layout state) :
    heldStates layout [state] = state.map Subtype.val := by
  cases state with
  | none => rfl
  | some one =>
      have held := @held_some V layout [one] (by simp)
      rw [List.map_singleton] at held
      rw [held, joined_single (own one rfl)]
      rfl

end Held

section Lanes

variable {network : BulkNetwork F V Curve} {rows : RowForwards V} {module : SrsModule}
  {input : BulkModuleInput V}

def queryRow (input : BulkModuleInput V) (rowIndex : Nat) : List V :=
  input.queryRows.getD rowIndex []

def processRow (input : BulkModuleInput V) (rowIndex : Nat) : List V :=
  input.processRows.getD rowIndex []

def laneQuery (rows : RowForwards V) (module : SrsModule) (input : BulkModuleInput V)
    (lane : Option (WorkingState V) × Nat) : List V :=
  rows.query module lane.1 (queryRow input lane.2)

def laneProcess (rows : RowForwards V) (module : SrsModule) (input : BulkModuleInput V)
    (lane : Option (WorkingState V) × Nat) : List V × WorkingState V :=
  rows.process module lane.1 (processRow input lane.2)

/-- A lane's state has the module's layout, and both of its rows their width. -/
structure LaneFits (rows : RowForwards V) (module : SrsModule) (input : BulkModuleInput V)
    (lane : Option (WorkingState V) × Nat) : Prop where
  state : OfLayout (rows.layout module) lane.1
  query : (queryRow input lane.2).length = rows.channels
  process : (processRow input lane.2).length = rows.channels

def lanesOutput (rows : RowForwards V) (module : SrsModule) (input : BulkModuleInput V)
    (lanes : List (Option (WorkingState V) × Nat)) : BatchOutput V where
  queryValues := (lanes.map (laneQuery rows module input)).flatten
  processValues := (lanes.map fun lane => (laneProcess rows module input lane).1).flatten
  timeStateByLayer := joinedTime (rows.layout module)
    (lanes.map fun lane => (laneProcess rows module input lane).2)
  channelStateByLayer := joinedChannel (rows.layout module)
    (lanes.map fun lane => (laneProcess rows module input lane).2)

theorem forward_lanes (rowWise : RowWise network rows)
    {lanes : List (Option (WorkingState V) × Nat)} (some : lanes ≠ [])
    (uniform : Uniform (lanes.map Prod.fst))
    (fits : ∀ lane ∈ lanes, LaneFits rows module input lane) :
    forwardBatch network module input (lanes.map Prod.snd)
      (heldStates (rows.layout module) (lanes.map Prod.fst)) =
        .ok (lanesOutput rows module input lanes) := by
  have query := rowWise.query module (lanes.map fun lane => (lane.1, queryRow input lane.2))
    (by simpa using some) (by simpa [Function.comp_def] using uniform) (by
      intro pair member
      obtain ⟨lane, within, rfl⟩ := List.mem_map.mp member
      exact ⟨(fits lane within).state, (fits lane within).query⟩)
  have process := rowWise.process module (lanes.map fun lane => (lane.1, processRow input lane.2))
    (by simpa using some) (by simpa [Function.comp_def] using uniform) (by
      intro pair member
      obtain ⟨lane, within, rfl⟩ := List.mem_map.mp member
      exact ⟨(fits lane within).state, (fits lane within).process⟩)
  simp only [List.map_map, Function.comp_def, List.length_map] at query process
  have queryValues : batchValues input.queryRows (lanes.map Prod.snd) =
      (lanes.map fun lane => queryRow input lane.2).flatten := by
    rw [batchValues, List.flatMap_def, List.map_map]
    rfl
  have processValues : batchValues input.processRows (lanes.map Prod.snd) =
      (lanes.map fun lane => processRow input lane.2).flatten := by
    rw [batchValues, List.flatMap_def, List.map_map]
    rfl
  unfold forwardBatch
  rw [queryValues, processValues, List.length_map]
  exact bind_ok.mpr ⟨_, query, bind_ok.mpr ⟨_, process, rfl⟩⟩

theorem lane_query_sized {lane : Option (WorkingState V) × Nat}
    (fits : LaneFits rows module input lane) :
    (laneQuery rows module input lane).length = rows.channels :=
  rows.querySized module lane.1 _ fits.state fits.query

theorem lane_process_sized {lane : Option (WorkingState V) × Nat}
    (fits : LaneFits rows module input lane) :
    (laneProcess rows module input lane).1.length = rows.channels :=
  rows.processSized module lane.1 _ fits.state fits.process

theorem lane_keeps_layout {lane : Option (WorkingState V) × Nat}
    (fits : LaneFits rows module input lane) :
    layoutOf (laneProcess rows module input lane).2 = rows.layout module :=
  rows.keepsLayout module lane.1 _ fits.state fits.process

variable {lanes : List (Option (WorkingState V) × Nat)}

theorem lanes_queries_sized (fits : ∀ lane ∈ lanes, LaneFits rows module input lane) :
    Sized rows.channels (lanes.map (laneQuery rows module input)) := by
  intro values member
  obtain ⟨lane, within, rfl⟩ := List.mem_map.mp member
  exact lane_query_sized (fits lane within)

theorem lanes_processes_sized (fits : ∀ lane ∈ lanes, LaneFits rows module input lane) :
    Sized rows.channels (lanes.map fun lane => (laneProcess rows module input lane).1) := by
  intro values member
  obtain ⟨lane, within, rfl⟩ := List.mem_map.mp member
  exact lane_process_sized (fits lane within)

theorem lanes_uniform (fits : ∀ lane ∈ lanes, LaneFits rows module input lane) :
    ∀ state ∈ lanes.map (fun lane => (laneProcess rows module input lane).2),
      layoutOf state = rows.layout module := by
  intro state member
  obtain ⟨lane, within, rfl⟩ := List.mem_map.mp member
  exact lane_keeps_layout (fits lane within)

theorem check_lanes (rowWise : RowWise network rows)
    (fits : ∀ lane ∈ lanes, LaneFits rows module input lane) (batch : String) :
    checkBatchValues module batch (lanes.length * network.channels)
      (lanesOutput rows module input lanes) = .ok () := by
  have query := flatten_length (lanes_queries_sized fits)
  have process := flatten_length (lanes_processes_sized fits)
  rw [List.length_map] at query process
  unfold checkBatchValues
  rw [rowWise.channels, if_neg, if_neg]
  · exact not_not.mpr process
  · exact not_not.mpr query

/-- A row of the batch is stored with the outputs of its own lane. -/
theorem store_lane (rowWise : RowWise network rows)
    (fits : ∀ lane ∈ lanes, LaneFits rows module input lane) {i : Nat}
    {lane : Option (WorkingState V) × Nat} (found : lanes[i]? = some lane)
    (progress : BulkModuleProgress V) :
    storeBatchRow network module (lanesOutput rows module input lanes) progress i lane.2 =
      progress.storeRow module lane.2 (laneQuery rows module input lane)
        (laneProcess rows module input lane).1 := by
  obtain ⟨inside, here⟩ := List.getElem?_eq_some_iff.mp found
  have query := slice_block (lanes_queries_sized fits) (by simpa using inside)
  have process := slice_block (lanes_processes_sized fits) (by simpa using inside)
  rw [List.getElem_map, here] at query process
  rw [storeBatchRow, rowWise.channels]
  simp only [lanesOutput, query, process]

/-- The state read back for a row of the batch is the next state of its lane. -/
theorem lane_state (fits : ∀ lane ∈ lanes, LaneFits rows module input lane) {i : Nat}
    {lane : Option (WorkingState V) × Nat} (found : lanes[i]? = some lane) :
    batchRowState (lanesOutput rows module input lanes) i lanes.length =
      PipelineStages.toNative (laneProcess rows module input lane).2 := by
  have next : (lanes.map fun lane => (laneProcess rows module input lane).2)[i]? =
      some (laneProcess rows module input lane).2 := by
    rw [List.getElem?_map, found]
    rfl
  have row := joined_batch_row (lanes_uniform fits) next
  rw [List.length_map] at row
  rw [batchRowState, PipelineStages.toNative]
  simp only [lanesOutput]
  rw [row]
  rfl

end Lanes

end RwkvSrs.RowWiseBatches
