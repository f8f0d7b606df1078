import RwkvSrs.RowWiseBatches
import RwkvSrs.StreamLoops

/-!
The streams of a bulk module run alone, and the progress of the executor over
them: rows stored with the outputs they have in their stream, and finished streams
with the state after all their rows. The batch of new singletons makes such
progress.
-/

namespace RwkvSrs.BulkStreamRuns

open RwkvSrs.ResultSteps RwkvSrs.StreamLoops RwkvSrs.ModuleState RwkvSrs.NativeRnnState
open RwkvSrs.StrideBlocks RwkvSrs.BulkStateBatch RwkvSrs.BulkStateJoin RwkvSrs.BulkStateNative
open RwkvSrs.PipelineStages RwkvSrs.PipelineLine RwkvSrs.BulkStreamPlan RwkvSrs.BulkExecution
open RwkvSrs.RowWiseBatches

set_option autoImplicit false

variable {F V Curve : Type}

/-- The state after a row, from the state before it. -/
def rowStep (rows : RowForwards V) (module : SrsModule) (input : BulkModuleInput V)
    (state : Option (WorkingState V)) (rowIndex : Nat) : Option (WorkingState V) :=
  some (laneProcess rows module input (state, rowIndex)).2

/-- What one row of a stream needs and is to give. -/
structure RowExpected (rows : RowForwards V) (module : SrsModule) (input : BulkModuleInput V)
    (rowCount : Nat) (queryOut processOut : Nat → List V) (state : Option (WorkingState V))
    (rowIndex : Nat) : Prop where
  inside : rowIndex < rowCount
  query : (queryRow input rowIndex).length = rows.channels
  process : (processRow input rowIndex).length = rows.channels
  queryOut : queryOut rowIndex = laneQuery rows module input (state, rowIndex)
  processOut : processOut rowIndex = (laneProcess rows module input (state, rowIndex)).1

/-- The streams of a module with the states they start from and the outputs of their rows. -/
structure StreamWork (rnn : NativeRnn V) (module : SrsModule) where
  rows : RowForwards V
  input : BulkModuleInput V
  plan : BulkModuleStreamPlan
  start : Option Int64 → Option (WorkingState V)
  rowCount : Nat
  queryOut : Nat → List V
  processOut : Nat → List V
  starts : ∀ stream ∈ plan.streams,
    currentState (initialModuleState module rnn stream.key) = .ok (start stream.key)
  matching : ∀ stream ∈ plan.streams, ∀ native,
    initialModuleState module rnn stream.key = some native → LayersMatch native
  existing : ∀ stream ∈ plan.streams, stream.startsExisting = (start stream.key).isSome
  laid : ∀ stream ∈ plan.streams, OfLayout (rows.layout module) (start stream.key)
  expected : ∀ stream ∈ plan.streams, ∀ (depth rowIndex : Nat),
    stream.rows[depth]? = some rowIndex →
      RowExpected rows module input rowCount queryOut processOut
        ((stream.rows.take depth).foldl (rowStep rows module input) (start stream.key)) rowIndex

section Work

variable {rnn : NativeRnn V} {module : SrsModule} (work : StreamWork rnn module)

def StreamWork.step (state : Option (WorkingState V)) (rowIndex : Nat) :
    Option (WorkingState V) := rowStep work.rows module work.input state rowIndex

/-- The state of a stream before its row at a depth. -/
def StreamWork.stateAt (stream : BulkStream) (depth : Nat) : Option (WorkingState V) :=
  (stream.rows.take depth).foldl work.step (work.start stream.key)

def StreamWork.laneAt (stream : BulkStream) (depth rowIndex : Nat) :
    Option (WorkingState V) × Nat := (work.stateAt stream depth, rowIndex)

def StreamWork.next (lane : Option (WorkingState V) × Nat) : WorkingState V :=
  (laneProcess work.rows module work.input lane).2

def StreamWork.lanes (streams : List BulkStream) (depth : Nat) :
    List (Option (WorkingState V) × Nat) :=
  streams.map fun stream => work.laneAt stream depth (stream.rows.getD depth 0)

variable {work} {stream : BulkStream} {depth rowIndex : Nat}

theorem state_at_next (work : StreamWork rnn module)
    (found : stream.rows[depth]? = some rowIndex) :
    work.stateAt stream (depth + 1) = some (work.next (work.laneAt stream depth rowIndex)) := by
  rw [StreamWork.stateAt, take_next found, List.foldl_append]
  rfl

theorem row_expected (member : stream ∈ work.plan.streams)
    (found : stream.rows[depth]? = some rowIndex) :
    RowExpected work.rows module work.input work.rowCount work.queryOut work.processOut
      (work.stateAt stream depth) rowIndex := work.expected stream member depth rowIndex found

theorem state_at_laid (member : stream ∈ work.plan.streams) (inside : depth ≤ stream.rows.length) :
    OfLayout (work.rows.layout module) (work.stateAt stream depth) := by
  induction depth with
  | zero => exact work.laid stream member
  | succ depth ih =>
      have found : stream.rows[depth]? = some stream.rows[depth] :=
        List.getElem?_eq_getElem (by omega)
      have expected := row_expected member found
      intro one same
      rw [state_at_next work found] at same
      cases same
      exact work.rows.keepsLayout module _ _ (ih (by omega)) expected.process

theorem lane_fits (member : stream ∈ work.plan.streams)
    (found : stream.rows[depth]? = some rowIndex) :
    LaneFits work.rows module work.input (work.laneAt stream depth rowIndex) := by
  have inside := (List.getElem?_eq_some_iff.mp found).1
  have expected := row_expected member found
  exact ⟨state_at_laid member (by omega), expected.query, expected.process⟩

def StreamWork.RowStored (work : StreamWork rnn module) (progress : BulkModuleProgress V)
    (rowIndex : Nat) : Prop :=
  progress.queryOutputs.rows[rowIndex]? = some (some (work.queryOut rowIndex)) ∧
    progress.processOutputs.rows[rowIndex]? = some (some (work.processOut rowIndex))

/-- The entry a finished stream leaves: its key and the state after all its rows. -/
def StreamWork.Final (work : StreamWork rnn module) (streamIndex : Nat)
    (entry : Int64 × NativeRnnModuleState V) : Prop :=
  ∃ stream working, work.plan.streams[streamIndex]? = some stream ∧ stream.key = some entry.1 ∧
    work.stateAt stream stream.rows.length = some working ∧ toNative working = .ok entry.2

/-- The streams passed by later on, and those whose final states are kept already. -/
structure Progressed (work : StreamWork rnn module) (skipped finished : List Nat)
    (progress : BulkModuleProgress V) : Prop where
  queryChannels : progress.queryOutputs.channels = work.rows.channels
  queryCount : progress.queryOutputs.rows.length = work.rowCount
  processChannels : progress.processOutputs.channels = work.rows.channels
  processCount : progress.processOutputs.rows.length = work.rowCount
  skips : ∀ j, j < work.plan.streams.length →
    progress.skipStreams[j]? = some (decide (j ∈ skipped))
  finals : List.Forall₂ work.Final finished progress.keyedFinalStates
  distinct : finished.Nodup
  stored : ∀ j ∈ finished, ∀ stream, work.plan.streams[j]? = some stream →
    ∀ rowIndex ∈ stream.rows, work.RowStored progress rowIndex

/-- The progress with a row's outputs at the row's place. -/
def StreamWork.store (work : StreamWork rnn module) (progress : BulkModuleProgress V)
    (rowIndex : Nat) : BulkModuleProgress V :=
  { progress with
    queryOutputs := { progress.queryOutputs with
      rows := progress.queryOutputs.rows.set rowIndex (some (work.queryOut rowIndex)) }
    processOutputs := { progress.processOutputs with
      rows := progress.processOutputs.rows.set rowIndex (some (work.processOut rowIndex)) } }

variable {skipped finished : List Nat} {progress : BulkModuleProgress V}

theorem store_values_ok {outputs : OrderedModuleRows V} {row : List V}
    (inside : rowIndex < outputs.rows.length) (sized : row.length = outputs.channels)
    (name fieldName : String) :
    outputs.storeValues rowIndex row name fieldName =
      .ok { outputs with rows := outputs.rows.set rowIndex (some row) } := by
  unfold OrderedModuleRows.storeValues
  rw [if_neg (by omega), if_neg (not_not.mpr sized)]

theorem store_expected {state : Option (WorkingState V)}
    (laid : OfLayout (work.rows.layout module) state)
    (expected : RowExpected work.rows module work.input work.rowCount work.queryOut
      work.processOut state rowIndex) (progressed : Progressed work skipped finished progress) :
    progress.storeRow module rowIndex (laneQuery work.rows module work.input (state, rowIndex))
      (laneProcess work.rows module work.input (state, rowIndex)).1 =
        .ok (work.store progress rowIndex) := by
  have fits : LaneFits work.rows module work.input (state, rowIndex) :=
    ⟨laid, expected.query, expected.process⟩
  have query := store_values_ok (by rw [progressed.queryCount]; exact expected.inside)
    ((lane_query_sized fits).trans progressed.queryChannels.symm) (moduleName module)
    "query_outputs"
  have process := store_values_ok (by rw [progressed.processCount]; exact expected.inside)
    ((lane_process_sized fits).trans progressed.processChannels.symm) (moduleName module)
    "process_outputs"
  rw [← expected.queryOut] at query ⊢
  rw [← expected.processOut] at process ⊢
  exact bind_ok.mpr ⟨_, query, bind_ok.mpr ⟨_, process, rfl⟩⟩

theorem stored_other {other : Nat} (stored : work.RowStored progress other) :
    work.RowStored (work.store progress rowIndex) other := by
  obtain ⟨query, process⟩ := stored
  have queryInside := (List.getElem?_eq_some_iff.mp query).1
  have processInside := (List.getElem?_eq_some_iff.mp process).1
  by_cases same : rowIndex = other
  · subst same
    constructor
    · simp [StreamWork.store, queryInside]
    · simp [StreamWork.store, processInside]
  · constructor
    · simpa [StreamWork.store, List.getElem?_set, same] using query
    · simpa [StreamWork.store, List.getElem?_set, same] using process

theorem stored_self (progressed : Progressed work skipped finished progress)
    (inside : rowIndex < work.rowCount) :
    work.RowStored (work.store progress rowIndex) rowIndex := by
  constructor
  · simp [StreamWork.store, progressed.queryCount, inside]
  · simp [StreamWork.store, progressed.processCount, inside]

theorem progressed_store (progressed : Progressed work skipped finished progress) :
    Progressed work skipped finished (work.store progress rowIndex) where
  queryChannels := progressed.queryChannels
  queryCount := by simpa [StreamWork.store] using progressed.queryCount
  processChannels := progressed.processChannels
  processCount := by simpa [StreamWork.store] using progressed.processCount
  skips := progressed.skips
  finals := progressed.finals
  distinct := progressed.distinct
  stored j member stream found other within :=
    stored_other (progressed.stored j member stream found other within)

theorem forall₂_snoc {Left Right : Type} {Pair : Left → Right → Prop} {lefts : List Left}
    {rights : List Right} {left : Left} {right : Right} (pairs : List.Forall₂ Pair lefts rights)
    (last : Pair left right) : List.Forall₂ Pair (lefts ++ [left]) (rights ++ [right]) :=
  List.rel_append pairs (.cons last .nil)

/-- A stream whose rows are all stored may keep its final state. -/
theorem progressed_final {streamIndex : Nat} {key : Int64} {native : NativeRnnModuleState V}
    (progressed : Progressed work skipped finished progress)
    (found : work.plan.streams[streamIndex]? = some stream)
    (fresh : streamIndex ∉ finished) (final : work.Final streamIndex (key, native))
    (stored : ∀ rowIndex ∈ stream.rows, work.RowStored progress rowIndex) :
    Progressed work skipped (finished ++ [streamIndex])
      { progress with keyedFinalStates := progress.keyedFinalStates ++ [(key, native)] } where
  queryChannels := progressed.queryChannels
  queryCount := progressed.queryCount
  processChannels := progressed.processChannels
  processCount := progressed.processCount
  skips := progressed.skips
  finals := forall₂_snoc progressed.finals final
  distinct := nodup_snoc progressed.distinct fresh
  stored j member other at_ rowIndex within := by
    rcases List.mem_append.mp member with before | last
    · exact progressed.stored j before other at_ rowIndex within
    · rw [List.mem_singleton.mp last, found] at at_
      cases at_
      exact stored rowIndex within

/-- A finished stream is passed by from then on. -/
theorem progressed_finish {streamIndex : Nat} {key : Int64} {native : NativeRnnModuleState V}
    (progressed : Progressed work finished finished progress)
    (found : work.plan.streams[streamIndex]? = some stream)
    (fresh : streamIndex ∉ finished) (final : work.Final streamIndex (key, native))
    (stored : ∀ rowIndex ∈ stream.rows, work.RowStored progress rowIndex) :
    Progressed work (finished ++ [streamIndex]) (finished ++ [streamIndex])
      (progress.finishStream streamIndex key native) := by
  have kept := progressed_final progressed found fresh final stored
  refine ⟨kept.queryChannels, kept.queryCount, kept.processChannels, kept.processCount, ?_,
    kept.finals, kept.distinct, kept.stored⟩
  intro j inside
  have before := progressed.skips j inside
  have length := (List.getElem?_eq_some_iff.mp before).1
  rw [BulkModuleProgress.finishStream, List.getElem?_set]
  by_cases same : streamIndex = j
  · subst same
    simp [length]
  · simp [same, before, Ne.symm same]

theorem final_of_stream {streamIndex : Nat} {key : Int64} {working : WorkingState V}
    {native : NativeRnnModuleState V} (found : work.plan.streams[streamIndex]? = some stream)
    (own : stream.key = some key) (last : work.stateAt stream stream.rows.length = some working)
    (converted : toNative working = .ok native) : work.Final streamIndex (key, native) :=
  ⟨stream, working, found, own, last, converted⟩

section Singletons

variable {network : BulkNetwork F V Curve} {config : BulkConfig}

/-- The stream a singleton candidate stands for. -/
def StreamWork.SingletonOf (work : StreamWork rnn module) (candidate : SingletonCandidate)
    (stream : BulkStream) : Prop :=
  work.plan.streams[candidate.streamIndex]? = some stream ∧ stream.key = some candidate.key ∧
    stream.rows = [candidate.row] ∧ stream.startsExisting = false

/-- The candidates found among the streams before a position. -/
structure SingletonsFound (work : StreamWork rnn module) (position : Nat)
    (candidates : List SingletonCandidate) : Prop where
  streams : ∀ candidate ∈ candidates, ∃ stream, work.SingletonOf candidate stream
  before : ∀ candidate ∈ candidates, candidate.streamIndex < position
  distinct : (candidates.map SingletonCandidate.streamIndex).Nodup

theorem singletons_pass {position : Nat} {candidates : List SingletonCandidate}
    (found : SingletonsFound work position candidates) :
    SingletonsFound work (position + 1) candidates where
  streams := found.streams
  before candidate member := Nat.lt_succ_of_lt (found.before candidate member)
  distinct := found.distinct

theorem singletons_push {position row : Nat} {candidates : List SingletonCandidate} {key : Int64}
    (found : SingletonsFound work position candidates)
    (single : work.SingletonOf ⟨position, key, row⟩ stream) :
    SingletonsFound work (position + 1) (candidates ++ [⟨position, key, row⟩]) where
  streams candidate member := by
    rcases List.mem_append.mp member with before | last
    · exact found.streams candidate before
    · rw [List.mem_singleton.mp last]
      exact ⟨stream, single⟩
  before candidate member := by
    rcases List.mem_append.mp member with before | last
    · exact Nat.lt_succ_of_lt (found.before candidate before)
    · rw [List.mem_singleton.mp last]
      exact Nat.lt_succ_self position
  distinct := by
    rw [List.map_append]
    apply nodup_snoc found.distinct
    intro member
    obtain ⟨candidate, before, same⟩ := List.mem_map.mp member
    exact absurd (found.before candidate before) (by simp [same])

theorem singletons_found (keyed : ∀ stream ∈ work.plan.streams, ∃ key, stream.key = some key) :
    ∃ candidates, singletonCandidates module work.plan = .ok candidates ∧
      SingletonsFound work work.plan.streams.zipIdx.length candidates := by
  unfold singletonCandidates
  apply fold_positions (SingletonsFound work)
  · exact ⟨by simp, by simp, List.nodup_nil⟩
  · intro position item candidates at_ kept
    obtain ⟨stream, streamIndex⟩ := item
    obtain ⟨found, index⟩ := zip_index_at at_
    simp only at found index
    subst index
    obtain ⟨key, own⟩ := keyed stream (List.mem_of_getElem? found)
    simp only [own]
    split
    · rename_i row fresh single
      exact ⟨_, rfl, singletons_push kept ⟨found, own, single, fresh⟩⟩
    · exact ⟨_, rfl, singletons_pass kept⟩

def StreamWork.singletonLane (work : StreamWork rnn module) (candidate : SingletonCandidate) :
    Option (WorkingState V) × Nat := (work.start (some candidate.key), candidate.row)

theorem singleton_lane {candidate : SingletonCandidate}
    (single : work.SingletonOf candidate stream) :
    stream ∈ work.plan.streams ∧ stream.rows[0]? = some candidate.row ∧
      work.stateAt stream 0 = work.start (some candidate.key) ∧
      work.start (some candidate.key) = none := by
  obtain ⟨found, own, rows, fresh⟩ := single
  have member := List.mem_of_getElem? found
  have existing := work.existing stream member
  rw [fresh, own] at existing
  refine ⟨member, by rw [rows]; rfl, ?_, ?_⟩
  · rw [StreamWork.stateAt, own]
    rfl
  · simpa using existing.symm

theorem singleton_lanes_fit {candidates : List SingletonCandidate}
    (streams : ∀ candidate ∈ candidates, ∃ stream, work.SingletonOf candidate stream) :
    ∀ lane ∈ candidates.map work.singletonLane, LaneFits work.rows module work.input lane := by
  intro lane member
  obtain ⟨candidate, within, rfl⟩ := List.mem_map.mp member
  obtain ⟨stream, single⟩ := streams candidate within
  obtain ⟨inPlan, first, state, _⟩ := singleton_lane single
  have fits := lane_fits inPlan first
  rw [StreamWork.laneAt, state] at fits
  exact fits

/-- After the first candidates of the batch, their streams and no others are finished. -/
def SingletonsStored (work : StreamWork rnn module) (candidates : List SingletonCandidate)
    (position : Nat) (progress : BulkModuleProgress V) : Prop :=
  Progressed work ((candidates.take position).map SingletonCandidate.streamIndex)
    ((candidates.take position).map SingletonCandidate.streamIndex) progress

theorem singleton_row_stored {candidates : List SingletonCandidate} {position : Nat}
    {candidate : SingletonCandidate} (single : work.SingletonOf candidate stream)
    (stored : SingletonsStored work candidates position progress) :
    progress.storeRow module candidate.row
      (laneQuery work.rows module work.input (work.singletonLane candidate))
      (laneProcess work.rows module work.input (work.singletonLane candidate)).1 =
        .ok (work.store progress candidate.row) := by
  obtain ⟨inPlan, first, state, _⟩ := singleton_lane single
  have laid := state_at_laid inPlan (Nat.zero_le stream.rows.length)
  have expected := row_expected inPlan first
  rw [state] at laid expected
  exact store_expected laid expected stored

theorem singleton_finished {candidates : List SingletonCandidate} {position : Nat}
    {candidate : SingletonCandidate} {native : NativeRnnModuleState V}
    (distinct : (candidates.map SingletonCandidate.streamIndex).Nodup)
    (at_ : candidates[position]? = some candidate) (single : work.SingletonOf candidate stream)
    (stored : SingletonsStored work candidates position progress)
    (converted : toNative (work.next (work.singletonLane candidate)) = .ok native) :
    SingletonsStored work candidates (position + 1)
      ((work.store progress candidate.row).finishStream candidate.streamIndex candidate.key
        native) := by
  obtain ⟨inPlan, first, state, _⟩ := singleton_lane single
  have expected := row_expected inPlan first
  rw [SingletonsStored, take_next at_, List.map_append]
  apply progressed_finish (progressed_store stored) single.1 (fresh_at distinct at_)
  · apply final_of_stream single.1 single.2.1 ?_ converted
    have last := state_at_next work first
    rw [StreamWork.laneAt, state] at last
    rw [single.2.2.1]
    exact last
  · intro rowIndex within
    rw [single.2.2.1, List.mem_singleton] at within
    rw [within]
    exact stored_self stored expected.inside

theorem singleton_lanes_forward (rowWise : RowWise network work.rows)
    {candidates : List SingletonCandidate} (some : candidates ≠ [])
    (streams : ∀ candidate ∈ candidates, ∃ stream, work.SingletonOf candidate stream) :
    forwardBatch network module work.input (candidates.map SingletonCandidate.row) none =
      .ok (lanesOutput work.rows module work.input (candidates.map work.singletonLane)) := by
  have fresh : ∀ state ∈ (candidates.map work.singletonLane).map Prod.fst, state = none := by
    intro state member
    rw [List.map_map] at member
    obtain ⟨candidate, within, rfl⟩ := List.mem_map.mp member
    obtain ⟨stream, single⟩ := streams candidate within
    exact (singleton_lane single).2.2.2
  have forwarded := forward_lanes rowWise (by simpa using some) (Or.inl fresh)
    (singleton_lanes_fit streams)
  rw [held_none fresh, List.map_map] at forwarded
  exact forwarded

section Turns

variable {candidates : List SingletonCandidate} {position : Nat} {candidate : SingletonCandidate}
  (rowWise : RowWise network work.rows) (singles : SingletonsFound work depth candidates)
  (at_ : candidates[position]? = some candidate)
  (stored : SingletonsStored work candidates position progress)

include rowWise singles at_ stored

theorem singleton_batch_row :
    storeBatchRow network module
      (lanesOutput work.rows module work.input (candidates.map work.singletonLane)) progress
      position candidate.row = .ok (work.store progress candidate.row) := by
  obtain ⟨stream, single⟩ := singles.streams candidate (List.mem_of_getElem? at_)
  have lane : (candidates.map work.singletonLane)[position]? =
      some (work.singletonLane candidate) := by
    rw [List.getElem?_map, at_]
    rfl
  have row := store_lane rowWise (singleton_lanes_fit singles.streams) lane progress
  exact row.trans (singleton_row_stored single stored)

theorem singleton_view_turn {natives : List (NativeRnnModuleState V)}
    (converted : List.Forall₂ (fun state native => toNative state = .ok native)
      (candidates.map fun candidate => work.next (work.singletonLane candidate)) natives) :
    ∃ next, finishSingletonView network module
        (lanesOutput work.rows module work.input (candidates.map work.singletonLane)) natives
        progress (candidate, position) = .ok next ∧
      SingletonsStored work candidates (position + 1) next := by
  obtain ⟨stream, single⟩ := singles.streams candidate (List.mem_of_getElem? at_)
  have row := singleton_batch_row rowWise singles at_ stored
  obtain ⟨inside, here⟩ := List.getElem?_eq_some_iff.mp at_
  have bound : position < natives.length := by
    rw [← converted.length_eq, List.length_map]
    exact inside
  have own := converted.get (by simpa using inside) bound
  simp only [List.get_eq_getElem, List.getElem_map, here] at own
  refine ⟨_, ?_, singleton_finished singles.distinct at_ single stored own⟩
  refine bind_ok.mpr ⟨_, row, ?_⟩
  rw [List.getElem?_eq_getElem bound]
  rfl

theorem singleton_row_turn :
    ∃ next, finishSingletonRow network module
        (lanesOutput work.rows module work.input (candidates.map work.singletonLane))
        candidates.length progress (candidate, position) = .ok next ∧
      SingletonsStored work candidates (position + 1) next := by
  obtain ⟨stream, single⟩ := singles.streams candidate (List.mem_of_getElem? at_)
  have row := singleton_batch_row rowWise singles at_ stored
  have lane : (candidates.map work.singletonLane)[position]? =
      some (work.singletonLane candidate) := by
    rw [List.getElem?_map, at_]
    rfl
  have state := lane_state (singleton_lanes_fit singles.streams) lane
  rw [List.length_map] at state
  obtain ⟨native, converted, _⟩ := to_native_ok (work.next (work.singletonLane candidate))
  refine ⟨_, ?_, singleton_finished singles.distinct at_ single stored converted⟩
  exact bind_ok.mpr ⟨_, row, bind_ok.mpr ⟨native, state.trans converted, rfl⟩⟩

end Turns

theorem singleton_natives {candidates : List SingletonCandidate}
    (streams : ∀ candidate ∈ candidates, ∃ stream, work.SingletonOf candidate stream) :
    ∃ natives, List.Forall₂ (fun state native => toNative state = .ok native)
        (candidates.map fun candidate => work.next (work.singletonLane candidate)) natives ∧
      nativeModuleStatesFromBatchedFlatWorking
        (lanesOutput work.rows module work.input
          (candidates.map work.singletonLane)).timeStateByLayer
        (lanesOutput work.rows module work.input
          (candidates.map work.singletonLane)).channelStateByLayer candidates.length =
            .ok natives := by
  have each : ∀ state ∈ candidates.map fun candidate => work.next (work.singletonLane candidate),
      ∃ native, toNative state = .ok native := by
    intro state _
    obtain ⟨native, converted, _⟩ := to_native_ok state
    exact ⟨native, converted⟩
  obtain ⟨natives, converted⟩ := mapM_each_ok each
  have pairs := mapM_ok converted
  have nexts : (candidates.map work.singletonLane).map
      (fun lane => (laneProcess work.rows module work.input lane).2) =
        candidates.map fun candidate => work.next (work.singletonLane candidate) := by
    rw [List.map_map]
    rfl
  have uniform := lanes_uniform (singleton_lanes_fit streams)
  rw [nexts] at uniform
  have views := native_views uniform pairs
  rw [List.length_map] at views
  refine ⟨natives, pairs, ?_⟩
  simp only [lanesOutput, nexts]
  exact views

/-- The batch of new singletons finishes some streams and leaves all others alone. -/
theorem singletons_run (rowWise : RowWise network work.rows)
    (keyed : ∀ stream ∈ work.plan.streams, ∃ key, stream.key = some key)
    (begun : Progressed work [] [] progress) :
    ∃ next, executeNewSingletonStreamBatchValues config network module work.plan work.input
        progress = .ok next ∧ ∃ finished, Progressed work finished finished next := by
  obtain ⟨candidates, found, singles⟩ := singletons_found keyed
  unfold executeNewSingletonStreamBatchValues
  rw [found]
  by_cases few : candidates.length < 2
  · exact ⟨progress, by simp [bind, Except.bind, few, pure, Except.pure], [], begun⟩
  · have some : candidates ≠ [] := by
      intro none
      simp [none] at few
    have forwarded := singleton_lanes_forward rowWise some singles.streams
    have checked := check_lanes rowWise (singleton_lanes_fit singles.streams) "singleton"
    rw [List.length_map] at checked
    have count : candidates.zipIdx.length = candidates.length := List.length_zipIdx
    obtain ⟨natives, converted, views⟩ := singleton_natives singles.streams
    obtain ⟨viewed, viewRun, viewStored⟩ := fold_positions (SingletonsStored work candidates)
      candidates.zipIdx begun (by
        intro position item before at_ stored
        obtain ⟨candidate, batchIndex⟩ := item
        obtain ⟨here, rfl⟩ := zip_index_at at_
        exact singleton_view_turn rowWise singles here stored converted)
    obtain ⟨rowed, rowRun, rowStored⟩ := fold_positions (SingletonsStored work candidates)
      candidates.zipIdx begun (by
        intro position item before at_ stored
        obtain ⟨candidate, batchIndex⟩ := item
        obtain ⟨here, rfl⟩ := zip_index_at at_
        exact singleton_row_turn rowWise singles here stored)
    have enough : ¬natives.length > candidates.length := by
      have same := converted.length_eq
      rw [List.length_map] at same
      omega
    by_cases asViews : config.newSingletonStateViews
    · refine ⟨viewed, ?_, _, viewStored⟩
      refine bind_ok.mpr ⟨candidates, rfl, ?_⟩
      simp only [if_neg few, asViews, if_true]
      refine bind_ok.mpr ⟨_, forwarded, bind_ok.mpr ⟨(), checked, ?_⟩⟩
      refine bind_ok.mpr ⟨natives, views, bind_ok.mpr ⟨viewed, viewRun, ?_⟩⟩
      rw [if_neg enough]
      rfl
    · refine ⟨rowed, ?_, _, rowStored⟩
      refine bind_ok.mpr ⟨candidates, rfl, ?_⟩
      simp only [if_neg few, asViews]
      exact bind_ok.mpr ⟨_, forwarded, bind_ok.mpr ⟨(), checked, rowRun⟩⟩

end Singletons

end Work

end RwkvSrs.BulkStreamRuns
