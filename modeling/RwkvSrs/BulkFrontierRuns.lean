import RwkvSrs.BulkStreamRuns

/-!
The frontiers of a bulk module. Whatever depth a frontier is at, the batch holds
for each active candidate the state its stream has there, so that every depth
stores the rows the streams have at it and the last row of a stream finishes it.
-/

namespace RwkvSrs.BulkFrontierRuns

open RwkvSrs.ResultSteps RwkvSrs.StreamLoops RwkvSrs.ModuleState RwkvSrs.NativeRnnState
open RwkvSrs.BulkStateBatch RwkvSrs.BulkStateJoin RwkvSrs.BulkStateNative RwkvSrs.PipelineStages
open RwkvSrs.PipelineLine RwkvSrs.BulkStreamPlan RwkvSrs.BulkExecution RwkvSrs.RowWiseBatches
open RwkvSrs.BulkStreamRuns

set_option autoImplicit false

variable {F V Curve : Type} {rnn : NativeRnn V} {module : SrsModule} {work : StreamWork rnn module}
  {stream : BulkStream} {depth rowIndex : Nat} {skipped finished : List Nat}
  {progress : BulkModuleProgress V}

variable {network : BulkNetwork F V Curve} {config : BulkConfig}

/-- The stream a frontier candidate stands for. -/
structure CandidateOf (work : StreamWork rnn module) (candidate : BulkPersistentFrontierCandidate)
    (stream : BulkStream) : Prop where
  found : work.plan.streams[candidate.streamIndex]? = some stream
  key : stream.key = some candidate.key
  rows : candidate.rows = stream.rows

def frontierState (work : StreamWork rnn module) (depth : Nat)
    (candidate : BulkPersistentFrontierCandidate) : Option (WorkingState V) :=
  (candidate.rows.take depth).foldl work.step (work.start (some candidate.key))

def frontierLane (work : StreamWork rnn module) (depth : Nat)
    (candidate : BulkPersistentFrontierCandidate) : Option (WorkingState V) × Nat :=
  (frontierState work depth candidate, candidate.rows.getD depth 0)

theorem frontier_state_at {candidate : BulkPersistentFrontierCandidate}
    (own : CandidateOf work candidate stream) (depth : Nat) :
    frontierState work depth candidate = work.stateAt stream depth := by
  rw [frontierState, StreamWork.stateAt, own.rows, own.key]

/-- A candidate that has a row at a depth and whose rows before it are stored. -/
structure ActiveAt (work : StreamWork rnn module) (finished : List Nat)
    (progress : BulkModuleProgress V) (depth turns : Nat)
    (candidate : BulkPersistentFrontierCandidate) : Prop where
  stream : ∃ stream, CandidateOf work candidate stream
  unfinished : candidate.streamIndex ∉ finished
  inside : depth < candidate.rows.length
  bounded : candidate.rows.length ≤ depth + turns
  stored : ∀ rowIndex ∈ candidate.rows.take depth, work.RowStored progress rowIndex

theorem frontier_lane {candidate : BulkPersistentFrontierCandidate}
    (own : CandidateOf work candidate stream) (inside : depth < candidate.rows.length) :
    stream ∈ work.plan.streams ∧ stream.rows[depth]? = some (candidate.rows.getD depth 0) ∧
      frontierLane work depth candidate =
        work.laneAt stream depth (candidate.rows.getD depth 0) := by
  refine ⟨List.mem_of_getElem? own.found, ?_, ?_⟩
  · rw [← own.rows, List.getD_eq_getElem?_getD, List.getElem?_eq_getElem inside]
    rfl
  · rw [frontierLane, frontier_state_at own]
    rfl

theorem frontier_lane_fits {candidate : BulkPersistentFrontierCandidate}
    (own : CandidateOf work candidate stream) (inside : depth < candidate.rows.length) :
    LaneFits work.rows module work.input (frontierLane work depth candidate) := by
  obtain ⟨member, found, same⟩ := frontier_lane own inside
  rw [same]
  exact lane_fits member found

theorem frontier_state_next {candidate : BulkPersistentFrontierCandidate}
    (own : CandidateOf work candidate stream) (inside : depth < candidate.rows.length) :
    frontierState work (depth + 1) candidate =
      some (work.next (frontierLane work depth candidate)) := by
  obtain ⟨member, found, same⟩ := frontier_lane own inside
  rw [frontier_state_at own, same]
  exact state_at_next work found

/-- One depth of a frontier: the first candidates of the batch are stored, and finished or kept. -/
structure DepthKept (work : StreamWork rnn module) (active : List BulkPersistentFrontierCandidate)
    (finished : List Nat) (depth : Nat) (begun : BulkModuleProgress V) (position : Nat)
    (turn : FrontierDepth V) : Prop where
  progressed : ∃ now, Progressed work now now turn.progress ∧
    ∀ j ∈ now, j ∈ finished ∨ ∃ candidate ∈ active.take position,
      candidate.streamIndex = j ∧ depth + 1 = candidate.rows.length
  continuing : turn.continuing = (active.zipIdx.take position).filter fun pair =>
    decide (depth + 1 ≠ pair.1.rows.length)
  kept : ∀ rowIndex, work.RowStored begun rowIndex → work.RowStored turn.progress rowIndex
  rows : ∀ candidate ∈ active.take position,
    work.RowStored turn.progress (candidate.rows.getD depth 0)

section Depth

variable {active : List BulkPersistentFrontierCandidate} {turns position : Nat}
  {begun : BulkModuleProgress V} {turn : FrontierDepth V}
  {candidate : BulkPersistentFrontierCandidate}

theorem active_lanes_fit
    (actives : ∀ candidate ∈ active, ActiveAt work finished begun depth turns candidate) :
    ∀ lane ∈ active.map (frontierLane work depth), LaneFits work.rows module work.input lane := by
  intro lane member
  obtain ⟨candidate, within, rfl⟩ := List.mem_map.mp member
  have here := actives candidate within
  obtain ⟨stream, own⟩ := here.stream
  exact frontier_lane_fits own here.inside

theorem frontier_batch_row (rowWise : RowWise network work.rows)
    (actives : ∀ candidate ∈ active, ActiveAt work finished begun depth turns candidate)
    (at_ : active[position]? = some candidate)
    {now : List Nat} (progressed : Progressed work now now progress) :
    storeBatchRow network module
      (lanesOutput work.rows module work.input (active.map (frontierLane work depth))) progress
      position (candidate.rows.getD depth 0) =
        .ok (work.store progress (candidate.rows.getD depth 0)) := by
  have here := actives candidate (List.mem_of_getElem? at_)
  obtain ⟨stream, own⟩ := here.stream
  obtain ⟨member, found, same⟩ := frontier_lane own here.inside
  have lane : (active.map (frontierLane work depth))[position]? =
      some (frontierLane work depth candidate) := by
    rw [List.getElem?_map, at_]
    rfl
  have row := store_lane rowWise (active_lanes_fit actives) lane progress
  rw [same] at row
  have bound := (List.getElem?_eq_some_iff.mp found).1
  exact row.trans (store_expected (state_at_laid member (by omega)) (row_expected member found)
    progressed)

theorem depth_store
    (actives : ∀ candidate ∈ active, ActiveAt work finished begun depth turns candidate)
    (at_ : active[position]? = some candidate)
    (kept : DepthKept work active finished depth begun position turn) :
    (∀ rowIndex, work.RowStored begun rowIndex →
      work.RowStored (work.store turn.progress (candidate.rows.getD depth 0)) rowIndex) ∧
    ∀ other ∈ active.take (position + 1),
      work.RowStored (work.store turn.progress (candidate.rows.getD depth 0))
        (other.rows.getD depth 0) := by
  obtain ⟨now, progressed, _⟩ := kept.progressed
  have here := actives candidate (List.mem_of_getElem? at_)
  obtain ⟨stream, own⟩ := here.stream
  obtain ⟨member, found, _⟩ := frontier_lane own here.inside
  constructor
  · intro rowIndex stored
    exact stored_other (kept.kept rowIndex stored)
  · intro other within
    rw [take_next at_] at within
    rcases List.mem_append.mp within with before | last
    · exact stored_other (kept.rows other before)
    · rw [List.mem_singleton.mp last]
      exact stored_self progressed (row_expected member found).inside

/-- The last row of a candidate finishes its stream. -/
theorem depth_finish
    (actives : ∀ candidate ∈ active, ActiveAt work finished begun depth turns candidate)
    (distinct : (active.map BulkPersistentFrontierCandidate.streamIndex).Nodup)
    (at_ : active[position]? = some candidate) (last : depth + 1 = candidate.rows.length)
    (kept : DepthKept work active finished depth begun position turn)
    {native : NativeRnnModuleState V}
    (converted : toNative (work.next (frontierLane work depth candidate)) = .ok native) :
    DepthKept work active finished depth begun (position + 1)
      ⟨(work.store turn.progress (candidate.rows.getD depth 0)).finishStream candidate.streamIndex
        candidate.key native, turn.continuing⟩ := by
  obtain ⟨now, progressed, among⟩ := kept.progressed
  have here := actives candidate (List.mem_of_getElem? at_)
  obtain ⟨stream, own⟩ := here.stream
  obtain ⟨keeps, rows⟩ := depth_store actives at_ kept
  have fresh : candidate.streamIndex ∉ now := by
    intro member
    rcases among _ member with before | ⟨other, earlier, same, _⟩
    · exact here.unfinished before
    · exact fresh_at distinct at_ (List.mem_map.mpr ⟨other, earlier, same⟩)
  refine ⟨⟨now ++ [candidate.streamIndex], ?_, ?_⟩, ?_, keeps, rows⟩
  · apply progressed_finish (progressed_store progressed) own.found fresh
    · apply final_of_stream own.found own.key ?_ converted
      rw [← frontier_state_at own, ← own.rows, ← last]
      exact frontier_state_next own here.inside
    · intro rowIndex within
      rw [← own.rows] at within
      have whole : candidate.rows = candidate.rows.take depth ++ [candidate.rows.getD depth 0] := by
        have found := (frontier_lane own here.inside).2.1
        rw [← own.rows] at found
        rw [← take_next found, List.take_of_length_le (by omega)]
      rw [whole] at within
      rcases List.mem_append.mp within with before | final
      · exact keeps rowIndex (here.stored rowIndex before)
      · rw [List.mem_singleton.mp final]
        apply rows candidate
        rw [take_next at_]
        simp
  · intro j member
    rw [take_next at_]
    rcases List.mem_append.mp member with before | final
    · rcases among j before with old | ⟨other, earlier, done⟩
      · exact Or.inl old
      · exact Or.inr ⟨other, List.mem_append_left _ earlier, done⟩
    · exact Or.inr ⟨candidate, by simp, (List.mem_singleton.mp final).symm, last⟩
  · have next : active.zipIdx[position]? = some (candidate, position) := by
      rw [List.getElem?_zipIdx, at_]
      simp
    rw [take_next next, List.filter_append, ← kept.continuing]
    simp [last]

/-- A candidate with more rows stays active. -/
theorem depth_continue
    (actives : ∀ candidate ∈ active, ActiveAt work finished begun depth turns candidate)
    (at_ : active[position]? = some candidate) (more : depth + 1 ≠ candidate.rows.length)
    (kept : DepthKept work active finished depth begun position turn) :
    DepthKept work active finished depth begun (position + 1)
      ⟨work.store turn.progress (candidate.rows.getD depth 0),
        turn.continuing ++ [(candidate, position)]⟩ := by
  obtain ⟨now, progressed, among⟩ := kept.progressed
  obtain ⟨keeps, rows⟩ := depth_store actives at_ kept
  refine ⟨⟨now, progressed_store progressed, ?_⟩, ?_, keeps, rows⟩
  · intro j member
    rw [take_next at_]
    rcases among j member with old | ⟨other, earlier, done⟩
    · exact Or.inl old
    · exact Or.inr ⟨other, List.mem_append_left _ earlier, done⟩
  · have next : active.zipIdx[position]? = some (candidate, position) := by
      rw [List.getElem?_zipIdx, at_]
      simp
    rw [take_next next, List.filter_append, ← kept.continuing]
    simp [more]

theorem depth_turn (rowWise : RowWise network work.rows)
    (actives : ∀ candidate ∈ active, ActiveAt work finished begun depth turns candidate)
    (distinct : (active.map BulkPersistentFrontierCandidate.streamIndex).Nodup)
    (at_ : active[position]? = some candidate)
    (kept : DepthKept work active finished depth begun position turn) :
    ∃ next, finishFrontierRow network module
        (lanesOutput work.rows module work.input (active.map (frontierLane work depth)))
        active.length depth turn (candidate, position) = .ok next ∧
      DepthKept work active finished depth begun (position + 1) next := by
  obtain ⟨now, progressed, _⟩ := kept.progressed
  have row := frontier_batch_row rowWise actives at_ progressed
  by_cases last : depth + 1 = candidate.rows.length
  · have lane : (active.map (frontierLane work depth))[position]? =
        some (frontierLane work depth candidate) := by
      rw [List.getElem?_map, at_]
      rfl
    have state := lane_state (active_lanes_fit actives) lane
    rw [List.length_map] at state
    obtain ⟨native, converted, _⟩ := to_native_ok (work.next (frontierLane work depth candidate))
    refine ⟨_, ?_, depth_finish actives distinct at_ last kept converted⟩
    refine bind_ok.mpr ⟨_, row, ?_⟩
    rw [if_pos last]
    exact bind_ok.mpr ⟨native, state.trans converted, rfl⟩
  · refine ⟨_, ?_, depth_continue actives at_ last kept⟩
    refine bind_ok.mpr ⟨_, row, ?_⟩
    rw [if_neg last]
    rfl

theorem depth_start (progressed : Progressed work finished finished begun) :
    DepthKept work active finished depth begun 0 ⟨begun, []⟩ where
  progressed := ⟨finished, progressed, fun _ member => Or.inl member⟩
  continuing := by simp
  kept _ stored := stored
  rows := by simp

/-- The candidates that go on have their next states in the order of the batch. -/
theorem selected_next (continuing : List (BulkPersistentFrontierCandidate × Nat))
    (inBatch : ∀ pair ∈ continuing, active[pair.2]? = some pair.1) :
    (continuing.map Prod.snd).map (fun row =>
      ((active.map (frontierLane work depth)).map fun lane =>
        (laneProcess work.rows module work.input lane).2)[row]?) =
      (continuing.map fun pair => work.next (frontierLane work depth pair.1)).map some := by
  simp only [List.map_map]
  apply List.map_congr_left
  intro pair member
  simp only [Function.comp_apply, List.getElem?_map, inBatch pair member]
  rfl

theorem frontier_next_held {continuing : List BulkPersistentFrontierCandidate}
    (some : continuing ≠ [])
    (states : ∀ candidate ∈ continuing, frontierState work (depth + 1) candidate =
      Option.some (work.next (frontierLane work depth candidate))) :
    heldStates (work.rows.layout module) (continuing.map (frontierState work (depth + 1))) =
        Option.some (joinedStates (work.rows.layout module)
          (continuing.map fun candidate => work.next (frontierLane work depth candidate))) ∧
      Uniform (continuing.map (frontierState work (depth + 1))) := by
  have same : continuing.map (frontierState work (depth + 1)) =
      (continuing.map fun candidate => work.next (frontierLane work depth candidate)).map
        Option.some := by
    rw [List.map_map]
    exact List.map_congr_left states
  rw [same]
  refine ⟨held_some (by simpa using some), Or.inr ?_⟩
  intro state member
  obtain ⟨one, _, rfl⟩ := List.mem_map.mp member
  rfl

theorem continuing_members {position : Nat} {pair : BulkPersistentFrontierCandidate × Nat}
    (member : pair ∈ (active.zipIdx.take position).filter fun pair =>
      decide (depth + 1 ≠ pair.1.rows.length)) :
    active[pair.2]? = some pair.1 ∧ depth + 1 ≠ pair.1.rows.length := by
  obtain ⟨within, more⟩ := List.mem_filter.mp member
  obtain ⟨index, inside⟩ := List.getElem?_of_mem (List.mem_of_mem_take within)
  obtain ⟨found, same⟩ := zip_index_at inside
  exact ⟨same ▸ found, of_decide_eq_true more⟩

theorem continuing_sublist (position : Nat) :
    (((active.zipIdx.take position).filter fun pair =>
      decide (depth + 1 ≠ pair.1.rows.length)).map Prod.fst).Sublist active := by
  have inner := (List.filter_sublist (p := fun pair : BulkPersistentFrontierCandidate × Nat =>
    decide (depth + 1 ≠ pair.1.rows.length)) (l := active.zipIdx.take position)).trans
      (List.take_sublist position active.zipIdx)
  have outer := inner.map Prod.fst
  rwa [List.zipIdx_map_fst] at outer

/-- The candidates that have a row at the next depth too are active there. -/
theorem next_actives {now : List Nat}
    (actives : ∀ candidate ∈ active, ActiveAt work finished progress depth (turns + 1) candidate)
    (distinct : (active.map BulkPersistentFrontierCandidate.streamIndex).Nodup)
    (kept : DepthKept work active finished depth progress active.length turn)
    (among : ∀ j ∈ now, j ∈ finished ∨ ∃ candidate ∈ active.take active.length,
      candidate.streamIndex = j ∧ depth + 1 = candidate.rows.length) :
    ∀ candidate ∈ turn.continuing.map Prod.fst,
      ActiveAt work now turn.progress (depth + 1) turns candidate := by
  intro candidate member
  obtain ⟨pair, within, rfl⟩ := List.mem_map.mp member
  rw [kept.continuing] at within
  obtain ⟨at_, more⟩ := continuing_members within
  have inActive := List.mem_of_getElem? at_
  have here := actives pair.1 inActive
  refine ⟨here.stream, ?_, ?_, ?_, ?_⟩
  · intro finishedNow
    rcases among _ finishedNow with old | ⟨other, earlier, same, last⟩
    · exact here.unfinished old
    · have equal := List.inj_on_of_nodup_map distinct (List.mem_of_mem_take earlier) inActive same
      exact more (equal ▸ last)
  · have inside := here.inside
    omega
  · have bounded := here.bounded
    omega
  · intro rowIndex within
    have found : pair.1.rows[depth]? = some (pair.1.rows.getD depth 0) := by
      rw [List.getD_eq_getElem?_getD, List.getElem?_eq_getElem here.inside]
      rfl
    rw [take_next found] at within
    rcases List.mem_append.mp within with before | last
    · exact kept.kept rowIndex (here.stored rowIndex before)
    · rw [List.mem_singleton.mp last]
      exact kept.rows pair.1 (by rwa [List.take_of_length_le (Nat.le_refl _)])

/-- The selected states are those the candidates that go on have at the next depth. -/
theorem frontier_selected (inPlaceStateCompaction : Bool)
    (actives : ∀ candidate ∈ active, ActiveAt work finished begun depth turns candidate)
    {continuing : List (BulkPersistentFrontierCandidate × Nat)} (some : continuing ≠ [])
    (inBatch : ∀ pair ∈ continuing, active[pair.2]? = Option.some pair.1) :
    ∃ selected, selectBatchedFlatWorkingStateRows inPlaceStateCompaction
        (lanesOutput work.rows module work.input
          (active.map (frontierLane work depth))).timeStateByLayer
        (lanesOutput work.rows module work.input
          (active.map (frontierLane work depth))).channelStateByLayer active.length
        (continuing.map Prod.snd) = .ok selected ∧
      heldStates (work.rows.layout module)
        ((continuing.map Prod.fst).map (frontierState work (depth + 1))) = Option.some selected ∧
      Uniform ((continuing.map Prod.fst).map (frontierState work (depth + 1))) := by
  have uniform := lanes_uniform (active_lanes_fit actives)
  have picked := joined_selected uniform inPlaceStateCompaction
    (@selected_next V rnn module work depth active continuing inBatch)
  rw [List.length_map, List.length_map] at picked
  have states : ∀ candidate ∈ continuing.map Prod.fst, frontierState work (depth + 1) candidate =
      Option.some (work.next (frontierLane work depth candidate)) := by
    intro candidate member
    obtain ⟨pair, within, rfl⟩ := List.mem_map.mp member
    have here := actives pair.1 (List.mem_of_getElem? (inBatch pair within))
    obtain ⟨stream, own⟩ := here.stream
    exact frontier_state_next own here.inside
  have held := frontier_next_held (by simpa using some) states
  have nexts : (continuing.map Prod.fst).map
      (fun candidate => work.next (frontierLane work depth candidate)) =
        continuing.map fun pair => work.next (frontierLane work depth pair.1) := by
    rw [List.map_map]
    rfl
  rw [nexts] at held
  exact ⟨_, picked, held.1, held.2⟩

/-- A frontier finishes none but its own candidates, whatever depth it is at. -/
theorem frontier_depths_run (rowWise : RowWise network work.rows)
    (actives : ∀ candidate ∈ active, ActiveAt work finished progress depth turns candidate)
    (distinct : (active.map BulkPersistentFrontierCandidate.streamIndex).Nodup)
    (uniform : Uniform (active.map (frontierState work depth)))
    (progressed : Progressed work finished finished progress) :
    ∃ next, executeFrontierDepths config network module work.input turns depth active
        (heldStates (work.rows.layout module) (active.map (frontierState work depth))) progress =
          .ok next ∧
      ∃ now, Progressed work now now next ∧ ∀ j ∈ now, j ∈ finished ∨
        j ∈ active.map BulkPersistentFrontierCandidate.streamIndex := by
  induction turns generalizing depth active finished progress with
  | zero => exact ⟨progress, rfl, finished, progressed, fun _ member => Or.inl member⟩
  | succ turns ih =>
      by_cases none : active = []
      · subst none
        exact ⟨progress, rfl, finished, progressed, fun _ member => Or.inl member⟩
      · have fits := active_lanes_fit actives
        have lanesStates : (active.map (frontierLane work depth)).map Prod.fst =
            active.map (frontierState work depth) := by
          rw [List.map_map]
          rfl
        have forwarded := forward_lanes rowWise (by simpa using none) (by rwa [lanesStates]) fits
        rw [lanesStates, List.map_map] at forwarded
        have checked := check_lanes rowWise fits "persistent frontier"
        rw [List.length_map] at checked
        obtain ⟨turn, folded, kept⟩ := fold_positions
          (DepthKept work active finished depth progress) active.zipIdx (depth_start progressed) (by
            intro position item before at_ kept
            obtain ⟨candidate, batchIndex⟩ := item
            obtain ⟨here, rfl⟩ := zip_index_at at_
            exact depth_turn rowWise actives distinct here kept)
        rw [List.length_zipIdx] at kept
        obtain ⟨now, nowProgressed, among⟩ := kept.progressed
        have inActive : ∀ j ∈ now, j ∈ finished ∨
            j ∈ active.map BulkPersistentFrontierCandidate.streamIndex := by
          intro j member
          rcases among j member with old | ⟨other, earlier, same, _⟩
          · exact Or.inl old
          · exact Or.inr (List.mem_map.mpr ⟨other, List.mem_of_mem_take earlier, same⟩)
        have nonempty : ¬active.isEmpty = true := by simpa using none
        rw [executeFrontierDepths, if_neg nonempty]
        by_cases finishedAll : turn.continuing = []
        · refine ⟨turn.progress, ?_, now, nowProgressed, inActive⟩
          refine bind_ok.mpr ⟨_, forwarded, bind_ok.mpr ⟨(), checked, ?_⟩⟩
          refine bind_ok.mpr ⟨turn, folded, ?_⟩
          rw [finishedAll]
          rfl
        · have inBatch : ∀ pair ∈ turn.continuing, active[pair.2]? = some pair.1 := by
            intro pair member
            rw [kept.continuing] at member
            exact (continuing_members member).1
          obtain ⟨selected, picked, held, nextUniform⟩ :=
            frontier_selected config.inPlaceStateCompaction actives finishedAll inBatch
          have sub : (turn.continuing.map Prod.fst).Sublist active := by
            rw [kept.continuing]
            exact continuing_sublist active.length
          obtain ⟨next, run, last, lastProgressed, later⟩ := ih
            (next_actives actives distinct kept among) (distinct.sublist (sub.map _)) nextUniform
            nowProgressed
          rw [held] at run
          refine ⟨next, ?_, last, lastProgressed, ?_⟩
          · refine bind_ok.mpr ⟨_, forwarded, bind_ok.mpr ⟨(), checked, ?_⟩⟩
            refine bind_ok.mpr ⟨turn, folded, ?_⟩
            rw [if_neg (by simpa using finishedAll)]
            exact bind_ok.mpr ⟨selected, picked, run⟩
          · intro j member
            rcases later j member with before | among
            · exact inActive j before
            · exact Or.inr ((sub.map _).subset among)

end Depth

/-- The candidates of one group found among the streams before a position. -/
structure CandidatesFound (work : StreamWork rnn module) (startsExisting : Bool)
    (skipped : List Nat) (position : Nat)
    (group : List (BulkPersistentFrontierCandidate × Option (NativeRnnModuleState V))) : Prop where
  streams : ∀ pair ∈ group, ∃ stream, CandidateOf work pair.1 stream ∧
    bulkPersistentFrontierMinRows ≤ stream.rows.length ∧ stream.startsExisting = startsExisting ∧
    pair.2 = if startsExisting then initialModuleState module rnn stream.key else none
  unskipped : ∀ pair ∈ group, pair.1.streamIndex ∉ skipped
  before : ∀ pair ∈ group, pair.1.streamIndex < position
  distinct : (group.map fun pair => pair.1.streamIndex).Nodup

theorem candidates_pass {startsExisting : Bool} {position : Nat}
    {group : List (BulkPersistentFrontierCandidate × Option (NativeRnnModuleState V))}
    (found : CandidatesFound work startsExisting skipped position group) :
    CandidatesFound work startsExisting skipped (position + 1) group where
  streams := found.streams
  unskipped := found.unskipped
  before pair member := Nat.lt_succ_of_lt (found.before pair member)
  distinct := found.distinct

theorem candidates_push {startsExisting : Bool} {position : Nat}
    {group : List (BulkPersistentFrontierCandidate × Option (NativeRnnModuleState V))}
    {pair : BulkPersistentFrontierCandidate × Option (NativeRnnModuleState V)}
    (found : CandidatesFound work startsExisting skipped position group)
    (here : pair.1.streamIndex = position) (fresh : position ∉ skipped)
    (own : CandidateOf work pair.1 stream)
    (long : bulkPersistentFrontierMinRows ≤ stream.rows.length)
    (existing : stream.startsExisting = startsExisting)
    (state : pair.2 = if startsExisting then initialModuleState module rnn stream.key else none) :
    CandidatesFound work startsExisting skipped (position + 1) (group ++ [pair]) where
  streams other member := by
    rcases List.mem_append.mp member with before | last
    · exact found.streams other before
    · rw [List.mem_singleton.mp last]
      exact ⟨stream, own, long, existing, state⟩
  unskipped other member := by
    rcases List.mem_append.mp member with before | last
    · exact found.unskipped other before
    · rw [List.mem_singleton.mp last, here]
      exact fresh
  before other member := by
    rcases List.mem_append.mp member with before | last
    · exact Nat.lt_succ_of_lt (found.before other before)
    · rw [List.mem_singleton.mp last, here]
      exact Nat.lt_succ_self position
  distinct := by
    rw [List.map_append]
    apply nodup_snoc found.distinct
    intro member
    obtain ⟨other, before, same⟩ := List.mem_map.mp member
    have less := found.before other before
    simp only [here] at same
    exact Nat.lt_irrefl position (same ▸ less)

/-- A stream that starts from an existing state has one among the native states. -/
theorem existing_native (member : stream ∈ work.plan.streams)
    (existing : stream.startsExisting = true) :
    ∃ native, initialModuleState module rnn stream.key = some native := by
  have starts := work.starts stream member
  have same := work.existing stream member
  rw [existing] at same
  cases found : initialModuleState module rnn stream.key with
  | some native => exact ⟨native, rfl⟩
  | none =>
      rw [found] at starts
      have fresh : none = work.start stream.key := Except.ok.inj starts
      rw [← fresh] at same
      cases same

theorem candidates_found (keyed : ∀ stream ∈ work.plan.streams, ∃ key, stream.key = some key)
    (startsExisting : Bool) (progressed : Progressed work skipped finished progress) :
    ∃ group, frontierCandidates module rnn work.plan startsExisting progress.skipStreams =
        .ok group ∧
      CandidatesFound work startsExisting skipped work.plan.streams.zipIdx.length group := by
  unfold frontierCandidates
  apply fold_positions (CandidatesFound work startsExisting skipped)
  · exact ⟨by simp, by simp, by simp, List.nodup_nil⟩
  · intro position item group at_ kept
    obtain ⟨stream, streamIndex⟩ := item
    obtain ⟨found, index⟩ := zip_index_at at_
    simp only at found index
    subst index
    have member := List.mem_of_getElem? found
    obtain ⟨key, own⟩ := keyed stream member
    have skips := progressed.skips streamIndex (List.getElem?_eq_some_iff.mp found).1
    simp only
    split
    · exact ⟨_, rfl, candidates_pass kept⟩
    · rename_i open_
      simp only [List.getD_eq_getElem?_getD, skips, Option.getD_some, decide_eq_true_eq, not_or,
        not_not, Nat.not_lt, ne_eq] at open_
      obtain ⟨fresh, existing, long⟩ := open_
      rw [own]
      have candidate : CandidateOf work ⟨streamIndex, key, stream.rows⟩ stream := ⟨found, own, rfl⟩
      cases startsExisting with
      | false =>
          refine ⟨_, rfl, candidates_push kept rfl fresh candidate long existing rfl⟩
      | true =>
          obtain ⟨native, initial⟩ := existing_native member existing
          rw [own] at initial
          simp only [if_true, initial]
          refine ⟨_, rfl, candidates_push kept rfl fresh candidate long existing ?_⟩
          rw [own, initial]
          rfl

section Group

variable {startsExisting : Bool}
  {group : List (BulkPersistentFrontierCandidate × Option (NativeRnnModuleState V))}

/-- What a chunk of the candidates of a group still says of each of its candidates. -/
def Chunk (work : StreamWork rnn module) (startsExisting : Bool)
    (group : List (BulkPersistentFrontierCandidate × Option (NativeRnnModuleState V))) : Prop :=
  ∀ pair ∈ group, ∃ stream, CandidateOf work pair.1 stream ∧
    bulkPersistentFrontierMinRows ≤ stream.rows.length ∧ stream.startsExisting = startsExisting ∧
    pair.2 = if startsExisting then initialModuleState module rnn stream.key else none

theorem chunk_fresh (chunk : Chunk work false group) :
    (∀ state ∈ (group.map Prod.fst).map (frontierState work 0), state = none) := by
  intro state member
  rw [List.map_map] at member
  obtain ⟨pair, within, rfl⟩ := List.mem_map.mp member
  obtain ⟨stream, own, _, fresh, _⟩ := chunk pair within
  have existing := work.existing stream (List.mem_of_getElem? own.found)
  rw [fresh, own.key] at existing
  simpa [frontierState] using existing.symm

/-- The native states of a chunk and the working states they are converted to. -/
theorem chunk_existing (chunk : Chunk work true group) :
    ∃ natives states, group.filterMap Prod.snd = natives ∧
      (group.map Prod.fst).map (frontierState work 0) = states.map some ∧
      List.Forall₂ (fun native state => toWorking native = .ok state) natives states ∧
      (∀ native ∈ natives, LayersMatch native) ∧
      ∀ state ∈ states, layoutOf state = work.rows.layout module := by
  induction group with
  | nil => exact ⟨[], [], rfl, rfl, .nil, by simp, by simp⟩
  | cons pair group ih =>
      obtain ⟨natives, states, filtered, mapped, converted, matching, laid⟩ :=
        ih fun other member => chunk other (List.mem_cons_of_mem _ member)
      obtain ⟨stream, own, _, existing, state⟩ := chunk pair (by simp)
      have member := List.mem_of_getElem? own.found
      obtain ⟨native, initial⟩ := existing_native member existing
      have starts := work.starts stream member
      rw [if_pos rfl, initial] at state
      rw [initial] at starts
      obtain ⟨working, converts, same⟩ := bind_ok.mp starts
      have begins : some working = work.start stream.key := Except.ok.inj same
      refine ⟨native :: natives, working :: states, ?_, ?_, .cons converts converted, ?_, ?_⟩
      · rw [List.filterMap_cons, state, filtered]
      · rw [List.map_cons, List.map_cons, List.map_cons, mapped, begins, own.key]
        rfl
      · intro one inside
        rcases List.mem_cons.mp inside with here | later
        · rw [here]
          exact work.matching stream member native initial
        · exact matching one later
      · intro one inside
        rcases List.mem_cons.mp inside with here | later
        · rw [here]
          exact work.laid stream member working begins.symm
        · exact laid one later

theorem chunk_initial (some : group ≠ []) (chunk : Chunk work startsExisting group) :
    frontierInitialState startsExisting (group.filterMap Prod.snd) =
        .ok (heldStates (work.rows.layout module)
          ((group.map Prod.fst).map (frontierState work 0))) ∧
      Uniform ((group.map Prod.fst).map (frontierState work 0)) := by
  cases startsExisting with
  | false =>
      have none := chunk_fresh chunk
      rw [held_none none]
      exact ⟨rfl, Or.inl none⟩
  | true =>
      obtain ⟨natives, states, filtered, mapped, converted, matching, laid⟩ := chunk_existing chunk
      have count : group.length = states.length := by
        have lengths := congrArg List.length mapped
        simpa using lengths
      have nonempty : natives ≠ [] := by
        intro none
        have lengths := converted.length_eq
        rw [none, ← count] at lengths
        exact some (List.eq_nil_of_length_eq_zero lengths.symm)
      have statesSome : states ≠ [] := by
        intro none
        rw [none] at count
        exact some (List.eq_nil_of_length_eq_zero count)
      rw [filtered, mapped, held_some statesSome]
      constructor
      · exact bind_ok.mpr ⟨_, batched_of_native nonempty converted matching laid, rfl⟩
      · apply Or.inr
        intro state member
        obtain ⟨one, _, rfl⟩ := List.mem_map.mp member
        rfl

theorem le_longest {rows : List Nat} {start row : Nat} (member : row = start ∨ row ∈ rows) :
    row ≤ rows.foldl max start := by
  induction rows generalizing start row with
  | nil =>
      rcases member with here | none
      · rw [here]
        exact Nat.le_refl _
      · cases none
  | cons first rows ih =>
      rw [List.foldl_cons]
      rcases member with here | within
      · exact Nat.le_trans (by rw [here]; exact Nat.le_max_left start first) (ih (Or.inl rfl))
      · rcases List.mem_cons.mp within with head | later
        · exact Nat.le_trans (by rw [head]; exact Nat.le_max_right start first) (ih (Or.inl rfl))
        · exact ih (Or.inr later)

/-- A chunk of candidates run together finishes none but its own streams. -/
theorem chunk_run (rowWise : RowWise network work.rows) (some : group ≠ [])
    (chunk : Chunk work startsExisting group)
    (unfinished : ∀ pair ∈ group, pair.1.streamIndex ∉ finished)
    (distinct : (group.map fun pair => pair.1.streamIndex).Nodup)
    (progressed : Progressed work finished finished progress) :
    ∃ next, executePersistentFrontierCandidateGroup config network module work.input startsExisting
        group progress = .ok next ∧
      ∃ now, Progressed work now now next ∧ ∀ j ∈ now, j ∈ finished ∨
        j ∈ group.map fun pair => pair.1.streamIndex := by
  obtain ⟨initial, uniform⟩ := chunk_initial some chunk
  have indices : (group.map Prod.fst).map BulkPersistentFrontierCandidate.streamIndex =
      group.map fun pair => pair.1.streamIndex := by
    rw [List.map_map]
    rfl
  have actives : ∀ candidate ∈ group.map Prod.fst, ActiveAt work finished progress 0
      (longestCandidate (group.map Prod.fst)) candidate := by
    intro candidate member
    obtain ⟨pair, within, rfl⟩ := List.mem_map.mp member
    obtain ⟨stream, own, long, _⟩ := chunk pair within
    have few : 0 < bulkPersistentFrontierMinRows := by decide
    refine ⟨⟨stream, own⟩, unfinished pair within, ?_, ?_, by simp⟩
    · rw [own.rows]
      omega
    · rw [Nat.zero_add]
      apply le_longest
      exact Or.inr (List.mem_map.mpr ⟨pair.1, member, rfl⟩)
  have ran : ∃ next, executeFrontierDepths config network module work.input
      (longestCandidate (group.map Prod.fst)) 0 (group.map Prod.fst)
      (heldStates (work.rows.layout module) ((group.map Prod.fst).map (frontierState work 0)))
      progress = .ok next ∧ ∃ now, Progressed work now now next ∧ ∀ j ∈ now, j ∈ finished ∨
        j ∈ (group.map Prod.fst).map BulkPersistentFrontierCandidate.streamIndex :=
    frontier_depths_run rowWise actives (indices ▸ distinct) uniform progressed
  obtain ⟨next, run, now, nowProgressed, among⟩ := ran
  rw [indices] at among
  exact ⟨next, bind_ok.mpr ⟨_, initial, run⟩, now, nowProgressed, among⟩

theorem chunks_sublist {Item : Type} (size turns : Nat) (items : List Item) :
    (frontierChunks size turns items).flatten.Sublist items := by
  induction turns generalizing items with
  | zero => exact List.nil_sublist items
  | succ turns ih =>
      cases items with
      | nil => exact List.Sublist.refl []
      | cons first items =>
          have whole := List.take_append_drop size (first :: items)
          conv_rhs => rw [← whole]
          exact List.Sublist.append (List.Sublist.refl _) (ih _)

/-- After some chunks, the streams finished meanwhile are among theirs. -/
def ChunksKept (work : StreamWork rnn module) (finished : List Nat)
    (chunks : List (List (BulkPersistentFrontierCandidate × Option (NativeRnnModuleState V))))
    (position : Nat) (progress : BulkModuleProgress V) : Prop :=
  ∃ now, Progressed work now now progress ∧ ∀ j ∈ now, j ∈ finished ∨
    j ∈ (chunks.take position).flatten.map fun pair => pair.1.streamIndex

theorem chunk_turn (rowWise : RowWise network work.rows)
    {chunks : List (List (BulkPersistentFrontierCandidate × Option (NativeRnnModuleState V)))}
    (chunk : Chunk work startsExisting chunks.flatten)
    (unfinished : ∀ pair ∈ chunks.flatten, pair.1.streamIndex ∉ finished)
    (distinct : (chunks.flatten.map fun pair => pair.1.streamIndex).Nodup) {position : Nat}
    (at_ : chunks[position]? = some group)
    (kept : ChunksKept work finished chunks position progress) :
    ∃ next, (if group.length < 2 then .ok progress
        else executePersistentFrontierCandidateGroup config network module work.input startsExisting
          group progress) = .ok next ∧ ChunksKept work finished chunks (position + 1) next := by
  obtain ⟨now, progressed, among⟩ := kept
  have earlier : ∀ j ∈ now, j ∈ finished ∨
      j ∈ (chunks.take (position + 1)).flatten.map fun pair => pair.1.streamIndex := by
    intro j member
    rcases among j member with old | before
    · exact Or.inl old
    · rw [take_next at_, List.flatten_append, List.map_append]
      exact Or.inr (List.mem_append_left _ before)
  by_cases few : group.length < 2
  · exact ⟨progress, if_pos few, now, progressed, earlier⟩
  · have within : ∀ pair ∈ group, pair ∈ chunks.flatten := fun pair member =>
      List.mem_flatten.mpr ⟨group, List.mem_of_getElem? at_, member⟩
    obtain ⟨inside, here⟩ := List.getElem?_eq_some_iff.mp at_
    have split : chunks.flatten.map (fun pair => pair.1.streamIndex) =
        ((chunks.take position).flatten.map fun pair => pair.1.streamIndex) ++
          ((group.map fun pair => pair.1.streamIndex) ++
            (chunks.drop (position + 1)).flatten.map fun pair => pair.1.streamIndex) := by
      conv_lhs => rw [← List.take_append_drop position chunks, List.drop_eq_getElem_cons inside,
        here, List.flatten_append, List.flatten_cons, List.map_append, List.map_append]
    rw [split] at distinct
    obtain ⟨_, rest, apart⟩ := List.nodup_append.mp distinct
    have some : group ≠ [] := by
      intro none
      simp [none] at few
    have fresh : ∀ pair ∈ group, pair.1.streamIndex ∉ now := by
      intro pair member inNow
      rcases among _ inNow with old | before
      · exact unfinished pair (within pair member) old
      · exact apart _ before _ (List.mem_append_left _ (List.mem_map_of_mem member)) rfl
    obtain ⟨next, run, last, lastProgressed, later⟩ := chunk_run rowWise some
      (fun pair member => chunk pair (within pair member)) fresh (List.nodup_append.mp rest).1
      progressed
    refine ⟨next, (if_neg few).trans run, last, lastProgressed, ?_⟩
    intro j member
    rcases later j member with before | own
    · exact earlier j before
    · rw [take_next at_, List.flatten_append, List.map_append]
      exact Or.inr (List.mem_append_right _ (by simpa using own))

/-- A group of candidates finishes streams that were not passed by. -/
theorem frontier_group_run (rowWise : RowWise network work.rows)
    (keyed : ∀ stream ∈ work.plan.streams, ∃ key, stream.key = some key)
    (maxBatchSize : Option Nat) (startsExisting : Bool)
    (progressed : Progressed work finished finished progress) :
    ∃ next, executePersistentFrontierGroup config network module rnn work.plan work.input
        maxBatchSize startsExisting progress = .ok next ∧
      ∃ now, Progressed work now now next := by
  obtain ⟨candidates, found, kept⟩ := candidates_found keyed startsExisting progressed
  unfold executePersistentFrontierGroup
  rw [found]
  by_cases few : candidates.length < 2
  · exact ⟨progress, by simp [bind, Except.bind, few, pure, Except.pure], finished, progressed⟩
  · have sub := chunks_sublist (max (maxBatchSize.getD candidates.length) 2) candidates.length
      candidates
    have folded : ∃ next, (frontierChunks (max (maxBatchSize.getD candidates.length) 2)
        candidates.length candidates).foldlM (fun progress group =>
          if group.length < 2 then .ok progress
          else executePersistentFrontierCandidateGroup config network module work.input
            startsExisting group progress) progress = .ok next ∧
        ChunksKept work finished (frontierChunks (max (maxBatchSize.getD candidates.length) 2)
          candidates.length candidates) (frontierChunks
            (max (maxBatchSize.getD candidates.length) 2) candidates.length candidates).length
          next := by
      apply fold_positions (ChunksKept work finished _)
      · exact ⟨finished, progressed, fun _ member => Or.inl member⟩
      · intro position group before at_ chunksKept
        apply chunk_turn rowWise ?_ ?_ (kept.distinct.sublist (sub.map _)) at_ chunksKept
        · intro pair member
          exact kept.streams pair (sub.subset member)
        · intro pair member
          exact kept.unskipped pair (sub.subset member)
    obtain ⟨next, run, now, nowProgressed, _⟩ := folded
    refine ⟨next, ?_, now, nowProgressed⟩
    refine bind_ok.mpr ⟨candidates, rfl, ?_⟩
    rw [if_neg few]
    exact run

theorem frontiers_run (rowWise : RowWise network work.rows)
    (keyed : ∀ stream ∈ work.plan.streams, ∃ key, stream.key = some key)
    (maxBatchSize : Option Nat) (progressed : Progressed work finished finished progress) :
    ∃ next, executePersistentFrontierValues config network module rnn work.plan work.input
        maxBatchSize progress = .ok next ∧ ∃ now, Progressed work now now next := by
  unfold executePersistentFrontierValues
  split
  · exact ⟨progress, rfl, finished, progressed⟩
  · obtain ⟨fresh, freshRun, now, freshProgressed⟩ :=
      frontier_group_run rowWise keyed maxBatchSize false progressed
    obtain ⟨next, run, last, lastProgressed⟩ :=
      frontier_group_run rowWise keyed maxBatchSize true freshProgressed
    exact ⟨next, bind_ok.mpr ⟨fresh, freshRun, run⟩, last, lastProgressed⟩

end Group

end RwkvSrs.BulkFrontierRuns
