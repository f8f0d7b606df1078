import RwkvSrs.BulkFrontierRuns

/-!
A whole bulk module. Streams the batches passed over are run by themselves, so
that in the end every row has the outputs and every key the final state its
stream gives, whatever was batched before.
-/

namespace RwkvSrs.BulkModuleRuns

open Std RwkvSrs.ResultSteps RwkvSrs.StreamLoops RwkvSrs.ModuleState RwkvSrs.NativeRnnState
open RwkvSrs.BulkStateBatch RwkvSrs.BulkStateJoin RwkvSrs.PipelineStages RwkvSrs.PipelineLine
open RwkvSrs.BulkStreamPlan RwkvSrs.BulkExecution RwkvSrs.RowWiseBatches RwkvSrs.BulkStreamRuns
open RwkvSrs.BulkFrontierRuns

set_option autoImplicit false

variable {F V Curve : Type} {network : BulkNetwork F V Curve} {config : BulkConfig}
  {rnn : NativeRnn V} {module : SrsModule} {work : StreamWork rnn module} {stream : BulkStream}
  {depth rowIndex : Nat} {skipped finished : List Nat} {progress : BulkModuleProgress V}

theorem stream_row_run (rowWise : RowWise network work.rows) (member : stream ∈ work.plan.streams)
    (found : stream.rows[depth]? = some rowIndex)
    (progressed : Progressed work skipped finished progress) :
    executeStreamRow network module work.input
        (progress, (work.stateAt stream depth).map Subtype.val) rowIndex =
      .ok (work.store progress rowIndex, (work.stateAt stream (depth + 1)).map Subtype.val) := by
  have fits := lane_fits member found
  have inside := (List.getElem?_eq_some_iff.mp found).1
  have laid := state_at_laid member (Nat.le_of_lt inside)
  have uniform : Uniform [work.stateAt stream depth] := by
    cases state : work.stateAt stream depth with
    | none => exact Or.inl (by simp)
    | some one => exact Or.inr (by simp)
  have forwarded := @forward_lanes F V Curve network work.rows module work.input rowWise
    [work.laneAt stream depth rowIndex] (by simp) uniform (by simpa using fits)
  change forwardBatch network module work.input [rowIndex]
    (heldStates (work.rows.layout module) [work.stateAt stream depth]) = _ at forwarded
  rw [held_single laid] at forwarded
  have stored := store_expected laid (row_expected member found) progressed
  have next := joined_single (lane_keeps_layout fits)
  rw [state_at_next work found]
  refine bind_ok.mpr ⟨_, forwarded, bind_ok.mpr ⟨work.store progress rowIndex, ?_, ?_⟩⟩
  · simpa [lanesOutput, StreamWork.laneAt] using stored
  · simp only [lanesOutput, List.map_singleton]
    change Except.ok (work.store progress rowIndex, some (joinedStates (work.rows.layout module)
      [(laneProcess work.rows module work.input (work.laneAt stream depth rowIndex)).2])) = _
    rw [next]
    rfl

/-- The rows of the stream up to a depth are stored, and its state there is carried along. -/
structure StreamKept (work : StreamWork rnn module) (skipped finished : List Nat)
    (stream : BulkStream) (begun : BulkModuleProgress V) (depth : Nat)
    (turn : BulkModuleProgress V × Option (BulkWorkingModuleState V)) : Prop where
  progressed : Progressed work skipped finished turn.1
  state : turn.2 = (work.stateAt stream depth).map Subtype.val
  rows : ∀ rowIndex ∈ stream.rows.take depth, work.RowStored turn.1 rowIndex
  finals : turn.1.keyedFinalStates = begun.keyedFinalStates

theorem stream_rows_run (rowWise : RowWise network work.rows) (member : stream ∈ work.plan.streams)
    (progressed : Progressed work skipped finished progress) :
    ∃ next, stream.rows.foldlM (executeStreamRow network module work.input)
        (progress, (work.start stream.key).map Subtype.val) =
          .ok (next, (work.stateAt stream stream.rows.length).map Subtype.val) ∧
      Progressed work skipped finished next ∧
      (∀ rowIndex ∈ stream.rows, work.RowStored next rowIndex) ∧
      next.keyedFinalStates = progress.keyedFinalStates := by
  have begun : StreamKept work skipped finished stream progress 0
      (progress, (work.start stream.key).map Subtype.val) :=
    ⟨progressed, rfl, by simp, rfl⟩
  obtain ⟨last, run, kept⟩ := fold_positions (StreamKept work skipped finished stream progress)
    stream.rows begun (by
      intro depth rowIndex turn found kept
      have same : turn = (turn.1, (work.stateAt stream depth).map Subtype.val) := by
        rw [← kept.state]
      rw [same]
      have expected := row_expected member found
      refine ⟨_, stream_row_run rowWise member found kept.progressed,
        progressed_store kept.progressed, rfl, ?_, kept.finals⟩
      intro other within
      rw [take_next found] at within
      rcases List.mem_append.mp within with before | here
      · exact stored_other (kept.rows other before)
      · rw [List.mem_singleton.mp here]
        exact stored_self kept.progressed expected.inside)
  have rows := kept.rows
  rw [List.take_length] at rows
  refine ⟨last.1, ?_, kept.progressed, rows, kept.finals⟩
  rw [run, ← kept.state]

theorem stream_starts (member : stream ∈ work.plan.streams) :
    flatInitialState (initialModuleState module rnn stream.key) =
      .ok ((work.start stream.key).map Subtype.val) := by
  have starts := work.starts stream member
  cases found : initialModuleState module rnn stream.key with
  | none =>
      rw [found] at starts
      have fresh : none = work.start stream.key := Except.ok.inj starts
      rw [← fresh]
      rfl
  | some native =>
      rw [found] at starts
      obtain ⟨working, converted, same⟩ := bind_ok.mp starts
      have begins : some working = work.start stream.key := Except.ok.inj same
      rw [← begins]
      exact bind_ok.mpr ⟨working.1, BulkStateNative.to_working_ok converted, rfl⟩

theorem native_final {working : WorkingState V} {native : NativeRnnModuleState V}
    (converted : toNative working = .ok native) :
    nativeFinalState (some working.1) = .ok (some native) :=
  bind_ok.mpr ⟨native, converted, rfl⟩

/-- Streams passed by and streams before a position are finished, and no others. -/
def StreamsKept (work : StreamWork rnn module) (skipped : List Nat) (position : Nat)
    (turn : StreamTurn V) : Prop :=
  ∃ finished, Progressed work skipped finished turn.progress ∧
    (∀ j ∈ finished, j ∈ skipped ∨ j < position) ∧
    ∀ j, j < work.plan.streams.length → j ∈ skipped ∨ j < position → j ∈ finished

theorem keyed_stream_turn {entity : EntityModule} {work : StreamWork rnn (.keyed entity)}
    (rowWise : RowWise network work.rows) {position : Nat} {turn : StreamTurn V} {key : Int64}
    (found : work.plan.streams[position]? = some stream) (own : stream.key = some key)
    (some : stream.rows ≠ []) (kept : StreamsKept work skipped position turn) :
    ∃ next,
      executeStream network (.keyed entity) rnn work.input turn (stream, position) = .ok next ∧
      StreamsKept work skipped (position + 1) next := by
  obtain ⟨finished, progressed, among, covered⟩ := kept
  have inside := (List.getElem?_eq_some_iff.mp found).1
  have member := List.mem_of_getElem? found
  have skips := progressed.skips position inside
  unfold executeStream
  by_cases skip : position ∈ skipped
  · refine ⟨turn, ?_, finished, progressed, ?_, ?_⟩
    · simp only
      rw [if_pos (by simp [skips, skip])]
      rfl
    · intro j inFinished
      rcases among j inFinished with old | before
      · exact Or.inl old
      · exact Or.inr (Nat.lt_succ_of_lt before)
    · intro j bound here
      apply covered j bound
      rcases here with old | before
      · exact Or.inl old
      · rcases Nat.lt_succ_iff_lt_or_eq.mp before with earlier | same
        · exact Or.inr earlier
        · exact Or.inl (same ▸ skip)
  · obtain ⟨next, rowsRun, rowsProgressed, rowsStored, finals⟩ :=
      stream_rows_run rowWise member progressed
    have last : stream.rows[stream.rows.length - 1]? =
        Option.some (stream.rows.getLast some) := by
      rw [← List.getLast?_eq_getElem?]
      exact List.getLast?_eq_some_getLast some
    have positive := List.length_pos_of_ne_nil some
    have final := state_at_next work last
    rw [Nat.sub_add_cancel positive] at final
    obtain ⟨native, converted, _⟩ :=
      to_native_ok (work.next (work.laneAt stream (stream.rows.length - 1)
        (stream.rows.getLast some)))
    rw [final] at rowsRun
    refine ⟨⟨{ next with keyedFinalStates := next.keyedFinalStates ++ [(key, native)] },
      turn.globalFinalState⟩, ?_, finished ++ [position], progressed_final rowsProgressed found ?_
      (final_of_stream found own final converted) rowsStored, ?_, ?_⟩
    · simp only
      rw [if_neg (by simp [skips, skip])]
      refine bind_ok.mpr ⟨_, stream_starts member, bind_ok.mpr ⟨_, rowsRun, ?_⟩⟩
      refine bind_ok.mpr ⟨_, native_final converted, ?_⟩
      simp only [own]
      rfl
    · intro inFinished
      rcases among position inFinished with old | before
      · exact skip old
      · exact Nat.lt_irrefl position before
    · intro j inFinished
      rcases List.mem_append.mp inFinished with before | here
      · rcases among j before with old | earlier
        · exact Or.inl old
        · exact Or.inr (Nat.lt_succ_of_lt earlier)
      · rw [List.mem_singleton.mp here]
        exact Or.inr (Nat.lt_succ_self position)
    · intro j bound here
      rcases here with old | before
      · exact List.mem_append_left _ (covered j bound (Or.inl old))
      · rcases Nat.lt_succ_iff_lt_or_eq.mp before with earlier | same
        · exact List.mem_append_left _ (covered j bound (Or.inr earlier))
        · exact List.mem_append_right _ (by simp [same])

/-- Every stream is finished, and every row of every stream is stored. -/
theorem keyed_streams_run {entity : EntityModule} {work : StreamWork rnn (.keyed entity)}
    (rowWise : RowWise network work.rows)
    (keyed : ∀ stream ∈ work.plan.streams, ∃ key, stream.key = some key)
    (nonempty : ∀ stream ∈ work.plan.streams, stream.rows ≠ [])
    (progressed : Progressed work skipped skipped progress)
    (within : ∀ j ∈ skipped, j < work.plan.streams.length) :
    ∃ last, work.plan.streams.zipIdx.foldlM (executeStream network (.keyed entity) rnn work.input)
        ⟨progress, none⟩ = .ok last ∧
      ∃ finished, Progressed work skipped finished last.progress ∧
        ∀ j, j ∈ finished ↔ j < work.plan.streams.length := by
  have begun : StreamsKept work skipped 0 ⟨progress, none⟩ :=
    ⟨skipped, progressed, fun _ member => Or.inl member, by simp⟩
  obtain ⟨last, run, finished, lastProgressed, among, covered⟩ := fold_positions
    (StreamsKept work skipped) work.plan.streams.zipIdx begun (by
      intro position item turn at_ kept
      obtain ⟨stream, streamIndex⟩ := item
      obtain ⟨found, rfl⟩ := zip_index_at at_
      have member := List.mem_of_getElem? found
      obtain ⟨key, own⟩ := keyed stream member
      exact keyed_stream_turn rowWise found own (nonempty stream member) kept)
  rw [List.length_zipIdx] at among covered
  refine ⟨last, run, finished, lastProgressed, ?_⟩
  intro j
  constructor
  · intro member
    rcases among j member with old | inside
    · exact within j old
    · exact inside
  · intro inside
    exact covered j inside (Or.inr inside)

theorem global_stream_run {work : StreamWork rnn .global} (rowWise : RowWise network work.rows)
    (single : work.plan.streams = [stream]) (some : stream.rows ≠ [])
    (progressed : Progressed work [] [] progress) :
    ∃ next working native,
      work.plan.streams.zipIdx.foldlM (executeStream network .global rnn work.input)
        ⟨progress, none⟩ = .ok ⟨next, Option.some native⟩ ∧
      work.stateAt stream stream.rows.length = Option.some working ∧
      toNative working = .ok native ∧ Progressed work [] [] next ∧
      ∀ rowIndex ∈ stream.rows, work.RowStored next rowIndex := by
  have member : stream ∈ work.plan.streams := by simp [single]
  obtain ⟨next, rowsRun, rowsProgressed, rowsStored, _⟩ :=
    stream_rows_run rowWise member progressed
  have last : stream.rows[stream.rows.length - 1]? =
      Option.some (stream.rows.getLast some) := by
    rw [← List.getLast?_eq_getElem?]
    exact List.getLast?_eq_some_getLast some
  have final := state_at_next work last
  rw [Nat.sub_add_cancel (List.length_pos_of_ne_nil some)] at final
  obtain ⟨native, converted, _⟩ := to_native_ok (work.next (work.laneAt stream
    (stream.rows.length - 1) (stream.rows.getLast some)))
  refine ⟨next, _, native, ?_, final, converted, rowsProgressed, rowsStored⟩
  have fresh : progress.skipStreams[0]? = Option.some false := by
    have skips := progressed.skips 0 (by simp [single])
    simpa using skips
  rw [final] at rowsRun
  have turn : executeStream network .global rnn work.input ⟨progress, none⟩ (stream, 0) =
      .ok ⟨next, Option.some native⟩ := by
    unfold executeStream
    simp only
    rw [if_neg (by simp [fresh])]
    exact bind_ok.mpr ⟨_, stream_starts member, bind_ok.mpr ⟨_, rowsRun,
      bind_ok.mpr ⟨_, native_final converted, rfl⟩⟩⟩
  rw [single]
  exact bind_ok.mpr ⟨_, turn, rfl⟩

theorem progress_start (rowWise : RowWise network work.rows) :
    Progressed work [] [] ⟨.new work.rowCount network.channels, .new work.rowCount network.channels,
      [], List.replicate work.plan.streams.length false⟩ where
  queryChannels := rowWise.channels
  queryCount := List.length_replicate
  processChannels := rowWise.channels
  processCount := List.length_replicate
  skips j inside := by simp [inside]
  finals := .nil
  distinct := List.nodup_nil
  stored j member := absurd member List.not_mem_nil

theorem finish_rows (outs : List (List V)) (channels : Nat) (name fieldName : String) :
    OrderedModuleRows.finishOutput ⟨channels, outs.map Option.some⟩ name fieldName = .ok outs := by
  apply mapM_of_pairs
  suffices each : ∀ first : Nat, List.Forall₂ (fun item row => item.1 = Option.some row)
      ((outs.map Option.some).zipIdx first) outs by
    refine (each 0).imp ?_
    rintro ⟨_, rowIndex⟩ row rfl
    rfl
  induction outs with
  | nil => exact fun _ => List.Forall₂.nil
  | cons row outs ih => exact fun first => List.Forall₂.cons rfl (ih (first + 1))

theorem finish_stored {outputs : OrderedModuleRows V} {rowCount : Nat} {out : Nat → List V}
    (count : outputs.rows.length = rowCount)
    (stored : ∀ i < rowCount, outputs.rows[i]? = Option.some (Option.some (out i)))
    (name fieldName : String) :
    outputs.finishOutput name fieldName = .ok ((List.range rowCount).map out) := by
  have rows : outputs.rows = ((List.range rowCount).map out).map Option.some := by
    apply List.ext_getElem?
    intro i
    by_cases inside : i < rowCount
    · rw [stored i inside]
      simp [inside]
    · rw [List.getElem?_eq_none (by omega), List.getElem?_eq_none (by simp; omega)]
  have finished := finish_rows ((List.range rowCount).map out) outputs.channels name fieldName
  rw [← rows] at finished
  exact finished

/-- The rows of the plan are those of the input, and each of them is in some stream. -/
structure Complete (work : StreamWork rnn module) : Prop where
  counted : work.plan.rowToStream.length = work.rowCount
  queryRows : work.input.queryRows.length = work.rowCount
  processRows : work.input.processRows.length = work.rowCount
  nonempty : ∀ stream ∈ work.plan.streams, stream.rows ≠ []
  covered : ∀ rowIndex < work.rowCount, ∃ stream ∈ work.plan.streams, rowIndex ∈ stream.rows

def moduleOutput (work : StreamWork rnn module) (finals : BulkModuleFinalStates V) :
    BulkModulePairOutput V :=
  ⟨(List.range work.rowCount).map work.queryOut, (List.range work.rowCount).map work.processOut,
    finals⟩

theorem outputs_finished (progressed : Progressed work skipped finished progress)
    (stored : ∀ rowIndex < work.rowCount, work.RowStored progress rowIndex) (name : String) :
    progress.queryOutputs.finishOutput name "query_outputs" =
        .ok ((List.range work.rowCount).map work.queryOut) ∧
      progress.processOutputs.finishOutput name "process_outputs" =
        .ok ((List.range work.rowCount).map work.processOut) :=
  ⟨finish_stored progressed.queryCount (fun i inside => (stored i inside).1) name _,
    finish_stored progressed.processCount (fun i inside => (stored i inside).2) name _⟩

theorem batches_run (config : BulkConfig) {entity : EntityModule}
    {work : StreamWork rnn (.keyed entity)} (rowWise : RowWise network work.rows)
    (keyed : ∀ stream ∈ work.plan.streams, ∃ key, stream.key = some key)
    (begun : Progressed work [] [] progress) :
    ∃ first second, executeSingletons config network (.keyed entity) work.plan work.input progress =
        .ok first ∧
      executeFrontiers config network (.keyed entity) rnn work.plan work.input first = .ok second ∧
      ∃ finished, Progressed work finished finished second := by
  obtain ⟨first, firstRun, now, firstProgressed⟩ : ∃ first, executeSingletons config network
      (.keyed entity) work.plan work.input progress = .ok first ∧
        ∃ finished, Progressed work finished finished first := by
    unfold executeSingletons
    split
    · exact singletons_run rowWise keyed begun
    · exact ⟨progress, rfl, [], begun⟩
  refine ⟨first, ?_⟩
  unfold executeFrontiers
  split
  · rename_i maxBatchSize _
    obtain ⟨second, secondRun, last, secondProgressed⟩ : ∃ second,
        executePersistentFrontierValues config network (.keyed entity) rnn work.plan work.input
          maxBatchSize first = .ok second ∧ ∃ now, Progressed work now now second :=
      frontiers_run rowWise keyed maxBatchSize firstProgressed
    exact ⟨second, firstRun, secondRun, last, secondProgressed⟩
  · exact ⟨first, firstRun, rfl, now, firstProgressed⟩

/-- Whatever is batched, a keyed module gives every row its outputs and every stream its state. -/
theorem keyed_pair_run {entity : EntityModule} {work : StreamWork rnn (.keyed entity)}
    (rowWise : RowWise network work.rows) (complete : Complete work)
    (keyed : ∀ stream ∈ work.plan.streams, ∃ key, stream.key = some key) :
    ∃ finals, executeBulkModulePair config network (.keyed entity) rnn work.plan work.input =
        .ok (moduleOutput work (.keyed finals)) ∧
      ∃ finished, List.Forall₂ work.Final finished finals ∧ finished.Nodup ∧
        ∀ j, j ∈ finished ↔ j < work.plan.streams.length := by
  obtain ⟨first, second, firstRun, secondRun, skipped, progressed⟩ :=
    batches_run config rowWise keyed (progress_start rowWise)
  have within : ∀ j ∈ skipped, j < work.plan.streams.length := by
    intro j member
    obtain ⟨i, inside, rfl⟩ := List.getElem_of_mem member
    obtain ⟨_, _, found, _⟩ :=
      progressed.finals.get inside (progressed.finals.length_eq ▸ inside)
    exact (List.getElem?_eq_some_iff.mp found).1
  obtain ⟨last, run, finished, lastProgressed, all⟩ :=
    keyed_streams_run rowWise keyed complete.nonempty progressed within
  have stored : ∀ rowIndex < work.rowCount, work.RowStored last.progress rowIndex := by
    intro rowIndex inside
    obtain ⟨stream, member, here⟩ := complete.covered rowIndex inside
    obtain ⟨j, bound, same⟩ := List.getElem_of_mem member
    exact lastProgressed.stored j ((all j).mpr bound) stream
      (List.getElem?_eq_some_iff.mpr ⟨bound, same⟩) rowIndex here
  obtain ⟨queries, processes⟩ := outputs_finished lastProgressed stored
    (moduleName (.keyed entity))
  refine ⟨last.progress.keyedFinalStates, ?_, finished, lastProgressed.finals,
    lastProgressed.distinct, all⟩
  unfold executeBulkModulePair
  simp only
  rw [if_neg (by simp [complete.queryRows, complete.processRows, complete.counted]),
    complete.counted]
  exact bind_ok.mpr ⟨first, firstRun, bind_ok.mpr ⟨second, secondRun, bind_ok.mpr ⟨last, run,
    bind_ok.mpr ⟨_, queries, bind_ok.mpr ⟨_, processes, rfl⟩⟩⟩⟩⟩

/-- The global module has one stream, which is run by itself. -/
theorem global_pair_run {work : StreamWork rnn .global} (rowWise : RowWise network work.rows)
    (complete : Complete work) (single : work.plan.streams = [stream]) :
    ∃ working native, executeBulkModulePair config network .global rnn work.plan work.input =
        .ok (moduleOutput work (.global (some native))) ∧
      work.stateAt stream stream.rows.length = some working ∧ toNative working = .ok native := by
  have member : stream ∈ work.plan.streams := by simp [single]
  obtain ⟨last, working, native, run, final, converted, progressed, rowsStored⟩ :=
    global_stream_run rowWise single (complete.nonempty stream member) (progress_start rowWise)
  have stored : ∀ rowIndex < work.rowCount, work.RowStored last rowIndex := by
    intro rowIndex inside
    obtain ⟨other, otherMember, here⟩ := complete.covered rowIndex inside
    rw [single, List.mem_singleton] at otherMember
    exact rowsStored rowIndex (otherMember ▸ here)
  obtain ⟨queries, processes⟩ := outputs_finished progressed stored (moduleName .global)
  refine ⟨working, native, ?_, final, converted⟩
  unfold executeBulkModulePair
  simp only
  rw [if_neg (by simp [complete.queryRows, complete.processRows, complete.counted]),
    complete.counted]
  exact bind_ok.mpr ⟨_, rfl, bind_ok.mpr ⟨_, rfl, bind_ok.mpr ⟨_, run,
    bind_ok.mpr ⟨_, queries, bind_ok.mpr ⟨_, processes, rfl⟩⟩⟩⟩⟩

end RwkvSrs.BulkModuleRuns
