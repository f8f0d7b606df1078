import RwkvSrs.BulkRowRuns

/-!
The streams of a module's own plan. The state of a stream before one of its rows
is the one its identity has when the rows before it were taken with all others,
so the module's outputs and final states are those of its rows in input order.
-/

namespace RwkvSrs.BulkPlanRuns

open Std RwkvSrs.ResultSteps RwkvSrs.DeterministicState RwkvSrs.StreamLoops RwkvSrs.TurnRuns
open RwkvSrs.ModuleState RwkvSrs.NativeRnnState RwkvSrs.BulkStateJoin RwkvSrs.BulkStateNative
open RwkvSrs.PipelineStages RwkvSrs.PipelineLine RwkvSrs.BulkStreamPlan RwkvSrs.BulkExecution
open RwkvSrs.RowWiseBatches RwkvSrs.BulkStreamRuns RwkvSrs.BulkModuleRuns RwkvSrs.BulkRowRuns

set_option autoImplicit false

variable {F V Curve : Type} {rows : RowForwards V} {module : SrsModule} {planned rnn : NativeRnn V}
  {items : List (BulkRow V)}

def entryOf (module : SrsModule) (rnn : NativeRnn V) (key : Option Int64) :
    Option (NativeRnnModuleState V) :=
  match module with
  | .keyed entity => keyedEntry (rnn.states entity) key
  | .global => sharedEntry rnn.globalState key

def workingOf (native : Option (NativeRnnModuleState V)) : Option (WorkingState V) :=
  match currentState native with
  | .ok state => state
  | .error _ => none

/-- A stored state is one of the module's layout. -/
def LaidEntry (rows : RowForwards V) (module : SrsModule)
    (entry : Option (NativeRnnModuleState V)) : Prop :=
  ∀ native, entry = some native → LayersMatch native ∧
    ∃ working, toWorking native = .ok working ∧ layoutOf working = rows.layout module

def LaidStates (rows : RowForwards V) (module : SrsModule) (rnn : NativeRnn V) : Prop :=
  ∀ key, LaidEntry rows module (entryOf module rnn key)

def startOf (module : SrsModule) (rnn : NativeRnn V) (key : Option Int64) :
    Option (WorkingState V) := workingOf (entryOf module rnn key)

theorem start_shown (laid : LaidStates rows module rnn) (key : Option Int64) :
    currentState (entryOf module rnn key) = .ok (startOf module rnn key) := by
  unfold startOf
  cases entry : entryOf module rnn key with
  | none => rfl
  | some native =>
      obtain ⟨_, working, converted, _⟩ := laid key native entry
      have shown : currentState (some native) = .ok (some working) :=
        bind_ok.mpr ⟨working, converted, rfl⟩
      rw [workingOf, shown]

theorem start_laid (laid : LaidStates rows module rnn) (key : Option Int64) :
    OfLayout (rows.layout module) (startOf module rnn key) := by
  intro one begins
  have shown := start_shown laid key
  rw [begins] at shown
  cases entry : entryOf module rnn key with
  | none =>
      rw [entry] at shown
      cases shown
  | some native =>
      obtain ⟨_, working, converted, own⟩ := laid key native entry
      rw [entry] at shown
      obtain ⟨other, made, same⟩ := bind_ok.mp shown
      rw [converted] at made
      cases made
      cases same
      exact own

theorem start_some (laid : LaidStates rows module rnn) (key : Option Int64) :
    (startOf module rnn key).isSome = (entryOf module rnn key).isSome := by
  have shown := start_shown laid key
  cases entry : entryOf module rnn key with
  | none =>
      rw [entry] at shown
      rw [← Except.ok.inj shown]
      rfl
  | some native =>
      rw [entry] at shown
      obtain ⟨working, _, same⟩ := bind_ok.mp shown
      rw [← Except.ok.inj same]
      rfl

theorem entry_initial (ids : ReviewIds) :
    initialModuleState module rnn (streamKey module ids) =
      entryOf module rnn (streamKey module ids) := by
  cases module with
  | keyed entity => rfl
  | global => rfl

theorem entry_exists (ids : ReviewIds) :
    stateExists planned module (streamKey module ids) =
      (entryOf module planned (streamKey module ids)).isSome := by
  cases module with
  | keyed entity =>
      rw [Bool.eq_iff_iff]
      simp [stateExists, streamKey, entryOf, keyedEntry]
  | global => rfl

theorem plan_stream {ids : List ReviewIds} {stream : BulkStream}
    (member : stream ∈ (BulkModuleStreamPlan.fromIds module planned ids).streams) :
    ∃ one ∈ ids, stream = streamOf module planned ids (streamKey module one) := by
  obtain ⟨keys, _, streams, touched, _⟩ := plan_streams module planned ids
  rw [streams] at member
  obtain ⟨key, inside, rfl⟩ := List.mem_map.mp member
  obtain ⟨one, within, rfl⟩ := (touched key).mp inside
  exact ⟨one, within, rfl⟩

theorem rows_of_items (key : Option Int64) :
    rowsOf module (items.map BulkRow.ids) key = streamPositions (rowKey module) items key := by
  rw [rowsOf, streamPositions, List.zipIdx_map, List.filter_map, List.map_map]
  rfl

theorem row_step_item (position : Nat) (row : BulkRow V) (state : Option (WorkingState V))
    (found : items[position]? = some row) :
    rowStep rows module (rowsInput items) state position = advance rows module state row := by
  have process : processRow (rowsInput items) position = row.process := by
    simp [processRow, rowsInput, found]
  rw [rowStep, laneProcess, process]
  rfl

def SizedRows (rows : RowForwards V) (items : List (BulkRow V)) : Prop :=
  ∀ row ∈ items, row.query.length = rows.channels ∧ row.process.length = rows.channels

theorem rows_keep {states : Option Int64 → Option (WorkingState V)}
    (laid : ∀ key, OfLayout (rows.layout module) (states key)) (sized : SizedRows rows items) :
    SizedRows rows (passedRows rows module states items) ∧
      ∀ key, OfLayout (rows.layout module) (statesAfter rows module states items key) := by
  induction items generalizing states with
  | nil => exact ⟨fun row member => absurd member List.not_mem_nil, laid⟩
  | cons row items ih =>
      have fits := sized row (by simp)
      have own := laid (rowKey module row)
      have next : ∀ key, OfLayout (rows.layout module)
          (keyedStep (rowKey module) (advance rows module) states row key) := by
        intro key
        by_cases same : key = rowKey module row
        · subst same
          rw [keyedStep, Function.update_self]
          intro one made
          rw [← Option.some.inj made]
          exact rows.keepsLayout module _ _ own fits.2
        · rw [keyedStep, Function.update_of_ne same]
          exact laid key
      obtain ⟨later, ends⟩ := ih next fun other member =>
        sized other (List.mem_cons_of_mem _ member)
      refine ⟨?_, ends⟩
      intro other member
      rcases List.mem_cons.mp member with here | there
      · subst here
        exact ⟨rows.querySized module _ _ own fits.1, rows.processSized module _ _ own fits.2⟩
      · exact later other there

theorem rows_keep_ids (states : Option Int64 → Option (WorkingState V)) :
    (passedRows rows module states items).map BulkRow.ids = items.map BulkRow.ids := by
  induction items generalizing states with
  | nil => rfl
  | cons row items ih =>
      change row.ids :: (passedRows rows module _ items).map BulkRow.ids = _
      rw [ih]
      rfl

theorem native_layers_match {working : WorkingState V} {native : NativeRnnModuleState V}
    (layered : (channelFlatLayersOf working).length = (timeLayersOf working).length)
    (converted : toNative working = .ok native) : LayersMatch native := by
  rw [toNative, working_flat] at converted
  obtain ⟨time, timeConverted, rest⟩ := bind_ok.mp converted
  obtain ⟨channel, channelConverted, same⟩ := bind_ok.mp rest
  cases same
  have timeCount := map_layers_length timeConverted
  have channelCount := map_layers_length channelConverted
  constructor
  · rw [List.length_map, List.length_map]
  · rw [List.length_map, channelCount, timeCount]
    exact layered

theorem stored_laid {working : WorkingState V} {native : NativeRnnModuleState V}
    (own : layoutOf working = rows.layout module) (converted : toNative working = .ok native) :
    LaidEntry rows module (some native) := by
  intro other same
  cases same
  have count := (rows.layered module).2
  rw [← own] at count
  exact ⟨native_layers_match (by simpa [layoutOf] using count) converted, working,
    to_working_of_to_native converted, own⟩

/-- The entries a module leaves are of its layout again. -/
theorem settled_laid {touched : Prop}
    {after : Option (NativeRnnModuleState V)} (laid : LaidStates rows module rnn)
    (sized : SizedRows rows items) (key : Option Int64)
    (settled : Settled touched (entryOf module rnn key)
      (statesAfter rows module (startOf module rnn) items key) after) :
    LaidEntry rows module after := by
  by_cases here : touched
  · obtain ⟨working, native, ends, converted, stored⟩ := settled.written here
    have own := (rows_keep (start_laid laid) sized).2 key working ends
    rw [stored]
    exact stored_laid own converted
  · rw [settled.left here]
    exact laid key

abbrev outputRows (rows : RowForwards V) (module : SrsModule) (rnn : NativeRnn V)
    (items : List (BulkRow V)) : List (BulkRow V) :=
  passedRows rows module (startOf module rnn) items

theorem row_expected_item (sized : SizedRows rows items) {key : Option Int64} {depth position : Nat}
    (found : (streamPositions (rowKey module) items key)[depth]? = some position) :
    RowExpected rows module (rowsInput items) items.length
      (fun i => ((outputRows rows module rnn items).map BulkRow.query).getD i [])
      (fun i => ((outputRows rows module rnn items).map BulkRow.process).getD i [])
      (((streamPositions (rowKey module) items key).take depth).foldl
        (rowStep rows module (rowsInput items)) (startOf module rnn key)) position := by
  obtain ⟨row, at_, own, state⟩ := @stream_position _ _ _ _ (rowKey module) (advance rows module)
    (startOf module rnn) items key _ row_step_item depth position found
  have made : (outputRows rows module rnn items)[position]? = some (passed rows module
      (((streamPositions (rowKey module) items key).take depth).foldl
        (rowStep rows module (rowsInput items)) (startOf module rnn key)) row) := by
    rw [state, ← own]
    exact keyed_output_at (startOf module rnn) at_
  have query : queryRow (rowsInput items) position = row.query := by
    simp [queryRow, rowsInput, at_]
  have process : processRow (rowsInput items) position = row.process := by
    simp [processRow, rowsInput, at_]
  have fits := sized row (List.mem_of_getElem? at_)
  refine ⟨(List.getElem?_eq_some_iff.mp at_).1, query ▸ fits.1, process ▸ fits.2, ?_, ?_⟩
  · simp only [List.getD_eq_getElem?_getD, List.getElem?_map, made, laneQuery, query]
    rfl
  · simp only [List.getD_eq_getElem?_getD, List.getElem?_map, made, laneProcess, process]
    rfl

/-- The work of the plan made from the rows' identities before any module was run. -/
def planWork (laid : LaidStates rows module rnn) (sized : SizedRows rows items)
    (same : entryOf module rnn = entryOf module planned) : StreamWork rnn module where
  rows := rows
  input := rowsInput items
  plan := BulkModuleStreamPlan.fromIds module planned (items.map BulkRow.ids)
  start := startOf module rnn
  rowCount := items.length
  queryOut i := ((outputRows rows module rnn items).map BulkRow.query).getD i []
  processOut i := ((outputRows rows module rnn items).map BulkRow.process).getD i []
  starts stream member := by
    obtain ⟨one, _, rfl⟩ := plan_stream member
    change currentState (initialModuleState module rnn (streamKey module one)) = _
    rw [entry_initial]
    exact start_shown laid _
  matching stream member native found := by
    obtain ⟨one, _, rfl⟩ := plan_stream member
    change initialModuleState module rnn (streamKey module one) = _ at found
    rw [entry_initial] at found
    exact (laid _ native found).1
  existing stream member := by
    obtain ⟨one, _, rfl⟩ := plan_stream member
    change stateExists planned module (streamKey module one) = _
    rw [entry_exists, ← same]
    exact (start_some laid _).symm
  laid stream member := start_laid laid stream.key
  expected stream member depth rowIndex found := by
    obtain ⟨one, _, rfl⟩ := plan_stream member
    change (rowsOf module (items.map BulkRow.ids) (streamKey module one))[depth]? = _ at found
    change RowExpected rows module (rowsInput items) items.length _ _
      (((rowsOf module (items.map BulkRow.ids) (streamKey module one)).take depth).foldl _ _) _
    rw [rows_of_items] at found ⊢
    exact row_expected_item sized found

section Plan

variable {network : BulkNetwork F V Curve} {config : BulkConfig}
  {laid : LaidStates rows module rnn} {sized : SizedRows rows items}
  {same : entryOf module rnn = entryOf module planned}

theorem item_stream {position : Nat} {row : BulkRow V} (found : items[position]? = some row) :
    ∃ stream ∈ (BulkModuleStreamPlan.fromIds module planned (items.map BulkRow.ids)).streams,
      stream.key = rowKey module row ∧ position ∈ stream.rows := by
  obtain ⟨keys, _, streams, touched, _⟩ := plan_streams module planned (items.map BulkRow.ids)
  have known : rowKey module row ∈ keys :=
    (touched _).mpr ⟨row.ids, List.mem_map_of_mem (List.mem_of_getElem? found), rfl⟩
  refine ⟨streamOf module planned (items.map BulkRow.ids) (rowKey module row), ?_, rfl, ?_⟩
  · rw [streams]
    exact List.mem_map_of_mem known
  · change position ∈ rowsOf module (items.map BulkRow.ids) (rowKey module row)
    rw [rows_of_items]
    exact position_covered found

theorem plan_complete : Complete (planWork laid sized same) where
  counted := by
    obtain ⟨_, _, _, _, counted⟩ := plan_streams module planned (items.map BulkRow.ids)
    rw [List.length_map] at counted
    exact counted
  queryRows := List.length_map BulkRow.query
  processRows := List.length_map BulkRow.process
  nonempty stream member := by
    obtain ⟨one, within, rfl⟩ := plan_stream member
    obtain ⟨row, inside, rfl⟩ := List.mem_map.mp within
    obtain ⟨position, bound, here⟩ := List.getElem_of_mem inside
    change rowsOf module (items.map BulkRow.ids) (rowKey module row) ≠ []
    rw [rows_of_items]
    exact List.ne_nil_of_mem (position_covered (List.getElem?_eq_some_iff.mpr ⟨bound, here⟩))
  covered rowIndex inside := by
    obtain ⟨stream, member, _, here⟩ := item_stream (List.getElem?_eq_getElem inside)
    exact ⟨stream, member, here⟩

/-- A stream of the plan ends in the state its identity has after all rows. -/
theorem plan_state {stream : BulkStream}
    (member : stream ∈ (planWork laid sized same).plan.streams) :
    (planWork laid sized same).stateAt stream stream.rows.length =
      statesAfter rows module (startOf module rnn) items stream.key := by
  obtain ⟨one, _, rfl⟩ := plan_stream member
  rw [StreamWork.stateAt, List.take_length]
  change (rowsOf module (items.map BulkRow.ids) (streamKey module one)).foldl _ _ = _
  rw [rows_of_items]
  exact @stream_fold _ _ _ _ (rowKey module) (advance rows module) (startOf module rnn) items _ _
    row_step_item

theorem range_outputs (out : BulkRow V → List V) (outs : List (BulkRow V))
    (count : outs.length = items.length) :
    (List.range items.length).map (fun i => (outs.map out).getD i []) = outs.map out := by
  apply List.ext_getElem?
  intro i
  by_cases inside : i < items.length
  · simp [inside, count]
  · rw [List.getElem?_eq_none (by simp; omega), List.getElem?_eq_none (by simp; omega)]

theorem plan_output (finals : BulkModuleFinalStates V) :
    moduleOutput (planWork laid sized same) finals =
      ⟨(outputRows rows module rnn items).map BulkRow.query,
        (outputRows rows module rnn items).map BulkRow.process, finals⟩ := by
  have count : (outputRows rows module rnn items).length = items.length :=
    keyed_outputs_length (startOf module rnn) items
  rw [moduleOutput]
  have queries := range_outputs BulkRow.query _ count
  have processes := range_outputs BulkRow.process _ count
  change BulkModulePairOutput.mk
    ((List.range items.length).map fun i =>
      ((outputRows rows module rnn items).map BulkRow.query).getD i [])
    ((List.range items.length).map fun i =>
      ((outputRows rows module rnn items).map BulkRow.process).getD i []) finals = _
  rw [queries, processes]

end Plan

theorem inserted_here {states : List (Int64 × NativeRnnModuleState V)} {map : KeyedStates V}
    {key : Int64} {native : NativeRnnModuleState V} (some : ∃ entry ∈ states, entry.1 = key)
    (all : ∀ entry ∈ states, entry.1 = key → entry.2 = native) :
    (states.foldl (fun map entry => map.insert entry.1 entry.2) map)[key]? =
      Option.some native := by
  induction states generalizing map with
  | nil =>
      obtain ⟨entry, member, _⟩ := some
      cases member
  | cons entry states ih =>
      have rest : ∀ other ∈ states, other.1 = key → other.2 = native :=
        fun other member => all other (List.mem_cons_of_mem _ member)
      rw [List.foldl_cons]
      by_cases later : ∃ other ∈ states, other.1 = key
      · exact ih later rest
      · rw [inserted_elsewhere fun other member same => later ⟨other, member, same⟩]
        obtain ⟨other, member, own⟩ := some
        rcases List.mem_cons.mp member with here | there
        · subst here
          rw [← all other (by simp) own, ← own]
          simp
        · exact absurd ⟨other, there, own⟩ later

section Keyed

variable {entity : EntityModule} {network : BulkNetwork F V Curve} {config : BulkConfig}

theorem finals_settled {laid : LaidStates rows (.keyed entity) rnn} {sized : SizedRows rows items}
    {same : entryOf (.keyed entity) rnn = entryOf (.keyed entity) planned} {finished : List Nat}
    {finals : List (Int64 × NativeRnnModuleState V)}
    (pairs : List.Forall₂ (planWork laid sized same).Final finished finals)
    (all : ∀ j, j ∈ finished ↔ j < (planWork laid sized same).plan.streams.length) (key : Int64) :
    Settled (∃ row ∈ items, rowKey (.keyed entity) row = some key) (rnn.states entity)[key]?
      (statesAfter rows (.keyed entity) (startOf (.keyed entity) rnn) items (some key))
      (finals.foldl (fun map entry => map.insert entry.1 entry.2) (rnn.states entity))[key]? := by
  have ends : ∀ entry ∈ finals, ∃ working native, entry.2 = native ∧
      toNative working = .ok native ∧ statesAfter rows (.keyed entity)
        (startOf (.keyed entity) rnn) items (some entry.1) = some working ∧
      ∃ row ∈ items, rowKey (.keyed entity) row = some entry.1 := by
    intro entry member
    obtain ⟨i, inside, rfl⟩ := List.getElem_of_mem member
    obtain ⟨stream, working, found, own, last, converted⟩ :=
      pairs.get (pairs.length_eq ▸ inside) inside
    have inPlan := List.mem_of_getElem? found
    change stream.key = some finals[i].1 at own
    rw [plan_state inPlan, own] at last
    refine ⟨working, _, rfl, converted, last, ?_⟩
    obtain ⟨one, within, made⟩ := plan_stream inPlan
    obtain ⟨row, here, rfl⟩ := List.mem_map.mp within
    exact ⟨row, here, by rw [← own, made]; rfl⟩
  constructor
  · rintro ⟨row, member, own⟩
    obtain ⟨position, bound, here⟩ := List.getElem_of_mem member
    obtain ⟨stream, inPlan, keyOf, _⟩ := @item_stream V (.keyed entity) planned items position row
      (List.getElem?_eq_some_iff.mpr ⟨bound, here⟩)
    obtain ⟨j, inside, at_⟩ := List.getElem_of_mem inPlan
    obtain ⟨i, within, isJ⟩ := List.getElem_of_mem ((all j).mpr inside)
    have bound' : i < finals.length := pairs.length_eq ▸ within
    obtain ⟨other, working, found, otherKey, last, converted⟩ := pairs.get within bound'
    rw [List.get_eq_getElem, isJ] at found
    have streamSame : other = stream := by
      have known := List.getElem?_eq_some_iff.mpr ⟨inside, at_⟩
      exact Option.some.inj (found.symm.trans known)
    have keySame : finals[i].1 = key := by
      have both : some finals[i].1 = some key :=
        otherKey.symm.trans (by rw [streamSame, keyOf, own])
      exact Option.some.inj both
    rw [plan_state (List.mem_of_getElem? found), otherKey] at last
    simp only [List.get_eq_getElem] at last converted
    rw [keySame] at last
    refine ⟨working, finals[i].2, last, converted, inserted_here
      ⟨finals[i], List.getElem_mem bound', keySame⟩ ?_⟩
    intro entry entryMember entryKey
    obtain ⟨working', native', same', converted', last', _⟩ := ends entry entryMember
    rw [entryKey, last] at last'
    cases last'
    rw [converted] at converted'
    rw [same', Except.ok.inj converted']
  · intro untouched
    apply inserted_elsewhere
    intro entry member own
    obtain ⟨_, _, _, _, _, row, here, rowOwn⟩ := ends entry member
    exact untouched ⟨row, here, own ▸ rowOwn⟩

/-- A keyed module's outputs and states are those of its rows taken one at a time. -/
theorem keyed_module_matches (rowWise : RowWise network rows)
    (laid : LaidStates rows (.keyed entity) rnn) (sized : SizedRows rows items)
    (same : entryOf (.keyed entity) rnn = entryOf (.keyed entity) planned) :
    ∃ finals states,
      executeBulkModulePair config network (.keyed entity) rnn
        (BulkModuleStreamPlan.fromIds (.keyed entity) planned (items.map BulkRow.ids))
        (rowsInput items) =
          .ok ⟨(outputRows rows (.keyed entity) rnn items).map BulkRow.query,
            (outputRows rows (.keyed entity) rnn items).map BulkRow.process, .keyed finals⟩ ∧
      runTurns (keyedModule (rowLine rows) entity) (rnn.states entity) items =
        .ok (outputRows rows (.keyed entity) rnn items, states) ∧
      applyBulkModuleFinalStates (.keyed entity) (.keyed finals) rnn =
        { rnn with states := Function.update rnn.states entity states } ∧
      ∀ key, LaidEntry rows (.keyed entity) (keyedEntry states key) := by
  obtain ⟨finals, executed, finished, pairs, _, all⟩ := @keyed_pair_run F V Curve network config rnn
    entity (planWork laid sized same) rowWise plan_complete (by
      intro stream member
      obtain ⟨one, _, rfl⟩ := plan_stream member
      exact ⟨_, rfl⟩)
  rw [plan_output] at executed
  obtain ⟨states, run, settled⟩ := keyed_rows_run (start_shown laid) items
  refine ⟨finals, states, executed, run, ?_,
    fun key => settled_laid laid sized key (settled key)⟩
  have map : finals.foldl (fun map entry => map.insert entry.1 entry.2) (rnn.states entity) =
      states := by
    apply ExtTreeMap.ext_getElem?
    intro key
    exact settled_unique (finals_settled pairs all key) (settled (some key))
  rw [applyBulkModuleFinalStates, map]
  congr 1
  funext other
  by_cases here : other = entity
  · subst here
    simp
  · simp [here]

end Keyed

theorem global_plan (some : items ≠ []) : ∃ stream,
    (BulkModuleStreamPlan.fromIds .global planned (items.map BulkRow.ids)).streams = [stream] ∧
      stream.key = none := by
  obtain ⟨keys, distinct, streams, touched, _⟩ :=
    plan_streams .global planned (items.map BulkRow.ids)
  have only : ∀ key ∈ keys, key = none := by
    intro key member
    obtain ⟨one, _, own⟩ := (touched key).mp member
    exact own.symm
  have present : none ∈ keys := by
    obtain ⟨row, member⟩ := List.exists_mem_of_ne_nil items some
    exact (touched none).mpr ⟨row.ids, List.mem_map_of_mem member, rfl⟩
  have single : keys = [none] := by
    cases keys with
    | nil => cases present
    | cons first rest =>
        have head := only first (by simp)
        subst head
        have empty : rest = [] := by
          apply List.eq_nil_iff_forall_not_mem.mpr
          intro key member
          have again := only key (List.mem_cons_of_mem _ member)
          exact (List.nodup_cons.mp distinct).1 (again ▸ member)
        rw [empty]
  exact ⟨_, by rw [streams, single]; rfl, rfl⟩

theorem global_module_matches {network : BulkNetwork F V Curve} {config : BulkConfig}
    (rowWise : RowWise network rows) (laid : LaidStates rows .global rnn)
    (sized : SizedRows rows items) (same : entryOf .global rnn = entryOf .global planned)
    (some : items ≠ []) :
    ∃ final shared,
      executeBulkModulePair config network .global rnn
        (BulkModuleStreamPlan.fromIds .global planned (items.map BulkRow.ids)) (rowsInput items) =
          .ok ⟨(outputRows rows .global rnn items).map BulkRow.query,
            (outputRows rows .global rnn items).map BulkRow.process, .global final⟩ ∧
      runTurns (sharedTurn ((rowLine rows).forward .global)) rnn.globalState items =
        .ok (outputRows rows .global rnn items, shared) ∧
      applyBulkModuleFinalStates .global (.global final) rnn =
        { rnn with globalState := shared } ∧
      ∀ key, LaidEntry rows .global (sharedEntry shared key) := by
  obtain ⟨stream, single, keyless⟩ := @global_plan V planned items some
  have member : stream ∈ (planWork laid sized same).plan.streams := by
    change stream ∈ (BulkModuleStreamPlan.fromIds .global planned _).streams
    rw [single]
    exact List.mem_singleton.mpr rfl
  obtain ⟨working, native, executed, last, converted⟩ := @global_pair_run F V Curve network config
    rnn stream (planWork laid sized same) rowWise plan_complete single
  rw [plan_output] at executed
  obtain ⟨shared, run, settled⟩ := shared_rows_run (start_shown laid) items
  refine ⟨_, shared, executed, run, ?_, fun key => settled_laid laid sized key (settled key)⟩
  rw [plan_state member, keyless] at last
  obtain ⟨row, inside⟩ := List.exists_mem_of_ne_nil items some
  obtain ⟨working', native', ends, converted', stored⟩ := (settled none).written ⟨row, inside, rfl⟩
  change statesAfter rows .global (startOf .global rnn) items none = Option.some working' at ends
  rw [last] at ends
  cases ends
  rw [converted] at converted'
  cases converted'
  change shared = Option.some native at stored
  rw [stored]
  rfl

end RwkvSrs.BulkPlanRuns
