import RwkvSrs.BulkInOrder
import RwkvSrs.HistoryRuns
import RwkvSrs.RowLanes

/-!
Histories processed in bulk. A call of the layered executor succeeds exactly when
its reviews taken one at a time do, with the same answers and the same states; so
a history may be cut into batches anywhere, each batch with settings of its own,
and leaves the runtime the uncut history leaves.
-/

namespace RwkvSrs.BulkReviews

open Std RwkvSrs.ResultSteps RwkvSrs.FallibleMethod RwkvSrs.FeatureScaling RwkvSrs.ReviewInput
open RwkvSrs.DeterministicState RwkvSrs.DeterministicUndo RwkvSrs.TurnRuns RwkvSrs.ModuleState
open RwkvSrs.NativeRnnState RwkvSrs.BatchJournal RwkvSrs.ReviewProcessing RwkvSrs.PipelineStages
open RwkvSrs.PipelineLine RwkvSrs.PipelineExecutor RwkvSrs.BulkStreamPlan RwkvSrs.BulkExecution
open RwkvSrs.BulkProcessing RwkvSrs.RowWiseBatches RwkvSrs.BulkRowRuns RwkvSrs.BulkPlanRuns
open RwkvSrs.BulkInOrder

set_option autoImplicit false
set_option linter.unusedSectionVars false

variable {F V Rows : Type} [Float64Ops F] [Float32Ops V] [FeatureFloat F V]

section Turns

variable {Item Out : Type}

/-- A machine that keeps nothing between its rows. -/
def stateless (build : Item → Except String Out) : Turn Item Out String Unit := fun _ item => do
  let out ← build item
  return (out, ())

theorem stateless_runs {build : Item → Except String Out} {items : List Item} {outs : List Out} :
    runTurns (stateless build) () items = .ok (outs, ()) ↔ items.mapM build = .ok outs := by
  induction items generalizing outs with
  | nil => simp [runTurns, List.mapM_nil, pure, Except.pure]
  | cons item items ih =>
      rw [run_turns_cons_ok, List.mapM_cons]
      constructor
      · rintro ⟨out, ⟨⟩, rest, turned, later, rfl⟩
        obtain ⟨made, built, same⟩ := bind_ok.mp turned
        cases same
        exact bind_ok.mpr ⟨out, built, bind_ok.mpr ⟨rest, ih.mp later, rfl⟩⟩
      · intro run
        obtain ⟨out, built, run⟩ := bind_ok.mp run
        obtain ⟨rest, later, same⟩ := bind_ok.mp run
        cases same
        exact ⟨out, (), rest, bind_ok.mpr ⟨out, built, rfl⟩, ih.mpr later, rfl⟩

end Turns

section InOrder

variable (network : BulkNetwork F V (Rows × Rows)) (rows : RowForwards V)

def cardValues (features : List V) (tensorName : String) : Except String (List V) := do
  let _ ← tensorFrom2d [features] tensorName
  network.features2cardForward features

def cardRow (step : BulkFeatureStep V) : Except String (BulkRow V) := do
  let query ← cardValues network step.predictFeatures "predict_features"
  let process ← cardValues network step.processFeatures "process_features"
  return ⟨step.ids, query, process⟩

/-- One review through its features, its two rows and the five modules. -/
def reviewTurn :
    Turn (ReviewInput F) (BulkRow V) Failure (FeatureState F V × Unit × SrsStates V) :=
  composeTurns (methodTurn featurePrepassStep) (composeTurns (raised (stateless (cardRow network)))
    (raised (modulesTurn (rowLine rows))))

/-- The output heads, which the executor applies to all rows of a call at its end. -/
def finishRows (count : Nat) (returnCurves : Bool) (outs : List (BulkRow V)) :
    Except String (NativeProcessManyOutput F Rows) := do
  let probabilities ← network.predictionProbabilities (outs.map BulkRow.query)
  if probabilities.length ≠ count then
    .error (s!"bulk layered predict returned {probabilities.length} probabilities for " ++
      s!"{count} rows")
  else do
    let curves ← bulkCurves network returnCurves (outs.map BulkRow.process)
    return ⟨probabilities, curves⟩

end InOrder

variable {network : BulkNetwork F V (Rows × Rows)} {rows : RowForwards V}
  {steps : List (BulkFeatureStep V)} {items outs : List (BulkRow V)} {inputs : List (ReviewInput F)}

theorem review_turns_steps {features last : FeatureState F V} {states after : SrsStates V} :
    runTurns (reviewTurn network rows) (features, (), states) inputs =
        .ok (outs, last, (), after) ↔
      ∃ steps items, collect featurePrepassStep inputs features = (.ok steps, last) ∧
        steps.mapM (cardRow network) = .ok items ∧
        runTurns (modulesTurn (rowLine rows)) states items = .ok (outs, after) := by
  rw [reviewTurn, run_compose_turns]
  constructor
  · rintro ⟨steps, stepped, run⟩
    obtain ⟨items, built, modules⟩ := run_compose_turns.mp run
    exact ⟨steps, items, collect_turns.mpr stepped, stateless_runs.mp (run_raised.mp built),
      run_raised.mp modules⟩
  · rintro ⟨steps, items, stepped, built, modules⟩
    exact ⟨steps, collect_turns.mp stepped, run_compose_turns.mpr ⟨items,
      run_raised.mpr (stateless_runs.mpr built), run_raised.mpr modules⟩⟩

theorem map_collects {Item Value State : Type} (step : Item → Method State Value)
    (items : List Item) : items.mapM step = collect step items := by
  induction items with
  | nil => rfl
  | cons item items ih =>
      rw [List.mapM_cons, ih]
      rfl

theorem prepass_collects (inputs : List (ReviewInput F)) :
    featurePrepass inputs =
      (collect featurePrepassStep inputs :
        Method (FeatureState F V) (List (BulkFeatureStep V))) := by
  have pushed := foldlM_push (featurePrepassStep : ReviewInput F →
    Method (FeatureState F V) (BulkFeatureStep V)) [] inputs
  simp only [List.nil_append, bind_pure] at pushed
  exact Eq.trans pushed (map_collects featurePrepassStep inputs)

theorem card_rows_split {queries processes : List (List V)}
    (query : featuresToCardRows network (steps.map (·.predictFeatures)) "predict_features" =
      .ok queries)
    (process : featuresToCardRows network (steps.map (·.processFeatures)) "process_features" =
      .ok processes) :
    ∃ items, steps.mapM (cardRow network) = .ok items ∧ rowsInput items = ⟨queries, processes⟩ ∧
      items.map BulkRow.ids = steps.map (·.ids) := by
  induction steps generalizing queries processes with
  | nil =>
      cases query
      cases process
      exact ⟨[], rfl, rfl, rfl⟩
  | cons step steps ih =>
      rw [featuresToCardRows, List.map_cons, List.mapM_cons] at query process
      obtain ⟨first, made, query⟩ := bind_ok.mp query
      obtain ⟨laterQueries, restQuery, same⟩ := bind_ok.mp query
      cases same
      obtain ⟨second, made', process⟩ := bind_ok.mp process
      obtain ⟨laterProcesses, restProcess, same⟩ := bind_ok.mp process
      cases same
      obtain ⟨items, mapped, input, ids⟩ := ih restQuery restProcess
      refine ⟨⟨step.ids, first, second⟩ :: items, ?_, ?_, by rw [List.map_cons, ids]; rfl⟩
      · rw [List.mapM_cons]
        exact bind_ok.mpr ⟨_, bind_ok.mpr ⟨first, made, bind_ok.mpr ⟨second, made', rfl⟩⟩,
          bind_ok.mpr ⟨items, mapped, rfl⟩⟩
      · have sameQueries := congrArg BulkModuleInput.queryRows input
        have sameProcesses := congrArg BulkModuleInput.processRows input
        change items.map BulkRow.query = laterQueries at sameQueries
        change items.map BulkRow.process = laterProcesses at sameProcesses
        rw [rowsInput, List.map_cons, List.map_cons, sameQueries, sameProcesses]

theorem card_rows_join (mapped : steps.mapM (cardRow network) = .ok items) :
    featuresToCardRows network (steps.map (·.predictFeatures)) "predict_features" =
        .ok (items.map BulkRow.query) ∧
      featuresToCardRows network (steps.map (·.processFeatures)) "process_features" =
        .ok (items.map BulkRow.process) ∧ items.map BulkRow.ids = steps.map (·.ids) := by
  induction steps generalizing items with
  | nil =>
      cases mapped
      exact ⟨rfl, rfl, rfl⟩
  | cons step steps ih =>
      rw [List.mapM_cons] at mapped
      obtain ⟨row, made, mapped⟩ := bind_ok.mp mapped
      obtain ⟨rest, later, same⟩ := bind_ok.mp mapped
      cases same
      obtain ⟨query, first, made⟩ := bind_ok.mp made
      obtain ⟨process, second, same⟩ := bind_ok.mp made
      cases same
      obtain ⟨queries, processes, ids⟩ := ih later
      refine ⟨?_, ?_, by rw [List.map_cons, ids]; rfl⟩
      · rw [featuresToCardRows, List.map_cons, List.mapM_cons]
        exact bind_ok.mpr ⟨query, first, bind_ok.mpr ⟨_, queries, rfl⟩⟩
      · rw [featuresToCardRows, List.map_cons, List.mapM_cons]
        exact bind_ok.mpr ⟨process, second, bind_ok.mpr ⟨_, processes, rfl⟩⟩

/-- The first layer of the network makes rows of the modules' width. -/
def CardWidth (network : BulkNetwork F V (Rows × Rows)) (rows : RowForwards V) : Prop :=
  ∀ features values, network.features2cardForward features = .ok values →
    values.length = rows.channels

theorem card_rows_sized (width : CardWidth network rows)
    (mapped : steps.mapM (cardRow network) = .ok items) : SizedRows rows items := by
  intro row member
  obtain ⟨step, _, made⟩ := mapM_ok_mem mapped member
  obtain ⟨query, first, made⟩ := bind_ok.mp made
  obtain ⟨process, second, same⟩ := bind_ok.mp made
  cases same
  obtain ⟨_, _, first⟩ := bind_ok.mp first
  obtain ⟨_, _, second⟩ := bind_ok.mp second
  exact ⟨width _ _ first, width _ _ second⟩

section Call

variable {config : BulkConfig} {returnCurves : Bool} {numThreads : Option Nat}
  {before after : ModelState F V} {rnn reached : NativeRnn V}
  {output : NativeProcessManyOutput F Rows}

theorem on_features_ok {Value : Type} {step : Method (FeatureState F V) Value} {value : Value} :
    onFeatures step before = (.ok value, after) ↔
      step before.1 = (.ok value, after.1) ∧ after.2 = before.2 := by
  rw [onFeatures, onPart, Prod.mk.injEq, Prod.ext_iff, Prod.ext_iff]
  constructor
  · rintro ⟨same, left, right⟩
    exact ⟨⟨same, left⟩, right.symm⟩
  · rintro ⟨⟨same, left⟩, right⟩
    exact ⟨same, left, right.symm⟩

theorem on_rnn_ok {Value : Type} {step : Method (NativeRnn V) Value} {value : Value} :
    onRnn step before = (.ok value, after) ↔
      step before.2 = (.ok value, after.2) ∧ after.1 = before.1 := by
  rw [onRnn, onPart, Prod.mk.injEq, Prod.ext_iff, Prod.ext_iff]
  constructor
  · rintro ⟨same, left, right⟩
    exact ⟨⟨same, right⟩, left.symm⟩
  · rintro ⟨⟨same, right⟩, left⟩
    exact ⟨same, left.symm, right⟩

theorem finish_rows_ok {State : Type} {count : Nat} {state last : State} :
    (do
      let probabilities ← lift (network.predictionProbabilities (rowsInput outs).queryRows)
      if probabilities.length ≠ count then
        lift (.error (s!"bulk layered predict returned {probabilities.length} probabilities for " ++
          s!"{count} rows"))
      else do
        let curves ← lift (bulkCurves network returnCurves (rowsInput outs).processRows)
        return ⟨probabilities, curves⟩ : Method State (NativeProcessManyOutput F Rows)) state =
        (.ok output, last) ↔
      finishRows network count returnCurves outs = .ok output ∧ last = state := by
  constructor
  · intro run
    obtain ⟨probabilities, middle, found, heads⟩ := bind_ok_steps run
    obtain ⟨predicted, rfl⟩ := lift_ok_value found
    by_cases wrong : probabilities.length ≠ count
    · rw [if_pos wrong] at heads
      cases heads
    · rw [if_neg wrong] at heads
      obtain ⟨curves, final, curved, made⟩ := bind_ok_steps heads
      obtain ⟨curvesMade, rfl⟩ := lift_ok_value curved
      cases made
      refine ⟨bind_ok.mpr ⟨probabilities, predicted, ?_⟩, rfl⟩
      rw [if_neg wrong]
      exact bind_ok.mpr ⟨curves, curvesMade, rfl⟩
  · rintro ⟨finished, rfl⟩
    obtain ⟨probabilities, predicted, finished⟩ := bind_ok.mp finished
    by_cases wrong : probabilities.length ≠ count
    · rw [if_pos wrong] at finished
      cases finished
    · rw [if_neg wrong] at finished
      obtain ⟨curves, made, same⟩ := bind_ok.mp finished
      cases same
      change network.predictionProbabilities (rowsInput outs).queryRows = _ at predicted
      change bulkCurves network returnCurves (rowsInput outs).processRows = _ at made
      rw [predicted, bind_of_ok (lift_ok probabilities last), if_neg wrong, made,
        bind_of_ok (lift_ok curves last)]
      rfl

/-- All rows through one module after the other, or each through all of them. -/
theorem prepass_rows_ok (config : BulkConfig) (rowWise : RowWise network rows)
    (width : CardWidth network rows) (laid : Laid rows rnn) (some : steps ≠ []) :
    processBulkLayeredPrepass config network steps returnCurves rnn = (.ok output, reached) ↔
      ∃ items outs states, steps.mapM (cardRow network) = .ok items ∧
        runTurns (modulesTurn (rowLine rows)) (statesOf rnn) items = .ok (outs, states) ∧
        finishRows network steps.length returnCurves outs = .ok output ∧
        reached = withStates rnn states ∧ Laid rows (withStates rnn states) := by
  unfold processBulkLayeredPrepass
  rw [bind_of_ok (current_apply rnn)]
  constructor
  · intro run
    obtain ⟨queries, _, query, afterQueries⟩ := bind_ok_steps run
    obtain ⟨queryRows, rfl⟩ := lift_ok_value query
    obtain ⟨processes, _, process, afterProcesses⟩ := bind_ok_steps afterQueries
    obtain ⟨processRows, rfl⟩ := lift_ok_value process
    obtain ⟨items, mapped, input, ids⟩ := card_rows_split queryRows processRows
    have counted := (mapM_ok mapped).length_eq
    have nonempty : items ≠ [] := by
      intro none
      rw [none] at counted
      exact some (List.length_eq_zero_iff.mp counted)
    obtain ⟨outs, states, executed, turned, laidAfter⟩ := modules_match config rowWise
      laid ⟨card_rows_sized width mapped, ids⟩ nonempty
    obtain ⟨through, last, modules, heads⟩ := bind_ok_steps afterProcesses
    rw [input] at executed
    have both := modules.symm.trans executed
    cases both
    obtain ⟨finished, same⟩ := finish_rows_ok.mp heads
    exact ⟨items, outs, states, mapped, turned, finished, same, laidAfter⟩
  · rintro ⟨items, outs, states, mapped, turned, finished, rfl, _⟩
    obtain ⟨queryRows, processRows, ids⟩ := card_rows_join mapped
    have counted := (mapM_ok mapped).length_eq
    have nonempty : items ≠ [] := by
      intro none
      rw [none] at counted
      exact some (List.length_eq_zero_iff.mp counted)
    obtain ⟨outs', states', executed, turned', _⟩ := modules_match config rowWise
      laid ⟨card_rows_sized width mapped, ids⟩ nonempty
    rw [turned] at turned'
    cases turned'
    rw [queryRows, processRows, bind_of_ok (lift_ok _ rnn), bind_of_ok (lift_ok _ rnn)]
    exact (bind_of_ok executed).trans (finish_rows_ok.mpr ⟨finished, rfl⟩)

/-- A bulk call succeeds exactly when its reviews, taken one at a time, do. -/
theorem layered_call_ok (rowWise : RowWise network rows) (width : CardWidth network rows)
    (materialized : materializeFlatCpuState before.2 = (.ok (), rnn)) (laid : Laid rows rnn)
    (some : inputs ≠ []) :
    processReviewsBulkLayeredWithState config network (.ok inputs) returnCurves numThreads before =
        (.ok output, after) ↔
      validateNumThreads numThreads = .ok () ∧ ∃ outs states,
        runTurns (reviewTurn network rows) (before.1, (), statesOf rnn) inputs =
          .ok (outs, after.1, (), states) ∧
        finishRows network inputs.length returnCurves outs = .ok output ∧
        after.2 = withStates rnn states ∧ Laid rows (withStates rnn states) := by
  have flat : onRnn materializeFlatCpuState before = (.ok (), (before.1, rnn)) :=
    on_rnn_ok.mpr ⟨materialized, rfl⟩
  have filled : inputs.isEmpty = false := by simpa using some
  unfold processReviewsBulkLayeredWithState
  constructor
  · intro run
    obtain ⟨_, _, threads, called⟩ := bind_ok_steps run
    obtain ⟨valid, rfl⟩ := lift_ok_value threads
    rw [bind_of_ok flat, bind_of_ok (lift_ok inputs _), processLayered, filled,
      if_neg Bool.false_ne_true] at called
    obtain ⟨steps, prepassed, prepass, passes⟩ := bind_ok_steps (restoring_ok called)
    obtain ⟨stepped, states⟩ := on_features_ok.mp prepass
    obtain ⟨executed, features⟩ := on_rnn_ok.mp passes
    rw [prepass_collects] at stepped
    have counted := run_turns_length (collect_turns.mp stepped)
    have nonempty : steps ≠ [] := by
      intro none
      rw [none] at counted
      exact some (List.length_eq_zero_iff.mp counted.symm)
    rw [states] at executed
    obtain ⟨items, outs, after', mapped, turned, finished, same, laidAfter⟩ :=
      (prepass_rows_ok config rowWise width laid nonempty).mp executed
    rw [counted] at finished
    refine ⟨valid, outs, after', ?_, finished, same, laidAfter⟩
    rw [features]
    exact review_turns_steps.mpr ⟨steps, items, stepped, mapped, turned⟩
  · rintro ⟨valid, outs, states, turned, finished, same, laidAfter⟩
    obtain ⟨steps, items, stepped, mapped, modules⟩ := review_turns_steps.mp turned
    have counted := run_turns_length (collect_turns.mp stepped)
    have nonempty : steps ≠ [] := by
      intro none
      rw [none] at counted
      exact some (List.length_eq_zero_iff.mp counted.symm)
    rw [← counted] at finished
    have executed := (prepass_rows_ok config rowWise width laid nonempty).mpr
      ⟨items, outs, states, mapped, modules, finished, same, laidAfter⟩
    rw [valid, bind_of_ok (lift_ok _ before), bind_of_ok flat, bind_of_ok (lift_ok inputs _),
      processLayered, filled, if_neg Bool.false_ne_true]
    apply restoring_of_ok
    rw [← prepass_collects] at stepped
    have prepassed : onFeatures (featurePrepass inputs) (before.1, rnn) =
        (.ok steps, (after.1, rnn)) :=
      on_features_ok.mpr ⟨stepped, rfl⟩
    exact (bind_of_ok prepassed).trans (on_rnn_ok.mpr ⟨executed, rfl⟩)

end Call

/-- A bulk call with settings of its own. -/
structure BulkCall (F : Type) where
  config : BulkConfig
  inputs : List (ReviewInput F)
  returnCurves : Bool
  numThreads : Option Nat

abbrev BulkEvent (F Rows : Type) := BulkCall F × Except String (NativeProcessManyOutput F Rows)

/-- The reviews of a call, if it was answered. -/
def doneBy : BulkEvent F Rows → List (ReviewInput F)
  | (call, .ok _) => call.inputs
  | (_, .error _) => []

section Runs

variable (network) in
/-- Calls one after the other, answered or refused. -/
inductive BulkRun : ModelState F V → List (BulkEvent F Rows) → ModelState F V → Prop
  | start (state : ModelState F V) : BulkRun state [] state
  | answered {before middle after : ModelState F V} {call : BulkCall F}
      {output : NativeProcessManyOutput F Rows} {events : List (BulkEvent F Rows)}
      (called : processReviewsBulkLayeredWithState call.config network (.ok call.inputs)
        call.returnCurves call.numThreads before = (.ok output, middle))
      (rest : BulkRun middle events after) : BulkRun before ((call, .ok output) :: events) after
  | refused {before middle after : ModelState F V} {call : BulkCall F} {message : String}
      {events : List (BulkEvent F Rows)}
      (called : processReviewsBulkLayeredWithState call.config network (.ok call.inputs)
        call.returnCurves call.numThreads before = (.error (.error message), middle))
      (rest : BulkRun middle events after) : BulkRun before ((call, .error message) :: events) after

variable (network) in
/-- What a call answers for the rows its reviews end with. -/
inductive Answers : BulkEvent F Rows → List (BulkRow V) → Prop
  | noReviews {call : BulkCall F} (empty : call.inputs = []) :
      Answers (call, .ok (emptyOutput call.returnCurves)) []
  | rows {call : BulkCall F} {output : NativeProcessManyOutput F Rows} {outs : List (BulkRow V)}
      (finished : finishRows network call.inputs.length call.returnCurves outs = .ok output) :
      Answers (call, .ok output) outs
  | refused {call : BulkCall F} {message : String} : Answers (call, .error message) []

variable {before after : ModelState F V} {rnn : NativeRnn V} {events : List (BulkEvent F Rows)}

theorem with_states_materialized (materialized : Materialized rnn) (states : SrsStates V) :
    Materialized (withStates rnn states) := ⟨materialized.keyed, materialized.global⟩

theorem with_states_again (rnn : NativeRnn V) (first second : SrsStates V) :
    withStates (withStates rnn first) second = withStates rnn second := by
  rw [withStates, withStates]
  rfl

theorem with_own_states (rnn : NativeRnn V) : withStates rnn (statesOf rnn) = rnn := by
  obtain ⟨states, globalState, flatStates, flatGlobalState⟩ := rnn
  rw [withStates]
  congr 1
  funext entity
  cases entity <;> rfl

variable (network rows) in
/-- The reviews, one at a time, from a runtime with these states. -/
structure InOrder (before after : ModelState F V) (rnn : NativeRnn V)
    (inputs : List (ReviewInput F)) (outs : List (BulkRow V)) (states : SrsStates V) : Prop where
  turned : runTurns (reviewTurn network rows) (before.1, (), statesOf rnn) inputs =
    .ok (outs, after.1, (), states)
  canonical : materializeFlatCpuState after.2 = (.ok (), withStates rnn states)
  laid : Laid rows (withStates rnn states)

theorem nothing_in_order (features : after.1 = before.1)
    (canonical : materializeFlatCpuState after.2 = (.ok (), rnn)) (laid : Laid rows rnn) :
    InOrder network rows before after rnn [] [] (statesOf rnn) where
  turned := by
    rw [features]
    rfl
  canonical := by
    rw [with_own_states]
    exact canonical
  laid := by
    rw [with_own_states]
    exact laid

theorem reviews_in_order {inputs : List (ReviewInput F)} {outs : List (BulkRow V)}
    {states : SrsStates V} (materialized : materializeFlatCpuState before.2 = (.ok (), rnn))
    (turned : runTurns (reviewTurn network rows) (before.1, (), statesOf rnn) inputs =
      .ok (outs, after.1, (), states))
    (ends : after.2 = withStates rnn states) (laid : Laid rows (withStates rnn states)) :
    InOrder network rows before after rnn inputs outs states where
  turned := turned
  canonical := by
    rw [ends]
    exact materialize_id (with_states_materialized (materialize_ok materialized) states)
  laid := laid

theorem in_order_append {middle : ModelState F V} {inputs later : List (ReviewInput F)}
    {outs laterOuts : List (BulkRow V)} {states last : SrsStates V}
    (first : InOrder network rows before middle rnn inputs outs states)
    (rest : InOrder network rows middle after (withStates rnn states) later laterOuts last) :
    InOrder network rows before after rnn (inputs ++ later) (outs ++ laterOuts) last where
  turned := run_turns_append_ok.mpr ⟨outs, _, laterOuts, first.turned, rest.turned, rfl⟩
  canonical := by
    rw [← with_states_again rnn states last]
    exact rest.canonical
  laid := by
    rw [← with_states_again rnn states last]
    exact rest.laid

theorem empty_call {call : BulkCall F} {output : NativeProcessManyOutput F Rows}
    {middle : ModelState F V} (materialized : materializeFlatCpuState before.2 = (.ok (), rnn))
    (empty : call.inputs = [])
    (called : processReviewsBulkLayeredWithState call.config network (.ok call.inputs)
      call.returnCurves call.numThreads before = (.ok output, middle)) :
    output = emptyOutput call.returnCurves ∧ middle = (before.1, rnn) := by
  have flat : onRnn materializeFlatCpuState before = (.ok (), (before.1, rnn)) :=
    on_rnn_ok.mpr ⟨materialized, rfl⟩
  obtain ⟨_, _, threads, passed⟩ := bind_ok_steps called
  obtain ⟨_, rfl⟩ := lift_ok_value threads
  rw [bind_of_ok flat, bind_of_ok (lift_ok call.inputs _), processLayered, empty] at passed
  cases passed
  exact ⟨rfl, rfl⟩

/-- A refused call leaves the runtime as materializing it does, or as it was. -/
theorem refused_call {call : BulkCall F} {message : String} {middle : ModelState F V}
    (materialized : materializeFlatCpuState before.2 = (.ok (), rnn))
    (called : processReviewsBulkLayeredWithState call.config network (.ok call.inputs)
      call.returnCurves call.numThreads before = (.error (.error message), middle)) :
    middle.1 = before.1 ∧ materializeFlatCpuState middle.2 = (.ok (), rnn) := by
  have flat : onRnn materializeFlatCpuState before = (.ok (), (before.1, rnn)) :=
    on_rnn_ok.mpr ⟨materialized, rfl⟩
  have canonical := materialize_ok materialized
  unfold processReviewsBulkLayeredWithState at called
  cases threads : validateNumThreads call.numThreads with
  | error refused =>
      rw [threads] at called
      cases called
      exact ⟨rfl, materialized⟩
  | ok valid =>
      rw [threads, bind_of_ok (lift_ok valid before), bind_of_ok flat,
        bind_of_ok (lift_ok call.inputs _)] at called
      have same := BatchAtomicity.layered_error call.config network canonical called
      rw [same]
      exact ⟨rfl, materialize_id canonical⟩

/-- However a history is cut into bulk calls and whatever each of them runs together, the answered
calls give the rows of their reviews taken one at a time and leave the runtime those leave. -/
theorem bulk_history_in_order (rowWise : RowWise network rows) (width : CardWidth network rows)
    (run : BulkRun network before events after)
    (materialized : materializeFlatCpuState before.2 = (.ok (), rnn)) (laid : Laid rows rnn) :
    ∃ outs states,
      runTurns (reviewTurn network rows) (before.1, (), statesOf rnn) (events.flatMap doneBy) =
        .ok (outs.flatten, after.1, (), states) ∧
      List.Forall₂ (Answers network) events outs ∧
      materializeFlatCpuState after.2 = (.ok (), withStates rnn states) ∧
      Laid rows (withStates rnn states) := by
  suffices ordered : ∃ outs states,
      InOrder network rows before after rnn (events.flatMap doneBy) outs.flatten states ∧
        List.Forall₂ (Answers network) events outs by
    obtain ⟨outs, states, ordered, answers⟩ := ordered
    exact ⟨outs, states, ordered.turned, answers, ordered.canonical, ordered.laid⟩
  induction run generalizing rnn with
  | start state => exact ⟨[], statesOf rnn, nothing_in_order rfl materialized laid, .nil⟩
  | @answered before middle after call output events called _ ih =>
      by_cases empty : call.inputs = []
      · obtain ⟨rfl, rfl⟩ := empty_call materialized empty called
        obtain ⟨outs, states, ordered, answers⟩ :=
          ih (materialize_id (materialize_ok materialized)) laid
        refine ⟨[] :: outs, states, ?_, .cons (.noReviews empty) answers⟩
        rw [List.flatMap_cons, doneBy, empty]
        exact ⟨ordered.turned, ordered.canonical, ordered.laid⟩
      · obtain ⟨_, outs, states, turned, finished, same, laidNext⟩ :=
          (layered_call_ok rowWise width materialized laid empty).mp called
        have here := reviews_in_order materialized turned same laidNext
        obtain ⟨later, last, rest, answers⟩ := ih here.canonical here.laid
        exact ⟨outs :: later, last, in_order_append here rest, .cons (.rows finished) answers⟩
  | @refused before middle after call message events called _ ih =>
      obtain ⟨features, canonical⟩ := refused_call materialized called
      obtain ⟨outs, states, ordered, answers⟩ := ih canonical laid
      have turned := ordered.turned
      rw [features] at turned
      exact ⟨[] :: outs, states, ⟨turned, ordered.canonical, ordered.laid⟩,
        .cons .refused answers⟩

end Runs

section Shift

open ExactNumbers DirectPaths GeneratorStates HistoryFeatures HistoryRuns RowLanes

/-- One layer of one channel that remembers one value. -/
def shiftState (value : Exact) : WorkingState Exact :=
  ⟨⟨[⟨[value], [0.0], 1, 1, 1⟩], none, some [⟨[value], 1⟩]⟩, by
    refine ⟨?_, rfl, _, rfl, ?_⟩
    · intro layer member
      rw [List.mem_singleton.mp member]
      exact ⟨rfl, rfl, rfl⟩
    · intro layer member
      rw [List.mem_singleton.mp member]
      exact rfl⟩

def shifted (state : Option (WorkingState Exact)) (row : List Exact) : Exact :=
  let last := (state.bind fun one => one.1.timeStateByLayer.head?.bind fun layer =>
    layer.xShiftValues.head?).getD 0.0
  row.headD 0.0 - last

/-- A row gives its difference from the row before it and is remembered itself. -/
def shiftRows : RowForwards Exact where
  channels := 1
  layout _ := ⟨[⟨1, 1, 1⟩], [1]⟩
  query _ state row := [shifted state row]
  process _ state row := ([shifted state row], shiftState (row.headD 0.0))
  layered _ := ⟨Nat.one_pos, rfl⟩
  querySized _ _ _ _ _ := rfl
  processSized _ _ _ _ _ := rfl
  keepsLayout _ _ _ _ _ := rfl

def shiftNetwork : BulkNetwork Exact Exact (Unit × Unit) :=
  laneNetwork shiftRows (fun features => .ok [features.headD 0.0])
    (fun rows => .ok (rows.map fun row => row.headD 0.0))
    (fun rows => .ok (rows.map fun _ => ((), ())))

def everythingBatched : BulkConfig := ⟨true, true, true, true, 2, true⟩

/-- Two reviews of one card with a review of another card between them. -/
def mixedReviews : List (ReviewInput Exact) :=
  [oneReview, { oneReview with reviewId := 2, cardId := 5 }, { oneReview with reviewId := 3 }]

def laterReviews : List (ReviewInput Exact) :=
  [{ oneReview with reviewId := 4, cardId := 5 }, { oneReview with reviewId := 5, cardId := 6 }]

theorem mixed_reviews_valid :
    ∀ input ∈ mixedReviews, ∃ fields, processFields input = .ok fields := by
  intro input member
  simp only [mixedReviews, List.mem_cons, List.not_mem_nil, or_false] at member
  rcases member with rfl | rfl | rfl
  · exact ⟨(3, 2.0, 1.0), rfl⟩
  · exact ⟨(3, 2.0, 1.0), rfl⟩
  · exact ⟨(3, 2.0, 1.0), rfl⟩

theorem later_reviews_valid :
    ∀ input ∈ laterReviews, ∃ fields, processFields input = .ok fields := by
  intro input member
  simp only [laterReviews, List.mem_cons, List.not_mem_nil, or_false] at member
  rcases member with rfl | rfl
  · exact ⟨(3, 2.0, 1.0), rfl⟩
  · exact ⟨(3, 2.0, 1.0), rfl⟩

def reviewCall (inputs : List (ReviewInput Exact)) (numThreads : Option Nat) : BulkCall Exact :=
  ⟨everythingBatched, inputs, true, numThreads⟩

def threadless : String := "num_threads must be at least 1"

theorem new_model_laid : Laid shiftRows (newModel 5489 : ModelState Exact Exact).2 := by
  intro module key native found
  cases module with
  | keyed entity =>
      cases key with
      | none => cases found
      | some key =>
          change (∅ : ExtTreeMap Int64 (NativeRnnModuleState Exact))[key]? = some native at found
          simp at found
  | global =>
      change (if key = none then none else none) = some native at found
      simp at found

/-- A seeded generator has the features of any number of valid reviews. -/
theorem collect_seeded {inputs : List (ReviewInput Exact)} {state : FeatureState Exact Exact}
    (valid : ∀ input ∈ inputs, ∃ fields, processFields input = .ok fields)
    (seeded : Seeded state.idRng) :
    ∃ steps features, collect featurePrepassStep inputs state = (.ok steps, features) ∧
      steps.length = inputs.length ∧ Seeded features.idRng ∧
      ∀ step ∈ steps, step.predictFeatures ≠ [] ∧ step.processFeatures ≠ [] := by
  induction inputs generalizing state with
  | nil => exact ⟨[], state, rfl, rfl, seeded, by simp⟩
  | cons input inputs ih =>
      obtain ⟨fields, read⟩ := valid input List.mem_cons_self
      obtain ⟨step, middle, prepared, filled⟩ := prepass_seeded read seeded
      have rest : ∀ input ∈ inputs, ∃ fields, processFields input = .ok fields := by
        intro later member
        exact valid later (List.mem_cons_of_mem _ member)
      obtain ⟨steps, features, collected, counted, reached, others⟩ :=
        ih rest (prepass_generator prepared seeded)
      refine ⟨step :: steps, features, ?_, ?_, reached, ?_⟩
      · rw [collect, bind_of_ok prepared, bind_of_ok collected]
        rfl
      · rw [List.length_cons, counted, List.length_cons]
      · intro other member
        rcases List.mem_cons.mp member with rfl | later
        · exact filled
        · exact others other later

def shiftRow (step : BulkFeatureStep Exact) : BulkRow Exact :=
  ⟨step.ids, [step.predictFeatures.headD 0.0], [step.processFeatures.headD 0.0]⟩

theorem shift_row_built {step : BulkFeatureStep Exact}
    (filled : step.predictFeatures ≠ [] ∧ step.processFeatures ≠ []) :
    cardRow shiftNetwork step = .ok (shiftRow step) := by
  obtain ⟨first, query, queryMade⟩ := List.exists_cons_of_ne_nil filled.1
  obtain ⟨second, process, processMade⟩ := List.exists_cons_of_ne_nil filled.2
  rw [cardRow, shiftRow, queryMade, processMade]
  simp [cardValues, tensorFrom2d, shiftNetwork, laneNetwork, bind, Except.bind, pure, Except.pure]

theorem shift_network_row_wise : RowWise shiftNetwork shiftRows := lane_network_row_wise _ _ _ _

theorem reviews_answered {inputs : List (ReviewInput Exact)} {before : ModelState Exact Exact}
    {rnn : NativeRnn Exact}
    (valid : ∀ input ∈ inputs, ∃ fields, processFields input = .ok fields) (present : inputs ≠ [])
    (seeded : Seeded before.1.idRng)
    (materialized : materializeFlatCpuState before.2 = (.ok (), rnn))
    (laid : Laid shiftRows rnn) :
    ∃ output after, processReviewsBulkLayeredWithState everythingBatched shiftNetwork (.ok inputs)
        true none before = (.ok output, after) ∧
      Seeded after.1.idRng ∧
      ∃ reached, materializeFlatCpuState after.2 = (.ok (), reached) ∧ Laid shiftRows reached := by
  obtain ⟨steps, features, collected, counted, drawn, filled⟩ := collect_seeded valid seeded
  have built : steps.mapM (cardRow shiftNetwork) = .ok (steps.map shiftRow) := by
    apply mapM_all_ok
    intro step member
    exact shift_row_built (filled step member)
  have ready : RowsReady shiftRows (steps.map BulkFeatureStep.ids) (steps.map shiftRow) := by
    refine ⟨?_, by simp [shiftRow, Function.comp_def]⟩
    intro row member
    obtain ⟨step, _, rfl⟩ := List.mem_map.mp member
    exact ⟨rfl, rfl⟩
  have nonempty : steps.map shiftRow ≠ [] := by
    rw [← List.length_pos_iff, List.length_map, counted]
    exact List.length_pos_iff.mpr present
  obtain ⟨outs, states, _, turned, laidNext⟩ :=
    modules_match everythingBatched shift_network_row_wise laid ready nonempty
  have rows : outs.length = inputs.length := by
    rw [run_turns_length turned, List.length_map, counted]
  have turns := review_turns_steps.mpr ⟨steps, _, collected, built, turned⟩
  have kept : InOrder shiftNetwork shiftRows before (features, withStates rnn states) rnn inputs
      outs states :=
    reviews_in_order materialized turns rfl laidNext
  refine ⟨⟨outs.map fun row => row.query.headD 0.0, some (outs.map fun _ => ((), ()))⟩,
    (features, withStates rnn states), ?_, drawn, _, kept.canonical, laidNext⟩
  apply (layered_call_ok shift_network_row_wise (fun _ _ made => by cases made; rfl) materialized
    laid present).mpr
  refine ⟨rfl, outs, states, turns, ?_, rfl, laidNext⟩
  simp [finishRows, shiftNetwork, laneNetwork, bulkCurves, rows, bind, Except.bind, pure,
    Except.pure, Function.comp_def]

/-- A refused call, a batch whose first card comes back, and a batch that goes on from it. -/
theorem two_batches_in_order : ∃ output later after outs states,
    BulkRun shiftNetwork (newModel 5489)
      [(reviewCall mixedReviews (some 0), .error threadless),
        (reviewCall mixedReviews none, .ok output), (reviewCall laterReviews none, .ok later)]
      after ∧
    runTurns (reviewTurn shiftNetwork shiftRows)
      ((newModel 5489).1, (), statesOf (newModel 5489 : ModelState Exact Exact).2)
        (mixedReviews ++ laterReviews) = .ok (outs, after.1, (), states) := by
  have materialized : materializeFlatCpuState (newModel 5489 : ModelState Exact Exact).2 =
      (.ok (), (newModel 5489 : ModelState Exact Exact).2) :=
    materialize_id ⟨fun _ => rfl, rfl⟩
  obtain ⟨output, middle, called, seeded, reached, canonical, laid⟩ :=
    reviews_answered mixed_reviews_valid (by simp [mixedReviews]) (seed_seeded 5489) materialized
      new_model_laid
  obtain ⟨later, after, again, _⟩ :=
    reviews_answered later_reviews_valid (by simp [laterReviews]) seeded canonical laid
  have run : BulkRun shiftNetwork (newModel 5489)
      [(reviewCall mixedReviews (some 0), .error threadless),
        (reviewCall mixedReviews none, .ok output), (reviewCall laterReviews none, .ok later)]
      after :=
    .refused rfl (.answered called (.answered again (.start after)))
  obtain ⟨outs, states, turned, _⟩ := bulk_history_in_order shift_network_row_wise
    (fun _ _ made => by cases made; rfl) run materialized new_model_laid
  exact ⟨output, later, after, outs.flatten, states, run, turned⟩

end Shift

end RwkvSrs.BulkReviews
