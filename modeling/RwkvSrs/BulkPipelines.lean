import RwkvSrs.BulkReviews
import RwkvSrs.PipelinePrediction

/-!
The two bulk executors of one network. The layered executor takes all rows of a
call through one module before the next; the pipelined one has a thread for each
module and sends the rows from thread to thread. A history may pass from one to
the other at any call: whichever answers, and under whatever schedule of the
threads, the reviews leave what they leave one at a time.
-/

namespace RwkvSrs.BulkPipelines

open Std RwkvSrs.ResultSteps RwkvSrs.FallibleMethod RwkvSrs.FeatureScaling RwkvSrs.ReviewInput
open RwkvSrs.DeterministicState RwkvSrs.DeterministicUndo RwkvSrs.TurnRuns RwkvSrs.ModuleState
open RwkvSrs.NativeRnnState RwkvSrs.BatchJournal RwkvSrs.ReviewProcessing RwkvSrs.PipelineStages
open RwkvSrs.PipelineLine RwkvSrs.PipelineExecutor RwkvSrs.PipelinePrediction
open RwkvSrs.BulkStreamPlan RwkvSrs.BulkExecution RwkvSrs.BulkProcessing RwkvSrs.RowWiseBatches
open RwkvSrs.BulkRowRuns RwkvSrs.BulkPlanRuns RwkvSrs.BulkInOrder RwkvSrs.BulkReviews
open RwkvSrs.BulkStateJoin RwkvSrs.TorchRng

set_option autoImplicit false
set_option linter.unusedSectionVars false

section Matching

variable {Row Other Failure State Next : Type} {project : Row → Other} {Fits : Row → Prop}
  {Kept : State → Prop} {Later : Next → Prop}

/-- Both machines answer, with matching rows and one next state. -/
def TurnsMatch (project : Row → Other) (Fits : Row → Prop) (Kept : State → Prop)
    (first : Turn Row Row Failure State) (second : Turn Other Other Failure State) : Prop :=
  ∀ state row, Kept state → Fits row → ∃ out next, first state row = .ok (out, next) ∧
    second state (project row) = .ok (project out, next) ∧ Kept next ∧ Fits out

theorem turns_match_compose {first : Turn Row Row Failure State}
    {second : Turn Other Other Failure State} {later : Turn Row Row Failure Next}
    {laterSecond : Turn Other Other Failure Next}
    (one : TurnsMatch project Fits Kept first second)
    (two : TurnsMatch project Fits Later later laterSecond) :
    TurnsMatch project Fits (fun states : State × Next => Kept states.1 ∧ Later states.2)
      (composeTurns first later) (composeTurns second laterSecond) := by
  intro states row kept fits
  obtain ⟨middle, next, turned, matched, keptNext, fitsMiddle⟩ := one states.1 row kept.1 fits
  obtain ⟨out, last, turnedLast, matchedLast, keptLast, fitsOut⟩ :=
    two states.2 middle kept.2 fitsMiddle
  exact ⟨out, (next, last), compose_turns_ok.mpr ⟨middle, turned, turnedLast⟩,
    compose_turns_ok.mpr ⟨project middle, matched, matchedLast⟩, ⟨keptNext, keptLast⟩, fitsOut⟩

theorem matching_runs {first : Turn Row Row Failure State}
    {second : Turn Other Other Failure State}
    (matching : TurnsMatch project Fits Kept first second) {state : State} (kept : Kept state)
    {rows : List Row} (fits : ∀ row ∈ rows, Fits row) :
    ∃ outs last, runTurns first state rows = .ok (outs, last) ∧
      runTurns second state (rows.map project) = .ok (outs.map project, last) := by
  induction rows generalizing state with
  | nil => exact ⟨[], state, rfl, rfl⟩
  | cons row rows ih =>
      obtain ⟨out, next, turned, matched, keptNext, _⟩ :=
        matching state row kept (fits row List.mem_cons_self)
      obtain ⟨outs, last, run, matchedRun⟩ :=
        ih keptNext fun other member => fits other (List.mem_cons_of_mem _ member)
      exact ⟨out :: outs, last, run_turns_cons_ok.mpr ⟨out, next, outs, turned, run, rfl⟩,
        run_turns_cons_ok.mpr ⟨project out, next, outs.map project, matched, matchedRun, rfl⟩⟩

end Matching

variable {F V Rows : Type} [Float64Ops F] [Float32Ops V] [FeatureFloat F V]

/-- The forwards of single rows and the batched ones compute the same. -/
structure SameForwards (weights : SrsWeights F V (Rows × Rows))
    (network : BulkNetwork F V (Rows × Rows)) (rows : RowForwards V) : Prop where
  rowWise : RowWise network rows
  channels : weights.channels = rows.channels
  features : network.features2cardForward = weights.features2cardForward
  query : ∀ module state row, OfLayout (rows.layout module) state → row.length = rows.channels →
    weights.rnnPredictForward module state row = .ok (rows.query module state row)
  process : ∀ module state row, OfLayout (rows.layout module) state → row.length = rows.channels →
    weights.rnnForward module state row = .ok (rows.process module state row)
  probabilities : ∀ queries,
    network.predictionProbabilities queries = queries.mapM weights.predictionHead
  curves : ∀ processes, network.curveOutputs processes = processes.mapM weights.curveHead

variable {weights : SrsWeights F V (Rows × Rows)} {network : BulkNetwork F V (Rows × Rows)}
  {rows : RowForwards V}

theorem card_width (same : SameForwards weights network rows) : CardWidth network rows := by
  intro features values made
  rw [same.features] at made
  rw [← same.channels]
  exact weights.features2cardWidth made

/-- A row of the pipeline as the layered executor has it. -/
def bulkRow (row : PipelineRow V) : BulkRow V := ⟨row.ids, row.queryValues, row.processValues⟩

def Wide (rows : RowForwards V) (row : PipelineRow V) : Prop :=
  row.queryValues.length = rows.channels ∧ row.processValues.length = rows.channels

section Module

variable {module : SrsModule} {state : Option (WorkingState V)} {row : PipelineRow V}

theorem stage_forward_matches (same : SameForwards weights network rows)
    (laid : OfLayout (rows.layout module) state) (wide : Wide rows row) :
    ∃ out, processStageRow weights module state row =
        .ok (out, nextState rows module state (bulkRow row)) ∧
      bulkRow out = passed rows module state (bulkRow row) ∧ Wide rows out := by
  have level : ¬ row.processValues.length ≠ row.queryValues.length := by
    rw [wide.1, wide.2]
    exact not_not.mpr rfl
  have query := same.query module state row.queryValues laid wide.1
  have process := same.process module state row.processValues laid wide.2
  refine ⟨{ row with
    queryValues := rows.query module state row.queryValues
    processValues := (rows.process module state row.processValues).1 }, ?_, rfl,
    rows.querySized module state _ laid wide.1, rows.processSized module state _ laid wide.2⟩
  rw [processStageRow, if_neg level, query, process]
  rfl

/-- What a row of the module's layout reads. -/
theorem laid_current {entry : Option (NativeRnnModuleState V)}
    (laid : LaidEntry rows module entry) :
    ∃ state, currentState entry = .ok state ∧ OfLayout (rows.layout module) state := by
  cases entry with
  | none => exact ⟨none, rfl, fun one made => by cases made⟩
  | some native =>
      obtain ⟨_, working, converted, own⟩ := laid native rfl
      refine ⟨some working, bind_ok.mpr ⟨working, converted, rfl⟩, ?_⟩
      intro one made
      cases made
      exact own

theorem keyed_turns_match (same : SameForwards weights network rows) (entity : EntityModule) :
    TurnsMatch bulkRow (Wide rows)
      (fun states => ∀ key : Int64, LaidEntry rows (.keyed entity) states[key]?)
      (keyedModule (pipelineForward weights) entity) (keyedModule (rowLine rows) entity) := by
  intro states row laid wide
  obtain ⟨state, current, own⟩ := laid_current (laid (entity.key row.ids))
  obtain ⟨out, forwarded, image, wideOut⟩ := stage_forward_matches same own wide
  obtain ⟨native, converted, _⟩ :=
    to_native_ok (nextState rows (.keyed entity) state (bulkRow row))
  refine ⟨out, states.insert (entity.key row.ids) native, ?_, ?_, ?_, wideOut⟩
  · exact bind_ok.mpr ⟨state, current, bind_ok.mpr ⟨_, forwarded,
      bind_ok.mpr ⟨native, converted, rfl⟩⟩⟩
  · rw [image]
    exact bind_ok.mpr ⟨state, current, bind_ok.mpr ⟨_, rfl, bind_ok.mpr ⟨native, converted, rfl⟩⟩⟩
  · intro key
    by_cases here : entity.key row.ids = key
    · rw [here, ExtTreeMap.getElem?_insert_self]
      exact stored_laid (rows.keepsLayout _ _ _ own wide.2) converted
    · rw [ExtTreeMap.getElem?_insert, if_neg (by simpa using here)]
      exact laid key

theorem shared_turns_match (same : SameForwards weights network rows) :
    TurnsMatch bulkRow (Wide rows) (LaidEntry rows .global)
      (sharedTurn ((pipelineForward weights).forward .global))
      (sharedTurn ((rowLine rows).forward .global)) := by
  intro shared row laid wide
  obtain ⟨state, current, own⟩ := laid_current laid
  obtain ⟨out, forwarded, image, wideOut⟩ := stage_forward_matches same own wide
  obtain ⟨native, converted, _⟩ := to_native_ok (nextState rows .global state (bulkRow row))
  refine ⟨out, some native, ?_, ?_, stored_laid (rows.keepsLayout _ _ _ own wide.2) converted,
    wideOut⟩
  · exact bind_ok.mpr ⟨state, current, bind_ok.mpr ⟨_, forwarded,
      bind_ok.mpr ⟨native, converted, rfl⟩⟩⟩
  · rw [image]
    exact bind_ok.mpr ⟨state, current, bind_ok.mpr ⟨_, rfl, bind_ok.mpr ⟨native, converted, rfl⟩⟩⟩

/-- Every row of a laid runtime through the five modules. -/
theorem modules_runs_match (same : SameForwards weights network rows) {rnn : NativeRnn V}
    (laid : Laid rows rnn) {items : List (PipelineRow V)} (wide : ∀ row ∈ items, Wide rows row) :
    ∃ outs last, runTurns (modulesTurn (pipelineForward weights)) (statesOf rnn) items =
        .ok (outs, last) ∧
      runTurns (modulesTurn (rowLine rows)) (statesOf rnn) (items.map bulkRow) =
        .ok (outs.map bulkRow, last) := by
  refine matching_runs (turns_match_compose (keyed_turns_match same .card)
    (turns_match_compose (keyed_turns_match same .deck)
      (turns_match_compose (keyed_turns_match same .note)
        (turns_match_compose (keyed_turns_match same .preset) (shared_turns_match same))))) ?_ wide
  exact ⟨fun key => laid (.keyed .card) (some key), fun key => laid (.keyed .deck) (some key),
    fun key => laid (.keyed .note) (some key), fun key => laid (.keyed .preset) (some key),
    laid .global none⟩

end Module

section Call

variable {steps : List (BulkFeatureStep V)} {items : List (BulkRow V)}
  {inputs : List (ReviewInput F)}

/-- Every review has features. -/
def Filled (step : BulkFeatureStep V) : Prop :=
  step.predictFeatures ≠ [] ∧ step.processFeatures ≠ []

theorem appended_filled {row : PreparedRow F} {drawn : Bool} {submodules : List IdSubmodule}
    {features out : List V} {before after : FeatureState F V} (filled : features ≠ [])
    (run : submodules.foldlM (appendEncoding row drawn) features before = (.ok out, after)) :
    out ≠ [] := by
  induction submodules generalizing features before with
  | nil =>
      cases run
      exact filled
  | cons submodule submodules ih =>
      rw [List.foldlM_cons] at run
      obtain ⟨next, middle, appended, rest⟩ := bind_ok_steps run
      obtain ⟨id, _, _, appended⟩ := bind_ok_steps appended
      obtain ⟨encoding, _, _, made⟩ := bind_ok_steps appended
      cases made
      exact ih (List.append_ne_nil_of_left_ne_nil filled _) rest

theorem vector_filled {row : PreparedRow F} {drawn : Bool} {out : List V}
    {before after : FeatureState F V}
    (run : featureVector row drawn before = (.ok out, after)) : out ≠ [] := by
  unfold featureVector at run
  obtain ⟨features, _, card, afterCard⟩ := bind_ok_steps run
  obtain ⟨encoded, _, appended, afterEncodings⟩ := bind_ok_steps afterCard
  obtain ⟨days, _, _, made⟩ := bind_ok_steps afterEncodings
  cases made
  have filled : features ≠ [] := by
    intro none
    have counted := (mapM_ok (lift_ok_value card).1).length_eq
    rw [none] at counted
    cases counted
  exact List.append_ne_nil_of_left_ne_nil (appended_filled filled appended) _

theorem restoring_rng_value {Value : Type} {rng : Option TorchMt19937}
    {step : Method (FeatureState F V) Value} {before after : FeatureState F V} {value : Value}
    (run : restoringRng rng step before = (.ok value, after)) :
    ∃ reached, step before = (.ok value, reached) := by
  unfold restoringRng at run
  generalize step before = stepped at run ⊢
  obtain ⟨result, reached⟩ := stepped
  cases result with
  | ok found => cases rng <;> cases run <;> exact ⟨_, rfl⟩
  | error failure => cases failure <;> cases rng <;> cases run

theorem step_filled {input : ReviewInput F} {before after : FeatureState F V}
    {step : BulkFeatureStep V}
    (prepared : featurePrepassStep input before = (.ok step, after)) : Filled step := by
  unfold featurePrepassStep at prepared
  obtain ⟨_, _, _, run⟩ := bind_ok_steps prepared
  obtain ⟨ids, _, _, run⟩ := bind_ok_steps run
  obtain ⟨predictFeatures, _, predicted, run⟩ := bind_ok_steps run
  obtain ⟨_, _, _, run⟩ := bind_ok_steps run
  obtain ⟨processRow, _, _, run⟩ := bind_ok_steps run
  obtain ⟨processFeatures, _, processed, run⟩ := bind_ok_steps run
  obtain ⟨_, _, _, run⟩ := bind_ok_steps run
  obtain ⟨_, _, _, made⟩ := bind_ok_steps run
  cases made
  unfold predictFeatureVector at predicted
  obtain ⟨_, _, _, predicted⟩ := bind_ok_steps predicted
  obtain ⟨restore, _, _, predicted⟩ := bind_ok_steps predicted
  obtain ⟨reached, drawn⟩ := restoring_rng_value predicted
  exact ⟨vector_filled drawn, vector_filled processed⟩

theorem prepass_filled {features last : FeatureState F V}
    (stepped : collect featurePrepassStep inputs features = (.ok steps, last)) :
    ∀ step ∈ steps, Filled step := by
  have run := collect_turns.mp stepped
  clear stepped
  induction inputs generalizing features steps with
  | nil =>
      cases run
      exact fun step member => absurd member List.not_mem_nil
  | cons input inputs ih =>
      obtain ⟨step, next, rest, turned, later, rfl⟩ := run_turns_cons_ok.mp run
      intro other member
      rcases List.mem_cons.mp member with rfl | member
      · exact step_filled (method_turn_ok.mp turned)
      · exact ih later other member

theorem card_values_filled {features : List V} (filled : features ≠ []) (tensorName : String) :
    cardValues network features tensorName = network.features2cardForward features := by
  obtain ⟨first, rest, rfl⟩ := List.exists_cons_of_ne_nil filled
  simp [cardValues, tensorFrom2d, bind, Except.bind]

theorem card_row_built (same : SameForwards weights network rows) {step : BulkFeatureStep V}
    (filled : Filled step) {item : BulkRow V} (index : Nat) :
    cardRow network step = .ok item ↔
      ∃ row, buildPipelineRow weights index step = .ok row ∧ bulkRow row = item := by
  rw [cardRow, card_values_filled filled.1, card_values_filled filled.2, same.features,
    buildPipelineRow]
  constructor
  · intro made
    obtain ⟨query, queryMade, made⟩ := bind_ok.mp made
    obtain ⟨process, processMade, made⟩ := bind_ok.mp made
    cases made
    have level : ¬ query.length ≠ process.length := by
      rw [weights.features2cardWidth queryMade, weights.features2cardWidth processMade]
      exact not_not.mpr rfl
    refine ⟨⟨index, step.ids, query, process⟩, ?_, rfl⟩
    rw [queryMade, processMade]
    exact bind_ok.mpr ⟨query, rfl, bind_ok.mpr ⟨process, rfl, if_neg level⟩⟩
  · rintro ⟨row, built, rfl⟩
    obtain ⟨query, queryMade, built⟩ := bind_ok.mp built
    obtain ⟨process, processMade, built⟩ := bind_ok.mp built
    by_cases uneven : query.length ≠ process.length
    · rw [if_pos uneven] at built
      cases built
    · rw [if_neg uneven] at built
      cases built
      exact bind_ok.mpr ⟨query, map_error_ok queryMade,
        bind_ok.mpr ⟨process, map_error_ok processMade, rfl⟩⟩

theorem rows_built (same : SameForwards weights network rows)
    (filled : ∀ step ∈ steps, Filled step) (start : Nat) :
    steps.mapM (cardRow network) = .ok items ↔
      ∃ built, buildRows (buildPipelineRow weights) steps start = .ok built ∧
        built.map bulkRow = items := by
  induction steps generalizing items start with
  | nil =>
      constructor
      · intro made
        cases made
        exact ⟨[], rfl, rfl⟩
      · rintro ⟨built, made, rfl⟩
        cases made
        rfl
  | cons step steps ih =>
      have later := fun {items} => @ih items
        (fun other member => filled other (List.mem_cons_of_mem _ member)) (start + 1)
      have here := fun {item} => @card_row_built F V Rows _ _ _ weights network rows same step
        (filled step List.mem_cons_self) item start
      rw [List.mapM_cons, buildRows, List.zipIdx_cons, List.mapM_cons]
      constructor
      · intro made
        obtain ⟨item, first, made⟩ := bind_ok.mp made
        obtain ⟨rest, others, made⟩ := bind_ok.mp made
        cases made
        obtain ⟨row, rowBuilt, rfl⟩ := here.mp first
        obtain ⟨built, laterBuilt, rfl⟩ := later.mp others
        exact ⟨row :: built, bind_ok.mpr ⟨row, rowBuilt, bind_ok.mpr ⟨built, laterBuilt, rfl⟩⟩, rfl⟩
      · rintro ⟨built, made, rfl⟩
        obtain ⟨row, rowBuilt, made⟩ := bind_ok.mp made
        obtain ⟨rest, laterBuilt, made⟩ := bind_ok.mp made
        cases made
        exact bind_ok.mpr ⟨bulkRow row, here.mpr ⟨row, rowBuilt, rfl⟩,
          bind_ok.mpr ⟨rest.map bulkRow, later.mpr ⟨rest, laterBuilt, rfl⟩, rfl⟩⟩

def nativeOutput (output : ProcessManyOutput F (Rows × Rows)) : NativeProcessManyOutput F Rows :=
  ⟨output.probabilities, output.curves⟩

theorem heads_match (same : SameForwards weights network rows) {returnCurves : Bool}
    {outs : List (PipelineRow V)} {count : Nat} (counted : outs.length = count) :
    finishRows network count returnCurves (outs.map bulkRow) =
      (outputHeads weights returnCurves outs).map nativeOutput := by
  have queries : network.predictionProbabilities ((outs.map bulkRow).map BulkRow.query) =
      outs.mapM fun row => weights.predictionHead row.queryValues := by
    rw [same.probabilities, List.mapM_map, List.mapM_map]
    rfl
  have curves : network.curveOutputs ((outs.map bulkRow).map BulkRow.process) =
      outs.mapM fun row => weights.curveHead row.processValues := by
    rw [same.curves, List.mapM_map, List.mapM_map]
    rfl
  rw [finishRows, bulkCurves, outputHeads, queries, curves]
  cases predicted : outs.mapM fun row => weights.predictionHead row.queryValues with
  | error message => rfl
  | ok probabilities =>
      have level : ¬ probabilities.length ≠ count := by
        rw [← (mapM_ok predicted).length_eq, counted]
        exact not_not.mpr rfl
      simp only [bind, Except.bind, if_neg level]
      cases returnCurves with
      | false => rfl
      | true =>
          cases outs.mapM fun row => weights.curveHead row.processValues with
          | error message => rfl
          | ok found => rfl

variable {before after : ModelState F V} {rnn : NativeRnn V} {config : PipelineConfig}
  {returnCurves : Bool} {output : ProcessManyOutput F (Rows × Rows)}

/-- The rows of a call leave the modules alike in either form of the network. -/
theorem built_runs (same : SameForwards weights network rows) (laid : Laid rows rnn)
    {features last : FeatureState F V} {built : List (PipelineRow V)}
    (stepped : collect featurePrepassStep inputs features = (.ok steps, last))
    (rowsBuilt : buildRows (buildPipelineRow weights) steps 0 = .ok built) :
    ∃ outs states,
      runTurns (modulesTurn (pipelineForward weights)) (statesOf rnn) built = .ok (outs, states) ∧
      runTurns (reviewTurn network rows) (features, (), statesOf rnn) inputs =
        .ok (outs.map bulkRow, last, (), states) ∧ outs.length = inputs.length := by
  have mapped := (rows_built same (prepass_filled stepped) 0).mpr ⟨built, rowsBuilt, rfl⟩
  have wide : ∀ row ∈ built, Wide rows row := fun row member =>
    card_rows_sized (card_width same) mapped (bulkRow row) (List.mem_map_of_mem member)
  obtain ⟨outs, states, turned, bulkTurned⟩ := modules_runs_match same laid wide
  refine ⟨outs, states, turned, review_turns_steps.mpr ⟨steps, _, stepped, mapped, bulkTurned⟩, ?_⟩
  calc outs.length = built.length := run_turns_length turned
    _ = steps.length := run_turns_length (build_rows_turns.mp rowsBuilt)
    _ = inputs.length := run_turns_length (collect_turns.mp stepped)

/-- The reviews of a call taken one at a time, in either form of the network. -/
theorem sequential_in_order (same : SameForwards weights network rows)
    (materialized : materializeFlatCpuState before.2 = (.ok (), rnn)) (laid : Laid rows rnn)
    (some : inputs ≠ []) :
    (predictionExecutor weights config returnCurves).sequentialProcess inputs before =
        .ok (output, after) ↔
      ∃ outs states, runTurns (reviewTurn network rows) (before.1, (), statesOf rnn) inputs =
          .ok (outs, after.1, (), states) ∧
        finishRows network inputs.length returnCurves outs = .ok (nativeOutput output) ∧
        after.2 = withStates rnn states := by
  constructor
  · intro run
    obtain ⟨flat, steps, built, outs, states, canonical, stepped, rowsBuilt, turned, finished,
      ends⟩ := (Executor.sequential_ok some).mp run
    have both := materialized.symm.trans canonical
    cases both
    obtain ⟨outs', last, turned', reviewed, counted⟩ := built_runs same laid stepped rowsBuilt
    have both := turned.symm.trans turned'
    cases both
    refine ⟨outs.map bulkRow, states, reviewed, ?_, ends⟩
    have heads : outputHeads weights returnCurves outs = .ok output := finished
    rw [heads_match same counted, heads]
    rfl
  · rintro ⟨bulkOuts, states, run, finished, ends⟩
    obtain ⟨steps, items, stepped, mapped, _⟩ := review_turns_steps.mp run
    obtain ⟨built, rowsBuilt, _⟩ := (rows_built same (prepass_filled stepped) 0).mp mapped
    obtain ⟨outs, last, turned, reviewed, counted⟩ := built_runs same laid stepped rowsBuilt
    have both := run.symm.trans reviewed
    cases both
    rw [heads_match same counted] at finished
    refine (Executor.sequential_ok some).mpr ⟨rnn, steps, built, outs, states, materialized,
      stepped, rowsBuilt, turned, ?_, ends⟩
    change outputHeads weights returnCurves outs = .ok output
    cases heads : outputHeads weights returnCurves outs with
    | error message =>
        rw [heads] at finished
        cases finished
    | ok found =>
        rw [heads] at finished
        obtain ⟨probabilities, curves⟩ := found
        cases finished
        rfl

theorem turned_laid (same : SameForwards weights network rows) (laid : Laid rows rnn)
    (some : inputs ≠ []) {features last : FeatureState F V} {states : SrsStates V}
    {outs : List (BulkRow V)}
    (run : runTurns (reviewTurn network rows) (features, (), statesOf rnn) inputs =
      .ok (outs, last, (), states)) : Laid rows (withStates rnn states) := by
  obtain ⟨steps, items, stepped, mapped, turned⟩ := review_turns_steps.mp run
  have counted := (mapM_ok mapped).length_eq.symm.trans
    (run_turns_length (collect_turns.mp stepped))
  have nonempty : items ≠ [] := by
    intro none
    rw [none] at counted
    exact some (List.length_eq_zero_iff.mp counted.symm)
  obtain ⟨outs', states', _, turned', laidAfter⟩ := modules_match everythingBatched same.rowWise
    laid ⟨card_rows_sized (card_width same) mapped, rfl⟩ nonempty
  have both := turned.symm.trans turned'
  cases both
  exact laidAfter

end Call

/-- A call of either executor, with settings of its own. -/
inductive ManyCall (F : Type) where
  | layered (call : BulkCall F)
  | pipelined (config : PipelineConfig) (inputs : List (ReviewInput F)) (returnCurves : Bool)

namespace ManyCall

def inputs : ManyCall F → List (ReviewInput F)
  | layered call => call.inputs
  | pipelined _ inputs _ => inputs

def returnCurves : ManyCall F → Bool
  | layered call => call.returnCurves
  | pipelined _ _ returnCurves => returnCurves

end ManyCall

section Histories

variable (weights network) in
/-- What a call does, the pipelined one under any schedule of its threads. -/
inductive Called : ManyCall F → ModelState F V →
    Except Failure (NativeProcessManyOutput F Rows) → ModelState F V → Prop
  | layered {call : BulkCall F} {before after : ModelState F V}
      {result : Except Failure (NativeProcessManyOutput F Rows)}
      (called : processReviewsBulkLayeredWithState call.config network (.ok call.inputs)
        call.returnCurves call.numThreads before = (result, after)) :
      Called (.layered call) before result after
  | pipelined {config : PipelineConfig} {inputs : List (ReviewInput F)} {returnCurves : Bool}
      {before after : ModelState F V} {result : Except Failure (ProcessManyOutput F (Rows × Rows))}
      (called : (predictionExecutor weights config returnCurves).Call inputs before result after) :
      Called (.pipelined config inputs returnCurves) before (result.map nativeOutput) after

abbrev ManyEvent (F Rows : Type) := ManyCall F × Except String (NativeProcessManyOutput F Rows)

/-- The reviews of a call, if it was answered. -/
def reviewsOf : ManyEvent F Rows → List (ReviewInput F)
  | (call, .ok _) => call.inputs
  | (_, .error _) => []

variable (weights network) in
/-- Calls one after the other, answered or refused. -/
inductive ManyRun : ModelState F V → List (ManyEvent F Rows) → ModelState F V → Prop
  | start (state : ModelState F V) : ManyRun state [] state
  | answered {before middle after : ModelState F V} {call : ManyCall F}
      {output : NativeProcessManyOutput F Rows} {events : List (ManyEvent F Rows)}
      (called : Called weights network call before (.ok output) middle)
      (rest : ManyRun middle events after) : ManyRun before ((call, .ok output) :: events) after
  | refused {before middle after : ModelState F V} {call : ManyCall F} {message : String}
      {events : List (ManyEvent F Rows)}
      (called : Called weights network call before (.error (.error message)) middle)
      (rest : ManyRun middle events after) : ManyRun before ((call, .error message) :: events) after

variable (network) in
/-- What a call answers for the rows its reviews end with. -/
inductive ManyAnswers : ManyEvent F Rows → List (BulkRow V) → Prop
  | noReviews {call : ManyCall F} (empty : call.inputs = []) :
      ManyAnswers (call, .ok (emptyOutput call.returnCurves)) []
  | rows {call : ManyCall F} {output : NativeProcessManyOutput F Rows} {outs : List (BulkRow V)}
      (finished : finishRows network call.inputs.length call.returnCurves outs = .ok output) :
      ManyAnswers (call, .ok output) outs
  | refused {call : ManyCall F} {message : String} : ManyAnswers (call, .error message) []

variable {before middle after : ModelState F V} {rnn : NativeRnn V} {call : ManyCall F}
  {output : NativeProcessManyOutput F Rows} {events : List (ManyEvent F Rows)}

theorem answered_in_order (same : SameForwards weights network rows)
    (materialized : materializeFlatCpuState before.2 = (.ok (), rnn)) (laid : Laid rows rnn)
    (called : Called weights network call before (.ok output) after) :
    ∃ outs states, InOrder network rows before after rnn call.inputs outs states ∧
      ManyAnswers network (call, .ok output) outs := by
  generalize answered : (Except.ok output : Except Failure _) = result at called
  cases called with
  | @layered call _ _ _ called =>
      subst answered
      by_cases empty : call.inputs = []
      · obtain ⟨rfl, rfl⟩ := empty_call materialized empty called
        refine ⟨[], statesOf rnn, ?_, .noReviews empty⟩
        rw [ManyCall.inputs, empty]
        exact nothing_in_order rfl (materialize_id (materialize_ok materialized)) laid
      · obtain ⟨_, outs, states, turned, finished, ends, laidAfter⟩ :=
          (layered_call_ok same.rowWise (card_width same) materialized laid empty).mp called
        exact ⟨outs, states, reviews_in_order materialized turned ends laidAfter, .rows finished⟩
  | @pipelined config inputs returnCurves _ _ result called =>
      cases result with
      | error failure => cases answered
      | ok made =>
          cases answered
          have agrees := Executor.call_agrees prediction_sound called
          by_cases empty : inputs = []
          · rw [Executor.Agrees, Executor.sequentialProcess, if_pos empty] at agrees
            cases agrees
            refine ⟨[], statesOf rnn, ?_, .noReviews empty⟩
            rw [ManyCall.inputs, empty]
            exact nothing_in_order rfl materialized laid
          · obtain ⟨outs, states, turned, finished, ends⟩ :=
              (sequential_in_order same materialized laid empty).mp agrees
            exact ⟨outs, states, reviews_in_order materialized turned ends
              (turned_laid same laid empty turned), .rows finished⟩

/-- A refused call of either executor leaves the features and the latest states. -/
theorem refused_in_order {message : String}
    (materialized : materializeFlatCpuState before.2 = (.ok (), rnn))
    (called : Called weights network call before (.error (.error message)) after) :
    after.1 = before.1 ∧ materializeFlatCpuState after.2 = (.ok (), rnn) := by
  generalize refused : (Except.error (Failure.error message) : Except Failure _) = result at called
  cases called with
  | layered called =>
      subst refused
      exact refused_call materialized called
  | @pipelined config inputs returnCurves _ _ result called =>
      cases result with
      | ok made => cases refused
      | error failure =>
          obtain ⟨_, features, _, states⟩ := Executor.call_agrees prediction_sound called
          rw [materialized] at states
          exact ⟨features, by rw [states]; exact materialize_id (materialize_ok materialized)⟩

/-- Whichever executor takes each part of a history, and whatever schedules its threads, the
answered calls give the rows of their reviews taken one at a time and leave the runtime those
leave. -/
theorem history_in_order (same : SameForwards weights network rows)
    (run : ManyRun weights network before events after)
    (materialized : materializeFlatCpuState before.2 = (.ok (), rnn)) (laid : Laid rows rnn) :
    ∃ outs states,
      InOrder network rows before after rnn (events.flatMap reviewsOf) outs.flatten states ∧
      List.Forall₂ (ManyAnswers network) events outs := by
  induction run generalizing rnn with
  | start state => exact ⟨[], statesOf rnn, nothing_in_order rfl materialized laid, .nil⟩
  | answered called _ ih =>
      obtain ⟨outs, states, here, answers⟩ := answered_in_order same materialized laid called
      obtain ⟨later, last, rest, laterAnswers⟩ := ih here.canonical here.laid
      exact ⟨outs :: later, last, in_order_append here rest, .cons answers laterAnswers⟩
  | refused called _ ih =>
      obtain ⟨features, canonical⟩ := refused_in_order materialized called
      obtain ⟨outs, states, rest, answers⟩ := ih canonical laid
      have turned := rest.turned
      rw [features] at turned
      exact ⟨[] :: outs, states, ⟨turned, rest.canonical, rest.laid⟩, .cons .refused answers⟩

end Histories

section Shift

open ExactNumbers DirectPaths GeneratorStates HistoryRuns RowLanes

def shiftWeights : SrsWeights Exact Exact (Unit × Unit) where
  channels := 1
  features2cardForward features := .ok [features.headD 0.0]
  rnnPredictForward module state row :=
    if row.length = 1 then .ok (shiftRows.query module state row) else .error "row width"
  rnnForward module state row :=
    if row.length = 1 then .ok (shiftRows.process module state row) else .error "row width"
  predictionHead row := .ok (row.headD 0.0)
  curveHead _ := .ok ((), ())
  features2cardWidth made := by
    cases made
    rfl
  rnnPredictWidth made := by
    split at made
    · rename_i width
      cases made
      exact width.symm
    · cases made
  rnnWidth made := by
    split at made
    · rename_i width
      cases made
      exact width.symm
    · cases made

theorem shift_same : SameForwards shiftWeights shiftNetwork shiftRows where
  rowWise := lane_network_row_wise _ _ _ _
  channels := rfl
  features := rfl
  query _ _ _ _ width := if_pos width
  process _ _ _ _ width := if_pos width
  probabilities _ := (mapM_all_ok fun _ _ => rfl).symm
  curves _ := (mapM_all_ok fun _ _ => rfl).symm

def twoAhead : PipelineConfig := ⟨2, 2, by decide⟩

/-- The pipeline answers whatever the layered call does. -/
theorem reviews_pipelined {inputs : List (ReviewInput Exact)}
    {before after : ModelState Exact Exact} {rnn : NativeRnn Exact}
    {output : NativeProcessManyOutput Exact Unit}
    (present : inputs ≠ []) (materialized : materializeFlatCpuState before.2 = (.ok (), rnn))
    (laid : Laid shiftRows rnn)
    (called : processReviewsBulkLayeredWithState everythingBatched shiftNetwork (.ok inputs) true
      none before = (.ok output, after)) :
    ∃ made,
      (predictionExecutor shiftWeights twoAhead true).Call inputs before (.ok made) after := by
  obtain ⟨_, outs, states, turned, finished, ends, _⟩ := (layered_call_ok shift_same.rowWise
    (card_width shift_same) materialized laid present).mp called
  have sequential : (predictionExecutor shiftWeights twoAhead true).sequentialProcess inputs
      before = .ok (⟨output.predictionProbabilities, output.curves⟩, after) :=
    (sequential_in_order shift_same materialized laid present).mpr
      ⟨outs, states, turned, finished, ends⟩
  obtain ⟨result, reached, pipelined⟩ := Executor.call_returns
    (@prediction_sound Exact Exact (Unit × Unit) _ _ _ shiftWeights twoAhead true) inputs before
  cases result with
  | ok made =>
      have agrees : _ = Except.ok (made, reached) :=
        Executor.call_agrees prediction_sound pipelined
      cases sequential.symm.trans agrees
      exact ⟨_, pipelined⟩
  | error failure =>
      obtain ⟨⟨other, failed⟩, _⟩ := Executor.call_agrees prediction_sound pipelined
      rw [sequential] at failed
      cases failed

/-- A pipelined call with rows of one card behind each other, a refused layered call, and a layered
call that goes on from the states of the pipeline. -/
theorem mixed_calls_in_order : ∃ output later after outs states,
    ManyRun shiftWeights shiftNetwork (newModel 5489)
      [(.pipelined twoAhead mixedReviews true, .ok output),
        (.layered (reviewCall laterReviews (some 0)), .error threadless),
        (.layered (reviewCall laterReviews none), .ok later)] after ∧
    InOrder shiftNetwork shiftRows (newModel 5489) after
      (newModel 5489 : ModelState Exact Exact).2 (mixedReviews ++ laterReviews) outs states := by
  have materialized : materializeFlatCpuState (newModel 5489 : ModelState Exact Exact).2 =
      (.ok (), (newModel 5489 : ModelState Exact Exact).2) :=
    materialize_id ⟨fun _ => rfl, rfl⟩
  have present : mixedReviews ≠ [] := by simp [mixedReviews]
  obtain ⟨layered, middle, called, seeded, reached, canonical, laid⟩ :=
    reviews_answered mixed_reviews_valid present (seed_seeded 5489) materialized new_model_laid
  obtain ⟨output, pipelined⟩ := reviews_pipelined present materialized new_model_laid called
  obtain ⟨later, after, again, _⟩ :=
    reviews_answered later_reviews_valid (by simp [laterReviews]) seeded canonical laid
  have run : ManyRun shiftWeights shiftNetwork (newModel 5489)
      [(.pipelined twoAhead mixedReviews true, .ok (nativeOutput output)),
        (.layered (reviewCall laterReviews (some 0)), .error threadless),
        (.layered (reviewCall laterReviews none), .ok later)] after :=
    .answered (.pipelined pipelined)
      (.refused (.layered rfl) (.answered (.layered again) (.start after)))
  obtain ⟨outs, states, ordered, _⟩ := history_in_order shift_same run materialized new_model_laid
  exact ⟨nativeOutput output, later, after, outs.flatten, states, run, ordered⟩

end Shift

end RwkvSrs.BulkPipelines
