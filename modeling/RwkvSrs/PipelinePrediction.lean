import RwkvSrs.PipelineExecutor

/-!
The pipelined `process_many` executor, which predicts and processes every row.
Its line ends in a stage for the global module and in the calling thread, which
collects the rows, joins the other threads and applies the output heads.
-/

namespace RwkvSrs.PipelinePrediction

open RwkvSrs.ResultSteps RwkvSrs.FeatureScaling
open RwkvSrs.DeterministicState RwkvSrs.DeterministicTouch RwkvSrs.ModuleState
open RwkvSrs.NativeRnnState RwkvSrs.TurnRuns RwkvSrs.StagePipeline RwkvSrs.StagePipelineSafety
open RwkvSrs.StagePipelineProgress RwkvSrs.PipelineStages RwkvSrs.PipelineLine
open RwkvSrs.PipelineExecutor

set_option autoImplicit false
set_option linter.unusedSectionVars false

variable {F V Curve : Type} [Float64Ops F] [Float32Ops V] [FeatureFloat F V]

/-- The network: every forward is a function of one row's values and its module's state, on rows
of `channels` values. -/
structure SrsWeights (F V Curve : Type) where
  channels : Nat
  features2cardForward : List V → Except String (List V)
  rnnPredictForward : SrsModule → Option (WorkingState V) → List V → Except String (List V)
  rnnForward : SrsModule → Option (WorkingState V) → List V →
    Except String (List V × WorkingState V)
  predictionHead : List V → Except String F
  curveHead : List V → Except String Curve
  features2cardWidth : ∀ {features values}, features2cardForward features = .ok values →
    values.length = channels
  rnnPredictWidth : ∀ {module state values made}, rnnPredictForward module state values = .ok made →
    made.length = values.length
  rnnWidth : ∀ {module state values made next}, rnnForward module state values = .ok (made, next) →
    made.length = values.length

structure PipelineRow (V : Type) where
  index : Nat
  ids : ReviewIds
  queryValues : List V
  processValues : List V

structure ProcessManyOutput (F Curve : Type) where
  probabilities : List F
  curves : Option (List Curve)

variable (weights : SrsWeights F V Curve)

def buildPipelineRow (index : Nat) (step : BulkFeatureStep V) : Except String (PipelineRow V) := do
  let queryValues ← (weights.features2cardForward step.predictFeatures).mapError
    fun error => s!"pipeline_predict_features forward failed: {error}"
  let processValues ← (weights.features2cardForward step.processFeatures).mapError
    fun error => s!"pipeline_process_features forward failed: {error}"
  if queryValues.length ≠ processValues.length then
    .error s!"fast process pipeline row {index} has mismatched feature outputs"
  else return ⟨index, step.ids, queryValues, processValues⟩

def processStageRow (module : SrsModule) : RowForward V (PipelineRow V) := fun state row => do
  if row.processValues.length ≠ row.queryValues.length then
    .error s!"fast pipeline row {row.index} has mismatched lane widths"
  else do
    let queryValues ← (weights.rnnPredictForward module state row.queryValues).mapError
      fun error => s!"fast pipeline query forward failed: {error}"
    let (processValues, next) ← (weights.rnnForward module state row.processValues).mapError
      fun error => s!"fast pipeline process forward failed: {error}"
    return ({ row with queryValues, processValues }, next)

variable {weights}

/-- What no module changes about a row. -/
structure SameRow (row row' : PipelineRow V) : Prop where
  index : row'.index = row.index
  ids : row'.ids = row.ids
  queryWidth : row'.queryValues.length = row.queryValues.length
  processWidth : row'.processValues.length = row.processValues.length

theorem SameRow.trans {first middle last : PipelineRow V} (before : SameRow first middle)
    (after : SameRow middle last) : SameRow first last where
  index := after.index.trans before.index
  ids := after.ids.trans before.ids
  queryWidth := after.queryWidth.trans before.queryWidth
  processWidth := after.processWidth.trans before.processWidth

theorem map_error_ok {Value : Type} {result : Except String Value} {wrap : String → String}
    {value : Value} (mapped : result.mapError wrap = .ok value) : result = .ok value := by
  cases result with
  | ok found =>
      cases mapped
      rfl
  | error message => cases mapped

theorem process_stage_row_same {module : SrsModule} {state : Option (WorkingState V)}
    {row row' : PipelineRow V} {next : WorkingState V}
    (processed : processStageRow weights module state row = .ok (row', next)) :
    SameRow row row' := by
  unfold processStageRow at processed
  split at processed
  · cases processed
  · obtain ⟨queryValues, query, processed⟩ := bind_ok.mp processed
    obtain ⟨⟨processValues, after⟩, process, same⟩ := bind_ok.mp processed
    cases same
    exact ⟨rfl, rfl, weights.rnnPredictWidth (map_error_ok query),
      weights.rnnWidth (map_error_ok process)⟩

theorem build_row_shape {index : Nat} {step : BulkFeatureStep V} {row : PipelineRow V}
    (built : buildPipelineRow weights index step = .ok row) :
    row.index = index ∧ row.queryValues.length = weights.channels ∧
      row.processValues.length = weights.channels := by
  obtain ⟨queryValues, query, built⟩ := bind_ok.mp built
  obtain ⟨processValues, process, built⟩ := bind_ok.mp built
  split at built
  · cases built
  · cases built
    exact ⟨rfl, weights.features2cardWidth (map_error_ok query),
      weights.features2cardWidth (map_error_ok process)⟩

variable (weights) in
def pipelineForward : ModuleForward V (PipelineRow V) where
  ids row := row.ids
  forward := processStageRow weights
  keepsIds processed := (process_stage_row_same processed).ids

theorem keyed_module_same {entity : EntityModule} {states next : KeyedStates V}
    {row row' : PipelineRow V}
    (turned : keyedModule (pipelineForward weights) entity states row = .ok (row', next)) :
    SameRow row row' := by
  obtain ⟨state, _, turned⟩ := bind_ok.mp turned
  obtain ⟨⟨made, after⟩, forwarded, turned⟩ := bind_ok.mp turned
  obtain ⟨native, _, same⟩ := bind_ok.mp turned
  cases same
  exact process_stage_row_same forwarded

theorem modules_same {states next : SrsStates V} {row row' : PipelineRow V}
    (turned : modulesTurn (pipelineForward weights) states row = .ok (row', next)) :
    SameRow row row' := by
  obtain ⟨carded, card, turned⟩ := compose_turns_ok.mp turned
  obtain ⟨decked, deck, turned⟩ := compose_turns_ok.mp turned
  obtain ⟨noted, note, turned⟩ := compose_turns_ok.mp turned
  obtain ⟨preseted, preset, turned⟩ := compose_turns_ok.mp turned
  obtain ⟨state, _, turned⟩ := bind_ok.mp turned
  obtain ⟨⟨made, after⟩, forwarded, turned⟩ := bind_ok.mp turned
  obtain ⟨native, _, same⟩ := bind_ok.mp turned
  simp only [pure, Except.pure, Except.ok.injEq, Prod.mk.injEq] at same
  rw [← same.1]
  exact (((keyed_module_same card).trans (keyed_module_same deck)).trans
    (keyed_module_same note)).trans ((keyed_module_same preset).trans
      (process_stage_row_same forwarded))

/-- The checks of the collected rows, with the number of values the first has. -/
def checkRows (channels : Nat) : Nat → List (PipelineRow V) → Except String Unit
  | _, [] => .ok ()
  | expectedIndex, row :: rows =>
      if row.index ≠ expectedIndex then
        .error s!"fast process pipeline returned row {row.index} at position {expectedIndex}"
      else if row.queryValues.length ≠ channels ∨ row.processValues.length ≠ channels then
        .error s!"fast process pipeline row {expectedIndex} has inconsistent channels"
      else checkRows channels (expectedIndex + 1) rows

variable (weights) in
/-- The output heads, which treat the rows of their matrix alike. -/
def outputHeads (returnCurves : Bool) (rows : List (PipelineRow V)) :
    Except String (ProcessManyOutput F Curve) := do
  let probabilities ← rows.mapM fun row => weights.predictionHead row.queryValues
  let curves ← if returnCurves then
      (do return some (← rows.mapM fun row => weights.curveHead row.processValues))
    else .ok none
  return ⟨probabilities, curves⟩

variable (weights) in
def processRows (returnCurves : Bool) (rows : List (PipelineRow V)) :
    Except String (ProcessManyOutput F Curve) := do
  let channels ← match rows with
    | [] => .error "fast process pipeline produced no rows"
    | row :: _ => .ok row.queryValues.length
  checkRows channels 0 rows
  outputHeads weights returnCurves rows

theorem rows_checked {channels start : Nat} {rows : List (PipelineRow V)}
    (shaped : ∀ pair ∈ rows.zipIdx start, pair.1.index = pair.2 ∧
      pair.1.queryValues.length = channels ∧ pair.1.processValues.length = channels) :
    checkRows channels start rows = .ok () := by
  induction rows generalizing start with
  | nil => rfl
  | cons row rows ih =>
      obtain ⟨index, query, process⟩ := shaped (row, start) (by simp [List.zipIdx_cons])
      have later : checkRows channels (start + 1) rows = .ok () := ih fun pair member =>
        shaped pair (by rw [List.zipIdx_cons]; exact List.mem_cons_of_mem _ member)
      simp only at index query process
      rw [checkRows, if_neg (by simp [index]), if_neg (by simp [query, process])]
      exact later

def globalStage (line : ModuleForward V (PipelineRow V)) (rnn : NativeRnn V) (batch : Nat) :
    Stage (PipelineRow V) String where
  State := Option (WorkingState V)
  Output := Option (NativeRnnModuleState V)
  start := globalStart "fast pipeline global" rnn.globalState
  turn := globalTurn (line.forward .global)
  finish := globalFinish "fast pipeline global"
  closedEarly := "fast pipeline global stage output closed early"
  batch := batch

/-- The calling thread, which stores the rows it receives one at a time. -/
def outputStage (V : Type) : Stage (PipelineRow V) String where
  State := List (PipelineRow V)
  Output := List (PipelineRow V)
  start := .ok []
  turn rows row := .ok (row, rows ++ [row])
  finish rows := .ok rows
  closedEarly := ""
  batch := 1

def predictionTail (line : ModuleForward V (PipelineRow V)) (rnn : NativeRnn V) (batch : Nat) :
    LineTail (PipelineRow V) where
  stage
    | 0 => globalStage line rnn batch
    | _ + 1 => outputStage V
  length := 2
  joins := true

def predictionLabels : LineLabels where
  stages := "fast pipeline"
  producerClosed := "fast process pipeline card stage closed early"

variable (weights) in
def predictionPipeline (config : PipelineConfig) (rnn : NativeRnn V) (rows : List (PipelineRow V)) :
    Pipeline (PipelineRow V) String :=
  linePipeline predictionLabels config (pipelineForward weights) rnn rows
    (predictionTail (pipelineForward weights) rnn config.computeBatch)

/-- A failure the caller received comes first, then those of the joined threads. -/
def joinStages (rowCount : Nat) (received : Except String (List (PipelineRow V)))
    (producer : Except String Unit) (card deck note preset : Except String (KeyedStates V))
    (global : Except String (Option (NativeRnnModuleState V))) :
    Except String (List (PipelineRow V) × PipelineStateOutput V) := do
  let outputRows ← received
  producer
  let cardStates ← card
  let deckStates ← deck
  let noteStates ← note
  let presetStates ← preset
  let globalState ← global
  if outputRows.length ≠ rowCount then
    .error s!"fast process pipeline returned {outputRows.length} rows for {rowCount} inputs"
  else return (outputRows, ⟨cardStates, deckStates, noteStates, presetStates, globalState⟩)

variable (weights) in
def Joined (config : PipelineConfig) (returnCurves : Bool) (rnn : NativeRnn V)
    (rows : List (PipelineRow V)) (σ : System (predictionPipeline weights config rnn rows))
    (result : Except String (ProcessManyOutput F Curve × PipelineStateOutput V)) : Prop :=
  ∃ (received : Except String (List (PipelineRow V))) (producer : Except String Unit)
    (card deck note preset : Except String (KeyedStates V))
    (global : Except String (Option (NativeRnnModuleState V))),
    σ.thread 6 = .done received ∧ σ.thread 0 = .done producer ∧ σ.thread 1 = .done card ∧
    σ.thread 2 = .done deck ∧ σ.thread 3 = .done note ∧ σ.thread 4 = .done preset ∧
    σ.thread 5 = .done global ∧
    result = (do
      let (outputRows, states) ←
        joinStages rows.length received producer card deck note preset global
      let output ← processRows weights returnCurves outputRows
      return (output, states))

variable (weights) in
def predictionExecutor (config : PipelineConfig) (returnCurves : Bool) :
    Executor F V (PipelineRow V) (ProcessManyOutput F Curve) where
  Step := BulkFeatureStep V
  featureStep := featurePrepassStep
  buildRow := buildPipelineRow weights
  line := pipelineForward weights
  pipeline := predictionPipeline weights config
  joined := Joined weights config returnCurves
  finish := outputHeads weights returnCurves
  noRows := ⟨[], if returnCurves then some [] else none⟩

variable {config : PipelineConfig} {returnCurves : Bool} {rnn : NativeRnn V}
  {rows : List (PipelineRow V)}

theorem output_stage_run (rows : List (PipelineRow V)) :
    (outputStage V).run rows = .ok (rows, rows) := by
  have run : ∀ stored : List (PipelineRow V),
      runTurns (outputStage V).turn stored rows = .ok (rows, stored ++ rows) := by
    induction rows with
    | nil =>
        intro stored
        rw [List.append_nil]
        rfl
    | cons row rows ih =>
        intro stored
        apply run_turns_cons_ok.mpr
        refine ⟨row, stored ++ [row], rows, rfl, ?_, rfl⟩
        simpa using ih (stored ++ [row])
  exact stage_run_ok.mpr ⟨rows, ⟨[], rfl, run []⟩, rfl⟩

theorem output_stage_total (V : Type) : Total (outputStage V) where
  start := ⟨[], rfl⟩
  turn _ _ := ⟨_, rfl⟩
  finish _ := ⟨_, rfl⟩

theorem join_stages_ok {rowCount : Nat} {received : Except String (List (PipelineRow V))}
    {producer : Except String Unit} {card deck note preset : Except String (KeyedStates V)}
    {global : Except String (Option (NativeRnnModuleState V))} {outputRows : List (PipelineRow V)}
    {states : PipelineStateOutput V} :
    joinStages rowCount received producer card deck note preset global =
        .ok (outputRows, states) ↔
      received = .ok outputRows ∧ producer = .ok () ∧ card = .ok states.cardStates ∧
      deck = .ok states.deckStates ∧ note = .ok states.noteStates ∧
      preset = .ok states.presetStates ∧ global = .ok states.globalState ∧
      outputRows.length = rowCount := by
  constructor
  · intro joined
    obtain ⟨_, received, joined⟩ := bind_ok.mp joined
    obtain ⟨_, producer, joined⟩ := bind_ok.mp joined
    obtain ⟨_, card, joined⟩ := bind_ok.mp joined
    obtain ⟨_, deck, joined⟩ := bind_ok.mp joined
    obtain ⟨_, note, joined⟩ := bind_ok.mp joined
    obtain ⟨_, preset, joined⟩ := bind_ok.mp joined
    obtain ⟨_, global, joined⟩ := bind_ok.mp joined
    split at joined
    · cases joined
    · rename_i counted
      cases joined
      exact ⟨received, producer, card, deck, note, preset, global, not_not.mp counted⟩
  · rintro ⟨rfl, rfl, rfl, rfl, rfl, rfl, rfl, counted⟩
    simp [joinStages, bind, Except.bind, counted, pure, Except.pure]

theorem built_shape {steps : List (BulkFeatureStep V)} {start : Nat} {rows : List (PipelineRow V)}
    (built : buildRows (buildPipelineRow weights) steps start = .ok rows) :
    ∀ pair ∈ rows.zipIdx start, pair.1.index = pair.2 ∧
      pair.1.queryValues.length = weights.channels ∧
      pair.1.processValues.length = weights.channels := by
  induction steps generalizing start rows with
  | nil =>
      cases built
      intro pair none
      cases none
  | cons step steps ih =>
      obtain ⟨row, next, rest, turned, later, rfl⟩ :=
        run_turns_cons_ok.mp (build_rows_turns.mp built)
      obtain ⟨made, shaped, same⟩ := bind_ok.mp turned
      cases same
      have restBuilt : buildRows (buildPipelineRow weights) steps (start + 1) = .ok rest := by
        apply build_rows_turns.mpr
        rw [later, numbered_last later]
      intro pair member
      rw [List.zipIdx_cons] at member
      rcases List.mem_cons.mp member with here | there
      · subst here
        exact build_row_shape shaped
      · exact ih restBuilt pair there

theorem shape_kept {channels start : Nat} {rows outs : List (PipelineRow V)}
    (pairs : List.Forall₂ SameRow rows outs)
    (shaped : ∀ pair ∈ rows.zipIdx start, pair.1.index = pair.2 ∧
      pair.1.queryValues.length = channels ∧ pair.1.processValues.length = channels) :
    ∀ pair ∈ outs.zipIdx start, pair.1.index = pair.2 ∧
      pair.1.queryValues.length = channels ∧ pair.1.processValues.length = channels := by
  induction pairs generalizing start with
  | nil => exact shaped
  | @cons row out rows outs same _ ih =>
      rw [List.zipIdx_cons] at shaped ⊢
      intro pair member
      rcases List.mem_cons.mp member with here | there
      · subst here
        have first := shaped (row, start) (by simp)
        exact ⟨same.index.trans first.1, same.queryWidth.trans first.2.1,
          same.processWidth.trans first.2.2⟩
      · exact ih (fun pair member => shaped pair (List.mem_cons_of_mem _ member)) pair there

/-- The checks of the collected rows cannot fail. -/
theorem process_rows_of_modules {steps : List (BulkFeatureStep V)} {outs : List (PipelineRow V)}
    {states after : SrsStates V} (nonempty : rows ≠ [])
    (built : buildRows (buildPipelineRow weights) steps 0 = .ok rows)
    (run : runTurns (modulesTurn (pipelineForward weights)) states rows = .ok (outs, after)) :
    processRows weights returnCurves outs = outputHeads weights returnCurves outs := by
  have each : ∀ (states : SrsStates V) (row out : PipelineRow V) (next : SrsStates V),
      modulesTurn (pipelineForward weights) states row = .ok (out, next) → SameRow row out :=
    fun _ _ _ _ turned => modules_same turned
  have shaped := shape_kept (run_turns_pairs each run) (built_shape built)
  cases outs with
  | nil =>
      have same := run_turns_length run
      exact absurd (List.length_eq_zero_iff.mp same.symm) nonempty
  | cons out outs =>
      have width := (shaped (out, 0) (by simp [List.zipIdx_cons])).2.1
      have checked := rows_checked shaped
      rw [← width] at checked
      simp only [processRows, bind, Except.bind, checked]

theorem prediction_finished {σ : System (predictionPipeline weights config rnn rows)}
    {result : Except String (ProcessManyOutput F Curve × PipelineStateOutput V)}
    (joined : Joined weights config returnCurves rnn rows σ result) :
    ∀ k, k ≤ (predictionPipeline weights config rnn rows).last →
      (σ.thread k).receiverGone = true := by
  obtain ⟨_, _, _, _, _, _, _, output, producer, card, deck, note, preset, global, _⟩ := joined
  intro k inLine
  have bound : k ≤ 6 := inLine
  match k, bound with
  | 0, _ => rw [producer]; rfl
  | 1, _ => rw [card]; rfl
  | 2, _ => rw [deck]; rfl
  | 3, _ => rw [note]; rfl
  | 4, _ => rw [preset]; rfl
  | 5, _ => rw [global]; rfl
  | 6, _ => rw [output]; rfl

/-- What the caller joins is what the rows give one at a time, before the output heads. -/
theorem joined_outcome {σ : System (predictionPipeline weights config rnn rows)}
    {result : Except String (ProcessManyOutput F Curve × PipelineStateOutput V)}
    (nonempty : rows ≠ []) (reachable : Reachable σ)
    (joined : Joined weights config returnCurves rnn rows σ result) :
    (∃ outs states, runTurns (modulesTurn (pipelineForward weights)) (statesOf rnn) rows =
        .ok (outs, statesOf (commitStates rnn states)) ∧
      result = (do
        let output ← processRows weights returnCurves outs
        return (output, states))) ∨
    (¬ Succeeds (predictionPipeline weights config rnn rows) ∧ ∃ message,
      result = .error message) := by
  have finished := prediction_finished joined
  obtain ⟨received, producer, card, deck, note, preset, global, output6, producer0, card1, deck2,
    note3, preset4, global5, same⟩ := joined
  rcases finished_outcome reachable finished with ⟨rowsAt, whole, each⟩ | ⟨never, k, inLine, failure, done⟩
  · left
    obtain ⟨globalState, globalDone, globalRun⟩ := each 5 (by omega : 5 ≤ 6)
    obtain ⟨outputRows, outputDone, outputRun⟩ := each 6 (by omega : 6 ≤ 6)
    obtain ⟨states, stored, fed, cardDone, deckDone, noteDone, presetDone, runs⟩ :=
      keyed_threads whole.input each globalState
    obtain ⟨last, ⟨first, started, turned⟩, ended⟩ := stage_run_ok.mp globalRun
    have middle : rowsAt 5 ≠ [] := by
      intro none
      have counted := keyed_runs_length runs
      rw [none] at counted
      exact nonempty (List.length_eq_zero_iff.mp counted.symm)
    obtain ⟨native, shared, finish⟩ := global_run _ _ middle started turned
    have made := finish.symm.trans ended
    cases made
    rw [← stored] at shared
    have modules := modules_of_stages runs shared
    refine ⟨rowsAt 6, states, modules, ?_⟩
    have collected : Except.ok (rowsAt 6, rowsAt 6) = .ok (rowsAt 7, outputRows) :=
      (output_stage_run (rowsAt 6)).symm.trans outputRun
    have same6 : outputRows = rowsAt 6 := by
      injection collected with pair
      exact (congrArg Prod.snd pair).symm
    subst same6
    have join : joinStages rows.length received producer card deck note preset global =
        .ok (rowsAt 6, states) := by
      apply join_stages_ok.mpr
      rw [stored]
      exact ⟨thread_result output6 outputDone, thread_result producer0 fed,
        thread_result card1 cardDone, thread_result deck2 deckDone, thread_result note3 noteDone,
        thread_result preset4 presetDone, thread_result global5 globalDone,
        run_turns_length modules⟩
    rw [same, join]
    rfl
  · right
    refine ⟨never, ?_⟩
    cases result with
    | error message => exact ⟨message, rfl⟩
    | ok value =>
        obtain ⟨⟨outputRows, states⟩, join, _⟩ := bind_ok.mp same.symm
        obtain ⟨rfl, rfl, rfl, rfl, rfl, rfl, rfl, _⟩ := join_stages_ok.mp join
        have bound : k ≤ 6 := inLine
        match k, bound with
        | 0, _ => cases thread_result done producer0
        | 1, _ => cases thread_result done card1
        | 2, _ => cases thread_result done deck2
        | 3, _ => cases thread_result done note3
        | 4, _ => cases thread_result done preset4
        | 5, _ => cases thread_result done global5
        | 6, _ => cases thread_result done output6

theorem succeeds_of_modules {outs : List (PipelineRow V)} {after : SrsStates V}
    (nonempty : rows ≠ [])
    (run : runTurns (modulesTurn (pipelineForward weights)) (statesOf rnn) rows =
      .ok (outs, after)) : Succeeds (predictionPipeline weights config rnn rows) := by
  obtain ⟨middle, states, runs, shared, counted⟩ :=
    stages_of_modules predictionLabels.stages config.computeBatch run
  have some : middle ≠ [] := by
    intro none
    rw [none] at counted
    exact nonempty (List.length_eq_zero_iff.mp counted.symm)
  obtain ⟨first, last, started, turned, ended⟩ :=
    global_run_of_shared "fast pipeline global" _ some shared
  let rowsAt : Nat → List (PipelineRow V) := fun
    | 0 => middle
    | _ + 1 => outs
  apply stagewise_of_modules runs rowsAt rfl
  intro k inLine
  have bound : k < 2 := inLine
  match k, bound with
  | 0, _ => exact ⟨_, stage_run_ok.mpr ⟨last, ⟨first, started, turned⟩, ended⟩⟩
  | 1, _ => exact ⟨outs, output_stage_run outs⟩

theorem prediction_sound :
    (predictionExecutor weights config returnCurves).Sound where
  touches covered := touches_feature_prepass_step covered
  succeeded nonempty built reachable joined := by
    rcases joined_outcome nonempty reachable joined with ⟨outs, states, modules, same⟩ | ⟨_, _, same⟩
    · obtain ⟨output, processed, made⟩ := bind_ok.mp same.symm
      cases made
      rw [process_rows_of_modules nonempty built modules] at processed
      exact ⟨outs, modules, processed⟩
    · cases same
  failed nonempty built reachable joined := by
    intro outs after output modules finished
    rcases joined_outcome nonempty reachable joined with ⟨outs', states, modules', same⟩ | ⟨never, _⟩
    · have one := modules.symm.trans modules'
      cases one
      rw [process_rows_of_modules nonempty built modules'] at same
      have heads : outputHeads weights returnCurves outs = .ok output := finished
      rw [heads] at same
      cases same
    · exact never (succeeds_of_modules nonempty modules)
  returns finished := by
    obtain ⟨received, output6⟩ := done_of_receiver_gone (finished 6 (by omega : 6 ≤ 6))
    obtain ⟨producer, producer0⟩ := done_of_receiver_gone (finished 0 (by omega : 0 ≤ 6))
    obtain ⟨card, card1⟩ := done_of_receiver_gone (finished 1 (by omega : 1 ≤ 6))
    obtain ⟨deck, deck2⟩ := done_of_receiver_gone (finished 2 (by omega : 2 ≤ 6))
    obtain ⟨note, note3⟩ := done_of_receiver_gone (finished 3 (by omega : 3 ≤ 6))
    obtain ⟨preset, preset4⟩ := done_of_receiver_gone (finished 4 (by omega : 4 ≤ 6))
    obtain ⟨global, global5⟩ := done_of_receiver_gone (finished 5 (by omega : 5 ≤ 6))
    exact ⟨_, received, producer, card, deck, note, preset, global, output6, producer0, card1,
      deck2, note3, preset4, global5, rfl⟩
  total _ _ _ := output_stage_total V

end RwkvSrs.PipelinePrediction
