import RwkvSrs.PipelinePrediction

/-!
The pipelined history builder, which processes every row and predicts none. Its
line ends in the stage for the global module, which counts the rows it
completes and sends nothing; the calling thread only joins.
-/

namespace RwkvSrs.PipelineStateBuilder

open RwkvSrs.ResultSteps RwkvSrs.FallibleMethod RwkvSrs.FeatureScaling RwkvSrs.ReviewInput
open RwkvSrs.DeterministicState RwkvSrs.DeterministicTouch RwkvSrs.ModuleState
open RwkvSrs.NativeRnnState RwkvSrs.TurnRuns RwkvSrs.StagePipeline RwkvSrs.StagePipelineSafety
open RwkvSrs.StagePipelineProgress RwkvSrs.PipelineStages RwkvSrs.PipelineLine
open RwkvSrs.PipelineExecutor RwkvSrs.PipelinePrediction

set_option autoImplicit false
set_option linter.unusedSectionVars false

variable {F V Curve : Type} [Float64Ops F] [Float32Ops V] [FeatureFloat F V]

structure StateBuildRow (V : Type) where
  ids : ReviewIds
  processValues : List V

variable (weights : SrsWeights F V Curve)

def buildStateRow (_ : Nat) (step : ReviewIds × List V) : Except String (StateBuildRow V) := do
  let processValues ← (weights.features2cardForward step.2).mapError
    fun error => s!"state_builder_process_features forward failed: {error}"
  return ⟨step.1, processValues⟩

def processStateRow (module : SrsModule) : RowForward V (StateBuildRow V) := fun state row => do
  let (processValues, next) ← (weights.rnnForward module state row.processValues).mapError
    fun error => s!"state builder process forward failed: {error}"
  return ({ row with processValues }, next)

variable {weights}

theorem process_state_row_ids {module : SrsModule} {state : Option (WorkingState V)}
    {row row' : StateBuildRow V} {next : WorkingState V}
    (processed : processStateRow weights module state row = .ok (row', next)) :
    row'.ids = row.ids := by
  obtain ⟨⟨values, after⟩, _, same⟩ := bind_ok.mp processed
  cases same
  rfl

variable (weights) in
def stateBuildForward : ModuleForward V (StateBuildRow V) where
  ids row := row.ids
  forward := processStateRow weights
  keepsIds := process_state_row_ids

/-- The last stage counts the rows it completes. -/
def countRow {Row : Type} : Turn Row Row String Nat := fun completedRows row =>
  .ok (row, completedRows + 1)

def globalCountStage (line : ModuleForward V (StateBuildRow V)) (rnn : NativeRnn V) (batch : Nat) :
    Stage (StateBuildRow V) String where
  State := Option (WorkingState V) × Nat
  Output := Option (NativeRnnModuleState V) × Nat
  start := do return (← globalStart "state builder global" rnn.globalState, 0)
  turn := composeTurns (globalTurn (line.forward .global)) countRow
  finish state := do return (← globalFinish "state builder global" state.1, state.2)
  closedEarly := ""
  batch := batch

def stateBuildTail (line : ModuleForward V (StateBuildRow V)) (rnn : NativeRnn V) (batch : Nat) :
    LineTail (StateBuildRow V) where
  stage _ := globalCountStage line rnn batch
  length := 1
  joins := false

def stateBuildLabels : LineLabels where
  stages := "state builder"
  producerClosed := "state builder card stage closed early"

variable (weights) in
def stateBuildPipeline (config : PipelineConfig) (rnn : NativeRnn V)
    (rows : List (StateBuildRow V)) : Pipeline (StateBuildRow V) String :=
  linePipeline stateBuildLabels config (stateBuildForward weights) rnn rows
    (stateBuildTail (stateBuildForward weights) rnn config.computeBatch)

/-- The threads are joined from the last to the first, and then the completed rows are counted. -/
def joinStateStages (rowCount : Nat) (producer : Except String Unit)
    (card deck note preset : Except String (KeyedStates V))
    (global : Except String (Option (NativeRnnModuleState V) × Nat)) :
    Except String (Nat × PipelineStateOutput V) := do
  let (globalState, completedRows) ← global
  let presetStates ← preset
  let noteStates ← note
  let deckStates ← deck
  let cardStates ← card
  producer
  if completedRows ≠ rowCount then
    .error s!"fast state builder completed {completedRows} rows for {rowCount} inputs"
  else return (rowCount, ⟨cardStates, deckStates, noteStates, presetStates, globalState⟩)

variable (weights) in
def StatesJoined (config : PipelineConfig) (rnn : NativeRnn V) (rows : List (StateBuildRow V))
    (σ : System (stateBuildPipeline weights config rnn rows))
    (result : Except String (Nat × PipelineStateOutput V)) : Prop :=
  ∃ (producer : Except String Unit) (card deck note preset : Except String (KeyedStates V))
    (global : Except String (Option (NativeRnnModuleState V) × Nat)),
    σ.thread 0 = .done producer ∧ σ.thread 1 = .done card ∧ σ.thread 2 = .done deck ∧
    σ.thread 3 = .done note ∧ σ.thread 4 = .done preset ∧ σ.thread 5 = .done global ∧
    result = joinStateStages rows.length producer card deck note preset global

variable (weights) in
def stateBuildExecutor (config : PipelineConfig) : Executor F V (StateBuildRow V) Nat where
  Step := ReviewIds × List V
  featureStep := stateBuildStep
  buildRow := buildStateRow weights
  line := stateBuildForward weights
  pipeline := stateBuildPipeline weights config
  joined := StatesJoined weights config
  finish rows := .ok rows.length
  noRows := 0

variable {config : PipelineConfig} {rnn : NativeRnn V} {rows : List (StateBuildRow V)}

theorem join_state_stages_ok {rowCount completed : Nat} {producer : Except String Unit}
    {card deck note preset : Except String (KeyedStates V)}
    {global : Except String (Option (NativeRnnModuleState V) × Nat)}
    {states : PipelineStateOutput V} :
    joinStateStages rowCount producer card deck note preset global = .ok (completed, states) ↔
      global = .ok (states.globalState, rowCount) ∧ preset = .ok states.presetStates ∧
      note = .ok states.noteStates ∧ deck = .ok states.deckStates ∧
      card = .ok states.cardStates ∧ producer = .ok () ∧ completed = rowCount := by
  constructor
  · intro joined
    obtain ⟨⟨_, counted⟩, global, joined⟩ := bind_ok.mp joined
    obtain ⟨_, preset, joined⟩ := bind_ok.mp joined
    obtain ⟨_, note, joined⟩ := bind_ok.mp joined
    obtain ⟨_, deck, joined⟩ := bind_ok.mp joined
    obtain ⟨_, card, joined⟩ := bind_ok.mp joined
    obtain ⟨_, producer, joined⟩ := bind_ok.mp joined
    split at joined
    · cases joined
    · rename_i same
      have equal := not_not.mp same
      subst equal
      cases joined
      exact ⟨global, preset, note, deck, card, producer, rfl⟩
  · rintro ⟨rfl, rfl, rfl, rfl, rfl, rfl, rfl⟩
    simp [joinStateStages, bind, Except.bind, pure, Except.pure]

theorem count_rows {count last : Nat} {rows outs : List (StateBuildRow V)} :
    runTurns countRow count rows = .ok (outs, last) ↔ outs = rows ∧ last = count + rows.length := by
  induction rows generalizing count outs with
  | nil =>
      simp only [runTurns, Except.ok.injEq, Prod.mk.injEq, List.length_nil, Nat.add_zero]
      exact and_congr eq_comm eq_comm
  | cons row rows ih =>
      rw [run_turns_cons_ok, List.length_cons]
      constructor
      · rintro ⟨out, next, rest, turned, later, rfl⟩
        cases turned
        obtain ⟨rfl, rfl⟩ := ih.mp later
        exact ⟨rfl, by omega⟩
      · rintro ⟨rfl, rfl⟩
        exact ⟨row, count + 1, rows, rfl, ih.mpr ⟨rfl, by omega⟩, rfl⟩

theorem global_count_run {line : ModuleForward V (StateBuildRow V)} {batch : Nat}
    {rows outs : List (StateBuildRow V)} {native : Option (NativeRnnModuleState V)} {count : Nat}
    (nonempty : rows ≠ []) :
    (globalCountStage line rnn batch).run rows = .ok (outs, (native, count)) ↔
      runTurns (sharedTurn (line.forward .global)) rnn.globalState rows = .ok (outs, native) ∧
        count = rows.length := by
  apply stage_run_ok.trans
  constructor
  · rintro ⟨last, ⟨state, started, turned⟩, ended⟩
    obtain ⟨first, begun, same⟩ := bind_ok.mp started
    cases same
    obtain ⟨middles, global, counted⟩ := run_compose_turns.mp turned
    obtain ⟨rfl, total⟩ := count_rows.mp counted
    obtain ⟨native', shared, finish⟩ := global_run _ _ nonempty begun global
    obtain ⟨converted, ending, same⟩ := bind_ok.mp ended
    have equal := finish.symm.trans ending
    cases equal
    cases same
    refine ⟨shared, ?_⟩
    rw [total, run_turns_length shared, Nat.zero_add]
  · rintro ⟨shared, rfl⟩
    obtain ⟨first, last, started, turned, ended⟩ :=
      global_run_of_shared "state builder global" _ nonempty shared
    refine ⟨(last, rows.length), ⟨(first, 0), ?_, ?_⟩, ?_⟩
    · exact bind_ok.mpr ⟨first, started, rfl⟩
    · apply run_compose_turns.mpr
      refine ⟨outs, turned, count_rows.mpr ⟨rfl, ?_⟩⟩
      rw [run_turns_length shared, Nat.zero_add]
    · exact bind_ok.mpr ⟨native, ended, rfl⟩

theorem state_threads_finished {σ : System (stateBuildPipeline weights config rnn rows)}
    {result : Except String (Nat × PipelineStateOutput V)}
    (joined : StatesJoined weights config rnn rows σ result) :
    ∀ k, k ≤ (stateBuildPipeline weights config rnn rows).last →
      (σ.thread k).receiverGone = true := by
  obtain ⟨_, _, _, _, _, _, producer, card, deck, note, preset, global, _⟩ := joined
  intro k inLine
  have bound : k ≤ 5 := inLine
  match k, bound with
  | 0, _ => rw [producer]; rfl
  | 1, _ => rw [card]; rfl
  | 2, _ => rw [deck]; rfl
  | 3, _ => rw [note]; rfl
  | 4, _ => rw [preset]; rfl
  | 5, _ => rw [global]; rfl

/-- What the caller joins is what the rows give one at a time. -/
theorem states_joined_outcome {σ : System (stateBuildPipeline weights config rnn rows)}
    {result : Except String (Nat × PipelineStateOutput V)}
    (nonempty : rows ≠ []) (reachable : Reachable σ)
    (joined : StatesJoined weights config rnn rows σ result) :
    (∃ outs states, runTurns (modulesTurn (stateBuildForward weights)) (statesOf rnn) rows =
        .ok (outs, statesOf (commitStates rnn states)) ∧ result = .ok (rows.length, states)) ∨
    (¬ Succeeds (stateBuildPipeline weights config rnn rows) ∧ ∃ message,
      result = .error message) := by
  have finished := state_threads_finished joined
  obtain ⟨producer, card, deck, note, preset, global, producer0, card1, deck2, note3, preset4,
    global5, same⟩ := joined
  rcases finished_outcome reachable finished with ⟨rowsAt, whole, each⟩ | ⟨never, k, inLine, failure, done⟩
  · left
    obtain ⟨⟨globalState, count⟩, globalDone, globalRun⟩ := each 5 (by omega : 5 ≤ 5)
    obtain ⟨states, stored, fed, cardDone, deckDone, noteDone, presetDone, runs⟩ :=
      keyed_threads whole.input each globalState
    have counted := keyed_runs_length runs
    have middle : rowsAt 5 ≠ [] := by
      intro none
      rw [none] at counted
      exact nonempty (List.length_eq_zero_iff.mp counted.symm)
    obtain ⟨shared, total⟩ := (global_count_run middle).mp globalRun
    have completed : count = rows.length := total.trans counted
    rw [← stored] at shared
    refine ⟨rowsAt 6, states, modules_of_stages runs shared, ?_⟩
    rw [same]
    apply join_state_stages_ok.mpr
    rw [stored, ← completed]
    exact ⟨thread_result global5 globalDone, thread_result preset4 presetDone,
      thread_result note3 noteDone, thread_result deck2 deckDone, thread_result card1 cardDone,
      thread_result producer0 fed, rfl⟩
  · right
    refine ⟨never, ?_⟩
    cases result with
    | error message => exact ⟨message, rfl⟩
    | ok value =>
        obtain ⟨completed, states⟩ := value
        obtain ⟨rfl, rfl, rfl, rfl, rfl, rfl, _⟩ := join_state_stages_ok.mp same.symm
        have bound : k ≤ 5 := inLine
        match k, bound with
        | 0, _ => cases thread_result done producer0
        | 1, _ => cases thread_result done card1
        | 2, _ => cases thread_result done deck2
        | 3, _ => cases thread_result done note3
        | 4, _ => cases thread_result done preset4
        | 5, _ => cases thread_result done global5

theorem state_build_succeeds {outs : List (StateBuildRow V)} {after : SrsStates V}
    (nonempty : rows ≠ [])
    (run : runTurns (modulesTurn (stateBuildForward weights)) (statesOf rnn) rows =
      .ok (outs, after)) : Succeeds (stateBuildPipeline weights config rnn rows) := by
  obtain ⟨middle, states, runs, shared, counted⟩ :=
    stages_of_modules stateBuildLabels.stages config.computeBatch run
  have some : middle ≠ [] := by
    intro none
    rw [none] at counted
    exact nonempty (List.length_eq_zero_iff.mp counted.symm)
  let rowsAt : Nat → List (StateBuildRow V) := fun k => if k = 0 then middle else outs
  apply stagewise_of_modules runs rowsAt rfl
  intro k inLine
  have first : k = 0 := Nat.lt_one_iff.mp inLine
  subst first
  exact ⟨_, (global_count_run some).mpr ⟨shared, rfl⟩⟩

theorem state_build_sound : (stateBuildExecutor weights config).Sound where
  touches covered := touches_state_build_step covered
  succeeded nonempty built reachable joined := by
    rcases states_joined_outcome nonempty reachable joined with
      ⟨outs, states, modules, same⟩ | ⟨_, _, same⟩
    · cases same
      refine ⟨outs, modules, ?_⟩
      have counted := run_turns_length modules
      exact congrArg Except.ok counted
    · cases same
  failed nonempty built reachable joined := by
    intro outs after output modules finished
    rcases states_joined_outcome nonempty reachable joined with ⟨_, _, _, same⟩ | ⟨never, _⟩
    · cases same
    · exact never (state_build_succeeds nonempty modules)
  returns finished := by
    obtain ⟨producer, producer0⟩ := done_of_receiver_gone (finished 0 (by omega : 0 ≤ 5))
    obtain ⟨card, card1⟩ := done_of_receiver_gone (finished 1 (by omega : 1 ≤ 5))
    obtain ⟨deck, deck2⟩ := done_of_receiver_gone (finished 2 (by omega : 2 ≤ 5))
    obtain ⟨note, note3⟩ := done_of_receiver_gone (finished 3 (by omega : 3 ≤ 5))
    obtain ⟨preset, preset4⟩ := done_of_receiver_gone (finished 4 (by omega : 4 ≤ 5))
    obtain ⟨global, global5⟩ := done_of_receiver_gone (finished 5 (by omega : 5 ≤ 5))
    exact ⟨_, producer, card, deck, note, preset, global, producer0, card1, deck2, note3, preset4,
      global5, rfl⟩
  total _ _ joins := nomatch joins

/-- Under every schedule a call returns, what it returns and leaves is what the reviews give one at
a time, and none of the threads' states is stuck while a thread has not returned. -/
structure SequentiallyEquivalent {Row Output : Type} (executor : Executor F V Row Output) :
    Prop where
  agrees : ∀ inputs before result after, executor.Call inputs before result after →
    executor.Agrees inputs before result after
  returns : ∀ inputs before, ∃ result after, executor.Call inputs before result after
  notStuck : ∀ (rnn : NativeRnn V) (rows : List Row) (σ : System (executor.pipeline rnn rows)),
    Reachable σ → (∃ k, k ≤ (executor.pipeline rnn rows).last ∧
      (σ.thread k).receiverGone = false) →
    ∃ k τ, k ≤ (executor.pipeline rnn rows).last ∧ advance k σ = some τ
  ends : ∀ (rnn : NativeRnn V) (rows : List Row) (σ τ : System (executor.pipeline rnn rows))
    (k : Nat), k ≤ (executor.pipeline rnn rows).last → advance k σ = some τ →
    remaining τ < remaining σ

theorem sound_sequentially_equivalent {Row Output : Type} {executor : Executor F V Row Output}
    (sound : executor.Sound) : SequentiallyEquivalent executor where
  agrees _ _ _ _ call := Executor.call_agrees sound call
  returns inputs before := Executor.call_returns sound inputs before
  notStuck rnn rows _ reachable unfinished := not_stuck (sound.total rnn rows) reachable unfinished
  ends _ _ _ _ _ inLine stepped := advance_decreases inLine stepped

theorem pipelines_sequentially_equivalent (weights : SrsWeights F V Curve) (config : PipelineConfig)
    (returnCurves : Bool) :
    SequentiallyEquivalent (predictionExecutor weights config returnCurves) ∧
      SequentiallyEquivalent (stateBuildExecutor weights config) :=
  ⟨sound_sequentially_equivalent prediction_sound, sound_sequentially_equivalent state_build_sound⟩

end RwkvSrs.PipelineStateBuilder
