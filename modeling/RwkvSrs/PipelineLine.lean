import RwkvSrs.PipelineStages

/-!
The five module stages of an executor as a line of threads, and the same five
modules passed row by row. The threads succeed exactly when the rows do one at a
time, with the same rows and the same states.
-/

namespace RwkvSrs.PipelineLine

open Std RwkvSrs.ResultSteps RwkvSrs.ModuleState RwkvSrs.NativeRnnState
open RwkvSrs.DeterministicState RwkvSrs.TurnRuns RwkvSrs.StagePipeline RwkvSrs.StagePipelineSafety
open RwkvSrs.StagePipelineProgress RwkvSrs.PipelineStages

set_option autoImplicit false

variable {V Row : Type}

inductive SrsModule where
  | keyed (entity : EntityModule)
  | global

/-- How one row of an executor passes each module. -/
structure ModuleForward (V Row : Type) where
  ids : Row → ReviewIds
  forward : SrsModule → RowForward V Row
  keepsIds : ∀ {module state row row' next}, forward module state row = .ok (row', next) →
    ids row' = ids row

def ModuleForward.key (line : ModuleForward V Row) (entity : EntityModule) (row : Row) : Int64 :=
  entity.key (line.ids row)

/-- The recurrent states of the modules in the order a row passes them. -/
abbrev SrsStates (V : Type) :=
  KeyedStates V × KeyedStates V × KeyedStates V × KeyedStates V × Option (NativeRnnModuleState V)

def statesOf (rnn : NativeRnn V) : SrsStates V :=
  (rnn.states .card, rnn.states .deck, rnn.states .note, rnn.states .preset, rnn.globalState)

def withStates (rnn : NativeRnn V) (states : SrsStates V) : NativeRnn V :=
  { rnn with
    states := fun
      | .card => states.1
      | .deck => states.2.1
      | .note => states.2.2.1
      | .preset => states.2.2.2.1
    globalState := states.2.2.2.2 }

def keyedModule (line : ModuleForward V Row) (entity : EntityModule) :
    Turn Row Row String (KeyedStates V) :=
  entityTurn (line.key entity) (line.forward (.keyed entity))

/-- One row through all modules. -/
def modulesTurn (line : ModuleForward V Row) : Turn Row Row String (SrsStates V) :=
  composeTurns (keyedModule line .card) (composeTurns (keyedModule line .deck)
    (composeTurns (keyedModule line .note) (composeTurns (keyedModule line .preset)
      (sharedTurn (line.forward .global)))))

def stageKeys (line : ModuleForward V Row) (rows : List Row) (entity : EntityModule) :
    List Int64 := rows.map (line.key entity)

def moduleStage (label : String) (line : ModuleForward V Row) (rnn : NativeRnn V)
    (rows : List Row) (batch : Nat) (entity : EntityModule) : Stage Row String :=
  keyedStage s!"{label} {entity.name}" (line.key entity) (line.forward (.keyed entity))
    (cloneStatesForKeys (rnn.states entity) (stageKeys line rows entity)) batch

/-- The keyed stages in thread order, followed by the threads of the executor's own. -/
def lineWorker (label : String) (line : ModuleForward V Row) (rnn : NativeRnn V)
    (rows : List Row) (batch : Nat) (tail : Nat → Stage Row String) : Nat → Stage Row String
  | 0 => moduleStage label line rnn rows batch .card
  | 1 => moduleStage label line rnn rows batch .deck
  | 2 => moduleStage label line rnn rows batch .note
  | 3 => moduleStage label line rnn rows batch .preset
  | k + 4 => tail k

structure PipelineStateOutput (V : Type) where
  cardStates : KeyedStates V
  deckStates : KeyedStates V
  noteStates : KeyedStates V
  presetStates : KeyedStates V
  globalState : Option (NativeRnnModuleState V)

/-- `map.extend(states)` for each keyed module, and the new global state. -/
def commitStates (rnn : NativeRnn V) (states : PipelineStateOutput V) : NativeRnn V :=
  { rnn with
    states := fun
      | .card => rnn.states .card ∪ states.cardStates
      | .deck => rnn.states .deck ∪ states.deckStates
      | .note => rnn.states .note ∪ states.noteStates
      | .preset => rnn.states .preset ∪ states.presetStates
    globalState := states.globalState }

variable {line : ModuleForward V Row}

theorem entity_turn_ids {entity : EntityModule} {states states' : KeyedStates V} {row row' : Row}
    (turned : keyedModule line entity states row = .ok (row', states')) :
    line.ids row' = line.ids row := by
  obtain ⟨state, _, turned⟩ := bind_ok.mp turned
  obtain ⟨⟨made, next⟩, forwarded, turned⟩ := bind_ok.mp turned
  obtain ⟨native, _, same⟩ := bind_ok.mp turned
  cases same
  exact line.keepsIds forwarded

theorem forall₂_ids {rows outs : List Row}
    (pairs : List.Forall₂ (fun row out => line.ids out = line.ids row) rows outs) :
    outs.map line.ids = rows.map line.ids := by
  induction pairs with
  | nil => rfl
  | cons same _ ih => simp [same, ih]

theorem entity_run_ids {entity : EntityModule} {states states' : KeyedStates V}
    {rows outs : List Row} (run : runTurns (keyedModule line entity) states rows =
      .ok (outs, states')) : outs.map line.ids = rows.map line.ids := by
  have each : ∀ (states : KeyedStates V) (row out : Row) (next : KeyedStates V),
      keyedModule line entity states row = .ok (out, next) → line.ids out = line.ids row :=
    fun _ _ _ _ turned => entity_turn_ids turned
  exact forall₂_ids (run_turns_pairs each run)

theorem within_keys {rows start : List Row} (ids : rows.map line.ids = start.map line.ids)
    (entity : EntityModule) : ∀ row ∈ rows, line.key entity row ∈ stageKeys line start entity := by
  intro row member
  have known : line.ids row ∈ start.map line.ids := by
    rw [← ids]
    exact List.mem_map_of_mem member
  obtain ⟨first, within, same⟩ := List.mem_map.mp known
  exact List.mem_map.mpr ⟨first, within, by rw [ModuleForward.key, ModuleForward.key, same]⟩

section KeyedStage

variable {rnn : NativeRnn V} {rows outs : List Row} {entity : EntityModule}

theorem module_stage_run {label : String} {start : List Row} {batch : Nat} {out : KeyedStates V}
    (ids : rows.map line.ids = start.map line.ids)
    (run : (moduleStage label line rnn start batch entity).run rows = .ok (outs, out)) :
    runTurns (keyedModule line entity) (rnn.states entity) rows =
        .ok (outs, rnn.states entity ∪ out) ∧
      outs.map line.ids = start.map line.ids := by
  have canonical := keyed_stage_run _ _ _ batch (within_keys ids entity) run
  exact ⟨canonical, (entity_run_ids canonical).trans ids⟩

theorem module_stage_of_entity (label : String) (start : List Row) (batch : Nat)
    {states : KeyedStates V} (ids : rows.map line.ids = start.map line.ids)
    (run : runTurns (keyedModule line entity) (rnn.states entity) rows = .ok (outs, states)) :
    (∃ out, (moduleStage label line rnn start batch entity).run rows = .ok (outs, out)) ∧
      outs.map line.ids = start.map line.ids :=
  ⟨keyed_stage_run_of_entity _ _ batch (within_keys ids entity) run,
    (entity_run_ids run).trans ids⟩

end KeyedStage

theorem producer_run (closed : String) (rows : List Row) :
    (producer closed).run rows = .ok (rows, ()) := by
  apply stage_run_ok.mpr
  refine ⟨(), ⟨(), rfl, ?_⟩, rfl⟩
  induction rows with
  | nil => rfl
  | cons row rows ih => exact run_turns_cons_ok.mpr ⟨row, (), rows, rfl, ih, rfl⟩

theorem producer_rows {closed : String} {rows outs : List Row} {output : Unit}
    (run : (producer closed).run rows = .ok (outs, output)) : outs = rows := by
  rw [producer_run] at run
  cases run
  rfl

variable {label : String} {rnn : NativeRnn V} {rows : List Row} {batch : Nat}

/-- The rows that reach the global module and the keyed states the stages return. -/
structure KeyedRuns (label : String) (line : ModuleForward V Row) (rnn : NativeRnn V)
    (rows : List Row) (batch : Nat) (middle : List Row) (states : PipelineStateOutput V) : Prop where
  stages : ∃ carded decked noted,
    (moduleStage label line rnn rows batch .card).run rows = .ok (carded, states.cardStates) ∧
    (moduleStage label line rnn rows batch .deck).run carded = .ok (decked, states.deckStates) ∧
    (moduleStage label line rnn rows batch .note).run decked = .ok (noted, states.noteStates) ∧
    (moduleStage label line rnn rows batch .preset).run noted = .ok (middle, states.presetStates)

theorem keyed_runs_length {middle : List Row} {states : PipelineStateOutput V}
    (runs : KeyedRuns label line rnn rows batch middle states) : middle.length = rows.length := by
  obtain ⟨carded, decked, noted, card, deck, note, preset⟩ := runs.stages
  have cardIds := (module_stage_run rfl card).2
  have deckIds := (module_stage_run cardIds deck).2
  have noteIds := (module_stage_run deckIds note).2
  have presetIds := (module_stage_run noteIds preset).2
  simpa using congrArg List.length presetIds

theorem modules_of_stages {middle outs : List Row} {states : PipelineStateOutput V}
    (runs : KeyedRuns label line rnn rows batch middle states)
    (shared : runTurns (sharedTurn (line.forward .global)) rnn.globalState middle =
      .ok (outs, states.globalState)) :
    runTurns (modulesTurn line) (statesOf rnn) rows =
      .ok (outs, statesOf (commitStates rnn states)) := by
  obtain ⟨carded, decked, noted, card, deck, note, preset⟩ := runs.stages
  obtain ⟨cardRun, cardIds⟩ := module_stage_run rfl card
  obtain ⟨deckRun, deckIds⟩ := module_stage_run cardIds deck
  obtain ⟨noteRun, noteIds⟩ := module_stage_run deckIds note
  obtain ⟨presetRun, _⟩ := module_stage_run noteIds preset
  apply run_compose_turns.mpr
  refine ⟨carded, cardRun, run_compose_turns.mpr ⟨decked, deckRun, run_compose_turns.mpr
    ⟨noted, noteRun, run_compose_turns.mpr ⟨middle, presetRun, shared⟩⟩⟩⟩

theorem stages_of_modules (label : String) (batch : Nat) {outs : List Row} {after : SrsStates V}
    (run : runTurns (modulesTurn line) (statesOf rnn) rows = .ok (outs, after)) :
    ∃ middle states, KeyedRuns label line rnn rows batch middle states ∧
      runTurns (sharedTurn (line.forward .global)) rnn.globalState middle =
        .ok (outs, after.2.2.2.2) ∧ middle.length = rows.length := by
  obtain ⟨carded, cardRun, run⟩ := run_compose_turns.mp run
  obtain ⟨decked, deckRun, run⟩ := run_compose_turns.mp run
  obtain ⟨noted, noteRun, run⟩ := run_compose_turns.mp run
  obtain ⟨middle, presetRun, shared⟩ := run_compose_turns.mp run
  obtain ⟨⟨cardOut, card⟩, cardIds⟩ :=
    module_stage_of_entity label rows batch rfl cardRun
  obtain ⟨⟨deckOut, deck⟩, deckIds⟩ :=
    module_stage_of_entity label rows batch cardIds deckRun
  obtain ⟨⟨noteOut, note⟩, noteIds⟩ :=
    module_stage_of_entity label rows batch deckIds noteRun
  obtain ⟨⟨presetOut, preset⟩, presetIds⟩ :=
    module_stage_of_entity label rows batch noteIds presetRun
  refine ⟨middle, ⟨cardOut, deckOut, noteOut, presetOut, after.2.2.2.2⟩,
    ⟨⟨carded, decked, noted, card, deck, note, preset⟩⟩, shared, ?_⟩
  have lengths := congrArg List.length presetIds
  simpa using lengths

structure PipelineConfig where
  capacity : Nat
  computeBatch : Nat
  capacity_pos : 0 < capacity

/-- The threads after the keyed stages. -/
structure LineTail (Row : Type) where
  stage : Nat → Stage Row String
  length : Nat
  joins : Bool

/-- How the threads of an executor name themselves. -/
structure LineLabels where
  stages : String
  producerClosed : String

def linePipeline (labels : LineLabels) (config : PipelineConfig) (line : ModuleForward V Row)
    (rnn : NativeRnn V) (rows : List Row) (tail : LineTail Row) : Pipeline Row String where
  input := rows
  producerClosed := labels.producerClosed
  worker := lineWorker labels.stages line rnn rows config.computeBatch tail.stage
  last := 4 + tail.length
  last_pos := by omega
  capacity := config.capacity
  capacity_pos := config.capacity_pos
  joins := tail.joins

section Line

variable {labels : LineLabels} {config : PipelineConfig} {tail : LineTail Row}

theorem stagewise_of_modules {middle : List Row} {states : PipelineStateOutput V}
    (runs : KeyedRuns labels.stages line rnn rows config.computeBatch middle states)
    (rowsAt : Nat → List Row) (first : rowsAt 0 = middle)
    (later : ∀ k, k < tail.length → ∃ output, (tail.stage k).run (rowsAt k) =
      .ok (rowsAt (k + 1), output)) :
    Succeeds (linePipeline labels config line rnn rows tail) := by
  obtain ⟨carded, decked, noted, card, deck, note, preset⟩ := runs.stages
  let rowsOf : Nat → List Row := fun
    | 0 => rows
    | 1 => rows
    | 2 => carded
    | 3 => decked
    | 4 => noted
    | k + 5 => rowsAt k
  refine ⟨rowsOf, rfl, ?_⟩
  intro k inLine
  match k, inLine with
  | 0, _ => exact ⟨(), producer_run _ rows⟩
  | 1, _ => exact ⟨_, card⟩
  | 2, _ => exact ⟨_, deck⟩
  | 3, _ => exact ⟨_, note⟩
  | 4, _ =>
      rw [← first] at preset
      exact ⟨_, preset⟩
  | k + 5, inLine =>
      apply later k
      have bound : k + 5 ≤ 4 + tail.length := inLine
      omega

theorem thread_result {stage : Stage Row String} {thread : Thread stage}
    {one other : Except String stage.Output} (first : thread = .done one)
    (second : thread = .done other) : one = other := by
  rw [first] at second
  cases second
  rfl

/-- What the keyed threads of a line that succeeded have returned. -/
theorem keyed_threads {σ : System (linePipeline labels config line rnn rows tail)}
    {rowsAt : Nat → List Row} (input : rowsAt 0 = rows)
    (each : ∀ k, k ≤ 4 + tail.length → ∃ output, σ.thread k = .done (.ok output) ∧
      ((linePipeline labels config line rnn rows tail).stage k).run (rowsAt k) =
        .ok (rowsAt (k + 1), output)) (globalState : Option (NativeRnnModuleState V)) :
    ∃ states : PipelineStateOutput V, states.globalState = globalState ∧
      σ.thread 0 = .done (.ok ()) ∧
      σ.thread 1 = .done (.ok states.cardStates) ∧ σ.thread 2 = .done (.ok states.deckStates) ∧
      σ.thread 3 = .done (.ok states.noteStates) ∧ σ.thread 4 = .done (.ok states.presetStates) ∧
      KeyedRuns labels.stages line rnn rows config.computeBatch (rowsAt 5) states := by
  obtain ⟨_, fed, feeding⟩ := each 0 (by omega)
  obtain ⟨cardStates, cardDone, card⟩ := each 1 (by omega)
  obtain ⟨deckStates, deckDone, deck⟩ := each 2 (by omega)
  obtain ⟨noteStates, noteDone, note⟩ := each 3 (by omega)
  obtain ⟨presetStates, presetDone, preset⟩ := each 4 (by omega)
  have passed : rowsAt 1 = rows := (producer_rows feeding).trans input
  rw [passed] at card
  exact ⟨⟨cardStates, deckStates, noteStates, presetStates, globalState⟩, rfl, fed, cardDone,
    deckDone, noteDone, presetDone, ⟨⟨rowsAt 2, rowsAt 3, rowsAt 4, card, deck, note, preset⟩⟩⟩

end Line

end RwkvSrs.PipelineLine
