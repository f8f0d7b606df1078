import RwkvSrs.DeterministicTouch
import RwkvSrs.PipelineLine

/-!
An executor call around a line of stages: the deterministic features of every
review are computed first under a journal, the rows run through the threads on
copies of the recurrent states, and the copies are laid over the maps once
everything has succeeded. A call that fails restores the journal. The call is
compared with the reviews passing one at a time through the features and the
five modules.
-/

namespace RwkvSrs.PipelineExecutor

open RwkvSrs.ResultSteps RwkvSrs.FallibleMethod RwkvSrs.FeatureScaling RwkvSrs.ReviewInput
open RwkvSrs.DeterministicState RwkvSrs.DeterministicUndo RwkvSrs.DeterministicTouch
open RwkvSrs.ModuleState RwkvSrs.NativeRnnState RwkvSrs.TurnRuns RwkvSrs.StagePipeline
open RwkvSrs.StagePipelineSafety RwkvSrs.StagePipelineProgress RwkvSrs.PipelineStages
open RwkvSrs.PipelineLine

set_option autoImplicit false
set_option linter.unusedSectionVars false

variable {F V : Type} [Float64Ops F] [Float32Ops V] [FeatureFloat F V]

section Turns

variable {Item Value State Out Next : Type}

/-- The values of a loop that pushes one result for every item. -/
def collect (step : Item → Method State Value) : List Item → Method State (List Value)
  | [] => pure []
  | item :: items => do
      let value ← step item
      let values ← collect step items
      return value :: values

def methodTurn (step : Item → Method State Value) : Turn Item Value Failure State :=
  fun state item =>
    match step item state with
    | (.ok value, next) => .ok (value, next)
    | (.error failure, _) => .error failure

def raised (turn : Turn Item Out String Next) : Turn Item Out Failure Next :=
  fun state item => (turn state item).mapError .error

theorem method_turn_ok {step : Item → Method State Value} {state next : State} {item : Item}
    {value : Value} : methodTurn step state item = .ok (value, next) ↔
      step item state = (.ok value, next) := by
  unfold methodTurn
  split
  · rename_i found
    simp [found]
  · rename_i found
    simp [found]

theorem collect_turns {step : Item → Method State Value} {items : List Item} {state last : State}
    {values : List Value} : collect step items state = (.ok values, last) ↔
      runTurns (methodTurn step) state items = .ok (values, last) := by
  induction items generalizing state values with
  | nil =>
      simp only [collect, pure_apply, runTurns, Except.ok.injEq, Prod.mk.injEq]
  | cons item items ih =>
      rw [run_turns_cons_ok]
      constructor
      · intro run
        obtain ⟨value, middle, first, run⟩ := bind_ok_steps run
        obtain ⟨rest, final, later, run⟩ := bind_ok_steps run
        cases run
        exact ⟨value, middle, rest, method_turn_ok.mpr first, ih.mp later, rfl⟩
      · rintro ⟨value, middle, rest, first, later, rfl⟩
        rw [collect, bind_of_ok (method_turn_ok.mp first), bind_of_ok (ih.mpr later)]
        rfl

theorem raised_ok {turn : Turn Item Out String Next} {state next : Next} {item : Item} {out : Out} :
    raised turn state item = .ok (out, next) ↔ turn state item = .ok (out, next) := by
  unfold raised
  cases turn state item with
  | ok result => simp [Except.mapError]
  | error message => simp [Except.mapError]

theorem run_raised {turn : Turn Item Out String Next} {items : List Item} {state last : Next}
    {outs : List Out} : runTurns (raised turn) state items = .ok (outs, last) ↔
      runTurns turn state items = .ok (outs, last) := by
  induction items generalizing state outs with
  | nil => simp [runTurns]
  | cons item items ih => simp only [run_turns_cons_ok, raised_ok, ih]

theorem keeps_collect {Kept : State → State → Prop} (same : ∀ state, Kept state state)
    (chain : ∀ first middle last, Kept first middle → Kept middle last → Kept first last)
    {step : Item → Method State Value} {items : List Item}
    (each : ∀ item ∈ items, Keeps Kept (step item)) : Keeps Kept (collect step items) := by
  induction items with
  | nil => exact keeps_pure same []
  | cons item items ih =>
      apply keeps_bind chain (each item (by simp))
      intro value
      apply keeps_bind chain (ih fun item member => each item (List.mem_cons_of_mem _ member))
      intro values
      exact keeps_pure same _

/-- Numbering a turn's rows as `enumerate` does. -/
def numbered (build : Nat → Item → Except String Out) : Turn Item Out String Nat :=
  fun index item => do
    let out ← build index item
    return (out, index + 1)

def buildRows (build : Nat → Item → Except String Out) (items : List Item) (start : Nat) :
    Except String (List Out) :=
  (items.zipIdx start).mapM fun (item, index) => build index item

theorem build_rows_turns {build : Nat → Item → Except String Out} {items : List Item} {start : Nat}
    {outs : List Out} : buildRows build items start = .ok outs ↔
      runTurns (numbered build) start items = .ok (outs, start + items.length) := by
  induction items generalizing start outs with
  | nil =>
      unfold buildRows
      simp [runTurns, List.mapM_nil, pure, Except.pure]
  | cons item items ih =>
      rw [run_turns_cons_ok]
      have next : start + (item :: items).length = start + 1 + items.length := by
        rw [List.length_cons]
        omega
      rw [next]
      unfold buildRows
      rw [List.zipIdx_cons, List.mapM_cons]
      constructor
      · intro run
        obtain ⟨out, built, run⟩ := bind_ok.mp run
        obtain ⟨rest, later, same⟩ := bind_ok.mp run
        cases same
        refine ⟨out, start + 1, rest, ?_, ih.mp later, rfl⟩
        rw [numbered]
        exact bind_ok.mpr ⟨out, built, rfl⟩
      · rintro ⟨out, index, rest, turned, later, rfl⟩
        obtain ⟨made, built, same⟩ := bind_ok.mp turned
        cases same
        exact bind_ok.mpr ⟨out, built, bind_ok.mpr ⟨rest, ih.mpr later, rfl⟩⟩

theorem numbered_last {build : Nat → Item → Except String Out} {items : List Item}
    {start last : Nat} {outs : List Out}
    (run : runTurns (numbered build) start items = .ok (outs, last)) :
    last = start + items.length := by
  induction items generalizing start outs with
  | nil =>
      cases run
      rfl
  | cons item items ih =>
      obtain ⟨out, next, rest, turned, later, rfl⟩ := run_turns_cons_ok.mp run
      obtain ⟨made, _, same⟩ := bind_ok.mp turned
      cases same
      rw [ih later, List.length_cons]
      omega

end Turns

/-- What distinguishes the executors: the features of a review, the row made of them, the
modules, the threads, what the call reads off the joined threads, and its result for rows that
have passed the modules. -/
structure Executor (F V Row Output : Type) [Float64Ops F] [Float32Ops V] [FeatureFloat F V] where
  Step : Type
  featureStep : ReviewInput F → Method (FeatureState F V) Step
  buildRow : Nat → Step → Except String Row
  line : ModuleForward V Row
  pipeline : NativeRnn V → List Row → Pipeline Row String
  /-- What the call makes of the results of the threads, once all have returned. -/
  joined : (rnn : NativeRnn V) → (rows : List Row) → System (pipeline rnn rows) →
    Except String (Output × PipelineStateOutput V) → Prop
  finish : List Row → Except String Output
  noRows : Output

variable {Row Output : Type}

namespace Executor

abbrev Runtime (F V : Type) := FeatureState F V × NativeRnn V

/-- One call under some schedule of the threads: the runtime before it, its result and the
runtime it leaves. -/
inductive Call (executor : Executor F V Row Output) (inputs : List (ReviewInput F)) :
    Runtime F V → Except Failure Output → Runtime F V → Prop
  | noReviews {runtime : Runtime F V} (empty : inputs = []) :
      Call executor inputs runtime (.ok executor.noRows) runtime
  | unmaterialized {deterministic : FeatureState F V} {rnn rnn' : NativeRnn V} {failure : Failure}
      (nonempty : inputs ≠ []) (materialized : materializeFlatCpuState rnn = (.error failure, rnn')) :
      Call executor inputs (deterministic, rnn) (.error failure) (deterministic, rnn')
  | featuresFailed {deterministic reached : FeatureState F V} {rnn rnn' : NativeRnn V}
      {failure : Failure} (nonempty : inputs ≠ [])
      (materialized : materializeFlatCpuState rnn = (.ok (), rnn'))
      (steps : collect executor.featureStep inputs deterministic = (.error failure, reached)) :
      Call executor inputs (deterministic, rnn) (.error failure)
        ((BatchDeterministicUndoFrame.capture deterministic
          (inputs.map normalizedReviewIds)).restore reached, rnn')
  | rowFailed {deterministic reached : FeatureState F V} {rnn rnn' : NativeRnn V}
      {steps : List executor.Step} {step : executor.Step} {index : Nat} {message : String}
      (nonempty : inputs ≠ []) (materialized : materializeFlatCpuState rnn = (.ok (), rnn'))
      (stepped : collect executor.featureStep inputs deterministic = (.ok steps, reached))
      (member : (step, index) ∈ steps.zipIdx)
      (failed : executor.buildRow index step = .error message) :
      Call executor inputs (deterministic, rnn) (.error (.error message))
        ((BatchDeterministicUndoFrame.capture deterministic
          (inputs.map normalizedReviewIds)).restore reached, rnn')
  | pipelineFailed {deterministic reached : FeatureState F V} {rnn rnn' : NativeRnn V}
      {steps : List executor.Step} {rows : List Row}
      {σ : System (executor.pipeline rnn' rows)} {message : String}
      (nonempty : inputs ≠ []) (materialized : materializeFlatCpuState rnn = (.ok (), rnn'))
      (stepped : collect executor.featureStep inputs deterministic = (.ok steps, reached))
      (built : buildRows executor.buildRow steps 0 = .ok rows) (scheduled : Reachable σ)
      (joined : executor.joined rnn' rows σ (.error message)) :
      Call executor inputs (deterministic, rnn) (.error (.error message))
        ((BatchDeterministicUndoFrame.capture deterministic
          (inputs.map normalizedReviewIds)).restore reached, rnn')
  | committed {deterministic reached : FeatureState F V} {rnn rnn' : NativeRnn V}
      {steps : List executor.Step} {rows : List Row}
      {σ : System (executor.pipeline rnn' rows)} {output : Output} {states : PipelineStateOutput V}
      (nonempty : inputs ≠ []) (materialized : materializeFlatCpuState rnn = (.ok (), rnn'))
      (stepped : collect executor.featureStep inputs deterministic = (.ok steps, reached))
      (built : buildRows executor.buildRow steps 0 = .ok rows) (scheduled : Reachable σ)
      (joined : executor.joined rnn' rows σ (.ok (output, states))) :
      Call executor inputs (deterministic, rnn) (.ok output) (reached, commitStates rnn' states)

/-- One review through its features, its row and the five modules. -/
def reviewTurn (executor : Executor F V Row Output) :
    Turn (ReviewInput F) Row Failure (FeatureState F V × Nat × SrsStates V) :=
  composeTurns (methodTurn executor.featureStep)
    (composeTurns (raised (numbered executor.buildRow)) (raised (modulesTurn executor.line)))

def sequentialProcess (executor : Executor F V Row Output) (inputs : List (ReviewInput F))
    (runtime : Runtime F V) : Except Failure (Output × Runtime F V) :=
  if inputs = [] then .ok (executor.noRows, runtime)
  else
    match materializeFlatCpuState runtime.2 with
    | (.error failure, _) => .error failure
    | (.ok (), rnn) => do
        let (rows, deterministic, _, states) ←
          runTurns executor.reviewTurn (runtime.1, 0, statesOf rnn) inputs
        let output ← (executor.finish rows).mapError .error
        return (output, deterministic, withStates rnn states)

/-- What the threads must be shown to do for the rows of some reviews. -/
structure Sound (executor : Executor F V Row Output) : Prop where
  touches : ∀ {identities : BatchIdentitySets} {input : ReviewInput F},
    Covered identities (normalizedReviewIds input) → Touches identities (executor.featureStep input)
  succeeded : ∀ {rnn : NativeRnn V} {steps : List executor.Step} {rows : List Row}
    {σ : System (executor.pipeline rnn rows)} {output : Output} {states : PipelineStateOutput V},
    rows ≠ [] → buildRows executor.buildRow steps 0 = .ok rows → Reachable σ →
    executor.joined rnn rows σ (.ok (output, states)) →
    ∃ outs, runTurns (modulesTurn executor.line) (statesOf rnn) rows =
        .ok (outs, statesOf (commitStates rnn states)) ∧ executor.finish outs = .ok output
  failed : ∀ {rnn : NativeRnn V} {steps : List executor.Step} {rows : List Row}
    {σ : System (executor.pipeline rnn rows)} {message : String},
    rows ≠ [] → buildRows executor.buildRow steps 0 = .ok rows → Reachable σ →
    executor.joined rnn rows σ (.error message) →
    ∀ outs after output, runTurns (modulesTurn executor.line) (statesOf rnn) rows =
      .ok (outs, after) → executor.finish outs ≠ .ok output
  returns : ∀ {rnn : NativeRnn V} {rows : List Row} {σ : System (executor.pipeline rnn rows)},
    (∀ k, k ≤ (executor.pipeline rnn rows).last → (σ.thread k).receiverGone = true) →
    ∃ result, executor.joined rnn rows σ result
  total : ∀ (rnn : NativeRnn V) (rows : List Row), (executor.pipeline rnn rows).joins = true →
    Total ((executor.pipeline rnn rows).stage (executor.pipeline rnn rows).last)

variable {executor : Executor F V Row Output} {inputs : List (ReviewInput F)}

theorem with_states_of_commit (rnn : NativeRnn V) (states : PipelineStateOutput V) :
    withStates rnn (statesOf (commitStates rnn states)) = commitStates rnn states := by
  simp only [withStates, statesOf, commitStates]

theorem review_turns_ok {deterministic last : FeatureState F V} {states after : SrsStates V}
    {count : Nat} {outs : List Row} :
    runTurns executor.reviewTurn (deterministic, 0, states) inputs =
        .ok (outs, last, count, after) ↔
      ∃ steps rows, collect executor.featureStep inputs deterministic = (.ok steps, last) ∧
        buildRows executor.buildRow steps 0 = .ok rows ∧ count = steps.length ∧
        runTurns (modulesTurn executor.line) states rows = .ok (outs, after) := by
  rw [reviewTurn, run_compose_turns]
  constructor
  · rintro ⟨steps, stepped, run⟩
    obtain ⟨rows, built, modules⟩ := run_compose_turns.mp run
    have built := run_raised.mp built
    have counted := numbered_last built
    refine ⟨steps, rows, collect_turns.mpr stepped, ?_, by simpa using counted,
      run_raised.mp modules⟩
    apply build_rows_turns.mpr
    rw [built, counted]
  · rintro ⟨steps, rows, stepped, built, rfl, modules⟩
    refine ⟨steps, collect_turns.mp stepped, run_compose_turns.mpr ⟨rows, ?_, run_raised.mpr modules⟩⟩
    apply run_raised.mpr
    simpa using build_rows_turns.mp built

theorem sequential_ok {runtime : Runtime F V} {output : Output} {after : Runtime F V}
    (nonempty : inputs ≠ []) :
    executor.sequentialProcess inputs runtime = .ok (output, after) ↔
      ∃ rnn steps rows outs states, materializeFlatCpuState runtime.2 = (.ok (), rnn) ∧
        collect executor.featureStep inputs runtime.1 = (.ok steps, after.1) ∧
        buildRows executor.buildRow steps 0 = .ok rows ∧
        runTurns (modulesTurn executor.line) (statesOf rnn) rows = .ok (outs, states) ∧
        executor.finish outs = .ok output ∧ after.2 = withStates rnn states := by
  rw [sequentialProcess, if_neg nonempty]
  constructor
  · intro run
    split at run
    · cases run
    · rename_i rnn materialized
      obtain ⟨⟨outs, last, count, states⟩, turned, run⟩ := bind_ok.mp run
      obtain ⟨made, finished, same⟩ := bind_ok.mp run
      cases same
      obtain ⟨steps, rows, stepped, built, _, modules⟩ := review_turns_ok.mp turned
      refine ⟨rnn, steps, rows, outs, states, materialized, stepped, built, modules, ?_, rfl⟩
      cases result : executor.finish outs with
      | ok value =>
          rw [result] at finished
          cases finished
          rfl
      | error message =>
          rw [result] at finished
          cases finished
  · rintro ⟨rnn, steps, rows, outs, states, materialized, stepped, built, modules, finished, same⟩
    rw [materialized]
    have turned : runTurns executor.reviewTurn (runtime.1, 0, statesOf rnn) inputs =
        .ok (outs, after.1, steps.length, states) :=
      review_turns_ok.mpr ⟨steps, rows, stepped, built, rfl, modules⟩
    exact bind_ok.mpr ⟨_, turned, bind_ok.mpr ⟨output, by rw [finished]; rfl, by rw [← same]; rfl⟩⟩

theorem covers_inputs {input : ReviewInput F} (member : input ∈ inputs) :
    Covered (BatchIdentitySets.fromIds (inputs.map normalizedReviewIds))
      (normalizedReviewIds input) :=
  from_ids_covers (List.mem_map_of_mem member)

theorem features_restored (sound : executor.Sound) (inputs : List (ReviewInput F))
    (deterministic : FeatureState F V) :
    (BatchDeterministicUndoFrame.capture deterministic (inputs.map normalizedReviewIds)).restore
      (collect executor.featureStep inputs deterministic).2 = deterministic := by
  apply journal_restores
  apply keeps_collect AgreeOutside.refl (fun _ _ _ => AgreeOutside.trans)
  intro input member
  exact sound.touches (covers_inputs member)

theorem rows_nonempty {deterministic reached : FeatureState F V} {steps : List executor.Step}
    {rows : List Row} (nonempty : inputs ≠ [])
    (stepped : collect executor.featureStep inputs deterministic = (.ok steps, reached))
    (built : buildRows executor.buildRow steps 0 = .ok rows) : rows ≠ [] := by
  have counted := run_turns_length (collect_turns.mp stepped)
  have same := run_turns_length (build_rows_turns.mp built)
  intro empty
  rw [empty, counted] at same
  exact nonempty (List.length_eq_zero_iff.mp same.symm)

theorem sequential_error {runtime : Runtime F V}
    (never : ∀ output after, executor.sequentialProcess inputs runtime ≠ .ok (output, after)) :
    ∃ failure, executor.sequentialProcess inputs runtime = .error failure := by
  cases result : executor.sequentialProcess inputs runtime with
  | error failure => exact ⟨failure, rfl⟩
  | ok value => exact absurd result (never value.1 value.2)

/-- What a call must leave behind, by its result. -/
def Agrees (executor : Executor F V Row Output) (inputs : List (ReviewInput F))
    (before : Runtime F V) (result : Except Failure Output) (after : Runtime F V) : Prop :=
  match result with
  | .ok output => executor.sequentialProcess inputs before = .ok (output, after)
  | .error _ =>
      (∃ failure, executor.sequentialProcess inputs before = .error failure) ∧
        after.1 = before.1 ∧ SameLatest before.2 after.2 ∧
        after.2 = (materializeFlatCpuState before.2).2

theorem agrees_of_failure {deterministic reached : FeatureState F V} {rnn rnn' : NativeRnn V}
    {materialized : Except Failure Unit} (failure : Failure)
    (flat : materializeFlatCpuState rnn = (materialized, rnn')) (restored : reached = deterministic)
    (never : ∀ output after,
      executor.sequentialProcess inputs (deterministic, rnn) ≠ .ok (output, after)) :
    executor.Agrees inputs (deterministic, rnn) (.error failure) (reached, rnn') := by
  refine ⟨sequential_error never, restored, ?_, ?_⟩
  · have latest := materialize_latest rnn
    rw [flat] at latest
    exact latest
  · rw [flat]

theorem call_agrees (sound : executor.Sound) {before after : Runtime F V}
    {result : Except Failure Output} (call : executor.Call inputs before result after) :
    executor.Agrees inputs before result after := by
  cases call with
  | noReviews empty =>
      rw [Agrees, sequentialProcess, if_pos empty]
  | unmaterialized nonempty materialized =>
      apply agrees_of_failure _ materialized rfl
      intro output after run
      obtain ⟨_, _, _, _, _, flat, _⟩ := (sequential_ok nonempty).mp run
      rw [materialized] at flat
      cases flat
  | @featuresFailed deterministic reached rnn rnn' failure nonempty materialized steps =>
      have restored := features_restored sound inputs deterministic
      rw [steps] at restored
      apply agrees_of_failure _ materialized restored
      intro output after run
      obtain ⟨_, _, _, _, _, _, stepped, _⟩ := (sequential_ok nonempty).mp run
      rw [steps] at stepped
      cases stepped
  | @rowFailed deterministic reached rnn rnn' steps step index message nonempty materialized stepped
      member failed =>
      have restored := features_restored sound inputs deterministic
      rw [stepped] at restored
      apply agrees_of_failure _ materialized restored
      intro output after run
      obtain ⟨_, steps', rows, _, _, _, stepped', built, _⟩ := (sequential_ok nonempty).mp run
      rw [stepped] at stepped'
      cases stepped'
      obtain ⟨row, _, made⟩ := mapM_member_ok built member
      exact absurd (failed.symm.trans made) (by simp)
  | @pipelineFailed deterministic reached rnn rnn' steps rows σ message nonempty materialized stepped
      built scheduled joined =>
      have restored := features_restored sound inputs deterministic
      rw [stepped] at restored
      apply agrees_of_failure _ materialized restored
      intro output after run
      obtain ⟨_, steps', rows', outs, states, flat, stepped', built', modules, finished, _⟩ :=
        (sequential_ok nonempty).mp run
      rw [materialized] at flat
      cases flat
      rw [stepped] at stepped'
      cases stepped'
      rw [built] at built'
      cases built'
      exact sound.failed (rows_nonempty nonempty stepped built) built scheduled joined outs states output modules finished
  | @committed deterministic reached rnn rnn' steps rows σ output states nonempty materialized stepped
      built scheduled joined =>
      obtain ⟨outs, modules, finished⟩ := sound.succeeded (rows_nonempty nonempty stepped built) built scheduled joined
      apply (sequential_ok nonempty).mpr
      exact ⟨rnn', steps, rows, outs, _, materialized, stepped, built, modules, finished,
        (with_states_of_commit rnn' states).symm⟩

/-- The threads of a line always have a step left until all have returned, and every step leaves
less to do. -/
theorem line_finishes (sound : executor.Sound) {rnn : NativeRnn V} {rows : List Row}
    {σ : System (executor.pipeline rnn rows)} (reachable : Reachable σ) :
    ∃ τ : System (executor.pipeline rnn rows), Reachable τ ∧
      ∀ k, k ≤ (executor.pipeline rnn rows).last → (τ.thread k).receiverGone = true := by
  generalize left : remaining σ = count
  induction count using Nat.strong_induction_on generalizing σ with
  | _ count ih =>
      by_cases unfinished : ∃ k, k ≤ (executor.pipeline rnn rows).last ∧
          (σ.thread k).receiverGone = false
      · obtain ⟨k, τ, inLine, stepped⟩ := not_stuck (sound.total rnn rows) reachable unfinished
        have less := advance_decreases inLine stepped
        exact ih (remaining τ) (by omega) (reachable.step inLine stepped) rfl
      · refine ⟨σ, reachable, ?_⟩
        intro k inLine
        by_contra alive
        exact unfinished ⟨k, inLine, by simpa using alive⟩

theorem call_returns (sound : executor.Sound) (inputs : List (ReviewInput F))
    (before : Runtime F V) : ∃ result after, executor.Call inputs before result after := by
  obtain ⟨deterministic, rnn⟩ := before
  by_cases empty : inputs = []
  · exact ⟨_, _, .noReviews empty⟩
  match materialized : materializeFlatCpuState rnn with
  | (.error failure, rnn') => exact ⟨_, _, .unmaterialized empty materialized⟩
  | (.ok (), rnn') =>
      match stepped : collect executor.featureStep inputs deterministic with
      | (.error failure, reached) => exact ⟨_, _, .featuresFailed empty materialized stepped⟩
      | (.ok steps, reached) =>
          cases built : buildRows executor.buildRow steps 0 with
          | error message =>
              obtain ⟨⟨step, index⟩, member, failed⟩ := mapM_error_mem built
              exact ⟨_, _, .rowFailed empty materialized stepped member failed⟩
          | ok rows =>
              have started : Reachable (initialSystem (executor.pipeline rnn' rows)) := .initial
              obtain ⟨σ, reachable, finished⟩ := line_finishes sound started
              obtain ⟨result, joined⟩ := sound.returns finished
              cases result with
              | error message =>
                  exact ⟨_, _, .pipelineFailed empty materialized stepped built reachable joined⟩
              | ok made =>
                  exact ⟨_, _, .committed empty materialized stepped built reachable joined⟩

end Executor

end RwkvSrs.PipelineExecutor
