import RwkvSrs.CalmMethods
import RwkvSrs.HistoryStates
import RwkvSrs.NativeCalls

/-!
Processing never panics on a state whose generator was seeded. The generator
always has a word left to draw, the forward returns the curves it is asked for,
and its five states are stored as five states.
-/

namespace RwkvSrs.CalmProcessing

open Std FallibleMethod FeatureScaling ReviewInput DeterministicState DeterministicUndo ModuleState
open DirectFeatures
open NativeRnnState BatchJournal ReviewProcessing UndoableProcess ReviewUndo GeneratorStates TorchRng
open HistoryStates CalmMethods PredictionPurity

set_option autoImplicit false
set_option linter.unusedSectionVars false

variable {F V Logits Rows Value : Type} [Float64Ops F] [Float32Ops V] [ExactFeatureFloat F V]

def SeededFeatures (state : FeatureState F V) : Prop := Seeded state.idRng

def SeededModel (state : ModelState F V) : Prop := SeededFeatures state.1

theorem calm_draw (dim : Nat) :
    Calm SeededFeatures anything (drawEncoding dim : Method (FeatureState F V) (List V)) := by
  have drawn : ∀ rng, Seeded rng → ∃ (values : List V) (reached : TorchMt19937),
      TorchRng.idEncoding dim rng = (.ok values, reached) ∧ Seeded reached := by
    intro rng seeded
    obtain ⟨values, reached, run, _, keeps⟩ :=
      @id_encoding_kept V _ Seeded seeded_draws dim rng seeded
    exact ⟨values, reached, run, keeps⟩
  have encoding : Calm Seeded anything
      (TorchRng.idEncoding dim : Method TorchMt19937 (List V)) := by
    apply Calm.mk
    · intro rng message seeded panicked
      obtain ⟨values, reached, run, _⟩ := drawn rng seeded
      rw [run] at panicked
      cases panicked
    · intro rng seeded
      obtain ⟨values, reached, run, keeps⟩ := drawn rng seeded
      rw [run]
      exact keeps
    · intro rng found _ _
      trivial
  apply calm_on_part encoding
  · intro state seeded
    exact seeded
  · intro state reached _ seeded
    exact seeded

theorem calm_encoding (submodule : IdSubmodule) (id : Int64) (mutateIdEncodings : Bool) :
    Calm SeededFeatures anything
      (encodingOf submodule id mutateIdEncodings : Method (FeatureState F V) (List V)) := by
  apply calm_bind calm_current
  intro state _
  cases (state.idEncodings submodule)[id]? with
  | some encoding => exact calm_return encoding
  | none =>
      apply calm_then (calm_draw _)
      intro encoding
      cases mutateIdEncodings with
      | false => exact calm_return encoding
      | true =>
          have stored : Calm SeededFeatures anything
              (update (insertEncoding submodule id encoding) : Method (FeatureState F V) Unit) := by
            apply calm_update
            intro state seeded
            exact seeded
          apply calm_then stored
          intro _
          exact calm_return encoding

theorem calm_feature_vector (row : PreparedRow F) (mutateIdEncodings : Bool) :
    Calm SeededFeatures anything
      (featureVector row mutateIdEncodings : Method (FeatureState F V) (List V)) := by
  apply calm_then (calm_given _)
  intro features
  apply calm_then
  · apply calm_foldlM
    · intro made _ submodule _
      apply calm_then (calm_given _)
      intro id
      apply calm_then (calm_encoding _ _ _)
      intro encoding
      exact calm_return _
    · trivial
  · intro made
    apply calm_then (calm_given _)
    intro days
    exact calm_return _

theorem calm_restoring {saved : Option TorchMt19937} {step : Method (FeatureState F V) Value}
    (seeded : ∀ rng, saved = some rng → Seeded rng) (calm : Calm SeededFeatures anything step) :
    Calm SeededFeatures anything (restoringRng saved step) := by
  apply Calm.mk
  · intro state message kept
    have quiet := calm.calm state
    unfold restoringRng
    cases ran : step state with
    | mk result reached =>
        rw [ran] at quiet
        cases saved with
        | none =>
            cases result with
            | ok found => exact quiet message kept
            | error failure =>
                cases failure with
                | error text => exact quiet message kept
                | panic text => exact absurd rfl (quiet text kept)
        | some rng =>
            cases result with
            | ok found => exact quiet message kept
            | error failure =>
                cases failure with
                | error text => exact quiet message kept
                | panic text => exact absurd rfl (quiet text kept)
  · intro state kept
    have quiet := calm.calm state
    have reachedSeeded := calm.kept state kept
    unfold restoringRng
    cases ran : step state with
    | mk result reached =>
        rw [ran] at quiet reachedSeeded
        cases saved with
        | none =>
            cases result with
            | ok found => exact reachedSeeded
            | error failure =>
                cases failure with
                | error text => exact reachedSeeded
                | panic text => exact absurd rfl (quiet text kept)
        | some rng =>
            cases result with
            | ok found => exact seeded rng rfl
            | error failure =>
                cases failure with
                | error text => exact seeded rng rfl
                | panic text => exact absurd rfl (quiet text kept)
  · intro state found _ _
    trivial

theorem calm_predict_vector (row : PreparedRow F) :
    Calm SeededFeatures anything
      (predictFeatureVector row : Method (FeatureState F V) (List V)) := by
  apply calm_bind calm_current
  intro state seeded
  apply calm_then (calm_given _)
  intro restore
  apply calm_restoring
  · intro rng same
    cases restore with
    | false => cases same
    | true =>
        cases same
        exact seeded
  · exact calm_feature_vector row false

theorem calm_features {step : Method (FeatureState F V) Value}
    (calm : Calm SeededFeatures anything step) :
    Calm SeededModel anything (onFeatures step : Method (ModelState F V) Value) := by
  apply calm_on_part calm
  · intro state seeded
    exact seeded
  · intro state reached _ seeded
    exact seeded

theorem calm_rnn {step : Method (NativeRnn V) Value}
    (calm : Calm (fun _ => True) anything step) :
    Calm SeededModel anything (onRnn step : Method (ModelState F V) Value) := by
  apply calm_on_part calm
  · intro state _
    trivial
  · intro state reached seeded _
    exact seeded

theorem five_states {output : SrsReviewState V} {states : List (NativeRnnModuleState V)}
    (read : nativeModuleStatesFromReviewOutput output = .ok states) : states.length = 5 := by
  unfold nativeModuleStatesFromReviewOutput at read
  dsimp only at read
  split at read
  · cases read
  · rename_i counts
    have each : ∀ count ∈ [output.timeXShiftB1cByModule.length,
        output.timeStateB1hkkByModule.length, output.channelStateB1cByModule.length],
        count = srsReviewStateModules := by
      intro count member
      by_contra different
      apply counts
      rw [List.any_eq_true]
      exact ⟨count, member, by simpa using different⟩
    have shifts := each _ (List.mem_cons_self)
    have matrices := each _ (List.mem_cons_of_mem _ List.mem_cons_self)
    have channels := each _ (List.mem_cons_of_mem _ (List.mem_cons_of_mem _ List.mem_cons_self))
    have pairs := ResultSteps.mapM_ok read
    rw [← pairs.length_eq, List.length_zipIdx, List.length_zip, List.length_zip, shifts, matrices,
      channels]
    rfl

theorem list_of_five {Item : Type} {items : List Item} (five : items.length = 5) :
    ∃ first second third fourth fifth, items = [first, second, third, fourth, fifth] := by
  cases items with
  | nil => cases five
  | cons first rest =>
      obtain ⟨second, third, fourth, fifth, same⟩ :=
        List.length_eq_four.mp (Nat.succ.inj five : rest.length = 4)
      exact ⟨first, second, third, fourth, fifth, congrArg (first :: ·) same⟩

theorem calm_store (ids : ReviewIds) (output : SrsReviewState V) :
    Calm (fun _ => True) anything (storeReviewStates ids output) := by
  apply calm_bind (calm_lift fun states => five_states)
  intro states five
  obtain ⟨card, note, deck, preset, globalState, same⟩ := list_of_five five
  subst same
  apply calm_update
  intro rnn _
  trivial

variable {modules : RwkvModules} {network : ReviewNetwork F V Logits Rows}

theorem calm_predict_row (row : PreparedRow F) (ids : ReviewIds) :
    Calm SeededModel anything (predictPreparedRowProbability network row ids) := by
  apply calm_then (calm_features (calm_predict_vector row))
  intro features
  apply calm_then (calm_given _)
  intro tensor
  apply calm_then (calm_rnn (calm_weaken calm_current fun _ _ => trivial))
  intro rnn
  apply calm_then (calm_given _)
  intro logits
  exact calm_given _

theorem calm_curve_rows {logits : Option Logits} (given : logits.isSome) (absent : String) :
    Calm SeededModel anything (curveRows network logits absent : Method (ModelState F V) Rows) := by
  cases logits with
  | none => cases given
  | some found => exact calm_given _

/-- Curves are there when they were asked for. -/
def CurvesGiven (returnCurves : Bool) (curves : Option (Rows × Rows)) : Prop :=
  curves.isSome = returnCurves

theorem calm_curves {returnCurves : Bool} {output : SrsReviewOutput V Logits}
    (given : returnCurves = true → output.aheadLogits.isSome ∧ output.w.isSome) :
    Calm SeededModel (CurvesGiven returnCurves)
      (curveOutput network returnCurves output :
        Method (ModelState F V) (Option (Rows × Rows))) := by
  cases returnCurves with
  | false => exact calm_pure rfl
  | true =>
      apply calm_then (calm_curve_rows (given rfl).1 _)
      intro ahead
      apply calm_then (calm_curve_rows (given rfl).2 _)
      intro w
      exact calm_pure rfl

theorem calm_record (row : PreparedRow F) :
    Calm SeededModel anything
        (onFeatures (recordRecurrentStateUpdate row) : Method (ModelState F V) Unit) ∧
      Calm SeededModel anything
        (onFeatures (recordProcessedRow row) : Method (ModelState F V) Unit) := by
  constructor
  · apply calm_features
    apply calm_then (calm_given _)
    intro ids
    apply calm_update
    intro state seeded
    exact seeded
  · apply calm_features
    apply calm_then (calm_given _)
    intro cardId
    apply calm_then (calm_given _)
    intro elapsedDays
    apply calm_then (calm_given _)
    intro elapsedSeconds
    apply calm_then (calm_given _)
    intro dayOffset
    apply calm_update
    intro state seeded
    exact seeded

theorem calm_process_row (forward : WeightsForward modules network) (row : PreparedRow F)
    (ids : ReviewIds) (returnCurves : Bool) :
    Calm SeededModel (CurvesGiven returnCurves)
      (processPreparedRowWithState network row ids returnCurves) := by
  apply calm_then (calm_features (calm_feature_vector row true))
  intro features
  apply calm_then (calm_given _)
  intro tensor
  apply calm_then (calm_rnn (calm_weaken calm_current fun _ _ => trivial))
  intro rnn
  have forwarded : Calm SeededModel
      (fun output : SrsReviewOutput V Logits =>
        returnCurves = true → output.aheadLogits.isSome ∧ output.w.isSome)
      (lift (network.reviewForward tensor (stateInputs rnn ids) returnCurves false) :
        Method (ModelState F V) (SrsReviewOutput V Logits)) := by
    apply calm_lift
    intro output returned asked
    rw [asked] at returned
    exact forward.curves _ _ _ _ returned
  apply calm_bind forwarded
  intro output given
  apply calm_then (calm_rnn (calm_store _ _))
  intro _
  apply calm_then (calm_record row).1
  intro _
  apply calm_then (calm_record row).2
  intro _
  exact calm_curves given

theorem calm_read_features :
    Calm SeededModel anything (onFeatures current : Method (ModelState F V) (FeatureState F V)) :=
  calm_features (calm_weaken calm_current fun _ _ => trivial)

theorem calm_review (forward : WeightsForward modules network) (returnCurves : Bool)
    (input : ReviewInput F) :
    Calm SeededModel (fun review => CurvesGiven returnCurves review.2)
      (processReviewInputWithState network returnCurves input) := by
  apply calm_then calm_read_features
  intro state
  apply calm_then (calm_given _)
  intro ids
  apply calm_then (calm_predict_row _ _)
  intro probability
  apply calm_then calm_read_features
  intro reached
  apply calm_then (calm_given _)
  intro row
  apply calm_bind (calm_process_row forward row ids returnCurves)
  intro curves given
  exact calm_pure given

theorem calm_build (forward : WeightsForward modules network) (input : ReviewInput F) :
    Calm SeededModel anything (buildStateOnlyInput network input) := by
  apply calm_then calm_read_features
  intro state
  apply calm_then (calm_given _)
  intro row
  apply calm_then (calm_given _)
  intro ids
  apply calm_bind (calm_process_row forward row ids false)
  intro curves _
  exact calm_return ()

theorem calm_push (returnCurves : Bool) {output : NativeProcessManyOutput F Rows}
    {review : F × Option (Rows × Rows)} (made : output.curves.isSome = returnCurves)
    (given : CurvesGiven returnCurves review.2) :
    Calm SeededModel (fun output => output.curves.isSome = returnCurves)
      (pushReview returnCurves output review :
        Method (ModelState F V) (NativeProcessManyOutput F Rows)) := by
  cases returnCurves with
  | false => exact calm_pure made
  | true =>
      obtain ⟨curves, madeCurves⟩ := Option.isSome_iff_exists.mp made
      obtain ⟨curve, givenCurve⟩ := Option.isSome_iff_exists.mp given
      unfold pushReview
      rw [if_pos rfl, madeCurves, givenCurve]
      exact calm_pure rfl

theorem calm_undoing {good : Value → Prop} {undo : ModelState F V → ModelState F V → ModelState F V}
    {step : Method (ModelState F V) Value} (calm : Calm SeededModel good step)
    (restores : ∀ before reached, SeededModel before → SeededModel (undo before reached)) :
    Calm SeededModel good (restoringOnError undo step) := by
  apply Calm.mk
  · intro state message seeded
    have quiet := calm.calm state
    unfold restoringOnError
    cases ran : step state with
    | mk result reached =>
        rw [ran] at quiet
        cases result with
        | ok found => exact quiet message seeded
        | error failure =>
            cases failure with
            | error text => exact quiet message seeded
            | panic text => exact absurd rfl (quiet text seeded)
  · intro state seeded
    have reachedSeeded := calm.kept state seeded
    have quiet := calm.calm state
    unfold restoringOnError
    cases ran : step state with
    | mk result reached =>
        rw [ran] at reachedSeeded quiet
        cases result with
        | ok found => exact reachedSeeded
        | error failure =>
            cases failure with
            | error text => exact restores state reached seeded
            | panic text => exact absurd rfl (quiet text seeded)
  · intro state found seeded
    have value := calm.value state
    unfold restoringOnError
    cases ran : step state with
    | mk result reached =>
        rw [ran] at value
        cases result with
        | ok returned => exact value found seeded
        | error failure =>
            cases failure with
            | error text => exact value found seeded
            | panic text => exact value found seeded

theorem calm_journaled {good : Value → Prop} {inputs : List (ReviewInput F)}
    {step : Method (ModelState F V) Value} (calm : Calm SeededModel good step) :
    Calm SeededModel good (journaled inputs step) := by
  apply calm_undoing calm
  intro before reached seeded
  exact seeded

theorem calm_materialize :
    Calm (fun _ => True) anything (materializeFlatCpuState : Method (NativeRnn V) Unit) := by
  have moved : ∀ entity, Calm (fun _ => True) anything
      (materializeMap entity : Method (NativeRnn V) Unit) := by
    intro entity
    apply Calm.mk
    · intro rnn message _
      unfold materializeMap
      cases (rnn.flatStates entity).keys.find? (· ∈ rnn.states entity) with
      | some identity =>
          intro panicked
          cases panicked
      | none =>
          intro panicked
          cases panicked
    · intro rnn _
      trivial
    · intro rnn found _ _
      trivial
  have globalMoved : Calm (fun _ => True) anything
      (materializeGlobal : Method (NativeRnn V) Unit) := by
    apply Calm.mk
    · intro rnn message _
      unfold materializeGlobal
      cases rnn.flatGlobalState with
      | none =>
          intro panicked
          cases panicked
      | some flat =>
          cases rnn.globalState with
          | none =>
              intro panicked
              cases panicked
          | some state =>
              intro panicked
              cases panicked
    · intro rnn _
      trivial
    · intro rnn found _ _
      trivial
  apply calm_then (moved .card)
  intro _
  apply calm_then (moved .note)
  intro _
  apply calm_then (moved .deck)
  intro _
  apply calm_then (moved .preset)
  intro _
  exact globalMoved

theorem calm_process_inputs (forward : WeightsForward modules network)
    (inputs : List (ReviewInput F)) (returnCurves : Bool) (numThreads : Option Nat) :
    Calm SeededModel (fun output => output.curves.isSome = returnCurves)
      (processReviewInputsWithState network inputs returnCurves numThreads) := by
  apply calm_then (calm_given _)
  intro _
  apply calm_then (calm_rnn calm_materialize)
  intro _
  apply calm_journaled
  apply calm_foldlM
  · intro output made input _
    apply calm_bind (calm_review forward returnCurves input)
    intro review given
    exact calm_push returnCurves made given
  · cases returnCurves with
    | false => rfl
    | true => rfl

theorem calm_build_inputs (forward : WeightsForward modules network)
    (inputs : List (ReviewInput F)) (numThreads : Option Nat) :
    Calm SeededModel anything (buildStateOnlyInputsWithState network inputs numThreads) := by
  apply calm_then (calm_given _)
  intro _
  apply calm_then (calm_rnn calm_materialize)
  intro _
  apply calm_journaled
  apply calm_then
  · apply calm_foldlM
    · intro _ _ input _
      exact calm_build forward input
    · trivial
  · intro _
    exact calm_return _

theorem calm_undoable (forward : WeightsForward modules network) (input : ReviewInput F)
    (returnCurves : Bool) (numThreads : Option Nat) :
    Calm SeededModel anything
      (undoableProcessInputWithState network input returnCurves numThreads) := by
  apply calm_then (calm_given _)
  intro _
  apply calm_then (calm_rnn calm_materialize)
  intro _
  apply calm_then calm_read_features
  intro state
  apply calm_then (calm_given _)
  intro ids
  apply calm_then (calm_predict_row _ _)
  intro probability
  apply calm_then calm_read_features
  intro reached
  apply calm_then (calm_given _)
  intro row
  apply calm_bind calm_current
  intro captured seeded
  have framed : Calm SeededModel (fun frame : UndoFrame F V => Seeded frame.deterministic.idRng)
      (lift (UndoFrame.capture captured row ids) : Method (ModelState F V) (UndoFrame F V)) := by
    apply calm_lift
    intro frame made
    obtain ⟨deterministic, features, same⟩ := ResultSteps.bind_ok.mp made
    obtain ⟨encodings, _, whole⟩ := ResultSteps.bind_ok.mp features
    cases same
    cases whole
    exact seeded
  apply calm_bind framed
  intro frame frameSeeded
  apply calm_then
  · apply calm_undoing
    · apply calm_weaken (calm_process_row forward row ids returnCurves)
      intro _ _
      trivial
    · intro before after _
      exact frameSeeded
  · intro curves
    exact calm_return _

theorem calm_prediction (review : Except String (ReviewInput F)) (numThreads : Option Nat) :
    Calm SeededModel anything (NativeCalls.predictProbability network review numThreads) := by
  apply calm_then (calm_given _)
  intro _
  apply calm_then (calm_rnn calm_materialize)
  intro _
  apply calm_then (calm_given _)
  intro input
  apply calm_then calm_read_features
  intro state
  apply calm_then (calm_given _)
  intro ids
  exact calm_predict_row _ _

section Runtime

open RwkvSrs.NativeCalls (NotedRuntime NativeCall Confined Sound)
open RwkvSrs.RuntimeRestore (requireNoLiveSession)

variable {Live Session : Type}

def SeededRuntime (runtime : NotedRuntime F V Live Session) : Prop :=
  Seeded runtime.deterministic.idRng

theorem calm_require (operation : String) :
    Calm SeededRuntime anything
      (requireNoLiveSession operation : Method (NotedRuntime F V Live Session) Unit) := by
  apply Calm.mk
  · intro runtime message _ panicked
    rcases UndoStack.require_cases operation runtime with free | ⟨refusal, live⟩
    · rw [free] at panicked
      cases panicked
    · rw [live] at panicked
      cases panicked
  · intro runtime seeded
    rcases UndoStack.require_cases operation runtime with free | ⟨refusal, live⟩
    · rw [free]
      exact seeded
    · rw [live]
      exact seeded
  · intro runtime found _ _
    trivial

/-- An undoable review does not panic while the generator was seeded. -/
theorem calm_undoable_call (forward : WeightsForward modules network)
    (review : Except String (ReviewInput F)) (returnCurves : Bool) (numThreads : Option Nat)
    (note : ModelState F V) :
    Calm SeededRuntime anything (undoableProcessReview network note review returnCurves numThreads :
      Method (NotedRuntime F V Live Session) (F × Option (Rows × Rows))) := by
  apply calm_then (calm_require _)
  intro _
  apply calm_then (calm_given _)
  intro _
  apply calm_then (calm_weaken calm_current fun _ _ => trivial)
  intro runtime
  by_cases disabled : runtime.undoLimit = 0
  · rw [if_pos disabled]
    apply Calm.mk
    · intro state message _ panicked
      cases panicked
    · intro state seeded
      exact seeded
    · intro state found _ ran
      cases ran
  · rw [if_neg disabled]
    apply calm_then (calm_given _)
    intro input
    have processed : Calm SeededRuntime anything (UndoableProcess.onModel
        (undoableProcessInputWithState network input returnCurves numThreads) :
          Method (NotedRuntime F V Live Session) _) := by
      apply calm_on_part (calm_undoable forward input returnCurves numThreads)
      · intro state seeded
        exact seeded
      · intro state reached _ seeded
        exact seeded
    apply calm_then processed
    intro output
    have pushed : Calm SeededRuntime anything (UndoableProcess.pushFrame
        ⟨output.2, none, note⟩ : Method (NotedRuntime F V Live Session) Unit) := by
      apply calm_update
      intro state seeded
      exact seeded
    apply calm_then pushed
    intro _
    exact calm_return _

/-- A confined call is sound wherever the generator was seeded. -/
theorem seeded_call_sound (forward : WeightsForward modules network)
    {runtime : NotedRuntime F V Live Session} (seeded : SeededRuntime runtime)
    {call : NativeCall F V Live Session}
    (confined : ∀ frame ∈ runtime.undoStack.head?, Confined frame.model.recurrent.ids call) :
    Sound network runtime call := by
  constructor
  case confined => exact confined
  case finishes =>
    rintro review returnCurves numThreads _ ⟨message, panicked⟩
    exact (calm_undoable_call forward review returnCurves numThreads (modelState runtime)).calm
      runtime message seeded panicked

end Runtime

end RwkvSrs.CalmProcessing
