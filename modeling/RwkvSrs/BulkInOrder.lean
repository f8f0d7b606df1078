import RwkvSrs.BatchAtomicity
import RwkvSrs.BulkPlanRuns
import RwkvSrs.PipelineExecutor

/-!
The layered bulk executor against reviews taken one at a time. It makes the
features of all reviews first and then passes all rows through one module after
the other; a review taken alone passes through its features and all five modules
before the next one begins.
-/

namespace RwkvSrs.BulkInOrder

open Std RwkvSrs.ResultSteps RwkvSrs.FallibleMethod RwkvSrs.FeatureScaling RwkvSrs.ReviewInput
open RwkvSrs.DeterministicState RwkvSrs.DeterministicUndo RwkvSrs.TurnRuns RwkvSrs.ModuleState
open RwkvSrs.NativeRnnState RwkvSrs.BatchJournal RwkvSrs.ReviewProcessing RwkvSrs.PipelineStages
open RwkvSrs.PipelineLine RwkvSrs.PipelineExecutor RwkvSrs.BulkStreamPlan RwkvSrs.BulkExecution
open RwkvSrs.BulkProcessing RwkvSrs.RowWiseBatches RwkvSrs.BulkRowRuns RwkvSrs.BulkPlanRuns

set_option autoImplicit false
set_option linter.unusedSectionVars false

variable {F V Rows : Type} [Float64Ops F] [Float32Ops V] [FeatureFloat F V]
  {rows : RowForwards V} {network : BulkNetwork F V (Rows × Rows)} {config : BulkConfig}

section Modules

variable {planned reached rnn : NativeRnn V} {items : List (BulkRow V)} {ids : List ReviewIds}

def plansOf (planned : NativeRnn V) (ids : List ReviewIds) (module : SrsModule) :
    BulkModuleStreamPlan := BulkModuleStreamPlan.fromIds module planned ids

/-- Rows of the batch, wide enough for the next module. -/
structure RowsReady (rows : RowForwards V) (ids : List ReviewIds) (items : List (BulkRow V)) :
    Prop where
  sized : SizedRows rows items
  own : items.map BulkRow.ids = ids

theorem laid_states_congr {module : SrsModule}
    (same : entryOf module reached = entryOf module planned)
    (laid : LaidStates rows module planned) : LaidStates rows module reached := by
  intro key
  rw [same]
  exact laid key

theorem output_ready {module : SrsModule} (laid : LaidStates rows module rnn)
    (ready : RowsReady rows ids items) :
    RowsReady rows ids (outputRows rows module rnn items) where
  sized := (rows_keep (start_laid laid) ready.sized).1
  own := (rows_keep_ids (startOf module rnn)).trans ready.own

theorem keyed_step {entity : EntityModule} (rowWise : RowWise network rows)
    (laid : LaidStates rows (.keyed entity) planned) (ready : RowsReady rows ids items)
    (same : reached.states entity = planned.states entity) :
    ∃ outs states, executeModule config network (plansOf planned ids) (rowsInput items)
        (.keyed entity) reached =
          (.ok (rowsInput outs),
            { reached with states := Function.update reached.states entity states }) ∧
      runTurns (keyedModule (rowLine rows) entity) (planned.states entity) items =
        .ok (outs, states) ∧
      RowsReady rows ids outs ∧ ∀ key, LaidEntry rows (.keyed entity) (keyedEntry states key) := by
  have entries : entryOf (.keyed entity) reached = entryOf (.keyed entity) planned := by
    funext key
    rw [entryOf, entryOf, same]
  have laidHere := laid_states_congr entries laid
  obtain ⟨finals, states, executed, run, applied, laidAfter⟩ :=
    @keyed_module_matches F V (Rows × Rows) rows planned reached items entity network config rowWise
      laidHere ready.sized entries
  rw [same] at run
  rw [ready.own] at executed
  refine ⟨_, states, ?_, run, output_ready laidHere ready, laidAfter⟩
  unfold executeModule
  rw [bind_of_ok (current_apply reached), plansOf, executed]
  rw [bind_of_ok (lift_ok _ reached), bind_of_ok (update_apply _ reached), applied]
  rfl

theorem global_step (rowWise : RowWise network rows) (laid : LaidStates rows .global planned)
    (ready : RowsReady rows ids items) (some : items ≠ [])
    (same : reached.globalState = planned.globalState) :
    ∃ outs shared, executeModule config network (plansOf planned ids) (rowsInput items) .global
        reached = (.ok (rowsInput outs), { reached with globalState := shared }) ∧
      runTurns (sharedTurn ((rowLine rows).forward .global)) planned.globalState items =
        .ok (outs, shared) ∧ ∀ key, LaidEntry rows .global (sharedEntry shared key) := by
  have entries : entryOf .global reached = entryOf .global planned := by
    funext key
    rw [entryOf, entryOf, same]
  have laidHere := laid_states_congr entries laid
  obtain ⟨final, shared, executed, run, applied, laidAfter⟩ :=
    @global_module_matches F V (Rows × Rows) rows planned reached items network config rowWise
      laidHere ready.sized entries some
  rw [same] at run
  rw [ready.own] at executed
  refine ⟨_, shared, ?_, run, laidAfter⟩
  unfold executeModule
  rw [bind_of_ok (current_apply reached), plansOf, executed]
  rw [bind_of_ok (lift_ok _ reached), bind_of_ok (update_apply _ reached), applied]
  rfl

/-- All states of the runtime have the layout of their modules. -/
def Laid (rows : RowForwards V) (rnn : NativeRnn V) : Prop :=
  ∀ module, LaidStates rows module rnn

/-- Module after module over all rows, or row after row through all modules. -/
theorem modules_match (config : BulkConfig) (rowWise : RowWise network rows) (laid : Laid rows rnn)
    (ready : RowsReady rows ids items) (some : items ≠ []) :
    ∃ outs states,
      bulkExecutionOrder.foldlM (executeModule config network (plansOf rnn ids)) (rowsInput items)
        rnn = (.ok (rowsInput outs), withStates rnn states) ∧
      runTurns (modulesTurn (rowLine rows)) (statesOf rnn) items = .ok (outs, states) ∧
      Laid rows (withStates rnn states) := by
  obtain ⟨carded, cards, cardStep, cardRun, ready, cardLaid⟩ :=
    @keyed_step F V Rows _ _ _ rows network config rnn rnn items ids .card rowWise (laid _)
      ready rfl
  obtain ⟨decked, decks, deckStep, deckRun, ready, deckLaid⟩ :=
    @keyed_step F V Rows _ _ _ rows network config rnn
      { rnn with states := Function.update rnn.states .card cards } carded ids .deck rowWise
      (laid _) ready rfl
  obtain ⟨noted, notes, noteStep, noteRun, ready, noteLaid⟩ :=
    @keyed_step F V Rows _ _ _ rows network config rnn
      { rnn with states := Function.update (Function.update rnn.states .card cards) .deck decks }
      decked ids .note rowWise (laid _) ready rfl
  obtain ⟨preseted, presets, presetStep, presetRun, ready, presetLaid⟩ :=
    @keyed_step F V Rows _ _ _ rows network config rnn
      { rnn with states := Function.update (Function.update (Function.update rnn.states .card cards)
          .deck decks) .note notes } noted ids .preset rowWise (laid _) ready rfl
  have rest : preseted ≠ [] := by
    intro none
    have counts := (run_turns_length cardRun).symm.trans ((run_turns_length deckRun).symm.trans
      ((run_turns_length noteRun).symm.trans (run_turns_length presetRun).symm))
    rw [none] at counts
    exact some (List.length_eq_zero_iff.mp counts)
  obtain ⟨outs, shared, sharedStep, sharedRun, sharedLaid⟩ :=
    @global_step F V Rows _ _ _ rows network config rnn
      { rnn with states := Function.update (Function.update (Function.update (Function.update
          rnn.states .card cards) .deck decks) .note notes) .preset presets } preseted ids rowWise
      (laid _) ready rest rfl
  refine ⟨outs, (cards, decks, notes, presets, shared), ?_, ?_, ?_⟩
  · have after : withStates rnn (cards, decks, notes, presets, shared) =
        { rnn with
          states := Function.update (Function.update (Function.update (Function.update
            rnn.states .card cards) .deck decks) .note notes) .preset presets
          globalState := shared } := by
      rw [withStates]
      congr 1
      funext entity
      cases entity <;> rfl
    rw [after, bulkExecutionOrder]
    simp only [List.foldlM_cons, List.foldlM_nil]
    rw [bind_of_ok cardStep, bind_of_ok deckStep, bind_of_ok noteStep, bind_of_ok presetStep,
      bind_of_ok sharedStep]
    rfl
  · exact run_compose_turns.mpr ⟨carded, cardRun, run_compose_turns.mpr ⟨decked, deckRun,
      run_compose_turns.mpr ⟨noted, noteRun, run_compose_turns.mpr ⟨preseted, presetRun,
        sharedRun⟩⟩⟩⟩
  · intro module
    cases module with
    | keyed entity =>
        cases entity with
        | card => exact cardLaid
        | deck => exact deckLaid
        | note => exact noteLaid
        | preset => exact presetLaid
    | global => exact sharedLaid

end Modules

end RwkvSrs.BulkInOrder
