import RwkvSrs.DeterministicTouch
import RwkvSrs.NativeRnnState

/-!
The batch journal of the whole runtime. Beside the feature state it saves the
recurrent state of every identity of the batch once for each module; restoring
it is exact after any work that wrote recurrent states of those identities only.
-/

namespace RwkvSrs.BatchJournal

open Std RwkvSrs.FallibleMethod RwkvSrs.DeterministicState RwkvSrs.DeterministicUndo
open RwkvSrs.DeterministicTouch RwkvSrs.ModuleState RwkvSrs.NativeRnnState

set_option autoImplicit false

variable {F V Value : Type}

/-- The feature state and the recurrent states a call works on. -/
abbrev ModelState (F V : Type) := FeatureState F V × NativeRnn V

def onFeatures (step : Method (FeatureState F V) Value) : Method (ModelState F V) Value :=
  onPart Prod.fst (fun deterministic state => (deterministic, state.2)) step

def onRnn (step : Method (NativeRnn V) Value) : Method (ModelState F V) Value :=
  onPart Prod.snd (fun rnn state => (state.1, rnn)) step

/-- The identities of a batch under a module. -/
def moduleIds (identities : BatchIdentitySets) : EntityModule → ExtTreeSet Int64
  | .card => identities.cardIds
  | .deck => identities.deckIds
  | .note => identities.noteIds
  | .preset => identities.presetIds

structure BatchRecurrentUndoFrame (V : Type) where
  states : EntityModule → List (Int64 × Option (NativeRnnModuleState V))
  globalState : Option (NativeRnnModuleState V)

def captureRecurrentIdentities (rnn : NativeRnn V) (identities : BatchIdentitySets) :
    BatchRecurrentUndoFrame V where
  states entity := captureMapEntries (rnn.states entity) (moduleIds identities entity)
  globalState := rnn.globalState

def BatchRecurrentUndoFrame.capture (rnn : NativeRnn V) (ids : List ReviewIds) :
    BatchRecurrentUndoFrame V :=
  captureRecurrentIdentities rnn (BatchIdentitySets.fromIds ids)

def BatchRecurrentUndoFrame.restore (frame : BatchRecurrentUndoFrame V) (rnn : NativeRnn V) :
    NativeRnn V :=
  { rnn with
    states := fun entity => restoreMapEntries (rnn.states entity) (frame.states entity)
    globalState := frame.globalState }

structure BatchUndoFrame (F V : Type) where
  recurrent : BatchRecurrentUndoFrame V
  deterministic : BatchDeterministicUndoFrame F V

def BatchUndoFrame.capture (state : ModelState F V) (ids : List ReviewIds) : BatchUndoFrame F V :=
  let identities := BatchIdentitySets.fromIds ids
  ⟨captureRecurrentIdentities state.2 identities, captureIdentities state.1 identities⟩

def BatchUndoFrame.restore (frame : BatchUndoFrame F V) (state : ModelState F V) :
    ModelState F V :=
  (frame.deterministic.restore state.1, frame.recurrent.restore state.2)

/-- `match result { Err(error) => { undo.restore(..); Err(error) } .. }`; a panic skips it. -/
def restoringOnError {State : Type} (undo : State → State → State) (step : Method State Value) :
    Method State Value := fun state =>
  match step state with
  | (.error (.error message), reached) => (.error (.error message), undo state reached)
  | (result, reached) => (result, reached)

structure StoresWithin (identities : BatchIdentitySets) (before after : NativeRnn V) : Prop where
  keyed : ∀ entity key, key ∉ moduleIds identities entity →
    (before.states entity)[key]? = (after.states entity)[key]?
  flat : Materialized before → Materialized after

namespace StoresWithin

variable {identities : BatchIdentitySets} {before middle after : NativeRnn V}

theorem refl (rnn : NativeRnn V) : StoresWithin identities rnn rnn :=
  ⟨fun _ _ _ => rfl, fun materialized => materialized⟩

theorem trans (first : StoresWithin identities before middle)
    (second : StoresWithin identities middle after) : StoresWithin identities before after where
  keyed entity key outside := (first.keyed entity key outside).trans (second.keyed entity key outside)
  flat materialized := second.flat (first.flat materialized)

end StoresWithin

theorem covered_module {identities : BatchIdentitySets} {ids : ReviewIds}
    (covered : Covered identities ids) (entity : EntityModule) :
    entity.key ids ∈ moduleIds identities entity := by
  cases entity with
  | card => exact covered .cardId
  | deck => exact covered .deckId
  | note => exact covered .noteId
  | preset => exact covered .presetId

theorem restore_recurrent_capture {identities : BatchIdentitySets} {before after : NativeRnn V}
    (materialized : Materialized before) (stores : StoresWithin identities before after) :
    (captureRecurrentIdentities before identities).restore after = before := by
  have maps : ∀ entity, restoreMapEntries (after.states entity)
      (captureMapEntries (before.states entity) (moduleIds identities entity)) =
        before.states entity := by
    intro entity
    exact restore_map_entries_exact (stores.keyed entity)
  have flat := stores.flat materialized
  obtain ⟨states, globalState, flatStates, flatGlobalState⟩ := before
  obtain ⟨states', globalState', flatStates', flatGlobalState'⟩ := after
  have sameFlat : flatStates' = flatStates := by
    funext entity
    exact (flat.keyed entity).trans (materialized.keyed entity).symm
  have sameGlobal : flatGlobalState' = flatGlobalState := flat.global.trans materialized.global.symm
  simp only [BatchRecurrentUndoFrame.restore, captureRecurrentIdentities, NativeRnn.mk.injEq]
  exact ⟨funext maps, trivial, sameFlat, sameGlobal⟩

structure BatchWithin (identities : BatchIdentitySets) (before after : ModelState F V) : Prop where
  features : AgreeOutside identities before.1 after.1
  states : StoresWithin identities before.2 after.2

namespace BatchWithin

variable {identities : BatchIdentitySets} {before middle after : ModelState F V}

theorem refl (state : ModelState F V) : BatchWithin identities state state :=
  ⟨AgreeOutside.refl state.1, StoresWithin.refl state.2⟩

theorem trans (first : BatchWithin identities before middle)
    (second : BatchWithin identities middle after) : BatchWithin identities before after :=
  ⟨first.features.trans second.features, first.states.trans second.states⟩

end BatchWithin

theorem restore_batch_capture {ids : List ReviewIds} {before after : ModelState F V}
    (materialized : Materialized before.2)
    (within : BatchWithin (BatchIdentitySets.fromIds ids) before after) :
    (BatchUndoFrame.capture before ids).restore after = before := by
  apply Prod.ext
  · exact restore_capture within.features
  · exact restore_recurrent_capture materialized within.states

section Methods

variable {identities : BatchIdentitySets}

theorem within_features {step : Method (FeatureState F V) Value}
    (touches : Touches identities step) :
    Keeps (BatchWithin identities) (onFeatures step : Method (ModelState F V) Value) := by
  intro state
  exact ⟨touches state.1, StoresWithin.refl state.2⟩

theorem within_rnn {step : Method (NativeRnn V) Value}
    (stores : Keeps (StoresWithin identities) step) :
    Keeps (BatchWithin identities) (onRnn step : Method (ModelState F V) Value) := by
  intro state
  exact ⟨AgreeOutside.refl state.1, stores state.2⟩

theorem within_bind {Next : Type} {step : Method (ModelState F V) Value}
    {next : Value → Method (ModelState F V) Next} (first : Keeps (BatchWithin identities) step)
    (rest : ∀ value, Keeps (BatchWithin identities) (next value)) :
    Keeps (BatchWithin identities) (step >>= next) :=
  keeps_bind (fun _ _ _ before after => before.trans after) first rest

end Methods

section Restoring

variable {State : Type} {undo : State → State → State} {step : Method State Value}
  {before after : State} {message : String}

theorem restoring_error
    (ran : restoringOnError undo step before = (.error (.error message), after)) :
    step before = (.error (.error message), (step before).2) ∧
      after = undo before (step before).2 := by
  unfold restoringOnError at ran
  split at ran
  · rename_i stepped
    cases ran
    rw [stepped]
    exact ⟨rfl, rfl⟩
  · rename_i result reached notError stepped
    cases ran
    exact absurd rfl (notError message)

theorem restoring_ok {Value : Type} {step : Method State Value} {value : Value}
    (ran : restoringOnError undo step before = (.ok value, after)) :
    step before = (.ok value, after) := by
  unfold restoringOnError at ran
  split at ran
  · cases ran
  · rename_i stepped
    rw [stepped]
    exact ran

theorem restoring_of_ok {Value : Type} {step : Method State Value} {value : Value}
    (stepped : step before = (.ok value, after)) :
    restoringOnError undo step before = (.ok value, after) := by
  unfold restoringOnError
  rw [stepped]

theorem restoring_of_error {reached : State}
    (stepped : step before = (.error (.error message), reached)) :
    restoringOnError undo step before = (.error (.error message), undo before reached) := by
  unfold restoringOnError
  rw [stepped]

end Restoring

end RwkvSrs.BatchJournal
