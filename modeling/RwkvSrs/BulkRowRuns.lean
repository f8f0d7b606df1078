import RwkvSrs.BulkModuleRuns

/-!
A bulk module against its rows taken one at a time. Each row reads the state of
its own identity and writes the next one back; whatever the module ran together,
the outputs of all rows and the states that are left are the same.
-/

namespace RwkvSrs.BulkRowRuns

open Std RwkvSrs.ResultSteps RwkvSrs.DeterministicState RwkvSrs.StreamLoops RwkvSrs.TurnRuns
open RwkvSrs.ModuleState RwkvSrs.NativeRnnState RwkvSrs.BulkStateBatch RwkvSrs.BulkStateJoin
open RwkvSrs.BulkStateNative RwkvSrs.PipelineStages RwkvSrs.PipelineLine RwkvSrs.BulkStreamPlan
open RwkvSrs.BulkExecution RwkvSrs.RowWiseBatches RwkvSrs.BulkStreamRuns RwkvSrs.BulkModuleRuns

set_option autoImplicit false

variable {F V Curve : Type}

structure BulkRow (V : Type) where
  ids : ReviewIds
  query : List V
  process : List V

def rowsInput (items : List (BulkRow V)) : BulkModuleInput V :=
  ⟨items.map BulkRow.query, items.map BulkRow.process⟩

def rowKey (module : SrsModule) (row : BulkRow V) : Option Int64 := streamKey module row.ids

section Rows

variable (rows : RowForwards V) (module : SrsModule)

def nextState (state : Option (WorkingState V)) (row : BulkRow V) : WorkingState V :=
  (rows.process module state row.process).2

def advance (state : Option (WorkingState V)) (row : BulkRow V) : Option (WorkingState V) :=
  some (nextState rows module state row)

def passed (state : Option (WorkingState V)) (row : BulkRow V) : BulkRow V :=
  ⟨row.ids, rows.query module state row.query, (rows.process module state row.process).1⟩

def rowLine : ModuleForward V (BulkRow V) where
  ids := BulkRow.ids
  forward module state row := .ok (passed rows module state row, nextState rows module state row)
  keepsIds := by
    intro module state row row' next made
    cases made
    rfl

def passedRows (states : Option Int64 → Option (WorkingState V)) (items : List (BulkRow V)) :
    List (BulkRow V) :=
  keyedOutputs (rowKey module) (advance rows module) (passed rows module) states items

def statesAfter (states : Option Int64 → Option (WorkingState V)) (items : List (BulkRow V)) :
    Option Int64 → Option (WorkingState V) :=
  items.foldl (keyedStep (rowKey module) (advance rows module)) states

end Rows

variable {rows : RowForwards V} {module : SrsModule} {items : List (BulkRow V)}
  {states : Option Int64 → Option (WorkingState V)} {key : Option Int64}

/-- What is stored for an identity: the state it ends with, or what was there if no row has it. -/
structure Settled (touched : Prop) (before : Option (NativeRnnModuleState V))
    (final : Option (WorkingState V)) (after : Option (NativeRnnModuleState V)) : Prop where
  written : touched → ∃ working native, final = some working ∧ toNative working = .ok native ∧
    after = some native
  left : ¬touched → after = before

theorem settled_unique {touched : Prop} {before after after' : Option (NativeRnnModuleState V)}
    {final : Option (WorkingState V)} (one : Settled touched before final after)
    (two : Settled touched before final after') : after = after' := by
  by_cases here : touched
  · obtain ⟨working, native, ends, converted, stored⟩ := one.written here
    obtain ⟨working', native', ends', converted', stored'⟩ := two.written here
    rw [ends] at ends'
    cases ends'
    rw [converted] at converted'
    cases converted'
    rw [stored, stored']
  · rw [one.left here, two.left here]

theorem states_after_untouched (untouched : ¬∃ row ∈ items, rowKey module row = key) :
    statesAfter rows module states items key = states key := by
  have none : streamRows (rowKey module) items key = [] := by
    apply List.filter_eq_nil_iff.mpr
    intro row member same
    exact untouched ⟨row, member, by simpa using same⟩
  rw [statesAfter, keyed_fold, none]
  rfl

/-- A machine whose turns read and write the entry of the row's identity gives all rows the
outputs of their streams and leaves the states the streams end with. -/
theorem rows_run {State : Type} {turn : Turn (BulkRow V) (BulkRow V) String State}
    (entry : State → Option Int64 → Option (NativeRnnModuleState V))
    (each : ∀ state row working, currentState (entry state (rowKey module row)) = .ok working →
      ∃ native next, toNative (nextState rows module working row) = .ok native ∧
        turn state row = .ok (passed rows module working row, next) ∧
        entry next = Function.update (entry state) (rowKey module row) (some native))
    {state : State} (shown : ∀ key, currentState (entry state key) = .ok (states key))
    (items : List (BulkRow V)) :
    ∃ last, runTurns turn state items = .ok (passedRows rows module states items, last) ∧
      ∀ key, Settled (∃ row ∈ items, rowKey module row = key) (entry state key)
        (statesAfter rows module states items key) (entry last key) := by
  induction items generalizing state states with
  | nil => exact ⟨state, rfl, fun key => ⟨by simp, fun _ => rfl⟩⟩
  | cons row items ih =>
      obtain ⟨native, next, converted, turned, updated⟩ :=
        each state row _ (shown (rowKey module row))
      have shownNext : ∀ key, currentState (entry next key) =
          .ok (keyedStep (rowKey module) (advance rows module) states row key) := by
        intro key
        rw [updated]
        by_cases same : key = rowKey module row
        · subst same
          rw [Function.update_self, keyedStep, Function.update_self]
          exact bind_ok.mpr ⟨_, to_working_of_to_native converted, rfl⟩
        · rw [Function.update_of_ne same, keyedStep, Function.update_of_ne same]
          exact shown key
      obtain ⟨last, run, settled⟩ := ih shownNext
      refine ⟨last, run_turns_cons_ok.mpr ⟨_, next, _, turned, run, rfl⟩, fun key => ?_⟩
      by_cases later : ∃ other ∈ items, rowKey module other = key
      · refine ⟨fun _ => (settled key).written later, fun untouched => absurd ?_ untouched⟩
        obtain ⟨other, member, own⟩ := later
        exact ⟨other, List.mem_cons_of_mem _ member, own⟩
      · have kept := (settled key).left later
        rw [updated] at kept
        by_cases same : rowKey module row = key
        · subst same
          refine ⟨fun _ => ⟨_, native, ?_, converted, by rw [kept, Function.update_self]⟩,
            fun untouched => absurd ⟨row, by simp, rfl⟩ untouched⟩
          change statesAfter rows module
            (keyedStep (rowKey module) (advance rows module) states row) items _ = _
          rw [states_after_untouched later, keyedStep, Function.update_self]
          rfl
        · refine ⟨?_, fun _ => by rw [kept, Function.update_of_ne (Ne.symm same)]⟩
          rintro ⟨other, member, own⟩
          rcases List.mem_cons.mp member with first | rest
          · exact absurd (first ▸ own) same
          · exact absurd ⟨other, rest, own⟩ later

/-- The entry of the canonical map a row of this key reads. -/
def keyedEntry (map : KeyedStates V) (key : Option Int64) : Option (NativeRnnModuleState V) :=
  key.bind fun key => map[key]?

def sharedEntry (state : Option (NativeRnnModuleState V)) (key : Option Int64) :
    Option (NativeRnnModuleState V) := if key = none then state else none

theorem keyed_rows_run {entity : EntityModule} {map : KeyedStates V}
    (shown : ∀ key, currentState (keyedEntry map key) = .ok (states key))
    (items : List (BulkRow V)) :
    ∃ last, runTurns (keyedModule (rowLine rows) entity) map items =
        .ok (passedRows rows (.keyed entity) states items, last) ∧
      ∀ key, Settled (∃ row ∈ items, rowKey (.keyed entity) row = key) (keyedEntry map key)
        (statesAfter rows (.keyed entity) states items key) (keyedEntry last key) := by
  apply rows_run keyedEntry ?_ shown items
  intro map row working found
  obtain ⟨native, converted, _⟩ := to_native_ok (nextState rows (.keyed entity) working row)
  refine ⟨native, map.insert (entity.key row.ids) native, converted, ?_, ?_⟩
  · exact bind_ok.mpr ⟨working, found, bind_ok.mpr ⟨_, rfl, bind_ok.mpr ⟨native, converted, rfl⟩⟩⟩
  · funext key
    cases key with
    | none => rfl
    | some key =>
        change (map.insert (entity.key row.ids) native)[key]? =
          Function.update (keyedEntry map) (some (entity.key row.ids)) (some native) (some key)
        rw [ExtTreeMap.getElem?_insert]
        by_cases same : entity.key row.ids = key
        · subst same
          simp
        · rw [if_neg (by simpa using same), Function.update_of_ne (by simpa using Ne.symm same)]
          rfl

theorem shared_rows_run {shared : Option (NativeRnnModuleState V)}
    (shown : ∀ key, currentState (sharedEntry shared key) = .ok (states key))
    (items : List (BulkRow V)) :
    ∃ last, runTurns (sharedTurn ((rowLine rows).forward .global)) shared items =
        .ok (passedRows rows .global states items, last) ∧
      ∀ key, Settled (∃ row ∈ items, rowKey .global row = key) (sharedEntry shared key)
        (statesAfter rows .global states items key) (sharedEntry last key) := by
  apply rows_run sharedEntry ?_ shown items
  intro shared row working found
  obtain ⟨native, converted, _⟩ := to_native_ok (nextState rows .global working row)
  refine ⟨native, some native, converted, ?_, ?_⟩
  · exact bind_ok.mpr ⟨working, found, bind_ok.mpr ⟨_, rfl, bind_ok.mpr ⟨native, converted, rfl⟩⟩⟩
  · funext key
    cases key with
    | none => rfl
    | some key => simp [sharedEntry, rowKey, streamKey]

end RwkvSrs.BulkRowRuns
