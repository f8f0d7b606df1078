import RwkvSrs.DeterministicUndo
import RwkvSrs.NativeRnnState
import RwkvSrs.StagePipelineProgress

/-!
The module stages of the pipelined executors. A keyed stage keeps the states it
was given until an identity first appears and then a working state for it; the
states a stage ends with are the ones that result when every row reads and
writes the canonical map directly.
-/

namespace RwkvSrs.PipelineStages

open Std RwkvSrs.ResultSteps RwkvSrs.ModuleState RwkvSrs.NativeRnnState
open RwkvSrs.DeterministicState RwkvSrs.TurnRuns RwkvSrs.StagePipeline RwkvSrs.StagePipelineSafety
open RwkvSrs.StagePipelineProgress

set_option autoImplicit false

variable {V Row : Type}

abbrev KeyedStates (V : Type) := ExtTreeMap Int64 (NativeRnnModuleState V)

/-- The forward of one module for one row, from the state the row's identity has. -/
abbrev RowForward (V Row : Type) :=
  Option (WorkingState V) → Row → Except String (Row × WorkingState V)

def toWorking (native : NativeRnnModuleState V) : Except String (WorkingState V) :=
  match converted : flatWorkingModuleStateFromNative native true with
  | .ok state => .ok ⟨state, working_of_native converted⟩
  | .error message => .error message

def toNative (working : WorkingState V) : Except String (NativeRnnModuleState V) :=
  nativeModuleStateFromFlatWorking working.1

def currentState (native : Option (NativeRnnModuleState V)) :
    Except String (Option (WorkingState V)) :=
  match native with
  | none => .ok none
  | some state => do return some (← toWorking state)

def cloneStatesForKeys (states : KeyedStates V) (keys : List Int64) : KeyedStates V :=
  states.filter fun key _ => keys.contains key

structure KeyedStageState (V : Type) where
  native : KeyedStates V
  working : ExtTreeMap Int64 (Option (WorkingState V))

def conversionFailed (label : String) (message : String) : String :=
  s!"{label} state conversion failed: {message}"

def finalConversionFailed (label : String) (message : String) : String :=
  s!"{label} final-state conversion failed: {message}"

/-- The working state of an identity, taken out of the native map on its first appearance. -/
def keyedState (label : String) (stage : KeyedStageState V) (key : Int64) :
    Except String (Option (WorkingState V)) :=
  match stage.working[key]? with
  | some working => .ok working
  | none => (currentState stage.native[key]?).mapError (conversionFailed label)

def keyedTurn (label : String) (key : Row → Int64) (forward : RowForward V Row) :
    Turn Row Row String (KeyedStageState V) := fun stage row => do
  let state ← keyedState label stage (key row)
  let (row', nextState) ← forward state row
  return (row', {
    native := stage.native.erase (key row)
    working := stage.working.insert (key row) (some nextState) })

def finishEntry (label : String) (native : KeyedStates V)
    (entry : Int64 × Option (WorkingState V)) : Except String (KeyedStates V) := do
  let state ← match entry.2 with
    | some state => .ok state
    | none => .error s!"{label} state {entry.1} was not initialized"
  let converted ← (toNative state).mapError (finalConversionFailed label)
  return native.insert entry.1 converted

def keyedFinish (label : String) (stage : KeyedStageState V) : Except String (KeyedStates V) :=
  stage.working.toList.foldlM (finishEntry label) stage.native

def keyedStage (label : String) (key : Row → Int64) (forward : RowForward V Row)
    (states : KeyedStates V) (batch : Nat) : Stage Row String where
  State := KeyedStageState V
  Output := KeyedStates V
  start := .ok ⟨states, ∅⟩
  turn := keyedTurn label key forward
  finish := keyedFinish label
  closedEarly := s!"{label} stage output closed early"
  batch := batch

def globalTurn (forward : RowForward V Row) : Turn Row Row String (Option (WorkingState V)) :=
  fun state row => do
    let (row', nextState) ← forward state row
    return (row', some nextState)

def globalStart (label : String) (native : Option (NativeRnnModuleState V)) :
    Except String (Option (WorkingState V)) :=
  (currentState native).mapError (conversionFailed label)

def globalFinish (label : String) (state : Option (WorkingState V)) :
    Except String (Option (NativeRnnModuleState V)) :=
  match state with
  | none => .ok none
  | some state => do
      return some (← (toNative state).mapError (finalConversionFailed label))

/-- One row through a keyed module: its identity's state is read, advanced and stored. -/
def entityTurn (key : Row → Int64) (forward : RowForward V Row) :
    Turn Row Row String (KeyedStates V) := fun states row => do
  let state ← currentState states[key row]?
  let (row', nextState) ← forward state row
  return (row', states.insert (key row) (← toNative nextState))

def sharedTurn (forward : RowForward V Row) :
    Turn Row Row String (Option (NativeRnnModuleState V)) := fun shared row => do
  let state ← currentState shared
  let (row', nextState) ← forward state row
  return (row', some (← toNative nextState))

theorem to_native_ok (working : WorkingState V) :
    ∃ native, toNative working = .ok native ∧ toWorking native = .ok working := by
  obtain ⟨native, converted, restored⟩ := working_round_trip working.2
  refine ⟨native, converted, ?_⟩
  unfold toWorking
  split
  · rename_i state found
    rw [restored] at found
    cases found
    rfl
  · rename_i message found
    rw [restored] at found
    cases found

theorem to_working_of_to_native {working : WorkingState V} {native : NativeRnnModuleState V}
    (converted : toNative working = .ok native) : toWorking native = .ok working := by
  obtain ⟨made, same, restored⟩ := to_native_ok working
  rw [converted] at same
  cases same
  exact restored

theorem current_state_of_to_native {working : WorkingState V} {native : NativeRnnModuleState V}
    (converted : toNative working = .ok native) : currentState (some native) = .ok (some working) := by
  rw [currentState, to_working_of_to_native converted]
  rfl

/-- Where the stage holds what the canonical map has for an identity. -/
def Held (before : KeyedStates V) (stage : KeyedStageState V) (key : Int64)
    (found : Option (NativeRnnModuleState V)) : Prop :=
  match stage.working[key]? with
  | some (some working) => ∃ native, found = some native ∧ toNative working = .ok native
  | some none => False
  | none => stage.native[key]? = found ∧ before[key]? = found

structure KeyedRelated (before : KeyedStates V) (keys : List Int64) (stage : KeyedStageState V)
    (states : KeyedStates V) : Prop where
  touched : ∀ key ∈ keys, Held before stage key states[key]?
  untouched : ∀ key, key ∉ keys →
    states[key]? = before[key]? ∧ stage.native[key]? = none ∧ stage.working[key]? = none

variable {before states : KeyedStates V} {keys : List Int64} {stage : KeyedStageState V}

theorem clone_related (before : KeyedStates V) (keys : List Int64) :
    KeyedRelated before keys ⟨cloneStatesForKeys before keys, ∅⟩ before where
  touched key member := by
    simp only [Held, cloneStatesForKeys, ExtTreeMap.getElem?_empty, ExtTreeMap.getElem?_filter']
    cases before[key]? with
    | none => simp
    | some state => simp [member]
  untouched key outside := by
    refine ⟨rfl, ?_, by simp⟩
    rw [cloneStatesForKeys, ExtTreeMap.getElem?_filter']
    cases before[key]? with
    | none => rfl
    | some state => simp [outside]

theorem keyed_state_related (label : String) (related : KeyedRelated before keys stage states)
    {key : Int64} (member : key ∈ keys) :
    (∃ state, keyedState label stage key = .ok state ∧ currentState states[key]? = .ok state) ∨
      ((∃ failure, keyedState label stage key = .error failure) ∧
        ∃ failure, currentState states[key]? = .error failure) := by
  have held := related.touched key member
  unfold Held at held
  unfold keyedState
  cases working : stage.working[key]? with
  | none =>
      rw [working] at held
      rw [← held.1]
      cases current : currentState stage.native[key]? with
      | ok state => exact Or.inl ⟨state, rfl, rfl⟩
      | error message => exact Or.inr ⟨⟨_, rfl⟩, ⟨_, rfl⟩⟩
  | some found =>
      rw [working] at held
      cases found with
      | none => exact held.elim
      | some state =>
          obtain ⟨native, found, converted⟩ := held
          refine Or.inl ⟨some state, rfl, ?_⟩
          rw [found]
          exact current_state_of_to_native converted

theorem keyed_turn_related (label : String) {key : Row → Int64} (forward : RowForward V Row)
    (related : KeyedRelated before keys stage states) {row : Row} (member : key row ∈ keys) :
    SameTurn (KeyedRelated before keys) (keyedTurn label key forward stage row)
      (entityTurn key forward states row) := by
  unfold keyedTurn entityTurn
  rcases keyed_state_related label related member with ⟨state, one, two⟩ | ⟨⟨_, one⟩, ⟨_, two⟩⟩
  · rw [one, two]
    cases forwarded : forward state row with
    | error message => simp [bind, Except.bind, forwarded, SameTurn]
    | ok result =>
        obtain ⟨row', nextState⟩ := result
        obtain ⟨native, converted, _⟩ := to_native_ok nextState
        simp only [bind, Except.bind, forwarded, converted, pure, Except.pure, SameTurn, true_and]
        constructor
        · intro other within
          unfold Held
          by_cases same : key row = other
          · subst same
            simp [converted]
          · have kept := related.touched other within
            unfold Held at kept
            simpa [ExtTreeMap.getElem?_insert, ExtTreeMap.getElem?_erase, same] using kept
        · intro other outside
          have different : ¬ key row = other := fun same => outside (same ▸ member)
          simpa [ExtTreeMap.getElem?_insert, ExtTreeMap.getElem?_erase, different] using
            related.untouched other outside
  · rw [one, two]
    simp [bind, Except.bind, SameTurn]

theorem finish_entries (label : String) (entries : List (Int64 × Option (WorkingState V)))
    (distinct : (entries.map Prod.fst).Nodup) (all : ∀ entry ∈ entries, ∃ state, entry.2 = some state)
    (native : KeyedStates V) :
    ∃ out, entries.foldlM (finishEntry label) native = .ok out ∧
      (∀ key, key ∉ entries.map Prod.fst → out[key]? = native[key]?) ∧
      ∀ key state, (key, some state) ∈ entries →
        ∃ converted, toNative state = .ok converted ∧ out[key]? = some converted := by
  induction entries generalizing native with
  | nil => exact ⟨native, rfl, fun _ _ => rfl, fun _ _ none => nomatch none⟩
  | cons entry entries ih =>
      obtain ⟨key, value⟩ := entry
      obtain ⟨state, same⟩ := all (key, value) (by simp)
      simp only at same
      subst same
      obtain ⟨converted, made, _⟩ := to_native_ok state
      have fresh : key ∉ entries.map Prod.fst := (List.nodup_cons.mp distinct).1
      obtain ⟨out, run, others, found⟩ := ih (List.nodup_cons.mp distinct).2
        (fun entry member => all entry (List.mem_cons_of_mem _ member)) (native.insert key converted)
      refine ⟨out, ?_, ?_, ?_⟩
      · have first : finishEntry label native (key, some state) =
            .ok (native.insert key converted) := by
          simp [finishEntry, made, bind, Except.bind, Except.mapError, pure, Except.pure]
        rw [List.foldlM_cons, first]
        exact run
      · intro other absent
        simp only [List.map_cons, List.mem_cons, not_or] at absent
        rw [others other absent.2, ExtTreeMap.getElem?_insert]
        simp [Ne.symm absent.1]
      · intro other one member
        rcases List.mem_cons.mp member with here | later
        · cases here
          refine ⟨converted, made, ?_⟩
          rw [others key fresh]
          simp
        · exact found other one later

/-- The states a stage returns, laid over the canonical map, are the canonical map of the rows. -/
theorem keyed_finish_related (label : String) (related : KeyedRelated before keys stage states) :
    ∃ out, keyedFinish label stage = .ok out ∧ before ∪ out = states := by
  have members : ∀ key found, (key, found) ∈ stage.working.toList ↔
      stage.working[key]? = some found := by
    intro key found
    exact ExtTreeMap.mem_toList_iff_getElem?_eq_some
  have within : ∀ key found, stage.working[key]? = some found → key ∈ keys := by
    intro key found working
    by_contra outside
    rw [(related.untouched key outside).2.2] at working
    cases working
  obtain ⟨out, run, others, found⟩ := finish_entries label stage.working.toList
    (by
      rw [ExtTreeMap.map_fst_toList_eq_keys]
      exact ExtTreeMap.nodup_keys)
    (by
      rintro ⟨key, value⟩ member
      have working := (members key value).mp member
      have held := related.touched key (within key value working)
      unfold Held at held
      rw [working] at held
      cases value with
      | none => exact held.elim
      | some state => exact ⟨state, rfl⟩) stage.native
  refine ⟨out, run, ?_⟩
  apply ExtTreeMap.ext_getElem?
  intro key
  rw [ExtTreeMap.getElem?_union]
  have absent : stage.working[key]? = none → out[key]? = stage.native[key]? := by
    intro none
    apply others key
    intro member
    rw [ExtTreeMap.map_fst_toList_eq_keys, ExtTreeMap.mem_keys,
      ExtTreeMap.mem_iff_isSome_getElem?, none] at member
    cases member
  by_cases touched : key ∈ keys
  · have held := related.touched key touched
    unfold Held at held
    cases working : stage.working[key]? with
    | none =>
        rw [working] at held
        rw [absent working, held.1, held.2, Option.or_self]
    | some value =>
        rw [working] at held
        cases value with
        | none => exact held.elim
        | some state =>
            obtain ⟨native, same, converted⟩ := held
            obtain ⟨made, converted', stored⟩ := found key state ((members key _).mpr working)
            rw [converted] at converted'
            cases converted'
            rw [stored, same]
            rfl
  · obtain ⟨same, native, working⟩ := related.untouched key touched
    rw [absent working, native, same]
    rfl

theorem keyed_stage_run (label : String) {key : Row → Int64} (forward : RowForward V Row)
    (before : KeyedStates V) (batch : Nat) {rows outs : List Row} {keys : List Int64}
    (within : ∀ row ∈ rows, key row ∈ keys) {out : KeyedStates V}
    (run : (keyedStage label key forward (cloneStatesForKeys before keys) batch).run rows =
      .ok (outs, out)) :
    runTurns (entityTurn key forward) before rows = .ok (outs, before ∪ out) := by
  obtain ⟨stage, ⟨first, started, turned⟩, finished⟩ := stage_run_ok.mp run
  cases started
  have each : ∀ (stage : KeyedStageState V) (states : KeyedStates V) (row : Row),
      KeyedRelated before keys stage states → key row ∈ keys →
        SameTurn (KeyedRelated before keys) (keyedTurn label key forward stage row)
          (entityTurn key forward states row) :=
    fun _ _ _ related member => keyed_turn_related label forward related member
  obtain ⟨states, canonical, related, _⟩ := run_related (fun _ _ related => related) each
    (clone_related before keys) within turned
  obtain ⟨out', finish, merged⟩ := keyed_finish_related label related
  have same : keyedFinish label stage = .ok out := finished
  rw [finish] at same
  cases same
  rw [merged]
  exact canonical

theorem keyed_stage_run_of_entity (label : String) {key : Row → Int64} (forward : RowForward V Row)
    {before states : KeyedStates V} (batch : Nat) {rows outs : List Row} {keys : List Int64}
    (within : ∀ row ∈ rows, key row ∈ keys)
    (run : runTurns (entityTurn key forward) before rows = .ok (outs, states)) :
    ∃ out, (keyedStage label key forward (cloneStatesForKeys before keys) batch).run rows =
      .ok (outs, out) := by
  have each : ∀ (states : KeyedStates V) (stage : KeyedStageState V) (row : Row),
      KeyedRelated before keys stage states → key row ∈ keys →
        SameTurn (fun states stage => KeyedRelated before keys stage states)
          (entityTurn key forward states row) (keyedTurn label key forward stage row) :=
    fun _ _ _ related member => same_turn_symm (keyed_turn_related label forward related member)
  obtain ⟨stage, staged, related, _⟩ := run_related (fun _ _ related => related) each
    (clone_related before keys) within run
  obtain ⟨out, finish, _⟩ := keyed_finish_related label related
  exact ⟨out, stage_run_ok.mpr ⟨stage, ⟨_, rfl, staged⟩, finish⟩⟩

/-- The stage runs with the converted state; what it made itself converts back. -/
def GlobalBefore (state : Option (WorkingState V)) (native : Option (NativeRnnModuleState V)) :
    Prop := currentState native = .ok state

def GlobalAfter (label : String) (state : Option (WorkingState V))
    (native : Option (NativeRnnModuleState V)) : Prop :=
  currentState native = .ok state ∧ globalFinish label state = .ok native

theorem global_turn_related (label : String) (forward : RowForward V Row)
    {state : Option (WorkingState V)} {native : Option (NativeRnnModuleState V)}
    (related : GlobalBefore state native) (row : Row) :
    SameTurn (GlobalAfter label) (globalTurn forward state row) (sharedTurn forward native row) := by
  unfold globalTurn sharedTurn
  rw [show currentState native = .ok state from related]
  cases forwarded : forward state row with
  | error message => simp [bind, Except.bind, forwarded, SameTurn]
  | ok result =>
      obtain ⟨row', nextState⟩ := result
      obtain ⟨made, converted, _⟩ := to_native_ok nextState
      simp only [bind, Except.bind, forwarded, converted, pure, Except.pure, SameTurn, true_and]
      refine ⟨current_state_of_to_native converted, ?_⟩
      simp [globalFinish, converted, bind, Except.bind, Except.mapError, pure, Except.pure]

theorem global_start_ok {label : String} {native : Option (NativeRnnModuleState V)}
    {state : Option (WorkingState V)} :
    globalStart label native = .ok state ↔ GlobalBefore state native := by
  unfold globalStart GlobalBefore
  cases currentState native with
  | ok found => simp [Except.mapError]
  | error message => simp [Except.mapError]

theorem global_run (label : String) (forward : RowForward V Row)
    {native : Option (NativeRnnModuleState V)} {first last : Option (WorkingState V)}
    {rows outs : List Row} (some : rows ≠ []) (started : globalStart label native = .ok first)
    (run : runTurns (globalTurn forward) first rows = .ok (outs, last)) :
    ∃ native', runTurns (sharedTurn forward) native rows = .ok (outs, native') ∧
      globalFinish label last = .ok native' := by
  have each : ∀ (state : Option (WorkingState V)) (native : Option (NativeRnnModuleState V))
      (row : Row), GlobalBefore state native → True →
        SameTurn (GlobalAfter label) (globalTurn forward state row)
          (sharedTurn forward native row) :=
    fun _ _ row related _ => global_turn_related label forward related row
  obtain ⟨native', shared, _, after⟩ := run_related (fun _ _ after => after.1) each
    (global_start_ok.mp started) (fun _ _ => trivial) run
  exact ⟨native', shared, (after some).2⟩

theorem global_run_of_shared (label : String) (forward : RowForward V Row)
    {native native' : Option (NativeRnnModuleState V)} {rows outs : List Row} (some : rows ≠ [])
    (run : runTurns (sharedTurn forward) native rows = .ok (outs, native')) :
    ∃ first last, globalStart label native = .ok first ∧
      runTurns (globalTurn forward) first rows = .ok (outs, last) ∧
      globalFinish label last = .ok native' := by
  have converted : ∃ first, GlobalBefore first native := by
    cases rows with
    | nil => exact absurd rfl some
    | cons row rows =>
        obtain ⟨out, next, rest, turned, _⟩ := run_turns_cons_ok.mp run
        obtain ⟨first, current, _⟩ := bind_ok.mp turned
        exact ⟨first, current⟩
  obtain ⟨first, before⟩ := converted
  have each : ∀ (native : Option (NativeRnnModuleState V)) (state : Option (WorkingState V))
      (row : Row), GlobalBefore state native → True →
        SameTurn (fun native state => GlobalAfter label state native)
          (sharedTurn forward native row) (globalTurn forward state row) :=
    fun _ _ row related _ => same_turn_symm (global_turn_related label forward related row)
  obtain ⟨last, global, _, after⟩ := run_related (fun _ _ after => after.1) each before
    (fun _ _ => trivial) run
  exact ⟨first, last, global_start_ok.mpr before, global, (after some).2⟩

end RwkvSrs.PipelineStages
