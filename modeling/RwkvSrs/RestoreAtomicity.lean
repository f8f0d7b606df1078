import RwkvSrs.RuntimeRestore

/-!
When a failed restore changes nothing. The binary checkpoint, the identity
encodings and the generator are always restored whole or not at all. The three
restores that assign field by field leave the runtime alone exactly when they
are refused for a live session, when every field of the snapshot can be read,
or when the fields before the first unreadable one say what the runtime already
holds.
-/

namespace RwkvSrs.RestoreAtomicity

open Std FallibleMethod FieldRestore DeterministicState NativeRnnState CheckpointReader
open SnapshotValues RuntimeRestore ReviewMappings

set_option autoImplicit false

variable {Frame Session : Type}

inductive RestoreCall where
  | checkpointBin (file : CheckpointFile) (lists : IdentityLists)
  | snapshot (snapshot : Snapshot)
  | recurrentStateKeys (snapshot : Snapshot)
  | idEncodingSnapshot (snapshot : Snapshot)
  | recurrentStateLists (snapshot : Snapshot)
  | torchRngState (rngState : SnapshotValue)

def RestoreCall.run : RestoreCall → Method (RestoredRuntime Frame Session) Unit
  | .checkpointBin file lists => restoreCheckpointBin file lists
  | .snapshot given => restoreSnapshot given
  | .recurrentStateKeys given => restoreRecurrentStateKeys given
  | .idEncodingSnapshot given => restoreIdEncodingSnapshot given
  | .recurrentStateLists given => restoreRecurrentStateLists given
  | .torchRngState rngState => restoreTorchRngState rngState

/-- The feature state, the recurrent states and the loaded scope are what they were. -/
structure Untouched (before after : RestoredRuntime Frame Session) : Prop where
  deterministic : after.deterministic = before.deterministic
  rnn : after.rnn = before.rnn
  loadedScope : after.loadedScope = before.loadedScope

theorem Untouched.refl (runtime : RestoredRuntime Frame Session) : Untouched runtime runtime :=
  ⟨rfl, rfl, rfl⟩

theorem Untouched.trans {first middle last : RestoredRuntime Frame Session}
    (before : Untouched first middle) (after : Untouched middle last) : Untouched first last :=
  ⟨after.deterministic.trans before.deterministic, after.rnn.trans before.rnn,
    after.loadedScope.trans before.loadedScope⟩

/-- The call succeeds or changes nothing. -/
def AllOrNothing (step : Method (RestoredRuntime Frame Session) Unit)
    (runtime : RestoredRuntime Frame Session) : Prop :=
  (step runtime).1 = .ok () ∨ Untouched runtime (step runtime).2

def LiveSessionActive (runtime : RestoredRuntime Frame Session) : Prop :=
  runtime.liveSession.isSome ∨ runtime.pendingLiveSession.isSome

/-- Every field can be read, or those before the first that cannot are already in place. -/
def Harmless {State : Type} (slots : List (Slot State Snapshot)) (snapshot : Snapshot)
    (state : State) : Prop :=
  WellFormed slots snapshot state ∨ AgreesUntilFailure snapshot state slots

def RestoreCall.Harmless (runtime : RestoredRuntime Frame Session) : RestoreCall → Prop
  | .snapshot given =>
      LiveSessionActive runtime ∨
        RestoreAtomicity.Harmless featureStateSlots given runtime.deterministic
  | .recurrentStateKeys given =>
      LiveSessionActive runtime ∨
        RestoreAtomicity.Harmless recurrentKeySlots given runtime.deterministic
  | .recurrentStateLists given =>
      LiveSessionActive runtime ∨ RestoreAtomicity.Harmless recurrentListSlots given runtime.rnn
  | .checkpointBin _ _ | .idEncodingSnapshot _ | .torchRngState _ => True

theorem no_live_session_unchanged (operation : String) (runtime : RestoredRuntime Frame Session) :
    (requireNoLiveSession operation runtime).2 = runtime := by
  unfold requireNoLiveSession
  split <;> rfl

theorem refused_while_live {operation : String}
    {rest : Unit → Method (RestoredRuntime Frame Session) Unit}
    {runtime : RestoredRuntime Frame Session} (live : LiveSessionActive runtime) :
    ((requireNoLiveSession operation >>= rest) runtime).2 = runtime := by
  have blocked : (runtime.liveSession.isNone && runtime.pendingLiveSession.isNone) = false := by
    rcases live with live | live <;> simp [Option.isNone_eq_false_iff.mpr live]
  have failed : requireNoLiveSession operation runtime = (.error (.error (operation ++
      " cannot mutate the runtime while a live prediction session " ++
      "is active; use the corresponding live-session operation or close the session first")),
      runtime) := by
    unfold requireNoLiveSession
    rw [blocked]
    rfl
  rw [bind_of_error failed]

theorem allowed_without_session {operation : String}
    {rest : Unit → Method (RestoredRuntime Frame Session) Unit}
    {runtime : RestoredRuntime Frame Session} (idle : ¬LiveSessionActive runtime) :
    (requireNoLiveSession operation >>= rest) runtime = rest () runtime := by
  have free : (runtime.liveSession.isNone && runtime.pendingLiveSession.isNone) = true := by
    unfold LiveSessionActive at idle
    rw [not_or] at idle
    simpa using idle
  have passed : requireNoLiveSession operation runtime = (.ok (), runtime) := by
    unfold requireNoLiveSession
    rw [free]
    rfl
  rw [bind_of_ok passed]

/-- What holds of the rest of a restore holds of it behind the check for a live session. -/
theorem all_or_nothing_guarded {operation : String}
    {rest : Unit → Method (RestoredRuntime Frame Session) Unit}
    {runtime : RestoredRuntime Frame Session} :
    AllOrNothing (requireNoLiveSession operation >>= rest) runtime ↔
      LiveSessionActive runtime ∨ AllOrNothing (rest ()) runtime := by
  by_cases live : LiveSessionActive runtime
  · have unchanged : Untouched runtime ((requireNoLiveSession operation >>= rest) runtime).2 := by
      rw [refused_while_live live]
      exact Untouched.refl runtime
    exact ⟨fun _ => .inl live, fun _ => .inr unchanged⟩
  · have same : AllOrNothing (requireNoLiveSession operation >>= rest) runtime ↔
        AllOrNothing (rest ()) runtime := by
      unfold AllOrNothing
      rw [allowed_without_session live]
    rw [same]
    exact ⟨.inr, fun either => either.resolve_left live⟩

/-- A value computed aside: without one the runtime stays as it is. -/
theorem all_or_nothing_lift {Value : Type} {result : Except String Value}
    {rest : Value → Method (RestoredRuntime Frame Session) Unit}
    {runtime : RestoredRuntime Frame Session}
    (each : ∀ value, AllOrNothing (rest value) runtime) :
    AllOrNothing (lift result >>= rest) runtime := by
  cases result with
  | ok value => exact each value
  | error message => exact .inr (Untouched.refl runtime)

theorem all_or_nothing_update (change : RestoredRuntime Frame Session → RestoredRuntime Frame Session)
    (runtime : RestoredRuntime Frame Session) : AllOrNothing (update change) runtime := .inl rfl

theorem all_or_nothing_then {step : Method (RestoredRuntime Frame Session) Unit}
    {change : RestoredRuntime Frame Session → RestoredRuntime Frame Session}
    {runtime : RestoredRuntime Frame Session} (atomic : AllOrNothing step runtime) :
    AllOrNothing (step >>= fun _ => update change) runtime := by
  unfold AllOrNothing at atomic ⊢
  rw [bind_apply]
  match ran : step runtime with
  | (.ok (), reached) => exact .inl rfl
  | (.error failure, reached) =>
      rw [ran] at atomic
      exact atomic.imp (fun impossible => by cases impossible) id

theorem clear_all_or_nothing {step : Method (RestoredRuntime Frame Session) Unit}
    {runtime : RestoredRuntime Frame Session} :
    AllOrNothing (clearUndoStack >>= fun _ => step) runtime ↔
      AllOrNothing step { runtime with undoStack := [] } := by
  have cleared : Untouched runtime { runtime with undoStack := [] } := ⟨rfl, rfl, rfl⟩
  have uncleared : Untouched { runtime with undoStack := [] } runtime := ⟨rfl, rfl, rfl⟩
  constructor
  · intro atomic
    exact atomic.imp id uncleared.trans
  · intro atomic
    exact atomic.imp id cleared.trans

theorem checkpoint_all_or_nothing (file : CheckpointFile) (lists : IdentityLists)
    (runtime : RestoredRuntime Frame Session) :
    AllOrNothing (restoreCheckpointBin file lists) runtime := by
  apply all_or_nothing_guarded.mpr
  apply Or.inr
  apply all_or_nothing_lift
  intro scope
  apply all_or_nothing_then
  apply all_or_nothing_lift
  intro bytes
  apply all_or_nothing_lift
  rintro ⟨version, cursor⟩
  by_cases legacy : version = legacyCheckpointBinVersion
  · simp only [legacy, if_true]
    have read : AllOrNothing (readRuntimeStateBinV1 cursor) runtime := by
      apply all_or_nothing_lift
      rintro ⟨contents, reached⟩
      apply all_or_nothing_lift
      intro idRng
      apply all_or_nothing_update
    cases scope with
    | none => exact @all_or_nothing_then _ _ _ id _ read
    | some scope => exact all_or_nothing_then read
  · simp only [legacy, if_false]
    apply all_or_nothing_lift
    rintro ⟨contents, reached⟩
    apply all_or_nothing_lift
    intro idRng
    apply all_or_nothing_update

theorem field_slot_steady {State Value : Type} (read : Snapshot → PyResult Value)
    (get : State → Value) (put : Value → State → State) : (fieldSlot read get put).Steady :=
  fun _ _ _ => rfl

theorem card_count_steady : cardCountSlot.Steady := by
  intro snapshot state other
  change (shown (cardCountField snapshot state)).isOk = (shown (cardCountField snapshot other)).isOk
  unfold cardCountField
  by_cases stored : contains snapshot "card_count"
  · simp [stored]
  · simp only [stored]
    rfl

theorem feature_slots_steady : ∀ slot ∈ featureStateSlots, slot.Steady := by
  simp only [featureStateSlots, List.forall_mem_cons, card_count_steady, field_slot_steady, true_and]
  simp

theorem feature_slots_lawful : ∀ slot ∈ featureStateSlots, slot.Lawful := by
  simp only [featureStateSlots, List.forall_mem_cons, List.not_mem_nil, false_imp_iff, implies_true,
    and_true]
  repeat' apply And.intro
  all_goals exact ⟨fun _ _ => rfl, fun _ => rfl⟩

theorem feature_slots_independent : featureStateSlots.Pairwise Independent := by
  simp only [featureStateSlots, List.pairwise_cons, List.forall_mem_cons, List.not_mem_nil,
    false_imp_iff, implies_true, and_true, List.Pairwise.nil]
  repeat' apply And.intro
  all_goals exact fun _ _ => rfl

theorem key_slots_steady : ∀ slot ∈ recurrentKeySlots, slot.Steady := by
  simp only [recurrentKeySlots, keySlot, List.forall_mem_cons, field_slot_steady, true_and]
  simp

theorem key_slots_lawful : ∀ slot ∈ recurrentKeySlots, slot.Lawful := by
  simp only [recurrentKeySlots, List.forall_mem_cons, List.not_mem_nil, false_imp_iff, implies_true,
    and_true]
  repeat' apply And.intro
  all_goals exact ⟨fun _ _ => rfl, fun _ => rfl⟩

theorem key_slots_independent : recurrentKeySlots.Pairwise Independent := by
  simp only [recurrentKeySlots, List.pairwise_cons, List.forall_mem_cons, List.not_mem_nil,
    false_imp_iff, implies_true, and_true, List.Pairwise.nil]
  repeat' apply And.intro
  all_goals exact fun _ _ => rfl

theorem list_slots_steady : ∀ slot ∈ recurrentListSlots, slot.Steady := by
  simp only [recurrentListSlots, stateMapSlot, List.forall_mem_cons, field_slot_steady, true_and]
  simp

theorem state_map_slot_lawful (field : String) (entity : EntityModule) :
    (stateMapSlot field entity).Lawful where
  get_put (value : StateMap) rnn := by
    change @Function.update EntityModule (fun _ => StateMap) _ rnn.states entity value entity = value
    simp
  put_get rnn := by
    change { rnn with states := Function.update rnn.states entity (rnn.states entity) } = rnn
    rw [Function.update_eq_self]

theorem state_map_slots_independent (field other : String) {first second : EntityModule}
    (differ : first ≠ second) :
    Independent (stateMapSlot field first) (stateMapSlot other second) := by
  intro (value : StateMap) rnn
  exact Function.update_of_ne differ value rnn.states

theorem list_slots_lawful : ∀ slot ∈ recurrentListSlots, slot.Lawful := by
  simp only [recurrentListSlots, List.forall_mem_cons, state_map_slot_lawful, true_and,
    List.not_mem_nil, false_imp_iff, implies_true, and_true]
  exact ⟨fun _ _ => rfl, fun _ => rfl⟩

theorem list_slots_independent : recurrentListSlots.Pairwise Independent := by
  simp only [recurrentListSlots, List.pairwise_cons, List.forall_mem_cons, List.not_mem_nil,
    false_imp_iff, implies_true, and_true, List.Pairwise.nil]
  repeat' apply And.intro
  all_goals first
    | exact state_map_slots_independent _ _ (by decide)
    | exact fun _ _ => rfl

/-- A run over independent fields fails without a trace exactly when it is harmless. -/
theorem restore_fields_all_or_nothing {State : Type} {slots : List (Slot State Snapshot)}
    (steady : ∀ slot ∈ slots, slot.Steady) (lawful : ∀ slot ∈ slots, slot.Lawful)
    (independent : slots.Pairwise Independent) (snapshot : Snapshot) (state : State) :
    ((restoreFields snapshot slots state).1 = .ok () ∨
        (restoreFields snapshot slots state).2 = state) ↔ Harmless slots snapshot state := by
  unfold Harmless
  rw [restore_ok_iff steady, restore_unchanged_iff lawful independent]

theorem deterministic_all_or_nothing {step : Method SnapshotFeatures Unit}
    {runtime : RestoredRuntime Frame Session} :
    AllOrNothing (onDeterministic step) runtime ↔
      (step runtime.deterministic).1 = .ok () ∨
        (step runtime.deterministic).2 = runtime.deterministic := by
  constructor
  · intro atomic
    exact atomic.imp id Untouched.deterministic
  · intro atomic
    exact atomic.imp id fun unchanged => ⟨unchanged, rfl, rfl⟩

theorem rnn_all_or_nothing {step : Method SnapshotRnn Unit}
    {runtime : RestoredRuntime Frame Session} :
    AllOrNothing (onRnn step) runtime ↔
      (step runtime.rnn).1 = .ok () ∨ (step runtime.rnn).2 = runtime.rnn := by
  constructor
  · intro atomic
    exact atomic.imp id Untouched.rnn
  · intro atomic
    exact atomic.imp id fun unchanged => ⟨rfl, unchanged, rfl⟩

/-- The flat states are cleared only after every list is assigned. -/
theorem recurrent_lists_all_or_nothing (snapshot : Snapshot) (rnn : SnapshotRnn) :
    ((restoreRecurrentLists snapshot rnn).1 = .ok () ∨
        (restoreRecurrentLists snapshot rnn).2 = rnn) ↔
      (restoreFields snapshot recurrentListSlots rnn).1 = .ok () ∨
        (restoreFields snapshot recurrentListSlots rnn).2 = rnn := by
  unfold restoreRecurrentLists
  rw [bind_apply]
  match ran : restoreFields snapshot recurrentListSlots rnn with
  | (.ok (), reached) => exact ⟨fun _ => .inl rfl, fun _ => .inl rfl⟩
  | (.error failure, reached) => simp

/-- A restore that fails changes nothing, except where fields were assigned on the way. -/
theorem failed_restore_changes_nothing_iff (call : RestoreCall)
    (runtime : RestoredRuntime Frame Session) :
    AllOrNothing call.run runtime ↔ call.Harmless runtime := by
  cases call with
  | checkpointBin file lists =>
      exact ⟨fun _ => trivial, fun _ => checkpoint_all_or_nothing file lists runtime⟩
  | snapshot given =>
      have fields := restore_fields_all_or_nothing feature_slots_steady feature_slots_lawful
        feature_slots_independent given runtime.deterministic
      exact all_or_nothing_guarded.trans
        (or_congr_right (clear_all_or_nothing.trans (deterministic_all_or_nothing.trans fields)))
  | recurrentStateKeys given =>
      have fields := restore_fields_all_or_nothing key_slots_steady key_slots_lawful
        key_slots_independent given runtime.deterministic
      exact all_or_nothing_guarded.trans
        (or_congr_right (clear_all_or_nothing.trans (deterministic_all_or_nothing.trans fields)))
  | recurrentStateLists given =>
      have fields := restore_fields_all_or_nothing list_slots_steady list_slots_lawful
        list_slots_independent given runtime.rnn
      have lists := (recurrent_lists_all_or_nothing given runtime.rnn).trans fields
      exact all_or_nothing_guarded.trans
        (or_congr_right (clear_all_or_nothing.trans (rnn_all_or_nothing.trans lists)))
  | idEncodingSnapshot given =>
      have atomic : AllOrNothing (restoreIdEncodingSnapshot given) runtime := by
        apply all_or_nothing_guarded.mpr
        apply Or.inr
        apply clear_all_or_nothing.mpr
        apply deterministic_all_or_nothing.mpr
        unfold restoreFeatureStateIdEncodings
        cases shown (idEncodingsFromSnapshot given) with
        | ok idEncodings => exact .inl rfl
        | error message => exact .inr rfl
      exact ⟨fun _ => trivial, fun _ => atomic⟩
  | torchRngState given =>
      have atomic : AllOrNothing (restoreTorchRngState given) runtime := by
        apply all_or_nothing_guarded.mpr
        apply Or.inr
        apply all_or_nothing_lift
        intro bytes
        apply all_or_nothing_lift
        intro idRng
        exact .inl rfl
      exact ⟨fun _ => trivial, fun _ => atomic⟩

def freshRuntime : RestoredRuntime Unit Unit where
  deterministic := {
    firstDayOffset := none
    prevDayOffset := none
    cardSet := ∅
    cardCount := 0
    lastNewCards := ∅
    i := 0
    lastI := ∅
    today := ⟨0xBFF0000000000000⟩
    todayReviews := 0
    todayNewCards := 0
    card2firstDayOffset := ∅
    card2elapsedDaysCumulative := ∅
    card2elapsedSecondsCumulative := ∅
    idEncodings := emptyIdEncodings
    recurrentStateKeys := RecurrentStateKeys.empty
    idRng := TorchRng.seedFromU64 5489 }
  rnn := ⟨fun _ => ∅, none, fun _ => ∅, none⟩
  undoStack := []
  undoLimit := 30
  loadedScope := none
  liveSession := none
  pendingLiveSession := none

def truncatedSnapshot : Snapshot :=
  [("first_day_offset", .scalar .none), ("prev_day_offset", .scalar .none),
    ("card_set", .list [.scalar (.int 7)])]

/-- The snapshot ends before `last_new_cards`; the card set and its count stay assigned. -/
theorem truncated_snapshot_keeps_card_set :
    ¬∀ (call : RestoreCall) (runtime : RestoredRuntime Unit Unit), AllOrNothing call.run runtime := by
  intro claimed
  have failed : (restoreSnapshot truncatedSnapshot freshRuntime).1 =
      .error (.error "KeyError: 'last_new_cards'") := by rfl
  have assigned : (restoreSnapshot truncatedSnapshot freshRuntime).2.deterministic.cardCount = 1 := by
    rfl
  rcases claimed (.snapshot truncatedSnapshot) freshRuntime with succeeded | untouched
  · have contradiction := failed.symm.trans succeeded
    cases contradiction
  · have kept := congrArg FeatureState.cardCount untouched.deterministic
    have contradiction := assigned.symm.trans kept
    cases contradiction

end RwkvSrs.RestoreAtomicity
