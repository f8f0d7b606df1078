import Mathlib.Data.List.Basic
import RwkvSrs.FallibleMethod

/-!
States restored field by field. Each slot reads one field of the input and
assigns it before the next slot is read, so a slot that cannot be read leaves
the earlier assignments in place. Such a run leaves the state as it was exactly
when every value assigned on the way was already there.
-/

namespace RwkvSrs.FieldRestore

open FallibleMethod

set_option autoImplicit false

/-- One field of a state and how it is read; the read may look at the state reached so far. -/
structure Slot (State Input : Type) where
  Value : Type
  read : Input → State → Except String Value
  get : State → Value
  put : Value → State → State

variable {State Input : Type}

def Slot.assign (slot : Slot State Input) (input : Input) : Method State Unit := fun state =>
  match slot.read input state with
  | .ok value => (.ok (), slot.put value state)
  | .error message => (.error (.error message), state)

def restoreFields (input : Input) : List (Slot State Input) → Method State Unit
  | [] => pure ()
  | slot :: slots => do
      slot.assign input
      restoreFields input slots

structure Slot.Lawful (slot : Slot State Input) : Prop where
  get_put : ∀ value state, slot.get (slot.put value state) = value
  put_get : ∀ state, slot.put (slot.get state) state = state

/-- Assigning the second field leaves the first alone. -/
def Independent (first second : Slot State Input) : Prop :=
  ∀ value state, first.get (second.put value state) = first.get state

/-- Whether the field can be read does not depend on the state. -/
def Slot.Steady (slot : Slot State Input) : Prop :=
  ∀ input state other, (slot.read input state).isOk = (slot.read input other).isOk

/-- Every field of the input can be read. -/
def WellFormed (slots : List (Slot State Input)) (input : Input) (state : State) : Prop :=
  ∀ slot ∈ slots, (slot.read input state).isOk

/-- Every field before the first that cannot be read already has the value it is read as. -/
def AgreesUntilFailure (input : Input) (state : State) : List (Slot State Input) → Prop
  | [] => True
  | slot :: slots =>
      match slot.read input state with
      | .ok value => value = slot.get state ∧ AgreesUntilFailure input state slots
      | .error _ => True

theorem restore_cons_ok {slot : Slot State Input} {slots : List (Slot State Input)} {input : Input}
    {state : State} {value : slot.Value} (found : slot.read input state = .ok value) :
    restoreFields input (slot :: slots) state = restoreFields input slots (slot.put value state) := by
  apply bind_of_ok
  unfold Slot.assign
  rw [found]

theorem restore_cons_error {slot : Slot State Input} {slots : List (Slot State Input)}
    {input : Input} {state : State} {message : String}
    (failed : slot.read input state = .error message) :
    restoreFields input (slot :: slots) state = (.error (.error message), state) := by
  apply bind_of_error
  unfold Slot.assign
  rw [failed]

theorem restore_keeps_field {slot : Slot State Input} {slots : List (Slot State Input)}
    (independent : ∀ other ∈ slots, Independent slot other) (input : Input) (state : State) :
    slot.get (restoreFields input slots state).2 = slot.get state := by
  induction slots generalizing state with
  | nil => rfl
  | cons other slots ih =>
      have rest := ih fun later member => independent later (List.mem_cons_of_mem _ member)
      cases found : other.read input state with
      | error message => rw [restore_cons_error found]
      | ok value =>
          rw [restore_cons_ok found, rest]
          exact independent other (by simp) value state

/-- A run of assignments leaves the state as it was exactly when each of them does. -/
theorem restore_unchanged_iff {slots : List (Slot State Input)}
    (lawful : ∀ slot ∈ slots, slot.Lawful) (independent : slots.Pairwise Independent)
    (input : Input) (state : State) :
    (restoreFields input slots state).2 = state ↔ AgreesUntilFailure input state slots := by
  induction slots with
  | nil => exact ⟨fun _ => trivial, fun _ => rfl⟩
  | cons slot slots ih =>
      have law := lawful slot (by simp)
      rw [List.pairwise_cons] at independent
      have rest := ih (fun other member => lawful other (List.mem_cons_of_mem _ member))
        independent.2
      unfold AgreesUntilFailure
      cases found : slot.read input state with
      | error message =>
          rw [restore_cons_error found]
          exact ⟨fun _ => trivial, fun _ => rfl⟩
      | ok value =>
          rw [restore_cons_ok found]
          constructor
          · intro unchanged
            have kept := restore_keeps_field independent.1 input (slot.put value state)
            rw [unchanged, law.get_put] at kept
            have same : slot.put value state = state := by rw [← kept, law.put_get]
            rw [same] at unchanged
            exact ⟨kept.symm, rest.mp unchanged⟩
          · intro agrees
            rw [agrees.1, law.put_get]
            exact rest.mpr agrees.2

theorem restore_ok_iff {slots : List (Slot State Input)} (steady : ∀ slot ∈ slots, slot.Steady)
    (input : Input) (state : State) :
    (restoreFields input slots state).1 = .ok () ↔ WellFormed slots input state := by
  have general : ∀ reached : State,
      (restoreFields input slots reached).1 = .ok () ↔ WellFormed slots input state := by
    induction slots with
    | nil =>
        intro reached
        exact ⟨fun _ => by simp [WellFormed], fun _ => rfl⟩
    | cons slot slots ih =>
        intro reached
        have rest := ih fun other member => steady other (List.mem_cons_of_mem _ member)
        have same := steady slot (by simp) input state reached
        unfold WellFormed
        rw [List.forall_mem_cons, same]
        cases found : slot.read input reached with
        | error message =>
            rw [restore_cons_error found]
            simp [Except.isOk, Except.toBool]
        | ok value =>
            rw [restore_cons_ok found]
            have readable : (Except.ok value : Except String slot.Value).isOk = true := rfl
            rw [readable, rest (slot.put value reached)]
            exact ⟨fun wellFormed => ⟨rfl, wellFormed⟩, fun both => both.2⟩
  exact general state

end RwkvSrs.FieldRestore
