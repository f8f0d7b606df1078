import RwkvSrs.FallibleMethod

/-!
Methods that never panic. A calm method, run in a safe state, returns a value
with a given property or an error, and leaves a safe state behind either way;
what it returns is what the rest of the method may rely on.
-/

namespace RwkvSrs.CalmMethods

open FallibleMethod

set_option autoImplicit false

variable {State Whole Value Next Item : Type}

structure Calm (safe : State → Prop) (good : Value → Prop) (step : Method State Value) : Prop where
  calm : ∀ state message, safe state → (step state).1 ≠ .error (.panic message)
  kept : ∀ state, safe state → safe (step state).2
  value : ∀ state found, safe state → (step state).1 = .ok found → good found

variable {safe : State → Prop} {good : Value → Prop} {last : Next → Prop}

theorem calm_pure {found : Value} (holds : good found) :
    Calm safe good (pure found : Method State Value) := by
  apply Calm.mk
  · intro state message _ panicked
    cases panicked
  · intro state kept
    exact kept
  · intro state returned _ same
    cases same
    exact holds

theorem calm_current : Calm safe safe (current : Method State State) := by
  apply Calm.mk
  · intro state message _ panicked
    cases panicked
  · intro state kept
    exact kept
  · intro state returned kept same
    cases same
    exact kept

theorem calm_lift {result : Except String Value} (holds : ∀ found, result = .ok found → good found) :
    Calm safe good (lift result : Method State Value) := by
  cases result with
  | ok found => exact calm_pure (holds found rfl)
  | error text =>
      apply Calm.mk
      · intro state message _ panicked
        cases panicked
      · intro state kept
        exact kept
      · intro state returned _ same
        cases same

def anything (_ : Value) : Prop := True

theorem calm_update {change : State → State} (keeps : ∀ state, safe state → safe (change state)) :
    Calm safe anything (update change) := by
  apply Calm.mk
  · intro state message _ panicked
    cases panicked
  · intro state kept
    exact keeps state kept
  · intro state returned _ _
    trivial

theorem calm_bind {step : Method State Value} {next : Value → Method State Next}
    (first : Calm safe good step) (rest : ∀ found, good found → Calm safe last (next found)) :
    Calm safe last (step >>= next) := by
  have split : ∀ state, safe state →
      (∃ found, good found ∧ safe (step state).2 ∧ (step >>= next) state = next found (step state).2) ∨
        ∃ text, (step >>= next) state = (.error (.error text), (step state).2) := by
    intro state kept
    have calm := first.calm state
    have value := first.value state
    rw [bind_apply]
    have reachedSafe := first.kept state kept
    cases ran : step state with
    | mk result reached =>
        rw [ran] at calm value reachedSafe
        cases result with
        | ok found => exact Or.inl ⟨found, value found kept rfl, reachedSafe, rfl⟩
        | error failure =>
            cases failure with
            | error text => exact Or.inr ⟨text, rfl⟩
            | panic message => exact absurd rfl (calm message kept)
  apply Calm.mk
  · intro state message kept
    rcases split state kept with ran | stopped
    · obtain ⟨found, holds, reachedSafe, same⟩ := ran
      rw [same]
      exact (rest found holds).calm _ message reachedSafe
    · obtain ⟨text, same⟩ := stopped
      rw [same]
      intro panicked
      cases panicked
  · intro state kept
    rcases split state kept with ran | stopped
    · obtain ⟨found, holds, reachedSafe, same⟩ := ran
      rw [same]
      exact (rest found holds).kept _ reachedSafe
    · obtain ⟨text, same⟩ := stopped
      rw [same]
      exact first.kept state kept
  · intro state returned kept
    rcases split state kept with ran | stopped
    · obtain ⟨found, holds, reachedSafe, same⟩ := ran
      rw [same]
      exact (rest found holds).value _ returned reachedSafe
    · obtain ⟨text, same⟩ := stopped
      rw [same]
      intro impossible
      cases impossible

theorem calm_return (found : Value) : Calm safe anything (pure found : Method State Value) :=
  calm_pure trivial

theorem calm_given (result : Except String Value) :
    Calm safe anything (lift result : Method State Value) := by
  apply calm_lift
  intro found _
  trivial

theorem calm_then {step : Method State Value} {next : Value → Method State Next}
    (first : Calm safe anything step) (rest : ∀ found, Calm safe last (next found)) :
    Calm safe last (step >>= next) := by
  apply calm_bind first
  intro found _
  exact rest found

/-- What every turn keeps of the value it carries. -/
theorem calm_foldlM {turn : Value → Item → Method State Value} {items : List Item}
    (each : ∀ carried, good carried → ∀ item ∈ items, Calm safe good (turn carried item))
    {start : Value} (holds : good start) : Calm safe good (items.foldlM turn start) := by
  induction items generalizing start with
  | nil => exact calm_pure holds
  | cons item items ih =>
      rw [List.foldlM_cons]
      apply calm_bind (each start holds item List.mem_cons_self)
      intro carried kept
      apply ih _ kept
      intro other otherKept later member
      exact each other otherKept later (List.mem_cons_of_mem item member)

theorem calm_on_part {part : Whole → State} {put : State → Whole → Whole} {whole : Whole → Prop}
    {step : Method State Value} (calm : Calm safe good step)
    (reads : ∀ state, whole state → safe (part state))
    (writes : ∀ state reached, whole state → safe reached → whole (put reached state)) :
    Calm whole good (onPart part put step) := by
  apply Calm.mk
  · intro state message kept
    exact calm.calm (part state) message (reads state kept)
  · intro state kept
    exact writes state _ kept (calm.kept (part state) (reads state kept))
  · intro state found kept
    exact calm.value (part state) found (reads state kept)

theorem calm_weaken {weaker : Value → Prop} {step : Method State Value} (calm : Calm safe good step)
    (implied : ∀ found, good found → weaker found) : Calm safe weaker step := by
  apply Calm.mk
  · exact calm.calm
  · exact calm.kept
  · intro state found kept returned
    exact implied found (calm.value state found kept returned)

end RwkvSrs.CalmMethods
