import Mathlib.Logic.Basic

/-!
Fallible methods on a mutable receiver. A `Method` returns its result
together with the state it leaves behind, so that a failure keeps whatever was
already written; a panic is a failure of its own kind because it skips the
cleanup that follows an ordinary error. `Keeps` says what a method preserves
whether or not it succeeds, and `Lockstep` relates two methods run on related
states.
-/

namespace RwkvSrs.FallibleMethod

set_option autoImplicit false

inductive Failure where
  | error (message : String)
  | panic (message : String)
deriving DecidableEq

/-- A `&mut self` method returning a `Result`. -/
def Method (State Value : Type) := State → Except Failure Value × State

variable {State Whole Left Right Value Next Item : Type}

instance : Monad (Method State) where
  pure value := fun state => (.ok value, state)
  bind step next := fun state =>
    match step state with
    | (.ok value, reached) => next value reached
    | (.error failure, reached) => (.error failure, reached)

instance : LawfulMonad (Method State) := LawfulMonad.mk' _
  (by
    intro Value step
    funext state
    change (match step state with
      | (.ok value, reached) => (.ok value, reached)
      | (.error failure, reached) => (.error failure, reached)) = step state
    match step state with
    | (.ok value, reached) => rfl
    | (.error failure, reached) => rfl)
  (fun _ _ => rfl)
  (by
    intro First Second Third step next last
    funext state
    change (match (match step state with
        | (.ok value, reached) => next value reached
        | (.error failure, reached) => (.error failure, reached)) with
      | (.ok value, reached) => last value reached
      | (.error failure, reached) => (.error failure, reached)) = _
    match ran : step state with
    | (.ok value, reached) =>
        change _ = (match step state with
          | (.ok value, reached) => (next value >>= last) reached
          | (.error failure, reached) => (.error failure, reached))
        rw [ran]
        rfl
    | (.error failure, reached) =>
        change _ = (match step state with
          | (.ok value, reached) => (next value >>= last) reached
          | (.error failure, reached) => (.error failure, reached))
        rw [ran])

def current : Method State State := fun state => (.ok state, state)

def update (change : State → State) : Method State Unit := fun state => (.ok (), change state)

def fail (failure : Failure) : Method State Value := fun state => (.error failure, state)

/-- A computation that reads nothing of the state, such as a check of an argument. -/
def lift (result : Except String Value) : Method State Value := fun state =>
  match result with
  | .ok value => (.ok value, state)
  | .error message => (.error (.error message), state)

/-- Runs a method on one component of a larger state. -/
def onPart (part : Whole → State) (put : State → Whole → Whole) (step : Method State Value) :
    Method Whole Value := fun whole =>
  let (result, reached) := step (part whole)
  (result, put reached whole)

@[simp] theorem pure_apply (value : Value) (state : State) :
    (pure value : Method State Value) state = (.ok value, state) := rfl

@[simp] theorem current_apply (state : State) :
    (current : Method State State) state = (.ok state, state) := rfl

@[simp] theorem update_apply (change : State → State) (state : State) :
    update change state = (.ok (), change state) := rfl

@[simp] theorem fail_apply (failure : Failure) (state : State) :
    (fail failure : Method State Value) state = (.error failure, state) := rfl

theorem bind_apply (step : Method State Value) (next : Value → Method State Next)
    (state : State) :
    (step >>= next) state =
      match step state with
      | (.ok value, reached) => next value reached
      | (.error failure, reached) => (.error failure, reached) := rfl

theorem bind_of_ok {step : Method State Value} {next : Value → Method State Next}
    {state reached : State} {value : Value} (stepped : step state = (.ok value, reached)) :
    (step >>= next) state = next value reached := by
  rw [bind_apply, stepped]

theorem bind_of_error {step : Method State Value} {next : Value → Method State Next}
    {state reached : State} {failure : Failure} (stepped : step state = (.error failure, reached)) :
    (step >>= next) state = (.error failure, reached) := by
  rw [bind_apply, stepped]

theorem bind_ok_steps {step : Method State Value}
    {next : Value → Method State Next} {before after : State} {result : Next}
    (run : (step >>= next) before = (.ok result, after)) :
    ∃ value middle, step before = (.ok value, middle) ∧ next value middle = (.ok result, after) := by
  rw [bind_apply] at run
  split at run
  · rename_i value middle stepped
    exact ⟨value, middle, stepped, run⟩
  · cases run

@[simp] theorem lift_ok (value : Value) (state : State) :
    (lift (.ok value) : Method State Value) state = (.ok value, state) := rfl

@[simp] theorem lift_error (message : String) (state : State) :
    (lift (.error message) : Method State Value) state = (.error (.error message), state) := rfl

/-- A loop that pushes each result is a map. -/
theorem foldlM_push (step : Item → Method State Value) (made : List Value) (items : List Item) :
    items.foldlM (fun made item => do return made ++ [← step item]) made =
      (do return made ++ (← items.mapM step) : Method State (List Value)) := by
  induction items generalizing made with
  | nil => simp
  | cons item items ih =>
      simp only [List.foldlM_cons, List.mapM_cons, bind_assoc, pure_bind, ih, List.append_assoc,
        List.singleton_append]

theorem lift_ok_value {result : Except String Value} {before after : State} {value : Value}
    (run : (lift result : Method State Value) before = (.ok value, after)) :
    result = .ok value ∧ after = before := by
  cases result with
  | ok found =>
      cases run
      exact ⟨rfl, rfl⟩
  | error message => cases run

theorem foldlM_fails_at {turn : Value → Item → Method State Value} {done : List Item}
    (rest : List Item) {item : Item} {start value : Value} {before reached failed : State} {failure : Failure}
    (ran : done.foldlM turn start before = (.ok value, reached))
    (fails : turn value item reached = (.error failure, failed)) :
    (done ++ item :: rest).foldlM turn start before = (.error failure, failed) := by
  induction done generalizing start before with
  | nil =>
      cases ran
      exact bind_of_error fails
  | cons first done ih =>
      rw [List.foldlM_cons] at ran
      obtain ⟨next, middle, stepped, rest⟩ := bind_ok_steps ran
      rw [List.cons_append, List.foldlM_cons, bind_of_ok stepped]
      exact ih rest

theorem foldlM_ok_keeps (Kept : Value → Prop) {turn : Value → Item → Method State Value}
    {items : List Item}
    (each : ∀ value, ∀ item ∈ items, ∀ before next after, Kept value →
      turn value item before = (.ok next, after) → Kept next)
    {start result : Value} {before after : State} (kept : Kept start)
    (ran : items.foldlM turn start before = (.ok result, after)) : Kept result := by
  induction items generalizing start before with
  | nil =>
      cases ran
      exact kept
  | cons item items ih =>
      rw [List.foldlM_cons] at ran
      obtain ⟨value, middle, stepped, rest⟩ := bind_ok_steps ran
      have next := each start item (by simp) before value middle kept stepped
      exact ih (fun value other member => each value other (List.mem_cons_of_mem _ member)) next rest

/-- Every run of the method, successful or not, ends in a state related to the one it began in. -/
def Keeps (Kept : State → State → Prop) (step : Method State Value) : Prop :=
  ∀ state, Kept state (step state).2

section Keeps

variable {Kept : State → State → Prop}

theorem keeps_of_unchanged (same : ∀ state, Kept state state) {step : Method State Value}
    (unchanged : ∀ state, (step state).2 = state) : Keeps Kept step := by
  intro state
  rw [unchanged state]
  exact same state

theorem keeps_pure (same : ∀ state, Kept state state) (value : Value) :
    Keeps Kept (pure value) := same

theorem keeps_current (same : ∀ state, Kept state state) :
    Keeps Kept (current : Method State State) := same

theorem keeps_fail (same : ∀ state, Kept state state) (failure : Failure) :
    Keeps Kept (fail failure : Method State Value) := same

theorem keeps_lift (same : ∀ state, Kept state state) (result : Except String Value) :
    Keeps Kept (lift result) := by
  apply keeps_of_unchanged same
  intro state
  cases result <;> rfl

theorem keeps_lift_bind (same : ∀ state, Kept state state) {result : Except String Value}
    {next : Value → Method State Next}
    (rest : ∀ value, result = .ok value → Keeps Kept (next value)) :
    Keeps Kept (lift result >>= next) := by
  intro state
  cases result with
  | error message => exact same state
  | ok value => exact rest value rfl state

theorem keeps_update {change : State → State} (kept : ∀ state, Kept state (change state)) :
    Keeps Kept (update change) := kept

/-- The rest of a method has to keep what it keeps only after values the first step returns. -/
theorem keeps_bind_run (chain : ∀ first middle last, Kept first middle → Kept middle last →
      Kept first last)
    {step : Method State Value} {next : Value → Method State Next} (first : Keeps Kept step)
    (rest : ∀ state value reached, step state = (.ok value, reached) → Keeps Kept (next value)) :
    Keeps Kept (step >>= next) := by
  intro state
  have stepped := first state
  rw [bind_apply]
  match run : step state with
  | (.ok value, reached) =>
      rw [run] at stepped
      exact chain state reached _ stepped (rest state value reached run reached)
  | (.error failure, reached) =>
      rw [run] at stepped
      exact stepped

theorem keeps_bind (chain : ∀ first middle last, Kept first middle → Kept middle last →
      Kept first last)
    {step : Method State Value} {next : Value → Method State Next}
    (first : Keeps Kept step) (rest : ∀ value, Keeps Kept (next value)) :
    Keeps Kept (step >>= next) :=
  keeps_bind_run chain first fun _ value _ _ => rest value

theorem keeps_foldlM (same : ∀ state, Kept state state)
    (chain : ∀ first middle last, Kept first middle → Kept middle last → Kept first last)
    {turn : Value → Item → Method State Value} {items : List Item}
    (each : ∀ value, ∀ item ∈ items, Keeps Kept (turn value item)) (value : Value) :
    Keeps Kept (items.foldlM turn value) := by
  induction items generalizing value with
  | nil => exact keeps_pure same value
  | cons item items ih =>
      rw [List.foldlM_cons]
      apply keeps_bind chain (each value item (by simp))
      intro next
      exact ih (fun value item member => each value item (List.mem_cons_of_mem _ member)) next

end Keeps

/-- Run on related states, both methods return the same result and end in related states. -/
def Lockstep (Related : Left → Right → Prop) (left : Method Left Value)
    (right : Method Right Value) : Prop :=
  ∀ one other, Related one other →
    (left one).1 = (right other).1 ∧ Related (left one).2 (right other).2

section Lockstep

variable {Related : Left → Right → Prop}

theorem lockstep_pure (value : Value) : Lockstep Related (pure value) (pure value) :=
  fun _ _ related => ⟨rfl, related⟩

theorem lockstep_lift (result : Except String Value) :
    Lockstep Related (lift result) (lift result) := by
  intro one other related
  cases result <;> exact ⟨rfl, related⟩

theorem lockstep_update {change : Left → Left} {change' : Right → Right}
    (kept : ∀ one other, Related one other → Related (change one) (change' other)) :
    Lockstep Related (update change) (update change') :=
  fun one other related => ⟨rfl, kept one other related⟩

theorem lockstep_bind {left : Method Left Value} {right : Method Right Value}
    {next : Value → Method Left Next} {next' : Value → Method Right Next}
    (first : Lockstep Related left right)
    (rest : ∀ value, Lockstep Related (next value) (next' value)) :
    Lockstep Related (left >>= next) (right >>= next') := by
  intro one other related
  have stepped := first one other related
  rw [bind_apply, bind_apply]
  match runLeft : left one, runRight : right other with
  | (.ok value, reached), (.ok value', reached') =>
      rw [runLeft, runRight] at stepped
      cases stepped.1
      exact rest value reached reached' stepped.2
  | (.error failure, reached), (.error failure', reached') =>
      rw [runLeft, runRight] at stepped
      cases stepped.1
      exact ⟨rfl, stepped.2⟩
  | (.ok value, reached), (.error failure', reached') =>
      rw [runLeft, runRight] at stepped
      cases stepped.1
  | (.error failure, reached), (.ok value', reached') =>
      rw [runLeft, runRight] at stepped
      cases stepped.1

theorem lockstep_foldlM {turn : Value → Item → Method Left Value}
    {turn' : Value → Item → Method Right Value} {items : List Item}
    (each : ∀ value, ∀ item ∈ items, Lockstep Related (turn value item) (turn' value item))
    (value : Value) :
    Lockstep Related (items.foldlM turn value) (items.foldlM turn' value) := by
  induction items generalizing value with
  | nil => exact lockstep_pure value
  | cons item items ih =>
      rw [List.foldlM_cons, List.foldlM_cons]
      apply lockstep_bind (each value item (by simp))
      intro next
      exact ih (fun value item member => each value item (List.mem_cons_of_mem _ member)) next

end Lockstep

end RwkvSrs.FallibleMethod
