import Mathlib.Data.List.Basic
import Mathlib.Data.List.Forall2
import RwkvSrs.ResultSteps

/-!
Sequential machines that turn one row at a time into an output row and a next
state, and may fail. A run over a list splits where the list does, running two
machines one after the other over the whole list is the same as passing each
row through both, and related machines have related runs.
-/

namespace RwkvSrs.TurnRuns

open RwkvSrs.ResultSteps

set_option autoImplicit false

variable {Row Middle Out Failure State Next Other : Type}

abbrev Turn (Row Out Failure State : Type) := State → Row → Except Failure (Out × State)

def runTurns (turn : Turn Row Out Failure State) :
    State → List Row → Except Failure (List Out × State)
  | state, [] => .ok ([], state)
  | state, row :: rows => do
      let (out, next) ← turn state row
      let (outs, last) ← runTurns turn next rows
      return (out :: outs, last)

variable {turn : Turn Row Out Failure State}

theorem run_turns_cons_ok {state last : State} {row : Row} {rows : List Row} {outs : List Out} :
    runTurns turn state (row :: rows) = .ok (outs, last) ↔
      ∃ out next rest, turn state row = .ok (out, next) ∧
        runTurns turn next rows = .ok (rest, last) ∧ outs = out :: rest := by
  rw [runTurns]
  constructor
  · intro run
    obtain ⟨⟨out, next⟩, turned, run⟩ := bind_ok.mp run
    obtain ⟨⟨rest, final⟩, later, same⟩ := bind_ok.mp run
    cases same
    exact ⟨out, next, rest, turned, later, rfl⟩
  · rintro ⟨out, next, rest, turned, later, rfl⟩
    exact bind_ok.mpr ⟨(out, next), turned, bind_ok.mpr ⟨(rest, last), later, rfl⟩⟩

theorem run_turns_append_ok {state last : State} {rows later : List Row} {outs : List Out} :
    runTurns turn state (rows ++ later) = .ok (outs, last) ↔
      ∃ first middle second, runTurns turn state rows = .ok (first, middle) ∧
        runTurns turn middle later = .ok (second, last) ∧ outs = first ++ second := by
  induction rows generalizing state outs with
  | nil =>
      constructor
      · intro run
        exact ⟨[], state, outs, rfl, run, rfl⟩
      · rintro ⟨first, middle, second, none, run, same⟩
        cases none
        rw [same]
        exact run
  | cons row rows ih =>
      rw [List.cons_append]
      constructor
      · intro run
        obtain ⟨out, next, rest, turned, run, same⟩ := run_turns_cons_ok.mp run
        obtain ⟨first, middle, second, before, after, joined⟩ := ih.mp run
        refine ⟨out :: first, middle, second, ?_, after, by rw [same, joined]; rfl⟩
        exact run_turns_cons_ok.mpr ⟨out, next, first, turned, before, rfl⟩
      · rintro ⟨first, middle, second, before, after, same⟩
        obtain ⟨out, next, rest, turned, run, firstSame⟩ := run_turns_cons_ok.mp before
        have joined := ih.mpr ⟨rest, middle, second, run, after, rfl⟩
        apply run_turns_cons_ok.mpr
        refine ⟨out, next, rest ++ second, turned, joined, ?_⟩
        rw [same, firstSame]
        rfl

/-- A run that succeeds on a list has succeeded on what the list starts with. -/
theorem run_turns_of_start {state last : State} {rows all : List Row} {outs : List Out}
    (run : runTurns turn state all = .ok (outs, last)) (start : rows <+: all) :
    ∃ first middle, runTurns turn state rows = .ok (first, middle) ∧ first <+: outs := by
  obtain ⟨later, rfl⟩ := start
  obtain ⟨first, middle, second, before, _, rfl⟩ := run_turns_append_ok.mp run
  exact ⟨first, middle, before, List.prefix_append first second⟩

/-- What each turn establishes between its row and its output holds pairwise along the run. -/
theorem run_turns_pairs {Pair : Row → Out → Prop}
    (each : ∀ state row out next, turn state row = .ok (out, next) → Pair row out)
    {state last : State} {rows : List Row} {outs : List Out}
    (run : runTurns turn state rows = .ok (outs, last)) : List.Forall₂ Pair rows outs := by
  induction rows generalizing state outs with
  | nil =>
      cases run
      exact List.Forall₂.nil
  | cons row rows ih =>
      obtain ⟨out, next, rest, turned, later, rfl⟩ := run_turns_cons_ok.mp run
      exact List.Forall₂.cons (each state row out next turned) (ih later)

theorem run_turns_length {state last : State} {rows : List Row} {outs : List Out}
    (run : runTurns turn state rows = .ok (outs, last)) : outs.length = rows.length :=
  (List.Forall₂.length_eq (run_turns_pairs (fun _ _ _ _ _ => trivial) run)).symm

def composeTurns (first : Turn Row Middle Failure State) (second : Turn Middle Out Failure Next) :
    Turn Row Out Failure (State × Next) := fun states row => do
  let (middle, state) ← first states.1 row
  let (out, next) ← second states.2 middle
  return (out, (state, next))

variable {first : Turn Row Middle Failure State} {second : Turn Middle Out Failure Next}

theorem compose_turns_ok {states last : State × Next} {row : Row} {out : Out} :
    composeTurns first second states row = .ok (out, last) ↔
      ∃ middle, first states.1 row = .ok (middle, last.1) ∧
        second states.2 middle = .ok (out, last.2) := by
  constructor
  · intro run
    obtain ⟨⟨middle, state⟩, one, run⟩ := bind_ok.mp run
    obtain ⟨⟨made, next⟩, two, same⟩ := bind_ok.mp run
    cases same
    exact ⟨middle, one, two⟩
  · rintro ⟨middle, one, two⟩
    exact bind_ok.mpr ⟨(middle, last.1), one, bind_ok.mpr ⟨(out, last.2), two, rfl⟩⟩

/-- Stage by stage over the whole list, or row by row through both stages. -/
theorem run_compose_turns {states last : State × Next} {rows : List Row} {outs : List Out} :
    runTurns (composeTurns first second) states rows = .ok (outs, last) ↔
      ∃ middles, runTurns first states.1 rows = .ok (middles, last.1) ∧
        runTurns second states.2 middles = .ok (outs, last.2) := by
  induction rows generalizing states outs with
  | nil =>
      constructor
      · intro run
        cases run
        exact ⟨[], rfl, rfl⟩
      · rintro ⟨middles, one, two⟩
        obtain ⟨state, next⟩ := last
        cases one
        cases two
        rfl
  | cons row rows ih =>
      constructor
      · intro run
        obtain ⟨out, next, rest, turned, later, rfl⟩ := run_turns_cons_ok.mp run
        obtain ⟨middle, one, two⟩ := compose_turns_ok.mp turned
        obtain ⟨middles, firsts, seconds⟩ := ih.mp later
        refine ⟨middle :: middles, ?_, ?_⟩
        · exact run_turns_cons_ok.mpr ⟨middle, next.1, middles, one, firsts, rfl⟩
        · exact run_turns_cons_ok.mpr ⟨out, next.2, rest, two, seconds, rfl⟩
      · rintro ⟨middles, firsts, seconds⟩
        obtain ⟨middle, state, middles, one, ones, rfl⟩ := run_turns_cons_ok.mp firsts
        obtain ⟨out, next, rest, two, twos, rfl⟩ := run_turns_cons_ok.mp seconds
        apply run_turns_cons_ok.mpr
        refine ⟨out, (state, next), rest, ?_, ih.mpr ⟨middles, ones, twos⟩, rfl⟩
        exact compose_turns_ok.mpr ⟨middle, one, two⟩

/-- Both fail, or both succeed with the same output and related states. -/
def SameTurn (Related : State → Other → Prop) :
    Except Failure (Out × State) → Except Failure (Out × Other) → Prop
  | .ok (out, state), .ok (out', other) => out = out' ∧ Related state other
  | .error _, .error _ => True
  | _, _ => False

theorem same_turn_ok {Related : State → Other → Prop} {one : Except Failure (Out × State)}
    {two : Except Failure (Out × Other)} {out : Out} {state : State} (same : SameTurn Related one two)
    (done : one = .ok (out, state)) : ∃ other, two = .ok (out, other) ∧ Related state other := by
  subst done
  match two, same with
  | .ok (_, other), same => exact ⟨other, by rw [same.1], same.2⟩

theorem same_turn_symm {Related : State → Other → Prop} {one : Except Failure (Out × State)}
    {two : Except Failure (Out × Other)} (same : SameTurn Related one two) :
    SameTurn (fun other state => Related state other) two one := by
  match one, two, same with
  | .ok (_, _), .ok (_, _), same => exact ⟨same.1.symm, same.2⟩
  | .error _, .error _, _ => trivial

/-- Turns from states related by `Before` end in states related by `After`, which holds at least
as much; so do runs that make a turn. -/
theorem run_related {Before After : State → Other → Prop} {other : Turn Row Out Failure Other}
    {Good : Row → Prop} (keeps : ∀ state state', After state state' → Before state state')
    (each : ∀ state state' row, Before state state' → Good row →
      SameTurn After (turn state row) (other state' row))
    {state last : State} {state' : Other} {rows : List Row} {outs : List Out}
    (related : Before state state') (good : ∀ row ∈ rows, Good row)
    (run : runTurns turn state rows = .ok (outs, last)) :
    ∃ last', runTurns other state' rows = .ok (outs, last') ∧ Before last last' ∧
      (rows ≠ [] → After last last') := by
  induction rows generalizing state state' outs with
  | nil =>
      cases run
      exact ⟨state', rfl, related, fun some => absurd rfl some⟩
  | cons row rows ih =>
      obtain ⟨out, next, rest, turned, later, rfl⟩ := run_turns_cons_ok.mp run
      obtain ⟨next', turned', relatedNext⟩ :=
        same_turn_ok (each state state' row related (good row (by simp))) turned
      obtain ⟨last', run', relatedLast, afterLast⟩ := ih (keeps next next' relatedNext)
        (fun row member => good row (List.mem_cons_of_mem _ member)) later
      refine ⟨last', run_turns_cons_ok.mpr ⟨out, next', rest, turned', run', rfl⟩, relatedLast, ?_⟩
      intro _
      cases rows with
      | nil =>
          cases later
          cases run'
          exact relatedNext
      | cons row rows => exact afterLast (List.cons_ne_nil row rows)

end RwkvSrs.TurnRuns
