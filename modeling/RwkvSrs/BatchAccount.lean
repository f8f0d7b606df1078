import Mathlib.Data.List.Forall2
import RwkvSrs.FallibleMethod

/-!
Answers that arrive in batches. Items are held back, handed over in batches and
answered later, in the order the batches were handed over. The account says which
item owns which value at every moment of such a loop: those answered so far, then
the batches under way, then the items still held.
-/

namespace RwkvSrs.BatchAccount

open RwkvSrs.FallibleMethod

set_option autoImplicit false

variable {State Value Next Item Handle Answer : Type}

/-- The run arrives at `Goal`, or fails where failing is allowed. -/
structure Reaches (mayFail : Prop) (Goal : Value → State → Prop)
    (result : Except Failure Value × State) : Prop where
  arrives : ∀ value state, result = (.ok value, state) → Goal value state
  fails : ∀ failure state, result = (.error failure, state) → mayFail

section Reaches

variable {mayFail : Prop} {Goal Middle : Value → State → Prop}

theorem reaches_some {result : Except Failure Value × State}
    (reaches : Reaches False Goal result) :
    ∃ value state, result = (.ok value, state) ∧ Goal value state := by
  match result, reaches with
  | (.ok value, state), reaches => exact ⟨value, state, rfl, reaches.arrives value state rfl⟩
  | (.error failure, state), reaches => exact (reaches.fails failure state rfl).elim

theorem reaches_mono {result : Except Failure Value × State}
    (reaches : Reaches mayFail Middle result)
    (implies : ∀ value state, Middle value state → Goal value state) :
    Reaches mayFail Goal result :=
  ⟨fun value state ran => implies value state (reaches.arrives value state ran), reaches.fails⟩

theorem reaches_pure {value : Value} {state : State} (goal : Goal value state) :
    Reaches mayFail Goal ((pure value : Method State Value) state) := by
  constructor
  · intro found reached ran
    cases ran
    exact goal
  · intro failure reached ran
    cases ran

theorem reaches_fail {failure : Failure} {state : State} (may : mayFail) :
    Reaches mayFail Goal ((fail failure : Method State Value) state) := by
  constructor
  · intro found reached ran
    cases ran
  · intro _ _ _
    exact may

theorem reaches_bind {step : Method State Value} {next : Value → Method State Next}
    {Last : Next → State → Prop} {state : State} (first : Reaches mayFail Middle (step state))
    (rest : ∀ value reached, Middle value reached → Reaches mayFail Last (next value reached)) :
    Reaches mayFail Last ((step >>= next) state) := by
  rcases ran : step state with ⟨outcome, reached⟩
  cases outcome with
  | ok value =>
      rw [bind_of_ok ran]
      exact rest value reached (first.arrives value reached ran)
  | error failure =>
      rw [bind_of_error ran]
      constructor
      · intro found last impossible
        cases impossible
      · intro _ _ _
        exact first.fails failure reached ran

theorem reaches_lift {result : Except String Value} {state : State}
    (value : ∀ made, result = .ok made → Goal made state)
    (fails : ∀ message, result = .error message → mayFail) :
    Reaches mayFail Goal ((lift result : Method State Value) state) := by
  cases result with
  | ok made => exact reaches_pure (value made rfl)
  | error message => exact reaches_fail (fails message rfl)

/-- A loop reaches what each turn keeps; `seen` are the items before the turn. -/
theorem reaches_foldlM {turn : Value → Item → Method State Value}
    {Kept : List Item → Value → State → Prop} {items : List Item} (seen : List Item)
    (each : ∀ before item, item ∈ items → ∀ value state, Kept before value state →
      Reaches mayFail (Kept (before ++ [item])) (turn value item state))
    {value : Value} {state : State} (kept : Kept seen value state) :
    Reaches mayFail (Kept (seen ++ items)) (items.foldlM turn value state) := by
  induction items generalizing seen value state with
  | nil =>
      rw [List.append_nil]
      exact reaches_pure kept
  | cons item items ih =>
      rw [List.foldlM_cons]
      apply reaches_bind (each seen item (by simp) value state kept)
      intro next reached after
      have rest := ih (seen ++ [item])
        (fun before other member => each before other (List.mem_cons_of_mem _ member)) after
      rw [List.append_assoc] at rest
      exact rest

end Reaches

/-- Checks made one after the other are one check. -/
theorem lift_lift {Made : Type} (result : Except String Made) (next : Made → Except String Value) :
    (lift result >>= fun made => lift (next made) : Method State Value) = lift (result >>= next) := by
  funext state
  cases result <;> rfl

section Account

variable {Answers : Item → Answer → Prop} {Owes : List Item → Handle → Prop}

/-- The items in order: answered, under way in batches, and held. -/
def Account (Answers : Item → Answer → Prop) (Owes : List Item → Handle → Prop)
    (items : List Item) (answers : List Answer) (pending : List Handle) (held : List Item) : Prop :=
  ∃ answered batches, items = answered ++ batches.flatten ++ held ∧
    List.Forall₂ Answers answered answers ∧ List.Forall₂ Owes batches pending

variable {items held batch : List Item} {item : Item} {answers more : List Answer}
  {answer : Answer} {pending : List Handle} {handle : Handle}

theorem account_start : Account Answers Owes [] [] [] [] :=
  ⟨[], [], rfl, List.Forall₂.nil, List.Forall₂.nil⟩

theorem account_hold (account : Account Answers Owes items answers pending held) :
    Account Answers Owes (items ++ [item]) answers pending (held ++ [item]) := by
  obtain ⟨answered, batches, parts, settled, owed⟩ := account
  exact ⟨answered, batches, by rw [parts, List.append_assoc], settled, owed⟩

theorem account_flush (account : Account Answers Owes items answers [] held)
    (answersHeld : List.Forall₂ Answers held more) :
    Account Answers Owes items (answers ++ more) [] [] := by
  obtain ⟨answered, batches, parts, settled, owed⟩ := account
  cases owed
  refine ⟨answered ++ held, [], ?_, List.rel_append settled answersHeld, List.Forall₂.nil⟩
  simpa using parts

theorem account_answer (account : Account Answers Owes items answers [] [])
    (answered : Answers item answer) :
    Account Answers Owes (items ++ [item]) (answers ++ [answer]) [] [] :=
  account_flush (account_hold account) (List.Forall₂.cons answered List.Forall₂.nil)

theorem account_submit (account : Account Answers Owes items answers pending held)
    (owes : Owes held handle) :
    Account Answers Owes items answers (pending ++ [handle]) [] := by
  obtain ⟨answered, batches, parts, settled, owed⟩ := account
  refine ⟨answered, batches ++ [held], ?_, settled,
    List.rel_append owed (List.Forall₂.cons owes List.Forall₂.nil)⟩
  simpa using parts

/-- The oldest batch under way is answered, whichever items it holds. -/
theorem account_collect (account : Account Answers Owes items answers (handle :: pending) held)
    (collected : ∀ batch, Owes batch handle → List.Forall₂ Answers batch more) :
    Account Answers Owes items (answers ++ more) pending held := by
  obtain ⟨answered, batches, parts, settled, owed⟩ := account
  cases owed with
  | cons first rest =>
      rename_i batch batches
      refine ⟨answered ++ batch, batches, ?_, List.rel_append settled (collected batch first), rest⟩
      simpa using parts

theorem account_settled (account : Account Answers Owes items answers [] []) :
    List.Forall₂ Answers items answers := by
  obtain ⟨answered, batches, parts, settled, owed⟩ := account
  cases owed
  rw [parts]
  simpa using settled

end Account

theorem forall₂_member {Answers : Item → Answer → Prop} {items : List Item} {answers : List Answer}
    (pairs : List.Forall₂ Answers items answers) {item : Item} (member : item ∈ items) :
    ∃ answer ∈ answers, Answers item answer := by
  induction pairs with
  | nil => cases member
  | cons here _ ih =>
      rcases List.mem_cons.mp member with same | later
      · exact ⟨_, by simp, same ▸ here⟩
      · obtain ⟨answer, inside, found⟩ := ih later
        exact ⟨answer, List.mem_cons_of_mem _ inside, found⟩

/-- One answer for each item, at the item's own position. -/
def InOrder (Answers : Item → Answer → Prop) (items : List Item) (answers : List Answer) : Prop :=
  answers.length = items.length ∧
    ∀ (i : Nat) (item : Item) (answer : Answer), items[i]? = some item →
      answers[i]? = some answer → Answers item answer

theorem in_order_iff {Answers : Item → Answer → Prop} {items : List Item} {answers : List Answer} :
    InOrder Answers items answers ↔ List.Forall₂ Answers items answers := by
  rw [List.forall₂_iff_get]
  constructor
  · rintro ⟨sameLength, each⟩
    refine ⟨sameLength.symm, ?_⟩
    intro i inItems inAnswers
    exact each i _ _ (List.getElem?_eq_getElem inItems) (List.getElem?_eq_getElem inAnswers)
  · rintro ⟨sameLength, each⟩
    refine ⟨sameLength.symm, ?_⟩
    intro i item answer here given
    obtain ⟨inItems, same⟩ := List.getElem?_eq_some_iff.mp here
    obtain ⟨inAnswers, sameAnswer⟩ := List.getElem?_eq_some_iff.mp given
    rw [← same, ← sameAnswer]
    exact each i inItems inAnswers

end RwkvSrs.BatchAccount
