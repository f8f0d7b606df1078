import Mathlib.Data.List.Forall2

/-!
Rules for fallible steps. A bind that succeeds splits into its two successful
halves, and a fallible loop that succeeds keeps whatever each of its turns
keeps.
-/

namespace RwkvSrs.ResultSteps

set_option autoImplicit false

universe u

variable {Failure Item : Type u} {State Value : Type u}

theorem bind_ok {step : Except Failure State} {next : State → Except Failure Value}
    {result : Value} :
    (step >>= next) = .ok result ↔ ∃ middle, step = .ok middle ∧ next middle = .ok result := by
  cases step with
  | error failure => exact ⟨fun impossible => (nomatch impossible), fun ⟨_, impossible, _⟩ => nomatch impossible⟩
  | ok middle =>
      constructor
      · intro finished
        exact ⟨middle, rfl, finished⟩
      · rintro ⟨_, same, finished⟩
        cases same
        exact finished

theorem fold_ok_keeps (Kept : State → Prop) {step : State → Item → Except Failure State}
    {items : List Item}
    (turn : ∀ state, ∀ item ∈ items, ∀ next, Kept state → step state item = .ok next → Kept next)
    {first last : State} (kept : Kept first) (finished : items.foldlM step first = .ok last) :
    Kept last := by
  induction items generalizing first with
  | nil =>
      cases finished
      exact kept
  | cons item items ih =>
      rw [List.foldlM_cons] at finished
      obtain ⟨middle, stepped, rest⟩ := bind_ok.mp finished
      have keptMiddle := turn first item (by simp) middle kept stepped
      refine ih ?_ keptMiddle rest
      intro state other member next before stepped
      exact turn state other (List.mem_cons_of_mem _ member) next before stepped

theorem mapM_ok {step : Item → Except Failure Value} {items : List Item} {values : List Value}
    (finished : items.mapM step = .ok values) :
    List.Forall₂ (fun item value => step item = .ok value) items values := by
  induction items generalizing values with
  | nil =>
      cases finished
      exact List.Forall₂.nil
  | cons item items ih =>
      rw [List.mapM_cons] at finished
      obtain ⟨value, stepped, rest⟩ := bind_ok.mp finished
      obtain ⟨others, mapped, same⟩ := bind_ok.mp rest
      cases same
      exact List.Forall₂.cons stepped (ih mapped)

theorem mapM_ok_mem {step : Item → Except Failure Value} {items : List Item} {values : List Value}
    (finished : items.mapM step = .ok values) {value : Value} (member : value ∈ values) :
    ∃ item ∈ items, step item = .ok value := by
  have pairs := mapM_ok finished
  clear finished
  induction pairs with
  | nil => cases member
  | cons stepped _ ih =>
      rcases List.mem_cons.mp member with same | later
      · exact ⟨_, by simp, same ▸ stepped⟩
      · obtain ⟨item, itemMember, parsed⟩ := ih later
        exact ⟨item, List.mem_cons_of_mem _ itemMember, parsed⟩

theorem mapM_member_ok {step : Item → Except Failure Value} {items : List Item}
    {values : List Value} (finished : items.mapM step = .ok values) {item : Item}
    (member : item ∈ items) : ∃ value ∈ values, step item = .ok value := by
  have pairs := mapM_ok finished
  clear finished
  induction pairs with
  | nil => cases member
  | cons stepped _ ih =>
      rcases List.mem_cons.mp member with same | later
      · exact ⟨_, by simp, same ▸ stepped⟩
      · obtain ⟨value, valueMember, parsed⟩ := ih later
        exact ⟨value, List.mem_cons_of_mem _ valueMember, parsed⟩

theorem mapM_error_mem {step : Item → Except Failure Value} {items : List Item} {failure : Failure}
    (failed : items.mapM step = .error failure) : ∃ item ∈ items, step item = .error failure := by
  induction items with
  | nil => cases failed
  | cons item items ih =>
      rw [List.mapM_cons] at failed
      cases stepped : step item with
      | error found =>
          rw [stepped] at failed
          cases failed
          exact ⟨item, by simp, stepped⟩
      | ok value =>
          rw [stepped] at failed
          cases mapped : items.mapM step with
          | ok values =>
              rw [mapped] at failed
              cases failed
          | error found =>
              rw [mapped] at failed
              cases failed
              obtain ⟨other, member, failed⟩ := ih mapped
              exact ⟨other, List.mem_cons_of_mem _ member, failed⟩

theorem mapM_all_ok {step : Item → Except Failure Value} {value : Item → Value}
    {items : List Item} (each : ∀ item ∈ items, step item = .ok (value item)) :
    items.mapM step = .ok (items.map value) := by
  induction items with
  | nil => rfl
  | cons item items ih =>
      rw [List.mapM_cons, each item (by simp),
        ih (fun other member => each other (List.mem_cons_of_mem _ member))]
      rfl

theorem mapM_ok_map {step : Item → Except Failure Value} {value : Item → Value}
    {items : List Item} {values : List Value} (finished : items.mapM step = .ok values)
    (each : ∀ item ∈ items, ∀ found, step item = .ok found → found = value item) :
    values = items.map value := by
  have pairs := mapM_ok finished
  clear finished
  induction pairs with
  | nil => rfl
  | cons stepped _ ih =>
      rw [List.map_cons, each _ (by simp) _ stepped,
        ih fun item member => each item (List.mem_cons_of_mem _ member)]

theorem mapM_of_pairs {step : Item → Except Failure Value} {items : List Item} {values : List Value}
    (pairs : List.Forall₂ (fun item value => step item = .ok value) items values) :
    items.mapM step = .ok values := by
  induction pairs with
  | nil => rfl
  | cons stepped _ ih =>
      rw [List.mapM_cons, stepped, ih]
      rfl

theorem mapM_each_ok {step : Item → Except Failure Value} {items : List Item}
    (each : ∀ item ∈ items, ∃ value, step item = .ok value) :
    ∃ values, items.mapM step = .ok values := by
  induction items with
  | nil => exact ⟨[], rfl⟩
  | cons item items ih =>
      obtain ⟨value, stepped⟩ := each item (by simp)
      obtain ⟨values, rest⟩ := ih fun other member => each other (List.mem_cons_of_mem _ member)
      refine ⟨value :: values, ?_⟩
      rw [List.mapM_cons, stepped, rest]
      rfl

/-- A loop over the numbers of a list is the loop over its items. -/
theorem mapM_range {Problem Source Found : Type} {step : Nat → Except Problem Found}
    {turn : Source → Except Problem Found} {items : List Source}
    (each : ∀ i, (inside : i < items.length) → step i = turn items[i]) :
    (List.range items.length).mapM step = items.mapM turn := by
  induction items generalizing step with
  | nil => rfl
  | cons item items ih =>
      have rest := @ih (fun i => step (i + 1)) fun i inside => each (i + 1) (by simpa using inside)
      rw [List.length_cons, List.range_succ_eq_map, List.mapM_cons, List.mapM_cons,
        each 0 (by simp), List.mapM_map]
      change (do return (← turn item) ::
        (← (List.range items.length).mapM fun i => step (i + 1))) = _
      rw [rest]

theorem mapM_range_ok {Problem Found : Type} {step : Nat → Except Problem Found}
    {values : List Found}
    (each : ∀ i, (inside : i < values.length) → step i = .ok values[i]) :
    (List.range values.length).mapM step = .ok values := by
  have all : values.mapM (fun value => (.ok value : Except Problem Found)) = .ok (values.map id) :=
    mapM_all_ok fun _ _ => rfl
  rw [List.map_id] at all
  exact (mapM_range each).trans all

/-- A loop whose turns succeed under a condition, each with a value of its own. -/
theorem mapM_ok_iff {step : Item → Except Failure Value} {Accepted : Item → Prop}
    {value : Item → Value} {items : List Item}
    (each : ∀ item ∈ items, ∀ found, step item = .ok found ↔ Accepted item ∧ found = value item)
    {values : List Value} :
    items.mapM step = .ok values ↔ (∀ item ∈ items, Accepted item) ∧ values = items.map value := by
  induction items generalizing values with
  | nil =>
      constructor
      · intro finished
        cases finished
        exact ⟨fun item member => (nomatch member), rfl⟩
      · rintro ⟨_, same⟩
        rw [same]
        rfl
  | cons item items ih =>
      have rest := fun {values : List Value} => @ih
        (fun other member => each other (List.mem_cons_of_mem _ member)) values
      rw [List.mapM_cons, bind_ok]
      constructor
      · rintro ⟨first, stepped, finished⟩
        obtain ⟨others, mapped, same⟩ := bind_ok.mp finished
        cases same
        obtain ⟨accepted, here⟩ := (each item (by simp) first).mp stepped
        obtain ⟨later, values⟩ := rest.mp mapped
        rw [here, values]
        refine ⟨?_, rfl⟩
        intro other member
        rcases List.mem_cons.mp member with same | tail
        · rw [same]
          exact accepted
        · exact later other tail
      · rintro ⟨accepted, same⟩
        have stepped := (each item (by simp) (value item)).mpr ⟨accepted item (by simp), rfl⟩
        have mapped := rest.mpr
          ⟨fun other member => accepted other (List.mem_cons_of_mem _ member), rfl⟩
        rw [same]
        exact ⟨_, stepped, bind_ok.mpr ⟨_, mapped, rfl⟩⟩

end RwkvSrs.ResultSteps
