import RwkvSrs.ReadableSession
import RwkvSrs.LiveRosterRuns

/-!
The walk of a membership reconciliation over its card ids. A changed seed is
used up where its id is first met, so a repeated id finds its own card in the
replacement; a walk succeeds exactly when the ids are distinct and each of them
gives a value.
-/

namespace RwkvSrs.MembershipWalk

open Std RwkvSrs.LiveTypes RwkvSrs.LiveSessionState RwkvSrs.LiveSessionOperations
open RwkvSrs.LiveRoster RwkvSrs.LiveRosterEdits RwkvSrs.ResultSteps SessionFloat

set_option autoImplicit false
set_option linter.unusedSectionVars false

variable {F : Type} [SessionFloat F]

def changedSeed (changedCandidates : List (LiveCandidateSeed F)) (cardId : Int64) :
    Option (LiveCandidateSeed F) :=
  changedCandidates.find? fun seed => seed.row.cardId == cardId

abbrev ChangedMap (F : Type) := ExtTreeMap Int64 (Nat × LiveCandidateSeed F)

/-- The map holds a seed for each changed card and no other. -/
def HoldsSeeds (changed : ChangedMap F) (changedCandidates : List (LiveCandidateSeed F)) : Prop :=
  ∀ cardId : Int64, (changed[cardId]?).map Prod.snd = changedSeed changedCandidates cardId

def insertChanged (changed : ChangedMap F) (entry : LiveCandidateSeed F × Nat) :
    Except String (ChangedMap F) :=
  if entry.1.row.cardId ∈ changed then
    .error s!"duplicate changed candidate card_id={entry.1.row.cardId}"
  else .ok (changed.insert entry.1.row.cardId (entry.2, entry.1))

theorem insert_changed_ok {changed next : ChangedMap F} {entry : LiveCandidateSeed F × Nat} :
    insertChanged changed entry = .ok next ↔
      changed[entry.1.row.cardId]? = none ∧
        next = changed.insert entry.1.row.cardId (entry.2, entry.1) := by
  unfold insertChanged
  split
  · rename_i present
    constructor
    · intro inserted
      cases inserted
    · intro both
      rw [ExtTreeMap.mem_iff_isSome_getElem?, both.1] at present
      cases present
  · rename_i absent
    rw [ExtTreeMap.getElem?_eq_none absent]
    constructor
    · intro inserted
      cases inserted
      exact ⟨rfl, rfl⟩
    · intro both
      rw [both.2]

theorem changed_seed_appended (done : List (LiveCandidateSeed F)) (seed : LiveCandidateSeed F)
    (cardId : Int64) :
    changedSeed (done ++ [seed]) cardId =
      (changedSeed done cardId).or (if seed.row.cardId = cardId then some seed else none) := by
  unfold changedSeed
  rw [List.find?_append, List.find?_singleton]
  by_cases same : seed.row.cardId = cardId
  · simp [same]
  · simp [same]

theorem changed_seed_none {changedCandidates : List (LiveCandidateSeed F)} {cardId : Int64} :
    changedSeed changedCandidates cardId = none ↔
      cardId ∉ changedCandidates.map fun seed => seed.row.cardId := by
  unfold changedSeed
  simp

theorem changed_seed_some {changedCandidates : List (LiveCandidateSeed F)} {cardId : Int64}
    {seed : LiveCandidateSeed F} (found : changedSeed changedCandidates cardId = some seed) :
    seed ∈ changedCandidates ∧ seed.row.cardId = cardId := by
  unfold changedSeed at found
  refine ⟨List.mem_of_find?_eq_some found, ?_⟩
  simpa using List.find?_some found

private theorem insert_holds {changed : ChangedMap F} {done : List (LiveCandidateSeed F)}
    (holds : HoldsSeeds changed done) {seed : LiveCandidateSeed F} (index : Nat)
    (absent : changed[seed.row.cardId]? = none) :
    HoldsSeeds (changed.insert seed.row.cardId (index, seed)) (done ++ [seed]) := by
  intro cardId
  rw [changed_seed_appended, ← holds cardId, ExtTreeMap.getElem?_insert]
  by_cases same : seed.row.cardId = cardId
  · subst same
    rw [if_pos compare_self, if_pos rfl, absent]
    rfl
  · have apart : ¬ compare seed.row.cardId cardId = .eq := by
      intro equal
      exact same (Std.compare_eq_iff_eq.mp equal)
    rw [if_neg apart, if_neg same, Option.or_none]

private theorem insert_all_ok (rest : List (LiveCandidateSeed F)) (first : Nat)
    {changed next : ChangedMap F} {done : List (LiveCandidateSeed F)}
    (holds : HoldsSeeds changed done)
    (distinct : (done.map fun seed => seed.row.cardId).Nodup)
    (inserted : (rest.zipIdx first).foldlM insertChanged changed = .ok next) :
    HoldsSeeds next (done ++ rest) ∧ ((done ++ rest).map fun seed => seed.row.cardId).Nodup := by
  induction rest generalizing changed done first with
  | nil =>
      cases inserted
      rw [List.append_nil]
      exact ⟨holds, distinct⟩
  | cons seed rest ih =>
      rw [List.zipIdx_cons, List.foldlM_cons] at inserted
      obtain ⟨middle, step, inserted⟩ := bind_ok.mp inserted
      obtain ⟨absent, same⟩ := insert_changed_ok.mp step
      have fresh : seed.row.cardId ∉ done.map fun seed => seed.row.cardId := by
        apply changed_seed_none.mp
        rw [← holds, absent]
        rfl
      rw [List.append_cons]
      apply ih (first + 1) _ _ inserted
      · rw [same]
        exact insert_holds holds first absent
      · rw [List.map_append, List.nodup_append]
        refine ⟨distinct, by simp, ?_⟩
        intro cardId member other single differs
        rw [List.map_singleton, List.mem_singleton] at single
        rw [differs, single] at member
        exact fresh member

private theorem insert_all_succeeds (rest : List (LiveCandidateSeed F)) (first : Nat)
    {changed : ChangedMap F} {done : List (LiveCandidateSeed F)}
    (holds : HoldsSeeds changed done)
    (distinct : ((done ++ rest).map fun seed => seed.row.cardId).Nodup) :
    ∃ next, (rest.zipIdx first).foldlM insertChanged changed = .ok next := by
  induction rest generalizing changed done first with
  | nil => exact ⟨changed, rfl⟩
  | cons seed rest ih =>
      have absent : changed[seed.row.cardId]? = none := by
        have missing : changedSeed done seed.row.cardId = none := by
          apply changed_seed_none.mpr
          rw [List.map_append, List.nodup_append] at distinct
          intro member
          exact distinct.2.2 _ member _ (by simp) rfl
        rw [← holds, Option.map_eq_none_iff] at missing
        exact missing
      rw [List.append_cons] at distinct
      obtain ⟨next, inserted⟩ := ih (first + 1) (insert_holds holds first absent) distinct
      refine ⟨next, ?_⟩
      rw [List.zipIdx_cons, List.foldlM_cons]
      exact bind_ok.mpr ⟨_, insert_changed_ok.mpr ⟨absent, rfl⟩, inserted⟩

theorem empty_holds : HoldsSeeds (∅ : ChangedMap F) [] := by
  intro cardId
  simp [changedSeed]

theorem changed_map_ok (changedCandidates : List (LiveCandidateSeed F)) :
    (∃ changed, changedByCardId changedCandidates = .ok changed) ↔
      (changedCandidates.map fun seed => seed.row.cardId).Nodup := by
  constructor
  · intro built
    obtain ⟨changed, inserted⟩ := built
    exact (insert_all_ok changedCandidates 0 empty_holds List.nodup_nil inserted).2
  · intro distinct
    exact insert_all_succeeds changedCandidates 0 empty_holds distinct

theorem changed_map_holds {changedCandidates : List (LiveCandidateSeed F)} {changed : ChangedMap F}
    (built : changedByCardId changedCandidates = .ok changed) :
    HoldsSeeds changed changedCandidates :=
  (insert_all_ok changedCandidates 0 empty_holds List.nodup_nil built).1

def lookup (changed : ChangedMap F) (cardId : Int64) : Option (LiveCandidateSeed F) :=
  (changed[cardId]?).map Prod.snd

/-- The value a kept candidate is pushed with. -/
def keptValue (source : LivePredictionSessionState F) (targetTimestampSeconds targetDayOffset : F)
    (slot : Nat) : LiveCandidateValue F :=
  reusedValue (source.value slot) targetTimestampSeconds targetDayOffset
    ((source.candidateAt slot).predictionInput targetTimestampSeconds targetDayOffset)

/-- The value the walk pushes for a card, if it accepts the card. -/
def memberValue (source : LivePredictionSessionState F)
    (changed : Int64 → Option (LiveCandidateSeed F)) (targetTimestampSeconds targetDayOffset : F)
    (cardId : Int64) : Option (LiveCandidateValue F) :=
  match changed cardId with
  | some seed => (candidateValueFromSeed seed targetTimestampSeconds targetDayOffset).toOption
  | none =>
      (source.slotByCardId[cardId]?).bind fun slot =>
        if (livePredictionInputError ((source.candidateAt slot).predictionInput
            targetTimestampSeconds targetDayOffset)).isSome then none
        else some (keptValue source targetTimestampSeconds targetDayOffset slot)

section Walk

variable {source : LivePredictionSessionState F} {targetTimestampSeconds targetDayOffset : F}

theorem to_option_some {Failure Value : Type} {result : Except Failure Value} {value : Value} :
    result.toOption = some value ↔ result = .ok value := by
  cases result with
  | error failure => simp [Except.toOption]
  | ok found => simp [Except.toOption]

theorem member_card (sourceKept : Kept (rosterOf source))
    {changed : Int64 → Option (LiveCandidateSeed F)} {cardId : Int64}
    (keyed : ∀ seed, changed cardId = some seed → seed.row.cardId = cardId)
    {value : LiveCandidateValue F}
    (found : memberValue source changed targetTimestampSeconds targetDayOffset cardId =
      some value) : value.candidate.cardId = cardId := by
  unfold memberValue at found
  split at found
  · rename_i seed given
    obtain ⟨candidate, seeded, finished⟩ := bind_ok.mp (to_option_some.mp found)
    cases finished
    rw [(from_seed_ok.mp seeded).2]
    exact keyed seed given
  · rw [Option.bind_eq_some_iff] at found
    obtain ⟨slot, mapped, found⟩ := found
    split at found
    · cases found
    · cases found
      exact (mapped_candidate sourceKept mapped).2.2.1

theorem push_value_ok {state next : LivePredictionSessionState F} {value : LiveCandidateValue F} :
    pushValue state value = .ok next ↔
      value.candidate.cardId ∉ state.slotByCardId ∧ next = state.appendSlot value := by
  unfold pushValue
  split
  · rename_i present
    constructor
    · intro pushed
      cases pushed
    · intro both
      exact absurd present both.1
  · rename_i absent
    constructor
    · intro pushed
      cases pushed
      exact ⟨absent, rfl⟩
    · intro both
      rw [both.2]

theorem push_reused_ok {replacement next : LivePredictionSessionState F} {slot : Nat} :
    pushReusedCandidate replacement source slot targetTimestampSeconds targetDayOffset =
        .ok next ↔
      livePredictionInputError ((source.candidateAt slot).predictionInput targetTimestampSeconds
          targetDayOffset) = none ∧
        (source.candidateAt slot).cardId ∉ replacement.slotByCardId ∧
        next =
          replacement.appendSlot (keptValue source targetTimestampSeconds targetDayOffset slot) := by
  unfold pushReusedCandidate
  dsimp only
  split
  · rename_i error failed
    constructor
    · intro pushed
      cases pushed
    · intro parts
      have finite := failed.symm.trans parts.1
      cases finite
  · rename_i finite
    constructor
    · intro pushed
      exact ⟨finite, push_value_ok.mp pushed⟩
    · intro parts
      exact push_value_ok.mpr parts.2

theorem push_member_ok (sourceKept : Kept (rosterOf source))
    {replacement : LivePredictionSessionState F} {changed : ChangedMap F} {cardId : Int64}
    (keyed : ∀ seed, lookup changed cardId = some seed → seed.row.cardId = cardId)
    {index : Nat} {next : LivePredictionSessionState F × ChangedMap F} :
    pushMember source targetTimestampSeconds targetDayOffset (replacement, changed)
        (cardId, index) = .ok next ↔
      cardId ∉ replacement.slotByCardId ∧ ∃ value,
        memberValue source (lookup changed) targetTimestampSeconds targetDayOffset cardId =
            some value ∧
          next = (replacement.appendSlot value, changed.erase cardId) := by
  have here := fun value => @member_card F _ source targetTimestampSeconds targetDayOffset
    sourceKept (lookup changed) cardId keyed value
  unfold pushMember
  dsimp only
  cases given : changed[cardId]? with
  | some entry =>
      obtain ⟨index, seed⟩ := entry
      have found : lookup changed cardId = some seed := by
        unfold lookup
        rw [given]
        rfl
      have member : memberValue source (lookup changed) targetTimestampSeconds targetDayOffset
          cardId = (candidateValueFromSeed seed targetTimestampSeconds targetDayOffset).toOption := by
        unfold memberValue
        rw [found]
      rw [member] at here ⊢
      constructor
      · intro pushed
        obtain ⟨appended, stepped, finished⟩ := bind_ok.mp pushed
        obtain ⟨value, built, stepped⟩ := bind_ok.mp stepped
        obtain ⟨absent, same⟩ := push_value_ok.mp stepped
        cases finished
        rw [here value (to_option_some.mpr built)] at absent
        rw [same]
        exact ⟨absent, value, to_option_some.mpr built, rfl⟩
      · intro accepted
        obtain ⟨absent, value, built, same⟩ := accepted
        rw [← here value built] at absent
        apply bind_ok.mpr
        refine ⟨replacement.appendSlot value, ?_, same ▸ rfl⟩
        exact bind_ok.mpr ⟨value, to_option_some.mp built, push_value_ok.mpr ⟨absent, rfl⟩⟩
  | none =>
      have found : lookup changed cardId = none := by
        unfold lookup
        rw [given]
        rfl
      have unchanged : changed.erase cardId = changed := by
        apply ExtTreeMap.ext_getElem?
        intro other
        rw [ExtTreeMap.getElem?_erase]
        split
        · rename_i same
          rw [← Std.compare_eq_iff_eq.mp same, given]
        · rfl
      rw [unchanged]
      cases mapped : source.slotByCardId[cardId]? with
      | none =>
          have member : memberValue source (lookup changed) targetTimestampSeconds targetDayOffset
              cardId = none := by
            unfold memberValue
            rw [found, mapped]
            rfl
          rw [member]
          constructor
          · intro pushed
            dsimp only at pushed
            split at pushed
            · cases pushed
            · cases pushed
          · intro accepted
            obtain ⟨_, value, built, _⟩ := accepted
            cases built
      | some slot =>
          have card : (source.candidateAt slot).cardId = cardId :=
            (mapped_candidate sourceKept mapped).2.2.1
          have member : memberValue source (lookup changed) targetTimestampSeconds targetDayOffset
              cardId = if (livePredictionInputError ((source.candidateAt slot).predictionInput
                targetTimestampSeconds targetDayOffset)).isSome then none
              else some (keptValue source targetTimestampSeconds targetDayOffset slot) := by
            unfold memberValue
            rw [found, mapped]
            rfl
          rw [member]
          dsimp only
          constructor
          · intro pushed
            obtain ⟨appended, stepped, finished⟩ := bind_ok.mp pushed
            obtain ⟨finite, absent, same⟩ := push_reused_ok.mp stepped
            cases finished
            rw [card] at absent
            refine ⟨absent, keptValue source targetTimestampSeconds targetDayOffset slot, ?_, ?_⟩
            · rw [finite]
              rfl
            · rw [same]
          · intro accepted
            obtain ⟨absent, value, built, same⟩ := accepted
            split at built
            · cases built
            · rename_i finite
              cases built
              apply bind_ok.mpr
              refine ⟨_, push_reused_ok.mpr ⟨?_, ?_, rfl⟩, same ▸ rfl⟩
              · simpa using finite
              · rw [card]
                exact absent

theorem appended_member {state : LivePredictionSessionState F} {value : LiveCandidateValue F}
    {cardId : Int64} (here : value.candidate.cardId = cardId) (other : Int64) :
    other ∈ (state.appendSlot value).slotByCardId ↔ other = cardId ∨ other ∈ state.slotByCardId := by
  change other ∈ state.slotByCardId.insert value.candidate.cardId _ ↔ _
  rw [here, ExtTreeMap.mem_insert, Std.compare_eq_iff_eq, eq_comm]

theorem lookup_erased (changed : ChangedMap F) {cardId other : Int64} (apart : other ≠ cardId) :
    lookup (changed.erase cardId) other = lookup changed other := by
  unfold lookup
  rw [ExtTreeMap.getElem?_erase, if_neg]
  intro same
  exact apart (Std.compare_eq_iff_eq.mp same).symm

/-- A walk succeeds exactly when its ids are new and distinct and each gives a value. -/
theorem walk_ok (sourceKept : Kept (rosterOf source)) (cardIds : List Int64) (first : Nat)
    {replacement : LivePredictionSessionState F} {changed : ChangedMap F}
    (keyed : ∀ cardId seed, lookup changed cardId = some seed → seed.row.cardId = cardId)
    {next : LivePredictionSessionState F × ChangedMap F} :
    (cardIds.zipIdx first).foldlM (pushMember source targetTimestampSeconds targetDayOffset)
        (replacement, changed) = .ok next ↔
      cardIds.Nodup ∧ (∀ cardId ∈ cardIds, cardId ∉ replacement.slotByCardId) ∧
        ∃ values : List (LiveCandidateValue F),
          cardIds.map (memberValue source (lookup changed) targetTimestampSeconds
            targetDayOffset) = values.map some ∧
          next = (values.foldl LivePredictionSessionState.appendSlot replacement,
            cardIds.foldl ExtTreeMap.erase changed) := by
  induction cardIds generalizing first replacement changed with
  | nil =>
      constructor
      · intro finished
        cases finished
        exact ⟨List.nodup_nil, fun _ member => absurd member List.not_mem_nil, [], rfl, rfl⟩
      · intro accepted
        obtain ⟨_, _, values, members, same⟩ := accepted
        rw [List.map_nil, eq_comm, List.map_eq_nil_iff] at members
        rw [same, members]
        rfl
  | cons cardId cardIds ih =>
      have keyedRest : ∀ other seed, lookup (changed.erase cardId) other = some seed →
          seed.row.cardId = other := by
        intro other seed found
        by_cases same : other = cardId
        · subst same
          unfold lookup at found
          rw [ExtTreeMap.getElem?_erase, if_pos compare_self] at found
          cases found
        · rw [lookup_erased changed same] at found
          exact keyed other seed found
      have agree : ∀ other, other ≠ cardId →
          memberValue source (lookup (changed.erase cardId)) targetTimestampSeconds targetDayOffset
              other =
            memberValue source (lookup changed) targetTimestampSeconds targetDayOffset other := by
        intro other apart
        unfold memberValue
        rw [lookup_erased changed apart]
      rw [List.zipIdx_cons, List.foldlM_cons, bind_ok]
      constructor
      · intro finished
        obtain ⟨middle, stepped, finished⟩ := finished
        obtain ⟨absent, value, built, same⟩ :=
          (push_member_ok sourceKept (keyed cardId)).mp stepped
        rw [same] at finished
        obtain ⟨distinct, fresh, values, members, walked⟩ := (ih (first + 1) keyedRest).mp finished
        have here := member_card sourceKept (keyed cardId) built
        have notLater : cardId ∉ cardIds := by
          intro later
          exact fresh cardId later ((appended_member here cardId).mpr (.inl rfl))
        refine ⟨List.nodup_cons.mpr ⟨notLater, distinct⟩, ?_, value :: values, ?_, walked⟩
        · intro other member
          rcases List.mem_cons.mp member with same | later
          · rw [same]
            exact absent
          · intro present
            exact fresh other later ((appended_member here other).mpr (.inr present))
        · rw [List.map_cons, List.map_cons, built, ← members]
          apply congrArg (List.cons (some value))
          apply List.map_congr_left
          intro other later
          apply (agree other _).symm
          intro same
          exact notLater (same ▸ later)
      · intro accepted
        obtain ⟨distinct, fresh, values, members, walked⟩ := accepted
        obtain ⟨notLater, distinct⟩ := List.nodup_cons.mp distinct
        cases values with
        | nil => cases members
        | cons value values =>
            rw [List.map_cons, List.map_cons] at members
            obtain ⟨built, rest⟩ := List.cons.inj members
            have here := member_card sourceKept (keyed cardId) built
            refine ⟨_, (push_member_ok sourceKept (keyed cardId)).mpr
              ⟨fresh cardId List.mem_cons_self, value, built, rfl⟩, ?_⟩
            apply (ih (first + 1) keyedRest).mpr
            refine ⟨distinct, ?_, values, ?_, walked⟩
            · intro other later present
              rcases (appended_member here other).mp present with same | old
              · exact notLater (same ▸ later)
              · exact fresh other (List.mem_cons_of_mem _ later) old
            · rw [← rest]
              apply List.map_congr_left
              intro other later
              apply agree other
              intro same
              exact notLater (same ▸ later)

end Walk

theorem erased_all (cardIds : List Int64) (changed : ChangedMap F) (cardId : Int64) :
    (cardIds.foldl ExtTreeMap.erase changed)[cardId]? =
      if cardId ∈ cardIds then none else changed[cardId]? := by
  induction cardIds generalizing changed with
  | nil => simp
  | cons first cardIds ih =>
      have erased : (changed.erase first)[cardId]? =
          if first = cardId then none else changed[cardId]? := by
        rw [ExtTreeMap.getElem?_erase]
        simp only [Std.compare_eq_iff_eq]
      rw [List.foldl_cons, ih, erased]
      by_cases later : cardId ∈ cardIds
      · rw [if_pos later, if_pos (List.mem_cons_of_mem _ later)]
      · rw [if_neg later]
        by_cases same : first = cardId
        · rw [if_pos same, if_pos (same ▸ List.mem_cons_self)]
        · rw [if_neg same, if_neg]
          intro member
          rcases List.mem_cons.mp member with here | there
          · exact same here.symm
          · exact later there

/-- A search whose turns all find something finds nothing in an empty list only. -/
theorem empty_of_unfound {Entry Found : Type} {turn : Option Found → Entry → Option Found}
    (finds : ∀ best entry, (turn best entry).isSome) {entries : List Entry}
    (unfound : entries.foldl turn none = none) : entries = [] := by
  have kept : ∀ (rest : List Entry) (best : Option Found), best.isSome →
      (rest.foldl turn best).isSome := by
    intro rest
    induction rest with
    | nil =>
        intro best found
        exact found
    | cons entry rest ih =>
        intro best _
        exact ih _ (finds best entry)
  cases entries with
  | nil => rfl
  | cons entry rest =>
      have found := kept rest _ (finds none entry)
      rw [List.foldl_cons] at unfound
      rw [unfound] at found
      cases found

theorem first_unused_none {changed : ChangedMap F} :
    firstUnusedChange changed = none ↔ ∀ cardId : Int64, changed[cardId]? = none := by
  constructor
  · intro unused cardId
    unfold firstUnusedChange at unused
    have empty : changed.toList = [] := by
      apply empty_of_unfound _ unused
      intro best entry
      cases best with
      | none => rfl
      | some best =>
          dsimp only
          split
          · rfl
          · rfl
    rw [ExtTreeMap.toList_eq_nil_iff.mp empty]
    exact ExtTreeMap.getElem?_empty
  · intro none
    have empty : changed = ∅ := by
      apply ExtTreeMap.ext_getElem?
      intro cardId
      rw [none cardId]
      exact ExtTreeMap.getElem?_empty.symm
    rw [empty]
    rfl

theorem all_used {changed : ChangedMap F} {changedCandidates : List (LiveCandidateSeed F)}
    (holds : HoldsSeeds changed changedCandidates) (cardIds : List Int64) :
    firstUnusedChange (cardIds.foldl ExtTreeMap.erase changed) = none ↔
      ∀ seed ∈ changedCandidates, seed.row.cardId ∈ cardIds := by
  rw [first_unused_none]
  constructor
  · intro unused seed member
    have erased := unused seed.row.cardId
    rw [erased_all] at erased
    by_contra absent
    rw [if_neg absent] at erased
    have missing : changedSeed changedCandidates seed.row.cardId = none := by
      rw [← holds, erased]
      rfl
    exact changed_seed_none.mp missing (List.mem_map.mpr ⟨seed, member, rfl⟩)
  · intro listed cardId
    rw [erased_all]
    by_cases member : cardId ∈ cardIds
    · rw [if_pos member]
    · rw [if_neg member]
      have missing : changedSeed changedCandidates cardId = none := by
        apply changed_seed_none.mpr
        intro given
        obtain ⟨seed, seedMember, same⟩ := List.mem_map.mp given
        exact member (same ▸ listed seed seedMember)
      rw [← holds, Option.map_eq_none_iff] at missing
      exact missing

end RwkvSrs.MembershipWalk
