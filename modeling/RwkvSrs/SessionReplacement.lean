import RwkvSrs.MembershipWalk

/-!
The two replacements of a live session, by seeds and by card ids, as the values
they fill an empty session with.
-/

namespace RwkvSrs.SessionReplacement

open Std RwkvSrs.LiveTypes RwkvSrs.LiveSessionState RwkvSrs.LiveSessionOperations
open RwkvSrs.LiveRoster RwkvSrs.LiveRosterEdits RwkvSrs.MembershipWalk RwkvSrs.ResultSteps
open SessionFloat

set_option autoImplicit false
set_option linter.unusedSectionVars false

variable {F : Type} [SessionFloat F]

def FiniteTarget (targetTimestampSeconds targetDayOffset : F) : Prop :=
  isFinite targetTimestampSeconds = true ∧ isFinite targetDayOffset = true

theorem target_time_ok {targetTimestampSeconds targetDayOffset : F} :
    validateTargetTime targetTimestampSeconds targetDayOffset = .ok () ↔
      FiniteTarget targetTimestampSeconds targetDayOffset := by
  unfold validateTargetTime FiniteTarget
  simp only [bind, Except.bind, throw, throwThe, MonadExceptOf.throw, pure, Except.pure]
  cases isFinite targetTimestampSeconds with
  | true =>
      cases isFinite targetDayOffset with
      | true => simp
      | false => simp
  | false => simp

theorem retention_ok {value : F} :
    validateRetentionExtra value = .ok () ↔ isFinite value = true := by
  unfold validateRetentionExtra
  cases isFinite value with
  | true => simp [pure, Except.pure]
  | false => simp [throw, throwThe, MonadExceptOf.throw]

/-- The session that a replacement starts from. -/
def emptySession (settings : LiveSessionSettings)
    (targetTimestampSeconds targetDayOffset retentionExtra : F) : LivePredictionSessionState F where
  token := settings.token
  candidates := []
  slotByCardId := ∅
  predictions := []
  normalTargets := []
  intradayTargets := []
  tieBreakers := []
  randomKeys := []
  statuses := []
  eligibilities := []
  orderedSlots := []
  transportSlots := []
  generation := 1
  retentionExtra := retentionExtra
  targetTimestampSeconds := targetTimestampSeconds
  targetDayOffset := targetDayOffset
  order := settings.order
  mode := settings.mode
  batchSize := settings.batchSize
  refreshLimit := settings.refreshLimit
  numThreads := settings.numThreads
  selectedScratch := []
  updateMarks := []
  updateMarkGeneration := 0
  lastMembershipSlots := []
  lastTransportSlots := []
  profile := ⟨settings.profiling, 0, 0, 0, 0⟩

theorem new_empty_ok {settings : LiveSessionSettings} (batch : settings.batchSize ≠ 0)
    (refresh : settings.refreshLimit ≠ 0) {targetTimestampSeconds targetDayOffset : F}
    {state : LivePredictionSessionState F} :
    newEmpty settings targetTimestampSeconds targetDayOffset = .ok state ↔
      FiniteTarget targetTimestampSeconds targetDayOffset ∧
        state = emptySession settings targetTimestampSeconds targetDayOffset zero := by
  unfold newEmpty
  rw [bind_ok]
  constructor
  · intro built
    obtain ⟨_, valid, built⟩ := built
    rw [if_neg batch, if_neg refresh] at built
    cases built
    exact ⟨target_time_ok.mp valid, rfl⟩
  · intro accepted
    obtain ⟨finite, same⟩ := accepted
    refine ⟨(), target_time_ok.mpr finite, ?_⟩
    rw [if_neg batch, if_neg refresh, same]
    rfl

/-- Sessions filled with one value after the other. -/
def filled (start : LivePredictionSessionState F) (values : List (LiveCandidateValue F)) :
    LivePredictionSessionState F :=
  values.foldl LivePredictionSessionState.appendSlot start

def seedValue (targetTimestampSeconds targetDayOffset : F) (seed : LiveCandidateSeed F) :
    Option (LiveCandidateValue F) :=
  (candidateValueFromSeed seed targetTimestampSeconds targetDayOffset).toOption

theorem seed_value_card {targetTimestampSeconds targetDayOffset : F} {seed : LiveCandidateSeed F}
    {value : LiveCandidateValue F}
    (built : seedValue targetTimestampSeconds targetDayOffset seed = some value) :
    value.candidate.cardId = seed.row.cardId := by
  obtain ⟨candidate, seeded, finished⟩ := bind_ok.mp (to_option_some.mp built)
  cases finished
  rw [(from_seed_ok.mp seeded).2]
  rfl

theorem seeds_pushed (seeds : List (LiveCandidateSeed F))
    {targetTimestampSeconds targetDayOffset : F} {start next : LivePredictionSessionState F} :
    seeds.foldlM (fun state seed =>
        pushSeed state targetTimestampSeconds targetDayOffset seed) start = .ok next ↔
      (seeds.map fun seed => seed.row.cardId).Nodup ∧
        (∀ seed ∈ seeds, seed.row.cardId ∉ start.slotByCardId) ∧
        ∃ values : List (LiveCandidateValue F),
          seeds.map (seedValue targetTimestampSeconds targetDayOffset) = values.map some ∧
            next = filled start values := by
  induction seeds generalizing start with
  | nil =>
      constructor
      · intro finished
        cases finished
        exact ⟨List.nodup_nil, fun _ member => absurd member List.not_mem_nil, [], rfl, rfl⟩
      · intro accepted
        obtain ⟨_, _, values, members, same⟩ := accepted
        rw [List.map_nil, eq_comm, List.map_eq_nil_iff] at members
        rw [same, members]
        rfl
  | cons seed seeds ih =>
      rw [List.foldlM_cons, bind_ok]
      constructor
      · intro finished
        obtain ⟨middle, stepped, finished⟩ := finished
        obtain ⟨value, built, stepped⟩ := bind_ok.mp stepped
        obtain ⟨absent, same⟩ := push_value_ok.mp stepped
        have seeded : seedValue targetTimestampSeconds targetDayOffset seed = some value :=
          to_option_some.mpr built
        have here := seed_value_card seeded
        rw [same] at finished
        obtain ⟨distinct, fresh, values, members, walked⟩ := ih.mp finished
        refine ⟨?_, ?_, value :: values, ?_, walked⟩
        · rw [List.map_cons, List.nodup_cons]
          refine ⟨?_, distinct⟩
          intro repeated
          obtain ⟨other, later, sameCard⟩ := List.mem_map.mp repeated
          exact fresh other later ((appended_member here _).mpr (.inl sameCard))
        · intro other member
          rcases List.mem_cons.mp member with first | later
          · rw [first, ← here]
            exact absent
          · intro present
            exact fresh other later ((appended_member here _).mpr (.inr present))
        · rw [List.map_cons, List.map_cons, seeded, members]
      · intro accepted
        obtain ⟨distinct, fresh, values, members, walked⟩ := accepted
        rw [List.map_cons, List.nodup_cons] at distinct
        cases values with
        | nil => cases members
        | cons value values =>
            rw [List.map_cons, List.map_cons] at members
            obtain ⟨built, rest⟩ := List.cons.inj members
            have here := seed_value_card built
            have absent : value.candidate.cardId ∉ start.slotByCardId := by
              rw [here]
              exact fresh seed List.mem_cons_self
            refine ⟨start.appendSlot value, bind_ok.mpr ⟨value, to_option_some.mp built,
              push_value_ok.mpr ⟨absent, rfl⟩⟩, ?_⟩
            apply ih.mpr
            refine ⟨distinct.2, ?_, values, rest, walked⟩
            intro other later present
            rcases (appended_member here _).mp present with same | old
            · exact distinct.1 (List.mem_map.mpr ⟨other, later, same⟩)
            · exact fresh other (List.mem_cons_of_mem _ later) old

theorem retention_filled (settings : LiveSessionSettings)
    (targetTimestampSeconds targetDayOffset retentionExtra : F)
    (values : List (LiveCandidateValue F)) :
    { filled (emptySession settings targetTimestampSeconds targetDayOffset zero) values with
        retentionExtra := retentionExtra } =
      filled (emptySession settings targetTimestampSeconds targetDayOffset retentionExtra)
        values := by
  have moved : ∀ (rest : List (LiveCandidateValue F)) (start : LivePredictionSessionState F),
      { filled start rest with retentionExtra := retentionExtra } =
        filled { start with retentionExtra := retentionExtra } rest := by
    intro rest
    induction rest with
    | nil =>
        intro start
        rfl
    | cons value rest ih =>
        intro start
        exact ih (start.appendSlot value)
  exact moved values _

/-- A replacement by seeds. -/
theorem replacement_ok {state replacement : LivePredictionSessionState F}
    (kept : Kept (rosterOf state)) {seeds : List (LiveCandidateSeed F)} {predict : Predictor F}
    {targetTimestampSeconds targetDayOffset retentionExtra : F} :
    predictedReplacementFromState state seeds predict targetTimestampSeconds targetDayOffset
        retentionExtra = .ok replacement ↔
      FiniteTarget targetTimestampSeconds targetDayOffset ∧
        (seeds.map fun seed => seed.row.cardId).Nodup ∧
        ∃ values : List (LiveCandidateValue F),
          seeds.map (seedValue targetTimestampSeconds targetDayOffset) = values.map some ∧
            initializeLiveSessionPredictions predict
              (filled (emptySession (settingsOf state) targetTimestampSeconds targetDayOffset
                retentionExtra) values) = .ok replacement := by
  unfold predictedReplacementFromState newUnranked
  rw [bind_ok]
  constructor
  · intro built
    obtain ⟨unranked, staged, initialized⟩ := built
    obtain ⟨empty, emptied, pushed⟩ := bind_ok.mp staged
    obtain ⟨finite, same⟩ := (new_empty_ok kept.batch kept.refresh).mp emptied
    obtain ⟨distinct, _, values, members, walked⟩ := (seeds_pushed seeds).mp pushed
    rw [walked, same, retention_filled] at initialized
    exact ⟨finite, distinct, values, members, initialized⟩
  · intro accepted
    obtain ⟨finite, distinct, values, members, initialized⟩ := accepted
    rw [← retention_filled] at initialized
    refine ⟨_, bind_ok.mpr ⟨_, (new_empty_ok kept.batch kept.refresh).mpr ⟨finite, rfl⟩,
      (seeds_pushed seeds).mpr ⟨distinct, ?_, values, members, rfl⟩⟩, initialized⟩
    intro seed _ present
    exact absurd present ExtTreeMap.not_mem_empty

/-- A replacement by card ids. -/
theorem membership_replacement_ok {state replacement : LivePredictionSessionState F}
    (kept : Kept (rosterOf state)) {cardIds : List Int64}
    {changedCandidates : List (LiveCandidateSeed F)} {predict : Predictor F}
    {targetTimestampSeconds targetDayOffset retentionExtra : F} :
    predictedMembershipReplacementFromState state cardIds changedCandidates predict
        targetTimestampSeconds targetDayOffset retentionExtra = .ok replacement ↔
      FiniteTarget targetTimestampSeconds targetDayOffset ∧
        (changedCandidates.map fun seed => seed.row.cardId).Nodup ∧ cardIds.Nodup ∧
        (∀ seed ∈ changedCandidates, seed.row.cardId ∈ cardIds) ∧
        ∃ values : List (LiveCandidateValue F),
          cardIds.map (memberValue state (changedSeed changedCandidates) targetTimestampSeconds
              targetDayOffset) = values.map some ∧
            initializeLiveSessionPredictions predict
              (filled (emptySession (settingsOf state) targetTimestampSeconds targetDayOffset
                retentionExtra) values) = .ok replacement := by
  have sameLookup : ∀ changed : ChangedMap F, HoldsSeeds changed changedCandidates →
      lookup changed = changedSeed changedCandidates := by
    intro changed holds
    funext cardId
    exact holds cardId
  have keyed : ∀ cardId seed, changedSeed changedCandidates cardId = some seed →
      seed.row.cardId = cardId := by
    intro cardId seed found
    exact (changed_seed_some found).2
  unfold predictedMembershipReplacementFromState
  rw [bind_ok]
  constructor
  · intro built
    obtain ⟨empty, emptied, built⟩ := built
    obtain ⟨changed, changedBuilt, built⟩ := bind_ok.mp built
    obtain ⟨walked, pushed, built⟩ := bind_ok.mp built
    obtain ⟨finite, same⟩ := (new_empty_ok kept.batch kept.refresh).mp emptied
    have holds := changed_map_holds changedBuilt
    have seedsKeyed := keyed
    rw [← sameLookup changed holds] at seedsKeyed ⊢
    obtain ⟨distinct, _, values, members, reached⟩ :=
      (walk_ok kept cardIds 0 seedsKeyed).mp pushed
    rw [reached] at built
    dsimp only at built
    split at built
    · cases built
    · rename_i unused
      rw [same] at built
      exact ⟨finite, (changed_map_ok changedCandidates).mp ⟨changed, changedBuilt⟩, distinct,
        (all_used holds cardIds).mp unused, values, members, built⟩
  · intro accepted
    obtain ⟨finite, changedDistinct, distinct, listed, values, members, initialized⟩ := accepted
    obtain ⟨changed, changedBuilt⟩ := (changed_map_ok changedCandidates).mpr changedDistinct
    have holds := changed_map_holds changedBuilt
    rw [← sameLookup changed holds] at keyed members
    refine ⟨_, (new_empty_ok kept.batch kept.refresh).mpr ⟨finite, rfl⟩, ?_⟩
    apply bind_ok.mpr
    refine ⟨changed, changedBuilt, ?_⟩
    apply bind_ok.mpr
    refine ⟨_, (walk_ok kept cardIds 0 keyed).mpr ⟨distinct, ?_, values, members, rfl⟩, ?_⟩
    · intro cardId _ present
      exact absurd present ExtTreeMap.not_mem_empty
    · dsimp only
      rw [(all_used holds cardIds).mpr listed]
      exact initialized

end RwkvSrs.SessionReplacement
