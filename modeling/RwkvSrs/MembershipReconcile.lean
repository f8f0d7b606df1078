import RwkvSrs.SessionReplacement
import RwkvSrs.ExactNumbers

/-!
Reconciling a live session by its card ids is reconciling it with one seed for
each id: the changed seed of the card, or the seed of the row it would be
queried with. Over exact arithmetic both build the same session, as long as the
target does not come before a kept anchor; the membership walk accepts such a
target, the seeds are refused.
-/

namespace RwkvSrs.MembershipReconcile

open Std RwkvSrs.LiveTypes RwkvSrs.LiveSessionState RwkvSrs.LiveSessionOperations
open RwkvSrs.LiveUndoFrame RwkvSrs.LiveUndoRuns RwkvSrs.LiveIndexRuns RwkvSrs.LiveRoster
open RwkvSrs.LiveRosterEdits RwkvSrs.LiveRosterRuns RwkvSrs.ReadableSession
open RwkvSrs.MembershipWalk RwkvSrs.SessionReplacement RwkvSrs.ResultSteps SessionFloat

set_option autoImplicit false
set_option linter.unusedSectionVars false

variable {F : Type} [SessionFloat F]

/-- The seed of a kept candidate: the row it is queried with, and what it is ranked by. -/
def rebuiltSeed (state : LivePredictionSessionState F) (targetTimestampSeconds targetDayOffset : F)
    (slot : Nat) : LiveCandidateSeed F where
  row := (state.candidateAt slot).predictionInput targetTimestampSeconds targetDayOffset
  targetRetrievability := state.normalTarget slot
  intradayTargetRetrievability := state.intradayTarget slot
  tieBreaker := state.tieBreaker slot
  randomKey := state.randomKey slot

def memberSeed (state : LivePredictionSessionState F)
    (changedCandidates : List (LiveCandidateSeed F)) (targetTimestampSeconds targetDayOffset : F)
    (cardId : Int64) : Option (LiveCandidateSeed F) :=
  match changedSeed changedCandidates cardId with
  | some seed => some seed
  | none =>
      (state.slotByCardId[cardId]?).map
        (rebuiltSeed state targetTimestampSeconds targetDayOffset)

def memberSeeds (state : LivePredictionSessionState F) (cardIds : List Int64)
    (changedCandidates : List (LiveCandidateSeed F)) (targetTimestampSeconds targetDayOffset : F) :
    List (LiveCandidateSeed F) :=
  cardIds.filterMap (memberSeed state changedCandidates targetTimestampSeconds targetDayOffset)

/-- The row a seed is first predicted with. -/
def queryRow (targetDayOffset : F) (seed : LiveCandidateSeed F) : ReviewInput F :=
  { seed.row with
    dayOffset := targetDayOffset
    rating := none
    duration := none
    state := none }

def FiniteInput (input : ReviewInput F) : Prop :=
  isFinite input.dayOffset = true ∧ isFinite input.elapsedDays = true ∧
    isFinite input.elapsedSeconds = true

theorem input_error_none {input : ReviewInput F} :
    livePredictionInputError input = none ↔ FiniteInput input := by
  unfold livePredictionInputError FiniteInput
  constructor
  · intro finite
    split at finite
    · rename_i all
      simpa [and_assoc] using all
    · cases finite
  · intro finite
    rw [if_pos]
    simp [finite.1, finite.2.1, finite.2.2]

/-- What is asked of one card of the list: an accepted changed seed, or a current candidate
whose row at the target is finite. -/
def MemberAccepted (state : LivePredictionSessionState F)
    (changedCandidates : List (LiveCandidateSeed F)) (targetTimestampSeconds targetDayOffset : F)
    (cardId : Int64) : Prop :=
  (∃ seed ∈ changedCandidates, seed.row.cardId = cardId ∧
    SeedAccepted seed targetTimestampSeconds targetDayOffset) ∨
  ((∀ seed ∈ changedCandidates, seed.row.cardId ≠ cardId) ∧
    ∃ slot, state.slotByCardId[cardId]? = some slot ∧
      FiniteInput ((state.candidateAt slot).predictionInput targetTimestampSeconds
        targetDayOffset))

structure MembershipAccepted (state : LivePredictionSessionState F) (cardIds : List Int64)
    (changedCandidates : List (LiveCandidateSeed F)) (predict : Predictor F)
    (request : ReconcileRequest F) : Prop where
  target : FiniteTarget request.targetTimestampSeconds request.targetDayOffset
  retention : isFinite request.retentionExtra = true
  distinct : cardIds.Nodup
  changedDistinct : (changedCandidates.map fun seed => seed.row.cardId).Nodup
  listed : ∀ seed ∈ changedCandidates, seed.row.cardId ∈ cardIds
  members : ∀ cardId ∈ cardIds, MemberAccepted state changedCandidates
    request.targetTimestampSeconds request.targetDayOffset cardId
  predicted : ∃ predictions, predict ((memberSeeds state cardIds changedCandidates
      request.targetTimestampSeconds request.targetDayOffset).map
        (queryRow request.targetDayOffset)) = .ok predictions ∧
    predictions.length = cardIds.length

section Members

variable {state : LivePredictionSessionState F} {changedCandidates : List (LiveCandidateSeed F)}
  {targetTimestampSeconds targetDayOffset : F}

theorem changed_seed_of_member
    (distinct : (changedCandidates.map fun seed => seed.row.cardId).Nodup)
    {seed : LiveCandidateSeed F} (member : seed ∈ changedCandidates) :
    changedSeed changedCandidates seed.row.cardId = some seed := by
  cases found : changedSeed changedCandidates seed.row.cardId with
  | none =>
      have absent := changed_seed_none.mp found
      exact absurd (List.mem_map.mpr ⟨seed, member, rfl⟩) absent
  | some other =>
      obtain ⟨otherMember, same⟩ := changed_seed_some found
      rw [List.inj_on_of_nodup_map distinct otherMember member same]

theorem member_value_some
    (distinct : (changedCandidates.map fun seed => seed.row.cardId).Nodup) {cardId : Int64} :
    (∃ value, memberValue state (changedSeed changedCandidates) targetTimestampSeconds
        targetDayOffset cardId = some value) ↔
      MemberAccepted state changedCandidates targetTimestampSeconds targetDayOffset cardId := by
  unfold memberValue MemberAccepted
  cases found : changedSeed changedCandidates cardId with
  | some seed =>
      obtain ⟨member, here⟩ := changed_seed_some found
      dsimp only
      constructor
      · intro built
        obtain ⟨value, built⟩ := built
        obtain ⟨candidate, seeded, _⟩ := bind_ok.mp (to_option_some.mp built)
        exact .inl ⟨seed, member, here, (from_seed_ok.mp seeded).1⟩
      · intro accepted
        rcases accepted with ⟨other, otherMember, otherHere, accepted⟩ | ⟨absent, _⟩
        · have same := changed_seed_of_member distinct otherMember
          rw [otherHere, found] at same
          cases same
          refine ⟨_, to_option_some.mpr (bind_ok.mpr ⟨_, from_seed_ok.mpr ⟨accepted, rfl⟩, rfl⟩)⟩
        · exact absurd here (absent seed member)
  | none =>
      have absent : ∀ seed ∈ changedCandidates, seed.row.cardId ≠ cardId := by
        intro seed member here
        have missing := changed_seed_none.mp found
        exact missing (List.mem_map.mpr ⟨seed, member, here⟩)
      dsimp only
      constructor
      · intro built
        obtain ⟨value, built⟩ := built
        obtain ⟨slot, mapped, built⟩ := Option.bind_eq_some_iff.mp built
        refine .inr ⟨absent, slot, mapped, input_error_none.mp ?_⟩
        split at built
        · cases built
        · rename_i finite
          simpa using finite
      · intro accepted
        rcases accepted with ⟨seed, member, here, _⟩ | ⟨_, slot, mapped, finite⟩
        · exact absurd here (absent seed member)
        · refine ⟨keptValue state targetTimestampSeconds targetDayOffset slot, ?_⟩
          rw [mapped, Option.bind_some, input_error_none.mpr finite]
          rfl

/-- The first row of a member is the row of its seed, at the target. -/
theorem member_query (target : FiniteTarget targetTimestampSeconds targetDayOffset)
    {cardId : Int64} {value : LiveCandidateValue F}
    (built : memberValue state (changedSeed changedCandidates) targetTimestampSeconds
      targetDayOffset cardId = some value) :
    FiniteInput value.candidate.initialPredictionInput ∧ ∃ seed,
      memberSeed state changedCandidates targetTimestampSeconds targetDayOffset cardId =
          some seed ∧
        value.candidate.initialPredictionInput = queryRow targetDayOffset seed := by
  unfold memberValue at built
  unfold memberSeed
  cases found : changedSeed changedCandidates cardId with
  | some seed =>
      rw [found] at built
      obtain ⟨candidate, seeded, finished⟩ := bind_ok.mp (to_option_some.mp built)
      obtain ⟨accepted, same⟩ := from_seed_ok.mp seeded
      cases finished
      rw [same]
      exact ⟨⟨target.2, accepted.days, accepted.seconds⟩, seed, rfl, rfl⟩
  | none =>
      rw [found] at built
      obtain ⟨slot, mapped, built⟩ := Option.bind_eq_some_iff.mp built
      split at built
      · cases built
      · rename_i finite
        have finiteInput := input_error_none.mp (by simpa using finite)
        cases built
        have query : (keptValue state targetTimestampSeconds targetDayOffset
              slot).candidate.initialPredictionInput =
            queryRow targetDayOffset
              (rebuiltSeed state targetTimestampSeconds targetDayOffset slot) := by
          unfold queryRow rebuiltSeed LiveCandidate.predictionInput
          dsimp only
          unfold keptValue reusedValue LiveCandidate.predictionInput
          change LiveCandidate.reviewInput _ _ _ _ = _
          cases reviewed : (state.candidateAt slot).hasPriorReview with
          | true => rfl
          | false => rfl
        refine ⟨⟨target.2, finiteInput.2⟩, _, ?_, query⟩
        dsimp only
        rw [mapped]
        rfl

end Members

theorem filled_candidates (start : LivePredictionSessionState F)
    (values : List (LiveCandidateValue F)) :
    (filled start values).candidates = start.candidates ++ values.map fun value => value.candidate := by
  unfold filled
  induction values generalizing start with
  | nil => simp
  | cons value values ih =>
      rw [List.foldl_cons, ih, List.map_cons]
      exact List.append_assoc _ _ _

section Walk

variable {state : LivePredictionSessionState F} {cardIds : List Int64}
  {changedCandidates : List (LiveCandidateSeed F)} {targetTimestampSeconds targetDayOffset : F}

theorem members_collected {values : List (LiveCandidateValue F)}
    (members : cardIds.map (memberValue state (changedSeed changedCandidates)
      targetTimestampSeconds targetDayOffset) = values.map some)
    {Result : Type} {read : LiveCandidateValue F → Result} {expected : Int64 → Result}
    (each : ∀ cardId ∈ cardIds, ∀ value, memberValue state (changedSeed changedCandidates)
      targetTimestampSeconds targetDayOffset cardId = some value →
        read value = expected cardId) : values.map read = cardIds.map expected := by
  induction cardIds generalizing values with
  | nil =>
      rw [List.map_nil, eq_comm, List.map_eq_nil_iff] at members
      rw [members]
      rfl
  | cons cardId cardIds ih =>
      cases values with
      | nil => cases members
      | cons value values =>
          rw [List.map_cons, List.map_cons] at members
          obtain ⟨built, rest⟩ := List.cons.inj members
          rw [List.map_cons, List.map_cons, each cardId List.mem_cons_self value built,
            ih rest fun other later => each other (List.mem_cons_of_mem _ later)]

theorem members_built
    (each : ∀ cardId ∈ cardIds, ∃ value, memberValue state (changedSeed changedCandidates)
      targetTimestampSeconds targetDayOffset cardId = some value) :
    ∃ values : List (LiveCandidateValue F), cardIds.map (memberValue state
      (changedSeed changedCandidates) targetTimestampSeconds targetDayOffset) =
        values.map some := by
  induction cardIds with
  | nil => exact ⟨[], rfl⟩
  | cons cardId cardIds ih =>
      obtain ⟨value, built⟩ := each cardId List.mem_cons_self
      obtain ⟨values, rest⟩ := ih fun other later => each other (List.mem_cons_of_mem _ later)
      refine ⟨value :: values, ?_⟩
      rw [List.map_cons, List.map_cons, built, rest]

theorem members_each {values : List (LiveCandidateValue F)}
    (members : cardIds.map (memberValue state (changedSeed changedCandidates)
      targetTimestampSeconds targetDayOffset) = values.map some) {cardId : Int64}
    (member : cardId ∈ cardIds) : ∃ value, memberValue state (changedSeed changedCandidates)
      targetTimestampSeconds targetDayOffset cardId = some value := by
  have mapped := List.mem_map_of_mem (f := memberValue state
    (changedSeed changedCandidates) targetTimestampSeconds targetDayOffset) member
  rw [members] at mapped
  obtain ⟨value, _, same⟩ := List.mem_map.mp mapped
  exact ⟨value, same.symm⟩

/-- The rows of the filled session are the rows of the members' seeds, all finite. -/
theorem members_queried (target : FiniteTarget targetTimestampSeconds targetDayOffset)
    {values : List (LiveCandidateValue F)}
    (members : cardIds.map (memberValue state (changedSeed changedCandidates)
      targetTimestampSeconds targetDayOffset) = values.map some)
    {settings : LiveSessionSettings} {retentionExtra : F} :
    let inputs := (filled (emptySession settings targetTimestampSeconds targetDayOffset
      retentionExtra) values).candidates.map LiveCandidate.initialPredictionInput
    inputs = (memberSeeds state cardIds changedCandidates targetTimestampSeconds
        targetDayOffset).map (queryRow targetDayOffset) ∧
      inputs.findSome? livePredictionInputError = none := by
  have inputsAre : (filled (emptySession settings targetTimestampSeconds targetDayOffset
      retentionExtra) values).candidates.map LiveCandidate.initialPredictionInput =
        values.map fun value => value.candidate.initialPredictionInput := by
    rw [filled_candidates]
    change (values.map _).map _ = _
    rw [List.map_map]
    rfl
  dsimp only
  rw [inputsAre]
  clear inputsAre
  induction cardIds generalizing values with
  | nil =>
      rw [List.map_nil, eq_comm, List.map_eq_nil_iff] at members
      rw [members]
      exact ⟨rfl, rfl⟩
  | cons cardId cardIds ih =>
      cases values with
      | nil => cases members
      | cons value values =>
          rw [List.map_cons, List.map_cons] at members
          obtain ⟨built, rest⟩ := List.cons.inj members
          obtain ⟨finite, seed, seeded, query⟩ := member_query target built
          obtain ⟨rows, allFinite⟩ := ih rest
          constructor
          · unfold memberSeeds
            rw [List.filterMap_cons_some seeded, List.map_cons, List.map_cons, query, rows]
            rfl
          · rw [List.map_cons, List.findSome?_cons, input_error_none.mpr finite]
            exact allFinite

theorem members_count {values : List (LiveCandidateValue F)}
    (members : cardIds.map (memberValue state (changedSeed changedCandidates)
      targetTimestampSeconds targetDayOffset) = values.map some) :
    values.length = cardIds.length := by
  have lengths := congrArg List.length members
  rw [List.length_map, List.length_map] at lengths
  exact lengths.symm

end Walk

/-- The membership replacement exists exactly when the request is accepted. -/
theorem membership_replacement_iff {state : LivePredictionSessionState F}
    (kept : Kept (rosterOf state)) (cardIds : List Int64)
    (changedCandidates : List (LiveCandidateSeed F)) (predict : Predictor F)
    (request : ReconcileRequest F) :
    (∃ replacement, predictedMembershipReplacementFromState state cardIds changedCandidates predict
        request.targetTimestampSeconds request.targetDayOffset request.retentionExtra =
          .ok replacement) ∧ isFinite request.retentionExtra = true ↔
      MembershipAccepted state cardIds changedCandidates predict request := by
  constructor
  · intro built
    obtain ⟨⟨replacement, built⟩, retention⟩ := built
    obtain ⟨target, changedDistinct, distinct, listed, values, members, initialized⟩ :=
      (membership_replacement_ok kept).mp built
    obtain ⟨predictions, ⟨_, predicted, counted⟩, _⟩ := initialize_ok.mp initialized
    rw [(members_queried target members).1] at predicted
    refine ⟨target, retention, distinct, changedDistinct, listed, ?_, predictions, predicted, ?_⟩
    · intro cardId member
      exact (member_value_some changedDistinct).mp (members_each members member)
    · rw [counted, filled_candidates, ← members_count members]
      simp [emptySession]
  · intro accepted
    obtain ⟨values, members⟩ := members_built fun cardId member =>
      (member_value_some accepted.changedDistinct).mpr (accepted.members cardId member)
    obtain ⟨predictions, predicted, counted⟩ := accepted.predicted
    refine ⟨⟨_, (membership_replacement_ok kept).mpr ⟨accepted.target, accepted.changedDistinct,
      accepted.distinct, accepted.listed, values, members, initialize_ok.mpr
        ⟨predictions, ⟨?_, ?_, ?_⟩, rfl⟩⟩⟩, accepted.retention⟩
    · exact (members_queried accepted.target members).2
    · rw [(members_queried accepted.target members).1]
      exact predicted
    · rw [counted, filled_candidates, ← members_count members]
      simp [emptySession]

/-- Subtracting a difference again gives the subtrahend back, and the new-card sentinel is
negative. -/
structure ExactTimes (F : Type) [SessionFloat F] : Prop where
  subtracted : ∀ target anchor : F, sub target (sub target anchor) = anchor
  sentinel : ∀ elapsed : F, eq elapsed negOne = true → lt elapsed zero = true

/-- The target does not come before the last review of a reviewed candidate. -/
def AfterReview (candidate : LiveCandidate F) (targetTimestampSeconds targetDayOffset : F) : Prop :=
  candidate.hasPriorReview = true →
    let row := candidate.predictionInput targetTimestampSeconds targetDayOffset
    lt row.elapsedDays zero = false ∧ lt row.elapsedSeconds zero = false

/-- No card of the list is kept at a target before its last review. -/
def TargetsFollow (state : LivePredictionSessionState F) (cardIds : List Int64)
    (changedCandidates : List (LiveCandidateSeed F)) (targetTimestampSeconds targetDayOffset : F) :
    Prop :=
  ∀ cardId ∈ cardIds, (∀ seed ∈ changedCandidates, seed.row.cardId ≠ cardId) →
    ∀ slot, state.slotByCardId[cardId]? = some slot →
      AfterReview (state.candidateAt slot) targetTimestampSeconds targetDayOffset

def readableValue (value : LiveCandidateValue F) : LiveCandidateValue F :=
  { value with candidate := readable value.candidate }

theorem readable_appended (state : LivePredictionSessionState F) (value : LiveCandidateValue F) :
    readableState (state.appendSlot value) =
      (readableState state).appendSlot (readableValue value) := by
  unfold readableState LivePredictionSessionState.appendSlot readableValue
  dsimp only
  rw [List.map_append, List.length_map, readable_card]
  rfl

theorem readable_filled {left right : List (LiveCandidateValue F)}
    (same : left.map readableValue = right.map readableValue)
    (start : LivePredictionSessionState F) :
    readableState (filled start left) = readableState (filled start right) := by
  have moved : ∀ (values : List (LiveCandidateValue F)) (start : LivePredictionSessionState F),
      readableState (filled start values) =
        filled (readableState start) (values.map readableValue) := by
    intro values
    induction values with
    | nil =>
        intro start
        rfl
    | cons value values ih =>
        intro start
        refine (ih (start.appendSlot value)).trans ?_
        rw [readable_appended]
        rfl
  rw [moved, moved, same]

section Rebuilt

variable {state : LivePredictionSessionState F} {targetTimestampSeconds targetDayOffset : F}

/-- A kept candidate and the candidate of its rebuilt seed read alike. -/
theorem rebuilt_value (exact : ExactTimes F) {slot : Nat}
    (anchored : Anchored (state.candidateAt slot))
    (finite : FiniteInput ((state.candidateAt slot).predictionInput targetTimestampSeconds
      targetDayOffset))
    (after : AfterReview (state.candidateAt slot) targetTimestampSeconds targetDayOffset) :
    ∃ value, seedValue targetTimestampSeconds targetDayOffset
        (rebuiltSeed state targetTimestampSeconds targetDayOffset slot) = some value ∧
      readableValue value =
        readableValue (keptValue state targetTimestampSeconds targetDayOffset slot) := by
  have seeded : ∀ accepted : SeedAccepted
      (rebuiltSeed state targetTimestampSeconds targetDayOffset slot) targetTimestampSeconds
        targetDayOffset,
      seedValue targetTimestampSeconds targetDayOffset
        (rebuiltSeed state targetTimestampSeconds targetDayOffset slot) = some {
          candidate := seedCandidate
            (rebuiltSeed state targetTimestampSeconds targetDayOffset slot)
            targetTimestampSeconds targetDayOffset
          prediction := nan
          normalTarget := state.normalTarget slot
          intradayTarget := state.intradayTarget slot
          tieBreaker := state.tieBreaker slot
          randomKey := state.randomKey slot
          status := .pendingRefresh
          eligible := false } := by
    intro accepted
    exact to_option_some.mpr (bind_ok.mpr ⟨_, from_seed_ok.mpr ⟨accepted, rfl⟩, rfl⟩)
  cases reviewed : (state.candidateAt slot).hasPriorReview with
  | true =>
      obtain ⟨timestamp, day, hasTimestamp, hasDay, timestampFinite, dayFinite⟩ :=
        anchored.reviewed reviewed
      obtain ⟨daysFollow, secondsFollow⟩ := after reviewed
      have row : (state.candidateAt slot).predictionInput targetTimestampSeconds targetDayOffset =
          (state.candidateAt slot).reviewInput targetDayOffset (sub targetDayOffset day)
            (sub targetTimestampSeconds timestamp) := by
        unfold LiveCandidate.predictionInput
        rw [if_pos reviewed, hasTimestamp, hasDay]
        rfl
      rw [row] at finite daysFollow secondsFollow
      have notNew : ∀ elapsed : F, lt elapsed zero = false → eq elapsed negOne = false := by
        intro elapsed follow
        cases isNew : eq elapsed negOne with
        | false => rfl
        | true =>
            have negative := exact.sentinel elapsed isNew
            rw [follow] at negative
            cases negative
      have daysNotNew := notNew _ daysFollow
      have secondsNotNew := notNew _ secondsFollow
      have accepted : SeedAccepted (rebuiltSeed state targetTimestampSeconds targetDayOffset slot)
          targetTimestampSeconds targetDayOffset := by
        unfold rebuiltSeed
        rw [row]
        constructor
        · exact finite.2.1
        · exact finite.2.2
        · exact daysNotNew.trans secondsNotNew.symm
        · intro _
          exact ⟨daysFollow, secondsFollow⟩
        · intro _
          change isFinite (sub targetTimestampSeconds (sub targetTimestampSeconds timestamp)) =
            true ∧ isFinite (sub targetDayOffset (sub targetDayOffset day)) = true
          rw [exact.subtracted, exact.subtracted]
          exact ⟨timestampFinite, dayFinite⟩
      refine ⟨_, seeded accepted, ?_⟩
      have candidate : seedCandidate
          (rebuiltSeed state targetTimestampSeconds targetDayOffset slot) targetTimestampSeconds
            targetDayOffset =
          { state.candidateAt slot with
            newElapsedDays := sub targetDayOffset day
            newElapsedSeconds := sub targetTimestampSeconds timestamp
            queryTimestampSeconds := targetTimestampSeconds
            queryDayOffset := targetDayOffset
            queriedElapsedDays := sub targetDayOffset day
            queriedElapsedSeconds := sub targetTimestampSeconds timestamp } := by
        unfold seedCandidate rebuiltSeed
        rw [row]
        change LiveCandidate.mk _ _ _ _ _ (!eq (sub targetDayOffset day) negOne) _ _
          (if eq (sub targetDayOffset day) negOne then none
            else some (sub targetTimestampSeconds (sub targetTimestampSeconds timestamp)))
          (if eq (sub targetDayOffset day) negOne then none
            else some (sub targetDayOffset (sub targetDayOffset day))) _ _ _ _ = _
        have known : eq (sub targetDayOffset day) negOne = false := daysNotNew
        dsimp only
        rw [known, exact.subtracted, exact.subtracted, reviewed, hasTimestamp, hasDay]
        rfl
      unfold readableValue keptValue reusedValue
      rw [row, candidate]
      unfold readable
      dsimp only
      change LiveCandidateValue.mk (if (state.candidateAt slot).hasPriorReview = true then _ else _)
          _ _ _ _ _ _ _ =
        LiveCandidateValue.mk (if (state.candidateAt slot).hasPriorReview = true then _ else _)
          _ _ _ _ _ _ _
      rw [if_pos reviewed, if_pos reviewed]
      rfl
  | false =>
      obtain ⟨noTimestamp, noDay, daysNew, secondsNew⟩ := anchored.new reviewed
      have row : (state.candidateAt slot).predictionInput targetTimestampSeconds targetDayOffset =
          (state.candidateAt slot).reviewInput targetDayOffset
            (state.candidateAt slot).newElapsedDays (state.candidateAt slot).newElapsedSeconds := by
        unfold LiveCandidate.predictionInput
        rw [reviewed]
        rfl
      rw [row] at finite
      have notReviewed : ∀ {claim : Prop},
          eq (state.candidateAt slot).newElapsedDays negOne = false → claim := by
        intro claim known
        rw [daysNew] at known
        cases known
      have accepted : SeedAccepted (rebuiltSeed state targetTimestampSeconds targetDayOffset slot)
          targetTimestampSeconds targetDayOffset := by
        unfold rebuiltSeed
        rw [row]
        constructor
        · exact finite.2.1
        · exact finite.2.2
        · exact daysNew.trans secondsNew.symm
        · exact notReviewed
        · exact notReviewed
      refine ⟨_, seeded accepted, ?_⟩
      have candidate : seedCandidate
          (rebuiltSeed state targetTimestampSeconds targetDayOffset slot) targetTimestampSeconds
            targetDayOffset =
          { state.candidateAt slot with
            queryTimestampSeconds := targetTimestampSeconds
            queryDayOffset := targetDayOffset
            queriedElapsedDays := (state.candidateAt slot).newElapsedDays
            queriedElapsedSeconds := (state.candidateAt slot).newElapsedSeconds } := by
        unfold seedCandidate rebuiltSeed
        rw [row]
        change LiveCandidate.mk _ _ _ _ _
          (!eq (state.candidateAt slot).newElapsedDays negOne) _ _
          (if eq (state.candidateAt slot).newElapsedDays negOne then none else _)
          (if eq (state.candidateAt slot).newElapsedDays negOne then none else _) _ _ _ _ = _
        dsimp only
        rw [daysNew, reviewed, noTimestamp, noDay]
        rfl
      unfold keptValue reusedValue
      rw [row, candidate]
      rfl

/-- The seed of a member gives a value that reads as the member's. -/
theorem member_seed_value (kept : Kept (rosterOf state)) (exact : ExactTimes F)
    {changedCandidates : List (LiveCandidateSeed F)} {cardId : Int64}
    (follows : (∀ seed ∈ changedCandidates, seed.row.cardId ≠ cardId) →
      ∀ slot, state.slotByCardId[cardId]? = some slot →
        AfterReview (state.candidateAt slot) targetTimestampSeconds targetDayOffset)
    {value : LiveCandidateValue F}
    (built : memberValue state (changedSeed changedCandidates) targetTimestampSeconds
      targetDayOffset cardId = some value) :
    ∃ seed other, memberSeed state changedCandidates targetTimestampSeconds targetDayOffset
        cardId = some seed ∧ seed.row.cardId = cardId ∧
      seedValue targetTimestampSeconds targetDayOffset seed = some other ∧
      readableValue other = readableValue value := by
  unfold memberValue at built
  unfold memberSeed
  cases found : changedSeed changedCandidates cardId with
  | some seed =>
      rw [found] at built
      exact ⟨seed, value, rfl, (changed_seed_some found).2, built, rfl⟩
  | none =>
      rw [found] at built
      obtain ⟨slot, mapped, built⟩ := Option.bind_eq_some_iff.mp built
      obtain ⟨_, _, here, anchored⟩ := mapped_candidate kept mapped
      have absent : ∀ seed ∈ changedCandidates, seed.row.cardId ≠ cardId := by
        intro seed member same
        exact changed_seed_none.mp found (List.mem_map.mpr ⟨seed, member, same⟩)
      split at built
      · cases built
      · rename_i finite
        have finiteInput := input_error_none.mp (by simpa using finite)
        cases built
        obtain ⟨other, seeded, same⟩ :=
          rebuilt_value exact anchored finiteInput (follows absent slot mapped)
        refine ⟨rebuiltSeed state targetTimestampSeconds targetDayOffset slot, other, ?_, ?_,
          seeded, same⟩
        · dsimp only
          rw [mapped]
          rfl
        · rw [← here]
          unfold rebuiltSeed LiveCandidate.predictionInput
          dsimp only
          split
          · rfl
          · rfl

theorem member_seeds_values (kept : Kept (rosterOf state)) (exact : ExactTimes F)
    {cardIds : List Int64} {changedCandidates : List (LiveCandidateSeed F)}
    (follow : TargetsFollow state cardIds changedCandidates targetTimestampSeconds targetDayOffset)
    {values : List (LiveCandidateValue F)}
    (members : cardIds.map (memberValue state (changedSeed changedCandidates)
      targetTimestampSeconds targetDayOffset) = values.map some) :
    (memberSeeds state cardIds changedCandidates targetTimestampSeconds targetDayOffset).map
        (fun seed => seed.row.cardId) = cardIds ∧
      ∃ others : List (LiveCandidateValue F),
        (memberSeeds state cardIds changedCandidates targetTimestampSeconds targetDayOffset).map
            (seedValue targetTimestampSeconds targetDayOffset) = others.map some ∧
          others.map readableValue = values.map readableValue := by
  induction cardIds generalizing values with
  | nil =>
      rw [List.map_nil, eq_comm, List.map_eq_nil_iff] at members
      rw [members]
      exact ⟨rfl, [], rfl, rfl⟩
  | cons cardId cardIds ih =>
      cases values with
      | nil => cases members
      | cons value values =>
          rw [List.map_cons, List.map_cons] at members
          obtain ⟨built, rest⟩ := List.cons.inj members
          obtain ⟨seed, other, seeded, here, otherBuilt, same⟩ :=
            member_seed_value kept exact (follow cardId List.mem_cons_self) built
          obtain ⟨cards, others, othersBuilt, othersSame⟩ :=
            ih (fun later member => follow later (List.mem_cons_of_mem _ member)) rest
          have seeds : memberSeeds state (cardId :: cardIds) changedCandidates
              targetTimestampSeconds targetDayOffset =
                seed :: memberSeeds state cardIds changedCandidates targetTimestampSeconds
                  targetDayOffset :=
            List.filterMap_cons_some seeded
          rw [seeds]
          refine ⟨?_, other :: others, ?_, ?_⟩
          · rw [List.map_cons, here, cards]
          · rw [List.map_cons, List.map_cons, otherBuilt, othersBuilt]
          · rw [List.map_cons, List.map_cons, same, othersSame]

end Rebuilt

theorem validated_bind {request : ReconcileRequest F}
    {build : Except String (LivePredictionSessionState F)}
    {replacement : LivePredictionSessionState F} :
    (validateReconcile request >>= fun _ => build) = .ok replacement ↔
      FiniteTarget request.targetTimestampSeconds request.targetDayOffset ∧
        isFinite request.retentionExtra = true ∧ build = .ok replacement := by
  unfold validateReconcile
  rw [bind_ok]
  constructor
  · intro built
    obtain ⟨_, valid, built⟩ := built
    obtain ⟨_, target, retention⟩ := bind_ok.mp valid
    exact ⟨target_time_ok.mp target, retention_ok.mp retention, built⟩
  · intro accepted
    refine ⟨(), bind_ok.mpr ⟨(), target_time_ok.mpr accepted.1, ?_⟩, accepted.2.2⟩
    exact retention_ok.mpr accepted.2.1

/-- An accepted membership replacement, the replacement by the members' seeds, and what they
share. -/
theorem replacements_agree {state replacement : LivePredictionSessionState F}
    (kept : Kept (rosterOf state)) (exact : ExactTimes F) {cardIds : List Int64}
    {changedCandidates : List (LiveCandidateSeed F)} {predict : Predictor F}
    {targetTimestampSeconds targetDayOffset retentionExtra : F}
    (follow : TargetsFollow state cardIds changedCandidates targetTimestampSeconds targetDayOffset)
    (built : predictedMembershipReplacementFromState state cardIds changedCandidates predict
      targetTimestampSeconds targetDayOffset retentionExtra = .ok replacement) :
    ∃ other, predictedReplacementFromState state
        (memberSeeds state cardIds changedCandidates targetTimestampSeconds targetDayOffset) predict
        targetTimestampSeconds targetDayOffset retentionExtra = .ok other ∧
      readableState other = readableState replacement := by
  obtain ⟨target, _, distinct, _, values, members, initialized⟩ :=
    (membership_replacement_ok kept).mp built
  obtain ⟨cards, others, othersBuilt, same⟩ := member_seeds_values kept exact follow members
  let start := emptySession (settingsOf state) targetTimestampSeconds targetDayOffset retentionExtra
  have sameStart : readableState (filled start others) = readableState (filled start values) :=
    readable_filled same start
  have initializedAlike : (initializeLiveSessionPredictions predict (filled start others)).map
      readableState = .ok (readableState replacement) := by
    rw [← readable_initialize, sameStart, readable_initialize, initialized]
    rfl
  cases otherInitialized : initializeLiveSessionPredictions predict (filled start others) with
  | error message =>
      rw [otherInitialized] at initializedAlike
      cases initializedAlike
  | ok other =>
      rw [otherInitialized] at initializedAlike
      refine ⟨other, (replacement_ok kept).mpr ⟨target, ?_, others, othersBuilt,
        otherInitialized⟩, Except.ok.inj initializedAlike⟩
      rw [cards]
      exact distinct

variable [DecidableEq F]

theorem members_in_order {state replacement : LivePredictionSessionState F}
    (kept : Kept (rosterOf state)) {cardIds : List Int64}
    {changedCandidates : List (LiveCandidateSeed F)} {predict : Predictor F}
    {targetTimestampSeconds targetDayOffset retentionExtra : F}
    (built : predictedMembershipReplacementFromState state cardIds changedCandidates predict
      targetTimestampSeconds targetDayOffset retentionExtra = .ok replacement) :
    replacement.candidates.map (fun candidate => candidate.cardId) = cardIds := by
  obtain ⟨_, _, _, _, values, members, initialized⟩ := (membership_replacement_ok kept).mp built
  have roster := congrArg Roster.candidates (roster_initialized initialized)
  change replacement.candidates = (filled _ values).candidates at roster
  have collected : values.map (fun value => value.candidate.cardId) = cardIds.map id := by
    apply members_collected members
    intro cardId _ value found
    apply member_card kept _ found
    intro seed given
    exact (changed_seed_some given).2
  rw [List.map_id] at collected
  rw [roster, filled_candidates]
  change (values.map _).map _ = _
  rw [List.map_map]
  exact collected

/-- For every reachable session, a membership reconciliation succeeds exactly when its request
is accepted, holds the listed cards in the order of the list, leaves the session and the frame
alone when it fails, and over exact arithmetic is the reconciliation by the members' seeds, as
far as a session reads its candidates, when no kept card is targeted before its last review. -/
theorem membership_reconciles {runtime : LiveRuntime F} (run : Reached runtime)
    (cardIds : List Int64) (changedCandidates : List (LiveCandidateSeed F))
    (predict : Predictor F) (request : ReconcileRequest F)
    (undo : Option (LiveIndexUndoFrame F)) :
    let state := runtime.session
    let step := reconcileLiveSessionMembership state cardIds changedCandidates predict request undo
    ((∃ output, step.result = .ok output) ↔
        MembershipAccepted state cardIds changedCandidates predict request) ∧
      (∀ output, step.result = .ok output →
        step.session.candidates.map (fun candidate => candidate.cardId) = cardIds) ∧
      (∀ message, step.result = .error message → step.session = state ∧ step.undo = undo) ∧
      (MembershipAccepted state cardIds changedCandidates predict request → ExactTimes F →
        TargetsFollow state cardIds changedCandidates request.targetTimestampSeconds
          request.targetDayOffset →
        readableStep step = readableStep (reconcileLiveSessionCandidates state
          (memberSeeds state cardIds changedCandidates request.targetTimestampSeconds
            request.targetDayOffset) predict request undo)) := by
  have kept := (reached_kept run).roster
  have accepted_iff := membership_replacement_iff kept cardIds changedCandidates predict request
  dsimp only
  unfold reconcileLiveSessionMembership
  dsimp only
  cases result : (validateReconcile request >>= fun _ =>
      predictedMembershipReplacementFromState runtime.session cardIds changedCandidates predict
        request.targetTimestampSeconds request.targetDayOffset request.retentionExtra) with
  | error message =>
      have refused :
          ¬ MembershipAccepted runtime.session cardIds changedCandidates predict request := by
        intro accepted
        obtain ⟨⟨replacement, built⟩, retention⟩ := accepted_iff.mpr accepted
        have finished := validated_bind.mpr ⟨accepted.target, retention, built⟩
        rw [result] at finished
        cases finished
      refine ⟨⟨?_, fun accepted => absurd accepted refused⟩, ?_, ?_,
        fun accepted => absurd accepted refused⟩
      · intro succeeded
        obtain ⟨output, succeeded⟩ := succeeded
        cases succeeded
      · intro output succeeded
        cases succeeded
      · intro _ _
        exact ⟨rfl, rfl⟩
  | ok replacement =>
      obtain ⟨target, retention, built⟩ := validated_bind.mp result
      have accepted := accepted_iff.mp ⟨⟨replacement, built⟩, retention⟩
      refine ⟨⟨fun _ => accepted, fun _ => ⟨_, rfl⟩⟩, ?_, ?_, ?_⟩
      · intro output _
        have ordered := members_in_order kept built
        have roster := congrArg Roster.candidates (roster_select_final { replacement with
          generation := runtime.session.generation + 1
          profile := runtime.session.profile
          lastMembershipSlots := List.range replacement.candidates.length
          lastTransportSlots := List.range replacement.candidates.length } request.selectLimit
          request.excludedCardIds)
        refine Eq.trans (congrArg (List.map fun candidate => candidate.cardId) roster) ?_
        exact ordered
      · intro message failed
        cases failed
      · intro _ exact follow
        obtain ⟨other, otherBuilt, same⟩ := replacements_agree kept exact follow built
        unfold reconcileLiveSessionCandidates
        dsimp only
        rw [validated_bind.mpr ⟨target, retention, otherBuilt⟩]
        exact same_readable_commit same.symm request undo

open RwkvSrs.ExactNumbers

theorem exact_times : ExactTimes Exact := by
  constructor
  · intro target anchor
    change (⟨target.value - (target.value - anchor.value)⟩ : Exact) = anchor
    rw [sub_sub_cancel]
  · intro elapsed isNew
    have value : elapsed.value = -1 := of_decide_eq_true isNew
    apply decide_eq_true
    change elapsed.value < 0
    rw [value]
    exact neg_one_lt_zero

def reviewedSeed (cardId : Int64) : LiveCandidateSeed Exact where
  row := {
    reviewId := 0
    cardId := cardId
    noteId := .missing
    deckId := .missing
    presetId := .missing
    dayOffset := ⟨0⟩
    elapsedDays := ⟨1⟩
    elapsedSeconds := ⟨1⟩
    rating := none
    duration := none
    state := none }
  targetRetrievability := ⟨0⟩
  intradayTargetRetrievability := ⟨0⟩
  tieBreaker := 0
  randomKey := 0

def predictOne : Predictor Exact := fun rows => .ok (rows.map fun _ => ⟨1⟩)

/-- Cards 1 and 2, both reviewed one day and one second before the target. -/
def reviewedSession : Except String (LivePredictionSessionState Exact) :=
  createLiveSession twoCardSettings [reviewedSeed 1, reviewedSeed 2] ⟨0⟩ ⟨0⟩ predictOne

def requestAt (target : ℚ) : ReconcileRequest Exact where
  targetTimestampSeconds := ⟨target⟩
  targetDayOffset := ⟨target⟩
  selectLimit := 0
  excludedCardIds := []
  retentionExtra := ⟨0⟩

/-- The outcomes of keeping card 2 by its id and by its rebuilt seed. -/
def reconcileSecond (target : ℚ) (state : LivePredictionSessionState Exact) : Bool × Bool :=
  ((reconcileLiveSessionMembership state [2] [] predictOne (requestAt target) none).result.isOk,
    (reconcileLiveSessionCandidates state (memberSeeds state [2] [] ⟨target⟩ ⟨target⟩) predictOne
      (requestAt target) none).result.isOk)

/-- A target two days before the last review is accepted by id, and refused as a seed. -/
theorem early_target_differs :
    ∃ runtime : LiveRuntime Exact, Reached runtime ∧
      (∃ output, (reconcileLiveSessionMembership runtime.session [2] [] predictOne (requestAt (-3))
        none).result = .ok output) ∧
      ∃ message, (reconcileLiveSessionCandidates runtime.session
        (memberSeeds runtime.session [2] [] ⟨-3⟩ ⟨-3⟩) predictOne (requestAt (-3)) none).result =
          .error message := by
  have outcomes : reviewedSession.map (reconcileSecond (-3)) = .ok (true, false) := by
    decide +kernel
  cases built : reviewedSession with
  | error message =>
      rw [built] at outcomes
      cases outcomes
  | ok session =>
      rw [built] at outcomes
      have both := Except.ok.inj outcomes
      have accepted := congrArg Prod.fst both
      have refused := congrArg Prod.snd both
      refine ⟨⟨session, [], 30⟩, Reached.created built 30, ?_, ?_⟩
      · cases result : (reconcileLiveSessionMembership session [2] [] predictOne (requestAt (-3))
            none).result with
        | error message =>
            unfold reconcileSecond at accepted
            rw [result] at accepted
            cases accepted
        | ok output => exact ⟨output, rfl⟩
      · cases result : (reconcileLiveSessionCandidates session
            (memberSeeds session [2] [] ⟨-3⟩ ⟨-3⟩) predictOne (requestAt (-3)) none).result with
        | error message => exact ⟨message, rfl⟩
        | ok output =>
            unfold reconcileSecond at refused
            rw [result] at refused
            cases refused

/-- The seed of card 1 with another intraday target. -/
def editedSeed : LiveCandidateSeed Exact :=
  { reviewedSeed 1 with intradayTargetRetrievability := ⟨1 / 2⟩ }

/-- The reconciliation of both cards in the other order, card 1 by its new seed. -/
def reconcileSwapped (state : LivePredictionSessionState Exact) :
    LiveStep Exact (LiveRefreshOutput Exact) :=
  reconcileLiveSessionMembership state [2, 1] [editedSeed] predictOne (requestAt 1) none

/-- Card 2 kept by its id at the day after, and card 1 behind it with its new target. -/
theorem second_card_reconciled :
    ∃ runtime : LiveRuntime Exact,
      let step := reconcileSwapped runtime.session
      (∃ output, step.result = .ok output) ∧
        step.session.candidates.map (fun candidate => candidate.cardId) = [2, 1] ∧
        step.session.intradayTargets = [⟨0⟩, ⟨1 / 2⟩] ∧
        readableStep step = readableStep (reconcileLiveSessionCandidates runtime.session
          (memberSeeds runtime.session [2, 1] [editedSeed] ⟨1⟩ ⟨1⟩) predictOne (requestAt 1)
          none) := by
  have outcomes : (reviewedSession.map fun session =>
      let step := reconcileSwapped session
      step.result.isOk && decide (step.session.intradayTargets = [⟨0⟩, ⟨1 / 2⟩]) &&
        decide (session.slotByCardId[(2 : Int64)]? = some 1) &&
        !lt ((session.candidateAt 1).predictionInput ⟨1⟩ ⟨1⟩).elapsedDays zero &&
        !lt ((session.candidateAt 1).predictionInput ⟨1⟩ ⟨1⟩).elapsedSeconds zero) = .ok true := by
    decide +kernel
  cases built : reviewedSession with
  | error message =>
      rw [built] at outcomes
      cases outcomes
  | ok session =>
      rw [built] at outcomes
      have facts := Except.ok.inj outcomes
      simp only [Bool.and_eq_true, Bool.not_eq_true', decide_eq_true_eq] at facts
      obtain ⟨⟨⟨⟨accepted, targets⟩, mapped⟩, days⟩, seconds⟩ := facts
      have spec := membership_reconciles
        (Reached.created built 30 : Reached (⟨session, [], 30⟩ : LiveRuntime Exact)) [2, 1]
        [editedSeed] predictOne (requestAt 1) none
      obtain ⟨succeeds, ordered, _, agrees⟩ := spec
      have succeeded : ∃ output, (reconcileSwapped session).result = .ok output := by
        cases result : (reconcileSwapped session).result with
        | error message =>
            rw [result] at accepted
            cases accepted
        | ok output => exact ⟨output, rfl⟩
      refine ⟨⟨session, [], 30⟩, succeeded, ?_, targets, ?_⟩
      · obtain ⟨output, result⟩ := succeeded
        exact ordered output result
      · apply agrees (succeeds.mp succeeded) exact_times
        intro cardId member unchanged slot found
        rw [List.mem_pair] at member
        rcases member with second | first
        · rw [second] at found
          have same := mapped.symm.trans found
          cases same
          exact fun _ => ⟨days, seconds⟩
        · exact absurd first.symm (unchanged editedSeed (List.mem_singleton_self _))

end RwkvSrs.MembershipReconcile
