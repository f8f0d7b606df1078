import RwkvSrs.LiveSessionInvariant
import RwkvSrs.ResultSteps

/-!
Upserts, retention changes and refreshes on the index. A refresh writes one
value per transported slot; when it also changes the retention extra, every
flag is recomputed and the order rebuilt, otherwise only the transported slots
move in the order.
-/

namespace RwkvSrs.LiveSessionRefresh

open Std RwkvSrs.LiveTypes RwkvSrs.LiveSessionState RwkvSrs.LiveSessionSelection
open RwkvSrs.LiveSessionRank RwkvSrs.LiveSessionIndex RwkvSrs.LiveSessionSlots
open RwkvSrs.LiveSessionOrder RwkvSrs.LiveSessionMembership RwkvSrs.LiveSessionOperations
open RwkvSrs.LiveSessionInvariant RwkvSrs.LiveUndoFrame RwkvSrs.ResultSteps SessionFloat

set_option autoImplicit false
set_option linter.unusedSectionVars false

variable {F : Type} [SessionFloat F] {flagged : Prop}

/-- The form every seed value has before its first prediction. -/
structure PendingValue (value : LiveCandidateValue F) : Prop where
  pending : value.status = .pendingRefresh
  notEligible : value.eligible = false

private theorem from_seed_card {seed : LiveCandidateSeed F}
    {targetTimestampSeconds targetDayOffset : F} {candidate : LiveCandidate F}
    (built : LiveCandidate.fromSeed seed targetTimestampSeconds targetDayOffset = .ok candidate) :
    candidate.cardId = seed.row.cardId := by
  simp only [LiveCandidate.fromSeed, bind, Except.bind, throw, throwThe, MonadExceptOf.throw,
    pure, Except.pure] at built
  repeat' split at built
  all_goals cases built
  all_goals rfl

theorem candidate_value_pending {seed : LiveCandidateSeed F}
    {targetTimestampSeconds targetDayOffset : F} {value : LiveCandidateValue F}
    (built : candidateValueFromSeed seed targetTimestampSeconds targetDayOffset = .ok value) :
    PendingValue value ∧ value.candidate.cardId = seed.row.cardId := by
  obtain ⟨candidate, parsed, finished⟩ := bind_ok.mp built
  cases finished
  exact ⟨⟨rfl, rfl⟩, from_seed_card parsed⟩

/-- The value an upsert stores into an existing slot. -/
def upsertKept (status : CandidateStatus) (value : LiveCandidateValue F) : LiveCandidateValue F :=
  if status.isExcluded then { value with status := .excludedPendingRefresh } else value

theorem upsert_kept_facts {value : LiveCandidateValue F} (pending : PendingValue value)
    (status : CandidateStatus) (retentionExtra : F) :
    (upsertKept status value).status ≠ .removed ∧
      (upsertKept status value).candidate = value.candidate ∧
      FlagFresh retentionExtra (upsertKept status value) := by
  unfold upsertKept
  by_cases excluded : status.isExcluded = true
  · rw [if_pos excluded]
    exact ⟨by simp, rfl, flag_fresh_of_unusable _ rfl pending.notEligible⟩
  · rw [if_neg excluded]
    refine ⟨by simp [pending.pending], rfl, flag_fresh_of_unusable _ ?_ pending.notEligible⟩
    rw [pending.pending]
    rfl

/-- Forgetting a card and mapping it to the same slot again changes nothing. -/
theorem unmap_map_same {index : LiveIndex F} {cardId : Int64} {slot : Nat}
    (found : index.slotByCardId[cardId]? = some slot) :
    (index.unmap cardId).map cardId slot = index := by
  have sameMap : (index.slotByCardId.erase cardId).insert cardId slot = index.slotByCardId := by
    apply ExtTreeMap.ext_getElem?
    intro other
    rw [ExtTreeMap.getElem?_insert, ExtTreeMap.getElem?_erase]
    by_cases same : cardId = other
    · subst same
      simp [found]
    · simp [same]
  unfold LiveIndex.unmap LiveIndex.map
  simp only [sameMap]

/-- One upserted value, on the index. -/
def upsertIndex (index : LiveIndex F) (value : LiveCandidateValue F) : LiveIndex F :=
  match index.slotByCardId[value.candidate.cardId]? with
  | some slot => index.write slot (upsertKept (index.value slot).status value)
  | none => index.append value

theorem index_upsert_value {state : LivePredictionSessionState F} (slots : SlotsExact state)
    {value : LiveCandidateValue F} (pending : PendingValue value)
    (undo : Option (LiveIndexUndoFrame F)) :
    indexOf (upsertValue (state, undo) value).1 = upsertIndex (indexOf state) value := by
  unfold upsertValue upsertIndex
  change indexOf (Prod.fst (match state.slotByCardId[value.candidate.cardId]? with
    | some slot => _
    | none => _)) = match state.slotByCardId[value.candidate.cardId]? with
    | some slot => _
    | none => _
  cases found : state.slotByCardId[value.candidate.cardId]? with
  | none => exact index_append_slot slots.sized value
  | some slot =>
      have live : (indexOf state).Live slot := LiveIndex.live_of_mapped slots.mapped found
      have sameCard : (state.candidateAt slot).cardId = value.candidate.cardId :=
        LiveIndex.card_of_mapped slots.mapped found
      obtain ⟨kept, sameCandidate, _⟩ := upsert_kept_facts pending (state.status slot)
        state.retentionExtra
      change indexOf (state.restoreValue slot (upsertKept (state.status slot) value)) = _
      rw [index_restore_value slots.sized (exact_live_range slots live), if_neg kept, sameCandidate,
        sameCard]
      exact unmap_map_same found

theorem upsert_value_slots {state : LivePredictionSessionState F} (slots : SlotsExact state)
    {value : LiveCandidateValue F} (pending : PendingValue value)
    (undo : Option (LiveIndexUndoFrame F)) :
    SlotsExact (upsertValue (state, undo) value).1 ∧
      ((indexOf state).Fresh → (indexOf (upsertValue (state, undo) value).1).Fresh) := by
  have written := index_upsert_value slots pending undo
  unfold upsertIndex at written
  change _ = match state.slotByCardId[value.candidate.cardId]? with
    | some slot => _
    | none => _ at written
  cases found : state.slotByCardId[value.candidate.cardId]? with
  | none =>
      rw [found] at written
      have same : (upsertValue (state, undo) value).1 = state.appendSlot value := by
        unfold upsertValue
        simp only [found]
      rw [same] at written ⊢
      refine ⟨⟨append_slot_sized slots.sized value, ?_, ?_⟩, ?_⟩
      · intro mark member
        rcases List.mem_append.mp member with old | new
        · exact slots.bounded mark old
        · rw [List.mem_singleton.mp new]
          exact UInt64.zero_le
      · rw [written]
        exact LiveIndex.append_mapped slots.mapped (by simp [pending.pending]) found
      · intro fresh
        rw [written]
        refine LiveIndex.append_fresh fresh (flag_fresh_of_unusable _ ?_ pending.notEligible)
        rw [pending.pending]
        rfl
  | some slot =>
      rw [found] at written
      have live : (indexOf state).Live slot := LiveIndex.live_of_mapped slots.mapped found
      have sameCard : (indexOf state).card slot = value.candidate.cardId :=
        LiveIndex.card_of_mapped slots.mapped found
      obtain ⟨kept, sameCandidate, flag⟩ := upsert_kept_facts pending (state.status slot)
        state.retentionExtra
      have same : (upsertValue (state, undo) value).1 =
          state.restoreValue slot (upsertKept (state.status slot) value) := by
        unfold upsertValue upsertKept
        simp only [found]
      rw [same] at written ⊢
      refine ⟨⟨restore_value_sized slots.sized slot _, slots.bounded, ?_⟩, ?_⟩
      · rw [written]
        refine LiveIndex.write_mapped slots.mapped live kept ?_
        rw [sameCard]
        exact congrArg LiveCandidate.cardId sameCandidate
      · intro fresh
        rw [written]
        exact LiveIndex.write_fresh fresh flag

private theorem upsert_fold_slots {values : List (LiveCandidateValue F)}
    (pending : ∀ value ∈ values, PendingValue value)
    (current : LivePredictionSessionState F × Option (LiveIndexUndoFrame F))
    (slots : SlotsExact current.1) :
    SlotsExact (values.foldl upsertValue current).1 ∧
      ((indexOf current.1).Fresh → (indexOf (values.foldl upsertValue current).1).Fresh) := by
  induction values generalizing current with
  | nil => exact ⟨slots, id⟩
  | cons value values ih =>
      have head := upsert_value_slots slots (pending value (by simp)) current.2
      have rest := ih (fun other member => pending other (List.mem_cons_of_mem _ member)) _ head.1
      exact ⟨rest.1, fun fresh => rest.2 (head.2 fresh)⟩

theorem seed_values_pending {seeds : List (LiveCandidateSeed F)}
    {targetTimestampSeconds targetDayOffset : F} {values : List (LiveCandidateValue F)}
    (built : seeds.mapM (fun seed =>
      candidateValueFromSeed seed targetTimestampSeconds targetDayOffset) = .ok values) :
    ∀ value ∈ values, PendingValue value := by
  intro value member
  obtain ⟨seed, _, parsed⟩ := mapM_ok_mem built member
  exact (candidate_value_pending parsed).1

theorem upsert_candidates_exact {state : LivePredictionSessionState F}
    (exact : SessionExact flagged state) (seeds : List (LiveCandidateSeed F))
    (undo : Option (LiveIndexUndoFrame F)) :
    SessionExact flagged (upsertCandidates state seeds undo).session := by
  unfold upsertCandidates
  split
  · exact exact
  · split
    · exact exact
    · next values built =>
        have swept := upsert_fold_slots (seed_values_pending built) (state, undo)
          exact.toSlotsExact
        exact exact_after_rebuild ⟨swept.1.sized, swept.1.bounded, swept.1.mapped⟩
          fun current => swept.2 (exact.fresh current)

theorem set_retention_exact {state : LivePredictionSessionState F} (exact : SessionExact flagged state)
    (value : F) (undo : Option (LiveIndexUndoFrame F)) :
    SessionExact flagged (setRetentionExtra state value undo).session := by
  unfold setRetentionExtra
  split
  · exact exact
  · have sized : SlotsSized { state with retentionExtra := value } := exact.sized
    have written := index_recompute sized
    have mapped : (indexOf { state with retentionExtra := value }).Mapped :=
      ⟨exact.mapped.blank, exact.mapped.mapped⟩
    have slots : SlotsExact
        ({ state with retentionExtra := value } : LivePredictionSessionState F).recomputeAllEligibilities := by
      refine ⟨recompute_sized sized, ?_, written ▸ LiveIndex.reflagged_mapped mapped⟩
      obtain ⟨eligibilities, shape⟩ := recompute_shape { state with retentionExtra := value }
      rw [shape]
      exact exact.bounded
    exact with_generation_exact (exact_after_rebuild slots
      fun _ => written ▸ LiveIndex.reflagged_fresh)

/-- The value a refresh leaves in a transported slot. -/
def refreshedValue (retentionExtra targetTimestampSeconds targetDayOffset : F)
    (value : LiveCandidateValue F) (prediction : F) (input : ReviewInput F) :
    LiveCandidateValue F :=
  freshValue retentionExtra { value with
    candidate := { value.candidate with
      queryTimestampSeconds := targetTimestampSeconds
      queryDayOffset := targetDayOffset
      queriedElapsedDays := input.elapsedDays
      queriedElapsedSeconds := input.elapsedSeconds }
    prediction := prediction
    status := value.status.refreshed }

private theorem index_applied_slot {state : LivePredictionSessionState F} (sized : SlotsSized state)
    {entry : Nat × F × ReviewInput F} (inRange : entry.1 < state.candidateCount)
    (targetTimestampSeconds targetDayOffset : F) :
    SlotsSized (applyRefreshedSlot targetTimestampSeconds targetDayOffset state entry) ∧
    indexOf (applyRefreshedSlot targetTimestampSeconds targetDayOffset state entry) =
      (indexOf state).write entry.1 (refreshedValue state.retentionExtra targetTimestampSeconds
        targetDayOffset (state.value entry.1) entry.2.1 entry.2.2) := by
  obtain ⟨slot, prediction, input⟩ := entry
  set saved : LiveRefreshUndoValue F := {
    queryTimestampSeconds := targetTimestampSeconds
    queryDayOffset := targetDayOffset
    queriedElapsedDays := input.elapsedDays
    queriedElapsedSeconds := input.elapsedSeconds
    prediction := prediction
    status := (state.status slot).refreshed
    eligible := state.eligibility slot } with savedDef
  have kept : state.eligibilities.set slot (state.eligibility slot) = state.eligibilities := by
    apply List.ext_getElem (List.length_set)
    intro position _ bound
    rw [List.getElem_set]
    split
    · next same =>
        subst same
        exact List.getD_eq_getElem _ _ bound
    · rfl
  set updated : LivePredictionSessionState F := state.restoreRefreshValue slot saved with updatedDef
  have shape : applyRefreshedSlot targetTimestampSeconds targetDayOffset state
      (slot, prediction, input) = updated.setEligibility slot (updated.calculateEligibility slot) := by
    rw [updatedDef]
    unfold LivePredictionSessionState.restoreRefreshValue
    rw [show saved.eligible = state.eligibility slot from rfl, kept]
    rfl
  have updatedSized : SlotsSized updated := restore_refresh_value_sized sized slot saved
  have updatedIndex := index_restore_refresh_value sized inRange saved
  have slotValue : updated.value slot = saved.restoreFullValue (state.value slot) := by
    rw [show updated.value slot = _ from congrFun (congrArg LiveIndex.value updatedIndex) slot]
    exact Function.update_self _ _ _
  have updatedRange : slot < updated.candidateCount := by
    rw [show updated.candidateCount = state.candidateCount from List.length_set]
    exact inRange
  rw [shape]
  refine ⟨set_eligibility_sized updatedSized slot _, ?_⟩
  rw [index_set_eligibility updatedSized updatedRange, slotValue, calculate_eligibility_value,
    slotValue, updatedIndex, LiveIndex.write_write]
  rfl

/-- What the refresh loop does to the index, read off slot by slot. -/
structure RefreshedIndex (before after : LiveIndex F)
    (targetTimestampSeconds targetDayOffset : F) (entries : List (Nat × F × ReviewInput F)) :
    Prop where
  sameRest : after = { before with value := after.value }
  listed : ∀ entry ∈ entries, after.value entry.1 = refreshedValue before.retentionExtra
    targetTimestampSeconds targetDayOffset (before.value entry.1) entry.2.1 entry.2.2
  others : ∀ slot, slot ∉ entries.map Prod.fst → after.value slot = before.value slot

private theorem refreshed_mapped {index : LiveIndex F} (mapped : index.Mapped) {slot : Nat}
    (live : index.Live slot) (retentionExtra targetTimestampSeconds targetDayOffset prediction : F)
    (input : ReviewInput F) :
    (index.write slot (refreshedValue retentionExtra targetTimestampSeconds targetDayOffset
      (index.value slot) prediction input)).Mapped :=
  LiveIndex.write_mapped mapped live (refreshed_kept live).1 rfl

theorem applied_slots {entries : List (Nat × F × ReviewInput F)}
    (targetTimestampSeconds targetDayOffset : F) (distinct : (entries.map Prod.fst).Nodup)
    {state : LivePredictionSessionState F} (slots : SlotsExact state)
    (live : ∀ entry ∈ entries, (indexOf state).Live entry.1) :
    let applied := entries.foldl (applyRefreshedSlot targetTimestampSeconds targetDayOffset) state
    SlotsExact applied ∧ RefreshedIndex (indexOf state) (indexOf applied) targetTimestampSeconds
      targetDayOffset entries := by
  induction entries generalizing state with
  | nil =>
      refine ⟨slots, rfl, ?_, fun _ _ => rfl⟩
      intro entry member
      cases member
  | cons entry entries ih =>
      obtain ⟨notLater, restDistinct⟩ := List.nodup_cons.mp distinct
      have headLive := live entry (by simp)
      obtain ⟨headSized, headIndex⟩ := index_applied_slot slots.sized
        (exact_live_range slots headLive) targetTimestampSeconds targetDayOffset
      set next := applyRefreshedSlot targetTimestampSeconds targetDayOffset state entry with nextDef
      have nextSlots : SlotsExact next := by
        refine ⟨headSized, slots.bounded, ?_⟩
        rw [headIndex]
        exact refreshed_mapped slots.mapped headLive _ _ _ _ _
      have elsewhere : ∀ slot, slot ≠ entry.1 →
          (indexOf next).value slot = (indexOf state).value slot := by
        intro slot different
        rw [headIndex]
        exact Function.update_of_ne different _ _
      have restLive : ∀ other ∈ entries, (indexOf next).Live other.1 := by
        intro other member
        have different : other.1 ≠ entry.1 := fun same =>
          notLater (same ▸ List.mem_map_of_mem member)
        unfold LiveIndex.Live
        rw [elsewhere other.1 different]
        exact live other (List.mem_cons_of_mem _ member)
      obtain ⟨appliedSlots, applied⟩ := ih restDistinct nextSlots restLive
      change SlotsExact (entries.foldl _ next) ∧
        RefreshedIndex _ (indexOf (entries.foldl _ next)) _ _ _
      refine ⟨appliedSlots, ?_, ?_, ?_⟩
      · rw [applied.sameRest, headIndex]
        rfl
      · intro other member
        rcases List.mem_cons.mp member with same | later
        · subst same
          rw [applied.others other.1 notLater, headIndex]
          exact Function.update_self _ _ _
        · have different : other.1 ≠ entry.1 := fun same =>
            notLater (same ▸ List.mem_map_of_mem later)
          have read := applied.listed other later
          rw [elsewhere other.1 different] at read
          rw [read, headIndex]
          rfl
      · intro slot outside
        rw [List.map_cons, List.mem_cons, not_or] at outside
        rw [applied.others slot outside.2, elsewhere slot outside.1]

theorem selection_ready {state : LivePredictionSessionState F} (exact : SessionExact flagged state) :
    SelectionReady state where
  sized := exact.sized
  bounded := exact.bounded
  distinct := KeyedOrder.ranked_nodup exact.ordered.ranked
  inRange slot member := exact_live_range exact.toSlotsExact ((exact.ordered.listed slot).mp member)

/-- The slots a caller excludes from the refresh by card id. -/
def excludedFromRefresh (state : LivePredictionSessionState F) (excludedCardIds : List Int64)
    (slot : Nat) : Bool :=
  (excludedCardIds.filterMap fun cardId => state.slotByCardId[cardId]?).contains slot

theorem select_membership_by (state : LivePredictionSessionState F)
    (excludedCardIds : List Int64) :
    selectRefreshMembership state excludedCardIds =
      selectRefreshMembershipBy (excludedFromRefresh state excludedCardIds) state := by
  unfold selectRefreshMembership
  split
  · next none =>
      rw [List.isEmpty_iff.mp none]
      rfl
  · rfl

theorem membership_exact {state : LivePredictionSessionState F} (exact : SessionExact flagged state)
    (excludedCardIds : List Int64) :
    let selected := selectRefreshMembership state excludedCardIds
    SessionExact flagged selected ∧ indexOf selected = indexOf state ∧ selected.transportSlots.Nodup ∧
      ∀ slot ∈ selected.transportSlots, (indexOf state).Live slot := by
  obtain ⟨marks, generation, shape, sameLength, below⟩ :=
    select_membership_spec (selection_ready exact) (excludedFromRefresh state excludedCardIds)
  rw [← select_membership_by] at shape
  rw [shape]
  have sized : SlotsSized state := exact.sized
  obtain ⟨predictions, normal, intraday, ties, randoms, statuses, eligibilities, oldMarks⟩ := sized
  have marked : marks.length = state.candidates.length := sameLength.trans oldMarks
  refine ⟨⟨⟨⟨predictions, normal, intraday, ties, randoms, statuses, eligibilities, marked⟩, below,
    exact.mapped⟩, exact.ordered, exact.fresh⟩, rfl, List.nodup_range.filter _, ?_⟩
  intro slot member removed
  rw [List.mem_filter, decide_eq_true_eq] at member
  have included := refresh_selection_included member.2
  rw [show state.status slot = .removed from removed] at included
  cases included

theorem select_final_exact {state : LivePredictionSessionState F} (exact : SessionExact flagged state)
    (selectLimit : Nat) (excludedCardIds : List Int64) :
    SessionExact flagged (selectFinal state selectLimit excludedCardIds).1 ∧
      indexOf (selectFinal state selectLimit excludedCardIds).1 = indexOf state := by
  unfold selectFinal
  split
  · exact ⟨exact, rfl⟩
  · unfold finalSelectionMarkedExclusion
    have below := mark_slots_bounded (advance_mark_bounded exact.bounded)
      (excludedCardIds.filterMap fun cardId => state.slotByCardId[cardId]?)
    obtain ⟨marks, generation, shape, sameLength⟩ := advance_mark_shape state
    rw [shape] at below ⊢
    have sized : SlotsSized state := exact.sized
    obtain ⟨predictions, normal, intraday, ties, randoms, statuses, eligibilities, oldMarks⟩ := sized
    have marked := (set_all_length (excludedCardIds.filterMap fun cardId =>
      state.slotByCardId[cardId]?) generation marks).trans (sameLength.trans oldMarks)
    exact ⟨⟨⟨⟨predictions, normal, intraday, ties, randoms, statuses, eligibilities, marked⟩, below,
      exact.mapped⟩, exact.ordered, exact.fresh⟩, rfl⟩

/-- What a successful refresh does to the index. -/
def RefreshOutcome [DecidableEq F] (request : RefreshRequest F) (before after : LiveIndex F)
    (entries : List (Nat × F × ReviewInput F)) : Prop :=
  ∃ applied : LiveIndex F, RefreshedIndex
      (before.retimed request.retentionExtra request.targetTimestampSeconds request.targetDayOffset)
      applied request.targetTimestampSeconds request.targetDayOffset entries ∧
    after = if before.retentionExtra = request.retentionExtra then applied else applied.reflagged

/-- The session of `commit_refresh` once its order is maintained. -/
def orderedRefresh [DecidableEq F] (request : RefreshRequest F) (state : LivePredictionSessionState F)
    (inputs : List (ReviewInput F)) (predictions : List F) : LivePredictionSessionState F :=
  let retentionChanged := decide (state.retentionExtra ≠ request.retentionExtra)
  let retimed := { state with
    retentionExtra := request.retentionExtra
    targetTimestampSeconds := request.targetTimestampSeconds
    targetDayOffset := request.targetDayOffset }
  let applied := (state.transportSlots.zip (predictions.zip inputs)).foldl
    (applyRefreshedSlot request.targetTimestampSeconds request.targetDayOffset) retimed
  let recomputed := if retentionChanged then applied.recomputeAllEligibilities else applied
  (commitRefreshDebug recomputed).updateOrderAfterRefresh state.transportSlots retentionChanged

def finishedRefresh (request : RefreshRequest F) (ordered : LivePredictionSessionState F) :
    LivePredictionSessionState F :=
  let next := (selectFinal ordered request.selectLimit request.excludedCardIds).1.advanceGeneration
  { next with profile := { next.profile with refreshCalls := next.profile.refreshCalls + 1 } }

theorem finished_refresh_exact (request : RefreshRequest F) {ordered : LivePredictionSessionState F}
    (exact : SessionExact flagged ordered) : SessionExact flagged (finishedRefresh request ordered) ∧
      indexOf (finishedRefresh request ordered) = indexOf ordered := by
  obtain ⟨final, sameIndex⟩ :=
    select_final_exact exact request.selectLimit request.excludedCardIds
  exact ⟨⟨⟨final.sized, final.bounded, final.mapped⟩, final.ordered, final.fresh⟩, sameIndex⟩

private theorem applied_ordered_slots (entries : List (Nat × F × ReviewInput F))
    (targetTimestampSeconds targetDayOffset : F) (state : LivePredictionSessionState F) :
    (entries.foldl (applyRefreshedSlot targetTimestampSeconds targetDayOffset)
      state).orderedSlots = state.orderedSlots := by
  induction entries generalizing state with
  | nil => rfl
  | cons entry entries ih => exact ih _

theorem ordered_refresh_exact [DecidableEq F] {request : RefreshRequest F}
    {state : LivePredictionSessionState F} (exact : SessionExact flagged state)
    (distinct : state.transportSlots.Nodup)
    (live : ∀ slot ∈ state.transportSlots, (indexOf state).Live slot)
    {inputs : List (ReviewInput F)} {predictions : List F}
    (inputCount : inputs.length = state.transportSlots.length)
    (predictionCount : predictions.length = state.transportSlots.length) :
    SessionExact flagged (orderedRefresh request state inputs predictions) ∧
      RefreshOutcome request (indexOf state)
        (indexOf (orderedRefresh request state inputs predictions))
        (state.transportSlots.zip (predictions.zip inputs)) := by
  set entries := state.transportSlots.zip (predictions.zip inputs) with entriesDef
  set retimed : LivePredictionSessionState F := { state with
    retentionExtra := request.retentionExtra
    targetTimestampSeconds := request.targetTimestampSeconds
    targetDayOffset := request.targetDayOffset } with retimedDef
  have entrySlots : entries.map Prod.fst = state.transportSlots := by
    rw [entriesDef, List.map_fst_zip]
    rw [List.length_zip, predictionCount, inputCount]
    omega
  have retimedSlots : SlotsExact retimed :=
    ⟨exact.sized, exact.bounded, ⟨exact.mapped.blank, exact.mapped.mapped⟩⟩
  have entriesLive : ∀ entry ∈ entries, (indexOf retimed).Live entry.1 := by
    intro entry member
    apply live
    rw [← entrySlots]
    exact List.mem_map_of_mem member
  obtain ⟨appliedSlots, applied⟩ := applied_slots request.targetTimestampSeconds
    request.targetDayOffset (entrySlots.symm ▸ distinct) retimedSlots entriesLive
  have sameOrdered := applied_ordered_slots entries request.targetTimestampSeconds
    request.targetDayOffset retimed
  set current := entries.foldl
    (applyRefreshedSlot request.targetTimestampSeconds request.targetDayOffset) retimed
    with currentDef
  have sameExtra : (indexOf current).retentionExtra = request.retentionExtra :=
    congrArg LiveIndex.retentionExtra applied.sameRest
  by_cases same : state.retentionExtra = request.retentionExtra
  · -- Only the transported slots change, and their flags are computed one by one.
    have stage : orderedRefresh request state inputs predictions =
        (commitRefreshDebug current).updateOrderAfterRefresh state.transportSlots false := by
      unfold orderedRefresh
      simp only [same, ne_eq, not_true_eq_false, decide_false, Bool.false_eq_true, if_false]
      rfl
    have fresh : flagged → (indexOf current).Fresh := by
      intro known slot
      rw [sameExtra]
      by_cases member : slot ∈ entries.map Prod.fst
      · obtain ⟨entry, entryMember, rfl⟩ := List.mem_map.mp member
        rw [applied.listed entry entryMember]
        exact fresh_value_fresh _ _
      · rw [applied.others slot member, ← same]
        exact exact.fresh known slot
    have slots : SlotsExact (commitRefreshDebug current) :=
      ⟨appliedSlots.sized, appliedSlots.bounded, appliedSlots.mapped⟩
    have before : (indexOf state).Ordered (commitRefreshDebug current).orderedSlots :=
      sameOrdered.symm ▸ exact.ordered
    have sameOrder : (indexOf state).order = (commitRefreshDebug current).order :=
      (congrArg LiveIndex.order applied.sameRest).symm
    have sameCount : (commitRefreshDebug current).candidateCount = state.candidateCount :=
      congrArg LiveIndex.count applied.sameRest
    rw [stage]
    refine ⟨exact_after_update slots fresh before sameOrder distinct ?_ ?_,
      indexOf current, applied, ?_⟩
    · intro slot member
      rw [sameCount]
      exact exact_live_range exact.toSlotsExact (live slot member)
    · intro slot outside
      exact (applied.others slot (entrySlots.symm ▸ outside)).symm
    · rw [index_update_order]
      exact (if_pos same).symm
  · have stage : orderedRefresh request state inputs predictions =
        (commitRefreshDebug current.recomputeAllEligibilities).updateOrderAfterRefresh
          state.transportSlots true := by
      unfold orderedRefresh
      simp only [same, ne_eq, not_false_eq_true, decide_true, if_true]
      rfl
    have written := index_recompute appliedSlots.sized
    have sized := recompute_sized appliedSlots.sized
    have mapped : (indexOf current.recomputeAllEligibilities).Mapped :=
      written ▸ LiveIndex.reflagged_mapped appliedSlots.mapped
    have bounded : MarksBounded current.recomputeAllEligibilities := by
      obtain ⟨eligibilities, shape⟩ := recompute_shape current
      rw [shape]
      exact appliedSlots.bounded
    have fresh : (indexOf current.recomputeAllEligibilities).Fresh :=
      written ▸ LiveIndex.reflagged_fresh
    have debugSized : SlotsSized (commitRefreshDebug current.recomputeAllEligibilities) := sized
    have debugBounded : MarksBounded (commitRefreshDebug current.recomputeAllEligibilities) := bounded
    have sameIndex := index_update_order (commitRefreshDebug current.recomputeAllEligibilities)
      state.transportSlots true
    rw [stage]
    refine ⟨⟨⟨update_order_sized debugSized _ _, update_order_bounded debugBounded _ _, ?_⟩,
      ?_, ?_⟩, indexOf current, applied, ?_⟩
    · rw [sameIndex]
      exact mapped
    · rw [sameIndex]
      exact forced_order_ordered debugSized mapped state.transportSlots
    · intro _
      rw [sameIndex]
      exact fresh
    · rw [sameIndex]
      exact Eq.trans written (if_neg same).symm

/-- The rows a refresh sends to the predictor. -/
def refreshInputs (request : RefreshRequest F) (state : LivePredictionSessionState F) :
    List (ReviewInput F) :=
  state.transportSlots.map fun slot =>
    (state.candidateAt slot).predictionInput request.targetTimestampSeconds request.targetDayOffset

/-- The four ways a refresh can end: rejected arguments, unusable rows, a failed
prediction, a commit. -/
theorem refresh_cases [DecidableEq F] (state : LivePredictionSessionState F)
    (predict : Predictor F) (request : RefreshRequest F) (undo : Option (LiveIndexUndoFrame F)) :
    let step := refreshLiveSession state predict request undo
    let chosen := selectRefreshMembership state request.excludedRefreshCardIds
    (step.session = state ∧ step.undo = undo ∧ step.result.isOk = false) ∨
    (step.session = chosen ∧ step.undo = undo ∧ step.result.isOk = false) ∨
    (step.session = failedRefresh chosen ∧ step.undo = undo ∧ step.result.isOk = false) ∨
    ∃ predictions, predictions.length = chosen.transportSlots.length ∧
      step.session = (commitRefresh request chosen (refreshInputs request chosen) predictions).1 ∧
      (step.undo = undo.map fun frame =>
        chosen.transportSlots.foldl (fun frame slot => frame.recordRefreshSlot chosen slot) frame) ∧
      step.result.isOk = true := by
  unfold refreshLiveSession
  split
  · exact Or.inl ⟨rfl, rfl, rfl⟩
  · exact Or.inl ⟨rfl, rfl, rfl⟩
  · simp only
    split
    · exact Or.inr (Or.inl ⟨rfl, rfl, rfl⟩)
    · split
      · exact Or.inr (Or.inr (Or.inl ⟨rfl, rfl, rfl⟩))
      · next predictions _ =>
          split
          · exact Or.inr (Or.inr (Or.inl ⟨rfl, rfl, rfl⟩))
          · next sameCount =>
              exact Or.inr (Or.inr (Or.inr
                ⟨predictions, not_not.mp sameCount, rfl, rfl, rfl⟩))

/-- Whether a refresh succeeds does not depend on the frame it records into. -/
theorem refresh_result_unrecorded [DecidableEq F] (state : LivePredictionSessionState F)
    (predict : Predictor F) (request : RefreshRequest F) (undo : Option (LiveIndexUndoFrame F)) :
    (refreshLiveSession state predict request undo).result =
      (refreshLiveSession state predict request none).result := by
  unfold refreshLiveSession
  split
  · rfl
  · rfl
  · simp only
    split
    · rfl
    · split
      · rfl
      · split <;> rfl

theorem failed_refresh_exact {state : LivePredictionSessionState F} (exact : SessionExact flagged state) :
    SessionExact flagged (failedRefresh state) :=
  ⟨⟨exact.sized, exact.bounded, exact.mapped⟩, exact.ordered, exact.fresh⟩

/-- A committed refresh of the chosen slots. -/
theorem committed_refresh [DecidableEq F] {state : LivePredictionSessionState F}
    (exact : SessionExact flagged state) (request : RefreshRequest F) (predictions : List F)
    (sameCount : predictions.length =
      (selectRefreshMembership state request.excludedRefreshCardIds).transportSlots.length) :
    let chosen := selectRefreshMembership state request.excludedRefreshCardIds
    let committed := (commitRefresh request chosen (refreshInputs request chosen) predictions).1
    SessionExact flagged committed ∧ RefreshOutcome request (indexOf state) (indexOf committed)
      (chosen.transportSlots.zip (predictions.zip (refreshInputs request chosen))) := by
  obtain ⟨selected, sameIndex, distinct, live⟩ :=
    membership_exact exact request.excludedRefreshCardIds
  set chosen := selectRefreshMembership state request.excludedRefreshCardIds with chosenDef
  have transported : ∀ slot ∈ chosen.transportSlots, (indexOf chosen).Live slot :=
    sameIndex.symm ▸ live
  have inputCount : (refreshInputs request chosen).length = chosen.transportSlots.length :=
    List.length_map _
  obtain ⟨orderedExact, outcome⟩ :=
    ordered_refresh_exact selected distinct transported inputCount sameCount
  obtain ⟨finished, finishedIndex⟩ := finished_refresh_exact request orderedExact
  rw [← finishedIndex, sameIndex] at outcome
  exact ⟨finished, outcome⟩

end RwkvSrs.LiveSessionRefresh
