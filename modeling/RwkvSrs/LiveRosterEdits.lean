import RwkvSrs.LiveRoster

/-!
Every edit of a live session keeps its roster. What an edit records into an undo
frame are slots of the session it is applied to, and a replacement saves the
roster it replaces.
-/

namespace RwkvSrs.LiveRosterEdits

open Std RwkvSrs.LiveTypes RwkvSrs.LiveSessionState RwkvSrs.LiveSessionSelection
open RwkvSrs.LiveSessionOperations RwkvSrs.LiveUndoFrame RwkvSrs.LiveUndoEdits
open RwkvSrs.LiveUndoRuns RwkvSrs.LiveIndexRuns RwkvSrs.ResultSteps RwkvSrs.LiveRoster
open RwkvSrs.LiveSessionStaging SessionFloat

set_option autoImplicit false
set_option linter.unusedSectionVars false

variable {F : Type} [SessionFloat F]

/-- An edit keeps the roster, and what it records keeps the frame. -/
structure EditKept (before : LivePredictionSessionState F) (undo : Option (LiveIndexUndoFrame F))
    (after : LivePredictionSessionState F) (next : Option (LiveIndexUndoFrame F)) : Prop where
  roster : Kept (rosterOf after)
  recorded : ∃ record : LiveIndexUndoFrame F → LiveIndexUndoFrame F, next = undo.map record ∧
    ∀ frame, FrameKept before.candidates.length frame →
      FrameKept after.candidates.length (record frame) ∧
        baseCount before.candidates.length frame ≤
          baseCount after.candidates.length (record frame)

theorem edit_unrecorded {before after : LivePredictionSessionState F}
    (kept : Kept (rosterOf after))
    (same : after.candidates.length = before.candidates.length)
    (undo : Option (LiveIndexUndoFrame F)) : EditKept before undo after undo := by
  refine ⟨kept, id, by simp, ?_⟩
  intro frame frameKept
  rw [same]
  exact ⟨frameKept, Nat.le_refl _⟩

theorem edit_same_roster {before after : LivePredictionSessionState F}
    (kept : Kept (rosterOf before)) (same : rosterOf after = rosterOf before)
    (undo : Option (LiveIndexUndoFrame F)) : EditKept before undo after undo := by
  apply edit_unrecorded (same ▸ kept)
  exact congrArg (fun roster => roster.candidates.length) same

theorem edit_trans {first second third : LivePredictionSessionState F}
    {undo middle next : Option (LiveIndexUndoFrame F)} (left : EditKept first undo second middle)
    (right : EditKept second middle third next) : EditKept first undo third next := by
  obtain ⟨early, earlyIs, earlyKept⟩ := left.recorded
  obtain ⟨late, lateIs, lateKept⟩ := right.recorded
  refine ⟨right.roster, late ∘ early, ?_, ?_⟩
  · rw [lateIs, earlyIs, Option.map_map]
  · intro frame kept
    obtain ⟨between, grown⟩ := earlyKept frame kept
    obtain ⟨last, more⟩ := lateKept _ between
    exact ⟨last, Nat.le_trans grown more⟩

/-- A call that extends the frame without a replacement. -/
theorem edit_extended {before after : LivePredictionSessionState F}
    (kept : Kept (rosterOf after))
    (grows : before.candidates.length ≤ after.candidates.length)
    (undo : Option (LiveIndexUndoFrame F)) (record : LiveIndexUndoFrame F → LiveIndexUndoFrame F)
    (extended : ∀ frame, FrameExtended after.candidates.length frame (record frame)) :
    EditKept before undo after (undo.map record) := by
  refine ⟨kept, record, rfl, ?_⟩
  intro frame frameKept
  exact extended_kept grows frameKept (extended frame)

theorem candidate_read {state : LivePredictionSessionState F} {slot : Nat}
    (inside : slot < state.candidates.length) :
    state.candidates[slot]? = some (state.candidateAt slot) := by
  unfold LivePredictionSessionState.candidateAt
  rw [List.getD_eq_getElem _ _ inside, List.getElem?_eq_getElem inside]

theorem candidate_slot_found {state : LivePredictionSessionState F} {cardId : Int64} {slot : Nat}
    (found : state.candidateSlot cardId = .ok slot) : state.slotByCardId[cardId]? = some slot := by
  unfold LivePredictionSessionState.candidateSlot at found
  split at found
  · rename_i present
    cases found
    exact present
  · cases found

theorem mapped_candidate {state : LivePredictionSessionState F} (kept : Kept (rosterOf state))
    {cardId : Int64} {slot : Nat} (found : state.slotByCardId[cardId]? = some slot) :
    slot < state.candidates.length ∧ state.candidates[slot]? = some (state.candidateAt slot) ∧
      (state.candidateAt slot).cardId = cardId ∧ Anchored (state.candidateAt slot) := by
  obtain ⟨candidate, read, here, anchored⟩ := kept.members cardId slot found
  change state.candidates[slot]? = some candidate at read
  have same : state.candidateAt slot = candidate := by
    unfold LivePredictionSessionState.candidateAt
    rw [List.getD_eq_getElem?_getD, read]
    rfl
  rw [same]
  exact ⟨(List.getElem?_eq_some_iff.mp read).1, read, here, anchored⟩

theorem edit_card_kept {state : LivePredictionSessionState F} (kept : Kept (rosterOf state))
    (edit : LivePredictionSessionState F → Nat → LivePredictionSessionState F) (cardId : Int64)
    (undo : Option (LiveIndexUndoFrame F))
    (edited : ∀ slot, state.slotByCardId[cardId]? = some slot →
      Kept (rosterOf (edit state slot)) ∧
        (edit state slot).candidates.length = state.candidates.length) :
    EditKept state undo (editCard edit state cardId undo).session
      (editCard edit state cardId undo).undo := by
  unfold editCard
  split
  · exact edit_same_roster kept rfl undo
  · rename_i slot located
    have found := candidate_slot_found located
    obtain ⟨inside, _, _, anchored⟩ := mapped_candidate kept found
    obtain ⟨roster, same⟩ := edited slot found
    apply edit_extended roster (Nat.le_of_eq same.symm)
    intro frame
    apply extended_record_slot frame
    · rw [same]
      exact inside
    · exact anchored

theorem exclude_kept {state : LivePredictionSessionState F} (kept : Kept (rosterOf state))
    (cardId : Int64) (undo : Option (LiveIndexUndoFrame F)) :
    EditKept state undo (excludeCard state cardId undo).session
      (excludeCard state cardId undo).undo := by
  apply edit_card_kept kept
  intro slot _
  exact ⟨kept, rfl⟩

theorem include_kept {state : LivePredictionSessionState F} (kept : Kept (rosterOf state))
    (cardId : Int64) (undo : Option (LiveIndexUndoFrame F)) :
    EditKept state undo (includeCard state cardId undo).session
      (includeCard state cardId undo).undo := by
  apply edit_card_kept kept
  intro slot _
  exact ⟨kept, rfl⟩

theorem kept_erased {state : LivePredictionSessionState F} (kept : Kept (rosterOf state))
    (cardId : Int64) :
    Kept (rosterOf { state with slotByCardId := state.slotByCardId.erase cardId }) :=
  ⟨members_erased kept.members cardId, kept.batch, kept.refresh⟩

theorem remove_kept {state : LivePredictionSessionState F} (kept : Kept (rosterOf state))
    (cardId : Int64) (undo : Option (LiveIndexUndoFrame F)) :
    EditKept state undo (removeCard state cardId undo).session
      (removeCard state cardId undo).undo := by
  apply edit_card_kept kept
  intro slot _
  have same : rosterOf (removeSlot cardId state slot) =
      rosterOf { state with slotByCardId := state.slotByCardId.erase cardId } := by
    unfold removeSlot
    exact roster_update_order _ _ _
  constructor
  · rw [same]
    exact kept_erased kept cardId
  · exact congrArg (fun roster => roster.candidates.length) same

theorem candidate_value_anchored {seed : LiveCandidateSeed F}
    {targetTimestampSeconds targetDayOffset : F} {value : LiveCandidateValue F}
    (built : candidateValueFromSeed seed targetTimestampSeconds targetDayOffset = .ok value) :
    Anchored value.candidate ∧ value.status = .pendingRefresh := by
  obtain ⟨candidate, seeded, finished⟩ := bind_ok.mp built
  cases finished
  obtain ⟨accepted, same⟩ := from_seed_ok.mp seeded
  rw [same]
  exact ⟨seed_anchored accepted, rfl⟩

theorem kept_appended {state : LivePredictionSessionState F} (kept : Kept (rosterOf state))
    {value : LiveCandidateValue F} (anchored : Anchored value.candidate) :
    Kept (rosterOf (state.appendSlot value)) :=
  ⟨members_appended kept.members anchored, kept.batch, kept.refresh⟩

theorem kept_restored {state : LivePredictionSessionState F} (kept : Kept (rosterOf state))
    {slot : Nat} (inside : slot < state.candidates.length) {value : LiveCandidateValue F}
    (anchored : Anchored value.candidate) : Kept (rosterOf (state.restoreValue slot value)) := by
  have replaced := members_replaced kept.members (candidate_read inside) anchored
    (decide (value.status ≠ .removed))
  refine ⟨?_, kept.batch, kept.refresh⟩
  have map : (state.restoreValue slot value).slotByCardId =
      if decide (value.status ≠ .removed) then
        (state.slotByCardId.erase (state.candidateAt slot).cardId).insert value.candidate.cardId slot
      else state.slotByCardId.erase (state.candidateAt slot).cardId := by
    unfold LivePredictionSessionState.restoreValue
    dsimp only
    rw [if_pos inside]
    by_cases removed : value.status = .removed
    · simp [removed]
    · simp [removed]
  change Members (state.candidates.set slot value.candidate)
    (state.restoreValue slot value).slotByCardId
  rw [map]
  exact replaced

theorem upsert_value_kept {state : LivePredictionSessionState F} (kept : Kept (rosterOf state))
    (undo : Option (LiveIndexUndoFrame F)) {value : LiveCandidateValue F}
    (anchored : Anchored value.candidate) :
    EditKept state undo (upsertValue (state, undo) value).1 (upsertValue (state, undo) value).2 := by
  unfold upsertValue
  dsimp only
  split
  · rename_i slot found
    obtain ⟨inside, _, _, oldAnchored⟩ := mapped_candidate kept found
    have same : ∀ stored : LiveCandidateValue F,
        (state.restoreValue slot stored).candidates.length = state.candidates.length := by
      intro stored
      exact List.length_set
    apply edit_extended
    · apply kept_restored kept inside
      split
      · exact anchored
      · exact anchored
    · rw [same]
    · intro frame
      apply extended_record_slot frame
      · rw [same]
        exact inside
      · exact oldAnchored
  · have grown : (state.appendSlot value).candidates.length = state.candidates.length + 1 :=
      List.length_append
    apply edit_extended (kept_appended kept anchored)
    · rw [grown]
      exact Nat.le_succ _
    · intro frame
      apply extended_record_new frame
      rw [grown]
      exact Nat.lt_succ_self _

theorem upsert_values_kept {state : LivePredictionSessionState F} (kept : Kept (rosterOf state))
    (undo : Option (LiveIndexUndoFrame F)) {values : List (LiveCandidateValue F)}
    (anchored : ∀ value ∈ values, Anchored value.candidate) :
    EditKept state undo (values.foldl upsertValue (state, undo)).1
      (values.foldl upsertValue (state, undo)).2 := by
  induction values generalizing state undo with
  | nil => exact edit_same_roster kept rfl undo
  | cons value values ih =>
      have first := upsert_value_kept kept undo (anchored value List.mem_cons_self)
      apply edit_trans first
      apply ih first.roster
      intro later member
      exact anchored later (List.mem_cons_of_mem _ member)

theorem upsert_kept {state : LivePredictionSessionState F} (kept : Kept (rosterOf state))
    (seeds : List (LiveCandidateSeed F)) (undo : Option (LiveIndexUndoFrame F)) :
    EditKept state undo (upsertCandidates state seeds undo).session
      (upsertCandidates state seeds undo).undo := by
  unfold upsertCandidates
  split
  · exact edit_same_roster kept rfl undo
  · split
    · exact edit_same_roster kept rfl undo
    · rename_i values built
      have anchored : ∀ value ∈ values, Anchored value.candidate := by
        intro value member
        obtain ⟨seed, _, made⟩ := mapM_ok_mem built member
        exact (candidate_value_anchored made).1
      have pushed := upsert_values_kept kept undo anchored
      let updated := values.foldl upsertValue (state, undo)
      have ranked :
          EditKept updated.1 updated.2 updated.1.advanceGeneration.rebuildOrder updated.2 := by
        apply edit_same_roster pushed.roster
        rfl
      exact edit_trans pushed ranked

theorem set_retention_kept {state : LivePredictionSessionState F} (kept : Kept (rosterOf state))
    (value : F) (undo : Option (LiveIndexUndoFrame F)) :
    EditKept state undo (setRetentionExtra state value undo).session
      (setRetentionExtra state value undo).undo := by
  unfold setRetentionExtra
  split
  · exact edit_same_roster kept rfl undo
  · apply edit_same_roster kept
    exact roster_recompute { state with retentionExtra := value }

/-- The query fields of a slot are written, if it exists. -/
theorem members_requeried {state : LivePredictionSessionState F} (kept : Kept (rosterOf state))
    (slot : Nat) (timestamp day elapsedDays elapsedSeconds : F) :
    Members (state.candidates.set slot { state.candidateAt slot with
      queryTimestampSeconds := timestamp
      queryDayOffset := day
      queriedElapsedDays := elapsedDays
      queriedElapsedSeconds := elapsedSeconds }) state.slotByCardId := by
  by_cases inside : slot < state.candidates.length
  · apply members_rewritten kept.members (candidate_read inside)
    · rfl
    · intro anchored
      exact anchored_requeried anchored _ _ _ _
  · rw [List.set_eq_of_length_le (Nat.le_of_not_lt inside)]
    exact kept.members

theorem refreshed_slot_kept {state : LivePredictionSessionState F} (kept : Kept (rosterOf state))
    (targetTimestampSeconds targetDayOffset : F) (entry : Nat × F × ReviewInput F) :
    Kept (rosterOf (applyRefreshedSlot targetTimestampSeconds targetDayOffset state entry)) ∧
      (applyRefreshedSlot targetTimestampSeconds targetDayOffset state entry).candidates.length =
        state.candidates.length := by
  refine ⟨⟨?_, kept.batch, kept.refresh⟩, List.length_set⟩
  exact members_requeried kept entry.1 _ _ _ _

theorem refreshed_slots_kept (targetTimestampSeconds targetDayOffset : F)
    (entries : List (Nat × F × ReviewInput F)) {state : LivePredictionSessionState F}
    (kept : Kept (rosterOf state)) :
    Kept (rosterOf (entries.foldl (applyRefreshedSlot targetTimestampSeconds targetDayOffset)
        state)) ∧
      (entries.foldl (applyRefreshedSlot targetTimestampSeconds targetDayOffset)
        state).candidates.length = state.candidates.length := by
  induction entries generalizing state with
  | nil => exact ⟨kept, rfl⟩
  | cons entry entries ih =>
      obtain ⟨first, same⟩ := refreshed_slot_kept kept targetTimestampSeconds targetDayOffset entry
      obtain ⟨rest, more⟩ := ih first
      exact ⟨rest, more.trans same⟩

theorem commit_refresh_kept [DecidableEq F] {state : LivePredictionSessionState F}
    (kept : Kept (rosterOf state)) (request : RefreshRequest F) (inputs : List (ReviewInput F))
    (predictions : List F) :
    Kept (rosterOf (commitRefresh request state inputs predictions).1) ∧
      (commitRefresh request state inputs predictions).1.candidates.length =
        state.candidates.length := by
  let retimed := { state with
    retentionExtra := request.retentionExtra
    targetTimestampSeconds := request.targetTimestampSeconds
    targetDayOffset := request.targetDayOffset }
  let applied := (state.transportSlots.zip (predictions.zip inputs)).foldl
    (applyRefreshedSlot request.targetTimestampSeconds request.targetDayOffset) retimed
  have retimedKept : Kept (rosterOf retimed) := kept
  obtain ⟨appliedKept, sameCount⟩ := refreshed_slots_kept request.targetTimestampSeconds
    request.targetDayOffset (state.transportSlots.zip (predictions.zip inputs)) retimedKept
  let changed := decide (state.retentionExtra ≠ request.retentionExtra)
  let recomputed := if changed then applied.recomputeAllEligibilities else applied
  have recomputedSame : rosterOf recomputed = rosterOf applied := by
    change rosterOf (if changed then applied.recomputeAllEligibilities else applied) = _
    split
    · exact roster_recompute applied
    · rfl
  have same : rosterOf (commitRefresh request state inputs predictions).1 = rosterOf applied := by
    unfold commitRefresh
    dsimp only
    apply (roster_select_final _ _ _).trans
    apply (roster_update_order _ _ _).trans
    exact recomputedSame
  rw [same]
  refine ⟨appliedKept, ?_⟩
  exact (congrArg (fun roster => roster.candidates.length) same).trans sameCount

theorem refresh_kept [DecidableEq F] {state : LivePredictionSessionState F}
    (kept : Kept (rosterOf state)) (predict : Predictor F) (request : RefreshRequest F)
    (undo : Option (LiveIndexUndoFrame F)) :
    EditKept state undo (refreshLiveSession state predict request undo).session
      (refreshLiveSession state predict request undo).undo := by
  unfold refreshLiveSession
  split
  · exact edit_same_roster kept rfl undo
  · exact edit_same_roster kept rfl undo
  · dsimp only
    have selected := roster_select_membership state request.excludedRefreshCardIds
    have failed : rosterOf
        (failedRefresh (selectRefreshMembership state request.excludedRefreshCardIds)) =
          rosterOf state := selected
    split
    · exact edit_same_roster kept selected undo
    · split
      · exact edit_same_roster kept failed undo
      · split
        · exact edit_same_roster kept failed undo
        · have selectedKept : Kept (rosterOf
              (selectRefreshMembership state request.excludedRefreshCardIds)) := by
            rw [selected]
            exact kept
          have sameCount :
              (selectRefreshMembership state request.excludedRefreshCardIds).candidates.length =
                state.candidates.length :=
            congrArg (fun roster => roster.candidates.length) selected
          obtain ⟨roster, same⟩ := commit_refresh_kept selectedKept request _ _
          apply edit_extended roster
          · rw [same, sameCount]
          · intro frame
            exact extended_record_refreshes frame _ _ _

theorem new_empty_kept {settings : LiveSessionSettings}
    {targetTimestampSeconds targetDayOffset : F} {state : LivePredictionSessionState F}
    (built : newEmpty settings targetTimestampSeconds targetDayOffset = .ok state) :
    Kept (rosterOf state) := by
  obtain ⟨_, _, built⟩ := bind_ok.mp built
  simp only [bind, Except.bind, throw, throwThe, MonadExceptOf.throw, pure, Except.pure] at built
  by_cases noBatch : settings.batchSize = 0
  · rw [if_pos noBatch] at built
    cases built
  · rw [if_neg noBatch] at built
    by_cases noRefresh : settings.refreshLimit = 0
    · rw [if_pos noRefresh] at built
      cases built
    · rw [if_neg noRefresh] at built
      cases built
      refine ⟨?_, noBatch, noRefresh⟩
      intro cardId slot found
      simp [rosterOf] at found

theorem push_value_kept {state next : LivePredictionSessionState F} (kept : Kept (rosterOf state))
    {value : LiveCandidateValue F} (anchored : Anchored value.candidate)
    (pushed : pushValue state value = .ok next) : Kept (rosterOf next) := by
  unfold pushValue at pushed
  split at pushed
  · cases pushed
  · cases pushed
    exact kept_appended kept anchored

theorem push_seed_kept {state next : LivePredictionSessionState F} (kept : Kept (rosterOf state))
    {targetTimestampSeconds targetDayOffset : F} {seed : LiveCandidateSeed F}
    (pushed : pushSeed state targetTimestampSeconds targetDayOffset seed = .ok next) :
    Kept (rosterOf next) := by
  obtain ⟨value, built, finished⟩ := bind_ok.mp pushed
  exact push_value_kept kept (candidate_value_anchored built).1 finished

theorem push_reused_kept {state source next : LivePredictionSessionState F}
    (kept : Kept (rosterOf state)) {sourceSlot : Nat} {targetTimestampSeconds targetDayOffset : F}
    (anchored : Anchored (source.candidateAt sourceSlot))
    (pushed : pushReusedCandidate state source sourceSlot targetTimestampSeconds targetDayOffset =
      .ok next) : Kept (rosterOf next) := by
  unfold pushReusedCandidate at pushed
  dsimp only at pushed
  split at pushed
  · cases pushed
  · apply push_value_kept kept _ pushed
    exact anchored_requeried anchored _ _ _ _

theorem push_member_kept {source : LivePredictionSessionState F}
    (sourceKept : Kept (rosterOf source)) {targetTimestampSeconds targetDayOffset : F}
    {current next : LivePredictionSessionState F × ExtTreeMap Int64 (Nat × LiveCandidateSeed F)}
    (kept : Kept (rosterOf current.1)) {entry : Int64 × Nat}
    (pushed : pushMember source targetTimestampSeconds targetDayOffset current entry = .ok next) :
    Kept (rosterOf next.1) := by
  unfold pushMember at pushed
  dsimp only at pushed
  split at pushed
  · obtain ⟨replacement, stepped, finished⟩ := bind_ok.mp pushed
    cases finished
    exact push_seed_kept kept stepped
  · split at pushed
    · rename_i slot found
      obtain ⟨replacement, stepped, finished⟩ := bind_ok.mp pushed
      cases finished
      exact push_reused_kept kept (mapped_candidate sourceKept found).2.2.2 stepped
    · split at pushed
      · cases pushed
      · cases pushed

theorem roster_store (state : LivePredictionSessionState F) (entries : List (F × Nat)) :
    rosterOf (storePredictions state entries) = rosterOf state := by
  induction entries generalizing state with
  | nil => rfl
  | cons entry entries ih => exact ih _

/-- Every input is finite and the predictor answers each of them. -/
def InitiallyPredicted (predict : Predictor F) (state : LivePredictionSessionState F)
    (predictions : List F) : Prop :=
  (state.candidates.map LiveCandidate.initialPredictionInput).findSome? livePredictionInputError =
      none ∧
    predict (state.candidates.map LiveCandidate.initialPredictionInput) = .ok predictions ∧
    predictions.length = state.candidates.length

theorem initialize_ok {state initialized : LivePredictionSessionState F}
    {predict : Predictor F} :
    initializeLiveSessionPredictions predict state = .ok initialized ↔
      ∃ predictions, InitiallyPredicted predict state predictions ∧
        initialized =
          (storePredictions state predictions.zipIdx).recomputeAllEligibilities.rebuildOrder := by
  unfold initializeLiveSessionPredictions InitiallyPredicted
  dsimp only
  constructor
  · intro built
    split at built
    · cases built
    · rename_i finite
      obtain ⟨predictions, predicted, built⟩ := bind_ok.mp built
      by_cases differs : predictions.length ≠ state.candidates.length
      · rw [if_pos differs] at built
        cases built
      · rw [if_neg differs] at built
        cases built
        exact ⟨predictions, ⟨finite, predicted, not_not.mp differs⟩, rfl⟩
  · intro accepted
    obtain ⟨predictions, ⟨finite, predicted, counted⟩, stored⟩ := accepted
    rw [finite]
    apply bind_ok.mpr
    refine ⟨predictions, predicted, ?_⟩
    rw [if_neg (not_not.mpr counted), stored]
    rfl

theorem roster_initialized {state initialized : LivePredictionSessionState F}
    {predict : Predictor F}
    (built : initializeLiveSessionPredictions predict state = .ok initialized) :
    rosterOf initialized = rosterOf state := by
  obtain ⟨predictions, _, stored⟩ := initialize_ok.mp built
  rw [stored]
  apply (roster_recompute _).trans
  exact roster_store state predictions.zipIdx

theorem new_unranked_kept {settings : LiveSessionSettings} {seeds : List (LiveCandidateSeed F)}
    {targetTimestampSeconds targetDayOffset : F} {state : LivePredictionSessionState F}
    (built : newUnranked settings seeds targetTimestampSeconds targetDayOffset = .ok state) :
    Kept (rosterOf state) := by
  obtain ⟨empty, emptied, pushed⟩ := bind_ok.mp built
  apply fold_ok_keeps (fun current => Kept (rosterOf current)) _ (new_empty_kept emptied) pushed
  intro current seed _ next kept stepped
  exact push_seed_kept kept stepped

theorem replacement_kept {state replacement : LivePredictionSessionState F}
    {seeds : List (LiveCandidateSeed F)} {predict : Predictor F}
    {targetTimestampSeconds targetDayOffset retentionExtra : F}
    (built : predictedReplacementFromState state seeds predict targetTimestampSeconds
      targetDayOffset retentionExtra = .ok replacement) : Kept (rosterOf replacement) := by
  obtain ⟨unranked, staged, initialized⟩ := bind_ok.mp built
  rw [roster_initialized initialized]
  have unrankedKept := new_unranked_kept staged
  exact unrankedKept

theorem membership_replacement_kept {state replacement : LivePredictionSessionState F}
    (kept : Kept (rosterOf state)) {cardIds : List Int64}
    {changedCandidates : List (LiveCandidateSeed F)} {predict : Predictor F}
    {targetTimestampSeconds targetDayOffset retentionExtra : F}
    (built : predictedMembershipReplacementFromState state cardIds changedCandidates predict
      targetTimestampSeconds targetDayOffset retentionExtra = .ok replacement) :
    Kept (rosterOf replacement) := by
  obtain ⟨empty, emptied, built⟩ := bind_ok.mp built
  obtain ⟨changed, _, built⟩ := bind_ok.mp built
  obtain ⟨walked, pushed, built⟩ := bind_ok.mp built
  have walkedKept : Kept (rosterOf walked.1) := by
    have emptyKept := new_empty_kept emptied
    apply fold_ok_keeps (fun current => Kept (rosterOf current.1)) _ emptyKept pushed
    intro current entry _ next before stepped
    exact push_member_kept kept before stepped
  dsimp only at built
  split at built
  · cases built
  · rw [roster_initialized built]
    exact walkedKept

theorem frame_replaced {state : LivePredictionSessionState F} (kept : Kept (rosterOf state))
    {frame : LiveIndexUndoFrame F} (frameKept : FrameKept state.candidates.length frame)
    (count : Nat) :
    FrameKept count (frame.recordReconciliationState state) ∧
      baseCount count (frame.recordReconciliationState state) =
        baseCount state.candidates.length frame := by
  unfold LiveIndexUndoFrame.recordReconciliationState
  cases saved : frame.preReconciliationState with
  | some previous =>
      have anyBase : ∀ other, baseCount other frame = previous.candidates.length := by
        intro other
        unfold baseCount
        rw [saved]
      simp only [Option.isSome_some, if_true]
      refine ⟨⟨?_, frameKept.previous⟩, (anyBase count).trans (anyBase _).symm⟩
      intro delta member
      rw [anyBase]
      have inside := frameKept.deltas delta member
      rw [anyBase] at inside
      exact inside
  | none =>
      have base : baseCount state.candidates.length frame = state.candidates.length := by
        unfold baseCount
        rw [saved]
      simp only [Option.isSome_none, Bool.false_eq_true, if_false]
      refine ⟨⟨?_, ?_⟩, base.symm⟩
      · intro delta member
        have inside := frameKept.deltas delta member
        rw [base] at inside
        exact inside
      · intro previous member
        cases member
        exact kept.members

theorem committed_kept {state : LivePredictionSessionState F} (kept : Kept (rosterOf state))
    (replacementResult : Except String (LivePredictionSessionState F))
    (request : ReconcileRequest F) (undo : Option (LiveIndexUndoFrame F))
    (built : ∀ replacement, replacementResult = .ok replacement → Kept (rosterOf replacement)) :
    EditKept state undo
      (commitReconciledLiveSessionReplacement state replacementResult request undo).session
      (commitReconciledLiveSessionReplacement state replacementResult request undo).undo := by
  cases result : replacementResult with
  | error message => exact edit_same_roster kept rfl undo
  | ok replacement =>
      have replacementKept := built replacement result
      let installed := { replacement with
        generation := state.generation + 1
        profile := state.profile
        lastMembershipSlots := List.range replacement.candidates.length
        lastTransportSlots := List.range replacement.candidates.length }
      have same := roster_select_final installed request.selectLimit request.excludedCardIds
      have finalKept : Kept (rosterOf
          (selectFinal installed request.selectLimit request.excludedCardIds).1) := by
        rw [same]
        exact replacementKept
      refine ⟨finalKept, fun frame => frame.recordReconciliationState state, rfl, ?_⟩
      intro frame frameKept
      obtain ⟨nextKept, base⟩ := frame_replaced kept frameKept _
      exact ⟨nextKept, Nat.le_of_eq base.symm⟩

theorem reconcile_candidates_kept {state : LivePredictionSessionState F}
    (kept : Kept (rosterOf state)) (seeds : List (LiveCandidateSeed F)) (predict : Predictor F)
    (request : ReconcileRequest F) (undo : Option (LiveIndexUndoFrame F)) :
    EditKept state undo (reconcileLiveSessionCandidates state seeds predict request undo).session
      (reconcileLiveSessionCandidates state seeds predict request undo).undo := by
  apply committed_kept kept
  intro replacement built
  obtain ⟨_, _, predicted⟩ := bind_ok.mp built
  exact replacement_kept predicted

theorem reconcile_membership_kept {state : LivePredictionSessionState F}
    (kept : Kept (rosterOf state)) (cardIds : List Int64)
    (changedCandidates : List (LiveCandidateSeed F)) (predict : Predictor F)
    (request : ReconcileRequest F) (undo : Option (LiveIndexUndoFrame F)) :
    EditKept state undo
      (reconcileLiveSessionMembership state cardIds changedCandidates predict request undo).session
      (reconcileLiveSessionMembership state cardIds changedCandidates predict request undo).undo := by
  apply committed_kept kept
  intro replacement built
  obtain ⟨_, _, predicted⟩ := bind_ok.mp built
  exact membership_replacement_kept kept predicted

end RwkvSrs.LiveRosterEdits
