import RwkvSrs.LiveSessionRefresh

/-!
Staged sessions. Construction and replacement append one pending value per
candidate, predict the whole list at once, and only then rank it; nothing of
the session being replaced changes before that succeeds.
-/

namespace RwkvSrs.LiveSessionStaging

open Std RwkvSrs.LiveTypes RwkvSrs.LiveSessionState RwkvSrs.LiveSessionSelection
open RwkvSrs.LiveSessionRank RwkvSrs.LiveSessionIndex RwkvSrs.LiveSessionSlots
open RwkvSrs.LiveSessionOrder RwkvSrs.LiveSessionMembership RwkvSrs.LiveSessionOperations
open RwkvSrs.LiveSessionInvariant RwkvSrs.LiveSessionRefresh RwkvSrs.LiveUndoFrame
open RwkvSrs.ResultSteps SessionFloat

set_option autoImplicit false
set_option linter.unusedSectionVars false

variable {F : Type} [SessionFloat F] {flagged : Prop}

/-- A session under construction: exact slots, none of them predicted yet. -/
structure Staged (settings : LiveSessionSettings) (state : LivePredictionSessionState F) : Prop
    extends SlotsExact state where
  token : state.token = settings.token
  order : state.order = settings.order
  pending : ∀ slot, slot < state.candidateCount → state.status slot = .pendingRefresh

theorem new_empty_staged {settings : LiveSessionSettings}
    {targetTimestampSeconds targetDayOffset : F} {state : LivePredictionSessionState F}
    (built : newEmpty settings targetTimestampSeconds targetDayOffset = .ok state) :
    Staged settings state := by
  simp only [newEmpty, bind, Except.bind, throw, throwThe, MonadExceptOf.throw, pure,
    Except.pure] at built
  repeat' split at built
  all_goals cases built
  refine ⟨⟨⟨rfl, rfl, rfl, rfl, rfl, rfl, rfl, rfl⟩, ?_, ⟨fun _ _ => rfl, ?_⟩⟩, rfl, rfl, ?_⟩
  · intro mark member
    cases member
  · intro cardId slot
    constructor
    · intro found
      simp [indexOf] at found
    · intro both
      exact absurd rfl both.1
  · intro slot inRange
    cases inRange

theorem push_value_staged {settings : LiveSessionSettings} {state : LivePredictionSessionState F}
    (staged : Staged settings state) {value : LiveCandidateValue F} (pending : PendingValue value)
    {next : LivePredictionSessionState F} (pushed : pushValue state value = .ok next) :
    Staged settings next := by
  unfold pushValue at pushed
  split at pushed
  · cases pushed
  · next absent =>
      cases pushed
      have written := index_append_slot staged.sized value
      have missing : state.slotByCardId[value.candidate.cardId]? = none :=
        ExtTreeMap.getElem?_eq_none absent
      refine ⟨⟨append_slot_sized staged.sized value, ?_, ?_⟩, staged.token, staged.order, ?_⟩
      · intro mark member
        rcases List.mem_append.mp member with old | new
        · exact staged.bounded mark old
        · rw [List.mem_singleton.mp new]
          exact UInt64.zero_le
      · rw [written]
        exact LiveIndex.append_mapped staged.mapped (by simp [pending.pending]) missing
      · intro slot inRange
        have read := congrArg LiveCandidateValue.status
          (congrFun (congrArg LiveIndex.value written) slot)
        rw [LiveIndex.append_value] at read
        refine Eq.trans read ?_
        by_cases last : slot = state.candidateCount
        · subst last
          rw [show (indexOf state).count = state.candidateCount from rfl, Function.update_self]
          exact pending.pending
        · rw [show (indexOf state).count = state.candidateCount from rfl,
            Function.update_of_ne last]
          have grown : (state.appendSlot value).candidateCount = state.candidateCount + 1 :=
            List.length_append
          exact staged.pending slot (by omega)

theorem push_seed_staged {settings : LiveSessionSettings} {state : LivePredictionSessionState F}
    (staged : Staged settings state) {targetTimestampSeconds targetDayOffset : F}
    {seed : LiveCandidateSeed F} {next : LivePredictionSessionState F}
    (pushed : pushSeed state targetTimestampSeconds targetDayOffset seed = .ok next) :
    Staged settings next := by
  obtain ⟨value, built, finished⟩ := bind_ok.mp pushed
  exact push_value_staged staged (candidate_value_pending built).1 finished

theorem push_reused_staged {settings : LiveSessionSettings}
    {state source : LivePredictionSessionState F} (staged : Staged settings state)
    {sourceSlot : Nat} {targetTimestampSeconds targetDayOffset : F}
    {next : LivePredictionSessionState F}
    (pushed : pushReusedCandidate state source sourceSlot targetTimestampSeconds targetDayOffset =
      .ok next) : Staged settings next := by
  unfold pushReusedCandidate at pushed
  simp only at pushed
  split at pushed
  · cases pushed
  · exact push_value_staged staged ⟨rfl, rfl⟩ pushed

theorem new_unranked_staged {settings : LiveSessionSettings} {seeds : List (LiveCandidateSeed F)}
    {targetTimestampSeconds targetDayOffset : F} {state : LivePredictionSessionState F}
    (built : newUnranked settings seeds targetTimestampSeconds targetDayOffset = .ok state) :
    Staged settings state := by
  obtain ⟨empty, emptied, pushed⟩ := bind_ok.mp built
  refine fold_ok_keeps (Staged settings) ?_ (new_empty_staged emptied) pushed
  intro current seed _ next staged stepped
  exact push_seed_staged staged stepped

theorem with_retention_staged {settings : LiveSessionSettings}
    {state : LivePredictionSessionState F} (staged : Staged settings state) (retentionExtra : F) :
    Staged settings { state with retentionExtra := retentionExtra } :=
  ⟨⟨staged.sized, staged.bounded, ⟨staged.mapped.blank, staged.mapped.mapped⟩⟩, staged.token,
    staged.order, staged.pending⟩

theorem push_member_staged {settings : LiveSessionSettings}
    {source : LivePredictionSessionState F} {targetTimestampSeconds targetDayOffset : F}
    {current next : LivePredictionSessionState F × ExtTreeMap Int64 (Nat × LiveCandidateSeed F)}
    (staged : Staged settings current.1) {entry : Int64 × Nat}
    (pushed : pushMember source targetTimestampSeconds targetDayOffset current entry = .ok next) :
    Staged settings next.1 := by
  unfold pushMember at pushed
  simp only at pushed
  split at pushed
  · obtain ⟨replacement, stepped, finished⟩ := bind_ok.mp pushed
    cases finished
    exact push_seed_staged staged stepped
  · split at pushed
    · obtain ⟨replacement, stepped, finished⟩ := bind_ok.mp pushed
      cases finished
      exact push_reused_staged staged stepped
    · split at pushed
      · cases pushed
      · cases pushed

/-- The values after the initial predictions, before they are flagged. -/
def predictedIndex (index : LiveIndex F) (predictions : List F) : LiveIndex F :=
  { index with value := fun slot =>
      if slot < index.count then
        { index.value slot with
          prediction := predictions.getD slot nan
          status := .active }
      else index.value slot }

/-- The loop that stores the initial predictions. -/
def storePredictions (state : LivePredictionSessionState F) (entries : List (F × Nat)) :
    LivePredictionSessionState F :=
  entries.foldl
    (fun (current : LivePredictionSessionState F) (entry : F × Nat) =>
      { current with
        predictions := current.predictions.set entry.2 entry.1
        statuses := current.statuses.set entry.2 .active }) state

private theorem store_predictions_spec (predictions : List F) (first : Nat)
    {state : LivePredictionSessionState F} (sized : SlotsSized state)
    (inRange : first + predictions.length ≤ state.candidateCount) :
    let stored := storePredictions state (predictions.zipIdx first)
    SlotsSized stored ∧
      stored = { state with predictions := stored.predictions, statuses := stored.statuses } ∧
      ∀ slot, stored.value slot =
        if first ≤ slot ∧ slot < first + predictions.length then
          { state.value slot with
            prediction := predictions.getD (slot - first) nan
            status := .active }
        else state.value slot := by
  induction predictions generalizing first state with
  | nil =>
      refine ⟨sized, rfl, ?_⟩
      intro slot
      rw [if_neg (by simp only [List.length_nil]; omega)]
      rfl
  | cons prediction predictions ih =>
      rw [List.length_cons] at inRange
      set next : LivePredictionSessionState F := { state with
        predictions := state.predictions.set first prediction
        statuses := state.statuses.set first .active } with nextDef
      have slotRange : first < state.candidates.length := by
        change first + (predictions.length + 1) ≤ state.candidates.length at inRange
        omega
      have nextSized : SlotsSized next := by
        obtain ⟨sizes, normal, intraday, ties, randoms, statuses, eligibilities, marks⟩ := sized
        constructor <;> simpa [nextDef]
      have nextRange : first + 1 + predictions.length ≤ next.candidateCount := by
        change first + (predictions.length + 1) ≤ next.candidateCount at inRange
        omega
      obtain ⟨restSized, restShape, restValue⟩ := ih (first + 1) nextSized nextRange
      have folded : storePredictions state ((prediction :: predictions).zipIdx first) =
          storePredictions next (predictions.zipIdx (first + 1)) := rfl
      rw [folded]
      refine ⟨restSized, ?_, ?_⟩
      · rw [restShape]
      · have nextValue : ∀ slot, next.value slot =
            if slot = first then { state.value first with prediction := prediction, status := .active }
            else state.value slot := by
          intro slot
          simp only [nextDef, LivePredictionSessionState.value,
            LivePredictionSessionState.prediction, LivePredictionSessionState.status,
            getD_set (sized.predictions ▸ slotRange), getD_set (sized.statuses ▸ slotRange)]
          split
          · next same => subst same; rfl
          · rfl
        intro slot
        rw [restValue slot, nextValue slot, List.length_cons]
        by_cases same : slot = first
        · subst same
          rw [if_neg (by omega), if_pos rfl, if_pos (by omega), Nat.sub_self]
          rfl
        · rw [if_neg same]
          by_cases later : first + 1 ≤ slot ∧ slot < first + 1 + predictions.length
          · rw [if_pos later, if_pos (by omega)]
            have shifted : slot - first = slot - (first + 1) + 1 := by omega
            rw [shifted, List.getD_cons_succ]
          · rw [if_neg later, if_neg (by omega)]

theorem initialize_spec {state initialized : LivePredictionSessionState F}
    {predict : Predictor F} (slots : SlotsExact state)
    (live : ∀ slot, slot < state.candidateCount → (indexOf state).Live slot)
    (built : initializeLiveSessionPredictions predict state = .ok initialized) :
    ∃ predictions, predict (state.candidates.map LiveCandidate.initialPredictionInput) =
        .ok predictions ∧ predictions.length = state.candidateCount ∧
      SessionExact flagged initialized ∧
      indexOf initialized = (predictedIndex (indexOf state) predictions).reflagged ∧
      ∃ values statuses eligibilities orderedSlots, initialized = { state with
        predictions := values
        statuses := statuses
        eligibilities := eligibilities
        orderedSlots := orderedSlots } := by
  unfold initializeLiveSessionPredictions at built
  simp only at built
  split at built
  · cases built
  obtain ⟨predictions, predicted, built⟩ := bind_ok.mp built
  split at built
  · cases built
  · next sameCount =>
      rw [ne_eq, not_not] at sameCount
      cases built
      obtain ⟨storedSized, storedShape, storedValue⟩ := store_predictions_spec predictions 0
        slots.sized (by rw [sameCount, Nat.zero_add]; exact Nat.le_refl _)
      change SlotsSized (storePredictions state predictions.zipIdx) at storedSized
      set stored := storePredictions state predictions.zipIdx with storedDef
      change stored = _ at storedShape
      have written : indexOf stored = predictedIndex (indexOf state) predictions := by
        have values : stored.value = (predictedIndex (indexOf state) predictions).value := by
          funext slot
          rw [show stored.value slot = _ from storedValue slot, sameCount]
          unfold predictedIndex
          simp only [Nat.zero_le, true_and, Nat.zero_add, Nat.sub_zero]
          rfl
        unfold indexOf
        rw [values, storedShape]
        rfl
      have mapped : (indexOf stored).Mapped := by
        rw [written]
        have sameLive : ∀ slot, (predictedIndex (indexOf state) predictions).Live slot ↔
            (indexOf state).Live slot := by
          intro slot
          unfold predictedIndex LiveIndex.Live
          by_cases inRange : slot < (indexOf state).count
          · simp only [inRange, if_true]
            exact ⟨fun _ => live slot inRange, fun _ => by simp⟩
          · simp only [inRange, if_false]
        have sameCard : ∀ slot, (predictedIndex (indexOf state) predictions).card slot =
            (indexOf state).card slot := by
          intro slot
          unfold predictedIndex LiveIndex.card
          by_cases inRange : slot < (indexOf state).count
          · simp only [inRange, if_true]
          · simp only [inRange, if_false]
        constructor
        · intro slot outside
          unfold predictedIndex
          simp only [show ¬ slot < (indexOf state).count from Nat.not_lt.mpr outside, if_false]
          exact slots.mapped.blank slot outside
        · intro cardId slot
          rw [sameLive, sameCard]
          exact slots.mapped.mapped cardId slot
      have bounded : MarksBounded stored := by
        rw [storedShape]
        exact slots.bounded
      obtain ⟨eligibilities, flagShape⟩ := recompute_shape stored
      have reflagged := index_recompute storedSized
      have flaggedSlots : SlotsExact stored.recomputeAllEligibilities := by
        refine ⟨recompute_sized storedSized, ?_, reflagged ▸ LiveIndex.reflagged_mapped mapped⟩
        rw [flagShape]
        exact bounded
      refine ⟨predictions, predicted, sameCount,
        exact_after_rebuild flaggedSlots (fun _ => reflagged ▸ LiveIndex.reflagged_fresh), ?_, ?_⟩
      · refine Eq.trans reflagged ?_
        rw [written]
      · change ∃ _ _ _ _, stored.recomputeAllEligibilities.rebuildOrder = _
        unfold LivePredictionSessionState.rebuildOrder
        rw [flagShape, storedShape]
        exact ⟨_, _, _, _, rfl⟩

theorem staged_initialized {settings : LiveSessionSettings}
    {state initialized : LivePredictionSessionState F} {predict : Predictor F}
    (staged : Staged settings state)
    (built : initializeLiveSessionPredictions predict state = .ok initialized) :
    SessionExact flagged initialized ∧ initialized.token = settings.token ∧
      initialized.order = settings.order := by
  have live : ∀ slot, slot < state.candidateCount → (indexOf state).Live slot := by
    intro slot inRange removed
    have pending := staged.pending slot inRange
    rw [show state.status slot = .removed from removed] at pending
    cases pending
  obtain ⟨_, _, _, exact, _, _, _, _, _, shape⟩ := initialize_spec staged.toSlotsExact live built
  refine ⟨exact, ?_, ?_⟩
  · rw [shape]
    exact staged.token
  · rw [shape]
    exact staged.order

theorem create_session_exact {settings : LiveSessionSettings} {seeds : List (LiveCandidateSeed F)}
    {targetTimestampSeconds targetDayOffset : F} {predict : Predictor F}
    {state : LivePredictionSessionState F}
    (built : createLiveSession settings seeds targetTimestampSeconds targetDayOffset predict =
      .ok state) : SessionExact flagged state := by
  obtain ⟨unranked, staged, initialized⟩ := bind_ok.mp built
  exact (staged_initialized (new_unranked_staged staged) initialized).1

theorem replacement_exact {state replacement : LivePredictionSessionState F}
    {seeds : List (LiveCandidateSeed F)} {predict : Predictor F}
    {targetTimestampSeconds targetDayOffset retentionExtra : F}
    (built : predictedReplacementFromState state seeds predict targetTimestampSeconds
      targetDayOffset retentionExtra = .ok replacement) :
    SessionExact flagged replacement ∧ replacement.token = state.token ∧
      replacement.order = state.order := by
  obtain ⟨unranked, staged, initialized⟩ := bind_ok.mp built
  exact staged_initialized (with_retention_staged (new_unranked_staged staged) retentionExtra)
    initialized

theorem membership_replacement_exact {state replacement : LivePredictionSessionState F}
    {cardIds : List Int64} {changedCandidates : List (LiveCandidateSeed F)} {predict : Predictor F}
    {targetTimestampSeconds targetDayOffset retentionExtra : F}
    (built : predictedMembershipReplacementFromState state cardIds changedCandidates predict
      targetTimestampSeconds targetDayOffset retentionExtra = .ok replacement) :
    SessionExact flagged replacement ∧ replacement.token = state.token ∧
      replacement.order = state.order := by
  obtain ⟨empty, emptied, built⟩ := bind_ok.mp built
  obtain ⟨changed, _, built⟩ := bind_ok.mp built
  obtain ⟨walked, pushed, built⟩ := bind_ok.mp built
  have staged : Staged (settingsOf state) walked.1 := by
    refine fold_ok_keeps (fun current => Staged (settingsOf state) current.1) ?_
      (with_retention_staged (new_empty_staged emptied) retentionExtra) pushed
    intro current entry _ next before stepped
    exact push_member_staged before stepped
  simp only at built
  split at built
  · cases built
  · exact staged_initialized staged built

theorem replace_exact {state replaced : LivePredictionSessionState F}
    {seeds : List (LiveCandidateSeed F)} {predict : Predictor F}
    (built : replaceLiveSessionCandidates state seeds predict = .ok replaced) :
    SessionExact flagged replaced := by
  obtain ⟨replacement, predicted, finished⟩ := bind_ok.mp built
  cases finished
  have exact : SessionExact flagged replacement := (replacement_exact predicted).1
  exact ⟨⟨exact.sized, exact.bounded, exact.mapped⟩, exact.ordered, exact.fresh⟩

/-- A reconciliation either leaves the session alone or installs an exact one
with the same token and order. -/
theorem committed_replacement {state : LivePredictionSessionState F}
    {replacementResult : Except String (LivePredictionSessionState F)}
    (request : ReconcileRequest F) (undo : Option (LiveIndexUndoFrame F))
    (sound : ∀ replacement, replacementResult = .ok replacement →
      SessionExact flagged replacement ∧ replacement.token = state.token ∧
        replacement.order = state.order) :
    let step := commitReconciledLiveSessionReplacement state replacementResult request undo
    (step.session = state ∧ step.undo = undo ∧ step.result.isOk = false) ∨
      (SessionExact flagged step.session ∧ step.session.token = state.token ∧
        step.session.order = state.order ∧
        (step.undo = undo.map fun frame => frame.recordReconciliationState state) ∧
        step.result.isOk = true) := by
  cases result : replacementResult with
  | error message => exact Or.inl ⟨rfl, rfl, rfl⟩
  | ok replacement =>
      obtain ⟨exact, sameToken, sameOrder⟩ := sound replacement result
      right
      set installed : LivePredictionSessionState F := { replacement with
        generation := state.generation + 1
        profile := state.profile
        lastMembershipSlots := List.range replacement.candidates.length
        lastTransportSlots := List.range replacement.candidates.length } with installedDef
      have installedExact : SessionExact flagged installed :=
        ⟨⟨exact.sized, exact.bounded, exact.mapped⟩, exact.ordered, exact.fresh⟩
      obtain ⟨final, sameIndex⟩ :=
        select_final_exact installedExact request.selectLimit request.excludedCardIds
      refine ⟨⟨⟨final.sized, final.bounded, final.mapped⟩, final.ordered, final.fresh⟩, ?_, ?_, rfl, rfl⟩
      · exact (congrArg LiveIndex.token sameIndex).trans sameToken
      · exact (congrArg LiveIndex.order sameIndex).trans sameOrder

theorem reconcile_candidates_exact {state : LivePredictionSessionState F}
    (seeds : List (LiveCandidateSeed F)) (predict : Predictor F) (request : ReconcileRequest F)
    (undo : Option (LiveIndexUndoFrame F)) :
    let step := reconcileLiveSessionCandidates state seeds predict request undo
    (step.session = state ∧ step.undo = undo ∧ step.result.isOk = false) ∨
      (SessionExact flagged step.session ∧ step.session.token = state.token ∧
        step.session.order = state.order ∧
        (step.undo = undo.map fun frame => frame.recordReconciliationState state) ∧
        step.result.isOk = true) := by
  refine committed_replacement request undo ?_
  intro replacement built
  obtain ⟨_, _, predicted⟩ := bind_ok.mp built
  exact replacement_exact predicted

theorem reconcile_membership_exact {state : LivePredictionSessionState F}
    (cardIds : List Int64) (changedCandidates : List (LiveCandidateSeed F)) (predict : Predictor F)
    (request : ReconcileRequest F) (undo : Option (LiveIndexUndoFrame F)) :
    let step := reconcileLiveSessionMembership state cardIds changedCandidates predict request undo
    (step.session = state ∧ step.undo = undo ∧ step.result.isOk = false) ∨
      (SessionExact flagged step.session ∧ step.session.token = state.token ∧
        step.session.order = state.order ∧
        (step.undo = undo.map fun frame => frame.recordReconciliationState state) ∧
        step.result.isOk = true) := by
  refine committed_replacement request undo ?_
  intro replacement built
  obtain ⟨_, _, predicted⟩ := bind_ok.mp built
  exact membership_replacement_exact predicted

end RwkvSrs.LiveSessionStaging
