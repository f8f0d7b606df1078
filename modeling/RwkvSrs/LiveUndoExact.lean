import RwkvSrs.LiveUndoRestore

/-!
Exactness of `restore_undo`. A covering frame always brings back the slots,
the card map and the target; it brings back the cached flags, and with them
the rank order, exactly when the saved flags are the flags of the captured
retention extra or everything is flagged anew.
-/

namespace RwkvSrs.LiveUndoExact

open Std RwkvSrs.LiveTypes RwkvSrs.LiveSessionState RwkvSrs.LiveSessionIndex
open RwkvSrs.LiveSessionRank RwkvSrs.LiveSessionSlots RwkvSrs.LiveSessionOrder
open RwkvSrs.LiveUndoFrame RwkvSrs.LiveSessionInvariant RwkvSrs.LiveUndoCover
open RwkvSrs.LiveUndoRestore SessionFloat

set_option autoImplicit false
set_option linter.unusedSectionVars false

variable {F : Type} [SessionFloat F] {flagged : Prop}

/-- What an undo has to bring back. -/
structure SameLogicalContent (captured restored : LivePredictionSessionState F) : Prop where
  retentionExtra : restored.retentionExtra = captured.retentionExtra
  targetTimestampSeconds : restored.targetTimestampSeconds = captured.targetTimestampSeconds
  targetDayOffset : restored.targetDayOffset = captured.targetDayOffset
  slotByCardId : restored.slotByCardId = captured.slotByCardId
  value : ∀ slot, captured.status slot ≠ .removed → restored.value slot = captured.value slot
  orderedSlots : restored.orderedSlots = captured.orderedSlots
  appended : ∀ slot, captured.candidateCount ≤ slot →
    restored.status slot = .removed ∧ slot ∉ restored.orderedSlots

/-- The frame was captured in `captured` and recorded everything since. -/
structure FrameExact (flagged : Prop) (captured : LivePredictionSessionState F)
    (frame : LiveIndexUndoFrame F) (state : LivePredictionSessionState F) : Prop where
  frameToken : frame.sessionToken = captured.token
  token : state.token = captured.token
  order : state.order = captured.order
  retentionExtra : frame.previousRetentionExtra = captured.retentionExtra
  targetTimestampSeconds : frame.previousTargetTimestampSeconds = captured.targetTimestampSeconds
  targetDayOffset : frame.previousTargetDayOffset = captured.targetDayOffset
  base : SessionExact flagged (deltaBase state frame)
  covers : FrameCovers (indexOf captured) frame (indexOf (deltaBase state frame))

/-- Either the restored retention differs, so all flags are recomputed, or every
saved flag is the one the captured retention gives. -/
def FlagsCurrent (state : LivePredictionSessionState F) (frame : LiveIndexUndoFrame F) : Prop :=
  (deltaBase state frame).retentionExtra = frame.previousRetentionExtra →
    (∀ delta ∈ frame.candidateDeltas, ∀ value ∈ delta.2,
      FlagFresh frame.previousRetentionExtra value) ∧
    ∀ delta ∈ frame.refreshDeltas, frame.recordedSlot delta.1 = .refreshDelta →
      FlagFresh frame.previousRetentionExtra
        (delta.2.restoreFullValue ((deltaBase state frame).value delta.1))

instance [DecidableEq F] (state : LivePredictionSessionState F) (frame : LiveIndexUndoFrame F) :
    Decidable (FlagsCurrent state frame) :=
  inferInstanceAs (Decidable (_ → _ ∧ _))

theorem delta_base_order (state : LivePredictionSessionState F) (frame : LiveIndexUndoFrame F) :
    (deltaBase state frame).order = state.order ∧ (deltaBase state frame).token = state.token := by
  unfold deltaBase
  cases frame.preReconciliationState with
  | none => exact ⟨rfl, rfl⟩
  | some previous => exact ⟨rfl, rfl⟩

/-- `restore_undo` up to the order update. -/
def restoredSlots (state : LivePredictionSessionState F) (frame : LiveIndexUndoFrame F) :
    LivePredictionSessionState F × List Nat :=
  let retimed := { deltaBase state frame with
    retentionExtra := frame.previousRetentionExtra
    targetTimestampSeconds := frame.previousTargetTimestampSeconds
    targetDayOffset := frame.previousTargetDayOffset }
  frame.candidateDeltas.foldl restoreCandidateDelta
    (frame.refreshDeltas.foldl (restoreRefreshDelta frame.recordedSlot) (retimed, []))

structure SlotsRestored (captured base restored : LivePredictionSessionState F)
    (frame : LiveIndexUndoFrame F) (slots : List Nat) : Prop where
  exact : SlotsExact restored
  shape : restored.token = base.token ∧ restored.order = base.order ∧
    restored.orderedSlots = base.orderedSlots ∧
    restored.retentionExtra = frame.previousRetentionExtra ∧
    restored.targetTimestampSeconds = frame.previousTargetTimestampSeconds ∧
    restored.targetDayOffset = frame.previousTargetDayOffset
  counted : restored.candidateCount = base.candidateCount
  sameMap : restored.slotByCardId = captured.slotByCardId
  distinct : slots.Nodup
  inRange : ∀ slot ∈ slots, slot < restored.candidateCount
  unchanged : ∀ slot, slot ∉ slots → base.value slot = restored.value slot
  old : ∀ slot, slot < captured.candidateCount →
    unflagged (restored.value slot) = unflagged (captured.value slot)
  new : ∀ slot, captured.candidateCount ≤ slot → restored.status slot = .removed
  full : ∀ slot value, (slot, some value) ∈ frame.candidateDeltas → restored.value slot = value
  discarded : ∀ slot, (slot, none) ∈ frame.candidateDeltas → restored.eligibility slot = false
  refresh : ∀ slot saved, (slot, saved) ∈ frame.refreshDeltas →
    frame.recordedSlot slot = .refreshDelta →
      restored.value slot = saved.restoreFullValue (base.value slot)
  unrecorded : ∀ slot, frame.recordedSlot slot = .unrecorded →
    restored.value slot = base.value slot

theorem restored_slots_spec {captured state : LivePredictionSessionState F}
    {frame : LiveIndexUndoFrame F} (capturedExact : SessionExact flagged captured)
    (exact : FrameExact flagged captured frame state) :
    SlotsRestored captured (deltaBase state frame) (restoredSlots state frame).1 frame
      (restoredSlots state frame).2 := by
  have covers := exact.covers
  have base := exact.base
  have originMapped := capturedExact.mapped
  set origin := indexOf captured with originDef
  set before := deltaBase state frame with beforeDef
  set retimed : LivePredictionSessionState F := { before with
    retentionExtra := frame.previousRetentionExtra
    targetTimestampSeconds := frame.previousTargetTimestampSeconds
    targetDayOffset := frame.previousTargetDayOffset } with retimedDef
  have retimedSized : SlotsSized retimed := base.sized
  have liveRange : ∀ slot saved, (slot, saved) ∈ frame.refreshDeltas →
      frame.recordedSlot slot = .refreshDelta → slot < retimed.candidateCount := by
    intro slot saved member marked
    exact exact_live_range base.toSlotsExact (covers.refreshSaved slot saved member marked).2.1
  obtain ⟨refreshedSized, refreshedShape, refreshedCount, refreshedSlots, refreshedListed,
    refreshedOthers⟩ := refresh_deltas_restored covers.distinctRefresh retimedSized liveRange []
  set refreshed := (frame.refreshDeltas.foldl (restoreRefreshDelta frame.recordedSlot)
    (retimed, [])).1 with refreshedDef
  have refreshedCard : ∀ slot,
      (refreshed.candidateAt slot).cardId = (before.candidateAt slot).cardId := by
    intro slot
    by_cases marked : frame.recordedSlot slot = .refreshDelta
    · obtain ⟨entry, member, rfl⟩ := List.mem_map.mp (covers.refreshMarked slot marked)
      have read := refreshedListed entry.1 entry.2 member marked
      exact congrArg (fun value : LiveCandidateValue F => value.candidate.cardId) read
    · have read := refreshedOthers slot (Or.inr marked)
      exact congrArg (fun value : LiveCandidateValue F => value.candidate.cardId) read
  have fullRange : ∀ slot ∈ frame.candidateDeltas.map Prod.fst, slot < before.candidateCount :=
    fun slot member => full_delta_range covers originMapped member
  have ready : DeltasReady origin frame.candidateDeltas refreshed := by
    constructor
    case distinct => exact covers.distinctFull
    case inRange =>
      intro slot member
      rw [refreshedCount]
      exact fullRange slot member
    case saved => exact covers.fullSaved
    case cards =>
      intro slot value member
      have live := (covers.fullSaved slot value member).1
      rw [refreshedCard]
      exact covers.cards slot (LiveIndex.live_in_range originMapped live)
    case absent =>
      intro slot member live
      have beyond := (covers.newSaved slot member).1
      exact absurd (LiveIndex.live_in_range originMapped live) (by omega)
  have sameMaps : refreshed.slotByCardId = before.slotByCardId := by
    rw [refreshedShape]
  have restoring : RestoringMap origin (frame.candidateDeltas.map Prod.fst) refreshed := by
    constructor
    case found =>
      intro slot live outside
      rw [sameMaps]
      exact (base.mapped.mapped _ slot).mpr ⟨(covered_live covers originMapped outside).mpr live,
        covers.cards slot (LiveIndex.live_in_range originMapped live)⟩
    case sound =>
      intro cardId slot mapped outside
      rw [sameMaps] at mapped
      obtain ⟨live, sameCard⟩ := (base.mapped.mapped cardId slot).mp mapped
      have originLive := (covered_live covers originMapped outside).mp live
      refine ⟨originLive, ?_⟩
      rw [← sameCard]
      exact (covers.cards slot (LiveIndex.live_in_range originMapped originLive)).symm
    case placed =>
      intro cardId slot mapped
      rw [sameMaps] at mapped
      obtain ⟨live, sameCard⟩ := (base.mapped.mapped cardId slot).mp mapped
      rw [refreshedCount, refreshedCard]
      exact ⟨exact_live_range base.toSlotsExact live, sameCard⟩
  obtain ⟨restoredSized, restoredMap, restoredList, restoredCount, restoredListed, restoredOthers,
    restoredShape⟩ := full_deltas_restored originMapped refreshedSized ready restoring
      (frame.refreshDeltas.foldl (restoreRefreshDelta frame.recordedSlot) (retimed, [])).2
  change SlotsSized (restoredSlots state frame).1 at restoredSized
  set restored := (restoredSlots state frame).1 with restoredDef
  change RestoringMap origin [] restored at restoredMap
  change (restoredSlots state frame).2 = _ at restoredList
  change restored.candidateCount = _ at restoredCount
  change restored = _ at restoredShape
  rw [refreshedSlots, List.nil_append] at restoredList
  have full : ∀ slot saved, (slot, saved) ∈ frame.candidateDeltas →
      restored.value slot = fullRestored (refreshed.value slot) saved := restoredListed
  have unrecorded : ∀ slot, frame.recordedSlot slot = .unrecorded →
      restored.value slot = before.value slot := by
    intro slot marked
    have outside : slot ∉ frame.candidateDeltas.map Prod.fst := by
      rw [covers.fullMarked, marked]
      simp
    exact Eq.trans (restoredOthers slot outside) (refreshedOthers slot (Or.inr (by simp [marked])))
  have refresh : ∀ slot saved, (slot, saved) ∈ frame.refreshDeltas →
      frame.recordedSlot slot = .refreshDelta →
        restored.value slot = saved.restoreFullValue (before.value slot) := by
    intro slot saved member marked
    have outside : slot ∉ frame.candidateDeltas.map Prod.fst := by
      rw [covers.fullMarked, marked]
      simp
    exact Eq.trans (restoredOthers slot outside) (refreshedListed slot saved member marked)
  have old : ∀ slot, slot < captured.candidateCount →
      unflagged (restored.value slot) = unflagged (captured.value slot) := by
    intro slot slotRange
    cases marked : frame.recordedSlot slot with
    | unrecorded =>
        rw [unrecorded slot marked]
        exact covers.unrecordedOld slot marked slotRange
    | refreshDelta =>
        obtain ⟨entry, member, rfl⟩ := List.mem_map.mp (covers.refreshMarked slot marked)
        rw [refresh entry.1 entry.2 member marked]
        exact (covers.refreshSaved entry.1 entry.2 member marked).2.2
    | fullDelta =>
        obtain ⟨⟨_, saved⟩, member, rfl⟩ := List.mem_map.mp ((covers.fullMarked slot).mpr marked)
        rw [full _ saved member]
        cases saved with
        | some value => exact (covers.fullSaved _ value member).2
        | none =>
            have beyond : captured.candidateCount ≤ _ := (covers.newSaved _ member).1
            exact absurd slotRange (by omega)
  have new : ∀ slot, captured.candidateCount ≤ slot → restored.status slot = .removed := by
    intro slot beyond
    have notLive : ¬ origin.Live slot := fun live =>
      absurd (LiveIndex.live_in_range originMapped live) (Nat.not_lt.mpr beyond)
    cases marked : frame.recordedSlot slot with
    | unrecorded =>
        have read := congrArg LiveCandidateValue.status (unrecorded slot marked)
        exact read.trans (covers.unrecordedNew slot marked beyond)
    | refreshDelta =>
        obtain ⟨entry, member, rfl⟩ := List.mem_map.mp (covers.refreshMarked slot marked)
        exact absurd (covers.refreshSaved entry.1 entry.2 member marked).1 notLive
    | fullDelta =>
        obtain ⟨⟨_, saved⟩, member, rfl⟩ := List.mem_map.mp ((covers.fullMarked slot).mpr marked)
        cases saved with
        | some value => exact absurd (covers.fullSaved _ value member).1 notLive
        | none => exact congrArg LiveCandidateValue.status (full _ none member)
  have sameLive : ∀ slot, (indexOf restored).Live slot ↔ origin.Live slot := by
    intro slot
    by_cases slotRange : slot < captured.candidateCount
    · unfold LiveIndex.Live
      rw [show ((indexOf restored).value slot).status = (origin.value slot).status from
        unflagged_status (old slot slotRange)]
    · constructor
      · intro live
        exact absurd (new slot (by omega)) live
      · intro live
        exact absurd (LiveIndex.live_in_range originMapped live) slotRange
  have sameCard : ∀ slot, origin.Live slot → (indexOf restored).card slot = origin.card slot :=
    fun slot live => unflagged_card (old slot (LiveIndex.live_in_range originMapped live))
  have mapRead : ∀ (cardId : Int64) slot, restored.slotByCardId[cardId]? = some slot ↔
      origin.Live slot ∧ origin.card slot = cardId := by
    intro cardId slot
    constructor
    · intro mapped
      exact restoredMap.sound cardId slot mapped (by simp)
    · rintro ⟨live, rfl⟩
      exact restoredMap.found slot live (by simp)
  have restoredBounded : MarksBounded restored := by
    rw [restoredShape, refreshedShape]
    exact base.bounded
  constructor
  case exact =>
    refine ⟨restoredSized, restoredBounded, ?_, ?_⟩
    · intro slot outside
      exact value_out_of_range restoredSized outside
    · intro cardId slot
      rw [sameLive]
      refine (mapRead cardId slot).trans ?_
      constructor
      · rintro ⟨live, same⟩
        exact ⟨live, (sameCard slot live).trans same⟩
      · rintro ⟨live, same⟩
        exact ⟨live, (sameCard slot live).symm.trans same⟩
  case shape =>
    rw [restoredShape, refreshedShape]
    exact ⟨rfl, rfl, rfl, rfl, rfl, rfl⟩
  case counted => exact restoredCount.trans refreshedCount
  case sameMap =>
    apply ExtTreeMap.ext_getElem?
    intro cardId
    apply Option.ext
    intro slot
    exact (mapRead cardId slot).trans (originMapped.mapped cardId slot).symm
  case distinct =>
    rw [restoredList]
    refine List.Nodup.append ?_ covers.distinctFull ?_
    · exact List.Nodup.sublist (List.Sublist.map _ List.filter_sublist) covers.distinctRefresh
    · intro slot refreshMember fullMember
      obtain ⟨entry, entryMember, rfl⟩ := List.mem_map.mp refreshMember
      have marked := (List.mem_filter.mp entryMember).2
      rw [decide_eq_true_eq, (covers.fullMarked entry.1).mp fullMember] at marked
      cases marked
  case inRange =>
    intro slot member
    rw [restoredCount.trans refreshedCount]
    rw [restoredList, List.mem_append] at member
    rcases member with refreshMember | fullMember
    · obtain ⟨entry, entryMember, rfl⟩ := List.mem_map.mp refreshMember
      obtain ⟨listed, marked⟩ := List.mem_filter.mp entryMember
      exact liveRange entry.1 entry.2 listed (of_decide_eq_true marked)
    · exact fullRange slot fullMember
  case unchanged =>
    intro slot outside
    rw [restoredList, List.mem_append, not_or] at outside
    cases marked : frame.recordedSlot slot with
    | unrecorded => exact (unrecorded slot marked).symm
    | refreshDelta =>
        obtain ⟨entry, member, rfl⟩ := List.mem_map.mp (covers.refreshMarked slot marked)
        have listed : entry ∈ frame.refreshDeltas.filter fun delta =>
            frame.recordedSlot delta.1 = .refreshDelta :=
          List.mem_filter.mpr ⟨member, decide_eq_true marked⟩
        exact absurd (List.mem_map_of_mem listed) outside.1
    | fullDelta => exact absurd ((covers.fullMarked slot).mpr marked) outside.2
  case old => exact old
  case new => exact new
  case full => exact fun slot value member => full slot (some value) member
  case discarded =>
    exact fun slot member => congrArg LiveCandidateValue.eligible (full slot none member)
  case refresh => exact refresh
  case unrecorded => exact unrecorded

/-- `restore_undo` after the deltas. -/
def finishedUndo [DecidableEq F] (state : LivePredictionSessionState F)
    (frame : LiveIndexUndoFrame F) : LivePredictionSessionState F :=
  let (restored, slots) := restoredSlots state frame
  let advanced := { restored with
    generation := if state.generation + 1 < frame.previousGeneration + 1 then
      frame.previousGeneration + 1 else state.generation + 1 }
  let ordered :=
    if decide ((deltaBase state frame).retentionExtra ≠ frame.previousRetentionExtra) then
      advanced.recomputeAllEligibilities.rebuildOrder
    else advanced.updateOrderAfterRefresh slots false
  { ordered with lastMembershipSlots := [], lastTransportSlots := [] }

theorem restore_undo_finishes [DecidableEq F] {state : LivePredictionSessionState F}
    {frame : LiveIndexUndoFrame F} (sameToken : frame.sessionToken = state.token) :
    restoreUndo state frame = .ok (finishedUndo state frame) := by
  unfold restoreUndo
  rw [if_neg (not_not.mpr sameToken)]
  rfl

/-- The restored slots and order, whichever way the order is updated. -/
structure UndoFinished (captured finished : LivePredictionSessionState F) : Prop where
  slots : SlotsExact finished
  ordered : (indexOf finished).Ordered finished.orderedSlots
  token : finished.token = captured.token
  order : finished.order = captured.order
  retentionExtra : finished.retentionExtra = captured.retentionExtra
  targetTimestampSeconds : finished.targetTimestampSeconds = captured.targetTimestampSeconds
  targetDayOffset : finished.targetDayOffset = captured.targetDayOffset
  counted : captured.candidateCount ≤ finished.candidateCount
  sameMap : finished.slotByCardId = captured.slotByCardId
  old : ∀ slot, slot < captured.candidateCount →
    unflagged (finished.value slot) = unflagged (captured.value slot)
  new : ∀ slot, captured.candidateCount ≤ slot → finished.status slot = .removed

/-- An undo is finished by anything that keeps the restored slots up to their flags. -/
private theorem undo_finished_of_index {captured state : LivePredictionSessionState F}
    {frame : LiveIndexUndoFrame F} (exact : FrameExact flagged captured frame state)
    {restored finished : LivePredictionSessionState F} {touched : List Nat}
    (spec : SlotsRestored captured (deltaBase state frame) restored frame touched)
    (sameIndex : { indexOf finished with value := restored.value } = indexOf restored)
    (sameValue : ∀ slot, unflagged (finished.value slot) = unflagged (restored.value slot))
    (slots : SlotsExact finished) (ordered : (indexOf finished).Ordered finished.orderedSlots) :
    UndoFinished captured finished := by
  obtain ⟨baseOrder, baseToken⟩ := delta_base_order state frame
  obtain ⟨sameToken, sameOrder, _, sameExtra, sameTimestamp, sameDay⟩ := spec.shape
  constructor
  case slots => exact slots
  case ordered => exact ordered
  case token =>
    exact (congrArg LiveIndex.token sameIndex).trans
      (sameToken.trans (baseToken.trans exact.token))
  case order =>
    exact (congrArg LiveIndex.order sameIndex).trans
      (sameOrder.trans (baseOrder.trans exact.order))
  case retentionExtra =>
    exact (congrArg LiveIndex.retentionExtra sameIndex).trans (sameExtra.trans exact.retentionExtra)
  case targetTimestampSeconds =>
    exact (congrArg LiveIndex.targetTimestampSeconds sameIndex).trans
      (sameTimestamp.trans exact.targetTimestampSeconds)
  case targetDayOffset =>
    exact (congrArg LiveIndex.targetDayOffset sameIndex).trans (sameDay.trans exact.targetDayOffset)
  case counted =>
    rw [show finished.candidateCount = restored.candidateCount from
      congrArg LiveIndex.count sameIndex, spec.counted]
    exact exact.covers.counted
  case sameMap => exact (congrArg LiveIndex.slotByCardId sameIndex).trans spec.sameMap
  case old =>
    intro slot slotRange
    exact (sameValue slot).trans (spec.old slot slotRange)
  case new =>
    intro slot beyond
    exact (unflagged_status (sameValue slot)).trans (spec.new slot beyond)

theorem finished_undo_spec [DecidableEq F] {captured state : LivePredictionSessionState F}
    {frame : LiveIndexUndoFrame F} (capturedExact : SessionExact flagged captured)
    (exact : FrameExact flagged captured frame state) :
    UndoFinished captured (finishedUndo state frame) ∧
      ((finishedUndo state frame).value =
        if (deltaBase state frame).retentionExtra = frame.previousRetentionExtra then
          (restoredSlots state frame).1.value
        else fun slot =>
          freshValue captured.retentionExtra ((restoredSlots state frame).1.value slot)) := by
  have spec := restored_slots_spec capturedExact exact
  set restored := (restoredSlots state frame).1 with restoredDef
  set slots := (restoredSlots state frame).2 with slotsDef
  set advanced : LivePredictionSessionState F := { restored with
    generation := if state.generation + 1 < frame.previousGeneration + 1 then
      frame.previousGeneration + 1 else state.generation + 1 } with advancedDef
  obtain ⟨_, sameOrder, sameOrdered, sameExtra, _, _⟩ := spec.shape
  have advancedSlots : SlotsExact advanced :=
    ⟨spec.exact.sized, spec.exact.bounded, spec.exact.mapped⟩
  by_cases same : (deltaBase state frame).retentionExtra = frame.previousRetentionExtra
  · -- The order is updated for the restored slots only.
    have stage : finishedUndo state frame = { advanced.updateOrderAfterRefresh slots false with
        lastMembershipSlots := [], lastTransportSlots := [] } := by
      unfold finishedUndo
      simp only [same, ne_eq, not_true_eq_false, decide_false, Bool.false_eq_true, if_false]
      rfl
    have sameIndex : indexOf (finishedUndo state frame) = indexOf restored := by
      rw [stage]
      exact index_update_order advanced slots false
    have sameValue : (finishedUndo state frame).value = restored.value :=
      congrArg LiveIndex.value sameIndex
    have before : (indexOf (deltaBase state frame)).Ordered advanced.orderedSlots := by
      rw [show advanced.orderedSlots = _ from sameOrdered]
      exact exact.base.ordered
    have orderedSlots := update_order_ordered advancedSlots.sized advancedSlots.bounded
      advancedSlots.mapped before sameOrder.symm spec.distinct spec.inRange spec.unchanged
    have sized := update_order_sized advancedSlots.sized slots false
    have bounded := update_order_bounded advancedSlots.bounded slots false
    refine ⟨undo_finished_of_index exact spec ?_ ?_ ⟨?_, ?_, ?_⟩ ?_, ?_⟩
    · rw [sameIndex]
      rfl
    · intro slot
      rw [sameValue]
    · rw [stage]
      exact sized
    · rw [stage]
      exact bounded
    · exact sameIndex.symm ▸ spec.exact.mapped
    · rw [sameIndex, stage]
      exact orderedSlots
    · rw [if_pos same]
      exact sameValue
  · -- Every flag is recomputed and the order rebuilt.
    have stage : finishedUndo state frame =
        { advanced.recomputeAllEligibilities.rebuildOrder with
          lastMembershipSlots := [], lastTransportSlots := [] } := by
      unfold finishedUndo
      simp only [same, ne_eq, not_false_eq_true, decide_true, if_true]
      rfl
    have flagged := index_recompute advancedSlots.sized
    have sameIndex : indexOf (finishedUndo state frame) = (indexOf restored).reflagged := by
      rw [stage]
      exact flagged
    have sized := recompute_sized advancedSlots.sized
    have mapped : (indexOf advanced.recomputeAllEligibilities).Mapped :=
      flagged ▸ LiveIndex.reflagged_mapped advancedSlots.mapped
    have sameValue : (finishedUndo state frame).value = fun slot =>
        freshValue captured.retentionExtra (restored.value slot) := by
      rw [← exact.retentionExtra, ← sameExtra]
      exact congrArg LiveIndex.value sameIndex
    refine ⟨undo_finished_of_index exact spec ?_ ?_ ⟨?_, ?_, ?_⟩ ?_, ?_⟩
    · rw [sameIndex]
      rfl
    · intro slot
      rw [sameValue]
      exact unflagged_fresh _ _
    · rw [stage]
      exact sized
    · obtain ⟨eligibilities, shape⟩ := recompute_shape advanced
      rw [stage, shape]
      exact advancedSlots.bounded
    · exact sameIndex.symm ▸ LiveIndex.reflagged_mapped spec.exact.mapped
    · rw [stage]
      exact rebuild_ordered sized mapped
    · rw [if_neg same]
      exact sameValue

theorem same_content_of_values {captured finished : LivePredictionSessionState F}
    (capturedExact : SessionExact flagged captured) (undo : UndoFinished captured finished)
    (sameValue : ∀ slot, slot < captured.candidateCount →
      finished.value slot = captured.value slot) : SameLogicalContent captured finished := by
  have ordered : (indexOf captured).Ordered finished.orderedSlots := by
    refine LiveIndex.ordered_congr undo.ordered ?_ ?_
    · intro slot live
      have slotRange : slot < captured.candidateCount := by
        by_contra beyond
        exact live (undo.new slot (by omega))
      unfold LiveIndex.rank
      rw [show (indexOf finished).value slot = captured.value slot from sameValue slot slotRange]
      rw [show (indexOf finished).order = captured.order from undo.order]
      rfl
    · intro slot
      by_cases slotRange : slot < captured.candidateCount
      · unfold LiveIndex.Live
        rw [show (indexOf finished).value slot = captured.value slot from sameValue slot slotRange]
        rfl
      · constructor
        · intro live
          exact absurd (exact_live_range capturedExact.toSlotsExact live) slotRange
        · intro live
          exact absurd (undo.new slot (by omega)) live
  constructor
  case retentionExtra => exact undo.retentionExtra
  case targetTimestampSeconds => exact undo.targetTimestampSeconds
  case targetDayOffset => exact undo.targetDayOffset
  case slotByCardId => exact undo.sameMap
  case value =>
    intro slot live
    exact sameValue slot (exact_live_range capturedExact.toSlotsExact live)
  case orderedSlots => exact LiveIndex.ordered_unique ordered capturedExact.ordered
  case appended =>
    intro slot beyond
    refine ⟨undo.new slot beyond, fun member => ?_⟩
    exact (undo.ordered.listed slot).mp member (undo.new slot beyond)

theorem same_content_of_fresh {captured finished : LivePredictionSessionState F}
    (capturedExact : SessionExact flagged captured) (known : flagged)
    (undo : UndoFinished captured finished) (fresh : (indexOf finished).Fresh) :
    SameLogicalContent captured finished := by
  apply same_content_of_values capturedExact undo
  intro slot slotRange
  have finishedFresh : FlagFresh captured.retentionExtra (finished.value slot) := by
    rw [← undo.retentionExtra]
    exact fresh slot
  exact eq_of_fresh (undo.old slot slotRange) finishedFresh (capturedExact.fresh known slot)

theorem finished_fresh [DecidableEq F] {captured state : LivePredictionSessionState F}
    {frame : LiveIndexUndoFrame F} (capturedExact : SessionExact flagged captured)
    (exact : FrameExact flagged captured frame state) (known : flagged)
    (current : FlagsCurrent state frame) : (indexOf (finishedUndo state frame)).Fresh := by
  obtain ⟨undo, values⟩ := finished_undo_spec capturedExact exact
  have spec := restored_slots_spec capturedExact exact
  intro slot
  rw [show (indexOf (finishedUndo state frame)).retentionExtra = captured.retentionExtra from
    undo.retentionExtra, show (indexOf (finishedUndo state frame)).value slot = _ from
      congrFun values slot]
  by_cases same : (deltaBase state frame).retentionExtra = frame.previousRetentionExtra
  · rw [if_pos same, ← exact.retentionExtra]
    obtain ⟨fullCurrent, refreshCurrent⟩ := current same
    cases marked : frame.recordedSlot slot with
    | unrecorded =>
        rw [spec.unrecorded slot marked, ← same]
        exact exact.base.fresh known slot
    | refreshDelta =>
        obtain ⟨entry, member, rfl⟩ := List.mem_map.mp (exact.covers.refreshMarked slot marked)
        rw [spec.refresh entry.1 entry.2 member marked]
        exact refreshCurrent entry member marked
    | fullDelta =>
        obtain ⟨⟨_, saved⟩, member, rfl⟩ :=
          List.mem_map.mp ((exact.covers.fullMarked slot).mpr marked)
        cases saved with
        | some value =>
            rw [spec.full _ value member]
            exact fullCurrent _ member value rfl
        | none =>
            have removed := spec.new _ (exact.covers.newSaved _ member).1
            refine flag_fresh_of_unusable _ ?_ (spec.discarded _ member)
            rw [show ((restoredSlots state frame).1.value _).status = .removed from removed]
            rfl
  · rw [if_neg same]
    exact fresh_value_fresh _ _

/-- The undo is exact if and only if the flags it restores are current. -/
theorem undo_exact_iff [DecidableEq F] {captured state : LivePredictionSessionState F}
    {frame : LiveIndexUndoFrame F} (capturedExact : SessionExact flagged captured)
    (exact : FrameExact flagged captured frame state) (known : flagged) :
    SameLogicalContent captured (finishedUndo state frame) ↔ FlagsCurrent state frame := by
  obtain ⟨undo, values⟩ := finished_undo_spec capturedExact exact
  have spec := restored_slots_spec capturedExact exact
  constructor
  · intro content same
    rw [if_pos same] at values
    have restoredFresh : ∀ slot, captured.status slot ≠ .removed →
        FlagFresh frame.previousRetentionExtra ((restoredSlots state frame).1.value slot) := by
      intro slot live
      rw [← values, content.value slot live, exact.retentionExtra]
      exact capturedExact.fresh known slot
    constructor
    · rintro ⟨slot, saved⟩ member value savedValue
      cases savedValue
      have fresh := restoredFresh slot (exact.covers.fullSaved slot value member).1
      rw [spec.full slot value member] at fresh
      exact fresh
    · rintro ⟨slot, saved⟩ member marked
      have fresh := restoredFresh slot (exact.covers.refreshSaved slot saved member marked).1
      rw [spec.refresh slot saved member marked] at fresh
      exact fresh
  · intro current
    exact same_content_of_fresh capturedExact known undo
      (finished_fresh capturedExact exact known current)

end RwkvSrs.LiveUndoExact
