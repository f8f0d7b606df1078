import RwkvSrs.LiveUndoExact

/-!
The session calls an undo frame lives through. Each call either records the
slots it writes before it writes them, or changes no slot value but its flag,
or saves the whole slot space once; so a frame that covered the session before
the call covers it afterwards.
-/

namespace RwkvSrs.LiveUndoEdits

open Std RwkvSrs.LiveTypes RwkvSrs.LiveSessionState RwkvSrs.LiveSessionSelection
open RwkvSrs.LiveSessionIndex RwkvSrs.LiveSessionSlots RwkvSrs.LiveSessionOrder
open RwkvSrs.LiveSessionOperations RwkvSrs.LiveSessionInvariant RwkvSrs.LiveSessionRefresh
open RwkvSrs.LiveSessionStaging RwkvSrs.LiveUndoFrame RwkvSrs.LiveUndoCover
open RwkvSrs.LiveUndoExact SessionFloat

set_option autoImplicit false
set_option linter.unusedSectionVars false

variable {F : Type} [SessionFloat F] [DecidableEq F] {flagged : Prop}

/-- The session calls that leave the undo stack in place. -/
inductive LiveEdit (F : Type) where
  | excludeCard (cardId : Int64)
  | includeCard (cardId : Int64)
  | removeCard (cardId : Int64)
  | upsertCandidates (seeds : List (LiveCandidateSeed F))
  | setRetentionExtra (value : F)
  | refresh (predict : Predictor F) (request : RefreshRequest F)
  | reconcileCandidates (seeds : List (LiveCandidateSeed F)) (predict : Predictor F)
      (request : ReconcileRequest F)
  | reconcileMembership (cardIds : List Int64) (changedCandidates : List (LiveCandidateSeed F))
      (predict : Predictor F) (request : ReconcileRequest F)
  | setMode (mode : LivePredictionMode)
  | currentSelection (selectLimit : Nat) (excludedCardIds : List Int64)

/-- The session and the frame it records into, after one call. -/
def applyEdit (edit : LiveEdit F)
    (current : LivePredictionSessionState F × Option (LiveIndexUndoFrame F)) :
    LivePredictionSessionState F × Option (LiveIndexUndoFrame F) :=
  let (state, undo) := current
  match edit with
  | .excludeCard cardId => outcome (excludeCard state cardId undo)
  | .includeCard cardId => outcome (includeCard state cardId undo)
  | .removeCard cardId => outcome (removeCard state cardId undo)
  | .upsertCandidates seeds => outcome (upsertCandidates state seeds undo)
  | .setRetentionExtra value => outcome (setRetentionExtra state value undo)
  | .refresh predict request => outcome (refreshLiveSession state predict request undo)
  | .reconcileCandidates seeds predict request =>
      outcome (reconcileLiveSessionCandidates state seeds predict request undo)
  | .reconcileMembership cardIds changedCandidates predict request =>
      outcome (reconcileLiveSessionMembership state cardIds changedCandidates predict request undo)
  | .setMode mode => (setMode state mode, undo)
  | .currentSelection selectLimit excludedCardIds =>
      ((currentSelectionOutput state selectLimit excludedCardIds).1, undo)
where
  outcome {Result : Type} (step : LiveStep F Result) :
      LivePredictionSessionState F × Option (LiveIndexUndoFrame F) :=
    (step.session, step.undo)

structure SameHeader (before after : LiveIndexUndoFrame F) : Prop where
  sessionToken : after.sessionToken = before.sessionToken
  retentionExtra : after.previousRetentionExtra = before.previousRetentionExtra
  timestamp : after.previousTargetTimestampSeconds = before.previousTargetTimestampSeconds
  dayOffset : after.previousTargetDayOffset = before.previousTargetDayOffset
  saved : after.preReconciliationState = before.preReconciliationState

theorem same_header_trans {first second third : LiveIndexUndoFrame F}
    (left : SameHeader first second) (right : SameHeader second third) : SameHeader first third where
  sessionToken := right.sessionToken.trans left.sessionToken
  retentionExtra := right.retentionExtra.trans left.retentionExtra
  timestamp := right.timestamp.trans left.timestamp
  dayOffset := right.dayOffset.trans left.dayOffset
  saved := right.saved.trans left.saved

private theorem ensured_header (frame : LiveIndexUndoFrame F) (slot : Nat) :
    SameHeader frame (frame.ensureRecordedSlot slot) := by
  unfold LiveIndexUndoFrame.ensureRecordedSlot
  split <;> exact ⟨rfl, rfl, rfl, rfl, rfl⟩

theorem record_slot_header (frame : LiveIndexUndoFrame F) (state : LivePredictionSessionState F)
    (slot : Nat) : SameHeader frame (frame.recordSlot state slot) := by
  have ensured := ensured_header frame slot
  unfold LiveIndexUndoFrame.recordSlot
  split
  · exact ⟨rfl, rfl, rfl, rfl, rfl⟩
  · simp only
    split
    · exact same_header_trans ensured ⟨rfl, rfl, rfl, rfl, rfl⟩
    · split
      · exact same_header_trans ensured ⟨rfl, rfl, rfl, rfl, rfl⟩
      · exact ensured
    · exact ensured

theorem record_refresh_header (frame : LiveIndexUndoFrame F) (state : LivePredictionSessionState F)
    (slot : Nat) : SameHeader frame (frame.recordRefreshSlot state slot) := by
  have ensured := ensured_header frame slot
  unfold LiveIndexUndoFrame.recordRefreshSlot
  split
  · exact ⟨rfl, rfl, rfl, rfl, rfl⟩
  · simp only
    split
    · exact same_header_trans ensured ⟨rfl, rfl, rfl, rfl, rfl⟩
    · exact ensured

theorem record_new_header (frame : LiveIndexUndoFrame F) (slot : Nat) :
    SameHeader frame (frame.recordNewSlot slot) := by
  have ensured := ensured_header frame slot
  unfold LiveIndexUndoFrame.recordNewSlot
  split
  · exact ⟨rfl, rfl, rfl, rfl, rfl⟩
  · simp only
    split
    · exact same_header_trans ensured ⟨rfl, rfl, rfl, rfl, rfl⟩
    · exact ensured

/-- The session calls keep the session exact and never change its token or order. -/
structure EditedExact (flagged : Prop) (before after : LivePredictionSessionState F) : Prop where
  exact : SessionExact flagged after
  token : after.token = before.token
  order : after.order = before.order

/-- After a saved replacement the frame no longer looks at the session's slots. -/
theorem frame_exact_closed {captured before after : LivePredictionSessionState F}
    {frame : LiveIndexUndoFrame F} (exact : FrameExact flagged captured frame before)
    (closed : frame.preReconciliationState.isSome = true) (edited : EditedExact flagged before after) :
    FrameExact flagged captured frame after := by
  obtain ⟨previous, saved⟩ := Option.isSome_iff_exists.mp closed
  have sameIndex : indexOf (deltaBase after frame) = indexOf (deltaBase before frame) := by
    unfold deltaBase
    rw [saved]
    simp only [indexOf, restoreReconciliationUndoState, edited.token, edited.order]
    rfl
  have base := exact.base
  unfold deltaBase at base sameIndex
  rw [saved] at base sameIndex
  have baseAfter : SessionExact flagged (deltaBase after frame) := by
    unfold deltaBase
    rw [saved]
    refine ⟨⟨base.sized, base.bounded, ?_⟩, ?_, ?_⟩
    · exact sameIndex ▸ base.mapped
    · exact sameIndex ▸ base.ordered
    · exact sameIndex ▸ base.fresh
  constructor
  case frameToken => exact exact.frameToken
  case token => exact edited.token.trans exact.token
  case order => exact edited.order.trans exact.order
  case retentionExtra => exact exact.retentionExtra
  case targetTimestampSeconds => exact exact.targetTimestampSeconds
  case targetDayOffset => exact exact.targetDayOffset
  case base => exact baseAfter
  case covers =>
    refine covers_congr exact.covers ?_ ?_
    · unfold deltaBase
      rw [saved]
      exact congrArg LiveIndex.count sameIndex
    · unfold deltaBase
      rw [saved]
      exact congrArg LiveIndex.value sameIndex

theorem delta_base_open {frame : LiveIndexUndoFrame F}
    (open_ : frame.preReconciliationState = none) (state : LivePredictionSessionState F) :
    deltaBase state frame = state := by
  unfold deltaBase
  rw [open_]

/-- Before a replacement the frame covers the session itself. -/
theorem frame_exact_open {captured before after : LivePredictionSessionState F}
    {frame next : LiveIndexUndoFrame F} (exact : FrameExact flagged captured frame before)
    (open_ : frame.preReconciliationState = none) (edited : EditedExact flagged before after)
    (header : SameHeader frame next)
    (covers : FrameCovers (indexOf captured) next (indexOf after)) :
    FrameExact flagged captured next after := by
  have nextOpen : next.preReconciliationState = none := header.saved.trans open_
  constructor
  case frameToken => exact header.sessionToken.trans exact.frameToken
  case token => exact edited.token.trans exact.token
  case order => exact edited.order.trans exact.order
  case retentionExtra => exact header.retentionExtra.trans exact.retentionExtra
  case targetTimestampSeconds => exact header.timestamp.trans exact.targetTimestampSeconds
  case targetDayOffset => exact header.dayOffset.trans exact.targetDayOffset
  case base =>
    rw [delta_base_open nextOpen]
    exact edited.exact
  case covers =>
    rw [delta_base_open nextOpen]
    exact covers

theorem covers_open {captured state : LivePredictionSessionState F} {frame : LiveIndexUndoFrame F}
    (exact : FrameExact flagged captured frame state) (open_ : frame.preReconciliationState = none) :
    FrameCovers (indexOf captured) frame (indexOf state) := by
  have covers := exact.covers
  rw [delta_base_open open_] at covers
  exact covers

/-- An edit of one live slot: exact, and on the index a write of that slot. -/
structure SlotEdit (flagged : Prop) (before after : LivePredictionSessionState F) (slot : Nat) :
    Prop extends EditedExact flagged before after where
  counted : after.candidateCount = before.candidateCount
  written : ∃ value : LiveCandidateValue F, value.candidate.cardId = (indexOf before).card slot ∧
    after.value = Function.update before.value slot value

private theorem recorded_slot_edit {captured before after : LivePredictionSessionState F}
    {frame : LiveIndexUndoFrame F} (exact : FrameExact flagged captured frame before) {slot : Nat}
    (live : (indexOf before).Live slot) (edit : SlotEdit flagged before after slot) :
    FrameExact flagged captured (frame.recordSlot before slot) after := by
  cases saved : frame.preReconciliationState with
  | some previous =>
      have unchanged : frame.recordSlot before slot = frame := by
        unfold LiveIndexUndoFrame.recordSlot
        rw [saved]
        rfl
      rw [unchanged]
      exact frame_exact_closed exact (by rw [saved]; rfl) edit.toEditedExact
  | none =>
      have current : before.value = (indexOf before).value := rfl
      obtain ⟨recorded, marked⟩ := covers_record_slot (covers_open exact saved) current saved live
      obtain ⟨value, sameCard, written⟩ := edit.written
      refine frame_exact_open exact saved edit.toEditedExact (record_slot_header frame before slot) ?_
      exact covers_write_full recorded marked (Nat.le_of_eq edit.counted.symm) written
        fun _ => sameCard

private theorem status_edit {state : LivePredictionSessionState F} (exact : SessionExact flagged state)
    {slot : Nat} (live : (indexOf state).Live slot) {status : CandidateStatus}
    (kept : status ≠ .removed)
    (sameUse : status.predictionIsUsable = (state.status slot).predictionIsUsable) :
    SlotEdit flagged state (state.setStatus slot status).advanceGeneration slot := by
  have inRange := exact_live_range exact.toSlotsExact live
  have written := index_set_status exact.sized inRange status
  exact {
    exact := with_generation_exact (set_status_exact exact live kept sameUse)
    token := rfl
    order := rfl
    counted := rfl
    written := ⟨{ state.value slot with status := status }, rfl, congrArg LiveIndex.value written⟩ }

private theorem remove_edit {state : LivePredictionSessionState F} (exact : SessionExact flagged state)
    {cardId : Int64} {slot : Nat} (live : (indexOf state).Live slot)
    (sameCard : (indexOf state).card slot = cardId) :
    SlotEdit flagged state (removeSlot cardId state slot) slot := by
  have inRange := exact_live_range exact.toSlotsExact live
  have written := index_remove_slot exact.sized inRange cardId
  exact {
    exact := remove_slot_exact exact live sameCard
    token := congrArg LiveIndex.token written
    order := congrArg LiveIndex.order written
    counted := congrArg LiveIndex.count written
    written := ⟨removedValue (state.value slot), rfl, congrArg LiveIndex.value written⟩ }

/-- What every edit has to keep: the session, and the frame if there is one. -/
structure EditKeeps (flagged : Prop) (captured before : LivePredictionSessionState F)
    (undo : Option (LiveIndexUndoFrame F))
    (result : LivePredictionSessionState F × Option (LiveIndexUndoFrame F)) : Prop where
  edited : EditedExact flagged before result.1
  recorded : ∀ frame, undo = some frame → FrameExact flagged captured frame before →
    ∃ next, result.2 = some next ∧ FrameExact flagged captured next result.1
  unrecorded : undo = none → result.2 = none

private theorem edit_card_keeps {captured state : LivePredictionSessionState F}
    (exact : SessionExact flagged state)
    {edit : LivePredictionSessionState F → Nat → LivePredictionSessionState F} (cardId : Int64)
    (sound : ∀ slot, (indexOf state).Live slot → (indexOf state).card slot = cardId →
      SlotEdit flagged state (edit state slot) slot)
    (undo : Option (LiveIndexUndoFrame F)) :
    EditKeeps flagged captured state undo
      ((editCard edit state cardId undo).session, (editCard edit state cardId undo).undo) := by
  unfold editCard
  cases found : state.candidateSlot cardId with
  | error message =>
      refine ⟨⟨exact, rfl, rfl⟩, ?_, id⟩
      rintro frame rfl covered
      exact ⟨frame, rfl, covered⟩
  | ok slot =>
      obtain ⟨live, sameCard⟩ := candidate_slot_live exact.mapped found
      have slotEdit := sound slot live sameCard
      refine ⟨slotEdit.toEditedExact, ?_, ?_⟩
      · rintro frame rfl covered
        exact ⟨_, rfl, recorded_slot_edit covered live slotEdit⟩
      · rintro rfl
        rfl

private theorem upsert_index_facts (index : LiveIndex F) (value : LiveCandidateValue F) :
    (upsertIndex index value).token = index.token ∧ (upsertIndex index value).order = index.order := by
  unfold upsertIndex
  split <;> exact ⟨rfl, rfl⟩

/-- One upserted value with a frame that still covers the session. -/
theorem upsert_value_covers {captured : LivePredictionSessionState F}
    (capturedMapped : (indexOf captured).Mapped) {state : LivePredictionSessionState F}
    (slots : SlotsExact state) {value : LiveCandidateValue F} (pending : PendingValue value)
    {frame : LiveIndexUndoFrame F} (open_ : frame.preReconciliationState = none)
    (covers : FrameCovers (indexOf captured) frame (indexOf state)) :
    ∃ next, (upsertValue (state, some frame) value).2 = some next ∧ SameHeader frame next ∧
      FrameCovers (indexOf captured) next (indexOf (upsertValue (state, some frame) value).1) := by
  have written := index_upsert_value slots pending (some frame)
  have mapping : (indexOf state).slotByCardId = state.slotByCardId := rfl
  unfold upsertIndex at written
  rw [mapping] at written
  cases found : state.slotByCardId[value.candidate.cardId]? with
  | none =>
      rw [found] at written
      have recordedUndo : (upsertValue (state, some frame) value).2 =
          some (frame.recordNewSlot state.candidates.length) := by
        unfold upsertValue
        simp only [found]
        rfl
      refine ⟨_, recordedUndo, record_new_header frame _, ?_⟩
      rw [written]
      have grown := covers_grown covers (Nat.le_succ (indexOf state).count)
      have beyond : (indexOf captured).count ≤ state.candidates.length := covers.counted
      obtain ⟨recorded, marked⟩ :=
        covers_record_new grown capturedMapped open_ beyond (Nat.lt_succ_self _)
      refine covers_write_full recorded marked (Nat.le_refl _) rfl ?_
      intro old
      exact absurd covers.counted (Nat.not_le.mpr old)
  | some slot =>
      rw [found] at written
      have live : (indexOf state).Live slot := LiveIndex.live_of_mapped slots.mapped found
      have sameCard : (indexOf state).card slot = value.candidate.cardId :=
        LiveIndex.card_of_mapped slots.mapped found
      have sameCandidate := (upsert_kept_facts pending (state.status slot) state.retentionExtra).2.1
      have recordedUndo : (upsertValue (state, some frame) value).2 =
          some (frame.recordSlot state slot) := by
        unfold upsertValue
        simp only [found]
        rfl
      have current : state.value = (indexOf state).value := rfl
      obtain ⟨recorded, marked⟩ := covers_record_slot covers current open_ live
      refine ⟨_, recordedUndo, record_slot_header frame state slot, ?_⟩
      rw [written]
      refine covers_write_full recorded marked (Nat.le_refl _) rfl ?_
      intro _
      rw [sameCard]
      exact congrArg LiveCandidate.cardId sameCandidate

theorem upsert_closed {state : LivePredictionSessionState F}
    (value : LiveCandidateValue F) {frame : LiveIndexUndoFrame F}
    (closed : frame.preReconciliationState.isSome = true) :
    (upsertValue (state, some frame) value).2 = some frame := by
  unfold upsertValue
  simp only
  split
  · simp only [Option.map_some, LiveIndexUndoFrame.recordSlot, closed, if_true]
  · simp only [Option.map_some, LiveIndexUndoFrame.recordNewSlot, closed, if_true]

private theorem upsert_none {state : LivePredictionSessionState F} (value : LiveCandidateValue F) :
    (upsertValue (state, none) value).2 = none := by
  unfold upsertValue
  simp only
  split <;> rfl

/-- The upsert loop, for every kind of frame. -/
private theorem upsert_fold_keeps {captured : LivePredictionSessionState F}
    (capturedMapped : (indexOf captured).Mapped) {values : List (LiveCandidateValue F)}
    (pending : ∀ value ∈ values, PendingValue value) {state : LivePredictionSessionState F}
    (slots : SlotsExact state) (undo : Option (LiveIndexUndoFrame F)) :
    let result := values.foldl upsertValue (state, undo)
    result.1.token = state.token ∧ result.1.order = state.order ∧
      (undo = none → result.2 = none) ∧
      (∀ frame, undo = some frame → frame.preReconciliationState.isSome = true →
        result.2 = some frame) ∧
      ∀ frame, undo = some frame → frame.preReconciliationState = none →
        FrameCovers (indexOf captured) frame (indexOf state) →
        ∃ next, result.2 = some next ∧ SameHeader frame next ∧
          FrameCovers (indexOf captured) next (indexOf result.1) := by
  induction values generalizing state undo with
  | nil =>
      refine ⟨rfl, rfl, id, fun frame same _ => same, ?_⟩
      rintro frame rfl _ covers
      exact ⟨frame, rfl, ⟨rfl, rfl, rfl, rfl, rfl⟩, covers⟩
  | cons value values ih =>
      have headPending := pending value (by simp)
      have nextSlots := (upsert_value_slots slots headPending undo).1
      have written := index_upsert_value slots headPending undo
      obtain ⟨sameToken, sameOrder⟩ := upsert_index_facts (indexOf state) value
      obtain ⟨restToken, restOrder, restNone, restClosed, restOpen⟩ :=
        ih (fun other member => pending other (List.mem_cons_of_mem _ member)) nextSlots
          (upsertValue (state, undo) value).2
      rw [List.foldl_cons]
      refine ⟨restToken.trans ?_, restOrder.trans ?_, ?_, ?_, ?_⟩
      · exact (congrArg LiveIndex.token written).trans sameToken
      · exact (congrArg LiveIndex.order written).trans sameOrder
      · rintro rfl
        exact restNone (upsert_none value)
      · rintro frame rfl closed
        exact restClosed frame (upsert_closed value closed) closed
      · rintro frame rfl open_ covers
        obtain ⟨middle, recorded, header, middleCovers⟩ :=
          upsert_value_covers capturedMapped slots headPending open_ covers
        obtain ⟨next, finished, nextHeader, nextCovers⟩ :=
          restOpen middle recorded (header.saved.trans open_) middleCovers
        exact ⟨next, finished, same_header_trans header nextHeader, nextCovers⟩

private theorem upsert_keeps {captured state : LivePredictionSessionState F}
    (capturedExact : SessionExact flagged captured) (exact : SessionExact flagged state)
    (seeds : List (LiveCandidateSeed F)) (undo : Option (LiveIndexUndoFrame F)) :
    EditKeeps flagged captured state undo
      ((upsertCandidates state seeds undo).session, (upsertCandidates state seeds undo).undo) := by
  have sessionExact := upsert_candidates_exact exact seeds undo
  have unchanged : EditKeeps flagged captured state undo (state, undo) := by
    refine ⟨⟨exact, rfl, rfl⟩, ?_, id⟩
    rintro frame rfl covered
    exact ⟨frame, rfl, covered⟩
  unfold upsertCandidates at sessionExact ⊢
  split
  · exact unchanged
  · next distinct =>
      rw [distinct] at sessionExact
      split
      · exact unchanged
      · next values built =>
          simp only [built] at sessionExact
          obtain ⟨sameToken, sameOrder, foldNone, foldClosed, foldOpen⟩ := upsert_fold_keeps
            capturedExact.mapped (seed_values_pending built) exact.toSlotsExact undo
          have edited : EditedExact flagged state
              (values.foldl upsertValue (state, undo)).1.advanceGeneration.rebuildOrder :=
            ⟨sessionExact, sameToken, sameOrder⟩
          refine ⟨edited, ?_, foldNone⟩
          rintro frame rfl covered
          cases saved : frame.preReconciliationState with
          | some previous =>
              have closed : frame.preReconciliationState.isSome = true := by
                rw [saved]
                rfl
              exact ⟨frame, foldClosed frame rfl closed, frame_exact_closed covered closed edited⟩
          | none =>
              obtain ⟨next, recorded, header, covers⟩ :=
                foldOpen frame rfl saved (covers_open covered saved)
              exact ⟨next, recorded, frame_exact_open covered saved edited header covers⟩

private theorem same_slots_keeps {captured before after : LivePredictionSessionState F}
    (edited : EditedExact flagged before after)
    (sameCovers : ∀ frame, FrameCovers (indexOf captured) frame (indexOf before) →
      FrameCovers (indexOf captured) frame (indexOf after))
    (undo : Option (LiveIndexUndoFrame F)) : EditKeeps flagged captured before undo (after, undo) := by
  refine ⟨edited, ?_, id⟩
  rintro frame rfl covered
  refine ⟨frame, rfl, ?_⟩
  cases saved : frame.preReconciliationState with
  | some previous => exact frame_exact_closed covered (by rw [saved]; rfl) edited
  | none =>
      exact frame_exact_open covered saved edited ⟨rfl, rfl, rfl, rfl, rfl⟩
        (sameCovers frame (covers_open covered saved))

theorem set_retention_index {state : LivePredictionSessionState F} (sized : SlotsSized state)
    {value : F} (undo : Option (LiveIndexUndoFrame F))
    (valid : validateRetentionExtra value = .ok ()) :
    indexOf (setRetentionExtra state value undo).session =
      ({ indexOf state with retentionExtra := value } : LiveIndex F).reflagged := by
  have retimed : SlotsSized { state with retentionExtra := value } := sized
  unfold setRetentionExtra
  rw [valid]
  exact index_recompute retimed

private theorem set_retention_keeps {captured state : LivePredictionSessionState F}
    (exact : SessionExact flagged state) (value : F) (undo : Option (LiveIndexUndoFrame F)) :
    EditKeeps flagged captured state undo
      ((setRetentionExtra state value undo).session, (setRetentionExtra state value undo).undo) := by
  have sessionExact := set_retention_exact exact value undo
  cases valid : validateRetentionExtra value with
  | error message =>
      have same : setRetentionExtra state value undo = ⟨state, undo, .error message⟩ := by
        unfold setRetentionExtra
        rw [valid]
      rw [same]
      exact same_slots_keeps ⟨exact, rfl, rfl⟩ (fun _ covers => covers) undo
  | ok _ =>
      have written := set_retention_index exact.sized undo valid
      have sameUndo : (setRetentionExtra state value undo).undo = undo := by
        unfold setRetentionExtra
        rw [valid]
      rw [sameUndo]
      refine same_slots_keeps ⟨sessionExact, congrArg LiveIndex.token written,
        congrArg LiveIndex.order written⟩ ?_ undo
      intro frame covers
      rw [written]
      exact covers_reflagged (covers_congr covers rfl rfl)

private theorem record_refresh_fold {captured state : LivePredictionSessionState F}
    {slots : List Nat} (live : ∀ slot ∈ slots, (indexOf state).Live slot)
    {frame : LiveIndexUndoFrame F} (open_ : frame.preReconciliationState = none)
    (covers : FrameCovers (indexOf captured) frame (indexOf state)) :
    let recorded := slots.foldl (fun frame slot => frame.recordRefreshSlot state slot) frame
    SameHeader frame recorded ∧ FrameCovers (indexOf captured) recorded (indexOf state) ∧
      (∀ slot, frame.recordedSlot slot ≠ .unrecorded → recorded.recordedSlot slot ≠ .unrecorded) ∧
      ∀ slot ∈ slots, recorded.recordedSlot slot ≠ .unrecorded := by
  induction slots generalizing frame with
  | nil =>
      refine ⟨⟨rfl, rfl, rfl, rfl, rfl⟩, covers, fun _ recorded => recorded, ?_⟩
      intro slot member
      cases member
  | cons slot slots ih =>
      have current : state.value = (indexOf state).value := rfl
      obtain ⟨headCovers, headMarked, headKept⟩ :=
        covers_record_refresh covers current open_ (live slot (by simp))
      have header := record_refresh_header frame state slot
      obtain ⟨restHeader, restCovers, restKept, restMarked⟩ :=
        ih (fun other member => live other (List.mem_cons_of_mem _ member))
          (header.saved.trans open_) headCovers
      rw [List.foldl_cons]
      refine ⟨same_header_trans header restHeader, restCovers, ?_, ?_⟩
      · intro other recorded
        exact restKept other (headKept other recorded)
      · intro other member
        rcases List.mem_cons.mp member with same | later
        · subst same
          exact restKept other headMarked
        · exact restMarked other later

theorem record_refresh_closed {state : LivePredictionSessionState F}
    (slots : List Nat) {frame : LiveIndexUndoFrame F}
    (closed : frame.preReconciliationState.isSome = true) :
    slots.foldl (fun frame slot => frame.recordRefreshSlot state slot) frame = frame := by
  induction slots with
  | nil => rfl
  | cons slot slots ih =>
      have unchanged : frame.recordRefreshSlot state slot = frame := by
        unfold LiveIndexUndoFrame.recordRefreshSlot
        rw [if_pos closed]
      rw [List.foldl_cons, unchanged, ih]

private theorem refreshed_write (retentionExtra targetTimestampSeconds targetDayOffset : F)
    {value : LiveCandidateValue F} (live : value.status ≠ .removed) (prediction : F)
    (input : ReviewInput F) :
    RefreshWrite value (refreshedValue retentionExtra targetTimestampSeconds targetDayOffset value
      prediction input) :=
  ⟨(refreshed_kept live).1, rfl, fun _ => rfl⟩

private theorem refresh_outcome_covers {captured state : LivePredictionSessionState F}
    {frame : LiveIndexUndoFrame F} {after : LiveIndex F} {request : RefreshRequest F}
    {entries : List (Nat × F × ReviewInput F)}
    (covers : FrameCovers (indexOf captured) frame (indexOf state))
    (live : ∀ entry ∈ entries, (indexOf state).Live entry.1)
    (marked : ∀ entry ∈ entries, frame.recordedSlot entry.1 ≠ .unrecorded)
    (outcome : RefreshOutcome request (indexOf state) after entries) :
    FrameCovers (indexOf captured) frame after := by
  obtain ⟨applied, refreshed, same⟩ := outcome
  have sameCount := congrArg LiveIndex.count refreshed.sameRest
  have appliedCovers : FrameCovers (indexOf captured) frame applied := by
    refine covers_refresh covers sameCount ?_
    intro slot
    by_cases listed : slot ∈ entries.map Prod.fst
    · obtain ⟨entry, member, rfl⟩ := List.mem_map.mp listed
      refine Or.inr ⟨marked entry member, ?_⟩
      rw [refreshed.listed entry member]
      exact refreshed_write _ _ _ (live entry member) _ _
    · exact Or.inl (refreshed.others slot listed)
  rw [same]
  split
  · exact appliedCovers
  · exact covers_reflagged appliedCovers

private theorem refresh_outcome_same {request : RefreshRequest F} {before after : LiveIndex F}
    {entries : List (Nat × F × ReviewInput F)}
    (outcome : RefreshOutcome request before after entries) :
    after.token = before.token ∧ after.order = before.order := by
  obtain ⟨applied, refreshed, same⟩ := outcome
  have token := congrArg LiveIndex.token refreshed.sameRest
  have order := congrArg LiveIndex.order refreshed.sameRest
  rw [same]
  split
  · exact ⟨token, order⟩
  · exact ⟨token, order⟩

private theorem refresh_keeps {captured state : LivePredictionSessionState F}
    (exact : SessionExact flagged state) (predict : Predictor F) (request : RefreshRequest F)
    (undo : Option (LiveIndexUndoFrame F)) :
    EditKeeps flagged captured state undo
      ((refreshLiveSession state predict request undo).session,
        (refreshLiveSession state predict request undo).undo) := by
  obtain ⟨selected, sameIndex, distinct, live⟩ :=
    membership_exact exact request.excludedRefreshCardIds
  have committedSpec := committed_refresh exact request
  set chosen := selectRefreshMembership state request.excludedRefreshCardIds with chosenDef
  have chosenEdited : EditedExact flagged state chosen :=
    ⟨selected, congrArg LiveIndex.token sameIndex, congrArg LiveIndex.order sameIndex⟩
  have sameCovers : ∀ frame, FrameCovers (indexOf captured) frame (indexOf state) →
      FrameCovers (indexOf captured) frame (indexOf chosen) := fun frame covers =>
    sameIndex.symm ▸ covers
  rcases refresh_cases state predict request undo with
    ⟨same, sameUndo, _⟩ | ⟨same, sameUndo, _⟩ | ⟨same, sameUndo, _⟩ |
      ⟨predictions, sameCount, same, sameUndo, _⟩
  · rw [same, sameUndo]
    exact same_slots_keeps ⟨exact, rfl, rfl⟩ (fun _ covers => covers) undo
  · rw [same, sameUndo]
    exact same_slots_keeps chosenEdited sameCovers undo
  · rw [same, sameUndo]
    exact same_slots_keeps ⟨failed_refresh_exact selected, chosenEdited.token, chosenEdited.order⟩
      sameCovers undo
  · rw [same, sameUndo]
    obtain ⟨committedExact, outcome⟩ := committedSpec predictions sameCount
    obtain ⟨sameToken, sameOrder⟩ := refresh_outcome_same outcome
    have edited : EditedExact flagged state
        (commitRefresh request chosen (refreshInputs request chosen) predictions).1 :=
      ⟨committedExact, sameToken, sameOrder⟩
    refine ⟨edited, ?_, ?_⟩
    · rintro frame rfl covered
      refine ⟨_, rfl, ?_⟩
      change FrameExact flagged captured
        (chosen.transportSlots.foldl (fun frame slot => frame.recordRefreshSlot chosen slot) frame) _
      cases saved : frame.preReconciliationState with
      | some previous =>
          have closed : frame.preReconciliationState.isSome = true := by
            rw [saved]
            rfl
          rw [record_refresh_closed chosen.transportSlots closed]
          exact frame_exact_closed covered closed edited
      | none =>
          obtain ⟨header, covers, _, marked⟩ := record_refresh_fold
            (sameIndex.symm ▸ live) saved (sameCovers frame (covers_open covered saved))
          rw [sameIndex] at covers
          have entrySlot : ∀ entry ∈ chosen.transportSlots.zip
              (predictions.zip (refreshInputs request chosen)), entry.1 ∈ chosen.transportSlots :=
            fun entry member => (List.of_mem_zip member).1
          exact frame_exact_open covered saved edited header (refresh_outcome_covers covers
            (fun entry member => live entry.1 (entrySlot entry member))
            (fun entry member => marked entry.1 (entrySlot entry member)) outcome)
    · rintro rfl
      rfl

private theorem replacement_keeps {captured state : LivePredictionSessionState F}
    (exact : SessionExact flagged state) {step : LiveStep F (LiveRefreshOutput F)}
    {undo : Option (LiveIndexUndoFrame F)}
    (outcome : (step.session = state ∧ step.undo = undo ∧ step.result.isOk = false) ∨
      (SessionExact flagged step.session ∧ step.session.token = state.token ∧
        step.session.order = state.order ∧
        (step.undo = undo.map fun frame => frame.recordReconciliationState state) ∧
        step.result.isOk = true)) :
    EditKeeps flagged captured state undo (step.session, step.undo) := by
  rcases outcome with ⟨same, sameUndo, _⟩ | ⟨installed, sameToken, sameOrder, sameUndo, _⟩
  · rw [same, sameUndo]
    exact same_slots_keeps ⟨exact, rfl, rfl⟩ (fun _ covers => covers) undo
  · rw [sameUndo]
    have edited : EditedExact flagged state step.session := ⟨installed, sameToken, sameOrder⟩
    refine ⟨edited, ?_, ?_⟩
    · rintro frame rfl covered
      refine ⟨_, rfl, ?_⟩
      change FrameExact flagged captured (frame.recordReconciliationState state) step.session
      cases saved : frame.preReconciliationState with
      | some previous =>
          have closed : frame.preReconciliationState.isSome = true := by
            rw [saved]
            rfl
          have unchanged : frame.recordReconciliationState state = frame := by
            unfold LiveIndexUndoFrame.recordReconciliationState
            rw [if_pos closed]
          rw [unchanged]
          exact frame_exact_closed covered closed edited
      | none =>
          have recorded : frame.recordReconciliationState state =
              { frame with preReconciliationState := some (intoReconciliationUndoState state) } := by
            unfold LiveIndexUndoFrame.recordReconciliationState
            rw [saved]
            rfl
          rw [recorded]
          have covers := covers_open covered saved
          -- The saved slot space is the session's own.
          have baseIndex : indexOf (restoreReconciliationUndoState step.session
              (intoReconciliationUndoState state)) = indexOf state := by
            simp only [indexOf, restoreReconciliationUndoState, sameToken, sameOrder]
            rfl
          have sized := exact.sized
          obtain ⟨predictions, normal, intraday, ties, randoms, statuses, eligibilities, _⟩ := sized
          constructor
          case frameToken => exact covered.frameToken
          case token => exact sameToken.trans covered.token
          case order => exact sameOrder.trans covered.order
          case retentionExtra => exact covered.retentionExtra
          case targetTimestampSeconds => exact covered.targetTimestampSeconds
          case targetDayOffset => exact covered.targetDayOffset
          case base =>
            refine ⟨⟨⟨predictions, normal, intraday, ties, randoms, statuses, eligibilities,
              List.length_replicate⟩, ?_, ?_⟩, ?_, ?_⟩
            · intro mark member
              rw [(List.mem_replicate.mp member).2]
              exact UInt64.zero_le
            · exact baseIndex.symm ▸ exact.mapped
            · exact baseIndex.symm ▸ exact.ordered
            · exact baseIndex.symm ▸ exact.fresh
          case covers =>
            refine covers_congr ?_ (congrArg LiveIndex.count baseIndex)
              (congrArg LiveIndex.value baseIndex)
            exact covers
    · rintro rfl
      rfl

theorem edit_keeps {captured state : LivePredictionSessionState F}
    (capturedExact : SessionExact flagged captured) (exact : SessionExact flagged state) (edit : LiveEdit F)
    (undo : Option (LiveIndexUndoFrame F)) :
    EditKeeps flagged captured state undo (applyEdit edit (state, undo)) := by
  cases edit with
  | excludeCard cardId =>
      refine edit_card_keeps exact cardId ?_ undo
      intro slot live _
      have liveStatus : state.status slot ≠ .removed := live
      obtain ⟨kept, sameUse⟩ := excluded_kept liveStatus
      exact status_edit exact live kept sameUse
  | includeCard cardId =>
      refine edit_card_keeps exact cardId ?_ undo
      intro slot live _
      have liveStatus : state.status slot ≠ .removed := live
      obtain ⟨kept, sameUse⟩ := included_kept liveStatus
      exact status_edit exact live kept sameUse
  | removeCard cardId =>
      refine edit_card_keeps exact cardId ?_ undo
      intro slot live sameCard
      exact remove_edit exact live sameCard
  | upsertCandidates seeds => exact upsert_keeps capturedExact exact seeds undo
  | setRetentionExtra value => exact set_retention_keeps exact value undo
  | refresh predict request => exact refresh_keeps exact predict request undo
  | reconcileCandidates seeds predict request =>
      exact replacement_keeps exact (reconcile_candidates_exact seeds predict request undo)
  | reconcileMembership cardIds changedCandidates predict request =>
      exact replacement_keeps exact
        (reconcile_membership_exact cardIds changedCandidates predict request undo)
  | setMode mode =>
      have moded : SessionExact flagged (setMode state mode) :=
        ⟨⟨exact.sized, exact.bounded, exact.mapped⟩, exact.ordered, exact.fresh⟩
      have edited : EditedExact flagged state (setMode state mode) := ⟨moded, rfl, rfl⟩
      exact same_slots_keeps edited (fun _ covers => covers) undo
  | currentSelection selectLimit excludedCardIds =>
      obtain ⟨selected, sameIndex⟩ := select_final_exact exact selectLimit excludedCardIds
      exact same_slots_keeps ⟨selected, congrArg LiveIndex.token sameIndex,
        congrArg LiveIndex.order sameIndex⟩ (fun frame covers => sameIndex.symm ▸ covers) undo

end RwkvSrs.LiveUndoEdits
