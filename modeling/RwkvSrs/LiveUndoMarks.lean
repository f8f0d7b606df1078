import RwkvSrs.LiveUndoEdits

/-!
What a run notes of an answer beside the undo frame. A mark lists the slots that
were touched since the answer, each with the retention extra in force at its
first touch, and the retention extra that the first replacement saved. The marks
read the sessions of the run and never the frame. A frame saves the flag of a
slot at its first touch, so whether the saved flags are current is a question
about the mark alone.
-/

namespace RwkvSrs.LiveUndoMarks

open Std RwkvSrs.ResultSteps RwkvSrs.LiveTypes RwkvSrs.LiveSessionState
open RwkvSrs.LiveSessionSelection RwkvSrs.LiveSessionRank RwkvSrs.LiveSessionIndex
open RwkvSrs.LiveSessionSlots
open RwkvSrs.LiveSessionOperations RwkvSrs.LiveSessionInvariant RwkvSrs.LiveSessionRefresh
open RwkvSrs.LiveSessionStaging RwkvSrs.LiveUndoFrame RwkvSrs.LiveUndoCover
open RwkvSrs.LiveUndoExact RwkvSrs.LiveUndoEdits SessionFloat

set_option autoImplicit false
set_option linter.unusedSectionVars false

variable {F : Type} [SessionFloat F] [DecidableEq F]

structure AnswerMark (F : Type) where
  captured : LivePredictionSessionState F
  touched : List (Nat × F)
  replaced : Option F

/-- Only the first touch of a slot is noted. -/
def touchSlot (retentionExtra : F) (touched : List (Nat × F)) (slot : Nat) : List (Nat × F) :=
  if slot ∈ touched.map Prod.fst then touched else touched ++ [(slot, retentionExtra)]

/-- The mark of an answer to the card in `slot`. -/
def AnswerMark.begin (state : LivePredictionSessionState F) (slot : Nat) : AnswerMark F where
  captured := state
  touched := [(slot, state.retentionExtra)]
  replaced := none

/-- The slots that a call writes to, of those the session has. -/
def editedSlots (state : LivePredictionSessionState F) (edit : LiveEdit F) : List Nat :=
  match edit with
  | .excludeCard cardId | .includeCard cardId | .removeCard cardId =>
      (state.slotByCardId[cardId]?).toList
  | .upsertCandidates seeds =>
      if (upsertCandidates state seeds none).result.isOk then
        (seeds.map fun seed => seed.row.cardId).filterMap fun cardId => state.slotByCardId[cardId]?
      else []
  | .refresh predict request =>
      if (refreshLiveSession state predict request none).result.isOk then
        (selectRefreshMembership state request.excludedRefreshCardIds).transportSlots
      else []
  | _ => []

/-- The call replaces the whole slot space. -/
def replacesSlots (state : LivePredictionSessionState F) (edit : LiveEdit F) : Bool :=
  match edit with
  | .reconcileCandidates seeds predict request =>
      (reconcileLiveSessionCandidates state seeds predict request none).result.isOk
  | .reconcileMembership cardIds changedCandidates predict request =>
      (reconcileLiveSessionMembership state cardIds changedCandidates predict request
        none).result.isOk
  | _ => false

/-- The mark after a call on the session `state`. -/
def AnswerMark.edit (mark : AnswerMark F) (state : LivePredictionSessionState F)
    (edit : LiveEdit F) : AnswerMark F :=
  if mark.replaced.isSome then mark
  else { mark with
    touched := (editedSlots state edit).foldl (touchSlot state.retentionExtra) mark.touched
    replaced := if replacesSlots state edit then some state.retentionExtra else none }

/-- When the undo runs under `retentionExtra`: either the retention extra it restores differs from
the one it finds, or every captured slot was first touched under a retention extra that makes its
captured value as eligible as the captured one does. -/
def AnswerMark.FlagsKept (mark : AnswerMark F) (retentionExtra : F) : Prop :=
  mark.replaced.getD retentionExtra = mark.captured.retentionExtra →
    ∀ touch ∈ mark.touched, mark.captured.status touch.1 ≠ .removed →
      { mark.captured with retentionExtra := touch.2 }.calculateEligibility touch.1 =
        mark.captured.calculateEligibility touch.1

instance (mark : AnswerMark F) (retentionExtra : F) : Decidable (mark.FlagsKept retentionExtra) :=
  inferInstanceAs (Decidable (_ → _))

theorem edit_captured (mark : AnswerMark F) (state : LivePredictionSessionState F)
    (edit : LiveEdit F) : (mark.edit state edit).captured = mark.captured := by
  unfold AnswerMark.edit
  split <;> rfl

theorem touched_slot {retentionExtra extra : F} {touched : List (Nat × F)} {slot other : Nat} :
    (other, extra) ∈ touchSlot retentionExtra touched slot ↔
      (other, extra) ∈ touched ∨
        (other = slot ∧ extra = retentionExtra ∧ slot ∉ touched.map Prod.fst) := by
  unfold touchSlot
  split
  · next listed => simp [listed]
  · next absent => simp [absent]

theorem touched_slots {retentionExtra : F} {touched : List (Nat × F)} {slot other : Nat} :
    other ∈ (touchSlot retentionExtra touched slot).map Prod.fst ↔
      other ∈ touched.map Prod.fst ∨ other = slot := by
  unfold touchSlot
  split
  · next listed =>
      constructor
      · exact Or.inl
      · rintro (old | rfl)
        · exact old
        · exact listed
  · simp

/-- The frame writes this flag back to the slot. -/
def SavedFlag (frame : LiveIndexUndoFrame F) (slot : Nat) (flag : Bool) : Prop :=
  (∃ value, (slot, some value) ∈ frame.candidateDeltas ∧ value.eligible = flag) ∨
    frame.recordedSlot slot = .refreshDelta ∧
      ∃ saved, (slot, saved) ∈ frame.refreshDeltas ∧ saved.eligible = flag

section Saved

variable {origin index : LiveIndex F} {frame next : LiveIndexUndoFrame F}

theorem saved_origin_live (covers : FrameCovers origin frame index) {slot : Nat} {flag : Bool}
    (saved : SavedFlag frame slot flag) : origin.Live slot := by
  rcases saved with ⟨value, member, _⟩ | ⟨marked, delta, member, _⟩
  · exact (covers.fullSaved slot value member).1
  · exact (covers.refreshSaved slot delta member marked).1

theorem saved_recorded (covers : FrameCovers origin frame index) {slot : Nat} {flag : Bool}
    (saved : SavedFlag frame slot flag) : frame.recordedSlot slot ≠ .unrecorded := by
  rcases saved with ⟨value, member, _⟩ | ⟨marked, _⟩
  · rw [(covers.fullMarked slot).mp (List.mem_map_of_mem member)]
    simp
  · rw [marked]
    simp

theorem recorded_saved (originMapped : origin.Mapped) (covers : FrameCovers origin frame index)
    {slot : Nat} (live : origin.Live slot) (recorded : frame.recordedSlot slot ≠ .unrecorded) :
    ∃ flag, SavedFlag frame slot flag := by
  cases marked : frame.recordedSlot slot with
  | unrecorded => exact absurd marked recorded
  | refreshDelta =>
      obtain ⟨entry, member, rfl⟩ := List.mem_map.mp (covers.refreshMarked slot marked)
      exact ⟨entry.2.eligible, Or.inr ⟨marked, entry.2, member, rfl⟩⟩
  | fullDelta =>
      obtain ⟨⟨_, saved⟩, member, rfl⟩ := List.mem_map.mp ((covers.fullMarked slot).mpr marked)
      cases saved with
      | some value => exact ⟨value.eligible, Or.inl ⟨value, member, rfl⟩⟩
      | none =>
          have beyond := (covers.newSaved _ member).1
          exact absurd (LiveIndex.live_in_range originMapped live) (Nat.not_lt.mpr beyond)

/-- Recording a slot saves at most its flag of that moment, and only the first time. -/
structure SlotNoted (frame next : LiveIndexUndoFrame F) (slot : Nat) (flag : Bool) : Prop where
  marks : ∀ other, next.recordedSlot other = .unrecorded ↔
    frame.recordedSlot other = .unrecorded ∧ other ≠ slot
  flags : ∀ other saved, SavedFlag next other saved → SavedFlag frame other saved ∨
    other = slot ∧ frame.recordedSlot slot = .unrecorded ∧ saved = flag

theorem ensured_noted {slot : Nat} {flag : Bool}
    (noted : SlotNoted (frame.ensureRecordedSlot slot) next slot flag) :
    SlotNoted frame next slot flag := by
  have sameMarks := (recorded_ensured frame slot).1
  have sameSaved : SavedFlag (frame.ensureRecordedSlot slot) = SavedFlag frame := by
    have sameFull : (frame.ensureRecordedSlot slot).candidateDeltas = frame.candidateDeltas := by
      unfold LiveIndexUndoFrame.ensureRecordedSlot
      split <;> rfl
    have sameRefresh : (frame.ensureRecordedSlot slot).refreshDeltas = frame.refreshDeltas := by
      unfold LiveIndexUndoFrame.ensureRecordedSlot
      split <;> rfl
    funext other saved
    unfold SavedFlag
    rw [sameFull, sameRefresh, sameMarks]
  constructor
  · intro other
    rw [noted.marks other, sameMarks]
  · intro other saved found
    rw [← sameSaved, ← sameMarks]
    exact noted.flags other saved found

theorem pushed_noted {slot : Nat} (inRange : slot < frame.recordedSlots.length)
    {saved : Option (LiveCandidateValue F)} {flag : Bool}
    (sound : ∀ value ∈ saved, SavedFlag frame slot value.eligible ∨
      frame.recordedSlot slot = .unrecorded ∧ value.eligible = flag) :
    SlotNoted frame (frame.pushCandidateDelta slot saved) slot flag := by
  have marks : (frame.pushCandidateDelta slot saved).recordedSlot =
      Function.update frame.recordedSlot slot .fullDelta := recorded_set inRange _
  constructor
  · intro other
    rw [marks, Function.update_apply]
    split
    · next same => simp [same]
    · next different => simp [different]
  · intro other found pushed
    rcases pushed with ⟨value, member, same⟩ | ⟨marked, delta, member, same⟩
    · rcases List.mem_append.mp member with old | new
      · exact Or.inl (Or.inl ⟨value, old, same⟩)
      · rw [List.mem_singleton, Prod.mk.injEq] at new
        obtain ⟨here, kept⟩ := new
        subst here
        rw [← same]
        exact (sound value kept.symm).imp id fun first => ⟨rfl, first⟩
    · rw [marks, Function.update_apply] at marked
      split at marked
      · cases marked
      · exact Or.inl (Or.inr ⟨marked, delta, member, same⟩)

theorem unchanged_noted {slot : Nat} (recorded : frame.recordedSlot slot ≠ .unrecorded)
    (flag : Bool) : SlotNoted frame frame slot flag := by
  constructor
  · intro other
    constructor
    · intro marked
      refine ⟨marked, ?_⟩
      rintro rfl
      exact recorded marked
    · exact And.left
  · exact fun _ _ saved => Or.inl saved

theorem record_slot_noted (covers : FrameCovers origin frame index)
    (open_ : frame.preReconciliationState = none) (state : LivePredictionSessionState F)
    (slot : Nat) : SlotNoted frame (frame.recordSlot state slot) slot (state.eligibility slot) := by
  have inRange := (recorded_ensured frame slot).2
  have ensured := covers_ensured covers slot
  apply ensured_noted
  unfold LiveIndexUndoFrame.recordSlot
  rw [open_]
  simp only [Option.isSome_none, Bool.false_eq_true, if_false]
  cases marked : (frame.ensureRecordedSlot slot).recordedSlot slot with
  | unrecorded =>
      apply pushed_noted inRange
      intro value same
      cases same
      exact Or.inr ⟨marked, rfl⟩
  | refreshDelta =>
      obtain ⟨saved, found, member⟩ := refresh_delta_saved ensured marked
      simp only [found]
      apply pushed_noted inRange
      intro value same
      cases same
      exact Or.inl (Or.inr ⟨marked, saved, member, rfl⟩)
  | fullDelta => exact unchanged_noted (by simp [marked]) _

theorem record_new_noted (open_ : frame.preReconciliationState = none) (slot : Nat) (flag : Bool) :
    SlotNoted frame (frame.recordNewSlot slot) slot flag := by
  have inRange := (recorded_ensured frame slot).2
  apply ensured_noted
  unfold LiveIndexUndoFrame.recordNewSlot
  rw [open_]
  simp only [Option.isSome_none, Bool.false_eq_true, if_false]
  split
  · apply pushed_noted inRange
    intro value same
    cases same
  · next recorded => exact unchanged_noted recorded flag

theorem record_refresh_noted (covers : FrameCovers origin frame index)
    (open_ : frame.preReconciliationState = none) (state : LivePredictionSessionState F)
    (slot : Nat) :
    SlotNoted frame (frame.recordRefreshSlot state slot) slot (state.eligibility slot) := by
  have inRange := (recorded_ensured frame slot).2
  have ensured := covers_ensured covers slot
  apply ensured_noted
  unfold LiveIndexUndoFrame.recordRefreshSlot
  rw [open_]
  simp only [Option.isSome_none, Bool.false_eq_true, if_false]
  split
  · next unrecorded =>
      set base := frame.ensureRecordedSlot slot with baseDef
      have marks : LiveIndexUndoFrame.recordedSlot { base with
          refreshDeltas := base.refreshDeltas ++ [(slot, state.refreshUndoValue slot)]
          recordedSlots := base.recordedSlots.set slot .refreshDelta } =
          Function.update base.recordedSlot slot .refreshDelta := recorded_set inRange _
      constructor
      · intro other
        rw [marks, Function.update_apply]
        split
        · next same => simp [same]
        · next different => simp [different]
      · intro other found saved
        rcases saved with ⟨value, member, same⟩ | ⟨marked, delta, member, same⟩
        · exact Or.inl (Or.inl ⟨value, member, same⟩)
        · rcases List.mem_append.mp member with old | new
          · rw [marks, Function.update_apply] at marked
            split at marked
            · next here =>
                subst here
                exact absurd unrecorded (ensured.refreshListed _ (List.mem_map_of_mem old))
            · exact Or.inl (Or.inr ⟨marked, delta, old, same⟩)
          · rw [List.mem_singleton, Prod.mk.injEq] at new
            obtain ⟨here, kept⟩ := new
            subst here
            rw [← same, kept]
            exact Or.inr ⟨rfl, unrecorded, rfl⟩
  · next recorded => exact unchanged_noted recorded _

/-- The slots that the frame has recorded are the touched ones, and the flag it saves of a slot is
that of the captured value under the retention extra of the first touch. -/
structure TouchesHold (origin : LiveIndex F) (touched : List (Nat × F))
    (frame : LiveIndexUndoFrame F) : Prop where
  listed : ∀ slot, origin.Live slot →
    (slot ∈ touched.map Prod.fst ↔ frame.recordedSlot slot ≠ .unrecorded)
  flags : ∀ slot flag, SavedFlag frame slot flag → ∀ extra, (slot, extra) ∈ touched →
    flag = valueEligible extra (origin.value slot)

theorem touches_noted {touched : List (Nat × F)} (holds : TouchesHold origin touched frame)
    (covers : FrameCovers origin frame index) {slot : Nat} {flag : Bool}
    (noted : SlotNoted frame next slot flag) {extra : F}
    (first : frame.recordedSlot slot = .unrecorded →
      origin.Live slot ∧ flag = valueEligible extra (origin.value slot)) :
    TouchesHold origin (touchSlot extra touched slot) next := by
  constructor
  · intro other live
    rw [touched_slots, holds.listed other live, ne_eq, ne_eq, noted.marks other, not_and_or,
      not_not]
  · intro other found saved read member
    rcases noted.flags other found saved with old | ⟨rfl, unrecorded, rfl⟩
    · rcases touched_slot.mp member with before | ⟨rfl, rfl, absent⟩
      · exact holds.flags other found old read before
      · have live := saved_origin_live covers old
        exact absurd ((holds.listed _ live).mpr (saved_recorded covers old)) absent
    · obtain ⟨live, same⟩ := first unrecorded
      rcases touched_slot.mp member with before | ⟨_, rfl, _⟩
      · exact absurd unrecorded ((holds.listed _ live).mp (List.mem_map_of_mem before))
      · exact same

/-- A slot that the captured session does not have concerns no mark. -/
theorem touches_beyond {touched : List (Nat × F)} (originMapped : origin.Mapped)
    (holds : TouchesHold origin touched frame) (covers : FrameCovers origin next index) {slot : Nat}
    {flag : Bool} (beyond : origin.count ≤ slot) (noted : SlotNoted frame next slot flag) :
    TouchesHold origin touched next := by
  have elsewhere : ∀ other, origin.Live other → other ≠ slot := by
    rintro other live rfl
    exact absurd (LiveIndex.live_in_range originMapped live) (Nat.not_lt.mpr beyond)
  constructor
  · intro other live
    rw [holds.listed other live, ne_eq, ne_eq, noted.marks other]
    simp [elsewhere other live]
  · intro other found saved read member
    rcases noted.flags other found saved with old | ⟨here, _⟩
    · exact holds.flags other found old read member
    · exact absurd here (elsewhere other (saved_origin_live covers saved))

/-- The first time that a live slot of an exact session is recorded. -/
theorem first_touch {state : LivePredictionSessionState F}
    (covers : FrameCovers origin frame (indexOf state)) (fresh : (indexOf state).Fresh) {slot : Nat}
    (live : (indexOf state).Live slot) (unrecorded : frame.recordedSlot slot = .unrecorded) :
    origin.Live slot ∧
      state.eligibility slot = valueEligible state.retentionExtra (origin.value slot) := by
  have old : slot < origin.count := by
    by_contra beyond
    exact live (covers.unrecordedNew slot unrecorded (by omega))
  have same := covers.unrecordedOld slot unrecorded old
  constructor
  · unfold LiveIndex.Live
    rw [← unflagged_status same]
    exact live
  · rw [← eligible_of_unflagged state.retentionExtra same]
    exact fresh slot

end Saved

structure MarkHolds (mark : AnswerMark F) (frame : LiveIndexUndoFrame F) : Prop where
  replaced : (frame.preReconciliationState.map fun saved => saved.retentionExtra) = mark.replaced
  touches : TouchesHold (indexOf mark.captured) mark.touched frame

theorem begun_mark_holds {state : LivePredictionSessionState F} {slot : Nat}
    (fresh : (indexOf state).Fresh) (marked : ∀ other,
      (beginAnswerUndo state slot).recordedSlot other ≠ .unrecorded ↔ other = slot) :
    MarkHolds (AnswerMark.begin state slot) (beginAnswerUndo state slot) := by
  refine ⟨rfl, ?_, ?_⟩
  · intro other _
    rw [marked other]
    simp [AnswerMark.begin]
  · intro other flag saved extra member
    have single : (other, extra) = (slot, state.retentionExtra) := List.mem_singleton.mp member
    cases single
    rcases saved with ⟨value, listed, same⟩ | ⟨_, delta, listed, _⟩
    · have sole : (slot, some value) = (slot, some (state.value slot)) :=
        List.mem_singleton.mp listed
      cases sole
      rw [← same]
      exact fresh slot
    · cases listed

/-- With the flags of the sessions current, those that the frame saved are current exactly when the
mark says so. -/
theorem flags_current_iff {state : LivePredictionSessionState F} {frame : LiveIndexUndoFrame F}
    {mark : AnswerMark F} (capturedExact : SessionExact True mark.captured)
    (exact : FrameExact True mark.captured frame state) (holds : MarkHolds mark frame) :
    FlagsCurrent state frame ↔ mark.FlagsKept state.retentionExtra := by
  have covers := exact.covers
  have originMapped := capturedExact.mapped
  have sameBase : (deltaBase state frame).retentionExtra =
      mark.replaced.getD state.retentionExtra := by
    rw [← holds.replaced]
    unfold deltaBase
    cases frame.preReconciliationState with
    | none => rfl
    | some previous => rfl
  have current : FlagsCurrent state frame ↔
      (mark.replaced.getD state.retentionExtra = mark.captured.retentionExtra →
        ∀ slot flag, SavedFlag frame slot flag →
          flag = valueEligible mark.captured.retentionExtra (mark.captured.value slot)) := by
    unfold FlagsCurrent
    rw [sameBase, exact.retentionExtra]
    constructor
    · intro flags same slot flag saved
      obtain ⟨full, refresh⟩ := flags same
      rcases saved with ⟨value, member, rfl⟩ | ⟨marked, delta, member, rfl⟩
      · have unflaggedSame := (covers.fullSaved slot value member).2
        exact (full _ member value rfl).trans (eligible_of_unflagged _ unflaggedSame)
      · have unflaggedSame := (covers.refreshSaved slot delta member marked).2.2
        exact (refresh _ member marked).trans (eligible_of_unflagged _ unflaggedSame)
    · intro flags same
      constructor
      · rintro ⟨slot, saved⟩ member value kept
        cases kept
        have unflaggedSame := (covers.fullSaved slot value member).2
        exact (flags same slot _ (Or.inl ⟨value, member, rfl⟩)).trans
          (eligible_of_unflagged _ unflaggedSame).symm
      · rintro ⟨slot, delta⟩ member marked
        have unflaggedSame := (covers.refreshSaved slot delta member marked).2.2
        exact (flags same slot _ (Or.inr ⟨marked, delta, member, rfl⟩)).trans
          (eligible_of_unflagged _ unflaggedSame).symm
  rw [current]
  apply imp_congr_right
  intro _
  constructor
  · rintro flags ⟨slot, extra⟩ touched live
    have recorded := (holds.touches.listed slot live).mp (List.mem_map_of_mem touched)
    obtain ⟨flag, saved⟩ := recorded_saved originMapped covers live recorded
    exact (holds.touches.flags slot flag saved extra touched).symm.trans (flags slot flag saved)
  · intro kept slot flag saved
    have live := saved_origin_live covers saved
    have recorded := saved_recorded covers saved
    obtain ⟨⟨_, extra⟩, touched, rfl⟩ :=
      List.mem_map.mp ((holds.touches.listed slot live).mpr recorded)
    exact (holds.touches.flags _ flag saved extra touched).trans (kept _ touched live)

theorem first_duplicate_none {seen ids : List Int64} (none : firstDuplicate seen ids = .none) :
    ids.Nodup ∧ ∀ cardId ∈ ids, cardId ∉ seen := by
  induction ids generalizing seen with
  | nil => simp
  | cons cardId ids ih =>
      unfold firstDuplicate at none
      split at none
      · cases none
      · next absent =>
          obtain ⟨distinct, unseen⟩ := ih none
          simp only [List.contains_iff_mem] at absent
          constructor
          · refine List.nodup_cons.mpr ⟨?_, distinct⟩
            intro member
            exact unseen cardId member List.mem_cons_self
          · intro other member
            rcases List.mem_cons.mp member with rfl | later
            · exact absent
            · exact fun listed => unseen other later (List.mem_cons_of_mem _ listed)

theorem seed_value_cards {seeds : List (LiveCandidateSeed F)}
    {targetTimestampSeconds targetDayOffset : F} {values : List (LiveCandidateValue F)}
    (built : seeds.mapM (fun seed =>
      candidateValueFromSeed seed targetTimestampSeconds targetDayOffset) = .ok values) :
    (values.map fun value => value.candidate.cardId) = seeds.map fun seed => seed.row.cardId := by
  have pairs := mapM_ok built
  clear built
  induction pairs with
  | nil => rfl
  | cons parsed _ ih =>
      rw [List.map_cons, List.map_cons, ih, (candidate_value_pending parsed).2]

section Calls

variable {origin : LiveIndex F} {state : LivePredictionSessionState F}
  {frame : LiveIndexUndoFrame F} {touched : List (Nat × F)}

theorem refresh_touches {slots : List Nat} (live : ∀ slot ∈ slots, (indexOf state).Live slot)
    (fresh : (indexOf state).Fresh) (open_ : frame.preReconciliationState = none)
    (covers : FrameCovers origin frame (indexOf state))
    (holds : TouchesHold origin touched frame) :
    let recorded := slots.foldl (fun frame slot => frame.recordRefreshSlot state slot) frame
    recorded.preReconciliationState = none ∧
      TouchesHold origin (slots.foldl (touchSlot state.retentionExtra) touched) recorded := by
  induction slots generalizing frame touched with
  | nil => exact ⟨open_, holds⟩
  | cons slot slots ih =>
      have current : state.value = (indexOf state).value := rfl
      have headLive := live slot (by simp)
      have head := touches_noted holds covers (record_refresh_noted covers open_ state slot)
        (first_touch covers fresh headLive)
      exact ih (fun other member => live other (List.mem_cons_of_mem _ member))
        ((record_refresh_header frame state slot).saved.trans open_)
        (covers_record_refresh covers current open_ headLive).1 head

theorem upsert_value_extra {value : LiveCandidateValue F} (slots : SlotsExact state)
    (pending : PendingValue value) (undo : Option (LiveIndexUndoFrame F)) :
    (upsertValue (state, undo) value).1.retentionExtra = state.retentionExtra := by
  have written := congrArg LiveIndex.retentionExtra (index_upsert_value slots pending undo)
  apply written.trans
  unfold upsertIndex
  split <;> rfl

/-- Upserting a card leaves the slots of the other cards where they are. -/
theorem upsert_value_others {value : LiveCandidateValue F} (slots : SlotsExact state)
    (pending : PendingValue value) (undo : Option (LiveIndexUndoFrame F)) {cardIds : List Int64}
    (absent : value.candidate.cardId ∉ cardIds) :
    (cardIds.filterMap fun cardId => (upsertValue (state, undo) value).1.slotByCardId[cardId]?) =
      cardIds.filterMap fun cardId => state.slotByCardId[cardId]? := by
  apply List.filterMap_congr
  intro cardId member
  have different : value.candidate.cardId ≠ cardId := by
    rintro rfl
    exact absent member
  have sameMap := congrArg LiveIndex.slotByCardId (index_upsert_value slots pending undo)
  rw [show (upsertValue (state, undo) value).1.slotByCardId = _ from sameMap]
  unfold upsertIndex
  split
  · rfl
  · exact (ExtTreeMap.getElem?_insert ..).trans (by simp [different]; rfl)

theorem upsert_touches {captured : LivePredictionSessionState F}
    (capturedMapped : (indexOf captured).Mapped) {values : List (LiveCandidateValue F)}
    (pending : ∀ value ∈ values, PendingValue value)
    (distinct : (values.map fun value => value.candidate.cardId).Nodup) (slots : SlotsExact state)
    (fresh : (indexOf state).Fresh) (open_ : frame.preReconciliationState = none)
    (covers : FrameCovers (indexOf captured) frame (indexOf state))
    (holds : TouchesHold (indexOf captured) touched frame) :
    ∀ next ∈ (values.foldl upsertValue (state, some frame)).2,
      next.preReconciliationState = none ∧ TouchesHold (indexOf captured)
        (((values.map fun value => value.candidate.cardId).filterMap fun cardId =>
          state.slotByCardId[cardId]?).foldl (touchSlot state.retentionExtra) touched) next := by
  induction values generalizing state frame touched with
  | nil =>
      rintro next same
      cases same
      exact ⟨open_, holds⟩
  | cons value values ih =>
      have headPending := pending value (by simp)
      obtain ⟨absent, restDistinct⟩ := List.nodup_cons.mp distinct
      obtain ⟨nextSlots, nextFresh⟩ := upsert_value_slots slots headPending (some frame)
      obtain ⟨middle, recorded, header, middleCovers⟩ :=
        upsert_value_covers capturedMapped slots headPending open_ covers
      have middleOpen := header.saved.trans open_
      have sameExtra := upsert_value_extra slots headPending (some frame)
      -- The later cards are others, so their slots are still those of the session before.
      have sameSlots := upsert_value_others slots headPending (some frame) absent
      have pair : upsertValue (state, some frame) value =
          ((upsertValue (state, some frame) value).1, some middle) := Prod.ext rfl recorded
      rw [List.foldl_cons, pair, List.map_cons, List.filterMap_cons]
      rw [← sameSlots, ← sameExtra]
      cases found : state.slotByCardId[value.candidate.cardId]? with
      | none =>
          have sameMiddle : middle = frame.recordNewSlot state.candidates.length := by
            unfold upsertValue at recorded
            simp only [found] at recorded
            exact (Option.some.inj recorded).symm
          subst sameMiddle
          exact ih (fun other member => pending other (List.mem_cons_of_mem _ member)) restDistinct
            nextSlots (nextFresh fresh) middleOpen middleCovers
            (touches_beyond capturedMapped holds middleCovers covers.counted
              (record_new_noted open_ _ false))
      | some slot =>
          have live : (indexOf state).Live slot := LiveIndex.live_of_mapped slots.mapped found
          have sameMiddle : middle = frame.recordSlot state slot := by
            unfold upsertValue at recorded
            simp only [found] at recorded
            exact (Option.some.inj recorded).symm
          subst sameMiddle
          rw [List.foldl_cons]
          have head := touches_noted holds covers (record_slot_noted covers open_ state slot)
            (first_touch covers fresh live)
          rw [← sameExtra] at head
          exact ih (fun other member => pending other (List.mem_cons_of_mem _ member)) restDistinct
            nextSlots (nextFresh fresh) middleOpen middleCovers head

theorem upsert_fold_unrecorded (values : List (LiveCandidateValue F))
    (state : LivePredictionSessionState F) (undo other : Option (LiveIndexUndoFrame F)) :
    (values.foldl upsertValue (state, undo)).1 = (values.foldl upsertValue (state, other)).1 := by
  induction values generalizing state undo other with
  | nil => rfl
  | cons value values ih =>
      have same : (upsertValue (state, undo) value).1 = (upsertValue (state, other) value).1 := by
        unfold upsertValue
        simp only
        split <;> rfl
      have pair : upsertValue (state, undo) value = ((upsertValue (state, other) value).1,
          (upsertValue (state, undo) value).2) := Prod.ext same rfl
      rw [List.foldl_cons, List.foldl_cons, pair]
      exact ih _ _ _

theorem upsert_fold_closed (values : List (LiveCandidateValue F))
    (closed : frame.preReconciliationState.isSome = true) :
    (values.foldl upsertValue (state, some frame)).2 = some frame := by
  induction values generalizing state with
  | nil => rfl
  | cons value values ih =>
      have pair : upsertValue (state, some frame) value =
          ((upsertValue (state, some frame) value).1, some frame) :=
        Prod.ext rfl (upsert_closed value closed)
      rw [List.foldl_cons, pair]
      exact ih

theorem committed_frame (replacement : Except String (LivePredictionSessionState F))
    (request : ReconcileRequest F) :
    (commitReconciledLiveSessionReplacement state replacement request (some frame)).undo =
      if (commitReconciledLiveSessionReplacement state replacement request none).result.isOk then
        some (frame.recordReconciliationState state) else some frame := by
  cases replacement with
  | error message => rfl
  | ok replacement => rfl

/-- After a replacement a frame records nothing more. -/
theorem closed_frame_unchanged (closed : frame.preReconciliationState.isSome = true)
    (edit : LiveEdit F) : (applyEdit edit (state, some frame)).2 = some frame := by
  have cardUnchanged : ∀ (change : LivePredictionSessionState F → Nat →
      LivePredictionSessionState F) (cardId : Int64),
      (editCard change state cardId (some frame)).undo = some frame := by
    intro change cardId
    unfold editCard
    split
    · rfl
    · simp only [Option.map_some, LiveIndexUndoFrame.recordSlot, closed, if_true]
  have replacedUnchanged : ∀ (replacement : Except String (LivePredictionSessionState F))
      (request : ReconcileRequest F), (commitReconciledLiveSessionReplacement state replacement
        request (some frame)).undo = some frame := by
    intro replacement request
    rw [committed_frame]
    simp only [LiveIndexUndoFrame.recordReconciliationState, closed, if_true, ite_self]
  cases edit with
  | excludeCard cardId => exact cardUnchanged _ cardId
  | includeCard cardId => exact cardUnchanged _ cardId
  | removeCard cardId => exact cardUnchanged _ cardId
  | upsertCandidates seeds =>
      change (upsertCandidates state seeds (some frame)).undo = _
      unfold upsertCandidates
      split
      · rfl
      · split
        · rfl
        · exact upsert_fold_closed _ closed
  | setRetentionExtra value =>
      change (setRetentionExtra state value (some frame)).undo = _
      unfold setRetentionExtra
      split <;> rfl
  | refresh predict request =>
      change (refreshLiveSession state predict request (some frame)).undo = _
      rcases refresh_cases state predict request (some frame) with
        ⟨_, same, _⟩ | ⟨_, same, _⟩ | ⟨_, same, _⟩ | ⟨_, _, _, same, _⟩
      · exact same
      · exact same
      · exact same
      · rw [same, Option.map_some, record_refresh_closed _ closed]
  | reconcileCandidates seeds predict request => exact replacedUnchanged _ request
  | reconcileMembership cardIds changedCandidates predict request =>
      exact replacedUnchanged _ request
  | setMode mode => rfl
  | currentSelection selectLimit excludedCardIds => rfl

theorem replaced_frame {edit : LiveEdit F} (replaced : replacesSlots state edit = true) :
    (applyEdit edit (state, some frame)).2 = some (frame.recordReconciliationState state) ∧
      editedSlots state edit = [] := by
  cases edit with
  | reconcileCandidates seeds predict request =>
      exact ⟨(committed_frame _ request).trans (if_pos replaced), rfl⟩
  | reconcileMembership cardIds changedCandidates predict request =>
      exact ⟨(committed_frame _ request).trans (if_pos replaced), rfl⟩
  | _ => cases replaced

theorem card_touches {captured : LivePredictionSessionState F} (exact : SessionExact True state)
    (open_ : frame.preReconciliationState = none)
    (covers : FrameCovers (indexOf captured) frame (indexOf state))
    (holds : TouchesHold (indexOf captured) touched frame)
    (change : LivePredictionSessionState F → Nat → LivePredictionSessionState F) (cardId : Int64) :
    ∀ next ∈ (editCard change state cardId (some frame)).undo,
      next.preReconciliationState = none ∧ TouchesHold (indexOf captured)
        ((state.slotByCardId[cardId]?).toList.foldl (touchSlot state.retentionExtra) touched)
        next := by
  unfold editCard LivePredictionSessionState.candidateSlot
  cases found : state.slotByCardId[cardId]? with
  | none =>
      rintro next same
      cases same
      exact ⟨open_, holds⟩
  | some slot =>
      rintro next same
      cases same
      have live : (indexOf state).Live slot := LiveIndex.live_of_mapped exact.mapped found
      exact ⟨(record_slot_header frame state slot).saved.trans open_,
        touches_noted holds covers (record_slot_noted covers open_ state slot)
          (first_touch covers (exact.fresh trivial) live)⟩

/-- What a call notes of the slots it writes to is what the frame records. -/
theorem edit_touches {captured : LivePredictionSessionState F}
    (capturedMapped : (indexOf captured).Mapped) (exact : SessionExact True state)
    (open_ : frame.preReconciliationState = none)
    (covers : FrameCovers (indexOf captured) frame (indexOf state))
    (holds : TouchesHold (indexOf captured) touched frame) {edit : LiveEdit F}
    (kept : replacesSlots state edit = false) :
    ∀ next ∈ (applyEdit edit (state, some frame)).2,
      next.preReconciliationState = none ∧ TouchesHold (indexOf captured)
        ((editedSlots state edit).foldl (touchSlot state.retentionExtra) touched) next := by
  have unchanged : ∀ next ∈ some frame,
      next.preReconciliationState = none ∧ TouchesHold (indexOf captured) touched next := by
    rintro next same
    cases same
    exact ⟨open_, holds⟩
  cases edit with
  | excludeCard cardId => exact card_touches exact open_ covers holds _ cardId
  | includeCard cardId => exact card_touches exact open_ covers holds _ cardId
  | removeCard cardId => exact card_touches exact open_ covers holds _ cardId
  | upsertCandidates seeds =>
      change ∀ next ∈ (upsertCandidates state seeds (some frame)).undo, _
      unfold editedSlots upsertCandidates
      dsimp only
      split
      · exact unchanged
      · next distinct =>
          split
          · exact unchanged
          · next values built =>
              have sameCards := seed_value_cards built
              have touches := upsert_touches capturedMapped (seed_values_pending built)
                (sameCards ▸ (first_duplicate_none distinct).1) exact.toSlotsExact
                (exact.fresh trivial) open_ covers holds
              rw [sameCards] at touches
              exact touches
  | setRetentionExtra value =>
      change ∀ next ∈ (setRetentionExtra state value (some frame)).undo, _
      unfold setRetentionExtra
      split
      · exact unchanged
      · exact unchanged
  | refresh predict request =>
      obtain ⟨selected, sameIndex, _, live⟩ :=
        membership_exact exact request.excludedRefreshCardIds
      change ∀ next ∈ (refreshLiveSession state predict request (some frame)).undo, _
      unfold editedSlots
      dsimp only
      rw [← refresh_result_unrecorded state predict request (some frame)]
      rcases refresh_cases state predict request (some frame) with
        ⟨_, same, refused⟩ | ⟨_, same, refused⟩ | ⟨_, same, refused⟩ | ⟨_, _, _, same, accepted⟩
      · rw [same, refused]
        exact unchanged
      · rw [same, refused]
        exact unchanged
      · rw [same, refused]
        exact unchanged
      · rw [same, accepted]
        rintro next recorded
        cases recorded
        rw [if_pos rfl, ← show _ = state.retentionExtra from
          congrArg LiveIndex.retentionExtra sameIndex]
        exact refresh_touches (sameIndex.symm ▸ live) (selected.fresh trivial) open_
          (sameIndex.symm ▸ covers) holds
  | reconcileCandidates seeds predict request =>
      have refused : ¬ (reconcileLiveSessionCandidates state seeds predict request
          none).result.isOk = true := Bool.not_eq_true _ ▸ kept
      have same : (applyEdit (.reconcileCandidates seeds predict request)
          (state, some frame)).2 = some frame :=
        (committed_frame _ request).trans (if_neg refused)
      rw [same]
      exact unchanged
  | reconcileMembership cardIds changedCandidates predict request =>
      have refused : ¬ (reconcileLiveSessionMembership state cardIds changedCandidates predict
          request none).result.isOk = true := Bool.not_eq_true _ ▸ kept
      have same : (applyEdit (.reconcileMembership cardIds changedCandidates predict request)
          (state, some frame)).2 = some frame :=
        (committed_frame _ request).trans (if_neg refused)
      rw [same]
      exact unchanged
  | setMode mode => exact unchanged
  | currentSelection selectLimit excludedCardIds => exact unchanged

/-- The frame and the mark of an answer after one more call. -/
theorem edit_marked {mark : AnswerMark F} (capturedExact : SessionExact True mark.captured)
    (exact : SessionExact True state) (frameExact : FrameExact True mark.captured frame state)
    (holds : MarkHolds mark frame) (edit : LiveEdit F) :
    ∃ next, (applyEdit edit (state, some frame)).2 = some next ∧
      FrameExact True mark.captured next (applyEdit edit (state, some frame)).1 ∧
      MarkHolds (mark.edit state edit) next := by
  obtain ⟨next, recorded, nextExact⟩ :=
    (edit_keeps capturedExact exact edit (some frame)).recorded frame rfl frameExact
  refine ⟨next, recorded, nextExact, ?_⟩
  cases saved : frame.preReconciliationState with
  | some previous =>
      have closed : frame.preReconciliationState.isSome = true := by rw [saved]; rfl
      have replaced : mark.replaced.isSome = true := by rw [← holds.replaced, saved]; rfl
      rw [closed_frame_unchanged closed] at recorded
      cases recorded
      unfold AnswerMark.edit
      rw [if_pos replaced]
      exact holds
  | none =>
      have opened : mark.replaced = none := by rw [← holds.replaced, saved]; rfl
      unfold AnswerMark.edit
      rw [opened, Option.isSome_none, if_neg Bool.false_ne_true]
      cases replaces : replacesSlots state edit with
      | true =>
          obtain ⟨installed, untouched⟩ := replaced_frame replaces
          have same := installed.symm.trans recorded
          cases same
          rw [untouched]
          have recordedState : frame.recordReconciliationState state =
              { frame with preReconciliationState := some (intoReconciliationUndoState state) } := by
            unfold LiveIndexUndoFrame.recordReconciliationState
            rw [saved]
            rfl
          rw [recordedState]
          exact ⟨rfl, holds.touches.listed, holds.touches.flags⟩
      | false =>
          obtain ⟨nextOpen, touches⟩ := edit_touches capturedExact.mapped exact saved
            (covers_open frameExact saved) holds.touches replaces next recorded
          exact ⟨by rw [nextOpen]; rfl, touches⟩

/-- No call looks at the frame it records into. -/
theorem session_unrecorded (edit : LiveEdit F) (undo : Option (LiveIndexUndoFrame F)) :
    (applyEdit edit (state, undo)).1 = (applyEdit edit (state, none)).1 := by
  have cardUnrecorded : ∀ (change : LivePredictionSessionState F → Nat →
      LivePredictionSessionState F) (cardId : Int64),
      (editCard change state cardId undo).session = (editCard change state cardId none).session := by
    intro change cardId
    unfold editCard
    split <;> rfl
  have replacedUnrecorded : ∀ (replacement : Except String (LivePredictionSessionState F))
      (request : ReconcileRequest F),
      (commitReconciledLiveSessionReplacement state replacement request undo).session =
        (commitReconciledLiveSessionReplacement state replacement request none).session := by
    intro replacement request
    cases replacement with
    | error message => rfl
    | ok replacement => rfl
  cases edit with
  | excludeCard cardId => exact cardUnrecorded _ cardId
  | includeCard cardId => exact cardUnrecorded _ cardId
  | removeCard cardId => exact cardUnrecorded _ cardId
  | upsertCandidates seeds =>
      change (upsertCandidates state seeds undo).session = (upsertCandidates state seeds none).session
      unfold upsertCandidates
      split
      · rfl
      · split
        · rfl
        · next values _ =>
            have same := upsert_fold_unrecorded values state undo none
            simp only [same]
  | setRetentionExtra value =>
      change (setRetentionExtra state value undo).session = (setRetentionExtra state value none).session
      unfold setRetentionExtra
      split <;> rfl
  | refresh predict request =>
      change (refreshLiveSession state predict request undo).session =
        (refreshLiveSession state predict request none).session
      unfold refreshLiveSession
      split
      · rfl
      · rfl
      · simp only
        split
        · rfl
        · split
          · rfl
          · split <;> rfl
  | reconcileCandidates seeds predict request => exact replacedUnrecorded _ request
  | reconcileMembership cardIds changedCandidates predict request =>
      exact replacedUnrecorded _ request
  | setMode mode => rfl
  | currentSelection selectLimit excludedCardIds => rfl

end Calls

end RwkvSrs.LiveUndoMarks
