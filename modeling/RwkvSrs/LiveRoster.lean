import RwkvSrs.LiveIndexRuns

/-!
The roster of a live session: the candidates and the map from cards to slots.
Whatever flags and ranks a run leaves behind, a mapped card finds a candidate of
its own with both last-review anchors or none, and the frames of the undo stack
save only such candidates in slots that exist.
-/

namespace RwkvSrs.LiveRoster

open Std RwkvSrs.LiveTypes RwkvSrs.LiveSessionState RwkvSrs.LiveSessionSelection
open RwkvSrs.LiveSessionOperations RwkvSrs.LiveUndoFrame RwkvSrs.LiveUndoEdits
open RwkvSrs.LiveUndoRuns RwkvSrs.LiveIndexRuns RwkvSrs.ResultSteps SessionFloat

set_option autoImplicit false
set_option linter.unusedSectionVars false

variable {F : Type} [SessionFloat F]

/-- What `from_seed` asks of a seed. -/
structure SeedAccepted (seed : LiveCandidateSeed F) (targetTimestampSeconds targetDayOffset : F) :
    Prop where
  days : isFinite seed.row.elapsedDays = true
  seconds : isFinite seed.row.elapsedSeconds = true
  sentinel : eq seed.row.elapsedDays negOne = eq seed.row.elapsedSeconds negOne
  ordered : eq seed.row.elapsedDays negOne = false →
    lt seed.row.elapsedDays zero = false ∧ lt seed.row.elapsedSeconds zero = false
  anchors : eq seed.row.elapsedDays negOne = false →
    isFinite (sub targetTimestampSeconds seed.row.elapsedSeconds) = true ∧
      isFinite (sub targetDayOffset seed.row.elapsedDays) = true

def seedCandidate (seed : LiveCandidateSeed F) (targetTimestampSeconds targetDayOffset : F) :
    LiveCandidate F where
  reviewId := seed.row.reviewId
  cardId := seed.row.cardId
  noteId := seed.row.noteId
  deckId := seed.row.deckId
  presetId := seed.row.presetId
  hasPriorReview := !eq seed.row.elapsedDays negOne
  newElapsedDays := seed.row.elapsedDays
  newElapsedSeconds := seed.row.elapsedSeconds
  lastReviewTimestampSeconds :=
    if eq seed.row.elapsedDays negOne then none
    else some (sub targetTimestampSeconds seed.row.elapsedSeconds)
  lastReviewDayOffset :=
    if eq seed.row.elapsedDays negOne then none
    else some (sub targetDayOffset seed.row.elapsedDays)
  queryTimestampSeconds := targetTimestampSeconds
  queryDayOffset := targetDayOffset
  queriedElapsedDays := seed.row.elapsedDays
  queriedElapsedSeconds := seed.row.elapsedSeconds

theorem from_seed_ok {seed : LiveCandidateSeed F} {targetTimestampSeconds targetDayOffset : F}
    {candidate : LiveCandidate F} :
    LiveCandidate.fromSeed seed targetTimestampSeconds targetDayOffset = .ok candidate ↔
      SeedAccepted seed targetTimestampSeconds targetDayOffset ∧
        candidate = seedCandidate seed targetTimestampSeconds targetDayOffset := by
  unfold LiveCandidate.fromSeed
  simp only [bind, Except.bind, throw, throwThe, MonadExceptOf.throw, pure, Except.pure]
  constructor
  · intro built
    by_cases finite : (!isFinite seed.row.elapsedDays || !isFinite seed.row.elapsedSeconds) = true
    · rw [if_pos finite] at built
      cases built
    rw [if_neg finite] at built
    by_cases sentinel :
        (eq seed.row.elapsedDays negOne != eq seed.row.elapsedSeconds negOne) = true
    · rw [if_pos sentinel] at built
      cases built
    rw [if_neg sentinel] at built
    by_cases ordered : (!eq seed.row.elapsedDays negOne &&
        (lt seed.row.elapsedDays zero || lt seed.row.elapsedSeconds zero)) = true
    · rw [if_pos ordered] at built
      cases built
    rw [if_neg ordered] at built
    by_cases anchors : (!eq seed.row.elapsedDays negOne &&
        (!isFinite (sub targetTimestampSeconds seed.row.elapsedSeconds) ||
          !isFinite (sub targetDayOffset seed.row.elapsedDays))) = true
    · rw [if_pos anchors] at built
      cases built
    rw [if_neg anchors] at built
    cases built
    refine ⟨?_, rfl⟩
    simp only [Bool.or_eq_true, Bool.not_eq_true', not_or, Bool.not_eq_false, bne_iff_ne, ne_eq,
      not_not, Bool.and_eq_true, not_and] at finite sentinel ordered anchors
    constructor
    · exact finite.1
    · exact finite.2
    · exact sentinel
    · intro reviewed
      have both := ordered reviewed
      simpa using both
    · exact anchors
  · rintro ⟨accepted, rfl⟩
    have finite : ¬(!isFinite seed.row.elapsedDays || !isFinite seed.row.elapsedSeconds) = true := by
      simp [accepted.days, accepted.seconds]
    have sentinel :
        ¬(eq seed.row.elapsedDays negOne != eq seed.row.elapsedSeconds negOne) = true := by
      simp [accepted.sentinel]
    have ordered : ¬(!eq seed.row.elapsedDays negOne &&
        (lt seed.row.elapsedDays zero || lt seed.row.elapsedSeconds zero)) = true := by
      cases isNew : eq seed.row.elapsedDays negOne with
      | true => simp
      | false => simp [accepted.ordered isNew]
    have anchors : ¬(!eq seed.row.elapsedDays negOne &&
        (!isFinite (sub targetTimestampSeconds seed.row.elapsedSeconds) ||
          !isFinite (sub targetDayOffset seed.row.elapsedDays))) = true := by
      cases isNew : eq seed.row.elapsedDays negOne with
      | true => simp
      | false => simp [accepted.anchors isNew]
    rw [if_neg finite, if_neg sentinel, if_neg ordered, if_neg anchors]
    rfl

/-- A reviewed candidate has both anchors, a new one the sentinel and no anchor. -/
structure Anchored (candidate : LiveCandidate F) : Prop where
  reviewed : candidate.hasPriorReview = true → ∃ timestamp dayOffset,
    candidate.lastReviewTimestampSeconds = some timestamp ∧
      candidate.lastReviewDayOffset = some dayOffset ∧
      isFinite timestamp = true ∧ isFinite dayOffset = true
  new : candidate.hasPriorReview = false →
    candidate.lastReviewTimestampSeconds = none ∧ candidate.lastReviewDayOffset = none ∧
      eq candidate.newElapsedDays negOne = true ∧ eq candidate.newElapsedSeconds negOne = true

theorem seed_anchored {seed : LiveCandidateSeed F} {targetTimestampSeconds targetDayOffset : F}
    (accepted : SeedAccepted seed targetTimestampSeconds targetDayOffset) :
    Anchored (seedCandidate seed targetTimestampSeconds targetDayOffset) := by
  constructor
  · intro reviewed
    have isNew : eq seed.row.elapsedDays negOne = false := by
      simpa [seedCandidate] using reviewed
    obtain ⟨timestamp, dayOffset⟩ := accepted.anchors isNew
    refine ⟨sub targetTimestampSeconds seed.row.elapsedSeconds,
      sub targetDayOffset seed.row.elapsedDays, ?_, ?_, timestamp, dayOffset⟩
    · simp [seedCandidate, isNew]
    · simp [seedCandidate, isNew]
  · intro new
    have isNew : eq seed.row.elapsedDays negOne = true := by
      simpa [seedCandidate] using new
    refine ⟨by simp [seedCandidate, isNew], by simp [seedCandidate, isNew], isNew, ?_⟩
    exact accepted.sentinel.symm.trans isNew

/-- Anchors do not depend on the queried time. -/
theorem anchored_requeried {candidate : LiveCandidate F} (anchored : Anchored candidate)
    (timestamp day elapsedDays elapsedSeconds : F) :
    Anchored { candidate with
      queryTimestampSeconds := timestamp
      queryDayOffset := day
      queriedElapsedDays := elapsedDays
      queriedElapsedSeconds := elapsedSeconds } :=
  ⟨anchored.reviewed, anchored.new⟩

structure Roster (F : Type) where
  candidates : List (LiveCandidate F)
  slotByCardId : ExtTreeMap Int64 Nat
  batchSize : Nat
  refreshLimit : Nat

def rosterOf (state : LivePredictionSessionState F) : Roster F where
  candidates := state.candidates
  slotByCardId := state.slotByCardId
  batchSize := state.batchSize
  refreshLimit := state.refreshLimit

/-- Every mapped card finds its own candidate, with its anchors. -/
def Members (candidates : List (LiveCandidate F)) (slotByCardId : ExtTreeMap Int64 Nat) : Prop :=
  ∀ (cardId : Int64) (slot : Nat), slotByCardId[cardId]? = some slot → ∃ candidate,
    candidates[slot]? = some candidate ∧ candidate.cardId = cardId ∧ Anchored candidate

structure Kept (roster : Roster F) : Prop where
  members : Members roster.candidates roster.slotByCardId
  batch : roster.batchSize ≠ 0
  refresh : roster.refreshLimit ≠ 0

section Members

variable {candidates : List (LiveCandidate F)} {slotByCardId : ExtTreeMap Int64 Nat}

theorem members_erased (members : Members candidates slotByCardId) (cardId : Int64) :
    Members candidates (slotByCardId.erase cardId) := by
  intro other slot found
  rw [ExtTreeMap.getElem?_erase] at found
  split at found
  · cases found
  · exact members other slot found

theorem members_appended (members : Members candidates slotByCardId)
    {candidate : LiveCandidate F} (anchored : Anchored candidate) :
    Members (candidates ++ [candidate])
      (slotByCardId.insert candidate.cardId candidates.length) := by
  intro cardId slot found
  rw [ExtTreeMap.getElem?_insert] at found
  split at found
  · rename_i same
    cases found
    refine ⟨candidate, ?_, Std.compare_eq_iff_eq.mp same, anchored⟩
    rw [List.getElem?_append_right (Nat.le_refl _), Nat.sub_self]
    rfl
  · obtain ⟨old, read, here, kept⟩ := members cardId slot found
    have inside : slot < candidates.length := (List.getElem?_eq_some_iff.mp read).1
    exact ⟨old, by rw [List.getElem?_append_left inside, read], here, kept⟩

/-- A candidate is written again under its own card. -/
theorem members_rewritten (members : Members candidates slotByCardId) {slot : Nat}
    {old candidate : LiveCandidate F} (read : candidates[slot]? = some old)
    (sameCard : candidate.cardId = old.cardId) (anchored : Anchored old → Anchored candidate) :
    Members (candidates.set slot candidate) slotByCardId := by
  intro cardId other found
  obtain ⟨present, readPresent, here, kept⟩ := members cardId other found
  have inside : other < candidates.length := (List.getElem?_eq_some_iff.mp readPresent).1
  rw [List.getElem?_set]
  split
  · rename_i same
    subst same
    rw [read] at readPresent
    cases readPresent
    exact ⟨candidate, by rw [if_pos inside], sameCard.trans here, anchored kept⟩
  · exact ⟨present, readPresent, here, kept⟩

/-- A slot is given to another candidate, and its old card is no longer mapped. -/
theorem members_replaced (members : Members candidates slotByCardId) {slot : Nat}
    {old candidate : LiveCandidate F} (read : candidates[slot]? = some old)
    (anchored : Anchored candidate) (mapped : Bool) :
    Members (candidates.set slot candidate)
      (if mapped then (slotByCardId.erase old.cardId).insert candidate.cardId slot
      else slotByCardId.erase old.cardId) := by
  have inside : slot < candidates.length := (List.getElem?_eq_some_iff.mp read).1
  have unmapped : Members (candidates.set slot candidate) (slotByCardId.erase old.cardId) := by
    intro cardId other found
    rw [ExtTreeMap.getElem?_erase] at found
    split at found
    · cases found
    · rename_i apart
      obtain ⟨present, readPresent, here, kept⟩ := members cardId other found
      have elsewhere : other ≠ slot := by
        intro same
        subst same
        rw [read] at readPresent
        cases readPresent
        rw [here] at apart
        exact apart compare_self
      exact ⟨present, by rw [List.getElem?_set_ne (Ne.symm elsewhere), readPresent], here, kept⟩
  cases mapped with
  | false => exact unmapped
  | true =>
      intro cardId other found
      rw [if_pos rfl, ExtTreeMap.getElem?_insert] at found
      split at found
      · rename_i same
        cases found
        refine ⟨candidate, ?_, Std.compare_eq_iff_eq.mp same, anchored⟩
        rw [List.getElem?_set_self inside]
      · exact unmapped cardId other found

end Members

section Unchanged

variable (state : LivePredictionSessionState F)

theorem roster_recompute : rosterOf state.recomputeAllEligibilities = rosterOf state := by
  obtain ⟨eligibilities, shape⟩ := LiveSessionSlots.recompute_shape state
  rw [shape]
  rfl

theorem roster_advance_mark : rosterOf state.advanceUpdateMark = rosterOf state := by
  unfold LivePredictionSessionState.advanceUpdateMark
  dsimp only
  split
  · rfl
  · rfl

theorem roster_update_order (updatedSlots : List Nat) (forceRebuild : Bool) :
    rosterOf (state.updateOrderAfterRefresh updatedSlots forceRebuild) = rosterOf state := by
  unfold LivePredictionSessionState.updateOrderAfterRefresh
  split
  · rfl
  · exact roster_advance_mark state

theorem roster_select_pass (wanted : LivePredictionSessionState F → Nat → Bool)
    (slots : List Nat) : rosterOf (selectPass wanted slots state) = rosterOf state := by
  unfold selectPass
  induction slots generalizing state with
  | nil => rfl
  | cons slot slots ih =>
      rw [List.foldl_cons, ih]
      split
      · rfl
      · split
        · rfl
        · rfl

theorem roster_select_by (isExcluded : Nat → Bool) :
    rosterOf (selectRefreshMembershipBy isExcluded state) = rosterOf state := by
  unfold selectRefreshMembershipBy
  apply (roster_select_pass _ _ _).trans
  apply (roster_select_pass _ _ _).trans
  exact roster_advance_mark _

theorem roster_select_membership (excludedCardIds : List Int64) :
    rosterOf (selectRefreshMembership state excludedCardIds) = rosterOf state := by
  unfold selectRefreshMembership
  split
  · exact roster_select_by state _
  · exact roster_select_by state _

theorem roster_select_final (selectLimit : Nat) (excludedCardIds : List Int64) :
    rosterOf (selectFinal state selectLimit excludedCardIds).1 = rosterOf state := by
  unfold selectFinal
  split
  · rfl
  · exact roster_advance_mark state

end Unchanged

/-- The number of slots the deltas of a frame refer to. -/
def baseCount (count : Nat) (frame : LiveIndexUndoFrame F) : Nat :=
  match frame.preReconciliationState with
  | some previous => previous.candidates.length
  | none => count

structure FrameKept (count : Nat) (frame : LiveIndexUndoFrame F) : Prop where
  deltas : ∀ delta ∈ frame.candidateDeltas, delta.1 < baseCount count frame ∧
    ∀ value ∈ delta.2, Anchored value.candidate
  previous : ∀ previous ∈ frame.preReconciliationState,
    Members previous.candidates previous.slotByCardId

/-- Each frame below refers to the slots that undoing the frame above leaves. -/
def StackKept : Nat → List (LiveIndexUndoFrame F) → Prop
  | _, [] => True
  | count, frame :: rest => FrameKept count frame ∧ StackKept (baseCount count frame) rest

theorem base_count_grows {count more : Nat} (grows : count ≤ more)
    (frame : LiveIndexUndoFrame F) : baseCount count frame ≤ baseCount more frame := by
  unfold baseCount
  split
  · exact Nat.le_refl _
  · exact grows

theorem frame_grows {count more : Nat} (grows : count ≤ more) {frame : LiveIndexUndoFrame F}
    (kept : FrameKept count frame) : FrameKept more frame := by
  refine ⟨?_, kept.previous⟩
  intro delta member
  obtain ⟨inside, anchored⟩ := kept.deltas delta member
  exact ⟨Nat.lt_of_lt_of_le inside (base_count_grows grows frame), anchored⟩

theorem stack_grows {count more : Nat} (grows : count ≤ more)
    {stack : List (LiveIndexUndoFrame F)} (kept : StackKept count stack) :
    StackKept more stack := by
  induction stack generalizing count more with
  | nil => trivial
  | cons frame rest ih => exact ⟨frame_grows grows kept.1, ih (base_count_grows grows frame) kept.2⟩

/-- A frame is extended without a replacement: only slots of the session are saved. -/
structure FrameExtended (count : Nat) (before after : LiveIndexUndoFrame F) : Prop where
  previous : after.preReconciliationState = before.preReconciliationState
  deltas : ∀ delta ∈ after.candidateDeltas, delta ∈ before.candidateDeltas ∨
    (before.preReconciliationState = none ∧ delta.1 < count ∧
      ∀ value ∈ delta.2, Anchored value.candidate)

theorem extended_refl (count : Nat) (frame : LiveIndexUndoFrame F) :
    FrameExtended count frame frame :=
  ⟨rfl, fun _ member => .inl member⟩

theorem extended_trans {count more : Nat} (grows : count ≤ more)
    {first second third : LiveIndexUndoFrame F} (left : FrameExtended count first second)
    (right : FrameExtended more second third) : FrameExtended more first third := by
  refine ⟨right.previous.trans left.previous, ?_⟩
  intro delta member
  rcases right.deltas delta member with old | ⟨unsaved, inside, anchored⟩
  · rcases left.deltas delta old with older | ⟨unsaved, inside, anchored⟩
    · exact .inl older
    · exact .inr ⟨unsaved, Nat.lt_of_lt_of_le inside grows, anchored⟩
  · exact .inr ⟨left.previous ▸ unsaved, inside, anchored⟩

theorem extended_kept {count more : Nat} (grows : count ≤ more)
    {before after : LiveIndexUndoFrame F} (kept : FrameKept count before)
    (extended : FrameExtended more before after) :
    FrameKept more after ∧ baseCount count before ≤ baseCount more after := by
  have base : baseCount more after = baseCount more before := by
    unfold baseCount
    rw [extended.previous]
  rw [base]
  refine ⟨⟨?_, ?_⟩, base_count_grows grows before⟩
  · intro delta member
    rw [base]
    rcases extended.deltas delta member with old | ⟨unsaved, inside, anchored⟩
    · exact (frame_grows grows kept).deltas delta old
    · refine ⟨?_, anchored⟩
      unfold baseCount
      rw [unsaved]
      exact inside
  · rw [extended.previous]
    exact kept.previous

section Record

variable (frame : LiveIndexUndoFrame F)

theorem ensured_parts (slot : Nat) :
    (frame.ensureRecordedSlot slot).preReconciliationState = frame.preReconciliationState ∧
      (frame.ensureRecordedSlot slot).candidateDeltas = frame.candidateDeltas := by
  unfold LiveIndexUndoFrame.ensureRecordedSlot
  split
  · exact ⟨rfl, rfl⟩
  · exact ⟨rfl, rfl⟩

theorem extended_push {count slot : Nat} {saved : Option (LiveCandidateValue F)}
    (unsaved : frame.preReconciliationState = none) (inside : slot < count)
    (anchored : ∀ value ∈ saved, Anchored value.candidate) :
    FrameExtended count frame
      ((frame.ensureRecordedSlot slot).pushCandidateDelta slot saved) := by
  obtain ⟨previous, deltas⟩ := ensured_parts frame slot
  refine ⟨previous, ?_⟩
  intro delta member
  change delta ∈ (frame.ensureRecordedSlot slot).candidateDeltas ++ [(slot, saved)] at member
  rw [deltas] at member
  rcases List.mem_append.mp member with old | new
  · exact .inl old
  · rw [List.mem_singleton.mp new]
    exact .inr ⟨unsaved, inside, anchored⟩

theorem extended_ensured (count slot : Nat) :
    FrameExtended count frame (frame.ensureRecordedSlot slot) := by
  obtain ⟨previous, deltas⟩ := ensured_parts frame slot
  refine ⟨previous, ?_⟩
  intro delta member
  rw [deltas] at member
  exact .inl member

theorem extended_record_slot {state : LivePredictionSessionState F} {count slot : Nat}
    (inside : slot < count) (anchored : Anchored (state.candidateAt slot)) :
    FrameExtended count frame (frame.recordSlot state slot) := by
  unfold LiveIndexUndoFrame.recordSlot
  split
  · exact extended_refl count frame
  · rename_i open_
    have unsaved : frame.preReconciliationState = none := by simpa using open_
    dsimp only
    split
    · apply extended_push frame unsaved inside
      intro value member
      cases member
      exact anchored
    · split
      · apply extended_push frame unsaved inside
        intro value member
        cases member
        exact anchored_requeried anchored _ _ _ _
      · exact extended_ensured frame count slot
    · exact extended_ensured frame count slot

theorem extended_record_new {count slot : Nat} (inside : slot < count) :
    FrameExtended count frame (frame.recordNewSlot slot) := by
  unfold LiveIndexUndoFrame.recordNewSlot
  split
  · exact extended_refl count frame
  · rename_i open_
    have unsaved : frame.preReconciliationState = none := by simpa using open_
    dsimp only
    split
    · apply extended_push frame unsaved inside
      intro value member
      cases member
    · exact extended_ensured frame count slot

theorem extended_record_refresh (state : LivePredictionSessionState F) (count slot : Nat) :
    FrameExtended count frame (frame.recordRefreshSlot state slot) := by
  unfold LiveIndexUndoFrame.recordRefreshSlot
  split
  · exact extended_refl count frame
  · dsimp only
    split
    · obtain ⟨previous, deltas⟩ := ensured_parts frame slot
      refine ⟨previous, ?_⟩
      intro delta member
      rw [deltas] at member
      exact .inl member
    · exact extended_ensured frame count slot

theorem extended_record_refreshes (state : LivePredictionSessionState F) (count : Nat)
    (slots : List Nat) :
    FrameExtended count frame
      (slots.foldl (fun frame slot => frame.recordRefreshSlot state slot) frame) := by
  induction slots generalizing frame with
  | nil => exact extended_refl count frame
  | cons slot slots ih =>
      rw [List.foldl_cons]
      apply extended_trans (Nat.le_refl count) _ (ih _)
      exact extended_record_refresh frame state count slot

end Record

end RwkvSrs.LiveRoster
