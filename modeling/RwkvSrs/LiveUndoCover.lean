import RwkvSrs.LiveSessionStaging

/-!
What an undo frame knows. A frame covers a session state when the state's
slots, corrected by the saved deltas, are the slots of the state the frame was
captured in. Recording a slot keeps the frame covering; a write to a recorded
slot does too. The cached flags are left out here: they are the one part of a
value that may have been saved under another retention extra.
-/

namespace RwkvSrs.LiveUndoCover

open Std RwkvSrs.LiveTypes RwkvSrs.LiveSessionState RwkvSrs.LiveSessionIndex
open RwkvSrs.LiveSessionRank
open RwkvSrs.LiveSessionSlots RwkvSrs.LiveUndoFrame RwkvSrs.LiveSessionInvariant
open RwkvSrs.LiveSessionOperations RwkvSrs.LiveSessionRefresh SessionFloat

set_option autoImplicit false
set_option linter.unusedSectionVars false

variable {F : Type} [SessionFloat F]

/-- A value without its cached flag. -/
def unflagged (value : LiveCandidateValue F) : LiveCandidateValue F :=
  { value with eligible := false }

theorem unflagged_status {left right : LiveCandidateValue F}
    (same : unflagged left = unflagged right) : left.status = right.status := by
  have field := congrArg LiveCandidateValue.status same
  exact field

theorem unflagged_card {left right : LiveCandidateValue F}
    (same : unflagged left = unflagged right) :
    left.candidate.cardId = right.candidate.cardId := by
  have field := congrArg (fun value : LiveCandidateValue F => value.candidate.cardId) same
  exact field

theorem eq_of_unflagged {left right : LiveCandidateValue F}
    (same : unflagged left = unflagged right) (sameFlag : left.eligible = right.eligible) :
    left = right := by
  have withFlag := congrArg
    (fun value : LiveCandidateValue F => { value with eligible := left.eligible }) same
  have sameRight : ({ unflagged right with eligible := left.eligible } : LiveCandidateValue F) =
      right := by
    rw [sameFlag]
    rfl
  exact withFlag.trans sameRight

theorem eligible_of_unflagged (retentionExtra : F) {left right : LiveCandidateValue F}
    (same : unflagged left = unflagged right) :
    valueEligible retentionExtra left = valueEligible retentionExtra right := by
  have flags := congrArg (valueEligible retentionExtra) same
  exact flags

/-- Two values that differ at most in their flags are equal once both are fresh. -/
theorem eq_of_fresh {retentionExtra : F} {left right : LiveCandidateValue F}
    (same : unflagged left = unflagged right) (leftFresh : FlagFresh retentionExtra left)
    (rightFresh : FlagFresh retentionExtra right) : left = right :=
  eq_of_unflagged same
    (leftFresh.trans ((eligible_of_unflagged retentionExtra same).trans rightFresh.symm))

theorem unflagged_fresh (retentionExtra : F) (value : LiveCandidateValue F) :
    unflagged (freshValue retentionExtra value) = unflagged value := rfl

/-- The saved deltas of a frame against the slots they were saved over. -/
structure DeltasCover (origin : LiveIndex F)
    (full : List (Nat × Option (LiveCandidateValue F)))
    (refresh : List (Nat × LiveRefreshUndoValue F)) (mark : Nat → UndoSlot) (count : Nat)
    (value : Nat → LiveCandidateValue F) : Prop where
  counted : origin.count ≤ count
  cards : ∀ slot, slot < origin.count → (value slot).candidate.cardId = origin.card slot
  distinctFull : (full.map Prod.fst).Nodup
  distinctRefresh : (refresh.map Prod.fst).Nodup
  fullMarked : ∀ slot, slot ∈ full.map Prod.fst ↔ mark slot = .fullDelta
  refreshMarked : ∀ slot, mark slot = .refreshDelta → slot ∈ refresh.map Prod.fst
  refreshListed : ∀ slot, slot ∈ refresh.map Prod.fst → mark slot ≠ .unrecorded
  unrecordedOld : ∀ slot, mark slot = .unrecorded → slot < origin.count →
    unflagged (value slot) = unflagged (origin.value slot)
  unrecordedNew : ∀ slot, mark slot = .unrecorded → origin.count ≤ slot →
    (value slot).status = .removed
  refreshSaved : ∀ slot saved, (slot, saved) ∈ refresh → mark slot = .refreshDelta →
    origin.Live slot ∧ (value slot).status ≠ .removed ∧
      unflagged (saved.restoreFullValue (value slot)) = unflagged (origin.value slot)
  fullSaved : ∀ slot saved, (slot, some saved) ∈ full →
    origin.Live slot ∧ unflagged saved = unflagged (origin.value slot)
  newSaved : ∀ slot, (slot, none) ∈ full → origin.count ≤ slot ∧ slot < count

def FrameCovers (origin : LiveIndex F) (frame : LiveIndexUndoFrame F) (index : LiveIndex F) : Prop :=
  DeltasCover origin frame.candidateDeltas frame.refreshDeltas frame.recordedSlot index.count
    index.value

section Cover

variable {origin index : LiveIndex F} {frame : LiveIndexUndoFrame F}

theorem recorded_ensured (frame : LiveIndexUndoFrame F) (slot : Nat) :
    (frame.ensureRecordedSlot slot).recordedSlot = frame.recordedSlot ∧
      slot < (frame.ensureRecordedSlot slot).recordedSlots.length := by
  unfold LiveIndexUndoFrame.ensureRecordedSlot LiveIndexUndoFrame.recordedSlot
  by_cases short : frame.recordedSlots.length ≤ slot
  · simp only [if_pos short, List.length_append, List.length_replicate]
    refine ⟨?_, by omega⟩
    funext other
    by_cases inside : other < frame.recordedSlots.length
    · rw [List.getD_append _ _ _ _ inside]
    · rw [List.getD_append_right _ _ _ _ (by omega), List.getD_eq_default _ _ (by omega : _ ≤ other),
        List.getD_eq_getElem?_getD, List.getElem?_replicate]
      split <;> rfl
  · rw [if_neg short]
    exact ⟨rfl, by omega⟩

theorem recorded_set {marks : List UndoSlot} {slot : Nat} (inRange : slot < marks.length)
    (mark : UndoSlot) :
    (fun other => (marks.set slot mark).getD other .unrecorded) =
      Function.update (fun other => marks.getD other .unrecorded) slot mark := by
  funext other
  rw [getD_set inRange, Function.update_apply]

theorem covers_ensured (covers : FrameCovers origin frame index) (slot : Nat) :
    FrameCovers origin (frame.ensureRecordedSlot slot) index := by
  have sameFull : (frame.ensureRecordedSlot slot).candidateDeltas = frame.candidateDeltas := by
    unfold LiveIndexUndoFrame.ensureRecordedSlot
    split <;> rfl
  have sameRefresh : (frame.ensureRecordedSlot slot).refreshDeltas = frame.refreshDeltas := by
    unfold LiveIndexUndoFrame.ensureRecordedSlot
    split <;> rfl
  unfold FrameCovers
  rw [sameFull, sameRefresh, (recorded_ensured frame slot).1]
  exact covers

/-- A frame that covers one index covers every index with the same slots. -/
theorem covers_congr {other : LiveIndex F} (covers : FrameCovers origin frame index)
    (sameCount : other.count = index.count) (sameValue : other.value = index.value) :
    FrameCovers origin frame other := by
  unfold FrameCovers
  rw [sameCount, sameValue]
  exact covers

/-- Outside the full deltas the covered slots are live exactly where the captured ones are. -/
theorem covered_live (covers : FrameCovers origin frame index) (originMapped : origin.Mapped)
    {slot : Nat} (outside : slot ∉ frame.candidateDeltas.map Prod.fst) :
    index.Live slot ↔ origin.Live slot := by
  cases marked : frame.recordedSlot slot with
  | unrecorded =>
      by_cases old : slot < origin.count
      · unfold LiveIndex.Live
        rw [unflagged_status (covers.unrecordedOld slot marked old)]
      · constructor
        · intro live
          exact absurd (covers.unrecordedNew slot marked (by omega)) live
        · intro live
          exact absurd (LiveIndex.live_in_range originMapped live) old
  | refreshDelta =>
      obtain ⟨entry, member, rfl⟩ := List.mem_map.mp (covers.refreshMarked slot marked)
      obtain ⟨originLive, live, _⟩ := covers.refreshSaved entry.1 entry.2 member marked
      exact ⟨fun _ => originLive, fun _ => live⟩
  | fullDelta => exact absurd ((covers.fullMarked slot).mpr marked) outside

theorem full_delta_range (covers : FrameCovers origin frame index) (originMapped : origin.Mapped)
    {slot : Nat} (member : slot ∈ frame.candidateDeltas.map Prod.fst) : slot < index.count := by
  obtain ⟨⟨_, saved⟩, entryMember, rfl⟩ := List.mem_map.mp member
  cases saved with
  | some value =>
      have live := (covers.fullSaved _ value entryMember).1
      exact Nat.lt_of_lt_of_le (LiveIndex.live_in_range originMapped live) covers.counted
  | none => exact (covers.newSaved _ entryMember).2

/-- What a full delta may hold for a slot: the captured value of a slot that was
live then, or nothing for a slot that did not exist then. -/
def SavedFor (origin index : LiveIndex F) (slot : Nat) : Option (LiveCandidateValue F) → Prop
  | some value => origin.Live slot ∧ unflagged value = unflagged (origin.value slot)
  | none => origin.count ≤ slot ∧ slot < index.count

private theorem covers_push_full (covers : FrameCovers origin frame index) {slot : Nat}
    (inRange : slot < frame.recordedSlots.length) (notFull : frame.recordedSlot slot ≠ .fullDelta)
    {saved : Option (LiveCandidateValue F)} (sound : SavedFor origin index slot saved) :
    FrameCovers origin (frame.pushCandidateDelta slot saved) index ∧
      (frame.pushCandidateDelta slot saved).recordedSlot slot = .fullDelta := by
  have marks : (frame.pushCandidateDelta slot saved).recordedSlot =
      Function.update frame.recordedSlot slot .fullDelta := recorded_set inRange _
  have absent : slot ∉ frame.candidateDeltas.map Prod.fst := fun member =>
    notFull ((covers.fullMarked slot).mp member)
  have pushed : (frame.pushCandidateDelta slot saved).candidateDeltas =
      frame.candidateDeltas ++ [(slot, saved)] := rfl
  have other_mark : ∀ other mark, mark ≠ .fullDelta →
      Function.update frame.recordedSlot slot .fullDelta other = mark →
        frame.recordedSlot other = mark := by
    intro other mark different marked
    rw [Function.update_apply] at marked
    split at marked
    · exact absurd marked.symm different
    · exact marked
  refine ⟨?_, by rw [marks, Function.update_self]⟩
  unfold FrameCovers
  rw [marks, pushed]
  constructor
  case counted => exact covers.counted
  case cards => exact covers.cards
  case distinctFull =>
    rw [List.map_append, List.map_singleton]
    exact List.Nodup.append covers.distinctFull (List.nodup_singleton _)
      (List.disjoint_singleton.mpr absent)
  case distinctRefresh => exact covers.distinctRefresh
  case fullMarked =>
    intro other
    rw [List.map_append, List.map_singleton, List.mem_append, List.mem_singleton,
      Function.update_apply]
    by_cases sameSlot : other = slot
    · simp [sameSlot]
    · rw [if_neg sameSlot, covers.fullMarked other]
      simp [sameSlot]
  case refreshMarked =>
    intro other marked
    exact covers.refreshMarked other (other_mark other _ (by simp) marked)
  case refreshListed =>
    intro other member
    rw [Function.update_apply]
    split
    · simp
    · exact covers.refreshListed other member
  case unrecordedOld =>
    intro other marked
    exact covers.unrecordedOld other (other_mark other _ (by simp) marked)
  case unrecordedNew =>
    intro other marked
    exact covers.unrecordedNew other (other_mark other _ (by simp) marked)
  case refreshSaved =>
    intro other refresh member marked
    exact covers.refreshSaved other refresh member (other_mark other _ (by simp) marked)
  case fullSaved =>
    intro other value member
    rcases List.mem_append.mp member with old | new
    · exact covers.fullSaved other value old
    · rw [List.mem_singleton] at new
      cases new
      exact sound
  case newSaved =>
    intro other member
    rcases List.mem_append.mp member with old | new
    · exact covers.newSaved other old
    · rw [List.mem_singleton] at new
      cases new
      exact sound

theorem refresh_delta_saved (covers : FrameCovers origin frame index) {slot : Nat}
    (marked : frame.recordedSlot slot = .refreshDelta) :
    ∃ saved, frame.refreshDelta slot = some saved ∧ (slot, saved) ∈ frame.refreshDeltas := by
  obtain ⟨entry, member, rfl⟩ := List.mem_map.mp (covers.refreshMarked slot marked)
  unfold LiveIndexUndoFrame.refreshDelta
  cases found : frame.refreshDeltas.find? fun delta => delta.1 == entry.1 with
  | none =>
      have missing := List.find?_eq_none.mp found entry member
      simp at missing
  | some delta =>
      have sameSlot := List.find?_some found
      rw [beq_iff_eq] at sameSlot
      exact ⟨delta.2, rfl, sameSlot ▸ List.mem_of_find?_eq_some found⟩

/-- Recording a live slot in full. -/
theorem covers_record_slot (covers : FrameCovers origin frame index)
    {state : LivePredictionSessionState F} (current : state.value = index.value)
    (open_ : frame.preReconciliationState = none) {slot : Nat} (live : index.Live slot) :
    FrameCovers origin (frame.recordSlot state slot) index ∧
      (frame.recordSlot state slot).recordedSlot slot = .fullDelta := by
  obtain ⟨sameMarks, inRange⟩ := recorded_ensured frame slot
  have ensured := covers_ensured covers slot
  unfold LiveIndexUndoFrame.recordSlot
  rw [open_]
  simp only [Option.isSome_none, Bool.false_eq_true, if_false]
  cases marked : (frame.ensureRecordedSlot slot).recordedSlot slot with
  | unrecorded =>
      simp only
      refine covers_push_full ensured inRange (by simp [marked]) ?_
      by_cases old : slot < origin.count
      · have same := ensured.unrecordedOld slot marked old
        have originLive : origin.Live slot := by
          unfold LiveIndex.Live
          rw [← unflagged_status same]
          exact live
        refine ⟨originLive, ?_⟩
        rw [current]
        exact same
      · exact absurd (ensured.unrecordedNew slot marked (by omega)) live
  | refreshDelta =>
      obtain ⟨saved, found, member⟩ := refresh_delta_saved ensured marked
      obtain ⟨originLive, _, same⟩ := ensured.refreshSaved slot saved member marked
      simp only [found]
      refine covers_push_full ensured inRange (by simp [marked]) ⟨originLive, ?_⟩
      rw [current]
      exact same
  | fullDelta => exact ⟨ensured, marked⟩

theorem covers_grown (covers : FrameCovers origin frame index) {count : Nat}
    (grown : index.count ≤ count) : FrameCovers origin frame { index with count := count } :=
  { covers with
    counted := Nat.le_trans covers.counted grown
    newSaved := fun slot member =>
      ⟨(covers.newSaved slot member).1, Nat.lt_of_lt_of_le (covers.newSaved slot member).2 grown⟩ }

/-- Recording a slot that is about to be filled for the first time. -/
theorem covers_record_new (covers : FrameCovers origin frame index)
    (originMapped : origin.Mapped) (open_ : frame.preReconciliationState = none) {slot : Nat}
    (beyond : origin.count ≤ slot) (inRange : slot < index.count) :
    FrameCovers origin (frame.recordNewSlot slot) index ∧
      (frame.recordNewSlot slot).recordedSlot slot = .fullDelta := by
  obtain ⟨sameMarks, marksRange⟩ := recorded_ensured frame slot
  have ensured := covers_ensured covers slot
  unfold LiveIndexUndoFrame.recordNewSlot
  rw [open_]
  simp only [Option.isSome_none, Bool.false_eq_true, if_false]
  cases marked : (frame.ensureRecordedSlot slot).recordedSlot slot with
  | unrecorded =>
      rw [if_pos rfl]
      exact covers_push_full ensured marksRange (by simp [marked]) ⟨beyond, inRange⟩
  | refreshDelta =>
      obtain ⟨saved, _, member⟩ := refresh_delta_saved ensured marked
      have originLive := (ensured.refreshSaved slot saved member marked).1
      exact absurd (LiveIndex.live_in_range originMapped originLive) (by omega)
  | fullDelta => exact ⟨ensured, marked⟩

/-- Recording the refreshed part of a live slot. -/
theorem covers_record_refresh (covers : FrameCovers origin frame index)
    {state : LivePredictionSessionState F} (current : state.value = index.value)
    (open_ : frame.preReconciliationState = none) {slot : Nat} (live : index.Live slot) :
    FrameCovers origin (frame.recordRefreshSlot state slot) index ∧
      (frame.recordRefreshSlot state slot).recordedSlot slot ≠ .unrecorded ∧
      ∀ other, frame.recordedSlot other ≠ .unrecorded →
        (frame.recordRefreshSlot state slot).recordedSlot other ≠ .unrecorded := by
  obtain ⟨sameMarks, inRange⟩ := recorded_ensured frame slot
  have ensured := covers_ensured covers slot
  unfold LiveIndexUndoFrame.recordRefreshSlot
  rw [open_]
  simp only [Option.isSome_none, Bool.false_eq_true, if_false]
  by_cases marked : (frame.ensureRecordedSlot slot).recordedSlot slot = .unrecorded
  · rw [if_pos marked]
    set saved := state.refreshUndoValue slot with savedDef
    set next : LiveIndexUndoFrame F := { frame.ensureRecordedSlot slot with
      refreshDeltas := (frame.ensureRecordedSlot slot).refreshDeltas ++ [(slot, saved)]
      recordedSlots := (frame.ensureRecordedSlot slot).recordedSlots.set slot .refreshDelta }
      with nextDef
    have marks : next.recordedSlot = Function.update frame.recordedSlot slot .refreshDelta := by
      rw [← sameMarks]
      exact recorded_set inRange _
    have old : slot < origin.count := by
      by_contra beyond
      exact live (ensured.unrecordedNew slot marked (by omega))
    have sameOrigin := ensured.unrecordedOld slot marked old
    have originLive : origin.Live slot := by
      unfold LiveIndex.Live
      rw [← unflagged_status sameOrigin]
      exact live
    have savedValue : saved.restoreFullValue (index.value slot) = index.value slot := by
      rw [savedDef, ← current]
      rfl
    rw [sameMarks] at marked
    have absent : slot ∉ frame.refreshDeltas.map Prod.fst := fun member =>
      covers.refreshListed slot member marked
    have sameFull : next.candidateDeltas = frame.candidateDeltas := by
      rw [nextDef]
      unfold LiveIndexUndoFrame.ensureRecordedSlot
      split <;> rfl
    have sameRefresh : next.refreshDeltas = frame.refreshDeltas ++ [(slot, saved)] := by
      rw [nextDef]
      unfold LiveIndexUndoFrame.ensureRecordedSlot
      split <;> rfl
    refine ⟨?_, by rw [marks, Function.update_self]; simp, ?_⟩
    · unfold FrameCovers
      rw [sameFull, sameRefresh, marks]
      constructor
      case counted => exact covers.counted
      case cards => exact covers.cards
      case distinctFull => exact covers.distinctFull
      case distinctRefresh =>
        rw [List.map_append, List.map_singleton]
        exact List.Nodup.append covers.distinctRefresh (List.nodup_singleton _)
          (List.disjoint_singleton.mpr absent)
      case fullMarked =>
        intro other
        rw [Function.update_apply, covers.fullMarked other]
        by_cases sameSlot : other = slot
        · simp [sameSlot, marked]
        · rw [if_neg sameSlot]
      case refreshMarked =>
        intro other otherMarked
        rw [List.map_append, List.mem_append, List.map_singleton, List.mem_singleton]
        rw [Function.update_apply] at otherMarked
        split at otherMarked
        · next sameSlot => exact Or.inr sameSlot
        · exact Or.inl (covers.refreshMarked other otherMarked)
      case refreshListed =>
        intro other member
        rw [Function.update_apply]
        split
        · simp
        · next different =>
            rw [List.map_append, List.mem_append, List.map_singleton, List.mem_singleton] at member
            exact covers.refreshListed other (member.resolve_right different)
      case unrecordedOld =>
        intro other otherMarked
        rw [Function.update_apply] at otherMarked
        split at otherMarked
        · cases otherMarked
        · exact covers.unrecordedOld other otherMarked
      case unrecordedNew =>
        intro other otherMarked
        rw [Function.update_apply] at otherMarked
        split at otherMarked
        · cases otherMarked
        · exact covers.unrecordedNew other otherMarked
      case refreshSaved =>
        intro other refresh member otherMarked
        rcases List.mem_append.mp member with older | new
        · have different : other ≠ slot := fun sameSlot =>
            absent (sameSlot ▸ List.mem_map_of_mem older)
          rw [Function.update_of_ne different] at otherMarked
          exact covers.refreshSaved other refresh older otherMarked
        · rw [List.mem_singleton] at new
          cases new
          rw [savedValue]
          exact ⟨originLive, live, sameOrigin⟩
      case fullSaved => exact covers.fullSaved
      case newSaved => exact covers.newSaved
    · intro other recorded
      rw [marks, Function.update_apply]
      split
      · simp
      · exact recorded
  · rw [if_neg marked]
    refine ⟨ensured, marked, ?_⟩
    intro other recorded
    rw [sameMarks]
    exact recorded

/-- A fully recorded slot may be written or appended. -/
theorem covers_write_full (covers : FrameCovers origin frame index) {slot : Nat}
    (marked : frame.recordedSlot slot = .fullDelta) {other : LiveIndex F}
    {value : LiveCandidateValue F} (grown : index.count ≤ other.count)
    (written : other.value = Function.update index.value slot value)
    (sameCard : slot < origin.count → value.candidate.cardId = index.card slot) :
    FrameCovers origin frame other := by
  have elsewhere : ∀ mark, mark ≠ .fullDelta → ∀ position, frame.recordedSlot position = mark →
      other.value position = index.value position := by
    intro mark different position positionMarked
    rw [written]
    apply Function.update_of_ne
    intro samePosition
    rw [samePosition, marked] at positionMarked
    exact different positionMarked.symm
  constructor
  case counted => exact Nat.le_trans covers.counted grown
  case cards =>
    intro position old
    rw [written]
    by_cases samePosition : position = slot
    · subst samePosition
      rw [Function.update_self, sameCard old]
      exact covers.cards position old
    · rw [Function.update_of_ne samePosition]
      exact covers.cards position old
  case distinctFull => exact covers.distinctFull
  case distinctRefresh => exact covers.distinctRefresh
  case fullMarked => exact covers.fullMarked
  case refreshMarked => exact covers.refreshMarked
  case refreshListed => exact covers.refreshListed
  case unrecordedOld =>
    intro position positionMarked old
    rw [elsewhere _ (by simp) position positionMarked]
    exact covers.unrecordedOld position positionMarked old
  case unrecordedNew =>
    intro position positionMarked beyond
    rw [elsewhere _ (by simp) position positionMarked]
    exact covers.unrecordedNew position positionMarked beyond
  case refreshSaved =>
    intro position saved member positionMarked
    rw [elsewhere _ (by simp) position positionMarked]
    exact covers.refreshSaved position saved member positionMarked
  case fullSaved => exact covers.fullSaved
  case newSaved =>
    intro position member
    exact ⟨(covers.newSaved position member).1,
      Nat.lt_of_lt_of_le (covers.newSaved position member).2 grown⟩

/-- A write that only touches what a refresh delta restores. -/
def RefreshWrite (before after : LiveCandidateValue F) : Prop :=
  after.status ≠ .removed ∧ after.candidate.cardId = before.candidate.cardId ∧
    ∀ saved : LiveRefreshUndoValue F, saved.restoreFullValue after = saved.restoreFullValue before

/-- Any set of recorded slots may be refreshed. -/
theorem covers_refresh (covers : FrameCovers origin frame index) {other : LiveIndex F}
    (sameCount : other.count = index.count)
    (refreshed : ∀ slot, other.value slot = index.value slot ∨
      (frame.recordedSlot slot ≠ .unrecorded ∧
        RefreshWrite (index.value slot) (other.value slot))) :
    FrameCovers origin frame other := by
  constructor
  case counted => exact Nat.le_trans covers.counted (Nat.le_of_eq sameCount.symm)
  case cards =>
    intro slot old
    rcases refreshed slot with same | ⟨_, _, sameCard, _⟩
    · rw [same]
      exact covers.cards slot old
    · rw [sameCard]
      exact covers.cards slot old
  case distinctFull => exact covers.distinctFull
  case distinctRefresh => exact covers.distinctRefresh
  case fullMarked => exact covers.fullMarked
  case refreshMarked => exact covers.refreshMarked
  case refreshListed => exact covers.refreshListed
  case unrecordedOld =>
    intro slot marked old
    rcases refreshed slot with same | ⟨recorded, _⟩
    · rw [same]
      exact covers.unrecordedOld slot marked old
    · exact absurd marked recorded
  case unrecordedNew =>
    intro slot marked beyond
    rcases refreshed slot with same | ⟨recorded, _⟩
    · rw [same]
      exact covers.unrecordedNew slot marked beyond
    · exact absurd marked recorded
  case refreshSaved =>
    intro slot saved member marked
    obtain ⟨originLive, live, sameValue⟩ := covers.refreshSaved slot saved member marked
    rcases refreshed slot with same | ⟨_, kept, _, sameRestored⟩
    · rw [same]
      exact ⟨originLive, live, sameValue⟩
    · rw [sameRestored saved]
      exact ⟨originLive, kept, sameValue⟩
  case fullSaved => exact covers.fullSaved
  case newSaved =>
    intro slot member
    rw [sameCount]
    exact covers.newSaved slot member

/-- Flags never matter to the frame. -/
theorem covers_reflagged (covers : FrameCovers origin frame index) :
    FrameCovers origin frame index.reflagged where
  counted := covers.counted
  cards := covers.cards
  distinctFull := covers.distinctFull
  distinctRefresh := covers.distinctRefresh
  fullMarked := covers.fullMarked
  refreshMarked := covers.refreshMarked
  refreshListed := covers.refreshListed
  unrecordedOld := covers.unrecordedOld
  unrecordedNew := covers.unrecordedNew
  refreshSaved := covers.refreshSaved
  fullSaved := covers.fullSaved
  newSaved := covers.newSaved

end Cover

end RwkvSrs.LiveUndoCover
