import RwkvSrs.LiveSessionStaging

/-!
What a session reads of its candidates. The elapsed times a candidate was made
from are read only while it has no review; erasing them from the reviewed
candidates commutes with predicting, ranking and selecting.
-/

namespace RwkvSrs.ReadableSession

open Std RwkvSrs.LiveTypes RwkvSrs.LiveSessionState RwkvSrs.LiveSessionSelection
open RwkvSrs.LiveSessionOperations RwkvSrs.LiveSessionStaging RwkvSrs.LiveUndoFrame SessionFloat

set_option autoImplicit false
set_option linter.unusedSectionVars false

variable {F : Type} [SessionFloat F]

def readable (candidate : LiveCandidate F) : LiveCandidate F :=
  if candidate.hasPriorReview then
    { candidate with newElapsedDays := nan, newElapsedSeconds := nan }
  else candidate

section Candidate

variable (candidate : LiveCandidate F)

@[simp] theorem readable_card : (readable candidate).cardId = candidate.cardId := by
  unfold readable
  split
  · rfl
  · rfl

@[simp] theorem readable_queried :
    (readable candidate).queriedElapsedDays = candidate.queriedElapsedDays := by
  unfold readable
  split
  · rfl
  · rfl

@[simp] theorem readable_initial :
    (readable candidate).initialPredictionInput = candidate.initialPredictionInput := by
  unfold readable
  split
  · rfl
  · rfl

end Candidate

def readableState (state : LivePredictionSessionState F) : LivePredictionSessionState F :=
  { state with candidates := state.candidates.map readable }

section State

variable (state : LivePredictionSessionState F)

@[simp] theorem readable_state_count :
    (readableState state).candidateCount = state.candidateCount :=
  List.length_map _

theorem readable_state_candidate (slot : Nat) :
    (readableState state).candidateAt slot = readable (state.candidateAt slot) := by
  have blank : readable (blankCandidate : LiveCandidate F) = blankCandidate := rfl
  unfold LivePredictionSessionState.candidateAt readableState
  rw [← blank, List.getD_map, blank]

@[simp] theorem readable_state_target (slot : Nat) :
    (readableState state).applicableTarget slot = state.applicableTarget slot := by
  unfold LivePredictionSessionState.applicableTarget
  rw [readable_state_candidate, readable_queried]
  rfl

@[simp] theorem readable_state_eligibility (slot : Nat) :
    (readableState state).calculateEligibility slot = state.calculateEligibility slot := by
  unfold LivePredictionSessionState.calculateEligibility
  rw [readable_state_target]
  rfl

/-- One turn of the eligibility sweep. -/
def recomputeSlot (current : LivePredictionSessionState F) (slot : Nat) :
    LivePredictionSessionState F :=
  { current with
    eligibilities := current.eligibilities.set slot (current.calculateEligibility slot) }

theorem readable_recompute_slot (slot : Nat) :
    recomputeSlot (readableState state) slot = readableState (recomputeSlot state slot) := by
  unfold recomputeSlot
  rw [readable_state_eligibility]
  rfl

theorem readable_recompute :
    (readableState state).recomputeAllEligibilities =
      readableState state.recomputeAllEligibilities := by
  have sweep : ∀ slots : List Nat,
      slots.foldl recomputeSlot (readableState state) =
        readableState (slots.foldl recomputeSlot state) := by
    intro slots
    induction slots generalizing state with
    | nil => rfl
    | cons slot slots ih =>
        rw [List.foldl_cons, List.foldl_cons, ← ih, readable_recompute_slot]
  unfold LivePredictionSessionState.recomputeAllEligibilities
  rw [readable_state_count]
  exact sweep (List.range state.candidateCount)

@[simp] theorem readable_state_rank (slot : Nat) :
    (readableState state).rankKey slot = state.rankKey slot := by
  unfold LivePredictionSessionState.rankKey LivePredictionSessionState.rankValue
  rw [readable_state_target]
  rfl

theorem readable_state_compare (left right : Nat) :
    (readableState state).compareSlots left right = state.compareSlots left right := by
  unfold LivePredictionSessionState.compareSlots
  rw [readable_state_rank, readable_state_rank, readable_state_candidate,
    readable_state_candidate, readable_card, readable_card]
  rfl

theorem readable_rebuild :
    (readableState state).rebuildOrder = readableState state.rebuildOrder := by
  have same : (fun left right : Nat => (readableState state).compareSlots left right ≠ .gt) =
      fun left right => state.compareSlots left right ≠ .gt := by
    funext left right
    rw [readable_state_compare]
  unfold LivePredictionSessionState.rebuildOrder
  simp only [readable_state_compare]
  rfl

theorem readable_store (entries : List (F × Nat)) :
    storePredictions (readableState state) entries =
      readableState (storePredictions state entries) := by
  induction entries generalizing state with
  | nil => rfl
  | cons entry entries ih =>
      exact ih { state with
        predictions := state.predictions.set entry.2 entry.1
        statuses := state.statuses.set entry.2 .active }

theorem readable_boundary (slot : Nat) :
    nextBoundary (readableState state) slot = nextBoundary state slot := by
  unfold nextBoundary
  rw [readable_state_target]
  rfl

theorem readable_selection_step (selectLimit : Nat) (isExcluded : Nat → Bool)
    (current : FinalSelection F) (slot : Nat) :
    finalSelectionStep (readableState state) selectLimit isExcluded current slot =
      finalSelectionStep state selectLimit isExcluded current slot := by
  unfold finalSelectionStep
  rw [readable_boundary, readable_state_target, readable_state_candidate, readable_card]
  rfl

theorem readable_selection (selectLimit : Nat) (isExcluded : Nat → Bool) :
    finalSelectionBy (readableState state) selectLimit isExcluded =
      finalSelectionBy state selectLimit isExcluded := by
  unfold finalSelectionBy
  apply congrArg (fun step => List.foldl step _ _)
  funext current slot
  exact readable_selection_step state selectLimit isExcluded current slot

theorem readable_mark : (readableState state).advanceUpdateMark =
    readableState state.advanceUpdateMark := by
  unfold LivePredictionSessionState.advanceUpdateMark
  dsimp only
  change (if state.updateMarkGeneration + 1 = 0 then _ else _) = _
  split
  · rfl
  · rfl

theorem readable_mark_slots (slots : List Nat) :
    (readableState state).markSlots slots = readableState (state.markSlots slots) := rfl

theorem readable_select_final (selectLimit : Nat) (excludedCardIds : List Int64) :
    selectFinal (readableState state) selectLimit excludedCardIds =
      (readableState (selectFinal state selectLimit excludedCardIds).1,
        (selectFinal state selectLimit excludedCardIds).2) := by
  unfold selectFinal
  split
  · exact Prod.ext rfl (readable_selection state selectLimit _)
  · have located : (fun cardId => (readableState state.advanceUpdateMark).slotByCardId[cardId]?) =
        fun cardId : Int64 => state.advanceUpdateMark.slotByCardId[cardId]? := rfl
    unfold finalSelectionMarkedExclusion
    dsimp only
    rw [readable_mark, located, readable_mark_slots]
    apply congrArg (Prod.mk _)
    exact readable_selection _ selectLimit _

end State

theorem readable_initialize {state : LivePredictionSessionState F} {predict : Predictor F} :
    initializeLiveSessionPredictions predict (readableState state) =
      (initializeLiveSessionPredictions predict state).map readableState := by
  have inputs : (readableState state).candidates.map LiveCandidate.initialPredictionInput =
      state.candidates.map LiveCandidate.initialPredictionInput := by
    unfold readableState
    rw [List.map_map]
    apply List.map_congr_left
    intro candidate _
    exact readable_initial candidate
  have count : (readableState state).candidates.length = state.candidates.length :=
    List.length_map _
  have applied : ∀ predictions : List F,
      (storePredictions (readableState state) predictions.zipIdx).recomputeAllEligibilities.rebuildOrder
        = readableState
          (storePredictions state predictions.zipIdx).recomputeAllEligibilities.rebuildOrder := by
    intro predictions
    rw [readable_store, readable_recompute, readable_rebuild]
  unfold initializeLiveSessionPredictions
  dsimp only
  rw [inputs, count]
  split
  · rfl
  · cases predict (state.candidates.map LiveCandidate.initialPredictionInput) with
    | error message => rfl
    | ok predictions =>
        change (if predictions.length ≠ state.candidates.length then _ else _) =
          Except.map readableState (if predictions.length ≠ state.candidates.length then _ else _)
        split
        · rfl
        · exact congrArg Except.ok (applied predictions)

def readableStep {Result : Type} (step : LiveStep F Result) : LiveStep F Result :=
  { step with session := readableState step.session }

/-- A commit reads of a replacement what its readable form tells. -/
theorem readable_commit (state replacement : LivePredictionSessionState F)
    (request : ReconcileRequest F) (undo : Option (LiveIndexUndoFrame F)) :
    commitReconciledLiveSessionReplacement state (.ok (readableState replacement)) request undo =
      readableStep
        (commitReconciledLiveSessionReplacement state (.ok replacement) request undo) := by
  unfold commitReconciledLiveSessionReplacement currentSelectionOutput
  dsimp only
  let installed := { replacement with
    generation := state.generation + 1
    profile := state.profile
    lastMembershipSlots := List.range replacement.candidates.length
    lastTransportSlots := List.range replacement.candidates.length }
  have installedReadable : { readableState replacement with
      generation := state.generation + 1
      profile := state.profile
      lastMembershipSlots := List.range (readableState replacement).candidates.length
      lastTransportSlots := List.range (readableState replacement).candidates.length } =
        readableState installed := by
    have count : (readableState replacement).candidates.length = replacement.candidates.length :=
      List.length_map _
    rw [count]
    rfl
  rw [installedReadable, readable_select_final]
  unfold readableStep
  have count : (readableState
      (selectFinal installed request.selectLimit request.excludedCardIds).1).candidates.length =
        (selectFinal installed request.selectLimit request.excludedCardIds).1.candidates.length :=
    List.length_map _
  dsimp only
  rw [count]
  rfl

theorem same_readable_commit {state left right : LivePredictionSessionState F}
    (same : readableState left = readableState right) (request : ReconcileRequest F)
    (undo : Option (LiveIndexUndoFrame F)) :
    readableStep (commitReconciledLiveSessionReplacement state (.ok left) request undo) =
      readableStep (commitReconciledLiveSessionReplacement state (.ok right) request undo) := by
  rw [← readable_commit, ← readable_commit, same]

end RwkvSrs.ReadableSession
