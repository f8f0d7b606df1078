import RwkvSrs.LiveUndoFrame

/-!
Operations of the native live session. Each returns the session, the undo
frame it recorded into, and its result; a failing operation returns the
session it leaves behind as well. The predictor is the result of the native
batch prediction for the session's mode, as a function of the rows.
-/

namespace RwkvSrs.LiveSessionOperations

open Std RwkvSrs.LiveTypes RwkvSrs.LiveSessionState RwkvSrs.LiveSessionSelection
open RwkvSrs.LiveUndoFrame SessionFloat

set_option autoImplicit false

variable {F : Type} [SessionFloat F]

abbrev Predictor (F : Type) := List (ReviewInput F) → Except String (List F)

structure LiveStep (F Result : Type) where
  session : LivePredictionSessionState F
  undo : Option (LiveIndexUndoFrame F)
  result : Except String Result

structure LiveSessionSettings where
  token : UInt64
  order : LiveOrder
  mode : LivePredictionMode
  batchSize : Nat
  refreshLimit : Nat
  numThreads : Option Nat
  profiling : Bool

def newEmpty (settings : LiveSessionSettings) (targetTimestampSeconds targetDayOffset : F) :
    Except String (LivePredictionSessionState F) := do
  validateTargetTime targetTimestampSeconds targetDayOffset
  if settings.batchSize = 0 then throw "batch_size must be at least 1"
  if settings.refreshLimit = 0 then throw "refresh_limit must be at least 1"
  return {
    token := settings.token
    candidates := []
    slotByCardId := ∅
    predictions := []
    normalTargets := []
    intradayTargets := []
    tieBreakers := []
    randomKeys := []
    statuses := []
    eligibilities := []
    orderedSlots := []
    transportSlots := []
    generation := 1
    retentionExtra := zero
    targetTimestampSeconds := targetTimestampSeconds
    targetDayOffset := targetDayOffset
    order := settings.order
    mode := settings.mode
    batchSize := settings.batchSize
    refreshLimit := settings.refreshLimit
    numThreads := settings.numThreads
    selectedScratch := []
    updateMarks := []
    updateMarkGeneration := 0
    lastMembershipSlots := []
    lastTransportSlots := []
    profile := ⟨settings.profiling, 0, 0, 0, 0⟩ }

def pushValue (state : LivePredictionSessionState F) (value : LiveCandidateValue F) :
    Except String (LivePredictionSessionState F) :=
  if value.candidate.cardId ∈ state.slotByCardId then
    .error s!"duplicate live candidate card_id={value.candidate.cardId}"
  else .ok (state.appendSlot value)

def pushSeed (state : LivePredictionSessionState F) (targetTimestampSeconds targetDayOffset : F)
    (seed : LiveCandidateSeed F) : Except String (LivePredictionSessionState F) := do
  let value ← candidateValueFromSeed seed targetTimestampSeconds targetDayOffset
  pushValue state value

/-- The slot value a membership reconciliation rebuilds from kept anchors. -/
def reusedValue (value : LiveCandidateValue F) (targetTimestampSeconds targetDayOffset : F)
    (input : ReviewInput F) : LiveCandidateValue F :=
  { value with
    candidate := { value.candidate with
      queryTimestampSeconds := targetTimestampSeconds
      queryDayOffset := targetDayOffset
      queriedElapsedDays := input.elapsedDays
      queriedElapsedSeconds := input.elapsedSeconds }
    prediction := nan
    status := .pendingRefresh
    eligible := false }

def pushReusedCandidate (state source : LivePredictionSessionState F) (sourceSlot : Nat)
    (targetTimestampSeconds targetDayOffset : F) : Except String (LivePredictionSessionState F) :=
  let value := source.value sourceSlot
  let input := value.candidate.predictionInput targetTimestampSeconds targetDayOffset
  match livePredictionInputError input with
  | some error => .error error
  | none => pushValue state (reusedValue value targetTimestampSeconds targetDayOffset input)

def newUnranked (settings : LiveSessionSettings) (seeds : List (LiveCandidateSeed F))
    (targetTimestampSeconds targetDayOffset : F) :
    Except String (LivePredictionSessionState F) := do
  let state ← newEmpty settings targetTimestampSeconds targetDayOffset
  seeds.foldlM (fun state seed => pushSeed state targetTimestampSeconds targetDayOffset seed) state

def initializeLiveSessionPredictions (predict : Predictor F)
    (state : LivePredictionSessionState F) : Except String (LivePredictionSessionState F) := do
  let inputs := state.candidates.map LiveCandidate.initialPredictionInput
  match inputs.findSome? livePredictionInputError with
  | some error => throw error
  | none => pure ()
  let predictions ← predict inputs
  if predictions.length ≠ state.candidates.length then
    throw (s!"live session initialization returned {predictions.length} predictions for "
      ++ s!"{state.candidates.length} candidates")
  let applied := predictions.zipIdx.foldl
    (fun (current : LivePredictionSessionState F) (entry : F × Nat) =>
      { current with
        predictions := current.predictions.set entry.2 entry.1
        statuses := current.statuses.set entry.2 .active })
    state
  return applied.recomputeAllEligibilities.rebuildOrder

/-- `create_live_prediction_session` up to the staged state. -/
def createLiveSession (settings : LiveSessionSettings) (seeds : List (LiveCandidateSeed F))
    (targetTimestampSeconds targetDayOffset : F) (predict : Predictor F) :
    Except String (LivePredictionSessionState F) := do
  let state ← newUnranked settings seeds targetTimestampSeconds targetDayOffset
  initializeLiveSessionPredictions predict state

def validateAnswerUpdate (state : LivePredictionSessionState F) (slot : Nat)
    (input : ReviewInput F) : Except String Unit :=
  let timestamp :=
    (state.candidateAt slot).answerTimestampSeconds state.targetTimestampSeconds input.elapsedSeconds
  if !isFinite timestamp || !isFinite input.dayOffset then
    .error s!"answer for candidate {input.cardId} cannot derive finite last-review anchors"
  else .ok ()

def answeredCandidate (candidate : LiveCandidate F) (targetTimestampSeconds : F)
    (input : ReviewInput F) : LiveCandidate F :=
  { candidate with
    reviewId := input.reviewId
    noteId := input.noteId
    deckId := input.deckId
    presetId := input.presetId
    lastReviewTimestampSeconds :=
      some (candidate.answerTimestampSeconds targetTimestampSeconds input.elapsedSeconds)
    lastReviewDayOffset := some input.dayOffset
    hasPriorReview := true }

def applyAnswer (state : LivePredictionSessionState F) (slot : Nat) (input : ReviewInput F)
    (requeueAfterPrediction : Bool) : LivePredictionSessionState F :=
  let candidate := state.candidateAt slot
  let answered := { state with
    candidates := state.candidates.set slot
      (answeredCandidate candidate state.targetTimestampSeconds input)
    predictions := state.predictions.set slot nan
    eligibilities := state.eligibilities.set slot false }
  let marked :=
    if requeueAfterPrediction then
      answered.setStatus slot
        (if (state.status slot).isExcluded then .excludedPendingRefresh else .pendingRefresh)
    else
      { answered.setStatus slot .removed with
        slotByCardId := state.slotByCardId.erase candidate.cardId }
  marked.advanceGeneration.updateOrderAfterRefresh [slot] false

/-- The common shape of the single-card edits: resolve the slot, save it, edit it. -/
def editCard (edit : LivePredictionSessionState F → Nat → LivePredictionSessionState F)
    (state : LivePredictionSessionState F) (cardId : Int64)
    (undo : Option (LiveIndexUndoFrame F)) : LiveStep F UInt64 :=
  match state.candidateSlot cardId with
  | .error error => ⟨state, undo, .error error⟩
  | .ok slot =>
      let next := edit state slot
      ⟨next, undo.map fun frame => frame.recordSlot state slot, .ok next.generation⟩

def excludeCard (state : LivePredictionSessionState F) (cardId : Int64)
    (undo : Option (LiveIndexUndoFrame F)) : LiveStep F UInt64 :=
  editCard (fun state slot =>
    (state.setStatus slot (state.status slot).toExcluded).advanceGeneration) state cardId undo

def includeCard (state : LivePredictionSessionState F) (cardId : Int64)
    (undo : Option (LiveIndexUndoFrame F)) : LiveStep F UInt64 :=
  editCard (fun state slot =>
    (state.setStatus slot (state.status slot).toIncluded).advanceGeneration) state cardId undo

def removeSlot (cardId : Int64) (state : LivePredictionSessionState F) (slot : Nat) :
    LivePredictionSessionState F :=
  let removed := (state.setStatus slot .removed).setEligibility slot false
  { removed with slotByCardId := state.slotByCardId.erase cardId }.advanceGeneration
    |>.updateOrderAfterRefresh [slot] false

def removeCard (state : LivePredictionSessionState F) (cardId : Int64)
    (undo : Option (LiveIndexUndoFrame F)) : LiveStep F UInt64 :=
  editCard (removeSlot cardId) state cardId undo

def upsertValue (current : LivePredictionSessionState F × Option (LiveIndexUndoFrame F))
    (value : LiveCandidateValue F) :
    LivePredictionSessionState F × Option (LiveIndexUndoFrame F) :=
  let (state, undo) := current
  match state.slotByCardId[value.candidate.cardId]? with
  | some slot =>
      let kept := if (state.status slot).isExcluded then
        { value with status := .excludedPendingRefresh } else value
      (state.restoreValue slot kept, undo.map fun frame => frame.recordSlot state slot)
  | none =>
      (state.appendSlot value, undo.map fun frame => frame.recordNewSlot state.candidates.length)

/-- The first card id that repeats an earlier one. -/
def firstDuplicate : List Int64 → List Int64 → Option Int64
  | _, [] => none
  | seen, cardId :: rest =>
      if seen.contains cardId then some cardId else firstDuplicate (cardId :: seen) rest

def upsertCandidates (state : LivePredictionSessionState F) (seeds : List (LiveCandidateSeed F))
    (undo : Option (LiveIndexUndoFrame F)) : LiveStep F UInt64 :=
  match firstDuplicate [] (seeds.map fun seed => seed.row.cardId) with
  | some cardId => ⟨state, undo, .error s!"duplicate live candidate card_id={cardId}"⟩
  | none =>
      match seeds.mapM fun seed =>
          candidateValueFromSeed seed state.targetTimestampSeconds state.targetDayOffset with
      | .error error => ⟨state, undo, .error error⟩
      | .ok values =>
          let (updated, undo) := values.foldl upsertValue (state, undo)
          let next := updated.advanceGeneration.rebuildOrder
          ⟨next, undo, .ok next.generation⟩

/-- The undo frame is not extended: a retention change saves no slot. -/
def setRetentionExtra (state : LivePredictionSessionState F) (value : F)
    (undo : Option (LiveIndexUndoFrame F)) : LiveStep F UInt64 :=
  match validateRetentionExtra value with
  | .error error => ⟨state, undo, .error error⟩
  | .ok () =>
      let next := { state with retentionExtra := value }.recomputeAllEligibilities.rebuildOrder
        |>.advanceGeneration
      ⟨next, undo, .ok next.generation⟩

def setMode (state : LivePredictionSessionState F) (mode : LivePredictionMode) :
    LivePredictionSessionState F :=
  { state with mode := mode }.advanceGeneration

structure RefreshRequest (F : Type) where
  targetTimestampSeconds : F
  targetDayOffset : F
  selectLimit : Nat
  excludedCardIds : List Int64
  excludedRefreshCardIds : List Int64
  retentionExtra : F

def applyRefreshedSlot (targetTimestampSeconds targetDayOffset : F)
    (state : LivePredictionSessionState F) (entry : Nat × F × ReviewInput F) :
    LivePredictionSessionState F :=
  let (slot, prediction, input) := entry
  let updated := { state with
    candidates := state.candidates.set slot
      { state.candidateAt slot with
        queryTimestampSeconds := targetTimestampSeconds
        queryDayOffset := targetDayOffset
        queriedElapsedDays := input.elapsedDays
        queriedElapsedSeconds := input.elapsedSeconds }
    predictions := state.predictions.set slot prediction
    statuses := state.statuses.set slot (state.status slot).refreshed }
  updated.setEligibility slot (updated.calculateEligibility slot)

def failedRefresh (state : LivePredictionSessionState F) : LivePredictionSessionState F :=
  { state with profile := { state.profile with
      failedRefreshCalls := state.profile.failedRefreshCalls + 1 } }

/-- The part of `refresh_live_session` after a successful prediction. -/
def commitRefresh [DecidableEq F] (request : RefreshRequest F)
    (state : LivePredictionSessionState F) (inputs : List (ReviewInput F)) (predictions : List F) :
    LivePredictionSessionState F × LiveRefreshOutput F :=
  let retentionChanged := decide (state.retentionExtra ≠ request.retentionExtra)
  let retimed := { state with
    retentionExtra := request.retentionExtra
    targetTimestampSeconds := request.targetTimestampSeconds
    targetDayOffset := request.targetDayOffset }
  let applied := (state.transportSlots.zip (predictions.zip inputs)).foldl
    (applyRefreshedSlot request.targetTimestampSeconds request.targetDayOffset) retimed
  let recomputed := if retentionChanged then applied.recomputeAllEligibilities else applied
  let ordered := (commitRefreshDebug recomputed).updateOrderAfterRefresh state.transportSlots
    retentionChanged
  let (selectedState, selection) := selectFinal ordered request.selectLimit request.excludedCardIds
  let next := selectedState.advanceGeneration
  ({ next with profile := { next.profile with refreshCalls := next.profile.refreshCalls + 1 } },
    refreshOutput next.generation predictions.length selection)

def refreshLiveSession [DecidableEq F] (state : LivePredictionSessionState F)
    (predict : Predictor F) (request : RefreshRequest F) (undo : Option (LiveIndexUndoFrame F)) :
    LiveStep F (LiveRefreshOutput F) :=
  match validateTargetTime request.targetTimestampSeconds request.targetDayOffset,
      validateRetentionExtra request.retentionExtra with
  | .error error, _ => ⟨state, undo, .error error⟩
  | .ok (), .error error => ⟨state, undo, .error error⟩
  | .ok (), .ok () =>
      let state := selectRefreshMembership state request.excludedRefreshCardIds
      let inputs := state.transportSlots.map fun slot =>
        (state.candidateAt slot).predictionInput request.targetTimestampSeconds
          request.targetDayOffset
      match inputs.findSome? livePredictionInputError with
      | some error => ⟨state, undo, .error error⟩
      | none =>
          match predict inputs with
          | .error error => ⟨failedRefresh state, undo, .error error⟩
          | .ok predictions =>
              if predictions.length ≠ state.transportSlots.length then
                ⟨failedRefresh state, undo, .error
                  (s!"live refresh returned {predictions.length} predictions for "
                    ++ s!"{state.transportSlots.length} candidates")⟩
              else
                let undo := undo.map fun frame =>
                  state.transportSlots.foldl (fun frame slot => frame.recordRefreshSlot state slot)
                    frame
                let (next, output) := commitRefresh request state inputs predictions
                ⟨next, undo, .ok output⟩

structure ReconcileRequest (F : Type) where
  targetTimestampSeconds : F
  targetDayOffset : F
  selectLimit : Nat
  excludedCardIds : List Int64
  retentionExtra : F

def settingsOf (state : LivePredictionSessionState F) : LiveSessionSettings where
  token := state.token
  order := state.order
  mode := state.mode
  batchSize := state.batchSize
  refreshLimit := state.refreshLimit
  numThreads := state.numThreads
  profiling := state.profile.enabled

def predictedReplacementFromState (state : LivePredictionSessionState F)
    (seeds : List (LiveCandidateSeed F)) (predict : Predictor F)
    (targetTimestampSeconds targetDayOffset retentionExtra : F) :
    Except String (LivePredictionSessionState F) := do
  let replacement ← newUnranked (settingsOf state) seeds targetTimestampSeconds targetDayOffset
  initializeLiveSessionPredictions predict { replacement with retentionExtra := retentionExtra }

def changedByCardId (changedCandidates : List (LiveCandidateSeed F)) :
    Except String (ExtTreeMap Int64 (Nat × LiveCandidateSeed F)) :=
  changedCandidates.zipIdx.foldlM
    (fun (changed : ExtTreeMap Int64 (Nat × LiveCandidateSeed F))
        (entry : LiveCandidateSeed F × Nat) =>
      let cardId := entry.1.row.cardId
      if cardId ∈ changed then .error s!"duplicate changed candidate card_id={cardId}"
      else .ok (changed.insert cardId (entry.2, entry.1)))
    ∅

/-- One turn of the membership walk; the changed seeds are consumed on the way. -/
def pushMember (source : LivePredictionSessionState F) (targetTimestampSeconds targetDayOffset : F)
    (current : LivePredictionSessionState F × ExtTreeMap Int64 (Nat × LiveCandidateSeed F))
    (entry : Int64 × Nat) :
    Except String
      (LivePredictionSessionState F × ExtTreeMap Int64 (Nat × LiveCandidateSeed F)) := do
  let (replacement, changed) := current
  let (cardId, index) := entry
  match changed[cardId]? with
  | some (_, seed) =>
      let replacement ← pushSeed replacement targetTimestampSeconds targetDayOffset seed
      return (replacement, changed.erase cardId)
  | none =>
      match source.slotByCardId[cardId]? with
      | some sourceSlot =>
          let replacement ← pushReusedCandidate replacement source sourceSlot
            targetTimestampSeconds targetDayOffset
          return (replacement, changed)
      | none =>
          if cardId ∈ replacement.slotByCardId then
            throw s!"duplicate live candidate card_id={cardId}"
          else
            throw (s!"card_ids[{index}]={cardId} is not an active live candidate; provide a "
              ++ "changed_candidates seed.")

/-- The unused changed seed that was given first. -/
def firstUnusedChange (changed : ExtTreeMap Int64 (Nat × LiveCandidateSeed F)) :
    Option (Int64 × Nat) :=
  changed.toList.foldl
    (fun best entry =>
      match best with
      | some (_, index) => if entry.2.1 < index then some (entry.1, entry.2.1) else best
      | none => some (entry.1, entry.2.1))
    none

def predictedMembershipReplacementFromState (state : LivePredictionSessionState F)
    (cardIds : List Int64) (changedCandidates : List (LiveCandidateSeed F)) (predict : Predictor F)
    (targetTimestampSeconds targetDayOffset retentionExtra : F) :
    Except String (LivePredictionSessionState F) := do
  let empty ← newEmpty (settingsOf state) targetTimestampSeconds targetDayOffset
  let changed ← changedByCardId changedCandidates
  let (replacement, unused) ← cardIds.zipIdx.foldlM
    (pushMember state targetTimestampSeconds targetDayOffset)
    ({ empty with retentionExtra := retentionExtra }, changed)
  match firstUnusedChange unused with
  | some (cardId, index) =>
      throw s!"changed_candidates[{index}].row.card_id={cardId} is not present in card_ids."
  | none => initializeLiveSessionPredictions predict replacement

def replaceLiveSessionCandidates (state : LivePredictionSessionState F)
    (seeds : List (LiveCandidateSeed F)) (predict : Predictor F) :
    Except String (LivePredictionSessionState F) := do
  let replacement ← predictedReplacementFromState state seeds predict
    state.targetTimestampSeconds state.targetDayOffset state.retentionExtra
  return { replacement with generation := state.generation + 1, profile := state.profile }

def commitReconciledLiveSessionReplacement (state : LivePredictionSessionState F)
    (replacementResult : Except String (LivePredictionSessionState F))
    (request : ReconcileRequest F) (undo : Option (LiveIndexUndoFrame F)) :
    LiveStep F (LiveRefreshOutput F) :=
  match replacementResult with
  | .error error => ⟨state, undo, .error error⟩
  | .ok replacement =>
      let installed := { replacement with
        generation := state.generation + 1
        profile := state.profile
        lastMembershipSlots := List.range replacement.candidates.length
        lastTransportSlots := List.range replacement.candidates.length }
      let (next, output) := currentSelectionOutput installed request.selectLimit
        request.excludedCardIds
      ⟨{ next with profile := { next.profile with
            reconcileCalls := next.profile.reconcileCalls + 1 } },
        undo.map fun frame => frame.recordReconciliationState state,
        .ok { output with refreshedCount := next.candidates.length }⟩

/-- The argument checks both reconciliations make before they build anything. -/
def validateReconcile (request : ReconcileRequest F) : Except String Unit := do
  validateTargetTime request.targetTimestampSeconds request.targetDayOffset
  validateRetentionExtra request.retentionExtra

def reconcileLiveSessionCandidates (state : LivePredictionSessionState F)
    (seeds : List (LiveCandidateSeed F)) (predict : Predictor F) (request : ReconcileRequest F)
    (undo : Option (LiveIndexUndoFrame F)) : LiveStep F (LiveRefreshOutput F) :=
  let replacementResult := do
    validateReconcile request
    predictedReplacementFromState state seeds predict request.targetTimestampSeconds
      request.targetDayOffset request.retentionExtra
  commitReconciledLiveSessionReplacement state replacementResult request undo

def reconcileLiveSessionMembership (state : LivePredictionSessionState F) (cardIds : List Int64)
    (changedCandidates : List (LiveCandidateSeed F)) (predict : Predictor F)
    (request : ReconcileRequest F) (undo : Option (LiveIndexUndoFrame F)) :
    LiveStep F (LiveRefreshOutput F) :=
  let replacementResult := do
    validateReconcile request
    predictedMembershipReplacementFromState state cardIds changedCandidates predict
      request.targetTimestampSeconds request.targetDayOffset request.retentionExtra
  commitReconciledLiveSessionReplacement state replacementResult request undo

end RwkvSrs.LiveSessionOperations
