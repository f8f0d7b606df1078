import RwkvSrs.LiveSessionSelection

/-!
Undo frames of the live index. A frame starts at an answer with the answered
slot saved in full, and is extended by the session operations that follow:
each saves a slot the first time it touches it, in full or only the part a
refresh changes. A complete replacement saves the whole slot space once.
-/

namespace RwkvSrs.LiveUndoFrame

open Std RwkvSrs.LiveTypes RwkvSrs.LiveSessionState

set_option autoImplicit false

/-- The `UNDO_SLOT_*` markers. -/
inductive UndoSlot where
  | unrecorded
  | refreshDelta
  | fullDelta
deriving DecidableEq

structure LiveReconciliationUndoState (F : Type) where
  candidates : List (LiveCandidate F)
  slotByCardId : ExtTreeMap Int64 Nat
  predictions : List F
  normalTargets : List F
  intradayTargets : List F
  tieBreakers : List UInt64
  randomKeys : List UInt64
  statuses : List CandidateStatus
  eligibilities : List Bool
  orderedSlots : List Nat
  retentionExtra : F
  targetTimestampSeconds : F
  targetDayOffset : F

structure LiveIndexUndoFrame (F : Type) where
  sessionToken : UInt64
  previousGeneration : UInt64
  previousRetentionExtra : F
  previousTargetTimestampSeconds : F
  previousTargetDayOffset : F
  candidateDeltas : List (Nat × Option (LiveCandidateValue F))
  refreshDeltas : List (Nat × LiveRefreshUndoValue F)
  recordedSlots : List UndoSlot
  preReconciliationState : Option (LiveReconciliationUndoState F)

variable {F : Type} [SessionFloat F]

def intoReconciliationUndoState (state : LivePredictionSessionState F) :
    LiveReconciliationUndoState F where
  candidates := state.candidates
  slotByCardId := state.slotByCardId
  predictions := state.predictions
  normalTargets := state.normalTargets
  intradayTargets := state.intradayTargets
  tieBreakers := state.tieBreakers
  randomKeys := state.randomKeys
  statuses := state.statuses
  eligibilities := state.eligibilities
  orderedSlots := state.orderedSlots
  retentionExtra := state.retentionExtra
  targetTimestampSeconds := state.targetTimestampSeconds
  targetDayOffset := state.targetDayOffset

def restoreReconciliationUndoState (state : LivePredictionSessionState F)
    (previous : LiveReconciliationUndoState F) : LivePredictionSessionState F :=
  { state with
    candidates := previous.candidates
    slotByCardId := previous.slotByCardId
    predictions := previous.predictions
    normalTargets := previous.normalTargets
    intradayTargets := previous.intradayTargets
    tieBreakers := previous.tieBreakers
    randomKeys := previous.randomKeys
    statuses := previous.statuses
    eligibilities := previous.eligibilities
    orderedSlots := previous.orderedSlots
    retentionExtra := previous.retentionExtra
    targetTimestampSeconds := previous.targetTimestampSeconds
    targetDayOffset := previous.targetDayOffset
    transportSlots := []
    selectedScratch := []
    updateMarks := List.replicate previous.candidates.length 0
    updateMarkGeneration := 0
    lastMembershipSlots := []
    lastTransportSlots := [] }

namespace LiveIndexUndoFrame

def capture (state : LivePredictionSessionState F) (answeredSlot : Nat) : LiveIndexUndoFrame F where
  sessionToken := state.token
  previousGeneration := state.generation
  previousRetentionExtra := state.retentionExtra
  previousTargetTimestampSeconds := state.targetTimestampSeconds
  previousTargetDayOffset := state.targetDayOffset
  candidateDeltas := [(answeredSlot, some (state.value answeredSlot))]
  refreshDeltas := []
  recordedSlots := (List.replicate state.candidates.length .unrecorded).set answeredSlot .fullDelta
  preReconciliationState := none

variable (frame : LiveIndexUndoFrame F)

def recordedSlot (slot : Nat) : UndoSlot := frame.recordedSlots.getD slot .unrecorded

def ensureRecordedSlot (slot : Nat) : LiveIndexUndoFrame F :=
  if frame.recordedSlots.length ≤ slot then
    { frame with
      recordedSlots := frame.recordedSlots ++
        List.replicate (slot + 1 - frame.recordedSlots.length) .unrecorded }
  else frame

def pushCandidateDelta (slot : Nat) (saved : Option (LiveCandidateValue F)) :
    LiveIndexUndoFrame F :=
  { frame with
    candidateDeltas := frame.candidateDeltas ++ [(slot, saved)]
    recordedSlots := frame.recordedSlots.set slot .fullDelta }

/-- The saved refresh part of a slot; the source `expect`s it where it is read. -/
def refreshDelta (slot : Nat) : Option (LiveRefreshUndoValue F) :=
  (frame.refreshDeltas.find? fun delta => delta.1 == slot).map Prod.snd

def recordSlot (state : LivePredictionSessionState F) (slot : Nat) : LiveIndexUndoFrame F :=
  if frame.preReconciliationState.isSome then frame
  else
    let frame := frame.ensureRecordedSlot slot
    match frame.recordedSlot slot with
    | .unrecorded => frame.pushCandidateDelta slot (some (state.value slot))
    | .refreshDelta =>
        match frame.refreshDelta slot with
        | some saved => frame.pushCandidateDelta slot (some (saved.restoreFullValue (state.value slot)))
        | none => frame
    | .fullDelta => frame

def recordRefreshSlot (state : LivePredictionSessionState F) (slot : Nat) :
    LiveIndexUndoFrame F :=
  if frame.preReconciliationState.isSome then frame
  else
    let frame := frame.ensureRecordedSlot slot
    if frame.recordedSlot slot = .unrecorded then
      { frame with
        refreshDeltas := frame.refreshDeltas ++ [(slot, state.refreshUndoValue slot)]
        recordedSlots := frame.recordedSlots.set slot .refreshDelta }
    else frame

def recordNewSlot (slot : Nat) : LiveIndexUndoFrame F :=
  if frame.preReconciliationState.isSome then frame
  else
    let frame := frame.ensureRecordedSlot slot
    if frame.recordedSlot slot = .unrecorded then frame.pushCandidateDelta slot none
    else frame

/-- Only the first replacement after the answer is kept. -/
def recordReconciliationState (state : LivePredictionSessionState F) : LiveIndexUndoFrame F :=
  if frame.preReconciliationState.isSome then frame
  else { frame with preReconciliationState := some (intoReconciliationUndoState state) }

end LiveIndexUndoFrame

/-- `begin_answer_undo`. -/
def beginAnswerUndo (state : LivePredictionSessionState F) (slot : Nat) : LiveIndexUndoFrame F :=
  LiveIndexUndoFrame.capture state slot

def restoreRefreshDelta (recordedSlot : Nat → UndoSlot)
    (current : LivePredictionSessionState F × List Nat) (delta : Nat × LiveRefreshUndoValue F) :
    LivePredictionSessionState F × List Nat :=
  if recordedSlot delta.1 ≠ .refreshDelta then current
  else (current.1.restoreRefreshValue delta.1 delta.2, current.2 ++ [delta.1])

/-- A slot that did not exist at capture time is left behind as removed. -/
def discardNewSlot (state : LivePredictionSessionState F) (slot : Nat) :
    LivePredictionSessionState F :=
  if slot < state.statuses.length then
    let cardId := (state.candidateAt slot).cardId
    let state :=
      if state.slotByCardId[cardId]? = some slot then
        { state with slotByCardId := state.slotByCardId.erase cardId }
      else state
    (state.setStatus slot .removed).setEligibility slot false
  else state

def restoreCandidateDelta (current : LivePredictionSessionState F × List Nat)
    (delta : Nat × Option (LiveCandidateValue F)) : LivePredictionSessionState F × List Nat :=
  match delta.2 with
  | some value => (current.1.restoreValue delta.1 value, current.2 ++ [delta.1])
  | none => (discardNewSlot current.1 delta.1, current.2 ++ [delta.1])

/-- The slot space the deltas of a frame refer to. -/
def deltaBase (state : LivePredictionSessionState F) (frame : LiveIndexUndoFrame F) :
    LivePredictionSessionState F :=
  match frame.preReconciliationState with
  | some previous => restoreReconciliationUndoState state previous
  | none => state

def restoreUndo [DecidableEq F] (state : LivePredictionSessionState F)
    (frame : LiveIndexUndoFrame F) : Except String (LivePredictionSessionState F) :=
  if frame.sessionToken ≠ state.token then
    .error "latest undo frame belongs to a different live prediction session"
  else
    let nextGeneration := state.generation + 1
    let base := deltaBase state frame
    let retentionChanged := decide (base.retentionExtra ≠ frame.previousRetentionExtra)
    let retimed := { base with
      retentionExtra := frame.previousRetentionExtra
      targetTimestampSeconds := frame.previousTargetTimestampSeconds
      targetDayOffset := frame.previousTargetDayOffset }
    let refreshed := frame.refreshDeltas.foldl (restoreRefreshDelta frame.recordedSlot) (retimed, [])
    let (restored, restoredSlots) := frame.candidateDeltas.foldl restoreCandidateDelta refreshed
    let advanced := { restored with
      generation := if nextGeneration < frame.previousGeneration + 1 then
        frame.previousGeneration + 1 else nextGeneration }
    let ordered :=
      if retentionChanged then advanced.recomputeAllEligibilities.rebuildOrder
      else advanced.updateOrderAfterRefresh restoredSlots false
    .ok { ordered with lastMembershipSlots := [], lastTransportSlots := [] }

end RwkvSrs.LiveUndoFrame
