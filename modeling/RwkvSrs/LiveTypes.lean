import RwkvSrs.ReviewInput

/-!
Candidate records of the live prediction session: the caller's seed, the
stored candidate with its last-review anchors, and the two saved forms an
undo frame keeps (a complete slot value, and the part a refresh can change).
-/

namespace RwkvSrs.LiveTypes

set_option autoImplicit false

open SessionFloat

inductive LiveOrder where
  | retrievabilityAscending
  | retrievabilityDescending
  | relativeOverdueness
  | random
deriving DecidableEq

inductive LivePredictionMode where
  | oracle
  | fast
  | gpu
deriving DecidableEq

structure LiveCandidateSeed (F : Type) where
  row : ReviewInput F
  targetRetrievability : F
  intradayTargetRetrievability : F
  tieBreaker : UInt64
  randomKey : UInt64

inductive CandidateStatus where
  | active
  | excluded
  | pendingRefresh
  | excludedPendingRefresh
  | removed
deriving DecidableEq

namespace CandidateStatus

def isIncluded : CandidateStatus → Bool
  | .active | .pendingRefresh => true
  | _ => false

def isExcluded : CandidateStatus → Bool
  | .excluded | .excludedPendingRefresh => true
  | _ => false

def predictionIsUsable : CandidateStatus → Bool
  | .active | .excluded => true
  | _ => false

/-- `CandidateStatus::excluded`. -/
def toExcluded : CandidateStatus → CandidateStatus
  | .active => .excluded
  | .pendingRefresh => .excludedPendingRefresh
  | other => other

/-- `CandidateStatus::included`. -/
def toIncluded : CandidateStatus → CandidateStatus
  | .excluded => .active
  | .excludedPendingRefresh => .pendingRefresh
  | other => other

def refreshed : CandidateStatus → CandidateStatus
  | .pendingRefresh => .active
  | .excludedPendingRefresh => .excluded
  | other => other

end CandidateStatus

structure LiveCandidate (F : Type) where
  reviewId : Int64
  cardId : Int64
  noteId : MaybeId
  deckId : MaybeId
  presetId : MaybeId
  hasPriorReview : Bool
  newElapsedDays : F
  newElapsedSeconds : F
  lastReviewTimestampSeconds : Option F
  lastReviewDayOffset : Option F
  queryTimestampSeconds : F
  queryDayOffset : F
  queriedElapsedDays : F
  queriedElapsedSeconds : F
deriving DecidableEq

section Candidate

variable {F : Type} [SessionFloat F]

namespace LiveCandidate

def fromSeed (seed : LiveCandidateSeed F) (targetTimestampSeconds targetDayOffset : F) :
    Except String (LiveCandidate F) := do
  let elapsedDays := seed.row.elapsedDays
  let elapsedSeconds := seed.row.elapsedSeconds
  if !isFinite elapsedDays || !isFinite elapsedSeconds then
    throw s!"candidate {seed.row.cardId} elapsed values must be finite"
  let dayIsNew := eq elapsedDays negOne
  let secondsIsNew := eq elapsedSeconds negOne
  if dayIsNew != secondsIsNew then
    throw (s!"candidate {seed.row.cardId} must use the new-card sentinel for both elapsed_days and "
      ++ "elapsed_seconds")
  if !dayIsNew && (lt elapsedDays zero || lt elapsedSeconds zero) then
    throw s!"candidate {seed.row.cardId} elapsed values must be non-negative or exactly -1"
  let timestampAnchor := sub targetTimestampSeconds elapsedSeconds
  let dayAnchor := sub targetDayOffset elapsedDays
  if !dayIsNew && (!isFinite timestampAnchor || !isFinite dayAnchor) then
    throw (s!"candidate {seed.row.cardId} cannot derive finite last-review anchors from the "
      ++ "initial target")
  return {
    reviewId := seed.row.reviewId
    cardId := seed.row.cardId
    noteId := seed.row.noteId
    deckId := seed.row.deckId
    presetId := seed.row.presetId
    hasPriorReview := !dayIsNew
    newElapsedDays := elapsedDays
    newElapsedSeconds := elapsedSeconds
    lastReviewTimestampSeconds := if dayIsNew then none else some timestampAnchor
    lastReviewDayOffset := if dayIsNew then none else some dayAnchor
    queryTimestampSeconds := targetTimestampSeconds
    queryDayOffset := targetDayOffset
    queriedElapsedDays := elapsedDays
    queriedElapsedSeconds := elapsedSeconds }

def reviewInput (candidate : LiveCandidate F) (targetDayOffset elapsedDays elapsedSeconds : F) :
    ReviewInput F where
  reviewId := candidate.reviewId
  cardId := candidate.cardId
  noteId := candidate.noteId
  deckId := candidate.deckId
  presetId := candidate.presetId
  dayOffset := targetDayOffset
  elapsedDays := elapsedDays
  elapsedSeconds := elapsedSeconds
  rating := none
  duration := none
  state := none

/-- A reviewed candidate always carries both anchors (the source `expect`s them);
the default is never read. -/
def predictionInput (candidate : LiveCandidate F) (targetTimestampSeconds targetDayOffset : F) :
    ReviewInput F :=
  if candidate.hasPriorReview then
    candidate.reviewInput targetDayOffset
      (sub targetDayOffset (candidate.lastReviewDayOffset.getD nan))
      (sub targetTimestampSeconds (candidate.lastReviewTimestampSeconds.getD nan))
  else
    candidate.reviewInput targetDayOffset candidate.newElapsedDays candidate.newElapsedSeconds

def initialPredictionInput (candidate : LiveCandidate F) : ReviewInput F :=
  candidate.reviewInput candidate.queryDayOffset candidate.queriedElapsedDays
    candidate.queriedElapsedSeconds

def answerTimestampSeconds (candidate : LiveCandidate F) (targetTimestampSeconds elapsedSeconds : F) :
    F :=
  if candidate.hasPriorReview then
    add (candidate.lastReviewTimestampSeconds.getD nan) elapsedSeconds
  else targetTimestampSeconds

end LiveCandidate

structure LiveCandidateValue (F : Type) where
  candidate : LiveCandidate F
  prediction : F
  normalTarget : F
  intradayTarget : F
  tieBreaker : UInt64
  randomKey : UInt64
  status : CandidateStatus
  eligible : Bool
deriving DecidableEq

structure LiveRefreshUndoValue (F : Type) where
  queryTimestampSeconds : F
  queryDayOffset : F
  queriedElapsedDays : F
  queriedElapsedSeconds : F
  prediction : F
  status : CandidateStatus
  eligible : Bool
deriving DecidableEq

/-- `LiveRefreshUndoValue::restore_full_value`. -/
def LiveRefreshUndoValue.restoreFullValue (saved : LiveRefreshUndoValue F)
    (value : LiveCandidateValue F) : LiveCandidateValue F :=
  { value with
    candidate := { value.candidate with
      queryTimestampSeconds := saved.queryTimestampSeconds
      queryDayOffset := saved.queryDayOffset
      queriedElapsedDays := saved.queriedElapsedDays
      queriedElapsedSeconds := saved.queriedElapsedSeconds }
    prediction := saved.prediction
    status := saved.status
    eligible := saved.eligible }

/-- `candidate_value_from_seed`, also the value `push_seed` stores. -/
def candidateValueFromSeed (seed : LiveCandidateSeed F)
    (targetTimestampSeconds targetDayOffset : F) : Except String (LiveCandidateValue F) := do
  let candidate ← LiveCandidate.fromSeed seed targetTimestampSeconds targetDayOffset
  return {
    candidate
    prediction := nan
    normalTarget := seed.targetRetrievability
    intradayTarget := seed.intradayTargetRetrievability
    tieBreaker := seed.tieBreaker
    randomKey := seed.randomKey
    status := .pendingRefresh
    eligible := false }

def livePredictionInputError (input : ReviewInput F) : Option String :=
  if isFinite input.dayOffset && isFinite input.elapsedDays && isFinite input.elapsedSeconds then none
  else some s!"candidate {input.cardId} produced non-finite time-adjusted prediction values"

def validateTargetTime (timestampSeconds dayOffset : F) : Except String Unit := do
  if !isFinite timestampSeconds then throw "target_timestamp_seconds must be finite"
  if !isFinite dayOffset then throw "target_day_offset must be finite"

def validateRetentionExtra (value : F) : Except String Unit := do
  if !isFinite value then throw "retention_extra must be finite"

end Candidate

end RwkvSrs.LiveTypes
