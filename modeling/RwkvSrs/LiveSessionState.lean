import RwkvSrs.KeyedOrder
import RwkvSrs.LiveTypes
import Std.Data.ExtTreeMap

/-!
# Native live session: slot arrays, rank keys and order maintenance

The state keeps the source's parallel slot vectors and the card-to-slot map.
Reading a vector out of range panics in the source; here it yields a default,
and the session invariant shows that no operation reads out of range. Working
buffers that every operation clears before use are not part of the state.
-/

namespace RwkvSrs.LiveSessionState

open Std RwkvSrs.LiveTypes RwkvSrs.KeyedOrder SessionFloat

set_option autoImplicit false

def partialRefreshRebuildNumerator : Nat := 19
def partialRefreshRebuildDenominator : Nat := 20

structure RankKey where
  rankClass : UInt8
  orderKey : UInt64
deriving DecidableEq

def RankKey.cmp (left right : RankKey) : Ordering :=
  (compare left.rankClass right.rankClass).then (compare left.orderKey right.orderKey)

structure RankEntry where
  key : RankKey
  slot : Nat
deriving DecidableEq

structure LiveSelectionValue (F : Type) where
  cardId : Int64
  retrievability : F
  targetRetrievability : F
deriving DecidableEq

structure LiveRefreshOutput (F : Type) where
  generation : UInt64
  refreshedCount : Nat
  eligibleCount : Nat
  activeCount : Nat
  selected : List (LiveSelectionValue F)
  nextRetentionExtra : Option F
deriving DecidableEq

structure LiveSessionProfile where
  enabled : Bool
  refreshCalls : UInt64
  failedRefreshCalls : UInt64
  reconcileCalls : UInt64
  failedReconcileCalls : UInt64
deriving DecidableEq

structure LivePredictionSessionState (F : Type) where
  token : UInt64
  candidates : List (LiveCandidate F)
  slotByCardId : ExtTreeMap Int64 Nat
  predictions : List F
  normalTargets : List F
  intradayTargets : List F
  tieBreakers : List UInt64
  randomKeys : List UInt64
  statuses : List CandidateStatus
  eligibilities : List Bool
  orderedSlots : List Nat
  transportSlots : List Nat
  generation : UInt64
  retentionExtra : F
  targetTimestampSeconds : F
  targetDayOffset : F
  order : LiveOrder
  mode : LivePredictionMode
  batchSize : Nat
  refreshLimit : Nat
  numThreads : Option Nat
  selectedScratch : List Nat
  updateMarks : List UInt64
  updateMarkGeneration : UInt64
  lastMembershipSlots : List Nat
  lastTransportSlots : List Nat
  profile : LiveSessionProfile

variable {F : Type} [SessionFloat F]

/-- Default read of the candidate vector; no reachable operation observes it. -/
def blankCandidate : LiveCandidate F where
  reviewId := 0
  cardId := 0
  noteId := .missing
  deckId := .missing
  presetId := .missing
  hasPriorReview := false
  newElapsedDays := nan
  newElapsedSeconds := nan
  lastReviewTimestampSeconds := none
  lastReviewDayOffset := none
  queryTimestampSeconds := nan
  queryDayOffset := nan
  queriedElapsedDays := nan
  queriedElapsedSeconds := nan

namespace LivePredictionSessionState

variable (state : LivePredictionSessionState F)

def candidateCount : Nat := state.candidates.length
def candidateAt (slot : Nat) : LiveCandidate F := state.candidates.getD slot blankCandidate
def prediction (slot : Nat) : F := state.predictions.getD slot nan
def normalTarget (slot : Nat) : F := state.normalTargets.getD slot nan
def intradayTarget (slot : Nat) : F := state.intradayTargets.getD slot nan
def tieBreaker (slot : Nat) : UInt64 := state.tieBreakers.getD slot 0
def randomKey (slot : Nat) : UInt64 := state.randomKeys.getD slot 0
def status (slot : Nat) : CandidateStatus := state.statuses.getD slot .removed
def eligibility (slot : Nat) : Bool := state.eligibilities.getD slot false
def updateMark (slot : Nat) : UInt64 := state.updateMarks.getD slot 0

def value (slot : Nat) : LiveCandidateValue F where
  candidate := state.candidateAt slot
  prediction := state.prediction slot
  normalTarget := state.normalTarget slot
  intradayTarget := state.intradayTarget slot
  tieBreaker := state.tieBreaker slot
  randomKey := state.randomKey slot
  status := state.status slot
  eligible := state.eligibility slot

def refreshUndoValue (slot : Nat) : LiveRefreshUndoValue F where
  queryTimestampSeconds := (state.candidateAt slot).queryTimestampSeconds
  queryDayOffset := (state.candidateAt slot).queryDayOffset
  queriedElapsedDays := (state.candidateAt slot).queriedElapsedDays
  queriedElapsedSeconds := (state.candidateAt slot).queriedElapsedSeconds
  prediction := state.prediction slot
  status := state.status slot
  eligible := state.eligibility slot

def applicableTarget (slot : Nat) : F :=
  if inUnitRange (state.candidateAt slot).queriedElapsedDays then state.intradayTarget slot
  else state.normalTarget slot

def calculateEligibility (slot : Nat) : Bool :=
  let prediction := state.prediction slot
  let target := state.applicableTarget slot
  (state.status slot).predictionIsUsable && isFinite prediction && isFinite target
    && lt prediction (clampUnit (add target state.retentionExtra))

def recomputeAllEligibilities : LivePredictionSessionState F :=
  (List.range state.candidateCount).foldl
    (fun current slot =>
      { current with
        eligibilities := current.eligibilities.set slot (current.calculateEligibility slot) })
    state

def ineligibleBit (slot : Nat) : UInt8 := if state.eligibility slot then 0 else 1

/-- The finite sort value of a slot, absent when the slot sorts behind finite ones. -/
def rankValue (slot : Nat) : Option F :=
  let prediction := state.prediction slot
  match state.order with
  | .retrievabilityAscending | .retrievabilityDescending =>
      if isFinite prediction then some prediction else none
  | .relativeOverdueness =>
      let target := state.applicableTarget slot
      if isFinite prediction && isFinite target then
        let score := div (max prediction scoreFloor) (max target scoreFloor)
        if isFinite score then some score else none
      else none
  | .random => none

def rankKey (slot : Nat) : RankKey :=
  if state.order = .random then ⟨state.ineligibleBit slot, state.randomKey slot⟩
  else
    match state.rankValue slot with
    | some value =>
        let ascendingKey := orderedKey value
        ⟨state.ineligibleBit slot <<< 1,
          if state.order = .retrievabilityDescending then ~~~ascendingKey else ascendingKey⟩
    | none => ⟨state.ineligibleBit slot <<< 1 ||| 1, 0⟩

def compareSlots (left right : Nat) : Ordering :=
  ((state.rankKey left).cmp (state.rankKey right)).then
    ((compare (state.tieBreaker left) (state.tieBreaker right)).then
      (compare (state.candidateAt left).cardId (state.candidateAt right).cardId))

/-- `compare_slot_to_rank_entry`: the entry's key was computed once before the sort. -/
def compareSlotToRankEntry (left : Nat) (right : RankEntry) : Ordering :=
  ((state.rankKey left).cmp right.key).then
    ((compare (state.tieBreaker left) (state.tieBreaker right.slot)).then
      (compare (state.candidateAt left).cardId (state.candidateAt right.slot).cardId))

def compareRankEntries (left right : RankEntry) : Ordering :=
  (left.key.cmp right.key).then
    ((compare (state.tieBreaker left.slot) (state.tieBreaker right.slot)).then
      (compare (state.candidateAt left.slot).cardId (state.candidateAt right.slot).cardId))

def advanceUpdateMark : LivePredictionSessionState F :=
  let generation := state.updateMarkGeneration + 1
  if generation = 0 then
    { state with
      updateMarks := state.updateMarks.map fun _ => 0
      updateMarkGeneration := 1 }
  else { state with updateMarkGeneration := generation }

/-- `update_marks[slot] = update_mark_generation` for each given slot. -/
def markSlots (slots : List Nat) : LivePredictionSessionState F :=
  { state with
    updateMarks :=
      slots.foldl (fun marks slot => marks.set slot state.updateMarkGeneration) state.updateMarks }

def marked (slot : Nat) : Bool := state.updateMark slot == state.updateMarkGeneration

/-- The comparator separates distinct live slots, so any unstable sort returns this list. -/
def rebuildOrder : LivePredictionSessionState F :=
  { state with
    orderedSlots :=
      ((List.range state.statuses.length).filter fun slot => state.status slot != .removed)
        |>.insertionSort fun left right => state.compareSlots left right ≠ .gt }

def mergeUpdatedOrder (updatedSlots : List Nat) : LivePredictionSessionState F :=
  let state := state.advanceUpdateMark.markSlots updatedSlots
  let remaining := state.orderedSlots.filter fun slot => !state.marked slot
  let updated :=
    ((updatedSlots.filter fun slot => state.status slot != .removed).map
      fun slot => RankEntry.mk (state.rankKey slot) slot).insertionSort
        fun left right => state.compareRankEntries left right ≠ .gt
  { state with
    orderedSlots :=
      mergeEntries (fun old entry => state.compareSlotToRankEntry old entry != .gt)
        RankEntry.slot remaining updated }

def prefersRebuild (updatedSlots : List Nat) (forceRebuild : Bool) : Bool :=
  forceRebuild || state.orderedSlots.isEmpty ||
    decide (state.orderedSlots.length * partialRefreshRebuildNumerator ≤
      updatedSlots.length * partialRefreshRebuildDenominator)

def updateOrderAfterRefresh (updatedSlots : List Nat) (forceRebuild : Bool) :
    LivePredictionSessionState F :=
  if state.prefersRebuild updatedSlots forceRebuild then state.rebuildOrder
  else state.mergeUpdatedOrder updatedSlots

def setStatus (slot : Nat) (status : CandidateStatus) : LivePredictionSessionState F :=
  { state with statuses := state.statuses.set slot status }

def setEligibility (slot : Nat) (eligible : Bool) : LivePredictionSessionState F :=
  { state with eligibilities := state.eligibilities.set slot eligible }

def restoreRefreshValue (slot : Nat) (saved : LiveRefreshUndoValue F) :
    LivePredictionSessionState F :=
  { state with
    candidates := state.candidates.set slot
      { state.candidateAt slot with
        queryTimestampSeconds := saved.queryTimestampSeconds
        queryDayOffset := saved.queryDayOffset
        queriedElapsedDays := saved.queriedElapsedDays
        queriedElapsedSeconds := saved.queriedElapsedSeconds }
    predictions := state.predictions.set slot saved.prediction
    statuses := state.statuses.set slot saved.status
    eligibilities := state.eligibilities.set slot saved.eligible }

def restoreValue (slot : Nat) (value : LiveCandidateValue F) : LivePredictionSessionState F :=
  let withoutCurrent :=
    if slot < state.candidates.length then
      state.slotByCardId.erase (state.candidateAt slot).cardId
    else state.slotByCardId
  { state with
    slotByCardId :=
      if value.status = .removed then withoutCurrent
      else withoutCurrent.insert value.candidate.cardId slot
    candidates := state.candidates.set slot value.candidate
    predictions := state.predictions.set slot value.prediction
    normalTargets := state.normalTargets.set slot value.normalTarget
    intradayTargets := state.intradayTargets.set slot value.intradayTarget
    tieBreakers := state.tieBreakers.set slot value.tieBreaker
    randomKeys := state.randomKeys.set slot value.randomKey
    statuses := state.statuses.set slot value.status
    eligibilities := state.eligibilities.set slot value.eligible }

/-- The vector pushes shared by `push_value` and the insertion branch of `upsert_candidates`. -/
def appendSlot (value : LiveCandidateValue F) : LivePredictionSessionState F :=
  { state with
    slotByCardId := state.slotByCardId.insert value.candidate.cardId state.candidates.length
    candidates := state.candidates ++ [value.candidate]
    predictions := state.predictions ++ [value.prediction]
    normalTargets := state.normalTargets ++ [value.normalTarget]
    intradayTargets := state.intradayTargets ++ [value.intradayTarget]
    tieBreakers := state.tieBreakers ++ [value.tieBreaker]
    randomKeys := state.randomKeys ++ [value.randomKey]
    statuses := state.statuses ++ [value.status]
    eligibilities := state.eligibilities ++ [value.eligible]
    updateMarks := state.updateMarks ++ [0] }

def advanceGeneration : LivePredictionSessionState F :=
  { state with generation := state.generation + 1 }

def candidateSlot (cardId : Int64) : Except String Nat :=
  match state.slotByCardId[cardId]? with
  | some slot => .ok slot
  | none => .error s!"live candidate card_id={cardId} does not exist"

end LivePredictionSessionState

end RwkvSrs.LiveSessionState
