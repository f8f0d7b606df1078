import RwkvSrs.LiveSessionState

/-!
Refresh membership (which slots a refresh re-predicts, in which transport
order) and the final selection over the ranked slots.
-/

namespace RwkvSrs.LiveSessionSelection

open Std RwkvSrs.LiveTypes RwkvSrs.LiveSessionState SessionFloat

set_option autoImplicit false

variable {F : Type} [SessionFloat F]

def selectSlot (state : LivePredictionSessionState F) (slot : Nat) :
    LivePredictionSessionState F :=
  { state with
    selectedScratch := state.selectedScratch ++ [slot]
    updateMarks := state.updateMarks.set slot state.updateMarkGeneration }

/-- One pass over `slots`; once the refresh limit is reached the pass is over. -/
def selectPass (wanted : LivePredictionSessionState F → Nat → Bool) (slots : List Nat)
    (state : LivePredictionSessionState F) : LivePredictionSessionState F :=
  slots.foldl
    (fun current slot =>
      if current.refreshLimit ≤ current.selectedScratch.length then current
      else if wanted current slot then selectSlot current slot
      else current)
    state

/-- Pending slots first in slot order, then the included slots in rank order. -/
def selectRefreshMembershipBy (isExcluded : Nat → Bool) (state : LivePredictionSessionState F) :
    LivePredictionSessionState F :=
  let started := { state with selectedScratch := [] }.advanceUpdateMark
  let pending := selectPass
    (fun current slot => current.status slot == .pendingRefresh && !isExcluded slot)
    (List.range state.candidateCount) started
  let chosen := selectPass
    (fun current slot =>
      (current.status slot).isIncluded && !isExcluded slot && !current.marked slot)
    state.orderedSlots pending
  { chosen with
    transportSlots := (List.range chosen.candidateCount).filter fun slot => chosen.marked slot }

def selectRefreshMembership (state : LivePredictionSessionState F)
    (excludedCardIds : List Int64) : LivePredictionSessionState F :=
  if excludedCardIds.isEmpty then selectRefreshMembershipBy (fun _ => false) state
  else
    let excludedSlots := excludedCardIds.filterMap fun cardId => state.slotByCardId[cardId]?
    selectRefreshMembershipBy (fun slot => excludedSlots.contains slot) state

def commitRefreshDebug (state : LivePredictionSessionState F) : LivePredictionSessionState F :=
  { state with
    selectedScratch := state.lastMembershipSlots
    lastMembershipSlots := state.selectedScratch
    transportSlots := state.lastTransportSlots
    lastTransportSlots := state.transportSlots }

/-- Upper bound on the turns of the boundary loop: `next_up` meets every f64 at
most once before it stays at infinity. -/
def boundaryTurns : Nat := 2 ^ 64

def raiseRequired (prediction target : F) : Nat → F → F
  | 0, required => required
  | turns + 1, required =>
      if le (clampUnit (add target required)) prediction then
        raiseRequired prediction target turns (nextUp required)
      else required

/-- The least retention extra found by the search of `next_boundary`. -/
def boundaryRequirement (prediction target : F) : F :=
  let required := sub (nextUp prediction) target
  let required := if le required (sub prediction target) then nextUp required else required
  raiseRequired prediction target boundaryTurns required

def nextBoundary (state : LivePredictionSessionState F) (slot : Nat) : Option F :=
  if !(state.status slot).predictionIsUsable then none
  else
    let prediction := state.prediction slot
    let target := state.applicableTarget slot
    if !isFinite prediction || !isFinite target || le one prediction then none
    else
      let required := boundaryRequirement prediction target
      if lt state.retentionExtra required then some required else none

structure FinalSelection (F : Type) where
  eligibleCount : Nat
  activeCount : Nat
  selected : List (LiveSelectionValue F)
  nextRetentionExtra : Option F

def finalSelectionStep (state : LivePredictionSessionState F) (selectLimit : Nat)
    (isExcluded : Nat → Bool) (current : FinalSelection F) (slot : Nat) : FinalSelection F :=
  if !(state.status slot).isIncluded || isExcluded slot then current
  else if state.eligibility slot then
    { current with
      activeCount := current.activeCount + 1
      eligibleCount := current.eligibleCount + 1
      selected :=
        if current.selected.length < selectLimit then
          current.selected ++
            [⟨(state.candidateAt slot).cardId, state.prediction slot, state.applicableTarget slot⟩]
        else current.selected }
  else
    { current with
      activeCount := current.activeCount + 1
      nextRetentionExtra :=
        match nextBoundary state slot with
        | none => current.nextRetentionExtra
        | some boundary =>
            match current.nextRetentionExtra with
            | some smallest => some (SessionFloat.min smallest boundary)
            | none => some boundary }

def finalSelectionBy (state : LivePredictionSessionState F) (selectLimit : Nat)
    (isExcluded : Nat → Bool) : FinalSelection F :=
  state.orderedSlots.foldl (finalSelectionStep state selectLimit isExcluded) ⟨0, 0, [], none⟩

def finalSelectionNoExclusion (state : LivePredictionSessionState F) (selectLimit : Nat) :
    FinalSelection F :=
  finalSelectionBy state selectLimit fun _ => false

def finalSelectionMarkedExclusion (state : LivePredictionSessionState F) (selectLimit : Nat)
    (excludedCardIds : List Int64) : LivePredictionSessionState F × FinalSelection F :=
  let state := state.advanceUpdateMark
  let state := state.markSlots (excludedCardIds.filterMap fun cardId => state.slotByCardId[cardId]?)
  (state, finalSelectionBy state selectLimit fun slot => state.marked slot)

/-- The choice every caller of the final selection makes. -/
def selectFinal (state : LivePredictionSessionState F) (selectLimit : Nat)
    (excludedCardIds : List Int64) : LivePredictionSessionState F × FinalSelection F :=
  if excludedCardIds.isEmpty then (state, finalSelectionNoExclusion state selectLimit)
  else finalSelectionMarkedExclusion state selectLimit excludedCardIds

def refreshOutput (generation : UInt64) (refreshedCount : Nat) (selection : FinalSelection F) :
    LiveRefreshOutput F where
  generation := generation
  refreshedCount := refreshedCount
  eligibleCount := selection.eligibleCount
  activeCount := selection.activeCount
  selected := selection.selected
  nextRetentionExtra := selection.nextRetentionExtra

def initialOutput (state : LivePredictionSessionState F) (selectLimit : Nat) :
    LiveRefreshOutput F :=
  refreshOutput state.generation state.candidateCount (finalSelectionNoExclusion state selectLimit)

def currentSelectionOutput (state : LivePredictionSessionState F) (selectLimit : Nat)
    (excludedCardIds : List Int64) : LivePredictionSessionState F × LiveRefreshOutput F :=
  let (next, selection) := selectFinal state selectLimit excludedCardIds
  (next, refreshOutput state.generation 0 selection)

end RwkvSrs.LiveSessionSelection
