import RwkvSrs.BatchAtomicity
import RwkvSrs.LockstepRules
import RwkvSrs.MergeCopies

/-!
A model laid over a backing one. The layer shows its own entries and, outside
some identities, those of the backing model. A review of these identities reads
the same through the layer as without it, and what it writes stays in the layer.
-/

namespace RwkvSrs.ScopedLayers

open Std FallibleMethod LockstepRules FeatureScaling ReviewInput TorchRng DeterministicState
open DeterministicUndo DeterministicTouch ModuleState NativeRnnState BatchJournal ReviewProcessing
open BatchAtomicity MergeCopies

set_option autoImplicit false
set_option linter.unusedSectionVars false

section Entries

variable {Value : Type} {selected backing current : ExtTreeSet Int64}
  {lower upper : ExtTreeMap Int64 Value} {identity : Int64}

theorem laid_entry (inside : identity ∈ selected) :
    (overlayMap selected lower upper)[identity]? = upper[identity]? := by
  rw [overlay_entry, if_pos inside, Option.or_none]

theorem laid_held (inside : identity ∈ selected) :
    identity ∈ overlayMap selected lower upper ↔ identity ∈ upper := by
  rw [ExtTreeMap.mem_iff_isSome_getElem?, ExtTreeMap.mem_iff_isSome_getElem?, laid_entry inside]

theorem laid_insert (identity : Int64) (value : Value) :
    overlayMap selected lower (upper.insert identity value) =
      (overlayMap selected lower upper).insert identity value := by
  apply ExtTreeMap.ext_getElem?
  intro other
  rw [overlay_entry, ExtTreeMap.getElem?_insert, ExtTreeMap.getElem?_insert, overlay_entry]
  by_cases same : compare identity other = .eq
  · rw [if_pos same, if_pos same, Option.some_or]
  · rw [if_neg same, if_neg same]

theorem laid_erase (inside : identity ∈ selected) :
    overlayMap selected lower (upper.erase identity) =
      (overlayMap selected lower upper).erase identity := by
  apply ExtTreeMap.ext_getElem?
  intro other
  rw [overlay_entry, ExtTreeMap.getElem?_erase, ExtTreeMap.getElem?_erase, overlay_entry]
  by_cases same : compare identity other = .eq
  · have equal : identity = other := compare_eq_iff_eq.mp same
    subst equal
    rw [if_pos same, if_pos same, if_pos inside, Option.or_none]
  · rw [if_neg same, if_neg same]

theorem laid_restored (inside : identity ∈ selected) (previous : Option Value) :
    overlayMap selected lower (restoreMapEntry upper identity previous) =
      restoreMapEntry (overlayMap selected lower upper) identity previous := by
  cases previous with
  | none => exact laid_erase inside
  | some value => exact laid_insert identity value

theorem laid_set_member (identity : Int64) : identity ∈ overlaySet selected backing current ↔
    (identity ∈ backing ∧ identity ∉ selected) ∨ identity ∈ current := by
  rw [overlaySet, ExtTreeSet.mem_union_iff]
  simp [outside]

theorem laid_member (inside : identity ∈ selected) :
    identity ∈ overlaySet selected backing current ↔ identity ∈ current := by
  rw [laid_set_member]
  simp [inside]

theorem laid_set_insert (identity : Int64) :
    overlaySet selected backing (current.insert identity) =
      (overlaySet selected backing current).insert identity := by
  apply ExtTreeSet.ext_mem
  intro other
  rw [laid_set_member, ExtTreeSet.mem_insert, ExtTreeSet.mem_insert, laid_set_member]
  exact or_left_comm

theorem laid_set_erase (inside : identity ∈ selected) :
    overlaySet selected backing (current.erase identity) =
      (overlaySet selected backing current).erase identity := by
  apply ExtTreeSet.ext_mem
  intro other
  rw [laid_set_member, ExtTreeSet.mem_erase, ExtTreeSet.mem_erase, laid_set_member]
  by_cases same : identity = other
  · subst same
    simp [inside]
  · simp [same]

theorem laid_set_restored (inside : identity ∈ selected) (wasPresent : Bool) :
    overlaySet selected backing (restoreSetEntry current identity wasPresent) =
      restoreSetEntry (overlaySet selected backing current) identity wasPresent := by
  cases wasPresent with
  | false => exact laid_set_erase inside
  | true => exact laid_set_insert identity

end Entries

variable {F V Logits Rows Value : Type}

def layEncodings (identities : BatchIdentitySets) (backing current : IdEncodings V) :
    IdEncodings V :=
  fun submodule =>
    overlayMap (identities.of submodule) (backing submodule) (current submodule)

def layKeys (identities : BatchIdentitySets) (backing current : RecurrentStateKeys) :
    RecurrentStateKeys where
  cardStates := overlaySet identities.cardIds backing.cardStates current.cardStates
  noteStates := overlaySet identities.noteIds backing.noteStates current.noteStates
  deckStates := overlaySet identities.deckIds backing.deckStates current.deckStates
  presetStates := overlaySet identities.presetIds backing.presetStates current.presetStates
  globalState := current.globalState

/-- Entries of the backing state outside the identities under those of the current one, whose
counters, days and generator show. -/
def layFeatures (identities : BatchIdentitySets) (backing current : FeatureState F V) :
    FeatureState F V :=
  { current with
    cardSet := overlaySet identities.cardIds backing.cardSet current.cardSet
    lastNewCards := overlayMap identities.cardIds backing.lastNewCards current.lastNewCards
    lastI := overlayMap identities.cardIds backing.lastI current.lastI
    card2firstDayOffset :=
      overlayMap identities.cardIds backing.card2firstDayOffset current.card2firstDayOffset
    card2elapsedDaysCumulative := overlayMap identities.cardIds
      backing.card2elapsedDaysCumulative current.card2elapsedDaysCumulative
    card2elapsedSecondsCumulative := overlayMap identities.cardIds
      backing.card2elapsedSecondsCumulative current.card2elapsedSecondsCumulative
    idEncodings := layEncodings identities backing.idEncodings current.idEncodings
    recurrentStateKeys := layKeys identities backing.recurrentStateKeys current.recurrentStateKeys }

def layStates (identities : BatchIdentitySets) (backing current : NativeRnn V) : NativeRnn V :=
  { current with
    states := fun entity =>
      overlayMap (moduleIds identities entity) (backing.states entity) (current.states entity) }

def FeaturesLaid (identities : BatchIdentitySets) (backing part whole : FeatureState F V) : Prop :=
  whole = layFeatures identities backing part

structure StatesLaid (identities : BatchIdentitySets) (backing part whole : NativeRnn V) : Prop where
  laid : whole = layStates identities backing part
  materialized : Materialized part

structure ModelLaid (identities : BatchIdentitySets) (backing part whole : ModelState F V) :
    Prop where
  features : FeaturesLaid identities backing.1 part.1 whole.1
  states : StatesLaid identities backing.2 part.2 whole.2

variable {identities : BatchIdentitySets}

section Features

variable [Float64Ops F] [Float32Ops V] [FeatureFloat F V] {backing : FeatureState F V}
  {input : ReviewInput F} {row : PreparedRow F} {ids : ReviewIds}

abbrev InStep (identities : BatchIdentitySets) (backing : FeatureState F V)
    (step : Method (FeatureState F V) Value) : Prop :=
  Lockstep (FeaturesLaid identities backing) step step

theorem laid_encoding {submodule : IdSubmodule} {id : Int64} (state : FeatureState F V)
    (inside : id ∈ identities.of submodule) :
    ((layFeatures identities backing state).idEncodings submodule)[id]? =
      (state.idEncodings submodule)[id]? := laid_entry inside

theorem laid_values (state : FeatureState F V) (inside : input.cardId ∈ identities.cardIds) :
    reviewValues (layFeatures identities backing state) input = reviewValues state input := by
  have known : input.cardId ∈ overlaySet identities.cardIds backing.cardSet state.cardSet ↔
      input.cardId ∈ state.cardSet := laid_member inside
  unfold reviewValues layFeatures
  dsimp only
  rw [laid_entry inside, laid_entry inside, laid_entry inside, laid_entry inside, laid_entry inside]
  simp only [known]

theorem laid_shared (state : FeatureState F V) (inside : input.cardId ∈ identities.cardIds) :
    addSame (layFeatures identities backing state) input = addSame state input := by
  unfold addSame sharedFields
  rw [laid_values state inside]

theorem laid_predict_row (state : FeatureState F V) (inside : input.cardId ∈ identities.cardIds) :
    preparePredictRow (layFeatures identities backing state) input =
      preparePredictRow state input := by
  unfold preparePredictRow
  rw [laid_shared state inside]

theorem laid_process_row (state : FeatureState F V) (inside : input.cardId ∈ identities.cardIds) :
    prepareProcessRow (layFeatures identities backing state) input =
      prepareProcessRow state input := by
  unfold prepareProcessRow
  rw [laid_shared state inside]

theorem lockstep_draw (dim : Nat) :
    InStep identities backing (drawEncoding dim : Method (FeatureState F V) (List V)) := by
  intro part whole laid
  subst laid
  exact ⟨rfl, rfl⟩

theorem lockstep_insert_encoding (submodule : IdSubmodule) (id : Int64) (encoding : List V) :
    InStep identities backing
      (update (insertEncoding submodule id encoding) : Method (FeatureState F V) Unit) := by
  apply lockstep_update
  intro part whole laid
  subst laid
  have encodings : (insertEncoding submodule id encoding
      (layFeatures identities backing part)).idEncodings =
        layEncodings identities backing.idEncodings
          (insertEncoding submodule id encoding part).idEncodings := by
    funext other
    by_cases same : other = submodule
    · subst same
      simp only [insertEncoding, layEncodings, if_pos]
      exact (laid_insert id encoding).symm
    · simp only [insertEncoding, layEncodings, if_neg same]
      rfl
  change _ = { layFeatures identities backing part with
    idEncodings := layEncodings identities backing.idEncodings
      (insertEncoding submodule id encoding part).idEncodings }
  rw [← encodings]
  rfl

theorem lockstep_encoding {submodule : IdSubmodule} {id : Int64}
    (inside : id ∈ identities.of submodule) (mutateIdEncodings : Bool) :
    InStep identities backing
      (encodingOf submodule id mutateIdEncodings : Method (FeatureState F V) (List V)) := by
  apply lockstep_read
  intro part whole laid
  subst laid
  rw [laid_encoding part inside]
  cases (part.idEncodings submodule)[id]? with
  | some encoding => exact lockstep_pure encoding
  | none =>
      apply lockstep_bind (lockstep_draw submodule.dim)
      intro encoding
      cases mutateIdEncodings with
      | false => exact lockstep_pure encoding
      | true =>
          apply lockstep_bind (lockstep_insert_encoding submodule id encoding)
          intro _
          exact lockstep_pure encoding

theorem lockstep_feature_vector (covered : RowCovered identities row) (mutateIdEncodings : Bool) :
    InStep identities backing
      (featureVector row mutateIdEncodings : Method (FeatureState F V) (List V)) := by
  apply lockstep_bind (lockstep_lift _)
  intro features
  apply lockstep_bind
  · apply lockstep_foldlM
    intro features submodule _
    apply lockstep_lift_bind
    intro id read
    apply lockstep_bind (lockstep_encoding (covered submodule id read) mutateIdEncodings)
    intro encoding
    exact lockstep_pure _
  · intro features
    apply lockstep_bind (lockstep_lift _)
    intro dayFeatures
    exact lockstep_pure _

theorem laid_missing (state : FeatureState F V) (covered : RowCovered identities row)
    (submodules : List IdSubmodule) :
    missingEncoding (layFeatures identities backing state) row submodules =
      missingEncoding state row submodules := by
  induction submodules with
  | nil => rfl
  | cons submodule rest ih =>
      unfold missingEncoding
      cases read : getI64 row submodule.name with
      | error message => rfl
      | ok id =>
          have held : id ∈ (layFeatures identities backing state).idEncodings submodule ↔
              id ∈ state.idEncodings submodule := laid_held (covered submodule id read)
          change (if id ∈ (layFeatures identities backing state).idEncodings submodule then
              missingEncoding (layFeatures identities backing state) row rest else .ok true) =
            (if id ∈ state.idEncodings submodule then missingEncoding state row rest else .ok true)
          rw [ih]
          simp only [held]

theorem lockstep_restoring_rng (rng : Option TorchMt19937)
    {step : Method (FeatureState F V) Value} (lockstep : InStep identities backing step) :
    InStep identities backing (restoringRng rng step) := by
  intro part whole laid
  obtain ⟨same, reached⟩ := lockstep part whole laid
  cases left : step part with
  | mk result state =>
      cases right : step whole with
      | mk result' state' =>
          rw [left, right] at same reached
          have equal : result = result' := same
          have related : state' = layFeatures identities backing state := reached
          subst equal
          subst related
          unfold restoringRng
          rw [left, right]
          cases result with
          | error failure =>
              cases failure with
              | error message =>
                  cases rng with
                  | none => exact ⟨rfl, rfl⟩
                  | some saved => exact ⟨rfl, rfl⟩
              | panic message => exact ⟨rfl, rfl⟩
          | ok value =>
              cases rng with
              | none => exact ⟨rfl, rfl⟩
              | some saved => exact ⟨rfl, rfl⟩

theorem lockstep_predict_vector (covered : RowCovered identities row) :
    InStep identities backing (predictFeatureVector row : Method (FeatureState F V) (List V)) := by
  apply lockstep_read
  intro part whole laid
  subst laid
  have missing : skipNeedsRngRestore (layFeatures identities backing part) row true =
      skipNeedsRngRestore part row true := laid_missing part covered idSubmodules
  rw [missing]
  apply lockstep_bind (lockstep_lift _)
  intro restore
  exact lockstep_restoring_rng _ (lockstep_feature_vector covered false)

theorem lockstep_record_recurrent :
    InStep identities backing
      (recordRecurrentStateUpdate row : Method (FeatureState F V) Unit) := by
  apply lockstep_bind (lockstep_lift _)
  intro ids
  apply lockstep_update
  intro part whole laid
  subst laid
  unfold FeaturesLaid recordRecurrentIds layFeatures layKeys
  dsimp only
  rw [laid_set_insert, laid_set_insert, laid_set_insert, laid_set_insert]

theorem laid_elapsed {map backingMap : ExtTreeMap Int64 F} {cardId : Int64} (elapsed : F)
    (inside : cardId ∈ identities.cardIds) :
    addElapsed (overlayMap identities.cardIds backingMap map) cardId elapsed =
      overlayMap identities.cardIds backingMap (addElapsed map cardId elapsed) := by
  unfold addElapsed
  rw [laid_entry inside, laid_insert]

theorem laid_processed {cardId : Int64} (inside : cardId ∈ identities.cardIds)
    (elapsedDays elapsedSeconds dayOffset : F) (state : FeatureState F V) :
    recordProcessedValues cardId elapsedDays elapsedSeconds dayOffset
        (layFeatures identities backing state) =
      layFeatures identities backing
        (recordProcessedValues cardId elapsedDays elapsedSeconds dayOffset state) := by
  have known : cardId ∈ overlaySet identities.cardIds backing.cardSet state.cardSet ↔
      cardId ∈ state.cardSet := laid_member inside
  unfold recordProcessedValues layFeatures
  dsimp only
  rw [laid_elapsed elapsedDays inside, laid_elapsed elapsedSeconds inside, laid_insert, laid_insert,
    laid_set_insert]
  by_cases held : cardId ∈ state.cardSet
  · simp only [known, if_pos held]
  · simp only [known, if_neg held, laid_insert]

theorem lockstep_record_processed
    (covered : ∀ cardId, getI64 row "card_id" = .ok cardId → cardId ∈ identities.cardIds) :
    InStep identities backing (recordProcessedRow row : Method (FeatureState F V) Unit) := by
  apply lockstep_lift_bind
  intro cardId read
  apply lockstep_bind (lockstep_lift _)
  intro elapsedDays
  apply lockstep_bind (lockstep_lift _)
  intro elapsedSeconds
  apply lockstep_bind (lockstep_lift _)
  intro dayOffset
  apply lockstep_update
  intro part whole laid
  subst laid
  exact laid_processed (covered cardId read) _ _ _ part

end Features

end RwkvSrs.ScopedLayers
