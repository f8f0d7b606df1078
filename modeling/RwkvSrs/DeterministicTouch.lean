import RwkvSrs.DeterministicUndo

/-!
What the feature-state methods can touch. Whatever their result, they change
per-identity entries at the identities of their row alone, so a journal captured
for those identities covers them.
-/

namespace RwkvSrs.DeterministicTouch

open Std RwkvSrs.FallibleMethod RwkvSrs.FeatureScaling RwkvSrs.TorchRng
open RwkvSrs.DeterministicState RwkvSrs.DeterministicUndo Float64Ops

set_option autoImplicit false
set_option linter.unusedSectionVars false

variable {F V Value : Type} [Float64Ops F] [Float32Ops V] [FeatureFloat F V]

def Covered (identities : BatchIdentitySets) (ids : ReviewIds) : Prop :=
  ∀ submodule : IdSubmodule, submodule.key ids ∈ identities.of submodule

theorem insert_of (identities : BatchIdentitySets) (ids : ReviewIds) (submodule : IdSubmodule) :
    (identities.insert ids).of submodule = (identities.of submodule).insert (submodule.key ids) := by
  cases submodule <;> rfl

theorem fold_insert_covers (ids : List ReviewIds) (identities : BatchIdentitySets)
    (submodule : IdSubmodule) (id : Int64) :
    id ∈ (ids.foldl BatchIdentitySets.insert identities).of submodule ↔
      (∃ one ∈ ids, submodule.key one = id) ∨ id ∈ identities.of submodule := by
  induction ids generalizing identities with
  | nil => simp
  | cons one ids ih =>
      rw [List.foldl_cons, ih, insert_of]
      simp only [ExtTreeSet.mem_insert, List.mem_cons, exists_eq_or_imp]
      have compared : compare (submodule.key one) id = .eq ↔ submodule.key one = id :=
        LawfulEqCmp.compare_eq_iff_eq
      rw [compared]
      constructor
      · rintro (later | here | before)
        · exact Or.inl (Or.inr later)
        · exact Or.inl (Or.inl here)
        · exact Or.inr before
      · rintro ((here | later) | before)
        · exact Or.inr (Or.inl here)
        · exact Or.inl later
        · exact Or.inr (Or.inr before)

theorem from_ids_covers {ids : List ReviewIds} {one : ReviewIds} (member : one ∈ ids) :
    Covered (BatchIdentitySets.fromIds ids) one := by
  intro submodule
  exact (fold_insert_covers ids _ submodule _).mpr (Or.inl ⟨one, member, rfl⟩)

theorem inserted_field (row : PreparedRow F) (fields : List (String × RowValue F))
    (name : String) :
    (insertFields row fields)[name]? = (fields.reverse.lookup name).or row[name]? := by
  induction fields generalizing row with
  | nil => simp [insertFields]
  | cons field fields ih =>
      obtain ⟨key, value⟩ := field
      have stepped : insertFields row ((key, value) :: fields) =
          insertFields (row.insert key value) fields := rfl
      rw [stepped, ih, List.reverse_cons, List.lookup_append, Option.or_assoc]
      congr 1
      by_cases same : key = name
      · simp [same]
      · have different : (name == key) = false := by
          simpa using Ne.symm same
        simp [ExtTreeMap.getElem?_insert, List.lookup_cons, List.lookup_nil, same, different]

/-- Query and process rows carry the identities of the review alike. -/
theorem lane_row_id (state : FeatureState F V) (input : ReviewInput F) (isQuery : F) (skip : Bool)
    (scaledDuration scaledState : F) (rating : Int64 → F) (submodule : IdSubmodule) :
    (insertFields (addSame state input)
      (laneFields isQuery skip scaledDuration scaledState rating))[submodule.name]? =
        some (.int (submodule.key (normalizedReviewIds input))) := by
  rw [inserted_field, addSame, inserted_field]
  have notLane : (laneFields isQuery skip scaledDuration scaledState rating).reverse.lookup
      submodule.name = none := by
    cases submodule <;> simp [laneFields, IdSubmodule.name, List.lookup_cons, List.lookup_nil]
  have shared : (sharedFields state input).reverse.lookup submodule.name =
      some (.int (submodule.key (reviewValues state input).ids)) := by
    cases submodule <;>
      simp [sharedFields, IdSubmodule.name, List.lookup_cons, IdSubmodule.key]
  rw [notLane, shared]
  rfl

theorem predict_row_id (state : FeatureState F V) (input : ReviewInput F)
    (submodule : IdSubmodule) :
    (preparePredictRow state input)[submodule.name]? =
      some (.int (submodule.key (normalizedReviewIds input))) :=
  lane_row_id state input _ _ _ _ _ submodule

theorem process_row_id {state : FeatureState F V} {input : ReviewInput F} {row : PreparedRow F}
    (prepared : prepareProcessRow state input = .ok row) (submodule : IdSubmodule) :
    row[submodule.name]? = some (.int (submodule.key (normalizedReviewIds input))) := by
  unfold prepareProcessRow at prepared
  cases fields : processFields input with
  | error message =>
      rw [fields] at prepared
      cases prepared
  | ok found =>
      rw [fields] at prepared
      cases prepared
      exact lane_row_id state input _ _ _ _ _ submodule

theorem get_i64_of_int {row : PreparedRow F} {field : String} {id : Int64}
    (found : row[field]? = some (.int id)) : getI64 row field = .ok id := by
  unfold getI64 getField
  rw [found]
  rfl

theorem row_ids_of_int {row : PreparedRow F} {ids : ReviewIds}
    (found : ∀ submodule : IdSubmodule, row[submodule.name]? = some (.int (submodule.key ids))) :
    rowIds (getI64 row) = .ok ids ∧ reviewIdsFromPrepared row = .ok ids := by
  constructor
  · unfold rowIds
    rw [show getI64 row "card_id" = _ from get_i64_of_int (found .cardId),
      show getI64 row "note_id" = _ from get_i64_of_int (found .noteId),
      show getI64 row "deck_id" = _ from get_i64_of_int (found .deckId),
      show getI64 row "preset_id" = _ from get_i64_of_int (found .presetId)]
    rfl
  · unfold reviewIdsFromPrepared rowIds preparedI64
    rw [show row["card_id"]? = _ from found .cardId, show row["note_id"]? = _ from found .noteId,
      show row["deck_id"]? = _ from found .deckId, show row["preset_id"]? = _ from found .presetId]
    rfl

/-- Every identity the row names has an entry in the journal. -/
def RowCovered (identities : BatchIdentitySets) (row : PreparedRow F) : Prop :=
  ∀ (submodule : IdSubmodule) (id : Int64),
    getI64 row submodule.name = .ok id → id ∈ identities.of submodule

theorem row_covered {identities : BatchIdentitySets} {row : PreparedRow F} {ids : ReviewIds}
    (covered : Covered identities ids)
    (found : ∀ submodule : IdSubmodule, row[submodule.name]? = some (.int (submodule.key ids))) :
    RowCovered identities row := by
  intro submodule id read
  rw [get_i64_of_int (found submodule)] at read
  cases read
  exact covered submodule

variable {identities : BatchIdentitySets}

abbrev Touches (identities : BatchIdentitySets) (step : Method (FeatureState F V) Value) : Prop :=
  Keeps (AgreeOutside identities) step

theorem touches_bind {Next : Type} {step : Method (FeatureState F V) Value}
    {next : Value → Method (FeatureState F V) Next} (first : Touches identities step)
    (rest : ∀ value, Touches identities (next value)) : Touches identities (step >>= next) :=
  keeps_bind (fun _ _ _ before after => before.trans after) first rest

theorem touches_lift (result : Except String Value) :
    Touches identities (lift result : Method (FeatureState F V) Value) :=
  keeps_lift AgreeOutside.refl result

theorem agree_of_rng (state : FeatureState F V) (rng : TorchMt19937) :
    AgreeOutside identities state { state with idRng := rng } := by
  constructor <;> intros <;> rfl

theorem touches_draw (dim : Nat) :
    Touches identities (drawEncoding dim : Method (FeatureState F V) (List V)) := by
  intro state
  exact agree_of_rng state _

theorem touches_insert_encoding {submodule : IdSubmodule} {id : Int64}
    (covered : id ∈ identities.of submodule) (encoding : List V) :
    Touches identities
      (update (insertEncoding submodule id encoding) : Method (FeatureState F V) Unit) := by
  apply keeps_update
  intro state
  have agree : AgreeOutside identities state state := AgreeOutside.refl state
  refine { agree with encodings := ?_ }
  intro other one outside
  by_cases same : other = submodule
  · subst same
    have different : ¬ id = one := fun equal => outside (equal ▸ covered)
    simp [insertEncoding, ExtTreeMap.getElem?_insert, different]
  · simp [insertEncoding, same]

theorem touches_encoding_of {submodule : IdSubmodule} {id : Int64}
    (covered : id ∈ identities.of submodule) (mutateIdEncodings : Bool) :
    Touches identities
      (encodingOf submodule id mutateIdEncodings : Method (FeatureState F V) (List V)) := by
  apply touches_bind (keeps_current AgreeOutside.refl)
  intro state
  cases (state.idEncodings submodule)[id]? with
  | some encoding => exact keeps_pure AgreeOutside.refl encoding
  | none =>
      apply touches_bind (touches_draw submodule.dim)
      intro encoding
      cases mutateIdEncodings with
      | false => exact keeps_pure AgreeOutside.refl encoding
      | true =>
          apply touches_bind (touches_insert_encoding covered encoding)
          intro _
          exact keeps_pure AgreeOutside.refl encoding

theorem touches_feature_vector {row : PreparedRow F} (covered : RowCovered identities row)
    (mutateIdEncodings : Bool) :
    Touches identities
      (featureVector row mutateIdEncodings : Method (FeatureState F V) (List V)) := by
  apply touches_bind (touches_lift _)
  intro features
  apply touches_bind
  · apply keeps_foldlM AgreeOutside.refl (fun _ _ _ before after => before.trans after)
    intro features submodule _
    apply keeps_lift_bind AgreeOutside.refl
    intro id read
    apply touches_bind (touches_encoding_of (covered submodule id read) mutateIdEncodings)
    intro encoding
    exact keeps_pure AgreeOutside.refl _
  · intro features
    apply touches_bind (touches_lift _)
    intro dayFeatures
    exact keeps_pure AgreeOutside.refl _

theorem touches_restoring_rng (rng : Option TorchMt19937) {step : Method (FeatureState F V) Value}
    (touches : Touches identities step) : Touches identities (restoringRng rng step) := by
  intro state
  have stepped := touches state
  unfold restoringRng
  match step state, rng, stepped with
  | (.error (.panic _), _), _, stepped => exact stepped
  | (.error (.error _), _), some rng, stepped => exact stepped.trans (agree_of_rng _ rng)
  | (.error (.error _), _), none, stepped => exact stepped
  | (.ok _, _), some rng, stepped => exact stepped.trans (agree_of_rng _ rng)
  | (.ok _, _), none, stepped => exact stepped

theorem touches_predict_feature_vector {row : PreparedRow F}
    (covered : RowCovered identities row) :
    Touches identities (predictFeatureVector row : Method (FeatureState F V) (List V)) := by
  apply touches_bind (keeps_current AgreeOutside.refl)
  intro state
  apply touches_bind (touches_lift _)
  intro restore
  exact touches_restoring_rng _ (touches_feature_vector covered false)

theorem agree_of_recurrent_ids {ids : ReviewIds} (covered : Covered identities ids)
    (state : FeatureState F V) : AgreeOutside identities state (recordRecurrentIds ids state) := by
  have agree : AgreeOutside identities state state := AgreeOutside.refl state
  have inserted : ∀ (set keys : ExtTreeSet Int64) (key : Int64), key ∈ keys →
      ∀ id, id ∉ keys → (id ∈ set ↔ id ∈ set.insert key) := by
    intro set keys key member id outside
    have different : ¬ key = id := fun equal => outside (equal ▸ member)
    simp [different]
  exact { agree with
    cardStates := inserted _ _ _ (covered .cardId)
    noteStates := inserted _ _ _ (covered .noteId)
    deckStates := inserted _ _ _ (covered .deckId)
    presetStates := inserted _ _ _ (covered .presetId) }

theorem agree_of_processed_values {cardId : Int64} (covered : cardId ∈ identities.cardIds)
    (elapsedDays elapsedSeconds dayOffset : F) (state : FeatureState F V) :
    AgreeOutside identities state
      (recordProcessedValues cardId elapsedDays elapsedSeconds dayOffset state) := by
  have agree : AgreeOutside identities state state := AgreeOutside.refl state
  have different : ∀ id, id ∉ identities.cardIds → ¬ cardId = id :=
    fun id outside equal => outside (equal ▸ covered)
  have inserted : ∀ {Entry : Type} (map : ExtTreeMap Int64 Entry) (entry : Entry),
      ∀ id, id ∉ identities.cardIds → map[id]? = (map.insert cardId entry)[id]? := by
    intro Entry map entry id outside
    simp [ExtTreeMap.getElem?_insert, different id outside]
  refine { agree with
    cardSet := ?_
    lastNewCards := inserted _ _
    lastI := inserted _ _
    firstDayOffsets := ?_
    elapsedDays := inserted _ _
    elapsedSeconds := inserted _ _ }
  · intro id outside
    simp [recordProcessedValues, different id outside]
  · intro id outside
    by_cases known : cardId ∈ state.cardSet
    · simp [recordProcessedValues, known]
    · simp only [recordProcessedValues, known, if_false]
      exact inserted _ _ id outside

theorem touches_record_recurrent {row : PreparedRow F}
    (covered : ∀ ids, rowIds (getI64 row) = .ok ids → Covered identities ids) :
    Touches identities (recordRecurrentStateUpdate row : Method (FeatureState F V) Unit) := by
  apply keeps_lift_bind AgreeOutside.refl
  intro ids read
  exact keeps_update (agree_of_recurrent_ids (covered ids read))

theorem touches_record_processed {row : PreparedRow F}
    (covered : ∀ cardId, getI64 row "card_id" = .ok cardId → cardId ∈ identities.cardIds) :
    Touches identities (recordProcessedRow row : Method (FeatureState F V) Unit) := by
  apply keeps_lift_bind AgreeOutside.refl
  intro cardId read
  apply touches_bind (touches_lift _)
  intro elapsedDays
  apply touches_bind (touches_lift _)
  intro elapsedSeconds
  apply touches_bind (touches_lift _)
  intro dayOffset
  exact keeps_update (agree_of_processed_values (covered cardId read) _ _ _)

/-- The part of a prepass turn that follows the preparation of the process row. -/
theorem touches_process_row {row : PreparedRow F} {ids : ReviewIds}
    (covered : Covered identities ids)
    (found : ∀ submodule : IdSubmodule, row[submodule.name]? = some (.int (submodule.key ids)))
    {Next : Type} (finish : List V → Next) :
    Touches identities (do
      let features ← processFeatureVector row
      recordRecurrentStateUpdate row
      recordProcessedRow row
      return finish features : Method (FeatureState F V) Next) := by
  apply touches_bind (touches_feature_vector (row_covered covered found) true)
  intro features
  apply touches_bind
  · apply touches_record_recurrent
    intro read same
    rw [(row_ids_of_int found).1] at same
    cases same
    exact covered
  intro _
  apply touches_bind
  · apply touches_record_processed
    intro cardId read
    exact row_covered covered found .cardId cardId read
  intro _
  exact keeps_pure AgreeOutside.refl _

theorem touches_feature_prepass_step {input : ReviewInput F}
    (covered : Covered identities (normalizedReviewIds input)) :
    Touches identities
      (featurePrepassStep input : Method (FeatureState F V) (BulkFeatureStep V)) := by
  apply touches_bind (keeps_current AgreeOutside.refl)
  intro state
  apply touches_bind (touches_lift _)
  intro ids
  apply touches_bind
    (touches_predict_feature_vector (row_covered covered (predict_row_id state input)))
  intro predictFeatures
  apply touches_bind (keeps_current AgreeOutside.refl)
  intro reached
  apply keeps_lift_bind AgreeOutside.refl
  intro row prepared
  exact touches_process_row covered (process_row_id prepared) _

theorem touches_state_build_step {input : ReviewInput F}
    (covered : Covered identities (normalizedReviewIds input)) :
    Touches identities
      (stateBuildStep input : Method (FeatureState F V) (ReviewIds × List V)) := by
  apply touches_bind (keeps_current AgreeOutside.refl)
  intro state
  apply keeps_lift_bind AgreeOutside.refl
  intro row prepared
  apply touches_bind (touches_lift _)
  intro ids
  exact touches_process_row covered (process_row_id prepared) _

/-- A failing run over some reviews is undone by the journal captured before it. -/
theorem journal_restores {Turn : Type} (ids : List ReviewIds) {state : FeatureState F V}
    {step : Method (FeatureState F V) Turn}
    (touches : Touches (BatchIdentitySets.fromIds ids) step) :
    (BatchDeterministicUndoFrame.capture state ids).restore (step state).2 = state :=
  restore_capture (touches state)

end RwkvSrs.DeterministicTouch
