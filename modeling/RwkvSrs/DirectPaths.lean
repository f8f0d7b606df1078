import RwkvSrs.DirectAgreement
import RwkvSrs.ExactNumbers

/-!
The direct paths of single reviews, of lists and of batched predictions. They
succeed where the prepared rows do and have their size, with the same values,
identities and state.
-/

namespace RwkvSrs.DirectPaths

open Std RwkvSrs.FallibleMethod RwkvSrs.FeatureScaling RwkvSrs.ReviewInput
open RwkvSrs.DeterministicState RwkvSrs.DeterministicUndo RwkvSrs.DeterministicTouch
open RwkvSrs.BulkProcessing RwkvSrs.DirectFeatures RwkvSrs.DirectAgreement Float64Ops FeatureFloat

set_option autoImplicit false
set_option linter.unusedSectionVars false

variable {F V : Type} [Float64Ops F] [Float32Ops V]

section Direct

variable [FeatureFloat F V] {ids : ReviewIds} {submodules : List IdSubmodule}
  {state reached : FeatureState F V}

theorem query_encoding (includeQuery : Bool) (features : List V) (submodule : IdSubmodule) :
    queryEncoding (F := F) ids includeQuery features submodule = (do
      let encoding ← encodingOf submodule (submodule.key ids) true
      return if includeQuery then features ++ encoding else features) := by
  funext state
  have lookup : ∀ {reached : FeatureState F V} {encoding : List V},
      (reached.idEncodings submodule)[submodule.key ids]? = some encoding →
      (do
        if includeQuery then
          let encoding ← storedEncoding submodule (submodule.key ids)
            "identity encoding inserted above"
          return features ++ encoding
        else return features : Method (FeatureState F V) (List V)) reached =
          (.ok (if includeQuery then features ++ encoding else features), reached) := by
    intro reached encoding found
    cases includeQuery with
    | false => rfl
    | true =>
        have read : storedEncoding submodule (submodule.key ids)
            "identity encoding inserted above" reached = (.ok encoding, reached) := by
          unfold storedEncoding
          rw [bind_of_ok (current_apply reached), found]
          rfl
        exact bind_of_ok read
  cases found : (state.idEncodings submodule)[submodule.key ids]? with
  | some encoding =>
      have kept : drawMissing submodule (submodule.key ids) state = (.ok (), state) := by
        unfold drawMissing
        rw [bind_of_ok (current_apply state), found]
        rfl
      unfold queryEncoding
      rw [bind_of_ok kept, lookup found, bind_of_ok (encoding_of_stored true found)]
      rfl
  | none =>
      match draw : drawEncoding submodule.dim state with
      | (.error failure, drawn) =>
          have stopped : drawMissing submodule (submodule.key ids) state =
              (.error failure, drawn) := by
            unfold drawMissing
            rw [bind_of_ok (current_apply state), found]
            exact bind_of_error draw
          unfold queryEncoding
          rw [bind_of_error stopped, bind_of_error (encoding_of_failed true found draw)]
      | (.ok encoding, drawn) =>
          have stored : drawMissing submodule (submodule.key ids) state =
              (.ok (), insertEncoding submodule (submodule.key ids) encoding drawn) := by
            unfold drawMissing
            rw [bind_of_ok (current_apply state), found]
            exact bind_of_ok draw
          have ran := encoding_of_drawn true found draw
          rw [if_pos rfl] at ran
          unfold queryEncoding
          rw [bind_of_ok stored, lookup (encoding_of_ok ran).1, bind_of_ok ran]
          rfl

theorem query_fold (includeQuery : Bool) (features : List V) :
    submodules.foldlM (queryEncoding (F := F) ids includeQuery) features = (do
      let encodings ← encodeAll ids true submodules
      return if includeQuery then features ++ encodings else features) := by
  induction submodules generalizing features with
  | nil => cases includeQuery <;> simp [encodeAll]
  | cons submodule submodules ih =>
      simp only [List.foldlM_cons, encodeAll, query_encoding, bind_assoc, pure_bind, ih]
      cases includeQuery <;> simp

theorem process_fold (stored : Stored reached ids submodules) (features : List V) :
    submodules.foldlM (processEncoding ids) features reached =
      (.ok (features ++ storedEncodings reached ids submodules), reached) := by
  induction submodules generalizing features with
  | nil => simp [storedEncodings]
  | cons submodule submodules ih =>
      obtain ⟨encoding, found⟩ := stored submodule (by simp)
      have read : storedEncoding submodule (submodule.key ids)
          "identity encoding inserted above" reached = (.ok encoding, reached) := by
        unfold storedEncoding
        rw [bind_of_ok (current_apply reached), found]
        rfl
      have turn : processEncoding ids features submodule reached =
          (.ok (features ++ encoding), reached) := bind_of_ok read
      rw [List.foldlM_cons, bind_of_ok turn,
        ih fun one member => stored one (List.mem_cons_of_mem _ member)]
      simp [storedEncodings, found]

end Direct

/-- The rows of a review that the direct path appends. -/
def stepRows (includeQuery : Bool) (step : BulkFeatureStep V) : List V :=
  (if includeQuery then step.predictFeatures else []) ++ step.processFeatures

def expectedValues (includeQuery : Bool) : Nat := if includeQuery then 184 else 92

section Agreement

variable [ExactFeatureFloat F V] {includeQuery : Bool} {features out : List V} {ids : ReviewIds}
  {state reached after : FeatureState F V} {input : ReviewInput F}

theorem append_rows_run {rating : Int64} {duration reviewState : F} {encodings made : List V}
    (fields : processFields input = .ok (rating, duration, reviewState))
    (drawn : encodeAll (reviewValues state input).ids true idSubmodules state =
      (.ok encodings, reached))
    (rows : made = stepRows includeQuery
      (preparedStep (reviewValues state input) input rating duration reviewState encodings)) :
    appendProcessFeatureRows input features includeQuery state =
      if made.length ≠ expectedValues includeQuery then
        (.error (.error (s!"direct process feature rows have {made.length} values, " ++
          s!"expected {expectedValues includeQuery}")), reached)
      else (.ok (features ++ made, (reviewValues state input).ids),
        recordReview (reviewValues state input) input reached) := by
  obtain ⟨stored, same⟩ := encode_all_stored (by decide) drawn
  have queried : ∀ start : List V,
      idSubmodules.foldlM (queryEncoding (reviewValues state input).ids includeQuery) start state =
        (.ok (if includeQuery then start ++ encodings else start), reached) := by
    intro start
    rw [query_fold]
    exact bind_of_ok drawn
  have processed := fun start : List V => process_fold stored start
  have whole : ∀ day : List V, day = dayOffsetEncoding (reviewValues state input).dayOffset
        (reviewValues state input).dayOffsetFirst →
      ∀ start middle, start = (if includeQuery then
        features ++ directCardFeatures input (reviewValues state input) else features) →
      middle = (if includeQuery then start ++ encodings else start) →
      (if includeQuery then middle ++ day else middle) ++ processCardFeatures
          (directCardFeatures input (reviewValues state input)) rating duration reviewState ++
        storedEncodings reached (reviewValues state input).ids idSubmodules ++ day =
          features ++ made := by
    rintro day rfl start middle rfl rfl
    rw [rows, ← same]
    cases includeQuery <;> simp [stepRows, preparedStep]
  unfold appendProcessFeatureRows
  rw [fields, bind_of_ok (lift_ok _ state)]
  simp only [direct_values]
  rw [bind_of_ok (current_apply state)]
  rw [bind_of_ok (queried _)]
  refine (bind_of_ok (processed _)).trans ?_
  rw [whole _ rfl _ _ rfl rfl]
  by_cases fits : made.length = expectedValues includeQuery
  · have counted : ¬ (features ++ made).length ≠
        features.length + if includeQuery then 184 else 92 := by
      rw [List.length_append, fits]
      exact not_not.mpr rfl
    rw [if_neg counted, if_neg (not_not.mpr fits)]
    rfl
  · have counted : (features ++ made).length ≠
        features.length + if includeQuery then 184 else 92 := by
      rw [List.length_append]
      intro equal
      exact fits (Nat.add_left_cancel equal)
    rw [if_pos counted, if_pos fits]
    simp [expectedValues]

/-- The direct path succeeds where its draws and fields do. -/
theorem append_rows_drawn (ran : appendProcessFeatureRows input features includeQuery state =
      (.ok (out, ids), after)) :
    ∃ rating duration reviewState encodings reached,
      processFields input = .ok (rating, duration, reviewState) ∧
      encodeAll (reviewValues state input).ids true idSubmodules state =
        (.ok encodings, reached) := by
  unfold appendProcessFeatureRows at ran
  cases fields : processFields input with
  | error message =>
      rw [fields, bind_of_error (lift_error message state)] at ran
      cases ran
  | ok values =>
      obtain ⟨rating, duration, reviewState⟩ := values
      rw [fields, bind_of_ok (lift_ok _ state)] at ran
      simp only [direct_values] at ran
      rw [bind_of_ok (current_apply state)] at ran
      match drawn : encodeAll (reviewValues state input).ids true idSubmodules state with
      | (.ok encodings, reached) =>
          exact ⟨rating, duration, reviewState, encodings, reached, rfl, rfl⟩
      | (.error failure, reached) =>
          rw [query_fold, bind_of_error (bind_of_error drawn)] at ran
          cases ran

/-- One review: the direct path returns what the prepared rows give, if they have their size. -/
theorem append_rows_iff :
    appendProcessFeatureRows input features includeQuery state = (.ok (out, ids), after) ↔
      ∃ step, featurePrepassStep input state = (.ok step, after) ∧
        (stepRows includeQuery step).length = expectedValues includeQuery ∧
        out = features ++ stepRows includeQuery step ∧ ids = step.ids := by
  constructor
  · intro ran
    obtain ⟨rating, duration, reviewState, encodings, reached, fields, drawn⟩ :=
      append_rows_drawn ran
    rw [append_rows_run fields drawn rfl] at ran
    split at ran
    · cases ran
    · rename_i fits
      cases ran
      exact ⟨_, prepass_ok.mpr ⟨rating, duration, reviewState, encodings, reached, fields, drawn,
        rfl, rfl⟩, not_not.mp fits, rfl, rfl⟩
  · rintro ⟨step, prepared, fits, rfl, rfl⟩
    obtain ⟨rating, duration, reviewState, encodings, reached, fields, drawn, rfl, rfl⟩ :=
      prepass_ok.mp prepared
    rw [append_rows_run fields drawn rfl, if_neg (not_not.mpr fits)]
    rfl

def EncodingsSized (state : FeatureState F V) : Prop :=
  ∀ (submodule : IdSubmodule) (id : Int64) (encoding : List V),
    (state.idEncodings submodule)[id]? = some encoding → encoding.length = submodule.dim

theorem seeded_sized (seed : UInt64) : EncodingsSized (withTorchSeed seed : FeatureState F V) := by
  intro submodule id encoding found
  simp [withTorchSeed, emptyIdEncodings] at found

theorem encoding_sized {submodule : IdSubmodule} {encoding : List V}
    (sized : EncodingsSized state)
    (ran : encodingOf submodule (submodule.key ids) true state = (.ok encoding, reached)) :
    EncodingsSized reached := by
  have stored := (encoding_of_ok ran).1
  cases found : (state.idEncodings submodule)[submodule.key ids]? with
  | some kept =>
      rw [encoding_of_stored true found] at ran
      cases ran
      exact sized
  | none =>
      match draw : drawEncoding submodule.dim state with
      | (.error failure, drawn) =>
          rw [encoding_of_failed true found draw] at ran
          cases ran
      | (.ok made, drawn) =>
          have length : made.length = submodule.dim := by
            exact (TorchRng.id_encoding_ok (draw_encoding_ok draw).1).1
          rw [encoding_of_drawn true found draw, if_pos rfl] at ran
          cases ran
          have kept := (draw_encoding_ok draw).2
          intro one id encoding look
          by_cases same : one = submodule
          · subst same
            simp only [insertEncoding, if_true, ExtTreeMap.getElem?_insert, kept] at look
            split at look
            · cases look
              exact length
            · exact sized _ _ _ look
          · simp only [insertEncoding, same, if_false, kept] at look
            exact sized _ _ _ look

theorem encode_all_sized {submodules : List IdSubmodule} {encodings : List V}
    (sized : EncodingsSized state)
    (ran : encodeAll ids true submodules state = (.ok encodings, reached)) :
    EncodingsSized reached := by
  induction submodules generalizing state encodings with
  | nil =>
      cases ran
      exact sized
  | cons submodule submodules ih =>
      obtain ⟨encoding, middle, first, rest⟩ := bind_ok_steps ran
      obtain ⟨later, last, second, same⟩ := bind_ok_steps rest
      cases same
      exact ih (encoding_sized sized first) second

theorem stored_length {submodules : List IdSubmodule} (sized : EncodingsSized reached)
    (stored : Stored reached ids submodules) :
    (storedEncodings reached ids submodules).length = (submodules.map IdSubmodule.dim).sum := by
  induction submodules with
  | nil => rfl
  | cons submodule submodules ih =>
      obtain ⟨encoding, found⟩ := stored submodule (by simp)
      have later : Stored reached ids submodules :=
        fun one member => stored one (List.mem_cons_of_mem _ member)
      have rest := ih later
      rw [storedEncodings] at rest
      simp [storedEncodings, found, sized submodule _ encoding found, rest]

theorem card_features_length (values : ReviewValues F) :
    (directCardFeatures input values : List V).length = 24 := rfl

theorem process_card_length (values : ReviewValues F) (rating : Int64) (duration reviewState : F) :
    (processCardFeatures (directCardFeatures input values : List V) rating duration
      reviewState).length = 24 := by
  simp [processCardFeatures, card_features_length]

/-- A state whose encodings have their size prepares rows of 92 values and stays one. -/
theorem prepass_sized {step : BulkFeatureStep V} (sized : EncodingsSized state)
    (prepared : featurePrepassStep input state = (.ok step, after)) :
    (stepRows includeQuery step).length = expectedValues includeQuery ∧ EncodingsSized after := by
  obtain ⟨rating, duration, reviewState, encodings, reached, _, drawn, rfl, rfl⟩ :=
    prepass_ok.mp prepared
  have drawnSized := encode_all_sized sized drawn
  obtain ⟨stored, same⟩ := encode_all_stored (by decide) drawn
  have length : encodings.length = 40 := by
    rw [same, stored_length drawnSized stored]
    rfl
  constructor
  · cases includeQuery <;>
      simp [stepRows, preparedStep, expectedValues, length, card_features_length,
        process_card_length, day_offset_encoding_length]
  · exact drawnSized

theorem prepass_map (inputs : List (ReviewInput F)) :
    (featurePrepass inputs : Method (FeatureState F V) (List (BulkFeatureStep V))) =
      inputs.mapM featurePrepassStep := by
  have pushed := foldlM_push (featurePrepassStep : ReviewInput F →
    Method (FeatureState F V) (BulkFeatureStep V)) [] inputs
  simp only [List.nil_append, bind_pure] at pushed
  exact pushed

theorem direct_review_iff {made : List V × List ReviewIds} {next : List V × List ReviewIds} :
    directReview includeQuery made input state = (.ok next, after) ↔
      ∃ step, featurePrepassStep input state = (.ok step, after) ∧
        (stepRows includeQuery step).length = expectedValues includeQuery ∧
        next = (made.1 ++ stepRows includeQuery step, made.2 ++ [step.ids]) := by
  constructor
  · intro ran
    obtain ⟨⟨out, ids⟩, reached, appended, same⟩ := bind_ok_steps ran
    cases same
    obtain ⟨step, prepared, fits, rfl, rfl⟩ := append_rows_iff.mp appended
    exact ⟨step, prepared, fits, rfl⟩
  · rintro ⟨step, prepared, fits, rfl⟩
    exact bind_of_ok (append_rows_iff.mpr ⟨step, prepared, fits, rfl, rfl⟩)

/-- The direct run of a list against its prepass, from any state. -/
theorem direct_run_iff {inputs : List (ReviewInput F)} {made last : List V × List ReviewIds} :
    inputs.foldlM (directReview includeQuery) made state = (.ok last, after) ↔
      ∃ steps, inputs.mapM featurePrepassStep state = (.ok steps, after) ∧
        (∀ step ∈ steps, (stepRows includeQuery step).length = expectedValues includeQuery) ∧
        last = (made.1 ++ steps.flatMap (stepRows includeQuery), made.2 ++ steps.map (·.ids)) := by
  induction inputs generalizing state made with
  | nil =>
      constructor
      · intro ran
        cases ran
        exact ⟨[], rfl, by simp, by simp⟩
      · rintro ⟨steps, ran, _, rfl⟩
        cases ran
        simp
  | cons input inputs ih =>
      rw [List.foldlM_cons, List.mapM_cons]
      constructor
      · intro ran
        obtain ⟨next, middle, first, rest⟩ := bind_ok_steps ran
        obtain ⟨step, prepared, fits, rfl⟩ := direct_review_iff.mp first
        obtain ⟨steps, later, sizes, rfl⟩ := ih.mp rest
        refine ⟨step :: steps, ?_, ?_, by simp⟩
        · rw [bind_of_ok prepared, bind_of_ok later]
          rfl
        · intro one member
          rcases List.mem_cons.mp member with here | there
          · exact here ▸ fits
          · exact sizes one there
      · rintro ⟨all, ran, sizes, rfl⟩
        obtain ⟨step, middle, prepared, rest⟩ := bind_ok_steps ran
        obtain ⟨steps, reached, later, same⟩ := bind_ok_steps rest
        cases same
        have first : directReview includeQuery made input state =
            (.ok (made.1 ++ stepRows includeQuery step, made.2 ++ [step.ids]), middle) :=
          direct_review_iff.mpr ⟨step, prepared, sizes step (by simp), rfl⟩
        rw [bind_of_ok first]
        apply ih.mpr
        exact ⟨steps, later, fun one member => sizes one (List.mem_cons_of_mem _ member), by simp⟩

theorem prepass_run_sized {inputs : List (ReviewInput F)} {steps : List (BulkFeatureStep V)}
    (sized : EncodingsSized state)
    (ran : inputs.mapM featurePrepassStep state = (.ok steps, after)) :
    (∀ step ∈ steps, (stepRows includeQuery step).length = expectedValues includeQuery) ∧
      EncodingsSized after := by
  induction inputs generalizing state steps with
  | nil =>
      cases ran
      exact ⟨by simp, sized⟩
  | cons input inputs ih =>
      rw [List.mapM_cons] at ran
      obtain ⟨step, middle, prepared, rest⟩ := bind_ok_steps ran
      obtain ⟨later, reached, mapped, same⟩ := bind_ok_steps rest
      cases same
      have here : (stepRows includeQuery step).length = expectedValues includeQuery ∧
          EncodingsSized middle := prepass_sized sized prepared
      obtain ⟨fits, middleSized⟩ := here
      obtain ⟨sizes, lastSized⟩ := ih middleSized mapped
      refine ⟨?_, lastSized⟩
      intro one member
      rcases List.mem_cons.mp member with here | there
      · exact here ▸ fits
      · exact sizes one there

theorem can_batch_row (state : FeatureState F V) (input : ReviewInput F) :
    canBatchPredict state (preparePredictRow state input) = .ok (decide
      ((idSubmodules.any fun submodule =>
        submodule.key (normalizedReviewIds input) ∉ state.idEncodings submodule) = false ∧
      recurrentKeysHave state.recurrentStateKeys (normalizedReviewIds input) = true)) := by
  have found := predict_row_id state input
  unfold canBatchPredict
  rw [missing_encoding_row found, (row_ids_of_int found).1]
  cases missing : idSubmodules.any fun submodule =>
      submodule.key (normalizedReviewIds input) ∉ state.idEncodings submodule with
  | true => simp [bind, Except.bind, pure, Except.pure]
  | false => simp [bind, Except.bind, pure, Except.pure]

theorem encodings_fold {row : PreparedRow F} {submodules : List IdSubmodule}
    (found : ∀ submodule : IdSubmodule, row[submodule.name]? = some (.int (submodule.key ids)))
    (stored : Stored state ids submodules) (start : List V) :
    submodules.foldlM (encodingsOfRow state row) start =
      .ok (start ++ storedEncodings state ids submodules) := by
  induction submodules generalizing start with
  | nil => simp [storedEncodings, pure, Except.pure]
  | cons submodule submodules ih =>
      obtain ⟨encoding, here⟩ := stored submodule (by simp)
      have turn : encodingsOfRow state row start submodule = .ok (start ++ encoding) := by
        unfold encodingsOfRow
        rw [get_i64_of_int (found submodule)]
        simp [bind, Except.bind, here, pure, Except.pure]
      rw [List.foldlM_cons, turn]
      have rest := ih (fun one member => stored one (List.mem_cons_of_mem _ member))
        (start ++ encoding)
      simp only [bind, Except.bind, rest]
      simp [storedEncodings, here]

/-- A batchable prediction: the direct values are those of the prepared row, if there are 92. -/
theorem direct_predict (state : FeatureState F V) (input : ReviewInput F) :
    (canBatchPredict state (preparePredictRow state input) = .ok false ∧
      directPredictFeatures state input = .ok none) ∨
    (canBatchPredict state (preparePredictRow state input) = .ok true ∧
      ∃ features : List V, featureVectors state [preparePredictRow state input] = .ok [features] ∧
        directPredictFeatures state input =
          if features.length ≠ 92 then
            .error s!"direct prediction feature vector has {features.length} values, expected 92"
          else .ok (some (features, normalizedReviewIds input))) := by
  have found := predict_row_id state input
  have sameIds : (reviewValues state input).ids = normalizedReviewIds input := rfl
  rw [can_batch_row]
  unfold directPredictFeatures
  simp only [direct_values, sameIds]
  cases missing : idSubmodules.any fun submodule =>
      submodule.key (normalizedReviewIds input) ∉ state.idEncodings submodule with
  | true =>
      left
      simp
  | false =>
      cases keys : recurrentKeysHave state.recurrentStateKeys (normalizedReviewIds input) with
      | false =>
          left
          simp
      | true =>
          right
          have stored : Stored state (normalizedReviewIds input) idSubmodules :=
            stored_of_present missing
          have days : dayOffsetFeatures (preparePredictRow state input) = .ok
              (dayOffsetEncoding (reviewValues state input).dayOffset
                (reviewValues state input).dayOffsetFirst : List V) :=
            day_features (lane_no_days _ _ _ _ _)
          have vectors : featureVectors state [preparePredictRow state input] = .ok
              [directCardFeatures input (reviewValues state input) ++
                directEncodings state (normalizedReviewIds input) ++
                dayOffsetEncoding (reviewValues state input).dayOffset
                  (reviewValues state input).dayOffsetFirst] := by
            have folded := encodings_fold found stored
              (directCardFeatures input (reviewValues state input))
            simp only [featureVectors, List.mapM_cons, List.mapM_nil, predict_card_features, days,
              bind, Except.bind, folded]
            rfl
          refine ⟨by simp, _, vectors, ?_⟩
          simp

theorem batched_features_length {row : List V} (sized : EncodingsSized state)
    (made : featureVectors state [preparePredictRow state input] = .ok [row])
    (batchable : canBatchPredict state (preparePredictRow state input) = .ok true) :
    row.length = 92 := by
  have found := predict_row_id state input
  rw [can_batch_row] at batchable
  have present := of_decide_eq_true (Except.ok.inj batchable)
  have stored : Stored state (normalizedReviewIds input) idSubmodules := stored_of_present present.1
  have days : dayOffsetFeatures (preparePredictRow state input) = .ok
      (dayOffsetEncoding (reviewValues state input).dayOffset
        (reviewValues state input).dayOffsetFirst : List V) :=
    day_features (lane_no_days _ _ _ _ _)
  have folded := encodings_fold found stored (directCardFeatures input (reviewValues state input))
  simp only [featureVectors, List.mapM_cons, List.mapM_nil, predict_card_features, days,
    bind, Except.bind, folded, pure, Except.pure, Except.ok.injEq, List.cons.injEq, and_true]
    at made
  have encoded : (storedEncodings state (normalizedReviewIds input) idSubmodules).length = 40 := by
    rw [stored_length sized stored]
    rfl
  rw [← made]
  simp [card_features_length, encoded, day_offset_encoding_length]

/-- What the direct path of a list returns, in the terms of its prepared rows. -/
def DirectAgrees (includeQuery : Bool) (inputs : List (ReviewInput F)) (features : List V)
    (state : FeatureState F V) : Prop :=
  ∀ out ids after, directRun includeQuery inputs features state = (.ok (out, ids), after) ↔
    ∃ steps, featurePrepass inputs state = (.ok steps, after) ∧
      out = features ++ steps.flatMap (stepRows includeQuery) ∧ ids = steps.map (·.ids)

/-- What a direct prediction returns, in the terms of its prepared row. -/
def DirectPredictAgrees (input : ReviewInput F) (state : FeatureState F V) : Prop :=
  (canBatchPredict state (preparePredictRow state input) = .ok false ∧
    directPredictFeatures state input = .ok none) ∨
  (canBatchPredict state (preparePredictRow state input) = .ok true ∧
    ∃ features, featureVectors state [preparePredictRow state input] = .ok [features] ∧
      directPredictFeatures state input = .ok (some (features, normalizedReviewIds input)))

/-- The direct paths return what the prepared rows give, on states whose encodings have their size;
on any state, a list succeeds directly exactly when its rows are prepared and have 92 values. -/
theorem direct_paths_agree :
    (∀ (state : FeatureState F V) (includeQuery : Bool) (inputs : List (ReviewInput F))
      (features : List V), EncodingsSized state →
      DirectAgrees includeQuery inputs features state ∧
      (∀ steps after, featurePrepass inputs state = (.ok steps, after) → EncodingsSized after) ∧
      ∀ input, DirectPredictAgrees input state) ∧
    (∀ (state : FeatureState F V) (includeQuery : Bool) (inputs : List (ReviewInput F))
      (features out : List V) (ids : List ReviewIds) (after : FeatureState F V),
      directRun includeQuery inputs features state = (.ok (out, ids), after) ↔
        ∃ steps, featurePrepass inputs state = (.ok steps, after) ∧
          (∀ step ∈ steps, (stepRows includeQuery step).length = expectedValues includeQuery) ∧
          out = features ++ steps.flatMap (stepRows includeQuery) ∧ ids = steps.map (·.ids)) ∧
    ∀ (state : FeatureState F V) (input : ReviewInput F),
      canBatchPredict state (preparePredictRow state input) = .ok false ↔
        directPredictFeatures state input = .ok none := by
  have lists : ∀ (state : FeatureState F V) (includeQuery : Bool) (inputs : List (ReviewInput F))
      (features out : List V) (ids : List ReviewIds) (after : FeatureState F V),
      directRun includeQuery inputs features state = (.ok (out, ids), after) ↔
        ∃ steps, featurePrepass inputs state = (.ok steps, after) ∧
          (∀ step ∈ steps, (stepRows includeQuery step).length = expectedValues includeQuery) ∧
          out = features ++ steps.flatMap (stepRows includeQuery) ∧ ids = steps.map (·.ids) := by
    intro state includeQuery inputs features out ids after
    rw [directRun, direct_run_iff, prepass_map]
    simp
  refine ⟨?_, lists, ?_⟩
  · intro state includeQuery inputs features sized
    have sizes : ∀ steps after, featurePrepass inputs state = (.ok steps, after) →
        (∀ step ∈ steps, (stepRows includeQuery step).length = expectedValues includeQuery) ∧
          EncodingsSized after := by
      intro steps after ran
      rw [prepass_map] at ran
      exact prepass_run_sized sized ran
    refine ⟨?_, fun steps after ran => (sizes steps after ran).2, ?_⟩
    · intro out ids after
      rw [lists]
      constructor
      · rintro ⟨steps, ran, _, made, same⟩
        exact ⟨steps, ran, made, same⟩
      · rintro ⟨steps, ran, made, same⟩
        exact ⟨steps, ran, (sizes steps after ran).1, made, same⟩
    · intro input
      rcases direct_predict state input with none | ⟨batchable, row, vectors, direct⟩
      · exact Or.inl none
      · right
        rw [if_neg (not_not.mpr (batched_features_length sized vectors batchable))] at direct
        exact ⟨batchable, row, vectors, direct⟩
  · intro state input
    rcases direct_predict state input with ⟨batchable, direct⟩ | ⟨batchable, row, _, direct⟩
    · simp [batchable, direct]
    · rw [batchable, direct]
      constructor
      · intro impossible
        cases impossible
      · intro impossible
        split at impossible <;> cases impossible

end Agreement

section Short

open RwkvSrs.ExactNumbers

def oneReview : ReviewInput Exact where
  reviewId := 1
  cardId := 1
  noteId := .present 2
  deckId := .present 3
  presetId := .present 4
  dayOffset := 0.0
  elapsedDays := 0.0
  elapsedSeconds := 0.0
  rating := some 3
  duration := some 2.0
  state := some 1.0

/-- The card's encoding has one value where the code's own draws have twelve. -/
def shortEncodingState : FeatureState Exact Exact :=
  { (withTorchSeed 5489 : FeatureState Exact Exact) with idEncodings := fun
      | .cardId => (∅ : ExtTreeMap Int64 (List Exact)).insert 1 [0.5]
      | .noteId => (∅ : ExtTreeMap Int64 (List Exact)).insert 2 (List.replicate 12 0.5)
      | .deckId => (∅ : ExtTreeMap Int64 (List Exact)).insert 3 (List.replicate 8 0.5)
      | .presetId => (∅ : ExtTreeMap Int64 (List Exact)).insert 4 (List.replicate 8 0.5) }

theorem short_encoding_state_stored :
    Stored shortEncodingState (normalizedReviewIds oneReview) idSubmodules := by
  intro submodule _
  cases submodule <;> simp [shortEncodingState, oneReview, normalizedReviewIds, normalizeId,
    IdSubmodule.key]

/-- The prepared rows of this state are made; the direct path returns its length error. -/
theorem direct_pair_rejects_short_encoding :
    ∃ step after, featurePrepassStep oneReview shortEncodingState = (.ok step, after) ∧
      ∀ out ids after', appendProcessFeaturePair oneReview [] shortEncodingState ≠
        (.ok (out, ids), after') := by
  have drawn := encode_all_of_stored true short_encoding_state_stored
  have prepared := prepass_ok.mpr ⟨3, 2.0, 1.0, _, _, rfl, drawn, rfl, rfl⟩
  refine ⟨_, _, prepared, ?_⟩
  intro out ids after ran
  obtain ⟨step, made, fits, _⟩ := append_rows_iff.mp ran
  rw [prepared] at made
  cases made
  have encoded : (storedEncodings shortEncodingState (normalizedReviewIds oneReview)
      idSubmodules).length = 29 := by
    simp [storedEncodings, idSubmodules, shortEncodingState, oneReview, normalizedReviewIds,
      normalizeId, IdSubmodule.key]
  simp [stepRows, preparedStep, expectedValues, card_features_length, process_card_length,
    day_offset_encoding_length, encoded] at fits

end Short

end RwkvSrs.DirectPaths
