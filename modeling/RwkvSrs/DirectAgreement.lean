import RwkvSrs.DirectFeatures

/-!
The direct feature paths against the prepared rows. Drawing without storing and
then restoring the generator leaves the state as it was and shows the encodings
the processing draw will store, so both lanes of the prepared path carry the
encodings the direct path draws once.
-/

namespace RwkvSrs.DirectAgreement

open Std RwkvSrs.FallibleMethod RwkvSrs.FeatureScaling RwkvSrs.ReviewInput
open RwkvSrs.DeterministicState RwkvSrs.DeterministicUndo RwkvSrs.DeterministicTouch
open RwkvSrs.BulkProcessing RwkvSrs.DirectFeatures Float64Ops FeatureFloat

set_option autoImplicit false
set_option linter.unusedSectionVars false

variable {F V : Type} [Float64Ops F] [Float32Ops V]

section Columns

variable [FeatureFloat F V]

theorem direct_values (state : FeatureState F V) (input : ReviewInput F) :
    directValues state input = reviewValues state input := by
  have paired : ∀ (sameDay : Bool) (reviews newCards : Int64),
      (if sameDay then (reviews, newCards) else (-1, 0)) =
        (if sameDay then reviews else -1, if sameDay then newCards else 0) := by
    intro sameDay reviews newCards
    cases sameDay <;> rfl
  unfold directValues reviewValues
  cases first : state.firstDayOffset with
  | none => simp only [paired]
  | some first => simp only [paired]

theorem lane_row_field (state : FeatureState F V) (input : ReviewInput F)
    (lane : List (String × RowValue F)) (name : String) :
    (insertFields (addSame state input) lane)[name]? =
      (lane.reverse.lookup name).or ((sharedFields state input).reverse.lookup name) := by
  rw [inserted_field, addSame, inserted_field]
  simp

end Columns

section Exact

variable [ExactFeatureFloat F V]

theorem predict_card_features (state : FeatureState F V) (input : ReviewInput F) :
    cardFeatures (preparePredictRow state input) =
      .ok (directCardFeatures input (reviewValues state input) : List V) := by
  have zero : toF32 (0.0 : F) = (0.0 : V) := ExactFeatureFloat.zero
  have one : toF32 (1.0 : F) = (1.0 : V) := ExactFeatureFloat.one
  simp [cardFeatures, cardFeatureColumns, getF64, getField, preparePredictRow, lane_row_field,
    laneFields, sharedFields, List.lookup_cons, List.lookup_nil, RowValue.asF64,
    directCardFeatures, zero, one, bind,
    Except.bind, pure, Except.pure]

theorem process_card_features {state : FeatureState F V} {input : ReviewInput F}
    {row : PreparedRow F} {rating : Int64} {duration reviewState : F}
    (fields : processFields input = .ok (rating, duration, reviewState))
    (prepared : prepareProcessRow state input = .ok row) :
    cardFeatures row = .ok (processCardFeatures
      (directCardFeatures input (reviewValues state input) : List V) rating duration reviewState) := by
  have zero : toF32 (0.0 : F) = (0.0 : V) := ExactFeatureFloat.zero
  have rated : ∀ index : Int64, toF32 (if rating = index then (1.0 : F) else 0.0) =
      (if rating = index then 1.0 else 0.0 : V) := by
    intro index
    split
    · exact ExactFeatureFloat.one
    · exact zero
  rw [prepareProcessRow, fields] at prepared
  cases prepared
  simp [cardFeatures, cardFeatureColumns, getF64, getField, lane_row_field, laneFields,
    sharedFields, List.lookup_cons, List.lookup_nil, RowValue.asF64, directCardFeatures,
    processCardFeatures, zero,
    rated, bind, Except.bind, pure, Except.pure]

end Exact

section Encodings

variable [FeatureFloat F V]

def encodeStep (ids : ReviewIds) (mutateIdEncodings : Bool) (features : List V)
    (submodule : IdSubmodule) : Method (FeatureState F V) (List V) := do
  let encoding ← encodingOf submodule (submodule.key ids) mutateIdEncodings
  return features ++ encoding

/-- The encodings of a review's identities, module by module. -/
def encodeAll (ids : ReviewIds) (mutateIdEncodings : Bool) :
    List IdSubmodule → Method (FeatureState F V) (List V)
  | [] => pure []
  | submodule :: rest => do
      let encoding ← encodingOf submodule (submodule.key ids) mutateIdEncodings
      let later ← encodeAll ids mutateIdEncodings rest
      return encoding ++ later

/-- What is stored for the identities, where something is. -/
def storedEncodings (state : FeatureState F V) (ids : ReviewIds) (submodules : List IdSubmodule) :
    List V :=
  submodules.flatMap fun submodule => ((state.idEncodings submodule)[submodule.key ids]?).getD []

def Stored (state : FeatureState F V) (ids : ReviewIds) (submodules : List IdSubmodule) : Prop :=
  ∀ submodule ∈ submodules, ∃ encoding,
    (state.idEncodings submodule)[submodule.key ids]? = some encoding

variable {ids : ReviewIds} {submodule : IdSubmodule} {submodules : List IdSubmodule}
  {state other : FeatureState F V}

theorem encoded_fold (mutateIdEncodings : Bool) (features : List V) :
    submodules.foldlM (encodeStep (F := F) ids mutateIdEncodings) features =
      (do
        let encodings ← encodeAll ids mutateIdEncodings submodules
        return features ++ encodings : Method (FeatureState F V) (List V)) := by
  induction submodules generalizing features with
  | nil => simp [encodeAll]
  | cons submodule submodules ih =>
      simp only [List.foldlM_cons, encodeAll, encodeStep, bind_assoc, pure_bind, ih,
        List.append_assoc]

theorem encoding_of_stored {encoding : List V} (mutateIdEncodings : Bool)
    (found : (state.idEncodings submodule)[submodule.key ids]? = some encoding) :
    encodingOf submodule (submodule.key ids) mutateIdEncodings state = (.ok encoding, state) := by
  unfold encodingOf
  rw [bind_of_ok (current_apply state)]
  simp [found]

theorem encoding_of_drawn {encoding : List V} {drawn : FeatureState F V} (mutateIdEncodings : Bool)
    (absent : (state.idEncodings submodule)[submodule.key ids]? = none)
    (draw : drawEncoding submodule.dim state = (.ok encoding, drawn)) :
    encodingOf submodule (submodule.key ids) mutateIdEncodings state = (.ok encoding,
      if mutateIdEncodings then insertEncoding submodule (submodule.key ids) encoding drawn
      else drawn) := by
  unfold encodingOf
  rw [bind_of_ok (current_apply state)]
  simp only [absent]
  rw [bind_of_ok draw]
  cases mutateIdEncodings <;> rfl

theorem encoding_of_failed {failure : Failure} {drawn : FeatureState F V}
    (mutateIdEncodings : Bool)
    (absent : (state.idEncodings submodule)[submodule.key ids]? = none)
    (draw : drawEncoding submodule.dim state = (.error failure, drawn)) :
    encodingOf submodule (submodule.key ids) mutateIdEncodings state = (.error failure, drawn) := by
  unfold encodingOf
  rw [bind_of_ok (current_apply state)]
  simp only [absent]
  exact bind_of_error draw

theorem draw_same (dim : Nat) (same : state.idRng = other.idRng) :
    drawEncoding dim state = ((drawEncoding dim other).1,
      { state with idRng := (drawEncoding dim other).2.idRng }) := by
  simp only [drawEncoding, onPart, same]

theorem encode_cons_ok {mutateIdEncodings : Bool} {encoding : List V} {reached : FeatureState F V}
    (ran : encodingOf submodule (submodule.key ids) mutateIdEncodings state =
      (.ok encoding, reached)) :
    encodeAll ids mutateIdEncodings (submodule :: submodules) state =
      ((encodeAll ids mutateIdEncodings submodules reached).1.map (encoding ++ ·),
        (encodeAll ids mutateIdEncodings submodules reached).2) := by
  rw [encodeAll, bind_of_ok ran]
  match later : encodeAll ids mutateIdEncodings submodules reached with
  | (.ok encodings, last) => exact bind_of_ok later
  | (.error failure, last) => exact bind_of_error later

theorem encode_cons_error {mutateIdEncodings : Bool} {failure : Failure}
    {reached : FeatureState F V}
    (ran : encodingOf submodule (submodule.key ids) mutateIdEncodings state =
      (.error failure, reached)) :
    encodeAll ids mutateIdEncodings (submodule :: submodules) state = (.error failure, reached) := by
  rw [encodeAll]
  exact bind_of_error ran

theorem draw_encoding_ok {dim : Nat} {encoding : List V} {drawn : FeatureState F V}
    (draw : drawEncoding dim state = (.ok encoding, drawn)) :
    TorchRng.idEncoding dim state.idRng = (.ok encoding, drawn.idRng) ∧
      drawn.idEncodings = state.idEncodings := by
  have result : (drawEncoding dim state).1 = .ok encoding := by rw [draw]
  have reached : (drawEncoding dim state).2 = drawn := by rw [draw]
  subst reached
  exact ⟨Prod.ext result rfl, rfl⟩

/-- The generator after drawing without storing is the one after drawing and storing. -/
theorem encode_all_lanes (distinct : submodules.Nodup) (sameRng : state.idRng = other.idRng)
    (sameEncodings : ∀ submodule ∈ submodules,
      state.idEncodings submodule = other.idEncodings submodule) :
    encodeAll ids false submodules state = ((encodeAll ids true submodules other).1,
      { state with idRng := (encodeAll ids true submodules other).2.idRng }) := by
  induction submodules generalizing state other with
  | nil =>
      simp only [encodeAll, pure_apply]
      rw [← sameRng]
  | cons submodule submodules ih =>
      obtain ⟨fresh, distinct⟩ := List.nodup_cons.mp distinct
      have here := sameEncodings submodule (by simp)
      have later : ∀ one ∈ submodules, state.idEncodings one = other.idEncodings one :=
        fun one member => sameEncodings one (List.mem_cons_of_mem _ member)
      cases found : (other.idEncodings submodule)[submodule.key ids]? with
      | some encoding =>
          have foundHere : (state.idEncodings submodule)[submodule.key ids]? = some encoding := by
            rw [here, found]
          rw [encode_cons_ok (encoding_of_stored false foundHere),
            encode_cons_ok (encoding_of_stored true found), ih distinct sameRng later]
      | none =>
          have absent : (state.idEncodings submodule)[submodule.key ids]? = none := by
            rw [here, found]
          have drawn := draw_same submodule.dim sameRng
          match draw : drawEncoding submodule.dim other with
          | (.error failure, reached) =>
              rw [draw] at drawn
              rw [encode_cons_error (encoding_of_failed false absent drawn),
                encode_cons_error (encoding_of_failed true found draw)]
          | (.ok encoding, reached) =>
              rw [draw] at drawn
              have unstored := encoding_of_drawn false absent drawn
              have stored := encoding_of_drawn true found draw
              rw [if_neg Bool.false_ne_true] at unstored
              rw [if_pos rfl] at stored
              have keptEncodings := (draw_encoding_ok draw).2
              rw [encode_cons_ok unstored, encode_cons_ok stored, ih distinct]
              · rfl
              · intro one member
                have different : one ≠ submodule := fun same => fresh (same ▸ member)
                simp [insertEncoding, different, keptEncodings, later one member]

theorem encode_all_of_stored (mutateIdEncodings : Bool) (stored : Stored state ids submodules) :
    encodeAll ids mutateIdEncodings submodules state =
      (.ok (storedEncodings state ids submodules), state) := by
  induction submodules with
  | nil => rfl
  | cons submodule submodules ih =>
      obtain ⟨encoding, found⟩ := stored submodule (by simp)
      have later : Stored state ids submodules :=
        fun one member => stored one (List.mem_cons_of_mem _ member)
      rw [encode_cons_ok (encoding_of_stored mutateIdEncodings found), ih later]
      simp [storedEncodings, found, Except.map]

theorem encoding_of_ok {encoding : List V} {reached : FeatureState F V}
    (ran : encodingOf submodule (submodule.key ids) true state = (.ok encoding, reached)) :
    (reached.idEncodings submodule)[submodule.key ids]? = some encoding ∧
      ∀ one ≠ submodule, reached.idEncodings one = state.idEncodings one := by
  cases found : (state.idEncodings submodule)[submodule.key ids]? with
  | some stored =>
      rw [encoding_of_stored true found] at ran
      cases ran
      exact ⟨found, fun _ _ => rfl⟩
  | none =>
      match draw : drawEncoding submodule.dim state with
      | (.error failure, drawn) =>
          rw [encoding_of_failed true found draw] at ran
          cases ran
      | (.ok made, drawn) =>
          rw [encoding_of_drawn true found draw, if_pos rfl] at ran
          cases ran
          have kept := (draw_encoding_ok draw).2
          constructor
          · simp [insertEncoding]
          · intro one different
            simp [insertEncoding, different, kept]

theorem encode_all_frame {encodings : List V} {reached : FeatureState F V}
    (ran : encodeAll ids true submodules state = (.ok encodings, reached)) :
    ∀ one ∉ submodules, reached.idEncodings one = state.idEncodings one := by
  induction submodules generalizing state encodings with
  | nil =>
      cases ran
      exact fun _ _ => rfl
  | cons submodule submodules ih =>
      obtain ⟨encoding, middle, first, rest⟩ := bind_ok_steps ran
      obtain ⟨later, last, second, same⟩ := bind_ok_steps rest
      cases same
      intro one outside
      rw [List.mem_cons, not_or] at outside
      rw [ih second one outside.2, (encoding_of_ok first).2 one outside.1]

/-- Once drawn, the encodings of a review are the stored ones. -/
theorem encode_all_stored {encodings : List V} {reached : FeatureState F V}
    (distinct : submodules.Nodup)
    (ran : encodeAll ids true submodules state = (.ok encodings, reached)) :
    Stored reached ids submodules ∧ encodings = storedEncodings reached ids submodules := by
  induction submodules generalizing state encodings with
  | nil =>
      cases ran
      exact ⟨fun _ member => (nomatch member), rfl⟩
  | cons submodule submodules ih =>
      obtain ⟨fresh, distinct⟩ := List.nodup_cons.mp distinct
      obtain ⟨encoding, middle, first, rest⟩ := bind_ok_steps ran
      obtain ⟨later, last, second, same⟩ := bind_ok_steps rest
      cases same
      obtain ⟨stored, made⟩ := ih distinct second
      have found := (encoding_of_ok first).1
      rw [← encode_all_frame second submodule fresh] at found
      constructor
      · intro one member
        rcases List.mem_cons.mp member with here | there
        · exact here ▸ ⟨encoding, found⟩
        · exact stored one there
      · rw [made]
        simp [storedEncodings, found]

section Rows

variable {row : PreparedRow F} {card day encodings : List V} {reached : FeatureState F V}

theorem feature_vector_encoded (mutateIdEncodings : Bool)
    (found : ∀ submodule : IdSubmodule, row[submodule.name]? = some (.int (submodule.key ids)))
    (columns : cardFeatures row = .ok card) (dayColumns : dayOffsetFeatures row = .ok day) :
    featureVector row mutateIdEncodings = (do
      let encodings ← encodeAll ids mutateIdEncodings idSubmodules
      return card ++ encodings ++ day : Method (FeatureState F V) (List V)) := by
  have steps : (appendEncoding row mutateIdEncodings : List V → IdSubmodule →
      Method (FeatureState F V) (List V)) = encodeStep ids mutateIdEncodings := by
    funext features submodule
    unfold appendEncoding encodeStep
    rw [show getI64 row submodule.name = _ from get_i64_of_int (found submodule)]
    rfl
  unfold featureVector
  rw [columns, dayColumns, steps]
  change (idSubmodules.foldlM (encodeStep ids mutateIdEncodings) card >>= fun features =>
    pure (features ++ day)) = _
  rw [encoded_fold]
  simp only [bind_assoc, pure_bind]

theorem missing_encoding_row
    (found : ∀ submodule : IdSubmodule, row[submodule.name]? = some (.int (submodule.key ids))) :
    missingEncoding state row submodules =
      .ok (submodules.any fun submodule => submodule.key ids ∉ state.idEncodings submodule) := by
  induction submodules with
  | nil => rfl
  | cons submodule submodules ih =>
      rw [missingEncoding, get_i64_of_int (found submodule)]
      by_cases member : submodule.key ids ∈ state.idEncodings submodule
      · simp [bind, Except.bind, member, ih]
      · simp [bind, Except.bind, member, pure, Except.pure]

theorem stored_of_present
    (present : (submodules.any fun submodule =>
      submodule.key ids ∉ state.idEncodings submodule) = false) :
    Stored state ids submodules := by
  intro submodule member
  have here := List.any_eq_false.mp present submodule member
  have inside : submodule.key ids ∈ state.idEncodings submodule := by simpa using here
  exact Option.isSome_iff_exists.mp (ExtTreeMap.mem_iff_isSome_getElem?.mp inside)

/-- A query row's vector carries the encodings a processing draw will store, and draws none. -/
theorem predict_vector (state : FeatureState F V)
    (found : ∀ submodule : IdSubmodule, row[submodule.name]? = some (.int (submodule.key ids)))
    (columns : cardFeatures row = .ok card) (dayColumns : dayOffsetFeatures row = .ok day) :
    (∀ encodings reached, encodeAll ids true idSubmodules state = (.ok encodings, reached) →
      predictFeatureVector row state = (.ok (card ++ encodings ++ day), state)) ∧
    ∀ failure reached, encodeAll ids true idSubmodules state = (.error failure, reached) →
      ∃ failed, predictFeatureVector row state = (.error failure, failed) := by
  have vector := feature_vector_encoded false found columns dayColumns
  have lanes : encodeAll ids false idSubmodules state =
      ((encodeAll ids true idSubmodules state).1,
        { state with idRng := (encodeAll ids true idSubmodules state).2.idRng }) :=
    encode_all_lanes (by decide) rfl fun _ _ => rfl
  have missing : skipNeedsRngRestore state row true =
      .ok (idSubmodules.any fun submodule => submodule.key ids ∉ state.idEncodings submodule) :=
    missing_encoding_row found
  have start : predictFeatureVector row state =
      restoringRng (if idSubmodules.any fun submodule =>
        submodule.key ids ∉ state.idEncodings submodule then some state.idRng else none)
        (featureVector row false) state := by
    unfold predictFeatureVector
    rw [bind_of_ok (current_apply state), missing]
    rfl
  rw [start, vector]
  constructor
  · intro encodings reached ran
    rw [ran] at lanes
    unfold restoringRng
    rw [bind_of_ok lanes]
    cases restore : idSubmodules.any fun submodule =>
        submodule.key ids ∉ state.idEncodings submodule with
    | true => rfl
    | false =>
        rw [encode_all_of_stored true (stored_of_present restore)] at ran
        cases ran
        rfl
  · intro failure reached ran
    rw [ran] at lanes
    unfold restoringRng
    rw [bind_of_error lanes]
    split
    · rename_i stopped
      cases stopped
      exact ⟨_, rfl⟩
    · rename_i stopped _
      cases stopped
      exact ⟨_, rfl⟩
    · rename_i stopped _
      cases stopped
      exact ⟨_, rfl⟩

end Rows

end Encodings

section Prepared

variable [ExactFeatureFloat F V] {state reached after : FeatureState F V} {input : ReviewInput F}

theorem lane_no_days (isQuery : F) (skip : Bool) (scaledDuration scaledState : F)
    (rating : Int64 → F) :
    (laneFields isQuery skip scaledDuration scaledState rating).reverse.lookup "day_offset" = none ∧
      (laneFields isQuery skip scaledDuration scaledState rating).reverse.lookup
        "day_offset_first" = none := by
  simp [laneFields, List.lookup_cons, List.lookup_nil]

theorem day_features {lane : List (String × RowValue F)}
    (noDays : lane.reverse.lookup "day_offset" = none ∧
      lane.reverse.lookup "day_offset_first" = none) :
    dayOffsetFeatures (insertFields (addSame state input) lane) =
      .ok (dayOffsetEncoding (reviewValues state input).dayOffset
        (reviewValues state input).dayOffsetFirst : List V) := by
  simp [dayOffsetFeatures, getF64, getField, lane_row_field, noDays, sharedFields, List.lookup_cons,
    RowValue.asF64, bind, Except.bind, pure, Except.pure]

theorem process_day_features {row : PreparedRow F}
    (prepared : prepareProcessRow state input = .ok row) :
    dayOffsetFeatures row = .ok (dayOffsetEncoding (reviewValues state input).dayOffset
      (reviewValues state input).dayOffsetFirst : List V) := by
  cases fields : processFields input with
  | error message =>
      rw [prepareProcessRow, fields] at prepared
      cases prepared
  | ok values =>
      rw [prepareProcessRow, fields] at prepared
      cases prepared
      exact day_features (lane_no_days _ _ _ _ _)

/-- What both paths record of a review. -/
def recordReview (values : ReviewValues F) (input : ReviewInput F) (state : FeatureState F V) :
    FeatureState F V :=
  recordProcessedValues values.ids.1 input.elapsedDays input.elapsedSeconds values.dayOffset
    (recordRecurrentIds values.ids state)

/-- Both rows of a review, from its values and its encodings. -/
def preparedStep (values : ReviewValues F) (input : ReviewInput F) (rating : Int64)
    (duration reviewState : F) (encodings : List V) : BulkFeatureStep V where
  ids := values.ids
  predictFeatures := directCardFeatures input values ++ encodings ++
    dayOffsetEncoding values.dayOffset values.dayOffsetFirst
  processFeatures :=
    processCardFeatures (directCardFeatures input values) rating duration reviewState ++
      encodings ++ dayOffsetEncoding values.dayOffset values.dayOffsetFirst

theorem record_prepared {row : PreparedRow F} (prepared : prepareProcessRow state input = .ok row)
    (reached : FeatureState F V) :
    recordRecurrentStateUpdate row reached =
        (.ok (), recordRecurrentIds (reviewValues state input).ids reached) ∧
      recordProcessedRow row reached = (.ok (), recordProcessedValues (reviewValues state input).ids.1
        input.elapsedDays input.elapsedSeconds (reviewValues state input).dayOffset reached) := by
  have found := process_row_id prepared
  have card := get_i64_of_int (found .cardId)
  cases fields : processFields input with
  | error message =>
      rw [prepareProcessRow, fields] at prepared
      cases prepared
  | ok values =>
      constructor
      · unfold recordRecurrentStateUpdate
        rw [(row_ids_of_int found).1]
        rfl
      · rw [prepareProcessRow, fields] at prepared
        cases prepared
        unfold recordProcessedRow
        rw [show getI64 _ "card_id" = _ from card]
        simp [getF64, getField, lane_row_field, laneFields, sharedFields, List.lookup_cons,
          List.lookup_nil,
          RowValue.asF64, bind, Except.bind, lift]
        rfl

/-- A prepass turn after the identities of the query row have been read. -/
theorem prepass_from_predict (state : FeatureState F V) (input : ReviewInput F) :
    featurePrepassStep input state = (do
      let predictFeatures ← predictFeatureVector (preparePredictRow state input)
      let processRow ← lift (prepareProcessRow (← current) input)
      let processFeatures ← processFeatureVector processRow
      recordRecurrentStateUpdate processRow
      recordProcessedRow processRow
      return ⟨normalizedReviewIds input, predictFeatures, processFeatures⟩ :
        Method (FeatureState F V) (BulkFeatureStep V)) state := by
  have read : lift (reviewIdsFromPrepared (preparePredictRow state input)) state =
      (.ok (normalizedReviewIds input), state) := by
    rw [(row_ids_of_int (predict_row_id state input)).2]
    rfl
  unfold featurePrepassStep
  rw [bind_of_ok (current_apply state)]
  exact bind_of_ok read

theorem prepass_ok {step : BulkFeatureStep V} :
    featurePrepassStep input state = (.ok step, after) ↔
      ∃ rating duration reviewState encodings reached,
        processFields input = .ok (rating, duration, reviewState) ∧
        encodeAll (reviewValues state input).ids true idSubmodules state =
          (.ok encodings, reached) ∧
        step = preparedStep (reviewValues state input) input rating duration reviewState encodings ∧
        after = recordReview (reviewValues state input) input reached := by
  have predictIds := predict_row_id state input
  have predictDays : dayOffsetFeatures (preparePredictRow state input) = .ok
      (dayOffsetEncoding (reviewValues state input).dayOffset
        (reviewValues state input).dayOffsetFirst : List V) :=
    day_features (lane_no_days _ _ _ _ _)
  have predicted := predict_vector state predictIds (predict_card_features state input) predictDays
  rw [prepass_from_predict]
  match drawn : encodeAll (reviewValues state input).ids true idSubmodules state with
  | (.error failure, reached) =>
      obtain ⟨failed, stopped⟩ := predicted.2 failure reached drawn
      rw [bind_of_error stopped]
      constructor
      · intro impossible
        cases impossible
      · rintro ⟨_, _, _, _, _, _, impossible, _⟩
        cases impossible
  | (.ok encodings, reached) =>
      rw [bind_of_ok (predicted.1 encodings reached drawn), bind_of_ok (current_apply state)]
      cases fields : processFields input with
      | error message =>
          have missing : prepareProcessRow state input = .error message := by
            rw [prepareProcessRow, fields]
            rfl
          rw [missing]
          constructor
          · intro impossible
            cases impossible
          · rintro ⟨_, _, _, _, _, impossible, _⟩
            cases impossible
      | ok values =>
          obtain ⟨rating, duration, reviewState⟩ := values
          obtain ⟨row, prepared⟩ : ∃ row, prepareProcessRow state input = .ok row := by
            rw [prepareProcessRow, fields]
            exact ⟨_, rfl⟩
          have vector := feature_vector_encoded true (process_row_id prepared)
            (process_card_features fields prepared) (process_day_features prepared)
          have processed : processFeatureVector row state = (.ok
              (preparedStep (reviewValues state input) input rating duration reviewState
                encodings).processFeatures, reached) := by
            unfold processFeatureVector
            rw [vector]
            exact bind_of_ok drawn
          have recurrent := (record_prepared prepared reached).1
          have recorded := (record_prepared prepared
            (recordRecurrentIds (reviewValues state input).ids reached)).2
          rw [prepared, bind_of_ok (lift_ok row state), bind_of_ok processed, bind_of_ok recurrent,
            bind_of_ok recorded]
          constructor
          · intro same
            cases same
            exact ⟨rating, duration, reviewState, encodings, reached, rfl, rfl, rfl, rfl⟩
          · rintro ⟨_, _, _, _, _, sameFields, sameDrawn, rfl, rfl⟩
            cases sameFields
            cases sameDrawn
            rfl

end Prepared

end RwkvSrs.DirectAgreement
