import RwkvSrs.ResultSteps
import RwkvSrs.ReviewMappings

/-!
When the two canonical records of one review agree. A field that both readings
accept gives the same text on both sides unless it is an integer that the
native row cannot hold: an identity or rating that is rounded into the range of
an i64, or a state that no float stands for.
-/

namespace RwkvSrs.CanonicalAgreement

open RecordText ResultSteps ReviewMappings

set_option autoImplicit false

def WithinI64 : PyValue → Prop
  | .int number => minI64 ≤ number ∧ number < endI64
  | _ => True

def HasFloat : PyValue → Prop
  | .int number => ∃ value : Binary64, value.integral = some number
  | _ => True

def i64Fields : List String :=
  ["review_id", "card_id", "note_id", "deck_id", "preset_id", "rating"]

structure RowExact (row : ReviewMapping) : Prop where
  integers : ∀ field ∈ i64Fields, ∀ value, row.get field = some value → WithinI64 value
  state : ∀ value, row.get "state" = some value → HasFloat value

theorem to_int_in_range (number : Int64) : minI64 ≤ number.toInt ∧ number.toInt < endI64 :=
  ⟨Int64.le_toInt number, Int64.toInt_lt number⟩

theorem of_int_in_range {number : Int} (range : minI64 ≤ number ∧ number < endI64) :
    (Int64.ofInt number).toInt = number :=
  Int64.toInt_ofInt_of_le range.1 range.2

theorem not_nan_of_finite {value : Binary64} (finite : value.isFinite) : value.isNan = false := by
  simp only [Binary64.isFinite, bne_iff_ne, ne_eq] at finite
  simp [Binary64.isNan, finite]

theorem finite_of_integral {value : Binary64} {number : Int}
    (stands : value.integral = some number) : value.isFinite :=
  (Binary64.integral_scaled stands).1

theorem integral_of_bool (value : Bool) :
    (Binary64.ofInteger (integerOfBool value)).integral = some (integerOfBool value) := by
  cases value <;> decide +kernel

theorem float_of_integer_some {number : Int} {value : Binary64}
    (converted : floatOfInteger number = some value) :
    value = Binary64.ofInteger number ∧ value.isFinite := by
  unfold floatOfInteger at converted
  split at converted
  · rename_i finite
    cases converted
    exact ⟨rfl, finite⟩
  · cases converted

theorem integral_i64_ok {value : Binary64} {number : Int64}
    (converted : integralF64ToI64 value = some number) :
    value.integral = some number.toInt ∧ value.isFinite := by
  unfold integralF64ToI64 at converted
  split at converted
  · rename_i whole stands
    split at converted
    · rename_i range
      cases converted
      rw [of_int_in_range range]
      exact ⟨stands, finite_of_integral stands⟩
    · cases converted
  · cases converted

/-- The outcome of an accepted integer: the Python integer is the native one exactly when
the value is in range. -/
def IntegersMatch (value : PyValue) (number : Int64) (json : JsonValue) : Prop :=
  ∃ whole : Int, json = .int whole ∧ (whole = number.toInt ↔ WithinI64 value)

theorem canonical_integer {field : String} (integer : field ∈ historyIntegerFields)
    {value : PyValue} (present : isMissing value = .ok false) :
    canonicalReviewValue field value = (canonicalInt value field).map .int := by
  unfold canonicalReviewValue
  rw [present]
  simp only [integer, if_true]
  cases canonicalInt value field <;> rfl

theorem int_not_missing {number : Int} {value : Binary64}
    (converted : floatOfInteger number = some value) : isMissing (.int number) = .ok false := by
  have finite := (float_of_integer_some converted).2
  simp only [isMissing, pythonFloat, converted]
  change Except.ok value.isNan = _
  rw [not_nan_of_finite finite]

theorem canonical_int_value {field : String} (integer : field ∈ historyIntegerFields)
    {number : Int} {json : JsonValue}
    (canonical : canonicalReviewValue field (.int number) = .ok json) : json = .int number := by
  cases converted : floatOfInteger number with
  | none =>
      unfold canonicalReviewValue at canonical
      simp only [isMissing, pythonFloat, converted] at canonical
      cases canonical
  | some value =>
      rw [canonical_integer integer (int_not_missing converted)] at canonical
      cases canonical
      rfl

theorem canonical_float_value {field : String} (integer : field ∈ historyIntegerFields)
    {value : Binary64} {number : Int} {json : JsonValue} (stands : value.integral = some number)
    (canonical : canonicalReviewValue field (.float value) = .ok json) : json = .int number := by
  have present : isMissing (.float value) = .ok false := by
    simp only [isMissing, not_nan_of_finite (finite_of_integral stands)]
  rw [canonical_integer integer present] at canonical
  simp only [canonicalInt, stands] at canonical
  cases canonical
  rfl

theorem bool_matches {field : String} (integer : field ∈ historyIntegerFields) {value : Bool}
    {json : JsonValue} (canonical : canonicalReviewValue field (.bool value) = .ok json) :
    IntegersMatch (.bool value) (Int64.ofInt (integerOfBool value)) json := by
  rw [canonical_integer integer rfl] at canonical
  cases canonical
  refine ⟨_, rfl, ?_⟩
  cases value <;> simp [WithinI64, integerOfBool]

theorem int_matches {field : String} (integer : field ∈ historyIntegerFields) {number : Int}
    {found : Int64} {json : JsonValue}
    (exact_of_range : minI64 ≤ number ∧ number < endI64 → found = Int64.ofInt number)
    (canonical : canonicalReviewValue field (.int number) = .ok json) :
    IntegersMatch (.int number) found json := by
  refine ⟨number, canonical_int_value integer canonical, ?_⟩
  constructor
  · intro same
    have range := to_int_in_range found
    rw [← same] at range
    exact range
  · intro range
    rw [exact_of_range range, of_int_in_range range]

theorem float_matches {field : String} (integer : field ∈ historyIntegerFields) {value : Binary64}
    {found : Int64} {json : JsonValue} (converted : integralF64ToI64 value = some found)
    (canonical : canonicalReviewValue field (.float value) = .ok json) :
    IntegersMatch (.float value) found json :=
  ⟨found.toInt, canonical_float_value integer (integral_i64_ok converted).1 canonical,
    fun _ => trivial, fun _ => rfl⟩

theorem parse_i64_matches {field : String} (integer : field ∈ historyIntegerFields)
    {value : PyValue} {number : Int64} {json : JsonValue}
    (parsed : parseI64 value field = .ok number)
    (canonical : canonicalReviewValue field value = .ok json) :
    IntegersMatch value number json := by
  cases value with
  | none => cases parsed
  | na => cases parsed
  | bool value =>
      cases parsed
      exact bool_matches integer canonical
  | int whole =>
      apply int_matches integer _ canonical
      intro range
      simp only [parseI64, extractI64, range, and_self, if_true] at parsed
      cases parsed
      rfl
  | float value =>
      simp only [parseI64, extractI64, extractF64] at parsed
      split at parsed
      · cases parsed
      · split at parsed
        · rename_i found converted
          cases parsed
          exact float_matches integer converted canonical
        · cases parsed

/-- The outcome of an accepted identity. -/
def IdsMatch (value : PyValue) (id : MaybeId) (json : JsonValue) : Prop :=
  (id = .missing ∧ json = .null ∧ WithinI64 value) ∨
    ∃ number, id = .present number ∧ IntegersMatch value number json

theorem parse_id_matches {field : String} (integer : field ∈ historyIntegerFields)
    {value : PyValue} {id : MaybeId} {json : JsonValue} (parsed : parseId value field = .ok id)
    (canonical : canonicalReviewValue field value = .ok json) : IdsMatch value id json := by
  cases value with
  | none =>
      cases parsed
      cases canonical
      exact Or.inl ⟨rfl, rfl, trivial⟩
  | na =>
      cases parsed
      cases canonical
      exact Or.inl ⟨rfl, rfl, trivial⟩
  | bool value =>
      cases parsed
      exact Or.inr ⟨_, rfl, bool_matches integer canonical⟩
  | int whole =>
      right
      simp only [parseId, reduceCtorEq, if_false, extractI64, extractF64] at parsed
      by_cases range : minI64 ≤ whole ∧ whole < endI64
      · simp only [range, and_self, if_true] at parsed
        cases parsed
        exact ⟨_, rfl, int_matches integer (fun _ => rfl) canonical⟩
      · simp only [range, if_false] at parsed
        have outside : ∀ found : Int64, IntegersMatch (.int whole) found json :=
          fun found => int_matches integer (fun within => absurd within range) canonical
        cases converted : floatOfInteger whole with
        | none =>
            have missing : nativeIsMissing (.int whole) = false := by
              simp [nativeIsMissing, extractF64, converted]
            simp [converted, missing, parseI64, extractI64, extractF64, range, valueError,
              Except.map] at parsed
        | some value =>
            have number := not_nan_of_finite (float_of_integer_some converted).2
            simp only [converted, number, Bool.false_eq_true, if_false] at parsed
            split at parsed
            · cases parsed
              exact ⟨_, rfl, outside _⟩
            · cases parsed
  | float value =>
      simp only [parseId, reduceCtorEq, if_false, extractI64, extractF64] at parsed
      split at parsed
      · rename_i nan
        cases parsed
        have missing : isMissing (.float value) = .ok true := by simp only [isMissing, nan]
        unfold canonicalReviewValue at canonical
        rw [missing] at canonical
        cases canonical
        exact Or.inl ⟨rfl, rfl, trivial⟩
      · split at parsed
        · rename_i found converted
          cases parsed
          exact Or.inr ⟨found, rfl, float_matches integer converted canonical⟩
        · cases parsed

theorem canonical_float_ok {field : String} (float : field ∉ historyIntegerFields)
    {value : PyValue} {found : Binary64} {json : JsonValue} (present : isMissing value = .ok false)
    (converted : canonicalFloat value field = .ok found)
    (canonical : canonicalReviewValue field value = .ok json) : json = .float found := by
  unfold canonicalReviewValue at canonical
  rw [present, converted] at canonical
  simp only [float, if_false] at canonical
  cases canonical
  rfl

theorem parse_f64_finite {value : PyValue} {field : String} {number : Binary64}
    (parsed : parseF64 value field = .ok number) :
    extractF64 value = some number ∧ number.isFinite := by
  unfold parseF64 at parsed
  split at parsed
  · rename_i found extracted
    split at parsed
    · rename_i finite
      cases parsed
      exact ⟨extracted, finite⟩
    · split at parsed
      · cases parsed
      · cases parsed
  · split at parsed
    · cases parsed
    · cases parsed

theorem parse_f64_matches {field : String} (float : field ∉ historyIntegerFields)
    {value : PyValue} {number : Binary64} {json : JsonValue}
    (parsed : parseF64 value field = .ok number)
    (canonical : canonicalReviewValue field value = .ok json) : json = .float number := by
  have extracted := parse_f64_finite parsed
  have kept : finiteOrError number field = .ok number := by simp [finiteOrError, extracted.2]
  cases value with
  | none => cases extracted.1
  | na => cases extracted.1
  | bool value =>
      cases extracted.1
      apply canonical_float_ok float rfl _ canonical
      exact kept
  | int whole =>
      have converted : floatOfInteger whole = some number := extracted.1
      apply canonical_float_ok float (int_not_missing converted) _ canonical
      simp only [canonicalFloat, pythonFloat, converted]
      exact kept
  | float value =>
      cases extracted.1
      apply canonical_float_ok float _ _ canonical
      · simp only [isMissing, not_nan_of_finite extracted.2]
      · exact kept

theorem state_matches {value : PyValue} {number : Binary64} {text : String} {json : JsonValue}
    (parsed : parseF64 value "state" = .ok number) (written : integerFloatText number = .ok text)
    (canonical : canonicalReviewValue "state" value = .ok json) :
    ∃ whole other : Int, json = .int whole ∧ text = other.repr ∧
      (whole = other ↔ HasFloat value) := by
  have integer : "state" ∈ historyIntegerFields := by decide
  have extracted := parse_f64_finite parsed
  have digits : ∃ other, number.integral = some other ∧ text = other.repr := by
    unfold integerFloatText at written
    split at written
    · rename_i other stands
      refine ⟨other, stands, ?_⟩
      split at written
      · rename_i range
        cases written
        rw [of_int_in_range range]
      · cases written
        rfl
    · cases written
  obtain ⟨other, stands, rfl⟩ := digits
  cases value with
  | none => cases extracted.1
  | na => cases extracted.1
  | bool value =>
      cases extracted.1
      rw [integral_of_bool] at stands
      cases stands
      rw [canonical_integer integer rfl] at canonical
      cases canonical
      exact ⟨_, _, rfl, rfl, fun _ => trivial, fun _ => rfl⟩
  | int whole =>
      have converted : floatOfInteger whole = some number := extracted.1
      have rounded := (float_of_integer_some converted).1
      refine ⟨whole, other, canonical_int_value integer canonical, rfl, ?_⟩
      constructor
      · intro same
        exact ⟨number, same ▸ stands⟩
      · rintro ⟨exact, standsFor⟩
        have survived := Binary64.of_integer_exact standsFor
        rw [← rounded, stands] at survived
        exact (Option.some.inj survived).symm
  | float value =>
      cases extracted.1
      exact ⟨_, _, canonical_float_value integer stands canonical, rfl, fun _ => trivial,
        fun _ => rfl⟩

/-- The row has the field, and parsing its value gives the result. -/
def Reads {Value : Type} (row : ReviewMapping) (field : String)
    (parse : PyValue → String → PyResult Value) (result : Value) : Prop :=
  ∃ value, row.get field = some value ∧ parse value field = .ok result

structure ParsedFrom (row : ReviewMapping) (input : ReviewInput Binary64) : Prop where
  reviewId : Reads row "review_id" parseI64 input.reviewId
  cardId : Reads row "card_id" parseI64 input.cardId
  noteId : Reads row "note_id" parseId input.noteId
  deckId : Reads row "deck_id" parseId input.deckId
  presetId : Reads row "preset_id" parseId input.presetId
  dayOffset : Reads row "day_offset" parseF64 input.dayOffset
  elapsedDays : Reads row "elapsed_days" parseF64 input.elapsedDays
  elapsedSeconds : Reads row "elapsed_seconds" parseF64 input.elapsedSeconds
  rating : ∃ number, input.rating = some number ∧ Reads row "rating" parseI64 number
  duration : ∃ number, input.duration = some number ∧ Reads row "duration" parseF64 number
  state : ∃ number, input.state = some number ∧ Reads row "state" parseF64 number

theorem get_item_ok {row : ReviewMapping} {field : String} {value : PyValue}
    (found : getItem row field = .ok value) : row.get field = some value := by
  unfold getItem at found
  split at found
  · rename_i present
    cases found
    exact present
  · cases found

theorem process_field_reads {Value : Type} {row : ReviewMapping} {field : String}
    {parse : PyValue → String → PyResult Value} {result : Option Value}
    (parsed : processField row field true parse = .ok result) :
    ∃ number, result = some number ∧ Reads row field parse number := by
  unfold processField at parsed
  simp only [if_true] at parsed
  obtain ⟨value, got, read⟩ := bind_ok.mp parsed
  cases outcome : parse value field with
  | error error =>
      rw [outcome] at read
      cases read
  | ok number =>
      rw [outcome] at read
      cases read
      exact ⟨number, rfl, value, get_item_ok got, outcome⟩

theorem mapping_parsed {row : ReviewMapping} {input : ReviewInput Binary64}
    (parsed : reviewFromMapping row true = .ok input) : ParsedFrom row input := by
  unfold reviewFromMapping at parsed
  obtain ⟨reviewId, gotReview, parsed⟩ := bind_ok.mp parsed
  obtain ⟨_, readReview, parsed⟩ := bind_ok.mp parsed
  obtain ⟨cardId, gotCard, parsed⟩ := bind_ok.mp parsed
  obtain ⟨_, readCard, parsed⟩ := bind_ok.mp parsed
  obtain ⟨noteId, gotNote, parsed⟩ := bind_ok.mp parsed
  obtain ⟨_, readNote, parsed⟩ := bind_ok.mp parsed
  obtain ⟨deckId, gotDeck, parsed⟩ := bind_ok.mp parsed
  obtain ⟨_, readDeck, parsed⟩ := bind_ok.mp parsed
  obtain ⟨presetId, gotPreset, parsed⟩ := bind_ok.mp parsed
  obtain ⟨_, readPreset, parsed⟩ := bind_ok.mp parsed
  obtain ⟨dayOffset, gotOffset, parsed⟩ := bind_ok.mp parsed
  obtain ⟨_, readOffset, parsed⟩ := bind_ok.mp parsed
  obtain ⟨elapsedDays, gotDays, parsed⟩ := bind_ok.mp parsed
  obtain ⟨_, readDays, parsed⟩ := bind_ok.mp parsed
  obtain ⟨elapsedSeconds, gotSeconds, parsed⟩ := bind_ok.mp parsed
  obtain ⟨_, readSeconds, parsed⟩ := bind_ok.mp parsed
  obtain ⟨_, rating, parsed⟩ := bind_ok.mp parsed
  obtain ⟨_, duration, parsed⟩ := bind_ok.mp parsed
  obtain ⟨_, state, parsed⟩ := bind_ok.mp parsed
  cases parsed
  exact {
    reviewId := ⟨reviewId, get_item_ok gotReview, readReview⟩
    cardId := ⟨cardId, get_item_ok gotCard, readCard⟩
    noteId := ⟨noteId, get_item_ok gotNote, readNote⟩
    deckId := ⟨deckId, get_item_ok gotDeck, readDeck⟩
    presetId := ⟨presetId, get_item_ok gotPreset, readPreset⟩
    dayOffset := ⟨dayOffset, get_item_ok gotOffset, readOffset⟩
    elapsedDays := ⟨elapsedDays, get_item_ok gotDays, readDays⟩
    elapsedSeconds := ⟨elapsedSeconds, get_item_ok gotSeconds, readSeconds⟩
    rating := process_field_reads rating
    duration := process_field_reads duration
    state := process_field_reads state }

theorem process_review_parsed {row : ReviewMapping} {input : ReviewInput Binary64}
    (parsed : processReview row = .ok input) : ParsedFrom row input := by
  unfold processReview processReviewFromDict at parsed
  split at parsed
  · split at parsed
    · exact mapping_parsed parsed
    · cases parsed
  · exact mapping_parsed parsed

theorem no_missing_columns {row : ReviewMapping} {input : ReviewInput Binary64}
    (fields : ParsedFrom row input) : missingColumns row = [] := by
  have present : ∀ {Value : Type} {field : String} {parse : PyValue → String → PyResult Value}
      {result : Value}, Reads row field parse result → (row.get field).isNone = false := by
    intro Value field parse result read
    obtain ⟨value, found, _⟩ := read
    rw [found]
    rfl
  obtain ⟨_, _, rating⟩ := fields.rating
  obtain ⟨_, _, duration⟩ := fields.duration
  obtain ⟨_, _, state⟩ := fields.state
  simp [missingColumns, processRequiredColumns, present fields.reviewId, present fields.cardId,
    present fields.noteId, present fields.deckId, present fields.presetId,
    present fields.dayOffset, present fields.elapsedDays, present fields.elapsedSeconds,
    present rating, present duration, present state]

/-- The two texts of a field can be told apart, and agree exactly under the condition. -/
structure TextsMatch (python native : String) (exact : Prop) : Prop where
  separable : Separable python native
  agree : python = native ↔ exact

section Texts

variable (floatRepr : Binary64 → String)

theorem decimals_match {left right : Int} {exact : Prop} (agree : left = right ↔ exact) :
    TextsMatch left.repr right.repr exact := by
  constructor
  · exact Or.inr ⟨decimal_clean left, decimal_clean right⟩
  · rw [Int.repr_inj]
    exact agree

theorem same_texts (text : String) {exact : Prop} (holds : exact) : TextsMatch text text exact :=
  ⟨Or.inl rfl, fun _ => holds, fun _ => rfl⟩

theorem integers_text {value : PyValue} {number : Int64} {json : JsonValue}
    (matched : IntegersMatch value number json) :
    TextsMatch (json.dumps floatRepr) number.toInt.repr (WithinI64 value) := by
  obtain ⟨whole, rfl, agree⟩ := matched
  exact decimals_match agree

theorem ids_text {value : PyValue} {id : MaybeId} {json : JsonValue}
    (matched : IdsMatch value id json) :
    TextsMatch (json.dumps floatRepr) (maybeIdText id) (WithinI64 value) := by
  rcases matched with ⟨rfl, rfl, within⟩ | ⟨number, rfl, integers⟩
  · exact same_texts _ within
  · exact integers_text floatRepr integers

/-- What the canonicaliser makes of one field of a row. -/
def CanonicalField (row : ReviewMapping) (field : String) (json : JsonValue) : Prop :=
  (do canonicalReviewValue field (← getItem row field) : PyResult JsonValue) = .ok json

theorem canonical_of_value {row : ReviewMapping} {field : String} {json : JsonValue}
    {value : PyValue} (present : row.get field = some value)
    (canonical : CanonicalField row field json) : canonicalReviewValue field value = .ok json := by
  obtain ⟨found, got, rest⟩ := bind_ok.mp canonical
  have same := get_item_ok got
  rw [present] at same
  cases same
  exact rest

theorem exact_of_value {row : ReviewMapping} {field : String} {value : PyValue}
    (present : row.get field = some value) (Exact : PyValue → Prop) :
    Exact value ↔ ∀ other, row.get field = some other → Exact other := by
  constructor
  · intro exact other found
    rw [present] at found
    cases found
    exact exact
  · intro all
    exact all value present

theorem integer_field {row : ReviewMapping} {field : String} {number : Int64} {json : JsonValue}
    (integer : field ∈ historyIntegerFields) (read : Reads row field parseI64 number)
    (canonical : CanonicalField row field json) :
    TextsMatch (json.dumps floatRepr) number.toInt.repr
      (∀ value, row.get field = some value → WithinI64 value) := by
  obtain ⟨value, present, parsed⟩ := read
  rw [← exact_of_value present WithinI64]
  apply integers_text
  exact parse_i64_matches integer parsed (canonical_of_value present canonical)

theorem id_field {row : ReviewMapping} {field : String} {id : MaybeId} {json : JsonValue}
    (integer : field ∈ historyIntegerFields) (read : Reads row field parseId id)
    (canonical : CanonicalField row field json) :
    TextsMatch (json.dumps floatRepr) (maybeIdText id)
      (∀ value, row.get field = some value → WithinI64 value) := by
  obtain ⟨value, present, parsed⟩ := read
  rw [← exact_of_value present WithinI64]
  apply ids_text
  exact parse_id_matches integer parsed (canonical_of_value present canonical)

theorem float_field {row : ReviewMapping} {field : String} {number : Binary64} {json : JsonValue}
    (float : field ∉ historyIntegerFields) (read : Reads row field parseF64 number)
    (canonical : CanonicalField row field json) :
    TextsMatch (json.dumps floatRepr) (floatRepr number) True := by
  obtain ⟨value, present, parsed⟩ := read
  rw [parse_f64_matches float parsed (canonical_of_value present canonical)]
  exact same_texts _ trivial

theorem state_field {row : ReviewMapping} {number : Binary64} {text : String} {json : JsonValue}
    (read : Reads row "state" parseF64 number) (written : integerFloatText number = .ok text)
    (canonical : CanonicalField row "state" json) :
    TextsMatch (json.dumps floatRepr) text
      (∀ value, row.get "state" = some value → HasFloat value) := by
  obtain ⟨value, present, parsed⟩ := read
  rw [← exact_of_value present HasFloat]
  obtain ⟨whole, other, rfl, rfl, agree⟩ :=
    state_matches parsed written (canonical_of_value present canonical)
  exact decimals_match agree

theorem row_exact_iff (row : ReviewMapping) :
    RowExact row ↔
      (∀ value, row.get "review_id" = some value → WithinI64 value) ∧
      (∀ value, row.get "card_id" = some value → WithinI64 value) ∧
      (∀ value, row.get "note_id" = some value → WithinI64 value) ∧
      (∀ value, row.get "deck_id" = some value → WithinI64 value) ∧
      (∀ value, row.get "preset_id" = some value → WithinI64 value) ∧
      (∀ value, row.get "rating" = some value → WithinI64 value) ∧
      (∀ value, row.get "state" = some value → HasFloat value) := by
  constructor
  · intro exact
    have within := exact.integers
    simp only [i64Fields, List.forall_mem_cons] at within
    obtain ⟨review, card, note, deck, preset, rating, _⟩ := within
    exact ⟨review, card, note, deck, preset, rating, exact.state⟩
  · rintro ⟨review, card, note, deck, preset, rating, state⟩
    refine ⟨?_, state⟩
    simp only [i64Fields, List.forall_mem_cons]
    exact ⟨review, card, note, deck, preset, rating, by simp⟩

/-- The texts of the eleven fields of a native row, in the order of the record. -/
def nativeTexts (input : ReviewInput Binary64) (rating : Int64) (duration : Binary64)
    (stateText : String) : List String :=
  [input.reviewId.toInt.repr, input.cardId.toInt.repr, maybeIdText input.noteId,
    maybeIdText input.deckId, maybeIdText input.presetId, floatRepr input.dayOffset,
    floatRepr input.elapsedDays, floatRepr input.elapsedSeconds, rating.toInt.repr,
    floatRepr duration, stateText]

theorem native_record {input : ReviewInput Binary64} {rating : Int64}
    {duration state : Binary64} {native : String} (isRating : input.rating = some rating)
    (isDuration : input.duration = some duration) (isState : input.state = some state)
    (written : nativeReviewText floatRepr input = .ok native) :
    ∃ stateText, integerFloatText state = .ok stateText ∧
      native = recordText (historyFingerprintFields.zip
        (nativeTexts floatRepr input rating duration stateText)) := by
  unfold nativeReviewText at written
  rw [isRating, isDuration, isState] at written
  obtain ⟨_, rated, written⟩ := bind_ok.mp written
  cases rated
  obtain ⟨_, lasted, written⟩ := bind_ok.mp written
  cases lasted
  obtain ⟨_, placed, written⟩ := bind_ok.mp written
  cases placed
  obtain ⟨stateText, stateWritten, finished⟩ := bind_ok.mp written
  refine ⟨stateText, stateWritten, ?_⟩
  have texts := Except.ok.inj finished
  rw [← texts, ← String.toList_inj]
  simp only [recordText, historyFingerprintFields, processRequiredColumns, nativeTexts,
    List.zip_cons_cons, List.zip_nil_right, recordFields, String.toList_append,
    String.reduceToList, List.append_assoc, List.cons_append, List.nil_append]

theorem texts_agree_cons {python native : String} {pythons natives : List String}
    {exact rest : Prop} (first : TextsMatch python native exact)
    (others : List.Forall₂ Separable pythons natives ∧ (pythons = natives ↔ rest)) :
    List.Forall₂ Separable (python :: pythons) (native :: natives) ∧
      (python :: pythons = native :: natives ↔ exact ∧ rest) := by
  constructor
  · exact List.Forall₂.cons first.separable others.1
  · rw [List.cons.injEq, first.agree, others.2]

theorem record_texts_agree {row : ReviewMapping} {input : ReviewInput Binary64}
    {rating : Int64} {duration state : Binary64} {stateText : String} {record : List JsonValue}
    (fields : ParsedFrom row input) (readRating : Reads row "rating" parseI64 rating)
    (readDuration : Reads row "duration" parseF64 duration)
    (readState : Reads row "state" parseF64 state)
    (stateWritten : integerFloatText state = .ok stateText)
    (pairs : List.Forall₂ (CanonicalField row) historyFingerprintFields record) :
    List.Forall₂ Separable (record.map (JsonValue.dumps floatRepr))
        (nativeTexts floatRepr input rating duration stateText) ∧
      (record.map (JsonValue.dumps floatRepr) =
        nativeTexts floatRepr input rating duration stateText ↔ RowExact row) := by
  unfold historyFingerprintFields processRequiredColumns at pairs
  rcases pairs with _ | ⟨reviewId, pairs⟩
  rcases pairs with _ | ⟨cardId, pairs⟩
  rcases pairs with _ | ⟨noteId, pairs⟩
  rcases pairs with _ | ⟨deckId, pairs⟩
  rcases pairs with _ | ⟨presetId, pairs⟩
  rcases pairs with _ | ⟨dayOffset, pairs⟩
  rcases pairs with _ | ⟨elapsedDays, pairs⟩
  rcases pairs with _ | ⟨elapsedSeconds, pairs⟩
  rcases pairs with _ | ⟨rated, pairs⟩
  rcases pairs with _ | ⟨lasted, pairs⟩
  rcases pairs with _ | ⟨placed, pairs⟩
  cases pairs
  have none : List.Forall₂ Separable [] [] ∧ (([] : List String) = [] ↔ True) := by simp
  have states := texts_agree_cons (state_field floatRepr readState stateWritten placed) none
  have durations := texts_agree_cons (float_field floatRepr (by decide) readDuration lasted) states
  have ratings :=
    texts_agree_cons (integer_field floatRepr (by decide) readRating rated) durations
  have seconds := texts_agree_cons
    (float_field floatRepr (by decide) fields.elapsedSeconds elapsedSeconds) ratings
  have days :=
    texts_agree_cons (float_field floatRepr (by decide) fields.elapsedDays elapsedDays) seconds
  have offsets :=
    texts_agree_cons (float_field floatRepr (by decide) fields.dayOffset dayOffset) days
  have presets := texts_agree_cons (id_field floatRepr (by decide) fields.presetId presetId) offsets
  have decks := texts_agree_cons (id_field floatRepr (by decide) fields.deckId deckId) presets
  have notes := texts_agree_cons (id_field floatRepr (by decide) fields.noteId noteId) decks
  have cards := texts_agree_cons (integer_field floatRepr (by decide) fields.cardId cardId) notes
  have all := texts_agree_cons (integer_field floatRepr (by decide) fields.reviewId reviewId) cards
  simp only [true_and, and_true] at all
  rw [row_exact_iff]
  exact all

/-- The record text of an accepted row is the same on both sides exactly when the native
row holds its integers. -/
theorem row_text_agrees {row : ReviewMapping} {input : ReviewInput Binary64}
    {python native : String} (parsed : processReview row = .ok input)
    (canonical : canonicalReviewText floatRepr row = .ok python)
    (written : nativeReviewText floatRepr input = .ok native) :
    python = native ↔ RowExact row := by
  have fields := process_review_parsed parsed
  obtain ⟨rating, isRating, readRating⟩ := fields.rating
  obtain ⟨duration, isDuration, readDuration⟩ := fields.duration
  obtain ⟨state, isState, readState⟩ := fields.state
  obtain ⟨stateText, stateWritten, rfl⟩ :=
    native_record floatRepr isRating isDuration isState written
  obtain ⟨record, mapped, finished⟩ := bind_ok.mp canonical
  have texts := Except.ok.inj finished
  subst texts
  have pairs : List.Forall₂ (CanonicalField row) historyFingerprintFields record := mapM_ok mapped
  have agree := record_texts_agree floatRepr fields readRating readDuration readState stateWritten
    pairs
  rw [← agree.2]
  constructor
  · intro same
    have named : (record.map (JsonValue.dumps floatRepr)).length =
        historyFingerprintFields.length := by
      rw [List.length_map, pairs.length_eq]
    exact record_text_injective agree.1 same named
  · intro same
    rw [same]

end Texts

end RwkvSrs.CanonicalAgreement
