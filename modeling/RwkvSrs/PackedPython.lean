import RwkvSrs.PackedFormats

/-!
The Python packer. Whatever rows it packs, the native parser of review
mappings reads the same rows as reviews whose native payload has the same
bytes; and the plain mapping of any process review is packed to the native
payload of that review.
-/

namespace RwkvSrs.PackedPython

set_option autoImplicit false

open RwkvSrs.CanonicalAgreement RwkvSrs.LittleEndian RwkvSrs.PackedFormats RwkvSrs.PackedRecords
open RwkvSrs.PackedReviews RwkvSrs.ResultSteps RwkvSrs.ReviewMappings

theorem python_float_ok {number : Int} {value : Binary64}
    (converted : pythonFloat number = .ok value) : floatOfInteger number = some value := by
  rw [pythonFloat] at converted
  cases found : floatOfInteger number with
  | none =>
      rw [found] at converted
      cases converted
  | some other =>
      rw [found] at converted
      cases converted
      rfl

/-- A packed integer in range is the integer the native parser reads. -/
theorem packed_int_read {value : PyValue} {field : String} {number : Int}
    (packed : packedRequiredInt value field = .ok number)
    (range : minI64 ≤ number ∧ number < endI64) :
    parseI64 value field = .ok (Int64.ofInt number) := by
  unfold packedRequiredInt at packed
  obtain ⟨missing, checked, packed⟩ := bind_ok.mp packed
  cases missing with
  | true => cases packed
  | false =>
      cases value with
      | none => cases checked
      | na => cases checked
      | bool value =>
          cases packed
          rfl
      | int whole =>
          cases packed
          simp [parseI64, extractI64, range]
      | float value =>
          have real : value.isNan = false := Except.ok.inj checked
          cases stands : value.integral with
          | none =>
              simp only [stands] at packed
              cases packed
          | some whole =>
              simp only [stands] at packed
              cases packed
              simp [parseI64, extractI64, extractF64, integralF64ToI64, real, stands, range]

theorem packed_float_read {value : PyValue} {field : String} {number : Binary64}
    (packed : packedRequiredFloat value field = .ok number) : parseF64 value field = .ok number := by
  unfold packedRequiredFloat at packed
  obtain ⟨missing, checked, packed⟩ := bind_ok.mp packed
  cases missing with
  | true => cases packed
  | false =>
      cases value with
      | none => cases checked
      | na => cases checked
      | bool value =>
          cases packed
          have finite : (Binary64.ofInteger (integerOfBool value)).isFinite :=
            finite_of_integral (integral_of_bool value)
          simp [parseF64, extractF64, finite]
      | int whole =>
          have converted := python_float_ok packed
          have finite := (float_of_integer_some converted).2
          simp [parseF64, extractF64, converted, finite]
      | float value =>
          by_cases finite : value.isFinite
          · simp only [finite, if_true] at packed
            cases packed
            simp [parseF64, extractF64, finite]
          · simp only [finite] at packed
            cases packed

/-- What the native side makes of a presence flag and an id. -/
def packedId (pair : Int × Int) : MaybeId :=
  if pair.1 = 0 then .missing else .present (Int64.ofInt pair.2)

theorem packed_id_read {value : PyValue} {field : String} {pair : Int × Int}
    (packed : packedOptionalId value field = .ok pair)
    (range : minI64 ≤ pair.2 ∧ pair.2 < endI64) :
    parseId value field = .ok (packedId pair) ∧ (pair = (0, 0) ∨ pair.1 = 1) := by
  unfold packedOptionalId at packed
  obtain ⟨missing, checked, packed⟩ := bind_ok.mp packed
  cases missing with
  | true =>
      cases packed
      refine ⟨?_, Or.inl rfl⟩
      cases value with
      | none => rfl
      | na => rfl
      | bool value => cases checked
      | int whole =>
          rw [packedIsMissing] at checked
          cases converted : pythonFloat whole with
          | error failure =>
              rw [converted] at checked
              cases checked
          | ok found =>
              rw [converted] at checked
              have finite := (float_of_integer_some (python_float_ok converted)).2
              have real := not_nan_of_finite finite
              have nan : found.isNan = true := Except.ok.inj checked
              rw [real] at nan
              cases nan
      | float value =>
          have nan : value.isNan = true := Except.ok.inj checked
          simp [parseId, extractI64, extractF64, nan, packedId]
  | false =>
      obtain ⟨number, integer, same⟩ := bind_ok.mp packed
      cases same
      have read := packed_int_read integer range
      refine ⟨?_, Or.inr rfl⟩
      cases value with
      | none => cases checked
      | na => cases checked
      | bool value =>
          cases integer
          rfl
      | int whole =>
          rw [packedRequiredInt, checked] at integer
          cases integer
          simp [parseId, extractI64, range, packedId]
      | float value =>
          have real : value.isNan = false := Except.ok.inj checked
          rw [packedRequiredInt, checked] at integer
          cases stands : value.integral with
          | none =>
              rw [stands] at integer
              cases integer
          | some whole =>
              rw [stands] at integer
              cases integer
              simp [parseId, extractI64, extractF64, integralF64ToI64, real, stands, range,
                packedId]

theorem struct_word_ok {index : Nat} {number : Int} {bytes : List UInt8}
    (packed : structWord index number = .ok bytes) :
    (minI64 ≤ number ∧ number < endI64) ∧ bytes = toLe 8 (wordOfInteger (Int64.ofInt number)) := by
  rw [structWord] at packed
  split at packed
  · cases packed
    exact ⟨by assumption, rfl⟩
  · cases packed

/-- A field the Python packer fetched. -/
theorem item_read {Value : Type} {row : ReviewMapping} {field : String} {value : PyValue}
    {parse : PyValue → String → PyResult Value} {result : Value}
    (found : getItem row field = .ok value) (read : parse value field = .ok result) :
    Reads row field parse result := ⟨value, get_item_ok found, read⟩

theorem item_then {Value Next : Type} {row : ReviewMapping} {field : String}
    {parse : PyValue → String → PyResult Value} {result : Value} (read : Reads row field parse result)
    (next : Value → PyResult Next) :
    (do next (← parse (← getItem row field) field)) = next result := by
  obtain ⟨value, found, parsed⟩ := read
  rw [getItem, found]
  change (parse value field >>= next) = _
  rw [parsed]
  rfl

theorem process_field_of_reads {Value : Type} {row : ReviewMapping} {field : String}
    {parse : PyValue → String → PyResult Value} {result : Value} (read : Reads row field parse result) :
    processField row field true parse = .ok (some result) := by
  obtain ⟨value, found, parsed⟩ := read
  simp only [processField, if_true, getItem, found]
  change (parse value field).map some = _
  rw [parsed]
  rfl

/-- A mapping whose fields parse is read as the review of those fields. -/
theorem dict_of_parsed {row : ReviewMapping} {input : ReviewInput Binary64}
    (fields : ParsedFrom row input) : processReviewFromDict row = .ok input := by
  obtain ⟨rating, hasRating, readRating⟩ := fields.rating
  obtain ⟨duration, hasDuration, readDuration⟩ := fields.duration
  obtain ⟨state, hasState, readState⟩ := fields.state
  have columns : (missingColumns row).isEmpty = true := by rw [no_missing_columns fields]; rfl
  rw [processReviewFromDict, if_pos columns, reviewFromMapping, item_then fields.reviewId,
    item_then fields.cardId, item_then fields.noteId, item_then fields.deckId,
    item_then fields.presetId, item_then fields.dayOffset, item_then fields.elapsedDays,
    item_then fields.elapsedSeconds, process_field_of_reads readRating,
    process_field_of_reads readDuration, process_field_of_reads readState, ← hasRating,
    ← hasDuration, ← hasState]
  rfl

/-- The words of an id, from the pair of integers the packer makes of it. -/
theorem id_pair_words {pair : Int × Int} {index : Nat} {flag id : List UInt8}
    (shape : pair = (0, 0) ∨ pair.1 = 1) (flagPacked : structWord index pair.1 = .ok flag)
    (idPacked : structWord index pair.2 = .ok id) :
    flag ++ id = appendMaybeId (packedId pair) := by
  rw [(struct_word_ok flagPacked).2, (struct_word_ok idPacked).2]
  rcases shape with same | present
  · rw [same]
    rfl
  · rw [present, packedId, present]
    rfl

/-- A row the Python packer packs is read by the native parser, and packed to the same record. -/
theorem packed_row_read {row : ReviewMapping} {index : Nat} {bytes : List UInt8}
    (packed : packRow row index = .ok bytes) :
    ∃ input, processReviewFromDict row = .ok input ∧ packRecord input = .ok bytes ∧
      ProcessReview input := by
  unfold packRow at packed
  obtain ⟨noteValue, gotNote, packed⟩ := bind_ok.mp packed
  obtain ⟨note, packedNote, packed⟩ := bind_ok.mp packed
  obtain ⟨deckValue, gotDeck, packed⟩ := bind_ok.mp packed
  obtain ⟨deck, packedDeck, packed⟩ := bind_ok.mp packed
  obtain ⟨presetValue, gotPreset, packed⟩ := bind_ok.mp packed
  obtain ⟨preset, packedPreset, packed⟩ := bind_ok.mp packed
  obtain ⟨reviewValue, gotReview, packed⟩ := bind_ok.mp packed
  obtain ⟨reviewId, packedReview, packed⟩ := bind_ok.mp packed
  obtain ⟨cardValue, gotCard, packed⟩ := bind_ok.mp packed
  obtain ⟨cardId, packedCard, packed⟩ := bind_ok.mp packed
  obtain ⟨offsetValue, gotOffset, packed⟩ := bind_ok.mp packed
  obtain ⟨dayOffset, packedOffset, packed⟩ := bind_ok.mp packed
  obtain ⟨daysValue, gotDays, packed⟩ := bind_ok.mp packed
  obtain ⟨elapsedDays, packedDays, packed⟩ := bind_ok.mp packed
  obtain ⟨secondsValue, gotSeconds, packed⟩ := bind_ok.mp packed
  obtain ⟨elapsedSeconds, packedSeconds, packed⟩ := bind_ok.mp packed
  obtain ⟨ratingValue, gotRating, packed⟩ := bind_ok.mp packed
  obtain ⟨rating, packedRating, packed⟩ := bind_ok.mp packed
  obtain ⟨durationValue, gotDuration, packed⟩ := bind_ok.mp packed
  obtain ⟨duration, packedDuration, packed⟩ := bind_ok.mp packed
  obtain ⟨stateValue, gotState, packed⟩ := bind_ok.mp packed
  obtain ⟨state, packedState, packed⟩ := bind_ok.mp packed
  obtain ⟨ids, idWords, packed⟩ := bind_ok.mp packed
  obtain ⟨ratingWord, ratingPacked, packed⟩ := bind_ok.mp packed
  cases packed
  have pairs := mapM_ok idWords
  rcases pairs with _ | ⟨reviewWord, _ | ⟨cardWord, _ | ⟨noteFlag, _ | ⟨noteWord,
    _ | ⟨deckFlag, _ | ⟨deckWord, _ | ⟨presetFlag, _ | ⟨presetWord, last⟩⟩⟩⟩⟩⟩⟩⟩
  cases last
  have reviewRead := packed_int_read packedReview (struct_word_ok reviewWord).1
  have cardRead := packed_int_read packedCard (struct_word_ok cardWord).1
  have ratingRead := packed_int_read packedRating (struct_word_ok ratingPacked).1
  have noteRead := packed_id_read packedNote (struct_word_ok noteWord).1
  have deckRead := packed_id_read packedDeck (struct_word_ok deckWord).1
  have presetRead := packed_id_read packedPreset (struct_word_ok presetWord).1
  have offsetRead := packed_float_read packedOffset
  have daysRead := packed_float_read packedDays
  have secondsRead := packed_float_read packedSeconds
  have durationRead := packed_float_read packedDuration
  have stateRead := packed_float_read packedState
  let input : ReviewInput Binary64 :=
    { reviewId := Int64.ofInt reviewId, cardId := Int64.ofInt cardId, noteId := packedId note
      deckId := packedId deck, presetId := packedId preset, dayOffset, elapsedDays, elapsedSeconds
      rating := some (Int64.ofInt rating), duration := some duration, state := some state }
  have fields : ParsedFrom row input :=
    { reviewId := item_read gotReview reviewRead
      cardId := item_read gotCard cardRead
      noteId := item_read gotNote noteRead.1
      deckId := item_read gotDeck deckRead.1
      presetId := item_read gotPreset presetRead.1
      dayOffset := item_read gotOffset offsetRead
      elapsedDays := item_read gotDays daysRead
      elapsedSeconds := item_read gotSeconds secondsRead
      rating := ⟨_, rfl, item_read gotRating ratingRead⟩
      duration := ⟨_, rfl, item_read gotDuration durationRead⟩
      state := ⟨_, rfl, item_read gotState stateRead⟩ }
  refine ⟨input, dict_of_parsed fields, ?_, ?_⟩
  · rw [(struct_word_ok reviewWord).2, (struct_word_ok cardWord).2, (struct_word_ok ratingPacked).2]
    simp only [packRecord, required, input, ← id_pair_words noteRead.2 noteFlag noteWord,
      ← id_pair_words deckRead.2 deckFlag deckWord,
      ← id_pair_words presetRead.2 presetFlag presetWord]
    change Except.ok _ = Except.ok _
    congr 1
    simp only [List.flatten_cons, List.flatten_nil, List.append_assoc, List.nil_append]
  · exact {
      dayOffset := (parse_f64_finite offsetRead).2
      elapsedDays := (parse_f64_finite daysRead).2
      elapsedSeconds := (parse_f64_finite secondsRead).2
      rating := ⟨_, rfl⟩
      duration := ⟨_, rfl, (parse_f64_finite durationRead).2⟩
      state := ⟨_, rfl, (parse_f64_finite stateRead).2⟩ }

theorem packed_rows_read {rows : List ReviewMapping} {index : Nat} {blocks : List (List UInt8)}
    (packed : (rows.zipIdx index).mapM (fun (row, index) => packRow row index) = .ok blocks) :
    ∃ inputs, rows.mapM processReviewFromDict = .ok inputs ∧ inputs.mapM packRecord = .ok blocks ∧
      ∀ input ∈ inputs, ProcessReview input := by
  induction rows generalizing index blocks with
  | nil =>
      cases packed
      exact ⟨[], rfl, rfl, nofun⟩
  | cons row rows ih =>
      rw [List.zipIdx_cons, List.mapM_cons] at packed
      obtain ⟨bytes, first, packed⟩ := bind_ok.mp packed
      obtain ⟨others, rest, same⟩ := bind_ok.mp packed
      cases same
      obtain ⟨input, read, record, process⟩ := packed_row_read first
      obtain ⟨inputs, reads, records, processes⟩ := ih rest
      refine ⟨input :: inputs, ?_, ?_, ?_⟩
      · rw [List.mapM_cons, read, reads]
        rfl
      · rw [List.mapM_cons, record, records]
        rfl
      · intro other member
        rcases List.mem_cons.mp member with here | later
        · rw [here]
          exact process
        · exact processes other later

theorem python_payload_read {rows : List ReviewMapping} {payload : List UInt8}
    (packed : packProcessReviews rows = .ok payload) :
    ∃ inputs, rows.mapM processReviewFromDict = .ok inputs ∧
      packProcessReviewPayload inputs = .ok payload ∧ ∀ input ∈ inputs, ProcessReview input := by
  obtain ⟨blocks, records, same⟩ := bind_ok.mp packed
  cases same
  obtain ⟨inputs, read, native, process⟩ := packed_rows_read records
  have count := (mapM_ok read).length_eq
  refine ⟨inputs, read, ?_, process⟩
  rw [packProcessReviewPayload, native, count]
  rfl

def idValue : MaybeId → PyValue
  | .present id => .int id.toInt
  | .missing => .none

def reviewMapping (input : ReviewInput Binary64) (rating : Int64) (duration state : Binary64) :
    ReviewMapping where
  isDict := true
  items := [
    ("review_id", .int input.reviewId.toInt), ("card_id", .int input.cardId.toInt),
    ("note_id", idValue input.noteId), ("deck_id", idValue input.deckId),
    ("preset_id", idValue input.presetId), ("day_offset", .float input.dayOffset),
    ("elapsed_days", .float input.elapsedDays), ("elapsed_seconds", .float input.elapsedSeconds),
    ("rating", .int rating.toInt), ("duration", .float duration), ("state", .float state)]

theorem packed_i64 (number : Int64) (field : String) :
    packedRequiredInt (.int number.toInt) field = .ok number.toInt := by
  have range := to_int_in_range number
  have small : number.toInt.natAbs < 2 ^ 64 := by
    rw [minI64, endI64] at range
    omega
  have finite := Binary64.of_integer_finite small
  have present : packedIsMissing (.int number.toInt) = .ok false := by
    rw [packedIsMissing, pythonFloat, floatOfInteger, if_pos finite]
    change Except.ok (Binary64.isNan _) = _
    rw [not_nan_of_finite finite]
  unfold packedRequiredInt
  rw [present]
  rfl

theorem packed_i64_word (index : Nat) (number : Int64) :
    structWord index number.toInt = .ok (toLe 8 (wordOfInteger number)) := by
  rw [structWord, if_pos (to_int_in_range number), Int64.ofInt_toInt]

theorem packed_finite {value : Binary64} (finite : value.isFinite) (field : String) :
    packedRequiredFloat (.float value) field = .ok value := by
  have present : packedIsMissing (.float value) = .ok false := by
    rw [packedIsMissing, not_nan_of_finite finite]
  unfold packedRequiredFloat
  rw [present]
  exact if_pos finite

def idPair : MaybeId → Int × Int
  | .present id => (1, id.toInt)
  | .missing => (0, 0)

theorem packed_id (id : MaybeId) (field : String) :
    packedOptionalId (idValue id) field = .ok (idPair id) := by
  cases id with
  | missing => rfl
  | present id =>
      have number := packed_i64 id field
      have present : packedIsMissing (.int id.toInt) = .ok false := by
        unfold packedRequiredInt at number
        obtain ⟨missing, checked, rest⟩ := bind_ok.mp number
        cases missing with
        | false => exact checked
        | true => cases rest
      rw [packedOptionalId, idValue, present]
      change (packedRequiredInt (.int id.toInt) field >>= _) = _
      rw [number]
      rfl

theorem packed_id_words (id : MaybeId) (index : Nat) :
    ∃ flag number, structWord index (idPair id).1 = .ok flag ∧
      structWord index (idPair id).2 = .ok number ∧ flag ++ number = appendMaybeId id := by
  cases id with
  | missing => exact ⟨_, _, packed_i64_word index 0, packed_i64_word index 0, rfl⟩
  | present id => exact ⟨_, _, packed_i64_word index 1, packed_i64_word index id, rfl⟩

/-- The plain mapping of a process review is packed to its native record. -/
theorem mapping_packed {input : ReviewInput Binary64} (process : ProcessReview input)
    {rating : Int64} {duration state : Binary64} (hasRating : input.rating = some rating)
    (hasDuration : input.duration = some duration) (hasState : input.state = some state)
    (index : Nat) :
    ∃ bytes, packRow (reviewMapping input rating duration state) index = .ok bytes ∧
      packRecord input = .ok bytes := by
  obtain ⟨_, sameDuration, durationFinite⟩ := process.duration
  obtain ⟨_, sameState, stateFinite⟩ := process.state
  rw [hasDuration] at sameDuration
  rw [hasState] at sameState
  cases sameDuration
  cases sameState
  obtain ⟨noteFlag, noteNumber, noteFlagPacked, notePacked, note⟩ := packed_id_words input.noteId index
  obtain ⟨deckFlag, deckNumber, deckFlagPacked, deckPacked, deck⟩ := packed_id_words input.deckId index
  obtain ⟨presetFlag, presetNumber, presetFlagPacked, presetPacked, preset⟩ :=
    packed_id_words input.presetId index
  have words : [input.reviewId.toInt, input.cardId.toInt, (idPair input.noteId).1,
      (idPair input.noteId).2, (idPair input.deckId).1, (idPair input.deckId).2,
      (idPair input.presetId).1, (idPair input.presetId).2].mapM (structWord index) =
        .ok [toLe 8 (wordOfInteger input.reviewId), toLe 8 (wordOfInteger input.cardId), noteFlag,
          noteNumber, deckFlag, deckNumber, presetFlag, presetNumber] := by
    simp only [List.mapM_cons, List.mapM_nil, packed_i64_word, noteFlagPacked, notePacked,
      deckFlagPacked, deckPacked, presetFlagPacked, presetPacked]
    rfl
  refine ⟨_, bind_ok.mpr ⟨_, rfl, bind_ok.mpr ⟨_, packed_id input.noteId _, bind_ok.mpr ⟨_, rfl,
    bind_ok.mpr ⟨_, packed_id input.deckId _, bind_ok.mpr ⟨_, rfl,
    bind_ok.mpr ⟨_, packed_id input.presetId _, bind_ok.mpr ⟨_, rfl,
    bind_ok.mpr ⟨_, packed_i64 input.reviewId _, bind_ok.mpr ⟨_, rfl,
    bind_ok.mpr ⟨_, packed_i64 input.cardId _, bind_ok.mpr ⟨_, rfl,
    bind_ok.mpr ⟨_, packed_finite process.dayOffset _, bind_ok.mpr ⟨_, rfl,
    bind_ok.mpr ⟨_, packed_finite process.elapsedDays _, bind_ok.mpr ⟨_, rfl,
    bind_ok.mpr ⟨_, packed_finite process.elapsedSeconds _, bind_ok.mpr ⟨_, rfl,
    bind_ok.mpr ⟨_, packed_i64 rating _, bind_ok.mpr ⟨_, rfl,
    bind_ok.mpr ⟨_, packed_finite durationFinite _, bind_ok.mpr ⟨_, rfl,
    bind_ok.mpr ⟨_, packed_finite stateFinite _, bind_ok.mpr ⟨_, words,
    bind_ok.mpr ⟨_, packed_i64_word index rating, rfl⟩⟩⟩⟩⟩⟩⟩⟩⟩⟩⟩⟩⟩⟩⟩⟩⟩⟩⟩⟩⟩⟩⟩⟩, ?_⟩
  rw [packRecord, hasRating, hasDuration, hasState]
  change Except.ok _ = Except.ok _
  congr 1
  simp only [← note, ← deck, ← preset, List.flatten_cons, List.flatten_nil, List.append_assoc,
    List.nil_append]

def plainMapping (input : ReviewInput Binary64) : ReviewMapping :=
  reviewMapping input (input.rating.getD 0) (input.duration.getD ⟨0⟩) (input.state.getD ⟨0⟩)

theorem plain_mapping_packed {input : ReviewInput Binary64} (process : ProcessReview input)
    (index : Nat) :
    ∃ bytes, packRow (plainMapping input) index = .ok bytes ∧ packRecord input = .ok bytes := by
  obtain ⟨rating, hasRating⟩ := process.rating
  obtain ⟨duration, hasDuration, _⟩ := process.duration
  obtain ⟨state, hasState, _⟩ := process.state
  have packed := mapping_packed process hasRating hasDuration hasState index
  rw [plainMapping, hasRating, hasDuration, hasState]
  exact packed

theorem plain_mappings_packed {inputs : List (ReviewInput Binary64)}
    (process : ∀ input ∈ inputs, ProcessReview input) (index : Nat) :
    ∃ blocks, ((inputs.map plainMapping).zipIdx index).mapM
        (fun (row, index) => packRow row index) = .ok blocks ∧
      inputs.mapM packRecord = .ok blocks := by
  induction inputs generalizing index with
  | nil => exact ⟨[], rfl, rfl⟩
  | cons input inputs ih =>
      obtain ⟨bytes, python, native⟩ := plain_mapping_packed (process input (by simp)) index
      obtain ⟨blocks, pythons, natives⟩ :=
        ih (fun other member => process other (List.mem_cons_of_mem _ member)) (index + 1)
      refine ⟨bytes :: blocks, ?_, ?_⟩
      · simp only [List.map_cons, List.zipIdx_cons, List.mapM_cons, python, pythons]
        rfl
      · rw [List.mapM_cons, native, natives]
        rfl

theorem plain_payload_packed {inputs : List (ReviewInput Binary64)} {payload : List UInt8}
    (process : ∀ input ∈ inputs, ProcessReview input)
    (packed : packProcessReviewPayload inputs = .ok payload) :
    packProcessReviews (inputs.map plainMapping) = .ok payload := by
  obtain ⟨blocks, python, native⟩ := plain_mappings_packed process 0
  rw [packProcessReviewPayload, native] at packed
  cases packed
  rw [packProcessReviews, python, List.length_map]
  rfl

/-- Everything the packed formats promise, for buffers a program can hold. -/
structure FormatsExact : Prop where
  /-- Both packers write a payload that reads back as the reviews. -/
  packed : ∀ inputs : List (ReviewInput Binary64), (∀ input ∈ inputs, ProcessReview input) →
    16 + 112 * inputs.length < 2 ^ 63 →
    ∃ payload, packProcessReviewPayload inputs = .ok payload ∧
      packProcessReviews (inputs.map plainMapping) = .ok payload ∧
      parseProcessReviewPayload payload = .ok inputs
  /-- Any rows the Python packer packs read back as the native reading of those rows. -/
  python : ∀ (rows : List ReviewMapping) (payload : List UInt8),
    packProcessReviews rows = .ok payload → payload.length < 2 ^ 63 →
    ∃ inputs, rows.mapM processReviewFromDict = .ok inputs ∧
      packProcessReviewPayload inputs = .ok payload ∧
      parseProcessReviewPayload payload = .ok inputs
  accepted : ∀ (payload : List UInt8) (rows : List (ReviewInput Binary64)),
    payload.length < 2 ^ 63 →
    (parseProcessReviewPayload payload = .ok rows ↔
      ∃ rowCount records, PayloadOf payload rowCount records ∧
        AcceptedRecords rowCount records ∧ rows = rowsOf rowCount records)
  inside : ∀ bytes : List UInt8, bytes.length < 2 ^ 63 →
    StaysInside (parseProcessReviewPayload bytes) ∧
      StaysInside (parseProcessReviewRecordBuffer bytes) ∧
      StaysInside (parsePredictionRecordBuffer bytes)
  /-- Packing what was parsed only clears the ignored id words. -/
  repacked : ∀ (payload : List UInt8) (rows : List (ReviewInput Binary64)),
    payload.length < 2 ^ 63 → parseProcessReviewPayload payload = .ok rows →
    ∃ rowCount records, PayloadOf payload rowCount records ∧
      packProcessReviewPayload rows =
        .ok (processReviewPayloadMagic ++ toLe 8 rowCount ++ clearAbsentIds rowCount records) ∧
      ((∀ row < rowCount, ∀ place < 14, canonicalWord (recordWord 14 records row) place =
          recordWord 14 records row place) → packProcessReviewPayload rows = .ok payload)
  recordBuffer : ∀ (records : List UInt8) (rows : List (ReviewInput Binary64)),
    records.length < 2 ^ 63 - 16 →
    (parseProcessReviewRecordBuffer records = .ok rows ↔
      ∃ rowCount payload, PayloadOf payload rowCount records ∧
        parseProcessReviewPayload payload = .ok rows)
  /-- On the first eleven words of every record the prediction parser agrees. -/
  prediction : ∀ (rowCount : Nat) (records : List UInt8) (rows : List (ReviewInput Binary64)),
    records.length = 112 * rowCount → records.length < 2 ^ 63 →
    (parseProcessReviewRecordBuffer records = .ok rows ↔
      parsePredictionRecordBuffer (sharedRecords rowCount records) =
          .ok (rows.map withoutOutcome) ∧
        (∀ row < rowCount, OutcomeWellFormed (recordWord 14 records row)) ∧
          rows = rowsOf rowCount records)
  predictionAccepted : ∀ (records : List UInt8) (rows : List (ReviewInput Binary64)),
    records.length < 2 ^ 63 →
    (parsePredictionRecordBuffer records = .ok rows ↔
      ∃ rowCount, records.length = 88 * rowCount ∧
        (∀ row < rowCount, SharedWellFormed (recordWord 11 records row)) ∧
          rows = predictionsOf 11 rowCount records)

theorem packed_formats_exact : FormatsExact := by
  constructor
  case packed =>
    intro inputs process addressable
    obtain ⟨payload, packed, parsed⟩ := packed_round_trip process addressable
    exact ⟨payload, packed, plain_payload_packed process packed, parsed⟩
  case python =>
    intro rows payload python addressable
    obtain ⟨inputs, read, packed, process⟩ := python_payload_read python
    have length := packed_payload_length process packed
    obtain ⟨again, same, parsed⟩ := packed_round_trip process (by omega)
    rw [packed] at same
    cases same
    exact ⟨inputs, read, packed, parsed⟩
  case accepted =>
    intro payload rows addressable
    exact payload_accepted addressable rows
  case inside =>
    intro bytes addressable
    exact ⟨payload_stays_inside addressable, record_buffer_stays_inside addressable,
      prediction_buffer_stays_inside addressable⟩
  case repacked =>
    intro payload rows addressable parsed
    obtain ⟨rowCount, records, shape, accepted, same⟩ := (payload_accepted addressable rows).mp parsed
    refine ⟨rowCount, records, shape, ?_, ?_⟩
    · rw [same]
      exact repacked accepted
    · intro canonical
      rw [same, repacked accepted, canonical_records_kept shape.sized canonical, ← shape.joined]
  case recordBuffer =>
    intro records rows addressable
    exact record_buffer_accepted addressable rows
  case prediction =>
    intro rowCount records rows sized addressable
    exact process_iff_prediction sized addressable rows
  case predictionAccepted =>
    intro records rows addressable
    exact prediction_buffer_accepted addressable rows

end RwkvSrs.PackedPython
