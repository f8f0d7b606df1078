import RwkvSrs.PackedRecords

/-!
The packed formats as a whole. A payload is accepted exactly when it is a
magic, a count and that many well-formed records; what the native packer and
the Python packer write is such a payload and reads back as the same reviews;
and the three parsers agree on the fields they share. No buffer of a program is
longer than `2 ^ 63 - 1` bytes, the limit on the size of any allocation.
-/

namespace RwkvSrs.PackedFormats

set_option autoImplicit false

open RwkvSrs.CheckpointBytes (fromLe)
open RwkvSrs.LittleEndian RwkvSrs.PackedRecords RwkvSrs.PackedReviews RwkvSrs.ResultSteps
open RwkvSrs.ReviewMappings

structure PayloadOf (payload : List UInt8) (rowCount : Nat) (records : List UInt8) : Prop where
  joined : payload = processReviewPayloadMagic ++ toLe 8 rowCount ++ records
  sized : records.length = 112 * rowCount

def AcceptedRecords (rowCount : Nat) (records : List UInt8) : Prop :=
  ∀ row < rowCount, SharedWellFormed (recordWord 14 records row) ∧
    OutcomeWellFormed (recordWord 14 records row)

def rowsOf (rowCount : Nat) (records : List UInt8) : List (ReviewInput Binary64) :=
  (List.range rowCount).map fun row => reviewOfWords (recordWord 14 records row)

section Accepted

variable {payload records : List UInt8} {rowCount : Nat}

theorem record_word_bound (size : Nat) (records : List UInt8) (row place : Nat) :
    recordWord size records row place < 2 ^ 64 := word_at_bound _ _

theorem records_accepted (sized : records.length = 112 * rowCount)
    (addressable : records.length < 2 ^ 63) (rows : List (ReviewInput Binary64)) :
    parseProcessReviewRecords records rowCount = .ok rows ↔
      AcceptedRecords rowCount records ∧ rows = rowsOf rowCount records := by
  rw [parse_process_records sized addressable,
    mapM_ok_iff fun row _ => decode_process_ok (record_word_bound 14 records row)]
  simp only [List.mem_range]
  rfl

theorem payload_length (shape : PayloadOf payload rowCount records) :
    payload.length = 16 + 112 * rowCount := by
  rw [shape.joined, List.length_append, List.length_append, to_le_length, shape.sized]
  rfl

theorem payload_records (shape : PayloadOf payload rowCount records) : payload.drop 16 = records := by
  rw [shape.joined]
  apply List.drop_left'
  rw [List.length_append, to_le_length]
  rfl

theorem payload_count_unique {other : Nat} {otherRecords : List UInt8}
    (shape : PayloadOf payload rowCount records) (again : PayloadOf payload other otherRecords) :
    rowCount = other ∧ records = otherRecords := by
  have one := payload_length shape
  have two := payload_length again
  rw [← payload_records shape, ← payload_records again]
  exact ⟨by omega, rfl⟩

theorem payload_split (long : 16 ≤ payload.length)
    (magic : payload.take processReviewPayloadMagic.length = processReviewPayloadMagic) :
    payload = processReviewPayloadMagic ++ toLe 8 (fromLe ((payload.drop 8).take 8)) ++
      payload.drop 16 := by
  have sized : ((payload.drop 8).take 8).length = 8 := by
    rw [List.length_take, List.length_drop]
    omega
  have written := to_le_from_le ((payload.drop 8).take 8)
  rw [sized] at written
  have tail : (payload.drop 8).drop 8 = payload.drop 16 := by rw [List.drop_drop]
  rw [written, List.append_assoc, ← tail, List.take_append_drop, ← magic]
  exact (List.take_append_drop 8 payload).symm

theorem payload_row_count (shape : PayloadOf payload rowCount records)
    (addressable : payload.length < 2 ^ 63) : fromLe ((payload.drop 8).take 8) = rowCount := by
  have length := payload_length shape
  have small : rowCount < 256 ^ 8 := by omega
  have header : payload.drop 8 = toLe 8 rowCount ++ records := by
    rw [shape.joined, List.append_assoc]
    apply List.drop_left'
    rfl
  rw [header, List.take_left' (to_le_length 8 rowCount), from_le_of_small small]

/-- Either the header is refused, or the records after it are parsed. -/
theorem parse_payload_cases (addressable : payload.length < 2 ^ 63) :
    (∃ failure, parseProcessReviewPayload payload = .error failure ∧ ¬ OutOfRange failure ∧
        ∀ rowCount records, ¬ PayloadOf payload rowCount records) ∨
      ∃ rowCount records, PayloadOf payload rowCount records ∧
        parseProcessReviewPayload payload = parseProcessReviewRecords records rowCount := by
  rw [parseProcessReviewPayload]
  by_cases short : payload.length < processReviewPayloadHeaderLen
  · left
    refine ⟨.shortHeader, by simp only [short, if_true]; rfl, (by intro range; cases range), ?_⟩
    intro rowCount records shape
    have length := payload_length shape
    rw [processReviewPayloadHeaderLen] at short
    omega
  have long : 16 ≤ payload.length := Nat.le_of_not_lt short
  by_cases magic : payload.take processReviewPayloadMagic.length = processReviewPayloadMagic
  · have inside : 8 * 1 + 8 ≤ payload.length := long
    have read : readArray payload 8 "row_count" = .ok ((payload.drop 8).take 8) :=
      read_array_word inside addressable "row_count"
    have split := payload_split long magic
    have counted : ∀ other records, PayloadOf payload other records →
        payload.length = 16 + fromLe ((payload.drop 8).take 8) * 112 := by
      intro other records shape
      rw [payload_row_count shape addressable, payload_length shape]
      omega
    simp only [short, magic, ne_eq, not_true_eq_false, if_false, read]
    change (∃ failure, parseCountedRecords payload (fromLe ((payload.drop 8).take 8)) = _ ∧ _) ∨
      ∃ rowCount records, _ ∧ parseCountedRecords payload (fromLe ((payload.drop 8).take 8)) = _
    generalize fromLe ((payload.drop 8).take 8) = rowCount at split counted
    rw [parseCountedRecords]
    by_cases mismatch : payload.length = 16 + rowCount * 112
    · right
      have fits : ¬ usizeEnd ≤ 16 + rowCount * 112 := by
        rw [← mismatch, usizeEnd]
        omega
      refine ⟨rowCount, payload.drop 16, ⟨split, ?_⟩, ?_⟩
      · rw [List.length_drop]
        omega
      · simp only [processReviewPayloadHeaderLen, processReviewPayloadRecordLen, fits, mismatch,
          ne_eq, not_true_eq_false, if_false]
    · left
      by_cases wide : usizeEnd ≤ 16 + rowCount * 112
      · refine ⟨.lengthOverflow, ?_, (by intro range; cases range), fun other records shape =>
          mismatch (counted other records shape)⟩
        simp only [processReviewPayloadHeaderLen, processReviewPayloadRecordLen, wide, if_true]
        rfl
      · refine ⟨.lengthMismatch (16 + rowCount * 112) rowCount payload.length, ?_, (by intro range; cases range),
          fun other records shape => mismatch (counted other records shape)⟩
        simp only [processReviewPayloadHeaderLen, processReviewPayloadRecordLen, wide, mismatch,
          ne_eq, not_false_eq_true, if_true, if_false]
        rfl
  · left
    refine ⟨.unsupportedMagic, ?_, (by intro range; cases range), ?_⟩
    · simp only [short, magic, ne_eq, not_false_eq_true, if_true, if_false]
      rfl
    · intro rowCount records shape
      apply magic
      rw [shape.joined, List.append_assoc, List.take_left']
      rfl

theorem payload_accepted (addressable : payload.length < 2 ^ 63)
    (rows : List (ReviewInput Binary64)) :
    parseProcessReviewPayload payload = .ok rows ↔
      ∃ rowCount records, PayloadOf payload rowCount records ∧
        AcceptedRecords rowCount records ∧ rows = rowsOf rowCount records := by
  rcases parse_payload_cases addressable with ⟨failure, failed, _, none⟩ | ⟨count, records, shape, same⟩
  · rw [failed]
    constructor
    · intro impossible
      cases impossible
    · rintro ⟨rowCount, records, shape, _⟩
      exact absurd shape (none rowCount records)
  · have inside : records.length < 2 ^ 63 := by
      have length := payload_length shape
      have sized := shape.sized
      omega
    rw [same, records_accepted shape.sized inside]
    constructor
    · intro accepted
      exact ⟨count, records, shape, accepted⟩
    · rintro ⟨other, otherRecords, again, accepted⟩
      obtain ⟨sameCount, sameRecords⟩ := payload_count_unique shape again
      rw [sameCount, sameRecords]
      exact accepted

theorem payload_stays_inside (addressable : payload.length < 2 ^ 63) :
    StaysInside (parseProcessReviewPayload payload) := by
  intro failure failed
  rcases parse_payload_cases addressable with ⟨found, refused, inside, _⟩ | ⟨count, records, shape, same⟩
  · rw [refused] at failed
    cases failed
    exact inside
  · have small : records.length < 2 ^ 63 := by
      have length := payload_length shape
      have sized := shape.sized
      omega
    rw [same, parse_process_records shape.sized small] at failed
    exact rows_inside (fun row => decode_process_inside row _) _ failure failed

theorem record_buffer_cases (records : List UInt8) :
    (records.length % 112 ≠ 0 ∧ parseProcessReviewRecordBuffer records =
        .error (.recordLength 112 records.length)) ∨
      ∃ rowCount, records.length = 112 * rowCount ∧
        parseProcessReviewRecordBuffer records = parseProcessReviewRecords records rowCount := by
  rw [parseProcessReviewRecordBuffer]
  simp only [processReviewPayloadRecordLen]
  by_cases whole : records.length % 112 = 0
  · right
    refine ⟨records.length / 112, by omega, ?_⟩
    simp only [whole, ne_eq, not_true_eq_false, if_false]
  · left
    refine ⟨whole, ?_⟩
    simp only [whole, ne_eq, not_false_eq_true, if_true]
    rfl

/-- The header-less parser accepts the record parts of accepted payloads, with the same rows. -/
theorem record_buffer_accepted (addressable : records.length < 2 ^ 63 - 16)
    (rows : List (ReviewInput Binary64)) :
    parseProcessReviewRecordBuffer records = .ok rows ↔
      ∃ rowCount payload, PayloadOf payload rowCount records ∧
        parseProcessReviewPayload payload = .ok rows := by
  rcases record_buffer_cases records with ⟨partial', failed⟩ | ⟨count, sized, same⟩
  · rw [failed]
    constructor
    · intro impossible
      cases impossible
    · rintro ⟨rowCount, payload, shape, _⟩
      have sized := shape.sized
      omega
  · have shape : PayloadOf (processReviewPayloadMagic ++ toLe 8 count ++ records) count records :=
      ⟨rfl, sized⟩
    rw [same, records_accepted sized (by omega)]
    constructor
    · intro accepted
      have length := payload_length shape
      refine ⟨count, _, shape, (payload_accepted (by omega) rows).mpr ?_⟩
      exact ⟨count, records, shape, accepted⟩
    · rintro ⟨rowCount, payload, again, parsed⟩
      have length := payload_length again
      have againSized := again.sized
      obtain ⟨other, otherRecords, third, accepted⟩ :=
        (payload_accepted (by omega) rows).mp parsed
      obtain ⟨sameCount, sameRecords⟩ := payload_count_unique again third
      have counts : count = other := by omega
      rw [counts, sameRecords]
      exact accepted

theorem record_buffer_stays_inside (addressable : records.length < 2 ^ 63) :
    StaysInside (parseProcessReviewRecordBuffer records) := by
  intro failure failed
  rcases record_buffer_cases records with ⟨_, refused⟩ | ⟨count, sized, same⟩
  · rw [refused] at failed
    cases failed
    nofun
  · rw [same, parse_process_records sized addressable] at failed
    exact rows_inside (fun row => decode_process_inside row _) _ failure failed

end Accepted

/-- The first eleven words of every process record. -/
def sharedRecords (rowCount : Nat) (records : List UInt8) : List UInt8 :=
  ((List.range rowCount).map fun row => (records.drop (112 * row)).take 88).flatten

def withoutOutcome (review : ReviewInput Binary64) : ReviewInput Binary64 :=
  { review with rating := none, duration := none, state := none }

def predictionsOf (size rowCount : Nat) (records : List UInt8) : List (ReviewInput Binary64) :=
  (List.range rowCount).map fun row => predictionOfWords (recordWord size records row)

section Predictions

variable {records : List UInt8} {rowCount : Nat}

theorem prediction_buffer_cases (records : List UInt8) :
    (records.length % 88 ≠ 0 ∧ parsePredictionRecordBuffer records =
        .error (.recordLength 88 records.length)) ∨
      ∃ rowCount, records.length = 88 * rowCount := by
  rw [parsePredictionRecordBuffer]
  simp only [predictionRecordLen]
  by_cases whole : records.length % 88 = 0
  · right
    exact ⟨records.length / 88, by omega⟩
  · left
    refine ⟨whole, ?_⟩
    simp only [whole, ne_eq, not_false_eq_true, if_true]
    rfl

theorem predictions_accepted (sized : records.length = 88 * rowCount)
    (addressable : records.length < 2 ^ 63) (rows : List (ReviewInput Binary64)) :
    parsePredictionRecordBuffer records = .ok rows ↔
      (∀ row < rowCount, SharedWellFormed (recordWord 11 records row)) ∧
        rows = predictionsOf 11 rowCount records := by
  rw [parse_prediction_records sized addressable,
    mapM_ok_iff fun row _ => decode_prediction_ok (record_word_bound 11 records row)]
  simp only [List.mem_range]
  rfl

theorem prediction_buffer_accepted (addressable : records.length < 2 ^ 63)
    (rows : List (ReviewInput Binary64)) :
    parsePredictionRecordBuffer records = .ok rows ↔
      ∃ rowCount, records.length = 88 * rowCount ∧
        (∀ row < rowCount, SharedWellFormed (recordWord 11 records row)) ∧
          rows = predictionsOf 11 rowCount records := by
  rcases prediction_buffer_cases records with ⟨broken, failed⟩ | ⟨count, sized⟩
  · rw [failed]
    constructor
    · intro impossible
      cases impossible
    · rintro ⟨rowCount, sized, _⟩
      omega
  · rw [predictions_accepted sized addressable]
    constructor
    · intro accepted
      exact ⟨count, sized, accepted⟩
    · rintro ⟨other, again, accepted⟩
      have same : count = other := by omega
      rw [same]
      exact accepted

theorem prediction_buffer_stays_inside (addressable : records.length < 2 ^ 63) :
    StaysInside (parsePredictionRecordBuffer records) := by
  intro failure failed
  rcases prediction_buffer_cases records with ⟨_, refused⟩ | ⟨count, sized⟩
  · rw [refused] at failed
    cases failed
    nofun
  · rw [parse_prediction_records sized addressable] at failed
    exact rows_inside (fun row => decode_prediction_inside row _) _ failure failed

theorem shared_well_formed_congr {word other : Nat → Nat}
    (same : ∀ place < 11, word place = other place) :
    SharedWellFormed word ↔ SharedWellFormed other := by
  constructor
  · rintro ⟨note, deck, preset, offset, days, seconds⟩
    rw [same 2 (by decide)] at note
    rw [same 4 (by decide)] at deck
    rw [same 6 (by decide)] at preset
    rw [same 8 (by decide)] at offset
    rw [same 9 (by decide)] at days
    rw [same 10 (by decide)] at seconds
    exact ⟨note, deck, preset, offset, days, seconds⟩
  · rintro ⟨note, deck, preset, offset, days, seconds⟩
    rw [← same 2 (by decide)] at note
    rw [← same 4 (by decide)] at deck
    rw [← same 6 (by decide)] at preset
    rw [← same 8 (by decide)] at offset
    rw [← same 9 (by decide)] at days
    rw [← same 10 (by decide)] at seconds
    exact ⟨note, deck, preset, offset, days, seconds⟩

theorem prediction_of_words_congr {word other : Nat → Nat}
    (same : ∀ place < 11, word place = other place) :
    predictionOfWords word = predictionOfWords other := by
  simp only [predictionOfWords, same 0 (by decide), same 1 (by decide), same 2 (by decide),
    same 3 (by decide), same 4 (by decide), same 5 (by decide), same 6 (by decide),
    same 7 (by decide), same 8 (by decide), same 9 (by decide), same 10 (by decide)]

theorem shared_record_sized (sized : records.length = 112 * rowCount) :
    StrideBlocks.Sized (8 * 11)
      ((List.range rowCount).map fun row => (records.drop (112 * row)).take 88) := by
  intro block member
  obtain ⟨row, inside, same⟩ := List.mem_map.mp member
  have below := List.mem_range.mp inside
  rw [← same, List.length_take, List.length_drop]
  omega

theorem shared_records_length (sized : records.length = 112 * rowCount) :
    (sharedRecords rowCount records).length = 88 * rowCount := by
  rw [sharedRecords, StrideBlocks.flatten_length (shared_record_sized sized), List.length_map,
    List.length_range, Nat.mul_comm]

theorem shared_record_word (sized : records.length = 112 * rowCount) {row place : Nat}
    (inside : row < rowCount) (small : place < 11) :
    recordWord 11 (sharedRecords rowCount records) row place = recordWord 14 records row place := by
  have below : row < ((List.range rowCount).map fun row =>
      (records.drop (112 * row)).take 88).length := by simpa using inside
  rw [recordWord, sharedRecords, word_at_blocks (shared_record_sized sized) below small,
    List.getElem_map, List.getElem_range, recordWord, wordAt, wordAt, List.drop_take,
    List.take_take, List.drop_drop]
  have offset : 112 * row + 8 * place = 8 * (14 * row + place) := by omega
  have room : min 8 (88 - 8 * place) = 8 := by omega
  rw [offset, room]

theorem shared_predictions (sized : records.length = 112 * rowCount)
    (addressable : records.length < 2 ^ 63) (rows : List (ReviewInput Binary64)) :
    parsePredictionRecordBuffer (sharedRecords rowCount records) = .ok rows ↔
      (∀ row < rowCount, SharedWellFormed (recordWord 14 records row)) ∧
        rows = predictionsOf 14 rowCount records := by
  have length := shared_records_length sized
  have words : ∀ row < rowCount, ∀ place < 11,
      recordWord 11 (sharedRecords rowCount records) row place = recordWord 14 records row place :=
    fun row inside place small => shared_record_word sized inside small
  have values : predictionsOf 11 rowCount (sharedRecords rowCount records) =
      predictionsOf 14 rowCount records := by
    apply List.map_congr_left
    intro row member
    exact prediction_of_words_congr (words row (List.mem_range.mp member))
  rw [predictions_accepted length (by omega), values]
  constructor
  · rintro ⟨accepted, same⟩
    exact ⟨fun row inside => (shared_well_formed_congr (words row inside)).mp (accepted row inside),
      same⟩
  · rintro ⟨accepted, same⟩
    exact ⟨fun row inside => (shared_well_formed_congr (words row inside)).mpr (accepted row inside),
      same⟩

/-- The prediction parser returns the shared fields of what the process parser
returns, and refuses them only where the process parser refuses the record. -/
theorem process_iff_prediction (sized : records.length = 112 * rowCount)
    (addressable : records.length < 2 ^ 63) (rows : List (ReviewInput Binary64)) :
    parseProcessReviewRecordBuffer records = .ok rows ↔
      parsePredictionRecordBuffer (sharedRecords rowCount records) =
          .ok (rows.map withoutOutcome) ∧
        (∀ row < rowCount, OutcomeWellFormed (recordWord 14 records row)) ∧
          rows = rowsOf rowCount records := by
  have parser : parseProcessReviewRecordBuffer records =
      parseProcessReviewRecords records rowCount := by
    rcases record_buffer_cases records with ⟨broken, _⟩ | ⟨count, again, same⟩
    · omega
    · have counts : count = rowCount := by omega
      rw [same, counts]
  have shared : (rowsOf rowCount records).map withoutOutcome = predictionsOf 14 rowCount records := by
    rw [rowsOf, List.map_map]
    rfl
  rw [parser, records_accepted sized addressable, shared_predictions sized addressable]
  constructor
  · rintro ⟨accepted, same⟩
    refine ⟨⟨fun row inside => (accepted row inside).1, ?_⟩,
      fun row inside => (accepted row inside).2, same⟩
    rw [same, shared]
  · rintro ⟨⟨accepted, _⟩, outcomes, same⟩
    exact ⟨fun row inside => ⟨accepted row inside, outcomes row inside⟩, same⟩

end Predictions

/-- A process review with finite numbers. -/
structure ProcessReview (input : ReviewInput Binary64) : Prop where
  dayOffset : input.dayOffset.isFinite
  elapsedDays : input.elapsedDays.isFinite
  elapsedSeconds : input.elapsedSeconds.isFinite
  rating : ∃ number, input.rating = some number
  duration : ∃ number, input.duration = some number ∧ number.isFinite
  state : ∃ number, input.state = some number ∧ number.isFinite

def flagWord : MaybeId → Nat
  | .present _ => 1
  | .missing => 0

def idWord : MaybeId → Nat
  | .present value => wordOfInteger value
  | .missing => 0

def wordsOfReview (input : ReviewInput Binary64) (rating : Int64) (duration state : Binary64) :
    List Nat :=
  [wordOfInteger input.reviewId, wordOfInteger input.cardId, flagWord input.noteId,
    idWord input.noteId, flagWord input.deckId, idWord input.deckId, flagWord input.presetId,
    idWord input.presetId, wordOfFloat input.dayOffset, wordOfFloat input.elapsedDays,
    wordOfFloat input.elapsedSeconds, wordOfInteger rating, wordOfFloat duration,
    wordOfFloat state]

section Packing

variable {input : ReviewInput Binary64} {rating : Int64} {duration state : Binary64}

theorem flag_word_cases (id : MaybeId) : flagWord id = 0 ∨ flagWord id = 1 := by
  cases id with
  | present value => exact Or.inr rfl
  | missing => exact Or.inl rfl

theorem flag_word_bound (id : MaybeId) : flagWord id < 2 ^ 64 := by
  rcases flag_word_cases id with same | same <;> rw [same] <;> decide

theorem id_word_bound (id : MaybeId) : idWord id < 2 ^ 64 := by
  cases id with
  | present value => exact word_of_integer_bound value
  | missing => decide

theorem maybe_id_of_words (id : MaybeId) : maybeIdOfWords (flagWord id) (idWord id) = id := by
  cases id with
  | present value => exact congrArg MaybeId.present (integer_of_word_of_integer value)
  | missing => rfl

theorem append_maybe_id_words (id : MaybeId) :
    appendMaybeId id = toLe 8 (flagWord id) ++ toLe 8 (idWord id) := by
  cases id <;> rfl

theorem pack_record_words (hasRating : input.rating = some rating)
    (hasDuration : input.duration = some duration) (hasState : input.state = some state) :
    packRecord input = .ok (wordBytes (wordsOfReview input rating duration state)) := by
  have words : wordBytes (wordsOfReview input rating duration state) =
      toLe 8 (wordOfInteger input.reviewId) ++ toLe 8 (wordOfInteger input.cardId) ++
        appendMaybeId input.noteId ++ appendMaybeId input.deckId ++ appendMaybeId input.presetId ++
        toLe 8 (wordOfFloat input.dayOffset) ++ toLe 8 (wordOfFloat input.elapsedDays) ++
        toLe 8 (wordOfFloat input.elapsedSeconds) ++ toLe 8 (wordOfInteger rating) ++
        toLe 8 (wordOfFloat duration) ++ toLe 8 (wordOfFloat state) := by
    simp [wordsOfReview, wordBytes, append_maybe_id_words]
  rw [words, packRecord, hasRating, hasDuration, hasState]
  rfl

theorem words_of_review_bound : ∀ word ∈ wordsOfReview input rating duration state, word < 2 ^ 64 := by
  simp only [wordsOfReview, List.forall_mem_cons]
  exact ⟨word_of_integer_bound _, word_of_integer_bound _, flag_word_bound _, id_word_bound _,
    flag_word_bound _, id_word_bound _, flag_word_bound _, id_word_bound _, word_of_float_bound _,
    word_of_float_bound _, word_of_float_bound _, word_of_integer_bound _, word_of_float_bound _,
    word_of_float_bound _, nofun⟩

/-- The words of a review, by their place in the record. -/
def reviewWord (input : ReviewInput Binary64) (rating : Int64) (duration state : Binary64)
    (place : Nat) : Nat := (wordsOfReview input rating duration state).getD place 0

theorem words_of_review_read (hasRating : input.rating = some rating)
    (hasDuration : input.duration = some duration) (hasState : input.state = some state) :
    reviewOfWords (reviewWord input rating duration state) = input := by
  obtain ⟨reviewId, cardId, noteId, deckId, presetId, offset, days, seconds, _, _, _⟩ := input
  cases hasRating
  cases hasDuration
  cases hasState
  simp [reviewWord, wordsOfReview, reviewOfWords, predictionOfWords, maybe_id_of_words,
    integer_of_word_of_integer, float_of_word_of_float]

theorem words_of_review_accepted (process : ProcessReview input)
    (hasDuration : input.duration = some duration) (hasState : input.state = some state) :
    SharedWellFormed (reviewWord input rating duration state) ∧
      OutcomeWellFormed (reviewWord input rating duration state) := by
  obtain ⟨given, durationHere, durationFinite⟩ := process.duration
  obtain ⟨stateGiven, stateHere, stateFinite⟩ := process.state
  rw [hasDuration] at durationHere
  rw [hasState] at stateHere
  cases durationHere
  cases stateHere
  have float : ∀ value : Binary64, value.isFinite → (floatOfWord (wordOfFloat value)).isFinite := by
    intro value finite
    rw [float_of_word_of_float]
    exact finite
  constructor
  · exact ⟨flag_word_cases _, flag_word_cases _, flag_word_cases _, float _ process.dayOffset,
      float _ process.elapsedDays, float _ process.elapsedSeconds⟩
  · exact ⟨float _ durationFinite, float _ stateFinite⟩

/-- The packed record of a process review. -/
structure PackedRecord (input : ReviewInput Binary64) (bytes : List UInt8) : Prop where
  packed : packRecord input = .ok bytes
  sized : bytes.length = 112
  accepted : SharedWellFormed (wordAt bytes) ∧ OutcomeWellFormed (wordAt bytes)
  read : reviewOfWords (wordAt bytes) = input

theorem process_review_packed (process : ProcessReview input) :
    ∃ bytes, PackedRecord input bytes := by
  obtain ⟨rating, hasRating⟩ := process.rating
  obtain ⟨duration, hasDuration, _⟩ := process.duration
  obtain ⟨state, hasState, _⟩ := process.state
  have words : wordAt (wordBytes (wordsOfReview input rating duration state)) =
      reviewWord input rating duration state := by
    funext place
    exact word_at_word_bytes_getD words_of_review_bound place
  refine ⟨_, pack_record_words hasRating hasDuration hasState, ?_, ?_, ?_⟩
  · rw [word_bytes_length]
    rfl
  · rw [words]
    exact words_of_review_accepted process hasDuration hasState
  · rw [words]
    exact words_of_review_read hasRating hasDuration hasState

theorem process_reviews_packed {inputs : List (ReviewInput Binary64)}
    (process : ∀ input ∈ inputs, ProcessReview input) :
    ∃ blocks, List.Forall₂ PackedRecord inputs blocks := by
  induction inputs with
  | nil => exact ⟨[], List.Forall₂.nil⟩
  | cons input inputs ih =>
      obtain ⟨bytes, packed⟩ := process_review_packed (process input (by simp))
      obtain ⟨blocks, rest⟩ := ih fun other member => process other (List.mem_cons_of_mem _ member)
      exact ⟨bytes :: blocks, List.Forall₂.cons packed rest⟩

theorem packed_records {inputs : List (ReviewInput Binary64)} {blocks : List (List UInt8)}
    (packed : List.Forall₂ PackedRecord inputs blocks) :
    inputs.mapM packRecord = .ok blocks ∧ StrideBlocks.Sized (8 * 14) blocks := by
  induction packed with
  | nil => exact ⟨rfl, nofun⟩
  | cons first _ ih =>
      constructor
      · rw [List.mapM_cons, first.packed, ih.1]
        rfl
      · intro block member
        rcases List.mem_cons.mp member with here | later
        · rw [here]
          exact first.sized
        · exact ih.2 block later

theorem well_formed_congr {word other : Nat → Nat} (same : ∀ place < 14, word place = other place) :
    SharedWellFormed word ∧ OutcomeWellFormed word ↔
      SharedWellFormed other ∧ OutcomeWellFormed other := by
  have outcome : OutcomeWellFormed word ↔ OutcomeWellFormed other := by
    constructor
    · rintro ⟨duration, state⟩
      rw [same 12 (by decide)] at duration
      rw [same 13 (by decide)] at state
      exact ⟨duration, state⟩
    · rintro ⟨duration, state⟩
      rw [← same 12 (by decide)] at duration
      rw [← same 13 (by decide)] at state
      exact ⟨duration, state⟩
  rw [shared_well_formed_congr fun place small => same place (by omega), outcome]

theorem review_of_words_congr {word other : Nat → Nat}
    (same : ∀ place < 14, word place = other place) : reviewOfWords word = reviewOfWords other := by
  simp only [reviewOfWords, prediction_of_words_congr fun place small => same place (by omega),
    same 11 (by decide), same 12 (by decide), same 13 (by decide)]

theorem packed_payload {inputs : List (ReviewInput Binary64)} {blocks : List (List UInt8)}
    (each : List.Forall₂ PackedRecord inputs blocks) :
    packProcessReviewPayload inputs =
        .ok (processReviewPayloadMagic ++ toLe 8 inputs.length ++ blocks.flatten) ∧
      PayloadOf (processReviewPayloadMagic ++ toLe 8 inputs.length ++ blocks.flatten)
        inputs.length blocks.flatten := by
  obtain ⟨packed, sized⟩ := packed_records each
  constructor
  · rw [packProcessReviewPayload, packed]
    rfl
  · refine ⟨rfl, ?_⟩
    rw [StrideBlocks.flatten_length sized, each.length_eq, Nat.mul_comm]

theorem packed_payload_length {inputs : List (ReviewInput Binary64)} {payload : List UInt8}
    (process : ∀ input ∈ inputs, ProcessReview input)
    (packed : packProcessReviewPayload inputs = .ok payload) :
    payload.length = 16 + 112 * inputs.length := by
  obtain ⟨blocks, each⟩ := process_reviews_packed process
  obtain ⟨again, shape⟩ := packed_payload each
  rw [packed] at again
  cases again
  exact payload_length shape

theorem packed_round_trip {inputs : List (ReviewInput Binary64)}
    (process : ∀ input ∈ inputs, ProcessReview input)
    (addressable : 16 + 112 * inputs.length < 2 ^ 63) :
    ∃ payload, packProcessReviewPayload inputs = .ok payload ∧
      parseProcessReviewPayload payload = .ok inputs := by
  obtain ⟨blocks, each⟩ := process_reviews_packed process
  obtain ⟨_, sized⟩ := packed_records each
  obtain ⟨packed, shape⟩ := packed_payload each
  have count : blocks.length = inputs.length := each.length_eq.symm
  have words : ∀ row (inside : row < blocks.length), ∀ place < 14,
      recordWord 14 blocks.flatten row place = wordAt blocks[row] place :=
    fun row inside place small => word_at_blocks sized inside small
  have length := payload_length shape
  refine ⟨_, packed, (payload_accepted (by omega) inputs).mpr ⟨inputs.length, blocks.flatten, shape,
    ?_, ?_⟩⟩
  · intro row inside
    have below : row < blocks.length := by omega
    have record := each.get inside below
    exact (well_formed_congr (words row below)).mpr record.accepted
  · apply List.ext_getElem (by simp [rowsOf])
    intro row inside _
    have below : row < blocks.length := by omega
    have record := each.get inside below
    simp only [rowsOf, List.getElem_map, List.getElem_range]
    rw [review_of_words_congr (words row below)]
    exact record.read.symm

/-- The word a packer writes: an absent id is written as zero. -/
def canonicalWord (word : Nat → Nat) (place : Nat) : Nat :=
  if (place = 3 ∨ place = 5 ∨ place = 7) ∧ word (place - 1) = 0 then 0 else word place

/-- The same records with the ignored id words set to zero. -/
def clearAbsentIds (rowCount : Nat) (records : List UInt8) : List UInt8 :=
  ((List.range rowCount).map fun row =>
    wordBytes ((List.range 14).map (canonicalWord (recordWord 14 records row)))).flatten

theorem flag_word_of_words {flag id : Nat} (flagged : flag = 0 ∨ flag = 1) :
    flagWord (maybeIdOfWords flag id) = flag := by
  rcases flagged with same | same <;> rw [same] <;> rfl

theorem id_word_of_words {flag id : Nat} (bound : id < 2 ^ 64) :
    idWord (maybeIdOfWords flag id) = if flag = 0 then 0 else id := by
  rw [maybeIdOfWords]
  split
  · rfl
  · exact word_of_integer_of_word bound

theorem words_of_words {word : Nat → Nat} (bound : ∀ place, word place < 2 ^ 64)
    (accepted : SharedWellFormed word) :
    wordsOfReview (reviewOfWords word) (integerOfWord (word 11)) (floatOfWord (word 12))
        (floatOfWord (word 13)) =
      (List.range 14).map (canonicalWord word) := by
  simp only [wordsOfReview, reviewOfWords, predictionOfWords, word_of_integer_of_word (bound _),
    word_of_float_of_word (bound _), flag_word_of_words accepted.noteFlag,
    flag_word_of_words accepted.deckFlag, flag_word_of_words accepted.presetFlag,
    id_word_of_words (bound _)]
  simp [canonicalWord, List.range_succ]

theorem repacked {records : List UInt8} {rowCount : Nat}
    (accepted : AcceptedRecords rowCount records) :
    packProcessReviewPayload (rowsOf rowCount records) =
      .ok (processReviewPayloadMagic ++ toLe 8 rowCount ++ clearAbsentIds rowCount records) := by
  have each : ∀ row ∈ List.range rowCount,
      packRecord (reviewOfWords (recordWord 14 records row)) =
        .ok (wordBytes ((List.range 14).map (canonicalWord (recordWord 14 records row)))) := by
    intro row member
    have words := words_of_words (record_word_bound 14 records row)
      (accepted row (List.mem_range.mp member)).1
    rw [← words]
    exact pack_record_words rfl rfl rfl
  have packed : (rowsOf rowCount records).mapM packRecord = .ok ((List.range rowCount).map fun row =>
      wordBytes ((List.range 14).map (canonicalWord (recordWord 14 records row)))) := by
    rw [rowsOf, List.mapM_map]
    exact mapM_all_ok each
  rw [packProcessReviewPayload, packed, rowsOf, List.length_map, List.length_range]
  rfl

theorem rows_of_words (word : Nat → Nat) (size rowCount : Nat) :
    ((List.range rowCount).map fun row =>
        wordBytes ((List.range size).map fun place => word (size * row + place))).flatten =
      wordBytes ((List.range (size * rowCount)).map word) := by
  induction rowCount with
  | zero => rfl
  | succ rowCount ih =>
      have range : List.range (size * (rowCount + 1)) =
          List.range (size * rowCount) ++ (List.range size).map (size * rowCount + ·) := by
        rw [Nat.mul_add, List.range_add, Nat.mul_one]
      rw [List.range_succ, List.map_append, List.flatten_append, ih, range, List.map_append,
        wordBytes, wordBytes, List.flatMap_append, List.map_map]
      simp [wordBytes, Function.comp_def]

/-- Records whose absent ids are already zero are packed to the very same bytes. -/
theorem canonical_records_kept {records : List UInt8} {rowCount : Nat}
    (sized : records.length = 112 * rowCount)
    (canonical : ∀ row < rowCount, ∀ place < 14,
      canonicalWord (recordWord 14 records row) place = recordWord 14 records row place) :
    clearAbsentIds rowCount records = records := by
  have same : clearAbsentIds rowCount records = ((List.range rowCount).map fun row =>
      wordBytes ((List.range 14).map fun place => wordAt records (14 * row + place))).flatten := by
    rw [clearAbsentIds]
    congr 1
    apply List.map_congr_left
    intro row member
    congr 1
    apply List.map_congr_left
    intro place small
    exact canonical row (List.mem_range.mp member) place (List.mem_range.mp small)
  rw [same, rows_of_words (wordAt records) 14]
  apply word_bytes_of_words
  omega

end Packing

end RwkvSrs.PackedFormats
