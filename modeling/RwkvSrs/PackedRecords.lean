import RwkvSrs.CanonicalAgreement
import RwkvSrs.PackedReviews
import RwkvSrs.StrideBlocks

/-!
The packed rows, word by word. Inside its length a buffer answers every read
with the word at that place, so a parser is a decoding of the words of each
record and never reads past the end. A record is accepted when its flags and
floats are in order, and packing the accepted rows gives the words back.
-/

namespace RwkvSrs.PackedRecords

set_option autoImplicit false

open RwkvSrs.CheckpointBytes (fromLe)
open RwkvSrs.LittleEndian RwkvSrs.PackedReviews RwkvSrs.ResultSteps RwkvSrs.ReviewMappings

theorem integer_of_word_of_integer (value : Int64) : integerOfWord (wordOfInteger value) = value := by
  rw [integerOfWord, wordOfInteger, UInt64.ofNat_toNat]
  rfl

theorem float_of_word_of_float (value : Binary64) : floatOfWord (wordOfFloat value) = value := by
  rw [floatOfWord, wordOfFloat, UInt64.ofNat_toNat]

theorem word_of_integer_bound (value : Int64) : wordOfInteger value < 2 ^ 64 :=
  UInt64.toNat_lt _

theorem word_of_float_bound (value : Binary64) : wordOfFloat value < 2 ^ 64 :=
  UInt64.toNat_lt _

theorem word_of_integer_of_word {word : Nat} (bound : word < 2 ^ 64) :
    wordOfInteger (integerOfWord word) = word := by
  rw [integerOfWord, wordOfInteger]
  exact UInt64.toNat_ofNat_of_lt bound

theorem word_of_float_of_word {word : Nat} (bound : word < 2 ^ 64) :
    wordOfFloat (floatOfWord word) = word := by
  rw [floatOfWord, wordOfFloat]
  exact UInt64.toNat_ofNat_of_lt bound

def decodeInteger (word : Nat) : Except PackedError Int64 := .ok (integerOfWord word)

def decodeMaybeId (row : Nat) (field : String) (flag id : Nat) : Except PackedError MaybeId :=
  if integerOfWord flag = 0 then .ok .missing
  else if integerOfWord flag = 1 then .ok (.present (integerOfWord id))
  else .error (.invalidFlag row field (integerOfWord flag))

def decodeFinite (row : Nat) (field : String) (word : Nat) : Except PackedError Binary64 :=
  if (floatOfWord word).isFinite then .ok (floatOfWord word) else .error (.notFinite row field)

def decodePrediction (row : Nat) (word : Nat → Nat) :
    Except PackedError (ReviewInput Binary64) := do
  let reviewId ← decodeInteger (word 0)
  let cardId ← decodeInteger (word 1)
  let noteId ← decodeMaybeId row "note_id" (word 2) (word 3)
  let deckId ← decodeMaybeId row "deck_id" (word 4) (word 5)
  let presetId ← decodeMaybeId row "preset_id" (word 6) (word 7)
  let dayOffset ← decodeFinite row "day_offset" (word 8)
  let elapsedDays ← decodeFinite row "elapsed_days" (word 9)
  let elapsedSeconds ← decodeFinite row "elapsed_seconds" (word 10)
  return {
    reviewId, cardId, noteId, deckId, presetId, dayOffset, elapsedDays, elapsedSeconds
    rating := none
    duration := none
    state := none }

/-- A process record decodes as a prediction record, followed by the outcome of the review. -/
def decodeProcessReview (row : Nat) (word : Nat → Nat) :
    Except PackedError (ReviewInput Binary64) := do
  let shared ← decodePrediction row word
  let rating ← decodeInteger (word 11)
  let duration ← decodeFinite row "duration" (word 12)
  let state ← decodeFinite row "state" (word 13)
  return { shared with rating := some rating, duration := some duration, state := some state }

section Readers

variable {Value Next : Type}

/-- Between two word boundaries the reader returns what the words decode to. -/
def Decodes (reader : RecordReader Value) (start stop : Nat)
    (decoded : Except PackedError Value) : Prop :=
  reader (8 * start) = decoded.map fun value => (value, 8 * stop)

theorem decodes_bind {reader : RecordReader Value} {next : Value → RecordReader Next}
    {start middle stop : Nat} {decoded : Except PackedError Value}
    {rest : Value → Except PackedError Next} (first : Decodes reader start middle decoded)
    (later : ∀ value, Decodes (next value) middle stop (rest value)) :
    Decodes (reader >>= next) start stop (decoded >>= rest) := by
  change (reader (8 * start) >>= fun found => next found.1 found.2) = _
  rw [first]
  cases decoded with
  | error failure => rfl
  | ok value => exact later value

theorem decodes_pure (value : Value) (start : Nat) :
    Decodes (pure value) start start (.ok value) := rfl

variable {records : List UInt8}

theorem read_array_word {index : Nat} (inside : 8 * index + 8 ≤ records.length)
    (addressable : records.length < 2 ^ 63) (field : String) :
    readArray records (8 * index) field = .ok ((records.drop (8 * index)).take 8) := by
  have small : ¬ usizeEnd ≤ 8 * index + 8 := by
    rw [usizeEnd]
    omega
  rw [readArray, if_neg small, if_neg (by omega)]

theorem read_i64_decodes {index : Nat} (inside : 8 * index + 8 ≤ records.length)
    (addressable : records.length < 2 ^ 63) (field : String) :
    Decodes (readI64 records field) index (index + 1) (decodeInteger (wordAt records index)) := by
  rw [Decodes, readI64, read_array_word inside addressable]
  rfl

theorem read_finite_decodes {index : Nat} (inside : 8 * index + 8 ≤ records.length)
    (addressable : records.length < 2 ^ 63) (row : Nat) (field : String) :
    Decodes (readFiniteF64 records row field) index (index + 1)
      (decodeFinite row field (wordAt records index)) := by
  rw [Decodes, readFiniteF64, read_array_word inside addressable, decodeFinite]
  change (if (floatOfWord (wordAt records index)).isFinite then
      Except.ok (floatOfWord (wordAt records index), 8 * index + 8)
    else Except.error (PackedError.notFinite row field)) = _
  split <;> rfl

theorem reader_bind_ok {reader : RecordReader Value} {next : Value → RecordReader Next}
    {offset after : Nat} {value : Value} (read : reader offset = .ok (value, after)) :
    (reader >>= next) offset = next value after := by
  change (reader offset >>= fun found => next found.1 found.2) = _
  rw [read]
  rfl

theorem read_maybe_id_decodes {index : Nat} (inside : 8 * (index + 1) + 8 ≤ records.length)
    (addressable : records.length < 2 ^ 63) (row : Nat) (field : String) :
    Decodes (readMaybeId records row field) index (index + 2)
      (decodeMaybeId row field (wordAt records index) (wordAt records (index + 1))) := by
  have flag : Decodes _ index _ _ := read_i64_decodes (by omega) addressable field
  have id := read_i64_decodes inside addressable field
  rw [Decodes, readMaybeId, reader_bind_ok flag, reader_bind_ok id, decodeMaybeId]
  by_cases absent : integerOfWord (wordAt records index) = 0
  · simp only [absent, if_true]
    rfl
  · by_cases present : integerOfWord (wordAt records index) = 1
    · simp only [present]
      rfl
    · simp only [absent, present, if_false]
      rfl

theorem parse_prediction_decodes {index : Nat} (inside : 8 * (index + 11) ≤ records.length)
    (addressable : records.length < 2 ^ 63) (row : Nat) :
    Decodes (parsePredictionRecord records row) index (index + 11)
      (decodePrediction row fun place => wordAt records (index + place)) := by
  apply decodes_bind (read_i64_decodes (by omega) addressable "review_id")
  intro reviewId
  apply decodes_bind (read_i64_decodes (by omega) addressable "card_id")
  intro cardId
  apply decodes_bind (read_maybe_id_decodes (by omega) addressable row "note_id")
  intro noteId
  apply decodes_bind (read_maybe_id_decodes (by omega) addressable row "deck_id")
  intro deckId
  apply decodes_bind (read_maybe_id_decodes (by omega) addressable row "preset_id")
  intro presetId
  apply decodes_bind (read_finite_decodes (by omega) addressable row "day_offset")
  intro dayOffset
  apply decodes_bind (read_finite_decodes (by omega) addressable row "elapsed_days")
  intro elapsedDays
  apply decodes_bind (read_finite_decodes (by omega) addressable row "elapsed_seconds")
  intro elapsedSeconds
  exact decodes_pure _ _

theorem parse_process_from_prediction (records : List UInt8) (row : Nat) :
    parseProcessReviewRecord records row = (do
      let shared ← parsePredictionRecord records row
      let rating ← readI64 records "rating"
      let duration ← readFiniteF64 records row "duration"
      let state ← readFiniteF64 records row "state"
      return {
        shared with
        rating := some rating
        duration := some duration
        state := some state }) := by
  simp only [parseProcessReviewRecord, parsePredictionRecord, bind_assoc, pure_bind]

theorem parse_process_decodes {index : Nat} (inside : 8 * (index + 14) ≤ records.length)
    (addressable : records.length < 2 ^ 63) (row : Nat) :
    Decodes (parseProcessReviewRecord records row) index (index + 14)
      (decodeProcessReview row fun place => wordAt records (index + place)) := by
  rw [parse_process_from_prediction]
  apply decodes_bind (parse_prediction_decodes (by omega) addressable row)
  intro shared
  apply decodes_bind (read_i64_decodes (by omega) addressable "rating")
  intro rating
  apply decodes_bind (read_finite_decodes (by omega) addressable row "duration")
  intro duration
  apply decodes_bind (read_finite_decodes (by omega) addressable row "state")
  intro state
  exact decodes_pure _ _

/-- Records of one size, read one after another, are decoded row by row. -/
theorem rows_decode {size count : Nat} {reader : Nat → RecordReader Value}
    {decode : Nat → Except PackedError Value}
    (each : ∀ row < count, Decodes (reader row) (size * row) (size * row + size) (decode row)) :
    ∀ length start, start + length ≤ count →
      Decodes ((List.range' start length).mapM reader) (size * start) (size * (start + length))
        ((List.range' start length).mapM decode) := by
  intro length
  induction length with
  | zero =>
      intro start _
      exact decodes_pure _ _
  | succ length ih =>
      intro start inside
      rw [List.range'_succ, List.mapM_cons, List.mapM_cons]
      apply decodes_bind (each start (by omega))
      intro value
      have later := ih (start + 1) (by omega)
      rw [Nat.mul_add, Nat.mul_one, Nat.add_assoc, Nat.add_comm 1] at later
      apply decodes_bind later
      intro values
      exact decodes_pure _ _

end Readers

/-- The words of one record of `size` words. -/
def recordWord (size : Nat) (records : List UInt8) (row place : Nat) : Nat :=
  wordAt records (size * row + place)

section Buffers

variable {records : List UInt8} {rowCount : Nat}

theorem parse_process_records (sized : records.length = 112 * rowCount)
    (addressable : records.length < 2 ^ 63) :
    parseProcessReviewRecords records rowCount =
      (List.range rowCount).mapM fun row => decodeProcessReview row (recordWord 14 records row) := by
  have each : ∀ row < rowCount, Decodes (parseProcessReviewRecord records row) (14 * row)
      (14 * row + 14) (decodeProcessReview row (recordWord 14 records row)) := by
    intro row inside
    exact parse_process_decodes (by omega) addressable row
  have read := rows_decode each rowCount 0 (by omega)
  rw [parseProcessReviewRecords, List.range_eq_range']
  rw [Decodes] at read
  change (List.mapM (parseProcessReviewRecord records) (List.range' 0 rowCount) (8 * (14 * 0)) >>= _) = _
  rw [read]
  cases (List.range' 0 rowCount).mapM fun row =>
    decodeProcessReview row (recordWord 14 records row) <;> rfl

theorem parse_prediction_records (sized : records.length = 88 * rowCount)
    (addressable : records.length < 2 ^ 63) :
    parsePredictionRecordBuffer records =
      (List.range rowCount).mapM fun row => decodePrediction row (recordWord 11 records row) := by
  have each : ∀ row < rowCount, Decodes (parsePredictionRecord records row) (11 * row)
      (11 * row + 11) (decodePrediction row (recordWord 11 records row)) := by
    intro row inside
    exact parse_prediction_decodes (by omega) addressable row
  have read := rows_decode each rowCount 0 (by omega)
  have whole : records.length % predictionRecordLen = 0 := by
    rw [sized, predictionRecordLen, Nat.mul_mod_right]
  have count : records.length / predictionRecordLen = rowCount := by
    rw [sized, predictionRecordLen, Nat.mul_div_cancel_left _ (by decide)]
  rw [parsePredictionRecordBuffer, count]
  simp only [whole, ne_eq, not_true_eq_false, if_false]
  rw [Decodes] at read
  rw [List.range_eq_range']
  change (List.mapM (parsePredictionRecord records) (List.range' 0 rowCount) (8 * (11 * 0)) >>= _) = _
  rw [read]
  cases (List.range' 0 rowCount).mapM fun row =>
    decodePrediction row (recordWord 11 records row) <;> rfl

end Buffers

/-- Three flags and three floats are shared by both kinds of record. -/
structure SharedWellFormed (word : Nat → Nat) : Prop where
  noteFlag : word 2 = 0 ∨ word 2 = 1
  deckFlag : word 4 = 0 ∨ word 4 = 1
  presetFlag : word 6 = 0 ∨ word 6 = 1
  dayOffset : (floatOfWord (word 8)).isFinite
  elapsedDays : (floatOfWord (word 9)).isFinite
  elapsedSeconds : (floatOfWord (word 10)).isFinite

structure OutcomeWellFormed (word : Nat → Nat) : Prop where
  duration : (floatOfWord (word 12)).isFinite
  state : (floatOfWord (word 13)).isFinite

def maybeIdOfWords (flag id : Nat) : MaybeId :=
  if flag = 0 then .missing else .present (integerOfWord id)

def predictionOfWords (word : Nat → Nat) : ReviewInput Binary64 where
  reviewId := integerOfWord (word 0)
  cardId := integerOfWord (word 1)
  noteId := maybeIdOfWords (word 2) (word 3)
  deckId := maybeIdOfWords (word 4) (word 5)
  presetId := maybeIdOfWords (word 6) (word 7)
  dayOffset := floatOfWord (word 8)
  elapsedDays := floatOfWord (word 9)
  elapsedSeconds := floatOfWord (word 10)
  rating := none
  duration := none
  state := none

def reviewOfWords (word : Nat → Nat) : ReviewInput Binary64 :=
  { predictionOfWords word with
    rating := some (integerOfWord (word 11))
    duration := some (floatOfWord (word 12))
    state := some (floatOfWord (word 13)) }

theorem integer_of_word_eq {word : Nat} (bound : word < 2 ^ 64) (value : Int64) :
    integerOfWord word = value ↔ word = wordOfInteger value := by
  constructor
  · intro same
    rw [← same, word_of_integer_of_word bound]
  · intro same
    rw [same, integer_of_word_of_integer]

theorem decode_maybe_id_ok {row : Nat} {field : String} {flag id : Nat} {found : MaybeId}
    (bound : flag < 2 ^ 64) :
    decodeMaybeId row field flag id = .ok found ↔
      (flag = 0 ∨ flag = 1) ∧ found = maybeIdOfWords flag id := by
  have zero : integerOfWord flag = 0 ↔ flag = 0 := integer_of_word_eq bound 0
  have one : integerOfWord flag = 1 ↔ flag = 1 := integer_of_word_eq bound 1
  rw [decodeMaybeId, maybeIdOfWords]
  simp only [zero, one]
  by_cases absent : flag = 0
  · simp [absent, eq_comm]
  · by_cases present : flag = 1
    · simp [present, eq_comm]
    · simp [absent, present]

theorem decode_finite_ok {row : Nat} {field : String} {word : Nat} {found : Binary64} :
    decodeFinite row field word = .ok found ↔
      (floatOfWord word).isFinite ∧ found = floatOfWord word := by
  rw [decodeFinite]
  by_cases finite : (floatOfWord word).isFinite
  · simp [finite, eq_comm]
  · simp [finite]

theorem decode_integer_ok {word : Nat} {found : Int64} :
    decodeInteger word = .ok found ↔ found = integerOfWord word := by
  simp [decodeInteger, eq_comm]

theorem decode_prediction_ok {row : Nat} {word : Nat → Nat} (bound : ∀ place, word place < 2 ^ 64)
    (found : ReviewInput Binary64) :
    decodePrediction row word = .ok found ↔
      SharedWellFormed word ∧ found = predictionOfWords word := by
  simp only [decodePrediction, bind_ok, decode_integer_ok, decode_maybe_id_ok (bound _),
    decode_finite_ok]
  constructor
  · rintro ⟨_, rfl, _, rfl, _, ⟨note, rfl⟩, _, ⟨deck, rfl⟩, _, ⟨preset, rfl⟩, _, ⟨offset, rfl⟩, _,
      ⟨days, rfl⟩, _, ⟨seconds, rfl⟩, same⟩
    cases same
    exact ⟨⟨note, deck, preset, offset, days, seconds⟩, rfl⟩
  · rintro ⟨⟨note, deck, preset, offset, days, seconds⟩, rfl⟩
    exact ⟨_, rfl, _, rfl, _, ⟨note, rfl⟩, _, ⟨deck, rfl⟩, _, ⟨preset, rfl⟩, _, ⟨offset, rfl⟩, _,
      ⟨days, rfl⟩, _, ⟨seconds, rfl⟩, rfl⟩

theorem decode_process_ok {row : Nat} {word : Nat → Nat} (bound : ∀ place, word place < 2 ^ 64)
    (found : ReviewInput Binary64) :
    decodeProcessReview row word = .ok found ↔
      (SharedWellFormed word ∧ OutcomeWellFormed word) ∧ found = reviewOfWords word := by
  simp only [decodeProcessReview, bind_ok, decode_prediction_ok bound, decode_integer_ok,
    decode_finite_ok]
  constructor
  · rintro ⟨_, ⟨shared, rfl⟩, _, rfl, _, ⟨duration, rfl⟩, _, ⟨state, rfl⟩, same⟩
    cases same
    exact ⟨⟨shared, ⟨duration, state⟩⟩, rfl⟩
  · rintro ⟨⟨shared, ⟨duration, state⟩⟩, rfl⟩
    exact ⟨_, ⟨shared, rfl⟩, _, rfl, _, ⟨duration, rfl⟩, _, ⟨state, rfl⟩, rfl⟩

/-- A read that asked for bytes the buffer does not have. -/
inductive OutOfRange : PackedError → Prop where
  | offset (field : String) : OutOfRange (.offsetOverflow field)
  | truncated (field : String) : OutOfRange (.truncated field)

def StaysInside {Value : Type} (result : Except PackedError Value) : Prop :=
  ∀ failure, result = .error failure → ¬ OutOfRange failure

theorem stays_inside_ok {Value : Type} (value : Value) :
    StaysInside (.ok value : Except PackedError Value) := by
  intro failure impossible
  cases impossible

theorem stays_inside_bind {Value Next : Type} {result : Except PackedError Value}
    {next : Value → Except PackedError Next} (first : StaysInside result)
    (rest : ∀ value, StaysInside (next value)) : StaysInside (result >>= next) := by
  intro failure failed
  cases result with
  | error found =>
      cases failed
      exact first failure rfl
  | ok value => exact rest value failure failed

theorem decode_maybe_id_inside (row : Nat) (field : String) (flag id : Nat) :
    StaysInside (decodeMaybeId row field flag id) := by
  intro failure failed range
  rw [decodeMaybeId] at failed
  split at failed
  · cases failed
  · split at failed
    · cases failed
    · cases failed
      cases range

theorem decode_finite_inside (row : Nat) (field : String) (word : Nat) :
    StaysInside (decodeFinite row field word) := by
  intro failure failed range
  rw [decodeFinite] at failed
  split at failed
  · cases failed
  · cases failed
    cases range

theorem decode_prediction_inside (row : Nat) (word : Nat → Nat) :
    StaysInside (decodePrediction row word) := by
  apply stays_inside_bind (stays_inside_ok _)
  intro reviewId
  apply stays_inside_bind (stays_inside_ok _)
  intro cardId
  apply stays_inside_bind (decode_maybe_id_inside row _ _ _)
  intro noteId
  apply stays_inside_bind (decode_maybe_id_inside row _ _ _)
  intro deckId
  apply stays_inside_bind (decode_maybe_id_inside row _ _ _)
  intro presetId
  apply stays_inside_bind (decode_finite_inside row _ _)
  intro dayOffset
  apply stays_inside_bind (decode_finite_inside row _ _)
  intro elapsedDays
  apply stays_inside_bind (decode_finite_inside row _ _)
  intro elapsedSeconds
  exact stays_inside_ok _

theorem decode_process_inside (row : Nat) (word : Nat → Nat) :
    StaysInside (decodeProcessReview row word) := by
  apply stays_inside_bind (decode_prediction_inside row word)
  intro shared
  apply stays_inside_bind (stays_inside_ok _)
  intro rating
  apply stays_inside_bind (decode_finite_inside row _ _)
  intro duration
  apply stays_inside_bind (decode_finite_inside row _ _)
  intro state
  exact stays_inside_ok _

theorem rows_inside {Value : Type} {decode : Nat → Except PackedError Value}
    (each : ∀ row, StaysInside (decode row)) (rows : List Nat) : StaysInside (rows.mapM decode) := by
  intro failure failed
  obtain ⟨row, _, found⟩ := mapM_error_mem failed
  exact each row failure found

end RwkvSrs.PackedRecords
