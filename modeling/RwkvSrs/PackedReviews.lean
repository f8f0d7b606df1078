import RwkvSrs.LittleEndian
import RwkvSrs.ReviewMappings

/-!
Packed rows. A process review is a record of fourteen little-endian words, a
prediction row is its first eleven, and a payload puts a magic and a row count
before its records. The parsers advance an offset through the records; the
packers of both languages append the same words.

A field of eight bytes always converts to an array of eight bytes, and every
64-bit row count fits a `usize`, so those two conversions have no error here.
-/

namespace RwkvSrs.PackedReviews

set_option autoImplicit false

open RwkvSrs.CheckpointBytes (fromLe)
open RwkvSrs.LittleEndian RwkvSrs.ReviewMappings

def processReviewPayloadMagic : List UInt8 := [0x52, 0x57, 0x53, 0x52, 0x53, 0x50, 0x30, 0x31]

def processReviewPayloadHeaderLen : Nat := 16

def processReviewPayloadRecordLen : Nat := 112

def predictionRecordLen : Nat := 88

/-- The largest `usize`, plus one. -/
def usizeEnd : Nat := 2 ^ 64

inductive PackedError where
  | shortHeader
  | unsupportedMagic
  | lengthOverflow
  | lengthMismatch (expected rows got : Nat)
  | recordLength (record got : Nat)
  | offsetOverflow (field : String)
  | truncated (field : String)
  | invalidFlag (row : Nat) (field : String) (present : Int64)
  | notFinite (row : Nat) (field : String)

/-- The text of an error, where `rows` is "process review" or "prediction". -/
def PackedError.message (rows : String) : PackedError → String
  | .shortHeader => "packed " ++ rows ++ " payload is shorter than the header"
  | .unsupportedMagic => "packed " ++ rows ++ " payload has unsupported magic"
  | .lengthOverflow => "packed " ++ rows ++ " payload length overflow"
  | .lengthMismatch expected count got =>
      s!"packed {rows} payload length mismatch: expected {expected} bytes for {count} rows, got {got} bytes"
  | .recordLength record got =>
      s!"{rows} record buffer length must be a multiple of {record} bytes; got {got} bytes"
  | .offsetOverflow field => "packed " ++ rows ++ " field '" ++ field ++ "' offset overflow"
  | .truncated field => "packed " ++ rows ++ " field '" ++ field ++ "' is truncated"
  | .invalidFlag row field present =>
      s!"packed {rows} row {row} field '" ++ field ++
        s!"' has invalid presence flag {present.toInt}"
  | .notFinite row field => s!"packed {rows} row {row} field '" ++ field ++ "' must be finite"

/-- A reader that keeps the offset of the next field. -/
abbrev RecordReader := StateT Nat (Except PackedError)

section Reading

variable (records : List UInt8)

def readArray (offset : Nat) (field : String) : Except PackedError (List UInt8) :=
  if usizeEnd ≤ offset + 8 then .error (.offsetOverflow field)
  else if records.length < offset + 8 then .error (.truncated field)
  else .ok ((records.drop offset).take 8)

def integerOfWord (word : Nat) : Int64 := (UInt64.ofNat word).toInt64

def floatOfWord (word : Nat) : Binary64 := ⟨UInt64.ofNat word⟩

def readI64 (field : String) : RecordReader Int64 := fun offset => do
  let bytes ← readArray records offset field
  return (integerOfWord (fromLe bytes), offset + 8)

def readMaybeId (row : Nat) (field : String) : RecordReader MaybeId := do
  let present ← readI64 records field
  let id ← readI64 records field
  if present = 0 then return .missing
  if present = 1 then return .present id
  throw (.invalidFlag row field present)

def readFiniteF64 (row : Nat) (field : String) : RecordReader Binary64 := fun offset => do
  let bytes ← readArray records offset field
  let value := floatOfWord (fromLe bytes)
  if value.isFinite then return (value, offset + 8)
  throw (.notFinite row field)

def parseProcessReviewRecord (row : Nat) : RecordReader (ReviewInput Binary64) := do
  let reviewId ← readI64 records "review_id"
  let cardId ← readI64 records "card_id"
  let noteId ← readMaybeId records row "note_id"
  let deckId ← readMaybeId records row "deck_id"
  let presetId ← readMaybeId records row "preset_id"
  let dayOffset ← readFiniteF64 records row "day_offset"
  let elapsedDays ← readFiniteF64 records row "elapsed_days"
  let elapsedSeconds ← readFiniteF64 records row "elapsed_seconds"
  let rating ← readI64 records "rating"
  let duration ← readFiniteF64 records row "duration"
  let state ← readFiniteF64 records row "state"
  return {
    reviewId, cardId, noteId, deckId, presetId, dayOffset, elapsedDays, elapsedSeconds
    rating := some rating
    duration := some duration
    state := some state }

def parseProcessReviewRecords (rowCount : Nat) :
    Except PackedError (List (ReviewInput Binary64)) := do
  let (rows, _) ← (List.range rowCount).mapM (parseProcessReviewRecord records) 0
  return rows

def parseProcessReviewRecordBuffer : Except PackedError (List (ReviewInput Binary64)) := do
  if records.length % processReviewPayloadRecordLen ≠ 0 then
    throw (.recordLength processReviewPayloadRecordLen records.length)
  parseProcessReviewRecords records (records.length / processReviewPayloadRecordLen)

def parsePredictionRecord (row : Nat) : RecordReader (ReviewInput Binary64) := do
  let reviewId ← readI64 records "review_id"
  let cardId ← readI64 records "card_id"
  let noteId ← readMaybeId records row "note_id"
  let deckId ← readMaybeId records row "deck_id"
  let presetId ← readMaybeId records row "preset_id"
  let dayOffset ← readFiniteF64 records row "day_offset"
  let elapsedDays ← readFiniteF64 records row "elapsed_days"
  let elapsedSeconds ← readFiniteF64 records row "elapsed_seconds"
  return {
    reviewId, cardId, noteId, deckId, presetId, dayOffset, elapsedDays, elapsedSeconds
    rating := none
    duration := none
    state := none }

def parsePredictionRecordBuffer : Except PackedError (List (ReviewInput Binary64)) := do
  if records.length % predictionRecordLen ≠ 0 then
    throw (.recordLength predictionRecordLen records.length)
  let (rows, _) ← (List.range (records.length / predictionRecordLen)).mapM
    (parsePredictionRecord records) 0
  return rows

end Reading

/-- The length check and the records of a payload whose count has been read. -/
def parseCountedRecords (payload : List UInt8) (rowCount : Nat) :
    Except PackedError (List (ReviewInput Binary64)) := do
  let expectedLen := processReviewPayloadHeaderLen + rowCount * processReviewPayloadRecordLen
  if usizeEnd ≤ expectedLen then
    throw .lengthOverflow
  if payload.length ≠ expectedLen then
    throw (.lengthMismatch expectedLen rowCount payload.length)
  parseProcessReviewRecords (payload.drop processReviewPayloadHeaderLen) rowCount

def parseProcessReviewPayload (payload : List UInt8) :
    Except PackedError (List (ReviewInput Binary64)) := do
  if payload.length < processReviewPayloadHeaderLen then
    throw .shortHeader
  if payload.take processReviewPayloadMagic.length ≠ processReviewPayloadMagic then
    throw .unsupportedMagic
  let rowCount ← readArray payload 8 "row_count"
  parseCountedRecords payload (fromLe rowCount)

def wordOfInteger (value : Int64) : Nat := value.toUInt64.toNat

def wordOfFloat (value : Binary64) : Nat := value.bits.toNat

def appendMaybeId : MaybeId → List UInt8
  | .present value => toLe 8 (wordOfInteger 1) ++ toLe 8 (wordOfInteger value)
  | .missing => toLe 8 (wordOfInteger 0) ++ toLe 8 (wordOfInteger 0)

/-- `expect` of a field every process review has; it panics with the message. -/
def required {Value : Type} (field : String) : Option Value → Except String Value
  | some value => .ok value
  | none => .error ("process review payload requires " ++ field)

def packRecord (input : ReviewInput Binary64) : Except String (List UInt8) := do
  let rating ← required "rating" input.rating
  let duration ← required "duration" input.duration
  let state ← required "state" input.state
  return toLe 8 (wordOfInteger input.reviewId) ++ toLe 8 (wordOfInteger input.cardId) ++
    appendMaybeId input.noteId ++ appendMaybeId input.deckId ++ appendMaybeId input.presetId ++
    toLe 8 (wordOfFloat input.dayOffset) ++ toLe 8 (wordOfFloat input.elapsedDays) ++
    toLe 8 (wordOfFloat input.elapsedSeconds) ++ toLe 8 (wordOfInteger rating) ++
    toLe 8 (wordOfFloat duration) ++ toLe 8 (wordOfFloat state)

def packProcessReviewPayload (inputs : List (ReviewInput Binary64)) : Except String (List UInt8) := do
  let records ← inputs.mapM packRecord
  return processReviewPayloadMagic ++ toLe 8 inputs.length ++ records.flatten

def packedIsMissing : PyValue → PyResult Bool
  | .none => .ok true
  | .na => .ok true
  | .bool _ => .ok false
  | .int number => (pythonFloat number).map Binary64.isNan
  | .float value => .ok value.isNan

def packedRequiredInt (value : PyValue) (field : String) : PyResult Int := do
  if ← packedIsMissing value then
    valueError ("Review field '" ++ field ++ "' must be an integer, got missing value.")
  else
    match value with
    | .bool value => return integerOfBool value
    | .int number => return number
    | .float value =>
        match value.integral with
        | some number => return number
        | none => valueError ("Review field '" ++ field ++ "' must be an integer.")
    | _ => valueError ("Review field '" ++ field ++ "' must be an integer.")

def packedRequiredFloat (value : PyValue) (field : String) : PyResult Binary64 := do
  if ← packedIsMissing value then
    valueError ("Review field '" ++ field ++ "' must be a finite number, got missing value.")
  else
    match value with
    | .bool value => return Binary64.ofInteger (integerOfBool value)
    | .int number => pythonFloat number
    | .float value =>
        if value.isFinite then return value
        else valueError ("Review field '" ++ field ++ "' must be a finite number.")
    | _ => valueError ("Review field '" ++ field ++ "' must be a finite number.")

def packedOptionalId (value : PyValue) (field : String) : PyResult (Int × Int) := do
  if ← packedIsMissing value then return (0, 0)
  return (1, ← packedRequiredInt value field)

/-- One `q` of a record; a number out of range is a `struct.error`. -/
def structWord (index : Nat) (number : Int) : PyResult (List UInt8) :=
  if minI64 ≤ number ∧ number < endI64 then .ok (toLe 8 (wordOfInteger (Int64.ofInt number)))
  else valueError s!"Review at index {index} cannot be encoded for Rust process_many()."

def packRow (row : ReviewMapping) (index : Nat) : PyResult (List UInt8) := do
  let (notePresent, noteId) ← packedOptionalId (← getItem row "note_id") "note_id"
  let (deckPresent, deckId) ← packedOptionalId (← getItem row "deck_id") "deck_id"
  let (presetPresent, presetId) ← packedOptionalId (← getItem row "preset_id") "preset_id"
  let reviewId ← packedRequiredInt (← getItem row "review_id") "review_id"
  let cardId ← packedRequiredInt (← getItem row "card_id") "card_id"
  let dayOffset ← packedRequiredFloat (← getItem row "day_offset") "day_offset"
  let elapsedDays ← packedRequiredFloat (← getItem row "elapsed_days") "elapsed_days"
  let elapsedSeconds ← packedRequiredFloat (← getItem row "elapsed_seconds") "elapsed_seconds"
  let rating ← packedRequiredInt (← getItem row "rating") "rating"
  let duration ← packedRequiredFloat (← getItem row "duration") "duration"
  let state ← packedRequiredFloat (← getItem row "state") "state"
  let ids ← [reviewId, cardId, notePresent, noteId, deckPresent, deckId, presetPresent,
    presetId].mapM (structWord index)
  let ratingWord ← structWord index rating
  return ids.flatten ++ toLe 8 (wordOfFloat dayOffset) ++ toLe 8 (wordOfFloat elapsedDays) ++
    toLe 8 (wordOfFloat elapsedSeconds) ++ ratingWord ++ toLe 8 (wordOfFloat duration) ++
    toLe 8 (wordOfFloat state)

def packProcessReviews (rows : List ReviewMapping) : PyResult (List UInt8) := do
  let records ← rows.zipIdx.mapM fun (row, index) => packRow row index
  return processReviewPayloadMagic ++ toLe 8 rows.length ++ records.flatten

end RwkvSrs.PackedReviews
