import RwkvSrs.Binary64Integers
import RwkvSrs.RecordText
import RwkvSrs.ReviewInput

/-!
Review mappings as Python hands them over, and the two readings of them. The
native parsers normalise every field to a fixed-width value when a batch is
built; the Python canonicaliser keeps integers at any size and writes one JSON
record for each review. Both meet again in the text of that record, which the
native side writes from the normalised row. The shortest float text is the same
function on both sides and is a parameter here.
-/

namespace RwkvSrs.ReviewMappings

set_option autoImplicit false

open RecordText

inductive PyValue where
  | none
  /-- A pandas `NAType` or `NaTType` marker. -/
  | na
  | bool (value : Bool)
  | int (value : Int)
  | float (value : Binary64)
deriving DecidableEq

structure PyError where
  kind : String
  message : String
deriving DecidableEq

abbrev PyResult := Except PyError

def PyError.display (error : PyError) : String := error.kind ++ ": " ++ error.message

def valueError {Value : Type} (message : String) : PyResult Value := .error ⟨"ValueError", message⟩

/-- A plain dictionary or another mapping, by its items. -/
structure ReviewMapping where
  isDict : Bool
  items : List (String × PyValue)
deriving DecidableEq

def ReviewMapping.get (review : ReviewMapping) (field : String) : Option PyValue :=
  review.items.lookup field

/-- Conversion of an integer to a float; it overflows rather than reach an infinity. -/
def floatOfInteger (number : Int) : Option Binary64 :=
  if (Binary64.ofInteger number).isFinite then some (Binary64.ofInteger number) else Option.none

def integerOfBool (value : Bool) : Int := if value then 1 else 0

def minI64 : Int := -(2 ^ 63)

def endI64 : Int := 2 ^ 63

def extractI64 : PyValue → Option Int64
  | .int number =>
      if minI64 ≤ number ∧ number < endI64 then some (Int64.ofInt number) else Option.none
  | .bool value => some (Int64.ofInt (integerOfBool value))
  | _ => Option.none

def extractF64 : PyValue → Option Binary64
  | .float value => some value
  | .int number => floatOfInteger number
  | .bool value => some (Binary64.ofInteger (integerOfBool value))
  | _ => Option.none

def nativeIsMissing (value : PyValue) : Bool :=
  match value with
  | .none => true
  | .na => true
  | other =>
      match extractF64 other with
      | some number => number.isNan
      | Option.none => false

-- i64::MAX rounds to 2^63 as f64, so the upper boundary must be strict.
def integralF64ToI64 (value : Binary64) : Option Int64 :=
  match value.integral with
  | some number =>
      if minI64 ≤ number ∧ number < endI64 then some (Int64.ofInt number) else Option.none
  | Option.none => Option.none

def notInteger (field : String) : String := "review field '" ++ field ++ "' must be an integer"

def notFinite (field : String) : String := "review field '" ++ field ++ "' must be a finite number"

def parseI64 (value : PyValue) (field : String) : PyResult Int64 :=
  match extractI64 value with
  | some number => .ok number
  | Option.none =>
      match extractF64 value with
      | some number =>
          if number.isNan then valueError (notInteger field ++ ", got missing value")
          else
            match integralF64ToI64 number with
            | some whole => .ok whole
            | Option.none => valueError (notInteger field)
      | Option.none =>
          if nativeIsMissing value then valueError (notInteger field ++ ", got missing value")
          else valueError (notInteger field)

def parseId (value : PyValue) (field : String) : PyResult MaybeId :=
  if value = .none then .ok .missing
  else
    match extractI64 value with
    | some number => .ok (.present number)
    | Option.none =>
        match extractF64 value with
        | some number =>
            if number.isNan then .ok .missing
            else
              match integralF64ToI64 number with
              | some whole => .ok (.present whole)
              | Option.none => valueError (notInteger field)
        | Option.none =>
            if nativeIsMissing value then .ok .missing
            else (parseI64 value field).map .present

def parseF64 (value : PyValue) (field : String) : PyResult Binary64 :=
  match extractF64 value with
  | some number =>
      if number.isFinite then .ok number
      else if number.isNan then valueError (notFinite field ++ ", got missing value")
      else valueError (notFinite field)
  | Option.none =>
      if nativeIsMissing value then valueError (notFinite field ++ ", got missing value")
      else valueError (notFinite field)

def getItem (review : ReviewMapping) (field : String) : PyResult PyValue :=
  match review.get field with
  | some value => .ok value
  | Option.none => .error ⟨"KeyError", "'" ++ field ++ "'"⟩

def optionalField {Value : Type} (review : ReviewMapping) (field : String)
    (parse : PyValue → String → PyResult Value) : PyResult (Option Value) :=
  match review.get field with
  | Option.none => .ok Option.none
  | some value =>
      if nativeIsMissing value then .ok Option.none else (parse value field).map some

def processField {Value : Type} (review : ReviewMapping) (field : String) (requireProcess : Bool)
    (parse : PyValue → String → PyResult Value) : PyResult (Option Value) :=
  if requireProcess then do
    let value ← getItem review field
    (parse value field).map some
  else optionalField review field parse

def reviewFromMapping (review : ReviewMapping) (requireProcess : Bool) :
    PyResult (ReviewInput Binary64) := do
  let reviewId ← parseI64 (← getItem review "review_id") "review_id"
  let cardId ← parseI64 (← getItem review "card_id") "card_id"
  let noteId ← parseId (← getItem review "note_id") "note_id"
  let deckId ← parseId (← getItem review "deck_id") "deck_id"
  let presetId ← parseId (← getItem review "preset_id") "preset_id"
  let dayOffset ← parseF64 (← getItem review "day_offset") "day_offset"
  let elapsedDays ← parseF64 (← getItem review "elapsed_days") "elapsed_days"
  let elapsedSeconds ← parseF64 (← getItem review "elapsed_seconds") "elapsed_seconds"
  let rating ← processField review "rating" requireProcess parseI64
  let duration ← processField review "duration" requireProcess parseF64
  let state ← processField review "state" requireProcess parseF64
  return {
    reviewId, cardId, noteId, deckId, presetId, dayOffset, elapsedDays, elapsedSeconds
    rating, duration, state }

def processRequiredColumns : List String :=
  ["review_id", "card_id", "note_id", "deck_id", "preset_id", "day_offset", "elapsed_days",
    "elapsed_seconds", "rating", "duration", "state"]

def missingColumns (review : ReviewMapping) : List String :=
  processRequiredColumns.filter fun field => (review.get field).isNone

def missingRequiredFields (missing : List String) : String :=
  "Review input is missing required fields: [" ++
    ", ".intercalate (missing.map fun field => "'" ++ field ++ "'") ++ "]"

/-- The dictionary parser fetches every field first; the conversions are those of the mapping. -/
def processReviewFromDict (review : ReviewMapping) : PyResult (ReviewInput Binary64) :=
  if (missingColumns review).isEmpty then reviewFromMapping review true
  else valueError (missingRequiredFields (missingColumns review))

def processReview (review : ReviewMapping) : PyResult (ReviewInput Binary64) :=
  if review.isDict then processReviewFromDict review else reviewFromMapping review true

inductive JsonValue where
  | null
  | int (value : Int)
  | float (value : Binary64)
deriving DecidableEq

def historyIntegerFields : List String :=
  ["review_id", "card_id", "note_id", "deck_id", "preset_id", "rating", "state"]

def historyFingerprintFields : List String := processRequiredColumns

def pythonFloat (number : Int) : PyResult Binary64 :=
  match floatOfInteger number with
  | some value => .ok value
  | Option.none => .error ⟨"OverflowError", "int too large to convert to float"⟩

def isMissing : PyValue → PyResult Bool
  | .none => .ok true
  | .na => .ok true
  | .bool _ => .ok false
  | .int number => (pythonFloat number).map Binary64.isNan
  | .float value => .ok value.isNan

def canonicalInt (value : PyValue) (field : String) : PyResult Int :=
  match value with
  | .bool value => .ok (integerOfBool value)
  | .int number => .ok number
  | .float value =>
      match value.integral with
      | some number => .ok number
      | Option.none => valueError ("Review field '" ++ field ++ "' must be an integer or missing.")
  | _ => valueError ("Review field '" ++ field ++ "' must be an integer or missing.")

def finiteOrError (value : Binary64) (field : String) : PyResult Binary64 :=
  if value.isFinite then .ok value
  else valueError ("Review field '" ++ field ++ "' must be a finite number or missing.")

def canonicalFloat (value : PyValue) (field : String) : PyResult Binary64 :=
  match value with
  | .bool value => finiteOrError (Binary64.ofInteger (integerOfBool value)) field
  | .int number => do finiteOrError (← pythonFloat number) field
  | .float value => finiteOrError value field
  | _ => valueError ("Review field '" ++ field ++ "' must be a finite number or missing.")

/-- Every fingerprint field is an integer field or a float field. -/
def canonicalReviewValue (field : String) (value : PyValue) : PyResult JsonValue := do
  if ← isMissing value then return .null
  if field ∈ historyIntegerFields then return .int (← canonicalInt value field)
  return .float (← canonicalFloat value field)

def JsonValue.dumps (floatRepr : Binary64 → String) : JsonValue → String
  | .null => "null"
  | .int number => number.repr
  | .float value => floatRepr value

def canonicalRecord (row : ReviewMapping) : PyResult (List JsonValue) :=
  historyFingerprintFields.mapM fun field => do
    canonicalReviewValue field (← getItem row field)

/-- `_canonical_review_bytes`, before the encoding to ASCII. -/
def canonicalReviewText (floatRepr : Binary64 → String) (row : ReviewMapping) :
    PyResult String := do
  let record ← canonicalRecord row
  return recordText (historyFingerprintFields.zip (record.map (JsonValue.dumps floatRepr)))

def requireColumns (row : ReviewMapping) : PyResult Unit :=
  if (missingColumns row).isEmpty then .ok ()
  else valueError (missingRequiredFields (missingColumns row))

def normalizeReviewId : PyValue → PyValue
  | .bool value => .int (integerOfBool value)
  | .int number => .int number
  | .float value =>
      match value.integral with
      | some number => .int number
      | Option.none => .float value
  | other => other

def maybeIdText : MaybeId → String
  | .present id => id.toInt.repr
  | .missing => "null"

/-- Python converts a large integral float to an integer of any size; smaller ones are
printed as an i64. Either way the digits are those of the exact integer. -/
def integerFloatText (value : Binary64) : PyResult String :=
  match value.integral with
  | some number =>
      if minI64 ≤ number ∧ number < endI64 then .ok (Int64.ofInt number).toInt.repr
      else .ok number.repr
  | Option.none => valueError "Review field 'state' must be an integer or missing."

/-- `expect`: the panic message of a value that should be present. -/
def expected {Value : Type} (message : String) : Option Value → PyResult Value
  | some value => .ok value
  | Option.none => .error ⟨"PanicException", message⟩

def nativeReviewText (floatRepr : Binary64 → String) (input : ReviewInput Binary64) :
    PyResult String := do
  let text := "\x7b\"review_id\":" ++ input.reviewId.toInt.repr ++ ",\"card_id\":" ++
    input.cardId.toInt.repr ++ ",\"note_id\":" ++ maybeIdText input.noteId ++
    ",\"deck_id\":" ++ maybeIdText input.deckId ++ ",\"preset_id\":" ++
    maybeIdText input.presetId ++ ",\"day_offset\":" ++ floatRepr input.dayOffset ++
    ",\"elapsed_days\":" ++ floatRepr input.elapsedDays ++ ",\"elapsed_seconds\":" ++
    floatRepr input.elapsedSeconds
  let rating ← expected "process batch rating is present" input.rating
  let duration ← expected "process batch duration is present" input.duration
  let state ← expected "process batch state is present" input.state
  let stateText ← integerFloatText state
  return text ++ ",\"rating\":" ++ rating.toInt.repr ++ ",\"duration\":" ++ floatRepr duration ++
    ",\"state\":" ++ stateText ++ "\x7d"

end RwkvSrs.ReviewMappings
