import RwkvSrs.CanonicalAgreement

/-!
The history fingerprint: a chain of hashes over the canonical records of the
reviews, advanced natively over the slices of a parsed batch and in Python one
row at a time. Both are read off the same closed form, the chain of the texts
from the decoded previous digest. SHA-256 is a parameter, the same function for
both sides.
-/

namespace RwkvSrs.HistoryDigest

open RecordText ResultSteps ReviewMappings CanonicalAgreement

set_option autoImplicit false

abbrev Digest := { bytes : List UInt8 // bytes.length = 32 }

def utf8 (text : String) : List UInt8 := text.toByteArray.data.toList

def initialHistoryDigest : String := String.ofList (List.replicate 64 '0')

-- A digest of 64 hexadecimal characters is 64 bytes of ASCII, so its pairs are 32 bytes.
def decodeSha256Hex (value : String) : PyResult Digest :=
  if (utf8 value).length ≠ 64 then
    valueError "history digest must contain exactly 64 hexadecimal characters"
  else
    match decodePairs value.toList with
    | some bytes =>
        if length : bytes.length = 32 then .ok ⟨bytes, length⟩
        else valueError "history digest must contain only hexadecimal characters"
    | none => valueError "history digest must contain only hexadecimal characters"

def encodeSha256Hex (digest : Digest) : String := encodeHex digest.val

def isAsciiSpace (character : Char) : Bool :=
  character = ' ' || ('\t' ≤ character && character ≤ '\r')

/-- `bytes.fromhex`: blanks between pairs are skipped. -/
def fromHex : List Char → Option (List UInt8)
  | [] => some []
  | [last] => if isAsciiSpace last then some [] else none
  | high :: low :: rest =>
      if isAsciiSpace high then fromHex (low :: rest)
      else do
        let upper ← hexNibble high
        let lower ← hexNibble low
        let bytes ← fromHex rest
        return UInt8.ofNat (upper * 16 + lower) :: bytes

structure HistoryMetadata where
  historyDigest : Option String
  processedReviewCount : Nat
  lastReviewId : PyValue
deriving DecidableEq

def reviewIdValue : Option Int64 → PyValue
  | some id => .int id.toInt
  | none => .none

section Paths

variable (sha256 : List UInt8 → Digest) (floatRepr : Binary64 → String)

def hashText (digest : Digest) (text : String) : Digest := sha256 (digest.val ++ utf8 text)

structure NativeReviewBatch where
  inputs : List (ReviewInput Binary64)
  start : Nat
  stop : Nat
  ordered : start ≤ stop
  inside : stop ≤ inputs.length

def NativeReviewBatch.rows (batch : NativeReviewBatch) : List (ReviewInput Binary64) :=
  (batch.inputs.take batch.stop).drop batch.start

theorem rows_length (batch : NativeReviewBatch) :
    batch.rows.length = batch.stop - batch.start := by
  simp [NativeReviewBatch.rows, Nat.min_eq_left batch.inside]

def parseReviews (index : Nat) : List ReviewMapping → PyResult (List (ReviewInput Binary64))
  | [] => .ok []
  | review :: reviews =>
      match processReview review with
      | .error error => valueError ("Review at index " ++ toString index ++
          " is invalid for process_many(): " ++ error.display)
      | .ok input => do return input :: (← parseReviews (index + 1) reviews)

def newBatch (inputs : List (ReviewInput Binary64)) : NativeReviewBatch :=
  ⟨inputs, 0, inputs.length, Nat.zero_le _, Nat.le_refl _⟩

def nativeReviewBatch (reviews : List ReviewMapping) : PyResult NativeReviewBatch := do
  return newBatch (← parseReviews 0 reviews)

def NativeReviewBatch.slice (batch : NativeReviewBatch) (start stop : Nat) :
    PyResult NativeReviewBatch :=
  if inside : start ≤ stop ∧ stop ≤ batch.rows.length then
    .ok {
      inputs := batch.inputs
      start := batch.start + start
      stop := batch.start + stop
      ordered := Nat.add_le_add_left inside.1 _
      inside := by
        have length := rows_length batch
        have fits := batch.inside
        have ordered := batch.ordered
        omega }
  else valueError ("ReviewBatch slice [" ++ toString start ++ ":" ++ toString stop ++
    "] is outside a batch of " ++ toString batch.rows.length ++ " rows")

def nativeChain (digest : Digest) (inputs : List (ReviewInput Binary64)) : PyResult Digest :=
  inputs.foldlM (fun digest input => do
    return hashText sha256 digest (← nativeReviewText floatRepr input)) digest

def NativeReviewBatch.historyAdvance (batch : NativeReviewBatch) (previousDigest : Option String)
    (count : Option Nat) : PyResult (Option String × Option Int64) :=
  let count := count.getD batch.rows.length
  if batch.rows.length < count then
    valueError ("history prefix count " ++ toString count ++ " exceeds ReviewBatch length " ++
      toString batch.rows.length)
  else
    let inputs := batch.rows.take count
    let lastReviewId := inputs.getLast?.map ReviewInput.reviewId
    match previousDigest with
    | none => .ok (none, lastReviewId)
    | some previousDigest => do
        let digest ← decodeSha256Hex previousDigest
        let digest ← nativeChain sha256 floatRepr digest inputs
        return (some (encodeSha256Hex digest), lastReviewId)

def NativeReviewBatch.matchesHistoryFingerprint (batch : NativeReviewBatch)
    (expectedDigest : String) (expectedCount : Nat) (expectedLastReviewId : Option Int64) :
    PyResult Bool :=
  if batch.rows.length < expectedCount then .ok false
  else do
    let (digest, lastReviewId) ←
      batch.historyAdvance sha256 floatRepr (some initialHistoryDigest) (some expectedCount)
    return digest == some expectedDigest && lastReviewId == expectedLastReviewId

def prepareProcessedBatch (metadata : HistoryMetadata) (rows : NativeReviewBatch)
    (count : Option Nat) : PyResult (Option String × Option Int64) :=
  rows.historyAdvance sha256 floatRepr metadata.historyDigest count

def commitPrepared (metadata : HistoryMetadata) (committedCount : Nat)
    (prepared : Option String × Option Int64) : PyResult HistoryMetadata :=
  match metadata.historyDigest, prepared.1 with
  | none, _ => .ok { metadata with lastReviewId := reviewIdValue prepared.2 }
  | some _, none => .error ⟨"RuntimeError", "Native ReviewBatch omitted a tracked history digest."⟩
  | some _, some digest => .ok {
      historyDigest := some digest
      processedReviewCount := metadata.processedReviewCount + committedCount
      lastReviewId := reviewIdValue prepared.2 }

def commitProcessedBatch (metadata : HistoryMetadata) (rows : NativeReviewBatch)
    (count : Option Nat) (prepared : Option (Option String × Option Int64)) :
    PyResult HistoryMetadata :=
  let committedCount := count.getD rows.rows.length
  if rows.rows.length < committedCount then
    .error ⟨"RuntimeError", "Native process reported " ++ toString committedCount ++
      " committed rows for a " ++ toString rows.rows.length ++ "-row ReviewBatch."⟩
  else if committedCount = 0 then .ok metadata
  else do
    let prepared ← match prepared with
      | some prepared => .ok prepared
      | none => prepareProcessedBatch sha256 floatRepr metadata rows (some committedCount)
    commitPrepared metadata committedCount prepared

/-- A batch whose rows all commit: its metadata is prepared before the native call. -/
def advanceBatch (metadata : HistoryMetadata) (rows : NativeReviewBatch) :
    PyResult HistoryMetadata := do
  let prepared ← prepareProcessedBatch sha256 floatRepr metadata rows none
  commitProcessedBatch sha256 floatRepr metadata rows none (some prepared)

/-- Consecutive slices of the given sizes, one after another. -/
def advanceSlices (batch : NativeReviewBatch) : Nat → List Nat → HistoryMetadata →
    PyResult HistoryMetadata
  | _, [], metadata => .ok metadata
  | start, size :: sizes, metadata => do
      let rows ← batch.slice start (start + size)
      let metadata ← advanceBatch sha256 floatRepr metadata rows
      advanceSlices batch (start + size) sizes metadata

def chainDigest (previousDigest : String) (row : ReviewMapping) : PyResult String :=
  match fromHex previousDigest.toList with
  | none => valueError "non-hexadecimal number found in fromhex() arg"
  | some previous => do
      let text ← canonicalReviewText floatRepr row
      return encodeSha256Hex (sha256 (previous ++ utf8 text))

def recordProcessedRow (metadata : HistoryMetadata) (row : ReviewMapping) :
    PyResult HistoryMetadata := do
  let metadata ← match metadata.historyDigest with
    | none => .ok metadata
    | some digest => do
        let digest ← chainDigest sha256 floatRepr digest row
        .ok { metadata with
          historyDigest := some digest
          processedReviewCount := metadata.processedReviewCount + 1 }
  let reviewId ← getItem row "review_id"
  return { metadata with lastReviewId := normalizeReviewId reviewId }

def recordProcessedRows (metadata : HistoryMetadata) (rows : List ReviewMapping) :
    PyResult HistoryMetadata :=
  rows.foldlM (recordProcessedRow sha256 floatRepr) metadata

structure Fingerprint where
  digest : String
  processedReviewCount : Nat
  lastReviewId : PyValue
deriving DecidableEq

def fingerprintRow (found : Fingerprint) (row : ReviewMapping) : PyResult Fingerprint := do
  requireColumns row
  let digest ← chainDigest sha256 floatRepr found.digest row
  let reviewId ← getItem row "review_id"
  return ⟨digest, found.processedReviewCount + 1, normalizeReviewId reviewId⟩

/-- The loop stops at the limit, so it sees the first rows only. -/
def fingerprintReviews (reviews : List ReviewMapping) (limit : Nat) : PyResult Fingerprint :=
  (reviews.take limit).foldlM (fingerprintRow sha256 floatRepr) ⟨initialHistoryDigest, 0, .none⟩

/-- Python equality between a normalized identity and an expected one. -/
def sameReviewId : PyValue → Option Int64 → Bool
  | .int number, some id => number == id.toInt
  | .float value, some id => value.integral == some id.toInt
  | .none, none => true
  | _, _ => false

def checkHistoryConsistency (reviews : List ReviewMapping) (expectedDigest : String)
    (expectedCount : Nat) (expectedLastReviewId : Option Int64) : PyResult Bool := do
  let actual ← fingerprintReviews sha256 floatRepr reviews expectedCount
  return actual.digest == expectedDigest && actual.processedReviewCount == expectedCount &&
    sameReviewId actual.lastReviewId expectedLastReviewId

end Paths

end RwkvSrs.HistoryDigest
