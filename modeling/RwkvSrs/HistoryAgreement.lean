import RwkvSrs.HistoryDigest

/-!
Agreement of the two history fingerprints. Both paths are brought to one closed
form: the chain of the record texts, spelled in lower case once a row has been
hashed. They then agree exactly when every row's two texts do, unless two
different messages of the chains happen to have one digest.
-/

namespace RwkvSrs.HistoryAgreement

open RecordText ResultSteps ReviewMappings CanonicalAgreement HistoryDigest

set_option autoImplicit false

theorem utf8_of_list (characters : List Char) :
    utf8 (String.ofList characters) = characters.flatMap String.utf8EncodeChar := by
  unfold utf8
  rw [String.toByteArray_ofList]
  simp [List.utf8Encode]

theorem hex_digit_byte {value : Nat} (small : value < 16) :
    (String.utf8EncodeChar (hexDigit value)).length = 1 := by
  revert value
  decide

theorem utf8_hex_length (bytes : List UInt8) : (utf8 (encodeHex bytes)).length = 2 * bytes.length := by
  unfold encodeHex
  rw [utf8_of_list]
  induction bytes with
  | nil => rfl
  | cons byte bytes ih =>
      have bounded := byte.toNat_lt
      have high := hex_digit_byte (show byte.toNat / 16 < 16 by omega)
      have low := hex_digit_byte (show byte.toNat % 16 < 16 by omega)
      simp only [List.flatMap_cons, List.flatMap_append, List.length_append, hexPair,
        List.flatMap_nil, List.append_nil, high, low, List.length_cons, ih]
      omega

theorem decode_encoded (digest : Digest) :
    decodeSha256Hex (encodeSha256Hex digest) = .ok digest := by
  have length := utf8_hex_length digest.val
  rw [digest.property] at length
  unfold decodeSha256Hex encodeSha256Hex
  simp only [length, decode_encode, ne_eq, not_true_eq_false, if_false]
  rw [dif_pos digest.property]

theorem decoded_pairs {value : String} {digest : Digest}
    (decoded : decodeSha256Hex value = .ok digest) :
    decodePairs value.toList = some digest.val := by
  unfold decodeSha256Hex at decoded
  split at decoded
  · cases decoded
  · split at decoded
    · rename_i bytes pairs
      split at decoded
      · cases decoded
        exact pairs
      · cases decoded
    · cases decoded

def initialDigest : Digest := ⟨List.replicate 32 0, List.length_replicate⟩

theorem initial_encoded : initialHistoryDigest = encodeSha256Hex initialDigest := by
  unfold initialHistoryDigest encodeSha256Hex encodeHex
  congr 1

theorem space_not_nibble {digit : Char} (nibble : (hexNibble digit).isSome) :
    isAsciiSpace digit = false := by
  unfold isAsciiSpace
  rw [Bool.or_eq_false_iff]
  unfold hexNibble at nibble
  constructor
  · apply decide_eq_false
    rintro rfl
    exact absurd nibble (by decide)
  · rw [Bool.and_eq_false_iff]
    right
    apply decide_eq_false
    intro below
    have small : digit.toNat ≤ 13 := UInt32.le_iff_toNat_le.mp (Char.le_def.mp below)
    have none : ∀ low high : Char, 13 < low.toNat → ¬ (low ≤ digit ∧ digit ≤ high) := by
      intro low high above both
      have bound : low.toNat ≤ digit.toNat := UInt32.le_iff_toNat_le.mp (Char.le_def.mp both.1)
      omega
    simp [none '0' '9' (by decide), none 'a' 'f' (by decide), none 'A' 'F' (by decide)] at nibble

theorem from_hex_pairs {digits : List Char} {bytes : List UInt8}
    (decoded : decodePairs digits = some bytes) : fromHex digits = some bytes := by
  induction digits using decodePairs.induct generalizing bytes with
  | case1 =>
      cases decoded
      rfl
  | case2 digit => cases decoded
  | case3 high low rest ih =>
      have digit := decoded_digits decoded high (by simp)
      simp only [decodePairs, Option.bind_eq_bind, Option.bind_eq_some_iff, Option.pure_def,
        Option.some.injEq] at decoded
      obtain ⟨upper, isUpper, lower, isLower, found, tail, rfl⟩ := decoded
      simp only [fromHex, space_not_nibble digit, Bool.false_eq_true, if_false, isUpper, isLower,
        ih tail]
      rfl

section Paths

variable (sha256 : List UInt8 → Digest) (floatRepr : Binary64 → String)

/-- The metadata after rows with these texts, the last of them under this identity. -/
def settled (before : HistoryMetadata) (prior : Digest) (texts : List String) (last : PyValue) :
    HistoryMetadata :=
  if texts = [] then before
  else {
    historyDigest := some (encodeSha256Hex (texts.foldl (hashText sha256) prior))
    processedReviewCount := before.processedReviewCount + texts.length
    lastReviewId := last }

theorem native_chain_texts (prior : Digest) (inputs : List (ReviewInput Binary64)) :
    nativeChain sha256 floatRepr prior inputs = do
      return (← inputs.mapM (nativeReviewText floatRepr)).foldl (hashText sha256) prior := by
  unfold nativeChain
  induction inputs generalizing prior with
  | nil => rfl
  | cons input inputs ih =>
      rw [List.foldlM_cons, List.mapM_cons]
      simp only [bind_assoc, pure_bind, List.foldl_cons]
      congr 1
      funext text
      exact ih _

theorem settled_nil (before : HistoryMetadata) (prior : Digest) (last : PyValue) :
    settled sha256 before prior [] last = before := rfl

theorem settled_append (before : HistoryMetadata) (prior : Digest) (first second : List String)
    (middle last : PyValue) (none : second = [] → middle = last) :
    settled sha256 (settled sha256 before prior first middle)
        (first.foldl (hashText sha256) prior) second last =
      settled sha256 before prior (first ++ second) last := by
  by_cases emptySecond : second = []
  · subst emptySecond
    rw [settled_nil, List.append_nil, none rfl]
  · by_cases emptyFirst : first = []
    · subst emptyFirst
      rfl
    · simp only [settled, emptySecond, emptyFirst, if_false, List.append_eq_nil_iff, and_self,
        List.foldl_append, List.length_append, Nat.add_assoc]

/-- The digest that a following row is hashed onto. -/
theorem settled_decoded {before : HistoryMetadata} {previous : String} {prior : Digest}
    (tracked : before.historyDigest = some previous)
    (decoded : decodeSha256Hex previous = .ok prior) (texts : List String) (last : PyValue) :
    ∃ reached, (settled sha256 before prior texts last).historyDigest = some reached ∧
      decodeSha256Hex reached = .ok (texts.foldl (hashText sha256) prior) := by
  by_cases empty : texts = []
  · subst empty
    exact ⟨previous, tracked, decoded⟩
  · refine ⟨encodeSha256Hex (texts.foldl (hashText sha256) prior), ?_, decode_encoded _⟩
    simp only [settled, empty, if_false]

/-- The identity recorded for the last of some rows. -/
def lastRowId (rows : List ReviewMapping) : PyValue :=
  match rows.getLast? with
  | some row => normalizeReviewId ((row.get "review_id").getD .none)
  | none => .none

theorem chain_digest_ok {previous digest : String} {prior : Digest} {row : ReviewMapping}
    (decoded : decodeSha256Hex previous = .ok prior)
    (chained : chainDigest sha256 floatRepr previous row = .ok digest) :
    ∃ text, canonicalReviewText floatRepr row = .ok text ∧
      digest = encodeSha256Hex (hashText sha256 prior text) := by
  unfold chainDigest at chained
  rw [from_hex_pairs (decoded_pairs decoded)] at chained
  obtain ⟨text, canonical, finished⟩ := bind_ok.mp chained
  cases finished
  exact ⟨text, canonical, rfl⟩

theorem record_row_ok {before after : HistoryMetadata} {previous : String} {prior : Digest}
    {row : ReviewMapping} (tracked : before.historyDigest = some previous)
    (decoded : decodeSha256Hex previous = .ok prior)
    (recorded : recordProcessedRow sha256 floatRepr before row = .ok after) :
    ∃ text, canonicalReviewText floatRepr row = .ok text ∧
      after = settled sha256 before prior [text] (lastRowId [row]) := by
  unfold recordProcessedRow at recorded
  rw [tracked] at recorded
  obtain ⟨digest, chained, rest⟩ := bind_ok.mp recorded
  obtain ⟨text, canonical, rfl⟩ := chain_digest_ok sha256 floatRepr decoded chained
  obtain ⟨middle, same, rest⟩ := bind_ok.mp rest
  cases same
  obtain ⟨reviewId, got, finished⟩ := bind_ok.mp rest
  cases finished
  refine ⟨text, canonical, ?_⟩
  simp [settled, lastRowId, get_item_ok got]

theorem last_row_id_cons (row : ReviewMapping) {rows : List ReviewMapping} (more : rows ≠ []) :
    lastRowId (row :: rows) = lastRowId rows := by
  cases rows with
  | nil => exact absurd rfl more
  | cons next rows => simp [lastRowId, List.getLast?_cons_cons]

theorem record_rows_ok {rows : List ReviewMapping} {before after : HistoryMetadata}
    {previous : String} {prior : Digest} (tracked : before.historyDigest = some previous)
    (decoded : decodeSha256Hex previous = .ok prior)
    (recorded : recordProcessedRows sha256 floatRepr before rows = .ok after) :
    ∃ texts, List.Forall₂ (fun row text => canonicalReviewText floatRepr row = .ok text)
        rows texts ∧ after = settled sha256 before prior texts (lastRowId rows) := by
  unfold recordProcessedRows at recorded
  induction rows generalizing before previous prior with
  | nil =>
      cases recorded
      exact ⟨[], List.Forall₂.nil, rfl⟩
  | cons row rows ih =>
      rw [List.foldlM_cons] at recorded
      obtain ⟨middle, first, rest⟩ := bind_ok.mp recorded
      obtain ⟨text, canonical, rfl⟩ := record_row_ok sha256 floatRepr tracked decoded first
      obtain ⟨reached, trackedNext, decodedNext⟩ :=
        settled_decoded sha256 tracked decoded [text] (lastRowId [row])
      obtain ⟨texts, canonicals, rfl⟩ := ih trackedNext decodedNext rest
      refine ⟨text :: texts, List.Forall₂.cons canonical canonicals, ?_⟩
      have last : texts = [] → lastRowId [row] = lastRowId (row :: rows) := by
        rintro rfl
        cases canonicals
        rfl
      have joined : _ = settled sha256 before prior (text :: texts) (lastRowId (row :: rows)) :=
        settled_append sha256 before prior [text] texts (lastRowId [row]) _ last
      rw [← joined]
      cases canonicals with
      | nil => rfl
      | cons _ _ => rw [last_row_id_cons row (List.cons_ne_nil _ _)]

def lastInputId (inputs : List (ReviewInput Binary64)) : PyValue :=
  reviewIdValue (inputs.getLast?.map ReviewInput.reviewId)

theorem history_advance_ok {batch : NativeReviewBatch} {previous : String}
    {prepared : Option String × Option Int64} {count : Nat} (fits : count ≤ batch.rows.length)
    (advanced : batch.historyAdvance sha256 floatRepr (some previous) (some count) =
      .ok prepared) :
    ∃ prior texts, decodeSha256Hex previous = .ok prior ∧
      (batch.rows.take count).mapM (nativeReviewText floatRepr) = .ok texts ∧
      prepared = (some (encodeSha256Hex (texts.foldl (hashText sha256) prior)),
        (batch.rows.take count).getLast?.map ReviewInput.reviewId) := by
  unfold NativeReviewBatch.historyAdvance at advanced
  simp only [Option.getD_some, Nat.not_lt.mpr fits, if_false, native_chain_texts] at advanced
  obtain ⟨prior, decoded, rest⟩ := bind_ok.mp advanced
  obtain ⟨digest, chained, finished⟩ := bind_ok.mp rest
  obtain ⟨texts, written, same⟩ := bind_ok.mp chained
  cases same
  cases finished
  exact ⟨prior, texts, decoded, written, rfl⟩

theorem mapM_length {Item Value : Type} {step : Item → PyResult Value} {items : List Item}
    {values : List Value} (finished : items.mapM step = .ok values) :
    values.length = items.length := (mapM_ok finished).length_eq.symm

theorem advance_batch_ok {before after : HistoryMetadata} {rows : NativeReviewBatch}
    {previous : String} (tracked : before.historyDigest = some previous)
    (advanced : advanceBatch sha256 floatRepr before rows = .ok after) :
    ∃ prior texts, decodeSha256Hex previous = .ok prior ∧
      rows.rows.mapM (nativeReviewText floatRepr) = .ok texts ∧
      after = settled sha256 before prior texts (lastInputId rows.rows) := by
  unfold advanceBatch prepareProcessedBatch at advanced
  obtain ⟨prepared, prepare, commit⟩ := bind_ok.mp advanced
  have full : rows.historyAdvance sha256 floatRepr (some previous) (some rows.rows.length) =
      .ok prepared := by
    rw [tracked] at prepare
    exact prepare
  obtain ⟨prior, texts, decoded, written, rfl⟩ :=
    history_advance_ok sha256 floatRepr (Nat.le_refl _) full
  rw [List.take_length] at written commit
  refine ⟨prior, texts, decoded, written, ?_⟩
  have length := mapM_length written
  unfold commitProcessedBatch at commit
  simp only [Option.getD_none, Nat.lt_irrefl, if_false] at commit
  by_cases empty : rows.rows.length = 0
  · rw [if_pos empty] at commit
    cases commit
    have none := List.eq_nil_of_length_eq_zero (length.trans empty)
    rw [none]
    rfl
  · rw [if_neg empty] at commit
    obtain ⟨_, same, committed⟩ := bind_ok.mp commit
    cases same
    unfold commitPrepared at committed
    rw [tracked] at committed
    cases committed
    have some : texts ≠ [] := by
      rintro rfl
      exact empty length.symm
    simp only [settled, some, if_false, length]
    rfl

theorem slice_rows {batch slice : NativeReviewBatch} {start stop : Nat}
    (sliced : batch.slice start stop = .ok slice) :
    slice.rows = (batch.rows.take stop).drop start ∧ stop ≤ batch.rows.length := by
  unfold NativeReviewBatch.slice at sliced
  split at sliced
  · rename_i inside
    cases sliced
    constructor
    · have ordered := batch.ordered
      have length := rows_length batch
      have fits := inside.2
      simp only [NativeReviewBatch.rows, List.drop_take, List.drop_drop, List.take_take]
      congr 1
      omega
    · exact inside.2
  · cases sliced

theorem last_input_id_append {first second : List (ReviewInput Binary64)} :
    lastInputId (first ++ second) =
      if second = [] then lastInputId first else lastInputId second := by
  split
  · rename_i empty
    rw [empty, List.append_nil]
  · rename_i some
    unfold lastInputId
    rw [List.getLast?_append_of_ne_nil _ some]

theorem mapM_join {Item Value : Type} {step : Item → PyResult Value} {first second : List Item}
    {texts others : List Value} (left : first.mapM step = .ok texts)
    (right : second.mapM step = .ok others) :
    (first ++ second).mapM step = .ok (texts ++ others) := by
  rw [List.mapM_append, left, right]
  rfl

theorem advance_slices_ok {batch : NativeReviewBatch} {sizes : List Nat} {start : Nat}
    {before after : HistoryMetadata} {previous : String} {prior : Digest}
    (tracked : before.historyDigest = some previous)
    (decoded : decodeSha256Hex previous = .ok prior)
    (advanced : advanceSlices sha256 floatRepr batch start sizes before = .ok after) :
    ∃ texts, ((batch.rows.drop start).take sizes.sum).mapM (nativeReviewText floatRepr) =
        .ok texts ∧
      after = settled sha256 before prior texts
        (lastInputId ((batch.rows.drop start).take sizes.sum)) := by
  induction sizes generalizing start before previous prior with
  | nil =>
      cases advanced
      exact ⟨[], by simp; rfl, rfl⟩
  | cons size sizes ih =>
      obtain ⟨slice, sliced, rest⟩ := bind_ok.mp advanced
      obtain ⟨middle, first, rest⟩ := bind_ok.mp rest
      obtain ⟨_, texts, decodedFirst, written, rfl⟩ :=
        advance_batch_ok sha256 floatRepr tracked first
      rw [decoded] at decodedFirst
      cases decodedFirst
      obtain ⟨reached, trackedNext, decodedNext⟩ :=
        settled_decoded sha256 tracked decoded texts (lastInputId slice.rows)
      obtain ⟨others, writtenRest, rfl⟩ := ih trackedNext decodedNext rest
      have rows : slice.rows = (batch.rows.drop start).take size := by
        rw [(slice_rows sliced).1, List.drop_take, Nat.add_sub_cancel_left]
      have segment : (batch.rows.drop start).take (size :: sizes).sum =
          slice.rows ++ (batch.rows.drop (start + size)).take sizes.sum := by
        rw [List.sum_cons, List.take_add, rows, List.drop_drop]
      have length := mapM_length writtenRest
      rw [segment, last_input_id_append]
      refine ⟨texts ++ others, mapM_join written writtenRest, ?_⟩
      by_cases none : others = []
      · have empty : (batch.rows.drop (start + size)).take sizes.sum = [] := by
          apply List.eq_nil_of_length_eq_zero
          rw [← length, none, List.length_nil]
        rw [if_pos empty, none, settled_nil, List.append_nil]
      · have some : (batch.rows.drop (start + size)).take sizes.sum ≠ [] := by
          intro empty
          rw [empty, List.length_nil] at length
          exact none (List.eq_nil_of_length_eq_zero length)
        rw [if_neg some]
        apply settled_append
        intro impossible
        exact absurd impossible none

theorem parse_reviews_ok {reviews : List ReviewMapping} {index : Nat}
    {inputs : List (ReviewInput Binary64)} (parsed : parseReviews index reviews = .ok inputs) :
    List.Forall₂ (fun row input => processReview row = .ok input) reviews inputs := by
  induction reviews generalizing index inputs with
  | nil =>
      cases parsed
      exact List.Forall₂.nil
  | cons review reviews ih =>
      unfold parseReviews at parsed
      split at parsed
      · cases parsed
      · rename_i input read
        obtain ⟨others, rest, same⟩ := bind_ok.mp parsed
        cases same
        exact List.Forall₂.cons read (ih rest)

theorem columns_present {row : ReviewMapping} {input : ReviewInput Binary64}
    (fields : ParsedFrom row input) : requireColumns row = .ok () := by
  simp [requireColumns, no_missing_columns fields]

/-- The recorded identity is the native one when the row holds it exactly. -/
theorem review_id_agrees {row : ReviewMapping} {input : ReviewInput Binary64}
    (fields : ParsedFrom row input) (exact : RowExact row) :
    normalizeReviewId ((row.get "review_id").getD .none) = .int input.reviewId.toInt := by
  obtain ⟨value, found, parsed⟩ := fields.reviewId
  have within := exact.integers "review_id" (by decide) value found
  rw [found, Option.getD_some]
  cases value with
  | none => cases parsed
  | na => cases parsed
  | bool value =>
      rw [← Except.ok.inj parsed]
      cases value <;> simp [normalizeReviewId, integerOfBool]
  | int whole =>
      have range : minI64 ≤ whole ∧ whole < endI64 := within
      simp only [parseI64, extractI64, range, and_self, if_true] at parsed
      rw [← Except.ok.inj parsed, of_int_in_range range]
      rfl
  | float value =>
      simp only [parseI64, extractI64, extractF64] at parsed
      split at parsed
      · cases parsed
      · split at parsed
        · rename_i found converted
          cases parsed
          simp only [normalizeReviewId, (integral_i64_ok converted).1]
        · cases parsed

theorem last_ids_agree {reviews : List ReviewMapping} {inputs : List (ReviewInput Binary64)}
    (parsed : List.Forall₂ (fun row input => processReview row = .ok input) reviews inputs)
    (exact : ∀ row ∈ reviews, RowExact row) : lastRowId reviews = lastInputId inputs := by
  induction parsed with
  | nil => rfl
  | cons read others ih =>
      rename_i row input rows inputs
      cases others with
      | nil =>
          have fields := process_review_parsed read
          have agrees := review_id_agrees fields (exact row (by simp))
          simpa [lastRowId, lastInputId, reviewIdValue] using agrees
      | cons next rest =>
          rw [last_row_id_cons row (List.cons_ne_nil _ _),
            ih fun other member => exact other (List.mem_cons_of_mem _ member)]
          simp [lastInputId, List.getLast?_cons_cons]

theorem texts_agree_iff {reviews : List ReviewMapping} {inputs : List (ReviewInput Binary64)}
    {pythons natives : List String}
    (parsed : List.Forall₂ (fun row input => processReview row = .ok input) reviews inputs)
    (canonicals : List.Forall₂ (fun row text => canonicalReviewText floatRepr row = .ok text)
      reviews pythons)
    (written : List.Forall₂ (fun input text => nativeReviewText floatRepr input = .ok text)
      inputs natives) :
    pythons = natives ↔ ∀ row ∈ reviews, RowExact row := by
  induction parsed generalizing pythons natives with
  | nil =>
      cases canonicals
      cases written
      simp
  | cons read others ih =>
      cases canonicals with
      | cons canonical canonicals =>
          cases written with
          | cons write written =>
              rw [List.cons.injEq, List.forall_mem_cons, ih canonicals written,
                row_text_agrees floatRepr read canonical write]

theorem fingerprint_row {found : Fingerprint} {row : ReviewMapping}
    {input : ReviewInput Binary64} {prior : Digest} {text : String}
    (read : processReview row = .ok input) (decoded : decodeSha256Hex found.digest = .ok prior)
    (canonical : canonicalReviewText floatRepr row = .ok text) :
    fingerprintRow sha256 floatRepr found row = .ok
      ⟨encodeSha256Hex (hashText sha256 prior text), found.processedReviewCount + 1,
        lastRowId [row]⟩ := by
  have fields := process_review_parsed read
  obtain ⟨value, present, _⟩ := fields.reviewId
  unfold fingerprintRow chainDigest getItem
  rw [columns_present fields, from_hex_pairs (decoded_pairs decoded), canonical, present]
  simp only [lastRowId, List.getLast?_singleton, present, Option.getD_some]
  rfl

/-- The Python loop over accepted rows ends in the chain of their texts. -/
theorem fingerprint_rows {rows : List ReviewMapping} {inputs : List (ReviewInput Binary64)}
    {texts : List String} {found : Fingerprint} {prior : Digest}
    (parsed : List.Forall₂ (fun row input => processReview row = .ok input) rows inputs)
    (canonicals : List.Forall₂ (fun row text => canonicalReviewText floatRepr row = .ok text)
      rows texts)
    (encoded : found.digest = encodeSha256Hex prior) :
    rows.foldlM (fingerprintRow sha256 floatRepr) found = .ok
      ⟨encodeSha256Hex (texts.foldl (hashText sha256) prior),
        found.processedReviewCount + texts.length,
        if rows = [] then found.lastReviewId else lastRowId rows⟩ := by
  induction parsed generalizing texts found prior with
  | nil =>
      cases canonicals
      rw [List.foldl_nil, ← encoded]
      rfl
  | cons read others ih =>
      rename_i row input rows inputs
      cases canonicals with
      | cons canonical canonicals =>
          have decoded : decodeSha256Hex found.digest = .ok prior := by
            rw [encoded, decode_encoded]
          rw [List.foldlM_cons, fingerprint_row sha256 floatRepr read decoded canonical]
          change rows.foldlM (fingerprintRow sha256 floatRepr) _ = _
          rw [ih canonicals rfl]
          by_cases none : rows = []
          · subst none
            cases canonicals
            rfl
          · simp only [none, if_false, reduceCtorEq, last_row_id_cons row none, List.foldl_cons,
              List.length_cons]
            congr 2
            omega

theorem same_review_id (found expected : Option Int64) :
    sameReviewId (reviewIdValue found) expected = (found == expected) := by
  cases found with
  | none => cases expected <;> rfl
  | some id =>
      cases expected with
      | none => rfl
      | some other =>
          change (id.toInt == other.toInt) = (some id == some other)
          rw [Bool.eq_iff_iff]
          simp [Int64.toInt_inj]

/-- On rows that both sides hold exactly, both checks give the same answer. -/
theorem checks_agree {reviews : List ReviewMapping} {inputs : List (ReviewInput Binary64)}
    {texts : List String}
    (parsed : List.Forall₂ (fun row input => processReview row = .ok input) reviews inputs)
    (canonicals : List.Forall₂ (fun row text => canonicalReviewText floatRepr row = .ok text)
      reviews texts)
    (written : List.Forall₂ (fun input text => nativeReviewText floatRepr input = .ok text)
      inputs texts)
    (exact : ∀ row ∈ reviews, RowExact row) (expectedDigest : String) (expectedCount : Nat)
    (expectedLastReviewId : Option Int64) :
    (newBatch inputs).matchesHistoryFingerprint sha256 floatRepr expectedDigest expectedCount
        expectedLastReviewId =
      checkHistoryConsistency sha256 floatRepr reviews expectedDigest expectedCount
        expectedLastReviewId := by
  have rows : (newBatch inputs).rows = inputs := by simp [NativeReviewBatch.rows, newBatch]
  have parsedTake := List.forall₂_take expectedCount parsed
  have canonicalsTake := List.forall₂_take expectedCount canonicals
  have found : (reviews.take expectedCount).foldlM (fingerprintRow sha256 floatRepr)
      ⟨initialHistoryDigest, 0, .none⟩ = _ :=
    fingerprint_rows sha256 floatRepr parsedTake canonicalsTake initial_encoded
  have textsLength := canonicals.length_eq
  have inputsLength := parsed.length_eq
  unfold checkHistoryConsistency fingerprintReviews NativeReviewBatch.matchesHistoryFingerprint
  rw [found, rows]
  by_cases short : inputs.length < expectedCount
  · have different : ¬ (texts.take expectedCount).length = expectedCount := by
      rw [List.length_take]
      omega
    rw [if_pos short]
    change Except.ok false = Except.ok (_ && (0 + (texts.take expectedCount).length == expectedCount) && _)
    rw [Nat.zero_add, beq_false_of_ne different, Bool.and_false, Bool.false_and]
  · have takeLength : (texts.take expectedCount).length = expectedCount := by
      rw [List.length_take]
      omega
    have last : (if reviews.take expectedCount = [] then PyValue.none
        else lastRowId (reviews.take expectedCount)) =
        reviewIdValue ((inputs.take expectedCount).getLast?.map ReviewInput.reviewId) := by
      have agrees := last_ids_agree parsedTake
        fun row member => exact row (List.mem_of_mem_take member)
      split
      · rename_i empty
        rw [empty] at agrees
        exact agrees
      · exact agrees
    have advanced : (newBatch inputs).historyAdvance sha256 floatRepr (some initialHistoryDigest)
        (some expectedCount) = .ok
          (some (encodeSha256Hex ((texts.take expectedCount).foldl (hashText sha256) initialDigest)),
            (inputs.take expectedCount).getLast?.map ReviewInput.reviewId) := by
      unfold NativeReviewBatch.historyAdvance
      simp only [Option.getD_some, rows, short, if_false, native_chain_texts,
        mapM_of_pairs (List.forall₂_take expectedCount written)]
      rw [initial_encoded, decode_encoded]
      rfl
    rw [if_neg short, advanced]
    change Except.ok (_ == _ && _ == _) =
      Except.ok (_ == _ && (0 + (texts.take expectedCount).length == expectedCount) && _)
    rw [last, same_review_id, Nat.zero_add, takeLength]
    simp

/-- Both paths end in the same metadata, and both checks give every expected fingerprint the
same answer. -/
def FingerprintsAgree (reviews : List ReviewMapping) (batch : NativeReviewBatch)
    (native python : HistoryMetadata) : Prop :=
  native = python ∧
    ∀ expectedDigest expectedCount expectedLastReviewId,
      batch.matchesHistoryFingerprint sha256 floatRepr expectedDigest expectedCount
          expectedLastReviewId =
        checkHistoryConsistency sha256 floatRepr reviews expectedDigest expectedCount
          expectedLastReviewId

/-- Somewhere along the two chains, SHA-256 gives one digest to two different messages. -/
def HistoryCollision (previous : String) (reviews : List ReviewMapping)
    (batch : NativeReviewBatch) : Prop :=
  ∃ prior pythons natives, decodeSha256Hex previous = .ok prior ∧
    reviews.mapM (canonicalReviewText floatRepr) = .ok pythons ∧
    batch.rows.mapM (nativeReviewText floatRepr) = .ok natives ∧
    ChainCollision (hashText sha256) prior prior pythons natives

theorem settled_texts_or_collision {before : HistoryMetadata} {prior : Digest}
    {pythons natives : List String} {pythonLast nativeLast : PyValue}
    (length : pythons.length = natives.length)
    (same : settled sha256 before prior natives nativeLast =
      settled sha256 before prior pythons pythonLast) :
    pythons = natives ∨ ChainCollision (hashText sha256) prior prior pythons natives := by
  by_cases none : pythons = []
  · subst none
    left
    exact (List.eq_nil_of_length_eq_zero length.symm).symm
  · have some : natives ≠ [] := by
      rintro rfl
      exact none (List.eq_nil_of_length_eq_zero length)
    have digests := congrArg HistoryMetadata.historyDigest same
    simp only [settled, none, some, if_false, Option.some.injEq, encodeSha256Hex] at digests
    have chains : pythons.foldl (hashText sha256) prior = natives.foldl (hashText sha256) prior :=
      Subtype.ext (encode_injective digests.symm)
    rcases chain_eq_or_collision (hashText sha256) length chains with ⟨_, texts⟩ | collision
    · exact Or.inl texts
    · exact Or.inr collision

/-- What accepted reviews leave behind on both paths. -/
theorem paths_settled {reviews : List ReviewMapping} {inputs : List (ReviewInput Binary64)}
    {sizes : List Nat} {before native python : HistoryMetadata} {previous : String}
    (length : inputs.length = reviews.length) (split : sizes.sum = reviews.length)
    (tracked : before.historyDigest = some previous)
    (nativeRan : advanceSlices sha256 floatRepr (newBatch inputs) 0 sizes before = .ok native)
    (pythonRan : recordProcessedRows sha256 floatRepr before reviews = .ok python) :
    (reviews = [] ∧ native = python) ∨
      ∃ prior pythons natives, decodeSha256Hex previous = .ok prior ∧
        List.Forall₂ (fun row text => canonicalReviewText floatRepr row = .ok text)
          reviews pythons ∧
        inputs.mapM (nativeReviewText floatRepr) = .ok natives ∧
        native = settled sha256 before prior natives (lastInputId inputs) ∧
        python = settled sha256 before prior pythons (lastRowId reviews) := by
  have rows : (newBatch inputs).rows = inputs := by simp [NativeReviewBatch.rows, newBatch]
  cases sizes with
  | nil =>
      left
      have empty := List.eq_nil_of_length_eq_zero split.symm
      subst empty
      cases nativeRan
      cases pythonRan
      exact ⟨rfl, rfl⟩
  | cons size sizes =>
      right
      obtain ⟨slice, sliced, rest⟩ := bind_ok.mp nativeRan
      obtain ⟨middle, first, _⟩ := bind_ok.mp rest
      obtain ⟨prior, _, decoded, _, _⟩ := advance_batch_ok sha256 floatRepr tracked first
      obtain ⟨natives, written, nativeEnd⟩ :=
        advance_slices_ok sha256 floatRepr tracked decoded nativeRan
      obtain ⟨pythons, canonicals, pythonEnd⟩ :=
        record_rows_ok sha256 floatRepr tracked decoded pythonRan
      have whole : ((newBatch inputs).rows.drop 0).take (size :: sizes).sum = inputs := by
        rw [rows, List.drop_zero, split, ← length, List.take_length]
      rw [whole] at written nativeEnd
      exact ⟨prior, pythons, natives, decoded, canonicals, written, nativeEnd, pythonEnd⟩

/-- Accepted reviews have one fingerprint on both sides exactly when the native rows hold
their integers: identities and ratings within an i64, states that a float stands for. Where
one does not, only a SHA-256 collision can make the fingerprints equal. -/
theorem fingerprints_agree_iff_exact {reviews : List ReviewMapping} {batch : NativeReviewBatch}
    {sizes : List Nat} {before native python : HistoryMetadata} {previous : String}
    (built : nativeReviewBatch reviews = .ok batch) (split : sizes.sum = reviews.length)
    (tracked : before.historyDigest = some previous)
    (nativeRan : advanceSlices sha256 floatRepr batch 0 sizes before = .ok native)
    (pythonRan : recordProcessedRows sha256 floatRepr before reviews = .ok python) :
    ((∀ row ∈ reviews, RowExact row) →
        FingerprintsAgree sha256 floatRepr reviews batch native python) ∧
      (FingerprintsAgree sha256 floatRepr reviews batch native python →
        (∀ row ∈ reviews, RowExact row) ∨
          HistoryCollision sha256 floatRepr previous reviews batch) := by
  obtain ⟨inputs, parsedAll, same⟩ := bind_ok.mp built
  cases same
  have parsed := parse_reviews_ok parsedAll
  have rows : (newBatch inputs).rows = inputs := by simp [NativeReviewBatch.rows, newBatch]
  rcases paths_settled sha256 floatRepr parsed.length_eq.symm split tracked nativeRan pythonRan with
    ⟨empty, same⟩ | ⟨prior, pythons, natives, decoded, canonicals, written, nativeEnd, pythonEnd⟩
  · subst empty
    cases parsed
    constructor
    · intro exact
      exact ⟨same, checks_agree sha256 floatRepr List.Forall₂.nil List.Forall₂.nil
        List.Forall₂.nil exact⟩
    · intro _
      exact Or.inl (by simp)
  · have agree := texts_agree_iff floatRepr parsed canonicals (mapM_ok written)
    constructor
    · intro exact
      have texts := agree.mpr exact
      subst texts
      constructor
      · rw [nativeEnd, pythonEnd, last_ids_agree parsed exact]
      · exact checks_agree sha256 floatRepr parsed canonicals (mapM_ok written) exact
    · intro agrees
      have length : pythons.length = natives.length := by
        rw [← canonicals.length_eq, parsed.length_eq, mapM_length written]
      have ends : settled sha256 before prior natives (lastInputId inputs) =
          settled sha256 before prior pythons (lastRowId reviews) := by
        rw [← nativeEnd, ← pythonEnd, agrees.1]
      rcases settled_texts_or_collision sha256 length ends with texts | collision
      · exact Or.inl (agree.mp texts)
      · right
        refine ⟨prior, pythons, natives, decoded, mapM_of_pairs canonicals, ?_, collision⟩
        rw [rows]
        exact written

end Paths

/-- A review with the given identity and state; every float in it is zero. -/
def plainReview (reviewId state : Int) : ReviewMapping where
  isDict := true
  items := [("review_id", .int reviewId), ("card_id", .int 1), ("note_id", .int 1),
    ("deck_id", .none), ("preset_id", .bool true), ("day_offset", .int 0),
    ("elapsed_days", .int 0), ("elapsed_seconds", .float ⟨0⟩), ("rating", .int 3),
    ("duration", .int 0), ("state", .int state)]

def plainInput (reviewId : Int64) (state : Binary64) : ReviewInput Binary64 where
  reviewId := reviewId
  cardId := 1
  noteId := .present 1
  deckId := .missing
  presetId := .present 1
  dayOffset := ⟨0⟩
  elapsedDays := ⟨0⟩
  elapsedSeconds := ⟨0⟩
  rating := some 3
  duration := some ⟨0⟩
  state := some state

def zeroText (_ : Binary64) : String := "0.0"

def zeroHash (_ : List UInt8) : Digest := initialDigest

def beginning : HistoryMetadata := ⟨some initialHistoryDigest, 0, .none⟩

/-- A checksum of the message in every byte. -/
def sumHash (bytes : List UInt8) : Digest :=
  ⟨List.replicate 32 (bytes.foldl (fun sum byte => 31 * sum + byte) 0), List.length_replicate⟩

def plainReviews : List ReviewMapping := [plainReview 7 2, plainReview 8 1, plainReview 9 2]

def plainInputs : List (ReviewInput Binary64) :=
  [plainInput 7 ⟨0x4000000000000000⟩, plainInput 8 ⟨0x3FF0000000000000⟩,
    plainInput 9 ⟨0x4000000000000000⟩]

def plainEnd : HistoryMetadata :=
  ⟨some "cacacacacacacacacacacacacacacacacacacacacacacacacacacacacacacaca", 3, .int 9⟩

theorem plain_row_exact {reviewId state : Int} (inside : WithinI64 (.int reviewId))
    (rounded : HasFloat (.int state)) : RowExact (plainReview reviewId state) := by
  rw [row_exact_iff]
  simp only [plainReview, ReviewMapping.get, List.lookup_cons, List.lookup_nil]
  have one : WithinI64 (.int 1) := by simp [WithinI64, minI64, endI64]
  have three : WithinI64 (.int 3) := by simp [WithinI64, minI64, endI64]
  have others : WithinI64 .none ∧ WithinI64 (.bool true) := ⟨trivial, trivial⟩
  simp [inside, rounded, one, three, others]

/-- Three reviews in two slices. -/
theorem plain_fingerprints_agree :
    FingerprintsAgree sumHash zeroText plainReviews (newBatch plainInputs) plainEnd plainEnd := by
  have read : parseReviews 0 plainReviews = .ok plainInputs := by
    decide +kernel
  have built : nativeReviewBatch plainReviews = .ok (newBatch plainInputs) := by
    unfold nativeReviewBatch
    rw [read]
    rfl
  have nativeRan : advanceSlices sumHash zeroText (newBatch plainInputs) 0 [2, 1] beginning =
      .ok plainEnd := by
    decide +kernel
  have pythonRan : recordProcessedRows sumHash zeroText beginning plainReviews = .ok plainEnd := by
    decide +kernel
  apply (fingerprints_agree_iff_exact sumHash zeroText built rfl rfl nativeRan pythonRan).1
  have small : ∀ reviewId ∈ [7, 8, 9], WithinI64 (.int reviewId) := by
    simp [WithinI64, minI64, endI64]
  have two : HasFloat (.int 2) := ⟨⟨0x4000000000000000⟩, by decide +kernel⟩
  have one : HasFloat (.int 1) := ⟨⟨0x3FF0000000000000⟩, by decide +kernel⟩
  intro row member
  simp only [plainReviews, List.mem_cons, List.not_mem_nil, or_false] at member
  rcases member with first | second | third
  · rw [first]
    exact plain_row_exact (small 7 (by simp)) two
  · rw [second]
    exact plain_row_exact (small 8 (by simp)) one
  · rw [third]
    exact plain_row_exact (small 9 (by simp)) two

/-- Both readings accept an identity just below the i64 range, and a state above 2^53 that is
odd. The native row rounds the first into the range and the second to an even number. -/
theorem large_integers_disagree :
    (processReview (plainReview (-(2 ^ 63) - 1) 2) =
        .ok (plainInput Int64.minValue ⟨0x4000000000000000⟩) ∧
      advanceSlices zeroHash zeroText
          (newBatch [plainInput Int64.minValue ⟨0x4000000000000000⟩]) 0 [1] beginning =
        .ok ⟨some initialHistoryDigest, 1, .int (-(2 ^ 63))⟩ ∧
      recordProcessedRows zeroHash zeroText beginning [plainReview (-(2 ^ 63) - 1) 2] =
        .ok ⟨some initialHistoryDigest, 1, .int (-(2 ^ 63) - 1)⟩) ∧
    (processReview (plainReview 7 (2 ^ 53 + 1)) = .ok (plainInput 7 ⟨0x4340000000000000⟩) ∧
      (nativeReviewText zeroText (plainInput 7 ⟨0x4340000000000000⟩) = .ok
          ("\x7b\"review_id\":7,\"card_id\":1,\"note_id\":1,\"deck_id\":null,\"preset_id\":1," ++
            "\"day_offset\":0.0,\"elapsed_days\":0.0,\"elapsed_seconds\":0.0,\"rating\":3," ++
            "\"duration\":0.0,\"state\":9007199254740992\x7d")) ∧
      (canonicalReviewText zeroText (plainReview 7 (2 ^ 53 + 1)) = .ok
          ("\x7b\"review_id\":7,\"card_id\":1,\"note_id\":1,\"deck_id\":null,\"preset_id\":1," ++
            "\"day_offset\":0.0,\"elapsed_days\":0.0,\"elapsed_seconds\":0.0,\"rating\":3," ++
            "\"duration\":0.0,\"state\":9007199254740993\x7d"))) := by
  decide +kernel

end RwkvSrs.HistoryAgreement
