import RwkvSrs.CanonicalAgreement
import RwkvSrs.BatchedPrediction
import RwkvSrs.RuntimeRestore

/-!
Checkpoint scopes made from cards. The Python side reads the four identities of
a card with integers of any size and keeps them in four sets; the native side
receives the sets as lists of i64 and tests the normalised identities of a
parsed review against them. A missing note stands for the placeholder plus the
card's identity, a missing deck or preset for the placeholder itself. The
placeholder lies in the range of the real identities, so the two can meet.
-/

namespace RwkvSrs.CardScopes

open Std ReviewMappings CanonicalAgreement DeterministicState RuntimeRestore BatchedPrediction
open CheckpointReader FeatureScaling ResultSteps

set_option autoImplicit false

def pythonIdPlaceholder : Int := 314159265358979323

def checkpointCardColumns : List String := ["card_id", "note_id", "deck_id", "preset_id"]

def requireCardColumns (row : ReviewMapping) : PyResult Unit :=
  let missing := checkpointCardColumns.filter fun column => (row.get column).isNone
  if missing.isEmpty then .ok () else valueError (missingRequiredFields missing)

def notAnInteger (field : String) (error : PyError) : PyError :=
  if error.kind = "ValueError" then
    ⟨"ValueError", "Checkpoint card field '" ++ field ++ "' must be an integer."⟩
  else error

def checkpointRequiredId (value : PyValue) (field : String) : PyResult Int := do
  if ← isMissing value then
    valueError ("Checkpoint card field '" ++ field ++ "' must not be missing.")
  else (canonicalInt value field).mapError (notAnInteger field)

def missingId (field : String) (cardId : Option Int) : PyResult Int :=
  if field = "note_id" then
    match cardId with
    | some cardId => .ok (pythonIdPlaceholder + cardId)
    | Option.none => valueError "Checkpoint card note_id normalization requires card_id."
  else .ok pythonIdPlaceholder

def checkpointOptionalId (value : PyValue) (field : String) (cardId : Option Int) :
    PyResult Int := do
  if ← isMissing value then missingId field cardId else checkpointRequiredId value field

structure CardIdentities where
  cardId : Int
  noteId : Int
  deckId : Int
  presetId : Int
deriving DecidableEq

def CardIdentities.of (identities : CardIdentities) : IdSubmodule → Int
  | .cardId => identities.cardId
  | .noteId => identities.noteId
  | .deckId => identities.deckId
  | .presetId => identities.presetId

/-- The reads that `from_cards` and `require_review` share, in their common order. -/
def cardIdentities (row : ReviewMapping) : PyResult CardIdentities := do
  requireCardColumns row
  let cardId ← checkpointRequiredId (← getItem row "card_id") "card_id"
  let noteId ← checkpointOptionalId (← getItem row "note_id") "note_id" (some cardId)
  let deckId ← checkpointOptionalId (← getItem row "deck_id") "deck_id" Option.none
  let presetId ← checkpointOptionalId (← getItem row "preset_id") "preset_id" Option.none
  return { cardId, noteId, deckId, presetId }

structure CardScope where
  cardIds : ExtTreeSet Int
  noteIds : ExtTreeSet Int
  deckIds : ExtTreeSet Int
  presetIds : ExtTreeSet Int

def CardScope.empty : CardScope := ⟨∅, ∅, ∅, ∅⟩

def CardScope.idsFor (scope : CardScope) : IdSubmodule → ExtTreeSet Int
  | .cardId => scope.cardIds
  | .noteId => scope.noteIds
  | .deckId => scope.deckIds
  | .presetId => scope.presetIds

def CardScope.add (scope : CardScope) (identities : CardIdentities) : CardScope where
  cardIds := scope.cardIds.insert identities.cardId
  noteIds := scope.noteIds.insert identities.noteId
  deckIds := scope.deckIds.insert identities.deckId
  presetIds := scope.presetIds.insert identities.presetId

def fromCards (cards : List ReviewMapping) : PyResult CardScope :=
  cards.foldlM (fun scope card => return scope.add (← cardIdentities card)) CardScope.empty

def outsideScope (unavailable : List String) : String :=
  "Review identity is outside the selectively loaded checkpoint scope: " ++
    ", ".intercalate unavailable ++
    ". Reload the checkpoint with this card included or omit cards= to load the full state."

def requireReview (scope : CardScope) (row : ReviewMapping) : PyResult Unit := do
  let identities ← cardIdentities row
  let unavailable := idSubmodules.filter fun submodule =>
    identities.of submodule ∉ scope.idsFor submodule
  if unavailable.isEmpty then .ok ()
  else
    valueError (outsideScope (unavailable.map fun submodule =>
      submodule.name ++ "=" ++ (identities.of submodule).repr))

def nativeIdentity (identity : Int) : PyResult Int64 :=
  match extractI64 (.int identity) with
  | some number => .ok number
  | Option.none => .error ⟨"OverflowError", "Python int too large to convert to C long"⟩

def identityList (identities : ExtTreeSet Int) : PyResult (List Int64) :=
  identities.toList.mapM nativeIdentity

/-- The sorted identity lists of `restore_checkpoint_bin`, read by the native call. -/
def nativeScope (scope : CardScope) : PyResult (Option CheckpointScope) := do
  let cardIds ← identityList scope.cardIds
  let noteIds ← identityList scope.noteIds
  let deckIds ← identityList scope.deckIds
  let presetIds ← identityList scope.presetIds
  match checkpointScopeFromOptionalIdentityLists
      ⟨some cardIds, some noteIds, some deckIds, some presetIds⟩ with
  | .ok restored => .ok restored
  | .error message => valueError message

/-- Every identity the row holds as an integer is an i64. -/
def IdsWithinI64 (row : ReviewMapping) : Prop :=
  ∀ field ∈ checkpointCardColumns, ∀ value, row.get field = some value → WithinI64 value

/-- The sum that stands for a missing note is an i64. -/
def NormalizationFits (input : ReviewInput Binary64) : Prop :=
  input.noteId = .missing → pythonIdPlaceholder + input.cardId.toInt < endI64

def identityOr (id : MaybeId) (missing : Int) : Int :=
  match id with
  | .present id => id.toInt
  | .missing => missing

def inputIdentities (input : ReviewInput Binary64) : CardIdentities where
  cardId := input.cardId.toInt
  noteId := identityOr input.noteId (pythonIdPlaceholder + input.cardId.toInt)
  deckId := identityOr input.deckId pythonIdPlaceholder
  presetId := identityOr input.presetId pythonIdPlaceholder

structure IdsRead (row : ReviewMapping) (input : ReviewInput Binary64) : Prop where
  cardId : Reads row "card_id" parseI64 input.cardId
  noteId : Reads row "note_id" parseId input.noteId
  deckId : Reads row "deck_id" parseId input.deckId
  presetId : Reads row "preset_id" parseId input.presetId

theorem ids_read {row : ReviewMapping} {requireProcess : Bool} {input : ReviewInput Binary64}
    (parsed : reviewFromMapping row requireProcess = .ok input) : IdsRead row input := by
  unfold reviewFromMapping at parsed
  obtain ⟨_, _, parsed⟩ := bind_ok.mp parsed
  obtain ⟨_, _, parsed⟩ := bind_ok.mp parsed
  obtain ⟨cardId, gotCard, parsed⟩ := bind_ok.mp parsed
  obtain ⟨_, readCard, parsed⟩ := bind_ok.mp parsed
  obtain ⟨noteId, gotNote, parsed⟩ := bind_ok.mp parsed
  obtain ⟨_, readNote, parsed⟩ := bind_ok.mp parsed
  obtain ⟨deckId, gotDeck, parsed⟩ := bind_ok.mp parsed
  obtain ⟨_, readDeck, parsed⟩ := bind_ok.mp parsed
  obtain ⟨presetId, gotPreset, parsed⟩ := bind_ok.mp parsed
  obtain ⟨_, readPreset, parsed⟩ := bind_ok.mp parsed
  -- The later fields are read as well; their values do not matter here.
  iterate 9 obtain ⟨_, _, parsed⟩ := bind_ok.mp parsed
  cases parsed
  exact {
    cardId := ⟨cardId, get_item_ok gotCard, readCard⟩
    noteId := ⟨noteId, get_item_ok gotNote, readNote⟩
    deckId := ⟨deckId, get_item_ok gotDeck, readDeck⟩
    presetId := ⟨presetId, get_item_ok gotPreset, readPreset⟩ }

/-- The mapping parser, with or without the process fields, and the one for plain dictionaries. -/
theorem parsers_read_ids {row : ReviewMapping} {input : ReviewInput Binary64}
    (parsed : (∃ requireProcess, reviewFromMapping row requireProcess = .ok input) ∨
      processReview row = .ok input) : IdsRead row input := by
  rcases parsed with ⟨requireProcess, mapped⟩ | processed
  · exact ids_read mapped
  · have reads := process_review_parsed processed
    exact ⟨reads.cardId, reads.noteId, reads.deckId, reads.presetId⟩

theorem int_within_not_missing {number : Int} (within : WithinI64 (.int number)) :
    isMissing (.int number) = .ok false := by
  have small : number.natAbs < 2 ^ 64 := by
    have range : minI64 ≤ number ∧ number < endI64 := within
    unfold minI64 endI64 at range
    omega
  have converted : floatOfInteger number = some (Binary64.ofInteger number) := by
    simp [floatOfInteger, Binary64.of_integer_finite small]
  exact int_not_missing converted

/-- What Python reads where the native parser found a present integer. -/
structure ReadsInteger (value : PyValue) (field : String) (number : Int64) : Prop where
  present : isMissing value = .ok false
  integer : canonicalInt value field = .ok number.toInt

theorem int_reads {whole : Int} {field : String} (within : WithinI64 (.int whole)) :
    ReadsInteger (.int whole) field (Int64.ofInt whole) := by
  constructor
  · exact int_within_not_missing within
  · rw [of_int_in_range within]
    rfl

theorem bool_reads (value : Bool) (field : String) :
    ReadsInteger (.bool value) field (Int64.ofInt (integerOfBool value)) := by
  constructor
  · rfl
  · cases value <;> rfl

theorem float_reads {value : Binary64} {field : String} {number : Int64}
    (converted : integralF64ToI64 value = some number) :
    ReadsInteger (.float value) field number := by
  have stands := integral_i64_ok converted
  constructor
  · simp only [isMissing, not_nan_of_finite stands.2]
  · simp only [canonicalInt, stands.1]

theorem parse_i64_reads {value : PyValue} {field : String} {number : Int64}
    (parsed : parseI64 value field = .ok number) (within : WithinI64 value) :
    ReadsInteger value field number := by
  cases value with
  | none => cases parsed
  | na => cases parsed
  | bool value =>
      cases parsed
      exact bool_reads value field
  | int whole =>
      have range : minI64 ≤ whole ∧ whole < endI64 := within
      simp only [parseI64, extractI64, range, and_self, if_true] at parsed
      cases parsed
      exact int_reads within
  | float value =>
      simp only [parseI64, extractI64, extractF64] at parsed
      split at parsed
      · cases parsed
      · split at parsed
        · rename_i found converted
          cases parsed
          exact float_reads converted
        · cases parsed

/-- What Python reads where the native parser admitted an optional identity. -/
def ReadsId (value : PyValue) (field : String) : MaybeId → Prop
  | .missing => isMissing value = .ok true
  | .present number => ReadsInteger value field number

theorem parse_id_reads {value : PyValue} {field : String} {id : MaybeId}
    (parsed : parseId value field = .ok id) (within : WithinI64 value) :
    ReadsId value field id := by
  cases value with
  | none =>
      cases parsed
      rfl
  | na =>
      cases parsed
      rfl
  | bool value =>
      cases parsed
      exact bool_reads value field
  | int whole =>
      have range : minI64 ≤ whole ∧ whole < endI64 := within
      simp only [parseId, reduceCtorEq, if_false, extractI64, range, and_self, if_true] at parsed
      cases parsed
      exact int_reads within
  | float value =>
      simp only [parseId, reduceCtorEq, if_false, extractI64, extractF64] at parsed
      split at parsed
      · rename_i nan
        cases parsed
        simp only [ReadsId, isMissing, nan]
      · split at parsed
        · rename_i found converted
          cases parsed
          exact float_reads converted
        · cases parsed

theorem required_id_reads {value : PyValue} {field : String} {number : Int64}
    (reads : ReadsInteger value field number) :
    checkpointRequiredId value field = .ok number.toInt := by
  unfold checkpointRequiredId
  rw [reads.present, reads.integer]
  rfl

theorem optional_id_reads {value : PyValue} {field : String} {id : MaybeId}
    (reads : ReadsId value field id) (cardId : Option Int) {missing : Int}
    (stand : missingId field cardId = .ok missing) :
    checkpointOptionalId value field cardId = .ok (identityOr id missing) := by
  unfold checkpointOptionalId
  cases id with
  | missing =>
      have absent : isMissing value = .ok true := reads
      rw [absent]
      exact stand
  | present number =>
      have integer : ReadsInteger value field number := reads
      rw [integer.present]
      exact required_id_reads integer

theorem get_item_reads {Value : Type} {row : ReviewMapping} {field : String}
    {parse : PyValue → String → PyResult Value} {result : Value}
    (reads : Reads row field parse result) (within : IdsWithinI64 row)
    (column : field ∈ checkpointCardColumns) :
    ∃ value, getItem row field = .ok value ∧ (row.get field).isNone = false ∧
      parse value field = .ok result ∧ WithinI64 value := by
  obtain ⟨value, found, parsed⟩ := reads
  refine ⟨value, ?_, ?_, parsed, within field column value found⟩
  · simp only [getItem, found]
  · simp only [found, Option.isNone_some]

/-- Python reads the same identities, the missing ones as unbounded sums. -/
theorem card_identities_read {row : ReviewMapping} {input : ReviewInput Binary64}
    (reads : IdsRead row input) (within : IdsWithinI64 row) :
    cardIdentities row = .ok (inputIdentities input) := by
  obtain ⟨card, gotCard, hasCard, parsedCard, cardWithin⟩ :=
    get_item_reads reads.cardId within (by decide)
  obtain ⟨note, gotNote, hasNote, parsedNote, noteWithin⟩ :=
    get_item_reads reads.noteId within (by decide)
  obtain ⟨deck, gotDeck, hasDeck, parsedDeck, deckWithin⟩ :=
    get_item_reads reads.deckId within (by decide)
  obtain ⟨preset, gotPreset, hasPreset, parsedPreset, presetWithin⟩ :=
    get_item_reads reads.presetId within (by decide)
  have columns : requireCardColumns row = .ok () := by
    simp [requireCardColumns, checkpointCardColumns, hasCard, hasNote, hasDeck, hasPreset]
  have cardId := required_id_reads (parse_i64_reads parsedCard cardWithin)
  have noteReads := parse_id_reads parsedNote noteWithin
  have noteId := optional_id_reads noteReads (some input.cardId.toInt) rfl
  have deckReads := parse_id_reads parsedDeck deckWithin
  have deckId := optional_id_reads deckReads Option.none rfl
  have presetReads := parse_id_reads parsedPreset presetWithin
  have presetId := optional_id_reads presetReads Option.none rfl
  unfold cardIdentities
  apply bind_ok.mpr
  refine ⟨(), columns, bind_ok.mpr ⟨card, gotCard, bind_ok.mpr ⟨_, cardId, ?_⟩⟩⟩
  refine bind_ok.mpr ⟨note, gotNote, bind_ok.mpr ⟨_, noteId, ?_⟩⟩
  refine bind_ok.mpr ⟨deck, gotDeck, bind_ok.mpr ⟨_, deckId, ?_⟩⟩
  refine bind_ok.mpr ⟨preset, gotPreset, bind_ok.mpr ⟨_, presetId, ?_⟩⟩
  rfl

theorem note_sum {cardId : Int64} (fits : pythonIdPlaceholder + cardId.toInt < endI64) :
    (idPlaceholder + cardId).toInt = pythonIdPlaceholder + cardId.toInt := by
  have range := to_int_in_range cardId
  unfold minI64 at range
  unfold pythonIdPlaceholder endI64 at fits
  have placeholder : idPlaceholder.toInt = 314159265358979323 := rfl
  rw [Int64.toInt_add, placeholder]
  change (314159265358979323 + cardId.toInt).bmod (2 ^ 64) = 314159265358979323 + cardId.toInt
  apply Int.bmod_eq_of_le <;> omega

section Normalised

variable [Float64Ops Binary64]

theorem normalized_identities {input : ReviewInput Binary64} (fits : NormalizationFits input)
    (submodule : IdSubmodule) :
    (submodule.key (normalizedReviewIds input)).toInt =
      (inputIdentities input).of submodule := by
  have shared : ∀ id : MaybeId,
      (normalizeId (F := Binary64) id Option.none).1.toInt = identityOr id pythonIdPlaceholder := by
    intro id
    cases id <;> rfl
  cases submodule with
  | cardId => rfl
  | deckId => exact shared input.deckId
  | presetId => exact shared input.presetId
  | noteId =>
      change (normalizeId input.noteId (some input.cardId)).1.toInt =
        identityOr input.noteId (pythonIdPlaceholder + input.cardId.toInt)
      cases noted : input.noteId with
      | present id => rfl
      | missing => exact note_sum (fits noted)

end Normalised

/-- Two optional identities meet, given what each stands for when it is missing. -/
def Meets (left right : MaybeId) (leftMissing rightMissing : Int) : Prop :=
  match left, right with
  | .present left, .present right => left = right
  | .present left, .missing => left.toInt = rightMissing
  | .missing, .present right => right.toInt = leftMissing
  | .missing, .missing => leftMissing = rightMissing

theorem identity_or_meets (left right : MaybeId) (leftMissing rightMissing : Int) :
    identityOr left leftMissing = identityOr right rightMissing ↔
      Meets left right leftMissing rightMissing := by
  cases left with
  | present left =>
      cases right with
      | present right => exact Int64.toInt_inj
      | missing => exact Iff.rfl
  | missing =>
      cases right with
      | present right => exact eq_comm
      | missing => exact Iff.rfl

theorem added_member (scope : CardScope) (identities : CardIdentities) (submodule : IdSubmodule)
    (identity : Int) :
    identity ∈ (scope.add identities).idsFor submodule ↔
      identities.of submodule = identity ∨ identity ∈ scope.idsFor submodule := by
  cases submodule <;>
    simp [CardScope.add, CardScope.idsFor, CardIdentities.of, ExtTreeSet.mem_insert]

/-- Some card of the list has the identity in the given place. -/
def Occurs (cards : List ReviewMapping) (submodule : IdSubmodule) (identity : Int) : Prop :=
  ∃ card ∈ cards, ∃ identities, cardIdentities card = .ok identities ∧
    identities.of submodule = identity

theorem occurs_cons {card : ReviewMapping} {identities : CardIdentities}
    (read : cardIdentities card = .ok identities) (cards : List ReviewMapping)
    (submodule : IdSubmodule) (identity : Int) :
    Occurs (card :: cards) submodule identity ↔
      identities.of submodule = identity ∨ Occurs cards submodule identity := by
  unfold Occurs
  rw [List.exists_mem_cons_iff]
  simp only [read, Except.ok.injEq, exists_eq_left']

theorem from_cards_fold {cards : List ReviewMapping} {first scope : CardScope}
    (made : cards.foldlM (fun scope card => return scope.add (← cardIdentities card)) first =
      .ok scope) (submodule : IdSubmodule) (identity : Int) :
    identity ∈ scope.idsFor submodule ↔
      identity ∈ first.idsFor submodule ∨ Occurs cards submodule identity := by
  induction cards generalizing first with
  | nil =>
      cases made
      simp [Occurs]
  | cons card cards ih =>
      rw [List.foldlM_cons] at made
      obtain ⟨middle, stepped, rest⟩ := bind_ok.mp made
      obtain ⟨identities, read, same⟩ := bind_ok.mp stepped
      cases same
      rw [ih rest, added_member, occurs_cons read]
      constructor
      · rintro ((own | before) | later)
        · exact Or.inr (Or.inl own)
        · exact Or.inl before
        · exact Or.inr (Or.inr later)
      · rintro (before | own | later)
        · exact Or.inl (Or.inr before)
        · exact Or.inl (Or.inl own)
        · exact Or.inr later

theorem from_cards_member {cards : List ReviewMapping} {scope : CardScope}
    (made : fromCards cards = .ok scope) (submodule : IdSubmodule) (identity : Int) :
    identity ∈ scope.idsFor submodule ↔ Occurs cards submodule identity := by
  rw [from_cards_fold made]
  cases submodule <;> simp [CardScope.empty, CardScope.idsFor]

theorem from_cards_succeeds {cards : List ReviewMapping} (first : CardScope)
    (read : ∀ card ∈ cards, ∃ identities, cardIdentities card = .ok identities) :
    ∃ scope, cards.foldlM (fun scope card => return scope.add (← cardIdentities card)) first =
      .ok scope := by
  induction cards generalizing first with
  | nil => exact ⟨first, rfl⟩
  | cons card cards ih =>
      obtain ⟨identities, found⟩ := read card (by simp)
      obtain ⟨scope, made⟩ := ih (first.add identities)
        fun other member => read other (List.mem_cons_of_mem _ member)
      refine ⟨scope, ?_⟩
      rw [List.foldlM_cons, found]
      exact made

/-- Every submodule is tested, so nothing is unavailable exactly when all of them are there. -/
theorem none_unavailable (available : IdSubmodule → Prop) [DecidablePred available] :
    (idSubmodules.filter fun submodule => ¬ available submodule).isEmpty ↔
      ∀ submodule, available submodule := by
  rw [List.isEmpty_iff, List.filter_eq_nil_iff]
  constructor
  · intro all submodule
    have tested := all submodule (by cases submodule <;> simp [idSubmodules])
    simpa using tested
  · intro all submodule _
    simp [all submodule]

theorem require_review_ok {row : ReviewMapping} {identities : CardIdentities}
    (read : cardIdentities row = .ok identities) (scope : CardScope) :
    requireReview scope row = .ok () ↔
      ∀ submodule, identities.of submodule ∈ scope.idsFor submodule := by
  rw [← none_unavailable fun submodule => identities.of submodule ∈ scope.idsFor submodule]
  unfold requireReview
  rw [read]
  simp only [bind, Except.bind]
  split
  · rename_i empty
    exact iff_of_true rfl empty
  · rename_i some
    exact iff_of_false (by simp [valueError]) some

theorem require_loaded_ok [Float64Ops Binary64] (scope : CheckpointScope)
    (input : ReviewInput Binary64) :
    requireLoadedScope scope input = .ok () ↔ ∀ submodule : IdSubmodule,
      submodule.key (normalizedReviewIds input) ∈ scope.idsForSubmodule submodule := by
  rw [← none_unavailable fun submodule : IdSubmodule =>
    submodule.key (normalizedReviewIds input) ∈ scope.idsForSubmodule submodule]
  unfold requireLoadedScope
  dsimp only
  split
  · rename_i empty
    exact iff_of_true rfl empty
  · rename_i some
    exact iff_of_false (by simp) some

theorem to_set_member (values : List Int64) (value : Int64) :
    value ∈ SnapshotValues.toSet values ↔ value ∈ values := by
  have folded : ∀ kept : ExtTreeSet Int64,
      value ∈ values.foldl (fun kept value =>
        if isSelected Option.none value then kept.insert value else kept) kept ↔
        value ∈ kept ∨ value ∈ values := by
    induction values with
    | nil => simp
    | cons first values ih =>
        intro kept
        rw [List.foldl_cons, ih]
        simp only [isSelected, if_true, ExtTreeSet.mem_insert, List.mem_cons, Std.compare_eq_iff_eq]
        constructor
        · rintro ((own | before) | later)
          · exact Or.inr (Or.inl own.symm)
          · exact Or.inl before
          · exact Or.inr (Or.inr later)
        · rintro (before | own | later)
          · exact Or.inl (Or.inr before)
          · exact Or.inl (Or.inl own.symm)
          · exact Or.inr later
  unfold SnapshotValues.toSet collectSet
  rw [folded]
  simp

theorem native_identity_ok {identity : Int} {number : Int64} :
    nativeIdentity identity = .ok number ↔ number.toInt = identity := by
  unfold nativeIdentity
  by_cases range : minI64 ≤ identity ∧ identity < endI64
  · have taken : extractI64 (.int identity) = some (Int64.ofInt identity) := by
      simp [extractI64, range]
    rw [taken]
    constructor
    · intro read
      cases read
      exact of_int_in_range range
    · rintro rfl
      simp
  · have refused : extractI64 (.int identity) = Option.none := by
      simp [extractI64, range]
    rw [refused]
    constructor
    · intro read
      cases read
    · rintro rfl
      exact absurd (to_int_in_range number) range

/-- A list crosses the boundary exactly when every identity is an i64. -/
theorem identity_list_ok (identities : ExtTreeSet Int) :
    (∃ numbers, identityList identities = .ok numbers) ↔
      ∀ identity ∈ identities, minI64 ≤ identity ∧ identity < endI64 := by
  constructor
  · rintro ⟨numbers, read⟩ identity member
    have listed := ExtTreeSet.mem_toList.mpr member
    obtain ⟨number, _, converted⟩ := mapM_member_ok read listed
    rw [← native_identity_ok.mp converted]
    exact to_int_in_range number
  · intro within
    have each : ∀ identity ∈ identities.toList,
        nativeIdentity identity = .ok (Int64.ofInt identity) := by
      intro identity listed
      have range := within identity (ExtTreeSet.mem_toList.mp listed)
      exact native_identity_ok.mpr (of_int_in_range range)
    exact ⟨_, mapM_all_ok each⟩

theorem identity_list_member {identities : ExtTreeSet Int} {numbers : List Int64}
    (read : identityList identities = .ok numbers) (number : Int64) :
    number ∈ numbers ↔ number.toInt ∈ identities := by
  constructor
  · intro member
    obtain ⟨identity, listed, converted⟩ := mapM_ok_mem read member
    rw [native_identity_ok.mp converted]
    exact ExtTreeSet.mem_toList.mp listed
  · intro member
    obtain ⟨found, listed, converted⟩ := mapM_member_ok read (ExtTreeSet.mem_toList.mpr member)
    rw [← Int64.toInt_inj.mp (native_identity_ok.mp converted)]
    exact listed

theorem native_scope_member {scope : CardScope} {restored : CheckpointScope}
    (crossed : nativeScope scope = .ok (some restored)) (submodule : IdSubmodule)
    (number : Int64) :
    number ∈ restored.idsForSubmodule submodule ↔ number.toInt ∈ scope.idsFor submodule := by
  unfold nativeScope at crossed
  obtain ⟨cardIds, readCards, crossed⟩ := bind_ok.mp crossed
  obtain ⟨noteIds, readNotes, crossed⟩ := bind_ok.mp crossed
  obtain ⟨deckIds, readDecks, crossed⟩ := bind_ok.mp crossed
  obtain ⟨presetIds, readPresets, crossed⟩ := bind_ok.mp crossed
  cases crossed
  cases submodule with
  | cardId => exact (to_set_member cardIds number).trans (identity_list_member readCards number)
  | noteId => exact (to_set_member noteIds number).trans (identity_list_member readNotes number)
  | deckId => exact (to_set_member deckIds number).trans (identity_list_member readDecks number)
  | presetId =>
      exact (to_set_member presetIds number).trans (identity_list_member readPresets number)

theorem native_scope_ok (scope : CardScope) :
    (∃ restored, nativeScope scope = .ok (some restored)) ↔
      ∀ submodule, ∀ identity ∈ scope.idsFor submodule,
        minI64 ≤ identity ∧ identity < endI64 := by
  constructor
  · rintro ⟨restored, crossed⟩ submodule
    unfold nativeScope at crossed
    obtain ⟨cardIds, readCards, crossed⟩ := bind_ok.mp crossed
    obtain ⟨noteIds, readNotes, crossed⟩ := bind_ok.mp crossed
    obtain ⟨deckIds, readDecks, crossed⟩ := bind_ok.mp crossed
    obtain ⟨presetIds, readPresets, _⟩ := bind_ok.mp crossed
    cases submodule with
    | cardId => exact (identity_list_ok scope.cardIds).mp ⟨cardIds, readCards⟩
    | noteId => exact (identity_list_ok scope.noteIds).mp ⟨noteIds, readNotes⟩
    | deckId => exact (identity_list_ok scope.deckIds).mp ⟨deckIds, readDecks⟩
    | presetId => exact (identity_list_ok scope.presetIds).mp ⟨presetIds, readPresets⟩
  · intro within
    obtain ⟨cardIds, readCards⟩ := (identity_list_ok scope.cardIds).mpr (within .cardId)
    obtain ⟨noteIds, readNotes⟩ := (identity_list_ok scope.noteIds).mpr (within .noteId)
    obtain ⟨deckIds, readDecks⟩ := (identity_list_ok scope.deckIds).mpr (within .deckId)
    obtain ⟨presetIds, readPresets⟩ := (identity_list_ok scope.presetIds).mpr (within .presetId)
    exists ⟨SnapshotValues.toSet cardIds, SnapshotValues.toSet noteIds,
      SnapshotValues.toSet deckIds, SnapshotValues.toSet presetIds⟩
    refine bind_ok.mpr ⟨cardIds, readCards, bind_ok.mpr ⟨noteIds, readNotes, ?_⟩⟩
    exact bind_ok.mpr ⟨deckIds, readDecks, bind_ok.mpr ⟨presetIds, readPresets, rfl⟩⟩

/-- The four identities are read as a parser reads them, and they are i64 as is the sum for a
missing note. -/
structure Admitted (row : ReviewMapping) (input : ReviewInput Binary64) : Prop where
  read : IdsRead row input
  within : IdsWithinI64 row
  fits : NormalizationFits input

theorem admitted_identities {row : ReviewMapping} {input : ReviewInput Binary64}
    (admitted : Admitted row input) : cardIdentities row = .ok (inputIdentities input) :=
  card_identities_read admitted.read admitted.within

theorem native_scope_occurs {cards : List ReviewMapping} {scope : CardScope}
    (made : fromCards cards = .ok scope) :
    (∃ restored, nativeScope scope = .ok (some restored)) ↔
      ∀ submodule identity, Occurs cards submodule identity →
        minI64 ≤ identity ∧ identity < endI64 := by
  rw [native_scope_ok]
  simp only [from_cards_member made]

theorem from_admitted_cards {cards : List ReviewMapping}
    (admitted : ∀ card ∈ cards, ∃ input, Admitted card input) :
    ∃ scope, fromCards cards = .ok scope := by
  apply from_cards_succeeds
  intro card member
  obtain ⟨input, admits⟩ := admitted card member
  exact ⟨_, admitted_identities admits⟩

section Agreement

variable [Float64Ops Binary64]

theorem native_ids_meet {left right : ReviewInput Binary64} (leftFits : NormalizationFits left)
    (rightFits : NormalizationFits right) (submodule : IdSubmodule) :
    submodule.key (normalizedReviewIds left) = submodule.key (normalizedReviewIds right) ↔
      (inputIdentities left).of submodule = (inputIdentities right).of submodule := by
  rw [← Int64.toInt_inj, normalized_identities leftFits, normalized_identities rightFits]

theorem admitted_identity_i64 {row : ReviewMapping} {input : ReviewInput Binary64}
    (admitted : Admitted row input) (submodule : IdSubmodule) :
    minI64 ≤ (inputIdentities input).of submodule ∧
      (inputIdentities input).of submodule < endI64 := by
  rw [← normalized_identities admitted.fits]
  exact to_int_in_range _

theorem require_review_occurs {cards : List ReviewMapping} {scope : CardScope}
    (made : fromCards cards = .ok scope) {row : ReviewMapping} {input : ReviewInput Binary64}
    (admitted : Admitted row input) :
    requireReview scope row = .ok () ↔ ∀ submodule : IdSubmodule,
      Occurs cards submodule (submodule.key (normalizedReviewIds input)).toInt := by
  rw [require_review_ok (admitted_identities admitted)]
  apply forall_congr'
  intro submodule
  rw [from_cards_member made, normalized_identities admitted.fits]

theorem require_loaded_occurs {cards : List ReviewMapping} {scope : CardScope}
    {restored : CheckpointScope} (made : fromCards cards = .ok scope)
    (crossed : nativeScope scope = .ok (some restored)) (input : ReviewInput Binary64) :
    requireLoadedScope restored input = .ok () ↔ ∀ submodule : IdSubmodule,
      Occurs cards submodule (submodule.key (normalizedReviewIds input)).toInt := by
  rw [require_loaded_ok]
  apply forall_congr'
  intro submodule
  rw [native_scope_member crossed, from_cards_member made]

theorem admitted_cards_cross {cards : List ReviewMapping} {scope : CardScope}
    (made : fromCards cards = .ok scope)
    (admitted : ∀ card ∈ cards, ∃ input, Admitted card input) :
    ∃ restored, nativeScope scope = .ok (some restored) := by
  apply (native_scope_occurs made).mpr
  rintro submodule identity ⟨card, member, identities, read, rfl⟩
  obtain ⟨input, admits⟩ := admitted card member
  rw [admitted_identities admits] at read
  cases read
  exact admitted_identity_i64 admits submodule

/-- Wherever the sum for a missing note is an i64, both sides normalise alike, identities meet
exactly as listed in `Meets`, and both scope tests admit the reviews whose identities occur. -/
theorem normalised_identities_decide_scopes :
    (∀ row input, Admitted row input → ∃ identities, cardIdentities row = .ok identities ∧
      ∀ submodule : IdSubmodule,
        identities.of submodule = (submodule.key (normalizedReviewIds input)).toInt) ∧
    (∀ left right : ReviewInput Binary64, NormalizationFits left → NormalizationFits right →
      (IdSubmodule.noteId.key (normalizedReviewIds left) =
          IdSubmodule.noteId.key (normalizedReviewIds right) ↔
        Meets left.noteId right.noteId (pythonIdPlaceholder + left.cardId.toInt)
          (pythonIdPlaceholder + right.cardId.toInt)) ∧
      (IdSubmodule.deckId.key (normalizedReviewIds left) =
          IdSubmodule.deckId.key (normalizedReviewIds right) ↔
        Meets left.deckId right.deckId pythonIdPlaceholder pythonIdPlaceholder) ∧
      (IdSubmodule.presetId.key (normalizedReviewIds left) =
          IdSubmodule.presetId.key (normalizedReviewIds right) ↔
        Meets left.presetId right.presetId pythonIdPlaceholder pythonIdPlaceholder)) ∧
    (∀ cards : List ReviewMapping, (∀ card ∈ cards, ∃ input, Admitted card input) →
      ∃ scope restored, fromCards cards = .ok scope ∧
        nativeScope scope = .ok (some restored)) ∧
    (∀ cards scope, fromCards cards = .ok scope →
      ∀ row input, Admitted row input →
        (requireReview scope row = .ok () ↔ ∀ submodule : IdSubmodule,
          Occurs cards submodule (submodule.key (normalizedReviewIds input)).toInt) ∧
        ∀ restored, nativeScope scope = .ok (some restored) →
          (requireLoadedScope restored input = .ok () ↔ ∀ submodule : IdSubmodule,
            Occurs cards submodule (submodule.key (normalizedReviewIds input)).toInt)) := by
  constructor
  · intro row input admitted
    refine ⟨inputIdentities input, admitted_identities admitted, ?_⟩
    intro submodule
    exact (normalized_identities admitted.fits submodule).symm
  constructor
  · intro left right leftFits rightFits
    have meet := native_ids_meet leftFits rightFits
    refine ⟨(meet .noteId).trans ?_, (meet .deckId).trans ?_, (meet .presetId).trans ?_⟩
    · exact identity_or_meets _ _ _ _
    · exact identity_or_meets _ _ _ _
    · exact identity_or_meets _ _ _ _
  constructor
  · intro cards admitted
    obtain ⟨scope, made⟩ := from_admitted_cards admitted
    obtain ⟨restored, crossed⟩ := admitted_cards_cross made admitted
    exact ⟨scope, restored, made, crossed⟩
  · intro cards scope made row input admitted
    refine ⟨require_review_occurs made admitted, ?_⟩
    intro restored crossed
    exact require_loaded_occurs made crossed input

end Agreement

def zeroFloat : PyValue := .float (Binary64.zero false)

def cardRow (cardId : Int) (noteId : PyValue) : ReviewMapping where
  isDict := true
  items := [("review_id", .int 1), ("card_id", .int cardId), ("note_id", noteId),
    ("deck_id", .none), ("preset_id", .int 5), ("day_offset", zeroFloat),
    ("elapsed_days", zeroFloat), ("elapsed_seconds", zeroFloat), ("rating", .int 3),
    ("duration", zeroFloat), ("state", zeroFloat)]

def cardInput (cardId : Int64) (noteId : MaybeId) : ReviewInput Binary64 where
  reviewId := 1
  cardId := cardId
  noteId := noteId
  deckId := .missing
  presetId := .present 5
  dayOffset := Binary64.zero false
  elapsedDays := Binary64.zero false
  elapsedSeconds := Binary64.zero false
  rating := some 3
  duration := some (Binary64.zero false)
  state := some (Binary64.zero false)

/-- A present note that is the placeholder plus 7 is taken for the missing note of card 7, and
the sum of the largest card identity wraps in the native reading only. -/
theorem placeholder_meets_present_note :
    (reviewFromMapping (cardRow 8 (.int 314159265358979330)) true =
        .ok (cardInput 8 (.present 314159265358979330)) ∧
      reviewFromMapping (cardRow 7 .none) true = .ok (cardInput 7 .missing) ∧
      ∀ _ : Float64Ops Binary64,
        IdSubmodule.noteId.key (normalizedReviewIds
            (cardInput 8 (.present 314159265358979330))) =
          IdSubmodule.noteId.key (normalizedReviewIds (cardInput 7 .missing))) ∧
    (reviewFromMapping (cardRow 9223372036854775807 .none) true =
        .ok (cardInput 9223372036854775807 .missing) ∧
      (cardIdentities (cardRow 9223372036854775807 .none)).toOption.map CardIdentities.noteId =
        some 9537531302213755130 ∧
      ∀ _ : Float64Ops Binary64,
        (IdSubmodule.noteId.key
          (normalizedReviewIds (cardInput 9223372036854775807 .missing))).toInt =
            -8909212771495796486) := by
  refine ⟨⟨by decide +kernel, by decide +kernel, fun _ => ?_⟩,
    by decide +kernel, by decide +kernel, fun _ => ?_⟩
  · rfl
  · rfl

theorem small_card_admitted : Admitted (cardRow 7 .none) (cardInput 7 .missing) where
  read := parsers_read_ids (Or.inr (by decide +kernel))
  within := by
    intro field column value found
    simp only [checkpointCardColumns, List.mem_cons, List.not_mem_nil, or_false] at column
    obtain rfl | rfl | rfl | rfl := column <;> cases found <;> simp [WithinI64, minI64, endI64]
  fits := fun _ => by decide

/-- The scope of one card without a note admits that card's reviews in both tests. -/
theorem noteless_card_in_scope :
    Admitted (cardRow 7 .none) (cardInput 7 .missing) ∧
    ∀ _ : Float64Ops Binary64, ∃ scope restored,
      fromCards [cardRow 7 .none] = .ok scope ∧ nativeScope scope = .ok (some restored) ∧
        requireReview scope (cardRow 7 .none) = .ok () ∧
          requireLoadedScope restored (cardInput 7 .missing) = .ok () := by
  refine ⟨small_card_admitted, fun _ => ?_⟩
  obtain ⟨readsAlike, _, made, decided⟩ := normalised_identities_decide_scopes
  obtain ⟨scope, restored, built, crossed⟩ := made [cardRow 7 .none]
    (by simpa using ⟨_, small_card_admitted⟩)
  have tests := decided _ scope built _ _ small_card_admitted
  have occurs : ∀ submodule : IdSubmodule, Occurs [cardRow 7 .none] submodule
      (submodule.key (normalizedReviewIds (cardInput 7 .missing))).toInt := by
    intro submodule
    obtain ⟨identities, read, alike⟩ := readsAlike _ _ small_card_admitted
    exact ⟨_, by simp, identities, read, alike submodule⟩
  exact ⟨scope, restored, built, crossed, tests.1.mpr occurs,
    (tests.2 restored crossed).mpr occurs⟩

end RwkvSrs.CardScopes
