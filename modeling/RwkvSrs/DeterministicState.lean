import Std.Data.ExtTreeMap
import Std.Data.ExtTreeSet
import RwkvSrs.TorchRng

/-!
The deterministic feature state: the counters and per-identity maps that turn
a review into a feature vector, and the methods that advance them. Methods keep
what they have written when they fail, as the source does.
-/

namespace RwkvSrs.DeterministicState

open Std RwkvSrs.FallibleMethod RwkvSrs.FeatureScaling RwkvSrs.TorchRng Float64Ops FeatureFloat

set_option autoImplicit false

inductive IdSubmodule where
  | cardId
  | noteId
  | deckId
  | presetId
deriving DecidableEq

def IdSubmodule.name : IdSubmodule → String
  | .cardId => "card_id"
  | .noteId => "note_id"
  | .deckId => "deck_id"
  | .presetId => "preset_id"

def IdSubmodule.dim : IdSubmodule → Nat
  | .cardId => 12
  | .noteId => 12
  | .deckId => 8
  | .presetId => 8

def idSubmodules : List IdSubmodule := [.cardId, .noteId, .deckId, .presetId]

/-- Card, note, deck and preset identity of a review. -/
abbrev ReviewIds := Int64 × Int64 × Int64 × Int64

def IdSubmodule.key : IdSubmodule → ReviewIds → Int64
  | .cardId, ids => ids.1
  | .noteId, ids => ids.2.1
  | .deckId, ids => ids.2.2.1
  | .presetId, ids => ids.2.2.2

inductive RowValue (F : Type) where
  | bool (value : Bool)
  | float (value : F)
  | int (value : Int64)
deriving DecidableEq

abbrev PreparedRow (F : Type) := ExtTreeMap String (RowValue F)

abbrev IdEncodings (V : Type) := IdSubmodule → ExtTreeMap Int64 (List V)

def emptyIdEncodings {V : Type} : IdEncodings V := fun _ => ∅

structure RecurrentStateKeys where
  cardStates : ExtTreeSet Int64
  noteStates : ExtTreeSet Int64
  deckStates : ExtTreeSet Int64
  presetStates : ExtTreeSet Int64
  globalState : Bool

def RecurrentStateKeys.empty : RecurrentStateKeys := ⟨∅, ∅, ∅, ∅, false⟩

structure FeatureState (F V : Type) where
  firstDayOffset : Option F
  prevDayOffset : Option F
  cardSet : ExtTreeSet Int64
  cardCount : UInt64
  lastNewCards : ExtTreeMap Int64 UInt64
  i : Int64
  lastI : ExtTreeMap Int64 Int64
  today : F
  todayReviews : Int64
  todayNewCards : Int64
  card2firstDayOffset : ExtTreeMap Int64 F
  card2elapsedDaysCumulative : ExtTreeMap Int64 F
  card2elapsedSecondsCumulative : ExtTreeMap Int64 F
  idEncodings : IdEncodings V
  recurrentStateKeys : RecurrentStateKeys
  idRng : TorchMt19937

section Rows

variable {F : Type} [Float64Ops F]

def RowValue.asF64 (value : RowValue F) (field : String) : Except String F :=
  match value with
  | .float value => .ok value
  | .int value => .ok (ofInt64 value)
  | .bool _ => .error s!"field '{field}' must be numeric"

def RowValue.asI64 (value : RowValue F) (field : String) : Except String Int64 :=
  match value with
  | .int value => .ok value
  | .float value =>
      if isIntegral value then .ok (toInt64 value)
      else .error s!"field '{field}' must be an integer"
  | .bool _ => .error s!"field '{field}' must be an integer"

def getField (row : PreparedRow F) (field : String) : Except String (RowValue F) :=
  match row[field]? with
  | some value => .ok value
  | none => .error s!"prepared row is missing field '{field}'"

def getF64 (row : PreparedRow F) (field : String) : Except String F := do
  (← getField row field).asF64 field

def getI64 (row : PreparedRow F) (field : String) : Except String Int64 := do
  (← getField row field).asI64 field

end Rows

/-- The identity used for the map lookups, and 1.0 where the review names none. -/
def normalizeId {F : Type} [Float64Ops F] (value : MaybeId) (noteCardId : Option Int64) :
    Int64 × F :=
  match value with
  | .present id => (id, 0.0)
  | .missing => (idPlaceholder + noteCardId.getD 0, 1.0)

def normalizedReviewIds {F : Type} [Float64Ops F] (input : ReviewInput F) : ReviewIds :=
  let cardId := input.cardId
  (cardId, (normalizeId (F := F) input.noteId (some cardId)).1,
    (normalizeId (F := F) input.deckId none).1, (normalizeId (F := F) input.presetId none).1)

variable {F V : Type} [Float64Ops F] [Float32Ops V] [FeatureFloat F V]

def withTorchSeed (torchSeed : UInt64) : FeatureState F V where
  firstDayOffset := none
  prevDayOffset := none
  cardSet := ∅
  cardCount := 0
  lastNewCards := ∅
  i := 0
  lastI := ∅
  today := -1.0
  todayReviews := 0
  todayNewCards := 0
  card2firstDayOffset := ∅
  card2elapsedDaysCumulative := ∅
  card2elapsedSecondsCumulative := ∅
  idEncodings := emptyIdEncodings
  recurrentStateKeys := RecurrentStateKeys.empty
  idRng := seedFromU64 torchSeed

/-- What every row of a review is computed from. -/
structure ReviewValues (F : Type) where
  ids : ReviewIds
  noteMissing : F
  deckMissing : F
  presetMissing : F
  dayOffset : F
  dayOffsetFirst : F
  previousDayOffset : F
  elapsedDaysCumulative : F
  elapsedSecondsCumulative : F
  diffNewCards : F
  diffReviews : F
  todayReviews : Int64
  todayNewCards : Int64

def reviewValues (state : FeatureState F V) (input : ReviewInput F) : ReviewValues F :=
  let cardId := input.cardId
  let (noteId, noteMissing) := normalizeId input.noteId (some cardId)
  let (deckId, deckMissing) := normalizeId input.deckId none
  let (presetId, presetMissing) := normalizeId input.presetId none
  let dayOffset := match state.firstDayOffset with
    | some first => input.dayOffset - first
    | none => 0.0
  let sameDay := eq dayOffset state.today
  let todayNewCards := if sameDay then state.todayNewCards else 0
  { ids := (cardId, noteId, deckId, presetId)
    noteMissing := noteMissing
    deckMissing := deckMissing
    presetMissing := presetMissing
    dayOffset := dayOffset
    dayOffsetFirst := (state.card2firstDayOffset[cardId]?).getD dayOffset
    previousDayOffset := state.prevDayOffset.getD 0.0
    elapsedDaysCumulative :=
      (state.card2elapsedDaysCumulative[cardId]?).getD 0.0 + input.elapsedDays
    elapsedSecondsCumulative :=
      (state.card2elapsedSecondsCumulative[cardId]?).getD 0.0 + input.elapsedSeconds
    diffNewCards := ofInt64 <| max 0 <|
      ((state.lastNewCards[cardId]?).map fun last =>
        state.cardCount.toInt64 - last.toInt64).getD 0
    diffReviews := ofInt64 <|
      ((state.lastI[cardId]?).map fun last => max 0 (state.i - last - 1)).getD 0
    todayReviews := (if sameDay then state.todayReviews else -1) + 1
    todayNewCards := if cardId ∈ state.cardSet then todayNewCards else todayNewCards + 1 }

def sharedFields (state : FeatureState F V) (input : ReviewInput F) :
    List (String × RowValue F) :=
  let values := reviewValues state input
  [
    ("review_id", .int input.reviewId),
    ("card_id", .int values.ids.1),
    ("note_id", .int values.ids.2.1),
    ("deck_id", .int values.ids.2.2.1),
    ("preset_id", .int values.ids.2.2.2),
    ("day_offset", .float values.dayOffset),
    ("day_offset_first", .float values.dayOffsetFirst),
    ("elapsed_days", .float input.elapsedDays),
    ("elapsed_days_cumulative", .float values.elapsedDaysCumulative),
    ("scaled_elapsed_days_cumulative",
      .float (scaleElapsedDaysCumulative values.elapsedDaysCumulative)),
    ("elapsed_seconds", .float input.elapsedSeconds),
    ("scaled_elapsed_seconds", .float (scaleElapsedSeconds input.elapsedSeconds)),
    ("scaled_elapsed_days", .float (scaleElapsedDays input.elapsedDays)),
    ("elapsed_seconds_cumulative", .float values.elapsedSecondsCumulative),
    ("scaled_elapsed_seconds_cumulative",
      .float (scaleElapsedSecondsCumulative values.elapsedSecondsCumulative)),
    ("elapsed_seconds_sin", .float (elapsedSecondsSin input.elapsedSeconds)),
    ("elapsed_seconds_cos", .float (elapsedSecondsCos input.elapsedSeconds)),
    ("elapsed_seconds_cumulative_sin", .float (elapsedSecondsSin values.elapsedSecondsCumulative)),
    ("elapsed_seconds_cumulative_cos", .float (elapsedSecondsCos values.elapsedSecondsCumulative)),
    ("note_id_is_nan", .float values.noteMissing),
    ("deck_id_is_nan", .float values.deckMissing),
    ("preset_id_is_nan", .float values.presetMissing),
    ("day_offset_diff", .float (scaleDayOffsetDiff (values.dayOffset - values.previousDayOffset))),
    ("day_of_week", .float ((pyMod values.dayOffset 7.0 - 3.0) / 3.0)),
    ("diff_new_cards", .float (scaleDiffNewCards values.diffNewCards)),
    ("diff_reviews", .float (scaleDiffReviews values.diffReviews)),
    ("cum_new_cards_today", .float (scaleCumNewCardsToday (ofInt64 values.todayNewCards))),
    ("cum_reviews_today", .float (scaleCumReviewsToday (ofInt64 values.todayReviews)))]

def insertFields (row : PreparedRow F) (fields : List (String × RowValue F)) : PreparedRow F :=
  fields.foldl (fun row field => row.insert field.1 field.2) row

def addSame (state : FeatureState F V) (input : ReviewInput F) : PreparedRow F :=
  insertFields ∅ (sharedFields state input)

/-- The columns a query row and a process row fill in differently. -/
def laneFields (isQuery : F) (skip : Bool) (scaledDuration scaledState : F) (rating : Int64 → F) :
    List (String × RowValue F) :=
  [("is_query", .float isQuery), ("skip", .bool skip),
    ("scaled_duration", .float scaledDuration), ("scaled_state", .float scaledState),
    ("rating_1", .float (rating 1)), ("rating_2", .float (rating 2)),
    ("rating_3", .float (rating 3)), ("rating_4", .float (rating 4))]

def preparePredictRow (state : FeatureState F V) (input : ReviewInput F) : PreparedRow F :=
  insertFields (addSame state input) (laneFields 1.0 true 0.0 0.0 fun _ => 0.0)

/-- The three fields a processed review must carry. -/
def processFields (input : ReviewInput F) : Except String (Int64 × F × F) :=
  match input.rating, input.duration, input.state with
  | none, _, _ => .error "process review is missing field 'rating'"
  | some _, none, _ => .error "process review is missing field 'duration'"
  | some _, some _, none => .error "process review is missing field 'state'"
  | some rating, some duration, some state => .ok (rating, duration, state)

def prepareProcessRow (state : FeatureState F V) (input : ReviewInput F) :
    Except String (PreparedRow F) := do
  let (rating, duration, reviewState) ← processFields input
  return insertFields (addSame state input)
    (laneFields 0.0 false (scaleDuration duration) (scaleState reviewState)
      fun index => if rating = index then 1.0 else 0.0)

def cardFeatures (row : PreparedRow F) : Except String (List V) :=
  cardFeatureColumns.mapM fun column => do return toF32 (← getF64 row column)

def dayOffsetFeatures (row : PreparedRow F) : Except String (List V) := do
  return dayOffsetEncoding (← getF64 row "day_offset") (← getF64 row "day_offset_first")

def drawEncoding (dim : Nat) : Method (FeatureState F V) (List V) :=
  onPart FeatureState.idRng (fun rng state => { state with idRng := rng }) (idEncoding dim)

def insertEncoding (submodule : IdSubmodule) (id : Int64) (encoding : List V)
    (state : FeatureState F V) : FeatureState F V :=
  { state with idEncodings := fun other =>
      if other = submodule then (state.idEncodings submodule).insert id encoding
      else state.idEncodings other }

/-- The stored encoding of an identity, or a fresh draw that is stored when asked for. -/
def encodingOf (submodule : IdSubmodule) (id : Int64) (mutateIdEncodings : Bool) :
    Method (FeatureState F V) (List V) := do
  match ((← current).idEncodings submodule)[id]? with
  | some encoding => return encoding
  | none =>
      let encoding ← drawEncoding submodule.dim
      if mutateIdEncodings then update (insertEncoding submodule id encoding)
      return encoding

def appendEncoding (row : PreparedRow F) (mutateIdEncodings : Bool) (features : List V)
    (submodule : IdSubmodule) : Method (FeatureState F V) (List V) := do
  let id ← lift (getI64 row submodule.name)
  let encoding ← encodingOf submodule id mutateIdEncodings
  return features ++ encoding

def featureVector (row : PreparedRow F) (mutateIdEncodings : Bool) :
    Method (FeatureState F V) (List V) := do
  let features ← lift (cardFeatures row)
  let features ← idSubmodules.foldlM (appendEncoding row mutateIdEncodings) features
  let dayFeatures ← lift (dayOffsetFeatures row)
  return features ++ dayFeatures

def processFeatureVector (row : PreparedRow F) : Method (FeatureState F V) (List V) :=
  featureVector row true

def missingEncoding (state : FeatureState F V) (row : PreparedRow F) :
    List IdSubmodule → Except String Bool
  | [] => .ok false
  | submodule :: rest => do
      let id ← getI64 row submodule.name
      if id ∈ state.idEncodings submodule then missingEncoding state row rest else return true

def skipNeedsRngRestore (state : FeatureState F V) (row : PreparedRow F) (skip : Bool) :
    Except String Bool :=
  if skip then missingEncoding state row idSubmodules else .ok false

/-- Restores the generator after `step`, unless a panic unwinds past the restore. -/
def restoringRng {Value : Type} (rng : Option TorchMt19937)
    (step : Method (FeatureState F V) Value) : Method (FeatureState F V) Value := fun state =>
  match step state, rng with
  | (.error (.panic message), reached), _ => (.error (.panic message), reached)
  | (result, reached), some saved => (result, { reached with idRng := saved })
  | (result, reached), none => (result, reached)

def predictFeatureVector (row : PreparedRow F) : Method (FeatureState F V) (List V) := do
  let state ← current
  let restore ← lift (skipNeedsRngRestore state row true)
  restoringRng (if restore then some state.idRng else none) (featureVector row false)

def recordRecurrentIds (ids : ReviewIds) (state : FeatureState F V) : FeatureState F V :=
  { state with
    recurrentStateKeys := {
      cardStates := state.recurrentStateKeys.cardStates.insert ids.1
      noteStates := state.recurrentStateKeys.noteStates.insert ids.2.1
      deckStates := state.recurrentStateKeys.deckStates.insert ids.2.2.1
      presetStates := state.recurrentStateKeys.presetStates.insert ids.2.2.2
      globalState := true } }

def addElapsed (map : ExtTreeMap Int64 F) (cardId : Int64) (elapsed : F) : ExtTreeMap Int64 F :=
  map.insert cardId ((map[cardId]?).getD 0.0 + elapsed)

def recordProcessedValues (cardId : Int64) (elapsedDays elapsedSeconds dayOffset : F)
    (state : FeatureState F V) : FeatureState F V :=
  let firstDayOffset := state.firstDayOffset.getD dayOffset
  let sameDay := eq dayOffset state.today
  let todayNewCards := if sameDay then state.todayNewCards else 0
  let todayReviews := if sameDay then state.todayReviews else -1
  let known := cardId ∈ state.cardSet
  let cardCount := if known then state.cardCount else state.cardCount + 1
  { state with
    card2elapsedDaysCumulative := addElapsed state.card2elapsedDaysCumulative cardId elapsedDays
    card2elapsedSecondsCumulative :=
      addElapsed state.card2elapsedSecondsCumulative cardId elapsedSeconds
    firstDayOffset := some firstDayOffset
    today := if sameDay then state.today else dayOffset
    todayReviews := todayReviews + 1
    todayNewCards := if known then todayNewCards else todayNewCards + 1
    cardSet := state.cardSet.insert cardId
    cardCount := cardCount
    card2firstDayOffset :=
      if known then state.card2firstDayOffset
      else state.card2firstDayOffset.insert cardId (dayOffset - firstDayOffset)
    prevDayOffset := some dayOffset
    lastI := state.lastI.insert cardId state.i
    lastNewCards := state.lastNewCards.insert cardId cardCount
    i := state.i + 1 }

def rowIds (read : String → Except String Int64) : Except String ReviewIds := do
  return (← read "card_id", ← read "note_id", ← read "deck_id", ← read "preset_id")

def preparedI64 (row : PreparedRow F) (field : String) : Except String Int64 :=
  match row[field]? with
  | some value => value.asI64 field
  | none => .error s!"prepared row is missing '{field}'"

def reviewIdsFromPrepared (row : PreparedRow F) : Except String ReviewIds :=
  rowIds (preparedI64 row)

def recordRecurrentStateUpdate (row : PreparedRow F) : Method (FeatureState F V) Unit := do
  let ids ← lift (rowIds (getI64 row))
  update (recordRecurrentIds ids)

def recordProcessedRow (row : PreparedRow F) : Method (FeatureState F V) Unit := do
  let cardId ← lift (getI64 row "card_id")
  let elapsedDays ← lift (getF64 row "elapsed_days")
  let elapsedSeconds ← lift (getF64 row "elapsed_seconds")
  let dayOffset ← lift (getF64 row "day_offset")
  update (recordProcessedValues cardId elapsedDays elapsedSeconds dayOffset)

structure BulkFeatureStep (V : Type) where
  ids : ReviewIds
  predictFeatures : List V
  processFeatures : List V

def featurePrepassStep (input : ReviewInput F) : Method (FeatureState F V) (BulkFeatureStep V) := do
  let predictRow := preparePredictRow (← current) input
  let ids ← lift (reviewIdsFromPrepared predictRow)
  let predictFeatures ← predictFeatureVector predictRow
  let processRow ← lift (prepareProcessRow (← current) input)
  let processFeatures ← processFeatureVector processRow
  recordRecurrentStateUpdate processRow
  recordProcessedRow processRow
  return ⟨ids, predictFeatures, processFeatures⟩

/-- One review of the state-only history builder, which draws no query row. -/
def stateBuildStep (input : ReviewInput F) : Method (FeatureState F V) (ReviewIds × List V) := do
  let processRow ← lift (prepareProcessRow (← current) input)
  let ids ← lift (reviewIdsFromPrepared processRow)
  let processFeatures ← processFeatureVector processRow
  recordRecurrentStateUpdate processRow
  recordProcessedRow processRow
  return (ids, processFeatures)

end RwkvSrs.DeterministicState
