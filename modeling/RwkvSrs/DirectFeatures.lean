import RwkvSrs.BulkProcessing

/-!
The feature paths that prepare no rows. They compute the columns of a review in
one array, draw each missing encoding once, and check at the end how many values
they made.
-/

namespace RwkvSrs.DirectFeatures

open Std RwkvSrs.FallibleMethod RwkvSrs.FeatureScaling RwkvSrs.ReviewInput
open RwkvSrs.DeterministicState RwkvSrs.DeterministicUndo RwkvSrs.BulkProcessing
open Float64Ops FeatureFloat

set_option autoImplicit false
set_option linter.unusedSectionVars false

/-- `value as f32` is exact on the two literals the feature code writes in both widths. -/
class ExactFeatureFloat (F V : Type) [Float64Ops F] [Float32Ops V] extends FeatureFloat F V where
  zero : toF32 (0.0 : F) = (0.0 : V)
  one : toF32 (1.0 : F) = (1.0 : V)

variable {F V : Type} [Float64Ops F] [Float32Ops V] [FeatureFloat F V]

def directValues (state : FeatureState F V) (input : ReviewInput F) : ReviewValues F :=
  let cardId := input.cardId
  let (noteId, noteMissing) := normalizeId input.noteId (some cardId)
  let (deckId, deckMissing) := normalizeId input.deckId none
  let (presetId, presetMissing) := normalizeId input.presetId none
  let elapsedDaysCumulative :=
    (state.card2elapsedDaysCumulative[cardId]?).getD 0.0 + input.elapsedDays
  let elapsedSecondsCumulative :=
    (state.card2elapsedSecondsCumulative[cardId]?).getD 0.0 + input.elapsedSeconds
  let dayOffset := match state.firstDayOffset with
    | some first => input.dayOffset - first
    | none => 0.0
  let dayOffsetFirst := (state.card2firstDayOffset[cardId]?).getD dayOffset
  let previousDayOffset := state.prevDayOffset.getD 0.0
  let diffNewCards := ofInt64 <| max 0 <|
    ((state.lastNewCards[cardId]?).map fun last => state.cardCount.toInt64 - last.toInt64).getD 0
  let diffReviews := ofInt64 <|
    ((state.lastI[cardId]?).map fun last => max 0 (state.i - last - 1)).getD 0
  let (todayReviews, todayNewCards) :=
    if eq dayOffset state.today then (state.todayReviews, state.todayNewCards) else (-1, 0)
  let todayNewCards := if cardId ∈ state.cardSet then todayNewCards else todayNewCards + 1
  { ids := (cardId, noteId, deckId, presetId), noteMissing, deckMissing, presetMissing, dayOffset
    dayOffsetFirst, previousDayOffset, elapsedDaysCumulative, elapsedSecondsCumulative
    diffNewCards, diffReviews, todayReviews := todayReviews + 1, todayNewCards }

/-- The columns of the query row. -/
def directCardFeatures (input : ReviewInput F) (values : ReviewValues F) : List V := [
  toF32 (scaleElapsedDays input.elapsedDays),
  toF32 (scaleElapsedDaysCumulative values.elapsedDaysCumulative),
  toF32 (scaleElapsedSeconds input.elapsedSeconds),
  toF32 (elapsedSecondsSin input.elapsedSeconds),
  toF32 (elapsedSecondsCos input.elapsedSeconds),
  toF32 (scaleElapsedSecondsCumulative values.elapsedSecondsCumulative),
  toF32 (elapsedSecondsSin values.elapsedSecondsCumulative),
  toF32 (elapsedSecondsCos values.elapsedSecondsCumulative),
  0.0,
  0.0,
  0.0,
  0.0,
  0.0,
  toF32 values.noteMissing,
  toF32 values.deckMissing,
  toF32 values.presetMissing,
  toF32 (scaleDayOffsetDiff (values.dayOffset - values.previousDayOffset)),
  toF32 ((pyMod values.dayOffset 7.0 - 3.0) / 3.0 : F),
  toF32 (scaleDiffNewCards values.diffNewCards),
  toF32 (scaleDiffReviews values.diffReviews),
  toF32 (scaleCumNewCardsToday (ofInt64 values.todayNewCards : F)),
  toF32 (scaleCumReviewsToday (ofInt64 values.todayReviews : F)),
  0.0,
  1.0]

/-- The columns overwritten for the process row. -/
def processCardFeatures (cardFeatures : List V) (rating : Int64) (duration state : F) : List V :=
  let withDuration := cardFeatures.set 8 (toF32 (scaleDuration duration))
  let withRating := [1, 2, 3, 4].foldl (fun (features : List V) (index : Nat) =>
    features.set (8 + index) (if rating = Int64.ofNat index then 1.0 else 0.0)) withDuration
  (withRating.set 22 (toF32 (scaleState state))).set 23 0.0

def storedEncoding (submodule : IdSubmodule) (id : Int64) (absent : String) :
    Method (FeatureState F V) (List V) := do
  match ((← current).idEncodings submodule)[id]? with
  | some encoding => return encoding
  | none => fail (.panic absent)

def drawMissing (submodule : IdSubmodule) (id : Int64) : Method (FeatureState F V) Unit := do
  match ((← current).idEncodings submodule)[id]? with
  | some _ => return ()
  | none =>
      let encoding ← drawEncoding submodule.dim
      update (insertEncoding submodule id encoding)

/-- One turn of the loop that draws the missing encodings and fills in the query row. -/
def queryEncoding (ids : ReviewIds) (includeQuery : Bool) (features : List V)
    (submodule : IdSubmodule) : Method (FeatureState F V) (List V) := do
  drawMissing submodule (submodule.key ids)
  if includeQuery then
    let encoding ← storedEncoding submodule (submodule.key ids) "identity encoding inserted above"
    return features ++ encoding
  else return features

def processEncoding (ids : ReviewIds) (features : List V) (submodule : IdSubmodule) :
    Method (FeatureState F V) (List V) := do
  let encoding ← storedEncoding submodule (submodule.key ids) "identity encoding inserted above"
  return features ++ encoding

def appendProcessFeatureRows (input : ReviewInput F) (features : List V) (includeQuery : Bool) :
    Method (FeatureState F V) (List V × ReviewIds) := do
  let (rating, duration, reviewState) ← lift (processFields input)
  let state ← current
  let values := directValues state input
  let cardFeatures := directCardFeatures input values
  let start := features.length
  let features := if includeQuery then features ++ cardFeatures else features
  let features ← idSubmodules.foldlM (queryEncoding values.ids includeQuery) features
  let dayFeatures := dayOffsetEncoding values.dayOffset values.dayOffsetFirst
  let features := if includeQuery then features ++ dayFeatures else features
  let features := features ++ processCardFeatures cardFeatures rating duration reviewState
  let features ← idSubmodules.foldlM (processEncoding values.ids) features
  let features := features ++ dayFeatures
  let expectedValues := if includeQuery then 184 else 92
  if features.length ≠ start + expectedValues then
    lift (.error (s!"direct process feature rows have {features.length - start} values, " ++
      s!"expected {expectedValues}"))
  else do
    update (recordRecurrentIds values.ids)
    update (recordProcessedValues values.ids.1 input.elapsedDays input.elapsedSeconds
      values.dayOffset)
    return (features, values.ids)

def appendProcessFeaturePair (input : ReviewInput F) (features : List V) :
    Method (FeatureState F V) (List V × ReviewIds) :=
  appendProcessFeatureRows input features true

def appendProcessFeatureOnly (input : ReviewInput F) (features : List V) :
    Method (FeatureState F V) (List V × ReviewIds) :=
  appendProcessFeatureRows input features false

def encodingsOfRow (state : FeatureState F V) (row : PreparedRow F) (features : List V)
    (submodule : IdSubmodule) : Except String (List V) := do
  let id ← getI64 row submodule.name
  match (state.idEncodings submodule)[id]? with
  | some encoding => return features ++ encoding
  | none => .error s!"missing id encoding for submodule '{submodule.name}' id {id}"

def featureVectors (state : FeatureState F V) (rows : List (PreparedRow F)) :
    Except String (List (List V)) :=
  rows.mapM fun row => do
    let features ← cardFeatures row
    let features ← idSubmodules.foldlM (encodingsOfRow state row) features
    return features ++ (← dayOffsetFeatures row)

def recurrentKeysHave (keys : RecurrentStateKeys) (ids : ReviewIds) : Bool :=
  ids.1 ∈ keys.cardStates ∧ ids.2.1 ∈ keys.noteStates ∧ ids.2.2.1 ∈ keys.deckStates ∧
    ids.2.2.2 ∈ keys.presetStates

def canBatchPredict (state : FeatureState F V) (row : PreparedRow F) : Except String Bool := do
  let missing ← missingEncoding state row idSubmodules
  if missing then return false
  else do
    let ids ← rowIds (getI64 row)
    return recurrentKeysHave state.recurrentStateKeys ids

/-- The encodings are present here, or the call has returned `None` already. -/
def directEncodings (state : FeatureState F V) (ids : ReviewIds) : List V :=
  idSubmodules.flatMap fun submodule => ((state.idEncodings submodule)[submodule.key ids]?).getD []

def directPredictFeatures (state : FeatureState F V) (input : ReviewInput F) :
    Except String (Option (List V × ReviewIds)) :=
  let values := directValues state input
  if idSubmodules.any fun submodule => submodule.key values.ids ∉ state.idEncodings submodule then
    .ok none
  else if ¬ recurrentKeysHave state.recurrentStateKeys values.ids then .ok none
  else
    let features := directCardFeatures input values ++ directEncodings state values.ids ++
      dayOffsetEncoding values.dayOffset values.dayOffsetFirst
    if features.length ≠ 92 then
      .error s!"direct prediction feature vector has {features.length} values, expected 92"
    else .ok (some (features, values.ids))

def directReview (includeQuery : Bool) (made : List V × List ReviewIds) (input : ReviewInput F) :
    Method (FeatureState F V) (List V × List ReviewIds) := do
  let (features, ids) ← appendProcessFeatureRows input made.1 includeQuery
  return (features, made.2 ++ [ids])

def directRun (includeQuery : Bool) (inputs : List (ReviewInput F)) (features : List V) :
    Method (FeatureState F V) (List V × List ReviewIds) :=
  inputs.foldlM (directReview includeQuery) (features, [])

end RwkvSrs.DirectFeatures
