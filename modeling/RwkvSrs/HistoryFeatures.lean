import RwkvSrs.DirectPaths
import RwkvSrs.GeneratorStates
import RwkvSrs.ReviewHistory

/-!
The feature state after a history. A processed review draws the encodings its
identities still lack and then records itself; everything else the state keeps
for a card is what the history says about it.
-/

namespace RwkvSrs.HistoryFeatures

open Std FallibleMethod FeatureScaling ReviewInput DeterministicState DeterministicTouch DirectFeatures
open DirectAgreement DirectPaths GeneratorStates TorchRng ReviewHistory Float64Ops FeatureFloat

set_option autoImplicit false
set_option linter.unusedSectionVars false

variable {F V : Type} [Float64Ops F] [Float32Ops V] [ExactFeatureFloat F V]

/-- Encodings that were there stay; the identities of the review get the ones they lack. -/
structure Draws (ids : ReviewIds) (submodules : List IdSubmodule) (before after : FeatureState F V) :
    Prop where
  rest : after = { before with idEncodings := after.idEncodings, idRng := after.idRng }
  kept : ∀ (submodule : IdSubmodule) (id : Int64) (encoding : List V),
    (before.idEncodings submodule)[id]? = some encoding →
      (after.idEncodings submodule)[id]? = some encoding
  named : ∀ submodule ∈ submodules, submodule.key ids ∈ after.idEncodings submodule
  drawn : ∀ (submodule : IdSubmodule) (id : Int64) (encoding : List V),
    (after.idEncodings submodule)[id]? = some encoding →
      (before.idEncodings submodule)[id]? = some encoding ∨
        (submodule.key ids = id ∧ encoding.length = submodule.dim ∧
          ∀ value ∈ encoding, Centred value)
  generator : Seeded before.idRng → Seeded after.idRng

variable {ids : ReviewIds} {before after : FeatureState F V}

theorem draws_nothing (state : FeatureState F V) : Draws ids [] state state := by
  apply Draws.mk
  · rfl
  · intro submodule id encoding found
    exact found
  · intro submodule member
    cases member
  · intro submodule id encoding found
    exact Or.inl found
  · intro seeded
    exact seeded

theorem entry_inserted {Value : Type} (map : ExtTreeMap Int64 Value) (key id : Int64) (value : Value) :
    (map.insert key value)[id]? = if key = id then some value else map[id]? := by
  rw [ExtTreeMap.getElem?_insert]
  simp only [LawfulEqCmp.compare_eq_iff_eq]

theorem encoding_draws {submodule : IdSubmodule} {encoding : List V}
    (ran : encodingOf submodule (submodule.key ids) true before = (.ok encoding, after)) :
    Draws ids [submodule] before after := by
  cases found : (before.idEncodings submodule)[submodule.key ids]? with
  | some stored =>
      rw [encoding_of_stored true found] at ran
      cases ran
      have empty : Draws ids [] before before := draws_nothing before
      apply Draws.mk rfl empty.kept
      · intro other member
        rw [List.mem_singleton] at member
        rw [member, ExtTreeMap.mem_iff_isSome_getElem?, found]
        rfl
      · exact empty.drawn
      · exact empty.generator
  | none =>
      cases draw : drawEncoding submodule.dim before with
      | mk result drawn =>
      cases result with
      | error failure =>
          rw [encoding_of_failed true found draw] at ran
          cases ran
      | ok made =>
          rw [encoding_of_drawn true found draw, if_pos rfl] at ran
          cases ran
          have drew := draw_encoding_ok draw
          have sized := TorchRng.id_encoding_ok drew.1
          have entry : ∀ (other : IdSubmodule) (id : Int64),
              ((insertEncoding submodule (submodule.key ids) encoding drawn).idEncodings other)[id]? =
                if other = submodule ∧ submodule.key ids = id then some encoding
                else (before.idEncodings other)[id]? := by
            intro other id
            rw [insertEncoding]
            dsimp only
            rw [drew.2]
            by_cases same : other = submodule
            · rw [if_pos same, entry_inserted]
              simp [same]
            · rw [if_neg same, if_neg (fun both => same both.1)]
          have rest : drawn = { before with idRng := drawn.idRng } := by
            have reached : (drawEncoding submodule.dim before).2 = drawn := by rw [draw]
            rw [← reached]
            rfl
          apply Draws.mk
          · rw [insertEncoding, rest]
          · intro other id held there
            rw [entry]
            by_cases same : other = submodule ∧ submodule.key ids = id
            · rw [same.1, ← same.2, found] at there
              cases there
            · rw [if_neg same]
              exact there
          · intro other member
            rw [List.mem_singleton] at member
            rw [member, ExtTreeMap.mem_iff_isSome_getElem?, entry, if_pos ⟨rfl, rfl⟩]
            rfl
          · intro other id held there
            rw [entry] at there
            by_cases same : other = submodule ∧ submodule.key ids = id
            · rw [if_pos same] at there
              cases there
              rw [same.1]
              exact Or.inr ⟨same.2, sized.1, sized.2⟩
            · rw [if_neg same] at there
              exact Or.inl there
          · intro seeded
            obtain ⟨values, reached, run, _, keeps⟩ :=
              @TorchRng.id_encoding_kept V _ Seeded seeded_draws submodule.dim _ seeded
            rw [drew.1] at run
            cases run
            exact keeps

theorem draws_then {first second : List IdSubmodule} {middle : FeatureState F V}
    (head : Draws ids first before middle) (tail : Draws ids second middle after) :
    Draws ids (first ++ second) before after := by
  apply Draws.mk
  · rw [tail.rest, head.rest]
  · intro submodule id encoding found
    exact tail.kept submodule id encoding (head.kept submodule id encoding found)
  · intro submodule member
    rcases List.mem_append.mp member with early | late
    · have named := head.named submodule early
      rw [ExtTreeMap.mem_iff_isSome_getElem?, Option.isSome_iff_exists] at named
      obtain ⟨encoding, found⟩ := named
      rw [ExtTreeMap.mem_iff_isSome_getElem?, tail.kept submodule _ encoding found]
      rfl
    · exact tail.named submodule late
  · intro submodule id encoding found
    rcases tail.drawn submodule id encoding found with there | new
    · exact head.drawn submodule id encoding there
    · exact Or.inr new
  · intro seeded
    exact tail.generator (head.generator seeded)

theorem encode_all_draws {submodules : List IdSubmodule} {encodings : List V}
    (ran : encodeAll ids true submodules before = (.ok encodings, after)) :
    Draws ids submodules before after := by
  induction submodules generalizing before encodings with
  | nil =>
      cases ran
      exact draws_nothing _
  | cons submodule submodules ih =>
      obtain ⟨encoding, middle, first, rest⟩ := bind_ok_steps ran
      obtain ⟨later, last, second, same⟩ := bind_ok_steps rest
      cases same
      exact draws_then (encoding_draws first) (ih second)

theorem draws_identities (draws : Draws ids idSubmodules before after) (submodule : IdSubmodule)
    (id : Int64) :
    id ∈ after.idEncodings submodule ↔
      id = submodule.key ids ∨ id ∈ before.idEncodings submodule := by
  have every : submodule ∈ idSubmodules := by
    cases submodule with
    | cardId => decide
    | noteId => decide
    | deckId => decide
    | presetId => decide
  constructor
  · intro member
    rw [ExtTreeMap.mem_iff_isSome_getElem?, Option.isSome_iff_exists] at member
    obtain ⟨encoding, found⟩ := member
    rcases draws.drawn submodule id encoding found with there | new
    · right
      rw [ExtTreeMap.mem_iff_isSome_getElem?, there]
      rfl
    · exact Or.inl new.1.symm
  · intro either
    rcases either with here | there
    · rw [here]
      exact draws.named submodule every
    · rw [ExtTreeMap.mem_iff_isSome_getElem?, Option.isSome_iff_exists] at there
      obtain ⟨encoding, found⟩ := there
      rw [ExtTreeMap.mem_iff_isSome_getElem?, draws.kept submodule id encoding found]
      rfl

/-- What a finished review does to the feature state, on whichever path it was processed. -/
def Processes (input : ReviewInput F) (before after : FeatureState F V) : Prop :=
  ∃ encodings reached, encodeAll (normalizedReviewIds input) true idSubmodules before =
    (.ok encodings, reached) ∧ after = recordReview (reviewValues before input) input reached

theorem process_row_draws {input : ReviewInput F} {row : PreparedRow F} {features : List V}
    (prepared : prepareProcessRow before input = .ok row)
    (ran : processFeatureVector row before = (.ok features, after)) :
    ∃ encodings, encodeAll (normalizedReviewIds input) true idSubmodules before =
      (.ok encodings, after) := by
  cases fields : processFields input with
  | error message =>
      rw [prepareProcessRow, fields] at prepared
      cases prepared
  | ok values =>
      have columns := process_card_features (V := V) fields prepared
      have vector := feature_vector_encoded true (process_row_id prepared) columns
        (process_day_features prepared)
      rw [processFeatureVector, vector] at ran
      obtain ⟨encodings, reached, drawn, same⟩ := bind_ok_steps ran
      cases same
      exact ⟨encodings, drawn⟩

/-- A seeded generator always has the encodings of a review. -/
theorem encode_all_seeded (ids : ReviewIds) (submodules : List IdSubmodule) {state : FeatureState F V}
    (seeded : Seeded state.idRng) :
    ∃ encodings reached, encodeAll ids true submodules state = (.ok encodings, reached) := by
  induction submodules generalizing state with
  | nil => exact ⟨[], state, rfl⟩
  | cons submodule submodules ih =>
      have encoded : ∃ encoding middle,
          encodingOf submodule (submodule.key ids) true state = (.ok encoding, middle) := by
        cases found : (state.idEncodings submodule)[submodule.key ids]? with
        | some stored => exact ⟨stored, state, encoding_of_stored true found⟩
        | none =>
            obtain ⟨values, drawn, run, _⟩ :=
              @TorchRng.id_encoding_kept V _ Seeded seeded_draws submodule.dim _ seeded
            have draw : drawEncoding submodule.dim state =
                (.ok values, { state with idRng := drawn }) := by
              unfold drawEncoding onPart
              rw [run]
            exact ⟨values, _, encoding_of_drawn true found draw⟩
      obtain ⟨encoding, middle, first⟩ := encoded
      obtain ⟨later, last, second⟩ := ih ((encoding_draws first).generator seeded)
      refine ⟨encoding ++ later, last, ?_⟩
      unfold encodeAll
      rw [bind_of_ok first, bind_of_ok second]
      rfl

theorem prepass_seeded {input : ReviewInput F} {fields : Int64 × F × F}
    (valid : processFields input = .ok fields) (seeded : Seeded before.idRng) :
    ∃ step features, featurePrepassStep input before = (.ok step, features) ∧
      step.predictFeatures ≠ [] ∧ step.processFeatures ≠ [] := by
  obtain ⟨encodings, reached, drawn⟩ :=
    encode_all_seeded (reviewValues before input).ids idSubmodules seeded
  refine ⟨_, _, prepass_ok.mpr ⟨fields.1, fields.2.1, fields.2.2, _, _, valid, drawn, rfl, rfl⟩,
    ?_, ?_⟩
  · simp [preparedStep, ← List.length_pos_iff, card_features_length]
  · simp [preparedStep, ← List.length_pos_iff, process_card_length]

theorem prepass_generator {input : ReviewInput F} {step : BulkFeatureStep V}
    (ran : featurePrepassStep input before = (.ok step, after)) (seeded : Seeded before.idRng) :
    Seeded after.idRng := by
  obtain ⟨_, _, _, _, reached, _, drawn, _, same⟩ := prepass_ok.mp ran
  rw [same]
  exact (encode_all_draws drawn).generator seeded

def identitiesOf (submodule : IdSubmodule) (history : History F) : List Int64 :=
  history.map fun input => submodule.key (normalizedReviewIds input)

def keysOf (keys : RecurrentStateKeys) : IdSubmodule → ExtTreeSet Int64
  | .cardId => keys.cardStates
  | .noteId => keys.noteStates
  | .deckId => keys.deckStates
  | .presetId => keys.presetStates

/-- The feature state after the reviews of a history, up to the floats it keeps of them. -/
structure FollowsHistory (history : History F) (state : FeatureState F V) : Prop where
  firstDay : state.firstDayOffset.isSome = !history.isEmpty
  previousDay : state.prevDayOffset.isSome = !history.isEmpty
  cards : ∀ cardId, cardId ∈ state.cardSet ↔ cardId ∈ cardsOf history
  counted : state.cardCount = UInt64.ofNat (cardsSeen (cardsOf history))
  lastNewCards : ∀ cardId : Int64,
    state.lastNewCards[cardId]? = (cardsAtLast (cardsOf history) cardId).map UInt64.ofNat
  index : state.i = Int64.ofNat history.length
  lastIndices : ∀ cardId : Int64,
    state.lastI[cardId]? = (lastIndex (cardsOf history) cardId).map Int64.ofNat
  today : ∃ reviews newCards : Nat, state.todayReviews = Int64.ofNat reviews ∧
    state.todayNewCards = Int64.ofNat newCards ∧ newCards ≤ reviews + 1 ∧ reviews ≤ history.length
  firstDays : ∀ cardId, cardId ∈ state.card2firstDayOffset ↔ cardId ∈ cardsOf history
  elapsedDays : ∀ cardId, cardId ∈ state.card2elapsedDaysCumulative ↔ cardId ∈ cardsOf history
  elapsedSeconds : ∀ cardId, cardId ∈ state.card2elapsedSecondsCumulative ↔ cardId ∈ cardsOf history
  encoded : ∀ submodule id, id ∈ state.idEncodings submodule ↔ id ∈ identitiesOf submodule history
  sized : EncodingsSized state
  recurrent : ∀ submodule id,
    id ∈ keysOf state.recurrentStateKeys submodule ↔ id ∈ identitiesOf submodule history
  globalState : state.recurrentStateKeys.globalState = !history.isEmpty
  generator : Seeded state.idRng

theorem seeded_follows (torchSeed : UInt64) :
    FollowsHistory [] (withTorchSeed torchSeed : FeatureState F V) := by
  have listed : ∀ {Value : Type} (cardId : Int64),
      cardId ∈ (∅ : ExtTreeMap Int64 Value) ↔ cardId ∈ ([] : List Int64) := by
    intro Value cardId
    simp
  apply FollowsHistory.mk
  case today => exact ⟨0, 0, rfl, rfl, Nat.zero_le _, Nat.le_refl _⟩
  case cards => simp [withTorchSeed, cardsOf]
  case lastNewCards =>
    intro cardId
    simp [withTorchSeed, cardsAtLast, cardsOf]
  case lastIndices =>
    intro cardId
    simp [withTorchSeed, lastIndex, cardsOf]
  case firstDays => exact listed
  case elapsedDays => exact listed
  case elapsedSeconds => exact listed
  case encoded =>
    intro submodule
    exact listed
  case sized => exact seeded_sized torchSeed
  case recurrent =>
    intro submodule id
    cases submodule with
    | cardId => simp [withTorchSeed, keysOf, RecurrentStateKeys.empty, identitiesOf]
    | noteId => simp [withTorchSeed, keysOf, RecurrentStateKeys.empty, identitiesOf]
    | deckId => simp [withTorchSeed, keysOf, RecurrentStateKeys.empty, identitiesOf]
    | presetId => simp [withTorchSeed, keysOf, RecurrentStateKeys.empty, identitiesOf]
  case generator => exact seed_seeded torchSeed
  all_goals rfl

theorem set_inserted (set : ExtTreeSet Int64) (key id : Int64) :
    id ∈ set.insert key ↔ id = key ∨ id ∈ set := by
  rw [ExtTreeSet.mem_insert, LawfulEqCmp.compare_eq_iff_eq]
  constructor
  · intro either
    exact either.imp_left Eq.symm
  · intro either
    exact either.imp_left Eq.symm

theorem key_inserted {Value : Type} (map : ExtTreeMap Int64 Value) (key id : Int64) (value : Value) :
    id ∈ map.insert key value ↔ id = key ∨ id ∈ map := by
  rw [ExtTreeMap.mem_insert, LawfulEqCmp.compare_eq_iff_eq]
  constructor
  · intro either
    exact either.imp_left Eq.symm
  · intro either
    exact either.imp_left Eq.symm

/-- Keys that are those of the history stay so when its next review is inserted. -/
theorem follows_key (submodule : IdSubmodule) {history : History F} {member inserted : Int64 → Prop}
    (input : ReviewInput F) (same : ∀ id, member id ↔ id ∈ identitiesOf submodule history)
    (insert : ∀ id, inserted id ↔ id = submodule.key (normalizedReviewIds input) ∨ member id)
    (id : Int64) : inserted id ↔ id ∈ identitiesOf submodule (input :: history) := by
  rw [insert, same, identitiesOf, identitiesOf, List.map_cons, List.mem_cons]

theorem recorded_keys (ids : ReviewIds) (state : FeatureState F V) (submodule : IdSubmodule)
    (id : Int64) :
    id ∈ keysOf (recordRecurrentIds ids state).recurrentStateKeys submodule ↔
      id = submodule.key ids ∨ id ∈ keysOf state.recurrentStateKeys submodule := by
  cases submodule with
  | cardId => exact set_inserted _ _ _
  | noteId => exact set_inserted _ _ _
  | deckId => exact set_inserted _ _ _
  | presetId => exact set_inserted _ _ _

theorem count_up (count : Nat) : Int64.ofNat count + 1 = Int64.ofNat (count + 1) := by
  rw [Int64.ofNat_add]
  rfl

theorem day_restarted (reviews : Int64) :
    (if false = true then reviews else -1) + 1 = Int64.ofNat 0 := by
  rw [if_neg Bool.false_ne_true]
  rfl

/-- The counters of the day go up by one review, or start over with a new day. -/
theorem today_recorded {length : Nat} {cardId : Int64} {elapsedDays elapsedSeconds dayOffset : F}
    (counted : ∃ reviews newCards : Nat, before.todayReviews = Int64.ofNat reviews ∧
      before.todayNewCards = Int64.ofNat newCards ∧ newCards ≤ reviews + 1 ∧ reviews ≤ length) :
    ∃ reviews newCards : Nat,
      (recordProcessedValues cardId elapsedDays elapsedSeconds dayOffset before).todayReviews =
        Int64.ofNat reviews ∧
      (recordProcessedValues cardId elapsedDays elapsedSeconds dayOffset before).todayNewCards =
        Int64.ofNat newCards ∧ newCards ≤ reviews + 1 ∧ reviews ≤ length + 1 := by
  obtain ⟨reviews, newCards, reviewed, introduced, bound, long⟩ := counted
  rw [recordProcessedValues]
  dsimp only
  rw [reviewed, introduced]
  cases eq dayOffset before.today with
  | true =>
      by_cases known : cardId ∈ before.cardSet
      · refine ⟨reviews + 1, newCards, count_up reviews, ?_, by omega, by omega⟩
        simp [known]
      · refine ⟨reviews + 1, newCards + 1, count_up reviews, ?_, by omega, by omega⟩
        simp [known]
  | false =>
      by_cases known : cardId ∈ before.cardSet
      · refine ⟨0, 0, day_restarted _, ?_, by omega, by omega⟩
        simp [known]
      · refine ⟨0, 1, day_restarted _, ?_, by omega, by omega⟩
        simp [known]

theorem follows_processes {history : History F} {input : ReviewInput F}
    (follows : FollowsHistory history before) (processes : Processes input before after) :
    FollowsHistory (input :: history) after := by
  obtain ⟨encodings, reached, drawn, made⟩ := processes
  have draws := encode_all_draws drawn
  have sized := encode_all_sized follows.sized drawn
  have identities := draws_identities draws
  have generator := draws.generator follows.generator
  obtain ⟨stored, rng, rest⟩ : ∃ stored rng,
      reached = { before with idEncodings := stored, idRng := rng } := ⟨_, _, draws.rest⟩
  subst rest made
  have known : input.cardId ∈ before.cardSet ↔ input.cardId ∈ cardsOf history := follows.cards _
  have counted : (if input.cardId ∈ before.cardSet then before.cardCount
      else before.cardCount + 1) = UInt64.ofNat (cardsSeen (cardsOf (input :: history))) := by
    rw [cardsOf, List.map_cons, cards_seen_cons, ← cardsOf, follows.counted]
    by_cases seen : input.cardId ∈ cardsOf history
    · rw [if_pos (known.mpr seen), if_pos seen, Nat.add_zero]
    · rw [if_neg (fun held => seen (known.mp held)), if_neg seen, UInt64.ofNat_add]
      rfl
  have keyed : ∀ {Value : Type} {map : ExtTreeMap Int64 Value} (value : Value),
      (∀ cardId, cardId ∈ map ↔ cardId ∈ cardsOf history) →
        ∀ cardId, cardId ∈ map.insert input.cardId value ↔ cardId ∈ cardsOf (input :: history) := by
    intro Value map value same
    exact follows_key .cardId input same fun cardId => key_inserted _ _ _ _
  apply FollowsHistory.mk
  case firstDay => rfl
  case previousDay => rfl
  case cards =>
    exact follows_key .cardId input follows.cards fun cardId => set_inserted _ _ _
  case counted => exact counted
  case lastNewCards =>
    intro cardId
    apply (entry_inserted _ _ _ _).trans
    rw [cardsOf, List.map_cons, cardsAtLast]
    by_cases here : input.cardId = cardId
    · rw [if_pos here, Option.map_some, ← List.map_cons, ← cardsOf, ← counted]
      exact if_pos here
    · rw [if_neg here]
      exact (if_neg here).trans (follows.lastNewCards cardId)
  case index =>
    exact (congrArg (· + 1) follows.index).trans (count_up _)
  case lastIndices =>
    intro cardId
    apply (entry_inserted _ _ _ _).trans
    rw [cardsOf, List.map_cons, lastIndex, List.length_map]
    by_cases here : input.cardId = cardId
    · rw [if_pos here, Option.map_some, ← follows.index]
      exact if_pos here
    · rw [if_neg here]
      exact (if_neg here).trans (follows.lastIndices cardId)
  case today => exact today_recorded follows.today
  case firstDays =>
    intro cardId
    by_cases seen : input.cardId ∈ before.cardSet
    · have same : cardId ∈ cardsOf (input :: history) ↔ cardId ∈ cardsOf history := by
        rw [cardsOf, List.map_cons, List.mem_cons, ← cardsOf]
        constructor
        · intro either
          rcases either with here | there
          · exact here ▸ known.mp seen
          · exact there
        · exact Or.inr
      rw [same, ← follows.firstDays cardId]
      exact iff_of_eq (congrArg (cardId ∈ ·) (if_pos seen))
    · have inserted := keyed ((reviewValues before input).dayOffset -
        before.firstDayOffset.getD (reviewValues before input).dayOffset) follows.firstDays cardId
      rw [← inserted]
      exact iff_of_eq (congrArg (cardId ∈ ·) (if_neg seen))
  case elapsedDays => exact keyed _ follows.elapsedDays
  case elapsedSeconds => exact keyed _ follows.elapsedSeconds
  case encoded =>
    intro submodule
    exact follows_key submodule input (follows.encoded submodule) (identities submodule)
  case sized => exact sized
  case recurrent =>
    intro submodule
    exact follows_key submodule input (follows.recurrent submodule) (recorded_keys _ _ _)
  case globalState => rfl
  case generator => exact generator

/-- What the feature state keeps of the days and times of a history. -/
structure DatesHistory (history : History F) (state : FeatureState F V) : Prop where
  firstDay : state.firstDayOffset = firstDay history
  previousDay : state.prevDayOffset = lastDay history
  today : state.today = today history
  todayReviews : state.todayReviews = Int64.ofNat (reviewsToday history)
  todayNewCards : state.todayNewCards = Int64.ofNat (newCardsToday history)
  firstDays : ∀ cardId : Int64, state.card2firstDayOffset[cardId]? = firstDayOf history cardId
  elapsedDays : ∀ cardId : Int64,
    state.card2elapsedDaysCumulative[cardId]? = elapsedTotal ReviewInput.elapsedDays history cardId
  elapsedSeconds : ∀ cardId : Int64, state.card2elapsedSecondsCumulative[cardId]? =
    elapsedTotal ReviewInput.elapsedSeconds history cardId
  drawn : ∀ (submodule : IdSubmodule) (id : Int64) (encoding : List V),
    (state.idEncodings submodule)[id]? = some encoding → ∀ value ∈ encoding, Centred value

theorem seeded_dates (torchSeed : UInt64) :
    DatesHistory [] (withTorchSeed torchSeed : FeatureState F V) := by
  apply DatesHistory.mk
  case firstDays =>
    intro cardId
    simp [withTorchSeed, firstDayOf]
  case elapsedDays =>
    intro cardId
    simp [withTorchSeed, elapsedTotal]
  case elapsedSeconds =>
    intro cardId
    simp [withTorchSeed, elapsedTotal]
  case drawn =>
    intro submodule id encoding found
    simp [withTorchSeed, emptyIdEncodings] at found
  all_goals rfl

theorem review_day_recorded {history : History F} (dates : DatesHistory history before)
    (input : ReviewInput F) : (reviewValues before input).dayOffset = reviewDay history input := by
  rw [reviewDay, ← dates.firstDay]
  rfl

theorem dates_processes {history : History F} {input : ReviewInput F}
    (follows : FollowsHistory history before) (dates : DatesHistory history before)
    (processes : Processes input before after) : DatesHistory (input :: history) after := by
  obtain ⟨encodings, reached, drawn, made⟩ := processes
  have draws := encode_all_draws drawn
  have stays := draws.drawn
  obtain ⟨stored, rng, rest⟩ : ∃ stored rng,
      reached = { before with idEncodings := stored, idRng := rng } := ⟨_, _, draws.rest⟩
  subst rest made
  have day := review_day_recorded dates input
  have known : input.cardId ∈ before.cardSet ↔ input.cardId ∈ cardsOf history := follows.cards _
  have same : eq (reviewValues before input).dayOffset before.today = sameDay history input := by
    rw [day, dates.today, sameDay]
  have first : before.firstDayOffset.getD (reviewValues before input).dayOffset =
      (firstDay history).getD (reviewDay history input) := by
    rw [day, dates.firstDay]
  have summed : ∀ {map : ExtTreeMap Int64 F} {elapsed : ReviewInput F → F},
      (∀ cardId : Int64, map[cardId]? = elapsedTotal elapsed history cardId) →
        ∀ cardId : Int64, (addElapsed map input.cardId (elapsed input))[cardId]? =
          elapsedTotal elapsed (input :: history) cardId := by
    intro map elapsed totals cardId
    rw [addElapsed, entry_inserted, elapsedTotal, totals, totals]
    by_cases here : input.cardId = cardId
    · rw [if_pos here, if_pos here, here]
    · rw [if_neg here, if_neg here]
  apply DatesHistory.mk
  case firstDay =>
    change some (before.firstDayOffset.getD _) = firstDay (input :: history)
    rw [first]
    cases history with
    | nil => rfl
    | cons other earlier => rfl
  case previousDay =>
    change some (reviewValues before input).dayOffset = _
    rw [day, lastDay]
  case today =>
    change (if eq (reviewValues before input).dayOffset before.today then before.today
      else (reviewValues before input).dayOffset) = _
    rw [day, dates.today, today]
  case todayReviews =>
    change (if eq (reviewValues before input).dayOffset before.today then before.todayReviews
      else -1) + 1 = _
    rw [same, reviewsToday]
    cases sameDay history input with
    | true => exact (congrArg (· + 1) dates.todayReviews).trans (count_up _)
    | false => exact day_restarted _
  case todayNewCards =>
    change (if input.cardId ∈ before.cardSet then
        (if eq (reviewValues before input).dayOffset before.today then before.todayNewCards else 0)
      else (if eq (reviewValues before input).dayOffset before.today then before.todayNewCards
        else 0) + 1) = _
    have carried : (if sameDay history input then before.todayNewCards else 0) =
        Int64.ofNat (if sameDay history input then newCardsToday history else 0) := by
      cases sameDay history input with
      | true => exact dates.todayNewCards
      | false => rfl
    rw [same, carried, newCardsToday]
    by_cases seen : input.cardId ∈ cardsOf history
    · rw [if_pos (known.mpr seen), if_pos seen, Nat.add_zero]
    · rw [if_neg (fun held => seen (known.mp held)), if_neg seen, count_up]
  case firstDays =>
    intro cardId
    rw [firstDayOf]
    change (if input.cardId ∈ before.cardSet then before.card2firstDayOffset
      else before.card2firstDayOffset.insert input.cardId ((reviewValues before input).dayOffset -
        before.firstDayOffset.getD (reviewValues before input).dayOffset))[cardId]? = _
    rw [first, day]
    by_cases seen : input.cardId ∈ cardsOf history
    · rw [if_pos (known.mpr seen), if_neg (fun both => both.2 seen)]
      exact dates.firstDays cardId
    · rw [if_neg (fun held => seen (known.mp held)), entry_inserted, dates.firstDays cardId]
      by_cases here : input.cardId = cardId
      · rw [if_pos here, if_pos ⟨here, seen⟩]
      · rw [if_neg here, if_neg (fun both => here both.1)]
  case elapsedDays => exact summed dates.elapsedDays
  case elapsedSeconds => exact summed dates.elapsedSeconds
  case drawn =>
    intro submodule id encoding found
    rcases stays submodule id encoding found with there | new
    · exact dates.drawn submodule id encoding there
    · exact new.2.2

theorem map_size {Value : Type} {map : ExtTreeMap Int64 Value} {ids : List Int64}
    (same : ∀ id, id ∈ map ↔ id ∈ ids) : map.size = ids.dedup.length := by
  rw [← ExtTreeMap.length_keys]
  apply List.Perm.length_eq
  apply (List.perm_ext_iff_of_nodup ExtTreeMap.nodup_keys ids.nodup_dedup).mpr
  intro id
  rw [ExtTreeMap.mem_keys, List.mem_dedup, same]

theorem set_size {set : ExtTreeSet Int64} {ids : List Int64} (same : ∀ id, id ∈ set ↔ id ∈ ids) :
    set.size = ids.dedup.length := by
  rw [← ExtTreeSet.length_toList]
  apply List.Perm.length_eq
  apply (List.perm_ext_iff_of_nodup _ ids.nodup_dedup).mpr
  · intro id
    rw [ExtTreeSet.mem_toList, List.mem_dedup, same]
  · have distinct := @ExtTreeSet.distinct_toList _ _ set _
    apply distinct.imp
    intro first second different equal
    exact different (LawfulEqCmp.compare_eq_iff_eq.mpr equal)

/-- What the maps and counters of a feature state owe to each other. -/
structure CoherentFeatures (state : FeatureState F V) : Prop where
  counted : state.cardCount.toNat = state.cardSet.size
  lastNewCards : ∀ cardId, cardId ∈ state.lastNewCards ↔ cardId ∈ state.cardSet
  lastIndices : ∀ cardId, cardId ∈ state.lastI ↔ cardId ∈ state.cardSet
  firstDays : ∀ cardId, cardId ∈ state.card2firstDayOffset ↔ cardId ∈ state.cardSet
  elapsedDays : ∀ cardId, cardId ∈ state.card2elapsedDaysCumulative ↔ cardId ∈ state.cardSet
  elapsedSeconds : ∀ cardId, cardId ∈ state.card2elapsedSecondsCumulative ↔ cardId ∈ state.cardSet
  encoded : ∀ cardId, cardId ∈ state.idEncodings .cardId ↔ cardId ∈ state.cardSet
  recurrent : ∀ submodule id,
    id ∈ keysOf state.recurrentStateKeys submodule ↔ id ∈ state.idEncodings submodule
  sized : EncodingsSized state
  newCards : ∀ (cardId : Int64) (count : UInt64), state.lastNewCards[cardId]? = some count →
    1 ≤ count ∧ count ≤ state.cardCount
  indices : ∀ cardId index : Int64, state.lastI[cardId]? = some index → 0 ≤ index ∧ index < state.i
  apart : ∀ first second index : Int64, state.lastI[first]? = some index →
    state.lastI[second]? = some index → first = second
  today : 0 ≤ state.todayReviews ∧ 0 ≤ state.todayNewCards ∧
    state.todayNewCards ≤ state.todayReviews + 1
  generator : Seeded state.idRng

theorem small_word {count : Nat} (small : count < 2 ^ 63) : (UInt64.ofNat count).toNat = count := by
  apply UInt64.toNat_ofNat_of_lt'
  rw [UInt64.size]
  omega

theorem counts_ordered {first second : Nat} (ordered : first ≤ second) (small : second < 2 ^ 63) :
    Int64.ofNat first ≤ Int64.ofNat second := by
  rw [Int64.le_iff_toInt_le, Int64.toInt_ofNat_of_lt (by omega), Int64.toInt_ofNat_of_lt small]
  omega

theorem counts_below {first second : Nat} (below : first < second) (small : second < 2 ^ 63) :
    Int64.ofNat first < Int64.ofNat second := by
  rw [Int64.lt_iff_toInt_lt, Int64.toInt_ofNat_of_lt (by omega), Int64.toInt_ofNat_of_lt small]
  omega

theorem follows_coherent {history : History F} {state : FeatureState F V}
    (follows : FollowsHistory history state) (short : history.length + 1 < 2 ^ 63) :
    CoherentFeatures state := by
  have seen : cardsSeen (cardsOf history) < 2 ^ 63 := by
    have bound := cards_seen_le (cardsOf history)
    rw [cardsOf, List.length_map, ← cardsOf] at bound
    omega
  have carded : ∀ {member : Int64 → Prop}, (∀ id, member id ↔ id ∈ cardsOf history) →
      ∀ id, member id ↔ id ∈ state.cardSet := by
    intro member same id
    rw [same, follows.cards]
  have looked : ∀ {Value : Type} {map : ExtTreeMap Int64 Value} {last : Int64 → Option Nat}
      {convert : Nat → Value}, (∀ cardId : Int64, map[cardId]? = (last cardId).map convert) →
        (∀ cardId, (last cardId).isSome ↔ cardId ∈ cardsOf history) →
          ∀ cardId, cardId ∈ map ↔ cardId ∈ cardsOf history := by
    intro Value map last convert entries listed cardId
    rw [ExtTreeMap.mem_iff_isSome_getElem?, entries, Option.isSome_map, listed]
  apply CoherentFeatures.mk
  case counted => rw [follows.counted, small_word seen, set_size follows.cards, cardsSeen]
  case lastNewCards => exact carded (looked follows.lastNewCards (cards_at_last_some _))
  case lastIndices => exact carded (looked follows.lastIndices (last_index_some _))
  case firstDays => exact carded follows.firstDays
  case elapsedDays => exact carded follows.elapsedDays
  case elapsedSeconds => exact carded follows.elapsedSeconds
  case encoded => exact carded (follows.encoded .cardId)
  case recurrent =>
    intro submodule id
    rw [follows.recurrent, follows.encoded]
  case sized => exact follows.sized
  case newCards =>
    intro cardId count found
    rw [follows.lastNewCards, Option.map_eq_some_iff] at found
    obtain ⟨seenThen, last, same⟩ := found
    obtain ⟨positive, bound⟩ := cards_at_last_bounds last
    rw [← same, follows.counted, UInt64.le_iff_toNat_le, UInt64.le_iff_toNat_le,
      small_word (by omega), small_word seen]
    exact ⟨positive, bound⟩
  case indices =>
    intro cardId index found
    rw [follows.lastIndices, Option.map_eq_some_iff] at found
    obtain ⟨place, last, same⟩ := found
    have inside := last_index_lt last
    rw [cardsOf, List.length_map] at inside
    rw [← same, follows.index]
    exact ⟨counts_ordered (Nat.zero_le place) (by omega), counts_below inside (by omega)⟩
  case apart =>
    intro first second index firstFound secondFound
    rw [follows.lastIndices, Option.map_eq_some_iff] at firstFound secondFound
    obtain ⟨firstPlace, firstLast, firstSame⟩ := firstFound
    obtain ⟨secondPlace, secondLast, secondSame⟩ := secondFound
    have firstInside := last_index_lt firstLast
    have secondInside := last_index_lt secondLast
    rw [cardsOf, List.length_map] at firstInside secondInside
    have places : firstPlace = secondPlace := by
      have equal := congrArg Int64.toInt (firstSame.trans secondSame.symm)
      rw [Int64.toInt_ofNat_of_lt (by omega), Int64.toInt_ofNat_of_lt (by omega)] at equal
      omega
    rw [← places] at secondLast
    exact last_index_card firstLast secondLast
  case today =>
    obtain ⟨reviews, newCards, reviewed, introduced, bound, long⟩ := follows.today
    rw [reviewed, introduced, count_up]
    exact ⟨counts_ordered (Nat.zero_le _) (by omega), counts_ordered (Nat.zero_le _) (by omega),
      counts_ordered bound (by omega)⟩
  case generator => exact follows.generator

end RwkvSrs.HistoryFeatures
