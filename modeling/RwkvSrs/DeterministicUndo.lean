import RwkvSrs.DeterministicState

/-!
Undo journals of the feature state. A journal stores the process-wide scalars
and the generator whole and every per-identity entry only for the identities it
was captured for, so restoring it is exact on every state that differs from the
captured one at those identities alone.
-/

namespace RwkvSrs.DeterministicUndo

open Std RwkvSrs.TorchRng RwkvSrs.DeterministicState

set_option autoImplicit false

variable {F V Value : Type}

def restoreMapEntry (map : ExtTreeMap Int64 Value) (key : Int64) (previous : Option Value) :
    ExtTreeMap Int64 Value :=
  match previous with
  | some value => map.insert key value
  | none => map.erase key

def restoreSetEntry (set : ExtTreeSet Int64) (key : Int64) (wasPresent : Bool) :
    ExtTreeSet Int64 :=
  if wasPresent then set.insert key else set.erase key

def captureMapEntries (map : ExtTreeMap Int64 Value) (keys : ExtTreeSet Int64) :
    List (Int64 × Option Value) :=
  keys.toList.map fun key => (key, map[key]?)

def restoreMapEntries (map : ExtTreeMap Int64 Value) (entries : List (Int64 × Option Value)) :
    ExtTreeMap Int64 Value :=
  entries.foldl (fun map entry => restoreMapEntry map entry.1 entry.2) map

def captureSetEntries (set keys : ExtTreeSet Int64) : List (Int64 × Bool) :=
  keys.toList.map fun key => (key, decide (key ∈ set))

def restoreSetEntries (set : ExtTreeSet Int64) (entries : List (Int64 × Bool)) :
    ExtTreeSet Int64 :=
  entries.foldl (fun set entry => restoreSetEntry set entry.1 entry.2) set

@[simp] theorem restore_map_entry_lookup (map : ExtTreeMap Int64 Value) (key other : Int64)
    (previous : Option Value) :
    (restoreMapEntry map key previous)[other]? = if key = other then previous else map[other]? := by
  cases previous with
  | some value => simp [restoreMapEntry, ExtTreeMap.getElem?_insert]
  | none =>
      simp only [restoreMapEntry, ExtTreeMap.getElem?_erase]
      by_cases same : key = other
      · simp [same]
      · simp [same]

@[simp] theorem mem_restore_set_entry (set : ExtTreeSet Int64) (key other : Int64)
    (wasPresent : Bool) :
    other ∈ restoreSetEntry set key wasPresent ↔
      if key = other then wasPresent = true else other ∈ set := by
  by_cases same : key = other
  · subst same
    cases wasPresent <;> simp [restoreSetEntry]
  · cases wasPresent <;> simp [restoreSetEntry, same]

theorem restored_lookup (map other : ExtTreeMap Int64 Value) (keys : List Int64) (id : Int64) :
    (keys.foldl (fun map' key => restoreMapEntry map' key map[key]?) other)[id]? =
      if id ∈ keys then map[id]? else other[id]? := by
  induction keys generalizing other with
  | nil => simp
  | cons key keys ih =>
      rw [List.foldl_cons, ih]
      by_cases later : id ∈ keys
      · simp [later]
      · by_cases here : key = id
        · subst here
          simp [later]
        · simp [later, here, Ne.symm here]

theorem mem_restored (set other : ExtTreeSet Int64) (keys : List Int64) (id : Int64) :
    id ∈ keys.foldl (fun set' key => restoreSetEntry set' key (decide (key ∈ set))) other ↔
      if id ∈ keys then id ∈ set else id ∈ other := by
  induction keys generalizing other with
  | nil => simp
  | cons key keys ih =>
      rw [List.foldl_cons, ih]
      by_cases later : id ∈ keys
      · simp [later]
      · by_cases here : key = id
        · subst here
          simp [later]
        · simp [later, here, Ne.symm here]

theorem restored_map {map other : ExtTreeMap Int64 Value} {keys : ExtTreeSet Int64}
    (agree : ∀ id, id ∉ keys → map[id]? = other[id]?) :
    keys.toList.foldl (fun map' key => restoreMapEntry map' key map[key]?) other = map := by
  apply ExtTreeMap.ext_getElem?
  intro id
  rw [restored_lookup]
  by_cases captured : id ∈ keys
  · rw [if_pos (ExtTreeSet.mem_toList.mpr captured)]
  · rw [if_neg (fun member => captured (ExtTreeSet.mem_toList.mp member)), agree id captured]

theorem restored_set {set other keys : ExtTreeSet Int64}
    (agree : ∀ id, id ∉ keys → (id ∈ set ↔ id ∈ other)) :
    keys.toList.foldl (fun set' key => restoreSetEntry set' key (decide (key ∈ set))) other =
      set := by
  apply ExtTreeSet.ext_mem
  intro id
  rw [mem_restored]
  by_cases captured : id ∈ keys
  · rw [if_pos (ExtTreeSet.mem_toList.mpr captured)]
  · rw [if_neg (fun member => captured (ExtTreeSet.mem_toList.mp member)), agree id captured]

theorem restore_map_entries_exact {map other : ExtTreeMap Int64 Value} {keys : ExtTreeSet Int64}
    (agree : ∀ id, id ∉ keys → map[id]? = other[id]?) :
    restoreMapEntries other (captureMapEntries map keys) = map := by
  rw [restoreMapEntries, captureMapEntries, List.foldl_map]
  exact restored_map agree

theorem restore_set_entries_exact {set other keys : ExtTreeSet Int64}
    (agree : ∀ id, id ∉ keys → (id ∈ set ↔ id ∈ other)) :
    restoreSetEntries other (captureSetEntries set keys) = set := by
  rw [restoreSetEntries, captureSetEntries, List.foldl_map]
  exact restored_set agree

structure BatchIdentitySets where
  cardIds : ExtTreeSet Int64
  noteIds : ExtTreeSet Int64
  deckIds : ExtTreeSet Int64
  presetIds : ExtTreeSet Int64

def BatchIdentitySets.empty : BatchIdentitySets := ⟨∅, ∅, ∅, ∅⟩

def BatchIdentitySets.insert (identities : BatchIdentitySets) (ids : ReviewIds) :
    BatchIdentitySets where
  cardIds := identities.cardIds.insert ids.1
  noteIds := identities.noteIds.insert ids.2.1
  deckIds := identities.deckIds.insert ids.2.2.1
  presetIds := identities.presetIds.insert ids.2.2.2

def BatchIdentitySets.fromIds (ids : List ReviewIds) : BatchIdentitySets :=
  ids.foldl BatchIdentitySets.insert BatchIdentitySets.empty

def BatchIdentitySets.of (identities : BatchIdentitySets) : IdSubmodule → ExtTreeSet Int64
  | .cardId => identities.cardIds
  | .noteId => identities.noteIds
  | .deckId => identities.deckIds
  | .presetId => identities.presetIds

structure IdEncodingUndoEntry (V : Type) where
  submodule : IdSubmodule
  id : Int64
  previous : Option (List V)

structure BatchCardUndoEntry (F : Type) where
  cardId : Int64
  cardSetContains : Bool
  lastNewCards : Option UInt64
  lastI : Option Int64
  card2firstDayOffset : Option F
  card2elapsedDaysCumulative : Option F
  card2elapsedSecondsCumulative : Option F

structure BatchRecurrentKeyUndoFrame where
  cardStates : List (Int64 × Bool)
  noteStates : List (Int64 × Bool)
  deckStates : List (Int64 × Bool)
  presetStates : List (Int64 × Bool)
  globalStatePresent : Bool

structure BatchDeterministicUndoFrame (F V : Type) where
  firstDayOffset : Option F
  prevDayOffset : Option F
  cardCount : UInt64
  i : Int64
  today : F
  todayReviews : Int64
  todayNewCards : Int64
  cards : List (BatchCardUndoEntry F)
  idEncodings : List (IdEncodingUndoEntry V)
  recurrentKeys : BatchRecurrentKeyUndoFrame
  idRng : TorchMt19937

def captureCard (deterministic : FeatureState F V) (cardId : Int64) : BatchCardUndoEntry F where
  cardId := cardId
  cardSetContains := decide (cardId ∈ deterministic.cardSet)
  lastNewCards := deterministic.lastNewCards[cardId]?
  lastI := deterministic.lastI[cardId]?
  card2firstDayOffset := deterministic.card2firstDayOffset[cardId]?
  card2elapsedDaysCumulative := deterministic.card2elapsedDaysCumulative[cardId]?
  card2elapsedSecondsCumulative := deterministic.card2elapsedSecondsCumulative[cardId]?

def captureEncodings (deterministic : FeatureState F V) (identities : BatchIdentitySets)
    (submodule : IdSubmodule) : List (IdEncodingUndoEntry V) :=
  (identities.of submodule).toList.map fun id =>
    ⟨submodule, id, (deterministic.idEncodings submodule)[id]?⟩

def captureIdentities (deterministic : FeatureState F V) (identities : BatchIdentitySets) :
    BatchDeterministicUndoFrame F V where
  firstDayOffset := deterministic.firstDayOffset
  prevDayOffset := deterministic.prevDayOffset
  cardCount := deterministic.cardCount
  i := deterministic.i
  today := deterministic.today
  todayReviews := deterministic.todayReviews
  todayNewCards := deterministic.todayNewCards
  cards := identities.cardIds.toList.map (captureCard deterministic)
  idEncodings := idSubmodules.flatMap (captureEncodings deterministic identities)
  recurrentKeys := {
    cardStates :=
      captureSetEntries deterministic.recurrentStateKeys.cardStates identities.cardIds
    noteStates :=
      captureSetEntries deterministic.recurrentStateKeys.noteStates identities.noteIds
    deckStates :=
      captureSetEntries deterministic.recurrentStateKeys.deckStates identities.deckIds
    presetStates :=
      captureSetEntries deterministic.recurrentStateKeys.presetStates identities.presetIds
    globalStatePresent := deterministic.recurrentStateKeys.globalState }
  idRng := deterministic.idRng

def BatchDeterministicUndoFrame.capture (deterministic : FeatureState F V)
    (ids : List ReviewIds) : BatchDeterministicUndoFrame F V :=
  captureIdentities deterministic (BatchIdentitySets.fromIds ids)

def restoreCard (deterministic : FeatureState F V) (entry : BatchCardUndoEntry F) :
    FeatureState F V :=
  { deterministic with
    cardSet := restoreSetEntry deterministic.cardSet entry.cardId entry.cardSetContains
    lastNewCards := restoreMapEntry deterministic.lastNewCards entry.cardId entry.lastNewCards
    lastI := restoreMapEntry deterministic.lastI entry.cardId entry.lastI
    card2firstDayOffset :=
      restoreMapEntry deterministic.card2firstDayOffset entry.cardId entry.card2firstDayOffset
    card2elapsedDaysCumulative := restoreMapEntry deterministic.card2elapsedDaysCumulative
      entry.cardId entry.card2elapsedDaysCumulative
    card2elapsedSecondsCumulative := restoreMapEntry deterministic.card2elapsedSecondsCumulative
      entry.cardId entry.card2elapsedSecondsCumulative }

def restoreEncoding (encodings : IdEncodings V) (entry : IdEncodingUndoEntry V) : IdEncodings V :=
  fun submodule =>
    if submodule = entry.submodule then
      restoreMapEntry (encodings submodule) entry.id entry.previous
    else encodings submodule

def BatchDeterministicUndoFrame.restore (frame : BatchDeterministicUndoFrame F V)
    (deterministic : FeatureState F V) : FeatureState F V :=
  let scalars := { deterministic with
    firstDayOffset := frame.firstDayOffset
    prevDayOffset := frame.prevDayOffset
    cardCount := frame.cardCount
    i := frame.i
    today := frame.today
    todayReviews := frame.todayReviews
    todayNewCards := frame.todayNewCards }
  let cards := frame.cards.foldl restoreCard scalars
  { cards with
    idEncodings := frame.idEncodings.foldl restoreEncoding cards.idEncodings
    idRng := frame.idRng
    recurrentStateKeys := {
      cardStates :=
        restoreSetEntries cards.recurrentStateKeys.cardStates frame.recurrentKeys.cardStates
      noteStates :=
        restoreSetEntries cards.recurrentStateKeys.noteStates frame.recurrentKeys.noteStates
      deckStates :=
        restoreSetEntries cards.recurrentStateKeys.deckStates frame.recurrentKeys.deckStates
      presetStates :=
        restoreSetEntries cards.recurrentStateKeys.presetStates frame.recurrentKeys.presetStates
      globalState := frame.recurrentKeys.globalStatePresent } }

structure AgreeOutside (identities : BatchIdentitySets) (before after : FeatureState F V) :
    Prop where
  cardSet : ∀ id, id ∉ identities.cardIds → (id ∈ before.cardSet ↔ id ∈ after.cardSet)
  lastNewCards : ∀ id, id ∉ identities.cardIds →
    before.lastNewCards[id]? = after.lastNewCards[id]?
  lastI : ∀ id, id ∉ identities.cardIds → before.lastI[id]? = after.lastI[id]?
  firstDayOffsets : ∀ id, id ∉ identities.cardIds →
    before.card2firstDayOffset[id]? = after.card2firstDayOffset[id]?
  elapsedDays : ∀ id, id ∉ identities.cardIds →
    before.card2elapsedDaysCumulative[id]? = after.card2elapsedDaysCumulative[id]?
  elapsedSeconds : ∀ id, id ∉ identities.cardIds →
    before.card2elapsedSecondsCumulative[id]? = after.card2elapsedSecondsCumulative[id]?
  encodings : ∀ submodule id, id ∉ identities.of submodule →
    (before.idEncodings submodule)[id]? = (after.idEncodings submodule)[id]?
  cardStates : ∀ id, id ∉ identities.cardIds →
    (id ∈ before.recurrentStateKeys.cardStates ↔ id ∈ after.recurrentStateKeys.cardStates)
  noteStates : ∀ id, id ∉ identities.noteIds →
    (id ∈ before.recurrentStateKeys.noteStates ↔ id ∈ after.recurrentStateKeys.noteStates)
  deckStates : ∀ id, id ∉ identities.deckIds →
    (id ∈ before.recurrentStateKeys.deckStates ↔ id ∈ after.recurrentStateKeys.deckStates)
  presetStates : ∀ id, id ∉ identities.presetIds →
    (id ∈ before.recurrentStateKeys.presetStates ↔ id ∈ after.recurrentStateKeys.presetStates)

namespace AgreeOutside

variable {identities wider : BatchIdentitySets} {before middle after : FeatureState F V}

theorem refl (state : FeatureState F V) : AgreeOutside identities state state := by
  constructor <;> intros <;> rfl

theorem trans (first : AgreeOutside identities before middle)
    (second : AgreeOutside identities middle after) : AgreeOutside identities before after where
  cardSet id outside := (first.cardSet id outside).trans (second.cardSet id outside)
  lastNewCards id outside := (first.lastNewCards id outside).trans (second.lastNewCards id outside)
  lastI id outside := (first.lastI id outside).trans (second.lastI id outside)
  firstDayOffsets id outside :=
    (first.firstDayOffsets id outside).trans (second.firstDayOffsets id outside)
  elapsedDays id outside := (first.elapsedDays id outside).trans (second.elapsedDays id outside)
  elapsedSeconds id outside :=
    (first.elapsedSeconds id outside).trans (second.elapsedSeconds id outside)
  encodings submodule id outside :=
    (first.encodings submodule id outside).trans (second.encodings submodule id outside)
  cardStates id outside := (first.cardStates id outside).trans (second.cardStates id outside)
  noteStates id outside := (first.noteStates id outside).trans (second.noteStates id outside)
  deckStates id outside := (first.deckStates id outside).trans (second.deckStates id outside)
  presetStates id outside :=
    (first.presetStates id outside).trans (second.presetStates id outside)

end AgreeOutside

theorem restored_cards (cards : List Int64) (saved state : FeatureState F V) :
    (cards.map (captureCard saved)).foldl restoreCard state =
      { state with
        cardSet := cards.foldl (fun set id =>
          restoreSetEntry set id (decide (id ∈ saved.cardSet))) state.cardSet
        lastNewCards := cards.foldl (fun map id =>
          restoreMapEntry map id saved.lastNewCards[id]?) state.lastNewCards
        lastI := cards.foldl (fun map id => restoreMapEntry map id saved.lastI[id]?) state.lastI
        card2firstDayOffset := cards.foldl (fun map id =>
          restoreMapEntry map id saved.card2firstDayOffset[id]?) state.card2firstDayOffset
        card2elapsedDaysCumulative := cards.foldl (fun map id =>
          restoreMapEntry map id saved.card2elapsedDaysCumulative[id]?)
          state.card2elapsedDaysCumulative
        card2elapsedSecondsCumulative := cards.foldl (fun map id =>
          restoreMapEntry map id saved.card2elapsedSecondsCumulative[id]?)
          state.card2elapsedSecondsCumulative } := by
  induction cards generalizing state with
  | nil => rfl
  | cons card cards ih =>
      rw [List.map_cons, List.foldl_cons, ih]
      rfl

theorem restored_encodings_of (identities : BatchIdentitySets) (saved : FeatureState F V)
    (encodings : IdEncodings V) (submodule other : IdSubmodule) :
    (captureEncodings saved identities submodule).foldl restoreEncoding encodings other =
      if other = submodule then
        (identities.of submodule).toList.foldl (fun map id =>
          restoreMapEntry map id (saved.idEncodings submodule)[id]?) (encodings submodule)
      else encodings other := by
  rw [captureEncodings]
  generalize (identities.of submodule).toList = ids
  induction ids generalizing encodings with
  | nil =>
      by_cases same : other = submodule
      · subst same
        simp
      · simp [same]
  | cons id ids ih =>
      rw [List.map_cons, List.foldl_cons, ih]
      by_cases same : other = submodule
      · subst same
        simp [restoreEncoding]
      · simp [restoreEncoding, same]

theorem restored_encodings {identities : BatchIdentitySets} {saved after : FeatureState F V}
    (agree : AgreeOutside identities saved after) :
    (idSubmodules.flatMap (captureEncodings saved identities)).foldl restoreEncoding
      after.idEncodings = saved.idEncodings := by
  funext submodule
  simp only [idSubmodules, List.flatMap_cons, List.flatMap_nil, List.append_nil, List.foldl_append,
    restored_encodings_of]
  cases submodule <;> simp <;> apply restored_map <;> exact agree.encodings _

theorem restore_capture {identities : BatchIdentitySets} {saved after : FeatureState F V}
    (agree : AgreeOutside identities saved after) :
    (captureIdentities saved identities).restore after = saved := by
  simp only [BatchDeterministicUndoFrame.restore, captureIdentities, restored_cards,
    restored_set agree.cardSet, restored_map agree.lastNewCards, restored_map agree.lastI,
    restored_map agree.firstDayOffsets, restored_map agree.elapsedDays,
    restored_map agree.elapsedSeconds, restored_encodings agree,
    restore_set_entries_exact agree.cardStates, restore_set_entries_exact agree.noteStates,
    restore_set_entries_exact agree.deckStates, restore_set_entries_exact agree.presetStates]

end RwkvSrs.DeterministicUndo
