import RwkvSrs.BatchAtomicity

/-!
The undo frame of one review. It saves the process-wide scalars and the
generator whole, and of every map and set only the entry of the review's own
identity. Restoring it is exact on each state that differs from the captured one
at these identities alone.
-/

namespace RwkvSrs.ReviewUndo

open Std RwkvSrs.FallibleMethod RwkvSrs.TorchRng RwkvSrs.DeterministicState
open RwkvSrs.DeterministicUndo RwkvSrs.DeterministicTouch RwkvSrs.ModuleState
open RwkvSrs.NativeRnnState RwkvSrs.BatchJournal RwkvSrs.FeatureScaling

set_option autoImplicit false
set_option linter.unusedSectionVars false

variable {F V : Type}

structure RecurrentUndoFrame (V : Type) where
  ids : ReviewIds
  states : EntityModule → Option (NativeRnnModuleState V)
  globalState : Option (NativeRnnModuleState V)

structure RecurrentKeyUndoFrame where
  ids : ReviewIds
  cardStatePresent : Bool
  noteStatePresent : Bool
  deckStatePresent : Bool
  presetStatePresent : Bool
  globalStatePresent : Bool

structure DeterministicUndoFrame (F V : Type) where
  firstDayOffset : Option F
  prevDayOffset : Option F
  cardSetContains : Bool
  cardCount : UInt64
  lastNewCards : Option UInt64
  i : Int64
  lastI : Option Int64
  today : F
  todayReviews : Int64
  todayNewCards : Int64
  card2firstDayOffset : Option F
  card2elapsedDaysCumulative : Option F
  card2elapsedSecondsCumulative : Option F
  idEncodings : List (IdEncodingUndoEntry V)
  recurrentKeys : RecurrentKeyUndoFrame
  idRng : TorchMt19937

structure UndoFrame (F V : Type) where
  recurrent : RecurrentUndoFrame V
  deterministic : DeterministicUndoFrame F V

section Capture

variable [Float64Ops F]

def captureEncoding (deterministic : FeatureState F V) (processRow : PreparedRow F)
    (submodule : IdSubmodule) : Except String (IdEncodingUndoEntry V) := do
  let id ← preparedI64 processRow submodule.name
  return ⟨submodule, id, (deterministic.idEncodings submodule)[id]?⟩

def DeterministicUndoFrame.capture (deterministic : FeatureState F V) (processRow : PreparedRow F)
    (ids : ReviewIds) : Except String (DeterministicUndoFrame F V) := do
  let (cardId, noteId, deckId, presetId) := ids
  let idEncodings ← idSubmodules.mapM (captureEncoding deterministic processRow)
  return {
    firstDayOffset := deterministic.firstDayOffset
    prevDayOffset := deterministic.prevDayOffset
    cardSetContains := decide (cardId ∈ deterministic.cardSet)
    cardCount := deterministic.cardCount
    lastNewCards := deterministic.lastNewCards[cardId]?
    i := deterministic.i
    lastI := deterministic.lastI[cardId]?
    today := deterministic.today
    todayReviews := deterministic.todayReviews
    todayNewCards := deterministic.todayNewCards
    card2firstDayOffset := deterministic.card2firstDayOffset[cardId]?
    card2elapsedDaysCumulative := deterministic.card2elapsedDaysCumulative[cardId]?
    card2elapsedSecondsCumulative := deterministic.card2elapsedSecondsCumulative[cardId]?
    idEncodings := idEncodings
    recurrentKeys := {
      ids := ids
      cardStatePresent := decide (cardId ∈ deterministic.recurrentStateKeys.cardStates)
      noteStatePresent := decide (noteId ∈ deterministic.recurrentStateKeys.noteStates)
      deckStatePresent := decide (deckId ∈ deterministic.recurrentStateKeys.deckStates)
      presetStatePresent := decide (presetId ∈ deterministic.recurrentStateKeys.presetStates)
      globalStatePresent := deterministic.recurrentStateKeys.globalState }
    idRng := deterministic.idRng }

def captureRecurrent (rnn : NativeRnn V) (ids : ReviewIds) : RecurrentUndoFrame V where
  ids := ids
  states entity := (rnn.states entity)[entity.key ids]?
  globalState := rnn.globalState

def UndoFrame.capture (state : ModelState F V) (processRow : PreparedRow F) (ids : ReviewIds) :
    Except String (UndoFrame F V) := do
  return ⟨captureRecurrent state.2 ids,
    ← DeterministicUndoFrame.capture state.1 processRow ids⟩

end Capture

def RecurrentUndoFrame.restore (frame : RecurrentUndoFrame V) (rnn : NativeRnn V) : NativeRnn V :=
  { rnn with
    states := fun entity =>
      restoreMapEntry (rnn.states entity) (entity.key frame.ids) (frame.states entity)
    globalState := frame.globalState }

def RecurrentKeyUndoFrame.restore (frame : RecurrentKeyUndoFrame) (keys : RecurrentStateKeys) :
    RecurrentStateKeys :=
  let (cardId, noteId, deckId, presetId) := frame.ids
  { cardStates := restoreSetEntry keys.cardStates cardId frame.cardStatePresent
    noteStates := restoreSetEntry keys.noteStates noteId frame.noteStatePresent
    deckStates := restoreSetEntry keys.deckStates deckId frame.deckStatePresent
    presetStates := restoreSetEntry keys.presetStates presetId frame.presetStatePresent
    globalState := frame.globalStatePresent }

def DeterministicUndoFrame.restore (frame : DeterministicUndoFrame F V)
    (deterministic : FeatureState F V) : FeatureState F V :=
  let cardId := frame.recurrentKeys.ids.1
  { firstDayOffset := frame.firstDayOffset
    prevDayOffset := frame.prevDayOffset
    cardSet := restoreSetEntry deterministic.cardSet cardId frame.cardSetContains
    cardCount := frame.cardCount
    lastNewCards := restoreMapEntry deterministic.lastNewCards cardId frame.lastNewCards
    i := frame.i
    lastI := restoreMapEntry deterministic.lastI cardId frame.lastI
    today := frame.today
    todayReviews := frame.todayReviews
    todayNewCards := frame.todayNewCards
    card2firstDayOffset :=
      restoreMapEntry deterministic.card2firstDayOffset cardId frame.card2firstDayOffset
    card2elapsedDaysCumulative := restoreMapEntry deterministic.card2elapsedDaysCumulative cardId
      frame.card2elapsedDaysCumulative
    card2elapsedSecondsCumulative := restoreMapEntry deterministic.card2elapsedSecondsCumulative
      cardId frame.card2elapsedSecondsCumulative
    idEncodings := frame.idEncodings.foldl restoreEncoding deterministic.idEncodings
    idRng := frame.idRng
    recurrentStateKeys := frame.recurrentKeys.restore deterministic.recurrentStateKeys }

def UndoFrame.restore (frame : UndoFrame F V) (state : ModelState F V) : ModelState F V :=
  (frame.deterministic.restore state.1, frame.recurrent.restore state.2)

section Entries

variable {Value : Type}

theorem restore_entry_exact {map other : ExtTreeMap Int64 Value} {key : Int64}
    (agree : ∀ id, id ≠ key → map[id]? = other[id]?) :
    restoreMapEntry other key map[key]? = map := by
  apply ExtTreeMap.ext_getElem?
  intro id
  rw [restore_map_entry_lookup]
  by_cases here : key = id
  · rw [if_pos here, here]
  · rw [if_neg here, agree id (Ne.symm here)]

theorem restore_member_exact {set other : ExtTreeSet Int64} {key : Int64}
    (agree : ∀ id, id ≠ key → (id ∈ set ↔ id ∈ other)) :
    restoreSetEntry other key (decide (key ∈ set)) = set := by
  apply ExtTreeSet.ext_mem
  intro id
  rw [mem_restore_set_entry]
  by_cases here : key = id
  · rw [if_pos here, here, decide_eq_true_iff]
  · rw [if_neg here, agree id (Ne.symm here)]

theorem only_identity (ids : ReviewIds) (submodule : IdSubmodule) {id : Int64}
    (other : id ≠ submodule.key ids) : id ∉ (BatchIdentitySets.fromIds [ids]).of submodule := by
  intro member
  have found := (fold_insert_covers [ids] BatchIdentitySets.empty submodule id).mp member
  rcases found with ⟨one, single, same⟩ | none
  · rw [List.mem_singleton.mp single] at same
    exact other same.symm
  · cases submodule <;> simp [BatchIdentitySets.of, BatchIdentitySets.empty] at none

theorem only_module_identity (ids : ReviewIds) (entity : EntityModule) {id : Int64}
    (other : id ≠ entity.key ids) : id ∉ moduleIds (BatchIdentitySets.fromIds [ids]) entity := by
  cases entity with
  | card => exact only_identity ids .cardId other
  | deck => exact only_identity ids .deckId other
  | note => exact only_identity ids .noteId other
  | preset => exact only_identity ids .presetId other

end Entries

section Exact

variable [Float64Ops F] {ids : ReviewIds} {row : PreparedRow F}

theorem captured_encodings {saved : FeatureState F V}
    (found : ∀ submodule : IdSubmodule, row[submodule.name]? = some (.int (submodule.key ids))) :
    idSubmodules.mapM (captureEncoding saved row) = .ok (idSubmodules.map fun submodule =>
      ⟨submodule, submodule.key ids, (saved.idEncodings submodule)[submodule.key ids]?⟩) := by
  have each : ∀ submodule : IdSubmodule, captureEncoding saved row submodule =
      .ok ⟨submodule, submodule.key ids, (saved.idEncodings submodule)[submodule.key ids]?⟩ := by
    intro submodule
    unfold captureEncoding preparedI64
    rw [found submodule]
    rfl
  simp only [idSubmodules, List.mapM_cons, List.mapM_nil, each]
  rfl

theorem restored_own_encodings {saved after : FeatureState F V}
    (agree : AgreeOutside (BatchIdentitySets.fromIds [ids]) saved after) :
    (idSubmodules.map fun submodule => (⟨submodule, submodule.key ids,
        (saved.idEncodings submodule)[submodule.key ids]?⟩ : IdEncodingUndoEntry V)).foldl
      restoreEncoding after.idEncodings = saved.idEncodings := by
  have entry : ∀ submodule : IdSubmodule,
      restoreMapEntry (after.idEncodings submodule) (submodule.key ids)
        (saved.idEncodings submodule)[submodule.key ids]? = saved.idEncodings submodule := by
    intro submodule
    apply restore_entry_exact
    intro id other
    exact agree.encodings submodule id (only_identity ids submodule other)
  funext submodule
  cases submodule <;> simp [idSubmodules, restoreEncoding, entry]

theorem deterministic_restore_exact {saved after : FeatureState F V}
    {frame : DeterministicUndoFrame F V}
    (found : ∀ submodule : IdSubmodule, row[submodule.name]? = some (.int (submodule.key ids)))
    (captured : DeterministicUndoFrame.capture saved row ids = .ok frame)
    (agree : AgreeOutside (BatchIdentitySets.fromIds [ids]) saved after) :
    frame.restore after = saved := by
  obtain ⟨cardId, noteId, deckId, presetId⟩ := ids
  unfold DeterministicUndoFrame.capture at captured
  simp only at captured
  rw [captured_encodings found] at captured
  cases captured
  have card : ∀ id : Int64, id ≠ cardId → id ∉
      (BatchIdentitySets.fromIds [(cardId, noteId, deckId, presetId)]).cardIds :=
    fun _ other => only_identity (cardId, noteId, deckId, presetId) .cardId other
  have note : restoreSetEntry after.recurrentStateKeys.noteStates noteId
      (decide (noteId ∈ saved.recurrentStateKeys.noteStates)) =
        saved.recurrentStateKeys.noteStates :=
    restore_member_exact fun id other =>
      agree.noteStates id (only_identity (cardId, noteId, deckId, presetId) .noteId other)
  have deck : restoreSetEntry after.recurrentStateKeys.deckStates deckId
      (decide (deckId ∈ saved.recurrentStateKeys.deckStates)) =
        saved.recurrentStateKeys.deckStates :=
    restore_member_exact fun id other =>
      agree.deckStates id (only_identity (cardId, noteId, deckId, presetId) .deckId other)
  have preset : restoreSetEntry after.recurrentStateKeys.presetStates presetId
      (decide (presetId ∈ saved.recurrentStateKeys.presetStates)) =
        saved.recurrentStateKeys.presetStates :=
    restore_member_exact fun id other =>
      agree.presetStates id (only_identity (cardId, noteId, deckId, presetId) .presetId other)
  simp only [DeterministicUndoFrame.restore, RecurrentKeyUndoFrame.restore,
    restored_own_encodings agree,
    restore_member_exact fun id other => agree.cardSet id (card id other),
    restore_entry_exact fun id other => agree.lastNewCards id (card id other),
    restore_entry_exact fun id other => agree.lastI id (card id other),
    restore_entry_exact fun id other => agree.firstDayOffsets id (card id other),
    restore_entry_exact fun id other => agree.elapsedDays id (card id other),
    restore_entry_exact fun id other => agree.elapsedSeconds id (card id other),
    restore_member_exact fun id other => agree.cardStates id (card id other),
    note, deck, preset]

theorem captured_key_ids {saved : ModelState F V} {frame : UndoFrame F V}
    (captured : UndoFrame.capture saved row ids = .ok frame) :
    frame.deterministic.recurrentKeys.ids = ids := by
  unfold UndoFrame.capture DeterministicUndoFrame.capture at captured
  cases encodings : idSubmodules.mapM (captureEncoding saved.1 row) with
  | error message =>
      rw [encodings] at captured
      cases captured
  | ok entries =>
      rw [encodings] at captured
      cases captured
      rfl

/-- The keys of other cards are left alone. -/
theorem restore_other_card_key {frame : DeterministicUndoFrame F V} (state : FeatureState F V)
    {id : Int64} (other : frame.recurrentKeys.ids.1 ≠ id) :
    id ∈ (frame.restore state).recurrentStateKeys.cardStates ↔
      id ∈ state.recurrentStateKeys.cardStates := by
  unfold DeterministicUndoFrame.restore RecurrentKeyUndoFrame.restore
  simp only
  rw [mem_restore_set_entry, if_neg other]

theorem recurrent_restore_exact {saved after : NativeRnn V} (materialized : Materialized saved)
    (stores : StoresWithin (BatchIdentitySets.fromIds [ids]) saved after) :
    (captureRecurrent saved ids).restore after = saved := by
  have maps : ∀ entity, restoreMapEntry (after.states entity) (entity.key ids)
      (saved.states entity)[entity.key ids]? = saved.states entity := by
    intro entity
    apply restore_entry_exact
    intro id other
    exact stores.keyed entity id (only_module_identity ids entity other)
  have flat := stores.flat materialized
  obtain ⟨states, globalState, flatStates, flatGlobalState⟩ := saved
  obtain ⟨states', globalState', flatStates', flatGlobalState'⟩ := after
  have sameFlat : flatStates' = flatStates := by
    funext entity
    exact (flat.keyed entity).trans (materialized.keyed entity).symm
  have sameGlobal : flatGlobalState' = flatGlobalState := flat.global.trans materialized.global.symm
  simp only [RecurrentUndoFrame.restore, captureRecurrent, NativeRnn.mk.injEq]
  exact ⟨funext maps, trivial, sameFlat, sameGlobal⟩

theorem undo_frame_exact {saved after : ModelState F V} {frame : UndoFrame F V}
    (found : ∀ submodule : IdSubmodule, row[submodule.name]? = some (.int (submodule.key ids)))
    (captured : UndoFrame.capture saved row ids = .ok frame) (materialized : Materialized saved.2)
    (within : BatchWithin (BatchIdentitySets.fromIds [ids]) saved after) :
    frame.restore after = saved := by
  unfold UndoFrame.capture at captured
  cases deterministic : DeterministicUndoFrame.capture saved.1 row ids with
  | error message =>
      rw [deterministic] at captured
      cases captured
  | ok features =>
      rw [deterministic] at captured
      cases captured
      apply Prod.ext
      · exact deterministic_restore_exact found deterministic within.features
      · exact recurrent_restore_exact materialized within.states

end Exact

end RwkvSrs.ReviewUndo
