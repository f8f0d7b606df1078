import RwkvSrs.PredictorCache

/-!
Runs of a runtime with a GPU predictor. In every state a run reaches, the
predictor is absent or coherent with the CPU states: the slots of each arena are
the numbers below their count, each slot holds the current state of its identity,
and the cache assigns to a row what the arenas assign to it.
-/

namespace RwkvSrs.PredictorRuns

open Std RwkvSrs.FallibleMethod RwkvSrs.DeterministicState RwkvSrs.DeterministicUndo
open RwkvSrs.ModuleState RwkvSrs.NativeRnnState RwkvSrs.PredictorArena RwkvSrs.PredictorCache
open RwkvSrs.PredictorSlots RwkvSrs.ReviewProcessing RwkvSrs.ReviewUndo

set_option autoImplicit false

variable {V H : Type}

theorem key_compare {left right : Int64} : compare left right = .eq ↔ left = right :=
  LawfulEqCmp.compare_eq_iff_eq

theorem inserted_latest (ids : ReviewIds) (state : EntityModule → NativeRnnModuleState V)
    (globalState : NativeRnnModuleState V) (rnn : NativeRnn V) (entity : EntityModule)
    (identity : Int64) :
    (insertReviewStates ids state globalState rnn).latest entity identity =
      if identity = entity.key ids then some (state entity) else rnn.latest entity identity := by
  simp only [NativeRnn.latest, insertReviewStates, ExtTreeMap.getElem?_insert,
    ExtTreeMap.getElem?_erase, key_compare]
  by_cases same : identity = entity.key ids
  · simp [same]
  · simp [same, Ne.symm same]

theorem restored_entry {State : Type} (states : ExtTreeMap Int64 State) (key identity : Int64)
    (previous : Option State) :
    (restoreMapEntry states key previous)[identity]? =
      if identity = key then previous else states[identity]? := by
  unfold restoreMapEntry
  cases previous with
  | none =>
      rw [ExtTreeMap.getElem?_erase]
      by_cases same : identity = key
      · simp [same]
      · simp [same, Ne.symm same]
  | some state =>
      rw [ExtTreeMap.getElem?_insert]
      by_cases same : identity = key
      · simp [same]
      · simp [same, Ne.symm same]

theorem restored_materialized {frame : RecurrentUndoFrame V} {rnn : NativeRnn V}
    (materialized : Materialized rnn) : Materialized (frame.restore rnn) :=
  ⟨materialized.keyed, materialized.global⟩

theorem restored_latest {frame : RecurrentUndoFrame V} {rnn : NativeRnn V}
    (materialized : Materialized rnn) (entity : EntityModule) (identity : Int64) :
    (frame.restore rnn).latest entity identity =
      if identity = entity.key frame.ids then
        ((frame.restore rnn).states entity)[entity.key frame.ids]?
      else rnn.latest entity identity := by
  rw [(restored_materialized materialized).latest, materialized.latest]
  simp only [RecurrentUndoFrame.restore, restored_entry]
  by_cases same : identity = entity.key frame.ids
  · simp [same]
  · simp [same]

/-- What an arena is to hold for a module. -/
def keyedHalves (toHalf : V → H) (rnn : NativeRnn V) (entity : EntityModule) (identity : Int64) :
    Option (List H) := (rnn.latest entity identity).map (halves toHalf)

def globalHalves (toHalf : V → H) (rnn : NativeRnn V) (identity : Int64) : Option (List H) :=
  if identity = 0 then rnn.latestGlobal.map (halves toHalf) else none

/-- The slots that the maps of the arenas assign to a row. -/
structure Assigned (predictor : GpuPredictor H) (ids : ReviewIds) (slots : RowSlots) : Prop where
  keyed : ∀ entity : EntityModule,
    (predictor.states entity).slots[entity.key ids]? = some (slots.keyed entity)
  global : predictor.globalStates.slots[(0 : Int64)]? = some slots.global

structure PredictorCoherent (toHalf : V → H) (rnn : NativeRnn V) (predictor : GpuPredictor H) :
    Prop where
  keyed : ∀ entity, ArenaHolds (keyedHalves toHalf rnn entity) (predictor.states entity)
  global : ArenaHolds (globalHalves toHalf rnn) predictor.globalStates
  cached : ∀ ids slots, predictor.slotCache[ids]? = some slots → Assigned predictor ids slots

/-- The predictor is absent or coherent, and flat states stand only below an empty undo stack. -/
structure Coherent (toHalf : V → H) (runtime : PredictorRuntime V H) : Prop where
  predictor : ∀ predictor, runtime.gpu = some predictor →
    PredictorCoherent toHalf runtime.rnn predictor
  canonical : runtime.undoStack ≠ [] → Materialized runtime.rnn

variable {toHalf : V → H} {rnn : NativeRnn V} {predictor : GpuPredictor H}

theorem slot_assigned {arena : StateArena H} {identity : Int64}
    (valid : arena.slot identity ≠ StateArena.invalidOffset) :
    arena.slots[identity]? = some (arena.slot identity) := by
  unfold StateArena.slot at valid ⊢
  cases found : arena.slots[identity]? with
  | none =>
      rw [found] at valid
      exact absurd rfl valid
  | some slot => rfl

theorem current_assigned {ids : ReviewIds}
    (valid : (predictor.currentSlots ids).valid = true) :
    Assigned predictor ids (predictor.currentSlots ids) := by
  simp only [RowSlots.valid, Bool.and_eq_true, bne_iff_ne] at valid
  obtain ⟨⟨⟨⟨card, deck⟩, note⟩, preset⟩, global⟩ := valid
  refine ⟨?_, slot_assigned global⟩
  intro entity
  cases entity with
  | card => exact slot_assigned card
  | deck => exact slot_assigned deck
  | note => exact slot_assigned note
  | preset => exact slot_assigned preset

theorem few_states (device : PredictorDevice) (layers : Nat) :
    device.maxBufferBytes / (layers * flatStateLayerElements * 2) < 2 ^ 32 - 1 := by
  rcases Nat.eq_zero_or_pos layers with none | some
  · rw [none, Nat.zero_mul, Nat.zero_mul, Nat.div_zero]
    decide
  · have wider : flatStateLayerElements * 2 ≤ layers * flatStateLayerElements * 2 :=
      Nat.mul_le_mul_right 2 (Nat.le_mul_of_pos_left _ some)
    have positive : 0 < flatStateLayerElements * 2 := by decide
    exact Nat.lt_of_le_of_lt (Nat.div_le_div_left wider positive) device.few

theorem single_entry {State : Type} (state : Option State) (identity : Int64) :
    (StateArena.singleEntry state)[identity]? = if identity = 0 then state else none := by
  unfold StateArena.singleEntry
  cases state with
  | none => simp
  | some state =>
      rw [ExtTreeMap.getElem?_insert]
      by_cases zero : identity = 0
      · simp [zero]
      · simp [zero, Ne.symm zero]

theorem singleton_halves (rnn : NativeRnn V) :
    currentHalves toHalf (StateArena.singleEntry rnn.globalState)
      (StateArena.singleEntry rnn.flatGlobalState) = globalHalves toHalf rnn := by
  funext identity
  rw [currentHalves, single_entry, single_entry, globalHalves]
  by_cases zero : identity = 0
  · simp [zero, NativeRnn.latestGlobal]
  · simp [zero]

theorem new_coherent [Zero H] {device : PredictorDevice} {answers last : List (Option String)}
    (ran : GpuPredictor.new toHalf device rnn answers = .ok (predictor, last)) :
    PredictorCoherent toHalf rnn predictor := by
  obtain ⟨_, _, _, rest⟩ := device_bind_ok ran
  obtain ⟨card, _, cardRan, rest⟩ := device_bind_ok rest
  obtain ⟨deck, _, deckRan, rest⟩ := device_bind_ok rest
  obtain ⟨note, _, noteRan, rest⟩ := device_bind_ok rest
  obtain ⟨preset, _, presetRan, rest⟩ := device_bind_ok rest
  obtain ⟨global, _, globalRan, rest⟩ := device_bind_ok rest
  obtain ⟨_, _, _, rest⟩ := device_bind_ok rest
  have same := device_pure_ok rest
  subst same
  refine ⟨?_, ?_, ?_⟩
  · intro entity
    cases entity with
    | card => exact new_holds (few_states device _) cardRan
    | deck => exact new_holds (few_states device _) deckRan
    | note => exact new_holds (few_states device _) noteRan
    | preset => exact new_holds (few_states device _) presetRan
  · rw [← singleton_halves]
    exact new_holds (few_states device _) globalRan
  · intro ids slots found
    simp at found

theorem inserted_materialized {ids : ReviewIds} {state : EntityModule → NativeRnnModuleState V}
    {globalState : NativeRnnModuleState V} (materialized : Materialized rnn) :
    Materialized (insertReviewStates ids state globalState rnn) := by
  refine ⟨?_, rfl⟩
  intro entity
  change (rnn.flatStates entity).erase (entity.key ids) = ∅
  rw [materialized.keyed entity, ExtTreeMap.erase_empty]

theorem update_coherent [Zero H] {ids : ReviewIds}
    {state : EntityModule → NativeRnnModuleState V} {globalState : NativeRnnModuleState V}
    {updated : GpuPredictor H} {answers last : List (Option String)}
    (coherent : PredictorCoherent toHalf rnn predictor)
    (ran : predictor.updateReviewStates toHalf ids state globalState answers =
      .ok (updated, last)) :
    PredictorCoherent toHalf (insertReviewStates ids state globalState rnn) updated := by
  obtain ⟨card, _, cardRan, rest⟩ := device_bind_ok ran
  obtain ⟨deck, _, deckRan, rest⟩ := device_bind_ok rest
  obtain ⟨note, _, noteRan, rest⟩ := device_bind_ok rest
  obtain ⟨preset, _, presetRan, rest⟩ := device_bind_ok rest
  obtain ⟨global, _, globalRan, rest⟩ := device_bind_ok rest
  have same := device_pure_ok rest
  have holds : ∀ entity, ArenaHolds
      (keyedHalves toHalf (insertReviewStates ids state globalState rnn) entity)
      (updated.states entity) ∧
        SlotsKept (entity.key ids)
          ((predictor.states entity).slots[entity.key ids]?).isNone
          (predictor.states entity) (updated.states entity) := by
    intro entity
    have current : keyedHalves toHalf (insertReviewStates ids state globalState rnn) entity =
        fun other => if other = entity.key ids then some (halves toHalf (state entity))
          else keyedHalves toHalf rnn entity other := by
      funext identity
      rw [keyedHalves, inserted_latest]
      split
      · rfl
      · rfl
    rw [current]
    subst same
    cases entity with
    | card => exact update_holds (coherent.keyed .card) cardRan
    | deck => exact update_holds (coherent.keyed .deck) deckRan
    | note => exact update_holds (coherent.keyed .note) noteRan
    | preset => exact update_holds (coherent.keyed .preset) presetRan
  have globalHolds := update_holds coherent.global globalRan
  subst same
  refine ⟨fun entity => (holds entity).1, ?_, ?_⟩
  · have current : globalHalves toHalf (insertReviewStates ids state globalState rnn) =
        fun other => if other = 0 then some (halves toHalf globalState)
          else globalHalves toHalf rnn other := by
      funext identity
      rw [globalHalves, globalHalves]
      split
      · rfl
      · rfl
    rw [current]
    exact globalHolds.1
  · intro cached slots found
    have before := coherent.cached cached slots found
    -- a slot that an identity has is never moved, and a cached row has all of its slots
    have kept : ∀ {arena reached : StateArena H} {identity other : Int64} {slot : UInt32},
        SlotsKept identity (arena.slots[identity]?).isNone arena reached →
          arena.slots[other]? = some slot → reached.slots[other]? = some slot := by
      intro arena reached identity other slot slotsKept here
      by_cases same : other = identity
      · subst same
        exact slotsKept.same (by rw [here]; rfl) other slot here
      · rw [slotsKept.elsewhere other same, here]
    exact ⟨fun entity => kept (holds entity).2 (before.keyed entity),
      kept globalHolds.2 before.global⟩

theorem retained_found {ids cached : ReviewIds} {changed : EntityModule → Bool}
    {slotCache : ExtHashMap ReviewIds RowSlots} {slots : RowSlots}
    (found : (GpuPredictor.retained ids changed slotCache)[cached]? = some slots) :
    slotCache[cached]? = some slots ∧
      ∀ entity : EntityModule, changed entity = true → entity.key cached ≠ entity.key ids := by
  unfold GpuPredictor.retained at found
  rw [ExtHashMap.getElem?_filter'] at found
  obtain ⟨inside, kept⟩ := Option.filter_eq_some_iff.mp found
  refine ⟨inside, ?_⟩
  simp only [Bool.and_eq_true, Bool.or_eq_true, Bool.not_eq_true', bne_iff_ne] at kept
  obtain ⟨⟨⟨card, note⟩, deck⟩, preset⟩ := kept
  intro entity isChanged
  cases entity with
  | card => exact card.resolve_left (by rw [isChanged]; decide)
  | deck => exact deck.resolve_left (by rw [isChanged]; decide)
  | note => exact note.resolve_left (by rw [isChanged]; decide)
  | preset => exact preset.resolve_left (by rw [isChanged]; decide)

theorem restore_coherent [Zero H] {frame : RecurrentUndoFrame V} {restored : GpuPredictor H}
    {answers last : List (Option String)} (materialized : Materialized rnn)
    (coherent : PredictorCoherent toHalf rnn predictor)
    (ran : predictor.restoreReviewStatesAfterUndo toHalf frame.ids
      (fun entity => ((frame.restore rnn).states entity)[entity.key frame.ids]?)
      (frame.restore rnn).globalState answers = .ok (restored, last)) :
    PredictorCoherent toHalf (frame.restore rnn) restored := by
  obtain ⟨⟨card, cardChanged⟩, _, cardRan, rest⟩ := device_bind_ok ran
  obtain ⟨⟨deck, deckChanged⟩, _, deckRan, rest⟩ := device_bind_ok rest
  obtain ⟨⟨note, noteChanged⟩, _, noteRan, rest⟩ := device_bind_ok rest
  obtain ⟨⟨preset, presetChanged⟩, _, presetRan, rest⟩ := device_bind_ok rest
  obtain ⟨⟨global, globalChanged⟩, _, globalRan, rest⟩ := device_bind_ok rest
  have same := device_pure_ok rest
  have current : ∀ entity, keyedHalves toHalf (frame.restore rnn) entity =
      fun other => if other = entity.key frame.ids then
        (((frame.restore rnn).states entity)[entity.key frame.ids]?).map (halves toHalf)
      else keyedHalves toHalf rnn entity other := by
    intro entity
    funext identity
    rw [keyedHalves, restored_latest materialized]
    split
    · rfl
    · rfl
  have globalCurrent : globalHalves toHalf (frame.restore rnn) =
      fun other => if other = 0 then (frame.restore rnn).globalState.map (halves toHalf)
        else globalHalves toHalf rnn other := by
    funext identity
    rw [globalHalves, globalHalves, (restored_materialized materialized).latestGlobal]
    split
    · rfl
    · rfl
  have cardHolds := restore_holds (coherent.keyed .card) cardRan
  have deckHolds := restore_holds (coherent.keyed .deck) deckRan
  have noteHolds := restore_holds (coherent.keyed .note) noteRan
  have presetHolds := restore_holds (coherent.keyed .preset) presetRan
  have globalHolds := restore_holds coherent.global globalRan
  subst same
  refine ⟨?_, ?_, ?_⟩
  · intro entity
    rw [current entity]
    cases entity with
    | card => exact cardHolds.1
    | deck => exact deckHolds.1
    | note => exact noteHolds.1
    | preset => exact presetHolds.1
  · rw [globalCurrent]
    exact globalHolds.1
  · intro cached slots found
    -- a row stays in the cache only when none of its identities has gained or lost a slot
    have survived : predictor.slotCache[cached]? = some slots ∧ globalChanged = false ∧
        ∃ changed : EntityModule → Bool, (changed .card = cardChanged ∧
            changed .deck = deckChanged ∧ changed .note = noteChanged ∧
            changed .preset = presetChanged) ∧
          ∀ entity : EntityModule, changed entity = true →
            entity.key cached ≠ entity.key frame.ids := by
      simp only at found
      split at found
      · simp at found
      · rename_i globalSame
        have globalKept : globalChanged = false := by simpa using globalSame
        split at found
        · obtain ⟨inside, apart⟩ := retained_found found
          exact ⟨inside, globalKept, _, ⟨rfl, rfl, rfl, rfl⟩, apart⟩
        · rename_i none
          simp only [Bool.or_eq_true, not_or, Bool.not_eq_true] at none
          obtain ⟨⟨⟨noCard, noNote⟩, noDeck⟩, noPreset⟩ := none
          refine ⟨found, globalKept, fun _ => false,
            ⟨noCard.symm, noDeck.symm, noNote.symm, noPreset.symm⟩, ?_⟩
          intro entity isChanged
          cases isChanged
    obtain ⟨inside, globalKept, changed, ⟨isCard, isDeck, isNote, isPreset⟩, apart⟩ := survived
    have before := coherent.cached cached slots inside
    have kept : ∀ {arena reached : StateArena H} {identity other : Int64} {slot : UInt32}
        {changed : Bool}, SlotsKept identity changed arena reached →
          (changed = true → other ≠ identity) → arena.slots[other]? = some slot →
            reached.slots[other]? = some slot := by
      intro arena reached identity other slot changed slotsKept away here
      cases isChanged : changed with
      | false => exact slotsKept.same isChanged other slot here
      | true => rw [slotsKept.elsewhere other (away isChanged), here]
    refine ⟨?_, kept globalHolds.2 (fun changed => by rw [globalKept] at changed; cases changed)
      before.global⟩
    intro entity
    have away := apart entity
    cases entity with
    | card => exact kept cardHolds.2 (fun is => away (isCard.trans is)) (before.keyed .card)
    | deck => exact kept deckHolds.2 (fun is => away (isDeck.trans is)) (before.keyed .deck)
    | note => exact kept noteHolds.2 (fun is => away (isNote.trans is)) (before.keyed .note)
    | preset =>
        exact kept presetHolds.2 (fun is => away (isPreset.trans is)) (before.keyed .preset)

/-- A prediction changes nothing but the cache. -/
structure CacheOnly (toHalf : V → H) (rnn : NativeRnn V) (before after : GpuPredictor H) :
    Prop where
  states : after.states = before.states
  globalStates : after.globalStates = before.globalStates
  coherent : PredictorCoherent toHalf rnn before → PredictorCoherent toHalf rnn after

theorem cache_same (before : GpuPredictor H) : CacheOnly toHalf rnn before before :=
  ⟨rfl, rfl, id⟩

theorem cache_chain (first middle last : GpuPredictor H)
    (before : CacheOnly toHalf rnn first middle) (after : CacheOnly toHalf rnn middle last) :
    CacheOnly toHalf rnn first last :=
  ⟨after.states.trans before.states, after.globalStates.trans before.globalStates,
    fun coherent => after.coherent (before.coherent coherent)⟩

theorem CacheOnly.assigned {before after : GpuPredictor H} (only : CacheOnly toHalf rnn before after)
    {ids : ReviewIds} {slots : RowSlots} (assigned : Assigned after ids slots) :
    Assigned before ids slots :=
  ⟨fun entity => by rw [← only.states]; exact assigned.keyed entity,
    by rw [← only.globalStates]; exact assigned.global⟩

theorem CacheOnly.assigned_after {before after : GpuPredictor H}
    (only : CacheOnly toHalf rnn before after) {ids : ReviewIds} {slots : RowSlots}
    (assigned : Assigned before ids slots) : Assigned after ids slots :=
  ⟨fun entity => by rw [only.states]; exact assigned.keyed entity,
    by rw [only.globalStates]; exact assigned.global⟩

theorem query_keeps (ids : ReviewIds) (useCache : Bool) :
    Keeps (CacheOnly toHalf rnn) (GpuPredictor.querySlots ids useCache) := by
  intro before
  unfold GpuPredictor.querySlots
  split
  · exact cache_same before
  · simp only
    split
    · rename_i stored
      rw [Bool.and_eq_true] at stored
      refine ⟨rfl, rfl, ?_⟩
      intro coherent
      refine ⟨coherent.keyed, coherent.global, ?_⟩
      intro cached slots found
      rw [ExtHashMap.getElem?_insert] at found
      split at found
      · rename_i same
        have is : ids = cached := by simpa using same
        subst is
        cases found
        have assigned := current_assigned stored.2
        exact ⟨assigned.keyed, assigned.global⟩
      · have assigned := coherent.cached cached slots found
        exact ⟨assigned.keyed, assigned.global⟩
    · exact cache_same before

theorem query_assigned {ids : ReviewIds} {useCache : Bool} {after : GpuPredictor H}
    {slots : RowSlots} (coherent : PredictorCoherent toHalf rnn predictor)
    (ran : GpuPredictor.querySlots ids useCache predictor = (.ok slots, after))
    (valid : slots.valid = true) : Assigned predictor ids slots := by
  unfold GpuPredictor.querySlots at ran
  split at ran
  · rename_i found cached
    cases ran
    unfold GpuPredictor.cachedSlots at cached
    split at cached
    · exact coherent.cached ids slots cached
    · cases cached
  · simp only at ran
    split at ran
    · cases ran
      exact current_assigned valid
    · cases ran
      exact current_assigned valid

theorem resolve_row_keeps (useCache : Bool) (rowIndex : Nat) (ids : ReviewIds) :
    Keeps (CacheOnly toHalf rnn) (GpuPredictor.resolveRow useCache rowIndex ids) := by
  apply keeps_bind cache_chain (query_keeps ids useCache)
  intro slots
  split
  · exact keeps_pure cache_same _
  · exact keeps_fail cache_same _

theorem resolve_rows_keeps (useCache : Bool) (rowIndex : Nat) (rows : List ReviewIds) :
    Keeps (CacheOnly toHalf rnn) (GpuPredictor.resolveRows useCache rowIndex rows) := by
  induction rows generalizing rowIndex with
  | nil => exact keeps_pure cache_same _
  | cons ids rows ih =>
      apply keeps_bind cache_chain (resolve_row_keeps useCache rowIndex ids)
      intro slots
      apply keeps_bind cache_chain (ih (rowIndex + 1))
      intro rest
      exact keeps_pure cache_same _

theorem resolve_rows_assigned {useCache : Bool} {rowIndex : Nat} {rows : List ReviewIds}
    {after : GpuPredictor H} {slots : List RowSlots}
    (coherent : PredictorCoherent toHalf rnn predictor)
    (ran : GpuPredictor.resolveRows useCache rowIndex rows predictor = (.ok slots, after)) :
    List.Forall₂ (Assigned predictor) rows slots := by
  induction rows generalizing rowIndex predictor slots with
  | nil =>
      cases ran
      exact List.Forall₂.nil
  | cons ids rows ih =>
      obtain ⟨first, middle, rowRan, rest⟩ := bind_ok_steps ran
      obtain ⟨later, last, restRan, finished⟩ := bind_ok_steps rest
      cases finished
      have keeps : Keeps (CacheOnly toHalf rnn) (GpuPredictor.resolveRow useCache rowIndex ids) :=
        resolve_row_keeps useCache rowIndex ids
      have only := keeps predictor
      rw [rowRan] at only
      obtain ⟨found, _, queried, checked⟩ := bind_ok_steps rowRan
      have valid : found.valid = true ∧ found = first := by
        split at checked
        · rename_i valid
          cases checked
          exact ⟨valid, rfl⟩
        · cases checked
      obtain ⟨isValid, same⟩ := valid
      subst same
      refine List.Forall₂.cons (query_assigned coherent queried isValid) ?_
      exact (ih (only.coherent coherent) restRan).imp fun _ _ assigned => only.assigned assigned

theorem submit_keeps (features : List (List V)) (rows : List ReviewIds) (useSlotCache : Bool)
    (launch : GpuPredictor.Launch) :
    Keeps (CacheOnly toHalf rnn)
      (GpuPredictor.submitPrediction features rows useSlotCache launch) := by
  apply keeps_bind cache_chain (keeps_lift cache_same _)
  intro _
  apply keeps_bind cache_chain (keeps_lift cache_same _)
  intro _
  apply keeps_bind cache_chain (keeps_lift cache_same _)
  intro _
  apply keeps_bind cache_chain (keeps_lift cache_same _)
  intro _
  apply keeps_bind cache_chain (resolve_rows_keeps useSlotCache 0 rows)
  intro slots
  apply keeps_bind cache_chain (keeps_lift cache_same _)
  intro _
  exact keeps_pure cache_same _

theorem submit_assigned {features : List (List V)} {rows : List ReviewIds} {useSlotCache : Bool}
    {launch : GpuPredictor.Launch} {after : GpuPredictor H} {slots : List RowSlots}
    (coherent : PredictorCoherent toHalf rnn predictor)
    (ran : GpuPredictor.submitPrediction features rows useSlotCache launch predictor =
      (.ok slots, after)) : List.Forall₂ (Assigned predictor) rows slots := by
  obtain ⟨_, first, counted, rest⟩ := bind_ok_steps ran
  obtain ⟨_, second, nonempty, rest⟩ := bind_ok_steps rest
  obtain ⟨_, third, shaped, rest⟩ := bind_ok_steps rest
  obtain ⟨_, fourth, checked, rest⟩ := bind_ok_steps rest
  obtain ⟨found, fifth, resolved, rest⟩ := bind_ok_steps rest
  obtain ⟨_, last, launched, finished⟩ := bind_ok_steps rest
  cases finished
  have one := lift_ok_value counted
  have two := lift_ok_value nonempty
  have three := lift_ok_value shaped
  have four := lift_ok_value checked
  have start : fourth = predictor :=
    ((four.2.trans three.2).trans two.2).trans one.2
  subst start
  exact resolve_rows_assigned coherent resolved

theorem predict_keeps (features : List (List V)) (rows : List ReviewIds) (useSlotCache : Bool)
    (launch : GpuPredictor.Launch) :
    Keeps (CacheOnly toHalf rnn) (GpuPredictor.predict features rows useSlotCache launch) := by
  apply keeps_bind cache_chain (keeps_lift cache_same _)
  intro _
  split
  · exact keeps_pure cache_same _
  · exact submit_keeps features rows useSlotCache launch

theorem predict_assigned {features : List (List V)} {rows : List ReviewIds} {useSlotCache : Bool}
    {launch : GpuPredictor.Launch} {after : GpuPredictor H} {slots : List RowSlots}
    (coherent : PredictorCoherent toHalf rnn predictor)
    (ran : GpuPredictor.predict features rows useSlotCache launch predictor =
      (.ok slots, after)) : List.Forall₂ (Assigned predictor) rows slots := by
  obtain ⟨_, first, counted, rest⟩ := bind_ok_steps ran
  obtain ⟨sameLength, start⟩ := lift_ok_value counted
  subst start
  split at rest
  · rename_i empty
    cases rest
    split at sameLength
    · rename_i lengths
      rw [List.isEmpty_iff.mp empty, List.length_nil] at lengths
      rw [List.eq_nil_of_length_eq_zero lengths.symm]
      exact List.Forall₂.nil
    · cases sameLength
  · exact submit_assigned coherent rest

theorem coherent_same_latest {before after : NativeRnn V} (same : SameLatest before after)
    (coherent : PredictorCoherent toHalf before predictor) :
    PredictorCoherent toHalf after predictor := by
  have keyed : ∀ entity, keyedHalves toHalf after entity = keyedHalves toHalf before entity := by
    intro entity
    funext identity
    rw [keyedHalves, keyedHalves, same.keyed]
  have global : globalHalves toHalf after = globalHalves toHalf before := by
    funext identity
    rw [globalHalves, globalHalves, same.global]
  refine ⟨?_, ?_, coherent.cached⟩
  · intro entity
    rw [keyed entity]
    exact coherent.keyed entity
  · rw [global]
    exact coherent.global

theorem materialize_coherent {runtime : PredictorRuntime V H} (coherent : Coherent toHalf runtime) :
    Coherent toHalf (onRnnStates materializeFlatCpuState runtime).2 := by
  refine ⟨?_, ?_⟩
  · intro predictor present
    exact coherent_same_latest (materialize_latest runtime.rnn)
      (coherent.predictor predictor present)
  · intro frames
    have canonical := coherent.canonical frames
    change Materialized (materializeFlatCpuState runtime.rnn).2
    rw [materialize_id canonical]
    exact canonical

theorem on_predictor_coherent {Value : Type} {step : Method (GpuPredictor H) Value}
    {runtime : PredictorRuntime V H} (keeps : Keeps (CacheOnly toHalf runtime.rnn) step)
    (coherent : Coherent toHalf runtime) : Coherent toHalf (onPredictor step runtime).2 := by
  unfold onPredictor
  split
  · rename_i predictor present
    refine ⟨?_, coherent.canonical⟩
    intro other same
    cases same
    exact (keeps predictor).coherent (coherent.predictor predictor present)
  · exact coherent

/-- What a call preserves, whether or not it succeeds. -/
def StaysCoherent (toHalf : V → H) (before after : PredictorRuntime V H) : Prop :=
  Coherent toHalf before → Coherent toHalf after

theorem stays_same (runtime : PredictorRuntime V H) : StaysCoherent toHalf runtime runtime := id

theorem stays_chain (first middle last : PredictorRuntime V H)
    (before : StaysCoherent toHalf first middle) (after : StaysCoherent toHalf middle last) :
    StaysCoherent toHalf first last := fun coherent => after (before coherent)

theorem on_predictor_stays {Value : Type} {step : Method (GpuPredictor H) Value}
    (keeps : ∀ rnn : NativeRnn V, Keeps (CacheOnly toHalf rnn) step) :
    Keeps (StaysCoherent toHalf) (onPredictor (V := V) step) :=
  fun runtime coherent => on_predictor_coherent (keeps runtime.rnn) coherent

theorem then_nothing {step : Method (PredictorRuntime V H) Unit}
    (keeps : Keeps (StaysCoherent toHalf) step) :
    Keeps (StaysCoherent toHalf) (do step; return ([] : List RowSlots)) :=
  keeps_bind stays_chain keeps fun _ => keeps_pure stays_same _

theorem capture_stays (ids : ReviewIds) :
    Keeps (StaysCoherent toHalf) (do
      onRnnStates (H := H) (materializeFlatCpuState (V := V))
      update fun runtime =>
        { runtime with undoStack := captureRecurrent runtime.rnn ids :: runtime.undoStack }) := by
  intro runtime coherent
  have materialized := materialize_coherent coherent
  rw [bind_apply]
  split
  · rename_i value reached ran
    have here : (onRnnStates materializeFlatCpuState runtime).2 = reached :=
      congrArg Prod.snd ran
    rw [here] at materialized
    refine ⟨materialized.predictor, ?_⟩
    intro _
    have ok : materializeFlatCpuState runtime.rnn = (.ok value, reached.rnn) :=
      congrArg (fun pair => (pair.1, pair.2.rnn)) ran
    exact materialize_ok ok
  · rename_i failure reached ran
    have here : (onRnnStates materializeFlatCpuState runtime).2 = reached :=
      congrArg Prod.snd ran
    rw [here] at materialized
    exact materialized

theorem absent_coherent {rnn : NativeRnn V} {undoStack : List (RecurrentUndoFrame V)}
    (canonical : undoStack ≠ [] → Materialized rnn) :
    Coherent toHalf (⟨rnn, none, undoStack⟩ : PredictorRuntime V H) := by
  refine ⟨?_, canonical⟩
  intro predictor impossible
  cases impossible

theorem drop_coherent {runtime : PredictorRuntime V H} (coherent : Coherent toHalf runtime) :
    Coherent toHalf { runtime with undoStack := runtime.undoStack.dropLast } := by
  refine ⟨coherent.predictor, ?_⟩
  intro frames
  apply coherent.canonical
  intro none
  rw [none] at frames
  exact frames rfl

theorem clear_coherent {runtime : PredictorRuntime V H} (coherent : Coherent toHalf runtime) :
    Coherent toHalf { runtime with undoStack := [] } :=
  ⟨coherent.predictor, fun frames => absurd rfl frames⟩

variable [Zero H]

theorem ensure_coherent {device : PredictorDevice} {answers : List (Option String)}
    {runtime : PredictorRuntime V H} (coherent : Coherent toHalf runtime) :
    Coherent toHalf (ensureGpu toHalf device answers runtime).2 := by
  unfold ensureGpu
  split
  · exact coherent
  · split
    · rename_i predictor last ran
      refine ⟨?_, coherent.canonical⟩
      intro other present
      cases present
      exact new_coherent ran
    · exact coherent

theorem store_coherent {ids : ReviewIds} {state : EntityModule → NativeRnnModuleState V}
    {globalState : NativeRnnModuleState V} {answers : List (Option String)}
    {runtime : PredictorRuntime V H} (coherent : Coherent toHalf runtime) :
    Coherent toHalf (syncGpuReviewStates toHalf ids answers
      { runtime with rnn := insertReviewStates ids state globalState runtime.rnn }).2 := by
  have canonical : runtime.undoStack ≠ [] →
      Materialized (insertReviewStates ids state globalState runtime.rnn) :=
    fun frames => inserted_materialized (coherent.canonical frames)
  have inserted : ∀ entity : EntityModule,
      ((insertReviewStates ids state globalState runtime.rnn).states entity)[entity.key ids]? =
        some (state entity) := by
    intro entity
    change ((runtime.rnn.states entity).insert _ _)[entity.key ids]? = _
    rw [ExtTreeMap.getElem?_insert_self]
  unfold syncGpuReviewStates
  split
  · rename_i absent
    refine ⟨?_, canonical⟩
    intro predictor present
    rw [absent] at present
    cases present
  · rename_i predictor present
    have dropped : Coherent toHalf
        ({ rnn := insertReviewStates ids state globalState runtime.rnn
           gpu := none
           undoStack := runtime.undoStack } : PredictorRuntime V H) := absent_coherent canonical
    simp only [inserted, orMissing]
    split
    · exact dropped
    · rename_i found
      have looked := Except.ok.inj found
      split
      · rename_i updated last ran
        refine ⟨?_, canonical⟩
        intro other same
        cases same
        have isState := congrArg Prod.fst looked
        have isGlobal := congrArg Prod.snd looked
        simp only at isState isGlobal
        have same : state = _ := (funext fun entity => by cases entity <;> rfl).trans isState
        rw [← isGlobal, ← same] at ran
        exact update_coherent (coherent.predictor predictor present) ran
      · exact dropped

theorem undo_coherent {answers : List (Option String)} {runtime : PredictorRuntime V H}
    (coherent : Coherent toHalf runtime) :
    Coherent toHalf (undoReview toHalf answers runtime).2 := by
  obtain ⟨rnn, gpu, undoStack⟩ := runtime
  cases undoStack with
  | nil => exact coherent
  | cons frame rest =>
      have materialized : Materialized rnn := coherent.canonical (by simp)
      have restored : Materialized (frame.restore rnn) := restored_materialized materialized
      change Coherent toHalf
        (restoreGpuReviewStatesAfterUndo toHalf frame.ids answers ⟨frame.restore rnn, gpu, rest⟩).2
      unfold restoreGpuReviewStatesAfterUndo
      cases gpu with
      | none => exact absent_coherent fun _ => restored
      | some predictor =>
          simp only
          split
          · rename_i after last ran
            refine ⟨?_, fun _ => restored⟩
            intro other same
            cases same
            exact restore_coherent materialized (coherent.predictor predictor rfl) ran
          · exact absent_coherent fun _ => restored

theorem store_stays (ids : ReviewIds) (state : EntityModule → NativeRnnModuleState V)
    (globalState : NativeRnnModuleState V) (answers : List (Option String)) :
    Keeps (StaysCoherent toHalf) (do
      update fun runtime =>
        { runtime with rnn := insertReviewStates ids state globalState runtime.rnn }
      syncGpuReviewStates toHalf ids answers) :=
  fun _ coherent => store_coherent coherent

theorem perform_stays (device : PredictorDevice) (call : PredictorCall V) :
    Keeps (StaysCoherent toHalf) (call.perform toHalf device) := by
  cases call with
  | predict features ids useSlotCache answers launch =>
      apply keeps_bind stays_chain (fun _ => ensure_coherent)
      intro _
      exact on_predictor_stays fun _ => predict_keeps features ids useSlotCache launch
  | submit features ids useSlotCache answers launch =>
      apply keeps_bind stays_chain (fun _ => ensure_coherent)
      intro _
      exact on_predictor_stays fun _ => submit_keeps features ids useSlotCache launch
  | storeReviewStates ids state globalState answers =>
      have stays : Keeps (StaysCoherent toHalf) _ :=
        then_nothing (store_stays ids state globalState answers)
      rw [bind_assoc] at stays
      exact stays
  | captureUndo ids =>
      have stays : Keeps (StaysCoherent toHalf) _ := then_nothing (capture_stays ids)
      rw [bind_assoc] at stays
      exact stays
  | undo answers => exact then_nothing fun _ => undo_coherent
  | dropOldestUndo => exact then_nothing (keeps_update fun _ => drop_coherent)
  | clearUndoHistory => exact then_nothing (keeps_update fun _ => clear_coherent)
  | materialize => exact then_nothing fun _ => materialize_coherent
  | invalidateGpu =>
      apply then_nothing
      apply keeps_update
      intro runtime coherent
      exact absent_coherent coherent.canonical
  | replaceStates rnn =>
      apply then_nothing
      apply keeps_update
      intro runtime _
      exact absent_coherent fun frames => absurd rfl frames

/-- The state that calls reach, each of them successful or not, from CPU states without a
predictor. -/
def reached (toHalf : V → H) (device : PredictorDevice) (rnn : NativeRnn V)
    (calls : List (PredictorCall V)) : PredictorRuntime V H :=
  calls.foldl (fun runtime call => (call.perform toHalf device runtime).2) ⟨rnn, none, []⟩

theorem calls_coherent (device : PredictorDevice) (calls : List (PredictorCall V))
    {runtime : PredictorRuntime V H} (coherent : Coherent toHalf runtime) :
    Coherent toHalf
      (calls.foldl (fun runtime call => (call.perform toHalf device runtime).2) runtime) := by
  induction calls generalizing runtime with
  | nil => exact coherent
  | cons call calls ih => exact ih (perform_stays device call runtime coherent)

/-- A successful prediction uses the slots that the maps it leaves assign to its rows. -/
def UsesAssigned (toHalf : V → H) (ids : List ReviewIds)
    (prediction : Method (PredictorRuntime V H) (List RowSlots))
    (runtime : PredictorRuntime V H) : Prop :=
  ∀ slots after, prediction runtime = (.ok slots, after) →
    ∃ predictor, after.gpu = some predictor ∧ PredictorCoherent toHalf after.rnn predictor ∧
      List.Forall₂ (Assigned predictor) ids slots

theorem prediction_uses_assigned {device : PredictorDevice} {answers : List (Option String)}
    {ids : List ReviewIds} {step : Method (GpuPredictor H) (List RowSlots)}
    (keeps : ∀ rnn : NativeRnn V, Keeps (CacheOnly toHalf rnn) step)
    (assigned : ∀ (rnn : NativeRnn V) predictor after slots,
      PredictorCoherent toHalf rnn predictor → step predictor = (.ok slots, after) →
        List.Forall₂ (Assigned predictor) ids slots)
    {runtime : PredictorRuntime V H} (coherent : Coherent toHalf runtime) :
    UsesAssigned toHalf ids (do
      ensureGpu toHalf device answers
      onPredictor step) runtime := by
  intro slots after ran
  obtain ⟨_, built, ensured, rest⟩ := bind_ok_steps ran
  have ready : Coherent toHalf (ensureGpu toHalf device answers runtime).2 :=
    ensure_coherent coherent
  rw [ensured] at ready
  unfold onPredictor at rest
  split at rest
  · rename_i predictor present
    have before := ready.predictor predictor present
    have only := keeps built.rnn predictor
    cases stepped : step predictor with
    | mk result last =>
        rw [stepped] at rest only
        cases rest
        refine ⟨last, rfl, only.coherent before, ?_⟩
        exact (assigned built.rnn predictor last slots before stepped).imp
          fun _ _ slot => only.assigned_after slot
  · cases rest

theorem predictor_slots_coherent (toHalf : V → H) (device : PredictorDevice) (rnn : NativeRnn V)
    (calls : List (PredictorCall V)) :
    Coherent toHalf (reached toHalf device rnn calls) ∧
      ∀ features ids useSlotCache answers launch,
        UsesAssigned toHalf ids
            (predictGpu toHalf device features ids useSlotCache answers launch)
            (reached toHalf device rnn calls) ∧
          UsesAssigned toHalf ids
            (submitGpuPrediction toHalf device features ids useSlotCache answers launch)
            (reached toHalf device rnn calls) := by
  have start : Coherent toHalf (⟨rnn, none, []⟩ : PredictorRuntime V H) :=
    absent_coherent fun frames => absurd rfl frames
  have coherent := calls_coherent device calls start
  refine ⟨coherent, ?_⟩
  intro features ids useSlotCache answers launch
  constructor
  · apply prediction_uses_assigned _ _ coherent
    · intro _
      exact predict_keeps features ids useSlotCache launch
    · intro _ _ _ _ before ran
      exact predict_assigned before ran
  · apply prediction_uses_assigned _ _ coherent
    · intro _
      exact submit_keeps features ids useSlotCache launch
    · intro _ _ _ _ before ran
      exact submit_assigned before ran

section Built

/-- Its buffers hold one state each. -/
def oneSlotDevice : PredictorDevice := ⟨fun _ => 1, 1, flatStateLayerElements * 2, by decide⟩

def uniformTensor (dims : List Nat) (value : Nat) : Tensor Nat :=
  ⟨dims, List.replicate dims.prod value, List.length_replicate⟩

def uniformState (value : Nat) : NativeRnnModuleState Nat :=
  ⟨[uniformTensor [flatStateChannels] value], [uniformTensor [flatStateMatrixElements] value],
    [uniformTensor [flatStateChannels] value]⟩

def noStates : NativeRnn Nat := ⟨fun _ => ∅, none, fun _ => ∅, none⟩

/-- The predictor is built by a prediction, follows a review and is restored by its undo. -/
def builtCalls : List (PredictorCall Nat) :=
  [.storeReviewStates (1, 2, 3, 4) (fun _ => uniformState 5) (uniformState 6) [],
    .predict [List.replicate 92 0] [(1, 2, 3, 4)] false [] ⟨.ok (), .ok ()⟩,
    .captureUndo (1, 2, 3, 4),
    .storeReviewStates (1, 2, 3, 4) (fun _ => uniformState 7) (uniformState 8) [],
    .undo []]

def builtRuntime : PredictorRuntime Nat Nat := reached id oneSlotDevice noStates builtCalls

def builtPrediction : Except Failure (List RowSlots) × PredictorRuntime Nat Nat :=
  predictGpu id oneSlotDevice [List.replicate 92 0] [(1, 2, 3, 4)] false [] ⟨.ok (), .ok ()⟩
    builtRuntime

def cardAndGlobal (slots : List RowSlots) : List (UInt32 × UInt32) :=
  slots.map fun row => (row.keyed .card, row.global)

theorem built_prediction_found : builtRuntime.gpu.isSome ∧
    (builtPrediction.1.toOption.map cardAndGlobal) = some [(0, 0)] := by
  decide +kernel

/-- The restored predictor answers from the slots that its maps assign. -/
theorem built_predictor_coherent :
    builtRuntime.gpu.isSome ∧ ∃ slots after predictor, builtPrediction = (.ok slots, after) ∧
      cardAndGlobal slots = [(0, 0)] ∧ after.gpu = some predictor ∧
      PredictorCoherent id after.rnn predictor ∧
      List.Forall₂ (Assigned predictor) [(1, 2, 3, 4)] slots := by
  obtain ⟨built, found⟩ := built_prediction_found
  refine ⟨built, ?_⟩
  cases ran : builtPrediction with
  | mk result after =>
      rw [ran] at found
      cases result with
      | error failure => cases found
      | ok slots =>
          obtain ⟨predictor, present, coherent, assigned⟩ :=
            ((predictor_slots_coherent id oneSlotDevice noStates builtCalls).2
              [List.replicate 92 0] [(1, 2, 3, 4)] false [] ⟨.ok (), .ok ()⟩).1 slots after ran
          exact ⟨slots, after, predictor, rfl, Option.some.inj found, present, coherent, assigned⟩

end Built

end RwkvSrs.PredictorRuns
