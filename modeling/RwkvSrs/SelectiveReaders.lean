import RwkvSrs.ReaderRules
import RwkvSrs.RuntimeRestore

/-!
Reading part of a checkpoint of the second version. A selective reader narrows
the full one: wherever the full reader succeeds, the selective one returns the
same value without the identities outside the scope and leaves the cursor at the
same place. For the state maps this needs the invariant that the next entry
begins where the lengths of the entries before it add up to, read or not.
-/

namespace RwkvSrs.SelectiveReaders

open Std CheckpointBytes CheckpointReader DeterministicState ModuleState RuntimeRestore
open ReaderRules

set_option autoImplicit false

section Collections

variable {Value : Type}

def retainSet (values ids : ExtTreeSet Int64) : ExtTreeSet Int64 :=
  values.filter fun identity => decide (identity ∈ ids)

theorem retained_member (values ids : ExtTreeSet Int64) (identity : Int64) :
    identity ∈ retainSet values ids ↔ identity ∈ values ∧ identity ∈ ids := by
  simp [retainSet, ExtTreeSet.mem_filter]

theorem retained_entry (map : ExtTreeMap Int64 Value) (ids : ExtTreeSet Int64) (identity : Int64) :
    (retainMap map ids)[identity]? = if identity ∈ ids then map[identity]? else none := by
  rw [retainMap, ExtTreeMap.getElem?_filter']
  by_cases inside : identity ∈ ids
  · cases map[identity]? with
    | none => simp [inside]
    | some value => simp [inside]
  · cases map[identity]? with
    | none => simp [inside]
    | some value => simp [inside]

theorem retained_empty (ids : ExtTreeSet Int64) :
    retainMap (∅ : ExtTreeMap Int64 Value) ids = ∅ := by
  apply ExtTreeMap.ext_getElem?
  intro identity
  simp [retained_entry]

theorem retained_insert (map : ExtTreeMap Int64 Value) (ids : ExtTreeSet Int64)
    (identity : Int64) (value : Value) :
    retainMap (map.insert identity value) ids =
      if identity ∈ ids then (retainMap map ids).insert identity value else retainMap map ids := by
  apply ExtTreeMap.ext_getElem?
  intro other
  by_cases inside : identity ∈ ids
  · rw [if_pos inside, retained_entry, ExtTreeMap.getElem?_insert, ExtTreeMap.getElem?_insert,
      retained_entry]
    by_cases same : identity = other
    · simp [← same, inside]
    · simp [same]
  · rw [if_neg inside, retained_entry, retained_entry, ExtTreeMap.getElem?_insert]
    by_cases same : identity = other
    · simp [← same, inside]
    · simp [same]

theorem collected_map (ids : ExtTreeSet Int64) (kept : ExtTreeMap Int64 Value)
    (entries : List (Int64 × Value)) :
    collectMap (some ids) (retainMap kept ids) entries =
      retainMap (collectMap none kept entries) ids := by
  induction entries generalizing kept with
  | nil => rfl
  | cons entry entries ih =>
      have next := ih (kept.insert entry.1 entry.2)
      rw [retained_insert] at next
      by_cases inside : entry.1 ∈ ids
      · rw [if_pos inside] at next
        simpa [collectMap, isSelected, inside] using next
      · rw [if_neg inside] at next
        simpa [collectMap, isSelected, inside] using next

theorem collected_fold (ids : ExtTreeSet Int64) (values : List Int64)
    (kept narrowed : ExtTreeSet Int64) (same : narrowed = retainSet kept ids) :
    values.foldl (fun kept value =>
        if isSelected (some ids) value then kept.insert value else kept) narrowed =
      retainSet (values.foldl (fun kept value =>
        if isSelected none value then kept.insert value else kept) kept) ids := by
  induction values generalizing kept narrowed with
  | nil => exact same
  | cons value values ih =>
      apply ih
      apply ExtTreeSet.ext_mem
      intro identity
      subst same
      by_cases inside : value ∈ ids
      · by_cases equal : value = identity
        · simp [isSelected, inside, retained_member, ← equal]
        · simp [isSelected, inside, retained_member, equal]
      · by_cases equal : value = identity
        · simp [isSelected, inside, retained_member, ← equal]
        · simp [isSelected, inside, retained_member, equal]

theorem collected_set (ids : ExtTreeSet Int64) (values : List Int64) :
    collectSet (some ids) values = retainSet (collectSet none values) ids := by
  apply collected_fold
  apply ExtTreeSet.ext_mem
  intro identity
  simp [retained_member]

theorem collected_from (values : List Int64) (kept : ExtTreeSet Int64) (identity : Int64) :
    identity ∈ values.foldl (fun kept value =>
        if isSelected none value then kept.insert value else kept) kept ↔
      identity ∈ kept ∨ identity ∈ values := by
  induction values generalizing kept with
  | nil => simp
  | cons value values ih =>
      rw [List.foldl_cons, ih, List.mem_cons]
      simp only [isSelected, if_true, ExtTreeSet.mem_insert, Std.compare_eq_iff_eq, or_assoc]
      rw [or_left_comm, eq_comm]

theorem collected_member (values : List Int64) (identity : Int64) :
    identity ∈ collectSet none values ↔ identity ∈ values := by
  rw [collectSet, collected_from]
  simp

end Collections

section Rules

variable {Value Next : Type}

def Narrows (keep : Value → Value) (full selective : Reader Value) : Prop :=
  ∀ cursor value reached, Within cursor → full cursor = .ok (value, reached) →
    selective cursor = .ok (keep value, reached)

theorem narrows_pure {keep : Value → Value} {value kept : Value} (same : keep value = kept) :
    Narrows keep (pure value) (pure kept) := by
  intro cursor read reached _ ok
  cases ok
  rw [same]
  rfl

theorem narrows_fail (keep : Value → Value) (message : String) (selective : Reader Value) :
    Narrows keep (fail message) selective := by
  intro cursor value reached _ ok
  cases ok

theorem narrows_bind {keepFirst : Value → Value} {keep : Next → Next}
    {full selective : Reader Value} {next nextSelective : Value → Reader Next}
    (steady : Steady Value full) (head : Narrows keepFirst full selective)
    (tail : ∀ value, Narrows keep (next value) (nextSelective (keepFirst value))) :
    Narrows keep (full >>= next) (selective >>= nextSelective) := by
  intro cursor result last within ok
  obtain ⟨value, reached, firstOk, nextOk⟩ := bind_read.mp ok
  have reachedWithin := (steady cursor value reached within firstOk).2
  have headOk := head cursor value reached within firstOk
  have tailOk := tail value reached result last reachedWithin nextOk
  exact bind_read.mpr ⟨keepFirst value, reached, headOk, tailOk⟩

theorem narrows_same (read : Reader Value) : Narrows id read read := by
  intro cursor value reached _ ok
  exact ok

/-- A section that no scope concerns is read the same way in both. -/
theorem narrows_after {keep : Next → Next} {read : Reader Value}
    {next nextSelective : Value → Reader Next} (steady : Steady Value read)
    (tail : ∀ value, Narrows keep (next value) (nextSelective value)) :
    Narrows keep (read >>= next) (read >>= nextSelective) :=
  narrows_bind steady (narrows_same read) tail

end Rules

theorem set_narrows (field : String) (ids : ExtTreeSet Int64) :
    Narrows (retainSet · ids) (binReadI64SetSelected field none)
      (binReadI64SetSelected field (some ids)) := by
  apply narrows_after (steady_rules.usize field)
  intro len
  apply narrows_after (steady_rules.items (fun _ => steady_rules.i64 field) 0 len)
  intro values
  apply narrows_pure
  rw [collected_set]

section Maps

variable {Value : Type}

theorem map_narrows (field : String) {read : Reader Value} (steady : Steady Value read)
    (ids : ExtTreeSet Int64) :
    Narrows (retainMap · ids) (binReadI64MapSelected field read none)
      (binReadI64MapSelected field read (some ids)) := by
  apply narrows_after (steady_rules.usize field)
  intro len
  apply narrows_after (steady_rules.entries field steady len)
  intro entries
  apply narrows_pure
  rw [← collected_map, retained_empty]

end Maps

def retainEncodings (scope : CheckpointScope) (encodings : IdEncodings Binary32) :
    IdEncodings Binary32 :=
  fun submodule => retainMap (encodings submodule) (scope.idsForSubmodule submodule)

theorem submodule_encodings_narrow (scope : CheckpointScope) (out : IdEncodings Binary32) :
    Narrows (retainEncodings scope) (binReadSubmoduleEncodings none out)
      (binReadSubmoduleEncodings (some scope) (retainEncodings scope out)) := by
  apply narrows_after (steady_rules.string _)
  intro name
  cases idSubmodules.find? fun submodule => submodule.name == name with
  | none => apply narrows_fail
  | some submodule =>
      apply narrows_after (steady_rules.usize _)
      intro encodingCount
      apply narrows_after (steady_rules.items (steady_rules.id_encoding submodule) 0 encodingCount)
      intro entries
      apply narrows_pure
      funext other
      by_cases same : other = submodule
      · subst same
        simp [retainEncodings, collected_map]
      · simp [retainEncodings, same]

theorem modules_narrow (scope : CheckpointScope) (count : Nat) (out : IdEncodings Binary32) :
    Narrows (retainEncodings scope) (readModules none count out)
      (readModules (some scope) count (retainEncodings scope out)) := by
  induction count generalizing out with
  | zero =>
      apply narrows_pure
      rfl
  | succ count ih =>
      apply narrows_bind (steady_rules.submodule_encodings none out)
      · exact submodule_encodings_narrow scope out
      · intro next
        exact ih next

theorem id_encodings_narrow (scope : CheckpointScope) :
    Narrows (retainEncodings scope) (binReadIdEncodingsSelected none)
      (binReadIdEncodingsSelected (some scope)) := by
  have start : retainEncodings scope emptyIdEncodings = emptyIdEncodings := by
    funext submodule
    apply retained_empty
  apply narrows_after (steady_rules.usize _)
  intro moduleCount
  have narrowed := modules_narrow scope moduleCount emptyIdEncodings
  rw [start] at narrowed
  exact narrowed

section StateMaps

abbrev EntityState := NativeRnnModuleState Binary32

/-- One entry of the index, read through an adapter of its declared length. -/
def entryState (entryField : String) (byteLen : Nat) : Reader EntityState := do
  let read ← limited byteLen (binReadEntityState entryField)
  if read.2 ≠ 0 then
    fail (entryField ++ " expected " ++ toString byteLen ++ " bytes, consumed " ++
      toString (byteLen - read.2))
  else return read.1

theorem entry_state_stops {entryField : String} {byteLen : Nat} {cursor reached : Cursor}
    {state : EntityState} (within : Within cursor)
    (ok : entryState entryField byteLen cursor = .ok (state, reached)) :
    reached = ⟨cursor.bytes, cursor.position + byteLen⟩ ∧ Within reached := by
  obtain ⟨pair, stopped, limitedOk, checked⟩ := bind_read.mp ok
  obtain ⟨found, remaining⟩ := pair
  obtain ⟨sameBytes, stoppedWithin, stopsAt⟩ :=
    limited_stops (steady_rules.entity_state entryField) within limitedOk
  by_cases used : remaining = 0
  · have stops := stopsAt used
    simp only [used, ne_eq, not_true_eq_false, if_false] at checked
    cases checked
    apply And.intro
    · rw [← sameBytes, ← stops]
    · exact stoppedWithin
  · simp only [ne_eq, used, not_false_eq_true, if_true] at checked
    cases checked

/-- Whether the reader seeks or already stands there, it goes on at the offset. -/
theorem goes_on_at {Next : Type} (next : Unit → Reader Next) {standing offset : Nat}
    (context : String) {cursor : Cursor} (here : cursor.position = standing)
    (small : offset < 2 ^ 63) :
    (if standing ≠ offset then seekTo offset context >>= next else next ()) cursor =
      next () ⟨cursor.bytes, offset⟩ := by
  by_cases stands : standing = offset
  · rw [if_neg (not_not.mpr stands), ← stands, ← here]
  · rw [if_pos stands]
    change (seekTo offset context cursor >>= fun pair => next pair.1 pair.2) = _
    rw [seekTo, if_pos small]
    rfl

theorem entry_skipped (field : String) {selectedIds : Option (ExtTreeSet Int64)}
    (reached : IndexedPosition) {identity : Int64} {byteLen : Nat} (cursor : Cursor)
    (fits : reached.offset + byteLen < 2 ^ 64) (outside : isSelected selectedIds identity = false) :
    binReadIndexedEntry field selectedIds reached (identity, byteLen) cursor =
      .ok ({ reached with offset := reached.offset + byteLen }, cursor) := by
  simp only [binReadIndexedEntry, outside, if_neg (Nat.not_le_of_lt fits)]
  rfl

theorem entry_read (field : String) {selectedIds : Option (ExtTreeSet Int64)}
    {reached : IndexedPosition} {identity : Int64} {byteLen : Nat} {cursor : Cursor}
    (fits : reached.offset + byteLen < 2 ^ 64) (selected : isSelected selectedIds identity = true)
    (here : cursor.position = reached.readerPosition) (small : reached.offset < 2 ^ 63) :
    binReadIndexedEntry field selectedIds reached (identity, byteLen) cursor =
      (entryState (field ++ "[" ++ toString identity ++ "]") byteLen >>= fun state =>
        pure ⟨reached.offset + byteLen, reached.offset + byteLen,
          reached.states.insert identity state⟩) ⟨cursor.bytes, reached.offset⟩ := by
  simp only [binReadIndexedEntry, selected, if_neg (Nat.not_le_of_lt fits), if_true]
  rw [goes_on_at _ _ here small]
  rw [entryState, bind_assoc]
  apply congrFun
  apply bind_congr
  intro read
  by_cases used : read.2 = 0
  · simp only [used, ne_eq, not_true_eq_false, if_false, pure_bind]
  · simp only [used, ne_eq, not_false_eq_true, if_true]
    rfl

/-- The full reader stands where the next entry begins. -/
structure AtOffset (reached : IndexedPosition) (cursor : Cursor) : Prop where
  standing : reached.readerPosition = reached.offset
  here : cursor.position = reached.offset
  within : Within cursor

/-- The selective reader keeps the same offset and the selected states, and stands wherever it
read last. -/
structure Behind (ids : ExtTreeSet Int64) (full selective : IndexedPosition)
    (fullCursor cursor : Cursor) : Prop where
  offset : selective.offset = full.offset
  states : selective.states = retainMap full.states ids
  bytes : cursor.bytes = fullCursor.bytes
  here : cursor.position = selective.readerPosition

theorem at_offset_small {reached : IndexedPosition} {cursor : Cursor}
    (stands : AtOffset reached cursor) : reached.offset < 2 ^ 63 := by
  rw [← stands.here]
  exact Nat.lt_of_le_of_lt stands.within.inside stands.within.addressable

theorem indexed_entry_narrows {field : String} {ids : ExtTreeSet Int64}
    {full selective after : IndexedPosition} {entry : Int64 × Nat}
    {fullCursor cursor reached : Cursor} (stands : AtOffset full fullCursor)
    (behind : Behind ids full selective fullCursor cursor)
    (ok : binReadIndexedEntry field none full entry fullCursor = .ok (after, reached)) :
    reached.bytes = fullCursor.bytes ∧ AtOffset after reached ∧
      ∃ kept stopped, binReadIndexedEntry field (some ids) selective entry cursor =
          .ok (kept, stopped) ∧ Behind ids after kept reached stopped := by
  obtain ⟨identity, byteLen⟩ := entry
  have small := at_offset_small stands
  have fits : full.offset + byteLen < 2 ^ 64 := by
    by_contra overflows
    rw [Nat.not_lt] at overflows
    simp only [binReadIndexedEntry, if_pos overflows] at ok
    cases ok
  have here : fullCursor.position = full.readerPosition := stands.here.trans stands.standing.symm
  rw [entry_read field fits rfl here small] at ok
  obtain ⟨state, stateCursor, stateOk, pushed⟩ := bind_read.mp ok
  have begins : (⟨fullCursor.bytes, full.offset⟩ : Cursor) = fullCursor := by rw [← stands.here]
  have within : Within ⟨fullCursor.bytes, full.offset⟩ := by
    rw [begins]
    exact stands.within
  obtain ⟨stops, stopsWithin⟩ := entry_state_stops within stateOk
  cases pushed
  subst stops
  refine ⟨rfl, ⟨rfl, rfl, stopsWithin⟩, ?_⟩
  have fitsToo : selective.offset + byteLen < 2 ^ 64 := by
    rw [behind.offset]
    exact fits
  by_cases inside : identity ∈ ids
  · have selected : isSelected (some ids) identity = true := decide_eq_true inside
    rw [entry_read field fitsToo selected behind.here (behind.offset ▸ small), behind.bytes,
      behind.offset]
    refine ⟨_, _, bind_read.mpr ⟨state, _, stateOk, rfl⟩, rfl, ?_, rfl, rfl⟩
    rw [retained_insert, if_pos inside, behind.states]
  · have outside : isSelected (some ids) identity = false := decide_eq_false inside
    rw [entry_skipped field selective cursor fitsToo outside]
    refine ⟨_, _, rfl, ?_, ?_, behind.bytes, behind.here⟩
    · rw [behind.offset]
    · rw [retained_insert, if_neg inside]
      exact behind.states

theorem indexed_entries_narrow {field : String} {ids : ExtTreeSet Int64}
    {full selective after : IndexedPosition} {index : List (Int64 × Nat)}
    {fullCursor cursor reached : Cursor} (stands : AtOffset full fullCursor)
    (behind : Behind ids full selective fullCursor cursor)
    (ok : index.foldlM (binReadIndexedEntry field none) full fullCursor = .ok (after, reached)) :
    reached.bytes = fullCursor.bytes ∧ AtOffset after reached ∧
      ∃ kept stopped, index.foldlM (binReadIndexedEntry field (some ids)) selective cursor =
          .ok (kept, stopped) ∧ Behind ids after kept reached stopped := by
  induction index generalizing full selective fullCursor cursor with
  | nil =>
      cases ok
      exact ⟨rfl, stands, selective, cursor, rfl, behind⟩
  | cons entry index ih =>
      rw [List.foldlM_cons] at ok
      obtain ⟨next, nextCursor, entryOk, restOk⟩ := bind_read.mp ok
      obtain ⟨nextBytes, nextStands, kept, stopped, keptOk, nextBehind⟩ :=
        indexed_entry_narrows stands behind entryOk
      obtain ⟨lastBytes, lastStands, last, lastCursor, lastOk, lastBehind⟩ :=
        ih nextStands nextBehind restOk
      refine ⟨lastBytes.trans nextBytes, lastStands, last, lastCursor, ?_, lastBehind⟩
      rw [List.foldlM_cons]
      exact bind_read.mpr ⟨kept, stopped, keptOk, lastOk⟩

/-- What follows the index of a state map. -/
def readIndexed (field : String) (selectedIds : Option (ExtTreeSet Int64))
    (index : List (Int64 × Nat)) : Reader StateMap := do
  let dataStart ← streamPosition
  let reached ← index.foldlM (binReadIndexedEntry field selectedIds) ⟨dataStart, dataStart, ∅⟩
  if reached.readerPosition ≠ reached.offset then
    seekTo reached.offset ("failed to seek past Rust checkpoint field " ++ field)
  return reached.states

theorem indexed_read {field : String} {ids : ExtTreeSet Int64} {index : List (Int64 × Nat)}
    {cursor last : Cursor} {states : StateMap} (within : Within cursor)
    (ok : readIndexed field none index cursor = .ok (states, last)) :
    (last.bytes = cursor.bytes ∧ Within last) ∧
      readIndexed field (some ids) index cursor = .ok (retainMap states ids, last) := by
  obtain ⟨dataStart, startCursor, startOk, entriesOk⟩ := bind_read.mp ok
  cases startOk
  obtain ⟨reached, reachedCursor, foldOk, finished⟩ := bind_read.mp entriesOk
  have stands : AtOffset ⟨cursor.position, cursor.position, ∅⟩ cursor := ⟨rfl, rfl, within⟩
  have behind : Behind ids ⟨cursor.position, cursor.position, ∅⟩
      ⟨cursor.position, cursor.position, ∅⟩ cursor cursor :=
    ⟨rfl, (retained_empty ids).symm, rfl, rfl⟩
  obtain ⟨sameBytes, ends, kept, stopped, keptOk, keptBehind⟩ :=
    indexed_entries_narrow stands behind foldOk
  have small := at_offset_small ends
  have here : reachedCursor.position = reached.readerPosition :=
    ends.here.trans ends.standing.symm
  have sameCursor : (⟨reachedCursor.bytes, reached.offset⟩ : Cursor) = reachedCursor := by
    rw [← ends.here]
  dsimp only at finished
  rw [goes_on_at _ _ here small, sameCursor] at finished
  cases finished
  apply And.intro ⟨sameBytes, ends.within⟩
  apply bind_read.mpr
  refine ⟨cursor.position, cursor, rfl, ?_⟩
  apply bind_read.mpr
  refine ⟨kept, stopped, keptOk, ?_⟩
  dsimp only
  rw [goes_on_at _ _ keptBehind.here (keptBehind.offset ▸ small), keptBehind.bytes,
    keptBehind.offset, keptBehind.states, sameCursor]
  rfl

theorem steady_indexed_state_map (field : String) :
    Steady StateMap (binReadIndexedStateMap field none) := by
  apply steady_bind (steady_rules.usize field)
  intro len
  apply steady_bind (steady_rules.capacity 16 len field)
  intro _
  apply steady_bind (steady_rules.index field len)
  intro index cursor states last within ok
  exact (@indexed_read field ∅ index cursor last states within ok).1

theorem indexed_state_map_narrows (field : String) (ids : ExtTreeSet Int64) :
    Narrows (retainMap · ids) (binReadIndexedStateMap field none)
      (binReadIndexedStateMap field (some ids)) := by
  apply narrows_after (steady_rules.usize field)
  intro len
  apply narrows_after (steady_rules.capacity 16 len field)
  intro _
  apply narrows_after (steady_rules.index field len)
  intro index cursor states last within ok
  exact (indexed_read within ok).2

end StateMaps

def narrowContents (scope : CheckpointScope) (contents : CheckpointContents) :
    CheckpointContents :=
  { contents with
    cardSet := retainSet contents.cardSet scope.cardIds
    lastNewCards := retainMap contents.lastNewCards scope.cardIds
    lastI := retainMap contents.lastI scope.cardIds
    card2firstDayOffset := retainMap contents.card2firstDayOffset scope.cardIds
    card2elapsedDaysCumulative := retainMap contents.card2elapsedDaysCumulative scope.cardIds
    card2elapsedSecondsCumulative :=
      retainMap contents.card2elapsedSecondsCumulative scope.cardIds
    idEncodings := retainEncodings scope contents.idEncodings
    cardStates := retainMap contents.cardStates scope.cardIds
    noteStates := retainMap contents.noteStates scope.noteIds
    deckStates := retainMap contents.deckStates scope.deckIds
    presetStates := retainMap contents.presetStates scope.presetIds }

theorem contents_narrow (scope : CheckpointScope) :
    Narrows (narrowContents scope) (readContentsV2 none) (readContentsV2 (some scope)) := by
  apply narrows_after (steady_rules.option_f64 "first_day_offset")
  intro firstDayOffset
  apply narrows_after (steady_rules.option_f64 "prev_day_offset")
  intro prevDayOffset
  apply narrows_after (steady_rules.usize "card_count")
  intro cardCount
  apply narrows_bind (steady_rules.i64_set "card_set" none) (set_narrows "card_set" scope.cardIds)
  intro cardSet
  apply narrows_bind (steady_rules.i64_map "last_new_cards" (steady_rules.word "last_new_cards") none)
    (map_narrows "last_new_cards" (steady_rules.word "last_new_cards") scope.cardIds)
  intro lastNewCards
  apply narrows_after (steady_rules.i64 "i")
  intro i
  apply narrows_bind (steady_rules.i64_map "last_i" (steady_rules.i64 "last_i") none)
    (map_narrows "last_i" (steady_rules.i64 "last_i") scope.cardIds)
  intro lastI
  apply narrows_after (steady_rules.f64 "today")
  intro today
  apply narrows_after (steady_rules.i64 "today_reviews")
  intro todayReviews
  apply narrows_after (steady_rules.i64 "today_new_cards")
  intro todayNewCards
  apply narrows_bind (steady_rules.i64_map "card2first_day_offset" (steady_rules.f64 _) none)
    (map_narrows "card2first_day_offset" (steady_rules.f64 _) scope.cardIds)
  intro card2firstDayOffset
  apply narrows_bind (steady_rules.i64_map "card2elapsed_days_cumulative" (steady_rules.f64 _) none)
    (map_narrows "card2elapsed_days_cumulative" (steady_rules.f64 _) scope.cardIds)
  intro card2elapsedDaysCumulative
  apply narrows_bind (steady_rules.i64_map "card2elapsed_seconds_cumulative" (steady_rules.f64 _) none)
    (map_narrows "card2elapsed_seconds_cumulative" (steady_rules.f64 _) scope.cardIds)
  intro card2elapsedSecondsCumulative
  apply narrows_bind (steady_rules.id_encodings none) (id_encodings_narrow scope)
  intro idEncodings
  apply narrows_after (steady_rules.bytes "torch_rng_state")
  intro rngState
  apply narrows_bind (steady_indexed_state_map "card_states")
    (indexed_state_map_narrows "card_states" scope.cardIds)
  intro cardStates
  apply narrows_bind (steady_indexed_state_map "note_states")
    (indexed_state_map_narrows "note_states" scope.noteIds)
  intro noteStates
  apply narrows_bind (steady_indexed_state_map "deck_states")
    (indexed_state_map_narrows "deck_states" scope.deckIds)
  intro deckStates
  apply narrows_bind (steady_indexed_state_map "preset_states")
    (indexed_state_map_narrows "preset_states" scope.presetIds)
  intro presetStates
  apply narrows_after (steady_rules.optional_state "global_state")
  intro globalState
  apply narrows_pure
  rfl

end RwkvSrs.SelectiveReaders
