import RwkvSrs.MergeCopies

/-!
Copying the indexed state maps. Whatever form an entry has, it writes the bytes of
one state: those the backing file holds at its offset, or those of a state of the
runtime. The merged map lists the backing states outside the scope and every
state of the runtime, in the order of their identities.
-/

namespace RwkvSrs.MergedStates

open Std CheckpointBytes CheckpointPieces CheckpointReader CheckpointRoundTrip CheckpointSections
open CheckpointWriter DeterministicState FallibleMethod KeyedMerge MergeCopies MergedSave
open ModuleState NativeRnnState ReadBack RuntimeRestore SectionReadBack SelectiveReaders

set_option autoImplicit false

/-- What an entry writes. -/
def entryBytes (file : List UInt8) : MergedStateEntry → List UInt8
  | .backing offset byteLen => (file.drop offset).take byteLen
  | .current state => statePiece state
  | .flat state => statePiece state.materialize

/-- The backing file holds what is copied from it, and what is written can be written. -/
def Copyable (file : List UInt8) : MergedStateEntry → Prop
  | .backing offset byteLen => offset + byteLen ≤ file.length
  | .current state => StorableState state ∧ (statePiece state).length < 2 ^ 64
  | .flat state => (statePiece state.materialize).length < 2 ^ 64

/-- An entry of the backing file, which does hold it. -/
structure FromBacking (file : List UInt8) (entry : MergedStateEntry) : Prop where
  copyable : Copyable file entry
  backing : entry.isCpuState = false

theorem entry_byte_len {file : List UInt8} {entry : MergedStateEntry}
    (copyable : Copyable file entry) : entry.byteLen = .ok (entryBytes file entry).length := by
  cases entry with
  | backing offset byteLen =>
      have inside : offset + byteLen ≤ file.length := copyable
      have length : ((file.drop offset).take byteLen).length = byteLen := by
        rw [List.length_take, List.length_drop]
        omega
      rw [entryBytes, length]
      rfl
  | current state => exact @entry_size_declared (.inl state) copyable.1 copyable.2
  | flat state => exact @entry_size_declared (.inr state) (flat_storable state) copyable

theorem write_state (reader : Cursor) (start : List UInt8) {made : Except String (List UInt8)}
    {piece : List UInt8} (same : made = .ok piece) :
    binWriteChecked made ⟨reader, ⟨start, start.length⟩⟩ =
      (.ok (), ⟨reader, ⟨start ++ piece, start.length + piece.length⟩⟩) := by
  subst same
  rw [← write_appends]
  rfl

/-- Wherever the reader stands, the entry's state is appended. -/
theorem state_copied (field : String) {file : List UInt8} (small : file.length < 2 ^ 63)
    {entry : Int64 × MergedStateEntry} (copyable : Copyable file entry.2) (position : Nat)
    (start : List UInt8) :
    ∃ reached, copyState field position entry ⟨⟨file, position⟩, ⟨start, start.length⟩⟩ =
      (.ok reached, ⟨⟨file, reached⟩, ⟨start ++ entryBytes file entry.2,
        start.length + (entryBytes file entry.2).length⟩⟩) := by
  obtain ⟨identity, held⟩ := entry
  cases held with
  | backing offset byteLen =>
      have inside : offset + byteLen ≤ file.length := copyable
      have length : ((file.drop offset).take byteLen).length = byteLen := by
        rw [List.length_take, List.length_drop]
        omega
      refine ⟨offset + byteLen, ?_⟩
      have copied : copyAvailable byteLen ⟨⟨file, offset⟩, ⟨start, start.length⟩⟩ =
          (.ok byteLen, ⟨⟨file, offset + byteLen⟩, ⟨start ++ (file.drop offset).take byteLen,
            start.length + ((file.drop offset).take byteLen).length⟩⟩) := by
        simp only [copyAvailable, write_appends, length]
      have finished : (do
          let copied ← copyAvailable byteLen
          if copied ≠ byteLen then
            FallibleMethod.fail (.error (field ++ "[" ++ toString identity ++ "] expected " ++
              toString byteLen ++ " backing bytes, copied " ++ toString copied))
          else return offset + byteLen : Merger Nat) ⟨⟨file, offset⟩, ⟨start, start.length⟩⟩ =
          (.ok (offset + byteLen), ⟨⟨file, offset + byteLen⟩,
            ⟨start ++ (file.drop offset).take byteLen,
              start.length + ((file.drop offset).take byteLen).length⟩⟩) := by
        rw [bind_of_ok copied, if_neg (not_not.mpr rfl)]
        rfl
      rw [copyState]
      dsimp only
      by_cases stands : position = offset
      · rw [if_neg (not_not.mpr stands), stands]
        exact finished
      · rw [if_pos stands]
        have offsetSmall : offset < 2 ^ 63 := by omega
        have sought : ∀ context, reading (seekTo offset context)
            ⟨⟨file, position⟩, ⟨start, start.length⟩⟩ =
              (.ok (), ⟨⟨file, offset⟩, ⟨start, start.length⟩⟩) := by
          intro context
          rw [reading, seekTo, if_pos offsetSmall]
        exact (bind_of_ok (sought _)).trans finished
  | current state =>
      have written := write_state ⟨file, position⟩ start (state_piece_written copyable.1)
      exact ⟨position, bind_of_ok written⟩
  | flat state =>
      have made : binWriteEntry (.inr state) = .ok (statePiece state.materialize) :=
        @entry_piece_written (.inr state) (flat_storable state)
      exact ⟨position, bind_of_ok (write_state ⟨file, position⟩ start made)⟩

theorem states_copied (field : String) {file : List UInt8} (small : file.length < 2 ^ 63)
    {entries : List (Int64 × MergedStateEntry)}
    (copyable : ∀ entry ∈ entries, Copyable file entry.2) (position : Nat) (start : List UInt8) :
    ∃ reached, entries.foldlM (copyState field) position
        ⟨⟨file, position⟩, ⟨start, start.length⟩⟩ =
      (.ok reached, ⟨⟨file, reached⟩,
        ⟨start ++ entries.flatMap fun entry => entryBytes file entry.2,
          start.length + (entries.flatMap fun entry => entryBytes file entry.2).length⟩⟩) := by
  induction entries generalizing position start with
  | nil => exact ⟨position, by simp⟩
  | cons entry entries ih =>
      obtain ⟨middle, stepped⟩ := state_copied field small (copyable entry List.mem_cons_self)
        position start
      obtain ⟨reached, rest⟩ := ih (fun other member => copyable other (List.mem_cons_of_mem entry member))
        middle (start ++ entryBytes file entry.2)
      refine ⟨reached, ?_⟩
      rw [List.foldlM_cons, bind_of_ok stepped, ← List.length_append, rest, List.flatMap_cons,
        List.append_assoc, List.length_append, List.length_append, Nat.add_assoc]

theorem index_written {file : List UInt8} {entries : List (Int64 × MergedStateEntry)}
    (copyable : ∀ entry ∈ entries, Copyable file entry.2) :
    Copies (entries.forM writeIndexEntry) []
      (entries.flatMap fun entry =>
        binWriteI64 entry.1 ++ binWriteU64 (entryBytes file entry.2).length) () := by
  apply copies_each
  intro entry member
  rw [writeIndexEntry, entry_byte_len (copyable entry member)]
  apply copies_after_write
  apply Copies.mk
  exact (copies_write _).runs

section Collect

variable {file : List UInt8}

/-- What the entries of the backing file write, identity by identity. -/
theorem backing_collected (field : String) (selected : ExtTreeSet Int64)
    {states : List StateEntry} (distinct : (states.map Prod.fst).Nodup) {before after : List UInt8}
    (layout : file = before ++ (statesPiece states ++ after)) (small : file.length < 2 ^ 63)
    {kept : MergedEntries} (keptCopyable : ∀ (identity : Int64) entry,
      kept[identity]? = some entry → FromBacking file entry) :
    ∃ entries, collectBacking field selected (states.map indexEntry) before.length kept =
        .ok (entries, before.length + (statesPiece states).length) ∧
      (∀ (identity : Int64) entry, entries[identity]? = some entry → FromBacking file entry) ∧
      (∀ entry ∈ states, entry.1 ∉ selected →
        entries[entry.1]?.map (entryBytes file) = some (statePiece entry.2)) ∧
      ∀ identity, (identity ∈ selected ∨ identity ∉ states.map Prod.fst) →
        entries[identity]? = kept[identity]? := by
  induction states generalizing before kept with
  | nil =>
      refine ⟨kept, rfl, keptCopyable, ?_, ?_⟩
      · intro entry member
        cases member
      · intro identity _
        rfl
  | cons state states ih =>
      rw [List.map_cons, List.nodup_cons] at distinct
      have pieces : statesPiece (state :: states) = statePiece state.2 ++ statesPiece states := rfl
      have moved : file = (before ++ statePiece state.2) ++ (statesPiece states ++ after) := by
        rw [layout, pieces, List.append_assoc, List.append_assoc]
      have there : (file.drop before.length).take (statePiece state.2).length = statePiece state.2 := by
        rw [layout, List.drop_left, pieces, List.append_assoc, List.take_left]
      have inside : before.length + (statePiece state.2).length ≤ file.length := by
        rw [moved, List.length_append, List.length_append]
        omega
      have fits : ¬2 ^ 64 ≤ before.length + (statePiece state.2).length := by omega
      let next := if state.1 ∈ selected then kept
        else kept.insert state.1 (.backing before.length (statePiece state.2).length)
      have own : state.1 ∉ selected →
          next[state.1]? = some (.backing before.length (statePiece state.2).length) := by
        intro outside
        simp only [next, if_neg outside]
        exact ExtTreeMap.getElem?_insert_self
      have others : ∀ identity, (identity ∈ selected ∨ identity ≠ state.1) →
          next[identity]? = kept[identity]? := by
        intro identity different
        by_cases chosen : state.1 ∈ selected
        · simp only [next, if_pos chosen]
        · simp only [next, if_neg chosen]
          rw [ExtTreeMap.getElem?_insert, if_neg]
          intro equal
          have same : state.1 = identity := Std.compare_eq_iff_eq.mp equal
          rcases different with inside | other
          · exact chosen (same ▸ inside)
          · exact other same.symm
      have nextCopyable : ∀ (identity : Int64) entry, next[identity]? = some entry →
          FromBacking file entry := by
        intro identity entry found
        by_cases other : identity ∈ selected ∨ identity ≠ state.1
        · rw [others identity other] at found
          exact keptCopyable identity entry found
        · rw [not_or, not_not] at other
          rw [other.2, own (other.2 ▸ other.1)] at found
          cases found
          exact ⟨inside, rfl⟩
      obtain ⟨entries, collected, copyable, held, unchanged⟩ := ih distinct.2 moved nextCopyable
      refine ⟨entries, ?_, copyable, ?_, ?_⟩
      · rw [List.map_cons, indexEntry, collectBacking, if_neg fits, pieces, List.length_append,
          ← Nat.add_assoc, ← List.length_append]
        exact collected
      · intro entry member outside
        rcases List.mem_cons.mp member with here | later
        · subst here
          rw [unchanged entry.1 (Or.inr distinct.1), own outside, Option.map_some, entryBytes, there]
        · exact held entry later outside
      · intro identity absent
        have tail : identity ∈ selected ∨ identity ∉ states.map Prod.fst := by
          apply absent.imp id
          intro missing
          exact fun member => missing (List.mem_cons_of_mem state.1 member)
        have head : identity ∈ selected ∨ identity ≠ state.1 := by
          apply absent.imp id
          intro missing same
          exact missing (same ▸ List.mem_cons_self)
        rw [unchanged identity tail, others identity head]

theorem collected_over {Value Source : Type} (kept : ExtTreeMap Int64 Value)
    (map : ExtTreeMap Int64 Source) (make : Source → Value) (identity : Int64) :
    (collectMap none kept (map.toList.map fun entry => (entry.1, make entry.2)))[identity]? =
      (map[identity]?.map make).or kept[identity]? := by
  have keys : (map.toList.map fun entry => (entry.1, make entry.2)).map Prod.fst = map.keys := by
    rw [List.map_map]
    exact ExtTreeMap.map_fst_toList_eq_keys
  cases found : map[identity]? with
  | some source =>
      have listed : (identity, make source) ∈ map.toList.map fun entry => (entry.1, make entry.2) :=
        List.mem_map_of_mem (ExtTreeMap.mem_toList_iff_getElem?_eq_some.mpr found)
      have distinct : ((map.toList.map fun entry => (entry.1, make entry.2)).map Prod.fst).Nodup := by
        rw [keys]
        exact ExtTreeMap.nodup_keys
      rw [collected_found kept distinct listed]
      rfl
  | none =>
      have absent : identity ∉ (map.toList.map fun entry => (entry.1, make entry.2)).map Prod.fst := by
        rw [keys, ExtTreeMap.mem_keys, ExtTreeMap.mem_iff_isSome_getElem?, found]
        simp
      rw [collected_unfound kept absent]
      rfl

theorem current_collected (kept : MergedEntries) (current : CanonicalMap) (identity : Int64) :
    (collectCurrent kept current)[identity]? =
      (current[identity]?.map MergedStateEntry.current).or kept[identity]? := by
  rw [← collected_over kept current MergedStateEntry.current identity, collectCurrent, collectMap,
    List.foldl_map]
  rfl

/-- No identity has both a state of the runtime among the entries and a flat one. -/
def ApartFrom (entries : MergedEntries) (items : List (Int64 × FlatNativeRnnModuleState Binary32)) :
    Prop :=
  ∀ item ∈ items, entries[item.1]?.any MergedStateEntry.isCpuState = false

theorem flat_inserted (field : String)
    {items : List (Int64 × FlatNativeRnnModuleState Binary32)}
    (distinct : (items.map Prod.fst).Nodup) {entries : MergedEntries}
    (apart : ApartFrom entries items) :
    items.foldlM (insertFlat field) entries =
      .ok (collectMap none entries (items.map fun item => (item.1, .flat item.2))) := by
  induction items generalizing entries with
  | nil => rfl
  | cons item items ih =>
      rw [List.map_cons, List.nodup_cons] at distinct
      have alone := apart item List.mem_cons_self
      have inserted : insertFlat field entries item =
          .ok (entries.insert item.1 (.flat item.2)) := by
        rw [insertFlat, alone]
        rfl
      have later : ApartFrom (entries.insert item.1 (.flat item.2)) items := by
        intro other member
        have different : ¬compare item.1 other.1 = .eq := by
          intro equal
          apply distinct.1
          rw [Std.compare_eq_iff_eq.mp equal]
          exact List.mem_map_of_mem member
        rw [ExtTreeMap.getElem?_insert, if_neg different]
        exact apart other (List.mem_cons_of_mem item member)
      rw [List.foldlM_cons, inserted]
      exact ih distinct.2 later

/-- The entries of a merged map write the states of the overlay. -/
theorem entries_collected (field : String) {states : List StateEntry} {backing : CanonicalMap}
    (distinct : (states.map Prod.fst).Nodup)
    (listed : ∀ identity state, (identity, state) ∈ states ↔ backing[identity]? = some state)
    {before after : List UInt8} (layout : file = before ++ (statesPiece states ++ after))
    (small : file.length < 2 ^ 63) {canonical : CanonicalMap} {flat : FlatMap}
    (once : HeldOnce canonical flat) (storable : StorableMap canonical)
    (selected : ExtTreeSet Int64)
    (sized : ∀ (identity : Int64) state,
      (overlayMap selected backing (combinedMap canonical flat))[identity]? = some state →
        (statePiece state).length < 2 ^ 64) :
    ∃ kept entries, collectBacking field selected (states.map indexEntry) before.length ∅ =
        .ok (kept, before.length + (statesPiece states).length) ∧
      flat.toList.foldlM (insertFlat field) (collectCurrent kept canonical) = .ok entries ∧
      (∀ entry ∈ entries.toList, Copyable file entry.2) ∧
      (entries.map fun _ entry => entryBytes file entry) =
        (overlayMap selected backing (combinedMap canonical flat)).map fun _ state =>
          statePiece state := by
  have nothing : ∀ (identity : Int64) entry, (∅ : MergedEntries)[identity]? = some entry →
      FromBacking file entry := by
    intro identity entry found
    simp at found
  obtain ⟨kept, collected, keptFrom, held, unchanged⟩ :=
    backing_collected field selected distinct layout small nothing
  have apart : ApartFrom (collectCurrent kept canonical) flat.toList := by
    intro item member
    have inFlat : item.1 ∈ flat := by
      rw [ExtTreeMap.mem_iff_isSome_getElem?,
        ExtTreeMap.mem_toList_iff_getElem?_eq_some.mp member]
      rfl
    have notCanonical : canonical[item.1]? = none := by
      apply ExtTreeMap.getElem?_eq_none
      intro inCanonical
      exact once item.1 ⟨inCanonical, inFlat⟩
    rw [current_collected, notCanonical]
    cases found : kept[item.1]? with
    | none => rfl
    | some entry => exact (keptFrom item.1 entry found).backing
  have entry : ∀ identity : Int64,
      (collectMap none (collectCurrent kept canonical)
        (flat.toList.map fun item => (item.1, MergedStateEntry.flat item.2)))[identity]? =
      (flat[identity]?.map MergedStateEntry.flat).or
        ((canonical[identity]?.map MergedStateEntry.current).or kept[identity]?) := by
    intro identity
    rw [collected_over, current_collected]
  have combined : ∀ identity : Int64, (combinedMap canonical flat)[identity]? =
      (flat[identity]?.map fun state => state.materialize).or canonical[identity]? := by
    intro identity
    rw [combinedMap, ExtTreeMap.getElem?_union, ExtTreeMap.getElem?_map]
  refine ⟨kept, _, collected, flat_inserted field (listed_distinct flat) apart, ?_, ?_⟩
  · intro item member
    have found := ExtTreeMap.mem_toList_iff_getElem?_eq_some.mp member
    rw [entry] at found
    have overlay := sized item.1
    rw [overlay_entry, combined] at overlay
    cases inFlat : flat[item.1]? with
    | some state =>
        rw [inFlat] at found overlay
        have same : MergedStateEntry.flat state = item.2 := Option.some.inj found
        rw [← same]
        exact overlay state.materialize rfl
    | none =>
        rw [inFlat] at found overlay
        cases inCanonical : canonical[item.1]? with
        | some state =>
            rw [inCanonical] at found overlay
            have same : MergedStateEntry.current state = item.2 := Option.some.inj found
            rw [← same]
            exact ⟨storable item.1 state inCanonical, overlay state rfl⟩
        | none =>
            rw [inCanonical] at found
            exact (keptFrom item.1 item.2 found).copyable
  · apply ExtTreeMap.ext_getElem?
    intro identity
    rw [ExtTreeMap.getElem?_map, ExtTreeMap.getElem?_map, entry, overlay_entry, combined]
    cases flat[identity]? with
    | some state => rfl
    | none =>
        cases canonical[identity]? with
        | some state => rfl
        | none =>
            change kept[identity]?.map (entryBytes file) = Option.map _ (if identity ∈ selected then
              none else backing[identity]?)
            by_cases inside : identity ∈ selected
            · rw [if_pos inside, unchanged identity (Or.inl inside)]
              simp
            · rw [if_neg inside]
              cases found : backing[identity]? with
              | some state =>
                  have member := (listed identity state).mpr found
                  exact held (identity, state) member inside
              | none =>
                  have absent : identity ∉ states.map Prod.fst := by
                    intro member
                    obtain ⟨state, there, same⟩ := List.mem_map.mp member
                    subst same
                    have stored := (listed state.1 state.2).mp there
                    rw [found] at stored
                    cases stored
                  rw [unchanged identity (Or.inr absent)]
                  simp

end Collect

/-- What the entries write, as the entries of the overlay. -/
theorem merged_piece {file : List UInt8} {entries : MergedEntries} {out : CanonicalMap}
    (same : (entries.map fun _ entry => entryBytes file entry) =
      out.map fun _ state => statePiece state) :
    binWriteU64 entries.size ++ ((entries.toList.flatMap fun entry =>
        binWriteI64 entry.1 ++ binWriteU64 (entryBytes file entry.2).length) ++
      entries.toList.flatMap fun entry => entryBytes file entry.2) = indexedPiece out.toList := by
  have listed : (entries.toList.map fun entry => (entry.1, entryBytes file entry.2)) =
      out.toList.map fun entry => (entry.1, statePiece entry.2) := by
    have lists := congrArg ExtTreeMap.toList same
    rw [ExtTreeMap.toList_map, ExtTreeMap.toList_map] at lists
    exact lists
  have sizes : entries.size = out.toList.length := by
    have lengths := congrArg List.length listed
    rw [List.length_map, List.length_map, ExtTreeMap.length_toList] at lengths
    exact lengths
  have index := congrArg (List.flatMap fun pair : Int64 × List UInt8 =>
    binWriteI64 pair.1 ++ binWriteU64 pair.2.length) listed
  have bytes := congrArg (List.flatMap fun pair : Int64 × List UInt8 => pair.2) listed
  rw [List.flatMap_map, List.flatMap_map] at index bytes
  rw [sizes, index, bytes]
  rfl

section Merged

variable {states : List StateEntry} {backing canonical : CanonicalMap} {flat : FlatMap}
variable {selected : ExtTreeSet Int64}

theorem copies_after_index (field : String) (distinct : (states.map Prod.fst).Nodup)
    (listed : ∀ identity state, (identity, state) ∈ states ↔ backing[identity]? = some state)
    (once : HeldOnce canonical flat) (storable : StorableMap canonical)
    (sized : ∀ (identity : Int64) state,
      (overlayMap selected backing (combinedMap canonical flat))[identity]? = some state →
        (statePiece state).length < 2 ^ 64) :
    Copies (do
      let dataStart ← reading streamPosition
      let (kept, backingDataEnd) ←
        lift (collectBacking field selected (states.map indexEntry) dataStart ∅)
      let entries ← lift (flat.toList.foldlM (insertFlat field) (collectCurrent kept canonical))
      binWriteAll (binWriteU64 entries.size)
      entries.toList.forM writeIndexEntry
      let readerPosition ← entries.toList.foldlM (copyState field) dataStart
      if readerPosition ≠ backingDataEnd then
        reading (seekTo backingDataEnd ("failed to finish Rust checkpoint field " ++ field)))
      (statesPiece states)
      (indexedPiece (overlayMap selected backing (combinedMap canonical flat)).toList) () := by
  apply Copies.mk
  intro before after start small
  obtain ⟨kept, entries, collected, inserted, copyable, same⟩ :=
    entries_collected field distinct listed rfl small once storable selected sized
  have located : reading streamPosition ⟨⟨before ++ (statesPiece states ++ after), before.length⟩,
      ⟨start, start.length⟩⟩ = (.ok before.length, ⟨⟨before ++ (statesPiece states ++ after),
        before.length⟩, ⟨start, start.length⟩⟩) := rfl
  rw [bind_of_ok located, collected, bind_of_ok (lift_ok _ _)]
  dsimp only
  rw [inserted, bind_of_ok (lift_ok _ _)]
  have counted := (copies_write (binWriteU64 entries.size)).runs before (statesPiece states ++ after)
    start small
  rw [List.nil_append, List.length_nil, Nat.add_zero, ← List.length_append] at counted
  rw [bind_of_ok counted]
  have indexed := (index_written copyable).runs before (statesPiece states ++ after)
    (start ++ binWriteU64 entries.size) small
  rw [List.nil_append, List.length_nil, Nat.add_zero, ← List.length_append] at indexed
  rw [bind_of_ok indexed]
  obtain ⟨reached, copied⟩ := states_copied field small copyable before.length
    (start ++ binWriteU64 entries.size ++ entries.toList.flatMap fun entry =>
      binWriteI64 entry.1 ++ binWriteU64
        (entryBytes (before ++ (statesPiece states ++ after)) entry.2).length)
  have piece := merged_piece same
  have length := congrArg List.length piece
  rw [List.length_append, List.length_append] at length
  rw [bind_of_ok copied, List.append_assoc (start ++ _), List.append_assoc start, piece,
    @List.length_append _ (start ++ _), @List.length_append _ start, Nat.add_assoc,
    Nat.add_assoc, length]
  by_cases ends : reached = before.length + (statesPiece states).length
  · rw [if_neg (not_not.mpr ends), ends]
    rfl
  · rw [if_pos ends]
    have offsetSmall : before.length + (statesPiece states).length < 2 ^ 63 := by
      simp only [List.length_append] at small
      omega
    rw [reading, seekTo, if_pos offsetSmall]

theorem copies_indexed (field : String) (distinct : (states.map Prod.fst).Nodup)
    (listed : ∀ identity state, (identity, state) ∈ states ↔ backing[identity]? = some state)
    (once : HeldOnce canonical flat) (storable : StorableMap canonical)
    (sized : ∀ (identity : Int64) state,
      (overlayMap selected backing (combinedMap canonical flat))[identity]? = some state →
        (statePiece state).length < 2 ^ 64) :
    Copies (binCopyMergedIndexedStateMap field canonical flat selected) (indexedPiece states)
      (indexedPiece (overlayMap selected backing (combinedMap canonical flat)).toList) () := by
  apply copies_of_small
  intro small
  obtain ⟨fits, statesShort⟩ := index_fits small
  apply copies_after_read (reads_usize (by omega) field)
  rw [← List.nil_append (indexPiece states ++ _)]
  apply copies_after_read (reads_capacity fits field)
  apply copies_after_read (reads_index statesShort field)
  exact copies_after_index field distinct listed once storable sized

end Merged

end RwkvSrs.MergedStates
