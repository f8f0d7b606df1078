import RwkvSrs.SectionReadBack
import RwkvSrs.StateInterchange

/-!
The bytes of a checkpoint. The writer appends one piece for each section; the
pieces of a state map list the states of both forms in the order of their
identities. How long a file is follows from the number of entries of each
section and from the shapes of the states.
-/

namespace RwkvSrs.CheckpointPieces

open Std CheckpointBytes CheckpointReader CheckpointSections CheckpointWriter CpuStateMaps
open DeterministicState FallibleMethod GeneratorStates KeyedMerge LittleEndian ModuleState
open NativeRnnState RuntimeRestore SectionReadBack SelectiveReaders StateLayouts

set_option autoImplicit false

/-- A piece that a usize can measure is appended as it is. -/
def Writes (writer : Writer) (piece : List UInt8) : Prop :=
  piece.length < 2 ^ 64 → ∀ written, writer written = (.ok (), written ++ piece)

theorem writes_all (bytes : List UInt8) : Writes (writeAll bytes) bytes := by
  intro _ written
  rfl

theorem writes_checked {bytes : Except String (List UInt8)} {piece : List UInt8}
    (made : bytes = .ok piece) : Writes (writeChecked bytes) piece := by
  intro _ written
  subst made
  rfl

theorem writes_bind {first second : Writer} {head tail : List UInt8} (firstWrites : Writes first head)
    (secondWrites : Writes second tail) : Writes (first >>= fun _ => second) (head ++ tail) := by
  intro small written
  rw [List.length_append] at small
  have headSmall : head.length < 2 ^ 64 := by omega
  have tailSmall : tail.length < 2 ^ 64 := by omega
  rw [bind_of_ok (firstWrites headSmall written), secondWrites tailSmall, List.append_assoc]

theorem writes_each {Item : Type} {visit : Item → Writer} {piece : Item → List UInt8}
    {items : List Item} (each : ∀ item ∈ items, Writes (visit item) (piece item)) :
    Writes (items.forM visit) (items.flatMap piece) := by
  induction items with
  | nil =>
      intro _ written
      rw [List.flatMap_nil, List.append_nil]
      rfl
  | cons item items ih =>
      rw [List.flatMap_cons]
      have rest := ih fun other member => each other (List.mem_cons_of_mem item member)
      exact writes_bind (each item List.mem_cons_self) rest

def entryTensors : EntityStateEntry → EntityState
  | .inl state => state
  | .inr state => state.materialize

abbrev CanonicalMap := ExtTreeMap Int64 EntityState

abbrev FlatMap := ExtTreeMap Int64 (FlatNativeRnnModuleState Binary32)

/-- The states of a module in the order they are written. -/
def combinedEntries (canonical : CanonicalMap) (flat : FlatMap) : List StateEntry :=
  (merge canonical.toList flat.toList).1.map fun entry => (entry.1, entryTensors entry.2)

theorem shift_storable {shape : LayerShape} {tensor : ModuleState.Tensor Binary32}
    (same : tensor.dims = shape.shiftDims) : StorableTensor 3 tensor := by
  have bound := shape.allocatable
  apply StorableTensor.mk
  · rw [same]
    rfl
  · intro dim member
    rw [same, LayerShape.shiftDims] at member
    simp only [List.mem_cons, List.not_mem_nil, or_false] at member
    omega
  · rw [same]
    exact checked_shift shape

theorem matrix_storable {shape : LayerShape} (headSize : shape.headSize < 2 ^ 64)
    {tensor : ModuleState.Tensor Binary32} (same : tensor.dims = shape.matrixDims) :
    StorableTensor 5 tensor := by
  have heads := shape.countable
  apply StorableTensor.mk
  · rw [same]
    rfl
  · intro dim member
    rw [same, LayerShape.matrixDims] at member
    simp only [List.mem_cons, List.not_mem_nil, or_false] at member
    omega
  · rw [same]
    exact checked_matrix shape

theorem consistent_storable {shape : LayerShape} (headSize : shape.headSize < 2 ^ 64) {layers : Nat}
    {state : EntityState} (consistent : Consistent shape layers state) : StorableState state := by
  apply StorableState.mk
  · rw [consistent.matrices, consistent.shifts]
  · rw [consistent.channels, consistent.shifts]
  · intro tensor member
    exact shift_storable (consistent.shiftDims tensor member)
  · intro tensor member
    exact matrix_storable headSize (consistent.matrixDims tensor member)
  · intro tensor member
    exact shift_storable (consistent.channelDims tensor member)

theorem flat_consistent (flat : FlatNativeRnnModuleState Binary32) :
    Consistent nativeShape flat.layers flat.materialize := by
  obtain ⟨state, materialized, consistent, _⟩ := (shapedFlat flat).has_state
  rw [shaped_materialize] at materialized
  cases materialized
  exact consistent

theorem flat_storable (flat : FlatNativeRnnModuleState Binary32) :
    StorableState flat.materialize :=
  consistent_storable (by decide) (flat_consistent flat)

theorem entry_piece_written {entry : EntityStateEntry}
    (storable : StorableState (entryTensors entry)) :
    binWriteEntry entry = .ok (statePiece (entryTensors entry)) := by
  cases entry with
  | inl state => exact state_piece_written storable
  | inr flat =>
      have written := state_piece_written storable
      exact (flat_state_written (flat_consistent flat) (shaped_values flat)).trans written

theorem entry_size_declared {entry : EntityStateEntry}
    (storable : StorableState (entryTensors entry))
    (small : (statePiece (entryTensors entry)).length < 2 ^ 64) :
    entryByteLen entry = .ok (statePiece (entryTensors entry)).length := by
  cases entry with
  | inl state => exact (entity_size_declares (state_piece_written storable) _).mpr ⟨rfl, small⟩
  | inr flat =>
      have written := state_piece_written storable
      obtain ⟨bytes, again, length⟩ := consistent_written (flat_consistent flat)
      have same : statePiece flat.materialize = bytes := by
        have equal := written.symm.trans again
        cases equal
        rfl
      have declared := flat_size_declares (shapedFlat flat)
      apply (declared _).mpr
      refine ⟨?_, small⟩
      change (statePiece flat.materialize).length = _
      rw [same, length]
      rfl

section Combined

variable {canonical : CanonicalMap} {flat : FlatMap}

/-- An identity is held in one form at a time. -/
def HeldOnce (canonical : CanonicalMap) (flat : FlatMap) : Prop :=
  ∀ identity, ¬ (identity ∈ canonical ∧ identity ∈ flat)

def StorableMap (canonical : CanonicalMap) : Prop :=
  ∀ (identity : Int64) state, canonical[identity]? = some state → StorableState state

/-- What an identity maps to, in whichever form it is held. -/
def combinedMap (canonical : CanonicalMap) (flat : FlatMap) : CanonicalMap :=
  canonical ∪ flat.map fun _ state => state.materialize

theorem visited_entries (once : HeldOnce canonical flat) :
    Traversal canonical flat (merge canonical.toList flat.toList).1 :=
  merged_traversal (merged_ends.mpr once)

theorem combined_storable (once : HeldOnce canonical flat) (storable : StorableMap canonical) :
    ∀ entry ∈ (merge canonical.toList flat.toList).1, StorableState (entryTensors entry.2) := by
  intro entry member
  rcases ((visited_entries once).entries entry.1 entry.2).mp member with held | held
  · obtain ⟨state, same, found⟩ := held
    rw [same]
    exact storable entry.1 state found
  · obtain ⟨state, same, _⟩ := held
    rw [same]
    exact flat_storable state

theorem combined_entry (once : HeldOnce canonical flat) (identity : Int64) (state : EntityState) :
    (identity, state) ∈ combinedEntries canonical flat ↔
      (combinedMap canonical flat)[identity]? = some state := by
  have visited := (visited_entries once).entries identity
  rw [combinedMap, ExtTreeMap.getElem?_union, ExtTreeMap.getElem?_map, combinedEntries,
    List.mem_map]
  constructor
  · intro listed
    obtain ⟨entry, member, same⟩ := listed
    cases same
    rcases ((visited_entries once).entries entry.1 entry.2).mp member with held | held
    · obtain ⟨found, same, there⟩ := held
      have absent : flat[entry.1]? = none := by
        apply ExtTreeMap.getElem?_eq_none
        intro inside
        apply once entry.1
        rw [ExtTreeMap.mem_iff_isSome_getElem?, there]
        exact ⟨rfl, inside⟩
      rw [there, absent, same]
      rfl
    · obtain ⟨found, same, there⟩ := held
      rw [there, same]
      rfl
  · intro found
    cases inFlat : flat[identity]? with
    | some stored =>
        rw [inFlat] at found
        cases found
        have member := (visited (.inr stored)).mpr (Or.inr ⟨stored, rfl, inFlat⟩)
        exact ⟨_, member, rfl⟩
    | none =>
        rw [inFlat] at found
        have stored : canonical[identity]? = some state := by simpa using found
        have member := (visited (.inl state)).mpr (Or.inl ⟨state, rfl, stored⟩)
        exact ⟨_, member, rfl⟩

theorem combined_distinct (once : HeldOnce canonical flat) :
    ((combinedEntries canonical flat).map Prod.fst).Nodup := by
  have distinct := ascending_keys_nodup (visited_entries once).ascending
  rw [combinedEntries, List.map_map]
  exact distinct

theorem combined_collected (once : HeldOnce canonical flat) :
    collectMap none ∅ ((combinedEntries canonical flat).map canonicalEntry) =
      (combinedMap canonical flat).map fun _ state => canonicalState state := by
  apply collected_exact
  · rw [List.map_map]
    exact combined_distinct once
  · intro identity state
    rw [ExtTreeMap.getElem?_map, Option.map_eq_some_iff, List.mem_map]
    constructor
    · intro listed
      obtain ⟨entry, member, same⟩ := listed
      cases same
      exact ⟨entry.2, (combined_entry once entry.1 entry.2).mp member, rfl⟩
    · intro found
      obtain ⟨stored, held, same⟩ := found
      subst same
      exact ⟨(identity, stored), (combined_entry once identity stored).mpr held, rfl⟩

theorem combined_size (once : HeldOnce canonical flat) :
    (combinedEntries canonical flat).length = canonical.size + flat.size := by
  rw [combinedEntries, List.length_map, (visited_entries once).count]

theorem writes_visited {visit : Int64 → EntityStateEntry → Writer}
    {piece : StateEntry → List UInt8} (once : HeldOnce canonical flat)
    (each : ∀ entry ∈ (merge canonical.toList flat.toList).1,
      Writes (visit entry.1 entry.2) (piece (entry.1, entryTensors entry.2))) :
    Writes (forEachCpuState canonical flat visit)
      ((combinedEntries canonical flat).flatMap piece) := by
  have ended : (merge canonical.toList flat.toList).2 = none := merged_ends.mpr once
  rw [forEachCpuState, walk_merge, ended, combinedEntries, List.flatMap_map]
  have stops : Writes (stopAt none) [] := by
    intro _ written
    rw [List.append_nil]
    rfl
  have whole := writes_bind (writes_each each) stops
  rw [List.append_nil] at whole
  exact whole

theorem writes_indexed (once : HeldOnce canonical flat) (storable : StorableMap canonical) :
    Writes (binWriteIndexedStateMapCombined canonical flat)
      (indexedPiece (combinedEntries canonical flat)) := by
  intro small
  have stored := combined_storable once storable
  have part : ∀ entry ∈ combinedEntries canonical flat, (statePiece entry.2).length < 2 ^ 64 := by
    intro entry member
    have inside := state_part_length member
    rw [indexedPiece, List.length_append, List.length_append] at small
    omega
  revert small
  rw [indexedPiece, combined_size once]
  apply writes_bind (writes_all _)
  apply writes_bind
  · apply writes_visited once
    intro entry member
    have listed : (entry.1, entryTensors entry.2) ∈ combinedEntries canonical flat :=
      List.mem_map_of_mem member
    have fits := part (entry.1, entryTensors entry.2) listed
    dsimp only at fits ⊢
    rw [entry_size_declared (stored entry member) fits]
    apply writes_bind (writes_all _)
    apply writes_all
  · apply writes_visited once
    intro entry member
    exact writes_checked (entry_piece_written (stored entry member))

end Combined

def globalPiece (rnn : SnapshotRnn) : List UInt8 := optionalPiece rnn.latestGlobal

def sectionsPiece (state : SnapshotFeatures) (rnn : SnapshotRnn) : List UInt8 :=
  binWriteOptionF64 state.firstDayOffset ++ (binWriteOptionF64 state.prevDayOffset ++
  (binWriteU64 state.cardCount.toNat ++ (binWriteI64Set state.cardSet ++
  (binWriteI64UsizeMap state.lastNewCards ++ (binWriteI64 state.i ++
  (binWriteI64I64Map state.lastI ++ (binWriteF64 state.today ++
  (binWriteI64 state.todayReviews ++ (binWriteI64 state.todayNewCards ++
  (binWriteI64F64Map state.card2firstDayOffset ++
  (binWriteI64F64Map state.card2elapsedDaysCumulative ++
  (binWriteI64F64Map state.card2elapsedSecondsCumulative ++
  (encodingsPiece state.idEncodings ++ (binWriteBytes (toTorchRngStateBytes state.idRng) ++
  (indexedPiece (combinedEntries (rnn.states .card) (rnn.flatStates .card)) ++
  (indexedPiece (combinedEntries (rnn.states .note) (rnn.flatStates .note)) ++
  (indexedPiece (combinedEntries (rnn.states .deck) (rnn.flatStates .deck)) ++
  (indexedPiece (combinedEntries (rnn.states .preset) (rnn.flatStates .preset)) ++
  globalPiece rnn))))))))))))))))))

def headerPiece (metadataJson : List UInt8) : List UInt8 :=
  checkpointBinMagic ++ (binWriteU32 checkpointBinVersion ++
    (binWriteU64 metadataJson.length ++ metadataJson))

/-- The file of a runtime. -/
def checkpointPiece (metadataJson : List UInt8) (state : SnapshotFeatures) (rnn : SnapshotRnn) :
    List UInt8 :=
  headerPiece metadataJson ++ sectionsPiece state rnn

/-- What a runtime has to be like to be written: every identity is held in one form, the states and
encodings have their shapes, and the counters of the generator are in range. -/
structure Storable (state : SnapshotFeatures) (rnn : SnapshotRnn) : Prop where
  once : ∀ entity, HeldOnce (rnn.states entity) (rnn.flatStates entity)
  globalOnce : rnn.globalState = none ∨ rnn.flatGlobalState = none
  states : ∀ entity, StorableMap (rnn.states entity)
  globalState : ∀ held, rnn.globalState = some held → StorableState held
  dimensioned : Dimensioned state.idEncodings
  generator : Bounded state.idRng

theorem writes_global {rnn : SnapshotRnn}
    (once : rnn.globalState = none ∨ rnn.flatGlobalState = none)
    (storable : ∀ held, rnn.globalState = some held → StorableState held) :
    Writes (binWriteOptionalStateCombined rnn.globalState rnn.flatGlobalState)
      (globalPiece rnn) := by
  rw [globalPiece, NativeRnn.latestGlobal]
  cases canonical : rnn.globalState with
  | none =>
      cases flat : rnn.flatGlobalState with
      | none => exact writes_all _
      | some state =>
          apply writes_bind (writes_all _)
          apply writes_checked
          apply entry_piece_written
          exact flat_storable state
  | some state =>
      cases flat : rnn.flatGlobalState with
      | none =>
          apply writes_bind (writes_all _)
          apply writes_checked
          apply entry_piece_written
          exact storable state canonical
      | some other =>
          rcases once with absent | absent
          · rw [canonical] at absent
            cases absent
          · rw [flat] at absent
            cases absent

theorem writes_sections {state : SnapshotFeatures} {rnn : SnapshotRnn}
    (storable : Storable state rnn) :
    Writes (writeRuntimeStateBinV2 state rnn) (sectionsPiece state rnn) := by
  have indexed : ∀ entity,
      Writes (binWriteIndexedStateMapCombined (rnn.states entity) (rnn.flatStates entity))
        (indexedPiece (combinedEntries (rnn.states entity) (rnn.flatStates entity))) :=
    fun entity => writes_indexed (storable.once entity) (storable.states entity)
  apply writes_bind (writes_all _)
  apply writes_bind (writes_all _)
  apply writes_bind (writes_all _)
  apply writes_bind (writes_all _)
  apply writes_bind (writes_all _)
  apply writes_bind (writes_all _)
  apply writes_bind (writes_all _)
  apply writes_bind (writes_all _)
  apply writes_bind (writes_all _)
  apply writes_bind (writes_all _)
  apply writes_bind (writes_all _)
  apply writes_bind (writes_all _)
  apply writes_bind (writes_all _)
  apply writes_bind (writes_checked (encodings_written storable.dimensioned))
  apply writes_bind (writes_all _)
  apply writes_bind (indexed .card)
  apply writes_bind (indexed .note)
  apply writes_bind (indexed .deck)
  apply writes_bind (indexed .preset)
  exact writes_global storable.globalOnce storable.globalState

theorem checkpoint_written {metadataJson : List UInt8} {state : SnapshotFeatures}
    {rnn : SnapshotRnn} (metadata : metadataJson ≠ []) (storable : Storable state rnn)
    (small : (checkpointPiece metadataJson state rnn).length < 2 ^ 63) :
    writeCheckpointBinPath metadataJson state rnn =
      .ok (checkpointPiece metadataJson state rnn) := by
  have present : ¬ metadataJson.isEmpty = true := by simpa using metadata
  have written : Writes (writeRuntimeCheckpointBin metadataJson state rnn)
      (checkpointPiece metadataJson state rnn) := by
    rw [writeRuntimeCheckpointBin, if_neg present, checkpointPiece, headerPiece]
    rw [List.append_assoc, List.append_assoc, List.append_assoc]
    apply writes_bind (writes_all _)
    apply writes_bind (writes_all _)
    apply writes_bind (writes_all _)
    apply writes_bind (writes_all _)
    exact writes_sections storable
  have measured : (checkpointPiece metadataJson state rnn).length < 2 ^ 64 := by omega
  rw [writeCheckpointBinPath, written measured []]
  rfl

theorem write_f64_length (value : Binary64) : (binWriteF64 value).length = 8 := by
  rw [write_f64_bits, to_le_length]

theorem option_length (value : Option Binary64) :
    (binWriteOptionF64 value).length = 1 + if value.isSome then 8 else 0 := by
  cases value with
  | none => rfl
  | some value =>
      rw [binWriteOptionF64, List.length_append, write_f64_length]
      rfl

theorem uniform_length {Item : Type} {write : Item → List UInt8} {width : Nat} (items : List Item)
    (each : ∀ item ∈ items, (write item).length = width) :
    (items.flatMap write).length = items.length * width := by
  induction items with
  | nil => simp
  | cons item items ih =>
      have rest := ih fun other member => each other (List.mem_cons_of_mem item member)
      rw [List.flatMap_cons, List.length_append, each item List.mem_cons_self, rest,
        List.length_cons, Nat.succ_mul, Nat.add_comm]

theorem set_length (values : ExtTreeSet Int64) :
    (binWriteI64Set values).length = 8 + values.size * 8 := by
  rw [binWriteI64Set, List.length_append, write_u64_length,
    uniform_length values.toList fun value _ => write_i64_length value, ExtTreeSet.length_toList]

theorem map_length {Value : Type} {write : Value → List UInt8} {width : Nat}
    (each : ∀ value, (write value).length = width) (values : ExtTreeMap Int64 Value) :
    (binWriteI64Map write values).length = 8 + values.size * (8 + width) := by
  have entry : ∀ entry ∈ values.toList, (binWriteI64 entry.1 ++ write entry.2).length = 8 + width := by
    intro entry _
    rw [List.length_append, write_i64_length, each]
  rw [binWriteI64Map, List.length_append, write_u64_length, uniform_length values.toList entry,
    ExtTreeMap.length_toList]

theorem words_map_length (values : ExtTreeMap Int64 UInt64) :
    (binWriteI64UsizeMap values).length = 8 + values.size * 16 := by
  have each : ∀ value : UInt64, (binWriteU64 value.toNat).length = 8 :=
    fun value => write_u64_length value.toNat
  exact map_length each values

theorem integers_map_length (values : ExtTreeMap Int64 Int64) :
    (binWriteI64I64Map values).length = 8 + values.size * 16 :=
  map_length write_i64_length values

theorem floats_map_length (values : ExtTreeMap Int64 Binary64) :
    (binWriteI64F64Map values).length = 8 + values.size * 16 :=
  map_length write_f64_length values

theorem bytes_length (bytes : List UInt8) : (binWriteBytes bytes).length = 8 + bytes.length := by
  rw [binWriteBytes, List.length_append, write_u64_length]

theorem generator_length (rng : TorchRng.TorchMt19937) :
    (toTorchRngStateBytes rng).length = torchRngStateByteLen := by
  rw [toTorchRngStateBytes, word_bytes_length, state_words_length]
  rfl

/-- The name, the count and the entries of one submodule. -/
def submoduleLength (submodule : IdSubmodule) (count : Nat) : Nat :=
  8 + submodule.name.utf8ByteSize + (8 + count * (16 + submodule.dim * 4))

theorem submodule_length {values : IdEncodings Binary32} (dimensioned : Dimensioned values)
    (submodule : IdSubmodule) :
    (submodulePiece values submodule).length =
      submoduleLength submodule (values submodule).size := by
  have entry : ∀ entry ∈ (values submodule).toList,
      (encodingPiece entry).length = 16 + submodule.dim * 4 := by
    intro entry member
    have held := ExtTreeMap.mem_toList_iff_getElem?_eq_some.mp member
    rw [encodingPiece, List.length_append, List.length_append, write_i64_length, write_u64_length,
      floats_length, dimensioned submodule entry.1 entry.2 held]
    omega
  rw [submodulePiece, List.length_append, List.length_append, write_u64_length,
    uniform_length (values submodule).toList entry, ExtTreeMap.length_toList, binWriteString,
    bytes_length]
  rfl

theorem encodings_length {values : IdEncodings Binary32} (dimensioned : Dimensioned values) :
    (encodingsPiece values).length =
      8 + (idSubmodules.map fun submodule =>
        submoduleLength submodule (values submodule).size).sum := by
  rw [encodingsPiece, List.length_append, write_u64_length, List.length_flatMap]
  simp only [submodule_length dimensioned]

theorem indexed_length (entries : List StateEntry) :
    (indexedPiece entries).length =
      8 + entries.length * 16 + (entries.map fun entry => (statePiece entry.2).length).sum := by
  have index : ∀ entry ∈ entries, (binWriteI64 entry.1 ++
      binWriteU64 (statePiece entry.2).length).length = 16 := by
    intro entry _
    rw [List.length_append, write_i64_length, write_u64_length]
  rw [indexedPiece, List.length_append, List.length_append, write_u64_length, indexPiece,
    uniform_length entries index, statesPiece, List.length_flatMap, Nat.add_assoc]

def statesLength (rnn : SnapshotRnn) (entity : EntityModule) : Nat :=
  (indexedPiece (combinedEntries (rnn.states entity) (rnn.flatStates entity))).length

theorem header_length (metadataJson : List UInt8) :
    (headerPiece metadataJson).length = 27 + metadataJson.length := by
  have magic : checkpointBinMagic.length = 15 := by decide +kernel
  rw [headerPiece, List.length_append, List.length_append, List.length_append, write_u64_length,
    binWriteU32, to_le_length, magic]
  omega

theorem sections_length {state : SnapshotFeatures} {rnn : SnapshotRnn}
    (dimensioned : Dimensioned state.idEncodings) :
    (sectionsPiece state rnn).length =
      (binWriteOptionF64 state.firstDayOffset).length +
      (binWriteOptionF64 state.prevDayOffset).length + 8 + (8 + state.cardSet.size * 8) +
      (8 + state.lastNewCards.size * 16) + 8 + (8 + state.lastI.size * 16) + 24 +
      (8 + state.card2firstDayOffset.size * 16) +
      (8 + state.card2elapsedDaysCumulative.size * 16) +
      (8 + state.card2elapsedSecondsCumulative.size * 16) +
      (8 + (idSubmodules.map fun submodule =>
        submoduleLength submodule (state.idEncodings submodule).size).sum) +
      (8 + torchRngStateByteLen) + statesLength rnn .card + statesLength rnn .note +
      statesLength rnn .deck + statesLength rnn .preset + (globalPiece rnn).length := by
  simp only [sectionsPiece, List.length_append, write_u64_length, set_length, words_map_length,
    integers_map_length, floats_map_length, write_i64_length, write_f64_length, bytes_length,
    generator_length, encodings_length dimensioned, statesLength]
  ring

end RwkvSrs.CheckpointPieces
