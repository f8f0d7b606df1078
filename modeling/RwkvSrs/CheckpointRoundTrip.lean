import RwkvSrs.CheckpointPieces
import RwkvSrs.KeyedOverlay
import RwkvSrs.RestoreAtomicity
import RwkvSrs.StateInterchange

/-!
Writing a checkpoint and restoring it. Every piece is read back, and the restored
runtime holds the identities and values that were written. Flat states come back
as tensors, and a float that is not a number comes back in its canonical form;
writing the restored runtime gives the same file.
-/

namespace RwkvSrs.CheckpointRoundTrip

open Std CheckpointBytes CheckpointPieces CheckpointReader CheckpointSections CheckpointWriter
open CpuStateMaps DeterministicState FallibleMethod GeneratorStates KeyedMerge KeyedOverlay
open LittleEndian ModuleState NativeRnnState ReadBack RestoreAtomicity RuntimeRestore
open SectionReadBack SelectiveReaders StateLayouts TorchRng

set_option autoImplicit false

def canonicalFloats (values : ExtTreeMap Int64 Binary64) : ExtTreeMap Int64 Binary64 :=
  values.map fun _ value => canonicalNan64 value

def canonicalStates (rnn : SnapshotRnn) (entity : EntityModule) : CanonicalMap :=
  (combinedMap (rnn.states entity) (rnn.flatStates entity)).map fun _ state => canonicalState state

def writtenContents (state : SnapshotFeatures) (rnn : SnapshotRnn) : CheckpointContents where
  firstDayOffset := state.firstDayOffset.map canonicalNan64
  prevDayOffset := state.prevDayOffset.map canonicalNan64
  cardCount := state.cardCount
  cardSet := state.cardSet
  lastNewCards := state.lastNewCards
  i := state.i
  lastI := state.lastI
  today := canonicalNan64 state.today
  todayReviews := state.todayReviews
  todayNewCards := state.todayNewCards
  card2firstDayOffset := canonicalFloats state.card2firstDayOffset
  card2elapsedDaysCumulative := canonicalFloats state.card2elapsedDaysCumulative
  card2elapsedSecondsCumulative := canonicalFloats state.card2elapsedSecondsCumulative
  idEncodings := canonicalEncodings state.idEncodings
  rngState := toTorchRngStateBytes state.idRng
  cardStates := canonicalStates rnn .card
  noteStates := canonicalStates rnn .note
  deckStates := canonicalStates rnn .deck
  presetStates := canonicalStates rnn .preset
  globalState := rnn.latestGlobal.map canonicalState

theorem map_same {Value : Type} (values : ExtTreeMap Int64 Value) :
    (values.map fun _ value => value) = values := by
  apply ExtTreeMap.ext_getElem?
  intro identity
  simp

theorem reads_same_map {Value : Type} {read : Reader Value} {write : Value → List UInt8}
    (each : ∀ value, ReadsBack read (write value) value) (values : ExtTreeMap Int64 Value)
    (field : String) :
    ReadsBack (binReadI64MapSelected field read none) (binWriteI64Map write values) values := by
  have reads := @reads_i64_map Value Value field read write (fun value => value) each values
  rw [map_same] at reads
  exact reads

theorem reads_floats (values : ExtTreeMap Int64 Binary64) (field : String) :
    ReadsBack (binReadI64F64MapSelected field none) (binWriteI64F64Map values)
      (canonicalFloats values) :=
  reads_i64_map (fun value => reads_f64 value field) values

theorem latest_global_storable {state : SnapshotFeatures} {rnn : SnapshotRnn}
    (storable : Storable state rnn) : ∀ held, rnn.latestGlobal = some held → StorableState held := by
  intro held found
  rw [NativeRnn.latestGlobal] at found
  cases canonical : rnn.globalState with
  | some stored =>
      rw [canonical] at found
      cases found
      exact storable.globalState held canonical
  | none =>
      rw [canonical] at found
      obtain ⟨flat, _, same⟩ := Option.map_eq_some_iff.mp found
      rw [← same]
      exact flat_storable flat

theorem reads_states {state : SnapshotFeatures} {rnn : SnapshotRnn}
    (storable : Storable state rnn) (entity : EntityModule) (field : String) :
    ReadsBack (binReadIndexedStateMap field none)
      (indexedPiece (combinedEntries (rnn.states entity) (rnn.flatStates entity)))
      (canonicalStates rnn entity) := by
  have once := storable.once entity
  rw [canonicalStates, ← combined_collected once]
  apply reads_state_map
  intro entry member
  obtain ⟨visited, inside, same⟩ := List.mem_map.mp member
  rw [← same]
  exact combined_storable once (storable.states entity) visited inside

theorem reads_contents {state : SnapshotFeatures} {rnn : SnapshotRnn}
    (storable : Storable state rnn) :
    ReadsBack (readContentsV2 none) (sectionsPiece state rnn) (writtenContents state rnn) := by
  apply reads_bind (reads_option_f64 state.firstDayOffset _)
  apply reads_bind (reads_option_f64 state.prevDayOffset _)
  apply reads_bind (reads_usize (UInt64.toNat_lt state.cardCount) _)
  apply reads_bind (reads_i64_set state.cardSet _)
  apply reads_bind (reads_same_map (fun value => reads_word64 value _) state.lastNewCards _)
  apply reads_bind (reads_i64 state.i _)
  apply reads_bind (reads_same_map (fun value => reads_i64 value _) state.lastI _)
  apply reads_bind (reads_f64 state.today _)
  apply reads_bind (reads_i64 state.todayReviews _)
  apply reads_bind (reads_i64 state.todayNewCards _)
  apply reads_bind (reads_floats state.card2firstDayOffset _)
  apply reads_bind (reads_floats state.card2elapsedDaysCumulative _)
  apply reads_bind (reads_floats state.card2elapsedSecondsCumulative _)
  apply reads_bind (reads_id_encodings storable.dimensioned)
  apply reads_bind (reads_bytes (toTorchRngStateBytes state.idRng) _)
  apply reads_bind (reads_states storable .card _)
  apply reads_bind (reads_states storable .note _)
  apply reads_bind (reads_states storable .deck _)
  apply reads_bind (reads_states storable .preset _)
  rw [globalPiece, ← List.append_nil (optionalPiece rnn.latestGlobal)]
  apply reads_bind (reads_optional_state (latest_global_storable storable) _)
  have count : UInt64.ofNat state.cardCount.toNat = state.cardCount := UInt64.ofNat_toNat
  rw [count]
  exact reads_pure (writtenContents state rnn)

theorem reads_header {metadataJson : List UInt8} (small : metadataJson.length < 2 ^ 64) :
    ReadsBack readHeader (headerPiece metadataJson) checkpointBinVersion := by
  apply reads_bind (reads_exact rfl _)
  rw [if_neg (not_not.mpr rfl)]
  apply reads_bind (reads_u32 (by decide) _)
  rw [if_neg (by decide)]
  apply reads_bind (reads_usize small _)
  exact reads_return (fun _ => checkpointBinVersion) (reads_exact rfl _)

def canonicalFeatures (state : SnapshotFeatures) (rnn : SnapshotRnn) : SnapshotFeatures where
  firstDayOffset := state.firstDayOffset.map canonicalNan64
  prevDayOffset := state.prevDayOffset.map canonicalNan64
  cardSet := state.cardSet
  cardCount := state.cardCount
  lastNewCards := state.lastNewCards
  i := state.i
  lastI := state.lastI
  today := canonicalNan64 state.today
  todayReviews := state.todayReviews
  todayNewCards := state.todayNewCards
  card2firstDayOffset := canonicalFloats state.card2firstDayOffset
  card2elapsedDaysCumulative := canonicalFloats state.card2elapsedDaysCumulative
  card2elapsedSecondsCumulative := canonicalFloats state.card2elapsedSecondsCumulative
  idEncodings := canonicalEncodings state.idEncodings
  recurrentStateKeys := cpuStateKeys rnn
  idRng := state.idRng

/-- Every state as tensors, wherever it was held. -/
def canonicalRnn (rnn : SnapshotRnn) : SnapshotRnn where
  states := canonicalStates rnn
  globalState := rnn.latestGlobal.map canonicalState
  flatStates := fun _ => ∅
  flatGlobalState := none

theorem written_rnn (state : SnapshotFeatures) (rnn : SnapshotRnn) :
    checkpointRnn (writtenContents state rnn) = canonicalRnn rnn := by
  have states : (checkpointRnn (writtenContents state rnn)).states = canonicalStates rnn := by
    funext entity
    cases entity with
    | card => rfl
    | note => rfl
    | deck => rfl
    | preset => rfl
  rw [canonicalRnn, ← states]
  rfl

theorem canonical_keys (rnn : SnapshotRnn) (entity : EntityModule) :
    SnapshotValues.toSet ((canonicalStates rnn entity).keys ++
        (∅ : FlatMap).keys) =
      SnapshotValues.toSet ((rnn.states entity).keys ++ (rnn.flatStates entity).keys) := by
  apply ExtTreeSet.ext_mem
  intro identity
  rw [SnapshotValues.toSet, SnapshotValues.toSet, collected_member, collected_member]
  simp [canonicalStates, combinedMap]

theorem canonical_rnn_keys (rnn : SnapshotRnn) : cpuStateKeys (canonicalRnn rnn) = cpuStateKeys rnn := by
  have global : ((canonicalRnn rnn).globalState.isSome || (canonicalRnn rnn).flatGlobalState.isSome) =
      (rnn.globalState.isSome || rnn.flatGlobalState.isSome) := by
    simp [canonicalRnn, NativeRnn.latestGlobal, Option.isSome_or]
  rw [cpuStateKeys, global]
  simp only [canonicalRnn, canonical_keys]
  rfl

theorem written_restored {metadataJson : List UInt8} {state : SnapshotFeatures} {rnn : SnapshotRnn}
    {Frame Session : Type} (storable : Storable state rnn)
    (small : (checkpointPiece metadataJson state rnn).length < 2 ^ 63)
    (runtime : RestoredRuntime Frame Session) :
    restoreRuntimeCheckpointBin (checkpointPiece metadataJson state rnn) none runtime =
      (.ok (), { runtime with
        rnn := canonicalRnn rnn
        deterministic := canonicalFeatures state rnn }) := by
  have metadataSmall : metadataJson.length < 2 ^ 64 := by
    simp only [checkpointPiece, headerPiece, List.length_append] at small
    omega
  have header := reads_header metadataSmall [] (sectionsPiece state rnn) small
  have sections := reads_contents storable (headerPiece metadataJson) [] (by
    rw [List.append_nil]
    exact small)
  rw [List.append_nil] at sections
  rw [List.nil_append, List.length_nil, Nat.zero_add] at header
  rw [restoreRuntimeCheckpointBin, checkpointPiece, header]
  apply (bind_of_ok (lift_ok _ _)).trans
  have current : checkpointBinVersion ≠ legacyCheckpointBinVersion := by decide
  dsimp only
  rw [if_neg current, readRuntimeStateBinV2, sections]
  apply (bind_of_ok (lift_ok _ _)).trans
  have generator : fromTorchRngState (writtenContents state rnn).rngState = .ok state.idRng :=
    restored_generator storable.generator
  dsimp only
  rw [generator]
  apply (bind_of_ok (lift_ok _ _)).trans
  rw [update_apply, written_rnn, canonical_rnn_keys]
  rfl

theorem canonical_nan_32 (value : Binary32) :
    canonicalNan32 (canonicalNan32 value) = canonicalNan32 value := by
  rw [canonicalNan32, canonicalNan32]
  by_cases nan : value.isNan = true
  · rw [if_pos nan]
    rfl
  · rw [if_neg nan, if_neg nan]

theorem canonical_nan_64 (value : Binary64) :
    canonicalNan64 (canonicalNan64 value) = canonicalNan64 value := by
  rw [canonicalNan64, canonicalNan64]
  by_cases nan : value.isNan = true
  · rw [if_pos nan]
    rfl
  · rw [if_neg nan, if_neg nan]

theorem canonical_f32_written (value : Binary32) :
    binWriteF32 (canonicalNan32 value) = binWriteF32 value := by
  rw [write_f32_bits, write_f32_bits, canonical_nan_32]

theorem canonical_f64_written (value : Binary64) :
    binWriteF64 (canonicalNan64 value) = binWriteF64 value := by
  rw [write_f64_bits, write_f64_bits, canonical_nan_64]

theorem canonical_option_written (value : Option Binary64) :
    binWriteOptionF64 (value.map canonicalNan64) = binWriteOptionF64 value := by
  cases value with
  | none => rfl
  | some value =>
      rw [Option.map_some, binWriteOptionF64, canonical_f64_written]
      rfl

theorem canonical_floats_written (values : ExtTreeMap Int64 Binary64) :
    binWriteI64F64Map (canonicalFloats values) = binWriteI64F64Map values := by
  rw [binWriteI64F64Map, binWriteI64Map, canonicalFloats, ExtTreeMap.size_map, ExtTreeMap.toList_map,
    List.flatMap_map]
  simp only [canonical_f64_written]
  rfl

theorem canonical_list_written (values : List Binary32) :
    (values.map canonicalNan32).flatMap binWriteF32 = values.flatMap binWriteF32 := by
  rw [List.flatMap_map]
  simp only [canonical_f32_written]

theorem canonical_encodings_written (values : IdEncodings Binary32) :
    encodingsPiece (canonicalEncodings values) = encodingsPiece values := by
  have sections : submodulePiece (canonicalEncodings values) = submodulePiece values := by
    funext submodule
    rw [submodulePiece, canonicalEncodings, ExtTreeMap.size_map, ExtTreeMap.toList_map,
      List.flatMap_map]
    simp only [encodingPiece, List.length_map, canonical_list_written]
    rfl
  rw [encodingsPiece, sections]
  rfl

theorem canonical_tensor_written (tensor : ModuleState.Tensor Binary32) :
    tensorPiece (canonicalTensor tensor) = tensorPiece tensor := by
  rw [tensorPiece, tensorPiece, canonicalTensor, List.length_map, canonical_list_written]

theorem canonical_tensors_written (tensors : List (ModuleState.Tensor Binary32)) :
    tensorVecPiece (tensors.map canonicalTensor) = tensorVecPiece tensors := by
  rw [tensorVecPiece, tensorVecPiece, List.length_map, List.flatMap_map]
  simp only [canonical_tensor_written]

theorem canonical_state_written (state : EntityState) :
    statePiece (canonicalState state) = statePiece state := by
  rw [statePiece, canonicalState, canonical_tensors_written, canonical_tensors_written,
    canonical_tensors_written]
  rfl

theorem canonical_entries_written (entries : List StateEntry) :
    indexedPiece (entries.map canonicalEntry) = indexedPiece entries := by
  simp only [indexedPiece, indexPiece, statesPiece, List.length_map, List.flatMap_map,
    canonicalEntry, canonical_state_written]

theorem optional_written (state : Option EntityState) :
    optionalPiece (state.map canonicalState) = optionalPiece state := by
  cases state with
  | none => rfl
  | some state =>
      rw [Option.map_some, optionalPiece, canonical_state_written]
      rfl

theorem canonical_only (canonical : CanonicalMap) :
    combinedEntries canonical ∅ = canonical.toList := by
  have alone : ∀ entries : List (Int64 × EntityState),
      (merge entries ([] : List (Int64 × FlatNativeRnnModuleState Binary32))).1 =
        entries.map fun entry => (entry.1, .inl entry.2) := by
    intro entries
    cases entries with
    | nil => simp [merge]
    | cons entry entries => simp [merge]
  have empty : (∅ : FlatMap).toList = [] := by simp
  rw [combinedEntries, empty, alone, List.map_map]
  exact List.map_id _

theorem canonical_entries {canonical : CanonicalMap} {flat : FlatMap}
    (once : HeldOnce canonical flat) :
    combinedEntries ((combinedMap canonical flat).map fun _ state => canonicalState state) ∅ =
      (combinedEntries canonical flat).map canonicalEntry := by
  rw [canonical_only]
  apply ascending_unique ExtTreeMap.ordered_keys_toList
  · apply List.pairwise_map.mpr
    rw [combinedEntries]
    apply List.pairwise_map.mpr
    exact (visited_entries once).ascending
  · intro entry
    rw [ExtTreeMap.mem_toList_iff_getElem?_eq_some, ExtTreeMap.getElem?_map,
      Option.map_eq_some_iff, List.mem_map]
    constructor
    · intro found
      obtain ⟨state, held, same⟩ := found
      refine ⟨(entry.1, state), (combined_entry once entry.1 state).mpr held, ?_⟩
      rw [canonicalEntry, same]
    · intro listed
      obtain ⟨held, member, same⟩ := listed
      subst same
      exact ⟨held.2, (combined_entry once held.1 held.2).mp member, rfl⟩

theorem canonical_file {metadataJson : List UInt8} {state : SnapshotFeatures} {rnn : SnapshotRnn}
    (storable : Storable state rnn) :
    checkpointPiece metadataJson (canonicalFeatures state rnn) (canonicalRnn rnn) =
      checkpointPiece metadataJson state rnn := by
  have states : ∀ entity, indexedPiece (combinedEntries ((canonicalRnn rnn).states entity)
      ((canonicalRnn rnn).flatStates entity)) =
      indexedPiece (combinedEntries (rnn.states entity) (rnn.flatStates entity)) := by
    intro entity
    have entries := canonical_entries (storable.once entity)
    rw [← canonical_entries_written (combinedEntries (rnn.states entity) (rnn.flatStates entity)),
      ← entries]
    rfl
  have global : globalPiece (canonicalRnn rnn) = globalPiece rnn := by
    rw [globalPiece, globalPiece, ← optional_written rnn.latestGlobal]
    simp [canonicalRnn, NativeRnn.latestGlobal]
  rw [checkpointPiece, checkpointPiece, sectionsPiece, sectionsPiece, states, states, states,
    states, global]
  simp only [canonicalFeatures, canonical_option_written, canonical_f64_written,
    canonical_floats_written, canonical_encodings_written]

theorem canonical_tensor_storable {rank : Nat} {tensor : ModuleState.Tensor Binary32}
    (storable : StorableTensor rank tensor) : StorableTensor rank (canonicalTensor tensor) :=
  ⟨storable.ranked, storable.dimensions, storable.counted⟩

theorem canonical_state_storable {state : EntityState} (storable : StorableState state) :
    StorableState (canonicalState state) := by
  have tensors : ∀ {rank : Nat} {held : List (ModuleState.Tensor Binary32)},
      (∀ tensor ∈ held, StorableTensor rank tensor) →
        ∀ tensor ∈ held.map canonicalTensor, StorableTensor rank tensor := by
    intro rank held each tensor member
    obtain ⟨source, inside, same⟩ := List.mem_map.mp member
    subst same
    exact canonical_tensor_storable (each source inside)
  apply StorableState.mk
  · simp only [canonicalState, List.length_map, storable.recurrentLayers]
  · simp only [canonicalState, List.length_map, storable.channelLayers]
  · exact tensors storable.shifts
  · exact tensors storable.matrices
  · exact tensors storable.channels

theorem combined_map_storable {canonical : CanonicalMap} {flat : FlatMap}
    (once : HeldOnce canonical flat) (storable : StorableMap canonical) :
    StorableMap (combinedMap canonical flat) := by
  intro identity state found
  have listed := (combined_entry once identity state).mpr found
  obtain ⟨visited, member, same⟩ := List.mem_map.mp listed
  cases same
  exact combined_storable once storable visited member

theorem canonical_storable {state : SnapshotFeatures} {rnn : SnapshotRnn}
    (storable : Storable state rnn) :
    Storable (canonicalFeatures state rnn) (canonicalRnn rnn) := by
  apply Storable.mk
  · intro entity identity both
    have none : identity ∉ (∅ : FlatMap) := ExtTreeMap.not_mem_empty
    exact none both.2
  · exact Or.inr rfl
  · intro entity identity held found
    have mapped := Option.map_eq_some_iff.mp ((ExtTreeMap.getElem?_map).symm.trans found)
    obtain ⟨source, there, same⟩ := mapped
    rw [← same]
    exact canonical_state_storable
      (combined_map_storable (storable.once entity) (storable.states entity) identity source there)
  · intro held found
    obtain ⟨source, there, same⟩ := Option.map_eq_some_iff.mp found
    rw [← same]
    exact canonical_state_storable (latest_global_storable storable source there)
  · intro submodule identity encoding found
    have mapped := Option.map_eq_some_iff.mp ((ExtTreeMap.getElem?_map).symm.trans found)
    obtain ⟨source, there, same⟩ := mapped
    rw [← same, List.length_map]
    exact storable.dimensioned submodule identity source there
  · exact storable.generator

/-- No identity lists: everything is restored. -/
def wholeLists : IdentityLists := ⟨none, none, none, none⟩

/-- The parts of a restore call: no session is open, the file is restored, and then the scope is
remembered and the undo stack cleared. -/
theorem restore_call_ok {Frame Session : Type} {bytes : List UInt8} {lists : IdentityLists}
    {scope : Option CheckpointScope} (read : checkpointScopeFromOptionalIdentityLists lists = .ok scope)
    {runtime restored : RestoredRuntime Frame Session} :
    restoreCheckpointBin (.ok bytes) lists runtime = (.ok (), restored) ↔
      requireNoLiveSession "restore_checkpoint_bin" runtime = (.ok (), runtime) ∧
        ∃ loaded, restoreRuntimeCheckpointBin bytes scope runtime = (.ok (), loaded) ∧
          restored = { loaded with loadedScope := scope, undoStack := [] } := by
  constructor
  · intro ok
    obtain ⟨_, open_, required, rest⟩ := bind_ok_steps ok
    have unchanged : open_ = runtime := by
      rw [requireNoLiveSession] at required
      split at required
      · cases required
        rfl
      · cases required
    subst unchanged
    rw [read] at rest
    obtain ⟨_, middle, lifted, reading⟩ := bind_ok_steps rest
    obtain ⟨sameScope, sameRuntime⟩ := lift_ok_value lifted
    cases sameScope
    subst sameRuntime
    obtain ⟨_, loaded, path, updated⟩ := bind_ok_steps reading
    cases updated
    refine ⟨required, loaded, ?_, rfl⟩
    obtain ⟨found, opened, fileLifted, restoredOk⟩ := bind_ok_steps path
    obtain ⟨sameBytes, sameOpened⟩ := lift_ok_value fileLifted
    cases sameBytes
    subst sameOpened
    exact restoredOk
  · intro parts
    obtain ⟨required, loaded, loadedOk, same⟩ := parts
    subst same
    rw [restoreCheckpointBin]
    apply (bind_of_ok required).trans
    rw [read]
    apply (bind_of_ok (lift_ok _ _)).trans
    have path : restoreCheckpointBinPath (.ok bytes) scope runtime = (.ok (), loaded) := by
      apply (bind_of_ok (lift_ok _ _)).trans
      exact loadedOk
    apply (bind_of_ok path).trans
    rfl

theorem no_session_required {Frame Session : Type} {runtime : RestoredRuntime Frame Session}
    (idle : ¬LiveSessionActive runtime) (operation : String) :
    requireNoLiveSession operation runtime = (.ok (), runtime) := by
  rw [LiveSessionActive, not_or] at idle
  have free : (runtime.liveSession.isNone && runtime.pendingLiveSession.isNone) = true := by
    simpa using idle
  rw [requireNoLiveSession, if_pos free]

/-- A saved runtime is restored with everything it held, its states as tensors and its floats that
are not numbers in their canonical form; saving what was restored gives the same file. -/
theorem checkpoint_round_trip {Frame Session : Type} {metadataJson : List UInt8}
    {state : SnapshotFeatures} {rnn : SnapshotRnn} (metadata : metadataJson ≠ [])
    (storable : Storable state rnn)
    (small : (checkpointPiece metadataJson state rnn).length < 2 ^ 63) :
    ∃ file, writeCheckpointBinPath metadataJson state rnn = .ok file ∧
      (∀ runtime : RestoredRuntime Frame Session, ¬LiveSessionActive runtime →
        restoreCheckpointBin (.ok file) wholeLists runtime =
          (.ok (), { runtime with
            rnn := canonicalRnn rnn
            deterministic := canonicalFeatures state rnn
            loadedScope := none
            undoStack := [] })) ∧
      writeCheckpointBinPath metadataJson (canonicalFeatures state rnn) (canonicalRnn rnn) =
        .ok file := by
  refine ⟨_, checkpoint_written metadata storable small, ?_, ?_⟩
  · intro runtime idle
    apply (restore_call_ok rfl).mpr
    have required := no_session_required idle "restore_checkpoint_bin"
    exact ⟨required, _, written_restored storable small runtime, rfl⟩
  · have same : checkpointPiece metadataJson (canonicalFeatures state rnn) (canonicalRnn rnn) =
        checkpointPiece metadataJson state rnn := canonical_file storable
    rw [← same] at small ⊢
    exact checkpoint_written metadata (canonical_storable storable) small

def oneValueTensor (rank : Nat) : Tensor Binary32 :=
  ⟨List.replicate rank 1, [⟨0x3F800000⟩], by simp⟩

def oneLayerState : EntityState :=
  ⟨[oneValueTensor 3], [oneValueTensor 5], [oneValueTensor 3]⟩

/-- One card, whose state has one layer. -/
def savedRnn : SnapshotRnn where
  states := fun entity =>
    if entity = .card then (∅ : CanonicalMap).insert 1 oneLayerState else ∅
  globalState := some oneLayerState
  flatStates := fun _ => ∅
  flatGlobalState := none

/-- The card has been drawn an encoding. -/
def savedFeatures : SnapshotFeatures :=
  { freshRuntime.deterministic with idEncodings := fun submodule =>
      if submodule = .cardId then
        (∅ : ExtTreeMap Int64 (List Binary32)).insert 1 (List.replicate 12 ⟨0x3F000000⟩)
      else ∅ }

def emptyMetadata : List UInt8 := "{}".toUTF8.toList

theorem ones_counted (rank : Nat) : checkedProduct (List.replicate rank 1) = some 1 := by
  induction rank with
  | zero => rfl
  | succ rank ih => exact ih

theorem one_value_storable (rank : Nat) : StorableTensor rank (oneValueTensor rank) := by
  constructor
  · exact List.length_replicate
  · intro dim member
    rw [List.eq_of_mem_replicate member]
    decide
  · rw [show (oneValueTensor rank).dims.prod = 1 from by simp [oneValueTensor]]
    exact ones_counted rank

theorem one_layer_state_storable : StorableState oneLayerState := by
  have single : ∀ rank, ∀ tensor ∈ [oneValueTensor rank], StorableTensor rank tensor := by
    intro rank tensor member
    rw [List.mem_singleton.mp member]
    exact one_value_storable rank
  exact ⟨rfl, rfl, single 3, single 5, single 3⟩

theorem one_card_storable (identity : Int64) (entity : EntityModule) :
    StorableMap (if entity = .card then (∅ : CanonicalMap).insert identity oneLayerState else ∅) := by
  intro other state found
  have layered : state = oneLayerState := by
    split at found
    · rw [ExtTreeMap.getElem?_insert] at found
      split at found
      · cases found
        rfl
      · simp at found
    · simp at found
  rw [layered]
  exact one_layer_state_storable

theorem saved_dimensioned : Dimensioned savedFeatures.idEncodings := by
  intro submodule identity encoding found
  change (if submodule = .cardId then _ else (∅ : ExtTreeMap Int64 (List Binary32)))[identity]? =
    some encoding at found
  split at found
  · rename_i card
    rw [ExtTreeMap.getElem?_insert] at found
    split at found
    · cases found
      rw [card]
      rfl
    · simp at found
  · simp at found

theorem saved_storable : Storable savedFeatures savedRnn := by
  apply Storable.mk
  · intro entity identity both
    have absent : identity ∉ (∅ : FlatMap) := ExtTreeMap.not_mem_empty
    exact absent both.2
  · exact Or.inr rfl
  · intro entity
    exact one_card_storable 1 entity
  · intro held found
    cases found
    exact one_layer_state_storable
  · exact saved_dimensioned
  · exact (seed_seeded 5489).2

theorem saved_small :
    (checkpointPiece emptyMetadata savedFeatures savedRnn).length < 2 ^ 63 := by
  rw [checkpointPiece, List.length_append, header_length,
    sections_length saved_storable.dimensioned]
  decide +kernel

theorem saved_card_round_trip :
    ∃ file, writeCheckpointBinPath emptyMetadata savedFeatures savedRnn = .ok file ∧
      (∀ runtime : RestoredRuntime Unit Unit, ¬LiveSessionActive runtime →
        restoreCheckpointBin (.ok file) wholeLists runtime =
          (.ok (), { runtime with
            rnn := canonicalRnn savedRnn
            deterministic := canonicalFeatures savedFeatures savedRnn
            loadedScope := none
            undoStack := [] })) ∧
      writeCheckpointBinPath emptyMetadata (canonicalFeatures savedFeatures savedRnn)
        (canonicalRnn savedRnn) = .ok file :=
  checkpoint_round_trip (by decide +kernel) saved_storable saved_small

end RwkvSrs.CheckpointRoundTrip
