import RwkvSrs.LegacyCheckpoints

/-!
A selective restore against a full one. Discarding the identities outside a scope
says, collection by collection, what is left of a runtime. Restoring a file with
a scope gives what is left of the runtime the full restore gives, whether the file
is read selectively or loaded whole and filtered.
-/

namespace RwkvSrs.SelectiveRestore

open Std CheckpointBytes CheckpointPieces CheckpointReader CheckpointRoundTrip
open DeterministicState FallibleMethod LegacyCheckpoints ModuleState NativeRnnState ReaderRules
open RestoreAtomicity RuntimeRestore SelectiveReaders

set_option autoImplicit false

variable {Frame Session : Type}

/-- A file is no longer than an `off_t` can count. -/
structure StoredFile where
  bytes : List UInt8
  addressable : bytes.length < 2 ^ 63

def discardKeys (scope : CheckpointScope) (keys : RecurrentStateKeys) : RecurrentStateKeys where
  cardStates := retainSet keys.cardStates scope.cardIds
  noteStates := retainSet keys.noteStates scope.noteIds
  deckStates := retainSet keys.deckStates scope.deckIds
  presetStates := retainSet keys.presetStates scope.presetIds
  globalState := keys.globalState

def discardFeatures (scope : CheckpointScope) (state : SnapshotFeatures) : SnapshotFeatures :=
  { state with
    cardSet := retainSet state.cardSet scope.cardIds
    lastNewCards := retainMap state.lastNewCards scope.cardIds
    lastI := retainMap state.lastI scope.cardIds
    card2firstDayOffset := retainMap state.card2firstDayOffset scope.cardIds
    card2elapsedDaysCumulative := retainMap state.card2elapsedDaysCumulative scope.cardIds
    card2elapsedSecondsCumulative := retainMap state.card2elapsedSecondsCumulative scope.cardIds
    idEncodings := retainEncodings scope state.idEncodings
    recurrentStateKeys := discardKeys scope state.recurrentStateKeys }

def discardRnn (scope : CheckpointScope) (rnn : SnapshotRnn) : SnapshotRnn where
  states := fun entity => retainMap (rnn.states entity) (CheckpointScope.idsForEntity scope entity)
  globalState := rnn.globalState
  flatStates := fun entity =>
    retainMap (rnn.flatStates entity) (CheckpointScope.idsForEntity scope entity)
  flatGlobalState := rnn.flatGlobalState

/-- Every collection of identities without those outside the scope; the counters, the global state,
the generator and everything that is not restored from a file stay. -/
def discardOutside (scope : CheckpointScope) (runtime : RestoredRuntime Frame Session) :
    RestoredRuntime Frame Session :=
  { runtime with
    deterministic := discardFeatures scope runtime.deterministic
    rnn := discardRnn scope runtime.rnn }

theorem retained_keys {Value : Type} (map : ExtTreeMap Int64 Value) (ids : ExtTreeSet Int64)
    (identity : Int64) : identity ∈ retainMap map ids ↔ identity ∈ map ∧ identity ∈ ids := by
  rw [ExtTreeMap.mem_iff_isSome_getElem?, ExtTreeMap.mem_iff_isSome_getElem?, retained_entry]
  by_cases inside : identity ∈ ids
  · simp [inside]
  · simp [inside]

theorem listed_member (values : List Int64) (identity : Int64) :
    identity ∈ SnapshotValues.toSet values ↔ identity ∈ values :=
  collected_member values identity

/-- The identities of a module after its states were discarded. -/
theorem discarded_identities {V : Type} (canonical : ExtTreeMap Int64 (NativeRnnModuleState V))
    (flat : ExtTreeMap Int64 (FlatNativeRnnModuleState V)) (ids : ExtTreeSet Int64) :
    SnapshotValues.toSet ((retainMap canonical ids).keys ++ (retainMap flat ids).keys) =
      retainSet (SnapshotValues.toSet (canonical.keys ++ flat.keys)) ids := by
  apply ExtTreeSet.ext_mem
  intro identity
  rw [retained_member, listed_member, listed_member, List.mem_append, List.mem_append,
    ExtTreeMap.mem_keys, ExtTreeMap.mem_keys, ExtTreeMap.mem_keys, ExtTreeMap.mem_keys,
    retained_keys, retained_keys, or_and_right]

theorem discarded_flat {V : Type} (ids : ExtTreeSet Int64) :
    retainMap (∅ : ExtTreeMap Int64 (FlatNativeRnnModuleState V)) ids = ∅ := retained_empty ids

theorem narrowed_rnn (scope : CheckpointScope) (contents : CheckpointContents) :
    checkpointRnn (narrowContents scope contents) = discardRnn scope (checkpointRnn contents) := by
  have states : (checkpointRnn (narrowContents scope contents)).states =
      (discardRnn scope (checkpointRnn contents)).states := by
    funext entity
    cases entity with
    | card => rfl
    | note => rfl
    | deck => rfl
    | preset => rfl
  have flats : (discardRnn scope (checkpointRnn contents)).flatStates = fun _ => ∅ := by
    funext entity
    exact discarded_flat (CheckpointScope.idsForEntity scope entity)
  rw [NativeRnn.mk.injEq]
  exact ⟨states, rfl, flats.symm, rfl⟩

theorem discarded_keys (scope : CheckpointScope) (rnn : SnapshotRnn) :
    cpuStateKeys (discardRnn scope rnn) = discardKeys scope (cpuStateKeys rnn) := by
  have sets : ∀ entity, SnapshotValues.toSet (((discardRnn scope rnn).states entity).keys ++
        ((discardRnn scope rnn).flatStates entity).keys) =
      retainSet (SnapshotValues.toSet ((rnn.states entity).keys ++ (rnn.flatStates entity).keys))
        (CheckpointScope.idsForEntity scope entity) :=
    fun entity => discarded_identities _ _ _
  rw [cpuStateKeys, sets .card, sets .note, sets .deck, sets .preset]
  rfl

theorem selective_v2 {scope : CheckpointScope} {cursor : Cursor} (within : Within cursor)
    {runtime full : RestoredRuntime Frame Session}
    (restored : readRuntimeStateBinV2 none cursor runtime = (.ok (), full)) :
    readRuntimeStateBinV2 (some scope) cursor runtime = (.ok (), discardOutside scope full) := by
  obtain ⟨read, middle, lifted, rest⟩ := bind_ok_steps restored
  obtain ⟨contentsRead, sameRuntime⟩ := lift_ok_value lifted
  subst sameRuntime
  obtain ⟨contents, reached⟩ := read
  have selective := contents_narrow scope cursor contents reached within contentsRead
  obtain ⟨idRng, last, generatorLifted, updated⟩ := bind_ok_steps rest
  obtain ⟨generator, sameLast⟩ := lift_ok_value generatorLifted
  subst sameLast
  cases updated
  rw [readRuntimeStateBinV2, selective]
  apply (bind_of_ok (lift_ok _ _)).trans
  have sameState : (narrowContents scope contents).rngState = contents.rngState := rfl
  dsimp only
  rw [sameState, generator]
  apply (bind_of_ok (lift_ok _ _)).trans
  rw [update_apply, narrowed_rnn, discarded_keys]
  rfl

theorem filtered_rnn (scope : CheckpointScope) (contents : CheckpointContents) :
    filterRnn (checkpointRnn contents) scope = discardRnn scope (checkpointRnn contents) := by
  have flats : (discardRnn scope (checkpointRnn contents)).flatStates = fun _ => ∅ := by
    funext entity
    exact discarded_flat (CheckpointScope.idsForEntity scope entity)
  rw [filterRnn, NativeRnn.mk.injEq]
  exact ⟨rfl, rfl, flats.symm, rfl⟩

theorem filtered_v1 {cursor : Cursor} {runtime full : RestoredRuntime Frame Session}
    (restored : readRuntimeStateBinV1 cursor runtime = (.ok (), full)) (scope : CheckpointScope) :
    filterRuntimeState scope full = discardOutside scope full := by
  obtain ⟨read, middle, lifted, rest⟩ := bind_ok_steps restored
  obtain ⟨contents, reached⟩ := read
  obtain ⟨idRng, last, generatorLifted, updated⟩ := bind_ok_steps rest
  cases updated
  have keys := canonical_state_keys (checkpointRnn contents) (fun _ => rfl) rfl
  simp only [filterRuntimeState, filtered_rnn, setRecurrentStateKeys, discarded_keys, ← keys]
  rfl

theorem selective_runtime (file : StoredFile) (scope : CheckpointScope)
    {runtime full : RestoredRuntime Frame Session}
    (restored : restoreRuntimeCheckpointBin file.bytes none runtime = (.ok (), full)) :
    restoreRuntimeCheckpointBin file.bytes (some scope) runtime =
      (.ok (), discardOutside scope full) := by
  obtain ⟨read, middle, lifted, rest⟩ := bind_ok_steps restored
  obtain ⟨headerRead, sameRuntime⟩ := lift_ok_value lifted
  subst sameRuntime
  obtain ⟨version, cursor⟩ := read
  have start : Within ⟨file.bytes, 0⟩ := ⟨Nat.zero_le _, file.addressable⟩
  have within := (steady_rules.header _ _ _ start headerRead).2
  rw [restoreRuntimeCheckpointBin, headerRead]
  apply (bind_of_ok (lift_ok _ _)).trans
  dsimp only at rest ⊢
  by_cases legacy : version = legacyCheckpointBinVersion
  · rw [if_pos legacy] at rest ⊢
    obtain ⟨_, loaded, loadedOk, same⟩ := bind_ok_steps rest
    cases same
    rw [bind_of_ok loadedOk, update_apply, filtered_v1 loadedOk scope]
  · rw [if_neg legacy] at rest ⊢
    exact selective_v2 within rest

def scopeLists (cardIds noteIds deckIds presetIds : List Int64) : IdentityLists :=
  ⟨some cardIds, some noteIds, some deckIds, some presetIds⟩

def listedScope (cardIds noteIds deckIds presetIds : List Int64) : CheckpointScope :=
  ⟨SnapshotValues.toSet cardIds, SnapshotValues.toSet noteIds, SnapshotValues.toSet deckIds,
    SnapshotValues.toSet presetIds⟩

/-- Where the full restore of a file succeeds, a selective restore of that file succeeds and leaves
exactly what discarding the other identities leaves of the full one; so does a selective restore of
any other file, of either version, whose full restore gives the same runtime. -/
theorem selective_restore_filters (file : StoredFile)
    (cardIds noteIds deckIds presetIds : List Int64)
    {runtime full : RestoredRuntime Frame Session}
    (restored : restoreCheckpointBin (.ok file.bytes) wholeLists runtime = (.ok (), full)) :
    (∀ same : StoredFile,
      restoreCheckpointBin (.ok same.bytes) wholeLists runtime = (.ok (), full) →
        restoreCheckpointBin (.ok same.bytes) (scopeLists cardIds noteIds deckIds presetIds) runtime =
          restoreCheckpointBin (.ok file.bytes) (scopeLists cardIds noteIds deckIds presetIds)
            runtime) ∧
      restoreCheckpointBin (.ok file.bytes) (scopeLists cardIds noteIds deckIds presetIds) runtime =
        (.ok (), { discardOutside (listedScope cardIds noteIds deckIds presetIds) full with
          loadedScope := some (listedScope cardIds noteIds deckIds presetIds) }) := by
  have each : ∀ same : StoredFile,
      restoreCheckpointBin (.ok same.bytes) wholeLists runtime = (.ok (), full) →
        restoreCheckpointBin (.ok same.bytes) (scopeLists cardIds noteIds deckIds presetIds)
            runtime =
          (.ok (), { discardOutside (listedScope cardIds noteIds deckIds presetIds) full with
            loadedScope := some (listedScope cardIds noteIds deckIds presetIds) }) := by
    intro same whole
    obtain ⟨required, loaded, loadedOk, made⟩ := (restore_call_ok rfl).mp whole
    apply (restore_call_ok rfl).mpr
    refine ⟨required, _, selective_runtime same _ loadedOk, ?_⟩
    rw [made]
    rfl
  apply And.intro
  · intro same whole
    rw [each same whole, each file restored]
  · exact each file restored

def savedFile : StoredFile where
  bytes := checkpointPiece emptyMetadata savedFeatures savedRnn
  addressable := saved_small

/-- What the full restore of the saved file leaves of a fresh runtime. -/
def reloadedRuntime : RestoredRuntime Unit Unit :=
  { freshRuntime with
    rnn := canonicalRnn savedRnn
    deterministic := canonicalFeatures savedFeatures savedRnn }

theorem saved_file_reloaded :
    restoreCheckpointBin (.ok savedFile.bytes) wholeLists freshRuntime =
      (.ok (), reloadedRuntime) := by
  apply (restore_call_ok rfl).mpr
  exact ⟨rfl, _, written_restored saved_storable saved_small freshRuntime, rfl⟩

def legacyFile : StoredFile where
  bytes := legacyPiece emptyMetadata savedFeatures savedRnn
  addressable := Nat.lt_of_le_of_lt (legacy_shorter _ _ _) saved_small

theorem legacy_file_reloaded :
    restoreCheckpointBin (.ok legacyFile.bytes) wholeLists freshRuntime =
      (.ok (), reloadedRuntime) := by
  apply (restore_call_ok rfl).mpr
  exact ⟨rfl, _, legacy_restored saved_storable rfl legacyFile.addressable freshRuntime, rfl⟩

/-- The card is discarded whichever version the file has. -/
theorem saved_file_without_cards :
    restoreCheckpointBin (.ok legacyFile.bytes) (scopeLists [2] [] [] []) freshRuntime =
        restoreCheckpointBin (.ok savedFile.bytes) (scopeLists [2] [] [] []) freshRuntime ∧
      restoreCheckpointBin (.ok savedFile.bytes) (scopeLists [2] [] [] []) freshRuntime =
        (.ok (), { discardOutside (listedScope [2] [] [] []) reloadedRuntime with
          loadedScope := some (listedScope [2] [] [] []) }) := by
  have filters := selective_restore_filters savedFile [2] [] [] [] saved_file_reloaded
  exact ⟨filters.1 legacyFile legacy_file_reloaded, filters.2⟩

end RwkvSrs.SelectiveRestore
