import RwkvSrs.CheckpointRoundTrip

/-!
Files of the first version. They count no cards and list the states of a module
without an index; everything else is written as in the current version. Such a
file restores the runtime which the current file of the same runtime restores,
as long as the runtime counts the cards of its card set.
-/

namespace RwkvSrs.LegacyCheckpoints

open Std CheckpointBytes CheckpointPieces CheckpointReader CheckpointRoundTrip CheckpointSections
open CheckpointWriter CpuStateMaps DeterministicState FallibleMethod GeneratorStates KeyedOverlay
open LittleEndian ModuleState NativeRnnState ReadBack RestoreAtomicity RuntimeRestore
open SectionReadBack SelectiveReaders StateLayouts TorchRng

set_option autoImplicit false

variable {Frame Session : Type} {state : SnapshotFeatures} {rnn : SnapshotRnn}

def listedState (entry : StateEntry) : List UInt8 := binWriteI64 entry.1 ++ statePiece entry.2

def listedPiece (entries : List StateEntry) : List UInt8 :=
  binWriteU64 entries.length ++ entries.flatMap listedState

def legacyStates (rnn : SnapshotRnn) (entity : EntityModule) : List UInt8 :=
  listedPiece (combinedEntries (rnn.states entity) (rnn.flatStates entity))

def legacySections (state : SnapshotFeatures) (rnn : SnapshotRnn) : List UInt8 :=
  binWriteOptionF64 state.firstDayOffset ++ (binWriteOptionF64 state.prevDayOffset ++
  (binWriteI64Set state.cardSet ++
  (binWriteI64UsizeMap state.lastNewCards ++ (binWriteI64 state.i ++
  (binWriteI64I64Map state.lastI ++ (binWriteF64 state.today ++
  (binWriteI64 state.todayReviews ++ (binWriteI64 state.todayNewCards ++
  (binWriteI64F64Map state.card2firstDayOffset ++
  (binWriteI64F64Map state.card2elapsedDaysCumulative ++
  (binWriteI64F64Map state.card2elapsedSecondsCumulative ++
  (encodingsPiece state.idEncodings ++ (binWriteBytes (toTorchRngStateBytes state.idRng) ++
  (legacyStates rnn .card ++ (legacyStates rnn .note ++
  (legacyStates rnn .deck ++ (legacyStates rnn .preset ++ globalPiece rnn)))))))))))))))))

def legacyHeader (metadataJson : List UInt8) : List UInt8 :=
  checkpointBinMagic ++ (binWriteU32 legacyCheckpointBinVersion ++
    (binWriteU64 metadataJson.length ++ metadataJson))

def legacyPiece (metadataJson : List UInt8) (state : SnapshotFeatures) (rnn : SnapshotRnn) :
    List UInt8 :=
  legacyHeader metadataJson ++ legacySections state rnn

theorem listed_wide (entry : StateEntry) : 8 ≤ (listedState entry).length := by
  rw [listedState, List.length_append, write_i64_length]
  omega

theorem reads_listed {entries : List StateEntry}
    (storable : ∀ entry ∈ entries, StorableState entry.2) (field : String) :
    ReadsBack (binReadStateMap field) (listedPiece entries)
      (collectMap none ∅ (entries.map canonicalEntry)) := by
  apply reads_of_small
  intro small
  have bound := piece_bounds_count entries listed_wide
  have short : entries.length < 2 ^ 64 := by
    rw [listedPiece, List.length_append] at small
    omega
  apply reads_bind (reads_usize short field)
  apply reads_return (collectMap none ∅)
  apply reads_items _ 0
  intro entry member index
  apply reads_bind (reads_i64 entry.1 _)
  exact reads_return (fun held => (entry.1, held)) (reads_entity (storable entry member) _)

theorem reads_legacy_states (storable : Storable state rnn) (entity : EntityModule)
    (field : String) :
    ReadsBack (binReadStateMap field) (legacyStates rnn entity) (canonicalStates rnn entity) := by
  have once := storable.once entity
  rw [canonicalStates, ← combined_collected once]
  apply reads_listed
  intro entry member
  obtain ⟨visited, inside, same⟩ := List.mem_map.mp member
  rw [← same]
  exact combined_storable once (storable.states entity) visited inside

theorem reads_legacy_contents (storable : Storable state rnn)
    (counted : state.cardCount = UInt64.ofNat state.cardSet.size) :
    ReadsBack readContentsV1 (legacySections state rnn) (writtenContents state rnn) := by
  apply reads_bind (reads_option_f64 state.firstDayOffset _)
  apply reads_bind (reads_option_f64 state.prevDayOffset _)
  apply reads_bind (reads_i64_set state.cardSet _)
  apply reads_bind (reads_same_map (fun value => reads_word64 value _) state.lastNewCards _)
  apply reads_bind (reads_i64 state.i _)
  apply reads_bind (reads_same_map (fun value => reads_i64 value _) state.lastI _)
  apply reads_bind (reads_f64 state.today _)
  apply reads_bind (reads_i64 state.todayReviews _)
  apply reads_bind (reads_i64 state.todayNewCards _)
  apply reads_bind (reads_floats state.card2firstDayOffset _)
  apply reads_bind (reads_floats state.card2elapsedDaysCumulative _)
  apply reads_bind (reads_floats state.card2elapsedSecondsCumulative _)
  apply reads_bind (reads_id_encodings storable.dimensioned)
  apply reads_bind (reads_bytes (toTorchRngStateBytes state.idRng) _)
  apply reads_bind (reads_legacy_states storable .card _)
  apply reads_bind (reads_legacy_states storable .note _)
  apply reads_bind (reads_legacy_states storable .deck _)
  apply reads_bind (reads_legacy_states storable .preset _)
  rw [globalPiece, ← List.append_nil (optionalPiece rnn.latestGlobal)]
  apply reads_bind (reads_optional_state (latest_global_storable storable) _)
  rw [← counted]
  exact reads_pure (writtenContents state rnn)

theorem reads_legacy_header {metadataJson : List UInt8} (small : metadataJson.length < 2 ^ 64) :
    ReadsBack readHeader (legacyHeader metadataJson) legacyCheckpointBinVersion := by
  apply reads_bind (reads_exact rfl _)
  rw [if_neg (not_not.mpr rfl)]
  apply reads_bind (reads_u32 (by decide) _)
  rw [if_neg (by decide)]
  apply reads_bind (reads_usize small _)
  exact reads_return (fun _ => legacyCheckpointBinVersion) (reads_exact rfl _)

theorem canonical_state_keys {V : Type} (rnn : NativeRnn V)
    (materialized : ∀ entity, rnn.flatStates entity = ∅) (global : rnn.flatGlobalState = none) :
    canonicalKeys rnn = cpuStateKeys rnn := by
  have none : (∅ : ExtTreeMap Int64 (FlatNativeRnnModuleState V)).keys = [] :=
    ExtTreeMap.keys_eq_nil_iff.mpr rfl
  rw [canonicalKeys, cpuStateKeys]
  simp [materialized, global, none]

theorem legacy_restored {metadataJson : List UInt8} (storable : Storable state rnn)
    (counted : state.cardCount = UInt64.ofNat state.cardSet.size)
    (small : (legacyPiece metadataJson state rnn).length < 2 ^ 63)
    (runtime : RestoredRuntime Frame Session) :
    restoreRuntimeCheckpointBin (legacyPiece metadataJson state rnn) none runtime =
      (.ok (), { runtime with
        rnn := canonicalRnn rnn
        deterministic := canonicalFeatures state rnn }) := by
  have metadataSmall : metadataJson.length < 2 ^ 64 := by
    simp only [legacyPiece, legacyHeader, List.length_append] at small
    omega
  have header := reads_legacy_header metadataSmall [] (legacySections state rnn) small
  have sections := reads_legacy_contents storable counted (legacyHeader metadataJson) [] (by
    rw [List.append_nil]
    exact small)
  rw [List.append_nil] at sections
  rw [List.nil_append, List.length_nil, Nat.zero_add] at header
  have loaded : (readRuntimeStateBinV1 ⟨legacyHeader metadataJson ++ legacySections state rnn,
      (legacyHeader metadataJson).length⟩ : Method (RestoredRuntime Frame Session) Unit) runtime =
        (.ok (), { runtime with
          rnn := canonicalRnn rnn
          deterministic := canonicalFeatures state rnn }) := by
    rw [readRuntimeStateBinV1, sections]
    apply (bind_of_ok (lift_ok _ _)).trans
    have generator : fromTorchRngState (writtenContents state rnn).rngState = .ok state.idRng :=
      restored_generator storable.generator
    dsimp only
    rw [generator]
    apply (bind_of_ok (lift_ok _ _)).trans
    have keys : canonicalKeys (canonicalRnn rnn) = cpuStateKeys rnn := by
      rw [canonical_state_keys (canonicalRnn rnn) (fun _ => rfl) rfl, canonical_rnn_keys]
    rw [update_apply, written_rnn, keys]
    rfl
  rw [restoreRuntimeCheckpointBin, legacyPiece, header]
  apply (bind_of_ok (lift_ok _ _)).trans
  dsimp only
  rw [if_pos rfl, bind_of_ok loaded]
  rfl

theorem listed_shorter (entries : List StateEntry) :
    (listedPiece entries).length ≤ (indexedPiece entries).length := by
  have each : ∀ entries : List StateEntry, (entries.flatMap listedState).length =
      entries.length * 8 + (entries.map fun entry => (statePiece entry.2).length).sum := by
    intro entries
    induction entries with
    | nil => rfl
    | cons entry entries ih =>
        rw [List.flatMap_cons, List.length_append, ih, listedState, List.length_append,
          write_i64_length, List.map_cons, List.sum_cons, List.length_cons]
        ring
  rw [indexed_length, listedPiece, List.length_append, write_u64_length, each]
  omega

theorem appended_shorter (first : List UInt8) {second third : List UInt8}
    (shorter : second.length ≤ third.length) : (first ++ second).length ≤ (first ++ third).length := by
  rw [List.length_append, List.length_append]
  exact Nat.add_le_add_left shorter _

theorem legacy_states_shorter (rnn : SnapshotRnn) :
    (legacyStates rnn .card ++ (legacyStates rnn .note ++
      (legacyStates rnn .deck ++ (legacyStates rnn .preset ++ globalPiece rnn)))).length ≤
    (indexedPiece (combinedEntries (rnn.states .card) (rnn.flatStates .card)) ++
      (indexedPiece (combinedEntries (rnn.states .note) (rnn.flatStates .note)) ++
      (indexedPiece (combinedEntries (rnn.states .deck) (rnn.flatStates .deck)) ++
      (indexedPiece (combinedEntries (rnn.states .preset) (rnn.flatStates .preset)) ++
      globalPiece rnn)))).length := by
  simp only [List.length_append, legacyStates]
  exact Nat.add_le_add (listed_shorter _) (Nat.add_le_add (listed_shorter _)
    (Nat.add_le_add (listed_shorter _) (Nat.add_le_add_right (listed_shorter _) _)))

theorem legacy_sections_shorter (state : SnapshotFeatures) (rnn : SnapshotRnn) :
    (legacySections state rnn).length ≤ (sectionsPiece state rnn).length := by
  apply appended_shorter
  apply appended_shorter
  rw [@List.length_append _ (binWriteU64 state.cardCount.toNat)]
  apply Nat.le_add_left_of_le
  iterate 12 apply appended_shorter
  exact legacy_states_shorter rnn

/-- The current file of a runtime is never the shorter one. -/
theorem legacy_shorter (metadataJson : List UInt8) (state : SnapshotFeatures) (rnn : SnapshotRnn) :
    (legacyPiece metadataJson state rnn).length ≤
      (checkpointPiece metadataJson state rnn).length := by
  have header : (legacyHeader metadataJson).length = (headerPiece metadataJson).length := by
    simp only [legacyHeader, headerPiece, List.length_append, binWriteU32, to_le_length]
  rw [legacyPiece, checkpointPiece, List.length_append, List.length_append, header]
  exact Nat.add_le_add_left (legacy_sections_shorter state rnn) _

end RwkvSrs.LegacyCheckpoints
