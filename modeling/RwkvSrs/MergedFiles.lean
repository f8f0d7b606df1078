import RwkvSrs.LoadedRuntimes
import RwkvSrs.MergedStates

/-!
Saving over the backing file against loading it whole. The merged file is the one
a full load would have given once the scoped runtime was laid over it and saved.
A runtime that was restored with a scope and not changed is saved to the file it
came from.
-/

namespace RwkvSrs.MergedFiles

open Std CheckpointBytes CheckpointPieces CheckpointReader CheckpointRoundTrip CheckpointSections
open CheckpointWriter DeterministicState FallibleMethod GeneratorStates LoadedRuntimes MergeCopies
open MergedSave MergedStates ModuleState NativeRnnState ReadBack ReaderRules RestoreAtomicity
open RuntimeRestore SectionReadBack SelectiveReaders SelectiveRestore

set_option autoImplicit false

def overlayEncodings (scope : CheckpointScope) (backing current : IdEncodings Binary32) :
    IdEncodings Binary32 :=
  fun submodule =>
    overlayMap (scope.idsForSubmodule submodule) (backing submodule) (current submodule)

/-- Every collection of the backing state outside the scope under the current one; the counters and
the generator are those of the current state. -/
def overlayFeatures (scope : CheckpointScope) (backing current : SnapshotFeatures) :
    SnapshotFeatures :=
  { current with
    cardSet := overlaySet scope.cardIds backing.cardSet current.cardSet
    lastNewCards := overlayMap scope.cardIds backing.lastNewCards current.lastNewCards
    lastI := overlayMap scope.cardIds backing.lastI current.lastI
    card2firstDayOffset :=
      overlayMap scope.cardIds backing.card2firstDayOffset current.card2firstDayOffset
    card2elapsedDaysCumulative :=
      overlayMap scope.cardIds backing.card2elapsedDaysCumulative current.card2elapsedDaysCumulative
    card2elapsedSecondsCumulative := overlayMap scope.cardIds
      backing.card2elapsedSecondsCumulative current.card2elapsedSecondsCumulative
    idEncodings := overlayEncodings scope backing.idEncodings current.idEncodings }

/-- What an identity maps to in a runtime, in whichever form. -/
def heldStates (rnn : SnapshotRnn) (entity : EntityModule) : CanonicalMap :=
  combinedMap (rnn.states entity) (rnn.flatStates entity)

def overlayRnn (scope : CheckpointScope) (backing current : SnapshotRnn) : SnapshotRnn where
  states := fun entity => overlayMap (CheckpointScope.idsForEntity scope entity)
    (heldStates backing entity) (heldStates current entity)
  globalState := current.latestGlobal
  flatStates := fun _ => ∅
  flatGlobalState := none

def valuesPiece (values : List Binary32) : List UInt8 :=
  binWriteU64 values.length ++ values.flatMap binWriteF32

theorem submodule_piece (values : IdEncodings Binary32) (submodule : IdSubmodule) :
    submodulePiece values submodule =
      binWriteString submodule.name ++ binWriteI64Map valuesPiece (values submodule) := rfl

theorem reads_values {submodule : IdSubmodule} {values : List Binary32}
    (dimensioned : values.length = submodule.dim) :
    ReadsBack (readEncodingValues submodule) (valuesPiece values) (values.map canonicalNan32) := by
  have short : values.length < 2 ^ 64 := by
    rw [dimensioned]
    exact dimension_small submodule
  apply reads_bind (reads_usize short _)
  rw [if_neg (not_not.mpr dimensioned)]
  exact reads_items (fun value _ _ => reads_f32 value _) 0

theorem values_written {submodule : IdSubmodule} {values : List Binary32}
    (dimensioned : values.length = submodule.dim) :
    writeEncodingValues submodule values = .ok (valuesPiece values) :=
  if_neg (not_not.mpr dimensioned)

theorem copies_submodule {backing current : IdEncodings Binary32}
    (backingDimensioned : Dimensioned backing) (dimensioned : Dimensioned current)
    (scope : CheckpointScope) (submodule : IdSubmodule) :
    Copies (binCopyMergedSubmodule current scope) (submodulePiece backing submodule)
      (submodulePiece (overlayEncodings scope (canonicalEncodings backing) current) submodule) () := by
  rw [submodule_piece, submodule_piece]
  apply copies_after_read (reads_string submodule.name _)
  rw [found_submodule]
  apply copies_after_write
  apply copies_map
  · intro identity values found
    exact reads_values (backingDimensioned submodule identity values found)
  · intro identity values found
    apply values_written
    rw [List.length_map]
    exact backingDimensioned submodule identity values found
  · intro identity values found
    exact values_written (dimensioned submodule identity values found)

theorem copies_modules {backing current : IdEncodings Binary32}
    (backingDimensioned : Dimensioned backing) (dimensioned : Dimensioned current)
    (scope : CheckpointScope) (submodules : List IdSubmodule) :
    Copies (copyModules current scope submodules.length) (submodules.flatMap (submodulePiece backing))
      (submodules.flatMap (submodulePiece
        (overlayEncodings scope (canonicalEncodings backing) current))) () := by
  induction submodules with
  | nil => exact copies_pure ()
  | cons submodule submodules ih =>
      exact copies_bind (copies_submodule backingDimensioned dimensioned scope submodule) ih

theorem copies_encodings {backing current : IdEncodings Binary32}
    (backingDimensioned : Dimensioned backing) (dimensioned : Dimensioned current)
    (scope : CheckpointScope) :
    Copies (binCopyMergedIdEncodings current scope) (encodingsPiece backing)
      (encodingsPiece (overlayEncodings scope (canonicalEncodings backing) current)) () := by
  apply copies_after_read (reads_usize (by decide) _)
  apply copies_after_write
  exact copies_modules backingDimensioned dimensioned scope idSubmodules

theorem copies_words {backing current : ExtTreeMap Int64 UInt64} (selected : ExtTreeSet Int64)
    (field : String) :
    Copies (binCopyMergedI64Map field current selected
      (do return UInt64.ofNat (← binReadUsize field)) (fun value => .ok (binWriteU64 value.toNat)))
      (binWriteI64UsizeMap backing) (binWriteI64UsizeMap (overlayMap selected backing current)) () := by
  have copies : Copies (binCopyMergedI64Map field current selected
      (do return UInt64.ofNat (← binReadUsize field)) (fun value => .ok (binWriteU64 value.toNat)))
      (binWriteI64UsizeMap backing) (binWriteI64UsizeMap (overlayMap selected
        (backing.map fun _ value => value) current)) () :=
    copies_map (fun _ value _ => reads_word64 value field) (fun _ _ _ => rfl) (fun _ _ _ => rfl)
      selected
  rw [map_same] at copies
  exact copies

theorem copies_integers {backing current : ExtTreeMap Int64 Int64} (selected : ExtTreeSet Int64)
    (field : String) :
    Copies (binCopyMergedI64Map field current selected (binReadI64 field)
      (fun value => .ok (binWriteI64 value)))
      (binWriteI64I64Map backing) (binWriteI64I64Map (overlayMap selected backing current)) () := by
  have copies : Copies (binCopyMergedI64Map field current selected (binReadI64 field)
      (fun value => .ok (binWriteI64 value))) (binWriteI64I64Map backing)
      (binWriteI64I64Map (overlayMap selected (backing.map fun _ value => value) current)) () :=
    copies_map (fun _ value _ => reads_i64 value field) (fun _ _ _ => rfl) (fun _ _ _ => rfl) selected
  rw [map_same] at copies
  exact copies

theorem copies_floats {backing current : ExtTreeMap Int64 Binary64} (selected : ExtTreeSet Int64)
    (field : String) :
    Copies (binCopyMergedI64Map field current selected (binReadF64 field)
      (fun value => .ok (binWriteF64 value)))
      (binWriteI64F64Map backing)
      (binWriteI64F64Map (overlayMap selected (canonicalFloats backing) current)) () :=
  copies_map (fun _ value _ => reads_f64 value field) (fun _ _ _ => rfl) (fun _ _ _ => rfl) selected

theorem copies_states {backing current : SnapshotRnn} (entity : EntityModule)
    (backingOnce : HeldOnce (backing.states entity) (backing.flatStates entity))
    (once : HeldOnce (current.states entity) (current.flatStates entity))
    (storable : StorableMap (current.states entity)) (scope : CheckpointScope) (field : String)
    (sized : ∀ (identity : Int64) state,
      ((overlayRnn scope backing current).states entity)[identity]? = some state →
        (statePiece state).length < 2 ^ 64) :
    Copies (binCopyMergedIndexedStateMap field (current.states entity) (current.flatStates entity)
        (CheckpointScope.idsForEntity scope entity))
      (indexedPiece (combinedEntries (backing.states entity) (backing.flatStates entity)))
      (indexedPiece (combinedEntries ((overlayRnn scope backing current).states entity) ∅)) () := by
  rw [canonical_only]
  exact copies_indexed field (combined_distinct backingOnce)
    (fun identity state => combined_entry backingOnce identity state) once storable sized

theorem copies_global {rnn : SnapshotRnn}
    (once : rnn.globalState = none ∨ rnn.flatGlobalState = none)
    (storable : ∀ held, rnn.globalState = some held → StorableState held) :
    Copies (writeOptionalState rnn.globalState rnn.flatGlobalState) [] (globalPiece rnn) () := by
  rw [globalPiece, NativeRnn.latestGlobal]
  cases canonical : rnn.globalState with
  | none =>
      cases flat : rnn.flatGlobalState with
      | none => exact copies_write _
      | some state =>
          apply copies_after_write
          apply copies_checked
          exact entry_piece_written (flat_storable state)
  | some state =>
      cases flat : rnn.flatGlobalState with
      | none =>
          apply copies_after_write
          apply copies_checked
          exact entry_piece_written (storable state canonical)
      | some other =>
          rcases once with absent | absent
          · rw [canonical] at absent
            cases absent
          · rw [flat] at absent
            cases absent

theorem latest_overlay (scope : CheckpointScope) (backing current : SnapshotRnn) :
    globalPiece (overlayRnn scope backing current) = globalPiece current := by
  rw [globalPiece, globalPiece]
  simp [overlayRnn, NativeRnn.latestGlobal]

/-- Everything is written, wherever the reader of the backing file is left. -/
structure Finishes (step : Merger Unit) (piece written : List UInt8) : Prop where
  runs : ∀ before after start, (before ++ (piece ++ after)).length < 2 ^ 63 →
    ∃ reached, step ⟨⟨before ++ (piece ++ after), before.length⟩, ⟨start, start.length⟩⟩ =
      (.ok (), ⟨reached, ⟨start ++ written, start.length + written.length⟩⟩)

theorem finishes_bind {Value : Type} {first : Merger Value} {next : Value → Merger Unit}
    {head tail firstWritten nextWritten : List UInt8} {value : Value}
    (firstCopies : Copies first head firstWritten value)
    (nextFinishes : Finishes (next value) tail nextWritten) :
    Finishes (first >>= next) (head ++ tail) (firstWritten ++ nextWritten) := by
  apply Finishes.mk
  intro before after start small
  have front : before ++ ((head ++ tail) ++ after) = before ++ (head ++ (tail ++ after)) := by
    rw [List.append_assoc head]
  have back : before ++ (head ++ (tail ++ after)) = (before ++ head) ++ (tail ++ after) := by
    rw [List.append_assoc before]
  rw [front] at small ⊢
  rw [bind_of_ok (firstCopies.runs before (tail ++ after) start small)]
  rw [back] at small ⊢
  obtain ⟨reached, finished⟩ := nextFinishes.runs (before ++ head) after (start ++ firstWritten) small
  refine ⟨reached, ?_⟩
  rw [List.length_append, List.length_append] at finished
  rw [finished, List.append_assoc start, List.length_append, Nat.add_assoc]

theorem finishes_after_read {Value : Type} {read : Reader Value} {next : Value → Merger Unit}
    {piece tail written : List UInt8} {value : Value} (reads : ReadsBack read piece value)
    (finishes : Finishes (next value) tail written) :
    Finishes (reading read >>= next) (piece ++ tail) written := by
  rw [← List.nil_append written]
  exact finishes_bind (copies_reading reads) finishes

theorem finishes_after_write {next : Merger Unit} {tail written : List UInt8} (piece : List UInt8)
    (finishes : Finishes next tail written) :
    Finishes (binWriteAll piece >>= fun _ => next) tail (piece ++ written) := by
  rw [← List.nil_append tail]
  exact finishes_bind (copies_write piece) finishes

/-- What is left of the backing file is not looked at. -/
theorem finishes_unread {step : Merger Unit} {written : List UInt8}
    (copies : Copies step [] written ()) (piece : List UInt8) : Finishes step piece written := by
  apply Finishes.mk
  intro before after start small
  have finished := copies.runs before (piece ++ after) start small
  exact ⟨_, finished⟩

theorem merged_sections {state backingState : SnapshotFeatures} {rnn backingRnn : SnapshotRnn}
    (backing : Storable backingState backingRnn) (storable : Storable state rnn)
    (scope : CheckpointScope)
    (sized : ∀ entity (identity : Int64) held,
      ((overlayRnn scope backingRnn rnn).states entity)[identity]? = some held →
        (statePiece held).length < 2 ^ 64) :
    Finishes (writeMergedRuntimeStateBinV2 state rnn scope) (sectionsPiece backingState backingRnn)
      (sectionsPiece (overlayFeatures scope (canonicalFeatures backingState backingRnn) state)
        (overlayRnn scope backingRnn rnn)) := by
  have states : ∀ entity field, Copies (binCopyMergedIndexedStateMap field (rnn.states entity)
      (rnn.flatStates entity) (CheckpointScope.idsForEntity scope entity))
      (indexedPiece (combinedEntries (backingRnn.states entity) (backingRnn.flatStates entity)))
      (indexedPiece (combinedEntries ((overlayRnn scope backingRnn rnn).states entity) ∅)) () :=
    fun entity field => copies_states entity (backing.once entity) (storable.once entity)
      (storable.states entity) scope field (sized entity)
  rw [sectionsPiece, sectionsPiece, latest_overlay]
  apply finishes_after_read (reads_option_f64 backingState.firstDayOffset _)
  apply finishes_after_write
  apply finishes_after_read (reads_option_f64 backingState.prevDayOffset _)
  apply finishes_after_write
  apply finishes_after_read (reads_usize (UInt64.toNat_lt backingState.cardCount) _)
  apply finishes_after_write
  apply finishes_bind (copies_set _ backingState.cardSet state.cardSet scope.cardIds)
  apply finishes_bind (copies_words scope.cardIds _)
  apply finishes_after_read (reads_i64 backingState.i _)
  apply finishes_after_write
  apply finishes_bind (copies_integers scope.cardIds _)
  apply finishes_after_read (reads_f64 backingState.today _)
  apply finishes_after_write
  apply finishes_after_read (reads_i64 backingState.todayReviews _)
  apply finishes_after_write
  apply finishes_after_read (reads_i64 backingState.todayNewCards _)
  apply finishes_after_write
  apply finishes_bind (copies_floats scope.cardIds _)
  apply finishes_bind (copies_floats scope.cardIds _)
  apply finishes_bind (copies_floats scope.cardIds _)
  apply finishes_bind (copies_encodings backing.dimensioned storable.dimensioned scope)
  apply finishes_after_read (reads_bytes (toTorchRngStateBytes backingState.idRng) _)
  apply finishes_after_write
  apply finishes_bind (states .card _)
  apply finishes_bind (states .note _)
  apply finishes_bind (states .deck _)
  apply finishes_bind (states .preset _)
  exact finishes_unread (copies_global storable.globalOnce storable.globalState) _

theorem reads_backing_header {metadataJson : List UInt8} (small : metadataJson.length < 2 ^ 63) :
    ReadsBack readBackingHeader (headerPiece metadataJson) () := by
  have skipped : ReadsBack skipMetadata (binWriteU64 metadataJson.length ++ metadataJson) () := by
    have wide : metadataJson.length < 2 ^ 64 := by omega
    apply reads_bind (reads_usize wide _)
    rw [if_neg (Nat.not_le.mpr small)]
    intro before after short
    have offsetSmall : before.length + metadataJson.length < 2 ^ 63 := by
      simp only [List.length_append] at short
      omega
    apply bind_read.mpr
    refine ⟨before.length, _, rfl, ?_⟩
    rw [seekTo, if_pos offsetSmall]
  apply reads_bind (reads_exact rfl _)
  rw [if_neg (not_not.mpr rfl)]
  apply reads_bind (reads_u32 (by decide) _)
  rw [if_neg (by decide)]
  exact skipped

theorem merged_written {state backingState : SnapshotFeatures} {rnn backingRnn : SnapshotRnn}
    {backingMetadata metadataJson : List UInt8} (metadata : metadataJson ≠ [])
    (backing : Storable backingState backingRnn) (storable : Storable state rnn)
    (small : (checkpointPiece backingMetadata backingState backingRnn).length < 2 ^ 63)
    (scope : CheckpointScope)
    (sized : ∀ entity (identity : Int64) held,
      ((overlayRnn scope backingRnn rnn).states entity)[identity]? = some held →
        (statePiece held).length < 2 ^ 64) :
    writeMergedCheckpointBinPath (.ok (checkpointPiece backingMetadata backingState backingRnn))
        metadataJson state rnn scope =
      .ok (checkpointPiece metadataJson
        (overlayFeatures scope (canonicalFeatures backingState backingRnn) state)
        (overlayRnn scope backingRnn rnn)) := by
  have present : ¬metadataJson.isEmpty = true := by simpa using metadata
  have metadataSmall : backingMetadata.length < 2 ^ 63 := by
    simp only [checkpointPiece, headerPiece, List.length_append] at small
    omega
  have finishes : Finishes (writeMergedRuntimeCheckpointBin metadataJson state rnn scope)
      (checkpointPiece backingMetadata backingState backingRnn)
      (checkpointPiece metadataJson
        (overlayFeatures scope (canonicalFeatures backingState backingRnn) state)
        (overlayRnn scope backingRnn rnn)) := by
    rw [checkpointPiece, checkpointPiece]
    apply finishes_after_read (reads_backing_header metadataSmall)
    rw [headerPiece, List.append_assoc, List.append_assoc, List.append_assoc]
    apply finishes_after_write
    apply finishes_after_write
    apply finishes_after_write
    apply finishes_after_write
    exact merged_sections backing storable scope sized
  rw [← List.append_nil (checkpointPiece backingMetadata _ _), ← List.nil_append (_ ++ _)] at small
  obtain ⟨reached, finished⟩ := finishes.runs [] [] [] small
  rw [List.nil_append, List.append_nil, List.nil_append, List.length_nil] at finished
  simp only [writeMergedCheckpointBinPath, if_neg present, finished]

theorem canonical_floats_again (values : ExtTreeMap Int64 Binary64) :
    canonicalFloats (canonicalFloats values) = canonicalFloats values := by
  apply ExtTreeMap.ext_getElem?
  intro identity
  simp only [canonicalFloats, ExtTreeMap.getElem?_map, Option.map_map]
  congr 1
  funext value
  exact canonical_nan_64 value

theorem canonical_encodings_again (values : IdEncodings Binary32) :
    canonicalEncodings (canonicalEncodings values) = canonicalEncodings values := by
  funext submodule
  apply ExtTreeMap.ext_getElem?
  intro identity
  simp only [canonicalEncodings, ExtTreeMap.getElem?_map, Option.map_map]
  congr 1
  funext encoding
  simp only [Function.comp_apply, List.map_map]
  apply List.map_congr_left
  intro value _
  exact canonical_nan_32 value

theorem canonical_option_again (value : Option Binary64) :
    (value.map canonicalNan64).map canonicalNan64 = value.map canonicalNan64 := by
  cases value with
  | none => rfl
  | some value => exact congrArg some (canonical_nan_64 value)

theorem canonical_features_again (state : SnapshotFeatures) (rnn : SnapshotRnn) :
    canonicalFeatures (canonicalFeatures state rnn) (canonicalRnn rnn) =
      canonicalFeatures state rnn := by
  have keys := canonical_rnn_keys rnn
  unfold canonicalFeatures
  dsimp only
  rw [canonical_floats_again, canonical_floats_again, canonical_floats_again,
    canonical_encodings_again, canonical_option_again, canonical_option_again, canonical_nan_64, keys]

theorem held_alone {rnn : SnapshotRnn} {entity : EntityModule} (empty : rnn.flatStates entity = ∅) :
    heldStates rnn entity = rnn.states entity := by
  apply ExtTreeMap.ext_getElem?
  intro identity
  have none : (∅ : FlatMap)[identity]? = none := ExtTreeMap.getElem?_empty
  rw [heldStates, combinedMap, empty, ExtTreeMap.getElem?_union, ExtTreeMap.getElem?_map, none]
  rfl

theorem overlay_storable {state backingState : SnapshotFeatures} {rnn backingRnn : SnapshotRnn}
    (backing : Storable backingState backingRnn) (storable : Storable state rnn)
    (scope : CheckpointScope) :
    Storable (overlayFeatures scope backingState state) (overlayRnn scope backingRnn rnn) := by
  apply Storable.mk
  · intro entity identity both
    have absent : identity ∉ (∅ : FlatMap) := ExtTreeMap.not_mem_empty
    exact absent both.2
  · exact Or.inr rfl
  · intro entity identity held found
    have entry := found
    rw [overlayRnn] at entry
    dsimp only at entry
    rw [overlay_entry] at entry
    cases own : (heldStates rnn entity)[identity]? with
    | some mine =>
        rw [own] at entry
        cases entry
        exact combined_map_storable (storable.once entity) (storable.states entity) identity held own
    | none =>
        rw [own, Option.none_or] at entry
        split at entry
        · cases entry
        · exact combined_map_storable (backing.once entity) (backing.states entity) identity held entry
  · intro held found
    exact latest_global_storable storable held found
  · intro submodule identity encoding found
    have entry : (overlayMap (scope.idsForSubmodule submodule) (backingState.idEncodings submodule)
        (state.idEncodings submodule))[identity]? = some encoding := found
    rw [overlay_entry] at entry
    cases own : (state.idEncodings submodule)[identity]? with
    | some mine =>
        rw [own] at entry
        cases entry
        exact storable.dimensioned submodule identity encoding own
    | none =>
        rw [own, Option.none_or] at entry
        split at entry
        · cases entry
        · exact backing.dimensioned submodule identity encoding entry
  · exact storable.generator

theorem states_within {state : SnapshotFeatures} {rnn : SnapshotRnn}
    (dimensioned : Dimensioned state.idEncodings) (metadataJson : List UInt8)
    (entity : EntityModule) :
    statesLength rnn entity ≤ (checkpointPiece metadataJson state rnn).length := by
  have sections := @sections_length state rnn dimensioned
  rw [checkpointPiece, List.length_append]
  cases entity with
  | card => omega
  | note => omega
  | deck => omega
  | preset => omega

theorem overlay_sized {state backingState : SnapshotFeatures} {rnn backingRnn : SnapshotRnn}
    (backing : Storable backingState backingRnn) (storable : Storable state rnn)
    (scope : CheckpointScope) (metadataJson : List UInt8)
    (small : (checkpointPiece metadataJson (overlayFeatures scope backingState state)
      (overlayRnn scope backingRnn rnn)).length < 2 ^ 63) :
    ∀ entity (identity : Int64) held,
      ((overlayRnn scope backingRnn rnn).states entity)[identity]? = some held →
        (statePiece held).length < 2 ^ 64 := by
  intro entity identity held found
  have within := @states_within _ (overlayRnn scope backingRnn rnn)
    (overlay_storable backing storable scope).dimensioned metadataJson entity
  have listed : (identity, held) ∈ combinedEntries ((overlayRnn scope backingRnn rnn).states entity) ∅ := by
    rw [canonical_only]
    exact ExtTreeMap.mem_toList_iff_getElem?_eq_some.mpr found
  have part := state_part_length listed
  have whole : (statesPiece (combinedEntries ((overlayRnn scope backingRnn rnn).states entity) ∅)).length ≤
      statesLength (overlayRnn scope backingRnn rnn) entity := by
    have split : statesLength (overlayRnn scope backingRnn rnn) entity =
        (indexedPiece (combinedEntries ((overlayRnn scope backingRnn rnn).states entity) ∅)).length := rfl
    rw [split, indexedPiece, List.length_append, List.length_append]
    omega
  dsimp only at part
  omega

/-- A file that was saved holds the pieces of its runtime. -/
theorem saved_piece {file metadataJson : List UInt8} {state : SnapshotFeatures} {rnn : SnapshotRnn}
    (storable : Storable state rnn)
    (small : (checkpointPiece metadataJson state rnn).length < 2 ^ 63)
    (saved : writeCheckpointBinPath metadataJson state rnn = .ok file) :
    metadataJson ≠ [] ∧ file = checkpointPiece metadataJson state rnn := by
  have metadata : metadataJson ≠ [] := by
    intro nothing
    subst nothing
    cases saved
  rw [checkpoint_written metadata storable small] at saved
  exact ⟨metadata, (Except.ok.inj saved).symm⟩

section Agreement

variable {Frame Session : Type} {runtime : RestoredRuntime Frame Session}

theorem loaded_canonical {file metadataJson : List UInt8} {state : SnapshotFeatures}
    {rnn : SnapshotRnn} (storable : Storable state rnn)
    (small : (checkpointPiece metadataJson state rnn).length < 2 ^ 63)
    (saved : writeCheckpointBinPath metadataJson state rnn = .ok file)
    {full : RestoredRuntime Frame Session}
    (loaded : restoreCheckpointBin (.ok file) wholeLists runtime = (.ok (), full)) :
    full.deterministic = canonicalFeatures state rnn ∧ full.rnn = canonicalRnn rnn := by
  obtain ⟨_, same⟩ := saved_piece storable small saved
  obtain ⟨_, reached, reachedOk, made⟩ := (restore_call_ok rfl).mp loaded
  rw [same, written_restored storable small] at reachedOk
  cases reachedOk
  rw [made]
  exact ⟨rfl, rfl⟩

/-- Saving a scoped runtime over the file of another gives the file that loading that one whole,
laying the scoped runtime over it and saving the result would give. -/
theorem merged_save_agrees {file backingMetadata metadataJson : List UInt8}
    {state backingState : SnapshotFeatures} {rnn backingRnn : SnapshotRnn}
    (backing : Storable backingState backingRnn) (storable : Storable state rnn)
    (backingSmall : (checkpointPiece backingMetadata backingState backingRnn).length < 2 ^ 63)
    (saved : writeCheckpointBinPath backingMetadata backingState backingRnn = .ok file)
    {full : RestoredRuntime Frame Session}
    (loaded : restoreCheckpointBin (.ok file) wholeLists runtime = (.ok (), full))
    (metadata : metadataJson ≠ []) (scope : CheckpointScope)
    (small : (checkpointPiece metadataJson (overlayFeatures scope full.deterministic state)
      (overlayRnn scope full.rnn rnn)).length < 2 ^ 63) :
    ∃ merged, writeMergedCheckpointBinPath (.ok file) metadataJson state rnn scope = .ok merged ∧
      writeCheckpointBinPath metadataJson (overlayFeatures scope full.deterministic state)
        (overlayRnn scope full.rnn rnn) = .ok merged := by
  obtain ⟨features, states⟩ := loaded_canonical backing backingSmall saved loaded
  obtain ⟨_, same⟩ := saved_piece backing backingSmall saved
  have canonical : Storable (canonicalFeatures backingState backingRnn) (canonicalRnn backingRnn) :=
    canonical_storable backing
  have again : checkpointPiece backingMetadata (canonicalFeatures backingState backingRnn)
      (canonicalRnn backingRnn) = checkpointPiece backingMetadata backingState backingRnn :=
    canonical_file backing
  rw [features, states] at small ⊢
  have sized := overlay_sized canonical storable scope metadataJson small
  have written := merged_written metadata canonical storable (again ▸ backingSmall) scope sized
  rw [again, canonical_features_again, ← same] at written
  exact ⟨_, written, checkpoint_written metadata (overlay_storable canonical storable scope) small⟩

theorem saved_file_written :
    writeCheckpointBinPath emptyMetadata savedFeatures savedRnn =
      .ok savedFile.bytes :=
  checkpoint_written (by decide +kernel) saved_storable saved_small

/-- The second of two cards, saved over a file that holds the first. -/
def secondCardRnn : SnapshotRnn :=
  { savedRnn with states := fun entity =>
      if entity = .card then (∅ : CanonicalMap).insert 2 (oneLayerState) else ∅ }

def secondCardScope : CheckpointScope := listedScope [2] [] [] []

theorem second_card_storable : Storable savedFeatures secondCardRnn := by
  apply Storable.mk
  · intro entity identity both
    have absent : identity ∉ (∅ : FlatMap) := ExtTreeMap.not_mem_empty
    exact absent both.2
  · exact Or.inr rfl
  · intro entity
    exact one_card_storable 2 entity
  · intro held found
    cases found
    exact one_layer_state_storable
  · exact saved_storable.dimensioned
  · exact saved_storable.generator

theorem second_card_small :
    (checkpointPiece emptyMetadata
      (overlayFeatures secondCardScope reloadedRuntime.deterministic savedFeatures)
      (overlayRnn secondCardScope reloadedRuntime.rnn secondCardRnn)).length < 2 ^ 63 := by
  have reloaded : Storable reloadedRuntime.deterministic reloadedRuntime.rnn :=
    canonical_storable saved_storable
  have dimensioned := (overlay_storable reloaded second_card_storable secondCardScope).dimensioned
  rw [checkpointPiece, List.length_append, header_length, sections_length dimensioned]
  decide +kernel

theorem second_card_save_agrees :
    ∃ merged, writeMergedCheckpointBinPath (.ok savedFile.bytes) emptyMetadata
        savedFeatures secondCardRnn secondCardScope = .ok merged ∧
      writeCheckpointBinPath emptyMetadata
        (overlayFeatures secondCardScope reloadedRuntime.deterministic savedFeatures)
        (overlayRnn secondCardScope reloadedRuntime.rnn secondCardRnn) = .ok merged :=
  merged_save_agrees saved_storable second_card_storable saved_small saved_file_written
    saved_file_reloaded (by decide +kernel) secondCardScope second_card_small

end Agreement

theorem overlay_retained {Value : Type} (ids : ExtTreeSet Int64) (values : ExtTreeMap Int64 Value) :
    overlayMap ids values (retainMap values ids) = values := by
  apply ExtTreeMap.ext_getElem?
  intro identity
  rw [overlay_entry, retained_entry]
  by_cases inside : identity ∈ ids
  · rw [if_pos inside, if_pos inside, Option.or_none]
  · rw [if_neg inside, if_neg inside, Option.none_or]

theorem overlay_retained_set (ids values : ExtTreeSet Int64) :
    overlaySet ids values (retainSet values ids) = values := by
  apply ExtTreeSet.ext_mem
  intro identity
  rw [overlaySet, ExtTreeSet.mem_union_iff, retained_member]
  by_cases inside : identity ∈ ids
  · simp [outside, inside]
  · simp [outside, inside]

theorem overlay_discarded_features (scope : CheckpointScope) (state : SnapshotFeatures) :
    overlayFeatures scope state (discardFeatures scope state) =
      { state with recurrentStateKeys := discardKeys scope state.recurrentStateKeys } := by
  have encodings : overlayEncodings scope state.idEncodings (retainEncodings scope state.idEncodings) =
      state.idEncodings := by
    funext submodule
    exact overlay_retained _ _
  unfold overlayFeatures discardFeatures
  dsimp only
  rw [encodings, overlay_retained, overlay_retained, overlay_retained, overlay_retained,
    overlay_retained, overlay_retained_set]

theorem overlay_discarded_states (scope : CheckpointScope) {rnn : SnapshotRnn}
    (materialized : ∀ entity, rnn.flatStates entity = ∅) (global : rnn.flatGlobalState = none) :
    overlayRnn scope rnn (discardRnn scope rnn) = rnn := by
  have states : (overlayRnn scope rnn (discardRnn scope rnn)).states = rnn.states := by
    funext entity
    have discarded : (discardRnn scope rnn).flatStates entity = ∅ := by
      rw [discardRnn]
      dsimp only
      rw [materialized]
      exact retained_empty _
    rw [overlayRnn]
    dsimp only
    rw [held_alone (materialized entity), held_alone discarded]
    exact overlay_retained _ _
  have flats : rnn.flatStates = fun _ => ∅ := funext materialized
  have latest : (discardRnn scope rnn).latestGlobal = rnn.globalState := by
    simp [discardRnn, NativeRnn.latestGlobal, global]
  rw [NativeRnn.mk.injEq]
  exact ⟨states, latest, flats.symm, global.symm⟩

section Unchanged

variable {Frame Session : Type} {runtime : RestoredRuntime Frame Session}

/-- A runtime that was restored with a scope and not changed since is saved over its file as that
file, byte for byte. -/
theorem unchanged_scope_saved {file metadataJson : List UInt8} {state : SnapshotFeatures}
    {rnn : SnapshotRnn} (storable : Storable state rnn)
    (small : (checkpointPiece metadataJson state rnn).length < 2 ^ 63)
    (saved : writeCheckpointBinPath metadataJson state rnn = .ok file)
    {cardIds noteIds deckIds presetIds : List Int64} {narrowed : RestoredRuntime Frame Session}
    (loaded : restoreCheckpointBin (.ok file) (scopeLists cardIds noteIds deckIds presetIds) runtime =
      (.ok (), narrowed)) :
    writeMergedCheckpointBinPath (.ok file) metadataJson narrowed.deterministic narrowed.rnn
      (listedScope cardIds noteIds deckIds presetIds) = .ok file := by
  obtain ⟨metadata, same⟩ := saved_piece storable small saved
  have canonical : Storable (canonicalFeatures state rnn) (canonicalRnn rnn) :=
    canonical_storable storable
  have again : checkpointPiece metadataJson (canonicalFeatures state rnn) (canonicalRnn rnn) =
      checkpointPiece metadataJson state rnn := canonical_file storable
  have narrowedStorable := call_restored_storable loaded
  obtain ⟨_, reached, reachedOk, made⟩ := (restore_call_ok rfl).mp loaded
  have whole := selective_runtime ⟨file, same ▸ small⟩
    (listedScope cardIds noteIds deckIds presetIds) (same ▸ written_restored storable small runtime)
  have reachedSame := congrArg Prod.snd (reachedOk.symm.trans whole)
  dsimp only at reachedSame
  rw [made, reachedSame] at narrowedStorable ⊢
  dsimp only [discardOutside] at narrowedStorable ⊢
  have states := overlay_discarded_states (listedScope cardIds noteIds deckIds presetIds)
    (fun _ => rfl : ∀ entity, (canonicalRnn rnn).flatStates entity = ∅) rfl
  have features := overlay_discarded_features (listedScope cardIds noteIds deckIds presetIds)
    (canonicalFeatures state rnn)
  have piece : checkpointPiece metadataJson
      (overlayFeatures (listedScope cardIds noteIds deckIds presetIds) (canonicalFeatures state rnn)
        (discardFeatures (listedScope cardIds noteIds deckIds presetIds) (canonicalFeatures state rnn)))
      (overlayRnn (listedScope cardIds noteIds deckIds presetIds) (canonicalRnn rnn)
        (discardRnn (listedScope cardIds noteIds deckIds presetIds) (canonicalRnn rnn))) =
      checkpointPiece metadataJson state rnn := by
    rw [← again, states, features]
    rfl
  have sized := overlay_sized canonical narrowedStorable
    (listedScope cardIds noteIds deckIds presetIds) metadataJson (piece ▸ small)
  have written := merged_written metadata canonical narrowedStorable (again ▸ small)
    (listedScope cardIds noteIds deckIds presetIds) sized
  rw [again, canonical_features_again, piece, ← same] at written
  exact written

/-- The fresh runtime after a restore of the saved file that asks for the second card alone. -/
def secondCardRuntime : RestoredRuntime Unit Unit :=
  { discardOutside secondCardScope reloadedRuntime with loadedScope := some secondCardScope }

theorem second_card_loaded :
    restoreCheckpointBin (.ok savedFile.bytes) (scopeLists [2] [] [] []) freshRuntime =
      (.ok (), secondCardRuntime) := by
  apply (restore_call_ok rfl).mpr
  have whole := written_restored saved_storable saved_small freshRuntime
  exact ⟨rfl, _, selective_runtime savedFile secondCardScope whole, rfl⟩

theorem second_card_unchanged_saved :
    writeMergedCheckpointBinPath (.ok savedFile.bytes) emptyMetadata
      secondCardRuntime.deterministic secondCardRuntime.rnn secondCardScope = .ok savedFile.bytes :=
  unchanged_scope_saved saved_storable saved_small saved_file_written second_card_loaded

end Unchanged

end RwkvSrs.MergedFiles
