import RwkvSrs.CheckpointRoundTrip
import RwkvSrs.CheckpointSize
import RwkvSrs.HistoryRuns
import RwkvSrs.MergedFiles
import RwkvSrs.NativeFloats

/-!
The forecast of a checkpoint's size is exact. A run keeps one entry of each
section for every identity of its history, so the numbers of its identities
say how long its file is, whether the model was built by this runtime or
restored from the file of another one.
-/

namespace RwkvSrs.CheckpointForecast

open Std CheckpointBytes CheckpointPieces CheckpointReader CheckpointRoundTrip CheckpointSections
open CheckpointSize CheckpointWriter CpuStateMaps DeterministicState DirectFeatures FallibleMethod
open FeatureScaling GeneratorStates HistoryBatches HistoryFeatures HistoryRuns HistoryStates
open MergedFiles ModuleState NativeRnnState ReviewHistory ReviewInput ReviewProcessing RuntimeRestore
open SectionReadBack SelectiveReaders StateLayouts UndoableProcess

set_option autoImplicit false
set_option linter.unusedSectionVars false

section Forecast

variable [Float64Ops Binary64] [Float32Ops Binary32] [ExactFeatureFloat Binary64 Binary32]

/-- The numbers of different normalised identities. -/
def countsOf (history : History Binary64) : IdentityCounts where
  cardCount := (identitiesOf .cardId history).dedup.length
  noteCount := (identitiesOf .noteId history).dedup.length
  deckCount := (identitiesOf .deckId history).dedup.length
  presetCount := (identitiesOf .presetId history).dedup.length

theorem counts_of (history : History Binary64) (submodule : IdSubmodule) :
    (countsOf history).of submodule = (identitiesOf submodule history).dedup.length := by
  cases submodule with
  | cardId => rfl
  | noteId => rfl
  | deckId => rfl
  | presetId => rfl

theorem none_counted (history : History Binary64) (submodule : IdSubmodule) :
    (countsOf history).of submodule = 0 ↔ history = [] := by
  rw [counts_of, List.length_eq_zero_iff, List.dedup_eq_nil, identitiesOf, List.map_eq_nil_iff]

theorem counts_matched (history : History Binary64) : MatchedCounts (countsOf history) := by
  apply MatchedCounts.mk
  intro submodule
  rw [none_counted]
  exact (none_counted history .cardId).symm

theorem some_counted (history : History Binary64) :
    (countsOf history).cardCount ≠ 0 ↔ (!history.isEmpty) = true := by
  have none := none_counted history .cardId
  change (countsOf history).cardCount = 0 ↔ history = [] at none
  rw [Ne, none]
  simp

variable {modules : RwkvModules} {history : History Binary64} {state : SnapshotFeatures}
  {rnn : SnapshotRnn}

theorem latest_combined {entity : EntityModule}
    (once : HeldOnce (rnn.states entity) (rnn.flatStates entity))
    (identity : Int64) :
    (combinedMap (rnn.states entity) (rnn.flatStates entity))[identity]? =
      rnn.latest entity identity := by
  rw [combinedMap, ExtTreeMap.getElem?_union, ExtTreeMap.getElem?_map, NativeRnn.latest]
  cases canonical : (rnn.states entity)[identity]? with
  | none => rw [Option.or_none, Option.none_or]
  | some stored =>
      have absent : (rnn.flatStates entity)[identity]? = none := by
        apply ExtTreeMap.getElem?_eq_none
        intro inside
        apply once identity
        rw [ExtTreeMap.mem_iff_isSome_getElem?, canonical]
        exact ⟨rfl, inside⟩
      rw [absent]
      rfl

theorem entries_counted (holds : HoldsHistory modules history rnn) (entity : EntityModule) :
    (combinedEntries (rnn.states entity) (rnn.flatStates entity)).length =
      (entityIds entity history).dedup.length := by
  have once := holds.once entity
  rw [← List.length_map Prod.fst]
  apply List.Perm.length_eq
  apply (List.perm_ext_iff_of_nodup (combined_distinct once) (List.nodup_dedup _)).mpr
  intro identity
  rw [List.mem_dedup, ← holds.held entity identity, ← latest_combined once,
    Option.isSome_iff_exists, List.mem_map]
  constructor
  · intro listed
    obtain ⟨entry, member, same⟩ := listed
    rw [← same]
    exact ⟨entry.2, (combined_entry once entry.1 entry.2).mp member⟩
  · intro found
    obtain ⟨stored, there⟩ := found
    exact ⟨(identity, stored), (combined_entry once identity stored).mpr there, rfl⟩

theorem states_length (holds : HoldsHistory modules history rnn) (entity : EntityModule) :
    statesLength rnn entity =
      statesBytes (entityIds entity history).dedup.length (modules.blocks (.keyed entity)) := by
  have once := holds.once entity
  have each : ∀ entry ∈ combinedEntries (rnn.states entity) (rnn.flatStates entity),
      (statePiece entry.2).length = moduleBytes (modules.blocks (.keyed entity)) := by
    intro entry member
    apply state_piece_length
    apply holds.shaped entity entry.1
    rw [← latest_combined once]
    exact (combined_entry once entry.1 entry.2).mp member
  rw [statesLength, indexed_length, List.map_congr_left each, List.map_const', List.sum_replicate,
    entries_counted holds, statesBytes, smul_eq_mul, Nat.mul_add]
  omega

theorem global_length (holds : HoldsHistory modules history rnn) :
    (globalPiece rnn).length = 1 +
      if (countsOf history).cardCount ≠ 0 then moduleBytes (modules.blocks .global) else 0 := by
  have held := holds.globalHeld
  rw [globalPiece]
  cases found : rnn.latestGlobal with
  | none =>
      rw [found] at held
      rw [if_neg]
      · rfl
      · intro some
        rw [some_counted, ← held] at some
        cases some
  | some stored =>
      rw [found] at held
      rw [if_pos ((some_counted history).mpr held.symm), optionalPiece, List.length_append,
        state_piece_length (holds.globalShaped stored found)]
      rfl

theorem reached_file_length (follows : FollowsHistory history state)
    (holds : HoldsHistory modules history rnn) (metadataJson : List UInt8) :
    (checkpointPiece metadataJson state rnn).length =
      forecastBytes modules metadataJson.length (countsOf history) := by
  have offset : ∀ value : Option Binary64, value.isSome = (!history.isEmpty) →
      (binWriteOptionF64 value).length =
        1 + if (countsOf history).cardCount ≠ 0 then 8 else 0 := by
    intro value same
    rw [option_length, same]
    simp only [some_counted]
  have carded : ∀ {Value : Type} {map : ExtTreeMap Int64 Value},
      (∀ cardId, cardId ∈ map ↔ cardId ∈ cardsOf history) →
        map.size = (countsOf history).cardCount := by
    intro Value map same
    exact map_size same
  have looked : ∀ {Value : Type} {map : ExtTreeMap Int64 Value} {last : Int64 → Option Nat}
      {convert : Nat → Value}, (∀ cardId : Int64, map[cardId]? = (last cardId).map convert) →
        (∀ cardId, (last cardId).isSome ↔ cardId ∈ cardsOf history) →
          ∀ cardId, cardId ∈ map ↔ cardId ∈ cardsOf history := by
    intro Value map last convert entries listed cardId
    rw [ExtTreeMap.mem_iff_isSome_getElem?, entries, Option.isSome_map, listed]
  have encoded : ∀ submodule, (state.idEncodings submodule).size = (countsOf history).of submodule := by
    intro submodule
    rw [counts_of]
    exact map_size (follows.encoded submodule)
  have cards : state.cardSet.size = (countsOf history).cardCount := set_size follows.cards
  rw [checkpointPiece, List.length_append, header_length, sections_length follows.sized,
    offset _ follows.firstDay, offset _ follows.previousDay, cards,
    carded (looked follows.lastNewCards (cards_at_last_some _)),
    carded (looked follows.lastIndices (last_index_some _)), carded follows.firstDays,
    carded follows.elapsedDays, carded follows.elapsedSeconds, states_length holds,
    states_length holds, states_length holds, states_length holds, global_length holds]
  have card : (entityIds .card history).dedup.length = (countsOf history).cardCount := rfl
  have note : (entityIds .note history).dedup.length = (countsOf history).noteCount := rfl
  have deck : (entityIds .deck history).dedup.length = (countsOf history).deckCount := rfl
  have preset : (entityIds .preset history).dedup.length = (countsOf history).presetCount := rfl
  simp only [encoded, card, note, deck, preset]
  rw [forecastBytes, featuresBytes, encodingsBytes]
  omega

theorem reached_storable (follows : FollowsHistory history state)
    (holds : HoldsHistory modules history rnn) : Storable state rnn := by
  apply Storable.mk
  · exact holds.once
  · exact holds.globalOnce
  · intro entity identity stored found
    apply fits_storable
    apply holds.shaped entity identity
    rw [NativeRnn.latest, found]
    rfl
  · intro stored found
    apply fits_storable
    apply holds.globalShaped
    rw [NativeRnn.latestGlobal, found]
    rfl
  · exact follows.sized
  · exact follows.generator.2

theorem keys_held (holds : HoldsHistory modules history rnn) (entity : EntityModule)
    (identity : Int64) :
    identity ∈ SnapshotValues.toSet ((rnn.states entity).keys ++ (rnn.flatStates entity).keys) ↔
      identity ∈ entityIds entity history := by
  rw [SnapshotValues.toSet, collected_member, List.mem_append, ExtTreeMap.mem_keys,
    ExtTreeMap.mem_keys, ← holds.held entity identity, NativeRnn.latest, Option.isSome_or,
    Bool.or_eq_true, Option.isSome_map, ← ExtTreeMap.mem_iff_isSome_getElem?,
    ← ExtTreeMap.mem_iff_isSome_getElem?]

theorem canonical_latest {entity : EntityModule}
    (once : HeldOnce (rnn.states entity) (rnn.flatStates entity)) (identity : Int64) :
    (canonicalRnn rnn).latest entity identity =
      (rnn.latest entity identity).map canonicalState := by
  have absent : (∅ : FlatMap)[identity]? = none := by simp
  have found : (canonicalRnn rnn).latest entity identity =
      ((canonicalStates rnn entity)[identity]?).or
        ((∅ : FlatMap)[identity]?.map FlatNativeRnnModuleState.materialize) := rfl
  rw [found, absent, Option.map_none, Option.or_none, canonicalStates, ExtTreeMap.getElem?_map,
    latest_combined once]

theorem canonical_fits {blocks : List StateBlock} {stored : EntityState}
    (fits : FitsBlocks blocks stored) : FitsBlocks blocks (canonicalState stored) := by
  have same : ∀ tensors : List (Tensor Binary32),
      (tensors.map canonicalTensor).map Tensor.dims = tensors.map Tensor.dims := by
    intro tensors
    rw [List.map_map]
    rfl
  apply FitsBlocks.mk
  · exact (same _).trans fits.shifts
  · exact (same _).trans fits.matrices
  · exact (same _).trans fits.channels

theorem canonical_holds (holds : HoldsHistory modules history rnn) :
    HoldsHistory modules history (canonicalRnn rnn) := by
  have latest : ∀ entity identity, (canonicalRnn rnn).latest entity identity =
      (rnn.latest entity identity).map canonicalState := by
    intro entity identity
    exact canonical_latest (holds.once entity) identity
  have latestGlobal : (canonicalRnn rnn).latestGlobal = rnn.latestGlobal.map canonicalState := by
    rw [NativeRnn.latestGlobal]
    exact Option.or_none
  apply HoldsHistory.mk
  case once => exact once_of_materialized ⟨fun _ => rfl, rfl⟩
  case globalOnce => exact Or.inr rfl
  case held =>
    intro entity identity
    rw [latest, Option.isSome_map]
    exact holds.held entity identity
  case shaped =>
    intro entity identity stored found
    rw [latest, Option.map_eq_some_iff] at found
    obtain ⟨source, there, same⟩ := found
    rw [← same]
    exact canonical_fits (holds.shaped entity identity source there)
  case globalHeld =>
    rw [latestGlobal, Option.isSome_map]
    exact holds.globalHeld
  case globalShaped =>
    intro stored found
    rw [latestGlobal, Option.map_eq_some_iff] at found
    obtain ⟨source, there, same⟩ := found
    rw [← same]
    exact canonical_fits (holds.globalShaped source there)

theorem canonical_follows (follows : FollowsHistory history state)
    (holds : HoldsHistory modules history rnn) :
    FollowsHistory history (canonicalFeatures state rnn) := by
  apply FollowsHistory.mk
  case firstDay =>
    rw [canonicalFeatures, Option.isSome_map]
    exact follows.firstDay
  case previousDay =>
    rw [canonicalFeatures, Option.isSome_map]
    exact follows.previousDay
  case cards => exact follows.cards
  case counted => exact follows.counted
  case lastNewCards => exact follows.lastNewCards
  case index => exact follows.index
  case lastIndices => exact follows.lastIndices
  case today => exact follows.today
  case firstDays =>
    intro cardId
    rw [← follows.firstDays]
    exact ExtTreeMap.mem_map
  case elapsedDays =>
    intro cardId
    rw [← follows.elapsedDays]
    exact ExtTreeMap.mem_map
  case elapsedSeconds =>
    intro cardId
    rw [← follows.elapsedSeconds]
    exact ExtTreeMap.mem_map
  case encoded =>
    intro submodule id
    rw [← follows.encoded]
    exact ExtTreeMap.mem_map
  case sized => exact (canonical_storable (reached_storable follows holds)).dimensioned
  case recurrent =>
    intro submodule id
    cases submodule with
    | cardId => exact keys_held holds .card id
    | noteId => exact keys_held holds .note id
    | deckId => exact keys_held holds .deck id
    | presetId => exact keys_held holds .preset id
  case globalState =>
    rw [← holds.globalHeld, NativeRnn.latestGlobal, Option.isSome_or, Option.isSome_map]
    rfl
  case generator => exact follows.generator

theorem canonical_model (follows : ModelFollows modules False history (state, rnn)) :
    ModelFollows modules False history (canonicalFeatures state rnn, canonicalRnn rnn) := by
  apply ModelFollows.mk
  · exact canonical_follows follows.features follows.states
  · intro impossible
    exact impossible.elim
  · exact canonical_holds follows.states
  · exact ⟨fun _ => rfl, rfl⟩

section Runs

variable {Logits Rows Live Session : Type} {network : ReviewNetwork Binary64 Binary32 Logits Rows}

/-- Runs in which a runtime may also restore a file that another runtime has saved. -/
inductive SavedRun (network : ReviewNetwork Binary64 Binary32 Logits Rows) :
    Traced Binary64 Binary32 Live Session → Prop where
  | start (torchSeed undoLimit : UInt64) : SavedRun network (started torchSeed undoLimit)
  | next {current : Traced Binary64 Binary32 Live Session} (run : SavedRun network current)
      (call : HistoryCall Binary64) : SavedRun network (call.perform network current)
  | restore {saver current : Traced Binary64 Binary32 Live Session} (saved : SavedRun network saver)
      (run : SavedRun network current) {metadataJson file : List UInt8}
      (small : (checkpointPiece metadataJson saver.runtime.deterministic
        saver.runtime.rnn).length < 2 ^ 63)
      (written : writeCheckpointBinPath metadataJson saver.runtime.deterministic
        saver.runtime.rnn = .ok file) :
      SavedRun network
        (traced (fun _ => saver.history) (restoreCheckpointBin (.ok file) wholeLists) current)

section Restored

variable {saver current : Traced Binary64 Binary32 Live Session} {metadataJson file : List UInt8}

theorem saved_file_restores (saverTracks : Tracks (ModelFollows modules False) saver)
    (small : (checkpointPiece metadataJson saver.runtime.deterministic
      saver.runtime.rnn).length < 2 ^ 63)
    (written : writeCheckpointBinPath metadataJson saver.runtime.deterministic
      saver.runtime.rnn = .ok file)
    (free : requireNoLiveSession "restore_checkpoint_bin" current.runtime =
      (.ok (), current.runtime)) :
    restoreCheckpointBin (.ok file) wholeLists current.runtime =
      (.ok (), { current.runtime with
        rnn := canonicalRnn saver.runtime.rnn
        deterministic := canonicalFeatures saver.runtime.deterministic saver.runtime.rnn
        loadedScope := none
        undoStack := [] }) := by
  have model := saverTracks.model
  have storable : Storable saver.runtime.deterministic saver.runtime.rnn :=
    reached_storable model.features model.states
  obtain ⟨_, same⟩ := saved_piece storable small written
  apply (restore_call_ok rfl).mpr
  rw [same]
  exact ⟨free, _, written_restored storable small current.runtime, rfl⟩

theorem restored_tracks (saverTracks : Tracks (ModelFollows modules False) saver)
    (tracks : Tracks (ModelFollows modules False) current)
    (small : (checkpointPiece metadataJson saver.runtime.deterministic
      saver.runtime.rnn).length < 2 ^ 63)
    (written : writeCheckpointBinPath metadataJson saver.runtime.deterministic
      saver.runtime.rnn = .ok file) :
    Tracks (ModelFollows modules False)
      (traced (fun _ => saver.history) (restoreCheckpointBin (.ok file) wholeLists) current) := by
  rcases UndoStack.require_cases "restore_checkpoint_bin" current.runtime with
    free | ⟨message, live⟩
  · rw [traced_of_ok (saved_file_restores saverTracks small written free)]
    exact tracks_cleared (canonical_model saverTracks.model) rfl
  · have refused : restoreCheckpointBin (.ok file) wholeLists current.runtime =
        (.error (.error message), current.runtime) := by
      rw [restoreCheckpointBin]
      exact bind_of_error live
    rw [traced_of_error refused]
    exact tracks

theorem restored_history (saverTracks : Tracks (ModelFollows modules False) saver)
    (small : (checkpointPiece metadataJson saver.runtime.deterministic
      saver.runtime.rnn).length < 2 ^ 63)
    (written : writeCheckpointBinPath metadataJson saver.runtime.deterministic
      saver.runtime.rnn = .ok file)
    (free : requireNoLiveSession "restore_checkpoint_bin" current.runtime =
      (.ok (), current.runtime)) :
    (traced (fun _ => saver.history) (restoreCheckpointBin (.ok file) wholeLists) current).history =
      saver.history := by
  rw [traced_of_ok (saved_file_restores saverTracks small written free)]

end Restored

theorem saved_run_tracks (forward : WeightsForward modules network)
    {current : Traced Binary64 Binary32 Live Session} (run : SavedRun network current) :
    Tracks (ModelFollows modules False) current := by
  induction run with
  | start torchSeed undoLimit =>
      exact tracks_cleared (new_model_follows modules False torchSeed) rfl
  | next run call ih => exact perform_tracks forward (model_records forward False) ih call
  | restore saved run small written saverTracks tracks =>
      exact restored_tracks saverTracks tracks small written

/-- The forecast for the identities of a run's history is the length of the file of its runtime,
and it is refused only where that length cannot be measured. -/
theorem forecast_exact (forward : WeightsForward modules network)
    (measured : MeasuredModules modules) {current : Traced Binary64 Binary32 Live Session}
    (run : SavedRun network current) {metadataJson : List UInt8} (metadata : metadataJson ≠ []) :
    Declares (expectedCheckpointBinSize modules metadataJson.length (countsOf current.history))
        (checkpointPiece metadataJson current.runtime.deterministic current.runtime.rnn).length ∧
      ((checkpointPiece metadataJson current.runtime.deterministic
          current.runtime.rnn).length < 2 ^ 63 →
        writeCheckpointBinPath metadataJson current.runtime.deterministic current.runtime.rnn =
          .ok (checkpointPiece metadataJson current.runtime.deterministic current.runtime.rnn)) := by
  have model := (saved_run_tracks forward run).model
  have storable : Storable current.runtime.deterministic current.runtime.rnn :=
    reached_storable model.features model.states
  have length : (checkpointPiece metadataJson current.runtime.deterministic
      current.runtime.rnn).length = _ := reached_file_length model.features model.states metadataJson
  constructor
  · rw [length]
    apply forecast_declares measured _ (counts_matched _)
    rw [Ne, List.length_eq_zero_iff]
    exact metadata
  · intro small
    exact checkpoint_written metadata storable small

end Runs

end Forecast

section OneReview

def plainReview : ReviewInput Binary64 where
  reviewId := 1
  cardId := 1
  noteId := .present 2
  deckId := .present 3
  presetId := .present 4
  dayOffset := 0.0
  elapsedDays := 0.0
  elapsedSeconds := 0.0
  rating := some 3
  duration := some 2.0
  state := some 1.0

def savedReview : Traced Binary64 Binary32 Unit Unit :=
  (HistoryCall.undoableProcessReview (.ok plainReview) false none).perform zeroNetwork
    (started 5489 30)

theorem saved_review_history : savedReview.history = [plainReview] := by
  have valid : processFields plainReview = .ok (3, 2.0, 1.0) := rfl
  exact first_review_recorded valid 5489 30 (by decide)

theorem saved_review_run : SavedRun zeroNetwork savedReview :=
  SavedRun.next (SavedRun.start 5489 30) _

theorem one_head_measured : MeasuredModules oneHeadModules := by
  apply MeasuredModules.mk
  · rfl
  · intro module
    cases module with
    | global => decide
    | keyed entity =>
        cases entity with
        | card => decide
        | deck => decide
        | note => decide
        | preset => decide

theorem one_review_length {current : Traced Binary64 Binary32 Unit Unit}
    (run : SavedRun zeroNetwork current) (same : current.history = [plainReview]) :
    (checkpointPiece emptyMetadata current.runtime.deterministic current.runtime.rnn).length =
      6465 := by
  have model := (saved_run_tracks zero_network_forward run).model
  have length := reached_file_length model.features model.states emptyMetadata
  rw [same] at length
  apply length.trans
  decide +kernel

theorem saved_review_small : (checkpointPiece emptyMetadata savedReview.runtime.deterministic
    savedReview.runtime.rnn).length < 2 ^ 63 := by
  rw [one_review_length saved_review_run saved_review_history]
  decide

theorem saved_review_written :
    writeCheckpointBinPath emptyMetadata savedReview.runtime.deterministic savedReview.runtime.rnn =
      .ok (checkpointPiece emptyMetadata savedReview.runtime.deterministic
        savedReview.runtime.rnn) := by
  have metadata : emptyMetadata ≠ [] := by decide +kernel
  have forecast := forecast_exact zero_network_forward one_head_measured saved_review_run metadata
  exact forecast.2 saved_review_small

def restoredReview : Traced Binary64 Binary32 Unit Unit :=
  traced (fun _ => savedReview.history) (restoreCheckpointBin (.ok (checkpointPiece emptyMetadata
    savedReview.runtime.deterministic savedReview.runtime.rnn)) wholeLists) (started 7 30)

theorem restored_review_history : restoredReview.history = [plainReview] := by
  have tracks := saved_run_tracks zero_network_forward saved_review_run
  have free : requireNoLiveSession "restore_checkpoint_bin"
      (started 7 30 : Traced Binary64 Binary32 Unit Unit).runtime =
        (.ok (), (started 7 30 : Traced Binary64 Binary32 Unit Unit).runtime) := rfl
  have history := restored_history tracks saved_review_small saved_review_written free
  exact history.trans saved_review_history

theorem restored_review_run : SavedRun zeroNetwork restoredReview :=
  SavedRun.restore saved_review_run (SavedRun.start 7 30) saved_review_small saved_review_written

/-- Another new runtime has restored the file of the first review; its own file is as long as the
forecast for one identity of each kind. -/
theorem restored_review_forecast :
    expectedCheckpointBinSize oneHeadModules emptyMetadata.length ⟨1, 1, 1, 1⟩ = .ok 6465 ∧
      ∃ file, writeCheckpointBinPath emptyMetadata restoredReview.runtime.deterministic
        restoredReview.runtime.rnn = .ok file ∧ file.length = 6465 := by
  have metadata : emptyMetadata ≠ [] := by decide +kernel
  have forecast := forecast_exact zero_network_forward one_head_measured restored_review_run metadata
  rw [one_review_length restored_review_run restored_review_history, restored_review_history]
    at forecast
  have one : countsOf [plainReview] = ⟨1, 1, 1, 1⟩ := rfl
  rw [one] at forecast
  have small : 6465 < 2 ^ 63 := by decide
  exact ⟨(forecast.1 6465).mpr ⟨rfl, by decide⟩, _, forecast.2 small,
    one_review_length restored_review_run restored_review_history⟩

end OneReview

end RwkvSrs.CheckpointForecast
