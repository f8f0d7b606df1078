import RwkvSrs.CheckpointForecast
import RwkvSrs.ScopedRuns

/-!
Studying a part of a collection. Restoring a file with a scope, processing
reviews inside it and saving over that file answers every call and writes every
byte as restoring the file whole, processing the same reviews and saving does.
-/

namespace RwkvSrs.ScopedStudy

open Std CheckpointBytes CheckpointForecast CheckpointPieces CheckpointReader CheckpointRoundTrip
open CheckpointSections CheckpointSize DeterministicState DeterministicUndo DirectFeatures FallibleMethod
open FeatureScaling HistoryBatches HistoryRuns HistoryStates MergeCopies MergedFiles MergedSave
open BatchJournal ModuleState NativeCalls NativeRnnState ReviewHistory ReviewInput ReviewProcessing
open RuntimeRestore ScopedLayers ScopedRuns SectionReadBack SelectiveReaders SelectiveRestore
open UndoableProcess

set_option autoImplicit false
set_option linter.unusedSectionVars false

section Layers

variable {scope : CheckpointScope} {backing part whole : ModelState Binary64 Binary32}

theorem scope_modules (entity : EntityModule) :
    moduleIds (scopeIdentities scope) entity = CheckpointScope.idsForEntity scope entity := by
  cases entity with
  | card => rfl
  | deck => rfl
  | note => rfl
  | preset => rfl

/-- What is left inside a scope, laid over the whole it was taken from. -/
theorem discarded_laid (materialized : Materialized whole.2) :
    ModelLaid (scopeIdentities scope) whole
      (discardFeatures scope whole.1, discardRnn scope whole.2) whole := by
  apply ModelLaid.mk
  · unfold FeaturesLaid layFeatures discardFeatures
    have encodings : layEncodings (scopeIdentities scope) whole.1.idEncodings
        (retainEncodings scope whole.1.idEncodings) = whole.1.idEncodings := by
      funext submodule
      rw [layEncodings, scope_identities]
      exact overlay_retained _ _
    have keys : layKeys (scopeIdentities scope) whole.1.recurrentStateKeys
        (discardKeys scope whole.1.recurrentStateKeys) = whole.1.recurrentStateKeys := by
      unfold layKeys discardKeys scopeIdentities
      dsimp only
      rw [overlay_retained_set, overlay_retained_set, overlay_retained_set, overlay_retained_set]
    dsimp only
    rw [encodings, keys]
    unfold scopeIdentities
    dsimp only
    rw [overlay_retained, overlay_retained, overlay_retained, overlay_retained, overlay_retained,
      overlay_retained_set]
  · have flats : ∀ entity, (discardRnn scope whole.2).flatStates entity = ∅ := by
      intro entity
      unfold discardRnn
      dsimp only
      rw [materialized.keyed]
      exact retained_empty _
    apply StatesLaid.mk
    · have states : (layStates (scopeIdentities scope) whole.2 (discardRnn scope whole.2)).states =
          whole.2.states := by
        funext entity
        unfold layStates
        dsimp only
        rw [scope_modules]
        exact overlay_retained _ _
      rw [NativeRnn.mk.injEq]
      refine ⟨states.symm, rfl, ?_, rfl⟩
      funext entity
      rw [materialized.keyed]
      exact (flats entity).symm
    · exact ⟨flats, materialized.global⟩

theorem laid_overlay_features (laid : ModelLaid (scopeIdentities scope) backing part whole) :
    overlayFeatures scope backing.1 part.1 =
      { whole.1 with recurrentStateKeys := part.1.recurrentStateKeys } := by
  have same : whole.1 = layFeatures (scopeIdentities scope) backing.1 part.1 := laid.features
  have encodings : layEncodings (scopeIdentities scope) backing.1.idEncodings part.1.idEncodings =
      overlayEncodings scope backing.1.idEncodings part.1.idEncodings := by
    funext submodule
    rw [layEncodings, scope_identities]
    rfl
  rw [same]
  unfold layFeatures
  dsimp only
  rw [encodings]
  rfl

theorem laid_overlay_states (laid : ModelLaid (scopeIdentities scope) backing part whole)
    (materialized : Materialized backing.2) : overlayRnn scope backing.2 part.2 = whole.2 := by
  have kept := laid.states.materialized
  have states : (overlayRnn scope backing.2 part.2).states =
      (layStates (scopeIdentities scope) backing.2 part.2).states := by
    funext entity
    unfold overlayRnn layStates
    dsimp only
    rw [held_alone (materialized.keyed entity), held_alone (kept.keyed entity), scope_modules]
  have flats : part.2.flatStates = fun _ => ∅ := funext kept.keyed
  rw [laid.states.laid, NativeRnn.mk.injEq]
  exact ⟨states, kept.latestGlobal, flats.symm, kept.global.symm⟩

theorem layer_entry {Value : Type} {selected : ExtTreeSet Int64}
    {lower upper : ExtTreeMap Int64 Value} {identity : Int64} {value : Value}
    (found : upper[identity]? = some value) :
    (overlayMap selected lower upper)[identity]? = some value := by
  rw [overlay_entry, found, Option.some_or]

/-- The part of a model that can be written can be written. -/
theorem part_storable (laid : ModelLaid (scopeIdentities scope) backing part whole)
    (storable : Storable whole.1 whole.2) : Storable part.1 part.2 := by
  have features : whole.1 = layFeatures (scopeIdentities scope) backing.1 part.1 := laid.features
  have states := laid.states.laid
  rw [features, states] at storable
  have kept := laid.states.materialized
  apply Storable.mk
  · exact once_of_materialized kept
  · exact Or.inr kept.global
  · intro entity identity state found
    exact storable.states entity identity state (layer_entry found)
  · exact storable.globalState
  · intro submodule identity encoding found
    exact storable.dimensioned submodule identity encoding (layer_entry found)
  · exact storable.generator

end Layers

section Study

variable {Live Session : Type} [Float64Ops Binary64] [Float32Ops Binary32]
  [ExactFeatureFloat Binary64 Binary32]
  {file backingMetadata metadataJson : List UInt8} {state : SnapshotFeatures} {rnn : SnapshotRnn}
  {cardIds noteIds deckIds presetIds : List Int64}
  {runtime part whole : NotedRuntime Binary64 Binary32 Live Session}

theorem loaded_whole (storable : Storable state rnn)
    (small : (checkpointPiece backingMetadata state rnn).length < 2 ^ 63)
    (saved : writeCheckpointBinPath backingMetadata state rnn = .ok file)
    (loaded : restoreCheckpointBin (.ok file) wholeLists runtime = (.ok (), whole)) :
    whole = { runtime with
      rnn := canonicalRnn rnn
      deterministic := canonicalFeatures state rnn
      loadedScope := none
      undoStack := [] } := by
  obtain ⟨_, same⟩ := saved_piece storable small saved
  obtain ⟨_, reached, read, made⟩ := (restore_call_ok rfl).mp loaded
  rw [same, written_restored storable small runtime] at read
  cases read
  exact made

theorem loaded_part (storable : Storable state rnn)
    (small : (checkpointPiece backingMetadata state rnn).length < 2 ^ 63)
    (saved : writeCheckpointBinPath backingMetadata state rnn = .ok file)
    (loaded : restoreCheckpointBin (.ok file) (scopeLists cardIds noteIds deckIds presetIds)
      runtime = (.ok (), part)) :
    part = { runtime with
      rnn := discardRnn (listedScope cardIds noteIds deckIds presetIds) (canonicalRnn rnn)
      deterministic := discardFeatures (listedScope cardIds noteIds deckIds presetIds)
        (canonicalFeatures state rnn)
      loadedScope := some (listedScope cardIds noteIds deckIds presetIds)
      undoStack := [] } := by
  obtain ⟨_, same⟩ := saved_piece storable small saved
  obtain ⟨_, reached, read, made⟩ := (restore_call_ok rfl).mp loaded
  have selective := selective_runtime ⟨file, same ▸ small⟩
    (listedScope cardIds noteIds deckIds presetIds) (same ▸ written_restored storable small runtime)
  have reachedSame := congrArg Prod.snd (read.symm.trans selective)
  dsimp only at reachedSame
  rw [made, reachedSame]
  rfl

theorem restored_laid (storable : Storable state rnn)
    (small : (checkpointPiece backingMetadata state rnn).length < 2 ^ 63)
    (saved : writeCheckpointBinPath backingMetadata state rnn = .ok file)
    (narrowed : restoreCheckpointBin (.ok file) (scopeLists cardIds noteIds deckIds presetIds)
      runtime = (.ok (), part))
    (loaded : restoreCheckpointBin (.ok file) wholeLists runtime = (.ok (), whole)) :
    RuntimeLaid (listedScope cardIds noteIds deckIds presetIds) (modelState whole) part whole := by
  have samePart := loaded_part storable small saved narrowed
  have sameWhole := loaded_whole storable small saved loaded
  subst samePart
  subst sameWhole
  have materialized : Materialized (canonicalRnn rnn) := ⟨fun _ => rfl, rfl⟩
  apply RuntimeLaid.mk
  · exact @discarded_laid _ (canonicalFeatures state rnn, canonicalRnn rnn) materialized
  · rfl
  · intro frame member
    cases member
  · rfl
  · rfl
  · rfl
  · rfl
  · rfl

/-- A file does not tell which recurrent states there are apart from the states themselves. -/
theorem keys_unwritten (keys : RecurrentStateKeys) :
    writeCheckpointBinPath metadataJson { state with recurrentStateKeys := keys } rnn =
      writeCheckpointBinPath metadataJson state rnn := rfl

/-- Saving a part over the file its whole was restored from writes the file of the whole. -/
theorem laid_saves_agree (backing : Storable state rnn)
    (backingSmall : (checkpointPiece backingMetadata state rnn).length < 2 ^ 63)
    (saved : writeCheckpointBinPath backingMetadata state rnn = .ok file)
    (loaded : restoreCheckpointBin (.ok file) wholeLists runtime = (.ok (), whole))
    {scope : CheckpointScope} {part' whole' : NotedRuntime Binary64 Binary32 Live Session}
    (laid : RuntimeLaid scope (modelState whole) part' whole')
    (storable : Storable whole'.deterministic whole'.rnn) (metadata : metadataJson ≠ [])
    (small : (checkpointPiece metadataJson whole'.deterministic whole'.rnn).length < 2 ^ 63) :
    ∃ merged, writeMergedCheckpointBinPath (.ok file) metadataJson part'.deterministic part'.rnn
        scope = .ok merged ∧
      writeCheckpointBinPath metadataJson whole'.deterministic whole'.rnn = .ok merged := by
  have materialized : Materialized (modelState whole).2 := by
    rw [loaded_whole backing backingSmall saved loaded]
    exact ⟨fun _ => rfl, rfl⟩
  have features : overlayFeatures scope whole.deterministic part'.deterministic =
      { whole'.deterministic with
        recurrentStateKeys := part'.deterministic.recurrentStateKeys } :=
    laid_overlay_features laid.model
  have states : overlayRnn scope whole.rnn part'.rnn = whole'.rnn :=
    laid_overlay_states laid.model materialized
  have piece : checkpointPiece metadataJson
      (overlayFeatures scope whole.deterministic part'.deterministic)
      (overlayRnn scope whole.rnn part'.rnn) =
        checkpointPiece metadataJson whole'.deterministic whole'.rnn := by
    rw [features, states]
    rfl
  have partStorable : Storable part'.deterministic part'.rnn := part_storable laid.model storable
  have merged := merged_save_agrees backing partStorable backingSmall saved loaded metadata scope
    (piece ▸ small)
  rw [features, states, keys_unwritten] at merged
  exact merged

variable {Logits Rows : Type} {network : ReviewNetwork Binary64 Binary32 Logits Rows}
  {modules : RwkvModules} {saver : Traced Binary64 Binary32 Live Session}

theorem calls_tracked (forward : WeightsForward modules network) (calls : List (HistoryCall Binary64))
    {current : Traced Binary64 Binary32 Live Session}
    (tracks : Tracks (ModelFollows modules False) current) :
    Tracks (ModelFollows modules False)
      (calls.foldl (fun state call => call.perform network state) current) := by
  induction calls generalizing current with
  | nil => exact tracks
  | cons call rest ih => exact ih (perform_tracks forward (model_records forward False) tracks call)

theorem loaded_tracks (saverTracks : Tracks (ModelFollows modules False) saver)
    (small : (checkpointPiece backingMetadata saver.runtime.deterministic
      saver.runtime.rnn).length < 2 ^ 63)
    (saved : writeCheckpointBinPath backingMetadata saver.runtime.deterministic
      saver.runtime.rnn = .ok file)
    (loaded : restoreCheckpointBin (.ok file) wholeLists runtime = (.ok (), whole)) :
    Tracks (ModelFollows modules False) ⟨whole, saver.history⟩ := by
  have model := saverTracks.model
  have storable : Storable saver.runtime.deterministic saver.runtime.rnn :=
    reached_storable model.features model.states
  have same := loaded_whole storable small saved loaded
  subst same
  exact tracks_cleared (canonical_model model) rfl

/-- A runtime restored with a scope and one restored whole from a file that a run has saved answer
all calls inside the scope alike, and saving the first over that file writes the same bytes as
saving the second. -/
theorem scoped_study_saves (forward : WeightsForward modules network)
    (run : SavedRun network saver)
    (savedSmall : (checkpointPiece backingMetadata saver.runtime.deterministic
      saver.runtime.rnn).length < 2 ^ 63)
    (saved : writeCheckpointBinPath backingMetadata saver.runtime.deterministic
      saver.runtime.rnn = .ok file)
    (narrowed : restoreCheckpointBin (.ok file) (scopeLists cardIds noteIds deckIds presetIds)
      runtime = (.ok (), part))
    (loaded : restoreCheckpointBin (.ok file) wholeLists runtime = (.ok (), whole))
    {calls : List (HistoryCall Binary64)}
    (inside : ∀ call ∈ calls, InsideScope (listedScope cardIds noteIds deckIds presetIds) call)
    (metadata : metadataJson ≠ [])
    (small : (checkpointPiece metadataJson (runCalls network calls whole).2.deterministic
      (runCalls network calls whole).2.rnn).length < 2 ^ 63) :
    (runCalls network calls part).1 = (runCalls network calls whole).1 ∧
      ∃ merged, writeMergedCheckpointBinPath (.ok file) metadataJson
          (runCalls network calls part).2.deterministic (runCalls network calls part).2.rnn
          (listedScope cardIds noteIds deckIds presetIds) = .ok merged ∧
        writeCheckpointBinPath metadataJson (runCalls network calls whole).2.deterministic
          (runCalls network calls whole).2.rnn = .ok merged := by
  have saverTracks := saved_run_tracks forward run
  have backing : Storable saver.runtime.deterministic saver.runtime.rnn :=
    reached_storable saverTracks.model.features saverTracks.model.states
  have start := restored_laid backing savedSmall saved narrowed loaded
  have wholeTracks := calls_tracked forward calls
    (loaded_tracks saverTracks savedSmall saved loaded)
  have model := wholeTracks.model
  rw [performed_calls] at model
  have storable : Storable (runCalls network calls whole).2.deterministic
      (runCalls network calls whole).2.rnn := reached_storable model.features model.states
  have ran : (runCalls network calls part).1 = (runCalls network calls whole).1 ∧
      RuntimeLaid (listedScope cardIds noteIds deckIds presetIds) (modelState whole)
        (runCalls network calls part).2 (runCalls network calls whole).2 := calls_laid inside start
  exact ⟨ran.1, laid_saves_agree backing savedSmall saved loaded ran.2 storable metadata small⟩

theorem part_restores (storable : Storable state rnn)
    (small : (checkpointPiece backingMetadata state rnn).length < 2 ^ 63)
    (free : requireNoLiveSession "restore_checkpoint_bin" runtime = (.ok (), runtime)) :
    restoreCheckpointBin (.ok (checkpointPiece backingMetadata state rnn))
        (scopeLists cardIds noteIds deckIds presetIds) runtime =
      (.ok (), { runtime with
        rnn := discardRnn (listedScope cardIds noteIds deckIds presetIds) (canonicalRnn rnn)
        deterministic := discardFeatures (listedScope cardIds noteIds deckIds presetIds)
          (canonicalFeatures state rnn)
        loadedScope := some (listedScope cardIds noteIds deckIds presetIds)
        undoStack := [] }) := by
  apply (restore_call_ok rfl).mpr
  have whole := written_restored storable small runtime
  exact ⟨free, _, selective_runtime ⟨_, small⟩ _ whole, rfl⟩

theorem tracked_storable {current : Traced Binary64 Binary32 Live Session}
    (tracks : Tracks (ModelFollows modules False) current) :
    Storable current.runtime.deterministic current.runtime.rnn :=
  reached_storable tracks.model.features tracks.model.states

theorem traced_history {Value : Type} (next : History Binary64 → History Binary64)
    (call : Method (NotedRuntime Binary64 Binary32 Live Session) Value)
    (current : Traced Binary64 Binary32 Live Session) :
    (traced next call current).history = current.history ∨
      (traced next call current).history = next current.history := by
  unfold traced
  cases call current.runtime with
  | mk result reached =>
      cases result with
      | ok value => exact Or.inr rfl
      | error failure => exact Or.inl rfl

/-- A batch is added or not; its file is short when both of these histories have short files. -/
theorem batch_small (forward : WeightsForward modules network) {history : History Binary64}
    (tracks : Tracks (ModelFollows modules False) ⟨whole, history⟩)
    (inputs : List (ReviewInput Binary64)) (returnCurves : Bool) (numThreads : Option Nat)
    {bound : Nat}
    (before : forecastBytes modules metadataJson.length (countsOf history) < bound)
    (after : forecastBytes modules metadataJson.length
      (countsOf (inputs.reverse ++ history)) < bound) :
    (checkpointPiece metadataJson
      (runCalls network [.processReviewBatch inputs returnCurves numThreads] whole).2.deterministic
      (runCalls network [.processReviewBatch inputs returnCurves numThreads] whole).2.rnn).length <
        bound := by
  have reached := performed_calls network [.processReviewBatch inputs returnCurves numThreads]
    ⟨whole, history⟩
  have model := (calls_tracked forward [.processReviewBatch inputs returnCurves numThreads]
    tracks).model
  rw [← reached]
  apply lt_of_eq_of_lt (reached_file_length model.features model.states metadataJson)
  have histories := traced_history (inputs.reverse ++ ·)
    (clearingCall "process_review_batch"
      (BatchedPrediction.requireLoadedScopes whole.loadedScope inputs)
      (processReviewInputsWithState network inputs returnCurves numThreads)) ⟨whole, history⟩
  rcases histories with refused | added
  · have same : ((HistoryCall.processReviewBatch inputs returnCurves numThreads).perform network
        ⟨whole, history⟩).history = history := refused
    rw [List.foldl_cons, List.foldl_nil, same]
    exact before
  · have same : ((HistoryCall.processReviewBatch inputs returnCurves numThreads).perform network
        ⟨whole, history⟩).history = inputs.reverse ++ history := added
    rw [List.foldl_cons, List.foldl_nil, same]
    exact after

end Study

section SecondCard

def laterReview : ReviewInput Binary64 :=
  { plainReview with
    reviewId := 2
    cardId := 2
    noteId := .present 5
    dayOffset := 1.0 }

def laterCalls : List (HistoryCall Binary64) := [.processReviewBatch [laterReview] true none]

def savedReviewFile : List UInt8 :=
  checkpointPiece emptyMetadata savedReview.runtime.deterministic savedReview.runtime.rnn

theorem saved_review_file :
    writeCheckpointBinPath emptyMetadata savedReview.runtime.deterministic savedReview.runtime.rnn =
      .ok savedReviewFile := saved_review_written

theorem saved_review_storable :
    Storable savedReview.runtime.deterministic savedReview.runtime.rnn := by
  exact tracked_storable (saved_run_tracks zero_network_forward saved_review_run)

def newRuntime : NotedRuntime Binary64 Binary32 Unit Unit := (started 7 30).runtime

def studyWhole : NotedRuntime Binary64 Binary32 Unit Unit :=
  { newRuntime with
    rnn := canonicalRnn savedReview.runtime.rnn
    deterministic := canonicalFeatures savedReview.runtime.deterministic savedReview.runtime.rnn
    loadedScope := none
    undoStack := [] }

/-- The second card with its note, in the deck and with the preset of the first. -/
abbrev studyScope : CheckpointScope := listedScope [2] [5] [3] [4]

def studyPart : NotedRuntime Binary64 Binary32 Unit Unit :=
  { newRuntime with
    rnn := discardRnn studyScope (canonicalRnn savedReview.runtime.rnn)
    deterministic := discardFeatures studyScope
      (canonicalFeatures savedReview.runtime.deterministic savedReview.runtime.rnn)
    loadedScope := some studyScope
    undoStack := [] }

theorem study_inside : ∀ call ∈ laterCalls, InsideScope studyScope call := by
  intro call member
  rw [List.mem_singleton.mp member]
  intro input listed
  rw [List.mem_singleton.mp listed]
  decide +kernel

theorem study_whole_loaded :
    restoreCheckpointBin (.ok savedReviewFile) wholeLists newRuntime = (.ok (), studyWhole) :=
  saved_file_restores (saved_run_tracks zero_network_forward saved_review_run) saved_review_small
    saved_review_written rfl

theorem later_small {whole : NotedRuntime Binary64 Binary32 Unit Unit} {history : History Binary64}
    (tracks : Tracks (ModelFollows oneHeadModules False) ⟨whole, history⟩)
    (same : history = [plainReview]) :
    (checkpointPiece emptyMetadata (runCalls zeroNetwork laterCalls whole).2.deterministic
      (runCalls zeroNetwork laterCalls whole).2.rnn).length < 2 ^ 63 := by
  subst same
  have before : forecastBytes oneHeadModules emptyMetadata.length (countsOf [plainReview]) <
      2 ^ 63 := by decide +kernel
  have after : forecastBytes oneHeadModules emptyMetadata.length
      (countsOf ([laterReview].reverse ++ [plainReview])) < 2 ^ 63 := by decide +kernel
  exact batch_small zero_network_forward tracks [laterReview] true none before after

theorem study_tracks : Tracks (ModelFollows oneHeadModules False) ⟨studyWhole, savedReview.history⟩ :=
  loaded_tracks (saved_run_tracks zero_network_forward saved_review_run) saved_review_small
    saved_review_file study_whole_loaded

theorem study_small :
    (checkpointPiece emptyMetadata (runCalls zeroNetwork laterCalls studyWhole).2.deterministic
      (runCalls zeroNetwork laterCalls studyWhole).2.rnn).length < 2 ^ 63 :=
  later_small study_tracks saved_review_history

theorem study_part_loaded :
    restoreCheckpointBin (.ok savedReviewFile) (scopeLists [2] [5] [3] [4]) newRuntime =
      (.ok (), studyPart) :=
  part_restores saved_review_storable saved_review_small rfl

/-- The first card was saved; the second is reviewed in the first one's deck, on a runtime that has
loaded neither the first card nor its note. -/
theorem second_card_study :
    (runCalls zeroNetwork laterCalls studyPart).1 = (runCalls zeroNetwork laterCalls studyWhole).1 ∧
      ∃ merged, writeMergedCheckpointBinPath (.ok savedReviewFile) emptyMetadata
          (runCalls zeroNetwork laterCalls studyPart).2.deterministic
          (runCalls zeroNetwork laterCalls studyPart).2.rnn studyScope = .ok merged ∧
        writeCheckpointBinPath emptyMetadata
          (runCalls zeroNetwork laterCalls studyWhole).2.deterministic
          (runCalls zeroNetwork laterCalls studyWhole).2.rnn = .ok merged := by
  have metadata : emptyMetadata ≠ [] := by decide +kernel
  have study := scoped_study_saves zero_network_forward saved_review_run saved_review_small
    saved_review_file study_part_loaded study_whole_loaded study_inside metadata study_small
  exact study

end SecondCard

end RwkvSrs.ScopedStudy
