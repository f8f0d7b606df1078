import RwkvSrs.BatchAtomicity
import RwkvSrs.PredictionPurity
import RwkvSrs.ReviewUndo
import RwkvSrs.RuntimeRestore

/-!
The undoable process path. The undo frame of a review is captured after its
prediction and before anything of it is stored, and an error while it is stored
restores the frame at once. A finished review pushes its frame, and the oldest
frame falls off above the undo limit.
-/

namespace RwkvSrs.UndoableProcess

open Std RwkvSrs.FallibleMethod RwkvSrs.FeatureScaling RwkvSrs.ReviewInput
open RwkvSrs.DeterministicState RwkvSrs.DeterministicUndo RwkvSrs.DeterministicTouch
open RwkvSrs.ModuleState RwkvSrs.NativeRnnState RwkvSrs.BatchJournal RwkvSrs.ReviewProcessing
open RwkvSrs.BatchAtomicity RwkvSrs.PredictionPurity RwkvSrs.ReviewUndo
open RwkvSrs.RuntimeRestore (NativeRuntime requireNoLiveSession clearUndoStack)

set_option autoImplicit false
set_option linter.unusedSectionVars false

variable {F V Logits Rows Live Note Session Value : Type}
  [Float64Ops F] [Float32Ops V] [FeatureFloat F V]

def undoableProcessInputWithState (network : ReviewNetwork F V Logits Rows)
    (input : ReviewInput F) (returnCurves : Bool) (numThreads : Option Nat) :
    Method (ModelState F V) ((F × Option (Rows × Rows)) × UndoFrame F V) := do
  lift (validateNumThreads numThreads)
  onRnn materializeFlatCpuState
  let predictRow := preparePredictRow (← onFeatures current) input
  let ids ← lift (reviewIdsFromPrepared predictRow)
  let probability ← predictPreparedRowProbability network predictRow ids
  let processRow ← lift (prepareProcessRow (← onFeatures current) input)
  let undoFrame ← lift (UndoFrame.capture (← current) processRow ids)
  let curves ← restoringOnError (fun _ reached => undoFrame.restore reached)
    (processPreparedRowWithState network processRow ids returnCurves)
  return ((probability, curves), undoFrame)

/-- The frame was captured in `saved`, and since then only its own identities were written. -/
structure FrameCovers (saved : ModelState F V) (frame : UndoFrame F V) (state : ModelState F V) :
    Prop where
  row : ∃ row : PreparedRow F, UndoFrame.capture saved row frame.recurrent.ids = .ok frame ∧
    ∀ submodule : IdSubmodule,
      row[submodule.name]? = some (.int (submodule.key frame.recurrent.ids))
  materialized : Materialized saved.2
  within : BatchWithin (BatchIdentitySets.fromIds [frame.recurrent.ids]) saved state

theorem frame_covers_exact {saved state : ModelState F V} {frame : UndoFrame F V}
    (covers : FrameCovers saved frame state) : frame.restore state = saved := by
  obtain ⟨row, captured, found⟩ := covers.row
  exact undo_frame_exact found captured covers.materialized covers.within

theorem frame_covers_within {saved state reached : ModelState F V} {frame : UndoFrame F V}
    (covers : FrameCovers saved frame state)
    (within : BatchWithin (BatchIdentitySets.fromIds [frame.recurrent.ids]) state reached) :
    FrameCovers saved frame reached :=
  ⟨covers.row, covers.materialized, covers.within.trans within⟩

theorem captured_ids {saved : ModelState F V} {row : PreparedRow F} {ids : ReviewIds}
    {frame : UndoFrame F V} (captured : UndoFrame.capture saved row ids = .ok frame) :
    frame.recurrent.ids = ids := by
  unfold UndoFrame.capture at captured
  obtain ⟨features, _, made⟩ := ResultSteps.bind_ok.mp captured
  cases made
  rfl

variable {network : ReviewNetwork F V Logits Rows}

section Input

variable {input : ReviewInput F} {returnCurves : Bool} {numThreads : Option Nat}
  {before after : ModelState F V}

theorem reads_features :
    ReadsOnly (onFeatures current : Method (ModelState F V) (FeatureState F V)) :=
  fun _ _ => rfl

theorem reads_current : ReadsOnly (current : Method (ModelState F V) (ModelState F V)) :=
  fun _ _ => rfl

theorem frame_covers_process (network : ReviewNetwork F V Logits Rows) (returnCurves : Bool)
    {row : PreparedRow F} {begun : ModelState F V} {frame : UndoFrame F V}
    (materialized : Materialized begun.2) (prepared : prepareProcessRow begun.1 input = .ok row)
    (captured : UndoFrame.capture begun row (normalizedReviewIds input) = .ok frame) :
    FrameCovers begun frame
      (processPreparedRowWithState network row (normalizedReviewIds input) returnCurves begun).2 := by
  have found := process_row_id prepared
  have sameIds := captured_ids captured
  have covered : Covered (BatchIdentitySets.fromIds [normalizedReviewIds input])
      (normalizedReviewIds input) := from_ids_covers (List.mem_singleton_self _)
  constructor
  case row =>
    rw [sameIds]
    exact ⟨row, captured, found⟩
  case materialized => exact materialized
  case within =>
    rw [sameIds]
    exact within_process_row covered found returnCurves begun

theorem started_begins {begun : ModelState F V}
    (started : (onRnn materializeFlatCpuState : Method (ModelState F V) Unit) before =
      (.ok (), begun)) : Begins before begun := by
  unfold onRnn onPart at started
  match ran : materializeFlatCpuState before.2 with
  | (result, rnn) =>
      rw [ran] at started
      cases started
      exact ⟨rfl, ran⟩

theorem read_ids {begun : ModelState F V} {ids : ReviewIds}
    (read : (lift (reviewIdsFromPrepared (preparePredictRow begun.1 input)) :
      Method (ModelState F V) ReviewIds) begun = (.ok ids, begun)) :
    ids = normalizedReviewIds input := by
  have found := (lift_ok_value read).1
  rw [(row_ids_of_int (predict_row_id begun.1 input)).2] at found
  cases found
  rfl

/-- A finished review: the prediction has written nothing, so the frame was captured in the
state the review began in, and it covers whatever the rest of the review has written. -/
theorem undoable_input_ok {output : F × Option (Rows × Rows)} {frame : UndoFrame F V}
    (ran : undoableProcessInputWithState network input returnCurves numThreads before =
      (.ok (output, frame), after)) :
    ∃ begun, Begins before begun ∧ FrameCovers begun frame after ∧
      frame.recurrent.ids = normalizedReviewIds input := by
  obtain ⟨_, _, ran⟩ := ok_after_read (reads_only_lift _) ran
  obtain ⟨_, begun, started, ran⟩ := bind_ok_steps ran
  obtain ⟨_, ⟨⟩, ran⟩ := ok_after_read reads_features ran
  obtain ⟨ids, idsRead, ran⟩ := ok_after_read (reads_only_lift _) ran
  cases read_ids idsRead
  obtain ⟨probability, predicted, ran⟩ := ok_after_read (predict_probability_pure _ _ _) ran
  obtain ⟨_, ⟨⟩, ran⟩ := ok_after_read reads_features ran
  obtain ⟨row, prepared, ran⟩ := ok_after_read (reads_only_lift _) ran
  obtain ⟨_, ⟨⟩, ran⟩ := ok_after_read reads_current ran
  obtain ⟨captured, capture, ran⟩ := ok_after_read (reads_only_lift _) ran
  obtain ⟨curves, reached, processed, ran⟩ := bind_ok_steps ran
  cases ran
  have begins := started_begins started
  have materialized := begins_materialized begins
  have covers := frame_covers_process network returnCurves materialized (lift_ok_value prepared).1
    (lift_ok_value capture).1
  rw [restoring_ok processed] at covers
  exact ⟨begun, begins, covers, captured_ids (lift_ok_value capture).1⟩

theorem undoable_input_atomic :
    Atomic (undoableProcessInputWithState network input returnCurves numThreads) := by
  apply atomic_prepared
  intro begun message after materialized ran
  rcases error_after_read reads_features ran with same | ⟨_, ⟨⟩, ran⟩
  · exact same
  rcases error_after_read (reads_only_lift _) ran with same | ⟨ids, idsRead, ran⟩
  · exact same
  cases read_ids idsRead
  rcases error_after_read (predict_probability_pure _ _ _) ran with same | ⟨_, predicted, ran⟩
  · exact same
  rcases error_after_read reads_features ran with same | ⟨_, ⟨⟩, ran⟩
  · exact same
  rcases error_after_read (reads_only_lift _) ran with same | ⟨row, prepared, ran⟩
  · exact same
  rcases error_after_read reads_current ran with same | ⟨_, ⟨⟩, ran⟩
  · exact same
  rcases error_after_read (reads_only_lift _) ran with same | ⟨frame, capture, ran⟩
  · exact same
  have covers := frame_covers_process network returnCurves materialized (lift_ok_value prepared).1
    (lift_ok_value capture).1
  rw [bind_apply] at ran
  split at ran
  · cases ran
  · rename_i failure reached failed
    cases ran
    rw [(restoring_error failed).2]
    exact frame_covers_exact covers

/-- A network that accepts all features and states, and returns the five states of a review. -/
structure Accepts (network : ReviewNetwork F V Logits Rows) : Prop where
  predicts : ∀ row states, ∃ logits probability,
    network.predictForward row states = .ok logits ∧
      network.probabilityFromLogits logits = .ok probability
  forwards : ∀ row states, ∃ output card note deck preset globalState,
    network.reviewForward row states false false = .ok output ∧
      nativeModuleStatesFromReviewOutput output.states =
        .ok [card, note, deck, preset, globalState]

theorem tensor_of_nonempty {values : List V} (nonempty : values ≠ []) (name : String) :
    tensorFromFeatureVector values name = .ok values := by
  cases values with
  | nil => exact absurd rfl nonempty
  | cons value values => rfl

theorem probability_accepted (accepts : Accepts network) {row : PreparedRow F} (ids : ReviewIds)
    {features : List V} (nonempty : features ≠ [])
    (encoded : predictFeatureVector row before.1 = (.ok features, before.1)) :
    ∃ probability, predictPreparedRowProbability network row ids before =
      (.ok probability, before) := by
  obtain ⟨logits, probability, predicts, converts⟩ :=
    accepts.predicts features (stateInputs before.2 ids)
  have encodedHere : (onFeatures (predictFeatureVector row) :
      Method (ModelState F V) (List V)) before = (.ok features, before) := by
    unfold onFeatures onPart
    rw [encoded]
  refine ⟨probability, ?_⟩
  unfold predictPreparedRowProbability
  rw [bind_of_ok encodedHere, tensor_of_nonempty nonempty, bind_of_ok (lift_ok _ _)]
  change (lift (network.predictForward features (stateInputs before.2 ids)) >>= fun logits =>
    lift (network.probabilityFromLogits logits) : Method (ModelState F V) F) before = _
  rw [predicts, bind_of_ok (lift_ok _ _), converts]
  rfl

theorem process_row_accepted (accepts : Accepts network) {row : PreparedRow F} (ids : ReviewIds)
    {features : List V} (nonempty : features ≠ []) {encoded keyed recorded : FeatureState F V}
    (encode : processFeatureVector row before.1 = (.ok features, encoded))
    (key : recordRecurrentStateUpdate row encoded = (.ok (), keyed))
    (record : recordProcessedRow row keyed = (.ok (), recorded)) :
    ∃ after, processPreparedRowWithState network row ids false before = (.ok none, after) ∧
      after.1 = recorded := by
  obtain ⟨output, card, note, deck, preset, globalState, forwards, states⟩ :=
    accepts.forwards features (stateInputs before.2 ids)
  have encodedHere : (onFeatures (processFeatureVector row) :
      Method (ModelState F V) (List V)) before = (.ok features, (encoded, before.2)) := by
    unfold onFeatures onPart
    rw [encode]
  unfold processPreparedRowWithState
  rw [bind_of_ok encodedHere, tensor_of_nonempty nonempty, bind_of_ok (lift_ok _ _),
    bind_of_ok (rfl : onRnn current (encoded, before.2) = (.ok before.2, (encoded, before.2))),
    forwards, bind_of_ok (lift_ok _ _)]
  obtain ⟨stored, storedHere⟩ : ∃ stored, (onRnn (storeReviewStates ids output.states) :
      Method (ModelState F V) Unit) (encoded, before.2) = (.ok (), (encoded, stored)) := by
    unfold onRnn onPart storeReviewStates
    rw [states]
    exact ⟨_, rfl⟩
  have keyedHere : (onFeatures (recordRecurrentStateUpdate row) :
      Method (ModelState F V) Unit) (encoded, stored) = (.ok (), (keyed, stored)) := by
    unfold onFeatures onPart
    rw [key]
  have recordedHere : (onFeatures (recordProcessedRow row) :
      Method (ModelState F V) Unit) (keyed, stored) = (.ok (), (recorded, stored)) := by
    unfold onFeatures onPart
    rw [record]
  rw [bind_of_ok storedHere, bind_of_ok keyedHere, bind_of_ok recordedHere]
  exact ⟨(recorded, stored), rfl, rfl⟩

/-- A review whose features can be prepared is processed by every network that accepts them. -/
theorem undoable_of_prepass (accepts : Accepts network) {step : BulkFeatureStep V}
    {features : FeatureState F V} (threads : numThreads ≠ some 0)
    (materialized : Materialized before.2)
    (prepass : featurePrepassStep input before.1 = (.ok step, features))
    (predictFeatures : step.predictFeatures ≠ []) (processFeatures : step.processFeatures ≠ []) :
    ∃ output frame after,
      undoableProcessInputWithState network input false numThreads before =
        (.ok (output, frame), after) ∧ after.1 = features := by
  have predictIds := (row_ids_of_int (predict_row_id before.1 input)).2
  unfold featurePrepassStep at prepass
  rw [bind_of_ok (current_apply _), predictIds, bind_of_ok (lift_ok _ _)] at prepass
  obtain ⟨predicted, predict, prepass⟩ := ok_after_read (predict_feature_vector_pure _) prepass
  rw [bind_of_ok (current_apply _)] at prepass
  obtain ⟨row, rowRead, prepass⟩ := ok_after_read (reads_only_lift _) prepass
  obtain ⟨processed, encoded, encode, prepass⟩ := bind_ok_steps prepass
  obtain ⟨_, keyed, key, prepass⟩ := bind_ok_steps prepass
  obtain ⟨_, recorded, record, prepass⟩ := bind_ok_steps prepass
  cases prepass
  have prepared := (lift_ok_value rowRead).1
  obtain ⟨probability, probable⟩ :=
    probability_accepted accepts (normalizedReviewIds input) predictFeatures predict
  obtain ⟨after, process, sameFeatures⟩ :=
    process_row_accepted accepts (normalizedReviewIds input) processFeatures encode key record
  have encodings := process_row_id prepared
  obtain ⟨frame, capture⟩ : ∃ frame,
      UndoFrame.capture before row (normalizedReviewIds input) = .ok frame := by
    unfold UndoFrame.capture DeterministicUndoFrame.capture
    rw [captured_encodings encodings]
    exact ⟨_, rfl⟩
  rw [undoableProcessInputWithState, prepared_of_begins (validate_threads threads)
    ⟨rfl, materialize_id materialized⟩]
  rw [bind_of_ok (rfl : onFeatures current before = (.ok before.1, before)), predictIds,
    bind_of_ok (lift_ok _ _), bind_of_ok probable,
    bind_of_ok (rfl : onFeatures current before = (.ok before.1, before)), prepared,
    bind_of_ok (lift_ok _ _), bind_of_ok (current_apply _), capture, bind_of_ok (lift_ok _ _),
    bind_of_ok (restoring_of_ok process)]
  exact ⟨_, frame, after, rfl, sameFeatures⟩

end Input

/-- A frame of the stack. No function reads `note`: it remembers, for statements about runs,
what held when the frame was pushed. -/
structure RuntimeUndoFrame (F V Live Note : Type) where
  model : UndoFrame F V
  live : Option Live
  note : Note

abbrev Runtime (F V Live Note Session : Type) :=
  NativeRuntime F V (RuntimeUndoFrame F V Live Note) Session

def modelState (runtime : Runtime F V Live Note Session) : ModelState F V :=
  (runtime.deterministic, runtime.rnn)

def putModel (state : ModelState F V) (runtime : Runtime F V Live Note Session) :
    Runtime F V Live Note Session :=
  { runtime with deterministic := state.1, rnn := state.2 }

def onModel : Method (ModelState F V) Value → Method (Runtime F V Live Note Session) Value :=
  onPart modelState putModel

/-- `push_back`, then `pop_front` above the limit; the latest frame comes first. -/
def pushed {Frame : Type} (undoLimit : UInt64) (frame : Frame) (stack : List Frame) : List Frame :=
  if undoLimit.toNat < (frame :: stack).length then (frame :: stack).dropLast else frame :: stack

def pushFrame (frame : RuntimeUndoFrame F V Live Note) :
    Method (Runtime F V Live Note Session) Unit :=
  update fun runtime =>
    { runtime with undoStack := pushed runtime.undoLimit frame runtime.undoStack }

def undoableProcessReview (network : ReviewNetwork F V Logits Rows) (note : Note)
    (review : Except String (ReviewInput F)) (returnCurves : Bool) (numThreads : Option Nat) :
    Method (Runtime F V Live Note Session) (F × Option (Rows × Rows)) := do
  requireNoLiveSession "undoable_process_review"
  lift (validateNumThreads numThreads)
  if (← current).undoLimit = 0 then
    fail (.error "undoable_process is disabled by undo_limit=0")
  else
    let input ← lift review
    let (output, model) ← onModel (undoableProcessInputWithState network input returnCurves numThreads)
    pushFrame ⟨model, none, note⟩
    return output

def undoLastProcess : Method (Runtime F V Live Note Session) Nat := do
  requireNoLiveSession "undo_last_process"
  match (← current).undoStack with
  | [] => fail (.error "no undoable process is available")
  | frame :: rest =>
      update fun runtime =>
        { putModel (frame.model.restore (modelState runtime)) runtime with undoStack := rest }
      return rest.length

def clearUndoHistory : Method (Runtime F V Live Note Session) Nat := do
  requireNoLiveSession "clear_undo_history"
  clearUndoStack
  return 0

end RwkvSrs.UndoableProcess
