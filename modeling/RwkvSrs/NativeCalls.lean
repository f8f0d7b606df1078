import RwkvSrs.DirectPaths
import RwkvSrs.RestoreAtomicity
import RwkvSrs.UndoStack

/-!
The mutating calls of a runtime and its undo stack. Almost every call either
pushes a frame or clears the stack. Four calls for debugging do neither: what
they write is restored only where the latest frame happens to store it.
-/

namespace RwkvSrs.NativeCalls

open Std RwkvSrs.FallibleMethod RwkvSrs.FeatureScaling RwkvSrs.ReviewInput RwkvSrs.TorchRng
open RwkvSrs.DeterministicState RwkvSrs.DeterministicUndo RwkvSrs.DeterministicTouch
open RwkvSrs.ModuleState RwkvSrs.NativeRnnState RwkvSrs.BatchJournal RwkvSrs.ReviewProcessing
open RwkvSrs.BatchAtomicity RwkvSrs.PredictionPurity RwkvSrs.UndoableProcess RwkvSrs.UndoStack
open RwkvSrs.RestoreAtomicity
open RwkvSrs.RuntimeRestore (NativeRuntime requireNoLiveSession clearUndoStack onDeterministic)

set_option autoImplicit false
set_option linter.unusedSectionVars false

variable {F V Logits Rows Live Note Session Value : Type}

/-- Every run leaves no frame behind, or the stack and the model as they were. -/
def Clears (step : Method (Runtime F V Live Note Session) Value) : Prop :=
  ∀ runtime, (step runtime).2.undoStack = [] ∨
    ((step runtime).2.undoStack = runtime.undoStack ∧
      modelState (step runtime).2 = modelState runtime)

/-- A call that checks for a live session and its own arguments, clears the stack, and only then
writes anything. -/
def clearingCall (operation : String) (check : Except String Unit)
    (body : Method (ModelState F V) Value) : Method (Runtime F V Live Note Session) Value := do
  requireNoLiveSession operation
  lift check
  clearUndoStack
  onModel body

theorem clearing_call_clears (operation : String) (check : Except String Unit)
    (body : Method (ModelState F V) Value) :
    Clears (clearingCall operation check body :
      Method (Runtime F V Live Note Session) Value) := by
  intro runtime
  unfold clearingCall
  rcases require_cases operation runtime with free | ⟨message, live⟩
  · rw [bind_of_ok free]
    cases check with
    | error message => exact Or.inr ⟨rfl, rfl⟩
    | ok _ => exact Or.inl rfl
  · rw [bind_of_error live]
    exact Or.inr ⟨rfl, rfl⟩

theorem clear_history_clears :
    Clears (clearUndoHistory : Method (Runtime F V Live Note Session) Nat) := by
  intro runtime
  unfold clearUndoHistory
  rcases require_cases "clear_undo_history" runtime with free | ⟨message, live⟩
  · rw [bind_of_ok free]
    exact Or.inl rfl
  · rw [bind_of_error live]
    exact Or.inr ⟨rfl, rfl⟩

section Restores

open RwkvSrs.RuntimeRestore

abbrev RestoringRuntime (Live Note Session : Type) := Runtime Binary64 Binary32 Live Note Session

def SameStack (before after : RestoringRuntime Live Note Session) : Prop :=
  after.undoStack = before.undoStack

abbrev KeepsStack {Value : Type} (step : Method (RestoringRuntime Live Note Session) Value) : Prop :=
  Keeps SameStack step

theorem keeps_stack_bind {Next : Type} {step : Method (RestoringRuntime Live Note Session) Value}
    {next : Value → Method (RestoringRuntime Live Note Session) Next} (first : KeepsStack step)
    (rest : ∀ value, KeepsStack (next value)) : KeepsStack (step >>= next) :=
  keeps_bind (fun _ _ _ before after => after.trans before) first rest

theorem keeps_stack_lift (result : Except String Value) :
    KeepsStack (lift result : Method (RestoringRuntime Live Note Session) Value) := by
  apply keeps_lift
  intro runtime
  rfl

theorem guarded_clears {operation : String}
    {step : Method (RestoringRuntime Live Note Session) Unit} (keeps : KeepsStack step) :
    Clears (requireNoLiveSession operation >>= fun _ => clearUndoStack >>= fun _ => step) := by
  intro runtime
  rcases require_cases operation runtime with free | ⟨message, live⟩
  · rw [bind_of_ok free]
    exact Or.inl (keeps { runtime with undoStack := [] })
  · rw [bind_of_error live]
    exact Or.inr ⟨rfl, rfl⟩

theorem read_v1_keeps_stack (cursor : CheckpointBytes.Cursor) :
    KeepsStack (readRuntimeStateBinV1 cursor :
      Method (RestoringRuntime Live Note Session) Unit) := by
  apply keeps_stack_bind (keeps_stack_lift _)
  intro (contents, _)
  apply keeps_stack_bind (keeps_stack_lift _)
  intro idRng
  exact fun _ => rfl

theorem read_v2_keeps_stack (scope : Option CheckpointReader.CheckpointScope)
    (cursor : CheckpointBytes.Cursor) :
    KeepsStack (readRuntimeStateBinV2 scope cursor :
      Method (RestoringRuntime Live Note Session) Unit) := by
  apply keeps_stack_bind (keeps_stack_lift _)
  intro (contents, _)
  apply keeps_stack_bind (keeps_stack_lift _)
  intro idRng
  exact fun _ => rfl

theorem checkpoint_path_keeps_stack (file : CheckpointFile)
    (scope : Option CheckpointReader.CheckpointScope) :
    KeepsStack (restoreCheckpointBinPath file scope :
      Method (RestoringRuntime Live Note Session) Unit) := by
  apply keeps_stack_bind (keeps_stack_lift file)
  intro bytes
  apply keeps_stack_bind (keeps_stack_lift _)
  intro (version, cursor)
  by_cases legacy : version = CheckpointReader.legacyCheckpointBinVersion
  · simp only [legacy, if_true]
    apply keeps_stack_bind (read_v1_keeps_stack cursor)
    intro _
    cases scope with
    | none => exact fun _ => rfl
    | some scope => exact keeps_update fun _ => rfl
  · simp only [legacy, if_false]
    exact read_v2_keeps_stack scope cursor

theorem checkpoint_clears (file : CheckpointFile) (lists : IdentityLists) :
    Clears (restoreCheckpointBin file lists : Method (RestoringRuntime Live Note Session) Unit) := by
  intro runtime
  have atomic := checkpoint_all_or_nothing file lists runtime
  unfold AllOrNothing restoreCheckpointBin at atomic
  unfold restoreCheckpointBin
  rcases require_cases "restore_checkpoint_bin" runtime with free | ⟨message, live⟩
  · rw [bind_of_ok free] at atomic ⊢
    cases given : checkpointScopeFromOptionalIdentityLists lists with
    | error message => exact Or.inr ⟨rfl, rfl⟩
    | ok scope =>
        rw [given, bind_of_ok (lift_ok _ _)] at atomic
        rw [bind_of_ok (lift_ok _ _)]
        have stack := checkpoint_path_keeps_stack file scope runtime
        match read : restoreCheckpointBinPath file scope runtime with
        | (.ok (), reached) =>
            rw [bind_of_ok read]
            exact Or.inl rfl
        | (.error failure, reached) =>
            rw [bind_of_error read] at atomic ⊢
            rw [read] at stack
            rcases atomic with impossible | untouched
            · cases impossible
            · exact Or.inr ⟨stack, Prod.ext untouched.deterministic untouched.rnn⟩
  · rw [bind_of_error live]
    exact Or.inr ⟨rfl, rfl⟩

/-- Every restore but that of the generator, which no frame stores sparsely. -/
theorem restore_clears (call : RestoreCall) (other : ∀ rngState, call ≠ .torchRngState rngState) :
    Clears (call.run : Method (RestoringRuntime Live Note Session) Unit) := by
  cases call with
  | checkpointBin file lists => exact checkpoint_clears file lists
  | snapshot given => exact guarded_clears fun _ => rfl
  | recurrentStateKeys given => exact guarded_clears fun _ => rfl
  | idEncodingSnapshot given => exact guarded_clears fun _ => rfl
  | recurrentStateLists given => exact guarded_clears fun _ => rfl
  | torchRngState rngState => exact absurd rfl (other rngState)

end Restores

section Calls

variable [Float64Ops F] [Float32Ops V] [FeatureFloat F V]

/-- The runtime with the state before its review remembered in every frame. -/
abbrev NotedRuntime (F V Live Session : Type) := Runtime F V Live (ModelState F V) Session

/-- The arguments as parsed; the error of a payload that cannot be parsed stands in its place. -/
inductive NativeCall (F V Live Session : Type) where
  | clearing (operation : String) (check : Except String Unit) (body : Method (ModelState F V) Unit)
  | clearUndoHistory
  | restoring (step : Method (NotedRuntime F V Live Session) Unit) (clears : Clears step)
  | undoableProcess (review : Except String (ReviewInput F)) (returnCurves : Bool)
      (numThreads : Option Nat)
  | undoLastProcess
  | restoreTorchRngState (idRng : Except String TorchMt19937)
  | processReviewFeatureStepDebug (review : Except String (ReviewInput F))
  | featureVector (row : Except String (PreparedRow F)) (mutateIdEncodings : Bool)
  | processFeatureVector (row : Except String (PreparedRow F))
  | recordRecurrentStateUpdate (row : Except String (PreparedRow F))
  | predictProbability (review : Except String (ReviewInput F)) (numThreads : Option Nat)

namespace NativeCall

/-- A restore of the native runtime, but for that of the generator. -/
def ofRestore (call : RestoreCall) (other : ∀ rngState, call ≠ .torchRngState rngState) :
    NativeCall Binary64 Binary32 Live Session :=
  .restoring call.run (restore_clears call other)

section Entries

variable (scope : Except String Unit) (body : Method (ModelState F V) Unit)

/-- Without `skip`; a skipped review stores nothing. -/
def review : NativeCall F V Live Session := .clearing "review" (.ok ()) body

def processReviews : NativeCall F V Live Session := .clearing "process_reviews" (.ok ()) body

def processReviewBatch : NativeCall F V Live Session :=
  .clearing "process_review_batch" scope body

def processReviewsPacked : NativeCall F V Live Session :=
  .clearing "process_reviews_packed" (.ok ()) body

def buildStateOnlyPacked : NativeCall F V Live Session :=
  .clearing "build_state_only" (.ok ()) body

def buildStateOnlyBatch : NativeCall F V Live Session :=
  .clearing "build_state_only_batch" scope body

def buildStateOnlyPipeline : NativeCall F V Live Session :=
  .clearing "build_state_only" (.ok ()) body

def buildStateOnlyBatchPipeline : NativeCall F V Live Session :=
  .clearing "build_state_only_batch_pipeline" scope body

def processReviewsBulkReference : NativeCall F V Live Session :=
  .clearing "process_reviews_bulk_reference" (.ok ()) body

def processReviewBatchBulkReference : NativeCall F V Live Session :=
  .clearing "process_review_batch_bulk_reference" scope body

def processReviewsBulkLayered : NativeCall F V Live Session :=
  .clearing "process_reviews_bulk_layered" (.ok ()) body

def processReviewBatchBulkLayered : NativeCall F V Live Session :=
  .clearing "process_review_batch_bulk_layered" scope body

def processReviewsPipeline : NativeCall F V Live Session :=
  .clearing "process_reviews_pipeline" (.ok ()) body

def processReviewBatchPipeline : NativeCall F V Live Session :=
  .clearing "process_review_batch_pipeline" scope body

def processReviewsGpuScan : NativeCall F V Live Session :=
  .clearing "process_reviews_gpu_scan" (.ok ()) body

/-- The stack is cleared before the scope is checked. -/
def processReviewBatchGpuScan : NativeCall F V Live Session :=
  .clearing "process_review_batch_gpu_scan" (.ok ()) (do
    lift scope
    body)

/-- The stack is cleared before the scope is checked. -/
def buildStateOnlyBatchGpuScan : NativeCall F V Live Session :=
  .clearing "build_state_only_batch_gpu_scan" (.ok ()) (do
    lift scope
    body)

def processReviewsProfiled : NativeCall F V Live Session :=
  .clearing "process_reviews_profiled" (.ok ()) body

def processReviewsPackedProfiled : NativeCall F V Live Session :=
  .clearing "process_reviews_packed_profiled" (.ok ()) body

def buildStateOnlyPackedProfiled : NativeCall F V Live Session :=
  .clearing "build_state_only_packed_profiled" (.ok ()) body

def buildStateOnlyPipelineProfiled : NativeCall F V Live Session :=
  .clearing "build_state_only_pipeline_profiled" (.ok ()) body

def processReviewsBulkReferenceProfiled : NativeCall F V Live Session :=
  .clearing "process_reviews_bulk_reference_profiled" (.ok ()) body

def processReviewsBulkLayeredProfiled : NativeCall F V Live Session :=
  .clearing "process_reviews_bulk_layered_profiled" (.ok ()) body

/-- The fields of the row are parsed after the stack is cleared. -/
def recordProcessed (row : Except String (PreparedRow F)) : NativeCall F V Live Session :=
  .clearing "record_processed" (.ok ()) (do
    let row ← lift row
    onFeatures (recordProcessedRow row))

/-- The calls that clear the undo stack before they change the model. -/
def entryPoints (row : Except String (PreparedRow F)) : List (NativeCall F V Live Session) :=
  [review body, processReviews body, processReviewBatch scope body, processReviewsPacked body,
    buildStateOnlyPacked body, buildStateOnlyBatch scope body, buildStateOnlyPipeline body,
    buildStateOnlyBatchPipeline scope body, processReviewsBulkReference body,
    processReviewBatchBulkReference scope body, processReviewsBulkLayered body,
    processReviewBatchBulkLayered scope body, processReviewsPipeline body,
    processReviewBatchPipeline scope body, processReviewsGpuScan body,
    processReviewBatchGpuScan scope body, buildStateOnlyBatchGpuScan scope body,
    processReviewsProfiled body, processReviewsPackedProfiled body,
    buildStateOnlyPackedProfiled body, buildStateOnlyPipelineProfiled body,
    processReviewsBulkReferenceProfiled body, processReviewsBulkLayeredProfiled body,
    recordProcessed row]

theorem entry_points_clear (row : Except String (PreparedRow F)) :
    ∀ call ∈ (entryPoints scope body row : List (NativeCall F V Live Session)),
      ∃ operation check work, call = .clearing operation check work := by
  simp only [entryPoints, List.forall_mem_cons, List.not_mem_nil, false_implies, implies_true,
    and_true]
  and_intros <;> exact ⟨_, _, _, rfl⟩

end Entries

end NativeCall

/-- A call that parses its argument and then writes to the feature state alone. -/
def guardedCall {Payload : Type} (operation : String) (payload : Except String Payload)
    (step : Payload → Method (FeatureState F V) Value) :
    Method (NotedRuntime F V Live Session) Unit := do
  requireNoLiveSession operation
  let argument ← lift payload
  let _ ← onDeterministic (step argument)
  return ()

def restoreTorchRngState (idRng : Except String TorchMt19937) :
    Method (NotedRuntime F V Live Session) Unit :=
  guardedCall "restore_torch_rng_state" idRng fun idRng =>
    update fun state => { state with idRng := idRng }

def processReviewFeatureStepDebug (review : Except String (ReviewInput F)) :
    Method (NotedRuntime F V Live Session) Unit :=
  guardedCall "process_review_feature_step_debug" review featurePrepassStep

def featureVector (row : Except String (PreparedRow F)) (mutateIdEncodings : Bool) :
    Method (NotedRuntime F V Live Session) Unit :=
  if mutateIdEncodings then
    guardedCall "feature_vector(mutate_id_encodings=True)" row fun row =>
      DeterministicState.featureVector row true
  else do
    let row ← lift row
    let _ ← onDeterministic (DeterministicState.featureVector row false)
    return ()

def processFeatureVector (row : Except String (PreparedRow F)) :
    Method (NotedRuntime F V Live Session) Unit :=
  guardedCall "process_feature_vector" row DeterministicState.processFeatureVector

def recordRecurrentStateUpdate (row : Except String (PreparedRow F)) :
    Method (NotedRuntime F V Live Session) Unit :=
  guardedCall "record_recurrent_state_update" row DeterministicState.recordRecurrentStateUpdate

def undoableProcess (network : ReviewNetwork F V Logits Rows)
    (review : Except String (ReviewInput F)) (returnCurves : Bool) (numThreads : Option Nat) :
    Method (NotedRuntime F V Live Session) (F × Option (Rows × Rows)) := fun runtime =>
  undoableProcessReview network (modelState runtime) review returnCurves numThreads runtime

/-- `predict_probability_with_state`. -/
def predictProbability (network : ReviewNetwork F V Logits Rows)
    (review : Except String (ReviewInput F)) (numThreads : Option Nat) :
    Method (ModelState F V) F := do
  lift (validateNumThreads numThreads)
  onRnn materializeFlatCpuState
  let input ← lift review
  let predictRow := preparePredictRow (← onFeatures current) input
  let ids ← lift (reviewIdsFromPrepared predictRow)
  predictPreparedRowProbability network predictRow ids

/-- The runtime after a call; what it returns or why it fails does not matter here. -/
def NativeCall.perform (network : ReviewNetwork F V Logits Rows) (call : NativeCall F V Live Session)
    (runtime : NotedRuntime F V Live Session) : NotedRuntime F V Live Session :=
  match call with
  | .clearing operation check body => (clearingCall operation check body runtime).2
  | .clearUndoHistory => (UndoableProcess.clearUndoHistory runtime).2
  | .restoring step _ => (step runtime).2
  | .undoableProcess review returnCurves numThreads =>
      (NativeCalls.undoableProcess network review returnCurves numThreads runtime).2
  | .undoLastProcess => (UndoableProcess.undoLastProcess runtime).2
  | .restoreTorchRngState idRng => (NativeCalls.restoreTorchRngState idRng runtime).2
  | .processReviewFeatureStepDebug review =>
      (NativeCalls.processReviewFeatureStepDebug review runtime).2
  | .featureVector row mutateIdEncodings =>
      (NativeCalls.featureVector row mutateIdEncodings runtime).2
  | .processFeatureVector row => (NativeCalls.processFeatureVector row runtime).2
  | .recordRecurrentStateUpdate row => (NativeCalls.recordRecurrentStateUpdate row runtime).2
  | .predictProbability review numThreads =>
      (onModel (NativeCalls.predictProbability network review numThreads) runtime).2

theorem perform_undoable (network : ReviewNetwork F V Logits Rows)
    (review : Except String (ReviewInput F)) (returnCurves : Bool) (numThreads : Option Nat)
    (runtime : NotedRuntime F V Live Session) :
    (NativeCall.undoableProcess review returnCurves numThreads).perform network runtime =
      (undoableProcessReview network (modelState runtime) review returnCurves numThreads
        runtime).2 := rfl

/-- What a call for debugging writes sparsely, it writes under the identities of this review. -/
def Confined (ids : ReviewIds) : NativeCall F V Live Session → Prop
  | .processReviewFeatureStepDebug (.ok input) => normalizedReviewIds input = ids
  | .featureVector (.ok row) true => RowCovered (BatchIdentitySets.fromIds [ids]) row
  | .processFeatureVector (.ok row) => RowCovered (BatchIdentitySets.fromIds [ids]) row
  | .recordRecurrentStateUpdate (.ok row) =>
      ∀ read, rowIds (getI64 row) = .ok read → read = ids
  | _ => True

/-- The stack is empty or the call is confined to the review of its latest frame, and an undoable
review does not panic. -/
structure Sound (network : ReviewNetwork F V Logits Rows) (runtime : NotedRuntime F V Live Session)
    (call : NativeCall F V Live Session) : Prop where
  confined : ∀ frame ∈ runtime.undoStack.head?, Confined frame.model.recurrent.ids call
  finishes : ∀ review returnCurves numThreads,
    call = .undoableProcess review returnCurves numThreads →
      ¬Panics (undoableProcess network review returnCurves numThreads runtime).1

/-- Whatever an entry point that clears the stack does to the model, it needs no condition. -/
theorem entry_points_sound (network : ReviewNetwork F V Logits Rows)
    (runtime : NotedRuntime F V Live Session) (scope : Except String Unit)
    (body : Method (ModelState F V) Unit) (row : Except String (PreparedRow F)) :
    ∀ call ∈ NativeCall.entryPoints scope body row, Sound network runtime call := by
  intro call member
  obtain ⟨operation, check, work, rfl⟩ := NativeCall.entry_points_clear scope body row call member
  constructor
  · intro frame _
    trivial
  · intro review returnCurves numThreads same
    cases same

theorem restore_sound [Float64Ops Binary64] [Float32Ops Binary32] [FeatureFloat Binary64 Binary32]
    (network : ReviewNetwork Binary64 Binary32 Logits Rows)
    (runtime : NotedRuntime Binary64 Binary32 Live Session) (call : RestoreCall)
    (other : ∀ rngState, call ≠ .torchRngState rngState) :
    Sound network runtime (NativeCall.ofRestore call other) := by
  constructor
  · intro frame _
    trivial
  · intro review returnCurves numThreads same
    cases same

inductive SoundRun (network : ReviewNetwork F V Logits Rows) :
    NotedRuntime F V Live Session → Prop where
  | start {runtime : NotedRuntime F V Live Session} (fresh : runtime.undoStack = []) :
      SoundRun network runtime
  | step {runtime : NotedRuntime F V Live Session} (run : SoundRun network runtime)
      (call : NativeCall F V Live Session) (sound : Sound network runtime call) :
      SoundRun network (call.perform network runtime)

section Exact

theorem discarded {State : Type} (step : Method State Value) (state : State) :
    ((step >>= fun _ => pure () : Method State Unit) state).2 = (step state).2 := by
  rw [bind_apply]
  match step state with
  | (.ok value, reached) => rfl
  | (.error failure, reached) => rfl

variable {runtime : NotedRuntime F V Live Session}

theorem guarded_exact {Payload : Type} {operation : String} {payload : Except String Payload}
    {step : Payload → Method (FeatureState F V) Value} (exact : RuntimeExact id runtime)
    (touches : ∀ argument, payload = .ok argument → ∀ frame ∈ runtime.undoStack.head?,
      Touches (BatchIdentitySets.fromIds [frame.model.recurrent.ids]) (step argument)) :
    RuntimeExact id (guardedCall operation payload step runtime).2 := by
  unfold guardedCall
  rcases require_cases operation runtime with free | ⟨message, live⟩
  · rw [bind_of_ok free]
    cases payload with
    | error message => exact exact
    | ok argument =>
        have written : RuntimeExact id (onDeterministic (step argument) runtime).2 := by
          apply stack_within exact
          intro frame top
          exact ⟨touches argument rfl frame top runtime.deterministic, StoresWithin.refl _⟩
        rw [bind_of_ok (lift_ok _ _), discarded]
        exact written
  · rw [bind_of_error live]
    exact exact

theorem moves_within {identities : BatchIdentitySets} {before after : ModelState F V}
    (moves : MovesGenerator before after) : BatchWithin identities before after := by
  obtain ⟨drawn, sameStates⟩ := moves
  constructor
  · rw [drawn]
    exact agree_of_rng _ _
  · rw [sameStates]
    exact StoresWithin.refl _

theorem feature_vector_exact {row : Except String (PreparedRow F)} {mutateIdEncodings : Bool}
    (exact : RuntimeExact id runtime)
    (confined : ∀ frame ∈ runtime.undoStack.head?, Confined frame.model.recurrent.ids
      (.featureVector row mutateIdEncodings : NativeCall F V Live Session)) :
    RuntimeExact id (featureVector row mutateIdEncodings runtime).2 := by
  cases mutateIdEncodings with
  | true =>
      apply guarded_exact exact
      intro argument parsed frame top
      have covered := confined frame top
      rw [parsed] at covered
      exact touches_feature_vector covered true
  | false =>
      cases row with
      | error message => exact exact
      | ok row =>
          -- Without mutation only the generator moves, and every frame stores it whole.
          have drawn : OnlyDraws runtime.deterministic
              (DeterministicState.featureVector row false runtime.deterministic).2 :=
            only_draws_feature_vector row runtime.deterministic
          unfold featureVector
          simp only [Bool.false_eq_true, if_false]
          rw [bind_of_ok (lift_ok _ _), discarded]
          apply stack_within exact
          intro frame _
          exact moves_within ⟨drawn, rfl⟩

theorem predict_probability_within {network : ReviewNetwork F V Logits Rows}
    {review : Except String (ReviewInput F)} {numThreads : Option Nat} {before : ModelState F V}
    {ids : ReviewIds} (materialized : Materialized before.2) :
    BatchWithin (BatchIdentitySets.fromIds [ids]) before
      (predictProbability network review numThreads before).2 := by
  unfold predictProbability
  cases validateNumThreads numThreads with
  | error message => exact BatchWithin.refl before
  | ok _ =>
      have started : (onRnn materializeFlatCpuState : Method (ModelState F V) Unit) before =
          (.ok (), before) := by
        unfold onRnn onPart
        rw [materialize_id materialized]
      rw [bind_of_ok (lift_ok _ _), bind_of_ok started]
      apply moves_within
      apply keeps_lift_bind moves_refl
      intro input _
      apply keeps_bind moves_trans
      · intro state
        exact moves_refl state
      intro features
      apply keeps_lift_bind moves_refl
      intro found _
      exact predict_probability_moves network _ found

theorem predict_probability_exact {network : ReviewNetwork F V Logits Rows}
    {review : Except String (ReviewInput F)} {numThreads : Option Nat}
    (exact : RuntimeExact id runtime) :
    RuntimeExact id (onModel (predictProbability network review numThreads) runtime).2 := by
  cases stacked : runtime.undoStack with
  | nil =>
      change StackExact id _ runtime.undoStack
      rw [stacked]
      trivial
  | cons frame rest =>
      have materialized : Materialized (modelState runtime).2 := by
        unfold RuntimeExact at exact
        rw [stacked] at exact
        exact stack_materialized exact
      apply stack_within exact
      intro frame _
      exact predict_probability_within materialized

theorem clears_exact {step : Method (NotedRuntime F V Live Session) Value}
    (exact : RuntimeExact id runtime) (clears : Clears step) : RuntimeExact id (step runtime).2 := by
  unfold RuntimeExact
  rcases clears runtime with cleared | ⟨sameStack, sameModel⟩
  · rw [cleared]
    trivial
  · rw [sameStack, sameModel]
    exact exact

theorem step_exact {network : ReviewNetwork F V Logits Rows} {call : NativeCall F V Live Session}
    (exact : RuntimeExact id runtime) (sound : Sound network runtime call) :
    RuntimeExact id (call.perform network runtime) := by
  cases call with
  | clearing operation check body => exact clears_exact exact (clearing_call_clears _ check body)
  | clearUndoHistory => exact clears_exact exact clear_history_clears
  | restoring step clears => exact clears_exact exact clears
  | undoableProcess review returnCurves numThreads =>
      exact undoable_process_exact rfl exact (sound.finishes review returnCurves numThreads rfl)
  | undoLastProcess => exact undo_last_exact exact
  | restoreTorchRngState idRng =>
      apply guarded_exact exact
      intro rng _ frame _ state
      exact agree_of_rng state rng
  | processReviewFeatureStepDebug review =>
      apply guarded_exact exact
      intro input parsed frame top
      have sameIds := sound.confined frame top
      rw [parsed] at sameIds
      apply touches_feature_prepass_step
      rw [show normalizedReviewIds input = _ from sameIds]
      exact from_ids_covers (List.mem_singleton_self _)
  | featureVector row mutateIdEncodings =>
      exact feature_vector_exact exact sound.confined
  | processFeatureVector row =>
      apply guarded_exact exact
      intro argument parsed frame top
      have covered := sound.confined frame top
      rw [parsed] at covered
      exact touches_feature_vector covered true
  | recordRecurrentStateUpdate row =>
      apply guarded_exact exact
      intro argument parsed frame top
      have sameIds := sound.confined frame top
      rw [parsed] at sameIds
      apply touches_record_recurrent
      intro ids read
      rw [sameIds ids read]
      exact from_ids_covers (List.mem_singleton_self _)
  | predictProbability review numThreads => exact predict_probability_exact exact

theorem sound_run_exact {network : ReviewNetwork F V Logits Rows} (run : SoundRun network runtime) :
    RuntimeExact id runtime := by
  induction run with
  | start fresh =>
      unfold RuntimeExact
      rw [fresh]
      trivial
  | step run call sound ih => exact step_exact ih sound

/-- After any sound run, undoing the latest frame restores the state before its review and pops the
frame; only a live session keeps the call from undoing it. -/
theorem latest_frame_restores {network : ReviewNetwork F V Logits Rows}
    (run : SoundRun network runtime) {frame : RuntimeUndoFrame F V Live (ModelState F V)}
    {rest : List (RuntimeUndoFrame F V Live (ModelState F V))}
    (latest : runtime.undoStack = frame :: rest) :
    Unchanged frame.note (frame.model.restore (modelState runtime)) ∧
      ((∃ message, UndoableProcess.undoLastProcess runtime = (.error (.error message), runtime)) ∨
        ∃ reached, UndoableProcess.undoLastProcess runtime = (.ok rest.length, reached) ∧
          reached.undoStack = rest ∧ Unchanged frame.note (modelState reached)) ∧
      (runtime.liveSession = none → runtime.pendingLiveSession = none →
        ∃ reached, UndoableProcess.undoLastProcess runtime = (.ok rest.length, reached)) := by
  have exact := sound_run_exact run
  unfold RuntimeExact at exact
  rw [latest] at exact
  have restored := (stack_undone exact).1
  refine ⟨restored, ?_, ?_⟩
  · rcases require_cases "undo_last_process" runtime with free | ⟨message, live⟩
    · exact Or.inr ⟨_, undo_of_frame free latest, rfl, restored⟩
    · refine Or.inl ⟨message, ?_⟩
      unfold UndoableProcess.undoLastProcess
      exact bind_of_error live
  · intro closed idle
    exact ⟨_, undo_of_frame (require_idle _ ⟨closed, idle⟩) latest⟩

end Exact

end Calls

section Stray

open RwkvSrs.ExactNumbers RwkvSrs.DirectAgreement RwkvSrs.DirectPaths RwkvSrs.DirectFeatures

def noTensors : List (List (Tensor Exact)) := List.replicate srsReviewStateModules []

/-- A network that accepts everything and returns states without layers. -/
def quietNetwork : ReviewNetwork Exact Exact Unit Unit where
  reviewForward _ _ _ _ := .ok ⟨none, none, none, ⟨noTensors, noTensors, noTensors⟩⟩
  predictForward _ _ := .ok ()
  probabilityFromLogits _ := .ok ⟨1 / 2⟩
  toVec2 _ := .ok ()

theorem quiet_network_accepts : Accepts quietNetwork where
  predicts _ _ := ⟨(), ⟨1 / 2⟩, rfl, rfl⟩
  forwards _ _ := ⟨_, _, _, _, _, _, rfl, rfl⟩

/-- The encodings of the first review are stored, and nothing has been processed. -/
def encodedState : FeatureState Exact Exact :=
  { (withTorchSeed 5489 : FeatureState Exact Exact) with idEncodings := fun
      | .cardId => (∅ : ExtTreeMap Int64 (List Exact)).insert 1 (List.replicate 12 0.5)
      | .noteId => (∅ : ExtTreeMap Int64 (List Exact)).insert 2 (List.replicate 12 0.5)
      | .deckId => (∅ : ExtTreeMap Int64 (List Exact)).insert 3 (List.replicate 8 0.5)
      | .presetId => (∅ : ExtTreeMap Int64 (List Exact)).insert 4 (List.replicate 8 0.5) }

def newRnn : NativeRnn Exact := ⟨fun _ => ∅, none, fun _ => ∅, none⟩

def newRuntime (undoLimit : UInt64) : NotedRuntime Exact Exact Unit Unit :=
  ⟨encodedState, newRnn, [], undoLimit, none, none, none⟩

/-- With its encodings stored, the review can be prepared in any state, and draws none. -/
theorem stored_review_prepared {state : FeatureState Exact Exact}
    (stored : Stored state (normalizedReviewIds oneReview) idSubmodules) :
    ∃ step features, featurePrepassStep oneReview state = (.ok step, features) ∧
      step.predictFeatures ≠ [] ∧ step.processFeatures ≠ [] ∧
      features.idEncodings = state.idEncodings := by
  have drawn := encode_all_of_stored true stored
  refine ⟨_, _, prepass_ok.mpr ⟨3, 2.0, 1.0, _, _, rfl, drawn, rfl, rfl⟩, ?_, ?_, rfl⟩
  · simp [preparedStep, ← List.length_pos_iff, card_features_length]
  · simp [preparedStep, ← List.length_pos_iff, process_card_length]

theorem first_review_stored :
    Stored encodedState (normalizedReviewIds oneReview) idSubmodules := by
  intro submodule _
  cases submodule <;> simp [encodedState, oneReview, normalizedReviewIds, normalizeId,
    IdSubmodule.key]

def firstCall : NativeCall Exact Exact Unit Unit := .undoableProcess (.ok oneReview) false none

/-- The call reviews card 1 and pushes one frame that remembers the new runtime. -/
theorem first_call_pushes :
    ∃ output model begun after,
      undoableProcess quietNetwork (.ok oneReview) false none (newRuntime 30) =
        (.ok output, firstCall.perform quietNetwork (newRuntime 30)) ∧
      Begins (modelState (newRuntime 30)) begun ∧ FrameCovers begun model after ∧
      model.recurrent.ids = (1, 2, 3, 4) ∧
      firstCall.perform quietNetwork (newRuntime 30) = { putModel after (newRuntime 30) with
        undoStack := [⟨model, none, modelState (newRuntime 30)⟩] } := by
  obtain ⟨step, features, prepass, predictFeatures, processFeatures, _⟩ :=
    stored_review_prepared first_review_stored
  have materialized : Materialized (modelState (newRuntime 30)).2 := ⟨fun _ => rfl, rfl⟩
  have threads : (none : Option Nat) ≠ some 0 := by simp
  obtain ⟨output, model, after, ran, _⟩ := undoable_of_prepass quiet_network_accepts threads
    materialized prepass predictFeatures processFeatures
  have processed : undoableProcessReview quietNetwork (modelState (newRuntime 30)) (.ok oneReview)
      false none (newRuntime 30) = _ :=
    undoable_process_succeeds ⟨rfl, rfl⟩ threads (by decide) ran
  obtain ⟨begun, begins, covers, ids⟩ := undoable_input_ok ran
  have single : pushed (newRuntime 30).undoLimit
      (⟨model, none, modelState (newRuntime 30)⟩ : RuntimeUndoFrame Exact Exact Unit _)
      (newRuntime 30).undoStack = [⟨model, none, modelState (newRuntime 30)⟩] := rfl
  have performed : firstCall.perform quietNetwork (newRuntime 30) =
      (undoableProcessReview quietNetwork (modelState (newRuntime 30)) (.ok oneReview) false none
        (newRuntime 30)).2 := by
    rw [firstCall, perform_undoable]
  rw [single] at processed
  rw [performed, undoableProcess, processed]
  exact ⟨output, model, begun, after, rfl, begins, covers, ids, rfl⟩

theorem first_call_sound : SoundRun quietNetwork (firstCall.perform quietNetwork (newRuntime 30)) := by
  obtain ⟨output, model, begun, after, ran, _⟩ := first_call_pushes
  apply SoundRun.step (SoundRun.start rfl)
  constructor
  case confined =>
    intro frame top
    cases top
  case finishes =>
    intro review returnCurves numThreads same
    cases same
    rw [ran]
    rintro ⟨message, panicked⟩
    cases panicked

theorem latest_frame_restores_first_review :
    ∃ frame, (firstCall.perform quietNetwork (newRuntime 30)).undoStack = [frame] ∧
      ∃ reached, UndoableProcess.undoLastProcess (firstCall.perform quietNetwork (newRuntime 30)) =
          (.ok 0, reached) ∧ reached.undoStack = [] ∧
        Unchanged frame.note (modelState reached) := by
  obtain ⟨output, model, begun, after, _, _, _, _, stacked⟩ := first_call_pushes
  have latest := congrArg NativeRuntime.undoStack stacked
  obtain ⟨_, ⟨message, refused⟩ | ⟨reached, undone, popped, restored⟩, finishes⟩ :=
    latest_frame_restores first_call_sound latest
  · obtain ⟨reached, undone⟩ := finishes (by rw [stacked]; rfl) (by rw [stacked]; rfl)
    cases refused.symm.trans undone
  · exact ⟨_, latest, reached, undone, popped, restored⟩

/-- A prepared row of card 9. -/
def strayRow : PreparedRow Exact := preparePredictRow encodedState { oneReview with cardId := 9 }

def strayCall : NativeCall Exact Exact Unit Unit := .recordRecurrentStateUpdate (.ok strayRow)

theorem stray_call_records (runtime : NotedRuntime Exact Exact Unit Unit)
    (idle : runtime.liveSession = none ∧ runtime.pendingLiveSession = none) :
    strayCall.perform quietNetwork runtime =
      { runtime with deterministic := recordRecurrentIds (9, 2, 3, 4) runtime.deterministic } := by
  have free := require_idle "record_recurrent_state_update" idle
  have read := (row_ids_of_int (predict_row_id encodedState { oneReview with cardId := 9 })).1
  change (recordRecurrentStateUpdate (.ok strayRow) runtime).2 = _
  unfold recordRecurrentStateUpdate guardedCall
  rw [bind_of_ok free, bind_of_ok (lift_ok _ _), discarded]
  unfold onDeterministic onPart DeterministicState.recordRecurrentStateUpdate
  rw [show rowIds (getI64 strayRow) = _ from read]
  rfl

/-- Recording the keys of card 9 neither pushes a frame nor clears the stack, so undoing the
review of card 1 leaves the key of card 9 behind. -/
theorem stray_key_survives_undo :
    ∃ frame, (strayCall.perform quietNetwork
        (firstCall.perform quietNetwork (newRuntime 30))).undoStack = [frame] ∧
      frame.note = modelState (newRuntime 30) ∧
      ¬Unchanged frame.note (frame.model.restore (modelState
        (strayCall.perform quietNetwork (firstCall.perform quietNetwork (newRuntime 30))))) := by
  obtain ⟨output, model, begun, after, _, begins, covers, ids, stacked⟩ := first_call_pushes
  have idle : (firstCall.perform quietNetwork (newRuntime 30)).liveSession = none ∧
      (firstCall.perform quietNetwork (newRuntime 30)).pendingLiveSession = none := by
    rw [stacked]
    exact ⟨rfl, rfl⟩
  rw [stray_call_records _ idle, stacked]
  refine ⟨⟨model, none, modelState (newRuntime 30)⟩, rfl, rfl, ?_⟩
  intro unchanged
  obtain ⟨row, captured, _⟩ := covers.row
  have other : model.deterministic.recurrentKeys.ids.1 ≠ 9 := by
    rw [ReviewUndo.captured_key_ids captured, ids]
    decide
  have stray := (ReviewUndo.restore_other_card_key
    (recordRecurrentIds (9, 2, 3, 4) after.1) other).mpr (by simp [recordRecurrentIds])
  have left : (9 : Int64) ∈ encodedState.recurrentStateKeys.cardStates := by
    rw [← show _ = encodedState from unchanged.features]
    exact stray
  simp [encodedState, withTorchSeed, RecurrentStateKeys.empty] at left

end Stray

end RwkvSrs.NativeCalls
