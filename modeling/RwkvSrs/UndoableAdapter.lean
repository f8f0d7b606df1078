import RwkvSrs.HistoryDigest
import RwkvSrs.LiveAnswers

/-!
The undoable calls of the Python adapter. Two nested layers guard each of them:
both compare the undo depth before the native call with the depth when an
exception arrives, and undo once where it has grown. The history metadata is
kept in the adapter, with a stack of its own beside the native one.
-/

namespace RwkvSrs.UndoableAdapter

open Std RwkvSrs.FallibleMethod RwkvSrs.FeatureScaling RwkvSrs.ReviewInput
open RwkvSrs.DeterministicState RwkvSrs.NativeRnnState RwkvSrs.BatchJournal
open RwkvSrs.ReviewProcessing RwkvSrs.UndoableProcess RwkvSrs.LiveTypes RwkvSrs.LiveSessionState
open RwkvSrs.LiveSessionOperations RwkvSrs.LiveUndoFrame RwkvSrs.LiveUndoEdits
open RwkvSrs.LiveAnswers RwkvSrs.ReviewMappings
open RwkvSrs.HistoryDigest (HistoryMetadata chainDigest Digest)

set_option autoImplicit false
set_option linter.unusedSectionVars false

/-- What a frame remembers of the moment before its review. -/
structure Moment (F V : Type) where
  model : ModelState F V
  metadata : HistoryMetadata

/-- The native runtime and the metadata around it; the latest metadata of the stack comes first. -/
structure Adapter (F V : Type) where
  runtime : LiveRuntime F V (Moment F V)
  metadata : HistoryMetadata
  undoMetadataStack : List HistoryMetadata

/-- The places after a native call at which an exception can arrive: while its result is
converted, while the review id is normalized, and between the steps on the metadata. -/
inductive FaultPoint where
  | conversion
  | reviewId
  | reviewIdAssigned
  | digestAssigned
  | countAssigned
  | appended
deriving DecidableEq

/-- The exceptions of one call, with their texts. -/
abbrev Faults := FaultPoint → Option String

/-- A review as the adapter hands it on: the native parse of its row, the next digest of a tracked
history, and its normalized id. -/
structure AdapterReview (F : Type) where
  input : Except String (ReviewInput F)
  nextHistoryDigest : String → Except String String
  lastReviewId : PyValue

variable {F V Logits Rows Value : Type}

def moment (adapter : Adapter F V) : Moment F V :=
  ⟨modelState adapter.runtime, adapter.metadata⟩

def onRuntime : Method (LiveRuntime F V (Moment F V)) Value → Method (Adapter F V) Value :=
  onPart Adapter.runtime fun runtime adapter => { adapter with runtime := runtime }

def raiseAt (faults : Faults) (point : FaultPoint) : Method (Adapter F V) Unit :=
  match faults point with
  | some message => fail (.error message)
  | none => pure ()

def requireNoActiveLiveSession (operation : String) : Method (Adapter F V) Unit := do
  if (← current).runtime.liveSession.isSome then
    fail (.error (operation ++ " cannot mutate the runtime while a live prediction session is " ++
      "active; use the live-session operation or close it first."))

def putMetadata (change : HistoryMetadata → HistoryMetadata) : Method (Adapter F V) Unit :=
  update fun adapter => { adapter with metadata := change adapter.metadata }

/-- `_chain_digest` before the native call, when a digest is tracked. -/
def nextHistoryDigest (review : AdapterReview F) (metadata : HistoryMetadata) :
    Except String (Option String) :=
  match metadata.historyDigest with
  | none => .ok none
  | some digest => some <$> review.nextHistoryDigest digest

def trimUndoMetadataStack : Method (Adapter F V) Unit :=
  update fun adapter =>
    if adapter.runtime.undoLimit.toNat < adapter.undoMetadataStack.length then
      { adapter with
        undoMetadataStack := adapter.undoMetadataStack.take adapter.runtime.undoLimit.toNat }
    else adapter

/-- The steps on the metadata after an undoable review. -/
def recordUndoable (faults : Faults) (review : AdapterReview F) (nextDigest : Option String)
    (previous : HistoryMetadata) : Method (Adapter F V) Unit := do
  raiseAt faults .reviewId
  putMetadata fun metadata => { metadata with lastReviewId := review.lastReviewId }
  raiseAt faults .reviewIdAssigned
  match nextDigest with
  | none => pure ()
  | some digest =>
      putMetadata fun metadata => { metadata with historyDigest := some digest }
      raiseAt faults .digestAssigned
      putMetadata fun metadata =>
        { metadata with processedReviewCount := metadata.processedReviewCount + 1 }
  raiseAt faults .countAssigned
  update fun adapter => { adapter with undoMetadataStack := previous :: adapter.undoMetadataStack }
  raiseAt faults .appended
  trimUndoMetadataStack

def clearUndoHistory : Method (Adapter F V) Unit := do
  let hadUndoHistory := ! (← current).undoMetadataStack.isEmpty
  update fun adapter => { adapter with undoMetadataStack := [] }
  if hadUndoHistory then
    let _ ← onRuntime UndoableProcess.clearUndoHistory

section Undoable

variable [Float64Ops F] [Float32Ops V] [FeatureFloat F V]

/-- `except Exception: if self.undo_depth() > undo_depth_before: ...; raise` -/
def undoingIfDeeper (undo : Method (LiveRuntime F V (Moment F V)) Unit)
    (step : Method (Adapter F V) Value) : Method (Adapter F V) Value :=
  restoringOnError (fun before reached =>
    if before.runtime.undoStack.length < reached.runtime.undoStack.length then
      { reached with runtime := (undo reached.runtime).2 }
    else reached) step

def dropResult {State : Type} (step : Method State Value) : Method State Unit := do
  let _ ← step
  return ()

/-- The inner layer, `undoable_process_row`. -/
def undoableProcessRow (network : ReviewNetwork F V Logits Rows) (faults : Faults)
    (review : AdapterReview F) (returnCurves : Bool) (numThreads : Option Nat) :
    Method (Adapter F V) (F × Option (Rows × Rows)) := do
  let adapter ← current
  if adapter.runtime.undoLimit = 0 then
    fail (.error "undoable_process is disabled because undo_limit=0.")
  else
    undoingIfDeeper (dropResult UndoableProcess.undoLastProcess) do
      let output ← onRuntime (undoableProcessReview network (moment adapter) review.input
        returnCurves numThreads)
      raiseAt faults .conversion
      return output

/-- The outer layer, `undoable_process`; `checks` are its checks of the row. -/
def undoableProcess (network : ReviewNetwork F V Logits Rows) (faults : Faults)
    (checks : Except String Unit) (review : AdapterReview F) (returnCurves : Bool)
    (numThreads : Option Nat) : Method (Adapter F V) (F × Option (Rows × Rows)) := do
  requireNoActiveLiveSession "undoable_process"
  let adapter ← current
  if adapter.runtime.undoLimit = 0 then
    fail (.error "undoable_process is disabled because undo_limit=0.")
  else
    lift checks
    let nextDigest ← lift (nextHistoryDigest review adapter.metadata)
    undoingIfDeeper (dropResult UndoableProcess.undoLastProcess) do
      let output ← undoableProcessRow network faults review returnCurves numThreads
      recordUndoable faults review nextDigest adapter.metadata
      return output

def undoLastProcess : Method (Adapter F V) Nat := do
  requireNoActiveLiveSession "undo_last_process"
  match (← current).undoMetadataStack with
  | [] => fail (.error "No undoable process is available.")
  | previous :: rest => fun adapter =>
      match UndoableProcess.undoLastProcess adapter.runtime with
      | (.ok remaining, runtime) =>
          if remaining ≠ rest.length then
            ((dropResult clearUndoHistory >>= fun _ =>
              fail (.error "Rust undo history and Python metadata history diverged."))
                ⟨runtime, previous, rest⟩)
          else (.ok remaining, ⟨runtime, previous, rest⟩)
      | (.error (.panic message), runtime) =>
          (.error (.panic message), { adapter with runtime := runtime })
      | (.error (.error _), runtime) =>
          (.error (.error "No undoable process is available."),
            { adapter with runtime := runtime, undoMetadataStack := [] })

end Undoable

section Live

variable [Float64Ops F] [Float32Ops V] [FeatureFloat F V] [SessionFloat F] [DecidableEq F]

/-- `_require_open`: an open facade holds the token of the session in the runtime. -/
def requireOpen : Method (Adapter F V) UInt64 := do
  match (← current).runtime.liveSession with
  | none => fail (.error "live prediction session is closed")
  | some session => return session.token

/-- The inner layer, `live_process_answer`. -/
def liveProcessRow (network : ReviewNetwork F V Logits Rows) (faults : Faults) (token : UInt64)
    (review : AdapterReview F) (requeueAfterPrediction returnCurves : Bool)
    (numThreads : Option Nat) :
    Method (Adapter F V) ((F × Option (Rows × Rows)) × UInt64) := do
  let adapter ← current
  undoingIfDeeper (dropResult (LiveAnswers.liveUndoLastProcess token)) do
    let answered ← onRuntime (LiveAnswers.liveProcessAnswer network (moment adapter) token
      review.input requeueAfterPrediction numThreads returnCurves)
    raiseAt faults .conversion
    return answered

/-- The outer layer, `_live_process_answer`. -/
def liveProcessAnswer (network : ReviewNetwork F V Logits Rows) (faults : Faults)
    (checks : Except String Unit) (review : AdapterReview F)
    (requeueAfterPrediction returnCurves : Bool) (numThreads : Option Nat) :
    Method (Adapter F V) ((F × Option (Rows × Rows)) × UInt64) := do
  let token ← requireOpen
  let adapter ← current
  if adapter.runtime.undoLimit = 0 then
    fail (.error "live process_answer is disabled because undo_limit=0.")
  else
    lift checks
    let nextDigest ← lift (nextHistoryDigest review adapter.metadata)
    undoingIfDeeper (dropResult (LiveAnswers.liveUndoLastProcess token)) do
      let answered ← liveProcessRow network faults token review requeueAfterPrediction returnCurves
        numThreads
      recordUndoable faults review nextDigest adapter.metadata
      return answered

def liveUndoLastProcess : Method (Adapter F V) (Nat × UInt64) := do
  let token ← requireOpen
  match (← current).undoMetadataStack with
  | [] => fail (.error "No live-session process is available to undo.")
  | previous :: rest => fun adapter =>
      match LiveAnswers.liveUndoLastProcess token adapter.runtime with
      | (.ok (remaining, generation), runtime) =>
          if remaining ≠ rest.length then
            (.error (.error "Rust live undo history and Python metadata history diverged."),
              ⟨runtime, previous, []⟩)
          else (.ok (remaining, generation), ⟨runtime, previous, rest⟩)
      | (.error (.panic message), runtime) =>
          (.error (.panic message), { adapter with runtime := runtime })
      | (.error (.error _), runtime) =>
          (.error (.error "No live-session process is available to undo."),
            { adapter with runtime := runtime, undoMetadataStack := [] })

/-- The calls of a session that leave the metadata alone. -/
def liveEdit (edit : LiveEdit F) (prediction : Method (ModelState F V) Unit) :
    Method (Adapter F V) Unit := do
  let token ← requireOpen
  onRuntime (LiveAnswers.liveEdit token edit prediction)

def replaceCandidates (seeds : List (LiveCandidateSeed F)) (predict : Predictor F)
    (prediction : Method (ModelState F V) Unit) : Method (Adapter F V) Unit := do
  let token ← requireOpen
  onRuntime (liveReplaceCandidates token seeds predict prediction)
  update fun adapter => { adapter with undoMetadataStack := [] }

/-- The session of `predict_many_live_session`, and its initial predictions. -/
structure LiveOpening (F V : Type) where
  settings : LiveSessionSettings
  seeds : List (LiveCandidateSeed F)
  targetTimestampSeconds : F
  targetDayOffset : F
  predict : Predictor F
  prediction : Method (ModelState F V) Unit
  /-- The conversion of the initial result and the facade around it. -/
  facade : Except String Unit

/-- Any exception between creation and finalization aborts the pending session. -/
def predictManyLiveSession (opening : LiveOpening F V) : Method (Adapter F V) Unit := do
  if (← current).runtime.liveSession.isSome then return ()
  else
    onRuntime (createLivePredictionSession (createLiveSession opening.settings opening.seeds
      opening.targetTimestampSeconds opening.targetDayOffset opening.predict) opening.prediction)
    restoringOnError (fun _ reached => (onRuntime abortLivePredictionSession reached).2) do
      lift opening.facade
      onRuntime finalizeLivePredictionSession
    update fun adapter => { adapter with undoMetadataStack := [] }

/-- `_close_live_session`, which drops the metadata in any case. -/
def closeLiveSession : Method (Adapter F V) Unit := do
  match (← current).runtime.liveSession with
  | none => return ()
  | some session => fun adapter =>
      let (result, reached) := onRuntime (closeLivePredictionSession session.token) adapter
      (result, { reached with undoMetadataStack := [] })

end Live

def putMoment (held : Moment F V) (adapter : Adapter F V) : Adapter F V :=
  { adapter with runtime := putModel held.model adapter.runtime, metadata := held.metadata }

/-- `process`, `process_many` and `build_state_only` in every mode: after their own checks the
history is cleared; after the checks of the native call so is the native stack, and only then is
anything of the model or the metadata written. -/
def clearingCall (operation : String) (checks nativeChecks : Except String Unit)
    (body : Method (Moment F V) Value) : Method (Adapter F V) Value := do
  requireNoActiveLiveSession operation
  lift checks
  clearUndoHistory
  lift nativeChecks
  onRuntime RuntimeRestore.clearUndoStack
  onPart moment putMoment body

/-- `predict`, `predict_many`, the fingerprint, saving and the GPU caches. -/
def readingCall (body : Method (ModelState F V) Value) : Method (Adapter F V) Value :=
  onRuntime (onModel body)

end RwkvSrs.UndoableAdapter
