import RwkvSrs.HistoryRuns
import RwkvSrs.ScopedProcessing

/-!
Runs of a runtime through a layer. Two runtimes related by a layer whose calls
are all inside the loaded scope answer every call alike, whether it returns or
fails, and stay related, with the same frames on their undo stacks.
-/

namespace RwkvSrs.ScopedRuns

open Std FallibleMethod LockstepRules FeatureScaling ReviewInput DeterministicState
open DeterministicUndo DeterministicTouch DirectFeatures ModuleState NativeRnnState BatchJournal
open ReviewProcessing ReviewUndo UndoableProcess UndoStack NativeCalls BatchedPrediction
open CheckpointReader ReviewHistory ScopedLayers ScopedProcessing HistoryRuns
open RuntimeRestore (NativeRuntime requireNoLiveSession clearUndoStack)

set_option autoImplicit false
set_option linter.unusedSectionVars false

variable {F V Logits Rows Live Session Value : Type}
  [Float64Ops F] [Float32Ops V] [ExactFeatureFloat F V]

inductive CallAnswer (F Rows : Type) where
  | processed (output : NativeProcessManyOutput F Rows)
  | built (reviews : Nat)
  | reviewed (output : F × Option (Rows × Rows))
  | undone (frames : Nat)
  | cleared (frames : Nat)
  | predicted (probability : F)

def answering (answer : Value → CallAnswer F Rows)
    (call : Method (NotedRuntime F V Live Session) Value) :
    Method (NotedRuntime F V Live Session) (CallAnswer F Rows) := do
  return answer (← call)

/-- The call with what it returns. -/
def runCall (network : ReviewNetwork F V Logits Rows) (loadedScope : Option CheckpointScope) :
    HistoryCall F → Method (NotedRuntime F V Live Session) (CallAnswer F Rows)
  | .processReviews reviews returnCurves numThreads =>
      answering .processed (clearingCall "process_reviews" (.ok ())
        (processReviewsWithState network reviews returnCurves numThreads))
  | .processReviewBatch inputs returnCurves numThreads =>
      answering .processed (clearingCall "process_review_batch"
        (requireLoadedScopes loadedScope inputs)
        (processReviewInputsWithState network inputs returnCurves numThreads))
  | .processReviewsPacked payload returnCurves numThreads =>
      answering .processed (clearingCall "process_reviews_packed" (.ok ())
        (processPackedReviewsWithState network payload returnCurves numThreads))
  | .buildStateOnlyPacked payload numThreads =>
      answering .built (clearingCall "build_state_only" (.ok ())
        (buildStateOnlyPackedWithState network payload numThreads))
  | .buildStateOnlyBatch inputs numThreads =>
      answering .built (clearingCall "build_state_only_batch"
        (requireLoadedScopes loadedScope inputs)
        (buildStateOnlyInputsWithState network inputs numThreads))
  | .undoableProcessReview review returnCurves numThreads =>
      answering .reviewed (NativeCalls.undoableProcess network review returnCurves numThreads)
  | .undoLastProcess => answering .undone UndoableProcess.undoLastProcess
  | .clearUndoHistory => answering .cleared UndoableProcess.clearUndoHistory
  | .predictProbability review numThreads =>
      answering .predicted (UndoableProcess.onModel
        (NativeCalls.predictProbability network review numThreads))

/-- The answers of the calls, and the runtime after the last of them. -/
def runCalls (network : ReviewNetwork F V Logits Rows) :
    List (HistoryCall F) → NotedRuntime F V Live Session →
      List (Except Failure (CallAnswer F Rows)) × NotedRuntime F V Live Session
  | [], runtime => ([], runtime)
  | call :: rest, runtime =>
      let (answer, reached) := runCall network runtime.loadedScope call runtime
      let (answers, last) := runCalls network rest reached
      (answer :: answers, last)

theorem answered_runtime (answer : Value → CallAnswer F Rows) (next : History F → History F)
    (call : Method (NotedRuntime F V Live Session) Value) (state : Traced F V Live Session) :
    (traced next call state).runtime = (answering answer call state.runtime).2 := by
  unfold traced answering
  rw [bind_apply]
  cases call state.runtime with
  | mk result reached =>
      cases result with
      | ok value => rfl
      | error failure => rfl

/-- A call answers in the runtime that it leaves behind in the history of a run. -/
theorem performed_runtime (network : ReviewNetwork F V Logits Rows) (call : HistoryCall F)
    (state : Traced F V Live Session) :
    (call.perform network state).runtime =
      (runCall network state.runtime.loadedScope call state.runtime).2 := by
  cases call with
  | processReviews reviews returnCurves numThreads => exact answered_runtime _ _ _ state
  | processReviewBatch inputs returnCurves numThreads => exact answered_runtime _ _ _ state
  | processReviewsPacked payload returnCurves numThreads => exact answered_runtime _ _ _ state
  | buildStateOnlyPacked payload numThreads => exact answered_runtime _ _ _ state
  | buildStateOnlyBatch inputs numThreads => exact answered_runtime _ _ _ state
  | undoableProcessReview review returnCurves numThreads => exact answered_runtime _ _ _ state
  | undoLastProcess => exact answered_runtime _ _ _ state
  | clearUndoHistory => exact answered_runtime _ _ _ state
  | predictProbability review numThreads => exact answered_runtime _ _ _ state

theorem performed_calls (network : ReviewNetwork F V Logits Rows) (calls : List (HistoryCall F))
    (state : Traced F V Live Session) :
    (calls.foldl (fun state call => call.perform network state) state).runtime =
      (runCalls network calls state.runtime).2 := by
  induction calls generalizing state with
  | nil => rfl
  | cons call rest ih =>
      rw [List.foldl_cons, ih, performed_runtime]
      rfl

def callReviews : HistoryCall F → List (ReviewInput F)
  | .processReviews reviews _ _ => reviewsOf reviews
  | .processReviewBatch inputs _ _ => inputs
  | .processReviewsPacked payload _ _ => reviewsOf payload
  | .buildStateOnlyPacked payload _ => reviewsOf payload
  | .buildStateOnlyBatch inputs _ => inputs
  | .undoableProcessReview review _ _ => reviewOf review
  | .undoLastProcess => []
  | .clearUndoHistory => []
  | .predictProbability review _ => reviewOf review

/-- Every review of the call passes the check of the scope. -/
def InsideScope (scope : CheckpointScope) (call : HistoryCall F) : Prop :=
  ∀ input ∈ callReviews call, requireLoadedScope scope input = .ok ()

def scopeIdentities (scope : CheckpointScope) : BatchIdentitySets :=
  ⟨scope.cardIds, scope.noteIds, scope.deckIds, scope.presetIds⟩

theorem scope_identities (scope : CheckpointScope) (submodule : IdSubmodule) :
    (scopeIdentities scope).of submodule = scope.idsForSubmodule submodule := by
  cases submodule with
  | cardId => rfl
  | noteId => rfl
  | deckId => rfl
  | presetId => rfl

theorem passed_covered {scope : CheckpointScope} {input : ReviewInput F}
    (passed : requireLoadedScope scope input = .ok ()) :
    Covered (scopeIdentities scope) (normalizedReviewIds input) := by
  intro submodule
  rw [scope_identities]
  apply Classical.byContradiction
  intro outside
  have listed : submodule ∈ idSubmodules := by
    cases submodule with
    | cardId => decide
    | noteId => decide
    | deckId => decide
    | presetId => decide
  have unavailable : submodule ∈ idSubmodules.filter fun submodule =>
      submodule.key (normalizedReviewIds input) ∉ scope.idsForSubmodule submodule :=
    List.mem_filter.mpr ⟨listed, decide_eq_true outside⟩
  have refused : ¬ (idSubmodules.filter fun submodule =>
      submodule.key (normalizedReviewIds input) ∉ scope.idsForSubmodule submodule).isEmpty := by
    intro none
    rw [List.isEmpty_iff.mp none] at unavailable
    cases unavailable
  unfold requireLoadedScope at passed
  dsimp only at passed
  rw [if_neg refused] at passed
  cases passed

theorem passed_scopes {scope : CheckpointScope} {inputs : List (ReviewInput F)}
    (passed : ∀ input ∈ inputs, requireLoadedScope scope input = .ok ()) :
    requireLoadedScopes (some scope) inputs = .ok () := by
  unfold requireLoadedScopes
  induction inputs with
  | nil => rfl
  | cons input rest ih =>
      change (requireLoadedScope scope input >>= fun _ => rest.forM (requireLoadedScope scope)) = _
      rw [passed input List.mem_cons_self]
      exact ih fun other member => passed other (List.mem_cons_of_mem input member)

/-- A frame without what it remembers. -/
def frameWork (frame : RuntimeUndoFrame F V Live (ModelState F V)) :
    UndoFrame F V × Option Live := (frame.model, frame.live)

structure RuntimeLaid (scope : CheckpointScope) (backing : ModelState F V)
    (part whole : NotedRuntime F V Live Session) : Prop where
  model : ModelLaid (scopeIdentities scope) backing (modelState part) (modelState whole)
  frames : whole.undoStack.map frameWork = part.undoStack.map frameWork
  inside : ∀ frame ∈ part.undoStack, FrameInside (scopeIdentities scope) frame.model
  undoLimit : whole.undoLimit = part.undoLimit
  partScope : part.loadedScope = some scope
  wholeScope : whole.loadedScope = none
  liveSession : whole.liveSession = part.liveSession
  pendingLiveSession : whole.pendingLiveSession = part.pendingLiveSession

variable {scope : CheckpointScope} {backing : ModelState F V}
  {network : ReviewNetwork F V Logits Rows}

abbrev RuntimeInStep (scope : CheckpointScope) (backing : ModelState F V)
    (step step' : Method (NotedRuntime F V Live Session) Value) : Prop :=
  Lockstep (RuntimeLaid scope backing) step step'

theorem lockstep_require (operation : String) :
    RuntimeInStep scope backing
      (requireNoLiveSession operation : Method (NotedRuntime F V Live Session) Unit)
      (requireNoLiveSession operation) := by
  intro part whole laid
  unfold requireNoLiveSession
  rw [laid.liveSession, laid.pendingLiveSession]
  split
  · exact ⟨rfl, laid⟩
  · exact ⟨rfl, laid⟩

theorem lockstep_on_model {step : Method (ModelState F V) Value}
    (lockstep : ModelInStep (scopeIdentities scope) backing step) :
    RuntimeInStep scope backing
      (UndoableProcess.onModel step : Method (NotedRuntime F V Live Session) Value)
      (UndoableProcess.onModel step) := by
  apply lockstep_on_part lockstep
  · intro part whole laid
    exact laid.model
  · intro part whole reached reached' laid related
    exact { laid with model := related }

/-- Related models and stacks of the same frames, in related runtimes. -/
theorem laid_stack {part whole : NotedRuntime F V Live Session}
    (laid : RuntimeLaid scope backing part whole) {model model' : ModelState F V}
    {stack stack' : List (RuntimeUndoFrame F V Live (ModelState F V))}
    (related : ModelLaid (scopeIdentities scope) backing model model')
    (frames : stack'.map frameWork = stack.map frameWork)
    (inside : ∀ frame ∈ stack, FrameInside (scopeIdentities scope) frame.model) :
    RuntimeLaid scope backing { putModel model part with undoStack := stack }
      { putModel model' whole with undoStack := stack' } :=
  ⟨related, frames, inside, laid.undoLimit, laid.partScope, laid.wholeScope, laid.liveSession,
    laid.pendingLiveSession⟩

theorem lockstep_clear_stack :
    RuntimeInStep scope backing
      (clearUndoStack : Method (NotedRuntime F V Live Session) Unit) clearUndoStack := by
  apply lockstep_update
  intro part whole laid
  apply laid_stack laid laid.model rfl
  intro frame member
  cases member

theorem lockstep_answering {step step' : Method (NotedRuntime F V Live Session) Value}
    (lockstep : RuntimeInStep scope backing step step') (answer : Value → CallAnswer F Rows) :
    RuntimeInStep scope backing (answering answer step) (answering answer step') := by
  apply lockstep_bind lockstep
  intro value
  exact lockstep_pure _

theorem lockstep_clearing {body : Method (ModelState F V) Value}
    (lockstep : ModelInStep (scopeIdentities scope) backing body) (operation : String)
    (check : Except String Unit) :
    RuntimeInStep scope backing
      (clearingCall operation check body : Method (NotedRuntime F V Live Session) Value)
      (clearingCall operation check body) := by
  apply lockstep_bind (lockstep_require operation)
  intro _
  apply lockstep_bind (lockstep_lift check)
  intro _
  apply lockstep_bind lockstep_clear_stack
  intro _
  exact lockstep_on_model lockstep

theorem work_pushed (undoLimit : UInt64) (frame : RuntimeUndoFrame F V Live (ModelState F V))
    (stack : List (RuntimeUndoFrame F V Live (ModelState F V))) :
    (pushed undoLimit frame stack).map frameWork =
      pushed undoLimit (frameWork frame) (stack.map frameWork) := by
  unfold pushed
  rw [List.length_cons, List.length_cons, List.length_map]
  split
  · rw [List.map_dropLast, List.map_cons]
  · rw [List.map_cons]

theorem pushed_member {Frame : Type} {undoLimit : UInt64} {frame other : Frame}
    {stack : List Frame} (member : other ∈ pushed undoLimit frame stack) :
    other = frame ∨ other ∈ stack := by
  unfold pushed at member
  split at member
  · exact List.mem_cons.mp (List.mem_of_mem_dropLast member)
  · exact List.mem_cons.mp member

theorem lockstep_push_frame {model : UndoFrame F V} (live : Option Live)
    (inside : FrameInside (scopeIdentities scope) model) (note note' : ModelState F V) :
    RuntimeInStep scope backing
      (pushFrame ⟨model, live, note⟩ : Method (NotedRuntime F V Live Session) Unit)
      (pushFrame ⟨model, live, note'⟩) := by
  apply lockstep_update
  intro part whole laid
  apply laid_stack laid laid.model
  · rw [work_pushed, work_pushed, laid.frames, laid.undoLimit]
    rfl
  · intro frame member
    rcases pushed_member member with latest | earlier
    · rw [latest]
      exact inside
    · exact laid.inside frame earlier

theorem lockstep_undoable_process {review : Except String (ReviewInput F)}
    (covered : ∀ input, review = .ok input →
      Covered (scopeIdentities scope) (normalizedReviewIds input))
    (returnCurves : Bool) (numThreads : Option Nat) :
    RuntimeInStep scope backing
      (NativeCalls.undoableProcess network review returnCurves numThreads :
        Method (NotedRuntime F V Live Session) (F × Option (Rows × Rows)))
      (NativeCalls.undoableProcess network review returnCurves numThreads) := by
  have noted : ∀ note note' : ModelState F V, RuntimeInStep scope backing
      (undoableProcessReview network note review returnCurves numThreads :
        Method (NotedRuntime F V Live Session) (F × Option (Rows × Rows)))
      (undoableProcessReview network note' review returnCurves numThreads) := by
    intro note note'
    apply lockstep_bind (lockstep_require _)
    intro _
    apply lockstep_bind (lockstep_lift _)
    intro _
    apply lockstep_read
    intro part whole laid
    rw [laid.undoLimit]
    split
    · exact lockstep_fail _
    · apply lockstep_lift_bind
      intro input given
      have inStep : ModelInStep (scopeIdentities scope) backing
          (undoableProcessInputWithState network input returnCurves numThreads) :=
        lockstep_undoable (covered input given) returnCurves numThreads
      apply lockstep_bind_run (lockstep_on_model inStep)
      intro runtime made reached ran
      obtain ⟨_, processed, _⟩ := HistoryBatches.on_part_ok ran
      obtain ⟨begun, _, covers, sameIds⟩ := undoable_input_ok processed
      obtain ⟨row, captured, found⟩ := covers.row
      rw [sameIds] at captured found
      have inside := captured_inside (covered input given) found captured
      apply lockstep_bind (lockstep_push_frame none inside note note')
      intro _
      exact lockstep_pure _
  intro part whole laid
  exact noted (modelState part) (modelState whole) part whole laid

theorem lockstep_undo_last :
    RuntimeInStep scope backing
      (UndoableProcess.undoLastProcess : Method (NotedRuntime F V Live Session) Nat)
      UndoableProcess.undoLastProcess := by
  apply lockstep_bind (lockstep_require _)
  intro _
  apply lockstep_read
  intro part whole laid
  have frames := laid.frames
  have inside := laid.inside
  cases stacked : part.undoStack with
  | nil =>
      rw [stacked, List.map_nil, List.map_eq_nil_iff] at frames
      rw [frames]
      exact lockstep_fail _
  | cons frame rest =>
      cases stacked' : whole.undoStack with
      | nil =>
          rw [stacked, stacked'] at frames
          cases frames
      | cons frame' rest' =>
          rw [stacked, stacked', List.map_cons, List.map_cons, List.cons.injEq] at frames
          have same : frame'.model = frame.model := congrArg Prod.fst frames.1
          have counted : rest'.length = rest.length := by
            have lengths := congrArg List.length frames.2
            rwa [List.length_map, List.length_map] at lengths
          rw [stacked] at inside
          apply lockstep_bind
          · apply lockstep_update
            intro one other related
            have restored := laid_frame_restored (inside frame List.mem_cons_self) related.model
            rw [same]
            apply laid_stack related restored frames.2
            intro earlier member
            exact inside earlier (List.mem_cons_of_mem frame member)
          · intro _
            rw [counted]
            exact lockstep_pure _

theorem lockstep_clear_history :
    RuntimeInStep scope backing
      (UndoableProcess.clearUndoHistory : Method (NotedRuntime F V Live Session) Nat)
      UndoableProcess.clearUndoHistory := by
  apply lockstep_bind (lockstep_require _)
  intro _
  apply lockstep_bind lockstep_clear_stack
  intro _
  exact lockstep_pure _

theorem given_covered {review : Except String (ReviewInput F)}
    (inside : ∀ input ∈ reviewOf review, requireLoadedScope scope input = .ok ()) :
    ∀ input, review = .ok input → Covered (scopeIdentities scope) (normalizedReviewIds input) := by
  intro input given
  subst given
  exact passed_covered (inside input List.mem_cons_self)

theorem payload_covered {reviews : Except String (List (ReviewInput F))}
    (inside : ∀ input ∈ reviewsOf reviews, requireLoadedScope scope input = .ok ()) :
    ∀ inputs, reviews = .ok inputs → BatchCovered (scopeIdentities scope) inputs := by
  intro inputs given input member
  subst given
  exact passed_covered (inside input (List.mem_reverse.mpr member))

theorem lockstep_prediction {review : Except String (ReviewInput F)}
    (covered : ∀ input, review = .ok input →
      Covered (scopeIdentities scope) (normalizedReviewIds input)) (numThreads : Option Nat) :
    ModelInStep (scopeIdentities scope) backing
      (NativeCalls.predictProbability network review numThreads) := by
  apply lockstep_bind (lockstep_lift _)
  intro _
  apply lockstep_bind (lockstep_rnn lockstep_materialize)
  intro _
  apply lockstep_lift_bind
  intro input given
  apply lockstep_read_features
  intro state
  rw [laid_predict_row state (covered input given .cardId)]
  have predicted := predict_row_id state input
  apply lockstep_lift_bind
  intro ids read
  rw [(row_ids_of_int predicted).2] at read
  cases read
  exact lockstep_probability (covered input given) predicted

/-- The parsed reviews of a payload go to the same batch. -/
theorem lockstep_payload {Made : Type} {reviews : Except String (List (ReviewInput F))}
    {body : List (ReviewInput F) → Method (ModelState F V) Made} (check : Except String Unit)
    (lockstep : ∀ inputs, reviews = .ok inputs →
      ModelInStep (scopeIdentities scope) backing (body inputs)) :
    ModelInStep (scopeIdentities scope) backing
      (lift check >>= fun _ => lift reviews >>= body) := by
  apply lockstep_bind (lockstep_lift check)
  intro _
  exact lockstep_lift_bind lockstep

theorem lockstep_call (call : HistoryCall F) (inside : InsideScope scope call) :
    RuntimeInStep scope backing
      (runCall network (some scope) call :
        Method (NotedRuntime F V Live Session) (CallAnswer F Rows))
      (runCall network none call) := by
  cases call with
  | processReviews reviews returnCurves numThreads =>
      apply lockstep_answering
      apply lockstep_clearing
      apply lockstep_payload
      intro inputs given
      exact lockstep_process_inputs (payload_covered inside inputs given) returnCurves numThreads
  | processReviewBatch inputs returnCurves numThreads =>
      have passed : requireLoadedScopes (some scope) inputs = .ok () := passed_scopes inside
      apply lockstep_answering
      rw [passed]
      apply lockstep_clearing
      apply lockstep_process_inputs
      intro input member
      exact passed_covered (inside input member)
  | processReviewsPacked payload returnCurves numThreads =>
      apply lockstep_answering
      apply lockstep_clearing
      apply lockstep_payload
      intro inputs given
      exact lockstep_process_inputs (payload_covered inside inputs given) returnCurves numThreads
  | buildStateOnlyPacked payload numThreads =>
      apply lockstep_answering
      apply lockstep_clearing
      apply lockstep_payload
      intro inputs given
      exact lockstep_build_inputs (payload_covered inside inputs given) numThreads
  | buildStateOnlyBatch inputs numThreads =>
      have passed : requireLoadedScopes (some scope) inputs = .ok () := passed_scopes inside
      apply lockstep_answering
      rw [passed]
      apply lockstep_clearing
      apply lockstep_build_inputs
      intro input member
      exact passed_covered (inside input member)
  | undoableProcessReview review returnCurves numThreads =>
      apply lockstep_answering
      exact lockstep_undoable_process (given_covered inside) returnCurves numThreads
  | undoLastProcess => exact lockstep_answering lockstep_undo_last _
  | clearUndoHistory => exact lockstep_answering lockstep_clear_history _
  | predictProbability review numThreads =>
      apply lockstep_answering
      apply lockstep_on_model
      exact lockstep_prediction (given_covered inside) numThreads

/-- Calls inside the scope have the same answers through the layer, one by one. -/
theorem calls_laid {calls : List (HistoryCall F)} (inside : ∀ call ∈ calls, InsideScope scope call)
    {part whole : NotedRuntime F V Live Session} (laid : RuntimeLaid scope backing part whole) :
    (runCalls network calls part).1 = (runCalls network calls whole).1 ∧
      RuntimeLaid scope backing (runCalls network calls part).2
        (runCalls network calls whole).2 := by
  induction calls generalizing part whole with
  | nil => exact ⟨rfl, laid⟩
  | cons call rest ih =>
      have inStep : RuntimeInStep scope backing
          (runCall network (some scope) call :
            Method (NotedRuntime F V Live Session) (CallAnswer F Rows)) (runCall network none call) :=
        lockstep_call call (inside call List.mem_cons_self)
      have stepped := inStep part whole laid
      rw [← laid.partScope, ← laid.wholeScope] at stepped
      have later := ih (fun other member => inside other (List.mem_cons_of_mem call member))
        stepped.2
      unfold runCalls
      exact ⟨congrArg₂ List.cons stepped.1 later.1, later.2⟩

end RwkvSrs.ScopedRuns
