import RwkvSrs.BulkStateBatch
import RwkvSrs.BulkStreamPlan

/-!
The bulk executor of one module. Streams that start without a state and have one
row are run together in one batch, streams with several rows are run together
row after row as long as they last, and every other stream is run by itself.
Rows are written to the outputs at their own place whichever way they were run.
-/

namespace RwkvSrs.BulkExecution

open Std RwkvSrs.ResultSteps RwkvSrs.DeterministicState RwkvSrs.ModuleState RwkvSrs.NativeRnnState
open RwkvSrs.StrideBlocks RwkvSrs.BulkStateBatch RwkvSrs.PipelineLine RwkvSrs.BulkStreamPlan

set_option autoImplicit false

variable {F V Curve : Type}

structure BulkConfig where
  newSingletonBatchValues : Bool
  newSingletonStateViews : Bool
  deckPersistentFrontierValues : Bool
  cardNotePersistentFrontierValues : Bool
  cardNotePersistentFrontierBatchSize : Nat
  inPlaceStateCompaction : Bool

/-- The forwards of a module take the values and the states of a whole batch at once. -/
structure BulkNetwork (F V Curve : Type) where
  channels : Nat
  features2cardForward : List V → Except String (List V)
  predictForwardValues : SrsModule → List V → (batchSize : Nat) →
    Option (BulkWorkingModuleState V) → Except String (List V)
  forwardValues : SrsModule → List V → (batchSize : Nat) → Option (BulkWorkingModuleState V) →
    Except String (List V × TimeLayers V × ChannelLayers V)
  predictionProbabilities : List (List V) → Except String (List F)
  curveOutputs : List (List V) → Except String (List Curve)

def moduleName : SrsModule → String
  | .keyed entity => entity.name
  | .global => "global"

/-- The rows stored so far, each at its own place. -/
structure OrderedModuleRows (V : Type) where
  channels : Nat
  rows : List (Option (List V))

def OrderedModuleRows.new (rowCount channels : Nat) : OrderedModuleRows V :=
  ⟨channels, List.replicate rowCount none⟩

def OrderedModuleRows.storeValues (outputs : OrderedModuleRows V) (rowIndex : Nat) (row : List V)
    (name fieldName : String) : Except String (OrderedModuleRows V) :=
  if rowIndex ≥ outputs.rows.length then
    .error s!"{name} bulk {fieldName} row {rowIndex} is out of bounds"
  else if row.length ≠ outputs.channels then
    .error (s!"{name} bulk {fieldName} expected {outputs.channels} row values, " ++
      s!"got {row.length}")
  else .ok { outputs with rows := outputs.rows.set rowIndex (some row) }

def OrderedModuleRows.finishOutput (outputs : OrderedModuleRows V) (name fieldName : String) :
    Except String (List (List V)) :=
  outputs.rows.zipIdx.mapM fun (row, rowIndex) =>
    match row with
    | some row => .ok row
    | none => .error s!"{name} bulk {fieldName} missing row {rowIndex}"

structure BulkModuleProgress (V : Type) where
  queryOutputs : OrderedModuleRows V
  processOutputs : OrderedModuleRows V
  keyedFinalStates : List (Int64 × NativeRnnModuleState V)
  skipStreams : List Bool

def BulkModuleProgress.storeRow (progress : BulkModuleProgress V) (module : SrsModule)
    (rowIndex : Nat) (query process : List V) : Except String (BulkModuleProgress V) := do
  let name := moduleName module
  let queryOutputs ← progress.queryOutputs.storeValues rowIndex query name "query_outputs"
  let processOutputs ← progress.processOutputs.storeValues rowIndex process name "process_outputs"
  return { progress with queryOutputs, processOutputs }

/-- The stream is done: its final state is kept and the loop over streams passes it by. -/
def BulkModuleProgress.finishStream (progress : BulkModuleProgress V) (streamIndex : Nat)
    (key : Int64) (state : NativeRnnModuleState V) : BulkModuleProgress V :=
  { progress with
    keyedFinalStates := progress.keyedFinalStates ++ [(key, state)]
    skipStreams := progress.skipStreams.set streamIndex true }

structure BulkModuleInput (V : Type) where
  queryRows : List (List V)
  processRows : List (List V)

structure BatchOutput (V : Type) where
  queryValues : List V
  processValues : List V
  timeStateByLayer : TimeLayers V
  channelStateByLayer : ChannelLayers V

/-- The rows are in range, since the plan and the inputs were checked to have as many rows. -/
def batchValues (rows : List (List V)) (rowIndices : List Nat) : List V :=
  rowIndices.flatMap fun rowIndex => rows.getD rowIndex []

variable (config : BulkConfig) (network : BulkNetwork F V Curve) (module : SrsModule)

def forwardBatch (input : BulkModuleInput V) (rowIndices : List Nat)
    (state : Option (BulkWorkingModuleState V)) : Except String (BatchOutput V) := do
  let batchSize := rowIndices.length
  let query ← network.predictForwardValues module (batchValues input.queryRows rowIndices)
    batchSize state
  let (process, time, channel) ← network.forwardValues module
    (batchValues input.processRows rowIndices) batchSize state
  return ⟨query, process, time, channel⟩

def checkBatchValues (batch : String) (expected : Nat) (output : BatchOutput V) :
    Except String Unit :=
  if output.queryValues.length ≠ expected then
    .error (s!"{moduleName module} {batch} query batch expected {expected} values, " ++
      s!"got {output.queryValues.length}")
  else if output.processValues.length ≠ expected then
    .error (s!"{moduleName module} {batch} process batch expected {expected} values, " ++
      s!"got {output.processValues.length}")
  else .ok ()

def storeBatchRow (output : BatchOutput V) (progress : BulkModuleProgress V)
    (batchIndex rowIndex : Nat) : Except String (BulkModuleProgress V) :=
  progress.storeRow module rowIndex
    (slice output.queryValues (batchIndex * network.channels) network.channels)
    (slice output.processValues (batchIndex * network.channels) network.channels)

def batchRowState (output : BatchOutput V) (batchIndex batchSize : Nat) :
    Except String (NativeRnnModuleState V) := do
  let flatState ← flatWorkingModuleStateBatchRow output.timeStateByLayer
    output.channelStateByLayer batchIndex batchSize
  nativeModuleStateFromFlatWorking flatState

structure SingletonCandidate where
  streamIndex : Nat
  key : Int64
  row : Nat

def missingStateKey : String := s!"{moduleName module} stream is missing a state key"

def singletonCandidates (plan : BulkModuleStreamPlan) : Except String (List SingletonCandidate) :=
  plan.streams.zipIdx.foldlM (fun candidates (stream, streamIndex) =>
    match stream.startsExisting, stream.rows with
    | false, [row] =>
        match stream.key with
        | some key => .ok (candidates ++ [⟨streamIndex, key, row⟩])
        | none => .error (missingStateKey module)
    | _, _ => .ok candidates) []

def finishSingletonView (output : BatchOutput V) (states : List (NativeRnnModuleState V))
    (progress : BulkModuleProgress V) (candidate : SingletonCandidate × Nat) :
    Except String (BulkModuleProgress V) := do
  let (candidate, batchIndex) := candidate
  let progress ← storeBatchRow network module output progress batchIndex candidate.row
  match states[batchIndex]? with
  | some state => return progress.finishStream candidate.streamIndex candidate.key state
  | none => .error s!"{moduleName module} singleton state-view batch produced too few states"

def finishSingletonRow (output : BatchOutput V) (batchSize : Nat)
    (progress : BulkModuleProgress V) (candidate : SingletonCandidate × Nat) :
    Except String (BulkModuleProgress V) := do
  let (candidate, batchIndex) := candidate
  let progress ← storeBatchRow network module output progress batchIndex candidate.row
  let state ← batchRowState output batchIndex batchSize
  return progress.finishStream candidate.streamIndex candidate.key state

def executeNewSingletonStreamBatchValues (plan : BulkModuleStreamPlan) (input : BulkModuleInput V)
    (progress : BulkModuleProgress V) : Except String (BulkModuleProgress V) := do
  let candidates ← singletonCandidates module plan
  let batchSize := candidates.length
  if batchSize < 2 then return progress
  else do
    let output ← forwardBatch network module input (candidates.map (·.row)) none
    checkBatchValues module "singleton" (batchSize * network.channels) output
    if config.newSingletonStateViews then do
      let states ← nativeModuleStatesFromBatchedFlatWorking output.timeStateByLayer
        output.channelStateByLayer batchSize
      let progress ←
        candidates.zipIdx.foldlM (finishSingletonView network module output states) progress
      if states.length > batchSize then
        .error s!"{moduleName module} singleton state-view batch produced too many states"
      else return progress
    else candidates.zipIdx.foldlM (finishSingletonRow network module output batchSize) progress

def bulkPersistentFrontierMinRows : Nat := 4

structure BulkPersistentFrontierCandidate where
  streamIndex : Nat
  key : Int64
  rows : List Nat

def initialModuleState (rnn : NativeRnn V) (key : Option Int64) :
    Option (NativeRnnModuleState V) :=
  match module with
  | .keyed entity => key.bind fun key => (rnn.states entity)[key]?
  | .global => rnn.globalState

/-- The streams of a group, each with its initial state where the group starts from states. -/
def frontierCandidates (rnn : NativeRnn V) (plan : BulkModuleStreamPlan) (startsExisting : Bool)
    (skipStreams : List Bool) : Except String
      (List (BulkPersistentFrontierCandidate × Option (NativeRnnModuleState V))) :=
  plan.streams.zipIdx.foldlM (fun candidates (stream, streamIndex) =>
    if skipStreams.getD streamIndex false ∨ stream.startsExisting ≠ startsExisting ∨
        stream.rows.length < bulkPersistentFrontierMinRows then .ok candidates
    else
      match stream.key with
      | none => .error (missingStateKey module)
      | some key =>
          let candidate := BulkPersistentFrontierCandidate.mk streamIndex key stream.rows
          if startsExisting then
            match initialModuleState module rnn stream.key with
            | some state => .ok (candidates ++ [(candidate, some state)])
            | none => .error s!"{moduleName module} stream {key} is missing initial state"
          else .ok (candidates ++ [(candidate, none)])) []

structure FrontierDepth (V : Type) where
  progress : BulkModuleProgress V
  continuing : List (BulkPersistentFrontierCandidate × Nat)

/-- A candidate's row at a depth; it stays active only while it has one. -/
def finishFrontierRow (output : BatchOutput V) (batchSize depth : Nat) (turn : FrontierDepth V)
    (active : BulkPersistentFrontierCandidate × Nat) : Except String (FrontierDepth V) := do
  let (candidate, batchIndex) := active
  let progress ← storeBatchRow network module output turn.progress batchIndex
    (candidate.rows.getD depth 0)
  if depth + 1 = candidate.rows.length then do
    let state ← batchRowState output batchIndex batchSize
    return ⟨progress.finishStream candidate.streamIndex candidate.key state, turn.continuing⟩
  else return ⟨progress, turn.continuing ++ [(candidate, batchIndex)]⟩

/-- The loop over depths; it ends with the longest candidate, whose rows bound the turns left. -/
def executeFrontierDepths (input : BulkModuleInput V) : Nat → Nat →
    List BulkPersistentFrontierCandidate → Option (BulkWorkingModuleState V) →
    BulkModuleProgress V → Except String (BulkModuleProgress V)
  | 0, _, _, _, progress => .ok progress
  | turns + 1, depth, active, state, progress =>
      if active.isEmpty then .ok progress
      else do
        let batchSize := active.length
        let output ← forwardBatch network module input
          (active.map fun candidate => candidate.rows.getD depth 0) state
        checkBatchValues module "persistent frontier" (batchSize * network.channels) output
        let turn ← active.zipIdx.foldlM (finishFrontierRow network module output batchSize depth)
          ⟨progress, []⟩
        if turn.continuing.isEmpty then return turn.progress
        else do
          let next ← selectBatchedFlatWorkingStateRows config.inPlaceStateCompaction
            output.timeStateByLayer output.channelStateByLayer batchSize
            (turn.continuing.map Prod.snd)
          executeFrontierDepths input turns (depth + 1) (turn.continuing.map Prod.fst) (some next)
            turn.progress

def longestCandidate (candidates : List BulkPersistentFrontierCandidate) : Nat :=
  (candidates.map fun candidate => candidate.rows.length).foldl max 0

def frontierInitialState (startsExisting : Bool) (states : List (NativeRnnModuleState V)) :
    Except String (Option (BulkWorkingModuleState V)) :=
  if startsExisting then do return some (← batchedFlatWorkingModuleStateFromNative states)
  else .ok none

def executePersistentFrontierCandidateGroup (input : BulkModuleInput V) (startsExisting : Bool)
    (group : List (BulkPersistentFrontierCandidate × Option (NativeRnnModuleState V)))
    (progress : BulkModuleProgress V) : Except String (BulkModuleProgress V) := do
  let candidates := group.map Prod.fst
  let state ← frontierInitialState startsExisting (group.filterMap Prod.snd)
  executeFrontierDepths config network module input (longestCandidate candidates) 0 candidates state
    progress

/-- Slices of at most `size` candidates; a last slice of one candidate is left alone. -/
def frontierChunks {Item : Type} (size : Nat) : Nat → List Item → List (List Item)
  | 0, _ => []
  | _ + 1, [] => []
  | turns + 1, items => items.take size :: frontierChunks size turns (items.drop size)

def executePersistentFrontierGroup (rnn : NativeRnn V) (plan : BulkModuleStreamPlan)
    (input : BulkModuleInput V) (maxBatchSize : Option Nat) (startsExisting : Bool)
    (progress : BulkModuleProgress V) : Except String (BulkModuleProgress V) := do
  let candidates ← frontierCandidates module rnn plan startsExisting progress.skipStreams
  if candidates.length < 2 then return progress
  else
    let maxBatchSize := max (maxBatchSize.getD candidates.length) 2
    (frontierChunks maxBatchSize candidates.length candidates).foldlM (fun progress group =>
      if group.length < 2 then .ok progress
      else executePersistentFrontierCandidateGroup config network module input startsExisting group
        progress) progress

def executePersistentFrontierValues (rnn : NativeRnn V) (plan : BulkModuleStreamPlan)
    (input : BulkModuleInput V) (maxBatchSize : Option Nat) (progress : BulkModuleProgress V) :
    Except String (BulkModuleProgress V) :=
  match plan.kind with
  | .global => .ok progress
  | .keyed _ => do
      let progress ← executePersistentFrontierGroup config network module rnn plan input
        maxBatchSize false progress
      executePersistentFrontierGroup config network module rnn plan input maxBatchSize true progress

def executeStreamRow (input : BulkModuleInput V)
    (turn : BulkModuleProgress V × Option (BulkWorkingModuleState V)) (rowIndex : Nat) :
    Except String (BulkModuleProgress V × Option (BulkWorkingModuleState V)) := do
  let output ← forwardBatch network module input [rowIndex] turn.2
  let progress ← turn.1.storeRow module rowIndex output.queryValues output.processValues
  return (progress, some (flatBatch output.timeStateByLayer output.channelStateByLayer))

structure StreamTurn (V : Type) where
  progress : BulkModuleProgress V
  globalFinalState : Option (NativeRnnModuleState V)

def flatInitialState (state : Option (NativeRnnModuleState V)) :
    Except String (Option (BulkWorkingModuleState V)) :=
  match state with
  | some state => do return some (← flatWorkingModuleStateFromNative state true)
  | none => .ok none

def nativeFinalState (state : Option (BulkWorkingModuleState V)) :
    Except String (Option (NativeRnnModuleState V)) :=
  match state with
  | some state => do return some (← nativeModuleStateFromFlatWorking state)
  | none => .ok none

def executeStream (rnn : NativeRnn V) (input : BulkModuleInput V) (turn : StreamTurn V)
    (stream : BulkStream × Nat) : Except String (StreamTurn V) := do
  let (stream, streamIndex) := stream
  if turn.progress.skipStreams.getD streamIndex false then return turn
  else do
    let state ← flatInitialState (initialModuleState module rnn stream.key)
    let (progress, state) ←
      stream.rows.foldlM (executeStreamRow network module input) (turn.progress, state)
    let final ← nativeFinalState state
    match module with
    | .global => return ⟨progress, final⟩
    | .keyed _ =>
        match stream.key with
        | none => .error (missingStateKey module)
        | some key =>
            match final with
            | none => .error s!"{moduleName module} stream {key} produced no final state"
            | some final => return ⟨{ progress with
                keyedFinalStates := progress.keyedFinalStates ++ [(key, final)] }, turn.globalFinalState⟩

inductive BulkModuleFinalStates (V : Type) where
  | keyed (states : List (Int64 × NativeRnnModuleState V))
  | global (state : Option (NativeRnnModuleState V))

structure BulkModulePairOutput (V : Type) where
  queryOutputs : List (List V)
  processOutputs : List (List V)
  finalStates : BulkModuleFinalStates V

/-- The frontier batch size of a module, and none where its streams are not run together. -/
def frontierBatchSize : Option (Option Nat) :=
  match module with
  | .keyed .deck => if config.deckPersistentFrontierValues then some none else none
  | .keyed .card | .keyed .note =>
      if config.cardNotePersistentFrontierValues then
        some (some config.cardNotePersistentFrontierBatchSize)
      else none
  | .keyed .preset | .global => none

def singletonsBatched : Bool :=
  match module with
  | .keyed _ => config.newSingletonBatchValues
  | .global => false

def executeSingletons (plan : BulkModuleStreamPlan) (input : BulkModuleInput V)
    (progress : BulkModuleProgress V) : Except String (BulkModuleProgress V) :=
  if singletonsBatched config module then
    executeNewSingletonStreamBatchValues config network module plan input progress
  else .ok progress

def executeFrontiers (rnn : NativeRnn V) (plan : BulkModuleStreamPlan) (input : BulkModuleInput V)
    (progress : BulkModuleProgress V) : Except String (BulkModuleProgress V) :=
  match frontierBatchSize config module with
  | some maxBatchSize =>
      executePersistentFrontierValues config network module rnn plan input maxBatchSize progress
  | none => .ok progress

def executeBulkModulePair (rnn : NativeRnn V) (plan : BulkModuleStreamPlan)
    (input : BulkModuleInput V) : Except String (BulkModulePairOutput V) := do
  let rowCount := plan.rowToStream.length
  if input.queryRows.length ≠ input.processRows.length ∨ input.queryRows.length ≠ rowCount then
    .error (s!"{moduleName module} bulk module expected {rowCount} rows, " ++
      s!"got query={input.queryRows.length}, process={input.processRows.length}")
  else do
    let start := BulkModuleProgress.mk (.new rowCount network.channels)
      (.new rowCount network.channels) [] (List.replicate plan.streams.length false)
    let progress ← executeSingletons config network module plan input start
    let progress ← executeFrontiers config network module rnn plan input progress
    let turn ← plan.streams.zipIdx.foldlM (executeStream network module rnn input) ⟨progress, none⟩
    let name := moduleName module
    let queryOutputs ← turn.progress.queryOutputs.finishOutput name "query_outputs"
    let processOutputs ← turn.progress.processOutputs.finishOutput name "process_outputs"
    return ⟨queryOutputs, processOutputs, match module with
      | .global => .global turn.globalFinalState
      | .keyed _ => .keyed turn.progress.keyedFinalStates⟩

/-- `map.extend(states)`, or the new global state. -/
def applyBulkModuleFinalStates (finalStates : BulkModuleFinalStates V) (rnn : NativeRnn V) :
    NativeRnn V :=
  match module, finalStates with
  | .keyed entity, .keyed states =>
      { rnn with states := fun other =>
          if other = entity then
            states.foldl (fun map entry => map.insert entry.1 entry.2) (rnn.states entity)
          else rnn.states other }
  | .global, .global state => { rnn with globalState := state }
  | _, _ => rnn

theorem inserted_elsewhere {states : List (Int64 × NativeRnnModuleState V)}
    {map : ExtTreeMap Int64 (NativeRnnModuleState V)} {key : Int64}
    (absent : ∀ entry ∈ states, entry.1 ≠ key) :
    (states.foldl (fun map entry => map.insert entry.1 entry.2) map)[key]? = map[key]? := by
  induction states generalizing map with
  | nil => rfl
  | cons entry states ih =>
      have different := absent entry (by simp)
      rw [List.foldl_cons, ih (fun other member => absent other (List.mem_cons_of_mem _ member))]
      simp [ExtTreeMap.getElem?_insert, different]

section Keys

variable {config network module} {plan : BulkModuleStreamPlan} {input : BulkModuleInput V}
  {rnn : NativeRnn V} {progress next : BulkModuleProgress V}

def StreamKey (plan : BulkModuleStreamPlan) (key : Int64) : Prop :=
  ∃ stream ∈ plan.streams, stream.key = some key

def KeysOf (plan : BulkModuleStreamPlan) (states : List (Int64 × NativeRnnModuleState V)) : Prop :=
  ∀ entry ∈ states, StreamKey plan entry.1

theorem keys_of_snoc {states : List (Int64 × NativeRnnModuleState V)} {key : Int64}
    {state : NativeRnnModuleState V} (keys : KeysOf plan states) (own : StreamKey plan key) :
    KeysOf plan (states ++ [(key, state)]) := by
  intro entry member
  rcases List.mem_append.mp member with before | last
  · exact keys entry before
  · rw [List.mem_singleton.mp last]
    exact own

theorem stream_key_of_index {stream : BulkStream × Nat} {key : Int64}
    (member : stream ∈ plan.streams.zipIdx) (own : stream.1.key = some key) :
    StreamKey plan key :=
  ⟨stream.1, List.fst_mem_of_mem_zipIdx member, own⟩

theorem store_row_states {rowIndex : Nat} {query process : List V}
    (stored : progress.storeRow module rowIndex query process = .ok next) :
    next.keyedFinalStates = progress.keyedFinalStates := by
  obtain ⟨queryOutputs, _, stored⟩ := bind_ok.mp stored
  obtain ⟨processOutputs, _, same⟩ := bind_ok.mp stored
  cases same
  rfl

theorem singleton_candidate_keys {candidates : List SingletonCandidate}
    (found : singletonCandidates module plan = .ok candidates) :
    ∀ candidate ∈ candidates, StreamKey plan candidate.key := by
  apply fold_ok_keeps (fun candidates : List SingletonCandidate =>
    ∀ candidate ∈ candidates, StreamKey plan candidate.key) ?_ (by simp) found
  rintro before ⟨stream, streamIndex⟩ member after keys stepped
  simp only at stepped
  split at stepped
  · split at stepped
    · rename_i key own
      cases stepped
      intro candidate inside
      rcases List.mem_append.mp inside with earlier | last
      · exact keys candidate earlier
      · rw [List.mem_singleton.mp last]
        exact stream_key_of_index member own
    · cases stepped
  · cases stepped
    exact keys

theorem finish_view_keys {output : BatchOutput V} {states : List (NativeRnnModuleState V)}
    {candidate : SingletonCandidate × Nat} (own : StreamKey plan candidate.1.key)
    (keys : KeysOf plan progress.keyedFinalStates)
    (finished : finishSingletonView network module output states progress candidate = .ok next) :
    KeysOf plan next.keyedFinalStates := by
  obtain ⟨stored, step, finished⟩ := bind_ok.mp finished
  have same := store_row_states step
  split at finished
  · cases finished
    exact keys_of_snoc (same ▸ keys) own
  · cases finished

theorem finish_row_keys {output : BatchOutput V} {batchSize : Nat}
    {candidate : SingletonCandidate × Nat} (own : StreamKey plan candidate.1.key)
    (keys : KeysOf plan progress.keyedFinalStates)
    (finished : finishSingletonRow network module output batchSize progress candidate = .ok next) :
    KeysOf plan next.keyedFinalStates := by
  obtain ⟨stored, step, finished⟩ := bind_ok.mp finished
  obtain ⟨state, _, same⟩ := bind_ok.mp finished
  cases same
  exact keys_of_snoc (store_row_states step ▸ keys) own

theorem singleton_batch_keys (keys : KeysOf plan progress.keyedFinalStates)
    (executed : executeNewSingletonStreamBatchValues config network module plan input progress =
      .ok next) : KeysOf plan next.keyedFinalStates := by
  obtain ⟨candidates, found, executed⟩ := bind_ok.mp executed
  have own := singleton_candidate_keys found
  simp only at executed
  split at executed
  · cases executed
    exact keys
  · obtain ⟨output, _, executed⟩ := bind_ok.mp executed
    obtain ⟨_, _, executed⟩ := bind_ok.mp executed
    split at executed
    · obtain ⟨states, _, executed⟩ := bind_ok.mp executed
      obtain ⟨reached, folded, executed⟩ := bind_ok.mp executed
      have kept : KeysOf plan reached.keyedFinalStates := by
        apply fold_ok_keeps (fun progress : BulkModuleProgress V =>
          KeysOf plan progress.keyedFinalStates) ?_ keys folded
        intro before candidate member after keys stepped
        exact finish_view_keys (own _ (List.fst_mem_of_mem_zipIdx member)) keys stepped
      split at executed
      · cases executed
      · cases executed
        exact kept
    · apply fold_ok_keeps (fun progress : BulkModuleProgress V =>
        KeysOf plan progress.keyedFinalStates) ?_ keys executed
      intro before candidate member after keys stepped
      exact finish_row_keys (own _ (List.fst_mem_of_mem_zipIdx member)) keys stepped

theorem frontier_candidate_keys {startsExisting : Bool} {skipStreams : List Bool}
    {candidates : List (BulkPersistentFrontierCandidate × Option (NativeRnnModuleState V))}
    (found : frontierCandidates module rnn plan startsExisting skipStreams = .ok candidates) :
    ∀ candidate ∈ candidates, StreamKey plan candidate.1.key := by
  apply fold_ok_keeps (fun candidates :
      List (BulkPersistentFrontierCandidate × Option (NativeRnnModuleState V)) =>
    ∀ candidate ∈ candidates, StreamKey plan candidate.1.key) ?_ (by simp) found
  rintro before ⟨stream, streamIndex⟩ member after keys stepped
  simp only at stepped
  have pushed : ∀ (key : Int64) (state : Option (NativeRnnModuleState V)), stream.key = some key →
      ∀ candidate ∈ before ++ [(BulkPersistentFrontierCandidate.mk streamIndex key stream.rows, state)],
        StreamKey plan candidate.1.key := by
    intro key state own candidate inside
    rcases List.mem_append.mp inside with earlier | last
    · exact keys candidate earlier
    · rw [List.mem_singleton.mp last]
      exact stream_key_of_index member own
  split at stepped
  · cases stepped
    exact keys
  · split at stepped
    · cases stepped
    · rename_i key own
      split at stepped
      · split at stepped
        · cases stepped
          exact pushed key _ own
        · cases stepped
      · cases stepped
        exact pushed key _ own

structure FrontierKept (plan : BulkModuleStreamPlan) (turn : FrontierDepth V) : Prop where
  states : KeysOf plan turn.progress.keyedFinalStates
  continuing : ∀ active ∈ turn.continuing, StreamKey plan active.1.key

theorem finish_frontier_keys {output : BatchOutput V} {batchSize depth : Nat}
    {turn after : FrontierDepth V} {active : BulkPersistentFrontierCandidate × Nat}
    (own : StreamKey plan active.1.key) (kept : FrontierKept plan turn)
    (finished : finishFrontierRow network module output batchSize depth turn active = .ok after) :
    FrontierKept plan after := by
  obtain ⟨stored, step, finished⟩ := bind_ok.mp finished
  have same := store_row_states step
  split at finished
  · obtain ⟨state, _, made⟩ := bind_ok.mp finished
    cases made
    exact ⟨keys_of_snoc (same ▸ kept.states) own, kept.continuing⟩
  · cases finished
    refine ⟨same ▸ kept.states, ?_⟩
    intro other inside
    rcases List.mem_append.mp inside with earlier | last
    · exact kept.continuing other earlier
    · rw [List.mem_singleton.mp last]
      exact own

theorem frontier_depths_keys {turns depth : Nat} {active : List BulkPersistentFrontierCandidate}
    {state : Option (BulkWorkingModuleState V)} (own : ∀ one ∈ active, StreamKey plan one.key)
    (keys : KeysOf plan progress.keyedFinalStates)
    (executed : executeFrontierDepths config network module input turns depth active state progress =
      .ok next) : KeysOf plan next.keyedFinalStates := by
  induction turns generalizing depth active state progress with
  | zero =>
      cases executed
      exact keys
  | succ turns ih =>
      rw [executeFrontierDepths] at executed
      split at executed
      · cases executed
        exact keys
      · obtain ⟨output, _, executed⟩ := bind_ok.mp executed
        obtain ⟨_, _, executed⟩ := bind_ok.mp executed
        obtain ⟨turn, folded, executed⟩ := bind_ok.mp executed
        have kept : FrontierKept plan turn := by
          apply fold_ok_keeps (FrontierKept plan) ?_ ⟨keys, by simp⟩ folded
          intro before one member after kept stepped
          exact finish_frontier_keys (own _ (List.fst_mem_of_mem_zipIdx member)) kept stepped
        split at executed
        · cases executed
          exact kept.states
        · obtain ⟨selected, _, executed⟩ := bind_ok.mp executed
          apply ih ?_ kept.states executed
          intro one member
          obtain ⟨pair, inside, same⟩ := List.mem_map.mp member
          exact same ▸ kept.continuing pair inside

theorem frontier_chunk_members {Item : Type} {size turns : Nat} {items chunk : List Item}
    (member : chunk ∈ frontierChunks size turns items) : ∀ item ∈ chunk, item ∈ items := by
  induction turns generalizing items with
  | zero => cases member
  | succ turns ih =>
      cases items with
      | nil => cases member
      | cons first items =>
          simp only [frontierChunks] at member
          intro item inside
          rcases List.mem_cons.mp member with head | tail
          · exact List.mem_of_mem_take (head ▸ inside)
          · exact List.mem_of_mem_drop (ih tail item inside)

theorem frontier_group_keys {maxBatchSize : Option Nat} {startsExisting : Bool}
    (keys : KeysOf plan progress.keyedFinalStates)
    (executed : executePersistentFrontierGroup config network module rnn plan input maxBatchSize
      startsExisting progress = .ok next) : KeysOf plan next.keyedFinalStates := by
  obtain ⟨candidates, found, executed⟩ := bind_ok.mp executed
  have own := frontier_candidate_keys found
  split at executed
  · cases executed
    exact keys
  · apply fold_ok_keeps (fun progress : BulkModuleProgress V =>
      KeysOf plan progress.keyedFinalStates) ?_ keys executed
    intro before group member after keys stepped
    split at stepped
    · cases stepped
      exact keys
    · unfold executePersistentFrontierCandidateGroup at stepped
      obtain ⟨state, _, stepped⟩ := bind_ok.mp stepped
      apply frontier_depths_keys ?_ keys stepped
      intro one inside
      obtain ⟨pair, within, same⟩ := List.mem_map.mp inside
      exact same ▸ own pair (frontier_chunk_members member pair within)

theorem frontier_keys {maxBatchSize : Option Nat} (keys : KeysOf plan progress.keyedFinalStates)
    (executed : executePersistentFrontierValues config network module rnn plan input maxBatchSize
      progress = .ok next) : KeysOf plan next.keyedFinalStates := by
  unfold executePersistentFrontierValues at executed
  split at executed
  · cases executed
    exact keys
  · obtain ⟨fresh, first, second⟩ := bind_ok.mp executed
    exact frontier_group_keys (frontier_group_keys keys first) second

theorem stream_keys {turn after : StreamTurn V} {stream : BulkStream × Nat}
    (member : stream ∈ plan.streams.zipIdx) (keys : KeysOf plan turn.progress.keyedFinalStates)
    (executed : executeStream network module rnn input turn stream = .ok after) :
    KeysOf plan after.progress.keyedFinalStates := by
  unfold executeStream at executed
  simp only at executed
  split at executed
  · cases executed
    exact keys
  · obtain ⟨state, _, executed⟩ := bind_ok.mp executed
    obtain ⟨⟨reached, last⟩, folded, executed⟩ := bind_ok.mp executed
    have kept : reached.keyedFinalStates = turn.progress.keyedFinalStates := by
      apply fold_ok_keeps (fun pair : BulkModuleProgress V × Option (BulkWorkingModuleState V) =>
        pair.1.keyedFinalStates = turn.progress.keyedFinalStates) ?_ rfl folded
      intro before row _ after same stepped
      obtain ⟨output, _, stepped⟩ := bind_ok.mp stepped
      obtain ⟨stored, step, made⟩ := bind_ok.mp stepped
      cases made
      exact (store_row_states step).trans same
    obtain ⟨final, _, executed⟩ := bind_ok.mp executed
    split at executed
    · cases executed
      exact kept ▸ keys
    · split at executed
      · cases executed
      · rename_i key own
        split at executed
        · cases executed
        · cases executed
          exact keys_of_snoc (kept ▸ keys) (stream_key_of_index member own)

/-- A keyed module returns states of its plan's streams only. -/
theorem module_pair_keys {output : BulkModulePairOutput V}
    {states : List (Int64 × NativeRnnModuleState V)}
    (executed : executeBulkModulePair config network module rnn plan input = .ok output)
    (keyed : output.finalStates = .keyed states) : KeysOf plan states := by
  unfold executeBulkModulePair at executed
  simp only at executed
  split at executed
  · cases executed
  · obtain ⟨first, singletons, executed⟩ := bind_ok.mp executed
    have none : KeysOf plan ([] : List (Int64 × NativeRnnModuleState V)) := by
      intro entry member
      cases member
    have firstKeys : KeysOf plan first.keyedFinalStates := by
      unfold executeSingletons at singletons
      split at singletons
      · exact singleton_batch_keys none singletons
      · cases singletons
        exact none
    obtain ⟨second, frontier, executed⟩ := bind_ok.mp executed
    have secondKeys : KeysOf plan second.keyedFinalStates := by
      unfold executeFrontiers at frontier
      split at frontier
      · exact frontier_keys firstKeys frontier
      · cases frontier
        exact firstKeys
    obtain ⟨turn, folded, executed⟩ := bind_ok.mp executed
    have turnKeys : KeysOf plan turn.progress.keyedFinalStates := by
      apply fold_ok_keeps (fun turn : StreamTurn V =>
        KeysOf plan turn.progress.keyedFinalStates) ?_ secondKeys folded
      intro before stream member after keys stepped
      exact stream_keys member keys stepped
    obtain ⟨queryOutputs, _, executed⟩ := bind_ok.mp executed
    obtain ⟨processOutputs, _, made⟩ := bind_ok.mp executed
    cases made
    cases module with
    | global => cases keyed
    | keyed entity =>
        cases keyed
        exact turnKeys

end Keys

end RwkvSrs.BulkExecution
