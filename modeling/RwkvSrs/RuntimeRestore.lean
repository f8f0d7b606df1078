import Mathlib.Logic.Function.Basic
import RwkvSrs.FieldRestore
import RwkvSrs.NativeRnnState
import RwkvSrs.SnapshotValues

/-!
The restore entry points of a runtime. Three of them assign one field after
another from a snapshot; the identity encodings, the generator and the binary
checkpoint are read whole before anything of the runtime changes. A binary
checkpoint of the first version is loaded complete and filtered afterwards.
-/

namespace RwkvSrs.RuntimeRestore

open Std FallibleMethod FieldRestore ReviewMappings DeterministicState ModuleState NativeRnnState
open CheckpointBytes CheckpointReader SnapshotValues TorchRng

set_option autoImplicit false

structure NativeRuntime (F V Frame Session : Type) where
  deterministic : FeatureState F V
  rnn : NativeRnn V
  undoStack : List Frame
  undoLimit : UInt64
  loadedScope : Option CheckpointScope
  liveSession : Option Session
  pendingLiveSession : Option Session

section Runtime

variable {F V Frame Session : Type}

def requireNoLiveSession (operation : String) : Method (NativeRuntime F V Frame Session) Unit :=
  fun runtime =>
    if runtime.liveSession.isNone && runtime.pendingLiveSession.isNone then (.ok (), runtime)
    else
      (.error (.error (operation ++ " cannot mutate the runtime while a live prediction session " ++
        "is active; use the corresponding live-session operation or close the session first")),
        runtime)

def clearUndoStack : Method (NativeRuntime F V Frame Session) Unit :=
  update fun runtime => { runtime with undoStack := [] }

def onDeterministic {Value : Type} :
    Method (FeatureState F V) Value → Method (NativeRuntime F V Frame Session) Value :=
  onPart NativeRuntime.deterministic fun state runtime => { runtime with deterministic := state }

def onRnn {Value : Type} :
    Method (NativeRnn V) Value → Method (NativeRuntime F V Frame Session) Value :=
  onPart NativeRuntime.rnn fun rnn runtime => { runtime with rnn := rnn }

end Runtime

/-- A Python error as the runtime reports it. -/
def shown {Value : Type} (result : PyResult Value) : Except String Value :=
  match result with
  | .ok value => .ok value
  | .error error => .error error.display

abbrev SnapshotFeatures := FeatureState Binary64 Binary32

abbrev SnapshotRnn := NativeRnn Binary32

/-- A field whose value depends on the snapshot alone. -/
def fieldSlot {State Value : Type} (read : Snapshot → PyResult Value) (get : State → Value)
    (put : Value → State → State) : Slot State Snapshot where
  Value := Value
  read := fun snapshot _ => shown (read snapshot)
  get := get
  put := put

/-- The stored card count, and without one the size of the card set assigned just before. -/
def cardCountField (snapshot : Snapshot) (state : SnapshotFeatures) : PyResult UInt64 :=
  if contains snapshot "card_count" then do
    let value ← requiredI64 snapshot "card_count"
    if value < 0 then valueError "state field 'card_count' must be non-negative"
    else return value.toUInt64
  else return UInt64.ofNat state.cardSet.size

def cardCountSlot : Slot SnapshotFeatures Snapshot where
  Value := UInt64
  read := fun snapshot state => shown (cardCountField snapshot state)
  get := FeatureState.cardCount
  put := fun value state => { state with cardCount := value }

def featureStateSlots : List (Slot SnapshotFeatures Snapshot) :=
  [fieldSlot (optionalF64Field · "first_day_offset") FeatureState.firstDayOffset
      fun value state => { state with firstDayOffset := value },
    fieldSlot (optionalF64Field · "prev_day_offset") FeatureState.prevDayOffset
      fun value state => { state with prevDayOffset := value },
    fieldSlot (fun snapshot => (requiredI64Vec snapshot "card_set").map toSet) FeatureState.cardSet
      fun value state => { state with cardSet := value },
    cardCountSlot,
    fieldSlot (requiredUsizeMap · "last_new_cards") FeatureState.lastNewCards
      fun value state => { state with lastNewCards := value },
    fieldSlot (requiredI64 · "i") FeatureState.i fun value state => { state with i := value },
    fieldSlot (requiredI64Map · "last_i") FeatureState.lastI
      fun value state => { state with lastI := value },
    fieldSlot (requiredF64 · "today") FeatureState.today
      fun value state => { state with today := value },
    fieldSlot (requiredI64 · "today_reviews") FeatureState.todayReviews
      fun value state => { state with todayReviews := value },
    fieldSlot (requiredI64 · "today_new_cards") FeatureState.todayNewCards
      fun value state => { state with todayNewCards := value },
    fieldSlot (requiredF64Map · "card2first_day_offset") FeatureState.card2firstDayOffset
      fun value state => { state with card2firstDayOffset := value },
    fieldSlot (requiredF64Map · "card2elapsed_days_cumulative")
      FeatureState.card2elapsedDaysCumulative
      fun value state => { state with card2elapsedDaysCumulative := value },
    fieldSlot (requiredF64Map · "card2elapsed_seconds_cumulative")
      FeatureState.card2elapsedSecondsCumulative
      fun value state => { state with card2elapsedSecondsCumulative := value }]

def restoreFeatureStateSnapshot (snapshot : Snapshot) : Method SnapshotFeatures Unit :=
  restoreFields snapshot featureStateSlots

/-- One of the four key sets of a feature state. -/
def keySlot (field : String) (get : RecurrentStateKeys → ExtTreeSet Int64)
    (put : ExtTreeSet Int64 → RecurrentStateKeys → RecurrentStateKeys) :
    Slot SnapshotFeatures Snapshot :=
  fieldSlot (fun snapshot => (requiredI64Vec snapshot field).map toSet)
    (fun state => get state.recurrentStateKeys)
    fun value state => { state with recurrentStateKeys := put value state.recurrentStateKeys }

def recurrentKeySlots : List (Slot SnapshotFeatures Snapshot) :=
  [keySlot "card_states" RecurrentStateKeys.cardStates
      fun value keys => { keys with cardStates := value },
    keySlot "note_states" RecurrentStateKeys.noteStates
      fun value keys => { keys with noteStates := value },
    keySlot "deck_states" RecurrentStateKeys.deckStates
      fun value keys => { keys with deckStates := value },
    keySlot "preset_states" RecurrentStateKeys.presetStates
      fun value keys => { keys with presetStates := value },
    fieldSlot (requiredBool · "global_state") (fun state => state.recurrentStateKeys.globalState)
      fun value state =>
        { state with recurrentStateKeys := { state.recurrentStateKeys with globalState := value } }]

def restoreFeatureStateRecurrentKeys (snapshot : Snapshot) : Method SnapshotFeatures Unit :=
  restoreFields snapshot recurrentKeySlots

def restoreFeatureStateIdEncodings (snapshot : Snapshot) : Method SnapshotFeatures Unit := do
  let idEncodings ← lift (shown (idEncodingsFromSnapshot snapshot))
  update fun state => { state with idEncodings := idEncodings }

/-- One of the four maps of recurrent states. -/
def stateMapSlot (field : String) (entity : EntityModule) : Slot SnapshotRnn Snapshot :=
  fieldSlot (stateMapFromSnapshot · field) (fun rnn => rnn.states entity)
    fun value rnn => { rnn with states := Function.update rnn.states entity value }

def recurrentListSlots : List (Slot SnapshotRnn Snapshot) :=
  [stateMapSlot "card_states" .card,
    stateMapSlot "note_states" .note,
    stateMapSlot "deck_states" .deck,
    stateMapSlot "preset_states" .preset,
    fieldSlot (optionalEntityStateFromSnapshot · "global_state") NativeRnn.globalState
      fun value rnn => { rnn with globalState := value }]

def clearFlatCpuState {V : Type} : Method (NativeRnn V) Unit :=
  update fun rnn => { rnn with flatStates := fun _ => ∅, flatGlobalState := none }

def restoreRecurrentLists (snapshot : Snapshot) : Method SnapshotRnn Unit := do
  restoreFields snapshot recurrentListSlots
  clearFlatCpuState

def checkpointRnn (contents : CheckpointContents) : SnapshotRnn where
  states
    | .card => contents.cardStates
    | .note => contents.noteStates
    | .deck => contents.deckStates
    | .preset => contents.presetStates
  globalState := contents.globalState
  flatStates := fun _ => ∅
  flatGlobalState := none

def checkpointFeatureState (contents : CheckpointContents) (keys : RecurrentStateKeys)
    (idRng : TorchMt19937) : SnapshotFeatures where
  firstDayOffset := contents.firstDayOffset
  prevDayOffset := contents.prevDayOffset
  cardSet := contents.cardSet
  cardCount := contents.cardCount
  lastNewCards := contents.lastNewCards
  i := contents.i
  lastI := contents.lastI
  today := contents.today
  todayReviews := contents.todayReviews
  todayNewCards := contents.todayNewCards
  card2firstDayOffset := contents.card2firstDayOffset
  card2elapsedDaysCumulative := contents.card2elapsedDaysCumulative
  card2elapsedSecondsCumulative := contents.card2elapsedSecondsCumulative
  idEncodings := contents.idEncodings
  recurrentStateKeys := keys
  idRng := idRng

def canonicalKeys {V : Type} (rnn : NativeRnn V) : RecurrentStateKeys where
  cardStates := toSet (rnn.states .card).keys
  noteStates := toSet (rnn.states .note).keys
  deckStates := toSet (rnn.states .deck).keys
  presetStates := toSet (rnn.states .preset).keys
  globalState := rnn.globalState.isSome

def cpuStateKeys {V : Type} (rnn : NativeRnn V) : RecurrentStateKeys where
  cardStates := toSet ((rnn.states .card).keys ++ (rnn.flatStates .card).keys)
  noteStates := toSet ((rnn.states .note).keys ++ (rnn.flatStates .note).keys)
  deckStates := toSet ((rnn.states .deck).keys ++ (rnn.flatStates .deck).keys)
  presetStates := toSet ((rnn.states .preset).keys ++ (rnn.flatStates .preset).keys)
  globalState := rnn.globalState.isSome || rnn.flatGlobalState.isSome

def setRecurrentStateKeys {F V : Type} (state : FeatureState F V) (rnn : NativeRnn V) :
    FeatureState F V :=
  { state with recurrentStateKeys := cpuStateKeys rnn }

section Filter

variable {F V Value : Type}

def retainMap (map : ExtTreeMap Int64 Value) (ids : ExtTreeSet Int64) : ExtTreeMap Int64 Value :=
  map.filter fun identity _ => decide (identity ∈ ids)

def filterFeatureState (state : FeatureState F V) (scope : CheckpointScope) : FeatureState F V :=
  { state with
    cardSet := state.cardSet.filter fun identity => decide (identity ∈ scope.cardIds)
    lastNewCards := retainMap state.lastNewCards scope.cardIds
    lastI := retainMap state.lastI scope.cardIds
    card2firstDayOffset := retainMap state.card2firstDayOffset scope.cardIds
    card2elapsedDaysCumulative := retainMap state.card2elapsedDaysCumulative scope.cardIds
    card2elapsedSecondsCumulative := retainMap state.card2elapsedSecondsCumulative scope.cardIds
    idEncodings := fun submodule =>
      retainMap (state.idEncodings submodule) (scope.idsForSubmodule submodule) }

def CheckpointScope.idsForEntity (scope : CheckpointScope) : EntityModule → ExtTreeSet Int64
  | .card => scope.cardIds
  | .note => scope.noteIds
  | .deck => scope.deckIds
  | .preset => scope.presetIds

def filterRnn (rnn : NativeRnn V) (scope : CheckpointScope) : NativeRnn V :=
  { rnn with
    states := fun entity => retainMap (rnn.states entity) (CheckpointScope.idsForEntity scope entity) }

end Filter

section Restore

variable {Frame Session : Type}

abbrev RestoredRuntime (Frame Session : Type) := NativeRuntime Binary64 Binary32 Frame Session

def filterRuntimeState (scope : CheckpointScope) (runtime : RestoredRuntime Frame Session) :
    RestoredRuntime Frame Session :=
  let rnn := filterRnn runtime.rnn scope
  { runtime with
    rnn := rnn
    deterministic := setRecurrentStateKeys (filterFeatureState runtime.deterministic scope) rnn }

def readRuntimeStateBinV1 (cursor : Cursor) : Method (RestoredRuntime Frame Session) Unit := do
  let (contents, _) ← lift (readContentsV1 cursor)
  let idRng ← lift (fromTorchRngState contents.rngState)
  let rnn := checkpointRnn contents
  update fun runtime => { runtime with
    rnn := rnn
    deterministic := checkpointFeatureState contents (canonicalKeys rnn) idRng }

def readRuntimeStateBinV2 (scope : Option CheckpointScope) (cursor : Cursor) :
    Method (RestoredRuntime Frame Session) Unit := do
  let (contents, _) ← lift (readContentsV2 scope cursor)
  let idRng ← lift (fromTorchRngState contents.rngState)
  let rnn := checkpointRnn contents
  update fun runtime => { runtime with
    rnn := rnn
    deterministic := checkpointFeatureState contents (cpuStateKeys rnn) idRng }

def restoreRuntimeCheckpointBin (bytes : List UInt8) (scope : Option CheckpointScope) :
    Method (RestoredRuntime Frame Session) Unit := do
  let (version, cursor) ← lift (readHeader ⟨bytes, 0⟩)
  if version = legacyCheckpointBinVersion then do
    readRuntimeStateBinV1 cursor
    match scope with
    | some scope => update (filterRuntimeState scope)
    | none => pure ()
  else readRuntimeStateBinV2 scope cursor

/-- The file to restore from, or why it cannot be opened. -/
abbrev CheckpointFile := Except String (List UInt8)

def restoreCheckpointBinPath (file : CheckpointFile) (scope : Option CheckpointScope) :
    Method (RestoredRuntime Frame Session) Unit := do
  restoreRuntimeCheckpointBin (← lift file) scope

structure IdentityLists where
  cardIds : Option (List Int64)
  noteIds : Option (List Int64)
  deckIds : Option (List Int64)
  presetIds : Option (List Int64)

def checkpointScopeFromOptionalIdentityLists (lists : IdentityLists) :
    Except String (Option CheckpointScope) :=
  match lists with
  | ⟨none, none, none, none⟩ => .ok none
  | ⟨some cardIds, some noteIds, some deckIds, some presetIds⟩ =>
      .ok (some ⟨toSet cardIds, toSet noteIds, toSet deckIds, toSet presetIds⟩)
  | _ => .error "selective checkpoint restore requires all four identity lists"

def restoreSnapshot (snapshot : Snapshot) : Method (RestoredRuntime Frame Session) Unit := do
  requireNoLiveSession "restore_snapshot"
  clearUndoStack
  onDeterministic (restoreFeatureStateSnapshot snapshot)

def restoreRecurrentStateKeys (snapshot : Snapshot) :
    Method (RestoredRuntime Frame Session) Unit := do
  requireNoLiveSession "restore_recurrent_state_keys"
  clearUndoStack
  onDeterministic (restoreFeatureStateRecurrentKeys snapshot)

def restoreIdEncodingSnapshot (snapshot : Snapshot) :
    Method (RestoredRuntime Frame Session) Unit := do
  requireNoLiveSession "restore_id_encoding_snapshot"
  clearUndoStack
  onDeterministic (restoreFeatureStateIdEncodings snapshot)

def restoreRecurrentStateLists (snapshot : Snapshot) :
    Method (RestoredRuntime Frame Session) Unit := do
  requireNoLiveSession "restore_recurrent_state_lists"
  clearUndoStack
  onRnn (restoreRecurrentLists snapshot)

def restoreTorchRngState (rngState : SnapshotValue) :
    Method (RestoredRuntime Frame Session) Unit := do
  requireNoLiveSession "restore_torch_rng_state"
  let bytes ← lift (shown (torchRngStateBytes rngState))
  let idRng ← lift (fromTorchRngState bytes)
  onDeterministic (update fun state => { state with idRng := idRng })

def restoreCheckpointBin (file : CheckpointFile) (lists : IdentityLists) :
    Method (RestoredRuntime Frame Session) Unit := do
  requireNoLiveSession "restore_checkpoint_bin"
  let scope ← lift (checkpointScopeFromOptionalIdentityLists lists)
  restoreCheckpointBinPath file scope
  update fun runtime => { runtime with loadedScope := scope, undoStack := [] }

end Restore

end RwkvSrs.RuntimeRestore
