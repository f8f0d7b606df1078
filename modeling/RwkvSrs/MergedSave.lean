import RwkvSrs.CheckpointSections

/-!
Saving a scoped runtime over the file it was loaded from, without loading the
rest of that file. Each set and map of the backing file is read entry by entry
and merged with the current one; an entry of the backing file is dropped when its
identity is in the scope and replaced when the runtime holds one. The number of
entries is only known at the end, so the writer goes back and patches it.
-/

namespace RwkvSrs.MergedSave

open Std CheckpointBytes CheckpointReader CheckpointSections CheckpointWriter DeterministicState
open FallibleMethod GeneratorStates LittleEndian ModuleState NativeRnnState RuntimeRestore

set_option autoImplicit false

/-- A file being written, and where the writer stands. -/
structure Destination where
  bytes : List UInt8
  position : Nat

def Destination.write (piece : List UInt8) (file : Destination) : Destination where
  bytes := file.bytes.take file.position ++ piece ++ file.bytes.drop (file.position + piece.length)
  position := file.position + piece.length

structure MergeState where
  reader : Cursor
  writer : Destination

abbrev Merger := Method MergeState

section Files

variable {Value : Type}

def reading (read : Reader Value) : Merger Value := fun state =>
  match read state.reader with
  | .ok (value, reached) => (.ok value, { state with reader := reached })
  | .error message => (.error (.error message), state)

def binWriteAll (piece : List UInt8) : Merger Unit :=
  update fun state => { state with writer := state.writer.write piece }

def binWriteChecked (piece : Except String (List UInt8)) : Merger Unit := do
  binWriteAll (← lift piece)

def writerPosition : Merger Nat := do return (← current).writer.position

def seekWriter (position : Nat) : Merger Unit :=
  update fun state => { state with writer := { state.writer with position := position } }

end Files

def writeCountPlaceholder : Merger Nat := do
  let position ← writerPosition
  binWriteAll (binWriteU64 0)
  return position

def patchCount (position count : Nat) : Merger Unit := do
  let finish ← writerPosition
  seekWriter position
  binWriteAll (binWriteU64 count)
  seekWriter finish

section Entries

variable {Value : Type}

/-- The current entries not yet written, and the number of those that were. -/
structure MergeProgress (Value : Type) where
  pending : List (Int64 × Value)
  outputCount : Nat

/-- Writes the current entries below a key of the backing file. -/
def writeBelow (write : Int64 × Value → Merger Unit) (backingKey : Int64) :
    List (Int64 × Value) → Nat → Merger (MergeProgress Value)
  | [], outputCount => return ⟨[], outputCount⟩
  | entry :: pending, outputCount =>
      if entry.1 < backingKey then do
        write entry
        writeBelow write backingKey pending (outputCount + 1)
      else return ⟨entry :: pending, outputCount⟩

def writeUnselected (write : Int64 × Value → Merger Unit) (selected : ExtTreeSet Int64)
    (backing : Int64 × Value) (progress : MergeProgress Value) : Merger (MergeProgress Value) :=
  if backing.1 ∈ selected then return progress
  else do
    write backing
    return { progress with outputCount := progress.outputCount + 1 }

/-- One entry of the backing file. -/
def copyEntry (read : Reader (Int64 × Value)) (write : Int64 × Value → Merger Unit)
    (selected : ExtTreeSet Int64) (progress : MergeProgress Value) :
    Merger (MergeProgress Value) := do
  let backing ← reading read
  let reached ← writeBelow write backing.1 progress.pending progress.outputCount
  match reached.pending with
  | entry :: pending =>
      if entry.1 = backing.1 then do
        write entry
        return ⟨pending, reached.outputCount + 1⟩
      else writeUnselected write selected backing reached
  | [] => writeUnselected write selected backing reached

def copyEntries (read : Reader (Int64 × Value)) (write : Int64 × Value → Merger Unit)
    (selected : ExtTreeSet Int64) : Nat → MergeProgress Value → Merger (MergeProgress Value)
  | 0, progress => return progress
  | backingLen + 1, progress => do
      copyEntries read write selected backingLen (← copyEntry read write selected progress)

/-- What the sets, the maps and the encodings have in common. -/
def binCopyMerged (field : String) (read : Reader (Int64 × Value))
    (write : Int64 × Value → Merger Unit) (current : List (Int64 × Value))
    (selected : ExtTreeSet Int64) : Merger Unit := do
  let backingLen ← reading (binReadUsize field)
  let countPosition ← writeCountPlaceholder
  let progress ← copyEntries read write selected backingLen ⟨current, 0⟩
  progress.pending.forM write
  patchCount countPosition (progress.outputCount + progress.pending.length)

end Entries

def binCopyMergedI64Set (field : String) (current selected : ExtTreeSet Int64) : Merger Unit :=
  binCopyMerged field (do return (← binReadI64 field, ())) (fun entry => binWriteAll (binWriteI64 entry.1))
    (current.toList.map fun value => (value, ())) selected

def binCopyMergedI64Map {Value : Type} (field : String) (current : ExtTreeMap Int64 Value)
    (selected : ExtTreeSet Int64) (readValue : Reader Value)
    (writeValue : Value → Except String (List UInt8)) : Merger Unit :=
  binCopyMerged field
    (do
      let backingKey ← binReadI64 field
      return (backingKey, ← readValue))
    (fun entry => do
      binWriteAll (binWriteI64 entry.1)
      binWriteChecked (writeValue entry.2))
    current.toList selected

def readEncodingValues (submodule : IdSubmodule) : Reader (List Binary32) := do
  let valueCount ← binReadUsize submodule.name
  if valueCount ≠ submodule.dim then
    CheckpointBytes.fail ("id_encodings[" ++ submodule.name ++ "] expected length " ++
      toString submodule.dim ++ ", got " ++ toString valueCount)
  else readItems (fun _ => binReadF32 submodule.name) 0 valueCount

def writeEncodingValues (submodule : IdSubmodule) (values : List Binary32) :
    Except String (List UInt8) :=
  if values.length ≠ submodule.dim then
    .error ("id_encodings[" ++ submodule.name ++ "] expected length " ++ toString submodule.dim ++
      ", got " ++ toString values.length)
  else .ok (binWriteU64 values.length ++ values.flatMap binWriteF32)

def binCopyMergedSubmodule (current : IdEncodings Binary32) (scope : CheckpointScope) :
    Merger Unit := do
  let name ← reading (binReadString "id_encodings.submodule")
  match idSubmodules.find? fun submodule => submodule.name == name with
  | none => FallibleMethod.fail (.error ("unsupported id_encodings submodule \"" ++ name ++ "\""))
  | some submodule => do
      binWriteAll (binWriteString name)
      binCopyMergedI64Map ("id_encodings[" ++ name ++ "]") (current submodule)
        (scope.idsForSubmodule submodule) (readEncodingValues submodule)
        (writeEncodingValues submodule)

def copyModules (current : IdEncodings Binary32) (scope : CheckpointScope) : Nat → Merger Unit
  | 0 => return ()
  | moduleCount + 1 => do
      binCopyMergedSubmodule current scope
      copyModules current scope moduleCount

def binCopyMergedIdEncodings (current : IdEncodings Binary32) (scope : CheckpointScope) :
    Merger Unit := do
  let moduleCount ← reading (binReadUsize "id_encodings")
  binWriteAll (binWriteU64 moduleCount)
  copyModules current scope moduleCount

inductive MergedStateEntry where
  | backing (offset byteLen : Nat)
  | current (state : NativeRnnModuleState Binary32)
  | flat (state : FlatNativeRnnModuleState Binary32)

abbrev MergedEntries := ExtTreeMap Int64 MergedStateEntry

/-- The backing entries that are kept, and where the data of all of them ends. -/
def collectBacking (field : String) (selected : ExtTreeSet Int64) :
    List (Int64 × Nat) → Nat → MergedEntries → Except String (MergedEntries × Nat)
  | [], offset, entries => .ok (entries, offset)
  | (identity, byteLen) :: index, offset, entries =>
      let kept :=
        if identity ∈ selected then entries
        else entries.insert identity (.backing offset byteLen)
      if 2 ^ 64 ≤ offset + byteLen then .error (field ++ " offset overflow")
      else collectBacking field selected index (offset + byteLen) kept

def collectCurrent (entries : MergedEntries)
    (current : ExtTreeMap Int64 (NativeRnnModuleState Binary32)) : MergedEntries :=
  current.toList.foldl (fun entries entry => entries.insert entry.1 (.current entry.2)) entries

/-- Whether an entry comes from the runtime. -/
def MergedStateEntry.isCpuState : MergedStateEntry → Bool
  | .backing _ _ => false
  | .current _ => true
  | .flat _ => true

def insertFlat (field : String) (entries : MergedEntries)
    (entry : Int64 × FlatNativeRnnModuleState Binary32) : Except String MergedEntries :=
  if entries[entry.1]?.any MergedStateEntry.isCpuState then
    .error (field ++ "[" ++ toString entry.1 ++ "] exists in multiple CPU state representations")
  else .ok (entries.insert entry.1 (.flat entry.2))

def MergedStateEntry.byteLen : MergedStateEntry → Except String Nat
  | .backing _ byteLen => .ok byteLen
  | .current state => entryByteLen (.inl state)
  | .flat state => entryByteLen (.inr state)

def writeIndexEntry (entry : Int64 × MergedStateEntry) : Merger Unit := do
  binWriteAll (binWriteI64 entry.1)
  let byteLen ← lift entry.2.byteLen
  binWriteAll (binWriteU64 byteLen)

/-- As many of `count` bytes as the file still holds. -/
def copyAvailable (count : Nat) : Merger Nat := fun state =>
  let available := (state.reader.bytes.drop state.reader.position).take count
  (.ok available.length, {
    reader := { state.reader with position := state.reader.position + available.length }
    writer := state.writer.write available })

/-- Writes the state of an entry; returns where the reader of the backing file stands. -/
def copyState (field : String) (readerPosition : Nat) (entry : Int64 × MergedStateEntry) :
    Merger Nat :=
  match entry.2 with
  | .backing offset byteLen => do
      if readerPosition ≠ offset then
        reading (seekTo offset ("failed to seek Rust checkpoint field " ++ field ++ "[" ++
          toString entry.1 ++ "]"))
      let copied ← copyAvailable byteLen
      if copied ≠ byteLen then
        FallibleMethod.fail (.error (field ++ "[" ++ toString entry.1 ++ "] expected " ++
          toString byteLen ++ " backing bytes, copied " ++ toString copied))
      else return offset + byteLen
  | .current state => do
      binWriteChecked (binWriteEntry (.inl state))
      return readerPosition
  | .flat state => do
      binWriteChecked (binWriteEntry (.inr state))
      return readerPosition

def binCopyMergedIndexedStateMap (field : String)
    (current : ExtTreeMap Int64 (NativeRnnModuleState Binary32))
    (flat : ExtTreeMap Int64 (FlatNativeRnnModuleState Binary32)) (selected : ExtTreeSet Int64) :
    Merger Unit := do
  let len ← reading (binReadUsize field)
  reading (binVecWithCapacity 16 len field)
  let backingIndex ← reading (readItems (fun itemIndex => do
    let identity ← binReadI64 (field ++ "[" ++ toString itemIndex ++ "].id")
    return (identity, ← binReadUsize (field ++ "[" ++ toString identity ++ "].byte_len"))) 0 len)
  let dataStart ← reading streamPosition
  let (kept, backingDataEnd) ← lift (collectBacking field selected backingIndex dataStart ∅)
  let entries ← lift (flat.toList.foldlM (insertFlat field) (collectCurrent kept current))
  binWriteAll (binWriteU64 entries.size)
  entries.toList.forM writeIndexEntry
  let readerPosition ← entries.toList.foldlM (copyState field) dataStart
  if readerPosition ≠ backingDataEnd then
    reading (seekTo backingDataEnd ("failed to finish Rust checkpoint field " ++ field))

def writeOptionalState (canonical : Option (NativeRnnModuleState Binary32))
    (flat : Option (FlatNativeRnnModuleState Binary32)) : Merger Unit :=
  match canonical, flat with
  | some _, some _ =>
      FallibleMethod.fail (.error "global state exists in flat and canonical CPU state")
  | some state, none => do
      binWriteAll (binWriteU8 1)
      binWriteChecked (binWriteEntry (.inl state))
  | none, some state => do
      binWriteAll (binWriteU8 1)
      binWriteChecked (binWriteEntry (.inr state))
  | none, none => binWriteAll (binWriteU8 0)

def writeMergedRuntimeStateBinV2 (state : SnapshotFeatures) (rnn : SnapshotRnn)
    (scope : CheckpointScope) : Merger Unit := do
  let _ ← reading (binReadOptionF64 "first_day_offset")
  binWriteAll (binWriteOptionF64 state.firstDayOffset)
  let _ ← reading (binReadOptionF64 "prev_day_offset")
  binWriteAll (binWriteOptionF64 state.prevDayOffset)
  let _ ← reading (binReadUsize "card_count")
  binWriteAll (binWriteU64 state.cardCount.toNat)
  binCopyMergedI64Set "card_set" state.cardSet scope.cardIds
  binCopyMergedI64Map "last_new_cards" state.lastNewCards scope.cardIds
    (do return UInt64.ofNat (← binReadUsize "last_new_cards"))
    (fun value => .ok (binWriteU64 value.toNat))
  let _ ← reading (binReadI64 "i")
  binWriteAll (binWriteI64 state.i)
  binCopyMergedI64Map "last_i" state.lastI scope.cardIds (binReadI64 "last_i")
    (fun value => .ok (binWriteI64 value))
  let _ ← reading (binReadF64 "today")
  binWriteAll (binWriteF64 state.today)
  let _ ← reading (binReadI64 "today_reviews")
  binWriteAll (binWriteI64 state.todayReviews)
  let _ ← reading (binReadI64 "today_new_cards")
  binWriteAll (binWriteI64 state.todayNewCards)
  binCopyMergedI64Map "card2first_day_offset" state.card2firstDayOffset scope.cardIds
    (binReadF64 "card2first_day_offset") (fun value => .ok (binWriteF64 value))
  binCopyMergedI64Map "card2elapsed_days_cumulative" state.card2elapsedDaysCumulative scope.cardIds
    (binReadF64 "card2elapsed_days_cumulative") (fun value => .ok (binWriteF64 value))
  binCopyMergedI64Map "card2elapsed_seconds_cumulative" state.card2elapsedSecondsCumulative
    scope.cardIds (binReadF64 "card2elapsed_seconds_cumulative")
    (fun value => .ok (binWriteF64 value))
  binCopyMergedIdEncodings state.idEncodings scope
  let _ ← reading (binReadBytes "torch_rng_state")
  binWriteAll (binWriteBytes (toTorchRngStateBytes state.idRng))
  binCopyMergedIndexedStateMap "card_states" (rnn.states .card) (rnn.flatStates .card) scope.cardIds
  binCopyMergedIndexedStateMap "note_states" (rnn.states .note) (rnn.flatStates .note) scope.noteIds
  binCopyMergedIndexedStateMap "deck_states" (rnn.states .deck) (rnn.flatStates .deck) scope.deckIds
  binCopyMergedIndexedStateMap "preset_states" (rnn.states .preset) (rnn.flatStates .preset)
    scope.presetIds
  writeOptionalState rnn.globalState rnn.flatGlobalState

/-- Skips the metadata; an offset is an `i64`. -/
def skipMetadata : Reader Unit := do
  let backingMetadataLen ← binReadUsize "metadata_json"
  if 2 ^ 63 ≤ backingMetadataLen then
    CheckpointBytes.fail "checkpoint metadata length exceeds i64"
  else
    let position ← streamPosition
    seekTo (position + backingMetadataLen) "failed to skip Rust checkpoint metadata"

def readBackingHeader : Reader Unit := do
  let magic ← binReadExact checkpointBinMagic.length "binary checkpoint magic"
  if magic ≠ checkpointBinMagic then
    CheckpointBytes.fail "unsupported Rust binary checkpoint magic"
  else
    let version ← binReadU32 "binary checkpoint version"
    if version ≠ checkpointBinVersion then
      CheckpointBytes.fail ("low-memory merge-save requires Rust binary checkpoint version " ++
        toString checkpointBinVersion ++ ", got " ++ toString version)
    else skipMetadata

def writeMergedRuntimeCheckpointBin (metadataJson : List UInt8) (state : SnapshotFeatures)
    (rnn : SnapshotRnn) (scope : CheckpointScope) : Merger Unit := do
  reading readBackingHeader
  binWriteAll checkpointBinMagic
  binWriteAll (binWriteU32 checkpointBinVersion)
  binWriteAll (binWriteU64 metadataJson.length)
  binWriteAll metadataJson
  writeMergedRuntimeStateBinV2 state rnn scope

/-- What the new file holds, or why it was not written to its end. -/
def writeMergedCheckpointBinPath (backing : CheckpointFile) (metadataJson : List UInt8)
    (state : SnapshotFeatures) (rnn : SnapshotRnn) (scope : CheckpointScope) :
    Except Failure (List UInt8) :=
  if metadataJson.isEmpty then .error (.error "binary checkpoint metadata must not be empty")
  else
    match backing with
    | .error message => .error (.error message)
    | .ok bytes =>
        match writeMergedRuntimeCheckpointBin metadataJson state rnn scope
            ⟨⟨bytes, 0⟩, ⟨[], 0⟩⟩ with
        | (.ok (), reached) => .ok reached.writer.bytes
        | (.error failure, _) => .error failure

end RwkvSrs.MergedSave
