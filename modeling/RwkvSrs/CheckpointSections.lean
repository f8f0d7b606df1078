import RwkvSrs.CheckpointWriter
import RwkvSrs.CpuStateMaps
import RwkvSrs.GeneratorStates
import RwkvSrs.RuntimeRestore

/-!
Writing a whole checkpoint of the second version. The writer appends to the bytes
written so far, section by section; every set and map is written in ascending
order of its identities, and the canonical and the flat states of a module as one
indexed map.
-/

namespace RwkvSrs.CheckpointSections

open Std CheckpointBytes CheckpointReader CheckpointWriter CpuStateMaps DeterministicState
open FallibleMethod GeneratorStates LittleEndian ModuleState NativeRnnState RuntimeRestore
open StateLayouts

set_option autoImplicit false

def binWriteU8 (value : Nat) : List UInt8 := toLe 1 value

def binWriteU32 (value : Nat) : List UInt8 := toLe 4 value

def binWriteI64 (value : Int64) : List UInt8 := toLe 8 value.toUInt64.toNat

def binWriteF64 (value : Binary64) : List UInt8 :=
  if value.isNan then toLe 8 0x7ff8000000000000 else toLe 8 value.bits.toNat

def binWriteOptionF64 : Option Binary64 → List UInt8
  | some value => binWriteU8 1 ++ binWriteF64 value
  | none => binWriteU8 0

def binWriteBytes (bytes : List UInt8) : List UInt8 := binWriteU64 bytes.length ++ bytes

def binWriteString (value : String) : List UInt8 := binWriteBytes value.toByteArray.data.toList

def binWriteI64Set (values : ExtTreeSet Int64) : List UInt8 :=
  binWriteU64 values.size ++ values.toList.flatMap binWriteI64

/-- The maps of identities to words and floats differ only in how a value is written. -/
def binWriteI64Map {Value : Type} (write : Value → List UInt8) (values : ExtTreeMap Int64 Value) :
    List UInt8 :=
  binWriteU64 values.size ++ values.toList.flatMap fun entry => binWriteI64 entry.1 ++ write entry.2

def binWriteI64UsizeMap (values : ExtTreeMap Int64 UInt64) : List UInt8 :=
  binWriteI64Map (fun value => binWriteU64 value.toNat) values

def binWriteI64I64Map (values : ExtTreeMap Int64 Int64) : List UInt8 :=
  binWriteI64Map binWriteI64 values

def binWriteI64F64Map (values : ExtTreeMap Int64 Binary64) : List UInt8 :=
  binWriteI64Map binWriteF64 values

def binWriteIdEncoding (submodule : IdSubmodule) (entry : Int64 × List Binary32) :
    Except String (List UInt8) :=
  if entry.2.length ≠ submodule.dim then
    .error ("id_encodings[" ++ submodule.name ++ "][" ++ toString entry.1 ++ "] expected length " ++
      toString submodule.dim ++ ", got " ++ toString entry.2.length)
  else
    .ok (binWriteI64 entry.1 ++ (binWriteU64 entry.2.length ++ entry.2.flatMap binWriteF32))

def binWriteSubmoduleEncodings (values : IdEncodings Binary32) (submodule : IdSubmodule) :
    Except String (List UInt8) := do
  let entries ← (values submodule).toList.mapM (binWriteIdEncoding submodule)
  return binWriteString submodule.name ++ (binWriteU64 (values submodule).size ++ entries.flatten)

def binWriteIdEncodings (values : IdEncodings Binary32) : Except String (List UInt8) := do
  let sections ← idSubmodules.mapM (binWriteSubmoduleEncodings values)
  return binWriteU64 idSubmodules.length ++ sections.flatten

/-- A writer continues the bytes written so far. -/
abbrev Writer := Method (List UInt8) Unit

def writeAll (bytes : List UInt8) : Writer := update fun written => written ++ bytes

def writeChecked (bytes : Except String (List UInt8)) : Writer := do writeAll (← lift bytes)

abbrev EntityStateEntry :=
  CpuStateEntry (NativeRnnModuleState Binary32) (FlatNativeRnnModuleState Binary32)

def entryByteLen : EntityStateEntry → Except String Nat
  | .inl state => binEntityStateSize state
  | .inr state => binFlatEntityStateSize (shapedFlat state)

def binWriteEntry : EntityStateEntry → Except String (List UInt8)
  | .inl state => binWriteEntityState state
  | .inr state => binWriteFlatEntityState (shapedFlat state)

def binWriteIndexedStateMapCombined (canonical : ExtTreeMap Int64 (NativeRnnModuleState Binary32))
    (flat : ExtTreeMap Int64 (FlatNativeRnnModuleState Binary32)) : Writer := do
  writeAll (binWriteU64 (canonical.size + flat.size))
  forEachCpuState canonical flat fun identity state => do
    writeAll (binWriteI64 identity)
    let byteLen ← lift (entryByteLen state)
    writeAll (binWriteU64 byteLen)
  forEachCpuState canonical flat fun _ state => writeChecked (binWriteEntry state)

def binWriteOptionalStateCombined (canonical : Option (NativeRnnModuleState Binary32))
    (flat : Option (FlatNativeRnnModuleState Binary32)) : Writer :=
  match canonical, flat with
  | some _, some _ => fail (.error "global state exists in flat and canonical CPU state")
  | some state, none => do
      writeAll (binWriteU8 1)
      writeChecked (binWriteEntry (.inl state))
  | none, some state => do
      writeAll (binWriteU8 1)
      writeChecked (binWriteEntry (.inr state))
  | none, none => writeAll (binWriteU8 0)

def writeRuntimeStateBinV2 (state : SnapshotFeatures) (rnn : SnapshotRnn) : Writer := do
  writeAll (binWriteOptionF64 state.firstDayOffset)
  writeAll (binWriteOptionF64 state.prevDayOffset)
  writeAll (binWriteU64 state.cardCount.toNat)
  writeAll (binWriteI64Set state.cardSet)
  writeAll (binWriteI64UsizeMap state.lastNewCards)
  writeAll (binWriteI64 state.i)
  writeAll (binWriteI64I64Map state.lastI)
  writeAll (binWriteF64 state.today)
  writeAll (binWriteI64 state.todayReviews)
  writeAll (binWriteI64 state.todayNewCards)
  writeAll (binWriteI64F64Map state.card2firstDayOffset)
  writeAll (binWriteI64F64Map state.card2elapsedDaysCumulative)
  writeAll (binWriteI64F64Map state.card2elapsedSecondsCumulative)
  writeChecked (binWriteIdEncodings state.idEncodings)
  writeAll (binWriteBytes (toTorchRngStateBytes state.idRng))
  binWriteIndexedStateMapCombined (rnn.states .card) (rnn.flatStates .card)
  binWriteIndexedStateMapCombined (rnn.states .note) (rnn.flatStates .note)
  binWriteIndexedStateMapCombined (rnn.states .deck) (rnn.flatStates .deck)
  binWriteIndexedStateMapCombined (rnn.states .preset) (rnn.flatStates .preset)
  binWriteOptionalStateCombined rnn.globalState rnn.flatGlobalState

def writeRuntimeCheckpointBin (metadataJson : List UInt8) (state : SnapshotFeatures)
    (rnn : SnapshotRnn) : Writer := do
  if metadataJson.isEmpty then fail (.error "binary checkpoint metadata must not be empty")
  else
    writeAll checkpointBinMagic
    writeAll (binWriteU32 checkpointBinVersion)
    writeAll (binWriteU64 metadataJson.length)
    writeAll metadataJson
    writeRuntimeStateBinV2 state rnn

/-- What a file that could be created holds after the write, or why the write failed. -/
def writeCheckpointBinPath (metadataJson : List UInt8) (state : SnapshotFeatures)
    (rnn : SnapshotRnn) : Except Failure (List UInt8) :=
  match writeRuntimeCheckpointBin metadataJson state rnn [] with
  | (.ok (), bytes) => .ok bytes
  | (.error failure, _) => .error failure

end RwkvSrs.CheckpointSections
