import Std.Data.ExtTreeMap
import Std.Data.ExtTreeSet
import RwkvSrs.CheckpointReader
import RwkvSrs.ReviewMappings

/-!
Snapshots as Python hands them over: mappings from field names to nested
values, and the conversions the restore functions apply to a field. A
conversion reads the whole field before it returns, and reports the field in
its error.
-/

namespace RwkvSrs.SnapshotValues

open Std ReviewMappings DeterministicState ModuleState CheckpointReader

set_option autoImplicit false

inductive SnapshotValue where
  | scalar (value : PyValue)
  | text (value : String)
  | bytes (values : List UInt8)
  | list (items : List SnapshotValue)
  | tuple (items : List SnapshotValue)
  /-- An array or tensor object; its `tolist()` is the contents. -/
  | array (contents : SnapshotValue)
  | dict (items : List (SnapshotValue × SnapshotValue))
  /-- A mapping that is not a dictionary. -/
  | mapping (items : List (SnapshotValue × SnapshotValue))

abbrev Snapshot := List (String × SnapshotValue)

def getItem (snapshot : Snapshot) (field : String) : PyResult SnapshotValue :=
  match snapshot.lookup field with
  | some value => .ok value
  | none => .error ⟨"KeyError", "'" ++ field ++ "'"⟩

def contains (snapshot : Snapshot) (field : String) : Bool := (snapshot.lookup field).isSome

def typeError {Value : Type} (target : String) : PyResult Value :=
  .error ⟨"TypeError", "object cannot be converted to '" ++ target ++ "'"⟩

/-- The result when there is one, and a value error otherwise. -/
def orValueError {Value : Type} (result : Option Value) (message : String) : PyResult Value :=
  match result with
  | some value => .ok value
  | none => valueError message

def sequenceItems : SnapshotValue → Option (List SnapshotValue)
  | .list items => some items
  | .tuple items => some items
  | .bytes values => some (values.map fun byte => .scalar (.int byte.toNat))
  | _ => none

def toI64 : SnapshotValue → Option Int64
  | .scalar value => extractI64 value
  | _ => none

def toF64 : SnapshotValue → Option Binary64
  | .scalar value => extractF64 value
  | _ => none

def toF32 (value : SnapshotValue) : Option Binary32 := (toF64 value).map Binary32.ofDouble

def toU8 : SnapshotValue → Option UInt8
  | .scalar (.int number) =>
      if 0 ≤ number ∧ number < 256 then some (UInt8.ofNat number.toNat) else none
  | .scalar (.bool value) => some (if value then 1 else 0)
  | _ => none

def toVec {Value : Type} (extract : SnapshotValue → Option Value) (value : SnapshotValue) :
    Option (List Value) := do
  (← sequenceItems value).mapM extract

def toMap {Value : Type} (extract : SnapshotValue → Option Value) (value : SnapshotValue) :
    Option (ExtTreeMap Int64 Value) :=
  match value with
  | .dict items => do
      let entries ← items.mapM fun item => do return (← toI64 item.1, ← extract item.2)
      return collectMap none ∅ entries
  | _ => none

/-- A sequence as it stands, or the list of a tensor object. -/
def vecOrList {Value : Type} (extract : SnapshotValue → Option Value) (message : String)
    (value : SnapshotValue) : PyResult (List Value) :=
  match value with
  | .array contents =>
      match toVec extract contents with
      | some values => .ok values
      | none => typeError "Sequence"
  | other => orValueError (toVec extract other) message

/-- A conversion of single values; any other object is rejected. -/
def parseScalar {Value : Type} (parse : PyValue → String → PyResult Value)
    (rejected : String → String) (value : SnapshotValue) (field : String) : PyResult Value :=
  match value with
  | .scalar value => parse value field
  | _ => valueError (rejected field)

def requiredI64 (snapshot : Snapshot) (field : String) : PyResult Int64 := do
  parseScalar parseI64 notInteger (← getItem snapshot field) field

def requiredF64 (snapshot : Snapshot) (field : String) : PyResult Binary64 := do
  parseScalar parseF64 notFinite (← getItem snapshot field) field

def optionalF64Field (snapshot : Snapshot) (field : String) : PyResult (Option Binary64) := do
  match ← getItem snapshot field with
  | .scalar .none => .ok none
  | _ => (requiredF64 snapshot field).map some

def requiredBool (snapshot : Snapshot) (field : String) : PyResult Bool := do
  match ← getItem snapshot field with
  | .scalar (.bool value) => .ok value
  | _ => valueError ("state field '" ++ field ++ "' must be a bool")

def requiredI64Vec (snapshot : Snapshot) (field : String) : PyResult (List Int64) := do
  orValueError (toVec toI64 (← getItem snapshot field))
    ("state field '" ++ field ++ "' must be a list of ints")

def requiredI64Map (snapshot : Snapshot) (field : String) :
    PyResult (ExtTreeMap Int64 Int64) := do
  orValueError (toMap toI64 (← getItem snapshot field))
    ("state field '" ++ field ++ "' must be an int-to-int mapping")

def requiredUsizeMap (snapshot : Snapshot) (field : String) :
    PyResult (ExtTreeMap Int64 UInt64) := do
  let intMap ← requiredI64Map snapshot field
  match intMap.toList.find? fun entry => decide (entry.2 < 0) with
  | some entry => valueError ("state field '" ++ field ++ "' contains negative value for key " ++
      toString entry.1)
  | none => .ok (intMap.map fun _ value => value.toUInt64)

def requiredF64Map (snapshot : Snapshot) (field : String) :
    PyResult (ExtTreeMap Int64 Binary64) := do
  orValueError (toMap toF64 (← getItem snapshot field))
    ("state field '" ++ field ++ "' must be an int-to-float mapping")

def toSet (values : List Int64) : ExtTreeSet Int64 := collectSet none values

def mappingItems (value : SnapshotValue) : PyResult (List (SnapshotValue × SnapshotValue)) :=
  match value with
  | .dict items => .ok items
  | .mapping items => .ok items
  | _ => typeError "Mapping"

def parseF32Vec (value : SnapshotValue) (field : String) (dim : Nat) :
    PyResult (List Binary32) := do
  let values ← vecOrList toF32 ("id encoding '" ++ field ++ "' must be a float vector") value
  if values.length ≠ dim then
    valueError ("id encoding '" ++ field ++ "' must have length " ++ toString dim ++ ", got " ++
      toString values.length)
  else .ok values

def submoduleEncodings (snapshot : Snapshot) (submodule : IdSubmodule) :
    PyResult (ExtTreeMap Int64 (List Binary32)) :=
  match snapshot.lookup submodule.name with
  | none => .ok ∅
  | some (.scalar .none) => .ok ∅
  | some value => do
      let items ← mappingItems value
      let entries ← items.mapM fun item => do
        let id ← parseScalar parseI64 notInteger item.1 submodule.name
        return (id, ← parseF32Vec item.2 submodule.name submodule.dim)
      return collectMap none ∅ entries

/-- The encodings of all submodules, built aside in the order of the submodules. -/
def idEncodingsFromSnapshot (snapshot : Snapshot) : PyResult (IdEncodings Binary32) := do
  let card ← submoduleEncodings snapshot .cardId
  let note ← submoduleEncodings snapshot .noteId
  let deck ← submoduleEncodings snapshot .deckId
  let preset ← submoduleEncodings snapshot .presetId
  return fun
    | .cardId => card
    | .noteId => note
    | .deckId => deck
    | .presetId => preset

def torchRngStateBytes (value : SnapshotValue) : PyResult (List UInt8) :=
  vecOrList toU8 "torch RNG state must be a uint8 tensor or byte sequence" value

/-- Lists nested to a fixed depth. -/
def Nested (V : Type) : Nat → Type
  | 0 => V
  | depth + 1 => List (Nested V depth)

def toNested {V : Type} (extract : SnapshotValue → Option V) :
    (depth : Nat) → SnapshotValue → Option (Nested V depth)
  | 0, value => extract value
  | depth + 1, value => toVec (toNested extract depth) value

/-- Lengths along the first elements, down to the first empty list. -/
def nestedDims {V : Type} : (depth : Nat) → Nested V depth → List Nat
  | 0, _ => []
  | _ + 1, ([] : List _) => [0]
  | depth + 1, (first :: rest : List _) => (first :: rest).length :: nestedDims depth first

def rectangular {V : Type} : (depth : Nat) → List Nat → Nested V depth → Bool
  | 0, _, _ => true
  | depth + 1, dims, (values : List _) =>
      values.length == dims.headD 0 && values.all (rectangular depth dims.tail)

def nestedFlatten {V : Type} : (depth : Nat) → Nested V depth → List V
  | 0, value => [value]
  | depth + 1, (values : List _) => values.flatMap (nestedFlatten depth)

def emptyDimension (name : String) : Nat → String
  | 0 => name ++ " must not be empty"
  | 1 => name ++ " second dimension must not be empty"
  | 2 => name ++ " third dimension must not be empty"
  | 3 => name ++ " fourth dimension must not be empty"
  | _ => name ++ " fifth dimension must not be empty"

/-- `tensor_from_3d` and `tensor_from_5d`, by the depth of the lists. -/
def tensorFromNested {V : Type} (depth : Nat) (values : Nested V depth) (name : String) :
    Except String (Tensor V) :=
  let dims := nestedDims depth values
  match dims.findIdx? (· == 0) with
  | some index => .error (emptyDimension name index)
  | none =>
      if rectangular depth dims values then Tensor.fromVec (nestedFlatten depth values) dims
      else .error (name ++ " must be rectangular")

def tensorVecFromNested {V : Type} (depth : Nat) (values : List (Nested V depth)) (name : String) :
    Except String (List (Tensor V)) :=
  mapLayers (fun layerIndex state =>
    tensorFromNested depth state (name ++ "[" ++ toString layerIndex ++ "]")) 0 values

def asValueError {Value : Type} (result : Except String Value) : PyResult Value :=
  match result with
  | .ok value => .ok value
  | .error message => valueError message

def entityStateFromAny (value : SnapshotValue) (name : String) :
    PyResult (NativeRnnModuleState Binary32) :=
  match value with
  | .tuple [timeX, timeRecurrent, channel] =>
      match toVec (toNested toF32 3) timeX, toVec (toNested toF32 5) timeRecurrent,
          toVec (toNested toF32 3) channel with
      | some timeX, some timeRecurrent, some channel => do
          let timeX ← asValueError
            (tensorVecFromNested 3 timeX (name ++ ".time_x_shift_b1c_by_layer"))
          let timeRecurrent ← asValueError
            (tensorVecFromNested 5 timeRecurrent (name ++ ".time_state_b1hkk_by_layer"))
          let channel ← asValueError
            (tensorVecFromNested 3 channel (name ++ ".channel_state_b1c_by_layer"))
          asValueError (nativeModuleStateFromParts timeX timeRecurrent channel name)
      | _, _, _ => typeError "Sequence"
  | _ => typeError "tuple"

def missingRecurrentField {Value : Type} (field : String) : PyResult Value :=
  valueError ("recurrent state snapshot is missing '" ++ field ++ "'")

def stateMapFromSnapshot (snapshot : Snapshot) (field : String) : PyResult StateMap :=
  match snapshot.lookup field with
  | none => missingRecurrentField field
  | some value => do
      let items ← mappingItems value
      let entries ← items.mapM fun item => do
        let id ← orValueError (toI64 item.1)
          ("recurrent state '" ++ field ++ "' keys must be integers")
        return (id, ← entityStateFromAny item.2 field)
      return collectMap none ∅ entries

def optionalEntityStateFromSnapshot (snapshot : Snapshot) (field : String) :
    PyResult (Option (NativeRnnModuleState Binary32)) :=
  match snapshot.lookup field with
  | none => missingRecurrentField field
  | some (.scalar .none) => .ok none
  | some value => (entityStateFromAny value field).map some

end RwkvSrs.SnapshotValues
