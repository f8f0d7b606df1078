import Mathlib.Control.Monad.Basic
import RwkvSrs.Binary64

/-!
Reading a checkpoint file. A cursor holds the whole file and a position, as a
seekable reader does; every word is little-endian. A read that does not find
enough bytes fails and names its field. Lists are read one item after another,
numbered from zero.
-/

namespace RwkvSrs

set_option autoImplicit false

/-- A binary32 value by its bit pattern. -/
structure Binary32 where
  bits : UInt32
deriving DecidableEq

namespace Binary32

def isNan (value : Binary32) : Bool :=
  value.bits.toNat / 2 ^ 23 % 2 ^ 8 == 255 && value.bits.toNat % 2 ^ 23 != 0

def withSign (isNegative : Bool) (payload : Nat) : Binary32 :=
  ⟨UInt32.ofNat (if isNegative then 2 ^ 31 + payload else payload)⟩

/-- `value as f32`: round to nearest, ties to even, in units of `2 ^ -149`. -/
def ofDouble (value : Binary64) : Binary32 :=
  if value.isNan then ⟨0x7fc00000⟩
  else if !value.isFinite then withSign value.negative (255 * 2 ^ 23)
  else
    let unit := 2 ^ 925
    let whole := value.magnitude / unit
    let shift := if whole < 2 ^ 24 then 0 else Nat.log2 whole - 23
    let divisor := unit * 2 ^ shift
    let quotient := value.magnitude / divisor
    let remainder := value.magnitude % divisor
    let up := divisor < 2 * remainder ∨ (2 * remainder = divisor ∧ quotient % 2 = 1)
    let payload := shift * 2 ^ 23 + (if up then quotient + 1 else quotient)
    withSign value.negative (min payload (255 * 2 ^ 23))

example : ofDouble ⟨0x3FB999999999999A⟩ = ⟨0x3dcccccd⟩ := by
  decide +kernel

end Binary32

namespace CheckpointBytes

structure Cursor where
  bytes : List UInt8
  position : Nat
deriving DecidableEq

abbrev Reader := StateT Cursor (Except String)

def fail {Value : Type} (message : String) : Reader Value := fun _ => .error message

def binReadExact (count : Nat) (field : String) : Reader (List UInt8) := fun cursor =>
  let remaining := cursor.bytes.drop cursor.position
  if count ≤ remaining.length then
    .ok (remaining.take count, { cursor with position := cursor.position + count })
  else
    .error ("failed to read Rust binary checkpoint field " ++ field ++
      ": failed to fill whole buffer")

def streamPosition : Reader Nat := fun cursor => .ok (cursor.position, cursor)

/-- A file position is an `off_t`, so a seek beyond its range fails. -/
def seekTo (offset : Nat) (context : String) : Reader Unit := fun cursor =>
  if offset < 2 ^ 63 then .ok ((), { cursor with position := offset })
  else .error (context ++ ": Invalid argument (os error 22)")

/-- Reads through an adapter that ends after `limit` bytes, and returns what is left of it. -/
def limited {Value : Type} (limit : Nat) (read : Reader Value) : Reader (Value × Nat) :=
  fun cursor =>
    let stop := cursor.position + limit
    match read { cursor with bytes := cursor.bytes.take stop } with
    | .ok (value, reached) =>
        .ok ((value, stop - reached.position), { cursor with position := reached.position })
    | .error message => .error message

def fromLe (bytes : List UInt8) : Nat := bytes.foldr (fun byte rest => byte.toNat + 256 * rest) 0

def binReadU8 (field : String) : Reader Nat := do
  return fromLe (← binReadExact 1 field)

def binReadU32 (field : String) : Reader Nat := do
  return fromLe (← binReadExact 4 field)

def binReadUsize (field : String) : Reader Nat := do
  return fromLe (← binReadExact 8 field)

def binReadI64 (field : String) : Reader Int64 := do
  return (UInt64.ofNat (fromLe (← binReadExact 8 field))).toInt64

def binReadF64 (field : String) : Reader Binary64 := do
  return ⟨UInt64.ofNat (fromLe (← binReadExact 8 field))⟩

def binReadF32 (field : String) : Reader Binary32 := do
  return ⟨UInt32.ofNat (fromLe (← binReadExact 4 field))⟩

/-- A vector cannot hold more bytes than an isize counts. -/
def binVecWithCapacity (elementSize len : Nat) (field : String) : Reader Unit :=
  if len * elementSize < 2 ^ 63 then pure ()
  else fail ("Rust checkpoint field " ++ field ++ " declares an unsupported length " ++
    toString len ++ ": memory allocation failed because the computed capacity exceeded the " ++
    "collection's maximum")

/-- `count` items, the first of them numbered `index`. -/
def readItems {Value : Type} (read : Nat → Reader Value) (index : Nat) : Nat → Reader (List Value)
  | 0 => pure []
  | count + 1 => do
      let item ← read index
      return item :: (← readItems read (index + 1) count)

def binReadBytes (field : String) : Reader (List UInt8) := do
  binReadExact (← binReadUsize field) field

def binReadString (field : String) : Reader String := do
  let bytes ← binReadBytes field
  match String.fromUTF8? ⟨bytes.toArray⟩ with
  | some text => return text
  | none => fail (field ++ " is not UTF-8: invalid utf-8 sequence")

def binReadOptionF64 (field : String) : Reader (Option Binary64) := do
  match ← binReadU8 field with
  | 0 => return none
  | 1 => return some (← binReadF64 field)
  | tag => fail (field ++ " option tag must be 0 or 1, got " ++ toString tag)

end CheckpointBytes

end RwkvSrs
