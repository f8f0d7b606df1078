import RwkvSrs.CheckpointWriter
import RwkvSrs.ReaderRules

/-!
Reading back what was written. A reader reads a piece back as a value when,
wherever the piece stands in a file, reading there gives the value and stops
right behind the piece. Pieces read back one after another compose, so a section
is read back once each of its parts is.
-/

namespace RwkvSrs.ReadBack

open Std CheckpointBytes CheckpointReader CheckpointWriter LittleEndian ModuleState ReaderRules

set_option autoImplicit false

section Rules

variable {Item Value Next : Type}

def ReadsBack (read : Reader Value) (piece : List UInt8) (value : Value) : Prop :=
  ∀ before after, (before ++ (piece ++ after)).length < 2 ^ 63 →
    read ⟨before ++ (piece ++ after), before.length⟩ =
      .ok (value, ⟨before ++ (piece ++ after), before.length + piece.length⟩)

theorem reads_pure (value : Value) : ReadsBack (pure value : Reader Value) [] value := by
  intro before after _
  rfl

theorem reads_bind {first : Reader Value} {next : Value → Reader Next} {head tail : List UInt8}
    {value : Value} {result : Next} (firstReads : ReadsBack first head value)
    (nextReads : ReadsBack (next value) tail result) :
    ReadsBack (first >>= next) (head ++ tail) result := by
  intro before after small
  have front : before ++ ((head ++ tail) ++ after) = before ++ (head ++ (tail ++ after)) := by
    rw [List.append_assoc head]
  have back : before ++ (head ++ (tail ++ after)) = (before ++ head) ++ (tail ++ after) := by
    rw [List.append_assoc before]
  rw [front] at small ⊢
  apply bind_read.mpr
  refine ⟨value, _, firstReads before (tail ++ after) small, ?_⟩
  rw [back] at small ⊢
  have reads := nextReads (before ++ head) after small
  rw [List.length_append] at reads
  rw [reads, List.length_append, Nat.add_assoc]

/-- A reader that ends with a pure step adds nothing to the piece. -/
theorem reads_return {read : Reader Value} {piece : List UInt8} {value : Value}
    (make : Value → Next) (reads : ReadsBack read piece value) :
    ReadsBack (read >>= fun value => pure (make value)) piece (make value) := by
  rw [← List.append_nil piece]
  apply reads_bind reads
  apply reads_pure

theorem reads_skip {first : Reader Value} {next : Value → Reader Next} {piece : List UInt8}
    {value : Value} {result : Next} (firstReads : ReadsBack first [] value)
    (nextReads : ReadsBack (next value) piece result) :
    ReadsBack (first >>= next) piece result :=
  reads_bind firstReads nextReads

theorem reads_exact {piece : List UInt8} {count : Nat} (length : piece.length = count)
    (field : String) : ReadsBack (binReadExact count field) piece piece := by
  intro before after _
  subst length
  simp [binReadExact]

theorem reads_limited {read : Reader Value} {piece : List UInt8} {value : Value} {limit : Nat}
    (reads : ReadsBack read piece value) (length : piece.length = limit) :
    ReadsBack (limited limit read) piece (value, 0) := by
  intro before after small
  subst length
  have cut : (before ++ (piece ++ after)).take (before.length + piece.length) =
      before ++ (piece ++ []) := by
    rw [← List.append_assoc, List.append_nil, ← List.length_append]
    exact List.take_left
  have short : (before ++ (piece ++ [])).length < 2 ^ 63 := by
    simp only [List.length_append, List.length_nil] at small ⊢
    omega
  simp only [limited, cut, reads before [] short, Nat.sub_self]

/-- The numbers of the items only name the fields of their errors. -/
theorem reads_items {read : Nat → Reader Value} {write : Item → List UInt8} {value : Item → Value}
    {items : List Item}
    (each : ∀ item ∈ items, ∀ index, ReadsBack (read index) (write item) (value item))
    (index : Nat) :
    ReadsBack (readItems read index items.length) (items.flatMap write) (items.map value) := by
  induction items generalizing index with
  | nil => exact reads_pure []
  | cons item items ih =>
      rw [List.flatMap_cons]
      have rest := ih (fun other member => each other (List.mem_cons_of_mem item member)) (index + 1)
      exact reads_bind (each item List.mem_cons_self index)
        (reads_return (fun values => value item :: values) rest)

theorem reads_capacity {elementSize len : Nat} (fits : len * elementSize < 2 ^ 63)
    (field : String) : ReadsBack (binVecWithCapacity elementSize len field) [] () := by
  intro before after _
  rw [binVecWithCapacity, if_pos fits]
  rfl

/-- A bound that follows from the piece being in a file may be used to read it back. -/
theorem reads_of_small {read : Reader Value} {piece : List UInt8} {value : Value}
    (reads : piece.length < 2 ^ 63 → ReadsBack read piece value) : ReadsBack read piece value := by
  intro before after small
  have short : piece.length < 2 ^ 63 := by
    simp only [List.length_append] at small
    omega
  exact reads short before after small

end Rules

theorem reads_word {count value : Nat} (small : value < 256 ^ count) (field : String) :
    ReadsBack (do return fromLe (← binReadExact count field)) (toLe count value) value := by
  have reads := reads_return fromLe (reads_exact (to_le_length count value) field)
  rw [from_le_of_small small] at reads
  exact reads

theorem reads_u8 {value : Nat} (small : value < 256) (field : String) :
    ReadsBack (binReadU8 field) (toLe 1 value) value :=
  reads_word small field

theorem reads_u32 {value : Nat} (small : value < 2 ^ 32) (field : String) :
    ReadsBack (binReadU32 field) (toLe 4 value) value :=
  reads_word small field

theorem reads_usize {value : Nat} (small : value < 2 ^ 64) (field : String) :
    ReadsBack (binReadUsize field) (binWriteU64 value) value :=
  reads_word small field

def canonicalNan32 (value : Binary32) : Binary32 := if value.isNan then ⟨0x7fc00000⟩ else value

def canonicalNan64 (value : Binary64) : Binary64 :=
  if value.isNan then ⟨0x7ff8000000000000⟩ else value

theorem write_f32_bits (value : Binary32) :
    binWriteF32 value = toLe 4 (canonicalNan32 value).bits.toNat := by
  rw [binWriteF32, canonicalNan32]
  split
  · rfl
  · rfl

theorem of_bits_32 (value : Binary32) : (⟨UInt32.ofNat value.bits.toNat⟩ : Binary32) = value := by
  rw [UInt32.ofNat_toNat]

theorem reads_f32 (value : Binary32) (field : String) :
    ReadsBack (binReadF32 field) (binWriteF32 value) (canonicalNan32 value) := by
  have reads := reads_return (fun bytes => (⟨UInt32.ofNat (fromLe bytes)⟩ : Binary32))
    (reads_exact (to_le_length 4 (canonicalNan32 value).bits.toNat) field)
  rw [from_le_of_small (UInt32.toNat_lt _), of_bits_32, ← write_f32_bits] at reads
  exact reads

end RwkvSrs.ReadBack
