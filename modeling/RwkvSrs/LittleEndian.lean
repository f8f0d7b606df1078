import RwkvSrs.CheckpointBytes
import RwkvSrs.StrideBlocks

/-!
Little-endian words. Writing a number in a fixed width and reading the bytes
back are inverse to each other, for one word and for a list of words laid out
one after another.
-/

namespace RwkvSrs.LittleEndian

open RwkvSrs.CheckpointBytes (fromLe)

set_option autoImplicit false

/-- The lowest `width` bytes of a number, the lowest first. -/
def toLe : Nat → Nat → List UInt8
  | 0, _ => []
  | width + 1, value => UInt8.ofNat value :: toLe width (value / 256)

theorem to_le_length (width value : Nat) : (toLe width value).length = width := by
  induction width generalizing value with
  | zero => rfl
  | succ width ih => rw [toLe, List.length_cons, ih]

theorem from_le_cons (byte : UInt8) (bytes : List UInt8) :
    fromLe (byte :: bytes) = byte.toNat + 256 * fromLe bytes := rfl

theorem from_le_to_le (width value : Nat) : fromLe (toLe width value) = value % 256 ^ width := by
  induction width generalizing value with
  | zero => exact (Nat.mod_one value).symm
  | succ width ih =>
      have split : value % 256 ^ (width + 1) = value % 256 + 256 * (value / 256 % 256 ^ width) := by
        rw [Nat.pow_succ', Nat.mod_mul]
      rw [toLe, from_le_cons, ih, split, UInt8.toNat_ofNat']

theorem from_le_of_small {width value : Nat} (small : value < 256 ^ width) :
    fromLe (toLe width value) = value := by
  rw [from_le_to_le, Nat.mod_eq_of_lt small]

theorem from_le_bound (bytes : List UInt8) : fromLe bytes < 256 ^ bytes.length := by
  induction bytes with
  | nil => exact Nat.one_pos
  | cons byte bytes ih =>
      have byteBound : byte.toNat < 256 := UInt8.toNat_lt byte
      rw [from_le_cons, List.length_cons, Nat.pow_succ']
      omega

theorem to_le_from_le (bytes : List UInt8) : toLe bytes.length (fromLe bytes) = bytes := by
  induction bytes with
  | nil => rfl
  | cons byte bytes ih =>
      have byteBound : byte.toNat < 256 := UInt8.toNat_lt byte
      have quotient : (byte.toNat + 256 * fromLe bytes) / 256 = fromLe bytes := by omega
      have low : UInt8.ofNat (byte.toNat + 256 * fromLe bytes) = byte := by
        apply UInt8.toNat_inj.mp
        rw [UInt8.toNat_ofNat']
        omega
      rw [List.length_cons, from_le_cons, toLe, quotient, low, ih]

/-- The word of eight bytes at a place. -/
def wordAt (bytes : List UInt8) (index : Nat) : Nat := fromLe ((bytes.drop (8 * index)).take 8)

def wordBytes (words : List Nat) : List UInt8 := words.flatMap (toLe 8)

theorem word_bytes_length (words : List Nat) : (wordBytes words).length = 8 * words.length := by
  induction words with
  | nil => rfl
  | cons word words ih =>
      rw [wordBytes, List.flatMap_cons, List.length_append, to_le_length, List.length_cons]
      rw [wordBytes] at ih
      omega

theorem word_at_bound (bytes : List UInt8) (index : Nat) : wordAt bytes index < 2 ^ 64 := by
  have bound := from_le_bound ((bytes.drop (8 * index)).take 8)
  have short : ((bytes.drop (8 * index)).take 8).length ≤ 8 := List.length_take_le _ _
  calc wordAt bytes index < 256 ^ ((bytes.drop (8 * index)).take 8).length := bound
    _ ≤ 256 ^ 8 := Nat.pow_le_pow_right (by decide) short
    _ = 2 ^ 64 := by decide

theorem word_at_succ {head rest : List UInt8} (sized : head.length = 8) (index : Nat) :
    wordAt (head ++ rest) (index + 1) = wordAt rest index := by
  unfold wordAt
  have past : 8 * (index + 1) = head.length + 8 * index := by omega
  rw [past, List.drop_append, List.drop_eq_nil_of_le (by omega), List.nil_append,
    Nat.add_sub_cancel_left]

theorem word_at_word_bytes {words : List Nat} (small : ∀ word ∈ words, word < 2 ^ 64) {index : Nat}
    (inRange : index < words.length) : wordAt (wordBytes words) index = words[index] := by
  induction words generalizing index with
  | nil => cases inRange
  | cons word words ih =>
      rw [wordBytes, List.flatMap_cons]
      cases index with
      | zero =>
          have first : word < 256 ^ 8 := small word (by simp)
          have taken : (toLe 8 word ++ words.flatMap (toLe 8)).take 8 = toLe 8 word := by
            rw [List.take_left' (to_le_length 8 word)]
          unfold wordAt
          rw [Nat.mul_zero, List.drop_zero, taken, from_le_of_small first]
          rfl
      | succ index =>
          rw [word_at_succ (to_le_length 8 word)]
          exact ih (fun other member => small other (List.mem_cons_of_mem _ member))
            (Nat.lt_of_succ_lt_succ inRange)

/-- Past its end a buffer reads as zero. -/
theorem word_at_word_bytes_getD {words : List Nat} (small : ∀ word ∈ words, word < 2 ^ 64)
    (index : Nat) : wordAt (wordBytes words) index = words.getD index 0 := by
  by_cases inRange : index < words.length
  · rw [word_at_word_bytes small inRange, List.getD_eq_getElem _ _ inRange]
  · have past : (wordBytes words).length ≤ 8 * index := by
      rw [word_bytes_length]
      omega
    rw [wordAt, List.drop_eq_nil_of_le past, List.getD_eq_default _ _ (Nat.le_of_not_lt inRange)]
    rfl

theorem word_bytes_of_words {count : Nat} {bytes : List UInt8} (sized : bytes.length = 8 * count) :
    wordBytes ((List.range count).map (wordAt bytes)) = bytes := by
  induction count generalizing bytes with
  | zero =>
      rw [List.eq_nil_of_length_eq_zero sized]
      rfl
  | succ count ih =>
      have head : (bytes.take 8).length = 8 := by
        rw [List.length_take]
        omega
      have tail : (bytes.drop 8).length = 8 * count := by
        rw [List.length_drop]
        omega
      have first : toLe 8 (wordAt bytes 0) = bytes.take 8 := by
        have written := to_le_from_le (bytes.take 8)
        rw [head] at written
        exact written
      have rest : ∀ index, wordAt bytes (index + 1) = wordAt (bytes.drop 8) index := by
        intro index
        have split : wordAt (bytes.take 8 ++ bytes.drop 8) (index + 1) = _ :=
          word_at_succ head index
        rw [List.take_append_drop] at split
        exact split
      rw [List.range_succ_eq_map, List.map_cons, wordBytes, List.flatMap_cons, first, List.map_map]
      have shifted : (List.range count).map (wordAt bytes ∘ Nat.succ) =
          (List.range count).map (wordAt (bytes.drop 8)) := List.map_congr_left fun index _ => rest index
      have remaining := ih tail
      rw [wordBytes] at remaining
      rw [shifted, remaining, List.take_append_drop]

theorem word_at_append {bytes : List UInt8} {index : Nat} (inside : 8 * index + 8 ≤ bytes.length)
    (rest : List UInt8) : wordAt (bytes ++ rest) index = wordAt bytes index := by
  have room : 8 ≤ (bytes.drop (8 * index)).length := by
    rw [List.length_drop]
    omega
  unfold wordAt
  rw [List.drop_append_of_le_length (by omega), List.take_append_of_le_length room]

/-- A word of blocks of one size is a word of its block. -/
theorem word_at_blocks {blocks : List (List UInt8)} {size : Nat}
    (sized : StrideBlocks.Sized (8 * size) blocks) {row : Nat} (inside : row < blocks.length)
    {place : Nat} (small : place < size) :
    wordAt blocks.flatten (size * row + place) = wordAt blocks[row] place := by
  have block : blocks[row].length = 8 * size := sized _ (List.getElem_mem inside)
  have whole : blocks.flatten.drop (row * (8 * size)) =
      blocks[row] ++ (blocks.drop (row + 1)).flatten := by
    rw [StrideBlocks.drop_blocks sized, List.drop_eq_getElem_cons inside, List.flatten_cons]
  have offset : 8 * (size * row + place) = row * (8 * size) + 8 * place := by
    rw [Nat.mul_add]
    congr 1
    rw [Nat.mul_comm row, Nat.mul_assoc]
  have here : wordAt blocks.flatten (size * row + place) =
      wordAt (blocks[row] ++ (blocks.drop (row + 1)).flatten) place := by
    unfold wordAt
    rw [offset, ← List.drop_drop, whole]
  rw [here]
  apply word_at_append
  omega

end RwkvSrs.LittleEndian
