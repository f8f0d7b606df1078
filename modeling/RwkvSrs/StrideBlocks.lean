import Mathlib.Data.List.Basic
import Mathlib.Data.List.GetD

/-!
Blocks of one length laid out one after the other in a flat array: slicing a
block out, copying one block over another, and moving selected blocks to the
front of the array without a second buffer.
-/

namespace RwkvSrs.StrideBlocks

set_option autoImplicit false

variable {V : Type}

def slice (values : List V) (start count : Nat) : List V := (values.drop start).take count

/-- `copy_within(start..start + count, target)`. -/
def copyWithin (values : List V) (start count target : Nat) : List V :=
  values.take target ++ slice values start count ++ values.drop (target + count)

def Sized (stride : Nat) (blocks : List (List V)) : Prop := ∀ block ∈ blocks, block.length = stride

variable {stride : Nat} {blocks : List (List V)}

theorem sized_cons {block : List V} (sized : Sized stride (block :: blocks)) :
    block.length = stride ∧ Sized stride blocks :=
  ⟨sized block (by simp), fun other member => sized other (List.mem_cons_of_mem _ member)⟩

theorem flatten_length (sized : Sized stride blocks) :
    blocks.flatten.length = blocks.length * stride := by
  induction blocks with
  | nil => simp
  | cons block blocks ih =>
      obtain ⟨first, rest⟩ := sized_cons sized
      rw [List.flatten_cons, List.length_append, ih rest, first, List.length_cons, Nat.succ_mul,
        Nat.add_comm]

theorem drop_blocks (sized : Sized stride blocks) (i : Nat) :
    blocks.flatten.drop (i * stride) = (blocks.drop i).flatten := by
  induction blocks generalizing i with
  | nil => simp
  | cons block blocks ih =>
      obtain ⟨first, rest⟩ := sized_cons sized
      cases i with
      | zero => simp
      | succ i =>
          rw [List.flatten_cons, List.drop_succ_cons, ← ih rest i, List.drop_append, first,
            Nat.succ_mul, Nat.add_sub_cancel, List.drop_eq_nil_of_le (by omega), List.nil_append]

theorem take_blocks (sized : Sized stride blocks) (i : Nat) :
    blocks.flatten.take (i * stride) = (blocks.take i).flatten := by
  induction blocks generalizing i with
  | nil => simp
  | cons block blocks ih =>
      obtain ⟨first, rest⟩ := sized_cons sized
      cases i with
      | zero => simp
      | succ i =>
          rw [List.flatten_cons, List.take_succ_cons, List.flatten_cons, ← ih rest i,
            List.take_append, first, Nat.succ_mul, Nat.add_sub_cancel,
            List.take_of_length_le (by omega)]

theorem slice_block (sized : Sized stride blocks) {i : Nat} (inside : i < blocks.length) :
    slice blocks.flatten (i * stride) stride = blocks[i] := by
  have first : (blocks[i]).length = stride := sized _ (List.getElem_mem inside)
  rw [slice, drop_blocks sized, List.drop_eq_getElem_cons inside, List.flatten_cons,
    List.take_append, ← first, Nat.sub_self, List.take_zero, List.append_nil, List.take_length]

/-- A slice within a block. -/
theorem slice_inside (sized : Sized stride blocks) {i start count : Nat} (inside : i < blocks.length)
    (fits : start + count ≤ stride) :
    slice blocks.flatten (i * stride + start) count = slice blocks[i] start count := by
  have first : (blocks[i]).length = stride := sized _ (List.getElem_mem inside)
  rw [slice, ← List.drop_drop, drop_blocks sized, List.drop_eq_getElem_cons inside,
    List.flatten_cons, List.drop_append_of_le_length (by omega),
    List.take_append_of_le_length (by rw [List.length_drop]; omega), slice]

theorem getElem_flatten (sized : Sized stride blocks) {i k : Nat} (inside : i < blocks.length)
    (small : k < stride) : blocks.flatten[i * stride + k]? = blocks[i][k]? := by
  have first : (blocks[i]).length = stride := sized _ (List.getElem_mem inside)
  rw [← List.getElem?_drop, drop_blocks sized, List.drop_eq_getElem_cons inside, List.flatten_cons,
    List.getElem?_append_left (by omega)]

theorem slice_length {values : List V} {start count : Nat} (fits : start + count ≤ values.length) :
    (slice values start count).length = count := by
  rw [slice, List.length_take, List.length_drop]
  omega

theorem copy_block (sized : Sized stride blocks) {source target : Nat}
    (sourceInside : source < blocks.length) (targetInside : target < blocks.length) :
    copyWithin blocks.flatten (source * stride) stride (target * stride) =
      (blocks.set target blocks[source]).flatten := by
  have next : target * stride + stride = (target + 1) * stride := (Nat.succ_mul target stride).symm
  rw [copyWithin, slice_block sized sourceInside, take_blocks sized, next, drop_blocks sized,
    List.set_eq_take_append_cons_drop, if_pos targetInside, List.flatten_append, List.flatten_cons,
    List.append_assoc]

/-- Slices taken one after the other are the front of the array. -/
theorem slices_flatten (values : List V) (stride count : Nat) :
    ((List.range count).map fun block => slice values (block * stride) stride).flatten =
      values.take (count * stride) := by
  induction count with
  | zero => simp
  | succ count ih =>
      rw [List.range_succ, List.map_append, List.flatten_append, ih, Nat.succ_mul, List.take_add]
      simp [slice]

/-- Values written over an array from an index on. -/
def writeAt (values : List V) (start : Nat) (written : List V) : List V :=
  values.take start ++ written ++ values.drop (start + written.length)

theorem write_length {values written : List V} {start : Nat}
    (fits : start + written.length ≤ values.length) :
    (writeAt values start written).length = values.length := by
  rw [writeAt, List.length_append, List.length_append, List.length_take, List.length_drop]
  omega

/-- What stands before the end of a write: the values up to it, and then the written ones. -/
theorem take_written {values written : List V} {start : Nat} (inside : start ≤ values.length) :
    (writeAt values start written).take (start + written.length) = values.take start ++ written := by
  rw [writeAt]
  apply List.take_left'
  rw [List.length_append, List.length_take, Nat.min_eq_left inside]

theorem slice_written {values written : List V} {start : Nat} (inside : start ≤ values.length) :
    slice (writeAt values start written) start written.length = written := by
  have before : (values.take start).length = start := by
    rw [List.length_take, Nat.min_eq_left inside]
  rw [slice, writeAt, List.append_assoc, List.drop_left' before, List.take_left' rfl]

theorem slice_before {values written : List V} {start other count : Nat}
    (inside : start ≤ values.length) (apart : other + count ≤ start) :
    slice (writeAt values start written) other count = slice values other count := by
  have before : (values.take start).length = start := by
    rw [List.length_take, Nat.min_eq_left inside]
  rw [slice, slice, writeAt, List.append_assoc, List.drop_append_of_le_length (by omega),
    List.take_append_of_le_length (by rw [List.length_drop]; omega), List.drop_take, List.take_take,
    Nat.min_eq_left (by omega)]

theorem slice_after {values written : List V} {start other count : Nat}
    (inside : start ≤ values.length) (apart : start + written.length ≤ other) :
    slice (writeAt values start written) other count = slice values other count := by
  have past : (values.take start ++ written).length = start + written.length := by
    rw [List.length_append, List.length_take, Nat.min_eq_left inside]
  rw [slice, slice, writeAt, List.drop_append, List.drop_eq_nil_of_le (by omega),
    List.nil_append, past, List.drop_drop]
  congr 2
  omega

/-- Writing one block leaves the others. -/
theorem slice_other {values written : List V} {block other : Nat} (sized : written.length = stride)
    (inside : block * stride ≤ values.length) (apart : other ≠ block) :
    slice (writeAt values (block * stride) written) (other * stride) stride =
      slice values (other * stride) stride := by
  rcases Nat.lt_or_gt_of_ne apart with before | after
  · apply slice_before inside
    rw [← Nat.succ_mul]
    exact Nat.mul_le_mul_right stride before
  · apply slice_after inside
    rw [sized, ← Nat.succ_mul]
    exact Nat.mul_le_mul_right stride after

/-- One copy for each selected block, in order, as the loop makes them. -/
def moveSelected (stride : Nat) : List V → Nat → List Nat → List V
  | values, _, [] => values
  | values, targetRow, sourceRow :: selectedRows =>
      let moved := if sourceRow ≠ targetRow then
          copyWithin values (sourceRow * stride) stride (targetRow * stride)
        else values
      moveSelected stride moved (targetRow + 1) selectedRows

theorem set_self {index : Nat} (inside : index < blocks.length) :
    blocks.set index blocks[index] = blocks := by
  apply List.ext_getElem (by simp)
  intro i _ _
  rw [List.getElem_set]
  split
  · rename_i same
    subst same
    rfl
  · rfl

/-- Each source lies at or after every block that has been written. -/
theorem move_selected_blocks (sized : Sized stride blocks) {original : List (List V)}
    (lengths : blocks.length = original.length) (targetRow : Nat) {selectedRows : List Nat}
    (rest : ∀ i, targetRow ≤ i → blocks[i]? = original[i]?)
    (ahead : ∀ row ∈ selectedRows, targetRow ≤ row)
    (inside : ∀ row ∈ selectedRows, row < original.length)
    (ascending : selectedRows.Pairwise (· < ·)) :
    ∃ moved, moveSelected stride blocks.flatten targetRow selectedRows = moved.flatten ∧
      Sized stride moved ∧ moved.length = original.length ∧
      (moved.take (targetRow + selectedRows.length)).map some =
        (blocks.take targetRow).map some ++ selectedRows.map fun row => original[row]? := by
  induction selectedRows generalizing blocks targetRow with
  | nil => exact ⟨blocks, rfl, sized, lengths, by simp⟩
  | cons sourceRow selectedRows ih =>
      have sourceAhead := ahead sourceRow (by simp)
      have sourceInside : sourceRow < blocks.length := by
        rw [lengths]
        exact inside sourceRow (by simp)
      have targetInside : targetRow < blocks.length := by omega
      have same : original[sourceRow]? = some blocks[sourceRow] := by
        rw [← rest sourceRow sourceAhead]
        exact List.getElem?_eq_getElem sourceInside
      have written : moveSelected stride blocks.flatten targetRow (sourceRow :: selectedRows) =
          moveSelected stride (blocks.set targetRow blocks[sourceRow]).flatten (targetRow + 1)
            selectedRows := by
        rw [moveSelected]
        split
        · rw [copy_block sized sourceInside targetInside]
        · rename_i same
          have equal : sourceRow = targetRow := not_not.mp same
          subst equal
          rw [set_self sourceInside]
      have sizedNext : Sized stride (blocks.set targetRow blocks[sourceRow]) := by
        intro block member
        rcases List.mem_or_eq_of_mem_set member with before | here
        · exact sized block before
        · exact here ▸ sized _ (List.getElem_mem sourceInside)
      obtain ⟨later, ascendingRest⟩ := List.pairwise_cons.mp ascending
      obtain ⟨moved, run, movedSized, movedLength, front⟩ := ih sizedNext
        (by simpa using lengths) (targetRow + 1)
        (by
          intro i beyond
          rw [List.getElem?_set_ne (by omega)]
          exact rest i (by omega))
        (by
          intro row member
          have := later row member
          omega)
        (fun row member => inside row (List.mem_cons_of_mem _ member)) ascendingRest
      refine ⟨moved, written.trans run, movedSized, movedLength, ?_⟩
      have count : targetRow + (sourceRow :: selectedRows).length =
          targetRow + 1 + selectedRows.length := by
        rw [List.length_cons]
        omega
      rw [count, front, List.map_cons, same, List.take_succ_eq_append_getElem (by simpa)]
      simp [List.take_set_of_le (Nat.le_refl targetRow)]

theorem move_selected_front (sized : Sized stride blocks) {selectedRows : List Nat}
    (inside : ∀ row ∈ selectedRows, row < blocks.length)
    (ascending : selectedRows.Pairwise (· < ·)) {picked : List (List V)}
    (selected : selectedRows.map (fun row => blocks[row]?) = picked.map some) :
    (moveSelected stride blocks.flatten 0 selectedRows).take (selectedRows.length * stride) =
      picked.flatten := by
  obtain ⟨moved, run, movedSized, _, front⟩ := move_selected_blocks sized rfl 0
    (fun _ _ => rfl) (fun _ _ => Nat.zero_le _) inside ascending
  rw [run, take_blocks movedSized]
  rw [Nat.zero_add, selected, List.take_zero, List.map_nil, List.nil_append] at front
  have same := List.map_injective_iff.mpr (fun _ _ => Option.some.inj) front
  rw [same]

end RwkvSrs.StrideBlocks
