import Mathlib.Algebra.Ring.Nat
import Mathlib.Data.List.Basic

/-!
Loops and slices whose accesses may fail. A counting loop and a strided while
loop end with nothing as soon as one turn does, and each has one rule: an
invariant that every turn keeps while it succeeds holds when the loop has run,
and the loop has run. Slices are read, stored and split only inside their
bounds; `FilledTo` says that a buffer of a fixed size holds the wanted cells up
to a position.
-/

namespace RwkvSrs.CheckedLoops

set_option autoImplicit false

universe u v

variable {State : Type u} {Value : Type v}

def forBelow (count : Nat) (body : Nat → State → Option State) (state : State) : Option State :=
  (List.range count).foldlM (fun state index => body index state) state

/-- `while index + reach <= limit`, with the index advanced by the stride after each turn. -/
def whileBelow (reach stride limit : Nat) [NeZero stride] (body : Nat → State → Option State)
    (index : Nat) (state : State) : Option (Nat × State) :=
  if index + reach ≤ limit then
    match body index state with
    | some next => whileBelow reach stride limit body (index + stride) next
    | none => none
  else some (index, state)
termination_by limit + 1 - index
decreasing_by
  have advances := Nat.pos_of_ne_zero (NeZero.ne stride)
  omega

theorem for_runs (Kept : Nat → State → Prop) {count : Nat} {body : Nat → State → Option State}
    (turn : ∀ index state, index < count → Kept index state →
      ∃ next, body index state = some next ∧ Kept (index + 1) next)
    {state : State} (kept : Kept 0 state) :
    ∃ final, forBelow count body state = some final ∧ Kept count final := by
  induction count with
  | zero => exact ⟨state, rfl, kept⟩
  | succ count ih =>
      obtain ⟨middle, ran, keptMiddle⟩ := ih fun index state below =>
        turn index state (Nat.lt_succ_of_lt below)
      obtain ⟨final, stepped, keptFinal⟩ := turn count middle (Nat.lt_succ_self count) keptMiddle
      refine ⟨final, ?_, keptFinal⟩
      unfold forBelow at ran ⊢
      rw [List.range_succ, List.foldlM_append, ran]
      simp [stepped]

/-- The loop ends, at an index from which it reaches beyond the limit. -/
theorem while_runs (Kept : Nat → State → Prop) {reach stride limit : Nat} [NeZero stride]
    {body : Nat → State → Option State}
    (turn : ∀ index state, index + reach ≤ limit → Kept index state →
      ∃ next, body index state = some next ∧ Kept (index + stride) next)
    (index : Nat) (state : State) (kept : Kept index state) :
    ∃ last final, whileBelow reach stride limit body index state = some (last, final) ∧
      limit < last + reach ∧ Kept last final := by
  induction index, state using whileBelow.induct reach stride limit body with
  | case1 index state inside next stepped ih =>
      obtain ⟨found, ran, keptNext⟩ := turn index state inside kept
      rw [stepped] at ran
      cases ran
      obtain ⟨last, final, ended, beyond, keptFinal⟩ := ih keptNext
      refine ⟨last, final, ?_, beyond, keptFinal⟩
      rw [whileBelow, if_pos inside, stepped]
      exact ended
  | case2 index state inside stopped =>
      obtain ⟨next, ran, _⟩ := turn index state inside kept
      rw [stopped] at ran
      cases ran
  | case3 index state outside =>
      refine ⟨index, state, ?_, by omega, kept⟩
      rw [whileBelow, if_neg outside]

/-- All of a fixed number of accesses, or nothing. -/
def gather {count : Nat} (reads : Fin count → Option Value) : Option (Fin count → Value) :=
  if all : ∀ place, (reads place).isSome then some fun place => (reads place).get (all place)
  else none

theorem gather_each {count : Nat} {reads : Fin count → Option Value}
    (Wanted : Fin count → Value → Prop)
    (each : ∀ place, ∃ value, reads place = some value ∧ Wanted place value) :
    ∃ values, gather reads = some values ∧ ∀ place, Wanted place (values place) := by
  have all : ∀ place, (reads place).isSome := by
    intro place
    obtain ⟨value, read, _⟩ := each place
    rw [read]
    rfl
  refine ⟨fun place => (reads place).get (all place), dif_pos all, ?_⟩
  intro place
  obtain ⟨value, read, wanted⟩ := each place
  have same : (reads place).get (all place) = value := by
    simp only [read, Option.get_some]
  change Wanted place ((reads place).get (all place))
  rw [same]
  exact wanted

def slice (values : List Value) (first last : Nat) : Option (List Value) :=
  if first ≤ last ∧ last ≤ values.length then some ((values.take last).drop first) else none

def store (values : List Value) (index : Nat) (value : Value) : Option (List Value) :=
  if index < values.length then some (values.set index value) else none

def storeSlice (values : List Value) (first : Nat) (block : List Value) : Option (List Value) :=
  if first + block.length ≤ values.length then
    some (values.take first ++ (block ++ values.drop (first + block.length)))
  else none

def splitAt (values : List Value) (mid : Nat) : Option (List Value × List Value) :=
  if mid ≤ values.length then some (values.take mid, values.drop mid) else none

/-- A part of the buffer handed out for writing, and put back. -/
def updateSlice (values : List Value) (first last : Nat)
    (body : List Value → Option (List Value)) : Option (List Value) := do
  let part ← slice values first last
  let updated ← body part
  storeSlice values first updated

theorem slice_part {values : List Value} {first last : Nat} (ordered : first ≤ last)
    (inside : last ≤ values.length) :
    ∃ part, slice values first last = some part ∧ part.length = last - first ∧
      ∀ index < last - first, part[index]? = values[first + index]? := by
  refine ⟨(values.take last).drop first, if_pos ⟨ordered, inside⟩, ?_, ?_⟩
  · rw [List.length_drop, List.length_take, Nat.min_eq_left inside]
  · intro index below
    rw [List.getElem?_drop, List.getElem?_take_of_lt (by omega)]

theorem slice_inside {values : List Value} {first last : Nat} (ordered : first ≤ last)
    (inside : last ≤ values.length) :
    slice values first last = some ((values.take last).drop first) :=
  if_pos ⟨ordered, inside⟩

theorem split_inside {values : List Value} {mid : Nat} (inside : mid ≤ values.length) :
    splitAt values mid = some (values.take mid, values.drop mid) :=
  if_pos inside

theorem get_store {values : List Value} {index : Nat} (inside : index < values.length)
    (value : Value) (place : Nat) :
    (values.set index value)[place]? = if place = index then some value else values[place]? := by
  rw [List.getElem?_set]
  split
  · rename_i same
    subst same
    rw [if_pos rfl]
  · rename_i different
    rw [if_neg (Ne.symm different)]

theorem get_store_slice {values block : List Value} {first : Nat}
    (inside : first + block.length ≤ values.length) (place : Nat) :
    (values.take first ++ (block ++ values.drop (first + block.length)))[place]? =
      if first ≤ place ∧ place < first + block.length then block[place - first]?
      else values[place]? := by
  have length : (values.take first).length = first := by
    rw [List.length_take]
    omega
  by_cases before : place < first
  · rw [List.getElem?_append_left (by omega), List.getElem?_take_of_lt before,
      if_neg (by omega)]
  · rw [List.getElem?_append_right (by omega), length]
    by_cases within : place < first + block.length
    · rw [List.getElem?_append_left (by omega), if_pos (by omega)]
    · rw [List.getElem?_append_right (by omega), List.getElem?_drop, if_neg (by omega)]
      congr 1
      omega

theorem store_slice_length {values block : List Value} {first : Nat}
    (inside : first + block.length ≤ values.length) :
    (values.take first ++ (block ++ values.drop (first + block.length))).length =
      values.length := by
  simp only [List.length_append, List.length_take, List.length_drop]
  omega

/-- A buffer of the given size whose cells before `count` hold the wanted values. -/
structure FilledTo (cell : Nat → Value) (size count : Nat) (values : List Value) : Prop where
  length : values.length = size
  cells : ∀ index < count, values[index]? = some (cell index)

theorem FilledTo.start (cell : Nat → Value) (values : List Value) :
    FilledTo cell values.length 0 values :=
  ⟨rfl, fun _ below => absurd below (Nat.not_lt_zero _)⟩

theorem FilledTo.store {cell : Nat → Value} {size count : Nat} {values : List Value}
    (filled : FilledTo cell size count values) (inside : count < size) :
    ∃ next, CheckedLoops.store values count (cell count) = some next ∧
      FilledTo cell size (count + 1) next := by
  have within : count < values.length := by rw [filled.length]; exact inside
  refine ⟨values.set count (cell count), if_pos within, ?_, ?_⟩
  · rw [List.length_set, filled.length]
  · intro index below
    rw [get_store within]
    split
    · rename_i same
      rw [same]
    · exact filled.cells index (by omega)

theorem FilledTo.storeSlice {cell : Nat → Value} {size count width : Nat}
    {values block : List Value} (filled : FilledTo cell size count values)
    (inside : count + width ≤ size)
    (wanted : FilledTo (fun index => cell (count + index)) width width block) :
    ∃ next, CheckedLoops.storeSlice values count block = some next ∧
      FilledTo cell size (count + width) next := by
  have within : count + block.length ≤ values.length := by
    rw [filled.length, wanted.length]
    exact inside
  refine ⟨_, if_pos within, ?_, ?_⟩
  · rw [store_slice_length within, filled.length]
  · intro index below
    rw [get_store_slice within, wanted.length]
    split
    · rename_i range
      rw [wanted.cells _ (by omega)]
      congr 2
      omega
    · exact filled.cells index (by omega)

theorem FilledTo.complete {cell : Nat → Value} {size : Nat} {values : List Value}
    (filled : FilledTo cell size size values) : values = (List.range size).map cell := by
  apply List.ext_getElem?
  intro index
  by_cases below : index < size
  · rw [filled.cells index below, List.getElem?_map, List.getElem?_range below]
    rfl
  · rw [List.getElem?_eq_none (by rw [filled.length]; omega),
      List.getElem?_eq_none (by rw [List.length_map, List.length_range]; omega)]

theorem filled_range (cell : Nat → Value) (size : Nat) :
    FilledTo cell size size ((List.range size).map cell) := by
  constructor
  · rw [List.length_map, List.length_range]
  · intro index below
    rw [List.getElem?_map, List.getElem?_range below]
    rfl

theorem FilledTo.append {cell : Nat → Value} {first size count : Nat} {left right : List Value}
    (filledLeft : FilledTo cell first first left)
    (filledRight : FilledTo (fun index => cell (first + index)) size count right) :
    FilledTo cell (first + size) (first + count) (left ++ right) := by
  constructor
  · rw [List.length_append, filledLeft.length, filledRight.length]
  · intro index below
    by_cases before : index < first
    · rw [List.getElem?_append_left (by rw [filledLeft.length]; exact before)]
      exact filledLeft.cells index before
    · rw [List.getElem?_append_right (by rw [filledLeft.length]; omega), filledLeft.length,
        filledRight.cells _ (by omega)]
      congr 2
      omega

theorem FilledTo.take {cell : Nat → Value} {size count mid : Nat} {values : List Value}
    (filled : FilledTo cell size count values) (inside : mid ≤ size) (reaches : count ≤ mid) :
    FilledTo cell mid count (values.take mid) := by
  constructor
  · rw [List.length_take, filled.length, Nat.min_eq_left inside]
  · intro index below
    rw [List.getElem?_take_of_lt (by omega)]
    exact filled.cells index below

/-- Filling the next rows of a buffer of rows through a handed out part. -/
theorem FilledTo.updateSlice {cell : Nat → Value} {size count width : Nat} {values : List Value}
    {body : List Value → Option (List Value)} (filled : FilledTo cell size count values)
    (inside : count + width ≤ size)
    (fills : ∀ part : List Value, part.length = width → ∃ updated, body part = some updated ∧
      FilledTo (fun index => cell (count + index)) width width updated) :
    ∃ next, CheckedLoops.updateSlice values count (count + width) body = some next ∧
      FilledTo cell size (count + width) next := by
  obtain ⟨part, taken, length, _⟩ := slice_part (Nat.le_add_right count width)
    (by rw [filled.length]; exact inside : count + width ≤ values.length)
  obtain ⟨updated, ran, wanted⟩ := fills part (by omega)
  obtain ⟨next, stored, filledNext⟩ := filled.storeSlice inside wanted
  refine ⟨next, ?_, filledNext⟩
  unfold CheckedLoops.updateSlice
  rw [taken]
  simp only [Option.bind_eq_bind, Option.bind_some, ran, stored]

theorem FilledTo.congr {cell other : Nat → Value} {size count : Nat} {values : List Value}
    (filled : FilledTo cell size count values) (same : ∀ index < count, cell index = other index) :
    FilledTo other size count values := by
  constructor
  · exact filled.length
  · intro index below
    rw [filled.cells index below, same index below]

theorem FilledTo.overwrite {cell : Nat → Value} {size index : Nat} {values : List Value}
    (filled : FilledTo cell size size values) (inside : index < size) (value : Value) :
    ∃ next, CheckedLoops.store values index value = some next ∧
      FilledTo (fun place => if place = index then value else cell place) size size next := by
  have within : index < values.length := by rw [filled.length]; exact inside
  refine ⟨values.set index value, if_pos within, ?_, ?_⟩
  · rw [List.length_set, filled.length]
  · intro place below
    rw [get_store within]
    split
    · rfl
    · exact filled.cells place below

/-- A part of a full buffer is written again; the cells outside it stay. -/
theorem FilledTo.updateWithin {cell next : Nat → Value} {size first width : Nat}
    {values : List Value} {body : List Value → Option (List Value)}
    (filled : FilledTo cell size size values) (inside : first + width ≤ size)
    (outside : ∀ index, index < first ∨ first + width ≤ index → next index = cell index)
    (rewrites : ∀ part, FilledTo (fun index => cell (first + index)) width width part →
      ∃ updated, body part = some updated ∧
        FilledTo (fun index => next (first + index)) width width updated) :
    ∃ final, CheckedLoops.updateSlice values first (first + width) body = some final ∧
      FilledTo next size size final := by
  obtain ⟨part, taken, length, cells⟩ := slice_part (Nat.le_add_right first width)
    (by rw [filled.length]; exact inside : first + width ≤ values.length)
  rw [Nat.add_sub_cancel_left] at length cells
  have partFilled : FilledTo (fun index => cell (first + index)) width width part := by
    refine ⟨length, ?_⟩
    intro index below
    rw [cells index below]
    exact filled.cells _ (by omega)
  obtain ⟨updated, ran, wanted⟩ := rewrites part partFilled
  have within : first + updated.length ≤ values.length := by
    rw [filled.length, wanted.length]
    exact inside
  refine ⟨values.take first ++ (updated ++ values.drop (first + updated.length)), ?_, ?_, ?_⟩
  · unfold CheckedLoops.updateSlice
    rw [taken]
    simp only [Option.bind_eq_bind, Option.bind_some, ran]
    exact if_pos within
  · rw [store_slice_length within, filled.length]
  · intro index below
    rw [get_store_slice within, wanted.length]
    split
    · rename_i range
      rw [wanted.cells _ (by omega)]
      congr 2
      omega
    · rw [filled.cells index below, outside index (by omega)]

end RwkvSrs.CheckedLoops
