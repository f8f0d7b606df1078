import Mathlib.Data.List.Nodup
import Mathlib.Logic.Function.Basic
import RwkvSrs.ResultSteps

/-!
Loops that cannot fail while an invariant of the position holds, and rows that
carry a key and advance the state of that key alone. A key's state after any rows
is the one its own rows lead to, so rows of different keys may be taken in any
order.
-/

namespace RwkvSrs.StreamLoops

open RwkvSrs.ResultSteps

set_option autoImplicit false

section Loops

variable {Failure Item Value : Type}

/-- Each turn succeeds and keeps the invariant, so the loop succeeds and ends in it. -/
theorem fold_positions {turn : Value → Item → Except Failure Value} (Kept : Nat → Value → Prop)
    (items : List Item) {start : Value} (begins : Kept 0 start)
    (each : ∀ (position : Nat) (item : Item) (value : Value), items[position]? = some item →
      Kept position value → ∃ next, turn value item = .ok next ∧ Kept (position + 1) next) :
    ∃ last, items.foldlM turn start = .ok last ∧ Kept items.length last := by
  induction items generalizing start Kept with
  | nil => exact ⟨start, rfl, begins⟩
  | cons item items ih =>
      obtain ⟨next, turned, kept⟩ := each 0 item start rfl begins
      have later : ∀ (position : Nat) (item : Item) (value : Value),
          items[position]? = some item → Kept (position + 1) value →
          ∃ next, turn value item = .ok next ∧ Kept (position + 1 + 1) next := by
        intro position other value found before
        exact each (position + 1) other value found before
      obtain ⟨last, run, ends⟩ := ih (fun position => Kept (position + 1)) kept later
      refine ⟨last, ?_, ends⟩
      rw [List.foldlM_cons, turned]
      exact run

theorem zip_index_at {items : List Item} {position : Nat} {item : Item × Nat}
    (found : items.zipIdx[position]? = some item) :
    items[position]? = some item.1 ∧ item.2 = position := by
  rw [List.getElem?_zipIdx] at found
  cases at_ : items[position]? with
  | none =>
      rw [at_] at found
      cases found
  | some one =>
      rw [at_] at found
      cases found
      exact ⟨rfl, Nat.zero_add position⟩

theorem take_next {items : List Item} {position : Nat} {item : Item}
    (found : items[position]? = some item) :
    items.take (position + 1) = items.take position ++ [item] := by
  rw [List.take_add_one, found]
  rfl

theorem nodup_snoc {items : List Item} {item : Item} (distinct : items.Nodup)
    (fresh : item ∉ items) : (items ++ [item]).Nodup := by
  apply List.nodup_append.mpr
  refine ⟨distinct, List.pairwise_singleton _ item, ?_⟩
  intro one before other last same
  rw [List.mem_singleton.mp last] at same
  exact fresh (same ▸ before)

theorem fresh_at {Name : Type} {name : Item → Name} {items : List Item} {position : Nat}
    {item : Item} (distinct : (items.map name).Nodup) (found : items[position]? = some item) :
    name item ∉ (items.take position).map name := by
  obtain ⟨inside, here⟩ := List.getElem?_eq_some_iff.mp found
  have split : items.map name = (items.take position).map name ++
      name item :: (items.drop (position + 1)).map name := by
    conv_lhs => rw [← List.take_append_drop position items, List.map_append,
      List.drop_eq_getElem_cons inside, here, List.map_cons]
  rw [split] at distinct
  intro member
  exact (List.nodup_append.mp distinct).2.2 _ member _ (by simp) rfl

end Loops

section Streams

variable {Key State Row Out : Type} [DecidableEq Key] (key : Row → Key) (step : State → Row → State)

def keyedStep (states : Key → State) (row : Row) : Key → State :=
  Function.update states (key row) (step (states (key row)) row)

/-- The rows of one key, in order. -/
def streamRows (rows : List Row) (one : Key) : List Row :=
  rows.filter fun row => key row = one

/-- The outputs of all rows, each from the state its key has when its turn comes. -/
def keyedOutputs (out : State → Row → Out) (states : Key → State) : List Row → List Out
  | [] => []
  | row :: rows =>
      out (states (key row)) row :: keyedOutputs out (keyedStep key step states row) rows

variable {key step} {out : State → Row → Out}

theorem keyed_fold (states : Key → State) (rows : List Row) (one : Key) :
    rows.foldl (keyedStep key step) states one =
      (streamRows key rows one).foldl step (states one) := by
  induction rows generalizing states with
  | nil => rfl
  | cons row rows ih =>
      rw [List.foldl_cons, ih]
      by_cases same : key row = one
      · subst same
        simp [streamRows, keyedStep]
      · have other : Function.update states (key row) (step (states (key row)) row) one =
            states one := Function.update_of_ne (Ne.symm same) _ _
        simp [streamRows, keyedStep, same, other]

theorem keyed_outputs_length (states : Key → State) (rows : List Row) :
    (keyedOutputs key step out states rows).length = rows.length := by
  induction rows generalizing states with
  | nil => rfl
  | cons row rows ih => simp [keyedOutputs, ih]

theorem keyed_output_at (states : Key → State) {rows : List Row} {position : Nat} {row : Row}
    (found : rows[position]? = some row) :
    (keyedOutputs key step out states rows)[position]? =
      some (out ((rows.take position).foldl (keyedStep key step) states (key row)) row) := by
  induction rows generalizing states position with
  | nil => cases found
  | cons first rows ih =>
      cases position with
      | zero =>
          cases found
          rfl
      | succ position =>
          have later := ih (keyedStep key step states first) found
          rw [keyedOutputs, List.getElem?_cons_succ, later, List.take_succ_cons, List.foldl_cons]

/-- Where a row stands in its stream, the rows of its key before it are the ones before it there. -/
theorem stream_before {rows : List Row} (distinct : rows.Nodup) {one : Key} {depth position : Nat}
    {row : Row} (inStream : (streamRows key rows one)[depth]? = some row)
    (inRows : rows[position]? = some row) :
    streamRows key (rows.take position) one = (streamRows key rows one).take depth := by
  have own : key row = one := by
    have member := List.mem_of_getElem? inStream
    simpa [streamRows] using (List.mem_filter.mp member).2
  obtain ⟨inside, here⟩ := List.getElem?_eq_some_iff.mp inRows
  have split : rows = rows.take position ++ row :: rows.drop (position + 1) := by
    rw [← here, ← List.drop_eq_getElem_cons inside, List.take_append_drop]
  have stream : streamRows key rows one = streamRows key (rows.take position) one ++
      row :: streamRows key (rows.drop (position + 1)) one := by
    conv_lhs => rw [split]
    simp [streamRows, own]
  have streamDistinct : (streamRows key rows one).Nodup := distinct.filter _
  have at_ : (streamRows key rows one)[(streamRows key (rows.take position) one).length]? =
      some row := by
    rw [stream, List.getElem?_append_right (Nat.le_refl _), Nat.sub_self]
    rfl
  have depthHere : depth = (streamRows key (rows.take position) one).length := by
    have bound := (List.getElem?_eq_some_iff.mp inStream).1
    exact (List.getElem?_inj bound streamDistinct).mp (inStream.trans at_.symm)
  rw [depthHere, stream, List.take_left]

variable (key) in
/-- Where the rows of one key stand, in order. -/
def streamPositions (rows : List Row) (one : Key) : List Nat :=
  (rows.zipIdx.filter fun row => key row.1 = one).map Prod.snd

variable {states : Key → State} {rows : List Row} {one : Key} {stepAt : State → Nat → State}

theorem zip_index_nodup (rows : List Row) : rows.zipIdx.Nodup := by
  apply List.Nodup.of_map Prod.snd
  rw [List.zipIdx_map_snd]
  exact List.nodup_range'

theorem zip_index_fst (rows : List Row) (count : Nat) :
    (rows.zipIdx.take count).map Prod.fst = rows.take count := by
  rw [List.map_take, List.zipIdx_map_fst]

theorem position_fold (same : ∀ position row state, rows[position]? = some row →
      stepAt state position = step state row) (start : State) {part : List (Row × Nat)}
    (within : ∀ row ∈ part, row ∈ rows.zipIdx) :
    (part.map Prod.snd).foldl stepAt start =
      part.foldl (fun state row => step state row.1) start := by
  induction part generalizing start with
  | nil => rfl
  | cons row part ih =>
      have here := List.mem_zipIdx_iff_getElem?.mp (within row (by simp))
      rw [List.map_cons, List.foldl_cons, List.foldl_cons, same row.2 row.1 start here]
      exact ih _ fun other member => within other (List.mem_cons_of_mem _ member)

theorem stream_fold (same : ∀ position row state, rows[position]? = some row →
      stepAt state position = step state row) :
    (streamPositions key rows one).foldl stepAt (states one) =
      rows.foldl (keyedStep key step) states one := by
  rw [streamPositions, position_fold same _ fun row member => (List.mem_filter.mp member).1]
  have all := @keyed_fold Key State (Row × Nat) _ (fun row => key row.1)
    (fun state row => step state row.1) states rows.zipIdx one
  have plain : rows.zipIdx.foldl (keyedStep (fun row => key row.1)
      fun state row => step state row.1) states = rows.foldl (keyedStep key step) states := by
    conv_rhs => rw [← List.zipIdx_map_fst 0 rows, List.foldl_map]
    rfl
  rw [plain] at all
  exact all.symm

/-- The state of a stream before a row, when the rows before it are taken with all others. -/
theorem stream_position (same : ∀ position row state, rows[position]? = some row →
      stepAt state position = step state row) {depth position : Nat}
    (found : (streamPositions key rows one)[depth]? = some position) :
    ∃ row, rows[position]? = some row ∧ key row = one ∧
      ((streamPositions key rows one).take depth).foldl stepAt (states one) =
        (rows.take position).foldl (keyedStep key step) states one := by
  rw [streamPositions, List.getElem?_map] at found
  obtain ⟨⟨row, index⟩, inStream, here⟩ := Option.map_eq_some_iff.mp found
  change index = position at here
  subst here
  have member := List.mem_filter.mp (List.mem_of_getElem? inStream)
  have at_ : rows[index]? = some row := List.mem_zipIdx_iff_getElem?.mp member.1
  have indexed : rows.zipIdx[index]? = some (row, index) := by
    rw [List.getElem?_zipIdx, at_]
    simp
  refine ⟨row, at_, by simpa using member.2, ?_⟩
  have before := stream_before (zip_index_nodup rows) inStream indexed
  have plain : (rows.zipIdx.take index).foldl (keyedStep (fun row => key row.1)
      fun state row => step state row.1) states =
        (rows.take index).foldl (keyedStep key step) states := by
    conv_rhs => rw [← zip_index_fst, List.foldl_map]
    rfl
  rw [streamPositions, ← List.map_take, position_fold same]
  · change (((streamRows (fun row => key row.1) rows.zipIdx one).take depth).foldl _ _) = _
    rw [← before, ← plain, keyed_fold]
  · intro other within
    exact (List.mem_filter.mp (List.mem_of_mem_take within)).1

theorem position_covered {row : Row} {position : Nat} (found : rows[position]? = some row) :
    position ∈ streamPositions key rows (key row) := by
  apply List.mem_map.mpr
  exact ⟨(row, position), List.mem_filter.mpr ⟨List.mem_zipIdx_iff_getElem?.mpr found, by simp⟩,
    rfl⟩

end Streams

end RwkvSrs.StreamLoops
