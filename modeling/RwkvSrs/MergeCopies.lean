import RwkvSrs.CheckpointRoundTrip
import RwkvSrs.MergedSave

/-!
What the merging writer copies. A step copies a piece of the backing file as
another one when, wherever the piece stands and whatever was written before, it
reads the one and appends the other. A count that is patched afterwards stands
where its placeholder stood, and the entries behind it are those of the overlay.
-/

namespace RwkvSrs.MergeCopies

open Std CheckpointBytes CheckpointReader CheckpointRoundTrip CheckpointSections CheckpointWriter
open DeterministicState FallibleMethod KeyedMerge KeyedOverlay LittleEndian MergedSave ReadBack
open RuntimeRestore SectionReadBack SelectiveReaders

set_option autoImplicit false

section Rules

variable {Value Next Item : Type}

structure Copies (step : Merger Value) (piece written : List UInt8) (value : Value) : Prop where
  runs : ∀ before after start, (before ++ (piece ++ after)).length < 2 ^ 63 →
    step ⟨⟨before ++ (piece ++ after), before.length⟩, ⟨start, start.length⟩⟩ =
      (.ok value, ⟨⟨before ++ (piece ++ after), before.length + piece.length⟩,
        ⟨start ++ written, start.length + written.length⟩⟩)

theorem write_appends (start piece : List UInt8) :
    (⟨start, start.length⟩ : Destination).write piece =
      ⟨start ++ piece, start.length + piece.length⟩ := by
  simp [Destination.write]

theorem copies_pure (value : Value) : Copies (pure value) [] [] value := by
  apply Copies.mk
  intro before after start _
  simp

theorem copies_bind {first : Merger Value} {next : Value → Merger Next}
    {head tail firstWritten nextWritten : List UInt8} {value : Value} {result : Next}
    (firstCopies : Copies first head firstWritten value)
    (nextCopies : Copies (next value) tail nextWritten result) :
    Copies (first >>= next) (head ++ tail) (firstWritten ++ nextWritten) result := by
  apply Copies.mk
  intro before after start small
  have front : before ++ ((head ++ tail) ++ after) = before ++ (head ++ (tail ++ after)) := by
    rw [List.append_assoc head]
  have back : before ++ (head ++ (tail ++ after)) = (before ++ head) ++ (tail ++ after) := by
    rw [List.append_assoc before]
  rw [front] at small ⊢
  rw [bind_of_ok (firstCopies.runs before (tail ++ after) start small)]
  rw [back] at small ⊢
  have copies := nextCopies.runs (before ++ head) after (start ++ firstWritten) small
  rw [List.length_append, List.length_append] at copies
  rw [copies, List.append_assoc start, List.length_append, List.length_append, Nat.add_assoc,
    Nat.add_assoc]

/-- A step that only reads. -/
theorem copies_reading {read : Reader Value} {piece : List UInt8} {value : Value}
    (reads : ReadsBack read piece value) : Copies (reading read) piece [] value := by
  apply Copies.mk
  intro before after start small
  rw [reading]
  dsimp only
  rw [reads before after small]
  simp

theorem copies_after_read {read : Reader Value} {next : Value → Merger Next}
    {piece tail written : List UInt8} {value : Value} {result : Next}
    (reads : ReadsBack read piece value) (copies : Copies (next value) tail written result) :
    Copies (reading read >>= next) (piece ++ tail) written result := by
  rw [← List.nil_append written]
  exact copies_bind (copies_reading reads) copies

/-- A step that only writes. -/
theorem copies_write (piece : List UInt8) : Copies (binWriteAll piece) [] piece () := by
  apply Copies.mk
  intro before after start _
  rw [binWriteAll, update_apply, write_appends]
  rfl

theorem copies_after_write {next : Merger Next} {tail written : List UInt8} {result : Next}
    (piece : List UInt8) (copies : Copies next tail written result) :
    Copies (binWriteAll piece >>= fun _ => next) tail (piece ++ written) result := by
  rw [← List.nil_append tail]
  exact copies_bind (copies_write piece) copies

theorem copies_checked {made : Except String (List UInt8)} {piece : List UInt8}
    (same : made = .ok piece) : Copies (binWriteChecked made) [] piece () := by
  subst same
  apply Copies.mk
  exact (copies_write piece).runs

theorem copies_then_pure {first : Merger Value} {piece written : List UInt8} {value : Value}
    (copies : Copies first piece written value) (result : Value → Next) :
    Copies (first >>= fun value => pure (result value)) piece written (result value) := by
  rw [← List.append_nil piece, ← List.append_nil written]
  exact copies_bind copies (copies_pure (result value))

theorem copies_each {visit : Item → Merger Unit} {written : Item → List UInt8} {items : List Item}
    (each : ∀ item ∈ items, Copies (visit item) [] (written item) ()) :
    Copies (items.forM visit) [] (items.flatMap written) () := by
  induction items with
  | nil => exact copies_pure ()
  | cons item items ih =>
      rw [List.flatMap_cons]
      have rest := ih fun other member => each other (List.mem_cons_of_mem item member)
      exact copies_bind (each item List.mem_cons_self) rest

theorem copies_of_small {step : Merger Value} {piece written : List UInt8} {value : Value}
    (copies : piece.length < 2 ^ 63 → Copies step piece written value) :
    Copies step piece written value := by
  apply Copies.mk
  intro before after start small
  have short : piece.length < 2 ^ 63 := by
    simp only [List.length_append] at small
    omega
  exact (copies short).runs before after start small

theorem placeholder_written (reader : Cursor) (start : List UInt8) :
    writeCountPlaceholder ⟨reader, ⟨start, start.length⟩⟩ =
      (.ok start.length, ⟨reader, ⟨start ++ binWriteU64 0, (start ++ binWriteU64 0).length⟩⟩) := by
  rw [List.length_append, ← write_appends]
  rfl

theorem count_patched (reader : Cursor) (start entries : List UInt8) (count : Nat) :
    patchCount start.length count ⟨reader, ⟨start ++ binWriteU64 0 ++ entries,
        (start ++ binWriteU64 0 ++ entries).length⟩⟩ =
      (.ok (), ⟨reader, ⟨start ++ (binWriteU64 count ++ entries),
        start.length + (binWriteU64 count ++ entries).length⟩⟩) := by
  have width : (binWriteU64 count).length = (binWriteU64 0).length := by
    rw [write_u64_length, write_u64_length]
  have front : (start ++ (binWriteU64 0 ++ entries)).take start.length = start := List.take_left
  have rest : (start ++ (binWriteU64 0 ++ entries)).drop (start.length + (binWriteU64 count).length) =
      entries := by
    rw [width, ← List.append_assoc, ← List.length_append]
    exact List.drop_left
  have patched : (⟨start ++ (binWriteU64 0 ++ entries), start.length⟩ : Destination).write
      (binWriteU64 count) = ⟨start ++ (binWriteU64 count ++ entries),
        start.length + (binWriteU64 count).length⟩ := by
    rw [Destination.write]
    dsimp only
    rw [front, rest, List.append_assoc]
  have finish : (start ++ (binWriteU64 0 ++ entries)).length =
      start.length + (binWriteU64 count ++ entries).length := by
    rw [List.length_append, List.length_append, List.length_append, width]
  rw [List.append_assoc, ← finish]
  change (Except.ok (), (⟨reader, { (⟨start ++ (binWriteU64 0 ++ entries), start.length⟩ :
    Destination).write (binWriteU64 count) with
      position := (start ++ (binWriteU64 0 ++ entries)).length }⟩ : MergeState)) = _
  rw [patched]

/-- The count that is patched stands before everything that was written since its placeholder. -/
theorem copies_counted {body : Merger Value} {finish : Value → Merger Unit} {count : Value → Nat}
    {piece bodyWritten finishWritten : List UInt8} {value : Value}
    (bodyCopies : Copies body piece bodyWritten value)
    (finishCopies : Copies (finish value) [] finishWritten ()) :
    Copies (do
      let countPosition ← writeCountPlaceholder
      let progress ← body
      finish progress
      patchCount countPosition (count progress)) piece
      (binWriteU64 (count value) ++ (bodyWritten ++ finishWritten)) () := by
  apply Copies.mk
  intro before after start small
  rw [bind_of_ok (placeholder_written _ start)]
  rw [bind_of_ok (bodyCopies.runs before after (start ++ binWriteU64 0) small)]
  have position : before ++ (piece ++ after) = (before ++ piece) ++ ([] ++ after) := by simp
  have ends := finishCopies.runs (before ++ piece) after (start ++ binWriteU64 0 ++ bodyWritten)
    (position ▸ small)
  have placed : (start ++ binWriteU64 0 ++ bodyWritten).length =
      (start ++ binWriteU64 0).length + bodyWritten.length := List.length_append
  rw [← position, List.length_append, placed] at ends
  rw [bind_of_ok ends]
  have last := count_patched ⟨before ++ (piece ++ after), before.length + piece.length⟩ start
    (bodyWritten ++ finishWritten) (count value)
  simp only [List.append_assoc, List.length_append, List.length_nil, Nat.add_zero,
    Nat.add_assoc] at last ⊢
  exact last

end Rules

section Entries

variable {Value Item : Type}

theorem below_iff (entry : Int64 × Value) (key : Int64) :
    isBelow key entry = true ↔ entry.1 < key := by
  simp [isBelow, Std.compare_eq_lt]

/-- The identities outside the scope. -/
def outside (selected : ExtTreeSet Int64) (identity : Int64) : Bool := decide (identity ∉ selected)

variable {write : Int64 × Value → Merger Unit} {written : Int64 × Value → List UInt8}

theorem copies_below {pending : List (Int64 × Value)} (key : Int64) (count : Nat)
    (each : ∀ entry ∈ pending, Copies (write entry) [] (written entry) ()) :
    Copies (writeBelow write key pending count) []
      ((pending.takeWhile (isBelow key)).flatMap written)
      ⟨pending.dropWhile (isBelow key), count + (pending.takeWhile (isBelow key)).length⟩ := by
  induction pending generalizing count with
  | nil => exact copies_pure _
  | cons entry pending ih =>
      by_cases below : entry.1 < key
      · have isBelow := (below_iff entry key).mpr below
        have rest := ih (count + 1) fun other member => each other (List.mem_cons_of_mem entry member)
        rw [writeBelow, if_pos below, List.takeWhile_cons, if_pos isBelow, List.dropWhile_cons,
          if_pos isBelow, List.flatMap_cons, List.length_cons]
        rw [Nat.add_assoc, Nat.add_comm 1] at rest
        exact copies_bind (each entry List.mem_cons_self) rest
      · have notBelow : ¬isBelow key entry = true := fun isBelow => below ((below_iff entry key).mp isBelow)
        rw [writeBelow, if_neg below, List.takeWhile_cons, if_neg notBelow, List.dropWhile_cons,
          if_neg notBelow]
        exact copies_pure _

theorem copies_unselected (selected : ExtTreeSet Int64) {backing : Int64 × Value}
    (progress : MergeProgress Value) (copies : Copies (write backing) [] (written backing) ()) :
    Copies (writeUnselected write selected backing progress) []
      ((if outside selected backing.1 = true then [backing] else []).flatMap written)
      ⟨progress.pending, progress.outputCount +
        (if outside selected backing.1 = true then [backing] else []).length⟩ := by
  by_cases inside : backing.1 ∈ selected
  · have kept : ¬outside selected backing.1 = true := by simp [outside, inside]
    rw [writeUnselected, if_pos inside, if_neg kept]
    exact copies_pure progress
  · have kept : outside selected backing.1 = true := by simp [outside, inside]
    rw [writeUnselected, if_neg inside, if_pos kept, List.flatMap_singleton]
    exact copies_then_pure copies _

variable {read : Reader (Int64 × Value)} {selected : ExtTreeSet Int64}

theorem copies_entry {piece : List UInt8} {backing : Int64 × Value}
    (reads : ReadsBack read piece backing) (progress : MergeProgress Value)
    (each : ∀ entry ∈ progress.pending, Copies (write entry) [] (written entry) ())
    (own : Copies (write backing) [] (written backing) ()) :
    Copies (copyEntry read write selected progress) piece
      ((progress.pending.takeWhile (isBelow backing.1) ++ (takeAt (outside selected) backing
        (progress.pending.dropWhile (isBelow backing.1))).1).flatMap written)
      ⟨(takeAt (outside selected) backing (progress.pending.dropWhile (isBelow backing.1))).2,
        progress.outputCount + (progress.pending.takeWhile (isBelow backing.1) ++
          (takeAt (outside selected) backing
            (progress.pending.dropWhile (isBelow backing.1))).1).length⟩ := by
  have below := copies_below backing.1 progress.outputCount each
  have later : ∀ entry ∈ progress.pending.dropWhile (isBelow backing.1),
      Copies (write entry) [] (written entry) () :=
    fun entry member => each entry (List.dropWhile_sublist _ |>.subset member)
  rw [List.flatMap_append, ← List.append_nil piece, ← List.nil_append (List.flatMap _ _ ++ _)]
  apply copies_bind (copies_reading reads)
  rw [← List.nil_append ([] : List UInt8)]
  apply copies_bind below
  rw [List.length_append, ← Nat.add_assoc]
  cases behind : progress.pending.dropWhile (isBelow backing.1) with
  | nil => exact copies_unselected selected _ own
  | cons entry pending =>
      rw [behind] at later
      by_cases same : entry.1 = backing.1
      · have equal : compare entry.1 backing.1 = .eq := Std.compare_eq_iff_eq.mpr same
        simp only [takeAt, if_pos equal, if_pos same, List.flatMap_singleton]
        exact copies_then_pure (later entry List.mem_cons_self) _
      · have different : ¬compare entry.1 backing.1 = .eq :=
          fun equal => same (Std.compare_eq_iff_eq.mp equal)
        simp only [takeAt, if_neg different, if_neg same]
        exact copies_unselected selected _ own

theorem taken_rest {kept : Int64 → Bool} {lower : Int64 × Value} {upper : List (Int64 × Value)}
    {entry : Int64 × Value} (member : entry ∈ (takeAt kept lower upper).2) : entry ∈ upper := by
  cases upper with
  | nil => exact member
  | cons first upper =>
      rw [takeAt] at member
      split at member
      · exact List.mem_cons_of_mem first member
      · exact member

theorem left_over {kept : Int64 → Bool} {lower upper : List (Int64 × Value)}
    {entry : Int64 × Value} (member : entry ∈ (overlay kept lower upper).2) : entry ∈ upper := by
  induction lower generalizing upper with
  | nil => exact member
  | cons first lower ih => exact (List.dropWhile_sublist _).subset (taken_rest (ih member))

theorem copies_entries {items : List Item} {piece : Item → List UInt8}
    {value : Item → Int64 × Value}
    (reads : ∀ item ∈ items, ReadsBack read (piece item) (value item))
    (own : ∀ item ∈ items, Copies (write (value item)) [] (written (value item)) ())
    (progress : MergeProgress Value)
    (each : ∀ entry ∈ progress.pending, Copies (write entry) [] (written entry) ()) :
    Copies (copyEntries read write selected items.length progress) (items.flatMap piece)
      ((overlay (outside selected) (items.map value) progress.pending).1.flatMap written)
      ⟨(overlay (outside selected) (items.map value) progress.pending).2, progress.outputCount +
        (overlay (outside selected) (items.map value) progress.pending).1.length⟩ := by
  induction items generalizing progress with
  | nil => exact copies_pure progress
  | cons item items ih =>
      have entry := @copies_entry Value write written read selected (piece item) (value item)
        (reads item List.mem_cons_self) progress each (own item List.mem_cons_self)
      have pending : ∀ other ∈ (takeAt (outside selected) (value item)
          (progress.pending.dropWhile (isBelow (value item).1))).2,
          Copies (write other) [] (written other) () := by
        intro other member
        apply each
        apply (List.dropWhile_sublist (isBelow (value item).1)).subset
        exact taken_rest member
      have rest := ih (fun other member => reads other (List.mem_cons_of_mem item member))
        (fun other member => own other (List.mem_cons_of_mem item member))
        ⟨_, progress.outputCount + (progress.pending.takeWhile (isBelow (value item).1) ++
          (takeAt (outside selected) (value item)
            (progress.pending.dropWhile (isBelow (value item).1))).1).length⟩ pending
      have both := copies_bind entry rest
      rw [← List.flatMap_append, Nat.add_assoc, ← List.length_append, List.append_assoc] at both
      rw [List.map_cons, List.flatMap_cons]
      exact both

theorem copies_merged {items : List Item} {piece : Item → List UInt8}
    {value : Item → Int64 × Value} (field : String) (counted : items.length < 2 ^ 64)
    (reads : ∀ item ∈ items, ReadsBack read (piece item) (value item))
    (own : ∀ item ∈ items, Copies (write (value item)) [] (written (value item)) ())
    {current : List (Int64 × Value)}
    (each : ∀ entry ∈ current, Copies (write entry) [] (written entry) ()) :
    Copies (binCopyMerged field read write current selected)
      (binWriteU64 items.length ++ items.flatMap piece)
      (binWriteU64 (overlaid (outside selected) (items.map value) current).length ++
        (overlaid (outside selected) (items.map value) current).flatMap written) () := by
  have body : Copies (copyEntries read write selected items.length ⟨current, 0⟩) _ _ _ :=
    copies_entries reads own ⟨current, 0⟩ each
  have left : ∀ entry ∈ (overlay (outside selected) (items.map value) current).2,
      Copies (write entry) [] (written entry) () :=
    fun entry member => each entry (left_over member)
  have patched := @copies_counted (MergeProgress Value) _ (fun progress => progress.pending.forM write)
    (fun progress => progress.outputCount + progress.pending.length) _ _ _ _ body (copies_each left)
  dsimp only at patched
  rw [Nat.zero_add, ← List.length_append, ← List.flatMap_append] at patched
  exact copies_after_read (reads_usize counted field) patched

end Entries

section Collections

variable {Value Found : Type}

/-- The backing entries outside the scope, and every current entry. -/
def overlayMap (selected : ExtTreeSet Int64) (backing current : ExtTreeMap Int64 Value) :
    ExtTreeMap Int64 Value :=
  backing.filter (fun identity _ => outside selected identity) ∪ current

def overlaySet (selected backing current : ExtTreeSet Int64) : ExtTreeSet Int64 :=
  backing.filter (outside selected) ∪ current

theorem overlay_entry (selected : ExtTreeSet Int64) (backing current : ExtTreeMap Int64 Value)
    (identity : Int64) :
    (overlayMap selected backing current)[identity]? =
      current[identity]?.or (if identity ∈ selected then none else backing[identity]?) := by
  rw [overlayMap, ExtTreeMap.getElem?_union, ExtTreeMap.getElem?_filter']
  cases current[identity]? with
  | some replaced => simp
  | none =>
      cases backing[identity]? with
      | none => simp
      | some held =>
          by_cases inside : identity ∈ selected
          · simp [outside, inside]
          · simp [outside, inside]

theorem overlaid_list (selected : ExtTreeSet Int64) (backing current : ExtTreeMap Int64 Value) :
    overlaid (outside selected) backing.toList current.toList =
      (overlayMap selected backing current).toList := by
  have laid : Overlaid (outside selected) backing.toList current.toList
      (overlaid (outside selected) backing.toList current.toList) :=
    overlaid_spec ExtTreeMap.ordered_keys_toList ExtTreeMap.ordered_keys_toList
  apply ascending_unique laid.ascending ExtTreeMap.ordered_keys_toList
  intro entry
  obtain ⟨identity, value⟩ := entry
  rw [laid.entries, ExtTreeMap.mem_toList_iff_getElem?_eq_some,
    ExtTreeMap.mem_toList_iff_getElem?_eq_some, ExtTreeMap.mem_toList_iff_getElem?_eq_some,
    overlay_entry, ExtTreeMap.map_fst_toList_eq_keys, ExtTreeMap.mem_keys,
    ExtTreeMap.mem_iff_isSome_getElem?]
  dsimp only
  cases current[identity]? with
  | some held => simp
  | none =>
      by_cases inside : identity ∈ selected
      · simp [outside, inside]
      · simp [outside, inside]

theorem copies_map {field : String} {readValue : Reader Found} {piece : Value → List UInt8}
    {writeValue : Found → Except String (List UInt8)} {written : Found → List UInt8}
    {convert : Value → Found} {backing : ExtTreeMap Int64 Value} {current : ExtTreeMap Int64 Found}
    (reads : ∀ (identity : Int64) value, backing[identity]? = some value →
      ReadsBack readValue (piece value) (convert value))
    (own : ∀ (identity : Int64) value, backing[identity]? = some value →
      writeValue (convert value) = .ok (written (convert value)))
    (each : ∀ (identity : Int64) value, current[identity]? = some value →
      writeValue value = .ok (written value)) (selected : ExtTreeSet Int64) :
    Copies (binCopyMergedI64Map field current selected readValue writeValue)
      (binWriteI64Map piece backing)
      (binWriteI64Map written
        (overlayMap selected (backing.map fun _ value => convert value) current)) () := by
  apply copies_of_small
  intro small
  have count : backing.toList.length = backing.size := ExtTreeMap.length_toList
  have wide : ∀ entry : Int64 × Value, 8 ≤ (binWriteI64 entry.1 ++ piece entry.2).length := by
    intro entry
    rw [List.length_append, write_i64_length]
    omega
  have bound := piece_bounds_count backing.toList wide
  have counted : backing.toList.length < 2 ^ 64 := by
    rw [binWriteI64Map, List.length_append] at small
    omega
  have readsEntry : ∀ entry ∈ backing.toList, ReadsBack (do
      let backingKey ← binReadI64 field
      return (backingKey, ← readValue)) (binWriteI64 entry.1 ++ piece entry.2)
      (entry.1, convert entry.2) := by
    intro entry member
    have held := ExtTreeMap.mem_toList_iff_getElem?_eq_some.mp member
    apply reads_bind (reads_i64 entry.1 field)
    exact reads_return (fun value => (entry.1, value)) (reads entry.1 entry.2 held)
  have writes : ∀ entry : Int64 × Found, writeValue entry.2 = .ok (written entry.2) →
      Copies (do
        binWriteAll (binWriteI64 entry.1)
        binWriteChecked (writeValue entry.2)) [] (binWriteI64 entry.1 ++ written entry.2) () := by
    intro entry made
    exact copies_bind (copies_write (binWriteI64 entry.1)) (copies_checked made)
  have merged : Copies (binCopyMerged field _ _ current.toList selected) _ _ () :=
    copies_merged field counted readsEntry (fun entry member => writes (entry.1, convert entry.2)
      (own entry.1 entry.2 (ExtTreeMap.mem_toList_iff_getElem?_eq_some.mp member)))
    (fun entry member => writes entry
      (each entry.1 entry.2 (ExtTreeMap.mem_toList_iff_getElem?_eq_some.mp member)))
  have converted : (backing.toList.map fun entry => (entry.1, convert entry.2)) =
      (backing.map fun _ value => convert value).toList := by
    rw [ExtTreeMap.toList_map]
  rw [converted, overlaid_list, count, ExtTreeMap.length_toList] at merged
  exact merged

theorem unit_entries (values : ExtTreeSet Int64) :
    Ascending (values.toList.map fun value => (value, ())) := by
  have ordered : values.toList.Pairwise fun first second => compare first second = .lt :=
    ExtTreeSet.ordered_toList
  exact List.pairwise_map.mpr ordered

theorem overlaid_set (selected backing current : ExtTreeSet Int64) :
    overlaid (outside selected) (backing.toList.map fun value => (value, ()))
        (current.toList.map fun value => (value, ())) =
      (overlaySet selected backing current).toList.map fun value => (value, ()) := by
  have laid : Overlaid (outside selected) (backing.toList.map fun value => (value, ()))
      (current.toList.map fun value => (value, ()))
      (overlaid (outside selected) (backing.toList.map fun value => (value, ()))
        (current.toList.map fun value => (value, ()))) :=
    overlaid_spec (unit_entries backing) (unit_entries current)
  apply ascending_unique laid.ascending (unit_entries _)
  intro entry
  obtain ⟨identity, value⟩ := entry
  rw [laid.entries]
  simp only [List.mem_map, ExtTreeSet.mem_toList, overlaySet, Prod.mk.injEq, List.map_map]
  by_cases held : identity ∈ current
  · simp [held]
  · by_cases inside : identity ∈ selected
    · simp [held, inside, outside]
    · simp [held, inside, outside]

theorem copies_set (field : String) (backing current selected : ExtTreeSet Int64) :
    Copies (binCopyMergedI64Set field current selected) (binWriteI64Set backing)
      (binWriteI64Set (overlaySet selected backing current)) () := by
  apply copies_of_small
  intro small
  have count : backing.toList.length = backing.size := ExtTreeSet.length_toList
  have bound := piece_bounds_count backing.toList fun value => (write_i64_length value).ge
  have counted : backing.toList.length < 2 ^ 64 := by
    rw [binWriteI64Set, List.length_append] at small
    omega
  have writes : ∀ entry : Int64 × Unit, Copies (binWriteAll (binWriteI64 entry.1)) []
      (binWriteI64 entry.1) () := fun entry => copies_write (binWriteI64 entry.1)
  have readsEntry : ∀ value ∈ backing.toList, ReadsBack (do return (← binReadI64 field, ()))
      (binWriteI64 value) (value, ()) :=
    fun value _ => reads_return (fun value => (value, ())) (reads_i64 value field)
  have merged : Copies (binCopyMerged field _ _ (current.toList.map fun value => (value, ()))
      selected) _ _ () :=
    copies_merged field counted readsEntry (fun value _ => writes (value, ()))
      (fun entry _ => writes entry)
  rw [overlaid_set, List.length_map, List.flatMap_map, count, ExtTreeSet.length_toList] at merged
  exact merged

end Collections

end RwkvSrs.MergeCopies
