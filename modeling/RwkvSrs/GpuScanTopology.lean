import Mathlib.Data.List.Induction
import RwkvSrs.GpuScanPlan

/-!
What the plan of a batch contains. `Planned` lists, for the streams handled so
far, where the rows, the transform chunks and the final chunks of every entity
stand, and that nothing else stands in the plan. One stream extends every list
of the plan at its end, so the facts about earlier entities stay.
-/

namespace RwkvSrs.GpuScanTopology

set_option autoImplicit false

open GpuScanPlan

section Append

universe u

variable {Item : Type u}

theorem some_append {items : List Item} {place : Nat} {item : Item}
    (found : items[place]? = some item) (more : List Item) :
    (items ++ more)[place]? = some item := by
  rw [List.getElem?_append_left (List.getElem?_eq_some_iff.mp found).1]
  exact found

theorem append_place (items more : List Item) (place : Nat) :
    (items ++ more)[items.length + place]? = more[place]? := by
  rw [List.getElem?_append_right (by omega)]
  congr 1
  omega

variable {Source : Type*}

/-- Blocks of one length stand at the multiples of that length. -/
theorem uniform_blocks_place (blocks : Source → List Item) (size : Nat) (sources : List Source)
    (uniform : ∀ source ∈ sources, (blocks source).length = size) (position : Nat)
    (source : Source) (found : sources[position]? = some source) (offset : Nat)
    (inside : offset < size) :
    (sources.flatMap blocks)[position * size + offset]? = (blocks source)[offset]? := by
  induction sources generalizing position with
  | nil => simp at found
  | cons first sources ih =>
      have firstSize := uniform first (by simp)
      rw [List.flatMap_cons]
      cases position with
      | zero =>
          have same : first = source := by simpa using found
          rw [Nat.zero_mul, Nat.zero_add, List.getElem?_append_left (by omega), same]
      | succ position =>
          have later : sources[position]? = some source := by simpa using found
          have place : (position + 1) * size + offset =
              (blocks first).length + (position * size + offset) := by
            rw [firstSize]
            ring
          rw [place, append_place]
          apply ih
          · intro other member
            exact uniform other (List.mem_cons_of_mem _ member)
          · exact later

theorem uniform_blocks_length (blocks : Source → List Item) (size : Nat) (sources : List Source)
    (uniform : ∀ source ∈ sources, (blocks source).length = size) :
    (sources.flatMap blocks).length = sources.length * size := by
  induction sources with
  | nil => simp
  | cons first sources ih =>
      rw [List.flatMap_cons, List.length_append, uniform first (by simp),
        ih (fun other member => uniform other (List.mem_cons_of_mem _ member)), List.length_cons]
      ring

end Append

section Entities

variable (mode : GpuProcessScanMode) (chunkReviews : Nat) (hasState : Option Int64 → Bool)

theorem rows_per_review_positive : 0 < mode.rowsPerReview := by
  cases mode <;> decide

def transformCount (stream : EntityStream) : Nat := finalChunkCount chunkReviews stream - 1

def rowStart (streams : List EntityStream) (entity : Nat) : Nat :=
  ((streams.take entity).map fun stream => stream.rows.length * mode.rowsPerReview).sum

def transformStart (streams : List EntityStream) (entity : Nat) : Nat :=
  ((streams.take entity).map (transformCount chunkReviews)).sum

def plannedRow (start entity : Nat) (stream : EntityStream) (position offset : Nat) : RowMeta where
  previousProcessRow := if position = 0 then none else some (start + position * mode.rowsPerReview - 1)
  entity := entity
  rowHasState := hasState stream.key
  rowLastProcess := offset == mode.processRowOffset && position + 1 == stream.rows.length

def plannedTransform (start entity : Nat) (stream : EntityStream) (chunk : Nat) :
    TransformMeta where
  startRow := start + chunk * chunkReviews * mode.rowsPerReview
  reviewCount := min (stream.rows.length - chunk * chunkReviews) chunkReviews
  entity := entity
  localIndex := chunk

def plannedChunk (start transforms entity : Nat) (stream : EntityStream) (chunk : Nat) :
    FinalChunkMeta where
  startRow := start + chunk * chunkReviews * mode.rowsPerReview
  reviewCount := min (stream.rows.length - chunk * chunkReviews) chunkReviews
  entity := entity
  prefixTransform := if chunk = 0 then none else some (transforms + chunk - 1)
  chunkLast := chunk + 1 == finalChunkCount chunkReviews stream

def reviewRows (review : Nat) : List Nat :=
  (List.range mode.rowsPerReview).map fun offset => review * mode.rowsPerReview + offset

def reviewMetadata (start entity : Nat) (stream : EntityStream) (position : Nat) :
    List RowMeta :=
  (List.range mode.rowsPerReview).map (plannedRow mode hasState start entity stream position)

theorem push_rows_planned (entity start : Nat) (stream : EntityStream) (plan : ModulePlan)
    (review position : Nat)
    (placed : plan.sequenceToOriginal.length = start + position * mode.rowsPerReview) :
    pushRows mode hasState entity stream plan (review, position) =
      { plan with
        sequenceToOriginal := plan.sequenceToOriginal ++ reviewRows mode review
        rowMetadata := plan.rowMetadata ++
          reviewMetadata mode hasState start entity stream position } := by
  cases mode <;>
    simp [pushRows, placed, reviewRows, reviewMetadata, plannedRow, List.range_succ,
      GpuProcessScanMode.rowsPerReview, GpuProcessScanMode.processRowOffset]

/-- The rows of a stream, from some position on, as one extension of the plan. -/
theorem push_all_rows (entity start : Nat) (stream : EntityStream) (reviews : List Nat)
    (position : Nat) (plan : ModulePlan)
    (placed : plan.sequenceToOriginal.length = start + position * mode.rowsPerReview) :
    (reviews.zipIdx position).foldl (pushRows mode hasState entity stream) plan =
      { plan with
        sequenceToOriginal := plan.sequenceToOriginal ++ reviews.flatMap (reviewRows mode)
        rowMetadata := plan.rowMetadata ++ (List.range' position reviews.length).flatMap
          (reviewMetadata mode hasState start entity stream) } := by
  induction reviews generalizing position plan with
  | nil => simp
  | cons review reviews ih =>
      rw [List.zipIdx_cons, List.foldl_cons,
        push_rows_planned mode hasState entity start stream plan review position placed, ih]
      · simp [List.range'_succ]
      · simp only [List.length_append, placed, reviewRows, List.length_map, List.length_range]
        ring

theorem push_all_chunks (entity start transforms : Nat) (stream : EntityStream)
    (count : Nat) (plan : ModulePlan) :
    (List.range count).foldl (pushChunk mode chunkReviews entity stream start transforms) plan =
      { plan with
        transformMetadata := plan.transformMetadata ++
          (List.range (min count (transformCount chunkReviews stream))).map
            (plannedTransform mode chunkReviews start entity stream)
        finalChunkMetadata := plan.finalChunkMetadata ++ (List.range count).map
          (plannedChunk mode chunkReviews start transforms entity stream) } := by
  induction count with
  | zero => simp
  | succ count ih =>
      rw [List.range_succ, List.foldl_append, ih]
      simp only [List.foldl_cons, List.foldl_nil, pushChunk, List.append_assoc, List.map_append,
        List.map_cons, List.map_nil]
      rw [← transformCount]
      by_cases inside : count < transformCount chunkReviews stream
      · have before : min count (transformCount chunkReviews stream) = count := by omega
        have after : min (count + 1) (transformCount chunkReviews stream) = count + 1 := by omega
        rw [if_pos inside, before, after, List.range_succ, List.map_append]
        rfl
      · have after : min (count + 1) (transformCount chunkReviews stream) =
            min count (transformCount chunkReviews stream) := by omega
        rw [if_neg inside, after, List.append_nil]
        rfl

theorem push_stream_planned (plan : ModulePlan) (stream : EntityStream) (entity : Nat) :
    pushStream mode chunkReviews hasState plan (stream, entity) =
      { keys := plan.keys ++ [stream.key]
        sequenceToOriginal := plan.sequenceToOriginal ++ stream.rows.flatMap (reviewRows mode)
        rowMetadata := plan.rowMetadata ++ (List.range stream.rows.length).flatMap
          (reviewMetadata mode hasState plan.sequenceToOriginal.length entity stream)
        transformMetadata := plan.transformMetadata ++
          (List.range (transformCount chunkReviews stream)).map
            (plannedTransform mode chunkReviews plan.sequenceToOriginal.length entity stream)
        finalChunkMetadata := plan.finalChunkMetadata ++
          (List.range (finalChunkCount chunkReviews stream)).map
            (plannedChunk mode chunkReviews plan.sequenceToOriginal.length
              plan.transformMetadata.length entity stream)
        maxTransformRun := max plan.maxTransformRun (transformCount chunkReviews stream) } := by
  have rows := push_all_rows mode hasState entity plan.sequenceToOriginal.length stream stream.rows
    0 { plan with keys := plan.keys ++ [stream.key] } (by simp)
  rw [← List.range_eq_range'] at rows
  have count : min (finalChunkCount chunkReviews stream) (transformCount chunkReviews stream) =
      transformCount chunkReviews stream := Nat.min_eq_right (by simp [transformCount])
  simp only [pushStream, rows, push_all_chunks, count]
  rfl

/-- The streams handled so far and everything the plan says about them. -/
structure Planned (streams : List EntityStream) (plan : ModulePlan) : Prop where
  keys : plan.keys = streams.map EntityStream.key
  rowCount : plan.sequenceToOriginal.length = rowStart mode streams streams.length
  metadata : plan.rowMetadata.length = plan.sequenceToOriginal.length
  transforms : plan.transformMetadata.length = transformStart chunkReviews streams streams.length
  rows : ∀ entity stream, streams[entity]? = some stream →
    ∀ position review, stream.rows[position]? = some review →
    ∀ offset, offset < mode.rowsPerReview →
      plan.sequenceToOriginal[rowStart mode streams entity + position * mode.rowsPerReview + offset]? =
          some (review * mode.rowsPerReview + offset) ∧
        plan.rowMetadata[rowStart mode streams entity + position * mode.rowsPerReview + offset]? =
          some (plannedRow mode hasState (rowStart mode streams entity) entity stream position offset)
  transformPlaces : ∀ entity stream, streams[entity]? = some stream →
    ∀ chunk, chunk < transformCount chunkReviews stream →
      plan.transformMetadata[transformStart chunkReviews streams entity + chunk]? =
        some (plannedTransform mode chunkReviews (rowStart mode streams entity) entity stream chunk)
  rowsCovered : ∀ row, row < plan.sequenceToOriginal.length →
    ∃ entity stream, streams[entity]? = some stream ∧ ∃ position, position < stream.rows.length ∧
      ∃ offset, offset < mode.rowsPerReview ∧
        row = rowStart mode streams entity + position * mode.rowsPerReview + offset
  transformsCovered : ∀ place, place < plan.transformMetadata.length →
    ∃ entity stream, streams[entity]? = some stream ∧
      ∃ chunk, chunk < transformCount chunkReviews stream ∧
        place = transformStart chunkReviews streams entity + chunk
  chunks : ∀ chunkInfo, chunkInfo ∈ plan.finalChunkMetadata ↔
    ∃ entity stream, streams[entity]? = some stream ∧
      ∃ chunk, chunk < finalChunkCount chunkReviews stream ∧
        chunkInfo = plannedChunk mode chunkReviews (rowStart mode streams entity)
          (transformStart chunkReviews streams entity) entity stream chunk
  runs : ∀ stream ∈ streams, transformCount chunkReviews stream ≤ plan.maxTransformRun

theorem empty_planned : Planned mode chunkReviews hasState [] emptyPlan := by
  constructor <;> simp [emptyPlan, rowStart, transformStart]

theorem row_start_append (streams : List EntityStream) (stream : EntityStream) (entity : Nat)
    (earlier : entity ≤ streams.length) :
    rowStart mode (streams ++ [stream]) entity = rowStart mode streams entity := by
  rw [rowStart, List.take_append_of_le_length earlier, rowStart]

theorem transform_start_append (streams : List EntityStream) (stream : EntityStream) (entity : Nat)
    (earlier : entity ≤ streams.length) :
    transformStart chunkReviews (streams ++ [stream]) entity =
      transformStart chunkReviews streams entity := by
  rw [transformStart, List.take_append_of_le_length earlier, transformStart]

theorem row_start_last (streams : List EntityStream) (stream : EntityStream) :
    rowStart mode (streams ++ [stream]) (streams ++ [stream]).length =
      rowStart mode streams streams.length + stream.rows.length * mode.rowsPerReview := by
  rw [rowStart, rowStart, List.take_length, List.take_length, List.map_append, List.sum_append]
  simp

theorem transform_start_last (streams : List EntityStream) (stream : EntityStream) :
    transformStart chunkReviews (streams ++ [stream]) (streams ++ [stream]).length =
      transformStart chunkReviews streams streams.length + transformCount chunkReviews stream := by
  rw [transformStart, transformStart, List.take_length, List.take_length, List.map_append,
    List.sum_append]
  simp

/-- A stream of an extended list is an old one or the new one. -/
theorem stream_append {streams : List EntityStream} {added stream : EntityStream} {entity : Nat} :
    (streams ++ [added])[entity]? = some stream ↔
      streams[entity]? = some stream ∨ entity = streams.length ∧ stream = added := by
  rcases Nat.lt_trichotomy entity streams.length with before | here | after
  · rw [List.getElem?_append_left before]
    constructor
    · exact Or.inl
    · rintro (old | ⟨same, _⟩)
      · exact old
      · omega
  · subst here
    simp [eq_comm]
  · rw [List.getElem?_eq_none (by simp; omega), List.getElem?_eq_none (by omega)]
    simp only [reduceCtorEq, false_or, false_iff, not_and]
    omega

theorem review_rows_place (review offset : Nat) (inside : offset < mode.rowsPerReview) :
    (reviewRows mode review)[offset]? = some (review * mode.rowsPerReview + offset) := by
  simp [reviewRows, inside]

theorem review_metadata_place (start entity : Nat) (stream : EntityStream) (position offset : Nat)
    (inside : offset < mode.rowsPerReview) :
    (reviewMetadata mode hasState start entity stream position)[offset]? =
      some (plannedRow mode hasState start entity stream position offset) := by
  simp [reviewMetadata, inside]

theorem review_rows_length (reviews : List Nat) :
    (reviews.flatMap (reviewRows mode)).length = reviews.length * mode.rowsPerReview := by
  apply uniform_blocks_length
  intro review _
  simp [reviewRows]

theorem review_metadata_length (start entity : Nat) (stream : EntityStream) (count : Nat) :
    ((List.range count).flatMap (reviewMetadata mode hasState start entity stream)).length =
      count * mode.rowsPerReview := by
  rw [uniform_blocks_length _ mode.rowsPerReview _ (by simp [reviewMetadata]), List.length_range]

variable {mode chunkReviews hasState}

/-- The rows of the stream that is added, at the end of the plan. -/
theorem added_rows {streams : List EntityStream} {plan : ModulePlan} {stream : EntityStream}
    (planned : Planned mode chunkReviews hasState streams plan) {position review offset : Nat}
    (found : stream.rows[position]? = some review) (inside : offset < mode.rowsPerReview) :
    (plan.sequenceToOriginal ++ stream.rows.flatMap (reviewRows mode))[
        rowStart mode streams streams.length + position * mode.rowsPerReview + offset]? =
        some (review * mode.rowsPerReview + offset) ∧
      (plan.rowMetadata ++ (List.range stream.rows.length).flatMap (reviewMetadata mode hasState
        plan.sequenceToOriginal.length streams.length stream))[
          rowStart mode streams streams.length + position * mode.rowsPerReview + offset]? =
        some (plannedRow mode hasState (rowStart mode streams streams.length) streams.length stream
          position offset) := by
  have present : position < stream.rows.length := (List.getElem?_eq_some_iff.mp found).1
  constructor
  · rw [Nat.add_assoc, ← planned.rowCount, append_place,
      uniform_blocks_place (reviewRows mode) mode.rowsPerReview _ (by simp [reviewRows]) position
        review found offset inside]
    exact review_rows_place mode review offset inside
  · have index : (List.range stream.rows.length)[position]? = some position := by simp [present]
    rw [Nat.add_assoc, ← planned.rowCount, ← planned.metadata, append_place,
      uniform_blocks_place _ mode.rowsPerReview _ (by simp [reviewMetadata]) position position index
        offset inside]
    exact review_metadata_place mode hasState _ _ stream position offset inside

theorem push_planned {streams : List EntityStream} {plan : ModulePlan}
    (planned : Planned mode chunkReviews hasState streams plan) (stream : EntityStream) :
    Planned mode chunkReviews hasState (streams ++ [stream])
      (pushStream mode chunkReviews hasState plan (stream, streams.length)) := by
  have positive := rows_per_review_positive mode
  rw [push_stream_planned]
  constructor
  case keys => simp [planned.keys]
  case rowCount =>
    rw [List.length_append, review_rows_length, planned.rowCount, row_start_last]
  case metadata =>
    rw [List.length_append, List.length_append, review_rows_length, review_metadata_length,
      planned.metadata]
  case transforms =>
    rw [List.length_append, planned.transforms, transform_start_last, List.length_map,
      List.length_range]
  case rows =>
    intro entity found present position review placed offset inside
    rcases stream_append.mp present with old | ⟨here, same⟩
    · have earlier : entity ≤ streams.length := (List.getElem?_eq_some_iff.mp old).1.le
      have known := planned.rows entity found old position review placed offset inside
      rw [row_start_append mode streams stream entity earlier]
      exact ⟨some_append known.1 _, some_append known.2 _⟩
    · subst here same
      rw [row_start_append mode streams found streams.length (Nat.le_refl _)]
      exact added_rows planned placed inside
  case transformPlaces =>
    intro entity found present chunk inside
    rcases stream_append.mp present with old | ⟨here, same⟩
    · have earlier : entity ≤ streams.length := (List.getElem?_eq_some_iff.mp old).1.le
      rw [row_start_append mode streams stream entity earlier,
        transform_start_append chunkReviews streams stream entity earlier]
      exact some_append (planned.transformPlaces entity found old chunk inside) _
    · subst here same
      rw [row_start_append mode streams found streams.length (Nat.le_refl _),
        transform_start_append chunkReviews streams found streams.length (Nat.le_refl _),
        ← planned.transforms, append_place, ← planned.rowCount]
      simp [inside]
  case rowsCovered =>
    intro row below
    rw [List.length_append, review_rows_length, planned.rowCount] at below
    by_cases before : row < rowStart mode streams streams.length
    · obtain ⟨entity, found, present, position, inside, offset, small, same⟩ :=
        planned.rowsCovered row (by rw [planned.rowCount]; exact before)
      have earlier : entity ≤ streams.length := (List.getElem?_eq_some_iff.mp present).1.le
      refine ⟨entity, found, stream_append.mpr (Or.inl present), position, inside, offset, small, ?_⟩
      rw [row_start_append mode streams stream entity earlier, same]
    · refine ⟨streams.length, stream, stream_append.mpr (Or.inr ⟨rfl, rfl⟩),
        (row - rowStart mode streams streams.length) / mode.rowsPerReview, ?_,
        (row - rowStart mode streams streams.length) % mode.rowsPerReview, Nat.mod_lt _ positive, ?_⟩
      · rw [Nat.div_lt_iff_lt_mul positive]
        omega
      · rw [row_start_append mode streams stream streams.length (Nat.le_refl _), Nat.add_assoc,
          Nat.div_add_mod']
        omega
  case transformsCovered =>
    intro place below
    rw [List.length_append, List.length_map, List.length_range, planned.transforms] at below
    by_cases before : place < transformStart chunkReviews streams streams.length
    · obtain ⟨entity, found, present, chunk, inside, same⟩ :=
        planned.transformsCovered place (by rw [planned.transforms]; exact before)
      have earlier : entity ≤ streams.length := (List.getElem?_eq_some_iff.mp present).1.le
      refine ⟨entity, found, stream_append.mpr (Or.inl present), chunk, inside, ?_⟩
      rw [transform_start_append chunkReviews streams stream entity earlier, same]
    · refine ⟨streams.length, stream, stream_append.mpr (Or.inr ⟨rfl, rfl⟩),
        place - transformStart chunkReviews streams streams.length, by omega, ?_⟩
      rw [transform_start_append chunkReviews streams stream streams.length (Nat.le_refl _)]
      omega
  case chunks =>
    intro chunkInfo
    rw [List.mem_append, planned.chunks, List.mem_map]
    constructor
    · rintro (⟨entity, found, present, chunk, inside, same⟩ | ⟨chunk, inside, same⟩)
      · have earlier : entity ≤ streams.length := (List.getElem?_eq_some_iff.mp present).1.le
        refine ⟨entity, found, stream_append.mpr (Or.inl present), chunk, inside, ?_⟩
        rw [row_start_append mode streams stream entity earlier,
          transform_start_append chunkReviews streams stream entity earlier, same]
      · refine ⟨streams.length, stream, stream_append.mpr (Or.inr ⟨rfl, rfl⟩), chunk,
          List.mem_range.mp inside, ?_⟩
        rw [row_start_append mode streams stream streams.length (Nat.le_refl _),
          transform_start_append chunkReviews streams stream streams.length (Nat.le_refl _),
          ← planned.rowCount, ← planned.transforms, same]
    · rintro ⟨entity, found, present, chunk, inside, same⟩
      rcases stream_append.mp present with old | ⟨here, added⟩
      · have earlier : entity ≤ streams.length := (List.getElem?_eq_some_iff.mp old).1.le
        rw [row_start_append mode streams stream entity earlier,
          transform_start_append chunkReviews streams stream entity earlier] at same
        exact Or.inl ⟨entity, found, old, chunk, inside, same⟩
      · subst here added
        rw [row_start_append mode streams found streams.length (Nat.le_refl _),
          transform_start_append chunkReviews streams found streams.length (Nat.le_refl _),
          ← planned.rowCount, ← planned.transforms] at same
        exact Or.inr ⟨chunk, List.mem_range.mpr inside, same.symm⟩
  case runs =>
    intro other member
    rcases List.mem_append.mp member with old | new
    · exact Nat.le_trans (planned.runs other old) (Nat.le_max_left _ _)
    · rw [List.mem_singleton.mp new]
      exact Nat.le_max_right _ _

theorem build_planned (streams : List EntityStream) :
    Planned mode chunkReviews hasState streams
      (buildStreams mode chunkReviews hasState streams) := by
  induction streams using List.reverseRecOn with
  | nil => exact empty_planned mode chunkReviews hasState
  | append_singleton streams stream ih =>
      have pushed := push_planned ih stream
      rw [buildStreams, List.zipIdx_append, List.foldl_append]
      simpa [buildStreams] using pushed

end Entities

section Groups

def withReview (key : Option Int64) (row : Nat) (stream : EntityStream) : EntityStream :=
  if stream.key = key then { stream with rows := stream.rows ++ [row] } else stream

theorem with_review_key (key : Option Int64) (row : Nat) (stream : EntityStream) :
    (withReview key row stream).key = stream.key := by
  rw [withReview]
  split <;> rfl

theorem with_review_absent {streams : List EntityStream} {key : Option Int64} (row : Nat)
    (absent : ∀ stream ∈ streams, stream.key ≠ key) :
    streams.map (withReview key row) = streams := by
  induction streams with
  | nil => rfl
  | cons stream streams ih =>
      rw [List.map_cons, withReview, if_neg (absent stream (by simp)),
        ih (fun other member => absent other (List.mem_cons_of_mem _ member))]

theorem push_review_cons (stream : EntityStream) (streams : List EntityStream)
    (key : Option Int64) (row : Nat) :
    pushReview (stream :: streams) key row =
      if stream.key = key then withReview key row stream :: streams
      else stream :: pushReview streams key row := by
  by_cases same : stream.key = key
  · simp [pushReview, List.findIdx?_cons, same, withReview]
  · rw [if_neg same, pushReview, List.findIdx?_cons]
    simp only [beq_iff_eq, same, if_false, pushReview]
    cases streams.findIdx? (fun stream => stream.key == key) <;> simp

/-- Keys that are distinct make a review join the one stream of its key, or
open that stream. -/
theorem push_review_streams {streams : List EntityStream}
    (distinct : (streams.map EntityStream.key).Nodup) (key : Option Int64) (row : Nat) :
    pushReview streams key row =
      if ∃ stream ∈ streams, stream.key = key then streams.map (withReview key row)
      else streams ++ [⟨key, [row]⟩] := by
  induction streams with
  | nil => simp [pushReview]
  | cons stream streams ih =>
      rw [List.map_cons, List.nodup_cons] at distinct
      rw [push_review_cons]
      by_cases same : stream.key = key
      · have absent : ∀ other ∈ streams, other.key ≠ key := by
          intro other member otherKey
          exact distinct.1 (List.mem_map.mpr ⟨other, member, otherKey.trans same.symm⟩)
        rw [if_pos same, if_pos ⟨stream, by simp, same⟩, List.map_cons,
          with_review_absent row absent]
      · rw [if_neg same, ih distinct.2]
        by_cases present : ∃ other ∈ streams, other.key = key
        · obtain ⟨other, member, otherKey⟩ := present
          rw [if_pos ⟨other, member, otherKey⟩,
            if_pos ⟨other, List.mem_cons_of_mem _ member, otherKey⟩, List.map_cons, withReview,
            if_neg same]
        · have absent : ¬ ∃ other ∈ stream :: streams, other.key = key := by
            rintro ⟨other, member, otherKey⟩
            rcases List.mem_cons.mp member with here | later
            · exact same (here ▸ otherKey)
            · exact present ⟨other, later, otherKey⟩
          rw [if_neg present, if_neg absent, List.cons_append]

variable (kind : ModuleKind)

/-- The rows of a batch whose key is the given one, in batch order. -/
def keyRows (ids : List ReviewIds) (key : Option Int64) : List Nat :=
  (List.range ids.length).filter fun row => ids[row]?.map kind.key == some key

theorem key_rows_append (ids : List ReviewIds) (added : ReviewIds) (key : Option Int64) :
    keyRows kind (ids ++ [added]) key =
      keyRows kind ids key ++ if kind.key added = key then [ids.length] else [] := by
  have earlier : ∀ row ∈ List.range ids.length, ((ids ++ [added])[row]?.map kind.key == some key) =
      (ids[row]?.map kind.key == some key) := by
    intro row member
    rw [List.getElem?_append_left (List.mem_range.mp member)]
  rw [keyRows, List.length_append, List.length_singleton, List.range_succ, List.filter_append,
    List.filter_congr earlier, keyRows]
  congr 1
  by_cases same : kind.key added = key <;> simp [same]

/-- The streams of a batch: one for every key of the batch, with the rows of
that key in batch order. -/
structure Grouped (ids : List ReviewIds) (streams : List EntityStream) : Prop where
  distinct : (streams.map EntityStream.key).Nodup
  rows : ∀ stream ∈ streams, stream.rows = keyRows kind ids stream.key
  present : ∀ key, (∃ stream ∈ streams, stream.key = key) ↔ ∃ review ∈ ids, kind.key review = key

theorem push_grouped {ids : List ReviewIds} {streams : List EntityStream}
    (grouped : Grouped kind ids streams) (added : ReviewIds) :
    Grouped kind (ids ++ [added]) (pushReview streams (kind.key added) ids.length) := by
  rw [push_review_streams grouped.distinct]
  by_cases met : ∃ stream ∈ streams, stream.key = kind.key added
  · rw [if_pos met]
    have keys : (streams.map (withReview (kind.key added) ids.length)).map EntityStream.key =
        streams.map EntityStream.key := by
      rw [List.map_map]
      apply List.map_congr_left
      intro stream _
      exact with_review_key _ _ stream
    constructor
    · rw [keys]
      exact grouped.distinct
    · intro stream member
      obtain ⟨old, oldMember, same⟩ := List.mem_map.mp member
      rw [← same, with_review_key, key_rows_append, ← grouped.rows old oldMember, withReview]
      by_cases here : old.key = kind.key added
      · rw [if_pos here, if_pos here.symm]
      · rw [if_neg here, if_neg (Ne.symm here), List.append_nil]
    · intro key
      have sameKeys : (∃ stream ∈ streams.map (withReview (kind.key added) ids.length),
          stream.key = key) ↔ ∃ stream ∈ streams, stream.key = key := by
        simp [with_review_key]
      rw [sameKeys, grouped.present]
      constructor
      · rintro ⟨review, member, same⟩
        exact ⟨review, by simp [member], same⟩
      · rintro ⟨review, member, same⟩
        rcases List.mem_append.mp member with old | new
        · exact ⟨review, old, same⟩
        · rw [List.mem_singleton.mp new] at same
          exact (grouped.present key).mp (same ▸ met)
  · rw [if_neg met]
    constructor
    · rw [List.map_append, List.nodup_append]
      refine ⟨grouped.distinct, by simp, ?_⟩
      intro key member other otherMember same
      obtain ⟨stream, streamMember, streamKey⟩ := List.mem_map.mp member
      apply met
      rw [List.map_singleton, List.mem_singleton] at otherMember
      exact ⟨stream, streamMember, streamKey.trans (same.trans otherMember)⟩
    · intro stream member
      rw [key_rows_append]
      rcases List.mem_append.mp member with old | new
      · have apart : kind.key added ≠ stream.key := fun same => met ⟨stream, old, same.symm⟩
        rw [if_neg apart, List.append_nil, ← grouped.rows stream old]
      · rw [List.mem_singleton.mp new]
        have none : keyRows kind ids (kind.key added) = [] := by
          rw [keyRows, List.filter_eq_nil_iff]
          intro row below
          have inside := List.mem_range.mp below
          rw [List.getElem?_eq_getElem inside]
          simp only [Option.map_some, beq_iff_eq, Option.some.injEq]
          intro same
          exact met ((grouped.present _).mpr ⟨ids[row], List.getElem_mem inside, same⟩)
        rw [none, if_pos rfl, List.nil_append]
    · intro key
      constructor
      · rintro ⟨stream, member, same⟩
        rcases List.mem_append.mp member with old | new
        · obtain ⟨review, reviewMember, reviewKey⟩ := (grouped.present key).mp ⟨stream, old, same⟩
          exact ⟨review, by simp [reviewMember], reviewKey⟩
        · rw [List.mem_singleton.mp new] at same
          exact ⟨added, by simp, same⟩
      · rintro ⟨review, member, same⟩
        rcases List.mem_append.mp member with old | new
        · obtain ⟨stream, streamMember, streamKey⟩ := (grouped.present key).mpr ⟨review, old, same⟩
          exact ⟨stream, by simp [streamMember], streamKey⟩
        · rw [List.mem_singleton.mp new] at same
          exact ⟨⟨kind.key added, [ids.length]⟩, by simp, same⟩

theorem group_streams_grouped (ids : List ReviewIds) : Grouped kind ids (groupStreams kind ids) := by
  induction ids using List.reverseRecOn with
  | nil => constructor <;> simp [groupStreams]
  | append_singleton ids added ih =>
      have pushed := push_grouped kind ih added
      rw [groupStreams, List.zipIdx_append, List.foldl_append]
      simpa [groupStreams] using pushed

end Groups

end RwkvSrs.GpuScanTopology
