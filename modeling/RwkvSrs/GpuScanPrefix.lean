import Mathlib.Algebra.BigOperators.Ring.List
import Mathlib.Algebra.Order.BigOperators.Group.List
import RwkvSrs.GpuScanLimits

/-!
The safe prefix of a GPU scan batch. What a plan demands is a sum over its
streams of a weight of their lengths, and one more review lengthens one stream
by one row, so the counters of the search grow exactly as the demands do. The
demands of a longer batch are never smaller, so the first review that is refused
ends the longest prefix that fits when its states are returned to the CPU. A batch
whose states stay on the device reads back less, so the prefix is safe for it as
well unless resident states have to make room, but it may not be the longest.
-/

namespace RwkvSrs.GpuScanPrefix

open Std RwkvSrs.CheckpointWriter RwkvSrs.GpuScanPlan RwkvSrs.GpuScanLimits
open RwkvSrs.GpuScanTopology RwkvSrs.NativeRnnState RwkvSrs.ResidentArena

set_option autoImplicit false

def streamTotal (weight : Nat → Nat) (streams : List EntityStream) : Nat :=
  (streams.map fun stream => weight stream.rows.length).sum

def keyLength (key : Option Int64) (streams : List EntityStream) : Nat :=
  ((streams.find? fun stream => stream.key == key).map fun stream => stream.rows.length).getD 0

theorem total_cons (weight : Nat → Nat) (stream : EntityStream) (streams : List EntityStream) :
    streamTotal weight (stream :: streams) =
      weight stream.rows.length + streamTotal weight streams := by
  rw [streamTotal, List.map_cons, List.sum_cons, streamTotal]

theorem key_length_cons (key : Option Int64) (stream : EntityStream)
    (streams : List EntityStream) :
    keyLength key (stream :: streams) =
      if stream.key = key then stream.rows.length else keyLength key streams := by
  rw [keyLength, List.find?_cons]
  by_cases same : stream.key = key
  · simp [same]
  · rw [if_neg same, beq_false_of_ne same, keyLength]

theorem push_total {weight : Nat → Nat} (nothing : weight 0 = 0) (streams : List EntityStream)
    (key : Option Int64) (row : Nat) :
    streamTotal weight (pushReview streams key row) + weight (keyLength key streams) =
      streamTotal weight streams + weight (keyLength key streams + 1) := by
  induction streams with
  | nil => simp [pushReview, streamTotal, keyLength, nothing]
  | cons stream streams ih =>
      rw [push_review_cons, key_length_cons]
      by_cases same : stream.key = key
      · rw [if_pos same, if_pos same, total_cons, total_cons, withReview, if_pos same]
        simp only [List.length_append, List.length_singleton]
        omega
      · rw [if_neg same, if_neg same, total_cons, total_cons]
        omega

theorem push_key_length (streams : List EntityStream) (key other : Option Int64) (row : Nat) :
    keyLength other (pushReview streams key row) =
      keyLength other streams + if other = key then 1 else 0 := by
  induction streams with
  | nil =>
      by_cases same : other = key
      · simp [pushReview, keyLength, same]
      · simp [pushReview, keyLength, same, Ne.symm same]
  | cons stream streams ih =>
      rw [push_review_cons, key_length_cons]
      by_cases same : stream.key = key
      · rw [if_pos same, key_length_cons, with_review_key, withReview, if_pos same]
        by_cases here : stream.key = other
        · have joined : other = key := here.symm.trans same
          rw [if_pos here, if_pos here, if_pos joined, List.length_append, List.length_singleton]
        · have apart : other ≠ key := fun joined => here (same.trans joined.symm)
          rw [if_neg here, if_neg here, if_neg apart, Nat.add_zero]
      · rw [if_neg same, key_length_cons, ih]
        by_cases here : stream.key = other
        · have apart : other ≠ key := fun joined => same (here.trans joined)
          rw [if_pos here, if_pos here, if_neg apart, Nat.add_zero]
        · rw [if_neg here, if_neg here]

theorem group_streams_append (kind : ModuleKind) (ids : List ReviewIds) (added : ReviewIds) :
    groupStreams kind (ids ++ [added]) =
      pushReview (groupStreams kind ids) (kind.key added) ids.length := by
  rw [groupStreams, List.zipIdx_append, List.foldl_append]
  simp [groupStreams]

/-- The total over the streams of a batch. -/
def groupTotal (weight : Nat → Nat) (kind : ModuleKind) (ids : List ReviewIds) : Nat :=
  streamTotal weight (groupStreams kind ids)

def groupLength (kind : ModuleKind) (ids : List ReviewIds) (key : Option Int64) : Nat :=
  keyLength key (groupStreams kind ids)

variable {weight : Nat → Nat} (kind : ModuleKind)

theorem group_total_nil : groupTotal weight kind [] = 0 := rfl

theorem group_length_nil (key : Option Int64) : groupLength kind [] key = 0 := rfl

theorem group_total_append (nothing : weight 0 = 0) (ids : List ReviewIds) (added : ReviewIds) :
    groupTotal weight kind (ids ++ [added]) + weight (groupLength kind ids (kind.key added)) =
      groupTotal weight kind ids + weight (groupLength kind ids (kind.key added) + 1) := by
  rw [groupTotal, group_streams_append]
  exact push_total nothing _ _ _

theorem group_length_append (ids : List ReviewIds) (added : ReviewIds) (key : Option Int64) :
    groupLength kind (ids ++ [added]) key =
      groupLength kind ids key + if key = kind.key added then 1 else 0 := by
  rw [groupLength, group_streams_append]
  exact push_key_length _ _ _ _

/-- A longer batch has no smaller total. -/
theorem group_total_mono (nothing : weight 0 = 0) (grows : Monotone weight)
    (ids more : List ReviewIds) :
    groupTotal weight kind ids ≤ groupTotal weight kind (ids ++ more) := by
  induction more using List.reverseRecOn with
  | nil => rw [List.append_nil]
  | append_singleton more added ih =>
      have step := group_total_append kind nothing (ids ++ more) added
      have longer : weight (groupLength kind (ids ++ more) (kind.key added)) ≤
          weight (groupLength kind (ids ++ more) (kind.key added) + 1) := grows (Nat.le_succ _)
      rw [← List.append_assoc]
      omega

theorem group_total_id (ids : List ReviewIds) : groupTotal id kind ids = ids.length := by
  induction ids using List.reverseRecOn with
  | nil => rfl
  | append_singleton ids added ih =>
      have step : groupTotal id kind (ids ++ [added]) + id _ = groupTotal id kind ids + id _ :=
        group_total_append kind rfl ids added
      rw [List.length_append, List.length_singleton]
      simp only [id] at step ih ⊢
      omega

theorem group_total_le (smaller : ∀ count, weight count ≤ count) (ids : List ReviewIds) :
    groupTotal weight kind ids ≤ ids.length := by
  rw [← group_total_id kind ids]
  apply List.sum_le_sum
  intro stream _
  exact smaller stream.rows.length

theorem global_length (ids : List ReviewIds) : groupLength .global ids none = ids.length := by
  induction ids using List.reverseRecOn with
  | nil => rfl
  | append_singleton ids added ih =>
      rw [group_length_append, ih, List.length_append]
      rfl

/-- Every review joins the one stream of the global module. -/
theorem global_total (nothing : weight 0 = 0) (ids : List ReviewIds) :
    groupTotal weight .global ids = weight ids.length := by
  induction ids using List.reverseRecOn with
  | nil => exact nothing.symm
  | append_singleton ids added ih =>
      have step := group_total_append .global nothing ids added
      have joined : groupLength .global ids (ModuleKind.global.key added) = ids.length :=
        global_length ids
      rw [joined, ih] at step
      rw [List.length_append, List.length_singleton]
      omega

def onePerStream (count : Nat) : Nat := min count 1

def transformWeight (chunkReviews count : Nat) : Nat := (count - 1) / chunkReviews

theorem one_per_stream_mono : Monotone onePerStream :=
  fun _ _ longer => min_le_min_right 1 longer

theorem transform_weight_zero (chunkReviews : Nat) : transformWeight chunkReviews 0 = 0 :=
  Nat.zero_div chunkReviews

theorem transform_weight_mono (chunkReviews : Nat) : Monotone (transformWeight chunkReviews) :=
  fun _ _ longer => Nat.div_le_div_right (Nat.sub_le_sub_right longer 1)

theorem transform_weight_le (chunkReviews count : Nat) :
    transformWeight chunkReviews count ≤ count :=
  Nat.le_trans (Nat.div_le_self _ _) (Nat.sub_le _ _)

theorem final_chunk_count {chunkReviews : Nat} (positive : 0 < chunkReviews)
    (stream : EntityStream) (some : 0 < stream.rows.length) :
    finalChunkCount chunkReviews stream =
      transformWeight chunkReviews stream.rows.length + 1 := by
  have split : stream.rows.length + chunkReviews - 1 =
      (stream.rows.length - 1) + chunkReviews := by omega
  rw [finalChunkCount, split, Nat.add_div_right _ positive]
  rfl

theorem transform_count {chunkReviews : Nat} (positive : 0 < chunkReviews)
    (stream : EntityStream) :
    transformCount chunkReviews stream = transformWeight chunkReviews stream.rows.length := by
  rcases Nat.eq_zero_or_pos stream.rows.length with none | some
  · rw [transformCount, finalChunkCount, none, Nat.zero_add,
      Nat.div_eq_of_lt (Nat.sub_lt positive Nat.one_pos)]
    exact (transform_weight_zero chunkReviews).symm
  · rw [transformCount, final_chunk_count positive stream some, Nat.add_sub_cancel]

theorem group_streams_nonempty (ids : List ReviewIds) :
    ∀ stream ∈ groupStreams kind ids, 0 < stream.rows.length := by
  have grouped := group_streams_grouped kind ids
  intro stream member
  obtain ⟨review, reviewMember, same⟩ := (grouped.present stream.key).mp ⟨stream, member, rfl⟩
  obtain ⟨row, inside, here⟩ := List.getElem_of_mem reviewMember
  rw [grouped.rows stream member]
  have placed : row ∈ keyRows kind ids stream.key := by
    rw [keyRows, List.mem_filter, List.mem_range]
    refine ⟨inside, ?_⟩
    rw [List.getElem?_eq_getElem inside, here, Option.map_some, same]
    exact beq_self_eq_true _
  exact List.length_pos_of_mem placed

theorem group_streams_length (ids : List ReviewIds) :
    (groupStreams kind ids).length = groupTotal onePerStream kind ids := by
  have nonempty := group_streams_nonempty kind ids
  rw [groupTotal]
  generalize groupStreams kind ids = streams at nonempty ⊢
  induction streams with
  | nil => rfl
  | cons stream streams ih =>
      have first : onePerStream stream.rows.length = 1 :=
        Nat.min_eq_right (nonempty stream (by simp))
      rw [List.length_cons, total_cons, first,
        ih (fun other member => nonempty other (List.mem_cons_of_mem _ member)), Nat.add_comm]

section Plans

variable (mode : GpuProcessScanMode) {chunkReviews : Nat}
  (hasState : ModuleKind → Option Int64 → Bool)

/-- The five plans of a batch. -/
def batchPlans (mode : GpuProcessScanMode) (chunkReviews : Nat)
    (hasState : ModuleKind → Option Int64 → Bool) (ids : List ReviewIds) (kind : ModuleKind) :
    ModulePlan := ModulePlan.build mode chunkReviews (hasState kind) kind ids

theorem plan_planned (ids : List ReviewIds) (kind : ModuleKind) :
    Planned mode chunkReviews (hasState kind) (groupStreams kind ids)
      (batchPlans mode chunkReviews hasState ids kind) :=
  build_planned (groupStreams kind ids)

theorem plan_keys (ids : List ReviewIds) (kind : ModuleKind) :
    (batchPlans mode chunkReviews hasState ids kind).keys.length =
      groupTotal onePerStream kind ids := by
  rw [(plan_planned mode hasState ids kind).keys, List.length_map]
  exact group_streams_length kind ids

theorem plan_rows (ids : List ReviewIds) (kind : ModuleKind) :
    (batchPlans mode chunkReviews hasState ids kind).sequenceToOriginal.length =
      ids.length * mode.rowsPerReview := by
  rw [(plan_planned mode hasState ids kind).rowCount, rowStart, List.take_length,
    List.sum_map_mul_right]
  congr 1
  exact group_total_id kind ids

theorem plan_metadata (ids : List ReviewIds) (kind : ModuleKind) :
    (batchPlans mode chunkReviews hasState ids kind).rowMetadata.length =
      ids.length * mode.rowsPerReview := by
  rw [(plan_planned mode hasState ids kind).metadata]
  exact plan_rows mode hasState ids kind

theorem plan_transforms (positive : 0 < chunkReviews) (ids : List ReviewIds) (kind : ModuleKind) :
    (batchPlans mode chunkReviews hasState ids kind).transformMetadata.length =
      groupTotal (transformWeight chunkReviews) kind ids := by
  rw [(plan_planned mode hasState ids kind).transforms, transformStart, List.take_length,
    groupTotal, streamTotal]
  congr 1
  apply List.map_congr_left
  intro stream _
  exact transform_count positive stream

theorem push_streams_chunks (hasState : Option Int64 → Bool) (streams : List EntityStream) :
    (buildStreams mode chunkReviews hasState streams).finalChunkMetadata.length =
      (streams.map (finalChunkCount chunkReviews)).sum := by
  induction streams using List.reverseRecOn with
  | nil => rfl
  | append_singleton streams stream ih =>
      rw [buildStreams] at ih ⊢
      rw [List.zipIdx_append, List.foldl_append]
      simp only [List.zipIdx_cons, List.zipIdx_nil, List.foldl_cons, List.foldl_nil,
        push_stream_planned, List.length_append, ih, List.map_append, List.sum_append,
        List.length_map, List.length_range, List.map_cons, List.map_nil, List.sum_cons,
        List.sum_nil, Nat.add_zero]

theorem plan_chunks_le (positive : 0 < chunkReviews) (ids : List ReviewIds) (kind : ModuleKind) :
    (batchPlans mode chunkReviews hasState ids kind).finalChunkMetadata.length ≤ ids.length := by
  have nonempty := group_streams_nonempty kind ids
  change (buildStreams mode chunkReviews (hasState kind)
    (groupStreams kind ids)).finalChunkMetadata.length ≤ _
  rw [push_streams_chunks, ← group_total_id kind ids, groupTotal, streamTotal]
  apply List.sum_le_sum
  intro stream member
  have some := nonempty stream member
  rw [final_chunk_count positive stream some]
  have shorter : transformWeight chunkReviews stream.rows.length ≤ stream.rows.length - 1 :=
    Nat.div_le_self _ _
  simp only [id]
  omega

end Plans

def stateBytes (kind : ModuleKind) (ids : List ReviewIds) : Nat :=
  moduleLayers kind * stateLayerBytes * groupTotal onePerStream kind ids

def readbackBytes (mode : GpuProcessScanMode) (ids : List ReviewIds) : Nat :=
  ids.length * outputBytesPerReview mode + (moduleKinds.map (stateBytes · ids)).sum

/-- The demands that depend on what the reviews name. -/
structure PrefixFits (limits : ProcessResourceLimits) (chunkReviews : Nat)
    (mode : GpuProcessScanMode) (ids : List ReviewIds) : Prop where
  transforms : ∀ kind, groupTotal (transformWeight chunkReviews) kind ids ≤ maxTransforms limits
  states : ∀ kind, stateBytes kind ids ≤ limits.maxStorageBufferBytes
  readback : readbackBytes mode ids ≤ limits.maxBufferBytes

theorem state_bytes_mono (kind : ModuleKind) (ids more : List ReviewIds) :
    stateBytes kind ids ≤ stateBytes kind (ids ++ more) :=
  Nat.mul_le_mul_left _ (group_total_mono kind rfl one_per_stream_mono ids more)

theorem prefix_fits_shorter {limits : ProcessResourceLimits} {chunkReviews : Nat}
    {mode : GpuProcessScanMode} {ids more : List ReviewIds}
    (fits : PrefixFits limits chunkReviews mode (ids ++ more)) :
    PrefixFits limits chunkReviews mode ids := by
  constructor
  · intro kind
    exact Nat.le_trans (group_total_mono kind (transform_weight_zero _) (transform_weight_mono _) ids more)
      (fits.transforms kind)
  · intro kind
    exact Nat.le_trans (state_bytes_mono kind ids more) (fits.states kind)
  · apply Nat.le_trans _ fits.readback
    simp only [readbackBytes, moduleKinds, List.map_cons, List.map_nil, List.sum_cons, List.sum_nil]
    have outputs : ids.length * outputBytesPerReview mode ≤
        (ids ++ more).length * outputBytesPerReview mode := by
      apply Nat.mul_le_mul_right
      rw [List.length_append]
      exact Nat.le_add_right _ _
    have card := state_bytes_mono .card ids more
    have deck := state_bytes_mono .deck ids more
    have note := state_bytes_mono .note ids more
    have preset := state_bytes_mono .preset ids more
    have global := state_bytes_mono .global ids more
    omega

theorem fits_words {capacity words : Nat} (some : 4 ≤ capacity) (inside : words * 4 ≤ capacity) :
    BufferFits capacity (words * 4) := by
  unfold BufferFits alignDown
  omega

theorem fits_nothing {capacity : Nat} (some : 4 ≤ capacity) : BufferFits capacity 0 := by
  unfold BufferFits alignDown
  omega

theorem fits_word {capacity : Nat} (some : 4 ≤ capacity) : BufferFits capacity floatBytes := by
  unfold BufferFits alignDown floatBytes
  omega

theorem fits_bytes {capacity bytes : Nat} (fits : BufferFits capacity bytes) :
    bytes ≤ capacity := by
  unfold BufferFits alignDown at fits
  omega

theorem add_state_bytes {residency : StateResidency} {plans : ModuleKind → ModulePlan}
    {kind : ModuleKind} {words found : Nat} :
    addStateBytes residency plans (words * 4) kind = some found ↔
      found = (words + readbackStateElements residency kind (plans kind)) * 4 ∧ found < 2 ^ 64 := by
  have aligned : alignUp (words * 4) 4 = words * 4 := by
    unfold alignUp
    omega
  simp only [addStateBytes, checkedMul, checkedAdd, aligned, Option.bind_eq_bind,
    Option.bind_eq_some_iff, in_usize_some, floatBytes]
  constructor
  · rintro ⟨_, ⟨rfl, _⟩, sum, small⟩
    exact ⟨by omega, small⟩
  · rintro ⟨sum, small⟩
    exact ⟨_, ⟨rfl, by omega⟩, by omega, small⟩

theorem add_all_state_bytes {residency : StateResidency} {plans : ModuleKind → ModulePlan}
    (kinds : List ModuleKind) {words found : Nat} (start : words * 4 < 2 ^ 64) :
    kinds.foldlM (addStateBytes residency plans) (words * 4) = some found ↔
      found = (words + (kinds.map fun kind =>
        readbackStateElements residency kind (plans kind)).sum) * 4 ∧ found < 2 ^ 64 := by
  induction kinds generalizing words with
  | nil =>
      simp only [List.foldlM_nil, Option.pure_def, Option.some.injEq, List.map_nil, List.sum_nil]
      omega
  | cons kind kinds ih =>
      rw [List.foldlM_cons, Option.bind_eq_bind, Option.bind_eq_some_iff, List.map_cons,
        List.sum_cons]
      constructor
      · rintro ⟨bytes, added, rest⟩
        obtain ⟨rfl, small⟩ := add_state_bytes.mp added
        have sum := (ih small).mp rest
        omega
      · rintro ⟨sum, small⟩
        have next : (words + readbackStateElements residency kind (plans kind)) * 4 < 2 ^ 64 := by
          omega
        exact ⟨_, add_state_bytes.mpr ⟨rfl, next⟩, (ih next).mpr ⟨by omega, small⟩⟩

theorem output_words (mode : GpuProcessScanMode) :
    ∃ words, outputBytesPerReview mode = words * 4 := by
  cases mode with
  | predictions => exact ⟨1, rfl⟩
  | curves => exact ⟨257, rfl⟩
  | stateOnly => exact ⟨0, rfl⟩

theorem process_readback {residency : StateResidency} {mode : GpuProcessScanMode}
    {reviews found : Nat} {plans : ModuleKind → ModulePlan} :
    processReadbackBytes residency mode reviews plans = some found ↔
      found = reviews * outputBytesPerReview mode +
          (moduleKinds.map fun kind =>
            readbackStateElements residency kind (plans kind)).sum * 4 ∧
        found < 2 ^ 64 := by
  obtain ⟨words, output⟩ := output_words mode
  have product : reviews * (words * 4) = reviews * words * 4 := (Nat.mul_assoc _ _ _).symm
  rw [processReadbackBytes, output, product, Option.bind_eq_bind, Option.bind_eq_some_iff]
  constructor
  · rintro ⟨bytes, outputs, states⟩
    rw [checkedMul, product] at outputs
    obtain ⟨rfl, small⟩ := in_usize_some.mp outputs
    have sum := (add_all_state_bytes moduleKinds small).mp states
    omega
  · rintro ⟨sum, small⟩
    have start : reviews * words * 4 < 2 ^ 64 := by omega
    refine ⟨reviews * words * 4, ?_, (add_all_state_bytes moduleKinds start).mpr ⟨by omega, small⟩⟩
    rw [checkedMul, product]
    exact in_usize_some.mpr ⟨rfl, start⟩

section Demands

variable (mode : GpuProcessScanMode) (chunkReviews : Nat) {limits : ProcessResourceLimits}
  (hasState : ModuleKind → Option Int64 → Bool)

theorem plan_state_bytes (ids : List ReviewIds) (kind : ModuleKind) :
    stateElements kind (batchPlans mode chunkReviews hasState ids kind) * floatBytes =
      stateBytes kind ids := by
  rw [stateElements, plan_keys, stateBytes, stateLayerBytes]
  ring

theorem plan_states_sum (ids : List ReviewIds) :
    (moduleKinds.map fun kind =>
        stateElements kind (batchPlans mode chunkReviews hasState ids kind)).sum * floatBytes =
      (moduleKinds.map (stateBytes · ids)).sum := by
  rw [← List.sum_map_mul_right]
  apply congrArg List.sum
  apply List.map_congr_left
  intro kind _
  exact plan_state_bytes mode chunkReviews hasState ids kind

theorem plan_readback (ids : List ReviewIds) {found : Nat} :
    processReadbackBytes .returned mode ids.length (batchPlans mode chunkReviews hasState ids) =
        some found ↔ found = readbackBytes mode ids ∧ found < 2 ^ 64 := by
  rw [process_readback, readbackBytes, ← plan_states_sum mode chunkReviews hasState]
  exact Iff.rfl

/-- No resident state has to make room for a batch. -/
def EvictsNothing (residency : StateResidency) (plans : ModuleKind → ModulePlan) : Prop :=
  ∀ kind, evictedKeys residency kind (plans kind) = []

theorem returned_evicts_nothing (plans : ModuleKind → ModulePlan) :
    EvictsNothing .returned plans := fun _ => rfl

theorem host_keys_le (residency : StateResidency) (kind : ModuleKind) (plan : ModulePlan) :
    (hostKeys residency kind plan).length ≤ plan.keys.length := by
  cases residency with
  | returned => exact Nat.le_refl _
  | workingSet keys => exact List.length_filter_le _ _
  | fullyResident keys => exact List.length_filter_le _ _

theorem readback_elements_le {residency : StateResidency} {plans : ModuleKind → ModulePlan}
    (quiet : EvictsNothing residency plans) (kind : ModuleKind) :
    readbackStateElements residency kind (plans kind) ≤ stateElements kind (plans kind) := by
  cases residency with
  | returned => exact Nat.le_refl _
  | workingSet keys =>
      rw [readbackStateElements, evictedStateElements, quiet kind, List.length_nil, Nat.zero_mul,
        Nat.zero_mul]
      exact Nat.zero_le _
  | fullyResident keys => exact Nat.zero_le _

/-- A batch that evicts nothing reads back no more than one that returns its states. -/
theorem readback_at_most (ids : List ReviewIds) {residency : StateResidency}
    (quiet : EvictsNothing residency (batchPlans mode chunkReviews hasState ids)) :
    ids.length * outputBytesPerReview mode + (moduleKinds.map fun kind =>
        readbackStateElements residency kind (batchPlans mode chunkReviews hasState ids kind)).sum *
      4 ≤ readbackBytes mode ids := by
  rw [readbackBytes, ← plan_states_sum mode chunkReviews hasState]
  apply Nat.add_le_add_left
  apply Nat.mul_le_mul_right
  apply List.sum_le_sum
  intro kind _
  exact readback_elements_le quiet kind

variable {mode chunkReviews}

theorem le_max_reviews {count reviews : Nat} :
    reviews ≤ maxReviews limits mode count ↔
      reviews ≤ count ∧ reviews * mode.rowsPerReview ≤ limits.maxWorkgroups ∧
        reviews * mode.rowsPerReview * channels * 4 ≤ limits.maxStorageBufferBytes ∧
        reviews * mode.rowsPerReview * featureDim * 4 ≤ limits.maxStorageBufferBytes := by
  have rows : 0 < mode.rowsPerReview := rows_per_review_positive mode
  simp only [maxReviews, List.foldl_cons, List.foldl_nil, le_inf_iff, floatBytes]
  rw [Nat.le_div_iff_mul_le rows]
  cases mode with
  | predictions => simp [GpuProcessScanMode.rowsPerReview, channels, featureDim]; omega
  | curves => simp [GpuProcessScanMode.rowsPerReview, channels, featureDim]; omega
  | stateOnly => simp [GpuProcessScanMode.rowsPerReview, channels, featureDim]; omega

theorem global_state_bytes {ids : List ReviewIds} (some : ids ≠ []) :
    stateBytes .global ids = 4 * stateLayerBytes := by
  have one : groupTotal onePerStream .global ids = 1 := by
    rw [global_total rfl]
    exact Nat.min_eq_right (List.length_pos_of_ne_nil some)
  rw [stateBytes, one, Nat.mul_one]
  rfl

theorem max_transforms {count : Nat} :
    count ≤ maxTransforms limits ↔ count * 8192 * 4 ≤ limits.maxStorageBufferBytes := by
  have factor : transformBytes = 8192 * 4 := rfl
  rw [maxTransforms, Nat.le_div_iff_mul_le (by decide), factor, Nat.mul_assoc]

theorem max_transforms_some {count : Nat} :
    max count 1 * transformElements * floatBytes ≤ limits.maxStorageBufferBytes ↔
      count ≤ maxTransforms limits ∧ 1 ≤ maxTransforms limits := by
  have words : transformElements * floatBytes = 8192 * 4 := rfl
  rw [Nat.mul_assoc, words, ← Nat.mul_assoc, ← max_transforms, sup_le_iff]

theorem review_rows_le (reviews : Nat) : reviews ≤ reviews * mode.rowsPerReview :=
  Nat.le_mul_of_pos_right reviews (rows_per_review_positive mode)

theorem within_of_fits (positive : 0 < chunkReviews) {ids : List ReviewIds} (some : ids ≠ [])
    (bounded : ids.length ≤ maxReviews limits mode ids.length)
    (fits : PrefixFits limits chunkReviews mode ids) {residency : StateResidency}
    (quiet : EvictsNothing residency (batchPlans mode chunkReviews hasState ids)) :
    WithinLimits limits residency mode ids.length (batchPlans mode chunkReviews hasState ids) := by
  obtain ⟨_, workgroups, values, features⟩ := le_max_reviews.mp bounded
  have rows : ids.length ≤ ids.length * mode.rowsPerReview := review_rows_le ids.length
  have entities : ∀ kind, (batchPlans mode chunkReviews hasState ids kind).keys.length ≤
      ids.length := by
    intro kind
    rw [plan_keys]
    exact group_total_le kind (fun count => Nat.min_le_left count 1) ids
  have transforms : ∀ kind,
      (batchPlans mode chunkReviews hasState ids kind).transformMetadata.length ≤ ids.length := by
    intro kind
    rw [plan_transforms mode hasState positive]
    exact group_total_le kind (transform_weight_le chunkReviews) ids
  have chunks := plan_chunks_le mode hasState positive ids
  have global := fits.states .global
  rw [global_state_bytes some] at global
  have room : 17408 * 4 ≤ limits.maxStorageBufferBytes := by
    have factor : 4 * stateLayerBytes = 17408 * 4 := rfl
    omega
  have word : 4 ≤ limits.maxStorageBufferBytes := by omega
  have perRow : ids.length * mode.rowsPerReview * 512 ≤ limits.maxStorageBufferBytes := by
    unfold channels at values
    omega
  constructor
  · exact workgroups
  · unfold channels
    omega
  · intro kind
    have := entities kind
    omega
  · intro kind
    rw [quiet kind]
    exact Nat.zero_le _
  · intro kind
    have := transforms kind
    omega
  · intro kind
    have := chunks kind
    omega
  · exact fits_words word features
  · exact fits_words word values
  · intro kind
    apply fits_words word
    apply max_transforms_some.mpr
    rw [plan_transforms mode hasState positive]
    exact ⟨fits.transforms kind, max_transforms.mpr (by omega)⟩
  · split
    · apply fits_words word
      omega
    · exact fits_nothing word
  · split
    · apply fits_words word
      unfold channels
      omega
    · exact fits_word word
  · intro kind
    apply fits_words word
    have own := fits.states kind
    rw [← plan_state_bytes mode chunkReviews hasState] at own
    exact own
  · intro kind
    apply fits_words word
    have own := fits.states kind
    rw [← plan_state_bytes mode chunkReviews hasState] at own
    apply Nat.le_trans _ own
    apply Nat.mul_le_mul_right
    apply Nat.mul_le_mul_right
    apply Nat.mul_le_mul_right
    exact host_keys_le residency kind _
  · intro kind
    rw [quiet kind, List.length_nil, Nat.zero_mul]
    exact fits_nothing word
  · intro kind
    rw [evictedStateElements, quiet kind, List.length_nil, Nat.zero_mul, Nat.zero_mul, Nat.zero_mul]
    exact fits_nothing word
  · intro kind
    have := entities kind
    have words : BufferFits limits.maxStorageBufferBytes
        ((batchPlans mode chunkReviews hasState ids kind).keys.length * 4 * 4) :=
      fits_words word (by omega)
    rw [Nat.mul_assoc] at words
    exact words
  · intro kind
    rw [plan_metadata]
    have words : BufferFits limits.maxStorageBufferBytes
        (ids.length * mode.rowsPerReview * 4 * 4) := fits_words word (by omega)
    rw [Nat.mul_assoc] at words
    exact words
  · intro kind
    have := transforms kind
    have words : BufferFits limits.maxStorageBufferBytes
        ((batchPlans mode chunkReviews hasState ids kind).transformMetadata.length * 4 * 4) :=
      fits_words word (by omega)
    rw [Nat.mul_assoc] at words
    exact words
  · intro kind
    have := chunks kind
    have words : BufferFits limits.maxStorageBufferBytes
        ((batchPlans mode chunkReviews hasState ids kind).finalChunkMetadata.length * 8 * 4) :=
      fits_words word (by omega)
    rw [Nat.mul_assoc] at words
    exact words
  · intro kind
    rw [plan_rows]
    apply fits_words word
    omega
  · have inside := Nat.le_trans (readback_at_most mode chunkReviews hasState ids quiet) fits.readback
    have small := Nat.lt_of_le_of_lt inside limits.bufferUsize
    refine ⟨_, process_readback.mpr ⟨rfl, small⟩, ?_⟩
    have part : 17408 * 4 ≤ readbackBytes mode ids := by
      have factor : 17408 * 4 = stateBytes .global ids := (global_state_bytes some).symm
      rw [factor]
      simp only [readbackBytes, moduleKinds, List.map_cons, List.map_nil, List.sum_cons,
        List.sum_nil]
      omega
    have whole := fits.readback
    obtain ⟨words, output⟩ := output_words mode
    rw [output, ← Nat.mul_assoc, ← Nat.add_mul] at inside ⊢
    exact fits_words (by omega) inside

theorem fits_of_within (positive : 0 < chunkReviews) {ids : List ReviewIds}
    (within : WithinLimits limits .returned mode ids.length
      (batchPlans mode chunkReviews hasState ids)) :
    ids.length ≤ maxReviews limits mode ids.length ∧ PrefixFits limits chunkReviews mode ids := by
  refine ⟨le_max_reviews.mpr ⟨Nat.le_refl _, within.rowWorkgroups, fits_bytes within.rowValues,
    fits_bytes within.features⟩, ?_, ?_, ?_⟩
  · intro kind
    have own := fits_bytes (within.transforms kind)
    rw [plan_transforms mode hasState positive] at own
    exact (max_transforms_some.mp own).1
  · intro kind
    rw [← plan_state_bytes mode chunkReviews hasState]
    exact fits_bytes (within.states kind)
  · obtain ⟨bytes, read, fits⟩ := within.readback
    obtain ⟨rfl, _⟩ := (plan_readback mode chunkReviews hasState ids).mp read
    exact fits_bytes fits

end Demands

theorem scan_key (module : EntityModule) (ids : ReviewIds) :
    (scanKind module).key ids = some (module.key ids) := by
  cases module <;> rfl

/-- The counters of the search after the given reviews. -/
structure Counted (chunkReviews : Nat) (counts : PrefixCounts) (done : List ReviewIds) :
    Prop where
  reviews : ∀ (module : EntityModule) (key : Int64),
    (counts.streamReviews module).getD key 0 = groupLength (scanKind module) done (some key)
  known : ∀ (module : EntityModule) (key : Int64), key ∈ counts.identities module ↔
    groupLength (scanKind module) done (some key) ≠ 0
  entities : ∀ module, (counts.identities module).size =
    groupTotal onePerStream (scanKind module) done
  transforms : ∀ module, counts.moduleTransforms module =
    groupTotal (transformWeight chunkReviews) (scanKind module) done
  bytes : counts.combinedStateBytes = 4 * stateLayerBytes +
    (keyedModules.map fun module => stateBytes (scanKind module) done).sum

theorem start_counted (chunkReviews : Nat) : Counted chunkReviews .start [] := by
  constructor
  · intro module key
    exact ExtHashMap.getD_empty
  · intro module key
    simp [PrefixCounts.start, group_length_nil]
  · intro module
    exact ExtHashSet.size_empty
  · intro module
    rfl
  · rfl

section Steps

variable {chunkReviews : Nat} {counts : PrefixCounts} {done : List ReviewIds}

theorem next_transforms (counted : Counted chunkReviews counts done) (ids : ReviewIds)
    (module : EntityModule) :
    nextModuleTransforms chunkReviews counts ids module =
      groupTotal (transformWeight chunkReviews) (scanKind module) (done ++ [ids]) := by
  have step := group_total_append (scanKind module) (transform_weight_zero chunkReviews) done ids
  have longer : transformWeight chunkReviews
        (groupLength (scanKind module) done (some (module.key ids))) ≤
      transformWeight chunkReviews
        (groupLength (scanKind module) done (some (module.key ids)) + 1) :=
    transform_weight_mono chunkReviews (Nat.le_succ _)
  rw [scan_key] at step
  simp only [nextModuleTransforms, counted.transforms, counted.reviews]
  unfold transformWeight at step longer ⊢
  omega

theorem next_entities (module : EntityModule) (ids : ReviewIds) :
    groupTotal onePerStream (scanKind module) (done ++ [ids]) =
      groupTotal onePerStream (scanKind module) done +
        if groupLength (scanKind module) done (some (module.key ids)) = 0 then 1 else 0 := by
  have nothing : onePerStream 0 = 0 := rfl
  have step := group_total_append (scanKind module) nothing done ids
  rw [scan_key] at step
  unfold onePerStream at step ⊢
  split
  · omega
  · omega

def addedBytes (done : List ReviewIds) (ids : ReviewIds) (module : EntityModule) : Nat :=
  if groupLength (scanKind module) done (some (module.key ids)) = 0 then
    moduleLayers (scanKind module) * stateLayerBytes else 0

theorem next_state_bytes (done : List ReviewIds) (module : EntityModule) (ids : ReviewIds) :
    stateBytes (scanKind module) (done ++ [ids]) =
      stateBytes (scanKind module) done + addedBytes done ids module := by
  rw [stateBytes, stateBytes, next_entities, addedBytes]
  split
  · ring
  · ring

theorem added_bytes_le (done : List ReviewIds) (ids : ReviewIds) (module : EntityModule) :
    addedBytes done ids module ≤ 4 * stateLayerBytes := by
  unfold addedBytes
  split
  · exact Nat.mul_le_mul_right _ (by cases module <;> decide)
  · exact Nat.zero_le _

/-- What a review demands of one module. -/
structure ModuleFits (limits : ProcessResourceLimits) (chunkReviews : Nat) (ids : List ReviewIds)
    (module : EntityModule) : Prop where
  transforms : groupTotal (transformWeight chunkReviews) (scanKind module) ids ≤
    maxTransforms limits
  states : stateBytes (scanKind module) ids ≤ limits.maxStorageBufferBytes

theorem admit_module {limits : ProcessResourceLimits}
    (counted : Counted chunkReviews counts done)
    (before : ∀ module, stateBytes (scanKind module) done ≤ limits.maxStorageBufferBytes)
    (ids : ReviewIds) (module : EntityModule) {bytes found : Nat} (small : bytes < 2 ^ 63) :
    admitModule limits chunkReviews counts ids bytes module = some found ↔
      ModuleFits limits chunkReviews (done ++ [ids]) module ∧
        found = bytes + addedBytes done ids module := by
  have states := next_state_bytes done module ids
  have layered := added_bytes_le done ids module
  have usize := limits.storageUsize
  rw [admitModule, next_transforms counted]
  by_cases exceeded : groupTotal (transformWeight chunkReviews) (scanKind module) (done ++ [ids]) >
      maxTransforms limits
  · rw [if_pos exceeded]
    constructor
    · intro impossible
      cases impossible
    · rintro ⟨fits, _⟩
      exact absurd exceeded (Nat.not_lt.mpr fits.transforms)
  · rw [if_neg exceeded]
    have transforms := Nat.not_lt.mp exceeded
    by_cases known : module.key ids ∈ counts.identities module
    · have none : addedBytes done ids module = 0 := if_neg ((counted.known _ _).mp known)
      rw [if_pos known, none, Nat.add_zero, Option.some.injEq]
      have same : stateBytes (scanKind module) (done ++ [ids]) ≤ limits.maxStorageBufferBytes := by
        rw [states, none]
        exact before module
      constructor
      · intro equal
        exact ⟨⟨transforms, same⟩, equal.symm⟩
      · rintro ⟨_, equal⟩
        exact equal.symm
    · rw [if_neg known]
      have absent : groupLength (scanKind module) done (some (module.key ids)) = 0 := by
        have := mt (counted.known module (module.key ids)).mpr known
        omega
      have added : addedBytes done ids module = moduleLayers (scanKind module) * stateLayerBytes :=
        if_pos absent
      have required : ((counts.identities module).size + 1) * moduleLayers (scanKind module) *
          stateLayerBytes = stateBytes (scanKind module) (done ++ [ids]) := by
        rw [counted.entities, stateBytes, next_entities, if_pos absent]
        ring
      have counted : ((counts.identities module).size + 1) * moduleLayers (scanKind module) ≤
          stateBytes (scanKind module) (done ++ [ids]) := by
        rw [← required]
        exact Nat.le_mul_of_pos_right _ (by decide)
      have layerBytes : 4 * stateLayerBytes = 69632 := rfl
      rw [added] at layered states ⊢
      simp only [checkedMul, checkedAdd, Option.bind_eq_bind, Option.bind_eq_some_iff,
        in_usize_some]
      constructor
      · rintro ⟨_, ⟨rfl, _⟩, _, ⟨rfl, _⟩, rest⟩
        rw [required] at rest
        split at rest
        · cases rest
        · rename_i inside
          obtain ⟨_, layer, sum⟩ := Option.bind_eq_some_iff.mp rest
          obtain ⟨rfl, _⟩ := in_usize_some.mp layer
          exact ⟨⟨transforms, Nat.not_lt.mp inside⟩, (in_usize_some.mp sum).1⟩
      · rintro ⟨fits, sum⟩
        have inside := fits.states
        refine ⟨_, ⟨rfl, by omega⟩, _, ⟨rfl, by omega⟩, ?_⟩
        rw [required, if_neg (Nat.not_lt.mpr inside)]
        apply Option.bind_eq_some_iff.mpr
        exact ⟨_, in_usize_some.mpr ⟨rfl, by omega⟩, in_usize_some.mpr ⟨sum, by omega⟩⟩

theorem admit_modules {limits : ProcessResourceLimits}
    (counted : Counted chunkReviews counts done)
    (before : ∀ module, stateBytes (scanKind module) done ≤ limits.maxStorageBufferBytes)
    (ids : ReviewIds) {found : Nat} :
    keyedModules.foldlM (admitModule limits chunkReviews counts ids) 0 = some found ↔
      (∀ module, ModuleFits limits chunkReviews (done ++ [ids]) module) ∧
        found = (keyedModules.map (addedBytes done ids)).sum := by
  have layerBytes : 4 * stateLayerBytes = 69632 := rfl
  have card := added_bytes_le done ids .card
  have deck := added_bytes_le done ids .deck
  have note := added_bytes_le done ids .note
  have step : ∀ module {bytes found : Nat}, bytes < 2 ^ 63 →
      (admitModule limits chunkReviews counts ids bytes module = some found ↔
        ModuleFits limits chunkReviews (done ++ [ids]) module ∧
          found = bytes + addedBytes done ids module) :=
    fun module {_ _} small => admit_module counted before ids module small
  simp only [keyedModules, List.foldlM_cons, List.foldlM_nil, Option.bind_eq_bind,
    Option.bind_eq_some_iff, Option.pure_def, Option.some.injEq, List.map_cons, List.map_nil,
    List.sum_cons, List.sum_nil]
  constructor
  · rintro ⟨_, first, _, second, _, third, _, fourth, rfl⟩
    obtain ⟨cardFits, rfl⟩ := (step .card (by omega)).mp first
    obtain ⟨deckFits, rfl⟩ := (step .deck (by omega)).mp second
    obtain ⟨noteFits, rfl⟩ := (step .note (by omega)).mp third
    obtain ⟨presetFits, rfl⟩ := (step .preset (by omega)).mp fourth
    refine ⟨?_, by omega⟩
    intro module
    cases module with
    | card => exact cardFits
    | deck => exact deckFits
    | note => exact noteFits
    | preset => exact presetFits
  · rintro ⟨fits, sum⟩
    exact ⟨_, (step .card (by omega)).mpr ⟨fits .card, rfl⟩,
      _, (step .deck (by omega)).mpr ⟨fits .deck, rfl⟩,
      _, (step .note (by omega)).mpr ⟨fits .note, rfl⟩,
      _, (step .preset (by omega)).mpr ⟨fits .preset, rfl⟩, by omega⟩

theorem keyed_sum_append (done : List ReviewIds) (ids : ReviewIds) :
    (keyedModules.map fun module => stateBytes (scanKind module) (done ++ [ids])).sum =
      (keyedModules.map fun module => stateBytes (scanKind module) done).sum +
        (keyedModules.map (addedBytes done ids)).sum := by
  simp only [keyedModules, List.map_cons, List.map_nil, List.sum_cons, List.sum_nil,
    next_state_bytes]
  omega

theorem readback_keyed {mode : GpuProcessScanMode} {ids : List ReviewIds} (some : ids ≠ []) :
    readbackBytes mode ids = ids.length * outputBytesPerReview mode + (4 * stateLayerBytes +
      (keyedModules.map fun module => stateBytes (scanKind module) ids).sum) := by
  rw [← global_state_bytes some]
  simp only [readbackBytes, moduleKinds, keyedModules, List.map_cons, List.map_nil, List.sum_cons,
    List.sum_nil, scanKind]
  ring

local instance equivBEqInt64 : EquivBEq Int64 := inferInstance

local instance lawfulHashableInt64 : LawfulHashable Int64 := inferInstance

/-- The counters after one more review. -/
def countedNext (chunkReviews : Nat) (counts : PrefixCounts) (ids : ReviewIds)
    (nextStateBytes : Nat) : PrefixCounts where
  identities module := (counts.identities module).insert (module.key ids)
  streamReviews module := (counts.streamReviews module).insert (module.key ids)
    ((counts.streamReviews module).getD (module.key ids) 0 + 1)
  moduleTransforms := nextModuleTransforms chunkReviews counts ids
  combinedStateBytes := nextStateBytes

theorem next_counted (counted : Counted chunkReviews counts done) (ids : ReviewIds)
    {nextStateBytes : Nat}
    (bytes : nextStateBytes = counts.combinedStateBytes +
      (keyedModules.map (addedBytes done ids)).sum) :
    Counted chunkReviews (countedNext chunkReviews counts ids nextStateBytes) (done ++ [ids]) := by
  constructor
  · intro module key
    change ((counts.streamReviews module).insert (module.key ids) _).getD key 0 = _
    rw [ExtHashMap.getD_insert, group_length_append, scan_key, counted.reviews, counted.reviews]
    by_cases same : module.key ids = key
    · simp [same]
    · simp [same, Ne.symm same]
  · intro module key
    change key ∈ (counts.identities module).insert (module.key ids) ↔ _
    rw [ExtHashSet.mem_insert, group_length_append, scan_key, counted.known]
    by_cases same : module.key ids = key
    · simp [same]
    · simp [same, Ne.symm same]
  · intro module
    change ((counts.identities module).insert (module.key ids)).size = _
    rw [ExtHashSet.size_insert, next_entities, counted.entities]
    by_cases known : module.key ids ∈ counts.identities module
    · rw [if_pos known, if_neg ((counted.known _ _).mp known), Nat.add_zero]
    · have absent : groupLength (scanKind module) done (some (module.key ids)) = 0 := by
        have := mt (counted.known module (module.key ids)).mpr known
        omega
      rw [if_neg known, if_pos absent]
  · intro module
    exact next_transforms counted ids module
  · change nextStateBytes = _
    rw [bytes, counted.bytes, keyed_sum_append]
    omega

variable {limits : ProcessResourceLimits} {mode : GpuProcessScanMode}

theorem fits_by_module (room : 4 * stateLayerBytes ≤ limits.maxStorageBufferBytes)
    {ids : List ReviewIds} (some : ids ≠ []) :
    PrefixFits limits chunkReviews mode ids ↔
      (∀ module, ModuleFits limits chunkReviews ids module) ∧
        readbackBytes mode ids ≤ limits.maxBufferBytes ∧
        transformWeight chunkReviews ids.length ≤ maxTransforms limits := by
  have global : groupTotal (transformWeight chunkReviews) .global ids =
      transformWeight chunkReviews ids.length := global_total (transform_weight_zero _) ids
  constructor
  · intro fits
    refine ⟨fun module => ⟨fits.transforms _, fits.states _⟩, fits.readback, ?_⟩
    rw [← global]
    exact fits.transforms .global
  · rintro ⟨modules, readback, transforms⟩
    refine ⟨?_, ?_, readback⟩
    · intro kind
      cases kind with
      | card => exact (modules .card).transforms
      | deck => exact (modules .deck).transforms
      | note => exact (modules .note).transforms
      | preset => exact (modules .preset).transforms
      | global =>
          rw [global]
          exact transforms
    · intro kind
      cases kind with
      | card => exact (modules .card).states
      | deck => exact (modules .deck).states
      | note => exact (modules .note).states
      | preset => exact (modules .preset).states
      | global =>
          rw [global_state_bytes some]
          exact room

theorem admit_review (room : 4 * stateLayerBytes ≤ limits.maxStorageBufferBytes)
    (counted : Counted chunkReviews counts done)
    (before : ∀ module, stateBytes (scanKind module) done ≤ limits.maxStorageBufferBytes)
    (ids : ReviewIds) {next : PrefixCounts} :
    admitReview limits chunkReviews mode counts done.length ids = some next ↔
      PrefixFits limits chunkReviews mode (done ++ [ids]) ∧
        next = countedNext chunkReviews counts ids
          (counts.combinedStateBytes + (keyedModules.map (addedBytes done ids)).sum) := by
  have reviews : (done ++ [ids]).length = done.length + 1 := by simp
  have nonempty : done ++ [ids] ≠ [] := by simp
  have total : readbackBytes mode (done ++ [ids]) =
      (done.length + 1) * outputBytesPerReview mode +
        (counts.combinedStateBytes + (keyedModules.map (addedBytes done ids)).sum) := by
    rw [readback_keyed nonempty, reviews, keyed_sum_append, counted.bytes]
    omega
  have usize := limits.bufferUsize
  rw [fits_by_module room nonempty, admitReview, Option.bind_eq_bind, Option.bind_eq_some_iff]
  simp only [checkedAdd, checkedMul, Option.bind_eq_some_iff, in_usize_some]
  constructor
  · rintro ⟨newBytes, admitted, _, ⟨rfl, _⟩, _, ⟨rfl, _⟩, _, ⟨rfl, _⟩, rest⟩
    obtain ⟨modules, rfl⟩ := (admit_modules counted before ids).mp admitted
    split at rest
    · cases rest
    · rename_i readback
      split at rest
      · cases rest
      · rename_i transforms
        cases rest
        refine ⟨⟨modules, by omega, ?_⟩, rfl⟩
        rw [reviews]
        exact Nat.not_lt.mp transforms
  · rintro ⟨⟨modules, readback, transforms⟩, same⟩
    rw [reviews] at transforms
    refine ⟨_, (admit_modules counted before ids).mpr ⟨modules, rfl⟩, _, ⟨rfl, by omega⟩,
      _, ⟨rfl, by omega⟩, _, ⟨rfl, by omega⟩, ?_⟩
    rw [if_neg (by omega), same]
    exact if_neg (Nat.not_lt.mpr transforms)

/-- Where the search stops: behind reviews that fit, before the first review that does not. -/
structure Stopped (limits : ProcessResourceLimits) (chunkReviews : Nat) (mode : GpuProcessScanMode)
    (done rest : List ReviewIds) (taken : Nat) : Prop where
  inside : taken ≤ rest.length
  fits : 0 < taken → PrefixFits limits chunkReviews mode (done ++ rest.take taken)
  refused : taken < rest.length →
    ¬ PrefixFits limits chunkReviews mode (done ++ rest.take (taken + 1))

theorem search_stops (mode : GpuProcessScanMode)
    (room : 4 * stateLayerBytes ≤ limits.maxStorageBufferBytes)
    (rest : List ReviewIds) (counted : Counted chunkReviews counts done)
    (before : ∀ module, stateBytes (scanKind module) done ≤ limits.maxStorageBufferBytes) :
    ∃ taken, searchPrefix limits chunkReviews mode counts done.length rest =
      done.length + taken ∧ Stopped limits chunkReviews mode done rest taken := by
  induction rest generalizing counts done with
  | nil =>
      refine ⟨0, rfl, Nat.le_refl _, ?_, ?_⟩
      · intro impossible
        exact absurd impossible (Nat.lt_irrefl 0)
      · intro impossible
        exact absurd impossible (Nat.lt_irrefl 0)
  | cons ids rest ih =>
      rw [searchPrefix]
      cases admitted : admitReview limits chunkReviews mode counts done.length ids with
      | none =>
          refine ⟨0, rfl, Nat.zero_le _, ?_, ?_⟩
          · intro impossible
            exact absurd impossible (Nat.lt_irrefl 0)
          · intro _ fits
            rw [Nat.zero_add, List.take_succ_cons, List.take_zero] at fits
            rw [(admit_review room counted before ids).mpr ⟨fits, rfl⟩] at admitted
            cases admitted
      | some next =>
          obtain ⟨fits, rfl⟩ := (admit_review room counted before ids).mp admitted
          have after := next_counted counted ids rfl
          obtain ⟨taken, found, stopped⟩ := ih after fun module => fits.states _
          rw [List.length_append, List.length_singleton] at found
          have joined : ∀ count, done ++ (ids :: rest).take (count + 1) =
              (done ++ [ids]) ++ rest.take count := by
            intro count
            rw [List.take_succ_cons, List.append_assoc, List.singleton_append]
          refine ⟨taken + 1, ?_, ?_, ?_, ?_⟩
          · rw [← Nat.add_assoc, Nat.add_right_comm]
            exact found
          · rw [List.length_cons]
            exact Nat.succ_le_succ stopped.inside
          · intro _
            rw [joined]
            rcases Nat.eq_zero_or_pos taken with none | some
            · rw [none, List.take_zero, List.append_nil]
              exact fits
            · exact stopped.fits some
          · intro more
            rw [joined]
            exact stopped.refused (Nat.lt_of_succ_lt_succ more)

theorem count_reviews (ids : List ReviewIds)
    (fits : ids ≠ [] → PrefixFits limits chunkReviews mode ids) :
    ∃ counts, countReviews limits chunkReviews mode ids = some counts ∧
      Counted chunkReviews counts ids := by
  induction ids using List.reverseRecOn with
  | nil => exact ⟨.start, rfl, start_counted chunkReviews⟩
  | append_singleton ids added ih =>
      have whole := fits (by simp)
      have shorter := prefix_fits_shorter whole
      have nonempty : ids ++ [added] ≠ [] := by simp
      have room : 4 * stateLayerBytes ≤ limits.maxStorageBufferBytes := by
        rw [← global_state_bytes nonempty]
        exact whole.states .global
      obtain ⟨counts, found, counted⟩ := ih fun _ => shorter
      have admitted := (admit_review room counted (fun _ => shorter.states _) added).mpr ⟨whole, rfl⟩
      refine ⟨_, ?_, next_counted counted added rfl⟩
      rw [countReviews] at found ⊢
      rw [List.zipIdx_append, List.foldlM_append, found]
      simpa using admitted

theorem counted_accounts (mode : GpuProcessScanMode) (positive : 0 < chunkReviews) {ids : List ReviewIds}
    (hasState : ModuleKind → Option Int64 → Bool) (counted : Counted chunkReviews counts ids) :
    Accounts counts ids.length (batchPlans mode chunkReviews hasState ids) := by
  constructor
  · intro module
    rw [plan_keys]
    exact counted.entities module
  · intro module
    rw [plan_transforms mode hasState positive]
    exact counted.transforms module
  · intro some
    have nonempty := List.ne_nil_of_length_pos some
    have states : (moduleKinds.map fun kind =>
        stateElements kind (batchPlans mode chunkReviews hasState ids kind) * floatBytes) =
        moduleKinds.map (stateBytes · ids) := by
      apply List.map_congr_left
      intro kind _
      exact plan_state_bytes mode chunkReviews hasState ids kind
    rw [counted.bytes, states, ← global_state_bytes nonempty]
    simp only [moduleKinds, keyedModules, List.map_cons, List.map_nil, List.sum_cons, List.sum_nil,
      scanKind]
    ring

end Steps

section Exact

variable {limits : ProcessResourceLimits} {chunkReviews : Nat} {mode : GpuProcessScanMode}
  {hasState : ModuleKind → Option Int64 → Bool}

/-- No reviews demand nothing: they are never given to the device. -/
def SafePrefix (limits : ProcessResourceLimits) (residency : StateResidency) (chunkReviews : Nat)
    (mode : GpuProcessScanMode) (hasState : ModuleKind → Option Int64 → Bool)
    (ids : List ReviewIds) : Prop :=
  ids = [] ∨ WithinLimits limits residency mode ids.length
    (batchPlans mode chunkReviews hasState ids)

theorem prefix_safe (positive : 0 < chunkReviews) (ids : List ReviewIds) :
    SafePrefix limits .returned chunkReviews mode hasState ids ↔
      ids = [] ∨ ids.length ≤ maxReviews limits mode ids.length ∧
        PrefixFits limits chunkReviews mode ids := by
  by_cases empty : ids = []
  · exact ⟨fun _ => .inl empty, fun _ => .inl empty⟩
  · constructor
    · rintro (impossible | within)
      · exact absurd impossible empty
      · exact .inr (fits_of_within hasState positive within)
    · rintro (impossible | ⟨bounded, fits⟩)
      · exact absurd impossible empty
      · have quiet := returned_evicts_nothing (batchPlans mode chunkReviews hasState ids)
        exact .inr (within_of_fits hasState positive empty bounded fits quiet)

theorem fits_take {ids : List ReviewIds} {shorter longer : Nat} (less : shorter ≤ longer)
    (fits : PrefixFits limits chunkReviews mode (ids.take longer)) :
    PrefixFits limits chunkReviews mode (ids.take shorter) := by
  have split : (ids.take longer).take shorter ++ (ids.take longer).drop shorter =
      ids.take longer := List.take_append_drop shorter (ids.take longer)
  rw [List.take_take, Nat.min_eq_left less] at split
  rw [← split] at fits
  exact prefix_fits_shorter fits

/-- The longest prefix that is safe when its states are returned, with the plans that the counters
stand for. -/
structure LongestSafe (limits : ProcessResourceLimits) (chunkReviews : Nat)
    (mode : GpuProcessScanMode) (hasState : ModuleKind → Option Int64 → Bool)
    (ids : List ReviewIds) (found : Nat) : Prop where
  inside : found ≤ ids.length
  safe : SafePrefix limits .returned chunkReviews mode hasState (ids.take found)
  longest : ∀ longer, found < longer → longer ≤ ids.length →
    ¬ SafePrefix limits .returned chunkReviews mode hasState (ids.take longer)
  accounted : ∀ reviews, reviews ≤ found → ∃ counts,
    countReviews limits chunkReviews mode (ids.take reviews) = some counts ∧
      Accounts counts reviews (batchPlans mode chunkReviews hasState (ids.take reviews))

theorem prefix_found (limits : ProcessResourceLimits) (chunkReviews : Nat)
    (mode : GpuProcessScanMode) (ids : List ReviewIds) :
    maxSafeProcessPrefix limits chunkReviews mode ids ≤ maxReviews limits mode ids.length ∧
      (0 < maxSafeProcessPrefix limits chunkReviews mode ids →
        PrefixFits limits chunkReviews mode
          (ids.take (maxSafeProcessPrefix limits chunkReviews mode ids))) ∧
      ∀ longer, maxSafeProcessPrefix limits chunkReviews mode ids < longer →
        longer ≤ maxReviews limits mode ids.length →
        ¬ PrefixFits limits chunkReviews mode (ids.take longer) := by
  have within : maxReviews limits mode ids.length ≤ ids.length :=
    (le_max_reviews.mp (Nat.le_refl _)).1
  unfold maxSafeProcessPrefix
  split
  · rename_i small
    refine ⟨Nat.zero_le _, fun impossible => absurd impossible (Nat.lt_irrefl 0), ?_⟩
    intro longer some bounded fits
    have nonempty : ids.take longer ≠ [] := by
      apply List.ne_nil_of_length_pos
      rw [List.length_take]
      omega
    have room := fits.states .global
    rw [global_state_bytes nonempty] at room
    exact absurd small (Nat.not_lt.mpr room)
  · rename_i large
    have start : ∀ module, stateBytes (scanKind module) [] ≤ limits.maxStorageBufferBytes := by
      intro module
      rw [stateBytes, group_total_nil, Nat.mul_zero]
      exact Nat.zero_le _
    obtain ⟨taken, found, stopped⟩ := search_stops mode (Nat.not_lt.mp large)
      (ids.take (maxReviews limits mode ids.length)) (start_counted chunkReviews) start
    rw [List.length_nil, Nat.zero_add] at found
    have inside := stopped.inside
    rw [List.length_take, Nat.min_eq_left within] at inside
    have part : ∀ count, count ≤ maxReviews limits mode ids.length →
        [] ++ (ids.take (maxReviews limits mode ids.length)).take count = ids.take count := by
      intro count bounded
      rw [List.nil_append, List.take_take, Nat.min_eq_left bounded]
    rw [found]
    refine ⟨inside, ?_, ?_⟩
    · intro some
      rw [← part taken inside]
      exact stopped.fits some
    · intro longer later bounded fits
      apply stopped.refused
      · rw [List.length_take, Nat.min_eq_left within]
        omega
      · rw [part _ (by omega)]
        exact fits_take later fits

theorem longest_safe (positive : 0 < chunkReviews) (ids : List ReviewIds) :
    LongestSafe limits chunkReviews mode hasState ids
      (maxSafeProcessPrefix limits chunkReviews mode ids) := by
  obtain ⟨bounded, fits, refused⟩ := prefix_found limits chunkReviews mode ids
  obtain ⟨inside, demands⟩ := le_max_reviews.mp bounded
  generalize maxSafeProcessPrefix limits chunkReviews mode ids = found at *
  have counted : (ids.take found).length = found := by
    rw [List.length_take, Nat.min_eq_left inside]
  refine ⟨inside, ?_, ?_, ?_⟩
  · rw [prefix_safe positive, counted]
    rcases Nat.eq_zero_or_pos found with none | some
    · exact .inl (by rw [none, List.take_zero])
    · exact .inr ⟨le_max_reviews.mpr ⟨Nat.le_refl _, demands⟩, fits some⟩
  · intro longer later below safe
    have length : (ids.take longer).length = longer := by
      rw [List.length_take, Nat.min_eq_left below]
    rcases (prefix_safe positive _).mp safe with empty | ⟨rows, whole⟩
    · rw [empty, List.length_nil] at length
      omega
    · rw [length] at rows
      exact refused longer later
        (le_max_reviews.mpr ⟨below, (le_max_reviews.mp rows).2⟩) whole
  · intro reviews earlier
    have length : (ids.take reviews).length = reviews := by
      rw [List.length_take, Nat.min_eq_left (Nat.le_trans earlier inside)]
    have some : ids.take reviews ≠ [] →
        PrefixFits limits chunkReviews mode (ids.take reviews) := by
      intro nonempty
      have positiveFound : 0 < found := by
        have := List.length_pos_of_ne_nil nonempty
        omega
      exact fits_take earlier (fits positiveFound)
    obtain ⟨counts, admitted, account⟩ := count_reviews (ids.take reviews) some
    have accounts := counted_accounts mode positive hasState account
    rw [length] at accounts
    exact ⟨counts, admitted, accounts⟩

/-- A safe prefix stays safe wherever its states stay, as long as it evicts none. -/
theorem safe_without_evictions (positive : 0 < chunkReviews) {ids : List ReviewIds}
    (safe : SafePrefix limits .returned chunkReviews mode hasState ids) {residency : StateResidency}
    (quiet : EvictsNothing residency (batchPlans mode chunkReviews hasState ids)) :
    SafePrefix limits residency chunkReviews mode hasState ids := by
  by_cases empty : ids = []
  · exact .inl empty
  · obtain none | ⟨bounded, fits⟩ := (prefix_safe positive ids).mp safe
    · exact absurd none empty
    · exact .inr (within_of_fits hasState positive empty bounded fits quiet)

/-- The search finds the longest prefix that is safe when its states are returned, and the batch is
refused exactly when its first review alone exceeds the limits then. -/
theorem max_safe_process_prefix_exact (limits : ProcessResourceLimits) {chunkReviews : Nat}
    (positive : 0 < chunkReviews) (mode : GpuProcessScanMode)
    (hasState : ModuleKind → Option Int64 → Bool) (ids : List ReviewIds) :
    LongestSafe limits chunkReviews mode hasState ids
        (maxSafeProcessPrefix limits chunkReviews mode ids) ∧
      (ids ≠ [] →
        firstAttempt limits chunkReviews mode ids =
          if maxSafeProcessPrefix limits chunkReviews mode ids = 0 then
            .error "one GPU process review exceeds this adapter's buffer or dispatch limits"
          else .ok (maxSafeProcessPrefix limits chunkReviews mode ids)) ∧
      (ids ≠ [] → (maxSafeProcessPrefix limits chunkReviews mode ids = 0 ↔
        ¬ WithinLimits limits .returned mode 1
          (batchPlans mode chunkReviews hasState (ids.take 1)))) ∧
      ∀ residency,
        EvictsNothing residency (batchPlans mode chunkReviews hasState
          (ids.take (maxSafeProcessPrefix limits chunkReviews mode ids))) →
        SafePrefix limits residency chunkReviews mode hasState
          (ids.take (maxSafeProcessPrefix limits chunkReviews mode ids)) := by
  have exact : LongestSafe limits chunkReviews mode hasState ids _ := longest_safe positive ids
  refine ⟨exact, ?_, ?_, ?_⟩
  · intro _
    rw [firstAttempt]
    simp only [Nat.min_eq_left exact.inside]
  · intro nonempty
    have some : 1 ≤ ids.length := List.length_pos_of_ne_nil nonempty
    have one : (ids.take 1).length = 1 := by
      rw [List.length_take, Nat.min_eq_left some]
    constructor
    · intro none within
      rw [none] at exact
      apply exact.longest 1 Nat.one_pos some
      right
      rw [one]
      exact within
    · intro refused
      by_contra found
      obtain ⟨foundLe, fits, _⟩ := prefix_found limits chunkReviews mode ids
      have positiveFound := Nat.pos_of_ne_zero found
      have rows := (le_max_reviews.mp (Nat.le_trans positiveFound foundLe)).2
      have first := fits_take positiveFound (fits positiveFound)
      have nonempty : ids.take 1 ≠ [] := by
        apply List.ne_nil_of_length_pos
        rw [one]
        exact Nat.one_pos
      have bounded : (ids.take 1).length ≤ maxReviews limits mode (ids.take 1).length := by
        rw [one]
        exact le_max_reviews.mpr ⟨Nat.le_refl _, rows⟩
      have within := within_of_fits hasState positive nonempty bounded first
        (returned_evicts_nothing _)
      rw [one] at within
      exact refused within
  · intro residency quiet
    exact safe_without_evictions positive exact.safe quiet

/-- A device with room for the states of two cards. -/
def twoCardLimits : ProcessResourceLimits where
  maxStorageBufferBytes := 2 * 3 * stateLayerBytes
  maxBufferBytes := 2 ^ 63
  maxWorkgroups := 65535
  storageUsize := by decide
  bufferUsize := by decide

theorem two_cards_exact :
    LongestSafe twoCardLimits 512 .curves (fun _ _ => false)
        [(1, 101, 7, 8), (2, 102, 7, 8), (3, 103, 7, 8)]
        (maxSafeProcessPrefix twoCardLimits 512 .curves
          [(1, 101, 7, 8), (2, 102, 7, 8), (3, 103, 7, 8)]) :=
  (max_safe_process_prefix_exact twoCardLimits (by decide) .curves (fun _ _ => false)
    [(1, 101, 7, 8), (2, 102, 7, 8), (3, 103, 7, 8)]).1

/-- A device that can read back the states of no more than one module. -/
def oneReadbackLimits : ProcessResourceLimits where
  maxStorageBufferBytes := 4 * stateLayerBytes
  maxBufferBytes := 4 * stateLayerBytes
  maxWorkgroups := 65535
  storageUsize := by decide
  bufferUsize := by decide

def onlyReview : List ReviewIds := [(1, 101, 7, 8)]

theorem only_review_refused :
    maxSafeProcessPrefix oneReadbackLimits 512 .stateOnly onlyReview = 0 := by
  obtain ⟨below, fits, _⟩ := prefix_found oneReadbackLimits 512 .stateOnly onlyReview
  by_contra found
  have inside := (le_max_reviews.mp below).1
  have one : maxSafeProcessPrefix oneReadbackLimits 512 .stateOnly onlyReview = 1 :=
    Nat.le_antisymm inside (Nat.pos_of_ne_zero found)
  have whole := (fits (Nat.pos_of_ne_zero found)).readback
  rw [one] at whole
  exact absurd whole (by decide +kernel)

theorem kept_review_fits {residency : StateResidency}
    (kept : residency = (.workingSet fun _ => []) ∨ residency = (.fullyResident fun _ => [])) :
    WithinLimits oneReadbackLimits residency .stateOnly 1
      (batchPlans .stateOnly 512 (fun _ _ => false) onlyReview) := by
  rcases kept with rfl | rfl
  all_goals
    constructor
    case readback => exact ⟨0, by decide +kernel, by decide⟩
    case rowWorkgroups => decide
    case topologyWorkgroups => decide
    case features => decide
    case rowValues => decide
    case probabilities => decide
    case curves => decide
    all_goals
      intro kind
      cases kind <;> decide +kernel

/-- The search counts deferred and fully resident states as if they were returned, so it refuses a
review that fits when its states stay on the device. -/
theorem deferred_review_refused :
    firstAttempt oneReadbackLimits 512 .stateOnly onlyReview =
        .error "one GPU process review exceeds this adapter's buffer or dispatch limits" ∧
      WithinLimits oneReadbackLimits (.workingSet fun _ => []) .stateOnly 1
        (batchPlans .stateOnly 512 (fun _ _ => false) onlyReview) ∧
      WithinLimits oneReadbackLimits (.fullyResident fun _ => []) .stateOnly 1
        (batchPlans .stateOnly 512 (fun _ _ => false) onlyReview) := by
  refine ⟨?_, kept_review_fits (.inl rfl), kept_review_fits (.inr rfl)⟩
  rw [firstAttempt, only_review_refused]
  rfl

end Exact

end RwkvSrs.GpuScanPrefix
