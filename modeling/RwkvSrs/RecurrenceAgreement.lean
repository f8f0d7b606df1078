import RwkvSrs.PortableRecurrence

/-!
The recurrence kernels against the reference recurrence. One lemma says which
lanes a vector turn forms and one which value a tail turn forms; the loops then
hold the partial sums of the output and the filled part of the next state. The
algebraic head is the same double sum with the rows and the positions exchanged.
-/

namespace RwkvSrs.RecurrenceAgreement

open CheckedLoops SimdLanes PortableRecurrence

set_option autoImplicit false

variable {R M : Type} [CommRing R]

structure RowShaped (row : TimestepOutputRow R M) (size : Nat) : Prop where
  state : row.state.length = size
  r : row.r.length = size
  k : row.k.length = size
  w : row.w.length = size
  a : row.a.length = size
  kDeformed : row.kDeformed.length = size

def rowDeformation (row : TimestepOutputRow R M) (size : Nat) : R :=
  if row.options.forceSkipDeformation then 0 else dot row.state row.kDeformed size

def rowKey (row : TimestepOutputRow R M) (index : Nat) : R :=
  if row.options.reuseDeformedKey then cell row.k index
  else cell row.a index * cell row.kDeformed index

def nextCell (row : TimestepOutputRow R M) (skip : Bool) (deformation : R) (index : Nat) : R :=
  if skip then cell row.state index * cell row.w index + row.value * cell row.k index
  else
    cell row.state index * cell row.w index - deformation * rowKey row index +
      row.value * cell row.k index

def rowOutput (row : TimestepOutputRow R M) (skip : Bool) (deformation : R) (size : Nat) : R :=
  ∑ index ∈ Finset.range size, nextCell row skip deformation index * cell row.r index

theorem linear_dot_simd (simd : Simd R) {xs weights : List R} {size : Nat}
    (xsLength : xs.length = size) (weightsLength : weights.length = size) :
    linearDotSimd simd xs weights = some (dot xs weights size) := by
  let term := fun index => cell xs index * cell weights index
  have vectorPart : ∃ acc, forBelow (simd.vectors xs).length (fun index acc => do
      return simd.mulAdd (← (simd.vectors xs)[index]?) (← (simd.vectors weights)[index]?) acc)
        (simd.splat 0) = some acc ∧
      simd.reduceSum acc = ∑ index ∈ Finset.range (simd.tailBase size), term index := by
    rw [simd.vectors_sized xsLength]
    apply simd.accumulate_vectors
    intro block acc below
    obtain ⟨x, readX, lanesX⟩ := simd.vector_at xsLength below
    obtain ⟨weight, readWeight, lanesWeight⟩ := simd.vector_at weightsLength below
    refine ⟨x, weight, by simp [readX, readWeight], ?_⟩
    intro place
    rw [lanesX, lanesWeight]
  obtain ⟨acc, accumulated, summed⟩ := vectorPart
  unfold linearDotSimd
  rw [accumulated]
  simp only [Option.bind_eq_bind, Option.bind_some]
  rw [simd.tail_sized xsLength, accumulate_tail fun index => term (simd.tailBase size + index)]
  · rw [summed, dot, sum_split _ (Nat.add_sub_cancel' (simd.tail_base_below size)).symm]
  · intro index output below
    simp [simd.tail_at xsLength below, simd.tail_at weightsLength below, term]

section Row

variable (simd : Simd R) {row : TimestepOutputRow R M} {size : Nat}

theorem deformation_left (shaped : RowShaped row size) :
    deformationLeft simd row = some (rowDeformation row size) := by
  unfold deformationLeft rowDeformation
  split
  · rfl
  · exact linear_dot_simd simd shaped.state shaped.kDeformed

theorem deformed_key_vector (shaped : RowShaped row size) {index : Nat}
    (below : index < size / simd.lanes) :
    ∃ vector, deformedKeyVector simd row index = some vector ∧
      ∀ place, simd.lane vector place = rowKey row (index * simd.lanes + place) := by
  unfold deformedKeyVector rowKey
  obtain ⟨key, readKey, lanesKey⟩ := simd.vector_at shaped.k below
  obtain ⟨a, readA, lanesA⟩ := simd.vector_at shaped.a below
  obtain ⟨deformed, readDeformed, lanesDeformed⟩ := simd.vector_at shaped.kDeformed below
  cases row.options.reuseDeformedKey with
  | true => exact ⟨key, readKey, lanesKey⟩
  | false =>
      refine ⟨simd.mul a deformed, by simp [readA, readDeformed], ?_⟩
      intro place
      rw [simd.lane_mul, lanesA, lanesDeformed]
      rfl

theorem next_vector (shaped : RowShaped row size) (skip : Bool) (deformation : R) {index : Nat}
    (below : index < size / simd.lanes) :
    ∃ vector, nextVector simd row skip deformation index = some vector ∧
      ∀ place, simd.lane vector place =
        nextCell row skip deformation (index * simd.lanes + place) := by
  obtain ⟨state, readState, lanesState⟩ := simd.vector_at shaped.state below
  obtain ⟨w, readW, lanesW⟩ := simd.vector_at shaped.w below
  obtain ⟨key, readKey, lanesKey⟩ := simd.vector_at shaped.k below
  obtain ⟨deformedKey, readDeformed, lanesDeformed⟩ := deformed_key_vector simd shaped below
  unfold nextVector nextCell
  cases skip with
  | true =>
      refine ⟨_, by simp [readState, readW, readKey]; rfl, ?_⟩
      intro place
      simp only [simd.lane_mulAdd, simd.lane_splat, simd.lane_mul, lanesState, lanesW, lanesKey,
        if_true]
      ring
  | false =>
      refine ⟨_, by simp [readState, readW, readKey, readDeformed]; rfl, ?_⟩
      intro place
      simp only [simd.lane_mulAdd, simd.lane_splat, simd.lane_mul, simd.lane_sub, lanesState,
        lanesW, lanesKey, lanesDeformed, Bool.false_eq_true, if_false]
      ring

theorem next_tail (shaped : RowShaped row size) (skip : Bool) (deformation : R) {index : Nat}
    (below : index < size - simd.tailBase size) :
    nextTail simd row skip deformation index =
      some (nextCell row skip deformation (simd.tailBase size + index)) := by
  have deformedKey : deformedKeyTail simd row index =
      some (rowKey row (simd.tailBase size + index)) := by
    unfold deformedKeyTail rowKey
    rw [simd.tail_at shaped.k below, simd.tail_at shaped.a below,
      simd.tail_at shaped.kDeformed below]
    cases row.options.reuseDeformedKey <;> rfl
  unfold nextTail nextCell
  rw [simd.tail_at shaped.state below, simd.tail_at shaped.w below, simd.tail_at shaped.k below,
    deformedKey]
  cases skip with
  | true =>
      simp only [Option.bind_eq_bind, Option.bind_some, Option.pure_def, if_true]
      rw [add_comm]
  | false =>
      simp only [Option.bind_eq_bind, Option.bind_some, Option.pure_def, Bool.false_eq_true,
        if_false]
      rw [add_comm]

/-- What is kept of the next state: nothing without a place for it, else its first cells. -/
def KeptTo (wanted : Nat → R) (size count : Nat) : Option (List R) → Option (List R) → Prop
  | none, kept => kept = none
  | some _, kept => ∃ values, kept = some values ∧ FilledTo wanted size count values

theorem keep_vector {wanted : Nat → R} {place kept : Option (List R)} {index : Nat}
    {next : simd.F32s} (below : index < size / simd.lanes)
    (before : KeptTo wanted size (index * simd.lanes) place kept)
    (lanes : ∀ lane, simd.lane next lane = wanted (index * simd.lanes + lane)) :
    ∃ after, keepVector simd kept index next = some after ∧
      KeptTo wanted size ((index + 1) * simd.lanes) place after := by
  cases place with
  | none =>
      have absent : kept = none := before
      subst absent
      exact ⟨none, rfl, rfl⟩
  | some _ =>
      obtain ⟨values, rfl, filled⟩ := before
      have inside : index < simd.vectorCount values := by
        rw [Simd.vectorCount, filled.length]
        exact below
      obtain ⟨after, stored, filledAfter⟩ := simd.store_vector_fills filled inside lanes
      refine ⟨some after, ?_, after, rfl, filledAfter⟩
      rw [keepVector, stored]
      rfl

omit [CommRing R] in
theorem keep_tail {wanted : Nat → R} {place kept : Option (List R)} {index : Nat}
    (below : index < size) (before : KeptTo wanted size index place kept) :
    ∃ after, keepTail kept index (wanted index) = some after ∧
      KeptTo wanted size (index + 1) place after := by
  cases place with
  | none =>
      have absent : kept = none := before
      subst absent
      exact ⟨none, rfl, rfl⟩
  | some _ =>
      obtain ⟨values, rfl, filled⟩ := before
      obtain ⟨after, stored, filledAfter⟩ := filled.store below
      refine ⟨some after, ?_, after, rfl, filledAfter⟩
      rw [keepTail, stored]
      rfl

/-- The partial output and the filled part of the next state before a position. -/
structure RowProgress (row : TimestepOutputRow R M) (size : Nat) (skip : Bool) (deformation : R)
    (count : Nat) (output : R) (kept : Option (List R)) : Prop where
  summed : output = rowOutput row skip deformation count
  filled : KeptTo (nextCell row skip deformation) size count row.nextState kept

theorem vector_loop (shaped : RowShaped row size)
    (room : ∀ values, row.nextState = some values → values.length = size) (skip : Bool)
    (deformation : R) :
    ∃ progress, forBelow (size / simd.lanes) (vectorTurn simd row skip deformation)
        (simd.splat 0, row.nextState) = some progress ∧
      RowProgress row size skip deformation (simd.tailBase size) (simd.reduceSum progress.1)
        progress.2 := by
  apply for_runs fun index (progress : simd.F32s × Option (List R)) =>
    RowProgress row size skip deformation (index * simd.lanes) (simd.reduceSum progress.1)
      progress.2
  · intro index progress below before
    obtain ⟨next, formed, lanesNext⟩ := next_vector simd shaped skip deformation below
    obtain ⟨kept, keeps, filled⟩ := keep_vector simd below before.filled lanesNext
    obtain ⟨r, readR, lanesR⟩ := simd.vector_at shaped.r below
    refine ⟨(simd.mulAdd next r progress.1, kept), ?_, ?_, filled⟩
    · simp [vectorTurn, formed, keeps, readR]
    · rw [simd.reduce_mul_add, before.summed, rowOutput, rowOutput, sum_block]
      simp only [lanesNext, lanesR]
  · constructor
    · rw [simd.reduce_splat_zero, Nat.zero_mul, rowOutput, Finset.sum_range_zero]
    · cases place : row.nextState with
      | none => rfl
      | some values =>
          rw [← room values place, Nat.zero_mul]
          exact ⟨values, rfl, FilledTo.start _ values⟩

theorem tail_loop (shaped : RowShaped row size) (skip : Bool) (deformation : R) {output : R}
    {kept : Option (List R)}
    (before : RowProgress row size skip deformation (simd.tailBase size) output kept) :
    ∃ progress, forBelow (size - simd.tailBase size) (tailTurn simd row skip deformation)
        (output, kept) = some progress ∧
      RowProgress row size skip deformation size progress.1 progress.2 := by
  have whole : simd.tailBase size + (size - simd.tailBase size) = size :=
    Nat.add_sub_cancel' (simd.tail_base_below size)
  have ran : ∃ progress, forBelow (size - simd.tailBase size)
        (tailTurn simd row skip deformation) (output, kept) = some progress ∧
      RowProgress row size skip deformation (simd.tailBase size + (size - simd.tailBase size))
        progress.1 progress.2 := by
    apply for_runs fun index (progress : R × Option (List R)) =>
      RowProgress row size skip deformation (simd.tailBase size + index) progress.1 progress.2
    rotate_left
    · exact before
    intro index progress below earlier
    have formed := next_tail simd shaped skip deformation below
    obtain ⟨after, keeps, filled⟩ := keep_tail (by omega) earlier.filled
    have base : (simd.vectors row.state).length * simd.lanes = simd.tailBase size := by
      rw [simd.vectors_sized shaped.state]
      rfl
    refine ⟨(nextCell row skip deformation (simd.tailBase size + index) *
      cell row.r (simd.tailBase size + index) + progress.1, after), ?_, ?_, filled⟩
    · simp only [tailTurn, formed, base, keeps, simd.tail_at shaped.r below,
        Option.bind_eq_bind, Option.bind_some, Option.pure_def]
    · rw [earlier.summed, ← Nat.add_assoc, rowOutput, rowOutput, Finset.sum_range_succ, add_comm]
  rw [whole] at ran
  exact ran

/-- The row in closed form, with or without a place for the next state. -/
theorem timestep_output_row [LE M] [DecidableLE M] (magnitude : R → M)
    (shaped : RowShaped row size)
    (room : ∀ values, row.nextState = some values → values.length = size) :
    timestepOutputRowSimd simd row magnitude =
      some (rowOutput row (skipDeformation magnitude row.options (rowDeformation row size))
          (rowDeformation row size) size,
        row.nextState.map fun _ => (List.range size).map
          (nextCell row (skipDeformation magnitude row.options (rowDeformation row size))
            (rowDeformation row size))) := by
  unfold timestepOutputRowSimd
  rw [deformation_left simd shaped]
  simp only [Option.bind_eq_bind, Option.bind_some]
  rw [simd.vectors_sized shaped.state, simd.tail_sized shaped.state]
  obtain ⟨vectors, ranVectors, afterVectors⟩ := vector_loop simd shaped room
    (skipDeformation magnitude row.options (rowDeformation row size)) (rowDeformation row size)
  obtain ⟨progress, ranTail, finished⟩ := tail_loop simd shaped _ _ afterVectors
  rw [ranVectors]
  simp only [Option.bind_some]
  rw [ranTail]
  apply congrArg
  apply Prod.ext
  · exact finished.summed
  · have filled := finished.filled
    cases place : row.nextState with
    | none =>
        rw [place] at filled
        exact filled
    | some values =>
        rw [place] at filled
        obtain ⟨final, kept, full⟩ := filled
        rw [kept, full.complete]
        rfl

end Row

structure HeadShaped (head : AlgebraicOutputHead R) (size : Nat) : Prop where
  state : head.state.length = size * size
  output : head.output.length = size
  r : head.r.length = size
  k : head.k.length = size
  v : head.v.length = size
  w : head.w.length = size
  a : head.a.length = size
  kDeformed : head.kDeformed.length = size

/-- One row of the head as the row kernels take it, with the head's skip and reuse options. -/
def headRow (M : Type) (head : AlgebraicOutputHead R) (size row : Nat) :
    TimestepOutputRow R M where
  state := (head.state.take ((row + 1) * size)).drop (row * size)
  nextState := none
  r := head.r
  k := head.k
  value := cell head.v row
  w := head.w
  a := head.a
  kDeformed := head.kDeformed
  options := ⟨head.skipDeformation, none, head.reuseDeformedKey⟩

def headKey (head : AlgebraicOutputHead R) (index : Nat) : R :=
  if head.reuseDeformedKey then cell head.k index
  else cell head.a index * cell head.kDeformed index

def deformationReadout (head : AlgebraicOutputHead R) (size : Nat) : R :=
  if head.skipDeformation then 0
  else ∑ index ∈ Finset.range size, headKey head index * cell head.r index

def queryCell (head : AlgebraicOutputHead R) (deformation : R) (index : Nat) : R :=
  cell head.w index * cell head.r index - deformation * cell head.kDeformed index

section Head

variable (simd : Simd R) {head : AlgebraicOutputHead R} {size : Nat}

theorem row_end {row size : Nat} (below : row < size) : (row + 1) * size ≤ size * size :=
  Nat.mul_le_mul_right size (Nat.succ_le_of_lt below)

theorem head_row_shaped (shaped : HeadShaped head size) {row : Nat} (below : row < size) :
    RowShaped (headRow M head size row) size where
  state := by
    have inside := row_end below
    simp only [headRow, List.length_drop, List.length_take, shaped.state]
    rw [Nat.min_eq_left inside, Nat.succ_mul]
    omega
  r := shaped.r
  k := shaped.k
  w := shaped.w
  a := shaped.a
  kDeformed := shaped.kDeformed

theorem head_key_vector (shaped : HeadShaped head size) {index : Nat}
    (below : index < size / simd.lanes) :
    ∃ vector, headKeyVector simd head index = some vector ∧
      ∀ place, simd.lane vector place = headKey head (index * simd.lanes + place) := by
  have positive : 0 < size := by
    by_contra empty
    rw [Nat.eq_zero_of_not_pos empty, Nat.zero_div] at below
    exact absurd below (Nat.not_lt_zero index)
  exact deformed_key_vector simd (head_row_shaped (M := Unit) shaped positive) below

theorem head_key_tail (shaped : HeadShaped head size) {index : Nat}
    (below : index < size - simd.tailBase size) :
    headKeyTail simd head index = some (headKey head (simd.tailBase size + index)) := by
  unfold headKeyTail headKey
  rw [simd.tail_at shaped.k below, simd.tail_at shaped.a below,
    simd.tail_at shaped.kDeformed below]
  cases head.reuseDeformedKey <;> rfl

/-- The two readouts over the positions before `count`. -/
structure ReadTo (head : AlgebraicOutputHead R) (count : Nat) (key deformation : R) : Prop where
  key : key = dot head.k head.r count
  deformation : deformation = deformationReadout head count

theorem deformation_readout_zero : deformationReadout head 0 = 0 := by
  unfold deformationReadout
  split
  · rfl
  · exact Finset.sum_range_zero _

theorem readout_vectors (shaped : HeadShaped head size) :
    ∃ accs, forBelow (size / simd.lanes) (readoutVectorTurn simd head)
        (simd.splat 0, simd.splat 0) = some accs ∧
      ReadTo head (simd.tailBase size) (simd.reduceSum accs.1) (simd.reduceSum accs.2) := by
  apply for_runs fun index (accs : simd.F32s × simd.F32s) =>
    ReadTo head (index * simd.lanes) (simd.reduceSum accs.1) (simd.reduceSum accs.2)
  · intro index accs below before
    obtain ⟨r, readR, lanesR⟩ := simd.vector_at shaped.r below
    obtain ⟨k, readK, lanesK⟩ := simd.vector_at shaped.k below
    obtain ⟨deformed, readDeformed, lanesDeformed⟩ := head_key_vector simd shaped below
    have key : simd.reduceSum (simd.mulAdd k r accs.1) =
        dot head.k head.r ((index + 1) * simd.lanes) := by
      rw [simd.reduce_mul_add, before.key, dot, dot, sum_block]
      simp only [lanesK, lanesR]
    have deformation := before.deformation
    unfold readoutVectorTurn
    rw [readR, readK]
    cases skips : head.skipDeformation with
    | true =>
        refine ⟨(simd.mulAdd k r accs.1, accs.2), rfl, key, ?_⟩
        simpa [deformationReadout, skips] using deformation
    | false =>
        refine ⟨(simd.mulAdd k r accs.1, simd.mulAdd deformed r accs.2), ?_, key, ?_⟩
        · simp [readDeformed]
        · simp only [deformationReadout, skips, Bool.false_eq_true, if_false] at deformation ⊢
          rw [simd.reduce_mul_add, deformation, sum_block]
          simp only [lanesDeformed, lanesR]
  · constructor
    · rw [simd.reduce_splat_zero, Nat.zero_mul, dot, Finset.sum_range_zero]
    · rw [simd.reduce_splat_zero, Nat.zero_mul, deformation_readout_zero]

theorem readouts_read (shaped : HeadShaped head size) :
    ∃ readout, readouts simd head = some readout ∧ ReadTo head size readout.1 readout.2 := by
  obtain ⟨accs, ranVectors, afterVectors⟩ := readout_vectors simd shaped
  have whole : simd.tailBase size + (size - simd.tailBase size) = size :=
    Nat.add_sub_cancel' (simd.tail_base_below size)
  have ran : ∃ readout, forBelow (size - simd.tailBase size) (readoutTailTurn simd head)
        (simd.reduceSum accs.1, simd.reduceSum accs.2) = some readout ∧
      ReadTo head (simd.tailBase size + (size - simd.tailBase size)) readout.1 readout.2 := by
    apply for_runs fun index (readout : R × R) =>
      ReadTo head (simd.tailBase size + index) readout.1 readout.2
    rotate_left
    · exact afterVectors
    intro index readout below before
    have key : cell head.k (simd.tailBase size + index) * cell head.r (simd.tailBase size + index) +
        readout.1 = dot head.k head.r (simd.tailBase size + index + 1) := by
      rw [before.key, dot, dot, Finset.sum_range_succ, add_comm]
    have deformation := before.deformation
    unfold readoutTailTurn
    rw [simd.tail_at shaped.r below, simd.tail_at shaped.k below, head_key_tail simd shaped below]
    cases skips : head.skipDeformation with
    | true =>
        refine ⟨(_, readout.2), rfl, key, ?_⟩
        simpa [deformationReadout, skips] using deformation
    | false =>
        refine ⟨(_, _), rfl, key, ?_⟩
        simp only [deformationReadout, skips, Bool.false_eq_true, if_false] at deformation ⊢
        rw [deformation, ← Nat.add_assoc, Finset.sum_range_succ, add_comm]
  obtain ⟨readout, ranTail, read⟩ := ran
  rw [whole] at read
  refine ⟨readout, ?_, read⟩
  unfold readouts
  rw [simd.vectors_sized shaped.r, ranVectors]
  simp only [Option.bind_eq_bind, Option.bind_some]
  rw [simd.tail_sized shaped.r, ranTail]

theorem query_filled (shaped : HeadShaped head size) (deformation : R) :
    queryVector simd head size deformation =
      some ((List.range size).map (queryCell head deformation)) := by
  have length : (List.replicate size (0 : R)).length = size := List.length_replicate
  have count : simd.vectorCount (List.replicate size (0 : R)) = size / simd.lanes := by
    rw [Simd.vectorCount, length]
  have vectorPart : ∃ query, forBelow (size / simd.lanes) (queryVectorTurn simd head deformation)
        (List.replicate size 0) = some query ∧
      FilledTo (queryCell head deformation) size (simd.tailBase size) query := by
    apply for_runs fun index query =>
      FilledTo (queryCell head deformation) size (index * simd.lanes) query
    · intro index query below filled
      obtain ⟨w, readW, lanesW⟩ := simd.vector_at shaped.w below
      obtain ⟨r, readR, lanesR⟩ := simd.vector_at shaped.r below
      obtain ⟨deformed, readDeformed, lanesDeformed⟩ := simd.vector_at shaped.kDeformed below
      unfold queryVectorTurn
      rw [readW, readR, readDeformed]
      apply simd.store_vector_fills filled
      · rw [Simd.vectorCount, filled.length]
        exact below
      · intro place
        rw [simd.lane_sub, simd.lane_mul, simd.lane_mul, simd.lane_splat, lanesW, lanesR,
          lanesDeformed]
        rfl
    · rw [Nat.zero_mul]
      have start := FilledTo.start (queryCell head deformation) (List.replicate size (0 : R))
      rw [length] at start
      exact start
  obtain ⟨query, ranVectors, filledVectors⟩ := vectorPart
  have whole : simd.tailBase size + (size - simd.tailBase size) = size :=
    Nat.add_sub_cancel' (simd.tail_base_below size)
  have tailPart : ∃ final, forBelow (size - simd.tailBase size)
        (queryTailTurn simd head deformation (simd.tailBase size)) query = some final ∧
      FilledTo (queryCell head deformation) size
        (simd.tailBase size + (size - simd.tailBase size)) final := by
    apply for_runs fun index query =>
      FilledTo (queryCell head deformation) size (simd.tailBase size + index) query
    rotate_left
    · exact filledVectors
    intro index query below filled
    unfold queryTailTurn
    rw [simd.tail_at shaped.w below, simd.tail_at shaped.r below,
      simd.tail_at shaped.kDeformed below]
    exact filled.store (by omega)
  obtain ⟨final, ranTail, full⟩ := tailPart
  rw [whole] at full
  unfold queryVector
  dsimp only
  rw [count, simd.tail_sized length, ranVectors]
  simp only [Option.bind_eq_bind, Option.bind_some]
  change forBelow _ (queryTailTurn simd head deformation (simd.tailBase size)) query = _
  rw [ranTail, full.complete]

/-- The output the reference recurrence has for a row of the head. -/
def headOutput (head : AlgebraicOutputHead R) (size row : Nat) : R :=
  rowOutput (headRow Unit head size row) head.skipDeformation
    (rowDeformation (headRow Unit head size row) size) size

/-- The decayed state read through `r`, common to both factorings. -/
def decayed (row : TimestepOutputRow R M) (size : Nat) : R :=
  ∑ index ∈ Finset.range size,
    cell row.state index * (cell row.w index * cell row.r index)

theorem row_output_split (row : TimestepOutputRow R M) (skip : Bool) (deformation : R)
    (size : Nat) :
    rowOutput row skip deformation size =
      decayed row size -
          (if skip then 0
            else deformation * ∑ index ∈ Finset.range size, rowKey row index * cell row.r index) +
        row.value * dot row.k row.r size := by
  unfold rowOutput decayed dot
  cases skip with
  | true =>
      rw [if_pos rfl, sub_zero, Finset.mul_sum, ← Finset.sum_add_distrib]
      apply Finset.sum_congr rfl
      intro index _
      simp only [nextCell, if_true]
      ring
  | false =>
      rw [if_neg Bool.false_ne_true, Finset.mul_sum, Finset.mul_sum, ← Finset.sum_sub_distrib,
        ← Finset.sum_add_distrib]
      apply Finset.sum_congr rfl
      intro index _
      simp only [nextCell, Bool.false_eq_true, if_false]
      ring

theorem query_split (head : AlgebraicOutputHead R) (size row : Nat) (deformation : R) :
    ∑ index ∈ Finset.range size, cell (headRow Unit head size row).state index *
        queryCell head deformation index =
      decayed (headRow Unit head size row) size -
        deformation * dot (headRow Unit head size row).state head.kDeformed size := by
  unfold decayed dot
  rw [Finset.mul_sum, ← Finset.sum_sub_distrib]
  apply Finset.sum_congr rfl
  intro index _
  simp only [queryCell, headRow]
  ring

/-- The combined query answers for a row what the sum of its next state answers. -/
theorem query_answers (head : AlgebraicOutputHead R) (size row : Nat) :
    ∑ index ∈ Finset.range size, cell (headRow Unit head size row).state index *
          queryCell head (deformationReadout head size) index +
        cell head.v row * dot head.k head.r size =
      headOutput head size row := by
  rw [query_split, headOutput, row_output_split]
  apply congrArg (· + _)
  apply congrArg (decayed (headRow Unit head size row) size - ·)
  unfold deformationReadout rowDeformation
  cases skips : head.skipDeformation with
  | true => rw [if_pos rfl, if_pos rfl, zero_mul]
  | false =>
      have options : (headRow Unit head size row).options.forceSkipDeformation = false := skips
      rw [options, if_neg Bool.false_ne_true, if_neg Bool.false_ne_true,
        if_neg Bool.false_ne_true, mul_comm]
      rfl

theorem algebraic_output_head (shaped : HeadShaped head size) :
    algebraicOutputHead simd head = some ((List.range size).map (headOutput head size)) := by
  obtain ⟨readout, ranReadout, read⟩ := readouts_read simd shaped
  have query := query_filled simd shaped readout.2
  have rows : ∃ output, forBelow size (outputRowTurn simd head size
        ((List.range size).map (queryCell head readout.2)) readout.1) head.output = some output ∧
      FilledTo (headOutput head size) size size output := by
    apply for_runs fun row output => FilledTo (headOutput head size) size row output
    · intro row output below filled
      have taken : slice head.state (row * size) ((row + 1) * size) =
          some (headRow Unit head size row).state := by
        apply if_pos
        rw [shaped.state]
        exact ⟨Nat.mul_le_mul_right size (Nat.le_succ row), row_end below⟩
      have stateLength := (head_row_shaped (M := Unit) shaped below).state
      have answered := linear_dot_simd simd stateLength
        (filled_range (queryCell head readout.2) size).length
      have value : head.v[row]? = some (cell head.v row) := by
        apply get_cell
        rw [shaped.v]
        exact below
      have output : dot (headRow Unit head size row).state
            ((List.range size).map (queryCell head readout.2)) size +
          cell head.v row * readout.1 = headOutput head size row := by
        rw [← query_answers, read.key, ← read.deformation]
        apply congrArg (· + _)
        apply Finset.sum_congr rfl
        intro index inside
        rw [cell_of_get ((filled_range (queryCell head readout.2) size).cells index
          (Finset.mem_range.mp inside))]
      unfold outputRowTurn
      rw [taken]
      simp only [Option.bind_eq_bind, Option.bind_some]
      rw [answered, value]
      simp only [Option.bind_some]
      rw [output]
      exact filled.store below
    · have start := FilledTo.start (headOutput head size) head.output
      rw [shaped.output] at start
      exact start
  obtain ⟨output, ranRows, full⟩ := rows
  unfold algebraicOutputHead
  rw [shaped.output, ranReadout]
  simp only [Option.bind_eq_bind, Option.bind_some]
  rw [query]
  simp only [Option.bind_some]
  rw [ranRows, full.complete]

end Head

/-- Both rows return the output of the reference recurrence, the state-writing row stores its
next state in every position, and the algebraic head answers as the row does for each of its
rows under the same skip and reuse options. -/
theorem recurrence_paths_agree [LE M] [DecidableLE M] (simd : Simd R) (magnitude : R → M)
    (size : Nat) :
    (∀ row : TimestepOutputRow R M, RowShaped row size →
      ∃ deformation skip,
        (deformation = if row.options.forceSkipDeformation then 0
          else ∑ index ∈ Finset.range size, cell row.state index * cell row.kDeformed index) ∧
        (skip = true ↔ row.options.forceSkipDeformation = true ∨
          ∃ threshold, row.options.deformationThreshold = some threshold ∧
            magnitude deformation ≤ threshold) ∧
        timestepOutputRowSimd simd { row with nextState := none } magnitude =
          some (rowOutput row skip deformation size, none) ∧
        ∀ buffer : List R, buffer.length = size →
          timestepOutputRowSimd simd { row with nextState := some buffer } magnitude =
            some (rowOutput row skip deformation size,
              some ((List.range size).map (nextCell row skip deformation)))) ∧
    (∀ head : AlgebraicOutputHead R, HeadShaped head size →
      ∃ output, algebraicOutputHead simd head = some output ∧ output.length = size ∧
        ∀ row < size, timestepOutputRowSimd simd (headRow M head size row) magnitude =
          some (cell output row, none)) := by
  constructor
  · intro row shaped
    refine ⟨rowDeformation row size,
      skipDeformation magnitude row.options (rowDeformation row size), rfl, ?_, ?_, ?_⟩
    · unfold skipDeformation
      cases row.options.deformationThreshold <;> simp
    · have predicts : RowShaped { row with nextState := none } size :=
        ⟨shaped.state, shaped.r, shaped.k, shaped.w, shaped.a, shaped.kDeformed⟩
      apply timestep_output_row simd magnitude predicts
      intro values impossible
      cases impossible
    · intro buffer length
      have writes : RowShaped { row with nextState := some buffer } size :=
        ⟨shaped.state, shaped.r, shaped.k, shaped.w, shaped.a, shaped.kDeformed⟩
      apply timestep_output_row simd magnitude writes
      intro values same
      cases same
      exact length
  · intro head shaped
    refine ⟨_, algebraic_output_head simd shaped, by simp, ?_⟩
    intro row below
    rw [timestep_output_row simd magnitude (head_row_shaped shaped below)
      (fun _ impossible => nomatch impossible)]
    have output : cell ((List.range size).map (headOutput head size)) row =
        headOutput head size row := by
      exact cell_of_get ((filled_range (headOutput head size) size).cells row below)
    have skips : ∀ deformation : R, skipDeformation magnitude
        (headRow M head size row).options deformation = head.skipDeformation := by
      intro deformation
      exact Bool.or_false _
    rw [output, skips]
    rfl

def sampleRow (threshold : Option Nat) : TimestepOutputRow Int Nat where
  state := [1, -2, 3]
  nextState := none
  r := [2, 0, 1]
  k := [1, 1, -1]
  value := 4
  w := [1, 2, 3]
  a := [1, 0, 2]
  kDeformed := [2, 1, 1]
  options := ⟨false, threshold, false⟩

def sampleHead : AlgebraicOutputHead Int where
  state := [1, -2, 3, 0, 1, 5, 2, 2, -1]
  output := [0, 0, 0]
  r := [2, 0, 1]
  k := [1, 1, -1]
  v := [4, -1, 2]
  w := [1, 2, 3]
  a := [1, 0, 2]
  kDeformed := [2, 1, 1]
  skipDeformation := false
  reuseDeformedKey := true

/-- Two lanes and three positions, so that both the vectors and the tail take part. -/
theorem three_positions_agree :
    (RowShaped (sampleRow (some 2)) 3 ∧ HeadShaped sampleHead 3) ∧
    (∃ kept, timestepOutputRowSimd (laneFunctions Int 2 (by decide))
        { sampleRow (some 2) with nextState := some [0, 0, 0] } Int.natAbs = some kept) ∧
    ∃ output, algebraicOutputHead (laneFunctions Int 2 (by decide)) sampleHead = some output ∧
      output.length = 3 ∧ ∀ row < 3,
        timestepOutputRowSimd (laneFunctions Int 2 (by decide)) (headRow Nat sampleHead 3 row)
          Int.natAbs = some (cell output row, none) := by
  have rowShaped : RowShaped (sampleRow (some 2)) 3 := ⟨rfl, rfl, rfl, rfl, rfl, rfl⟩
  have headShaped : HeadShaped sampleHead 3 := ⟨rfl, rfl, rfl, rfl, rfl, rfl, rfl, rfl⟩
  obtain ⟨rows, heads⟩ := recurrence_paths_agree (laneFunctions Int 2 (by decide)) Int.natAbs 3
  obtain ⟨deformation, skip, _, _, _, writes⟩ := rows _ rowShaped
  exact ⟨⟨rowShaped, headShaped⟩, ⟨_, writes [0, 0, 0] rfl⟩, heads _ headShaped⟩

end RwkvSrs.RecurrenceAgreement
