import RwkvSrs.CheckpointReader
import RwkvSrs.ExactNumbers
import RwkvSrs.LittleEndian

/-!
Generator states as bytes. The reader bounds the two counters one by one; what
keeps every later draw inside the state words is a relation between them, which
seeded generators establish and every draw keeps.
-/

namespace RwkvSrs.GeneratorStates

open RwkvSrs.FallibleMethod RwkvSrs.FeatureScaling RwkvSrs.TorchRng RwkvSrs.CheckpointReader
open RwkvSrs.LittleEndian

set_option autoImplicit false

variable {V : Type} [Float32Ops V]

def torchRngStateHeader (rng : TorchMt19937) : List Nat :=
  [rng.seed.toNat, ((1 : UInt64) <<< 32 ||| rng.left).toNat, rng.next.toNat]

def torchRngStateWords (rng : TorchMt19937) : List Nat :=
  torchRngStateHeader rng ++ (rng.state.toList.map UInt32.toNat ++ List.replicate 5 0)

def toTorchRngStateBytes (rng : TorchMt19937) : List UInt8 := wordBytes (torchRngStateWords rng)

/-- What the reader asks of the counters. -/
structure Bounded (rng : TorchMt19937) : Prop where
  left : rng.left.toNat ≤ mersenneStateN
  next : rng.next.toNat ≤ mersenneStateN

theorem state_words_length (rng : TorchMt19937) : (torchRngStateWords rng).length = 632 := by
  rw [torchRngStateWords, List.length_append, List.length_append, List.length_map,
    List.length_replicate, Vector.length_toList]
  rfl

theorem packed_left {left : UInt64} (bounded : left.toNat ≤ mersenneStateN) :
    ((1 : UInt64) <<< 32 ||| left).toNat = 2 ^ 32 + left.toNat := by
  have small : left.toNat < 2 ^ 32 := Nat.lt_of_le_of_lt bounded (by decide)
  rw [UInt64.toNat_or]
  change 2 ^ 32 * 1 ||| left.toNat = 2 ^ 32 * 1 + left.toNat
  rw [Nat.two_pow_add_eq_or_of_lt small]

theorem state_words_small (rng : TorchMt19937) : ∀ word ∈ torchRngStateWords rng, word < 2 ^ 64 := by
  intro word member
  rw [torchRngStateWords, torchRngStateHeader, List.mem_append, List.mem_append] at member
  rcases member with header | state | tail
  · simp only [List.mem_cons, List.not_mem_nil, or_false] at header
    rcases header with same | same | same
    · exact same ▸ UInt64.toNat_lt _
    · exact same ▸ UInt64.toNat_lt _
    · exact same ▸ UInt64.toNat_lt _
  · obtain ⟨value, _, same⟩ := List.mem_map.mp state
    have bound := UInt32.toNat_lt value
    omega
  · rw [List.eq_of_mem_replicate tail]
    decide

theorem written_word {rng : TorchMt19937} {index word : Nat}
    (listed : (torchRngStateWords rng)[index]? = some word) :
    torchWord (toTorchRngStateBytes rng) index = word := by
  obtain ⟨inRange, same⟩ := List.getElem?_eq_some_iff.mp listed
  exact (word_at_word_bytes (state_words_small rng) inRange).trans same

theorem state_word_listed (rng : TorchMt19937) {index : Nat} (inRange : index < mersenneStateN) :
    (torchRngStateWords rng)[3 + index]? = some rng.state[index].toNat := by
  have inState : index < rng.state.toList.length := by
    rw [Vector.length_toList]
    exact inRange
  rw [torchRngStateWords, List.getElem?_append_right (Nat.le_add_right 3 index)]
  change (_ ++ _)[3 + index - 3]? = _
  rw [Nat.add_sub_cancel_left, List.getElem?_append_left (by rw [List.length_map]; exact inState),
    List.getElem?_map, List.getElem?_eq_getElem inState, Vector.getElem_toList]
  rfl

theorem tail_word_listed (rng : TorchMt19937) {index : Nat} (inRange : index < 5) :
    (torchRngStateWords rng)[3 + mersenneStateN + index]? = some 0 := by
  have past : (rng.state.toList.map UInt32.toNat).length = mersenneStateN := by
    rw [List.length_map, Vector.length_toList]
  rw [torchRngStateWords, List.getElem?_append_right (by change 3 ≤ _; omega)]
  change (_ ++ _)[3 + mersenneStateN + index - 3]? = _
  rw [List.getElem?_append_right (by omega), past, List.getElem?_replicate, if_pos (by omega)]

/-- A generator with bounded counters is read back as it was written. -/
theorem restored_generator {rng : TorchMt19937} (bounded : Bounded rng) :
    fromTorchRngState (toTorchRngStateBytes rng) = .ok rng := by
  have length : (toTorchRngStateBytes rng).length = torchRngStateByteLen := by
    rw [toTorchRngStateBytes, word_bytes_length, state_words_length]
    rfl
  have seed : torchWord (toTorchRngStateBytes rng) 0 = rng.seed.toNat := written_word rfl
  have packed : torchWord (toTorchRngStateBytes rng) 1 = 2 ^ 32 + rng.left.toNat := by
    rw [← packed_left bounded.left]
    exact written_word rfl
  have next : torchWord (toTorchRngStateBytes rng) 2 = rng.next.toNat := written_word rfl
  have left : rng.left.toNat < 2 ^ 32 := Nat.lt_of_le_of_lt bounded.left (by decide)
  have state : ∀ index (inRange : index < mersenneStateN),
      torchWord (toTorchRngStateBytes rng) (3 + index) = rng.state[index].toNat :=
    fun index inRange => written_word (state_word_listed rng inRange)
  have inWords : (List.range mersenneStateN).find? (fun index =>
      2 ^ 32 ≤ torchWord (toTorchRngStateBytes rng) (3 + index)) = none := by
    rw [List.find?_eq_none]
    intro index member
    have inRange := List.mem_range.mp member
    have bound := UInt32.toNat_lt rng.state[index]
    rw [decide_eq_true_eq, Nat.not_le, state index inRange]
    exact bound
  have tail : ((List.range 5).any fun index =>
      torchWord (toTorchRngStateBytes rng) (3 + mersenneStateN + index) ≠ 0) = false := by
    rw [List.any_eq_false]
    intro index member
    have word := written_word (tail_word_listed rng (List.mem_range.mp member))
    simp [word]
  unfold fromTorchRngState
  rw [if_neg (by rw [length]; exact fun differ => differ rfl)]
  simp only [packed, next, inWords, tail]
  rw [if_neg (by omega), if_neg (by have := bounded.left; omega),
    if_neg (Nat.not_lt.mpr bounded.next), if_neg (by simp)]
  have sameLeft : (2 ^ 32 + rng.left.toNat) % 2 ^ 32 = rng.left.toNat := by omega
  have sameState : (Vector.ofFn fun index : Fin mersenneStateN =>
      UInt32.ofNat (torchWord (toTorchRngStateBytes rng) (3 + index))) = rng.state := by
    apply Vector.ext
    intro index inRange
    rw [Vector.getElem_ofFn, state index inRange, UInt32.ofNat_toNat]
  rw [seed, sameLeft, sameState, UInt64.ofNat_toNat, UInt64.ofNat_toNat, UInt64.ofNat_toNat]

/-- What the reader has checked of the bytes it accepts. -/
structure Accepted (bytes : List UInt8) (rng : TorchMt19937) : Prop where
  length : bytes.length = torchRngStateByteLen
  seed : torchWord bytes 0 = rng.seed.toNat
  packed : torchWord bytes 1 = 2 ^ 32 + rng.left.toNat
  next : torchWord bytes 2 = rng.next.toNat
  state : ∀ index (inRange : index < mersenneStateN),
    torchWord bytes (3 + index) = rng.state[index].toNat
  tail : ∀ index < 5, torchWord bytes (3 + mersenneStateN + index) = 0
  bounded : Bounded rng

theorem accepted_state {bytes : List UInt8} {rng : TorchMt19937}
    (read : fromTorchRngState bytes = .ok rng) : Accepted bytes rng := by
  unfold fromTorchRngState at read
  split at read
  · cases read
  · rename_i sized
    simp only at read
    split at read
    · cases read
    · rename_i header
      split at read
      · cases read
      · rename_i leftBound
        split at read
        · cases read
        · rename_i nextBound
          split at read
          · cases read
          · rename_i inWords
            split at read
            · cases read
            · rename_i tail
              cases read
              have headerOne := not_not.mp header
              have nextSmall := Nat.not_lt.mp nextBound
              have leftSmall := Nat.not_lt.mp leftBound
              have wide : mersenneStateN = 624 := rfl
              have left : (UInt64.ofNat (torchWord bytes 1 % 2 ^ 32)).toNat =
                  torchWord bytes 1 % 2 ^ 32 := by
                rw [UInt64.toNat_ofNat']
                omega
              have next : (UInt64.ofNat (torchWord bytes 2)).toNat = torchWord bytes 2 := by
                rw [UInt64.toNat_ofNat']
                omega
              constructor
              case length => exact not_not.mp sized
              case seed =>
                rw [UInt64.toNat_ofNat']
                exact (Nat.mod_eq_of_lt (word_at_bound bytes 0)).symm
              case packed =>
                rw [left]
                omega
              case next => exact next.symm
              case state =>
                intro index inRange
                have fits := List.find?_eq_none.mp inWords index (List.mem_range.mpr inRange)
                rw [decide_eq_true_eq, Nat.not_le] at fits
                rw [Vector.getElem_ofFn, UInt32.toNat_ofNat', Nat.mod_eq_of_lt fits]
              case tail =>
                intro index inRange
                rw [Bool.not_eq_true, List.any_eq_false] at tail
                have zero := tail index (List.mem_range.mpr inRange)
                simpa using zero
              case bounded => exact ⟨left.trans_le leftSmall, next.trans_le nextSmall⟩

theorem accepted_word_listed {bytes : List UInt8} {rng : TorchMt19937}
    (accepted : Accepted bytes rng) {index : Nat} (inRange : index < 632) :
    (torchRngStateWords rng)[index]? = some (torchWord bytes index) := by
  have wide : mersenneStateN = 624 := rfl
  match index with
  | 0 =>
      rw [accepted.seed]
      rfl
  | 1 =>
      rw [accepted.packed, ← packed_left accepted.bounded.left]
      rfl
  | 2 =>
      rw [accepted.next]
      rfl
  | index + 3 =>
      rw [Nat.add_comm index 3]
      by_cases inState : index < mersenneStateN
      · rw [accepted.state index inState]
        exact state_word_listed rng inState
      · obtain ⟨place, rfl⟩ : ∃ place, index = mersenneStateN + place :=
          ⟨index - mersenneStateN, by omega⟩
        rw [← Nat.add_assoc, accepted.tail place (by omega)]
        exact tail_word_listed rng (by omega)

/-- The bytes of an accepted state are written back exactly. -/
theorem accepted_bytes_restored {bytes : List UInt8} {rng : TorchMt19937}
    (read : fromTorchRngState bytes = .ok rng) : toTorchRngStateBytes rng = bytes := by
  have accepted := accepted_state read
  have words : torchRngStateWords rng = (List.range 632).map (wordAt bytes) := by
    apply List.ext_getElem?
    intro index
    by_cases inRange : index < 632
    · rw [List.getElem?_map, List.getElem?_range inRange]
      exact accepted_word_listed accepted inRange
    · rw [List.getElem?_eq_none (by rw [state_words_length]; omega),
        List.getElem?_eq_none (by rw [List.length_map, List.length_range]; omega)]
  rw [toTorchRngStateBytes, words]
  exact word_bytes_of_words accepted.length

/-- `random_u32` or `id_encoding`. -/
inductive Draw where
  | word
  | encoding (dim : Nat)

inductive Drawn (V : Type) where
  | word (value : UInt32)
  | encoding (values : List V)

def Draw.run : Draw → Method TorchMt19937 (Drawn V)
  | .word => Drawn.word <$> randomU32
  | .encoding dim => Drawn.encoding <$> idEncoding dim

def drawAll (draws : List Draw) : Method TorchMt19937 (List (Drawn V)) := draws.mapM Draw.run

/-- However often the generator is drawn from, no index leaves the state words, and `left` can always
be decremented once more. -/
def DrawsSafely (V : Type) [Float32Ops V] (rng : TorchMt19937) : Prop :=
  ∀ draws : List Draw, ∃ (drawn : List (Drawn V)) (reached : TorchMt19937),
    drawAll draws rng = (.ok drawn, reached) ∧ reached.left ≠ 0

theorem ready_left {rng : TorchMt19937} (ready : Ready rng) : rng.left ≠ 0 := by
  intro empty
  rcases ready with one | ⟨several, _⟩
  · rw [empty] at one
    cases one
  · rw [empty] at several
    cases several

section Kept

variable {Kept : TorchMt19937 → Prop}

theorem draw_kept (keeps : KeepsDrawing Kept) (draw : Draw) {rng : TorchMt19937} (kept : Kept rng) :
    ∃ (drawn : Drawn V) (reached : TorchMt19937),
      draw.run rng = (.ok drawn, reached) ∧ Kept reached := by
  cases draw with
  | word =>
      obtain ⟨word, reached, ran, keptReached⟩ := keeps rng kept
      refine ⟨.word word, reached, ?_, keptReached⟩
      rw [Draw.run, map_eq_pure_bind, bind_of_ok ran]
      rfl
  | encoding dim =>
      obtain ⟨values, reached, ran, _, keptReached⟩ : ∃ (values : List V) (reached : TorchMt19937),
          idEncoding dim rng = (.ok values, reached) ∧ values.length = dim ∧ Kept reached :=
        id_encoding_kept keeps dim kept
      refine ⟨.encoding values, reached, ?_, keptReached⟩
      rw [Draw.run, map_eq_pure_bind, bind_of_ok ran]
      rfl

theorem draws_kept (keeps : KeepsDrawing Kept) (draws : List Draw) {rng : TorchMt19937}
    (kept : Kept rng) :
    ∃ (drawn : List (Drawn V)) (reached : TorchMt19937),
      drawAll draws rng = (.ok drawn, reached) ∧ Kept reached := by
  induction draws generalizing rng with
  | nil => exact ⟨[], rng, rfl, kept⟩
  | cons draw draws ih =>
      obtain ⟨first, middle, ran, keptMiddle⟩ : ∃ (first : Drawn V) (middle : TorchMt19937),
          draw.run rng = (.ok first, middle) ∧ Kept middle := draw_kept keeps draw kept
      obtain ⟨rest, reached, remaining, keptReached⟩ := ih keptMiddle
      refine ⟨first :: rest, reached, ?_, keptReached⟩
      unfold drawAll at remaining ⊢
      rw [List.mapM_cons, bind_of_ok ran, bind_of_ok remaining]
      rfl

end Kept

theorem ready_draws_safely {rng : TorchMt19937} (ready : Ready rng) : DrawsSafely V rng := by
  intro draws
  obtain ⟨drawn, reached, ran, readyReached⟩ : ∃ (drawn : List (Drawn V)) (reached : TorchMt19937),
      drawAll draws rng = (.ok drawn, reached) ∧ Ready reached :=
    draws_kept (fun _ => random_u32_ready) draws ready
  exact ⟨drawn, reached, ran, ready_left readyReached⟩

/-- With more words left than the state still holds, every draw moves on by one word, until one
reads past the last. -/
theorem overcommitted_draws_fail {rng : TorchMt19937} (bounded : rng.next.toNat ≤ mersenneStateN)
    (several : 2 ≤ rng.left.toNat)
    (excess : mersenneStateN + 2 ≤ rng.left.toNat + rng.next.toNat) :
    ¬DrawsSafely V rng := by
  induction gap : mersenneStateN - rng.next.toNat generalizing rng with
  | zero =>
      obtain ⟨_, down⟩ := count_down_several several
      intro safe
      obtain ⟨drawn, reached, ran, _⟩ := safe [.word]
      have past : ¬(countDown rng).next.toNat < mersenneStateN := by
        rw [down]
        change ¬rng.next.toNat < mersenneStateN
        omega
      have panics : randomU32 rng = (.error _, countDown rng) := dif_neg past
      unfold drawAll at ran
      rw [List.mapM_cons, Draw.run, map_eq_pure_bind, bind_of_error (bind_of_error panics)] at ran
      cases ran
  | succ steps ih =>
      have wide : mersenneStateN = 624 := rfl
      obtain ⟨counted, down⟩ := count_down_several several
      have inBounds : (countDown rng).next.toNat < mersenneStateN := by
        rw [down]
        change rng.next.toNat < mersenneStateN
        omega
      obtain ⟨word, drawn⟩ : ∃ word, randomU32 rng = (.ok word,
          { countDown rng with next := (countDown rng).next + 1 }) := ⟨_, dif_pos inBounds⟩
      have advanced : (rng.next + 1).toNat = rng.next.toNat + 1 := next_advanced (by omega)
      rw [down] at drawn
      intro safe
      have moved : 2 ≤ (rng.left - 1).toNat ∧
          mersenneStateN + 2 ≤ (rng.left - 1).toNat + (rng.next + 1).toNat := by
        rw [counted, advanced]
        omega
      have unsafeNext : ¬DrawsSafely V { rng with left := rng.left - 1, next := rng.next + 1 } := by
        apply ih
        · change (rng.next + 1).toNat ≤ mersenneStateN
          omega
        · exact moved.1
        · exact moved.2
        · change mersenneStateN - (rng.next + 1).toNat = steps
          omega
      apply unsafeNext
      · intro draws
        obtain ⟨all, reached, ran, left⟩ := safe (.word :: draws)
        unfold drawAll at ran ⊢
        rw [List.mapM_cons] at ran
        obtain ⟨first, middle, step, ran⟩ := bind_ok_steps ran
        obtain ⟨rest, last, remaining, ran⟩ := bind_ok_steps ran
        cases ran
        rw [Draw.run, map_eq_pure_bind, bind_of_ok drawn] at step
        cases step
        exact ⟨rest, reached, remaining, left⟩

theorem empty_draws_fail {rng : TorchMt19937} (empty : rng.left = 0) : ¬DrawsSafely V rng := by
  intro safe
  obtain ⟨drawn, reached, ran, left⟩ := safe []
  cases ran
  exact left empty

/-- Bounded counters do not make a generator safe; this relation between them does. -/
theorem draws_safely_iff {rng : TorchMt19937} (bounded : Bounded rng) :
    DrawsSafely V rng ↔ Ready rng := by
  have wide : mersenneStateN = 624 := rfl
  constructor
  · intro safe
    by_contra unready
    unfold Ready at unready
    rw [not_or, not_and_or] at unready
    obtain ⟨notOne, outside⟩ := unready
    by_cases empty : rng.left = 0
    · exact empty_draws_fail empty safe
    · have positive : rng.left.toNat ≠ 0 := fun zero => empty (UInt64.toNat_inj.mp zero)
      have several : rng.left.toNat ≠ 1 := fun one => notOne (UInt64.toNat_inj.mp one)
      exact overcommitted_draws_fail bounded.next (by omega) (by omega) safe
  · exact ready_draws_safely

/-- What a seed establishes and every draw keeps. -/
def Seeded (rng : TorchMt19937) : Prop := Ready rng ∧ Bounded rng

theorem seed_seeded (seed : UInt64) : Seeded (seedFromU64 seed) := by
  refine ⟨seed_ready seed, ?_, ?_⟩
  · change (1 : UInt64).toNat ≤ mersenneStateN
    decide
  · exact Nat.zero_le _

theorem seeded_draws : KeepsDrawing Seeded := by
  rintro rng ⟨ready, bounded⟩
  obtain ⟨word, reached, ran, readyReached⟩ := random_u32_ready ready
  refine ⟨word, reached, ran, readyReached, ?_⟩
  unfold randomU32 at ran
  simp only at ran
  split at ran
  · rename_i inBounds
    cases ran
    constructor
    case next =>
      change ((countDown rng).next + 1).toNat ≤ mersenneStateN
      rw [next_advanced inBounds]
      exact inBounds
    case left =>
      change (countDown rng).left.toNat ≤ mersenneStateN
      by_cases refill : rng.left - 1 = 0
      · rw [show countDown rng = nextState _ from if_pos refill]
        exact Nat.le_of_eq rfl
      · have several : 2 ≤ rng.left.toNat := by
          rcases ready with one | ⟨several, _⟩
          · rw [one] at refill
            exact absurd rfl refill
          · exact several
        obtain ⟨counted, down⟩ := count_down_several several
        rw [down]
        change (rng.left - 1).toNat ≤ mersenneStateN
        have before := bounded.left
        omega
  · cases ran

/-- A generator serialised after any draws from a seed is restored with the same continuation. -/
theorem seeded_continuation (seed : UInt64) (draws : List Draw) :
    ∃ (drawn : List (Drawn V)) (reached restored : TorchMt19937),
      drawAll draws (seedFromU64 seed) = (.ok drawn, reached) ∧
      fromTorchRngState (toTorchRngStateBytes reached) = .ok restored ∧
      ∀ more : List Draw, (drawAll more : Method TorchMt19937 (List (Drawn V))) restored =
        drawAll more reached := by
  obtain ⟨drawn, reached, ran, seeded⟩ : ∃ (drawn : List (Drawn V)) (reached : TorchMt19937),
      drawAll draws (seedFromU64 seed) = (.ok drawn, reached) ∧ Seeded reached :=
    draws_kept seeded_draws draws (seed_seeded seed)
  exact ⟨drawn, reached, reached, ran, restored_generator seeded.2, fun _ => rfl⟩

/-- An accepted state is written back exactly, and it is safe to draw from exactly when its counters
agree; generators that began with a seed continue in the same way once restored. -/
theorem accepted_states_safe_iff {bytes : List UInt8} {rng : TorchMt19937}
    (read : fromTorchRngState bytes = .ok rng) (seed : UInt64) (draws : List Draw) :
    toTorchRngStateBytes rng = bytes ∧
      ((toTorchRngStateBytes rng = bytes ∧ DrawsSafely V rng) ↔ Ready rng) ∧
      ∃ (drawn : List (Drawn V)) (reached restored : TorchMt19937),
        drawAll draws (seedFromU64 seed) = (.ok drawn, reached) ∧
        fromTorchRngState (toTorchRngStateBytes reached) = .ok restored ∧
        ∀ more : List Draw, (drawAll more : Method TorchMt19937 (List (Drawn V))) restored =
          drawAll more reached := by
  have restored := accepted_bytes_restored read
  refine ⟨restored, ?_, seeded_continuation seed draws⟩
  have safe : DrawsSafely V rng ↔ Ready rng := draws_safely_iff (accepted_state read).bounded
  exact ⟨fun both => safe.mp both.2, fun ready => ⟨restored, safe.mpr ready⟩⟩

section Exact

open RwkvSrs.ExactNumbers

theorem seeded_state_safe :
    toTorchRngStateBytes (seedFromU64 5489) = toTorchRngStateBytes (seedFromU64 5489) ∧
    ((toTorchRngStateBytes (seedFromU64 5489) = toTorchRngStateBytes (seedFromU64 5489) ∧
        DrawsSafely Exact (seedFromU64 5489)) ↔ Ready (seedFromU64 5489)) ∧
      ∃ (drawn : List (Drawn Exact)) (reached restored : TorchMt19937),
        drawAll [.word, .encoding 12] (seedFromU64 5489) = (.ok drawn, reached) ∧
        fromTorchRngState (toTorchRngStateBytes reached) = .ok restored ∧
        ∀ more : List Draw, (drawAll more : Method TorchMt19937 (List (Drawn Exact))) restored =
          drawAll more reached :=
  accepted_states_safe_iff (restored_generator (seed_seeded 5489).2) 5489 [.word, .encoding 12]

/-- All words are read, and as many are said to be left. -/
def exhaustedGenerator : TorchMt19937 := ⟨0, 624, 624, Vector.replicate mersenneStateN 0⟩

theorem exhausted_state_accepted :
    fromTorchRngState (toTorchRngStateBytes exhaustedGenerator) = .ok exhaustedGenerator ∧
      (∃ message, (randomU32 exhaustedGenerator).1 = .error (.panic message)) ∧
      ¬DrawsSafely Exact exhaustedGenerator := by
  have left : exhaustedGenerator.left.toNat = 624 := rfl
  have next : exhaustedGenerator.next.toNat = 624 := rfl
  have wide : mersenneStateN = 624 := rfl
  have bounded : Bounded exhaustedGenerator := ⟨by omega, by omega⟩
  refine ⟨restored_generator bounded, ⟨_, rfl⟩, ?_⟩
  exact overcommitted_draws_fail bounded.next (by omega) (by omega)

end Exact

end RwkvSrs.GeneratorStates
