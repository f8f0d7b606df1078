import RwkvSrs.FallibleMethod
import RwkvSrs.FeatureScaling

/-!
The Mersenne twister that draws identity encodings. Counters are machine words
and wrap; drawing past the last state word is the index panic of the source.
-/

namespace RwkvSrs.TorchRng

open RwkvSrs.FallibleMethod RwkvSrs.FeatureScaling

set_option autoImplicit false

def idSplit : UInt32 := 4

def mersenneStateN : Nat := 624

def mersenneStateM : Nat := 397

structure TorchMt19937 where
  seed : UInt64
  left : UInt64
  next : UInt64
  state : Vector UInt32 mersenneStateN
deriving DecidableEq

def mixBits (u v : UInt32) : UInt32 := (u &&& 0x80000000) ||| (v &&& 0x7fffffff)

def twist (u v : UInt32) : UInt32 :=
  (mixBits u v >>> 1) ^^^ if v &&& 1 ≠ 0 then 0x9908b0df else 0

def seedWord (state : Vector UInt32 mersenneStateN) (j : Nat) : Vector UInt32 mersenneStateN :=
  state.set! j ((1812433253 : UInt32) * (state[j - 1]! ^^^ (state[j - 1]! >>> 30)) + j.toUInt32)

def seedFromU64 (seed : UInt64) : TorchMt19937 where
  seed := seed
  left := 1
  next := 0
  state := (List.range' 1 (mersenneStateN - 1)).foldl seedWord
    ((Vector.replicate mersenneStateN 0).set! 0 seed.toUInt32)

/-- One word of `next_state`, reading the words `source` and `i + 1` places on. -/
def twistWord (source : Nat → Nat) (state : Vector UInt32 mersenneStateN) (i : Nat) :
    Vector UInt32 mersenneStateN :=
  state.set! i (state[source i]! ^^^ twist state[i]! state[(i + 1) % mersenneStateN]!)

def nextState (rng : TorchMt19937) : TorchMt19937 :=
  let first := (List.range (mersenneStateN - mersenneStateM)).foldl
    (twistWord (· + mersenneStateM)) rng.state
  let second := (List.range' (mersenneStateN - mersenneStateM) (mersenneStateM - 1)).foldl
    (twistWord (· + mersenneStateM - mersenneStateN)) first
  { rng with
    left := mersenneStateN.toUInt64
    next := 0
    state := twistWord (fun _ => mersenneStateM - 1) second (mersenneStateN - 1) }

def temper (word : UInt32) : UInt32 :=
  let y := word ^^^ (word >>> 11)
  let y := y ^^^ ((y <<< 7) &&& 0x9d2c5680)
  let y := y ^^^ ((y <<< 15) &&& 0xefc60000)
  y ^^^ (y >>> 18)

/-- The generator after `left -= 1` and, when that reaches zero, `next_state`. -/
def countDown (rng : TorchMt19937) : TorchMt19937 :=
  let counted := { rng with left := rng.left - 1 }
  if counted.left = 0 then nextState counted else counted

def randomU32 : Method TorchMt19937 UInt32 := fun rng =>
  let ready := countDown rng
  if inBounds : ready.next.toNat < mersenneStateN then
    (.ok (temper ready.state[ready.next.toNat]), { ready with next := ready.next + 1 })
  else
    (.error (.panic s!"index out of bounds: the len is 624 but the index is {ready.next}"), ready)

variable {V : Type} [Float32Ops V]

def idCenter : V := Float32Ops.ofUInt32 (idSplit - 1) / 2.0

def drawValue (values : List V) (_ : Nat) : Method TorchMt19937 (List V) := do
  let word ← randomU32
  return values ++ [Float32Ops.ofUInt32 (word % idSplit) - idCenter]

def idEncoding (dim : Nat) : Method TorchMt19937 (List V) := (List.range dim).foldlM drawValue []

/-- Either the next draw refills the state words, or the unread words cover what is left. -/
def Ready (rng : TorchMt19937) : Prop :=
  rng.left = 1 ∨ (2 ≤ rng.left.toNat ∧ rng.left.toNat + rng.next.toNat ≤ mersenneStateN + 1)

theorem seed_ready (seed : UInt64) : Ready (seedFromU64 seed) := Or.inl rfl

theorem count_down_several {rng : TorchMt19937} (several : 2 ≤ rng.left.toNat) :
    (rng.left - 1).toNat = rng.left.toNat - 1 ∧
      countDown rng = { rng with left := rng.left - 1 } := by
  have counted : (rng.left - 1).toNat = rng.left.toNat - 1 := by
    rw [UInt64.toNat_sub_of_le rng.left 1 (by rw [UInt64.le_iff_toNat_le]; change 1 ≤ _; omega)]
    rfl
  refine ⟨counted, if_neg ?_⟩
  intro none
  have same := congrArg UInt64.toNat none
  change (rng.left - 1).toNat = 0 at same
  omega

theorem next_advanced {next : UInt64} (inBounds : next.toNat < mersenneStateN) :
    (next + 1).toNat = next.toNat + 1 := by
  have bound : mersenneStateN = 624 := rfl
  rw [UInt64.toNat_add]
  change (next.toNat + 1) % 2 ^ 64 = _
  omega

theorem random_u32_ready {rng : TorchMt19937} (ready : Ready rng) :
    ∃ word reached, randomU32 rng = (.ok word, reached) ∧ Ready reached := by
  have bound : mersenneStateN = 624 := rfl
  by_cases refill : rng.left = 1
  · have counted : rng.left - 1 = 0 := by
      rw [refill]
      rfl
    have refilled : countDown rng = nextState { rng with left := rng.left - 1 } := if_pos counted
    have inBounds : (countDown rng).next.toNat < mersenneStateN := by
      rw [refilled]
      change (0 : UInt64).toNat < mersenneStateN
      decide
    refine ⟨_, _, dif_pos inBounds, Or.inr ?_⟩
    rw [refilled]
    change 2 ≤ mersenneStateN.toUInt64.toNat ∧
      mersenneStateN.toUInt64.toNat + ((0 : UInt64) + 1).toNat ≤ mersenneStateN + 1
    decide
  · obtain ⟨several, covered⟩ := ready.resolve_left refill
    obtain ⟨counted, kept⟩ := count_down_several several
    have inBounds : (countDown rng).next.toNat < mersenneStateN := by
      rw [kept]
      change rng.next.toNat < mersenneStateN
      omega
    refine ⟨_, _, dif_pos inBounds, ?_⟩
    rw [kept]
    have advanced : (rng.next + 1).toNat = rng.next.toNat + 1 := next_advanced (by omega)
    by_cases last : rng.left.toNat = 2
    · left
      apply UInt64.toNat_inj.mp
      change (rng.left - 1).toNat = 1
      rw [counted, last]
    · right
      change 2 ≤ (rng.left - 1).toNat ∧ (rng.left - 1).toNat + (rng.next + 1).toNat ≤ _
      rw [counted, advanced]
      omega

/-- A word can be drawn from every kept generator, and leaves a kept one. -/
def KeepsDrawing (Kept : TorchMt19937 → Prop) : Prop :=
  ∀ rng, Kept rng → ∃ word reached, randomU32 rng = (.ok word, reached) ∧ Kept reached

theorem draw_values_kept {Kept : TorchMt19937 → Prop} (keeps : KeepsDrawing Kept)
    (draws : List Nat) (values : List V) {rng : TorchMt19937} (kept : Kept rng) :
    ∃ (drawn : List V) (reached : TorchMt19937),
      draws.foldlM drawValue values rng = (.ok drawn, reached) ∧
      drawn.length = values.length + draws.length ∧ Kept reached := by
  induction draws generalizing values rng with
  | nil => exact ⟨values, rng, rfl, rfl, kept⟩
  | cons place draws ih =>
      obtain ⟨word, middle, drawn, keptMiddle⟩ := keeps rng kept
      obtain ⟨all, reached, rest, length, keptReached⟩ := ih
        (values ++ [Float32Ops.ofUInt32 (word % idSplit) - idCenter]) keptMiddle
      refine ⟨all, reached, ?_, ?_, keptReached⟩
      · have turn : drawValue values place rng =
            (.ok (values ++ [Float32Ops.ofUInt32 (word % idSplit) - idCenter]), middle) := by
          unfold drawValue
          rw [bind_of_ok drawn]
          rfl
        rw [List.foldlM_cons, bind_of_ok turn]
        exact rest
      · simp only [List.length_append, List.length_cons, List.length_nil] at length ⊢
        omega

theorem id_encoding_kept {Kept : TorchMt19937 → Prop} (keeps : KeepsDrawing Kept) (dim : Nat)
    {rng : TorchMt19937} (kept : Kept rng) :
    ∃ (values : List V) (reached : TorchMt19937),
      idEncoding dim rng = (.ok values, reached) ∧ values.length = dim ∧ Kept reached := by
  obtain ⟨values, reached, run, length, keptReached⟩ :=
    draw_values_kept keeps (List.range dim) ([] : List V) kept
  refine ⟨values, reached, run, ?_, keptReached⟩
  simpa using length

/-- One of the four values of an encoding, centred around zero. -/
def Centred (value : V) : Prop := ∃ word : UInt32, value = Float32Ops.ofUInt32 (word % idSplit) - idCenter

theorem draw_value_ok {values drawn : List V} {place : Nat} {rng reached : TorchMt19937}
    (ran : drawValue values place rng = (.ok drawn, reached)) :
    ∃ value, Centred value ∧ drawn = values ++ [value] := by
  unfold drawValue at ran
  obtain ⟨word, middle, _, same⟩ := bind_ok_steps ran
  cases same
  exact ⟨_, ⟨word, rfl⟩, rfl⟩

theorem draw_values_ok {draws : List Nat} {values drawn : List V} {rng reached : TorchMt19937}
    (ran : draws.foldlM drawValue values rng = (.ok drawn, reached)) :
    ∃ made, drawn = values ++ made ∧ made.length = draws.length ∧ ∀ value ∈ made, Centred value := by
  induction draws generalizing values rng with
  | nil =>
      cases ran
      exact ⟨[], by simp, rfl, by simp⟩
  | cons place draws ih =>
      rw [List.foldlM_cons] at ran
      obtain ⟨next, middle, first, rest⟩ := bind_ok_steps ran
      obtain ⟨value, centred, rfl⟩ := draw_value_ok first
      obtain ⟨made, rfl, length, all⟩ := ih rest
      refine ⟨value :: made, by simp, by simp [length], ?_⟩
      intro other member
      rcases List.mem_cons.mp member with here | later
      · exact here ▸ centred
      · exact all other later

theorem id_encoding_ok {dim : Nat} {values : List V} {rng reached : TorchMt19937}
    (ran : idEncoding dim rng = (.ok values, reached)) :
    values.length = dim ∧ ∀ value ∈ values, Centred value := by
  obtain ⟨made, rfl, length, all⟩ := draw_values_ok ran
  rw [List.length_range] at length
  exact ⟨by simpa using length, by simpa using all⟩

end RwkvSrs.TorchRng
