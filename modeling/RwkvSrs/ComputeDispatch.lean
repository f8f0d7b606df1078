import Mathlib.Algebra.BigOperators.Intervals
import RwkvSrs.AffineScan

/-!
Compute dispatches over flat storage buffers. The invocations of a dispatch
read buffers that no invocation of the dispatch writes, so a dispatch is a
list of writes, and the device may apply it in any order: a `Schedule` is that
order. The value of an address after a dispatch follows from two facts, that
every write to the address carries the same value and that there is one.
Shuffling sums over the lanes of a subgroup are here as well.
-/

namespace RwkvSrs.ComputeDispatch

set_option autoImplicit false

variable {R : Type*}

abbrev Buffer (R : Type*) := Nat → R

abbrev Write (R : Type*) := Nat × R

def store (buffer : Buffer R) (writes : List (Write R)) : Buffer R :=
  writes.foldl (fun memory write => Function.update memory write.1 write.2) buffer

/-- The order in which the device applies the writes of a dispatch. -/
structure Schedule (R : Type*) where
  order : List (Write R) → List (Write R)
  reorders : ∀ writes, (order writes).Perm writes

def dispatch (schedule : Schedule R) (writes : List (Write R)) (buffer : Buffer R) : Buffer R :=
  store buffer (schedule.order writes)

theorem store_untouched (buffer : Buffer R) (writes : List (Write R)) (address : Nat)
    (untouched : ∀ write ∈ writes, write.1 ≠ address) :
    store buffer writes address = buffer address := by
  induction writes generalizing buffer with
  | nil => rfl
  | cons write writes ih =>
      have later : ∀ other ∈ writes, other.1 ≠ address :=
        fun other member => untouched other (List.mem_cons_of_mem _ member)
      have elsewhere : address ≠ write.1 := (untouched write (by simp)).symm
      rw [store, List.foldl_cons]
      have kept := ih (Function.update buffer write.1 write.2) later
      rw [store] at kept
      rw [kept, Function.update_of_ne elsewhere]

theorem store_agreed (buffer : Buffer R) (writes : List (Write R)) (address : Nat) (value : R)
    (agreed : ∀ write ∈ writes, write.1 = address → write.2 = value)
    (written : ∃ write ∈ writes, write.1 = address) :
    store buffer writes address = value := by
  induction writes generalizing buffer with
  | nil =>
      obtain ⟨write, member, _⟩ := written
      cases member
  | cons write writes ih =>
      have later : ∀ other ∈ writes, other.1 = address → other.2 = value :=
        fun other member => agreed other (List.mem_cons_of_mem _ member)
      by_cases again : ∃ other ∈ writes, other.1 = address
      · exact ih (Function.update buffer write.1 write.2) later again
      · have untouched : ∀ other ∈ writes, other.1 ≠ address :=
          fun other member same => again ⟨other, member, same⟩
        have here : write.1 = address := by
          obtain ⟨other, member, same⟩ := written
          rcases List.mem_cons.mp member with first | rest
          · rw [← first]
            exact same
          · exact absurd same (untouched other rest)
        have kept := store_untouched (Function.update buffer write.1 write.2) writes address untouched
        rw [store] at kept
        rw [store, List.foldl_cons, kept, here, Function.update_self]
        exact agreed write (by simp) here

/-- What a dispatch leaves at an address does not depend on the schedule when
all writes to the address agree. -/
theorem dispatch_agreed (schedule : Schedule R) (writes : List (Write R)) (buffer : Buffer R)
    (address : Nat) (value : R) (agreed : ∀ write ∈ writes, write.1 = address → write.2 = value)
    (written : ∃ write ∈ writes, write.1 = address) :
    dispatch schedule writes buffer address = value := by
  apply store_agreed
  · intro write member
    exact agreed write ((schedule.reorders writes).mem_iff.mp member)
  · obtain ⟨write, member, same⟩ := written
    exact ⟨write, (schedule.reorders writes).mem_iff.mpr member, same⟩

theorem dispatch_untouched (schedule : Schedule R) (writes : List (Write R)) (buffer : Buffer R)
    (address : Nat) (untouched : ∀ write ∈ writes, write.1 ≠ address) :
    dispatch schedule writes buffer address = buffer address := by
  apply store_untouched
  intro write member
  exact untouched write ((schedule.reorders writes).mem_iff.mp member)

section LaneSums

variable [AddCommMonoid R]

/-- `subgroupShuffleXor` adds to every lane the value of the lane whose number
differs in the bit of `delta`. -/
def shuffleAdd (values : Nat → R) (delta : Nat) : Nat → R :=
  fun lane => values lane + values (lane ^^^ delta)

def laneSum (lanes : Nat) (values : Nat → R) : Nat → R :=
  (AffineScan.doublings lanes).foldl shuffleAdd values

/-- The sum over one of the aligned groups of `2 ^ level` lanes. -/
def groupSum (values : Nat → R) (level group : Nat) : R :=
  ∑ lane ∈ Finset.range (2 ^ level), values (group * 2 ^ level + lane)

theorem group_sum_succ (values : Nat → R) (level group : Nat) :
    groupSum values (level + 1) group =
      groupSum values level (2 * group) + groupSum values level (2 * group + 1) := by
  rw [groupSum, pow_succ, Nat.mul_two, Finset.sum_range_add]
  simp only [groupSum]
  congr 1 <;> apply Finset.sum_congr rfl <;> intro lane _ <;> congr 1 <;> ring

/-- Flipping bit `level` of a lane leads to the other half of its group of the
next level. -/
theorem group_sum_shuffle (values : Nat → R) (level lane : Nat) :
    groupSum values level (lane / 2 ^ level) +
        groupSum values level ((lane ^^^ 2 ^ level) / 2 ^ level) =
      groupSum values (level + 1) (lane / 2 ^ (level + 1)) := by
  have half : lane / 2 ^ (level + 1) = lane / 2 ^ level / 2 := by
    rw [pow_succ, Nat.div_div_eq_div_mul]
  rw [group_sum_succ, Nat.xor_div_two_pow, Nat.div_self (Nat.two_pow_pos level), half]
  rcases Nat.even_or_odd (lane / 2 ^ level) with even | odd
  · have double : 2 * (lane / 2 ^ level / 2) = lane / 2 ^ level :=
      Nat.two_mul_div_two_of_even even
    rw [Nat.xor_one_of_even even, double]
  · have double : 2 * (lane / 2 ^ level / 2) + 1 = lane / 2 ^ level :=
      Nat.two_mul_div_two_add_one_of_odd odd
    have before : lane / 2 ^ level - 1 = 2 * (lane / 2 ^ level / 2) := by omega
    rw [Nat.xor_one_of_odd odd, double, before, add_comm]

/-- The shuffles give every lane the sum over its aligned group. -/
theorem lane_sum_group (values : Nat → R) (levels lane : Nat) :
    laneSum (2 ^ levels) values lane = groupSum values levels (lane / 2 ^ levels) := by
  have first : ∀ other, values other = groupSum values 0 (other / 2 ^ 0) := by
    intro other
    simp [groupSum]
  obtain ⟨last, covers, level, power, inside, summed⟩ := AffineScan.doubling_loop (2 ^ levels)
    shuffleAdd
    (fun delta sums => ∃ level, delta = 2 ^ level ∧ level ≤ levels ∧
      ∀ other, sums other = groupSum values level (other / 2 ^ level))
    (by
      rintro delta sums _ below ⟨level, rfl, _, summed⟩
      have deeper : level < levels := (Nat.pow_lt_pow_iff_right (by omega)).mp below
      refine ⟨level + 1, (pow_succ 2 level).symm, deeper, ?_⟩
      intro other
      rw [shuffleAdd, summed other, summed (other ^^^ 2 ^ level), group_sum_shuffle])
    1 values (by omega) ⟨0, rfl, Nat.zero_le _, first⟩
  have reached : level = levels := by
    rw [power] at covers
    have := (Nat.pow_le_pow_iff_right (by omega)).mp covers
    omega
  rw [laneSum, AffineScan.doublings, summed lane, reached]

theorem sum_columns (values : Nat → R) (lanes columns : Nat) :
    ∑ lane ∈ Finset.range lanes, ∑ column ∈ Finset.range columns, values (lane + column * lanes) =
      ∑ index ∈ Finset.range (columns * lanes), values index := by
  induction columns with
  | zero => simp
  | succ columns ih =>
      rw [Nat.succ_mul, Finset.sum_range_add, ← ih, ← Finset.sum_add_distrib]
      apply Finset.sum_congr rfl
      intro lane _
      rw [Finset.sum_range_succ, Nat.add_comm lane (columns * lanes)]

end LaneSums

end RwkvSrs.ComputeDispatch
