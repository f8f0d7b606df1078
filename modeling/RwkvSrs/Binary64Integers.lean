import Mathlib.Tactic.Ring
import RwkvSrs.Binary64

/-!
Conversions between binary64 and integers of any size. `integral` is the exact
integer a finite value stands for, when it has no fractional part; `ofInteger`
rounds an integer to the nearest value, ties to even, and overflows to an
infinity. An integer that some value stands for exactly survives the rounding.
-/

namespace RwkvSrs.Binary64

set_option autoImplicit false

/-- The integer 1, counted in units of `2 ^ -1074`. -/
def unitsPerOne : Nat := 2 ^ 1074

theorem units_positive : 0 < unitsPerOne := by
  unfold unitsPerOne
  apply Nat.two_pow_pos

def integral (value : Binary64) : Option Int :=
  if value.isFinite ∧ value.magnitude % unitsPerOne = 0 then
    some (value.scaled / (unitsPerOne : Int))
  else none

def ofInteger (number : Int) : Binary64 :=
  roundScaled (decide (number < 0)) (number.natAbs * unitsPerOne) 1

theorem fields_payload (value : Binary64) :
    value.exponentField * 2 ^ 52 + value.mantissaField = value.bits.toNat % 2 ^ 63 := by
  unfold exponentField mantissaField
  omega

theorem with_sign_fields (isNegative : Bool) {payload : Nat} (small : payload < 2 ^ 63) :
    (withSign isNegative payload).negative = isNegative ∧
      (withSign isNegative payload).exponentField = payload / 2 ^ 52 ∧
      (withSign isNegative payload).mantissaField = payload % 2 ^ 52 := by
  cases isNegative with
  | false =>
      have bits : (withSign false payload).bits.toNat = payload := by
        simp only [withSign, Bool.false_eq_true, if_false, UInt64.toNat_ofNat']
        exact Nat.mod_eq_of_lt (by omega)
      unfold negative exponentField mantissaField
      rw [bits]
      simp only [decide_eq_false_iff_not, and_true]
      omega
  | true =>
      have bits : (withSign true payload).bits.toNat = 2 ^ 63 + payload := by
        simp only [withSign, if_true, UInt64.toNat_ofNat']
        exact Nat.mod_eq_of_lt (by omega)
      unfold negative exponentField mantissaField
      rw [bits]
      simp only [decide_eq_true_eq]
      omega

/-- A value whose magnitude is representable is rounded to itself, up to its sign. -/
theorem round_magnitude {value : Binary64} (finite : value.isFinite) (isNegative : Bool) :
    roundScaled isNegative value.magnitude 1 =
      withSign isNegative (value.exponentField * 2 ^ 52 + value.mantissaField) := by
  have exponent : value.exponentField < 2047 := by
    have field : value.exponentField < 2 ^ 11 := Nat.mod_lt _ (by decide)
    have different : value.exponentField ≠ 2047 := by simpa [isFinite] using finite
    omega
  have mantissa : value.mantissaField < 2 ^ 52 := Nat.mod_lt _ (by decide)
  have exact : ∀ {magnitude shift quotient : Nat}, magnitude = quotient * 2 ^ shift →
      (if magnitude < 2 ^ 53 then 0 else Nat.log2 magnitude - 52) = shift →
      shift * 2 ^ 52 + quotient ≤ 2047 * 2 ^ 52 →
      roundScaled isNegative magnitude 1 = withSign isNegative (shift * 2 ^ 52 + quotient) := by
    intro magnitude shift quotient scaled shifted bounded
    have positive : 0 < 2 ^ shift := Nat.two_pow_pos shift
    simp only [roundScaled, Nat.div_one, Nat.one_mul, shifted]
    rw [scaled, Nat.mul_div_cancel _ positive, Nat.mul_mod_left]
    have notUp : ¬ (2 ^ shift < 2 * 0 ∨ 2 * 0 = 2 ^ shift ∧ quotient % 2 = 1) := by omega
    rw [if_neg notUp, Nat.min_eq_left bounded]
  by_cases subnormal : value.exponentField = 0
  · have magnitude : value.magnitude = value.mantissaField := by simp [magnitude, subnormal]
    rw [magnitude, subnormal]
    apply exact
    · simp
    · rw [if_pos (by omega)]
    · omega
  · have magnitude : value.magnitude =
        (2 ^ 52 + value.mantissaField) * 2 ^ (value.exponentField - 1) := by
      simp [magnitude, subnormal]
    rw [magnitude]
    have payload : value.exponentField * 2 ^ 52 + value.mantissaField =
        (value.exponentField - 1) * 2 ^ 52 + (2 ^ 52 + value.mantissaField) := by omega
    rw [payload]
    apply exact
    · rfl
    · have power : 0 < 2 ^ (value.exponentField - 1) := Nat.two_pow_pos _
      by_cases small : value.exponentField = 1
      · rw [small]
        simp only [Nat.sub_self, pow_zero, Nat.mul_one]
        rw [if_pos (by omega)]
      · have double : 2 ≤ 2 ^ (value.exponentField - 1) := by
          calc
            2 = 2 ^ 1 := rfl
            _ ≤ 2 ^ (value.exponentField - 1) := Nat.pow_le_pow_right (by decide) (by omega)
        have large : ¬ (2 ^ 52 + value.mantissaField) * 2 ^ (value.exponentField - 1) < 2 ^ 53 := by
          have scaled := Nat.mul_le_mul (Nat.le_add_right (2 ^ 52) value.mantissaField) double
          omega
        rw [if_neg large]
        have log : Nat.log2 ((2 ^ 52 + value.mantissaField) * 2 ^ (value.exponentField - 1)) =
            52 + (value.exponentField - 1) := by
          have nonzero := Nat.mul_ne_zero (show 2 ^ 52 + value.mantissaField ≠ 0 by omega)
            (Nat.ne_of_gt power)
          rw [Nat.log2_eq_iff nonzero]
          constructor
          · rw [pow_add]
            exact Nat.mul_le_mul_right _ (Nat.le_add_right _ _)
          · rw [show 52 + (value.exponentField - 1) + 1 = 53 + (value.exponentField - 1) by omega,
              pow_add]
            exact Nat.mul_lt_mul_of_pos_right (by omega) power
        rw [log]
        exact Nat.add_sub_cancel_left _ _
    · omega

theorem integral_scaled {value : Binary64} {number : Int} (stands : value.integral = some number) :
    value.isFinite ∧ value.scaled = number * (unitsPerOne : Int) := by
  unfold integral at stands
  split at stands
  · rename_i whole
    have divisible : (unitsPerOne : Int) ∣ value.scaled := by
      have natural : unitsPerOne ∣ value.magnitude := Nat.dvd_of_mod_eq_zero whole.2
      have integer : (unitsPerOne : Int) ∣ (value.magnitude : Int) :=
        Int.natCast_dvd_natCast.mpr natural
      unfold scaled
      split
      · exact Int.dvd_neg.mpr integer
      · exact integer
    have quotient := Option.some.inj stands
    constructor
    · exact whole.1
    · rw [← quotient, Int.ediv_mul_cancel divisible]
  · cases stands

theorem integral_of_scaled {value : Binary64} {number : Int} (finite : value.isFinite)
    (scaled : value.scaled = number * (unitsPerOne : Int)) : value.integral = some number := by
  have magnitude : value.magnitude = number.natAbs * unitsPerOne := by
    have absolute : value.scaled.natAbs = value.magnitude := by
      unfold Binary64.scaled
      split <;> simp
    rw [← absolute, scaled, Int.natAbs_mul]
    rfl
  unfold integral
  rw [if_pos ⟨finite, by rw [magnitude, Nat.mul_mod_left]⟩, scaled,
    Int.mul_ediv_cancel _ (Int.natCast_ne_zero.mpr (Nat.ne_of_gt units_positive))]

/-- Rounding keeps every integer that some value stands for. -/
theorem of_integer_exact {value : Binary64} {number : Int}
    (stands : value.integral = some number) : (ofInteger number).integral = some number := by
  have scaled := integral_scaled stands
  have magnitude : number.natAbs * unitsPerOne = value.magnitude := by
    have absolute : value.scaled.natAbs = value.magnitude := by
      unfold Binary64.scaled
      split <;> simp
    rw [← absolute, scaled.2, Int.natAbs_mul]
    rfl
  have small : value.exponentField * 2 ^ 52 + value.mantissaField < 2 ^ 63 := by
    rw [fields_payload]
    exact Nat.mod_lt _ (by decide)
  have exponent : (ofInteger number).exponentField = value.exponentField ∧
      (ofInteger number).mantissaField = value.mantissaField := by
    have fields := with_sign_fields (decide (number < 0)) small
    have mantissa : value.mantissaField < 2 ^ 52 := Nat.mod_lt _ (by decide)
    unfold ofInteger
    rw [magnitude, round_magnitude scaled.1, fields.2.1, fields.2.2]
    omega
  have sign : (ofInteger number).negative = decide (number < 0) := by
    unfold ofInteger
    rw [magnitude, round_magnitude scaled.1]
    exact (with_sign_fields _ small).1
  have same : (ofInteger number).magnitude = value.magnitude := by
    simp only [Binary64.magnitude, exponent.1, exponent.2]
  apply integral_of_scaled
  · unfold isFinite
    rw [exponent.1]
    exact scaled.1
  · unfold Binary64.scaled
    rw [sign, same, ← magnitude]
    by_cases below : number < 0
    · rw [if_pos (by simpa using below)]
      have absolute : (number.natAbs : Int) = -number := Int.ofNat_natAbs_of_nonpos (by omega)
      rw [Int.natCast_mul, absolute]
      ring
    · rw [if_neg (by simpa using below)]
      have absolute : (number.natAbs : Int) = number := Int.natAbs_of_nonneg (by omega)
      rw [Int.natCast_mul, absolute]

theorem shifted_quotient_small {whole shift : Nat}
    (shifted : (if whole < 2 ^ 53 then 0 else Nat.log2 whole - 52) = shift) :
    whole / 2 ^ shift < 2 ^ 53 := by
  by_cases small : whole < 2 ^ 53
  · rw [if_pos small] at shifted
    rw [← shifted, pow_zero, Nat.div_one]
    exact small
  · rw [if_neg small] at shifted
    have nonzero : whole ≠ 0 := by
      intro zero
      apply small
      rw [zero]
      exact Nat.two_pow_pos 53
    have large : 53 ≤ Nat.log2 whole := (Nat.le_log2 nonzero).mpr (Nat.le_of_not_lt small)
    rw [Nat.div_lt_iff_lt_mul (Nat.two_pow_pos shift), ← pow_add]
    have above : whole < 2 ^ (Nat.log2 whole + 1) := Nat.lt_log2_self
    have exponent : 53 + shift = Nat.log2 whole + 1 := by omega
    rw [exponent]
    exact above

/-- An integer of 64 bits converts without overflow. -/
theorem of_integer_finite {number : Int} (small : number.natAbs < 2 ^ 64) :
    (ofInteger number).isFinite := by
  generalize magnitude : number.natAbs * unitsPerOne = whole
  generalize shifted : (if whole < 2 ^ 53 then 0 else Nat.log2 whole - 52) = shift
  have quotient := shifted_quotient_small shifted
  have bound : shift ≤ 1085 := by
    by_cases inside : whole < 2 ^ 53
    · rw [if_pos inside] at shifted
      omega
    · rw [if_neg inside] at shifted
      have nonzero : whole ≠ 0 := by
        intro zero
        apply inside
        rw [zero]
        exact Nat.two_pow_pos 53
      have below : whole < 2 ^ (64 + 1074) := by
        have power := units_positive
        rw [unitsPerOne] at power
        rw [← magnitude, pow_add, unitsPerOne]
        exact Nat.mul_lt_mul_of_pos_right small power
      have log := (Nat.log2_lt nonzero).mpr below
      omega
  have rounded : ∃ payload, payload ≤ 1087 * 2 ^ 52 ∧
      ofInteger number = withSign (decide (number < 0)) payload := by
    unfold ofInteger roundScaled
    simp only [magnitude, Nat.div_one, Nat.one_mul, shifted]
    refine ⟨_, ?_, rfl⟩
    apply Nat.le_trans (Nat.min_le_left _ _)
    split <;> omega
  obtain ⟨payload, small, same⟩ := rounded
  have fields := (with_sign_fields (decide (number < 0)) (show payload < 2 ^ 63 by omega)).2.1
  unfold isFinite
  rw [same, fields, bne_iff_ne]
  omega

end RwkvSrs.Binary64
