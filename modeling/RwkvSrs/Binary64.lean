import Mathlib.Data.Nat.Log
import Mathlib.Data.UInt

/-!
IEEE 754 binary64 on bit patterns, with round-to-nearest-even arithmetic.
Every finite value is an integer multiple of `2 ^ -1074`, so sums are formed
exactly as integers and rounded once; quotients are rounded from an exact
fraction. Comparisons treat the two zeros as equal and every comparison with a
NaN as false. Equality of `Binary64` itself is equality of bit patterns.
-/

namespace RwkvSrs

set_option autoImplicit false

structure Binary64 where
  bits : UInt64
deriving DecidableEq

namespace Binary64

def negative (value : Binary64) : Bool := 2 ^ 63 ≤ value.bits.toNat

def exponentField (value : Binary64) : Nat := value.bits.toNat / 2 ^ 52 % 2 ^ 11

def mantissaField (value : Binary64) : Nat := value.bits.toNat % 2 ^ 52

def isFinite (value : Binary64) : Bool := value.exponentField != 2047

def isNan (value : Binary64) : Bool := value.exponentField == 2047 && value.mantissaField != 0

/-- Position on the number line counted in representable steps; both zeros are 0. -/
def ordinal (value : Binary64) : Int :=
  if value.negative then -((value.bits.toNat % 2 ^ 63 : Nat) : Int)
  else ((value.bits.toNat % 2 ^ 63 : Nat) : Int)

def lt (left right : Binary64) : Bool :=
  !left.isNan && !right.isNan && decide (left.ordinal < right.ordinal)

def le (left right : Binary64) : Bool :=
  !left.isNan && !right.isNan && decide (left.ordinal ≤ right.ordinal)

def eq (left right : Binary64) : Bool :=
  !left.isNan && !right.isNan && decide (left.ordinal = right.ordinal)

/-- Absolute value in units of `2 ^ -1074`. -/
def magnitude (value : Binary64) : Nat :=
  if value.exponentField = 0 then value.mantissaField
  else (2 ^ 52 + value.mantissaField) * 2 ^ (value.exponentField - 1)

def scaled (value : Binary64) : Int :=
  if value.negative then -(value.magnitude : Int) else (value.magnitude : Int)

def withSign (isNegative : Bool) (payload : Nat) : Binary64 :=
  ⟨UInt64.ofNat (if isNegative then 2 ^ 63 + payload else payload)⟩

def infinity (isNegative : Bool) : Binary64 := withSign isNegative (2047 * 2 ^ 52)

def zero (isNegative : Bool) : Binary64 := withSign isNegative 0

def nan : Binary64 := withSign false (2047 * 2 ^ 52 + 2 ^ 51)

/-- Round `numerator / denominator` units of `2 ^ -1074` to nearest, ties to even.
The quotient keeps its leading bit, so a carry out of the mantissa moves into
the exponent field by itself. -/
def roundScaled (isNegative : Bool) (numerator denominator : Nat) : Binary64 :=
  let whole := numerator / denominator
  let shift := if whole < 2 ^ 53 then 0 else Nat.log2 whole - 52
  let divisor := denominator * 2 ^ shift
  let quotient := numerator / divisor
  let remainder := numerator % divisor
  let up := divisor < 2 * remainder ∨ (2 * remainder = divisor ∧ quotient % 2 = 1)
  let payload := shift * 2 ^ 52 + (if up then quotient + 1 else quotient)
  withSign isNegative (min payload (2047 * 2 ^ 52))

def neg (value : Binary64) : Binary64 := ⟨value.bits ^^^ ((1 : UInt64) <<< 63)⟩

def add (left right : Binary64) : Binary64 :=
  if left.isNan || right.isNan then nan
  else if !left.isFinite then
    if !right.isFinite && left.negative != right.negative then nan else left
  else if !right.isFinite then right
  else
    let sum := left.scaled + right.scaled
    if sum = 0 then zero (left.negative && right.negative)
    else roundScaled (decide (sum < 0)) sum.natAbs 1

def sub (left right : Binary64) : Binary64 := add left (neg right)

def div (left right : Binary64) : Binary64 :=
  let isNegative := left.negative != right.negative
  if left.isNan || right.isNan then nan
  else if !left.isFinite then if !right.isFinite then nan else infinity isNegative
  else if !right.isFinite then zero isNegative
  else if right.magnitude = 0 then
    if left.magnitude = 0 then nan else infinity isNegative
  else roundScaled isNegative (left.magnitude * 2 ^ 1074) right.magnitude

example : add ⟨0x3FB999999999999A⟩ ⟨0x3FC999999999999A⟩ = ⟨0x3FD3333333333334⟩ := by
  decide +kernel

end Binary64

end RwkvSrs
