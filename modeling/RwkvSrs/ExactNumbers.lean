import Mathlib.Data.Rat.Floor
import RwkvSrs.DirectFeatures

/-!
Rational numbers with the operations of the feature code, on which states and
rows can be written down. Arithmetic, comparison and conversions are exact; the
transcendental functions are given at the arguments where they are rational.
-/

namespace RwkvSrs.ExactNumbers

open RwkvSrs.FeatureScaling RwkvSrs.DirectFeatures

set_option autoImplicit false

structure Exact where
  value : ℚ
deriving DecidableEq

namespace Exact

/-- The remainder with the sign of the dividend. -/
def remainder (x y : ℚ) : ℚ :=
  let quotient := x / y
  x - y * (if 0 ≤ quotient then ⌊quotient⌋ else ⌈quotient⌉ : ℤ)

instance : Float64Ops Exact where
  add x y := ⟨x.value + y.value⟩
  sub x y := ⟨x.value - y.value⟩
  mul x y := ⟨x.value * y.value⟩
  div x y := ⟨x.value / y.value⟩
  mod x y := ⟨remainder x.value y.value⟩
  neg x := ⟨-x.value⟩
  ofScientific mantissa negative exponent := ⟨OfScientific.ofScientific mantissa negative exponent⟩
  eq x y := x.value = y.value
  ln _ := ⟨0⟩
  sin _ := ⟨0⟩
  cos _ := ⟨1⟩
  pi := ⟨355 / 113⟩
  e := ⟨2718 / 1000⟩
  ofInt64 n := ⟨n.toInt⟩
  isIntegral x := x.value.den = 1
  toInt64 x := Int64.ofInt x.value.num

instance : Float32Ops Exact where
  sub x y := ⟨x.value - y.value⟩
  div x y := ⟨x.value / y.value⟩
  ofScientific mantissa negative exponent := ⟨OfScientific.ofScientific mantissa negative exponent⟩
  ofUInt32 word := ⟨word.toNat⟩

instance : ExactFeatureFloat Exact Exact where
  toF32 x := x
  zero := rfl
  one := rfl

/-- Without infinities; no key is ever sorted by. -/
instance : SessionFloat Exact where
  zero := ⟨0⟩
  one := ⟨1⟩
  negOne := ⟨-1⟩
  scoreFloor := ⟨1 / 10000⟩
  nan := ⟨0⟩
  isFinite _ := true
  isNan _ := false
  lt x y := x.value < y.value
  le x y := x.value ≤ y.value
  eq x y := x.value = y.value
  add x y := ⟨x.value + y.value⟩
  sub x y := ⟨x.value - y.value⟩
  div x y := ⟨x.value / y.value⟩
  neg x := ⟨-x.value⟩
  nextUp x := x
  orderedKey _ := 0

end Exact

end RwkvSrs.ExactNumbers
