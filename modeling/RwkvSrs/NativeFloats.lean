import RwkvSrs.Binary64Integers
import RwkvSrs.CheckpointBytes
import RwkvSrs.DirectFeatures

/-!
The floats of the features on bit patterns. Products, remainders and literals
are formed exactly and rounded once. The logarithm, the sine and the cosine
round a partial sum of their series, which is closer to them than the last bit
that a platform's library promises.
-/

namespace RwkvSrs

open FeatureScaling

set_option autoImplicit false

namespace Binary64

def ofRat (value : ℚ) : Binary64 :=
  roundScaled (decide (value < 0)) (value.num.natAbs * unitsPerOne) value.den

def toRat (value : Binary64) : ℚ := value.scaled / unitsPerOne

def mul (left right : Binary64) : Binary64 :=
  let isNegative := left.negative != right.negative
  if left.isNan || right.isNan then nan
  else if !left.isFinite then if right.magnitude = 0 then nan else infinity isNegative
  else if !right.isFinite then if left.magnitude = 0 then nan else infinity isNegative
  else roundScaled isNegative (left.magnitude * right.magnitude) unitsPerOne

/-- The remainder has the sign of the dividend. -/
def rem (left right : Binary64) : Binary64 :=
  if left.isNan || right.isNan || !left.isFinite then nan
  else if !right.isFinite then left
  else if right.magnitude = 0 then nan
  else roundScaled left.negative (left.magnitude % right.magnitude) 1

/-- `value as i64` cuts off the fraction and stays in range. -/
def toInt64 (value : Binary64) : Int64 :=
  let whole : Int := value.magnitude / unitsPerOne
  if value.isNan then 0
  else if value.negative then if !value.isFinite then Int64.minValue
    else Int64.ofInt (max (-whole) Int64.minValue.toInt)
  else if !value.isFinite then Int64.maxValue
  else Int64.ofInt (min whole Int64.maxValue.toInt)

/-- Twice the area tangent. -/
def areaTangent (z : ℚ) : ℚ :=
  2 * ((List.range 25).map fun j => z ^ (2 * j + 1) / ((2 * j + 1 : Nat) : ℚ)).sum

/-- The value is `2 ^ exponent` times a number from 1 to 2. -/
def ln (value : Binary64) : Binary64 :=
  if value.isNan then nan
  else if value.magnitude = 0 then infinity true
  else if value.negative then nan
  else if !value.isFinite then value
  else
    let exponent : Int := Nat.log2 value.magnitude - 1074
    let ratio := value.toRat / 2 ^ exponent
    ofRat (exponent * areaTangent (1 / 3) + areaTangent ((ratio - 1) / (ratio + 1)))

def sin (value : Binary64) : Binary64 :=
  if !value.isFinite then nan
  else if value.magnitude = 0 then value
  else ofRat ((List.range 25).map fun k =>
    (-1) ^ k * value.toRat ^ (2 * k + 1) / (Nat.factorial (2 * k + 1) : ℚ)).sum

def cos (value : Binary64) : Binary64 :=
  if !value.isFinite then nan
  else ofRat ((List.range 25).map fun k =>
    (-1) ^ k * value.toRat ^ (2 * k) / (Nat.factorial (2 * k) : ℚ)).sum

instance : Float64Ops Binary64 where
  add := add
  sub := sub
  mul := mul
  div := div
  mod := rem
  neg := neg
  ofScientific mantissa negative exponent :=
    ofRat (OfScientific.ofScientific mantissa negative exponent)
  eq := eq
  ln := ln
  sin := sin
  cos := cos
  pi := ⟨0x400921FB54442D18⟩
  e := ⟨0x4005BF0A8B145769⟩
  ofInt64 number := ofInteger number.toInt
  isIntegral value := value.integral.isSome
  toInt64 := toInt64

end Binary64

namespace Binary32

/-- Every value is one in double precision. -/
def toDouble (value : Binary32) : Binary64 :=
  let isNegative := decide (2 ^ 31 ≤ value.bits.toNat)
  let exponent := value.bits.toNat / 2 ^ 23 % 2 ^ 8
  let mantissa := value.bits.toNat % 2 ^ 23
  let magnitude := if exponent = 0 then mantissa else (2 ^ 23 + mantissa) * 2 ^ (exponent - 1)
  if value.isNan then Binary64.nan
  else if exponent = 255 then Binary64.infinity isNegative
  else Binary64.roundScaled isNegative (magnitude * 2 ^ 925) 1

/-- Sums and quotients that are rounded in double precision round to the same value again. -/
instance : Float32Ops Binary32 where
  sub left right := ofDouble (left.toDouble.sub right.toDouble)
  div left right := ofDouble (left.toDouble.div right.toDouble)
  ofScientific mantissa negative exponent :=
    ofDouble (Binary64.ofRat (OfScientific.ofScientific mantissa negative exponent))
  ofUInt32 word := ofDouble (Binary64.ofInteger word.toNat)

end Binary32

instance : DirectFeatures.ExactFeatureFloat Binary64 Binary32 where
  toF32 := Binary32.ofDouble
  zero := by decide +kernel
  one := by decide +kernel

example : (0.1 + 0.2 : Binary64) = ⟨0x3FD3333333333334⟩ := by decide +kernel

end RwkvSrs
