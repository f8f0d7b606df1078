import RwkvSrs.ReviewInput

/-!
Feature columns and scaling functions. The two classes name the f64 and f32
operations the feature code performs, with literals written as in the source;
no law of arithmetic is assumed of them.
-/

namespace RwkvSrs.FeatureScaling

set_option autoImplicit false

class Float64Ops (F : Type) extends Add F, Sub F, Mul F, Div F, Mod F, Neg F, OfScientific F where
  eq : F → F → Bool
  ln : F → F
  sin : F → F
  cos : F → F
  pi : F
  e : F
  ofInt64 : Int64 → F
  /-- `value.is_finite() && value.fract() == 0.0`. -/
  isIntegral : F → Bool
  toInt64 : F → Int64

class Float32Ops (V : Type) extends Sub V, Div V, OfScientific V where
  ofUInt32 : UInt32 → V

/-- The conversion `value as f32`. -/
class FeatureFloat (F V : Type) where
  toF32 : F → V

open Float64Ops FeatureFloat

def cardFeatureColumns : List String := [
  "scaled_elapsed_days",
  "scaled_elapsed_days_cumulative",
  "scaled_elapsed_seconds",
  "elapsed_seconds_sin",
  "elapsed_seconds_cos",
  "scaled_elapsed_seconds_cumulative",
  "elapsed_seconds_cumulative_sin",
  "elapsed_seconds_cumulative_cos",
  "scaled_duration",
  "rating_1",
  "rating_2",
  "rating_3",
  "rating_4",
  "note_id_is_nan",
  "deck_id_is_nan",
  "preset_id_is_nan",
  "day_offset_diff",
  "day_of_week",
  "diff_new_cards",
  "diff_reviews",
  "cum_new_cards_today",
  "cum_reviews_today",
  "scaled_state",
  "is_query"]

def idPlaceholder : Int64 := 314159265358979323

section Scalers

variable {F : Type} [Float64Ops F]

def dayOffsetEncodePeriods : List F := [3.0, 7.0, 30.0, 100.0, 365.0, 3650.0, 36500.0]

def secondsPerDay : F := 86400.0

def pyMod (value modulus : F) : F := ((value % modulus) + modulus) % modulus

def elapsedLogOrZero (x : F) : F := if eq x (-1.0) then 0.0 else ln (1.0 + 1e-5 + x)

def scaleElapsedDays (x : F) : F := (elapsedLogOrZero x - 1.51) / 1.62

def scaleElapsedDaysCumulative (x : F) : F := (elapsedLogOrZero x - 2.14) / 2.25

def scaleElapsedSeconds (x : F) : F := (elapsedLogOrZero x - 9.96) / 5.21

def scaleElapsedSecondsCumulative (x : F) : F := (elapsedLogOrZero x - 10.86) / 5.8

def scaleDuration (x : F) : F := (ln (10.0 + x) - 8.9) / 1.07

def scaleDiffNewCards (x : F) : F := (ln (3.0 + x) - 2.945) / 2.011

def scaleDiffReviews (x : F) : F := (ln (3.0 + x) - 4.64) / 2.59

def scaleCumNewCardsToday (x : F) : F := (ln (3.0 + x) - 2.55) / 1.41

def scaleCumReviewsToday (x : F) : F := (ln (3.0 + x) - 4.59) / 1.30

def scaleState (x : F) : F := x - 2.0

def scaleDayOffsetDiff (x : F) : F := ln (ln (e + x))

def elapsedSecondsSin (x : F) : F := sin (pyMod x secondsPerDay * 2.0 * pi / secondsPerDay)

def elapsedSecondsCos (x : F) : F := cos (pyMod x secondsPerDay * 2.0 * pi / secondsPerDay)

end Scalers

variable {F V : Type} [Float64Ops F] [FeatureFloat F V]

def dayOffsetEncoding (dayOffset dayOffsetFirst : F) : List V :=
  dayOffsetEncodePeriods.flatMap fun period =>
    let f := 2.0 * pi / period
    let dayOffsetMod := pyMod dayOffset period
    let dayOffsetFirstMod := pyMod dayOffsetFirst period
    [toF32 (sin (f * dayOffsetMod)), toF32 (cos (f * dayOffsetMod)),
      toF32 (sin (f * dayOffsetFirstMod)), toF32 (cos (f * dayOffsetFirstMod))]

theorem day_offset_encoding_length (dayOffset dayOffsetFirst : F) :
    (dayOffsetEncoding dayOffset dayOffsetFirst : List V).length = 28 := rfl

end RwkvSrs.FeatureScaling
