import RwkvSrs.Binary64

/-!
The review record shared by the feature state and the live session, and the
floating-point interface their code is written against. `SessionFloat` names
exactly the f64 operations the live session performs; `Binary64` is the
instance the program runs with. Nothing proved over `SessionFloat` relies on a
law of arithmetic unless the law is a stated hypothesis.
-/

namespace RwkvSrs

set_option autoImplicit false

inductive MaybeId where
  | present (id : Int64)
  | missing
deriving DecidableEq

structure ReviewInput (F : Type) where
  reviewId : Int64
  cardId : Int64
  noteId : MaybeId
  deckId : MaybeId
  presetId : MaybeId
  dayOffset : F
  elapsedDays : F
  elapsedSeconds : F
  rating : Option Int64
  duration : Option F
  state : Option F
deriving DecidableEq

class SessionFloat (F : Type) where
  zero : F
  one : F
  negOne : F
  /-- The constant 0.0001 that bounds both sides of the overdueness score. -/
  scoreFloor : F
  nan : F
  isFinite : F → Bool
  isNan : F → Bool
  lt : F → F → Bool
  le : F → F → Bool
  eq : F → F → Bool
  add : F → F → F
  sub : F → F → F
  div : F → F → F
  neg : F → F
  nextUp : F → F
  /-- Integer sort key of a finite value, `ordered_f64_key`. -/
  orderedKey : F → UInt64

namespace SessionFloat

variable {F : Type} [SessionFloat F]

/-- `f64::max`: a NaN operand is ignored. -/
def max (left right : F) : F :=
  if isNan left then right else if isNan right then left
  else if lt left right then right else left

/-- `f64::min`: a NaN operand is ignored. -/
def min (left right : F) : F :=
  if isNan left then right else if isNan right then left
  else if lt right left then right else left

/-- `value.clamp(0.0, 1.0)`. -/
def clampUnit (value : F) : F :=
  if lt value zero then zero else if lt one value then one else value

/-- `(0.0..1.0).contains(&value)`. -/
def inUnitRange (value : F) : Bool := le zero value && lt value one

end SessionFloat

namespace Binary64

/-- `next_up` of the live session, on bit patterns. -/
def nextUp (value : Binary64) : Binary64 :=
  if value.isNan || value == infinity false then value
  else if value.eq (zero true) then ⟨1⟩
  else if (zero false).le value then ⟨value.bits + 1⟩
  else ⟨value.bits - 1⟩

def orderedKey (value : Binary64) : UInt64 :=
  let normalized := if value.eq (zero false) then zero false else value
  if normalized.bits >>> 63 == 0 then normalized.bits ^^^ ((1 : UInt64) <<< 63)
  else ~~~normalized.bits

instance : SessionFloat Binary64 where
  zero := ⟨0⟩
  one := ⟨0x3FF0000000000000⟩
  negOne := ⟨0xBFF0000000000000⟩
  scoreFloor := ⟨0x3F1A36E2EB1C432D⟩
  nan := nan
  isFinite := isFinite
  isNan := isNan
  lt := lt
  le := le
  eq := eq
  add := add
  sub := sub
  div := div
  neg := neg
  nextUp := nextUp
  orderedKey := orderedKey

end Binary64

end RwkvSrs
