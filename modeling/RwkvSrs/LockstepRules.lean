import RwkvSrs.FallibleMethod

/-!
Rules for lockstep. What one run reads the other reads as well, up to the
relation, and a check that refuses the one refuses the other. Methods on a part
of the state are in lockstep when they are on the part itself.
-/

namespace RwkvSrs.LockstepRules

open FallibleMethod

set_option autoImplicit false

variable {Left Right Value Next : Type} {Related : Left → Right → Prop}

theorem lockstep_fail (failure : Failure) :
    Lockstep Related (fail failure : Method Left Value) (fail failure) :=
  fun _ _ related => ⟨rfl, related⟩

theorem lockstep_lift_bind {result : Except String Value} {next : Value → Method Left Next}
    {next' : Value → Method Right Next}
    (rest : ∀ value, result = .ok value → Lockstep Related (next value) (next' value)) :
    Lockstep Related (lift result >>= next) (lift result >>= next') := by
  intro one other related
  cases result with
  | error message => exact ⟨rfl, related⟩
  | ok value => exact rest value rfl one other related

theorem lockstep_read {next : Left → Method Left Next} {next' : Right → Method Right Next}
    (rest : ∀ one other, Related one other → Lockstep Related (next one) (next' other)) :
    Lockstep Related (current >>= next) (current >>= next') :=
  fun one other related => rest one other related one other related

/-- What follows the first step has to be in lockstep only after values that step returns. -/
theorem lockstep_bind_run {left : Method Left Value} {right : Method Right Value}
    {next : Value → Method Left Next} {next' : Value → Method Right Next}
    (first : Lockstep Related left right)
    (rest : ∀ one value reached, left one = (.ok value, reached) →
      Lockstep Related (next value) (next' value)) :
    Lockstep Related (left >>= next) (right >>= next') := by
  intro one other related
  obtain ⟨same, kept⟩ := first one other related
  cases ran : left one with
  | mk result reached =>
      cases ran' : right other with
      | mk result' reached' =>
          rw [ran, ran'] at same kept
          have equal : result = result' := same
          subst equal
          cases result with
          | error failure =>
              rw [bind_of_error ran, bind_of_error ran']
              exact ⟨rfl, kept⟩
          | ok value =>
              rw [bind_of_ok ran, bind_of_ok ran']
              exact rest one value reached ran reached reached' kept

section Parts

variable {LeftPart RightPart : Type} {PartRelated : LeftPart → RightPart → Prop}
  {part : Left → LeftPart} {put : LeftPart → Left → Left}
  {part' : Right → RightPart} {put' : RightPart → Right → Right}

theorem lockstep_on_part {step : Method LeftPart Value} {step' : Method RightPart Value}
    (lockstep : Lockstep PartRelated step step')
    (gets : ∀ one other, Related one other → PartRelated (part one) (part' other))
    (puts : ∀ one other reached reached', Related one other → PartRelated reached reached' →
      Related (put reached one) (put' reached' other)) :
    Lockstep Related (onPart part put step) (onPart part' put' step') := by
  intro one other related
  have stepped := lockstep (part one) (part' other) (gets one other related)
  exact ⟨stepped.1, puts one other _ _ related stepped.2⟩

theorem lockstep_read_part {next : LeftPart → Method Left Next}
    {next' : RightPart → Method Right Next}
    (same : ∀ one, put (part one) one = one) (same' : ∀ other, put' (part' other) other = other)
    (rest : ∀ one other, Related one other →
      Lockstep Related (next (part one)) (next' (part' other))) :
    Lockstep Related (onPart part put current >>= next) (onPart part' put' current >>= next') := by
  intro one other related
  have read : onPart part put current one = (.ok (part one), one) := by
    rw [onPart]
    exact congrArg (Prod.mk _) (same one)
  have read' : onPart part' put' current other = (.ok (part' other), other) := by
    rw [onPart]
    exact congrArg (Prod.mk _) (same' other)
  rw [bind_of_ok read, bind_of_ok read']
  exact rest one other related one other related

end Parts

end RwkvSrs.LockstepRules
