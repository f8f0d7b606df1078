import RwkvSrs.ReviewProcessing

/-!
Predictions are pure. Encoding a query row may draw from the generator for an
identity without a stored encoding, but stores nothing, and the generator is put
back whenever a draw was due. Only a panic in the middle of a draw unwinds past
that restore.
-/

namespace RwkvSrs.PredictionPurity

open Std RwkvSrs.FallibleMethod RwkvSrs.FeatureScaling RwkvSrs.TorchRng
open RwkvSrs.DeterministicState RwkvSrs.ModuleState RwkvSrs.NativeRnnState
open RwkvSrs.BatchJournal RwkvSrs.ReviewProcessing

set_option autoImplicit false
set_option linter.unusedSectionVars false

variable {F V Value Next Logits Rows : Type} [Float64Ops F] [Float32Ops V] [FeatureFloat F V]

def Panics (result : Except Failure Value) : Prop := ∃ message, result = .error (.panic message)

/-- Every run that does not panic leaves the state as it was. -/
def ReadsOnly {State : Type} (step : Method State Value) : Prop :=
  ∀ state, ¬Panics (step state).1 → (step state).2 = state

section ReadsOnly

variable {State : Type}

theorem reads_only_lift (result : Except String Value) :
    ReadsOnly (lift result : Method State Value) := by
  intro state _
  cases result <;> rfl

theorem reads_only_bind {step : Method State Value} {next : Value → Method State Next}
    (first : ReadsOnly step) (rest : ∀ value, ReadsOnly (next value)) :
    ReadsOnly (step >>= next) := by
  intro state finishes
  rw [bind_apply] at finishes ⊢
  have stepped := first state
  match ran : step state with
  | (.ok value, reached) =>
      rw [ran] at stepped finishes
      have same : reached = state := stepped (by rintro ⟨_, panicked⟩; cases panicked)
      subst same
      exact rest value reached finishes
  | (.error failure, reached) =>
      rw [ran] at stepped finishes
      apply stepped
      rintro ⟨message, panicked⟩
      cases panicked
      exact finishes ⟨message, rfl⟩

theorem ok_after_read {step : Method State Value} {next : Value → Method State Next}
    {before after : State} {result : Next} (reads : ReadsOnly step)
    (ran : (step >>= next) before = (.ok result, after)) :
    ∃ value, step before = (.ok value, before) ∧ next value before = (.ok result, after) := by
  obtain ⟨value, reached, stepped, rest⟩ := bind_ok_steps ran
  have same := reads before
  rw [stepped] at same
  have unchanged : reached = before := same (by rintro ⟨_, panicked⟩; cases panicked)
  subst unchanged
  exact ⟨value, stepped, rest⟩

theorem error_after_read {step : Method State Value} {next : Value → Method State Next}
    {before after : State} {message : String} (reads : ReadsOnly step)
    (ran : (step >>= next) before = (.error (.error message), after)) :
    after = before ∨ ∃ value, step before = (.ok value, before) ∧
      next value before = (.error (.error message), after) := by
  have same := reads before
  rw [bind_apply] at ran
  match stepped : step before with
  | (.ok value, reached) =>
      rw [stepped] at ran same
      have unchanged : reached = before := same (by rintro ⟨_, panicked⟩; cases panicked)
      subst unchanged
      exact Or.inr ⟨value, rfl, ran⟩
  | (.error failure, reached) =>
      rw [stepped] at ran same
      cases ran
      exact Or.inl (same (by rintro ⟨_, panicked⟩; cases panicked))

end ReadsOnly

/-- Nothing but the generator may differ. -/
def OnlyDraws (before after : FeatureState F V) : Prop := after = { before with idRng := after.idRng }

theorem only_draws_refl (state : FeatureState F V) : OnlyDraws state state := rfl

theorem only_draws_trans (first middle last : FeatureState F V) (before : OnlyDraws first middle)
    (after : OnlyDraws middle last) : OnlyDraws first last := by
  unfold OnlyDraws at before after
  rw [before] at after
  exact after

theorem only_draws_encoding_of (submodule : IdSubmodule) (id : Int64) :
    Keeps OnlyDraws (encodingOf submodule id false : Method (FeatureState F V) (List V)) := by
  apply keeps_bind only_draws_trans (keeps_current only_draws_refl)
  intro state
  cases (state.idEncodings submodule)[id]? with
  | some encoding => exact keeps_pure only_draws_refl encoding
  | none =>
      apply keeps_bind only_draws_trans
      · intro reached
        rfl
      · intro encoding
        exact keeps_pure only_draws_refl encoding

theorem only_draws_feature_vector (row : PreparedRow F) :
    Keeps OnlyDraws (featureVector row false : Method (FeatureState F V) (List V)) := by
  apply keeps_lift_bind only_draws_refl
  intro features _
  apply keeps_bind only_draws_trans
  · apply keeps_foldlM only_draws_refl only_draws_trans
    intro made submodule _
    apply keeps_lift_bind only_draws_refl
    intro id _
    apply keeps_bind only_draws_trans (only_draws_encoding_of submodule id)
    intro encoding
    exact keeps_pure only_draws_refl _
  · intro made
    apply keeps_lift_bind only_draws_refl
    intro dayFeatures _
    exact keeps_pure only_draws_refl _

theorem known_encodings_unchanged {row : PreparedRow F} {state : FeatureState F V}
    {submodules : List IdSubmodule} (known : missingEncoding state row submodules = .ok false)
    (features : List V) :
    (submodules.foldlM (appendEncoding row false) features state).2 = state := by
  induction submodules generalizing features with
  | nil => rfl
  | cons submodule rest ih =>
      obtain ⟨id, read, known⟩ := ResultSteps.bind_ok.mp known
      split at known
      · rename_i stored
        obtain ⟨encoding, found⟩ := Option.isSome_iff_exists.mp
          (ExtTreeMap.mem_iff_isSome_getElem?.mp stored)
        have appended : appendEncoding row false features submodule state =
            (.ok (features ++ encoding), state) := by
          unfold appendEncoding encodingOf
          rw [read, bind_of_ok (lift_ok _ _), bind_apply, bind_of_ok (current_apply _), found]
          rfl
        rw [List.foldlM_cons, bind_of_ok appended]
        exact ih known _
      · cases known

theorem known_feature_vector_unchanged {row : PreparedRow F} {state : FeatureState F V}
    (known : missingEncoding state row idSubmodules = .ok false) :
    (featureVector row false state).2 = state := by
  unfold featureVector
  cases (cardFeatures row : Except String (List V)) with
  | error message => rfl
  | ok features =>
      rw [bind_of_ok (lift_ok _ _), bind_apply]
      have unchanged := known_encodings_unchanged known features
      match ran : idSubmodules.foldlM (appendEncoding row false) features state with
      | (.error failure, reached) =>
          rw [ran] at unchanged
          exact unchanged
      | (.ok made, reached) =>
          rw [ran] at unchanged
          change ((lift (dayOffsetFeatures row) >>= fun dayFeatures =>
            pure (made ++ dayFeatures) : Method (FeatureState F V) (List V)) reached).2 = state
          cases (dayOffsetFeatures row : Except String (List V)) <;> exact unchanged

theorem restored_rng {state reached : FeatureState F V} (drawn : OnlyDraws state reached) :
    { reached with idRng := state.idRng } = state := by
  unfold OnlyDraws at drawn
  rw [drawn]

theorem restored_draws {row : PreparedRow F} {state : FeatureState F V}
    (finishes : ¬Panics (restoringRng (some state.idRng) (featureVector row false) state).1) :
    (restoringRng (some state.idRng) (featureVector row false) state).2 = state := by
  have drawn := only_draws_feature_vector row state
  unfold restoringRng at finishes ⊢
  match ran : featureVector row false state with
  | (.error (.panic message), reached) =>
      rw [ran] at finishes
      exact absurd ⟨message, rfl⟩ finishes
  | (.error (.error message), reached) =>
      rw [ran] at drawn
      exact restored_rng drawn
  | (.ok features, reached) =>
      rw [ran] at drawn
      exact restored_rng drawn

theorem predict_feature_vector_pure (row : PreparedRow F) :
    ReadsOnly (predictFeatureVector row : Method (FeatureState F V) (List V)) := by
  intro state finishes
  unfold predictFeatureVector skipNeedsRngRestore at finishes ⊢
  rw [bind_of_ok (current_apply _), if_pos rfl] at finishes ⊢
  match known : missingEncoding state row idSubmodules with
  | .error message => rfl
  | .ok true =>
      rw [known] at finishes
      exact restored_draws finishes
  | .ok false =>
      rw [bind_of_ok (lift_ok _ _)]
      have unchanged := known_feature_vector_unchanged known
      unfold restoringRng
      match ran : featureVector row false state with
      | (.error (.panic message), reached) => rw [ran] at unchanged; exact unchanged
      | (.error (.error message), reached) => rw [ran] at unchanged; exact unchanged
      | (.ok features, reached) => rw [ran] at unchanged; exact unchanged

/-- A prediction leaves every state as it was, whether it succeeds or returns an error. -/
theorem predict_probability_pure (network : ReviewNetwork F V Logits Rows) (row : PreparedRow F)
    (ids : ReviewIds) : ReadsOnly (predictPreparedRowProbability network row ids) := by
  apply reads_only_bind
  · intro state finishes
    exact Prod.ext (predict_feature_vector_pure row state.1 finishes) rfl
  intro features
  apply reads_only_bind (reads_only_lift _)
  intro tensor
  apply reads_only_bind
  · intro state _
    rfl
  intro rnn
  apply reads_only_bind (reads_only_lift _)
  intro logits
  exact reads_only_lift _

theorem only_draws_restoring (rng : Option TorchMt19937) {step : Method (FeatureState F V) Value}
    (draws : Keeps OnlyDraws step) : Keeps OnlyDraws (restoringRng rng step) := by
  intro state
  have stepped := draws state
  have moved : ∀ (reached : FeatureState F V) (rng : TorchMt19937), OnlyDraws state reached →
      OnlyDraws state { reached with idRng := rng } := by
    intro reached rng drawn
    unfold OnlyDraws at drawn ⊢
    rw [drawn]
  unfold restoringRng
  match step state, rng, stepped with
  | (.error (.panic _), _), _, stepped => exact stepped
  | (.error (.error _), reached), some rng, stepped => exact moved reached rng stepped
  | (.error (.error _), _), none, stepped => exact stepped
  | (.ok _, reached), some rng, stepped => exact moved reached rng stepped
  | (.ok _, _), none, stepped => exact stepped

/-- Even a prediction that panics has moved nothing but the generator. -/
def MovesGenerator (before after : ModelState F V) : Prop :=
  OnlyDraws before.1 after.1 ∧ after.2 = before.2

theorem moves_refl (state : ModelState F V) : MovesGenerator state state := ⟨rfl, rfl⟩

theorem moves_trans (first middle last : ModelState F V) (before : MovesGenerator first middle)
    (after : MovesGenerator middle last) : MovesGenerator first last :=
  ⟨only_draws_trans _ _ _ before.1 after.1, after.2.trans before.2⟩

theorem predict_probability_moves (network : ReviewNetwork F V Logits Rows) (row : PreparedRow F)
    (ids : ReviewIds) : Keeps MovesGenerator (predictPreparedRowProbability network row ids) := by
  apply keeps_bind moves_trans
  · intro state
    have draws : Keeps OnlyDraws (predictFeatureVector row :
        Method (FeatureState F V) (List V)) := by
      apply keeps_bind only_draws_trans (keeps_current only_draws_refl)
      intro current
      apply keeps_lift_bind only_draws_refl
      intro restore _
      exact only_draws_restoring _ (only_draws_feature_vector row)
    exact ⟨draws state.1, rfl⟩
  intro features
  apply keeps_lift_bind moves_refl
  intro tensor _
  apply keeps_bind moves_trans
  · intro state
    exact moves_refl state
  intro rnn
  apply keeps_lift_bind moves_refl
  intro logits _
  exact keeps_lift moves_refl _

end RwkvSrs.PredictionPurity
