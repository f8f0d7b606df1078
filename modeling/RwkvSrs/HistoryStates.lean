import RwkvSrs.HistoryFeatures
import RwkvSrs.PredictorRuns

/-!
The recurrent states after a history. Every identity of the history has a state
and no other identity has one, and the states of a module are as its weights
shape them. A finished review stores one state for each of its identities and
the global one.
-/

namespace RwkvSrs.HistoryStates

open Std FallibleMethod FeatureScaling ReviewInput DeterministicState DirectFeatures
open DirectAgreement ModuleState NativeRnnState BatchJournal ReviewProcessing PredictorRuns
open ReviewHistory HistoryFeatures StateLayouts PipelineLine BatchAtomicity

set_option autoImplicit false
set_option linter.unusedSectionVars false

/-- The heads of one layer; its states can be allocated. -/
structure StateBlock where
  nHeads : Nat
  headSize : Nat
  countable : nHeads < 2 ^ 64
  measurable : headSize < 2 ^ 64
  allocatable : 4 * (nHeads * headSize + nHeads * headSize * headSize + nHeads * headSize) < 2 ^ 63

def StateBlock.shape (block : StateBlock) : LayerShape where
  channels := block.nHeads * block.headSize
  heads := block.nHeads
  headSize := block.headSize
  countable := block.countable
  allocatable := block.allocatable

/-- The layers of each module, in the order in which a review passes the modules. -/
abbrev RwkvModules := List (List StateBlock)

def moduleIndex : SrsModule → Nat
  | .keyed .card => 0
  | .keyed .deck => 1
  | .keyed .note => 2
  | .keyed .preset => 3
  | .global => 4

def RwkvModules.blocks (modules : RwkvModules) (module : SrsModule) : List StateBlock :=
  modules.getD (moduleIndex module) []

section Shapes

variable {V : Type}

/-- One tensor of each kind for every layer. -/
structure FitsBlocks (blocks : List StateBlock) (state : NativeRnnModuleState V) : Prop where
  shifts : state.timeXShiftB1cByLayer.map Tensor.dims =
    blocks.map fun block => block.shape.shiftDims
  matrices : state.timeStateB1hkkByLayer.map Tensor.dims =
    blocks.map fun block => block.shape.matrixDims
  channels : state.channelStateB1cByLayer.map Tensor.dims =
    blocks.map fun block => block.shape.shiftDims

/-- The five states a forward returns are as its weights shape them. -/
structure ShapedOutput (modules : RwkvModules) (states : SrsReviewState V) : Prop where
  shaped : ∀ card note deck preset globalState : NativeRnnModuleState V,
    nativeModuleStatesFromReviewOutput states = .ok [card, note, deck, preset, globalState] →
      FitsBlocks (modules.blocks (.keyed .card)) card ∧
      FitsBlocks (modules.blocks (.keyed .note)) note ∧
      FitsBlocks (modules.blocks (.keyed .deck)) deck ∧
      FitsBlocks (modules.blocks (.keyed .preset)) preset ∧
      FitsBlocks (modules.blocks .global) globalState

end Shapes

variable {F V Logits Rows : Type} [Float64Ops F] [Float32Ops V] [ExactFeatureFloat F V]

/-- What the forward of the weights always returns: states of their shapes, the curves that were
asked for, and the same states where they were not. -/
structure WeightsForward (modules : RwkvModules) (network : ReviewNetwork F V Logits Rows) :
    Prop where
  shaped : ∀ features states returnCurve returnPrediction output,
    network.reviewForward features states returnCurve returnPrediction = .ok output →
      ShapedOutput modules output.states
  curves : ∀ features states returnPrediction output,
    network.reviewForward features states true returnPrediction = .ok output →
      output.aheadLogits.isSome ∧ output.w.isSome
  curveless : ∀ features states returnPrediction output,
    network.reviewForward features states true returnPrediction = .ok output →
      ∃ plain, network.reviewForward features states false returnPrediction = .ok plain ∧
        plain.states = output.states

def entityIds (entity : EntityModule) (history : History F) : List Int64 :=
  history.map fun input => entity.key (normalizedReviewIds input)

/-- Every state that is held is that of an identity of the history, in one form and in shape. -/
structure HoldsHistory (modules : RwkvModules) (history : History F) (rnn : NativeRnn V) : Prop where
  once : ∀ entity (identity : Int64),
    ¬ (identity ∈ rnn.states entity ∧ identity ∈ rnn.flatStates entity)
  globalOnce : rnn.globalState = none ∨ rnn.flatGlobalState = none
  held : ∀ entity (identity : Int64),
    (rnn.latest entity identity).isSome ↔ identity ∈ entityIds entity history
  shaped : ∀ entity (identity : Int64) state, rnn.latest entity identity = some state →
    FitsBlocks (modules.blocks (.keyed entity)) state
  globalHeld : rnn.latestGlobal.isSome = !history.isEmpty
  globalShaped : ∀ state, rnn.latestGlobal = some state → FitsBlocks (modules.blocks .global) state

theorem once_of_materialized {rnn : NativeRnn V} (materialized : Materialized rnn)
    (entity : EntityModule) (identity : Int64) :
    ¬ (identity ∈ rnn.states entity ∧ identity ∈ rnn.flatStates entity) := by
  intro both
  have flat := both.2
  rw [materialized.keyed entity] at flat
  exact ExtTreeMap.not_mem_empty flat

theorem nothing_held (modules : RwkvModules) :
    HoldsHistory modules ([] : History F) (⟨fun _ => ∅, none, fun _ => ∅, none⟩ : NativeRnn V) := by
  have absent : ∀ entity (identity : Int64),
      (⟨fun _ => ∅, none, fun _ => ∅, none⟩ : NativeRnn V).latest entity identity = none := by
    intro entity identity
    simp [NativeRnn.latest]
  apply HoldsHistory.mk
  case once => exact once_of_materialized ⟨fun _ => rfl, rfl⟩
  case globalOnce => exact Or.inl rfl
  case held =>
    intro entity identity
    rw [absent]
    simp [entityIds]
  case shaped =>
    intro entity identity state found
    rw [absent] at found
    cases found
  case globalHeld => rfl
  case globalShaped =>
    intro state found
    cases found

theorem holds_inserted {modules : RwkvModules} {history : History F} {rnn : NativeRnn V}
    {input : ReviewInput F} {state : EntityModule → NativeRnnModuleState V}
    {globalState : NativeRnnModuleState V} (holds : HoldsHistory modules history rnn)
    (shaped : ∀ entity, FitsBlocks (modules.blocks (.keyed entity)) (state entity))
    (globalShaped : FitsBlocks (modules.blocks .global) globalState) :
    HoldsHistory modules (input :: history)
      (insertReviewStates (normalizedReviewIds input) state globalState rnn) := by
  apply HoldsHistory.mk
  case once =>
    intro entity identity both
    have canonical := both.1
    have flat := both.2
    change identity ∈ (rnn.flatStates entity).erase (entity.key (normalizedReviewIds input)) at flat
    rw [ExtTreeMap.mem_erase] at flat
    rcases (key_inserted _ _ _ _).mp canonical with here | there
    · exact flat.1 (key_compare.mpr here.symm)
    · exact holds.once entity identity ⟨there, flat.2⟩
  case globalOnce => exact Or.inr rfl
  case held =>
    intro entity identity
    rw [inserted_latest, entityIds, List.map_cons, List.mem_cons]
    by_cases here : identity = entity.key (normalizedReviewIds input)
    · simp [here]
    · rw [if_neg here, holds.held, entityIds]
      simp [here]
  case shaped =>
    intro entity identity found look
    rw [inserted_latest] at look
    by_cases here : identity = entity.key (normalizedReviewIds input)
    · rw [if_pos here] at look
      cases look
      exact shaped entity
    · rw [if_neg here] at look
      exact holds.shaped entity identity found look
  case globalHeld => rfl
  case globalShaped =>
    intro found look
    cases look
    exact globalShaped

theorem store_states_ok {ids : ReviewIds} {output : SrsReviewState V} {before after : NativeRnn V}
    (ran : storeReviewStates ids output before = (.ok (), after)) :
    ∃ (state : EntityModule → NativeRnnModuleState V) (globalState : NativeRnnModuleState V),
      nativeModuleStatesFromReviewOutput output =
        .ok [state .card, state .note, state .deck, state .preset, globalState] ∧
      after = insertReviewStates ids state globalState before := by
  obtain ⟨states, _, read, rest⟩ := bind_ok_steps ran
  obtain ⟨found, same⟩ := lift_ok_value read
  subst same
  split at rest
  · rename_i card note deck preset globalState
    cases rest
    exact ⟨_, globalState, found, rfl⟩
  · cases rest

theorem holds_stored {modules : RwkvModules} {history : History F} {input : ReviewInput F}
    {output : SrsReviewState V} {before after : NativeRnn V}
    (holds : HoldsHistory modules history before) (shaped : ShapedOutput modules output)
    (ran : storeReviewStates (normalizedReviewIds input) output before = (.ok (), after)) :
    HoldsHistory modules (input :: history) after ∧
      (Materialized before → Materialized after) := by
  obtain ⟨state, globalState, found, made⟩ := store_states_ok ran
  obtain ⟨cardFits, noteFits, deckFits, presetFits, globalFits⟩ := shaped.shaped _ _ _ _ _ found
  subst made
  constructor
  · apply holds_inserted holds
    · intro entity
      cases entity with
      | card => exact cardFits
      | deck => exact deckFits
      | note => exact noteFits
      | preset => exact presetFits
    · exact globalFits
  · exact inserted_materialized

end RwkvSrs.HistoryStates
