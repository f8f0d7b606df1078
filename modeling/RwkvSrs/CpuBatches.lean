import RwkvSrs.BatchedRows
import RwkvSrs.StrideBlocks

/-!
Batched prediction on the CPU answers every row in order. The sequential loop
keeps an account of the rows it has answered and of those it still holds, and the
parallel form answers block by block what the loop would.
-/

namespace RwkvSrs.CpuBatches

open Std RwkvSrs.FallibleMethod RwkvSrs.FeatureScaling RwkvSrs.ReviewInput
open RwkvSrs.DeterministicState RwkvSrs.DeterministicUndo RwkvSrs.DeterministicTouch
open RwkvSrs.ModuleState RwkvSrs.NativeRnnState RwkvSrs.BatchJournal RwkvSrs.DirectFeatures
open RwkvSrs.DirectPaths RwkvSrs.BatchAccount RwkvSrs.ResultSteps
open RwkvSrs.BatchedPrediction RwkvSrs.BatchedRows RwkvSrs.PredictionPurity RwkvSrs.StrideBlocks
open RwkvSrs.ReviewProcessing
  (SrsReviewState stateInputs appendStateInput tensorFromFeatureVector validateNumThreads)

set_option autoImplicit false
set_option linter.unusedSectionVars false

variable {F V Logits : Type} [Float64Ops F] [Float32Ops V]

section States

variable {rnn : NativeRnn V} {ids : List ReviewIds}

/-- Every state a row of these identities reads is canonical. -/
def StatesHeld (rnn : NativeRnn V) (ids : ReviewIds) : Prop :=
  (∀ entity : EntityModule, ∃ state, (rnn.states entity)[entity.key ids]? = some state) ∧
    ∃ state, rnn.globalState = some state

theorem existing_state_ok {entity : EntityModule} {id : Int64} {state : NativeRnnModuleState V} :
    existingState rnn entity id = .ok state ↔ (rnn.states entity)[id]? = some state := by
  unfold existingState
  cases (rnn.states entity)[id]? <;> simp

theorem existing_global_ok {state : NativeRnnModuleState V} :
    existingGlobalState rnn = .ok state ↔ rnn.globalState = some state := by
  unfold existingGlobalState
  cases rnn.globalState <;> simp

theorem existing_states_ok {globalState : NativeRnnModuleState V} {row : ReviewIds}
    {states : SrsReviewState V} (found : rnn.globalState = some globalState)
    (made : existingStates rnn globalState row = .ok states) : states = stateInputs rnn row := by
  obtain ⟨card, hasCard, made⟩ := bind_ok.mp made
  obtain ⟨note, hasNote, made⟩ := bind_ok.mp made
  obtain ⟨deck, hasDeck, made⟩ := bind_ok.mp made
  obtain ⟨preset, hasPreset, made⟩ := bind_ok.mp made
  cases made
  rw [existing_state_ok] at hasCard hasNote hasDeck hasPreset
  obtain ⟨cardId, noteId, deckId, presetId⟩ := row
  simp only [stateInputs]
  rw [hasCard, hasNote, hasDeck, hasPreset, found]

theorem existing_states_held {globalState : NativeRnnModuleState V} {row : ReviewIds}
    (found : rnn.globalState = some globalState) (held : StatesHeld rnn row) :
    existingStates rnn globalState row = .ok (stateInputs rnn row) := by
  have each : ∀ entity : EntityModule, ∃ state,
      existingState rnn entity (entity.key row) = .ok state := by
    intro entity
    obtain ⟨state, here⟩ := held.1 entity
    exact ⟨state, existing_state_ok.mpr here⟩
  obtain ⟨card, hasCard⟩ := each .card
  obtain ⟨note, hasNote⟩ := each .note
  obtain ⟨deck, hasDeck⟩ := each .deck
  obtain ⟨preset, hasPreset⟩ := each .preset
  have made : ∃ states, existingStates rnn globalState row = .ok states := by
    unfold existingStates
    simp only [EntityModule.key] at hasCard hasNote hasDeck hasPreset
    rw [hasCard, hasNote, hasDeck, hasPreset]
    exact ⟨_, rfl⟩
  obtain ⟨states, made⟩ := made
  rw [made, existing_states_ok found made]

theorem batch_states_ok {given : List (SrsReviewState V)}
    (made : batchStateInputs rnn ids = .ok given) : given = ids.map (stateInputs rnn) := by
  unfold batchStateInputs at made
  split at made
  · cases made
  · obtain ⟨globalState, found, made⟩ := bind_ok.mp made
    rw [existing_global_ok] at found
    exact mapM_ok_map made fun row _ states here => existing_states_ok found here

theorem batch_states_held (nonempty : ids ≠ []) (held : ∀ row ∈ ids, StatesHeld rnn row) :
    batchStateInputs rnn ids = .ok (ids.map (stateInputs rnn)) := by
  obtain ⟨first, member⟩ := List.exists_mem_of_ne_nil ids nonempty
  obtain ⟨globalState, found⟩ := (held first member).2
  unfold batchStateInputs
  have isNonempty : ids.isEmpty = false := by simpa using nonempty
  rw [if_neg (by simp [isNonempty]), existing_global_ok.mpr found]
  exact mapM_all_ok fun row member => existing_states_held found (held row member)

theorem batch_module_ok {moduleIndex : Nat} {given : List (NativeRnnModuleState V)}
    (made : batchModuleStateInputs rnn ids moduleIndex = .ok given) :
    given = ids.map fun row => moduleInput moduleIndex (stateInputs rnn row) := by
  unfold batchModuleStateInputs at made
  split at made
  · cases made
  · split at made
    · apply mapM_ok_map made
      intro row _ state here
      exact (module_input_of (by simp [rowStates, stateIndex, existing_state_ok.mp here])).symm
    · apply mapM_ok_map made
      intro row _ state here
      exact (module_input_of (by simp [rowStates, stateIndex, existing_state_ok.mp here])).symm
    · apply mapM_ok_map made
      intro row _ state here
      exact (module_input_of (by simp [rowStates, stateIndex, existing_state_ok.mp here])).symm
    · apply mapM_ok_map made
      intro row _ state here
      exact (module_input_of (by simp [rowStates, stateIndex, existing_state_ok.mp here])).symm
    · obtain ⟨globalState, found, made⟩ := bind_ok.mp made
      rw [existing_global_ok] at found
      cases made
      apply List.map_congr_left
      intro row _
      exact (module_input_of (by simp [rowStates, stateIndex, found])).symm
    · cases made

theorem batch_module_held {moduleIndex : Nat} (inRange : moduleIndex < 5) (nonempty : ids ≠ [])
    (held : ∀ row ∈ ids, StatesHeld rnn row) :
    batchModuleStateInputs rnn ids moduleIndex =
      .ok (ids.map fun row => moduleInput moduleIndex (stateInputs rnn row)) := by
  have made : ∃ given, batchModuleStateInputs rnn ids moduleIndex = .ok given := by
    have isNonempty : ids.isEmpty = false := by simpa using nonempty
    have each : ∀ entity : EntityModule, ∃ given,
        ids.mapM (fun row => existingState rnn entity (entity.key row)) = .ok given := by
      intro entity
      cases mapped : ids.mapM (fun row => existingState rnn entity (entity.key row)) with
      | ok given => exact ⟨given, rfl⟩
      | error message =>
          obtain ⟨row, member, failed⟩ := mapM_error_mem mapped
          obtain ⟨state, here⟩ := (held row member).1 entity
          rw [existing_state_ok.mpr here] at failed
          cases failed
    obtain ⟨first, member⟩ := List.exists_mem_of_ne_nil ids nonempty
    obtain ⟨globalState, found⟩ := (held first member).2
    unfold batchModuleStateInputs
    rw [isNonempty, if_neg (by simp)]
    match moduleIndex, inRange with
    | 0, _ => exact each .card
    | 1, _ => exact each .deck
    | 2, _ => exact each .note
    | 3, _ => exact each .preset
    | 4, _ => exact ⟨_, by rw [existing_global_ok.mpr found]; rfl⟩
  obtain ⟨given, made⟩ := made
  rw [made, batch_module_ok made]

end States

section Batch

variable [ExactFeatureFloat F V] {network : PredictionNetwork F V Logits}
  {mode : PredictManyForwardMode} {model : ModelState F V} {held : List (ReviewInput F)}
  {values : List F}

def heldRow (model : ModelState F V) (input : ReviewInput F) : List V × SrsReviewState V :=
  (queryFeatures model.1 input, stateInputs model.2 (normalizedReviewIds input))

theorem rows_answered (batchable : ∀ input ∈ held, Batchable model.1 input) :
    List.Forall₂ (RowAnswer network mode) (held.map (heldRow model)) values ↔
      List.Forall₂ (Answered network mode model) held values := by
  induction held generalizing values with
  | nil => simp
  | cons input held ih =>
      have here : ∀ value, Answered network mode model input value ↔
          RowAnswer network mode (heldRow model input) value :=
        fun value => answered_batchable network (batchable input (by simp))
      have rest : ∀ {values : List F},
          List.Forall₂ (RowAnswer network mode) (held.map (heldRow model)) values ↔
            List.Forall₂ (Answered network mode model) held values :=
        ih fun other member => batchable other (List.mem_cons_of_mem _ member)
      simp only [List.map_cons, List.forall₂_cons_left_iff, here, rest]

theorem tensor_2d_ok {rows made : List (List V)} {name : String}
    (checked : tensorFrom2d rows name = .ok made) : made = rows := by
  unfold tensorFrom2d at checked
  split at checked
  · cases checked
  · split at checked
    · cases checked
    · split at checked
      · cases checked
      · cases checked
        rfl

theorem tensor_2d_sized {rows : List (List V)} {name : String} (nonempty : rows ≠ [])
    (sized : ∀ row ∈ rows, row.length = 92) : tensorFrom2d rows name = .ok rows := by
  cases rows with
  | nil => exact absurd rfl nonempty
  | cons row rows =>
      have first := sized row (by simp)
      have filled : row.isEmpty = false := by
        cases row with
        | nil => cases first
        | cons _ _ => rfl
      have even : (row :: rows).any (·.length ≠ row.length) = false := by
        rw [List.any_eq_false]
        intro other member
        simp [first, sized other member]
      unfold tensorFrom2d
      simp only [filled, even]
      rfl

theorem checked_ok {probabilities checked : List F} {rows : Nat}
    (made : checkedBatch probabilities rows = .ok checked) : checked = probabilities := by
  unfold checkedBatch at made
  split at made
  · cases made
  · cases made
    rfl

/-- The states handed to the batch forward are those of its rows, or none where it reads none. -/
theorem batch_inputs_ok {ids : List ReviewIds} {given : Option (List (SrsReviewState V))}
    (made : batchInputs network model.2 mode ids = .ok given) :
    given = some (ids.map (stateInputs model.2)) ∨
      network.requiresState mode = .ok false ∧ given = none := by
  obtain ⟨needed, reads, made⟩ := bind_ok.mp made
  cases needed with
  | false =>
      cases made
      exact Or.inr ⟨reads, rfl⟩
  | true =>
      obtain ⟨states, found, made⟩ := bind_ok.mp made
      cases made
      exact Or.inl (congrArg some (batch_states_ok found))

theorem batch_answers (rowWise : RowWise network) (nonempty : held ≠ [])
    (batchable : ∀ input ∈ held, Batchable model.1 input)
    (made : batchProbabilities network mode model (held.map (preparePredictRow model.1))
      (held.map normalizedReviewIds) = .ok values) :
    List.Forall₂ (Answered network mode model) held values := by
  unfold batchProbabilities at made
  rw [batchable_feature_vectors batchable] at made
  obtain ⟨features, vectors, made⟩ := bind_ok.mp made
  cases vectors
  obtain ⟨features, tensor, made⟩ := bind_ok.mp made
  obtain ⟨given, inputs, made⟩ := bind_ok.mp made
  obtain ⟨logits, forward, made⟩ := bind_ok.mp made
  obtain ⟨probabilities, outcome, made⟩ := bind_ok.mp made
  rw [tensor_2d_ok tensor] at forward
  rw [checked_ok made]
  apply (rows_answered batchable).mp
  apply (rowWise.batch mode (held.map (heldRow model)) given probabilities
    (by simpa using nonempty) ?_).mp
  · have columns : (held.map (heldRow model)).map Prod.fst = held.map (queryFeatures model.1) := by
      simp [heldRow]
    unfold batchOutcome
    rw [columns, forward]
    exact outcome
  · have states : (held.map (heldRow model)).map Prod.snd =
        (held.map normalizedReviewIds).map (stateInputs model.2) := by
      simp [heldRow]
    rw [states]
    exact batch_inputs_ok inputs

/-- The rows of a batch have their size and every state they read. -/
structure BatchReady (model : ModelState F V) : Prop where
  sized : EncodingsSized model.1
  held : ∀ ids, recurrentKeysHave model.1.recurrentStateKeys ids = true → StatesHeld model.2 ids

theorem BatchReady.rows (ready : BatchReady model)
    (batchable : ∀ input ∈ held, Batchable model.1 input) :
    ∀ ids ∈ held.map normalizedReviewIds, StatesHeld model.2 ids := by
  intro ids member
  obtain ⟨input, here, same⟩ := List.mem_map.mp member
  rw [← same]
  exact ready.held _ (batchable_parts (batchable input here)).2

theorem BatchReady.tensor (ready : BatchReady model) (nonempty : held ≠ [])
    (batchable : ∀ input ∈ held, Batchable model.1 input) (name : String) :
    tensorFrom2d (held.map (queryFeatures model.1)) name =
      .ok (held.map (queryFeatures model.1) : List (List V)) := by
  apply tensor_2d_sized
  · simpa using nonempty
  · intro row member
    obtain ⟨input, here, same⟩ := List.mem_map.mp member
    rw [← same]
    exact query_features_length ready.sized (batchable input here)

theorem batch_runs (rowWise : RowWise network) (ready : BatchReady model) (nonempty : held ≠ [])
    (batchable : ∀ input ∈ held, Batchable model.1 input)
    (answered : List.Forall₂ (Answered network mode model) held values) :
    batchProbabilities network mode model (held.map (preparePredictRow model.1))
      (held.map normalizedReviewIds) = .ok values := by
  have sameLength : values.length = held.length := answered.length_eq.symm
  have rows := (rows_answered batchable).mpr answered
  have nonemptyIds : held.map normalizedReviewIds ≠ [] := by simpa using nonempty
  have states := batch_states_held nonemptyIds (ready.rows batchable)
  have columns : (held.map (heldRow model)).map Prod.fst = held.map (queryFeatures model.1) := by
    simp [heldRow]
  have rowStates : (held.map (heldRow model)).map Prod.snd =
      (held.map normalizedReviewIds).map (stateInputs model.2) := by
    simp [heldRow]
  have given : ∃ given, batchInputs network model.2 mode (held.map normalizedReviewIds) =
      .ok given := by
    obtain ⟨first, rest, same⟩ := List.exists_cons_of_ne_nil nonempty
    obtain ⟨value, _, firstAnswer, _, _⟩ := List.forall₂_cons_left_iff.mp
      (by rw [same] at answered; exact answered)
    have firstRow := (answered_batchable network (batchable first (by simp [same]))).mp firstAnswer
    obtain ⟨needed, reads, _⟩ := bind_ok.mp firstRow
    unfold batchInputs
    rw [reads]
    cases needed with
    | false => exact ⟨none, rfl⟩
    | true =>
        refine ⟨some ((held.map normalizedReviewIds).map (stateInputs model.2)), ?_⟩
        simp only [states, bind, Except.bind, if_true]
        rfl
  obtain ⟨given, inputs⟩ := given
  have outcome := (rowWise.batch mode (held.map (heldRow model)) given values
    (by simpa using nonempty) (by rw [rowStates]; exact batch_inputs_ok inputs)).mpr rows
  rw [columns] at outcome
  unfold batchProbabilities
  rw [batchable_feature_vectors batchable]
  change (tensorFrom2d (held.map (queryFeatures model.1)) "predict_features" >>= _) = _
  rw [ready.tensor nonempty batchable]
  simp only [inputs, bind, Except.bind]
  unfold batchOutcome at outcome
  obtain ⟨logits, forward, outcome⟩ := bind_ok.mp outcome
  rw [forward]
  simp only [outcome]
  unfold checkedBatch
  rw [if_neg (by simpa using sameLength)]

end Batch

section Loop

variable [ExactFeatureFloat F V] {network : PredictionNetwork F V Logits}
  {mode : PredictManyForwardMode} {model : ModelState F V} {seen : List (ReviewInput F)}
  {batch : PredictBatch F} {input : ReviewInput F} {mayFail : Prop} {batchSize : Nat}

theorem scalar_reads_only (network : PredictionNetwork F V Logits) (mode : PredictManyForwardMode)
    (row : PreparedRow F) (ids : ReviewIds) :
    ReadsOnly (predictPreparedRowProbability network mode row ids) := by
  apply reads_only_bind
  · intro state finishes
    exact Prod.ext (predict_feature_vector_pure row state.1 finishes) rfl
  intro features
  apply reads_only_bind (reads_only_lift _)
  intro tensor
  apply reads_only_bind
  · intro state _
    rfl
  intro rnn
  apply reads_only_bind (reads_only_lift _)
  intro inputs
  apply reads_only_bind (reads_only_lift _)
  intro logits
  exact reads_only_lift _

theorem scalar_reaches (answerable : mayFail ∨ ∃ value, Answered network mode model input value) :
    Reaches mayFail (fun value state => state = model ∧ Answered network mode model input value)
      (predictPreparedRowProbability network mode (preparePredictRow model.1 input)
        (normalizedReviewIds input) model) := by
  have same := scalar_reads_only network mode (preparePredictRow model.1 input)
    (normalizedReviewIds input) model
  unfold Answered at answerable ⊢
  match ran : predictPreparedRowProbability network mode (preparePredictRow model.1 input)
      (normalizedReviewIds input) model with
  | (.ok value, state) =>
      rw [ran] at same
      exact reaches_pure ⟨same (by rintro ⟨_, panicked⟩; cases panicked), rfl⟩
  | (.error failure, state) =>
      rw [ran] at answerable
      apply reaches_fail
      rcases answerable with may | ⟨value, answered⟩
      · exact may
      · cases answered

/-- The rows of the buffer, each batchable and answerable where the run must not fail. -/
structure Buffered (network : PredictionNetwork F V Logits) (mode : PredictManyForwardMode)
    (model : ModelState F V) (mayFail : Prop) (held : List (ReviewInput F)) : Prop where
  batchable : ∀ input ∈ held, Batchable model.1 input
  answerable : mayFail ∨ ∀ input ∈ held, ∃ value, Answered network mode model input value

theorem Buffered.push {held : List (ReviewInput F)}
    (buffered : Buffered network mode model mayFail held) (batchable : Batchable model.1 input)
    (answerable : mayFail ∨ ∃ value, Answered network mode model input value) :
    Buffered network mode model mayFail (held ++ [input]) := by
  constructor
  · intro other member
    rcases List.mem_append.mp member with before | here
    · exact buffered.batchable other before
    · exact List.mem_singleton.mp here ▸ batchable
  · rcases buffered.answerable with may | each
    · exact Or.inl may
    · rcases answerable with may | answered
      · exact Or.inl may
      · right
        intro other member
        rcases List.mem_append.mp member with before | here
        · exact each other before
        · exact List.mem_singleton.mp here ▸ answered

theorem all_answered {held : List (ReviewInput F)}
    (each : ∀ input ∈ held, ∃ value, Answered network mode model input value) :
    ∃ values, List.Forall₂ (Answered network mode model) held values := by
  induction held with
  | nil => exact ⟨[], List.Forall₂.nil⟩
  | cons input held ih =>
      obtain ⟨value, here⟩ := each input (by simp)
      obtain ⟨values, rest⟩ := ih fun other member => each other (List.mem_cons_of_mem _ member)
      exact ⟨value :: values, List.Forall₂.cons here rest⟩

/-- Nothing is under way on the CPU; every row is answered or held in the buffer. -/
def CpuKept (network : PredictionNetwork F V Logits) (mode : PredictManyForwardMode)
    (model : ModelState F V) (mayFail : Prop) (seen : List (ReviewInput F))
    (batch : PredictBatch F) (state : ModelState F V) : Prop :=
  state = model ∧ ∃ held : List (ReviewInput F),
    Account (Answered network mode model) (fun _ (_ : Empty) => False) seen
      batch.predictionProbabilities [] held ∧
    batch.batchRows = held.map (preparePredictRow model.1) ∧
    batch.batchIds = held.map normalizedReviewIds ∧
    Buffered network mode model mayFail held

def CpuFlushed (network : PredictionNetwork F V Logits) (mode : PredictManyForwardMode)
    (model : ModelState F V) (seen : List (ReviewInput F)) (batch : PredictBatch F)
    (state : ModelState F V) : Prop :=
  state = model ∧ batch.batchRows = [] ∧ batch.batchIds = [] ∧
    Account (Answered network mode model) (fun _ (_ : Empty) => False) seen
      batch.predictionProbabilities [] []

theorem CpuFlushed.kept {state : ModelState F V}
    (flushed : CpuFlushed network mode model seen batch state) :
    CpuKept network mode model mayFail seen batch state := by
  obtain ⟨same, rows, ids, account⟩ := flushed
  refine ⟨same, [], account, rows, ids, ?_, Or.inr ?_⟩ <;> simp

theorem flush_reaches (rowWise : RowWise network) (ready : mayFail ∨ BatchReady model)
    (kept : CpuKept network mode model mayFail seen batch model) :
    Reaches mayFail (CpuFlushed network mode model seen)
      (flushPredictBatch network mode batch model) := by
  obtain ⟨_, held, account, rows, ids, buffered⟩ := kept
  unfold flushPredictBatch
  by_cases empty : held = []
  · subst empty
    have noRows : batch.batchRows.isEmpty = true := by simp [rows]
    rw [if_pos noRows]
    exact reaches_pure ⟨rfl, rows, ids, account⟩
  · have someRows : batch.batchRows.isEmpty = false := by simpa [rows] using empty
    rw [if_neg (by simp [someRows]), bind_of_ok (current_apply model)]
    have answers : Reaches mayFail (fun values state => state = model ∧
        List.Forall₂ (Answered network mode model) held values)
        ((lift (batchProbabilities network mode model batch.batchRows batch.batchIds) :
          Method (ModelState F V) (List F)) model) := by
      rw [rows, ids]
      apply reaches_lift
      · intro values made
        exact ⟨rfl, batch_answers rowWise empty buffered.batchable made⟩
      · intro message failed
        rcases ready with may | ready
        · exact may
        · rcases buffered.answerable with may | each
          · exact may
          · obtain ⟨values, answered⟩ := all_answered each
            rw [batch_runs rowWise ready empty buffered.batchable answered] at failed
            cases failed
    apply reaches_bind answers
    intro values state arrived
    exact reaches_pure ⟨arrived.1, rfl, rfl, account_flush account arrived.2⟩

theorem on_features_current (model : ModelState F V) :
    (onFeatures current : Method (ModelState F V) (FeatureState F V)) model = (.ok model.1, model) :=
  rfl

theorem prepared_turn (rowWise : RowWise network) (ready : mayFail ∨ BatchReady model)
    (answerable : mayFail ∨ ∃ value, Answered network mode model input value)
    (kept : CpuKept network mode model mayFail seen batch model) :
    Reaches mayFail (CpuKept network mode model mayFail (seen ++ [input]))
      (predictPreparedTurn network mode batchSize batch
        (preparePredictRow model.1 input, normalizedReviewIds input) model) := by
  unfold predictPreparedTurn
  rw [bind_of_ok (on_features_current model)]
  cases batchable_or_not model.1 input with
  | inl batchable =>
      obtain ⟨_, held, account, rows, ids, buffered⟩ := kept
      have pushed : CpuKept network mode model mayFail (seen ++ [input])
          { batch with
            batchRows := batch.batchRows ++ [preparePredictRow model.1 input]
            batchIds := batch.batchIds ++ [normalizedReviewIds input] } model := by
        refine ⟨rfl, held ++ [input], account_hold account, ?_, ?_,
          buffered.push batchable answerable⟩
        · simp [rows]
        · simp [ids]
      rw [batchable.accepted, bind_of_ok (lift_ok _ _), if_pos rfl]
      dsimp only
      split
      · apply reaches_mono (flush_reaches rowWise ready pushed)
        intro flushed state reached
        exact reached.kept
      · exact reaches_pure pushed
  | inr unbatchable =>
      rw [unbatchable, bind_of_ok (lift_ok _ _), if_neg (by simp)]
      apply reaches_bind (flush_reaches rowWise ready kept)
      intro flushed state arrived
      obtain ⟨same, rows, ids, account⟩ := arrived
      rw [same]
      apply reaches_bind (scalar_reaches answerable)
      intro value state answered
      have after : CpuFlushed network mode model (seen ++ [input])
          { flushed with predictionProbabilities := flushed.predictionProbabilities ++ [value] }
          state := ⟨answered.1, rows, ids, account_answer account answered.2⟩
      exact reaches_pure after.kept

/-- The inputs from the first to the last, then the rest of the buffer. -/
theorem loop_reaches (rowWise : RowWise network) (ready : mayFail ∨ BatchReady model)
    {turn : PredictBatch F → ReviewInput F → Method (ModelState F V) (PredictBatch F)}
    {inputs : List (ReviewInput F)}
    (each : ∀ seen input, input ∈ inputs → ∀ batch, CpuKept network mode model mayFail seen batch
      model → Reaches mayFail (CpuKept network mode model mayFail (seen ++ [input]))
        (turn batch input model)) :
    Reaches mayFail (fun values state => state = model ∧
        List.Forall₂ (Answered network mode model) inputs values)
      ((do
        let batch ← inputs.foldlM turn ⟨[], [], []⟩
        let batch ← flushPredictBatch network mode batch
        return batch.predictionProbabilities : Method (ModelState F V) (List F)) model) := by
  have start : CpuKept network mode model mayFail [] ⟨[], [], []⟩ model :=
    CpuFlushed.kept ⟨rfl, rfl, rfl, account_start⟩
  have turns : ∀ seen input, input ∈ inputs → ∀ batch state,
      CpuKept network mode model mayFail seen batch state →
      Reaches mayFail (CpuKept network mode model mayFail (seen ++ [input]))
        (turn batch input state) := by
    intro seen input member batch state kept
    have same := kept.1
    rw [same] at kept ⊢
    exact each seen input member batch kept
  apply reaches_bind (reaches_foldlM [] turns start)
  intro batch state kept
  have same := kept.1
  rw [same] at kept ⊢
  apply reaches_bind (flush_reaches rowWise ready kept)
  intro flushed state arrived
  exact reaches_pure ⟨arrived.1, account_settled arrived.2.2.2⟩

theorem inputs_reach (rowWise : RowWise network) (ready : mayFail ∨ BatchReady model)
    {inputs : List (ReviewInput F)}
    (answerable : mayFail ∨ ∀ input ∈ inputs, ∃ value, Answered network mode model input value) :
    Reaches mayFail (fun values state => state = model ∧
        List.Forall₂ (Answered network mode model) inputs values)
      ((do
        let batch ← inputs.foldlM (predictInputTurn network mode batchSize) ⟨[], [], []⟩
        let batch ← flushPredictBatch network mode batch
        return batch.predictionProbabilities : Method (ModelState F V) (List F)) model) := by
  apply loop_reaches rowWise ready
  intro seen input member batch kept
  unfold predictInputTurn
  rw [bind_of_ok (on_features_current model), prepared_input, bind_of_ok (lift_ok _ _)]
  exact prepared_turn rowWise ready (answerable.imp_right fun each => each input member) kept

theorem prepared_reach (rowWise : RowWise network) (ready : mayFail ∨ BatchReady model)
    {inputs : List (ReviewInput F)}
    (answerable : mayFail ∨ ∀ input ∈ inputs, ∃ value,
      Answered network .lightning model input value) :
    Reaches mayFail (fun values state => state = model ∧
        List.Forall₂ (Answered network .lightning model) inputs values)
      (predictPreparedReviewsWithStateSequential network batchSize
        (inputs.map fun input => (preparePredictRow model.1 input, normalizedReviewIds input))
        model) := by
  unfold predictPreparedReviewsWithStateSequential
  simp only [List.foldlM_map]
  apply loop_reaches rowWise ready
  intro seen input member batch kept
  exact prepared_turn rowWise ready (answerable.imp_right fun each => each input member) kept

end Loop

section Parallel

variable [ExactFeatureFloat F V] {network : PredictionNetwork F V Logits}
  {switches : PredictManySwitches} {model : ModelState F V} {held inputs : List (ReviewInput F)}
  {values : List F} {mayFail : Prop} {batchSize : Nat}

def preparedRow (state : FeatureState F V) (input : ReviewInput F) : PreparedRow F × ReviewIds :=
  (preparePredictRow state input, normalizedReviewIds input)

theorem lightning_batch_answers (rowWise : RowWise network) (nonempty : held ≠ [])
    (batchable : ∀ input ∈ held, Batchable model.1 input)
    (made : predictPreparedBatchLightning network switches model (held.map (preparedRow model.1)) =
      .ok values) :
    List.Forall₂ (Answered network .lightning model) held values := by
  have rowsOf : (held.map (preparedRow model.1)).map Prod.fst =
      held.map (preparePredictRow model.1) := by simp [preparedRow]
  have idsOf : (held.map (preparedRow model.1)).map Prod.snd = held.map normalizedReviewIds := by
    simp [preparedRow]
  have columns : (held.map (heldRow model)).map Prod.fst = held.map (queryFeatures model.1) := by
    simp [heldRow]
  have someRows : held.map (heldRow model) ≠ [] := by simpa using nonempty
  unfold predictPreparedBatchLightning at made
  rw [rowsOf, idsOf, batchable_feature_vectors batchable] at made
  obtain ⟨features, vectors, made⟩ := bind_ok.mp made
  cases vectors
  obtain ⟨features, tensor, made⟩ := bind_ok.mp made
  rw [tensor_2d_ok tensor, ← columns] at made
  obtain ⟨logits, forward, made⟩ := bind_ok.mp made
  obtain ⟨probabilities, outcome, made⟩ := bind_ok.mp made
  rw [checked_ok made]
  apply (rows_answered batchable).mp
  unfold lightningLogits at forward
  split at forward
  · apply rowWise.modulewise (held.map (heldRow model))
      (batchModuleStateInputs model.2 (held.map normalizedReviewIds)) probabilities someRows
    · intro moduleIndex given found
      rw [batch_module_ok found, List.map_map, List.map_map]
      rfl
    · unfold batchOutcome
      rw [forward]
      exact outcome
  · obtain ⟨states, found, forward⟩ := bind_ok.mp forward
    apply (rowWise.batch .lightning (held.map (heldRow model)) (some states) probabilities
      someRows (Or.inl ?_)).mp
    · unfold batchOutcome
      rw [forward]
      exact outcome
    · rw [batch_states_ok found]
      simp [heldRow]

theorem lightning_batch_runs (rowWise : RowWise network) (ready : BatchReady model)
    (nonempty : held ≠ []) (batchable : ∀ input ∈ held, Batchable model.1 input)
    (answered : List.Forall₂ (Answered network .lightning model) held values) :
    predictPreparedBatchLightning network switches model (held.map (preparedRow model.1)) =
      .ok values := by
  have rowsOf : (held.map (preparedRow model.1)).map Prod.fst =
      held.map (preparePredictRow model.1) := by simp [preparedRow]
  have idsOf : (held.map (preparedRow model.1)).map Prod.snd = held.map normalizedReviewIds := by
    simp [preparedRow]
  have columns : (held.map (heldRow model)).map Prod.fst = held.map (queryFeatures model.1) := by
    simp [heldRow]
  have someRows : held.map (heldRow model) ≠ [] := by simpa using nonempty
  have someIds : held.map normalizedReviewIds ≠ [] := by simpa using nonempty
  have rows := (rows_answered batchable).mpr answered
  have checked : checkedBatch values (held.map (preparedRow model.1)).length = .ok values := by
    unfold checkedBatch
    rw [if_neg]
    simpa using answered.length_eq.symm
  have modules : ∀ moduleIndex < 5, batchModuleStateInputs model.2 (held.map normalizedReviewIds)
      moduleIndex = .ok ((held.map (heldRow model)).map fun row =>
        moduleInput moduleIndex row.2) := by
    intro moduleIndex inRange
    rw [batch_module_held inRange someIds (ready.rows batchable), List.map_map, List.map_map]
    rfl
  have modulewise := rowWise.modulewiseRuns _ _ values someRows modules rows
  have states := batch_states_held someIds (ready.rows batchable)
  have packed := (rowWise.batch .lightning (held.map (heldRow model))
    (some ((held.map normalizedReviewIds).map (stateInputs model.2))) values someRows
    (Or.inl (by simp [heldRow]))).mpr rows
  unfold predictPreparedBatchLightning
  rw [rowsOf, idsOf, batchable_feature_vectors batchable]
  change (tensorFrom2d (held.map (queryFeatures model.1)) "predict_features" >>= _) = _
  rw [ready.tensor nonempty batchable]
  rw [columns] at modulewise packed
  have outcome : batchOutcome network (lightningLogits network switches model.2
      (held.map (queryFeatures model.1)) (held.map normalizedReviewIds)) = .ok values := by
    unfold lightningLogits
    split
    · exact modulewise
    · rw [states]
      exact packed
  unfold batchOutcome at outcome
  obtain ⟨logits, forward, outcome⟩ := bind_ok.mp outcome
  simp only [bind, Except.bind, forward, outcome]
  exact checked

/-- The ranges of the parallel form cut the rows into consecutive slices. -/
theorem ranges_cover {Row : Type} (rows : List Row) (positive : 0 < batchSize) :
    ((batchRanges rows.length batchSize).map fun range =>
      (rows.drop range.1).take (range.2 - range.1)).flatten = rows := by
  have slices : (batchRanges rows.length batchSize).map
      (fun range => (rows.drop range.1).take (range.2 - range.1)) =
      (List.range ((rows.length + batchSize - 1) / batchSize)).map
        fun block => slice rows (block * batchSize) batchSize := by
    unfold batchRanges
    rw [List.map_map]
    apply List.map_congr_left
    intro block _
    unfold slice
    simp only [Function.comp]
    rw [List.take_eq_take_iff, List.length_drop]
    omega
  have enough : rows.length ≤ (rows.length + batchSize - 1) / batchSize * batchSize := by
    have split := Nat.div_add_mod (rows.length + batchSize - 1) batchSize
    have rest := Nat.mod_lt (rows.length + batchSize - 1) positive
    rw [Nat.mul_comm] at split
    omega
  rw [slices, slices_flatten, List.take_of_length_le enough]

theorem range_nonempty {rows batchSize : Nat} (positive : 0 < batchSize) {range : Nat × Nat}
    (member : range ∈ batchRanges rows batchSize) : range.1 < rows ∧ range.1 < range.2 := by
  obtain ⟨block, inside, same⟩ := List.mem_map.mp member
  have below : block * batchSize < rows := by
    have bound := List.mem_range.mp inside
    have steps := (Nat.lt_div_iff_mul_lt positive).mp bound
    omega
  rw [← same]
  dsimp only
  omega

theorem batchable_rows (model : ModelState F V) (inputs : List (ReviewInput F)) :
    ∃ flags : List Bool, flags.length = inputs.length ∧
      inputs.mapM (batchablePrepared model.1) =
        .ok ((inputs.map (preparedRow model.1)).zip flags) ∧
      (flags.all id = true → ∀ input ∈ inputs, Batchable model.1 input) := by
  induction inputs with
  | nil => exact ⟨[], rfl, rfl, by simp⟩
  | cons input inputs ih =>
      obtain ⟨flags, sameLength, rest, all⟩ := ih
      have here : ∃ flag, batchablePrepared model.1 input = .ok (preparedRow model.1 input, flag) ∧
          (flag = true → Batchable model.1 input) := by
        unfold batchablePrepared
        rw [prepared_input]
        simp only [bind, Except.bind]
        cases batchable_or_not model.1 input with
        | inl batchable => exact ⟨true, by rw [batchable.accepted]; rfl, fun _ => batchable⟩
        | inr unbatchable => exact ⟨false, by rw [unbatchable]; rfl, by simp⟩
      obtain ⟨flag, row, accepted⟩ := here
      refine ⟨flag :: flags, by simp [sameLength], ?_, ?_⟩
      · rw [List.mapM_cons, row, rest]
        rfl
      · intro every other member
        simp only [List.all_cons, id, Bool.and_eq_true] at every
        rcases List.mem_cons.mp member with same | later
        · exact same ▸ accepted every.1
        · exact all every.2 other later

/-- The batches of the parallel form, each a slice of the rows. -/
theorem ranges_reach (rowWise : RowWise network) (positive : 0 < batchSize)
    (ready : mayFail ∨ BatchReady model) (batchable : ∀ input ∈ inputs, Batchable model.1 input)
    (answerable : mayFail ∨ ∀ input ∈ inputs, ∃ value,
      Answered network .lightning model input value) :
    Reaches mayFail (fun batches state => state = model ∧
        List.Forall₂ (Answered network .lightning model) inputs batches.flatten)
      ((lift ((batchRanges (inputs.map (preparedRow model.1)).length batchSize).mapM fun range =>
        predictPreparedBatchLightning network switches model
          (((inputs.map (preparedRow model.1)).drop range.1).take (range.2 - range.1))) :
        Method (ModelState F V) (List (List F))) model) := by
  have slice : ∀ range : Nat × Nat,
      ((inputs.map (preparedRow model.1)).drop range.1).take (range.2 - range.1) =
        ((inputs.drop range.1).take (range.2 - range.1)).map (preparedRow model.1) := by
    intro range
    rw [List.map_take, List.map_drop]
  have inside : ∀ (range : Nat × Nat) (input : ReviewInput F),
      input ∈ (inputs.drop range.1).take (range.2 - range.1) → input ∈ inputs :=
    fun _ _ member => List.mem_of_mem_drop (List.mem_of_mem_take member)
  have nonempty : ∀ range ∈ batchRanges inputs.length batchSize,
      (inputs.drop range.1).take (range.2 - range.1) ≠ [] := by
    intro range member
    have bounds := range_nonempty positive member
    apply List.ne_nil_of_length_pos
    rw [List.length_take, List.length_drop]
    omega
  simp only [slice, List.length_map]
  apply reaches_lift
  · intro batches made
    refine ⟨rfl, ?_⟩
    have pairs := (List.forall₂_and_left _ _).mpr ⟨nonempty, mapM_ok made⟩
    have slices : List.Forall₂ (List.Forall₂ (Answered network .lightning model))
        ((batchRanges inputs.length batchSize).map fun range =>
          (inputs.drop range.1).take (range.2 - range.1)) batches := by
      rw [List.forall₂_map_left_iff]
      apply pairs.imp
      intro range values answered
      exact lightning_batch_answers rowWise answered.1
        (fun input member => batchable input (inside range input member)) answered.2
    have joined := List.rel_flatten slices
    rw [ranges_cover inputs positive] at joined
    exact joined
  · intro message failed
    rcases ready with may | ready
    · exact may
    · rcases answerable with may | each
      · exact may
      · obtain ⟨range, member, stopped⟩ := mapM_error_mem failed
        obtain ⟨values, answered⟩ := all_answered fun input member =>
          each input (inside range input member)
        rw [lightning_batch_runs rowWise ready (nonempty range member)
          (fun input member => batchable input (inside range input member)) answered] at stopped
        cases stopped

theorem parallel_reaches (rowWise : RowWise network) (positive : 0 < batchSize)
    (ready : mayFail ∨ BatchReady model) (numThreads : Option Nat)
    (answerable : mayFail ∨ ∀ input ∈ inputs, ∃ value,
      Answered network .lightning model input value) :
    Reaches mayFail (fun values state => state = model ∧
        List.Forall₂ (Answered network .lightning model) inputs values)
      (predictReviewsWithStateParallelBatches network switches inputs batchSize numThreads
        model) := by
  obtain ⟨flags, sameLength, rows, all⟩ := batchable_rows model inputs
  have preparedRows : ((inputs.map (preparedRow model.1)).zip flags).map Prod.fst =
      inputs.map (preparedRow model.1) := by
    rw [List.map_fst_zip]
    simp [sameLength]
  have rowFlags : ((inputs.map (preparedRow model.1)).zip flags).map Prod.snd = flags := by
    rw [List.map_snd_zip]
    simp [sameLength]
  unfold predictReviewsWithStateParallelBatches
  rw [bind_of_ok (current_apply model), rows, bind_of_ok (lift_ok _ _), preparedRows]
  by_cases empty : inputs = []
  · rw [empty]
    exact reaches_pure ⟨rfl, List.Forall₂.nil⟩
  · rw [if_neg (by simpa using empty)]
    split
    · exact prepared_reach rowWise ready answerable
    · rename_i parallel
      push Not at parallel
      have everyFlag : flags.all id = true := by
        rw [← rowFlags, List.all_map]
        simpa using parallel.1
      apply reaches_bind (ranges_reach rowWise positive ready (all everyFlag) answerable)
      intro batches state arrived
      exact reaches_pure arrived

end Parallel

section Entries

variable [ExactFeatureFloat F V] {network : PredictionNetwork F V Logits}
  {switches : PredictManySwitches} {state model : ModelState F V} {inputs : List (ReviewInput F)}
  {mayFail : Prop} {batchSize : Nat} {numThreads : Option Nat} {lightning profiled : Bool}

theorem cpu_reaches (rowWise : RowWise network) (positive : 0 < batchSize)
    (threads : validateNumThreads numThreads = .ok ())
    (materialized : onRnn materializeFlatCpuState state = (.ok (), model))
    (ready : mayFail ∨ BatchReady model)
    (answerable : mayFail ∨ ∀ input ∈ inputs, ∃ value,
      Answered network (.fromLightning lightning) model input value) :
    Reaches mayFail (fun values _ =>
        List.Forall₂ (Answered network (.fromLightning lightning) model) inputs values)
      (predictReviewInputsCpu network switches inputs batchSize numThreads lightning profiled
        state) := by
  unfold predictReviewInputsCpu
  rw [if_neg (by omega), threads, bind_of_ok (lift_ok _ _), bind_of_ok materialized]
  split
  · rename_i parallel
    rw [parallel.1] at answerable ⊢
    apply reaches_mono (parallel_reaches rowWise positive ready numThreads answerable)
    intro values reached arrived
    exact arrived.2
  · apply reaches_mono (inputs_reach rowWise ready answerable)
    intro values reached arrived
    exact arrived.2

theorem caller_profiled_reaches (rowWise : RowWise network) (positive : 0 < batchSize)
    (threads : validateNumThreads numThreads = .ok ())
    (materialized : onRnn materializeFlatCpuState state = (.ok (), model))
    (ready : mayFail ∨ BatchReady model)
    (answerable : mayFail ∨ ∀ input ∈ inputs, ∃ value,
      Answered network .lightning model input value) :
    Reaches mayFail (fun values _ =>
        List.Forall₂ (Answered network .lightning model) inputs values)
      (predictReviewInputsCpuFastCallerProfiled network switches inputs batchSize numThreads
        state) := by
  unfold predictReviewInputsCpuFastCallerProfiled
  rw [if_neg (by omega), threads, bind_of_ok (lift_ok _ _), bind_of_ok materialized]
  apply reaches_mono (parallel_reaches rowWise positive ready numThreads answerable)
  intro values reached arrived
  exact arrived.2

end Entries

end RwkvSrs.CpuBatches
