import RwkvSrs.SelectiveRestore

/-!
What a restored runtime is like. The reader admits only tensors of the declared
ranks and sizes, encodings of the right dimension and generators in range, so
that every runtime restored from any file, of either version, can be saved. A
file that was loaded, whatever wrote it, is therefore replaced by one that is
restored to the same runtime.
-/

namespace RwkvSrs.LoadedRuntimes

open Std CheckpointBytes CheckpointPieces CheckpointReader CheckpointRoundTrip CheckpointSections
open DeterministicState FallibleMethod GeneratorStates LittleEndian ModuleState NativeRnnState
open ReaderRules RestoreAtomicity RuntimeRestore SectionReadBack SelectiveReaders SelectiveRestore

set_option autoImplicit false

section Gives

variable {Value Next : Type}

/-- Every value that is read is admitted. -/
structure Gives (admitted : Value → Prop) (read : Reader Value) : Prop where
  admits : ∀ cursor value reached, read cursor = .ok (value, reached) → admitted value

theorem gives_pure {admitted : Value → Prop} {value : Value} (holds : admitted value) :
    Gives admitted (pure value : Reader Value) := by
  apply Gives.mk
  intro cursor returned reached ok
  cases ok
  exact holds

theorem gives_fail (admitted : Value → Prop) (message : String) :
    Gives admitted (fail message : Reader Value) := by
  apply Gives.mk
  intro cursor value reached ok
  cases ok

theorem gives_bind {passed : Value → Prop} {admitted : Next → Prop} {first : Reader Value}
    {next : Value → Reader Next} (head : Gives passed first)
    (rest : ∀ value, passed value → Gives admitted (next value)) :
    Gives admitted (first >>= next) := by
  apply Gives.mk
  intro cursor result last ok
  obtain ⟨value, reached, firstOk, nextOk⟩ := bind_read.mp ok
  have passes := head.admits cursor value reached firstOk
  exact (rest value passes).admits reached result last nextOk

theorem gives_anything (read : Reader Value) : Gives (fun _ => True) read :=
  ⟨fun _ _ _ _ => trivial⟩

theorem gives_after {admitted : Next → Prop} {first : Reader Value} {next : Value → Reader Next}
    (rest : ∀ value, Gives admitted (next value)) : Gives admitted (first >>= next) :=
  gives_bind (gives_anything first) fun value _ => rest value

theorem gives_weaken {passed admitted : Value → Prop} {read : Reader Value}
    (gives : Gives passed read) (weaker : ∀ value, passed value → admitted value) :
    Gives admitted read :=
  ⟨fun cursor value reached ok => weaker value (gives.admits cursor value reached ok)⟩

theorem gives_exact (count : Nat) (field : String) :
    Gives (fun bytes => bytes.length = count) (binReadExact count field) := by
  apply Gives.mk
  intro cursor bytes reached ok
  simp only [binReadExact] at ok
  split at ok
  case isTrue enough =>
    cases ok
    exact List.length_take_of_le enough
  case isFalse short => cases ok

theorem gives_usize (field : String) : Gives (fun value => value < 2 ^ 64) (binReadUsize field) := by
  apply gives_bind (gives_exact 8 field)
  intro bytes sized
  apply gives_pure
  have bound := from_le_bound bytes
  rw [sized] at bound
  exact bound

theorem gives_items {admitted : Value → Prop} {read : Nat → Reader Value}
    (item : ∀ index, Gives admitted (read index)) (index count : Nat) :
    Gives (fun values => values.length = count ∧ ∀ value ∈ values, admitted value)
      (readItems read index count) := by
  induction count generalizing index with
  | zero =>
      apply gives_pure
      simp
  | succ count ih =>
      apply gives_bind (item index)
      intro value holds
      apply gives_bind (ih (index + 1))
      intro values rest
      apply gives_pure
      refine ⟨congrArg (· + 1) rest.1, ?_⟩
      intro found member
      rcases List.mem_cons.mp member with here | there
      · rw [here]
        exact holds
      · exact rest.2 found there

/-- What every collected entry is like, every entry of the map is like. -/
theorem collected_admitted {admitted : Value → Prop} (selectedIds : Option (ExtTreeSet Int64))
    {kept : ExtTreeMap Int64 Value} {entries : List (Int64 × Value)}
    (held : ∀ (identity : Int64) value, kept[identity]? = some value → admitted value)
    (each : ∀ entry ∈ entries, admitted entry.2) :
    ∀ (identity : Int64) value,
      (collectMap selectedIds kept entries)[identity]? = some value → admitted value := by
  induction entries generalizing kept with
  | nil => exact held
  | cons entry entries ih =>
      apply ih
      · intro identity value found
        dsimp only at found
        split at found
        · rw [ExtTreeMap.getElem?_insert] at found
          split at found
          · cases found
            exact each entry List.mem_cons_self
          · exact held identity value found
        · exact held identity value found
      · intro other member
        exact each other (List.mem_cons_of_mem entry member)

end Gives

theorem product_counted {dims : List Nat} {count : Nat} (counted : checkedProduct dims = some count) :
    count = dims.prod := by
  have from_ : ∀ (dims : List Nat) (start count : Nat),
      dims.foldlM (fun count dim => if count * dim < 2 ^ 64 then some (count * dim) else none)
        start = some count → count = start * dims.prod := by
    intro dims
    induction dims with
    | nil =>
        intro start count same
        cases same
        simp
    | cons dim dims ih =>
        intro start count same
        rw [List.foldlM_cons] at same
        by_cases small : start * dim < 2 ^ 64
        · rw [if_pos small] at same
          have rest := ih (start * dim) count same
          rw [rest, List.prod_cons, Nat.mul_assoc]
        · rw [if_neg small] at same
          cases same
  have whole := from_ dims 1 count counted
  rw [whole, Nat.one_mul]

theorem gives_tensor (field : String) (expectedRank : Nat) :
    Gives (StorableTensor expectedRank) (binReadTensor field expectedRank) := by
  apply gives_after
  intro rank
  by_cases ranked : rank = expectedRank
  · rw [if_neg (not_not.mpr ranked)]
    apply gives_bind (gives_items (fun index => gives_usize _) 0 rank)
    intro dims dimensions
    cases counted : checkedProduct dims with
    | none => apply gives_fail
    | some expectedValues =>
        apply gives_after
        intro valueCount
        split
        · apply gives_fail
        · apply gives_after
          intro values
          cases shaped : Tensor.fromVec values dims with
          | error message => apply gives_fail
          | ok tensor =>
              apply gives_pure
              have same : tensor.dims = dims := by
                rw [Tensor.fromVec] at shaped
                split at shaped
                · cases shaped
                  rfl
                · cases shaped
              apply StorableTensor.mk
              · rw [same, dimensions.1, ranked]
              · rw [same]
                exact dimensions.2
              · rw [same, counted, product_counted counted]
  · rw [if_pos ranked]
    apply gives_fail

theorem gives_tensor_vec (field : String) (expectedRank : Nat) :
    Gives (fun tensors => ∀ tensor ∈ tensors, StorableTensor expectedRank tensor)
      (binReadTensorVec field expectedRank) := by
  apply gives_after
  intro len
  apply gives_after
  intro _
  apply gives_weaken (gives_items (fun index => gives_tensor _ expectedRank) 0 len)
  intro tensors each
  exact each.2

theorem gives_entity (field : String) : Gives StorableState (binReadEntityState field) := by
  apply gives_bind (gives_tensor_vec _ 3)
  intro timeX shifts
  apply gives_bind (gives_tensor_vec _ 5)
  intro timeRecurrent matrices
  apply gives_bind (gives_tensor_vec _ 3)
  intro channel channels
  cases parts : nativeModuleStateFromParts timeX timeRecurrent channel field with
  | error message => apply gives_fail
  | ok state =>
      apply gives_pure
      rw [nativeModuleStateFromParts] at parts
      split at parts
      case isTrue mismatched => cases parts
      case isFalse matched =>
        cases parts
        rw [not_or, not_not, not_not] at matched
        exact ⟨matched.1.symm, matched.2.symm, shifts, matrices, channels⟩

theorem gives_optional_state (field : String) :
    Gives (fun state => ∀ held, state = some held → StorableState held)
      (binReadOptionalState field) := by
  apply gives_after
  intro tag
  split
  · apply gives_pure
    intro held none
    cases none
  · apply gives_bind (gives_entity field)
    intro state storable
    apply gives_pure
    intro held same
    cases same
    exact storable
  · apply gives_fail

theorem empty_storable : StorableMap ∅ := by
  intro identity state found
  simp at found

theorem gives_state_map (field : String) : Gives StorableMap (binReadStateMap field) := by
  apply gives_after
  intro len
  apply gives_bind
  · apply gives_items
    intro index
    apply gives_after
    intro id
    apply gives_bind (gives_entity _)
    intro state storable
    exact @gives_pure (Int64 × EntityState) (fun entry => StorableState entry.2) (id, state) storable
  · intro entries storable
    apply gives_pure
    exact collected_admitted none empty_storable storable.2

theorem gives_limited {admitted : EntityState → Prop} {read : Reader EntityState}
    (gives : Gives admitted read) (limit : Nat) :
    Gives (fun pair => admitted pair.1) (limited limit read) := by
  apply Gives.mk
  intro cursor pair reached ok
  simp only [limited] at ok
  split at ok
  case h_1 found stopped innerOk =>
    cases ok
    exact gives.admits _ found stopped innerOk
  case h_2 => cases ok

theorem gives_indexed_entry (field : String) (selectedIds : Option (ExtTreeSet Int64))
    {reached : IndexedPosition} (held : StorableMap reached.states) (entry : Int64 × Nat) :
    Gives (fun next => StorableMap next.states)
      (binReadIndexedEntry field selectedIds reached entry) := by
  obtain ⟨identity, byteLen⟩ := entry
  have stored : Gives (fun next : IndexedPosition => StorableMap next.states) (do
      let read ← limited byteLen (binReadEntityState (field ++ "[" ++ toString identity ++ "]"))
      if read.2 ≠ 0 then
        fail (field ++ "[" ++ toString identity ++ "]" ++ " expected " ++ toString byteLen ++
          " bytes, consumed " ++ toString (byteLen - read.2))
      else return ⟨reached.offset + byteLen, reached.offset + byteLen,
        reached.states.insert identity read.1⟩) := by
    apply gives_bind (gives_limited (gives_entity _) byteLen)
    intro read storable
    split
    · apply gives_fail
    · apply gives_pure
      intro other state found
      rw [ExtTreeMap.getElem?_insert] at found
      split at found
      · cases found
        exact storable
      · exact held other state found
  simp only [binReadIndexedEntry]
  split
  · apply gives_fail
  · split
    · split
      · apply gives_after
        intro _
        exact stored
      · exact stored
    · exact gives_pure held

theorem gives_indexed_entries (field : String) (selectedIds : Option (ExtTreeSet Int64))
    (index : List (Int64 × Nat)) {reached : IndexedPosition} (held : StorableMap reached.states) :
    Gives (fun next => StorableMap next.states)
      (index.foldlM (binReadIndexedEntry field selectedIds) reached) := by
  induction index generalizing reached with
  | nil => exact gives_pure held
  | cons entry index ih =>
      rw [List.foldlM_cons]
      apply gives_bind (gives_indexed_entry field selectedIds held entry)
      intro next nextHeld
      exact ih nextHeld

theorem gives_indexed_state_map (field : String) (selectedIds : Option (ExtTreeSet Int64)) :
    Gives StorableMap (binReadIndexedStateMap field selectedIds) := by
  apply gives_after
  intro len
  apply gives_after
  intro _
  apply gives_after
  intro index
  apply gives_after
  intro dataStart
  apply gives_bind (gives_indexed_entries field selectedIds index empty_storable)
  intro reached held
  split
  · apply gives_after
    intro _
    exact gives_pure held
  · exact gives_pure held

theorem gives_id_encoding (submodule : IdSubmodule) (index : Nat) :
    Gives (fun entry => entry.2.length = submodule.dim) (binReadIdEncoding submodule index) := by
  apply gives_after
  intro id
  apply gives_after
  intro valueCount
  by_cases sized : valueCount = submodule.dim
  · rw [if_neg (not_not.mpr sized)]
    apply gives_bind (gives_items (fun _ => gives_anything (binReadF32 _)) 0 valueCount)
    intro values counted
    apply gives_pure
    exact counted.1.trans sized
  · rw [if_pos sized]
    apply gives_fail

theorem gives_submodule (scope : Option CheckpointScope) {out : IdEncodings Binary32}
    (dimensioned : Dimensioned out) :
    Gives Dimensioned (binReadSubmoduleEncodings scope out) := by
  apply gives_after
  intro name
  cases idSubmodules.find? fun submodule => submodule.name == name with
  | none => apply gives_fail
  | some submodule =>
      apply gives_after
      intro encodingCount
      apply gives_bind (gives_items (gives_id_encoding submodule) 0 encodingCount)
      intro entries sized
      apply gives_pure
      intro other identity encoding found
      dsimp only at found
      split at found
      case isTrue same =>
        rw [same]
        exact collected_admitted _ (dimensioned submodule) sized.2 identity encoding found
      case isFalse different => exact dimensioned other identity encoding found

theorem gives_modules (scope : Option CheckpointScope) (count : Nat) {out : IdEncodings Binary32}
    (dimensioned : Dimensioned out) : Gives Dimensioned (readModules scope count out) := by
  induction count generalizing out with
  | zero => exact gives_pure dimensioned
  | succ count ih =>
      apply gives_bind (gives_submodule scope dimensioned)
      intro next nextDimensioned
      exact ih nextDimensioned

theorem empty_dimensioned : Dimensioned (emptyIdEncodings : IdEncodings Binary32) := by
  intro submodule identity encoding found
  simp [emptyIdEncodings] at found

theorem gives_id_encodings (scope : Option CheckpointScope) :
    Gives Dimensioned (binReadIdEncodingsSelected scope) := by
  apply gives_after
  intro moduleCount
  exact gives_modules scope moduleCount empty_dimensioned

structure StorableContents (contents : CheckpointContents) : Prop where
  encodings : Dimensioned contents.idEncodings
  cards : StorableMap contents.cardStates
  notes : StorableMap contents.noteStates
  decks : StorableMap contents.deckStates
  presets : StorableMap contents.presetStates
  globalState : ∀ held, contents.globalState = some held → StorableState held

theorem gives_contents_v2 (scope : Option CheckpointScope) :
    Gives StorableContents (readContentsV2 scope) := by
  iterate 13
    apply gives_after
    intro _
  apply gives_bind (gives_id_encodings scope)
  intro idEncodings encodings
  apply gives_after
  intro rngState
  apply gives_bind (gives_indexed_state_map _ _)
  intro cardStates cards
  apply gives_bind (gives_indexed_state_map _ _)
  intro noteStates notes
  apply gives_bind (gives_indexed_state_map _ _)
  intro deckStates decks
  apply gives_bind (gives_indexed_state_map _ _)
  intro presetStates presets
  apply gives_bind (gives_optional_state _)
  intro globalState global
  apply gives_pure
  exact ⟨encodings, cards, notes, decks, presets, global⟩

theorem gives_contents_v1 : Gives StorableContents readContentsV1 := by
  iterate 12
    apply gives_after
    intro _
  apply gives_bind (gives_id_encodings none)
  intro idEncodings encodings
  apply gives_after
  intro rngState
  apply gives_bind (gives_state_map _)
  intro cardStates cards
  apply gives_bind (gives_state_map _)
  intro noteStates notes
  apply gives_bind (gives_state_map _)
  intro deckStates decks
  apply gives_bind (gives_state_map _)
  intro presetStates presets
  apply gives_bind (gives_optional_state _)
  intro globalState global
  apply gives_pure
  exact ⟨encodings, cards, notes, decks, presets, global⟩

theorem contents_storable {contents : CheckpointContents} (storable : StorableContents contents)
    {idRng : TorchRng.TorchMt19937} (generator : Bounded idRng) (keys : RecurrentStateKeys) :
    Storable (checkpointFeatureState contents keys idRng) (checkpointRnn contents) := by
  apply Storable.mk
  · intro entity identity both
    have absent : identity ∉ (∅ : FlatMap) := ExtTreeMap.not_mem_empty
    exact absent both.2
  · exact Or.inr rfl
  · intro entity
    cases entity with
    | card => exact storable.cards
    | note => exact storable.notes
    | deck => exact storable.decks
    | preset => exact storable.presets
  · exact storable.globalState
  · exact storable.encodings
  · exact generator

theorem retained_storable {states : CanonicalMap} (storable : StorableMap states)
    (ids : ExtTreeSet Int64) : StorableMap (retainMap states ids) := by
  intro identity state found
  rw [retained_entry] at found
  split at found
  · exact storable identity state found
  · cases found

theorem filtered_storable {Frame Session : Type} {runtime : RestoredRuntime Frame Session}
    (storable : Storable runtime.deterministic runtime.rnn) (scope : CheckpointScope) :
    Storable (filterRuntimeState scope runtime).deterministic
      (filterRuntimeState scope runtime).rnn := by
  apply Storable.mk
  · intro entity identity both
    apply storable.once entity identity
    have kept := (retained_keys (runtime.rnn.states entity) _ identity).mp both.1
    exact ⟨kept.1, both.2⟩
  · exact storable.globalOnce
  · intro entity
    exact retained_storable (storable.states entity) _
  · exact storable.globalState
  · intro submodule identity encoding found
    have kept : (retainMap (runtime.deterministic.idEncodings submodule)
        (scope.idsForSubmodule submodule))[identity]? = some encoding := found
    rw [retained_entry] at kept
    split at kept
    · exact storable.dimensioned submodule identity encoding kept
    · cases kept
  · exact storable.generator

section Restored

variable {Frame Session : Type}

theorem restored_storable {bytes : List UInt8} {scope : Option CheckpointScope}
    {runtime restored : RestoredRuntime Frame Session}
    (ok : restoreRuntimeCheckpointBin bytes scope runtime = (.ok (), restored)) :
    Storable restored.deterministic restored.rnn := by
  rw [restoreRuntimeCheckpointBin.eq_def] at ok
  obtain ⟨read, middle, _, rest⟩ := bind_ok_steps ok
  obtain ⟨version, cursor⟩ := read
  dsimp only at rest
  by_cases legacy : version = legacyCheckpointBinVersion
  · rw [if_pos legacy] at rest
    obtain ⟨_, loaded, loadedOk, narrowed⟩ := bind_ok_steps rest
    have storable : Storable loaded.deterministic loaded.rnn := by
      obtain ⟨contents, _, contentsLifted, filled⟩ := bind_ok_steps loadedOk
      obtain ⟨contentsRead, _⟩ := lift_ok_value contentsLifted
      obtain ⟨idRng, _, generatorLifted, updated⟩ := bind_ok_steps filled
      obtain ⟨generatorRead, _⟩ := lift_ok_value generatorLifted
      cases updated
      have given := gives_contents_v1.admits cursor contents.1 contents.2 contentsRead
      exact contents_storable given (accepted_state generatorRead).bounded _
    cases scope with
    | none =>
        cases narrowed
        exact storable
    | some scope =>
        cases narrowed
        exact filtered_storable storable scope
  · rw [if_neg legacy] at rest
    obtain ⟨contents, _, contentsLifted, filled⟩ := bind_ok_steps rest
    obtain ⟨contentsRead, _⟩ := lift_ok_value contentsLifted
    obtain ⟨idRng, _, generatorLifted, updated⟩ := bind_ok_steps filled
    obtain ⟨generatorRead, _⟩ := lift_ok_value generatorLifted
    cases updated
    have given := (gives_contents_v2 scope).admits cursor contents.1 contents.2 contentsRead
    exact contents_storable given (accepted_state generatorRead).bounded _

theorem call_restored_storable {bytes : List UInt8} {lists : IdentityLists}
    {runtime restored : RestoredRuntime Frame Session}
    (accepted : restoreCheckpointBin (.ok bytes) lists runtime = (.ok (), restored)) :
    Storable restored.deterministic restored.rnn := by
  cases read : checkpointScopeFromOptionalIdentityLists lists with
  | ok scope =>
      obtain ⟨_, loaded, loadedOk, same⟩ := (restore_call_ok read).mp accepted
      have storable := restored_storable loadedOk
      rw [same]
      exact storable
  | error message =>
      obtain ⟨_, _, _, rest⟩ := bind_ok_steps accepted
      rw [read] at rest
      obtain ⟨_, _, lifted, _⟩ := bind_ok_steps rest
      cases lifted

end Restored

end RwkvSrs.LoadedRuntimes
