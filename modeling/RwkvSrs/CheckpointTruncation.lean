import RwkvSrs.SelectiveRestore

/-!
Files that end early and files that go on. A reader never looks behind what it
reads, so a file that is accepted is accepted with bytes appended to it. The file
a runtime is saved to is read to its last byte; a file that lost any of its end
is refused, with or without a scope, and the runtime is left as it was.
-/

namespace RwkvSrs.CheckpointTruncation

open Std CheckpointBytes CheckpointPieces CheckpointReader CheckpointRoundTrip
open CheckpointSections DeterministicState FallibleMethod ModuleState NativeRnnState ReadBack ReaderRules
open RestoreAtomicity RuntimeRestore SectionReadBack SelectiveReaders SelectiveRestore

set_option autoImplicit false

section Longer

variable {Value Next : Type}

/-- What was read of a file is read the same way where more bytes follow. -/
def Extends (Value : Type) (read : Reader Value) : Prop :=
  ∀ cursor value reached tail, read cursor = .ok (value, reached) →
    reached.bytes = cursor.bytes ∧
      read ⟨cursor.bytes ++ tail, cursor.position⟩ =
        .ok (value, ⟨cursor.bytes ++ tail, reached.position⟩)

theorem extends_pure (value : Value) : Extends Value (pure value) := by
  intro cursor read reached tail ok
  cases ok
  exact ⟨rfl, rfl⟩

theorem extends_fail (message : String) : Extends Value (fail message) := by
  intro cursor value reached tail ok
  cases ok

theorem extends_bind {first : Reader Value} {next : Value → Reader Next}
    (head : Extends Value first) (rest : ∀ value, Extends Next (next value)) :
    Extends Next (first >>= next) := by
  intro cursor result last tail ok
  obtain ⟨value, reached, firstOk, nextOk⟩ := bind_read.mp ok
  obtain ⟨sameBytes, firstLonger⟩ := head cursor value reached tail firstOk
  obtain ⟨lastBytes, nextLonger⟩ := rest value reached result last tail nextOk
  rw [sameBytes] at nextLonger lastBytes
  exact ⟨lastBytes, bind_read.mpr ⟨value, _, firstLonger, nextLonger⟩⟩

theorem extends_exact (count : Nat) (field : String) :
    Extends (List UInt8) (binReadExact count field) := by
  intro cursor value reached tail ok
  simp only [binReadExact] at ok
  split at ok
  case isTrue enough =>
    cases ok
    have longer : (cursor.bytes ++ tail).drop cursor.position =
        cursor.bytes.drop cursor.position ++
          tail.drop (cursor.position - cursor.bytes.length) := List.drop_append
    have still : count ≤ ((cursor.bytes ++ tail).drop cursor.position).length := by
      rw [longer, List.length_append]
      omega
    apply And.intro rfl
    simp only [binReadExact]
    rw [if_pos still, longer, List.take_append_of_le_length enough]
  case isFalse short => cases ok

theorem extends_rules : Rules Extends where
  ofPure := extends_pure
  ofFail := extends_fail
  ofBind := extends_bind
  ofExact := extends_exact

theorem extends_position : Extends Nat streamPosition := by
  intro cursor value reached tail ok
  cases ok
  exact ⟨rfl, rfl⟩

theorem extends_seek (offset : Nat) (context : String) : Extends Unit (seekTo offset context) := by
  intro cursor value reached tail ok
  simp only [seekTo] at ok
  split at ok
  case isTrue small =>
    cases ok
    apply And.intro rfl
    rw [seekTo, if_pos small]
  case isFalse large => cases ok

theorem extends_limited {read : Reader Value} (inner : Extends Value read) (limit : Nat) :
    Extends (Value × Nat) (limited limit read) := by
  intro cursor value reached tail ok
  simp only [limited] at ok
  split at ok
  case h_1 found stopped innerOk =>
    cases ok
    obtain ⟨_, innerLonger⟩ := inner _ found stopped
      (tail.take (cursor.position + limit - cursor.bytes.length)) innerOk
    apply And.intro rfl
    have window : (cursor.bytes ++ tail).take (cursor.position + limit) =
        cursor.bytes.take (cursor.position + limit) ++
          tail.take (cursor.position + limit - cursor.bytes.length) := List.take_append
    simp only [limited, window]
    dsimp only at innerLonger
    rw [innerLonger]
  case h_2 => cases ok

theorem extends_seek_if {condition : Prop} [Decidable condition] (offset : Nat) (context : String)
    {next : Unit → Reader Next} (rest : Extends Next (next ())) :
    Extends Next (if condition then seekTo offset context >>= next else next ()) := by
  apply rule_ite
  · apply extends_bind (extends_seek offset context)
    intro _
    exact rest
  · exact rest

theorem extends_indexed_entry (field : String) (selectedIds : Option (ExtTreeSet Int64))
    (reached : IndexedPosition) (entry : Int64 × Nat) :
    Extends IndexedPosition (binReadIndexedEntry field selectedIds reached entry) := by
  obtain ⟨identity, byteLen⟩ := entry
  simp only [binReadIndexedEntry]
  apply rule_ite (extends_fail _)
  apply rule_ite
  · apply extends_seek_if
    apply extends_bind (extends_limited (extends_rules.entity_state _) byteLen)
    intro read
    apply rule_ite (extends_fail _)
    apply extends_pure
  · apply extends_pure

theorem extends_indexed_entries (field : String) (selectedIds : Option (ExtTreeSet Int64))
    (index : List (Int64 × Nat)) (reached : IndexedPosition) :
    Extends IndexedPosition (index.foldlM (binReadIndexedEntry field selectedIds) reached) := by
  induction index generalizing reached with
  | nil => apply extends_pure
  | cons entry index ih =>
      rw [List.foldlM_cons]
      apply extends_bind (extends_indexed_entry field selectedIds reached entry)
      intro next
      apply ih

theorem extends_indexed_state_map (field : String) (selectedIds : Option (ExtTreeSet Int64)) :
    Extends StateMap (binReadIndexedStateMap field selectedIds) := by
  apply extends_bind (extends_rules.usize field)
  intro len
  apply extends_bind (extends_rules.capacity 16 len field)
  intro _
  apply extends_bind (extends_rules.index field len)
  intro index
  apply extends_bind extends_position
  intro dataStart
  apply extends_bind (extends_indexed_entries field selectedIds index _)
  intro reached
  apply extends_seek_if
  apply extends_pure

end Longer

section Ends

variable {Value Next : Type}

/-- The reader stops inside the file, wherever it began. -/
def EndsInside (Value : Type) (read : Reader Value) : Prop :=
  ∀ cursor value reached, cursor.bytes.length < 2 ^ 63 → read cursor = .ok (value, reached) →
    reached.position ≤ cursor.bytes.length

/-- A reader that stops inside the file after any reader. -/
structure Closes (read : Reader Value) : Prop where
  longer : Extends Value read
  inside : EndsInside Value read

theorem closes_bind {first : Reader Value} {next : Value → Reader Next}
    (head : Extends Value first) (rest : ∀ value, Closes (next value)) :
    Closes (first >>= next) := by
  apply Closes.mk
  · exact extends_bind head fun value => (rest value).longer
  · intro cursor result last addressable ok
    obtain ⟨value, reached, firstOk, nextOk⟩ := bind_read.mp ok
    have sameBytes := (head cursor value reached [] firstOk).1
    rw [← sameBytes] at addressable ⊢
    exact (rest value).inside reached result last addressable nextOk

theorem closes_return {read : Reader Value} (closes : Closes read) (result : Value → Next) :
    Closes (read >>= fun value => pure (result value)) := by
  apply Closes.mk
  · exact extends_bind closes.longer fun value => extends_pure (result value)
  · intro cursor returned last addressable ok
    obtain ⟨value, reached, firstOk, returnOk⟩ := bind_read.mp ok
    cases returnOk
    exact closes.inside cursor value last addressable firstOk

theorem tag_inside {field : String} {tag : Nat} {cursor reached : Cursor}
    (ok : binReadU8 field cursor = .ok (tag, reached)) :
    reached.bytes = cursor.bytes ∧ reached.position ≤ cursor.bytes.length := by
  obtain ⟨bytes, stopped, exactOk, returned⟩ := bind_read.mp ok
  cases returned
  simp only [binReadExact] at exactOk
  split at exactOk
  case isTrue enough =>
    cases exactOk
    rw [List.length_drop] at enough
    refine ⟨rfl, ?_⟩
    change cursor.position + 1 ≤ cursor.bytes.length
    omega
  case isFalse short => cases exactOk

/-- The tag of an optional state is a byte of the file, so that what follows starts inside it. -/
theorem closes_optional_state (field : String) : Closes (binReadOptionalState field) := by
  apply Closes.mk (extends_rules.optional_state field)
  intro cursor state last addressable ok
  obtain ⟨tag, reached, tagOk, stateOk⟩ := bind_read.mp ok
  obtain ⟨sameBytes, inside⟩ := tag_inside tagOk
  have within : Within reached := by
    apply Within.mk
    · rw [sameBytes]
      exact inside
    · rw [sameBytes]
      exact addressable
  have entity := steady_rules.entity_state field
  split at stateOk
  · cases stateOk
    exact inside
  · obtain ⟨held, stopped, heldOk, returned⟩ := bind_read.mp stateOk
    cases returned
    obtain ⟨lastBytes, lastWithin⟩ := entity reached held last within heldOk
    have stops := lastWithin.inside
    rw [lastBytes, sameBytes] at stops
    exact stops
  · cases stateOk

theorem contents_close (scope : Option CheckpointScope) : Closes (readContentsV2 scope) := by
  apply closes_bind (extends_rules.option_f64 _)
  intro firstDayOffset
  apply closes_bind (extends_rules.option_f64 _)
  intro prevDayOffset
  apply closes_bind (extends_rules.usize _)
  intro cardCount
  apply closes_bind (extends_rules.i64_set _ _)
  intro cardSet
  apply closes_bind (extends_rules.i64_map _ (extends_rules.word _) _)
  intro lastNewCards
  apply closes_bind (extends_rules.i64 _)
  intro i
  apply closes_bind (extends_rules.i64_map _ (extends_rules.i64 _) _)
  intro lastI
  apply closes_bind (extends_rules.f64 _)
  intro today
  apply closes_bind (extends_rules.i64 _)
  intro todayReviews
  apply closes_bind (extends_rules.i64 _)
  intro todayNewCards
  apply closes_bind (extends_rules.i64_map _ (extends_rules.f64 _) _)
  intro card2firstDayOffset
  apply closes_bind (extends_rules.i64_map _ (extends_rules.f64 _) _)
  intro card2elapsedDaysCumulative
  apply closes_bind (extends_rules.i64_map _ (extends_rules.f64 _) _)
  intro card2elapsedSecondsCumulative
  apply closes_bind (extends_rules.id_encodings scope)
  intro idEncodings
  apply closes_bind (extends_rules.bytes _)
  intro rngState
  apply closes_bind (extends_indexed_state_map _ _)
  intro cardStates
  apply closes_bind (extends_indexed_state_map _ _)
  intro noteStates
  apply closes_bind (extends_indexed_state_map _ _)
  intro deckStates
  apply closes_bind (extends_indexed_state_map _ _)
  intro presetStates
  apply closes_return (closes_optional_state _)

end Ends

section Restoring

variable {Frame Session : Type}

theorem longer_runtime {bytes : List UInt8} (tail : List UInt8) {scope : Option CheckpointScope}
    {runtime restored : RestoredRuntime Frame Session}
    (ok : restoreRuntimeCheckpointBin bytes scope runtime = (.ok (), restored)) :
    restoreRuntimeCheckpointBin (bytes ++ tail) scope runtime = (.ok (), restored) := by
  obtain ⟨read, middle, lifted, rest⟩ := bind_ok_steps ok
  obtain ⟨headerRead, sameRuntime⟩ := lift_ok_value lifted
  subst sameRuntime
  obtain ⟨version, cursor⟩ := read
  obtain ⟨sameBytes, headerLonger⟩ := extends_rules.header _ _ _ tail headerRead
  dsimp only at headerLonger rest sameBytes
  rw [restoreRuntimeCheckpointBin.eq_def, headerLonger]
  apply (bind_of_ok (lift_ok _ _)).trans
  dsimp only
  by_cases legacy : version = legacyCheckpointBinVersion
  · rw [if_pos legacy] at rest ⊢
    obtain ⟨_, loaded, loadedOk, narrowed⟩ := bind_ok_steps rest
    have again : readRuntimeStateBinV1 ⟨bytes ++ tail, cursor.position⟩ middle =
        (.ok (), loaded) := by
      obtain ⟨contents, _, contentsLifted, filled⟩ := bind_ok_steps loadedOk
      obtain ⟨contentsRead, sameBefore⟩ := lift_ok_value contentsLifted
      subst sameBefore
      obtain ⟨_, longer⟩ := extends_rules.contents_v1 cursor contents.1 contents.2 tail contentsRead
      rw [sameBytes] at longer
      rw [readRuntimeStateBinV1, longer]
      apply (bind_of_ok (lift_ok _ _)).trans
      exact filled
    exact (bind_of_ok again).trans narrowed
  · rw [if_neg legacy] at rest ⊢
    obtain ⟨contents, _, contentsLifted, filled⟩ := bind_ok_steps rest
    obtain ⟨contentsRead, sameBefore⟩ := lift_ok_value contentsLifted
    subst sameBefore
    have closes := (contents_close scope).longer
    obtain ⟨_, longer⟩ := closes cursor contents.1 contents.2 tail contentsRead
    rw [sameBytes] at longer
    rw [readRuntimeStateBinV2, longer]
    apply (bind_of_ok (lift_ok _ _)).trans
    exact filled

/-- A file that is accepted is accepted with any bytes appended, and restores the same runtime. -/
theorem appended_bytes_ignored {bytes : List UInt8} {lists : IdentityLists}
    {runtime restored : RestoredRuntime Frame Session}
    (accepted : restoreCheckpointBin (.ok bytes) lists runtime = (.ok (), restored))
    (tail : List UInt8) :
    restoreCheckpointBin (.ok (bytes ++ tail)) lists runtime = (.ok (), restored) := by
  cases read : checkpointScopeFromOptionalIdentityLists lists with
  | ok scope =>
      obtain ⟨required, loaded, loadedOk, same⟩ := (restore_call_ok read).mp accepted
      apply (restore_call_ok read).mpr
      exact ⟨required, loaded, longer_runtime tail loadedOk, same⟩
  | error message =>
      obtain ⟨_, passed, required, rest⟩ := bind_ok_steps accepted
      rw [read] at rest
      obtain ⟨_, _, lifted, _⟩ := bind_ok_steps rest
      cases lifted

theorem saved_file_with_more :
    restoreCheckpointBin (.ok (savedFile.bytes ++ [0, 1])) wholeLists freshRuntime =
      (.ok (), reloadedRuntime) :=
  appended_bytes_ignored saved_file_reloaded [0, 1]

/-- A step that fails leaves the state as it was. -/
def FailsWhole {State Value : Type} (step : Method State Value) : Prop :=
  ∀ state failure reached, step state = (.error failure, reached) → reached = state

/-- What comes before the first change cannot leave a change behind. -/
theorem whole_after {State Value Next : Type} {step : Method State Value}
    {next : Value → Method State Next} (unchanged : ∀ state, (step state).2 = state)
    (each : ∀ value, FailsWhole (next value)) : FailsWhole (step >>= next) := by
  intro state failure reached failed
  have same := unchanged state
  rw [bind_apply] at failed
  cases ran : step state with
  | mk result stopped =>
      rw [ran] at failed same
      cases same
      cases result with
      | ok value => exact each value _ failure reached failed
      | error earlier =>
          cases failed
          rfl

theorem whole_lift {State Value Next : Type} {result : Except String Value}
    {next : Value → Method State Next} (each : ∀ value, FailsWhole (next value)) :
    FailsWhole (lift result >>= next) := by
  have unchanged : ∀ state : State, (lift result state).2 = state := by
    intro state
    cases result with
    | ok value => rfl
    | error message => rfl
  exact whole_after unchanged each

theorem whole_then {State : Type} {step : Method State Unit} (whole : FailsWhole step)
    (change : State → State) : FailsWhole (step >>= fun _ => update change) := by
  intro state failure reached failed
  rw [bind_apply] at failed
  cases ran : step state with
  | mk result stopped =>
      rw [ran] at failed
      cases result with
      | ok value => cases failed
      | error earlier =>
          cases failed
          exact whole _ _ _ ran

theorem whole_update {State : Type} (change : State → State) : FailsWhole (update change) := by
  intro state failure reached failed
  cases failed

theorem whole_runtime (bytes : List UInt8) (scope : Option CheckpointScope) :
    FailsWhole (restoreRuntimeCheckpointBin bytes scope :
      Method (RestoredRuntime Frame Session) Unit) := by
  unfold restoreRuntimeCheckpointBin
  apply whole_lift
  intro read
  obtain ⟨version, cursor⟩ := read
  dsimp only
  by_cases legacy : version = legacyCheckpointBinVersion
  · rw [if_pos legacy]
    have loads : FailsWhole (readRuntimeStateBinV1 cursor :
        Method (RestoredRuntime Frame Session) Unit) := by
      apply whole_lift
      intro contents
      apply whole_lift
      intro idRng
      apply whole_update
    cases scope with
    | none => exact whole_then loads id
    | some scope => exact whole_then loads (filterRuntimeState scope)
  · rw [if_neg legacy]
    apply whole_lift
    intro contents
    apply whole_lift
    intro idRng
    apply whole_update

theorem whole_restore (file : CheckpointFile) (lists : IdentityLists) :
    FailsWhole (restoreCheckpointBin file lists :
      Method (RestoredRuntime Frame Session) Unit) := by
  apply whole_after (no_live_session_unchanged "restore_checkpoint_bin")
  intro _
  apply whole_lift
  intro scope
  apply whole_then
  apply whole_lift
  intro bytes
  apply whole_runtime

/-- The file a runtime is saved to is read to its end. -/
theorem whole_file_read {metadataJson : List UInt8} {state : SnapshotFeatures} {rnn : SnapshotRnn}
    (storable : Storable state rnn)
    (small : (checkpointPiece metadataJson state rnn).length < 2 ^ 63)
    (scope : Option CheckpointScope) :
    ∃ start contents, readHeader ⟨checkpointPiece metadataJson state rnn, 0⟩ =
        .ok (checkpointBinVersion, start) ∧
      readContentsV2 scope start = .ok (contents, ⟨checkpointPiece metadataJson state rnn,
        (checkpointPiece metadataJson state rnn).length⟩) := by
  have metadataSmall : metadataJson.length < 2 ^ 64 := by
    simp only [checkpointPiece, headerPiece, List.length_append] at small
    omega
  have header := reads_header metadataSmall [] (sectionsPiece state rnn) small
  have sections := reads_contents storable (headerPiece metadataJson) [] (by
    rw [List.append_nil]
    exact small)
  rw [List.append_nil] at sections
  rw [List.nil_append, List.length_nil, Nat.zero_add] at header
  have length : (headerPiece metadataJson).length + (sectionsPiece state rnn).length =
      (checkpointPiece metadataJson state rnn).length := List.length_append.symm
  rw [length] at sections
  cases scope with
  | none => exact ⟨_, _, header, sections⟩
  | some scope =>
      have within : Within ⟨checkpointPiece metadataJson state rnn,
          (headerPiece metadataJson).length⟩ := by
        apply Within.mk
        · change (headerPiece metadataJson).length ≤ (checkpointPiece metadataJson state rnn).length
          omega
        · exact small
      exact ⟨_, _, header, contents_narrow scope _ _ _ within sections⟩

theorem early_end_refused {kept lost : List UInt8} {metadataJson : List UInt8}
    {state : SnapshotFeatures} {rnn : SnapshotRnn} (storable : Storable state rnn)
    (whole : checkpointPiece metadataJson state rnn = kept ++ lost) (missing : lost ≠ [])
    (small : (checkpointPiece metadataJson state rnn).length < 2 ^ 63)
    (scope : Option CheckpointScope) (runtime restored : RestoredRuntime Frame Session) :
    restoreRuntimeCheckpointBin kept scope runtime ≠ (.ok (), restored) := by
  intro ok
  obtain ⟨start, contents, header, sections⟩ := whole_file_read storable small scope
  rw [whole] at header sections small
  obtain ⟨read, middle, lifted, rest⟩ := bind_ok_steps ok
  obtain ⟨headerRead, sameRuntime⟩ := lift_ok_value lifted
  subst sameRuntime
  obtain ⟨version, cursor⟩ := read
  obtain ⟨sameBytes, headerLonger⟩ := extends_rules.header _ _ _ lost headerRead
  dsimp only at headerLonger rest sameBytes
  rw [headerLonger] at header
  cases header
  have current : checkpointBinVersion ≠ legacyCheckpointBinVersion := by decide
  rw [if_neg current] at rest
  obtain ⟨found, _, contentsLifted, _⟩ := bind_ok_steps rest
  obtain ⟨contentsRead, sameBefore⟩ := lift_ok_value contentsLifted
  have closes := contents_close scope
  obtain ⟨_, longer⟩ := closes.longer cursor found.1 found.2 lost contentsRead
  rw [sameBytes, sections] at longer
  have short : cursor.bytes.length < 2 ^ 63 := by
    rw [sameBytes]
    rw [List.length_append] at small
    omega
  have inside := closes.inside cursor found.1 found.2 short contentsRead
  have cursors := (Prod.mk.inj (Except.ok.inj longer)).2
  have stops := (Cursor.mk.inj cursors).2
  have lostSome := List.length_pos_iff.mpr missing
  rw [sameBytes, ← stops, List.length_append] at inside
  omega

/-- A file that lost any of its end is refused whatever is asked of it, and nothing changes. -/
theorem truncated_file_refused {metadataJson : List UInt8} {state : SnapshotFeatures}
    {rnn : SnapshotRnn} (metadata : metadataJson ≠ []) (storable : Storable state rnn)
    (small : (checkpointPiece metadataJson state rnn).length < 2 ^ 63) :
    ∃ file, writeCheckpointBinPath metadataJson state rnn = .ok file ∧
      ∀ (kept : List UInt8) (lists : IdentityLists) (runtime : RestoredRuntime Frame Session),
        kept <+: file → kept ≠ file →
          ∃ failure, restoreCheckpointBin (.ok kept) lists runtime = (.error failure, runtime) := by
  refine ⟨_, checkpoint_written metadata storable small, ?_⟩
  intro kept lists runtime beginning shorter
  obtain ⟨lost, whole⟩ := beginning
  have missing : lost ≠ [] := by
    intro nothing
    rw [nothing, List.append_nil] at whole
    exact shorter whole
  cases ran : restoreCheckpointBin (.ok kept) lists runtime with
  | mk result reached =>
      cases result with
      | error failure =>
          have unchanged := whole_restore (.ok kept) lists runtime failure reached ran
          rw [unchanged]
          exact ⟨failure, rfl⟩
      | ok value =>
          cases read : checkpointScopeFromOptionalIdentityLists lists with
          | ok scope =>
              obtain ⟨_, loaded, loadedOk, _⟩ := (restore_call_ok read).mp ran
              have refused := early_end_refused storable whole.symm missing small scope runtime loaded
              exact absurd loadedOk refused
          | error message =>
              obtain ⟨_, passed, required, rest⟩ := bind_ok_steps ran
              rw [read] at rest
              obtain ⟨_, _, lifted, _⟩ := bind_ok_steps rest
              cases lifted

theorem saved_file_truncated_refused :
    ∃ file, writeCheckpointBinPath emptyMetadata savedFeatures savedRnn = .ok file ∧
      ∀ (kept : List UInt8) (lists : IdentityLists) (runtime : RestoredRuntime Unit Unit),
        kept <+: file → kept ≠ file →
          ∃ failure, restoreCheckpointBin (.ok kept) lists runtime = (.error failure, runtime) :=
  truncated_file_refused (by decide +kernel) saved_storable saved_small

end Restoring

end RwkvSrs.CheckpointTruncation
