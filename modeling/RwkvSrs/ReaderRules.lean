import RwkvSrs.CheckpointReader

/-!
What every reader of a checkpoint does to its cursor. A property that the basic
reads have, and that sequencing and the adapter which ends early keep, holds of
every section. Steadiness is one: a steady reader leaves the file as it is and
stops inside it.
-/

namespace RwkvSrs.ReaderRules

open Std CheckpointBytes CheckpointReader DeterministicState ModuleState

set_option autoImplicit false

section Composition

variable {Value Next : Type}

theorem bind_read {first : Reader Value} {next : Value → Reader Next} {cursor : Cursor}
    {result : Next × Cursor} :
    (first >>= next) cursor = .ok result ↔
      ∃ value reached, first cursor = .ok (value, reached) ∧ next value reached = .ok result := by
  change (first cursor >>= fun pair => next pair.1 pair.2) = .ok result ↔ _
  cases first cursor with
  | error message => simp [bind, Except.bind]
  | ok pair =>
      cases pair
      simp [bind, Except.bind]

/-- A property of readers that follows the way they are put together. -/
structure Rules (Kept : ∀ Value : Type, Reader Value → Prop) : Prop where
  ofPure : ∀ {Value : Type} (value : Value), Kept Value (pure value)
  ofFail : ∀ {Value : Type} (message : String), Kept Value (fail message)
  ofBind : ∀ {Value Next : Type} {first : Reader Value} {next : Value → Reader Next},
    Kept Value first → (∀ value, Kept Next (next value)) → Kept Next (first >>= next)
  ofExact : ∀ count field, Kept (List UInt8) (binReadExact count field)

end Composition

section Sections

variable {Kept : ∀ Value : Type, Reader Value → Prop} {Value : Type}

theorem rule_ite {condition : Prop} [Decidable condition] {first second : Reader Value}
    (whenTrue : Kept Value first) (whenFalse : Kept Value second) :
    Kept Value (if condition then first else second) := by
  split
  · exact whenTrue
  · exact whenFalse

namespace Rules

variable (rules : Rules Kept)

include rules

theorem items {read : Nat → Reader Value} (item : ∀ index, Kept Value (read index))
    (index count : Nat) : Kept (List Value) (readItems read index count) := by
  induction count generalizing index with
  | zero => exact rules.ofPure []
  | succ count ih =>
      apply rules.ofBind (item index)
      intro value
      apply rules.ofBind (ih (index + 1))
      intro values
      apply rules.ofPure

theorem u8 (field : String) : Kept Nat (binReadU8 field) :=
  rules.ofBind (rules.ofExact 1 field) fun _ => rules.ofPure _

theorem u32 (field : String) : Kept Nat (binReadU32 field) :=
  rules.ofBind (rules.ofExact 4 field) fun _ => rules.ofPure _

theorem usize (field : String) : Kept Nat (binReadUsize field) :=
  rules.ofBind (rules.ofExact 8 field) fun _ => rules.ofPure _

theorem i64 (field : String) : Kept Int64 (binReadI64 field) :=
  rules.ofBind (rules.ofExact 8 field) fun _ => rules.ofPure _

theorem f64 (field : String) : Kept Binary64 (binReadF64 field) :=
  rules.ofBind (rules.ofExact 8 field) fun _ => rules.ofPure _

theorem f32 (field : String) : Kept Binary32 (binReadF32 field) :=
  rules.ofBind (rules.ofExact 4 field) fun _ => rules.ofPure _

theorem word (field : String) : Kept UInt64 (do return UInt64.ofNat (← binReadUsize field)) :=
  rules.ofBind (rules.usize field) fun _ => rules.ofPure _

theorem capacity (elementSize len : Nat) (field : String) :
    Kept Unit (binVecWithCapacity elementSize len field) :=
  rule_ite (rules.ofPure ()) (rules.ofFail _)

theorem bytes (field : String) : Kept (List UInt8) (binReadBytes field) :=
  rules.ofBind (rules.usize field) fun len => rules.ofExact len field

theorem string (field : String) : Kept String (binReadString field) := by
  apply rules.ofBind (rules.bytes field)
  intro bytes
  cases String.fromUTF8? ⟨bytes.toArray⟩ with
  | some text => apply rules.ofPure
  | none => apply rules.ofFail

theorem option_f64 (field : String) : Kept (Option Binary64) (binReadOptionF64 field) := by
  apply rules.ofBind (rules.u8 field)
  intro tag
  split
  · apply rules.ofPure
  · apply rules.ofBind (rules.f64 field)
    intro value
    apply rules.ofPure
  · apply rules.ofFail

theorem i64_set (field : String) (selectedIds : Option (ExtTreeSet Int64)) :
    Kept (ExtTreeSet Int64) (binReadI64SetSelected field selectedIds) := by
  apply rules.ofBind (rules.usize field)
  intro len
  apply rules.ofBind (rules.items (fun _ => rules.i64 field) 0 len)
  intro values
  apply rules.ofPure

theorem entries (field : String) {read : Reader Value} (kept : Kept Value read) (len : Nat) :
    Kept (List (Int64 × Value)) (readItems (fun _ => do
      let key ← binReadI64 field
      return (key, ← read)) 0 len) := by
  apply rules.items
  intro index
  apply rules.ofBind (rules.i64 field)
  intro key
  apply rules.ofBind kept
  intro value
  apply rules.ofPure

theorem i64_map (field : String) {read : Reader Value} (kept : Kept Value read)
    (selectedIds : Option (ExtTreeSet Int64)) :
    Kept (ExtTreeMap Int64 Value) (binReadI64MapSelected field read selectedIds) := by
  apply rules.ofBind (rules.usize field)
  intro len
  apply rules.ofBind (rules.entries field kept len)
  intro entries
  apply rules.ofPure

theorem id_encoding (submodule : IdSubmodule) (index : Nat) :
    Kept (Int64 × List Binary32) (binReadIdEncoding submodule index) := by
  apply rules.ofBind (rules.i64 _)
  intro id
  apply rules.ofBind (rules.usize _)
  intro valueCount
  apply rule_ite (rules.ofFail _)
  apply rules.ofBind (rules.items (fun _ => rules.f32 _) 0 valueCount)
  intro values
  apply rules.ofPure

theorem submodule_encodings (scope : Option CheckpointScope) (out : IdEncodings Binary32) :
    Kept (IdEncodings Binary32) (binReadSubmoduleEncodings scope out) := by
  apply rules.ofBind (rules.string _)
  intro name
  cases idSubmodules.find? fun submodule => submodule.name == name with
  | none => apply rules.ofFail
  | some submodule =>
      apply rules.ofBind (rules.usize _)
      intro encodingCount
      apply rules.ofBind (rules.items (rules.id_encoding submodule) 0 encodingCount)
      intro entries
      apply rules.ofPure

theorem modules (scope : Option CheckpointScope) (count : Nat) (out : IdEncodings Binary32) :
    Kept (IdEncodings Binary32) (readModules scope count out) := by
  induction count generalizing out with
  | zero => apply rules.ofPure
  | succ count ih =>
      apply rules.ofBind (rules.submodule_encodings scope out)
      intro next
      apply ih

theorem id_encodings (scope : Option CheckpointScope) :
    Kept (IdEncodings Binary32) (binReadIdEncodingsSelected scope) := by
  apply rules.ofBind (rules.usize _)
  intro moduleCount
  apply rules.modules

theorem f32_vec (valueCount : Nat) (field : String) :
    Kept (List Binary32) (binReadF32VecBulk valueCount field) := by
  apply rule_ite (rules.ofFail _)
  apply rule_ite (rules.ofPure [])
  apply rules.ofBind (rules.capacity 4 valueCount field)
  intro _
  apply rules.ofBind (rules.ofExact _ field)
  intro bytes
  apply rules.ofPure

theorem tensor (field : String) (expectedRank : Nat) :
    Kept (ModuleState.Tensor Binary32) (binReadTensor field expectedRank) := by
  apply rules.ofBind (rules.u8 field)
  intro rank
  apply rule_ite (rules.ofFail _)
  apply rules.ofBind (rules.items (fun index => rules.usize _) 0 rank)
  intro dims
  cases checkedProduct dims with
  | none => apply rules.ofFail
  | some expectedValues =>
      apply rules.ofBind (rules.usize _)
      intro valueCount
      apply rule_ite (rules.ofFail _)
      apply rules.ofBind (rules.f32_vec valueCount field)
      intro values
      cases Tensor.fromVec values dims with
      | ok tensor => apply rules.ofPure
      | error message => apply rules.ofFail

theorem tensor_vec (field : String) (expectedRank : Nat) :
    Kept (List (ModuleState.Tensor Binary32)) (binReadTensorVec field expectedRank) := by
  apply rules.ofBind (rules.usize field)
  intro len
  apply rules.ofBind (rules.capacity 8 len field)
  intro _
  apply rules.items
  intro index
  apply rules.tensor

theorem entity_state (field : String) :
    Kept (NativeRnnModuleState Binary32) (binReadEntityState field) := by
  apply rules.ofBind (rules.tensor_vec _ 3)
  intro timeX
  apply rules.ofBind (rules.tensor_vec _ 5)
  intro timeRecurrent
  apply rules.ofBind (rules.tensor_vec _ 3)
  intro channel
  cases nativeModuleStateFromParts timeX timeRecurrent channel field with
  | ok state => apply rules.ofPure
  | error message => apply rules.ofFail

theorem optional_state (field : String) :
    Kept (Option (NativeRnnModuleState Binary32)) (binReadOptionalState field) := by
  apply rules.ofBind (rules.u8 field)
  intro tag
  split
  · apply rules.ofPure
  · apply rules.ofBind (rules.entity_state field)
    intro state
    apply rules.ofPure
  · apply rules.ofFail

theorem state_map (field : String) : Kept StateMap (binReadStateMap field) := by
  apply rules.ofBind (rules.usize field)
  intro len
  apply rules.ofBind
  · apply rules.items
    intro index
    apply rules.ofBind (rules.i64 _)
    intro id
    apply rules.ofBind (rules.entity_state _)
    intro state
    apply rules.ofPure
  · intro entries
    apply rules.ofPure

theorem index (field : String) (len : Nat) :
    Kept (List (Int64 × Nat)) (readItems (fun itemIndex => do
      let identity ← binReadI64 (field ++ "[" ++ toString itemIndex ++ "].id")
      return (identity, ← binReadUsize (field ++ "[" ++ toString identity ++ "].byte_len")))
        0 len) := by
  apply rules.items
  intro itemIndex
  apply rules.ofBind (rules.i64 _)
  intro identity
  apply rules.ofBind (rules.usize _)
  intro byteLen
  apply rules.ofPure

theorem header : Kept Nat readHeader := by
  apply rules.ofBind (rules.ofExact _ _)
  intro magic
  apply rule_ite (rules.ofFail _)
  apply rules.ofBind (rules.u32 _)
  intro version
  apply rule_ite (rules.ofFail _)
  apply rules.ofBind (rules.usize _)
  intro metadataLen
  apply rules.ofBind (rules.ofExact metadataLen _)
  intro metadata
  apply rules.ofPure

theorem contents_v1 : Kept CheckpointContents readContentsV1 := by
  apply rules.ofBind (rules.option_f64 _)
  intro firstDayOffset
  apply rules.ofBind (rules.option_f64 _)
  intro prevDayOffset
  apply rules.ofBind (rules.i64_set _ none)
  intro cardSet
  apply rules.ofBind (rules.i64_map _ (rules.word _) none)
  intro lastNewCards
  apply rules.ofBind (rules.i64 _)
  intro i
  apply rules.ofBind (rules.i64_map _ (rules.i64 _) none)
  intro lastI
  apply rules.ofBind (rules.f64 _)
  intro today
  apply rules.ofBind (rules.i64 _)
  intro todayReviews
  apply rules.ofBind (rules.i64 _)
  intro todayNewCards
  apply rules.ofBind (rules.i64_map _ (rules.f64 _) none)
  intro card2firstDayOffset
  apply rules.ofBind (rules.i64_map _ (rules.f64 _) none)
  intro card2elapsedDaysCumulative
  apply rules.ofBind (rules.i64_map _ (rules.f64 _) none)
  intro card2elapsedSecondsCumulative
  apply rules.ofBind (rules.id_encodings none)
  intro idEncodings
  apply rules.ofBind (rules.bytes _)
  intro rngState
  apply rules.ofBind (rules.state_map _)
  intro cardStates
  apply rules.ofBind (rules.state_map _)
  intro noteStates
  apply rules.ofBind (rules.state_map _)
  intro deckStates
  apply rules.ofBind (rules.state_map _)
  intro presetStates
  apply rules.ofBind (rules.optional_state _)
  intro globalState
  apply rules.ofPure

end Rules

end Sections

section Steady

variable {Value Next : Type}

/-- The cursor stands inside its file, and the file is no longer than an `off_t` can count. -/
structure Within (cursor : Cursor) : Prop where
  inside : cursor.position ≤ cursor.bytes.length
  addressable : cursor.bytes.length < 2 ^ 63

def Steady (Value : Type) (read : Reader Value) : Prop :=
  ∀ cursor value reached, Within cursor → read cursor = .ok (value, reached) →
    reached.bytes = cursor.bytes ∧ Within reached

theorem steady_pure (value : Value) : Steady Value (pure value) := by
  intro cursor read reached within ok
  cases ok
  exact ⟨rfl, within⟩

theorem steady_fail (message : String) : Steady Value (fail message) := by
  intro cursor read reached _ ok
  cases ok

theorem steady_bind {first : Reader Value} {next : Value → Reader Next}
    (head : Steady Value first) (tail : ∀ value, Steady Next (next value)) :
    Steady Next (first >>= next) := by
  intro cursor result last within ok
  obtain ⟨value, reached, firstOk, nextOk⟩ := bind_read.mp ok
  obtain ⟨sameBytes, reachedWithin⟩ := head cursor value reached within firstOk
  obtain ⟨lastBytes, lastWithin⟩ := tail value reached result last reachedWithin nextOk
  exact ⟨lastBytes.trans sameBytes, lastWithin⟩

theorem steady_exact (count : Nat) (field : String) :
    Steady (List UInt8) (binReadExact count field) := by
  intro cursor value reached within ok
  simp only [binReadExact] at ok
  split at ok
  case isTrue enough =>
    cases ok
    rw [List.length_drop] at enough
    have inside := within.inside
    refine ⟨rfl, ?_, within.addressable⟩
    change cursor.position + count ≤ cursor.bytes.length
    omega
  case isFalse short => cases ok

theorem steady_rules : Rules Steady where
  ofPure := steady_pure
  ofFail := steady_fail
  ofBind := steady_bind
  ofExact := steady_exact

theorem within_take {cursor : Cursor} (within : Within cursor) (limit : Nat) :
    Within { cursor with bytes := cursor.bytes.take (cursor.position + limit) } := by
  have inside := within.inside
  have addressable := within.addressable
  apply Within.mk
  · change cursor.position ≤ (cursor.bytes.take (cursor.position + limit)).length
    rw [List.length_take]
    omega
  · change (cursor.bytes.take (cursor.position + limit)).length < 2 ^ 63
    rw [List.length_take]
    omega

/-- The adapter hides the bytes behind its end and gives them back; an entry that uses up its
length stops where its length says. -/
theorem limited_stops {read : Reader Value} (inner : Steady Value read) {limit : Nat}
    {cursor reached : Cursor} {value : Value} {remaining : Nat} (within : Within cursor)
    (ok : limited limit read cursor = .ok ((value, remaining), reached)) :
    reached.bytes = cursor.bytes ∧ Within reached ∧
      (remaining = 0 → reached.position = cursor.position + limit) := by
  simp only [limited] at ok
  split at ok
  case h_1 found stopped innerOk =>
    cases ok
    obtain ⟨stoppedBytes, stoppedWithin⟩ := inner _ value stopped (within_take within limit) innerOk
    have stops := stoppedWithin.inside
    rw [stoppedBytes, List.length_take] at stops
    refine ⟨rfl, ⟨?_, within.addressable⟩, ?_⟩
    · change stopped.position ≤ cursor.bytes.length
      omega
    · intro used
      change stopped.position = cursor.position + limit
      omega
  case h_2 => cases ok

end Steady

end RwkvSrs.ReaderRules
