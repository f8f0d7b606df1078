import RwkvSrs.CheckpointSections
import RwkvSrs.ReadBack
import RwkvSrs.SelectiveReaders

/-!
Every section of a checkpoint is read back as what was written, with the floats
that are not numbers in their canonical form. Sets and maps come back because
their identities are distinct; a state map comes back because each entry is as
long as its index declares.
-/

namespace RwkvSrs.SectionReadBack

open Std CheckpointBytes CheckpointReader CheckpointSections CheckpointWriter DeterministicState
open LittleEndian ModuleState ReadBack RuntimeRestore SelectiveReaders ReaderRules

set_option autoImplicit false

theorem reads_i64 (value : Int64) (field : String) :
    ReadsBack (binReadI64 field) (binWriteI64 value) value := by
  have reads := reads_return (fun bytes => (UInt64.ofNat (fromLe bytes)).toInt64)
    (reads_exact (to_le_length 8 value.toUInt64.toNat) field)
  rw [from_le_of_small (UInt64.toNat_lt _), UInt64.ofNat_toNat] at reads
  exact reads

theorem write_f64_bits (value : Binary64) :
    binWriteF64 value = toLe 8 (canonicalNan64 value).bits.toNat := by
  rw [binWriteF64, canonicalNan64]
  split
  · rfl
  · rfl

theorem reads_f64 (value : Binary64) (field : String) :
    ReadsBack (binReadF64 field) (binWriteF64 value) (canonicalNan64 value) := by
  have reads := reads_return (fun bytes => (⟨UInt64.ofNat (fromLe bytes)⟩ : Binary64))
    (reads_exact (to_le_length 8 (canonicalNan64 value).bits.toNat) field)
  rw [from_le_of_small (UInt64.toNat_lt _), UInt64.ofNat_toNat, ← write_f64_bits] at reads
  exact reads

theorem reads_word64 (value : UInt64) (field : String) :
    ReadsBack (do return UInt64.ofNat (← binReadUsize field)) (binWriteU64 value.toNat) value := by
  have reads := reads_return UInt64.ofNat (reads_usize (UInt64.toNat_lt value) field)
  rw [UInt64.ofNat_toNat] at reads
  exact reads

theorem reads_option_f64 (value : Option Binary64) (field : String) :
    ReadsBack (binReadOptionF64 field) (binWriteOptionF64 value) (value.map canonicalNan64) := by
  cases value with
  | none =>
      rw [binWriteOptionF64, ← List.append_nil (binWriteU8 0)]
      apply reads_bind (reads_u8 (by decide) field)
      apply reads_pure
  | some value =>
      apply reads_bind (reads_u8 (by decide) field)
      apply reads_return some (reads_f64 value field)

theorem reads_bytes (bytes : List UInt8) (field : String) :
    ReadsBack (binReadBytes field) (binWriteBytes bytes) bytes := by
  apply reads_of_small
  intro small
  have short : bytes.length < 2 ^ 64 := by
    rw [binWriteBytes, List.length_append] at small
    omega
  apply reads_bind (reads_usize short field)
  apply reads_exact rfl

theorem reads_string (value : String) (field : String) :
    ReadsBack (binReadString field) (binWriteString value) value := by
  rw [binWriteString, ← List.append_nil (binWriteBytes _)]
  apply reads_bind (reads_bytes _ field)
  have text : String.fromUTF8? ⟨value.toByteArray.data.toList.toArray⟩ = some value := by
    rw [String.fromUTF8?, Array.toArray_toList]
    exact dif_pos value.isValidUTF8
  simp only [text]
  apply reads_pure

section Collections

variable {Item Value Found : Type}

/-- Items of at least `width` bytes each bound their number by the length of the piece. -/
theorem piece_bounds_count {write : Item → List UInt8} {width : Nat} (items : List Item)
    (wide : ∀ item, width ≤ (write item).length) :
    items.length * width ≤ (items.flatMap write).length := by
  induction items with
  | nil => simp
  | cons item items ih =>
      have first := wide item
      rw [List.flatMap_cons, List.length_append, List.length_cons, Nat.succ_mul]
      omega

theorem write_i64_length (value : Int64) : (binWriteI64 value).length = 8 := to_le_length 8 _

theorem collected_unfound (kept : ExtTreeMap Int64 Value) {entries : List (Int64 × Value)}
    {key : Int64} (absent : key ∉ entries.map Prod.fst) :
    (collectMap none kept entries)[key]? = kept[key]? := by
  induction entries generalizing kept with
  | nil => rfl
  | cons entry entries ih =>
      rw [List.map_cons, List.mem_cons, not_or] at absent
      have next := ih (kept.insert entry.1 entry.2) absent.2
      rw [ExtTreeMap.getElem?_insert] at next
      have different : entry.1 ≠ key := fun same => absent.1 same.symm
      simpa [collectMap, isSelected, different] using next

theorem collected_found (kept : ExtTreeMap Int64 Value) {entries : List (Int64 × Value)}
    (distinct : (entries.map Prod.fst).Nodup) {key : Int64} {value : Value}
    (member : (key, value) ∈ entries) :
    (collectMap none kept entries)[key]? = some value := by
  induction entries generalizing kept with
  | nil => cases member
  | cons entry entries ih =>
      rw [List.map_cons, List.nodup_cons] at distinct
      rcases List.mem_cons.mp member with here | there
      · have absent : key ∉ entries.map Prod.fst := by
          rw [← here] at distinct
          exact distinct.1
        have next := collected_unfound (kept.insert key value) absent
        rw [ExtTreeMap.getElem?_insert] at next
        subst here
        simpa [collectMap, isSelected] using next
      · exact ih (kept.insert entry.1 entry.2) distinct.2 there

theorem collected_exact {entries : List (Int64 × Value)} {map : ExtTreeMap Int64 Value}
    (distinct : (entries.map Prod.fst).Nodup)
    (same : ∀ key value, (key, value) ∈ entries ↔ map[key]? = some value) :
    collectMap none ∅ entries = map := by
  apply ExtTreeMap.ext_getElem?
  intro key
  by_cases listed : key ∈ entries.map Prod.fst
  · obtain ⟨entry, member, keyed⟩ := List.mem_map.mp listed
    subst keyed
    rw [collected_found ∅ distinct member, (same entry.1 entry.2).mp member]
  · rw [collected_unfound ∅ listed]
    cases found : map[key]? with
    | none => rfl
    | some value =>
        have member := (same key value).mpr found
        exact absurd (List.mem_map_of_mem member) listed

theorem listed_distinct (map : ExtTreeMap Int64 Value) : (map.toList.map Prod.fst).Nodup := by
  rw [ExtTreeMap.map_fst_toList_eq_keys]
  exact ExtTreeMap.nodup_keys

theorem collected_listed (map : ExtTreeMap Int64 Value) (convert : Value → Found) :
    collectMap none ∅ (map.toList.map fun entry => (entry.1, convert entry.2)) =
      map.map fun _ value => convert value := by
  apply collected_exact
  · rw [List.map_map]
    exact listed_distinct map
  · intro key value
    rw [ExtTreeMap.getElem?_map, Option.map_eq_some_iff, List.mem_map]
    constructor
    · intro listed
      obtain ⟨entry, member, same⟩ := listed
      cases same
      exact ⟨entry.2, ExtTreeMap.mem_toList_iff_getElem?_eq_some.mp member, rfl⟩
    · intro found
      obtain ⟨stored, held, same⟩ := found
      subst same
      exact ⟨(key, stored), ExtTreeMap.mem_toList_iff_getElem?_eq_some.mpr held, rfl⟩

theorem collected_listed_set (values : ExtTreeSet Int64) :
    collectSet none values.toList = values := by
  apply ExtTreeSet.ext_mem
  intro identity
  rw [collected_member, ExtTreeSet.mem_toList]

theorem reads_i64_set (values : ExtTreeSet Int64) (field : String) :
    ReadsBack (binReadI64SetSelected field none) (binWriteI64Set values) values := by
  apply reads_of_small
  intro small
  have count : values.toList.length = values.size := ExtTreeSet.length_toList
  have bound := piece_bounds_count values.toList fun value => (write_i64_length value).ge
  have short : values.size < 2 ^ 64 := by
    rw [binWriteI64Set, List.length_append] at small
    omega
  have items : ReadsBack (readItems (fun _ => binReadI64 field) 0 values.toList.length)
      (values.toList.flatMap binWriteI64) (values.toList.map id) :=
    reads_items (fun value _ _ => reads_i64 value field) 0
  rw [count, List.map_id] at items
  apply reads_bind (reads_usize short field)
  have whole := reads_return (collectSet none) items
  rw [collected_listed_set] at whole
  exact whole

theorem reads_i64_map {field : String} {read : Reader Found} {write : Value → List UInt8}
    {convert : Value → Found} (each : ∀ value, ReadsBack read (write value) (convert value))
    (values : ExtTreeMap Int64 Value) :
    ReadsBack (binReadI64MapSelected field read none) (binWriteI64Map write values)
      (values.map fun _ value => convert value) := by
  apply reads_of_small
  intro small
  have count : values.toList.length = values.size := ExtTreeMap.length_toList
  have wide : ∀ entry : Int64 × Value, 8 ≤ (binWriteI64 entry.1 ++ write entry.2).length := by
    intro entry
    rw [List.length_append, write_i64_length]
    omega
  have bound := piece_bounds_count values.toList wide
  have short : values.size < 2 ^ 64 := by
    rw [binWriteI64Map, List.length_append] at small
    omega
  have entry : ∀ entry ∈ values.toList, ∀ _ : Nat,
      ReadsBack (do
        let key ← binReadI64 field
        return (key, ← read)) (binWriteI64 entry.1 ++ write entry.2)
        (entry.1, convert entry.2) := by
    intro entry _ _
    apply reads_bind (reads_i64 entry.1 field)
    exact reads_return (fun value => (entry.1, value)) (each entry.2)
  have items := reads_items entry 0
  rw [count] at items
  apply reads_bind (reads_usize short field)
  have whole := reads_return (collectMap none ∅) items
  rw [collected_listed] at whole
  exact whole

end Collections

section Encodings

def canonicalEncodings (values : IdEncodings Binary32) : IdEncodings Binary32 :=
  fun submodule => (values submodule).map fun _ encoding => encoding.map canonicalNan32

/-- Every encoding has the dimension of its submodule. -/
def Dimensioned (values : IdEncodings Binary32) : Prop :=
  ∀ (submodule : IdSubmodule) (identity : Int64) (encoding : List Binary32),
    (values submodule)[identity]? = some encoding → encoding.length = submodule.dim

def encodingPiece (entry : Int64 × List Binary32) : List UInt8 :=
  binWriteI64 entry.1 ++ (binWriteU64 entry.2.length ++ entry.2.flatMap binWriteF32)

def submodulePiece (values : IdEncodings Binary32) (submodule : IdSubmodule) : List UInt8 :=
  binWriteString submodule.name ++
    (binWriteU64 (values submodule).size ++ (values submodule).toList.flatMap encodingPiece)

def encodingsPiece (values : IdEncodings Binary32) : List UInt8 :=
  binWriteU64 idSubmodules.length ++ idSubmodules.flatMap (submodulePiece values)

theorem dimension_small (submodule : IdSubmodule) : submodule.dim < 2 ^ 64 := by
  cases submodule with
  | cardId => decide
  | noteId => decide
  | deckId => decide
  | presetId => decide

theorem found_submodule (submodule : IdSubmodule) :
    (idSubmodules.find? fun other => other.name == submodule.name) = some submodule := by
  cases submodule with
  | cardId => decide
  | noteId => decide
  | deckId => decide
  | presetId => decide

theorem encodings_written {values : IdEncodings Binary32} (dimensioned : Dimensioned values) :
    binWriteIdEncodings values = .ok (encodingsPiece values) := by
  have entries : ∀ submodule, (values submodule).toList.mapM (binWriteIdEncoding submodule) =
      .ok ((values submodule).toList.map encodingPiece) := by
    intro submodule
    apply ResultSteps.mapM_all_ok
    intro entry member
    have held := ExtTreeMap.mem_toList_iff_getElem?_eq_some.mp member
    have length := dimensioned submodule entry.1 entry.2 held
    rw [binWriteIdEncoding, if_neg (not_not.mpr length)]
    rfl
  have sections : idSubmodules.mapM (binWriteSubmoduleEncodings values) =
      .ok (idSubmodules.map (submodulePiece values)) := by
    apply ResultSteps.mapM_all_ok
    intro submodule _
    rw [binWriteSubmoduleEncodings, entries submodule]
    rfl
  rw [binWriteIdEncodings, sections]
  rfl

theorem reads_encoding {submodule : IdSubmodule} {entry : Int64 × List Binary32}
    (dimensioned : entry.2.length = submodule.dim) (index : Nat) :
    ReadsBack (binReadIdEncoding submodule index) (encodingPiece entry)
      (entry.1, entry.2.map canonicalNan32) := by
  apply reads_bind (reads_i64 entry.1 _)
  have short : entry.2.length < 2 ^ 64 := by
    rw [dimensioned]
    exact dimension_small submodule
  apply reads_bind (reads_usize short _)
  rw [if_neg (not_not.mpr dimensioned)]
  apply reads_return (fun values => (entry.1, values))
  exact reads_items (fun value _ _ => reads_f32 value _) 0

theorem reads_submodule {values : IdEncodings Binary32} (dimensioned : Dimensioned values)
    {out : IdEncodings Binary32} {submodule : IdSubmodule} (empty : out submodule = ∅) :
    ReadsBack (binReadSubmoduleEncodings none out) (submodulePiece values submodule)
      (Function.update out submodule (canonicalEncodings values submodule)) := by
  apply reads_of_small
  intro small
  have count : (values submodule).toList.length = (values submodule).size :=
    ExtTreeMap.length_toList
  have wide : ∀ entry, 8 ≤ (encodingPiece entry).length := by
    intro entry
    rw [encodingPiece, List.length_append, write_i64_length]
    omega
  have bound := piece_bounds_count (values submodule).toList wide
  have short : (values submodule).size < 2 ^ 64 := by
    rw [submodulePiece, List.length_append, List.length_append] at small
    omega
  apply reads_bind (reads_string submodule.name _)
  rw [found_submodule]
  apply reads_bind (reads_usize short _)
  have each : ∀ entry ∈ (values submodule).toList, ∀ index,
      ReadsBack (binReadIdEncoding submodule index) (encodingPiece entry)
        (entry.1, entry.2.map canonicalNan32) := by
    intro entry member index
    have held := ExtTreeMap.mem_toList_iff_getElem?_eq_some.mp member
    exact reads_encoding (dimensioned submodule entry.1 entry.2 held) index
  have items := reads_items each 0
  rw [count] at items
  have whole := reads_return (fun entries other =>
    if other = submodule then collectMap none (out submodule) entries else out other) items
  have same : (fun other => if other = submodule then collectMap none (out submodule)
        ((values submodule).toList.map fun entry => (entry.1, entry.2.map canonicalNan32))
      else out other) =
      Function.update out submodule (canonicalEncodings values submodule) := by
    funext other
    by_cases here : other = submodule
    · subst here
      rw [Function.update_self, if_pos rfl, empty, collected_listed]
      rfl
    · rw [Function.update_of_ne here, if_neg here]
  rw [same] at whole
  exact whole

theorem reads_modules {values : IdEncodings Binary32} (dimensioned : Dimensioned values)
    {submodules : List IdSubmodule} (distinct : submodules.Nodup) {out : IdEncodings Binary32}
    (empty : ∀ submodule ∈ submodules, out submodule = ∅) :
    ReadsBack (readModules none submodules.length out)
      (submodules.flatMap (submodulePiece values))
      (fun other => if other ∈ submodules then canonicalEncodings values other else out other) := by
  induction submodules generalizing out with
  | nil =>
      have same : (fun other => if other ∈ ([] : List IdSubmodule) then
          canonicalEncodings values other else out other) = out := by
        funext other
        rw [if_neg List.not_mem_nil]
      rw [same]
      exact reads_pure out
  | cons submodule submodules ih =>
      obtain ⟨fresh, rest⟩ := List.nodup_cons.mp distinct
      rw [List.flatMap_cons]
      apply reads_bind (reads_submodule dimensioned (empty submodule List.mem_cons_self))
      have stillEmpty : ∀ other ∈ submodules,
          Function.update out submodule (canonicalEncodings values submodule) other = ∅ := by
        intro other member
        have different : other ≠ submodule := by
          intro same
          exact fresh (same ▸ member)
        rw [Function.update_of_ne different]
        exact empty other (List.mem_cons_of_mem submodule member)
      have reads := ih rest stillEmpty
      have same : (fun other => if other ∈ submodules then canonicalEncodings values other else
            Function.update out submodule (canonicalEncodings values submodule) other) =
          fun other => if other ∈ submodule :: submodules then canonicalEncodings values other
            else out other := by
        funext other
        by_cases here : other = submodule
        · subst here
          rw [if_neg fresh, Function.update_self, if_pos List.mem_cons_self]
        · rw [Function.update_of_ne here]
          simp [here]
      rw [same] at reads
      exact reads

theorem reads_id_encodings {values : IdEncodings Binary32} (dimensioned : Dimensioned values) :
    ReadsBack (binReadIdEncodingsSelected none) (encodingsPiece values)
      (canonicalEncodings values) := by
  apply reads_bind (reads_usize (by decide) _)
  have all : ∀ submodule, submodule ∈ idSubmodules := by
    intro submodule
    cases submodule with
    | cardId => decide
    | noteId => decide
    | deckId => decide
    | presetId => decide
  have distinct : idSubmodules.Nodup := by decide
  have empty : ∀ submodule ∈ idSubmodules,
      (emptyIdEncodings : IdEncodings Binary32) submodule = ∅ := fun _ _ => rfl
  have reads := reads_modules dimensioned distinct empty
  have same : (fun other => if other ∈ idSubmodules then canonicalEncodings values other else
      emptyIdEncodings other) = canonicalEncodings values := by
    funext submodule
    rw [if_pos (all submodule)]
  rw [same] at reads
  exact reads

end Encodings

section States

def canonicalTensor (tensor : Tensor Binary32) : Tensor Binary32 where
  dims := tensor.dims
  data := tensor.data.map canonicalNan32
  sized := by rw [List.length_map, tensor.sized]

def canonicalState (state : EntityState) : EntityState where
  timeXShiftB1cByLayer := state.timeXShiftB1cByLayer.map canonicalTensor
  timeStateB1hkkByLayer := state.timeStateB1hkkByLayer.map canonicalTensor
  channelStateB1cByLayer := state.channelStateB1cByLayer.map canonicalTensor

/-- Dimensions that a usize can hold, and so can each of their partial products. -/
structure StorableTensor (rank : Nat) (tensor : Tensor Binary32) : Prop where
  ranked : tensor.dims.length = rank
  dimensions : ∀ dim ∈ tensor.dims, dim < 2 ^ 64
  counted : checkedProduct tensor.dims = some tensor.dims.prod

/-- As many layers of each kind, each of its rank. -/
structure StorableState (state : EntityState) : Prop where
  recurrentLayers : state.timeStateB1hkkByLayer.length = state.timeXShiftB1cByLayer.length
  channelLayers : state.channelStateB1cByLayer.length = state.timeXShiftB1cByLayer.length
  shifts : ∀ tensor ∈ state.timeXShiftB1cByLayer, StorableTensor 3 tensor
  matrices : ∀ tensor ∈ state.timeStateB1hkkByLayer, StorableTensor 5 tensor
  channels : ∀ tensor ∈ state.channelStateB1cByLayer, StorableTensor 3 tensor

def tensorPiece (tensor : Tensor Binary32) : List UInt8 :=
  toLe 1 tensor.dims.length ++ (tensor.dims.flatMap binWriteU64 ++
    (binWriteU64 tensor.data.length ++ tensor.data.flatMap binWriteF32))

def tensorVecPiece (tensors : List (Tensor Binary32)) : List UInt8 :=
  binWriteU64 tensors.length ++ tensors.flatMap tensorPiece

def statePiece (state : EntityState) : List UInt8 :=
  tensorVecPiece state.timeXShiftB1cByLayer ++ (tensorVecPiece state.timeStateB1hkkByLayer ++
    tensorVecPiece state.channelStateB1cByLayer)

theorem tensor_piece_written {rank : Nat} {tensor : Tensor Binary32} (small : rank < 256)
    (storable : StorableTensor rank tensor) :
    binWriteTensor tensor rank = .ok (tensorPiece tensor) := by
  have ranked := storable.ranked
  rw [binWriteTensor, if_neg (not_not.mpr ranked), binWriteRank, ranked, if_pos small]
  simp [tensorPiece, ranked, bind, Except.bind, pure, Except.pure]

theorem tensor_vec_piece_written {rank : Nat} {tensors : List (Tensor Binary32)}
    (small : rank < 256) (storable : ∀ tensor ∈ tensors, StorableTensor rank tensor) :
    binWriteTensorVec tensors rank = .ok (tensorVecPiece tensors) := by
  have entries : tensors.mapM (fun tensor => binWriteTensor tensor rank) =
      .ok (tensors.map tensorPiece) := by
    apply ResultSteps.mapM_all_ok
    intro tensor member
    exact tensor_piece_written small (storable tensor member)
  rw [binWriteTensorVec, entries]
  rfl

theorem state_piece_written {state : EntityState} (storable : StorableState state) :
    binWriteEntityState state = .ok (statePiece state) := by
  rw [binWriteEntityState, tensor_vec_piece_written (by decide) storable.shifts,
    tensor_vec_piece_written (by decide) storable.matrices,
    tensor_vec_piece_written (by decide) storable.channels]
  simp [statePiece, bind, Except.bind, pure, Except.pure]

theorem floats_read (values : List Binary32) :
    ((List.range values.length).map fun index =>
      (⟨UInt32.ofNat (fromLe (((values.flatMap binWriteF32).drop (4 * index)).take 4))⟩ : Binary32)) =
      values.map canonicalNan32 := by
  have sized : StrideBlocks.Sized 4 (values.map binWriteF32) := by
    intro block member
    obtain ⟨value, _, same⟩ := List.mem_map.mp member
    rw [← same]
    exact write_f32_length value
  apply List.ext_getElem
  · simp
  · intro index inside _
    have inRange : index < values.length := by simpa using inside
    have mapped : index < (values.map binWriteF32).length := by simpa using inRange
    have block := StrideBlocks.slice_block sized mapped
    rw [List.getElem_map, List.getElem_range, List.getElem_map, Nat.mul_comm,
      List.flatMap_def]
    rw [StrideBlocks.slice] at block
    rw [block, List.getElem_map, write_f32_bits, from_le_of_small (UInt32.toNat_lt _),
      of_bits_32]

theorem reads_f32_vec {values : List Binary32} (small : values.length * 4 < 2 ^ 63)
    (field : String) :
    ReadsBack (binReadF32VecBulk values.length field) (values.flatMap binWriteF32)
      (values.map canonicalNan32) := by
  rw [binReadF32VecBulk, if_neg (by omega)]
  by_cases empty : values.length = 0
  · rw [if_pos empty, List.eq_nil_of_length_eq_zero empty]
    exact reads_pure []
  · rw [if_neg empty]
    apply reads_skip (reads_capacity (by omega) field)
    have whole := reads_return (fun bytes => (List.range values.length).map fun index =>
      (⟨UInt32.ofNat (fromLe ((bytes.drop (4 * index)).take 4))⟩ : Binary32))
      (reads_exact (floats_length values) field)
    rw [floats_read] at whole
    exact whole

theorem reads_tensor {rank : Nat} {tensor : Tensor Binary32} (small : rank < 256)
    (storable : StorableTensor rank tensor) (field : String) :
    ReadsBack (binReadTensor field rank) (tensorPiece tensor) (canonicalTensor tensor) := by
  apply reads_of_small
  intro short
  have valuesShort : tensor.data.length * 4 < 2 ^ 63 := by
    rw [tensorPiece, List.length_append, List.length_append, List.length_append,
      floats_length] at short
    omega
  have ranked := storable.ranked
  apply reads_bind (reads_u8 (ranked ▸ small) field)
  rw [if_neg (not_not.mpr ranked)]
  have each : ∀ dim ∈ tensor.dims, ∀ index : Nat,
      ReadsBack (binReadUsize (field ++ ".shape[" ++ toString index ++ "]")) (binWriteU64 dim)
        (id dim) := by
    intro dim member index
    exact reads_usize (storable.dimensions dim member) _
  have dims := reads_items each 0
  rw [List.map_id] at dims
  apply reads_bind dims
  simp only [storable.counted]
  apply reads_bind (reads_usize (by omega) _)
  rw [if_neg (not_not.mpr tensor.sized)]
  have made : Tensor.fromVec (tensor.data.map canonicalNan32) tensor.dims =
      .ok (canonicalTensor tensor) := dif_pos (canonicalTensor tensor).sized
  rw [← List.append_nil (tensor.data.flatMap binWriteF32)]
  apply reads_bind (reads_f32_vec valuesShort field)
  simp only [made]
  apply reads_pure

theorem tensor_piece_wide (tensor : Tensor Binary32) : 8 ≤ (tensorPiece tensor).length := by
  rw [tensorPiece, List.length_append, List.length_append, List.length_append, write_u64_length]
  omega

theorem reads_tensor_vec {rank : Nat} {tensors : List (Tensor Binary32)} (small : rank < 256)
    (storable : ∀ tensor ∈ tensors, StorableTensor rank tensor) (field : String) :
    ReadsBack (binReadTensorVec field rank) (tensorVecPiece tensors)
      (tensors.map canonicalTensor) := by
  apply reads_of_small
  intro short
  have bound := piece_bounds_count tensors tensor_piece_wide
  have fits : tensors.length * 8 < 2 ^ 63 := by
    rw [tensorVecPiece, List.length_append] at short
    omega
  apply reads_bind (reads_usize (by omega) field)
  apply reads_skip (reads_capacity fits field)
  apply reads_items
  intro tensor member index
  exact reads_tensor small (storable tensor member) _

theorem reads_entity {state : EntityState} (storable : StorableState state) (field : String) :
    ReadsBack (binReadEntityState field) (statePiece state) (canonicalState state) := by
  apply reads_bind (reads_tensor_vec (by decide) storable.shifts _)
  apply reads_bind (reads_tensor_vec (by decide) storable.matrices _)
  rw [← List.append_nil (tensorVecPiece state.channelStateB1cByLayer)]
  apply reads_bind (reads_tensor_vec (by decide) storable.channels _)
  have parts : nativeModuleStateFromParts (state.timeXShiftB1cByLayer.map canonicalTensor)
      (state.timeStateB1hkkByLayer.map canonicalTensor)
      (state.channelStateB1cByLayer.map canonicalTensor) field = .ok (canonicalState state) := by
    rw [nativeModuleStateFromParts, if_neg]
    · rfl
    · rw [List.length_map, List.length_map, List.length_map, storable.recurrentLayers,
        storable.channelLayers]
      simp
  simp only [parts]
  apply reads_pure

def optionalPiece : Option EntityState → List UInt8
  | some state => binWriteU8 1 ++ statePiece state
  | none => binWriteU8 0

theorem reads_optional_state {state : Option EntityState}
    (storable : ∀ held, state = some held → StorableState held) (field : String) :
    ReadsBack (binReadOptionalState field) (optionalPiece state) (state.map canonicalState) := by
  cases state with
  | none =>
      change ReadsBack _ (binWriteU8 0) _
      rw [← List.append_nil (binWriteU8 0)]
      apply reads_bind (reads_u8 (by decide) field)
      apply reads_pure
  | some held =>
      apply reads_bind (reads_u8 (by decide) field)
      exact reads_return some (reads_entity (storable held rfl) field)

abbrev StateEntry := Int64 × EntityState

def indexEntry (entry : StateEntry) : Int64 × Nat := (entry.1, (statePiece entry.2).length)

def indexPiece (entries : List StateEntry) : List UInt8 :=
  entries.flatMap fun entry => binWriteI64 entry.1 ++ binWriteU64 (statePiece entry.2).length

def statesPiece (entries : List StateEntry) : List UInt8 :=
  entries.flatMap fun entry => statePiece entry.2

def indexedPiece (entries : List StateEntry) : List UInt8 :=
  binWriteU64 entries.length ++ (indexPiece entries ++ statesPiece entries)

def canonicalEntry (entry : StateEntry) : StateEntry := (entry.1, canonicalState entry.2)

theorem reads_entry_state {state : EntityState} (storable : StorableState state)
    (entryField : String) :
    ReadsBack (entryState entryField (statePiece state).length) (statePiece state)
      (canonicalState state) := by
  rw [← List.append_nil (statePiece state), entryState]
  apply reads_bind
  · rw [List.append_nil]
    exact reads_limited (reads_entity storable entryField) rfl
  · apply reads_pure

theorem reads_entries {entries : List StateEntry}
    (storable : ∀ entry ∈ entries, StorableState entry.2) (field : String)
    (kept : StateMap) {before after : List UInt8}
    (small : (before ++ (statesPiece entries ++ after)).length < 2 ^ 63) :
    (entries.map indexEntry).foldlM (binReadIndexedEntry field none)
        ⟨before.length, before.length, kept⟩ ⟨before ++ (statesPiece entries ++ after), before.length⟩ =
      .ok (⟨before.length + (statesPiece entries).length, before.length + (statesPiece entries).length,
          collectMap none kept (entries.map canonicalEntry)⟩,
        ⟨before ++ (statesPiece entries ++ after),
          before.length + (statesPiece entries).length⟩) := by
  induction entries generalizing kept before with
  | nil => rfl
  | cons entry entries ih =>
      have pieces : statesPiece (entry :: entries) = statePiece entry.2 ++ statesPiece entries := rfl
      have split : before ++ (statesPiece (entry :: entries) ++ after) =
          before ++ (statePiece entry.2 ++ (statesPiece entries ++ after)) := by
        rw [pieces, List.append_assoc]
      have moved : before ++ (statePiece entry.2 ++ (statesPiece entries ++ after)) =
          (before ++ statePiece entry.2) ++ (statesPiece entries ++ after) := by
        rw [List.append_assoc before]
      rw [split] at small ⊢
      have fits : before.length + (statePiece entry.2).length < 2 ^ 64 := by
        simp only [List.length_append] at small
        omega
      have offsetSmall : before.length < 2 ^ 63 := by
        simp only [List.length_append] at small
        omega
      have reads := reads_entry_state (storable entry List.mem_cons_self)
        (field ++ "[" ++ toString entry.1 ++ "]") before (statesPiece entries ++ after) small
      have stepped : binReadIndexedEntry field none ⟨before.length, before.length, kept⟩
          (indexEntry entry)
          ⟨before ++ (statePiece entry.2 ++ (statesPiece entries ++ after)), before.length⟩ =
          .ok (⟨before.length + (statePiece entry.2).length,
              before.length + (statePiece entry.2).length,
              kept.insert entry.1 (canonicalState entry.2)⟩,
            ⟨before ++ (statePiece entry.2 ++ (statesPiece entries ++ after)),
              before.length + (statePiece entry.2).length⟩) := by
        rw [indexEntry, entry_read field fits rfl rfl offsetSmall]
        exact bind_read.mpr ⟨_, _, reads, rfl⟩
      rw [List.map_cons, List.foldlM_cons]
      apply bind_read.mpr
      refine ⟨_, _, stepped, ?_⟩
      rw [moved] at small ⊢
      have rest := ih (fun other member => storable other (List.mem_cons_of_mem entry member))
        (kept.insert entry.1 (canonicalState entry.2)) small
      rw [List.length_append] at rest
      rw [rest, pieces, List.length_append, Nat.add_assoc]
      rfl

theorem reads_indexed {entries : List StateEntry}
    (storable : ∀ entry ∈ entries, StorableState entry.2) (field : String) :
    ReadsBack (readIndexed field none (entries.map indexEntry)) (statesPiece entries)
      (collectMap none ∅ (entries.map canonicalEntry)) := by
  intro before after small
  apply bind_read.mpr
  refine ⟨before.length, _, rfl, ?_⟩
  apply bind_read.mpr
  refine ⟨_, _, reads_entries storable field ∅ small, ?_⟩
  dsimp only
  rw [goes_on_at]
  · rfl
  · rfl
  · simp only [List.length_append] at small
    omega

theorem state_part_length {entries : List StateEntry} {entry : StateEntry} (member : entry ∈ entries) :
    (statePiece entry.2).length ≤ (statesPiece entries).length := by
  rw [statesPiece, List.flatMap_def]
  apply List.Sublist.length_le
  apply List.sublist_flatten_of_mem
  exact List.mem_map_of_mem member

/-- The index of a map that fits into a file fits into memory, and so do its states. -/
theorem index_fits {entries : List StateEntry} (small : (indexedPiece entries).length < 2 ^ 63) :
    entries.length * 16 < 2 ^ 63 ∧ (statesPiece entries).length < 2 ^ 63 := by
  have wide : ∀ entry : StateEntry, 16 ≤ (binWriteI64 entry.1 ++
      binWriteU64 (statePiece entry.2).length).length := by
    intro entry
    rw [List.length_append, write_i64_length, write_u64_length]
  have bound : entries.length * 16 ≤ (indexPiece entries).length := piece_bounds_count entries wide
  rw [indexedPiece, List.length_append, List.length_append] at small
  omega

theorem reads_index {entries : List StateEntry} (short : (statesPiece entries).length < 2 ^ 63)
    (field : String) :
    ReadsBack (readItems (fun itemIndex => do
      let identity ← binReadI64 (field ++ "[" ++ toString itemIndex ++ "].id")
      return (identity, ← binReadUsize (field ++ "[" ++ toString identity ++ "].byte_len")))
        0 entries.length) (indexPiece entries) (entries.map indexEntry) := by
  have each : ∀ entry ∈ entries, ∀ itemIndex : Nat, ReadsBack (do
      let identity ← binReadI64 (field ++ "[" ++ toString itemIndex ++ "].id")
      return (identity, ← binReadUsize (field ++ "[" ++ toString identity ++ "].byte_len")))
      (binWriteI64 entry.1 ++ binWriteU64 (statePiece entry.2).length) (indexEntry entry) := by
    intro entry member itemIndex
    have part := state_part_length member
    apply reads_bind (reads_i64 entry.1 _)
    exact reads_return (fun byteLen => (entry.1, byteLen)) (reads_usize (by omega) _)
  exact reads_items each 0

theorem reads_state_map {entries : List StateEntry}
    (storable : ∀ entry ∈ entries, StorableState entry.2) (field : String) :
    ReadsBack (binReadIndexedStateMap field none) (indexedPiece entries)
      (collectMap none ∅ (entries.map canonicalEntry)) := by
  apply reads_of_small
  intro short
  obtain ⟨fits, statesShort⟩ := index_fits short
  apply reads_bind (reads_usize (by omega) field)
  apply reads_skip (reads_capacity fits field)
  apply reads_bind (reads_index statesShort field)
  exact reads_indexed storable field

end States

end RwkvSrs.SectionReadBack
