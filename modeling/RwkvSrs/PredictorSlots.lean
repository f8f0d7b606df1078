import RwkvSrs.PredictorArena

/-!
What an arena of the predictor keeps. Its slots are the numbers below their
count, one for each identity that has a state, and the buffer holds that state in
half precision at the slot. Building an arena establishes this; writing a state
and retiring the last slot keep it, and no other slot moves.
-/

namespace RwkvSrs.PredictorSlots

open Std RwkvSrs.KeyedMerge RwkvSrs.ModuleState RwkvSrs.NativeRnnState RwkvSrs.PredictorArena
open RwkvSrs.ResultSteps RwkvSrs.StateLayouts RwkvSrs.StrideBlocks

set_option autoImplicit false

variable {V H : Type}

/-- The slots are the numbers below their count, each of one identity. -/
structure Bijective (slots : ExtTreeMap Int64 UInt32) : Prop where
  below : ∀ (identity : Int64) (slot : UInt32), slots[identity]? = some slot →
    slot.toNat < slots.size
  injective : ∀ (first second : Int64) (slot : UInt32), slots[first]? = some slot →
    slots[second]? = some slot → first = second
  onto : ∀ place, place < slots.size → ∃ identity : Int64,
    slots[identity]? = some (UInt32.ofNat place)

section Slots

variable {slots : ExtTreeMap Int64 UInt32} {identity : Int64}

theorem slot_number {place : Nat} (small : place < 2 ^ 32) : (UInt32.ofNat place).toNat = place :=
  UInt32.toNat_ofNat_of_lt small

theorem bijective_empty : Bijective ∅ := by
  refine ⟨?_, ?_, ?_⟩
  · intro identity slot found
    simp at found
  · intro first second slot found
    simp at found
  · intro place small
    simp at small

theorem size_fresh (fresh : slots[identity]? = none) (slot : UInt32) :
    (slots.insert identity slot).size = slots.size + 1 := by
  have absent : slots.contains identity = false := by
    rw [ExtTreeMap.contains_eq_isSome_getElem?, fresh]
    rfl
  rw [ExtTreeMap.size_insert, absent]
  rfl

theorem bijective_insert (bijective : Bijective slots) (fresh : slots[identity]? = none)
    (few : slots.size < 2 ^ 32) :
    Bijective (slots.insert identity (UInt32.ofNat slots.size)) := by
  have size := size_fresh fresh (UInt32.ofNat slots.size)
  have number := slot_number few
  have apart : ∀ (other : Int64) (slot : UInt32), slots[other]? = some slot → slot ≠ UInt32.ofNat slots.size := by
    intro other slot found same
    have small := bijective.below other slot found
    rw [same, number] at small
    exact Nat.lt_irrefl _ small
  refine ⟨?_, ?_, ?_⟩
  · intro other slot found
    rw [size]
    rw [ExtTreeMap.getElem?_insert] at found
    split at found
    · cases found
      rw [number]
      exact Nat.lt_succ_self _
    · exact Nat.lt_succ_of_lt (bijective.below other slot found)
  · intro first second slot here there
    rw [ExtTreeMap.getElem?_insert] at here there
    split at here
    · rename_i firstSame
      have firstIs : identity = first := by simpa using firstSame
      cases here
      split at there
      · rename_i secondSame
        exact firstIs.symm.trans (by simpa using secondSame)
      · exact absurd rfl (apart second _ there)
    · split at there
      · cases there
        exact absurd rfl (apart first _ here)
      · exact bijective.injective first second slot here there
  · intro place small
    rw [size] at small
    rcases Nat.lt_or_ge place slots.size with inside | outside
    · obtain ⟨other, found⟩ := bijective.onto place inside
      refine ⟨other, ?_⟩
      rw [ExtTreeMap.getElem?_insert]
      split
      · rename_i same
        have is : identity = other := by simpa using same
        rw [is] at fresh
        rw [fresh] at found
        cases found
      · exact found
    · have last : place = slots.size := by omega
      refine ⟨identity, ?_⟩
      rw [ExtTreeMap.getElem?_insert, last]
      simp

theorem bijective_erase (bijective : Bijective slots)
    (tail : slots[identity]? = some (UInt32.ofNat (slots.size - 1))) (few : slots.size < 2 ^ 32) :
    Bijective (slots.erase identity) := by
  have member : slots.contains identity = true := by
    rw [ExtTreeMap.contains_eq_isSome_getElem?, tail]
    rfl
  have size : (slots.erase identity).size = slots.size - 1 := by
    rw [ExtTreeMap.size_erase, member]
    rfl
  have number : (UInt32.ofNat (slots.size - 1)).toNat = slots.size - 1 := slot_number (by omega)
  have kept : ∀ (other : Int64) (slot : UInt32), (slots.erase identity)[other]? = some slot →
      identity ≠ other ∧ slots[other]? = some slot := by
    intro other slot found
    rw [ExtTreeMap.getElem?_erase] at found
    split at found
    · cases found
    · rename_i apart
      exact ⟨by simpa using apart, found⟩
  refine ⟨?_, ?_, ?_⟩
  · intro other slot found
    obtain ⟨apart, before⟩ := kept other slot found
    have small := bijective.below other slot before
    have different : slot.toNat ≠ slots.size - 1 := by
      intro same
      have last : slot = UInt32.ofNat (slots.size - 1) := by
        rw [← same]
        exact (UInt32.ofNat_toNat).symm
      rw [last] at before
      exact apart (bijective.injective _ _ _ tail before)
    rw [size]
    omega
  · intro first second slot here there
    exact bijective.injective first second slot (kept first slot here).2 (kept second slot there).2
  · intro place small
    rw [size] at small
    obtain ⟨other, found⟩ := bijective.onto place (by omega)
    refine ⟨other, ?_⟩
    rw [ExtTreeMap.getElem?_erase]
    split
    · rename_i same
      have is : identity = other := by simpa using same
      rw [← is, tail] at found
      have numbers := congrArg UInt32.toNat (Option.some.inj found)
      rw [number, slot_number (by omega)] at numbers
      omega
    · exact found

end Slots

section Packing

variable {toHalf : V → H} {name : String} {output packed : List H} {layers : Nat}

theorem append_tensor_packed {tensor : Tensor V} {expected : Nat}
    (ran : appendTensorF16 toHalf name output tensor expected = .ok packed) :
    packed = output ++ tensor.data.map toHalf := by
  rw [appendTensorF16] at ran
  split at ran
  · cases ran
  · exact (Except.ok.inj ran).symm

theorem append_layer_packed {layer : LayerTensors V}
    (ran : appendLayerF16 toHalf name output layer = .ok packed) :
    packed = output ++ (layerValues layer).map toHalf := by
  obtain ⟨shifted, shift, rest⟩ := bind_ok.mp ran
  obtain ⟨mixed, matrix, channel⟩ := bind_ok.mp rest
  rw [append_tensor_packed channel, append_tensor_packed matrix, append_tensor_packed shift,
    layerValues, List.map_append, List.map_append, List.append_assoc, List.append_assoc]

theorem append_layers_packed {tensors : List (LayerTensors V)}
    (ran : tensors.foldlM (appendLayerF16 toHalf name) output = .ok packed) :
    packed = output ++ (tensors.flatMap layerValues).map toHalf := by
  induction tensors generalizing output with
  | nil =>
      cases ran
      rw [List.flatMap_nil, List.map_nil, List.append_nil]
  | cons layer tensors ih =>
      rw [List.foldlM_cons] at ran
      obtain ⟨next, first, rest⟩ := bind_ok.mp ran
      rw [ih rest, append_layer_packed first, List.flatMap_cons, List.map_append,
        List.append_assoc]

theorem append_state_packed {state : NativeRnnModuleState V}
    (ran : appendStateF16 toHalf name output state layers = .ok packed) :
    packed = output ++ halves toHalf state ∧
      (halves toHalf state).length = layers * flatStateLayerElements := by
  unfold appendStateF16 at ran
  split at ran
  · obtain ⟨found, folded, rest⟩ := bind_ok.mp ran
    have same := append_layers_packed folded
    split at rest
    · rename_i length
      cases rest
      refine ⟨same, ?_⟩
      rw [same, List.length_append, Nat.add_sub_cancel_left] at length
      exact length
    · cases rest
  · cases ran

theorem append_flat_packed {flat : FlatNativeRnnModuleState V}
    (ran : appendFlatStateF16 toHalf name output flat layers = .ok packed) :
    packed = output ++ halves toHalf flat.materialize ∧
      (halves toHalf flat.materialize).length = layers * flatStateLayerElements := by
  unfold appendFlatStateF16 at ran
  simp only at ran
  split at ran
  · cases ran
  · split at ran
    · cases ran
    · rename_i length
      rw [not_not] at length
      refine ⟨?_, ?_⟩
      · rw [halves, ← shaped_values]
        exact (Except.ok.inj ran).symm
      · rw [halves, ← shaped_values, List.length_map, length]

/-- The state of an entry, whichever way it is held. -/
def entryState : CpuStateEntry V → NativeRnnModuleState V
  | .inl state => state
  | .inr flat => flat.materialize

theorem append_entry_packed {entry : CpuStateEntry V}
    (ran : appendEntryF16 toHalf name output layers entry = .ok packed) :
    packed = output ++ halves toHalf (entryState entry) ∧
      (halves toHalf (entryState entry)).length = layers * flatStateLayerElements := by
  cases entry with
  | inl state => exact append_state_packed ran
  | inr flat => exact append_flat_packed ran

end Packing

/-- `current` is what the buffer is to hold for each identity that has a state. -/
structure ArenaHolds (current : Int64 → Option (List H)) (arena : StateArena H) : Prop where
  bijective : Bijective arena.slots
  fits : arena.slots.size ≤ arena.capacity
  bounded : arena.capacity ≤ max 1 arena.maxCapacity
  few : arena.maxCapacity < 2 ^ 32 - 1
  room : arena.buffer.length = arena.capacity * arena.stride
  held : ∀ (identity : Int64) (slot : UInt32), arena.slots[identity]? = some slot →
    current identity = some (slice arena.buffer (slot.toNat * arena.stride) arena.stride)
  present : ∀ identity : Int64, arena.slots[identity]? = none → current identity = none

section Arenas

variable {arena reached : StateArena H} {current : Int64 → Option (List H)}
  {answers last : List (Option String)}

namespace ArenaHolds

theorem count_few (holds : ArenaHolds current arena) : arena.slots.size < 2 ^ 32 - 1 := by
  have fits := holds.fits
  have bounded := holds.bounded
  have few := holds.few
  omega

end ArenaHolds

theorem grow_holds [Zero H] (holds : ArenaHolds current arena)
    (ran : arena.grow answers = .ok (reached, last)) :
    ArenaHolds current reached ∧ reached.slots = arena.slots ∧ reached.stride = arena.stride ∧
      arena.slots.size < reached.capacity := by
  obtain ⟨_, _, checked, rest⟩ := device_bind_ok ran
  obtain ⟨_, _, _, rest⟩ := device_bind_ok rest
  have same := device_pure_ok rest
  have below : arena.capacity < arena.maxCapacity := by
    have found := device_check_ok checked
    split at found
    · assumption
    · cases found
  have fits := holds.fits
  have bounded := holds.bounded
  have larger : arena.capacity < min (arena.capacity + arena.capacity / 8 + 8) arena.maxCapacity := by
    omega
  have usedInside : arena.slots.size * arena.stride ≤ arena.buffer.length := by
    rw [holds.room]
    exact Nat.mul_le_mul_right _ fits
  have usedLength : (arena.buffer.take (arena.slots.size * arena.stride)).length =
      arena.slots.size * arena.stride := by
    rw [List.length_take, Nat.min_eq_left usedInside]
  have wider := Nat.mul_le_mul_right arena.stride (Nat.le_of_lt (Nat.lt_of_le_of_lt fits larger))
  have zeros : (List.replicate (min (arena.capacity + arena.capacity / 8 + 8) arena.maxCapacity *
      arena.stride) (0 : H)).length =
      min (arena.capacity + arena.capacity / 8 + 8) arena.maxCapacity * arena.stride :=
    List.length_replicate
  subst same
  refine ⟨⟨holds.bijective, ?_, ?_, holds.few, ?_, ?_, holds.present⟩, rfl, rfl, ?_⟩
  · exact Nat.le_of_lt (Nat.lt_of_le_of_lt fits larger)
  · exact Nat.le_trans (Nat.min_le_right _ _) (Nat.le_max_right _ _)
  · change (writeAt _ 0 _).length = _
    rw [write_length (by rw [usedLength, zeros, Nat.zero_add]; exact wider), zeros]
    rfl
  · intro identity slot found
    have small := holds.bijective.below identity slot found
    have next := Nat.mul_le_mul_right arena.stride (Nat.succ_le_of_lt small)
    rw [Nat.succ_mul] at next
    rw [holds.held identity slot found]
    congr 1
    change _ = slice (writeAt _ 0 _) (slot.toNat * arena.stride) arena.stride
    rw [writeAt, List.take_zero, List.nil_append, slice, slice,
      List.drop_append_of_le_length (by omega),
      List.take_append_of_le_length (by rw [List.length_drop]; omega), List.drop_take,
      List.take_take, Nat.min_eq_left (by omega)]
  · exact Nat.lt_of_le_of_lt fits larger

/-- An arena with a slot for the state that is about to be written. -/
structure ArenaReady (identity : Int64) (slot : UInt32) (current : Int64 → Option (List H))
    (arena : StateArena H) : Prop where
  bijective : Bijective arena.slots
  fits : arena.slots.size ≤ arena.capacity
  bounded : arena.capacity ≤ max 1 arena.maxCapacity
  few : arena.maxCapacity < 2 ^ 32 - 1
  room : arena.buffer.length = arena.capacity * arena.stride
  placed : arena.slots[identity]? = some slot
  held : ∀ (other : Int64) (found : UInt32), other ≠ identity → arena.slots[other]? = some found →
    current other = some (slice arena.buffer (found.toNat * arena.stride) arena.stride)
  present : ∀ other : Int64, arena.slots[other]? = none → current other = none

/-- Every slot stays where it is, but for one identity that may gain or lose its own. -/
structure SlotsKept (identity : Int64) (topologyChanged : Bool) (arena reached : StateArena H) :
    Prop where
  elsewhere : ∀ other, other ≠ identity → reached.slots[other]? = arena.slots[other]?
  same : topologyChanged = false → ∀ (other : Int64) (slot : UInt32),
    arena.slots[other]? = some slot → reached.slots[other]? = some slot

variable {identity : Int64}

theorem placed_fresh {grown : StateArena H} (holds : ArenaHolds current grown)
    (room : grown.slots.size < grown.capacity) (fresh : grown.slots[identity]? = none) :
    ArenaReady identity (UInt32.ofNat grown.slots.size) current
      { grown with slots := grown.slots.insert identity (UInt32.ofNat grown.slots.size) } := by
  have few := holds.count_few
  refine ⟨bijective_insert holds.bijective fresh (by omega), ?_, holds.bounded, holds.few,
    holds.room, ?_, ?_, ?_⟩
  · change (grown.slots.insert identity _).size ≤ grown.capacity
    rw [size_fresh fresh]
    exact room
  · change (grown.slots.insert identity _)[identity]? = _
    rw [ExtTreeMap.getElem?_insert]
    simp
  · intro other found apart inserted
    change (grown.slots.insert identity _)[other]? = some found at inserted
    rw [ExtTreeMap.getElem?_insert] at inserted
    split at inserted
    · rename_i same
      have is : identity = other := by simpa using same
      exact absurd is.symm apart
    · exact holds.held other found inserted
  · intro other absent
    change (grown.slots.insert identity _)[other]? = none at absent
    rw [ExtTreeMap.getElem?_insert] at absent
    split at absent
    · cases absent
    · exact holds.present other absent

theorem place_slot_ready [Zero H] (holds : ArenaHolds current arena) {placed : StateArena H}
    {slot : UInt32} (ran : arena.placeSlot identity answers = .ok ((placed, slot), last)) :
    ArenaReady identity slot current placed ∧ placed.stride = arena.stride ∧
      SlotsKept identity (arena.slots[identity]?).isNone arena placed := by
  unfold StateArena.placeSlot at ran
  cases present : arena.slots[identity]? with
  | some found =>
      rw [present] at ran
      have same := device_pure_ok ran
      cases same
      refine ⟨⟨holds.bijective, holds.fits, holds.bounded, holds.few, holds.room, present, ?_,
        holds.present⟩, rfl, ⟨fun _ _ => rfl, fun _ _ _ kept => kept⟩⟩
      intro other found apart
      exact holds.held other found
  | none =>
      rw [present] at ran
      obtain ⟨grown, _, growth, rest⟩ := device_bind_ok ran
      have same := device_pure_ok rest
      cases same
      have room : ArenaHolds current grown ∧ grown.slots = arena.slots ∧
          grown.stride = arena.stride ∧ arena.slots.size < grown.capacity := by
        unfold StateArena.growIfFull at growth
        split at growth
        · exact grow_holds holds growth
        · rename_i notFull
          have same := device_pure_ok growth
          subst same
          exact ⟨holds, rfl, rfl, Nat.lt_of_le_of_ne holds.fits notFull⟩
      obtain ⟨grownHolds, slots, stride, capacity⟩ := room
      rw [← slots] at present capacity
      refine ⟨placed_fresh grownHolds capacity present, stride, ⟨?_, ?_⟩⟩
      · intro other apart
        change (grown.slots.insert identity _)[other]? = _
        rw [ExtTreeMap.getElem?_insert, ← slots]
        have different : ¬compare identity other = .eq := by
          intro equal
          exact apart (LawfulEqCmp.compare_eq_iff_eq.mp equal).symm
        rw [if_neg different]
      · intro unchanged
        cases unchanged

theorem write_holds {slot : UInt32} {values buffer : List H}
    (ready : ArenaReady identity slot current arena) (sized : values.length = arena.stride)
    (written : buffer = writeAt arena.buffer (slot.toNat * arena.stride) values) :
    ArenaHolds (fun other => if other = identity then some values else current other)
      { arena with buffer := buffer } := by
  have small := ready.bijective.below identity slot ready.placed
  have fits := ready.fits
  have block : slot.toNat * arena.stride + arena.stride ≤ arena.buffer.length := by
    rw [ready.room, ← Nat.succ_mul]
    exact Nat.mul_le_mul_right _ (by omega)
  have inside : slot.toNat * arena.stride ≤ arena.buffer.length := by omega
  subst written
  refine ⟨ready.bijective, ready.fits, ready.bounded, ready.few, ?_, ?_, ?_⟩
  · change (writeAt arena.buffer _ values).length = _
    rw [write_length (by omega)]
    exact ready.room
  · intro other found here
    change arena.slots[other]? = some found at here
    change _ = some (slice (writeAt arena.buffer _ values) (found.toNat * arena.stride) arena.stride)
    by_cases same : other = identity
    · rw [same, ready.placed] at here
      cases here
      have whole : slice (writeAt arena.buffer (slot.toNat * arena.stride) values)
          (slot.toNat * arena.stride) values.length = values := slice_written inside
      rw [sized] at whole
      rw [if_pos same, whole]
    · rw [if_neg same]
      have apart : found.toNat ≠ slot.toNat := by
        intro equal
        have slots : found = slot := UInt32.toNat_inj.mp equal
        rw [slots] at here
        exact same (ready.bijective.injective _ _ _ here ready.placed)
      rw [slice_other sized inside apart, ready.held other found same here]
  · intro other absent
    change arena.slots[other]? = none at absent
    have apart : other ≠ identity := by
      intro same
      rw [same, ready.placed] at absent
      cases absent
    rw [if_neg apart]
    exact ready.present other absent

theorem update_holds [Zero H] {toHalf : V → H} {state : NativeRnnModuleState V}
    (holds : ArenaHolds current arena)
    (ran : arena.update toHalf identity state answers = .ok (reached, last)) :
    ArenaHolds (fun other => if other = identity then some (halves toHalf state) else current other)
      reached ∧ SlotsKept identity (arena.slots[identity]?).isNone arena reached := by
  obtain ⟨⟨placed, slot⟩, _, placedRan, rest⟩ := device_bind_ok ran
  obtain ⟨values, _, packed, rest⟩ := device_bind_ok rest
  obtain ⟨buffer, _, wrote, rest⟩ := device_bind_ok rest
  have same := device_pure_ok rest
  subst same
  obtain ⟨ready, stride, kept⟩ := place_slot_ready holds placedRan
  obtain ⟨isState, length⟩ := append_state_packed (device_check_ok packed)
  rw [List.nil_append] at isState
  subst isState
  have written := (write_buffer_ok wrote).2
  rw [← stride] at written
  have sized : (halves toHalf state).length = placed.stride := by
    rw [stride, length]
    rfl
  exact ⟨write_holds ready sized written, ⟨kept.elsewhere, kept.same⟩⟩

theorem retire_holds {slots : ExtTreeMap Int64 UInt32} {retired : Bool} {name : String}
    (holds : ArenaHolds current arena)
    (ran : retireTailSlot arena.slots identity name = .ok (slots, retired)) :
    ArenaHolds (fun other => if other = identity then none else current other)
      { arena with slots := slots } ∧ SlotsKept identity retired arena { arena with slots := slots } := by
  unfold retireTailSlot at ran
  split at ran
  · rename_i absent
    cases ran
    have none : current identity = none := holds.present identity absent
    have same : (fun other => if other = identity then Option.none else current other) = current := by
      funext other
      split
      · rename_i is
        rw [is, none]
      · rfl
    rw [same]
    exact ⟨holds, ⟨fun _ _ => rfl, fun _ _ _ kept => kept⟩⟩
  · rename_i slot present
    simp only at ran
    split at ran
    · rename_i tail
      cases ran
      rw [tail] at present
      have few := holds.count_few
      have bijective := bijective_erase holds.bijective present (by omega)
      have kept : ∀ (other : Int64) (found : UInt32),
          (arena.slots.erase identity)[other]? = some found →
            other ≠ identity ∧ arena.slots[other]? = some found := by
        intro other found here
        rw [ExtTreeMap.getElem?_erase] at here
        split at here
        · cases here
        · rename_i apart
          refine ⟨?_, here⟩
          intro same
          rw [same] at apart
          exact apart ReflCmp.compare_self
      refine ⟨⟨bijective, ?_, holds.bounded, holds.few, holds.room, ?_, ?_⟩, ⟨?_, ?_⟩⟩
      · exact Nat.le_trans ExtTreeMap.size_erase_le holds.fits
      · intro other found here
        obtain ⟨apart, before⟩ := kept other found here
        rw [if_neg apart]
        exact holds.held other found before
      · intro other absent
        change (arena.slots.erase identity)[other]? = none at absent
        split
        · rfl
        · rename_i apart
          rw [ExtTreeMap.getElem?_erase] at absent
          split at absent
          · rename_i equal
            exact absurd (LawfulEqCmp.compare_eq_iff_eq.mp equal).symm apart
          · exact holds.present other absent
      · intro other apart
        change (arena.slots.erase identity)[other]? = _
        rw [ExtTreeMap.getElem?_erase]
        have different : ¬compare identity other = .eq := by
          intro equal
          exact apart (LawfulEqCmp.compare_eq_iff_eq.mp equal).symm
        rw [if_neg different]
      · intro unchanged
        cases unchanged
    · cases ran

theorem restore_holds [Zero H] {toHalf : V → H} {state : Option (NativeRnnModuleState V)}
    {topologyChanged : Bool} (holds : ArenaHolds current arena)
    (ran : arena.restoreAfterUndo toHalf identity state answers =
      .ok ((reached, topologyChanged), last)) :
    ArenaHolds (fun other => if other = identity then state.map (halves toHalf) else current other)
      reached ∧ SlotsKept identity topologyChanged arena reached := by
  cases state with
  | some state =>
      obtain ⟨updated, _, updateRan, rest⟩ := device_bind_ok ran
      have same := device_pure_ok rest
      cases same
      exact update_holds holds updateRan
  | none =>
      obtain ⟨⟨slots, retired⟩, _, retireRan, rest⟩ := device_bind_ok ran
      have same := device_pure_ok rest
      cases same
      exact retire_holds holds (device_check_ok retireRan)

end Arenas

/-- After some entries: their keys in the order of their slots, and the states that have been
written or stand in the chunk. -/
structure Uploaded (stride capacity : Nat) (current : Int64 → Option (List H)) (keys : List Int64)
    (done : List (List H)) (upload : Upload H) : Prop where
  bijective : Bijective upload.slots
  size : upload.slots.size = upload.slot
  known : ∀ identity : Int64, upload.slots[identity]? ≠ none ↔ identity ∈ keys
  count : done.length = upload.slot
  sized : Sized stride done
  held : ∀ (identity : Int64) (slot : UInt32), upload.slots[identity]? = some slot →
    current identity = done[slot.toNat]?
  room : upload.buffer.length = capacity * stride
  written : ∃ start, start * stride + upload.chunk.length = upload.slot * stride ∧
    (upload.chunk ≠ [] → start = upload.chunkStart) ∧
      upload.buffer.take (start * stride) ++ upload.chunk = done.flatten

section Uploads

variable {stride capacity : Nat} {current : Int64 → Option (List H)} {keys : List Int64}
  {done : List (List H)} {upload reached : Upload H} {answers last : List (Option String)}

theorem flush_uploaded (uploaded : Uploaded stride capacity current keys done upload)
    (length : upload.chunkStart * stride + upload.chunk.length = upload.slot * stride)
    (pending : upload.buffer.take (upload.chunkStart * stride) ++ upload.chunk = done.flatten)
    (ran : flushChunk stride upload answers = .ok (reached, last)) :
    Uploaded stride capacity current keys done reached ∧ reached.slot = upload.slot ∧
      reached.chunk = [] := by
  obtain ⟨buffer, _, wrote, rest⟩ := device_bind_ok ran
  obtain ⟨_, _, _, rest⟩ := device_bind_ok rest
  have same := device_pure_ok rest
  obtain ⟨fits, written⟩ := write_buffer_ok wrote
  subst same
  subst written
  refine ⟨⟨uploaded.bijective, uploaded.size, uploaded.known, uploaded.count, uploaded.sized,
    uploaded.held, ?_, upload.slot, Nat.add_zero _, fun impossible => absurd rfl impossible, ?_⟩,
    rfl, rfl⟩
  · change (writeAt upload.buffer _ upload.chunk).length = _
    rw [write_length fits, uploaded.room]
  · change (writeAt upload.buffer _ upload.chunk).take (upload.slot * stride) ++ [] = _
    rw [List.append_nil, ← length, take_written (by omega), pending]

theorem upload_entry_uploaded {toHalf : V → H} {name : String} {layers chunkEntries : Nat}
    {entry : Int64 × CpuStateEntry V}
    (uploaded : Uploaded (layers * flatStateLayerElements) capacity current keys done upload)
    (fresh : entry.1 ∉ keys) (few : upload.slot < 2 ^ 32)
    (isCurrent : current entry.1 = some (halves toHalf (entryState entry.2)))
    (ran : uploadEntry toHalf name layers chunkEntries upload entry answers =
      .ok (reached, last)) :
    Uploaded (layers * flatStateLayerElements) capacity current (keys ++ [entry.1])
      (done ++ [halves toHalf (entryState entry.2)]) reached ∧ reached.slot = upload.slot + 1 := by
  obtain ⟨chunk, _, packed, rest⟩ := device_bind_ok ran
  obtain ⟨isChunk, length⟩ := append_entry_packed (device_check_ok packed)
  subst isChunk
  have absent : upload.slots[entry.1]? = none := by
    by_contra found
    exact fresh ((uploaded.known entry.1).mp found)
  have number := slot_number few
  have bijective := bijective_insert uploaded.bijective absent (by rw [uploaded.size]; exact few)
  rw [uploaded.size] at bijective
  obtain ⟨start, startLength, isStart, flattened⟩ := uploaded.written
  -- an empty chunk has everything before it in the buffer, wherever it last started
  have pending : ∃ next, next = (if upload.chunk.isEmpty then upload.slot else upload.chunkStart) ∧
      next * (layers * flatStateLayerElements) + upload.chunk.length =
        upload.slot * (layers * flatStateLayerElements) ∧
      upload.buffer.take (next * (layers * flatStateLayerElements)) ++ upload.chunk =
        done.flatten := by
    refine ⟨_, rfl, ?_⟩
    cases chunkIs : upload.chunk with
    | nil =>
        rw [chunkIs, List.length_nil, Nat.add_zero] at startLength
        rw [chunkIs] at flattened
        simp only [List.isEmpty_nil, if_true, List.length_nil, Nat.add_zero, true_and]
        rw [← startLength, flattened]
    | cons value rest =>
        have is := isStart (by rw [chunkIs]; simp)
        rw [chunkIs] at startLength flattened
        simp only [List.isEmpty_cons, Bool.false_eq_true, if_false]
        rw [← is]
        exact ⟨startLength, flattened⟩
  obtain ⟨next, isNext, nextLength, nextFlattened⟩ := pending
  have inserted : ∀ slot : UInt32, slot = UInt32.ofNat upload.slot →
      ∀ other, (upload.slots.insert entry.1 slot)[other]? =
        if other = entry.1 then some slot else upload.slots[other]? := by
    intro slot _ other
    rw [ExtTreeMap.getElem?_insert]
    by_cases same : other = entry.1
    · rw [if_pos same, same, if_pos ReflCmp.compare_self]
    · rw [if_neg same, if_neg (fun equal => same (LawfulEqCmp.compare_eq_iff_eq.mp equal).symm)]
  have lookup := inserted _ rfl
  have together : Uploaded (layers * flatStateLayerElements) capacity current (keys ++ [entry.1])
      (done ++ [halves toHalf (entryState entry.2)])
      { slots := upload.slots.insert entry.1 (UInt32.ofNat upload.slot)
        chunk := upload.chunk ++ halves toHalf (entryState entry.2)
        chunkStart := if upload.chunk.isEmpty then upload.slot else upload.chunkStart
        slot := upload.slot + 1
        buffer := upload.buffer } := by
    refine ⟨bijective, ?_, ?_, ?_, ?_, ?_, uploaded.room, next, ?_, fun _ => isNext, ?_⟩
    · change (upload.slots.insert entry.1 _).size = _
      rw [size_fresh absent, uploaded.size]
    · intro other
      change (upload.slots.insert entry.1 _)[other]? ≠ none ↔ _
      rw [lookup, List.mem_append, List.mem_singleton, ← uploaded.known other]
      by_cases same : other = entry.1
      · simp [same]
      · simp [same]
    · rw [List.length_append, uploaded.count, List.length_singleton]
    · intro block member
      rcases List.mem_append.mp member with before | here
      · exact uploaded.sized block before
      · rw [List.mem_singleton.mp here, length]
    · intro other slot found
      change (upload.slots.insert entry.1 _)[other]? = some slot at found
      rw [lookup] at found
      split at found
      · rename_i same
        cases found
        rw [same, isCurrent, number, ← uploaded.count]
        simp
      · have below := uploaded.bijective.below other slot found
        rw [uploaded.held other slot found,
          List.getElem?_append_left (by rw [uploaded.count, ← uploaded.size]; exact below)]
    · change _ * _ + (upload.chunk ++ _).length = (upload.slot + 1) * _
      rw [List.length_append, length, Nat.succ_mul, ← nextLength, Nat.add_assoc]
    · change _ ++ (upload.chunk ++ _) = _
      rw [List.flatten_append, ← List.append_assoc, nextFlattened, List.flatten_singleton]
  simp only at rest
  split at rest
  · obtain ⟨flushed, slot, _⟩ := flush_uploaded together (by
      change (if upload.chunk.isEmpty then upload.slot else upload.chunkStart) * _ +
        (upload.chunk ++ _).length = (upload.slot + 1) * _
      rw [← isNext, List.length_append, length, Nat.succ_mul, ← nextLength, Nat.add_assoc]) (by
      change upload.buffer.take ((if upload.chunk.isEmpty then upload.slot else
        upload.chunkStart) * _) ++ (upload.chunk ++ _) = _
      rw [← isNext, List.flatten_append, ← List.append_assoc, nextFlattened,
        List.flatten_singleton]) rest
    exact ⟨flushed, slot⟩
  · have same := device_pure_ok rest
    subst same
    exact ⟨together, rfl⟩

theorem start_uploaded [Zero H] (stride capacity : Nat) (current : Int64 → Option (List H)) :
    Uploaded stride capacity current [] [] ⟨∅, [], 0, 0, List.replicate (capacity * stride) 0⟩ where
  bijective := bijective_empty
  size := ExtTreeMap.size_empty
  known := by simp
  count := rfl
  sized := by simp [Sized]
  held := by
    intro identity slot found
    simp at found
  room := List.length_replicate
  written := ⟨0, by simp, by simp, by simp⟩

theorem upload_entries_uploaded {toHalf : V → H} {name : String} {layers chunkEntries : Nat}
    {entries : List (Int64 × CpuStateEntry V)}
    (uploaded : Uploaded (layers * flatStateLayerElements) capacity current keys done upload)
    (fresh : (keys ++ entries.map Prod.fst).Nodup)
    (few : upload.slot + entries.length ≤ 2 ^ 32)
    (isCurrent : ∀ entry ∈ entries, current entry.1 = some (halves toHalf (entryState entry.2)))
    (ran : entries.foldlM (uploadEntry toHalf name layers chunkEntries) upload answers =
      .ok (reached, last)) :
    ∃ written, Uploaded (layers * flatStateLayerElements) capacity current
      (keys ++ entries.map Prod.fst) written reached ∧
        reached.slot = upload.slot + entries.length := by
  induction entries generalizing keys done upload answers with
  | nil =>
      have same := device_pure_ok ran
      subst same
      rw [List.map_nil, List.append_nil]
      exact ⟨done, uploaded, rfl⟩
  | cons entry entries ih =>
      rw [List.foldlM_cons] at ran
      obtain ⟨next, _, first, rest⟩ := device_bind_ok ran
      rw [List.length_cons] at few
      rw [List.map_cons] at fresh
      have absent : entry.1 ∉ keys := by
        intro member
        exact (List.nodup_append.mp fresh).2.2 entry.1 member entry.1 (by simp) rfl
      obtain ⟨nextUploaded, slot⟩ := upload_entry_uploaded uploaded absent (by omega)
        (isCurrent entry (by simp)) first
      obtain ⟨written, all, count⟩ := ih nextUploaded
        (by simpa using fresh) (by rw [slot]; omega)
        (fun other member => isCurrent other (List.mem_cons_of_mem _ member)) rest
      refine ⟨written, ?_, by rw [count, slot, List.length_cons]; omega⟩
      simpa using all

theorem flush_rest_uploaded (uploaded : Uploaded stride capacity current keys done upload)
    (ran : flushRest stride upload answers = .ok (reached, last)) :
    Uploaded stride capacity current keys done reached ∧ reached.slot = upload.slot ∧
      reached.chunk = [] := by
  unfold flushRest at ran
  obtain ⟨start, length, isStart, flattened⟩ := uploaded.written
  cases chunkIs : upload.chunk with
  | nil =>
      rw [chunkIs] at ran
      have same := device_pure_ok ran
      subst same
      exact ⟨uploaded, rfl, chunkIs⟩
  | cons value rest =>
      have is := isStart (by rw [chunkIs]; simp)
      rw [is] at length flattened
      rw [chunkIs] at ran
      exact flush_uploaded uploaded length flattened ran

/-- When nothing is left in the chunk, the buffer holds each state at its slot. -/
theorem uploaded_held (uploaded : Uploaded stride capacity current keys done upload)
    (empty : upload.chunk = []) (fits : upload.slot ≤ capacity) {identity : Int64} {slot : UInt32}
    (found : upload.slots[identity]? = some slot) :
    current identity = some (slice upload.buffer (slot.toNat * stride) stride) := by
  obtain ⟨start, length, _, flattened⟩ := uploaded.written
  rw [empty, List.length_nil, Nat.add_zero] at length
  rw [empty, List.append_nil, length] at flattened
  have below := uploaded.bijective.below identity slot found
  rw [uploaded.size, ← uploaded.count] at below
  have block := slice_block uploaded.sized below
  have next := Nat.mul_le_mul_right stride (Nat.succ_le_of_lt below)
  have whole := Nat.mul_le_mul_right stride fits
  rw [Nat.succ_mul, uploaded.count] at next
  rw [uploaded.held identity slot found, List.getElem?_eq_getElem below, ← block, ← flattened]
  congr 1
  rw [slice, slice, List.drop_take, List.take_take, Nat.min_eq_left (by omega)]

end Uploads

/-- What the CPU holds for an identity, in half precision. -/
def currentHalves (toHalf : V → H) (states : ExtTreeMap Int64 (NativeRnnModuleState V))
    (flatStates : ExtTreeMap Int64 (FlatNativeRnnModuleState V)) (identity : Int64) :
    Option (List H) :=
  ((states[identity]?).or ((flatStates[identity]?).map FlatNativeRnnModuleState.materialize)).map
    (halves toHalf)

theorem ascending_list {State : Type} (states : ExtTreeMap Int64 State) :
    Ascending states.toList := ExtTreeMap.ordered_keys_toList

section Merged

variable {states : ExtTreeMap Int64 (NativeRnnModuleState V)}
  {flatStates : ExtTreeMap Int64 (FlatNativeRnnModuleState V)}

theorem merged_keys (apart : (merge states.toList flatStates.toList).2 = none) :
    ((merge states.toList flatStates.toList).1.map Prod.fst).Nodup :=
  ascending_keys_nodup (merge_ascending (ascending_list states) (ascending_list flatStates) apart)

theorem merged_current (apart : (merge states.toList flatStates.toList).2 = none)
    (toHalf : V → H) {entry : Int64 × CpuStateEntry V}
    (member : entry ∈ (merge states.toList flatStates.toList).1) :
    currentHalves toHalf states flatStates entry.1 =
      some (halves toHalf (entryState entry.2)) := by
  obtain ⟨identity, value⟩ := entry
  rw [currentHalves]
  rcases (mem_merge apart).mp member with ⟨state, same, inside⟩ | ⟨flat, same, inside⟩
  · have found := ExtTreeMap.mem_toList_iff_getElem?_eq_some.mp inside
    rw [found, show value = .inl state from same]
    rfl
  · have found := ExtTreeMap.mem_toList_iff_getElem?_eq_some.mp inside
    have absent : states[identity]? = none := by
      cases canonical : states[identity]? with
      | none => rfl
      | some state =>
          have other : (identity, (Sum.inl state : CpuStateEntry V)) ∈
              (merge states.toList flatStates.toList).1 :=
            (mem_merge apart).mpr
              (Or.inl ⟨state, rfl, ExtTreeMap.mem_toList_iff_getElem?_eq_some.mpr canonical⟩)
          have equal := List.inj_on_of_nodup_map (merged_keys apart) member other rfl
          rw [show value = .inr flat from same] at equal
          cases equal
    rw [absent, found, show value = .inr flat from same]
    rfl

theorem merged_complete (apart : (merge states.toList flatStates.toList).2 = none)
    {toHalf : V → H} {identity : Int64}
    (present : currentHalves toHalf states flatStates identity ≠ none) :
    identity ∈ (merge states.toList flatStates.toList).1.map Prod.fst := by
  rw [currentHalves] at present
  cases canonical : states[identity]? with
  | some state =>
      have inside := ExtTreeMap.mem_toList_iff_getElem?_eq_some.mpr canonical
      exact List.mem_map.mpr ⟨(identity, .inl state),
        (mem_merge apart).mpr (Or.inl ⟨state, rfl, inside⟩), rfl⟩
  | none =>
      cases flat : flatStates[identity]? with
      | some state =>
          have inside := ExtTreeMap.mem_toList_iff_getElem?_eq_some.mpr flat
          exact List.mem_map.mpr ⟨(identity, .inr state),
            (mem_merge apart).mpr (Or.inr ⟨state, rfl, inside⟩), rfl⟩
      | none =>
          rw [canonical, flat] at present
          exact absurd rfl present

end Merged

theorem new_holds [Zero H] {toHalf : V → H} {maxBufferBytes layers : Nat} {name : String}
    {states : ExtTreeMap Int64 (NativeRnnModuleState V)}
    {flatStates : ExtTreeMap Int64 (FlatNativeRnnModuleState V)} {arena : StateArena H}
    {answers last : List (Option String)}
    (few : maxBufferBytes / (layers * flatStateLayerElements * 2) < 2 ^ 32 - 1)
    (ran : StateArena.new toHalf maxBufferBytes name layers states flatStates answers =
      .ok (arena, last)) :
    ArenaHolds (currentHalves toHalf states flatStates) arena := by
  obtain ⟨_, _, counted, rest⟩ := device_bind_ok ran
  have room : states.size + flatStates.size ≤
      maxBufferBytes / (layers * flatStateLayerElements * 2) := by
    have found := device_check_ok counted
    split at found
    · assumption
    · cases found
  obtain ⟨_, _, _, rest⟩ := device_bind_ok rest
  obtain ⟨upload, _, folded, rest⟩ := device_bind_ok rest
  obtain ⟨_, _, separate, rest⟩ := device_bind_ok rest
  have apart : (merge states.toList flatStates.toList).2 = none := by
    have found := device_check_ok separate
    split at found
    · assumption
    · cases found
  obtain ⟨finished, _, flushed, rest⟩ := device_bind_ok rest
  have same := device_pure_ok rest
  subst same
  have length := merge_length apart
  rw [ExtTreeMap.length_toList, ExtTreeMap.length_toList] at length
  have capacity : states.size + flatStates.size ≤
      max 1 (min (states.size + flatStates.size + max ((states.size + flatStates.size) / 64) 8)
        (max (maxBufferBytes / (layers * flatStateLayerElements * 2)) 1)) := by omega
  obtain ⟨written, uploaded, slot⟩ := upload_entries_uploaded
    (start_uploaded (layers * flatStateLayerElements) _ (currentHalves toHalf states flatStates))
    (by simpa using merged_keys apart)
    (by
      rw [length]
      change 0 + _ ≤ _
      omega)
    (fun entry member => merged_current apart toHalf member) folded
  obtain ⟨uploadedRest, slotRest, empty⟩ := flush_rest_uploaded uploaded flushed
  have size : finished.slot = states.size + flatStates.size := by
    rw [slotRest, slot, length, Nat.zero_add]
  refine ⟨uploadedRest.bijective, ?_, ?_, few, uploadedRest.room, ?_, ?_⟩
  · change finished.slots.size ≤ _
    rw [uploadedRest.size, size]
    exact capacity
  · change max 1 (min _ _) ≤ max 1 (maxBufferBytes / (layers * flatStateLayerElements * 2))
    omega
  · intro identity found held
    exact uploaded_held uploadedRest empty (by rw [size]; exact capacity) held
  · intro identity absent
    by_contra present
    have member := merged_complete apart present
    exact (uploadedRest.known identity).mpr (by simpa using member) absent

end RwkvSrs.PredictorSlots
