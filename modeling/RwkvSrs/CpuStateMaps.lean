import Mathlib.Data.List.Sort
import RwkvSrs.KeyedMerge
import RwkvSrs.NativeRnnState

/-!
The canonical and the flat states of a runtime as one map. The checkpoint writer
walks both maps in key order; materialization moves the flat entries into the
canonical map one by one, in the order of their storage, and may stop at a state
that cannot be converted. What an identity maps to is the same before and after.
-/

namespace RwkvSrs.CpuStateMaps

open Std RwkvSrs.FallibleMethod RwkvSrs.KeyedMerge RwkvSrs.ModuleState RwkvSrs.NativeRnnState

set_option autoImplicit false

variable {Canonical Flat World : Type}

abbrev CpuStateEntry (Canonical Flat : Type) := Canonical ⊕ Flat

def sharedIdentity (identity : Int64) : Failure :=
  .error s!"recurrent-state identity {identity} exists in flat and canonical CPU state"

def walkCpuStates (visit : Int64 → CpuStateEntry Canonical Flat → Method World Unit) :
    List (Int64 × Canonical) → List (Int64 × Flat) → Method World Unit
  | (canonicalId, canonicalState) :: canonical, (flatId, flatState) :: flat =>
      match compare canonicalId flatId with
      | .lt => do
          visit canonicalId (.inl canonicalState)
          walkCpuStates visit canonical ((flatId, flatState) :: flat)
      | .gt => do
          visit flatId (.inr flatState)
          walkCpuStates visit ((canonicalId, canonicalState) :: canonical) flat
      | .eq => fail (sharedIdentity canonicalId)
  | (canonicalId, canonicalState) :: canonical, [] => do
      visit canonicalId (.inl canonicalState)
      walkCpuStates visit canonical []
  | [], (flatId, flatState) :: flat => do
      visit flatId (.inr flatState)
      walkCpuStates visit [] flat
  | [], [] => pure ()
termination_by canonical flat => canonical.length + flat.length

def forEachCpuState (canonical : ExtTreeMap Int64 Canonical) (flat : ExtTreeMap Int64 Flat)
    (visit : Int64 → CpuStateEntry Canonical Flat → Method World Unit) : Method World Unit :=
  walkCpuStates visit canonical.toList flat.toList

structure StateMaps (Canonical Flat : Type) where
  canonical : ExtTreeMap Int64 Canonical
  flat : ExtTreeMap Int64 Flat

structure CpuStates (Canonical Flat : Type) where
  maps : EntityModule → StateMaps Canonical Flat
  globalState : Option Canonical
  flatGlobalState : Option Flat

/-- The order of `(storage_id, identity)`. -/
def StorageOrder (first second : Nat × Int64) : Prop :=
  first.1 < second.1 ∨ first.1 = second.1 ∧ first.2 ≤ second.2

instance : DecidableRel StorageOrder := fun first second =>
  inferInstanceAs (Decidable (first.1 < second.1 ∨ first.1 = second.1 ∧ first.2 ≤ second.2))

section Materialize

/-! `storageId` is the address of the shared buffer of a flat state, and `convert` makes its
tensors. -/

variable (storageId : Flat → Nat) (convert : Flat → Except String Canonical)

def moveState (identity : Int64) : Method (StateMaps Canonical Flat) Unit := fun maps =>
  match maps.flat[identity]? with
  | none => (.error (.panic "selected flat state exists"), maps)
  | some state =>
      let taken := maps.flat.erase identity
      match convert state with
      | .ok converted => (.ok (), ⟨maps.canonical.insert identity converted, taken⟩)
      | .error message => (.error (.error message), ⟨maps.canonical, taken.insert identity state⟩)

def storedIdentities (flat : ExtTreeMap Int64 Flat) : List Int64 :=
  ((flat.toList.map fun entry => (storageId entry.2, entry.1)).insertionSort StorageOrder).map
    Prod.snd

def materializeMap (name : String) : Method (StateMaps Canonical Flat) Unit := fun maps =>
  match maps.flat.keys.find? (· ∈ maps.canonical) with
  | some identity =>
      (.error (.error (s!"{name} identity {identity} exists in flat and canonical CPU state")), maps)
  | none => (storedIdentities storageId maps.flat).forM (moveState convert) maps

def onMaps {Value : Type} (entity : EntityModule)
    (step : Method (StateMaps Canonical Flat) Value) : Method (CpuStates Canonical Flat) Value :=
  onPart (fun states => states.maps entity)
    (fun maps states => { states with
      maps := fun other => if other = entity then maps else states.maps other }) step

def materializeGlobal : Method (CpuStates Canonical Flat) Unit := fun states =>
  match states.flatGlobalState, states.globalState with
  | none, _ => (.ok (), states)
  | some _, some _ =>
      (.error (.error "global state exists in flat and canonical CPU state"), states)
  | some flat, none =>
      match convert flat with
      | .ok converted =>
          (.ok (), { states with globalState := some converted, flatGlobalState := none })
      | .error message => (.error (.error message), states)

def materializeFlatCpuState : Method (CpuStates Canonical Flat) Unit := do
  onMaps .card (materializeMap storageId convert "card_states")
  onMaps .note (materializeMap storageId convert "note_states")
  onMaps .deck (materializeMap storageId convert "deck_states")
  onMaps .preset (materializeMap storageId convert "preset_states")
  materializeGlobal convert

end Materialize

def stopAt : Option Int64 → Method World Unit
  | none => pure ()
  | some identity => fail (sharedIdentity identity)

theorem walk_merge (visit : Int64 → CpuStateEntry Canonical Flat → Method World Unit)
    (canonical : List (Int64 × Canonical)) (flat : List (Int64 × Flat)) :
    walkCpuStates visit canonical flat = (do
      (merge canonical flat).1.forM fun entry => visit entry.1 entry.2
      stopAt (merge canonical flat).2) := by
  fun_induction walkCpuStates visit canonical flat with
  | case1 canonicalId canonicalState canonical flatId flatState flat less ih =>
      rw [merge, less]
      simp [ih]
  | case2 canonicalId canonicalState canonical flatId flatState flat greater ih =>
      rw [merge, greater]
      simp [ih]
  | case3 canonicalId canonicalState canonical flatId flatState flat equal =>
      rw [merge, equal]
      simp [stopAt]
  | case4 canonicalId canonicalState canonical ih =>
      rw [ih]
      cases canonical with
      | nil => simp [merge, stopAt]
      | cons entry canonical => simp [merge, stopAt]
  | case5 flatId flatState flat ih =>
      rw [ih]
      simp [merge, stopAt]
  | case6 => simp [merge, stopAt]

/-- Every entry of both maps, once, in ascending order of the identities. -/
structure Traversal (canonical : ExtTreeMap Int64 Canonical) (flat : ExtTreeMap Int64 Flat)
    (visited : List (Int64 × CpuStateEntry Canonical Flat)) : Prop where
  ascending : Ascending visited
  entries : ∀ identity state, (identity, state) ∈ visited ↔
    (∃ found, state = .inl found ∧ canonical[identity]? = some found) ∨
      ∃ found, state = .inr found ∧ flat[identity]? = some found
  count : visited.length = canonical.size + flat.size

theorem mem_entries {State : Type} {states : ExtTreeMap Int64 State} {identity : Int64} :
    (∃ entry ∈ states.toList, entry.1 = identity) ↔ identity ∈ states := by
  rw [ExtTreeMap.mem_iff_isSome_getElem?, Option.isSome_iff_exists]
  constructor
  · rintro ⟨⟨key, state⟩, member, rfl⟩
    exact ⟨state, ExtTreeMap.mem_toList_iff_getElem?_eq_some.mp member⟩
  · rintro ⟨state, found⟩
    exact ⟨_, ExtTreeMap.mem_toList_iff_getElem?_eq_some.mpr found, rfl⟩

theorem merged_traversal {canonical : ExtTreeMap Int64 Canonical} {flat : ExtTreeMap Int64 Flat}
    (apart : (merge canonical.toList flat.toList).2 = none) :
    Traversal canonical flat (merge canonical.toList flat.toList).1 where
  ascending := merge_ascending ExtTreeMap.ordered_keys_toList ExtTreeMap.ordered_keys_toList apart
  entries := by
    intro identity state
    rw [mem_merge apart]
    simp only [ExtTreeMap.mem_toList_iff_getElem?_eq_some]
  count := by
    rw [merge_length apart, ExtTreeMap.length_toList, ExtTreeMap.length_toList]

theorem merged_ends {canonical : ExtTreeMap Int64 Canonical} {flat : ExtTreeMap Int64 Flat} :
    (merge canonical.toList flat.toList).2 = none ↔
      ∀ identity, ¬ (identity ∈ canonical ∧ identity ∈ flat) := by
  rw [merge_ends ExtTreeMap.ordered_keys_toList ExtTreeMap.ordered_keys_toList]
  constructor
  · rintro apart identity ⟨inCanonical, inFlat⟩
    obtain ⟨first, firstMember, firstKey⟩ := mem_entries.mpr inCanonical
    obtain ⟨second, secondMember, secondKey⟩ := mem_entries.mpr inFlat
    exact apart first firstMember second secondMember (firstKey.trans secondKey.symm)
  · intro apart first firstMember second secondMember same
    exact apart first.1 ⟨mem_entries.mp ⟨first, firstMember, rfl⟩,
      mem_entries.mp ⟨second, secondMember, same.symm⟩⟩

section Conservation

variable (storageId : Flat → Nat) (convert : Flat → Except String Canonical)

/-- The state of an identity in canonical form, or why it has none. -/
def StateMaps.entry (maps : StateMaps Canonical Flat) (identity : Int64) :
    Option (Except String Canonical) :=
  match maps.canonical[identity]? with
  | some state => some (.ok state)
  | none => maps.flat[identity]?.map convert

def StateMaps.Apart (maps : StateMaps Canonical Flat) : Prop :=
  ∀ identity : Int64, ¬ (identity ∈ maps.canonical ∧ identity ∈ maps.flat)

/-- No identity is lost, changed or held twice where it was not before. -/
structure Conserved (before after : StateMaps Canonical Flat) : Prop where
  entries : ∀ identity, after.entry convert identity = before.entry convert identity
  held : ∀ identity : Int64, identity ∈ after.canonical ∨ identity ∈ after.flat ↔
    identity ∈ before.canonical ∨ identity ∈ before.flat
  flats : ∀ (identity : Int64) state, after.flat[identity]? = some state →
    before.flat[identity]? = some state
  canonicals : ∀ (identity : Int64) state, before.canonical[identity]? = some state →
    after.canonical[identity]? = some state
  shared : ∀ identity : Int64, identity ∈ after.canonical ∧ identity ∈ after.flat →
    identity ∈ before.canonical ∧ identity ∈ before.flat

theorem conserved_same (maps : StateMaps Canonical Flat) : Conserved convert maps maps :=
  ⟨fun _ => rfl, fun _ => Iff.rfl, fun _ _ => id, fun _ _ => id, fun _ => id⟩

variable {convert}

theorem Conserved.trans {first middle last : StateMaps Canonical Flat}
    (before : Conserved convert first middle) (after : Conserved convert middle last) :
    Conserved convert first last where
  entries identity := (after.entries identity).trans (before.entries identity)
  held identity := (after.held identity).trans (before.held identity)
  flats identity state found := before.flats identity state (after.flats identity state found)
  canonicals identity state found :=
    after.canonicals identity state (before.canonicals identity state found)
  shared identity both := before.shared identity (after.shared identity both)

/-- Every flat state can be converted. -/
def Convertible (convert : Flat → Except String Canonical) (maps : StateMaps Canonical Flat)
    (identities : List Int64) : Prop :=
  ∀ identity ∈ identities, ∀ state, maps.flat[identity]? = some state →
    ∃ converted, convert state = .ok converted

theorem move_refused {maps : StateMaps Canonical Flat} {identity : Int64} {state : Flat}
    {message : String} (found : maps.flat[identity]? = some state)
    (refused : convert state = .error message) :
    moveState convert identity maps = (.error (.error message), maps) := by
  have restored : (maps.flat.erase identity).insert identity state = maps.flat := by
    apply ExtTreeMap.ext_getElem?
    intro key
    rw [ExtTreeMap.getElem?_insert, ExtTreeMap.getElem?_erase]
    split
    · rename_i same
      rw [← LawfulEqCmp.compare_eq_iff_eq.mp same]
      exact found.symm
    · rfl
  unfold moveState
  rw [found]
  simp only [refused, restored]

theorem move_converted {maps : StateMaps Canonical Flat} {identity : Int64} {state : Flat}
    {converted : Canonical} (found : maps.flat[identity]? = some state)
    (made : convert state = .ok converted) :
    moveState convert identity maps =
      (.ok (), ⟨maps.canonical.insert identity converted, maps.flat.erase identity⟩) := by
  unfold moveState
  rw [found]
  simp only [made]

theorem moved_conserved {maps : StateMaps Canonical Flat} {identity : Int64} {state : Flat}
    {converted : Canonical} (apart : maps.Apart) (found : maps.flat[identity]? = some state)
    (made : convert state = .ok converted) :
    Conserved convert maps
      ⟨maps.canonical.insert identity converted, maps.flat.erase identity⟩ := by
  have inFlat : identity ∈ maps.flat := by
    rw [ExtTreeMap.mem_iff_isSome_getElem?, found]
    rfl
  have absent : identity ∉ maps.canonical := fun inside => apart identity ⟨inside, inFlat⟩
  have none : maps.canonical[identity]? = none := ExtTreeMap.getElem?_eq_none absent
  constructor
  · intro key
    simp only [StateMaps.entry, ExtTreeMap.getElem?_insert, ExtTreeMap.getElem?_erase]
    by_cases same : compare identity key = .eq
    · have here := LawfulEqCmp.compare_eq_iff_eq.mp same
      subst here
      simp [none, found, made]
    · simp [same]
  · intro key
    simp only [ExtTreeMap.mem_insert, ExtTreeMap.mem_erase]
    by_cases same : compare identity key = .eq
    · have here := LawfulEqCmp.compare_eq_iff_eq.mp same
      subst here
      simp [inFlat]
    · simp [same]
  · intro key other there
    simp only [ExtTreeMap.getElem?_erase] at there
    split at there
    · cases there
    · exact there
  · intro key other there
    simp only [ExtTreeMap.getElem?_insert]
    split
    · rename_i same
      rw [← LawfulEqCmp.compare_eq_iff_eq.mp same, none] at there
      cases there
    · exact there
  · rintro key ⟨inside, there⟩
    simp only [ExtTreeMap.mem_insert, ExtTreeMap.mem_erase] at inside there
    exact ⟨inside.resolve_left (by simpa using there.1), there.2⟩

theorem Conserved.apart {before after : StateMaps Canonical Flat}
    (conserved : Conserved convert before after) (apart : before.Apart) : after.Apart :=
  fun identity both => apart identity (conserved.shared identity both)

/-- What moving some identities does, whether or not it reaches the end. -/
structure Moved (convert : Flat → Except String Canonical) (identities : List Int64)
    (before : StateMaps Canonical Flat) (result : Except Failure Unit)
    (after : StateMaps Canonical Flat) : Prop where
  conserved : Conserved convert before after
  finishes : result = .ok () ↔ Convertible convert before identities
  taken : result = .ok () → ∀ identity : Int64, after.flat[identity]? =
    if identity ∈ identities then none else before.flat[identity]?
  returns : ∀ message, result ≠ .error (.panic message)

theorem moves {identities : List Int64} {maps : StateMaps Canonical Flat} (apart : maps.Apart)
    (distinct : identities.Nodup) (inside : ∀ identity ∈ identities, identity ∈ maps.flat) :
    Moved convert identities maps (identities.forM (moveState convert) maps).1
      (identities.forM (moveState convert) maps).2 := by
  induction identities generalizing maps with
  | nil =>
      refine ⟨conserved_same convert maps, ?_, ?_, ?_⟩
      · simp [Convertible]
      · simp
      · simp
  | cons identity identities ih =>
      obtain ⟨state, found⟩ := Option.isSome_iff_exists.mp
        (ExtTreeMap.mem_iff_isSome_getElem?.mp (inside identity (by simp)))
      obtain ⟨notLater, distinctLater⟩ := List.nodup_cons.mp distinct
      rw [List.forM, bind_apply]
      cases made : convert state with
      | error message =>
          rw [move_refused found made]
          refine ⟨conserved_same convert maps, ?_, ?_, ?_⟩
          · constructor
            · intro impossible
              cases impossible
            · intro convertible
              obtain ⟨_, made'⟩ := convertible identity (by simp) state found
              rw [made] at made'
              cases made'
          · intro impossible
            cases impossible
          · intro text impossible
            cases impossible
      | ok converted =>
          rw [move_converted found made]
          have step := moved_conserved apart found made
          have keyed : ∀ other ∈ identities,
              (maps.flat.erase identity)[other]? = maps.flat[other]? := by
            intro other member
            rw [ExtTreeMap.getElem?_erase, if_neg]
            intro same
            have here := LawfulEqCmp.compare_eq_iff_eq.mp same
            subst here
            exact notLater member
          have later := ih (step.apart apart) distinctLater (by
            intro other member
            rw [ExtTreeMap.mem_iff_isSome_getElem?, keyed other member,
              ← ExtTreeMap.mem_iff_isSome_getElem?]
            exact inside other (List.mem_cons_of_mem _ member))
          refine ⟨step.trans later.conserved, ?_, ?_, later.returns⟩
          · rw [later.finishes]
            constructor
            · intro convertible other member
              rcases List.mem_cons.mp member with here | there
              · subst here
                intro other same
                rw [found] at same
                cases same
                exact ⟨converted, made⟩
              · intro other same
                exact convertible _ there other ((keyed _ there).trans same)
            · intro convertible other member state same
              exact convertible other (List.mem_cons_of_mem _ member) state
                ((keyed other member).symm.trans same)
          · intro finished other
            rw [later.taken finished other, ExtTreeMap.getElem?_erase]
            by_cases there : other ∈ identities
            · simp [there]
            · by_cases here : identity = other
              · simp [here]
              · simp [there, here, Ne.symm here]

theorem stored_identities (storageId : Flat → Nat) (flat : ExtTreeMap Int64 Flat) :
    (storedIdentities storageId flat).Perm flat.keys := by
  have sorted := (List.perm_insertionSort StorageOrder
    (flat.toList.map fun entry => (storageId entry.2, entry.1))).map Prod.snd
  rw [List.map_map] at sorted
  have keys : flat.toList.map (Prod.snd ∘ fun entry => (storageId entry.2, entry.1)) =
      flat.keys := ExtTreeMap.map_fst_toList_eq_keys
  rw [keys] at sorted
  exact sorted

/-- A map can be materialized when both maps are apart and every flat state converts. -/
def Ready (convert : Flat → Except String Canonical) (maps : StateMaps Canonical Flat) : Prop :=
  maps.Apart ∧ ∀ (identity : Int64) state, maps.flat[identity]? = some state →
    ∃ converted, convert state = .ok converted

theorem none_shared {maps : StateMaps Canonical Flat} :
    maps.flat.keys.find? (· ∈ maps.canonical) = none ↔ maps.Apart := by
  rw [List.find?_eq_none]
  constructor
  · rintro none identity ⟨inCanonical, inFlat⟩
    have absent := none identity (ExtTreeMap.mem_keys.mpr inFlat)
    simp [inCanonical] at absent
  · intro apart identity inKeys
    have absent := apart identity
    simp only [ExtTreeMap.mem_keys.mp inKeys, and_true] at absent
    simpa using absent

structure MapRun (convert : Flat → Except String Canonical) (before : StateMaps Canonical Flat)
    (result : Except Failure Unit) (after : StateMaps Canonical Flat) : Prop where
  conserved : Conserved convert before after
  finishes : result = .ok () ↔ Ready convert before
  emptied : result = .ok () → after.flat = ∅
  returns : ∀ message, result ≠ .error (.panic message)

theorem map_run (storageId : Flat → Nat) (name : String) (maps : StateMaps Canonical Flat) :
    MapRun convert maps (materializeMap storageId convert name maps).1
      (materializeMap storageId convert name maps).2 := by
  unfold materializeMap
  split
  · rename_i identity found
    refine ⟨conserved_same convert maps, ?_, ?_, ?_⟩
    · constructor
      · intro impossible
        cases impossible
      · rintro ⟨apart, _⟩
        have inFlat := ExtTreeMap.mem_keys.mp (List.mem_of_find?_eq_some found)
        have inCanonical : identity ∈ maps.canonical := by simpa using List.find?_some found
        exact absurd ⟨inCanonical, inFlat⟩ (apart identity)
    · intro impossible
      cases impossible
    · intro message impossible
      cases impossible
  · rename_i none
    have apart : maps.Apart := none_shared.mp none
    have stored := stored_identities storageId maps.flat
    have member : ∀ identity, identity ∈ storedIdentities storageId maps.flat ↔
        identity ∈ maps.flat := fun identity => stored.mem_iff.trans ExtTreeMap.mem_keys
    have moved : Moved convert _ maps _ _ :=
      moves apart (stored.nodup_iff.mpr ExtTreeMap.nodup_keys)
        fun identity inside => (member identity).mp inside
    refine ⟨moved.conserved, ?_, ?_, moved.returns⟩
    · rw [moved.finishes]
      constructor
      · intro convertible
        refine ⟨apart, ?_⟩
        intro identity state found
        refine convertible identity ((member identity).mpr ?_) state found
        rw [ExtTreeMap.mem_iff_isSome_getElem?, found]
        rfl
      · rintro ⟨_, convertible⟩ identity _ state found
        exact convertible identity state found
    · intro finished
      apply ExtTreeMap.ext_getElem?
      intro identity
      rw [moved.taken finished identity, ExtTreeMap.getElem?_empty]
      split
      · rfl
      · rename_i absent
        exact ExtTreeMap.getElem?_eq_none (mt (member identity).mpr absent)

def CpuStates.globalEntry (convert : Flat → Except String Canonical)
    (states : CpuStates Canonical Flat) : Option (Except String Canonical) :=
  match states.globalState with
  | some state => some (.ok state)
  | none => states.flatGlobalState.map convert

structure GlobalConserved (convert : Flat → Except String Canonical)
    (before after : CpuStates Canonical Flat) : Prop where
  entry : after.globalEntry convert = before.globalEntry convert
  held : after.globalState.isSome ∨ after.flatGlobalState.isSome ↔
    before.globalState.isSome ∨ before.flatGlobalState.isSome
  shared : after.globalState.isSome ∧ after.flatGlobalState.isSome →
    before.globalState.isSome ∧ before.flatGlobalState.isSome

def GlobalReady (convert : Flat → Except String Canonical) (states : CpuStates Canonical Flat) :
    Prop :=
  ∀ state, states.flatGlobalState = some state →
    states.globalState = none ∧ ∃ converted, convert state = .ok converted

/-- What materialization does to all maps, whether or not it succeeds. -/
structure Materializes (convert : Flat → Except String Canonical)
    (before : CpuStates Canonical Flat) (result : Except Failure Unit)
    (after : CpuStates Canonical Flat) : Prop where
  conserved : ∀ entity, Conserved convert (before.maps entity) (after.maps entity)
  globalConserved : GlobalConserved convert before after
  finishes : result = .ok () ↔
    (∀ entity, Ready convert (before.maps entity)) ∧ GlobalReady convert before
  emptied : result = .ok () →
    (∀ entity, (after.maps entity).flat = ∅) ∧ after.flatGlobalState = none
  returns : ∀ message, result ≠ .error (.panic message)

theorem global_same (states : CpuStates Canonical Flat) : GlobalConserved convert states states :=
  ⟨rfl, Iff.rfl, id⟩

theorem global_run (convert : Flat → Except String Canonical)
    (states : CpuStates Canonical Flat) :
    (materializeGlobal convert states).2.maps = states.maps ∧
      GlobalConserved convert states (materializeGlobal convert states).2 ∧
      ((materializeGlobal convert states).1 = .ok () ↔ GlobalReady convert states) ∧
      ((materializeGlobal convert states).1 = .ok () →
        (materializeGlobal convert states).2.flatGlobalState = none) ∧
      ∀ message, (materializeGlobal convert states).1 ≠ .error (.panic message) := by
  unfold materializeGlobal
  split
  · rename_i none
    refine ⟨rfl, global_same states, ?_, fun _ => none, ?_⟩
    · simp [GlobalReady, none]
    · intro message impossible
      cases impossible
  · rename_i flat canonical flatFound found
    refine ⟨rfl, global_same states, ?_, ?_, ?_⟩
    · simp [GlobalReady, flatFound, found]
    · intro impossible
      cases impossible
    · intro message impossible
      cases impossible
  · rename_i flat flatFound found
    cases made : convert flat with
    | ok converted =>
        refine ⟨rfl, ⟨?_, ?_, ?_⟩, ?_, fun _ => rfl, ?_⟩
        · simp [CpuStates.globalEntry, flatFound, found, made]
        · simp [flatFound]
        · simp
        · simp [GlobalReady, flatFound, found, made]
        · intro message impossible
          cases impossible
    | error text =>
        refine ⟨rfl, global_same states, ?_, ?_, ?_⟩
        · simp [GlobalReady, flatFound, found, made]
        · intro impossible
          cases impossible
        · intro message impossible
          cases impossible

/-- What materializing some modules does. -/
structure ModulesRun (convert : Flat → Except String Canonical)
    (modules : List (EntityModule × String)) (before : CpuStates Canonical Flat)
    (result : Except Failure Unit) (after : CpuStates Canonical Flat) : Prop where
  conserved : ∀ entity, Conserved convert (before.maps entity) (after.maps entity)
  elsewhere : ∀ entity, (∀ named ∈ modules, named.1 ≠ entity) →
    after.maps entity = before.maps entity
  globalState : after.globalState = before.globalState
  flatGlobalState : after.flatGlobalState = before.flatGlobalState
  finishes : result = .ok () ↔ ∀ named ∈ modules, Ready convert (before.maps named.1)
  emptied : result = .ok () → ∀ named ∈ modules, (after.maps named.1).flat = ∅
  returns : ∀ message, result ≠ .error (.panic message)

def withMaps (entity : EntityModule) (maps : StateMaps Canonical Flat)
    (states : CpuStates Canonical Flat) : CpuStates Canonical Flat :=
  { states with maps := fun other => if other = entity then maps else states.maps other }

theorem on_maps_apply (storageId : Flat → Nat) (entity : EntityModule) (name : String)
    (states : CpuStates Canonical Flat) :
    onMaps entity (materializeMap storageId convert name) states =
      ((materializeMap storageId convert name (states.maps entity)).1,
        withMaps entity (materializeMap storageId convert name (states.maps entity)).2 states) :=
  rfl

theorem with_maps_conserved {entity : EntityModule} {maps : StateMaps Canonical Flat}
    {states : CpuStates Canonical Flat} (conserved : Conserved convert (states.maps entity) maps)
    (other : EntityModule) :
    Conserved convert (states.maps other) ((withMaps entity maps states).maps other) := by
  change Conserved convert (states.maps other) (if other = entity then maps else states.maps other)
  split
  · rename_i same
    rw [same]
    exact conserved
  · exact conserved_same convert _

theorem modules_run (storageId : Flat → Nat) {modules : List (EntityModule × String)}
    (distinct : (modules.map Prod.fst).Nodup) (states : CpuStates Canonical Flat) :
    ModulesRun convert modules states
      (modules.forM (fun named => onMaps named.1 (materializeMap storageId convert named.2))
        states).1
      (modules.forM (fun named => onMaps named.1 (materializeMap storageId convert named.2))
        states).2 := by
  induction modules generalizing states with
  | nil =>
      refine ⟨fun _ => conserved_same convert _, fun _ _ => rfl, rfl, rfl, ?_, ?_, ?_⟩
      · simp
      · simp
      · simp
  | cons named modules ih =>
      obtain ⟨notLater, distinctLater⟩ := List.nodup_cons.mp distinct
      have apart : ∀ later ∈ modules, later.1 ≠ named.1 := by
        intro later member same
        exact notLater (List.mem_map.mpr ⟨later, member, same⟩)
      have first : MapRun convert (states.maps named.1) _ _ :=
        map_run storageId named.2 (states.maps named.1)
      have firstConserved := with_maps_conserved first.conserved
      have later := ih distinctLater (withMaps named.1
        (materializeMap storageId convert named.2 (states.maps named.1)).2 states)
      rw [List.forM, bind_apply, on_maps_apply]
      cases ran : (materializeMap storageId convert named.2 (states.maps named.1)).1 with
      | error failure =>
          rw [ran] at first
          refine ⟨firstConserved, ?_, rfl, rfl, ?_, ?_, ?_⟩
          · intro entity away
            exact if_neg (Ne.symm (away named (by simp)))
          · constructor
            · intro impossible
              cases impossible
            · intro ready
              have finished := first.finishes.mpr (ready named (by simp))
              cases finished
          · intro impossible
            cases impossible
          · intro message same
            cases same
            exact first.returns message rfl
      | ok value =>
          rw [ran] at first
          have kept : ∀ other ∈ modules, (withMaps named.1
              (materializeMap storageId convert named.2 (states.maps named.1)).2 states).maps
                other.1 = states.maps other.1 := fun other member => if_neg (apart other member)
          refine ⟨fun entity => (firstConserved entity).trans (later.conserved entity), ?_,
            later.globalState, later.flatGlobalState, ?_, ?_, later.returns⟩
          · intro entity away
            rw [later.elsewhere entity fun other member =>
              away other (List.mem_cons_of_mem _ member)]
            exact if_neg (Ne.symm (away named (by simp)))
          · rw [later.finishes]
            constructor
            · intro ready other member
              rcases List.mem_cons.mp member with here | there
              · rw [here]
                exact first.finishes.mp rfl
              · rw [← kept other there]
                exact ready other there
            · intro ready other member
              rw [kept other member]
              exact ready other (List.mem_cons_of_mem _ member)
          · intro finished other member
            rcases List.mem_cons.mp member with here | there
            · rw [here, later.elsewhere named.1 apart]
              change (if named.1 = named.1 then _ else _ : StateMaps Canonical Flat).flat = ∅
              rw [if_pos rfl]
              exact first.emptied rfl
            · exact later.emptied finished other there

/-- The maps in the order they are materialized. -/
def moduleNames : List (EntityModule × String) :=
  [(.card, "card_states"), (.note, "note_states"), (.deck, "deck_states"),
    (.preset, "preset_states")]

theorem materialize_modules (storageId : Flat → Nat) (convert : Flat → Except String Canonical) :
    materializeFlatCpuState storageId convert = (do
      moduleNames.forM fun named => onMaps named.1 (materializeMap storageId convert named.2)
      materializeGlobal convert) := by
  simp [materializeFlatCpuState, moduleNames]

theorem materialize_run (storageId : Flat → Nat) (states : CpuStates Canonical Flat) :
    Materializes convert states (materializeFlatCpuState storageId convert states).1
      (materializeFlatCpuState storageId convert states).2 := by
  have every : ∀ entity : EntityModule, ∃ named ∈ moduleNames, named.1 = entity := by
    intro entity
    cases entity <;> simp [moduleNames]
  have modules : ModulesRun convert moduleNames states _ _ :=
    modules_run storageId (by decide) states
  rw [materialize_modules, bind_apply]
  generalize ran : moduleNames.forM (fun named =>
    onMaps named.1 (materializeMap storageId convert named.2)) states = reached at modules ⊢
  obtain ⟨result, after⟩ := reached
  have globals : after.globalEntry convert = states.globalEntry convert ∧
      (GlobalReady convert after ↔ GlobalReady convert states) := by
    rw [CpuStates.globalEntry, CpuStates.globalEntry, GlobalReady, GlobalReady,
      modules.globalState, modules.flatGlobalState]
    exact ⟨rfl, Iff.rfl⟩
  have globalKept : GlobalConserved convert states after := by
    refine ⟨globals.1, ?_, ?_⟩
    · rw [modules.globalState, modules.flatGlobalState]
    · rw [modules.globalState, modules.flatGlobalState]
      exact id
  cases result with
  | error failure =>
      refine ⟨modules.conserved, globalKept, ?_, ?_, ?_⟩
      · constructor
        · intro impossible
          cases impossible
        · rintro ⟨ready, _⟩
          have finished := modules.finishes.mpr fun named _ => ready named.1
          cases finished
      · intro impossible
        cases impossible
      · intro message same
        exact modules.returns message (by cases same; rfl)
  | ok value =>
      obtain ⟨maps, conserved, finishes, emptied, returns⟩ := global_run convert after
      refine ⟨?_, ?_, ?_, ?_, returns⟩
      · intro entity
        change Conserved convert _ ((materializeGlobal convert after).2.maps entity)
        rw [maps]
        exact modules.conserved entity
      · exact ⟨conserved.entry.trans globalKept.entry, conserved.held.trans globalKept.held,
          fun both => globalKept.shared (conserved.shared both)⟩
      · change (materializeGlobal convert after).1 = .ok () ↔ _
        rw [finishes, globals.2]
        constructor
        · intro ready
          refine ⟨?_, ready⟩
          intro entity
          obtain ⟨named, member, rfl⟩ := every entity
          exact modules.finishes.mp rfl named member
        · exact fun ready => ready.2
      · intro finished
        refine ⟨?_, emptied finished⟩
        intro entity
        obtain ⟨named, member, rfl⟩ := every entity
        change ((materializeGlobal convert after).2.maps named.1).flat = ∅
        rw [maps]
        exact modules.emptied rfl named member

end Conservation

/-- Both maps are one map: it is walked in order, and materializing moves nothing out of place. -/
theorem cpu_state_maps_merge (storageId : Flat → Nat) (convert : Flat → Except String Canonical)
    (states : CpuStates Canonical Flat) :
    (∀ entity, ∃ visited shared,
      (∀ (World : Type) (visit : Int64 → CpuStateEntry Canonical Flat → Method World Unit),
        forEachCpuState (states.maps entity).canonical (states.maps entity).flat visit = (do
          visited.forM fun entry => visit entry.1 entry.2
          stopAt shared)) ∧
      (shared = none ↔ (states.maps entity).Apart) ∧
      (shared = none →
        Traversal (states.maps entity).canonical (states.maps entity).flat visited) ∧
      ∀ identity, shared = some identity →
        identity ∈ (states.maps entity).canonical ∧ identity ∈ (states.maps entity).flat) ∧
    Materializes convert states (materializeFlatCpuState storageId convert states).1
      (materializeFlatCpuState storageId convert states).2 := by
  refine ⟨?_, materialize_run storageId states⟩
  intro entity
  refine ⟨(merge (states.maps entity).canonical.toList (states.maps entity).flat.toList).1,
    (merge (states.maps entity).canonical.toList (states.maps entity).flat.toList).2,
    ?_, merged_ends, merged_traversal, ?_⟩
  · intro World visit
    exact walk_merge visit _ _
  · intro identity stopped
    obtain ⟨inCanonical, inFlat⟩ := merge_stops stopped
    exact ⟨mem_entries.mp inCanonical, mem_entries.mp inFlat⟩

section Native

variable {V : Type}

def ofRnn (rnn : NativeRnn V) :
    CpuStates (NativeRnnModuleState V) (FlatNativeRnnModuleState V) where
  maps entity := ⟨rnn.states entity, rnn.flatStates entity⟩
  globalState := rnn.globalState
  flatGlobalState := rnn.flatGlobalState

/-- Both methods do the same to the states of a runtime. -/
def Mirrors (moving : Method (CpuStates (NativeRnnModuleState V) (FlatNativeRnnModuleState V)) Unit)
    (whole : Method (NativeRnn V) Unit) : Prop :=
  ∀ rnn, moving (ofRnn rnn) = ((whole rnn).1, ofRnn (whole rnn).2)

theorem mirrors_bind
    {moving next : Method (CpuStates (NativeRnnModuleState V) (FlatNativeRnnModuleState V)) Unit}
    {whole rest : Method (NativeRnn V) Unit} (first : Mirrors moving whole)
    (then_ : Mirrors next rest) :
    Mirrors (do
      moving
      next) (do
      whole
      rest) := by
  intro rnn
  rw [bind_apply, bind_apply, first rnn]
  cases ran : whole rnn with
  | mk result reached =>
      cases result with
      | ok value => exact then_ reached
      | error failure => rfl

def convertNative (flat : FlatNativeRnnModuleState V) : Except String (NativeRnnModuleState V) :=
  .ok flat.materialize

def statesName (entity : EntityModule) : String := s!"{entity.name}_states"

theorem shared_text (entity : EntityModule) (identity : Int64) :
    s!"{entity.name}_states identity {identity} exists in flat and canonical " ++ "CPU state" =
      s!"{statesName entity} identity {identity} exists in flat and canonical CPU state" := by
  have first : "_states identity " = "_states" ++ " identity " := rfl
  have second : " exists in flat and canonical CPU state" =
      " exists in flat and canonical " ++ "CPU state" := rfl
  simp only [statesName, first, second, toString, String.append_assoc]

theorem with_maps_same (entity : EntityModule) (rnn : NativeRnn V) :
    withMaps entity ⟨rnn.states entity, rnn.flatStates entity⟩ (ofRnn rnn) = ofRnn rnn := by
  simp only [withMaps, ofRnn, CpuStates.mk.injEq, and_true]
  funext other
  split
  · rename_i same
    rw [same]
  · rfl

theorem map_mirrors (storageId : FlatNativeRnnModuleState V → Nat) (entity : EntityModule) :
    Mirrors (onMaps entity (materializeMap storageId convertNative (statesName entity)))
      (NativeRnnState.materializeMap entity) := by
  intro rnn
  have run : MapRun convertNative ⟨rnn.states entity, rnn.flatStates entity⟩ _ _ :=
    map_run storageId (statesName entity) ⟨rnn.states entity, rnn.flatStates entity⟩
  rw [on_maps_apply]
  change ((materializeMap storageId convertNative (statesName entity)
      ⟨rnn.states entity, rnn.flatStates entity⟩).1,
    withMaps entity (materializeMap storageId convertNative (statesName entity)
      ⟨rnn.states entity, rnn.flatStates entity⟩).2 (ofRnn rnn)) = _
  unfold NativeRnnState.materializeMap
  cases shared : (rnn.flatStates entity).keys.find? (· ∈ rnn.states entity) with
  | some identity =>
      have stopped : materializeMap storageId convertNative (statesName entity)
          ⟨rnn.states entity, rnn.flatStates entity⟩ = (.error (.error
            (s!"{entity.name}_states identity {identity} exists in flat and canonical " ++
              "CPU state")), ⟨rnn.states entity, rnn.flatStates entity⟩) := by
        unfold materializeMap
        rw [shared]
        simp only
        rw [shared_text entity identity]
      rw [stopped, with_maps_same]
  | none =>
      have finished := run.finishes.mpr ⟨none_shared.mp shared, fun _ state _ => ⟨_, rfl⟩⟩
      have emptied := run.emptied finished
      rw [finished]
      generalize (materializeMap storageId convertNative (statesName entity)
        ⟨rnn.states entity, rnn.flatStates entity⟩).2 = reached at run emptied ⊢
      obtain ⟨canonical, flat⟩ := reached
      have isEmpty : flat = ∅ := emptied
      subst isEmpty
      have union : canonical = rnn.states entity ∪
          (rnn.flatStates entity).map fun _ => FlatNativeRnnModuleState.materialize := by
        apply ExtTreeMap.ext_getElem?
        intro identity
        have same := run.conserved.entries identity
        have disjoint : (⟨rnn.states entity, rnn.flatStates entity⟩ : StateMaps
            (NativeRnnModuleState V) (FlatNativeRnnModuleState V)).Apart := none_shared.mp shared
        have apart := disjoint identity
        rw [ExtTreeMap.getElem?_union, ExtTreeMap.getElem?_map]
        simp only [StateMaps.entry, ExtTreeMap.getElem?_empty, Option.map_none] at same
        rw [ExtTreeMap.mem_iff_isSome_getElem?, ExtTreeMap.mem_iff_isSome_getElem?] at apart
        cases held : (rnn.states entity)[identity]? with
        | some state =>
            cases flat : (rnn.flatStates entity)[identity]? with
            | some other => simp [held, flat] at apart
            | none =>
                cases here : canonical[identity]? with
                | none => simp [here, held] at same
                | some found => simpa [here, held] using same
        | none =>
            cases flat : (rnn.flatStates entity)[identity]? with
            | some other =>
                cases here : canonical[identity]? with
                | none => simp [here, held, flat] at same
                | some found => simpa [here, held, flat, convertNative] using same
            | none =>
                cases here : canonical[identity]? with
                | none => rfl
                | some found => simp [here, held, flat] at same
      rw [union]
      simp only [withMaps, ofRnn, Prod.mk.injEq, true_and, CpuStates.mk.injEq, and_true]
      funext other
      split
      · rfl
      · rfl

theorem global_mirrors :
    Mirrors (materializeGlobal convertNative)
      (NativeRnnState.materializeGlobal : Method (NativeRnn V) Unit) := by
  intro rnn
  obtain ⟨states, globalState, flatStates, flatGlobalState⟩ := rnn
  cases flatGlobalState with
  | none => rfl
  | some flat =>
      cases globalState with
      | none => rfl
      | some state => rfl

/-- The materialization that every other module runs is this one with states that always convert:
it ends in the same maps and fails with the same text. -/
theorem materialize_mirrors (storageId : FlatNativeRnnModuleState V → Nat) :
    Mirrors (materializeFlatCpuState storageId convertNative)
      (NativeRnnState.materializeFlatCpuState : Method (NativeRnn V) Unit) := by
  apply mirrors_bind (map_mirrors storageId .card)
  apply mirrors_bind (map_mirrors storageId .note)
  apply mirrors_bind (map_mirrors storageId .deck)
  apply mirrors_bind (map_mirrors storageId .preset)
  exact global_mirrors

end Native

end RwkvSrs.CpuStateMaps
