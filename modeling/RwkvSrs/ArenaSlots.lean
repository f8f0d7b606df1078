import RwkvSrs.ResidentArena

/-!
No two keys of the arena share a slot. While a batch is planned, `Planning`
compares the counts of the loop with the table the promised slots would lead
to, so that a finished plan names the slots its own commit fills. Creating
buffers may fail half way, but leaves every slot where it was.
-/

namespace RwkvSrs.ArenaSlots

set_option autoImplicit false

open RwkvSrs.FallibleMethod RwkvSrs.GpuScanPlan RwkvSrs.ResidentArena RwkvSrs.SlotTable

section Buckets

universe u

variable {Item : Type u}

theorem modify_getD (items : List Item) {place : Nat} (inside : place < items.length)
    (change : Item → Item) (missing : Item) (other : Nat) :
    (items.modify place change).getD other missing =
      if other = place then change (items.getD place missing) else items.getD other missing := by
  by_cases same : other = place
  · simp [same, inside]
  · simp [same, Ne.symm same]

theorem push_bucket_perm (buckets : List (List Item)) {place : Nat}
    (inside : place < buckets.length) (item : Item) :
    (buckets.modify place fun items => items ++ [item]).flatten.Perm
      (item :: buckets.flatten) := by
  induction buckets generalizing place with
  | nil => simp at inside
  | cons bucket buckets ih =>
      cases place with
      | zero =>
          rw [List.modify_zero_cons, List.flatten_cons, List.flatten_cons, List.append_assoc]
          exact List.perm_middle
      | succ place =>
          rw [List.modify_succ_cons, List.flatten_cons, List.flatten_cons]
          have moved := (ih (Nat.lt_of_succ_lt_succ inside)).append_left bucket
          exact moved.trans List.perm_middle

theorem buckets_of_range (buckets : List (List Item)) :
    ((List.range buckets.length).flatMap fun place => buckets.getD place []) =
      buckets.flatten := by
  have listed : (List.range buckets.length).map (fun place => buckets.getD place []) = buckets := by
    apply List.ext_getElem?
    intro place
    by_cases inside : place < buckets.length
    · simp [inside]
    · simp [inside]
  rw [List.flatMap_def, listed]

end Buckets

def table (arena : FullyResidentModuleState) : Table Key := fun shard =>
  (arena.shards[shard]?.map FullyResidentShard.keys).getD []

local instance equivBEqKey : EquivBEq Key := inferInstance

local instance lawfulHashableKey : LawfulHashable Key := inferInstance

def directory (arena : FullyResidentModuleState) : Directory Key := fun key =>
  arena.locationByKey[key]?

structure Sound (arena : FullyResidentModuleState) : Prop where
  coherent : Coherent (table arena) (directory arena)
  bounded : ∀ shard, (table arena shard).length ≤ arena.maxEntitiesPerShard
  positive : 0 < arena.maxEntitiesPerShard

theorem table_beyond {arena : FullyResidentModuleState} {shard : Nat}
    (beyond : arena.shards.length ≤ shard) : table arena shard = [] := by
  simp [table, beyond]

theorem located_inside {arena : FullyResidentModuleState} (sound : Sound arena) {key : Key}
    {location : ArenaLocation} (found : directory arena key = some location) :
    location.shard < arena.shards.length := by
  have held := (sound.coherent key location).mp found
  by_contra outside
  rw [Holds, table_beyond (Nat.le_of_not_lt outside)] at held
  simp at held

/-- Only buffers and empty shards were added. -/
structure SameSlots (before after : FullyResidentModuleState) : Prop where
  table : table after = table before
  directory : after.locationByKey = before.locationByKey
  most : after.maxEntitiesPerShard = before.maxEntitiesPerShard
  shards : before.shards.length ≤ after.shards.length

theorem same_slots_refl (arena : FullyResidentModuleState) : SameSlots arena arena :=
  ⟨rfl, rfl, rfl, Nat.le_refl _⟩

theorem same_slots_trans (first middle last : FullyResidentModuleState)
    (early : SameSlots first middle) (late : SameSlots middle last) : SameSlots first last := by
  constructor
  · rw [late.table, early.table]
  · rw [late.directory, early.directory]
  · rw [late.most, early.most]
  · exact Nat.le_trans early.shards late.shards

theorem sound_of_same_slots {before after : FullyResidentModuleState} (same : SameSlots before after)
    (sound : Sound before) : Sound after := by
  have entries : directory after = directory before := by
    funext key
    rw [directory, directory, same.directory]
  constructor
  · rw [same.table, entries]
    exact sound.coherent
  · intro shard
    rw [same.table, same.most]
    exact sound.bounded shard
  · rw [same.most]
    exact sound.positive

/-- The loop of `plan` after the keys in `done`. -/
structure Planning (arena : FullyResidentModuleState) (done : List Key) (progress : PlanProgress) :
    Prop where
  existingSize : progress.existing.length = progress.nextCounts.length
  additionsSize : progress.additions.length = progress.nextCounts.length
  opened : arena.shards.length ≤ progress.nextCounts.length
  counts : ∀ shard,
    progress.nextCounts.getD shard 0 = (placeAll (table arena) progress.newKeys shard).length
  bounded : ∀ shard, progress.nextCounts.getD shard 0 ≤ arena.maxEntitiesPerShard
  inOrder : InOrder (table arena) progress.newKeys
  fresh : progress.newKeys.map Prod.fst =
    done.filter fun key => (directory arena key).isNone
  resident : ∀ shard, ∀ transfer ∈ progress.existing.getD shard [], ∃ key,
    done[transfer.planEntity]? = some key ∧
      directory arena key = some ⟨shard, transfer.arenaEntity⟩
  added : ∀ shard, ∀ transfer ∈ progress.additions.getD shard [], ∃ key,
    done[transfer.planEntity]? = some key ∧ (key, ⟨shard, transfer.arenaEntity⟩) ∈ progress.newKeys
  listed : ∀ placed ∈ progress.newKeys,
    ∃ transfer ∈ progress.additions.getD placed.2.shard [],
      transfer.arenaEntity = placed.2.entity
  once : ((progress.existing.flatten ++ progress.additions.flatten).map
    ArenaTransfer.planEntity).Perm (List.range done.length)

theorem start_planning {arena : FullyResidentModuleState} (sound : Sound arena) :
    Planning arena [] arena.startPlan := by
  have counts : ∀ shard, arena.startPlan.nextCounts.getD shard 0 = (table arena shard).length := by
    intro shard
    rw [FullyResidentModuleState.startPlan, table, List.getD_eq_getElem?_getD, List.getElem?_map]
    cases arena.shards[shard]? <;> rfl
  have empty : ∀ shard, (List.replicate arena.shards.length ([] : List ArenaTransfer)).getD shard [] =
      [] := by
    intro shard
    rw [List.getD_eq_getElem?_getD, List.getElem?_replicate]
    split <;> rfl
  constructor
  case existingSize => simp [FullyResidentModuleState.startPlan]
  case additionsSize => simp [FullyResidentModuleState.startPlan]
  case opened => simp [FullyResidentModuleState.startPlan]
  case counts => exact counts
  case bounded =>
    intro shard
    rw [counts]
    exact sound.bounded shard
  case inOrder => trivial
  case fresh => rfl
  case resident =>
    intro shard transfer member
    rw [FullyResidentModuleState.startPlan, empty] at member
    cases member
  case added =>
    intro shard transfer member
    rw [FullyResidentModuleState.startPlan, empty] at member
    cases member
  case listed =>
    intro placed member
    cases member
  case once => simp [FullyResidentModuleState.startPlan]

theorem rposition_accepted {accepts : Nat → Bool} {counts : List Nat} {place : Nat}
    (found : rposition accepts counts = some place) :
    place < counts.length ∧ accepts (counts.getD place 0) := by
  induction counts generalizing place with
  | nil => cases found
  | cons count counts ih =>
      rw [rposition] at found
      cases later : rposition accepts counts with
      | some position =>
          rw [later] at found
          cases found
          have known := ih later
          exact ⟨Nat.succ_lt_succ known.1, known.2⟩
      | none =>
          rw [later] at found
          by_cases here : accepts count
          · simp only [here, if_true] at found
            cases found
            exact ⟨Nat.succ_pos _, here⟩
          · simp [here] at found

theorem getD_push_empty {Item : Type} (items : List Item) (missing : Item) (place : Nat) :
    (items ++ [missing]).getD place missing = items.getD place missing := by
  rw [List.getD_eq_getElem?_getD, List.getD_eq_getElem?_getD]
  rcases Nat.lt_trichotomy place items.length with inside | here | beyond
  · rw [List.getElem?_append_left inside]
  · simp [here]
  · have none : (items ++ [missing])[place]? = none := by
      rw [List.getElem?_eq_none_iff, List.length_append, List.length_singleton]
      exact beyond
    rw [none, List.getElem?_eq_none (Nat.le_of_lt beyond)]

variable {arena : FullyResidentModuleState} {done : List Key} {progress : PlanProgress}

/-- The chosen shard has room, and opening one changes no promised slot. -/
theorem open_shard_planning (sound : Sound arena) (planning : Planning arena done progress) :
    Planning arena done (arena.openShard progress).2 ∧
      (arena.openShard progress).1 < (arena.openShard progress).2.nextCounts.length ∧
      (arena.openShard progress).2.nextCounts.getD (arena.openShard progress).1 0 <
        arena.maxEntitiesPerShard := by
  rw [FullyResidentModuleState.openShard]
  cases found : rposition (fun count => count < arena.maxEntitiesPerShard) progress.nextCounts with
  | some shard =>
      have accepted := rposition_accepted found
      exact ⟨planning, accepted.1, of_decide_eq_true accepted.2⟩
  | none =>
      refine ⟨?_, by simp, by simpa using sound.positive⟩
      constructor
      case existingSize => simp [planning.existingSize]
      case additionsSize => simp [planning.additionsSize]
      case opened =>
        have opened := planning.opened
        simp only [List.length_append, List.length_singleton]
        omega
      case counts =>
        intro shard
        rw [getD_push_empty]
        exact planning.counts shard
      case bounded =>
        intro shard
        rw [getD_push_empty]
        exact planning.bounded shard
      case inOrder => exact planning.inOrder
      case fresh => exact planning.fresh
      case resident =>
        intro shard transfer member
        rw [getD_push_empty] at member
        exact planning.resident shard transfer member
      case added =>
        intro shard transfer member
        rw [getD_push_empty] at member
        exact planning.added shard transfer member
      case listed =>
        intro placed member
        rw [getD_push_empty]
        exact planning.listed placed member
      case once => simpa using planning.once

theorem once_of_pushed {one other pushed : List ArenaTransfer} {transfer : ArenaTransfer}
    (entity : transfer.planEntity = done.length) (key : Key)
    (moved : pushed.Perm (transfer :: (one ++ other)))
    (once : ((one ++ other).map ArenaTransfer.planEntity).Perm (List.range done.length)) :
    (pushed.map ArenaTransfer.planEntity).Perm (List.range (done ++ [key]).length) := by
  have mapped := moved.map ArenaTransfer.planEntity
  rw [List.map_cons, entity] at mapped
  rw [List.length_append, List.length_singleton, List.range_succ]
  have last := once.cons done.length
  exact (mapped.trans last).trans (List.perm_append_singleton _ _).symm

theorem plan_existing_planning (planning : Planning arena done progress) {key : Key}
    {location : ArenaLocation} (found : directory arena key = some location)
    {next : PlanProgress}
    (planned : FullyResidentModuleState.planExisting location done.length progress = .ok next) :
    Planning arena (done ++ [key]) next := by
  rw [FullyResidentModuleState.planExisting] at planned
  by_cases inside : location.shard < progress.existing.length
  · rw [if_pos inside] at planned
    cases planned
    have moved := (push_bucket_perm progress.existing inside
      ⟨location.entity, done.length⟩).append_right progress.additions.flatten
    constructor
    case existingSize => simp [planning.existingSize]
    case additionsSize => exact planning.additionsSize
    case opened => exact planning.opened
    case counts => exact planning.counts
    case bounded => exact planning.bounded
    case inOrder => exact planning.inOrder
    case fresh =>
      rw [planning.fresh, List.filter_append]
      simp [found]
    case resident =>
      intro shard transfer member
      rw [modify_getD progress.existing inside] at member
      split at member
      case isTrue here =>
        rcases List.mem_append.mp member with old | new
        · obtain ⟨other, present, located⟩ := planning.resident location.shard transfer old
          rw [here]
          exact ⟨other, GpuScanTopology.some_append present _, located⟩
        · rw [List.mem_singleton.mp new, here]
          exact ⟨key, by simp, found⟩
      case isFalse apart =>
        obtain ⟨other, present, located⟩ := planning.resident shard transfer member
        exact ⟨other, GpuScanTopology.some_append present _, located⟩
    case added =>
      intro shard transfer member
      obtain ⟨other, present, located⟩ := planning.added shard transfer member
      exact ⟨other, GpuScanTopology.some_append present _, located⟩
    case listed => exact planning.listed
    case once =>
      apply once_of_pushed rfl key moved
      exact planning.once
  · rw [if_neg inside] at planned
    cases planned

theorem plan_addition_planning (sound : Sound arena) (planning : Planning arena done progress)
    {key : Key} (absent : directory arena key = none) {hostEntity : Option Nat}
    {next : PlanProgress}
    (planned : arena.planAddition key hostEntity done.length progress = .ok next) :
    Planning arena (done ++ [key]) next := by
  have opened := open_shard_planning sound planning
  rw [FullyResidentModuleState.planAddition] at planned
  generalize arena.openShard progress = chosen at planned opened
  obtain ⟨shard, progress⟩ := chosen
  obtain ⟨planning, inside, room⟩ := opened
  simp only at planning inside room planned
  have count := planning.counts shard
  generalize progress.nextCounts.getD shard 0 = arenaEntity at planned count room
  by_cases wide : 2 ^ 32 ≤ arenaEntity
  · simp only [wide, if_true] at planned
    cases planned
  cases hostEntity with
  | none =>
      simp only [wide, if_false] at planned
      cases planned
  | some hostEntity =>
      simp only [wide, if_false] at planned
      cases planned
      have fits : Fits (placeAll (table arena) progress.newKeys) ⟨shard, arenaEntity⟩ := count
      have insideAdditions : shard < progress.additions.length := by
        rw [planning.additionsSize]
        exact inside
      have moved : (progress.existing.flatten ++ (progress.additions.modify shard fun transfers =>
          transfers ++ [⟨arenaEntity, done.length⟩]).flatten).Perm
          (⟨arenaEntity, done.length⟩ :: (progress.existing.flatten ++
            progress.additions.flatten)) := by
        have pushed := push_bucket_perm progress.additions insideAdditions
          ⟨arenaEntity, done.length⟩
        exact (pushed.append_left _).trans List.perm_middle
      constructor
      case existingSize => simp [planning.existingSize]
      case additionsSize => simp [planning.additionsSize]
      case opened => simpa using planning.opened
      case counts =>
        intro other
        rw [modify_getD progress.nextCounts inside, place_all_append]
        by_cases same : other = shard
        · rw [if_pos same, same, planning.counts]
          change _ = (place _ (key, (⟨shard, arenaEntity⟩ : Slot)) shard).length
          have placed := place_same (placeAll (table arena) progress.newKeys) key
            ⟨shard, arenaEntity⟩
          simp only at placed
          rw [placed]
          simp
        · rw [if_neg same, planning.counts]
          have unchanged : place (placeAll (table arena) progress.newKeys)
              (key, ⟨shard, arenaEntity⟩) other =
                placeAll (table arena) progress.newKeys other :=
            place_other (placeAll (table arena) progress.newKeys) key same
          exact congrArg List.length unchanged.symm
      case bounded =>
        intro other
        rw [modify_getD progress.nextCounts inside]
        split
        case isTrue same =>
          rw [planning.counts, ← count]
          exact room
        case isFalse apart => exact planning.bounded other
      case inOrder =>
        rw [in_order_append]
        exact ⟨planning.inOrder, fits, trivial⟩
      case fresh =>
        rw [List.map_append, planning.fresh, List.filter_append]
        simp [absent]
      case resident =>
        intro other transfer member
        obtain ⟨found, present, located⟩ := planning.resident other transfer member
        exact ⟨found, GpuScanTopology.some_append present _, located⟩
      case added =>
        intro other transfer member
        rw [modify_getD progress.additions insideAdditions] at member
        split at member
        case isTrue here =>
          rcases List.mem_append.mp member with old | new
          · obtain ⟨found, present, located⟩ := planning.added shard transfer old
            rw [here]
            exact ⟨found, GpuScanTopology.some_append present _, List.mem_append_left _ located⟩
          · rw [List.mem_singleton.mp new, here]
            exact ⟨key, by simp, by simp⟩
        case isFalse apart =>
          obtain ⟨found, present, located⟩ := planning.added other transfer member
          exact ⟨found, GpuScanTopology.some_append present _, List.mem_append_left _ located⟩
      case listed =>
        intro placed member
        rw [modify_getD progress.additions insideAdditions]
        rcases List.mem_append.mp member with old | new
        · obtain ⟨transfer, inAdditions, entity⟩ := planning.listed placed old
          split
          case isTrue here =>
            rw [here] at inAdditions
            exact ⟨transfer, List.mem_append_left _ inAdditions, entity⟩
          case isFalse apart => exact ⟨transfer, inAdditions, entity⟩
        · rw [List.mem_singleton.mp new, if_pos rfl]
          exact ⟨⟨arenaEntity, done.length⟩, by simp, rfl⟩
      case once =>
        apply once_of_pushed rfl key moved
        exact planning.once

theorem plan_key_planning (sound : Sound arena) (planning : Planning arena done progress)
    {key : Key} {hostEntity : Option Nat} {next : PlanProgress}
    (planned : arena.planKey progress ((key, hostEntity), done.length) = .ok next) :
    Planning arena (done ++ [key]) next := by
  rw [FullyResidentModuleState.planKey] at planned
  cases found : arena.locationByKey[key]? with
  | some location =>
      simp only [found] at planned
      exact plan_existing_planning planning found planned
  | none =>
      simp only [found] at planned
      exact plan_addition_planning sound planning found planned

theorem plan_keys_planning (sound : Sound arena) (entries : List (Key × Option Nat))
    (planning : Planning arena done progress) {last : PlanProgress}
    (planned : (entries.zipIdx done.length).foldlM arena.planKey progress = .ok last) :
    Planning arena (done ++ entries.map Prod.fst) last := by
  induction entries generalizing done progress with
  | nil =>
      cases planned
      simpa using planning
  | cons entry entries ih =>
      rw [List.zipIdx_cons, List.foldlM_cons] at planned
      obtain ⟨next, step, rest⟩ := ResultSteps.bind_ok.mp planned
      have moved := plan_key_planning sound planning step
      have size : (done ++ [entry.1]).length = done.length + 1 := by simp
      rw [← size] at rest
      have finished := ih moved rest
      simpa using finished

theorem plan_planning (sound : Sound arena) {keys : List Key}
    {hostEntities : List (Option Nat)} {plan : ArenaModulePlan}
    (planned : arena.plan keys hostEntities = .ok plan) :
    ∃ progress, Planning arena keys progress ∧ plan = FullyResidentModuleState.finishPlan progress := by
  rw [FullyResidentModuleState.plan] at planned
  by_cases sizes : keys.length = hostEntities.length
  · simp only [sizes, ne_eq, not_true_eq_false, if_false] at planned
    obtain ⟨progress, looped, finished⟩ := ResultSteps.bind_ok.mp planned
    have planning := plan_keys_planning sound (keys.zip hostEntities) (start_planning sound) looped
    rw [List.nil_append, List.map_fst_zip (Nat.le_of_eq sizes)] at planning
    cases finished
    exact ⟨progress, planning, rfl⟩
  · simp only [ne_eq, sizes, not_false_eq_true, if_true] at planned
    cases planned

/-- What a plan over distinct keys promises. The first `gatherCount` transfers
of a shard read the keys that are already there, the others bring new keys. -/
structure PlanExact (arena : FullyResidentModuleState) (keys : List Key) (plan : ArenaModulePlan) :
    Prop where
  once : ((plan.shards.flatMap ArenaShardPlan.transfers).map ArenaTransfer.planEntity).Perm
    (List.range keys.length)
  counted : ∀ shardPlan ∈ plan.shards, shardPlan.gatherCount ≤ shardPlan.transfers.length
  resident : ∀ shardPlan ∈ plan.shards, ∀ transfer ∈ shardPlan.transfers.take shardPlan.gatherCount,
    ∃ key, keys[transfer.planEntity]? = some key ∧
      arena.locationByKey[key]? = some ⟨shardPlan.shard, transfer.arenaEntity⟩
  added : ∀ shardPlan ∈ plan.shards, ∀ transfer ∈ shardPlan.transfers.drop shardPlan.gatherCount,
    ∃ key, keys[transfer.planEntity]? = some key ∧ arena.locationByKey[key]? = none ∧
      (key, ⟨shardPlan.shard, transfer.arenaEntity⟩) ∈ plan.newKeys

theorem shard_plan_cases (progress : PlanProgress) (placed : Nat × Nat) :
    let transfers := progress.existing.getD placed.2 [] ++ progress.additions.getD placed.2 []
    (transfers = [] ∧ FullyResidentModuleState.shardPlan progress placed = none) ∨
      ∃ shardPlan, FullyResidentModuleState.shardPlan progress placed = some shardPlan ∧
        shardPlan.shard = placed.2 ∧ shardPlan.transfers = transfers ∧
        shardPlan.gatherCount = (progress.existing.getD placed.2 []).length := by
  intro transfers
  rw [FullyResidentModuleState.shardPlan]
  by_cases empty : transfers = []
  · left
    exact ⟨empty, if_pos (List.isEmpty_iff.mpr empty)⟩
  · right
    refine ⟨_, if_neg ?_, rfl, rfl, rfl⟩
    rw [List.isEmpty_iff]
    exact empty

theorem finished_shard {shardPlan : ArenaShardPlan}
    (member : shardPlan ∈ (FullyResidentModuleState.finishPlan progress).shards) :
    shardPlan.gatherCount = (progress.existing.getD shardPlan.shard []).length ∧
      shardPlan.transfers = progress.existing.getD shardPlan.shard [] ++
        progress.additions.getD shardPlan.shard [] := by
  rw [FullyResidentModuleState.finishPlan, List.mem_filterMap] at member
  obtain ⟨placed, _, made⟩ := member
  rcases shard_plan_cases progress placed with ⟨_, none⟩ | ⟨found, some, shard, transfers, gathered⟩
  · rw [none] at made
    cases made
  · rw [some] at made
    cases made
    rw [shard]
    exact ⟨gathered, transfers⟩

theorem finished_transfers (progress : PlanProgress) :
    (FullyResidentModuleState.finishPlan progress).shards.flatMap ArenaShardPlan.transfers =
      (List.range progress.nextCounts.length).flatMap fun shard =>
        progress.existing.getD shard [] ++ progress.additions.getD shard [] := by
  have each : ∀ counts : List (Nat × Nat),
      (counts.filterMap (FullyResidentModuleState.shardPlan progress)).flatMap
          ArenaShardPlan.transfers =
        (counts.map Prod.snd).flatMap fun shard =>
          progress.existing.getD shard [] ++ progress.additions.getD shard [] := by
    intro counts
    induction counts with
    | nil => rfl
    | cons placed counts ih =>
        rw [List.map_cons, List.flatMap_cons, ← ih, List.filterMap_cons]
        rcases shard_plan_cases progress placed with ⟨empty, none⟩ | ⟨found, some, _, transfers, _⟩
        · rw [none, empty, List.nil_append]
        · rw [some, List.flatMap_cons, transfers]
  rw [FullyResidentModuleState.finishPlan, each, List.zipIdx_map_snd, List.range_eq_range']

theorem finished_plan_exact (planning : Planning arena done progress) :
    PlanExact arena done (FullyResidentModuleState.finishPlan progress) := by
  constructor
  case once =>
    rw [finished_transfers]
    have split := List.flatMap_append_perm (List.range progress.nextCounts.length)
      (fun shard => progress.existing.getD shard []) (fun shard => progress.additions.getD shard [])
    have existing := buckets_of_range progress.existing
    have additions := buckets_of_range progress.additions
    rw [planning.existingSize] at existing
    rw [planning.additionsSize] at additions
    rw [existing, additions] at split
    exact (split.symm.map _).trans planning.once
  case counted =>
    intro shardPlan member
    obtain ⟨gathered, transfers⟩ := finished_shard member
    rw [gathered, transfers, List.length_append]
    exact Nat.le_add_right _ _
  case resident =>
    intro shardPlan member transfer taken
    obtain ⟨gathered, transfers⟩ := finished_shard member
    rw [gathered, transfers, List.take_left'] at taken
    · exact planning.resident shardPlan.shard transfer taken
    · rfl
  case added =>
    intro shardPlan member transfer dropped
    obtain ⟨gathered, transfers⟩ := finished_shard member
    rw [gathered, transfers, List.drop_left'] at dropped
    · obtain ⟨key, present, listed⟩ := planning.added shardPlan.shard transfer dropped
      refine ⟨key, present, ?_, listed⟩
      have fresh : key ∈ progress.newKeys.map Prod.fst := List.mem_map.mpr ⟨_, listed, rfl⟩
      rw [planning.fresh, List.mem_filter] at fresh
      exact Option.isNone_iff_eq_none.mp fresh.2
    · rfl

/-- The shard of every new key is among the shards whose buffers are ensured. -/
theorem new_key_required (planning : Planning arena done progress) {placed : Key × ArenaLocation}
    (member : placed ∈ progress.newKeys) (other : FullyResidentModuleState) :
    placed.2.shard < requiredShards (FullyResidentModuleState.finishPlan progress) other := by
  obtain ⟨transfer, added, _⟩ := planning.listed placed member
  have inside : placed.2.shard < progress.nextCounts.length := by
    rw [← planning.additionsSize]
    by_contra outside
    rw [List.getD_eq_getElem?_getD, List.getElem?_eq_none (Nat.le_of_not_lt outside)] at added
    cases added
  have counted : (progress.nextCounts[placed.2.shard], placed.2.shard) ∈
      progress.nextCounts.zipIdx := by
    rw [List.mem_zipIdx_iff_getElem?]
    exact List.getElem?_eq_getElem inside
  have planned : ∃ shardPlan ∈ (FullyResidentModuleState.finishPlan progress).shards,
      shardPlan.shard = placed.2.shard := by
    rcases shard_plan_cases progress (progress.nextCounts[placed.2.shard], placed.2.shard) with
      ⟨empty, _⟩ | ⟨shardPlan, some, shard, _⟩
    · rw [(List.append_eq_nil_iff.mp empty).2] at added
      cases added
    · exact ⟨shardPlan, List.mem_filterMap.mpr ⟨_, counted, some⟩, shard⟩
  obtain ⟨shardPlan, inPlan, same⟩ := planned
  have listed : placed.2.shard + 1 ∈ (FullyResidentModuleState.finishPlan progress).shards.map
      fun shardPlan => shardPlan.shard + 1 := by
    rw [← same]
    exact List.mem_map_of_mem inPlan
  exact List.le_max?_getD_of_mem listed

theorem ensured_keys {shard grown : FullyResidentShard} {createBuffer : Nat → Except String Unit}
    {stateStride requiredEntities maxEntities : Nat}
    (ensured : shard.ensureCapacity createBuffer stateStride requiredEntities maxEntities =
      .ok grown) : grown.keys = shard.keys := by
  simp only [FullyResidentShard.ensureCapacity] at ensured
  split at ensured
  · cases ensured
    rfl
  · split at ensured
    · cases ensured
    · split at ensured
      · cases ensured
      · obtain ⟨_, _, ensured⟩ := ResultSteps.bind_ok.mp ensured
        split at ensured
        · cases ensured
        · cases ensured
          rfl

theorem grow_shard_same_slots (createBuffer : Nat → Nat → Except String Unit)
    (shardPlan : ArenaShardPlan) : Keeps SameSlots (growShard createBuffer shardPlan) := by
  intro arena
  rw [growShard]
  cases found : arena.shards[shardPlan.shard]? with
  | none => exact same_slots_refl arena
  | some shard =>
      simp only
      cases ensured : shard.ensureCapacity (createBuffer shardPlan.shard) arena.stateStride
          shardPlan.requiredEntities arena.maxEntitiesPerShard with
      | error message => exact same_slots_refl arena
      | ok grown =>
          constructor
          · funext other
            by_cases same : other = shardPlan.shard
            · obtain ⟨inside, here⟩ := List.getElem?_eq_some_iff.mp found
              simp [table, same, inside, here, ensured_keys ensured]
            · simp [table, Ne.symm same]
          · rfl
          · rfl
          · simp

theorem open_shards_same_slots (plan : ArenaModulePlan) (arena : FullyResidentModuleState) :
    SameSlots arena (openShards plan arena) := by
  constructor
  · funext shard
    rw [table, table, openShards]
    by_cases inside : shard < arena.shards.length
    · rw [List.getElem?_append_left inside]
    · rw [List.getElem?_append_right (Nat.le_of_not_lt inside), List.getElem?_replicate,
        List.getElem?_eq_none (Nat.le_of_not_lt inside)]
      split <;> rfl
  · rfl
  · rfl
  · simp [openShards]

theorem grow_shards_same_slots (createBuffer : Nat → Nat → Except String Unit)
    (plans : List ArenaShardPlan) : Keeps SameSlots (plans.forM (growShard createBuffer)) := by
  induction plans with
  | nil => exact keeps_pure same_slots_refl ()
  | cons shardPlan plans ih =>
      change Keeps SameSlots (growShard createBuffer shardPlan >>= fun _ => plans.forM _)
      apply keeps_bind same_slots_trans (grow_shard_same_slots createBuffer shardPlan)
      intro _
      exact ih

/-- Whether or not the buffers could be made, the slots are as before. -/
theorem ensure_plan_same_slots (createBuffer : Nat → Nat → Except String Unit)
    (plan : ArenaModulePlan) (arena : FullyResidentModuleState) :
    SameSlots arena (ensurePlan createBuffer plan arena).2 := by
  have opened := open_shards_same_slots plan arena
  have grown := grow_shards_same_slots createBuffer plan.shards (openShards plan arena)
  exact same_slots_trans arena _ _ opened grown

theorem ensured_shards (createBuffer : Nat → Nat → Except String Unit)
    (plan : ArenaModulePlan) (arena : FullyResidentModuleState) :
    requiredShards plan arena ≤ (ensurePlan createBuffer plan arena).2.shards.length := by
  have opened : requiredShards plan arena ≤ (openShards plan arena).shards.length := by
    simp only [openShards, List.length_append, List.length_replicate]
    omega
  exact opened.trans (grow_shards_same_slots createBuffer plan.shards (openShards plan arena)).shards

theorem commit_key_placed {placed : Key × ArenaLocation}
    (fits : Fits (table arena) placed.2) (absent : directory arena placed.1 = none)
    (inside : placed.2.shard < arena.shards.length) :
    ∃ after, commitKey placed arena = (.ok (), after) ∧
      table after = place (table arena) placed ∧
      directory after = Function.update (directory arena) placed.1 (some placed.2) ∧
      after.maxEntitiesPerShard = arena.maxEntitiesPerShard ∧
      after.shards.length = arena.shards.length := by
  obtain ⟨key, location⟩ := placed
  have found := List.getElem?_eq_getElem inside
  have size : arena.shards[location.shard].keys.length = location.entity := by
    have next : location.entity = (table arena location.shard).length := fits
    rw [next, table, found]
    rfl
  have new : arena.locationByKey[key]?.isSome = false := by
    rw [Option.isSome_eq_false_iff, Option.isNone_iff_eq_none]
    exact absent
  refine ⟨{ arena with
      locationByKey := arena.locationByKey.insert key location
      shards := arena.shards.set location.shard
        { arena.shards[location.shard] with
          keys := arena.shards[location.shard].keys ++ [key] } }, ?_, ?_, ?_, rfl, ?_⟩
  · simp only [commitKey, found, size, ne_eq, not_true_eq_false, if_false, new]
    rfl
  · funext shard
    by_cases same : shard = location.shard
    · rw [same, place_same]
      simp [table, inside]
    · rw [place_other (table arena) key same]
      simp [table, Ne.symm same]
  · funext other
    by_cases same : other = key
    · simp [directory, same]
    · rw [Function.update_of_ne same, directory, Std.ExtHashMap.getElem?_insert]
      simp [Ne.symm same, directory]
  · simp

theorem commit_keys_placed {placements : List (Key × ArenaLocation)}
    (inOrder : InOrder (table arena) placements) (distinct : (placements.map Prod.fst).Nodup)
    (absent : ∀ placed ∈ placements, directory arena placed.1 = none)
    (inside : ∀ placed ∈ placements, placed.2.shard < arena.shards.length)
    (coherent : Coherent (table arena) (directory arena)) :
    ∃ after, placements.forM commitKey arena = (.ok (), after) ∧
      table after = placeAll (table arena) placements ∧
      Coherent (table after) (directory after) ∧
      after.maxEntitiesPerShard = arena.maxEntitiesPerShard := by
  induction placements generalizing arena with
  | nil => exact ⟨arena, rfl, rfl, coherent, rfl⟩
  | cons placed placements ih =>
      rw [List.map_cons, List.nodup_cons] at distinct
      have new := absent placed (by simp)
      obtain ⟨middle, committed, tables, entries, most, shards⟩ :=
        commit_key_placed inOrder.1 new (inside placed (by simp))
      have coherentMiddle : Coherent (table middle) (directory middle) := by
        rw [tables, entries]
        exact coherent_place coherent inOrder.1 new
      have later : InOrder (table middle) placements := by
        rw [tables]
        exact inOrder.2
      obtain ⟨after, rest, finalTable, finalCoherent, finalMost⟩ := ih later distinct.2
        (by
          intro other member
          have apart : other.1 ≠ placed.1 := by
            intro same
            exact distinct.1 (List.mem_map.mpr ⟨other, member, same⟩)
          rw [entries, Function.update_of_ne apart]
          exact absent other (List.mem_cons_of_mem _ member))
        (by
          intro other member
          rw [shards]
          exact inside other (List.mem_cons_of_mem _ member))
        coherentMiddle
      refine ⟨after, ?_, ?_, finalCoherent, finalMost.trans most⟩
      · change (commitKey placed >>= fun _ => placements.forM commitKey) arena = _
        rw [bind_of_ok committed]
        exact rest
      · rw [finalTable, tables]
        rfl

theorem commit_planned (sound : Sound arena) (planning : Planning arena done progress)
    (distinct : done.Nodup) {createBuffer : Nat → Nat → Except String Unit}
    {ensured : FullyResidentModuleState}
    (ready : ensurePlan createBuffer (FullyResidentModuleState.finishPlan progress) arena =
      (.ok (), ensured)) :
    ∃ after, commit (FullyResidentModuleState.finishPlan progress) ensured = (.ok (), after) ∧
      table after = placeAll (table arena) progress.newKeys ∧ Sound after := by
  have same := ensure_plan_same_slots createBuffer (FullyResidentModuleState.finishPlan progress)
    arena
  have opened := ensured_shards createBuffer (FullyResidentModuleState.finishPlan progress) arena
  rw [ready] at same opened
  have soundEnsured := sound_of_same_slots same sound
  have entries : directory ensured = directory arena := by
    funext key
    rw [directory, directory, same.directory]
  have inOrder : InOrder (table ensured) progress.newKeys := by
    rw [same.table]
    exact planning.inOrder
  have newDistinct : (progress.newKeys.map Prod.fst).Nodup := by
    rw [planning.fresh]
    exact distinct.filter _
  have absent : ∀ placed ∈ progress.newKeys, directory ensured placed.1 = none := by
    intro placed member
    have fresh : placed.1 ∈ progress.newKeys.map Prod.fst := List.mem_map_of_mem member
    rw [planning.fresh, List.mem_filter] at fresh
    rw [entries]
    exact Option.isNone_iff_eq_none.mp fresh.2
  have inside : ∀ placed ∈ progress.newKeys, placed.2.shard < ensured.shards.length := by
    intro placed member
    exact Nat.lt_of_lt_of_le (new_key_required planning member arena) opened
  obtain ⟨after, committed, tables, coherent, most⟩ :=
    commit_keys_placed inOrder newDistinct absent inside soundEnsured.coherent
  rw [same.table] at tables
  refine ⟨after, committed, tables, coherent, ?_, ?_⟩
  · intro shard
    rw [tables, most, same.most, ← planning.counts]
    exact planning.bounded shard
  · rw [most]
    exact soundEnsured.positive

/-- The arenas of one module over any batches. A batch may be dropped after its
plan, with its buffers made or only some of them. -/
inductive Reached (kind : ModuleKind) : FullyResidentModuleState → Prop where
  | new {shardBytes : Nat} {arena : FullyResidentModuleState}
      (made : FullyResidentModuleState.new (moduleLayers kind) shardBytes = .ok arena) :
      Reached kind arena
  | dropped {arena : FullyResidentModuleState} {ids : List ReviewIds} {plan : ArenaModulePlan}
      (createBuffer : Nat → Nat → Except String Unit) (before : Reached kind arena)
      (planned : arena.planReviews kind ids = .ok plan) :
      Reached kind (ensurePlan createBuffer plan arena).2
  | committed {arena ensured : FullyResidentModuleState} {ids : List ReviewIds}
      {plan : ArenaModulePlan} (createBuffer : Nat → Nat → Except String Unit)
      (before : Reached kind arena) (planned : arena.planReviews kind ids = .ok plan)
      (ready : ensurePlan createBuffer plan arena = (.ok (), ensured)) :
      Reached kind (commit plan ensured).2

theorem new_sound {layers shardBytes : Nat}
    (made : FullyResidentModuleState.new layers shardBytes = .ok arena) : Sound arena := by
  rw [FullyResidentModuleState.new] at made
  by_cases none : shardBytes / (layers * stateLayerElements * 4) = 0
  · simp only [none, if_true] at made
    cases made
  · simp only [none, if_false] at made
    cases made
    constructor
    · intro key slot
      simp [directory, Holds, table]
    · intro shard
      simp [table]
    · exact Nat.pos_of_ne_zero none

theorem plan_reviews_planning (sound : Sound arena) {kind : ModuleKind} {ids : List ReviewIds}
    {plan : ArenaModulePlan} (planned : arena.planReviews kind ids = .ok plan) :
    ∃ progress, Planning arena ((groupStreams kind ids).map EntityStream.key) progress ∧
      plan = FullyResidentModuleState.finishPlan progress :=
  plan_planning sound planned

theorem reached_sound {kind : ModuleKind} (reached : Reached kind arena) : Sound arena := by
  induction reached with
  | new made => exact new_sound made
  | dropped createBuffer before planned sound =>
      exact sound_of_same_slots (ensure_plan_same_slots createBuffer _ _) sound
  | @committed arena ensured ids plan createBuffer before planned ready sound =>
      obtain ⟨progress, planning, same⟩ := plan_reviews_planning sound planned
      subst same
      have distinct := (GpuScanTopology.group_streams_grouped kind ids).distinct
      obtain ⟨after, committed, _, soundAfter⟩ := commit_planned sound planning distinct ready
      rw [committed]
      exact soundAfter

/-- The keys of an arena and its directory agree, slot by slot. -/
structure SlotsDistinct (arena : FullyResidentModuleState) : Prop where
  injective : ∀ (key other : Key) (location : ArenaLocation), arena.locationByKey[key]? = some location →
    arena.locationByKey[other]? = some location → key = other
  held : ∀ (key : Key) (location : ArenaLocation), arena.locationByKey[key]? = some location →
    ∃ shard : FullyResidentShard, arena.shards[location.shard]? = some shard ∧
      shard.keys[location.entity]? = some key ∧ location.entity < arena.maxEntitiesPerShard
  dense : ∀ (number : Nat) (shard : FullyResidentShard), arena.shards[number]? = some shard →
    shard.keys.length ≤ arena.maxEntitiesPerShard ∧
      ∀ (entity : Nat) (key : Key), shard.keys[entity]? = some key →
        arena.locationByKey[key]? = some ⟨number, entity⟩

theorem slots_distinct_of_sound (sound : Sound arena) : SlotsDistinct arena := by
  constructor
  case injective =>
    intro key other location found otherFound
    exact coherent_injective sound.coherent found otherFound
  case held =>
    intro key location found
    have inside := located_inside sound found
    have held := (sound.coherent key location).mp found
    have present := List.getElem?_eq_getElem inside
    rw [Holds, table, present] at held
    have bounded := sound.bounded location.shard
    rw [table, present] at bounded
    have below := (List.getElem?_eq_some_iff.mp held).1
    exact ⟨_, present, held, Nat.lt_of_lt_of_le below bounded⟩
  case dense =>
    intro number shard present
    have bounded := sound.bounded number
    rw [table, present] at bounded
    refine ⟨bounded, ?_⟩
    intro entity key found
    apply (sound.coherent key ⟨number, entity⟩).mpr
    rw [Holds, table, present]
    exact found

/-- Every transfer of the plan writes to the slot its key now has. -/
def Placed (keys : List Key) (plan : ArenaModulePlan) (after : FullyResidentModuleState) : Prop :=
  ∀ shardPlan ∈ plan.shards, ∀ transfer ∈ shardPlan.transfers, ∃ key,
    keys[transfer.planEntity]? = some key ∧
      after.locationByKey[key]? = some ⟨shardPlan.shard, transfer.arenaEntity⟩

theorem transfers_placed (sound : Sound arena) (planning : Planning arena done progress)
    {after : FullyResidentModuleState} (soundAfter : Sound after)
    (tables : table after = placeAll (table arena) progress.newKeys) :
    Placed done (FullyResidentModuleState.finishPlan progress) after := by
  intro shardPlan member transfer listed
  obtain ⟨_, transfers⟩ := finished_shard member
  rw [transfers] at listed
  rcases List.mem_append.mp listed with old | new
  · obtain ⟨key, present, located⟩ := planning.resident shardPlan.shard transfer old
    refine ⟨key, present, (soundAfter.coherent key _).mpr ?_⟩
    rw [tables]
    exact holds_place_all progress.newKeys ((sound.coherent key _).mp located)
  · obtain ⟨key, present, placed⟩ := planning.added shardPlan.shard transfer new
    refine ⟨key, present, (soundAfter.coherent key _).mpr ?_⟩
    rw [tables]
    exact placed_held planning.inOrder placed

theorem arena_slots_never_collide {kind : ModuleKind} (reached : Reached kind arena) :
    SlotsDistinct arena ∧
      ∀ ids plan, arena.planReviews kind ids = .ok plan →
        let keys := (groupStreams kind ids).map EntityStream.key
        keys.Nodup ∧ (∀ key, key ∈ keys ↔ ∃ review ∈ ids, kind.key review = key) ∧
          PlanExact arena keys plan ∧
          ∀ createBuffer ensured, ensurePlan createBuffer plan arena = (.ok (), ensured) →
            ∃ after, commit plan ensured = (.ok (), after) ∧ SlotsDistinct after ∧
              Placed keys plan after := by
  have sound := reached_sound reached
  refine ⟨slots_distinct_of_sound sound, ?_⟩
  intro ids plan planned keys
  obtain ⟨progress, planning, same⟩ := plan_reviews_planning sound planned
  subst same
  have grouped := GpuScanTopology.group_streams_grouped kind ids
  have distinct := grouped.distinct
  refine ⟨distinct, ?_, finished_plan_exact planning, ?_⟩
  · intro key
    rw [← grouped.present, List.mem_map]
  intro createBuffer ensured ready
  obtain ⟨after, committed, tables, soundAfter⟩ := commit_planned sound planning distinct ready
  exact ⟨after, committed, slots_distinct_of_sound soundAfter,
    transfers_placed sound planning soundAfter tables⟩

/-- An arena with room for two cards in a shard. -/
def smallArena : FullyResidentModuleState where
  stateStride := 13056
  maxEntitiesPerShard := 2
  shards := []
  locationByKey := ∅

theorem small_arena_reached : Reached .card smallArena := by
  have made : FullyResidentModuleState.new (moduleLayers .card) 104448 = .ok smallArena := by
    rfl
  exact Reached.new made

def smallBatch : List ReviewIds := [(1, 0, 0, 0), (2, 0, 0, 0), (1, 0, 0, 0), (3, 0, 0, 0)]

def smallPlan : ArenaModulePlan where
  hostTransfers := [⟨0, 0⟩, ⟨1, 1⟩, ⟨2, 2⟩]
  shards := [⟨0, 0, [⟨0, 0⟩, ⟨1, 1⟩], 2⟩, ⟨1, 0, [⟨0, 2⟩], 1⟩]
  newKeys := [(some 1, ⟨0, 0⟩), (some 2, ⟨0, 1⟩), (some 3, ⟨1, 0⟩)]

theorem small_batch_planned : smallArena.planReviews .card smallBatch = .ok smallPlan := by
  have absent : ∀ key : Key, smallArena.locationByKey[key]? = none := by
    intro key
    exact Std.ExtHashMap.getElem?_empty
  have keys : (groupStreams .card smallBatch).map EntityStream.key = [some 1, some 2, some 3] := by
    decide
  have step : smallArena.planKey = fun progress entry =>
      smallArena.planAddition entry.1.1 entry.1.2 entry.2 progress := by
    funext progress entry
    rw [FullyResidentModuleState.planKey, absent]
  have hosts : smallArena.hostEntities 0 [some 1, some 2, some 3] = [some 0, some 1, some 2] := by
    simp [FullyResidentModuleState.hostEntities, absent]
  rw [FullyResidentModuleState.planReviews, keys, FullyResidentModuleState.plan, step]
  simp only [hosts]
  rfl

/-- The arena after three new cards: one shard is full and a second is open. -/
def residentArena : FullyResidentModuleState where
  stateStride := 13056
  maxEntitiesPerShard := 2
  shards := [⟨[some 1, some 2], some 104448, 2⟩, ⟨[some 3], some 52224, 1⟩]
  locationByKey := ((∅ : Std.ExtHashMap Key ArenaLocation).insert (some 1) ⟨0, 0⟩ |>.insert
    (some 2) ⟨0, 1⟩).insert (some 3) ⟨1, 0⟩

theorem small_batch_committed :
    commit smallPlan (ensurePlan (fun _ _ => .ok ()) smallPlan smallArena).2 =
      (.ok (), residentArena) := by
  have ready : (ensurePlan (fun _ _ => .ok ()) smallPlan smallArena).2 =
      { smallArena with shards := [⟨[], some 104448, 2⟩, ⟨[], some 52224, 1⟩] } := by rfl
  rw [ready]
  simp [commit, smallPlan, commitKey, bind_apply, smallArena, residentArena]

/-- Cards 2 and 3 are resident, card 4 is new. -/
def mixedBatch : List ReviewIds := [(2, 0, 0, 0), (4, 0, 0, 0), (3, 0, 0, 0), (2, 0, 0, 0)]

def mixedPlan : ArenaModulePlan where
  hostTransfers := [⟨0, 1⟩]
  shards := [⟨0, 1, [⟨1, 0⟩], 2⟩, ⟨1, 1, [⟨0, 2⟩, ⟨1, 1⟩], 2⟩]
  newKeys := [(some 4, ⟨1, 1⟩)]

theorem mixed_batch_planned : residentArena.planReviews .card mixedBatch = .ok mixedPlan := by
  have keys : (groupStreams .card mixedBatch).map EntityStream.key = [some 2, some 4, some 3] := by
    decide
  have second : residentArena.locationByKey[(some 2 : Key)]? = some ⟨0, 1⟩ := by
    simp only [residentArena, Std.ExtHashMap.getElem?_insert]
    rfl
  have third : residentArena.locationByKey[(some 3 : Key)]? = some ⟨1, 0⟩ := by
    simp only [residentArena, Std.ExtHashMap.getElem?_insert]
    rfl
  have fourth : residentArena.locationByKey[(some 4 : Key)]? = none := by
    simp only [residentArena, Std.ExtHashMap.getElem?_insert, Std.ExtHashMap.getElem?_empty]
    rfl
  have hosts : residentArena.hostEntities 0 [some 2, some 4, some 3] = [none, some 0, none] := by
    simp [FullyResidentModuleState.hostEntities, second, third, fourth]
  have kept : ∀ progress entry location,
      residentArena.locationByKey[entry.1.1]? = some location →
        residentArena.planKey progress entry =
          FullyResidentModuleState.planExisting location entry.2 progress := by
    intro progress entry location found
    rw [FullyResidentModuleState.planKey, found]
  have added : ∀ progress entry, residentArena.locationByKey[entry.1.1]? = none →
      residentArena.planKey progress entry =
        residentArena.planAddition entry.1.1 entry.1.2 entry.2 progress := by
    intro progress entry absent
    rw [FullyResidentModuleState.planKey, absent]
  rw [FullyResidentModuleState.planReviews, keys, hosts, FullyResidentModuleState.plan]
  simp only [List.zip, List.zipWith, List.zipIdx, List.foldlM, kept _ ((some 2, none), 0) _ second,
    added _ ((some 4, some 0), 1) fourth, kept _ ((some 3, none), 2) _ third]
  rfl

theorem resident_arena_reached : Reached .card residentArena := by
  have ready : ensurePlan (fun _ _ => .ok ()) smallPlan smallArena =
      (.ok (), (ensurePlan (fun _ _ => .ok ()) smallPlan smallArena).2) := rfl
  have committed := Reached.committed _ small_arena_reached small_batch_planned ready
  rw [small_batch_committed] at committed
  exact committed

/-- Two resident cards are read from their slots, and a new card fills the second shard. -/
theorem mixed_batch_placed :
    ∃ after, commit mixedPlan (ensurePlan (fun _ _ => .ok ()) mixedPlan residentArena).2 =
        (.ok (), after) ∧ SlotsDistinct after ∧
      Placed [some 2, some 4, some 3] mixedPlan after := by
  have slots := arena_slots_never_collide resident_arena_reached
  have planned := slots.2 mixedBatch mixedPlan mixed_batch_planned
  have placed := planned.2.2.2 (fun _ _ => .ok ())
  have ready : ensurePlan (fun _ _ => .ok ()) mixedPlan residentArena =
      (.ok (), (ensurePlan (fun _ _ => .ok ()) mixedPlan residentArena).2) := rfl
  exact placed _ ready

end RwkvSrs.ArenaSlots
