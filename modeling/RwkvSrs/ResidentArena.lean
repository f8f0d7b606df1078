import Mathlib.Data.List.Perm.Basic
import Std.Data.ExtHashMap.Lemmas
import RwkvSrs.FallibleMethod
import RwkvSrs.GpuScanTopology
import RwkvSrs.ResultSteps
import RwkvSrs.SlotTable

/-!
The arena that keeps one module's recurrent states on the device. A batch is
planned first: every key of the batch that is already in the arena is read from
its slot, every other key is promised the next free slot of a shard. Buffers
are then made large enough for the promised slots, and only after the batch has
run are the promised slots written into the directory of the arena.

The device decides whether a buffer can be created, so `createBuffer` answers
for every shard and size. The values in the buffers are left out.
-/

namespace RwkvSrs.ResidentArena

set_option autoImplicit false

open RwkvSrs.FallibleMethod RwkvSrs.GpuScanPlan RwkvSrs.SlotTable

abbrev Key := Option Int64

abbrev ArenaLocation := Slot

structure ArenaTransfer where
  arenaEntity : Nat
  planEntity : Nat

/-- A buffer is known by its size in bytes. -/
structure FullyResidentShard where
  keys : List Key
  buffer : Option Nat
  capacityEntities : Nat

def FullyResidentShard.new : FullyResidentShard where
  keys := []
  buffer := none
  capacityEntities := 0

/-- The largest `usize`, plus one. -/
def usizeBound : Nat := 2 ^ 64

/-- The capacity of a replacement buffer, with an eighth of room to grow. -/
def capacityWithHeadroom (requiredEntities maxEntities : Nat) : Nat :=
  let roomy := requiredEntities + requiredEntities / 8
  let withHeadroom := min (if roomy < usizeBound then roomy else maxEntities) maxEntities
  max withHeadroom requiredEntities

def FullyResidentShard.ensureCapacity (shard : FullyResidentShard)
    (createBuffer : Nat → Except String Unit) (stateStride requiredEntities maxEntities : Nat) :
    Except String FullyResidentShard := do
  if requiredEntities ≤ shard.capacityEntities then
    return shard
  if maxEntities < requiredEntities then
    throw s!"fully resident GPU state shard requires {requiredEntities} entities but supports at most {maxEntities}"
  let capacityEntities := capacityWithHeadroom requiredEntities maxEntities
  let capacityBytes := capacityEntities * stateStride * 4
  if usizeBound ≤ capacityBytes then
    throw "fully resident GPU state shard size overflow"
  createBuffer capacityBytes
  if shard.buffer.isSome ∧ usizeBound ≤ shard.keys.length * stateStride * 4 then
    throw "fully resident GPU state copy size overflow"
  return { shard with buffer := some capacityBytes, capacityEntities := capacityEntities }

structure ArenaShardPlan where
  shard : Nat
  gatherCount : Nat
  transfers : List ArenaTransfer
  requiredEntities : Nat

structure ArenaModulePlan where
  hostTransfers : List ArenaTransfer
  shards : List ArenaShardPlan
  newKeys : List (Key × ArenaLocation)

structure FullyResidentModuleState where
  stateStride : Nat
  maxEntitiesPerShard : Nat
  shards : List FullyResidentShard
  locationByKey : Std.ExtHashMap Key ArenaLocation

def moduleLayers : ModuleKind → Nat
  | .card => 3
  | .deck => 4
  | .note => 2
  | .preset => 3
  | .global => 4

def stateLayerElements : Nat := 128 + 4 * 32 * 32 + 128

/-- `shardBytes` is what the device and the environment allow for one shard. -/
def FullyResidentModuleState.new (layers shardBytes : Nat) :
    Except String FullyResidentModuleState := do
  let stateStride := layers * stateLayerElements
  let entityBytes := stateStride * 4
  let maxEntitiesPerShard := shardBytes / entityBytes
  if maxEntitiesPerShard = 0 then
    throw s!"fully resident GPU state shard limit {shardBytes} is smaller than one {entityBytes}-byte state"
  return { stateStride, maxEntitiesPerShard, shards := [], locationByKey := ∅ }

def rposition (accepts : Nat → Bool) : List Nat → Option Nat
  | [] => none
  | count :: counts =>
      match rposition accepts counts with
      | some later => some (later + 1)
      | none => if accepts count then some 0 else none

/-- The local variables of the loop in `plan`. -/
structure PlanProgress where
  nextCounts : List Nat
  existing : List (List ArenaTransfer)
  additions : List (List ArenaTransfer)
  hostTransfers : List ArenaTransfer
  newKeys : List (Key × ArenaLocation)

namespace FullyResidentModuleState

variable (arena : FullyResidentModuleState)

def startPlan : PlanProgress where
  nextCounts := arena.shards.map fun shard => shard.keys.length
  existing := List.replicate arena.shards.length []
  additions := List.replicate arena.shards.length []
  hostTransfers := []
  newKeys := []

/-- The shard a new key goes to, after opening one when all are full. -/
def openShard (progress : PlanProgress) : Nat × PlanProgress :=
  match rposition (fun count => count < arena.maxEntitiesPerShard) progress.nextCounts with
  | some shard => (shard, progress)
  | none =>
      (progress.nextCounts.length,
        { progress with
          nextCounts := progress.nextCounts ++ [0]
          existing := progress.existing ++ [[]]
          additions := progress.additions ++ [[]] })

def planExisting (location : ArenaLocation) (planEntity : Nat) (progress : PlanProgress) :
    Except String PlanProgress :=
  if location.shard < progress.existing.length then
    .ok { progress with
      existing := progress.existing.modify location.shard fun transfers =>
        transfers ++ [⟨location.entity, planEntity⟩] }
  else .error "index out of bounds"

def planAddition (key : Key) (hostEntity : Option Nat) (planEntity : Nat)
    (progress : PlanProgress) : Except String PlanProgress := do
  let (shard, progress) := arena.openShard progress
  let arenaEntity := progress.nextCounts.getD shard 0
  if 2 ^ 32 ≤ arenaEntity then
    throw "fully resident GPU state shard index overflow"
  match hostEntity with
  | none => throw "new fully resident GPU state is missing its host source"
  | some hostEntity =>
      return {
        nextCounts := progress.nextCounts.modify shard (· + 1)
        existing := progress.existing
        additions := progress.additions.modify shard fun transfers =>
          transfers ++ [⟨arenaEntity, planEntity⟩]
        hostTransfers := progress.hostTransfers ++ [⟨hostEntity, planEntity⟩]
        newKeys := progress.newKeys ++ [(key, ⟨shard, arenaEntity⟩)] }

def planKey (progress : PlanProgress) (entry : (Key × Option Nat) × Nat) :
    Except String PlanProgress :=
  match arena.locationByKey[entry.1.1]? with
  | some location => planExisting location entry.2 progress
  | none => arena.planAddition entry.1.1 entry.1.2 entry.2 progress

def shardPlan (progress : PlanProgress) (placed : Nat × Nat) : Option ArenaShardPlan :=
  let (requiredEntities, shard) := placed
  let existing := progress.existing.getD shard []
  let transfers := existing ++ progress.additions.getD shard []
  if transfers.isEmpty then none
  else some { shard, gatherCount := existing.length, transfers, requiredEntities }

def finishPlan (progress : PlanProgress) : ArenaModulePlan where
  hostTransfers := progress.hostTransfers
  shards := progress.nextCounts.zipIdx.filterMap (shardPlan progress)
  newKeys := progress.newKeys

def plan (keys : List Key) (hostEntities : List (Option Nat)) : Except String ArenaModulePlan := do
  if keys.length ≠ hostEntities.length then
    throw "fully resident GPU state source plan mismatch"
  let progress ← (keys.zip hostEntities).zipIdx.foldlM arena.planKey arena.startPlan
  return finishPlan progress

/-- The host source of every key: the states not in the arena lie in the host
buffer one after the other. -/
def hostEntities : Nat → List Key → List (Option Nat)
  | _, [] => []
  | next, key :: keys =>
      if arena.locationByKey[key]?.isSome then none :: hostEntities next keys
      else some next :: hostEntities (next + 1) keys

/-- The arena plan of a batch of reviews, as `ModulePlan::build` asks for it. -/
def planReviews (kind : ModuleKind) (ids : List ReviewIds) : Except String ArenaModulePlan :=
  let keys := (groupStreams kind ids).map EntityStream.key
  arena.plan keys (arena.hostEntities 0 keys)

end FullyResidentModuleState

def growShard (createBuffer : Nat → Nat → Except String Unit) (shardPlan : ArenaShardPlan) :
    Method FullyResidentModuleState Unit := fun arena =>
  match arena.shards[shardPlan.shard]? with
  | none => (.error (.panic "index out of bounds"), arena)
  | some shard =>
      match shard.ensureCapacity (createBuffer shardPlan.shard) arena.stateStride
          shardPlan.requiredEntities arena.maxEntitiesPerShard with
      | .ok grown => (.ok (), { arena with shards := arena.shards.set shardPlan.shard grown })
      | .error message => (.error (.error message), arena)

def requiredShards (plan : ArenaModulePlan) (arena : FullyResidentModuleState) : Nat :=
  (plan.shards.map fun shardPlan => shardPlan.shard + 1).max?.getD arena.shards.length

def openShards (plan : ArenaModulePlan) (arena : FullyResidentModuleState) :
    FullyResidentModuleState :=
  { arena with
    shards := arena.shards ++
      List.replicate (requiredShards plan arena - arena.shards.length) FullyResidentShard.new }

def ensurePlan (createBuffer : Nat → Nat → Except String Unit) (plan : ArenaModulePlan) :
    Method FullyResidentModuleState Unit := do
  update (openShards plan)
  plan.shards.forM (growShard createBuffer)

def commitKey (placed : Key × ArenaLocation) : Method FullyResidentModuleState Unit := fun arena =>
  let (key, location) := placed
  match arena.shards[location.shard]? with
  | none => (.error (.error "fully resident GPU state commit shard is missing"), arena)
  | some shard =>
      if shard.keys.length ≠ location.entity then
        (.error (.error "fully resident GPU state commit order diverged"), arena)
      else
        let inserted :=
          { arena with locationByKey := arena.locationByKey.insert key location }
        if arena.locationByKey[key]?.isSome then
          (.error (.error "fully resident GPU state key was committed twice"), inserted)
        else
          (.ok (), { inserted with
            shards := arena.shards.set location.shard { shard with keys := shard.keys ++ [key] } })

def commit (plan : ArenaModulePlan) : Method FullyResidentModuleState Unit :=
  plan.newKeys.forM commitKey

end RwkvSrs.ResidentArena
