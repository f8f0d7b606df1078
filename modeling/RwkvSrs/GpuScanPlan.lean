import Mathlib.Data.List.Nodup
import Mathlib.Tactic.Ring

/-!
The topology of a GPU scan batch. `ModulePlan` groups the reviews of a batch by
the key of one module, lays the rows of each group next to each other, and
cuts each group into chunks. Row numbers and metadata indices are naturals
here: the batch is rejected earlier when it has more rows than the device
allows in one dimension, which is a 32-bit limit, so no index wraps and none
reaches the sentinel `INVALID_INDEX`, which is `none` below.
-/

namespace RwkvSrs.GpuScanPlan

set_option autoImplicit false

/-- Card, note, deck and preset id, in the order of the tuple. -/
abbrev ReviewIds := Int64 × Int64 × Int64 × Int64

inductive ModuleKind where
  | card
  | deck
  | note
  | preset
  | global
deriving DecidableEq

def ModuleKind.key (kind : ModuleKind) (ids : ReviewIds) : Option Int64 :=
  match kind with
  | .card => some ids.1
  | .deck => some ids.2.2.1
  | .note => some ids.2.1
  | .preset => some ids.2.2.2
  | .global => none

inductive GpuProcessScanMode where
  | predictions
  | curves
  | stateOnly
deriving DecidableEq

def GpuProcessScanMode.rowsPerReview (mode : GpuProcessScanMode) : Nat :=
  if mode = .stateOnly then 1 else 2

def GpuProcessScanMode.processRowOffset (mode : GpuProcessScanMode) : Nat :=
  mode.rowsPerReview - 1

structure EntityStream where
  key : Option Int64
  rows : List Nat

/-- Both bits of `flags` are fields of their own. -/
structure RowMeta where
  previousProcessRow : Option Nat
  entity : Nat
  rowHasState : Bool
  rowLastProcess : Bool

structure TransformMeta where
  startRow : Nat
  reviewCount : Nat
  entity : Nat
  localIndex : Nat

structure FinalChunkMeta where
  startRow : Nat
  reviewCount : Nat
  entity : Nat
  prefixTransform : Option Nat
  chunkLast : Bool

structure ModulePlan where
  keys : List (Option Int64)
  sequenceToOriginal : List Nat
  rowMetadata : List RowMeta
  transformMetadata : List TransformMeta
  finalChunkMetadata : List FinalChunkMeta
  maxTransformRun : Nat

/-- The stream index map holds, for every key met so far, the position of the
stream with that key. -/
def pushReview (streams : List EntityStream) (key : Option Int64) (row : Nat) :
    List EntityStream :=
  match streams.findIdx? (fun stream => stream.key == key) with
  | some stream =>
      streams.modify stream fun found => { found with rows := found.rows ++ [row] }
  | none => streams ++ [{ key := key, rows := [row] }]

def groupStreams (kind : ModuleKind) (ids : List ReviewIds) : List EntityStream :=
  ids.zipIdx.foldl (fun streams (ids, row) => pushReview streams (kind.key ids) row) []

section Build

variable (mode : GpuProcessScanMode) (chunkReviews : Nat) (hasState : Option Int64 → Bool)

def pushRows (entity : Nat) (stream : EntityStream) (plan : ModulePlan)
    (placed : Nat × Nat) : ModulePlan :=
  let (originalReview, position) := placed
  let previousProcessRow :=
    if position = 0 then none else some (plan.sequenceToOriginal.length - 1)
  let common : RowMeta :=
    { previousProcessRow, entity, rowHasState := hasState stream.key, rowLastProcess := false }
  let queryOriginal :=
    if mode ≠ .stateOnly then [originalReview * mode.rowsPerReview] else []
  let queryMetadata := if mode ≠ .stateOnly then [common] else []
  { plan with
    sequenceToOriginal := plan.sequenceToOriginal ++ queryOriginal ++
      [originalReview * mode.rowsPerReview + mode.processRowOffset]
    rowMetadata := plan.rowMetadata ++ queryMetadata ++
      [{ common with rowLastProcess := position + 1 == stream.rows.length }] }

def finalChunkCount (stream : EntityStream) : Nat :=
  (stream.rows.length + chunkReviews - 1) / chunkReviews

def pushChunk (entity : Nat) (stream : EntityStream) (sequenceStart transformStart : Nat)
    (plan : ModulePlan) (chunk : Nat) : ModulePlan :=
  let transformCount := finalChunkCount chunkReviews stream - 1
  let reviewStart := chunk * chunkReviews
  let reviewCount := min (stream.rows.length - reviewStart) chunkReviews
  let startRow := sequenceStart + reviewStart * mode.rowsPerReview
  { plan with
    transformMetadata := plan.transformMetadata ++
      (if chunk < transformCount then
        [{ startRow, reviewCount, entity, localIndex := chunk }] else [])
    finalChunkMetadata := plan.finalChunkMetadata ++
      [{ startRow
         reviewCount
         entity
         prefixTransform := if chunk = 0 then none else some (transformStart + chunk - 1)
         chunkLast := chunk + 1 == finalChunkCount chunkReviews stream }] }

def pushStream (plan : ModulePlan) (placed : EntityStream × Nat) : ModulePlan :=
  let (stream, entity) := placed
  let sequenceStart := plan.sequenceToOriginal.length
  let rows := stream.rows.zipIdx.foldl (pushRows mode hasState entity stream)
    { plan with keys := plan.keys ++ [stream.key] }
  let transformStart := rows.transformMetadata.length
  let transformCount := finalChunkCount chunkReviews stream - 1
  let bounded := { rows with maxTransformRun := max rows.maxTransformRun transformCount }
  (List.range (finalChunkCount chunkReviews stream)).foldl
    (pushChunk mode chunkReviews entity stream sequenceStart transformStart) bounded

def emptyPlan : ModulePlan where
  keys := []
  sequenceToOriginal := []
  rowMetadata := []
  transformMetadata := []
  finalChunkMetadata := []
  maxTransformRun := 0

def buildStreams (streams : List EntityStream) : ModulePlan :=
  streams.zipIdx.foldl (pushStream mode chunkReviews hasState) emptyPlan

def ModulePlan.build (kind : ModuleKind) (ids : List ReviewIds) : ModulePlan :=
  buildStreams mode chunkReviews hasState (groupStreams kind ids)

end Build

end RwkvSrs.GpuScanPlan
