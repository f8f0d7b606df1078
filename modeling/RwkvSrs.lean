import RwkvSrs.KeyedOrder
import RwkvSrs.Binary64
import RwkvSrs.LiveTypes
import RwkvSrs.LiveSessionSelection
import RwkvSrs.LiveUndoFrame
import RwkvSrs.LiveSessionOperations
import RwkvSrs.LiveSessionRank
import RwkvSrs.LiveSessionSlots
import RwkvSrs.LiveSessionOrder
import RwkvSrs.LiveSessionMembership
import RwkvSrs.LiveSessionInvariant
import RwkvSrs.LiveSessionRefresh
import RwkvSrs.LiveSessionStaging
import RwkvSrs.LiveUndoCover
import RwkvSrs.LiveUndoRestore
import RwkvSrs.LiveUndoExact
import RwkvSrs.LiveUndoRuns
import RwkvSrs.AffineScan
import RwkvSrs.ComputeDispatch
import RwkvSrs.GpuScanPlan
import RwkvSrs.GpuScanTopology
import RwkvSrs.GpuScanKernels
import RwkvSrs.GpuScanTransforms
import RwkvSrs.GpuScanRecurrence
import RwkvSrs.GpuScanReplay
import RwkvSrs.FallibleMethod
import RwkvSrs.FeatureScaling
import RwkvSrs.TorchRng
import RwkvSrs.DeterministicState
import RwkvSrs.DeterministicTouch
import RwkvSrs.ModuleState
import RwkvSrs.NativeRnnState
import RwkvSrs.TurnRuns
import RwkvSrs.StagePipeline
import RwkvSrs.StagePipelineSafety
import RwkvSrs.StagePipelineProgress
import RwkvSrs.PipelineStages
import RwkvSrs.PipelineLine
import RwkvSrs.PipelineExecutor
import RwkvSrs.PipelinePrediction
import RwkvSrs.PipelineStateBuilder
import RwkvSrs.BulkStateBatch
import RwkvSrs.BulkStateJoin
import RwkvSrs.BulkStateNative
import RwkvSrs.BulkStreamPlan
import RwkvSrs.BatchJournal
import RwkvSrs.LiveIndexRuns
import RwkvSrs.ReviewProcessing
import RwkvSrs.BulkExecution
import RwkvSrs.BulkProcessing
import RwkvSrs.BatchAtomicity
import RwkvSrs.DirectAgreement
import RwkvSrs.DirectPaths
import RwkvSrs.Binary64Integers
import RwkvSrs.RecordText
import RwkvSrs.ReviewMappings
import RwkvSrs.CanonicalAgreement
import RwkvSrs.HistoryAgreement
import RwkvSrs.CheckpointBytes
import RwkvSrs.CheckpointReader
import RwkvSrs.FieldRestore
import RwkvSrs.SnapshotValues
import RwkvSrs.RestoreAtomicity
import RwkvSrs.PredictionPurity
import RwkvSrs.ReviewUndo
import RwkvSrs.UndoableProcess
import RwkvSrs.NativeCalls
import RwkvSrs.LiveAnswers
import RwkvSrs.UndoableAdapter
import RwkvSrs.AdapterRuns
import RwkvSrs.GeneratorStates
import RwkvSrs.ResidentArena
import RwkvSrs.ArenaSlots
import RwkvSrs.PackedReviews
import RwkvSrs.PackedRecords
import RwkvSrs.PackedFormats
import RwkvSrs.PackedPython
import RwkvSrs.BatchAccount
import RwkvSrs.BatchedPrediction
import RwkvSrs.BatchedRows
import RwkvSrs.CpuBatches
import RwkvSrs.GpuBatches
import RwkvSrs.PredictionOrder
import RwkvSrs.StateLayouts
import RwkvSrs.CheckpointWriter
import RwkvSrs.StateInterchange
import RwkvSrs.KeyedMerge
import RwkvSrs.PredictorArena
import RwkvSrs.PredictorSlots
import RwkvSrs.PredictorCache
import RwkvSrs.PredictorRuns
import RwkvSrs.GpuScanLimits
import RwkvSrs.GpuScanPrefix
import RwkvSrs.CpuStateMaps
import RwkvSrs.StateCompaction
import RwkvSrs.CardScopes
import RwkvSrs.CheckedLoops
import RwkvSrs.SimdLanes
import RwkvSrs.PortableRecurrence
import RwkvSrs.RecurrenceAgreement
import RwkvSrs.LinearKernels
import RwkvSrs.LinearBatches
import RwkvSrs.LinearTiles
import RwkvSrs.LinearRows
import RwkvSrs.LinearDispatch
import RwkvSrs.LinearGroups
import RwkvSrs.LinearBlocked
import RwkvSrs.LinearProducts
import RwkvSrs.LiveRoster
import RwkvSrs.LiveRosterEdits
import RwkvSrs.LiveRosterRuns
import RwkvSrs.ReadableSession
import RwkvSrs.MembershipWalk
import RwkvSrs.SessionReplacement
import RwkvSrs.MembershipReconcile
import RwkvSrs.SelectiveReaders
import RwkvSrs.CheckpointSections
import RwkvSrs.ReadBack
import RwkvSrs.SectionReadBack
import RwkvSrs.CheckpointRoundTrip
import RwkvSrs.SelectiveRestore
import RwkvSrs.CheckpointTruncation
import RwkvSrs.LoadedRuntimes
import RwkvSrs.KeyedOverlay
import RwkvSrs.MergedSave
import RwkvSrs.MergeCopies
import RwkvSrs.MergedStates
import RwkvSrs.MergedFiles
import RwkvSrs.HistoryFeatures
import RwkvSrs.HistoryStates
import RwkvSrs.CheckpointSize
import RwkvSrs.CalmMethods
import RwkvSrs.CalmProcessing
import RwkvSrs.HistoryBatches
import RwkvSrs.HistoryRuns
import RwkvSrs.CheckpointForecast
import RwkvSrs.NativeFloats
import RwkvSrs.LockstepRules
import RwkvSrs.ScopedLayers
import RwkvSrs.ScopedProcessing
import RwkvSrs.ScopedRuns
import RwkvSrs.ScopedStudy
import RwkvSrs.RowWiseBatches
import RwkvSrs.StreamLoops
import RwkvSrs.BulkStreamRuns
import RwkvSrs.BulkFrontierRuns
import RwkvSrs.BulkModuleRuns
import RwkvSrs.BulkRowRuns
import RwkvSrs.BulkPlanRuns
import RwkvSrs.BulkInOrder
import RwkvSrs.BulkReviews
import RwkvSrs.BulkPipelines
import RwkvSrs.LiveUndoMarks
