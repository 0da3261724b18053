import PointcloudAd.Backends.Exhaustive
import PointcloudAd.Backends.FileAdapters
import PointcloudAd.Backends.FileWriters
import PointcloudAd.Backends.Host
import PointcloudAd.Backends.LogicalIndexing
import PointcloudAd.Backends.PclCluster
import PointcloudAd.Backends.PclComparison
import PointcloudAd.Backends.PclIo
import PointcloudAd.Backends.PclIoChecks
import PointcloudAd.Backends.PclIoRoundTrip
import PointcloudAd.Backends.PclPreprocess
import PointcloudAd.Cli.Contract
import PointcloudAd.Cli.Program
import PointcloudAd.Cli.StoredInspection
import PointcloudAd.Comparison.CoverageClasses
import PointcloudAd.Comparison.DeviationClasses
import PointcloudAd.Comparison.Fields
import PointcloudAd.Comparison.OppositeDeviations
import PointcloudAd.Comparison.Statistics
import PointcloudAd.Core.Config
import PointcloudAd.Core.Correspondence
import PointcloudAd.Core.Geometry
import PointcloudAd.Core.Packing
import PointcloudAd.Core.Surface
import PointcloudAd.Core.Utf8
import PointcloudAd.Cuda.CovarianceKernel
import PointcloudAd.Cuda.CovarianceSimilarity
import PointcloudAd.Cuda.DeviceKernels
import PointcloudAd.Cuda.DeviceRuns
import PointcloudAd.Cuda.EquationAgreement
import PointcloudAd.Cuda.Equations
import PointcloudAd.Cuda.IndexPacking
import PointcloudAd.Cuda.NearestKernels
import PointcloudAd.Cuda.NeighborKernel
import PointcloudAd.Cuda.NeighborSearch
import PointcloudAd.Cuda.OppositeEquations
import PointcloudAd.Cuda.ResidentCalls
import PointcloudAd.Cuda.ResidentRuns
import PointcloudAd.Cuda.ResidentSearch
import PointcloudAd.Cuda.SearchAgreement
import PointcloudAd.Cuda.SpatialIndex
import PointcloudAd.Cuda.SpatialTree
import PointcloudAd.Detection.ClusterComponents
import PointcloudAd.Detection.ClusterForest
import PointcloudAd.Detection.Components
import PointcloudAd.Detection.DefectCluster
import PointcloudAd.Detection.DefectRegion
import PointcloudAd.Detection.ErrorBudget
import PointcloudAd.Detection.RegionStatistics
import PointcloudAd.Library.Action
import PointcloudAd.Library.ActionInvariants
import PointcloudAd.Library.Averages
import PointcloudAd.Library.Binary32
import PointcloudAd.Library.Bytes
import PointcloudAd.Library.Code
import PointcloudAd.Library.Components
import PointcloudAd.Library.ExactAlgebra
import PointcloudAd.Library.FairSchedules
import PointcloudAd.Library.Faulty
import PointcloudAd.Library.Floating
import PointcloudAd.Library.Grouping
import PointcloudAd.Library.Interleaving
import PointcloudAd.Library.JacobiRotation
import PointcloudAd.Library.Json
import PointcloudAd.Library.LeastMembers
import PointcloudAd.Library.LeastRank
import PointcloudAd.Library.Matching
import PointcloudAd.Library.NearIsometry
import PointcloudAd.Library.NearestRank
import PointcloudAd.Library.Numbering
import PointcloudAd.Library.OppositeValues
import PointcloudAd.Library.Outcome
import PointcloudAd.Library.Parallel
import PointcloudAd.Library.RealArithmetic
import PointcloudAd.Library.Selection
import PointcloudAd.Library.Sha256
import PointcloudAd.Library.TreeReduction
import PointcloudAd.Library.UnionByRank
import PointcloudAd.Library.UnionFind
import PointcloudAd.Pipeline.BackendIndependence
import PointcloudAd.Pipeline.CachedInspection
import PointcloudAd.Pipeline.ConfigAccepted
import PointcloudAd.Pipeline.Contracts
import PointcloudAd.Pipeline.InspectionPipeline
import PointcloudAd.Pipeline.MissingMaterial
import PointcloudAd.Pipeline.Noninterference
import PointcloudAd.Pipeline.RegionOrder
import PointcloudAd.Pipeline.RelaxedLimits
import PointcloudAd.Pipeline.Report
import PointcloudAd.Pipeline.StageClock
import PointcloudAd.Pipeline.StorageLayout
import PointcloudAd.Pipeline.UnitIndependence
import PointcloudAd.Pipeline.UnprovenSign
import PointcloudAd.Pipeline.VerdictLaw
import PointcloudAd.Preprocess.GridBoundary
import PointcloudAd.Preprocess.NormalBoundary
import PointcloudAd.Preprocess.Normalization
import PointcloudAd.Preprocess.NormalizedMetric
import PointcloudAd.Preprocess.OppositeNormals
import PointcloudAd.Preprocess.PreparedSurface
import PointcloudAd.Preprocess.RealVectors
import PointcloudAd.Preprocess.Validity
import PointcloudAd.Preprocess.Vectors
import PointcloudAd.Preprocess.VoxelPartition
import PointcloudAd.Preprocess.VoxelResampling
import PointcloudAd.Preprocess.VoxelSampling
import PointcloudAd.Registration.AlignmentMetrics
import PointcloudAd.Registration.Context
import PointcloudAd.Registration.CpuExecutor
import PointcloudAd.Registration.ExecutorLiveness
import PointcloudAd.Registration.ExecutorProtocol
import PointcloudAd.Registration.ExecutorRenewal
import PointcloudAd.Registration.ExecutorRuns
import PointcloudAd.Registration.ExecutorSafety
import PointcloudAd.Registration.ExecutorTurns
import PointcloudAd.Registration.History
import PointcloudAd.Registration.KernelSpans
import PointcloudAd.Registration.Kernels
import PointcloudAd.Registration.Motion
import PointcloudAd.Registration.NormalEquations
import PointcloudAd.Registration.OppositeRegistration
import PointcloudAd.Registration.Parameters
import PointcloudAd.Registration.Prepared
import PointcloudAd.Registration.ResidentAgreement
import PointcloudAd.Registration.ResidentAlignment
import PointcloudAd.Registration.ResidentDevice
import PointcloudAd.Registration.RigidMotion
import PointcloudAd.Registration.Search
import PointcloudAd.Registration.Solver
import PointcloudAd.Registration.SolverAgreement
import PointcloudAd.Registration.SolverRuns
import PointcloudAd.Registration.ThreadBudget
import PointcloudAd.Serialization.ConfigCodec
import PointcloudAd.Serialization.ConfigNumbers
import PointcloudAd.Serialization.ConfigRoundTrip
import PointcloudAd.Serialization.OutputDigest
import PointcloudAd.Serialization.ResultCodec
import PointcloudAd.Serialization.ResultDocument
import PointcloudAd.Serialization.ResultFaithfulness
