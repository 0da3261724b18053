import PointcloudAd.Detection.DefectRegion
import PointcloudAd.Registration.Parameters

/-!
# Inspection reports

What a completed inspection returns: a verdict, the registration, coverage and deviation summaries,
the regions, and where the report comes from.
-/

namespace PointcloudAd

open Library Registration

inductive Verdict where
  | pass | fail | indeterminate
  deriving DecidableEq, Repr

structure RegistrationResult (D : Type) [FloatArith D] where
  initialPose : Option (RigidTransform D)
  finalPose : Option (RigidTransform D)
  iterations : ℕ
  converged : Bool
  validPairs : ℕ
  overlapRatio : D
  inlierRmseMm : D
  terminationReason : String
  method : RegistrationMethod
  requestedBackend : ComputeBackend
  actualBackend : ComputeBackend

instance {D : Type} [FloatArith D] [DecidableEq D] :
    DecidableEq (RegistrationResult D) := fun a b =>
  decidable_of_iff (a.initialPose = b.initialPose ∧ a.finalPose = b.finalPose ∧
    a.iterations = b.iterations ∧ a.converged = b.converged ∧ a.validPairs = b.validPairs ∧
    a.overlapRatio = b.overlapRatio ∧ a.inlierRmseMm = b.inlierRmseMm ∧
    a.terminationReason = b.terminationReason ∧ a.method = b.method ∧
    a.requestedBackend = b.requestedBackend ∧ a.actualBackend = b.actualBackend) (by
      cases a
      cases b
      simp)

structure StageTiming where
  stage : PipelineStage
  durationUs : UInt64
  deriving DecidableEq, Repr

structure Provenance where
  schemaVersion : Bytes
  runId : Bytes
  profile : Bytes
  generatorVersion : Bytes
  timestampUtc : Bytes
  deterministic : Bool
  threadCount : UInt32
  randomSeed : UInt64
  deriving DecidableEq, Repr

structure Diagnostic where
  code : ErrorCode
  stage : PipelineStage
  message : String
  context : List (String × String)
  deriving DecidableEq, Repr

structure InspectionResult (D : Type) [FloatArith D] where
  verdict : Verdict
  registration : RegistrationResult D
  coverage : CoverageSummary D
  deviations : DeviationStatistics D
  regions : List (DefectRegion D)
  timings : List StageTiming
  provenance : Provenance
  diagnostics : List Diagnostic

/-- A report without the times it was measured at. -/
def InspectionResult.untimed {D : Type} [FloatArith D] (result : InspectionResult D) :
    InspectionResult D :=
  { result with
    timings := []
    provenance := { result.provenance with timestampUtc := [] } }

/-- An optional pose from the scan to the reference, and a name for the run. -/
structure InspectionRequest (D : Type) [FloatArith D] where
  initialPose : Option (RigidTransform D)
  runId : Bytes

/-- The times that a run reads. -/
structure Clock where
  timestampUtc : Bytes
  durationUs : PipelineStage → UInt64

end PointcloudAd
