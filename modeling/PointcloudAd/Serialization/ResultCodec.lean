import PointcloudAd.Pipeline.Report
import PointcloudAd.Serialization.ConfigCodec
import PointcloudAd.Serialization.OutputDigest

/-!
# The report's JSON form

A report is written field by field; what is not a finite number becomes null, except in poses and
positions, where the library does that itself. A manifest lists files with their digests.
-/

namespace PointcloudAd

open Library

def verdictToString : Verdict → String
  | .pass => "pass"
  | .fail => "fail"
  | .indeterminate => "indeterminate"

def defectTypeToString : DefectType → String
  | .dent => "dent"
  | .bump => "bump"
  | .missingMaterial => "missing_material"

def severityToString : Severity → String
  | .info => "info"
  | .warning => "warning"
  | .reject => "reject"

def errorCodeToString : ErrorCode → String
  | .invalidArgument => "invalid_argument"
  | .invalidInput => "invalid_input"
  | .unsupportedFormat => "unsupported_format"
  | .ioError => "io_error"
  | .registrationFailed => "registration_failed"
  | .insufficientCoverage => "insufficient_coverage"
  | .serializationFailed => "serialization_failed"
  | .internalError => "internal_error"

def stageToString : PipelineStage → String
  | .none => "none"
  | .validate => "validate"
  | .normalize => "normalize"
  | .preprocess => "preprocess"
  | .registration => "registration"
  | .registrationGate => "registration_gate"
  | .transform => "transform"
  | .compare => "compare"
  | .coverageGate => "coverage_gate"
  | .detect => "detect"
  | .finalize => "finalize"
  | .serialization => "serialization"

section

variable {D : Type} [FloatArith D]

def textOf (text : String) : Json D := .string (utf8 text)

/-- A counter of 64 bits or fewer. -/
def countOf (count : ℕ) : Json D := .unsigned (UInt64.ofNat count)

def serializeTransform (transform : RigidTransform D) : Json D :=
  .objectOf
    [("source_frame", .string transform.sourceFrame.value),
      ("target_frame", .string transform.targetFrame.value),
      ("matrix", .array (List.ofFn fun element => .float (transform.matrix element)))]

/-- A pose that is absent is written as null. -/
def serializePose (pose : Option (RigidTransform D)) : Json D :=
  match pose with
  | some transform => serializeTransform transform
  | none => .null

def serializeVec3 (value : Vec3 D) : Json D :=
  .objectOf [("x", .float value.x), ("y", .float value.y), ("z", .float value.z)]

def executionScope (backend : ComputeBackend) : String :=
  if backend = .gpu then "gpu_resident_objective_cpu_solve" else "cpu"

def rmseMetric (method : RegistrationMethod) : String :=
  if method = .pointToPlane then "point_to_plane_mm" else "euclidean_mm"

def serializeRegistration (registration : RegistrationResult D) : Json D :=
  .objectOf
    [("initial_pose", serializePose registration.initialPose),
      ("final_pose", serializePose registration.finalPose),
      ("iterations", countOf registration.iterations),
      ("converged", .boolean registration.converged),
      ("valid_pairs", countOf registration.validPairs),
      ("overlap_ratio", finiteNumber registration.overlapRatio),
      ("inlier_rmse_mm", finiteNumber registration.inlierRmseMm),
      ("termination_reason", textOf registration.terminationReason),
      ("method", textOf (registrationMethodName registration.method)),
      ("requested_backend", textOf (computeBackendName registration.requestedBackend)),
      ("actual_backend", textOf (computeBackendName registration.actualBackend)),
      ("execution_scope", textOf (executionScope registration.actualBackend)),
      ("rmse_metric", textOf (rmseMetric registration.method))]

def serializeCoverage (coverage : CoverageSummary D) : Json D :=
  .objectOf
    [("valid_count", countOf coverage.validCount),
      ("covered_count", countOf coverage.coveredCount),
      ("coverage_ratio", finiteNumber coverage.coverageRatio),
      ("input_invalid", countOf coverage.inputInvalid),
      ("no_neighbor", countOf coverage.noNeighbor),
      ("scan_boundary", countOf coverage.scanBoundary)]

def serializeDeviations (deviations : DeviationStatistics D) : Json D :=
  .objectOf
    [("valid_count", countOf deviations.validCount),
      ("mean_signed_mm", finiteNumber deviations.meanSignedMm),
      ("rms_mm", finiteNumber deviations.rmsMm),
      ("max_abs_mm", finiteNumber deviations.maxAbsMm),
      ("p95_abs_mm", finiteNumber deviations.p95AbsMm),
      ("input_invalid", countOf deviations.inputInvalid),
      ("no_neighbor", countOf deviations.noNeighbor),
      ("normal_missing", countOf deviations.normalMissing),
      ("normal_mismatch", countOf deviations.normalMismatch),
      ("reference_boundary", countOf deviations.referenceBoundary)]

def serializeRegion (region : DefectRegion D) : Json D :=
  .objectOf
    [("id", countOf region.id),
      ("type", textOf (defectTypeToString region.type)),
      ("point_count", countOf region.pointCount),
      ("centroid", serializeVec3 region.centroid),
      ("aabb_min", serializeVec3 region.aabbMin),
      ("aabb_max", serializeVec3 region.aabbMax),
      ("max_abs_mm", finiteNumber region.maxAbsMm),
      ("mean_mm", finiteNumber region.meanMm),
      ("rms_mm", finiteNumber region.rmsMm),
      ("p95_abs_mm", finiteNumber region.p95AbsMm),
      ("estimated_area_mm2", optionalNumber region.estimatedAreaMm2),
      ("area_is_approximate", .boolean region.areaIsApproximate),
      ("severity", textOf (severityToString region.severity))]

def serializeTiming (timing : StageTiming) : Json D :=
  .objectOf
    [("stage", textOf (stageToString timing.stage)), ("duration_us", .unsigned timing.durationUs)]

def serializeProvenance (provenance : Provenance) : Json D :=
  .objectOf
    [("schema_version", .string provenance.schemaVersion),
      ("run_id", .string provenance.runId),
      ("profile", .string provenance.profile),
      ("generator_version", .string provenance.generatorVersion),
      ("timestamp_utc", .string provenance.timestampUtc),
      ("deterministic", .boolean provenance.deterministic),
      ("thread_count", .unsigned provenance.threadCount.toUInt64),
      ("random_seed", .unsigned provenance.randomSeed)]

def serializeDiagnostic (diagnostic : Diagnostic) : Json D :=
  .objectOf
    [("code", textOf (errorCodeToString diagnostic.code)),
      ("stage", textOf (stageToString diagnostic.stage)),
      ("message", textOf diagnostic.message),
      ("context", .objectOf (diagnostic.context.map fun entry => (entry.1, textOf entry.2)))]

/-- A report without a version is written with the current one. -/
def writtenVersion (provenance : Provenance) : Bytes :=
  if provenance.schemaVersion = [] then kSchemaVersion else provenance.schemaVersion

def serializeResultJson (result : InspectionResult D) : Json D :=
  .objectOf
    [("schema_version", .string (writtenVersion result.provenance)),
      ("verdict", textOf (verdictToString result.verdict)),
      ("registration", serializeRegistration result.registration),
      ("coverage", serializeCoverage result.coverage),
      ("deviations", serializeDeviations result.deviations),
      ("regions", .array (result.regions.map serializeRegion)),
      ("timings", .array (result.timings.map serializeTiming)),
      ("provenance", serializeProvenance result.provenance),
      ("diagnostics", .array (result.diagnostics.map serializeDiagnostic))]

def serializeResult (json : JsonLibrary D) (result : InspectionResult D) : Result Bytes :=
  (json.dump (serializeResultJson result)).mapError (catchSerialization .internalError)

structure ManifestEntry where
  path : String
  sha256 : String
  deriving DecidableEq, Repr

def manifestDocument (schemaVersion generator : String) (entries : List ManifestEntry) : Json D :=
  .objectOf
    [("schema_version", textOf schemaVersion),
      ("generator", textOf generator),
      ("files", .array (entries.map fun entry =>
        .objectOf [("path", textOf entry.path), ("sha256", textOf entry.sha256)]))]

/-- The document is written with an indentation, by the function that is given. -/
def buildManifest (dumpIndented : Json D → Except Exn Bytes) (schemaVersion generator : String)
    (entries : List ManifestEntry) : Result Bytes :=
  (dumpIndented (manifestDocument schemaVersion generator entries)).mapError
    (catchSerialization .internalError)

end

end PointcloudAd
