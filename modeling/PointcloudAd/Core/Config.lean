import PointcloudAd.Core.Geometry
import PointcloudAd.Library.Outcome

/-!
# Configuration

An inspection configuration has optional fields. Validation demands every field, in a fixed order,
and returns a configuration whose sections carry the bounds that were checked.
-/

namespace PointcloudAd

open Library

/-- The bytes of a text. -/
abbrev Bytes : Type := List UInt8

def utf8 (text : String) : Bytes := text.toUTF8.toList

inductive RegistrationMethod where
  | pointToPlane | pointToPoint | gicp
  deriving DecidableEq, Repr

inductive CpuKernel where
  | automatic | scalar | avx2
  deriving DecidableEq, Repr

inductive ComputeBackend where
  | cpu | gpu | automatic
  deriving DecidableEq, Repr

def cpuKernelName : CpuKernel → String
  | .automatic => "auto"
  | .scalar => "scalar"
  | .avx2 => "avx2"

def registrationMethodName : RegistrationMethod → String
  | .pointToPlane => "point_to_plane"
  | .pointToPoint => "point_to_point"
  | .gicp => "gicp"

def computeBackendName : ComputeBackend → String
  | .cpu => "cpu"
  | .gpu => "gpu"
  | .automatic => "auto"

structure InputConfig where
  referenceUnit : Option LengthUnit := none
  scanUnit : Option LengthUnit := none
  referenceFrame : Option FrameId := none
  scanFrame : Option FrameId := none
  deriving DecidableEq

section

variable (D : Type)

structure PreprocessConfig where
  voxelSizeMm : Option D := none
  normalRadiusMm : Option D := none
  normalMinNeighbors : Option UInt32 := none
  boundaryRadiusMm : Option D := none
  deriving DecidableEq

structure RegistrationConfig where
  maxIterations : Option UInt32 := none
  maxCorrespondenceDistanceMm : Option D := none
  huberDeltaMm : Option D := none
  translationEpsilonMm : Option D := none
  rotationEpsilonRad : Option D := none
  residualEpsilonMm : Option D := none
  method : RegistrationMethod := .pointToPlane
  deriving DecidableEq

structure RegistrationGateConfig where
  minOverlapRatio : Option D := none
  maxInlierRmseMm : Option D := none
  minValidPairs : Option UInt32 := none
  maxTranslationFromInitialMm : Option D := none
  maxRotationFromInitialDeg : Option D := none
  deriving DecidableEq

structure ComparisonConfig where
  maxSearchDistanceMm : Option D := none
  maxNormalAngleDeg : Option D := none
  boundaryExclusionMm : Option D := none
  minValidCoverageRatio : Option D := none
  deriving DecidableEq

structure DetectionConfig where
  positiveThresholdMm : Option D := none
  negativeThresholdMm : Option D := none
  clusterToleranceMm : Option D := none
  minClusterPoints : Option UInt32 := none
  measurementErrorBudgetMm : Option D := none
  deriving DecidableEq

structure ExecutionConfig where
  deterministic : Option Bool := none
  threadCount : Option UInt32 := none
  randomSeed : Option UInt64 := none
  backend : ComputeBackend := .cpu
  deriving DecidableEq

structure InspectionConfig where
  schemaVersion : Bytes := []
  profile : Bytes := []
  input : InputConfig := {}
  preprocess : PreprocessConfig D := {}
  registration : RegistrationConfig D := {}
  registrationGate : RegistrationGateConfig D := {}
  comparison : ComparisonConfig D := {}
  detection : DetectionConfig D := {}
  execution : ExecutionConfig := {}
  deriving DecidableEq

end

section

variable {D : Type} [FloatArith D]

def positiveFinite (value : D) : Prop := isFinite value ∧ 0 < value

def nonnegativeFinite (value : D) : Prop := isFinite value ∧ 0 ≤ value

instance (value : D) : Decidable (positiveFinite value) :=
  inferInstanceAs (Decidable (isFinite value ∧ 0 < value))

instance (value : D) : Decidable (nonnegativeFinite value) :=
  inferInstanceAs (Decidable (isFinite value ∧ 0 ≤ value))

theorem positiveFinite.accepted [OrderedFloat D] {value : D} (h : positiveFinite value) :
    ¬ (¬ isFinite value ∨ value ≤ 0) := by
  obtain ⟨hfinite, hpositive⟩ := h
  rintro (hn | hle)
  · exact hn hfinite
  · exact (OrderedFloat.lt_iff.mp hpositive).2 hle

/-- A finite number between two bounds, as the configuration's closed ranges test it. -/
def inRange (low high value : D) : Prop := isFinite value ∧ ¬ value < low ∧ ¬ high < value

instance (low high value : D) : Decidable (inRange low high value) :=
  inferInstanceAs (Decidable (isFinite value ∧ ¬ value < low ∧ ¬ high < value))

end

structure ValidatedInputConfig where
  referenceUnit : LengthUnit
  scanUnit : LengthUnit
  referenceFrame : FrameId
  scanFrame : FrameId

section

variable (D : Type) [FloatArith D]

structure ValidatedPreprocessConfig where
  voxelSizeMm : D
  normalRadiusMm : D
  normalMinNeighbors : UInt32
  boundaryRadiusMm : D
  voxelSize : positiveFinite voxelSizeMm
  normalRadius : positiveFinite normalRadiusMm
  minNeighbors : ¬ normalMinNeighbors < 3
  boundaryRadius : positiveFinite boundaryRadiusMm

structure ValidatedRegistrationConfig where
  maxIterations : UInt32
  maxCorrespondenceDistanceMm : D
  huberDeltaMm : D
  translationEpsilonMm : D
  rotationEpsilonRad : D
  residualEpsilonMm : D
  method : RegistrationMethod
  iterations : ¬ (maxIterations < 1 ∨ 1000 < maxIterations)
  maxCorrespondenceDistance : positiveFinite maxCorrespondenceDistanceMm
  huberDelta : positiveFinite huberDeltaMm
  translationEpsilon : positiveFinite translationEpsilonMm
  rotationEpsilon : positiveFinite rotationEpsilonRad
  residualEpsilon : positiveFinite residualEpsilonMm

structure ValidatedRegistrationGateConfig where
  minOverlapRatio : D
  maxInlierRmseMm : D
  minValidPairs : UInt32
  maxTranslationFromInitialMm : D
  maxRotationFromInitialDeg : D
  overlap : inRange 0 1 minOverlapRatio
  inlierRmse : positiveFinite maxInlierRmseMm
  validPairs : minValidPairs ≠ 0
  translation : positiveFinite maxTranslationFromInitialMm
  rotation : positiveFinite maxRotationFromInitialDeg ∧ ¬ lit 180 < maxRotationFromInitialDeg

structure ValidatedComparisonConfig where
  maxSearchDistanceMm : D
  maxNormalAngleDeg : D
  boundaryExclusionMm : D
  minValidCoverageRatio : D
  maxSearchDistance : positiveFinite maxSearchDistanceMm
  maxNormalAngle : inRange 0 (lit 90) maxNormalAngleDeg
  boundaryExclusion : nonnegativeFinite boundaryExclusionMm
  minValidCoverage : inRange 0 1 minValidCoverageRatio

structure ValidatedDetectionConfig where
  positiveThresholdMm : D
  negativeThresholdMm : D
  clusterToleranceMm : D
  minClusterPoints : UInt32
  measurementErrorBudgetMm : D
  positiveThreshold : positiveFinite positiveThresholdMm
  negativeThreshold : isFinite negativeThresholdMm ∧ ¬ 0 ≤ negativeThresholdMm
  clusterTolerance : positiveFinite clusterToleranceMm
  clusterPoints : minClusterPoints ≠ 0
  errorBudget : nonnegativeFinite measurementErrorBudgetMm
  positiveExceeds : ¬ positiveThresholdMm ≤ measurementErrorBudgetMm
  negativeExceeds : ¬ abs negativeThresholdMm ≤ measurementErrorBudgetMm

structure ValidatedExecutionConfig where
  deterministic : Bool
  threadCount : UInt32
  randomSeed : UInt64
  backend : ComputeBackend
  threads : threadCount ≠ 0

/-- A configuration that passed every check. -/
structure ValidatedInspectionConfig where
  schemaVersion : Bytes
  profile : Bytes
  input : ValidatedInputConfig
  preprocess : ValidatedPreprocessConfig D
  registration : ValidatedRegistrationConfig D
  registrationGate : ValidatedRegistrationGateConfig D
  comparison : ValidatedComparisonConfig D
  detection : ValidatedDetectionConfig D
  execution : ValidatedExecutionConfig
  schema : schemaVersion = utf8 "1.0"
  profileNonempty : profile ≠ []
  profileUtf8 : isValidUtf8 profile = true

end

section

variable {D : Type} [FloatArith D]

def configError (field reason : String) : Error :=
  ⟨.invalidArgument, .validate, "invalid inspection configuration",
    [("field", field), ("reason", reason)]⟩

def required {α : Type} (field : String) : Option α → Result α
  | some value => .ok value
  | none => .error (configError field "is required")

/-- A check, and its evidence when it passes. -/
def ensure (p : Prop) [Decidable p] (field rule : String) : Result (PLift p) :=
  if h : p then .ok ⟨h⟩ else .error (configError field rule)

/-- A required number with its bound. -/
def requiredNumber {α : Type} (p : α → Prop) [DecidablePred p] (field rule : String)
    (value : Option α) : Result {value : α // p value} := do
  let value ← required field value
  let ⟨h⟩ ← ensure (p value) field rule
  return ⟨value, h⟩

def requiredPositive (field : String) (value : Option D) :
    Result {value : D // positiveFinite value} :=
  requiredNumber positiveFinite field "must be finite and positive" value

def validatePreprocess (config : PreprocessConfig D) : Result (ValidatedPreprocessConfig D) := do
  let voxel ← requiredPositive "preprocess.voxel_size_mm" config.voxelSizeMm
  let radius ← requiredPositive "preprocess.normal_radius_mm" config.normalRadiusMm
  let neighbors ← requiredNumber (fun n => ¬ n < (3 : UInt32)) "preprocess.normal_min_neighbors"
    "must be at least 3" config.normalMinNeighbors
  let boundary ← requiredPositive "preprocess.boundary_radius_mm" config.boundaryRadiusMm
  return ⟨voxel, radius, neighbors, boundary, voxel.2, radius.2, neighbors.2, boundary.2⟩

def validateRegistration (config : RegistrationConfig D) :
    Result (ValidatedRegistrationConfig D) := do
  let iterations ← requiredNumber (fun n => ¬ (n < (1 : UInt32) ∨ 1000 < n))
    "registration.max_iterations" "must be in [1, 1000]" config.maxIterations
  let distance ← requiredPositive "registration.max_correspondence_distance_mm"
    config.maxCorrespondenceDistanceMm
  let huber ← requiredPositive "registration.huber_delta_mm" config.huberDeltaMm
  let translation ← requiredPositive "registration.translation_epsilon_mm"
    config.translationEpsilonMm
  let rotation ← requiredPositive "registration.rotation_epsilon_rad" config.rotationEpsilonRad
  let residual ← requiredPositive "registration.residual_epsilon_mm" config.residualEpsilonMm
  return ⟨iterations, distance, huber, translation, rotation, residual, config.method,
    iterations.2, distance.2, huber.2, translation.2, rotation.2, residual.2⟩

def validateRegistrationGate (config : RegistrationGateConfig D) :
    Result (ValidatedRegistrationGateConfig D) := do
  let overlap ← requiredNumber (inRange 0 1) "registration_gate.min_overlap_ratio"
    "must be in [0, 1]" config.minOverlapRatio
  let rmse ← requiredPositive "registration_gate.max_inlier_rmse_mm" config.maxInlierRmseMm
  let pairs ← requiredNumber (fun n => n ≠ (0 : UInt32)) "registration_gate.min_valid_pairs"
    "must be positive" config.minValidPairs
  let translation ← requiredPositive "registration_gate.max_translation_from_initial_mm"
    config.maxTranslationFromInitialMm
  let rotation ← requiredNumber (fun v => positiveFinite v ∧ ¬ lit 180 < v)
    "registration_gate.max_rotation_from_initial_deg" "must be in (0, 180]"
    config.maxRotationFromInitialDeg
  return ⟨overlap, rmse, pairs, translation, rotation, overlap.2, rmse.2, pairs.2, translation.2,
    rotation.2⟩

def validateComparison (config : ComparisonConfig D) : Result (ValidatedComparisonConfig D) := do
  let search ← requiredPositive "comparison.max_search_distance_mm" config.maxSearchDistanceMm
  let angle ← requiredNumber (inRange 0 (lit 90)) "comparison.max_normal_angle_deg"
    "must be in [0, 90]" config.maxNormalAngleDeg
  let boundary ← requiredNumber nonnegativeFinite "comparison.boundary_exclusion_mm"
    "must be finite and non-negative" config.boundaryExclusionMm
  let coverage ← requiredNumber (inRange 0 1) "comparison.min_valid_coverage_ratio"
    "must be in [0, 1]" config.minValidCoverageRatio
  return ⟨search, angle, boundary, coverage, search.2, angle.2, boundary.2, coverage.2⟩

def validateDetection (config : DetectionConfig D) : Result (ValidatedDetectionConfig D) := do
  let positive ← requiredPositive "detection.positive_threshold_mm" config.positiveThresholdMm
  let negative ← requiredNumber (fun v => isFinite v ∧ ¬ 0 ≤ v)
    "detection.negative_threshold_mm" "must be finite and negative" config.negativeThresholdMm
  let tolerance ← requiredPositive "detection.cluster_tolerance_mm" config.clusterToleranceMm
  let points ← requiredNumber (fun n => n ≠ (0 : UInt32)) "detection.min_cluster_points"
    "must be positive" config.minClusterPoints
  let budget ← requiredNumber nonnegativeFinite "detection.measurement_error_budget_mm"
    "must be finite and non-negative" config.measurementErrorBudgetMm
  let ⟨hp⟩ ← ensure (¬ positive.1 ≤ budget.1) "detection.positive_threshold_mm"
    "must exceed measurement error budget"
  let ⟨hn⟩ ← ensure (¬ abs negative.1 ≤ budget.1) "detection.negative_threshold_mm"
    "magnitude must exceed measurement error budget"
  return ⟨positive, negative, tolerance, points, budget, positive.2, negative.2, tolerance.2,
    points.2, budget.2, hp, hn⟩

def validateExecution (config : ExecutionConfig) : Result ValidatedExecutionConfig := do
  let deterministic ← required "execution.deterministic" config.deterministic
  let threads ← requiredNumber (fun n => n ≠ (0 : UInt32)) "execution.thread_count"
    "must be at least 1" config.threadCount
  let seed ← required "execution.random_seed" config.randomSeed
  return ⟨deterministic, threads, seed, config.backend, threads.2⟩

/-- The units are those of the type, so the source's check of their enumerators cannot fail. -/
def validateInput (config : InputConfig) : Result ValidatedInputConfig := do
  let referenceUnit ← required "input.reference_unit" config.referenceUnit
  let scanUnit ← required "input.scan_unit" config.scanUnit
  let referenceFrame ← required "input.reference_frame" config.referenceFrame
  let scanFrame ← required "input.scan_frame" config.scanFrame
  return ⟨referenceUnit, scanUnit, referenceFrame, scanFrame⟩

def validateConfig (config : InspectionConfig D) : Result (ValidatedInspectionConfig D) := do
  let _ ← ensure (config.schemaVersion ≠ []) "schema_version" "is required"
  let ⟨hs⟩ ← ensure (config.schemaVersion = utf8 "1.0") "schema_version"
    "must equal supported version 1.0"
  let ⟨hp⟩ ← ensure (config.profile ≠ []) "profile" "is required"
  let ⟨hu⟩ ← ensure (isValidUtf8 config.profile = true) "profile" "must be valid UTF-8"
  let input ← validateInput config.input
  let preprocess ← validatePreprocess config.preprocess
  let registration ← validateRegistration config.registration
  let registrationGate ← validateRegistrationGate config.registrationGate
  let comparison ← validateComparison config.comparison
  let detection ← validateDetection config.detection
  let execution ← validateExecution config.execution
  let _ ← ensure (registrationMethodName config.registration.method ≠ "unknown")
    "registration.method" "unsupported method"
  let _ ← ensure (computeBackendName config.execution.backend ≠ "unknown") "execution.backend"
    "unsupported backend"
  return ⟨config.schemaVersion, config.profile, input, preprocess, registration, registrationGate,
    comparison, detection, execution, hs, hp, hu⟩

theorem validateExecution_backend {config : ExecutionConfig} {options : ValidatedExecutionConfig}
    (h : validateExecution config = .ok options) : options.backend = config.backend := by
  simp only [validateExecution, bind_ok_iff, pure, Except.pure, Except.ok.injEq] at h
  obtain ⟨_, -, _, -, _, -, rfl⟩ := h
  rfl

theorem validateConfig_backend {config : InspectionConfig D} {options : ValidatedInspectionConfig D}
    (h : validateConfig config = .ok options) :
    options.execution.backend = config.execution.backend := by
  simp only [validateConfig, bind_ok_iff, pure, Except.pure, Except.ok.injEq] at h
  obtain ⟨_, -, _, -, _, -, _, -, _, -, _, -, _, -, _, -, _, -, _, -, execution,
    hexecution, _, -, _, -,
    rfl⟩ := h
  exact validateExecution_backend hexecution

end
end PointcloudAd
