import PointcloudAd.Core.Config
import PointcloudAd.Library.Json

/-!
# The configuration's JSON form

A configuration is written with every field, an absent one as null, and read back field by field.
The input section is the exception: an absent unit or frame is written as an empty text, which
reading refuses.
-/

namespace PointcloudAd

open Library

def kSchemaVersion : Bytes := utf8 "1.0"

def serializationError (code : ErrorCode) (message : String) : Error :=
  ⟨code, .serialization, message, []⟩

def catchSerialization (code : ErrorCode) : Exn → Error
  | .invalidArgument what | .exception what => serializationError code what
  | .unknown => serializationError code "unknown exception"

/-- The JSON library's two functions between values and texts. -/
structure JsonLibrary (D : Type) where
  dump : Json D → Except Exn Bytes
  parse : Bytes → Except Exn (Json D)

/-- A library on one document and its text. -/
def JsonLibrary.sample (document : Json (Exact ℚ)) (text : String) : JsonLibrary (Exact ℚ) where
  dump _ := .ok (utf8 text)
  parse _ := .ok document

def unitToString : LengthUnit → String
  | .millimeter => "millimeter"
  | .meter => "meter"
  | .micrometer => "micrometer"

def unitFromString (value : Bytes) : Result LengthUnit :=
  if value = utf8 "millimeter" then .ok .millimeter
  else if value = utf8 "meter" then .ok .meter
  else if value = utf8 "micrometer" then .ok .micrometer
  else .error (serializationError .invalidInput "unknown length unit")

def methodFromString (value : Bytes) : Result RegistrationMethod :=
  if value = utf8 "point_to_plane" then .ok .pointToPlane
  else if value = utf8 "point_to_point" then .ok .pointToPoint
  else if value = utf8 "gicp" then .ok .gicp
  else .error (serializationError .invalidInput "unknown registration.method")

def backendFromString (value : Bytes) : Result ComputeBackend :=
  if value = utf8 "cpu" then .ok .cpu
  else if value = utf8 "gpu" then .ok .gpu
  else if value = utf8 "auto" then .ok .automatic
  else .error (serializationError .invalidInput "unknown execution.backend")

theorem unitFromString_name (unit : LengthUnit) :
    unitFromString (utf8 (unitToString unit)) = .ok unit := by
  cases unit <;> decide +kernel

theorem unitFromString_nil :
    unitFromString [] = .error (serializationError .invalidInput "unknown length unit") := by
  decide +kernel

theorem methodFromString_name (method : RegistrationMethod) :
    methodFromString (utf8 (registrationMethodName method)) = .ok method := by
  cases method <;> decide +kernel

theorem backendFromString_name (backend : ComputeBackend) :
    backendFromString (utf8 (computeBackendName backend)) = .ok backend := by
  cases backend <;> decide +kernel

section

variable {D : Type} [FloatArith D]

def finiteNumber (value : D) : Json D := if isFinite value then .float value else .null

def optionalNumber (value : Option D) : Json D := value.elim .null finiteNumber

def optionalUnsigned (value : Option UInt32) : Json D :=
  value.elim .null fun value => .unsigned value.toUInt64

def inputToJson (input : InputConfig) : Json D :=
  .objectOf
    [("reference_unit", .string (input.referenceUnit.elim [] (utf8 ∘ unitToString))),
      ("scan_unit", .string (input.scanUnit.elim [] (utf8 ∘ unitToString))),
      ("reference_frame", .string (input.referenceFrame.elim [] FrameId.value)),
      ("scan_frame", .string (input.scanFrame.elim [] FrameId.value))]

def preprocessToJson (preprocess : PreprocessConfig D) : Json D :=
  .objectOf
    [("voxel_size_mm", optionalNumber preprocess.voxelSizeMm),
      ("normal_radius_mm", optionalNumber preprocess.normalRadiusMm),
      ("normal_min_neighbors", optionalUnsigned preprocess.normalMinNeighbors),
      ("boundary_radius_mm", optionalNumber preprocess.boundaryRadiusMm)]

def registrationToJson (registration : RegistrationConfig D) : Json D :=
  .objectOf
    [("method", .string (utf8 (registrationMethodName registration.method))),
      ("max_iterations", optionalUnsigned registration.maxIterations),
      ("max_correspondence_distance_mm", optionalNumber registration.maxCorrespondenceDistanceMm),
      ("huber_delta_mm", optionalNumber registration.huberDeltaMm),
      ("translation_epsilon_mm", optionalNumber registration.translationEpsilonMm),
      ("rotation_epsilon_rad", optionalNumber registration.rotationEpsilonRad),
      ("residual_epsilon_mm", optionalNumber registration.residualEpsilonMm)]

def registrationGateToJson (gate : RegistrationGateConfig D) : Json D :=
  .objectOf
    [("min_overlap_ratio", optionalNumber gate.minOverlapRatio),
      ("max_inlier_rmse_mm", optionalNumber gate.maxInlierRmseMm),
      ("min_valid_pairs", optionalUnsigned gate.minValidPairs),
      ("max_translation_from_initial_mm", optionalNumber gate.maxTranslationFromInitialMm),
      ("max_rotation_from_initial_deg", optionalNumber gate.maxRotationFromInitialDeg)]

def comparisonToJson (comparison : ComparisonConfig D) : Json D :=
  .objectOf
    [("max_search_distance_mm", optionalNumber comparison.maxSearchDistanceMm),
      ("max_normal_angle_deg", optionalNumber comparison.maxNormalAngleDeg),
      ("boundary_exclusion_mm", optionalNumber comparison.boundaryExclusionMm),
      ("min_valid_coverage_ratio", optionalNumber comparison.minValidCoverageRatio)]

def detectionToJson (detection : DetectionConfig D) : Json D :=
  .objectOf
    [("positive_threshold_mm", optionalNumber detection.positiveThresholdMm),
      ("negative_threshold_mm", optionalNumber detection.negativeThresholdMm),
      ("cluster_tolerance_mm", optionalNumber detection.clusterToleranceMm),
      ("min_cluster_points", optionalUnsigned detection.minClusterPoints),
      ("measurement_error_budget_mm", optionalNumber detection.measurementErrorBudgetMm)]

def executionToJson (execution : ExecutionConfig) : Json D :=
  .objectOf
    [("backend", .string (utf8 (computeBackendName execution.backend))),
      ("deterministic", execution.deterministic.elim .null .boolean),
      ("thread_count", optionalUnsigned execution.threadCount),
      ("random_seed", execution.randomSeed.elim .null .unsigned)]

def configToJson (config : InspectionConfig D) : Json D :=
  .objectOf
    [("schema_version", .string config.schemaVersion),
      ("profile", .string config.profile),
      ("input", inputToJson config.input),
      ("preprocess", preprocessToJson config.preprocess),
      ("registration", registrationToJson config.registration),
      ("registration_gate", registrationGateToJson config.registrationGate),
      ("comparison", comparisonToJson config.comparison),
      ("detection", detectionToJson config.detection),
      ("execution", executionToJson config.execution)]

def serializeConfig (json : JsonLibrary D) (config : InspectionConfig D) : Result Bytes :=
  (json.dump (configToJson config)).mapError (catchSerialization .internalError)

end

section

variable {D : Type}

/-- A read of a JSON value; what the library throws is the error that `parse_config` returns. -/
def reading {α : Type} (value : Except String α) : Result α :=
  value.mapError fun what => catchSerialization .invalidInput (.exception what)

/-- A field that may be absent or null. -/
def optionalField {α : Type} (object : Json D) (key : String) (get : Json D → Result α) :
    Result (Option α) :=
  match object.present? key with
  | none => .ok none
  | some field => (get field).map some

def optionalUnit (object : Json D) (key : String) : Result (Option LengthUnit) :=
  optionalField object key fun field => reading field.getString >>= unitFromString

def optionalFrame (object : Json D) (key : String) : Result (Option FrameId) :=
  optionalField object key fun field => reading field.getString >>= FrameId.create

def optionalBool (object : Json D) (key : String) : Result (Option Bool) :=
  optionalField object key fun field => reading field.getBool

def sectionOf (document : Json D) (name : String) : Result (Json D) :=
  reading (document.valueOr name .ok (.object []))

def jsonToInput (input : Json D) : Result InputConfig := do
  let referenceUnit ← optionalUnit input "reference_unit"
  let scanUnit ← optionalUnit input "scan_unit"
  let referenceFrame ← optionalFrame input "reference_frame"
  let scanFrame ← optionalFrame input "scan_frame"
  return { referenceUnit, scanUnit, referenceFrame, scanFrame }

variable [FloatArith D] [FloatIntegers D]

def optionalDouble (object : Json D) (key : String) : Result (Option D) :=
  optionalField object key fun field => reading field.getDouble

def optionalUint (object : Json D) (key : String) : Result (Option UInt32) :=
  optionalField object key fun field => reading field.getUInt32

def optionalUint64 (object : Json D) (key : String) : Result (Option UInt64) :=
  optionalField object key fun field => reading field.getUInt64

def jsonToPreprocess (preprocess : Json D) : Result (PreprocessConfig D) := do
  let voxelSizeMm ← optionalDouble preprocess "voxel_size_mm"
  let normalRadiusMm ← optionalDouble preprocess "normal_radius_mm"
  let normalMinNeighbors ← optionalUint preprocess "normal_min_neighbors"
  let boundaryRadiusMm ← optionalDouble preprocess "boundary_radius_mm"
  return { voxelSizeMm, normalRadiusMm, normalMinNeighbors, boundaryRadiusMm }

def jsonToRegistration (registration : Json D) : Result (RegistrationConfig D) := do
  let method ←
    reading (registration.valueOr "method" Json.getString (utf8 "point_to_plane")) >>=
      methodFromString
  let maxIterations ← optionalUint registration "max_iterations"
  let maxCorrespondenceDistanceMm ← optionalDouble registration "max_correspondence_distance_mm"
  let huberDeltaMm ← optionalDouble registration "huber_delta_mm"
  let translationEpsilonMm ← optionalDouble registration "translation_epsilon_mm"
  let rotationEpsilonRad ← optionalDouble registration "rotation_epsilon_rad"
  let residualEpsilonMm ← optionalDouble registration "residual_epsilon_mm"
  return { method, maxIterations, maxCorrespondenceDistanceMm, huberDeltaMm,
           translationEpsilonMm, rotationEpsilonRad, residualEpsilonMm }

def jsonToRegistrationGate (gate : Json D) : Result (RegistrationGateConfig D) := do
  let minOverlapRatio ← optionalDouble gate "min_overlap_ratio"
  let maxInlierRmseMm ← optionalDouble gate "max_inlier_rmse_mm"
  let minValidPairs ← optionalUint gate "min_valid_pairs"
  let maxTranslationFromInitialMm ← optionalDouble gate "max_translation_from_initial_mm"
  let maxRotationFromInitialDeg ← optionalDouble gate "max_rotation_from_initial_deg"
  return { minOverlapRatio, maxInlierRmseMm, minValidPairs, maxTranslationFromInitialMm,
           maxRotationFromInitialDeg }

def jsonToComparison (comparison : Json D) : Result (ComparisonConfig D) := do
  let maxSearchDistanceMm ← optionalDouble comparison "max_search_distance_mm"
  let maxNormalAngleDeg ← optionalDouble comparison "max_normal_angle_deg"
  let boundaryExclusionMm ← optionalDouble comparison "boundary_exclusion_mm"
  let minValidCoverageRatio ← optionalDouble comparison "min_valid_coverage_ratio"
  return { maxSearchDistanceMm, maxNormalAngleDeg, boundaryExclusionMm, minValidCoverageRatio }

def jsonToDetection (detection : Json D) : Result (DetectionConfig D) := do
  let positiveThresholdMm ← optionalDouble detection "positive_threshold_mm"
  let negativeThresholdMm ← optionalDouble detection "negative_threshold_mm"
  let clusterToleranceMm ← optionalDouble detection "cluster_tolerance_mm"
  let minClusterPoints ← optionalUint detection "min_cluster_points"
  let measurementErrorBudgetMm ← optionalDouble detection "measurement_error_budget_mm"
  return { positiveThresholdMm, negativeThresholdMm, clusterToleranceMm, minClusterPoints,
           measurementErrorBudgetMm }

def jsonToExecution (execution : Json D) : Result ExecutionConfig := do
  let backend ←
    reading (execution.valueOr "backend" Json.getString (utf8 "cpu")) >>= backendFromString
  let deterministic ← optionalBool execution "deterministic"
  let threadCount ← optionalUint execution "thread_count"
  let randomSeed ← optionalUint64 execution "random_seed"
  return { backend, deterministic, threadCount, randomSeed }

def jsonToConfig (document : Json D) : Result (InspectionConfig D) := do
  check (document.isObject ∧ document.contains "schema_version")
    (serializationError .invalidInput "missing schema_version")
  let schemaVersion ← reading ((document.find? "schema_version").getD .null).getString
  check (schemaVersion = kSchemaVersion)
    (serializationError .invalidInput "unsupported schema_version")
  let profile ← reading (document.valueOr "profile" Json.getString [])
  let input ← sectionOf document "input" >>= jsonToInput
  let preprocess ← sectionOf document "preprocess" >>= jsonToPreprocess
  let registration ← sectionOf document "registration" >>= jsonToRegistration
  let registrationGate ← sectionOf document "registration_gate" >>= jsonToRegistrationGate
  let comparison ← sectionOf document "comparison" >>= jsonToComparison
  let detection ← sectionOf document "detection" >>= jsonToDetection
  let execution ← sectionOf document "execution" >>= jsonToExecution
  return { schemaVersion, profile, input, preprocess, registration, registrationGate, comparison,
           detection, execution }

def parseConfig (json : JsonLibrary D) (text : Bytes) : Result (InspectionConfig D) :=
  (json.parse text).mapError (catchSerialization .invalidInput) >>= jsonToConfig

end

section

variable {D : Type}

def PreprocessConfig.numbers (preprocess : PreprocessConfig D) : List (Option D) :=
  [preprocess.voxelSizeMm, preprocess.normalRadiusMm, preprocess.boundaryRadiusMm]

def RegistrationConfig.numbers (registration : RegistrationConfig D) : List (Option D) :=
  [registration.maxCorrespondenceDistanceMm, registration.huberDeltaMm,
    registration.translationEpsilonMm, registration.rotationEpsilonRad,
    registration.residualEpsilonMm]

def RegistrationGateConfig.numbers (gate : RegistrationGateConfig D) : List (Option D) :=
  [gate.minOverlapRatio, gate.maxInlierRmseMm, gate.maxTranslationFromInitialMm,
    gate.maxRotationFromInitialDeg]

def ComparisonConfig.numbers (comparison : ComparisonConfig D) : List (Option D) :=
  [comparison.maxSearchDistanceMm, comparison.maxNormalAngleDeg, comparison.boundaryExclusionMm,
    comparison.minValidCoverageRatio]

def DetectionConfig.numbers (detection : DetectionConfig D) : List (Option D) :=
  [detection.positiveThresholdMm, detection.negativeThresholdMm, detection.clusterToleranceMm,
    detection.measurementErrorBudgetMm]

def InspectionConfig.numbers (config : InspectionConfig D) : List (Option D) :=
  config.preprocess.numbers ++ config.registration.numbers ++ config.registrationGate.numbers ++
    config.comparison.numbers ++ config.detection.numbers

end

end PointcloudAd
