import PointcloudAd.Serialization.ConfigCodec

/-!
# Round trip of the configuration

Every section is read back as it was written, but for the input section, which is read back exactly
when its units and frames are all present.
-/

namespace PointcloudAd

open Library

section

variable {D : Type}

theorem optionalField_of_find {α : Type} {object field : Json D} {key : String}
    (h : object.find? key = some field) (get : Json D → Result α) :
    optionalField object key get = if field.isNull then .ok none else (get field).map some := by
  unfold optionalField Json.present?
  rw [h, Option.filter_some]
  cases field.isNull <;> rfl

variable {fields : List (String × Json D)} {key : String}

theorem optionalUnit_objectOf (unit : Option LengthUnit) (hn : (fields.map Prod.fst).Nodup)
    (h : (key, .string (unit.elim [] (utf8 ∘ unitToString))) ∈ fields) :
    optionalUnit (.objectOf fields) key =
      if unit.isSome then .ok unit
      else .error (serializationError .invalidInput "unknown length unit") := by
  unfold optionalUnit
  rw [optionalField_of_find (Json.find?_objectOf hn h)]
  cases unit with
  | none =>
    change Except.map some (unitFromString []) = _
    rw [unitFromString_nil]
    rfl
  | some unit =>
    change Except.map some (unitFromString (utf8 (unitToString unit))) = _
    rw [unitFromString_name]
    rfl

theorem optionalFrame_objectOf (frame : Option FrameId) (hn : (fields.map Prod.fst).Nodup)
    (h : (key, .string (frame.elim [] FrameId.value)) ∈ fields) :
    optionalFrame (.objectOf fields) key =
      if frame.isSome then .ok frame
      else .error (geometryError "frame" "must not be empty") := by
  unfold optionalFrame
  rw [optionalField_of_find (Json.find?_objectOf hn h)]
  cases frame with
  | none => rfl
  | some frame =>
    change Except.map some (FrameId.create frame.value) = _
    rw [FrameId.create_value]
    rfl

theorem optionalBool_objectOf (value : Option Bool) (hn : (fields.map Prod.fst).Nodup)
    (h : (key, value.elim .null .boolean) ∈ fields) :
    optionalBool (.objectOf fields) key = .ok value := by
  unfold optionalBool
  rw [optionalField_of_find (Json.find?_objectOf hn h)]
  cases value <;> rfl

theorem sectionOf_objectOf (json : Json D) (hn : (fields.map Prod.fst).Nodup)
    (h : (key, json) ∈ fields) : sectionOf (.objectOf fields) key = .ok json := by
  unfold sectionOf
  rw [Json.valueOr_of_find (Json.find?_objectOf hn h)]
  rfl

theorem getString_objectOf (text : Bytes) {default : Bytes} (hn : (fields.map Prod.fst).Nodup)
    (h : (key, .string text) ∈ fields) :
    reading ((Json.objectOf fields).valueOr key Json.getString default) = .ok text := by
  rw [Json.valueOr_of_find (Json.find?_objectOf hn h)]
  rfl

variable [FloatArith D]

/-- A value that is finite where it is present. -/
def FiniteIfPresent (value : Option D) : Prop := ∀ v ∈ value, isFinite v = true

theorem optionalDouble_objectOf {value : Option D} (hv : FiniteIfPresent value)
    (hn : (fields.map Prod.fst).Nodup) (h : (key, optionalNumber value) ∈ fields) :
    optionalDouble (.objectOf fields) key = .ok value := by
  unfold optionalDouble
  rw [optionalField_of_find (Json.find?_objectOf hn h)]
  cases value with
  | none => rfl
  | some value =>
    have hnumber : optionalNumber (some value) = Json.float value := if_pos (hv value rfl)
    rw [hnumber]
    rfl

variable [FloatIntegers D]

omit [FloatArith D] in
theorem optionalUint_objectOf (value : Option UInt32) (hn : (fields.map Prod.fst).Nodup)
    (h : (key, optionalUnsigned value) ∈ fields) :
    optionalUint (.objectOf fields) key = .ok value := by
  unfold optionalUint
  rw [optionalField_of_find (Json.find?_objectOf hn h)]
  cases value with
  | none => rfl
  | some value =>
    change Except.ok (some value.toUInt64.toUInt32) = _
    rw [UInt32.toUInt32_toUInt64]

omit [FloatArith D] in
theorem optionalUint64_objectOf (value : Option UInt64) (hn : (fields.map Prod.fst).Nodup)
    (h : (key, value.elim .null .unsigned) ∈ fields) :
    optionalUint64 (.objectOf fields) key = .ok value := by
  unfold optionalUint64
  rw [optionalField_of_find (Json.find?_objectOf hn h)]
  cases value <;> rfl

end

/-- The input fields that have no form for their absence. -/
def InputConfig.Complete (input : InputConfig) : Prop :=
  input.referenceUnit.isSome ∧ input.scanUnit.isSome ∧ input.referenceFrame.isSome ∧
    input.scanFrame.isSome

instance (input : InputConfig) : Decidable input.Complete :=
  inferInstanceAs (Decidable (input.referenceUnit.isSome ∧ input.scanUnit.isSome ∧
    input.referenceFrame.isSome ∧ input.scanFrame.isSome))

section

variable {D : Type} [FloatArith D] [FloatIntegers D]

omit [FloatArith D] [FloatIntegers D] in
theorem jsonToInput_ok_iff {input parsed : InputConfig} :
    jsonToInput (inputToJson (D := D) input) = .ok parsed ↔ input.Complete ∧ input = parsed := by
  unfold jsonToInput inputToJson InputConfig.Complete
  rw [optionalUnit_objectOf input.referenceUnit (by simp) (by simp),
    optionalUnit_objectOf input.scanUnit (by simp) (by simp),
    optionalFrame_objectOf input.referenceFrame (by simp) (by simp),
    optionalFrame_objectOf input.scanFrame (by simp) (by simp)]
  cases input.referenceUnit.isSome <;> cases input.scanUnit.isSome <;>
    cases input.referenceFrame.isSome <;> cases input.scanFrame.isSome <;>
    simp [bind, Except.bind, pure, Except.pure]

theorem jsonToPreprocess_toJson {preprocess : PreprocessConfig D}
    (h : ∀ value ∈ preprocess.numbers, FiniteIfPresent value) :
    jsonToPreprocess (preprocessToJson preprocess) = .ok preprocess := by
  simp only [PreprocessConfig.numbers, List.forall_mem_cons] at h
  obtain ⟨hvoxel, hnormal, hboundary, -⟩ := h
  unfold jsonToPreprocess preprocessToJson
  rw [optionalDouble_objectOf hvoxel (by simp) (by simp),
    optionalDouble_objectOf hnormal (by simp) (by simp),
    optionalUint_objectOf preprocess.normalMinNeighbors (by simp) (by simp),
    optionalDouble_objectOf hboundary (by simp) (by simp)]
  rfl

theorem jsonToRegistration_toJson {registration : RegistrationConfig D}
    (h : ∀ value ∈ registration.numbers, FiniteIfPresent value) :
    jsonToRegistration (registrationToJson registration) = .ok registration := by
  simp only [RegistrationConfig.numbers, List.forall_mem_cons] at h
  obtain ⟨hdistance, hhuber, htranslation, hrotation, hresidual, -⟩ := h
  unfold jsonToRegistration registrationToJson
  rw [getString_objectOf (utf8 (registrationMethodName registration.method)) (by simp) (by simp),
    optionalUint_objectOf registration.maxIterations (by simp) (by simp),
    optionalDouble_objectOf hdistance (by simp) (by simp),
    optionalDouble_objectOf hhuber (by simp) (by simp),
    optionalDouble_objectOf htranslation (by simp) (by simp),
    optionalDouble_objectOf hrotation (by simp) (by simp),
    optionalDouble_objectOf hresidual (by simp) (by simp)]
  change (methodFromString (utf8 (registrationMethodName registration.method)) >>= _) = _
  rw [methodFromString_name]
  rfl

theorem jsonToRegistrationGate_toJson {gate : RegistrationGateConfig D}
    (h : ∀ value ∈ gate.numbers, FiniteIfPresent value) :
    jsonToRegistrationGate (registrationGateToJson gate) = .ok gate := by
  simp only [RegistrationGateConfig.numbers, List.forall_mem_cons] at h
  obtain ⟨hoverlap, hrmse, htranslation, hrotation, -⟩ := h
  unfold jsonToRegistrationGate registrationGateToJson
  rw [optionalDouble_objectOf hoverlap (by simp) (by simp),
    optionalDouble_objectOf hrmse (by simp) (by simp),
    optionalUint_objectOf gate.minValidPairs (by simp) (by simp),
    optionalDouble_objectOf htranslation (by simp) (by simp),
    optionalDouble_objectOf hrotation (by simp) (by simp)]
  rfl

omit [FloatIntegers D] in
theorem jsonToComparison_toJson {comparison : ComparisonConfig D}
    (h : ∀ value ∈ comparison.numbers, FiniteIfPresent value) :
    jsonToComparison (comparisonToJson comparison) = .ok comparison := by
  simp only [ComparisonConfig.numbers, List.forall_mem_cons] at h
  obtain ⟨hsearch, hangle, hexclusion, hcoverage, -⟩ := h
  unfold jsonToComparison comparisonToJson
  rw [optionalDouble_objectOf hsearch (by simp) (by simp),
    optionalDouble_objectOf hangle (by simp) (by simp),
    optionalDouble_objectOf hexclusion (by simp) (by simp),
    optionalDouble_objectOf hcoverage (by simp) (by simp)]
  rfl

theorem jsonToDetection_toJson {detection : DetectionConfig D}
    (h : ∀ value ∈ detection.numbers, FiniteIfPresent value) :
    jsonToDetection (detectionToJson detection) = .ok detection := by
  simp only [DetectionConfig.numbers, List.forall_mem_cons] at h
  obtain ⟨hpositive, hnegative, htolerance, hbudget, -⟩ := h
  unfold jsonToDetection detectionToJson
  rw [optionalDouble_objectOf hpositive (by simp) (by simp),
    optionalDouble_objectOf hnegative (by simp) (by simp),
    optionalDouble_objectOf htolerance (by simp) (by simp),
    optionalUint_objectOf detection.minClusterPoints (by simp) (by simp),
    optionalDouble_objectOf hbudget (by simp) (by simp)]
  rfl

omit [FloatArith D] in
theorem jsonToExecution_toJson (execution : ExecutionConfig) :
    jsonToExecution (executionToJson (D := D) execution) = .ok execution := by
  unfold jsonToExecution executionToJson
  rw [getString_objectOf (utf8 (computeBackendName execution.backend)) (by simp) (by simp),
    optionalBool_objectOf execution.deterministic (by simp) (by simp),
    optionalUint_objectOf execution.threadCount (by simp) (by simp),
    optionalUint64_objectOf execution.randomSeed (by simp) (by simp)]
  change (backendFromString (utf8 (computeBackendName execution.backend)) >>= _) = _
  rw [backendFromString_name]
  rfl

end

section

variable {D : Type} [FloatArith D]

theorem representable_optionalNumber (value : Option D) :
    Json.Representable isValidUtf8 (optionalNumber value) := by
  cases value with
  | none => exact .null
  | some value =>
    change Json.Representable isValidUtf8 (finiteNumber value)
    unfold finiteNumber
    split_ifs with h
    · exact .float h
    · exact .null

theorem representable_optionalUnsigned (value : Option UInt32) :
    Json.Representable (D := D) isValidUtf8 (optionalUnsigned value) := by
  cases value with
  | none => exact .null
  | some value => exact .unsigned _

theorem representable_inputToJson (input : InputConfig) :
    Json.Representable (D := D) isValidUtf8 (inputToJson input) := by
  have hunit (unit : Option LengthUnit) : Json.Representable (D := D) isValidUtf8
      (.string (unit.elim [] (utf8 ∘ unitToString))) := by
    apply Json.Representable.string
    cases unit with
    | none => rfl
    | some unit => cases unit <;> decide +kernel
  have hframe (frame : Option FrameId) : Json.Representable (D := D) isValidUtf8
      (.string (frame.elim [] FrameId.value)) := by
    apply Json.Representable.string
    cases frame with
    | none => rfl
    | some frame => exact frame.utf8
  apply Json.Representable.objectOf (by simp)
  simp [hunit, hframe]

theorem representable_registrationToJson (registration : RegistrationConfig D) :
    Json.Representable isValidUtf8 (registrationToJson registration) := by
  have hmethod : Json.Representable (D := D) isValidUtf8
      (.string (utf8 (registrationMethodName registration.method))) := by
    apply Json.Representable.string
    cases registration.method <;> decide +kernel
  apply Json.Representable.objectOf (by simp)
  simp [hmethod, representable_optionalNumber, representable_optionalUnsigned]

theorem representable_executionToJson (execution : ExecutionConfig) :
    Json.Representable (D := D) isValidUtf8 (executionToJson execution) := by
  have hbackend : Json.Representable (D := D) isValidUtf8
      (.string (utf8 (computeBackendName execution.backend))) := by
    apply Json.Representable.string
    cases execution.backend <;> decide +kernel
  have hdeterministic : Json.Representable (D := D) isValidUtf8
      (execution.deterministic.elim .null .boolean) := by
    cases execution.deterministic with
    | none => exact .null
    | some value => exact .boolean value
  have hseed : Json.Representable (D := D) isValidUtf8
      (execution.randomSeed.elim .null .unsigned) := by
    cases execution.randomSeed with
    | none => exact .null
    | some value => exact .unsigned value
  apply Json.Representable.objectOf (by simp)
  simp [hbackend, hdeterministic, hseed, representable_optionalUnsigned]

theorem representable_configToJson {config : InspectionConfig D}
    (hversion : isValidUtf8 config.schemaVersion = true)
    (hprofile : isValidUtf8 config.profile = true) :
    Json.Representable isValidUtf8 (configToJson config) := by
  have hpreprocess : Json.Representable isValidUtf8 (preprocessToJson config.preprocess) := by
    apply Json.Representable.objectOf (by simp)
    simp [representable_optionalNumber, representable_optionalUnsigned]
  have hgate : Json.Representable isValidUtf8
      (registrationGateToJson config.registrationGate) := by
    apply Json.Representable.objectOf (by simp)
    simp [representable_optionalNumber, representable_optionalUnsigned]
  have hcomparison : Json.Representable isValidUtf8 (comparisonToJson config.comparison) := by
    apply Json.Representable.objectOf (by simp)
    simp [representable_optionalNumber]
  have hdetection : Json.Representable isValidUtf8 (detectionToJson config.detection) := by
    apply Json.Representable.objectOf (by simp)
    simp [representable_optionalNumber, representable_optionalUnsigned]
  apply Json.Representable.objectOf (by simp)
  simp [Json.Representable.string hversion, Json.Representable.string hprofile, hpreprocess, hgate,
    hcomparison, hdetection, representable_inputToJson, representable_registrationToJson,
    representable_executionToJson]

variable [FloatIntegers D]

/-- A configuration's form is read back as that configuration when its input is complete, and not
at all otherwise. -/
theorem jsonToConfig_toJson {config parsed : InspectionConfig D}
    (hversion : config.schemaVersion = kSchemaVersion)
    (hfinite : ∀ value ∈ config.numbers, FiniteIfPresent value) :
    jsonToConfig (configToJson config) = .ok parsed ↔ config.input.Complete ∧ config = parsed := by
  simp only [InspectionConfig.numbers, List.forall_mem_append] at hfinite
  obtain ⟨⟨⟨⟨hpreprocess, hregistration⟩, hgate⟩, hcomparison⟩, hdetection⟩ := hfinite
  have hfind : (configToJson config).find? "schema_version" = some (.string config.schemaVersion) :=
    Json.find?_objectOf (by simp) (by simp)
  have hcontains :
      (configToJson config).isObject ∧ (configToJson config).contains "schema_version" := by
    apply And.intro rfl
    unfold Json.contains
    rw [hfind]
    rfl
  unfold jsonToConfig
  rw [check, if_pos hcontains, hfind]
  change (check (config.schemaVersion = kSchemaVersion) _ >>= _) = _ ↔ _
  rw [check, if_pos hversion]
  unfold configToJson
  rw [getString_objectOf config.profile (by simp) (by simp),
    sectionOf_objectOf (inputToJson config.input) (by simp) (by simp),
    sectionOf_objectOf (preprocessToJson config.preprocess) (by simp) (by simp),
    sectionOf_objectOf (registrationToJson config.registration) (by simp) (by simp),
    sectionOf_objectOf (registrationGateToJson config.registrationGate) (by simp) (by simp),
    sectionOf_objectOf (comparisonToJson config.comparison) (by simp) (by simp),
    sectionOf_objectOf (detectionToJson config.detection) (by simp) (by simp),
    sectionOf_objectOf (executionToJson config.execution) (by simp) (by simp)]
  simp only [ok_bind, jsonToPreprocess_toJson hpreprocess, jsonToRegistration_toJson hregistration,
    jsonToRegistrationGate_toJson hgate, jsonToComparison_toJson hcomparison,
    jsonToDetection_toJson hdetection, jsonToExecution_toJson]
  rw [bind_ok_iff]
  constructor
  · rintro ⟨input, hinput, hparsed⟩
    obtain ⟨hcomplete, rfl⟩ := jsonToInput_ok_iff.mp hinput
    cases hparsed
    exact ⟨hcomplete, rfl⟩
  · rintro ⟨hcomplete, rfl⟩
    exact ⟨config.input, jsonToInput_ok_iff.mpr ⟨hcomplete, rfl⟩, rfl⟩

/-- The library reads back what it writes, for a value that a text represents. -/
def JsonLibrary.Inverts (json : JsonLibrary D) (document : Json D) : Prop :=
  Json.Representable isValidUtf8 document →
    ∃ text, json.dump document = .ok text ∧ json.parse text = .ok document

/-- The configuration is written as a text, and read back from it. -/
def RoundTrips (json : JsonLibrary D) (config : InspectionConfig D) : Prop :=
  ∃ text, serializeConfig json config = .ok text ∧ parseConfig json text = .ok config

/-- A supported configuration round-trips exactly when its units and frames are all present: an
absent one is written as an empty text, which reading takes for a name. -/
theorem config_roundTrips_iff {json : JsonLibrary D} {config : InspectionConfig D}
    (hjson : json.Inverts (configToJson config)) (hversion : config.schemaVersion = kSchemaVersion)
    (hprofile : isValidUtf8 config.profile = true)
    (hfinite : ∀ value ∈ config.numbers, FiniteIfPresent value) :
    RoundTrips json config ↔ config.input.Complete := by
  have hvalid : isValidUtf8 config.schemaVersion = true := by
    rw [hversion]
    decide +kernel
  obtain ⟨text, hdump, hparse⟩ := hjson (representable_configToJson hvalid hprofile)
  have hserialize : serializeConfig json config = .ok text := by
    unfold serializeConfig
    rw [hdump]
    rfl
  have hparsed : parseConfig json text = jsonToConfig (configToJson config) := by
    unfold parseConfig
    rw [hparse, Except.mapError, ok_bind]
  constructor
  · rintro ⟨text', hserialize', hconfig⟩
    cases hserialize.symm.trans hserialize'
    rw [hparsed] at hconfig
    exact ((jsonToConfig_toJson hversion hfinite).mp hconfig).1
  · intro hcomplete
    refine ⟨text, hserialize, ?_⟩
    rw [hparsed]
    exact (jsonToConfig_toJson hversion hfinite).mpr ⟨hcomplete, rfl⟩

end

def sampleFrame (name : String) (hn : utf8 name ≠ []) (hu : isValidUtf8 (utf8 name) = true) :
    FrameId := ⟨utf8 name, hn, hu⟩

def absentConfig : InspectionConfig (Exact ℚ) := { schemaVersion := kSchemaVersion }

def absentLibrary : JsonLibrary (Exact ℚ) :=
  .sample (configToJson absentConfig)
    ("\x7b\"comparison\":\x7b\"boundary_exclusion_mm\":null,\"max_normal_angle_deg\":null," ++
      "\"max_search_distance_mm\":null,\"min_valid_coverage_ratio\":null\x7d," ++
      "\"detection\":\x7b\"cluster_tolerance_mm\":null,\"measurement_error_budget_mm\":null," ++
      "\"min_cluster_points\":null,\"negative_threshold_mm\":null," ++
      "\"positive_threshold_mm\":null\x7d,\"execution\":\x7b\"backend\":\"cpu\"," ++
      "\"deterministic\":null,\"random_seed\":null,\"thread_count\":null\x7d," ++
      "\"input\":\x7b\"reference_frame\":\"\",\"reference_unit\":\"\",\"scan_frame\":\"\"," ++
      "\"scan_unit\":\"\"\x7d,\"preprocess\":\x7b\"boundary_radius_mm\":null," ++
      "\"normal_min_neighbors\":null,\"normal_radius_mm\":null,\"voxel_size_mm\":null\x7d," ++
      "\"profile\":\"\",\"registration\":\x7b\"huber_delta_mm\":null," ++
      "\"max_correspondence_distance_mm\":null,\"max_iterations\":null," ++
      "\"method\":\"point_to_plane\",\"residual_epsilon_mm\":null," ++
      "\"rotation_epsilon_rad\":null,\"translation_epsilon_mm\":null\x7d," ++
      "\"registration_gate\":\x7b\"max_inlier_rmse_mm\":null," ++
      "\"max_rotation_from_initial_deg\":null,\"max_translation_from_initial_mm\":null," ++
      "\"min_overlap_ratio\":null,\"min_valid_pairs\":null\x7d,\"schema_version\":\"1.0\"\x7d")

/-- A configuration with every optional field absent is not read back. -/
theorem absent_not_read_back : absentLibrary.Inverts (configToJson absentConfig) ∧
    absentConfig.schemaVersion = kSchemaVersion ∧ isValidUtf8 absentConfig.profile = true ∧
    (∀ value ∈ absentConfig.numbers, FiniteIfPresent value) ∧
    ¬ RoundTrips absentLibrary absentConfig := by
  have hfinite : ∀ value ∈ absentConfig.numbers, FiniteIfPresent value := by
    have hnone : ∀ value ∈ absentConfig.numbers, value = none := by decide
    intro value hvalue v hv
    rw [hnone value hvalue] at hv
    cases hv
  refine ⟨fun _ => ⟨_, rfl, rfl⟩, rfl, rfl, hfinite, ?_⟩
  rintro ⟨text, -, hparse⟩
  have hcomplete := ((jsonToConfig_toJson rfl hfinite).mp hparse).1
  revert hcomplete
  decide

/-- Frames, numbers and integers, some sections in part. -/
def presentConfig : InspectionConfig (Exact ℚ) :=
  { schemaVersion := kSchemaVersion
    profile := utf8 "plate"
    input :=
      { referenceUnit := some .millimeter
        scanUnit := some .meter
        referenceFrame := some (sampleFrame "fixture" (by decide +kernel) (by decide +kernel))
        scanFrame := some (sampleFrame "scanner" (by decide +kernel) (by decide +kernel)) }
    preprocess :=
      { voxelSizeMm := some (.fin (1 / 2)), normalMinNeighbors := some 6 }
    registration :=
      { maxIterations := some 50, huberDeltaMm := some (.fin (3 / 4)), method := .gicp }
    registrationGate := { minOverlapRatio := some (.fin (1 / 4)), minValidPairs := some 100 }
    comparison :=
      { maxSearchDistanceMm := some (.fin 8)
        maxNormalAngleDeg := some (.fin 45)
        boundaryExclusionMm := some (.fin 0)
        minValidCoverageRatio := some (.fin (7 / 8)) }
    detection := { positiveThresholdMm := some (.fin (5 / 4)), minClusterPoints := some 12 }
    execution :=
      { deterministic := some true
        threadCount := some 4
        randomSeed := some 18446744073709551615 } }

def presentLibrary : JsonLibrary (Exact ℚ) :=
  .sample (configToJson presentConfig)
    ("\x7b\"comparison\":\x7b\"boundary_exclusion_mm\":0.0,\"max_normal_angle_deg\":45.0," ++
      "\"max_search_distance_mm\":8.0,\"min_valid_coverage_ratio\":0.875\x7d," ++
      "\"detection\":\x7b\"cluster_tolerance_mm\":null,\"measurement_error_budget_mm\":null," ++
      "\"min_cluster_points\":12,\"negative_threshold_mm\":null," ++
      "\"positive_threshold_mm\":1.25\x7d,\"execution\":\x7b\"backend\":\"cpu\"," ++
      "\"deterministic\":true,\"random_seed\":18446744073709551615,\"thread_count\":4\x7d," ++
      "\"input\":\x7b\"reference_frame\":\"fixture\",\"reference_unit\":\"millimeter\"," ++
      "\"scan_frame\":\"scanner\",\"scan_unit\":\"meter\"\x7d," ++
      "\"preprocess\":\x7b\"boundary_radius_mm\":null,\"normal_min_neighbors\":6," ++
      "\"normal_radius_mm\":null,\"voxel_size_mm\":0.5\x7d,\"profile\":\"plate\"," ++
      "\"registration\":\x7b\"huber_delta_mm\":0.75,\"max_correspondence_distance_mm\":null," ++
      "\"max_iterations\":50,\"method\":\"gicp\",\"residual_epsilon_mm\":null," ++
      "\"rotation_epsilon_rad\":null,\"translation_epsilon_mm\":null\x7d," ++
      "\"registration_gate\":\x7b\"max_inlier_rmse_mm\":null," ++
      "\"max_rotation_from_initial_deg\":null,\"max_translation_from_initial_mm\":null," ++
      "\"min_overlap_ratio\":0.25,\"min_valid_pairs\":100\x7d,\"schema_version\":\"1.0\"\x7d")

theorem config_roundTrips_present : RoundTrips presentLibrary presentConfig := by
  have hfinite : ∀ value ∈ presentConfig.numbers, value.all isFinite = true := by decide +kernel
  refine (config_roundTrips_iff (fun _ => ⟨_, rfl, rfl⟩) rfl (by decide +kernel)
    fun value hvalue v hv => ?_).mpr (by decide)
  have hall := hfinite value hvalue
  rw [Option.mem_def.mp hv] at hall
  exact hall

end PointcloudAd
