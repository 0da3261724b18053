import PointcloudAd.Serialization.ConfigCodec

/-!
# Integers of a parsed configuration

The six integer fields are read by a conversion that refuses nothing: a negative, fractional or
large number wraps or loses its fraction, and a Boolean counts as a number for the narrow fields.
-/

namespace PointcloudAd

open Library

/-- The optional integer fields of a configuration. -/
inductive IntegerField where
  | normalMinNeighbors | maxIterations | minValidPairs | minClusterPoints | threadCount | randomSeed
  deriving DecidableEq, Repr

namespace IntegerField

def sectionName : IntegerField → String
  | normalMinNeighbors => "preprocess"
  | maxIterations => "registration"
  | minValidPairs => "registration_gate"
  | minClusterPoints => "detection"
  | threadCount | randomSeed => "execution"

def key : IntegerField → String
  | normalMinNeighbors => "normal_min_neighbors"
  | maxIterations => "max_iterations"
  | minValidPairs => "min_valid_pairs"
  | minClusterPoints => "min_cluster_points"
  | threadCount => "thread_count"
  | randomSeed => "random_seed"

/-- The width of the field's type. -/
def width : IntegerField → ℕ
  | randomSeed => 64
  | _ => 32

/-- The value of a field of a configuration. -/
def get {D : Type} (config : InspectionConfig D) : IntegerField → Option ℕ
  | normalMinNeighbors => config.preprocess.normalMinNeighbors.map UInt32.toNat
  | maxIterations => config.registration.maxIterations.map UInt32.toNat
  | minValidPairs => config.registrationGate.minValidPairs.map UInt32.toNat
  | minClusterPoints => config.detection.minClusterPoints.map UInt32.toNat
  | threadCount => config.execution.threadCount.map UInt32.toNat
  | randomSeed => config.execution.randomSeed.map UInt64.toNat

/-- The value a document has at a field's key, unless it is absent or null. -/
def value? {D : Type} (document : Json D) (field : IntegerField) : Option (Json D) :=
  ((document.find? field.sectionName).getD (.object [])).present? field.key

end IntegerField

section

variable {D : Type} [FloatIntegers D]

/-- A value that is a natural number below a power of two. -/
def Fits (width : ℕ) (json : Json D) : Prop := ∃ n : ℕ, json.number? = some (n : ℚ) ∧ n < 2 ^ width

/-- The values at the six keys fit their fields. -/
def IntegersFit (document : Json D) : Prop :=
  ∀ field : IntegerField, ∀ json ∈ field.value? document, Fits field.width json

/-- A configuration has the numbers of a document at the six keys, and no others. -/
def KeepsIntegers (document : Json D) (config : InspectionConfig D) : Prop :=
  ∀ field : IntegerField, match field.value? document with
    | none => field.get config = none
    | some json => ∃ n : ℕ, json.number? = some (n : ℚ) ∧ field.get config = some n

theorem truncate_natCast (n : ℕ) : truncate (n : ℚ) = n := by
  simp [truncate]

theorem toUInt32_of_value {v : D} {n : ℕ} (h : FloatIntegers.value v = n) (hn : n < 2 ^ 32) :
    (toUInt32 v).toNat = n := by
  unfold toUInt32
  rw [h, truncate_natCast]
  have hcast : (n : ℤ) < 2 ^ 32 := by exact_mod_cast hn
  rw [if_pos ⟨by omega, hcast⟩, UInt32.toNat_ofNat', Int.toNat_natCast]
  exact Nat.mod_eq_of_lt hn

theorem toUInt64_of_value {v : D} {n : ℕ} (h : FloatIntegers.value v = n) (hn : n < 2 ^ 64) :
    (toUInt64 v).toNat = n := by
  unfold toUInt64
  rw [h, truncate_natCast]
  have hcast : (n : ℤ) < 2 ^ 64 := by exact_mod_cast hn
  rw [if_pos ⟨by omega, hcast⟩, UInt64.toNat_ofNat', Int.toNat_natCast]
  exact Nat.mod_eq_of_lt hn

theorem getUInt32_of_fits {json : Json D} {n : ℕ} (h : json.number? = some (n : ℚ))
    (hn : n < 2 ^ 32) : ∃ value, json.getUInt32 = .ok value ∧ value.toNat = n := by
  cases json with
  | unsigned value =>
    have hvalue : value.toNat = n := by exact_mod_cast Option.some.inj h
    refine ⟨_, rfl, ?_⟩
    rw [UInt64.toNat_toUInt32, hvalue]
    exact Nat.mod_eq_of_lt hn
  | integer value =>
    have hvalue : value.toInt = n := by exact_mod_cast Option.some.inj h
    refine ⟨_, rfl, ?_⟩
    rw [UInt32.ofInt, UInt32.toNat_ofNat', hvalue]
    omega
  | float value => exact ⟨_, rfl, toUInt32_of_value (Option.some.inj h) hn⟩
  | _ => cases h

theorem getUInt64_of_fits {json : Json D} {n : ℕ} (h : json.number? = some (n : ℚ))
    (hn : n < 2 ^ 64) : ∃ value, json.getUInt64 = .ok value ∧ value.toNat = n := by
  cases json with
  | unsigned value => exact ⟨_, rfl, by exact_mod_cast Option.some.inj h⟩
  | integer value =>
    have hvalue : value.toInt = n := by exact_mod_cast Option.some.inj h
    refine ⟨_, rfl, ?_⟩
    rw [UInt64.ofInt, UInt64.toNat_ofNat', hvalue]
    omega
  | float value => exact ⟨_, rfl, toUInt64_of_value (Option.some.inj h) hn⟩
  | _ => cases h

/-- The conversion of a field's value, as a natural number. -/
def IntegerField.read (field : IntegerField) (json : Json D) : Except String ℕ :=
  match field with
  | .randomSeed => json.getUInt64.map UInt64.toNat
  | _ => json.getUInt32.map UInt32.toNat

theorem IntegerField.read_lt {field : IntegerField} {json : Json D} {n : ℕ}
    (h : field.read json = .ok n) : n < 2 ^ field.width := by
  have hnarrow {value : Except String UInt32} (hv : value.map UInt32.toNat = .ok n) :
      n < 2 ^ 32 := by
    cases value with
    | error => cases hv
    | ok value =>
      cases hv
      exact value.toNat_lt
  have hwide {value : Except String UInt64} (hv : value.map UInt64.toNat = .ok n) :
      n < 2 ^ 64 := by
    cases value with
    | error => cases hv
    | ok value =>
      cases hv
      exact value.toNat_lt
  cases field with
  | randomSeed => exact hwide h
  | _ => exact hnarrow h

theorem IntegerField.read_of_fits {field : IntegerField} {json : Json D} {n : ℕ}
    (h : json.number? = some (n : ℚ)) (hn : n < 2 ^ field.width) : field.read json = .ok n := by
  have hnarrow (hn : n < 2 ^ 32) : json.getUInt32.map UInt32.toNat = .ok n := by
    obtain ⟨value, hvalue, rfl⟩ := getUInt32_of_fits h hn
    rw [hvalue]
    rfl
  have hwide (hn : n < 2 ^ 64) : json.getUInt64.map UInt64.toNat = .ok n := by
    obtain ⟨value, hvalue, rfl⟩ := getUInt64_of_fits h hn
    rw [hvalue]
    rfl
  cases field with
  | randomSeed => exact hwide hn
  | _ => exact hnarrow hn

/-- A section of a document, an empty one when it is absent. -/
def sectionOrEmpty (document : Json D) (name : String) : Json D :=
  (document.find? name).getD (.object [])

omit [FloatIntegers D] in
theorem sectionOf_object {document : Json D} (h : document.isObject = true) (name : String) :
    sectionOf document name = .ok (sectionOrEmpty document name) := by
  cases document with
  | object fields =>
    unfold sectionOf sectionOrEmpty Json.valueOr Json.find?
    dsimp only
    cases fields.lookup name <;> rfl
  | _ => cases h

variable [FloatArith D]

theorem sections_of_jsonToConfig {document : Json D} {config : InspectionConfig D}
    (h : jsonToConfig document = .ok config) :
    jsonToPreprocess (sectionOrEmpty document "preprocess") = .ok config.preprocess ∧
      jsonToRegistration (sectionOrEmpty document "registration") = .ok config.registration ∧
      jsonToRegistrationGate (sectionOrEmpty document "registration_gate") =
        .ok config.registrationGate ∧
      jsonToDetection (sectionOrEmpty document "detection") = .ok config.detection ∧
      jsonToExecution (sectionOrEmpty document "execution") = .ok config.execution := by
  unfold jsonToConfig at h
  obtain ⟨_, hobject, h⟩ := bind_ok_iff.mp h
  have hobject := (check_ok_iff.mp hobject).1
  simp only [sectionOf_object hobject, ok_bind, bind_ok_iff] at h
  obtain ⟨_, -, _, -, _, -, _, -, preprocess, hpreprocess, registration, hregistration, gate, hgate,
    _, -, detection, hdetection, execution, hexecution, hconfig⟩ := h
  cases hconfig
  exact ⟨hpreprocess, hregistration, hgate, hdetection, hexecution⟩

omit [FloatIntegers D] [FloatArith D] in
theorem optionalField_ok {α : Type} {object : Json D} {key : String}
    {get : Json D → Except String α}
    {value : Option α} (toNat : α → ℕ)
    (h : optionalField object key (fun field => reading (get field)) = .ok value) :
    match object.present? key with
    | none => value.map toNat = none
    | some json => ∃ n, (get json).map toNat = .ok n ∧ value.map toNat = some n := by
  unfold optionalField at h
  cases hfield : object.present? key with
  | none =>
    rw [hfield] at h
    cases h
    rfl
  | some json =>
    rw [hfield] at h
    dsimp only at h ⊢
    cases hget : get json with
    | error what =>
      rw [hget] at h
      cases h
    | ok a =>
      rw [hget] at h
      cases h
      exact ⟨toNat a, rfl, rfl⟩

theorem normalMinNeighbors_read {object : Json D} {preprocess : PreprocessConfig D}
    (h : jsonToPreprocess object = .ok preprocess) :
    optionalUint object "normal_min_neighbors" = .ok preprocess.normalMinNeighbors := by
  unfold jsonToPreprocess at h
  simp only [bind_ok_iff] at h
  obtain ⟨_, -, _, -, _, hread, _, -, h⟩ := h
  cases h
  exact hread

theorem maxIterations_read {object : Json D} {registration : RegistrationConfig D}
    (h : jsonToRegistration object = .ok registration) :
    optionalUint object "max_iterations" = .ok registration.maxIterations := by
  unfold jsonToRegistration at h
  obtain ⟨_, -, h⟩ := bind_ok_iff.mp h
  simp only [bind_ok_iff] at h
  obtain ⟨_, hread, _, -, _, -, _, -, _, -, _, -, h⟩ := h
  cases h
  exact hread

theorem minValidPairs_read {object : Json D} {gate : RegistrationGateConfig D}
    (h : jsonToRegistrationGate object = .ok gate) :
    optionalUint object "min_valid_pairs" = .ok gate.minValidPairs := by
  unfold jsonToRegistrationGate at h
  simp only [bind_ok_iff] at h
  obtain ⟨_, -, _, -, _, hread, _, -, _, -, h⟩ := h
  cases h
  exact hread

theorem minClusterPoints_read {object : Json D} {detection : DetectionConfig D}
    (h : jsonToDetection object = .ok detection) :
    optionalUint object "min_cluster_points" = .ok detection.minClusterPoints := by
  unfold jsonToDetection at h
  simp only [bind_ok_iff] at h
  obtain ⟨_, -, _, -, _, -, _, hread, _, -, h⟩ := h
  cases h
  exact hread

omit [FloatArith D] in
theorem execution_read {object : Json D} {execution : ExecutionConfig}
    (h : jsonToExecution object = .ok execution) :
    optionalUint object "thread_count" = .ok execution.threadCount ∧
      optionalUint64 object "random_seed" = .ok execution.randomSeed := by
  unfold jsonToExecution at h
  obtain ⟨_, -, h⟩ := bind_ok_iff.mp h
  simp only [bind_ok_iff] at h
  obtain ⟨_, -, _, hthreads, _, hseed, h⟩ := h
  cases h
  exact ⟨hthreads, hseed⟩

theorem integer_of_jsonToConfig {document : Json D} {config : InspectionConfig D}
    (h : jsonToConfig document = .ok config) (field : IntegerField) :
    match field.value? document with
    | none => field.get config = none
    | some json => ∃ n, field.read json = .ok n ∧ field.get config = some n := by
  obtain ⟨hpreprocess, hregistration, hgate, hdetection, hexecution⟩ := sections_of_jsonToConfig h
  obtain ⟨hthreads, hseed⟩ := execution_read hexecution
  cases field with
  | normalMinNeighbors => exact optionalField_ok UInt32.toNat (normalMinNeighbors_read hpreprocess)
  | maxIterations => exact optionalField_ok UInt32.toNat (maxIterations_read hregistration)
  | minValidPairs => exact optionalField_ok UInt32.toNat (minValidPairs_read hgate)
  | minClusterPoints => exact optionalField_ok UInt32.toNat (minClusterPoints_read hdetection)
  | threadCount => exact optionalField_ok UInt32.toNat hthreads
  | randomSeed => exact optionalField_ok UInt64.toNat hseed

/-- An accepted text keeps its integers exactly when every one of them fits its field. -/
theorem integers_kept_iff (json : JsonLibrary D) (text : Bytes) {document : Json D}
    {config : InspectionConfig D} (hparse : json.parse text = .ok document)
    (h : parseConfig json text = .ok config) :
    KeepsIntegers document config ↔ IntegersFit document := by
  have hconfig : jsonToConfig document = .ok config := by
    unfold parseConfig at h
    rw [hparse] at h
    exact h
  constructor
  · intro hkept field value hvalue
    have hread := integer_of_jsonToConfig hconfig field
    have hkept := hkept field
    rw [Option.mem_def.mp hvalue] at hread hkept
    obtain ⟨n, hread, hn⟩ := hread
    obtain ⟨m, hnumber, hm⟩ := hkept
    rw [hn] at hm
    cases hm
    exact ⟨n, hnumber, IntegerField.read_lt hread⟩
  · intro hfit field
    have hread := integer_of_jsonToConfig hconfig field
    cases hvalue : field.value? document with
    | none =>
      rw [hvalue] at hread
      exact hread
    | some value =>
      rw [hvalue] at hread
      obtain ⟨n, hread, hn⟩ := hread
      obtain ⟨m, hnumber, hlt⟩ := hfit field value hvalue
      rw [IntegerField.read_of_fits hnumber hlt] at hread
      cases hread
      exact ⟨n, hnumber, hn⟩

end

/-- A document with one number, the thread count. -/
def threadCountDocument (value : UInt64) : Json (Exact ℚ) :=
  .object [("execution", .object [("thread_count", .unsigned value)]),
    ("schema_version", .string kSchemaVersion)]

def threadCountConfig (value : UInt32) : InspectionConfig (Exact ℚ) :=
  { schemaVersion := kSchemaVersion, execution := { threadCount := some value } }

def threadCountText (value : String) : String :=
  "\x7b\"execution\":\x7b\"thread_count\":" ++ value ++ "\x7d,\"schema_version\":\"1.0\"\x7d"

theorem threadCount_kept : KeepsIntegers (threadCountDocument 8) (threadCountConfig 8) := by
  refine (integers_kept_iff (.sample (threadCountDocument 8) (threadCountText "8"))
    (utf8 (threadCountText "8")) rfl (by decide +kernel)).mpr ?_
  intro field value hvalue
  cases field with
  | threadCount =>
    cases hvalue
    exact ⟨8, rfl, by decide⟩
  | _ => cases hvalue

/-- A thread count of 4294967297 is accepted as one thread. -/
theorem threadCount_wraps :
    parseConfig (.sample (threadCountDocument 4294967297) (threadCountText "4294967297"))
        (utf8 (threadCountText "4294967297")) = .ok (threadCountConfig 1) ∧
      ¬ KeepsIntegers (threadCountDocument 4294967297) (threadCountConfig 1) := by
  constructor
  · decide +kernel
  · intro hkept
    obtain ⟨n, hnumber, hn⟩ := hkept .threadCount
    have hone : n = 1 := (Option.some.inj hn).symm
    subst hone
    have hvalue := Option.some.inj hnumber
    revert hvalue
    decide +kernel

end PointcloudAd
