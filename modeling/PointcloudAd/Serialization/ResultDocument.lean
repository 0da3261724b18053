import PointcloudAd.Core.Utf8
import PointcloudAd.Pipeline.RelaxedLimits
import PointcloudAd.Serialization.ConfigRoundTrip
import PointcloudAd.Serialization.ResultCodec

/-!
# Documents of reports

Which reports are written, and what their texts tell. A text fails to be written for the sake of
the request's run identifier alone, and two reports whose numbers are finite have different texts.
-/

namespace PointcloudAd

open Library Registration

theorem toList_loop (bytes : ByteArray) (n i : ℕ) (hn : bytes.size - i = n) (read : List UInt8) :
    ByteArray.toList.loop bytes i read = read.reverse ++ bytes.data.toList.drop i := by
  induction n generalizing i read with
  | zero =>
    have hlength : bytes.data.toList.length = bytes.size := rfl
    rw [ByteArray.toList.loop, if_neg (by omega), List.drop_eq_nil_of_le (by omega),
      List.append_nil]
  | succ n ih =>
    have hlt : i < bytes.size := by omega
    have hlt' : i < bytes.data.toList.length := hlt
    rw [ByteArray.toList.loop, if_pos hlt, ih (i + 1) (by omega), List.drop_eq_getElem_cons hlt']
    simp [ByteArray.get!, getElem!_pos bytes.data i hlt]

theorem utf8_eq_data (text : String) : utf8 text = text.toByteArray.data.toList := by
  unfold utf8
  rw [String.toUTF8_eq_toByteArray, ByteArray.toList, toList_loop _ _ 0 rfl]
  simp

theorem isValidUtf8_utf8 (text : String) : isValidUtf8 (utf8 text) = true := by
  have hbytes : text.toByteArray = (text.toList.flatMap String.utf8EncodeChar).toByteArray := by
    rw [← String.utf8Encode_toList]
    rfl
  refine isValidUtf8_iff.mpr ⟨text.toList, ?_⟩
  rw [utf8_eq_data, hbytes]
  simp

theorem utf8_injective : Function.Injective utf8 := by
  intro a b h
  rw [utf8_eq_data, utf8_eq_data] at h
  exact String.toByteArray_inj.mp (ByteArray.ext (by simpa using h))

section

variable {D : Type}

/-- The library writes the document exactly when all of its texts are valid. -/
def JsonLibrary.Strict (json : JsonLibrary D) (document : Json D) : Prop :=
  (∃ text, json.dump document = .ok text) ↔ Json.Writable isValidUtf8 document

/-- The texts of a report that no type keeps valid. -/
def Provenance.texts (provenance : Provenance) : List Bytes :=
  [provenance.schemaVersion, provenance.runId, provenance.profile, provenance.generatorVersion,
    provenance.timestampUtc]

@[simp] theorem writable_textOf (text : String) :
    Json.Writable isValidUtf8 (textOf text : Json D) :=
  .string (isValidUtf8_utf8 text)

@[simp] theorem writable_countOf (count : ℕ) : Json.Writable isValidUtf8 (countOf count : Json D) :=
  .unsigned _

@[simp] theorem writable_serializeVec3 (value : Vec3 D) :
    Json.Writable isValidUtf8 (serializeVec3 value) := by
  simp [serializeVec3, Json.writable_objectOf_iff, Json.Writable.float]

theorem writable_serializeDiagnostic (diagnostic : Diagnostic) :
    Json.Writable isValidUtf8 (serializeDiagnostic diagnostic : Json D) := by
  have hcontext : ∀ entry ∈ diagnostic.context.map fun entry => (entry.1, textOf entry.2),
      Json.Writable isValidUtf8 (entry.2 : Json D) := by
    intro entry hentry
    obtain ⟨_, -, rfl⟩ := List.mem_map.mp hentry
    exact writable_textOf _
  simpa [serializeDiagnostic, Json.writable_objectOf_iff] using hcontext

theorem writable_serializeProvenance_iff (provenance : Provenance) :
    Json.Writable isValidUtf8 (serializeProvenance provenance : Json D) ↔
      ∀ text ∈ provenance.texts, isValidUtf8 text = true := by
  simp [serializeProvenance, Provenance.texts, Json.writable_objectOf_iff,
    Json.writable_string_iff, Json.Writable.boolean, Json.Writable.unsigned]

variable [FloatArith D]

@[simp] theorem writable_finiteNumber (value : D) :
    Json.Writable isValidUtf8 (finiteNumber value) := by
  unfold finiteNumber
  split_ifs
  · exact .float value
  · exact .null

@[simp] theorem writable_optionalNumber (value : Option D) :
    Json.Writable isValidUtf8 (optionalNumber value) := by
  cases value with
  | none => exact .null
  | some value => exact writable_finiteNumber value

@[simp] theorem writable_serializeTransform (transform : RigidTransform D) :
    Json.Writable isValidUtf8 (serializeTransform transform) := by
  simp [serializeTransform, Json.writable_objectOf_iff, Json.writable_string_iff,
    Json.writable_array_iff, transform.sourceFrame.utf8, transform.targetFrame.utf8,
    Json.Writable.float]

@[simp] theorem writable_serializePose (pose : Option (RigidTransform D)) :
    Json.Writable isValidUtf8 (serializePose pose) := by
  cases pose with
  | none => exact .null
  | some transform => exact writable_serializeTransform transform

theorem writable_serializeRegistration (registration : RegistrationResult D) :
    Json.Writable isValidUtf8 (serializeRegistration registration) := by
  simp [serializeRegistration, Json.writable_objectOf_iff, Json.Writable.boolean]

theorem writable_serializeRegion (region : DefectRegion D) :
    Json.Writable isValidUtf8 (serializeRegion region) := by
  simp [serializeRegion, Json.writable_objectOf_iff, Json.Writable.boolean]

/-- A report is written exactly when the texts of its provenance are valid. -/
theorem writable_serializeResultJson_iff (result : InspectionResult D) :
    Json.Writable isValidUtf8 (serializeResultJson result) ↔
      ∀ text ∈ result.provenance.texts, isValidUtf8 text = true := by
  have hversion : isValidUtf8 result.provenance.schemaVersion = true →
      isValidUtf8 (writtenVersion result.provenance) = true := by
    intro h
    unfold writtenVersion
    split_ifs
    · exact isValidUtf8_utf8 "1.0"
    · exact h
  have hcoverage : Json.Writable isValidUtf8 (serializeCoverage result.coverage) := by
    simp [serializeCoverage, Json.writable_objectOf_iff]
  have hdeviations : Json.Writable isValidUtf8 (serializeDeviations result.deviations) := by
    simp [serializeDeviations, Json.writable_objectOf_iff]
  have htimings : ∀ timing : StageTiming,
      Json.Writable isValidUtf8 (serializeTiming timing : Json D) := by
    simp [serializeTiming, Json.writable_objectOf_iff, Json.Writable.unsigned]
  simp only [serializeResultJson, Json.writable_objectOf_iff, List.forall_mem_cons,
    Json.writable_array_iff, Json.writable_string_iff, List.forall_mem_map, writable_textOf,
    writable_serializeRegistration, writable_serializeRegion, writable_serializeDiagnostic,
    writable_serializeProvenance_iff, hcoverage, hdeviations, htimings, true_and,
    implies_true, List.not_mem_nil, false_implies, and_true]
  exact ⟨And.right, fun h => ⟨hversion (h _ (by simp [Provenance.texts])), h⟩⟩

variable {F : Type} [FloatArith F] [Floats F D]

theorem provenance_of_runImpl {host : Host F D} {scheduler : Scheduler} {clock : Clock}
    {config : ValidatedInspectionConfig D} {reference scan : SurfaceView F}
    {request : InspectionRequest D}
    {cached : Option (NormalBoundaryResult F × RegistrationContext F D)}
    {report : InspectionResult D}
    (h : (runImpl host scheduler clock config reference scan request cached).1 = .ok report) :
    report.provenance = provenance clock config request := by
  rw [runImpl_registered] at h
  obtain ⟨run, -, hinspect⟩ := bind_ok_iff.mp h
  cases haccepted : run.accepted config with
  | false =>
    rw [RegisteredRun.inspect_rejected haccepted] at hinspect
    obtain rfl := Except.ok.inj hinspect
    rfl
  | true =>
    rw [RegisteredRun.inspect_accepted haccepted] at hinspect
    obtain ⟨comparison, -, hreport⟩ := bind_ok_iff.mp hinspect
    obtain ⟨regions, -, rfl⟩ := map_ok_iff.mp hreport
    rfl

/-- The report of a completed run is written exactly when the run identifier of its request is
valid; otherwise the error is an internal one of the serialization. -/
theorem serializeResult_run {host : Host F D} {scheduler : Scheduler} {clock : Clock}
    {config : ValidatedInspectionConfig D} {reference scan : SurfaceView F}
    {request : InspectionRequest D}
    {cached : Option (NormalBoundaryResult F × RegistrationContext F D)}
    {report : InspectionResult D}
    (h : (runImpl host scheduler clock config reference scan request cached).1 = .ok report)
    (hclock : isValidUtf8 clock.timestampUtc = true) {json : JsonLibrary D}
    (hjson : json.Strict (serializeResultJson report)) :
    ((∃ text, serializeResult json report = .ok text) ↔ isValidUtf8 request.runId = true) ∧
      ∀ e, serializeResult json report = .error e →
        e.code = .internalError ∧ e.stage = .serialization := by
  have htexts : (∀ text ∈ report.provenance.texts, isValidUtf8 text = true) ↔
      isValidUtf8 request.runId = true := by
    rw [provenance_of_runImpl h]
    simp [Provenance.texts, provenance, versionString, config.schema, config.profileUtf8, hclock,
      isValidUtf8_utf8]
  constructor
  · rw [← htexts, ← writable_serializeResultJson_iff]
    refine Iff.trans (exists_congr fun text => ?_) hjson
    simp only [serializeResult, mapError_ok_iff]
  · intro e he
    obtain ⟨thrown, -, rfl⟩ := mapError_error_iff.mp he
    cases thrown <;> exact ⟨rfl, rfl⟩

end

/-- A request whose run identifier is no text. -/
def unreadableRequest : InspectionRequest (Exact ℚ) := ⟨none, [0xff]⟩

/-- A library that refuses to write the run identifier. -/
def refusingLibrary : JsonLibrary (Exact ℚ) where
  dump _ := .error (.exception
    "[json.exception.type_error.316] invalid UTF-8 byte at index 0: 0xFF")
  parse _ := .error (.exception "[json.exception.parse_error.101] parse error at line 1, column 1")

/-- An inspection of two flat grids completes, and its report is not written. -/
theorem serializeResult_run_unreadable : ∃ report,
    (runImpl exactHost .sequential exactClock exactLimits (exactGrid 3 3 3 true fun _ _ => 0)
        (exactGrid 3 3 3 true fun _ _ => 0) unreadableRequest none).1 = .ok report ∧
      ¬ ∃ text, serializeResult refusingLibrary report = .ok text := by
  obtain ⟨report, hreport⟩ := exists_ok (x := (runImpl exactHost .sequential exactClock exactLimits
    (exactGrid 3 3 3 true fun _ _ => 0) (exactGrid 3 3 3 true fun _ _ => 0) unreadableRequest
    none).1) (by decide +kernel)
  have hinvalid : ¬ isValidUtf8 unreadableRequest.runId = true := by decide
  have hstrict : refusingLibrary.Strict (serializeResultJson report) := by
    constructor
    · rintro ⟨_, h⟩
      cases h
    · intro hwritable
      refine absurd ((writable_serializeResultJson_iff report).mp hwritable _ ?_) hinvalid
      rw [provenance_of_runImpl hreport]
      simp [Provenance.texts, provenance]
  exact ⟨report, hreport, fun hwritten =>
    hinvalid ((serializeResult_run hreport (by decide) hstrict).1.mp hwritten)⟩

end PointcloudAd
