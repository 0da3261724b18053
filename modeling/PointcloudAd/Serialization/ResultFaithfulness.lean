import PointcloudAd.Serialization.ResultDocument

/-!
# What a document tells

Two reports without loss have different documents, and different texts: nothing of a report that is
finite is left out of what is written, and no two fields are mixed up.
-/

namespace PointcloudAd

open Library Registration

section

variable {D : Type} [FloatArith D]

def DefectRegion.numbers (region : DefectRegion D) : List D :=
  [region.centroid.x, region.centroid.y, region.centroid.z, region.aabbMin.x, region.aabbMin.y,
    region.aabbMin.z, region.aabbMax.x, region.aabbMax.y, region.aabbMax.z, region.maxAbsMm,
    region.meanMm, region.rmsMm, region.p95AbsMm] ++ region.estimatedAreaMm2.toList

def DeviationStatistics.numbers (deviations : DeviationStatistics D) : List D :=
  [deviations.meanSignedMm, deviations.rmsMm, deviations.maxAbsMm, deviations.p95AbsMm]

def DeviationStatistics.counts (deviations : DeviationStatistics D) : List ℕ :=
  [deviations.validCount, deviations.inputInvalid, deviations.noNeighbor,
    deviations.normalMissing, deviations.normalMismatch, deviations.referenceBoundary]

def CoverageSummary.counts (coverage : CoverageSummary D) : List ℕ :=
  [coverage.validCount, coverage.coveredCount, coverage.inputInvalid, coverage.noNeighbor,
    coverage.scanBoundary]

/-- The numbers of a report whose types do not keep them finite. -/
def InspectionResult.numbers (result : InspectionResult D) : List D :=
  [result.registration.overlapRatio, result.registration.inlierRmseMm,
    result.coverage.coverageRatio] ++ result.deviations.numbers ++
    result.regions.flatMap DefectRegion.numbers

/-- The counters of a report. -/
def InspectionResult.counts (result : InspectionResult D) : List ℕ :=
  [result.registration.iterations, result.registration.validPairs] ++ result.coverage.counts ++
    result.deviations.counts ++
    result.regions.flatMap fun region => [region.id, region.pointCount]

/-- A report that a document holds without loss: its numbers are finite, its counters fit, and the
contexts of its diagnostics are sorted by key, as the maps are that they come from. -/
structure InspectionResult.Lossless (result : InspectionResult D) : Prop where
  numbers : ∀ value ∈ result.numbers, isFinite value = true
  counts : ∀ count ∈ result.counts, count < 2 ^ 64
  contexts : ∀ diagnostic ∈ result.diagnostics,
    (diagnostic.context.map Prod.fst).Pairwise (· < ·)

section Injective

omit [FloatArith D] in
theorem textOf_inj {a b : String} (h : (textOf a : Json D) = textOf b) : a = b :=
  utf8_injective (Json.string.inj h)

omit [FloatArith D] in
theorem countOf_inj {a b : ℕ} (ha : a < 2 ^ 64) (hb : b < 2 ^ 64)
    (h : (countOf a : Json D) = countOf b) : a = b := by
  have hvalue := congrArg UInt64.toNat (Json.unsigned.inj h)
  rwa [UInt64.toNat_ofNat', UInt64.toNat_ofNat', Nat.mod_eq_of_lt ha, Nat.mod_eq_of_lt hb] at hvalue

theorem finiteNumber_inj {a b : D} (ha : isFinite a = true) (hb : isFinite b = true)
    (h : finiteNumber a = finiteNumber b) : a = b := by
  rw [finiteNumber, finiteNumber, if_pos ha, if_pos hb] at h
  exact Json.float.inj h

theorem optionalNumber_inj {a b : Option D} (ha : FiniteIfPresent a) (hb : FiniteIfPresent b)
    (h : optionalNumber a = optionalNumber b) : a = b := by
  cases a with
  | none =>
    cases b with
    | none => rfl
    | some b => simp [optionalNumber, finiteNumber, hb b rfl] at h
  | some a =>
    cases b with
    | none => simp [optionalNumber, finiteNumber, ha a rfl] at h
    | some b => exact congrArg some (finiteNumber_inj (ha a rfl) (hb b rfl) h)

omit [FloatArith D] in
theorem stageToString_injective : Function.Injective stageToString := by
  intro a b
  cases a <;> cases b <;> decide

omit [FloatArith D] in
theorem frame_inj {a b : FrameId} (h : a.value = b.value) : a = b := by
  cases a
  cases b
  simp_all

theorem serializeTransform_inj {a b : RigidTransform D}
    (h : serializeTransform a = serializeTransform b) : a = b := by
  unfold serializeTransform at h
  have hfields := Json.objectOf_inj (by simp) (by simp) h
  simp only [List.cons.injEq, Prod.mk.injEq, true_and, and_true, Json.string.injEq,
    Json.array.injEq] at hfields
  obtain ⟨hsource, htarget, hmatrix⟩ := hfields
  refine RigidTransform.ext (funext fun element => ?_) (frame_inj hsource) (frame_inj htarget)
  exact Json.float.inj (congrFun (List.ofFn_injective hmatrix) element)

theorem serializePose_inj {a b : Option (RigidTransform D)}
    (h : serializePose a = serializePose b) : a = b := by
  cases a with
  | none =>
    cases b with
    | none => rfl
    | some b => cases h
  | some a =>
    cases b with
    | none => cases h
    | some b => exact congrArg some (serializeTransform_inj h)

omit [FloatArith D] in
theorem serializeVec3_inj {a b : Vec3 D} (h : serializeVec3 a = serializeVec3 b) : a = b := by
  unfold serializeVec3 at h
  have hfields := Json.objectOf_inj (by simp) (by simp) h
  simp only [List.cons.injEq, Prod.mk.injEq, true_and, and_true, Json.float.injEq] at hfields
  cases a
  cases b
  simpa using hfields

theorem serializeRegion_inj {a b : DefectRegion D}
    (ha : ∀ value ∈ a.numbers, isFinite value = true)
    (hb : ∀ value ∈ b.numbers, isFinite value = true)
    (hcounts : a.id < 2 ^ 64 ∧ a.pointCount < 2 ^ 64)
    (hcounts' : b.id < 2 ^ 64 ∧ b.pointCount < 2 ^ 64)
    (h : serializeRegion a = serializeRegion b) : a = b := by
  unfold serializeRegion at h
  have hfields := Json.objectOf_inj (by simp) (by simp) h
  simp only [List.cons.injEq, Prod.mk.injEq, true_and, and_true, Json.boolean.injEq] at hfields
  obtain ⟨hid, htype, hcount, hcentroid, hmin, hmax, hmaxAbs, hmean, hrms, hp95, harea,
    happroximate, hseverity⟩ := hfields
  have htype' : a.type = b.type := by
    have hnames := textOf_inj htype
    revert hnames
    cases a.type <;> cases b.type <;> decide
  have hseverity' : a.severity = b.severity := by
    have hnames := textOf_inj hseverity
    revert hnames
    cases a.severity <;> cases b.severity <;> decide
  simp only [DefectRegion.numbers, List.mem_append, List.mem_cons, List.not_mem_nil, or_false,
    Option.mem_toList, or_imp, forall_and, forall_eq] at ha hb
  obtain ⟨⟨-, -, -, -, -, -, -, -, -, hmaxAbs₁, hmean₁, hrms₁, hp95₁⟩, harea₁⟩ := ha
  obtain ⟨⟨-, -, -, -, -, -, -, -, -, hmaxAbs₂, hmean₂, hrms₂, hp95₂⟩, harea₂⟩ := hb
  have hsame := optionalNumber_inj harea₁ harea₂ harea
  have hid' := countOf_inj hcounts.1 hcounts'.1 hid
  have hcount' := countOf_inj hcounts.2 hcounts'.2 hcount
  have hmaxAbs' := finiteNumber_inj hmaxAbs₁ hmaxAbs₂ hmaxAbs
  have hmean' := finiteNumber_inj hmean₁ hmean₂ hmean
  have hrms' := finiteNumber_inj hrms₁ hrms₂ hrms
  have hp95' := finiteNumber_inj hp95₁ hp95₂ hp95
  have hcentroid' := serializeVec3_inj hcentroid
  have hmin' := serializeVec3_inj hmin
  have hmax' := serializeVec3_inj hmax
  cases a
  cases b
  simp_all only

omit [FloatArith D] in
theorem serializeTiming_inj {a b : StageTiming}
    (h : (serializeTiming a : Json D) = serializeTiming b) : a = b := by
  unfold serializeTiming at h
  have hfields := Json.objectOf_inj (by simp) (by simp) h
  simp only [List.cons.injEq, Prod.mk.injEq, true_and, and_true, Json.unsigned.injEq] at hfields
  have hstage : a.stage = b.stage := stageToString_injective (textOf_inj hfields.1)
  cases a
  cases b
  simp_all only

omit [FloatArith D] in
theorem serializeProvenance_inj {a b : Provenance}
    (h : (serializeProvenance a : Json D) = serializeProvenance b) : a = b := by
  unfold serializeProvenance at h
  have hfields := Json.objectOf_inj (by simp) (by simp) h
  simp only [List.cons.injEq, Prod.mk.injEq, true_and, and_true, Json.unsigned.injEq,
    Json.string.injEq, Json.boolean.injEq] at hfields
  obtain ⟨hversion, hrun, hprofile, hgenerator, htime, hdeterministic, hthreads, hseed⟩ := hfields
  have hthreads' : a.threadCount = b.threadCount := by
    simpa using congrArg UInt64.toUInt32 hthreads
  cases a
  cases b
  simp_all only

omit [FloatArith D] in
theorem context_inj {a b : List (String × String)} (ha : (a.map Prod.fst).Pairwise (· < ·))
    (hb : (b.map Prod.fst).Pairwise (· < ·))
    (h : Json.objectOf (a.map fun entry => (entry.1, (textOf entry.2 : Json D))) =
      Json.objectOf (b.map fun entry => (entry.1, textOf entry.2))) : a = b := by
  have hsorted : ∀ {l : List (String × String)}, (l.map Prod.fst).Pairwise (· < ·) →
      (l.map fun entry => (entry.1, (textOf entry.2 : Json D))).Pairwise
        fun x y => x.1 ≤ y.1 := by
    intro l hl
    rw [List.pairwise_map] at hl ⊢
    exact hl.imp le_of_lt
  have hentry : Function.Injective fun entry : String × String =>
      (entry.1, (textOf entry.2 : Json D)) := by
    intro x y hxy
    obtain ⟨hkey, hvalue⟩ := Prod.mk.inj hxy
    exact Prod.ext hkey (textOf_inj hvalue)
  unfold Json.objectOf at h
  rw [(hsorted ha).insertionSort_eq, (hsorted hb).insertionSort_eq] at h
  exact List.map_injective_iff.mpr hentry (Json.object.inj h)

omit [FloatArith D] in
theorem serializeDiagnostic_inj {a b : Diagnostic}
    (ha : (a.context.map Prod.fst).Pairwise (· < ·))
    (hb : (b.context.map Prod.fst).Pairwise (· < ·))
    (h : (serializeDiagnostic a : Json D) = serializeDiagnostic b) : a = b := by
  unfold serializeDiagnostic at h
  have hfields := Json.objectOf_inj (by simp) (by simp) h
  simp only [List.cons.injEq, Prod.mk.injEq, true_and, and_true] at hfields
  obtain ⟨hcode, hstage, hmessage, hcontext⟩ := hfields
  have hcode' : a.code = b.code := by
    have hnames := textOf_inj hcode
    revert hnames
    cases a.code <;> cases b.code <;> decide
  have hstage' : a.stage = b.stage := stageToString_injective (textOf_inj hstage)
  have hmessage' := textOf_inj hmessage
  have hcontext' : a.context = b.context := context_inj ha hb hcontext
  cases a
  cases b
  simp_all only

omit [FloatArith D] in
theorem registrationMethodName_injective : Function.Injective registrationMethodName := by
  intro a b
  cases a <;> cases b <;> decide

omit [FloatArith D] in
theorem computeBackendName_injective : Function.Injective computeBackendName := by
  intro a b
  cases a <;> cases b <;> decide

omit [FloatArith D] in
theorem map_inj_of {α β : Type} {f : α → β} (p : α → Prop)
    (hf : ∀ x y, p x → p y → f x = f y → x = y) :
    ∀ {l l' : List α}, (∀ x ∈ l, p x) → (∀ x ∈ l', p x) → l.map f = l'.map f → l = l'
  | [], [], _, _, _ => rfl
  | x :: l, y :: l', hl, hl', h => by
    obtain ⟨hhead, htail⟩ := List.cons.inj h
    rw [List.forall_mem_cons] at hl hl'
    rw [hf x y hl.1 hl'.1 hhead, map_inj_of p hf hl.2 hl'.2 htail]

theorem serializeRegistration_inj {a b : RegistrationResult D}
    (ha : isFinite a.overlapRatio = true ∧ isFinite a.inlierRmseMm = true)
    (hb : isFinite b.overlapRatio = true ∧ isFinite b.inlierRmseMm = true)
    (hcounts : a.iterations < 2 ^ 64 ∧ a.validPairs < 2 ^ 64)
    (hcounts' : b.iterations < 2 ^ 64 ∧ b.validPairs < 2 ^ 64)
    (h : serializeRegistration a = serializeRegistration b) : a = b := by
  unfold serializeRegistration at h
  have hfields := Json.objectOf_inj (by simp) (by simp) h
  simp only [List.cons.injEq, Prod.mk.injEq, true_and, and_true, Json.boolean.injEq] at hfields
  obtain ⟨hinitial, hfinal, hiterations, hconverged, hpairs, hoverlap, hrmse, hreason, hmethod,
    hrequested, hactual, -, -⟩ := hfields
  have hinitial' := serializePose_inj hinitial
  have hfinal' := serializePose_inj hfinal
  have hiterations' := countOf_inj hcounts.1 hcounts'.1 hiterations
  have hpairs' := countOf_inj hcounts.2 hcounts'.2 hpairs
  have hoverlap' := finiteNumber_inj ha.1 hb.1 hoverlap
  have hrmse' := finiteNumber_inj ha.2 hb.2 hrmse
  have hreason' := textOf_inj hreason
  have hmethod' := registrationMethodName_injective (textOf_inj hmethod)
  have hrequested' := computeBackendName_injective (textOf_inj hrequested)
  have hactual' := computeBackendName_injective (textOf_inj hactual)
  cases a
  cases b
  simp_all only

theorem serializeCoverage_inj {a b : CoverageSummary D} (ha : isFinite a.coverageRatio = true)
    (hb : isFinite b.coverageRatio = true) (hcounts : ∀ count ∈ a.counts, count < 2 ^ 64)
    (hcounts' : ∀ count ∈ b.counts, count < 2 ^ 64)
    (h : serializeCoverage a = serializeCoverage b) : a = b := by
  unfold serializeCoverage at h
  have hfields := Json.objectOf_inj (by simp) (by simp) h
  simp only [List.cons.injEq, Prod.mk.injEq, true_and, and_true] at hfields
  obtain ⟨hvalid, hcovered, hratio, hinvalid, hneighbor, hboundary⟩ := hfields
  simp only [CoverageSummary.counts, List.forall_mem_cons] at hcounts hcounts'
  obtain ⟨hvalid₁, hcovered₁, hinvalid₁, hneighbor₁, hboundary₁, -⟩ := hcounts
  obtain ⟨hvalid₂, hcovered₂, hinvalid₂, hneighbor₂, hboundary₂, -⟩ := hcounts'
  have hvalid' := countOf_inj hvalid₁ hvalid₂ hvalid
  have hcovered' := countOf_inj hcovered₁ hcovered₂ hcovered
  have hratio' := finiteNumber_inj ha hb hratio
  have hinvalid' := countOf_inj hinvalid₁ hinvalid₂ hinvalid
  have hneighbor' := countOf_inj hneighbor₁ hneighbor₂ hneighbor
  have hboundary' := countOf_inj hboundary₁ hboundary₂ hboundary
  cases a
  cases b
  simp_all only

theorem serializeDeviations_inj {a b : DeviationStatistics D}
    (ha : ∀ value ∈ a.numbers, isFinite value = true)
    (hb : ∀ value ∈ b.numbers, isFinite value = true)
    (hcounts : ∀ count ∈ a.counts, count < 2 ^ 64) (hcounts' : ∀ count ∈ b.counts, count < 2 ^ 64)
    (h : serializeDeviations a = serializeDeviations b) : a = b := by
  unfold serializeDeviations at h
  have hfields := Json.objectOf_inj (by simp) (by simp) h
  simp only [List.cons.injEq, Prod.mk.injEq, true_and, and_true] at hfields
  obtain ⟨hvalid, hmean, hrms, hmaxAbs, hp95, hinvalid, hneighbor, hmissing, hmismatch,
    hboundary⟩ := hfields
  simp only [DeviationStatistics.counts, List.forall_mem_cons] at hcounts hcounts'
  obtain ⟨hvalid₁, hinvalid₁, hneighbor₁, hmissing₁, hmismatch₁, hboundary₁, -⟩ := hcounts
  obtain ⟨hvalid₂, hinvalid₂, hneighbor₂, hmissing₂, hmismatch₂, hboundary₂, -⟩ := hcounts'
  simp only [DeviationStatistics.numbers, List.forall_mem_cons] at ha hb
  obtain ⟨hmean₁, hrms₁, hmaxAbs₁, hp95₁, -⟩ := ha
  obtain ⟨hmean₂, hrms₂, hmaxAbs₂, hp95₂, -⟩ := hb
  have hvalid' := countOf_inj hvalid₁ hvalid₂ hvalid
  have hmean' := finiteNumber_inj hmean₁ hmean₂ hmean
  have hrms' := finiteNumber_inj hrms₁ hrms₂ hrms
  have hmaxAbs' := finiteNumber_inj hmaxAbs₁ hmaxAbs₂ hmaxAbs
  have hp95' := finiteNumber_inj hp95₁ hp95₂ hp95
  have hinvalid' := countOf_inj hinvalid₁ hinvalid₂ hinvalid
  have hneighbor' := countOf_inj hneighbor₁ hneighbor₂ hneighbor
  have hmissing' := countOf_inj hmissing₁ hmissing₂ hmissing
  have hmismatch' := countOf_inj hmismatch₁ hmismatch₂ hmismatch
  have hboundary' := countOf_inj hboundary₁ hboundary₂ hboundary
  cases a
  cases b
  simp_all only

/-- Documents of lossless reports are different when the reports are. -/
theorem serializeResultJson_inj {a b : InspectionResult D} (ha : a.Lossless) (hb : b.Lossless)
    (h : serializeResultJson a = serializeResultJson b) : a = b := by
  unfold serializeResultJson at h
  have hfields := Json.objectOf_inj (by simp) (by simp) h
  simp only [List.cons.injEq, Prod.mk.injEq, true_and, and_true, Json.array.injEq] at hfields
  obtain ⟨-, hverdict, hregistration, hcoverage, hdeviations, hregions, htimings, hprovenance,
    hdiagnostics⟩ := hfields
  have hverdict' : a.verdict = b.verdict := by
    have hnames := textOf_inj hverdict
    revert hnames
    cases a.verdict <;> cases b.verdict <;> decide
  obtain ⟨hnumbers, hcounts, hcontexts⟩ := ha
  obtain ⟨hnumbers', hcounts', hcontexts'⟩ := hb
  simp only [InspectionResult.numbers, InspectionResult.counts, List.forall_mem_append,
    List.forall_mem_cons, List.forall_mem_flatMap] at hnumbers hcounts hnumbers' hcounts'
  obtain ⟨⟨⟨hoverlap, hrmse, hratio, -⟩, hstatistics⟩, hmeasures⟩ := hnumbers
  obtain ⟨⟨⟨hoverlap', hrmse', hratio', -⟩, hstatistics'⟩, hmeasures'⟩ := hnumbers'
  obtain ⟨⟨⟨⟨hiterations, hpairs, -⟩, hcovered⟩, hclasses⟩, hsizes⟩ := hcounts
  obtain ⟨⟨⟨⟨hiterations', hpairs', -⟩, hcovered'⟩, hclasses'⟩, hsizes'⟩ := hcounts'
  have hregistration' := serializeRegistration_inj ⟨hoverlap, hrmse⟩ ⟨hoverlap', hrmse'⟩
    ⟨hiterations, hpairs⟩ ⟨hiterations', hpairs'⟩ hregistration
  have hcoverage' := serializeCoverage_inj hratio hratio' hcovered hcovered' hcoverage
  have hdeviations' := serializeDeviations_inj hstatistics hstatistics' hclasses hclasses'
    hdeviations
  have hregions' : a.regions = b.regions :=
    map_inj_of (fun region : DefectRegion D =>
      (∀ value ∈ region.numbers, isFinite value = true) ∧
        region.id < 2 ^ 64 ∧ region.pointCount < 2 ^ 64)
      (fun x y hx hy => serializeRegion_inj hx.1 hy.1 hx.2 hy.2)
      (fun region hregion => ⟨hmeasures region hregion, (hsizes region hregion).1,
        (hsizes region hregion).2.1⟩)
      (fun region hregion => ⟨hmeasures' region hregion, (hsizes' region hregion).1,
        (hsizes' region hregion).2.1⟩) hregions
  have htimings' : a.timings = b.timings :=
    List.map_injective_iff.mpr (fun x y => serializeTiming_inj) htimings
  have hprovenance' := serializeProvenance_inj hprovenance
  have hdiagnostics' : a.diagnostics = b.diagnostics :=
    map_inj_of _ (fun x y hx hy => serializeDiagnostic_inj hx hy) hcontexts hcontexts' hdiagnostics
  cases a
  cases b
  simp_all only

end Injective

section Representable

omit [FloatArith D] in
@[simp] theorem representable_textOf [FloatArith D] (text : String) :
    Json.Representable isValidUtf8 (textOf text : Json D) :=
  .string (isValidUtf8_utf8 text)

@[simp] theorem representable_countOf (count : ℕ) :
    Json.Representable isValidUtf8 (countOf count : Json D) :=
  .unsigned _

@[simp] theorem representable_finiteNumber (value : D) :
    Json.Representable isValidUtf8 (finiteNumber value) :=
  representable_optionalNumber (some value)

theorem matrix_finite (transform : RigidTransform D) (element : Fin 16) :
    isFinite (transform.matrix element) = true := by
  obtain ⟨tolerance, hchecked⟩ := transform.checked
  unfold checkRigid at hchecked
  split_ifs at hchecked with h₁ h₂
  by_contra hn
  exact h₂ ⟨element, hn⟩

theorem representable_serializeTransform (transform : RigidTransform D) :
    Json.Representable isValidUtf8 (serializeTransform transform) := by
  have hmatrix : ∀ entry ∈ List.ofFn fun element => Json.float (transform.matrix element),
      Json.Representable isValidUtf8 entry := by
    intro entry hentry
    obtain ⟨element, rfl⟩ := List.mem_ofFn.mp hentry
    exact .float (matrix_finite transform element)
  apply Json.Representable.objectOf (by simp)
  simp only [List.forall_mem_cons]
  exact ⟨.string transform.sourceFrame.utf8, .string transform.targetFrame.utf8, .array hmatrix,
    by simp⟩

theorem representable_serializePose (pose : Option (RigidTransform D)) :
    Json.Representable isValidUtf8 (serializePose pose) := by
  cases pose with
  | none => exact .null
  | some transform => exact representable_serializeTransform transform

theorem representable_serializeVec3 {value : Vec3 D} (hx : isFinite value.x = true)
    (hy : isFinite value.y = true) (hz : isFinite value.z = true) :
    Json.Representable isValidUtf8 (serializeVec3 value) := by
  apply Json.Representable.objectOf (by simp)
  simp [Json.Representable.float hx, Json.Representable.float hy, Json.Representable.float hz]

theorem representable_serializeRegion {region : DefectRegion D}
    (h : ∀ value ∈ region.numbers, isFinite value = true) :
    Json.Representable isValidUtf8 (serializeRegion region) := by
  simp only [DefectRegion.numbers, List.forall_mem_append, List.forall_mem_cons] at h
  obtain ⟨⟨hx, hy, hz, hx', hy', hz', hx'', hy'', hz'', -⟩, -⟩ := h
  apply Json.Representable.objectOf (by simp)
  simp [representable_serializeVec3 hx hy hz, representable_serializeVec3 hx' hy' hz',
    representable_serializeVec3 hx'' hy'' hz'', representable_optionalNumber,
    representable_finiteNumber, Json.Representable.boolean]

theorem representable_serializeDiagnostic {diagnostic : Diagnostic}
    (h : (diagnostic.context.map Prod.fst).Pairwise (· < ·)) :
    Json.Representable isValidUtf8 (serializeDiagnostic diagnostic : Json D) := by
  have hcontext : Json.Representable isValidUtf8 (Json.objectOf (diagnostic.context.map
      fun entry => (entry.1, (textOf entry.2 : Json D)))) := by
    apply Json.Representable.objectOf
    · rw [List.map_map]
      exact (h.imp ne_of_lt)
    · intro field hfield
      obtain ⟨_, -, rfl⟩ := List.mem_map.mp hfield
      exact representable_textOf _
  apply Json.Representable.objectOf (by simp)
  simp [hcontext]

theorem representable_serializeResultJson {result : InspectionResult D} (h : result.Lossless)
    (htexts : ∀ text ∈ result.provenance.texts, isValidUtf8 text = true) :
    Json.Representable isValidUtf8 (serializeResultJson result) := by
  have hversion : isValidUtf8 (writtenVersion result.provenance) = true := by
    unfold writtenVersion
    split_ifs
    · exact isValidUtf8_utf8 "1.0"
    · exact htexts _ (by simp [Provenance.texts])
  have hnumbers := h.numbers
  simp only [InspectionResult.numbers, List.forall_mem_append, List.forall_mem_flatMap] at hnumbers
  have hregistration : Json.Representable isValidUtf8
      (serializeRegistration result.registration) := by
    apply Json.Representable.objectOf (by simp)
    simp [representable_serializePose, Json.Representable.boolean]
  have hcoverage : Json.Representable isValidUtf8 (serializeCoverage result.coverage) := by
    apply Json.Representable.objectOf (by simp)
    simp
  have hdeviations : Json.Representable isValidUtf8 (serializeDeviations result.deviations) := by
    apply Json.Representable.objectOf (by simp)
    simp
  have hregions : Json.Representable isValidUtf8
      (.array (result.regions.map serializeRegion)) := by
    refine .array (List.forall_mem_map.mpr fun region hregion => ?_)
    exact representable_serializeRegion (hnumbers.2 region hregion)
  have htimings : Json.Representable isValidUtf8
      (.array (result.timings.map (serializeTiming (D := D)))) := by
    refine .array (List.forall_mem_map.mpr fun timing _ => ?_)
    apply Json.Representable.objectOf (by simp)
    simp [Json.Representable.unsigned]
  have hprovenance : Json.Representable isValidUtf8
      (serializeProvenance result.provenance : Json D) := by
    simp only [Provenance.texts, List.forall_mem_cons] at htexts
    obtain ⟨hschema, hrun, hprofile, hgenerator, htime, -⟩ := htexts
    apply Json.Representable.objectOf (by simp)
    simp [Json.Representable.string hschema, Json.Representable.string hrun,
      Json.Representable.string hprofile, Json.Representable.string hgenerator,
      Json.Representable.string htime, Json.Representable.boolean, Json.Representable.unsigned]
  have hdiagnostics : Json.Representable isValidUtf8
      (.array (result.diagnostics.map (serializeDiagnostic (D := D)))) := by
    refine .array (List.forall_mem_map.mpr fun diagnostic hdiagnostic => ?_)
    exact representable_serializeDiagnostic (h.contexts diagnostic hdiagnostic)
  apply Json.Representable.objectOf (by simp)
  simp [Json.Representable.string hversion, hregistration, hcoverage, hdeviations, hregions,
    htimings, hprovenance, hdiagnostics]

end Representable

/-- Two lossless reports that are written as the same text are the same. -/
theorem serializeResult_inj {json : JsonLibrary D} {a b : InspectionResult D} (ha : a.Lossless)
    (hb : b.Lossless) (htexts : ∀ text ∈ a.provenance.texts, isValidUtf8 text = true)
    (htexts' : ∀ text ∈ b.provenance.texts, isValidUtf8 text = true)
    (hjson : json.Inverts (serializeResultJson a)) (hjson' : json.Inverts (serializeResultJson b))
    {text : Bytes} (h : serializeResult json a = .ok text)
    (h' : serializeResult json b = .ok text) : a = b := by
  obtain ⟨written, hdump, hparse⟩ := hjson (representable_serializeResultJson ha htexts)
  obtain ⟨written', hdump', hparse'⟩ := hjson' (representable_serializeResultJson hb htexts')
  unfold serializeResult at h h'
  rw [hdump] at h
  rw [hdump'] at h'
  obtain rfl := Except.ok.inj h
  obtain rfl := Except.ok.inj h'
  rw [hparse] at hparse'
  exact serializeResultJson_inj ha hb (Except.ok.inj hparse')

end

theorem inRange_half : inRange 0 1 (.fin (1 / 2) : Exact ℚ) := by decide +kernel

theorem nonnegativeFinite_quarter : nonnegativeFinite (.fin (1 / 4) : Exact ℚ) := by
  decide +kernel

theorem nonnegativeFinite_zero : nonnegativeFinite (.fin 0 : Exact ℚ) := by decide +kernel

theorem inRange_noTurn : inRange 0 (lit 180) (.fin 0 : Exact ℚ) := by decide +kernel

/-- A registration that did not converge. -/
def exactUnconverged : Registered (Exact ℚ) where
  initial := exactIdentity
  diagnostics := []
  metrics := ⟨exactIdentity, .notConverged, 4, 6, .fin (1 / 2), .fin (1 / 4), .fin 0, .fin 0,
    inRange_half, nonnegativeFinite_quarter, nonnegativeFinite_zero, inRange_noTurn⟩
  actualBackend := .cpu

/-- Its report, field by field. -/
def exactReport : InspectionResult (Exact ℚ) where
  verdict := .indeterminate
  registration := ⟨some exactIdentity, some exactIdentity, 4, false, 6, .fin (1 / 2), .fin (1 / 4),
    "not_converged", .pointToPoint, .cpu, .cpu⟩
  coverage := ⟨0, 0, .fin 0, 0, 0, 0⟩
  deviations := ⟨0, .fin 0, .fin 0, .fin 0, .fin 0, 0, 0, 0, 0, 0⟩
  regions := []
  timings := [⟨.normalize, 0⟩, ⟨.preprocess, 0⟩, ⟨.registration, 0⟩]
  provenance := ⟨utf8 "1.0", [], utf8 "plate", utf8 "0.1.0", [], true, 1, 0⟩
  diagnostics := [⟨.registrationFailed, .registrationGate, "registration did not converge", []⟩]

def reportLibrary : JsonLibrary (Exact ℚ) :=
  .sample (serializeResultJson exactReport)
    ("\x7b\"coverage\":\x7b\"coverage_ratio\":0.0,\"covered_count\":0,\"input_invalid\":0," ++
    "\"no_neighbor\":0,\"scan_boundary\":0,\"valid_count\":0\x7d,\"deviations\":\x7b\"input" ++
    "_invalid\":0,\"max_abs_mm\":0.0,\"mean_signed_mm\":0.0,\"no_neighbor\":0,\"normal_mism" ++
    "atch\":0,\"normal_missing\":0,\"p95_abs_mm\":0.0,\"reference_boundary\":0,\"rms_mm\":0" ++
    ".0,\"valid_count\":0\x7d,\"diagnostics\":[\x7b\"code\":\"registration_failed\"," ++
    "\"context\":\x7b\x7d,\"message\":\"registration did not converge\",\"stage\":\"registr" ++
    "ation_gate\"\x7d],\"provenance\":\x7b\"deterministic\":true,\"generator_version\":\"0." ++
    "1.0\",\"profile\":\"plate\",\"random_seed\":0,\"run_id\":\"\",\"schema_version\":\"1.0" ++
    "\",\"thread_count\":1,\"timestamp_utc\":\"\"\x7d,\"regions\":[],\"registration\":\x7b\"" ++
    "actual_backend\":\"cpu\",\"converged\":false,\"execution_scope\":\"cpu\",\"final_pose\"" ++
    ":\x7b\"matrix\":[1.0,0.0,0.0,0.0,0.0,1.0,0.0,0.0,0.0,0.0,1.0,0.0,0.0,0.0,0.0,1.0]," ++
    "\"source_frame\":\"r\",\"target_frame\":\"r\"\x7d,\"initial_pose\":\x7b\"matrix\":[1.0" ++
    ",0.0,0.0,0.0,0.0,1.0,0.0,0.0,0.0,0.0,1.0,0.0,0.0,0.0,0.0,1.0],\"source_frame\":\"r\"," ++
    "\"target_frame\":\"r\"\x7d,\"inlier_rmse_mm\":0.25,\"iterations\":4,\"method\":\"point" ++
    "_to_point\",\"overlap_ratio\":0.5,\"requested_backend\":\"cpu\",\"rmse_metric\":\"eucl" ++
    "idean_mm\",\"termination_reason\":\"not_converged\",\"valid_pairs\":6\x7d,\"schema_ver" ++
    "sion\":\"1.0\",\"timings\":[\x7b\"duration_us\":0,\"stage\":\"normalize\"\x7d," ++
    "\x7b\"duration_us\":0,\"stage\":\"preprocess\"\x7d,\x7b\"duration_us\":0,\"stage\":\"r" ++
    "egistration\"\x7d],\"verdict\":\"indeterminate\"\x7d")

/-- The report of a registration that ended before it had a pose. -/
def poselessReport : InspectionResult (Exact ℚ) :=
  { exactReport with
    registration := { exactReport.registration with initialPose := none, finalPose := none } }

theorem exactReport_lossless : exactReport.Lossless where
  numbers := by decide +kernel
  counts := by decide +kernel
  contexts := by decide +kernel

theorem poselessReport_lossless : poselessReport.Lossless where
  numbers := by decide +kernel
  counts := by decide +kernel
  contexts := by decide +kernel

theorem exactReport_texts :
    ∀ text ∈ exactReport.provenance.texts, isValidUtf8 text = true := by
  decide +kernel

/-- The report that the gate's rejection builds is the one its text tells, and no library writes it
as the report without poses. -/
theorem serializeResult_inj_rejected :
    rejectedReport exactClock exactLimits exactRequest exactUnconverged = exactReport ∧
      ¬ ∃ (json : JsonLibrary (Exact ℚ)) (text : Bytes),
        json.Inverts (serializeResultJson poselessReport) ∧
        json.Inverts (serializeResultJson exactReport) ∧
        serializeResult json poselessReport = .ok text ∧
        serializeResult json exactReport = .ok text := by
  constructor
  · have hwritten : serializeResultJson (rejectedReport exactClock exactLimits exactRequest
        exactUnconverged) = serializeResultJson exactReport := by rfl
    have hlossless : (rejectedReport exactClock exactLimits exactRequest
        exactUnconverged).Lossless :=
      ⟨by decide +kernel, by decide +kernel, by decide +kernel⟩
    have hjson' : reportLibrary.Inverts (serializeResultJson exactReport) :=
      fun _ => ⟨_, rfl, rfl⟩
    have hjson : reportLibrary.Inverts (serializeResultJson (rejectedReport exactClock exactLimits
        exactRequest exactUnconverged)) := by
      rw [hwritten]
      exact hjson'
    exact serializeResult_inj hlossless exactReport_lossless (by decide +kernel) exactReport_texts
      hjson hjson' rfl rfl
  · rintro ⟨json, text, hposeless, hposed, h, h'⟩
    have hsame := serializeResult_inj poselessReport_lossless exactReport_lossless exactReport_texts
      exactReport_texts hposeless hposed h h'
    exact absurd (congrArg (fun report => report.registration.finalPose.isSome) hsame)
      Bool.false_ne_true

end PointcloudAd
