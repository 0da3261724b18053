import PointcloudAd.Pipeline.Contracts
import PointcloudAd.Pipeline.VerdictLaw

/-!
# Limits that refuse less

Two configurations that measure alike and differ in their limits only. When the limits of one
refuse no more than those of the other, a scan that passes under the strict ones passes under the
loose ones: candidates become fewer, their components smaller, and no severity is raised.
-/

namespace PointcloudAd

open Library Registration

/-- Negation reverses the order and doubling keeps it. -/
class OrderedScaling (α : Type) [FloatArith α] : Prop extends OrderedFloat α where
  neg_le_neg {a b : α} : a ≤ b → -b ≤ -a
  double_le_double {a b : α} : a ≤ b → lit 2 * a ≤ lit 2 * b

theorem exact_double {K : Type} [LinearOrder K] [Field K] [FieldFunctions K]
    [IsStrictOrderedRing K] (a : Exact K) :
    (lit 2 : Exact K) * a = match a with
      | .fin a => .fin (2 * a)
      | .inf negative => .inf negative
      | .nan => .nan := by
  change Exact.mul (.fin _) a = _
  cases a with
  | fin a => simp [Exact.mul]
  | inf negative =>
    have hpositive : ¬ (2 : K) < 0 := not_lt.mpr zero_le_two
    simp [Exact.mul, hpositive]
  | nan => rfl

instance {K : Type} [LinearOrder K] [Field K] [FieldFunctions K] [IsStrictOrderedRing K] :
    OrderedScaling (Exact K) where
  neg_le_neg {a b} h := by
    change Exact.le (Exact.neg b) (Exact.neg a) = true
    change Exact.le a b = true at h
    cases a <;> cases b <;> simp_all [Exact.le, Exact.neg, or_comm]
  double_le_double {a b} h := by
    rw [exact_double, exact_double]
    change Exact.le a b = true at h
    change Exact.le _ _ = true
    cases a <;> cases b <;> simp_all [Exact.le]

/-- A search within a positive radius returns the points of its cloud that are near, whatever else
is in the cloud, and what is near stays near within a larger radius. -/
structure Pcl.FindsWithin {F D : Type} [FloatArith F] [FloatArith D] (pcl : Pcl F D)
    (near : Vec3 F → Vec3 F → D → Prop) : Prop where
  found_iff : ∀ {cloud point radius found}, 0 < radius →
    pcl.radiusSearch cloud point radius = .ok found → ∀ index < cloud.length,
      (index : ℤ) ∈ found.map Prod.fst ↔ near point (cloud.getD index default) radius
  grows : ∀ {p q : Vec3 F} {r r' : D}, 0 < r → r ≤ r' → near p q r → near p q r'

variable {F D : Type} [FloatArith F] [FloatArith D]

section Searches

variable {pcl : Pcl F D} {near : Vec3 F → Vec3 F → D → Prop} {surface : SurfaceView F}
  {candidates : List ℕ} {tolerance : D}

/-- The searches of two candidates connect them exactly when they are near. -/
theorem returns_iff (hpcl : pcl.NeverThrows) (hnear : pcl.FindsWithin near)
    (hpositive : 0 < tolerance) (a b : Fin candidates.length) :
    Returns pcl (candidateCloud surface candidates) tolerance a b ↔
      near (surface.points.getD (candidates.get a) default)
        (surface.points.getD (candidates.get b) default) tolerance := by
  have hcloud : ∀ k : Fin candidates.length, (candidateCloud surface candidates).getD k default =
      surface.points.getD (candidates.get k) default := by
    intro k
    simp [candidateCloud, List.getD_eq_getElem?_getD]
  have hb : (b : ℕ) < (candidateCloud surface candidates).length := by
    simp [candidateCloud]
  obtain ⟨found, hfound⟩ := hpcl.radiusSearch (candidateCloud surface candidates)
    ((candidateCloud surface candidates).getD a default) tolerance
  have hiff := hnear.found_iff hpositive hfound b hb
  rw [hcloud, hcloud] at hiff
  rw [← hiff]
  unfold Returns candidateNeighbors
  rw [hfound]
  simp [Except.map]

end Searches

section Candidates

variable {fewer more : List ℕ}

/-- The position of a candidate in a list that has more of them. -/
def positionIn (h : ∀ i ∈ fewer, i ∈ more) (k : Fin fewer.length) : Fin more.length :=
  ⟨more.idxOf (fewer.get k), List.idxOf_lt_length_of_mem (h _ (List.get_mem fewer k))⟩

theorem get_positionIn (h : ∀ i ∈ fewer, i ∈ more) (k : Fin fewer.length) :
    more.get (positionIn h k) = fewer.get k :=
  List.getElem_idxOf (positionIn h k).2

theorem positionIn_injective (h : ∀ i ∈ fewer, i ∈ more) (hnodup : fewer.Nodup) :
    Function.Injective (positionIn h) := by
  intro j k hjk
  have hsame : fewer.get j = fewer.get k := by
    rw [← get_positionIn h j, ← get_positionIn h k]
    simp only [hjk]
  exact Fin.ext (hnodup.getElem_inj_iff.mp hsame)

variable {pcl : Pcl F D} {near : Vec3 F → Vec3 F → D → Prop} {tolerance tolerance' : D}

/-- A component of fewer candidates, linked within a smaller radius, lies in a component. -/
theorem exists_larger_component [OrderedFloat D] (hpcl : pcl.NeverThrows)
    (hnear : pcl.FindsWithin near) (surface : SurfaceView F) (hpositive : 0 < tolerance')
    (htolerance : tolerance' ≤ tolerance) (hfewer : ∀ i ∈ fewer, i ∈ more) (hnodup : fewer.Nodup)
    (component : (candidateGraph pcl surface fewer tolerance').ConnectedComponent) :
    ∃ larger : (candidateGraph pcl surface more tolerance).ConnectedComponent,
      component.supp.ncard ≤ larger.supp.ncard ∧
        ∀ k ∈ component.supp, ∃ j ∈ larger.supp, more.get j = fewer.get k := by
  have hreturns : ∀ a b : Fin fewer.length,
      Returns pcl (candidateCloud surface fewer) tolerance' a b →
      Returns pcl (candidateCloud surface more) tolerance (positionIn hfewer a)
        (positionIn hfewer b) := by
    intro a b h
    rw [returns_iff hpcl hnear hpositive] at h
    rw [returns_iff hpcl hnear (lt_le_trans hpositive htolerance)]
    rw [get_positionIn, get_positionIn]
    exact hnear.grows hpositive htolerance h
  have hinjective := positionIn_injective hfewer hnodup
  let f : candidateGraph pcl surface fewer tolerance' →g
      candidateGraph pcl surface more tolerance :=
    { toFun := positionIn hfewer
      map_rel' := by
        intro a b hadj
        obtain ⟨hne, hlinked⟩ := (SimpleGraph.fromRel_adj ..).mp hadj
        exact (SimpleGraph.fromRel_adj ..).mpr
          ⟨hinjective.ne hne, hlinked.imp (hreturns a b) (hreturns b a)⟩ }
  refine ⟨component.map f, ncard_supp_le_map f hinjective component, fun k hk => ?_⟩
  exact ⟨f k, map_mem_supp f hk, get_positionIn hfewer k⟩

variable {α : Type} [Inhabited α]

omit [FloatArith F] [FloatArith D] in
theorem candidateIndices_mono {samples : List α} {selected selected' : α → Bool}
    (h : ∀ sample, selected' sample = true → selected sample = true) :
    ∀ i ∈ candidateIndices samples selected', i ∈ candidateIndices samples selected := by
  intro i hi
  obtain ⟨hlt, hselected⟩ := mem_candidateIndices.mp hi
  exact mem_candidateIndices.mpr ⟨hlt, h _ hselected⟩

end Candidates

/-- The limits of `loose` refuse no more than those of `strict`: its gates ask for less, it accepts
larger deviations, links less and needs more points for a region. Both measure alike. -/
structure RelaxedLimits (strict loose : ValidatedInspectionConfig D) : Prop where
  preprocess : loose.preprocess = strict.preprocess
  registration : loose.registration = strict.registration
  execution : loose.execution = strict.execution
  searchDistance : loose.comparison.maxSearchDistanceMm = strict.comparison.maxSearchDistanceMm
  normalAngle : loose.comparison.maxNormalAngleDeg = strict.comparison.maxNormalAngleDeg
  overlap : loose.registrationGate.minOverlapRatio ≤ strict.registrationGate.minOverlapRatio
  residual : strict.registrationGate.maxInlierRmseMm ≤ loose.registrationGate.maxInlierRmseMm
  pairs : loose.registrationGate.minValidPairs ≤ strict.registrationGate.minValidPairs
  translation : strict.registrationGate.maxTranslationFromInitialMm ≤
    loose.registrationGate.maxTranslationFromInitialMm
  rotation : strict.registrationGate.maxRotationFromInitialDeg ≤
    loose.registrationGate.maxRotationFromInitialDeg
  coverage : loose.comparison.minValidCoverageRatio ≤ strict.comparison.minValidCoverageRatio
  positiveThreshold : strict.detection.positiveThresholdMm ≤ loose.detection.positiveThresholdMm
  negativeThreshold : loose.detection.negativeThresholdMm ≤ strict.detection.negativeThresholdMm
  tolerance : loose.detection.clusterToleranceMm ≤ strict.detection.clusterToleranceMm
  clusterPoints : strict.detection.minClusterPoints ≤ loose.detection.minClusterPoints

section Limits

variable {strict loose : ValidatedInspectionConfig D}

theorem RelaxedLimits.evaluateGate_passed [OrderedFloat D] (h : RelaxedLimits strict loose)
    {metrics : RegistrationMetrics D}
    (hpassed : (evaluateGate metrics strict.registrationGate).passed = true) :
    (evaluateGate metrics loose.registrationGate).passed = true := by
  have hpairs : loose.registrationGate.minValidPairs.toNat ≤
      strict.registrationGate.minValidPairs.toNat := UInt32.le_iff_toNat_le.mp h.pairs
  unfold evaluateGate at hpassed ⊢
  split_ifs at hpassed with hconverged hfew hoverlap hresidual htranslation hrotation
  all_goals try exact absurd hpassed (by decide)
  rw [if_neg hconverged, if_neg fun hlt => hfew (lt_of_lt_of_le hlt hpairs),
    if_neg fun hlt => hoverlap (lt_le_trans hlt h.overlap),
    if_neg fun hlt => hresidual (le_lt_trans h.residual hlt),
    if_neg fun hlt => htranslation (le_lt_trans h.translation hlt),
    if_neg fun hlt => hrotation (le_lt_trans h.rotation hlt)]

theorem RelaxedLimits.rejectionBound_le [OrderedScaling D] (h : RelaxedLimits strict loose) :
    rejectionBound strict.detection ≤ rejectionBound loose.detection := by
  have hpositive := h.positiveThreshold
  have hnegative := OrderedScaling.neg_le_neg h.negativeThreshold
  have hnumber := OrderedFloat.le_right hpositive
  have hnumber' := OrderedFloat.le_right hnegative
  refine OrderedScaling.double_le_double ?_
  rw [stdMax_le_iff (OrderedFloat.le_left hpositive) (OrderedFloat.le_left hnegative),
    le_stdMax_iff hnumber hnumber', le_stdMax_iff hnumber hnumber']
  exact ⟨.inl hpositive, .inr hnegative⟩

theorem RelaxedLimits.exceedsPositive_mono [OrderedFloat D] (h : RelaxedLimits strict loose)
    (sample : DeviationSample D)
    (hs : exceedsPositive loose.detection.positiveThresholdMm sample = true) :
    exceedsPositive strict.detection.positiveThresholdMm sample = true := by
  simp only [exceedsPositive, Bool.and_eq_true, decide_eq_true_eq] at hs ⊢
  exact ⟨hs.1, le_lt_trans h.positiveThreshold hs.2⟩

theorem RelaxedLimits.exceedsNegative_mono [OrderedFloat D] (h : RelaxedLimits strict loose)
    (sample : DeviationSample D)
    (hs : exceedsNegative loose.detection.negativeThresholdMm sample = true) :
    exceedsNegative strict.detection.negativeThresholdMm sample = true := by
  simp only [exceedsNegative, Bool.and_eq_true, decide_eq_true_eq] at hs ⊢
  exact ⟨hs.1, lt_le_trans hs.2 h.negativeThreshold⟩

variable {host : Host F D} {near : Vec3 F → Vec3 F → D → Prop}

theorem RelaxedLimits.clusterPoints_toNat (h : RelaxedLimits strict loose) :
    strict.detection.minClusterPoints.toNat ≤ loose.detection.minClusterPoints.toNat :=
  UInt32.le_iff_toNat_le.mp h.clusterPoints

theorem RelaxedLimits.severeComponent [OrderedScaling D] (h : RelaxedLimits strict loose)
    (hpcl : host.pcl.NeverThrows) (hnear : host.pcl.FindsWithin near) {scan : SurfaceView F}
    {field : DeviationField D} {selected selected' : DeviationSample D → Bool}
    (hselected : ∀ sample, selected' sample = true → selected sample = true)
    (hsevere : SevereComponent host scan field loose.detection selected') :
    SevereComponent host scan field strict.detection selected := by
  obtain ⟨component, hcount, k, hk, hbound⟩ := hsevere
  obtain ⟨larger, hlarger, hmembers⟩ := exists_larger_component hpcl hnear scan
    loose.detection.clusterTolerance.2 h.tolerance (candidateIndices_mono hselected)
    (List.nodup_range.filter _) component
  obtain ⟨j, hj, hsame⟩ := hmembers k hk
  refine ⟨larger, h.clusterPoints_toNat.trans (hcount.trans hlarger), j, hj, ?_⟩
  change _ ≤ Library.abs (field.samples.getD
    ((candidateIndices field.samples selected).get j) default).signedMm
  rw [hsame]
  exact OrderedFloat.le_trans h.rejectionBound_le hbound

theorem RelaxedLimits.missingComponent [OrderedFloat D] (h : RelaxedLimits strict loose)
    (hpcl : host.pcl.NeverThrows) (hnear : host.pcl.FindsWithin near)
    {reference : SurfaceView F} {field : CoverageField D}
    (hmissing : MissingComponent host reference field loose.detection) :
    MissingComponent host reference field strict.detection := by
  obtain ⟨component, hcount⟩ := hmissing
  obtain ⟨larger, hlarger, -⟩ := exists_larger_component hpcl hnear reference
    loose.detection.clusterTolerance.2 h.tolerance (fun _ hi => hi) (List.nodup_range.filter _)
    component
  exact ⟨larger, h.clusterPoints_toNat.trans (hcount.trans hlarger)⟩

end Limits

variable [Floats F D] {strict loose : ValidatedInspectionConfig D}

theorem RelaxedLimits.runToRegistration_eq (h : RelaxedLimits strict loose) (host : Host F D)
    (scheduler : Scheduler) (reference scan : SurfaceView F) (request : InspectionRequest D) :
    runToRegistration host scheduler loose reference scan request =
      runToRegistration host scheduler strict reference scan request := by
  unfold runToRegistration prepareSurfaces prepareSurface registerScan
  simp only [h.preprocess, h.registration, h.execution]

theorem RelaxedLimits.compare_eq (h : RelaxedLimits strict loose) (run : RegisteredRun F D)
    (host : Host F D) (scheduler : Scheduler) :
    run.compare host scheduler loose = run.compare host scheduler strict := by
  have hsample : ∀ (reference : SurfaceView F) boundary scan nearest index,
      deviationSample reference boundary scan loose.comparison nearest index =
        deviationSample reference boundary scan strict.comparison nearest index := by
    intro reference boundary scan nearest index
    unfold deviationSample neighborDeviation maxNormalCosine
    simp only [h.normalAngle]
  unfold RegisteredRun.compare compareSurfaces computeDeviationField computeCoverageField
  simp only [h.searchDistance, h.execution]
  simp only [funext (hsample _ _ _ _)]

omit [FloatArith F] [FloatArith D] [Floats F D] in
theorem finalVerdict_pass_iff {coverageFailed : Bool} {validCount : ℕ}
    {regions : List (DefectRegion D)} :
    finalVerdict coverageFailed validCount regions = .pass ↔
      ¬ (coverageFailed = true ∨ validCount = 0) ∧
        ¬ ∃ region ∈ regions, region.severity = .reject := by
  unfold finalVerdict
  split_ifs with h hreject <;> simp_all

theorem RelaxedLimits.measured_pass [OrderedScaling D] (h : RelaxedLimits strict loose)
    {host : Host F D} (hpcl : host.pcl.NeverThrows) (hrange : host.pcl.SearchesInRange)
    {near : Vec3 F → Vec3 F → D → Prop} (hnear : host.pcl.FindsWithin near)
    {reference : SurfaceView F} {comparison : Comparison F D}
    {regions regions' : List (DefectRegion D)}
    (hregions : detectDefects host strict reference comparison = .ok regions)
    (hregions' : detectDefects host loose reference comparison = .ok regions') {clock : Clock}
    {request : InspectionRequest D} {registered : Registered D}
    (hpass : (measuredReport F clock strict request registered comparison.deviation
      comparison.coverage regions).verdict = .pass) :
    (measuredReport F clock loose request registered comparison.deviation comparison.coverage
      regions').verdict = .pass := by
  obtain ⟨hmeasured, hkept⟩ := finalVerdict_pass_iff.mp hpass
  rw [not_or] at hmeasured
  refine finalVerdict_pass_iff.mpr ⟨not_or.mpr ⟨fun hfailed => hmeasured.1 ?_, hmeasured.2⟩, ?_⟩
  · simp only [coverageFailed, decide_eq_true_eq] at hfailed ⊢
    exact lt_le_trans hfailed h.coverage
  · rw [detectDefects_reject_iff hrange hregions] at hkept
    rw [detectDefects_reject_iff hrange hregions']
    rintro (hbump | hdent | hmissing)
    · exact hkept (.inl (h.severeComponent hpcl hnear h.exceedsPositive_mono hbump))
    · exact hkept (.inr (.inl (h.severeComponent hpcl hnear h.exceedsNegative_mono hdent)))
    · exact hkept (.inr (.inr (h.missingComponent hpcl hnear hmissing)))

/-- What passes under limits passes under limits that refuse less, measured alike. -/
theorem relaxed_pass [OrderedScaling D] {host : Host F D} (hpcl : host.pcl.NeverThrows)
    (hrange : host.pcl.SearchesInRange) {near : Vec3 F → Vec3 F → D → Prop}
    (hnear : host.pcl.FindsWithin near) {strict loose : InspectionPipeline D}
    (h : RelaxedLimits strict.config loose.config) {scheduler : Scheduler} {clock : Clock}
    {reference scan : SurfaceView F} {request : InspectionRequest D} {report : InspectionResult D}
    (hrun : strict.run host scheduler clock reference scan request = .ok report)
    (hpass : report.verdict = .pass) :
    ∃ report', loose.run host scheduler clock reference scan request = .ok report' ∧
      report'.verdict = .pass ∧ report'.registration = report.registration ∧
      report'.coverage = report.coverage ∧ report'.deviations = report.deviations := by
  unfold InspectionPipeline.run at hrun ⊢
  rw [runImpl_eq] at hrun ⊢
  obtain ⟨run, hregistered, hinspect⟩ := bind_ok_iff.mp hrun
  obtain ⟨⟨hspans, -⟩, -, -⟩ := runToRegistration_spans hregistered
  cases haccepted : run.accepted strict.config with
  | false =>
    rw [RegisteredRun.inspect_rejected haccepted] at hinspect
    obtain rfl := Except.ok.inj hinspect
    cases hpass
  | true =>
    have haccepted' : run.accepted loose.config = true := h.evaluateGate_passed haccepted
    rw [RegisteredRun.inspect_accepted haccepted] at hinspect
    obtain ⟨comparison, hcompare, hreport⟩ := bind_ok_iff.mp hinspect
    obtain ⟨regions, hregions, rfl⟩ := map_ok_iff.mp hreport
    have hcompare' : run.compare host scheduler loose.config = .ok comparison := by
      rw [h.compare_eq, hcompare]
    have hunit : comparison.alignedScan.view.unit = .millimeter := by
      unfold RegisteredRun.compare compareSurfaces at hcompare
      simp only [bind_ok_iff, pure, Except.pure, Except.ok.injEq] at hcompare
      obtain ⟨alignedScan, haligned, deviation, -, coverage, -, rfl⟩ := hcompare
      exact normalizeSurface_unit haligned
    obtain ⟨clusters, holes, hclusters, hholes⟩ := clusters_succeed hpcl hspans.unit hunit
      hcompare'
    obtain ⟨regions', hregions'⟩ := detectDefects_succeeds hspans.unit hunit hcompare' hclusters
      hholes
    refine ⟨measuredReport F clock loose.config request run.registered comparison.deviation
      comparison.coverage regions', ?_, h.measured_pass hpcl hrange hnear hregions hregions' hpass,
      ?_, rfl, rfl⟩
    · rw [h.runToRegistration_eq, hregistered]
      change run.inspect host scheduler clock loose.config request = _
      rw [RegisteredRun.inspect_accepted haccepted', hcompare']
      change Except.map _ (detectDefects host loose.config run.reference.surface.view comparison) =
        _
      rw [hregions']
      rfl
    · simp only [measuredReport, registrationResult, h.registration, h.execution]

theorem square_le_square {r r' : Exact ℚ} (hr : 0 < r) (h : r ≤ r') : r * r ≤ r' * r' := by
  change Exact.lt (.fin 0) r = true at hr
  change Exact.le r r' = true at h
  change Exact.le (Exact.mul r r) (Exact.mul r' r') = true
  cases r <;> cases r' <;> simp_all [Exact.le, Exact.lt, Exact.mul]
  exact mul_self_le_mul_self hr.1 h

theorem exactHost_findsWithin : exactHost.pcl.FindsWithin fun p q r =>
    (q.x - p.x) * (q.x - p.x) + (q.y - p.y) * (q.y - p.y) +
      (q.z - p.z) * (q.z - p.z) ≤ r * r where
  found_iff {cloud point radius found} _ hfound index hindex := by
    obtain rfl := Except.ok.inj hfound
    simp [rankedByDistance, hindex]
  grows hr h hnear := OrderedFloat.le_trans hnear (square_le_square hr h)

theorem positiveFinite_one : positiveFinite (.fin 1 : Exact ℚ) := by decide +kernel

theorem positiveFinite_half : positiveFinite (.fin (1 / 2) : Exact ℚ) := by decide +kernel

theorem negative_minusHalf :
    isFinite (.fin (-1 / 2) : Exact ℚ) = true ∧ ¬ 0 ≤ (.fin (-1 / 2) : Exact ℚ) := by
  decide +kernel

theorem onePair_ne_zero : (1 : UInt32) ≠ 0 := by decide

/-- The limits of `exactConfig`, checked. -/
def exactLimits : ValidatedInspectionConfig (Exact ℚ) where
  schemaVersion := utf8 "1.0"
  profile := utf8 "plate"
  input := ⟨.millimeter, .millimeter, exactFrame, exactFrame⟩
  preprocess := ⟨.fin 1, .fin (29 / 20), 3, .fin 2, positiveFinite_one, by decide +kernel,
    by decide +kernel, by decide +kernel⟩
  registration := ⟨4, .fin 1, .fin 1, .fin (1 / 1000), .fin (1 / 1000), .fin (1 / 1000),
    .pointToPoint, by decide +kernel, positiveFinite_one, positiveFinite_one, by decide +kernel,
    by decide +kernel, by decide +kernel⟩
  registrationGate := ⟨.fin (1 / 2), .fin 1, 1, .fin 1, .fin 1, by decide +kernel,
    positiveFinite_one, onePair_ne_zero, positiveFinite_one, by decide +kernel⟩
  comparison := ⟨.fin 1, .fin 90, .fin 0, .fin 0, positiveFinite_one, by decide +kernel,
    by decide +kernel, by decide +kernel⟩
  detection := ⟨.fin (1 / 2), .fin (-1 / 2), .fin 1, 1, .fin 0, positiveFinite_half,
    negative_minusHalf, positiveFinite_one, onePair_ne_zero, by decide +kernel, by decide +kernel,
    by decide +kernel⟩
  execution := ⟨true, 1, 0, .cpu, onePair_ne_zero⟩
  schema := rfl
  profileNonempty := by decide +kernel
  profileUtf8 := by decide +kernel

/-- Twice the thresholds, and a gate that accepts a quarter of the overlap. -/
def exactLooseLimits : ValidatedInspectionConfig (Exact ℚ) :=
  { exactLimits with
    registrationGate := ⟨.fin (1 / 4), .fin 2, 1, .fin 2, .fin 1, by decide +kernel,
      by decide +kernel, onePair_ne_zero, by decide +kernel, by decide +kernel⟩
    detection := ⟨.fin 1, .fin (-1), .fin (1 / 2), 2, .fin 0, positiveFinite_one,
      by decide +kernel, positiveFinite_half, by decide +kernel, by decide +kernel,
      by decide +kernel, by decide +kernel⟩ }

theorem exactLimits_relaxed : RelaxedLimits exactLimits exactLooseLimits where
  preprocess := rfl
  registration := rfl
  execution := rfl
  searchDistance := rfl
  normalAngle := rfl
  overlap := by decide +kernel
  residual := by decide +kernel
  pairs := by decide
  translation := by decide +kernel
  rotation := by decide +kernel
  coverage := by decide +kernel
  positiveThreshold := by decide +kernel
  negativeThreshold := by decide +kernel
  tolerance := by decide +kernel
  clusterPoints := by decide

/-- A flat grid with its middle point lifted by three quarters of a millimetre. -/
def exactRise : SurfaceView (Exact ℚ) :=
  exactGrid 3 3 3 true fun row column => if row = 1 ∧ column = 1 then 3 / 4 else 0

/-- A rise that the strict limits only warn of passes under the loose ones too. -/
theorem relaxed_pass_rise : ∃ report' : InspectionResult (Exact ℚ),
    (⟨exactLooseLimits⟩ : InspectionPipeline (Exact ℚ)).run exactHost .sequential exactClock
        (exactGrid 3 3 3 true fun _ _ => 0) exactRise exactRequest = .ok report' ∧
      report'.verdict = .pass := by
  have hverdict : ((⟨exactLimits⟩ : InspectionPipeline (Exact ℚ)).run exactHost .sequential
      exactClock (exactGrid 3 3 3 true fun _ _ => 0) exactRise exactRequest).map
        InspectionResult.verdict = .ok .pass := by decide +kernel
  obtain ⟨report, hreport, hpass⟩ := map_ok_iff.mp hverdict
  obtain ⟨report', hreport', hpass', -⟩ := relaxed_pass exactHost_neverThrows
    exactHost_searchesInRange exactHost_findsWithin
    (show RelaxedLimits (InspectionPipeline.mk exactLimits).config
      (InspectionPipeline.mk exactLooseLimits).config from exactLimits_relaxed) hreport hpass
  exact ⟨report', hreport', hpass'⟩

end PointcloudAd
