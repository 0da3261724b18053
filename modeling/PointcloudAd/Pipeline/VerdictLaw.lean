import PointcloudAd.Detection.Components
import PointcloudAd.Pipeline.CachedInspection

/-!
# The verdict of a run

Which components of candidates make a verdict a failure. Clustering, the size filter, the running
maximum of a region and its severity come together here.
-/

namespace PointcloudAd

open Library Registration

variable {F D : Type} [FloatArith F] [FloatArith D] [Floats F D]

/-- The deviation from which on a region is rejected. -/
def rejectionBound (config : ValidatedDetectionConfig D) : D :=
  lit 2 * stdMax config.positiveThresholdMm (-config.negativeThresholdMm)

/-- A component of enough candidates one of which deviates too far. -/
def SevereComponent (host : Host F D) (scan : SurfaceView F) (field : DeviationField D)
    (config : ValidatedDetectionConfig D) (selected : DeviationSample D → Bool) : Prop :=
  ∃ component : (candidateGraph host.pcl scan (candidateIndices field.samples selected)
      config.clusterToleranceMm).ConnectedComponent,
    config.minClusterPoints.toNat ≤ component.supp.ncard ∧ ∃ k ∈ component.supp,
      rejectionBound config ≤ FloatArith.abs
        (field.samples.getD (candidateIndices field.samples selected)[k] default).signedMm

/-- A component of enough reference samples without a neighbour. -/
def MissingComponent (host : Host F D) (reference : SurfaceView F) (field : CoverageField D)
    (config : ValidatedDetectionConfig D) : Prop :=
  ∃ component : (candidateGraph host.pcl reference (candidateIndices field.samples isMissing)
      config.clusterToleranceMm).ConnectedComponent,
    config.minClusterPoints.toNat ≤ component.supp.ncard

section Clusters

variable {host : Host F D} {scan : SurfaceView F} {config : ValidatedDetectionConfig D}
  {clusters : List DefectCluster}

theorem exists_severe_cluster_iff [OrderedFloat D] (hpcl : host.pcl.SearchesInRange)
    {field : DeviationField D} {type : DefectType} {selected : DeviationSample D → Bool}
    (hselected : ∀ sample, selected sample = true → sample.signedMm ≤ sample.signedMm)
    (h : clusterCandidates host scan type (candidateIndices field.samples selected) config =
      .ok clusters) :
    (∃ cluster ∈ clusters, rejectionBound config ≤
        (summarizeSigned F (signedDeviations field cluster)).maxAbs) ↔
      SevereComponent host scan field config selected := by
  unfold SevereComponent
  rw [← exists_clusterCandidates_iff hpcl h fun i =>
    rejectionBound config ≤ FloatArith.abs (field.samples.getD i default).signedMm]
  refine exists_congr fun cluster => and_congr_right fun hc => ?_
  have hne : signedDeviations field cluster ≠ [] := by
    unfold signedDeviations
    rw [ne_eq, List.map_eq_nil_iff]
    exact (type_of_cluster h hc).2
  have hnumbers : ∀ v ∈ signedDeviations field cluster, v ≤ v := by
    intro v hv
    obtain ⟨i, hi, rfl⟩ := List.mem_map.mp hv
    exact hselected _ (mem_candidateIndices.mp (mem_candidates_of_cluster h hc i hi)).2
  rw [le_maxAbs_iff hne hnumbers]
  simp [signedDeviations]

omit [Floats F D] in
theorem exists_missing_cluster_iff (hpcl : host.pcl.SearchesInRange) {field : CoverageField D}
    (h : clusterCandidates host scan .missingMaterial (candidateIndices field.samples isMissing)
      config = .ok clusters) :
    (∃ cluster, cluster ∈ clusters) ↔ MissingComponent host scan field config := by
  unfold MissingComponent
  have hiff := exists_clusterCandidates_iff hpcl h fun _ => True
  simp only [and_true] at hiff
  constructor
  · rintro ⟨cluster, hc⟩
    obtain ⟨i, hi⟩ := List.exists_mem_of_ne_nil _ (type_of_cluster h hc).2
    obtain ⟨component, hmin, -⟩ := hiff.mp ⟨cluster, hc, i, hi⟩
    exact ⟨component, hmin⟩
  · rintro ⟨component, hmin⟩
    obtain ⟨cluster, hc, -⟩ := hiff.mpr ⟨component, hmin, component.nonempty_supp⟩
    exact ⟨cluster, hc⟩

end Clusters

omit [FloatArith F] [Floats F D] in
theorem rated_reject_iff {config : ValidatedDetectionConfig D} {region : DefectRegion D} :
    (rated config region).severity = .reject ↔
      region.type = .missingMaterial ∨ rejectionBound config ≤ region.maxAbsMm := by
  unfold rated defaultSeverity rejectionBound
  dsimp only
  split_ifs with htype hmax
  · simp [htype]
  · simp [hmax]
  · simp [htype, hmax]

/-- A region is rejected exactly when a component of its class is severe or misses material. -/
theorem detectDefects_reject_iff [OrderedFloat D] {host : Host F D}
    (hpcl : host.pcl.SearchesInRange) {config : ValidatedInspectionConfig D}
    {reference : SurfaceView F} {comparison : Comparison F D} {regions : List (DefectRegion D)}
    (h : detectDefects host config reference comparison = .ok regions) :
    (∃ region ∈ regions, region.severity = .reject) ↔
      SevereComponent host comparison.alignedScan.view comparison.deviation config.detection
          (exceedsPositive config.detection.positiveThresholdMm) ∨
        SevereComponent host comparison.alignedScan.view comparison.deviation config.detection
          (exceedsNegative config.detection.negativeThresholdMm) ∨
        MissingComponent host reference comparison.coverage config.detection := by
  unfold detectDefects at h
  simp only [bind_ok_iff, pure, Except.pure, Except.ok.injEq] at h
  obtain ⟨clusters, hclusters, holes, hholes, deviationRegions, hdeviation,
    missingRegions, hmissing,
    rfl⟩ := h
  obtain ⟨bumps, dents, hbumps, hdents, rfl⟩ := clusterDeviationDefects_ok hclusters
  have hholes := clusterMissingMaterial_ok hholes
  have hpositive : ∀ sample : DeviationSample D,
      exceedsPositive config.detection.positiveThresholdMm sample = true →
        sample.signedMm ≤ sample.signedMm := by
    intro sample hs
    simp only [exceedsPositive, Bool.and_eq_true, decide_eq_true_eq] at hs
    exact OrderedFloat.le_right (OrderedFloat.lt_iff.mp hs.2).1
  have hnegative : ∀ sample : DeviationSample D,
      exceedsNegative config.detection.negativeThresholdMm sample = true →
        sample.signedMm ≤ sample.signedMm := by
    intro sample hs
    simp only [exceedsNegative, Bool.and_eq_true, decide_eq_true_eq] at hs
    exact OrderedFloat.le_left (OrderedFloat.lt_iff.mp hs.2).1
  rw [← exists_severe_cluster_iff hpcl hpositive hbumps,
    ← exists_severe_cluster_iff hpcl hnegative hdents, ← exists_missing_cluster_iff hpcl hholes]
  have hdeviationRegions : (∃ region ∈ deviationRegions,
        (rated config.detection region).severity = .reject) ↔
      ∃ cluster ∈ bumps ++ dents, rejectionBound config.detection ≤
        (summarizeSigned F (signedDeviations comparison.deviation cluster)).maxAbs := by
    rw [exists_mapM_iff hdeviation]
    constructor
    · rintro ⟨⟨cluster, id⟩, hentry, region, hregion, hreject⟩
      have hc := List.fst_mem_of_mem_zipIdx hentry
      obtain ⟨htype, hmax, -⟩ := measureDeviationRegion_ok hregion
      refine ⟨cluster, hc, ?_⟩
      rw [← hmax]
      refine (rated_reject_iff.mp hreject).resolve_left ?_
      rw [htype]
      rcases List.mem_append.mp hc with hc | hc
      · rw [(type_of_cluster hbumps hc).1]
        decide
      · rw [(type_of_cluster hdents hc).1]
        decide
    · rintro ⟨cluster, hc, hbound⟩
      obtain ⟨id, hid, he⟩ := List.mem_iff_getElem.mp hc
      have hentry : (cluster, id) ∈ (bumps ++ dents).zipIdx :=
        List.mk_mem_zipIdx_iff_getElem?.mpr (List.getElem?_eq_some_iff.mpr ⟨hid, he⟩)
      obtain ⟨region, hregion⟩ := ok_of_mapM hdeviation _ hentry
      refine ⟨_, hentry, region, hregion, rated_reject_iff.mpr (.inr ?_)⟩
      rwa [(measureDeviationRegion_ok hregion).2.1]
  have hmissingRegions : (∃ region ∈ missingRegions,
        (rated config.detection region).severity = .reject) ↔ ∃ cluster, cluster ∈ holes := by
    rw [exists_mapM_iff hmissing]
    constructor
    · rintro ⟨⟨cluster, id⟩, hentry, -⟩
      exact ⟨cluster, List.fst_mem_of_mem_zipIdx hentry⟩
    · rintro ⟨cluster, hc⟩
      obtain ⟨id, hid, he⟩ := List.mem_iff_getElem.mp hc
      have hentry : (cluster, (bumps ++ dents).length + id) ∈
          holes.zipIdx (bumps ++ dents).length :=
        List.mk_add_mem_zipIdx_iff_getElem?.mpr (List.getElem?_eq_some_iff.mpr ⟨hid, he⟩)
      obtain ⟨region, hregion⟩ := ok_of_mapM hmissing _ hentry
      refine ⟨_, hentry, region, hregion, rated_reject_iff.mpr (.inl ?_)⟩
      rw [measureMissingRegion_ok hregion]
      exact (type_of_cluster hholes hc).1
  simp only [List.mem_map, exists_exists_and_eq_and, List.mem_append, or_and_right, exists_or]
  rw [hdeviationRegions, hmissingRegions]
  simp only [List.mem_append, or_and_right, exists_or, or_assoc]

omit [FloatArith D] in
theorem finalVerdict_indeterminate_iff {coverageFailed : Bool} {validCount : ℕ}
    {regions : List (DefectRegion D)} :
    finalVerdict coverageFailed validCount regions = .indeterminate ↔
      coverageFailed = true ∨ validCount = 0 := by
  unfold finalVerdict
  split_ifs with h hreject <;> simp_all

omit [FloatArith D] in
theorem finalVerdict_fail_iff {coverageFailed : Bool} {validCount : ℕ}
    {regions : List (DefectRegion D)}
    (h : finalVerdict coverageFailed validCount regions ≠ .indeterminate) :
    finalVerdict coverageFailed validCount regions = .fail ↔
      ∃ region ∈ regions, region.severity = .reject := by
  rw [ne_eq, finalVerdict_indeterminate_iff] at h
  unfold finalVerdict
  rw [if_neg h]
  split_ifs with hreject <;> simpa using hreject

theorem compare_validCount {run : RegisteredRun F D} {host : Host F D} {scheduler : Scheduler}
    {config : ValidatedInspectionConfig D} {comparison : Comparison F D}
    (h : run.compare host scheduler config = .ok comparison) :
    (summarizeDeviation F comparison.deviation).validCount = comparison.deviation.validCount := by
  unfold RegisteredRun.compare compareSurfaces at h
  simp only [bind_ok_iff, pure, Except.pure, Except.ok.injEq] at h
  obtain ⟨alignedScan, -, deviation, hdeviation, coverage, -, rfl⟩ := h
  exact (computeDeviationField_validCount alignedScan.shaped hdeviation).symm

/-- The verdict of every completed run. -/
theorem run_verdict [OrderedFloat D] {host : Host F D} (hpcl : host.pcl.SearchesInRange)
    {pipeline : InspectionPipeline D} {scheduler : Scheduler} {clock : Clock}
    {reference scan : SurfaceView F} {request : InspectionRequest D} {report : InspectionResult D}
    (h : pipeline.run host scheduler clock reference scan request = .ok report) :
    ∃ run, runToRegistration host scheduler pipeline.config reference scan request = .ok run ∧
      (run.accepted pipeline.config = false →
        report.verdict = .indeterminate ∧ report.regions = []) ∧
      (run.accepted pipeline.config = true →
        ∃ comparison, run.compare host scheduler pipeline.config = .ok comparison ∧
          (report.verdict = .indeterminate ↔
            comparison.coverage.coverageRatio < pipeline.config.comparison.minValidCoverageRatio ∨
              comparison.deviation.validCount = 0) ∧
          (report.verdict ≠ .indeterminate → (report.verdict = .fail ↔
            SevereComponent host comparison.alignedScan.view comparison.deviation
                pipeline.config.detection
                (exceedsPositive pipeline.config.detection.positiveThresholdMm) ∨
              SevereComponent host comparison.alignedScan.view comparison.deviation
                pipeline.config.detection
                (exceedsNegative pipeline.config.detection.negativeThresholdMm) ∨
              MissingComponent host run.reference.surface.view comparison.coverage
                pipeline.config.detection))) := by
  unfold InspectionPipeline.run at h
  rw [runImpl_eq] at h
  obtain ⟨run, hrun, hinspect⟩ := bind_ok_iff.mp h
  refine ⟨run, hrun, fun hrejected => ?_, fun haccepted => ?_⟩
  · rw [RegisteredRun.inspect_rejected hrejected] at hinspect
    obtain rfl := Except.ok.inj hinspect
    exact ⟨rfl, rfl⟩
  · rw [RegisteredRun.inspect_accepted haccepted] at hinspect
    obtain ⟨comparison, hcompare, hreport⟩ := bind_ok_iff.mp hinspect
    obtain ⟨regions, hregions, rfl⟩ := map_ok_iff.mp hreport
    refine ⟨comparison, hcompare, ?_, fun hverdict => ?_⟩
    · refine finalVerdict_indeterminate_iff.trans ?_
      rw [compare_validCount hcompare, coverageFailed, decide_eq_true_eq]
      rfl
    · rw [← detectDefects_reject_iff hpcl hregions]
      exact finalVerdict_fail_iff hverdict

theorem exactHost_searchesInRange : exactHost.pcl.SearchesInRange := by
  intro cloud point radius found hfound entry hentry
  obtain rfl := Except.ok.inj hfound
  have hmem := List.mem_of_mem_filter hentry
  unfold rankedByDistance at hmem
  rw [List.mem_insertionSort] at hmem
  obtain ⟨index, hindex, rfl⟩ := List.mem_map.mp hmem
  rw [List.mem_range] at hindex
  exact ⟨Int.natCast_nonneg index, Int.ofNat_lt.mpr hindex⟩

/-- A flat grid with its middle point lifted by one millimetre. -/
def exactBump : SurfaceView (Exact ℚ) :=
  exactGrid 3 3 3 true fun row column => if row = 1 ∧ column = 1 then 1 else 0

def exactBumpVerdict : Result Verdict := do
  let pipeline ← InspectionPipeline.create exactConfig
  let report ← pipeline.run exactHost .sequential exactClock (exactGrid 3 3 3 true fun _ _ => 0)
    exactBump exactRequest
  return report.verdict

/-- A bump of one point, twice as high as the threshold, fails. -/
theorem run_verdict_bump : ∃ (pipeline : InspectionPipeline (Exact ℚ))
    (report : InspectionResult (Exact ℚ)) (run : RegisteredRun (Exact ℚ) (Exact ℚ))
    (comparison : Comparison (Exact ℚ) (Exact ℚ)),
    InspectionPipeline.create exactConfig = .ok pipeline ∧
    pipeline.run exactHost .sequential exactClock (exactGrid 3 3 3 true fun _ _ => 0) exactBump
      exactRequest = .ok report ∧
    report.verdict = .fail ∧
    run.compare exactHost .sequential pipeline.config = .ok comparison ∧
    (SevereComponent exactHost comparison.alignedScan.view comparison.deviation
        pipeline.config.detection (exceedsPositive pipeline.config.detection.positiveThresholdMm) ∨
      SevereComponent exactHost comparison.alignedScan.view comparison.deviation
        pipeline.config.detection (exceedsNegative pipeline.config.detection.negativeThresholdMm) ∨
      MissingComponent exactHost run.reference.surface.view comparison.coverage
        pipeline.config.detection) := by
  have hverdict : exactBumpVerdict = .ok .fail := by decide +kernel
  simp only [exactBumpVerdict, bind_ok_iff, pure, Except.pure, Except.ok.injEq] at hverdict
  obtain ⟨pipeline, hpipeline, report, hreport, hfail⟩ := hverdict
  obtain ⟨run, -, hrejected, haccepted⟩ := run_verdict exactHost_searchesInRange hreport
  cases hgate : run.accepted pipeline.config with
  | false =>
    have hindeterminate := (hrejected hgate).1
    rw [hfail] at hindeterminate
    cases hindeterminate
  | true =>
    obtain ⟨comparison, hcompare, -, hlaw⟩ := haccepted hgate
    refine ⟨pipeline, report, run, comparison, hpipeline, hreport, hfail, hcompare, ?_⟩
    exact (hlaw (by rw [hfail]; decide)).mp hfail

end PointcloudAd
