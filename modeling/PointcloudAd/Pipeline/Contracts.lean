import PointcloudAd.Detection.Components
import PointcloudAd.Pipeline.Noninterference

/-!
# Contracts after the gate

The stages after the registration gate check what the earlier ones gave them: units, spans, masks
and indices. Their checks pass in every run that gets there, so the run ends in a report.
-/

namespace PointcloudAd

open Library Registration

variable {F D : Type} [FloatArith F] [FloatArith D] [Floats F D]

omit [FloatArith F] [FloatArith D] [Floats F D] in
/-- The searches of the library do not throw. -/
structure Pcl.NeverThrows (pcl : Pcl F D) : Prop where
  nearestKSearch : ∀ cloud point k, ∃ found, pcl.nearestKSearch cloud point k = .ok found
  radiusSearch : ∀ cloud point radius, ∃ found, pcl.radiusSearch cloud point radius = .ok found

/-- What the later stages check of a prepared surface. -/
structure NormalBoundaryResult.Spans (prepared : NormalBoundaryResult F) : Prop where
  unit : prepared.surface.view.unit = .millimeter
  normals : prepared.surface.view.normals ≠ []
  boundary : prepared.boundary.length = prepared.surface.view.storageSize

theorem prepareSurface_spans {host : Host F D} {scheduler : Scheduler}
    {config : ValidatedInspectionConfig D} {surface : OwnedSurface F}
    {prepared : NormalBoundaryResult F}
    (h : prepareSurface host scheduler config surface.view = .ok prepared) : prepared.Spans := by
  have halike : Outcome PreparedAlike (prepareSurface host scheduler config surface.view)
      (prepareSurface host scheduler config surface.view) :=
    prepareNormalsAndBoundaries_related
      (.refl surface.shaped) host scheduler scheduler _ _ _ _ Iff.rfl
  rw [h] at halike
  obtain - | ⟨halike⟩ := halike
  refine ⟨?_, fun hempty => ?_, halike.boundary.left⟩
  · unfold prepareSurface prepareNormalsAndBoundaries at h
    simp only [bind_ok_iff, pure, Except.pure, Except.ok.injEq] at h
    obtain ⟨_, hcheck, _, -, output, hcreate, _, -, rfl⟩ := h
    unfold checkPreparation at hcheck
    split_ifs at hcheck with hthreads hunit
    rw [OwnedSurface.view_of_create hcreate]
    exact not_not.mp hunit
  · have hlength := halike.normals.left
    rw [hempty] at hlength
    exact prepared.surface.shaped.nonempty (List.length_eq_zero_iff.mp hlength.symm)

/-- A registered run has prepared surfaces, in the layouts of its inputs. -/
theorem runToRegistration_spans {host : Host F D} {scheduler : Scheduler}
    {config : ValidatedInspectionConfig D} {reference scan : SurfaceView F}
    {request : InspectionRequest D} {run : RegisteredRun F D}
    (h : runToRegistration host scheduler config reference scan request = .ok run) :
    (run.reference.Spans ∧ SameLayout reference run.reference.surface.view) ∧
      run.scan.Spans ∧ SameLayout scan run.scan.surface.view := by
  simp only [runToRegistration, prepareSurfaces, bind_ok_iff, pure, Except.pure,
    Except.ok.injEq] at h
  obtain ⟨_, ⟨referenceMm, hreferenceMm, scanMm, hscanMm, referencePrepared, hreference,
    scanPrepared,
    hscan, rfl⟩, _, -, _, -, rfl⟩ := h
  refine ⟨⟨prepareSurface_spans hreference, ?_⟩, prepareSurface_spans hscan, ?_⟩
  · exact (normalizeSurface_layout hreferenceMm).trans
      (prepareNormalsAndBoundaries_layout hreference)
  · exact (normalizeSurface_layout hscanMm).trans (prepareNormalsAndBoundaries_layout hscan)

section Fields

variable {host : Host F D} {reference scan : SurfaceView F} {boundary : List UInt8}
  {threads : UInt32}

theorem computeDeviationField_succeeds
    (hpcl : ∀ cloud point k, ∃ found, host.pcl.nearestKSearch cloud point k = .ok found)
    (hr : reference.Shaped) (hstorage : reference.storageSize < 2 ^ 31) (hs : scan.Shaped)
    (hreference : reference.unit = .millimeter) (hscan : scan.unit = .millimeter)
    (hnormals : reference.normals ≠ []) (hboundary : boundary.length = reference.storageSize)
    (scheduler : Scheduler) (config : ValidatedComparisonConfig D) (hthreads : threads ≠ 0) :
    ∃ field, computeDeviationField host scheduler reference boundary scan config threads =
      .ok field := by
  have hcheck : checkDeviation reference boundary scan = .ok () := by
    unfold checkDeviation
    rw [if_neg (not_not.mpr hreference), if_neg (not_not.mpr hscan), if_neg hnormals,
      if_neg fun h => h.2 hboundary]
  obtain ⟨nearest, hnearest, -⟩ := nearestNeighbors_ok hpcl hr hstorage hs scheduler
    config.maxSearchDistanceMm hthreads
  unfold computeDeviationField
  rw [hcheck, hnearest]
  exact ⟨_, rfl⟩

theorem computeCoverageField_succeeds
    (hpcl : ∀ cloud point k, ∃ found, host.pcl.nearestKSearch cloud point k = .ok found)
    (hr : reference.Shaped) (hs : scan.Shaped) (hstorage : scan.storageSize < 2 ^ 31)
    (hreference : reference.unit = .millimeter) (hscan : scan.unit = .millimeter)
    (hboundary : boundary.length = scan.storageSize)
    (scheduler : Scheduler) (config : ValidatedComparisonConfig D) (hthreads : threads ≠ 0) :
    ∃ field, computeCoverageField host scheduler reference scan boundary config threads =
      .ok field := by
  have hcheck : checkCoverage reference scan boundary = .ok () := by
    unfold checkCoverage
    rw [if_neg (not_not.mpr hreference), if_neg (not_not.mpr hscan), if_neg fun h => h.2 hboundary]
  obtain ⟨nearest, hnearest, -⟩ := nearestNeighbors_ok hpcl hs hstorage hr scheduler
    config.maxSearchDistanceMm hthreads
  unfold computeCoverageField
  rw [hcheck, hnearest]
  exact ⟨_, rfl⟩

end Fields

section Clusters

variable {host : Host F D} {surface : SurfaceView F} {config : ValidatedDetectionConfig D}

omit [Floats F D] in
theorem clusterCandidates_succeeds [OrderedFloat D]
    (hpcl : ∀ cloud point radius, ∃ found, host.pcl.radiusSearch cloud point radius = .ok found)
    (surface : SurfaceView F) (type : DefectType) (candidates : List ℕ)
    (config : ValidatedDetectionConfig D) :
    ∃ clusters, clusterCandidates host surface type candidates config = .ok clusters := by
  have htolerance : ¬ (¬ isFinite config.clusterToleranceMm ∨ config.clusterToleranceMm ≤ 0) :=
    positiveFinite.accepted config.clusterTolerance
  have hanswers : ∀ candidate < candidates.length, ∃ found, candidateNeighbors host.pcl
      (candidateCloud surface candidates) config.clusterToleranceMm candidate = .ok found := by
    intro candidate _
    obtain ⟨found, hfound⟩ := hpcl (candidateCloud surface candidates)
      ((candidateCloud surface candidates).getD candidate default) config.clusterToleranceMm
    exact ⟨_, by rw [candidateNeighbors, hfound]; rfl⟩
  obtain ⟨labels, hlabels⟩ := euclideanCluster_succeeds htolerance hanswers
  unfold clusterCandidates
  split_ifs
  · exact ⟨_, rfl⟩
  · rw [hlabels]
    exact ⟨_, rfl⟩

theorem collectSamples_succeeds (cluster : DefectCluster) (field : Option (DeviationField D))
    (hunit : surface.unit = .millimeter)
    (hfield : ∀ f ∈ field, f.samples.length = surface.storageSize)
    (hmembers : ∀ i ∈ cluster.pointIndices,
      i < surface.storageSize ∧ surface.isValidIndex i = true) :
    ∃ samples, collectSamples cluster surface field = .ok samples := by
  unfold collectSamples
  rw [if_neg (not_not.mpr hunit), if_neg fun ⟨f, hf, hne⟩ => hne (hfield f hf)]
  refine exists_mapM_ok fun i hi => ?_
  obtain ⟨hlt, hvalid⟩ := hmembers i hi
  unfold collectSample
  rw [if_neg]
  · exact ⟨_, rfl⟩
  · rintro (hge | hmasked)
    · omega
    · exact hmasked hvalid

end Clusters

section Runs

variable {host : Host F D} {scheduler : Scheduler} {config : ValidatedInspectionConfig D}
  {run : RegisteredRun F D}

variable (scheduler config) in
/-- The two comparisons of a run succeed. -/
theorem compare_succeeds (hpcl : host.pcl.NeverThrows) (hreference : run.reference.Spans)
    (hscan : run.scan.Spans)
    (hstorage : run.reference.surface.view.storageSize < 2 ^ 31)
    (hstorage' : run.scan.surface.view.storageSize < 2 ^ 31) {aligned : OwnedSurface F}
    (haligned : normalizeSurface run.scan.surface.view run.reference.surface.view.frame
      (some run.registered.metrics.finalTransform) = .ok aligned) :
    ∃ deviation coverage,
      computeDeviationField host scheduler run.reference.surface.view run.reference.boundary
          aligned.view config.comparison config.execution.threadCount = .ok deviation ∧
        computeCoverageField host scheduler run.reference.surface.view aligned.view
          run.scan.boundary
          config.comparison config.execution.threadCount = .ok coverage ∧
        run.compare host scheduler config = .ok ⟨aligned, deviation, coverage⟩ := by
  have hlayout := normalizeSurface_layout haligned
  have hunit := normalizeSurface_unit haligned
  obtain ⟨deviation, hdeviation⟩ := computeDeviationField_succeeds hpcl.nearestKSearch
    run.reference.surface.shaped hstorage aligned.shaped hreference.unit hunit hreference.normals
    hreference.boundary scheduler config.comparison config.execution.threads
  obtain ⟨coverage, hcoverage⟩ := computeCoverageField_succeeds hpcl.nearestKSearch
    run.reference.surface.shaped aligned.shaped (by rwa [← hlayout.storage]) hreference.unit hunit
    (hscan.boundary.trans hlayout.storage) scheduler config.comparison config.execution.threads
  refine ⟨deviation, coverage, hdeviation, hcoverage, ?_⟩
  unfold RegisteredRun.compare compareSurfaces
  simp only [bind_ok_iff, pure, Except.pure, Except.ok.injEq]
  exact ⟨aligned, haligned, deviation, hdeviation, coverage, hcoverage, rfl⟩

theorem measureDeviation_succeeds {comparison : Comparison F D}
    (hunit : comparison.alignedScan.view.unit = .millimeter)
    (hcompare : run.compare host scheduler config = .ok comparison) {h : Host F D}
    {clusters : List DefectCluster}
    (hclusters : clusterDeviationDefects h comparison.alignedScan.view comparison.deviation
      config.detection = .ok clusters) :
    ∀ cluster ∈ clusters, ∀ id, ∃ region, measureDeviationRegion cluster
      comparison.alignedScan.view comparison.deviation id = .ok region := by
  obtain ⟨hdeviation, -, hscan, -⟩ := compare_slots hcompare
  intro cluster hcluster id
  have hmembers : ∀ i ∈ cluster.pointIndices, i < comparison.alignedScan.view.storageSize ∧
      comparison.alignedScan.view.isValidIndex i = true := by
    intro i hi
    have hreason := reason_of_deviationCluster hclusters hcluster hi
    obtain ⟨hmem, hvalid⟩ := hscan i (by rw [hreason]; decide)
    exact ⟨comparison.alignedScan.shaped.lt hmem, hvalid⟩
  obtain ⟨samples, hsamples⟩ := collectSamples_succeeds cluster (some comparison.deviation) hunit
    (fun f hf => by rw [← Option.some.inj hf]; exact hdeviation) hmembers
  unfold measureDeviationRegion
  rw [hsamples]
  exact ⟨_, rfl⟩

theorem measureMissing_succeeds {comparison : Comparison F D}
    (hunit : run.reference.surface.view.unit = .millimeter)
    (hcompare : run.compare host scheduler config = .ok comparison) {h : Host F D}
    {holes : List DefectCluster}
    (hholes : clusterMissingMaterial h run.reference.surface.view comparison.coverage
      config.detection = .ok holes) :
    ∀ cluster ∈ holes, ∀ id, ∃ region, measureMissingRegion (D := D) cluster
      run.reference.surface.view id = .ok region := by
  obtain ⟨-, -, -, hreference⟩ := compare_slots hcompare
  intro cluster hcluster id
  have hmembers : ∀ i ∈ cluster.pointIndices, i < run.reference.surface.view.storageSize ∧
      run.reference.surface.view.isValidIndex i = true := by
    intro i hi
    have hreason := reason_of_missingCluster hholes hcluster hi
    obtain ⟨hmem, hvalid⟩ := hreference i (by rw [hreason]; decide)
    exact ⟨run.reference.surface.shaped.lt hmem, hvalid⟩
  obtain ⟨samples, hsamples⟩ := collectSamples_succeeds (D := D) cluster none hunit
    (fun f hf => by cases hf) hmembers
  unfold measureMissingRegion
  rw [hsamples]
  exact ⟨_, rfl⟩

/-- Detection over clusters that were found ends. -/
theorem detectDefects_succeeds {comparison : Comparison F D}
    (hunit : run.reference.surface.view.unit = .millimeter)
    (hunit' : comparison.alignedScan.view.unit = .millimeter)
    (hcompare : run.compare host scheduler config = .ok comparison) {h : Host F D}
    {clusters holes : List DefectCluster}
    (hclusters : clusterDeviationDefects h comparison.alignedScan.view comparison.deviation
      config.detection = .ok clusters)
    (hholes : clusterMissingMaterial h run.reference.surface.view comparison.coverage
      config.detection = .ok holes) :
    ∃ regions, detectDefects h config run.reference.surface.view comparison = .ok regions := by
  obtain ⟨deviationRegions, hdeviationRegions⟩ := exists_mapM_ok
    (f := fun entry : DefectCluster × ℕ => measureDeviationRegion entry.1
      comparison.alignedScan.view comparison.deviation entry.2) (l := clusters.zipIdx)
    fun entry hentry => measureDeviation_succeeds hunit' hcompare hclusters entry.1
      (List.fst_mem_of_mem_zipIdx hentry) entry.2
  obtain ⟨missingRegions, hmissingRegions⟩ := exists_mapM_ok
    (f := fun entry : DefectCluster × ℕ => measureMissingRegion (D := D) entry.1
      run.reference.surface.view entry.2) (l := holes.zipIdx clusters.length)
    fun entry hentry => measureMissing_succeeds hunit hcompare hholes entry.1
      (List.fst_mem_of_mem_zipIdx hentry) entry.2
  unfold detectDefects
  simp only [bind_ok_iff, pure, Except.pure, Except.ok.injEq]
  exact ⟨_, _, hclusters, _, hholes, _, hdeviationRegions, _, hmissingRegions, rfl⟩

/-- The clusters of a comparison are found. -/
theorem clusters_succeed [OrderedFloat D] (hpcl : host.pcl.NeverThrows)
    {comparison : Comparison F D} (hunit : run.reference.surface.view.unit = .millimeter)
    (hunit' : comparison.alignedScan.view.unit = .millimeter)
    (hcompare : run.compare host scheduler config = .ok comparison) :
    ∃ clusters holes,
      clusterDeviationDefects host comparison.alignedScan.view comparison.deviation
          config.detection = .ok clusters ∧
        clusterMissingMaterial host run.reference.surface.view comparison.coverage
          config.detection = .ok holes := by
  obtain ⟨hdeviation, hcoverage, -, -⟩ := compare_slots hcompare
  obtain ⟨bumps, hbumps⟩ := clusterCandidates_succeeds hpcl.radiusSearch comparison.alignedScan.view
    .bump (candidateIndices comparison.deviation.samples
      (exceedsPositive config.detection.positiveThresholdMm)) config.detection
  obtain ⟨dents, hdents⟩ := clusterCandidates_succeeds hpcl.radiusSearch comparison.alignedScan.view
    .dent (candidateIndices comparison.deviation.samples
      (exceedsNegative config.detection.negativeThresholdMm)) config.detection
  obtain ⟨holes, hholes⟩ := clusterCandidates_succeeds hpcl.radiusSearch
    run.reference.surface.view .missingMaterial
    (candidateIndices comparison.coverage.samples isMissing) config.detection
  refine ⟨bumps ++ dents, holes, ?_, ?_⟩
  · unfold clusterDeviationDefects
    rw [if_neg (not_not.mpr hunit'), if_neg (not_not.mpr hdeviation), hbumps, hdents]
    rfl
  · unfold clusterMissingMaterial
    rw [if_neg (not_not.mpr hunit), if_neg (not_not.mpr hcoverage), hholes]

end Runs

/-- After the gate and the transformation nothing refuses what an earlier stage made, and the run
ends in a report. -/
theorem run_after_gate [OrderedFloat D] {host : Host F D} (hpcl : host.pcl.NeverThrows)
    {pipeline : InspectionPipeline D} {reference scan : OwnedSurface F}
    (hreference : reference.view.storageSize ≤ int32Max) (hscan : scan.view.storageSize ≤ int32Max)
    {scheduler : Scheduler} {request : InspectionRequest D} {run : RegisteredRun F D}
    (hrun : runToRegistration host scheduler pipeline.config reference.view scan.view request =
      .ok run)
    (haccepted : run.accepted pipeline.config = true) {aligned : OwnedSurface F}
    (haligned : normalizeSurface run.scan.surface.view run.reference.surface.view.frame
      (some run.registered.metrics.finalTransform) = .ok aligned) (clock : Clock) :
    ∃ deviation coverage clusters holes,
      computeDeviationField host scheduler run.reference.surface.view run.reference.boundary
          aligned.view pipeline.config.comparison pipeline.config.execution.threadCount =
        .ok deviation ∧
      computeCoverageField host scheduler run.reference.surface.view aligned.view run.scan.boundary
          pipeline.config.comparison pipeline.config.execution.threadCount = .ok coverage ∧
      clusterDeviationDefects host aligned.view deviation pipeline.config.detection =
        .ok clusters ∧
      clusterMissingMaterial host run.reference.surface.view coverage pipeline.config.detection =
        .ok holes ∧
      (∀ cluster ∈ clusters, ∀ id, ∃ region,
        measureDeviationRegion cluster aligned.view deviation id = .ok region) ∧
      (∀ cluster ∈ holes, ∀ id, ∃ region,
        measureMissingRegion (D := D) cluster run.reference.surface.view id = .ok region) ∧
      (∃ nearest, nearestNeighbors host scheduler run.reference.surface.view aligned.view
          pipeline.config.comparison.maxSearchDistanceMm pipeline.config.execution.threadCount =
        .ok nearest ∧ NeighborsValid run.reference.surface.view nearest) ∧
      (∃ nearest, nearestNeighbors host scheduler aligned.view run.reference.surface.view
          pipeline.config.comparison.maxSearchDistanceMm pipeline.config.execution.threadCount =
        .ok nearest ∧ NeighborsValid aligned.view nearest) ∧
      ∃ report, pipeline.run host scheduler clock reference.view scan.view request =
        .ok report := by
  obtain ⟨⟨hspans, hlayout⟩, hspans', hlayout'⟩ := runToRegistration_spans hrun
  have hmax : int32Max < 2 ^ 31 := by decide
  have hstorage : run.reference.surface.view.storageSize < 2 ^ 31 := by
    rw [← hlayout.storage]
    omega
  have hstorage' : run.scan.surface.view.storageSize < 2 ^ 31 := by
    rw [← hlayout'.storage]
    omega
  have haligned' : aligned.view.storageSize < 2 ^ 31 := by
    rwa [← (normalizeSurface_layout haligned).storage]
  obtain ⟨deviation, coverage, hdeviation, hcoverage, hcompare⟩ := compare_succeeds scheduler
    pipeline.config hpcl hspans hspans' hstorage hstorage' haligned
  have hunit := normalizeSurface_unit haligned
  obtain ⟨clusters, holes, hclusters, hholes⟩ := clusters_succeed hpcl hspans.unit hunit hcompare
  obtain ⟨regions, hdetected⟩ := detectDefects_succeeds hspans.unit hunit hcompare hclusters hholes
  refine ⟨deviation, coverage, clusters, holes, hdeviation, hcoverage, hclusters, hholes,
    measureDeviation_succeeds hunit hcompare hclusters,
    measureMissing_succeeds hspans.unit hcompare hholes, ?_, ?_, ?_⟩
  · exact nearestNeighbors_ok hpcl.nearestKSearch run.reference.surface.shaped hstorage
      aligned.shaped scheduler _ pipeline.config.execution.threads
  · exact nearestNeighbors_ok hpcl.nearestKSearch aligned.shaped haligned'
      run.reference.surface.shaped scheduler _ pipeline.config.execution.threads
  · unfold InspectionPipeline.run
    rw [runImpl_eq, hrun]
    change ∃ report, run.inspect host scheduler clock pipeline.config request = .ok report
    rw [RegisteredRun.inspect_accepted haccepted, hcompare]
    change ∃ report, Except.map _
        (detectDefects host pipeline.config run.reference.surface.view _) =
      .ok report
    rw [hdetected]
    exact ⟨_, rfl⟩

theorem exactHost_neverThrows : exactHost.pcl.NeverThrows :=
  ⟨fun _ _ _ => ⟨_, rfl⟩, fun _ _ _ => ⟨_, rfl⟩⟩

/-- The stages of an accepted run over two flat grids, up to the transformation. -/
def exactAligned : Result (Bool × Bool) := do
  let pipeline ← InspectionPipeline.create exactConfig
  let run ← runToRegistration exactHost .sequential pipeline.config
    (exactPlate 3 2 3 (by decide +kernel)).view (exactPlate 3 2 4 (by decide +kernel)).view
    exactRequest
  return (run.accepted pipeline.config,
    (normalizeSurface run.scan.surface.view run.reference.surface.view.frame
      (some run.registered.metrics.finalTransform)).isOk)

theorem run_after_gate_plate : ∃ (pipeline : InspectionPipeline (Exact ℚ))
    (report : InspectionResult (Exact ℚ)), InspectionPipeline.create exactConfig = .ok pipeline ∧
      pipeline.run exactHost .sequential exactClock (exactPlate 3 2 3 (by decide +kernel)).view
        (exactPlate 3 2 4 (by decide +kernel)).view exactRequest = .ok report := by
  have haligned : exactAligned = .ok (true, true) := by decide +kernel
  simp only [exactAligned, bind_ok_iff, pure, Except.pure, Except.ok.injEq,
    Prod.mk.injEq] at haligned
  obtain ⟨pipeline, hpipeline, run, hrun, haccepted, hok⟩ := haligned
  obtain ⟨aligned, haligned⟩ := exists_ok hok
  obtain ⟨_, _, _, _, -, -, -, -, -, -, -, -, report, hreport⟩ := run_after_gate
    exactHost_neverThrows (by decide) (by decide) hrun haccepted haligned exactClock
  exact ⟨pipeline, report, hpipeline, hreport⟩

end PointcloudAd
