import PointcloudAd.Comparison.CoverageClasses
import PointcloudAd.Detection.ClusterComponents
import PointcloudAd.Library.LeastMembers
import PointcloudAd.Pipeline.RelaxedLimits
import PointcloudAd.Preprocess.NormalizedMetric

/-!
# Missing material

The reference samples that no aligned scan sample is near fall into components. The regions of
missing material that a run reports are those of enough members, all of them and no others.
-/

namespace PointcloudAd

open Library Registration

variable {F D : Type} [FloatArith F] [FloatArith D]

/-- Some samples of a surface, linked when they are near. -/
def linkGraph (near : Vec3 F → Vec3 F → D → Prop) (surface : SurfaceView F) (tolerance : D)
    (members : Set ℕ) : SimpleGraph members :=
  SimpleGraph.fromRel fun a b =>
    near (surface.points.getD a default) (surface.points.getD b default) tolerance

/-- The members of a component, in ascending order, when there are enough of them. -/
def IsHole {members : Set ℕ} (links : SimpleGraph members) (least : ℕ) (hole : List ℕ) : Prop :=
  hole.Pairwise (· < ·) ∧ least ≤ hole.length ∧ ∃ component : links.ConnectedComponent,
    ∀ i, i ∈ hole ↔ ∃ h : i ∈ members, ⟨i, h⟩ ∈ component.supp

theorem ncard_of_mem_iff {members : Set ℕ} {list : List ℕ} (hn : list.Nodup)
    (h : ∀ i, i ∈ list ↔ i ∈ members) : list.length = members.ncard := by
  have hset : members = list.toFinset := by
    ext i
    simp [h]
  rw [hset, Set.ncard_coe_finset, List.toFinset_card_of_nodup hn]

section Clusters

variable {host : Host F D} {near : Vec3 F → Vec3 F → D → Prop} {surface : SurfaceView F}
  {candidates : List ℕ}

omit [FloatArith D] in
theorem exists_answers (hpcl : host.pcl.NeverThrows) (hrange : host.pcl.SearchesInRange)
    (cloud : List (Vec3 F)) (tolerance : D) :
    ∃ answers, Answers host.pcl cloud tolerance answers := by
  choose found hfound using fun candidate =>
    hpcl.radiusSearch cloud (cloud.getD candidate default) tolerance
  refine ⟨fun candidate => (found candidate).map fun entry => entry.1.toNat, fun candidate _ => ?_⟩
  have hentries := hrange _ _ _ _ (hfound candidate)
  constructor
  · unfold candidateNeighbors
    rw [hfound]
    refine congrArg Except.ok ?_
    rw [List.map_map]
    refine List.map_congr_left fun entry hentry => ?_
    exact (Int.toNat_of_nonneg (hentries entry hentry).1).symm
  · intro neighbor hneighbor
    obtain ⟨entry, hentry, rfl⟩ := List.mem_map.mp hneighbor
    have := hentries entry hentry
    omega

theorem connects_iff_linked (hpcl : host.pcl.NeverThrows) (hnear : host.pcl.FindsWithin near)
    {tolerance : D} (hpositive : 0 < tolerance) {answers : ℕ → List ℕ}
    (hanswers : Answers host.pcl (candidateCloud surface candidates) tolerance answers)
    {members : Set ℕ} (e : Fin candidates.length ≃ members)
    (he : ∀ v, (e v : ℕ) = candidates.get v) (v w : Fin candidates.length) :
    Connects candidates.length answers v w ↔
      (linkGraph near surface tolerance members).Reachable (e v) (e w) := by
  rw [← hanswers.reachable_iff]
  refine reachable_relabel e (fun a b => ?_) v w
  rw [returns_iff hpcl hnear hpositive, he, he]

/-- The clusters of candidates are their holes. -/
theorem clusterCandidates_holes [OrderedFloat D] (hpcl : host.pcl.NeverThrows)
    (hrange : host.pcl.SearchesInRange) (hnear : host.pcl.FindsWithin near) {type : DefectType}
    {config : ValidatedDetectionConfig D} (hsorted : candidates.Pairwise (· < ·))
    {clusters : List DefectCluster}
    (hclusters : clusterCandidates host surface type candidates config = .ok clusters)
    {members : Set ℕ} (hmembers : ∀ i, i ∈ candidates ↔ i ∈ members) :
    (clusters.map DefectCluster.pointIndices).Nodup ∧ ∀ hole,
      hole ∈ clusters.map DefectCluster.pointIndices ↔
        IsHole (linkGraph near surface config.clusterToleranceMm members)
          config.minClusterPoints.toNat hole := by
  obtain ⟨answers, hanswers⟩ := exists_answers hpcl hrange (candidateCloud surface candidates)
    config.clusterToleranceMm
  obtain ⟨_, hok, hcomponents⟩ := clusterCandidates_components type config hsorted hanswers
  obtain rfl := Except.ok.inj (hok.symm.trans hclusters)
  have hnodup : candidates.Nodup := hsorted.imp Nat.ne_of_lt
  let e : Fin candidates.length ≃ members :=
    (hnodup.getEquiv candidates).trans (Equiv.subtypeEquivRight hmembers)
  have he : ∀ v, (e v : ℕ) = candidates.get v := fun v => rfl
  have hlinked := connects_iff_linked hpcl hnear config.clusterTolerance.2 hanswers e he
  constructor
  · rw [List.Nodup, List.pairwise_map]
    refine hcomponents.disjoint.imp_of_mem fun {a b} ha _ hdisjoint hsame => ?_
    obtain ⟨i, hi⟩ := List.exists_mem_of_ne_nil _ (type_of_cluster hclusters ha).2
    exact hdisjoint hi (hsame ▸ hi)
  · intro hole
    have hcount : ∀ v : Fin candidates.length, hole.Pairwise (· < ·) →
        (∀ i, i ∈ hole ↔ ∃ w ∈ component candidates answers v, candidates.get w = i) →
        hole.length = (component candidates answers v).ncard := by
      intro v hascending hhole
      rw [← Set.ncard_image_of_injective _ (List.nodup_iff_injective_get.mp hnodup)]
      exact ncard_of_mem_iff (hascending.imp Nat.ne_of_lt) fun i => hhole i
    have hsame : ∀ (v : Fin candidates.length) (i : ℕ),
        (∃ w ∈ component candidates answers v, candidates.get w = i) ↔
          ∃ h : i ∈ members, ⟨i, h⟩ ∈ ((linkGraph near surface config.clusterToleranceMm
            members).connectedComponentMk (e v)).supp := by
      intro v i
      simp only [SimpleGraph.ConnectedComponent.mem_supp_iff, SimpleGraph.ConnectedComponent.eq]
      constructor
      · rintro ⟨w, hw, rfl⟩
        exact ⟨(e w).2, ((hlinked v w).mp hw).symm⟩
      · rintro ⟨hi, hreach⟩
        obtain ⟨w, hw⟩ := e.surjective ⟨i, hi⟩
        rw [← hw] at hreach
        refine ⟨w, (hlinked v w).mpr hreach.symm, ?_⟩
        rw [← he, hw]
    constructor
    · intro hmem
      obtain ⟨cluster, hcluster, rfl⟩ := List.mem_map.mp hmem
      obtain ⟨-, hascending, v, hleast, hhole⟩ := (hcomponents.exact cluster).mp hcluster
      refine ⟨hascending, ?_, _, fun i => (hhole i).trans (hsame v i)⟩
      rwa [hcount v hascending hhole]
    · rintro ⟨hascending, hleast, links, hhole⟩
      obtain ⟨member, rfl⟩ := links.exists_rep
      obtain ⟨v, rfl⟩ := e.surjective member
      have hhole' := fun i => (hhole i).trans (hsame v i).symm
      refine List.mem_map.mpr ⟨⟨type, hole⟩, (hcomponents.exact _).mpr
        ⟨rfl, hascending, v, ?_, hhole'⟩, rfl⟩
      rwa [← hcount v hascending hhole']

end Clusters

section Fields

variable {samples : List (CoverageSample D)} {members : Set ℕ}

omit [FloatArith F] in
theorem mem_missingCandidates_iff
    (h : ∀ i, (samples.getD i default).reason = .noNeighbor ↔ i ∈ members) (i : ℕ) :
    i ∈ candidateIndices samples isMissing ↔ i ∈ members := by
  rw [← h, mem_candidateIndices]
  simp only [isMissing, decide_eq_true_eq]
  refine and_iff_right_of_imp fun hreason => ?_
  by_contra hge
  rw [List.getD_eq_default _ _ (Nat.le_of_not_lt hge)] at hreason
  cases hreason

omit [FloatArith F] in
theorem countP_missing (h : ∀ i, (samples.getD i default).reason = .noNeighbor ↔ i ∈ members) :
    (samples.countP fun sample => sample.reason = .noNeighbor) = members.ncard := by
  have hslots : (List.range samples.length).map (fun i => samples.getD i default) = samples := by
    have hmap := map_range_getD samples default id
    rwa [List.map_id] at hmap
  have hcount : (samples.countP fun sample => sample.reason = .noNeighbor) =
      (candidateIndices samples isMissing).length := by
    conv_lhs => rw [← hslots, List.countP_map, List.countP_eq_length_filter]
    rfl
  rw [hcount]
  exact ncard_of_mem_iff (List.nodup_range.filter _) (mem_missingCandidates_iff h)

end Fields

variable [Floats F D]

/-- A region measures the samples of a hole, and rejects the part. -/
structure MeasuresHole (config : ValidatedDetectionConfig D) (reference : SurfaceView F)
    (hole : List ℕ) (region : DefectRegion D) : Prop where
  measured : ∃ id, (measureMissingRegion ⟨.missingMaterial, hole⟩ reference id).map
    (rated config) = .ok region
  pointCount : region.pointCount = hole.length
  severity : region.severity = .reject

/-- The samples that a configuration takes to be missing. -/
def ValidatedComparisonConfig.missing (config : ValidatedComparisonConfig D)
    (distance : Vec3 F → Vec3 F → F) (reference aligned : SurfaceView F) : Set ℕ :=
  missingSamples distance (narrow (config.maxSearchDistanceMm * config.maxSearchDistanceMm))
    reference aligned

/-- The regions of missing material in a report are the holes that an aligned scan leaves in its
reference, one region each. Their samples are counted, and no report with a hole passes. -/
structure ReportsHoles (near : Vec3 F → Vec3 F → D → Prop) (distance : Vec3 F → Vec3 F → F)
    (config : ValidatedInspectionConfig D) (reference aligned : SurfaceView F)
    (report : InspectionResult D) : Prop where
  counted : report.coverage.noNeighbor =
    (config.comparison.missing distance reference aligned).ncard
  regions : ∃ holes : List (List ℕ), holes.Nodup ∧
    (∀ hole, hole ∈ holes ↔ IsHole (linkGraph near reference config.detection.clusterToleranceMm
      (config.comparison.missing distance reference aligned))
      config.detection.minClusterPoints.toNat hole) ∧
    List.Forall₂ (MeasuresHole config.detection reference) holes
      (report.regions.filter fun region => region.type = .missingMaterial)
  passed : report.verdict = .pass → ∀ hole,
    ¬ IsHole (linkGraph near reference config.detection.clusterToleranceMm
      (config.comparison.missing distance reference aligned))
      config.detection.minClusterPoints.toNat hole

section Reports

variable {host : Host F D} {config : ValidatedInspectionConfig D} {reference : SurfaceView F}
  {comparison : Comparison F D} {regions : List (DefectRegion D)}

theorem measuresHole_of_measured {cluster : DefectCluster} {id : ℕ} {region : DefectRegion D}
    (htype : cluster.type = .missingMaterial)
    (h : measureMissingRegion cluster reference id = .ok region) :
    MeasuresHole config.detection reference cluster.pointIndices
      (rated config.detection region) := by
  have hcluster : cluster = ⟨.missingMaterial, cluster.pointIndices⟩ := by
    rw [← htype]
  refine ⟨⟨id, ?_⟩, ?_, rated_reject_iff.mpr (.inl ?_)⟩
  · rw [← hcluster, h]
    rfl
  · unfold measureMissingRegion collectSamples at h
    obtain ⟨samples, hsamples, rfl⟩ := map_ok_iff.mp h
    split_ifs at hsamples
    exact (mapM_ok_iff.mp hsamples).length_eq.symm
  · rw [measureMissingRegion_ok h, htype]

/-- The regions of missing material are those of the second clustering. -/
theorem detectDefects_holes (h : detectDefects host config reference comparison = .ok regions) :
    ∃ holes, clusterMissingMaterial host reference comparison.coverage config.detection =
        .ok holes ∧
      List.Forall₂ (MeasuresHole config.detection reference)
        (holes.map DefectCluster.pointIndices)
        (regions.filter fun region => region.type = .missingMaterial) := by
  unfold detectDefects at h
  simp only [bind_ok_iff, pure, Except.pure, Except.ok.injEq] at h
  obtain ⟨clusters, hclusters, holes, hholes, deviationRegions, hdeviation, missingRegions,
    hmissing, rfl⟩ := h
  refine ⟨holes, hholes, ?_⟩
  obtain ⟨bumps, dents, hbumps, hdents, rfl⟩ := clusterDeviationDefects_ok hclusters
  have hnone : ∀ region ∈ deviationRegions.map (rated config.detection),
      ¬ region.type = .missingMaterial := by
    intro rated hrated
    obtain ⟨region, hregion, rfl⟩ := List.mem_map.mp hrated
    obtain ⟨⟨cluster, id⟩, hentry, other, hmeasured, hsame⟩ :=
      (exists_mapM_iff hdeviation fun other => region = other).mp ⟨_, hregion, rfl⟩
    rw [← hsame] at hmeasured
    rw [show (rated config.detection region).type = cluster.type from
      (measureDeviationRegion_ok hmeasured).1]
    rcases List.mem_append.mp (List.fst_mem_of_mem_zipIdx hentry) with hc | hc
    · rw [(type_of_cluster hbumps hc).1]
      decide
    · rw [(type_of_cluster hdents hc).1]
      decide
  have htype : ∀ entry ∈ holes.zipIdx (bumps ++ dents).length,
      entry.1.type = .missingMaterial := fun entry hentry =>
    (type_of_cluster (clusterMissingMaterial_ok hholes) (List.fst_mem_of_mem_zipIdx hentry)).1
  have hkept : ∀ region ∈ missingRegions.map (rated config.detection),
      region.type = .missingMaterial := by
    intro rated hrated
    obtain ⟨region, hregion, rfl⟩ := List.mem_map.mp hrated
    obtain ⟨entry, hentry, _, hmeasured, rfl⟩ :=
      (exists_mapM_iff hmissing fun other => other = region).mp ⟨_, hregion, rfl⟩
    exact (measureMissingRegion_ok hmeasured).trans (htype entry hentry)
  have hall : List.Forall₂ (fun entry region => MeasuresHole config.detection reference
      entry.1.pointIndices (rated config.detection region))
      (holes.zipIdx (bumps ++ dents).length) missingRegions :=
    ((List.forall₂_and_left _ _).mpr ⟨htype, mapM_ok_iff.mp hmissing⟩).imp fun _ _ h =>
      measuresHole_of_measured h.1 h.2
  rw [List.map_append, List.filter_append, List.filter_eq_nil_iff.mpr (by simpa using hnone),
    List.filter_eq_self.mpr (by simpa using hkept), List.nil_append]
  rw [← List.zipIdx_map_fst (bumps ++ dents).length holes, List.map_map, List.forall₂_map_left_iff,
    List.forall₂_map_right_iff]
  exact hall

end Reports

section Runs

variable {host : Host F D} {near : Vec3 F → Vec3 F → D → Prop} {distance : Vec3 F → Vec3 F → F}
  {scheduler : Scheduler} {clock : Clock} {config : ValidatedInspectionConfig D}
  {request : InspectionRequest D} {run : RegisteredRun F D} {report : InspectionResult D}

/-- The report of a run that was accepted. -/
theorem RegisteredRun.reportsHoles [OrderedFloat F] [OrderedFloat D] (hpcl : host.pcl.NeverThrows)
    (hrange : host.pcl.SearchesInRange) (hnear : host.pcl.FindsWithin near)
    (hnearest : host.pcl.NearestBy distance)
    (hstorage : run.scan.surface.view.storageSize < 2 ^ 31)
    (haccepted : run.accepted config = true)
    (h : run.inspect host scheduler clock config request = .ok report) :
    ∃ aligned : OwnedSurface F,
      normalizeSurface run.scan.surface.view run.reference.surface.view.frame
        (some run.registered.metrics.finalTransform) = .ok aligned ∧
      ReportsHoles near distance config run.reference.surface.view aligned.view report := by
  rw [RegisteredRun.inspect_accepted haccepted] at h
  obtain ⟨comparison, hcompare, hreport⟩ := bind_ok_iff.mp h
  obtain ⟨regions, hregions, rfl⟩ := map_ok_iff.mp hreport
  unfold RegisteredRun.compare compareSurfaces at hcompare
  simp only [bind_ok_iff, pure, Except.pure, Except.ok.injEq] at hcompare
  obtain ⟨aligned, haligned, deviation, -, coverage, hcoverage, rfl⟩ := hcompare
  refine ⟨aligned, haligned, ?_⟩
  have hmissing := computeCoverageField_noNeighbor_iff hnearest
    ((normalizeSurface_layout haligned).storage ▸ hstorage) hcoverage
  obtain ⟨holes, hholes, hmeasured⟩ := detectDefects_holes hregions
  obtain ⟨hnodup, hexact⟩ := clusterCandidates_holes hpcl hrange hnear
    (candidateIndices_sorted _ _) (clusterMissingMaterial_ok hholes)
    (mem_missingCandidates_iff hmissing)
  refine ⟨countP_missing hmissing, ⟨_, hnodup, hexact, hmeasured⟩, fun hpass hole hhole => ?_⟩
  -- a hole is reported, and a reported hole rejects
  obtain ⟨region, hregion, hsevere⟩ : ∃ region ∈ regions, region.severity = .reject := by
    obtain ⟨k, hk, hget⟩ := List.mem_iff_getElem.mp ((hexact hole).mpr hhole)
    have hlength := hmeasured.length_eq
    refine ⟨_, List.mem_of_mem_filter (List.getElem_mem (hlength ▸ hk)),
      ((List.forall₂_iff_get.mp hmeasured).2 k hk (hlength ▸ hk)).severity⟩
  exact (finalVerdict_pass_iff.mp hpass).2 ⟨region, hregion, hsevere⟩

/-- Every run whose registration is accepted reports the missing material there is: the regions of
that type are the holes that the aligned scan leaves in the prepared reference. -/
theorem run_missing_material [OrderedFloat F] [OrderedFloat D] (hpcl : host.pcl.NeverThrows)
    (hrange : host.pcl.SearchesInRange) (hnear : host.pcl.FindsWithin near)
    (hnearest : host.pcl.NearestBy distance) {pipeline : InspectionPipeline D}
    {reference scan : SurfaceView F} (hstorage : scan.storageSize < 2 ^ 31)
    (h : pipeline.run host scheduler clock reference scan request = .ok report) :
    ∃ run, runToRegistration host scheduler pipeline.config reference scan request = .ok run ∧
      (run.accepted pipeline.config = true → ∃ aligned : OwnedSurface F,
        normalizeSurface run.scan.surface.view run.reference.surface.view.frame
          (some run.registered.metrics.finalTransform) = .ok aligned ∧
        ReportsHoles near distance pipeline.config run.reference.surface.view aligned.view
          report) := by
  unfold InspectionPipeline.run at h
  rw [runImpl_eq] at h
  obtain ⟨run, hrun, hinspect⟩ := bind_ok_iff.mp h
  have hlayout := (runToRegistration_spans hrun).2.2
  exact ⟨run, hrun, fun haccepted => run.reportsHoles hpcl hrange hnear hnearest
    (hlayout.storage ▸ hstorage) haccepted hinspect⟩

end Runs

/-- The squared distance by which the exhaustive search ranks. -/
def exactSquared (q p : Vec3 (Exact ℚ)) : Exact ℚ :=
  (p.x - q.x) * (p.x - q.x) + (p.y - q.y) * (p.y - q.y) + (p.z - q.z) * (p.z - q.z)

theorem exactHost_nearestBy : exactHost.pcl.NearestBy exactSquared := by
  intro cloud point hne hcloud hpoint
  obtain ⟨q, rfl⟩ := exists_exactVec hpoint
  have hnumber : ∀ p ∈ cloud, exactSquared (exactVec q) p ≤ exactSquared (exactVec q) p := by
    intro p hp
    obtain ⟨u, rfl⟩ := exists_exactVec (hcloud p hp)
    change Exact.le (.fin _) (.fin _) = true
    simp [Exact.le]
  have hentry : ∀ entry ∈ (List.range cloud.length).map (fun index : ℕ =>
      ((index : ℤ), exactSquared (exactVec q) (cloud.getD index default))),
      ∃ index < cloud.length,
        entry = ((index : ℤ), exactSquared (exactVec q) (cloud.getD index default)) ∧
        cloud.getD index default ∈ cloud := by
    intro entry hentry
    obtain ⟨index, hindex, rfl⟩ := List.mem_map.mp hentry
    have hlt := List.mem_range.mp hindex
    exact ⟨index, hlt, rfl, by rw [List.getD_eq_getElem _ _ hlt]; exact List.getElem_mem hlt⟩
  obtain ⟨head, rest, hsorted, hmem, hleast⟩ := exists_head_insertionSort
    (r := fun a b : ℤ × Exact ℚ => a.2 ≤ b.2) (fun _ _ _ => OrderedFloat.le_trans)
    (l := (List.range cloud.length).map fun index : ℕ =>
      ((index : ℤ), exactSquared (exactVec q) (cloud.getD index default)))
    (by simpa using hne) fun a ha b hb => by
      obtain ⟨i, -, rfl, hi⟩ := hentry a ha
      obtain ⟨j, -, rfl, hj⟩ := hentry b hb
      exact OrderedFloat.le_total (hnumber _ hi) (hnumber _ hj)
  obtain ⟨index, hlt, rfl, -⟩ := hentry head hmem
  refine ⟨index, [], hlt, ?_, fun p hp => ?_⟩
  · exact congrArg (fun ranked => Except.ok (List.take 1 ranked)) hsorted
  · obtain ⟨j, hj, rfl⟩ := List.mem_iff_getElem.mp hp
    have hentry := hleast ((j : ℤ), exactSquared (exactVec q) (cloud.getD j default))
      (List.mem_map.mpr ⟨j, List.mem_range.mpr hj, rfl⟩)
    rwa [List.getD_eq_getElem _ _ hj] at hentry

/-- The first two columns of a flat grid of four. -/
def exactHalf : SurfaceView (Exact ℚ) :=
  { exactGrid 4 3 4 true fun _ _ => 0 with valid := [1, 1, 0, 0, 1, 1, 0, 0, 1, 1, 0, 0] }

/-- A scan of half a plate leaves one hole, the far column of the plate. -/
theorem run_missing_material_half : ∃ (report : InspectionResult (Exact ℚ))
    (run : RegisteredRun (Exact ℚ) (Exact ℚ)) (aligned : OwnedSurface (Exact ℚ)),
    (InspectionPipeline.mk exactLimits).run exactHost .sequential exactClock
        (exactGrid 4 3 4 true fun _ _ => 0) exactHalf exactRequest = .ok report ∧
      report.regions.map DefectRegion.pointCount = [3] ∧
      ReportsHoles (fun p q r => exactSquared p q ≤ r * r) exactSquared exactLimits
        run.reference.surface.view aligned.view report := by
  have hregions : ((InspectionPipeline.mk exactLimits).run exactHost .sequential exactClock
      (exactGrid 4 3 4 true fun _ _ => 0) exactHalf exactRequest).map (fun report =>
        report.regions.map DefectRegion.pointCount) = .ok [3] := by decide +kernel
  obtain ⟨report, hreport, hcounts⟩ := map_ok_iff.mp hregions
  obtain ⟨run, hrun, hholes⟩ := run_missing_material exactHost_neverThrows
    exactHost_searchesInRange exactHost_findsWithin exactHost_nearestBy (by decide) hreport
  have haccepted : run.accepted exactLimits = true := by
    by_contra hrejected
    rw [Bool.not_eq_true] at hrejected
    unfold InspectionPipeline.run at hreport
    rw [runImpl_eq, hrun] at hreport
    change run.inspect _ _ _ exactLimits _ = _ at hreport
    rw [RegisteredRun.inspect_rejected hrejected] at hreport
    obtain rfl := Except.ok.inj hreport
    cases hcounts
  obtain ⟨aligned, -, hreported⟩ := hholes haccepted
  exact ⟨report, run, aligned, hreport, hcounts, hreported⟩

end PointcloudAd
