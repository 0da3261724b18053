import PointcloudAd.Pipeline.Contracts

/-!
# The order of the regions

The groups of a class of candidates pass through a hash map, whose iteration order the language
leaves open, before their regions are numbered and reported. The report does not depend on that
order exactly when no class has two clusters that measure differently.
-/

namespace PointcloudAd

open Library Registration

/-- An iteration order of hash maps. -/
structure MapOrder where
  order : List ℤ → List ℤ
  perm : ∀ keys, (order keys).Perm keys

/-- The order that starts with one key, where it is present, and is that of the insertions else. -/
def MapOrder.startingWith (key : ℤ) : MapOrder where
  order keys := if key ∈ keys then key :: keys.erase key else keys
  perm keys := by
    split_ifs with h
    · exact (List.perm_cons_erase h).symm
    · exact .refl keys

variable {F D : Type} [FloatArith F] [FloatArith D] [Floats F D]

omit [FloatArith F] [FloatArith D] [Floats F D] in
/-- A host whose hash maps iterate in some order. -/
def Host.withOrder (host : Host F D) (order : MapOrder) : Host F D :=
  { host with
    mapOrder := order.order
    mapOrder_perm := order.perm }

omit [FloatArith F] [FloatArith D] [Floats F D] in
def Host.ownOrder (host : Host F D) : MapOrder := ⟨host.mapOrder, host.mapOrder_perm⟩

/-- The regions of a run, or its error, are the same for all iteration orders. -/
def OrderIndependent (host : Host F D) (pipeline : InspectionPipeline D) (scheduler : Scheduler)
    (clock : Clock) (reference scan : SurfaceView F) (request : InspectionRequest D) : Prop :=
  ∀ order order' : MapOrder,
    (pipeline.run (host.withOrder order) scheduler clock reference scan request).map
        InspectionResult.regions =
      (pipeline.run (host.withOrder order') scheduler clock reference scan request).map
        InspectionResult.regions

/-- Clusters of one type measure the same. -/
structure MeasureAlike (scan reference : SurfaceView F) (field : DeviationField D)
    (clusters holes : List DefectCluster) : Prop where
  deviations : ∀ a ∈ clusters, ∀ b ∈ clusters, a.type = b.type →
    measureDeviationRegion a scan field 0 = measureDeviationRegion b scan field 0
  missing : ∀ a ∈ holes, ∀ b ∈ holes,
    measureMissingRegion (D := D) a reference 0 = measureMissingRegion b reference 0

omit [FloatArith F] [Floats F D] [FloatArith D] in
def DefectRegion.numbered (region : DefectRegion D) (id : ℕ) : DefectRegion D :=
  { region with id := id }

theorem measureDeviationRegion_numbered (cluster : DefectCluster) (scan : SurfaceView F)
    (field : DeviationField D) (id : ℕ) : measureDeviationRegion cluster scan field id =
      (measureDeviationRegion cluster scan field 0).map (DefectRegion.numbered · id) := by
  unfold measureDeviationRegion
  cases collectSamples cluster scan (some field) <;> rfl

theorem measureMissingRegion_numbered (cluster : DefectCluster) (reference : SurfaceView F)
    (id : ℕ) : measureMissingRegion (D := D) cluster reference id =
      (measureMissingRegion cluster reference 0).map (DefectRegion.numbered · id) := by
  unfold measureMissingRegion
  cases collectSamples (D := D) cluster reference none <;> rfl

omit [FloatArith F] [Floats F D] [FloatArith D] in
theorem mapM_zipIdx_congr (measure : DefectCluster → ℕ → Result (DefectRegion D))
    (hmeasure : ∀ cluster id,
      measure cluster id = (measure cluster 0).map (DefectRegion.numbered · id)) :
    ∀ {l m : List DefectCluster} (start : ℕ),
      l.map (measure · 0) = m.map (measure · 0) →
        ((l.zipIdx start).mapM fun entry => measure entry.1 entry.2) =
          (m.zipIdx start).mapM fun entry => measure entry.1 entry.2
  | [], [], start, _ => rfl
  | [], b :: m, start, h => by cases h
  | a :: l, [], start, h => by cases h
  | a :: l, b :: m, start, h => by
    obtain ⟨hab, hlm⟩ := List.cons.inj h
    rw [List.zipIdx_cons, List.zipIdx_cons, List.mapM_cons, List.mapM_cons,
      mapM_zipIdx_congr measure hmeasure (start + 1) hlm, hmeasure a, hmeasure b,
      show measure a 0 = measure b 0 from hab]

omit [FloatArith F] [Floats F D] [FloatArith D] in
theorem map_eq_of_perm {α β : Type} {f : α → β} {l m : List α} (h : l.Perm m)
    (hf : ∀ a ∈ m, ∀ b ∈ m, f a = f b) : l.map f = m.map f := by
  refine List.ext_getElem (by simp [h.length_eq]) fun k hk hk' => ?_
  rw [List.getElem_map, List.getElem_map]
  exact hf _ (h.mem_iff.mp (List.getElem_mem _)) _ (List.getElem_mem _)

section Clusters

variable {host : Host F D} {surface : SurfaceView F} {type : DefectType} {candidates : List ℕ}
  {config : ValidatedDetectionConfig D}

omit [Floats F D] in
theorem clusterCandidates_orders (order order' : MapOrder) :
    Outcome List.Perm
      (clusterCandidates (host.withOrder order) surface type candidates config)
      (clusterCandidates (host.withOrder order') surface type candidates config) := by
  unfold clusterCandidates
  split_ifs
  · exact .ok (.refl [])
  · have hlabels : euclideanCluster (host.withOrder order).pcl surface candidates
        config.clusterToleranceMm = euclideanCluster (host.withOrder order').pcl surface candidates
          config.clusterToleranceMm := rfl
    rw [hlabels]
    refine (Outcome.refl (fun _ => rfl) _).map (R := Eq) ?_
    rintro labels _ rfl
    unfold groupCandidates
    exact (((order.perm _).trans (order'.perm _).symm).map _).filterMap _

omit [Floats F D] in
theorem clusterMissingMaterial_orders (host : Host F D) (reference : SurfaceView F)
    (field : CoverageField D)
    (order order' : MapOrder) :
    Outcome List.Perm
      (clusterMissingMaterial (host.withOrder order) reference field config)
      (clusterMissingMaterial (host.withOrder order') reference field config) := by
  unfold clusterMissingMaterial
  split_ifs
  · exact .error _
  · exact .error _
  · exact clusterCandidates_orders order order'

/-- Lists of clusters of two classes, whose classes are permuted. -/
structure ClassesPermuted (clusters clusters' : List DefectCluster) : Prop where
  perm : clusters.Perm clusters'
  split : ∃ bumps dents bumps' dents', clusters = bumps ++ dents ∧ clusters' = bumps' ++ dents' ∧
    bumps.Perm bumps' ∧ dents.Perm dents' ∧ (∀ c ∈ bumps', c.type = .bump) ∧
    ∀ c ∈ dents', c.type = .dent

omit [Floats F D] in
theorem clusterDeviationDefects_orders (host : Host F D) (scan : SurfaceView F)
    (field : DeviationField D)
    (order order' : MapOrder) :
    Outcome ClassesPermuted
      (clusterDeviationDefects (host.withOrder order) scan field config)
      (clusterDeviationDefects (host.withOrder order') scan field config) := by
  unfold clusterDeviationDefects
  split_ifs
  · exact .error _
  · exact .error _
  · refine (clusterCandidates_orders order order').bind_of_eq fun bumps bumps' _ hbumps' hb => ?_
    refine (clusterCandidates_orders order order').bind_of_eq fun dents dents' _ hdents' hd => ?_
    exact .ok ⟨hb.append hd, bumps, dents, bumps', dents', rfl, rfl, hb, hd,
      fun c hc => (type_of_cluster hbumps' hc).1, fun c hc => (type_of_cluster hdents' hc).1⟩

omit [Floats F D] in
theorem deviationClusters_inOrder {scan : SurfaceView F} {field : DeviationField D}
    {bumps dents : List DefectCluster} (order : MapOrder)
    (hunit : scan.unit = .millimeter) (hspan : field.samples.length = scan.storageSize)
    (hbumps : clusterCandidates (host.withOrder order) scan .bump
      (candidateIndices field.samples (exceedsPositive config.positiveThresholdMm)) config =
        .ok bumps)
    (hdents : clusterCandidates (host.withOrder order) scan .dent
      (candidateIndices field.samples (exceedsNegative config.negativeThresholdMm)) config =
        .ok dents) :
    clusterDeviationDefects (host.withOrder order) scan field config = .ok (bumps ++ dents) := by
  unfold clusterDeviationDefects
  rw [if_neg (not_not.mpr hunit), if_neg (not_not.mpr hspan), hbumps, hdents]
  rfl

omit [Floats F D] in
theorem clusterCandidates_inOrder {clusters : List DefectCluster}
    (h : clusterCandidates host surface type candidates config = .ok clusters) (order : MapOrder) :
    ∃ clusters', clusterCandidates (host.withOrder order) surface type candidates config =
      .ok clusters' ∧ clusters'.Perm clusters :=
  (clusterCandidates_orders order host.ownOrder).exists_left h

omit [Floats F D] in
theorem exists_order_head {clusters : List DefectCluster}
    (h : clusterCandidates host surface type candidates config = .ok clusters)
    {cluster : DefectCluster} (hc : cluster ∈ clusters) :
    ∃ order clusters', clusterCandidates (host.withOrder order) surface type candidates config =
      .ok (cluster :: clusters') := by
  obtain ⟨labels, label, hlabels, hkey, rfl, hsmall⟩ := group_of_cluster h hc
  have hnonempty : candidates ≠ [] := by
    rintro rfl
    rcases clusterCandidates_ok h with ⟨-, rfl⟩ | ⟨hne, -⟩
    · cases hc
    · exact hne rfl
  have hlabels' : euclideanCluster (host.withOrder (.startingWith label)).pcl surface candidates
      config.clusterToleranceMm = .ok labels := hlabels
  refine ⟨.startingWith label, ((labels.eraseDups.erase label).map
    (groupOf labels candidates)).filterMap fun indices =>
      if indices.length < config.minClusterPoints.toNat then none else some ⟨type, indices⟩, ?_⟩
  unfold clusterCandidates
  rw [if_neg hnonempty, hlabels']
  change Except.ok (groupCandidates (MapOrder.startingWith label).order type
    config.minClusterPoints labels candidates) = _
  unfold groupCandidates
  rw [show (MapOrder.startingWith label).order labels.eraseDups =
    label :: labels.eraseDups.erase label from if_pos hkey, List.map_cons]
  simp only [List.filterMap_cons, if_neg hsmall]

end Clusters

section Detection

variable {host : Host F D} {config : ValidatedInspectionConfig D} {reference : SurfaceView F}
  {comparison : Comparison F D}

/-- When clusters of one type measure the same, the regions do not show the order. -/
theorem detectDefects_withOrder
    (h : ∀ clusters holes,
      clusterDeviationDefects host comparison.alignedScan.view comparison.deviation
        config.detection = .ok clusters →
      clusterMissingMaterial host reference comparison.coverage config.detection = .ok holes →
      MeasureAlike comparison.alignedScan.view reference comparison.deviation clusters holes)
    (order : MapOrder) :
    detectDefects (host.withOrder order) config reference comparison =
      detectDefects host config reference comparison := by
  refine Outcome.eq_iff.mp ?_
  unfold detectDefects
  refine (clusterDeviationDefects_orders host _ _ order host.ownOrder).bind_of_eq
    fun clusters clusters' _ hclusters hperm => ?_
  refine (clusterMissingMaterial_orders host _ _ order host.ownOrder).bind_of_eq
    fun holes holes' _ hholes hperm' => ?_
  have halike := h clusters' holes' hclusters hholes
  obtain ⟨bumps, dents, bumps', dents', rfl, rfl, hb, hd, hbump, hdent⟩ := hperm.split
  have hbumps := map_eq_of_perm hb fun a ha b hb => halike.deviations a (by simp [ha]) b
    (by simp [hb]) ((hbump a ha).trans (hbump b hb).symm)
  have hdents := map_eq_of_perm hd fun a ha b hb => halike.deviations a (by simp [ha]) b
    (by simp [hb]) ((hdent a ha).trans (hdent b hb).symm)
  have hmissing := map_eq_of_perm hperm' halike.missing
  have hdeviationRegions := mapM_zipIdx_congr (fun cluster id =>
    measureDeviationRegion cluster comparison.alignedScan.view comparison.deviation id)
    (fun cluster id => measureDeviationRegion_numbered cluster _ _ id) (l := bumps ++ dents)
    (m := bumps' ++ dents') 0 (by rw [List.map_append, List.map_append, hbumps, hdents])
  have hmissingRegions := mapM_zipIdx_congr (fun cluster id =>
    measureMissingRegion (D := D) cluster reference id)
    (fun cluster id => measureMissingRegion_numbered cluster reference id) (l := holes)
    (m := holes') (bumps' ++ dents').length hmissing
  dsimp only at hdeviationRegions hmissingRegions ⊢
  rw [hdeviationRegions, hperm.perm.length_eq, hmissingRegions]
  exact Outcome.eq_iff.mpr rfl

theorem detectDefects_deviation {regions : List (DefectRegion D)} {clusters : List DefectCluster}
    (h : detectDefects host config reference comparison = .ok regions)
    (hclusters : clusterDeviationDefects host comparison.alignedScan.view comparison.deviation
      config.detection = .ok clusters) {k : ℕ} {cluster : DefectCluster}
    (hk : clusters[k]? = some cluster) :
    ∃ region, measureDeviationRegion cluster comparison.alignedScan.view comparison.deviation k =
        .ok region ∧ regions[k]? = some (rated config.detection region) := by
  unfold detectDefects at h
  simp only [bind_ok_iff, pure, Except.pure, Except.ok.injEq] at h
  obtain ⟨_, hclusters', holes, -, deviationRegions, hdeviation, missingRegions, -, rfl⟩ := h
  obtain rfl := Except.ok.inj (hclusters.symm.trans hclusters')
  obtain ⟨region, hposition, hregion⟩ := getElem?_mapM hdeviation (k := k) (a := (cluster, k))
    (by rw [List.getElem?_zipIdx, hk, Option.map_some, Nat.zero_add])
  refine ⟨region, hregion, ?_⟩
  have hlt := (List.getElem?_eq_some_iff.mp hposition).1
  rw [List.getElem?_map, List.getElem?_append_left hlt, hposition, Option.map_some]

theorem detectDefects_missing {regions : List (DefectRegion D)}
    {clusters holes : List DefectCluster}
    (h : detectDefects host config reference comparison = .ok regions)
    (hclusters : clusterDeviationDefects host comparison.alignedScan.view comparison.deviation
      config.detection = .ok clusters)
    (hholes : clusterMissingMaterial host reference comparison.coverage config.detection =
      .ok holes) {k : ℕ} {cluster : DefectCluster} (hk : holes[k]? = some cluster) :
    ∃ region, measureMissingRegion cluster reference (clusters.length + k) = .ok region ∧
      regions[clusters.length + k]? = some (rated config.detection region) := by
  unfold detectDefects at h
  simp only [bind_ok_iff, pure, Except.pure, Except.ok.injEq] at h
  obtain ⟨_, hclusters', _, hholes', deviationRegions, hdeviation, missingRegions,
    hmissing, rfl⟩ := h
  obtain rfl := Except.ok.inj (hclusters.symm.trans hclusters')
  obtain rfl := Except.ok.inj (hholes.symm.trans hholes')
  obtain ⟨region, hposition, hregion⟩ := getElem?_mapM hmissing (k := k)
    (a := (cluster, clusters.length + k)) (by rw [List.getElem?_zipIdx, hk, Option.map_some])
  refine ⟨region, hregion, ?_⟩
  have hlength : deviationRegions.length = clusters.length := by
    have hall := (mapM_ok_iff.mp hdeviation).length_eq
    rw [List.length_zipIdx] at hall
    exact hall.symm
  rw [List.getElem?_map, List.getElem?_append_right (by omega), hlength, Nat.add_sub_cancel_left,
    hposition, Option.map_some]

end Detection

/-- Two measurements that are rated alike are the same, but for their numbers. -/
theorem measure_eq_of_rated {measure : DefectCluster → ℕ → Result (DefectRegion D)}
    {config : ValidatedDetectionConfig D}
    (hmeasure : ∀ cluster id,
      measure cluster id = (measure cluster 0).map (DefectRegion.numbered · id))
    (hinfo : ∀ cluster id region, measure cluster id = .ok region →
      region.severity = .info ∧ region.id = id)
    {a b : DefectCluster} {k : ℕ} {r r' : DefectRegion D} (ha : measure a k = .ok r)
    (hb : measure b k = .ok r') (h : rated config r = rated config r') :
    measure a 0 = measure b 0 := by
  have hrr : r = r' := by
    have hr := (hinfo _ _ _ ha).1
    have hr' := (hinfo _ _ _ hb).1
    cases r
    cases r'
    simp only [rated, DefectRegion.mk.injEq] at h hr hr' ⊢
    simp only [h, hr, hr', and_self]
  subst hrr
  have hback : ∀ c, measure c k = .ok r → measure c 0 = .ok (r.numbered 0) := by
    intro c hc
    rw [hmeasure c k] at hc
    obtain ⟨r₀, hzero, rfl⟩ := map_ok_iff.mp hc
    rw [hzero]
    have hid := (hinfo _ _ _ hzero).2
    cases r₀
    simp only [DefectRegion.numbered] at hid ⊢
    rw [hid]
  rw [hback a ha, hback b hb]

section Runs

variable {host : Host F D} {pipeline : InspectionPipeline D} {scheduler : Scheduler} {clock : Clock}
  {reference scan : SurfaceView F} {request : InspectionRequest D} {run : RegisteredRun F D}
  {comparison : Comparison F D}

theorem runToRegistration_withOrder (order : MapOrder) (config : ValidatedInspectionConfig D) :
    runToRegistration (host.withOrder order) scheduler config reference scan request =
      runToRegistration host scheduler config reference scan request := rfl

theorem compare_withOrder (order : MapOrder) (config : ValidatedInspectionConfig D) :
    run.compare (host.withOrder order) scheduler config = run.compare host scheduler config := rfl

theorem compare_unit {config : ValidatedInspectionConfig D}
    (h : run.compare host scheduler config = .ok comparison) :
    comparison.alignedScan.view.unit = .millimeter := by
  unfold RegisteredRun.compare compareSurfaces at h
  simp only [bind_ok_iff, pure, Except.pure, Except.ok.injEq] at h
  obtain ⟨aligned, haligned, _, -, _, -, rfl⟩ := h
  exact normalizeSurface_unit haligned

theorem run_regions (clock : Clock)
    (hrun : runToRegistration host scheduler pipeline.config reference scan request = .ok run)
    (haccepted : run.accepted pipeline.config = true)
    (hcompare : run.compare host scheduler pipeline.config = .ok comparison) (order : MapOrder) :
    (pipeline.run (host.withOrder order) scheduler clock reference scan request).map
        InspectionResult.regions =
      detectDefects (host.withOrder order) pipeline.config run.reference.surface.view
        comparison := by
  unfold InspectionPipeline.run
  rw [runImpl_eq, runToRegistration_withOrder, hrun]
  change Except.map _ (run.inspect
    (host.withOrder order) scheduler clock pipeline.config request) = _
  rw [RegisteredRun.inspect_accepted haccepted, compare_withOrder, hcompare]
  change Except.map _ (Except.map _ (detectDefects _ pipeline.config _ comparison)) = _
  cases detectDefects (host.withOrder order) pipeline.config run.reference.surface.view
    comparison <;>
    rfl

/-- Two clusters that are at one position in two orders measure the same, when the orders do not
show. -/
theorem measureAlike_of_positions
    (hrun : runToRegistration host scheduler pipeline.config reference scan request = .ok run)
    (haccepted : run.accepted pipeline.config = true)
    (hcompare : run.compare host scheduler pipeline.config = .ok comparison)
    (h : OrderIndependent host pipeline scheduler clock reference scan request)
    {order order' : MapOrder} {clusters clusters' holes holes' : List DefectCluster}
    (hclusters : clusterDeviationDefects (host.withOrder order) comparison.alignedScan.view
      comparison.deviation pipeline.config.detection = .ok clusters)
    (hclusters' : clusterDeviationDefects (host.withOrder order') comparison.alignedScan.view
      comparison.deviation pipeline.config.detection = .ok clusters')
    (hholes : clusterMissingMaterial (host.withOrder order) run.reference.surface.view
      comparison.coverage pipeline.config.detection = .ok holes)
    (hholes' : clusterMissingMaterial (host.withOrder order') run.reference.surface.view
      comparison.coverage pipeline.config.detection = .ok holes') (k : ℕ)
    {a b : DefectCluster} :
    (clusters[k]? = some a → clusters'[k]? = some b →
        measureDeviationRegion a comparison.alignedScan.view comparison.deviation 0 =
          measureDeviationRegion b comparison.alignedScan.view comparison.deviation 0) ∧
      (holes[k]? = some a → holes'[k]? = some b → clusters.length = clusters'.length →
        measureMissingRegion (D := D) a run.reference.surface.view 0 =
          measureMissingRegion b run.reference.surface.view 0) := by
  obtain ⟨⟨hspans, -⟩, -, -⟩ := runToRegistration_spans hrun
  have hunit := compare_unit hcompare
  obtain ⟨regions, hregions⟩ := detectDefects_succeeds hspans.unit hunit hcompare hclusters hholes
  have hregions' : detectDefects (host.withOrder order') pipeline.config run.reference.surface.view
      comparison = .ok regions := by
    rw [← hregions, ← run_regions clock hrun haccepted hcompare,
      ← run_regions clock hrun haccepted hcompare]
    exact h order' order
  constructor
  · intro ha hb
    obtain ⟨r, hr, hposition⟩ := detectDefects_deviation hregions hclusters ha
    obtain ⟨r', hr', hposition'⟩ := detectDefects_deviation hregions' hclusters' hb
    rw [hposition] at hposition'
    exact measure_eq_of_rated (fun cluster id => measureDeviationRegion_numbered cluster _ _ id)
      (fun cluster id region hregion => measureDeviationRegion_info hregion) hr hr'
      (Option.some.inj hposition')
  · intro ha hb hlength
    obtain ⟨r, hr, hposition⟩ := detectDefects_missing hregions hclusters hholes ha
    obtain ⟨r', hr', hposition'⟩ := detectDefects_missing hregions' hclusters' hholes' hb
    rw [← hlength] at hr' hposition'
    rw [hposition] at hposition'
    exact measure_eq_of_rated (fun cluster id => measureMissingRegion_numbered cluster _ id)
      (fun cluster id region hregion => measureMissingRegion_info hregion) hr hr'
      (Option.some.inj hposition')

/-- A run that reaches the detection and finds clusters has clusters of one type that measure the
same. -/
def RegionsAlike (host : Host F D) (scheduler : Scheduler) (config : ValidatedInspectionConfig D)
    (reference scan : SurfaceView F) (request : InspectionRequest D) : Prop :=
  ∀ run comparison clusters holes,
    runToRegistration host scheduler config reference scan request = .ok run →
    run.accepted config = true →
    run.compare host scheduler config = .ok comparison →
    clusterDeviationDefects host comparison.alignedScan.view comparison.deviation config.detection =
      .ok clusters →
    clusterMissingMaterial host run.reference.surface.view comparison.coverage config.detection =
      .ok holes →
    MeasureAlike comparison.alignedScan.view run.reference.surface.view
      comparison.deviation clusters
      holes

theorem RegionsAlike.orderIndependent
    (h : RegionsAlike host scheduler pipeline.config reference scan request) :
    OrderIndependent host pipeline scheduler clock reference scan request := by
  have hown : ∀ order, (pipeline.run (host.withOrder order) scheduler clock reference scan
      request).map InspectionResult.regions =
        (pipeline.run host scheduler clock reference scan request).map
          InspectionResult.regions := by
    intro order
    cases hrun : runToRegistration host scheduler pipeline.config reference scan request with
    | error e =>
      unfold InspectionPipeline.run
      rw [runImpl_eq, runImpl_eq, runToRegistration_withOrder, hrun]
      rfl
    | ok run =>
      cases haccepted : run.accepted pipeline.config with
      | false =>
        unfold InspectionPipeline.run
        rw [runImpl_eq, runImpl_eq, runToRegistration_withOrder, hrun]
        change Except.map _ (run.inspect _ scheduler clock pipeline.config request) =
          Except.map _ (run.inspect _ scheduler clock pipeline.config request)
        rw [RegisteredRun.inspect_rejected haccepted, RegisteredRun.inspect_rejected haccepted]
      | true =>
        cases hcompare : run.compare host scheduler pipeline.config with
        | error e =>
          unfold InspectionPipeline.run
          rw [runImpl_eq, runImpl_eq, runToRegistration_withOrder, hrun]
          change Except.map _ (run.inspect _ scheduler clock pipeline.config request) =
            Except.map _ (run.inspect _ scheduler clock pipeline.config request)
          rw [RegisteredRun.inspect_accepted haccepted, RegisteredRun.inspect_accepted haccepted,
            compare_withOrder, hcompare]
          rfl
        | ok comparison =>
          rw [run_regions clock hrun haccepted hcompare order,
            detectDefects_withOrder (fun clusters holes hclusters hholes =>
              h run comparison clusters holes hrun haccepted hcompare hclusters hholes) order]
          exact (run_regions clock hrun haccepted hcompare host.ownOrder).symm
  intro order order'
  rw [hown order, hown order']

/-- The regions of a run do not depend on the iteration order of hash maps exactly when clusters of
one type measure the same. -/
theorem orderIndependent_iff (host : Host F D) (pipeline : InspectionPipeline D)
    (scheduler : Scheduler) (clock : Clock) (reference scan : SurfaceView F)
    (request : InspectionRequest D) :
    OrderIndependent host pipeline scheduler clock reference scan request ↔
      RegionsAlike host scheduler pipeline.config reference scan request := by
  refine ⟨fun h run comparison clusters holes hrun haccepted hcompare hclusters hholes => ?_,
    fun h => h.orderIndependent⟩
  obtain ⟨hspan, -⟩ := compare_slots hcompare
  have hunit := compare_unit hcompare
  obtain ⟨bumps, dents, hbumps, hdents, rfl⟩ := clusterDeviationDefects_ok hclusters
  have hmissing : ∀ order, ∃ holes', clusterMissingMaterial (host.withOrder order)
      run.reference.surface.view comparison.coverage pipeline.config.detection = .ok holes' :=
    fun order =>
      let ⟨holes', h, _⟩ := (clusterMissingMaterial_orders host _ _ order host.ownOrder).exists_left
        hholes
      ⟨holes', h⟩
  constructor
  · intro a ha b hb htype
    rcases List.mem_append.mp ha with ha | ha <;> rcases List.mem_append.mp hb with hb | hb
    · -- both bumps: each is the first cluster in an order of its own
      obtain ⟨order, rest, hfirst⟩ := exists_order_head hbumps ha
      obtain ⟨order', rest', hfirst'⟩ := exists_order_head hbumps hb
      obtain ⟨dents₁, hdents₁, -⟩ := clusterCandidates_inOrder hdents order
      obtain ⟨dents₂, hdents₂, -⟩ := clusterCandidates_inOrder hdents order'
      obtain ⟨_, hholes₁⟩ := hmissing order
      obtain ⟨_, hholes₂⟩ := hmissing order'
      exact (measureAlike_of_positions hrun haccepted hcompare h
        (deviationClusters_inOrder order hunit hspan hfirst hdents₁)
        (deviationClusters_inOrder order' hunit hspan hfirst' hdents₂) hholes₁ hholes₂ 0).1 rfl rfl
    · rw [(type_of_cluster hbumps ha).1, (type_of_cluster hdents hb).1] at htype
      cases htype
    · rw [(type_of_cluster hdents ha).1, (type_of_cluster hbumps hb).1] at htype
      cases htype
    · -- both dents: each is the first one after the bumps, which are as many in every order
      obtain ⟨order, rest, hfirst⟩ := exists_order_head hdents ha
      obtain ⟨order', rest', hfirst'⟩ := exists_order_head hdents hb
      obtain ⟨bumps₁, hbumps₁, hperm₁⟩ := clusterCandidates_inOrder hbumps order
      obtain ⟨bumps₂, hbumps₂, hperm₂⟩ := clusterCandidates_inOrder hbumps order'
      obtain ⟨_, hholes₁⟩ := hmissing order
      obtain ⟨_, hholes₂⟩ := hmissing order'
      exact (measureAlike_of_positions hrun haccepted hcompare h
        (deviationClusters_inOrder order hunit hspan hbumps₁ hfirst)
        (deviationClusters_inOrder order' hunit hspan hbumps₂ hfirst') hholes₁ hholes₂
        bumps.length).1 (by simp [← hperm₁.length_eq]) (by simp [← hperm₂.length_eq])
  · intro a ha b hb
    obtain ⟨order, rest, hfirst⟩ := exists_order_head (clusterMissingMaterial_ok hholes) ha
    obtain ⟨order', rest', hfirst'⟩ := exists_order_head (clusterMissingMaterial_ok hholes) hb
    obtain ⟨clusters₁, hclusters₁, hperm₁⟩ := (clusterDeviationDefects_orders host _ _ order
      host.ownOrder).exists_left hclusters
    obtain ⟨clusters₂, hclusters₂, hperm₂⟩ := (clusterDeviationDefects_orders host _ _ order'
      host.ownOrder).exists_left hclusters
    have hopen : ∀ {order : MapOrder} {holes' : List DefectCluster},
        clusterCandidates (host.withOrder order) run.reference.surface.view .missingMaterial
          (candidateIndices comparison.coverage.samples isMissing) pipeline.config.detection =
            .ok holes' →
        clusterMissingMaterial (host.withOrder order) run.reference.surface.view
          comparison.coverage pipeline.config.detection = .ok holes' := by
      intro order holes' hholes'
      unfold clusterMissingMaterial at hholes ⊢
      split_ifs at hholes ⊢
      exact hholes'
    exact (measureAlike_of_positions hrun haccepted hcompare h hclusters₁ hclusters₂ (hopen hfirst)
      (hopen hfirst') 0).2 rfl rfl (hperm₁.perm.length_eq.trans hperm₂.perm.length_eq.symm)

end Runs

def exactFineConfig : InspectionConfig (Exact ℚ) :=
  { exactConfig with
    detection := { exactConfig.detection with clusterToleranceMm := some (.fin (1 / 2)) } }

/-- Two bumps of one point each, of different heights. -/
def exactBumps : SurfaceView (Exact ℚ) :=
  exactGrid 4 3 4 true fun row column =>
    if row = 1 ∧ column = 1 then 1 else if row = 1 ∧ column = 2 then 3 / 4 else 0

/-- The heights of the regions in one order. -/
def exactHeights (order : MapOrder) : Result (List (Exact ℚ)) := do
  let pipeline ← InspectionPipeline.create exactFineConfig
  let report ← pipeline.run (exactHost.withOrder order) .sequential exactClock
    (exactGrid 4 3 4 true fun _ _ => 0) exactBumps exactRequest
  return report.regions.map DefectRegion.maxAbsMm

/-- The two bumps are reported in the order of the hash map. -/
theorem regions_order_dependent : ∃ pipeline : InspectionPipeline (Exact ℚ),
    InspectionPipeline.create exactFineConfig = .ok pipeline ∧
    ¬ OrderIndependent exactHost pipeline .sequential exactClock
      (exactGrid 4 3 4 true fun _ _ => 0) exactBumps exactRequest := by
  have hfirst : exactHeights (.startingWith 0) = .ok [.fin 1, .fin (3 / 4)] := by decide +kernel
  have hsecond : exactHeights (.startingWith 1) = .ok [.fin (3 / 4), .fin 1] := by decide +kernel
  simp only [exactHeights, bind_ok_iff, pure, Except.pure, Except.ok.injEq] at hfirst hsecond
  obtain ⟨pipeline, hpipeline, report, hreport, hheights⟩ := hfirst
  obtain ⟨pipeline', hpipeline', report', hreport', hheights'⟩ := hsecond
  obtain rfl := Except.ok.inj (hpipeline.symm.trans hpipeline')
  refine ⟨pipeline, hpipeline, fun h => ?_⟩
  have hregions := h (.startingWith 0) (.startingWith 1)
  rw [hreport, hreport'] at hregions
  have hregions : report.regions = report'.regions := Except.ok.inj hregions
  rw [← hregions, hheights] at hheights'
  revert hheights'
  decide +kernel

end PointcloudAd
