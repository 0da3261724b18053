import PointcloudAd.Backends.Exhaustive
import PointcloudAd.Detection.DefectRegion

/-!
# Defects and the error budget

Every member of a deviation cluster deviates by more than the measurement error, to the side of its
cluster's type, and no sample is in two clusters; so the regions that are measured from clusters
exceed the measurement error as well.
-/

namespace PointcloudAd

open Library

variable {F D : Type} [FloatArith F] [FloatArith D]

section Members

variable [SignedFloat D] {config : ValidatedDetectionConfig D} {samples : List (DeviationSample D)}
  {i : ℕ}

/-- A deviation to the side of a type, beyond the measurement error. -/
structure ExceedsBudget (config : ValidatedDetectionConfig D) (type : DefectType) (signed : D) :
    Prop where
  budget : config.measurementErrorBudgetMm < FloatArith.abs signed
  side : type = .bump ∧ 0 < signed ∨ type = .dent ∧ signed < 0

omit [FloatArith F] in
theorem ExceedsBudget.number {type : DefectType} {signed : D}
    (h : ExceedsBudget config type signed) : signed ≤ signed := by
  rcases h.side with ⟨-, hs⟩ | ⟨-, hs⟩
  · exact OrderedFloat.le_right (OrderedFloat.lt_iff.mp hs).1
  · exact OrderedFloat.le_left (OrderedFloat.lt_iff.mp hs).1

omit [FloatArith F] in
theorem exceedsPositive_budget {sample : DeviationSample D}
    (h : exceedsPositive config.positiveThresholdMm sample = true) :
    sample.reason = .valid ∧ ExceedsBudget config .bump sample.signedMm := by
  simp only [exceedsPositive, Bool.and_eq_true, decide_eq_true_eq] at h
  obtain ⟨hreason, hsigned⟩ := h
  have hpositive := config.positiveThreshold.2
  have hbudget : config.measurementErrorBudgetMm < config.positiveThresholdMm :=
    number_lt_of_not_le (OrderedFloat.le_right config.errorBudget.2)
      (OrderedFloat.le_right (OrderedFloat.lt_iff.mp hpositive).1) config.positiveExceeds
  have hle := (OrderedFloat.lt_iff.mp hsigned).1
  refine ⟨hreason, ?_, .inl ⟨rfl, lt_le_trans hpositive hle⟩⟩
  exact lt_le_trans hbudget (OrderedFloat.le_trans hle
    (SignedFloat.le_abs (OrderedFloat.le_right hle)))

omit [FloatArith F] in
theorem exceedsNegative_budget {sample : DeviationSample D}
    (h : exceedsNegative config.negativeThresholdMm sample = true) :
    sample.reason = .valid ∧ ExceedsBudget config .dent sample.signedMm := by
  simp only [exceedsNegative, Bool.and_eq_true, decide_eq_true_eq] at h
  obtain ⟨hreason, hsigned⟩ := h
  have hle := (OrderedFloat.lt_iff.mp hsigned).1
  have hnumber := OrderedFloat.le_right hle
  have hnegative : config.negativeThresholdMm < 0 :=
    number_lt_of_not_le hnumber SignedFloat.zero_le_zero config.negativeThreshold.2
  have hbudget : config.measurementErrorBudgetMm < FloatArith.abs config.negativeThresholdMm :=
    number_lt_of_not_le (OrderedFloat.le_right config.errorBudget.2) (abs_number hnumber)
      config.negativeExceeds
  refine ⟨hreason, ?_, .inr ⟨rfl, le_lt_trans hle hnegative⟩⟩
  exact lt_le_trans hbudget (SignedFloat.abs_anti hle (OrderedFloat.lt_iff.mp hnegative).1)

theorem deviationCluster_budget {host : Host F D} {scan : SurfaceView F} {field : DeviationField D}
    {clusters : List DefectCluster}
    (h : clusterDeviationDefects host scan field config = .ok clusters) {cluster : DefectCluster}
    (hc : cluster ∈ clusters) {i : ℕ} (hi : i ∈ cluster.pointIndices) :
    (field.samples.getD i default).reason = .valid ∧
      ExceedsBudget config cluster.type (field.samples.getD i default).signedMm := by
  obtain ⟨bumps, dents, hbumps, hdents, rfl⟩ := clusterDeviationDefects_ok h
  rcases List.mem_append.mp hc with hc | hc
  · rw [(type_of_cluster hbumps hc).1]
    exact exceedsPositive_budget
      (mem_candidateIndices.mp (mem_candidates_of_cluster hbumps hc i hi)).2
  · rw [(type_of_cluster hdents hc).1]
    exact exceedsNegative_budget
      (mem_candidateIndices.mp (mem_candidates_of_cluster hdents hc i hi)).2

end Members

omit [FloatArith F] [FloatArith D] in
theorem label_unique {labels : List ℤ} {candidates : List ℕ} (hn : candidates.Nodup)
    {label label' : ℤ}
    {i : ℕ} (h : i ∈ groupOf labels candidates label) (h' : i ∈ groupOf labels candidates label') :
    label = label' := by
  simp only [groupOf, List.mem_map, List.mem_filter, decide_eq_true_eq] at h h'
  obtain ⟨⟨l, c⟩, ⟨hz, rfl⟩, rfl⟩ := h
  obtain ⟨⟨l', c'⟩, ⟨hz', rfl⟩, hc⟩ := h'
  obtain ⟨k, hk, he⟩ := List.mem_iff_getElem.mp hz
  obtain ⟨k', hk', he'⟩ := List.mem_iff_getElem.mp hz'
  rw [List.getElem_zip, Prod.mk.injEq] at he he'
  have hcandidates := (he.2.trans hc.symm).trans he'.2.symm
  obtain rfl := (List.Nodup.getElem_inj_iff hn).mp hcandidates
  exact he.1.symm.trans he'.1

omit [FloatArith F] [FloatArith D] in
theorem groupCandidates_disjoint {mapOrder : List ℤ → List ℤ}
    (hmap : ∀ keys, (mapOrder keys).Perm keys) {candidates : List ℕ} (hn : candidates.Nodup)
    (type : DefectType) (minClusterPoints : UInt32) (labels : List ℤ) :
    (groupCandidates mapOrder type minClusterPoints labels candidates).Pairwise
      fun a b => a.pointIndices.Disjoint b.pointIndices := by
  have hkeys : (mapOrder labels.eraseDups).Nodup :=
    (hmap _).nodup_iff.mpr (nodup_eraseDups labels)
  unfold groupCandidates
  rw [List.pairwise_filterMap, List.pairwise_map]
  refine hkeys.imp fun {label label'} hne a ha b hb => ?_
  split_ifs at ha hb
  rw [← Option.some.inj ha, ← Option.some.inj hb]
  exact fun i hi hi' => hne (label_unique hn hi hi')

theorem clusterCandidates_disjoint {host : Host F D} {surface : SurfaceView F} {type : DefectType}
    {candidates : List ℕ} {config : ValidatedDetectionConfig D} {clusters : List DefectCluster}
    (hn : candidates.Nodup)
    (h : clusterCandidates host surface type candidates config = .ok clusters) :
    clusters.Pairwise fun a b => a.pointIndices.Disjoint b.pointIndices := by
  rcases clusterCandidates_ok h with ⟨-, rfl⟩ | ⟨-, labels, -, rfl⟩
  · exact .nil
  · exact groupCandidates_disjoint host.mapOrder_perm hn type _ labels

omit [FloatArith F] [FloatArith D] in
theorem nodup_candidateIndices {α : Type} [Inhabited α] (samples : List α) (selected : α → Bool) :
    (candidateIndices samples selected).Nodup := List.nodup_range.filter _

theorem deviationClusters_disjoint [SignedFloat D] {host : Host F D} {scan : SurfaceView F}
    {field : DeviationField D} {config : ValidatedDetectionConfig D} {clusters : List DefectCluster}
    (h : clusterDeviationDefects host scan field config = .ok clusters) :
    clusters.Pairwise fun a b => a.pointIndices.Disjoint b.pointIndices := by
  obtain ⟨bumps, dents, hbumps, hdents, rfl⟩ := clusterDeviationDefects_ok h
  refine List.pairwise_append.mpr ⟨clusterCandidates_disjoint (nodup_candidateIndices _ _) hbumps,
    clusterCandidates_disjoint (nodup_candidateIndices _ _) hdents, ?_⟩
  intro bump hbump dent hdent i hi hi'
  have hpositive := (exceedsPositive_budget (mem_candidateIndices.mp
    (mem_candidates_of_cluster hbumps hbump i hi)).2).2.side
  have hnegative := (exceedsNegative_budget (mem_candidateIndices.mp
    (mem_candidates_of_cluster hdents hdent i hi')).2).2.side
  simp only [reduceCtorEq, false_and, or_false, false_or, true_and] at hpositive hnegative
  exact (OrderedFloat.lt_iff.mp hpositive).2 (OrderedFloat.lt_iff.mp hnegative).1

section Summaries

variable [Floats F D] [SignedFloat D] {values : List D}

theorem foldl_add_pos : ∀ (values : List D) (start : D), 0 ≤ start → (∀ v ∈ values, 0 < v) →
    0 < start ∨ values ≠ [] → 0 < values.foldl (· + ·) start
  | [], start, _, _, h => h.resolve_right fun hne => hne rfl
  | v :: values, start, hstart, hv, _ => by
    have hpos := SignedFloat.add_pos hstart (hv v (by simp))
    exact foldl_add_pos values (start + v) (OrderedFloat.lt_iff.mp hpos).1
      (fun w hw => hv w (by simp [hw])) (.inl hpos)

theorem foldl_add_neg : ∀ (values : List D) (start : D), start ≤ 0 → (∀ v ∈ values, v < 0) →
    start < 0 ∨ values ≠ [] → values.foldl (· + ·) start < 0
  | [], start, _, _, h => h.resolve_right fun hne => hne rfl
  | v :: values, start, hstart, hv, _ => by
    have hneg := SignedFloat.add_neg hstart (hv v (by simp))
    exact foldl_add_neg values (start + v) (OrderedFloat.lt_iff.mp hneg).1
      (fun w hw => hv w (by simp [hw])) (.inl hneg)

theorem mean_pos (hne : values ≠ []) (hv : ∀ v ∈ values, 0 < v)
    (hquotient : QuotientSigned (values.foldl (· + ·) 0) values.length) :
    0 < (summarizeSigned F values).mean := by
  unfold summarizeSigned
  rw [if_neg hne]
  exact hquotient.1 (foldl_add_pos values 0 SignedFloat.zero_le_zero hv (.inr hne))

theorem mean_neg (hne : values ≠ []) (hv : ∀ v ∈ values, v < 0)
    (hquotient : QuotientSigned (values.foldl (· + ·) 0) values.length) :
    (summarizeSigned F values).mean < 0 := by
  unfold summarizeSigned
  rw [if_neg hne]
  exact hquotient.2 (foldl_add_neg values 0 SignedFloat.zero_le_zero hv (.inr hne))

end Summaries

variable [Floats F D]

/-- Clusters of deviations exceed the measurement error, to the side of their type, without
overlapping, and so do the regions measured from them, as long as the mean does not underflow. -/
theorem defects_exceed_budget [SignedFloat D] {host : Host F D} {scan : SurfaceView F}
    {field : DeviationField D} {config : ValidatedDetectionConfig D} {clusters : List DefectCluster}
    (h : clusterDeviationDefects host scan field config = .ok clusters) :
    (∀ cluster ∈ clusters, ∀ i ∈ cluster.pointIndices,
        (field.samples.getD i default).reason = .valid ∧
        config.measurementErrorBudgetMm <
          FloatArith.abs (field.samples.getD i default).signedMm ∧
        (cluster.type = .bump ∧ 0 < (field.samples.getD i default).signedMm ∨
          cluster.type = .dent ∧ (field.samples.getD i default).signedMm < 0)) ∧
      clusters.Pairwise (fun a b => a.pointIndices.Disjoint b.pointIndices) ∧
      ∀ cluster ∈ clusters, ∀ id region,
        measureDeviationRegion cluster scan field id = .ok region →
          config.measurementErrorBudgetMm < region.maxAbsMm ∧
          (QuotientSigned ((signedDeviations field cluster).foldl (· + ·) 0)
              (signedDeviations field cluster).length →
            region.type = .bump ∧ 0 < region.meanMm ∨ region.type = .dent ∧ region.meanMm < 0) := by
  refine ⟨fun cluster hc i hi => ?_, deviationClusters_disjoint h, ?_⟩
  · obtain ⟨hreason, hexceeds⟩ := deviationCluster_budget h hc hi
    exact ⟨hreason, hexceeds.budget, hexceeds.side⟩
  · intro cluster hc id region hregion
    obtain ⟨htype, hmax, hmean⟩ := measureDeviationRegion_ok hregion
    have hvalues : ∀ v ∈ signedDeviations field cluster, ExceedsBudget config cluster.type v := by
      intro v hv
      obtain ⟨i, hi, rfl⟩ := List.mem_map.mp hv
      exact (deviationCluster_budget h hc hi).2
    have hne : signedDeviations field cluster ≠ [] := by
      obtain ⟨bumps, dents, hbumps, hdents, rfl⟩ := clusterDeviationDefects_ok h
      unfold signedDeviations
      rw [ne_eq, List.map_eq_nil_iff]
      rcases List.mem_append.mp hc with hc | hc
      · exact (type_of_cluster hbumps hc).2
      · exact (type_of_cluster hdents hc).2
    obtain ⟨w, hw⟩ := List.exists_mem_of_ne_nil _ hne
    rw [htype, hmax, hmean]
    constructor
    · refine lt_le_trans (hvalues w hw).budget ?_
      exact (le_maxAbs_iff hne (fun v hv => (hvalues v hv).number) _).mpr
        ⟨w, hw, abs_number (hvalues w hw).number⟩
    · intro hquotient
      rcases (hvalues w hw).side with ⟨hbump, -⟩ | ⟨hdent, -⟩
      · refine .inl ⟨hbump, mean_pos hne (fun v hv => ?_) hquotient⟩
        have hside := (hvalues v hv).side
        simpa [hbump] using hside
      · refine .inr ⟨hdent, mean_neg hne (fun v hv => ?_) hquotient⟩
        have hside := (hvalues v hv).side
        simpa [hdent] using hside

theorem exactDetection_points : (2 : UInt32) ≠ 0 := by decide

def exactDetection : ValidatedDetectionConfig (Exact ℚ) where
  positiveThresholdMm := .fin (1 / 2)
  negativeThresholdMm := .fin (-1 / 2)
  clusterToleranceMm := .fin 1
  minClusterPoints := 2
  measurementErrorBudgetMm := .fin (1 / 4)
  positiveThreshold := by decide +kernel
  negativeThreshold := by decide +kernel
  clusterTolerance := by decide +kernel
  clusterPoints := exactDetection_points
  errorBudget := by decide +kernel
  positiveExceeds := by decide +kernel
  negativeExceeds := by decide +kernel

/-- Eight points on a line: three together, one apart, three together, one apart. -/
def deviantRow : SurfaceView (Exact ℚ) where
  points := [0, 1, 2, 4, 10, 11, 12, 20].map fun x : ℚ => exactPoint x 0 0
  normals := []
  valid := []
  grid := none
  unit := .millimeter
  frame := exactFrame
  logicalSize := 8

/-- Samples above and below the thresholds, two that count for neither, and a lone one above. -/
def deviantField : DeviationField (Exact ℚ) :=
  ⟨[⟨.fin 1, .fin 1, .fin 0, .valid⟩, ⟨.fin 2, .fin 2, .fin 0, .valid⟩,
    ⟨.fin 1, .fin (3 / 4), .fin 0, .valid⟩, ⟨.fin 1, .fin (1 / 4), .fin 0, .valid⟩,
    ⟨.fin 2, .fin (-2), .fin 0, .valid⟩, ⟨.fin 1, .fin (-1), .fin 0, .valid⟩,
    ⟨.fin 0, .fin 0, .fin 0, .normalMismatch⟩, ⟨.fin 3, .fin 3, .fin 0, .valid⟩], 7⟩

/-- A bump of three points and a dent of two. -/
theorem defects_exceed_budget_row : ∃ clusters,
    clusterDeviationDefects (Host.exhaustive fun _ => none) deviantRow deviantField
      exactDetection = .ok clusters ∧
    clusters = [⟨.bump, [0, 1, 2]⟩, ⟨.dent, [4, 5]⟩] ∧
    (∀ cluster ∈ clusters, ∀ i ∈ cluster.pointIndices,
      (deviantField.samples.getD i default).reason = .valid ∧
      .fin (1 / 4) < FloatArith.abs (deviantField.samples.getD i default).signedMm ∧
      (cluster.type = .bump ∧ 0 < (deviantField.samples.getD i default).signedMm ∨
        cluster.type = .dent ∧ (deviantField.samples.getD i default).signedMm < 0)) ∧
    clusters.Pairwise (fun a b => a.pointIndices.Disjoint b.pointIndices) ∧
    ∀ cluster ∈ clusters, ∃ region, measureDeviationRegion cluster deviantRow deviantField 0 =
        .ok region ∧ .fin (1 / 4) < region.maxAbsMm ∧
      (region.type = .bump ∧ 0 < region.meanMm ∨ region.type = .dent ∧ region.meanMm < 0) := by
  have h : clusterDeviationDefects (Host.exhaustive fun _ => none) deviantRow deviantField
      exactDetection = .ok [⟨.bump, [0, 1, 2]⟩, ⟨.dent, [4, 5]⟩] := by decide +kernel
  have hmeasured : ∀ cluster ∈ ([⟨.bump, [0, 1, 2]⟩, ⟨.dent, [4, 5]⟩] : List DefectCluster),
      0 < (signedDeviations deviantField cluster).length ∧
        (measureDeviationRegion cluster deviantRow deviantField 0).isOk = true := by decide +kernel
  obtain ⟨hmembers, hdisjoint, hregions⟩ := defects_exceed_budget h
  refine ⟨_, h, rfl, hmembers, hdisjoint, fun cluster hc => ?_⟩
  obtain ⟨hlength, hok⟩ := hmeasured cluster hc
  obtain ⟨region, hregion⟩ := exists_ok hok
  obtain ⟨hmax, hmean⟩ := hregions cluster hc 0 region hregion
  exact ⟨region, hregion, hmax, hmean (Exact.quotientSigned_exact hlength)⟩

end PointcloudAd
