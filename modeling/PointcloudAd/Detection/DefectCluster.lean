import PointcloudAd.Backends.PclCluster
import PointcloudAd.Comparison.Fields

/-!
# Defect clusters

Bump and dent candidates from the deviation field and missing-material candidates from the coverage
field, each class clustered on its own. Groups come in the order of the host's hash map.
-/

namespace PointcloudAd

open Library

variable {F D : Type} [FloatArith F] [FloatArith D]

inductive DefectType where
  | dent | bump | missingMaterial
  deriving DecidableEq, Repr

structure DefectCluster where
  type : DefectType
  pointIndices : List ℕ
  deriving DecidableEq, Repr

def detectionError (code : ErrorCode) (field reason : String) : Error :=
  ⟨code, .detect, "defect clustering failed", [("field", field), ("reason", reason)]⟩

/-- The candidates of one label, in their order. -/
def groupOf (labels : List ℤ) (candidates : List ℕ) (label : ℤ) : List ℕ :=
  ((labels.zip candidates).filter fun entry => entry.1 = label).map Prod.snd

/-- The groups of at least `minClusterPoints` candidates, in the order of the hash map. -/
def groupCandidates (mapOrder : List ℤ → List ℤ) (type : DefectType) (minClusterPoints : UInt32)
    (labels : List ℤ) (candidates : List ℕ) : List DefectCluster :=
  ((mapOrder labels.eraseDups).map (groupOf labels candidates)).filterMap fun indices =>
    if indices.length < minClusterPoints.toNat then none else some ⟨type, indices⟩

/-- The clusters of one class of candidates. -/
def clusterCandidates (host : Host F D) (surface : SurfaceView F) (type : DefectType)
    (candidates : List ℕ) (config : ValidatedDetectionConfig D) : Result (List DefectCluster) :=
  if candidates = [] then .ok []
  else
    (euclideanCluster host.pcl surface candidates config.clusterToleranceMm).map fun labels =>
      groupCandidates host.mapOrder type config.minClusterPoints labels candidates

/-- The slots of a field whose sample satisfies a condition. -/
def candidateIndices {α : Type} [Inhabited α] (samples : List α) (selected : α → Bool) : List ℕ :=
  (List.range samples.length).filter fun index => selected (samples.getD index default)

def exceedsPositive (threshold : D) (sample : DeviationSample D) : Bool :=
  sample.reason = .valid && threshold < sample.signedMm

def exceedsNegative (threshold : D) (sample : DeviationSample D) : Bool :=
  sample.reason = .valid && sample.signedMm < threshold

def clusterDeviationDefects (host : Host F D) (scan : SurfaceView F) (field : DeviationField D)
    (config : ValidatedDetectionConfig D) : Result (List DefectCluster) :=
  if scan.unit ≠ .millimeter then
    .error (detectionError .invalidInput "aligned_scan.unit" "must be normalized to millimetres")
  else if field.samples.length ≠ scan.storageSize then
    .error (detectionError .invalidInput "field" "must span the aligned scan storage layout")
  else do
    let bumps ← clusterCandidates host scan .bump
      (candidateIndices field.samples (exceedsPositive config.positiveThresholdMm)) config
    let dents ← clusterCandidates host scan .dent
      (candidateIndices field.samples (exceedsNegative config.negativeThresholdMm)) config
    return bumps ++ dents

def isMissing (sample : CoverageSample D) : Bool := sample.reason = .noNeighbor

def clusterMissingMaterial (host : Host F D) (reference : SurfaceView F) (field : CoverageField D)
    (config : ValidatedDetectionConfig D) : Result (List DefectCluster) :=
  if reference.unit ≠ .millimeter then
    .error (detectionError .invalidInput "reference.unit" "must be normalized to millimetres")
  else if field.samples.length ≠ reference.storageSize then
    .error (detectionError .invalidInput "field" "must span the reference storage layout")
  else
    clusterCandidates host reference .missingMaterial
      (candidateIndices field.samples isMissing) config

omit [FloatArith F] in
theorem nodup_eraseDups : ∀ labels : List ℤ, labels.eraseDups.Nodup
  | [] => by simp
  | label :: labels => by
    have hrest := nodup_eraseDups (labels.filter fun other => !other == label)
    rw [List.eraseDups_cons, List.nodup_cons, List.mem_eraseDups]
    exact ⟨by simp, hrest⟩
termination_by labels => labels.length
decreasing_by
  have := List.length_filter_le (fun other => !other == label) labels
  simp only [List.length_cons]
  omega

omit [FloatArith F] in
theorem mem_of_mem_groupOf {labels : List ℤ} {candidates : List ℕ} {label : ℤ} {i : ℕ}
    (h : i ∈ groupOf labels candidates label) : i ∈ candidates := by
  unfold groupOf at h
  obtain ⟨entry, hentry, rfl⟩ := List.mem_map.mp h
  exact (List.of_mem_zip (List.mem_of_mem_filter hentry)).2

section

variable {host : Host F D} {surface : SurfaceView F} {type : DefectType} {candidates : List ℕ}
  {config : ValidatedDetectionConfig D} {clusters : List DefectCluster} {cluster : DefectCluster}

theorem clusterCandidates_ok
    (h : clusterCandidates host surface type candidates config = .ok clusters) :
    candidates = [] ∧ clusters = [] ∨ candidates ≠ [] ∧ ∃ labels,
      euclideanCluster host.pcl surface candidates config.clusterToleranceMm = .ok labels ∧
      groupCandidates host.mapOrder type config.minClusterPoints labels candidates = clusters := by
  unfold clusterCandidates at h
  split_ifs at h with hempty
  · exact .inl ⟨hempty, (Except.ok.inj h).symm⟩
  · exact .inr ⟨hempty, map_ok_iff.mp h⟩

theorem group_of_cluster
    (h : clusterCandidates host surface type candidates config = .ok clusters)
    (hc : cluster ∈ clusters) : ∃ labels label,
      euclideanCluster host.pcl surface candidates config.clusterToleranceMm = .ok labels ∧
      label ∈ labels.eraseDups ∧ cluster = ⟨type, groupOf labels candidates label⟩ ∧
      ¬ cluster.pointIndices.length < config.minClusterPoints.toNat := by
  rcases clusterCandidates_ok h with ⟨-, rfl⟩ | ⟨-, labels, hlabels, rfl⟩
  · cases hc
  · unfold groupCandidates at hc
    obtain ⟨indices, hindices, hkept⟩ := List.mem_filterMap.mp hc
    obtain ⟨label, hlabel, rfl⟩ := List.mem_map.mp hindices
    split_ifs at hkept with hsmall
    obtain rfl := Option.some.inj hkept
    exact ⟨labels, label, hlabels, (host.mapOrder_perm _).mem_iff.mp hlabel, rfl, hsmall⟩

theorem mem_candidates_of_cluster
    (h : clusterCandidates host surface type candidates config = .ok clusters)
    (hc : cluster ∈ clusters) : ∀ i ∈ cluster.pointIndices, i ∈ candidates := by
  obtain ⟨labels, label, -, -, rfl, -⟩ := group_of_cluster h hc
  exact fun i hi => mem_of_mem_groupOf hi

theorem type_of_cluster
    (h : clusterCandidates host surface type candidates config = .ok clusters)
    (hc : cluster ∈ clusters) : cluster.type = type ∧ cluster.pointIndices ≠ [] := by
  obtain ⟨labels, label, -, -, rfl, hsmall⟩ := group_of_cluster h hc
  refine ⟨rfl, fun hempty => hsmall ?_⟩
  rw [hempty, List.length_nil, Nat.pos_iff_ne_zero]
  exact fun he => config.clusterPoints (UInt32.toNat_inj.mp he)

end

theorem mem_candidateIndices {α : Type} [Inhabited α] {samples : List α} {selected : α → Bool}
    {i : ℕ} : i ∈ candidateIndices samples selected ↔
      i < samples.length ∧ selected (samples.getD i default) = true := by
  simp [candidateIndices]

omit [FloatArith F] in
theorem reason_of_exceedsPositive {samples : List (DeviationSample D)} {threshold : D} {i : ℕ}
    (h : i ∈ candidateIndices samples (exceedsPositive threshold)) :
    (samples.getD i default).reason = .valid := by
  have hselected := (mem_candidateIndices.mp h).2
  simp only [exceedsPositive, Bool.and_eq_true, decide_eq_true_eq] at hselected
  exact hselected.1

omit [FloatArith F] in
theorem reason_of_exceedsNegative {samples : List (DeviationSample D)} {threshold : D} {i : ℕ}
    (h : i ∈ candidateIndices samples (exceedsNegative threshold)) :
    (samples.getD i default).reason = .valid := by
  have hselected := (mem_candidateIndices.mp h).2
  simp only [exceedsNegative, Bool.and_eq_true, decide_eq_true_eq] at hselected
  exact hselected.1

omit [FloatArith F] in
theorem reason_of_isMissing {samples : List (CoverageSample D)} {i : ℕ}
    (h : i ∈ candidateIndices samples isMissing) :
    (samples.getD i default).reason = .noNeighbor := by
  have hselected := (mem_candidateIndices.mp h).2
  simpa only [isMissing, decide_eq_true_eq] using hselected

section

variable {host : Host F D} {surface : SurfaceView F} {config : ValidatedDetectionConfig D}
  {clusters : List DefectCluster}

/-- The bumps come before the dents. -/
theorem clusterDeviationDefects_ok {field : DeviationField D}
    (h : clusterDeviationDefects host surface field config = .ok clusters) :
    ∃ bumps dents,
      clusterCandidates host surface .bump
        (candidateIndices field.samples (exceedsPositive config.positiveThresholdMm)) config =
          .ok bumps ∧
      clusterCandidates host surface .dent
        (candidateIndices field.samples (exceedsNegative config.negativeThresholdMm)) config =
          .ok dents ∧
      clusters = bumps ++ dents := by
  unfold clusterDeviationDefects at h
  split_ifs at h
  simp only [bind_ok_iff, pure, Except.pure, Except.ok.injEq] at h
  obtain ⟨bumps, hbumps, dents, hdents, rfl⟩ := h
  exact ⟨bumps, dents, hbumps, hdents, rfl⟩

theorem clusterMissingMaterial_ok {field : CoverageField D}
    (h : clusterMissingMaterial host surface field config = .ok clusters) :
    clusterCandidates host surface .missingMaterial (candidateIndices field.samples isMissing)
      config = .ok clusters := by
  unfold clusterMissingMaterial at h
  split_ifs at h
  exact h

theorem reason_of_deviationCluster {field : DeviationField D}
    (h : clusterDeviationDefects host surface field config = .ok clusters) {cluster : DefectCluster}
    (hc : cluster ∈ clusters) {i : ℕ} (hi : i ∈ cluster.pointIndices) :
    (field.samples.getD i default).reason = .valid := by
  obtain ⟨bumps, dents, hbumps, hdents, rfl⟩ := clusterDeviationDefects_ok h
  rcases List.mem_append.mp hc with hb | hd
  · exact reason_of_exceedsPositive (mem_candidates_of_cluster hbumps hb i hi)
  · exact reason_of_exceedsNegative (mem_candidates_of_cluster hdents hd i hi)

theorem reason_of_missingCluster {field : CoverageField D}
    (h : clusterMissingMaterial host surface field config = .ok clusters) {cluster : DefectCluster}
    (hc : cluster ∈ clusters) {i : ℕ} (hi : i ∈ cluster.pointIndices) :
    (field.samples.getD i default).reason = .noNeighbor :=
  reason_of_isMissing (mem_candidates_of_cluster (clusterMissingMaterial_ok h) hc i hi)

end

theorem euclideanCluster_congr {s t : SurfaceView F} {candidates : List ℕ}
    (h : ∀ i ∈ candidates, s.points.getD i default = t.points.getD i default) (pcl : Pcl F D)
    (tolerance : D) :
    euclideanCluster pcl s candidates tolerance = euclideanCluster pcl t candidates tolerance := by
  have hcloud : candidateCloud s candidates = candidateCloud t candidates := List.map_congr_left h
  unfold euclideanCluster
  dsimp only
  rw [hcloud]

theorem clusterCandidates_congr {s t : SurfaceView F} {candidates : List ℕ}
    (h : ∀ i ∈ candidates, s.points.getD i default = t.points.getD i default) (host : Host F D)
    (type : DefectType) (config : ValidatedDetectionConfig D) :
    clusterCandidates host s type candidates config =
      clusterCandidates host t type candidates config := by
  unfold clusterCandidates
  rw [euclideanCluster_congr h]

end PointcloudAd
