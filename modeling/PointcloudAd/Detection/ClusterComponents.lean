import Mathlib.Data.List.Sort
import PointcloudAd.Detection.Components
import PointcloudAd.Detection.ErrorBudget

/-!
# Clustering by components

The searches around some candidates answer with positions of candidates. The labels of the
candidates are the components of what the answers connect, numbered by their first candidate, and
the clusters of a class are its components of enough members.
-/

namespace PointcloudAd

open Library

variable {F D : Type} [FloatArith F] [FloatArith D]

/-- The searches around the points of a cloud answer with these positions of the cloud. -/
def Answers (pcl : Pcl F D) (cloud : List (Vec3 F)) (tolerance : D) (answers : ℕ → List ℕ) : Prop :=
  ∀ candidate < cloud.length,
    candidateNeighbors pcl cloud tolerance candidate = .ok ((answers candidate).map Int.ofNat) ∧
      ∀ neighbor ∈ answers candidate, neighbor < cloud.length

/-- The reflexive, symmetric and transitive closure of the answers. -/
def Connects (size : ℕ) (answers : ℕ → List ℕ) : Fin size → Fin size → Prop :=
  Relation.EqvGen fun a b => (b : ℕ) ∈ answers a

/-- The candidates that are connected to one of them. -/
def component (candidates : List ℕ) (answers : ℕ → List ℕ) (v : Fin candidates.length) :
    Set (Fin candidates.length) :=
  { w | Connects candidates.length answers v w }

/-- The clusters of a class are the components of its candidates with enough members, each in
ascending order; a member of such a component is in one cluster. -/
structure ComponentClusters (candidates : List ℕ) (answers : ℕ → List ℕ) (type : DefectType)
    (minClusterPoints : ℕ) (clusters : List DefectCluster) : Prop where
  exact : ∀ cluster, cluster ∈ clusters ↔
    cluster.type = type ∧ cluster.pointIndices.Pairwise (· < ·) ∧
      ∃ v : Fin candidates.length, minClusterPoints ≤ (component candidates answers v).ncard ∧
        ∀ i, i ∈ cluster.pointIndices ↔ ∃ w ∈ component candidates answers v, candidates.get w = i
  disjoint : clusters.Pairwise fun a b => a.pointIndices.Disjoint b.pointIndices
  once : ∀ v : Fin candidates.length, minClusterPoints ≤ (component candidates answers v).ncard →
    ∃! cluster, cluster ∈ clusters ∧ candidates.get v ∈ cluster.pointIndices

section Labels

variable {pcl : Pcl F D} {surface : SurfaceView F} {candidates : List ℕ} {tolerance : D}
  {answers : ℕ → List ℕ}

omit [FloatArith D] in
theorem Answers.inRange {cloud : List (Vec3 F)} (h : Answers pcl cloud tolerance answers) :
    ∀ candidate < cloud.length, ∀ found,
      candidateNeighbors pcl cloud tolerance candidate = .ok found →
        ∀ neighbor ∈ found, 0 ≤ neighbor ∧ neighbor < cloud.length := by
  intro candidate hc found hfound neighbor hneighbor
  obtain ⟨hanswer, hrange⟩ := h candidate hc
  obtain rfl := Except.ok.inj (hfound.symm.trans hanswer)
  obtain ⟨n, hn, rfl⟩ := List.mem_map.mp hneighbor
  have := hrange n hn
  exact ⟨Int.natCast_nonneg n, by simpa using this⟩

omit [FloatArith D] in
theorem Answers.returns_iff {cloud : List (Vec3 F)} (h : Answers pcl cloud tolerance answers)
    {candidate : ℕ} (hc : candidate < cloud.length) (neighbor : ℕ) :
    Returns pcl cloud tolerance candidate neighbor ↔ neighbor ∈ answers candidate := by
  obtain ⟨hanswer, -⟩ := h candidate hc
  constructor
  · rintro ⟨found, hfound, hmem⟩
    obtain rfl := Except.ok.inj (hfound.symm.trans hanswer)
    obtain ⟨n, hn, he⟩ := List.mem_map.mp hmem
    rwa [← Int.ofNat.inj he]
  · intro hmem
    exact ⟨_, hanswer, List.mem_map.mpr ⟨neighbor, hmem, rfl⟩⟩

omit [FloatArith D] in
theorem Answers.reachable_iff
    (h : Answers pcl (candidateCloud surface candidates) tolerance answers)
    (v w : Fin candidates.length) :
    (candidateGraph pcl surface candidates tolerance).Reachable v w ↔
      Connects candidates.length answers v w := by
  have hcloud : (candidateCloud surface candidates).length = candidates.length := List.length_map _
  have hrel : (fun a b : Fin candidates.length =>
      Returns pcl (candidateCloud surface candidates) tolerance a b) =
        fun a b : Fin candidates.length => (b : ℕ) ∈ answers a := by
    funext a b
    exact propext (h.returns_iff (by rw [hcloud]; exact a.2) b)
  rw [candidateGraph, reachable_fromRel_iff, hrel]
  rfl

/-- The clustering of some candidates ends in the labels of their components. -/
theorem Answers.labels (h : Answers pcl (candidateCloud surface candidates) tolerance answers)
    (htolerance : ¬ (¬ isFinite tolerance ∨ tolerance ≤ 0)) :
    ∃ labels, euclideanCluster pcl surface candidates tolerance = .ok labels ∧
      labels.length = candidates.length ∧ NumberedByFirst labels ∧
      ∀ v w : Fin candidates.length, labels[(v : ℕ)]? = labels[(w : ℕ)]? ↔
        Connects candidates.length answers v w := by
  have hcloud : (candidateCloud surface candidates).length = candidates.length := List.length_map _
  obtain ⟨labels, hlabels⟩ := euclideanCluster_succeeds htolerance fun candidate hc =>
    ⟨_, (h candidate (by rwa [hcloud])).1⟩
  obtain ⟨hlength, hnumbered, hreach⟩ := euclideanCluster_labels (by
    have hrange := h.inRange
    rwa [hcloud] at hrange) hlabels
  refine ⟨labels, hlabels, hlength, hnumbered, fun v w => ?_⟩
  rw [hreach, h.reachable_iff]

theorem Answers.labels_unique {pcl' : Pcl F D} {answers' : ℕ → List ℕ}
    (h : Answers pcl (candidateCloud surface candidates) tolerance answers)
    (h' : Answers pcl' (candidateCloud surface candidates) tolerance answers')
    (hsame : ∀ a b, b ∈ answers' a ↔ b ∈ answers a)
    (htolerance : ¬ (¬ isFinite tolerance ∨ tolerance ≤ 0)) :
    euclideanCluster pcl' surface candidates tolerance =
      euclideanCluster pcl surface candidates tolerance := by
  obtain ⟨labels, hlabels, hlength, hnumbered, hclasses⟩ := h.labels htolerance
  obtain ⟨labels', hlabels', hlength', hnumbered', hclasses'⟩ := h'.labels htolerance
  have hconnects : Connects candidates.length answers' = Connects candidates.length answers := by
    unfold Connects
    simp only [hsame]
  rw [hlabels, hlabels', hnumbered'.eq hnumbered (hlength'.trans hlength.symm)]
  intro i j hi hj
  rw [hlength'] at hi hj
  exact (hclasses' ⟨i, hi⟩ ⟨j, hj⟩).trans (hconnects ▸ (hclasses ⟨i, hi⟩ ⟨j, hj⟩).symm)

end Labels

section Groups

variable {labels : List ℤ} {candidates : List ℕ} {answers : ℕ → List ℕ}

omit [FloatArith F] [FloatArith D] in
theorem groupOf_sublist (hlength : labels.length = candidates.length) (label : ℤ) :
    (groupOf labels candidates label).Sublist candidates := by
  have hsnd : (labels.zip candidates).map Prod.snd = candidates :=
    List.map_snd_zip hlength.ge
  have hsub : (groupOf labels candidates label).Sublist ((labels.zip candidates).map Prod.snd) :=
    List.filter_sublist.map Prod.snd
  rwa [hsnd] at hsub

omit [FloatArith F] [FloatArith D] in
theorem mem_groupOf_iff (hlength : labels.length = candidates.length) (label : ℤ) (i : ℕ) :
    i ∈ groupOf labels candidates label ↔
      ∃ w : Fin candidates.length, labels[(w : ℕ)]? = some label ∧ candidates.get w = i := by
  rw [groupOf_eq hlength, List.mem_map]
  refine exists_congr fun w => ?_
  simp

variable {mapOrder : List ℤ → List ℤ} {type : DefectType} {minClusterPoints : UInt32}

omit [FloatArith F] [FloatArith D] in
/-- The groups of the labels of components are the clusters of these components. -/
theorem groupCandidates_components (hmap : ∀ keys, (mapOrder keys).Perm keys)
    (hlength : labels.length = candidates.length) (hsorted : candidates.Pairwise (· < ·))
    (hclasses : ∀ v w : Fin candidates.length, labels[(v : ℕ)]? = labels[(w : ℕ)]? ↔
      Connects candidates.length answers v w) :
    ComponentClusters candidates answers type minClusterPoints.toNat
      (groupCandidates mapOrder type minClusterPoints labels candidates) := by
  have hnodup : candidates.Nodup := hsorted.imp Nat.ne_of_lt
  have hlabel : ∀ v : Fin candidates.length, ∃ label, labels[(v : ℕ)]? = some label := fun v =>
    ⟨_, List.getElem?_eq_getElem (by rw [hlength]; exact v.2)⟩
  have hmem : ∀ (v : Fin candidates.length) (label : ℤ), labels[(v : ℕ)]? = some label → ∀ i,
      i ∈ groupOf labels candidates label ↔
        ∃ w ∈ component candidates answers v, candidates.get w = i := by
    intro v label hv i
    rw [mem_groupOf_iff hlength]
    refine exists_congr fun w => and_congr_left fun _ => ?_
    rw [← hv, eq_comm, hclasses]
    rfl
  have hreach : ∀ v w : Fin candidates.length, labels[(v : ℕ)]? = labels[(w : ℕ)]? ↔
      (SimpleGraph.fromRel fun a b : Fin candidates.length => (b : ℕ) ∈ answers a).Reachable v w :=
    fun v w => (hclasses v w).trans reachable_fromRel_iff.symm
  have hsupp : ∀ v : Fin candidates.length, ((SimpleGraph.fromRel
      fun a b : Fin candidates.length => (b : ℕ) ∈ answers a).connectedComponentMk v).supp =
        component candidates answers v := by
    intro v
    ext w
    rw [SimpleGraph.ConnectedComponent.mem_supp_iff, SimpleGraph.ConnectedComponent.eq,
      reachable_fromRel_iff]
    exact ⟨.symm _ _, .symm _ _⟩
  have hexact : ∀ cluster,
      cluster ∈ groupCandidates mapOrder type minClusterPoints labels candidates ↔
        cluster.type = type ∧ cluster.pointIndices.Pairwise (· < ·) ∧
          ∃ v : Fin candidates.length,
            minClusterPoints.toNat ≤ (component candidates answers v).ncard ∧
              ∀ i, i ∈ cluster.pointIndices ↔
                ∃ w ∈ component candidates answers v, candidates.get w = i := by
    intro cluster
    rw [mem_groupCandidates_iff hmap hlength hreach]
    simp only [hsupp]
    constructor
    · rintro ⟨v, hmin, rfl⟩
      obtain ⟨label, hv⟩ := hlabel v
      have hget : labels.get ⟨v, by rw [hlength]; exact v.2⟩ = label :=
        Option.some.inj ((List.getElem?_eq_getElem _).symm.trans hv)
      rw [hget]
      exact ⟨rfl, hsorted.sublist (groupOf_sublist hlength label), v, hmin, hmem v label hv⟩
    · rintro ⟨htype, hascending, v, hmin, hmembers⟩
      obtain ⟨label, hv⟩ := hlabel v
      have hget : labels.get ⟨v, by rw [hlength]; exact v.2⟩ = label :=
        Option.some.inj ((List.getElem?_eq_getElem _).symm.trans hv)
      refine ⟨v, hmin, ?_⟩
      rw [hget, ← htype]
      have hindices : cluster.pointIndices = groupOf labels candidates label :=
        hascending.eq_of_mem_iff (hsorted.sublist (groupOf_sublist hlength label)) fun {i} =>
          (hmembers i).trans (hmem v label hv i).symm
      rw [← hindices]
  have hdisjoint : (groupCandidates mapOrder type minClusterPoints labels candidates).Pairwise
      fun a b => a.pointIndices.Disjoint b.pointIndices :=
    groupCandidates_disjoint hmap hnodup type minClusterPoints labels
  refine ⟨hexact, hdisjoint, fun v hmin => ?_⟩
  obtain ⟨label, hv⟩ := hlabel v
  have hself : candidates[v] ∈ groupOf labels candidates label :=
    (hmem v label hv _).mpr ⟨v, .refl v, rfl⟩
  have hin : (⟨type, groupOf labels candidates label⟩ : DefectCluster) ∈
      groupCandidates mapOrder type minClusterPoints labels candidates :=
    (hexact _).mpr ⟨rfl, hsorted.sublist (groupOf_sublist hlength label), v, hmin, hmem v label hv⟩
  refine ⟨_, ⟨hin, hself⟩, fun cluster ⟨hcluster, hi⟩ => ?_⟩
  by_contra hne
  have hsymm : Std.Symm fun a b : DefectCluster => a.pointIndices.Disjoint b.pointIndices :=
    ⟨fun _ _ h => h.symm⟩
  exact hdisjoint.forall hcluster hin hne hi hself

end Groups

section Classes

variable [OrderedFloat D] {host : Host F D} {answers : ℕ → List ℕ}

theorem clusterCandidates_components {surface : SurfaceView F} {candidates : List ℕ}
    (type : DefectType) (config : ValidatedDetectionConfig D)
    (hsorted : candidates.Pairwise (· < ·))
    (h : Answers host.pcl (candidateCloud surface candidates) config.clusterToleranceMm answers) :
    ∃ clusters, clusterCandidates host surface type candidates config = .ok clusters ∧
      ComponentClusters candidates answers type config.minClusterPoints.toNat clusters := by
  unfold clusterCandidates
  split_ifs with hempty
  · subst hempty
    refine ⟨[], rfl, ⟨fun cluster => ?_, List.Pairwise.nil,
      fun v => absurd v.2 (Nat.not_lt_zero v)⟩⟩
    simp only [List.not_mem_nil, false_iff]
    rintro ⟨-, -, v, -⟩
    exact Nat.not_lt_zero v v.2
  · obtain ⟨labels, hlabels, hlength, -, hclasses⟩ :=
      h.labels (positiveFinite.accepted config.clusterTolerance)
    rw [hlabels]
    exact ⟨_, rfl, groupCandidates_components host.mapOrder_perm hlength hsorted hclasses⟩

omit [FloatArith F] [FloatArith D] [OrderedFloat D] in
theorem candidateIndices_sorted {α : Type} [Inhabited α] (samples : List α) (selected : α → Bool) :
    (candidateIndices samples selected).Pairwise (· < ·) :=
  List.pairwise_lt_range.sublist List.filter_sublist

/-- What the searches around some candidates answer determines their labels and, for the candidates
of a field, their clusters. -/
theorem euclideanCluster_components (host : Host F D) :
    (∀ surface candidates tolerance answers, isFinite tolerance = true → ¬ tolerance ≤ 0 →
      Answers host.pcl (candidateCloud surface candidates) tolerance answers →
      ∃ labels, euclideanCluster host.pcl surface candidates tolerance = .ok labels ∧
        labels.length = candidates.length ∧
        (∀ v w : Fin candidates.length, labels[(v : ℕ)]? = labels[(w : ℕ)]? ↔
          Connects candidates.length answers v w) ∧
        NumberedByFirst labels ∧
        ∀ pcl' answers', Answers pcl' (candidateCloud surface candidates) tolerance answers' →
          (∀ a b, b ∈ answers' a ↔ b ∈ answers a) →
          euclideanCluster pcl' surface candidates tolerance = .ok labels) ∧
    (∀ scan field config bumpAnswers dentAnswers, scan.unit = .millimeter →
      field.samples.length = scan.storageSize →
      Answers host.pcl (candidateCloud scan
        (candidateIndices field.samples (exceedsPositive config.positiveThresholdMm)))
        config.clusterToleranceMm bumpAnswers →
      Answers host.pcl (candidateCloud scan
        (candidateIndices field.samples (exceedsNegative config.negativeThresholdMm)))
        config.clusterToleranceMm dentAnswers →
      ∃ bumps dents, clusterDeviationDefects host scan field config = .ok (bumps ++ dents) ∧
        ComponentClusters
          (candidateIndices field.samples (exceedsPositive config.positiveThresholdMm)) bumpAnswers
          .bump config.minClusterPoints.toNat bumps ∧
        ComponentClusters
          (candidateIndices field.samples (exceedsNegative config.negativeThresholdMm)) dentAnswers
          .dent config.minClusterPoints.toNat dents) ∧
    ∀ reference field config answers, reference.unit = .millimeter →
      field.samples.length = reference.storageSize →
      Answers host.pcl (candidateCloud reference (candidateIndices field.samples isMissing))
        config.clusterToleranceMm answers →
      ∃ clusters, clusterMissingMaterial host reference field config = .ok clusters ∧
        ComponentClusters (candidateIndices field.samples isMissing) answers .missingMaterial
          config.minClusterPoints.toNat clusters := by
  refine ⟨?_, ?_, ?_⟩
  · intro surface candidates tolerance answers hfinite hpositive h
    have htolerance : ¬ (¬ isFinite tolerance = true ∨ tolerance ≤ 0) :=
      not_or.mpr ⟨not_not.mpr hfinite, hpositive⟩
    obtain ⟨labels, hlabels, hlength, hnumbered, hclasses⟩ := h.labels htolerance
    refine ⟨labels, hlabels, hlength, hclasses, hnumbered, fun pcl' answers' h' hsame => ?_⟩
    rw [h.labels_unique h' hsame htolerance, hlabels]
  · intro scan field config bumpAnswers dentAnswers hunit hlength hbumps hdents
    obtain ⟨bumps, hok, hclusters⟩ := clusterCandidates_components .bump config
      (candidateIndices_sorted _ _) hbumps
    obtain ⟨dents, hok', hclusters'⟩ := clusterCandidates_components .dent config
      (candidateIndices_sorted _ _) hdents
    refine ⟨bumps, dents, ?_, hclusters, hclusters'⟩
    unfold clusterDeviationDefects
    rw [if_neg (not_not.mpr hunit), if_neg (not_not.mpr hlength), hok, hok']
    rfl
  · intro reference field config answers hunit hlength h
    obtain ⟨clusters, hok, hclusters⟩ := clusterCandidates_components .missingMaterial config
      (candidateIndices_sorted _ _) h
    refine ⟨clusters, ?_, hclusters⟩
    unfold clusterMissingMaterial
    rw [if_neg (not_not.mpr hunit), if_neg (not_not.mpr hlength), hok]

end Classes

/-- Two near candidates and one away from them. -/
def exactTriple : SurfaceView (Exact ℚ) where
  points := [exactPoint 0 0 0, exactPoint 5 0 0, exactPoint 1 0 0]
  normals := []
  valid := []
  grid := none
  unit := .millimeter
  frame := exactFrame
  logicalSize := 3

/-- The labels of three candidates, and the clusters of three bumps, a lone bump and two dents. -/
theorem euclideanCluster_components_triple :
    (∃ labels, euclideanCluster (Pcl.exhaustive fun _ => none) exactTriple [0, 1, 2] (.fin 2) =
        .ok labels ∧ labels.length = 3 ∧ NumberedByFirst labels) ∧
      ∃ bumps dents, clusterDeviationDefects (Host.exhaustive fun _ => none) deviantRow
          deviantField exactDetection = .ok (bumps ++ dents) ∧
        ComponentClusters [0, 1, 2, 7]
          (fun k => [[0, 1], [1, 0, 2], [2, 1], [3]].getD k []) .bump 2 bumps ∧
        ComponentClusters [4, 5] (fun k => [[0, 1], [1, 0]].getD k []) .dent 2 dents := by
  constructor
  · obtain ⟨labels, hok, hlength, -, hnumbered, -⟩ :=
      (euclideanCluster_components (Host.exhaustive fun _ => none)).1 exactTriple [0, 1, 2] (.fin 2)
        (fun candidate => if candidate = 0 then [0, 2] else if candidate = 1 then [1] else [2, 0])
        rfl (by decide +kernel)
        (by unfold Answers; decide +kernel)
    exact ⟨labels, hok, hlength, hnumbered⟩
  · have h := (euclideanCluster_components (Host.exhaustive fun _ => none)).2.1 deviantRow
      deviantField exactDetection (fun k => [[0, 1], [1, 0, 2], [2, 1], [3]].getD k [])
      (fun k => [[0, 1], [1, 0]].getD k []) rfl rfl
      (by unfold Answers; decide +kernel) (by unfold Answers; decide +kernel)
    have hbumps : candidateIndices deviantField.samples
        (exceedsPositive exactDetection.positiveThresholdMm) = [0, 1, 2, 7] := by decide +kernel
    have hdents : candidateIndices deviantField.samples
        (exceedsNegative exactDetection.negativeThresholdMm) = [4, 5] := by decide +kernel
    rw [hbumps, hdents] at h
    exact h

end PointcloudAd
