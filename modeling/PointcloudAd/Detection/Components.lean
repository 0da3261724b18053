import PointcloudAd.Detection.DefectCluster
import PointcloudAd.Library.Components
import PointcloudAd.Library.Numbering

/-!
# Components of candidates

The clusters of a class of candidates are the connected components of its candidates that have
enough members, in the graph of the radius searches.
-/

namespace PointcloudAd

open Library

variable {F D : Type} [FloatArith F] [FloatArith D]

omit [FloatArith F] [FloatArith D] in
/-- Radius searches return positions of the cloud they search. -/
def Pcl.SearchesInRange (pcl : Pcl F D) : Prop :=
  ∀ cloud point radius found, pcl.radiusSearch cloud point radius = .ok found →
    ∀ entry ∈ found, 0 ≤ entry.1 ∧ entry.1 < cloud.length

/-- The search around a candidate returns another one. -/
def Returns (pcl : Pcl F D) (cloud : List (Vec3 F)) (tolerance : D)
    (candidate neighbor : ℕ) : Prop :=
  ∃ found, candidateNeighbors pcl cloud tolerance candidate = .ok found ∧ (neighbor : ℤ) ∈ found

/-- The positions of the candidates, linked when the search around one returns the other. -/
def candidateGraph (pcl : Pcl F D) (surface : SurfaceView F) (candidates : List ℕ) (tolerance : D) :
    SimpleGraph (Fin candidates.length) :=
  SimpleGraph.fromRel fun a b => Returns pcl (candidateCloud surface candidates) tolerance a b

section Labels

variable {pcl : Pcl F D} {cloud : List (Vec3 F)} {tolerance : D}

omit [FloatArith D] in
theorem candidateNeighbors_inRange (hpcl : pcl.SearchesInRange) {candidate : ℕ} {found : List ℤ}
    (h : candidateNeighbors pcl cloud tolerance candidate = .ok found) :
    ∀ neighbor ∈ found, 0 ≤ neighbor ∧ neighbor < cloud.length := by
  unfold candidateNeighbors at h
  obtain ⟨entries, hsearch, rfl⟩ := map_ok_iff.mp h
  intro neighbor hneighbor
  obtain ⟨entry, hentry, rfl⟩ := List.mem_map.mp hneighbor
  exact hpcl _ _ _ _ hsearch entry hentry

omit [FloatArith D] in
/-- The unions of a loop over some candidates. -/
theorem uniteNeighbors_pairs : ∀ (l : List ℕ)
    (_ : ∀ candidate ∈ l, ∀ found, candidateNeighbors pcl cloud tolerance candidate = .ok found →
      ∀ neighbor ∈ found, 0 ≤ neighbor ∧ neighbor < cloud.length) (sets sets' : UnionFind),
    l.foldlM (uniteCandidate pcl cloud tolerance) sets = .ok sets' →
    ∃ pairs, sets' = sets.uniteAll pairs ∧
      ∀ a b, (a, b) ∈ pairs ↔ a ∈ l ∧ Returns pcl cloud tolerance a b
  | [], _, sets, sets', h => by
    cases h
    exact ⟨[], rfl, fun a b => by simp⟩
  | candidate :: l, hrange, sets, sets', h => by
    rw [List.foldlM_cons] at h
    simp only [uniteCandidate, bind_ok_iff, pure, Except.pure, Except.ok.injEq] at h
    obtain ⟨_, ⟨found, hfound, rfl⟩, hrest⟩ := h
    obtain ⟨pairs, rfl, hpairs⟩ := uniteNeighbors_pairs l
      (fun c hc => hrange c (List.mem_cons_of_mem candidate hc)) _ _ hrest
    refine ⟨(found.map fun neighbor => (candidate, neighbor.toNat)) ++ pairs, ?_, fun a b => ?_⟩
    · simp [UnionFind.uniteAll, List.foldl_map]
    · have hnonneg : ∀ neighbor ∈ found, 0 ≤ neighbor := fun neighbor hneighbor =>
        (hrange candidate (by simp) found hfound neighbor hneighbor).1
      have hhead : (a, b) ∈ found.map (fun neighbor => (candidate, neighbor.toNat)) ↔
          a = candidate ∧ Returns pcl cloud tolerance a b := by
        constructor
        · intro hmem
          obtain ⟨neighbor, hneighbor, heq⟩ := List.mem_map.mp hmem
          obtain ⟨rfl, rfl⟩ := Prod.mk.inj heq
          refine ⟨rfl, found, hfound, ?_⟩
          rwa [Int.toNat_of_nonneg (hnonneg neighbor hneighbor)]
        · rintro ⟨rfl, found', hfound', hb⟩
          obtain rfl := Except.ok.inj (hfound.symm.trans hfound')
          exact List.mem_map.mpr ⟨b, hb, rfl⟩
      rw [List.mem_append, hhead, hpairs, List.mem_cons]
      tauto

omit [FloatArith F] [FloatArith D] in
/-- The loop that labels the first candidates: roots stay, and a label is the position of a root. -/
structure Labelled (sets : UnionFind) (count : ℕ) (state : LabelState) : Prop where
  valid : state.sets.Valid
  roots : ∀ v r, Root state.sets.parent v r ↔ Root sets.parent v r
  labels : state.labels = (List.range count).map fun j => (state.roots.idxOf (sets.find j).1 : ℤ)
  mem : ∀ j < count, (sets.find j).1 ∈ state.roots
  onto : ∀ r ∈ state.roots, ∃ j < count, (sets.find j).1 = r
  nodup : state.roots.Nodup

omit [FloatArith F] [FloatArith D] in
theorem Labelled.step {sets : UnionFind} (hv : sets.Valid) {count : ℕ} {state : LabelState}
    (h : Labelled sets count state) : Labelled sets (count + 1) (labelCandidate state count) := by
  obtain ⟨hroot, hvalid, -, hiff⟩ := UnionFind.find_spec h.valid count
  have hsame : (state.sets.find count).1 = (sets.find count).1 :=
    ((h.roots _ _).mp hroot).unique (UnionFind.find_spec hv count).1
  unfold labelCandidate
  rw [show state.sets.find count = ((state.sets.find count).1, (state.sets.find count).2) from rfl,
    hsame]
  dsimp only
  have hkept : ∀ r ∈ state.roots, (if (sets.find count).1 ∈ state.roots then state.roots
      else state.roots ++ [(sets.find count).1]).idxOf r = state.roots.idxOf r := by
    intro r hr
    split_ifs
    · rfl
    · exact List.idxOf_append_of_mem hr
  refine ⟨hvalid, fun v r => (hiff v r).trans (h.roots v r), ?_, fun j hj => ?_, fun r hr => ?_, ?_⟩
  · dsimp only
    rw [List.range_succ, List.map_append, h.labels]
    congr 1
    refine List.map_congr_left fun j hj => ?_
    rw [hkept _ (h.mem j (List.mem_range.mp hj))]
  · dsimp only
    rcases Nat.lt_succ_iff_lt_or_eq.mp hj with hj | rfl
    · split_ifs
      · exact h.mem j hj
      · exact List.mem_append_left _ (h.mem j hj)
    · split_ifs with hmem
      · exact hmem
      · simp
  · have hold : r ∈ state.roots ∨ r = (sets.find count).1 := by
      dsimp only at hr
      split_ifs at hr
      · exact .inl hr
      · exact (List.mem_append.mp hr).imp_right List.mem_singleton.mp
    rcases hold with hold | rfl
    · obtain ⟨j, hj, he⟩ := h.onto r hold
      exact ⟨j, Nat.lt_succ_of_lt hj, he⟩
    · exact ⟨count, Nat.lt_succ_self count, rfl⟩
  · dsimp only
    split_ifs with hmem
    · exact h.nodup
    · rw [← List.concat_eq_append]
      exact h.nodup.concat hmem

omit [FloatArith F] [FloatArith D] in
theorem Labelled.mem_labels {sets : UnionFind} {count : ℕ} {state : LabelState}
    (h : Labelled sets count state) (label : ℤ) :
    label ∈ state.labels ↔ 0 ≤ label ∧ label < state.roots.length := by
  rw [h.labels, List.mem_map]
  constructor
  · rintro ⟨j, hj, rfl⟩
    have := List.idxOf_lt_length_of_mem (h.mem j (List.mem_range.mp hj))
    omega
  · rintro ⟨hnonneg, hlt⟩
    obtain ⟨k, rfl⟩ := Int.eq_ofNat_of_zero_le hnonneg
    have hk : k < state.roots.length := by exact_mod_cast hlt
    obtain ⟨j, hj, he⟩ := h.onto _ (List.getElem_mem hk)
    refine ⟨j, List.mem_range.mpr hj, ?_⟩
    rw [he, h.nodup.idxOf_getElem]

omit [FloatArith F] [FloatArith D] in
theorem labelCandidate_prefix (l : List ℕ) (state : LabelState) :
    state.labels <+: (l.foldl labelCandidate state).labels := by
  induction l generalizing state with
  | nil => exact List.prefix_rfl
  | cons candidate l ih =>
    exact (List.prefix_append _ _).trans (ih (labelCandidate state candidate))

omit [FloatArith F] [FloatArith D] in
theorem labelled_range {sets : UnionFind} (hv : sets.Valid) (count : ℕ) :
    Labelled sets count ((List.range count).foldl labelCandidate ⟨sets, [], []⟩) := by
  induction count with
  | zero =>
    exact ⟨hv, fun _ _ => Iff.rfl, rfl, fun j hj => absurd hj (Nat.not_lt_zero j), by simp, by simp⟩
  | succ count ih =>
    rw [List.range_succ, List.foldl_append]
    exact ih.step hv

omit [FloatArith F] [FloatArith D] in
theorem assignLabels_spec {sets : UnionFind} (hv : sets.Valid) (size : ℕ) :
    (assignLabels sets size).length = size ∧ ∀ v < size, ∀ w < size,
      ((assignLabels sets size)[v]? = (assignLabels sets size)[w]? ↔ sets.Same v w) := by
  have h := labelled_range hv size
  unfold assignLabels
  revert h
  generalize (List.range size).foldl labelCandidate ⟨sets, [], []⟩ = state
  intro h
  refine ⟨by rw [h.labels]; simp, fun v hvs w hws => ?_⟩
  have hroot := fun v => (UnionFind.find_spec hv v).1
  rw [h.labels]
  simp only [List.getElem?_map, List.getElem?_range hvs, List.getElem?_range hws, Option.map_some,
    Option.some.injEq, Nat.cast_inj]
  rw [List.idxOf_inj (h.mem v hvs)]
  constructor
  · exact fun he => ⟨_, hroot v, he ▸ hroot w⟩
  · rintro ⟨r, hvr, hwr⟩
    exact ((hroot v).unique hvr).trans ((hroot w).unique hwr).symm

omit [FloatArith F] [FloatArith D] in
theorem assignLabels_numbered {sets : UnionFind} (hv : sets.Valid) (size : ℕ) :
    NumberedByFirst (assignLabels sets size) := by
  intro i hi
  rw [(assignLabels_spec hv size).1] at hi
  have h := labelled_range hv i
  have htake : (assignLabels sets size).take i =
      ((List.range i).foldl labelCandidate ⟨sets, [], []⟩).labels := by
    obtain ⟨rest, rfl⟩ := Nat.exists_eq_add_of_le hi
    have hprefix := labelCandidate_prefix ((List.range rest).map (i + ·))
      ((List.range i).foldl labelCandidate ⟨sets, [], []⟩)
    rw [← List.foldl_append, ← List.range_add] at hprefix
    have hlength : ((List.range i).foldl labelCandidate ⟨sets, [], []⟩).labels.length = i := by
      rw [h.labels, List.length_map, List.length_range]
    rw [List.prefix_iff_eq_take.mp hprefix, hlength]
    rfl
  refine ⟨((List.range i).foldl labelCandidate ⟨sets, [], []⟩).roots.length, fun label => ?_⟩
  rw [htake]
  exact h.mem_labels label

/-- The labels of the candidates name the components of their graph. -/
theorem euclideanCluster_labels {surface : SurfaceView F} {candidates : List ℕ}
    (hrange : ∀ candidate < candidates.length, ∀ found,
      candidateNeighbors pcl (candidateCloud surface candidates) tolerance candidate = .ok found →
      ∀ neighbor ∈ found, 0 ≤ neighbor ∧ neighbor < candidates.length)
    {labels : List ℤ}
    (h : euclideanCluster pcl surface candidates tolerance = .ok labels) :
    labels.length = candidates.length ∧ NumberedByFirst labels ∧
      ∀ v w : Fin candidates.length, labels[(v : ℕ)]? = labels[(w : ℕ)]? ↔
        (candidateGraph pcl surface candidates tolerance).Reachable v w := by
  have hcloud : (candidateCloud surface candidates).length = candidates.length := List.length_map _
  unfold euclideanCluster at h
  split_ifs at h with htolerance hempty
  · cases h
    refine ⟨by simp [hempty], fun i hi => ⟨0, by simp⟩, fun v => ?_⟩
    have := v.2
    simp only [hempty, List.length_nil, Nat.not_lt_zero] at this
  · dsimp only at h
    rw [mapError_ok_iff] at h
    obtain ⟨sets, hunited, rfl⟩ := map_ok_iff.mp h
    obtain ⟨pairs, hsets, hpairs⟩ := uniteNeighbors_pairs _ (fun candidate hc => by
      rw [hcloud] at hc ⊢
      exact hrange candidate (List.mem_range.mp hc)) _ _ hunited
    subst hsets
    have hpositions : ∀ p ∈ pairs, p.1 < candidates.length ∧ p.2 < candidates.length := by
      rintro ⟨a, b⟩ hp
      obtain ⟨ha, found, hfound, hb⟩ := (hpairs a b).mp hp
      rw [List.mem_range, hcloud] at ha
      refine ⟨ha, ?_⟩
      exact_mod_cast (hrange a ha found hfound _ hb).2
    rw [hcloud]
    obtain ⟨hvalid, -, hsame⟩ := UnionFind.uniteAll_spec candidates.length pairs hpositions
    obtain ⟨hlength, hlabels⟩ := assignLabels_spec hvalid candidates.length
    refine ⟨hlength, assignLabels_numbered hvalid candidates.length, fun v w => ?_⟩
    rw [hlabels v v.2 w w.2, hsame, connected_iff_reachable hpositions, reachable_fromRel_iff,
      candidateGraph, reachable_fromRel_iff]
    have hrel : (fun a b : Fin candidates.length => ((a : ℕ), (b : ℕ)) ∈ pairs) =
        fun a b : Fin candidates.length =>
          Returns pcl (candidateCloud surface candidates) tolerance a b := by
      funext a b
      rw [hpairs, List.mem_range, hcloud]
      exact propext (and_iff_right a.2)
    rw [hrel]

omit [FloatArith D] in
theorem uniteNeighbors_succeeds
    (hanswers : ∀ candidate < cloud.length,
      ∃ found, candidateNeighbors pcl cloud tolerance candidate = .ok found) :
    ∃ sets, uniteNeighbors pcl cloud tolerance = .ok sets := by
  have hloop : ∀ (l : List ℕ) (sets : UnionFind), (∀ candidate ∈ l, candidate < cloud.length) →
      ∃ sets', l.foldlM (uniteCandidate pcl cloud tolerance) sets = .ok sets' := by
    intro l
    induction l with
    | nil => exact fun sets _ => ⟨sets, rfl⟩
    | cons candidate l ih =>
      intro sets hl
      obtain ⟨found, hfound⟩ := hanswers candidate (hl candidate (by simp))
      rw [List.foldlM_cons, uniteCandidate, hfound]
      exact ih _ fun c hc => hl c (List.mem_cons_of_mem candidate hc)
  exact hloop _ _ fun candidate hc => List.mem_range.mp hc

theorem euclideanCluster_succeeds {surface : SurfaceView F} {candidates : List ℕ}
    (htolerance : ¬ (¬ isFinite tolerance ∨ tolerance ≤ 0))
    (hanswers : ∀ candidate < candidates.length, ∃ found,
      candidateNeighbors pcl (candidateCloud surface candidates) tolerance candidate = .ok found) :
    ∃ labels, euclideanCluster pcl surface candidates tolerance = .ok labels := by
  have hcloud : (candidateCloud surface candidates).length = candidates.length := List.length_map _
  unfold euclideanCluster
  rw [if_neg htolerance]
  split_ifs
  · exact ⟨_, rfl⟩
  · obtain ⟨sets, hsets⟩ := uniteNeighbors_succeeds (hcloud ▸ hanswers)
    dsimp only
    rw [hsets]
    exact ⟨_, rfl⟩

end Labels

section Groups

variable {labels : List ℤ} {candidates : List ℕ}

omit [FloatArith F] [FloatArith D] in
theorem groupOf_eq (hlength : labels.length = candidates.length) (label : ℤ) :
    groupOf labels candidates label =
      ((List.finRange candidates.length).filter fun k : Fin candidates.length =>
        labels[(k : ℕ)]? = some label).map candidates.get := by
  have hzip : labels.zip candidates = (List.finRange candidates.length).map
      fun k : Fin candidates.length =>
        (labels.get ⟨k, by rw [hlength]; exact k.2⟩, candidates.get k) := by
    refine List.ext_getElem (by simp [hlength]) fun i hi hi' => ?_
    simp
  unfold groupOf
  rw [hzip, List.filter_map, List.map_map]
  congr 1
  refine List.filter_congr fun k _ => ?_
  have hk : (k : ℕ) < labels.length := by rw [hlength]; exact k.2
  simp [List.getElem?_eq_getElem hk]

variable {G : SimpleGraph (Fin candidates.length)} {mapOrder : List ℤ → List ℤ} {type : DefectType}
  {minClusterPoints : UInt32}

omit [FloatArith F] [FloatArith D] in
/-- The clusters are the components of enough members. -/
theorem mem_groupCandidates_iff (hmap : ∀ keys, (mapOrder keys).Perm keys)
    (hlength : labels.length = candidates.length)
    (hlabels : ∀ v w : Fin candidates.length,
      labels[(v : ℕ)]? = labels[(w : ℕ)]? ↔ G.Reachable v w) (cluster : DefectCluster) :
    cluster ∈ groupCandidates mapOrder type minClusterPoints labels candidates ↔
      ∃ v : Fin candidates.length,
        minClusterPoints.toNat ≤ (G.connectedComponentMk v).supp.ncard ∧
        cluster = ⟨type, groupOf labels candidates
          (labels.get ⟨v, by rw [hlength]; exact v.2⟩)⟩ := by
  have hcount : ∀ v : Fin candidates.length,
      (groupOf labels candidates (labels.get ⟨v, by rw [hlength]; exact v.2⟩)).length =
        (G.connectedComponentMk v).supp.ncard := by
    intro v
    rw [groupOf_eq hlength, List.length_map]
    refine ncard_supp G v _ fun w => ?_
    have hv : (v : ℕ) < labels.length := by rw [hlength]; exact v.2
    rw [decide_eq_true_eq, ← hlabels, List.getElem?_eq_getElem hv, List.get_eq_getElem]
  unfold groupCandidates
  simp only [List.mem_filterMap, List.mem_map]
  constructor
  · rintro ⟨_, ⟨label, hlabel, rfl⟩, hkept⟩
    obtain ⟨k, hk, rfl⟩ := List.mem_iff_getElem.mp
      (List.mem_eraseDups.mp ((hmap _).mem_iff.mp hlabel))
    split_ifs at hkept with hsmall
    refine ⟨⟨k, hlength ▸ hk⟩, ?_, (Option.some.inj hkept).symm⟩
    rw [← hcount]
    exact Nat.le_of_not_lt hsmall
  · rintro ⟨v, hmin, rfl⟩
    have hv : (v : ℕ) < labels.length := by rw [hlength]; exact v.2
    refine ⟨_, ⟨labels.get ⟨v, hv⟩, (hmap _).mem_iff.mpr
      (List.mem_eraseDups.mpr (List.get_mem labels ⟨v, hv⟩)), rfl⟩, ?_⟩
    rw [if_neg (by rw [hcount]; omega)]

omit [FloatArith F] [FloatArith D] in
/-- A cluster with a member of some kind is a component with one, of enough members. -/
theorem exists_cluster_iff (hmap : ∀ keys, (mapOrder keys).Perm keys)
    (hlength : labels.length = candidates.length)
    (hlabels : ∀ v w : Fin candidates.length,
      labels[(v : ℕ)]? = labels[(w : ℕ)]? ↔ G.Reachable v w) (p : ℕ → Prop) :
    (∃ cluster ∈ groupCandidates mapOrder type minClusterPoints labels candidates,
        ∃ i ∈ cluster.pointIndices, p i) ↔
      ∃ component : G.ConnectedComponent, minClusterPoints.toNat ≤ component.supp.ncard ∧
        ∃ k ∈ component.supp, p candidates[k] := by
  have hmem : ∀ (v : Fin candidates.length) (i : ℕ),
      i ∈ groupOf labels candidates (labels.get ⟨v, by rw [hlength]; exact v.2⟩) ↔
        ∃ k ∈ (G.connectedComponentMk v).supp, candidates[k] = i := by
    intro v i
    have hv : (v : ℕ) < labels.length := by rw [hlength]; exact v.2
    rw [groupOf_eq hlength, List.mem_map]
    refine exists_congr fun k => and_congr_left fun _ => ?_
    simp only [List.mem_filter, List.mem_finRange, true_and, decide_eq_true_eq,
      SimpleGraph.ConnectedComponent.mem_supp_iff, SimpleGraph.ConnectedComponent.eq, ← hlabels,
      List.getElem?_eq_getElem hv, List.get_eq_getElem]
  constructor
  · rintro ⟨cluster, hcluster, i, hi, hp⟩
    obtain ⟨v, hmin, rfl⟩ := (mem_groupCandidates_iff hmap hlength hlabels cluster).mp hcluster
    obtain ⟨k, hk, rfl⟩ := (hmem v i).mp hi
    exact ⟨G.connectedComponentMk v, hmin, k, hk, hp⟩
  · rintro ⟨component, hmin, k, hk, hp⟩
    obtain ⟨v, rfl⟩ := component.exists_rep
    exact ⟨_, (mem_groupCandidates_iff hmap hlength hlabels _).mpr ⟨v, hmin, rfl⟩, candidates[k],
      (hmem v _).mpr ⟨k, hk, rfl⟩, hp⟩

end Groups

theorem exists_clusterCandidates_iff {host : Host F D} (hpcl : host.pcl.SearchesInRange)
    {surface : SurfaceView F} {type : DefectType} {candidates : List ℕ}
    {config : ValidatedDetectionConfig D} {clusters : List DefectCluster}
    (h : clusterCandidates host surface type candidates config = .ok clusters) (p : ℕ → Prop) :
    (∃ cluster ∈ clusters, ∃ i ∈ cluster.pointIndices, p i) ↔
      ∃ component : (candidateGraph host.pcl surface candidates
          config.clusterToleranceMm).ConnectedComponent,
        config.minClusterPoints.toNat ≤ component.supp.ncard ∧
          ∃ k ∈ component.supp, p candidates[k] := by
  rcases clusterCandidates_ok h with ⟨hempty, rfl⟩ | ⟨-, labels, hlabels, rfl⟩
  · refine iff_of_false (by simp) ?_
    rintro ⟨_, _, k, _, _⟩
    have := k.2
    simp only [hempty, List.length_nil, Nat.not_lt_zero] at this
  · have hcloud : (candidateCloud surface candidates).length = candidates.length :=
      List.length_map _
    obtain ⟨hlength, -, hreach⟩ := euclideanCluster_labels (fun candidate _ found hfound =>
      hcloud ▸ candidateNeighbors_inRange hpcl hfound) hlabels
    exact exists_cluster_iff host.mapOrder_perm hlength hreach p

end PointcloudAd
