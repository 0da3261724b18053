import PointcloudAd.Detection.DefectRegion
import PointcloudAd.Preprocess.OppositeNormals

/-!
# Deviations from opposite normals

A deviation is signed by the normal of the reference, whether or not its orientation is proven:
turning the normals over mirrors the field. Everything else of the comparison stays: the reasons,
the counters and the coverage.
-/

namespace PointcloudAd

open Library Registration

variable {F D : Type} [FloatArith F] [FloatArith D] [Floats F D]

structure SamplesOpposite (a b : DeviationSample D) : Prop where
  reason : b.reason = a.reason
  signed : Opposite a.signedMm b.signedMm

structure FieldsOpposite (a b : DeviationField D) : Prop where
  samples : List.Forall₂ SamplesOpposite a.samples b.samples
  validCount : b.validCount = a.validCount

section

variable [OppositeArithmetic F] [OppositeArithmetic D] [OppositeConversions F D]
  {r r' q q' : SurfaceView F} (boundary : List UInt8) (config : ValidatedComparisonConfig D)

open OppositeArithmetic

omit [OppositeArithmetic F] in
theorem Opposed.dotFloat_left {v w : Vec3 F} (h : Opposed v w) (u : Vec3 F) :
    Opposite (dotFloat v u : D) (dotFloat w u) := by
  have hw := h.widen (D := D)
  exact opposite_add (opposite_add (hw.x.mul_right _) (hw.y.mul_right _)) (hw.z.mul_right _)

omit [OppositeArithmetic F] in
theorem Opposed.dotFloat_same {v w v' w' : Vec3 F} (h : Opposed v w) (h' : Opposed v' w') :
    SameValue (dotFloat v v' : D) (dotFloat w w') := by
  have hw := h.widen (D := D)
  have hw' := h'.widen (D := D)
  exact same_add (same_add (mul_opposite hw.x hw'.x) (mul_opposite hw.y hw'.y))
    (mul_opposite hw.z hw'.z)

theorem normalCosine_turned {v w : Vec3 F} (h : Opposed v w) {normals normals' : List (Vec3 F)}
    (hn : List.Forall₂ Opposed normals normals') (i : ℕ) (bound : D) :
    (∃ c ∈ normalCosine w normals' i, c < bound) ↔ ∃ c ∈ normalCosine v normals i, c < bound := by
  have hnormal := forall₂_getD hn opposed_default i
  have hlength := hnormal.vectorLength (D := D)
  have hcosine := (same_div (vectorLength v * vectorLength (normals.getD i default))
    (h.dotFloat_same hnormal)).clamp (-1 : D) 1
  unfold normalCosine
  dsimp only
  rw [← hlength, ← h.vectorLength]
  simp only [ne_eq, opposed_nil_iff hn]
  split_ifs
  · simp only [Option.mem_def, Option.some.injEq, exists_eq_left']
    exact hcosine.gt_iff.symm
  · simp

theorem neighborDeviation_turned (hr : Turned r r') (hq : Turned q q') (distance : D)
    (i neighbor : ℕ) :
    SamplesOpposite (neighborDeviation r boundary q config distance i neighbor)
      (neighborDeviation r' boundary q' config distance i neighbor) := by
  obtain ⟨normals, rfl, hn⟩ := hr.exists
  obtain ⟨normals', rfl, hn'⟩ := hq.exists
  have hnormal := forall₂_getD hn opposed_default neighbor
  have hlength := hnormal.vectorLength (D := D)
  have hangle := normalCosine_turned hnormal hn' i (maxNormalCosine F config)
  unfold neighborDeviation
  dsimp only
  simp only [← hlength, hangle]
  split_ifs
  · exact ⟨rfl, opposite_zero⟩
  · exact ⟨rfl, opposite_zero⟩
  · exact ⟨rfl, opposite_zero⟩
  · exact ⟨rfl, opposite_div _ (hnormal.dotFloat_left _)⟩

theorem deviationSample_turned (hr : Turned r r') (hq : Turned q q')
    (nearest : NearestNeighborResult F) (i : ℕ) :
    SamplesOpposite (deviationSample r boundary q config nearest i)
      (deviationSample r' boundary q' config nearest i) := by
  have hvalid : q'.isValidIndex i = q.isValidIndex i := by rw [hq.surface]; rfl
  unfold deviationSample
  dsimp only
  rw [hvalid]
  split_ifs
  · exact ⟨rfl, opposite_zero⟩
  · exact neighborDeviation_turned boundary config hr hq _ i _
  · exact ⟨rfl, opposite_zero⟩

omit [FloatArith F] [Floats F D] [OppositeArithmetic F] [OppositeConversions F D] in
theorem fillDeviation_turned {f g : ℕ → DeviationSample D} (h : ∀ i, SamplesOpposite (f i) (g i))
    (indices : List ℕ) (storageSize : ℕ) :
    FieldsOpposite (fillDeviation indices storageSize f) (fillDeviation indices storageSize g) := by
  unfold fillDeviation
  refine List.rel_foldl (R := Eq) (P := FieldsOpposite) ?_ ?_ (List.forall₂_same.mpr fun _ _ => rfl)
  · rintro a b hab i _ rfl
    refine ⟨forall₂_set hab.samples (h i) i, ?_⟩
    dsimp only
    rw [(h i).reason, hab.validCount]
  · refine ⟨?_, rfl⟩
    exact List.forall₂_same.mpr fun sample hsample => by
      rw [List.eq_of_mem_replicate hsample]
      exact ⟨rfl, opposite_zero⟩

variable (host : Host F D) (fit : List (Vec3 F) → List ℤ → Option (Vec3 F))
  (scheduler : Scheduler) (threads : UInt32)

theorem computeDeviationField_turned (hr : Turned r r') (hq : Turned q q') :
    Outcome FieldsOpposite
      (computeDeviationField host scheduler r boundary q config threads)
      (computeDeviationField (host.withFit fit) scheduler r' boundary q' config threads) := by
  have hsample := deviationSample_turned boundary config hr hq
  have hempty := opposed_nil_iff hr.normals
  have hcheck : checkDeviation r' boundary q' = checkDeviation r boundary q := by
    unfold checkDeviation
    rw [hr.surface, hq.surface]
    simp only [hempty]
    rfl
  have hnearest : nearestNeighbors (host.withFit fit) scheduler r' q' config.maxSearchDistanceMm
      threads = nearestNeighbors host scheduler r q config.maxSearchDistanceMm threads := by
    rw [hr.surface, hq.surface]
    rfl
  have hindices : q'.indices = q.indices := by rw [hq.surface]; rfl
  have hstorage : q'.storageSize = q.storageSize := by rw [hq.surface]; rfl
  unfold computeDeviationField
  rw [hcheck, hnearest, hindices, hstorage]
  refine (Outcome.eq_iff.mpr rfl).bind fun _ _ _ => ?_
  refine (Outcome.eq_iff.mpr rfl).bind ?_
  rintro nearest _ rfl
  exact .ok (fillDeviation_turned (hsample nearest) q.indices q.storageSize)

omit [OppositeArithmetic F] [OppositeArithmetic D] [OppositeConversions F D] in
theorem computeCoverageField_turned (hr : Turned r r') (hq : Turned q q') :
    computeCoverageField (host.withFit fit) scheduler r' q' boundary config threads =
      computeCoverageField host scheduler r q boundary config threads := by
  rw [hr.surface, hq.surface]
  rfl

end

/-- The field of the normals turned over. -/
def DeviationField.mirrored (field : DeviationField D) : DeviationField D :=
  { field with
    samples := field.samples.map fun sample => { sample with signedMm := -sample.signedMm } }

section

variable [OppositeArithmetic D] {a b : DeviationField D}

theorem candidateIndices_mirrored (h : FieldsOpposite a b) (selected : DeviationSample D → Bool)
    (hselected : ∀ x y : DeviationSample D, y.reason = x.reason → SameValue y.signedMm x.signedMm →
      selected y = selected x) :
    candidateIndices b.samples selected = candidateIndices a.mirrored.samples selected := by
  have hsamples : List.Forall₂
      (fun x y : DeviationSample D => y.reason = x.reason ∧ SameValue y.signedMm x.signedMm)
      a.mirrored.samples b.samples := by
    unfold DeviationField.mirrored
    rw [List.forall₂_map_left_iff]
    exact h.samples.imp fun x y hxy => ⟨hxy.reason, hxy.signed.same_neg⟩
  unfold candidateIndices
  rw [hsamples.length_eq]
  refine List.filter_congr fun i _ => ?_
  obtain ⟨hreason, hsigned⟩ := forall₂_getD hsamples (a := default) (b := default) ⟨rfl, .refl _⟩ i
  exact hselected _ _ hreason hsigned

variable {host : Host F D} {fit : List (Vec3 F) → List ℤ → Option (Vec3 F)} {q q' : SurfaceView F}

omit [Floats F D] in
theorem clusterDeviationDefects_turned (h : FieldsOpposite a b) (hq : Turned q q')
    (config : ValidatedDetectionConfig D) :
    clusterDeviationDefects (host.withFit fit) q' b config =
      clusterDeviationDefects host q a.mirrored config := by
  have hpositive := candidateIndices_mirrored h (exceedsPositive config.positiveThresholdMm)
    fun x y hreason hsigned => by
      unfold exceedsPositive
      rw [hreason, decide_eq_decide.mpr hsigned.lt_iff]
  have hnegative := candidateIndices_mirrored h (exceedsNegative config.negativeThresholdMm)
    fun x y hreason hsigned => by
      unfold exceedsNegative
      rw [hreason, decide_eq_decide.mpr hsigned.gt_iff]
  have hlength : b.samples.length = a.mirrored.samples.length := by
    rw [← h.samples.length_eq]
    exact (List.length_map _).symm
  unfold clusterDeviationDefects
  rw [hpositive, hnegative, hlength, hq.surface]
  rfl

end

section

variable [OppositeArithmetic D] {host : Host F D} {scan : SurfaceView F} {field : DeviationField D}
  {config : ValidatedDetectionConfig D}

omit [FloatArith F] [Floats F D] [OppositeArithmetic D] in
theorem DeviationField.mirrored_getD {i : ℕ} (hi : i < field.samples.length) :
    (field.mirrored.samples.getD i default).signedMm =
      -(field.samples.getD i default).signedMm := by
  unfold DeviationField.mirrored
  dsimp only
  rw [List.getD_eq_getElem _ _ (by rwa [List.length_map]), List.getD_eq_getElem _ _ hi,
    List.getElem_map]

theorem exceedsPositive_mirrored {i : ℕ}
    (h : i ∈ candidateIndices field.samples (exceedsPositive config.positiveThresholdMm)) :
    i ∉ candidateIndices field.mirrored.samples (exceedsPositive config.positiveThresholdMm) := by
  intro h'
  obtain ⟨hi, hsigned⟩ := mem_candidateIndices.mp h
  have hturned := (mem_candidateIndices.mp h').2
  simp only [exceedsPositive, Bool.and_eq_true, decide_eq_true_eq] at hsigned hturned
  rw [DeviationField.mirrored_getD hi] at hturned
  exact Opposite.not_lt (.inl rfl) config.positiveThreshold.2 hsigned.2 hturned.2

theorem exceedsNegative_mirrored {i : ℕ}
    (h : i ∈ candidateIndices field.samples (exceedsNegative config.negativeThresholdMm)) :
    i ∉ candidateIndices field.mirrored.samples (exceedsNegative config.negativeThresholdMm) := by
  intro h'
  obtain ⟨hi, hsigned⟩ := mem_candidateIndices.mp h
  have hturned := (mem_candidateIndices.mp h').2
  simp only [exceedsNegative, Bool.and_eq_true, decide_eq_true_eq] at hsigned hturned
  rw [DeviationField.mirrored_getD hi] at hturned
  have hnegative : config.negativeThresholdMm < 0 :=
    number_lt_of_not_le (OrderedFloat.le_right (OrderedFloat.lt_iff.mp hsigned.2).1)
      OppositeArithmetic.zero_le_zero config.negativeThreshold.2
  exact Opposite.not_gt (.inl rfl) hnegative hsigned.2 hturned.2

omit [Floats F D] in
theorem not_mem_mirrored_clusters {clusters clusters' : List DefectCluster}
    (h : clusterDeviationDefects host scan field config = .ok clusters)
    (h' : clusterDeviationDefects host scan field.mirrored config = .ok clusters')
    {cluster : DefectCluster} (hc : cluster ∈ clusters) : cluster ∉ clusters' := by
  obtain ⟨bumps, dents, hbumps, hdents, rfl⟩ := clusterDeviationDefects_ok h
  obtain ⟨bumps', dents', hbumps', hdents', rfl⟩ := clusterDeviationDefects_ok h'
  intro hc'
  rcases List.mem_append.mp hc with hc | hc
  · obtain ⟨htype, hne⟩ := type_of_cluster hbumps hc
    obtain ⟨i, hi⟩ := List.exists_mem_of_ne_nil _ hne
    rcases List.mem_append.mp hc' with hc' | hc'
    · exact exceedsPositive_mirrored (mem_candidates_of_cluster hbumps hc i hi)
        (mem_candidates_of_cluster hbumps' hc' i hi)
    · rw [(type_of_cluster hdents' hc').1] at htype
      cases htype
  · obtain ⟨htype, hne⟩ := type_of_cluster hdents hc
    obtain ⟨i, hi⟩ := List.exists_mem_of_ne_nil _ hne
    rcases List.mem_append.mp hc' with hc' | hc'
    · rw [(type_of_cluster hbumps' hc').1] at htype
      cases htype
    · exact exceedsNegative_mirrored (mem_candidates_of_cluster hdents hc i hi)
        (mem_candidates_of_cluster hdents' hc' i hi)

omit [Floats F D] in
theorem eq_nil_of_mirrored_clusters {clusters : List DefectCluster}
    (h : clusterDeviationDefects host scan field config = .ok clusters)
    (h' : clusterDeviationDefects host scan field.mirrored config = .ok clusters) :
    clusters = [] := by
  refine List.eq_nil_iff_forall_not_mem.mpr fun cluster hc => ?_
  exact not_mem_mirrored_clusters h h' hc hc

end

end PointcloudAd
