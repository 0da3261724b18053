import Mathlib.Analysis.Real.Pi.Bounds
import PointcloudAd.Backends.Exhaustive
import PointcloudAd.Comparison.Fields
import PointcloudAd.Preprocess.RealVectors

/-!
# Classes of deviations

Without rounding, every sample of a deviation field has the reason that its point, its neighbour and
the two normals give it, and the signed deviation of a valid sample is bounded by its distance.
-/

namespace PointcloudAd

open Library Registration

/-- The scan sample has a neighbour: a valid reference sample, at the stored distance and within the
limit. -/
structure FoundNeighbor (reference scan : SurfaceView ℝ) (limit : ℝ)
    (nearest : NearestNeighborResult ℝ) (i neighbor : ℕ) : Prop where
  index : nearest.neighborIndex.getD i (-1) = neighbor
  sample : neighbor ∈ reference.indices
  valid : reference.isValidIndex neighbor = true
  distance : nearest.distanceMm.getD i 0 = vectorLength
    (subFloat (scan.points.getD i default) (reference.points.getD neighbor default))
  within : nearest.distanceMm.getD i 0 ≤ limit

/-- Every valid scan sample has a neighbour within the limit, or is marked to have none. -/
def NearestSound (reference scan : SurfaceView ℝ) (limit : ℝ) (nearest : NearestNeighborResult ℝ) :
    Prop :=
  ∀ i ∈ scan.indices, scan.isValidIndex i = true →
    nearest.neighborIndex.getD i (-1) = -1 ∨ ∃ neighbor,
      FoundNeighbor reference scan limit nearest i neighbor

theorem acceptedNeighbor_some {F : Type} [FloatArith F] {squaredLimit : F} {size : ℕ}
    {found : List (ℤ × F)} {neighbor : ℕ × F}
    (h : acceptedNeighbor squaredLimit size found = some neighbor) :
    ∃ entry ∈ found, ¬ squaredLimit < entry.2 ∧ 0 ≤ entry.1 ∧ entry.1.toNat < size ∧
      neighbor = (entry.1.toNat, entry.2) := by
  cases found with
  | nil => cases h
  | cons entry found =>
    unfold acceptedNeighbor at h
    dsimp only at h
    split_ifs at h with hfar hnegative hlarge
    obtain rfl := Option.some.inj h
    exact ⟨entry, by simp, hfar, by omega, by omega, rfl⟩

/-- What a search stores for a sample: no neighbour, or the one that the library found. -/
theorem nearestNeighbors_slot {F D : Type} [FloatArith F] [FloatArith D] [Floats F D]
    {host : Host F D} {scheduler : Scheduler} {reference query : SurfaceView F} (hq : query.Shaped)
    {limit : D} {threads : UInt32} {nearest : NearestNeighborResult F}
    (h : nearestNeighbors host scheduler reference query limit threads = .ok nearest) {i : ℕ}
    (hi : i ∈ query.indices) :
    nearest.neighborIndex.getD i (-1) = -1 ∨ ∃ found neighbor,
      host.pcl.nearestKSearch (referenceSamples reference).cloud (query.points.getD i default) 1 =
        .ok found ∧
      acceptedNeighbor (narrow (limit * limit)) (referenceSamples reference).cloud.length found =
        some neighbor ∧
      nearest.neighborIndex.getD i (-1) =
        int32 ((referenceSamples reference).storageIndices.getD neighbor.1 0) ∧
      nearest.distanceMm.getD i 0 = sqrt neighbor.2 := by
  unfold nearestNeighbors at h
  dsimp only at h
  split_ifs at h with hempty
  · obtain rfl := Except.ok.inj h
    left
    dsimp only
    rw [List.map_replicate, List.getD_eq_getElem?_getD, List.getElem?_replicate]
    split_ifs <;> rfl
  · rw [mapError_ok_iff, hq.searches_eq] at h
    split_ifs at h with hthreads
    · cases h
    obtain ⟨cells, hcells, rfl⟩ := map_ok_iff.mp h
    obtain ⟨values, hvalues, rfl⟩ := map_ok_iff.mp hcells
    obtain ⟨k, hk, rfl⟩ := List.mem_iff_getElem.mp hi
    obtain ⟨value, hvalue, hstep⟩ := getElem?_mapM hvalues
      (List.getElem?_range hk : (List.range query.indices.length)[k]? = some k)
    have hlt : query.indices[k] <
        (List.replicate query.storageSize ((-1 : ℤ), (0 : F))).length := by
      rw [List.length_replicate]
      exact hq.lt hi
    have hslot := getElem?_scatter_writesAt hq.nodup (List.getElem?_eq_getElem hk) hvalue
      (List.getElem?_eq_getElem hlt)
    rw [List.getElem_replicate] at hslot
    have hentry : ∀ {β : Type} (f : ℤ × F → β) (d : β), ((scatter
        (List.replicate query.storageSize (-1, 0)) (writesAt query.indices values)).map f).getD
          query.indices[k] d = f (value.getD (-1, 0)) := by
      intro β f d
      rw [List.getD_eq_getElem?_getD, List.getElem?_map, hslot]
      rfl
    dsimp only
    rw [hentry, hentry]
    unfold neighborAt at hstep
    dsimp only at hstep
    rw [hq.storageIndex_eq hk] at hstep
    split_ifs at hstep
    · obtain ⟨stored, hneighbor, rfl⟩ := map_ok_iff.mp hstep
      obtain ⟨found, hfound, rfl⟩ := map_ok_iff.mp hneighbor
      cases haccepted : acceptedNeighbor (narrow (limit * limit))
          (referenceSamples reference).cloud.length found with
      | none => exact .inl rfl
      | some neighbor =>
        right
        refine ⟨found, neighbor, hfound, haccepted, ?_, ?_⟩
        · rw [Option.map_some, Option.getD_some, storedNeighbor]
        · rw [Option.map_some, Option.getD_some, storedNeighbor]
    · obtain rfl := Except.ok.inj hstep
      exact .inl rfl

/-- A search library that answers with points of the cloud and their squared distances. -/
def SearchesExactly (pcl : Pcl ℝ ℝ) : Prop :=
  ∀ cloud point k, ∃ found, pcl.nearestKSearch cloud point k = .ok found ∧
    ∀ entry ∈ found, 0 ≤ entry.1 → entry.1.toNat < cloud.length → entry.2 =
      dotFloat (subFloat point (cloud.getD entry.1.toNat default))
        (subFloat point (cloud.getD entry.1.toNat default))

/-- Over such a library the search is sound. -/
theorem nearestNeighbors_sound {host : Host ℝ ℝ} (hpcl : SearchesExactly host.pcl)
    {scheduler : Scheduler} {reference query : SurfaceView ℝ} (hr : reference.Shaped)
    (hstorage : reference.storageSize < 2 ^ 31) (hq : query.Shaped) {limit : ℝ} (hlimit : 0 ≤ limit)
    {threads : UInt32} {nearest : NearestNeighborResult ℝ}
    (h : nearestNeighbors host scheduler reference query limit threads = .ok nearest) :
    NearestSound reference query limit nearest := by
  intro i hi _
  rcases nearestNeighbors_slot hq h hi with hnone | ⟨found, neighbor, hfound, haccepted, hindex, hd⟩
  · exact .inl hnone
  · right
    have hlt := acceptedNeighbor_lt haccepted
    obtain ⟨hmem, hvalid⟩ := storedNeighbor_valid hr hstorage hlt
    have hlength : neighbor.1 < (referenceSamples reference).storageIndices.length := by
      simpa [referenceSamples] using hlt
    have hstored : int32 ((referenceSamples reference).storageIndices.getD neighbor.1 0) =
        ((referenceSamples reference).storageIndices.getD neighbor.1 0 : ℕ) := by
      apply int32_eq
      rw [List.getD_eq_getElem _ _ hlength]
      have hsample := List.getElem_mem hlength
      exact (hr.lt (List.mem_of_mem_filter hsample)).trans hstorage
    unfold storedNeighbor at hmem hvalid
    dsimp only at hmem hvalid
    rw [hstored, Int.toNat_natCast] at hmem hvalid
    rw [hstored] at hindex
    obtain ⟨entries, hentries, hexact⟩ := hpcl (referenceSamples reference).cloud
      (query.points.getD i default) 1
    rw [hfound] at hentries
    obtain rfl := Except.ok.inj hentries
    obtain ⟨entry, hentry, hnear, hnonneg, hsize, rfl⟩ := acceptedNeighbor_some haccepted
    have hsquared := hexact entry hentry hnonneg hsize
    have hpoint : (referenceSamples reference).cloud.getD entry.1.toNat default =
        reference.points.getD ((referenceSamples reference).storageIndices.getD entry.1.toNat 0)
          default := by
      rw [List.getD_eq_getElem _ _ hsize, List.getD_eq_getElem _ 0 hlength]
      exact List.getElem_map _
    rw [hpoint] at hsquared
    dsimp only at hd hindex hmem hvalid
    rw [hsquared] at hd hnear
    refine ⟨_, hindex, hmem, hvalid, hd, ?_⟩
    rw [hd]
    exact Real.sqrt_le_iff.mpr ⟨hlimit, (not_lt.mp hnear).trans_eq (sq limit).symm⟩

theorem kPi_pos : (0 : ℝ) < kPi := by
  rw [kPi, real_lit]
  norm_num

theorem kPi_lt_pi : (kPi : ℝ) < Real.pi := by
  have hpi := Real.pi_gt_d20
  rw [kPi, real_lit]
  push_cast
  norm_num at hpi ⊢
  exact hpi

/-- The angle between two vectors, in degrees by the constant of the code. -/
noncomputable def angleBetween (left right : Vec3 ℝ) : ℝ :=
  Real.arccos (dotFloat left right / (vectorLength left * vectorLength right)) * 180 / kPi

theorem arccos_le_angleBetween (left right : Vec3 ℝ) :
    Real.arccos (dotFloat left right / (vectorLength left * vectorLength right)) * 180 / Real.pi ≤
      angleBetween left right := by
  have harc := Real.arccos_nonneg (dotFloat left right / (vectorLength left * vectorLength right))
  unfold angleBetween
  apply div_le_div_of_nonneg_left _ kPi_pos kPi_lt_pi.le
  positivity

theorem abs_cosine_le (left right : Vec3 ℝ) :
    |(dotFloat left right : ℝ) / (vectorLength left * vectorLength right)| ≤ 1 := by
  have hnonneg : 0 ≤ (vectorLength left : ℝ) * vectorLength right :=
    mul_nonneg (vectorLength_nonneg left) (vectorLength_nonneg right)
  rw [abs_div, abs_of_nonneg hnonneg]
  exact div_le_one_of_le₀ (abs_dotFloat_le left right) hnonneg

theorem stdClamp_cosine (left right : Vec3 ℝ) :
    stdClamp (dotFloat left right / (vectorLength left * vectorLength right) : ℝ) (-1) 1 =
      dotFloat left right / (vectorLength left * vectorLength right) := by
  obtain ⟨hlow, hhigh⟩ := abs_le.mp (abs_cosine_le left right)
  unfold stdClamp
  rw [if_neg (not_lt.mpr hlow), if_neg (not_lt.mpr hhigh)]

section Config

variable (config : ValidatedComparisonConfig ℝ)

theorem maxNormalAngle_bounds : 0 ≤ config.maxNormalAngleDeg ∧ config.maxNormalAngleDeg ≤ 90 := by
  obtain ⟨-, hlow, hhigh⟩ := config.maxNormalAngle
  refine ⟨not_lt.mp hlow, ?_⟩
  simpa using not_lt.mp hhigh

/-- A cosine is below that of the greatest angle exactly when its angle is above it. -/
theorem lt_maxNormalCosine_iff (left right : Vec3 ℝ) :
    (dotFloat left right : ℝ) / (vectorLength left * vectorLength right) <
        maxNormalCosine ℝ config ↔ config.maxNormalAngleDeg < angleBetween left right := by
  obtain ⟨hlow, hhigh⟩ := maxNormalAngle_bounds config
  obtain ⟨hlow', hhigh'⟩ := abs_le.mp (abs_cosine_le left right)
  have hpos : (0 : ℝ) < kPi := kPi_pos
  have hpi : (kPi : ℝ) < Real.pi := kPi_lt_pi
  have hcosine : (maxNormalCosine ℝ config : ℝ) =
      Real.cos (config.maxNormalAngleDeg * kPi / 180) := by
    change Real.cos (config.maxNormalAngleDeg * kPi / ((180 : ℚ) : ℝ)) = _
    norm_num
  have hrange : config.maxNormalAngleDeg * kPi / 180 ∈ Set.Icc 0 Real.pi := by
    constructor
    · positivity
    · rw [div_le_iff₀ (by norm_num)]
      nlinarith
  have harc : Real.arccos (dotFloat left right / (vectorLength left * vectorLength right)) ∈
      Set.Icc 0 Real.pi := ⟨Real.arccos_nonneg _, Real.arccos_le_pi _⟩
  calc (dotFloat left right : ℝ) / (vectorLength left * vectorLength right) <
        maxNormalCosine ℝ config
    _ ↔ Real.cos (Real.arccos (dotFloat left right / (vectorLength left * vectorLength right))) <
          Real.cos (config.maxNormalAngleDeg * kPi / 180) := by
        rw [Real.cos_arccos hlow' hhigh', hcosine]
    _ ↔ config.maxNormalAngleDeg * kPi / 180 <
          Real.arccos (dotFloat left right / (vectorLength left * vectorLength right)) :=
        Real.strictAntiOn_cos.lt_iff_gt harc hrange
    _ ↔ config.maxNormalAngleDeg < angleBetween left right := by
        unfold angleBetween
        rw [div_lt_iff₀ (by norm_num), lt_div_iff₀ hpos]

end Config

section Classes

variable {reference scan : SurfaceView ℝ} {boundary : List UInt8}
  {config : ValidatedComparisonConfig ℝ} {nearest : NearestNeighborResult ℝ}

open Classical in
/-- The reason of a scan sample with a neighbour, by precedence. -/
noncomputable def neighborReason (reference : SurfaceView ℝ) (boundary : List UInt8)
    (scan : SurfaceView ℝ) (config : ValidatedComparisonConfig ℝ) (i neighbor : ℕ) :
    DeviationReason :=
  let referenceNormal := reference.normals.getD neighbor default
  let scanNormal := scan.normals.getD i default
  if referenceNormal = default then .normalMissing
  else if scanNormal ≠ default ∧
      config.maxNormalAngleDeg < angleBetween referenceNormal scanNormal then .normalMismatch
  else if boundary.getD neighbor 0 ≠ 0 then .referenceBoundary
  else .valid

/-- The reason of a scan sample, by precedence. -/
noncomputable def expectedReason (reference : SurfaceView ℝ) (boundary : List UInt8)
    (scan : SurfaceView ℝ) (config : ValidatedComparisonConfig ℝ)
    (nearest : NearestNeighborResult ℝ) (i : ℕ) : DeviationReason :=
  if scan.isValidIndex i = false then .inputInvalid
  else if nearest.neighborIndex.getD i (-1) = -1 then .noNeighbor
  else neighborReason reference boundary scan config i
    (nearest.neighborIndex.getD i (-1)).toNat

/-- What a sample with a neighbour holds. -/
structure SampleSound (reference : SurfaceView ℝ) (boundary : List UInt8) (scan : SurfaceView ℝ)
    (config : ValidatedComparisonConfig ℝ) (nearest : NearestNeighborResult ℝ) (i : ℕ)
    (sample : DeviationSample ℝ) : Prop where
  reason : sample.reason = expectedReason reference boundary scan config nearest i
  unsigned : sample.reason ≠ .valid → sample.signedMm = 0
  bounded : sample.reason = .valid → |sample.signedMm| ≤ sample.euclideanMm ∧
    sample.euclideanMm ≤ config.maxSearchDistanceMm
  aligned : sample.reason = .valid → scan.normals.getD i default ≠ default →
    angleBetween (reference.normals.getD (nearest.neighborIndex.getD i (-1)).toNat default)
      (scan.normals.getD i default) ≤ config.maxNormalAngleDeg

theorem normalCosine_of_ne (normal : Vec3 ℝ) {normals : List (Vec3 ℝ)} {i : ℕ}
    (h : normals.getD i default ≠ default) :
    normalCosine normal normals i = some ((dotFloat normal (normals.getD i default) : ℝ) /
      (vectorLength normal * vectorLength (normals.getD i default))) := by
  have hne : normals ≠ [] := by
    rintro rfl
    exact h rfl
  unfold normalCosine
  dsimp only
  rw [if_pos ⟨hne, vectorLength_pos_iff.mpr h⟩, stdClamp_cosine]

theorem normalCosine_of_default (normal : Vec3 ℝ) {normals : List (Vec3 ℝ)} {i : ℕ}
    (h : normals.getD i default = default) : (normalCosine normal normals i : Option ℝ) = none := by
  unfold normalCosine
  dsimp only
  rw [if_neg]
  rintro ⟨-, hpos⟩
  exact vectorLength_pos_iff.mp hpos h

theorem mismatch_iff (normal : Vec3 ℝ) {normals : List (Vec3 ℝ)} {i : ℕ} :
    (∃ c ∈ (normalCosine normal normals i : Option ℝ), c < maxNormalCosine ℝ config) ↔
      normals.getD i default ≠ default ∧
        config.maxNormalAngleDeg < angleBetween normal (normals.getD i default) := by
  by_cases hzero : normals.getD i default = default
  · rw [normalCosine_of_default normal hzero]
    constructor
    · rintro ⟨_, ⟨⟩, -⟩
    · rintro ⟨hne, -⟩
      exact absurd hzero hne
  · rw [normalCosine_of_ne normal hzero]
    simp only [Option.mem_some_iff, exists_eq_left', lt_maxNormalCosine_iff]
    exact (and_iff_right hzero).symm

theorem abs_signed_le (normal delta : Vec3 ℝ) :
    |(dotFloat normal delta : ℝ) / vectorLength normal| ≤ vectorLength delta := by
  have hnonneg : 0 ≤ (vectorLength normal : ℝ) := vectorLength_nonneg normal
  rw [abs_div, abs_of_nonneg hnonneg]
  apply div_le_of_le_mul₀ hnonneg (vectorLength_nonneg delta)
  rw [mul_comm]
  exact abs_dotFloat_le normal delta

/-- The sample of a neighbour. -/
theorem neighborDeviation_sound {i neighbor : ℕ} (hv : scan.isValidIndex i = true)
    (hfound : FoundNeighbor reference scan config.maxSearchDistanceMm nearest i neighbor) :
    SampleSound reference boundary scan config nearest i
      (neighborDeviation reference boundary scan config
        (widen (nearest.distanceMm.getD i 0)) i neighbor) := by
  have hindex : (nearest.neighborIndex.getD i (-1)).toNat = neighbor := by
    rw [hfound.index, Int.toNat_natCast]
  have hsome : ¬ nearest.neighborIndex.getD i (-1) = -1 := by
    rw [hfound.index]
    omega
  have hvalid : ¬ scan.isValidIndex i = false := by
    rw [hv]
    decide
  have hmissing : (¬ 0 < (vectorLength (reference.normals.getD neighbor default) : ℝ) ∨
      ¬ isFinite (vectorLength (reference.normals.getD neighbor default) : ℝ) = true) ↔
      reference.normals.getD neighbor default = default := by
    rw [vectorLength_pos_iff, not_not]
    simp
  have hexpected : expectedReason reference boundary scan config nearest i =
      neighborReason reference boundary scan config i neighbor := by
    unfold expectedReason
    rw [hindex, if_neg hvalid, if_neg hsome]
  unfold neighborReason at hexpected
  dsimp only at hexpected
  unfold neighborDeviation
  dsimp only
  by_cases hzero : reference.normals.getD neighbor default = default
  · rw [if_pos hzero] at hexpected
    rw [if_pos (hmissing.mpr hzero)]
    exact ⟨hexpected.symm, fun _ => rfl, nofun, nofun⟩
  · rw [if_neg hzero] at hexpected
    rw [if_neg (hmissing.not.mpr hzero)]
    by_cases hmismatch : scan.normals.getD i default ≠ default ∧ config.maxNormalAngleDeg <
        angleBetween (reference.normals.getD neighbor default) (scan.normals.getD i default)
    · rw [if_pos hmismatch] at hexpected
      rw [if_pos ((mismatch_iff _).mpr hmismatch)]
      exact ⟨hexpected.symm, fun _ => rfl, nofun, nofun⟩
    · rw [if_neg hmismatch] at hexpected
      rw [if_neg ((mismatch_iff _).not.mpr hmismatch)]
      by_cases hboundary : boundary.getD neighbor 0 ≠ 0
      · have hne : boundary ≠ [] := by
          rintro rfl
          exact hboundary rfl
        rw [if_pos hboundary] at hexpected
        rw [if_pos ⟨hne, hboundary⟩]
        exact ⟨hexpected.symm, fun _ => rfl, nofun, nofun⟩
      · rw [if_neg hboundary] at hexpected
        rw [if_neg fun h => hboundary h.2]
        refine ⟨hexpected.symm, fun h => absurd rfl h, ?_, ?_⟩
        · intro _
          refine ⟨?_, hfound.within⟩
          dsimp only
          rw [real_widen, hfound.distance]
          exact abs_signed_le _ _
        · intro _ hne
          rw [hindex]
          by_contra hlarge
          exact hmismatch ⟨hne, not_le.mp hlarge⟩

/-- A sample of the scan has the reason that it should, and a valid one is bounded. -/
theorem deviationSample_sound {i : ℕ} (hi : i ∈ scan.indices)
    (hn : NearestSound reference scan config.maxSearchDistanceMm nearest) :
    SampleSound reference boundary scan config nearest i
      (deviationSample reference boundary scan config nearest i) := by
  unfold deviationSample
  by_cases hv : scan.isValidIndex i = true
  · rw [if_neg (not_not.mpr hv)]
    dsimp only
    rcases hn i hi hv with hnone | ⟨neighbor, hfound⟩
    · have hvalid : ¬ scan.isValidIndex i = false := by
        rw [hv]
        decide
      have hexpected : expectedReason reference boundary scan config nearest i = .noNeighbor := by
        unfold expectedReason
        rw [if_neg hvalid, if_pos hnone]
      rw [if_pos (by omega)]
      exact ⟨hexpected.symm, fun _ => rfl, nofun, nofun⟩
    · have hsome : ¬ nearest.neighborIndex.getD i (-1) < 0 := by
        rw [hfound.index]
        omega
      have hindex : (nearest.neighborIndex.getD i (-1)).toNat = neighbor := by
        rw [hfound.index, Int.toNat_natCast]
      rw [if_neg hsome, hindex]
      exact neighborDeviation_sound hv hfound
  · have hinvalid : scan.isValidIndex i = false := Bool.eq_false_of_not_eq_true hv
    have hexpected : expectedReason reference boundary scan config nearest i = .inputInvalid := by
      unfold expectedReason
      rw [if_pos hinvalid]
    rw [if_pos hv]
    exact ⟨hexpected.symm, fun _ => rfl, nofun, nofun⟩

/-- What a deviation field says about a scan. -/
structure DeviationClassified (reference : SurfaceView ℝ) (boundary : List UInt8)
    (scan : SurfaceView ℝ) (config : ValidatedComparisonConfig ℝ)
    (nearest : NearestNeighborResult ℝ) (field : DeviationField ℝ) : Prop where
  length : field.samples.length = scan.storageSize
  reason : ∀ i ∈ scan.indices, (field.samples.getD i default).reason =
    expectedReason reference boundary scan config nearest i
  padding : ∀ i < scan.storageSize, i ∉ scan.indices →
    field.samples[i]? = some ⟨0, 0, 0, .inputInvalid⟩
  validCount : field.validCount = field.samples.countP fun sample => sample.reason = .valid
  unsigned : ∀ sample ∈ field.samples, sample.reason ≠ .valid → sample.signedMm = 0
  bounded : ∀ sample ∈ field.samples, sample.reason = .valid →
    |sample.signedMm| ≤ sample.euclideanMm ∧ sample.euclideanMm ≤ config.maxSearchDistanceMm
  aligned : ∀ i ∈ scan.indices, (field.samples.getD i default).reason = .valid →
    scan.normals.getD i default ≠ default →
      let referenceNormal :=
        reference.normals.getD (nearest.neighborIndex.getD i (-1)).toNat default
      let scanNormal := scan.normals.getD i default
      angleBetween referenceNormal scanNormal ≤ config.maxNormalAngleDeg ∧
        Real.arccos (dotFloat referenceNormal scanNormal /
          (vectorLength referenceNormal * vectorLength scanNormal)) * 180 / Real.pi ≤
            config.maxNormalAngleDeg

/-- For every reference with normals, boundary, scan and configuration that the checks accept, and
for every sound search: the field classifies the samples of the scan. -/
theorem computeDeviationField_classified {host : Host ℝ ℝ} {scheduler : Scheduler}
    (hscan : scan.Shaped) {threads : UInt32}
    (hcheck : checkDeviation reference boundary scan = .ok ())
    (hnearest : nearestNeighbors host scheduler reference scan config.maxSearchDistanceMm threads =
      .ok nearest)
    (hsound : NearestSound reference scan config.maxSearchDistanceMm nearest) :
    ∃ field, computeDeviationField host scheduler reference boundary scan config threads =
      .ok field ∧ DeviationClassified reference boundary scan config nearest field := by
  have hcompute : computeDeviationField host scheduler reference boundary scan config threads =
      .ok (fillDeviation scan.indices scan.storageSize
        (deviationSample reference boundary scan config nearest)) := by
    unfold computeDeviationField
    rw [hcheck, hnearest]
    rfl
  have hslot : ∀ i ∈ scan.indices, (fillDeviation scan.indices scan.storageSize
      (deviationSample reference boundary scan config nearest)).samples.getD i default =
        deviationSample reference boundary scan config nearest i := by
    intro i hi
    rw [List.getD_eq_getElem?_getD, fillDeviation_getElem? hscan.nodup, if_pos (hscan.lt hi),
      if_pos hi]
    rfl
  have hpadding : ∀ i < scan.storageSize, i ∉ scan.indices →
      (fillDeviation scan.indices scan.storageSize
        (deviationSample reference boundary scan config nearest)).samples[i]? =
          some ⟨0, 0, 0, .inputInvalid⟩ := by
    intro i hi hout
    rw [fillDeviation_getElem? hscan.nodup, if_pos hi, if_neg hout]
    rfl
  -- A stored sample is the default one, or that of a sample of the scan.
  have hmem : ∀ sample ∈ (fillDeviation scan.indices scan.storageSize
      (deviationSample reference boundary scan config nearest)).samples,
        sample = ⟨0, 0, 0, .inputInvalid⟩ ∨ ∃ i ∈ scan.indices,
          sample = deviationSample reference boundary scan config nearest i := by
    intro sample hsample
    obtain ⟨i, hi⟩ := List.mem_iff_getElem?.mp hsample
    rw [fillDeviation_getElem? hscan.nodup] at hi
    split_ifs at hi with hlt hmem
    · exact .inr ⟨i, hmem, (Option.some.inj hi).symm⟩
    · exact .inl (Option.some.inj hi).symm
  refine ⟨_, hcompute, ?_⟩
  constructor
  case length => exact fillDeviation_length _
  case reason =>
    intro i hi
    rw [hslot i hi]
    exact (deviationSample_sound hi hsound).reason
  case padding => exact hpadding
  case validCount => exact computeDeviationField_validCount hscan hcompute
  case unsigned =>
    intro sample hsample hreason
    rcases hmem sample hsample with rfl | ⟨i, hi, rfl⟩
    · rfl
    · exact (deviationSample_sound hi hsound).unsigned hreason
  case bounded =>
    intro sample hsample hreason
    rcases hmem sample hsample with rfl | ⟨i, hi, rfl⟩
    · cases hreason
    · exact (deviationSample_sound hi hsound).bounded hreason
  case aligned =>
    intro i hi hreason hne
    rw [hslot i hi] at hreason
    have hangle := (deviationSample_sound hi hsound).aligned hreason hne
    exact ⟨hangle, (arccos_le_angleBetween _ _).trans hangle⟩

/-- A host whose search answers with the first point of the cloud for a point near the origin, and
otherwise with the second. -/
noncomputable def twoPointHost : Host ℝ ℝ where
  pcl := ⟨fun cloud point _ =>
      let index := if point.x < 2 then 0 else 1
      .ok [((index : ℕ), dotFloat (subFloat point (cloud.getD index default))
        (subFloat point (cloud.getD index default)))],
    fun _ _ _ => .ok [], fun _ _ _ => .ok [], fun _ _ => none⟩
  eigen := ⟨fun _ => 6, fun _ step => step, fun matrix => matrix, fun matrix => ⟨true, 0, matrix⟩⟩
  avx2Available := false
  device := none
  mapOrder := id
  mapOrder_perm := List.Perm.refl

/-- Distances up to one, and angles up to sixty degrees. -/
noncomputable def narrowComparison : ValidatedComparisonConfig ℝ where
  maxSearchDistanceMm := 1
  maxNormalAngleDeg := 60
  boundaryExclusionMm := 0
  minValidCoverageRatio := 0
  maxSearchDistance := ⟨rfl, zero_lt_one⟩
  maxNormalAngle := by
    refine ⟨rfl, ?_, ?_⟩
    · exact not_lt.mpr (by norm_num : (0 : ℝ) ≤ 60)
    · exact not_lt.mpr (by norm_num : (60 : ℝ) ≤ ((90 : ℚ) : ℝ))
  boundaryExclusion := ⟨rfl, le_rfl⟩
  minValidCoverage := ⟨rfl, not_lt.mpr le_rfl, not_lt.mpr zero_le_one⟩

noncomputable def twoPointReference : SurfaceView ℝ :=
  ⟨[⟨0, 0, 0⟩, ⟨4, 0, 0⟩], [⟨0, 0, 2⟩, ⟨0, 0, 1⟩], [], none, .millimeter, exactFrame, 2⟩

/-- Three columns and two rows, with a slot of padding and a masked sample. -/
noncomputable def strideScan : SurfaceView ℝ :=
  ⟨[⟨0, 0, 1 / 2⟩, ⟨0, 1 / 2, 0⟩, ⟨4, 0, 1 / 2⟩, default, ⟨0, 0, 9⟩, ⟨4, 0, 0⟩, ⟨0, 0, -1 / 4⟩],
    [⟨0, 0, 1⟩, ⟨1, 0, 0⟩, default, default, ⟨0, 0, 1⟩, ⟨0, 0, 1⟩, default],
    [1, 1, 1, 0, 1, 0, 1], some ⟨3, 2, 4⟩, .millimeter, exactFrame, 6⟩

theorem twoPointReference_shaped : twoPointReference.Shaped := by
  constructor
  · simp [twoPointReference]
  · rfl
  · exact .inr rfl
  · exact .inl rfl
  · intro i _
    exact .inl rfl

theorem strideScan_indices : strideScan.indices = [0, 1, 2, 4, 5, 6] := rfl

theorem strideScan_shaped : strideScan.Shaped := by
  constructor
  · simp [strideScan]
  · rfl
  · exact .inr rfl
  · exact .inr rfl
  · rw [strideScan_indices]
    simp [strideScan]

theorem neighborAt_twoPointHost {k : ℕ} (point : Vec3 ℝ)
    (hvalid : strideScan.isValidIndex (storageIndex strideScan.grid k) = true)
    (hpoint : strideScan.points.getD (storageIndex strideScan.grid k) default = point) :
    neighborAt twoPointHost.pcl twoPointReference.points strideScan 1 k = .ok
      (if point.x < 2 then
        if 1 < point.x * point.x + point.y * point.y + point.z * point.z then none
        else some (0, point.x * point.x + point.y * point.y + point.z * point.z)
      else if 1 < (point.x - 4) * (point.x - 4) + point.y * point.y + point.z * point.z then none
      else some (1, (point.x - 4) * (point.x - 4) + point.y * point.y + point.z * point.z)) := by
  have hfirst : (dotFloat (subFloat point ⟨0, 0, 0⟩) (subFloat point ⟨0, 0, 0⟩) : ℝ) =
      point.x * point.x + point.y * point.y + point.z * point.z := by
    change (point.x - 0) * (point.x - 0) + (point.y - 0) * (point.y - 0) +
      (point.z - 0) * (point.z - 0) = _
    ring
  have hsecond : (dotFloat (subFloat point ⟨4, 0, 0⟩) (subFloat point ⟨4, 0, 0⟩) : ℝ) =
      (point.x - 4) * (point.x - 4) + point.y * point.y + point.z * point.z := by
    change (point.x - 4) * (point.x - 4) + (point.y - 0) * (point.y - 0) +
      (point.z - 0) * (point.z - 0) = _
    ring
  unfold neighborAt
  dsimp only
  rw [hpoint, if_neg (not_not.mpr hvalid)]
  unfold twoPointHost
  dsimp only
  split_ifs <;> simp_all [acceptedNeighbor, twoPointReference, Except.map]

theorem nearestNeighbors_twoPoint : ∃ nearest,
    nearestNeighbors twoPointHost .alternating twoPointReference strideScan (1 : ℝ) 2 =
        .ok nearest ∧
      nearest.neighborIndex = [0, 0, 1, -1, -1, -1, 0] := by
  have hcloud : (referenceSamples twoPointReference).cloud = twoPointReference.points := rfl
  have hstorage : (referenceSamples twoPointReference).storageIndices = [0, 1] := rfl
  have hlimit : (narrow (1 * 1 : ℝ) : ℝ) = 1 := one_mul 1
  have h0 : neighborAt twoPointHost.pcl twoPointReference.points strideScan 1 0 =
      .ok (some (0, 1 / 4)) := by
    rw [neighborAt_twoPointHost ⟨0, 0, 1 / 2⟩ rfl rfl]
    norm_num
  have h1 : neighborAt twoPointHost.pcl twoPointReference.points strideScan 1 1 =
      .ok (some (0, 1 / 4)) := by
    rw [neighborAt_twoPointHost ⟨0, 1 / 2, 0⟩ rfl rfl]
    norm_num
  have h2 : neighborAt twoPointHost.pcl twoPointReference.points strideScan 1 2 =
      .ok (some (1, 1 / 4)) := by
    rw [neighborAt_twoPointHost ⟨4, 0, 1 / 2⟩ rfl rfl]
    norm_num
  have h3 : neighborAt twoPointHost.pcl twoPointReference.points strideScan 1 3 = .ok none := by
    rw [neighborAt_twoPointHost ⟨0, 0, 9⟩ rfl rfl]
    norm_num
  have h4 : neighborAt twoPointHost.pcl twoPointReference.points strideScan 1 4 = .ok none := rfl
  have h5 : neighborAt twoPointHost.pcl twoPointReference.points strideScan 1 5 =
      .ok (some (0, 1 / 16)) := by
    rw [neighborAt_twoPointHost ⟨0, 0, -1 / 4⟩ rfl rfl]
    norm_num
  have hsteps : ((List.range strideScan.indices.length).mapM fun logical =>
      (neighborAt twoPointHost.pcl twoPointReference.points strideScan 1 logical).map
        (Option.map (storedNeighbor [0, 1]))) =
      .ok [some (0, sqrt (1 / 4)), some (0, sqrt (1 / 4)), some (1, sqrt (1 / 4)), none, none,
        some (0, sqrt (1 / 16))] := by
    change ([0, 1, 2, 3, 4, 5].mapM _) = _
    simp only [List.mapM_cons, List.mapM_nil, h0, h1, h2, h3, h4, h5]
    rfl
  unfold nearestNeighbors
  dsimp only
  rw [strideScan_shaped.searches_eq, hcloud, hstorage, hlimit,
    if_neg (show twoPointReference.points ≠ [] from List.cons_ne_nil _ _), hsteps,
    if_neg (by decide)]
  exact ⟨_, rfl, rfl⟩

theorem searchesExactly_twoPointHost : SearchesExactly twoPointHost.pcl := by
  intro cloud point k
  refine ⟨_, rfl, ?_⟩
  intro entry hentry _ _
  obtain rfl := List.mem_singleton.mp hentry
  rfl

theorem angleBetween_parallel : angleBetween ⟨0, 0, 2⟩ ⟨0, 0, 1⟩ = 0 := by
  have hone : (dotFloat (⟨0, 0, 2⟩ : Vec3 ℝ) ⟨0, 0, 1⟩ : ℝ) /
      (vectorLength (⟨0, 0, 2⟩ : Vec3 ℝ) * vectorLength (⟨0, 0, 1⟩ : Vec3 ℝ)) = 1 := by
    simp [vectorLength_real, dotFloat_real]
  rw [angleBetween, hone, Real.arccos_one, zero_mul, zero_div]

theorem angleBetween_right : (60 : ℝ) < angleBetween ⟨0, 0, 2⟩ ⟨1, 0, 0⟩ := by
  have hzero : (dotFloat (⟨0, 0, 2⟩ : Vec3 ℝ) ⟨1, 0, 0⟩ : ℝ) = 0 := by
    simp [dotFloat_real]
  refine lt_of_lt_of_le ?_ (arccos_le_angleBetween _ _)
  rw [hzero, zero_div, Real.arccos_zero]
  field_simp
  norm_num

theorem neighborReason_strideScan :
    neighborReason twoPointReference [0, 1] strideScan narrowComparison 0 0 = .valid ∧
      neighborReason twoPointReference [0, 1] strideScan narrowComparison 1 0 = .normalMismatch ∧
      neighborReason twoPointReference [0, 1] strideScan narrowComparison 2 1 = .referenceBoundary ∧
      neighborReason twoPointReference [0, 1] strideScan narrowComparison 6 0 = .valid := by
  have hup : (⟨0, 0, 2⟩ : Vec3 ℝ) ≠ default := fun h => two_ne_zero (congrArg Vec3.z h)
  have hflat : (⟨0, 0, 1⟩ : Vec3 ℝ) ≠ default := fun h => one_ne_zero (congrArg Vec3.z h)
  have hside : (⟨1, 0, 0⟩ : Vec3 ℝ) ≠ default := fun h => one_ne_zero (congrArg Vec3.x h)
  simp [neighborReason, twoPointReference, strideScan, narrowComparison, hup, hflat, hside,
    angleBetween_parallel, angleBetween_right]

theorem computeDeviationField_classified_padded : ∃ nearest field,
    computeDeviationField twoPointHost .alternating twoPointReference [0, 1] strideScan
        narrowComparison 2 = .ok field ∧
      field.samples.map (·.reason) = [.valid, .normalMismatch, .referenceBoundary, .inputInvalid,
        .noNeighbor, .inputInvalid, .valid] ∧
      DeviationClassified twoPointReference [0, 1] strideScan narrowComparison nearest field := by
  obtain ⟨nearest, hnearest, hindex⟩ := nearestNeighbors_twoPoint
  have hsound := nearestNeighbors_sound searchesExactly_twoPointHost twoPointReference_shaped
    (by decide : 2 < 2 ^ 31) strideScan_shaped zero_le_one hnearest
  have hcheck : checkDeviation twoPointReference [0, 1] strideScan = .ok () := by
    simp [checkDeviation, SurfaceView.storageSize, twoPointReference, strideScan]
  obtain ⟨field, hfield, hclassified⟩ : ∃ field, computeDeviationField twoPointHost .alternating
      twoPointReference [0, 1] strideScan narrowComparison 2 = .ok field ∧ DeviationClassified
        twoPointReference [0, 1] strideScan narrowComparison nearest field :=
    computeDeviationField_classified strideScan_shaped hcheck hnearest hsound
  have hslots : field.samples.map (·.reason) =
      (List.range 7).map fun i => (field.samples.getD i default).reason := by
    have hlength : field.samples.length = 7 := hclassified.length
    apply List.ext_getElem
    · simp [hlength]
    · intro i hi _
      have hlt : i < field.samples.length := by simpa using hi
      simp [List.getElem?_eq_getElem hlt]
  have hfound : ∀ i ∈ strideScan.indices, ∀ neighbor : ℕ, strideScan.isValidIndex i = true →
      nearest.neighborIndex.getD i (-1) = neighbor → (field.samples.getD i default).reason =
        neighborReason twoPointReference [0, 1] strideScan narrowComparison i neighbor := by
    intro i hi neighbor hvalid hneighbor
    rw [hclassified.reason i hi, expectedReason, hvalid, hneighbor, if_neg (by decide),
      if_neg (by omega), Int.toNat_natCast]
  obtain ⟨r0, r1, r2, r6⟩ := neighborReason_strideScan
  have h0 := (hfound 0 (by decide) 0 rfl (by rw [hindex]; rfl)).trans r0
  have h1 := (hfound 1 (by decide) 0 rfl (by rw [hindex]; rfl)).trans r1
  have h2 := (hfound 2 (by decide) 1 rfl (by rw [hindex]; rfl)).trans r2
  have h3 : (field.samples.getD 3 default).reason = .inputInvalid := by
    rw [List.getD_eq_getElem?_getD, hclassified.padding 3 (by decide) (by decide), Option.getD_some]
  have h4 : (field.samples.getD 4 default).reason = .noNeighbor := by
    rw [hclassified.reason 4 (by decide), expectedReason, hindex]
    rfl
  have h5 : (field.samples.getD 5 default).reason = .inputInvalid :=
    hclassified.reason 5 (by decide)
  have h6 := (hfound 6 (by decide) 0 rfl (by rw [hindex]; rfl)).trans r6
  refine ⟨nearest, field, hfield, ?_, hclassified⟩
  rw [hslots, show List.range 7 = [0, 1, 2, 3, 4, 5, 6] from rfl]
  simp only [List.map_cons, List.map_nil, h0, h1, h2, h3, h4, h5, h6]

end Classes
end PointcloudAd
