import PointcloudAd.Comparison.Fields

/-!
# Samples without a neighbour

A reference sample of a coverage field has no neighbour exactly when every valid sample of the scan
is beyond the search distance, whatever the order in which the search meets them.
-/

namespace PointcloudAd

open Library Registration

variable {F D : Type} [FloatArith F]

/-- A search for the nearest point of a cloud answers with one of its points that is no farther than
any other, by some measure of two points, and with that measure. -/
def Pcl.NearestBy (pcl : Pcl F D) (distance : Vec3 F → Vec3 F → F) : Prop :=
  ∀ cloud point, cloud ≠ [] → (∀ p ∈ cloud, p.finite = true) → point.finite = true →
    ∃ (index : ℕ) (rest : List (ℤ × F)), index < cloud.length ∧
      pcl.nearestKSearch cloud point 1 =
        .ok (((index : ℤ), distance point (cloud.getD index default)) :: rest) ∧
      ∀ p ∈ cloud, distance point (cloud.getD index default) ≤ distance point p

/-- The valid reference samples that are farther than a limit from every valid scan sample. -/
def missingSamples (distance : Vec3 F → Vec3 F → F) (limit : F) (reference scan : SurfaceView F) :
    Set ℕ :=
  { i | (i ∈ reference.indices ∧ reference.isValidIndex i = true) ∧
    ∀ j ∈ scan.indices, scan.isValidIndex j = true →
      limit < distance (reference.points.getD i default) (scan.points.getD j default) }

section Searches

variable [FloatArith D] [Floats F D] {host : Host F D} {scheduler : Scheduler}
  {distance : Vec3 F → Vec3 F → F} {limit : D} {threads : UInt32}
  {nearest : NearestNeighborResult F}

/-- The slot of a valid sample holds what its search accepted, or that there is none. -/
theorem nearestNeighbors_accepted {reference query : SurfaceView F} (hq : query.Shaped)
    (h : nearestNeighbors host scheduler reference query limit threads = .ok nearest)
    (hcloud : (referenceSamples reference).cloud ≠ []) {i : ℕ} (hi : i ∈ query.indices)
    (hv : query.isValidIndex i = true) :
    ∃ found, host.pcl.nearestKSearch (referenceSamples reference).cloud
        (query.points.getD i default) 1 = .ok found ∧
      nearest.neighborIndex.getD i (-1) =
        (((acceptedNeighbor (narrow (limit * limit)) (referenceSamples reference).cloud.length
          found).map (storedNeighbor (referenceSamples reference).storageIndices)).getD (-1, 0)).1
      := by
  unfold nearestNeighbors at h
  dsimp only at h
  rw [if_neg hcloud, mapError_ok_iff, hq.searches_eq] at h
  split_ifs at h with hthreads
  · cases h
  obtain ⟨cells, hcells, rfl⟩ := map_ok_iff.mp h
  obtain ⟨values, hvalues, rfl⟩ := map_ok_iff.mp hcells
  obtain ⟨k, hk, rfl⟩ := List.mem_iff_getElem.mp hi
  obtain ⟨value, hvalue, hstep⟩ := getElem?_mapM hvalues
    (List.getElem?_range hk : (List.range query.indices.length)[k]? = some k)
  have hlt : query.indices[k] < (List.replicate query.storageSize ((-1 : ℤ), (0 : F))).length := by
    rw [List.length_replicate]
    exact hq.lt hi
  have hslot := getElem?_scatter_writesAt hq.nodup (List.getElem?_eq_getElem hk) hvalue
    (List.getElem?_eq_getElem hlt)
  rw [List.getElem_replicate] at hslot
  unfold neighborAt at hstep
  dsimp only at hstep
  rw [hq.storageIndex_eq hk, if_neg (not_not.mpr hv)] at hstep
  obtain ⟨stored, hneighbor, rfl⟩ := map_ok_iff.mp hstep
  obtain ⟨found, hfound, rfl⟩ := map_ok_iff.mp hneighbor
  refine ⟨found, hfound, ?_⟩
  dsimp only
  rw [List.getD_eq_getElem?_getD, List.getElem?_map, hslot]
  rfl

/-- An exact search leaves a valid sample without a neighbour exactly when every valid sample of the
reference is beyond the limit. -/
theorem nearestNeighbors_none_iff [OrderedFloat F] (hpcl : host.pcl.NearestBy distance)
    {reference query : OwnedSurface F} (hstorage : reference.view.storageSize < 2 ^ 31)
    (h : nearestNeighbors host scheduler reference.view query.view limit threads = .ok nearest)
    {i : ℕ} (hi : i ∈ query.view.indices) (hv : query.view.isValidIndex i = true) :
    nearest.neighborIndex.getD i (-1) < 0 ↔
      ∀ j ∈ reference.view.indices, reference.view.isValidIndex j = true →
        narrow (limit * limit) <
          distance (query.view.points.getD i default) (reference.view.points.getD j default) := by
  have hmember : ∀ j ∈ reference.view.indices, reference.view.isValidIndex j = true →
      reference.view.points.getD j default ∈ (referenceSamples reference.view).cloud :=
    fun j hj hvalid => List.mem_map.mpr ⟨j, List.mem_filter.mpr ⟨hj, hvalid⟩, rfl⟩
  by_cases hcloud : (referenceSamples reference.view).cloud = []
  · refine iff_of_true ?_ fun j hj hvalid => ?_
    · unfold nearestNeighbors at h
      dsimp only at h
      rw [if_pos hcloud] at h
      obtain rfl := Except.ok.inj h
      dsimp only
      rw [List.map_replicate, List.getD_eq_getElem?_getD, List.getElem?_replicate]
      split_ifs <;> exact show (-1 : ℤ) < 0 by decide
    · have hmem := hmember j hj hvalid
      rw [hcloud] at hmem
      cases hmem
  · obtain ⟨found, hfound, hindex⟩ := nearestNeighbors_accepted query.shaped h hcloud hi hv
    have hfinite : ∀ p ∈ (referenceSamples reference.view).cloud, p.finite = true := by
      intro p hp
      obtain ⟨j, hj, rfl⟩ := List.mem_map.mp hp
      obtain ⟨hmem, hvalid⟩ := List.mem_filter.mp hj
      exact reference.finite_point hmem hvalid
    obtain ⟨index, rest, hlt, hexact, hleast⟩ := hpcl _ _ hcloud hfinite (query.finite_point hi hv)
    obtain rfl := Except.ok.inj (hfound.symm.trans hexact)
    have hnonneg : ¬ ((index : ℤ) < 0) := not_lt.mpr (Int.natCast_nonneg index)
    rw [hindex]
    unfold acceptedNeighbor
    dsimp only
    rw [if_neg hnonneg, Int.toNat_natCast, if_neg (Nat.not_le.mpr hlt)]
    split_ifs with hfar
    · refine iff_of_true (show (-1 : ℤ) < 0 by decide) fun j hj hvalid => ?_
      exact lt_le_trans hfar (hleast _ (hmember j hj hvalid))
    · have hlength :
          index < (reference.view.indices.filter reference.view.isValidIndex).length := by
        simpa [referenceSamples] using hlt
      obtain ⟨hmem, hvalid⟩ := List.mem_filter.mp (List.getElem_mem hlength)
      refine iff_of_false ?_ fun hall => hfar ?_
      · rw [Option.map_some, Option.getD_some]
        unfold storedNeighbor referenceSamples
        dsimp only
        rw [List.getD_eq_getElem _ _ hlength,
          int32_eq ((reference.shaped.lt hmem).trans hstorage)]
        exact not_lt.mpr (Int.natCast_nonneg _)
      · have hpoint : (referenceSamples reference.view).cloud.getD index default =
            reference.view.points.getD
              (reference.view.indices.filter reference.view.isValidIndex)[index] default := by
          rw [List.getD_eq_getElem _ _ hlt]
          exact List.getElem_map _
        rw [hpoint]
        exact hall _ hmem hvalid

end Searches

variable [FloatArith D] [Floats F D] {host : Host F D} {scheduler : Scheduler}
  {distance : Vec3 F → Vec3 F → F} {reference scan : OwnedSurface F} {boundary : List UInt8}
  {config : ValidatedComparisonConfig D} {threads : UInt32} {field : CoverageField D}

/-- The slots of a coverage field without a neighbour are the missing samples. -/
theorem computeCoverageField_noNeighbor_iff [OrderedFloat F] (hpcl : host.pcl.NearestBy distance)
    (hstorage : scan.view.storageSize < 2 ^ 31)
    (h : computeCoverageField host scheduler reference.view scan.view boundary config threads =
      .ok field) (i : ℕ) :
    (field.samples.getD i default).reason = .noNeighbor ↔
      i ∈ missingSamples distance
        (narrow (config.maxSearchDistanceMm * config.maxSearchDistanceMm)) reference.view
        scan.view := by
  unfold computeCoverageField at h
  simp only [bind_ok_iff, pure, Except.pure, Except.ok.injEq] at h
  obtain ⟨_, -, nearest, hnearest, rfl⟩ := h
  rw [List.getD_eq_getElem?_getD, fillCoverage_getElem? reference.shaped.nodup]
  by_cases hi : i ∈ reference.view.indices
  · rw [if_pos (reference.shaped.lt hi), if_pos hi, Option.getD_some]
    unfold coverageSample
    by_cases hv : reference.view.isValidIndex i = true
    · have hnone := nearestNeighbors_none_iff hpcl hstorage hnearest hi hv
      rw [if_neg (not_not.mpr hv)]
      dsimp only
      by_cases hnegative : nearest.neighborIndex.getD i (-1) < 0
      · rw [if_pos hnegative]
        exact iff_of_true rfl ⟨⟨hi, hv⟩, hnone.mp hnegative⟩
      · rw [if_neg hnegative]
        refine iff_of_false ?_ fun hmissing => hnegative (hnone.mpr hmissing.2)
        split_ifs <;> exact fun he => by cases he
    · rw [if_pos hv]
      exact iff_of_false (fun he => by cases he) fun hmissing => hv hmissing.1.2
  · have hreason : ((if i < reference.view.storageSize then some (if i ∈ reference.view.indices then
        coverageSample reference.view boundary nearest i else default) else none).getD
          (default : CoverageSample D)).reason = .inputInvalid := by
      rw [if_neg hi]
      split_ifs <;> rfl
    rw [hreason]
    exact iff_of_false (fun he => by cases he) fun hmissing => hi hmissing.1.1

end PointcloudAd
