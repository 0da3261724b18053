import PointcloudAd.Comparison.Statistics
import PointcloudAd.Detection.DefectCluster

/-!
# Defect regions

The position, extent, deviations and estimated area of a cluster.
-/

namespace PointcloudAd

open Library

variable {F D : Type} [FloatArith F] [FloatArith D] [Floats F D]

inductive Severity where
  | info | warning | reject
  deriving DecidableEq, Repr

/-- A measured region; its severity is set by the pipeline. -/
structure DefectRegion (D : Type) where
  id : ℕ
  type : DefectType
  pointCount : ℕ
  centroid : Vec3 D
  aabbMin : Vec3 D
  aabbMax : Vec3 D
  maxAbsMm : D
  meanMm : D
  rmsMm : D
  p95AbsMm : D
  estimatedAreaMm2 : Option D
  areaIsApproximate : Bool
  severity : Severity
  deriving DecidableEq

def regionError (code : ErrorCode) (field reason : String) : Error :=
  ⟨code, .detect, "defect region measurement failed", [("field", field), ("reason", reason)]⟩

structure PointSample (D : Type) where
  position : Vec3 D
  signedMm : D

def collectSample (surface : SurfaceView F) (field : Option (DeviationField D)) (index : ℕ) :
    Result (PointSample D) :=
  if surface.storageSize ≤ index ∨ ¬ surface.isValidIndex index then
    .error (regionError .invalidInput "cluster" "references an invalid surface index")
  else .ok ⟨(surface.points.getD index default).widen,
    match field with
    | some field => (field.samples.getD index default).signedMm
    | none => 0⟩

def collectSamples (cluster : DefectCluster) (surface : SurfaceView F)
    (field : Option (DeviationField D)) : Result (List (PointSample D)) :=
  if surface.unit ≠ .millimeter then
    .error (regionError .invalidInput "surface.unit" "must be normalized to millimetres")
  else if ∃ f ∈ field, f.samples.length ≠ surface.storageSize then
    .error (regionError .invalidInput "field" "must span the surface storage layout")
  else cluster.pointIndices.mapM (collectSample surface field)

/-- The distance from a member to the nearest other member. -/
def nearestMemberDistance (positions : List (Vec3 D)) (i : ℕ) : D :=
  (List.range positions.length).foldl
    (fun nearest j =>
      if i = j then nearest
      else
        let d := Registration.sub (positions.getD i default) (positions.getD j default)
        stdMin nearest (sqrt (d.x * d.x + d.y * d.y + d.z * d.z)))
    infinity

/-- The square of the mean distance to the nearest member, for each member; none below two. -/
def estimatedArea (positions : List (Vec3 D)) : Option D :=
  if positions.length < 2 then none
  else
    let count : D := lit positions.length
    let mean := (List.range positions.length).foldl
      (fun sum i => sum + nearestMemberDistance positions i) 0 / count
    some (mean * mean * count)

def foldPositions (step : D → D → D) (start : D) (positions : List (Vec3 D)) : Vec3 D :=
  positions.foldl (fun m p => ⟨step m.x p.x, step m.y p.y, step m.z p.z⟩) ⟨start, start, start⟩

variable (F) in
/-- Deviations are measured for bumps and dents only. -/
def buildRegion (cluster : DefectCluster) (samples : List (PointSample D)) (hasDeviation : Bool)
    (id : ℕ) : DefectRegion D :=
  let positions := samples.map PointSample.position
  let sum : Vec3 D := foldPositions (· + ·) 0 positions
  let scale : D := 1 / lit samples.length
  let summary := if hasDeviation then summarizeSigned F (samples.map PointSample.signedMm)
    else ⟨0, 0, 0, 0⟩
  { id := id
    type := cluster.type
    pointCount := samples.length
    centroid := if samples = [] then sum else ⟨sum.x * scale, sum.y * scale, sum.z * scale⟩
    aabbMin := foldPositions stdMin infinity positions
    aabbMax := foldPositions stdMax (-infinity) positions
    maxAbsMm := summary.maxAbs
    meanMm := summary.mean
    rmsMm := summary.rms
    p95AbsMm := summary.p95Abs
    estimatedAreaMm2 := estimatedArea positions
    areaIsApproximate := true
    severity := .info }

def measureDeviationRegion (cluster : DefectCluster) (scan : SurfaceView F)
    (field : DeviationField D) (id : ℕ) : Result (DefectRegion D) :=
  (collectSamples cluster scan (some field)).map fun samples =>
    buildRegion F cluster samples true id

def measureMissingRegion (cluster : DefectCluster) (reference : SurfaceView F) (id : ℕ) :
    Result (DefectRegion D) :=
  (collectSamples cluster reference none).map fun samples => buildRegion F cluster samples false id

/-- The signed deviations of the members of a cluster. -/
def signedDeviations (field : DeviationField D) (cluster : DefectCluster) : List D :=
  cluster.pointIndices.map fun i => (field.samples.getD i default).signedMm

section

variable {cluster : DefectCluster} {surface : SurfaceView F} {field : DeviationField D} {id : ℕ}
  {region : DefectRegion D}

theorem collectSamples_signed {samples : List (PointSample D)}
    (h : collectSamples cluster surface (some field) = .ok samples) :
    samples.map PointSample.signedMm = signedDeviations field cluster := by
  unfold collectSamples at h
  split_ifs at h
  refine map_of_mapM h fun i sample hsample => ?_
  unfold collectSample at hsample
  split_ifs at hsample
  rw [← Except.ok.inj hsample]

theorem measureDeviationRegion_ok
    (h : measureDeviationRegion cluster surface field id = .ok region) :
    region.type = cluster.type ∧
      region.maxAbsMm = (summarizeSigned F (signedDeviations field cluster)).maxAbs ∧
      region.meanMm = (summarizeSigned F (signedDeviations field cluster)).mean := by
  unfold measureDeviationRegion at h
  obtain ⟨samples, hsamples, rfl⟩ := map_ok_iff.mp h
  rw [← collectSamples_signed hsamples]
  exact ⟨rfl, rfl, rfl⟩

theorem measureDeviationRegion_info
    (h : measureDeviationRegion cluster surface field id = .ok region) :
    region.severity = .info ∧ region.id = id := by
  unfold measureDeviationRegion at h
  obtain ⟨samples, -, rfl⟩ := map_ok_iff.mp h
  exact ⟨rfl, rfl⟩

theorem measureMissingRegion_info (h : measureMissingRegion cluster surface id = .ok region) :
    region.severity = .info ∧ region.id = id := by
  unfold measureMissingRegion at h
  obtain ⟨samples, -, rfl⟩ := map_ok_iff.mp h
  exact ⟨rfl, rfl⟩

theorem measureMissingRegion_ok (h : measureMissingRegion cluster surface id = .ok region) :
    region.type = cluster.type := by
  unfold measureMissingRegion at h
  obtain ⟨samples, -, rfl⟩ := map_ok_iff.mp h
  rfl

end

theorem le_maxAbs_iff [OrderedFloat D] {values : List D} (hne : values ≠ [])
    (hv : ∀ v ∈ values, v ≤ v) (bound : D) :
    bound ≤ (summarizeSigned F values).maxAbs ↔ ∃ v ∈ values, bound ≤ FloatArith.abs v := by
  obtain ⟨w, hw⟩ := List.exists_mem_of_ne_nil values hne
  have hzero := OrderedFloat.abs_nonneg (hv w hw)
  unfold summarizeSigned
  rw [if_neg hne]
  dsimp only
  rw [le_foldl_stdMax_iff FloatArith.abs values 0 (OrderedFloat.le_left hzero)
    fun v hmem => abs_number (hv v hmem)]
  constructor
  · rintro (h | h)
    · exact ⟨w, hw, OrderedFloat.le_trans h hzero⟩
    · exact h
  · exact Or.inr

section

variable {s t : SurfaceView F} {cluster : DefectCluster}

theorem collectSamples_congr (hunit : s.unit = t.unit) (hstorage : s.storageSize = t.storageSize)
    (h : ∀ i ∈ cluster.pointIndices, s.isValidIndex i = t.isValidIndex i ∧
      s.points.getD i default = t.points.getD i default) (field : Option (DeviationField D)) :
    collectSamples cluster s field = collectSamples cluster t field := by
  have hsamples : cluster.pointIndices.mapM (collectSample (D := D) s field) =
      cluster.pointIndices.mapM (collectSample t field) := by
    refine mapM_congr fun i hi => ?_
    obtain ⟨hvalid, hpoint⟩ := h i hi
    unfold collectSample
    rw [hstorage, hvalid, hpoint]
  unfold collectSamples
  rw [hunit, hstorage, hsamples]

theorem measureDeviationRegion_congr (hunit : s.unit = t.unit)
    (hstorage : s.storageSize = t.storageSize)
    (h : ∀ i ∈ cluster.pointIndices, s.isValidIndex i = t.isValidIndex i ∧
      s.points.getD i default = t.points.getD i default) (field : DeviationField D) (id : ℕ) :
    measureDeviationRegion cluster s field id = measureDeviationRegion cluster t field id := by
  unfold measureDeviationRegion
  rw [collectSamples_congr hunit hstorage h]

theorem measureMissingRegion_congr (hunit : s.unit = t.unit)
    (hstorage : s.storageSize = t.storageSize)
    (h : ∀ i ∈ cluster.pointIndices, s.isValidIndex i = t.isValidIndex i ∧
      s.points.getD i default = t.points.getD i default) (id : ℕ) :
    measureMissingRegion (D := D) cluster s id = measureMissingRegion cluster t id := by
  unfold measureMissingRegion
  rw [collectSamples_congr hunit hstorage h]

end

end PointcloudAd
