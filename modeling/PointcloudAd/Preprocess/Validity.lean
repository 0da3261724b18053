import Mathlib.Data.List.GetD
import PointcloudAd.Backends.Exhaustive
import PointcloudAd.Core.Surface

/-!
# Validity masks

The mask that keeps the samples which are finite, valid in the input and inside a region of
interest, with a reason for every sample that it drops.
-/

namespace PointcloudAd

open Library

variable {F : Type} [FloatArith F]

structure AxisAlignedRoi (F : Type) where
  minimumMm : Vec3 F
  maximumMm : Vec3 F

inductive InvalidReason where
  | none | inputMasked | nonFinitePoint | nonFiniteNormal | outsideRoi | rowPadding
  deriving DecidableEq, Repr

structure ValidityMaskResult (F : Type) [FloatArith F] where
  surface : OwnedSurface F
  reasons : List InvalidReason
  validCount : ℕ

def preprocessError (code : ErrorCode) (field reason : String) : Error :=
  ⟨code, .preprocess, "validity preprocessing failed", [("field", field), ("reason", reason)]⟩

def validRoi (roi : AxisAlignedRoi F) : Prop :=
  roi.minimumMm.finite ∧ roi.maximumMm.finite ∧ roi.minimumMm.x ≤ roi.maximumMm.x ∧
    roi.minimumMm.y ≤ roi.maximumMm.y ∧ roi.minimumMm.z ≤ roi.maximumMm.z

instance decidableValidRoi (roi : AxisAlignedRoi F) : Decidable (validRoi roi) :=
  inferInstanceAs (Decidable (_ ∧ _))

/-- Points on the bounds are inside. -/
def inside (roi : AxisAlignedRoi F) (point : Vec3 F) : Prop :=
  roi.minimumMm.x ≤ point.x ∧ point.x ≤ roi.maximumMm.x ∧
    roi.minimumMm.y ≤ point.y ∧ point.y ≤ roi.maximumMm.y ∧
    roi.minimumMm.z ≤ point.z ∧ point.z ≤ roi.maximumMm.z

instance decidableInside (roi : AxisAlignedRoi F) (point : Vec3 F) : Decidable (inside roi point) :=
  inferInstanceAs (Decidable (_ ∧ _))

/-- Why a sample is dropped: the first of the reasons that applies. -/
def invalidReason (surface : SurfaceView F) (roi : Option (AxisAlignedRoi F)) (index : ℕ) :
    InvalidReason :=
  let point := surface.points.getD index default
  if ¬ point.finite then .nonFinitePoint
  else if surface.normals ≠ [] ∧ ¬ (surface.normals.getD index default).finite then .nonFiniteNormal
  else if ¬ surface.isValidIndex index then .inputMasked
  else if ∃ region ∈ roi, ¬ inside region point then .outsideRoi
  else .none

structure ValidityCells where
  mask : List UInt8
  reasons : List InvalidReason
  validCount : ℕ

def classify (surface : SurfaceView F) (roi : Option (AxisAlignedRoi F)) (state : ValidityCells)
    (index : ℕ) : ValidityCells :=
  let reason := invalidReason surface roi index
  let reasons := state.reasons.set index reason
  if reason = .none then ⟨state.mask.set index 1, reasons, state.validCount + 1⟩
  else { state with reasons := reasons }

def validityCells (surface : SurfaceView F) (roi : Option (AxisAlignedRoi F)) : ValidityCells :=
  surface.indices.foldl (classify surface roi)
    ⟨List.replicate surface.storageSize 0, List.replicate surface.storageSize .rowPadding, 0⟩

def applyValidityMask (surface : SurfaceView F) (roi : Option (AxisAlignedRoi F)) :
    Result (ValidityMaskResult F) :=
  if surface.unit ≠ .millimeter then
    .error (preprocessError .invalidInput "surface.unit" "must be normalized to millimetres")
  else if ∃ region ∈ roi, ¬ validRoi region then
    .error (preprocessError .invalidArgument "roi" "bounds must be finite and minimum <= maximum")
  else do
    let cells := validityCells surface roi
    let owned ← OwnedSurface.create surface.points surface.normals cells.mask surface.grid
      surface.unit surface.frame
    return ⟨owned, cells.reasons, cells.validCount⟩

section Cells

variable {surface : SurfaceView F} {roi : Option (AxisAlignedRoi F)}

theorem invalidReason_eq_none {index : ℕ} : invalidReason surface roi index = .none ↔
    (surface.points.getD index default).finite = true ∧
      (surface.normals ≠ [] → (surface.normals.getD index default).finite = true) ∧
      surface.isValidIndex index = true ∧
      ∀ region ∈ roi, inside region (surface.points.getD index default) := by
  unfold invalidReason
  dsimp only
  constructor
  · intro h
    split_ifs at h with hpoint hnormal hvalid hinside
    refine ⟨hpoint, ?_, hvalid, ?_⟩
    · intro hne
      by_contra hfinite
      exact hnormal ⟨hne, hfinite⟩
    · intro region hregion
      by_contra hout
      exact hinside ⟨region, hregion, hout⟩
  · rintro ⟨hpoint, hnormal, hvalid, hinside⟩
    rw [if_neg (not_not_intro hpoint), if_neg, if_neg (not_not_intro hvalid), if_neg]
    · rintro ⟨region, hregion, hout⟩
      exact hout (hinside region hregion)
    · rintro ⟨hne, hfinite⟩
      exact hfinite (hnormal hne)

theorem classify_mask (state : ValidityCells) (i w : ℕ) :
    (classify surface roi state i).mask[w]? =
      if w = i then (state.mask[w]?).map fun flag =>
        if invalidReason surface roi i = .none then 1 else flag
      else state.mask[w]? := by
  unfold classify
  by_cases hreason : invalidReason surface roi i = .none
  · simp only [hreason, if_true]
    exact getElem?_set_map _ _ _ _
  · simp [hreason]

theorem classify_reasons (state : ValidityCells) (i w : ℕ) :
    (classify surface roi state i).reasons[w]? =
      if w = i then (state.reasons[w]?).map fun _ => invalidReason surface roi i
      else state.reasons[w]? := by
  have hreasons : (classify surface roi state i).reasons =
      state.reasons.set i (invalidReason surface roi i) := by
    unfold classify
    dsimp only
    split_ifs <;> rfl
  rw [hreasons]
  exact getElem?_set_map _ _ _ _

theorem validCount_foldl_classify (indices : List ℕ) (state : ValidityCells) :
    (indices.foldl (classify surface roi) state).validCount =
      state.validCount + indices.countP fun i => invalidReason surface roi i = .none := by
  induction indices generalizing state with
  | nil => rfl
  | cons i indices ih =>
    rw [List.foldl_cons, ih, List.countP_cons]
    unfold classify
    by_cases hreason : invalidReason surface roi i = .none
    · simp [hreason]
      omega
    · simp [hreason]

/-- A sample is kept where no reason speaks against it. -/
def Kept (surface : SurfaceView F) (roi : Option (AxisAlignedRoi F)) (index : ℕ) : Prop :=
  index ∈ surface.indices ∧ invalidReason surface roi index = .none

instance decidableKept (surface : SurfaceView F) (roi : Option (AxisAlignedRoi F)) (index : ℕ) :
    Decidable (Kept surface roi index) :=
  inferInstanceAs (Decidable (_ ∧ _))

theorem validityCells_mask (h : surface.Shaped) : (validityCells surface roi).mask =
    (List.range surface.storageSize).map fun i => if Kept surface roi i then 1 else 0 := by
  apply List.ext_getElem?
  intro i
  unfold validityCells Kept
  rw [getElem?_foldl_cells ValidityCells.mask _ classify_mask h.nodup, List.getElem?_replicate,
    List.getElem?_map]
  by_cases hi : i < surface.storageSize
  · rw [if_pos hi, List.getElem?_range hi]
    by_cases hmem : i ∈ surface.indices
    · simp [hmem]
    · simp [hmem]
  · rw [if_neg hi, List.getElem?_eq_none (by simpa using hi)]
    simp

theorem validityCells_reasons (h : surface.Shaped) : (validityCells surface roi).reasons =
    (List.range surface.storageSize).map fun i =>
      if i ∈ surface.indices then invalidReason surface roi i else .rowPadding := by
  apply List.ext_getElem?
  intro i
  unfold validityCells
  rw [getElem?_foldl_cells ValidityCells.reasons _ classify_reasons h.nodup,
    List.getElem?_replicate, List.getElem?_map]
  by_cases hi : i < surface.storageSize
  · rw [if_pos hi, List.getElem?_range hi]
    by_cases hmem : i ∈ surface.indices
    · simp [hmem]
    · simp [hmem]
  · rw [if_neg hi, List.getElem?_eq_none (by simpa using hi)]
    simp

theorem getD_validityCells_mask (h : surface.Shaped) (i : ℕ) :
    (validityCells surface roi).mask.getD i 0 = if Kept surface roi i then 1 else 0 := by
  rw [validityCells_mask h, List.getD_eq_getElem?_getD, List.getElem?_map]
  by_cases hi : i < surface.storageSize
  · simp [List.getElem?_range hi]
  · have hout : ¬ Kept surface roi i := fun hkept => hi (h.lt hkept.1)
    rw [List.getElem?_eq_none (by simpa using hi), if_neg hout]
    rfl

/-- The checks of a surface pass on the mask. -/
theorem checkIndex_masked (h : surface.Shaped) {i : ℕ} :
    checkIndex surface.points surface.normals (validityCells surface roi).mask i = .ok () := by
  have hmask : (validityCells surface roi).mask.getD i 0 = if Kept surface roi i then 1 else 0 :=
    getD_validityCells_mask h i
  have hne : (validityCells surface roi).mask ≠ [] := by
    rw [validityCells_mask h]
    simpa [SurfaceView.storageSize] using h.nonempty
  have hkept : maskValid (validityCells surface roi).mask i = true → Kept surface roi i := by
    unfold maskValid
    rw [hmask]
    intro hvalid
    by_contra hout
    simp [hne, hout] at hvalid
  unfold checkIndex
  dsimp only
  rw [if_neg, if_neg, if_neg]
  · rintro ⟨hvalid, hn, hfinite⟩
    exact hfinite ((invalidReason_eq_none.mp (hkept hvalid).2).2.1 hn)
  · rintro ⟨hvalid, hfinite⟩
    exact hfinite (invalidReason_eq_none.mp (hkept hvalid).2).1
  · rintro ⟨-, hlt⟩
    rw [hmask] at hlt
    split_ifs at hlt
    · exact absurd hlt (by decide)
    · exact absurd hlt (by decide)

/-- The surface that a walk leaves: the arrays of the input with the new mask. -/
def SurfaceView.masked (surface : SurfaceView F) (roi : Option (AxisAlignedRoi F)) :
    SurfaceView F :=
  { surface with valid := (validityCells surface roi).mask }

theorem validate_masked (h : surface.Shaped) :
    validateSurfaceData surface.points surface.normals (validityCells surface roi).mask
      surface.grid = .ok surface.logicalSize := by
  have hlength : (validityCells surface roi).mask.length = surface.storageSize := by
    rw [validityCells_mask h, List.length_map, List.length_range]
  rw [h.validate rfl h.normals (.inr hlength), forM_ok_iff.mpr fun i _ => checkIndex_masked h]
  rfl

theorem shaped_masked (h : surface.Shaped) : (surface.masked roi).Shaped :=
  (validateSurfaceData_ok (validate_masked h) surface.unit surface.frame).1

theorem applyValidityMask_ok (h : surface.Shaped) (hunit : surface.unit = .millimeter)
    (hroi : ∀ region ∈ roi, validRoi region) :
    applyValidityMask surface roi =
      .ok ⟨⟨surface.masked roi, validate_masked h⟩, (validityCells surface roi).reasons,
        (validityCells surface roi).validCount⟩ := by
  unfold applyValidityMask
  rw [if_neg (not_not_intro hunit), if_neg]
  · dsimp only
    rw [OwnedSurface.create_ok (validate_masked h)]
    rfl
  · rintro ⟨region, hregion, hinvalid⟩
    exact hinvalid (hroi region hregion)

theorem indices_masked : (surface.masked roi).indices = surface.indices := rfl

theorem isValidIndex_masked (h : surface.Shaped) (i : ℕ) :
    (surface.masked roi).isValidIndex i = decide (Kept surface roi i) := by
  have hne : (validityCells surface roi).mask ≠ [] := by
    rw [validityCells_mask h]
    simpa [SurfaceView.storageSize] using h.nonempty
  change maskValid (validityCells surface roi).mask i = _
  unfold maskValid
  rw [getD_validityCells_mask h]
  by_cases hkept : Kept surface roi i
  · simp [hkept]
  · simp [hkept, hne]

theorem kept_masked (h : surface.Shaped) (region : Option (AxisAlignedRoi F)) (i : ℕ) :
    Kept (surface.masked roi) region i ↔ Kept surface roi i ∧ Kept surface region i := by
  unfold Kept
  rw [indices_masked, invalidReason_eq_none, isValidIndex_masked h, decide_eq_true_eq]
  simp only [Kept, invalidReason_eq_none, SurfaceView.masked]
  tauto

theorem masked_congr {s t : SurfaceView F} {roi region : Option (AxisAlignedRoi F)} (hs : s.Shaped)
    (ht : t.Shaped) (hst : s = { t with valid := s.valid })
    (hkept : ∀ i, Kept s roi i ↔ Kept t region i) : s.masked roi = t.masked region := by
  have hstorage : s.storageSize = t.storageSize := by
    rw [hst]
    rfl
  unfold SurfaceView.masked
  rw [validityCells_mask hs, validityCells_mask ht, hstorage, hst]
  congr 1
  apply List.map_congr_left
  intro i _
  rw [← hst]
  simp only [hkept i]

end Cells

/-- The region of the points of both regions. -/
def AxisAlignedRoi.intersect (a b : AxisAlignedRoi F) : AxisAlignedRoi F where
  minimumMm := ⟨stdMax a.minimumMm.x b.minimumMm.x, stdMax a.minimumMm.y b.minimumMm.y,
    stdMax a.minimumMm.z b.minimumMm.z⟩
  maximumMm := ⟨stdMin a.maximumMm.x b.maximumMm.x, stdMin a.maximumMm.y b.maximumMm.y,
    stdMin a.maximumMm.z b.maximumMm.z⟩

section Regions

variable [OrderedFloat F] [FiniteNumbers F] {a b : AxisAlignedRoi F}

omit [OrderedFloat F] in
theorem Vec3.number {v : Vec3 F} (h : v.finite = true) : v.x ≤ v.x ∧ v.y ≤ v.y ∧ v.z ≤ v.z := by
  obtain ⟨hx, hy, hz⟩ := Vec3.finite_iff_axes.mp h
  exact ⟨FiniteNumbers.number hx, FiniteNumbers.number hy, FiniteNumbers.number hz⟩

theorem inside_intersect (ha : validRoi a) (hb : validRoi b) {point : Vec3 F} :
    inside (a.intersect b) point ↔ inside a point ∧ inside b point := by
  obtain ⟨hax, hay, haz⟩ := Vec3.number ha.1
  obtain ⟨hax', hay', haz'⟩ := Vec3.number ha.2.1
  obtain ⟨hbx, hby, hbz⟩ := Vec3.number hb.1
  obtain ⟨hbx', hby', hbz'⟩ := Vec3.number hb.2.1
  unfold inside AxisAlignedRoi.intersect
  dsimp only
  rw [stdMax_le_iff hax hbx, stdMax_le_iff hay hby, stdMax_le_iff haz hbz,
    le_stdMin_iff hax' hbx', le_stdMin_iff hay' hby', le_stdMin_iff haz' hbz']
  tauto

omit [OrderedFloat F] [FiniteNumbers F] in
theorem Vec3.finite_of_choice {u v w : Vec3 F} (hu : u.finite = true) (hv : v.finite = true)
    (hx : w.x = u.x ∨ w.x = v.x) (hy : w.y = u.y ∨ w.y = v.y) (hz : w.z = u.z ∨ w.z = v.z) :
    w.finite = true := by
  rw [Vec3.finite_iff_axes] at hu hv ⊢
  refine ⟨?_, ?_, ?_⟩
  · rcases hx with hx | hx <;> rw [hx]
    · exact hu.1
    · exact hv.1
  · rcases hy with hy | hy <;> rw [hy]
    · exact hu.2.1
    · exact hv.2.1
  · rcases hz with hz | hz <;> rw [hz]
    · exact hu.2.2
    · exact hv.2.2

theorem validRoi_intersect (ha : validRoi a) (hb : validRoi b) {point : Vec3 F}
    (hpa : inside a point) (hpb : inside b point) : validRoi (a.intersect b) := by
  obtain ⟨hx, hx', hy, hy', hz, hz'⟩ := (inside_intersect ha hb).mpr ⟨hpa, hpb⟩
  refine ⟨?_, ?_, OrderedFloat.le_trans hx hx', OrderedFloat.le_trans hy hy',
    OrderedFloat.le_trans hz hz'⟩
  · exact Vec3.finite_of_choice ha.1 hb.1 (stdMax_choice _ _) (stdMax_choice _ _)
      (stdMax_choice _ _)
  · exact Vec3.finite_of_choice ha.2.1 hb.2.1 (stdMin_choice _ _) (stdMin_choice _ _)
      (stdMin_choice _ _)

theorem kept_intersect (ha : validRoi a) (hb : validRoi b) {surface : SurfaceView F} (i : ℕ) :
    Kept surface (some (a.intersect b)) i ↔
      Kept surface (some a) i ∧ Kept surface (some b) i := by
  unfold Kept
  simp only [invalidReason_eq_none, Option.mem_some_iff, forall_eq', inside_intersect ha hb]
  tauto

end Regions

/-- What a mask of the samples of a surface is. -/
structure MaskSound (surface : SurfaceView F) (result : ValidityMaskResult F) : Prop where
  points : result.surface.points = surface.points
  normals : result.surface.normals = surface.normals
  grid : result.surface.grid = surface.grid
  binary : ∀ i < surface.storageSize,
    result.surface.valid[i]? = some 0 ∨ result.surface.valid[i]? = some 1
  subset : ∀ i, result.surface.valid[i]? = some 1 →
    i ∈ surface.indices ∧ surface.isValidIndex i = true
  count : result.validCount =
    surface.indices.countP fun i => result.surface.valid[i]? = some 1
  padding : ∀ i < surface.storageSize, i ∉ surface.indices →
    result.surface.valid[i]? = some 0 ∧ result.reasons[i]? = some .rowPadding

theorem maskSound_masked {surface : SurfaceView F} (h : surface.Shaped)
    (roi : Option (AxisAlignedRoi F)) :
    MaskSound surface ⟨⟨surface.masked roi, validate_masked h⟩,
      (validityCells surface roi).reasons, (validityCells surface roi).validCount⟩ := by
  have hentry : ∀ i < surface.storageSize, (validityCells surface roi).mask[i]? =
      some (if Kept surface roi i then 1 else 0) := by
    intro i hi
    rw [validityCells_mask h, List.getElem?_map, List.getElem?_range hi]
    rfl
  have hone : ∀ i, (validityCells surface roi).mask[i]? = some 1 ↔ Kept surface roi i := by
    intro i
    by_cases hi : i < surface.storageSize
    · rw [hentry i hi]
      split_ifs with hkept
      · simp [hkept]
      · simp [hkept]
    · rw [validityCells_mask h, List.getElem?_map, List.getElem?_eq_none (by simpa using hi)]
      simp only [Option.map_none, reduceCtorEq, false_iff]
      exact fun hkept => hi (h.lt hkept.1)
  refine ⟨rfl, rfl, rfl, ?_, ?_, ?_, ?_⟩
  · intro i hi
    change (validityCells surface roi).mask[i]? = _ ∨ (validityCells surface roi).mask[i]? = _
    rw [hentry i hi]
    split_ifs
    · exact .inr rfl
    · exact .inl rfl
  · intro i hi
    obtain ⟨hmem, hreason⟩ := (hone i).mp hi
    exact ⟨hmem, (invalidReason_eq_none.mp hreason).2.2.1⟩
  · change (validityCells surface roi).validCount = _
    unfold validityCells
    rw [validCount_foldl_classify, Nat.zero_add]
    apply List.countP_congr
    intro i hi
    simp only [decide_eq_true_eq]
    exact ⟨fun hreason => (hone i).mpr ⟨hi, hreason⟩, fun hflag => ((hone i).mp hflag).2⟩
  · intro i hi hpadding
    constructor
    · exact (hentry i hi).trans (by rw [if_neg fun hkept => hpadding hkept.1])
    · change (validityCells surface roi).reasons[i]? = _
      rw [validityCells_reasons h, List.getElem?_map, List.getElem?_range hi]
      simp [hpadding]

/-- A mask is never rejected and is sound; one region after another, in either order, gives the
surface of their intersection, and a region twice that of the region once. -/
theorem applyValidityMask_composes [OrderedFloat F] [FiniteNumbers F] (surface : SurfaceView F)
    (h : surface.Shaped) (hunit : surface.unit = .millimeter) :
    (∀ roi : Option (AxisAlignedRoi F), (∀ region ∈ roi, validRoi region) →
      ∃ result, applyValidityMask surface roi = .ok result ∧ MaskSound surface result) ∧
    ∀ a b : AxisAlignedRoi F, validRoi a → validRoi b →
      (∃ point, inside a point ∧ inside b point) →
      ∃ first second both, applyValidityMask surface (some a) = .ok first ∧
        applyValidityMask surface (some b) = .ok second ∧
        applyValidityMask surface (some (a.intersect b)) = .ok both ∧
        (∃ result, applyValidityMask first.surface.view (some b) = .ok result ∧
          result.surface = both.surface) ∧
        (∃ result, applyValidityMask second.surface.view (some a) = .ok result ∧
          result.surface = both.surface) ∧
        ∃ result, applyValidityMask first.surface.view (some a) = .ok result ∧
          result.surface = first.surface := by
  constructor
  · intro roi hroi
    exact ⟨_, applyValidityMask_ok h hunit hroi, maskSound_masked h roi⟩
  · rintro a b ha hb ⟨point, hpa, hpb⟩
    have hvalid : ∀ {c : AxisAlignedRoi F}, validRoi c → ∀ region ∈ some c, validRoi region := by
      rintro c hc region ⟨⟩
      exact hc
    have hboth := validRoi_intersect ha hb hpa hpb
    have hkept : ∀ i, Kept surface (some (a.intersect b)) i ↔
        Kept surface (some a) i ∧ Kept surface (some b) i := kept_intersect ha hb
    refine ⟨_, _, _, applyValidityMask_ok h hunit (hvalid ha),
      applyValidityMask_ok h hunit (hvalid hb), applyValidityMask_ok h hunit (hvalid hboth),
      ⟨_, applyValidityMask_ok (shaped_masked h) hunit (hvalid hb), ?_⟩,
      ⟨_, applyValidityMask_ok (shaped_masked h) hunit (hvalid ha), ?_⟩,
      ⟨_, applyValidityMask_ok (shaped_masked h) hunit (hvalid ha), ?_⟩⟩
    · apply OwnedSurface.ext
      apply masked_congr (shaped_masked h) h rfl
      intro i
      rw [kept_masked h, hkept]
    · apply OwnedSurface.ext
      apply masked_congr (shaped_masked h) h rfl
      intro i
      rw [kept_masked h, hkept, and_comm]
    · apply OwnedSurface.ext
      apply masked_congr (shaped_masked h) h rfl
      intro i
      rw [kept_masked h, and_self]

/-- A point on the bounds of both regions, a point of one of them, and a masked one. -/
def roiFixture : SurfaceView (Exact ℚ) where
  points := [exactPoint 1 1 1, exactPoint 0 0 0, ⟨.nan, .nan, .nan⟩]
  normals := []
  valid := [1, 1, 0]
  grid := none
  unit := .millimeter
  frame := exactFrame
  logicalSize := 3

def lowerRoi : AxisAlignedRoi (Exact ℚ) := ⟨exactPoint 0 0 0, exactPoint 2 2 2⟩

def upperRoi : AxisAlignedRoi (Exact ℚ) := ⟨exactPoint 1 1 1, exactPoint 3 3 3⟩

theorem applyValidityMask_composes_fixture :
    ∃ first both, applyValidityMask roiFixture (some lowerRoi) = .ok first ∧
      applyValidityMask roiFixture (some (lowerRoi.intersect upperRoi)) = .ok both ∧
      ∃ result, applyValidityMask first.surface.view (some upperRoi) = .ok result ∧
        result.surface = both.surface := by
  obtain ⟨first, -, both, hfirst, -, hboth, hboth', -, -⟩ :=
    (applyValidityMask_composes roiFixture
      (validateSurfaceData_ok (show validateSurfaceData roiFixture.points [] [1, 1, 0] none = .ok 3
        from rfl) _ _).1 rfl).2 lowerRoi upperRoi (by decide) (by decide)
      ⟨exactPoint 1 1 1, by decide, by decide⟩
  exact ⟨first, both, hfirst, hboth, hboth'⟩

end PointcloudAd
