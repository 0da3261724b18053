import Mathlib.Data.List.GetD
import PointcloudAd.Backends.Exhaustive
import PointcloudAd.Library.ExactAlgebra
import PointcloudAd.Library.NearIsometry
import PointcloudAd.Preprocess.Normalization

/-!
# What normalization keeps

A normalization converts every sample on its own, and fails only for frames that do not fit or a
valid sample that does not fit. Without rounding, a transform changes distances and products with
normals by no more than its tolerance allows.
-/

namespace PointcloudAd

open Library

section Walk

variable {F D : Type} [FloatArith F] [FloatArith D] [Floats F D]

/-- A sample converted, without its checks. -/
def convertIndex (scale : D) (transform : Option (RigidTransform D))
    (arrays : List (Vec3 F) × List (Vec3 F)) (index : ℕ) : List (Vec3 F) × List (Vec3 F) :=
  (arrays.1.set index (normalizePoint scale transform (arrays.1.getD index default)).narrow,
    arrays.2.set index (normalizeNormal (D := D) transform (arrays.2.getD index default)).narrow)

/-- A valid sample fits single precision once it is converted. -/
structure SampleFits (scale : D) (transform : Option (RigidTransform D)) (valid : List UInt8)
    (arrays : List (Vec3 F) × List (Vec3 F)) (index : ℕ) : Prop where
  point : maskValid valid index = true →
    fitsFloat F (normalizePoint scale transform (arrays.1.getD index default))
  normal : maskValid valid index = true → arrays.2 ≠ [] →
    fitsFloat F (normalizeNormal (D := D) transform (arrays.2.getD index default))

variable {scale : D} {transform : Option (RigidTransform D)} {valid : List UInt8}
  {arrays next : List (Vec3 F) × List (Vec3 F)}

theorem normalizeIndex_iff {index : ℕ} :
    normalizeIndex scale transform valid arrays index = .ok next ↔
      SampleFits scale transform valid arrays index ∧
        next = convertIndex scale transform arrays index := by
  obtain ⟨points, normals⟩ := arrays
  unfold normalizeIndex convertIndex
  dsimp only
  constructor
  · intro h
    split_ifs at h with hpoint hempty hnormal
    · obtain rfl := Except.ok.inj h
      refine ⟨⟨?_, ?_⟩, by rw [hempty, List.set_nil]⟩
      · intro hvalid
        by_contra hfits
        exact hpoint ⟨hvalid, hfits⟩
      · intro _ hne
        exact absurd hempty hne
    · obtain rfl := Except.ok.inj h
      refine ⟨⟨?_, ?_⟩, rfl⟩
      · intro hvalid
        by_contra hfits
        exact hpoint ⟨hvalid, hfits⟩
      · intro hvalid _
        by_contra hfits
        exact hnormal ⟨hvalid, hfits⟩
  · rintro ⟨⟨hpoint, hnormal⟩, rfl⟩
    rw [if_neg fun h => h.2 (hpoint h.1)]
    split_ifs with hempty hbad
    · rw [show normals = [] from hempty, List.set_nil]
    · exact absurd (hnormal hbad.1 hempty) hbad.2
    · rfl

theorem convertIndex_other {i j : ℕ} (h : j ≠ i) :
    SampleFits scale transform valid (convertIndex scale transform arrays i) j ↔
      SampleFits scale transform valid arrays j := by
  have hpoint : (convertIndex scale transform arrays i).1.getD j default =
      arrays.1.getD j default := by
    simp [convertIndex, List.getD_eq_getElem?_getD, List.getElem?_set_ne h.symm]
  have hnormal : (convertIndex scale transform arrays i).2.getD j default =
      arrays.2.getD j default := by
    simp [convertIndex, List.getD_eq_getElem?_getD, List.getElem?_set_ne h.symm]
  have hempty : (convertIndex scale transform arrays i).2 = [] ↔ arrays.2 = [] := by
    simp [convertIndex]
  constructor
  · rintro ⟨hp, hn⟩
    rw [hpoint] at hp
    rw [hnormal, ne_eq, hempty] at hn
    exact ⟨hp, hn⟩
  · rintro ⟨hp, hn⟩
    constructor
    · rw [hpoint]
      exact hp
    · rw [hnormal, ne_eq, hempty]
      exact hn

theorem foldlM_normalizeIndex {indices : List ℕ} (hnodup : indices.Nodup) :
    indices.foldlM (normalizeIndex scale transform valid) arrays = .ok next ↔
      (∀ i ∈ indices, SampleFits scale transform valid arrays i) ∧
        next = indices.foldl (convertIndex scale transform) arrays := by
  induction indices generalizing arrays with
  | nil => simp [pure, Except.pure, eq_comm]
  | cons i indices ih =>
    rw [List.nodup_cons] at hnodup
    have hother : ∀ j ∈ indices,
        (SampleFits scale transform valid (convertIndex scale transform arrays i) j ↔
          SampleFits scale transform valid arrays j) := by
      intro j hj
      apply convertIndex_other
      rintro rfl
      exact hnodup.1 hj
    simp only [List.foldlM_cons, bind_ok_iff, normalizeIndex_iff, List.foldl_cons,
      List.forall_mem_cons]
    constructor
    · rintro ⟨_, ⟨hfits, rfl⟩, hrest⟩
      obtain ⟨hall, rfl⟩ := (ih hnodup.2).mp hrest
      exact ⟨⟨hfits, fun j hj => (hother j hj).mp (hall j hj)⟩, rfl⟩
    · rintro ⟨⟨hfits, hall⟩, rfl⟩
      exact ⟨_, ⟨hfits, rfl⟩,
        (ih hnodup.2).mpr ⟨fun j hj => (hother j hj).mpr (hall j hj), rfl⟩⟩

theorem convertIndex_points (arrays : List (Vec3 F) × List (Vec3 F)) (i w : ℕ) :
    (convertIndex scale transform arrays i).1[w]? =
      if w = i then (arrays.1[w]?).map fun p => (normalizePoint scale transform p).narrow
      else arrays.1[w]? := by
  unfold convertIndex
  rw [getElem?_set_map]
  split_ifs with hw
  · subst hw
    rw [List.getD_eq_getElem?_getD]
    cases arrays.1[w]? <;> rfl
  · rfl

theorem convertIndex_normals (arrays : List (Vec3 F) × List (Vec3 F)) (i w : ℕ) :
    (convertIndex scale transform arrays i).2[w]? =
      if w = i then (arrays.2[w]?).map fun n => (normalizeNormal (D := D) transform n).narrow
      else arrays.2[w]? := by
  unfold convertIndex
  rw [getElem?_set_map]
  split_ifs with hw
  · subst hw
    rw [List.getD_eq_getElem?_getD]
    cases arrays.2[w]? <;> rfl
  · rfl

theorem getElem?_converted_points {indices : List ℕ} (hnodup : indices.Nodup) (w : ℕ) :
    (indices.foldl (convertIndex scale transform) arrays).1[w]? =
      if w ∈ indices then (arrays.1[w]?).map fun p => (normalizePoint scale transform p).narrow
      else arrays.1[w]? :=
  getElem?_foldl_cells Prod.fst _ convertIndex_points hnodup arrays w

theorem getElem?_converted_normals {indices : List ℕ} (hnodup : indices.Nodup) (w : ℕ) :
    (indices.foldl (convertIndex scale transform) arrays).2[w]? =
      if w ∈ indices then
        (arrays.2[w]?).map fun n => (normalizeNormal (D := D) transform n).narrow
      else arrays.2[w]? :=
  getElem?_foldl_cells Prod.snd _ convertIndex_normals hnodup arrays w

theorem length_converted (indices : List ℕ) :
    (indices.foldl (convertIndex scale transform) arrays).1.length = arrays.1.length ∧
      (indices.foldl (convertIndex scale transform) arrays).2.length = arrays.2.length := by
  induction indices generalizing arrays with
  | nil => exact ⟨rfl, rfl⟩
  | cons i indices ih =>
    rw [List.foldl_cons]
    have hpair := @ih (convertIndex scale transform arrays i)
    exact ⟨hpair.1.trans (List.length_set ..), hpair.2.trans (List.length_set ..)⟩

end Walk

section Exact

variable {K : Type} [LinearOrder K] [Field K] [FieldFunctions K]

@[simp] theorem exact_narrow (v : Vec3 (Exact K)) : (v.narrow : Vec3 (Exact K)) = v := rfl

@[simp] theorem exact_widen (v : Vec3 (Exact K)) : (v.widen : Vec3 (Exact K)) = v := rfl

theorem finite_of_fitsFloat {v : Vec3 (Exact K)} (h : fitsFloat (Exact K) v) : v.finite = true := by
  obtain ⟨hx, hy, hz, -⟩ := h
  simp [Vec3.finite, hx, hy, hz]

/-- The frames of a surface, a target and a transform between them fit. -/
structure FramesMatch (surface : SurfaceView (Exact K)) (targetFrame : FrameId)
    (transform : Option (RigidTransform (Exact K))) : Prop where
  given : surface.frame = targetFrame ∨ transform ≠ none
  direction : ∀ t ∈ transform, t.sourceFrame = surface.frame ∧ t.targetFrame = targetFrame

/-- The arrays that a normalization computes. -/
def convertedArrays (surface : SurfaceView (Exact K))
    (transform : Option (RigidTransform (Exact K))) :
    List (Vec3 (Exact K)) × List (Vec3 (Exact K)) :=
  surface.indices.foldl (convertIndex (millimetersPerUnit surface.unit) transform)
    (surface.points, surface.normals)

/-- Every valid sample fits single precision. -/
def SamplesFit (surface : SurfaceView (Exact K)) (transform : Option (RigidTransform (Exact K))) :
    Prop :=
  ∀ i ∈ surface.indices, SampleFits (millimetersPerUnit surface.unit) transform surface.valid
    (surface.points, surface.normals) i

def SurfaceView.normalized (surface : SurfaceView (Exact K)) (targetFrame : FrameId)
    (transform : Option (RigidTransform (Exact K))) : SurfaceView (Exact K) where
  points := (convertedArrays surface transform).1
  normals := (convertedArrays surface transform).2
  valid := surface.valid
  grid := surface.grid
  unit := .millimeter
  frame := targetFrame
  logicalSize := surface.logicalSize

variable {surface : SurfaceView (Exact K)} {targetFrame : FrameId}
  {transform : Option (RigidTransform (Exact K))}

theorem getD_converted_points (h : surface.Shaped) {i : ℕ} (hi : i ∈ surface.indices) :
    (convertedArrays surface transform).1.getD i default =
      normalizePoint (millimetersPerUnit surface.unit) transform
        (surface.points.getD i default) := by
  have hlt : i < surface.points.length := h.lt hi
  unfold convertedArrays
  rw [List.getD_eq_getElem?_getD, getElem?_converted_points h.nodup, if_pos hi,
    List.getElem?_eq_getElem hlt, List.getD_eq_getElem _ _ hlt]
  rfl

theorem getD_converted_normals (h : surface.Shaped) (hn : surface.normals ≠ []) {i : ℕ}
    (hi : i ∈ surface.indices) :
    (convertedArrays surface transform).2.getD i default =
      normalizeNormal transform (surface.normals.getD i default) := by
  have hlt : i < surface.normals.length := (h.normals.resolve_left hn) ▸ h.lt hi
  unfold convertedArrays
  rw [List.getD_eq_getElem?_getD, getElem?_converted_normals h.nodup, if_pos hi,
    List.getElem?_eq_getElem hlt, List.getD_eq_getElem _ _ hlt]
  rfl

theorem converted_normals_eq_nil :
    (convertedArrays surface transform).2 = [] ↔ surface.normals = [] := by
  unfold convertedArrays
  rw [← List.length_eq_zero_iff, (length_converted _).2, List.length_eq_zero_iff]

/-- Samples that fit are accepted again after the conversion. -/
theorem validate_converted (h : surface.Shaped) (hfits : SamplesFit surface transform) :
    validateSurfaceData (convertedArrays surface transform).1
      (convertedArrays surface transform).2 surface.valid surface.grid =
        .ok surface.logicalSize := by
  have hlength : (convertedArrays surface transform).1.length = surface.points.length ∧
      (convertedArrays surface transform).2.length = surface.normals.length :=
    length_converted surface.indices
  have hchecks : ∀ i ∈ surface.indices, checkIndex (convertedArrays surface transform).1
      (convertedArrays surface transform).2 surface.valid i = .ok () := by
    intro i hi
    obtain ⟨hpoint, hnormal⟩ := hfits i hi
    unfold checkIndex
    dsimp only
    rw [if_neg, if_neg, if_neg]
    · rintro ⟨hvalid, hne, hfinite⟩
      have hn : surface.normals ≠ [] := fun he => hne (converted_normals_eq_nil.mpr he)
      rw [getD_converted_normals h hn hi] at hfinite
      exact hfinite (finite_of_fitsFloat (hnormal hvalid hn))
    · rintro ⟨hvalid, hfinite⟩
      rw [getD_converted_points h hi] at hfinite
      exact hfinite (finite_of_fitsFloat (hpoint hvalid))
    · rintro ⟨hne, hlt⟩
      exact ((h.mask i hi).resolve_left hne) hlt
  rw [h.validate hlength.1 ?_ h.valid, forM_ok_iff.mpr hchecks]
  · rfl
  · rcases h.normals with hn | hn
    · exact .inl (converted_normals_eq_nil.mpr hn)
    · exact .inr (hlength.2.trans hn)

/-- A normalization succeeds exactly when the frames match and the valid samples fit. -/
theorem normalizeSurface_iff (h : surface.Shaped) {result : OwnedSurface (Exact K)} :
    normalizeSurface surface targetFrame transform = .ok result ↔
      FramesMatch surface targetFrame transform ∧ SamplesFit surface transform ∧
        result.view = surface.normalized targetFrame transform := by
  unfold normalizeSurface
  dsimp only
  constructor
  · intro hok
    split_ifs at hok with hgiven hdirection
    obtain ⟨arrays, hwalk, hcreate⟩ := bind_ok_iff.mp hok
    obtain ⟨hfits, rfl⟩ := (foldlM_normalizeIndex h.nodup).mp hwalk
    refine ⟨⟨?_, ?_⟩, hfits, ?_⟩
    · by_contra hneither
      rw [not_or, not_not] at hneither
      exact hgiven hneither
    · intro t ht
      by_contra hmismatch
      apply hdirection
      refine ⟨t, ht, ?_⟩
      by_contra hneither
      rw [not_or, not_not, not_not] at hneither
      exact hmismatch hneither
    · change OwnedSurface.create (convertedArrays surface transform).1
        (convertedArrays surface transform).2 _ _ _ _ = _ at hcreate
      rw [OwnedSurface.create_ok (validate_converted h hfits)] at hcreate
      obtain rfl := Except.ok.inj hcreate
      rfl
  · rintro ⟨⟨hgiven, hdirection⟩, hfits, hview⟩
    rw [if_neg, if_neg]
    · refine bind_ok_iff.mpr ⟨convertedArrays surface transform, ?_, ?_⟩
      · exact (foldlM_normalizeIndex h.nodup).mpr ⟨hfits, rfl⟩
      · rw [OwnedSurface.create_ok (validate_converted h hfits)]
        exact congrArg Except.ok (OwnedSurface.ext hview.symm)
    · rintro ⟨t, ht, hbad⟩
      obtain ⟨hsource, htarget⟩ := hdirection t ht
      exact hbad.elim (fun hne => hne hsource) fun hne => hne htarget
    · rintro ⟨hne, hnone⟩
      exact hgiven.elim hne fun hsome => hsome hnone

theorem normalizeSurface_succeeds (h : surface.Shaped) :
    (∃ result, normalizeSurface surface targetFrame transform = .ok result) ↔
      FramesMatch surface targetFrame transform ∧ SamplesFit surface transform := by
  constructor
  · rintro ⟨result, hok⟩
    obtain ⟨hframes, hfits, -⟩ := (normalizeSurface_iff h).mp hok
    exact ⟨hframes, hfits⟩
  · rintro ⟨hframes, hfits⟩
    exact ⟨⟨surface.normalized targetFrame transform, validate_converted h hfits⟩,
      (normalizeSurface_iff h).mpr ⟨hframes, hfits, rfl⟩⟩

/-- A vector of numbers. -/
def exactVec (v : Fin 3 → K) : Vec3 (Exact K) := ⟨.fin (v 0), .fin (v 1), .fin (v 2)⟩

theorem exists_exactVec {v : Vec3 (Exact K)} (h : v.finite = true) : ∃ u, v = exactVec u := by
  obtain ⟨x, y, z⟩ := v
  rw [Vec3.finite_iff_axes] at h
  obtain ⟨x, rfl⟩ := Exact.isFinite_iff.mp h.1
  obtain ⟨y, rfl⟩ := Exact.isFinite_iff.mp h.2.1
  obtain ⟨z, rfl⟩ := Exact.isFinite_iff.mp h.2.2
  exact ⟨![x, y, z], rfl⟩

/-- The rotation part of a matrix of numbers. -/
def rotationMatrix (m : Fin 16 → K) : Matrix (Fin 3) (Fin 3) K :=
  Matrix.of ![![m 0, m 1, m 2], ![m 4, m 5, m 6], ![m 8, m 9, m 10]]

/-- An accepted matrix consists of numbers, and its tolerance is a positive number. -/
structure AcceptedMatrix (matrix : Matrix4 (Exact K)) (tolerance : Exact K) (m : Fin 16 → K)
    (tau : K) : Prop where
  matrix : matrix = fun i => .fin (m i)
  tolerance : tolerance = .fin tau
  positive : 0 < tau
  near : NearOrthonormal (rotationMatrix m) tau

theorem rotationDot_fin (m : Fin 16 → K) (row column : Fin 3) :
    rotationDot (fun i => (.fin (m i) : Exact K)) row column =
      .fin (((rotationMatrix m).transpose * rotationMatrix m) row column) := by
  unfold rotationDot rotationMatrix
  simp only [Exact.zero_eq_fin, Exact.fin_mul_fin, Exact.fin_add_fin, zero_add, Matrix.mul_apply,
    Fin.sum_univ_three, Matrix.transpose_apply]
  fin_cases row <;> fin_cases column <;> rfl

theorem acceptedMatrix {matrix : Matrix4 (Exact K)} {tolerance : Exact K}
    (h : checkRigid matrix tolerance = .ok ()) :
      ∃ m tau, AcceptedMatrix matrix tolerance m tau := by
  unfold checkRigid at h
  split_ifs at h with htolerance hfinite hlast hdot hdet
  rw [not_or, not_not] at htolerance
  obtain ⟨tau, rfl⟩ := Exact.isFinite_iff.mp htolerance.1
  have hentry : ∀ i, ∃ v, matrix i = .fin v := by
    intro i
    by_contra hne
    apply hfinite
    refine ⟨i, ?_⟩
    rwa [Exact.isFinite_iff]
  choose m hm using hentry
  have hmatrix : matrix = fun i => .fin (m i) := funext hm
  refine ⟨m, tau, hmatrix, rfl, ?_, ?_⟩
  · have hpos := htolerance.2
    rw [Exact.zero_eq_fin, Exact.fin_le_fin, not_le] at hpos
    exact hpos
  · intro row column
    have hentry : ¬ (.fin tau : Exact K) <
        FloatArith.abs (rotationDot matrix row column - if row = column then 1 else 0) :=
      fun hlt => hdot ⟨row, column, hlt⟩
    have hone : (if row = column then 1 else 0 : Exact K) =
        .fin ((1 : Matrix (Fin 3) (Fin 3) K) row column) := by
      rw [Matrix.one_apply]
      split_ifs <;> rfl
    rw [hmatrix, rotationDot_fin, hone, Exact.fin_sub_fin, Exact.abs_fin, Exact.fin_lt_fin,
      not_lt] at hentry
    exact hentry

/-- The coordinates of a sample in millimetres, in the frame of the surface. -/
def scaledPoint (surface : SurfaceView (Exact K)) (index : ℕ) : Vec3 (Exact K) :=
  let source := surface.points.getD index default
  let scale : Exact K := millimetersPerUnit surface.unit
  ⟨source.x * scale, source.y * scale, source.z * scale⟩

/-- The samples of a result are those of a surface, moved by one matrix and one translation; the
normals are rotated only. -/
structure Moved (surface result : SurfaceView (Exact K)) (R : Matrix (Fin 3) (Fin 3) K)
    (c : Fin 3 → K) : Prop where
  point : ∀ i ∈ surface.indices, surface.isValidIndex i = true → ∃ p,
    scaledPoint surface i = exactVec p ∧
      result.points.getD i default = exactVec (R.mulVec p + c)
  numbers : ∀ i ∈ surface.indices, surface.isValidIndex i = true → surface.normals ≠ [] →
    ∃ n, surface.normals.getD i default = exactVec n
  normal : ∀ i ∈ surface.indices, surface.normals ≠ [] → ∀ n,
    surface.normals.getD i default = exactVec n →
      result.normals.getD i default = exactVec (R.mulVec n)

def translationVector (m : Fin 16 → K) : Fin 3 → K := ![m 3, m 7, m 11]

omit [LinearOrder K] [FieldFunctions K] in
theorem mulVec_three (m : Fin 16 → K) (v : Fin 3 → K) : (rotationMatrix m).mulVec v =
    ![m 0 * v 0 + m 1 * v 1 + m 2 * v 2, m 4 * v 0 + m 5 * v 1 + m 6 * v 2,
      m 8 * v 0 + m 9 * v 1 + m 10 * v 2] := by
  funext i
  simp only [Matrix.mulVec, dotProduct, Fin.sum_univ_three, rotationMatrix]
  fin_cases i <;> rfl

theorem apply_exactVec {t : RigidTransform (Exact K)} {m : Fin 16 → K}
    (h : t.matrix = fun i => .fin (m i)) (v : Fin 3 → K) :
    t.apply (exactVec v) = exactVec ((rotationMatrix m).mulVec v + translationVector m) := by
  unfold RigidTransform.apply exactVec translationVector
  rw [h, mulVec_three]
  simp only [Exact.fin_mul_fin, Exact.fin_add_fin]
  rfl

theorem rotateVector_exactVec {t : RigidTransform (Exact K)} {m : Fin 16 → K}
    (h : t.matrix = fun i => .fin (m i)) (v : Fin 3 → K) :
    rotateVector t (exactVec v) = exactVec ((rotationMatrix m).mulVec v) := by
  unfold rotateVector exactVec
  rw [h, mulVec_three]
  change (⟨.fin _ * .fin _ + .fin _ * .fin _ + .fin _ * .fin _,
    .fin _ * .fin _ + .fin _ * .fin _ + .fin _ * .fin _,
    .fin _ * .fin _ + .fin _ * .fin _ + .fin _ * .fin _⟩ : Vec3 (Exact K)) = _
  simp only [Exact.fin_mul_fin, Exact.fin_add_fin]
  rfl

theorem exists_scaledPoint (unit : LengthUnit) {v : Vec3 (Exact K)} (h : v.finite = true) :
    ∃ p, (⟨v.x * millimetersPerUnit unit, v.y * millimetersPerUnit unit,
      v.z * millimetersPerUnit unit⟩ : Vec3 (Exact K)) = exactVec p := by
  obtain ⟨u, rfl⟩ := exists_exactVec h
  have hscale : ∃ scale : K, (millimetersPerUnit unit : Exact K) = .fin scale := by
    cases unit
    · exact ⟨1, rfl⟩
    · exact ⟨_, rfl⟩
    · exact ⟨_, rfl⟩
  obtain ⟨scale, hscale⟩ := hscale
  rw [hscale]
  exact ⟨fun i => u i * scale, rfl⟩

theorem OwnedSurface.finite_valid (surface : OwnedSurface (Exact K)) {i : ℕ}
    (hi : i ∈ surface.view.indices) (hv : surface.view.isValidIndex i = true) :
    (surface.view.points.getD i default).finite = true ∧
      (surface.view.normals ≠ [] → (surface.view.normals.getD i default).finite = true) := by
  have hchecks := (validateSurfaceData_ok surface.accepted surface.unit surface.frame).2 i hi
  change maskValid surface.valid i = true at hv
  unfold checkIndex at hchecks
  dsimp only at hchecks
  split_ifs at hchecks with hmask hpoint hnormal
  constructor
  · by_contra hfinite
    exact hpoint ⟨hv, hfinite⟩
  · intro hne
    by_contra hfinite
    exact hnormal ⟨hv, hne, hfinite⟩

theorem moved_normalized (surface : OwnedSurface (Exact K)) (targetFrame : FrameId)
    {t : RigidTransform (Exact K)} {m : Fin 16 → K} (hm : t.matrix = fun i => .fin (m i)) :
    Moved surface.view (surface.view.normalized targetFrame (some t)) (rotationMatrix m)
      (translationVector m) := by
  refine ⟨?_, ?_, ?_⟩
  · intro i hi hv
    obtain ⟨p, hp⟩ := exists_scaledPoint surface.view.unit (surface.finite_valid hi hv).1
    refine ⟨p, hp, ?_⟩
    change (convertedArrays surface.view (some t)).1.getD i default = _
    rw [getD_converted_points surface.shaped hi]
    change t.apply (scaledPoint surface.view i) = _
    rw [show scaledPoint surface.view i = exactVec p from hp, apply_exactVec hm]
  · intro i hi hv hne
    exact exists_exactVec ((surface.finite_valid hi hv).2 hne)
  · intro i hi hne n hn
    change (convertedArrays surface.view (some t)).2.getD i default = _
    rw [getD_converted_normals surface.shaped hne hi, hn]
    exact rotateVector_exactVec hm n

open Matrix in
/-- Squared distances and products with normals change by at most the tolerance times the dimension
and the lengths. A root of a square is a length. -/
structure MetricWithin (surface result : SurfaceView (Exact K)) (tau : K) : Prop where
  samples : ∀ i ∈ surface.indices, ∀ j ∈ surface.indices, surface.isValidIndex i = true →
    surface.isValidIndex j = true → ∃ p q p' q' : Fin 3 → K,
      scaledPoint surface i = exactVec p ∧ scaledPoint surface j = exactVec q ∧
      result.points.getD i default = exactVec p' ∧ result.points.getD j default = exactVec q' ∧
      |(p' - q') ⬝ᵥ (p' - q') - (p - q) ⬝ᵥ (p - q)| ≤ 3 * tau * ((p - q) ⬝ᵥ (p - q)) ∧
      ∀ k ∈ surface.indices, surface.normals ≠ [] → ∀ n,
        surface.normals.getD k default = exactVec n → ∃ n',
          result.normals.getD k default = exactVec n' ∧
          ∀ a b : K, 0 ≤ a → 0 ≤ b → a ^ 2 = n ⬝ᵥ n → b ^ 2 = (p - q) ⬝ᵥ (p - q) →
            |n' ⬝ᵥ (p' - q') - n ⬝ᵥ (p - q)| ≤ 3 * tau * a * b

open Matrix in
/-- Squared distances and products with normals do not change. -/
structure MetricKept (surface result : SurfaceView (Exact K)) : Prop where
  samples : ∀ i ∈ surface.indices, ∀ j ∈ surface.indices, surface.isValidIndex i = true →
    surface.isValidIndex j = true → ∃ p q p' q' : Fin 3 → K,
      scaledPoint surface i = exactVec p ∧ scaledPoint surface j = exactVec q ∧
      result.points.getD i default = exactVec p' ∧ result.points.getD j default = exactVec q' ∧
      (p' - q') ⬝ᵥ (p' - q') = (p - q) ⬝ᵥ (p - q) ∧
      ∀ k ∈ surface.indices, surface.normals ≠ [] → ∀ n,
        surface.normals.getD k default = exactVec n → ∃ n',
          result.normals.getD k default = exactVec n' ∧ n' ⬝ᵥ (p' - q') = n ⬝ᵥ (p - q)

section Metric

variable {result : SurfaceView (Exact K)} {R : Matrix (Fin 3) (Fin 3) K} {c : Fin 3 → K}

omit [LinearOrder K] [FieldFunctions K] in
theorem moved_sub (p q : Fin 3 → K) :
    R.mulVec p + c - (R.mulVec q + c) = R.mulVec (p - q) := by
  rw [Matrix.mulVec_sub, add_sub_add_right_eq_sub]

theorem Moved.metricKept (h : Moved surface result R c) (hR : R.transpose * R = 1) :
    MetricKept surface result := by
  constructor
  intro i hi j hj hvi hvj
  obtain ⟨p, hp, hp'⟩ := h.point i hi hvi
  obtain ⟨q, hq, hq'⟩ := h.point j hj hvj
  refine ⟨p, q, _, _, hp, hq, hp', hq', ?_, ?_⟩
  · rw [moved_sub]
    exact NearOrthonormal.dotProduct_eq hR _ _
  · intro k hk hne n hn
    refine ⟨_, h.normal k hk hne n hn, ?_⟩
    rw [moved_sub]
    exact NearOrthonormal.dotProduct_eq hR _ _

theorem Moved.metricWithin [IsStrictOrderedRing K] (h : Moved surface result R c) {tau : K}
    (hR : NearOrthonormal R tau) (htau : 0 ≤ tau) : MetricWithin surface result tau := by
  constructor
  intro i hi j hj hvi hvj
  obtain ⟨p, hp, hp'⟩ := h.point i hi hvi
  obtain ⟨q, hq, hq'⟩ := h.point j hj hvj
  refine ⟨p, q, _, _, hp, hq, hp', hq', ?_, ?_⟩
  · rw [moved_sub]
    simpa using hR.abs_normSq_sub_le htau (p - q)
  · intro k hk hne n hn
    refine ⟨_, h.normal k hk hne n hn, ?_⟩
    intro a b ha hb hna hpq
    rw [moved_sub]
    simpa using hR.abs_dotProduct_sub_le htau ha hb hna hpq

end Metric

section Second

variable [IsStrictOrderedRing K]

theorem exact_mul_one (a : Exact K) : a * 1 = a := by
  cases a with
  | fin v => exact congrArg Exact.fin (mul_one v)
  | inf s =>
    change (if (1 : K) = 0 then Exact.nan else .inf (s != decide ((1 : K) < 0))) = .inf s
    rw [if_neg one_ne_zero, decide_eq_false (not_lt.mpr zero_le_one)]
    cases s <;> rfl
  | nan => rfl

theorem normalizePoint_millimeter (v : Vec3 (Exact K)) :
    normalizePoint (millimetersPerUnit .millimeter : Exact K) none v = v := by
  change (⟨v.x * 1, v.y * 1, v.z * 1⟩ : Vec3 (Exact K)) = v
  rw [exact_mul_one, exact_mul_one, exact_mul_one]

theorem convertedArrays_millimeter (h : surface.Shaped) (hunit : surface.unit = .millimeter) :
    convertedArrays surface none = (surface.points, surface.normals) := by
  unfold convertedArrays
  rw [hunit]
  apply Prod.ext
  · apply List.ext_getElem?
    intro w
    rw [getElem?_converted_points h.nodup]
    simp only [normalizePoint_millimeter, exact_narrow, Option.map_id', ite_self]
  · apply List.ext_getElem?
    intro w
    rw [getElem?_converted_normals h.nodup]
    change (if w ∈ surface.indices then (surface.normals[w]?).map id else _) = _
    simp

omit [IsStrictOrderedRing K] in
theorem indices_normalized : (surface.normalized targetFrame transform).indices =
    surface.indices := by
  have hlength : (convertedArrays surface transform).1.length = surface.points.length :=
    (length_converted surface.indices).1
  change logicalIndices surface.grid (convertedArrays surface transform).1.length = _
  rw [hlength]
  rfl

/-- A surface that was normalized without a transform is its own normalization. -/
theorem normalizeSurface_again (h : surface.Shaped) {result : OwnedSurface (Exact K)}
    (hok : normalizeSurface surface targetFrame (none : Option (RigidTransform (Exact K))) =
      .ok result) :
    normalizeSurface result.view targetFrame (none : Option (RigidTransform (Exact K))) =
      .ok result := by
  obtain ⟨-, hfits, hview⟩ := (normalizeSurface_iff h).mp hok
  have hunit : result.view.unit = .millimeter := by rw [hview]; rfl
  have harrays := convertedArrays_millimeter result.shaped hunit
  apply (normalizeSurface_iff result.shaped).mpr
  refine ⟨⟨.inl (by rw [hview]; rfl), by simp⟩, ?_, ?_⟩
  · intro i hi
    rw [hunit, hview]
    rw [hview, indices_normalized] at hi
    obtain ⟨hpoint, hnormal⟩ := hfits i hi
    constructor
    · intro hvalid
      rw [normalizePoint_millimeter]
      change fitsFloat _ ((convertedArrays surface none).1.getD i default)
      rw [getD_converted_points h hi]
      exact hpoint hvalid
    · intro hvalid hne
      have hn : surface.normals ≠ [] := fun he => hne (converted_normals_eq_nil.mpr he)
      change fitsFloat _ ((convertedArrays surface none).2.getD i default)
      rw [getD_converted_normals h hn hi]
      exact hnormal hvalid hn
  · unfold SurfaceView.normalized
    rw [harrays, hview]
    rfl

end Second

/-- What a transform of some tolerance does to distances and deviations, that a second conversion
changes nothing, and that a call fails only for its frames or a valid sample, without a surface. -/
theorem normalizeSurface_metric [IsStrictOrderedRing K] (surface : OwnedSurface (Exact K))
    (targetFrame : FrameId) :
    (∀ (matrix : Matrix4 (Exact K)) (source target : FrameId) (tolerance : Exact K)
      (transform : RigidTransform (Exact K)) (result : OwnedSurface (Exact K)),
      RigidTransform.create matrix source target tolerance = .ok transform →
      normalizeSurface surface.view targetFrame (some transform) = .ok result →
      (∃ tau : K, tolerance = .fin tau ∧ MetricWithin surface.view result.view tau) ∧
        ((∀ row column, rotationDot matrix row column = if row = column then 1 else 0) →
          MetricKept surface.view result.view)) ∧
    (∀ result : OwnedSurface (Exact K),
      normalizeSurface surface.view targetFrame (none : Option (RigidTransform (Exact K))) =
        .ok result →
      normalizeSurface result.view targetFrame (none : Option (RigidTransform (Exact K))) =
        .ok result) ∧
    ∀ transform : Option (RigidTransform (Exact K)),
      ((∃ result, normalizeSurface surface.view targetFrame transform = .ok result) ↔
        FramesMatch surface.view targetFrame transform ∧ SamplesFit surface.view transform) ∧
      ∀ error, normalizeSurface surface.view targetFrame transform = .error error →
        ∀ result, normalizeSurface surface.view targetFrame transform ≠ .ok result := by
  refine ⟨?_, fun result hok => normalizeSurface_again surface.shaped hok, ?_⟩
  · intro matrix source target tolerance transform result hcreate hok
    have hmatrix := (RigidTransform.eq_of_create hcreate).1
    have hcheck : checkRigid matrix tolerance = .ok () := by
      unfold RigidTransform.create at hcreate
      split at hcreate
      · assumption
      · cases hcreate
    obtain ⟨m, tau, haccepted⟩ := acceptedMatrix hcheck
    obtain ⟨-, -, hview⟩ := (normalizeSurface_iff surface.shaped).mp hok
    have hmoved := moved_normalized surface targetFrame (hmatrix.trans haccepted.matrix)
    rw [hview]
    refine ⟨⟨tau, haccepted.tolerance,
      hmoved.metricWithin haccepted.near haccepted.positive.le⟩, ?_⟩
    intro horthonormal
    apply hmoved.metricKept
    ext row column
    have hentry := horthonormal row column
    rw [haccepted.matrix, rotationDot_fin] at hentry
    rw [Matrix.one_apply]
    split_ifs at hentry ⊢ with hsame
    · exact Exact.fin.inj hentry
    · exact Exact.fin.inj hentry
  · intro transform
    refine ⟨normalizeSurface_succeeds surface.shaped, ?_⟩
    intro error herror result
    rw [herror]
    simp

end Exact

/-- Samples with normals in metres, and one that is masked and no number. -/
def metreFixture : OwnedSurface (Exact ℚ) where
  points := [exactPoint 1 2 3, exactPoint 1 0 3, ⟨.nan, .inf true, 0⟩]
  normals := [exactPoint 0 0 1, exactPoint 1 0 0, ⟨.nan, 0, 0⟩]
  valid := [1, 1, 0]
  grid := none
  unit := .meter
  frame := exactFrame
  logicalSize := 3
  accepted := rfl

def millimetreFixture : OwnedSurface (Exact ℚ) where
  points := [exactPoint 1000 2000 3000, exactPoint 1000 0 3000, ⟨.nan, .inf true, 0⟩]
  normals := [exactPoint 0 0 1, exactPoint 1 0 0, ⟨.nan, 0, 0⟩]
  valid := [1, 1, 0]
  grid := none
  unit := .millimeter
  frame := exactFrame
  logicalSize := 3
  accepted := rfl

theorem metreFixture_samples {i : ℕ} (h : i ∈ metreFixture.view.indices) :
    i = 0 ∨ i = 1 ∨ i = 2 := by
  have hlt : i < 3 := List.mem_range.mp h
  omega

theorem normalizeSurface_metre : normalizeSurface metreFixture.view exactFrame
    (none : Option (RigidTransform (Exact ℚ))) = .ok millimetreFixture := by
  apply (normalizeSurface_iff metreFixture.shaped).mpr
  refine ⟨⟨.inl rfl, by simp⟩, ?_, by decide +kernel⟩
  intro i hi
  rcases metreFixture_samples hi with rfl | rfl | rfl
  · constructor <;> decide +kernel
  · constructor <;> decide +kernel
  · constructor <;> decide +kernel

theorem quarterTurn_checked : ∃ tolerance : Exact ℚ,
    checkRigid ![0, -1, 0, .fin 10, 1, 0, 0, 0, 0, 0, 1, 0, 0, 0, 0, 1] tolerance = .ok () :=
  ⟨.fin (1 / 1000), by decide +kernel⟩

/-- A quarter turn around the third axis, and a step along the first. -/
def quarterTurn : RigidTransform (Exact ℚ) where
  matrix := ![0, -1, 0, .fin 10, 1, 0, 0, 0, 0, 0, 1, 0, 0, 0, 0, 1]
  sourceFrame := exactFrame
  targetFrame := exactFrame
  checked := quarterTurn_checked

theorem quarterTurn_created : RigidTransform.create quarterTurn.matrix exactFrame exactFrame
    (.fin (1 / 1000)) = .ok quarterTurn := by
  obtain ⟨turn, hturn⟩ := exists_ok
    (x := RigidTransform.create quarterTurn.matrix exactFrame exactFrame (.fin (1 / 1000)))
    (by decide +kernel)
  obtain ⟨hmatrix, hsource, htarget⟩ := RigidTransform.eq_of_create hturn
  rw [hturn, RigidTransform.ext hmatrix hsource htarget]

def turnedFixture : OwnedSurface (Exact ℚ) where
  points := [exactPoint (-1990) 1000 3000, exactPoint 10 1000 3000, ⟨.nan, .nan, .nan⟩]
  normals := [exactPoint 0 0 1, exactPoint 0 1 0, ⟨.nan, .nan, .nan⟩]
  valid := [1, 1, 0]
  grid := none
  unit := .millimeter
  frame := exactFrame
  logicalSize := 3
  accepted := rfl

theorem normalizeSurface_quarterTurn :
    normalizeSurface metreFixture.view exactFrame (some quarterTurn) = .ok turnedFixture := by
  apply (normalizeSurface_iff metreFixture.shaped).mpr
  refine ⟨⟨.inl rfl, ?_⟩, ?_, by decide +kernel⟩
  · rintro _ ⟨⟩
    exact ⟨rfl, rfl⟩
  · intro i hi
    rcases metreFixture_samples hi with rfl | rfl | rfl
    · constructor <;> decide +kernel
    · constructor <;> decide +kernel
    · constructor <;> decide +kernel

/-- Samples in metres that are turned, and millimetres that stay as they are. -/
theorem normalizeSurface_metric_fixture :
    (normalizeSurface metreFixture.view exactFrame (some quarterTurn) = .ok turnedFixture ∧
      MetricWithin metreFixture.view turnedFixture.view (1 / 1000) ∧
      MetricKept metreFixture.view turnedFixture.view) ∧
    normalizeSurface millimetreFixture.view exactFrame
      (none : Option (RigidTransform (Exact ℚ))) = .ok millimetreFixture := by
  obtain ⟨hmetric, hagain, -⟩ := normalizeSurface_metric metreFixture exactFrame
  obtain ⟨⟨tau, htau, hwithin⟩, hkept⟩ :=
    hmetric _ _ _ _ quarterTurn turnedFixture quarterTurn_created normalizeSurface_quarterTurn
  obtain rfl := Exact.fin.inj htau
  exact ⟨⟨normalizeSurface_quarterTurn, hwithin, hkept (by decide +kernel)⟩,
    hagain millimetreFixture normalizeSurface_metre⟩

end PointcloudAd
