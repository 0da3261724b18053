import PointcloudAd.Core.Correspondence

/-!
# Normalization to millimetres

Converts the coordinates of every sample once and, when a transform is given, moves the surface to
the transform's target frame. What is stored under the mask is converted too, unchecked.
-/

namespace PointcloudAd

open Library

variable {F D : Type} [FloatArith F] [FloatArith D] [Floats F D]

def normalizationError (field reason : String) : Error :=
  ⟨.invalidInput, .normalize, "surface normalization failed",
    [("field", field), ("reason", reason)]⟩

def Vec3.widen (v : Vec3 F) : Vec3 D := ⟨Floats.widen v.x, Floats.widen v.y, Floats.widen v.z⟩

def Vec3.narrow (v : Vec3 D) : Vec3 F := ⟨Floats.narrow v.x, Floats.narrow v.y, Floats.narrow v.z⟩

def rotateVector (transform : RigidTransform D) (vector : Vec3 F) : Vec3 D :=
  let m := transform.matrix
  let v : Vec3 D := vector.widen
  ⟨m 0 * v.x + m 1 * v.y + m 2 * v.z, m 4 * v.x + m 5 * v.y + m 6 * v.z,
    m 8 * v.x + m 9 * v.y + m 10 * v.z⟩

variable (F) in
def fitsFloat (vector : Vec3 D) : Prop :=
  let limit : D := widen (maximum : F)
  isFinite vector.x ∧ isFinite vector.y ∧ isFinite vector.z ∧
    abs vector.x ≤ limit ∧ abs vector.y ≤ limit ∧ abs vector.z ≤ limit

instance (vector : Vec3 D) : Decidable (fitsFloat F vector) := by
  unfold fitsFloat
  infer_instance

/-- A point in millimetres, in the transform's target frame. -/
def normalizePoint (scale : D) (transform : Option (RigidTransform D)) (source : Vec3 F) :
    Vec3 D :=
  let scaled : Vec3 D := ⟨widen source.x * scale, widen source.y * scale, widen source.z * scale⟩
  match transform with
  | none => scaled
  | some transform => transform.apply scaled

def normalizeNormal (transform : Option (RigidTransform D)) (source : Vec3 F) : Vec3 D :=
  match transform with
  | none => source.widen
  | some transform => rotateVector transform source

/-- One sample, converted in place in the point and normal arrays. -/
def normalizeIndex (scale : D) (transform : Option (RigidTransform D)) (valid : List UInt8)
    (arrays : List (Vec3 F) × List (Vec3 F)) (index : ℕ) :
    Result (List (Vec3 F) × List (Vec3 F)) :=
  let sampleIsValid := maskValid valid index
  let normalized := normalizePoint scale transform (arrays.1.getD index default)
  if sampleIsValid ∧ ¬ fitsFloat F normalized then
    .error (normalizationError "points" "normalized valid point is not representable as Vec3f")
  else
    let points := arrays.1.set index normalized.narrow
    if arrays.2 = [] then .ok (points, [])
    else
      let normal := normalizeNormal transform (arrays.2.getD index default)
      if sampleIsValid ∧ ¬ fitsFloat F normal then
        .error (normalizationError "normals" "normalized valid normal is not representable")
      else .ok (points, arrays.2.set index normal.narrow)

def normalizeSurface (surface : SurfaceView F) (targetFrame : FrameId)
    (transform : Option (RigidTransform D)) : Result (OwnedSurface F) :=
  let scale : D := millimetersPerUnit surface.unit
  if surface.frame ≠ targetFrame ∧ transform = none then
    .error (normalizationError "transform" "is required when source and target frames differ")
  else if ∃ t ∈ transform, t.sourceFrame ≠ surface.frame ∨ t.targetFrame ≠ targetFrame then
    .error (normalizationError "transform" "frame direction must match surface -> target")
  else do
    let arrays ← surface.indices.foldlM (normalizeIndex scale transform surface.valid)
      (surface.points, surface.normals)
    OwnedSurface.create arrays.1 arrays.2 surface.valid surface.grid .millimeter targetFrame

/-- Point and normal arrays over two corresponding surfaces, with the same samples. -/
structure ArraysAgree (s t : SurfaceView F) (a b : List (Vec3 F) × List (Vec3 F)) : Prop where
  points_left : a.1.length = s.storageSize
  points_right : b.1.length = t.storageSize
  normals_left : a.2 = [] ∨ a.2.length = s.storageSize
  normals_right : b.2 = [] ∨ b.2.length = t.storageSize
  hasNormals : a.2 = [] ↔ b.2 = []
  points : AgreeAlong s.indices t.indices (fun i => s.isValidIndex i = true) a.1 b.1
  normals : AgreeAlong s.indices t.indices (fun i => s.isValidIndex i = true) a.2 b.2

variable {s t : SurfaceView F}

omit [FloatArith F] in
theorem ArraysAgree.set_points (h : Corresponds s t) {a b : List (Vec3 F) × List (Vec3 F)}
    (hab : ArraysAgree s t a b) {i j : ℕ} (hij : Paired s.indices t.indices i j) {v w : Vec3 F}
    (hvw : s.isValidIndex i = true → v = w) :
    ArraysAgree s t (a.1.set i v, a.2) (b.1.set j w, b.2) :=
  { hab with
    points_left := (List.length_set ..).trans hab.points_left
    points_right := (List.length_set ..).trans hab.points_right
    points := hab.points.set h.matching hij (hab.points_left ▸ h.left.lt hij.mem_left)
      (hab.points_right ▸ h.right.lt hij.mem_right) hvw }

omit [FloatArith F] in
theorem ArraysAgree.set_normals (h : Corresponds s t) {a b : List (Vec3 F) × List (Vec3 F)}
    (hab : ArraysAgree s t a b) {i j : ℕ} (hij : Paired s.indices t.indices i j) {v w : Vec3 F}
    (hvw : s.isValidIndex i = true → v = w) :
    ArraysAgree s t (a.1, a.2.set i v) (b.1, b.2.set j w) := by
  by_cases hn : a.2 = []
  · have hm : b.2 = [] := hab.hasNormals.mp hn
    simpa only [hn, hm, List.set_nil] using (show ArraysAgree s t (a.1, a.2) (b.1, b.2) from hab)
  · have hm : b.2 ≠ [] := fun he => hn (hab.hasNormals.mpr he)
    have hl := hab.normals_left.resolve_left hn
    have hr := hab.normals_right.resolve_left hm
    exact { hab with
      normals_left := .inr ((List.length_set ..).trans hl)
      normals_right := .inr ((List.length_set ..).trans hr)
      hasNormals := by simp [hn, hm]
      normals := hab.normals.set h.matching hij (hl ▸ h.left.lt hij.mem_left)
        (hr ▸ h.right.lt hij.mem_right) hvw }

theorem normalizeIndex_related (h : Corresponds s t) (scale : D)
    (transform : Option (RigidTransform D)) {a b : List (Vec3 F) × List (Vec3 F)}
    (hab : ArraysAgree s t a b) {i j : ℕ} (hij : Paired s.indices t.indices i j) :
    Outcome (ArraysAgree s t) (normalizeIndex scale transform s.valid a i)
      (normalizeIndex scale transform t.valid b j) := by
  have hmask : maskValid s.valid i = maskValid t.valid j := h.valid i j hij
  have hpoint : s.isValidIndex i = true → a.1.getD i default = b.1.getD j default :=
    fun hv => hab.points.getD hij hv default
  have hnormal : s.isValidIndex i = true → a.2.getD i default = b.2.getD j default :=
    fun hv => hab.normals.getD hij hv default
  have hpoints := hab.set_points h hij
    (v := (normalizePoint scale transform (a.1.getD i default)).narrow)
    (w := (normalizePoint scale transform (b.1.getD j default)).narrow)
    fun hv => by rw [hpoint hv]
  have hboth := hpoints.set_normals h hij
    (v := (normalizeNormal (D := D) transform (a.2.getD i default)).narrow)
    (w := (normalizeNormal (D := D) transform (b.2.getD j default)).narrow)
    fun hv => by rw [hnormal hv]
  unfold normalizeIndex
  dsimp only
  rw [← hmask]
  -- a masked sample is written without a check, whatever it holds
  by_cases hn : a.2 = []
  · have hm : b.2 = [] := hab.hasNormals.mp hn
    rw [if_pos hn, if_pos hm]
    rw [hn, hm] at hpoints
    by_cases hv : maskValid s.valid i = true
    · rw [hpoint hv] at hpoints ⊢
      split_ifs
      · exact .error _
      · exact .ok hpoints
    · rw [if_neg (fun hc => hv hc.1), if_neg (fun hc => hv hc.1)]
      exact .ok hpoints
  · have hm : b.2 ≠ [] := fun he => hn (hab.hasNormals.mpr he)
    rw [if_neg hn, if_neg hm]
    by_cases hv : maskValid s.valid i = true
    · rw [hpoint hv, hnormal hv] at hboth ⊢
      split_ifs
      · exact .error _
      · exact .error _
      · exact .ok hboth
    · rw [if_neg (fun hc => hv hc.1), if_neg (fun hc => hv hc.1), if_neg (fun hc => hv hc.1),
        if_neg (fun hc => hv hc.1)]
      exact .ok hboth

theorem normalizeSurface_related (h : Corresponds s t) (targetFrame : FrameId)
    (transform : Option (RigidTransform D)) :
    Outcome (fun a b => Corresponds a.view b.view) (normalizeSurface s targetFrame transform)
      (normalizeSurface t targetFrame transform) := by
  unfold normalizeSurface
  dsimp only
  rw [h.unit, h.frame]
  split_ifs
  · exact .error _
  · exact .error _
  · have hstart : ArraysAgree s t (s.points, s.normals) (t.points, t.normals) :=
      ⟨rfl, rfl, h.left.normals, h.right.normals, h.hasNormals, h.points, h.normals⟩
    refine (Outcome.foldlM (R := Paired s.indices t.indices) (S := ArraysAgree s t)
      (fun a b i j hab hij => normalizeIndex_related h _ transform hab hij)
      h.matching.forall₂ hstart).bind fun a b hab => ?_
    exact h.create .millimeter targetFrame hab.points_left hab.points_right hab.normals_left
      hab.normals_right h.left.valid h.right.valid h.left.mask h.right.mask hab.hasNormals h.valid
      hab.points hab.normals

theorem normalizeSurface_unit {targetFrame : FrameId} {transform : Option (RigidTransform D)}
    {result : OwnedSurface F} (h : normalizeSurface s targetFrame transform = .ok result) :
    result.view.unit = .millimeter := by
  unfold normalizeSurface at h
  dsimp only at h
  split_ifs at h
  obtain ⟨arrays, -, hcreate⟩ := bind_ok_iff.mp h
  rw [OwnedSurface.view_of_create hcreate]

/-- A normalized surface keeps the layout of its input. -/
theorem normalizeSurface_layout {targetFrame : FrameId} {transform : Option (RigidTransform D)}
    {result : OwnedSurface F} (h : normalizeSurface s targetFrame transform = .ok result) :
    SameLayout s result.view := by
  have hstep : ∀ (a : List (Vec3 F) × List (Vec3 F)) (i : ℕ) (b : List (Vec3 F) × List (Vec3 F)),
      a.1.length = s.storageSize →
      normalizeIndex (millimetersPerUnit s.unit) transform s.valid a i = .ok b →
      b.1.length = s.storageSize := by
    intro a i b ha hb
    unfold normalizeIndex at hb
    dsimp only at hb
    split_ifs at hb <;> cases hb <;> rwa [List.length_set]
  unfold normalizeSurface at h
  dsimp only at h
  split_ifs at h
  obtain ⟨arrays, hfold, hcreate⟩ := bind_ok_iff.mp h
  rw [OwnedSurface.view_of_create hcreate]
  exact .of_grid rfl (foldlM_ok hstep rfl hfold).symm

end PointcloudAd
