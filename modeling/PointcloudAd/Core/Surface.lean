import PointcloudAd.Core.Geometry
import PointcloudAd.Library.Matching
import PointcloudAd.Library.Outcome

/-!
# Surfaces

A surface is an array of points with optional normals and an optional mask. An organized surface
stores a grid whose rows may be padded: the array is indexed by storage, the samples are the
logical indices of the grid.
-/

namespace PointcloudAd

open Library

/-- The stride counts elements, not bytes. -/
structure GridTopology where
  width : UInt32
  height : UInt32
  rowStride : UInt32
  deriving DecidableEq, Repr

/-- Storage indices of the samples, row by row. -/
def GridTopology.logicalIndices (grid : GridTopology) : List ℕ :=
  (List.range grid.height.toNat).flatMap fun row =>
    (List.range grid.width.toNat).map fun column => row * grid.rowStride.toNat + column

/-- The indices that `for_each_logical_index` visits, in its order. -/
def logicalIndices (grid : Option GridTopology) (storageSize : ℕ) : List ℕ :=
  match grid with
  | none => List.range storageSize
  | some grid => grid.logicalIndices

def surfaceError (field reason : String) : Error :=
  ⟨.invalidInput, .validate, "invalid surface contract", [("field", field), ("reason", reason)]⟩

section

variable {F : Type} [FloatArith F]

def Vec3.finite (point : Vec3 F) : Bool :=
  isFinite point.x && isFinite point.y && isFinite point.z

theorem Vec3.finite_iff_axes {point : Vec3 F} :
    point.finite = true ↔
      isFinite point.x = true ∧ isFinite point.y = true ∧ isFinite point.z = true := by
  unfold Vec3.finite
  rw [Bool.and_eq_true, Bool.and_eq_true, and_assoc]

/-- A mask entry other than 0 and 1 is rejected by the checks below. -/
def maskValid (valid : List UInt8) (index : ℕ) : Bool :=
  valid.isEmpty || valid.getD index 0 = 1

def checkIndex (points normals : List (Vec3 F)) (valid : List UInt8) (index : ℕ) : Result Unit :=
  if valid ≠ [] ∧ 1 < valid.getD index 0 then
    .error (surfaceError "valid" "mask elements must be 0 or 1")
  else
    let pointIsValid := maskValid valid index
    if pointIsValid ∧ ¬ (points.getD index default).finite then
      .error (surfaceError "points" "valid points must contain only finite coordinates")
    else if pointIsValid ∧ normals ≠ [] ∧ ¬ (normals.getD index default).finite then
      .error (surfaceError "normals" "normals for valid points must be finite")
    else .ok ()

theorem checkIndex_congr {points points' normals normals' : List (Vec3 F)}
    {valid valid' : List UInt8}
    {i j : ℕ} (hp : points.getD i default = points'.getD j default)
    (hn : normals.getD i default = normals'.getD j default)
    (hv : valid.getD i 0 = valid'.getD j 0) (hnormals : normals = [] ↔ normals' = [])
    (hvalid : valid = [] ↔ valid' = []) :
    checkIndex points normals valid i = checkIndex points' normals' valid' j := by
  have hempty : valid.isEmpty = valid'.isEmpty := by
    rw [Bool.eq_iff_iff, List.isEmpty_iff, List.isEmpty_iff, hvalid]
  unfold checkIndex maskValid
  simp only [hp, hn, hv, hempty, hnormals, hvalid, ne_eq]

/-- The size computations of a grid in `w`-bit arithmetic: the number of samples. -/
def checkGrid (w : ℕ) (storageSize : ℕ) (grid : GridTopology) : Result ℕ :=
  let width := grid.width.toNat
  let rows := (grid.height - 1).toNat
  if grid.width = 0 ∨ grid.height = 0 then
    .error (surfaceError "grid" "width and height must be positive")
  else if grid.rowStride < grid.width then
    .error (surfaceError "grid.row_stride" "must be at least grid.width")
  else if (2 ^ w - 1 - width) / grid.rowStride.toNat < rows then
    .error (surfaceError "grid" "storage size overflows")
  else if storageSize ≠ (rows * grid.rowStride.toNat % 2 ^ w + width) % 2 ^ w then
    .error (surfaceError "grid" "point storage does not match width, height, and row_stride")
  else .ok (width * grid.height.toNat % 2 ^ w)

def checkStorage (w : ℕ) (storageSize : ℕ) : Option GridTopology → Result ℕ
  | none => .ok storageSize
  | some grid => checkGrid w storageSize grid

/-- `validate_surface_data` with `w`-bit sizes: the number of samples of an accepted surface. -/
def validateSurfaceDataAt (w : ℕ) (points normals : List (Vec3 F)) (valid : List UInt8)
    (grid : Option GridTopology) : Result ℕ :=
  if points = [] then .error (surfaceError "points" "must not be empty")
  else if normals ≠ [] ∧ normals.length ≠ points.length then
    .error (surfaceError "normals" "must be empty or match point storage size")
  else if valid ≠ [] ∧ valid.length ≠ points.length then
    .error (surfaceError "valid" "must be empty or match point storage size")
  else do
    let logicalSize ← checkStorage w points.length grid
    forM (logicalIndices grid points.length) (checkIndex points normals valid)
    return logicalSize

def validateSurfaceData (points normals : List (Vec3 F)) (valid : List UInt8)
    (grid : Option GridTopology) : Result ℕ :=
  validateSurfaceDataAt 64 points normals valid grid

/-- An accepted grid has positive sides, its rows fit their stride, and no size wraps. -/
structure GridFits (w storageSize : ℕ) (grid : GridTopology) : Prop where
  width_pos : 0 < grid.width.toNat
  height_pos : 0 < grid.height.toNat
  width_le : grid.width.toNat ≤ grid.rowStride.toNat
  storage : storageSize = (grid.height.toNat - 1) * grid.rowStride.toNat + grid.width.toNat
  fits : storageSize < 2 ^ w

theorem checkGrid_ok {w storageSize n : ℕ} {grid : GridTopology} (hw : 32 ≤ w)
    (h : checkGrid w storageSize grid = .ok n) :
    GridFits w storageSize grid ∧ n = grid.width.toNat * grid.height.toNat := by
  simp only [checkGrid] at h
  split_ifs at h with hzero hstride hover hsize
  injection h with h
  have hpow : 2 ^ 32 ≤ 2 ^ w := Nat.pow_le_pow_right (by decide) hw
  have hwidth : 0 < grid.width.toNat := by
    rw [Nat.pos_iff_ne_zero]
    exact fun he => hzero (.inl (UInt32.toNat_inj.mp he))
  have hheight : 0 < grid.height.toNat := by
    rw [Nat.pos_iff_ne_zero]
    exact fun he => hzero (.inr (UInt32.toNat_inj.mp he))
  have hle : grid.width.toNat ≤ grid.rowStride.toNat := by
    rw [UInt32.lt_iff_toNat_lt] at hstride
    omega
  have hrows : (grid.height - 1).toNat = grid.height.toNat - 1 := by
    rw [UInt32.toNat_sub_of_le]
    · rfl
    · rw [UInt32.le_iff_toNat_le]
      exact hheight
  have hlt : grid.width.toNat < 2 ^ 32 := grid.width.toNat_lt
  rw [hrows] at hover hsize
  have hbound : (grid.height.toNat - 1) * grid.rowStride.toNat ≤ 2 ^ w - 1 - grid.width.toNat :=
    (Nat.le_div_iff_mul_le (by omega)).mp (Nat.le_of_not_lt hover)
  rw [Nat.mod_eq_of_lt (b := 2 ^ w) (a := (grid.height.toNat - 1) * _) (by omega),
    Nat.mod_eq_of_lt (b := 2 ^ w) (by omega), not_not] at hsize
  have hlogical : grid.width.toNat * grid.height.toNat ≤ storageSize := by
    obtain ⟨k, hk⟩ := Nat.exists_eq_succ_of_ne_zero (Nat.pos_iff_ne_zero.mp hheight)
    have := Nat.mul_le_mul_left k hle
    rw [hsize, hk, Nat.succ_sub_one, Nat.mul_succ, Nat.mul_comm grid.width.toNat]
    omega
  refine ⟨⟨hwidth, hheight, hle, hsize, by omega⟩, ?_⟩
  rw [← h, Nat.mod_eq_of_lt (by omega)]

theorem GridFits.mem_logicalIndices {w storageSize : ℕ} {grid : GridTopology}
    (h : GridFits w storageSize grid) {i : ℕ} (hi : i ∈ grid.logicalIndices) : i < storageSize := by
  simp only [GridTopology.logicalIndices, List.mem_flatMap, List.mem_map, List.mem_range] at hi
  obtain ⟨row, hrow, column, hcolumn, rfl⟩ := hi
  have hle := Nat.mul_le_mul_right grid.rowStride.toNat (Nat.le_sub_one_of_lt hrow)
  have := h.storage
  omega

theorem GridFits.nodup_logicalIndices {w storageSize : ℕ} {grid : GridTopology}
    (h : GridFits w storageSize grid) : grid.logicalIndices.Nodup := by
  refine List.nodup_flatMap.mpr ⟨fun row _ => ?_, ?_⟩
  · exact List.Nodup.map (fun a b hab => by simpa using hab) List.nodup_range
  · refine List.Pairwise.imp ?_ List.nodup_range
    intro row row' hne i hi hi'
    simp only [List.mem_map, List.mem_range] at hi hi'
    obtain ⟨column, hcolumn, rfl⟩ := hi
    obtain ⟨column', hcolumn', he⟩ := hi'
    have hdiv : ∀ r c, c < grid.width.toNat →
        (r * grid.rowStride.toNat + c) / grid.rowStride.toNat = r := fun r c hc => by
      have hpos := h.width_pos
      have hle := h.width_le
      rw [Nat.mul_comm, Nat.mul_add_div (by omega), Nat.div_eq_of_lt (by omega), Nat.add_zero]
    exact hne ((hdiv row column hcolumn).symm.trans
      ((congrArg (· / grid.rowStride.toNat) he.symm).trans (hdiv row' column' hcolumn')))

theorem GridTopology.length_logicalIndices (grid : GridTopology) :
    grid.logicalIndices.length = grid.width.toNat * grid.height.toNat := by
  simp [GridTopology.logicalIndices, Nat.mul_comm]

end

/-- What the borrowed arrays of a view hold when a function reads them. -/
structure SurfaceView (F : Type) where
  points : List (Vec3 F)
  normals : List (Vec3 F)
  valid : List UInt8
  grid : Option GridTopology
  unit : LengthUnit
  frame : FrameId
  logicalSize : ℕ
  deriving DecidableEq

/-- A surface that passed the checks. -/
structure OwnedSurface (F : Type) [FloatArith F] extends SurfaceView F where
  accepted : validateSurfaceData points normals valid grid = .ok logicalSize

namespace SurfaceView

variable {F : Type}

/-- The number of samples. -/
def size (surface : SurfaceView F) : ℕ := surface.logicalSize

def storageSize (surface : SurfaceView F) : ℕ := surface.points.length

def indices (surface : SurfaceView F) : List ℕ :=
  logicalIndices surface.grid surface.storageSize

def isValidIndex (surface : SurfaceView F) (index : ℕ) : Bool := maskValid surface.valid index

def create [FloatArith F] (points normals : List (Vec3 F)) (valid : List UInt8)
    (grid : Option GridTopology) (unit : LengthUnit) (frame : FrameId) :
      Result (SurfaceView F) := do
  let size ← validateSurfaceData points normals valid grid
  return ⟨points, normals, valid, grid, unit, frame, size⟩

/-- The arrays fit each other and the grid, and the mask of every sample is 0 or 1. -/
structure Shaped (surface : SurfaceView F) : Prop where
  nonempty : surface.points ≠ []
  storage : checkStorage 64 surface.storageSize surface.grid = .ok surface.logicalSize
  normals : surface.normals = [] ∨ surface.normals.length = surface.storageSize
  valid : surface.valid = [] ∨ surface.valid.length = surface.storageSize
  mask : ∀ i ∈ surface.indices, surface.valid = [] ∨ ¬ 1 < surface.valid.getD i 0

namespace Shaped

variable {surface : SurfaceView F}

theorem gridFits (h : surface.Shaped) {grid : GridTopology} (hg : surface.grid = some grid) :
    GridFits 64 surface.storageSize grid ∧
      surface.logicalSize = grid.width.toNat * grid.height.toNat := by
  have hs := h.storage
  rw [hg] at hs
  exact checkGrid_ok (by decide) hs

theorem lt (h : surface.Shaped) {i : ℕ} (hi : i ∈ surface.indices) : i < surface.storageSize := by
  unfold indices logicalIndices at hi
  cases hg : surface.grid with
  | none => simpa [hg] using hi
  | some grid => exact (h.gridFits hg).1.mem_logicalIndices (by simpa [hg] using hi)

theorem nodup (h : surface.Shaped) : surface.indices.Nodup := by
  unfold indices logicalIndices
  cases hg : surface.grid with
  | none => exact List.nodup_range
  | some grid => exact (h.gridFits hg).1.nodup_logicalIndices

theorem length_indices (h : surface.Shaped) : surface.indices.length = surface.logicalSize := by
  unfold indices logicalIndices
  cases hg : surface.grid with
  | none =>
    have hs := h.storage
    rw [hg] at hs
    injection hs with hs
    simpa using hs
  | some grid => exact grid.length_logicalIndices.trans (h.gridFits hg).2.symm

theorem size_ne_zero (h : surface.Shaped) : surface.size ≠ 0 := by
  have hs := h.storage
  unfold size
  cases hg : surface.grid with
  | none =>
    rw [hg] at hs
    obtain hs := Except.ok.inj hs
    rw [← hs]
    exact fun he => h.nonempty (List.length_eq_zero_iff.mp he)
  | some grid =>
    obtain ⟨hfits, hsize⟩ := h.gridFits hg
    rw [hsize]
    exact (Nat.mul_pos hfits.width_pos hfits.height_pos).ne'

end Shaped
end SurfaceView

/-- Acceptance is a shape and the checks of every sample. -/
theorem validateSurfaceData_ok {F : Type} [FloatArith F] {points normals : List (Vec3 F)}
    {valid : List UInt8} {grid : Option GridTopology} {n : ℕ}
    (h : validateSurfaceData points normals valid grid = .ok n) (unit : LengthUnit)
    (frame : FrameId) :
    (⟨points, normals, valid, grid, unit, frame, n⟩ : SurfaceView F).Shaped ∧
      ∀ i ∈ logicalIndices grid points.length, checkIndex points normals valid i = .ok () := by
  simp only [validateSurfaceData, validateSurfaceDataAt] at h
  split_ifs at h with hp hn hv
  simp only [bind_ok_iff, pure, Except.pure, Except.ok.injEq] at h
  obtain ⟨size, hsize, _, hchecks, rfl⟩ := h
  have hchecks := forM_ok_iff.mp hchecks
  refine ⟨⟨hp, hsize, by tauto, by tauto, fun i hi => ?_⟩, hchecks⟩
  have hi := hchecks i hi
  unfold checkIndex at hi
  split_ifs at hi with hmask
  tauto

/-- Every check of a surface reports an invalid input. -/
theorem validateSurfaceData_error {F : Type} [FloatArith F] {points normals : List (Vec3 F)}
    {valid : List UInt8} {grid : Option GridTopology} {e : Error}
    (h : validateSurfaceData points normals valid grid = .error e) : e.code = .invalidInput := by
  simp only [validateSurfaceData, validateSurfaceDataAt] at h
  split_ifs at h
  · cases h
    rfl
  · cases h
    rfl
  · cases h
    rfl
  · rcases bind_error_iff.mp h with hstorage | ⟨size, -, h⟩
    · cases grid with
      | none => cases hstorage
      | some grid =>
        simp only [checkStorage, checkGrid] at hstorage
        split_ifs at hstorage <;> cases hstorage <;> rfl
    · rcases bind_error_iff.mp h with hcheck | ⟨_, -, h⟩
      · obtain ⟨i, -, hi⟩ := forM_error hcheck
        unfold checkIndex at hi
        dsimp only at hi
        split_ifs at hi <;> cases hi <;> rfl
      · cases h

/-- Arrays of a shaped surface's lengths are accepted when every sample passes its checks. -/
theorem SurfaceView.Shaped.validate {F : Type} [FloatArith F] {surface : SurfaceView F}
    (h : surface.Shaped) {points normals : List (Vec3 F)} {valid : List UInt8}
    (hp : points.length = surface.storageSize)
    (hn : normals = [] ∨ normals.length = surface.storageSize)
    (hv : valid = [] ∨ valid.length = surface.storageSize) :
    validateSurfaceData points normals valid surface.grid = do
      forM surface.indices (checkIndex points normals valid)
      return surface.logicalSize := by
  have hne : points ≠ [] := by
    rintro rfl
    exact h.nonempty (List.length_eq_zero_iff.mp hp.symm)
  simp only [validateSurfaceData, validateSurfaceDataAt]
  rw [if_neg hne, if_neg (by rw [hp]; tauto), if_neg (by rw [hp]; tauto), hp, h.storage]
  rfl

namespace OwnedSurface

variable {F : Type} [FloatArith F]

def create (points normals : List (Vec3 F)) (valid : List UInt8) (grid : Option GridTopology)
    (unit : LengthUnit) (frame : FrameId) : Result (OwnedSurface F) :=
  match h : validateSurfaceData points normals valid grid with
  | .ok size => .ok ⟨⟨points, normals, valid, grid, unit, frame, size⟩, h⟩
  | .error e => .error e

def view (surface : OwnedSurface F) : SurfaceView F := surface.toSurfaceView

theorem create_ok {points normals : List (Vec3 F)} {valid : List UInt8}
    {grid : Option GridTopology} {unit : LengthUnit} {frame : FrameId} {n : ℕ}
    (h : validateSurfaceData points normals valid grid = .ok n) :
    create points normals valid grid unit frame =
      .ok ⟨⟨points, normals, valid, grid, unit, frame, n⟩, h⟩ := by
  unfold create
  split
  · rename_i n' h'
    obtain rfl := Except.ok.inj (h'.symm.trans h)
    rfl
  · rename_i e h'
    cases h'.symm.trans h

theorem create_error {points normals : List (Vec3 F)} {valid : List UInt8}
    {grid : Option GridTopology} {unit : LengthUnit} {frame : FrameId} {e : Error}
    (h : validateSurfaceData points normals valid grid = .error e) :
    create points normals valid grid unit frame = .error e := by
  unfold create
  split
  · rename_i n h'
    cases h'.symm.trans h
  · rename_i e' h'
    rw [Except.error.inj (h'.symm.trans h)]

theorem view_of_create {points normals : List (Vec3 F)} {valid : List UInt8}
    {grid : Option GridTopology} {unit : LengthUnit} {frame : FrameId} {surface : OwnedSurface F}
    (h : create points normals valid grid unit frame = .ok surface) :
    surface.view = ⟨points, normals, valid, grid, unit, frame, surface.logicalSize⟩ := by
  cases hv : validateSurfaceData points normals valid grid with
  | error e => rw [create_error hv] at h; cases h
  | ok n =>
    rw [create_ok hv] at h
    cases h
    rfl

theorem shaped (surface : OwnedSurface F) : surface.view.Shaped :=
  (validateSurfaceData_ok surface.accepted surface.unit surface.frame).1

theorem finite_point (surface : OwnedSurface F) {i : ℕ} (hi : i ∈ surface.view.indices)
    (hv : surface.view.isValidIndex i = true) :
    (surface.view.points.getD i default).finite = true := by
  have hcheck := (validateSurfaceData_ok surface.accepted surface.unit surface.frame).2 i hi
  change maskValid surface.valid i = true at hv
  unfold checkIndex at hcheck
  dsimp only at hcheck
  split_ifs at hcheck with hmask hpoint
  by_contra hfinite
  exact hpoint ⟨hv, hfinite⟩

@[ext] theorem ext {s t : OwnedSurface F} (h : s.view = t.view) : s = t := by
  cases s
  cases t
  simp_all [view]

end OwnedSurface
end PointcloudAd
