import Mathlib.Data.List.GetD
import PointcloudAd.Backends.PclPreprocess

/-!
# Normals and boundaries

Every valid sample of a surface gets a unit normal, supplied or estimated, or leaves the mask. A
sample on the boundary is flagged: by its four neighbours in a grid, by its directions otherwise.
-/

namespace PointcloudAd

open Library Registration

variable {F D : Type} [FloatArith F] [FloatArith D] [Floats F D]

inductive NormalOrientationMode where
  | unproven | alignDirection | towardViewpoint
  deriving DecidableEq, Repr

/-- The value is a direction or a viewpoint, in the frame of the surface. -/
structure NormalOrientationHint (F : Type) where
  mode : NormalOrientationMode
  value : Vec3 F

def NormalOrientationHint.none : NormalOrientationHint F := ⟨.unproven, default⟩

inductive NormalReason where
  | none | inputInvalid | normalMissing
  deriving DecidableEq, Repr

structure NormalBoundaryResult (F : Type) [FloatArith F] where
  surface : OwnedSurface F
  reasons : List NormalReason
  orientationValid : List UInt8
  boundary : List UInt8
  orientationProven : Bool

def normalError (code : ErrorCode) (field reason : String) : Error :=
  ⟨code, .preprocess, "normal and boundary preprocessing failed",
    [("field", field), ("reason", reason)]⟩

/-- The rows and columns of the samples, in the order of their indices. -/
def GridTopology.cells (grid : GridTopology) : List (ℕ × ℕ) :=
  (List.range grid.height.toNat).flatMap fun row =>
    (List.range grid.width.toNat).map fun column => (row, column)

def GridTopology.index (grid : GridTopology) (cell : ℕ × ℕ) : ℕ :=
  cell.1 * grid.rowStride.toNat + cell.2

def neighborOffsets : List (ℤ × ℤ) := [(-1, 0), (1, 0), (0, -1), (0, 1)]

/-- A sample is on the boundary toward a neighbour that is missing, masked or far away. -/
def boundaryToward (surface : SurfaceView F) (grid : GridTopology) (radius : D) (cell : ℕ × ℕ)
    (offset : ℤ × ℤ) : Bool :=
  let row : ℤ := cell.1 + offset.1
  let column : ℤ := cell.2 + offset.2
  if row < 0 ∨ column < 0 ∨ (grid.height.toNat : ℤ) ≤ row ∨
    (grid.width.toNat : ℤ) ≤ column then true
  else
    let neighbor := grid.index (row.toNat, column.toNat)
    if ¬ surface.isValidIndex neighbor then true
    else
      let delta := subFloat (surface.points.getD (grid.index cell) default)
        (surface.points.getD neighbor default)
      radius < (vectorLength delta : D)

def isGridBoundary (surface : SurfaceView F) (grid : GridTopology) (radius : D) (cell : ℕ × ℕ) :
    Bool :=
  surface.isValidIndex (grid.index cell) &&
    neighborOffsets.any (boundaryToward surface grid radius cell)

def detectGridBoundaries (surface : SurfaceView F) (grid : GridTopology) (radius : D) :
    List UInt8 :=
  grid.cells.foldl
    (fun boundary cell =>
      if isGridBoundary surface grid radius cell then boundary.set (grid.index cell) 1
      else boundary)
    (List.replicate surface.storageSize 0)

variable (D) in
/-- A supplied normal at length one, and whether it has a length. -/
def suppliedNormal (normal : Vec3 F) : Vec3 F × UInt8 :=
  let normal := unitVector D normal
  (normal, if (0 : D) < vectorLength normal then 1 else 0)

variable (D) in
/-- The supplied normals of the valid samples. -/
def suppliedNormals (surface : SurfaceView F) : List (Vec3 F × UInt8) :=
  surface.indices.foldl
    (fun cells index =>
      if ¬ surface.isValidIndex index then cells
      else cells.set index (suppliedNormal D (surface.normals.getD index default)))
    (List.replicate surface.storageSize (default, 0))

/-- What preparation writes for a sample. -/
structure PreparedCell (F : Type) where
  normal : Vec3 F
  mask : UInt8
  reason : NormalReason
  orientationValid : UInt8

instance : Inhabited (PreparedCell F) := ⟨⟨default, 0, .inputInvalid, 0⟩⟩

structure PreparedCells (F : Type) where
  cells : List (PreparedCell F)
  validNormalCount : ℕ
  orientedCount : ℕ

variable (D) in
/-- A normal turned by the hint, and whether the hint fixes its sign. -/
def orientNormal (orientation : NormalOrientationHint F) (direction point normal : Vec3 F) :
    Vec3 F × UInt8 :=
  let turned (toward : Vec3 F) : Vec3 F :=
    if (dotFloat normal toward : D) < 0 then normal.negate else normal
  match orientation.mode with
  | .unproven => (normal, 0)
  | .alignDirection => (turned direction, 1)
  | .towardViewpoint =>
    let toward := subFloat orientation.value point
    if (0 : D) < vectorLength toward then (turned toward, 1) else (normal, 0)

variable (D) in
def prepareIndex (surface : SurfaceView F) (normalValid : List UInt8)
    (orientation : NormalOrientationHint F) (direction : Vec3 F) (state : PreparedCells F)
    (index : ℕ) : PreparedCells F :=
  let cell := state.cells.getD index default
  if ¬ surface.isValidIndex index then state
  else if normalValid.getD index 0 = 0 then
    { state with cells := state.cells.set index { cell with reason := .normalMissing } }
  else
    let oriented := orientNormal D orientation direction (surface.points.getD index default)
      cell.normal
    { cells := state.cells.set index ⟨oriented.1, 1, .none, oriented.2⟩
      validNormalCount := state.validNormalCount + 1
      orientedCount := state.orientedCount + oriented.2.toNat }

/-- The normals of a surface and which of them are usable: estimated when none are supplied. -/
def availableNormals (host : Host F D) (scheduler : Scheduler) (surface : SurfaceView F)
    (radius : D) (minimumNeighbors threads : UInt32) : Result (List (Vec3 F) × List UInt8) :=
  if surface.normals = [] then
    (estimateNormals host scheduler surface radius minimumNeighbors threads).map fun estimated =>
      (estimated.normals, estimated.valid)
  else
    let cells := suppliedNormals D surface
    .ok (cells.map Prod.fst, cells.map Prod.snd)

/-- The boundary flags of a prepared surface. -/
def detectBoundaries (host : Host F D) (scheduler : Scheduler) (surface : SurfaceView F)
    (radius : D) (threads : UInt32) : Result (List UInt8) :=
  match surface.grid with
  | some grid => .ok (detectGridBoundaries surface grid radius)
  | none => detectUnorganizedBoundaries host scheduler surface radius threads

def checkPreparation (surface : SurfaceView F) (normalRadius : D) (minimumNeighbors : UInt32)
    (boundaryRadius : D) (orientation : NormalOrientationHint F) (threads : UInt32) :
    Result Unit :=
  if threads = 0 then .error (normalError .invalidArgument "thread_count" "must be positive")
  else if surface.unit ≠ .millimeter then
    .error (normalError .invalidInput "surface.unit" "must be normalized to millimetres")
  else if ¬ isFinite normalRadius ∨ normalRadius ≤ 0 then
    .error (normalError .invalidArgument "normal_radius_mm" "must be finite and positive")
  else if minimumNeighbors < 3 then
    .error (normalError .invalidArgument "normal_min_neighbors" "must be at least 3")
  else if ¬ isFinite boundaryRadius ∨ boundaryRadius ≤ 0 then
    .error (normalError .invalidArgument "boundary_radius_mm" "must be finite and positive")
  else if orientation.mode ≠ .unproven ∧
      (¬ orientation.value.finite ∨ equal (vectorLength orientation.value : D) 0) then
    .error (normalError .invalidArgument "orientation.value" "must be finite and non-zero")
  else .ok ()

variable (D) in
def hintDirection (orientation : NormalOrientationHint F) : Vec3 F :=
  if orientation.mode = .alignDirection then unitVector D orientation.value else default

variable (D) in
/-- The loop that masks, counts and orients the samples. -/
def preparedCells (surface : SurfaceView F) (normals : List (Vec3 F)) (normalValid : List UInt8)
    (orientation : NormalOrientationHint F) : PreparedCells F :=
  surface.indices.foldl
    (prepareIndex D surface normalValid orientation (hintDirection D orientation))
    ⟨normals.map fun normal => ⟨normal, 0, .inputInvalid, 0⟩, 0, 0⟩

def prepareNormalsAndBoundaries (host : Host F D) (scheduler : Scheduler)
    (surface : SurfaceView F) (normalRadius : D) (minimumNeighbors : UInt32) (boundaryRadius : D)
    (orientation : NormalOrientationHint F) (threads : UInt32) :
    Result (NormalBoundaryResult F) := do
  checkPreparation surface normalRadius minimumNeighbors boundaryRadius orientation threads
  let (normals, normalValid) ← availableNormals host scheduler surface normalRadius minimumNeighbors
    threads
  let prepared := preparedCells D surface normals normalValid orientation
  let output ← OwnedSurface.create surface.points (prepared.cells.map PreparedCell.normal)
    (prepared.cells.map PreparedCell.mask) surface.grid surface.unit surface.frame
  let boundary ← detectBoundaries host scheduler output.view boundaryRadius threads
  return ⟨output, prepared.cells.map PreparedCell.reason,
    prepared.cells.map PreparedCell.orientationValid, boundary,
    0 < prepared.validNormalCount && prepared.orientedCount = prepared.validNormalCount⟩

theorem GridTopology.logicalIndices_eq (grid : GridTopology) :
    grid.logicalIndices = grid.cells.map grid.index := by
  simp only [logicalIndices, cells, List.map_flatMap, List.map_map]
  rfl

theorem GridTopology.mem_cells {grid : GridTopology} {cell : ℕ × ℕ} :
    cell ∈ grid.cells ↔ cell.1 < grid.height.toNat ∧ cell.2 < grid.width.toNat := by
  obtain ⟨row, column⟩ := cell
  simp [cells]

variable {s t : SurfaceView F}

omit [FloatArith F] in
theorem Corresponds.paired_cell (h : Corresponds s t) {grid grid' : GridTopology}
    (hg : s.grid = some grid) (hg' : t.grid = some grid') {cell : ℕ × ℕ} (hc : cell ∈ grid.cells) :
    Paired s.indices t.indices (grid.index cell) (grid'.index cell) := by
  have hsides := h.sides
  rw [hg, hg'] at hsides
  have hcells : grid.cells = grid'.cells := by
    obtain ⟨hw, hh⟩ := Prod.mk.inj (Option.some.inj hsides)
    unfold GridTopology.cells
    rw [hw, hh]
  obtain ⟨k, hk, hkc⟩ := List.mem_iff_getElem.mp hc
  have hs : s.indices = grid.cells.map grid.index := by
    rw [← grid.logicalIndices_eq, SurfaceView.indices, hg]
    rfl
  have ht : t.indices = grid.cells.map grid'.index := by
    rw [hcells, ← grid'.logicalIndices_eq, SurfaceView.indices, hg']
    rfl
  exact ⟨k, by simp [hs, hk, hkc], by simp [ht, hk, hkc]⟩

theorem boundaryToward_eq (h : Corresponds s t) {grid grid' : GridTopology}
    (hg : s.grid = some grid) (hg' : t.grid = some grid') (radius : D) {cell : ℕ × ℕ}
    (hc : cell ∈ grid.cells) (hv : s.isValidIndex (grid.index cell) = true) (offset : ℤ × ℤ) :
    boundaryToward s grid radius cell offset = boundaryToward t grid' radius cell offset := by
  have hsides := h.sides
  rw [hg, hg'] at hsides
  obtain ⟨hw, hh⟩ := Prod.mk.inj (Option.some.inj hsides)
  unfold boundaryToward
  dsimp only
  rw [hw, hh]
  by_cases hout : (cell.1 : ℤ) + offset.1 < 0 ∨ (cell.2 : ℤ) + offset.2 < 0 ∨
      (grid'.height.toNat : ℤ) ≤ cell.1 + offset.1 ∨ (grid'.width.toNat : ℤ) ≤ cell.2 + offset.2
  · rw [if_pos hout, if_pos hout]
  · rw [if_neg hout, if_neg hout]
    have hcell : ((cell.1 + offset.1 : ℤ).toNat, (cell.2 + offset.2 : ℤ).toNat) ∈ grid.cells := by
      rw [GridTopology.mem_cells, hw, hh]
      omega
    have hpair := h.paired_cell hg hg' hcell
    rw [← h.valid _ _ hpair]
    split_ifs with hmask
    · rw [h.points.getD (h.paired_cell hg hg' hc) hv, h.points.getD hpair hmask]
    · rfl

/-- The flags of corresponding grids. -/
theorem detectGridBoundaries_related (h : Corresponds s t) {grid grid' : GridTopology}
    (hg : s.grid = some grid) (hg' : t.grid = some grid') (radius : D) :
    SlotsAgree s t (detectGridBoundaries s grid radius) (detectGridBoundaries t grid' radius) := by
  have hsides := h.sides
  rw [hg, hg'] at hsides
  have hcells : grid'.cells = grid.cells := by
    obtain ⟨hw, hh⟩ := Prod.mk.inj (Option.some.inj hsides)
    unfold GridTopology.cells
    rw [hw, hh]
  have hflag : ∀ cell ∈ grid.cells, isGridBoundary s grid radius cell =
      isGridBoundary t grid' radius cell := by
    intro cell hc
    unfold isGridBoundary
    rw [← h.valid _ _ (h.paired_cell hg hg' hc)]
    cases hv : s.isValidIndex (grid.index cell) with
    | false => rfl
    | true => rw [funext (boundaryToward_eq h hg hg' radius hc hv)]
  have hvalues : (grid.cells.map fun cell =>
        if isGridBoundary s grid radius cell then some (1 : UInt8) else none) =
      grid'.cells.map fun cell => if isGridBoundary t grid' radius cell then some 1 else none := by
    rw [hcells]
    exact List.map_congr_left fun cell hc => by rw [hflag cell hc]
  have hs : s.indices = grid.cells.map grid.index := by
    rw [← grid.logicalIndices_eq, SurfaceView.indices, hg]
    rfl
  have ht : t.indices = grid'.cells.map grid'.index := by
    rw [← grid'.logicalIndices_eq, SurfaceView.indices, hg']
    rfl
  unfold detectGridBoundaries
  rw [foldl_set_if, foldl_set_if, ← hvalues, ← hs, ← ht]
  have hagree := (SlotsAgree.replicate h (0 : UInt8)).scatter_filter h (p := fun _ => true)
    (q := fun _ => true) (fun _ _ _ => rfl)
    (show (grid.cells.map fun cell => if isGridBoundary s grid radius cell then some (1 : UInt8)
      else none).length = _ by simp [hs])
  simpa using hagree

theorem suppliedNormals_related (h : Corresponds s t) :
    SlotsAgree s t (suppliedNormals D s) (suppliedNormals D t) := by
  refine List.rel_foldl (R := Paired s.indices t.indices) ?_ (.replicate h _) h.matching.forall₂
  intro l m hlm i j hij
  dsimp only
  rw [← h.valid i j hij]
  by_cases hv : s.isValidIndex i = true
  · rw [if_neg (not_not.mpr hv), if_neg (not_not.mpr hv), h.normals.getD hij hv]
    exact hlm.set h hij _
  · rw [if_pos hv, if_pos hv]
    exact hlm

/-- The arrays and the counters of two preparations agree. -/
structure CellsAgree (s t : SurfaceView F) (a b : PreparedCells F) : Prop where
  cells : SlotsAgree s t a.cells b.cells
  valid : a.validNormalCount = b.validNormalCount
  oriented : a.orientedCount = b.orientedCount

theorem prepareIndex_related (h : Corresponds s t) {normalValid normalValid' : List UInt8}
    (hn : SlotsAgree s t normalValid normalValid') (orientation : NormalOrientationHint F)
    (direction : Vec3 F) {a b : PreparedCells F} (hab : CellsAgree s t a b) {i j : ℕ}
    (hij : Paired s.indices t.indices i j) :
    CellsAgree s t (prepareIndex D s normalValid orientation direction a i)
      (prepareIndex D t normalValid' orientation direction b j) := by
  unfold prepareIndex
  dsimp only
  rw [← h.valid i j hij, hn.getD hij 0, hab.cells.getD hij default]
  by_cases hv : s.isValidIndex i = true
  · rw [if_neg (not_not.mpr hv), if_neg (not_not.mpr hv)]
    split_ifs
    · exact ⟨hab.cells.set h hij _, hab.valid, hab.oriented⟩
    · rw [h.points.getD hij hv, hab.valid, hab.oriented]
      exact ⟨hab.cells.set h hij _, rfl, rfl⟩
  · rw [if_pos hv, if_pos hv]
    exact hab

theorem preparedCells_related (h : Corresponds s t) {normals normals' : List (Vec3 F)}
    {normalValid normalValid' : List UInt8} (hn : SlotsAgree s t normals normals')
    (hv : SlotsAgree s t normalValid normalValid') (orientation : NormalOrientationHint F) :
    CellsAgree s t (preparedCells D s normals normalValid orientation)
      (preparedCells D t normals' normalValid' orientation) := by
  unfold preparedCells
  refine List.rel_foldl (R := Paired s.indices t.indices) (P := CellsAgree s t) ?_ ?_
    h.matching.forall₂
  · exact fun _ _ hab _ _ hij => prepareIndex_related h hv orientation _ hab hij
  · exact ⟨hn.map _, rfl, rfl⟩

/-- The output mask is 0 or 1, and 1 at valid samples only. -/
def MaskFits (surface : SurfaceView F) (cells : List (PreparedCell F)) : Prop :=
  ∀ i, (cells.getD i default).mask = 0 ∨
    (cells.getD i default).mask = 1 ∧ surface.isValidIndex i = true

theorem MaskFits.set {cells : List (PreparedCell F)} (h : MaskFits s cells) {i : ℕ}
    {cell : PreparedCell F} (hcell : cell.mask = 0 ∨ cell.mask = 1 ∧ s.isValidIndex i = true) :
    MaskFits s (cells.set i cell) := by
  intro j
  rcases eq_or_ne i j with rfl | hne
  · rw [List.getD_eq_getElem?_getD, List.getElem?_set_self']
    cases hi : cells[i]? with
    | none => exact .inl rfl
    | some c => exact hcell
  · rw [List.getD_eq_getElem?_getD, List.getElem?_set_ne hne, ← List.getD_eq_getElem?_getD]
    exact h j

theorem preparedCells_mask (surface : SurfaceView F) (normals : List (Vec3 F))
    (normalValid : List UInt8) (orientation : NormalOrientationHint F) :
    MaskFits surface (preparedCells D surface normals normalValid orientation).cells := by
  unfold preparedCells
  refine List.foldlRecOn (motive := fun state : PreparedCells F => MaskFits surface state.cells) _ _
    ?_ ?_
  · intro i
    rw [List.getD_eq_getElem?_getD, List.getElem?_map]
    cases normals[i]? <;> exact .inl rfl
  · intro state hstate i _
    unfold prepareIndex
    dsimp only
    by_cases hv : surface.isValidIndex i = true
    · rw [if_neg (not_not.mpr hv)]
      split_ifs
      · exact hstate.set ((hstate i).imp id id)
      · exact hstate.set (.inr ⟨rfl, hv⟩)
    · rw [if_pos hv]
      exact hstate

theorem maskValid_cells {cells : List (PreparedCell F)} (hne : cells ≠ []) (i : ℕ) :
    maskValid (cells.map PreparedCell.mask) i = decide ((cells.getD i default).mask = 1) := by
  unfold maskValid
  rw [show (0 : UInt8) = (default : PreparedCell F).mask from rfl, List.getD_map]
  cases cells with
  | nil => exact absurd rfl hne
  | cons c cs => rfl

theorem availableNormals_related (h : Corresponds s t) (host : Host F D)
    (scheduler scheduler' : Scheduler) (radius : D) (minimumNeighbors : UInt32)
    {threads threads' : UInt32} (hthreads : threads = 0 ↔ threads' = 0) :
    Outcome (fun a b => SlotsAgree s t a.1 b.1 ∧ SlotsAgree s t a.2 b.2)
      (availableNormals host scheduler s radius minimumNeighbors threads)
      (availableNormals host scheduler' t radius minimumNeighbors threads') := by
  unfold availableNormals
  simp only [h.hasNormals]
  split_ifs
  · exact (estimateNormals_related h host scheduler scheduler' radius minimumNeighbors
      hthreads).map fun _ _ hab => hab
  · have hs := suppliedNormals_related (D := D) h
    exact .ok ⟨hs.map Prod.fst, hs.map Prod.snd⟩

theorem detectBoundaries_related (h : Corresponds s t) (host : Host F D)
    (scheduler scheduler' : Scheduler) (radius : D) {threads threads' : UInt32}
    (hthreads : threads = 0 ↔ threads' = 0) :
    Outcome (SlotsAgree s t) (detectBoundaries host scheduler s radius threads)
      (detectBoundaries host scheduler' t radius threads') := by
  have hnone := h.grid_none
  unfold detectBoundaries
  cases hg : s.grid with
  | none =>
    rw [hnone.mp hg]
    exact detectUnorganizedBoundaries_related h host scheduler scheduler' radius hthreads
  | some grid =>
    cases hg' : t.grid with
    | none => exact absurd (hnone.mpr hg') (by simp [hg])
    | some grid' => exact .ok (detectGridBoundaries_related h hg hg' radius)

theorem detectBoundaries_workers (h : s.Shaped) (host : Host F D) (scheduler scheduler' : Scheduler)
    (radius : D) {threads threads' : UInt32} (hthreads : threads = 0 ↔ threads' = 0) :
    detectBoundaries host scheduler s radius threads =
      detectBoundaries host scheduler' s radius threads' := by
  unfold detectBoundaries
  rw [detectUnorganizedBoundaries_workers h host scheduler scheduler' radius hthreads]

/-- A preparation does not show its workers or their schedule. -/
theorem prepareNormalsAndBoundaries_workers (h : s.Shaped) (host : Host F D)
    (scheduler scheduler' : Scheduler) (normalRadius : D) (minimumNeighbors : UInt32)
    (boundaryRadius : D) (orientation : NormalOrientationHint F) {threads threads' : UInt32}
    (hthreads : threads = 0 ↔ threads' = 0) :
    prepareNormalsAndBoundaries host scheduler s normalRadius minimumNeighbors boundaryRadius
        orientation threads =
      prepareNormalsAndBoundaries host scheduler' s normalRadius minimumNeighbors boundaryRadius
        orientation threads' := by
  have hcheck : checkPreparation s normalRadius minimumNeighbors boundaryRadius
      orientation threads =
      checkPreparation s normalRadius minimumNeighbors boundaryRadius orientation threads' := by
    unfold checkPreparation
    simp only [hthreads]
  have hnormals : availableNormals host scheduler s normalRadius minimumNeighbors threads =
      availableNormals host scheduler' s normalRadius minimumNeighbors threads' := by
    unfold availableNormals
    rw [estimateNormals_workers h host scheduler scheduler' normalRadius minimumNeighbors hthreads]
  have hboundary : ∀ output : OwnedSurface F,
      detectBoundaries host scheduler output.view boundaryRadius threads =
        detectBoundaries host scheduler' output.view boundaryRadius threads' :=
    fun output => detectBoundaries_workers output.shaped host scheduler scheduler' boundaryRadius
      hthreads
  unfold prepareNormalsAndBoundaries
  rw [hcheck, hnormals]
  simp only [hboundary]

/-- Two prepared surfaces that no later stage can tell apart by their samples. -/
structure PreparedAlike (a b : NormalBoundaryResult F) : Prop where
  surface : Corresponds a.surface.view b.surface.view
  normals : SlotsAgree a.surface.view b.surface.view a.surface.view.normals b.surface.view.normals
  boundary : SlotsAgree a.surface.view b.surface.view a.boundary b.boundary
  proven : a.orientationProven = b.orientationProven

/-- Preparation keeps the correspondence, and fails alike, over any workers and schedules. -/
theorem prepareNormalsAndBoundaries_related (h : Corresponds s t) (host : Host F D)
    (scheduler scheduler' : Scheduler) (normalRadius : D) (minimumNeighbors : UInt32)
    (boundaryRadius : D) (orientation : NormalOrientationHint F) {threads threads' : UInt32}
    (hthreads : threads = 0 ↔ threads' = 0) :
    Outcome PreparedAlike
      (prepareNormalsAndBoundaries host scheduler s normalRadius minimumNeighbors boundaryRadius
        orientation threads)
      (prepareNormalsAndBoundaries host scheduler' t normalRadius minimumNeighbors boundaryRadius
        orientation threads') := by
  have hcheck : checkPreparation s normalRadius minimumNeighbors boundaryRadius
      orientation threads =
      checkPreparation t normalRadius minimumNeighbors boundaryRadius orientation threads' := by
    unfold checkPreparation
    simp only [h.unit, hthreads]
  unfold prepareNormalsAndBoundaries
  rw [hcheck]
  refine (Outcome.eq_iff.mpr rfl).bind fun _ _ _ => ?_
  refine (availableNormals_related h host scheduler scheduler' normalRadius minimumNeighbors
    hthreads).bind ?_
  rintro ⟨normals, normalValid⟩ ⟨normals', normalValid'⟩ ⟨hn, hv⟩
  have hcells := preparedCells_related (D := D) h hn hv orientation
  have hmask := preparedCells_mask (D := D) s normals normalValid orientation
  have hmask' := preparedCells_mask (D := D) t normals' normalValid' orientation
  dsimp only
  revert hcells hmask hmask'
  generalize preparedCells D s normals normalValid orientation = a
  generalize preparedCells D t normals' normalValid' orientation = b
  intro hcells hmask hmask'
  have hne : a.cells ≠ [] := fun he => h.left.nonempty (List.length_eq_zero_iff.mp
    (hcells.cells.left.symm.trans (by rw [he]; rfl)))
  have hne' : b.cells ≠ [] := fun he => h.right.nonempty (List.length_eq_zero_iff.mp
    (hcells.cells.right.symm.trans (by rw [he]; rfl)))
  have hvalid : ∀ i, maskValid (a.cells.map PreparedCell.mask) i = true →
      s.isValidIndex i = true := by
    intro i hi
    rw [maskValid_cells hne, decide_eq_true_eq] at hi
    rcases hmask i with hz | ⟨-, hone⟩
    · rw [hi] at hz
      cases hz
    · exact hone
  have hbit : ∀ {s : SurfaceView F} {cells : List (PreparedCell F)}, MaskFits s cells → ∀ i,
      ¬ 1 < (cells.map PreparedCell.mask).getD i 0 := by
    intro s cells hfits i
    rw [show (0 : UInt8) = (default : PreparedCell F).mask from rfl, List.getD_map]
    rcases hfits i with hz | ⟨hone, -⟩
    · rw [hz]; decide
    · rw [hone]; decide
  rw [← h.unit, ← h.frame]
  refine (h.create s.unit s.frame rfl rfl (.inr (hcells.cells.map PreparedCell.normal).left)
    (.inr (hcells.cells.map PreparedCell.normal).right)
    (.inr (hcells.cells.map PreparedCell.mask).left)
    (.inr (hcells.cells.map PreparedCell.mask).right) (fun i _ => .inr (hbit hmask i))
    (fun i _ => .inr (hbit hmask' i)) (by simp [hne, hne']) ?_ (h.points.mono hvalid)
    ((hcells.cells.map PreparedCell.normal).agree.mono fun _ _ => trivial)).bind_of_eq ?_
  · intro i j hij
    rw [maskValid_cells hne, maskValid_cells hne', hcells.cells.getD hij default]
  · intro output output' hcreate hcreate' houtput
    have hview := OwnedSurface.view_of_create hcreate
    have hview' := OwnedSurface.view_of_create hcreate'
    have hnormals : SlotsAgree output.view output'.view output.view.normals
        output'.view.normals := by
      rw [hview, hview']
      exact (hcells.cells.map PreparedCell.normal).of_layout (.of_grid rfl rfl) (.of_grid rfl rfl)
    refine (detectBoundaries_related houtput host scheduler scheduler' boundaryRadius hthreads).bind
      fun boundary boundary' hboundary => ?_
    exact .ok ⟨houtput, hnormals, hboundary, by rw [hcells.valid, hcells.oriented]⟩

/-- A prepared surface keeps the layout of its input. -/
theorem prepareNormalsAndBoundaries_layout {host : Host F D} {scheduler : Scheduler}
    {normalRadius boundaryRadius : D} {minimumNeighbors threads : UInt32}
    {orientation : NormalOrientationHint F} {result : NormalBoundaryResult F}
    (h : prepareNormalsAndBoundaries host scheduler s normalRadius minimumNeighbors boundaryRadius
      orientation threads = .ok result) : SameLayout s result.surface.view := by
  unfold prepareNormalsAndBoundaries at h
  simp only [bind_ok_iff, pure, Except.pure, Except.ok.injEq] at h
  obtain ⟨_, -, ⟨normals, normalValid⟩, -, output, hcreate, boundary, -, rfl⟩ := h
  rw [OwnedSurface.view_of_create hcreate]
  exact .of_grid rfl rfl

variable (D) in
/-- What preparation makes of the cell of a sample. -/
def prepareCell (surface : SurfaceView F) (normalValid : List UInt8)
    (orientation : NormalOrientationHint F) (direction : Vec3 F) (index : ℕ)
    (cell : PreparedCell F) : PreparedCell F :=
  if ¬ surface.isValidIndex index then cell
  else if normalValid.getD index 0 = 0 then { cell with reason := .normalMissing }
  else
    let oriented := orientNormal D orientation direction (surface.points.getD index default)
      cell.normal
    ⟨oriented.1, 1, .none, oriented.2⟩

theorem prepareIndex_cells (surface : SurfaceView F) (normalValid : List UInt8)
    (orientation : NormalOrientationHint F) (direction : Vec3 F) (state : PreparedCells F)
    (i w : ℕ) : (prepareIndex D surface normalValid orientation direction state i).cells[w]? =
      if w = i then
        (state.cells[w]?).map (prepareCell D surface normalValid orientation direction i)
      else state.cells[w]? := by
  have hset : ∀ v, v = prepareCell D surface normalValid orientation direction i
        (state.cells.getD i default) →
      (state.cells.set i v)[w]? = if w = i then
        (state.cells[w]?).map (prepareCell D surface normalValid orientation direction i)
        else state.cells[w]? := by
    rintro v rfl
    rw [getElem?_set_map]
    split_ifs with hw
    · subst hw
      rw [List.getD_eq_getElem?_getD]
      cases state.cells[w]? <;> rfl
    · rfl
  unfold prepareIndex
  dsimp only
  by_cases hv : surface.isValidIndex i = true
  · by_cases hz : normalValid.getD i 0 = 0
    · rw [if_neg (not_not.mpr hv), if_pos hz]
      exact hset _ (by rw [prepareCell, if_neg (not_not.mpr hv), if_pos hz])
    · rw [if_neg (not_not.mpr hv), if_neg hz]
      exact hset _ (by rw [prepareCell, if_neg (not_not.mpr hv), if_neg hz])
  · have hid : prepareCell D surface normalValid orientation direction i = id :=
      funext fun cell => if_pos hv
    rw [if_pos hv, hid]
    simp

theorem preparedCells_getElem? (h : s.Shaped) (normals : List (Vec3 F)) (normalValid : List UInt8)
    (orientation : NormalOrientationHint F) (w : ℕ) :
    (preparedCells D s normals normalValid orientation).cells[w]? =
      let start := (normals[w]?).map fun normal => (⟨normal, 0, .inputInvalid, 0⟩ : PreparedCell F)
      if w ∈ s.indices then
        start.map (prepareCell D s normalValid orientation (hintDirection D orientation) w)
      else start := by
  unfold preparedCells
  dsimp only
  rw [getElem?_foldl_cells PreparedCells.cells _ (prepareIndex_cells s normalValid orientation _)
    h.nodup, List.getElem?_map]

variable (D) in
/-- The normal of a slot and its flag: zero, or at length one for a valid sample. -/
inductive NormalSlot (surface : SurfaceView F) (w : ℕ) : Vec3 F → UInt8 → Prop where
  | empty : NormalSlot surface w default 0
  | short {value : Vec3 F} (hi : w ∈ surface.indices) (hv : surface.isValidIndex w = true)
      (hzero : ¬ (0 : D) < vectorLength (unitVector D value)) :
      NormalSlot surface w (unitVector D value) 0
  | unit {value : Vec3 F} (hi : w ∈ surface.indices) (hv : surface.isValidIndex w = true)
      (hlong : (0 : D) < vectorLength (unitVector D value) ∨
        ¬ (equal (unitVector D value).x 0 ∧ equal (unitVector D value).y 0 ∧
          equal (unitVector D value).z 0)) :
      NormalSlot surface w (unitVector D value) 1

/-- The normals of a surface have their slots, and so do their flags. -/
structure NormalSlots (D : Type) [FloatArith D] [Floats F D] (surface : SurfaceView F)
    (normals : List (Vec3 F)) (normalValid : List UInt8) : Prop where
  normals_length : normals.length = surface.storageSize
  valid_length : normalValid.length = surface.storageSize
  slot : ∀ w, NormalSlot D surface w (normals.getD w default) (normalValid.getD w 0)

theorem length_suppliedNormals : (suppliedNormals D s).length = s.storageSize := by
  unfold suppliedNormals
  apply List.foldlRecOn
    (motive := fun cells : List (Vec3 F × UInt8) => cells.length = s.storageSize)
  · exact List.length_replicate ..
  · intro cells hlength i _
    split_ifs
    · rw [List.length_set, hlength]
    · exact hlength

theorem suppliedNormals_getElem? (h : s.Shaped) {w : ℕ} (hw : w < s.storageSize) :
    (suppliedNormals D s)[w]? = some (if w ∈ s.indices ∧ s.isValidIndex w = true then
      suppliedNormal D (s.normals.getD w default) else (default, 0)) := by
  have hstep : ∀ (cells : List (Vec3 F × UInt8)) i w,
      (id (if ¬ s.isValidIndex i then cells
        else cells.set i (suppliedNormal D (s.normals.getD i default))))[w]? =
      if w = i then ((id cells)[w]?).map fun cell => if ¬ s.isValidIndex i then cell
        else suppliedNormal D (s.normals.getD i default) else (id cells)[w]? := by
    intro cells i w
    by_cases hv : s.isValidIndex i = true
    · simp only [id_eq, if_neg (not_not.mpr hv)]
      exact getElem?_set_map cells i w _
    · simp only [id_eq, if_pos hv, Option.map_id', ite_self]
  have hcell := getElem?_foldl_cells id _ hstep h.nodup
    (List.replicate s.storageSize (default, 0)) w
  change (suppliedNormals D s)[w]? = _ at hcell
  rw [hcell]
  by_cases hi : w ∈ s.indices <;> by_cases hv : s.isValidIndex w = true <;>
    simp [hi, hv, hw]

theorem suppliedNormals_slots (h : s.Shaped) :
    NormalSlots D s ((suppliedNormals D s).map Prod.fst) ((suppliedNormals D s).map Prod.snd) := by
  have hlength : (suppliedNormals D s).length = s.storageSize := length_suppliedNormals
  refine ⟨by rw [List.length_map, hlength], by rw [List.length_map, hlength], ?_⟩
  intro w
  rw [List.getD_eq_getElem?_getD, List.getD_eq_getElem?_getD, List.getElem?_map, List.getElem?_map]
  by_cases hw : w < s.storageSize
  · rw [suppliedNormals_getElem? h hw]
    simp only [Option.map_some, Option.getD_some]
    split_ifs with hiv
    · unfold suppliedNormal
      dsimp only
      split_ifs with hlong
      · exact .unit hiv.1 hiv.2 (.inl hlong)
      · exact .short hiv.1 hiv.2 hlong
    · exact .empty
  · rw [List.getElem?_eq_none (by omega)]
    exact .empty

theorem neighborhoodNormal_some {pcl : Pcl F D} {cloud : List (Vec3 F)} {minimumNeighbors : UInt32}
    {neighbors : List ℤ} {normal : Vec3 F}
    (h : neighborhoodNormal pcl cloud minimumNeighbors neighbors = some normal) :
    ∃ plane, normal = unitVector D plane ∧
      ¬ (equal normal.x 0 ∧ equal normal.y 0 ∧ equal normal.z 0) := by
  unfold neighborhoodNormal at h
  split_ifs at h
  cases hplane : pcl.computePointNormal cloud neighbors with
  | none =>
    rw [hplane] at h
    cases h
  | some plane =>
    rw [hplane] at h
    dsimp only at h
    split_ifs at h with hzero
    obtain rfl := Option.some.inj h
    exact ⟨plane, rfl, hzero⟩

theorem estimateNormals_slots (h : s.Shaped) {host : Host F D} {scheduler : Scheduler} {radius : D}
    {minimumNeighbors threads : UInt32} {estimated : EstimatedNormals F}
    (he : estimateNormals host scheduler s radius minimumNeighbors threads = .ok estimated) :
    NormalSlots D s estimated.normals estimated.valid := by
  have hself := estimateNormals_related (.refl h) host scheduler scheduler radius minimumNeighbors
    (Iff.refl (threads = 0))
  rw [he] at hself
  obtain ⟨hnormals, hvalid⟩ : SlotsAgree s s estimated.normals estimated.normals ∧
      SlotsAgree s s estimated.valid estimated.valid := by
    cases hself with
    | ok hagree => exact hagree
  refine ⟨hnormals.left, hvalid.left, ?_⟩
  intro w
  unfold estimateNormals at he
  dsimp only at he
  split_ifs at he with hempty
  · obtain rfl := Except.ok.inj he
    simp only [List.map_replicate, List.getD_eq_getElem?_getD, List.getElem?_replicate]
    split_ifs <;> exact .empty
  · rw [mapError_ok_iff] at he
    obtain ⟨cells, hcells, rfl⟩ := map_ok_iff.mp he
    dsimp only
    rw [show (default : Vec3 F) = ((default, 0) : Vec3 F × UInt8).1 from rfl, List.getD_map,
      show (0 : UInt8) = ((default, 0) : Vec3 F × UInt8).2 from rfl, List.getD_map]
    rcases h.parallelFor_slot (fun cell => estimateNormalsCode_writes cell host.pcl _ radius
        minimumNeighbors) hcells w with hstart | ⟨hi, hv, k, hk⟩
    · rw [hstart]
      exact .empty
    · unfold normalAt at hk
      obtain ⟨found, -, hnormal⟩ := map_ok_iff.mp hk
      obtain ⟨normal, hsome, hcell⟩ := Option.map_eq_some_iff.mp hnormal
      obtain ⟨plane, rfl, hlong⟩ := neighborhoodNormal_some hsome
      rw [← hcell]
      exact .unit hi hv (.inr hlong)

theorem availableNormals_slots (h : s.Shaped) {host : Host F D} {scheduler : Scheduler} {radius : D}
    {minimumNeighbors threads : UInt32} {arrays : List (Vec3 F) × List UInt8}
    (ha : availableNormals host scheduler s radius minimumNeighbors threads = .ok arrays) :
    NormalSlots D s arrays.1 arrays.2 := by
  unfold availableNormals at ha
  split_ifs at ha
  · obtain ⟨estimated, he, rfl⟩ := map_ok_iff.mp ha
    exact estimateNormals_slots h he
  · obtain rfl := Except.ok.inj ha
    exact suppliedNormals_slots h

/-- Normals with a length belong to valid samples, where they are marked usable. -/
def NormalsUsable (D : Type) [FloatArith D] [Floats F D] (surface : SurfaceView F)
    (normals : List (Vec3 F)) (normalValid : List UInt8) : Prop :=
  ∀ w, (0 : D) < vectorLength (normals.getD w default) →
    w ∈ surface.indices ∧ surface.isValidIndex w = true ∧ normalValid.getD w 0 ≠ 0

theorem not_lt_vectorLength_default [LawfulZero F D] :
    ¬ (0 : D) < vectorLength (default : Vec3 F) := by
  have hz : (default : Vec3 F) = ⟨0, 0, 0⟩ := rfl
  rw [hz, vectorLength, LawfulZero.widen_zero, LawfulZero.mul_zero_zero F,
    LawfulZero.add_zero_zero F, LawfulZero.add_zero_zero F, LawfulZero.sqrt_zero F]
  exact LawfulZero.not_lt_zero F

theorem NormalSlots.usable [LawfulZero F D] {normals : List (Vec3 F)} {normalValid : List UInt8}
    (h : NormalSlots D s normals normalValid) : NormalsUsable D s normals normalValid := by
  intro w hpos
  have hslot := h.slot w
  revert hpos hslot
  generalize normals.getD w default = normal
  generalize normalValid.getD w 0 = flag
  intro hpos hslot
  cases hslot with
  | empty => exact absurd hpos not_lt_vectorLength_default
  | short hi hv hzero => exact absurd hpos hzero
  | unit hi hv _ => exact ⟨hi, hv, by decide⟩

/-- A prepared surface has no normals outside its valid samples. -/
theorem prepareNormalsAndBoundaries_masked [LawfulZero F D] (h : s.Shaped) {host : Host F D}
    {scheduler : Scheduler} {normalRadius boundaryRadius : D} {minimumNeighbors threads : UInt32}
    {orientation : NormalOrientationHint F} {result : NormalBoundaryResult F}
    (hr : prepareNormalsAndBoundaries host scheduler s normalRadius minimumNeighbors boundaryRadius
      orientation threads = .ok result) : result.surface.view.NormalsMasked D := by
  intro w hpos
  have hlayout := prepareNormalsAndBoundaries_layout hr
  unfold prepareNormalsAndBoundaries at hr
  simp only [bind_ok_iff, pure, Except.pure, Except.ok.injEq] at hr
  obtain ⟨_, -, ⟨normals, normalValid⟩, ha, output, hcreate, boundary, -, rfl⟩ := hr
  have husable := (availableNormals_slots h ha).usable
  have hcell := preparedCells_getElem? (D := D) h normals normalValid orientation w
  dsimp only at hpos hlayout ⊢
  rw [← hlayout.indices]
  rw [OwnedSurface.view_of_create hcreate] at hpos ⊢
  change w ∈ s.indices ∧ maskValid _ w = true
  dsimp only at hpos
  rw [show (default : Vec3 F) = (default : PreparedCell F).normal from rfl, List.getD_map] at hpos
  have hn := husable w
  rw [List.getD_eq_getElem?_getD] at hpos hn
  cases hstart : normals[w]? with
  | none =>
    rw [hstart] at hcell
    rw [show (preparedCells D s normals normalValid orientation).cells[w]? = none by
      rw [hcell]; split_ifs <;> rfl] at hpos
    exact absurd hpos not_lt_vectorLength_default
  | some normal =>
    simp only [hstart, Option.map_some, Option.getD_some] at hcell hn
    by_cases hi : w ∈ s.indices
    · rw [if_pos hi] at hcell
      have hne : (preparedCells D s normals normalValid orientation).cells ≠ [] := by
        intro he
        rw [he] at hcell
        cases hcell
      rw [maskValid_cells hne, List.getD_eq_getElem?_getD, hcell, decide_eq_true_eq]
      rw [hcell] at hpos
      simp only [Option.getD_some] at hpos ⊢
      unfold prepareCell at hpos ⊢
      -- a cell that is left or marked as missing keeps its normal, which is then not usable
      split_ifs at hpos ⊢ with hv hz
      · exact absurd hz (hn hpos).2.2
      · exact ⟨hi, rfl⟩
      · exact absurd (hn hpos).2.1 hv
    · rw [if_neg hi] at hcell
      rw [hcell] at hpos
      exact absurd (hn hpos).1 hi

end PointcloudAd
