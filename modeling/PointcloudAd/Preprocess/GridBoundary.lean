import PointcloudAd.Backends.Exhaustive
import PointcloudAd.Preprocess.NormalBoundary

/-!
# Boundaries of a grid

The flags of a grid mark exactly the valid samples that miss a neighbour, or have one that is
masked or too far away. The detection reads and writes inside the storage only.
-/

namespace PointcloudAd

open Library

variable {F D : Type} [FloatArith F] [FloatArith D] [Floats F D]

/-- A neighbour at a row and a column that is not there, is masked, or is farther than the
radius. -/
def Separated (surface : SurfaceView F) (grid : GridTopology) (radius : D) (cell : ℕ × ℕ)
    (row column : ℤ) : Prop :=
  ¬ (0 ≤ row ∧ row < grid.height.toNat ∧ 0 ≤ column ∧ column < grid.width.toNat) ∨
    surface.isValidIndex (grid.index (row.toNat, column.toNat)) = false ∨
    radius < vectorLength (subFloat (surface.points.getD (grid.index cell) default)
      (surface.points.getD (grid.index (row.toNat, column.toNat)) default))

/-- A valid sample with a neighbour, one row or one column away, that is separated from it. -/
def OnGridBoundary (surface : SurfaceView F) (grid : GridTopology) (radius : D) (cell : ℕ × ℕ) :
    Prop :=
  surface.isValidIndex (grid.index cell) = true ∧
    ∃ row column : ℤ, |row - cell.1| + |column - cell.2| = 1 ∧
      Separated surface grid radius cell row column

section Flags

variable {surface : SurfaceView F} {grid : GridTopology} {radius : D}

theorem boundaryToward_iff {cell : ℕ × ℕ} {offset : ℤ × ℤ} :
    boundaryToward surface grid radius cell offset = true ↔
      Separated surface grid radius cell (cell.1 + offset.1) (cell.2 + offset.2) := by
  unfold boundaryToward Separated
  dsimp only
  by_cases hout : (cell.1 : ℤ) + offset.1 < 0 ∨ (cell.2 : ℤ) + offset.2 < 0 ∨
      (grid.height.toNat : ℤ) ≤ cell.1 + offset.1 ∨ (grid.width.toNat : ℤ) ≤ cell.2 + offset.2
  · rw [if_pos hout, iff_true_left rfl]
    exact .inl (by omega)
  · have hinside : 0 ≤ (cell.1 : ℤ) + offset.1 ∧ (cell.1 : ℤ) + offset.1 < grid.height.toNat ∧
        0 ≤ (cell.2 : ℤ) + offset.2 ∧ (cell.2 : ℤ) + offset.2 < grid.width.toNat := by
      omega
    rw [if_neg hout]
    cases hmask : surface.isValidIndex
        (grid.index ((cell.1 + offset.1 : ℤ).toNat, (cell.2 + offset.2 : ℤ).toNat)) with
    | false => simp
    | true => simp [hinside]

theorem mem_neighborOffsets {offset : ℤ × ℤ} :
    offset ∈ neighborOffsets ↔ |offset.1| + |offset.2| = 1 := by
  obtain ⟨row, column⟩ := offset
  simp only [neighborOffsets, List.mem_cons, List.not_mem_nil, or_false, Prod.mk.injEq]
  rcases abs_cases row with ⟨hr, _⟩ | ⟨hr, _⟩ <;>
    rcases abs_cases column with ⟨hc, _⟩ | ⟨hc, _⟩ <;> rw [hr, hc] <;> omega

theorem isGridBoundary_iff {cell : ℕ × ℕ} :
    isGridBoundary surface grid radius cell = true ↔ OnGridBoundary surface grid radius cell := by
  unfold isGridBoundary OnGridBoundary
  simp only [Bool.and_eq_true, List.any_eq_true, boundaryToward_iff]
  apply and_congr_right
  intro _
  constructor
  · rintro ⟨offset, hoffset, hseparated⟩
    refine ⟨_, _, ?_, hseparated⟩
    simpa using mem_neighborOffsets.mp hoffset
  · rintro ⟨row, column, hadjacent, hseparated⟩
    refine ⟨(row - cell.1, column - cell.2), mem_neighborOffsets.mpr hadjacent, ?_⟩
    simpa using hseparated

theorem getElem?_foldl_set_if {α β : Type} (f : α → ℕ) (p : α → Bool) (v : β) (l : List α)
    (flags : List β) (i : ℕ) :
    (l.foldl (fun flags a => if p a then flags.set (f a) v else flags) flags)[i]? =
      if l.any (fun a => p a && f a == i) then (flags[i]?).map fun _ => v else flags[i]? := by
  induction l generalizing flags with
  | nil => simp
  | cons a l ih =>
    rw [List.foldl_cons, ih, List.any_cons]
    cases hp : p a with
    | false => simp
    | true =>
      by_cases hi : f a = i
      · subst hi
        cases hl : flags[f a]? <;> simp [hl, List.getElem?_set_self']
      · simp [hi, List.getElem?_set_ne hi]

theorem length_detectGridBoundaries :
    (detectGridBoundaries surface grid radius).length = surface.storageSize := by
  unfold detectGridBoundaries
  refine List.foldlRecOn (motive := fun flags : List UInt8 => flags.length = surface.storageSize)
    _ _ (List.length_replicate ..) ?_
  intro flags hlength cell _
  split_ifs
  · rw [List.length_set, hlength]
  · exact hlength

theorem getElem?_detectGridBoundaries {i : ℕ} (hi : i < surface.storageSize) :
    (detectGridBoundaries surface grid radius)[i]? =
      some (if grid.cells.any fun cell =>
        isGridBoundary surface grid radius cell && grid.index cell == i then 1 else 0) := by
  unfold detectGridBoundaries
  rw [getElem?_foldl_set_if, List.getElem?_replicate, if_pos hi]
  split_ifs <;> rfl

theorem detectGridBoundaries_iff {i : ℕ} (hi : i < surface.storageSize) :
    (detectGridBoundaries surface grid radius)[i]? = some 1 ↔
      ∃ cell, cell.1 < grid.height.toNat ∧ cell.2 < grid.width.toNat ∧ grid.index cell = i ∧
        OnGridBoundary surface grid radius cell := by
  rw [getElem?_detectGridBoundaries hi]
  constructor
  · intro hflag
    split_ifs at hflag with hany
    · obtain ⟨cell, hcell, hp⟩ := List.any_eq_true.mp hany
      simp only [Bool.and_eq_true, beq_iff_eq] at hp
      obtain ⟨hrow, hcolumn⟩ := GridTopology.mem_cells.mp hcell
      exact ⟨cell, hrow, hcolumn, hp.2, isGridBoundary_iff.mp hp.1⟩
    · cases hflag
  · rintro ⟨cell, hrow, hcolumn, rfl, hboundary⟩
    rw [if_pos]
    rw [List.any_eq_true]
    refine ⟨cell, GridTopology.mem_cells.mpr ⟨hrow, hcolumn⟩, ?_⟩
    simp [isGridBoundary_iff.mpr hboundary]

end Flags

/-- A read of the mask; `none` is a read outside the storage. -/
def readMask (surface : SurfaceView F) (index : ℕ) : Option Bool :=
  if surface.valid.isEmpty then some true else (surface.valid[index]?).map (· = 1)

/-- The comparison with a neighbour, on reads of the storage. -/
def readToward (surface : SurfaceView F) (grid : GridTopology) (radius : D) (cell : ℕ × ℕ)
    (offset : ℤ × ℤ) : Option Bool :=
  let row : ℤ := cell.1 + offset.1
  let column : ℤ := cell.2 + offset.2
  if row < 0 ∨ column < 0 ∨ (grid.height.toNat : ℤ) ≤ row ∨ (grid.width.toNat : ℤ) ≤ column then
    some true
  else do
    let neighborIndex := grid.index (row.toNat, column.toNat)
    if ¬ (← readMask surface neighborIndex) then return true
    else
      let point ← surface.points[grid.index cell]?
      let neighbor ← surface.points[neighborIndex]?
      return radius < (vectorLength (subFloat point neighbor) : D)

/-- The flags of one sample: the loop over the neighbours stops at the first that is separated. -/
def writeBoundary (surface : SurfaceView F) (grid : GridTopology) (radius : D)
    (boundary : List UInt8) (cell : ℕ × ℕ) : Option (List UInt8) := do
  if ¬ (← readMask surface (grid.index cell)) then return boundary
  else if ← neighborOffsets.anyM (readToward surface grid radius cell) then
    if grid.index cell < boundary.length then return boundary.set (grid.index cell) 1 else none
  else return boundary

/-- The detection; `none` is an access outside the storage. -/
def detectGridBoundariesChecked (surface : SurfaceView F) (grid : GridTopology) (radius : D) :
    Option (List UInt8) :=
  grid.cells.foldlM (writeBoundary surface grid radius) (List.replicate surface.storageSize 0)

section Storage

variable {surface : SurfaceView F} {grid : GridTopology} {radius : D}

omit [FloatArith F] in
theorem readMask_eq (h : surface.Shaped) {index : ℕ} (hi : index < surface.storageSize) :
    readMask surface index = some (surface.isValidIndex index) := by
  unfold readMask SurfaceView.isValidIndex maskValid
  rcases h.valid with hv | hv
  · simp [hv]
  · have hlt : index < surface.valid.length := hv ▸ hi
    have hne : surface.valid.isEmpty = false := by
      rw [List.isEmpty_eq_false_iff]
      intro he
      rw [he] at hlt
      exact Nat.not_lt_zero _ hlt
    rw [hne, List.getElem?_eq_getElem hlt, List.getD_eq_getElem _ _ hlt]
    simp

omit [FloatArith F] in
theorem index_lt_storage (h : surface.Shaped) (hgrid : surface.grid = some grid) {cell : ℕ × ℕ}
    (hcell : cell ∈ grid.cells) : grid.index cell < surface.storageSize := by
  apply (h.gridFits hgrid).1.mem_logicalIndices
  rw [grid.logicalIndices_eq]
  exact List.mem_map_of_mem hcell

theorem readToward_eq (h : surface.Shaped) (hgrid : surface.grid = some grid) {cell : ℕ × ℕ}
    (hcell : cell ∈ grid.cells) (offset : ℤ × ℤ) :
    readToward surface grid radius cell offset =
      some (boundaryToward surface grid radius cell offset) := by
  unfold readToward boundaryToward
  dsimp only
  by_cases hout : (cell.1 : ℤ) + offset.1 < 0 ∨ (cell.2 : ℤ) + offset.2 < 0 ∨
      (grid.height.toNat : ℤ) ≤ cell.1 + offset.1 ∨ (grid.width.toNat : ℤ) ≤ cell.2 + offset.2
  · rw [if_pos hout, if_pos hout]
  · have hneighbor : ((cell.1 + offset.1 : ℤ).toNat, (cell.2 + offset.2 : ℤ).toNat) ∈
        grid.cells := by
      rw [GridTopology.mem_cells]
      omega
    have hpoint := index_lt_storage h hgrid hcell
    have hother := index_lt_storage h hgrid hneighbor
    rw [if_neg hout, if_neg hout, readMask_eq h hother]
    unfold SurfaceView.storageSize at hpoint hother
    rw [List.getElem?_eq_getElem hpoint, List.getElem?_eq_getElem hother,
      List.getD_eq_getElem _ _ hpoint, List.getD_eq_getElem _ _ hother]
    cases surface.isValidIndex
      (grid.index ((cell.1 + offset.1 : ℤ).toNat, (cell.2 + offset.2 : ℤ).toNat)) <;> rfl

theorem anyM_eq_some {α : Type} {f : α → Option Bool} {p : α → Bool} {l : List α}
    (h : ∀ a ∈ l, f a = some (p a)) : l.anyM f = some (l.any p) := by
  induction l with
  | nil => rfl
  | cons a l ih =>
    rw [List.anyM, h a (by simp), List.any_cons]
    cases hp : p a with
    | false => simpa using ih fun b hb => h b (by simp [hb])
    | true => rfl

theorem writeBoundary_eq (h : surface.Shaped) (hgrid : surface.grid = some grid)
    {boundary : List UInt8} (hlength : boundary.length = surface.storageSize) {cell : ℕ × ℕ}
    (hcell : cell ∈ grid.cells) :
    writeBoundary surface grid radius boundary cell =
      some (if isGridBoundary surface grid radius cell then boundary.set (grid.index cell) 1
        else boundary) := by
  have hlt := index_lt_storage h hgrid hcell
  unfold writeBoundary isGridBoundary
  rw [readMask_eq h hlt, anyM_eq_some fun offset _ => readToward_eq h hgrid hcell offset,
    if_pos (hlength ▸ hlt)]
  cases surface.isValidIndex (grid.index cell) <;>
    cases neighborOffsets.any (boundaryToward surface grid radius cell) <;> rfl

theorem foldlM_writeBoundary (h : surface.Shaped) (hgrid : surface.grid = some grid)
    {cells : List (ℕ × ℕ)} (hcells : ∀ cell ∈ cells, cell ∈ grid.cells) {boundary : List UInt8}
    (hlength : boundary.length = surface.storageSize) :
    cells.foldlM (writeBoundary surface grid radius) boundary =
      some (cells.foldl (fun boundary cell =>
        if isGridBoundary surface grid radius cell then boundary.set (grid.index cell) 1
        else boundary) boundary) := by
  induction cells generalizing boundary with
  | nil => rfl
  | cons cell cells ih =>
    rw [List.foldlM_cons, writeBoundary_eq h hgrid hlength (hcells cell (by simp)), List.foldl_cons]
    apply ih
    · intro other hother
      exact hcells other (by simp [hother])
    · split_ifs
      · rw [List.length_set, hlength]
      · exact hlength

theorem detectGridBoundariesChecked_eq (h : surface.Shaped) (hgrid : surface.grid = some grid) :
    detectGridBoundariesChecked surface grid radius =
      some (detectGridBoundaries surface grid radius) :=
  foldlM_writeBoundary h hgrid (fun _ hcell => hcell) (List.length_replicate ..)

end Storage

theorem vectorLength_subFloat_comm [MirroredDifferences F D] (left right : Vec3 F) :
    (vectorLength (subFloat left right) : D) = vectorLength (subFloat right left) := by
  unfold vectorLength subFloat
  dsimp only
  rw [MirroredDifferences.mirror left.x, MirroredDifferences.mirror left.y,
    MirroredDifferences.mirror left.z]

section Exactness

variable {surface : SurfaceView F} {grid : GridTopology} {radius : D}

theorem onGridBoundary_of_far {cell neighbor : ℕ × ℕ}
    (hvalid : surface.isValidIndex (grid.index cell) = true)
    (hadjacent : |(neighbor.1 : ℤ) - cell.1| + |(neighbor.2 : ℤ) - cell.2| = 1)
    (hfar : radius < vectorLength (subFloat (surface.points.getD (grid.index cell) default)
      (surface.points.getD (grid.index neighbor) default))) :
    OnGridBoundary surface grid radius cell :=
  ⟨hvalid, neighbor.1, neighbor.2, hadjacent, .inr (.inr hfar)⟩

/-- What the flags of a grid say. -/
structure GridBoundaryExact (surface : SurfaceView F) (grid : GridTopology) (radius : D)
    (flags : List UInt8) : Prop where
  length : flags.length = surface.storageSize
  flag : ∀ i < surface.storageSize, flags[i]? = some 0 ∨ flags[i]? = some 1
  flagged : ∀ i < surface.storageSize, flags[i]? = some 1 ↔
    ∃ cell, cell.1 < grid.height.toNat ∧ cell.2 < grid.width.toNat ∧ grid.index cell = i ∧
      OnGridBoundary surface grid radius cell
  padding : ∀ i < surface.storageSize, i ∉ surface.indices → flags[i]? = some 0
  symmetric : ∀ cell neighbor, cell.1 < grid.height.toNat → cell.2 < grid.width.toNat →
    neighbor.1 < grid.height.toNat → neighbor.2 < grid.width.toNat →
    |(neighbor.1 : ℤ) - cell.1| + |(neighbor.2 : ℤ) - cell.2| = 1 →
    surface.isValidIndex (grid.index cell) = true →
    surface.isValidIndex (grid.index neighbor) = true →
    radius < vectorLength (subFloat (surface.points.getD (grid.index cell) default)
      (surface.points.getD (grid.index neighbor) default)) →
    flags[grid.index cell]? = some 1 ∧ flags[grid.index neighbor]? = some 1

/-- For every organized surface and radius: the accesses of the detection stay in the storage, and
its flags are exact and symmetric. -/
theorem detectGridBoundaries_exact [MirroredDifferences F D] (surface : SurfaceView F)
    (h : surface.Shaped) (grid : GridTopology) (hgrid : surface.grid = some grid) (radius : D) :
    detectGridBoundariesChecked surface grid radius =
        some (detectGridBoundaries surface grid radius) ∧
      GridBoundaryExact surface grid radius (detectGridBoundaries surface grid radius) := by
  have hflag : ∀ i < surface.storageSize,
      (detectGridBoundaries surface grid radius)[i]? = some 0 ∨
        (detectGridBoundaries surface grid radius)[i]? = some 1 := by
    intro i hi
    rw [getElem?_detectGridBoundaries hi]
    split_ifs
    · exact .inr rfl
    · exact .inl rfl
  refine ⟨detectGridBoundariesChecked_eq h hgrid, ⟨length_detectGridBoundaries, hflag,
    fun i hi => detectGridBoundaries_iff hi, ?_, ?_⟩⟩
  · intro i hi hpadding
    apply (hflag i hi).resolve_right
    intro hone
    obtain ⟨cell, hrow, hcolumn, rfl, -⟩ := (detectGridBoundaries_iff hi).mp hone
    apply hpadding
    rw [SurfaceView.indices, hgrid, logicalIndices, grid.logicalIndices_eq]
    exact List.mem_map_of_mem (GridTopology.mem_cells.mpr ⟨hrow, hcolumn⟩)
  · intro cell neighbor hrow hcolumn hrow' hcolumn' hadjacent hvalid hvalid' hfar
    have hcell := index_lt_storage h hgrid (GridTopology.mem_cells.mpr ⟨hrow, hcolumn⟩)
    have hneighbor := index_lt_storage h hgrid (GridTopology.mem_cells.mpr ⟨hrow', hcolumn'⟩)
    have hback : |(cell.1 : ℤ) - neighbor.1| + |(cell.2 : ℤ) - neighbor.2| = 1 := by
      rw [abs_sub_comm, abs_sub_comm (cell.2 : ℤ)]
      exact hadjacent
    have hfar' := hfar
    rw [vectorLength_subFloat_comm] at hfar'
    exact ⟨(detectGridBoundaries_iff hcell).mpr
        ⟨cell, hrow, hcolumn, rfl, onGridBoundary_of_far hvalid hadjacent hfar⟩,
      (detectGridBoundaries_iff hneighbor).mpr
        ⟨neighbor, hrow', hcolumn', rfl, onGridBoundary_of_far hvalid' hback hfar'⟩⟩

end Exactness

/-- Four rows of five samples, a slot after each row but the last. The sample at (2, 1) is raised,
and that at (1, 4) masked out. -/
def raisedGrid : SurfaceView (Exact ℚ) where
  points := (List.range 23).map fun i : ℕ =>
    exactPoint (i % 6 : ℕ) (i / 6 : ℕ) (if i = 13 then 4 / 3 else 0)
  normals := []
  valid := (List.range 23).map fun i => if i = 10 then 0 else 1
  grid := some ⟨5, 4, 6⟩
  unit := .millimeter
  frame := exactFrame
  logicalSize := 20

/-- The edges, the neighbours of the masked sample, and the raised one with its neighbours. -/
def raisedFlags : List UInt8 :=
  [1, 1, 1, 1, 1, 0, 1, 1, 0, 1, 0, 0, 1, 1, 1, 0, 1, 0, 1, 1, 1, 1, 1]

theorem detectGridBoundaries_exact_raised :
    detectGridBoundariesChecked raisedGrid ⟨5, 4, 6⟩ (.fin (3 / 2) : Exact ℚ) = some raisedFlags ∧
      GridBoundaryExact raisedGrid ⟨5, 4, 6⟩ (.fin (3 / 2) : Exact ℚ) raisedFlags := by
  have hshaped : raisedGrid.Shaped := (validateSurfaceData_ok rfl _ _).1
  have hflags : detectGridBoundaries raisedGrid ⟨5, 4, 6⟩ (.fin (3 / 2) : Exact ℚ) = raisedFlags := by
    decide +kernel
  rw [← hflags]
  exact detectGridBoundaries_exact raisedGrid hshaped ⟨5, 4, 6⟩ rfl (.fin (3 / 2) : Exact ℚ)

end PointcloudAd
