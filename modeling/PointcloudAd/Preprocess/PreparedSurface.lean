import PointcloudAd.Preprocess.GridBoundary
import PointcloudAd.Preprocess.RealVectors

/-!
# Prepared surfaces

What preparation leaves for every sample of a surface: its mask and its reason, its normal and its
flags. Without rounding, a prepared surface prepares to itself.
-/

namespace PointcloudAd

open Library Registration

variable {F D : Type} [FloatArith F] [FloatArith D] [Floats F D]

section Available

variable {s : SurfaceView F}

/-- A normal that is not zero is supplied for a sample, or estimated where none are supplied. -/
def NormalAvailable (host : Host F D) (scheduler : Scheduler) (surface : SurfaceView F) (radius : D)
    (minimumNeighbors threads : UInt32) (index : ℕ) : Prop :=
  (surface.normals ≠ [] ∧
      (0 : D) < vectorLength (unitVector D (surface.normals.getD index default))) ∨
    (surface.normals = [] ∧ ∃ estimated,
      estimateNormals host scheduler surface radius minimumNeighbors threads = .ok estimated ∧
        estimated.valid.getD index 0 ≠ 0)

theorem availableNormals_flag (h : s.Shaped) {host : Host F D} {scheduler : Scheduler} {radius : D}
    {minimumNeighbors threads : UInt32} {arrays : List (Vec3 F) × List UInt8}
    (ha : availableNormals host scheduler s radius minimumNeighbors threads = .ok arrays) {i : ℕ}
    (hi : i ∈ s.indices) (hv : s.isValidIndex i = true) :
    arrays.2.getD i 0 ≠ 0 ↔
      NormalAvailable host scheduler s radius minimumNeighbors threads i := by
  unfold availableNormals at ha
  unfold NormalAvailable
  split_ifs at ha with hnormals
  · obtain ⟨estimated, he, rfl⟩ := map_ok_iff.mp ha
    simp [hnormals, he]
  · obtain rfl := Except.ok.inj ha
    dsimp only
    rw [List.getD_eq_getElem?_getD, List.getElem?_map, suppliedNormals_getElem? h (h.lt hi),
      if_pos ⟨hi, hv⟩]
    simp [suppliedNormal, hnormals]

end Available

section Loop

variable {s : SurfaceView F} {normals : List (Vec3 F)} {normalValid : List UInt8}
  {orientation : NormalOrientationHint F}

variable (D) in
/-- Whether a hint fixes the sign of the normal of a point. -/
def orientationFlag (orientation : NormalOrientationHint F) (point : Vec3 F) : UInt8 :=
  match orientation.mode with
  | .unproven => 0
  | .alignDirection => 1
  | .towardViewpoint =>
    if (0 : D) < vectorLength (subFloat orientation.value point) then 1 else 0

variable (D) in
/-- What a hint turns the normal of a point to. -/
def orientationTarget (orientation : NormalOrientationHint F) (point : Vec3 F) : Vec3 F :=
  match orientation.mode with
  | .unproven => default
  | .alignDirection => unitVector D orientation.value
  | .towardViewpoint => subFloat orientation.value point

theorem orientationFlag_bit (orientation : NormalOrientationHint F) (point : Vec3 F) :
    orientationFlag D orientation point = 0 ∨ orientationFlag D orientation point = 1 := by
  unfold orientationFlag
  cases orientation.mode with
  | unproven => exact .inl rfl
  | alignDirection => exact .inr rfl
  | towardViewpoint =>
    dsimp only
    split_ifs
    · exact .inr rfl
    · exact .inl rfl

theorem orientNormal_eq (point normal : Vec3 F) :
    orientNormal D orientation (hintDirection D orientation) point normal =
      (if orientationFlag D orientation point = 1 ∧
          (dotFloat normal (orientationTarget D orientation point) : D) < 0 then normal.negate
        else normal, orientationFlag D orientation point) := by
  unfold orientNormal orientationFlag orientationTarget hintDirection
  cases hmode : orientation.mode with
  | unproven => simp
  | alignDirection => simp
  | towardViewpoint =>
    dsimp only
    by_cases hfar : (0 : D) < vectorLength (subFloat orientation.value point)
    · simp [hfar]
    · simp [hfar]

/-- What the loop leaves for a slot: a sample that is not valid, one without a normal, or one that
is kept. -/
inductive PreparedSlot (D : Type) [FloatArith D] [Floats F D] (surface : SurfaceView F)
    (normals : List (Vec3 F)) (normalValid : List UInt8) (orientation : NormalOrientationHint F)
    (w : ℕ) : PreparedCell F → Prop
  | invalid (h : ¬ (w ∈ surface.indices ∧ surface.isValidIndex w = true)) :
      PreparedSlot D surface normals normalValid orientation w
        ⟨normals.getD w default, 0, .inputInvalid, 0⟩
  | missing (hi : w ∈ surface.indices) (hv : surface.isValidIndex w = true)
      (hz : normalValid.getD w 0 = 0) :
      PreparedSlot D surface normals normalValid orientation w
        ⟨normals.getD w default, 0, .normalMissing, 0⟩
  | kept (hi : w ∈ surface.indices) (hv : surface.isValidIndex w = true)
      (hz : normalValid.getD w 0 ≠ 0) :
      PreparedSlot D surface normals normalValid orientation w
        ⟨(orientNormal D orientation (hintDirection D orientation)
            (surface.points.getD w default) (normals.getD w default)).1, 1, .none,
          orientationFlag D orientation (surface.points.getD w default)⟩

variable (normalValid orientation) in
theorem preparedCells_slot (h : s.Shaped) (hlength : normals.length = s.storageSize) {w : ℕ}
    (hw : w < s.storageSize) :
    ∃ cell, (preparedCells D s normals normalValid orientation).cells[w]? = some cell ∧
      PreparedSlot D s normals normalValid orientation w cell := by
  have hget : normals[w]? = some (normals.getD w default) := by
    rw [List.getElem?_eq_getElem (hlength.symm ▸ hw), List.getD_eq_getElem]
  rw [preparedCells_getElem? h, hget]
  dsimp only [Option.map_some]
  by_cases hi : w ∈ s.indices
  · rw [if_pos hi]
    refine ⟨_, rfl, ?_⟩
    unfold prepareCell
    by_cases hv : s.isValidIndex w = true
    · by_cases hz : normalValid.getD w 0 = 0
      · rw [if_neg (not_not.mpr hv), if_pos hz]
        exact .missing hi hv hz
      · have hflag : (orientNormal D orientation (hintDirection D orientation)
            (s.points.getD w default) (normals.getD w default)).2 =
            orientationFlag D orientation (s.points.getD w default) := by
          rw [orientNormal_eq]
        rw [if_neg (not_not.mpr hv), if_neg hz]
        dsimp only
        rw [hflag]
        exact .kept hi hv hz
    · rw [if_pos hv]
      exact .invalid fun hiv => hv hiv.2
  · rw [if_neg hi]
    exact ⟨_, rfl, .invalid fun hiv => hi hiv.1⟩

theorem length_preparedCells :
    (preparedCells D s normals normalValid orientation).cells.length = normals.length := by
  unfold preparedCells
  apply List.foldlRecOn
    (motive := fun state : PreparedCells F => state.cells.length = normals.length)
  · exact List.length_map _
  · intro state hlength i _
    unfold prepareIndex
    dsimp only
    split_ifs
    · rw [List.length_set, hlength]
    · rw [List.length_set, hlength]
    · exact hlength

section Counters

variable (s normalValid orientation)

/-- The samples that the loop counts. -/
def counted (i : ℕ) : Bool := s.isValidIndex i && normalValid.getD i 0 != 0

theorem prepareIndex_counts (state : PreparedCells F) (i : ℕ) :
    (prepareIndex D s normalValid orientation (hintDirection D orientation) state
        i).validNormalCount =
        state.validNormalCount + (if counted s normalValid i = true then 1 else 0) ∧
      (prepareIndex D s normalValid orientation (hintDirection D orientation) state
        i).orientedCount = state.orientedCount + (if (counted s normalValid i &&
          orientationFlag D orientation (s.points.getD i default) == 1) = true then 1 else 0) := by
  unfold prepareIndex counted
  dsimp only
  by_cases hv : s.isValidIndex i = true
  · rw [if_neg (not_not.mpr hv), hv, Bool.true_and]
    by_cases hz : normalValid.getD i 0 = 0
    · rw [if_pos hz, hz]
      exact ⟨rfl, rfl⟩
    · have hne : (normalValid.getD i 0 != 0) = true := bne_iff_ne.mpr hz
      rw [if_neg hz, hne, Bool.true_and, orientNormal_eq]
      rcases orientationFlag_bit (D := D) orientation (s.points.getD i default)
        with hflag | hflag <;> rw [hflag] <;> exact ⟨rfl, rfl⟩
  · rw [if_pos hv, Bool.eq_false_of_not_eq_true hv]
    exact ⟨rfl, rfl⟩

theorem foldl_prepareIndex_counts (l : List ℕ) (state : PreparedCells F) :
    (l.foldl (prepareIndex D s normalValid orientation (hintDirection D orientation))
        state).validNormalCount = state.validNormalCount + l.countP (counted s normalValid) ∧
      (l.foldl (prepareIndex D s normalValid orientation (hintDirection D orientation))
        state).orientedCount = state.orientedCount + l.countP fun i => counted s normalValid i &&
          orientationFlag D orientation (s.points.getD i default) == 1 := by
  induction l generalizing state with
  | nil => simp
  | cons i l ih =>
    obtain ⟨hvalid, horiented⟩ := ih (prepareIndex D s normalValid orientation
      (hintDirection D orientation) state i)
    obtain ⟨hstep, hstep'⟩ := prepareIndex_counts (D := D) s normalValid orientation state i
    rw [List.foldl_cons, hvalid, horiented, hstep, hstep', List.countP_cons, List.countP_cons]
    constructor <;> omega

end Counters

theorem countP_and_eq {α : Type} (p q : α → Bool) (l : List α) :
    l.countP (fun a => p a && q a) = l.countP p ↔ ∀ a ∈ l, p a = true → q a = true := by
  induction l with
  | nil => simp
  | cons a l ih =>
    have hle : l.countP (fun a => p a && q a) ≤ l.countP p :=
      List.countP_mono_left fun b _ hb => by
        rw [Bool.and_eq_true] at hb
        exact hb.1
    rw [List.countP_cons, List.countP_cons, List.forall_mem_cons, ← ih]
    cases p a <;> cases q a <;> simp
    omega

theorem orientationProven_iff :
    (0 < (preparedCells D s normals normalValid orientation).validNormalCount ∧
      (preparedCells D s normals normalValid orientation).orientedCount =
        (preparedCells D s normals normalValid orientation).validNormalCount) ↔
      (∃ i ∈ s.indices, counted s normalValid i = true) ∧ ∀ i ∈ s.indices,
        counted s normalValid i = true →
          orientationFlag D orientation (s.points.getD i default) = 1 := by
  obtain ⟨hvalid, horiented⟩ := foldl_prepareIndex_counts (D := D) s normalValid orientation
    s.indices ⟨normals.map fun normal => ⟨normal, 0, .inputInvalid, 0⟩, 0, 0⟩
  unfold preparedCells
  rw [hvalid, horiented, Nat.zero_add, Nat.zero_add, List.countP_pos_iff, countP_and_eq]
  simp

end Loop

theorem detectBoundaries_flags {s : SurfaceView F} (h : s.Shaped) {host : Host F D}
    {scheduler : Scheduler} {radius : D} {threads : UInt32} {flags : List UInt8}
    (hb : detectBoundaries host scheduler s radius threads = .ok flags) :
    flags.length = s.storageSize ∧ ∀ w, flags.getD w 0 = 0 ∨ s.isValidIndex w = true := by
  have hself := detectBoundaries_related (.refl h) host scheduler scheduler radius
    (Iff.refl (threads = 0))
  rw [hb] at hself
  have hlength : flags.length = s.storageSize := by
    cases hself with
    | ok hagree => exact hagree.left
  refine ⟨hlength, ?_⟩
  intro w
  unfold detectBoundaries at hb
  cases hg : s.grid with
  | none =>
    rw [hg] at hb
    dsimp only at hb
    unfold detectUnorganizedBoundaries at hb
    dsimp only at hb
    split_ifs at hb
    · obtain rfl := Except.ok.inj hb
      left
      rw [List.getD_eq_getElem?_getD, List.getElem?_replicate]
      split_ifs <;> rfl
    · rw [mapError_ok_iff] at hb
      rcases h.parallelFor_slot (fun cell => detectBoundariesCode_writes cell host.pcl _ _ radius)
        hb w with hstart | ⟨-, hv, -⟩
      · exact .inl hstart
      · exact .inr hv
  | some grid =>
    rw [hg] at hb
    obtain rfl := Except.ok.inj hb
    by_cases hw : w < s.storageSize
    · rw [List.getD_eq_getElem?_getD, getElem?_detectGridBoundaries hw]
      split_ifs with hany
      · right
        obtain ⟨cell, -, hcell⟩ := List.any_eq_true.mp hany
        rw [Bool.and_eq_true, beq_iff_eq] at hcell
        rw [← hcell.2]
        exact (isGridBoundary_iff.mp hcell.1).1
      · exact .inl rfl
    · left
      rw [List.getD_eq_getElem?_getD, List.getElem?_eq_none (by omega)]
      rfl

section Results

variable {s : SurfaceView F} {host : Host F D} {scheduler : Scheduler}
  {normalRadius boundaryRadius : D} {minimumNeighbors threads : UInt32}
  {orientation : NormalOrientationHint F} {normals : List (Vec3 F)} {normalValid : List UInt8}
  {result : NormalBoundaryResult F}

/-- A result put together from the cells that the loop leaves. -/
structure Assembled (host : Host F D) (scheduler : Scheduler) (surface : SurfaceView F)
    (boundaryRadius : D) (orientation : NormalOrientationHint F) (threads : UInt32)
    (prepared : PreparedCells F) (result : NormalBoundaryResult F) : Prop where
  create : OwnedSurface.create surface.points (prepared.cells.map PreparedCell.normal)
    (prepared.cells.map PreparedCell.mask) surface.grid surface.unit surface.frame =
      .ok result.surface
  boundary : detectBoundaries host scheduler result.surface.view boundaryRadius threads =
    .ok result.boundary
  reasons : result.reasons = prepared.cells.map PreparedCell.reason
  orientationValid : result.orientationValid = prepared.cells.map PreparedCell.orientationValid
  proven : result.orientationProven = (decide (0 < prepared.validNormalCount) &&
    decide (prepared.orientedCount = prepared.validNormalCount))

theorem prepareNormalsAndBoundaries_iff :
    prepareNormalsAndBoundaries host scheduler s normalRadius minimumNeighbors boundaryRadius
        orientation threads = .ok result ↔
      checkPreparation s normalRadius minimumNeighbors boundaryRadius orientation threads = .ok () ∧
        ∃ normals normalValid, availableNormals host scheduler s normalRadius minimumNeighbors
          threads = .ok (normals, normalValid) ∧
          Assembled host scheduler s boundaryRadius orientation threads
            (preparedCells D s normals normalValid orientation) result := by
  unfold prepareNormalsAndBoundaries
  simp only [bind_ok_iff, pure, Except.pure, Except.ok.injEq]
  constructor
  · rintro ⟨_, hcheck, ⟨normals, normalValid⟩, ha, output, hcreate, boundary, hboundary, rfl⟩
    exact ⟨hcheck, normals, normalValid, ha, hcreate, hboundary, rfl, rfl, rfl⟩
  · rintro ⟨hcheck, normals, normalValid, ha, hcreate, hboundary, hreasons, horiented, hproven⟩
    refine ⟨(), hcheck, (normals, normalValid), ha, _, hcreate, _, hboundary, ?_⟩
    cases result
    simp_all

/-- The entries of a result at a slot. -/
structure ResultSlot (result : NormalBoundaryResult F) (w : ℕ) (cell : PreparedCell F) : Prop where
  normal : result.surface.view.normals[w]? = some cell.normal
  mask : result.surface.view.valid[w]? = some cell.mask
  reason : result.reasons[w]? = some cell.reason
  oriented : result.orientationValid[w]? = some cell.orientationValid

/-- A slot of a result is valid where its mask is set. -/
theorem ResultSlot.isValidIndex {w : ℕ} {cell : PreparedCell F} (h : ResultSlot result w cell) :
    result.surface.view.isValidIndex w = decide (cell.mask = 1) := by
  have hmask := h.mask
  unfold SurfaceView.isValidIndex maskValid
  rw [List.getD_eq_getElem?_getD, hmask]
  cases hl : result.surface.view.valid with
  | nil =>
    rw [hl] at hmask
    cases hmask
  | cons bit bits => rfl

namespace Assembled

variable {prepared : PreparedCells F}

theorem view (h : Assembled host scheduler s boundaryRadius orientation threads prepared result) :
    result.surface.view = ⟨s.points, prepared.cells.map PreparedCell.normal,
      prepared.cells.map PreparedCell.mask, s.grid, s.unit, s.frame, result.surface.logicalSize⟩ :=
  OwnedSurface.view_of_create h.create

theorem slot (h : Assembled host scheduler s boundaryRadius orientation threads prepared result)
    {w : ℕ} {cell : PreparedCell F} (hcell : prepared.cells[w]? = some cell) :
    ResultSlot result w cell := by
  constructor
  · rw [h.view, List.getElem?_map, hcell]
    rfl
  · rw [h.view, List.getElem?_map, hcell]
    rfl
  · rw [h.reasons, List.getElem?_map, hcell]
    rfl
  · rw [h.orientationValid, List.getElem?_map, hcell]
    rfl

theorem exists_slot (hs : s.Shaped) (hlength : normals.length = s.storageSize)
    (h : Assembled host scheduler s boundaryRadius orientation threads
      (preparedCells D s normals normalValid orientation) result) {w : ℕ} (hw : w < s.storageSize) :
    ∃ cell, ResultSlot result w cell ∧
      PreparedSlot D s normals normalValid orientation w cell := by
  obtain ⟨cell, hcell, hslot⟩ := preparedCells_slot (D := D) normalValid orientation hs hlength hw
  exact ⟨cell, h.slot hcell, hslot⟩

end Assembled

theorem not_dotFloat_turned_lt [OrderedFloat D] [MirroredSums F D] {point : Vec3 F}
    (hflag : orientationFlag D orientation point = 1) (normal : Vec3 F) :
    ¬ (dotFloat (orientNormal D orientation (hintDirection D orientation) point normal).1
      (orientationTarget D orientation point) : D) < 0 := by
  rw [orientNormal_eq]
  dsimp only
  split_ifs with hturned
  · intro hneg
    have hpos : (0 : D) < dotFloat normal.negate (orientationTarget D orientation point) := by
      have hmirror := MirroredSums.sum_neg (F := F) hturned.2
      simpa only [dotFloat, Vec3.negate, MirroredSums.widen_neg,
        MirroredSums.neg_mul F] using hmirror
    rw [OrderedFloat.lt_iff] at hneg hpos
    exact hneg.2 hpos.1
  · intro hneg
    exact hturned ⟨hflag, hneg⟩

namespace PreparedSlot

variable {available : ℕ → Prop} {i : ℕ} {cell : PreparedCell F}

theorem mask_iff (hc : PreparedSlot D s normals normalValid orientation i cell)
    (hr : ResultSlot result i cell) :
    result.surface.view.valid[i]? = some 1 ↔ result.reasons[i]? = some .none := by
  rw [hr.mask, hr.reason]
  cases hc <;> simp

theorem none_iff (hc : PreparedSlot D s normals normalValid orientation i cell)
    (hr : ResultSlot result i cell) (hi : i ∈ s.indices)
    (hflag : s.isValidIndex i = true → (normalValid.getD i 0 ≠ 0 ↔ available i)) :
    result.reasons[i]? = some .none ↔ s.isValidIndex i = true ∧ available i := by
  rw [hr.reason]
  cases hc with
  | invalid hn =>
    have hv : ¬ s.isValidIndex i = true := fun hv => hn ⟨hi, hv⟩
    simp [hv]
  | missing _ hv hz =>
    have hno := (hflag hv).not.mp (not_not.mpr hz)
    simp [hno]
  | kept _ hv hz =>
    have hyes := (hflag hv).mp hz
    simp [hv, hyes]

theorem missing_iff (hc : PreparedSlot D s normals normalValid orientation i cell)
    (hr : ResultSlot result i cell) (hi : i ∈ s.indices)
    (hflag : s.isValidIndex i = true → (normalValid.getD i 0 ≠ 0 ↔ available i)) :
    result.reasons[i]? = some .normalMissing ↔ s.isValidIndex i = true ∧ ¬ available i := by
  rw [hr.reason]
  cases hc with
  | invalid hn =>
    have hv : ¬ s.isValidIndex i = true := fun hv => hn ⟨hi, hv⟩
    simp [hv]
  | missing _ hv hz =>
    have hno := (hflag hv).not.mp (not_not.mpr hz)
    simp [hv, hno]
  | kept _ hv hz =>
    have hyes := (hflag hv).mp hz
    simp [hyes]

theorem unmasked (hc : PreparedSlot D s normals normalValid orientation i cell)
    (hr : ResultSlot result i cell) (hmissing : result.reasons[i]? = some .normalMissing) :
    result.surface.view.valid[i]? = some 0 := by
  rw [hr.reason] at hmissing
  rw [hr.mask]
  cases hc with
  | invalid => rfl
  | missing => rfl
  | kept => simp at hmissing

theorem input_invalid (hc : PreparedSlot D s normals normalValid orientation i cell)
    (hr : ResultSlot result i cell) (hn : ¬ (i ∈ s.indices ∧ s.isValidIndex i = true)) :
    result.surface.view.valid[i]? = some 0 ∧ result.reasons[i]? = some .inputInvalid := by
  rw [hr.mask, hr.reason]
  cases hc with
  | invalid => exact ⟨rfl, rfl⟩
  | missing hi hv _ => exact absurd ⟨hi, hv⟩ hn
  | kept hi hv _ => exact absurd ⟨hi, hv⟩ hn

theorem oriented (hc : PreparedSlot D s normals normalValid orientation i cell)
    (hr : ResultSlot result i cell) :
    result.orientationValid[i]? = some 0 ∨ result.orientationValid[i]? = some 1 ∧
      result.surface.view.valid[i]? = some 1 ∧ orientation.mode ≠ .unproven := by
  rw [hr.mask, hr.oriented]
  cases hc with
  | invalid => exact .inl rfl
  | missing => exact .inl rfl
  | kept =>
    rcases orientationFlag_bit (D := D) orientation (s.points.getD i default) with hbit | hbit
    · exact .inl (congrArg some hbit)
    · refine .inr ⟨congrArg some hbit, rfl, ?_⟩
      intro hmode
      simp [orientationFlag, hmode] at hbit

theorem not_away [OrderedFloat D] [MirroredSums F D]
    (hc : PreparedSlot D s normals normalValid orientation i cell) (hr : ResultSlot result i cell)
    (hone : result.orientationValid[i]? = some 1) :
    ¬ (dotFloat (result.surface.view.normals.getD i default)
      (orientationTarget D orientation (s.points.getD i default)) : D) < 0 := by
  rw [hr.oriented] at hone
  rw [List.getD_eq_getElem?_getD, hr.normal]
  cases hc with
  | invalid => simp at hone
  | missing => simp at hone
  | kept => exact not_dotFloat_turned_lt (Option.some.inj hone) _

theorem counted_iff (hc : PreparedSlot D s normals normalValid orientation i cell)
    (hr : ResultSlot result i cell) (hi : i ∈ s.indices) :
    (counted s normalValid i = true ↔ result.surface.view.valid[i]? = some 1) ∧
      (counted s normalValid i = true →
        (orientationFlag D orientation (s.points.getD i default) = 1 ↔
          result.orientationValid[i]? = some 1)) := by
  rw [hr.mask, hr.oriented]
  cases hc with
  | invalid hn =>
    have hv : s.isValidIndex i = false := Bool.eq_false_of_not_eq_true fun hv => hn ⟨hi, hv⟩
    simp [counted, hv]
  | missing _ _ hz =>
    rw [counted, hz]
    simp
  | kept _ hv hz =>
    rw [counted, hv, bne_iff_ne.mpr hz]
    simp

end PreparedSlot

theorem Assembled.proven_iff
    (h : Assembled host scheduler s boundaryRadius orientation threads
      (preparedCells D s normals normalValid orientation) result)
    (hcount : ∀ i ∈ s.indices,
      (counted s normalValid i = true ↔ result.surface.view.valid[i]? = some 1) ∧
        (counted s normalValid i = true →
          (orientationFlag D orientation (s.points.getD i default) = 1 ↔
            result.orientationValid[i]? = some 1))) :
    result.orientationProven = true ↔
      (∃ i ∈ s.indices, result.surface.view.valid[i]? = some 1) ∧ ∀ i ∈ s.indices,
        result.surface.view.valid[i]? = some 1 → result.orientationValid[i]? = some 1 := by
  rw [h.proven, Bool.and_eq_true, decide_eq_true_eq, decide_eq_true_eq, orientationProven_iff]
  constructor
  · rintro ⟨⟨i, hi, hcounted⟩, hall⟩
    refine ⟨⟨i, hi, (hcount i hi).1.mp hcounted⟩, ?_⟩
    intro j hj hmask
    have hcounted := (hcount j hj).1.mpr hmask
    exact ((hcount j hj).2 hcounted).mp (hall j hj hcounted)
  · rintro ⟨⟨i, hi, hmask⟩, hall⟩
    refine ⟨⟨i, hi, (hcount i hi).1.mpr hmask⟩, ?_⟩
    intro j hj hcounted
    exact ((hcount j hj).2 hcounted).mpr (hall j hj ((hcount j hj).1.mp hcounted))

/-- What a result says about every slot of the surface that it prepares. -/
structure PreparedInvariants (D : Type) [FloatArith D] [Floats F D] (input : SurfaceView F)
    (available : ℕ → Prop) (orientation : NormalOrientationHint F)
    (result : NormalBoundaryResult F) : Prop where
  points : result.surface.view.points = input.points
  grid : result.surface.view.grid = input.grid
  unit : result.surface.view.unit = input.unit
  frame : result.surface.view.frame = input.frame
  mask_iff : ∀ i ∈ input.indices,
    result.surface.view.valid[i]? = some 1 ↔ result.reasons[i]? = some .none
  none_iff : ∀ i ∈ input.indices,
    result.reasons[i]? = some .none ↔ input.isValidIndex i = true ∧ available i
  missing_iff : ∀ i ∈ input.indices,
    result.reasons[i]? = some .normalMissing ↔ input.isValidIndex i = true ∧ ¬ available i
  missing : ∀ i : ℕ, result.reasons[i]? = some .normalMissing →
    result.surface.view.valid[i]? = some 0
  invalid : ∀ i < input.storageSize, ¬ (i ∈ input.indices ∧ input.isValidIndex i = true) →
    result.surface.view.valid[i]? = some 0 ∧ result.reasons[i]? = some .inputInvalid
  oriented : ∀ i < input.storageSize, result.orientationValid[i]? = some 0 ∨
    result.orientationValid[i]? = some 1 ∧ result.surface.view.valid[i]? = some 1 ∧
      orientation.mode ≠ .unproven
  aligned : orientation.mode = .alignDirection → ∀ i : ℕ, result.orientationValid[i]? = some 1 →
    ¬ (dotFloat (result.surface.view.normals.getD i default)
      (unitVector D orientation.value) : D) < 0
  toward : orientation.mode = .towardViewpoint → ∀ i : ℕ, result.orientationValid[i]? = some 1 →
    ¬ (dotFloat (result.surface.view.normals.getD i default)
      (subFloat orientation.value (input.points.getD i default)) : D) < 0
  boundary : ∀ i : ℕ, result.boundary[i]? = some 1 → result.surface.view.valid[i]? = some 1
  proven : result.orientationProven = true ↔
    (∃ i ∈ input.indices, result.surface.view.valid[i]? = some 1) ∧ ∀ i ∈ input.indices,
      result.surface.view.valid[i]? = some 1 → result.orientationValid[i]? = some 1

/-- Preparation establishes its invariants, whatever the arithmetic rounds. -/
theorem preparedInvariants [OrderedFloat D] [MirroredSums F D] (hs : s.Shaped)
    (h : prepareNormalsAndBoundaries host scheduler s normalRadius minimumNeighbors boundaryRadius
      orientation threads = .ok result) :
    PreparedInvariants D s (NormalAvailable host scheduler s normalRadius minimumNeighbors threads)
      orientation result := by
  obtain ⟨-, normals, normalValid, ha, hresult⟩ := prepareNormalsAndBoundaries_iff.mp h
  have hlength : normals.length = s.storageSize := (availableNormals_slots hs ha).normals_length
  have hslot : ∀ w < s.storageSize, ∃ cell, ResultSlot result w cell ∧
      PreparedSlot D s normals normalValid orientation w cell :=
    fun w hw => hresult.exists_slot hs hlength hw
  have hcells : ∀ {β : Type} (f : PreparedCell F → β) {i : ℕ} {v : β},
      ((preparedCells D s normals normalValid orientation).cells.map f)[i]? = some v →
        i < s.storageSize := by
    intro β f i v hv
    obtain ⟨hlt, -⟩ := List.getElem?_eq_some_iff.mp hv
    rwa [List.length_map, length_preparedCells, hlength] at hlt
  have htarget : ∀ i : ℕ, result.orientationValid[i]? = some 1 →
      ¬ (dotFloat (result.surface.view.normals.getD i default)
        (orientationTarget D orientation (s.points.getD i default)) : D) < 0 := by
    intro i hone
    obtain ⟨cell, hr, hc⟩ := hslot i (hcells _ (hresult.orientationValid ▸ hone))
    exact hc.not_away hr hone
  constructor
  case points => rw [hresult.view]
  case grid => rw [hresult.view]
  case unit => rw [hresult.view]
  case frame => rw [hresult.view]
  case mask_iff =>
    intro i hi
    obtain ⟨cell, hr, hc⟩ := hslot i (hs.lt hi)
    exact hc.mask_iff hr
  case none_iff =>
    intro i hi
    obtain ⟨cell, hr, hc⟩ := hslot i (hs.lt hi)
    exact hc.none_iff hr hi fun hv => availableNormals_flag hs ha hi hv
  case missing_iff =>
    intro i hi
    obtain ⟨cell, hr, hc⟩ := hslot i (hs.lt hi)
    exact hc.missing_iff hr hi fun hv => availableNormals_flag hs ha hi hv
  case missing =>
    intro i hmissing
    obtain ⟨cell, hr, hc⟩ := hslot i (hcells _ (hresult.reasons ▸ hmissing))
    exact hc.unmasked hr hmissing
  case invalid =>
    intro i hi hn
    obtain ⟨cell, hr, hc⟩ := hslot i hi
    exact hc.input_invalid hr hn
  case oriented =>
    intro i hi
    obtain ⟨cell, hr, hc⟩ := hslot i hi
    exact hc.oriented hr
  case aligned =>
    intro hmode i hone
    have hdot := htarget i hone
    simpa only [orientationTarget, hmode] using hdot
  case toward =>
    intro hmode i hone
    have hdot := htarget i hone
    simpa only [orientationTarget, hmode] using hdot
  case boundary =>
    intro i hone
    obtain ⟨hblength, hflags⟩ := detectBoundaries_flags result.surface.shaped hresult.boundary
    have hsize : result.surface.view.storageSize = s.storageSize := by
      rw [hresult.view]
      rfl
    obtain ⟨hlt, -⟩ := List.getElem?_eq_some_iff.mp hone
    obtain ⟨cell, hr, hc⟩ := hslot i (by omega)
    rcases hflags i with hzero | hvalid
    · rw [List.getD_eq_getElem?_getD, hone] at hzero
      simp at hzero
    · rw [hr.isValidIndex, decide_eq_true_eq] at hvalid
      rw [hr.mask, hvalid]
  case proven =>
    refine hresult.proven_iff fun i hi => ?_
    obtain ⟨cell, hr, hc⟩ := hslot i (hs.lt hi)
    exact hc.counted_iff hr hi

end Results

section Exactness

variable {s : SurfaceView ℝ} {host : Host ℝ ℝ} {scheduler : Scheduler}
  {normalRadius boundaryRadius : ℝ} {minimumNeighbors threads : UInt32}
  {orientation : NormalOrientationHint ℝ} {normals : List (Vec3 ℝ)} {normalValid : List UInt8}
  {result : NormalBoundaryResult ℝ}

/-- Without rounding, a slot is empty or holds a vector of length one. -/
theorem NormalSlot.exact {w : ℕ} {normal : Vec3 ℝ} {flag : UInt8}
    (h : NormalSlot ℝ s w normal flag) :
    (normal = default ∧ flag = 0) ∨ ((dotFloat normal normal : ℝ) = 1 ∧ flag = 1 ∧
      w ∈ s.indices ∧ s.isValidIndex w = true) := by
  cases h with
  | empty => exact .inl ⟨rfl, rfl⟩
  | short _ _ hzero =>
    rw [vectorLength_pos_iff, not_not] at hzero
    exact .inl ⟨hzero, rfl⟩
  | @unit value hi hv hlong =>
    right
    have hne : unitVector ℝ value ≠ default := by
      rcases hlong with hpos | hentries
      · exact vectorLength_pos_iff.mp hpos
      · intro hzero
        apply hentries
        rw [hzero]
        exact ⟨decide_eq_true rfl, decide_eq_true rfl, decide_eq_true rfl⟩
    exact ⟨dotFloat_unitVector_self (unitVector_ne_default_iff.mp hne), rfl, hi, hv⟩

theorem dotFloat_orientNormal (point : Vec3 ℝ) {normal : Vec3 ℝ}
    (h : (dotFloat normal normal : ℝ) = 1) :
    (dotFloat (orientNormal ℝ orientation (hintDirection ℝ orientation) point normal).1
      (orientNormal ℝ orientation (hintDirection ℝ orientation) point normal).1 : ℝ) = 1 := by
  rw [orientNormal_eq]
  dsimp only
  split_ifs
  · rw [dotFloat_negate_self, h]
  · exact h

theorem orientNormal_again (point normal : Vec3 ℝ) :
    (orientNormal ℝ orientation (hintDirection ℝ orientation) point
      (orientNormal ℝ orientation (hintDirection ℝ orientation) point normal).1).1 =
      (orientNormal ℝ orientation (hintDirection ℝ orientation) point normal).1 := by
  rw [orientNormal_eq point (orientNormal ℝ orientation _ point normal).1]
  dsimp only
  rw [if_neg]
  rintro ⟨hflag, hneg⟩
  exact not_dotFloat_turned_lt hflag normal hneg

/-- The entries of a prepared slot without rounding. -/
theorem PreparedSlot.exact {w : ℕ} {cell : PreparedCell ℝ}
    (hn : NormalSlots ℝ s normals normalValid)
    (h : PreparedSlot ℝ s normals normalValid orientation w cell) :
    (cell.mask = 0 ∧ cell.normal = default ∧ cell.orientationValid = 0) ∨
      (cell.mask = 1 ∧ w ∈ s.indices ∧ (dotFloat cell.normal cell.normal : ℝ) = 1 ∧
        cell.orientationValid = orientationFlag ℝ orientation (s.points.getD w default) ∧
        (orientNormal ℝ orientation (hintDirection ℝ orientation) (s.points.getD w default)
          cell.normal).1 = cell.normal) := by
  cases h with
  | invalid hout =>
    rcases (hn.slot w).exact with ⟨hdefault, -⟩ | ⟨-, -, hiv⟩
    · exact .inl ⟨rfl, hdefault, rfl⟩
    · exact absurd hiv hout
  | missing hi hv hz =>
    rcases (hn.slot w).exact with ⟨hdefault, -⟩ | ⟨-, hone, -⟩
    · exact .inl ⟨rfl, hdefault, rfl⟩
    · rw [hz] at hone
      cases hone
  | kept hi hv hz =>
    rcases (hn.slot w).exact with ⟨-, hzero⟩ | ⟨hone, -, -⟩
    · exact absurd hzero hz
    · exact .inr ⟨rfl, hi, dotFloat_orientNormal _ hone, rfl, orientNormal_again _ _⟩

/-- A result that differs in its reasons only. -/
structure SameButReasons (result again : NormalBoundaryResult ℝ) : Prop where
  surface : again.surface = result.surface
  orientationValid : again.orientationValid = result.orientationValid
  boundary : again.boundary = result.boundary
  proven : again.orientationProven = result.orientationProven

/-- The cells of a prepared surface, prepared again. -/
theorem preparedCells_again (hs : s.Shaped) (hn : NormalSlots ℝ s normals normalValid)
    (h : Assembled host scheduler s boundaryRadius orientation threads
      (preparedCells ℝ s normals normalValid orientation) result) {w : ℕ}
    (hw : w < s.storageSize) :
    ∃ cell again, (preparedCells ℝ s normals normalValid orientation).cells[w]? = some cell ∧
      (preparedCells ℝ result.surface.view
        ((suppliedNormals ℝ result.surface.view).map Prod.fst)
        ((suppliedNormals ℝ result.surface.view).map Prod.snd) orientation).cells[w]? = some again ∧
      again.normal = cell.normal ∧ again.mask = cell.mask ∧
      again.orientationValid = cell.orientationValid := by
  have hr := result.surface.shaped
  have hview := h.view
  have hstorage : result.surface.view.storageSize = s.storageSize := by
    rw [hview]
    rfl
  have hindices : result.surface.view.indices = s.indices := by
    rw [hview]
    rfl
  have hpoints : result.surface.view.points = s.points := by rw [hview]
  have hslots := suppliedNormals_slots (D := ℝ) hr
  obtain ⟨cell, hcell, hslot⟩ := preparedCells_slot (D := ℝ) normalValid orientation hs
    hn.normals_length hw
  obtain ⟨again, hagain, hslot'⟩ := preparedCells_slot (D := ℝ)
    ((suppliedNormals ℝ result.surface.view).map Prod.snd) orientation hr hslots.normals_length
    (hstorage.symm ▸ hw)
  refine ⟨cell, again, hcell, hagain, ?_⟩
  have hentries := h.slot hcell
  have hvalid := hentries.isValidIndex
  have hnormal : result.surface.view.normals.getD w default = cell.normal := by
    rw [List.getD_eq_getElem?_getD, hentries.normal]
    rfl
  have hsupplied := suppliedNormals_getElem? (D := ℝ) hr (hstorage.symm ▸ hw)
  rw [hindices, hvalid, hnormal] at hsupplied
  rcases hslot.exact hn with ⟨hmask, hdefault, horiented⟩ | ⟨hmask, hi, hunit, horiented, hturned⟩
  · have hmasked : ¬ result.surface.view.isValidIndex w = true := by
      rw [hvalid, hmask]
      decide
    have hfst : ((suppliedNormals ℝ result.surface.view).map Prod.fst).getD w default =
        default := by
      rw [hmask, if_neg (by simp)] at hsupplied
      rw [List.getD_eq_getElem?_getD, List.getElem?_map, hsupplied]
      rfl
    cases hslot' with
    | invalid => exact ⟨hfst.trans hdefault.symm, hmask.symm, horiented.symm⟩
    | missing _ hv _ => exact absurd hv hmasked
    | kept _ hv _ => exact absurd hv hmasked
  · have hkept : w ∈ result.surface.view.indices ∧
        result.surface.view.isValidIndex w = true := by
      rw [hindices, hvalid, hmask]
      exact ⟨hi, rfl⟩
    have hlong : 0 < (vectorLength cell.normal : ℝ) := by
      rw [vectorLength_real, hunit, Real.sqrt_one]
      exact one_pos
    rw [hmask, if_pos ⟨hi, decide_eq_true rfl⟩, suppliedNormal, unitVector_of_unit hunit,
      if_pos hlong] at hsupplied
    have hfst : ((suppliedNormals ℝ result.surface.view).map Prod.fst).getD w default =
        cell.normal := by
      rw [List.getD_eq_getElem?_getD, List.getElem?_map, hsupplied]
      rfl
    have hsnd : ((suppliedNormals ℝ result.surface.view).map Prod.snd).getD w 0 = 1 := by
      rw [List.getD_eq_getElem?_getD, List.getElem?_map, hsupplied]
      rfl
    cases hslot' with
    | invalid hout => exact absurd hkept hout
    | missing _ _ hz =>
      rw [hsnd] at hz
      cases hz
    | kept =>
      dsimp only
      rw [hfst, hpoints]
      exact ⟨hturned, hmask.symm, horiented.symm⟩

theorem map_cells_congr {β : Type} {cells cells' : List (PreparedCell ℝ)}
    (hlength : cells'.length = cells.length) {f : PreparedCell ℝ → β}
    (h : ∀ w < cells.length, ∃ cell cell', cells[w]? = some cell ∧ cells'[w]? = some cell' ∧
      f cell' = f cell) : cells'.map f = cells.map f := by
  apply List.ext_getElem?
  intro w
  rw [List.getElem?_map, List.getElem?_map]
  by_cases hw : w < cells.length
  · obtain ⟨cell, cell', hcell, hcell', hf⟩ := h w hw
    rw [hcell, hcell', Option.map_some, Option.map_some, hf]
  · rw [List.getElem?_eq_none (by omega), List.getElem?_eq_none (by omega)]

/-- A prepared surface prepares to itself. -/
theorem prepareNormalsAndBoundaries_again (hs : s.Shaped)
    (h : prepareNormalsAndBoundaries host scheduler s normalRadius minimumNeighbors boundaryRadius
      orientation threads = .ok result) (scheduler' : Scheduler) :
    ∃ again, prepareNormalsAndBoundaries host scheduler' result.surface.view normalRadius
      minimumNeighbors boundaryRadius orientation threads = .ok again ∧
        SameButReasons result again := by
  obtain ⟨hcheck, normals, normalValid, ha, hresult⟩ := prepareNormalsAndBoundaries_iff.mp h
  have hslots := availableNormals_slots hs ha
  have hr := result.surface.shaped
  have hview := hresult.view
  have hstorage : result.surface.view.storageSize = s.storageSize := by
    rw [hview]
    rfl
  have hlength : (preparedCells ℝ result.surface.view
      ((suppliedNormals ℝ result.surface.view).map Prod.fst)
      ((suppliedNormals ℝ result.surface.view).map Prod.snd) orientation).cells.length =
      (preparedCells ℝ s normals normalValid orientation).cells.length := by
    rw [length_preparedCells, length_preparedCells, List.length_map, length_suppliedNormals,
      hstorage, hslots.normals_length]
  have hsize : (preparedCells ℝ s normals normalValid orientation).cells.length =
      s.storageSize := by
    rw [length_preparedCells, hslots.normals_length]
  have hcells := fun w (hw : w <
    (preparedCells ℝ s normals normalValid orientation).cells.length) =>
    preparedCells_again hs hslots hresult (hsize ▸ hw)
  have hne : result.surface.view.normals ≠ [] := by
    intro he
    rw [hview] at he
    have hzero : (preparedCells ℝ s normals normalValid orientation).cells.length = 0 := by
      rw [List.map_eq_nil_iff.mp he]
      rfl
    rw [hsize] at hzero
    exact hs.nonempty (List.length_eq_zero_iff.mp hzero)
  set again := preparedCells ℝ result.surface.view
    ((suppliedNormals ℝ result.surface.view).map Prod.fst)
    ((suppliedNormals ℝ result.surface.view).map Prod.snd) orientation with hagain
  have hnormals := map_cells_congr (f := PreparedCell.normal) hlength fun w hw => by
    obtain ⟨cell, cell', hc, hc', hn, -, -⟩ := hcells w hw
    exact ⟨cell, cell', hc, hc', hn⟩
  have hmasks := map_cells_congr (f := PreparedCell.mask) hlength fun w hw => by
    obtain ⟨cell, cell', hc, hc', -, hm, -⟩ := hcells w hw
    exact ⟨cell, cell', hc, hc', hm⟩
  have horiented := map_cells_congr (f := PreparedCell.orientationValid) hlength fun w hw => by
    obtain ⟨cell, cell', hc, hc', -, -, ho⟩ := hcells w hw
    exact ⟨cell, cell', hc, hc', ho⟩
  have hprepared : prepareNormalsAndBoundaries host scheduler' result.surface.view normalRadius
      minimumNeighbors boundaryRadius orientation threads = .ok ⟨result.surface,
        again.cells.map PreparedCell.reason, again.cells.map PreparedCell.orientationValid,
        result.boundary, decide (0 < again.validNormalCount) &&
          decide (again.orientedCount = again.validNormalCount)⟩ := by
    apply prepareNormalsAndBoundaries_iff.mpr
    refine ⟨?_, _, _, if_neg hne, ?_, ?_, rfl, rfl, rfl⟩
    · rw [← hcheck]
      unfold checkPreparation
      rw [hview]
    · rw [← hagain, hnormals, hmasks]
      rw [hview]
      exact hresult.create
    · exact (detectBoundaries_workers hr host scheduler' scheduler boundaryRadius Iff.rfl).trans
        hresult.boundary
  refine ⟨_, hprepared, rfl, ?_, rfl, ?_⟩
  · rw [hresult.orientationValid]
    exact horiented
  · have hproven := (preparedInvariants hs h).proven
    have hproven' := (preparedInvariants hr hprepared).proven
    have hindices : result.surface.view.indices = s.indices := by
      rw [hview]
      rfl
    rw [hindices] at hproven'
    dsimp only at hproven' ⊢
    rw [horiented, ← hresult.orientationValid] at hproven'
    rw [Bool.eq_iff_iff]
    exact hproven'.trans hproven.symm

/-- Without rounding, an organized surface with normals is prepared whenever the parameters are
accepted. -/
theorem exists_prepareNormalsAndBoundaries_grid (hs : s.Shaped) {grid : GridTopology}
    (hgrid : s.grid = some grid) (hne : s.normals ≠ [])
    (hcheck : checkPreparation s normalRadius minimumNeighbors boundaryRadius orientation threads =
      .ok ()) :
    ∃ result, prepareNormalsAndBoundaries host scheduler s normalRadius minimumNeighbors
      boundaryRadius orientation threads = .ok result := by
  have hslots := suppliedNormals_slots (D := ℝ) hs
  set prepared := preparedCells ℝ s ((suppliedNormals ℝ s).map Prod.fst)
    ((suppliedNormals ℝ s).map Prod.snd) orientation with hprepared
  have hlength : prepared.cells.length = s.storageSize := by
    rw [hprepared, length_preparedCells, hslots.normals_length]
  have haccepted : validateSurfaceData s.points (prepared.cells.map PreparedCell.normal)
      (prepared.cells.map PreparedCell.mask) s.grid = .ok s.logicalSize := by
    rw [hs.validate rfl (.inr (by rw [List.length_map, hlength]))
      (.inr (by rw [List.length_map, hlength])), bind_ok_iff]
    refine ⟨(), forM_ok_iff.mpr ?_, rfl⟩
    intro i hi
    obtain ⟨cell, hcell, hslot⟩ := preparedCells_slot (D := ℝ)
      ((suppliedNormals ℝ s).map Prod.snd) orientation hs hslots.normals_length (hs.lt hi)
    have hmask : (prepared.cells.map PreparedCell.mask).getD i 0 = cell.mask := by
      rw [List.getD_eq_getElem?_getD, List.getElem?_map, hprepared, hcell]
      rfl
    unfold checkIndex
    rw [hmask, if_neg]
    · simp [Vec3.finite]
    · rintro ⟨-, hlarge⟩
      rcases hslot.exact hslots with ⟨hbit, -⟩ | ⟨hbit, -⟩
      · exact absurd (hbit ▸ hlarge) (by decide)
      · exact absurd (hbit ▸ hlarge) (by decide)
  obtain ⟨output, hcreate⟩ : ∃ output, OwnedSurface.create s.points
      (prepared.cells.map PreparedCell.normal) (prepared.cells.map PreparedCell.mask) s.grid s.unit
      s.frame = .ok output := ⟨_, OwnedSurface.create_ok haccepted⟩
  have hview := OwnedSurface.view_of_create hcreate
  have hboundary : detectBoundaries host scheduler output.view boundaryRadius threads =
      .ok (detectGridBoundaries output.view grid boundaryRadius) := by
    unfold detectBoundaries
    rw [show output.view.grid = some grid by rw [hview, hgrid]]
  exact ⟨⟨output, _, _, _, _⟩, prepareNormalsAndBoundaries_iff.mpr
    ⟨hcheck, _, _, if_neg hne, hcreate, hboundary, rfl, rfl, rfl⟩⟩

/-- What a result says about a surface that is prepared without rounding. -/
structure ExactInvariants (host : Host ℝ ℝ) (input : SurfaceView ℝ) (normalRadius : ℝ)
    (minimumNeighbors : UInt32) (boundaryRadius : ℝ) (orientation : NormalOrientationHint ℝ)
    (threads : UInt32) (result : NormalBoundaryResult ℝ) : Prop where
  supplied : input.normals ≠ [] → ∀ i ∈ input.indices, result.surface.view.valid[i]? = some 1 ↔
    input.isValidIndex i = true ∧ input.normals.getD i default ≠ default
  unit : ∀ i : ℕ, result.surface.view.valid[i]? = some 1 →
    (dotFloat (result.surface.view.normals.getD i default)
      (result.surface.view.normals.getD i default) : ℝ) = 1
  aligned : orientation.mode = .alignDirection → ∀ i : ℕ, result.orientationValid[i]? = some 1 →
    0 ≤ (dotFloat (result.surface.view.normals.getD i default)
      (unitVector ℝ orientation.value) : ℝ)
  toward : orientation.mode = .towardViewpoint → ∀ i : ℕ, result.orientationValid[i]? = some 1 →
    0 ≤ (dotFloat (result.surface.view.normals.getD i default)
      (subFloat orientation.value (input.points.getD i default)) : ℝ)
  again : ∀ scheduler', ∃ again, prepareNormalsAndBoundaries host scheduler' result.surface.view
    normalRadius minimumNeighbors boundaryRadius orientation threads = .ok again ∧
      SameButReasons result again

theorem exactInvariants (hs : s.Shaped)
    (h : prepareNormalsAndBoundaries host scheduler s normalRadius minimumNeighbors boundaryRadius
      orientation threads = .ok result) :
    ExactInvariants host s normalRadius minimumNeighbors boundaryRadius orientation threads
      result := by
  have hinvariants := preparedInvariants hs h
  obtain ⟨-, normals, normalValid, ha, hresult⟩ := prepareNormalsAndBoundaries_iff.mp h
  have hslots := availableNormals_slots hs ha
  constructor
  case supplied =>
    intro hne i hi
    have havailable : NormalAvailable host scheduler s normalRadius minimumNeighbors threads i ↔
        s.normals.getD i default ≠ default := by
      unfold NormalAvailable
      rw [vectorLength_pos_iff, unitVector_ne_default_iff]
      tauto
    rw [hinvariants.mask_iff i hi, hinvariants.none_iff i hi, havailable]
  case unit =>
    intro i hone
    have hlt : i < s.storageSize := by
      obtain ⟨hlt, -⟩ := List.getElem?_eq_some_iff.mp hone
      rwa [hresult.view, List.length_map, length_preparedCells, hslots.normals_length] at hlt
    obtain ⟨cell, hr, hc⟩ := hresult.exists_slot hs hslots.normals_length hlt
    rw [hr.mask] at hone
    rw [List.getD_eq_getElem?_getD, hr.normal]
    rcases hc.exact hslots with ⟨hmask, -⟩ | ⟨-, -, hunit, -⟩
    · rw [hmask] at hone
      cases hone
    · exact hunit
  case aligned =>
    intro hmode i hone
    exact not_lt.mp (hinvariants.aligned hmode i hone)
  case toward =>
    intro hmode i hone
    exact not_lt.mp (hinvariants.toward hmode i hone)
  case again => exact fun scheduler' => prepareNormalsAndBoundaries_again hs h scheduler'

/-- For every surface, hint, backend and accepted parameters: a preparation that succeeds
establishes its invariants, and without rounding its result prepares to itself. -/
theorem prepareNormalsAndBoundaries_sound :
    (∀ {F D : Type} [FloatArith F] [FloatArith D] [Floats F D] [OrderedFloat D] [MirroredSums F D]
      (host : Host F D) (scheduler : Scheduler) (surface : SurfaceView F) (normalRadius : D)
      (minimumNeighbors : UInt32) (boundaryRadius : D) (orientation : NormalOrientationHint F)
      (threads : UInt32) (result : NormalBoundaryResult F), surface.Shaped →
      prepareNormalsAndBoundaries host scheduler surface normalRadius minimumNeighbors
        boundaryRadius orientation threads = .ok result →
      PreparedInvariants D surface
        (NormalAvailable host scheduler surface normalRadius minimumNeighbors threads) orientation
        result) ∧
    ∀ (host : Host ℝ ℝ) (scheduler : Scheduler) (surface : SurfaceView ℝ) (normalRadius : ℝ)
      (minimumNeighbors : UInt32) (boundaryRadius : ℝ) (orientation : NormalOrientationHint ℝ)
      (threads : UInt32) (result : NormalBoundaryResult ℝ), surface.Shaped →
      prepareNormalsAndBoundaries host scheduler surface normalRadius minimumNeighbors
        boundaryRadius orientation threads = .ok result →
      ExactInvariants host surface normalRadius minimumNeighbors boundaryRadius orientation threads
        result := by
  constructor
  · intro F D _ _ _ _ _ host scheduler surface normalRadius minimumNeighbors boundaryRadius
      orientation threads result hs h
    exact preparedInvariants hs h
  · intro host scheduler surface normalRadius minimumNeighbors boundaryRadius orientation threads
      result hs h
    exact exactInvariants hs h

/-- A host whose searches find nothing. -/
def idleHost : Host ℝ ℝ where
  pcl := ⟨fun _ _ _ => .ok [], fun _ _ _ => .ok [], fun _ _ _ => .ok [], fun _ _ => none⟩
  eigen := ⟨fun _ => 6, fun _ step => step, fun matrix => matrix, fun matrix => ⟨true, 0, matrix⟩⟩
  avx2Available := false
  device := none
  mapOrder := id
  mapOrder_perm := List.Perm.refl

/-- Three columns and two rows with a slot of padding, a masked sample and a zero normal. -/
def slotted {F : Type} (point normal : ℤ → Vec3 F) (frame : FrameId) : SurfaceView F where
  points := [point 0, point 1, point 2, point 9, point 3, point 4, point 5]
  normals := [normal 2, normal 0, normal (-3), normal 7, normal 1, normal 1, normal 1]
  valid := [1, 1, 1, 1, 1, 0, 1]
  grid := some ⟨3, 2, 4⟩
  unit := .millimeter
  frame
  logicalSize := 6

def slottedExact : SurfaceView (Exact ℚ) :=
  slotted (fun x => exactPoint x 0 0) (fun z => exactPoint 0 0 z) exactFrame

def slottedReal : SurfaceView ℝ := slotted (fun x => ⟨x, 0, 0⟩) (fun z => ⟨0, 0, z⟩) exactFrame

theorem slottedReal_shaped : slottedReal.Shaped := by
  constructor
  · exact List.cons_ne_nil _ _
  · rfl
  · exact .inr rfl
  · exact .inr rfl
  · have hindices : slottedReal.indices = [0, 1, 2, 4, 5, 6] := rfl
    rw [hindices]
    simp [slottedReal, slotted]

theorem slottedReal_checked :
    checkPreparation slottedReal (1 : ℝ) 3 1 ⟨.alignDirection, ⟨0, 0, -1⟩⟩ 2 = .ok () := by
  have hone : ¬ (1 : ℝ) ≤ 0 := by norm_num
  have hhint : (⟨0, 0, -1⟩ : Vec3 ℝ) ≠ default :=
    fun h => neg_ne_zero.mpr one_ne_zero (congrArg Vec3.z h)
  have hlength : ¬ equal (vectorLength (⟨0, 0, -1⟩ : Vec3 ℝ) : ℝ) 0 := by
    intro h
    exact (vectorLength_pos_iff.mpr hhint).ne' (of_decide_eq_true h)
  have hfinite : (⟨0, 0, -1⟩ : Vec3 ℝ).finite = true := by
    simp [Vec3.finite]
  unfold checkPreparation
  rw [if_neg (by decide), if_neg (show ¬ slottedReal.unit ≠ .millimeter from not_not.mpr rfl),
    if_neg (by simp [hone]), if_neg (by decide), if_neg (by simp [hone]), if_neg]
  rintro ⟨-, hbad | hbad⟩
  · exact hbad hfinite
  · exact hlength hbad

theorem prepareNormalsAndBoundaries_sound_slotted :
    (∃ result, prepareNormalsAndBoundaries (Host.exhaustive fun _ => none) .sequential slottedExact
        (1 : Exact ℚ) 3 1 ⟨.towardViewpoint, exactPoint 0 0 (-5)⟩ 1 = .ok result ∧
      result.surface.view.valid = [1, 0, 1, 0, 1, 0, 1] ∧ result.orientationProven = true ∧
      PreparedInvariants (Exact ℚ) slottedExact
        (NormalAvailable (Host.exhaustive fun _ => none) .sequential slottedExact
          (1 : Exact ℚ) 3 1) ⟨.towardViewpoint, exactPoint 0 0 (-5)⟩ result) ∧
    ∃ result, prepareNormalsAndBoundaries idleHost .alternating slottedReal 1 3 1
        ⟨.alignDirection, ⟨0, 0, -1⟩⟩ 2 = .ok result ∧
      result.surface.view.valid[0]? = some 1 ∧ result.surface.view.valid[1]? ≠ some 1 ∧
      result.surface.view.valid[5]? ≠ some 1 ∧
      ExactInvariants idleHost slottedReal 1 3 1 ⟨.alignDirection, ⟨0, 0, -1⟩⟩ 2 result := by
  constructor
  · obtain ⟨result, hresult, hvalid, hproven⟩ := exists_ok_and
      (x := prepareNormalsAndBoundaries (Host.exhaustive fun _ => none) .sequential slottedExact
        (1 : Exact ℚ) 3 1 ⟨.towardViewpoint, exactPoint 0 0 (-5)⟩ 1)
      (p := fun result => result.surface.view.valid = [1, 0, 1, 0, 1, 0, 1] ∧
        result.orientationProven = true) (by decide +kernel)
    exact ⟨result, hresult, hvalid, hproven, prepareNormalsAndBoundaries_sound.1 _ _ _ _ _ _ _ _ _
      (validateSurfaceData_ok rfl _ _).1 hresult⟩
  · obtain ⟨result, hresult⟩ : ∃ result, prepareNormalsAndBoundaries idleHost .alternating
        slottedReal 1 3 1 ⟨.alignDirection, ⟨0, 0, -1⟩⟩ 2 = .ok result :=
      exists_prepareNormalsAndBoundaries_grid slottedReal_shaped rfl (List.cons_ne_nil _ _)
        slottedReal_checked
    have hexact := prepareNormalsAndBoundaries_sound.2 _ _ _ _ _ _ _ _ _ slottedReal_shaped hresult
    have hne : slottedReal.normals ≠ [] := List.cons_ne_nil _ _
    refine ⟨result, hresult, ?_, ?_, ?_, hexact⟩
    · rw [hexact.supplied hne 0 (by decide)]
      refine ⟨rfl, fun h => ?_⟩
      have hz : ((2 : ℤ) : ℝ) = 0 := congrArg Vec3.z h
      norm_num at hz
    · rw [Ne, hexact.supplied hne 1 (by decide)]
      rintro ⟨-, hnormal⟩
      apply hnormal
      change (⟨0, 0, ((0 : ℤ) : ℝ)⟩ : Vec3 ℝ) = default
      rw [Int.cast_zero]
      rfl
    · rw [Ne, hexact.supplied hne 5 (by decide)]
      rintro ⟨hvalid, -⟩
      cases hvalid

end Exactness
end PointcloudAd
