import PointcloudAd.Library.OppositeValues
import PointcloudAd.Preprocess.NormalBoundary

/-!
# Surfaces with opposite normals

A plane fit gives a normal up to its sign. Surfaces that differ in the signs of their normals alone
are normalized, moved and prepared alike. The flags of an unorganized boundary are the exception:
the directions around a sample are measured in a basis that the normal turns over.
-/

namespace PointcloudAd

open Library Registration

variable {F D : Type} [FloatArith F] [FloatArith D] [Floats F D]

structure Opposed (v w : Vec3 F) : Prop where
  x : Opposite v.x w.x
  y : Opposite v.y w.y
  z : Opposite v.z w.z

section

variable [OppositeArithmetic F] [OppositeArithmetic D] [OppositeConversions F D] {v w : Vec3 F}

open OppositeArithmetic OppositeConversions

omit [FloatArith D] [Floats F D] [OppositeArithmetic D] [OppositeConversions F D] in
theorem opposed_default : Opposed (default : Vec3 F) default :=
  ⟨opposite_zero, opposite_zero, opposite_zero⟩

omit [FloatArith D] [Floats F D] [OppositeArithmetic D] [OppositeConversions F D] in
theorem Opposed.finite (h : Opposed v w) : v.finite = w.finite := by
  unfold Vec3.finite
  rw [isFinite_opposite h.x, isFinite_opposite h.y, isFinite_opposite h.z]

omit [OppositeArithmetic F] [OppositeArithmetic D] in
theorem Opposed.widen (h : Opposed v w) : Opposed (v.widen : Vec3 D) w.widen :=
  ⟨widen_opposite h.x, widen_opposite h.y, widen_opposite h.z⟩

omit [OppositeArithmetic F] [OppositeArithmetic D] in
theorem Opposed.narrow {v w : Vec3 D} (h : Opposed v w) : Opposed (v.narrow : Vec3 F) w.narrow :=
  ⟨narrow_opposite h.x, narrow_opposite h.y, narrow_opposite h.z⟩

omit [OppositeArithmetic F] in
theorem Opposed.rotate (h : Opposed v w) (transform : RigidTransform D) :
    Opposed (rotateVector transform v) (rotateVector transform w) := by
  have hw := h.widen (D := D)
  exact ⟨opposite_add (opposite_add (opposite_mul _ hw.x) (opposite_mul _ hw.y))
      (opposite_mul _ hw.z),
    opposite_add (opposite_add (opposite_mul _ hw.x) (opposite_mul _ hw.y)) (opposite_mul _ hw.z),
    opposite_add (opposite_add (opposite_mul _ hw.x) (opposite_mul _ hw.y)) (opposite_mul _ hw.z)⟩

omit [OppositeArithmetic F] [OppositeConversions F D] in
theorem Opposed.fitsFloat_iff {v w : Vec3 D} (h : Opposed v w) : fitsFloat F v ↔ fitsFloat F w := by
  unfold fitsFloat
  rw [isFinite_opposite h.x, isFinite_opposite h.y, isFinite_opposite h.z, abs_opposite h.x,
    abs_opposite h.y, abs_opposite h.z]

omit [OppositeArithmetic F] in
theorem Opposed.vectorLength (h : Opposed v w) : (vectorLength v : D) = vectorLength w := by
  have hw := h.widen (D := D)
  unfold PointcloudAd.vectorLength
  rw [show (Floats.widen v.x * Floats.widen v.x : D) = Floats.widen w.x * Floats.widen w.x from
      square_opposite hw.x,
    show (Floats.widen v.y * Floats.widen v.y : D) = Floats.widen w.y * Floats.widen w.y from
      square_opposite hw.y,
    show (Floats.widen v.z * Floats.widen v.z : D) = Floats.widen w.z * Floats.widen w.z from
      square_opposite hw.z]

omit [OppositeArithmetic F] in
theorem Opposed.normalizeNormal (h : Opposed v w) (transform : Option (RigidTransform D)) :
    Opposed (normalizeNormal transform v) (normalizeNormal transform w) := by
  cases transform with
  | none => exact h.widen
  | some transform => exact h.rotate transform

end

/-- The same surface with opposite normals. -/
structure Turned (s t : SurfaceView F) : Prop where
  surface : t = { s with normals := t.normals }
  normals : List.Forall₂ Opposed s.normals t.normals

theorem Turned.exists {s t : SurfaceView F} (h : Turned s t) :
    ∃ normals, t = { s with normals := normals } ∧ List.Forall₂ Opposed s.normals normals :=
  ⟨t.normals, h.surface, h.normals⟩

theorem opposed_nil_iff {normals normals' : List (Vec3 F)}
    (h : List.Forall₂ Opposed normals normals') : normals' = [] ↔ normals = [] := by
  cases h <;> simp

section

variable [OppositeArithmetic F] {points : List (Vec3 F)} {normals normals' : List (Vec3 F)}
  {valid : List UInt8} {grid : Option GridTopology}

theorem checkIndex_turned (h : List.Forall₂ Opposed normals normals') (i : ℕ) :
    checkIndex points normals' valid i = checkIndex points normals valid i := by
  have hfinite := (forall₂_getD h opposed_default i).finite
  have hempty := opposed_nil_iff h
  unfold checkIndex
  rw [← hfinite]
  simp only [hempty, ne_eq]

theorem validateSurfaceData_turned (h : List.Forall₂ Opposed normals normals') :
    validateSurfaceData points normals' valid grid =
      validateSurfaceData points normals valid grid := by
  have hempty := opposed_nil_iff h
  have hchecks : checkIndex points normals' valid = checkIndex points normals valid :=
    funext (checkIndex_turned h)
  unfold validateSurfaceData validateSurfaceDataAt
  rw [hchecks, ← h.length_eq]
  simp only [hempty, ne_eq]

theorem OwnedSurface.create_turned (h : List.Forall₂ Opposed normals normals') (unit : LengthUnit)
    (frame : FrameId) :
    Outcome (fun a b : OwnedSurface F => Turned a.view b.view)
      (OwnedSurface.create points normals valid grid unit frame)
      (OwnedSurface.create points normals' valid grid unit frame) := by
  have hv : validateSurfaceData points normals' valid grid =
      validateSurfaceData points normals valid grid := validateSurfaceData_turned h
  cases hs : validateSurfaceData points normals valid grid with
  | error e =>
    rw [OwnedSurface.create_error hs, OwnedSurface.create_error (hv.trans hs)]
    exact .error e
  | ok n =>
    rw [OwnedSurface.create_ok hs, OwnedSurface.create_ok (hv.trans hs)]
    exact .ok ⟨rfl, h⟩

end

section

variable [OppositeArithmetic F] [OppositeArithmetic D] [OppositeConversions F D]
  {s t : SurfaceView F}

theorem normalizeIndex_turned (scale : D) (transform : Option (RigidTransform D))
    (valid : List UInt8) {a b : List (Vec3 F) × List (Vec3 F)}
    (hab : b.1 = a.1 ∧ List.Forall₂ Opposed a.2 b.2) (i : ℕ) :
    Outcome (fun a b => b.1 = a.1 ∧ List.Forall₂ Opposed a.2 b.2)
      (normalizeIndex scale transform valid a i) (normalizeIndex scale transform valid b i) := by
  obtain ⟨points, normals⟩ := a
  obtain ⟨points', normals'⟩ := b
  obtain ⟨hp, hn⟩ := hab
  dsimp only at hp hn
  subst hp
  have hempty := opposed_nil_iff hn
  have hnormal := (forall₂_getD hn opposed_default i).normalizeNormal transform
  have hfits := hnormal.fitsFloat_iff (F := F)
  unfold normalizeIndex
  dsimp only
  simp only [hempty, ← hfits]
  split_ifs
  · exact .error _
  · exact .ok ⟨rfl, .nil⟩
  · exact .error _
  · exact .ok ⟨rfl, forall₂_set hn hnormal.narrow i⟩

theorem normalizeSurface_turned (h : Turned s t) (targetFrame : FrameId)
    (transform : Option (RigidTransform D)) :
    Outcome (fun a b : OwnedSurface F => Turned a.view b.view)
      (normalizeSurface s targetFrame transform) (normalizeSurface t targetFrame transform) := by
  obtain ⟨normals, rfl, hn⟩ := h.exists
  unfold normalizeSurface
  dsimp only
  split_ifs
  · exact .error _
  · exact .error _
  · refine (Outcome.foldlM (R := Eq) (S := fun a b : List (Vec3 F) × List (Vec3 F) =>
      b.1 = a.1 ∧ List.Forall₂ Opposed a.2 b.2) ?_ (List.forall₂_same.mpr fun _ _ => rfl)
      (c := (s.points, s.normals)) (d := (s.points, normals)) ⟨rfl, hn⟩).bind ?_
    · rintro a b i _ hab rfl
      exact normalizeIndex_turned _ transform s.valid hab i
    · rintro ⟨points, normals⟩ ⟨_, normals'⟩ ⟨rfl, hnormals⟩
      exact OwnedSurface.create_turned hnormals .millimeter targetFrame

end

/-- The estimates of one surface, with the signs of the normals turned. -/
structure NegatedEstimates (a b : EstimatedNormals F) : Prop where
  normals : List.Forall₂ Opposed a.normals b.normals
  valid : b.valid = a.valid

structure CellsTurned (a b : PreparedCells F) : Prop where
  cells : List.Forall₂ (fun c d => Opposed c.normal d.normal ∧ d = { c with normal := d.normal })
    a.cells b.cells
  valid : b.validNormalCount = a.validNormalCount
  oriented : b.orientedCount = a.orientedCount

section

variable [OppositeArithmetic F]

theorem prepareIndex_turned (surface : SurfaceView F) (normalValid : List UInt8)
    (direction : Vec3 F) {a b : PreparedCells F} (hab : CellsTurned a b) (i : ℕ) :
    CellsTurned (prepareIndex D surface normalValid .none direction a i)
      (prepareIndex D surface normalValid .none direction b i) := by
  have hcell := forall₂_getD hab.cells (a := default) (b := default) ⟨opposed_default, rfl⟩ i
  obtain ⟨hnormal, hrest⟩ := hcell
  unfold prepareIndex
  dsimp only
  split_ifs
  · refine ⟨forall₂_set hab.cells ?_ i, hab.valid, hab.oriented⟩
    rw [hrest]
    exact ⟨hnormal, rfl⟩
  · refine ⟨forall₂_set hab.cells ?_ i, ?_, ?_⟩
    · exact ⟨hnormal, rfl⟩
    · dsimp only
      rw [hab.valid]
    · dsimp only
      rw [hab.oriented]
      rfl
  · exact hab

theorem preparedCells_turned (surface : SurfaceView F) (normalValid : List UInt8)
    {normals normals' : List (Vec3 F)} (h : List.Forall₂ Opposed normals normals') :
    CellsTurned (preparedCells D surface normals normalValid .none)
      (preparedCells D surface normals' normalValid .none) := by
  unfold preparedCells
  refine List.rel_foldl (R := Eq) (P := CellsTurned) ?_ ?_ (List.forall₂_same.mpr fun _ _ => rfl)
  · rintro a b hab i _ rfl
    exact prepareIndex_turned surface normalValid _ hab i
  · refine ⟨?_, rfl, rfl⟩
    rw [List.forall₂_map_left_iff, List.forall₂_map_right_iff]
    exact h.imp fun v w hvw => ⟨hvw, rfl⟩

end

/-- The host with another fit of planes. -/
def Host.withFit (host : Host F D) (fit : List (Vec3 F) → List ℤ → Option (Vec3 F)) : Host F D :=
  { host with pcl := { host.pcl with computePointNormal := fit } }

/-- Another fit gives each sample the opposite normal, or none to the samples that had none. -/
def FitsTurned (host : Host F D) (fit : List (Vec3 F) → List ℤ → Option (Vec3 F)) : Prop :=
  ∀ cloud minimumNeighbors neighbors,
    Option.Rel Opposed (neighborhoodNormal host.pcl cloud minimumNeighbors neighbors)
      (neighborhoodNormal (host.withFit fit).pcl cloud minimumNeighbors neighbors)

/-- Opposite normals with one mark. -/
structure MarksTurned (a b : Vec3 F × UInt8) : Prop where
  normal : Opposed a.1 b.1
  mark : b.2 = a.2

omit [FloatArith D] [Floats F D] in
theorem negatedEstimates_of_marks {l m : List (Vec3 F × UInt8)}
    (h : List.Forall₂ MarksTurned l m) :
    NegatedEstimates (⟨l.map Prod.fst, l.map Prod.snd⟩ : EstimatedNormals F)
      ⟨m.map Prod.fst, m.map Prod.snd⟩ := by
  constructor
  · rw [List.forall₂_map_left_iff, List.forall₂_map_right_iff]
    exact h.imp fun _ _ hab => hab.normal
  · rw [← List.forall₂_eq_eq_eq, List.forall₂_map_left_iff, List.forall₂_map_right_iff]
    exact h.flip.imp fun _ _ hab => hab.mark

section

variable {host : Host F D} {fit : List (Vec3 F) → List ℤ → Option (Vec3 F)}

theorem normalAt_turned (hfits : FitsTurned host fit) (cloud : List (Vec3 F)) (radius : D)
    (minimumNeighbors : UInt32) (cloudIndex : ℕ) :
    Outcome (Option.Rel MarksTurned) (normalAt host.pcl cloud radius minimumNeighbors cloudIndex)
      (normalAt (host.withFit fit).pcl cloud radius minimumNeighbors cloudIndex) := by
  refine Outcome.map (R := Eq) (Outcome.eq_iff.mpr rfl) ?_
  rintro found _ rfl
  have hnormal := hfits cloud minimumNeighbors ((found.map Prod.fst).insertionSort (· ≤ ·))
  revert hnormal
  generalize neighborhoodNormal host.pcl cloud minimumNeighbors _ = normal
  generalize neighborhoodNormal (host.withFit fit).pcl cloud minimumNeighbors _ = normal'
  intro hnormal
  cases hnormal with
  | none => exact .none
  | some hab => exact .some ⟨hab, rfl⟩

/-- Fits of opposite signs estimate opposite normals, over any schedules. -/
theorem estimateNormals_turned [OppositeArithmetic F] {s : SurfaceView F} (hs : s.Shaped)
    (hfits : FitsTurned host fit) (scheduler scheduler' : Scheduler) (radius : D)
    (minimumNeighbors threads : UInt32) :
    Outcome NegatedEstimates (estimateNormals host scheduler s radius minimumNeighbors threads)
      (estimateNormals (host.withFit fit) scheduler' s radius minimumNeighbors threads) := by
  have hstart : List.Forall₂ MarksTurned (List.replicate s.storageSize ((default : Vec3 F), 0))
      (List.replicate s.storageSize (default, 0)) := by
    refine List.forall₂_same.mpr fun cell hcell => ?_
    rw [List.eq_of_mem_replicate hcell]
    exact ⟨opposed_default, rfl⟩
  unfold estimateNormals
  dsimp only
  split_ifs
  · exact .ok (negatedEstimates_of_marks hstart)
  · rw [hs.parallelFor_eq fun cell => estimateNormalsCode_writes cell host.pcl _ radius
        minimumNeighbors,
      hs.parallelFor_eq fun cell => estimateNormalsCode_writes cell (host.withFit fit).pcl _ radius
        minimumNeighbors]
    split_ifs
    · exact .error _
    · have hvalues : Outcome (List.Forall₂ (Option.Rel MarksTurned))
          ((List.range (makeValidCloud s).storageIndices.length).mapM
            (normalAt host.pcl (makeValidCloud s).cloud radius minimumNeighbors))
          ((List.range (makeValidCloud s).storageIndices.length).mapM
            (normalAt (host.withFit fit).pcl
              (makeValidCloud s).cloud radius minimumNeighbors)) := by
        refine Outcome.mapM (R := Eq) ?_ (List.forall₂_same.mpr fun _ _ => rfl)
        rintro k _ rfl
        exact normalAt_turned hfits ..
      have hcells := hvalues.map fun _ _ hab =>
        forall₂_scatter (makeValidCloud s).storageIndices hab hstart
      exact (hcells.map fun _ _ => negatedEstimates_of_marks).mapError _

end

section

variable {s : SurfaceView F} (host : Host F D)
  (fit : List (Vec3 F) → List ℤ → Option (Vec3 F)) (scheduler : Scheduler)

/-- The searches of an unorganized boundary fail alike, whatever the normals. -/
theorem detectUnorganizedBoundaries_turned (hs : s.Shaped) (normals : List (Vec3 F)) (radius : D)
    (threads : UInt32) :
    Outcome (fun _ _ => True) (detectUnorganizedBoundaries host scheduler s radius threads)
      (detectUnorganizedBoundaries (host.withFit fit) scheduler { s with normals := normals } radius
        threads) := by
  have hvalue : ∀ cloud normals normals' k, Outcome (fun _ _ => True)
      (boundaryAt host.pcl cloud normals radius k)
      (boundaryAt (host.withFit fit).pcl cloud normals' radius k) := by
    intro cloud normals normals' k
    exact (Outcome.refl (R := fun _ _ => True) (fun _ => trivial) _).map fun _ _ _ => trivial
  unfold detectUnorganizedBoundaries
  dsimp only
  change Outcome _ _ (if (makeValidCloud s).cloud = [] then _ else _)
  split_ifs
  · exact .ok trivial
  · refine Outcome.mapError _ ?_
    change Outcome _ _ (CpuExecutor.parallelFor scheduler threads
      (makeValidCloud s).storageIndices.length _ (List.replicate s.storageSize 0))
    rw [hs.parallelFor_eq fun cell => detectBoundariesCode_writes cell host.pcl _ _ radius]
    change Outcome _ _ (CpuExecutor.parallelFor scheduler threads
      (makeValidCloud s).storageIndices.length
        ⟨fun k => (makeValidCloud s).storageIndices.getD k 0, _⟩
      (List.replicate s.storageSize 0))
    rw [hs.parallelFor_eq fun cell => detectBoundariesCode_writes cell (host.withFit fit).pcl _ _
      radius]
    split_ifs
    · exact .error _
    · refine Outcome.map (Outcome.mapM (R := Eq) (S := fun _ _ => True) ?_
        (List.forall₂_same.mpr fun _ _ => rfl)) fun _ _ _ => trivial
      rintro k _ rfl
      exact hvalue ..

theorem detectBoundaries_turned {s t : OwnedSurface F} (h : Turned s.view t.view) (radius : D)
    (threads : UInt32) :
    Outcome (fun a b => s.view.grid ≠ none → b = a)
      (detectBoundaries host scheduler s.view radius threads)
      (detectBoundaries (host.withFit fit) scheduler t.view radius threads) := by
  obtain ⟨normals, ht, -⟩ := h.exists
  have hflags := detectUnorganizedBoundaries_turned host fit scheduler s.shaped normals
    radius threads
  rw [ht]
  unfold detectBoundaries
  dsimp only
  cases hg : s.view.grid with
  | none =>
    rw [hg] at hflags
    refine hflags.mono ?_
    intro _ _ _ hnone
    exact absurd rfl hnone
  | some grid => exact .ok fun _ => rfl

end

section

variable [OppositeArithmetic F] {s : SurfaceView F} (host : Host F D)
  (fit : List (Vec3 F) → List ℤ → Option (Vec3 F)) (scheduler : Scheduler)

/-- Preparations of one surface, from estimates of opposite signs. -/
theorem prepareNormalsAndBoundaries_turned (hnone : s.normals = []) (normalRadius : D)
    (minimumNeighbors : UInt32) (boundaryRadius : D) (threads : UInt32)
    (hestimates : Outcome NegatedEstimates
      (estimateNormals host scheduler s normalRadius minimumNeighbors threads)
      (estimateNormals (host.withFit fit) scheduler s normalRadius minimumNeighbors threads)) :
    Outcome (fun a b : NormalBoundaryResult F => Turned a.surface.view b.surface.view ∧
        (s.grid ≠ none → b.boundary = a.boundary))
      (prepareNormalsAndBoundaries host scheduler s normalRadius minimumNeighbors boundaryRadius
        .none threads)
      (prepareNormalsAndBoundaries (host.withFit fit) scheduler s normalRadius minimumNeighbors
        boundaryRadius .none threads) := by
  have havailable : Outcome (fun a b => List.Forall₂ Opposed a.1 b.1 ∧ b.2 = a.2)
      (availableNormals host scheduler s normalRadius minimumNeighbors threads)
      (availableNormals (host.withFit fit) scheduler s normalRadius minimumNeighbors threads) := by
    unfold availableNormals
    rw [if_pos hnone, if_pos hnone]
    exact hestimates.map fun a b hab => ⟨hab.normals, hab.valid⟩
  unfold prepareNormalsAndBoundaries
  refine (Outcome.eq_iff.mpr rfl).bind fun _ _ _ => ?_
  refine havailable.bind ?_
  rintro ⟨normals, _⟩ ⟨normals', normalValid⟩ ⟨hn, rfl⟩
  have hcells := preparedCells_turned (D := D) s normalValid hn
  dsimp only
  revert hcells
  generalize preparedCells D s normals normalValid .none = a
  generalize preparedCells D s normals' normalValid .none = b
  intro hcells
  have hmask : b.cells.map PreparedCell.mask = a.cells.map PreparedCell.mask := by
    rw [← List.forall₂_eq_eq_eq, List.forall₂_map_left_iff, List.forall₂_map_right_iff]
    exact hcells.cells.flip.imp fun d c hcd => by rw [hcd.2]
  have hnormals : List.Forall₂ Opposed (a.cells.map PreparedCell.normal)
      (b.cells.map PreparedCell.normal) := by
    rw [List.forall₂_map_left_iff, List.forall₂_map_right_iff]
    exact hcells.cells.imp fun c d hcd => hcd.1
  rw [hmask]
  refine (OwnedSurface.create_turned hnormals s.unit s.frame).bind_of_eq
    fun output output' hcreate _ houtput => ?_
  have hgrid : output.view.grid = s.grid := by rw [OwnedSurface.view_of_create hcreate]
  refine (detectBoundaries_turned host fit scheduler houtput boundaryRadius threads).bind
    fun boundary boundary' hboundary => .ok ⟨houtput, fun hg => hboundary (hgrid ▸ hg)⟩

end

theorem prepareNormalsAndBoundaries_unproven {host : Host F D} {scheduler : Scheduler}
    {s : SurfaceView F} {normalRadius boundaryRadius : D} {minimumNeighbors threads : UInt32}
    {result : NormalBoundaryResult F}
    (h : prepareNormalsAndBoundaries host scheduler s normalRadius minimumNeighbors boundaryRadius
      .none threads = .ok result) : result.orientationProven = false := by
  unfold prepareNormalsAndBoundaries at h
  simp only [bind_ok_iff, pure, Except.pure, Except.ok.injEq] at h
  obtain ⟨_, -, ⟨normals, normalValid⟩, -, output, -, boundary, -, rfl⟩ := h
  have horiented : (preparedCells D s normals normalValid .none).orientedCount = 0 := by
    unfold preparedCells
    refine List.foldlRecOn (motive := fun state : PreparedCells F => state.orientedCount = 0) _ _
      rfl ?_
    intro state hstate i _
    unfold prepareIndex
    dsimp only
    split_ifs
    · exact hstate
    · exact hstate
    · exact hstate
  dsimp only
  rw [horiented]
  by_cases hcount : (preparedCells D s normals normalValid .none).validNormalCount = 0
  · simp [hcount]
  · simp [Ne.symm hcount]

end PointcloudAd
