import PointcloudAd.Backends.Exhaustive
import PointcloudAd.Registration.Context

/-!
# Contexts after a history of calls

Any finite sequence of alignments, accepted or refused or failed midway, leaves a context that
aligns the next scan as a context that was just created does.
-/

namespace PointcloudAd

open Library Registration

variable {F D : Type} [FloatArith F] [FloatArith D] [Floats F D]

/-- One alignment of a history, and the schedule of its workers. -/
structure AlignCall (F D : Type) [FloatArith D] where
  scheduler : Scheduler
  scan : SurfaceView F
  initial : RigidTransform D

/-- The context that a sequence of alignments leaves. -/
def RegistrationContext.after (host : Host F D) (context : RegistrationContext F D)
    (history : List (AlignCall F D)) : RegistrationContext F D :=
  history.foldl
    (fun context call => (context.align host call.scheduler call.scan call.initial).2.1) context

variable {host : Host F D} {scheduler scheduler' : Scheduler} {reference : OwnedSurface F}
  {parameters : RegistrationParameters D} {capacity : ℕ} {backend : ComputeBackend}
  {context context' : RegistrationContext F D}

theorem RegistrationContext.align_context (host : Host F D) (scheduler : Scheduler)
    (context : RegistrationContext F D) (scan : SurfaceView F) (initial : RigidTransform D) :
    ∃ buffers, (context.align host scheduler scan initial).2.1 =
      { context with buffers := buffers } := by
  unfold RegistrationContext.align
  cases context.checkScan scan initial with
  | error e => exact ⟨context.buffers, rfl⟩
  | ok u => exact ⟨_, rfl⟩

theorem RegistrationContext.after_context (host : Host F D) :
    ∀ (history : List (AlignCall F D)) (context : RegistrationContext F D),
      ∃ buffers, context.after host history = { context with buffers := buffers }
  | [], context => ⟨context.buffers, rfl⟩
  | call :: history, context => by
    obtain ⟨buffers, hcall⟩ :=
      context.align_context host call.scheduler call.scan call.initial
    obtain ⟨buffers', hafter⟩ := after_context host history
      (context.align host call.scheduler call.scan call.initial).2.1
    refine ⟨buffers', ?_⟩
    rw [hcall] at hafter
    rw [← hafter, ← hcall]
    rfl

theorem ContextsAlike.after (h : ContextsAlike context context') (history : List (AlignCall F D)) :
    ContextsAlike (context.after host history) context' := by
  obtain ⟨buffers, hafter⟩ := RegistrationContext.after_context host history context
  rw [hafter]
  exact ⟨h.prepared, h.reference, h.backend, h.parameters, h.threads, h.threads'⟩

omit [FloatArith F] [FloatArith D] [Floats F D] in
theorem contextBackend_cpu {points smaller larger : ℕ} (hle : smaller ≤ larger)
    (h : contextBackend host backend points larger = .cpu) :
    contextBackend host backend points smaller = .cpu := by
  unfold contextBackend selectBackend at h ⊢
  by_cases hauto : backend = .automatic
  · subst hauto
    have hsize : gpuSizeEligible points smaller = true → gpuSizeEligible points larger = true := by
      unfold gpuSizeEligible
      simp only [Bool.and_eq_true, decide_eq_true_eq]
      omega
    cases hs : gpuSizeEligible points smaller with
    | false => simp
    | true =>
      have havailable : registrationBackendAvailable host .gpu = false := by
        simpa [hsize hs] using h
      simp [havailable]
  · rwa [if_pos hauto] at h ⊢

theorem Created.threads (h : Created host scheduler reference.view parameters capacity backend
    context) : parameters.threadCount ≠ 0 := by
  intro ht
  have hv := h.validated
  unfold validateRegistrationParameters at hv
  split_ifs at hv

/-- A context created anew over the reference is alike, at any capacity that suits the processor. -/
theorem Created.create_alike (h : Created host scheduler reference.view parameters capacity backend
    context) (scheduler' : Scheduler) (capacity' : ℕ)
    (hcapacity : (capacity = 0 ∨ int32Max < capacity) ↔ (capacity' = 0 ∨ int32Max < capacity'))
    (hbackend : contextBackend host backend reference.view.size capacity =
      contextBackend host backend reference.view.size capacity') :
    ∃ fresh, RegistrationContext.create host scheduler' reference.view parameters
      capacity' backend =
        .ok fresh ∧ ContextsAlike context fresh ∧ fresh.capacity = capacity' := by
  have hrelated := RegistrationContext.create_related host scheduler scheduler'
    (Corresponds.refl reference.shaped) h.threads h.threads capacity capacity' backend hcapacity
    hbackend
  rw [RegistrationContext.create_ok_iff.mpr h] at hrelated
  cases hfresh : RegistrationContext.create host scheduler' reference.view
      (parameters.withThreads parameters.threadCount) capacity' backend with
  | error e =>
    rw [hfresh] at hrelated
    cases hrelated
  | ok fresh =>
    rw [hfresh] at hrelated
    cases hrelated with
    | ok halike => exact ⟨fresh, hfresh, halike,
      (RegistrationContext.create_ok_iff.mp hfresh).capacity_eq⟩

theorem Created.reference_eq (h : Created host scheduler reference.view parameters capacity backend
    context) : context.reference = reference :=
  Except.ok.inj (h.snapshot.symm.trans (OwnedSurface.create_ok reference.accepted))

theorem RegistrationContext.align_input_error {scan : SurfaceView F} {initial : RigidTransform D}
    {e : Error} (hsize : scan.size ≤ context.capacity)
    (hinput : checkRegistrationInput context.reference.view scan initial context.parameters =
      .error e) : (context.align host scheduler scan initial).1 = .error e := by
  have hcheck : context.checkScan scan initial = .error e := by
    unfold RegistrationContext.checkScan
    rw [hinput, check, if_pos (Nat.not_lt.mpr hsize)]
    rfl
  unfold RegistrationContext.align
  rw [hcheck]

omit [FloatArith F] [Floats F D] in
theorem scan_size_of_input {parameters : RegistrationParameters D} {reference scan : SurfaceView F}
    {initial : RigidTransform D} {u : Unit}
    (h : checkRegistrationInput reference scan initial parameters = .ok u) : scan.size ≠ 0 := by
  intro hs
  unfold checkRegistrationInput at h
  split_ifs at h

/-- An alignment after any history of calls is the alignment of a fresh context and, for a scan
within the capacity, the one-shot registration. -/
theorem align_after_history
    (hcontext : RegistrationContext.create host scheduler reference.view parameters
      capacity backend =
      .ok context) (hcpu : context.backend = .cpu) (history : List (AlignCall F D))
    (used fresh : Scheduler) (scan : SurfaceView F) (initial : RigidTransform D) :
    ((context.after host history).align host used scan initial).1 = (do
        let context ← RegistrationContext.create host fresh reference.view parameters
          capacity backend
        (context.align host fresh scan initial).1) ∧
      (scan.size ≤ capacity →
        ((context.after host history).align host used scan initial).1 =
          registerSurfaces host fresh reference.view scan initial parameters backend) := by
  have hcreated := RegistrationContext.create_ok_iff.mp hcontext
  obtain ⟨buffers, hafter⟩ := RegistrationContext.after_context host history context
  constructor
  · obtain ⟨context', hcreate, halike, hcapacity⟩ :=
      hcreated.create_alike fresh capacity Iff.rfl rfl
    rw [hcreate]
    refine (RegistrationContext.align_related host used fresh (halike.after history)
      (.refl scan) ?_ initial).1
    rw [hafter, hcapacity, ← hcreated.capacity_eq]
  · intro hsize
    unfold registerSurfaces
    cases hinput : checkRegistrationInput reference.view scan initial parameters with
    | error e =>
      refine RegistrationContext.align_input_error ?_ ?_
      · rw [hafter]
        exact hcreated.capacity_eq ▸ hsize
      · rw [hafter]
        rw [← hcreated.reference_eq, ← hcreated.parameters_eq] at hinput
        exact hinput
    | ok u =>
      have hpositive := scan_size_of_input hinput
      have hbounds := hcreated.bounds
      have hselected := hcreated.selected.symm.trans hcpu
      obtain ⟨context', hcreate, halike, hcapacity⟩ := hcreated.create_alike fresh
        scan.size (by omega)
        (hselected.trans (contextBackend_cpu hsize hselected).symm)
      change _ = (RegistrationContext.create host fresh reference.view parameters
        scan.size backend >>=
        fun context => (context.align host fresh scan initial).1)
      rw [hcreate]
      refine (RegistrationContext.align_related host used fresh (halike.after history)
        (.refl scan) ?_ initial).1
      rw [hafter, hcapacity]
      have := hcreated.capacity_eq
      change context.capacity < scan.size ↔ scan.size < scan.size
      omega

theorem RegistrationContext.align_over_capacity {scan : SurfaceView F}
    (hsize : context.capacity < scan.size) (initial : RigidTransform D) :
    (context.align host scheduler scan initial).1 =
      .error (contextError "scan exceeds context logical-point capacity" .invalidInput) := by
  unfold RegistrationContext.align RegistrationContext.checkScan
  rw [check, if_neg (not_not.mpr hsize)]
  rfl

/-- Points on a line, as an unorganized surface in millimetres. -/
def exactLine (count : ℕ) : SurfaceView (Exact ℚ) where
  points := (List.range count).map fun i : ℕ => exactPoint i 0 0
  normals := []
  valid := []
  grid := none
  unit := .millimeter
  frame := exactFrame
  logicalSize := count

theorem exactLine_accepted {count : ℕ} (h : 0 < count) :
    validateSurfaceData (exactLine count).points [] [] none = .ok count := by
  have hlength : (exactLine count).points.length = count := by simp [exactLine]
  have hne : (exactLine count).points ≠ [] := List.ne_nil_of_length_pos (hlength.symm ▸ h)
  have hindex : ∀ i ∈ List.range count, checkIndex (exactLine count).points [] [] i = .ok () := by
    intro i hi
    have hpoint : (exactLine count).points.getD i default = exactPoint i 0 0 := by
      simp [exactLine, List.mem_range.mp hi]
    unfold checkIndex
    rw [hpoint]
    rfl
  unfold validateSurfaceData validateSurfaceDataAt
  rw [if_neg hne, if_neg (by simp), if_neg (by simp), hlength]
  change ((forM (List.range count) (checkIndex (exactLine count).points [] [])).bind
    fun _ => .ok count) = _
  rw [forM_ok_iff.mpr hindex]
  rfl

/-- A line as a surface that passed the checks. -/
def exactSegment (count : ℕ) (h : 0 < count) : OwnedSurface (Exact ℚ) :=
  ⟨exactLine count, exactLine_accepted h⟩

def exactReference : OwnedSurface (Exact ℚ) := exactSegment 1 (by decide)

def exactParameters : RegistrationParameters (Exact ℚ) where
  maxIterations := 4
  maxCorrespondenceDistanceMm := .fin 1
  huberDeltaMm := .fin 1
  translationEpsilonMm := .fin (1 / 1000)
  rotationEpsilonRad := .fin (1 / 1000)
  residualEpsilonMm := .fin (1 / 1000)
  method := .pointToPoint

/-- The host of the runs below, which never fit a plane. -/
def exactHost : Host (Exact ℚ) (Exact ℚ) := .exhaustive fun _ => none

theorem exactContext : ∃ context, RegistrationContext.create exactHost .sequential
    exactReference.view exactParameters 1 .cpu = .ok context :=
  exists_ok (by decide +kernel)

/-- The corners of a cube, as many as are asked for. -/
def exactCorners (count : ℕ) : SurfaceView (Exact ℚ) :=
  let corners := [exactPoint 0 0 0, exactPoint 4 0 0, exactPoint 0 4 0, exactPoint 0 0 4,
    exactPoint 4 4 0, exactPoint 4 0 4, exactPoint 0 4 4, exactPoint 4 4 4]
  { exactLine count with points := corners.take count }

theorem exactCube_accepted : validateSurfaceData (exactCorners 8).points [] [] none = .ok 8 := by
  decide +kernel

def exactCube : OwnedSurface (Exact ℚ) := ⟨exactCorners 8, exactCube_accepted⟩

theorem exactShift_checked : ∃ tolerance : Exact ℚ,
    checkRigid ![1, 0, 0, .fin (1 / 4), 0, 1, 0, 0, 0, 0, 1, 0, 0, 0, 0, 1] tolerance =
      .ok () :=
  ⟨.fin (1 / 1000), by decide +kernel⟩

/-- The pose that is a quarter of a millimetre off. -/
def exactShift : RigidTransform (Exact ℚ) where
  matrix := ![1, 0, 0, .fin (1 / 4), 0, 1, 0, 0, 0, 0, 1, 0, 0, 0, 0, 1]
  sourceFrame := exactFrame
  targetFrame := exactFrame
  checked := exactShift_checked

theorem exactHost_order (keys : List ℤ) : (exactHost.mapOrder keys).Perm keys := .refl _

def solvingHost : Host (Exact ℚ) (Exact ℚ) :=
  { exactHost with
    eigen := .eliminating
    mapOrder_perm := exactHost_order }

theorem solvingContext : ∃ context, RegistrationContext.create solvingHost .sequential
    exactCube.view exactParameters 8 .cpu = .ok context :=
  exists_ok (by decide +kernel)

/-- A context of eight points that refused nine and aligned eight takes two iterations to align
seven, as the one-shot registration does. -/
theorem align_after_refusal : ∃ context, RegistrationContext.create solvingHost .sequential
      exactCube.view exactParameters 8 .cpu = .ok context ∧
    ((context.after solvingHost [⟨.alternating, exactLine 9, exactShift⟩,
        ⟨.alternating, exactCorners 8, exactShift⟩]).align solvingHost .alternating (exactCorners 7)
          exactShift).1 =
      registerSurfaces solvingHost .sequential exactCube.view (exactCorners 7) exactShift
        exactParameters .cpu ∧
    ∃ metrics, registerSurfaces solvingHost .sequential exactCube.view (exactCorners 7) exactShift
        exactParameters .cpu = .ok metrics ∧
      metrics.iterations = 2 ∧ metrics.convergence = .converged := by
  obtain ⟨context, hcontext⟩ := solvingContext
  have hcpu : context.backend = .cpu := (RegistrationContext.create_ok_iff.mp hcontext).selected
  refine ⟨context, hcontext, (align_after_history hcontext hcpu _ .alternating .sequential
    (exactCorners 7) exactShift).2 (by decide), exists_ok_and (by decide +kernel)⟩

/-- Two points do not fit a context of one point; the one-shot registration takes them. -/
theorem align_ne_registerSurfaces : ∃ context, RegistrationContext.create exactHost .sequential
      exactReference.view exactParameters 1 .cpu = .ok context ∧ context.backend = .cpu ∧
    (context.align exactHost .sequential (exactLine 2) exactIdentity).1 ≠
      registerSurfaces exactHost .sequential exactReference.view (exactLine 2) exactIdentity
        exactParameters .cpu := by
  obtain ⟨context, hcontext⟩ := exactContext
  have hcreated := RegistrationContext.create_ok_iff.mp hcontext
  have hone : (registerSurfaces exactHost .sequential exactReference.view
    (exactLine 2) exactIdentity
      exactParameters .cpu).isOk = true := by decide +kernel
  refine ⟨context, hcontext, hcreated.selected, fun heq => ?_⟩
  have hsize : context.capacity < (exactLine 2).size := by
    rw [hcreated.capacity_eq]
    decide
  rw [← heq, RegistrationContext.align_over_capacity hsize] at hone
  cases hone

end PointcloudAd
