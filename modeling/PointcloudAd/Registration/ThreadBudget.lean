import PointcloudAd.Backends.PclComparison
import PointcloudAd.Registration.History

/-!
# Thread budgets

The processor computes the same bits with every number of workers and in every order of their
accesses; `run_of_steps` finds such an order in every run of the executor's protocol. Sums and
products are operations without laws here, so the equality is one of the evaluation order, not of
exact values.
-/

namespace PointcloudAd

open Library Registration

variable {F D : Type} [FloatArith F] [FloatArith D] [Floats F D]

/-- How an alignment in a new context ends, with the equations of its passes. -/
def alignTrace (host : Host F D) (created used : Scheduler) (reference scan : SurfaceView F)
    (initial : RigidTransform D) (parameters : RegistrationParameters D) (capacity : ℕ)
    (backend : ComputeBackend) : Result (Result (RegistrationMetrics D) × List (Equations D)) :=
  (RegistrationContext.create host created reference parameters capacity backend).map fun context =>
    let ended := context.align host used scan initial
    (ended.1, ended.2.2)

variable {reference scan : OwnedSurface F} {threads threads' : UInt32}

theorem alignTrace_workers (host : Host F D) (created created' used used' : Scheduler)
    (initial : RigidTransform D) (parameters : RegistrationParameters D) (capacity : ℕ)
    (backend : ComputeBackend) (ht : threads ≠ 0) (ht' : threads' ≠ 0) :
    alignTrace host created used reference.view scan.view initial (parameters.withThreads threads)
        capacity backend =
      alignTrace host created' used' reference.view scan.view initial
        (parameters.withThreads threads') capacity backend := by
  have hcreate := RegistrationContext.create_related host created created'
    (.refl reference.shaped) (show (parameters.withThreads threads).threadCount ≠ 0 from ht) ht'
    capacity capacity backend Iff.rfl rfl
  refine Outcome.eq_iff.mp (hcreate.bind_of_eq ?_)
  intro context context' hcontext hcontext' halike
  have hcapacity := (RegistrationContext.create_ok_iff.mp hcontext).capacity_eq
  have hcapacity' := (RegistrationContext.create_ok_iff.mp hcontext').capacity_eq
  obtain ⟨hresult, hequations⟩ := RegistrationContext.align_related host used used' halike
    (.refl scan.view) (by rw [hcapacity, hcapacity']) initial
  refine Outcome.eq_iff.mpr (congrArg Except.ok ?_)
  exact Prod.ext hresult hequations

/-- No budget and no schedule shows in an alignment, in the nearest neighbours, in the normals or in
the boundary flags of a surface. -/
theorem workers_independent (ht : threads ≠ 0) (ht' : threads' ≠ 0) (host : Host F D)
    (created created' used used' : Scheduler) (initial : RigidTransform D)
    (parameters : RegistrationParameters D) (capacity : ℕ) (radius : D)
    (minimumNeighbors : UInt32) :
    alignTrace host created used reference.view scan.view initial (parameters.withThreads threads)
        capacity .cpu =
      alignTrace host created' used' reference.view scan.view initial
        (parameters.withThreads threads') capacity .cpu ∧
    nearestNeighbors host used reference.view scan.view radius threads =
      nearestNeighbors host used' reference.view scan.view radius threads' ∧
    estimateNormals host used scan.view radius minimumNeighbors threads =
      estimateNormals host used' scan.view radius minimumNeighbors threads' ∧
    detectUnorganizedBoundaries host used scan.view radius threads =
      detectUnorganizedBoundaries host used' scan.view radius threads' := by
  have hthreads : threads = 0 ↔ threads' = 0 := iff_of_false ht ht'
  exact ⟨alignTrace_workers host created created' used used' initial parameters capacity
    .cpu ht ht',
    nearestNeighbors_workers scan.shaped host used used' reference.view radius hthreads,
    estimateNormals_workers scan.shaped host used used' radius minimumNeighbors hthreads,
    detectUnorganizedBoundaries_workers scan.shaped host used used' radius hthreads⟩

theorem exactScattered_accepted : validateSurfaceData ((exactCorners 4).points ++
    List.replicate 256 (exactPoint 9 9 9) ++ (exactCorners 8).points.drop 4) [] [] none =
      .ok 264 := by
  decide +kernel

/-- Two blocks, each with four corners of a cube among points that are far from it. -/
def exactScattered : OwnedSurface (Exact ℚ) :=
  ⟨{ exactLine 264 with
      points := (exactCorners 4).points ++ List.replicate 256 (exactPoint 9 9 9) ++
        (exactCorners 8).points.drop 4 }, exactScattered_accepted⟩

/-- An alignment with the cube from a quarter of a millimetre off. -/
def cubeTrace (scan : OwnedSurface (Exact ℚ)) (count : ℕ) (used : Scheduler) (threads : UInt32) :
    Result (Result (RegistrationMetrics (Exact ℚ)) × List (Equations (Exact ℚ))) :=
  alignTrace solvingHost .sequential used exactCube.view scan.view exactShift
    (exactParameters.withThreads threads) count .cpu

theorem cubeTrace_scattered : ∃ trace, cubeTrace exactScattered 264 .sequential 1 = .ok trace :=
  exists_ok (by decide +kernel)

theorem scattered_neighbors : ∃ nearest, nearestNeighbors solvingHost .sequential exactCube.view
    exactScattered.view (1 : Exact ℚ) 1 = .ok nearest := by
  have hpcl : ∀ cloud point k, ∃ found, solvingHost.pcl.nearestKSearch cloud point k = .ok found :=
    fun _ _ _ => ⟨_, rfl⟩
  obtain ⟨nearest, hnearest, -⟩ := nearestNeighbors_ok hpcl exactCube.shaped (by decide)
    exactScattered.shaped .sequential (1 : Exact ℚ) (show (1 : UInt32) ≠ 0 by decide)
  exact ⟨nearest, hnearest⟩

theorem cubeTrace_corners : ∃ trace, cubeTrace exactCube 8 .sequential 1 = .ok trace ∧
    (trace.1.map RegistrationMetrics.convergence = .ok .converged ∧
      trace.2.map Equations.count = [8, 8]) :=
  exists_ok_and (by decide +kernel)

/-- One worker, and two that take turns at every access, each on a block of its own. The corners
alone, which are one block, are aligned in two passes over all eight. -/
theorem workers_independent_scattered :
    ((CpuExecutor.create 1 264).map CpuExecutor.concurrency = .ok 1 ∧
      (CpuExecutor.create 2 264).map CpuExecutor.concurrency = .ok 2) ∧
    (∃ trace, cubeTrace exactScattered 264 .sequential 1 = .ok trace ∧
      cubeTrace exactScattered 264 .alternating 2 = .ok trace) ∧
    (∃ trace, cubeTrace exactCube 8 .sequential 1 = .ok trace ∧
      cubeTrace exactCube 8 .alternating 2 = .ok trace ∧
      trace.1.map RegistrationMetrics.convergence = .ok .converged ∧
        trace.2.map Equations.count = [8, 8]) ∧
    (∃ nearest, nearestNeighbors solvingHost .sequential exactCube.view exactScattered.view
        (1 : Exact ℚ) 1 = .ok nearest ∧
      nearestNeighbors solvingHost .alternating exactCube.view exactScattered.view
        (1 : Exact ℚ) 2 = .ok nearest) ∧
    estimateNormals solvingHost .sequential exactScattered.view 1 3 1 =
      estimateNormals solvingHost .alternating exactScattered.view 1 3 2 ∧
    detectUnorganizedBoundaries solvingHost .sequential exactScattered.view 1 1 =
      detectUnorganizedBoundaries solvingHost .alternating exactScattered.view 1 2 := by
  have hindependent (scan : OwnedSurface (Exact ℚ)) (count : ℕ) :=
    @workers_independent (Exact ℚ) (Exact ℚ) _ _ _ exactCube scan 1 2 (by decide) (by decide)
      solvingHost .sequential .sequential .sequential .alternating exactShift exactParameters count
      1 3
  obtain ⟨hscattered, hneighbors, hothers⟩ := hindependent exactScattered 264
  have hcorners := (hindependent exactCube 8).1
  obtain ⟨trace, htrace⟩ := cubeTrace_scattered
  obtain ⟨whole, hwhole, haligned⟩ := cubeTrace_corners
  obtain ⟨nearest, hnearest⟩ := scattered_neighbors
  exact ⟨⟨by decide +kernel, by decide +kernel⟩,
    ⟨trace, htrace, hscattered.symm.trans htrace⟩,
    ⟨whole, hwhole, hcorners.symm.trans hwhole, haligned⟩,
    ⟨nearest, hnearest, hneighbors.symm.trans hnearest⟩, hothers⟩

end PointcloudAd
