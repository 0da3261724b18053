import PointcloudAd.Pipeline.Contracts
import PointcloudAd.Pipeline.RelaxedLimits
import PointcloudAd.Registration.ResidentDevice

/-!
# Reports do not show the backend

A run registers on the processor, on the device, or on the one that its sizes select. Without
rounding, and over a device whose calls succeed, the three runs end alike: their reports differ in
the names of the backends only.
-/

namespace PointcloudAd

open Library Registration Cuda

section

variable {D : Type} [FloatArith D]

def ValidatedInspectionConfig.withBackend (config : ValidatedInspectionConfig D)
    (backend : ComputeBackend) : ValidatedInspectionConfig D :=
  { config with execution := { config.execution with backend } }

/-- A report without the names of its backends. -/
def InspectionResult.unnamed (result : InspectionResult D) : InspectionResult D :=
  { result with
    registration := { result.registration with requestedBackend := .cpu, actualBackend := .cpu } }

end

variable {K : Type} [LinearOrder K] [Field K] [FieldFunctions K] [IsStrictOrderedRing K]
  {host : Host (Exact K) (Exact K)} {scheduler : Scheduler}

/-- What a host needs for its device to stand in for its processor. -/
structure Accelerated (nth : NthElement) (covarianceKernel : List (Vec3 (Exact K)) → UInt32 →
    Exact K → Option (List (Covariance (Exact K)))) (host : Host (Exact K) (Exact K)) : Prop where
  device : host.device =
    some (residentDevice (deviceKernels nth .indexed covarianceKernel))
  tree : FindsEveryNearest host.pcl

variable {nth : NthElement} {covarianceKernel : List (Vec3 (Exact K)) → UInt32 → Exact K →
  Option (List (Covariance (Exact K)))}

omit [LinearOrder K] [Field K] [FieldFunctions K] [IsStrictOrderedRing K] in
theorem contextBackend_cases (host : Host (Exact K) (Exact K)) (backend : ComputeBackend)
    (referencePoints capacity : ℕ) :
    contextBackend host backend referencePoints capacity = .cpu ∨
      contextBackend host backend referencePoints capacity = .gpu := by
  unfold contextBackend selectBackend
  cases backend with
  | cpu => exact .inl rfl
  | gpu => exact .inr rfl
  | automatic =>
    rw [if_neg (by simp)]
    split_ifs
    · exact .inr rfl
    · exact .inl rfl

/-- A context on the device that was created for the processor. -/
def RegistrationContext.onDevice (context : RegistrationContext (Exact K) (Exact K))
    (device : Device (Exact K)) : RegistrationContext (Exact K) (Exact K) :=
  { context with backend := .gpu, prepared := context.prepared.onDevice device }

omit [IsStrictOrderedRing K] in
theorem snapshot_size {reference snapshot : OwnedSurface (Exact K)}
    (h : OwnedSurface.create reference.view.points reference.view.normals reference.view.valid
      reference.view.grid reference.view.unit reference.view.frame = .ok snapshot) :
    snapshot.view.size = reference.view.size := by
  have haccepted : validateSurfaceData reference.view.points reference.view.normals
      reference.view.valid reference.view.grid = .ok reference.view.logicalSize :=
    reference.accepted
  rw [OwnedSurface.create_ok haccepted] at h
  rw [← Except.ok.inj h]
  rfl

/-- A context of the processor, or that one on the device. -/
def OnSome (device : Device (Exact K))
    (context' context : RegistrationContext (Exact K) (Exact K)) : Prop :=
  context' = context ∨ context' = context.onDevice device

omit [IsStrictOrderedRing K] in
theorem RegistrationContext.create_backend (hhost : Accelerated nth covarianceKernel host)
    (parameters : RegistrationParameters (Exact K)) (hmethod : parameters.method ≠ .gicp)
    {reference : OwnedSurface (Exact K)} (hsize : reference.view.size ≤ int32Max)
    (scheduler : Scheduler) (capacity : ℕ) (backend : ComputeBackend) :
    Outcome (OnSome (residentDevice (deviceKernels nth .indexed covarianceKernel)))
      (RegistrationContext.create host scheduler reference.view parameters capacity backend)
      (RegistrationContext.create host scheduler reference.view parameters capacity .cpu) := by
  have havailable : registrationBackendAvailable host backend = true := by
    unfold registrationBackendAvailable
    rw [hhost.device]
    cases backend <;> rfl
  have hcpu : contextBackend host .cpu reference.view.size capacity = .cpu := rfl
  unfold RegistrationContext.create
  simp only [havailable, hcpu, show registrationBackendAvailable host .cpu = true from rfl]
  refine (Outcome.eq_iff.mpr rfl).bind fun _ _ _ => (Outcome.eq_iff.mpr rfl).bind fun _ _ _ =>
    (Outcome.eq_iff.mpr rfl).bind fun _ _ _ => (Outcome.eq_iff.mpr rfl).bind_of_eq ?_
  rintro snapshot _ hsnapshot - rfl
  rcases contextBackend_cases host backend reference.view.size capacity with hsame | hgpu
  · rw [hsame]
    exact Outcome.refl (fun _ => .inl rfl) _
  · rw [hgpu]
    have hsnapshotSize : snapshot.view.size ≤ int32Max := by rwa [snapshot_size hsnapshot]
    have hprepared : prepareRegistration host scheduler snapshot.view parameters capacity .gpu =
        (prepareRegistration host scheduler snapshot.view parameters capacity .cpu).map
          fun created => (created.1.onDevice (residentDevice (deviceKernels nth .indexed
            covarianceKernel)), created.2) :=
      Prepared.create_gpu hhost.device hmethod
        (residentDevice_prepare _ hmethod hsnapshotSize) scheduler capacity
    rw [hprepared]
    cases prepareRegistration host scheduler snapshot.view parameters capacity .cpu with
    | error e => exact .error _
    | ok created => exact .ok (.inr rfl)

/-- An alignment on the device gives the metrics of the one on the processor. -/
theorem RegistrationContext.align_backend (hceil : ∀ n : ℕ, FieldFunctions.ceil (n : K) = n)
    (hhost : Accelerated nth covarianceKernel host)
    {parameters : RegistrationParameters (Exact K)} (hmethod : parameters.method ≠ .gicp)
    {reference : OwnedSurface (Exact K)} (hsize : reference.view.size ≤ int32Max) {capacity : ℕ}
    {context context' : RegistrationContext (Exact K) (Exact K)}
    (h : RegistrationContext.create host scheduler reference.view parameters capacity .cpu =
      .ok context)
    (hbackend : OnSome (residentDevice (deviceKernels nth .indexed covarianceKernel)) context'
      context) (scan : OwnedSurface (Exact K)) (initial : RigidTransform (Exact K)) :
    (context'.align host scheduler scan.view initial).1 =
      (context.align host scheduler scan.view initial).1 := by
  rcases hbackend with rfl | rfl
  · rfl
  have hcreated := RegistrationContext.create_ok_iff.mp h
  have hchecks : (context.onDevice (residentDevice (deviceKernels nth .indexed
      covarianceKernel))).checkScan scan.view initial = context.checkScan scan.view initial := rfl
  unfold RegistrationContext.align
  rw [hchecks]
  cases hchecked : context.checkScan scan.view initial with
  | error e => rfl
  | ok _ =>
    have hscan : scan.view.size ≤ int32Max := by
      unfold RegistrationContext.checkScan at hchecked
      obtain ⟨_, hfits, -⟩ := bind_ok_iff.mp hchecked
      have hle := check_ok_iff.mp hfits
      have hbounds := hcreated.bounds
      rw [hcreated.capacity_eq] at hle
      simp only [not_or, not_lt] at hbounds hle
      exact hle.trans hbounds.2.2
    have hprepared :
        Prepared.create host scheduler context.reference.view parameters capacity .cpu =
          .ok (context.prepared, context.buffers) := by
      have hprepared := hcreated.prepared
      rw [hcreated.selected] at hprepared
      exact hprepared
    have hreference : context.reference.view.size ≤ int32Max := by
      rwa [snapshot_size hcreated.snapshot]
    exact align_onDevice hceil nth covarianceKernel hhost.tree hcreated.validated hmethod
      hreference hprepared hscan initial context.buffers context.buffers

/-- A run that registered on another backend. -/
def RegisteredRun.withActual (run : RegisteredRun (Exact K) (Exact K)) (backend : ComputeBackend) :
    RegisteredRun (Exact K) (Exact K) :=
  { run with registered := { run.registered with actualBackend := backend } }

def SameButBackend (run' run : RegisteredRun (Exact K) (Exact K)) : Prop :=
  ∃ backend, run' = run.withActual backend

omit [IsStrictOrderedRing K] in
theorem prepareSurfaces_reference {config : ValidatedInspectionConfig (Exact K)}
    {reference : OwnedSurface (Exact K)} {scan : SurfaceView (Exact K)}
    {surfaces : NormalBoundaryResult (Exact K) × NormalBoundaryResult (Exact K)}
    (h : prepareSurfaces host scheduler config reference.view scan none = .ok surfaces) :
    surfaces.1.surface.view.size = reference.view.size := by
  simp only [prepareSurfaces, bind_ok_iff, pure, Except.pure, Except.ok.injEq] at h
  obtain ⟨referenceMm, hnormalized, scanMm, -, prepared, hprepared, preparedScan, -, rfl⟩ := h
  have hlayout := (normalizeSurface_layout hnormalized).trans
    (prepareNormalsAndBoundaries_layout hprepared)
  unfold SurfaceView.size
  rw [← reference.shaped.length_indices, ← prepared.surface.shaped.length_indices, hlayout.indices]

theorem registerScan_backend (hceil : ∀ n : ℕ, FieldFunctions.ceil (n : K) = n)
    (hhost : Accelerated nth covarianceKernel host) {config : ValidatedInspectionConfig (Exact K)}
    (hmethod : config.registration.method ≠ .gicp) {reference scan : OwnedSurface (Exact K)}
    (hsize : reference.view.size ≤ int32Max) (initial : RigidTransform (Exact K))
    (backend : ComputeBackend) :
    Outcome (fun a b => a.1 = b.1)
      (registerScan host scheduler (config.withBackend backend) reference.view scan.view initial
        none).1
      (registerScan host scheduler (config.withBackend .cpu) reference.view scan.view initial
        none).1 := by
  unfold registerScan
  refine (RegistrationContext.create_backend hhost (toRegistrationParameters config.registration
    config.execution.threadCount) hmethod hsize scheduler scan.view.size backend).bind_of_eq ?_
  intro context' context _ hcpu hsome
  unfold registerIn
  refine Outcome.map (R := Eq) (Outcome.eq_iff.mpr
    (RegistrationContext.align_backend hceil hhost hmethod hsize hcpu hsome scan initial)) ?_
  rintro metrics _ rfl
  rfl

theorem registeredRun_backend (hceil : ∀ n : ℕ, FieldFunctions.ceil (n : K) = n)
    (hhost : Accelerated nth covarianceKernel host) {config : ValidatedInspectionConfig (Exact K)}
    (hmethod : config.registration.method ≠ .gicp) {reference : OwnedSurface (Exact K)}
    (hsize : reference.view.size ≤ int32Max) (scan : SurfaceView (Exact K))
    (request : InspectionRequest (Exact K)) (backend : ComputeBackend) :
    Outcome SameButBackend
      (registeredRun host scheduler (config.withBackend backend) reference.view scan request none)
      (registeredRun host scheduler (config.withBackend .cpu) reference.view scan request
        none) := by
  unfold registeredRun
  refine (Outcome.eq_iff.mpr (rfl : prepareSurfaces host scheduler (config.withBackend backend)
    reference.view scan none = prepareSurfaces host scheduler (config.withBackend .cpu)
      reference.view scan none)).bind_of_eq ?_
  rintro surfaces _ hsurfaces - rfl
  refine (Outcome.eq_iff.mpr rfl).bind ?_
  rintro pose _ rfl
  have hbounded : surfaces.1.surface.view.size ≤ int32Max := by
    rwa [prepareSurfaces_reference hsurfaces]
  refine (registerScan_backend hceil hhost hmethod hbounded pose.1 backend).bind ?_
  rintro ⟨metrics, actual⟩ ⟨_, _⟩ rfl
  exact .ok ⟨actual, rfl⟩

omit [IsStrictOrderedRing K] in
/-- A report names its backends, and does not depend on them otherwise. -/
theorem SameButBackend.inspect {run' run : RegisteredRun (Exact K) (Exact K)}
    (h : SameButBackend run' run) (host : Host (Exact K) (Exact K)) (scheduler : Scheduler)
    (clock : Clock) (config : ValidatedInspectionConfig (Exact K))
    (request : InspectionRequest (Exact K)) (backend backend' : ComputeBackend) :
    (run'.inspect host scheduler clock (config.withBackend backend) request).map
        InspectionResult.unnamed =
      (run.inspect host scheduler clock (config.withBackend backend') request).map
        InspectionResult.unnamed := by
  obtain ⟨actual, rfl⟩ := h
  have haccepted' : (run.withActual actual).accepted (config.withBackend backend) =
    run.accepted (config.withBackend backend') := rfl
  cases haccepted : run.accepted (config.withBackend backend') with
  | false =>
    rw [RegisteredRun.inspect_rejected haccepted,
      RegisteredRun.inspect_rejected (haccepted'.trans haccepted)]
    rfl
  | true =>
    rw [RegisteredRun.inspect_accepted haccepted,
      RegisteredRun.inspect_accepted (haccepted'.trans haccepted)]
    change Except.map _ (run.compare host scheduler (config.withBackend backend') >>= _) =
      Except.map _ (run.compare host scheduler (config.withBackend backend') >>= _)
    cases run.compare host scheduler (config.withBackend backend') with
    | error e => rfl
    | ok comparison =>
      change Except.map _ (Except.map _ (detectDefects host (config.withBackend backend')
          run.reference.surface.view comparison)) =
        Except.map _ (Except.map _ (detectDefects host (config.withBackend backend')
          run.reference.surface.view comparison))
      cases detectDefects host (config.withBackend backend') run.reference.surface.view
        comparison <;> rfl

/-- Without rounding, and over a device whose calls succeed, the reports of two runs that register
on any two backends differ in the names of the backends only; a run fails on all backends or on
none, with one error. Generalized registration is left out: its covariances come from two
libraries. -/
theorem run_backend_independent (hceil : ∀ n : ℕ, FieldFunctions.ceil (n : K) = n)
    (hhost : Accelerated nth covarianceKernel host) {config : ValidatedInspectionConfig (Exact K)}
    (hmethod : config.registration.method ≠ .gicp) {reference : OwnedSurface (Exact K)}
    (hsize : reference.view.size ≤ int32Max) (scan : SurfaceView (Exact K))
    (request : InspectionRequest (Exact K)) (clock : Clock) (backend backend' : ComputeBackend) :
    ((InspectionPipeline.mk (config.withBackend backend)).run host scheduler clock reference.view
        scan request).map InspectionResult.unnamed =
      ((InspectionPipeline.mk (config.withBackend backend')).run host scheduler clock reference.view
        scan request).map InspectionResult.unnamed := by
  have hcpu : ∀ backend : ComputeBackend,
      ((InspectionPipeline.mk (config.withBackend backend)).run host scheduler clock reference.view
          scan request).map InspectionResult.unnamed =
        ((InspectionPipeline.mk (config.withBackend .cpu)).run host scheduler clock reference.view
          scan request).map InspectionResult.unnamed := by
    intro backend
    unfold InspectionPipeline.run
    rw [runImpl_registered, runImpl_registered]
    exact (registeredRun_backend hceil hhost hmethod hsize scan request backend).bind_map_eq
      fun run' run _ _ hsame => hsame.inspect host scheduler clock config request backend .cpu
  exact (hcpu backend).trans (hcpu backend').symm

/-- A host whose device stands in for its processor. -/
def deviceHost : Host (Exact ℚ) (Exact ℚ) :=
  { nearestHost with
    device := some (residentDevice (deviceKernels .sorting .indexed noCovariances)) }

theorem deviceHost_accelerated : Accelerated .sorting noCovariances deviceHost where
  device := rfl
  tree _ hne hall _ hq := keepingNearest_findsNearest hne hall hq

/-- The device passes the plate that the processor passes. -/
theorem run_backend_independent_plate : ∃ report,
    (InspectionPipeline.mk (exactLimits.withBackend .gpu)).run deviceHost .sequential exactClock
        (exactGrid 3 3 3 true fun _ _ => 0) exactRise exactRequest = .ok report ∧
      report.verdict = .pass := by
  let plate := exactPlate 3 3 3 (by decide +kernel)
  have hcpu : (((InspectionPipeline.mk (exactLimits.withBackend .cpu)).run deviceHost .sequential
      exactClock plate.view exactRise exactRequest).map InspectionResult.unnamed).map
        InspectionResult.verdict = .ok .pass := by decide +kernel
  have hlimits : exactLimits.registration.method ≠ .gicp := by decide
  have hplate : plate.view.size ≤ int32Max := by decide
  rw [← run_backend_independent (fun n => by simp [FieldFunctions.ceil]) deviceHost_accelerated
    hlimits hplate exactRise exactRequest exactClock .gpu .cpu] at hcpu
  obtain ⟨unnamed, hunnamed, hverdict⟩ := map_ok_iff.mp hcpu
  obtain ⟨report, hreport, rfl⟩ := map_ok_iff.mp hunnamed
  exact ⟨report, hreport, hverdict⟩

end PointcloudAd
