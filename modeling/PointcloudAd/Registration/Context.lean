import PointcloudAd.Registration.Prepared

/-!
# Registration contexts

A context owns a snapshot of a reference and its preparation, and aligns scans against it. The
one-shot registration builds a context for its scan and aligns it once.
-/

namespace PointcloudAd

open Library Registration

variable {F D : Type} [FloatArith F] [FloatArith D] [Floats F D]

def contextError (message : String) (code : ErrorCode) : Error := ⟨code, .registration, message, []⟩

def catchContext : Exn → Error
  | .invalidArgument what => contextError what .invalidInput
  | .exception what => contextError what .internalError
  | .unknown => contextError "unknown context preparation exception" .internalError

def int32Max : ℕ := 2 ^ 31 - 1

def automaticGpuMinPoints : ℕ := 65536

def gpuSizeEligible (referencePoints scanCapacity : ℕ) : Bool :=
  automaticGpuMinPoints ≤ referencePoints && automaticGpuMinPoints ≤ scanCapacity

def selectBackend (requested : ComputeBackend) (referencePoints scanCapacity : ℕ)
    (gpuAvailable : Bool) : ComputeBackend :=
  if requested ≠ .automatic then requested
  else if gpuAvailable && gpuSizeEligible referencePoints scanCapacity then .gpu else .cpu

def registrationBackendAvailable (host : Host F D) (backend : ComputeBackend) : Bool :=
  backend = .cpu || backend = .automatic || (backend = .gpu && host.device.any Device.available)

def prepareRegistration (host : Host F D) (scheduler : Scheduler) (reference : SurfaceView F)
    (parameters : RegistrationParameters D) (maxScanPoints : ℕ) (backend : ComputeBackend) :
    Except Exn (Prepared F D × Buffers F D) :=
  if backend ≠ .cpu ∧ backend ≠ .gpu then
    .error (.invalidArgument "unsupported registration backend")
  else Prepared.create host scheduler reference parameters maxScanPoints backend

/-- The buffers are the part that an alignment changes. -/
structure RegistrationContext (F D : Type) [FloatArith F] [FloatArith D] where
  reference : OwnedSurface F
  parameters : RegistrationParameters D
  capacity : ℕ
  backend : ComputeBackend
  prepared : Prepared F D
  buffers : Buffers F D

/-- The backend a context is built for. -/
def contextBackend (host : Host F D) (backend : ComputeBackend) (referencePoints : ℕ)
    (maxScanPoints : ℕ) : ComputeBackend :=
  selectBackend backend referencePoints maxScanPoints
    (backend = .automatic && gpuSizeEligible referencePoints maxScanPoints &&
      registrationBackendAvailable host .gpu)

def RegistrationContext.create (host : Host F D) (scheduler : Scheduler)
    (reference : SurfaceView F) (parameters : RegistrationParameters D) (maxScanPoints : ℕ)
    (backend : ComputeBackend) : Result (RegistrationContext F D) := do
  validateRegistrationParameters parameters
  check (¬ (reference.unit ≠ .millimeter ∨ maxScanPoints = 0 ∨ int32Max < maxScanPoints))
    (contextError "reference must use millimetres; scan capacity must be in [1, INT32_MAX]"
      .invalidInput)
  check (registrationBackendAvailable host backend)
    (contextError "requested registration backend is unavailable" .invalidArgument)
  let snapshot ← OwnedSurface.create reference.points reference.normals reference.valid
    reference.grid reference.unit reference.frame
  let selected := contextBackend host backend reference.size maxScanPoints
  let (prepared, buffers) ← (prepareRegistration host scheduler snapshot.view parameters
    maxScanPoints selected).mapError catchContext
  return ⟨snapshot, parameters, maxScanPoints, selected, prepared, buffers⟩

/-- The checks before an alignment reaches the preparation. -/
def RegistrationContext.checkScan (context : RegistrationContext F D) (scan : SurfaceView F)
    (initial : RigidTransform D) : Result Unit := do
  check (¬ context.capacity < scan.size)
    (contextError "scan exceeds context logical-point capacity" .invalidInput)
  checkRegistrationInput context.reference.view scan initial context.parameters
  (SurfaceView.create scan.points scan.normals scan.valid scan.grid scan.unit scan.frame).map
    fun _ => ()

/-- An alignment: its result, the context it leaves, and the equations of its passes. -/
def RegistrationContext.align (host : Host F D) (scheduler : Scheduler)
    (context : RegistrationContext F D) (scan : SurfaceView F) (initial : RigidTransform D) :
    Result (RegistrationMetrics D) × RegistrationContext F D × List (Equations D) :=
  match context.checkScan scan initial with
  | .error e => (.error e, context, [])
  | .ok () =>
    let ended := context.prepared.align host scheduler context.buffers scan initial
    (ended.1, { context with buffers := ended.2.1 }, ended.2.2)

def registerSurfaces (host : Host F D) (scheduler : Scheduler) (reference scan : SurfaceView F)
    (initial : RigidTransform D) (parameters : RegistrationParameters D)
    (backend : ComputeBackend) : Result (RegistrationMetrics D) := do
  checkRegistrationInput reference scan initial parameters
  let context ← RegistrationContext.create host scheduler reference parameters scan.size backend
  (context.align host scheduler scan initial).1

variable {host : Host F D} {scheduler scheduler' : Scheduler} {reference : SurfaceView F}
  {parameters : RegistrationParameters D} {capacity capacity' : ℕ} {backend : ComputeBackend}

/-- What the creation of a context has checked, and what the context holds. -/
structure Created (host : Host F D) (scheduler : Scheduler) (reference : SurfaceView F)
    (parameters : RegistrationParameters D) (capacity : ℕ) (backend : ComputeBackend)
    (context : RegistrationContext F D) : Prop where
  validated : validateRegistrationParameters parameters = .ok ()
  bounds : ¬ (reference.unit ≠ .millimeter ∨ capacity = 0 ∨ int32Max < capacity)
  available : registrationBackendAvailable host backend = true
  snapshot : OwnedSurface.create reference.points reference.normals reference.valid reference.grid
    reference.unit reference.frame = .ok context.reference
  selected : context.backend = contextBackend host backend reference.size capacity
  prepared : prepareRegistration host scheduler context.reference.view parameters capacity
    context.backend = .ok (context.prepared, context.buffers)
  parameters_eq : context.parameters = parameters
  capacity_eq : context.capacity = capacity

theorem RegistrationContext.create_ok_iff {context : RegistrationContext F D} :
    RegistrationContext.create host scheduler reference parameters capacity backend =
      .ok context ↔ Created host scheduler reference parameters capacity backend context := by
  unfold RegistrationContext.create
  simp only [bind_ok_iff, check_ok_iff, mapError_ok_iff, pure, Except.pure, Except.ok.injEq]
  constructor
  · rintro ⟨_, hv, _, hb, _, ha, snapshot, hs, ⟨prepared, buffers⟩, hp, rfl⟩
    exact ⟨hv, hb, ha, hs, rfl, hp, rfl, rfl⟩
  · rintro ⟨hv, hb, ha, hs, hsel, hp, rfl, rfl⟩
    refine ⟨(), hv, (), hb, (), ha, context.reference, hs, (context.prepared, context.buffers), ?_,
      ?_⟩
    · rw [← hsel]
      exact hp
    · rw [← hsel]

/-- Two contexts whose preparations differ in their workers only. -/
structure ContextsAlike (context context' : RegistrationContext F D) : Prop where
  prepared : context.prepared.Alike context'.prepared
  reference : Corresponds context.reference.view context'.reference.view
  backend : context'.backend = context.backend
  parameters : context'.parameters =
    context.parameters.withThreads context'.parameters.threadCount
  threads : context.parameters.threadCount ≠ 0
  threads' : context'.parameters.threadCount ≠ 0

theorem validateRegistrationParameters_withThreads {parameters : RegistrationParameters D}
    {threads : UInt32} (ht : parameters.threadCount ≠ 0) (ht' : threads ≠ 0) :
    validateRegistrationParameters (parameters.withThreads threads) =
      validateRegistrationParameters parameters := by
  have ht'' : (parameters.withThreads threads).threadCount ≠ 0 := ht'
  unfold validateRegistrationParameters
  rw [if_neg ht, if_neg ht'']
  rfl

/-- Contexts over corresponding references are alike, or cannot be created alike. -/
theorem RegistrationContext.create_related (host : Host F D) (scheduler scheduler' : Scheduler)
    {reference' : SurfaceView F} {threads : UInt32} (h : Corresponds reference reference')
    (ht : parameters.threadCount ≠ 0) (ht' : threads ≠ 0) (capacity capacity' : ℕ)
    (backend : ComputeBackend)
    (hcapacity : (capacity = 0 ∨ int32Max < capacity) ↔ (capacity' = 0 ∨ int32Max < capacity'))
    (hbackend : contextBackend host backend reference.size capacity =
      contextBackend host backend reference'.size capacity') :
    Outcome ContextsAlike
      (RegistrationContext.create host scheduler reference parameters capacity backend)
      (RegistrationContext.create host scheduler' reference' (parameters.withThreads threads)
        capacity' backend) := by
  unfold RegistrationContext.create
  rw [validateRegistrationParameters_withThreads ht ht', ← h.unit, ← h.frame, ← hbackend]
  simp only [hcapacity]
  refine (Outcome.eq_iff.mpr rfl).bind fun _ _ _ => ?_
  refine (Outcome.eq_iff.mpr rfl).bind fun _ _ _ => ?_
  refine (Outcome.eq_iff.mpr rfl).bind fun _ _ _ => ?_
  refine (h.create reference.unit reference.frame rfl rfl h.left.normals h.right.normals
    h.left.valid h.right.valid h.left.mask h.right.mask h.hasNormals h.valid h.points
      h.normals).bind
    fun snapshot snapshot' hsnapshot => ?_
  have hprepared : Outcome (fun a b => a.1.Alike b.1)
      (prepareRegistration host scheduler snapshot.view parameters capacity
        (contextBackend host backend reference.size capacity))
      (prepareRegistration host scheduler' snapshot'.view (parameters.withThreads threads)
        capacity' (contextBackend host backend reference.size capacity)) := by
    unfold prepareRegistration
    split_ifs
    · exact .error _
    · exact Prepared.create_alike host scheduler scheduler'
        (extractValid_eq hsnapshot) parameters ht
        ht' capacity capacity' _
  exact (hprepared.mapError catchContext).bind fun a b hab =>
    .ok ⟨hab, hsnapshot, rfl, rfl, ht, ht'⟩

/-- Two scans that an alignment cannot tell apart. -/
structure ScansAlike (D : Type) [FloatArith D] [Floats F D]
    (scan scan' : SurfaceView F) : Prop where
  size : scan'.size = scan.size
  unit : scan'.unit = scan.unit
  frame : scan'.frame = scan.frame
  checked : (SurfaceView.create scan'.points scan'.normals scan'.valid scan'.grid scan'.unit
      scan'.frame).map (fun _ => ()) =
    (SurfaceView.create scan.points scan.normals scan.valid scan.grid scan.unit scan.frame).map
      fun _ => ()
  cloud : extractValid D scan = extractValid D scan'

theorem ScansAlike.refl (scan : SurfaceView F) : ScansAlike D scan scan := ⟨rfl, rfl, rfl, rfl, rfl⟩

theorem ScansAlike.of_corresponds {scan scan' : OwnedSurface F}
    (h : Corresponds scan.view scan'.view) : ScansAlike D scan.view scan'.view := by
  refine ⟨h.size.symm, h.unit.symm, h.frame.symm, ?_, extractValid_eq h⟩
  have hs : validateSurfaceData scan.view.points scan.view.normals scan.view.valid scan.view.grid =
    .ok scan.view.logicalSize := scan.accepted
  have hs' : validateSurfaceData scan'.view.points scan'.view.normals scan'.view.valid
    scan'.view.grid = .ok scan'.view.logicalSize := scan'.accepted
  unfold SurfaceView.create
  rw [hs, hs']
  rfl

/-- Alignments in alike contexts end alike: nothing of what earlier calls left in the buffers, of
the workers or of their schedule shows in a result. -/
theorem RegistrationContext.align_related (host : Host F D) (scheduler scheduler' : Scheduler)
    {context context' : RegistrationContext F D} (h : ContextsAlike context context')
    {scan scan' : SurfaceView F} (hs : ScansAlike D scan scan')
    (hcapacity : context.capacity < scan.size ↔ context'.capacity < scan'.size)
    (initial : RigidTransform D) :
    (context.align host scheduler scan initial).1 =
        (context'.align host scheduler' scan' initial).1 ∧
      (context.align host scheduler scan initial).2.2 =
        (context'.align host scheduler' scan' initial).2.2 := by
  have hinput : checkRegistrationInput context.reference.view scan initial context.parameters =
      checkRegistrationInput context'.reference.view scan' initial context'.parameters := by
    unfold checkRegistrationInput SurfaceView.size
    rw [h.parameters, validateRegistrationParameters_withThreads h.threads h.threads',
      h.reference.size, h.reference.unit, h.reference.frame, hs.unit, hs.frame,
      show scan'.logicalSize = scan.logicalSize from hs.size]
  have hcheck : context.checkScan scan initial = context'.checkScan scan' initial := by
    unfold RegistrationContext.checkScan
    rw [hinput, hs.checked]
    simp only [hcapacity]
  unfold RegistrationContext.align
  rw [hcheck]
  cases context'.checkScan scan' initial with
  | error e => exact ⟨rfl, rfl⟩
  | ok u => exact align_alike h.prepared host scheduler scheduler' hs.cloud initial _ _

end PointcloudAd
