import PointcloudAd.Pipeline.InspectionPipeline
import PointcloudAd.Registration.History

/-!
# Cached inspections

A context that ran any scans before reports on a scan as a pipeline does that prepares both
surfaces anew.
-/

namespace PointcloudAd

open Library Registration

variable {F D : Type} [FloatArith F] [FloatArith D] [Floats F D]

/-- One run of a history, with the schedule of its workers and the times it reads. -/
structure InspectCall (F D : Type) [FloatArith D] where
  scheduler : Scheduler
  clock : Clock
  scan : SurfaceView F
  request : InspectionRequest D

/-- The context that a sequence of runs leaves. -/
def InspectionContext.after (host : Host F D) (context : InspectionContext F D)
    (history : List (InspectCall F D)) : InspectionContext F D :=
  history.foldl
    (fun context call => (context.run host call.scheduler call.clock call.scan
      call.request).2) context

variable {host : Host F D}

theorem compareSurfaces_workers (scheduler scheduler' : Scheduler)
    (config : ValidatedInspectionConfig D) (reference scan : NormalBoundaryResult F)
    (finalTransform : RigidTransform D) :
    compareSurfaces host scheduler config reference scan finalTransform =
      compareSurfaces host scheduler' config reference scan finalTransform := by
  unfold compareSurfaces
  simp only [fun aligned : OwnedSurface F => computeDeviationField_workers aligned.shaped
    host scheduler
      scheduler' reference.surface.view reference.boundary config.comparison
      (Iff.refl (config.execution.threadCount = 0)),
    fun aligned : OwnedSurface F =>
      computeCoverageField_workers reference.surface.shaped host scheduler
      scheduler' aligned.view scan.boundary config.comparison
      (Iff.refl (config.execution.threadCount = 0))]

theorem RegisteredRun.inspect_untimed (run : RegisteredRun F D) (scheduler scheduler' : Scheduler)
    (clock clock' : Clock) (config : ValidatedInspectionConfig D) (request : InspectionRequest D) :
    (run.inspect host scheduler clock config request).map InspectionResult.untimed =
      (run.inspect host scheduler' clock' config request).map InspectionResult.untimed := by
  cases haccepted : run.accepted config with
  | false =>
    rw [inspect_rejected haccepted, inspect_rejected haccepted]
    rfl
  | true =>
    rw [inspect_accepted haccepted, inspect_accepted haccepted, RegisteredRun.compare,
      RegisteredRun.compare, compareSurfaces_workers scheduler scheduler']
    cases compareSurfaces host scheduler' config run.reference run.scan
        run.registered.metrics.finalTransform with
    | error e => rfl
    | ok comparison =>
      change Except.map _ (Except.map _ (detectDefects host config _ comparison)) =
        Except.map _ (Except.map _ (detectDefects host config _ comparison))
      cases detectDefects host config run.reference.surface.view comparison <;> rfl

theorem prepareSurface_workers (scheduler scheduler' : Scheduler)
    (config : ValidatedInspectionConfig D) (surface : OwnedSurface F) :
    prepareSurface host scheduler config surface.view =
      prepareSurface host scheduler' config surface.view :=
  prepareNormalsAndBoundaries_workers surface.shaped host scheduler scheduler' _ _ _ _ Iff.rfl

/-- A run changes nothing of its context but the buffers of its registration. -/
theorem InspectionContext.run_context (host : Host F D) (context : InspectionContext F D)
    (call : InspectCall F D) :
    ∃ buffers, (context.run host call.scheduler call.clock call.scan call.request).2 =
      { context with registration := { context.registration with buffers := buffers } } := by
  have hended : ∃ buffers, (runImpl host call.scheduler call.clock context.config
      context.reference.surface.view call.scan call.request
      (some (context.reference, context.registration))).2 =
        some { context.registration with buffers := buffers } := by
    cases hsurfaces : prepareSurfaces host call.scheduler context.config
        context.reference.surface.view call.scan (some context.reference) with
    | error e => exact ⟨context.registration.buffers, by rw [runImpl_unprepared hsurfaces]; rfl⟩
    | ok surfaces =>
      cases hpose : initialPose call.request surfaces.1.surface.view surfaces.2.surface.view with
      | error e => exact ⟨context.registration.buffers,
        by rw [runImpl_unposed hsurfaces hpose]; rfl⟩
      | ok pose =>
        obtain ⟨buffers, halign⟩ := context.registration.align_context host
          call.scheduler surfaces.2.surface.view pose.1
        exact ⟨buffers, by rw [runImpl_posed hsurfaces hpose]; exact congrArg some halign⟩
  obtain ⟨buffers, hended⟩ := hended
  unfold InspectionContext.run
  split_ifs
  · exact ⟨context.registration.buffers, rfl⟩
  · refine ⟨buffers, ?_⟩
    dsimp only
    rw [hended]
    rfl

theorem InspectionContext.after_context (host : Host F D) :
    ∀ (history : List (InspectCall F D)) (context : InspectionContext F D),
      ∃ buffers, context.after host history =
        { context with registration := { context.registration with buffers := buffers } }
  | [], context => ⟨context.registration.buffers, rfl⟩
  | call :: history, context => by
    obtain ⟨buffers, hcall⟩ := context.run_context host call
    obtain ⟨buffers', hafter⟩ := after_context host history
      (context.run host call.scheduler call.clock call.scan call.request).2
    refine ⟨buffers', ?_⟩
    rw [hcall] at hafter
    rw [← hafter, ← hcall]
    rfl

/-- What the creation of an inspection context has prepared. -/
structure Inspected (host : Host F D) (scheduler : Scheduler) (config : InspectionConfig D)
    (reference : SurfaceView F) (capacity : ℕ) (context : InspectionContext F D) : Prop where
  validated : validateConfig config = .ok context.config
  prepared : ∃ normalized, normalizeInPlace D reference = .ok normalized ∧
    prepareSurface host scheduler context.config normalized.view = .ok context.reference
  registration : RegistrationContext.create host scheduler context.reference.surface.view
    (toRegistrationParameters context.config.registration context.config.execution.threadCount)
    capacity context.config.execution.backend = .ok context.registration
  capacity_eq : context.capacity = capacity

variable {scheduler : Scheduler} {config : InspectionConfig D} {reference : SurfaceView F}
  {capacity : ℕ} {context : InspectionContext F D}

theorem InspectionContext.create_ok
    (h : InspectionContext.create host scheduler config reference capacity = .ok context) :
    Inspected host scheduler config reference capacity context := by
  unfold InspectionContext.create at h
  simp only [bind_ok_iff, pure, Except.pure, Except.ok.injEq] at h
  obtain ⟨_, -, options, hoptions, normalized, hnormalized, prepared, hprepared, registration,
    hregistration, rfl⟩ := h
  exact ⟨hoptions, ⟨normalized, hnormalized, hprepared⟩, hregistration, rfl⟩

theorem Inspected.prepareSurfaces_eq
    (h : Inspected host scheduler config reference capacity context) (used fresh : Scheduler)
    (ignored scan : SurfaceView F) :
    prepareSurfaces host used context.config ignored scan (some context.reference) =
      prepareSurfaces host fresh context.config reference scan none := by
  obtain ⟨normalized, hnormalized, hprepared⟩ := h.prepared
  have hreference : prepareSurface host fresh context.config normalized.view =
      .ok context.reference := (prepareSurface_workers fresh scheduler _ normalized).trans hprepared
  unfold prepareSurfaces
  dsimp only
  rw [hnormalized]
  cases normalizeInPlace D scan with
  | error e => rfl
  | ok scanMm =>
    change (prepareSurface host used context.config scanMm.view >>= fun _ => _) =
      (prepareSurface host fresh context.config normalized.view >>= fun _ => _)
    rw [hreference, prepareSurface_workers used fresh]
    rfl

theorem prepareSurfaces_size {used : Scheduler} {options : ValidatedInspectionConfig D}
    {scan : OwnedSurface F} {cached : NormalBoundaryResult F}
    {surfaces : NormalBoundaryResult F × NormalBoundaryResult F}
    (h : prepareSurfaces host used options reference scan.view (some cached) = .ok surfaces) :
    surfaces.1 = cached ∧ surfaces.2.surface.view.size = scan.view.size := by
  simp only [prepareSurfaces, bind_ok_iff, pure, Except.pure, Except.ok.injEq] at h
  obtain ⟨scanMm, hnormalized, scanPrepared, hprepared, rfl⟩ := h
  have hlayout := (normalizeSurface_layout hnormalized).trans
    (prepareNormalsAndBoundaries_layout hprepared)
  refine ⟨rfl, ?_⟩
  unfold SurfaceView.size
  rw [← scan.shaped.length_indices, ← scanPrepared.surface.shaped.length_indices, hlayout.indices]

/-- A registration in a used context is the registration in one that is built for the scan. -/
theorem Inspected.registerScan_eq
    (h : Inspected host scheduler config reference capacity context)
    (hcpu : context.config.execution.backend = .cpu) (used fresh : Scheduler)
    (ignored scan : SurfaceView F) (initial : RigidTransform D) (hpositive : scan.size ≠ 0)
    (hsize : scan.size ≤ capacity) (buffers : Buffers F D) :
    (registerScan host used context.config ignored scan initial
        (some { context.registration with buffers := buffers })).1 =
      (registerScan host fresh context.config context.reference.surface.view scan initial
        none).1 := by
  have hcreated := RegistrationContext.create_ok_iff.mp h.registration
  have hselected : contextBackend host context.config.execution.backend
      context.reference.surface.view.size capacity = .cpu := by
    rw [hcpu]
    rfl
  have hbounds := hcreated.bounds
  obtain ⟨context', hcreate, halike, hcapacity⟩ := hcreated.create_alike fresh
    scan.size (by omega)
    (hselected.trans (contextBackend_cpu hsize hselected).symm)
  have hused : ContextsAlike { context.registration with buffers := buffers } context' :=
    ⟨halike.prepared, halike.reference, halike.backend, halike.parameters, halike.threads,
      halike.threads'⟩
  unfold registerScan registerIn
  dsimp only
  rw [hcreate]
  change Except.map _ _ = Except.map _ _
  rw [(RegistrationContext.align_related host used fresh hused (.refl scan) ?_ initial).1,
    ← hused.backend]
  have := hcreated.capacity_eq
  change context.registration.capacity < scan.size ↔ context'.capacity < scan.size
  omega

/-- A run in a context, after any history of runs, reports what the pipeline reports. -/
theorem inspection_after_history (scan : OwnedSurface F)
    (hcontext : InspectionContext.create host scheduler config reference capacity = .ok context)
    (hcpu : config.execution.backend = .cpu) (hsize : scan.view.size ≤ capacity)
    (history : List (InspectCall F D)) (used fresh : Scheduler) (clock clock' : Clock)
    (request : InspectionRequest D) :
    ((context.after host history).run host used clock scan.view request).1.map
        InspectionResult.untimed =
      (do
        let pipeline ← InspectionPipeline.create config
        pipeline.run host fresh clock' reference scan.view request).map
          InspectionResult.untimed := by
  have hinspected := InspectionContext.create_ok hcontext
  have hbackend := (validateConfig_backend hinspected.validated).trans hcpu
  obtain ⟨buffers, hafter⟩ := InspectionContext.after_context host history context
  have hfits : ¬ context.capacity < scan.view.size := by
    rw [hinspected.capacity_eq]
    omega
  have hpipeline : InspectionPipeline.create config = .ok ⟨context.config⟩ := by
    rw [InspectionPipeline.create, hinspected.validated]
    rfl
  rw [hafter, hpipeline, InspectionContext.run, if_neg hfits]
  change Except.map _ (runImpl host used clock context.config
    context.reference.surface.view scan.view
      request (some (context.reference, _))).1 =
    Except.map _ (runImpl host fresh clock' context.config reference scan.view request none).1
  cases hsurfaces : prepareSurfaces host used context.config
    context.reference.surface.view scan.view
      (some context.reference) with
  | error e =>
    have hfresh := hsurfaces
    rw [hinspected.prepareSurfaces_eq used fresh] at hfresh
    rw [runImpl_unprepared hsurfaces, runImpl_unprepared hfresh]
  | ok surfaces =>
    have hfresh := hsurfaces
    rw [hinspected.prepareSurfaces_eq used fresh] at hfresh
    cases hpose : initialPose request surfaces.1.surface.view surfaces.2.surface.view with
    | error e => rw [runImpl_unposed hsurfaces hpose, runImpl_unposed hfresh hpose]
    | ok pose =>
      obtain ⟨hreference, hscan⟩ := prepareSurfaces_size hsurfaces
      have hpositive := scan.shaped.size_ne_zero
      rw [runImpl_posed hsurfaces hpose, runImpl_posed hfresh hpose]
      dsimp only [Option.map_some, Option.map_none]
      rw [hreference, hinspected.registerScan_eq hbackend used fresh _ _ pose.1
        (by omega) (by omega)]
      cases (registerScan host fresh context.config context.reference.surface.view
          surfaces.2.surface.view pose.1 none).1 with
      | error e => rfl
      | ok registered => exact RegisteredRun.inspect_untimed ⟨_, _, _⟩ used fresh clock clock' ..

/-- A grid of points one millimetre apart at given heights, with normals along the third axis or
none. Padding holds points too. -/
def exactGrid (width height rowStride : UInt32) (oriented : Bool) (z : ℕ → ℕ → ℚ) :
    SurfaceView (Exact ℚ) :=
  let storage := List.range ((height.toNat - 1) * rowStride.toNat + width.toNat)
  { points := storage.map fun i => exactPoint (i % rowStride.toNat : ℕ) (i / rowStride.toNat : ℕ)
      (z (i / rowStride.toNat) (i % rowStride.toNat))
    normals := if oriented then storage.map fun _ => exactPoint 0 0 1 else []
    valid := []
    grid := some ⟨width, height, rowStride⟩
    unit := .millimeter
    frame := exactFrame
    logicalSize := width.toNat * height.toNat }

/-- A flat grid. -/
def exactPlate (width height rowStride : UInt32)
    (h : validateSurfaceData (exactGrid width height rowStride true fun _ _ => 0).points
      (exactGrid width height rowStride true fun _ _ => 0).normals []
      (some ⟨width, height, rowStride⟩) = .ok (width.toNat * height.toNat)) :
    OwnedSurface (Exact ℚ) :=
  ⟨exactGrid width height rowStride true fun _ _ => 0, h⟩

def exactConfig : InspectionConfig (Exact ℚ) where
  schemaVersion := utf8 "1.0"
  profile := utf8 "plate"
  input := ⟨some .millimeter, some .millimeter, some exactFrame, some exactFrame⟩
  preprocess := ⟨some (.fin 1), some (.fin (29 / 20)), some 3, some (.fin 2)⟩
  registration := ⟨some 4, some (.fin 1), some (.fin 1), some (.fin (1 / 1000)),
    some (.fin (1 / 1000)), some (.fin (1 / 1000)), .pointToPoint⟩
  registrationGate := ⟨some (.fin (1 / 2)), some (.fin 1), some 1, some (.fin 1), some (.fin 1)⟩
  comparison := ⟨some (.fin 1), some (.fin 90), some (.fin 0), some (.fin 0)⟩
  detection := ⟨some (.fin (1 / 2)), some (.fin (-1 / 2)), some (.fin 1), some 1, some (.fin 0)⟩
  execution := ⟨some true, some 1, some 0, .cpu⟩

def exactClock : Clock := ⟨[], fun _ => 0⟩

def exactRequest : InspectionRequest (Exact ℚ) := ⟨none, []⟩

/-- A context of six points that refused nine and inspected six inspects six as a pipeline does. -/
theorem inspection_after_refusal : ∃ context, InspectionContext.create exactHost .sequential
      exactConfig (exactGrid 3 2 3 true fun _ _ => 0) 6 = .ok context ∧
    ((context.after exactHost [
        ⟨.sequential, exactClock, exactGrid 3 3 3 true fun _ _ => 0, exactRequest⟩,
        ⟨.sequential, exactClock, exactGrid 3 2 3 true fun _ _ => 0, exactRequest⟩]).run exactHost
          .sequential exactClock (exactGrid 3 2 4 true fun _ _ => 0) exactRequest).1.map
        InspectionResult.untimed =
      (do
        let pipeline ← InspectionPipeline.create exactConfig
        pipeline.run exactHost .sequential exactClock (exactGrid 3 2 3 true fun _ _ => 0)
          (exactGrid 3 2 4 true fun _ _ => 0) exactRequest).map InspectionResult.untimed := by
  obtain ⟨context, hcontext⟩ : ∃ context, InspectionContext.create exactHost .sequential exactConfig
      (exactGrid 3 2 3 true fun _ _ => 0) 6 = .ok context := exists_ok (by decide +kernel)
  exact ⟨context, hcontext, inspection_after_history
    (exactPlate 3 2 4 (by decide +kernel)) hcontext rfl (by decide) _ .sequential .sequential
    exactClock exactClock exactRequest⟩

end PointcloudAd
