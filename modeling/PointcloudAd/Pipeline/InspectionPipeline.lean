import PointcloudAd.Pipeline.Report
import PointcloudAd.Preprocess.NormalBoundary
import PointcloudAd.Registration.Context

/-!
# The inspection pipeline

Normalization, preparation, registration, its gate, transformation, comparison, the coverage gate,
detection and the verdict. A pipeline runs all of it on two surfaces; a context keeps a prepared
reference and a registration context for many scans.
-/

namespace PointcloudAd

open Library Registration

variable {F D : Type} [FloatArith F] [FloatArith D] [Floats F D]

def pipelineError (code : ErrorCode) (message : String) : Error := ⟨code, .none, message, []⟩

def versionString : Bytes := utf8 "0.1.0"

def kIdentity : Matrix4 D := ![1, 0, 0, 0, 0, 1, 0, 0, 0, 0, 1, 0, 0, 0, 0, 1]

def toRegistrationParameters (config : ValidatedRegistrationConfig D) (threads : UInt32) :
    RegistrationParameters D :=
  { maxIterations := config.maxIterations
    maxCorrespondenceDistanceMm := config.maxCorrespondenceDistanceMm
    huberDeltaMm := config.huberDeltaMm
    translationEpsilonMm := config.translationEpsilonMm
    rotationEpsilonRad := config.rotationEpsilonRad
    residualEpsilonMm := config.residualEpsilonMm
    method := config.method
    threadCount := threads }

def terminationReason : RegistrationConvergence → String
  | .converged => "converged"
  | .notConverged => "not_converged"
  | .degenerateInput => "degenerate_input"

/-- Missing material is always rejected; a deviation from twice the larger threshold on. -/
def defaultSeverity (type : DefectType) (maxAbs : D) (config : ValidatedDetectionConfig D) :
    Severity :=
  if type = .missingMaterial then .reject
  else if lit 2 * stdMax config.positiveThresholdMm (-config.negativeThresholdMm) ≤ maxAbs then
    .reject
  else .warning

def prepareSurface (host : Host F D) (scheduler : Scheduler)
    (config : ValidatedInspectionConfig D) (surface : SurfaceView F) :
    Result (NormalBoundaryResult F) :=
  prepareNormalsAndBoundaries host scheduler surface config.preprocess.normalRadiusMm
    config.preprocess.normalMinNeighbors config.preprocess.boundaryRadiusMm .none
    config.execution.threadCount

variable (D) in
/-- Millimetres, in the frame the surface has. -/
def normalizeInPlace (surface : SurfaceView F) : Result (OwnedSurface F) :=
  normalizeSurface (D := D) surface surface.frame none

/-- P01 to P03. A cached reference is already normalized and prepared. -/
def prepareSurfaces (host : Host F D) (scheduler : Scheduler)
    (config : ValidatedInspectionConfig D) (reference scan : SurfaceView F)
    (cached : Option (NormalBoundaryResult F)) :
    Result (NormalBoundaryResult F × NormalBoundaryResult F) := do
  match cached with
  | some prepared =>
    let scanMm ← normalizeInPlace D scan
    let scanPrepared ← prepareSurface host scheduler config scanMm.view
    return (prepared, scanPrepared)
  | none =>
    let referenceMm ← normalizeInPlace D reference
    let scanMm ← normalizeInPlace D scan
    let referencePrepared ← prepareSurface host scheduler config referenceMm.view
    let scanPrepared ← prepareSurface host scheduler config scanMm.view
    return (referencePrepared, scanPrepared)

/-- The initial pose of a registration: the identity, with a diagnostic, when none is requested. -/
def initialPose (request : InspectionRequest D) (reference scan : SurfaceView F) :
    Result (RigidTransform D × List Diagnostic) :=
  match request.initialPose with
  | some pose =>
    if pose.sourceFrame ≠ scan.frame ∨ pose.targetFrame ≠ reference.frame then
      .error (pipelineError .invalidInput
        "initial pose frame direction must match scan-to-reference")
    else .ok (pose, [])
  | none =>
    (RigidTransform.create kIdentity scan.frame reference.frame (lit (1 / 10 ^ 9))).map fun pose =>
      (pose, [⟨.invalidInput, .registration, "no initial pose provided; using identity", []⟩])

/-- The registration of a scan in a context, and the context it leaves. -/
def registerIn (host : Host F D) (scheduler : Scheduler) (context : RegistrationContext F D)
    (scan : SurfaceView F) (initial : RigidTransform D) :
    Result (RegistrationMetrics D × ComputeBackend) × RegistrationContext F D :=
  let ended := context.align host scheduler scan initial
  (ended.1.map fun metrics => (metrics, context.backend), ended.2.1)

/-- P04. Without a context, one is built for the scan. -/
def registerScan (host : Host F D) (scheduler : Scheduler) (config : ValidatedInspectionConfig D)
    (reference scan : SurfaceView F) (initial : RigidTransform D)
    (context : Option (RegistrationContext F D)) :
    Result (RegistrationMetrics D × ComputeBackend) × Option (RegistrationContext F D) :=
  match context with
  | some context =>
    let ended := registerIn host scheduler context scan initial
    (ended.1, some ended.2)
  | none =>
    (do
      let context ← RegistrationContext.create host scheduler reference
        (toRegistrationParameters config.registration config.execution.threadCount) scan.size
        config.execution.backend
      (registerIn host scheduler context scan initial).1, none)

/-- What is compared: the scan in the frame of the reference, and the two fields. -/
structure Comparison (F D : Type) [FloatArith F] where
  alignedScan : OwnedSurface F
  deviation : DeviationField D
  coverage : CoverageField D

/-- P06 and P07. -/
def compareSurfaces (host : Host F D) (scheduler : Scheduler)
    (config : ValidatedInspectionConfig D) (reference scan : NormalBoundaryResult F)
    (finalTransform : RigidTransform D) : Result (Comparison F D) := do
  let alignedScan ← normalizeSurface scan.surface.view reference.surface.view.frame
    (some finalTransform)
  let deviation ← computeDeviationField host scheduler reference.surface.view reference.boundary
    alignedScan.view config.comparison config.execution.threadCount
  let coverage ← computeCoverageField host scheduler reference.surface.view alignedScan.view
    scan.boundary config.comparison config.execution.threadCount
  return ⟨alignedScan, deviation, coverage⟩

/-- A region of the report, with its severity. -/
def rated (config : ValidatedDetectionConfig D) (region : DefectRegion D) : DefectRegion D :=
  { region with severity := defaultSeverity region.type region.maxAbsMm config }

/-- P09. Identifiers number the regions of both kinds in order. -/
def detectDefects (host : Host F D) (config : ValidatedInspectionConfig D)
    (reference : SurfaceView F) (comparison : Comparison F D) : Result (List (DefectRegion D)) := do
  let deviationClusters ← clusterDeviationDefects host comparison.alignedScan.view
    comparison.deviation config.detection
  let missingClusters ← clusterMissingMaterial host reference comparison.coverage config.detection
  let deviationRegions ← deviationClusters.zipIdx.mapM fun (cluster, id) =>
    measureDeviationRegion cluster comparison.alignedScan.view comparison.deviation id
  let missingRegions ← (missingClusters.zipIdx deviationClusters.length).mapM fun (cluster, id) =>
    measureMissingRegion cluster reference id
  return (deviationRegions ++ missingRegions).map (rated config.detection)

/-- P10. Neither low coverage nor a lack of deviations can pass. -/
def finalVerdict (coverageFailed : Bool) (validCount : ℕ) (regions : List (DefectRegion D)) :
    Verdict :=
  if coverageFailed ∨ validCount = 0 then .indeterminate
  else if regions.any fun region => region.severity = .reject then .fail else .pass

def provenance (clock : Clock) (config : ValidatedInspectionConfig D)
    (request : InspectionRequest D) : Provenance :=
  { schemaVersion := config.schemaVersion
    runId := request.runId
    profile := config.profile
    generatorVersion := versionString
    timestampUtc := clock.timestampUtc
    deterministic := config.execution.deterministic
    threadCount := config.execution.threadCount
    randomSeed := config.execution.randomSeed }

def registrationResult (config : ValidatedInspectionConfig D) (initial : RigidTransform D)
    (metrics : RegistrationMetrics D) (actualBackend : ComputeBackend) : RegistrationResult D :=
  { initialPose := some initial
    finalPose := some metrics.finalTransform
    iterations := metrics.iterations
    converged := metrics.convergence = .converged
    validPairs := metrics.validPairs
    overlapRatio := metrics.fitness
    inlierRmseMm := metrics.inlierRmseMm
    terminationReason := terminationReason metrics.convergence
    method := config.registration.method
    requestedBackend := config.execution.backend
    actualBackend := actualBackend }

def Clock.timings (clock : Clock) (stages : List PipelineStage) : List StageTiming :=
  stages.map fun stage => ⟨stage, clock.durationUs stage⟩

/-- A registration that the gate may accept. -/
structure Registered (D : Type) [FloatArith D] where
  initial : RigidTransform D
  diagnostics : List Diagnostic
  metrics : RegistrationMetrics D
  actualBackend : ComputeBackend

/-- The report of a registration that the gate rejects. The gate's own timing is recorded after this
report was moved out, so the report lacks it. -/
def rejectedReport (clock : Clock) (config : ValidatedInspectionConfig D)
    (request : InspectionRequest D) (registered : Registered D) : InspectionResult D :=
  { verdict := .indeterminate
    registration := registrationResult config registered.initial registered.metrics
      registered.actualBackend
    coverage := default
    deviations := default
    regions := []
    timings := clock.timings [.normalize, .preprocess, .registration]
    provenance := provenance clock config request
    diagnostics := registered.diagnostics ++ [⟨.registrationFailed, .registrationGate,
      (evaluateGate registered.metrics config.registrationGate).message, []⟩] }

def coverageFailed (config : ValidatedInspectionConfig D) (coverage : CoverageField D) : Bool :=
  (summarizeCoverage coverage).coverageRatio < config.comparison.minValidCoverageRatio

variable (F) in
/-- The report of two fields and their regions. -/
def measuredReport (clock : Clock) (config : ValidatedInspectionConfig D)
    (request : InspectionRequest D) (registered : Registered D) (deviation : DeviationField D)
    (coverage : CoverageField D) (regions : List (DefectRegion D)) : InspectionResult D :=
  let deviations := summarizeDeviation F deviation
  { verdict := finalVerdict (coverageFailed config coverage) deviations.validCount regions
    registration := registrationResult config registered.initial registered.metrics
      registered.actualBackend
    coverage := summarizeCoverage coverage
    deviations := deviations
    regions := regions
    timings := clock.timings [.normalize, .preprocess, .registration, .registrationGate,
      .transform, .compare, .coverageGate, .detect]
    provenance := provenance clock config request
    diagnostics := registered.diagnostics ++
      if coverageFailed config coverage then
        [⟨.insufficientCoverage, .coverageGate, "coverage ratio is below the minimum", []⟩]
      else [] }

/-- P05 to P10. -/
def inspectRegistered (host : Host F D) (scheduler : Scheduler) (clock : Clock)
    (config : ValidatedInspectionConfig D) (request : InspectionRequest D)
    (reference scan : NormalBoundaryResult F) (registered : Registered D) :
    Result (InspectionResult D) :=
  if ¬ (evaluateGate registered.metrics config.registrationGate).passed then
    .ok (rejectedReport clock config request registered)
  else do
    let comparison ← compareSurfaces host scheduler config reference scan
      registered.metrics.finalTransform
    let regions ← detectDefects host config reference.surface.view comparison
    return measuredReport F clock config request registered comparison.deviation
      comparison.coverage regions

/-- `run_impl`: the report of a run, and the registration context it leaves if it was given one. -/
def runImpl (host : Host F D) (scheduler : Scheduler) (clock : Clock)
    (config : ValidatedInspectionConfig D) (reference scan : SurfaceView F)
    (request : InspectionRequest D)
    (cached : Option (NormalBoundaryResult F × RegistrationContext F D)) :
    Result (InspectionResult D) × Option (RegistrationContext F D) :=
  let context := cached.map Prod.snd
  match prepareSurfaces host scheduler config reference scan (cached.map Prod.fst) with
  | .error e => (.error e, context)
  | .ok (reference, scan) =>
    match initialPose request reference.surface.view scan.surface.view with
    | .error e => (.error e, context)
    | .ok (initial, diagnostics) =>
      let ended := registerScan host scheduler config reference.surface.view scan.surface.view
        initial context
      (ended.1 >>= fun (metrics, backend) =>
        inspectRegistered host scheduler clock config request reference scan
          ⟨initial, diagnostics, metrics, backend⟩, ended.2)

section

variable {host : Host F D} {scheduler : Scheduler} {clock : Clock}
  {config : ValidatedInspectionConfig D} {reference scan : SurfaceView F}
  {request : InspectionRequest D}
  {cached : Option (NormalBoundaryResult F × RegistrationContext F D)}

theorem runImpl_unprepared {e : Error}
    (h : prepareSurfaces host scheduler config reference scan (cached.map Prod.fst) = .error e) :
    runImpl host scheduler clock config reference scan request cached =
      (.error e, cached.map Prod.snd) := by
  unfold runImpl
  dsimp only
  rw [h]

theorem runImpl_unposed {surfaces : NormalBoundaryResult F × NormalBoundaryResult F} {e : Error}
    (h : prepareSurfaces host scheduler config reference scan (cached.map Prod.fst) = .ok surfaces)
    (hpose : initialPose request surfaces.1.surface.view surfaces.2.surface.view = .error e) :
    runImpl host scheduler clock config reference scan request cached =
      (.error e, cached.map Prod.snd) := by
  unfold runImpl
  dsimp only
  rw [h]
  dsimp only
  rw [hpose]

theorem runImpl_posed {surfaces : NormalBoundaryResult F × NormalBoundaryResult F}
    {pose : RigidTransform D × List Diagnostic}
    (h : prepareSurfaces host scheduler config reference scan (cached.map Prod.fst) = .ok surfaces)
    (hpose : initialPose request surfaces.1.surface.view surfaces.2.surface.view = .ok pose) :
    runImpl host scheduler clock config reference scan request cached =
      let ended := registerScan host scheduler config surfaces.1.surface.view
        surfaces.2.surface.view pose.1 (cached.map Prod.snd)
      (ended.1 >>= fun registered =>
        inspectRegistered host scheduler clock config request surfaces.1 surfaces.2
          ⟨pose.1, pose.2, registered.1, registered.2⟩, ended.2) := by
  unfold runImpl
  dsimp only
  rw [h]
  dsimp only
  rw [hpose]

end

/-- A run that has registered its scan. -/
structure RegisteredRun (F D : Type) [FloatArith F] [FloatArith D] where
  reference : NormalBoundaryResult F
  scan : NormalBoundaryResult F
  registered : Registered D

/-- Whether a run may be compared. -/
def RegisteredRun.accepted (run : RegisteredRun F D)
    (config : ValidatedInspectionConfig D) : Bool :=
  (evaluateGate run.registered.metrics config.registrationGate).passed

/-- The fields of a run. -/
def RegisteredRun.compare (run : RegisteredRun F D) (host : Host F D) (scheduler : Scheduler)
    (config : ValidatedInspectionConfig D) : Result (Comparison F D) :=
  compareSurfaces host scheduler config run.reference run.scan run.registered.metrics.finalTransform

/-- The report of a registered run. -/
def RegisteredRun.inspect (run : RegisteredRun F D) (host : Host F D) (scheduler : Scheduler)
    (clock : Clock) (config : ValidatedInspectionConfig D) (request : InspectionRequest D) :
    Result (InspectionResult D) :=
  inspectRegistered host scheduler clock config request run.reference run.scan run.registered

section

variable {run : RegisteredRun F D} {host : Host F D} {scheduler : Scheduler} {clock : Clock}
  {config : ValidatedInspectionConfig D} {request : InspectionRequest D}

theorem RegisteredRun.inspect_rejected (h : run.accepted config = false) :
    run.inspect host scheduler clock config request =
      .ok (rejectedReport clock config request run.registered) := by
  unfold accepted at h
  unfold inspect inspectRegistered
  rw [if_pos (by rw [h]; decide)]

theorem RegisteredRun.inspect_accepted (h : run.accepted config = true) :
    run.inspect host scheduler clock config request =
      run.compare host scheduler config >>= fun comparison =>
        (detectDefects host config run.reference.surface.view comparison).map
          (measuredReport F clock config request run.registered comparison.deviation
            comparison.coverage) := by
  unfold accepted at h
  unfold inspect inspectRegistered
  rw [if_neg (not_not.mpr h)]
  refine congrArg (run.compare host scheduler config >>= ·) (funext fun comparison => ?_)
  cases detectDefects host config run.reference.surface.view comparison <;> rfl

end

/-- P01 to P04 of a run, with a cached reference or without one. -/
def registeredRun (host : Host F D) (scheduler : Scheduler) (config : ValidatedInspectionConfig D)
    (reference scan : SurfaceView F) (request : InspectionRequest D)
    (cached : Option (NormalBoundaryResult F × RegistrationContext F D)) :
    Result (RegisteredRun F D) := do
  let surfaces ← prepareSurfaces host scheduler config reference scan (cached.map Prod.fst)
  let pose ← initialPose request surfaces.1.surface.view surfaces.2.surface.view
  let registered ← (registerScan host scheduler config surfaces.1.surface.view
    surfaces.2.surface.view pose.1 (cached.map Prod.snd)).1
  return ⟨surfaces.1, surfaces.2, ⟨pose.1, pose.2, registered.1, registered.2⟩⟩

/-- P01 to P04 of a run without a cached reference. -/
def runToRegistration (host : Host F D) (scheduler : Scheduler)
    (config : ValidatedInspectionConfig D) (reference scan : SurfaceView F)
    (request : InspectionRequest D) : Result (RegisteredRun F D) := do
  let surfaces ← prepareSurfaces host scheduler config reference scan none
  let pose ← initialPose request surfaces.1.surface.view surfaces.2.surface.view
  let registered ← (registerScan host scheduler config surfaces.1.surface.view
    surfaces.2.surface.view pose.1 none).1
  return ⟨surfaces.1, surfaces.2, ⟨pose.1, pose.2, registered.1, registered.2⟩⟩

/-- A run registers its scan and then inspects it. -/
theorem runImpl_registered (host : Host F D) (scheduler : Scheduler) (clock : Clock)
    (config : ValidatedInspectionConfig D) (reference scan : SurfaceView F)
    (request : InspectionRequest D)
    (cached : Option (NormalBoundaryResult F × RegistrationContext F D)) :
    (runImpl host scheduler clock config reference scan request cached).1 =
      registeredRun host scheduler config reference scan request cached >>= fun run =>
        run.inspect host scheduler clock config request := by
  unfold registeredRun
  cases hsurfaces : prepareSurfaces host scheduler config reference scan (cached.map Prod.fst) with
  | error e => rw [runImpl_unprepared hsurfaces]; rfl
  | ok surfaces =>
    cases hpose : initialPose request surfaces.1.surface.view surfaces.2.surface.view with
    | error e =>
      rw [runImpl_unposed hsurfaces hpose]
      change _ = (initialPose request surfaces.1.surface.view surfaces.2.surface.view >>= _) >>= _
      rw [hpose]
      rfl
    | ok pose =>
      rw [runImpl_posed hsurfaces hpose]
      change _ = (initialPose request surfaces.1.surface.view surfaces.2.surface.view >>= _) >>= _
      rw [hpose]
      dsimp only
      cases hended : (registerScan host scheduler config surfaces.1.surface.view
          surfaces.2.surface.view pose.1 (cached.map Prod.snd)).1 with
      | error e =>
        change _ = ((registerScan host scheduler config surfaces.1.surface.view
          surfaces.2.surface.view pose.1 (cached.map Prod.snd)).1 >>= _) >>= _
        rw [hended]
        rfl
      | ok registered =>
        change _ = ((registerScan host scheduler config surfaces.1.surface.view
          surfaces.2.surface.view pose.1 (cached.map Prod.snd)).1 >>= _) >>= _
        rw [hended]
        rfl

theorem runImpl_eq (host : Host F D) (scheduler : Scheduler) (clock : Clock)
    (config : ValidatedInspectionConfig D) (reference scan : SurfaceView F)
    (request : InspectionRequest D) :
    (runImpl host scheduler clock config reference scan request none).1 =
      runToRegistration host scheduler config reference scan request >>= fun run =>
        run.inspect host scheduler clock config request :=
  runImpl_registered host scheduler clock config reference scan request none

structure InspectionPipeline (D : Type) [FloatArith D] where
  config : ValidatedInspectionConfig D

def InspectionPipeline.create (config : InspectionConfig D) : Result (InspectionPipeline D) :=
  (validateConfig config).map InspectionPipeline.mk

def InspectionPipeline.run (pipeline : InspectionPipeline D) (host : Host F D)
    (scheduler : Scheduler) (clock : Clock) (reference scan : SurfaceView F)
    (request : InspectionRequest D) : Result (InspectionResult D) :=
  (runImpl host scheduler clock pipeline.config reference scan request none).1

structure InspectionContext (F D : Type) [FloatArith F] [FloatArith D] where
  config : ValidatedInspectionConfig D
  reference : NormalBoundaryResult F
  registration : RegistrationContext F D
  capacity : ℕ

def InspectionContext.create (host : Host F D) (scheduler : Scheduler) (config : InspectionConfig D)
    (reference : SurfaceView F) (capacity : ℕ) : Result (InspectionContext F D) := do
  check (¬ (capacity = 0 ∨ int32Max < capacity))
    (pipelineError .invalidInput "scan capacity must be in [1, INT32_MAX]")
  let options ← validateConfig config
  let normalized ← normalizeInPlace D reference
  let prepared ← prepareSurface host scheduler options normalized.view
  let registration ← RegistrationContext.create host scheduler prepared.surface.view
    (toRegistrationParameters options.registration options.execution.threadCount) capacity
    options.execution.backend
  return ⟨options, prepared, registration, capacity⟩

/-- A run in a context: its result, and the context it leaves. -/
def InspectionContext.run (context : InspectionContext F D) (host : Host F D)
    (scheduler : Scheduler) (clock : Clock) (scan : SurfaceView F) (request : InspectionRequest D) :
    Result (InspectionResult D) × InspectionContext F D :=
  if context.capacity < scan.size then
    (.error (pipelineError .invalidInput "scan exceeds inspection context capacity"), context)
  else
    let ended := runImpl host scheduler clock context.config context.reference.surface.view scan
      request (some (context.reference, context.registration))
    (ended.1, { context with registration := ended.2.getD context.registration })

end PointcloudAd
