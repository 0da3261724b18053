import PointcloudAd.Comparison.OppositeDeviations
import PointcloudAd.Pipeline.CachedInspection
import PointcloudAd.Pipeline.Noninterference
import PointcloudAd.Pipeline.VerdictLaw
import PointcloudAd.Registration.OppositeRegistration

/-!
# Normals of unproven sign

The normals of surfaces that bring none are estimated up to their sign, and no hint orients them.
The sign reaches the dents and bumps nevertheless: two runs that estimate opposite normals find the
same exactly when neither finds a dent or a bump.
-/

namespace PointcloudAd

open Library Registration

variable {F D : Type} [FloatArith F] [FloatArith D] [Floats F D]

/-- What an inspection finds: the verdict, the regions, and the samples of the dents and bumps. -/
structure Findings (D : Type) where
  verdict : Verdict
  regions : List (DefectRegion D)
  clusters : List DefectCluster
  deriving DecidableEq

def RegisteredRun.findings (run : RegisteredRun F D) (host : Host F D) (scheduler : Scheduler)
    (config : ValidatedInspectionConfig D) : Result (Findings D) :=
  if ¬ run.accepted config then .ok ⟨.indeterminate, [], []⟩
  else do
    let comparison ← run.compare host scheduler config
    let clusters ← clusterDeviationDefects host comparison.alignedScan.view comparison.deviation
      config.detection
    let regions ← detectDefects host config run.reference.surface.view comparison
    return ⟨finalVerdict (coverageFailed config comparison.coverage)
      (summarizeDeviation F comparison.deviation).validCount regions, regions, clusters⟩

def InspectionPipeline.findings (pipeline : InspectionPipeline D) (host : Host F D)
    (scheduler : Scheduler) (reference scan : SurfaceView F) (request : InspectionRequest D) :
    Result (Findings D) := do
  let run ← runToRegistration host scheduler pipeline.config reference scan request
  run.findings host scheduler pipeline.config

/-- The verdict and the regions of a report. -/
def InspectionResult.judgement (report : InspectionResult D) : Verdict × List (DefectRegion D) :=
  (report.verdict, report.regions)

/-- A report shows its findings but for the samples of the regions. -/
theorem RegisteredRun.inspect_findings (run : RegisteredRun F D) (host : Host F D)
    (scheduler : Scheduler) (clock : Clock) (config : ValidatedInspectionConfig D)
    (request : InspectionRequest D) :
    (run.inspect host scheduler clock config request).map InspectionResult.judgement =
      (run.findings host scheduler config).map fun f => (f.verdict, f.regions) := by
  unfold findings
  cases haccepted : run.accepted config with
  | false =>
    rw [inspect_rejected haccepted, if_pos (by decide)]
    rfl
  | true =>
    rw [inspect_accepted haccepted, if_neg (by decide)]
    cases run.compare host scheduler config with
    | error e => rfl
    | ok comparison =>
      rw [ok_bind, ok_bind]
      -- the clusters are the first thing that the detection computes
      unfold detectDefects
      cases clusterDeviationDefects host comparison.alignedScan.view comparison.deviation
          config.detection with
      | error e => rfl
      | ok clusters =>
        rw [ok_bind, ok_bind]
        generalize hregions : (clusterMissingMaterial host run.reference.surface.view
          comparison.coverage config.detection >>= _ : Result (List (DefectRegion D))) = regions
        cases regions <;> rfl

theorem InspectionPipeline.run_findings (pipeline : InspectionPipeline D) (host : Host F D)
    (scheduler : Scheduler) (clock : Clock) (reference scan : SurfaceView F)
    (request : InspectionRequest D) :
    (pipeline.run host scheduler clock reference scan request).map InspectionResult.judgement =
      (pipeline.findings host scheduler reference scan request).map fun f =>
        (f.verdict, f.regions) := by
  unfold run findings
  rw [runImpl_eq]
  cases runToRegistration host scheduler pipeline.config reference scan request with
  | error e => rfl
  | ok registered => exact registered.inspect_findings host scheduler clock pipeline.config request

structure PreparedTurned (a b : NormalBoundaryResult F) : Prop where
  surface : Turned a.surface.view b.surface.view
  boundary : b.boundary = a.boundary

structure RunsTurned (a b : RegisteredRun F D) : Prop where
  reference : PreparedTurned a.reference b.reference
  scan : PreparedTurned a.scan b.scan
  registered : b.registered = a.registered

structure ComparisonsTurned (a b : Comparison F D) : Prop where
  alignedScan : Turned a.alignedScan.view b.alignedScan.view
  deviation : FieldsOpposite a.deviation b.deviation
  coverage : b.coverage = a.coverage

/-- Two hosts estimate opposite normals of the surface that a run prepares. -/
def SignsTurned (host : Host F D) (fit : List (Vec3 F) → List ℤ → Option (Vec3 F))
    (scheduler scheduler' : Scheduler) (config : ValidatedInspectionConfig D)
    (surface : SurfaceView F) : Prop :=
  ∀ normalized, normalizeInPlace D surface = .ok normalized →
    Outcome NegatedEstimates
      (estimateNormals host scheduler normalized.view config.preprocess.normalRadiusMm
        config.preprocess.normalMinNeighbors config.execution.threadCount)
      (estimateNormals (host.withFit fit) scheduler' normalized.view
        config.preprocess.normalRadiusMm
        config.preprocess.normalMinNeighbors config.execution.threadCount)

/-- The boundary flags of a surface without a grid are the same for the normals of both hosts. -/
def FlagsAgree (host : Host F D) (fit : List (Vec3 F) → List ℤ → Option (Vec3 F))
    (scheduler scheduler' : Scheduler) (config : ValidatedInspectionConfig D)
    (surface : SurfaceView F) : Prop :=
  ∀ normalized a b, normalizeInPlace D surface = .ok normalized → normalized.view.grid = none →
    prepareSurface host scheduler config normalized.view = .ok a →
    prepareSurface (host.withFit fit) scheduler' config normalized.view = .ok b →
    b.boundary = a.boundary

section

variable [OppositeArithmetic F] [OppositeArithmetic D] [OppositeConversions F D] {host : Host F D}
  {fit : List (Vec3 F) → List ℤ → Option (Vec3 F)} {scheduler scheduler' : Scheduler}
  {config : ValidatedInspectionConfig D}

omit [OppositeArithmetic F] [OppositeArithmetic D] [OppositeConversions F D] in
theorem normalizeInPlace_normals {surface : SurfaceView F} {normalized : OwnedSurface F}
    (hnone : surface.normals = []) (h : normalizeInPlace D surface = .ok normalized) :
    normalized.view.normals = [] := by
  have hstep : ∀ (a : List (Vec3 F) × List (Vec3 F)) (i : ℕ) (b : List (Vec3 F) × List (Vec3 F)),
      a.2 = [] →
      normalizeIndex (millimetersPerUnit surface.unit : D) none surface.valid a i = .ok b →
      b.2 = [] := by
    intro a i b ha hb
    unfold normalizeIndex at hb
    dsimp only at hb
    rw [if_pos ha] at hb
    split_ifs at hb
    cases hb
    rfl
  unfold normalizeInPlace normalizeSurface at h
  dsimp only at h
  split_ifs at h
  obtain ⟨arrays, hfold, hcreate⟩ := bind_ok_iff.mp h
  rw [OwnedSurface.view_of_create hcreate]
  exact foldlM_ok hstep hnone hfold

omit [OppositeArithmetic F] [OppositeArithmetic D] [OppositeConversions F D] in
theorem normalizeInPlace_grid {surface : SurfaceView F} {normalized : OwnedSurface F}
    (h : normalizeInPlace D surface = .ok normalized) : normalized.view.grid = surface.grid := by
  unfold normalizeInPlace normalizeSurface at h
  dsimp only at h
  split_ifs at h
  obtain ⟨arrays, -, hcreate⟩ := bind_ok_iff.mp h
  rw [OwnedSurface.view_of_create hcreate]

omit [OppositeArithmetic D] [OppositeConversions F D] in
theorem SignsTurned.of_fits (hfits : FitsTurned host fit) (surface : SurfaceView F) :
    SignsTurned host fit scheduler scheduler' config surface :=
  fun normalized _ => estimateNormals_turned normalized.shaped hfits ..

omit [OppositeArithmetic F] [OppositeArithmetic D] [OppositeConversions F D] in
theorem FlagsAgree.of_grid {surface : SurfaceView F} (hgrid : surface.grid ≠ none) :
    FlagsAgree host fit scheduler scheduler' config surface := by
  intro normalized _ _ hnormalized hnone
  rw [normalizeInPlace_grid hnormalized] at hnone
  exact absurd hnone hgrid

omit [OppositeArithmetic D] [OppositeConversions F D] in
theorem prepareSurface_turned {surface : SurfaceView F} (hnone : surface.normals = [])
    (hsigns : SignsTurned host fit scheduler scheduler' config surface)
    (hflags : FlagsAgree host fit scheduler scheduler' config surface) {normalized : OwnedSurface F}
    (h : normalizeInPlace D surface = .ok normalized) :
    Outcome PreparedTurned (prepareSurface host scheduler config normalized.view)
      (prepareSurface (host.withFit fit) scheduler' config normalized.view) := by
  have hestimates := hsigns normalized h
  rw [estimateNormals_workers normalized.shaped (host.withFit fit) scheduler' scheduler _ _ Iff.rfl]
    at hestimates
  have hprepared := prepareNormalsAndBoundaries_turned host fit scheduler
    (normalizeInPlace_normals hnone h) config.preprocess.normalRadiusMm
    config.preprocess.normalMinNeighbors config.preprocess.boundaryRadiusMm
    config.execution.threadCount hestimates
  have hworkers : prepareSurface (host.withFit fit) scheduler' config normalized.view =
      prepareSurface (host.withFit fit) scheduler config normalized.view :=
    prepareSurface_workers scheduler' scheduler config normalized
  rw [hworkers]
  refine Outcome.mono_of_eq hprepared fun a b ha hb hab => ⟨hab.1, ?_⟩
  by_cases hg : normalized.view.grid = none
  · exact hflags normalized a b h hg ha (hworkers.trans hb)
  · exact hab.2 hg

omit [OppositeArithmetic D] [OppositeConversions F D] in
theorem prepareSurfaces_turned {reference scan : SurfaceView F} (hr : reference.normals = [])
    (hs : scan.normals = []) (hsigns : SignsTurned host fit scheduler scheduler' config reference)
    (hsigns' : SignsTurned host fit scheduler scheduler' config scan)
    (hflags : FlagsAgree host fit scheduler scheduler' config reference)
    (hflags' : FlagsAgree host fit scheduler scheduler' config scan) :
    Outcome (fun a b => PreparedTurned a.1 b.1 ∧ PreparedTurned a.2 b.2)
      (prepareSurfaces host scheduler config reference scan none)
      (prepareSurfaces (host.withFit fit) scheduler' config reference scan none) := by
  unfold prepareSurfaces
  refine (Outcome.eq_iff.mpr (rfl : normalizeInPlace D reference = _)).bind_of_eq ?_
  rintro r _ hnormalized _ rfl
  refine (Outcome.eq_iff.mpr (rfl : normalizeInPlace D scan = _)).bind_of_eq ?_
  rintro q _ hnormalized' _ rfl
  refine (prepareSurface_turned hr hsigns hflags hnormalized).bind fun a b hab => ?_
  refine (prepareSurface_turned hs hsigns' hflags' hnormalized').bind fun a' b' hab' => ?_
  exact .ok ⟨hab, hab'⟩

theorem registerScan_turned (hblind : host.SignBlind) {r r' q q' : OwnedSurface F}
    (hr : Turned r.view r'.view) (hq : Turned q.view q'.view) (initial : RigidTransform D) :
    (registerScan (host.withFit fit) scheduler' config r'.view q'.view initial none).1 =
      (registerScan host scheduler config r.view q.view initial none).1 := by
  have hworkers : (registerScan
      (host.withFit fit) scheduler' config r'.view q'.view initial none).1 =
      (registerScan (host.withFit fit) scheduler config r'.view q'.view initial none).1 :=
    registerScan_related (.refl r'.shaped) (.refl q'.shaped) initial
  rw [hworkers]
  have hsize : q'.view.size = q.view.size := by rw [hq.surface]; rfl
  have hcreate := context_create_turned fit scheduler hblind hr
    (toRegistrationParameters config.registration config.execution.threadCount) q.view.size
    config.execution.backend
  unfold registerScan
  dsimp only
  rw [hsize]
  refine (Outcome.eq_iff.mp (hcreate.bind fun context context' hcontext => ?_)).symm
  unfold registerIn
  dsimp only
  rw [context_align_turned fit scheduler hcontext hq, hcontext.backend]
  exact Outcome.eq_iff.mpr rfl

theorem runToRegistration_turned (hblind : host.SignBlind) {reference scan : SurfaceView F}
    (hr : reference.normals = []) (hs : scan.normals = [])
    (hsigns : SignsTurned host fit scheduler scheduler' config reference)
    (hsigns' : SignsTurned host fit scheduler scheduler' config scan)
    (hflags : FlagsAgree host fit scheduler scheduler' config reference)
    (hflags' : FlagsAgree host fit scheduler scheduler' config scan)
    (request : InspectionRequest D) :
    Outcome RunsTurned (runToRegistration host scheduler config reference scan request)
      (runToRegistration (host.withFit fit) scheduler' config reference scan request) := by
  unfold runToRegistration
  refine (prepareSurfaces_turned hr hs hsigns hsigns' hflags hflags').bind fun a b hab => ?_
  obtain ⟨hreference, hscan⟩ := hab
  have hpose : initialPose request b.1.surface.view b.2.surface.view =
      initialPose request a.1.surface.view a.2.surface.view := by
    rw [hreference.surface.surface, hscan.surface.surface]
    rfl
  rw [hpose]
  refine (Outcome.eq_iff.mpr rfl).bind ?_
  rintro pose _ rfl
  rw [registerScan_turned hblind hreference.surface hscan.surface]
  refine (Outcome.eq_iff.mpr rfl).bind ?_
  rintro registered _ rfl
  exact .ok ⟨hreference, hscan, rfl⟩

theorem compare_turned {a b : RegisteredRun F D} (h : RunsTurned a b) :
    Outcome ComparisonsTurned (a.compare host scheduler config)
      (b.compare (host.withFit fit) scheduler' config) := by
  have hframe : b.reference.surface.view.frame = a.reference.surface.view.frame := by
    rw [h.reference.surface.surface]
  unfold RegisteredRun.compare
  rw [compareSurfaces_workers scheduler' scheduler]
  unfold compareSurfaces
  rw [h.registered, hframe, h.reference.boundary, h.scan.boundary]
  refine (normalizeSurface_turned h.scan.surface _ _).bind fun q q' hq => ?_
  refine (computeDeviationField_turned a.reference.boundary config.comparison host fit scheduler
    config.execution.threadCount h.reference.surface hq).bind fun field field' hfield => ?_
  rw [computeCoverageField_turned a.scan.boundary config.comparison host fit scheduler
    config.execution.threadCount h.reference.surface hq]
  refine (Outcome.eq_iff.mpr rfl).bind ?_
  rintro coverage _ rfl
  exact .ok ⟨hq, hfield, rfl⟩

end

/-- Neither the deviations nor those of the normals turned over make a dent or a bump. -/
def Comparison.Undeviating (comparison : Comparison F D) (host : Host F D)
    (config : ValidatedDetectionConfig D) : Prop :=
  clusterDeviationDefects host comparison.alignedScan.view comparison.deviation config = .ok [] ∧
    clusterDeviationDefects host comparison.alignedScan.view comparison.deviation.mirrored config =
      .ok []

def RegisteredRun.Undeviating (run : RegisteredRun F D) (host : Host F D) (scheduler : Scheduler)
    (config : ValidatedInspectionConfig D) : Prop :=
  run.accepted config = true → ∀ comparison, run.compare host scheduler config = .ok comparison →
    comparison.Undeviating host config.detection

/-- An inspection whose deviations make no dent and no bump, whichever way the normals point. -/
def InspectionPipeline.Undeviating (pipeline : InspectionPipeline D) (host : Host F D)
    (scheduler : Scheduler) (reference scan : SurfaceView F)
    (request : InspectionRequest D) : Prop :=
  ∀ run, runToRegistration host scheduler pipeline.config reference scan request = .ok run →
    run.Undeviating host scheduler pipeline.config

section

variable [OppositeArithmetic F] [OppositeArithmetic D] [OppositeConversions F D] {host : Host F D}
  {fit : List (Vec3 F) → List ℤ → Option (Vec3 F)} {scheduler scheduler' : Scheduler}
  {config : ValidatedInspectionConfig D}

omit [OppositeArithmetic F] [OppositeConversions F D] in
theorem detectDefects_turned {a b : Comparison F D} (h : ComparisonsTurned a b)
    {r r' : SurfaceView F} (hr : Turned r r') (hclear : a.Undeviating host config.detection) :
    detectDefects (host.withFit fit) config r' b = detectDefects host config r a := by
  have hclusters : clusterDeviationDefects (host.withFit fit) b.alignedScan.view b.deviation
      config.detection = .ok [] := by
    rw [clusterDeviationDefects_turned h.deviation h.alignedScan, hclear.2]
  unfold detectDefects
  rw [hclusters, hclear.1, h.coverage, hr.surface]
  rfl

omit [OppositeArithmetic F] [OppositeArithmetic D] [OppositeConversions F D] in
theorem ComparisonsTurned.verdict {a b : Comparison F D} (h : ComparisonsTurned a b)
    {run run' : RegisteredRun F D} {host' : Host F D}
    (ha : run.compare host scheduler config = .ok a)
    (hb : run'.compare host' scheduler' config = .ok b) (regions : List (DefectRegion D)) :
    finalVerdict (coverageFailed config b.coverage) (summarizeDeviation F b.deviation).validCount
        regions =
      finalVerdict (coverageFailed config a.coverage) (summarizeDeviation F a.deviation).validCount
        regions := by
  rw [compare_validCount ha, compare_validCount hb, h.coverage, h.deviation.validCount]

theorem RunsTurned.findings_eq {a b : RegisteredRun F D} (h : RunsTurned a b)
    (hclear : a.Undeviating host scheduler config) :
    b.findings (host.withFit fit) scheduler' config = a.findings host scheduler config := by
  have haccepted : b.accepted config = a.accepted config := by
    unfold RegisteredRun.accepted
    rw [h.registered]
  unfold RegisteredRun.findings
  rw [haccepted]
  split_ifs with hgate
  · refine (Outcome.eq_iff.mp ((compare_turned h).bind_of_eq fun x y hx hy hxy => ?_)).symm
    have hnone := hclear hgate x hx
    have hclusters : clusterDeviationDefects (host.withFit fit) y.alignedScan.view y.deviation
        config.detection = .ok [] := by
      rw [clusterDeviationDefects_turned hxy.deviation hxy.alignedScan, hnone.2]
    rw [hnone.1, hclusters, detectDefects_turned hxy h.reference.surface hnone]
    simp only [hxy.verdict hx hy]
    exact Outcome.eq_iff.mpr rfl
  · rfl

/-- Turned runs find the same dents and bumps only when there are none. -/
theorem RunsTurned.undeviating {a b : RegisteredRun F D} (h : RunsTurned a b) {f f' : Findings D}
    (hf : a.findings host scheduler config = .ok f)
    (hf' : b.findings (host.withFit fit) scheduler' config = .ok f')
    (hsame : f.clusters = f'.clusters) : a.Undeviating host scheduler config := by
  intro haccepted comparison hcompare
  have haccepted' : b.accepted config = true := by
    unfold RegisteredRun.accepted at haccepted ⊢
    rw [h.registered]
    exact haccepted
  unfold RegisteredRun.findings at hf hf'
  rw [if_neg (by simpa using haccepted)] at hf
  rw [if_neg (by simpa using haccepted')] at hf'
  simp only [bind_ok_iff, pure, Except.pure, Except.ok.injEq] at hf hf'
  obtain ⟨x, hx, clusters, hclusters, regions, -, rfl⟩ := hf
  obtain ⟨y, hy, clusters', hclusters', regions', -, rfl⟩ := hf'
  obtain rfl : x = comparison := Except.ok.inj (hx.symm.trans hcompare)
  obtain rfl : clusters = clusters' := hsame
  have hturned : Outcome ComparisonsTurned (a.compare host scheduler config)
      (b.compare (host.withFit fit) scheduler' config) := compare_turned h
  rw [hx, hy] at hturned
  cases hturned with
  | ok hxy =>
    rw [clusterDeviationDefects_turned hxy.deviation hxy.alignedScan] at hclusters'
    obtain rfl := eq_nil_of_mirrored_clusters hclusters hclusters'
    exact ⟨hclusters, hclusters'⟩

/-- The sign of normals that prove no orientation decides the dents and bumps: runs that estimate
opposite normals judge alike when there are none, and only then find the same. -/
theorem unproven_sign_iff (hblind : host.SignBlind) {pipeline : InspectionPipeline D}
    {reference scan : SurfaceView F} (hr : reference.normals = []) (hs : scan.normals = [])
    (hsigns : SignsTurned host fit scheduler scheduler' pipeline.config reference)
    (hsigns' : SignsTurned host fit scheduler scheduler' pipeline.config scan)
    (hflags : FlagsAgree host fit scheduler scheduler' pipeline.config reference)
    (hflags' : FlagsAgree host fit scheduler scheduler' pipeline.config scan)
    (clock clock' : Clock) (request : InspectionRequest D) :
    (pipeline.Undeviating host scheduler reference scan request →
      (pipeline.run (host.withFit fit) scheduler' clock' reference scan request).map
          InspectionResult.judgement =
        (pipeline.run host scheduler clock reference scan request).map
          InspectionResult.judgement) ∧
    ∀ f f', pipeline.findings host scheduler reference scan request = .ok f →
      pipeline.findings (host.withFit fit) scheduler' reference scan request = .ok f' →
        (f = f' ↔ pipeline.Undeviating host scheduler reference scan request) := by
  have hruns := runToRegistration_turned hblind hr hs hsigns hsigns' hflags hflags' request
  have hsame : pipeline.Undeviating host scheduler reference scan request →
      pipeline.findings (host.withFit fit) scheduler' reference scan request =
        pipeline.findings host scheduler reference scan request := by
    intro hclear
    unfold InspectionPipeline.findings
    refine (Outcome.eq_iff.mp (hruns.bind_of_eq fun a b ha _ hab => ?_)).symm
    exact Outcome.eq_iff.mpr (hab.findings_eq (hclear a ha)).symm
  refine ⟨fun hclear => ?_, fun f f' hf hf' => ⟨fun he => ?_, fun hclear => ?_⟩⟩
  · rw [pipeline.run_findings, pipeline.run_findings, hsame hclear]
  · intro run hrun
    unfold InspectionPipeline.findings at hf hf'
    obtain ⟨a, ha, hf⟩ := bind_ok_iff.mp hf
    obtain ⟨b, hb, hf'⟩ := bind_ok_iff.mp hf'
    obtain rfl : a = run := Except.ok.inj (ha.symm.trans hrun)
    rw [ha, hb] at hruns
    cases hruns with
    | ok hab => exact hab.undeviating hf hf' (congrArg Findings.clusters he)
  · exact Except.ok.inj (hf.symm.trans ((hsame hclear).symm.trans hf'))

end

/-- A host whose planes face upwards. -/
def exactUpwards : Host (Exact ℚ) (Exact ℚ) := .exhaustive fun _ => some (exactPoint 0 0 1)

/-- The same planes, facing downwards. -/
def exactDownwards (_ : List (Vec3 (Exact ℚ))) (_ : List ℤ) : Option (Vec3 (Exact ℚ)) :=
  some (exactPoint 0 0 (-1))

theorem exactDownwards_turned : FitsTurned exactUpwards exactDownwards := by
  intro cloud minimumNeighbors neighbors
  unfold neighborhoodNormal
  split_ifs with hfew
  · exact .none
  · have hup : unitVector (Exact ℚ) (exactPoint 0 0 1) = exactPoint 0 0 1 := by decide +kernel
    have hdown : unitVector (Exact ℚ) (exactPoint 0 0 (-1)) = exactPoint 0 0 (-1) := by
      decide +kernel
    change Option.Rel Opposed
      (if _ ∧ _ ∧ _ then none else some (unitVector (Exact ℚ) (exactPoint 0 0 1)))
      (if _ ∧ _ ∧ _ then none else some (unitVector (Exact ℚ) (exactPoint 0 0 (-1))))
    rw [hup, hdown, if_neg (by decide +kernel), if_neg (by decide +kernel)]
    refine .some ⟨?_, ?_, ?_⟩
    · exact Exact.opposite_iff.mpr (by decide +kernel)
    · exact Exact.opposite_iff.mpr (by decide +kernel)
    · exact Exact.opposite_iff.mpr (by decide +kernel)

theorem exactUpwards_signBlind : exactUpwards.SignBlind := by
  intro device h
  cases h

/-- Comparisons reach as far as two millimetres, registrations one. -/
def exactStepConfig : InspectionConfig (Exact ℚ) :=
  { exactConfig with comparison := ⟨some (.fin 2), some (.fin 90), some (.fin 0), some (.fin 0)⟩ }

def exactTable : SurfaceView (Exact ℚ) := exactGrid 4 4 4 false fun _ _ => 0

/-- A table with its middle lifted by a millimetre and a half: too far from its rim for a plane
through both, and for a correspondence with the table. -/
def exactStep : SurfaceView (Exact ℚ) :=
  exactGrid 4 4 4 false fun row column => if row ∈ [1, 2] ∧ column ∈ [1, 2] then 3 / 2 else 0

def exactStepDefects (host : Host (Exact ℚ) (Exact ℚ)) : Result (Verdict × List DefectType) := do
  let pipeline ← InspectionPipeline.create exactStepConfig
  let report ← pipeline.run host .sequential exactClock exactTable exactStep exactRequest
  return (report.verdict, report.regions.map DefectRegion.type)

theorem exactStep_runs : ∃ pipeline report report',
    InspectionPipeline.create exactStepConfig = .ok pipeline ∧
    pipeline.run exactUpwards .sequential exactClock exactTable exactStep exactRequest =
      .ok report ∧
    pipeline.run (exactUpwards.withFit exactDownwards) .sequential exactClock exactTable exactStep
      exactRequest = .ok report' ∧
    report.regions.map DefectRegion.type = [.bump] ∧
    report'.regions.map DefectRegion.type = [.dent] := by
  have hup : exactStepDefects exactUpwards = .ok (.fail, [.bump]) := by decide +kernel
  have hdown : exactStepDefects (exactUpwards.withFit exactDownwards) = .ok (.fail, [.dent]) := by
    decide +kernel
  simp only [exactStepDefects, bind_ok_iff, pure, Except.pure, Except.ok.injEq, Prod.mk.injEq]
    at hup hdown
  obtain ⟨pipeline, hpipeline, report, hreport, -, hbump⟩ := hup
  obtain ⟨pipeline', hpipeline', report', hreport', -, hdent⟩ := hdown
  obtain rfl : pipeline' = pipeline := Except.ok.inj (hpipeline'.symm.trans hpipeline)
  exact ⟨pipeline', report, report', hpipeline, hreport, hreport', hbump, hdent⟩

/-- The middle of the table is a bump, or a dent when the normals are turned over. -/
theorem opposite_normals_differ : ∃ pipeline report report',
    InspectionPipeline.create exactStepConfig = .ok pipeline ∧
    exactTable.normals = [] ∧ exactStep.normals = [] ∧
    SignsTurned exactUpwards exactDownwards .sequential .sequential pipeline.config exactTable ∧
    SignsTurned exactUpwards exactDownwards .sequential .sequential pipeline.config exactStep ∧
    pipeline.run exactUpwards .sequential exactClock exactTable exactStep exactRequest =
      .ok report ∧
    pipeline.run (exactUpwards.withFit exactDownwards) .sequential exactClock exactTable exactStep
      exactRequest = .ok report' ∧
    report.regions.map DefectRegion.type = [.bump] ∧
    report'.regions.map DefectRegion.type = [.dent] := by
  obtain ⟨pipeline, report, report', hpipeline, hreport, hreport', hbump, hdent⟩ := exactStep_runs
  exact ⟨pipeline, report, report', hpipeline, rfl, rfl, .of_fits exactDownwards_turned _,
    .of_fits exactDownwards_turned _, hreport, hreport', hbump, hdent⟩

/-- The deviations of the step make dents or bumps. -/
theorem unproven_sign_step : ∃ pipeline,
    InspectionPipeline.create exactStepConfig = .ok pipeline ∧
    ¬ pipeline.Undeviating exactUpwards .sequential exactTable exactStep exactRequest := by
  obtain ⟨pipeline, report, report', hpipeline, hreport, hreport', hbump, hdent⟩ := exactStep_runs
  have hsigns : ∀ surface, SignsTurned exactUpwards exactDownwards .sequential .sequential
      pipeline.config surface := .of_fits exactDownwards_turned
  have hflags : ∀ surface : SurfaceView (Exact ℚ), surface.grid ≠ none →
      FlagsAgree exactUpwards exactDownwards .sequential .sequential pipeline.config surface :=
    fun _ => .of_grid
  have hlaw := unproven_sign_iff exactUpwards_signBlind (rfl : exactTable.normals = [])
    (rfl : exactStep.normals = []) (hsigns exactTable) (hsigns exactStep)
    (hflags exactTable (by decide))
    (hflags exactStep (by decide)) exactClock exactClock exactRequest
  refine ⟨pipeline, hpipeline, fun hclear => ?_⟩
  have hsame := hlaw.1 hclear
  rw [hreport, hreport'] at hsame
  have hregions : report'.regions = report.regions := congrArg Prod.snd (Except.ok.inj hsame)
  rw [hregions, hbump] at hdent
  cases hdent

end PointcloudAd
