import PointcloudAd.Pipeline.CachedInspection

/-!
# Runs over corresponding surfaces

Two runs whose surfaces have the same samples stay related through every stage: what is stored
under a mask or in row padding shows in no error and, in one layout, in no report.
-/

namespace PointcloudAd

open Library Registration

variable {F D : Type} [FloatArith F] [FloatArith D] [Floats F D]

/-- Two prepared surfaces that keep the layouts of their inputs. -/
structure PreparedFrom (D : Type) [FloatArith D] [Floats F D] (s t : SurfaceView F)
    (a b : NormalBoundaryResult F) : Prop extends PreparedAlike a b where
  left : SameLayout s a.surface.view
  right : SameLayout t b.surface.view
  masked : a.surface.view.NormalsMasked D

/-- Two runs that registered corresponding surfaces alike. -/
structure RunsAlike (reference reference' scan scan' : SurfaceView F) (a b : RegisteredRun F D) :
    Prop where
  reference : PreparedFrom D reference reference' a.reference b.reference
  scan : PreparedFrom D scan scan' a.scan b.scan
  registered : a.registered = b.registered

section

variable [LawfulZero F D] {host : Host F D} {scheduler scheduler' : Scheduler}
  {config : ValidatedInspectionConfig D}
  {reference reference' scan scan' : OwnedSurface F}

theorem prepareSurface_related {s t : OwnedSurface F} (h : Corresponds s.view t.view) :
    Outcome (PreparedFrom D s.view t.view) (prepareSurface host scheduler config s.view)
      (prepareSurface host scheduler' config t.view) := by
  have hprepared := prepareNormalsAndBoundaries_related h host scheduler scheduler'
    config.preprocess.normalRadiusMm config.preprocess.normalMinNeighbors
    config.preprocess.boundaryRadiusMm .none
    (Iff.refl (config.execution.threadCount = 0))
  exact hprepared.mono_of_eq fun a b ha hb hab =>
    { hab with
      left := prepareNormalsAndBoundaries_layout ha
      right := prepareNormalsAndBoundaries_layout hb
      masked := prepareNormalsAndBoundaries_masked s.shaped ha }

omit [LawfulZero F D] in
theorem normalizeInPlace_related {s t : SurfaceView F} (h : Corresponds s t) :
    Outcome (fun a b => Corresponds a.view b.view ∧ SameLayout s a.view ∧ SameLayout t b.view)
      (normalizeInPlace D s) (normalizeInPlace D t) := by
  have hnormalized := normalizeSurface_related (D := D) h s.frame none
  unfold normalizeInPlace
  rw [← h.frame]
  exact hnormalized.mono_of_eq fun a b ha hb hab =>
    ⟨hab, normalizeSurface_layout ha, normalizeSurface_layout hb⟩

omit [LawfulZero F D] in
theorem PreparedFrom.trans {s s' t t' : SurfaceView F} {a b : NormalBoundaryResult F}
    (h : PreparedFrom D s t a b) (hs : SameLayout s' s) (ht : SameLayout t' t) :
    PreparedFrom D s' t' a b :=
  { h with
    left := hs.trans h.left
    right := ht.trans h.right }

theorem prepareSurfaces_related (hr : Corresponds reference.view reference'.view)
    (hs : Corresponds scan.view scan'.view) :
    Outcome (fun a b => PreparedFrom D reference.view reference'.view a.1 b.1 ∧
        PreparedFrom D scan.view scan'.view a.2 b.2)
      (prepareSurfaces host scheduler config reference.view scan.view none)
      (prepareSurfaces host scheduler' config reference'.view scan'.view none) := by
  unfold prepareSurfaces
  refine (normalizeInPlace_related hr).bind fun r r' ⟨hcr, hlr, hlr'⟩ => ?_
  refine (normalizeInPlace_related hs).bind fun q q' ⟨hcq, hlq, hlq'⟩ => ?_
  refine (prepareSurface_related hcr).bind fun a b hab => ?_
  refine (prepareSurface_related hcq).bind fun a' b' hab' => ?_
  exact .ok ⟨hab.trans hlr hlr', hab'.trans hlq hlq'⟩

omit [LawfulZero F D] in
/-- Registrations without a context, of corresponding surfaces. -/
theorem registerScan_related (hr : Corresponds reference.view reference'.view)
    (hs : Corresponds scan.view scan'.view) (initial : RigidTransform D) :
    (registerScan host scheduler config reference.view scan.view initial none).1 =
      (registerScan host scheduler' config reference'.view scan'.view initial none).1 := by
  have hthreads : (toRegistrationParameters config.registration
      config.execution.threadCount).threadCount ≠ 0 := config.execution.threads
  have hcreate := RegistrationContext.create_related host scheduler scheduler' hr hthreads
    hthreads scan.view.size scan'.view.size config.execution.backend
    (by rw [show scan.view.size = scan'.view.size from hs.size])
    (by rw [show reference.view.size = reference'.view.size from hr.size,
      show scan.view.size = scan'.view.size from hs.size])
  refine Outcome.eq_iff.mp (hcreate.bind_of_eq fun context context' hcontext hcontext' halike => ?_)
  have hcapacity := (RegistrationContext.create_ok_iff.mp hcontext).capacity_eq
  have hcapacity' := (RegistrationContext.create_ok_iff.mp hcontext').capacity_eq
  have halign := (RegistrationContext.align_related host scheduler scheduler' halike
    (.of_corresponds hs)
    (by rw [hcapacity, hcapacity']; simp) initial).1
  unfold registerIn
  dsimp only
  rw [halign, halike.backend]
  exact Outcome.eq_iff.mpr rfl

theorem runToRegistration_related (host : Host F D) (scheduler scheduler' : Scheduler)
    (config : ValidatedInspectionConfig D) (reference reference' scan scan' : OwnedSurface F)
    (hr : Corresponds reference.view reference'.view)
    (hs : Corresponds scan.view scan'.view) (request : InspectionRequest D) :
    Outcome (RunsAlike reference.view reference'.view scan.view scan'.view)
      (runToRegistration host scheduler config reference.view scan.view request)
      (runToRegistration host scheduler' config reference'.view scan'.view request) := by
  unfold runToRegistration
  refine (prepareSurfaces_related hr hs).bind fun a b ⟨hreference, hscan⟩ => ?_
  have hpose : initialPose request a.1.surface.view a.2.surface.view =
      initialPose request b.1.surface.view b.2.surface.view := by
    unfold initialPose
    rw [hreference.surface.frame, hscan.surface.frame]
  rw [hpose]
  refine (Outcome.eq_iff.mpr rfl).bind fun pose _ h => ?_
  subst h
  rw [registerScan_related hreference.surface hscan.surface]
  refine (Outcome.eq_iff.mpr rfl).bind fun registered _ h => ?_
  subst h
  exact .ok ⟨hreference, hscan, rfl⟩

end

/-- Two comparisons that agree when the layouts of the references and of the scans do. -/
structure ComparisonsAlike (reference reference' scan scan' : SurfaceView F)
    (a b : Comparison F D) : Prop where
  alignedScan : Corresponds a.alignedScan.view b.alignedScan.view
  left : SameLayout scan a.alignedScan.view
  right : SameLayout scan' b.alignedScan.view
  deviation : SameLayout reference reference' → SameLayout scan scan' → a.deviation = b.deviation
  coverage : SameLayout reference reference' → SameLayout scan scan' → a.coverage = b.coverage

theorem compare_related {reference reference' scan scan' : SurfaceView F} {a b : RegisteredRun F D}
    (h : RunsAlike reference reference' scan scan' a b) (host : Host F D)
    (scheduler scheduler' : Scheduler) (config : ValidatedInspectionConfig D) :
    Outcome (ComparisonsAlike reference reference' scan scan') (a.compare host scheduler config)
      (b.compare host scheduler' config) := by
  have hframe := h.reference.surface.frame
  unfold RegisteredRun.compare compareSurfaces
  rw [← h.registered, ← hframe]
  refine (normalizeSurface_related h.scan.surface _ _).bind_of_eq fun q q' hq hq' hcq => ?_
  have hlq := normalizeSurface_layout hq
  have hlq' := normalizeSurface_layout hq'
  -- the layouts of the inputs are those of the prepared and of the aligned surfaces
  have hreference : SameLayout reference reference' →
      SameLayout a.reference.surface.view b.reference.surface.view := fun hl =>
    (h.reference.left.symm.trans hl).trans h.reference.right
  have hscan : SameLayout scan scan' → SameLayout q.view q'.view := fun hl =>
    ((h.scan.left.trans hlq).symm.trans hl).trans (h.scan.right.trans hlq')
  refine (computeDeviationField_related h.reference.surface h.reference.normals h.reference.masked
    h.reference.boundary hcq host scheduler scheduler' config.comparison
    (Iff.refl (config.execution.threadCount = 0))).bind fun deviation deviation' hdeviation => ?_
  refine (computeCoverageField_related h.reference.surface hcq (h.scan.boundary.of_layout hlq hlq')
    host scheduler scheduler' config.comparison
    (Iff.refl (config.execution.threadCount = 0))).bind fun coverage coverage' hcoverage => ?_
  exact .ok ⟨hcq, h.scan.left.trans hlq, h.scan.right.trans hlq',
    fun hlr hls => hdeviation (hreference hlr) (hscan hls),
    fun hlr hls => hcoverage (hreference hlr) (hscan hls)⟩

/-- Detection looks at valid samples only, so corresponding surfaces in one layout have the same
regions. -/
theorem detectDefects_congr (host : Host F D) (config : ValidatedInspectionConfig D)
    {reference reference' : SurfaceView F} (hr : Corresponds reference reference')
    (hlr : SameLayout reference reference') {a b : Comparison F D}
    (hs : Corresponds a.alignedScan.view b.alignedScan.view)
    (hls : SameLayout a.alignedScan.view b.alignedScan.view)
    (hdeviation : a.deviation = b.deviation)
    (hcoverage : a.coverage = b.coverage)
    (hscan : ∀ i, (a.deviation.samples.getD i default).reason ≠ .inputInvalid →
      i ∈ a.alignedScan.view.indices ∧ a.alignedScan.view.isValidIndex i = true)
    (hreference : ∀ i, (a.coverage.samples.getD i default).reason ≠ .inputInvalid →
      i ∈ reference.indices ∧ reference.isValidIndex i = true) :
    detectDefects host config reference a = detectDefects host config reference' b := by
  have hagree : ∀ {s t : SurfaceView F}, Corresponds s t → SameLayout s t → ∀ {i : ℕ},
      i ∈ s.indices ∧ s.isValidIndex i = true → s.isValidIndex i = t.isValidIndex i ∧
        s.points.getD i default = t.points.getD i default := by
    intro s t hc hl i hi
    have hpair : Paired s.indices t.indices i i := by
      rw [← hl.indices]
      exact .refl hi.1
    exact ⟨hc.valid i i hpair, hc.points.getD hpair hi.2 default⟩
  have hdeviated : ∀ {reason : DeviationReason}, reason = .valid → reason ≠ .inputInvalid := by
    rintro _ rfl
    decide
  have hmissing : ∀ {reason : CoverageReason}, reason = .noNeighbor → reason ≠ .inputInvalid := by
    rintro _ rfl
    decide
  have hclusters : clusterDeviationDefects host a.alignedScan.view a.deviation config.detection =
      clusterDeviationDefects host b.alignedScan.view b.deviation config.detection := by
    unfold clusterDeviationDefects
    rw [← hdeviation, hs.unit, hls.storage,
      clusterCandidates_congr fun i hi =>
        (hagree hs hls (hscan i (hdeviated (reason_of_exceedsPositive hi)))).2,
      clusterCandidates_congr fun i hi =>
        (hagree hs hls (hscan i (hdeviated (reason_of_exceedsNegative hi)))).2]
  have hholes : clusterMissingMaterial host reference a.coverage config.detection =
      clusterMissingMaterial host reference' b.coverage config.detection := by
    unfold clusterMissingMaterial
    rw [← hcoverage, hr.unit, hlr.storage,
      clusterCandidates_congr fun i hi =>
        (hagree hr hlr (hreference i (hmissing (reason_of_isMissing hi)))).2]
  unfold detectDefects
  rw [← hclusters, ← hholes, ← hdeviation]
  refine Outcome.eq_iff.mp ((Outcome.eq_iff.mpr rfl).bind_of_eq fun clusters _ hc _ h => ?_)
  subst h
  refine (Outcome.eq_iff.mpr rfl).bind_of_eq fun holes _ hh _ h => ?_
  subst h
  refine (Outcome.eq_iff.mpr (mapM_congr fun entry hentry => ?_)).bind ?_
  · have hmem := List.fst_mem_of_mem_zipIdx hentry
    exact measureDeviationRegion_congr hs.unit hls.storage
      (fun i hi => hagree hs hls (hscan i (hdeviated (reason_of_deviationCluster hc hmem hi)))) _ _
  rintro deviations _ rfl
  refine (Outcome.eq_iff.mpr (mapM_congr fun entry hentry => ?_)).bind ?_
  · have hmem := List.fst_mem_of_mem_zipIdx hentry
    exact measureMissingRegion_congr hr.unit hlr.storage
      (fun i hi => hagree hr hlr (hreference i (hmissing (reason_of_missingCluster hh hmem hi)))) _
  rintro missing _ rfl
  exact Outcome.eq_iff.mpr rfl

section

variable {host : Host F D} {scheduler scheduler' : Scheduler} {config : ValidatedInspectionConfig D}
  {reference reference' scan scan' : SurfaceView F} {a b : RegisteredRun F D}

/-- The fields of a run span their surfaces, and have reasons at valid samples only. -/
theorem compare_slots {comparison : Comparison F D}
    (h : a.compare host scheduler config = .ok comparison) :
    comparison.deviation.samples.length = comparison.alignedScan.view.storageSize ∧
    comparison.coverage.samples.length = a.reference.surface.view.storageSize ∧
    (∀ i, (comparison.deviation.samples.getD i default).reason ≠ .inputInvalid →
      i ∈ comparison.alignedScan.view.indices ∧
        comparison.alignedScan.view.isValidIndex i = true) ∧
    ∀ i, (comparison.coverage.samples.getD i default).reason ≠ .inputInvalid →
      i ∈ a.reference.surface.view.indices ∧ a.reference.surface.view.isValidIndex i = true := by
  unfold RegisteredRun.compare compareSurfaces at h
  simp only [bind_ok_iff, pure, Except.pure, Except.ok.injEq] at h
  obtain ⟨alignedScan, -, deviation, hdeviation, coverage, hcoverage, rfl⟩ := h
  obtain ⟨hlength, hslots⟩ := computeDeviationField_slots alignedScan.shaped hdeviation
  obtain ⟨hlength', hslots'⟩ := computeCoverageField_slots a.reference.surface.shaped hcoverage
  exact ⟨hlength, hlength', hslots, hslots'⟩

theorem RunsAlike.accepted (h : RunsAlike reference reference' scan scan' a b)
    (config : ValidatedInspectionConfig D) :
    a.accepted config = b.accepted config := by
  unfold RegisteredRun.accepted
  rw [h.registered]

/-- Runs over corresponding surfaces in one layout report alike. -/
theorem RunsAlike.inspect (h : RunsAlike reference reference' scan scan' a b)
    (hlr : SameLayout reference reference') (hls : SameLayout scan scan') (clock clock' : Clock)
    (request : InspectionRequest D) :
    (a.inspect host scheduler clock config request).map InspectionResult.untimed =
      (b.inspect host scheduler' clock' config request).map InspectionResult.untimed := by
  cases haccepted : a.accepted config with
  | false =>
    have haccepted' := h.accepted config ▸ haccepted
    rw [RegisteredRun.inspect_rejected haccepted, RegisteredRun.inspect_rejected haccepted',
      h.registered]
    rfl
  | true =>
    have haccepted' := h.accepted config ▸ haccepted
    rw [RegisteredRun.inspect_accepted haccepted, RegisteredRun.inspect_accepted haccepted',
      ← h.registered]
    refine Outcome.eq_iff.mp (Outcome.map (R := fun r r' => r.untimed = r'.untimed) ?_
      fun _ _ hr => hr)
    refine (compare_related h host scheduler scheduler' config).bind_of_eq
      fun comparison comparison' hc hc' halike => ?_
    obtain ⟨-, -, hscan, hreference⟩ := compare_slots hc
    have hdetected := detectDefects_congr host config h.reference.surface
      ((h.reference.left.symm.trans hlr).trans h.reference.right) halike.alignedScan
      ((halike.left.symm.trans hls).trans halike.right) (halike.deviation hlr hls)
      (halike.coverage hlr hls) hscan hreference
    rw [← hdetected, ← halike.deviation hlr hls, ← halike.coverage hlr hls]
    exact (Outcome.eq_iff.mpr rfl).map fun _ _ hr => by
      subst hr
      rfl

end

section

variable [LawfulZero F D]

/-- What surfaces hold outside their valid samples never shows: the pipeline fails with the same
error, or reports the same but for times. -/
theorem run_eq_of_agreeOnValid (reference reference' scan scan' : OwnedSurface F)
    (hr : AgreeOnValid reference.view reference'.view)
    (hs : AgreeOnValid scan.view scan'.view) (host : Host F D) (scheduler scheduler' : Scheduler)
    (clock clock' : Clock) (pipeline : InspectionPipeline D) (request : InspectionRequest D) :
    (pipeline.run host scheduler clock reference.view scan.view request).map
        InspectionResult.untimed =
      (pipeline.run host scheduler' clock' reference'.view scan'.view request).map
        InspectionResult.untimed := by
  have hlr := hr.layout reference.shaped reference'.shaped
  have hls := hs.layout scan.shaped scan'.shaped
  unfold InspectionPipeline.run
  rw [runImpl_eq, runImpl_eq]
  exact (runToRegistration_related host scheduler scheduler' pipeline.config reference
    reference' scan
    scan' (hr.corresponds reference.shaped reference'.shaped)
    (hs.corresponds scan.shaped scan'.shaped) request).bind_map_eq
      fun _ _ _ _ h => h.inspect hlr hls clock clock' request

end

/-- A row of three samples, the middle one masked, with a height there. -/
def exactRow (height : Exact ℚ) : SurfaceView (Exact ℚ) where
  points := [exactPoint 0 0 0, ⟨.fin 1, .fin 0, height⟩, exactPoint 2 0 0]
  normals := []
  valid := [1, 0, 1]
  grid := some ⟨3, 1, 3⟩
  unit := .millimeter
  frame := exactFrame
  logicalSize := 3

theorem exactRow_agree (height height' : Exact ℚ) :
    AgreeOnValid (exactRow height) (exactRow height') := by
  have hvalid : ∀ i, (exactRow height).isValidIndex i = true →
      (exactRow height).points[i]? = (exactRow height').points[i]? := by
    rintro (_ | _ | _ | i) h
    · rfl
    · cases h
    · rfl
    · rfl
  exact ⟨rfl, rfl, rfl, rfl, fun _ _ => rfl, Iff.rfl, fun i _ => hvalid i, fun _ _ _ => rfl⟩

/-- An infinite and an undefined coordinate under a mask. -/
theorem run_eq_of_agreeOnValid_row :
    ∃ pipeline, InspectionPipeline.create exactConfig = .ok pipeline ∧
    (pipeline.run exactHost .sequential exactClock (exactRow .nan) (exactRow 0) exactRequest).map
        InspectionResult.untimed =
      (pipeline.run exactHost .sequential exactClock (exactRow (.inf true)) (exactRow .nan)
        exactRequest).map InspectionResult.untimed := by
  obtain ⟨pipeline, hpipeline⟩ : ∃ pipeline, InspectionPipeline.create exactConfig = .ok pipeline :=
    exists_ok (by decide +kernel)
  exact ⟨pipeline, hpipeline, run_eq_of_agreeOnValid
    ⟨exactRow .nan, by decide +kernel⟩ ⟨exactRow (.inf true), by decide +kernel⟩
    ⟨exactRow 0, by decide +kernel⟩ ⟨exactRow .nan, by decide +kernel⟩
    (exactRow_agree .nan (.inf true)) (exactRow_agree 0 .nan) exactHost .sequential .sequential
    exactClock exactClock pipeline exactRequest⟩

end PointcloudAd
