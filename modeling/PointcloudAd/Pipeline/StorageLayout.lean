import PointcloudAd.Core.Packing
import PointcloudAd.Pipeline.Noninterference

/-!
# Storage layouts

The pipeline on surfaces and on the same surfaces without row padding. The stages skip padding; the
counters of the two summaries do not, so reports show it once fields are computed.
-/

namespace PointcloudAd

open Library Registration

variable {F D : Type} [FloatArith F] [FloatArith D] [Floats F D]

/-- The fields that a run computes, if it gets there. -/
def InspectionPipeline.Computes (pipeline : InspectionPipeline D) (host : Host F D)
    (scheduler : Scheduler) (reference scan : SurfaceView F) (request : InspectionRequest D)
    (comparison : Comparison F D) : Prop :=
  ∃ run, runToRegistration host scheduler pipeline.config reference scan request = .ok run ∧
    run.accepted pipeline.config = true ∧
    run.compare host scheduler pipeline.config = .ok comparison

/-- The report is that of the packed surfaces, and every counter is one of samples. -/
structure LayoutIndependent (pipeline : InspectionPipeline D) (host : Host F D)
    (scheduler : Scheduler) (clock : Clock) (reference scan : SurfaceView F)
    (request : InspectionRequest D) : Prop where
  report : (pipeline.run host scheduler clock reference scan request).map
      InspectionResult.untimed =
    (pipeline.run host scheduler clock reference.packed scan.packed request).map
      InspectionResult.untimed
  deviation : ∀ comparison, pipeline.Computes host scheduler reference scan request comparison →
    (summarizeDeviation F comparison.deviation).total = scan.size
  coverage : ∀ comparison, pipeline.Computes host scheduler reference scan request comparison →
    (summarizeCoverage comparison.coverage).total = reference.size

section

variable [LawfulZero F D] {pipeline : InspectionPipeline D} {host : Host F D}
  {scheduler : Scheduler} {reference scan : OwnedSurface F} {request : InspectionRequest D}

/-- The counters of a run add up to the storage of its surfaces. -/
theorem InspectionPipeline.Computes.totals {comparison : Comparison F D}
    (h : pipeline.Computes host scheduler reference.view scan.view request comparison) :
    (summarizeDeviation F comparison.deviation).total = scan.view.storageSize ∧
      (summarizeCoverage comparison.coverage).total = reference.view.storageSize := by
  obtain ⟨run, hrun, -, hcompare⟩ := h
  obtain ⟨hdeviation, hcoverage, -, -⟩ := compare_slots hcompare
  -- a run over one pair of surfaces is alike itself, which gives the layouts of its stages
  have halike := runToRegistration_related host scheduler scheduler pipeline.config
    reference reference scan scan (.refl reference.shaped) (.refl scan.shaped) request
  rw [hrun] at halike
  obtain - | ⟨halike⟩ := halike
  have hcomparison := compare_related halike host scheduler scheduler pipeline.config
  rw [hcompare] at hcomparison
  obtain - | ⟨hcomparison⟩ := hcomparison
  have hcovered : comparison.coverage.coveredCount =
      comparison.coverage.samples.countP fun sample => sample.reason = .covered := by
    unfold RegisteredRun.compare compareSurfaces at hcompare
    simp only [bind_ok_iff, pure, Except.pure, Except.ok.injEq] at hcompare
    obtain ⟨alignedScan, -, deviation, -, coverage, hfield, rfl⟩ := hcompare
    exact computeCoverageField_coveredCount run.reference.surface.shaped hfield
  constructor
  · rw [summarizeDeviation_total, hdeviation, hcomparison.left.storage]
  · rw [summarizeCoverage_total hcovered, hcoverage, halike.reference.left.storage]

/-- A run shows the layout of its surfaces exactly when one of them is padded and the run computes
fields. -/
theorem layoutIndependent_iff (reference scan : OwnedSurface F) (clock : Clock) :
    LayoutIndependent pipeline host scheduler clock reference.view scan.view request ↔
      (reference.view.Unpadded ∧ scan.view.Unpadded) ∨
        ∀ comparison, ¬ pipeline.Computes host scheduler reference.view scan.view request
          comparison := by
  have hrelated := runToRegistration_related host scheduler scheduler pipeline.config
    reference reference.packed scan scan.packed reference.shaped.packed_corresponds
      scan.shaped.packed_corresponds request
  constructor
  · intro h
    by_cases hcomputes : ∃ comparison, pipeline.Computes host scheduler reference.view scan.view
        request comparison
    · obtain ⟨comparison, hcomparison⟩ := hcomputes
      obtain ⟨hdeviation, hcoverage⟩ := hcomparison.totals
      exact .inl ⟨hcoverage.symm.trans (h.coverage comparison hcomparison),
        hdeviation.symm.trans (h.deviation comparison hcomparison)⟩
    · exact .inr (not_exists.mp hcomputes)
  · rintro (⟨hreference, hscan⟩ | hcomputes)
    · refine ⟨?_, fun comparison h => h.totals.1.trans hscan,
        fun comparison h => h.totals.2.trans hreference⟩
      unfold InspectionPipeline.run
      rw [runImpl_eq, runImpl_eq]
      exact hrelated.bind_map_eq fun _ _ _ _ halike => halike.inspect
        (reference.shaped.packed_layout hreference) (scan.shaped.packed_layout hscan) clock clock
        request
    · refine ⟨?_, fun comparison h => absurd h (hcomputes comparison),
        fun comparison h => absurd h (hcomputes comparison)⟩
      unfold InspectionPipeline.run
      rw [runImpl_eq, runImpl_eq]
      refine hrelated.bind_map_eq fun a b ha hb halike => ?_
      cases haccepted : a.accepted pipeline.config with
      | false =>
        have haccepted' := halike.accepted pipeline.config ▸ haccepted
        rw [RegisteredRun.inspect_rejected haccepted, RegisteredRun.inspect_rejected haccepted',
          halike.registered]
      | true =>
        have haccepted' := halike.accepted pipeline.config ▸ haccepted
        rw [RegisteredRun.inspect_accepted haccepted, RegisteredRun.inspect_accepted haccepted']
        exact (compare_related halike host scheduler scheduler pipeline.config).bind_map_eq
          fun comparison _ hc _ _ => absurd ⟨a, ha, haccepted, hc⟩ (hcomputes comparison)

end

/-- The invalid inputs that the report on two flat grids counts. -/
def exactInvalidCount (surface : SurfaceView (Exact ℚ)) : Result ℕ := do
  let pipeline ← InspectionPipeline.create exactConfig
  let report ← pipeline.run exactHost .sequential exactClock surface surface exactRequest
  return report.deviations.inputInvalid

/-- Six samples in rows of four are seven slots: the padding is reported as an invalid input. -/
theorem layoutIndependent_padded :
    ∃ pipeline, InspectionPipeline.create exactConfig = .ok pipeline ∧
    ¬ LayoutIndependent pipeline exactHost .sequential exactClock
      (exactGrid 3 2 4 true fun _ _ => 0) (exactGrid 3 2 4 true fun _ _ => 0) exactRequest := by
  obtain ⟨pipeline, hpipeline⟩ : ∃ pipeline, InspectionPipeline.create exactConfig = .ok pipeline :=
    exists_ok (by decide +kernel)
  have hpadded : exactInvalidCount (exactGrid 3 2 4 true fun _ _ => 0) = .ok 1 := by decide +kernel
  have hpacked : exactInvalidCount (exactGrid 3 2 4 true fun _ _ => 0).packed = .ok 0 := by
    decide +kernel
  refine ⟨pipeline, hpipeline, fun h => ?_⟩
  have hreport := h.report
  simp only [exactInvalidCount, bind_ok_iff, hpipeline, Except.ok.injEq] at hpadded hpacked
  obtain ⟨_, rfl, report, hrun, hcount⟩ := hpadded
  obtain ⟨_, rfl, report', hrun', hcount'⟩ := hpacked
  rw [hrun, hrun'] at hreport
  have hcounts : report.deviations.inputInvalid = report'.deviations.inputInvalid :=
    congrArg (fun report => report.deviations.inputInvalid) (Except.ok.inj hreport)
  rw [Except.ok.inj hcount, Except.ok.inj hcount'] at hcounts
  exact absurd hcounts (by decide)

/-- The same grid without padding. -/
theorem layoutIndependent_unpadded : ∃ pipeline,
    InspectionPipeline.create exactConfig = .ok pipeline ∧
    LayoutIndependent pipeline exactHost .sequential exactClock
      (exactGrid 3 2 3 true fun _ _ => 0) (exactGrid 3 2 3 true fun _ _ => 0) exactRequest := by
  obtain ⟨pipeline, hpipeline⟩ : ∃ pipeline, InspectionPipeline.create exactConfig = .ok pipeline :=
    exists_ok (by decide +kernel)
  exact ⟨pipeline, hpipeline, (layoutIndependent_iff (exactPlate 3 2 3 (by decide +kernel))
    (exactPlate 3 2 3 (by decide +kernel)) exactClock).mpr
      (.inl ⟨by decide +kernel, by decide +kernel⟩)⟩

end PointcloudAd
