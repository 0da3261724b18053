import PointcloudAd.Pipeline.CachedInspection

/-!
# Stage clocks

A stage runs in a block with a clock, whose destructor appends the stage's entry to the result of
the run when the block is left. A block that returns the result has moved it out before that.
-/

namespace PointcloudAd

open Library Registration

/-- The stages that a run entered, the entries of its result, and those of what it returned. -/
structure StageLog where
  entered : List PipelineStage
  timings : List StageTiming
  returned : Option (List StageTiming)

namespace StageLog

def start : StageLog := ⟨[], [], none⟩

/-- `return Result::success(std::move(result))`. The moved result has no entries left. -/
def success (log : StageLog) : StageLog :=
  { log with
    timings := []
    returned := some log.timings }

/-- A block with a `StageClock`. Its destructor runs after the block's return value is built. -/
def clocked (clock : Clock) (stage : PipelineStage) (block : StageLog → StageLog)
    (log : StageLog) : StageLog :=
  let left := block { log with entered := log.entered ++ [stage] }
  { left with timings := left.timings ++ [⟨stage, clock.durationUs stage⟩] }

/-- The statements after a block that may have returned. -/
def andThen (log : StageLog) (next : StageLog → StageLog) : StageLog :=
  if log.returned.isSome then log else next log

end StageLog

/-- The blocks of a run that ends in a report. The comparison has no block: its entry is appended
where it ends. -/
def stageLog (clock : Clock) (accepted : Bool) : StageLog :=
  let registered :=
    ((StageLog.start.clocked clock .normalize id).clocked clock .preprocess id).clocked clock
      .registration id
  (registered.clocked clock .registrationGate fun log =>
    if accepted then log else log.success).andThen
    fun log =>
      ((((log.clocked clock .transform id).clocked clock .compare id).clocked clock .coverageGate
        id).clocked clock .detect id).success

/-- The stages of a run that ends in a report, in their order. -/
def enteredStages (accepted : Bool) : List PipelineStage :=
  [.normalize, .preprocess, .registration, .registrationGate] ++
    if accepted then [.transform, .compare, .coverageGate, .detect] else []

namespace StageLog

/-- Every stage that was entered has its entry, and nothing was returned yet. -/
structure Complete (log : StageLog) : Prop where
  timings : log.timings.map StageTiming.stage = log.entered
  running : log.returned = none

variable {log : StageLog}

theorem Complete.clocked (h : log.Complete) (clock : Clock) (stage : PipelineStage) :
    (log.clocked clock stage id).Complete := by
  constructor
  · simp [StageLog.clocked, h.timings]
  · exact h.running

theorem Complete.success (h : log.Complete) :
    ∃ timings, log.success.returned = some timings ∧
      timings.map StageTiming.stage = log.success.entered :=
  ⟨log.timings, rfl, h.timings⟩

theorem Complete.clocked_success (h : log.Complete) (clock : Clock) (stage : PipelineStage) :
    ∃ timings, (log.clocked clock stage StageLog.success).returned = some timings ∧
      timings.map StageTiming.stage ++ [stage] =
        (log.clocked clock stage StageLog.success).entered := by
  refine ⟨log.timings, rfl, ?_⟩
  rw [h.timings]
  rfl

end StageLog

theorem stageLog_entered (clock : Clock) (accepted : Bool) :
    (stageLog clock accepted).entered = enteredStages accepted := by
  cases accepted <;> rfl

theorem stageLog_returned (clock : Clock) (accepted : Bool) :
    ∃ timings, (stageLog clock accepted).returned = some timings ∧
      (timings.map StageTiming.stage = (stageLog clock accepted).entered ↔ accepted = true) := by
  have hstart : StageLog.start.Complete := ⟨rfl, rfl⟩
  have hregistered := ((hstart.clocked clock .normalize).clocked clock .preprocess).clocked clock
    .registration
  cases accepted with
  | false =>
    obtain ⟨timings, hreturned, hlost⟩ := hregistered.clocked_success clock .registrationGate
    refine ⟨timings, hreturned, ?_⟩
    have hentered : (stageLog clock false).entered = timings.map StageTiming.stage ++
      [.registrationGate] := hlost.symm
    simp [hentered]
  | true =>
    have hgate := hregistered.clocked clock .registrationGate
    have hdetected := (((hgate.clocked clock .transform).clocked clock .compare).clocked clock
      .coverageGate).clocked clock .detect
    obtain ⟨timings, hreturned, hcomplete⟩ := hdetected.success
    exact ⟨timings, hreturned, iff_of_true hcomplete rfl⟩

/-- One entry for each stage that the run entered, in stage order. -/
def TimingsComplete {D : Type} [FloatArith D] (accepted : Bool)
    (report : InspectionResult D) : Prop :=
  report.timings.map StageTiming.stage = enteredStages accepted

variable {F D : Type} [FloatArith F] [FloatArith D] [Floats F D]

theorem RegisteredRun.inspect_timings {run : RegisteredRun F D} {host : Host F D}
    {scheduler : Scheduler} {clock : Clock} {config : ValidatedInspectionConfig D}
    {request : InspectionRequest D} {report : InspectionResult D}
    (h : run.inspect host scheduler clock config request = .ok report) :
    (stageLog clock (run.accepted config)).returned = some report.timings := by
  cases haccepted : run.accepted config with
  | false =>
    rw [inspect_rejected haccepted] at h
    obtain rfl := Except.ok.inj h
    rfl
  | true =>
    rw [inspect_accepted haccepted] at h
    obtain ⟨comparison, -, hreport⟩ := bind_ok_iff.mp h
    obtain ⟨regions, -, rfl⟩ := map_ok_iff.mp hreport
    rfl

theorem runImpl_timings {host : Host F D} {scheduler : Scheduler} {clock : Clock}
    {config : ValidatedInspectionConfig D} {reference scan : SurfaceView F}
    {request : InspectionRequest D}
    {cached : Option (NormalBoundaryResult F × RegistrationContext F D)}
    {report : InspectionResult D}
    (h : (runImpl host scheduler clock config reference scan request cached).1 = .ok report) :
    ∃ run, registeredRun host scheduler config reference scan request cached = .ok run ∧
      (TimingsComplete (run.accepted config) report ↔ run.accepted config = true) := by
  rw [runImpl_registered] at h
  obtain ⟨run, hrun, hinspect⟩ := bind_ok_iff.mp h
  refine ⟨run, hrun, ?_⟩
  obtain ⟨timings, hreturned, hcomplete⟩ := stageLog_returned clock (run.accepted config)
  rw [RegisteredRun.inspect_timings hinspect] at hreturned
  obtain rfl := Option.some.inj hreturned
  rw [← hcomplete, stageLog_entered]
  rfl

/-- The report of a run, by a pipeline or in a context, has all its timings exactly when the
registration gate accepts. -/
theorem timings_complete_iff (host : Host F D) (scheduler : Scheduler) (clock : Clock)
    (request : InspectionRequest D) :
    (∀ (pipeline : InspectionPipeline D) (reference scan : SurfaceView F)
        (report : InspectionResult D),
      pipeline.run host scheduler clock reference scan request = .ok report →
        ∃ run, registeredRun host scheduler pipeline.config reference scan request none = .ok run ∧
          (TimingsComplete (run.accepted pipeline.config) report ↔
            run.accepted pipeline.config = true)) ∧
      ∀ (context : InspectionContext F D) (scan : SurfaceView F) (report : InspectionResult D),
        (context.run host scheduler clock scan request).1 = .ok report →
          ∃ run, registeredRun host scheduler context.config context.reference.surface.view scan
              request (some (context.reference, context.registration)) = .ok run ∧
            (TimingsComplete (run.accepted context.config) report ↔
              run.accepted context.config = true) := by
  constructor
  · intro pipeline reference scan report h
    exact runImpl_timings h
  · intro context scan report h
    unfold InspectionContext.run at h
    split_ifs at h
    exact runImpl_timings h

/-- A configuration whose gate asks for more pairs than six points have. -/
def exactStrictConfig : InspectionConfig (Exact ℚ) :=
  { exactConfig with
    registrationGate := { exactConfig.registrationGate with minValidPairs := some 7 } }

def exactStrictTimings : Result (List PipelineStage) := do
  let pipeline ← InspectionPipeline.create exactStrictConfig
  let report ← pipeline.run exactHost .sequential exactClock (exactGrid 3 2 3 true fun _ _ => 0)
    (exactGrid 3 2 3 true fun _ _ => 0) exactRequest
  return report.timings.map StageTiming.stage

/-- A run that its gate rejects reports no time of the gate. -/
theorem timings_complete_rejected : ∃ (pipeline : InspectionPipeline (Exact ℚ))
    (report : InspectionResult (Exact ℚ)) (run : RegisteredRun (Exact ℚ) (Exact ℚ)),
    InspectionPipeline.create exactStrictConfig = .ok pipeline ∧
    pipeline.run exactHost .sequential exactClock (exactGrid 3 2 3 true fun _ _ => 0)
      (exactGrid 3 2 3 true fun _ _ => 0) exactRequest = .ok report ∧
    registeredRun exactHost .sequential pipeline.config (exactGrid 3 2 3 true fun _ _ => 0)
      (exactGrid 3 2 3 true fun _ _ => 0) exactRequest none = .ok run ∧
    (TimingsComplete (run.accepted pipeline.config) report ↔
      run.accepted pipeline.config = true) := by
  have htimings : exactStrictTimings = .ok [.normalize, .preprocess, .registration] := by
    decide +kernel
  simp only [exactStrictTimings, bind_ok_iff, pure, Except.pure, Except.ok.injEq] at htimings
  obtain ⟨pipeline, hpipeline, report, hreport, -⟩ := htimings
  obtain ⟨run, hrun, hiff⟩ := (timings_complete_iff exactHost .sequential exactClock
    exactRequest).1 pipeline _ _ report hreport
  exact ⟨pipeline, report, run, hpipeline, hreport, hrun, hiff⟩

/-- The gate of a rejected run leaves no entry. -/
theorem timings_incomplete : ∃ (pipeline : InspectionPipeline (Exact ℚ))
    (report : InspectionResult (Exact ℚ)) (run : RegisteredRun (Exact ℚ) (Exact ℚ)),
    InspectionPipeline.create exactStrictConfig = .ok pipeline ∧
    pipeline.run exactHost .sequential exactClock (exactGrid 3 2 3 true fun _ _ => 0)
      (exactGrid 3 2 3 true fun _ _ => 0) exactRequest = .ok report ∧
    registeredRun exactHost .sequential pipeline.config (exactGrid 3 2 3 true fun _ _ => 0)
      (exactGrid 3 2 3 true fun _ _ => 0) exactRequest none = .ok run ∧
    report.timings.map StageTiming.stage = [.normalize, .preprocess, .registration] ∧
    ¬ TimingsComplete (run.accepted pipeline.config) report := by
  have htimings : exactStrictTimings = .ok [.normalize, .preprocess, .registration] := by
    decide +kernel
  simp only [exactStrictTimings, bind_ok_iff, pure, Except.pure, Except.ok.injEq] at htimings
  obtain ⟨pipeline, hpipeline, report, hreport, hstages⟩ := htimings
  obtain ⟨run, hrun, -⟩ := runImpl_timings hreport
  refine ⟨pipeline, report, run, hpipeline, hreport, hrun, hstages, ?_⟩
  unfold TimingsComplete
  rw [hstages]
  cases run.accepted pipeline.config <;> decide

end PointcloudAd
