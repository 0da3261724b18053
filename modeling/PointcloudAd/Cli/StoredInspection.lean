import PointcloudAd.Backends.FileWriters
import PointcloudAd.Cli.Contract
import PointcloudAd.Pipeline.Noninterference
import PointcloudAd.Pipeline.StageClock

/-!
# Inspections of stored surfaces

An inspection of files that surfaces were written to ends as the inspection of the surfaces
themselves without padding: with its exit code, what it prints and both files. Units and frames are
those of the configuration.
-/

namespace PointcloudAd

open Library Registration

section

variable {F D : Type} [FloatArith F] [FloatArith D] [Floats F D] {host : Host F D}
  {scheduler scheduler' : Scheduler} {clock : Clock} {config : ValidatedInspectionConfig D}
  {request : InspectionRequest D}

omit [FloatArith F] [Floats F D] in
theorem InspectionResult.eq_of_untimed {report report' : InspectionResult D}
    (h : report.untimed = report'.untimed) (htimings : report.timings = report'.timings)
    (htimestamp : report.provenance.timestampUtc = report'.provenance.timestampUtc) :
    report = report' :=
  calc report = { report.untimed with
          timings := report.timings
          provenance := { report.untimed.provenance with
            timestampUtc := report.provenance.timestampUtc } } := rfl
    _ = { report'.untimed with
          timings := report'.timings
          provenance := { report'.untimed.provenance with
            timestampUtc := report'.provenance.timestampUtc } } := by
      rw [h, htimings, htimestamp]
    _ = report' := rfl

theorem RegisteredRun.inspect_timestamp {run : RegisteredRun F D} {report : InspectionResult D}
    (h : run.inspect host scheduler clock config request = .ok report) :
    report.provenance.timestampUtc = clock.timestampUtc := by
  cases haccepted : run.accepted config with
  | false =>
    rw [inspect_rejected haccepted] at h
    obtain rfl := Except.ok.inj h
    rfl
  | true =>
    rw [inspect_accepted haccepted] at h
    obtain ⟨comparison, -, hreport⟩ := bind_ok_iff.mp h
    obtain ⟨regions, -, rfl⟩ := map_ok_iff.mp hreport
    rfl

/-- By one clock, runs over corresponding surfaces in one layout report the same. -/
theorem RunsAlike.inspect_eq {reference reference' scan scan' : SurfaceView F}
    {a b : RegisteredRun F D} (h : RunsAlike reference reference' scan scan' a b)
    (hlr : SameLayout reference reference') (hls : SameLayout scan scan') :
    a.inspect host scheduler clock config request =
      b.inspect host scheduler' clock config request := by
  have huntimed : (a.inspect host scheduler clock config request).map InspectionResult.untimed =
      (b.inspect host scheduler' clock config request).map InspectionResult.untimed :=
    h.inspect hlr hls clock clock request
  cases ha : a.inspect host scheduler clock config request with
  | error e =>
    cases hb : b.inspect host scheduler' clock config request with
    | error e' =>
      rw [ha, hb] at huntimed
      exact congrArg Except.error (Except.error.inj huntimed)
    | ok report' =>
      rw [ha, hb] at huntimed
      cases huntimed
  | ok report =>
    cases hb : b.inspect host scheduler' clock config request with
    | error e' =>
      rw [ha, hb] at huntimed
      cases huntimed
    | ok report' =>
      rw [ha, hb] at huntimed
      have htimings := RegisteredRun.inspect_timings ha
      rw [h.accepted, RegisteredRun.inspect_timings hb] at htimings
      exact congrArg Except.ok (InspectionResult.eq_of_untimed (Except.ok.inj huntimed)
        (Option.some.inj htimings).symm
        ((RegisteredRun.inspect_timestamp ha).trans (RegisteredRun.inspect_timestamp hb).symm))

theorem InspectionPipeline.run_agree [LawfulZero F D]
    {reference reference' scan scan' : OwnedSurface F}
    (hr : AgreeOnValid reference.view reference'.view) (hs : AgreeOnValid scan.view scan'.view)
    (pipeline : InspectionPipeline D) :
    pipeline.run host scheduler clock reference.view scan.view request =
      pipeline.run host scheduler' clock reference'.view scan'.view request := by
  unfold InspectionPipeline.run
  rw [runImpl_eq, runImpl_eq]
  refine Outcome.eq_iff.mp ((runToRegistration_related host scheduler scheduler' pipeline.config
    reference reference' scan scan' (hr.corresponds reference.shaped reference'.shaped)
    (hs.corresponds scan.shaped scan'.shaped) request).bind fun a b h => ?_)
  exact Outcome.eq_iff.mpr (h.inspect_eq (hr.layout reference.shaped reference'.shaped)
    (hs.layout scan.shaped scan'.shaped))

end

namespace Cli

section

variable {ι F D : Type} [FloatArith F] [FloatArith D] [Floats F D] [FloatBits F]
  [FloatIntegers D]

/-- A write of a surface by the adapter of a format. -/
def writeSurface (save : CloudSaver) (format : PointCloudFormat) (path : String)
    (surface : SurfaceView F) (binary : Bool) (before : Option Bytes) :
    Result ℕ × Option Bytes :=
  match format with
  | .ply => writePly save path surface (if binary then .binaryLittleEndian else .ascii) before
  | .pcd => writePcd save path surface (if binary then .binary else .ascii) before

/-- A path holds what a surface was written as, by a library that loads that again. -/
def Machine.Stores (machine : Machine ι F D) (save : CloudSaver) (content : ι → Option Bytes)
    (path : String) (surface : SurfaceView F) : Prop :=
  surface.Storable ∧ ∃ format binary before size, formatFromPath path = some format ∧
    writeSurface save format path surface binary before =
      (.ok size, content (machine.resolve path)) ∧
    Restores machine.load save format path binary (encodeCloud surface)

variable [LawfulFloatBits F] [LawfulZero F D] {machine : Machine ι F D} {save : CloudSaver}
  {configPath referencePath scanPath outputDir : String} {reference scan : OwnedSurface F}

end

/-- Single precision, under an arithmetic without rounding. -/
instance : Floats Binary32 (Exact ℚ) where
  widen := Binary32.toExact
  narrow := .ofExact false
  cos := Floats.cos (Exact ℚ)
  sin := Floats.sin (Exact ℚ)
  acos := Floats.acos (Exact ℚ)
  atan2 := Floats.atan2 (Exact ℚ)
  ceil := Floats.ceil (Exact ℚ)

instance : LawfulZero Binary32 (Exact ℚ) where
  widen_zero := by decide +kernel
  mul_zero_zero := by decide +kernel
  add_zero_zero := by decide +kernel
  sqrt_zero := by decide +kernel
  not_lt_zero := by decide +kernel

end Cli

end PointcloudAd
