import PointcloudAd.Comparison.Fields

/-!
# Statistics of the fields

Counters of every reason, over all the slots of a field, and the mean, root mean square, maximum
and 95th percentile of the valid deviations.
-/

namespace PointcloudAd

open Library Registration

variable {F D : Type} [FloatArith F] [FloatArith D] [Floats F D]

structure DeviationStatistics (D : Type) where
  validCount : ℕ
  meanSignedMm : D
  rmsMm : D
  maxAbsMm : D
  p95AbsMm : D
  inputInvalid : ℕ
  noNeighbor : ℕ
  normalMissing : ℕ
  normalMismatch : ℕ
  referenceBoundary : ℕ
  deriving DecidableEq

instance : Inhabited (DeviationStatistics D) := ⟨⟨0, 0, 0, 0, 0, 0, 0, 0, 0, 0⟩⟩

structure CoverageSummary (D : Type) where
  validCount : ℕ
  coveredCount : ℕ
  coverageRatio : D
  inputInvalid : ℕ
  noNeighbor : ℕ
  scanBoundary : ℕ
  deriving DecidableEq

instance : Inhabited (CoverageSummary D) := ⟨⟨0, 0, 0, 0, 0, 0⟩⟩

/-- Mean, root mean square, maximum and 95th percentile of some signed values, zero for none. -/
structure SignedSummary (D : Type) where
  mean : D
  rms : D
  maxAbs : D
  p95Abs : D

variable (F) in
def percentileIndex (size : ℕ) : ℕ :=
  let index := Floats.ceil F ((lit (95 / 100) : D) * lit size)
  if index = 0 then 0 else min (index - 1) (size - 1)

variable (F) in
/-- The sums and the running maximum are taken in the order of the values. -/
def summarizeSigned (values : List D) : SignedSummary D :=
  if values = [] then ⟨0, 0, 0, 0⟩
  else
    let count : D := lit values.length
    let sorted := (values.map FloatArith.abs).insertionSort (· ≤ ·)
    { mean := values.foldl (· + ·) 0 / count
      rms := sqrt (values.foldl (fun sum value => sum + value * value) 0 / count)
      maxAbs := values.foldl (fun maximum value => stdMax maximum (FloatArith.abs value)) 0
      p95Abs := sorted.getD (percentileIndex F (D := D) values.length) 0 }

variable (F) in
def summarizeDeviation (field : DeviationField D) : DeviationStatistics D :=
  let count (reason : DeviationReason) : ℕ :=
    field.samples.countP fun sample => sample.reason = reason
  let signed := (field.samples.filter fun sample => sample.reason = .valid).map
    DeviationSample.signedMm
  let summary := summarizeSigned F signed
  { validCount := count .valid
    meanSignedMm := summary.mean
    rmsMm := summary.rms
    maxAbsMm := summary.maxAbs
    p95AbsMm := summary.p95Abs
    inputInvalid := count .inputInvalid
    noNeighbor := count .noNeighbor
    normalMissing := count .normalMissing
    normalMismatch := count .normalMismatch
    referenceBoundary := count .referenceBoundary }

/-- The covered and the valid samples were counted when the field was computed. -/
def summarizeCoverage (field : CoverageField D) : CoverageSummary D :=
  let count (reason : CoverageReason) : ℕ :=
    field.samples.countP fun sample => sample.reason = reason
  { validCount := field.validCount
    coveredCount := field.coveredCount
    coverageRatio := field.coverageRatio
    inputInvalid := count .inputInvalid
    noNeighbor := count .noNeighbor
    scanBoundary := count .scanBoundary }

/-- The counters of all reasons. -/
def DeviationStatistics.total (statistics : DeviationStatistics D) : ℕ :=
  statistics.validCount + statistics.inputInvalid + statistics.noNeighbor +
    statistics.normalMissing + statistics.normalMismatch + statistics.referenceBoundary

def CoverageSummary.total (summary : CoverageSummary D) : ℕ :=
  summary.coveredCount + summary.noNeighbor + summary.scanBoundary + summary.inputInvalid

theorem summarizeDeviation_total (field : DeviationField D) :
    (summarizeDeviation F field).total = field.samples.length := by
  unfold summarizeDeviation DeviationStatistics.total
  dsimp only
  induction field.samples with
  | nil => rfl
  | cons sample samples ih =>
    rw [List.length_cons, ← ih]
    simp only [List.countP_cons]
    cases sample.reason <;> simp <;> omega

omit [Floats F D] [FloatArith F] in
theorem summarizeCoverage_total {field : CoverageField D}
    (h : field.coveredCount = field.samples.countP fun sample => sample.reason = .covered) :
    (summarizeCoverage field).total = field.samples.length := by
  unfold summarizeCoverage CoverageSummary.total
  dsimp only
  rw [h]
  induction field.samples with
  | nil => rfl
  | cons sample samples ih =>
    rw [List.length_cons, ← ih]
    simp only [List.countP_cons]
    cases sample.reason <;> simp <;> omega

end PointcloudAd
