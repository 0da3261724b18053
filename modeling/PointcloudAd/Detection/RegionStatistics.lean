import Mathlib.Algebra.Order.Floor.Semiring
import PointcloudAd.Backends.Exhaustive
import PointcloudAd.Detection.DefectRegion
import PointcloudAd.Library.ExactAlgebra
import PointcloudAd.Library.NearestRank
import PointcloudAd.Library.RealArithmetic

/-!
# Statistics of fields and regions

Fields and regions aggregate signed deviations in loops of their own, to the same values. Without
rounding, the mean, the root mean square and the maximum are ordered, the percentile has its rank,
and a region contains its centroid.
-/

namespace PointcloudAd

open Library Registration

section Loops

variable {F D : Type} [FloatArith F] [FloatArith D] [Floats F D]

/-- The sums of a loop over signed deviations. -/
structure SignedTotals (D : Type) where
  signedSum : D
  squaredSum : D
  maximumAbsolute : D
  absoluteDeviations : List D

def SignedTotals.zero : SignedTotals D := ⟨0, 0, 0, []⟩

def SignedTotals.add (totals : SignedTotals D) (signed : D) : SignedTotals D where
  signedSum := totals.signedSum + signed
  squaredSum := totals.squaredSum + signed * signed
  maximumAbsolute := stdMax totals.maximumAbsolute (FloatArith.abs signed)
  absoluteDeviations := totals.absoluteDeviations ++ [FloatArith.abs signed]

/-- The loop of `summarize_deviation`: its counters and its sums. -/
def summarizeStep (state : DeviationStatistics D × SignedTotals D) (sample : DeviationSample D) :
    DeviationStatistics D × SignedTotals D :=
  match sample.reason with
  | .valid => ({ state.1 with validCount := state.1.validCount + 1 }, state.2.add sample.signedMm)
  | .inputInvalid => ({ state.1 with inputInvalid := state.1.inputInvalid + 1 }, state.2)
  | .noNeighbor => ({ state.1 with noNeighbor := state.1.noNeighbor + 1 }, state.2)
  | .normalMissing => ({ state.1 with normalMissing := state.1.normalMissing + 1 }, state.2)
  | .normalMismatch => ({ state.1 with normalMismatch := state.1.normalMismatch + 1 }, state.2)
  | .referenceBoundary =>
    ({ state.1 with referenceBoundary := state.1.referenceBoundary + 1 }, state.2)

variable (F) in
/-- The loop and the divisions after it. -/
def summarizeDeviationLoop (field : DeviationField D) : DeviationStatistics D :=
  let (statistics, totals) := field.samples.foldl summarizeStep (default, .zero)
  if 0 < statistics.validCount then
    let count : D := lit statistics.validCount
    let sorted := totals.absoluteDeviations.insertionSort (· ≤ ·)
    { statistics with
      meanSignedMm := totals.signedSum / count
      rmsMm := sqrt (totals.squaredSum / count)
      maxAbsMm := totals.maximumAbsolute
      p95AbsMm := sorted.getD (percentileIndex F (D := D) sorted.length) 0 }
  else statistics

variable (F) in
/-- The deviations of `build_region`. -/
def regionSummary (samples : List (PointSample D)) : SignedSummary D :=
  let totals := (samples.map PointSample.signedMm).foldl SignedTotals.add .zero
  if samples = [] then ⟨0, 0, 0, 0⟩
  else
    let count : D := lit samples.length
    let sorted := totals.absoluteDeviations.insertionSort (· ≤ ·)
    { mean := totals.signedSum / count
      rms := sqrt (totals.squaredSum / count)
      maxAbs := totals.maximumAbsolute
      p95Abs := sorted.getD (percentileIndex F (D := D) sorted.length) 0 }

/-- The signed deviations of the valid samples of a field. -/
def validDeviations (field : DeviationField D) : List D :=
  (field.samples.filter fun sample => sample.reason = .valid).map DeviationSample.signedMm

omit [FloatArith F] [Floats F D] in
theorem foldl_totals (values : List D) (totals : SignedTotals D) :
    values.foldl SignedTotals.add totals =
      ⟨values.foldl (· + ·) totals.signedSum,
        values.foldl (fun sum value => sum + value * value) totals.squaredSum,
        values.foldl (fun maximum value => stdMax maximum (FloatArith.abs value))
          totals.maximumAbsolute,
        totals.absoluteDeviations ++ values.map FloatArith.abs⟩ := by
  induction values generalizing totals with
  | nil => simp
  | cons value values ih => simp [ih, SignedTotals.add]

omit [FloatArith F] [Floats F D] in
theorem foldl_summarizeStep (samples : List (DeviationSample D))
    (state : DeviationStatistics D × SignedTotals D) :
    samples.foldl summarizeStep state =
      ({ state.1 with
          validCount := state.1.validCount +
            samples.countP fun sample => sample.reason = .valid
          inputInvalid := state.1.inputInvalid +
            samples.countP fun sample => sample.reason = .inputInvalid
          noNeighbor := state.1.noNeighbor +
            samples.countP fun sample => sample.reason = .noNeighbor
          normalMissing := state.1.normalMissing +
            samples.countP fun sample => sample.reason = .normalMissing
          normalMismatch := state.1.normalMismatch +
            samples.countP fun sample => sample.reason = .normalMismatch
          referenceBoundary := state.1.referenceBoundary +
            samples.countP fun sample => sample.reason = .referenceBoundary },
        ((samples.filter fun sample => sample.reason = .valid).map
          DeviationSample.signedMm).foldl SignedTotals.add state.2) := by
  induction samples generalizing state with
  | nil => simp
  | cons sample samples ih =>
    rw [List.foldl_cons, ih, summarizeStep.eq_def]
    cases hreason : sample.reason <;> simp [hreason, Nat.add_assoc, Nat.add_comm]

theorem summarizeDeviationLoop_eq (field : DeviationField D) :
    summarizeDeviationLoop F field = summarizeDeviation F field := by
  have hlength : (field.samples.countP fun sample => sample.reason = .valid) =
      (validDeviations field).length := by
    rw [validDeviations, List.length_map, List.countP_eq_length_filter]
  unfold summarizeDeviationLoop
  rw [foldl_summarizeStep, foldl_totals]
  unfold summarizeDeviation
  rw [← validDeviations]
  dsimp only [default, instInhabitedDeviationStatistics]
  simp only [Nat.zero_add, hlength]
  unfold summarizeSigned
  by_cases hempty : validDeviations field = []
  · simp [hempty]
  · have hpos : 0 < (validDeviations field).length := List.length_pos_iff.mpr hempty
    rw [if_pos hpos, if_neg hempty]
    simp [SignedTotals.zero]

theorem regionSummary_eq (samples : List (PointSample D)) :
    regionSummary F samples = summarizeSigned F (samples.map PointSample.signedMm) := by
  unfold regionSummary summarizeSigned
  rw [foldl_totals]
  simp only [List.map_eq_nil_iff, SignedTotals.zero, List.nil_append, List.length_map,
    List.length_insertionSort]

end Loops

section Exactness

/-- The index of the percentile is that of its rank: at least 95% of the values are up to it, and
fewer before it. -/
theorem percentileIndex_exact {n : ℕ} (hn : 0 < n) :
    percentileIndex (Exact ℝ) (D := Exact ℝ) n < n ∧
      95 * n ≤ 100 * (percentileIndex (Exact ℝ) (D := Exact ℝ) n + 1) ∧
      100 * percentileIndex (Exact ℝ) (D := Exact ℝ) n < 95 * n := by
  have hceil : Floats.ceil (Exact ℝ) ((lit (95 / 100) : Exact ℝ) * lit n) =
      ⌈(95 / 100 : ℝ) * n⌉₊ := by
    rw [Exact.lit_eq_cast, Exact.lit_natCast, Exact.fin_mul_fin]
    push_cast
    rfl
  have hpos : (0 : ℝ) < n := Nat.cast_pos.mpr hn
  have hlow : (95 / 100 : ℝ) * n ≤ ⌈(95 / 100 : ℝ) * n⌉₊ := Nat.le_ceil _
  have hhigh : (⌈(95 / 100 : ℝ) * n⌉₊ : ℝ) < 95 / 100 * n + 1 := Nat.ceil_lt_add_one (by positivity)
  have hne : 0 < ⌈(95 / 100 : ℝ) * n⌉₊ := Nat.ceil_pos.mpr (by positivity)
  have hle : ⌈(95 / 100 : ℝ) * n⌉₊ ≤ n := by
    apply Nat.ceil_le.mpr
    linarith
  have hindex : percentileIndex (Exact ℝ) (D := Exact ℝ) n = ⌈(95 / 100 : ℝ) * n⌉₊ - 1 := by
    unfold percentileIndex
    dsimp only
    rw [hceil, if_neg hne.ne', Nat.min_eq_left (by omega)]
  have hcast : ((⌈(95 / 100 : ℝ) * n⌉₊ - 1 : ℕ) : ℝ) = ⌈(95 / 100 : ℝ) * n⌉₊ - 1 := by
    rw [Nat.cast_sub hne, Nat.cast_one]
  rw [hindex]
  refine ⟨by omega, ?_, ?_⟩
  · rw [Nat.sub_add_cancel hne]
    exact_mod_cast (by linarith : (95 : ℝ) * n ≤ 100 * ⌈(95 / 100 : ℝ) * n⌉₊)
  · have hreal : (100 : ℝ) * (⌈(95 / 100 : ℝ) * n⌉₊ - 1 : ℕ) < 95 * n := by
      rw [hcast]
      linarith
    exact_mod_cast hreal

theorem foldl_add_fin (l : List ℝ) (a : ℝ) :
    (l.map Exact.fin).foldl (· + ·) (.fin a) = Exact.fin (a + l.sum) := by
  induction l generalizing a with
  | nil => simp
  | cons x l ih => simp [ih, add_assoc]

theorem foldl_squares_fin (l : List ℝ) (a : ℝ) :
    (l.map Exact.fin).foldl (fun sum value => sum + value * value) (.fin a) =
      Exact.fin (a + (l.map fun x => x * x).sum) := by
  induction l generalizing a with
  | nil => simp
  | cons x l ih => simp [ih, add_assoc]

theorem stdMax_fin (a b : ℝ) : stdMax (Exact.fin a) (.fin b) = .fin (max a b) := by
  unfold stdMax
  split_ifs with h <;> rw [Exact.fin_lt_fin] at h
  · rw [max_eq_right h.le]
  · rw [max_eq_left (not_lt.mp h)]

theorem stdMin_fin (a b : ℝ) : stdMin (Exact.fin a) (.fin b) = .fin (min a b) := by
  unfold stdMin
  split_ifs with h <;> rw [Exact.fin_lt_fin] at h
  · rw [min_eq_right h.le]
  · rw [min_eq_left (not_lt.mp h)]

theorem foldl_stdMax_fin (l : List ℝ) (a : ℝ) :
    (l.map Exact.fin).foldl stdMax (.fin a) = Exact.fin (l.foldl max a) := by
  induction l generalizing a with
  | nil => rfl
  | cons x l ih => rw [List.map_cons, List.foldl_cons, List.foldl_cons, stdMax_fin, ih]

theorem foldl_stdMin_fin (l : List ℝ) (a : ℝ) :
    (l.map Exact.fin).foldl stdMin (.fin a) = Exact.fin (l.foldl min a) := by
  induction l generalizing a with
  | nil => rfl
  | cons x l ih => rw [List.map_cons, List.foldl_cons, List.foldl_cons, stdMin_fin, ih]

/-- The maximum of absolute values, and the rest of a summary. -/
theorem summarizeSigned_exact {l : List ℝ} (hne : l ≠ []) :
    summarizeSigned (Exact ℝ) (l.map Exact.fin) =
      ⟨.fin (l.sum / l.length), .fin (Real.sqrt ((l.map fun x => x * x).sum / l.length)),
        .fin ((l.map fun x => |x|).foldl max 0),
        .fin (((l.map fun x => |x|).insertionSort (· ≤ ·)).getD
          (percentileIndex (Exact ℝ) (D := Exact ℝ) l.length) 0)⟩ := by
  have hlength : (l.length : ℝ) ≠ 0 := Nat.cast_ne_zero.mpr (by simpa using hne)
  have hsquares : 0 ≤ (l.map fun x => x * x).sum / l.length := by
    apply div_nonneg _ (Nat.cast_nonneg _)
    apply List.sum_nonneg
    intro y hy
    obtain ⟨x, -, rfl⟩ := List.mem_map.mp hy
    exact mul_self_nonneg x
  have habs : (l.map Exact.fin).map FloatArith.abs = (l.map fun x => |x|).map Exact.fin := by
    simp [Exact.abs_fin]
  have hmax : (l.map Exact.fin).foldl (fun maximum value => stdMax maximum (FloatArith.abs value)) 0
      = Exact.fin ((l.map fun x => |x|).foldl max 0) := by
    rw [← foldl_stdMax_fin, ← habs, List.foldl_map (f := FloatArith.abs)]
    rfl
  have hsorted : ((l.map Exact.fin).map FloatArith.abs).insertionSort (· ≤ ·) =
      ((l.map fun x => |x|).insertionSort (· ≤ ·)).map Exact.fin := by
    rw [habs]
    exact (List.map_insertionSort (· ≤ ·) (· ≤ ·) Exact.fin _
      fun a _ b _ => Exact.fin_le_fin.symm).symm
  unfold summarizeSigned
  rw [if_neg (by simpa using hne)]
  dsimp only
  rw [hmax, hsorted, List.length_map, Exact.lit_natCast, Exact.zero_eq_fin, foldl_add_fin,
    foldl_squares_fin, zero_add, zero_add, Exact.fin_div_fin hlength, Exact.fin_div_fin hlength,
    List.getD_map]
  congr 1
  exact if_neg (not_lt.mpr hsquares)

theorem exists_map_fin {values : List (Exact ℝ)} (h : ∀ v ∈ values, isFinite v = true) :
    ∃ l : List ℝ, values = l.map Exact.fin := by
  induction values with
  | nil => exact ⟨[], rfl⟩
  | cons v values ih =>
    obtain ⟨x, rfl⟩ := Exact.isFinite_iff.mp (h v (by simp))
    obtain ⟨l, rfl⟩ := ih fun w hw => h w (by simp [hw])
    exact ⟨x :: l, rfl⟩

theorem countP_fin_le (l : List ℝ) (bound : ℝ) :
    ((l.map Exact.fin).countP fun value => value ≤ Exact.fin bound) =
      l.countP fun x => x ≤ bound := by
  rw [List.countP_map]
  apply List.countP_congr
  intro x _
  simp

theorem countP_fin_lt (l : List ℝ) (bound : ℝ) :
    ((l.map Exact.fin).countP fun value => value < Exact.fin bound) =
      l.countP fun x => x < bound := by
  rw [List.countP_map]
  apply List.countP_congr
  intro x _
  simp

/-- The order of a summary, and the rank of its percentile. -/
structure SummarySound (values : List (Exact ℝ)) (summary : SignedSummary (Exact ℝ)) : Prop where
  mean_le : summary.mean * summary.mean ≤ summary.rms * summary.rms
  rms_le : summary.rms * summary.rms ≤ summary.maxAbs * summary.maxAbs
  member : summary.p95Abs ∈ values.map FloatArith.abs
  most : 95 * values.length ≤
    100 * (values.map FloatArith.abs).countP fun value => value ≤ summary.p95Abs
  few : (100 * (values.map FloatArith.abs).countP fun value => value < summary.p95Abs) <
    95 * values.length

theorem summarizeSigned_sound {values : List (Exact ℝ)} (hne : values ≠ [])
    (hfinite : ∀ v ∈ values, isFinite v = true) :
    SummarySound values (summarizeSigned (Exact ℝ) values) := by
  obtain ⟨l, rfl⟩ := exists_map_fin hfinite
  have hl : l ≠ [] := by simpa using hne
  have hnonneg : 0 ≤ (l.map fun x => x * x).sum / l.length :=
    (mul_self_nonneg _).trans (mean_mul_self_le hl)
  have habs : (l.map Exact.fin).map FloatArith.abs = (l.map fun x => |x|).map Exact.fin := by
    simp [Exact.abs_fin]
  have hmax : ∀ x ∈ l, |x| ≤ (l.map fun x => |x|).foldl max 0 := by
    intro x hx
    have hall := (foldl_select (r := fun a b : ℝ => b ≤ a) le_refl
      (fun hab hbc => hbc.trans hab) max_choice
      (fun a b => ⟨le_max_left a b, le_max_right a b⟩) (l.map fun x => |x|) 0).2
    exact hall |x| (List.mem_cons_of_mem _ (List.mem_map_of_mem hx))
  -- The percentile is an entry of the sorted list.
  obtain ⟨hindex, hmost, hfew⟩ := percentileIndex_exact (List.length_pos_iff.mpr hl)
  have hsorted : ((l.map fun x => |x|).insertionSort (· ≤ ·)).Pairwise (· ≤ ·) :=
    List.pairwise_insertionSort (· ≤ ·) _
  have hperm : ((l.map fun x => |x|).insertionSort (· ≤ ·)).Perm (l.map fun x => |x|) :=
    List.perm_insertionSort (· ≤ ·) _
  have hlength : ((l.map fun x => |x|).insertionSort (· ≤ ·)).length = l.length := by
    rw [List.length_insertionSort, List.length_map]
  set sorted := (l.map fun x => |x|).insertionSort (· ≤ ·)
  set k := percentileIndex (Exact ℝ) (D := Exact ℝ) l.length
  have hk : k < sorted.length := hlength ▸ hindex
  have hentry : sorted.getD k 0 = sorted[k] := List.getD_eq_getElem _ _ hk
  have hup := lt_countP_le_getElem hsorted k hk
  have hbelow := countP_lt_getElem_le hsorted k hk
  rw [hperm.countP_eq] at hup hbelow
  rw [summarizeSigned_exact hl, hentry]
  constructor
  case mean_le =>
    dsimp only
    rw [Exact.fin_mul_fin, Exact.fin_mul_fin, Exact.fin_le_fin, Real.mul_self_sqrt hnonneg]
    exact mean_mul_self_le hl
  case rms_le =>
    dsimp only
    rw [Exact.fin_mul_fin, Exact.fin_mul_fin, Exact.fin_le_fin, Real.mul_self_sqrt hnonneg]
    exact mean_squares_le hl hmax
  case member =>
    rw [habs]
    exact List.mem_map_of_mem (hperm.mem_iff.mp (List.getElem_mem hk))
  case most =>
    rw [habs, countP_fin_le, List.length_map]
    omega
  case few =>
    rw [habs, countP_fin_lt, List.length_map]
    omega

/-- A centre between two bounds that are attained. -/
structure AxisBounds (coordinates : List (Exact ℝ)) (low centre high : Exact ℝ) : Prop where
  low_le : low ≤ centre
  le_high : centre ≤ high
  low_mem : low ∈ coordinates
  high_mem : high ∈ coordinates

/-- The extremes and the mean of finite coordinates. -/
theorem axisBounds {coordinates : List (Exact ℝ)} (hne : coordinates ≠ [])
    (hfinite : ∀ v ∈ coordinates, isFinite v = true) :
    AxisBounds coordinates (coordinates.foldl stdMin infinity)
      (coordinates.foldl (· + ·) 0 * (1 / lit coordinates.length))
      (coordinates.foldl stdMax (-infinity)) := by
  obtain ⟨l, rfl⟩ := exists_map_fin hfinite
  cases l with
  | nil => exact absurd rfl hne
  | cons x l =>
    have hl : x :: l ≠ [] := by simp
    have hlength : ((x :: l).length : ℝ) ≠ 0 := Nat.cast_ne_zero.mpr (by simp)
    obtain ⟨hlow, hlow'⟩ := foldl_select (r := fun a b : ℝ => a ≤ b) le_refl le_trans min_choice
      (fun a b => ⟨min_le_left a b, min_le_right a b⟩) l x
    obtain ⟨hhigh, hhigh'⟩ := foldl_select (r := fun a b : ℝ => b ≤ a) le_refl
      (fun hab hbc => hbc.trans hab) max_choice
      (fun a b => ⟨le_max_left a b, le_max_right a b⟩) l x
    have hmin : ((x :: l).map Exact.fin).foldl stdMin infinity = Exact.fin (l.foldl min x) := by
      rw [List.map_cons, List.foldl_cons, ← foldl_stdMin_fin]
      rfl
    have hmax : ((x :: l).map Exact.fin).foldl stdMax (-infinity) = Exact.fin (l.foldl max x) := by
      rw [List.map_cons, List.foldl_cons, ← foldl_stdMax_fin]
      rfl
    have hmean : ((x :: l).map Exact.fin).foldl (· + ·) 0 *
        (1 / lit ((x :: l).map Exact.fin).length) =
          Exact.fin ((x :: l).sum / (x :: l).length) := by
      rw [List.length_map, Exact.lit_natCast, Exact.zero_eq_fin, foldl_add_fin, zero_add,
        Exact.one_eq_fin, Exact.fin_div_fin hlength, Exact.fin_mul_fin, mul_one_div]
    obtain ⟨hle, hle'⟩ := mean_bounds hl fun y hy => ⟨hlow' y hy, hhigh' y hy⟩
    rw [hmin, hmax, hmean]
    exact ⟨Exact.fin_le_fin.mpr hle, Exact.fin_le_fin.mpr hle', List.mem_map_of_mem hlow,
      List.mem_map_of_mem hhigh⟩

section Positions

variable {D : Type}

theorem foldl_positions (step : D → D → D) (positions : List (Vec3 D)) (m : Vec3 D) :
    positions.foldl (fun m p => (⟨step m.x p.x, step m.y p.y, step m.z p.z⟩ : Vec3 D)) m =
      ⟨(positions.map Vec3.x).foldl step m.x, (positions.map Vec3.y).foldl step m.y,
        (positions.map Vec3.z).foldl step m.z⟩ := by
  induction positions generalizing m with
  | nil => rfl
  | cons p positions ih => rw [List.foldl_cons, ih]; rfl

theorem foldPositions_eq (step : D → D → D) (start : D) (positions : List (Vec3 D)) :
    foldPositions step start positions =
      ⟨(positions.map Vec3.x).foldl step start, (positions.map Vec3.y).foldl step start,
        (positions.map Vec3.z).foldl step start⟩ := foldl_positions step positions _

end Positions

/-- The box of a region contains its centroid, and its members reach every side. -/
structure BoxSound (positions : List (Vec3 (Exact ℝ))) (region : DefectRegion (Exact ℝ)) :
    Prop where
  x : AxisBounds (positions.map Vec3.x) region.aabbMin.x region.centroid.x region.aabbMax.x
  y : AxisBounds (positions.map Vec3.y) region.aabbMin.y region.centroid.y region.aabbMax.y
  z : AxisBounds (positions.map Vec3.z) region.aabbMin.z region.centroid.z region.aabbMax.z

theorem buildRegion_box {cluster : DefectCluster} {samples : List (PointSample (Exact ℝ))}
    (hne : samples ≠ []) (hfinite : ∀ sample ∈ samples, sample.position.finite = true)
    (hasDeviation : Bool) (id : ℕ) :
    BoxSound (samples.map PointSample.position)
      (buildRegion (Exact ℝ) cluster samples hasDeviation id) := by
  have hpositions : samples.map PointSample.position ≠ [] := by simpa using hne
  have haxis : ∀ axis : Vec3 (Exact ℝ) → Exact ℝ,
      (∀ p : Vec3 (Exact ℝ), p.finite = true → isFinite (axis p) = true) →
      ((samples.map PointSample.position).map axis ≠ []) ∧
        (∀ v ∈ (samples.map PointSample.position).map axis, isFinite v = true) ∧
        ((samples.map PointSample.position).map axis).length = samples.length := by
    intro axis haxis
    refine ⟨by simpa using hne, ?_, by simp⟩
    intro v hv
    obtain ⟨p, hp, rfl⟩ := List.mem_map.mp hv
    obtain ⟨sample, hsample, rfl⟩ := List.mem_map.mp hp
    exact haxis _ (hfinite sample hsample)
  unfold buildRegion
  dsimp only
  rw [if_neg hne, foldPositions_eq, foldPositions_eq, foldPositions_eq]
  constructor
  · obtain ⟨hn, hf, hl⟩ := haxis Vec3.x fun p hp => (Vec3.finite_iff_axes.mp hp).1
    simpa only [hl] using axisBounds hn hf
  · obtain ⟨hn, hf, hl⟩ := haxis Vec3.y fun p hp => (Vec3.finite_iff_axes.mp hp).2.1
    simpa only [hl] using axisBounds hn hf
  · obtain ⟨hn, hf, hl⟩ := haxis Vec3.z fun p hp => (Vec3.finite_iff_axes.mp hp).2.2
    simpa only [hl] using axisBounds hn hf

/-- The indices of the valid samples, in ascending order. -/
def validIndices {D : Type} [FloatArith D] (field : DeviationField D) : List ℕ :=
  (List.range field.samples.length).filter fun i =>
    (field.samples.getD i default).reason = .valid

theorem signedDeviations_validIndices {D : Type} [FloatArith D] {field : DeviationField D}
    {cluster : DefectCluster} (h : cluster.pointIndices = validIndices field) :
    signedDeviations field cluster = validDeviations field := by
  have hsamples : field.samples =
      (List.range field.samples.length).map fun i => field.samples.getD i default :=
    ((map_range_getD field.samples default id).trans (List.map_id _)).symm
  unfold signedDeviations validDeviations
  rw [h, validIndices]
  conv_rhs => rw [hsamples, List.filter_map, List.map_map]
  rfl

theorem validCount_eq {F D : Type} [FloatArith F] [FloatArith D] [Floats F D]
    (field : DeviationField D) :
    (summarizeDeviation F field).validCount = (validDeviations field).length := by
  rw [validDeviations, List.length_map, ← List.countP_eq_length_filter]
  rfl

theorem collectSamples_positions {F D : Type} [FloatArith F] [FloatArith D] [Floats F D]
    {cluster : DefectCluster} {surface : SurfaceView F} {field : Option (DeviationField D)}
    {samples : List (PointSample D)} (h : collectSamples cluster surface field = .ok samples) :
    samples.map PointSample.position =
      cluster.pointIndices.map fun i => (surface.points.getD i default).widen := by
  unfold collectSamples at h
  split_ifs at h
  refine map_of_mapM h fun i sample hsample => ?_
  unfold collectSample at hsample
  split_ifs at hsample
  rw [← Except.ok.inj hsample]

/-- What a region says about the valid samples of a field. -/
structure RegionAgrees (field : DeviationField (Exact ℝ)) (surface : SurfaceView (Exact ℝ))
    (region : DefectRegion (Exact ℝ)) : Prop where
  mean : region.meanMm = (summarizeDeviationLoop (Exact ℝ) field).meanSignedMm
  rms : region.rmsMm = (summarizeDeviationLoop (Exact ℝ) field).rmsMm
  maxAbs : region.maxAbsMm = (summarizeDeviationLoop (Exact ℝ) field).maxAbsMm
  p95Abs : region.p95AbsMm = (summarizeDeviationLoop (Exact ℝ) field).p95AbsMm
  box : 0 < (summarizeDeviationLoop (Exact ℝ) field).validCount →
    BoxSound ((validIndices field).map fun i => surface.points.getD i default) region

theorem regionAgrees {field : DeviationField (Exact ℝ)} {surface : SurfaceView (Exact ℝ)}
    {cluster : DefectCluster} {id : ℕ} {region : DefectRegion (Exact ℝ)}
    (hcluster : cluster.pointIndices = validIndices field)
    (hfinite : ∀ i ∈ cluster.pointIndices, (surface.points.getD i default).finite = true)
    (h : measureDeviationRegion cluster surface field id = .ok region) :
    RegionAgrees field surface region := by
  unfold measureDeviationRegion at h
  obtain ⟨samples, hsamples, rfl⟩ := map_ok_iff.mp h
  have hsigned : samples.map PointSample.signedMm = validDeviations field := by
    rw [collectSamples_signed hsamples, signedDeviations_validIndices hcluster]
  have hpositions := collectSamples_positions hsamples
  have hsummary : summarizeSigned (Exact ℝ) (samples.map PointSample.signedMm) =
      summarizeSigned (Exact ℝ) (validDeviations field) := by rw [hsigned]
  constructor
  case mean => rw [summarizeDeviationLoop_eq]; exact congrArg SignedSummary.mean hsummary
  case rms => rw [summarizeDeviationLoop_eq]; exact congrArg SignedSummary.rms hsummary
  case maxAbs => rw [summarizeDeviationLoop_eq]; exact congrArg SignedSummary.maxAbs hsummary
  case p95Abs => rw [summarizeDeviationLoop_eq]; exact congrArg SignedSummary.p95Abs hsummary
  case box =>
    intro hpos
    rw [summarizeDeviationLoop_eq, validCount_eq, ← hsigned, List.length_map] at hpos
    have hne : samples ≠ [] := List.length_pos_iff.mp hpos
    have hmembers : ∀ sample ∈ samples, sample.position.finite = true := by
      intro sample hsample
      have hmem : sample.position ∈ samples.map PointSample.position :=
        List.mem_map_of_mem hsample
      rw [hpositions] at hmem
      obtain ⟨i, hi, he⟩ := List.mem_map.mp hmem
      rw [← he]
      exact hfinite i hi
    have hbox : BoxSound (samples.map PointSample.position)
        (buildRegion (Exact ℝ) cluster samples true id) := buildRegion_box hne hmembers true id
    rw [hpositions, hcluster] at hbox
    exact hbox

/-- For every field of real deviations: its counters add up, its statistics are ordered, and a
region of its valid samples has the same statistics and contains its centroid. -/
theorem statistics_agree (field : DeviationField (Exact ℝ))
    (hfinite : ∀ sample ∈ field.samples, sample.reason = .valid →
      isFinite sample.signedMm = true) :
    let statistics := summarizeDeviationLoop (Exact ℝ) field
    statistics.total = field.samples.length ∧
      (statistics.validCount = field.samples.countP fun sample => sample.reason = .valid) ∧
      (0 < statistics.validCount →
        percentileIndex (Exact ℝ) (D := Exact ℝ) statistics.validCount < statistics.validCount ∧
          SummarySound (validDeviations field) ⟨statistics.meanSignedMm, statistics.rmsMm,
            statistics.maxAbsMm, statistics.p95AbsMm⟩) ∧
      ∀ (cluster : DefectCluster) (surface : SurfaceView (Exact ℝ)) (id : ℕ)
        (region : DefectRegion (Exact ℝ)), cluster.pointIndices = validIndices field →
          (∀ i ∈ cluster.pointIndices, (surface.points.getD i default).finite = true) →
            measureDeviationRegion cluster surface field id = .ok region →
              RegionAgrees field surface region := by
  dsimp only
  rw [summarizeDeviationLoop_eq]
  refine ⟨summarizeDeviation_total field, rfl, ?_, ?_⟩
  · rw [validCount_eq]
    intro hpos
    refine ⟨(percentileIndex_exact hpos).1, ?_⟩
    apply summarizeSigned_sound (List.length_pos_iff.mp hpos)
    intro v hv
    obtain ⟨sample, hsample, rfl⟩ := List.mem_map.mp hv
    obtain ⟨hmem, hvalid⟩ := List.mem_filter.mp hsample
    exact hfinite sample hmem (by simpa using hvalid)
  · intro cluster surface id region hcluster hpoints h
    exact regionAgrees hcluster hpoints h

/-- A point on the first axis. -/
def exactRealPoint (x : ℝ) : Vec3 (Exact ℝ) := ⟨.fin x, .fin 0, .fin 0⟩

/-- Two valid deviations and a sample without a neighbour. -/
theorem statistics_agree_triple : ∃ region,
    measureDeviationRegion ⟨.bump, [0, 2]⟩
      ⟨[exactRealPoint 0, exactRealPoint 1, exactRealPoint 2], [], [], none, .millimeter,
        exactFrame, 3⟩
      ⟨[⟨.fin 1, .fin 1, 0, .valid⟩, ⟨0, 0, 0, .noNeighbor⟩, ⟨.fin 3, .fin (-3), 0, .valid⟩], 2⟩ 1 =
        .ok region ∧
      RegionAgrees
        ⟨[⟨.fin 1, .fin 1, 0, .valid⟩, ⟨0, 0, 0, .noNeighbor⟩, ⟨.fin 3, .fin (-3), 0, .valid⟩], 2⟩
        ⟨[exactRealPoint 0, exactRealPoint 1, exactRealPoint 2], [], [], none, .millimeter,
          exactFrame, 3⟩ region := by
  refine ⟨_, rfl, ?_⟩
  apply (statistics_agree _ _).2.2.2 ⟨.bump, [0, 2]⟩ _ 1 _ rfl _ rfl
  · intro sample hsample hvalid
    simp at hsample
    rcases hsample with rfl | rfl | rfl
    · rfl
    · cases hvalid
    · rfl
  · intro i hi
    simp at hi
    rcases hi with rfl | rfl <;> rfl

end Exactness
end PointcloudAd
