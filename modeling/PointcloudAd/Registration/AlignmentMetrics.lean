import PointcloudAd.Backends.Exhaustive
import PointcloudAd.Cuda.Equations
import PointcloudAd.Library.RealArithmetic
import PointcloudAd.Library.TreeReduction
import PointcloudAd.Registration.History
import PointcloudAd.Registration.Prepared
import PointcloudAd.Registration.RigidMotion
import PointcloudAd.Registration.SolverRuns

/-!
# The metrics of an alignment

An alignment reports how its run ended, and what the final pose measures: at most one pair for
every valid point of the scan, so that exact metrics are in their ranges.
-/

namespace PointcloudAd.Registration

open Library Finset

noncomputable section

variable {F : Type} [FloatArith F] [Floats F ℝ]

/-- The two sums of a cell that the metrics are taken of. -/
def sums (cell : Equations ℝ) : ℕ × ℝ := (cell.count, cell.residual)

theorem measurePoint_sums (parameters : RegistrationParameters ℝ)
    (reference scan : ValidatedCloud ℝ)
    (pose : Matrix4 ℝ) (transformed : List (Vec3 ℝ)) (neighbors : List ℤ) (i : ℕ) :
    ∃ value : ℕ × ℝ, value.1 ≤ 1 ∧ 0 ≤ value.2 ∧ ∀ cell,
      sums (measurePoint parameters reference scan pose transformed neighbors i cell) =
        sums cell + value := by
  by_cases hneighbor : neighbors.getD i 0 < 0
  · refine ⟨0, zero_le_one, le_rfl, fun cell => ?_⟩
    rw [add_zero, measurePoint]
    exact congrArg sums (if_pos hneighbor)
  by_cases haccepted : accepted reference scan i (neighbors.getD i 0).toNat pose
  · let d := sub (transformed.getD i default)
      (reference.points.getD (neighbors.getD i 0).toNat default)
    let residual := if parameters.method = .pointToPlane then
      dot (reference.normals.getD (neighbors.getD i 0).toNat default) d else norm d
    refine ⟨(1, residual * residual), le_rfl, mul_self_nonneg residual, fun cell => ?_⟩
    have hstep : measurePoint parameters reference scan pose transformed neighbors i cell =
        { cell with residual := cell.residual + residual * residual, count := cell.count + 1 } :=
      (if_neg hneighbor).trans (if_neg (not_not.mpr haccepted))
    rw [hstep]
    rfl
  · refine ⟨0, zero_le_one, le_rfl, fun cell => ?_⟩
    rw [add_zero, measurePoint]
    exact congrArg sums ((if_neg hneighbor).trans (if_pos haccepted))

/-- The metrics of a pass on the processor count at most one pair for every point, and add up
squares. -/
theorem cpuEvaluator_metrics {host : Host F ℝ} {scheduler : Scheduler} {P : Prepared F ℝ}
    {scan : ValidatedCloud ℝ} {covariances : List (Mat3 ℝ)} {pose : Matrix4 ℝ}
    {buffers : Buffers F ℝ} {sum : ℝ} {pairs : ℕ}
    (h : ((cpuEvaluator host scheduler P scan covariances).metrics pose).outcome buffers =
      .ok (sum, pairs)) : pairs ≤ scan.points.length ∧ 0 ≤ sum := by
  obtain ⟨⟨transformed, neighbors⟩, s', hsearch, h⟩ := Action.outcome_bind_inv h
  obtain ⟨blocks, s'', hblocks, h⟩ := Action.outcome_bind_inv h
  have hlength : transformed.length = scan.points.length := by
    rw [searchPass_transformed hsearch, List.length_map]
  choose value hone hnonneg hsums using measurePoint_sums P.parameters P.referenceCloud scan pose
    transformed neighbors
  rw [reduceBlocks_eq] at hblocks
  cases hblocks
  have hfold := Except.ok.inj h
  have htotal : (pairs, sum) = ∑ i ∈ range transformed.length, value i := by
    have hmeasure : ∀ blocks : List (Equations ℝ),
        (fun total : ℝ × ℕ => (total.2, total.1)) (blocks.foldl
          (fun total block => (total.1 + block.residual, total.2 + block.count)) (0, 0)) =
        (0, 0) + (blocks.map sums).sum := by
      intro blocks
      exact foldl_measure (fun total : ℝ × ℕ => (total.2, total.1)) (fun _ _ _ => rfl) (0, 0)
    have htotal := hmeasure ((List.range (CpuExecutor.blocks transformed.length)).map fun block =>
      ((List.range transformed.length).filter fun i => i / CpuExecutor.blockSize = block).foldl
        (fun cell i => measurePoint P.parameters P.referenceCloud scan pose transformed neighbors i
          cell) 0)
    rw [hfold, sum_measured_blocks sums rfl (fun i hi => CpuExecutor.block_lt hi)
      fun cell i _ => hsums i cell] at htotal
    exact htotal.trans (zero_add _)
  have hpairs := congrArg Prod.fst htotal
  have hsum := congrArg Prod.snd htotal
  rw [Prod.fst_sum] at hpairs
  rw [Prod.snd_sum] at hsum
  constructor
  · calc pairs = ∑ i ∈ range transformed.length, (value i).1 := hpairs
      _ ≤ ∑ i ∈ range transformed.length, 1 := sum_le_sum fun i _ => hone i
      _ = scan.points.length := by rw [sum_const, card_range, smul_eq_mul, mul_one, hlength]
  · rw [show sum = ∑ i ∈ range transformed.length, (value i).2 from hsum]
    exact sum_nonneg fun i _ => hnonneg i

/-- A device counts at most one pair for every point of the scan, and adds up squares for the
metrics. -/
def CountsPairs (device : Device ℝ) : Prop :=
  ∀ pass equations, device.evaluate pass = .ok equations →
    equations.count ≤ pass.scan.points.length ∧
      (pass.finalMetrics = true → 0 ≤ equations.residual)

theorem pointValues_pairs (arguments : Cuda.EquationArguments F ℝ) (i : ℕ) :
    ∃ pairs : ℕ, pairs ≤ 1 ∧ Cuda.pointValues arguments i 43 = pairs ∧
      (arguments.finalMetrics = true → 0 ≤ Cuda.pointValues arguments i 42) := by
  have hzero : ∃ pairs : ℕ, pairs ≤ 1 ∧ (0 : ℝ) = pairs ∧
      (arguments.finalMetrics = true → (0 : ℝ) ≤ 0) := ⟨0, zero_le_one, by simp, fun _ => le_rfl⟩
  have hpair : ∀ information p n e, ∃ pairs : ℕ, pairs ≤ 1 ∧
      Cuda.pairValues arguments information p n e 43 = pairs ∧
      (arguments.finalMetrics = true → 0 ≤ Cuda.pairValues arguments information p n e 42) := by
    intro information p n e
    refine ⟨1, le_rfl, ?_, fun hfinal => ?_⟩
    · unfold Cuda.pairValues
      split_ifs <;> exact Nat.cast_one.symm
    · unfold Cuda.pairValues
      rw [if_pos hfinal]
      exact mul_self_nonneg _
  unfold Cuda.pointValues
  dsimp only
  split_ifs
  all_goals first
    | exact hzero
    | exact hpair _ _ _ _

/-- The kernels count pairs as a device has to. -/
theorem equationPacket_pairs (arguments : Cuda.EquationArguments F ℝ) :
    ∃ pairs : ℕ, pairs ≤ arguments.count ∧ Cuda.equationPacket arguments 43 = pairs ∧
      (arguments.finalMetrics = true → 0 ≤ Cuda.equationPacket arguments 42) := by
  have hcover : arguments.count ≤ Cuda.gridBlocks arguments.count * 2 ^ (6 + 1) := by
    unfold Cuda.gridBlocks Cuda.kBlockSize
    omega
  have hidle : ∀ i, arguments.count ≤ i → Cuda.pointValues arguments i = 0 := by
    intro i hi
    unfold Cuda.pointValues
    rw [if_pos (not_lt.mpr hi)]
    rfl
  have hsum : Cuda.equationPacket arguments =
      ∑ i ∈ range arguments.count, Cuda.pointValues arguments i :=
    (foldl_entries _).trans (sum_treeReduce 6 hcover hidle)
  have hpacket : ∀ entry, Cuda.equationPacket arguments entry =
      ∑ i ∈ range arguments.count, Cuda.pointValues arguments i entry := by
    intro entry
    rw [hsum, Finset.sum_apply]
  choose pairs hone hcount hsquare using pointValues_pairs arguments
  refine ⟨∑ i ∈ range arguments.count, pairs i, ?_, ?_, fun hfinal => ?_⟩
  · calc ∑ i ∈ range arguments.count, pairs i ≤ ∑ i ∈ range arguments.count, 1 :=
        sum_le_sum fun i _ => hone i
      _ = arguments.count := by rw [sum_const, card_range, smul_eq_mul, mul_one]
  · rw [hpacket, Nat.cast_sum]
    exact sum_congr rfl fun i _ => hcount i
  · rw [hpacket]
    exact sum_nonneg fun i _ => hsquare i hfinal

omit [FloatArith F] [Floats F ℝ] in
theorem deviceEvaluator_metrics {device : Device ℝ} (hdevice : CountsPairs device)
    {P : Prepared F ℝ} {scan : ValidatedCloud ℝ} {pose : Matrix4 ℝ} {buffers : Buffers F ℝ}
    {sum : ℝ} {pairs : ℕ}
    (h : ((deviceEvaluator device P scan).metrics pose).outcome buffers = .ok (sum, pairs)) :
    pairs ≤ scan.points.length ∧ 0 ≤ sum := by
  obtain ⟨equations, s', hevaluate, h⟩ := Action.outcome_bind_inv h
  obtain ⟨hcount, hresidual⟩ := hdevice _ equations hevaluate
  cases h
  exact ⟨hcount, hresidual rfl⟩

/-- The arc cosine lies between zero and the constant of the program for a half turn. -/
def BoundedArc (F : Type) [FloatArith F] [Floats F ℝ] : Prop :=
  ∀ cosine : ℝ, -1 ≤ cosine → cosine ≤ 1 →
    0 ≤ Floats.acos F cosine ∧ Floats.acos F cosine ≤ kPi

theorem stdClamp_bounds (v : ℝ) : -1 ≤ stdClamp v (-1) 1 ∧ stdClamp v (-1) 1 ≤ 1 := by
  unfold stdClamp
  split_ifs with hlow hhigh
  · exact ⟨le_rfl, by norm_num⟩
  · exact ⟨by norm_num, le_rfl⟩
  · exact ⟨not_lt.mp hlow, not_lt.mp hhigh⟩

theorem inRange_iff {low high value : ℝ} : inRange low high value ↔ low ≤ value ∧ value ≤ high := by
  simp [inRange]

theorem nonnegativeFinite_iff {value : ℝ} : nonnegativeFinite value ↔ 0 ≤ value := by
  simp [nonnegativeFinite]

theorem rotation_range (harc : BoundedArc F) (value : ℝ) :
    inRange 0 (lit 180) (Floats.acos F (stdClamp value (-1) 1) * lit 180 / kPi) := by
  have hpi : (0 : ℝ) < kPi := by
    rw [kPi, real_lit]
    norm_num
  obtain ⟨hlow, hhigh⟩ := stdClamp_bounds value
  obtain ⟨hnonneg, hle⟩ := harc _ hlow hhigh
  rw [inRange_iff, real_lit, Rat.cast_ofNat]
  constructor
  · positivity
  · rw [div_le_iff₀ hpi, mul_comm]
    exact mul_le_mul_of_nonneg_left hle (by norm_num)

/-- Metrics of exact sums are accepted: a ratio in its range, and a root of a mean square. -/
theorem measured_accepted (harc : BoundedArc F) (initial : RigidTransform ℝ)
    (state : SolverState ℝ) (validated : RigidTransform ℝ) {scanPoints pairs : ℕ} {sum : ℝ}
    (hpairs : pairs ≤ scanPoints) (hpoints : 0 < scanPoints) (hsum : 0 ≤ sum) :
    ∃ metrics, measured F initial state validated scanPoints sum pairs = .ok metrics ∧
      (0 ≤ metrics.fitness ∧ metrics.fitness ≤ 1) ∧ metrics.fitness * scanPoints = pairs ∧
      (0 < pairs → metrics.inlierRmseMm ^ 2 * pairs = sum) := by
  have hcast : ∀ n : ℕ, (lit n : ℝ) = n := fun n => by rw [real_lit, Rat.cast_natCast]
  have hpositive : (0 : ℝ) < scanPoints := Nat.cast_pos.mpr hpoints
  have hfitness : inRange (0 : ℝ) 1 (lit pairs / lit scanPoints) := by
    rw [inRange_iff, hcast, hcast]
    exact ⟨by positivity, div_le_one_of_le₀ (Nat.cast_le.mpr hpairs) hpositive.le⟩
  have hrmse : nonnegativeFinite (if pairs = 0 then 0 else sqrt (sum / lit pairs) : ℝ) := by
    rw [nonnegativeFinite_iff]
    split_ifs
    · exact le_rfl
    · exact Real.sqrt_nonneg _
  have htranslation :
      nonnegativeFinite (poseDeltas F initial.matrix (orthonormalize state.current)).1 :=
    nonnegativeFinite_iff.mpr (Real.sqrt_nonneg _)
  have hrotation : inRange 0 (lit 180)
      (poseDeltas F initial.matrix (orthonormalize state.current)).2 := rotation_range harc _
  have hroot : 0 < pairs →
      (if pairs = 0 then 0 else sqrt (sum / lit pairs) : ℝ) ^ 2 * pairs = sum := by
    intro hpairs
    have hcount : (0 : ℝ) < pairs := Nat.cast_pos.mpr hpairs
    rw [if_neg hpairs.ne', hcast, real_sqrt, Real.sq_sqrt (div_nonneg hsum hcount.le),
      div_mul_cancel₀ _ hcount.ne']
  have hratio : (lit pairs / lit scanPoints : ℝ) * scanPoints = pairs := by
    rw [hcast, hcast, div_mul_cancel₀ _ hpositive.ne']
  unfold measured
  dsimp only
  rw [RegistrationMetrics.create, dif_pos hfitness, dif_pos hrmse, dif_pos htranslation,
    dif_pos hrotation]
  exact ⟨_, rfl, inRange_iff.mp hfitness, hratio, hroot⟩

/-- In exact arithmetic the metrics of an alignment whose passes all end are accepted, unless its
final pose is not. -/
theorem alignImpl_accepted (harc : BoundedArc F) {host : Host F ℝ} {scheduler : Scheduler}
    {P : Prepared F ℝ} {scan : SurfaceView F} {initial : RigidTransform ℝ} {buffers : Buffers F ℝ}
    {result : Result (RegistrationMetrics ℝ)}
    (hdevice : ∀ device, P.device = some device → CountsPairs device)
    (h : (P.alignImpl host scheduler scan initial).outcome buffers = .ok result) :
    (∃ (pose : Matrix4 ℝ) (e : Error), RigidTransform.create (orthonormalize pose)
        initial.sourceFrame initial.targetFrame
        (lit (1 / 10 ^ 6)) = .error e ∧ result = .error e) ∨
      ∃ metrics, result = .ok metrics ∧ (0 ≤ metrics.fitness ∧ metrics.fitness ≤ 1) ∧
        metrics.validPairs ≤ (extractValid ℝ scan).points.length ∧
        metrics.fitness * (extractValid ℝ scan).points.length = metrics.validPairs := by
  unfold Prepared.alignImpl at h
  dsimp only at h
  split_ifs at h with hempty
  · cases h
  have hpoints : 0 < (extractValid ℝ scan).points.length := List.length_pos_of_ne_nil hempty
  obtain ⟨covariances, s', -, h⟩ := Action.outcome_bind_inv h
  obtain ⟨final, -, hresult⟩ := alignWith_result h
  rcases hresult with ⟨e, hcreate, rfl⟩ | ⟨validated, s'', sum, pairs, -, hmetrics, rfl⟩
  · exact .inl ⟨final.current, e, hcreate, rfl⟩
  have hbounds : pairs ≤ (extractValid ℝ scan).points.length ∧ 0 ≤ sum := by
    cases hprocessor : P.device with
    | none =>
      rw [hprocessor] at hmetrics
      exact cpuEvaluator_metrics hmetrics
    | some device =>
      rw [hprocessor] at hmetrics
      exact deviceEvaluator_metrics (hdevice device hprocessor) hmetrics
  obtain ⟨metrics, hok, hrange, hratio, -⟩ :=
    measured_accepted harc initial final validated hbounds.1 hpoints hbounds.2
  have hpairs := (RegistrationMetrics.eq_of_create hok).2.2.2.1
  rw [← hpairs] at hratio hbounds
  exact .inr ⟨metrics, hok, hrange, hbounds.1, hratio⟩

/-- The equations that an alignment emits are those of its passes. -/
theorem alignImpl_classified {F D : Type} [FloatArith F] [FloatArith D] [Floats F D]
    {host : Host F D} {scheduler : Scheduler} {P : Prepared F D} {scan : SurfaceView F}
    {initial : RigidTransform D} {buffers : Buffers F D} {result : Result (RegistrationMetrics D)}
    (h : (P.alignImpl host scheduler scan initial).outcome buffers = .ok result) :
    ∃ state, Classified F host.eigen P.parameters initial.matrix
        ((P.alignImpl host scheduler scan initial).log buffers) state ∧
      ∀ metrics, result = .ok metrics → metrics.convergence = convergence state ∧
        metrics.iterations = state.completedIterations ∧
        metrics.finalTransform.matrix = orthonormalize state.current := by
  unfold Prepared.alignImpl at h ⊢
  dsimp only at h ⊢
  split_ifs at h ⊢ with hempty
  · cases h
  obtain ⟨covariances, s', -, h, hlog⟩ := Action.bind_inv h
  have hcovariances : (scanCovariances host scheduler P (extractValid D scan)).Silent := by
    unfold scanCovariances
    split_ifs
    · exact fun _ => rfl
    · exact Action.Silent.pure _
  obtain ⟨passes, state, -, hpasses, hclassified, hreported⟩ := alignWith_classified h
  refine ⟨state, ?_, fun metrics hmetrics => ?_⟩
  · rw [hlog, hcovariances, hpasses]
    · exact hclassified
    · cases P.device with
      | none => exact cpuEvaluator_silent host scheduler P _ covariances
      | some device => exact deviceEvaluator_silent device P _
  · have hreport := hreported metrics hmetrics
    exact ⟨hreport.convergence, hreport.iterations, hreport.transform⟩

/-- For every arithmetic and every sequence of equations a run stops in time and is reported as it
ended, with what its final pose measures; it emits the equations of its passes, and passes that
return give a result; exact metrics are accepted. -/
theorem alignment_classified :
    (∀ {F D σ : Type} [FloatArith F] [FloatArith D] [Floats F D] (E : Evaluator σ D)
        (eigen : Eigen D) (parameters : RegistrationParameters D) (start : RigidTransform D)
        (scanPoints : ℕ) (s : σ),
      (∀ result : Result (RegistrationMetrics D),
        (alignWith F E eigen parameters start scanPoints).outcome s = .ok result →
          ∃ passes state, Evaluated F E eigen start.matrix passes ∧
            (E.Silent → (alignWith F E eigen parameters start scanPoints).log s = passes) ∧
            Classified F eigen parameters start.matrix passes state ∧
            ∀ metrics, result = .ok metrics → Reported F E start scanPoints state metrics) ∧
      (E.Returns → ∃ result,
        (alignWith F E eigen parameters start scanPoints).outcome s = .ok result)) ∧
    (∀ {F D : Type} [FloatArith F] [FloatArith D] [Floats F D] (host : Host F D)
        (scheduler : Scheduler) (P : Prepared F D) (scan : SurfaceView F)
        (initial : RigidTransform D) (buffers : Buffers F D)
        (result : Result (RegistrationMetrics D)),
      (P.alignImpl host scheduler scan initial).outcome buffers = .ok result →
        ∃ state, Classified F host.eigen P.parameters initial.matrix
            ((P.alignImpl host scheduler scan initial).log buffers) state ∧
          ∀ metrics, result = .ok metrics → metrics.convergence = convergence state ∧
            metrics.iterations = state.completedIterations ∧
            metrics.finalTransform.matrix = orthonormalize state.current) ∧
    ∀ {F : Type} [FloatArith F] [Floats F ℝ] (host : Host F ℝ) (scheduler : Scheduler)
        (P : Prepared F ℝ) (scan : SurfaceView F) (initial : RigidTransform ℝ)
        (buffers : Buffers F ℝ) (result : Result (RegistrationMetrics ℝ)),
      BoundedArc F → (∀ device, P.device = some device → CountsPairs device) →
      (P.alignImpl host scheduler scan initial).outcome buffers = .ok result →
        (∃ (pose : Matrix4 ℝ) (e : Error), RigidTransform.create (orthonormalize pose)
            initial.sourceFrame initial.targetFrame (lit (1 / 10 ^ 6)) = .error e ∧
            result = .error e) ∨
          ∃ metrics, result = .ok metrics ∧ (0 ≤ metrics.fitness ∧ metrics.fitness ≤ 1) ∧
            metrics.validPairs ≤ (extractValid ℝ scan).points.length ∧
            metrics.fitness * (extractValid ℝ scan).points.length = metrics.validPairs := by
  refine ⟨?_, ?_, ?_⟩
  · intro F D σ _ _ _ E eigen parameters start scanPoints s
    exact ⟨fun result h => alignWith_classified h,
      fun hreturns => alignWith_returns hreturns start scanPoints s⟩
  · intro F D _ _ _ host scheduler P scan initial buffers result h
    exact alignImpl_classified h
  · intro F _ _ host scheduler P scan initial buffers result harc hdevice h
    exact alignImpl_accepted harc hdevice h

/-- Clouds of rational numbers, registered over the real numbers. -/
instance rationalClouds : Floats (Exact ℚ) ℝ where
  widen a := match a with
    | .fin v => v
    | _ => 0
  narrow _ := 0
  cos := Real.cos
  sin := Real.sin
  acos cosine := min (Real.arccos cosine) kPi
  atan2 y x := Complex.arg ⟨x, y⟩
  ceil a := ⌈a⌉₊

theorem boundedArc_rationalClouds : BoundedArc (Exact ℚ) := by
  intro cosine _ _
  refine ⟨le_min (Real.arccos_nonneg cosine) ?_, min_le_right _ _⟩
  rw [kPi, real_lit]
  norm_num

/-- The parts of a cube, for the processor. -/
def cubePrepared : Prepared (Exact ℚ) (Exact ℚ) where
  kernel := .scalar
  executor := ⟨1, Nat.one_pos⟩
  parameters := exactParameters
  referenceCloud := extractValid (Exact ℚ) (exactCorners 8)
  points := (exactCorners 8).points
  device := none
  referenceCovariances := []

def emptyBuffers (F D : Type) : Buffers F D := ⟨[], [], [], [], [], CpuExecutor.initial⟩

theorem cubePrepared_run :
    let run := cubePrepared.alignImpl solvingHost .sequential (exactCorners 7) exactShift
    (∃ metrics, run.outcome (emptyBuffers _ _) = .ok (.ok metrics) ∧ metrics.iterations = 2 ∧
      metrics.validPairs = 7 ∧ metrics.convergence = .converged) ∧
    (run.log (emptyBuffers _ _)).length = 2 := by
  intro run
  have hrun : ((run.outcome (emptyBuffers _ _)).toOption.any fun result =>
      result.toOption.any fun metrics => metrics.iterations = 2 ∧ metrics.validPairs = 7 ∧
        metrics.convergence = .converged) = true := by decide +kernel
  refine ⟨?_, by decide +kernel⟩
  cases hout : run.outcome (emptyBuffers _ _) with
  | error e =>
    rw [hout] at hrun
    cases hrun
  | ok result =>
    rw [hout] at hrun
    obtain ⟨metrics, rfl, hmetrics⟩ := exists_ok_and hrun
    exact ⟨metrics, rfl, hmetrics⟩

/-- A device that pairs every point of a scan at the same step from its partner. -/
def pairingDevice : Device ℝ where
  available := true
  prepare _ _ _ _ := .ok ()
  evaluate pass := .ok
    { matrix := fun row col => if row = col then 1 else 0
      gradient := ![0, 0, 0, -pass.pose 3, -pass.pose 7, -pass.pose 11]
      residual := 0
      count := pass.scan.points.length }

theorem countsPairs_pairingDevice : CountsPairs pairingDevice := by
  intro pass equations h
  cases h
  exact ⟨le_rfl, fun _ => le_rfl⟩

/-- A host whose systems have the unit matrix. -/
def pairingHost : Host (Exact ℚ) ℝ where
  pcl := ⟨fun _ _ _ => .ok [], fun _ _ _ => .ok [], fun _ _ _ => .ok [], fun _ _ => none⟩
  eigen := ⟨fun _ => 6, fun _ gradient => gradient, fun matrix => matrix, fun _ => ⟨true, 1, 1⟩⟩
  avx2Available := false
  device := some pairingDevice
  mapOrder := id
  mapOrder_perm := List.Perm.refl

def pairingPrepared : Prepared (Exact ℚ) ℝ where
  kernel := .scalar
  executor := ⟨1, Nat.one_pos⟩
  parameters := { maxIterations := 3, translationEpsilonMm := lit (1 / 1000) }
  referenceCloud := extractValid ℝ (exactCorners 8)
  points := (exactCorners 8).points
  device := some pairingDevice
  referenceCovariances := []

theorem poseTolerance_pos : (0 : ℝ) < lit (1 / 10 ^ 6) := by
  rw [real_lit]
  norm_num

theorem pairingPrepared_pairs {initial : RigidTransform ℝ} (hrigid : Rigid initial.matrix)
    {result : Result (RegistrationMetrics ℝ)}
    (hrun : (alignWith (Exact ℚ)
      (deviceEvaluator pairingDevice pairingPrepared (extractValid ℝ (exactCorners 7)))
      pairingHost.eigen pairingPrepared.parameters initial 7).outcome
        (emptyBuffers (Exact ℚ) ℝ) = .ok result) :
    ∃ metrics, result = .ok metrics ∧ metrics.validPairs = 7 := by
  obtain ⟨final, hsolve, hfinal⟩ := alignWith_result hrun
  obtain ⟨passes, -, hended, -⟩ := solve_ended _ .start .nil hsolve
  have hposed : final.current = posed ℝ initial.matrix _ := hended.current
  rcases hfinal with ⟨e, hcreate, -⟩ | ⟨validated, s', sum, pairs, -, hmetrics, rfl⟩
  · obtain ⟨transform, htransform⟩ := create_posed hrigid _ poseTolerance_pos initial.sourceFrame
      initial.targetFrame
    rw [hposed, htransform] at hcreate
    cases hcreate
  · obtain ⟨rfl, rfl⟩ := Prod.mk.inj (Except.ok.inj hmetrics : ((0 : ℝ), 7) = (sum, pairs))
    obtain ⟨metrics, hmeasured, -⟩ := measured_accepted boundedArc_rationalClouds initial final
      validated (le_refl 7) (by decide) le_rfl
    exact ⟨metrics, hmeasured, (RegistrationMetrics.eq_of_create hmeasured).2.2.2.1⟩

/-- Seven corners, aligned in two passes over rational numbers; over the real numbers the fitness of
seven pairs is accepted. -/
theorem alignment_classified_cube :
    (∃ metrics state,
      (cubePrepared.alignImpl solvingHost .sequential (exactCorners 7) exactShift).outcome
        (emptyBuffers _ _) = .ok (.ok metrics) ∧
      metrics.iterations = 2 ∧ metrics.convergence = convergence state ∧
      ((cubePrepared.alignImpl solvingHost .sequential (exactCorners 7) exactShift).log
        (emptyBuffers _ _)).length = 2 ∧
      Classified (Exact ℚ) .eliminating exactParameters exactShift.matrix
        ((cubePrepared.alignImpl solvingHost .sequential (exactCorners 7) exactShift).log
          (emptyBuffers _ _)) state) ∧
    ∃ (initial : RigidTransform ℝ) (metrics : RegistrationMetrics ℝ),
      (pairingPrepared.alignImpl pairingHost .sequential (exactCorners 7) initial).outcome
        (emptyBuffers _ _) = .ok (.ok metrics) ∧
      metrics.validPairs = 7 ∧ 0 ≤ metrics.fitness ∧ metrics.fitness ≤ 1 := by
  obtain ⟨hclassified, hemitted, haccepted⟩ := alignment_classified
  constructor
  · obtain ⟨⟨metrics, hrun, hiterations, -, -⟩, hlength⟩ := cubePrepared_run
    obtain ⟨state, hstate, hreport⟩ := hemitted solvingHost .sequential cubePrepared _ _ _ _ hrun
    exact ⟨metrics, state, hrun, hiterations, (hreport metrics rfl).1, hlength, hstate⟩
  · obtain ⟨initial, -, hmatrix⟩ := create_rigid rigid_identityPose poseTolerance_pos exactFrame
      exactFrame
    have hrigid : Rigid initial.matrix := hmatrix ▸ rigid_identityPose
    let evaluator := deviceEvaluator pairingDevice pairingPrepared (extractValid ℝ (exactCorners 7))
    have hreturns : evaluator.Returns := ⟨fun pose s => ⟨_, rfl⟩, fun pose s => ⟨_, rfl⟩⟩
    obtain ⟨-, hresult⟩ := hclassified (F := Exact ℚ) evaluator pairingHost.eigen
      pairingPrepared.parameters initial 7 (emptyBuffers _ _)
    obtain ⟨result, hrun⟩ := hresult hreturns
    obtain ⟨metrics, rfl, hpairs⟩ := pairingPrepared_pairs hrigid hrun
    rcases haccepted pairingHost .sequential pairingPrepared (exactCorners 7) initial _ _
      boundedArc_rationalClouds (by rintro device ⟨⟩; exact countsPairs_pairingDevice) hrun with
      ⟨_, _, _, herror⟩ | ⟨_, hok, hrange, -⟩
    · cases herror
    · cases hok
      exact ⟨initial, metrics, hrun, hpairs, hrange⟩

end
end PointcloudAd.Registration
