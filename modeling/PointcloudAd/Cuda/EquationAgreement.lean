import PointcloudAd.Backends.Exhaustive
import PointcloudAd.Cuda.Equations
import PointcloudAd.Library.ExactAlgebra
import Mathlib.Data.List.GetD
import Mathlib.Tactic.Ring

/-!
# The kernels compute the processor's equations

In exact arithmetic an evaluation on the device gives what an alignment accumulates on the
processor, for the same points, correspondences and covariances: lane by lane the same values, and
the same sum over another tree.
-/

namespace PointcloudAd.Cuda

open Library Registration

section

variable {F D : Type} [FloatArith F] [FloatArith D] [Floats F D]

/-- A device array of some values: none is allocated for no values. -/
def devicePointer {α : Type} (values : List α) : Option (List α) :=
  if values = [] then none else some values

def flatten3 (m : Mat3 D) : Covariance D := fun entry =>
  m ⟨entry / 3, by omega⟩ ⟨entry % 3, by omega⟩

variable (F) in
/-- What a prepared reference launches the kernel with at a pose, for given correspondences. -/
def residentArguments (parameters : RegistrationParameters D) (reference scan : ValidatedCloud D)
    (referenceCovariances scanCovariances : List (Mat3 D)) (pose : Matrix4 D)
    (neighbors : List ℤ) (finalMetrics : Bool) : EquationArguments F D where
  reference := searchPoints reference
  refNormals := devicePointer reference.normals
  transformed := scan.points.map (transformResident pose)
  queries := scan.points.map fun p => (transformResident pose p).narrow
  scanNormals := devicePointer scan.normals
  indices := neighbors
  count := scan.points.length
  pose := pose
  huber := parameters.huberDeltaMm
  plane := parameters.method = .pointToPlane
  finalMetrics := finalMetrics
  referenceCovariances := if parameters.method = .gicp then
    some (referenceCovariances.map flatten3) else none
  scanCovariances := if parameters.method = .gicp then some (scanCovariances.map flatten3) else none

/-- The packet of some equations. -/
def packetOf (equations : Equations D) : Fin 45 → D :=
  laneValues equations.matrix equations.gradient equations.residual (lit equations.count) 0

end

section

variable {K : Type} [LinearOrder K] [Field K] [FieldFunctions K]

theorem lit_zero : (lit ((0 : ℕ) : ℚ) : Exact K) = 0 := by
  rw [Exact.lit_natCast, Nat.cast_zero]
  rfl

theorem lit_add (m n : ℕ) :
    (lit ((m + n : ℕ) : ℚ) : Exact K) = lit (m : ℚ) + lit (n : ℚ) := by
  rw [Exact.lit_natCast, Exact.lit_natCast, Exact.lit_natCast, Nat.cast_add]
  rfl

theorem packetOf_zero : packetOf (0 : Equations (Exact K)) = 0 := by
  funext j
  have hcount : (lit ((0 : Equations (Exact K)).count : ℚ) : Exact K) = 0 := lit_zero
  unfold packetOf laneValues
  rw [hcount]
  split_ifs <;> rfl

theorem packetOf_add (a b : Equations (Exact K)) :
    packetOf (addEquations a b) = packetOf a + packetOf b := by
  funext j
  rw [Pi.add_apply]
  unfold packetOf laneValues
  split_ifs
  · rfl
  · rfl
  · rfl
  · exact lit_add a.count b.count
  · exact (add_zero (0 : Exact K)).symm

theorem lit_one : (lit ((1 : ℕ) : ℚ) : Exact K) = 1 := by
  rw [Exact.lit_natCast, Nat.cast_one]
  rfl

theorem packetOf_measured (cell : Equations (Exact K)) (residual : Exact K) :
    packetOf { cell with residual := cell.residual + residual, count := cell.count + 1 } =
      packetOf cell + laneValues (fun _ _ => 0) (fun _ => 0) residual 1 0 := by
  funext j
  rw [Pi.add_apply]
  unfold packetOf laneValues
  split_ifs
  · exact (add_zero _).symm
  · exact (add_zero _).symm
  · rfl
  · dsimp only
    rw [lit_add, lit_one]
  · exact (add_zero _).symm

/-- Eigen's inverse, on the invertible matrices of the field. -/
def ExactInverse (eigen : Eigen (Exact K)) : Prop :=
  ∀ m : Matrix (Fin 3) (Fin 3) K, m.det ≠ 0 →
    eigen.inverse (fun row col => .fin (m row col)) = fun row col => .fin (m⁻¹ row col)

/-- The combined covariance of a pair, as the processor computes it. -/
def combinedCovariance (pose : Matrix4 (Exact K)) (reference scan : Mat3 (Exact K)) :
    Mat3 (Exact K) :=
  add3 reference (mul3 (mul3 (rotationBlock pose) scan) (transpose3 (rotationBlock pose)))

def Invertible3 (m : Mat3 (Exact K)) : Prop :=
  ∃ values : Matrix (Fin 3) (Fin 3) K, values.det ≠ 0 ∧ m = fun row col => .fin (values row col)

omit [LinearOrder K] [Field K] [FieldFunctions K] in
theorem rotationBlock_eq {D : Type} (pose : Matrix4 D) (row col : Fin 3) :
    rotationBlock pose row col = pose (poseEntry row col) := by
  fin_cases row <;> fin_cases col <;> rfl

omit [LinearOrder K] [Field K] [FieldFunctions K] in
theorem flatten3_entry {D : Type} (m : Mat3 D) (row col : Fin 3) :
    flatten3 m (entry3 row col) = m row col := by
  fin_cases row <;> fin_cases col <;> rfl

theorem rotated_eq (pose : Matrix4 (Exact K)) (scan : Mat3 (Exact K)) (row col : Fin 3) :
    rotated pose (flatten3 scan) row col = mul3 (rotationBlock pose) scan row col := by
  have hloop : List.finRange 3 = [0, 1, 2] := rfl
  simp only [rotated, hloop, List.foldl_cons, List.foldl_nil, flatten3_entry, mul3,
    rotationBlock_eq, zero_add]

theorem combined_eq (pose : Matrix4 (Exact K)) (reference scan : Mat3 (Exact K)) :
    combined pose (flatten3 reference) (flatten3 scan) =
      combinedCovariance pose reference scan := by
  funext row col
  have hloop : List.finRange 3 = [0, 1, 2] := rfl
  have hproduct : ∀ m : Mat3 (Exact K), mul3 m (transpose3 (rotationBlock pose)) row col =
      (m row 0 * rotationBlock pose col 0 + m row 1 * rotationBlock pose col 1) +
        m row 2 * rotationBlock pose col 2 := fun _ => rfl
  simp only [combined, hloop, List.foldl_cons, List.foldl_nil, flatten3_entry, rotated_eq,
    combinedCovariance, add3, hproduct, rotationBlock_eq, add_assoc]

theorem information_eq (m : Matrix (Fin 3) (Fin 3) K) (h : m.det ≠ 0) (entry : Fin 9) :
    information (fun row col => Exact.fin (m row col)) entry =
      .fin (m⁻¹ ⟨entry / 3, by omega⟩ ⟨entry % 3, by omega⟩) := by
  have hdet : m 0 0 * (m 1 1 * m 2 2 - m 1 2 * m 2 1) - m 0 1 * (m 1 0 * m 2 2 - m 1 2 * m 2 0) +
      m 0 2 * (m 1 0 * m 2 1 - m 1 1 * m 2 0) = m.det := by
    rw [Matrix.det_fin_three]
    ring
  simp only [information, Exact.fin_mul_fin, Exact.fin_sub_fin, Exact.fin_add_fin, hdet]
  rw [Matrix.inv_def, Ring.inverse_eq_inv', Matrix.adjugate_fin_three]
  fin_cases entry <;> simp [Exact.fin_div_fin h]
  all_goals ring

omit [LinearOrder K] [Field K] [FieldFunctions K] in
theorem entry6_eq (row : Fin 6) (h0 : (row : ℕ) < 18) (h1 : 6 + (row : ℕ) < 18)
    (h2 : 12 + (row : ℕ) < 18) : (⟨row, h0⟩ : Fin 18) = entry6 0 row ∧
      (⟨6 + row, h1⟩ : Fin 18) = entry6 1 row ∧ (⟨12 + row, h2⟩ : Fin 18) = entry6 2 row := by
  refine ⟨?_, ?_, ?_⟩ <;> apply Fin.ext <;> simp [entry6] <;> omega

omit [LinearOrder K] [Field K] [FieldFunctions K] in
theorem entry3_eq (col : Fin 3) (h0 : (col : ℕ) < 9) (h1 : 3 + (col : ℕ) < 9)
    (h2 : 6 + (col : ℕ) < 9) : (⟨col, h0⟩ : Fin 9) = entry3 0 col ∧
      (⟨3 + col, h1⟩ : Fin 9) = entry3 1 col ∧ (⟨6 + col, h2⟩ : Fin 9) = entry3 2 col := by
  refine ⟨?_, ?_, ?_⟩ <;> apply Fin.ext <;> simp [entry3]

theorem weightedLane_eq (input : ObjectiveInput (Exact K)) (weight : Exact K)
    (jac : Fin 18 → Exact K) :
    weightedLane (if input.generalized then some input.information else none) weight jac =
      weightedRow input weight jac := by
  funext row col
  obtain ⟨h0, h1, h2⟩ := entry6_eq row (by omega) (by omega) (by omega)
  obtain ⟨i0, i1, i2⟩ := entry3_eq col (by omega) (by omega) (by omega)
  have hcol : (⟨6 * col + row, by omega⟩ : Fin 18) = entry6 col row :=
    Fin.ext (Nat.add_comm (6 * col) row)
  unfold weightedRow
  rw [h0, h1, h2, hcol, i0, i1, i2]
  cases input.generalized <;> rfl

theorem matrixRow_eq (weighted : Fin 6 → Fin 3 → Exact K) (jac : Fin 18 → Exact K) :
    (fun row col => (weighted row 0 * jac (entry6 0 col) + weighted row 1 * jac (entry6 1 col)) +
      weighted row 2 * jac (entry6 2 col)) =
      fun row => scalarOperations.matrixRow (weighted row) jac := by
  funext row col
  obtain ⟨h0, h1, h2⟩ := entry6_eq col (by omega) (by omega) (by omega)
  rw [← h0, ← h1, ← h2]
  rfl

theorem pairValues_objective (arguments : EquationArguments (Exact K) (Exact K))
    (input : ObjectiveInput (Exact K)) (hplane : arguments.plane = input.plane)
    (hfinal : arguments.finalMetrics = false) (hhuber : arguments.huber = input.huberDelta) :
    pairValues arguments (if input.generalized then some input.information else none) input.point
        input.normal (sub input.point input.reference) =
      packetOf ⟨(objective scalarOperations input).matrix,
        (objective scalarOperations input).gradient,
        (objective scalarOperations input).absoluteResidual, 1⟩ := by
  have hcount : (lit ((1 : ℕ) : ℚ) : Exact K) = 1 := lit_one
  unfold pairValues packetOf objective
  rw [hfinal, hhuber, hcount]
  cases h : input.plane with
  | true =>
    rw [hplane.trans h]
    rfl
  | false =>
    rw [hplane.trans h]
    simp only [Bool.false_eq_true, if_false, weightedLane_eq]
    rw [matrixRow_eq]
    rfl

theorem pairValues_metrics (arguments : EquationArguments (Exact K) (Exact K))
    (information : Option (Fin 9 → Exact K)) (point reference normal : Vec3 (Exact K))
    (hfinal : arguments.finalMetrics = true) :
    pairValues arguments information point normal (sub point reference) =
      let residual := if arguments.plane then dot normal (sub point reference)
        else norm (sub point reference)
      laneValues (fun _ _ => 0) (fun _ => 0) (residual * residual) 1 0 := by
  have hdot : dot normal (sub point reference) = (sub point reference).x * normal.x +
      (sub point reference).y * normal.y + (sub point reference).z * normal.z := by
    rw [dot, Exact.mul_comm' normal.x, Exact.mul_comm' normal.y, Exact.mul_comm' normal.z]
  unfold pairValues
  rw [hfinal, hdot]
  rfl

variable {parameters : RegistrationParameters (Exact K)} {reference scan : ValidatedCloud (Exact K)}
  {referenceCovariances scanCovariances : List (Mat3 (Exact K))} {pose : Matrix4 (Exact K)}
  {neighbors : List ℤ}

omit [LinearOrder K] [Field K] [FieldFunctions K] in
theorem isNone_devicePointer {α : Type} (values : List α) :
    (devicePointer values).isNone = true ↔ values = [] := by
  unfold devicePointer
  split_ifs with h <;> simp [h]

omit [LinearOrder K] [Field K] [FieldFunctions K] in
theorem elim_devicePointer {α β : Type} (values : List α) (b : β) (f : List α → β)
    (h : values ≠ []) : (devicePointer values).elim b f = f values := by
  rw [devicePointer, if_neg h]
  rfl

theorem accepted_iff (reference scan : ValidatedCloud (Exact K)) (pose : Matrix4 (Exact K))
    (i j : ℕ) : accepted reference scan i j pose ↔
    (devicePointer scan.normals).isNone ∨ (devicePointer reference.normals).isNone ∨
      let n := (devicePointer reference.normals).elim default fun normals => normals.getD j default
      let sn := (devicePointer scan.normals).elim default fun normals =>
        direction pose (normals.getD i default)
      0 ≤ sn.x * n.x + sn.y * n.y + sn.z * n.z := by
  rw [isNone_devicePointer, isNone_devicePointer]
  unfold accepted
  by_cases hscan : scan.normals = []
  · simp [hscan]
  by_cases hreference : reference.normals = []
  · simp [hreference]
  rw [elim_devicePointer _ _ _ hscan, elim_devicePointer _ _ _ hreference]
  simp [hscan, hreference]
  rfl

/-- The information matrix of an invertible pair: the library's inverse is the cofactor inverse. -/
theorem pairInformation_eq {eigen : Eigen (Exact K)} (heigen : ExactInverse eigen) (i j : ℕ)
    (finalMetrics : Bool) (h : parameters.method = .gicp → Invertible3 (combinedCovariance pose
      (referenceCovariances.getD j default) (scanCovariances.getD i default))) :
    pairInformation (residentArguments (Exact K) parameters reference scan referenceCovariances
        scanCovariances pose neighbors finalMetrics) i j =
      if parameters.method = .gicp then
        some (informationMatrix eigen pose (referenceCovariances.getD j default)
          (scanCovariances.getD i default))
      else none := by
  unfold pairInformation residentArguments
  dsimp only
  by_cases hmethod : parameters.method = .gicp
  · obtain ⟨values, hdet, hvalues⟩ := h hmethod
    rw [if_pos hmethod, if_pos hmethod, if_pos hmethod]
    dsimp only [Option.map_some, Option.getD_some]
    have hdefault : (default : Covariance (Exact K)) = flatten3 default := rfl
    rw [hdefault, List.getD_map, List.getD_map, combined_eq, hvalues]
    congr 1
    funext entry
    rw [information_eq values hdet]
    have hinverse := heigen values hdet
    rw [← hvalues] at hinverse
    unfold combinedCovariance at hinverse
    simp only [informationMatrix, hinverse]
    fin_cases entry <;> rfl
  · rw [if_neg hmethod, if_neg hmethod, if_neg hmethod]
    rfl

theorem elim_normals (normals : List (Vec3 (Exact K))) (j : ℕ) :
    ((devicePointer normals).elim default fun normals => normals.getD j default) =
      normals.getD j default := by
  by_cases h : normals = []
  · rw [h]
    rfl
  · exact elim_devicePointer _ _ _ h

theorem getD_map_of_lt {α β : Type} [Inhabited α] [Inhabited β] (f : α → β) {l : List α} {i : ℕ}
    (h : i < l.length) : (l.map f).getD i default = f (l.getD i default) := by
  simp [List.getD, h]

theorem searchPoints_eq (cloud : ValidatedCloud (Exact K)) :
    (searchPoints cloud : List (Vec3 (Exact K))) = cloud.points :=
  List.map_id' cloud.points

/-- The lane of a point whose transform is finite: nothing without an accepted pair. -/
theorem pointValues_resident {i : ℕ} (hi : i < scan.points.length)
    (hfinite : (transformPoint pose (scan.points.getD i default)).finite = true)
    (finalMetrics : Bool) :
    pointValues (residentArguments (Exact K) parameters reference scan referenceCovariances
        scanCovariances pose neighbors finalMetrics) i =
      let j := (neighbors.getD i 0).toNat
      let point := transformPoint pose (scan.points.getD i default)
      let arguments := residentArguments (Exact K) parameters reference scan referenceCovariances
        scanCovariances pose neighbors finalMetrics
      if neighbors.getD i 0 < 0 then 0
      else if ¬ accepted reference scan i j pose then 0
      else pairValues arguments (pairInformation arguments i j) point
        (reference.normals.getD j default) (sub point (reference.points.getD j default)) := by
  set arguments := residentArguments (Exact K) parameters reference scan referenceCovariances
    scanCovariances pose neighbors finalMetrics with harguments
  have hpoint : arguments.transformed.getD i default =
      transformPoint pose (scan.points.getD i default) := getD_map_of_lt _ hi
  have hquery : arguments.queries.getD i default =
      transformPoint pose (scan.points.getD i default) := getD_map_of_lt _ hi
  have hreference : arguments.reference = reference.points := searchPoints_eq reference
  have hcount : ¬ ¬ i < arguments.count := not_not.mpr hi
  have hindices : arguments.indices = neighbors := rfl
  have hscan : arguments.scanNormals = devicePointer scan.normals := rfl
  have hnormals : arguments.refNormals = devicePointer reference.normals := rfl
  have hpose : arguments.pose = pose := rfl
  have haccepted := accepted_iff reference scan pose i (neighbors.getD i 0).toNat
  dsimp only at haccepted
  unfold pointValues
  dsimp only
  rw [if_neg hcount, hquery, if_neg (not_not.mpr hfinite), hpoint, hreference, hindices, hscan,
    hnormals, hpose]
  rw [elim_normals] at haccepted ⊢
  by_cases hneighbor : neighbors.getD i 0 < 0
  · rw [if_pos hneighbor, if_pos (not_le.mpr hneighbor)]
    rfl
  rw [if_neg hneighbor, if_neg (not_not.mpr (not_lt.mp hneighbor))]
  by_cases h : accepted reference scan i (neighbors.getD i 0).toNat pose
  · rw [if_neg (not_not.mpr h), if_neg (not_not.mpr (haccepted.mp h))]
    rfl
  · rw [if_pos h, if_pos (mt haccepted.mpr h)]
    rfl

theorem pairValues_normal (arguments : EquationArguments (Exact K) (Exact K))
    (information : Option (Fin 9 → Exact K)) (point normal normal' error : Vec3 (Exact K))
    (h : arguments.plane = false) :
    pairValues arguments information point normal error =
      pairValues arguments information point normal' error := by
  unfold pairValues
  simp only [h, Bool.false_eq_true, if_false]

/-- One step of the processor's loop adds the values of the point's lane. -/
theorem accumulatePoint_packet {eigen : Eigen (Exact K)} (heigen : ExactInverse eigen)
    (kernel : CpuKernel) {i : ℕ} (hi : i < scan.points.length)
    (hfinite : (transformPoint pose (scan.points.getD i default)).finite = true)
    (hinvertible : parameters.method = .gicp → ¬ neighbors.getD i 0 < 0 →
      accepted reference scan i (neighbors.getD i 0).toNat pose → Invertible3 (combinedCovariance
        pose (referenceCovariances.getD (neighbors.getD i 0).toNat default)
        (scanCovariances.getD i default))) (cell : Equations (Exact K)) :
    packetOf (accumulatePoint eigen (objectiveKernel kernel) parameters reference scan
        referenceCovariances scanCovariances pose (scan.points.map (transformPoint pose)) neighbors
        i cell) =
      packetOf cell + pointValues (residentArguments (Exact K) parameters reference scan
        referenceCovariances scanCovariances pose neighbors false) i := by
  rw [pointValues_resident hi hfinite, objectiveKernel_eq]
  unfold accumulatePoint
  dsimp only
  by_cases hneighbor : neighbors.getD i 0 < 0
  · rw [if_pos hneighbor, if_pos hneighbor, add_zero]
  rw [if_neg hneighbor, if_neg hneighbor]
  by_cases haccepted : accepted reference scan i (neighbors.getD i 0).toNat pose
  · rw [if_neg (not_not.mpr haccepted), if_neg (not_not.mpr haccepted), packetOf_add,
      pairInformation_eq heigen i _ false fun hmethod => hinvertible hmethod hneighbor haccepted,
      getD_map_of_lt _ hi]
    set arguments := residentArguments (Exact K) parameters reference scan referenceCovariances
      scanCovariances pose neighbors false with harguments
    set j := (neighbors.getD i 0).toNat with hj
    set point := transformPoint pose (scan.points.getD i default) with hpoint
    let plane : Bool := parameters.method = .pointToPlane
    let input : ObjectiveInput (Exact K) :=
      { point := point
        reference := reference.points.getD j default
        normal := if plane then reference.normals.getD j default else default
        information :=
          if (decide (parameters.method = .gicp) : Bool) then
            informationMatrix eigen pose (referenceCovariances.getD j default)
              (scanCovariances.getD i default)
          else ![1, 0, 0, 0, 1, 0, 0, 0, 1]
        huberDelta := parameters.huberDeltaMm
        plane := plane
        generalized := parameters.method = .gicp }
    have hpair := pairValues_objective arguments input rfl rfl rfl
    have hinformation : (if input.generalized then some input.information else none) =
        if parameters.method = .gicp then
          some (informationMatrix eigen pose (referenceCovariances.getD j default)
            (scanCovariances.getD i default))
        else none := by
      by_cases hmethod : parameters.method = .gicp <;> simp [input, hmethod]
    have hnormal : pairValues arguments (if input.generalized then some input.information else none)
        point input.normal (sub point input.reference) =
        pairValues arguments (if input.generalized then some input.information else none) point
          (reference.normals.getD j default) (sub point input.reference) := by
      by_cases hplane : parameters.method = .pointToPlane
      · have hnormal : input.normal = reference.normals.getD j default := by
          simp [input, plane, hplane]
        rw [hnormal]
      · exact pairValues_normal _ _ _ _ _ _ (by simpa [harguments, residentArguments] using hplane)
    rw [hnormal, hinformation] at hpair
    rw [hpair]
  · rw [if_pos haccepted, if_pos haccepted, add_zero]

theorem measurePoint_packet {i : ℕ} (hi : i < scan.points.length)
    (hfinite : (transformPoint pose (scan.points.getD i default)).finite = true)
    (cell : Equations (Exact K)) :
    packetOf (measurePoint parameters reference scan pose (scan.points.map (transformPoint pose))
        neighbors i cell) =
      packetOf cell + pointValues (residentArguments (Exact K) parameters reference scan
        referenceCovariances scanCovariances pose neighbors true) i := by
  rw [pointValues_resident hi hfinite]
  unfold measurePoint
  dsimp only
  by_cases hneighbor : neighbors.getD i 0 < 0
  · rw [if_pos hneighbor, if_pos hneighbor, add_zero]
  rw [if_neg hneighbor, if_neg hneighbor]
  by_cases haccepted : accepted reference scan i (neighbors.getD i 0).toNat pose
  · rw [if_neg (not_not.mpr haccepted), if_neg (not_not.mpr haccepted),
      pairValues_metrics _ _ _ _ _ rfl, getD_map_of_lt _ hi, packetOf_measured]
    by_cases hplane : parameters.method = .pointToPlane <;> simp [residentArguments, hplane]
  · rw [if_pos haccepted, if_pos haccepted, add_zero]

open Finset

theorem equationPacket_eq (arguments : EquationArguments (Exact K) (Exact K)) :
    equationPacket arguments = ∑ i ∈ range arguments.count, pointValues arguments i := by
  have hcover : arguments.count ≤ gridBlocks arguments.count * kBlockSize := by
    unfold gridBlocks kBlockSize
    omega
  have hidle : ∀ i, arguments.count ≤ i → pointValues arguments i = 0 := by
    intro i hi
    unfold pointValues
    rw [if_pos (not_lt.mpr hi)]
    rfl
  exact (foldl_entries _).trans (sum_treeReduce 6 hcover hidle)

theorem packetOf_blocks {points : ℕ} {step : ℕ → Equations (Exact K) → Equations (Exact K)}
    {values : ℕ → Fin 45 → Exact K}
    (hstep : ∀ i < points, ∀ cell, packetOf (step i cell) = packetOf cell + values i) :
    packetOf (((List.range (CpuExecutor.blocks points)).map fun block =>
        ((List.range points).filter fun i => i / CpuExecutor.blockSize = block).foldl
          (fun cell i => step i cell) 0).foldl addEquations 0) =
      ∑ i ∈ range points, values i := by
  rw [foldl_measure packetOf fun sum block _ => packetOf_add sum block, packetOf_zero, zero_add]
  exact sum_measured_blocks packetOf packetOf_zero (fun i hi => CpuExecutor.block_lt hi)
    fun cell i hi => hstep i hi cell

theorem foldl_metrics : ∀ (blocks : List (Equations (Exact K))) (sum : Equations (Exact K)),
    blocks.foldl (fun sum block => (sum.1 + block.residual, sum.2 + block.count))
        (sum.residual, sum.count) =
      ((blocks.foldl addEquations sum).residual, (blocks.foldl addEquations sum).count)
  | [], _ => rfl
  | block :: blocks, sum => foldl_metrics blocks (addEquations sum block)

theorem foldl_metrics_zero (blocks : List (Equations (Exact K))) :
    blocks.foldl (fun sum block => (sum.1 + block.residual, sum.2 + block.count))
        ((0 : Exact K), (0 : ℕ)) =
      ((blocks.foldl addEquations 0).residual, (blocks.foldl addEquations 0).count) :=
  foldl_metrics blocks 0

theorem transformPoint_finite {point : Vec3 (Exact K)} (hpoint : point.finite = true)
    (hpose : ∀ entry, isFinite (pose entry) = true) :
    (transformPoint pose point).finite = true := by
  unfold Vec3.finite at hpoint ⊢
  simp only [Bool.and_eq_true] at hpoint ⊢
  obtain ⟨⟨hx, hy⟩, hz⟩ := hpoint
  have hrow : ∀ a b c d, isFinite (((pose a * point.x + pose b * point.y) + pose c * point.z) +
      pose d) = true := fun a b c d =>
    Exact.isFinite_add (Exact.isFinite_add (Exact.isFinite_add (Exact.isFinite_mul (hpose a) hx)
      (Exact.isFinite_mul (hpose b) hy)) (Exact.isFinite_mul (hpose c) hz)) (hpose d)
  exact ⟨⟨hrow 0 1 2 3, hrow 4 5 6 7⟩, hrow 8 9 10 11⟩

theorem transformPoint_getD_finite {scan : ValidatedCloud (Exact K)} {pose : Matrix4 (Exact K)}
    (hpoints : ∀ p ∈ scan.points, p.finite = true) (hpose : ∀ entry, isFinite (pose entry) = true)
    {i : ℕ} (hi : i < scan.points.length) :
    (transformPoint pose (scan.points.getD i default)).finite = true := by
  refine transformPoint_finite (hpoints _ ?_) hpose
  rw [List.getD_eq_getElem _ _ hi]
  exact List.getElem_mem hi

theorem reduceBlocks_packet {eigen : Eigen (Exact K)} (heigen : ExactInverse eigen)
    (kernel : CpuKernel) (executor : CpuExecutor) (scheduler : Scheduler)
    (buffers : Buffers (Exact K) (Exact K)) (parameters : RegistrationParameters (Exact K))
    (reference scan : ValidatedCloud (Exact K))
    (referenceCovariances scanCovariances : List (Mat3 (Exact K))) (pose : Matrix4 (Exact K))
    (neighbors : List ℤ) (hpoints : ∀ p ∈ scan.points, p.finite = true)
    (hpose : ∀ entry, isFinite (pose entry) = true)
    (hinvertible : parameters.method = .gicp → ∀ i < scan.points.length,
      ¬ neighbors.getD i 0 < 0 → accepted reference scan i (neighbors.getD i 0).toNat pose →
        Invertible3 (combinedCovariance pose
          (referenceCovariances.getD (neighbors.getD i 0).toNat default)
          (scanCovariances.getD i default))) :
    ∃ blocks, (reduceBlocks executor scheduler scan.points.length (accumulatePoint eigen
        (objectiveKernel kernel) parameters reference scan referenceCovariances scanCovariances pose
        (scan.points.map (transformPoint pose)) neighbors)).outcome buffers = .ok blocks ∧
      equationPacket (residentArguments (Exact K) parameters reference scan referenceCovariances
        scanCovariances pose neighbors false) = packetOf (blocks.foldl addEquations 0) := by
  refine ⟨_, reduceBlocks_eq .., ?_⟩
  rw [packetOf_blocks fun i hi cell => accumulatePoint_packet heigen kernel hi
    (transformPoint_getD_finite hpoints hpose hi) (fun hmethod => hinvertible hmethod i hi) cell]
  exact equationPacket_eq _

theorem reduceBlocks_metrics (executor : CpuExecutor) (scheduler : Scheduler)
    (buffers : Buffers (Exact K) (Exact K)) (parameters : RegistrationParameters (Exact K))
    (reference scan : ValidatedCloud (Exact K))
    (referenceCovariances scanCovariances : List (Mat3 (Exact K))) (pose : Matrix4 (Exact K))
    (neighbors : List ℤ) (hpoints : ∀ p ∈ scan.points, p.finite = true)
    (hpose : ∀ entry, isFinite (pose entry) = true) :
    ∃ blocks, (reduceBlocks executor scheduler scan.points.length (measurePoint parameters
        reference scan pose (scan.points.map (transformPoint pose)) neighbors)).outcome buffers =
        .ok blocks ∧
      let packet := equationPacket (residentArguments (Exact K) parameters reference scan
        referenceCovariances scanCovariances pose neighbors true)
      let metrics : Exact K × ℕ :=
        blocks.foldl (fun sum block => (sum.1 + block.residual, sum.2 + block.count)) (0, 0)
      packet 42 = metrics.1 ∧ packet 43 = lit metrics.2 := by
  refine ⟨_, reduceBlocks_eq .., ?_⟩
  have hpacket := (equationPacket_eq (residentArguments (Exact K) parameters reference scan
    referenceCovariances scanCovariances pose neighbors true)).trans
      (packetOf_blocks fun i hi cell =>
        measurePoint_packet hi (transformPoint_getD_finite hpoints hpose hi) cell).symm
  dsimp only
  rw [foldl_metrics_zero]
  exact ⟨congrFun hpacket 42, congrFun hpacket 43⟩

/-- The device and the processor compute the same equations and the same metrics: for finite points
and poses, any correspondences, and combined covariances that are invertible where they are used. -/
theorem equationPacket_accumulated {eigen : Eigen (Exact K)} (heigen : ExactInverse eigen)
    (kernel : CpuKernel) (executor : CpuExecutor) (scheduler : Scheduler)
    (buffers : Buffers (Exact K) (Exact K)) (parameters : RegistrationParameters (Exact K))
    (reference scan : ValidatedCloud (Exact K))
    (referenceCovariances scanCovariances : List (Mat3 (Exact K))) (pose : Matrix4 (Exact K))
    (neighbors : List ℤ) (hpoints : ∀ p ∈ scan.points, p.finite = true)
    (hpose : ∀ entry, isFinite (pose entry) = true)
    (hinvertible : parameters.method = .gicp → ∀ i < scan.points.length,
      ¬ neighbors.getD i 0 < 0 → accepted reference scan i (neighbors.getD i 0).toNat pose →
        Invertible3 (combinedCovariance pose
          (referenceCovariances.getD (neighbors.getD i 0).toNat default)
          (scanCovariances.getD i default))) :
    let transformed := scan.points.map (transformPoint pose)
    let packet := fun finalMetrics => equationPacket (residentArguments (Exact K) parameters
      reference scan referenceCovariances scanCovariances pose neighbors finalMetrics)
    (∃ blocks, (reduceBlocks executor scheduler transformed.length (accumulatePoint eigen
        (objectiveKernel kernel) parameters reference scan referenceCovariances scanCovariances pose
        transformed neighbors)).outcome buffers = .ok blocks ∧
      packet false = packetOf (blocks.foldl addEquations 0)) ∧
    ∃ blocks, (reduceBlocks executor scheduler transformed.length (measurePoint parameters
        reference scan pose transformed neighbors)).outcome buffers = .ok blocks ∧
      let metrics : Exact K × ℕ :=
        blocks.foldl (fun sum block => (sum.1 + block.residual, sum.2 + block.count)) (0, 0)
      packet true 42 = metrics.1 ∧ packet true 43 = lit metrics.2 := by
  intro transformed packet
  have hlength : transformed.length = scan.points.length := List.length_map _
  rw [hlength]
  exact ⟨reduceBlocks_packet heigen kernel executor scheduler buffers parameters reference scan
      referenceCovariances scanCovariances pose neighbors hpoints hpose hinvertible,
    reduceBlocks_metrics executor scheduler buffers parameters reference scan referenceCovariances
      scanCovariances pose neighbors hpoints hpose⟩

end

/-- The decompositions at rest, with the inverse by cofactors. -/
def cofactorEigen : Eigen (Exact ℚ) :=
  { Eigen.atRest with inverse := fun m row col => information m (entry3 row col) }

theorem cofactorEigen_exact : ExactInverse cofactorEigen := by
  intro m h
  funext row col
  have hentry := information_eq m h (entry3 row col)
  fin_cases row <;> fin_cases col <;> exact hentry

def unitCovariance : Mat3 (Exact ℚ) := fun row col => if row = col then 1 else 0

def laneParameters : RegistrationParameters (Exact ℚ) := { method := .gicp, huberDeltaMm := 1 }

def laneReference : ValidatedCloud (Exact ℚ) :=
  ⟨[exactPoint 1 0 0, exactPoint 0 1 0], [exactPoint 0 0 1, exactPoint 0 0 1]⟩

/-- The points of three blocks of lanes. -/
def laneScan : ValidatedCloud (Exact ℚ) :=
  ⟨(List.range 300).map fun i : ℕ => exactPoint i 0 0, List.replicate 300 (exactPoint 0 0 1)⟩

/-- Every third point has no neighbour. -/
def laneNeighbors : List ℤ := (List.range 300).map fun i : ℕ => (i : ℤ) % 3 - 1

theorem laneCovariances_invertible {i : ℕ} (hi : i < 300)
    (hneighbor : ¬ laneNeighbors.getD i 0 < 0) :
    Invertible3 (combinedCovariance exactIdentity.matrix
      (([unitCovariance, unitCovariance]).getD (laneNeighbors.getD i 0).toNat default)
      ((List.replicate 300 unitCovariance).getD i default)) := by
  have hvalue : laneNeighbors.getD i 0 = (i : ℤ) % 3 - 1 := by
    simp [laneNeighbors, List.getD_eq_getElem?_getD, hi]
  have hreference : ([unitCovariance, unitCovariance]).getD (laneNeighbors.getD i 0).toNat default =
      unitCovariance := by
    have hcase : (laneNeighbors.getD i 0).toNat = 0 ∨ (laneNeighbors.getD i 0).toNat = 1 := by
      rw [hvalue] at hneighbor ⊢
      omega
    rcases hcase with h | h <;> rw [h] <;> rfl
  have hscan : (List.replicate 300 unitCovariance).getD i default = unitCovariance := by
    rw [List.getD_eq_getElem?_getD, List.getElem?_replicate_of_lt hi, Option.getD_some]
  rw [hreference, hscan]
  refine ⟨Matrix.diagonal fun _ => 2, by simp [Matrix.det_diagonal], ?_⟩
  funext row col
  fin_cases row <;> fin_cases col <;> decide +kernel

/-- Three blocks of lanes on the device, and two blocks of two workers on the processor. -/
theorem equationPacket_accumulated_lanes :
    (gridBlocks 300 = 3 ∧ CpuExecutor.blocks 300 = 2) ∧
    (∃ blocks, (reduceBlocks ⟨2, Nat.two_pos⟩ .alternating 300 (accumulatePoint cofactorEigen
        (objectiveKernel .scalar) laneParameters laneReference laneScan
        [unitCovariance, unitCovariance] (List.replicate 300 unitCovariance) exactIdentity.matrix
        (laneScan.points.map (transformPoint exactIdentity.matrix)) laneNeighbors)).outcome
          (⟨[], [], [], [], [], CpuExecutor.initial⟩ : Buffers (Exact ℚ) (Exact ℚ)) = .ok blocks ∧
      equationPacket (residentArguments (Exact ℚ) laneParameters laneReference laneScan
        [unitCovariance, unitCovariance] (List.replicate 300 unitCovariance) exactIdentity.matrix
        laneNeighbors false) = packetOf (blocks.foldl addEquations 0)) ∧
    ∃ blocks, (reduceBlocks ⟨2, Nat.two_pos⟩ .alternating 300 (measurePoint laneParameters
        laneReference laneScan exactIdentity.matrix
        (laneScan.points.map (transformPoint exactIdentity.matrix)) laneNeighbors)).outcome
          (⟨[], [], [], [], [], CpuExecutor.initial⟩ : Buffers (Exact ℚ) (Exact ℚ)) = .ok blocks ∧
      let packet := equationPacket (residentArguments (Exact ℚ) laneParameters laneReference
        laneScan [unitCovariance, unitCovariance] (List.replicate 300 unitCovariance)
        exactIdentity.matrix
        laneNeighbors true)
      let metrics : Exact ℚ × ℕ :=
        blocks.foldl (fun sum block => (sum.1 + block.residual, sum.2 + block.count)) (0, 0)
      packet 42 = metrics.1 ∧ packet 43 = lit metrics.2 := by
  have hlength : laneScan.points.length = 300 :=
    (List.length_map _).trans List.length_range
  have hpoints : ∀ p ∈ laneScan.points, p.finite = true := List.forall_mem_map.mpr fun _ _ => rfl
  have hagree := equationPacket_accumulated cofactorEigen_exact .scalar ⟨2, Nat.two_pos⟩
    .alternating (⟨[], [], [], [], [], CpuExecutor.initial⟩ : Buffers (Exact ℚ) (Exact ℚ))
    laneParameters
    laneReference laneScan [unitCovariance, unitCovariance] (List.replicate 300 unitCovariance)
    exactIdentity.matrix laneNeighbors hpoints (by decide) fun _ i hi hneighbor _ =>
      laneCovariances_invertible (hlength ▸ hi) hneighbor
  dsimp only at hagree
  rw [List.length_map, hlength] at hagree
  exact ⟨⟨by decide, by decide⟩, hagree⟩

section

variable {K : Type} [LinearOrder K] [Field K] [FieldFunctions K]

/-- The pass of an alignment on the processor, after its search, gives the device's packet. -/
theorem cpuEvaluator_packet (host : Host (Exact K) (Exact K)) (heigen : ExactInverse host.eigen)
    (scheduler : Scheduler) (P : Prepared (Exact K) (Exact K)) (scan : ValidatedCloud (Exact K))
    (scanCovariances : List (Mat3 (Exact K))) (pose : Matrix4 (Exact K))
    (buffers : Buffers (Exact K) (Exact K)) (hpoints : ∀ p ∈ scan.points, p.finite = true)
    (hpose : ∀ entry, isFinite (pose entry) = true) {transformed : List (Vec3 (Exact K))}
    {neighbors : List ℤ}
    (hsearch : (searchPass host scheduler P scan pose).outcome buffers =
      .ok (transformed, neighbors))
    (hinvertible : P.parameters.method = .gicp → ∀ i < scan.points.length,
      ¬ neighbors.getD i 0 < 0 → accepted P.referenceCloud scan i (neighbors.getD i 0).toNat pose →
        Invertible3 (combinedCovariance pose
          (P.referenceCovariances.getD (neighbors.getD i 0).toNat default)
          (scanCovariances.getD i default))) :
    ∃ equations,
      ((cpuEvaluator host scheduler P scan scanCovariances).equations pose).outcome buffers =
        .ok equations ∧
      equationPacket (residentArguments (Exact K) P.parameters P.referenceCloud scan
        P.referenceCovariances scanCovariances pose neighbors false) = packetOf equations := by
  have htransformed := searchPass_transformed hsearch
  have hreduced := fun left => reduceBlocks_packet heigen
    (if P.parameters.cpuKernel = .automatic ∧ P.parameters.method = .pointToPlane then .scalar
    else P.kernel) P.executor scheduler left P.parameters P.referenceCloud scan
    P.referenceCovariances scanCovariances pose neighbors hpoints hpose hinvertible
  unfold cpuEvaluator
  dsimp only
  obtain ⟨left, hleft⟩ := Action.outcome_bind_ok (f := fun found => do
    let blocks ← reduceBlocks P.executor scheduler found.1.length
      (accumulatePoint host.eigen P.objectiveKernel P.parameters P.referenceCloud scan
        P.referenceCovariances scanCovariances pose found.1 found.2)
    return blocks.foldl addEquations 0) hsearch
  obtain ⟨blocks, hblocks, hpacket⟩ := hreduced left
  have hlength : transformed.length = scan.points.length := by rw [htransformed, List.length_map]
  rw [← htransformed, ← hlength] at hblocks
  obtain ⟨left', hleft'⟩ := Action.outcome_bind_ok
    (f := fun blocks => pure (blocks.foldl addEquations 0)) hblocks
  exact ⟨_, hleft.trans hleft', hpacket⟩

end

end PointcloudAd.Cuda
