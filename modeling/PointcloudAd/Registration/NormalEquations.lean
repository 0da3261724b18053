import Mathlib.Algebra.Order.Star.Real
import Mathlib.LinearAlgebra.Matrix.PosDef
import Mathlib.LinearAlgebra.Matrix.DotProduct
import Mathlib.Data.Matrix.Mul
import PointcloudAd.Library.RealArithmetic
import PointcloudAd.Registration.KernelSpans
import PointcloudAd.Registration.Prepared

/-!
# The normal equations

Over the real numbers, the objective kernel computes one correspondence's term of the Gauss-Newton
normal equations. The Jacobian is that of a point moved by an infinitesimal rotation and a
translation, and the information matrix depends on the mode.
-/

namespace PointcloudAd.Registration

open Library Matrix

noncomputable section

def coordinates (v : Vec3 ℝ) : Fin 3 → ℝ := ![v.x, v.y, v.z]

/-- How a twist, a rotation vector before a translation, moves a point to first order. -/
def moved (p : Vec3 ℝ) (twist : Fin 6 → ℝ) : Fin 3 → ℝ :=
  coordinates (cross ⟨twist 0, twist 1, twist 2⟩ p) + ![twist 3, twist 4, twist 5]

/-- The derivative of the moved point: column by column, what the unit twists do. -/
def motionJacobian (p : Vec3 ℝ) : Matrix (Fin 3) (Fin 6) ℝ :=
  Matrix.of fun k col => moved p (Pi.single col 1) k

def errorVector (input : ObjectiveInput ℝ) : Fin 3 → ℝ :=
  coordinates (sub input.point input.reference)

/-- A row-major matrix. -/
def unflattened (information : Fin 9 → ℝ) : Matrix (Fin 3) (Fin 3) ℝ :=
  Matrix.of fun row col => information ⟨3 * row + col, by omega⟩

/-- The information matrix of a mode. -/
def omega (input : ObjectiveInput ℝ) : Matrix (Fin 3) (Fin 3) ℝ :=
  if input.plane then vecMulVec (coordinates input.normal) (coordinates input.normal)
  else if input.generalized then unflattened input.information
  else 1

/-- The distance from the reference, along its normal or in space. -/
def absoluteResidual (input : ObjectiveInput ℝ) : ℝ :=
  if input.plane then |coordinates input.normal ⬝ᵥ errorVector input|
  else Real.sqrt (errorVector input ⬝ᵥ errorVector input)

def huberWeight (delta residual : ℝ) : ℝ :=
  if residual ≤ delta then 1 else delta / residual

theorem motionJacobian_eq (p : Vec3 ℝ) : motionJacobian p =
    !![0, p.z, -p.y, 1, 0, 0; -p.z, 0, p.x, 0, 1, 0; p.y, -p.x, 0, 0, 0, 1] := by
  ext k col
  fin_cases k <;> fin_cases col <;>
    simp [motionJacobian, moved, coordinates, cross, Pi.single_apply]

theorem moved_eq (p : Vec3 ℝ) (twist : Fin 6 → ℝ) : moved p twist = motionJacobian p *ᵥ twist := by
  rw [motionJacobian_eq]
  funext k
  fin_cases k <;>
    simp [moved, coordinates, cross, Matrix.mulVec, dotProduct, Fin.sum_univ_six] <;> ring

section Contribution

variable (input : ObjectiveInput ℝ)

/-- The weight of a correspondence. -/
def weight : ℝ := huberWeight input.huberDelta (absoluteResidual input)

theorem planeJacobian_eq (p n : Vec3 ℝ) :
    (![p.y * n.z - p.z * n.y, p.z * n.x - p.x * n.z, p.x * n.y - p.y * n.x, n.x, n.y, n.z] :
      Fin 6 → ℝ) = coordinates n ᵥ* motionJacobian p := by
  rw [motionJacobian_eq]
  funext col
  fin_cases col <;> simp [coordinates, Matrix.vecMul, dotProduct, Fin.sum_univ_three] <;> ring

theorem flatJacobian_eq (p : Vec3 ℝ) (k : Fin 3) (col : Fin 6) :
    (![0, p.z, -p.y, 1, 0, 0, -p.z, 0, p.x, 0, 1, 0, p.y, -p.x, 0, 0, 0, 1] : Fin 18 → ℝ)
      ⟨6 * k + col, by omega⟩ = motionJacobian p k col := by
  rw [motionJacobian_eq]
  fin_cases k <;> fin_cases col <;> rfl

theorem sum_products_plane :
    (sub input.point input.reference).x * input.normal.x +
          (sub input.point input.reference).y * input.normal.y +
        (sub input.point input.reference).z * input.normal.z =
      coordinates input.normal ⬝ᵥ errorVector input := by
  simp [coordinates, errorVector, dotProduct, Fin.sum_univ_three]
  ring

theorem objectiveScalar_plane (h : input.plane = true) :
    objectiveScalar input =
      { matrix := fun row col =>
          weight input * (coordinates input.normal ᵥ* motionJacobian input.point) row *
            (coordinates input.normal ᵥ* motionJacobian input.point) col
        gradient := fun row =>
          weight input * -(coordinates input.normal ⬝ᵥ errorVector input) *
            (coordinates input.normal ᵥ* motionJacobian input.point) row
        absoluteResidual := absoluteResidual input } := by
  rw [← planeJacobian_eq, weight, absoluteResidual, if_pos h, ← sum_products_plane input]
  unfold objectiveScalar objective scalarOperations huberWeight
  simp only [h, if_true]
  rfl

theorem sum_products_spatial :
    (sub input.point input.reference).x * (sub input.point input.reference).x +
          (sub input.point input.reference).y * (sub input.point input.reference).y +
        (sub input.point input.reference).z * (sub input.point input.reference).z =
      errorVector input ⬝ᵥ errorVector input := by
  simp [coordinates, errorVector, dotProduct, Fin.sum_univ_three]

theorem weightedRow_eq (h : input.plane = false) (w : ℝ) (row : Fin 6) (col : Fin 3) :
    weightedRow input w
        ![0, input.point.z, -input.point.y, 1, 0, 0, -input.point.z, 0, input.point.x, 0, 1, 0,
          input.point.y, -input.point.x, 0, 0, 0, 1] row col =
      (w • ((motionJacobian input.point)ᵀ * omega input)) row col := by
  have hflat := flatJacobian_eq input.point
  have hzero := hflat 0 row
  have hone := hflat 1 row
  have htwo := hflat 2 row
  simp only [Fin.val_zero, Fin.val_one, Fin.val_two, Nat.mul_zero, Nat.zero_add, Nat.mul_one,
    Nat.reduceMul] at hzero hone htwo
  by_cases hg : input.generalized = true
  · simp only [weightedRow, hg, not_true_eq_false, if_false, hzero, hone, htwo, omega,
      unflattened, h,
      Bool.false_eq_true, if_true, Matrix.smul_apply, Matrix.mul_apply, Fin.sum_univ_three,
      Matrix.transpose_apply, Matrix.of_apply, Fin.val_zero, Fin.val_one, Fin.val_two, Nat.mul_zero,
      Nat.zero_add, Nat.mul_one, Nat.reduceMul, smul_eq_mul]
    ring
  · simp only [weightedRow, hg, not_false_eq_true, if_true, hflat, omega, h, Bool.false_eq_true,
      if_false, Matrix.mul_one, Matrix.smul_apply, Matrix.transpose_apply, smul_eq_mul]

theorem matrixRow_eq (p : Vec3 ℝ) (row : Fin 3 → ℝ) (col : Fin 6) :
    (scalarOperations : Operations ℝ).matrixRow row
        ![0, p.z, -p.y, 1, 0, 0, -p.z, 0, p.x, 0, 1, 0, p.y, -p.x, 0, 0, 0, 1] col =
      (row ᵥ* motionJacobian p) col := by
  have hflat := flatJacobian_eq p
  have hzero := hflat 0 col
  have hone := hflat 1 col
  have htwo := hflat 2 col
  simp only [Fin.val_zero, Fin.val_one, Fin.val_two, Nat.mul_zero, Nat.zero_add, Nat.mul_one,
    Nat.reduceMul] at hzero hone htwo
  simp only [scalarOperations, hzero, hone, htwo, Matrix.vecMul, dotProduct, Fin.sum_univ_three]

theorem objectiveScalar_spatial (h : input.plane = false) :
    (∀ row, (objectiveScalar input).matrix row =
      (weight input • ((motionJacobian input.point)ᵀ * omega input)) row ᵥ*
        motionJacobian input.point) ∧
    (∀ row, (objectiveScalar input).gradient row =
      -((weight input • ((motionJacobian input.point)ᵀ * omega input)) row ⬝ᵥ
        errorVector input)) ∧
    (objectiveScalar input).absoluteResidual = absoluteResidual input := by
  have habsolute : absoluteResidual input =
      |Real.sqrt (errorVector input ⬝ᵥ errorVector input)| := by
    rw [absoluteResidual, h, abs_of_nonneg (Real.sqrt_nonneg _)]
    rfl
  have hrow : ∀ row, (weight input • ((motionJacobian input.point)ᵀ * omega input)) row =
      weightedRow input (weight input) ![0, input.point.z, -input.point.y, 1, 0, 0,
        -input.point.z, 0, input.point.x, 0, 1, 0, input.point.y, -input.point.x, 0, 0, 0, 1]
        row := fun row => funext fun k => (weightedRow_eq input h _ row k).symm
  refine ⟨fun row => ?_, fun row => ?_, ?_⟩
  · funext col
    rw [← matrixRow_eq, hrow, weight, habsolute, ← sum_products_spatial]
    unfold objectiveScalar objective huberWeight
    simp only [h]
    rfl
  · rw [hrow, weight, habsolute, ← sum_products_spatial]
    unfold objectiveScalar objective huberWeight
    simp only [h]
    rw [dotProduct, Fin.sum_univ_three]
    rfl
  · rw [habsolute, ← sum_products_spatial]
    unfold objectiveScalar objective
    simp only [h]
    rfl

/-- The contribution of a correspondence, in terms of the Jacobian and the information matrix. -/
theorem objectiveScalar_eq :
    Matrix.of (objectiveScalar input).matrix =
        weight input • ((motionJacobian input.point)ᵀ * omega input *
          motionJacobian input.point) ∧
      (objectiveScalar input).gradient = -(weight input •
        ((motionJacobian input.point)ᵀ *ᵥ (omega input *ᵥ errorVector input))) ∧
      (objectiveScalar input).absoluteResidual = absoluteResidual input := by
  by_cases h : input.plane = true
  · rw [objectiveScalar_plane input h, omega, if_pos h]
    refine ⟨?_, ?_, rfl⟩
    · rw [Matrix.mul_vecMulVec, Matrix.vecMulVec_mul, Matrix.mulVec_transpose]
      ext row col
      simp only [Matrix.of_apply, Matrix.smul_apply, Matrix.vecMulVec_apply, smul_eq_mul]
      ring
    · rw [Matrix.vecMulVec_mulVec, Matrix.mulVec_smul, Matrix.mulVec_transpose]
      funext row
      simp only [Pi.neg_apply, Pi.smul_apply, MulOpposite.smul_eq_mul_unop, MulOpposite.unop_op,
        smul_eq_mul]
      ring
  · obtain ⟨hmatrix, hgradient, hresidual⟩ := objectiveScalar_spatial input (by simpa using h)
    refine ⟨?_, ?_, hresidual⟩
    · ext row col
      rw [Matrix.of_apply, hmatrix, ← Matrix.smul_mul _ (_ * _)]
      rfl
    · funext row
      rw [hgradient, Matrix.mulVec_mulVec, ← Matrix.smul_mulVec]
      rfl

theorem huberWeight_nonneg {delta residual : ℝ} (hdelta : 0 ≤ delta) (hresidual : 0 ≤ residual) :
    0 ≤ huberWeight delta residual := by
  unfold huberWeight
  split_ifs
  · exact zero_le_one
  · exact div_nonneg hdelta hresidual

theorem absoluteResidual_nonneg : 0 ≤ absoluteResidual input := by
  unfold absoluteResidual
  split_ifs
  · exact abs_nonneg _
  · exact Real.sqrt_nonneg _

theorem omega_posSemidef (h : input.plane = true ∨ input.generalized = false) :
    (omega input).PosSemidef := by
  unfold omega
  split_ifs with hplane hgeneralized
  · exact Matrix.posSemidef_vecMulVec_self_star (coordinates input.normal)
  · rcases h with h | h
    · exact absurd h hplane
    · exact absurd hgeneralized (by simp [h])
  · exact Matrix.PosSemidef.one

theorem objectiveScalar_posSemidef (homega : (omega input).PosSemidef)
    (hdelta : 0 ≤ input.huberDelta) : (Matrix.of (objectiveScalar input).matrix).PosSemidef := by
  rw [(objectiveScalar_eq input).1]
  have hconjugate := homega.conjTranspose_mul_mul_same (motionJacobian input.point)
  rw [Matrix.conjTranspose_eq_transpose_of_trivial] at hconjugate
  exact hconjugate.smul (huberWeight_nonneg hdelta (absoluteResidual_nonneg input))

theorem foldl_posSemidef {ι : Type} {step : ι → Equations ℝ → Equations ℝ}
    (hstep : ∀ i cell, (Matrix.of cell.matrix).PosSemidef →
      (Matrix.of (step i cell).matrix).PosSemidef) (l : List ι) {cell : Equations ℝ}
    (hcell : (Matrix.of cell.matrix).PosSemidef) :
    (Matrix.of (l.foldl (fun cell i => step i cell) cell).matrix).PosSemidef := by
  induction l generalizing cell with
  | nil => exact hcell
  | cons i l ih => exact ih (hstep i cell hcell)

theorem zero_posSemidef : (Matrix.of (0 : Equations ℝ).matrix).PosSemidef :=
  Matrix.PosSemidef.zero

theorem addEquations_posSemidef {a b : Equations ℝ} (ha : (Matrix.of a.matrix).PosSemidef)
    (hb : (Matrix.of b.matrix).PosSemidef) : (Matrix.of (addEquations a b).matrix).PosSemidef :=
  ha.add hb

end Contribution

section Accumulation

variable {eigen : Eigen ℝ} {parameters : RegistrationParameters ℝ}
  {reference scan : ValidatedCloud ℝ} {referenceCovariances scanCovariances : List (Mat3 ℝ)}
  {pose : Matrix4 ℝ}

theorem huberDelta_pos (h : validateRegistrationParameters parameters = .ok ()) :
    0 < parameters.huberDeltaMm := by
  by_contra hdelta
  have hle : parameters.huberDeltaMm ≤ 0 := not_lt.mp hdelta
  unfold validateRegistrationParameters at h
  simp only [hle, or_true, if_true] at h
  split_ifs at h
  all_goals cases h

theorem accumulatePoint_posSemidef (hdelta : 0 ≤ parameters.huberDeltaMm)
    (hinformation : parameters.method = .gicp → ∀ j i, (unflattened (informationMatrix eigen pose
      (referenceCovariances.getD j default) (scanCovariances.getD i default))).PosSemidef)
    (transformed : List (Vec3 ℝ)) (neighbors : List ℤ) (i : ℕ) {cell : Equations ℝ}
    (hcell : (Matrix.of cell.matrix).PosSemidef) :
    (Matrix.of (accumulatePoint eigen objectiveScalar parameters reference scan
      referenceCovariances scanCovariances pose transformed neighbors i
        cell).matrix).PosSemidef := by
  unfold accumulatePoint
  dsimp only
  by_cases hneighbor : neighbors.getD i 0 < 0
  · rwa [if_pos hneighbor]
  · rw [if_neg hneighbor]
    by_cases haccepted : ¬ accepted reference scan i (neighbors.getD i 0).toNat pose
    · rwa [if_pos haccepted]
    · rw [if_neg haccepted]
      refine addEquations_posSemidef hcell (objectiveScalar_posSemidef _ ?_ hdelta)
      by_cases hgicp : parameters.method = .gicp
      · simpa [omega, hgicp] using hinformation hgicp _ _
      · exact omega_posSemidef _ (.inr (decide_eq_false hgicp))

variable (eigen parameters reference scan referenceCovariances scanCovariances pose) in
/-- The equations that the workers accumulate block by block and the caller merges in order. -/
def accumulated (transformed : List (Vec3 ℝ)) (neighbors : List ℤ) (blocks : List (List ℕ)) :
    Equations ℝ :=
  (blocks.map fun block => block.foldl (fun cell i => accumulatePoint eigen objectiveScalar
    parameters reference scan referenceCovariances scanCovariances pose transformed neighbors i
    cell) 0).foldl addEquations 0

theorem accumulated_posSemidef (hdelta : 0 ≤ parameters.huberDeltaMm)
    (hinformation : parameters.method = .gicp → ∀ j i, (unflattened (informationMatrix eigen pose
      (referenceCovariances.getD j default) (scanCovariances.getD i default))).PosSemidef)
    (transformed : List (Vec3 ℝ)) (neighbors : List ℤ) (blocks : List (List ℕ)) :
    (Matrix.of (accumulated eigen parameters reference scan referenceCovariances scanCovariances
      pose transformed neighbors blocks).matrix).PosSemidef := by
  unfold accumulated
  rw [List.foldl_map]
  refine foldl_posSemidef (fun block cell hcell => addEquations_posSemidef hcell ?_) blocks
    zero_posSemidef
  exact foldl_posSemidef (fun i cell hcell =>
    accumulatePoint_posSemidef hdelta hinformation transformed neighbors i hcell) block
    zero_posSemidef

theorem cpuEvaluator_accumulated {host : Host ℝ ℝ} {scheduler : Scheduler} {P : Prepared ℝ ℝ}
    {buffers : Buffers ℝ ℝ} {equations : Equations ℝ}
    (h : ((cpuEvaluator host scheduler P scan scanCovariances).equations pose).outcome buffers =
      .ok equations) :
    ∃ transformed neighbors blocks, equations = accumulated host.eigen P.parameters
      P.referenceCloud scan P.referenceCovariances scanCovariances pose transformed neighbors
      blocks := by
  obtain ⟨⟨transformed, neighbors⟩, buffers', -, h⟩ := Action.outcome_bind_inv h
  obtain ⟨cells, _, hcells, hmerged⟩ := Action.outcome_bind_inv h
  rw [reduceBlocks_eq, Prepared.objectiveKernel, objectiveKernel_eq] at hcells
  refine ⟨transformed, neighbors, (List.range (CpuExecutor.blocks transformed.length)).map
    fun block => (List.range transformed.length).filter
      fun i => i / CpuExecutor.blockSize = block, ?_⟩
  rw [accumulated, List.map_map]
  cases hcells
  cases hmerged
  rfl

end Accumulation

theorem combined_eq (rotation reference scan : Mat3 ℝ) :
    Matrix.of (add3 reference (mul3 (mul3 rotation scan) (transpose3 rotation))) =
      Matrix.of reference + Matrix.of rotation * Matrix.of scan * (Matrix.of rotation)ᵀ := by
  ext row col
  simp only [Matrix.add_apply, Matrix.mul_apply, Matrix.transpose_apply, Fin.sum_univ_three,
    Matrix.of_apply, add3, mul3, transpose3]

theorem informationMatrix_posSemidef {eigen : Eigen ℝ}
    (hinverse : ∀ m, Matrix.of (eigen.inverse m) = (Matrix.of m)⁻¹) {pose : Matrix4 ℝ} {reference scan : Mat3 ℝ}
    (hreference : (Matrix.of reference).PosSemidef) (hscan : (Matrix.of scan).PosSemidef) :
    (unflattened (informationMatrix eigen pose reference scan)).PosSemidef := by
  have hentries : unflattened (informationMatrix eigen pose reference scan) =
      (Matrix.of reference + Matrix.of (rotationBlock pose) * Matrix.of scan *
        (Matrix.of (rotationBlock pose))ᵀ)⁻¹ := by
    rw [← combined_eq, ← hinverse]
    ext row col
    fin_cases row <;> fin_cases col <;> rfl
  rw [hentries]
  have hturned := hscan.mul_mul_conjTranspose_same (Matrix.of (rotationBlock pose))
  rw [Matrix.conjTranspose_eq_transpose_of_trivial] at hturned
  exact (hreference.add hturned).inv

/-- The objective kernel computes the terms of the Gauss-Newton normal equations, with the
Jacobian of the moved point, and their sum is symmetric and positive semidefinite when the
information matrices are, at any parameters that pass the checks. -/
theorem objective_normalEquations :
    (∀ input : ObjectiveInput ℝ,
      (∀ twist, moved input.point twist = motionJacobian input.point *ᵥ twist) ∧
      Matrix.of (objectiveScalar input).matrix =
        huberWeight input.huberDelta (absoluteResidual input) •
          ((motionJacobian input.point)ᵀ * omega input * motionJacobian input.point) ∧
      (objectiveScalar input).gradient =
        -(huberWeight input.huberDelta (absoluteResidual input) •
          ((motionJacobian input.point)ᵀ *ᵥ (omega input *ᵥ errorVector input))) ∧
      (objectiveScalar input).absoluteResidual = absoluteResidual input) ∧
    ∀ (eigen : Eigen ℝ) (parameters : RegistrationParameters ℝ) (reference scan : ValidatedCloud ℝ)
      (referenceCovariances scanCovariances : List (Mat3 ℝ)) (pose : Matrix4 ℝ)
      (transformed : List (Vec3 ℝ)) (neighbors : List ℤ) (blocks : List (List ℕ)),
      validateRegistrationParameters parameters = .ok () →
      (parameters.method = .gicp → ∀ j i, (unflattened (informationMatrix eigen pose
        (referenceCovariances.getD j default) (scanCovariances.getD i default))).PosSemidef) →
      (Matrix.of (accumulated eigen parameters reference scan referenceCovariances
        scanCovariances pose transformed neighbors blocks).matrix).PosSemidef := by
  refine ⟨fun input => ⟨moved_eq input.point, objectiveScalar_eq input⟩, ?_⟩
  intro eigen parameters reference scan referenceCovariances scanCovariances pose transformed
    neighbors blocks hparameters hinformation
  exact accumulated_posSemidef (huberDelta_pos hparameters).le hinformation transformed neighbors
    blocks

/-- Generalized parameters that pass the checks. -/
def gicpParameters : RegistrationParameters ℝ where
  maxIterations := 10
  maxCorrespondenceDistanceMm := 1
  huberDeltaMm := 1
  translationEpsilonMm := 1
  rotationEpsilonRad := 1
  residualEpsilonMm := 1
  method := .gicp

theorem validate_gicpParameters : validateRegistrationParameters gicpParameters = .ok () := by
  unfold validateRegistrationParameters gicpParameters
  norm_num [cpuKernelName, registrationMethodName]
  rfl

/-- The inverse of a matrix, with no decompositions. -/
def matrixEigen : Eigen ℝ where
  rank _ := 6
  solve _ step := step
  inverse m row col := (Matrix.of m)⁻¹ row col
  selfAdjoint m := ⟨true, 0, m⟩

/-- The covariance of a flat neighbourhood. -/
def flatCovariance : Mat3 ℝ := diagonal3 ![1, 1, 1 / 1000]

theorem flatCovariance_posSemidef : (Matrix.of flatCovariance).PosSemidef := by
  have hdiagonal : Matrix.of flatCovariance = Matrix.diagonal ![1, 1, 1 / 1000] := by
    ext row col
    rw [Matrix.diagonal_apply]
    rfl
  rw [hdiagonal, Matrix.posSemidef_diagonal_iff]
  intro i
  fin_cases i <;> norm_num

/-- A quarter turn about the vertical axis. -/
def quarterPose : Matrix4 ℝ := ![0, -1, 0, 0, 1, 0, 0, 0, 0, 0, 1, 0, 0, 0, 0, 1]

theorem objective_normalEquations_gicp :
    let cell := accumulated matrixEigen gicpParameters
      ⟨[⟨0, 0, 0⟩, ⟨1, 0, 0⟩], [⟨0, 0, 1⟩, ⟨0, 0, 1⟩]⟩
      ⟨[⟨0, 0, 1⟩, ⟨1, 0, 2⟩, ⟨2, 0, 0⟩], [⟨0, 0, 1⟩, ⟨1, 0, 0⟩, ⟨0, 0, -1⟩]⟩
      [flatCovariance, flatCovariance] [flatCovariance, flatCovariance, flatCovariance]
      quarterPose [⟨0, 0, 1⟩, ⟨0, 1, 2⟩, ⟨0, 2, 0⟩]
      [0, 1, 1] [[0], [1, 2]]
    cell.count = 2 ∧ (Matrix.of cell.matrix).PosSemidef := by
  have hcovariances : ∀ (n i : ℕ), (Matrix.of
      ((List.replicate n flatCovariance).getD i default)).PosSemidef := by
    intro n i
    rw [List.getD_eq_getElem?_getD, List.getElem?_replicate]
    split_ifs
    · exact flatCovariance_posSemidef
    · exact PosSemidef.zero
  have hfirst : ¬ dot (applyDirection quarterPose ⟨0, 0, 1⟩) ⟨0, 0, 1⟩ < (0 : ℝ) := by
    simp [dot, applyDirection, quarterPose]
  have hsecond : ¬ dot (applyDirection quarterPose ⟨1, 0, 0⟩) ⟨0, 0, 1⟩ < (0 : ℝ) := by
    simp [dot, applyDirection, quarterPose]
  have hthird : dot (applyDirection quarterPose ⟨0, 0, -1⟩) ⟨0, 0, 1⟩ < (0 : ℝ) := by
    simp [dot, applyDirection, quarterPose]
  constructor
  · simp [accumulated, accumulatePoint, accepted, addEquations, hfirst, hsecond, hthird]
    rfl
  · exact objective_normalEquations.2 matrixEigen gicpParameters _ _ _ _ _ _ _ _
      validate_gicpParameters fun _ j i => informationMatrix_posSemidef (fun _ => rfl) (hcovariances 2 j) (hcovariances 3 i)

end
end PointcloudAd.Registration
