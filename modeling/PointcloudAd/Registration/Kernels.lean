import Mathlib.Tactic.FinCases
import PointcloudAd.Backends.Host
import PointcloudAd.Registration.Motion

/-!
# The arithmetic kernels

The point transform and the contribution of one correspondence to the normal equations, each in a
scalar and a vector version. The vector versions compute the same expressions lane by lane.
-/

namespace PointcloudAd.Registration

open Library

variable {D : Type} [FloatArith D]

def selectCpuKernel (avx2Available : Bool) : CpuKernel → Except Exn CpuKernel
  | .automatic => .ok (if avx2Available then .avx2 else .scalar)
  | .scalar => .ok .scalar
  | .avx2 =>
    if avx2Available then .ok .avx2
    else .error (.invalidArgument "AVX2 requires a supported build, CPU and OS register state")

def transformPoint (m : Matrix4 D) (p : Vec3 D) : Vec3 D :=
  ⟨((m 0 * p.x + m 1 * p.y) + m 2 * p.z) + m 3, ((m 4 * p.x + m 5 * p.y) + m 6 * p.z) + m 7,
    ((m 8 * p.x + m 9 * p.y) + m 10 * p.z) + m 11⟩

def transformScalar (m : Matrix4 D) (input : List (Vec3 D)) : List (Vec3 D) :=
  input.map (transformPoint m)

/-- One row of the transform of four points, each lane of a vector register. -/
def transformLanes (m0 m1 m2 m3 : D) (x y z : Fin 4 → D) : Fin 4 → D := fun lane =>
  ((m0 * x lane + m1 * y lane) + m2 * z lane) + m3

/-- Four points at a time, then the rest as the scalar kernel does it. -/
def transformAvx2 (m : Matrix4 D) : List (Vec3 D) → List (Vec3 D)
  | a :: b :: c :: d :: rest =>
    let x := ![a.x, b.x, c.x, d.x]
    let y := ![a.y, b.y, c.y, d.y]
    let z := ![a.z, b.z, c.z, d.z]
    let rows : Fin 3 → Fin 4 → D :=
      ![transformLanes (m 0) (m 1) (m 2) (m 3) x y z, transformLanes (m 4) (m 5) (m 6) (m 7) x y z,
        transformLanes (m 8) (m 9) (m 10) (m 11) x y z]
    ((List.finRange 4).map fun lane => (⟨rows 0 lane, rows 1 lane, rows 2 lane⟩ : Vec3 D)) ++
      transformAvx2 m rest
  | rest => transformScalar m rest

theorem transformAvx2_eq (m : Matrix4 D) : ∀ input : List (Vec3 D),
    transformAvx2 m input = transformScalar m input
  | a :: b :: c :: d :: rest => by
    rw [transformAvx2, transformAvx2_eq m rest]
    rfl
  | [] | [_] | [_, _] | [_, _, _] => rfl

def transformKernel (resolved : CpuKernel) : Matrix4 D → List (Vec3 D) → List (Vec3 D) :=
  if resolved = .avx2 then transformAvx2 else transformScalar

theorem transformKernel_eq (resolved : CpuKernel) (m : Matrix4 D) (input : List (Vec3 D)) :
    transformKernel resolved m input = input.map (transformPoint m) := by
  unfold transformKernel
  split_ifs
  · exact transformAvx2_eq m input
  · rfl

structure ObjectiveInput (D : Type) where
  point : Vec3 D
  reference : Vec3 D
  normal : Vec3 D
  information : Fin 9 → D
  huberDelta : D
  plane : Bool
  generalized : Bool

structure ObjectiveContribution (D : Type) where
  matrix : Mat6 D
  gradient : Vec6 D
  absoluteResidual : D

/-- The lane-wise products and six-column row arithmetic that a kernel supplies. -/
structure Operations (D : Type) where
  products : Vec3 D → Vec3 D → Fin 3 → D
  outerRow : D → Vec6 D → Vec6 D
  matrixRow : (Fin 3 → D) → (Fin 18 → D) → Vec6 D

def scalarOperations : Operations D where
  products left right := ![left.x * right.x, left.y * right.y, left.z * right.z]
  outerRow weight jacobian := fun col => weight * jacobian col
  matrixRow weight jacobian := fun col =>
    (weight 0 * jacobian ⟨col, by omega⟩ + weight 1 * jacobian ⟨6 + col, by omega⟩) +
      weight 2 * jacobian ⟨12 + col, by omega⟩

/-- Four columns in one register and two in another. -/
def sixLanes (first : Fin 4 → D) (tail : Fin 2 → D) : Vec6 D :=
  ![first 0, first 1, first 2, first 3, tail 0, tail 1]

def avxOperations : Operations D where
  products left right :=
    let values : Fin 4 → D := fun lane =>
      ![left.x, left.y, left.z, 0] lane * ![right.x, right.y, right.z, 0] lane
    ![values 0, values 1, values 2]
  outerRow weight jacobian :=
    sixLanes (fun lane => weight * jacobian ⟨lane, by omega⟩)
      (fun lane => weight * jacobian ⟨4 + lane, by omega⟩)
  matrixRow weight jacobian :=
    sixLanes
      (fun lane => (weight 0 * jacobian ⟨lane, by omega⟩ +
        weight 1 * jacobian ⟨6 + lane, by omega⟩) + weight 2 * jacobian ⟨12 + lane, by omega⟩)
      (fun lane => (weight 0 * jacobian ⟨4 + lane, by omega⟩ +
        weight 1 * jacobian ⟨10 + lane, by omega⟩) + weight 2 * jacobian ⟨16 + lane, by omega⟩)

theorem avxOperations_eq : (avxOperations : Operations D) = scalarOperations := by
  unfold avxOperations scalarOperations sixLanes
  congr 1
  · funext weight jacobian col
    fin_cases col <;> rfl
  · funext weight jacobian col
    fin_cases col <;> rfl

/-- Row `row` of the weighted transposed Jacobian times the information matrix. -/
def weightedRow (input : ObjectiveInput D) (weight : D) (jacobian : Fin 18 → D) (row : Fin 6) :
    Fin 3 → D := fun col =>
  if ¬ input.generalized then weight * jacobian ⟨6 * col + row, by omega⟩
  else ((weight * jacobian ⟨row, by omega⟩) * input.information ⟨col, by omega⟩ +
      (weight * jacobian ⟨6 + row, by omega⟩) * input.information ⟨3 + col, by omega⟩) +
    (weight * jacobian ⟨12 + row, by omega⟩) * input.information ⟨6 + col, by omega⟩

def objective (operations : Operations D) (input : ObjectiveInput D) : ObjectiveContribution D :=
  let p := input.point
  let n := input.normal
  let error := sub p input.reference
  let products := operations.products error (if input.plane then n else error)
  let sum := (products 0 + products 1) + products 2
  let residual := if input.plane then sum else sqrt sum
  let absoluteResidual := abs residual
  let weight := if absoluteResidual ≤ input.huberDelta then 1
    else input.huberDelta / absoluteResidual
  if input.plane then
    let jacobian : Vec6 D :=
      ![p.y * n.z - p.z * n.y, p.z * n.x - p.x * n.z, p.x * n.y - p.y * n.x, n.x, n.y, n.z]
    { matrix := fun row => operations.outerRow (weight * jacobian row) jacobian
      gradient := fun row => (weight * (-residual)) * jacobian row
      absoluteResidual := absoluteResidual }
  else
    let jacobian : Fin 18 → D :=
      ![0, p.z, -p.y, 1, 0, 0, -p.z, 0, p.x, 0, 1, 0, p.y, -p.x, 0, 0, 0, 1]
    let weighted := weightedRow input weight jacobian
    { matrix := fun row => operations.matrixRow (weighted row) jacobian
      gradient := fun row =>
        -((weighted row 0 * error.x + weighted row 1 * error.y) + weighted row 2 * error.z)
      absoluteResidual := absoluteResidual }

def objectiveKernel (resolved : CpuKernel) : ObjectiveInput D → ObjectiveContribution D :=
  objective (if resolved = .avx2 then avxOperations else scalarOperations)

theorem objectiveKernel_eq (resolved : CpuKernel) :
    objectiveKernel resolved = objective (scalarOperations : Operations D) := by
  unfold objectiveKernel
  rw [avxOperations_eq, ite_self]

end PointcloudAd.Registration
