import PointcloudAd.Cuda.ResidentSearch
import PointcloudAd.Library.TreeReduction
import PointcloudAd.Registration.Prepared

/-!
# The equation kernels

Each lane of a block computes the 45 values of one point: a 6x6 matrix, a gradient, the residual,
the count and a flag for a coordinate beyond the precision of the search. A block adds up its lanes
in a tree, and the blocks are merged in their order.
-/

namespace PointcloudAd.Cuda

open Library

variable {F D : Type} [FloatArith F] [FloatArith D] [Floats F D]

instance : Inhabited (Covariance D) := ⟨fun _ => 0⟩

def kBlockSize : ℕ := 128

def direction (pose : Matrix4 D) (p : Vec3 D) : Vec3 D :=
  ⟨pose 0 * p.x + pose 1 * p.y + pose 2 * p.z, pose 4 * p.x + pose 5 * p.y + pose 6 * p.z,
    pose 8 * p.x + pose 9 * p.y + pose 10 * p.z⟩

def transformResident (pose : Matrix4 D) (point : Vec3 D) : Vec3 D :=
  let p := direction pose point
  ⟨p.x + pose 3, p.y + pose 7, p.z + pose 11⟩

/-- What `resident_equations` is launched with; a pointer that may be null is an option. -/
structure EquationArguments (F D : Type) where
  reference : List (Vec3 F)
  refNormals : Option (List (Vec3 D))
  transformed : List (Vec3 D)
  queries : List (Vec3 F)
  scanNormals : Option (List (Vec3 D))
  indices : List ℤ
  count : ℕ
  pose : Matrix4 D
  huber : D
  plane : Bool
  finalMetrics : Bool
  referenceCovariances : Option (List (Covariance D))
  scanCovariances : Option (List (Covariance D))

/-- An entry of a row-major 3x3 matrix. -/
def entry3 (row col : Fin 3) : Fin 9 := ⟨row * 3 + col, by omega⟩

/-- An entry of the rotation block of a row-major 4x4 matrix. -/
def poseEntry (row col : Fin 3) : Fin 16 := Registration.rowColumn row.castSucc col.castSucc

/-- An entry of a row-major 3x6 matrix. -/
def entry6 (row : Fin 3) (col : Fin 6) : Fin 18 := ⟨col + 6 * row, by omega⟩

/-- The 45 values of a lane. -/
def laneValues (matrix : Mat6 D) (gradient : Vec6 D) (residual count invalid : D) : Fin 45 → D :=
  fun j =>
    if h : (j : ℕ) < 36 then matrix ⟨j / 6, by omega⟩ ⟨j % 6, by omega⟩
    else if h : (j : ℕ) < 42 then gradient ⟨j - 36, by omega⟩
    else if j = 42 then residual
    else if j = 43 then count
    else invalid

def rotated (pose : Matrix4 D) (source : Covariance D) (row col : Fin 3) : D :=
  (List.finRange 3).foldl (fun sum j => sum + pose (poseEntry row j) * source (entry3 j col)) 0

def combined (pose : Matrix4 D) (target source : Covariance D) (row col : Fin 3) : D :=
  (List.finRange 3).foldl
    (fun sum j => sum + rotated pose source row j * pose (poseEntry col j))
    (target (entry3 row col))

/-- The cofactors over the determinant. -/
def information (m : Mat3 D) : Fin 9 → D :=
  let a := m 0 0
  let b := m 0 1
  let c := m 0 2
  let d := m 1 0
  let e := m 1 1
  let f := m 1 2
  let g := m 2 0
  let h := m 2 1
  let j := m 2 2
  let determinant := a * (e * j - f * h) - b * (d * j - f * g) + c * (d * h - e * g)
  let cofactors : Fin 9 → D := ![e * j - f * h, c * h - b * j, b * f - c * e, f * g - d * j,
    a * j - c * g, c * d - a * f, d * h - e * g, b * g - a * h, a * e - b * d]
  fun col => cofactors col / determinant

/-- The information matrix of a pair, when covariances are in use. The kernel reads the array of the
scan without a check; a null array reads as an empty one here. -/
def pairInformation (arguments : EquationArguments F D) (i target : ℕ) : Option (Fin 9 → D) :=
  arguments.referenceCovariances.map fun covariances =>
    information (combined arguments.pose (covariances.getD target default)
      ((arguments.scanCovariances.getD []).getD i default))

def weightedLane (information : Option (Fin 9 → D)) (weight : D) (jac : Fin 18 → D) (row : Fin 6) :
    Fin 3 → D := fun col =>
  match information with
  | some information =>
    ((weight * jac (entry6 0 row)) * information (entry3 0 col) +
      (weight * jac (entry6 1 row)) * information (entry3 1 col)) +
      (weight * jac (entry6 2 row)) * information (entry3 2 col)
  | none => weight * jac (entry6 col row)

/-- The values of an accepted pair: the point `p`, the normal `n` and the error `e`. -/
def pairValues (arguments : EquationArguments F D) (information : Option (Fin 9 → D))
    (p n e : Vec3 D) : Fin 45 → D :=
  let residual := if arguments.plane then e.x * n.x + e.y * n.y + e.z * n.z
    else sqrt (e.x * e.x + e.y * e.y + e.z * e.z)
  if arguments.finalMetrics then
    laneValues (fun _ _ => 0) (fun _ => 0) (residual * residual) 1 0
  else
    let weight := if abs residual ≤ arguments.huber then 1 else arguments.huber / abs residual
    if arguments.plane then
      let jac : Vec6 D :=
        ![p.y * n.z - p.z * n.y, p.z * n.x - p.x * n.z, p.x * n.y - p.y * n.x, n.x, n.y, n.z]
      laneValues (fun row col => (weight * jac row) * jac col)
        (fun row => (weight * (-residual)) * jac row) (abs residual) 1 0
    else
      let jac : Fin 18 → D :=
        ![0, p.z, -p.y, 1, 0, 0, -p.z, 0, p.x, 0, 1, 0, p.y, -p.x, 0, 0, 0, 1]
      let weighted := weightedLane information weight jac
      laneValues
        (fun row col => (weighted row 0 * jac (entry6 0 col) +
          weighted row 1 * jac (entry6 1 col)) + weighted row 2 * jac (entry6 2 col))
        (fun row => -((weighted row 0 * e.x + weighted row 1 * e.y) + weighted row 2 * e.z))
        (abs residual) 1 0

def zeroValues : Fin 45 → D := fun _ => 0

/-- The values of the lane of point `i`. -/
def pointValues (arguments : EquationArguments F D) (i : ℕ) : Fin 45 → D :=
  if ¬ i < arguments.count then zeroValues
  else if ¬ (arguments.queries.getD i default).finite then
    fun j => if j = 44 then 1 else 0
  else if ¬ 0 ≤ arguments.indices.getD i 0 then zeroValues
  else
    let target := (arguments.indices.getD i 0).toNat
    let n := arguments.refNormals.elim default fun normals => normals.getD target default
    let sn := arguments.scanNormals.elim default fun normals =>
      direction arguments.pose (normals.getD i default)
    if ¬ (arguments.scanNormals.isNone ∨ arguments.refNormals.isNone ∨
        0 ≤ sn.x * n.x + sn.y * n.y + sn.z * n.z) then zeroValues
    else
      let p := arguments.transformed.getD i default
      let r := arguments.reference.getD target default
      let e : Vec3 D := ⟨p.x - widen r.x, p.y - widen r.y, p.z - widen r.z⟩
      pairValues arguments (pairInformation arguments i target) p n e

/-- `resident_equations` for one block. -/
def residentEquations (arguments : EquationArguments F D) (block : ℕ) : Fin 45 → D :=
  treeReduce (kBlockSize / 2) (fun lane => pointValues arguments (block * kBlockSize + lane)) 0

def mergeEquations (blocks : List (Fin 45 → D)) : Fin 45 → D := fun entry =>
  blocks.foldl (fun sum block => sum + block entry) 0

def gridBlocks (count : ℕ) : ℕ := (count + kBlockSize - 1) / kBlockSize

/-- The packet of an evaluation: the blocks of the grid, merged. -/
def equationPacket (arguments : EquationArguments F D) : Fin 45 → D :=
  mergeEquations ((List.range (gridBlocks arguments.count)).map (residentEquations arguments))

end PointcloudAd.Cuda
