import PointcloudAd.Backends.Host
import Mathlib.Data.Fin.VecNotation
import Mathlib.Data.List.Sort

/-!
# A host over exact arithmetic

Searches that scan the whole cloud, over rational numbers with infinities, for runs on given
surfaces. The fit of a plane is a parameter; linear systems are solved by elimination, or only for a
zero right side.
-/

namespace PointcloudAd

open Library

/-- The points of a cloud with their squared distances to a point, the nearest first. -/
def rankedByDistance (cloud : List (Vec3 (Exact ℚ))) (point : Vec3 (Exact ℚ)) :
    List (ℤ × Exact ℚ) :=
  let distance (p : Vec3 (Exact ℚ)) : Exact ℚ :=
    (p.x - point.x) * (p.x - point.x) + (p.y - point.y) * (p.y - point.y) +
      (p.z - point.z) * (p.z - point.z)
  ((List.range cloud.length).map fun index : ℕ =>
    ((index : ℤ), distance (cloud.getD index default))).insertionSort fun a b => a.2 ≤ b.2

def Pcl.exhaustive (fit : List (Vec3 (Exact ℚ)) → Option (Vec3 (Exact ℚ))) :
    Pcl (Exact ℚ) (Exact ℚ) :=
  let within (cloud : List (Vec3 (Exact ℚ))) (point : Vec3 (Exact ℚ)) (radius : Exact ℚ) :=
    (rankedByDistance cloud point).filter fun found => found.2 ≤ radius * radius
  { nearestKSearch := fun cloud point k => .ok ((rankedByDistance cloud point).take k)
    radiusSearch := fun cloud point radius => .ok (within cloud point radius)
    radiusSearchAt := fun cloud index radius =>
      .ok (within cloud (cloud.getD index.toNat default) radius)
    computePointNormal := fun cloud indices =>
      fit (indices.map fun index => cloud.getD index.toNat default) }

/-- The exhaustive search, whose square roots are rounded down: a search within a radius keeps the
nearest point even if the radius was rounded below it. -/
def Pcl.keepingNearest : Pcl (Exact ℚ) (Exact ℚ) :=
  { Pcl.exhaustive fun _ => none with
    radiusSearch := fun cloud point radius =>
      let ranked := rankedByDistance cloud point
      .ok (ranked.filter fun found => found.2 ≤ radius * radius ∨
        ∃ nearest ∈ ranked.head?, found.2 ≤ nearest.2) }

/-- The decompositions at a zero residual, where every step of the solver is zero. -/
def Eigen.atRest : Eigen (Exact ℚ) where
  rank _ := 6
  solve _ _ := fun _ => 0
  inverse matrix := matrix
  selfAdjoint _ := ⟨true, fun _ => 1, fun row col => if row = col then 1 else 0⟩

/-- The rows that hold a pivot after elimination from a column on. -/
def eliminate : ℕ → ℕ → List (List (Exact ℚ)) → List (List (Exact ℚ)) → List (List (Exact ℚ))
  | 0, _, pivots, _ => pivots
  | columns + 1, column, pivots, rows =>
    match rows.find? fun row => row.getD column 0 ≠ 0 with
    | none => eliminate columns (column + 1) pivots rows
    | some row =>
      let pivot := row.map (· / row.getD column 0)
      let clear (other : List (Exact ℚ)) :=
        other.zipWith (fun entry p => entry - other.getD column 0 * p) pivot
      eliminate columns (column + 1) (pivots.map clear ++ [pivot]) ((rows.erase row).map clear)

def augmented {n m : ℕ} (matrix : Fin n → Fin n → Exact ℚ) (right : Fin n → Fin m → Exact ℚ) :
    List (List (Exact ℚ)) :=
  List.ofFn fun row => List.ofFn (matrix row) ++ List.ofFn (right row)

/-- The decompositions of matrices of full rank, by elimination. -/
def Eigen.eliminating : Eigen (Exact ℚ) :=
  { Eigen.atRest with
    rank := fun matrix => (eliminate 6 0 [] (augmented matrix fun _ : Fin 6 => ![])).length
    solve := fun matrix gradient =>
      let rows := eliminate 6 0 [] (augmented matrix fun row : Fin 6 => ![gradient row])
      fun row => (rows.getD row []).getD 6 0
    inverse := fun matrix =>
      let unit (row col : Fin 3) : Exact ℚ := if row = col then 1 else 0
      let rows := eliminate 3 0 [] (augmented matrix unit)
      fun row col => (rows.getD row []).getD (3 + col) 0 }

/-- A host without a device, whose hash maps keep the order of insertion. -/
def Host.exhaustive (fit : List (Vec3 (Exact ℚ)) → Option (Vec3 (Exact ℚ))) :
    Host (Exact ℚ) (Exact ℚ) where
  pcl := .exhaustive fit
  eigen := .atRest
  avx2Available := false
  device := none
  mapOrder := id
  mapOrder_perm _ := .refl _

/-- A point with rational coordinates. -/
def exactPoint (x y z : ℚ) : Vec3 (Exact ℚ) := ⟨.fin x, .fin y, .fin z⟩

def exactFrame : FrameId := ⟨[114], by decide, by decide⟩

/-- The pose that moves nothing. -/
def exactIdentity : RigidTransform (Exact ℚ) where
  matrix := ![1, 0, 0, 0, 0, 1, 0, 0, 0, 0, 1, 0, 0, 0, 0, 1]
  sourceFrame := exactFrame
  targetFrame := exactFrame
  checked := ⟨.fin (1 / 1000), by decide +kernel⟩

end PointcloudAd
