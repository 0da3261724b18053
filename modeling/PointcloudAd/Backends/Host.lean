import PointcloudAd.Core.Config

/-!
# The libraries the program runs on

The point cloud and linear algebra libraries, the processor and an optional device, as parameters.
Every function depends on its arguments only. Searches return indices as the library's `int`, so
a caller that does not check them has to rely on the library.
-/

namespace PointcloudAd

/-- The searches and the plane fit of PCL. A cloud is searched through a tree built over it. -/
structure Pcl (F D : Type) where
  /-- The nearest `k` points of a cloud with their squared distances. -/
  nearestKSearch : List (Vec3 F) → Vec3 F → ℕ → Except Exn (List (ℤ × F))
  /-- The points of a cloud within a radius of a point. -/
  radiusSearch : List (Vec3 F) → Vec3 F → D → Except Exn (List (ℤ × F))
  /-- The points of a cloud within a radius of one of its points. -/
  radiusSearchAt : List (Vec3 F) → ℤ → D → Except Exn (List (ℤ × F))
  /-- The normal of the plane fitted through some points of a cloud. -/
  computePointNormal : List (Vec3 F) → List ℤ → Option (Vec3 F)

abbrev Mat3 (D : Type) : Type := Fin 3 → Fin 3 → D

abbrev Mat6 (D : Type) : Type := Fin 6 → Fin 6 → D

abbrev Vec6 (D : Type) : Type := Fin 6 → D

structure EigenDecomposition (D : Type) where
  success : Bool
  eigenvalues : Fin 3 → D
  eigenvectors : Mat3 D

/-- The decompositions of Eigen. -/
structure Eigen (D : Type) where
  rank : Mat6 D → ℕ
  solve : Mat6 D → Vec6 D → Vec6 D
  inverse : Mat3 D → Mat3 D
  selfAdjoint : Mat3 D → EigenDecomposition D

/-- The normal equations of one pass: a matrix, a gradient, the sum of the absolute residuals and
the number of accepted pairs. -/
structure Equations (D : Type) where
  matrix : Mat6 D
  gradient : Vec6 D
  residual : D
  count : ℕ

/-- The points of a cloud in double precision, and a unit or zero normal of each, or none. -/
structure ValidatedCloud (D : Type) where
  points : List (Vec3 D)
  normals : List (Vec3 D)

/-- What a device is given for one pass over a scan. -/
structure DevicePass (D : Type) where
  reference : ValidatedCloud D
  scan : ValidatedCloud D
  method : RegistrationMethod
  covarianceNeighbors : UInt32
  covarianceEpsilon : D
  pose : Matrix4 D
  bound : D
  huberDelta : D
  finalMetrics : Bool

/-- A device that evaluates passes, when the program is built for one. -/
structure Device (D : Type) where
  available : Bool
  prepare : ValidatedCloud D → RegistrationMethod → UInt32 → D → Except Exn Unit
  evaluate : DevicePass D → Except Exn (Equations D)

/-- What a program is linked to and runs on. The last field is the order in which a hash map
iterates over its keys, given in the order of their insertion. -/
structure Host (F D : Type) where
  pcl : Pcl F D
  eigen : Eigen D
  avx2Available : Bool
  device : Option (Device D)
  mapOrder : List ℤ → List ℤ
  mapOrder_perm : ∀ keys, (mapOrder keys).Perm keys

end PointcloudAd
