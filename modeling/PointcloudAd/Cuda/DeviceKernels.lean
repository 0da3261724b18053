import PointcloudAd.Cuda.EquationAgreement
import PointcloudAd.Cuda.ResidentRuns
import PointcloudAd.Cuda.SearchAgreement

/-!
# The kernels of an evaluation

An evaluation moves the uploaded scan, searches the nearest reference point of each of its points,
and adds up the equations of the pairs. What is downloaded is read as the normal equations of a
pass, or as the two sums of the residual metrics.
-/

namespace PointcloudAd

open Library

/-- A kernel's pointer; none where it is null. An array of unknown contents reads as an empty one
here. -/
def DeviceArray.pointer {α : Type} : DeviceArray (List α) → Option (List α)
  | .null => none
  | .allocated contents => some (contents.getD [])

namespace Cuda

variable {F D : Type} [FloatArith F] [FloatArith D] [Floats F D]

/-- The nearest kernel of a strategy. The walk of the index ends within as many passes as the index
has nodes. -/
def nearestIndices (nth : NthElement) (strategy : SearchStrategy)
    (reference queries : List (Vec3 F))
    (maxSquaredDistance : D) : List ℤ :=
  match strategy with
  | .tiled => nearestKernel (fun _ => []) reference queries maxSquaredDistance
  | .indexed =>
    match buildSpatialIndex D nth reference with
    | .ok index =>
      (indexedNearestKernel index.nodes.length index queries maxSquaredDistance).getD []
    | .error _ => []

/-- What the kernels of a launch leave to the equation kernel. -/
def launchedArguments (nth : NthElement) (strategy : SearchStrategy) (reference : List (Vec3 F))
    (launch : Launch D) : EquationArguments F D :=
  let pose := launch.arguments.matrix
  let transformed :=
    ((launch.points.pointer.getD []).take launch.count).map (transformResident pose)
  let queries : List (Vec3 F) := transformed.map Vec3.narrow
  { reference
    refNormals := launch.referenceNormals.pointer
    transformed
    queries
    scanNormals := launch.normals.pointer
    indices := nearestIndices nth strategy reference queries
      (launch.arguments.radius * launch.arguments.radius)
    count := launch.count
    pose
    huber := launch.arguments.huber
    plane := launch.arguments.plane
    finalMetrics := launch.arguments.finalMetrics
    referenceCovariances := launch.referenceCovariances.pointer
    scanCovariances := launch.scanCovariances.pointer }

/-- The kernels of a search with a strategy. The ones that compute covariances are not launched by
an evaluation. -/
def deviceKernels (nth : NthElement) (strategy : SearchStrategy)
    (covariances : List (Vec3 F) → UInt32 → D → Option (List (Covariance D))) :
    CudaKernels F D where
  nearest strategy reference queries bound := nearestIndices nth strategy reference queries bound
  covariances := covariances
  equation reference launch := equationPacket (launchedArguments nth strategy reference launch)

variable (F) in
/-- The conversion of a nonnegative value to an unsigned integer. -/
def truncated (value : D) : ℕ :=
  let above := Floats.ceil F value
  if (lit above : D) ≤ value then above else above - 1

variable (F) in
/-- The normal equations of a packet. -/
def equationsOf (packet : Fin 45 → D) : Equations D where
  matrix row col := packet ⟨row * 6 + col, by omega⟩
  gradient row := packet ⟨36 + row, by omega⟩
  residual := packet 42
  count := truncated F (packet 43)

end Cuda

end PointcloudAd
