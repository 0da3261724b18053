import PointcloudAd.Cuda.Equations
import PointcloudAd.Cuda.SpatialIndex

/-!
# The nearest point kernels

Each thread answers one query, with the index of the nearest reference point within a radius or
with -1. One kernel scans the whole reference, in tiles that the threads of a block load together.
The other walks a spatial index and passes over subtrees that cannot hold a nearer point.
-/

namespace PointcloudAd.Cuda

open Library Registration

variable {F D : Type} [FloatArith F] [FloatArith D] [Floats F D]

/-- The tile that the threads of a block load from the reference. A thread beyond its end leaves
what an earlier tile, or nothing, put there. -/
def loadTile (reference : List (Vec3 F)) (offset : ℕ) (tile : List (Vec3 F)) : List (Vec3 F) :=
  (List.range kBlockSize).map fun thread =>
    if offset + thread < reference.length then reference.getD (offset + thread) default
    else tile.getD thread default

def tileStep (query : Vec3 F) (offset : ℕ) (tile : List (Vec3 F)) (best : D × ℤ) (index : ℕ) :
    D × ℤ :=
  let distance : D := squaredDistance query (tile.getD index default)
  if distance < best.1 ∨ (equal distance best.1 ∧ best.2 < 0) then (distance, ↑(offset + index))
  else best

/-- One pass of the loop over tiles, on the shared tile and the best of a thread. -/
def tilePass (reference : List (Vec3 F)) (query : Vec3 F) (state : List (Vec3 F) × D × ℤ)
    (pass : ℕ) : List (Vec3 F) × D × ℤ :=
  let offset := pass * kBlockSize
  let tile := loadTile reference offset state.1
  let count := if reference.length - offset < kBlockSize then reference.length - offset
    else kBlockSize
  (tile, (List.range count).foldl (tileStep query offset tile) state.2)

/-- A thread of the tiled kernel, in a block whose shared memory starts with some contents. -/
def nearestThread (reference shared : List (Vec3 F)) (query : Vec3 F)
    (maxSquaredDistance : D) : ℤ :=
  ((List.range ((reference.length + kBlockSize - 1) / kBlockSize)).foldl
    (tilePass reference query) (shared, maxSquaredDistance, -1)).2.2

def nearestKernel (shared : ℕ → List (Vec3 F)) (reference queries : List (Vec3 F))
    (maxSquaredDistance : D) : List ℤ :=
  queries.mapIdx fun i query =>
    nearestThread reference (shared (i / kBlockSize)) query maxSquaredDistance

/-- The distance of a coordinate from an interval. -/
def axisGap (query lower upper : F) : D :=
  if query < lower then widen lower - widen query
  else if upper < query then widen query - widen upper
  else 0

def lowerDistance (query : Vec3 F) (node : SpatialNode F) : D :=
  let dx : D := axisGap query.x node.lower.x node.upper.x
  let dy : D := axisGap query.y node.lower.y node.upper.y
  let dz : D := axisGap query.z node.lower.z node.upper.z
  dx * dx + dy * dy + dz * dz

def slotStep (index : SpatialIndex F) (query : Vec3 F) (best : D × ℤ) (slot : ℕ) : D × ℤ :=
  let distance : D := squaredDistance query (index.points.getD slot default)
  let original := index.originalIndices.getD slot 0
  if distance < best.1 ∨ (equal distance best.1 ∧ (best.2 < 0 ∨ original < best.2)) then
    (distance, original)
  else best

/-- The subtree of a node cannot improve on the best so far. -/
def Pruned (query : Vec3 F) (node : SpatialNode F) (best : D × ℤ) : Prop :=
  let lower : D := lowerDistance query node
  best.1 < lower ∨ (equal lower best.1 ∧ 0 ≤ best.2 ∧ best.2 ≤ node.minimumIndex)

instance (query : Vec3 F) (node : SpatialNode F) (best : D × ℤ) :
    Decidable (Pruned query node best) :=
  inferInstanceAs (Decidable (best.1 < lowerDistance query node ∨ _))

/-- The walk from a node on, `none` if it takes more passes than given. -/
def walk (index : SpatialIndex F) (query : Vec3 F) : ℕ → ℕ → D × ℤ → Option (D × ℤ)
  | 0, cursor, best => if cursor < index.nodes.length then none else some best
  | passes + 1, cursor, best =>
    if cursor < index.nodes.length then
      let node := index.nodes.getD cursor default
      if Pruned query node best then walk index query passes node.escape best
      else if node.count = 0 then walk index query passes (cursor + 1) best
      else
        walk index query passes node.escape
          ((List.range' node.begin node.count).foldl (slotStep index query) best)
    else some best

def indexedNearestKernel (passes : ℕ) (index : SpatialIndex F) (queries : List (Vec3 F))
    (maxSquaredDistance : D) : Option (List ℤ) :=
  queries.mapM fun query =>
    (walk index query passes 0 (maxSquaredDistance, -1)).map Prod.snd

end PointcloudAd.Cuda
