import PointcloudAd.Core.Surface
import PointcloudAd.Library.Averages
import PointcloudAd.Library.Grouping

/-!
# Voxel sampling

The valid samples of a surface are collected in the cubes of a grid, and every occupied cube gives
the mean of its points and of their normals, with the samples it was taken of.
-/

namespace PointcloudAd

open Library FloorFunctions

variable {F D : Type} [FloatArith F] [FloatArith D] [Floats F D]

/-- A cube of the grid, in the lexicographic order of its three numbers. -/
structure VoxelKey where
  x : ℤ
  y : ℤ
  z : ℤ
  deriving Repr

instance voxelKeyOrder : LinearOrder VoxelKey :=
  LinearOrder.lift' (fun key => toLex (key.x, toLex (key.y, key.z))) fun left right h => by
    cases left
    cases right
    simpa using h

theorem VoxelKey.lt_iff {left right : VoxelKey} :
    left < right ↔ left.x < right.x ∨
      (left.x = right.x ∧ (left.y < right.y ∨ (left.y = right.y ∧ left.z < right.z))) := by
  change toLex (left.x, toLex (left.y, left.z)) < toLex (right.x, toLex (right.y, right.z)) ↔ _
  rw [Prod.Lex.toLex_lt_toLex, Prod.Lex.toLex_lt_toLex]

/-- The sums of a cube, and its samples. -/
structure Accumulator (D : Type) where
  pointSum : Vec3 D
  normalSum : Vec3 D
  sourceIndices : List ℕ

def Accumulator.empty : Accumulator D := ⟨default, default, []⟩

def samplingError (code : ErrorCode) (field reason : String) : Error :=
  ⟨code, .preprocess, "voxel sampling failed", [("field", field), ("reason", reason)]⟩

section Keys

variable [FloorFunctions D]

/-- The number of the cell of a coordinate, before it is an integer. -/
def cellValue (size : D) (coordinate : F) : D := floor (widen coordinate / size)

/-- The values that are cast to a 64-bit integer. -/
def KeyInRange (value : D) : Prop :=
  isFinite value = true ∧ ¬ value < -lit (2 ^ 63) ∧ ¬ lit (2 ^ 63) ≤ value

instance keyInRangeDecidable (value : D) : Decidable (KeyInRange value) :=
  inferInstanceAs (Decidable (_ ∧ _))

def coordinateKey (coordinate : F) (size : D) : Result ℤ :=
  if ¬ KeyInRange (cellValue size coordinate) then
    .error (samplingError .invalidInput "surface.points" "coordinate produces an invalid voxel key")
  else .ok (toInt (cellValue size coordinate))

def voxelKey (point : Vec3 F) (size : D) : Result VoxelKey := do
  let x ← coordinateKey point.x size
  let y ← coordinateKey point.y size
  let z ← coordinateKey point.z size
  return ⟨x, y, z⟩

end Keys

def addVector (sum : Vec3 D) (value : Vec3 F) : Vec3 D :=
  ⟨sum.x + widen value.x, sum.y + widen value.y, sum.z + widen value.z⟩

def Accumulator.add (surface : SurfaceView F) (voxel : Accumulator D) (index : ℕ) :
    Accumulator D where
  pointSum := addVector voxel.pointSum (surface.points.getD index default)
  normalSum :=
    if surface.normals = [] then voxel.normalSum
    else addVector voxel.normalSum (surface.normals.getD index default)
  sourceIndices := voxel.sourceIndices ++ [index]

/-- The body of the walk over the samples. -/
def sampleIndex [FloorFunctions D] (surface : SurfaceView F) (size : D)
    (voxels : SortedMap VoxelKey (Accumulator D)) (index : ℕ) :
    Result (SortedMap VoxelKey (Accumulator D)) :=
  if surface.valid ≠ [] ∧ surface.valid.getD index 0 = 0 then .ok voxels
  else do
    let key ← voxelKey (surface.points.getD index default) size
    return voxels.update key .empty fun voxel => voxel.add surface index

def Accumulator.point (voxel : Accumulator D) : Vec3 F :=
  let divisor : D := lit voxel.sourceIndices.length
  ⟨narrow (voxel.pointSum.x / divisor), narrow (voxel.pointSum.y / divisor),
    narrow (voxel.pointSum.z / divisor)⟩

/-- Normals that cancel leave none. -/
def Accumulator.normal (voxel : Accumulator D) : Vec3 F :=
  let sum := voxel.normalSum
  let length := sqrt (sum.x * sum.x + sum.y * sum.y + sum.z * sum.z)
  if 0 < length ∧ isFinite length = true then
    ⟨narrow (sum.x / length), narrow (sum.y / length), narrow (sum.z / length)⟩
  else default

/-- What the walk over the cubes has appended. -/
structure SampledArrays (F : Type) where
  points : List (Vec3 F) := []
  normals : List (Vec3 F) := []
  sourceOffsets : List ℕ := [0]
  sourceIndices : List ℕ := []

def SampledArrays.append (hasNormals : Bool) (arrays : SampledArrays F) (voxel : Accumulator D) :
    SampledArrays F where
  points := arrays.points ++ [voxel.point]
  normals := if hasNormals then arrays.normals ++ [voxel.normal] else arrays.normals
  sourceOffsets :=
    arrays.sourceOffsets ++ [(arrays.sourceIndices ++ voxel.sourceIndices).length]
  sourceIndices := arrays.sourceIndices ++ voxel.sourceIndices

structure VoxelSampleResult (F : Type) [FloatArith F] where
  surface : OwnedSurface F
  sourceOffsets : List ℕ
  sourceIndices : List ℕ

def VoxelSampleResult.sourcesFor (result : VoxelSampleResult F) (sampledIndex : ℕ) : List ℕ :=
  let first := result.sourceOffsets.getD sampledIndex 0
  let last := result.sourceOffsets.getD (sampledIndex + 1) 0
  (result.sourceIndices.drop first).take (last - first)

def voxelSample [FloorFunctions D] (surface : SurfaceView F) (size : D) :
    Result (VoxelSampleResult F) :=
  if surface.unit ≠ .millimeter then
    .error (samplingError .invalidInput "surface.unit" "must be normalized to millimetres")
  else if ¬ isFinite size ∨ size ≤ 0 then
    .error (samplingError .invalidArgument "voxel_size_mm" "must be finite and positive")
  else do
    let voxels ← surface.indices.foldlM (sampleIndex surface size) .empty
    if voxels.entries = [] then
      .error (samplingError .invalidInput "surface.valid" "must contain at least one valid sample")
    else
      let arrays : SampledArrays F := (voxels.entries.map Prod.snd).foldl
        (SampledArrays.append (!surface.normals.isEmpty)) {}
      let sampled ← OwnedSurface.create arrays.points arrays.normals [] none .millimeter
        surface.frame
      return ⟨sampled, arrays.sourceOffsets, arrays.sourceIndices⟩

end PointcloudAd
