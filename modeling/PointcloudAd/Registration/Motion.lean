import Mathlib.Data.Fin.VecNotation
import PointcloudAd.Core.Geometry

/-!
# Rigid-motion primitives

Vectors and 4x4 row-major matrices in double precision.
-/

namespace PointcloudAd.Registration

open Library

variable {F D : Type} [FloatArith F] [FloatArith D] [Floats F D]

def kPi : D := lit (314159265358979323846 / 100000000000000000000)

def sub (left right : Vec3 D) : Vec3 D := ⟨left.x - right.x, left.y - right.y, left.z - right.z⟩

def scale (scalar : D) (vector : Vec3 D) : Vec3 D :=
  ⟨scalar * vector.x, scalar * vector.y, scalar * vector.z⟩

def dot (left right : Vec3 D) : D := left.x * right.x + left.y * right.y + left.z * right.z

def cross (left right : Vec3 D) : Vec3 D :=
  ⟨left.y * right.z - left.z * right.y, left.z * right.x - left.x * right.z,
    left.x * right.y - left.y * right.x⟩

def norm (vector : Vec3 D) : D := sqrt (dot vector vector)

def normalized (vector : Vec3 D) : Vec3 D :=
  let length := norm vector
  if 0 < length then scale (1 / length) vector else ⟨0, 0, 0⟩

def applyDirection (transform : Matrix4 D) (direction : Vec3 D) : Vec3 D :=
  ⟨transform 0 * direction.x + transform 1 * direction.y + transform 2 * direction.z,
    transform 4 * direction.x + transform 5 * direction.y + transform 6 * direction.z,
    transform 8 * direction.x + transform 9 * direction.y + transform 10 * direction.z⟩

def rowColumn (row column : Fin 4) : Fin 16 := ⟨row * 4 + column, by omega⟩

def multiply (left right : Matrix4 D) : Matrix4 D := fun entry =>
  let row : Fin 4 := ⟨entry / 4, by omega⟩
  let column : Fin 4 := ⟨entry % 4, by omega⟩
  (List.finRange 4).foldl (fun sum index =>
    sum + left (rowColumn row index) * right (rowColumn index column)) 0

def inverseRigid (t : Matrix4 D) : Matrix4 D :=
  ![t 0, t 4, t 8, -(t 0 * t 3 + t 4 * t 7 + t 8 * t 11),
    t 1, t 5, t 9, -(t 1 * t 3 + t 5 * t 7 + t 9 * t 11),
    t 2, t 6, t 10, -(t 2 * t 3 + t 6 * t 7 + t 10 * t 11),
    0, 0, 0, 1]

variable (F) in
/-- The incremental transform of a rotation vector and a translation. -/
def deltaFromTwist (rotation translation : Vec3 D) : Matrix4 D :=
  let angle := norm rotation
  if angle < lit (1 / 10 ^ 12) then
    ![1, -rotation.z, rotation.y, translation.x,
      rotation.z, 1, -rotation.x, translation.y,
      -rotation.y, rotation.x, 1, translation.z,
      0, 0, 0, 1]
  else
    let kx := rotation.x / angle
    let ky := rotation.y / angle
    let kz := rotation.z / angle
    let cosine := Floats.cos F angle
    let sine := Floats.sin F angle
    let oneMinusCosine := 1 - cosine
    ![cosine + oneMinusCosine * kx * kx, -sine * kz + oneMinusCosine * kx * ky,
      sine * ky + oneMinusCosine * kx * kz, translation.x,
      sine * kz + oneMinusCosine * ky * kx, cosine + oneMinusCosine * ky * ky,
      -sine * kx + oneMinusCosine * ky * kz, translation.y,
      -sine * ky + oneMinusCosine * kz * kx, sine * kx + oneMinusCosine * kz * ky,
      cosine + oneMinusCosine * kz * kz, translation.z,
      0, 0, 0, 1]

/-- Modified Gram-Schmidt on the columns of the rotation block. -/
def orthonormalize (t : Matrix4 D) : Matrix4 D :=
  let first := normalized ⟨t 0, t 4, t 8⟩
  let secondSource : Vec3 D := ⟨t 1, t 5, t 9⟩
  let second := normalized (sub secondSource (scale (dot secondSource first) first))
  let third := normalized (cross first second)
  ![first.x, second.x, third.x, t 3,
    first.y, second.y, third.y, t 7,
    first.z, second.z, third.z, t 11,
    t 12, t 13, t 14, t 15]

end PointcloudAd.Registration
