import PointcloudAd.Preprocess.Normalization
import PointcloudAd.Registration.Motion

/-!
# Vectors of a surface

Lengths and products of single-precision vectors, computed in double precision. Every stage after
normalization carries its own copy of these functions in the source.
-/

namespace PointcloudAd

open Library Registration

variable {F D : Type} [FloatArith F] [FloatArith D] [Floats F D]

def vectorLength (value : Vec3 F) : D :=
  sqrt (widen value.x * widen value.x + widen value.y * widen value.y +
    widen value.z * widen value.z)

variable (D) in
/-- A vector of length one, or zero when the length is no positive finite number. -/
def unitVector (value : Vec3 F) : Vec3 F :=
  let length : D := vectorLength value
  if ¬ 0 < length ∨ ¬ isFinite length then default
  else ⟨narrow (widen value.x / length), narrow (widen value.y / length),
    narrow (widen value.z / length)⟩

def crossFloat (left right : Vec3 F) : Vec3 F :=
  ⟨left.y * right.z - left.z * right.y, left.z * right.x - left.x * right.z,
    left.x * right.y - left.y * right.x⟩

def dotFloat (left right : Vec3 F) : D :=
  widen left.x * widen right.x + widen left.y * widen right.y + widen left.z * widen right.z

def subFloat (left right : Vec3 F) : Vec3 F :=
  ⟨left.x - right.x, left.y - right.y, left.z - right.z⟩

def Vec3.negate (value : Vec3 F) : Vec3 F := ⟨-value.x, -value.y, -value.z⟩

variable (D) in
/-- Only valid samples have a normal with a length. -/
def SurfaceView.NormalsMasked (surface : SurfaceView F) : Prop :=
  ∀ w, (0 : D) < vectorLength (surface.normals.getD w default) →
    w ∈ surface.indices ∧ surface.isValidIndex w = true

/-- A storage index as the 32-bit index it is stored in. -/
def int32 (index : ℕ) : ℤ := (index : ℤ).bmod (2 ^ 32)

end PointcloudAd
