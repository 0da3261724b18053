import Mathlib.Algebra.Order.Floor.Ring
import Mathlib.Data.Int.Log
import PointcloudAd.Library.Floating

/-!
# The 32-bit binary format

A floating-point value as its bits, and the operations of the format: the exact result, rounded to
the nearest value, to an even last bit on ties.
-/

namespace PointcloudAd.Library

/-- The bits of a floating-point type. -/
class FloatBits (F : Type) where
  bits : F → UInt32
  ofBits : UInt32 → F

/-- A value is its bits. -/
class LawfulFloatBits (F : Type) [FloatBits F] : Prop where
  ofBits_bits (v : F) : FloatBits.ofBits (FloatBits.bits v) = v

structure Binary32 where
  bits : UInt32
  deriving DecidableEq, Repr

namespace Binary32

instance : FloatBits Binary32 where
  bits := bits
  ofBits := mk

instance : LawfulFloatBits Binary32 where
  ofBits_bits _ := rfl

def negative (v : Binary32) : Bool := 2 ^ 31 ≤ v.bits.toNat

/-- The biased exponent. -/
def exponent (v : Binary32) : ℕ := v.bits.toNat / 2 ^ 23 % 2 ^ 8

def fraction (v : Binary32) : ℕ := v.bits.toNat % 2 ^ 23

/-- The value without its sign, for a finite one. -/
def magnitude (v : Binary32) : ℚ :=
  if v.exponent = 0 then v.fraction / 2 ^ 149
  else (2 ^ 23 + v.fraction) * 2 ^ v.exponent / 2 ^ 150

def toExact (v : Binary32) : Exact ℚ :=
  if v.exponent < 255 then .fin (if v.negative then -v.magnitude else v.magnitude)
  else if v.fraction = 0 then .inf v.negative
  else .nan

/-- The nearest natural number, an even one on ties. -/
def roundEven (q : ℚ) : ℕ :=
  let n := ⌊q⌋₊
  if q - n < 1 / 2 ∨ q - n = 1 / 2 ∧ n % 2 = 0 then n else n + 1

/-- A sign and the bits below it. -/
def ofParts (negative : Bool) (rest : ℕ) : Binary32 :=
  ⟨UInt32.ofNat (rest + if negative then 2 ^ 31 else 0)⟩

/-- The nearest value of a positive rational number: its bits below the sign. -/
def roundBits (q : ℚ) : ℕ :=
  let exponent := max (Int.log 2 q) (-126)
  let units := roundEven (q / (2 : ℚ) ^ (exponent - 23))
  min ((exponent + 126).toNat * 2 ^ 23 + units) (255 * 2 ^ 23)

/-- The nearest value; `zeroNegative` is the sign of a zero. -/
def ofExact (zeroNegative : Bool) : Exact ℚ → Binary32
  | .fin q =>
    if q = 0 then ofParts zeroNegative 0 else ofParts (decide (q < 0)) (roundBits |q|)
  | .inf negative => ofParts negative (255 * 2 ^ 23)
  | .nan => ofParts false (255 * 2 ^ 23 + 2 ^ 22)

/-- A square root with more bits than the format has, and half a unit of it where it is not exact,
so that rounding it rounds the square root. -/
def wideSqrt (q : ℚ) : ℚ :=
  let scaled := ⌊q * 4 ^ 200⌋₊
  let root := Nat.sqrt scaled
  (if root * root = scaled then (root : ℚ) else root + 1 / 2) / 2 ^ 200

protected def sqrt (v : Binary32) : Binary32 :=
  match v.toExact with
  | .fin q => if q < 0 then ofExact false .nan else ofExact v.negative (.fin (wideSqrt q))
  | .inf false => v
  | _ => ofExact false .nan

instance : LE Binary32 := ⟨fun a b => a.toExact ≤ b.toExact⟩
instance : LT Binary32 := ⟨fun a b => a.toExact < b.toExact⟩
instance : DecidableLE Binary32 := fun a b => inferInstanceAs (Decidable (a.toExact ≤ b.toExact))
instance : DecidableLT Binary32 := fun a b => inferInstanceAs (Decidable (a.toExact < b.toExact))

protected def neg (v : Binary32) : Binary32 := ⟨v.bits ^^^ 0x80000000⟩

protected def add (a b : Binary32) : Binary32 :=
  ofExact (a.negative && b.negative) (a.toExact + b.toExact)

instance : FloatArith Binary32 where
  zero := ⟨0⟩
  one := ⟨0x3F800000⟩
  neg := Binary32.neg
  add := Binary32.add
  sub a b := a.add b.neg
  mul a b := ofExact (a.negative != b.negative) (a.toExact * b.toExact)
  div a b :=
    match b.toExact with
    | .fin q =>
      if q = 0 then
        match a.toExact with
        | .fin p => if p = 0 then ofExact false .nan
          else ofExact false (.inf (a.negative != b.negative))
        | .inf negative => ofExact false (.inf (negative != b.negative))
        | .nan => ofExact false .nan
      else ofExact (a.negative != b.negative) (a.toExact / .fin q)
    | d => ofExact (a.negative != b.negative) (a.toExact / d)
  decidableLT := inferInstance
  decidableLE := inferInstance
  equal a b := a.toExact.le b.toExact && b.toExact.le a.toExact
  abs v := ⟨v.bits &&& 0x7FFFFFFF⟩
  sqrt := Binary32.sqrt
  isFinite v := v.exponent < 255
  infinity := ⟨0x7F800000⟩
  maximum := ⟨0x7F7FFFFF⟩
  lit q := ofExact false (.fin q)

example : ofExact false (.fin (1 / 10)) = ⟨0x3DCCCCCD⟩ := by decide +kernel

end Binary32

end PointcloudAd.Library
