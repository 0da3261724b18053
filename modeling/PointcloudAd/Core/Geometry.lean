import Mathlib.Data.Fintype.Pi
import PointcloudAd.Library.Floating

/-!
# Errors, frames and rigid transforms

The program's result type, its length units and coordinate frames, and the rigid transforms that
carry points from one frame to another. A frame identifier and a transform keep the checks of
their constructors as fields.
-/

namespace PointcloudAd

open Library

inductive ErrorCode where
  | invalidArgument | invalidInput | unsupportedFormat | ioError | registrationFailed
  | insufficientCoverage | serializationFailed | internalError
  deriving DecidableEq, Repr

inductive PipelineStage where
  | none | validate | normalize | preprocess | registration | registrationGate | transform
  | compare | coverageGate | detect | finalize | serialization
  deriving DecidableEq, Repr

/-- The context lists its entries by ascending key. -/
structure Error where
  code : ErrorCode
  stage : PipelineStage
  message : String
  context : List (String × String)
  deriving DecidableEq, Repr

abbrev Result (α : Type) : Type := Except Error α

/-- What a function of the program or of its libraries may throw. -/
inductive Exn where
  | invalidArgument (what : String)
  | exception (what : String)
  | unknown
  deriving DecidableEq, Repr

inductive LengthUnit where
  | millimeter | meter | micrometer
  deriving DecidableEq, Repr

structure Vec3 (α : Type) where
  x : α
  y : α
  z : α
  deriving DecidableEq, Repr

instance {α : Type} [Zero α] : Inhabited (Vec3 α) := ⟨0, 0, 0⟩

/-- The number of continuation bytes a lead byte announces, and its bits of the code point. -/
def utf8Lead (lead : UInt8) : Option (ℕ × UInt32) :=
  if lead ≤ 0x7F then some (0, lead.toUInt32)
  else if 0xC2 ≤ lead ∧ lead ≤ 0xDF then some (1, (lead &&& 0x1F).toUInt32)
  else if 0xE0 ≤ lead ∧ lead ≤ 0xEF then some (2, (lead &&& 0x0F).toUInt32)
  else if 0xF0 ≤ lead ∧ lead ≤ 0xF4 then some (3, (lead &&& 0x07).toUInt32)
  else none

def utf8Continuation (codePoint : UInt32) (byte : UInt8) : Option UInt32 :=
  if byte &&& 0xC0 ≠ 0x80 then none
  else some ((codePoint <<< 6) ||| (byte &&& 0x3F).toUInt32)

/-- The encodings that are longer than needed, surrogates, and what lies above Unicode. -/
def utf8Rejected (continuationCount : ℕ) (codePoint : UInt32) : Bool :=
  (continuationCount = 2 && codePoint < 0x800) || (continuationCount = 3 && codePoint < 0x10000) ||
    (0xD800 ≤ codePoint && codePoint ≤ 0xDFFF) || 0x10FFFF < codePoint

/-- The loop from byte `index`; every pass moves on by one byte at least. -/
def utf8Loop (text : List UInt8) : ℕ → ℕ → Bool
  | 0, index => text.length ≤ index
  | passes + 1, index =>
    if index < text.length then
      match utf8Lead (text.getD index 0) with
      | none => false
      | some (continuationCount, lead) =>
        if text.length ≤ index + continuationCount then false
        else
          match ((text.drop (index + 1)).take continuationCount).foldlM utf8Continuation lead with
          | none => false
          | some codePoint =>
            if utf8Rejected continuationCount codePoint then false
            else utf8Loop text passes (index + continuationCount + 1)
    else true

def isValidUtf8 (text : List UInt8) : Bool := utf8Loop text text.length 0

def geometryError (field reason : String) : Error :=
  ⟨.invalidInput, .validate, "invalid geometry contract", [("field", field), ("reason", reason)]⟩

/-- A nonempty UTF-8 name. -/
structure FrameId where
  value : List UInt8
  nonempty : value ≠ []
  utf8 : isValidUtf8 value = true
  deriving DecidableEq

def FrameId.create (value : List UInt8) : Result FrameId :=
  if hn : value = [] then .error (geometryError "frame" "must not be empty")
  else if hu : isValidUtf8 value = true then .ok ⟨value, hn, hu⟩
  else .error (geometryError "frame" "must be valid UTF-8")

@[simp] theorem FrameId.create_value (frame : FrameId) :
    FrameId.create frame.value = .ok frame := by
  simp [FrameId.create, frame.nonempty, frame.utf8]

theorem FrameId.eq_of_create {value : List UInt8} {frame : FrameId}
    (h : FrameId.create value = .ok frame) : frame.value = value := by
  unfold FrameId.create at h
  split_ifs at h with hn hu
  cases h
  rfl

section Transforms

variable {F D : Type} [FloatArith F] [FloatArith D] [Floats F D]

def millimetersPerUnit : LengthUnit → D
  | .millimeter => 1
  | .meter => lit 1000
  | .micrometer => lit (1 / 1000)

def toMillimeters (value : D) (unit : LengthUnit) : Result D :=
  if isFinite value then .ok (value * millimetersPerUnit unit)
  else .error (geometryError "length" "must be a finite number")

/-- A 4x4 matrix in row-major order. -/
abbrev Matrix4 (D : Type) : Type := Fin 16 → D

instance neZero_three : NeZero 3 := ⟨by decide⟩

instance neZero_sixteen : NeZero 16 := ⟨by decide⟩

instance neZero_four : NeZero 4 := ⟨by decide⟩

instance neZero_six : NeZero 6 := ⟨by decide⟩

/-- Entry `(row, column)` of the product of the transposed rotation block with itself. -/
def rotationDot (matrix : Matrix4 D) (row column : Fin 3) : D :=
  let entry (index : Fin 3) (k : Fin 3) : D := matrix ⟨index * 4 + k, by omega⟩
  ((0 + entry 0 row * entry 0 column) + entry 1 row * entry 1 column) +
    entry 2 row * entry 2 column

def determinant (matrix : Matrix4 D) : D :=
  matrix 0 * (matrix 5 * matrix 10 - matrix 6 * matrix 9) -
      matrix 1 * (matrix 4 * matrix 10 - matrix 6 * matrix 8) +
    matrix 2 * (matrix 4 * matrix 9 - matrix 5 * matrix 8)

/-- The checks of `RigidTransform::create`, in its order. -/
def checkRigid (matrix : Matrix4 D) (tolerance : D) : Result Unit :=
  if ¬ isFinite tolerance ∨ tolerance ≤ 0 then
    .error (geometryError "tolerance" "must be finite and positive")
  else if ∃ element, ¬ isFinite (matrix element) then
    .error (geometryError "matrix" "all elements must be finite")
  else if tolerance < abs (matrix 12) ∨ tolerance < abs (matrix 13) ∨
      tolerance < abs (matrix 14) ∨ tolerance < abs (matrix 15 - 1) then
    .error (geometryError "matrix" "last row must be [0, 0, 0, 1]")
  else if ∃ row column, tolerance <
      abs (rotationDot matrix row column - if row = column then 1 else 0) then
    .error (geometryError "matrix" "rotation must be orthonormal")
  else if tolerance < abs (determinant matrix - 1) then
    .error (geometryError "matrix" "rotation determinant must be +1")
  else .ok ()

/-- A transform from its source frame to its target frame, in millimetres, that passed the checks
at some tolerance. -/
structure RigidTransform (D : Type) [FloatArith D] where
  matrix : Matrix4 D
  sourceFrame : FrameId
  targetFrame : FrameId
  checked : ∃ tolerance, checkRigid matrix tolerance = .ok ()

@[ext] theorem RigidTransform.ext {a b : RigidTransform D} (hm : a.matrix = b.matrix)
    (hs : a.sourceFrame = b.sourceFrame) (ht : a.targetFrame = b.targetFrame) : a = b := by
  cases a
  cases b
  simp_all

instance [DecidableEq D] : DecidableEq (RigidTransform D) := fun a b =>
  decidable_of_iff (a.matrix = b.matrix ∧ a.sourceFrame = b.sourceFrame ∧
    a.targetFrame = b.targetFrame)
    ⟨fun h => RigidTransform.ext h.1 h.2.1 h.2.2, fun h => by simp [h]⟩

def RigidTransform.create (matrix : Matrix4 D) (sourceFrame targetFrame : FrameId)
    (tolerance : D) : Result (RigidTransform D) :=
  match h : checkRigid matrix tolerance with
  | .ok () => .ok ⟨matrix, sourceFrame, targetFrame, tolerance, h⟩
  | .error e => .error e

theorem RigidTransform.eq_of_create {matrix : Matrix4 D} {source target : FrameId} {tolerance : D}
    {transform : RigidTransform D}
    (h : RigidTransform.create matrix source target tolerance = .ok transform) :
    transform.matrix = matrix ∧ transform.sourceFrame = source ∧
      transform.targetFrame = target := by
  unfold RigidTransform.create at h
  split at h
  · cases h
    exact ⟨rfl, rfl, rfl⟩
  · cases h

def RigidTransform.apply (transform : RigidTransform D) (point : Vec3 D) : Vec3 D :=
  let m := transform.matrix
  ⟨m 0 * point.x + m 1 * point.y + m 2 * point.z + m 3,
    m 4 * point.x + m 5 * point.y + m 6 * point.z + m 7,
    m 8 * point.x + m 9 * point.y + m 10 * point.z + m 11⟩

end Transforms
end PointcloudAd
