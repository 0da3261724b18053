import PointcloudAd.Core.Surface
import PointcloudAd.Library.Binary32
import PointcloudAd.Library.Bytes
import PointcloudAd.Library.Faulty

/-!
# Point clouds in storage

A cloud names its fields and where they lie in the bytes of a point. Decoding looks its fields up
by name, checks them, and reads them point by point. A read of a field that is not there, or one
that leaves the storage, ends the run with no defined result; every read is logged.
-/

namespace PointcloudAd

open Library

structure PCLPointField where
  name : String
  offset : UInt32
  datatype : UInt8
  count : UInt32
  deriving DecidableEq, Repr

namespace PCLPointField

def typeUint8 : UInt8 := 2

def typeFloat32 : UInt8 := 7

/-- The bytes of a value of a type. -/
def typeSize : UInt8 → ℕ
  | 1 | 2 | 11 => 1
  | 3 | 4 => 2
  | 5 | 6 | 7 => 4
  | 8 | 9 | 10 => 8
  | _ => 0

end PCLPointField

structure PCLPointCloud2 where
  height : UInt32
  width : UInt32
  fields : List PCLPointField
  pointStep : UInt32
  rowStep : UInt32
  data : List UInt8
  isDense : Bool
  deriving DecidableEq, Repr

def ioError (code : ErrorCode) (message : String) (path : String) (reason : String := "") : Error :=
  ⟨code, .none, message, [("path", path)] ++ if reason = "" then [] else [("reason", reason)]⟩

def findField (cloud : PCLPointCloud2) (name : String) : Option PCLPointField :=
  cloud.fields.find? fun field => field.name = name

def isFloatScalar (field : Option PCLPointField) : Bool :=
  field.any fun field => field.count = 1 && field.datatype = PCLPointField.typeFloat32

/-- The storage of a sample, in 64-bit arithmetic. -/
def storageOffset (cloud : PCLPointCloud2) (logicalIndex : ℕ) : ℕ :=
  let row := logicalIndex / cloud.width.toNat
  let column := logicalIndex % cloud.width.toNat
  (row * cloud.rowStep.toNat + column * cloud.pointStep.toNat) % 2 ^ 64

/-- The three fields of a vector. -/
def coordinateNames : List String := ["x", "y", "z"]

def normalNames : List String := ["normal_x", "normal_y", "normal_z"]

/-- The mask is one byte where there is one. -/
def maskAccepted (cloud : PCLPointCloud2) : Bool :=
  (findField cloud "valid").all fun field =>
    field.count = 1 && field.datatype = PCLPointField.typeUint8

/-- The bytes from the first point of a row to the end of its last one. -/
def minimumRowStep (cloud : PCLPointCloud2) : ℕ :=
  cloud.width.toNat * cloud.pointStep.toNat

def minimumStorage (cloud : PCLPointCloud2) : ℕ :=
  if cloud.height = 0 then 0
  else ((cloud.height.toNat - 1) * cloud.rowStep.toNat + minimumRowStep cloud) % 2 ^ 64

def validateFields (cloud : PCLPointCloud2) (path format : String) : Result ℕ :=
  let floats (names : List String) := names.map fun name => isFloatScalar (findField cloud name)
  if ¬ (floats coordinateNames).all id then
    .error (ioError .unsupportedFormat (format ++ " requires float32 XYZ fields") path)
  else if (floats normalNames).any id ∧ ¬ (floats normalNames).all id then
    .error (ioError .unsupportedFormat
      (format ++ " normal fields must be complete float32 triples") path)
  else if ¬ maskAccepted cloud then
    .error (ioError .unsupportedFormat (format ++ " valid field must be uint8") path)
  else
    let count := cloud.width.toNat * cloud.height.toNat
    if count = 0 ∨ cloud.pointStep = 0 ∨ cloud.rowStep.toNat < minimumRowStep cloud ∨
        cloud.data.length < minimumStorage cloud then
      .error (ioError .invalidInput (format ++ " contains inconsistent point storage") path)
    else .ok count

/-- Why a decoding ends without a surface: with an error, or outside what the language defines. -/
inductive DecodeStop where
  | failed (error : Error)
  | undefined
  deriving DecidableEq, Repr

/-- A read: the field's pointer, which may be null, the type it is read as, and the sample. -/
structure FieldRead where
  field : Option PCLPointField
  datatype : UInt8
  index : ℕ
  deriving DecidableEq, Repr

/-- A decoding returns the reads it performed, whether it succeeds or not. -/
abbrev Decoding : Type → Type := Faulty DecodeStop (List FieldRead)

def Decoding.ofResult {α : Type} (result : Result α) : Decoding α :=
  Faulty.ofExcept (result.mapError .failed)

def readField (cloud : PCLPointCloud2) (index : ℕ) (field : Option PCLPointField)
    (datatype : UInt8) : Decoding (List UInt8) := do
  modify fun log => log ++ [⟨field, datatype, index⟩]
  match field with
  | none => throw .undefined
  | some field =>
    let offset := (storageOffset cloud index + field.offset.toNat) % 2 ^ 64
    let size := PCLPointField.typeSize datatype
    if offset + size ≤ cloud.data.length then return readAt cloud.data offset size
    else throw .undefined

section

variable {F : Type} [FloatBits F]

def readFloat (cloud : PCLPointCloud2) (index : ℕ) (field : Option PCLPointField) : Decoding F := do
  let bytes ← readField cloud index field PCLPointField.typeFloat32
  return FloatBits.ofBits (wordOfBytes bytes)

def readVector (cloud : PCLPointCloud2) (index : ℕ) (x y z : Option PCLPointField) :
    Decoding (Vec3 F) := do
  let x ← readFloat cloud index x
  let y ← readFloat cloud index y
  let z ← readFloat cloud index z
  return ⟨x, y, z⟩

end

def readByte (cloud : PCLPointCloud2) (index : ℕ) (field : Option PCLPointField) :
    Decoding UInt8 := do
  let bytes ← readField cloud index field PCLPointField.typeUint8
  return bytes.headD 0

/-- What is read of one point. -/
structure DecodedPoint (F : Type) where
  point : Vec3 F
  normal : Option (Vec3 F)
  mask : UInt8
  finite : Bool

section

variable {F : Type} [FloatBits F]

def decodeNormal (cloud : PCLPointCloud2) (index : ℕ) : Decoding (Option (Vec3 F)) :=
  if (findField cloud "normal_x").isSome then
    some <$> readVector cloud index (findField cloud "normal_x") (findField cloud "normal_y")
      (findField cloud "normal_z")
  else return none

variable [FloatArith F]

def checkMask (path format : String) (mask : UInt8) (finite : Bool) : Result Unit :=
  if 1 < mask then .error (ioError .invalidInput (format ++ " valid values must be 0 or 1") path)
  else if mask = 1 ∧ ¬ finite then
    .error (ioError .invalidInput (format ++ " marks a non-finite sample as valid") path)
  else .ok ()

/-- The mask of a point: read and checked where the cloud has one, derived otherwise. -/
def decodeMask (cloud : PCLPointCloud2) (path format : String) (index : ℕ) (finite : Bool) :
    Decoding UInt8 :=
  if (findField cloud "valid").isSome then do
    let mask ← readByte cloud index (findField cloud "valid")
    Decoding.ofResult (checkMask path format mask finite)
    return mask
  else return if finite then 1 else 0

def decodePoint (cloud : PCLPointCloud2) (path format : String) (index : ℕ) :
    Decoding (DecodedPoint F) := do
  let point ← readVector cloud index (findField cloud "x") (findField cloud "y")
    (findField cloud "z")
  let normal ← decodeNormal cloud index
  let finite := point.finite && normal.all Vec3.finite
  let mask ← decodeMask cloud path format index finite
  return ⟨point, normal, mask, finite⟩

/-- The surface of the decoded points. A mask that was not read is kept only where it excludes a
point. -/
def decodedSurface (cloud : PCLPointCloud2) (unit : LengthUnit) (frame : FrameId)
    (decoded : List (DecodedPoint F)) : Result (OwnedSurface F) :=
  let mask :=
    if (findField cloud "valid").isSome ∨ ∃ d ∈ decoded, ¬ d.finite then
      decoded.map DecodedPoint.mask
    else []
  let grid := if 1 < cloud.height then some ⟨cloud.width, cloud.height, cloud.width⟩ else none
  OwnedSurface.create (decoded.map DecodedPoint.point) (decoded.filterMap DecodedPoint.normal) mask
    grid unit frame

def decodeCloud (cloud : PCLPointCloud2) (unit : LengthUnit) (frame : FrameId)
    (path format : String) : Decoding (OwnedSurface F) := do
  let count ← Decoding.ofResult (validateFields cloud path format)
  let decoded ← (List.range count).mapM (decodePoint cloud path format)
  Decoding.ofResult (decodedSurface cloud unit frame decoded)

end

end PointcloudAd
