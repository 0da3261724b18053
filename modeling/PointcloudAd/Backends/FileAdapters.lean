import PointcloudAd.Backends.PclIo
import PointcloudAd.Core.Config

/-!
# Point cloud files

The adapters that read surfaces from files. A path is checked before the library sees it; what the
library throws, and a negative answer, become errors. Extensions are compared without case here.
-/

namespace PointcloudAd

open Library

inductive PointCloudFormat where
  | ply | pcd
  deriving DecidableEq, Repr

/-- The library's loading of a file, given its path and what the path holds; nothing for a negative
answer. -/
abbrev CloudLoader : Type :=
  PointCloudFormat → String → Option Bytes → Except Exn (Option PCLPointCloud2)

def pathError (format : String) (code : ErrorCode) (reason path : String) : Error :=
  ⟨code, .validate, "invalid " ++ format ++ " path", [("path", path), ("reason", reason)]⟩

/-- The lower case of a byte in the "C" locale. -/
def toLower (byte : UInt8) : UInt8 := if 65 ≤ byte ∧ byte ≤ 90 then byte + 32 else byte

/-- The test of `has_ply_extension` and `has_pcd_extension`. -/
def hasExtension (extension path : String) : Bool :=
  let extension := utf8 extension
  let path := utf8 path
  if path.length < extension.length then false
  else (path.drop (path.length - extension.length)).map toLower = extension.map toLower

/-- The test of both adapters, for the name and the extension of one. -/
def validatePath (format extension path : String) : Result String :=
  if path = "" then .error (pathError format .invalidArgument "must not be empty" path)
  else if 0 ∈ utf8 path then
    .error (pathError format .invalidArgument "must not contain NUL" path)
  else if ¬ hasExtension extension path then
    .error (pathError format .unsupportedFormat ("extension must be " ++ extension) path)
  else .ok path

def catchRead (format path : String) : Exn → Error
  | .invalidArgument what | .exception what =>
    ioError .ioError (format ++ " backend read failed") path what
  | .unknown => ioError .ioError (format ++ " backend read failed") path "unknown exception"

section

variable {F : Type} [FloatArith F] [FloatBits F]

def readPlyFile (load : CloudLoader) (content : Option Bytes) (path : String) (unit : LengthUnit)
    (frame : FrameId) : Decoding (OwnedSurface F) := do
  match ← Decoding.ofResult ((load .ply path content).mapError (catchRead "PLY" path)) with
  | none => throw (.failed (ioError .ioError "failed to read PLY file" path))
  | some cloud => decodeCloud cloud unit frame path "PLY"

/-- A file without points is refused before it is decoded. -/
def readPcdFile (load : CloudLoader) (content : Option Bytes) (path : String) (unit : LengthUnit)
    (frame : FrameId) : Decoding (OwnedSurface F) := do
  match ← Decoding.ofResult ((load .pcd path content).mapError (catchRead "PCD" path)) with
  | none => throw (.failed (ioError .ioError "failed to read PCD file" path))
  | some cloud =>
    if cloud.width = 0 ∨ cloud.height = 0 ∨ cloud.data = [] then
      throw (.failed (ioError .ioError "PCD file contains no readable points" path))
    else decodeCloud cloud unit frame path "PCD"

def readPly (load : CloudLoader) (content : Option Bytes) (path : String) (unit : LengthUnit)
    (frame : FrameId) : Decoding (OwnedSurface F) := do
  let path ← Decoding.ofResult (validatePath "PLY" ".ply" path)
  readPlyFile load content path unit frame

def readPcd (load : CloudLoader) (content : Option Bytes) (path : String) (unit : LengthUnit)
    (frame : FrameId) : Decoding (OwnedSurface F) := do
  let path ← Decoding.ofResult (validatePath "PCD" ".pcd" path)
  readPcdFile load content path unit frame

end

end PointcloudAd
