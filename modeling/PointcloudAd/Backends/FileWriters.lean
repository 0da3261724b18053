import PointcloudAd.Backends.FileAdapters
import PointcloudAd.Backends.PclIoRoundTrip
import PointcloudAd.Core.Packing

/-!
# Surfaces in files

The adapters that write surfaces to files, and what is read from such a file: the samples without
padding. A file has no unit and no frame; who reads it supplies both.
-/

namespace PointcloudAd

open Library

/-- The library's saving of a cloud, binary or not, given its path and what the path holds: the
answer, negative for a failure, and what the path holds then. -/
abbrev CloudSaver : Type :=
  PointCloudFormat → String → PCLPointCloud2 → Bool → Option Bytes →
    Except Exn Bool × Option Bytes

inductive PlyEncoding where
  | binaryLittleEndian | ascii
  deriving DecidableEq, Repr

inductive PcdEncoding where
  | binary | ascii
  deriving DecidableEq, Repr

def catchWrite (format path : String) : Exn → Error
  | .invalidArgument what | .exception what =>
    ioError .ioError (format ++ " backend write failed") path what
  | .unknown => ioError .ioError (format ++ " backend write failed") path "unknown exception"

section

variable {F : Type} [FloatArith F] [FloatBits F]

/-- A write by the library, for the format and its name: the number of samples, and what the path
holds. -/
def writeCloudFile (save : CloudSaver) (format : PointCloudFormat) (name path : String)
    (surface : SurfaceView F) (binary : Bool) (before : Option Bytes) :
    Result ℕ × Option Bytes :=
  let (answer, after) := save format path (encodeCloud surface) binary before
  match answer with
  | .error exn => (.error (catchWrite name path exn), after)
  | .ok false =>
    (.error (ioError .ioError ("failed to write " ++ name ++ " file") path), after)
  | .ok true => (.ok surface.size, after)

def writePlyFile (save : CloudSaver) (path : String) (surface : SurfaceView F) (binary : Bool)
    (before : Option Bytes) : Result ℕ × Option Bytes :=
  writeCloudFile save .ply "PLY" path surface binary before

def writePcdFile (save : CloudSaver) (path : String) (surface : SurfaceView F) (binary : Bool)
    (before : Option Bytes) : Result ℕ × Option Bytes :=
  writeCloudFile save .pcd "PCD" path surface binary before

def writePly (save : CloudSaver) (path : String) (surface : SurfaceView F)
    (encoding : PlyEncoding) (before : Option Bytes) : Result ℕ × Option Bytes :=
  match validatePath "PLY" ".ply" path with
  | .error e => (.error e, before)
  | .ok path => writePlyFile save path surface (encoding = .binaryLittleEndian) before

def writePcd (save : CloudSaver) (path : String) (surface : SurfaceView F)
    (encoding : PcdEncoding) (before : Option Bytes) : Result ℕ × Option Bytes :=
  match validatePath "PCD" ".pcd" path with
  | .error e => (.error e, before)
  | .ok path => writePcdFile save path surface (encoding = .binary) before

variable {surface : SurfaceView F}

namespace SurfaceView

omit [FloatArith F] [FloatBits F] in
/-- A surface that a file keeps: no header value wraps, and a grid has more than one row. -/
structure Storable (surface : SurfaceView F) : Prop where
  encodable : surface.Encodable
  rows : ∀ grid, surface.grid = some grid → grid.height ≠ 1

end SurfaceView

namespace SurfaceView.Shaped

end SurfaceView.Shaped

/-- The library loads a cloud that it saved, all of it but its flag for dense clouds. -/
def Restores (load : CloudLoader) (save : CloudSaver) (format : PointCloudFormat) (path : String)
    (binary : Bool) (cloud : PCLPointCloud2) : Prop :=
  ∀ before after, save format path cloud binary before = (.ok true, after) →
    ∃ dense, load format path after = .ok (some { cloud with isDense := dense })

section

variable [LawfulFloatBits F] {surface : OwnedSurface F} {load : CloudLoader} {save : CloudSaver}
  {path : String} {before after : Option Bytes} {size : ℕ}

end

end

end PointcloudAd
