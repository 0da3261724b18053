import PointcloudAd.Backends.Host
import PointcloudAd.Core.Surface
import PointcloudAd.Library.UnionFind

/-!
# Euclidean clustering on PCL

Labels of some candidates of a surface: two candidates share a label when radius searches among
the candidates connect them. Labels are numbered by their first candidate.
-/

namespace PointcloudAd

open Library

variable {F D : Type} [FloatArith F] [FloatArith D]

def clusterError (reason : String) : Error :=
  ⟨.internalError, .detect, "PCL Euclidean clustering failed", [("reason", reason)]⟩

def catchCluster : Exn → Error
  | .invalidArgument what | .exception what => clusterError what
  | .unknown => clusterError "unknown backend exception"

def candidateCloud (surface : SurfaceView F) (candidates : List ℕ) : List (Vec3 F) :=
  candidates.map fun index => surface.points.getD index default

/-- The neighbours of a candidate among the candidates. -/
def candidateNeighbors (pcl : Pcl F D) (cloud : List (Vec3 F)) (tolerance : D) (candidate : ℕ) :
    Except Exn (List ℤ) :=
  (pcl.radiusSearch cloud (cloud.getD candidate default) tolerance).map (List.map Prod.fst)

/-- The search of a candidate, and the unions of its answer. An index outside the cloud, which the
source does not guard against, is taken to be the library's fault. -/
def uniteCandidate (pcl : Pcl F D) (cloud : List (Vec3 F)) (tolerance : D) (sets : UnionFind)
    (candidate : ℕ) : Except Exn UnionFind := do
  let neighbors ← candidateNeighbors pcl cloud tolerance candidate
  return neighbors.foldl (fun sets neighbor => sets.unite candidate neighbor.toNat) sets

def uniteNeighbors (pcl : Pcl F D) (cloud : List (Vec3 F)) (tolerance : D) :
    Except Exn UnionFind :=
  (List.range cloud.length).foldlM (uniteCandidate pcl cloud tolerance)
    (UnionFind.create cloud.length)

/-- The loop that labels the candidates. The map from roots to labels is the list of its roots, in
the order of their labels. -/
structure LabelState where
  sets : UnionFind
  roots : List ℕ
  labels : List ℤ

def labelCandidate (state : LabelState) (candidate : ℕ) : LabelState :=
  let (root, sets) := state.sets.find candidate
  let roots := if root ∈ state.roots then state.roots else state.roots ++ [root]
  ⟨sets, roots, state.labels ++ [(roots.idxOf root : ℤ)]⟩

def assignLabels (sets : UnionFind) (size : ℕ) : List ℤ :=
  ((List.range size).foldl labelCandidate ⟨sets, [], []⟩).labels

def euclideanCluster (pcl : Pcl F D) (surface : SurfaceView F) (candidates : List ℕ)
    (tolerance : D) : Result (List ℤ) :=
  if ¬ isFinite tolerance ∨ tolerance ≤ 0 then
    .error (clusterError "cluster tolerance must be finite and positive")
  else if candidates = [] then .ok []
  else
    let cloud := candidateCloud surface candidates
    ((uniteNeighbors pcl cloud tolerance).map fun sets => assignLabels sets cloud.length).mapError
      catchCluster

end PointcloudAd
