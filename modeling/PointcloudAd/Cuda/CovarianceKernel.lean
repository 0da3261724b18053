import PointcloudAd.Cuda.EquationAgreement
import PointcloudAd.Cuda.SpatialIndex

/-!
# The covariance kernel

A thread sorts the neighbours of its point by index and adds up their scatter matrix. At most 48
plane rotations make that diagonal, and what is written keeps the eigenvectors and replaces the
eigenvalues: the least by a small one, the others by one.
-/

namespace PointcloudAd.Cuda

open Library

variable {F D : Type} [FloatArith F] [FloatArith D] [Floats F D]

/-- Moves the indices before a position up by one until the value is in its place. -/
def insertId (value : ℤ) : ℕ → List ℤ → List ℤ
  | 0, ids => ids.set 0 value
  | position + 1, ids =>
    let before := ids.getD position 0
    if value < before then insertId value position (ids.set (position + 1) before)
    else ids.set (position + 1) value

def sortIds (ids : List ℤ) : List ℤ :=
  (List.range' 1 (ids.length - 1)).foldl (fun ids j => insertId (ids.getD j 0) j ids) ids

/-- The coordinates of a point, in the wide type. -/
def wideCoordinates (p : Vec3 F) : Fin 3 → D := ![widen p.x, widen p.y, widen p.z]

def neighborMean (original : List (Vec3 F)) (ids : List ℤ) : Fin 3 → D :=
  let sum := ids.foldl
    (fun mean id axis => mean axis + wideCoordinates (referencePoint original id) axis) fun _ => 0
  fun axis => sum axis / lit ids.length

def scatter (original : List (Vec3 F)) (mean : Fin 3 → D) (ids : List ℤ) : Mat3 D :=
  ids.foldl
    (fun matrix id =>
      let delta axis := wideCoordinates (referencePoint original id) axis - mean axis
      fun r c => matrix r c + delta r * delta c)
    fun _ _ => 0

structure JacobiState (D : Type) where
  matrix : Mat3 D
  vectors : Mat3 D

/-- The rotations start from the unit vectors. -/
def jacobiStart (matrix : Mat3 D) : JacobiState D := ⟨matrix, fun r c => if r = c then 1 else 0⟩

def setEntry (matrix : Mat3 D) (r c : Fin 3) (value : D) : Mat3 D :=
  Function.update matrix r (Function.update (matrix r) c value)

/-- The place above the diagonal of the greatest magnitude, the first one on ties. -/
def pivotOf (matrix : Mat3 D) : Fin 3 × Fin 3 :=
  let first : Fin 3 × Fin 3 := (0, 1)
  let second := if abs (matrix first.1 first.2) < abs (matrix 0 2) then (0, 2) else first
  if abs (matrix second.1 second.2) < abs (matrix 1 2) then (1, 2) else second

/-- Whether the loop is left: nothing that counts is outside the diagonal. -/
def settled (matrix : Mat3 D) : Bool :=
  let off := matrix (pivotOf matrix).1 (pivotOf matrix).2
  decide (abs off ≤ lit (1 / 10 ^ 15) * (abs (matrix 0 0) + abs (matrix 1 1) + abs (matrix 2 2))) ||
    equal off 0

/-- The pass over the rows: a row outside the plane is turned together with its column, and the
vectors are turned in every row. -/
def turnRow (p q : Fin 3) (c sn : D) (state : JacobiState D) (r : Fin 3) : JacobiState D :=
  let matrix :=
    if r ≠ p ∧ r ≠ q then
      let rp := state.matrix r p
      let rq := state.matrix r q
      let left := setEntry (setEntry state.matrix p r (c * rp - sn * rq)) r p (c * rp - sn * rq)
      setEntry (setEntry left q r (sn * rp + c * rq)) r q (sn * rp + c * rq)
    else state.matrix
  let vp := state.vectors r p
  let vq := state.vectors r q
  ⟨matrix, setEntry (setEntry state.vectors r p (c * vp - sn * vq)) r q (sn * vp + c * vq)⟩

/-- The rotation in a plane, by the angle of the given tangent, cosine and sine. -/
def rotatePlane (p q : Fin 3) (t c sn : D) (state : JacobiState D) : JacobiState D :=
  let off := state.matrix p q
  let pp := state.matrix p p
  let qq := state.matrix q q
  let left := setEntry state.matrix p p (pp - t * off)
  let right := setEntry left q q (qq + t * off)
  let cleared := setEntry (setEntry right q p 0) p q 0
  (List.finRange 3).foldl (turnRow p q c sn) ⟨cleared, state.vectors⟩

variable (copysign : D → D → D)

/-- The cotangent of twice the angle of a rotation. -/
def doubleCotangent (matrix : Mat3 D) (p q : Fin 3) : D :=
  (matrix q q - matrix p p) / (lit 2 * matrix p q)

def tangent (tau : D) : D := copysign 1 tau / (abs tau + sqrt (1 + tau * tau))

def jacobiStep (state : JacobiState D) : JacobiState D :=
  let p := (pivotOf state.matrix).1
  let q := (pivotOf state.matrix).2
  let t := tangent copysign (doubleCotangent state.matrix p q)
  let c := 1 / sqrt (1 + t * t)
  rotatePlane p q t c (t * c) state

def jacobiLoop : ℕ → JacobiState D → JacobiState D
  | 0, state => state
  | passes + 1, state =>
    if settled state.matrix then state else jacobiLoop passes (jacobiStep copysign state)

def jacobiPasses : ℕ := 48

/-- The states of the loop, with the rotations made so far. -/
inductive JacobiReached (start : JacobiState D) : ℕ → JacobiState D → Prop
  | start : JacobiReached start 0 start
  | step {made : ℕ} {state : JacobiState D} (hreached : JacobiReached start made state)
      (hpasses : made < jacobiPasses) (hsettled : settled state.matrix = false) :
      JacobiReached start (made + 1) (jacobiStep copysign state)

/-- Moves the axis at a position down while its diagonal entry is below the one before it. -/
def sinkAxis (matrix : Mat3 D) : ℕ → List (Fin 3) → List (Fin 3)
  | 0, order => order
  | x + 1, order =>
    let axis := order.getD (x + 1) 0
    let before := order.getD x 0
    if matrix axis axis < matrix before before then
      sinkAxis matrix x ((order.set (x + 1) before).set x axis)
    else order

def axisOrder (matrix : Mat3 D) : List (Fin 3) :=
  [1, 2].foldl (fun order j => sinkAxis matrix j order) [0, 1, 2]

/-- Weighs one axis by the regularization and all others by one. -/
def regularized (epsilon : D) (vectors : Mat3 D) (axis : Fin 3) : Mat3 D := fun r c =>
  (if r = c then 1 else 0) + (epsilon - 1) * vectors r axis * vectors c axis

/-- Where the rotations of a thread start. -/
def covarianceStart (original : List (Vec3 F)) (ids : List ℤ) : JacobiState D :=
  jacobiStart (scatter original (neighborMean original (sortIds ids)) (sortIds ids))

/-- Where the loop of a thread ends. -/
def covarianceFinal (original : List (Vec3 F)) (ids : List ℤ) : JacobiState D :=
  jacobiLoop copysign jacobiPasses (covarianceStart original ids)

/-- What a thread writes for its neighbours, `none` where it marks the output as invalid. -/
def covarianceThread (original : List (Vec3 F)) (epsilon : D) (ids : List ℤ) :
    Option (Covariance D) :=
  let final := covarianceFinal copysign original ids
  let order := axisOrder final.matrix
  let middle := order.getD 1 0
  if ¬ isFinite (final.matrix 0 0) ∨ ¬ isFinite (final.matrix 1 1) ∨
      ¬ isFinite (final.matrix 2 2) ∨ final.matrix middle middle ≤ lit (1 / 10 ^ 12) then none
  else some (flatten3 (regularized epsilon final.vectors (order.getD 0 0)))

/-- The part of the neighbour array that a thread owns. -/
def threadIds (neighbors : List ℤ) (k i : ℕ) : List ℤ := (neighbors.drop (i * k)).take k

/-- One thread: it writes its covariance, or sets the flag. -/
def covarianceWrite (original : List (Vec3 F)) (neighbors : List ℤ) (offset k : ℕ) (epsilon : D)
    (memory : List (Covariance D) × Bool) (i : ℕ) : List (Covariance D) × Bool :=
  match covarianceThread copysign original epsilon (threadIds neighbors k i) with
  | none => (memory.1, true)
  | some result => (memory.1.set (offset + i) result, memory.2)

/-- The threads write to different places, so that their order is of no effect. -/
def covarianceKernel (original : List (Vec3 F)) (neighbors : List ℤ) (offset count k : ℕ)
    (epsilon : D) (memory : List (Covariance D) × Bool) : List (Covariance D) × Bool :=
  (List.range count).foldl (covarianceWrite copysign original neighbors offset k epsilon) memory

end PointcloudAd.Cuda
