import PointcloudAd.Cuda.EquationAgreement
import PointcloudAd.Registration.OppositeRegistration

/-!
# The equation kernels on opposite normals

A lane's values change by the sign of a zero at most, which the tree of a block may keep and the sum
over the blocks, from a positive zero, forgets. A device that runs these kernels sees no signs.
-/

namespace PointcloudAd.Cuda

open Library Registration OppositeArithmetic

variable {F D : Type} [FloatArith F] [FloatArith D] [Floats F D]

/-- The same launch with opposite normals. -/
structure ArgumentsTurned (a b : EquationArguments F D) : Prop where
  same : b = { a with refNormals := b.refNormals, scanNormals := b.scanNormals }
  reference : Option.Rel (List.Forall₂ Opposed) a.refNormals b.refNormals
  scan : Option.Rel (List.Forall₂ Opposed) a.scanNormals b.scanNormals

omit [FloatArith F] [Floats F D] in
theorem devicePointer_turned {normals normals' : List (Vec3 D)}
    (h : List.Forall₂ Opposed normals normals') :
    Option.Rel (List.Forall₂ Opposed) (devicePointer normals) (devicePointer normals') := by
  unfold devicePointer
  by_cases hempty : normals = []
  · rw [if_pos hempty, if_pos ((opposed_nil_iff h).mpr hempty)]
    exact .none
  · rw [if_neg hempty, if_neg fun he => hempty ((opposed_nil_iff h).mp he)]
    exact .some h

theorem residentArguments_turned {reference reference' scan scan' : ValidatedCloud D}
    (hr : CloudsTurned reference reference') (hs : CloudsTurned scan scan')
    (parameters : RegistrationParameters D) (referenceCovariances scanCovariances : List (Mat3 D))
    (pose : Matrix4 D) (neighbors : List ℤ) (finalMetrics : Bool) :
    ArgumentsTurned
      (residentArguments F parameters reference scan referenceCovariances scanCovariances pose
        neighbors finalMetrics)
      (residentArguments F parameters reference' scan' referenceCovariances scanCovariances pose
        neighbors finalMetrics) := by
  refine ⟨?_, devicePointer_turned hr.normals, devicePointer_turned hs.normals⟩
  unfold residentArguments searchPoints
  rw [hr.points, hs.points]

/-- Values that differ in the signs of zeros at most. -/
def SameValues (values values' : Fin 45 → D) : Prop := ∀ j, SameValue (values j) (values' j)

section

omit [FloatArith F] [Floats F D]

theorem SameValues.refl (values : Fin 45 → D) : SameValues values values := fun _ => .refl _

theorem SameValues.ite {p q : Prop} [Decidable p] [Decidable q] (hpq : p ↔ q)
    {x x' y y' : Fin 45 → D} (hx : SameValues x x') (hy : SameValues y y') :
    SameValues (if p then x else y) (if q then x' else y') := by
  by_cases hp : p
  · rw [if_pos hp, if_pos (hpq.mp hp)]
    exact hx
  · rw [if_neg hp, if_neg fun hq => hp (hpq.mpr hq)]
    exact hy

theorem laneValues_same {matrix matrix' : Mat6 D} {gradient gradient' : Vec6 D}
    (hmatrix : ∀ row col, SameValue (matrix row col) (matrix' row col))
    (hgradient : ∀ row, SameValue (gradient row) (gradient' row)) (residual count invalid : D) :
    SameValues (laneValues matrix gradient residual count invalid)
      (laneValues matrix' gradient' residual count invalid) := by
  intro j
  unfold laneValues
  split_ifs
  · exact hmatrix _ _
  · exact hgradient _
  · exact .refl _
  · exact .refl _
  · exact .refl _

end

section

variable [OppositeArithmetic D]

omit [FloatArith F] [Floats F D] in
/-- The normal of a pair enters its values in products with itself and in absolute values. -/
theorem pairValues_turned (arguments : EquationArguments F D) (information : Option (Fin 9 → D))
    (p e : Vec3 D) {n n' : Vec3 D} (h : Opposed n n') :
    SameValues (pairValues arguments information p n e)
      (pairValues arguments information p n' e) := by
  have hresidual : Opposite (e.x * n.x + e.y * n.y + e.z * n.z)
      (e.x * n'.x + e.y * n'.y + e.z * n'.z) := Opposed.dot_right h e
  have hjacobian := planeJacobian_turned h p
  have hplane : ∀ weight residual : D, SameValues
      (laneValues (fun row col => (weight * planeJacobian p n row) * planeJacobian p n col)
        (fun row => (weight * (-(e.x * n.x + e.y * n.y + e.z * n.z))) * planeJacobian p n row)
        residual 1 0)
      (laneValues (fun row col => (weight * planeJacobian p n' row) * planeJacobian p n' col)
        (fun row => (weight * (-(e.x * n'.x + e.y * n'.y + e.z * n'.z))) * planeJacobian p n' row)
        residual 1 0) := by
    intro weight residual
    exact laneValues_same
      (fun row col => mul_opposite (opposite_mul weight (hjacobian row)) (hjacobian col))
      (fun row => mul_opposite (opposite_mul weight hresidual.neg) (hjacobian row)) residual 1 0
  unfold pairValues
  by_cases hmethod : arguments.plane = true
  · simp only [hmethod, if_true, square_opposite hresidual, abs_opposite hresidual]
    split_ifs
    · exact .refl _
    · exact hplane _ _
    · exact hplane _ _
  · simp only [hmethod]
    exact .refl _

omit [FloatArith F] [Floats F D] in
theorem elim_turned {x y : Option (List (Vec3 D))} (h : Option.Rel (List.Forall₂ Opposed) x y)
    {f : Vec3 D → Vec3 D} (hf : ∀ {v w}, Opposed v w → Opposed (f v) (f w)) (i : ℕ) :
    Opposed (x.elim default fun normals => f (normals.getD i default))
      (y.elim default fun normals => f (normals.getD i default)) := by
  cases h with
  | none => exact opposed_default
  | some hn => exact hf (forall₂_getD hn opposed_default i)

omit [FloatArith F] [Floats F D] [OppositeArithmetic D] in
theorem isNone_turned {x y : Option (List (Vec3 D))}
    (h : Option.Rel (List.Forall₂ Opposed) x y) : y.isNone = x.isNone := by
  cases h <;> rfl

theorem pointValues_turned {a b : EquationArguments F D} (h : ArgumentsTurned a b) (i : ℕ) :
    SameValues (pointValues a i) (pointValues b i) := by
  obtain ⟨hsame, hreference, hscan⟩ := h
  generalize b.refNormals = reference at hsame hreference
  generalize b.scanNormals = scan at hsame hscan
  subst hsame
  have hn := elim_turned hreference (f := id) id (a.indices.getD i 0).toNat
  have hsn := elim_turned hscan (fun h => h.applied a.pose) i
  have hfacing := (hsn.dot_same hn).le_iff (c := 0)
  have hpair := pairValues_turned a (pairInformation a i (a.indices.getD i 0).toNat)
  unfold pointValues
  dsimp only
  refine .ite Iff.rfl (.refl _) (.ite Iff.rfl (.refl _) (.ite Iff.rfl (.refl _) ?_))
  refine .ite (not_congr ?_) (.refl _) (hpair _ _ hn)
  rw [isNone_turned hscan, isNone_turned hreference]
  exact or_congr_right (or_congr_right hfacing)

omit [FloatArith F] [Floats F D] in
theorem mergeEquations_turned {blocks blocks' : List (Fin 45 → D)}
    (h : List.Forall₂ SameValues blocks blocks') :
    mergeEquations blocks' = mergeEquations blocks := by
  funext entry
  unfold mergeEquations
  have hsum : ∀ sum : D, Steady sum → blocks'.foldl (fun sum block => sum + block entry) sum =
      blocks.foldl (fun sum block => sum + block entry) sum := by
    induction h with
    | nil => exact fun _ _ => rfl
    | cons hblock _ ih =>
      intro sum hsteady
      rw [List.foldl_cons, List.foldl_cons, ← steady_add hsteady (hblock entry)]
      exact ih _ (add_steady _ hsteady)
  exact hsum 0 zero_steady

theorem equationPacket_turned {a b : EquationArguments F D} (h : ArgumentsTurned a b) :
    equationPacket b = equationPacket a := by
  have hcount : b.count = a.count := by rw [h.same]
  unfold equationPacket
  rw [hcount]
  refine mergeEquations_turned ?_
  rw [List.forall₂_map_left_iff, List.forall₂_map_right_iff]
  refine List.forall₂_same.mpr fun block _ => ?_
  exact treeReduce_related (fun hx hy j => same_add (hx j) (hy j)) _
    (fun lane => pointValues_turned h _) 0

theorem residentArguments_packet {reference reference' scan scan' : ValidatedCloud D}
    (hr : CloudsTurned reference reference') (hs : CloudsTurned scan scan')
    (parameters : RegistrationParameters D) (referenceCovariances scanCovariances : List (Mat3 D))
    (pose : Matrix4 D) (neighbors : List ℤ) (finalMetrics : Bool) :
    equationPacket (residentArguments F parameters reference' scan' referenceCovariances
        scanCovariances pose neighbors finalMetrics) =
      equationPacket (residentArguments F parameters reference scan referenceCovariances
        scanCovariances pose neighbors finalMetrics) :=
  equationPacket_turned (residentArguments_turned hr hs parameters referenceCovariances
    scanCovariances pose neighbors finalMetrics)

end

end PointcloudAd.Cuda
