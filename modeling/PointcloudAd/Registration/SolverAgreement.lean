import PointcloudAd.Library.ActionInvariants
import PointcloudAd.Library.ExactAlgebra
import PointcloudAd.Registration.Solver

/-!
# Evaluators that agree where the solver goes

Two evaluators over reused state give one alignment when their passes end alike at every pose the
solver can reach. Without rounding, a solver that starts from a rigid pose reaches finite poses
only.
-/

namespace PointcloudAd.Registration

open Library

section

variable {F D σ τ : Type} [FloatArith F] [FloatArith D] [Floats F D]

/-- From states with the properties, the passes end alike at the poses that fit. -/
structure Evaluator.AgreesOn (P : σ → Prop) (Q : τ → Prop) (Fit : Matrix4 D → Prop)
    (E : Evaluator σ D) (E' : Evaluator τ D) : Prop where
  equations : ∀ pose, Fit pose →
    Action.RelatedFrom P Q Eq (E.equations pose) (E'.equations pose)
  metrics : ∀ pose, Fit pose → Action.RelatedFrom P Q Eq (E.metrics pose) (E'.metrics pose)

variable {P : σ → Prop} {Q : τ → Prop} {Fit : Matrix4 D → Prop} {E : Evaluator σ D}
  {E' : Evaluator τ D}

theorem solve_agreesOn (h : E.AgreesOn P Q Fit E') (eigen : Eigen D)
    (parameters : RegistrationParameters D)
    (hfit : ∀ iteration state equations, Fit state.current →
      Fit (solverStep F eigen parameters iteration state equations).1.current) :
    ∀ (remaining iteration : ℕ) (state : SolverState D), Fit state.current →
      Action.RelatedFrom P Q Eq (solve F E eigen parameters iteration remaining state)
        (solve F E' eigen parameters iteration remaining state)
  | 0, _, _, _ => .pure rfl
  | remaining + 1, iteration, state, hstate => by
    refine (h.equations state.current hstate).bind ?_
    rintro equations _ rfl
    refine (Action.RelatedFrom.emit equations).bind fun _ _ _ => ?_
    dsimp only
    split_ifs
    · exact .pure rfl
    · exact solve_agreesOn h eigen parameters hfit remaining (iteration + 1) _
        (hfit iteration state equations hstate)

/-- An alignment passes over fitting poses, and measures a final pose that is rigid. -/
theorem alignWith_agreesOn (h : E.AgreesOn P Q Fit E') (eigen : Eigen D)
    (parameters : RegistrationParameters D) (initial : RigidTransform D) (scanPoints : ℕ)
    (hfit : ∀ iteration state equations, Fit state.current →
      Fit (solverStep F eigen parameters iteration state equations).1.current)
    (hrigid : ∀ transform : RigidTransform D, Fit transform.matrix) :
    Action.RelatedFrom P Q Eq (alignWith F E eigen parameters initial scanPoints)
      (alignWith F E' eigen parameters initial scanPoints) := by
  refine (solve_agreesOn h eigen parameters hfit _ 0 _ (hrigid initial)).bind ?_
  rintro state _ rfl
  dsimp only
  cases hcreate : RigidTransform.create (orthonormalize state.current) initial.sourceFrame
    initial.targetFrame (lit (1 / 10 ^ 6)) with
  | error e => exact .pure rfl
  | ok validated =>
    have hmatrix := (RigidTransform.eq_of_create hcreate).1
    have hfinal : Fit (orthonormalize state.current) := hmatrix ▸ hrigid validated
    refine (h.metrics _ hfinal).bind ?_
    rintro ⟨sum, pairs⟩ _ rfl
    exact .pure rfl

end

section

variable {K : Type} [LinearOrder K] [Field K] [FieldFunctions K]

/-- A pose of numbers. -/
def FinitePose (pose : Matrix4 (Exact K)) : Prop := ∀ entry, isFinite (pose entry) = true

theorem finitePose_rigid (transform : RigidTransform (Exact K)) : FinitePose transform.matrix := by
  obtain ⟨tolerance, hchecked⟩ := transform.checked
  unfold checkRigid at hchecked
  split_ifs at hchecked with htolerance hfinite
  intro entry
  by_contra hentry
  exact hfinite ⟨entry, hentry⟩

theorem foldl_finite {ι : Type} {f : ι → Exact K} (hf : ∀ i, isFinite (f i) = true) :
    ∀ (l : List ι) {sum : Exact K}, isFinite sum = true →
      isFinite (l.foldl (fun sum i => sum + f i) sum) = true
  | [], _, h => h
  | i :: l, _, h => foldl_finite hf l (Exact.isFinite_add h (hf i))

theorem finitePose_multiply {left right : Matrix4 (Exact K)} (hleft : FinitePose left)
    (hright : FinitePose right) : FinitePose (multiply left right) :=
  fun _ => foldl_finite (fun _ => Exact.isFinite_mul (hleft _) (hright _)) _ rfl

theorem norm_finite [IsStrictOrderedRing K] {v : Vec3 (Exact K)} (hv : v.finite = true) :
    ∃ angle, norm v = .fin angle := by
  obtain ⟨x, y, z⟩ := v
  rw [Vec3.finite_iff_axes] at hv
  obtain ⟨x, rfl⟩ := Exact.isFinite_iff.mp hv.1
  obtain ⟨y, rfl⟩ := Exact.isFinite_iff.mp hv.2.1
  obtain ⟨z, rfl⟩ := Exact.isFinite_iff.mp hv.2.2
  have hnonneg : ¬ x * x + y * y + z * z < 0 :=
    not_lt.mpr (add_nonneg (add_nonneg (mul_self_nonneg x) (mul_self_nonneg y))
      (mul_self_nonneg z))
  refine ⟨FieldFunctions.sqrt (x * x + y * y + z * z), ?_⟩
  change (if x * x + y * y + z * z < 0 then Exact.nan
    else .fin (FieldFunctions.sqrt (x * x + y * y + z * z))) = _
  rw [if_neg hnonneg]

theorem finitePose_delta [IsStrictOrderedRing K] {rotation translation : Vec3 (Exact K)}
    (hrotation : rotation.finite = true) (htranslation : translation.finite = true) :
    FinitePose (deltaFromTwist (Exact K) rotation translation) := by
  obtain ⟨angle, hangle⟩ := norm_finite hrotation
  rw [Vec3.finite_iff_axes] at hrotation htranslation
  obtain ⟨x, hx⟩ := Exact.isFinite_iff.mp hrotation.1
  obtain ⟨y, hy⟩ := Exact.isFinite_iff.mp hrotation.2.1
  obtain ⟨z, hz⟩ := Exact.isFinite_iff.mp hrotation.2.2
  obtain ⟨tx, htx⟩ := Exact.isFinite_iff.mp htranslation.1
  obtain ⟨ty, hty⟩ := Exact.isFinite_iff.mp htranslation.2.1
  obtain ⟨tz, htz⟩ := Exact.isFinite_iff.mp htranslation.2.2
  unfold deltaFromTwist
  rw [hangle, hx, hy, hz, htx, hty, htz]
  dsimp only
  split_ifs with hsmall
  · intro entry
    fin_cases entry <;> rfl
  · have hlit : (lit (1 / 10 ^ 12) : Exact K) = .fin ((1 / 10 ^ 12 : ℚ) : K) := Exact.lit_eq_cast _
    have hne : angle ≠ 0 := by
      rintro rfl
      rw [hlit, Exact.fin_lt_fin] at hsmall
      exact hsmall (by exact_mod_cast (by norm_num : (0 : ℚ) < 1 / 10 ^ 12))
    rw [Exact.fin_div_fin hne, Exact.fin_div_fin hne, Exact.fin_div_fin hne]
    intro entry
    fin_cases entry <;> rfl

theorem solverStep_finite [IsStrictOrderedRing K] (eigen : Eigen (Exact K))
    (parameters : RegistrationParameters (Exact K)) (iteration : ℕ)
    (state : SolverState (Exact K)) (equations : Equations (Exact K))
    (hstate : FinitePose state.current) :
    FinitePose (solverStep (Exact K) eigen parameters iteration state equations).1.current := by
  unfold solverStep
  dsimp only
  split_ifs with _ _ _ htwist <;> try exact hstate
  all_goals
    have hfinite : ∀ entry, isFinite (eigen.solve equations.matrix equations.gradient entry) =
        true := fun entry => by_contra fun h => htwist ⟨entry, h⟩
    exact finitePose_multiply (finitePose_delta
      (Vec3.finite_iff_axes.mpr ⟨hfinite 0, hfinite 1, hfinite 2⟩)
      (Vec3.finite_iff_axes.mpr ⟨hfinite 3, hfinite 4, hfinite 5⟩)) hstate

end

end PointcloudAd.Registration
