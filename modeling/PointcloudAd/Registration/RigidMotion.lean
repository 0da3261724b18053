import Mathlib.LinearAlgebra.Matrix.NonsingularInverse
import PointcloudAd.Library.RealArithmetic
import PointcloudAd.Registration.Prepared
import PointcloudAd.Registration.SolverRuns

/-!
# Rigid motions over the real numbers

What the increments of a registration do to a pose. An increment need not be a rotation, since the
one for a tiny angle is not, but it never collapses a direction, so that the columns of a pose can
be made orthonormal in the end.
-/

namespace PointcloudAd.Registration

open Library Matrix

noncomputable section

/-- The rotation block of a pose. -/
def block (t : Matrix4 ℝ) : Matrix (Fin 3) (Fin 3) ℝ := Matrix.of (rotationBlock t)

/-- The last row is that of a transform of points. -/
structure Affine (t : Matrix4 ℝ) : Prop where
  x : t 12 = 0
  y : t 13 = 0
  z : t 14 = 0
  one : t 15 = 1

structure Rigid (t : Matrix4 ℝ) : Prop extends Affine t where
  orthonormal : (block t)ᵀ * block t = 1
  det_eq_one : (block t).det = 1

theorem multiply_eq (a b : Matrix4 ℝ) : multiply a b =
    ![a 0 * b 0 + a 1 * b 4 + a 2 * b 8 + a 3 * b 12,
      a 0 * b 1 + a 1 * b 5 + a 2 * b 9 + a 3 * b 13,
      a 0 * b 2 + a 1 * b 6 + a 2 * b 10 + a 3 * b 14,
      a 0 * b 3 + a 1 * b 7 + a 2 * b 11 + a 3 * b 15,
      a 4 * b 0 + a 5 * b 4 + a 6 * b 8 + a 7 * b 12,
      a 4 * b 1 + a 5 * b 5 + a 6 * b 9 + a 7 * b 13,
      a 4 * b 2 + a 5 * b 6 + a 6 * b 10 + a 7 * b 14,
      a 4 * b 3 + a 5 * b 7 + a 6 * b 11 + a 7 * b 15,
      a 8 * b 0 + a 9 * b 4 + a 10 * b 8 + a 11 * b 12,
      a 8 * b 1 + a 9 * b 5 + a 10 * b 9 + a 11 * b 13,
      a 8 * b 2 + a 9 * b 6 + a 10 * b 10 + a 11 * b 14,
      a 8 * b 3 + a 9 * b 7 + a 10 * b 11 + a 11 * b 15,
      a 12 * b 0 + a 13 * b 4 + a 14 * b 8 + a 15 * b 12,
      a 12 * b 1 + a 13 * b 5 + a 14 * b 9 + a 15 * b 13,
      a 12 * b 2 + a 13 * b 6 + a 14 * b 10 + a 15 * b 14,
      a 12 * b 3 + a 13 * b 7 + a 14 * b 11 + a 15 * b 15] := by
  have hsum : ∀ x y z w : ℝ, 0 + x + y + z + w = x + y + z + w := by
    intro x y z w
    rw [zero_add]
  funext entry
  fin_cases entry <;> exact hsum _ _ _ _

theorem Affine.multiply {a b : Matrix4 ℝ} (ha : Affine a) (hb : Affine b) :
    Affine (multiply a b) := by
  rw [multiply_eq]
  constructor <;> simp [ha.x, ha.y, ha.z, ha.one, hb.x, hb.y, hb.z, hb.one]

theorem block_multiply {a b : Matrix4 ℝ} (hb : Affine b) :
    block (multiply a b) = block a * block b := by
  rw [multiply_eq]
  ext i j
  fin_cases i <;> fin_cases j <;>
    simp [block, rotationBlock, Matrix.mul_apply, Fin.sum_univ_three, hb.x, hb.y, hb.z]

theorem affine_deltaFromTwist (rotation translation : Vec3 ℝ) :
    Affine (deltaFromTwist ℝ rotation translation) := by
  unfold deltaFromTwist
  dsimp only
  split_ifs <;> exact ⟨rfl, rfl, rfl, rfl⟩

/-- The rotation about a unit axis, by the cosine and the sine of its angle. -/
def rodrigues (c s kx ky kz : ℝ) : Matrix (Fin 3) (Fin 3) ℝ :=
  !![c + (1 - c) * kx * kx, -s * kz + (1 - c) * kx * ky, s * ky + (1 - c) * kx * kz;
    s * kz + (1 - c) * ky * kx, c + (1 - c) * ky * ky, -s * kx + (1 - c) * ky * kz;
    -s * ky + (1 - c) * kz * kx, s * kx + (1 - c) * kz * ky, c + (1 - c) * kz * kz]

theorem rodrigues_orthonormal {c s kx ky kz : ℝ} (hangle : c ^ 2 + s ^ 2 = 1)
    (haxis : kx ^ 2 + ky ^ 2 + kz ^ 2 = 1) :
    (rodrigues c s kx ky kz)ᵀ * rodrigues c s kx ky kz = 1 := by
  ext i j
  rw [Matrix.mul_apply, Fin.sum_univ_three]
  fin_cases i <;> fin_cases j <;>
    simp only [rodrigues, Fin.zero_eta, Fin.mk_one, Fin.reduceFinMk, Matrix.transpose_apply,
      Matrix.of_apply, Matrix.cons_val, Matrix.one_apply_eq, ne_eq, Fin.reduceEq,
      not_false_eq_true, Matrix.one_apply_ne]
  · linear_combination (1 - kx ^ 2) * hangle + ((1 - c) ^ 2 * kx ^ 2 + s ^ 2) * haxis
  · linear_combination -(kx * ky) * hangle + (1 - c) ^ 2 * kx * ky * haxis
  · linear_combination -(kx * kz) * hangle + (1 - c) ^ 2 * kx * kz * haxis
  · linear_combination -(kx * ky) * hangle + (1 - c) ^ 2 * kx * ky * haxis
  · linear_combination (1 - ky ^ 2) * hangle + ((1 - c) ^ 2 * ky ^ 2 + s ^ 2) * haxis
  · linear_combination -(ky * kz) * hangle + (1 - c) ^ 2 * ky * kz * haxis
  · linear_combination -(kx * kz) * hangle + (1 - c) ^ 2 * kx * kz * haxis
  · linear_combination -(ky * kz) * hangle + (1 - c) ^ 2 * ky * kz * haxis
  · linear_combination (1 - kz ^ 2) * hangle + ((1 - c) ^ 2 * kz ^ 2 + s ^ 2) * haxis

theorem det_ne_zero_of_orthonormal {R : Matrix (Fin 3) (Fin 3) ℝ} (h : Rᵀ * R = 1) : R.det ≠ 0 := by
  intro hzero
  have hdet := congrArg Matrix.det h
  rw [Matrix.det_mul, hzero, mul_zero, Matrix.det_one] at hdet
  exact zero_ne_one hdet

theorem sq_norm (v : Vec3 ℝ) : norm v ^ 2 = v.x ^ 2 + v.y ^ 2 + v.z ^ 2 := by
  have hdot : dot v v = v.x ^ 2 + v.y ^ 2 + v.z ^ 2 := by
    unfold dot
    ring
  rw [norm, real_sqrt, hdot, Real.sq_sqrt (by positivity)]

/-- No increment collapses a direction. -/
theorem det_deltaFromTwist (rotation translation : Vec3 ℝ) :
    (block (deltaFromTwist ℝ rotation translation)).det ≠ 0 := by
  by_cases hsmall : norm rotation < lit (1 / 10 ^ 12)
  · have hdet : (block (deltaFromTwist ℝ rotation translation)).det =
        1 + (rotation.x ^ 2 + rotation.y ^ 2 + rotation.z ^ 2) := by
      unfold deltaFromTwist
      rw [Matrix.det_fin_three]
      simp only [hsmall, if_true, block, rotationBlock, Matrix.of_apply, Matrix.cons_val]
      ring
    rw [hdet]
    positivity
  · apply det_ne_zero_of_orthonormal
    have hangle : 0 < norm rotation := by
      have hle := not_lt.mp hsmall
      rw [real_lit] at hle
      exact lt_of_lt_of_le (by norm_num) hle
    have hblock : block (deltaFromTwist ℝ rotation translation) =
        rodrigues (Real.cos (norm rotation)) (Real.sin (norm rotation))
          (rotation.x / norm rotation) (rotation.y / norm rotation)
          (rotation.z / norm rotation) := by
      unfold deltaFromTwist
      simp only [hsmall, if_false]
      ext i j
      fin_cases i <;> fin_cases j <;> rfl
    rw [hblock]
    apply rodrigues_orthonormal (Real.cos_sq_add_sin_sq _)
    rw [div_pow, div_pow, div_pow, ← add_div, ← add_div, ← sq_norm]
    exact div_self (pow_ne_zero 2 hangle.ne')

theorem posed_nonsingular {initial : Matrix4 ℝ} (haffine : Affine initial)
    (hdet : (block initial).det ≠ 0) (twists : List (Vec3 ℝ × Vec3 ℝ)) :
    Affine (posed ℝ initial twists) ∧ (block (posed ℝ initial twists)).det ≠ 0 := by
  induction twists using List.reverseRecOn with
  | nil => exact ⟨haffine, hdet⟩
  | append_singleton twists twist ih =>
    obtain ⟨haffine, hdet⟩ := ih
    rw [posed_append]
    refine ⟨(affine_deltaFromTwist _ _).multiply haffine, ?_⟩
    rw [block_multiply haffine, Matrix.det_mul]
    exact mul_ne_zero (det_deltaFromTwist _ _) hdet

theorem norm_nonneg (v : Vec3 ℝ) : 0 ≤ norm v := Real.sqrt_nonneg _

theorem eq_zero_of_squares {a b c : ℝ} (h : a ^ 2 + b ^ 2 + c ^ 2 = 0) :
    a = 0 ∧ b = 0 ∧ c = 0 := by
  refine ⟨?_, ?_, ?_⟩ <;> nlinarith [sq_nonneg a, sq_nonneg b, sq_nonneg c]

theorem eq_zero_of_norm {v : Vec3 ℝ} (h : ¬ 0 < norm v) : v.x = 0 ∧ v.y = 0 ∧ v.z = 0 := by
  have hzero : norm v = 0 := le_antisymm (not_lt.mp h) (norm_nonneg v)
  have hsum := sq_norm v
  rw [hzero, zero_pow two_ne_zero] at hsum
  exact eq_zero_of_squares hsum.symm

theorem normalized_eq {v : Vec3 ℝ} (h : 0 < norm v) :
    normalized v = ⟨v.x / norm v, v.y / norm v, v.z / norm v⟩ := by
  unfold normalized
  simp only [h, if_true, scale]
  rw [one_div_mul_eq_div, one_div_mul_eq_div, one_div_mul_eq_div]

theorem normalized_unit {v : Vec3 ℝ} (h : 0 < norm v) :
    (normalized v).x ^ 2 + (normalized v).y ^ 2 + (normalized v).z ^ 2 = 1 := by
  rw [normalized_eq h, div_pow, div_pow, div_pow, ← add_div, ← add_div, ← sq_norm]
  exact div_self (pow_ne_zero 2 h.ne')

theorem norm_eq_one {v : Vec3 ℝ} (h : v.x ^ 2 + v.y ^ 2 + v.z ^ 2 = 1) : norm v = 1 := by
  have hsq := sq_norm v
  rw [h] at hsq
  exact (pow_eq_one_iff_of_nonneg (norm_nonneg v) two_ne_zero).mp hsq

theorem normalized_of_unit {v : Vec3 ℝ} (h : v.x ^ 2 + v.y ^ 2 + v.z ^ 2 = 1) :
    normalized v = v := by
  have hnorm := norm_eq_one h
  rw [normalized_eq (by rw [hnorm]; exact one_pos), hnorm, div_one, div_one, div_one]

/-- Two orthonormal vectors. -/
structure Orthonormal (f s : Vec3 ℝ) : Prop where
  first : f.x ^ 2 + f.y ^ 2 + f.z ^ 2 = 1
  second : s.x ^ 2 + s.y ^ 2 + s.z ^ 2 = 1
  orthogonal : f.x * s.x + f.y * s.y + f.z * s.z = 0

theorem Orthonormal.cross_unit {f s : Vec3 ℝ} (h : Orthonormal f s) :
    (cross f s).x ^ 2 + (cross f s).y ^ 2 + (cross f s).z ^ 2 = 1 := by
  unfold cross
  linear_combination (s.x ^ 2 + s.y ^ 2 + s.z ^ 2) * h.first + h.second -
    (f.x * s.x + f.y * s.y + f.z * s.z) * h.orthogonal

/-- A pose whose columns are orthonormal and the cross product of the first two is rigid. -/
theorem rigid_of_columns {t : Matrix4 ℝ} (haffine : Affine t) {f s : Vec3 ℝ} (h : Orthonormal f s)
    (hblock : block t = !![f.x, s.x, (cross f s).x; f.y, s.y, (cross f s).y;
      f.z, s.z, (cross f s).z]) : Rigid t := by
  have hcross := h.cross_unit
  refine ⟨haffine, ?_, ?_⟩
  · rw [hblock]
    ext i j
    rw [Matrix.mul_apply, Fin.sum_univ_three]
    fin_cases i <;> fin_cases j <;>
      simp only [Fin.zero_eta, Fin.mk_one, Fin.reduceFinMk, Matrix.transpose_apply,
        Matrix.of_apply, Matrix.cons_val, Matrix.one_apply_eq, ne_eq, Fin.reduceEq,
        not_false_eq_true, Matrix.one_apply_ne]
    · linear_combination h.first
    · linear_combination h.orthogonal
    · unfold cross
      ring
    · linear_combination h.orthogonal
    · linear_combination h.second
    · unfold cross
      ring
    · unfold cross
      ring
    · unfold cross
      ring
    · linear_combination hcross
  · rw [hblock, Matrix.det_fin_three]
    simp only [Matrix.of_apply, Matrix.cons_val]
    unfold cross at hcross ⊢
    linear_combination hcross

/-- The columns that the orthonormalization computes. -/
theorem orthonormalize_columns {t : Matrix4 ℝ} (hdet : (block t).det ≠ 0) :
    ∃ f s : Vec3 ℝ, Orthonormal f s ∧ orthonormalize t =
      ![f.x, s.x, (cross f s).x, t 3, f.y, s.y, (cross f s).y, t 7, f.z, s.z, (cross f s).z, t 11,
        t 12, t 13, t 14, t 15] := by
  rw [Matrix.det_fin_three] at hdet
  simp only [block, rotationBlock, Matrix.of_apply, Matrix.cons_val] at hdet
  have hfirst : 0 < norm ⟨t 0, t 4, t 8⟩ := by
    by_contra hzero
    obtain ⟨hx, hy, hz⟩ := eq_zero_of_norm hzero
    dsimp only at hx hy hz
    apply hdet
    rw [hx, hy, hz]
    ring
  set first : Vec3 ℝ := normalized ⟨t 0, t 4, t 8⟩ with hf
  have hunit := normalized_unit hfirst
  rw [← hf] at hunit
  set residual : Vec3 ℝ := sub ⟨t 1, t 5, t 9⟩ (scale (dot ⟨t 1, t 5, t 9⟩ first) first) with hr
  have hsecond : 0 < norm residual := by
    by_contra hzero
    obtain ⟨hx, hy, hz⟩ := eq_zero_of_norm hzero
    rw [hr, hf, normalized_eq hfirst] at hx hy hz
    generalize hscale : dot (⟨t 1, t 5, t 9⟩ : Vec3 ℝ)
      ⟨t 0 / norm ⟨t 0, t 4, t 8⟩, t 4 / norm ⟨t 0, t 4, t 8⟩, t 8 / norm ⟨t 0, t 4, t 8⟩⟩ =
        k at hx hy hz
    have hx : t 1 = k * (t 0 / norm ⟨t 0, t 4, t 8⟩) := sub_eq_zero.mp hx
    have hy : t 5 = k * (t 4 / norm ⟨t 0, t 4, t 8⟩) := sub_eq_zero.mp hy
    have hz : t 9 = k * (t 8 / norm ⟨t 0, t 4, t 8⟩) := sub_eq_zero.mp hz
    -- The second column is a multiple of the first.
    apply hdet
    rw [hx, hy, hz]
    ring
  have horthogonal : first.x * residual.x + first.y * residual.y + first.z * residual.z = 0 := by
    rw [hr]
    unfold sub scale dot
    dsimp only
    linear_combination -(t 1 * first.x + t 5 * first.y + t 9 * first.z) * hunit
  have horthonormal : Orthonormal first (normalized residual) := by
    refine ⟨hunit, normalized_unit hsecond, ?_⟩
    rw [normalized_eq hsecond]
    dsimp only
    rw [mul_div_assoc', mul_div_assoc', mul_div_assoc', ← add_div, ← add_div, horthogonal, zero_div]
  refine ⟨first, normalized residual, horthonormal, ?_⟩
  unfold orthonormalize
  rw [← normalized_of_unit horthonormal.cross_unit]

theorem rigid_orthonormalize {t : Matrix4 ℝ} (haffine : Affine t) (hdet : (block t).det ≠ 0) :
    Rigid (orthonormalize t) ∧ orthonormalize t 3 = t 3 ∧ orthonormalize t 7 = t 7 ∧
      orthonormalize t 11 = t 11 := by
  obtain ⟨f, s, horthonormal, hcolumns⟩ := orthonormalize_columns hdet
  rw [hcolumns]
  refine ⟨rigid_of_columns ⟨haffine.x, haffine.y, haffine.z, haffine.one⟩ horthonormal ?_, rfl,
    rfl, rfl⟩
  ext i j
  fin_cases i <;> fin_cases j <;> rfl

/-- The first two columns of a rigid pose are orthonormal, and the third is their cross product. -/
theorem Rigid.columns {t : Matrix4 ℝ} (h : Rigid t) :
    Orthonormal ⟨t 0, t 4, t 8⟩ ⟨t 1, t 5, t 9⟩ ∧
      cross ⟨t 0, t 4, t 8⟩ ⟨t 1, t 5, t 9⟩ = ⟨t 2, t 6, t 10⟩ := by
  have hentry : ∀ i j, block t 0 i * block t 0 j + block t 1 i * block t 1 j +
      block t 2 i * block t 2 j = (1 : Matrix (Fin 3) (Fin 3) ℝ) i j := by
    intro i j
    rw [← h.orthonormal, Matrix.mul_apply, Fin.sum_univ_three]
    rfl
  have hone : t 0 * t 0 + t 4 * t 4 + t 8 * t 8 = 1 := hentry 0 0
  have htwo : t 1 * t 1 + t 5 * t 5 + t 9 * t 9 = 1 := hentry 1 1
  have hthree : t 2 * t 2 + t 6 * t 6 + t 10 * t 10 = 1 := hentry 2 2
  have hcross : t 0 * t 1 + t 4 * t 5 + t 8 * t 9 = 0 := hentry 0 1
  have horthonormal : Orthonormal ⟨t 0, t 4, t 8⟩ ⟨t 1, t 5, t 9⟩ :=
    ⟨by linear_combination hone, by linear_combination htwo, hcross⟩
  refine ⟨horthonormal, ?_⟩
  have hunit := horthonormal.cross_unit
  have hdet := h.det_eq_one
  rw [Matrix.det_fin_three] at hdet
  simp only [block, rotationBlock, Matrix.of_apply, Matrix.cons_val] at hdet
  unfold cross at hunit ⊢
  dsimp only at hunit ⊢
  -- Two unit vectors whose product is one are the same.
  have hdistance : (t 4 * t 9 - t 8 * t 5 - t 2) ^ 2 + (t 8 * t 1 - t 0 * t 9 - t 6) ^ 2 +
      (t 0 * t 5 - t 4 * t 1 - t 10) ^ 2 = 0 := by
    linear_combination hunit + hthree - 2 * hdet
  obtain ⟨hx, hy, hz⟩ := eq_zero_of_squares hdistance
  rw [sub_eq_zero.mp hx, sub_eq_zero.mp hy, sub_eq_zero.mp hz]

theorem orthonormalize_rigid {t : Matrix4 ℝ} (h : Rigid t) : orthonormalize t = t := by
  obtain ⟨horthonormal, hcross⟩ := h.columns
  have hfirst : normalized ⟨t 0, t 4, t 8⟩ = ⟨t 0, t 4, t 8⟩ :=
    normalized_of_unit horthonormal.first
  have hresidual : sub ⟨t 1, t 5, t 9⟩ (scale (dot ⟨t 1, t 5, t 9⟩ ⟨t 0, t 4, t 8⟩)
      ⟨t 0, t 4, t 8⟩) = ⟨t 1, t 5, t 9⟩ := by
    have hdot : dot (⟨t 1, t 5, t 9⟩ : Vec3 ℝ) ⟨t 0, t 4, t 8⟩ = 0 := by
      have horthogonal := horthonormal.orthogonal
      unfold dot
      linear_combination horthogonal
    rw [hdot, scale, zero_mul, zero_mul, zero_mul, sub, sub_zero, sub_zero, sub_zero]
  have hsecond : normalized ⟨t 1, t 5, t 9⟩ = ⟨t 1, t 5, t 9⟩ :=
    normalized_of_unit horthonormal.second
  have hthird := normalized_of_unit horthonormal.cross_unit
  rw [hcross] at hthird
  unfold orthonormalize
  simp only [hfirst, hresidual, hsecond, hthird, hcross]
  funext entry
  fin_cases entry <;> rfl

/-- The unit pose. -/
def identityPose : Matrix4 ℝ := ![1, 0, 0, 0, 0, 1, 0, 0, 0, 0, 1, 0, 0, 0, 0, 1]

/-- Affine poses with one rotation block and one translation are the same. -/
theorem Affine.ext {a b : Matrix4 ℝ} (ha : Affine a) (hb : Affine b) (hblock : block a = block b)
    (hx : a 3 = b 3) (hy : a 7 = b 7) (hz : a 11 = b 11) : a = b := by
  have hentry : ∀ i j, block a i j = block b i j := fun i j => by rw [hblock]
  funext entry
  fin_cases entry
  · exact hentry 0 0
  · exact hentry 0 1
  · exact hentry 0 2
  · exact hx
  · exact hentry 1 0
  · exact hentry 1 1
  · exact hentry 1 2
  · exact hy
  · exact hentry 2 0
  · exact hentry 2 1
  · exact hentry 2 2
  · exact hz
  · exact ha.x.trans hb.x.symm
  · exact ha.y.trans hb.y.symm
  · exact ha.z.trans hb.z.symm
  · exact ha.one.trans hb.one.symm

theorem affine_inverseRigid (t : Matrix4 ℝ) : Affine (inverseRigid t) := ⟨rfl, rfl, rfl, rfl⟩

theorem block_inverseRigid (t : Matrix4 ℝ) : block (inverseRigid t) = (block t)ᵀ := by
  ext i j
  fin_cases i <;> fin_cases j <;> rfl

theorem affine_identityPose : Affine identityPose := ⟨rfl, rfl, rfl, rfl⟩

theorem block_identityPose : block identityPose = 1 := by
  ext i j
  fin_cases i <;> fin_cases j <;> simp [block, rotationBlock, identityPose]

/-- The inverse of a rigid pose is one from the left and from the right. -/
theorem inverseRigid_inverse {t : Matrix4 ℝ} (h : Rigid t) :
    multiply (inverseRigid t) t = identityPose ∧ multiply t (inverseRigid t) = identityPose := by
  have haffine := h.toAffine
  have htransposed : block t * (block t)ᵀ = 1 := mul_eq_one_comm.mp h.orthonormal
  have hrow : ∀ i j, block t i 0 * block t j 0 + block t i 1 * block t j 1 +
      block t i 2 * block t j 2 = (1 : Matrix (Fin 3) (Fin 3) ℝ) i j := by
    intro i j
    rw [← htransposed, Matrix.mul_apply, Fin.sum_univ_three]
    rfl
  have hxx : t 0 * t 0 + t 1 * t 1 + t 2 * t 2 = 1 := hrow 0 0
  have hxy : t 0 * t 4 + t 1 * t 5 + t 2 * t 6 = 0 := hrow 0 1
  have hxz : t 0 * t 8 + t 1 * t 9 + t 2 * t 10 = 0 := hrow 0 2
  have hyy : t 4 * t 4 + t 5 * t 5 + t 6 * t 6 = 1 := hrow 1 1
  have hyz : t 4 * t 8 + t 5 * t 9 + t 6 * t 10 = 0 := hrow 1 2
  have hzz : t 8 * t 8 + t 9 * t 9 + t 10 * t 10 = 1 := hrow 2 2
  constructor
  · apply ((affine_inverseRigid t).multiply haffine).ext affine_identityPose
    · rw [block_multiply haffine, block_inverseRigid, h.orthonormal, block_identityPose]
    all_goals
      rw [multiply_eq]
      simp only [inverseRigid, identityPose, Matrix.cons_val, haffine.one]
      ring
  · apply (haffine.multiply (affine_inverseRigid t)).ext affine_identityPose
    · rw [block_multiply (affine_inverseRigid t), block_inverseRigid, htransposed,
        block_identityPose]
    all_goals
      rw [multiply_eq]
      simp only [inverseRigid, identityPose, Matrix.cons_val]
    · linear_combination -(t 3) * hxx - t 7 * hxy - t 11 * hxz
    · linear_combination -(t 3) * hxy - t 7 * hyy - t 11 * hyz
    · linear_combination -(t 3) * hxz - t 7 * hyz - t 11 * hzz

/-- A rigid pose passes the checks of a transform at any positive tolerance. -/
theorem checkRigid_rigid {t : Matrix4 ℝ} (h : Rigid t) {tolerance : ℝ}
    (htolerance : 0 < tolerance) :
    checkRigid t tolerance = .ok () := by
  have hdot : ∀ row column, rotationDot t row column =
      (1 : Matrix (Fin 3) (Fin 3) ℝ) row column := by
    intro row column
    rw [← h.orthonormal, Matrix.mul_apply, Fin.sum_univ_three]
    fin_cases row <;> fin_cases column <;>
      exact congrArg₂ (· + ·) (congrArg₂ (· + ·) (zero_add _) rfl) rfl
  have hdet : determinant t = 1 := by
    rw [← h.det_eq_one, Matrix.det_fin_three, determinant]
    simp only [block, rotationBlock, Matrix.of_apply, Matrix.cons_val]
    ring
  have hfinite : ¬ (¬ isFinite tolerance = true ∨ tolerance ≤ 0) := by
    simpa using htolerance
  have helements : ¬ ∃ element, ¬ isFinite (t element) = true := by simp
  have hlast : ¬ (tolerance < FloatArith.abs (t 12) ∨ tolerance < FloatArith.abs (t 13) ∨
      tolerance < FloatArith.abs (t 14) ∨ tolerance < FloatArith.abs (t 15 - 1)) := by
    simp only [h.x, h.y, h.z, h.one, real_abs, sub_self, abs_zero, or_self]
    exact not_lt.mpr htolerance.le
  have horthonormal : ¬ ∃ row column, tolerance <
      FloatArith.abs (rotationDot t row column - if row = column then 1 else 0) := by
    rintro ⟨row, column, hlarge⟩
    rw [hdot, Matrix.one_apply, sub_self, real_abs, abs_zero] at hlarge
    exact absurd hlarge (not_lt.mpr htolerance.le)
  have hdeterminant : ¬ tolerance < FloatArith.abs (determinant t - 1) := by
    rw [hdet, sub_self, real_abs, abs_zero]
    exact not_lt.mpr htolerance.le
  unfold checkRigid
  rw [if_neg hfinite, if_neg helements, if_neg hlast, if_neg horthonormal, if_neg hdeterminant]

theorem poseDeltas_self {t : Matrix4 ℝ} (h : Rigid t) : poseDeltas ℝ t t = (0, 0) := by
  have hnorm : norm (⟨0, 0, 0⟩ : Vec3 ℝ) = 0 := by
    have hsq := sq_norm ⟨0, 0, 0⟩
    simpa using hsq
  have hcosine : stdClamp ((1 + 1 + 1 - 1) / lit 2 : ℝ) (-1) 1 = 1 := by
    unfold stdClamp
    rw [real_lit]
    norm_num
  unfold poseDeltas
  rw [(inverseRigid_inverse h).2]
  simp only [identityPose, Matrix.cons_val, hnorm, hcosine]
  change (0, Real.arccos 1 * lit 180 / kPi) = ((0, 0) : ℝ × ℝ)
  rw [Real.arccos_one, zero_mul, zero_div]

theorem create_rigid {t : Matrix4 ℝ} (h : Rigid t) {tolerance : ℝ} (htolerance : 0 < tolerance)
    (source target : FrameId) : ∃ transform, RigidTransform.create t source target tolerance =
      .ok transform ∧ transform.matrix = t := by
  have hcheck := checkRigid_rigid h htolerance
  refine ⟨⟨t, source, target, tolerance, hcheck⟩, ?_, rfl⟩
  unfold RigidTransform.create
  split
  · rfl
  · rename_i e hfailed
    rw [hcheck] at hfailed
    cases hfailed

theorem create_posed {initial : Matrix4 ℝ} (h : Rigid initial) (twists : List (Vec3 ℝ × Vec3 ℝ))
    {tolerance : ℝ} (htolerance : 0 < tolerance) (source target : FrameId) :
    ∃ transform, RigidTransform.create (orthonormalize (posed ℝ initial twists)) source target
      tolerance = .ok transform := by
  have hinitial : (block initial).det ≠ 0 := by
    rw [h.det_eq_one]
    exact one_ne_zero
  obtain ⟨haffine, hdet⟩ := posed_nonsingular h.toAffine hinitial twists
  obtain ⟨transform, hcreate, -⟩ :=
    create_rigid (rigid_orthonormalize haffine hdet).1 htolerance source target
  exact ⟨transform, hcreate⟩

/-- From a rigid pose every sequence of increments ends, once its columns are made orthonormal, in a
rigid transform that keeps the translation. A rigid pose is kept by this, has an inverse, and is at
no distance from itself. -/
theorem posed_rigid {initial : Matrix4 ℝ} (h : Rigid initial) (twists : List (Vec3 ℝ × Vec3 ℝ)) :
    let current := posed ℝ initial twists
    let final := orthonormalize current
    (block current).det ≠ 0 ∧ Rigid final ∧
      (final 3 = current 3 ∧ final 7 = current 7 ∧ final 11 = current 11) ∧
      (final 12 = current 12 ∧ final 13 = current 13 ∧ final 14 = current 14 ∧
        final 15 = current 15) ∧
      (∀ tolerance : ℝ, 0 < tolerance → ∀ source target, ∃ transform,
        RigidTransform.create final source target tolerance = .ok transform ∧
          transform.matrix = final) ∧
      orthonormalize initial = initial ∧
      (multiply (inverseRigid initial) initial = identityPose ∧
        multiply initial (inverseRigid initial) = identityPose) ∧
      poseDeltas ℝ initial initial = (0, 0) := by
  intro current final
  have hinitial : (block initial).det ≠ 0 := by
    rw [h.det_eq_one]
    exact one_ne_zero
  obtain ⟨haffine, hdet⟩ := posed_nonsingular h.toAffine hinitial twists
  obtain ⟨hrigid, htranslation⟩ := rigid_orthonormalize haffine hdet
  exact ⟨hdet, hrigid, htranslation, ⟨rfl, rfl, rfl, rfl⟩,
    fun tolerance htolerance source target => create_rigid hrigid htolerance source target,
    orthonormalize_rigid h, inverseRigid_inverse h, poseDeltas_self h⟩

theorem rigid_identityPose : Rigid identityPose where
  toAffine := affine_identityPose
  orthonormal := by rw [block_identityPose, Matrix.transpose_one, Matrix.one_mul]
  det_eq_one := by rw [block_identityPose, Matrix.det_one]

/-- A turn about an axis, and a step whose turn is below the threshold of the rotation formula. -/
theorem posed_rigid_two_steps :
    Rigid (orthonormalize (posed ℝ identityPose
      [(⟨1, 0, 0⟩, ⟨0, 0, 0⟩), (⟨0, 0, 1 / 10 ^ 13⟩, ⟨1, 2, 3⟩)])) :=
  (posed_rigid rigid_identityPose _).2.1

end
end PointcloudAd.Registration
