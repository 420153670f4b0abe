import Mathlib

/-! Smooth activation functions over the reals and their derivatives. -/
namespace Activations

noncomputable def silu (x : ℝ) : ℝ := x * Real.sigmoid x

theorem hasDerivAt_silu (x : ℝ) :
    HasDerivAt silu (Real.sigmoid x * (1 + x * (1 - Real.sigmoid x))) x := by
  have h := (hasDerivAt_id x).mul (Real.hasDerivAt_sigmoid x)
  refine HasDerivAt.congr_deriv (f := silu) h ?_
  simp only [id_eq]
  ring

theorem hasDerivAt_tanh (x : ℝ) : HasDerivAt Real.tanh (1 - Real.tanh x * Real.tanh x) x := by
  have quotient : Real.tanh = fun x => Real.sinh x / Real.cosh x :=
    funext Real.tanh_eq_sinh_div_cosh
  have h := (Real.hasDerivAt_sinh x).div (Real.hasDerivAt_cosh x) (Real.cosh_pos x).ne'
  rw [quotient]
  refine h.congr_deriv ?_
  have := (Real.cosh_pos x).ne'
  field_simp

theorem exp_div_one_add_exp (x : ℝ) : Real.exp x / (1 + Real.exp x) = Real.sigmoid x := by
  rw [Real.sigmoid_def, Real.exp_neg]
  have := Real.exp_pos x
  field_simp
  ring

noncomputable def errorFunction (x : ℝ) : ℝ :=
  2 / √Real.pi * ∫ t in (0 : ℝ)..x, Real.exp (-t ^ 2)

noncomputable def invSqrtTwo : ℝ :=
  1 / √2

noncomputable def invSqrtTwoPi : ℝ :=
  1 / √(2 * Real.pi)

theorem hasDerivAt_errorFunction (x : ℝ) :
    HasDerivAt errorFunction (2 / √Real.pi * Real.exp (-x ^ 2)) x := by
  have continuous : Continuous fun t : ℝ => Real.exp (-t ^ 2) := by fun_prop
  exact (continuous.integral_hasStrictDerivAt 0 x).hasDerivAt.const_mul _

theorem hasDerivAt_gelu {erf : ℝ → ℝ}
    (h : ∀ x, HasDerivAt erf (2 / √Real.pi * Real.exp (-x ^ 2)) x) (x : ℝ) :
    HasDerivAt (fun x => 1 / 2 * x * (1 + erf (x * (1 / √2))))
      (1 / 2 * (1 + erf (x * (1 / √2))) +
        x * Real.exp (-(1 / 2) * x * x) * (1 / √(2 * Real.pi))) x := by
  have inner : HasDerivAt (fun x : ℝ => x * (1 / √2)) (1 / √2) x := by
    simpa using (hasDerivAt_id x).mul_const (1 / √2)
  have outer := (h (x * (1 / √2))).comp x inner
  have whole := ((hasDerivAt_id x).const_mul (1 / 2 : ℝ)).mul (outer.const_add 1)
  have square : -(x * (1 / √2)) ^ 2 = -(1 / 2) * x * x := by
    rw [mul_pow, div_pow, Real.sq_sqrt (by norm_num : (0 : ℝ) ≤ 2)]
    ring
  have constant : 2 / √Real.pi * (1 / √2) * (1 / 2) = 1 / √(2 * Real.pi) := by
    rw [Real.sqrt_mul (by norm_num : (0 : ℝ) ≤ 2)]
    ring
  refine HasDerivAt.congr_deriv (f := fun x => 1 / 2 * x * (1 + erf (x * (1 / √2)))) whole ?_
  simp only [id_eq, Function.comp_apply, square, ← constant]
  ring

end Activations
