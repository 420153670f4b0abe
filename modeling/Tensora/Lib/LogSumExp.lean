import Mathlib

/-! The logarithm of a sum of exponentials, the softmax it is the potential of, and the
cross entropy of a weight vector against them: how each reacts to a common shift, and
the partial derivatives. -/
namespace LogSumExp
open Finset

variable {ι : Type} {s : Finset ι} {x t : ι → ℝ} {i : ι}

noncomputable def logSumExp (s : Finset ι) (x : ι → ℝ) : ℝ := Real.log (∑ j ∈ s, Real.exp (x j))

noncomputable def softmax (s : Finset ι) (x : ι → ℝ) (i : ι) : ℝ :=
  Real.exp (x i) / ∑ j ∈ s, Real.exp (x j)

/-- The weights are not assumed to sum to one. -/
noncomputable def crossEntropy (s : Finset ι) (t x : ι → ℝ) : ℝ :=
  -∑ j ∈ s, t j * (x j - logSumExp s x)

theorem sum_exp_pos (hs : s.Nonempty) (x : ι → ℝ) : 0 < ∑ j ∈ s, Real.exp (x j) :=
  sum_pos (fun j _ => Real.exp_pos (x j)) hs

theorem softmax_pos (hi : i ∈ s) (x : ι → ℝ) : 0 < softmax s x i :=
  div_pos (Real.exp_pos _) (sum_exp_pos ⟨i, hi⟩ x)

theorem logSumExp_congr {y : ι → ℝ} (h : ∀ j ∈ s, x j = y j) : logSumExp s x = logSumExp s y := by
  unfold logSumExp
  rw [sum_congr rfl fun j hj => by rw [h j hj]]

theorem crossEntropy_congr {t' y : ι → ℝ} (ht : ∀ j ∈ s, t j = t' j) (hx : ∀ j ∈ s, x j = y j) :
    crossEntropy s t x = crossEntropy s t' y := by
  unfold crossEntropy
  rw [logSumExp_congr hx, sum_congr rfl fun j hj => by rw [ht j hj, hx j hj]]

theorem sum_exp_shift (s : Finset ι) (x : ι → ℝ) (m : ℝ) :
    ∑ j ∈ s, Real.exp (x j - m) = (∑ j ∈ s, Real.exp (x j)) / Real.exp m := by
  rw [sum_div]
  apply sum_congr rfl
  intro j _
  exact Real.exp_sub _ _

theorem logSumExp_shift (hs : s.Nonempty) (x : ι → ℝ) (m : ℝ) :
    Real.log (∑ j ∈ s, Real.exp (x j - m)) + m = logSumExp s x := by
  rw [sum_exp_shift, Real.log_div (sum_exp_pos hs x).ne' (Real.exp_ne_zero m), Real.log_exp,
    sub_add_cancel, logSumExp]

theorem softmax_shift (s : Finset ι) (x : ι → ℝ) (m : ℝ) (i : ι) :
    Real.exp (x i - m) / ∑ j ∈ s, Real.exp (x j - m) = softmax s x i := by
  rw [sum_exp_shift, Real.exp_sub, div_div_div_cancel_right₀ (Real.exp_ne_zero m), softmax]

section Derivatives
variable [DecidableEq ι]

theorem hasDerivAt_entry (x : ι → ℝ) (i j : ι) (v : ℝ) :
    HasDerivAt (fun v => Function.update x i v j) (if j = i then 1 else 0) v := by
  by_cases h : j = i
  · subst h
    simpa only [Function.update_self, if_true] using hasDerivAt_id' v
  · simpa [h] using hasDerivAt_const v (x j)

theorem hasDerivAt_logSumExp (hi : i ∈ s) (x : ι → ℝ) :
    HasDerivAt (fun v => logSumExp s (Function.update x i v)) (softmax s x i) (x i) := by
  have hterm : ∀ j ∈ s, HasDerivAt (fun v => Real.exp (Function.update x i v j))
      (Real.exp (x j) * if j = i then 1 else 0) (x i) := by
    intro j _
    have h := (hasDerivAt_entry x i j (x i)).exp
    rwa [Function.update_eq_self] at h
  have hsum := HasDerivAt.fun_sum hterm
  rw [sum_congr rfl fun j _ => mul_ite_zero (j = i) (Real.exp (x j)) 1, sum_ite_eq' s i,
    if_pos hi, mul_one] at hsum
  have hlog := hsum.log (by rw [Function.update_eq_self]; exact (sum_exp_pos ⟨i, hi⟩ x).ne')
  rwa [Function.update_eq_self] at hlog

/-- In an entry the potential comes in once for every unit of weight. -/
theorem hasDerivAt_crossEntropy (hi : i ∈ s) (t x : ι → ℝ) :
    HasDerivAt (fun v => crossEntropy s t (Function.update x i v))
      ((∑ j ∈ s, t j) * softmax s x i - t i) (x i) := by
  have hterm : ∀ j ∈ s, HasDerivAt
      (fun v => t j * (Function.update x i v j - logSumExp s (Function.update x i v)))
      (t j * ((if j = i then 1 else 0) - softmax s x i)) (x i) := by
    intro j _
    exact ((hasDerivAt_entry x i j (x i)).sub (hasDerivAt_logSumExp hi x)).const_mul (t j)
  have hsum := (HasDerivAt.fun_sum hterm).neg
  have hvalue : -∑ j ∈ s, t j * ((if j = i then 1 else 0) - softmax s x i) =
      (∑ j ∈ s, t j) * softmax s x i - t i := by
    simp only [mul_sub, sum_sub_distrib, mul_ite, mul_one, mul_zero, sum_ite_eq' s i, if_pos hi,
      ← sum_mul]
    ring
  rwa [hvalue] at hsum

theorem hasDerivAt_crossEntropy_weight (hi : i ∈ s) (t x : ι → ℝ) :
    HasDerivAt (fun v => crossEntropy s (Function.update t i v) x) (-(x i - logSumExp s x))
      (t i) := by
  have hterm : ∀ j ∈ s, HasDerivAt
      (fun v => Function.update t i v j * (x j - logSumExp s x))
      ((if j = i then 1 else 0) * (x j - logSumExp s x)) (t i) := by
    intro j _
    exact (hasDerivAt_entry t i j (t i)).mul_const _
  have hsum := (HasDerivAt.fun_sum hterm).neg
  simp only [ite_mul, one_mul, zero_mul, sum_ite_eq' s i, if_pos hi] at hsum
  exact hsum

end Derivatives

end LogSumExp
