import Tensora.Autograd.ApplySpecs
import Tensora.Lib.LogSumExp

/-! Over the reals the cross-entropy kernels compute a sum of log-sum-exps and its two
closed-form gradients. The gradient in the weights is the derivative of the loss; the
one in the logits presupposes that the weights of every row sum to one. -/
namespace Tensora
open CheckedLoop Finset LogSumExp

structure RealFunctions [Given ℝ] : Prop where
  exp : ∀ x : ℝ, Given.exp x = Real.exp x
  log : ∀ x : ℝ, 0 < x → Given.log x = Real.log x

structure IsGradient (f : List ℝ → ℝ) (x g : List ℝ) : Prop where
  length : g.length = x.length
  partials : ∀ i < x.length, HasDerivAt (fun v => f (x.set i v)) (g.getD i 0) (x.getD i 0)

theorem IsGradient.iff_of {f : List ℝ → ℝ} {x g : List ℝ} (h : IsGradient f x g) {g' : List ℝ}
    (hlen : g'.length = x.length) :
    IsGradient f x g' ↔ ∀ i < x.length, g'.getD i 0 = g.getD i 0 := by
  constructor
  · intro h' i hi
    exact (h'.partials i hi).unique (h.partials i hi)
  · intro heq
    refine ⟨hlen, fun i hi => ?_⟩
    rw [heq i hi]
    exact h.partials i hi

theorem foldl_sub (n : Nat) (f : Nat → ℝ) (total : ℝ) :
    (List.range n).foldl (fun total i => total - f i) total = total - ∑ i ∈ range n, f i := by
  induction n with
  | zero => simp
  | succ n ih =>
      rw [List.range_succ, List.foldl_append, ih, sum_range_succ, ← sub_sub]
      rfl

def rowOf (classes : Nat) (values : List ℝ) (row col : Nat) : ℝ :=
  values.getD (row * classes + col) 0

theorem rowOf_div_mod (classes : Nat) (values : List ℝ) (i : Nat) :
    rowOf classes values (i / classes) (i % classes) = values.getD i 0 := by
  rw [rowOf, Nat.div_add_mod']

theorem getD_set {values : List ℝ} {i : Nat} (hi : i < values.length) (v : ℝ) (j : Nat) :
    (values.set i v).getD j 0 = if j = i then v else values.getD j 0 := by
  rw [List.getD_eq_getElem?_getD, List.getElem?_set, List.getD_eq_getElem?_getD]
  by_cases h : i = j
  · subst h
    simp [hi]
  · have hji : j ≠ i := fun heq => h heq.symm
    simp [h, hji]

theorem rowOf_set {values : List ℝ} {i : Nat} (hi : i < values.length) (v : ℝ) {classes : Nat}
    (row : Nat) {col : Nat} (hcol : col < classes) :
    rowOf classes (values.set i v) row col =
      if row = i / classes then Function.update (rowOf classes values row) (i % classes) v col
      else rowOf classes values row col := by
  have hpos : row * classes + col = i ↔ i / classes = row ∧ i % classes = col := by
    rw [eq_comm]
    exact grid_eq_iff hcol
  rw [rowOf, getD_set hi, Function.update_apply]
  by_cases hrow : row = i / classes
  · subst hrow
    simp only [hpos, true_and, if_true, rowOf, eq_comm]
  · have hne : row * classes + col ≠ i := fun h => hrow (hpos.mp h).1.symm
    rw [if_neg hrow, if_neg hne, rowOf]

namespace Autograd
open Training (crossEntropyValue rowLogDenominator rowMax)

/-- `-(target * log_softmax(logits)).sum(1).mean()`. -/
noncomputable def torchCrossEntropyLoss (batch classes : Nat) (logits target : List ℝ) : ℝ :=
  -((∑ row ∈ range batch, ∑ col ∈ range classes, rowOf classes target row col *
    (rowOf classes logits row col -
      Real.log (∑ col ∈ range classes, Real.exp (rowOf classes logits row col)))) / batch)

def Normalized (batch classes : Nat) (target : List ℝ) : Prop :=
  ∀ row < batch, ∑ col ∈ range classes, target.getD (row * classes + col) 0 = 1

theorem torchCrossEntropyLoss_eq (batch classes : Nat) (logits target : List ℝ) :
    torchCrossEntropyLoss batch classes logits target = (∑ row ∈ range batch,
      crossEntropy (range classes) (rowOf classes target row) (rowOf classes logits row)) /
        (batch : ℝ) := by
  unfold torchCrossEntropyLoss crossEntropy
  rw [sum_neg_distrib, neg_div]
  rfl

section Partials
variable {batch classes : Nat} {logits target : List ℝ}

theorem hasDerivAt_mean {values : List ℝ} (hlen : values.length = batch * classes)
    (f : Nat → (Nat → ℝ) → ℝ) (hf : ∀ row x y, (∀ col < classes, x col = y col) → f row x = f row y)
    {i : Nat} (hi : i < batch * classes) {d : ℝ}
    (hd : HasDerivAt (fun v => f (i / classes)
      (Function.update (rowOf classes values (i / classes)) (i % classes) v)) d
      (values.getD i 0)) :
    HasDerivAt (fun v => (∑ row ∈ range batch, f row (rowOf classes (values.set i v) row)) /
      (batch : ℝ)) (d / batch) (values.getD i 0) := by
  have hrow : ∀ row ∈ range batch, HasDerivAt
      (fun v => f row (rowOf classes (values.set i v) row)) (if row = i / classes then d else 0)
      (values.getD i 0) := by
    intro row _
    have hset : ∀ v, f row (rowOf classes (values.set i v) row) = f row fun col =>
        if row = i / classes then Function.update (rowOf classes values row) (i % classes) v col
        else rowOf classes values row col := by
      intro v
      apply hf
      intro col hcol
      exact rowOf_set (by omega) v row hcol
    simp only [hset]
    by_cases h : row = i / classes
    · subst h
      simpa only [if_true] using hd
    · simpa only [if_neg h] using hasDerivAt_const _ _
  have hsum := (HasDerivAt.fun_sum hrow).div_const (batch : ℝ)
  rwa [sum_ite_eq' (range batch) (i / classes), if_pos (mem_range.mpr (grid_div_lt hi))] at hsum

theorem hasDerivAt_logits (hlen : logits.length = batch * classes) (target : List ℝ) {i : Nat}
    (hi : i < batch * classes) :
    HasDerivAt (fun v => torchCrossEntropyLoss batch classes (logits.set i v) target)
      (((∑ col ∈ range classes, rowOf classes target (i / classes) col) *
        softmax (range classes) (rowOf classes logits (i / classes)) (i % classes) -
          target.getD i 0) / batch) (logits.getD i 0) := by
  have hcol : i % classes ∈ range classes := mem_range.mpr (grid_mod_lt hi)
  simp only [torchCrossEntropyLoss_eq]
  apply hasDerivAt_mean hlen (fun row => crossEntropy (range classes) (rowOf classes target row))
  · intro row x y h
    exact crossEntropy_congr (fun _ _ => rfl) fun col hcol => h col (mem_range.mp hcol)
  · exact hi
  · have h := hasDerivAt_crossEntropy hcol (rowOf classes target (i / classes))
      (rowOf classes logits (i / classes))
    rwa [rowOf_div_mod, rowOf_div_mod] at h

theorem hasDerivAt_target (logits : List ℝ) (hlen : target.length = batch * classes) {i : Nat}
    (hi : i < batch * classes) :
    HasDerivAt (fun v => torchCrossEntropyLoss batch classes logits (target.set i v))
      (-(logits.getD i 0 - logSumExp (range classes) (rowOf classes logits (i / classes))) / batch)
      (target.getD i 0) := by
  have hcol : i % classes ∈ range classes := mem_range.mpr (grid_mod_lt hi)
  simp only [torchCrossEntropyLoss_eq]
  apply hasDerivAt_mean hlen
    (fun row weights => crossEntropy (range classes) weights (rowOf classes logits row))
  · intro row x y h
    exact crossEntropy_congr (fun col hcol => h col (mem_range.mp hcol)) fun _ _ => rfl
  · exact hi
  · have h := hasDerivAt_crossEntropy_weight hcol (rowOf classes target (i / classes))
      (rowOf classes logits (i / classes))
    rwa [rowOf_div_mod, rowOf_div_mod] at h

end Partials

section Real
variable [Given ℝ] (a : RealFunctions) {batch classes : Nat} {logits target : List ℝ}
include a

theorem rowDenominator_real (logits : List ℝ) (classes row : Nat) :
    rowDenominator logits classes row = ∑ col ∈ range classes,
      Real.exp (rowOf classes logits row col - rowMax logits classes row) := by
  refine (sumTo_eq_sum _ _).trans ?_
  apply sum_congr rfl
  intro col _
  exact a.exp _

theorem rowLogDenominator_real (hclasses : 0 < classes) (logits : List ℝ) (row : Nat) :
    Scalar.log (rowDenominator logits classes row) + rowMax logits classes row =
      logSumExp (range classes) (rowOf classes logits row) := by
  have hrange : (range classes).Nonempty := nonempty_range_iff.mpr hclasses.ne'
  rw [rowDenominator_real a]
  refine (congrArg (· + rowMax logits classes row) (a.log _ ?_)).trans ?_
  · exact sum_exp_pos hrange _
  · exact logSumExp_shift hrange (rowOf classes logits row) (rowMax logits classes row)

theorem crossEntropyValue_real (hclasses : 0 < classes) (logits target : List ℝ) :
    crossEntropyValue ℝ batch classes logits target =
      torchCrossEntropyLoss batch classes logits target := by
  have hlog : ∀ row, rowLogDenominator ℝ logits classes row =
      logSumExp (range classes) (rowOf classes logits row) :=
    fun row => rowLogDenominator_real a hclasses logits row
  have hrow : ∀ (row : Nat) (total : ℝ), (List.range classes).foldl (fun total col =>
      total - target.getD (row * classes + col) 0 * (logits.getD (row * classes + col) 0 -
        rowLogDenominator ℝ logits classes row)) total =
      total - -crossEntropy (range classes) (rowOf classes target row)
        (rowOf classes logits row) := by
    intro row total
    rw [foldl_sub, hlog, crossEntropy, neg_neg]
    rfl
  have htotal : (List.range batch).foldl (fun total row =>
      (List.range classes).foldl (fun total col =>
        total - target.getD (row * classes + col) 0 * (logits.getD (row * classes + col) 0 -
          rowLogDenominator ℝ logits classes row)) total) (0 : ℝ) =
      ∑ row ∈ range batch, crossEntropy (range classes) (rowOf classes target row)
        (rowOf classes logits row) := by
    simp only [hrow, foldl_sub, sum_neg_distrib]
    ring
  rw [torchCrossEntropyLoss_eq, ← htotal]
  rfl

theorem logitsGradient_real (logits target : List ℝ) (scale : ℝ) (i : Nat) :
    crossEntropyLogitsGradient classes scale logits target i = scale *
      (softmax (range classes) (rowOf classes logits (i / classes)) (i % classes) -
        target.getD i 0) := by
  rw [← softmax_shift _ _ (rowMax logits classes (i / classes)), rowOf_div_mod,
    ← rowDenominator_real a, ← a.exp]
  rfl

theorem targetGradient_real (hclasses : 0 < classes) (logits : List ℝ) (scale : ℝ) (i : Nat) :
    crossEntropyTargetGradient classes scale logits i = -scale *
      (logits.getD i 0 - logSumExp (range classes) (rowOf classes logits (i / classes))) := by
  rw [← rowLogDenominator_real a hclasses]
  rfl

/-- The target's gradient is the derivative, whatever the target. -/
theorem targetGradient_isGradient (hclasses : 0 < classes) (hlen : target.length = batch * classes)
    (upstream : ℝ) :
    IsGradient (fun target => upstream * torchCrossEntropyLoss batch classes logits target) target
      (tab (batch * classes) (crossEntropyTargetGradient classes (upstream / batch) logits)) := by
  constructor
  · rw [length_tab, hlen]
  · intro i hi
    rw [hlen] at hi
    have hvalue : -(upstream / batch) * (logits.getD i 0 -
        logSumExp (range classes) (rowOf classes logits (i / classes))) = upstream *
          (-(logits.getD i 0 - logSumExp (range classes) (rowOf classes logits (i / classes))) /
            batch) := by ring
    rw [getD_tab _ _ hi, targetGradient_real a hclasses, hvalue]
    exact (hasDerivAt_target logits hlen hi).const_mul upstream

/-- The logits' gradient is the derivative exactly for normalized weights. -/
theorem logitsGradient_isGradient (hclasses : 0 < classes) (hbatch : 0 < batch)
    (hlen : logits.length = batch * classes) (upstream : ℝ) :
    IsGradient (fun logits => upstream * torchCrossEntropyLoss batch classes logits target) logits
      (tab (batch * classes)
        (crossEntropyLogitsGradient classes (upstream / batch) logits target)) ↔
      upstream = 0 ∨ Normalized batch classes target := by
  have hne : (batch : ℝ) ≠ 0 := Nat.cast_ne_zero.mpr hbatch.ne'
  -- the derivative, as the list of its entries
  have hgradient : IsGradient
      (fun logits => upstream * torchCrossEntropyLoss batch classes logits target) logits
      (tab (batch * classes) fun i => upstream *
        (((∑ col ∈ range classes, rowOf classes target (i / classes) col) *
          softmax (range classes) (rowOf classes logits (i / classes)) (i % classes) -
            target.getD i 0) / batch)) := by
    constructor
    · rw [length_tab, hlen]
    · intro i hi
      rw [hlen] at hi
      rw [getD_tab _ _ hi]
      exact (hasDerivAt_logits hlen target hi).const_mul upstream
  rw [hgradient.iff_of (by rw [length_tab, hlen]), hlen]
  have hentry : ∀ i < batch * classes,
      ((tab (batch * classes) (crossEntropyLogitsGradient classes (upstream / batch) logits
          target)).getD i 0 =
        (tab (batch * classes) fun i => upstream *
          (((∑ col ∈ range classes, rowOf classes target (i / classes) col) *
            softmax (range classes) (rowOf classes logits (i / classes)) (i % classes) -
              target.getD i 0) / batch)).getD i 0) ↔
      upstream = 0 ∨ ∑ col ∈ range classes, rowOf classes target (i / classes) col = 1 := by
    intro i hi
    have hpos := softmax_pos (mem_range.mpr (grid_mod_lt hi)) (rowOf classes logits (i / classes))
    rw [getD_tab _ _ hi, getD_tab _ _ hi, logitsGradient_real a]
    constructor
    · intro h
      by_contra hnot
      rw [not_or] at hnot
      apply hnot.2
      field_simp at h
      have h' := mul_left_cancel₀ hnot.1 h
      have hmul : (∑ col ∈ range classes, rowOf classes target (i / classes) col) *
          softmax (range classes) (rowOf classes logits (i / classes)) (i % classes) =
          1 * softmax (range classes) (rowOf classes logits (i / classes)) (i % classes) := by
        linarith
      exact mul_right_cancel₀ hpos.ne' hmul
    · rintro (h | h)
      · rw [h]
        ring
      · rw [h]
        ring
  constructor
  · intro h
    by_cases hzero : upstream = 0
    · exact Or.inl hzero
    right
    intro row hrow
    have hi := grid_lt hrow hclasses
    have hsum := (hentry _ hi).mp (h _ hi)
    rw [grid_div hclasses] at hsum
    exact hsum.resolve_left hzero
  · intro h i hi
    rw [hentry i hi]
    apply h.imp_right
    intro hsums
    exact hsums _ (grid_div_lt hi)

end Real

end Autograd
end Tensora
