import Tensora.Autograd.CrossEntropyDerivative
import Tensora.Lib.Activations

/-! Over the reals the factors of the activation loops are the derivatives of the coded
forwards, and the SwiGLU loop writes, once at each entry, the product of the upstream gradient
with the Jacobian. -/
namespace Tensora
open CheckedLoop Finset

/-- The library functions are the real ones; of `erf` only its derivative is used. -/
structure StandardFunctions [Given ℝ] : Prop where
  exp : ∀ x : ℝ, Given.exp x = Real.exp x
  tanh : ∀ x : ℝ, Given.tanh x = Real.tanh x
  erf : ∀ x : ℝ, HasDerivAt Given.erf (2 / √Real.pi * Real.exp (-x ^ 2)) x
  kInvSqrt2 : (Given.kInvSqrt2 : ℝ) = 1 / √2
  kInvSqrt2Pi : (Given.kInvSqrt2Pi : ℝ) = 1 / √(2 * Real.pi)

namespace Autograd
open Training (activationForward sigmoidForward tanhForward geluForward siluForward swiGluKernel
  swiGluKernel_eq)

theorem half_real : (half : ℝ) = 1 / 2 := by
  norm_num [half, two]

section Factors
variable [Given ℝ] (a : StandardFunctions)
include a

theorem sigmoid_real (x : ℝ) : (1 : ℝ) / (1 + Scalar.exp (-x)) = Real.sigmoid x := by
  change (1 : ℝ) / (1 + Given.exp (-x)) = _
  rw [a.exp, Real.sigmoid_def, one_div]

theorem sigmoidForward_real : (sigmoidForward : ℝ → ℝ) = Real.sigmoid := by
  funext x
  unfold sigmoidForward
  split
  · exact sigmoid_real a x
  · change (Given.exp x : ℝ) / (1 + Given.exp x) = _
    rw [a.exp]
    exact Activations.exp_div_one_add_exp x

theorem siluForward_real : (siluForward : ℝ → ℝ) = Activations.silu := by
  funext x
  exact congrArg (x * ·) (sigmoid_real a x)

theorem activationFactor_silu (x : ℝ) :
    activationFactor .silu x = Real.sigmoid x * (1 + x * (1 - Real.sigmoid x)) := by
  simp only [activationFactor, sigmoid_real a]

theorem hasDerivAt_activationForward {operation : Operation}
    (smooth : operation ∈ [Operation.sigmoid, .tanh, .gelu, .silu]) (x : ℝ) :
    HasDerivAt (activationForward operation) (activationFactor operation x) x := by
  simp only [List.mem_cons, List.not_mem_nil, or_false] at smooth
  rcases smooth with rfl | rfl | rfl | rfl
  · change HasDerivAt sigmoidForward _ x
    rw [sigmoidForward_real a]
    simp only [activationFactor, sigmoid_real a]
    exact Real.hasDerivAt_sigmoid x
  · have forward : (tanhForward : ℝ → ℝ) = Real.tanh := funext a.tanh
    have factor : activationFactor .tanh x = 1 - Real.tanh x * Real.tanh x := by
      rw [← a.tanh x]
      rfl
    rw [factor]
    change HasDerivAt tanhForward _ x
    rw [forward]
    exact Activations.hasDerivAt_tanh x
  · have forward : (geluForward : ℝ → ℝ) = fun x => 1 / 2 * x * (1 + Given.erf (x * (1 / √2))) := by
      funext x
      rw [← a.kInvSqrt2, ← half_real]
      rfl
    have factor : activationFactor .gelu x = 1 / 2 * (1 + Given.erf (x * (1 / √2))) +
        x * Real.exp (-(1 / 2) * x * x) * (1 / √(2 * Real.pi)) := by
      rw [← a.kInvSqrt2, ← a.kInvSqrt2Pi, ← half_real, ← a.exp]
      rfl
    rw [factor]
    change HasDerivAt geluForward _ x
    rw [forward]
    exact Activations.hasDerivAt_gelu a.erf x
  · rw [activationFactor_silu a]
    change HasDerivAt siluForward _ x
    rw [siluForward_real a]
    exact Activations.hasDerivAt_silu x

end Factors

section Writes
variable {F β : Type} [Scalar F]

/-- The loop of the kernel, with any way to write a value at an index. -/
def swiGluGradientLoop (write : β → Nat → F → Except Fault β) (start : β) (rows width half : Nat)
    (input grad : List F) : Except Fault β :=
  loop rows start fun values row => do
    let inputBase ← index row width 0
    let gradBase ← index row half 0
    loop half values fun values col => do
      let leftIndex := inputBase + col
      let rightIndex := inputBase + (half + col)
      let a ← load input leftIndex
      let b ← load input rightIndex
      let sigmoid := 1 / (1 + Scalar.exp (-a))
      let silu := a * sigmoid
      let siluPrime := sigmoid * (1 + a * (1 - sigmoid))
      let upstreamValue ← load grad (gradBase + col)
      let values ← write values leftIndex (upstreamValue * b * siluPrime)
      write values rightIndex (upstreamValue * silu)

example (rows width half : Nat) (input grad : List F) :
    swiGluGradientKernel rows width half input grad =
      swiGluGradientLoop store (List.replicate input.length 0) rows width half input grad := rfl

def swiGluWrites (rows width half : Nat) (input grad : List F) : Except Fault (List Nat) :=
  swiGluGradientLoop (fun log i _ => .ok (log ++ [i])) [] rows width half input grad

def rowWrites (base half : Nat) : Nat → List Nat
  | 0 => []
  | col + 1 => rowWrites base half col ++ [base + col, base + (half + col)]

def gridWrites (half : Nat) : Nat → List Nat
  | 0 => []
  | row + 1 => gridWrites half row ++ rowWrites (row * (2 * half)) half half

theorem mem_rowWrites {base half col i : Nat} :
    i ∈ rowWrites base half col ↔
      base ≤ i ∧ i < base + col ∨ base + half ≤ i ∧ i < base + half + col := by
  induction col with
  | zero =>
      simp only [rowWrites, List.not_mem_nil, false_iff]
      omega
  | succ col ih =>
      simp only [rowWrites, List.mem_append, ih, List.mem_cons, List.not_mem_nil, or_false]
      omega

theorem nodup_rowWrites {base half col : Nat} (h : col ≤ half) :
    (rowWrites base half col).Nodup := by
  induction col with
  | zero => exact List.nodup_nil
  | succ col ih =>
      refine (ih (by omega)).append ?_ ?_
      · simp
        omega
      · intro i old new
        rw [mem_rowWrites] at old
        simp only [List.mem_cons, List.not_mem_nil, or_false] at new
        omega

theorem mem_gridWrites {half row i : Nat} : i ∈ gridWrites half row ↔ i < row * (2 * half) := by
  induction row with
  | zero => simp [gridWrites]
  | succ row ih =>
      rw [gridWrites, List.mem_append, ih, mem_rowWrites, Nat.add_mul]
      omega

theorem nodup_gridWrites {half row : Nat} : (gridWrites half row).Nodup := by
  induction row with
  | zero => exact List.nodup_nil
  | succ row ih =>
      refine ih.append (nodup_rowWrites (Nat.le_refl half)) ?_
      intro i old new
      rw [mem_gridWrites] at old
      rw [mem_rowWrites] at new
      omega

theorem swiGluWrites_eq {rows half : Nat} {input grad : List F}
    (hlen : input.length = rows * (2 * half)) (hg : grad.length = rows * half)
    (hbound : rows * (2 * half) < 2 ^ 63) :
    swiGluWrites rows (2 * half) half input grad = .ok (gridWrites half rows) := by
  unfold swiGluWrites swiGluGradientLoop
  refine loop_eq (gridWrites half) fun row hrow => ?_
  have hbase : row * (2 * half) + 2 * half ≤ rows * (2 * half) := by
    calc row * (2 * half) + 2 * half = (row + 1) * (2 * half) := by ring
      _ ≤ rows * (2 * half) := Nat.mul_le_mul_right _ hrow
  have hsmall : row * half ≤ row * (2 * half) := Nat.mul_le_mul_left _ (by omega)
  rw [index_of_lt (by omega), index_of_lt (by omega)]
  simp only [bind, Except.bind, Nat.add_zero]
  have hstart : gridWrites half row = gridWrites half row ++ rowWrites (row * (2 * half)) half 0 :=
    (List.append_nil _).symm
  rw [hstart, gridWrites]
  refine loop_eq (fun col => gridWrites half row ++ rowWrites (row * (2 * half)) half col)
    fun col hcol => ?_
  have hgpos := grid_lt hrow hcol
  rw [load_of_lt 0 (show row * (2 * half) + col < input.length by omega),
    load_of_lt 0 (show row * (2 * half) + (half + col) < input.length by omega),
    load_of_lt 0 (show row * half + col < grad.length by omega)]
  simp only [rowWrites, List.append_assoc, List.cons_append, List.nil_append]

/-- Every entry is written exactly once. -/
theorem swiGluWrites_perm {rows half : Nat} {input grad : List F}
    (hlen : input.length = rows * (2 * half)) (hg : grad.length = rows * half)
    (hbound : rows * (2 * half) < 2 ^ 63) :
    ∃ writes, swiGluWrites rows (2 * half) half input grad = .ok writes ∧
      writes.Perm (List.range input.length) := by
  refine ⟨_, swiGluWrites_eq hlen hg hbound, ?_⟩
  rw [hlen]
  refine (List.perm_ext_iff_of_nodup nodup_gridWrites List.nodup_range).mpr fun i => ?_
  rw [mem_gridWrites, List.mem_range]

end Writes

theorem swiGlu_extents {dims : List Nat} {width : Nat} (valid : ValidDims dims)
    (last : dims.getLast? = some width) (even : width % 2 = 0) :
    dims.prod = dims.prod / width * (2 * (width / 2)) ∧
      width = 2 * (width / 2) ∧ 0 < width / 2 := by
  obtain ⟨before, rfl⟩ := List.getLast?_eq_some_iff.mp last
  have pos : 0 < width := valid.pos width (by simp)
  have twice : width = 2 * (width / 2) := by omega
  refine ⟨?_, twice, by omega⟩
  rw [← twice, List.prod_append, List.prod_singleton, Nat.mul_div_cancel _ pos]

section Jacobian
variable [Given ℝ] (a : StandardFunctions) {rows half : Nat} {input grad : List ℝ}
include a

theorem hasDerivAt_siluForward (x : ℝ) :
    HasDerivAt (siluForward : ℝ → ℝ) (activationFactor .silu x) x :=
  have smooth : Operation.silu ∈ [Operation.sigmoid, .tanh, .gelu, .silu] := by simp
  hasDerivAt_activationForward a smooth x

noncomputable def swiGluPartial (half : Nat) (input : List ℝ) (i j : Nat) : ℝ :=
  let base := j / half * (2 * half)
  let left := base + j % half
  let right := base + (half + j % half)
  if left = i then activationFactor .silu (input.getD left 0) * input.getD right 0
  else if right = i then siluForward (input.getD left 0)
  else 0

theorem hasDerivAt_swiGluValue {i : Nat} (hi : i < input.length) (j : Nat) (hhalf : 0 < half) :
    HasDerivAt (fun v => swiGluValue siluForward half (input.set i v) j)
      (swiGluPartial half input i j) (input.getD i 0) := by
  have apart : j / half * (2 * half) + j % half ≠ j / half * (2 * half) + (half + j % half) := by
    omega
  simp only [swiGluValue, swiGluPartial, getD_set hi]
  generalize j / half * (2 * half) + j % half = left at apart ⊢
  generalize j / half * (2 * half) + (half + j % half) = right at apart ⊢
  by_cases isLeft : left = i
  · subst isLeft
    simp only [if_true, if_neg (Ne.symm apart)]
    exact (hasDerivAt_siluForward a _).mul_const _
  · simp only [if_neg isLeft]
    by_cases isRight : right = i
    · subst isRight
      simp only [if_true]
      simpa using (hasDerivAt_id (input.getD right 0)).const_mul (siluForward (input.getD left 0))
    · simp only [if_neg isRight]
      exact hasDerivAt_const _ _

omit a in
theorem swiGluPartial_of_ne {row col j : Nat} (hcol : col < 2 * half)
    (hne : ¬(j / half = row ∧ (j % half = col ∨ half + j % half = col))) :
    swiGluPartial half input (row * (2 * half) + col) j = 0 := by
  have hj : j % half < half := Nat.mod_lt j (by omega)
  simp only [swiGluPartial]
  rw [if_neg, if_neg]
  · intro same
    obtain ⟨hrow, hat⟩ := (grid_eq_iff (show half + j % half < 2 * half by omega)).mp same.symm
    rw [grid_div hcol] at hrow
    rw [grid_mod hcol] at hat
    exact hne ⟨hrow.symm, Or.inr hat.symm⟩
  · intro same
    obtain ⟨hrow, hat⟩ := (grid_eq_iff (show j % half < 2 * half by omega)).mp same.symm
    rw [grid_div hcol] at hrow
    rw [grid_mod hcol] at hat
    exact hne ⟨hrow.symm, Or.inl hat.symm⟩

omit a in
theorem sum_swiGluPartial {i : Nat} (hi : i < rows * (2 * half)) :
    ∑ j ∈ range (rows * half), grad.getD j 0 * swiGluPartial half input i j =
      swiGluGradient half input grad i := by
  have hrow := grid_div_lt hi
  have hcol := grid_mod_lt hi
  have hat := Nat.div_add_mod' i (2 * half)
  unfold swiGluGradient
  dsimp only
  generalize i / (2 * half) = row at hrow hat ⊢
  generalize i % (2 * half) = col at hcol hat ⊢
  subst hat
  split
  · rename_i hleft
    rw [sum_eq_single_of_mem (row * half + col) (mem_range.mpr (grid_lt hrow hleft))]
    · simp only [swiGluPartial, grid_div hleft, grid_mod hleft, if_true]
      ring
    · intro j _ hne
      rw [swiGluPartial_of_ne hcol, mul_zero]
      rintro ⟨hdiv, same | beyond⟩
      · exact hne ((grid_eq_iff hleft).mpr ⟨hdiv, same⟩)
      · omega
  · rename_i hright
    have hback : col - half < half := by omega
    rw [sum_eq_single_of_mem (row * half + (col - half)) (mem_range.mpr (grid_lt hrow hback))]
    · simp only [swiGluPartial, grid_div hback, grid_mod hback]
      rw [if_neg (by omega), if_pos (by omega)]
    · intro j _ hne
      rw [swiGluPartial_of_ne hcol, mul_zero]
      rintro ⟨hdiv, same | beyond⟩
      · have := Nat.mod_lt j (show 0 < half by omega)
        omega
      · exact hne ((grid_eq_iff hback).mpr ⟨hdiv, by omega⟩)

noncomputable def swiGluProduct (rows width half : Nat) (grad input : List ℝ) : ℝ :=
  ∑ j ∈ range grad.length,
    grad.getD j 0 * (valuesOf (swiGluKernel rows width half input)).getD j 0

theorem swiGluGradient_isGradient (hlen : input.length = rows * (2 * half))
    (hg : grad.length = rows * half) (hhalf : 0 < half) (hbound : rows * (2 * half) < 2 ^ 63) :
    IsGradient (swiGluProduct rows (2 * half) half grad) input
      (valuesOf (swiGluGradientKernel rows (2 * half) half input grad)) := by
  rw [swiGluGradientKernel_eq hlen hg hbound]
  refine ⟨length_tab _ _, fun i hi => ?_⟩
  have product : ∀ v, swiGluProduct rows (2 * half) half grad (input.set i v) =
      ∑ j ∈ range (rows * half),
        grad.getD j 0 * swiGluValue siluForward half (input.set i v) j := by
    intro v
    unfold swiGluProduct
    rw [swiGluKernel_eq (by rw [List.length_set, hlen]) hbound, hg]
    exact sum_congr rfl fun j hj => by rw [valuesOf, getD_tab _ _ (mem_range.mp hj)]
  simp only [product, valuesOf]
  rw [getD_tab _ _ hi, ← sum_swiGluPartial (hlen ▸ hi)]
  exact HasDerivAt.fun_sum fun j _ => (hasDerivAt_swiGluValue a hi j hhalf).const_mul _

/-- For every input the factors are the derivatives of the forwards; for every shape with an
even last dimension the SwiGLU loop ends, writes every entry once, and leaves the product of
the upstream gradient with the Jacobian of the forward loop. -/
theorem activations_differentiate :
    (∀ operation ∈ [Operation.sigmoid, .tanh, .gelu, .silu], ∀ x : ℝ,
      HasDerivAt (activationForward operation) (activationFactor operation x) x) ∧
    ∀ (dims : List Nat) (width : Nat) (input grad : List ℝ), ValidDims dims →
      dims.getLast? = some width → width % 2 = 0 → input.length = dims.prod →
      grad.length = dims.prod / width * (width / 2) →
      (∀ x : List ℝ, x.length = dims.prod → ∃ result,
        swiGluKernel (dims.prod / width) width (width / 2) x = .ok result ∧
          result.length = grad.length) ∧
      (∃ values, swiGluGradientKernel (dims.prod / width) width (width / 2) input grad =
        .ok values ∧
        IsGradient (swiGluProduct (dims.prod / width) width (width / 2) grad) input values) ∧
      ∃ writes, swiGluWrites (dims.prod / width) width (width / 2) input grad = .ok writes ∧
        writes.Perm (List.range input.length) := by
  refine ⟨fun operation smooth x => hasDerivAt_activationForward a smooth x, ?_⟩
  intro dims width input grad valid last even hlen hg
  obtain ⟨extents, twice, hhalf⟩ := swiGlu_extents valid last even
  have hbound : dims.prod / width * (2 * (width / 2)) < 2 ^ 63 := by
    rw [← extents]
    exact valid.prod_lt.trans (by norm_num)
  rw [extents] at hlen
  generalize dims.prod / width = rows at extents hlen hg hbound ⊢
  generalize width / 2 = half at extents twice hhalf hlen hg hbound ⊢
  subst twice
  refine ⟨fun x hx => ⟨_, swiGluKernel_eq (hx.trans extents) hbound, by rw [length_tab, hg]⟩,
    ⟨_, swiGluGradientKernel_eq hlen hg hbound, ?_⟩, swiGluWrites_perm hlen hg hbound⟩
  have gradient := swiGluGradient_isGradient a hlen hg hhalf hbound
  rwa [swiGluGradientKernel_eq hlen hg hbound] at gradient

end Jacobian

open Classical in
@[reducible] noncomputable def standardGiven : Given ℝ where
  less a b := decide (a < b)
  lessEq a b := decide (a ≤ b)
  isFinite _ := true
  exp := Real.exp
  log := Real.log
  tanh := Real.tanh
  erf := Activations.errorFunction
  sqrt := Real.sqrt
  pow a b := a ^ b
  kInvSqrt2 := Activations.invSqrtTwo
  kInvSqrt2Pi := Activations.invSqrtTwoPi
  uniform _ _ bound := bound

theorem standardFunctions : @StandardFunctions standardGiven :=
  letI := standardGiven
  { exp := fun _ => rfl
    tanh := fun _ => rfl
    erf := Activations.hasDerivAt_errorFunction
    kInvSqrt2 := rfl
    kInvSqrt2Pi := rfl }

theorem activations_differentiate_standard : letI := standardGiven
    HasDerivAt (activationForward (F := ℝ) .sigmoid) (activationFactor .sigmoid (-1)) (-1) ∧
    ∃ writes, swiGluWrites 1 4 2 [(1 : ℝ), 2, 3, 4] [1, 1] = .ok writes ∧
      writes.Perm (List.range 4) := by
  let _ := standardGiven
  have both := activations_differentiate standardFunctions
  have grid :=
    both.2 [4] 4 [(1 : ℝ), 2, 3, 4] [1, 1] ⟨by decide, by decide, by decide⟩ rfl rfl rfl rfl
  exact ⟨both.1 .sigmoid (by simp) (-1), grid.2.2⟩

end Autograd

end Tensora
