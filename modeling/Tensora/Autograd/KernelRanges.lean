import Tensora.Autograd.ActivationDerivatives

/-! The kernels over matrices for every shape that is accepted: no index leaves its vector or the
64-bit range, and every element of the result is written. The kernels run over any scalars, so they
run over cells that remember whether they were written. -/
namespace Tensora.Autograd
open CheckedLoop

variable {F D : Type}

/-- A cell of a vector. A fresh vector holds the literal 0 and is not written; what an operation
computes is. -/
structure Cell (F : Type) where
  value : F
  written : Bool
  deriving DecidableEq, Repr

namespace Cell

def fresh (value : F) : Cell F := ⟨value, true⟩
def stale (value : F) : Cell F := ⟨value, false⟩

instance arith [Arith F] : Arith (Cell F) where
  zero := stale 0
  one := fresh 1
  add x y := fresh (x.value + y.value)
  sub x y := fresh (x.value - y.value)
  neg x := fresh (-x.value)
  mul x y := fresh (x.value * y.value)
  div x y := fresh (x.value / y.value)
  natCast n := fresh n

instance scalar [Scalar F] : Scalar (Cell F) where
  less x y := Scalar.less x.value y.value
  lessEq x y := Scalar.lessEq x.value y.value
  isFinite x := Scalar.isFinite x.value
  exp x := fresh (Scalar.exp x.value)
  log x := fresh (Scalar.log x.value)
  tanh x := fresh (Scalar.tanh x.value)
  erf x := fresh (Scalar.erf x.value)
  sqrt x := fresh (Scalar.sqrt x.value)
  pow x y := fresh (Scalar.pow x.value y.value)
  kInvSqrt2 := fresh Scalar.kInvSqrt2
  kInvSqrt2Pi := fresh Scalar.kInvSqrt2Pi
  uniform seed draws bound := fresh (Scalar.uniform seed draws bound.value)

theorem value_getD_stale [Scalar F] (xs : List F) (i : Nat) :
    ((xs.map stale).getD i 0).value = xs.getD i 0 := by
  rw [List.getD_eq_getElem?_getD, List.getD_eq_getElem?_getD, List.getElem?_map]
  cases xs[i]? <;> rfl

theorem getD_fresh [Scalar F] (xs : List F) {i : Nat} (hi : i < xs.length) :
    (xs.map fresh).getD i 0 = fresh (xs.getD i 0) := by
  rw [List.getD_eq_getElem?_getD, List.getD_eq_getElem?_getD, List.getElem?_map,
    List.getElem?_eq_getElem hi]
  rfl

theorem value_sumTo [Scalar F] (n : Nat) (f : Nat → Cell F) :
    (sumTo n f).value = sumTo n fun i => (f i).value := by
  induction n with
  | zero => rfl
  | succ n ih =>
      rw [sumTo_succ, sumTo_succ, ← ih]
      rfl

theorem sumTo_fresh [Scalar F] {n : Nat} (hn : 0 < n) (f : Nat → Cell F) :
    sumTo n f = fresh (sumTo n fun i => (f i).value) := by
  obtain ⟨n, rfl⟩ := Nat.exists_eq_succ_of_ne_zero hn.ne'
  rw [sumTo_succ, sumTo_succ, ← value_sumTo]
  rfl

theorem tab_fresh {n : Nat} {f : Nat → Cell F} {g : Nat → F} (h : ∀ i < n, f i = fresh (g i)) :
    tab n f = (tab n g).map fresh := by
  rw [tab, tab, List.map_map]
  exact List.map_congr_left fun i hi => h i (List.mem_range.mp hi)

end Cell

open Cell

/-- A kernel that runs to its end and leaves a vector of `size` elements, all written: `marked` is
its run over cells. -/
def Complete (size : Nat) (run : Except Fault (List F)) (marked : Except Fault (List (Cell F))) :
    Prop :=
  ∃ out, run = .ok out ∧ out.length = size ∧ marked = .ok (out.map fresh)

theorem complete_of_tab {size : Nat} {run : Except Fault (List F)}
    {marked : Except Fault (List (Cell F))} {f : Nat → F} {g : Nat → Cell F}
    (hrun : run = .ok (tab size f)) (hmarked : marked = .ok (tab size g))
    (h : ∀ i < size, g i = fresh (f i)) : Complete size run marked :=
  ⟨tab size f, hrun, length_tab size f, by rw [hmarked, tab_fresh h]⟩

variable [Scalar F]

section Matmul
variable {m k n : Nat} {left right grad : List F}

theorem matmulKernel_complete (hk : 0 < k) (hl : left.length = m * k) (hr : right.length = k * n)
    (hmk : m * k < 2 ^ 63) (hkn : k * n < 2 ^ 63) (hmn : m * n < 2 ^ 63) :
    Complete (m * n) (CpuBackend.matmulKernel m k n left right)
      (CpuBackend.matmulKernel m k n (left.map stale) (right.map stale)) := by
  refine complete_of_tab (Training.matmulKernel_eq hl hr hmk hkn hmn)
    (Training.matmulKernel_eq (by rw [List.length_map, hl]) (by rw [List.length_map, hr])
      hmk hkn hmn)
    fun i _ => ?_
  rw [sumTo_fresh hk]
  congr 1
  refine sumTo_congr fun j _ => ?_
  rw [← value_getD_stale left, ← value_getD_stale right]
  rfl

theorem matmulLeftKernel_complete (hn : 0 < n) (hg : grad.length = m * n)
    (hr : right.length = k * n) (hmk : m * k < 2 ^ 63) (hkn : k * n < 2 ^ 63)
    (hmn : m * n < 2 ^ 63) :
    Complete (m * k) (matmulLeftKernel m k n grad right)
      (matmulLeftKernel m k n (grad.map stale) (right.map stale)) := by
  refine complete_of_tab (matmulLeftKernel_eq hg hr hmk hkn hmn)
    (matmulLeftKernel_eq (by rw [List.length_map, hg]) (by rw [List.length_map, hr]) hmk hkn hmn)
    fun i _ => ?_
  rw [sumTo_fresh hn]
  congr 1
  refine sumTo_congr fun c _ => ?_
  rw [← value_getD_stale grad, ← value_getD_stale right]
  rfl

theorem matmulRightKernel_complete (hm : 0 < m) (hg : grad.length = m * n)
    (hl : left.length = m * k) (hmk : m * k < 2 ^ 63) (hkn : k * n < 2 ^ 63)
    (hmn : m * n < 2 ^ 63) :
    Complete (k * n) (matmulRightKernel m k n grad left)
      (matmulRightKernel m k n (grad.map stale) (left.map stale)) := by
  refine complete_of_tab (matmulRightKernel_eq hg hl hmk hkn hmn)
    (matmulRightKernel_eq (by rw [List.length_map, hg]) (by rw [List.length_map, hl]) hmk hkn hmn)
    fun i _ => ?_
  rw [sumTo_fresh hm]
  congr 1
  refine sumTo_congr fun r _ => ?_
  rw [← value_getD_stale grad, ← value_getD_stale left]
  rfl

end Matmul

section Rows
variable {rows cols : Nat} {matrix bias grad : List F}

theorem biasKernel_complete (hm : matrix.length = rows * cols) (hb : bias.length = cols)
    (hbound : rows * cols < 2 ^ 63) :
    Complete (rows * cols) (Training.biasKernel rows cols matrix bias)
      (Training.biasKernel rows cols (matrix.map stale) (bias.map stale)) := by
  refine complete_of_tab (Training.biasKernel_eq hm hb hbound)
    (Training.biasKernel_eq (by rw [List.length_map, hm]) (by rw [List.length_map, hb]) hbound)
    fun i _ => ?_
  rw [← value_getD_stale matrix, ← value_getD_stale bias]
  rfl

theorem biasGradientKernel_complete (hrows : 0 < rows) (hg : grad.length = rows * cols)
    (hbound : rows * cols < 2 ^ 63) :
    Complete cols (biasGradientKernel rows cols grad)
      (biasGradientKernel rows cols (grad.map stale)) := by
  refine complete_of_tab (biasGradientKernel_eq hg hbound)
    (biasGradientKernel_eq (by rw [List.length_map, hg]) hbound) fun c _ => ?_
  rw [sumTo_fresh hrows]
  congr 1
  exact sumTo_congr fun r _ => value_getD_stale grad _

theorem transposeKernel_complete (hg : grad.length = rows * cols) (hbound : rows * cols < 2 ^ 63) :
    Complete (cols * rows) (transposeKernel rows cols grad)
      (transposeKernel rows cols (grad.map fresh)) := by
  have hg' : (grad.map fresh).length = rows * cols := by rw [List.length_map, hg]
  refine complete_of_tab ((transposeKernel_eq hg hbound).trans (by rw [transposeData_eq_tab 0 hg]))
    ((transposeKernel_eq hg' hbound).trans (by rw [transposeData_eq_tab 0 hg'])) fun i hi => ?_
  have hin := grid_lt (grid_mod_lt hi) (grid_div_lt hi)
  exact getD_fresh grad (by rw [hg]; exact hin)

end Rows

section CrossEntropy
variable {batch classes : Nat} {logits target : List F}

theorem value_maximum (x y : Cell F) : (maximum x y).value = maximum x.value y.value :=
  apply_ite Cell.value _ _ _

theorem value_rowMax (logits : List F) (classes row : Nat) :
    (Training.rowMax (logits.map stale) classes row).value =
      Training.rowMax logits classes row := by
  unfold Training.rowMax
  have hfold : ∀ (xs : List Nat) (x : Cell F), (xs.foldl (fun maxLogit i =>
      maximum maxLogit ((logits.map stale).getD (row * classes + (i + 1)) 0)) x).value =
      xs.foldl (fun maxLogit i => maximum maxLogit (logits.getD (row * classes + (i + 1)) 0))
        x.value := by
    intro xs
    induction xs with
    | nil => intro x; rfl
    | cons i xs ih =>
        intro x
        rw [List.foldl_cons, ih, value_maximum, value_getD_stale]
        rfl
  rw [hfold, value_getD_stale]

theorem value_rowDenominator (logits : List F) (classes row : Nat) :
    (rowDenominator (logits.map stale) classes row).value = rowDenominator logits classes row := by
  unfold rowDenominator
  rw [value_sumTo]
  refine sumTo_congr fun col _ => ?_
  rw [← value_getD_stale logits, ← value_rowMax logits]
  rfl

theorem crossEntropyLogitsKernel_complete (scale : F) (hclasses : 0 < classes)
    (hl : logits.length = batch * classes) (ht : target.length = batch * classes)
    (hbound : batch * classes < 2 ^ 63) :
    Complete (batch * classes) (crossEntropyLogitsKernel batch classes scale logits target)
      (crossEntropyLogitsKernel batch classes (stale scale) (logits.map stale)
        (target.map stale)) := by
  refine complete_of_tab (crossEntropyLogitsKernel_eq scale hclasses hl ht hbound)
    (crossEntropyLogitsKernel_eq (stale scale) hclasses (by rw [List.length_map, hl])
      (by rw [List.length_map, ht]) hbound) fun i _ => ?_
  unfold crossEntropyLogitsGradient
  rw [← value_getD_stale logits, ← value_getD_stale target,
    ← value_rowMax logits, ← value_rowDenominator logits]
  rfl

theorem crossEntropyTargetKernel_complete (scale : F) (hclasses : 0 < classes)
    (hl : logits.length = batch * classes) (ht : target.length = batch * classes)
    (hbound : batch * classes < 2 ^ 63) :
    Complete (batch * classes) (crossEntropyTargetKernel batch classes scale logits target)
      (crossEntropyTargetKernel batch classes (stale scale) (logits.map stale)
        (target.map stale)) := by
  refine complete_of_tab (crossEntropyTargetKernel_eq scale hclasses hl ht hbound)
    (crossEntropyTargetKernel_eq (stale scale) hclasses (by rw [List.length_map, hl])
      (by rw [List.length_map, ht]) hbound) fun i _ => ?_
  unfold crossEntropyTargetGradient
  rw [← value_getD_stale logits, ← value_rowMax logits, ← value_rowDenominator logits]
  rfl

end CrossEntropy

section SwiGlu
variable {rows half : Nat} {input grad : List F}

theorem swiGluKernel_complete (hlen : input.length = rows * (2 * half))
    (hbound : rows * (2 * half) < 2 ^ 63) :
    Complete (rows * half) (Training.swiGluKernel rows (2 * half) half input)
      (Training.swiGluKernel rows (2 * half) half (input.map stale)) := by
  refine complete_of_tab (Training.swiGluKernel_eq hlen hbound)
    (Training.swiGluKernel_eq (by rw [List.length_map, hlen]) hbound) fun i _ => ?_
  unfold swiGluValue
  simp only [← value_getD_stale input]
  rfl

theorem swiGluGradientKernel_complete (hlen : input.length = rows * (2 * half))
    (hg : grad.length = rows * half) (hbound : rows * (2 * half) < 2 ^ 63) :
    Complete (rows * (2 * half)) (swiGluGradientKernel rows (2 * half) half input grad)
      (swiGluGradientKernel rows (2 * half) half (input.map stale) (grad.map stale)) := by
  have hlen' : (input.map stale).length = rows * (2 * half) := by rw [List.length_map, hlen]
  refine complete_of_tab ((swiGluGradientKernel_eq hlen hg hbound).trans (by rw [hlen]))
    ((swiGluGradientKernel_eq hlen' (by rw [List.length_map, hg]) hbound).trans (by rw [hlen']))
    fun i _ => ?_
  unfold swiGluGradient
  simp only [← value_getD_stale input, ← value_getD_stale grad]
  split
  · rfl
  · rfl

end SwiGlu

/-- `ValidateShape` accepts these dimensions. -/
def Accepted (dims : List Nat) : Prop := ∃ shape, validateShape (dims.map Int.ofNat) = .ok shape

theorem Accepted.valid {dims : List Nat} (h : Accepted dims) : ValidDims dims := by
  obtain ⟨shape, hshape⟩ := h
  obtain ⟨hcanonical, hdims⟩ := validateShape_ok hshape
  have heq : dims = shape.dimensions := List.map_injective_iff.mpr Int.ofNat_injective hdims
  rw [heq]
  exact hcanonical.valid

theorem Accepted.pos {dims : List Nat} (h : Accepted dims) {d : Nat} (hd : d ∈ dims) : 0 < d :=
  h.valid.pos d hd

theorem Accepted.lt {dims : List Nat} (h : Accepted dims) : dims.prod < 2 ^ 63 :=
  h.valid.prod_lt.trans (by norm_num)

theorem Accepted.lt_two {rows cols : Nat} (h : Accepted [rows, cols]) : rows * cols < 2 ^ 63 := by
  simpa using h.lt

theorem matmul_complete {m k n : Nat} (hleft : Accepted [m, k]) (hright : Accepted [k, n])
    (hresult : Accepted [m, n]) {left right grad : List F} (hl : left.length = [m, k].prod)
    (hr : right.length = [k, n].prod) (hg : grad.length = [m, n].prod) :
    Complete (m * n) (CpuBackend.matmulKernel m k n left right)
        (CpuBackend.matmulKernel m k n (left.map stale) (right.map stale)) ∧
      Complete (m * k) (matmulLeftKernel m k n grad right)
        (matmulLeftKernel m k n (grad.map stale) (right.map stale)) ∧
      Complete (k * n) (matmulRightKernel m k n grad left)
        (matmulRightKernel m k n (grad.map stale) (left.map stale)) := by
  simp only [List.prod_cons, List.prod_nil, Nat.mul_one] at hl hr hg
  have hmk := hleft.lt_two
  have hkn := hright.lt_two
  have hmn := hresult.lt_two
  exact ⟨matmulKernel_complete (hleft.pos (by simp)) hl hr hmk hkn hmn,
    matmulLeftKernel_complete (hright.pos (by simp)) hg hr hmk hkn hmn,
    matmulRightKernel_complete (hleft.pos (by simp)) hg hl hmk hkn hmn⟩

theorem matrix_complete {rows cols : Nat} (hmatrix : Accepted [rows, cols])
    {matrix bias grad : List F} (hm : matrix.length = [rows, cols].prod)
    (hb : bias.length = [cols].prod) (hg : grad.length = [rows, cols].prod) :
    Complete (rows * cols) (Training.biasKernel rows cols matrix bias)
        (Training.biasKernel rows cols (matrix.map stale) (bias.map stale)) ∧
      Complete cols (biasGradientKernel rows cols grad)
        (biasGradientKernel rows cols (grad.map stale)) ∧
      Complete (cols * rows) (transposeKernel rows cols grad)
        (transposeKernel rows cols (grad.map fresh)) := by
  simp only [List.prod_cons, List.prod_nil, Nat.mul_one] at hm hb hg
  have hbound := hmatrix.lt_two
  exact ⟨biasKernel_complete hm hb hbound,
    biasGradientKernel_complete (hmatrix.pos (by simp)) hg hbound,
    transposeKernel_complete hg hbound⟩

theorem crossEntropy_complete [Scalar D] [Precision F D] {batch classes : Nat}
    (hshape : Accepted [batch, classes]) (scale : F) {logits target : List F}
    (hl : logits.length = [batch, classes].prod) (ht : target.length = [batch, classes].prod) :
    (∃ value, Training.crossEntropyKernel D batch classes logits target = .ok value) ∧
      Complete (batch * classes) (crossEntropyLogitsKernel batch classes scale logits target)
        (crossEntropyLogitsKernel batch classes (stale scale) (logits.map stale)
          (target.map stale)) ∧
      Complete (batch * classes) (crossEntropyTargetKernel batch classes scale logits target)
        (crossEntropyTargetKernel batch classes (stale scale) (logits.map stale)
          (target.map stale)) := by
  simp only [List.prod_cons, List.prod_nil, Nat.mul_one] at hl ht
  have hclasses : 0 < classes := hshape.pos (by simp)
  have hbound := hshape.lt_two
  exact ⟨⟨_, Training.crossEntropyKernel_eq hclasses hl ht hbound⟩,
    crossEntropyLogitsKernel_complete scale hclasses hl ht hbound,
    crossEntropyTargetKernel_complete scale hclasses hl ht hbound⟩

theorem swiGlu_complete {dims : List Nat} {width : Nat} (hdims : Accepted dims)
    (hlast : dims.getLast? = some width) (hwidth : ¬(width = 0 ∨ width % 2 ≠ 0))
    {input grad : List F} (hi : input.length = dims.prod)
    (hg : grad.length = dims.prod / width * (width / 2)) :
    Complete (dims.prod / width * (width / 2))
        (Training.swiGluKernel (dims.prod / width) width (width / 2) input)
        (Training.swiGluKernel (dims.prod / width) width (width / 2) (input.map stale)) ∧
      Complete dims.prod
        (swiGluGradientKernel (dims.prod / width) width (width / 2) input grad)
        (swiGluGradientKernel (dims.prod / width) width (width / 2) (input.map stale)
          (grad.map stale)) := by
  have heven : width % 2 = 0 := by omega
  obtain ⟨hprod, hhalf, -⟩ := swiGlu_extents hdims.valid hlast heven
  have hbound := hdims.lt
  generalize dims.prod / width = rows at hprod hg ⊢
  generalize width / 2 = half at hprod hhalf hg ⊢
  subst hhalf
  rw [hprod] at hi hbound ⊢
  exact ⟨swiGluKernel_complete hi hbound, swiGluGradientKernel_complete hi hg hbound⟩

/-- Every kernel over matrices, for every accepted shape of its operands. -/
theorem kernels_complete [Scalar D] [Precision F D] :
    (∀ (m k n : Nat) (left right grad : List F), Accepted [m, k] → Accepted [k, n] →
      Accepted [m, n] → left.length = [m, k].prod → right.length = [k, n].prod →
      grad.length = [m, n].prod →
      Complete (m * n) (CpuBackend.matmulKernel m k n left right)
          (CpuBackend.matmulKernel m k n (left.map stale) (right.map stale)) ∧
        Complete (m * k) (matmulLeftKernel m k n grad right)
          (matmulLeftKernel m k n (grad.map stale) (right.map stale)) ∧
        Complete (k * n) (matmulRightKernel m k n grad left)
          (matmulRightKernel m k n (grad.map stale) (left.map stale))) ∧
    (∀ (rows cols : Nat) (matrix bias grad : List F), Accepted [rows, cols] →
      matrix.length = [rows, cols].prod → bias.length = [cols].prod →
      grad.length = [rows, cols].prod →
      Complete (rows * cols) (Training.biasKernel rows cols matrix bias)
          (Training.biasKernel rows cols (matrix.map stale) (bias.map stale)) ∧
        Complete cols (biasGradientKernel rows cols grad)
          (biasGradientKernel rows cols (grad.map stale)) ∧
        Complete (cols * rows) (transposeKernel rows cols grad)
          (transposeKernel rows cols (grad.map fresh))) ∧
    (∀ (batch classes : Nat) (scale : F) (logits target : List F), Accepted [batch, classes] →
      logits.length = [batch, classes].prod → target.length = [batch, classes].prod →
      (∃ value, Training.crossEntropyKernel D batch classes logits target = .ok value) ∧
        Complete (batch * classes) (crossEntropyLogitsKernel batch classes scale logits target)
          (crossEntropyLogitsKernel batch classes (stale scale) (logits.map stale)
            (target.map stale)) ∧
        Complete (batch * classes) (crossEntropyTargetKernel batch classes scale logits target)
          (crossEntropyTargetKernel batch classes (stale scale) (logits.map stale)
            (target.map stale))) ∧
    ∀ (dims : List Nat) (width : Nat) (input grad : List F), Accepted dims →
      dims.getLast? = some width → ¬(width = 0 ∨ width % 2 ≠ 0) → input.length = dims.prod →
      grad.length = dims.prod / width * (width / 2) →
      Complete (dims.prod / width * (width / 2))
          (Training.swiGluKernel (dims.prod / width) width (width / 2) input)
          (Training.swiGluKernel (dims.prod / width) width (width / 2) (input.map stale)) ∧
        Complete dims.prod
          (swiGluGradientKernel (dims.prod / width) width (width / 2) input grad)
          (swiGluGradientKernel (dims.prod / width) width (width / 2) (input.map stale)
            (grad.map stale)) :=
  ⟨fun _ _ _ _ _ _ hleft hright hresult hl hr hg => matmul_complete hleft hright hresult hl hr hg,
    fun _ _ _ _ _ hmatrix hm hb hg => matrix_complete hmatrix hm hb hg,
    fun _ _ scale _ _ hshape hl ht => crossEntropy_complete hshape scale hl ht,
    fun _ _ _ _ hdims hlast hwidth hi hg => swiGlu_complete hdims hlast hwidth hi hg⟩

/-- A single row times a matrix with three columns. -/
theorem kernels_complete_row : letI := standardGiven
    Complete 3 (CpuBackend.matmulKernel 1 2 3 [(1 : ℝ), 2] [3, 4, 5, 6, 7, 8])
      (CpuBackend.matmulKernel 1 2 3 ([1, 2].map stale) ([3, 4, 5, 6, 7, 8].map stale)) := by
  let _ := standardGiven
  have hleft : Accepted [1, 2] := ⟨_, rfl⟩
  have hright : Accepted [2, 3] := ⟨_, rfl⟩
  have hresult : Accepted [1, 3] := ⟨_, rfl⟩
  exact ((@kernels_complete ℝ ℝ _ _ _).1 1 2 3 [1, 2] [3, 4, 5, 6, 7, 8] [9, 10, 11] hleft hright
    hresult rfl rfl rfl).1

end Tensora.Autograd
