import Tensora.Autograd.Backward
import Tensora.Autograd.ForwardValues

/-! The gradient each operation hands to a parent, as a function of the upstream
gradient and the parents' contents, and the loops that compute it. -/
namespace Tensora.Autograd
open CheckedLoop

variable {F : Type} [Scalar F]

/-- The gradient of entry `i` of a row `[a, b]` with result `silu a * b`. -/
def swiGluGradient (half : Nat) (input grad : List F) (i : Nat) : F :=
  let base := i / (2 * half) * (2 * half)
  let col := i % (2 * half)
  let row := i / (2 * half)
  if col < half then
    grad.getD (row * half + col) 0 * input.getD (base + (half + col)) 0 *
      activationFactor .silu (input.getD (base + col) 0)
  else
    grad.getD (row * half + (col - half)) 0 *
      Training.siluForward (input.getD (base + (col - half)) 0)

def mseGradient (scale : F) (prediction target : List F) : List F :=
  tab prediction.length fun i => scale * (prediction.getD i 0 - target.getD i 0)

def valuesOf (kernel : Except Fault (List F)) : List F :=
  match kernel with
  | .ok values => values
  | .error _ => []

/-- The contribution of a node to its parent number `j`. -/
def localGradient :
    Operation → List (List Nat) → List (List F) → List F → Nat → List F
  | .identity, _, _, grad, _ => grad
  | .reshape, _, _, grad, _ => grad
  | .transpose2D, [[rows, cols]], _, grad, _ => transposeData cols rows grad
  | .add, _, _, grad, _ => grad
  | .multiply, _, [_, y], grad, 0 => tab grad.length fun i => grad.getD i 0 * y.getD i 0
  | .multiply, _, [x, _], grad, _ => tab grad.length fun i => grad.getD i 0 * x.getD i 0
  | .sum, _, [x], grad, _ => List.replicate x.length (grad.getD 0 0)
  | .matmul, [[m, k], [_, n]], [_, y], grad, 0 =>
      tab (m * k) fun i => sumTo n fun c =>
        grad.getD (i / k * n + c) 0 * y.getD (i % k * n + c) 0
  | .matmul, [[m, k], [_, n]], [x, _], grad, _ =>
      tab (k * n) fun i => sumTo m fun r =>
        x.getD (r * k + i / n) 0 * grad.getD (r * n + i % n) 0
  | .relu, _, [x], grad, _ => activate .relu x grad
  | .sigmoid, _, [x], grad, _ => activate .sigmoid x grad
  | .tanh, _, [x], grad, _ => activate .tanh x grad
  | .gelu, _, [x], grad, _ => activate .gelu x grad
  | .silu, _, [x], grad, _ => activate .silu x grad
  | .swiGlu, [dims], [x], grad, _ => tab x.length (swiGluGradient (dims.getLastD 0 / 2) x grad)
  | .mse, _, [p, t], grad, 0 =>
      mseGradient (two * grad.getD 0 0 / (p.length : F)) p t
  | .mse, _, [p, t], grad, _ =>
      mseGradient (-(two * grad.getD 0 0 / (p.length : F))) p t
  | .crossEntropy, [[batch, classes], _], [x, y], grad, 0 =>
      valuesOf (crossEntropyLogitsKernel batch classes (grad.getD 0 0 / (batch : F)) x y)
  | .crossEntropy, [[batch, classes], _], [x, y], grad, _ =>
      valuesOf (crossEntropyTargetKernel batch classes (grad.getD 0 0 / (batch : F)) x y)
  | .biasAdd, [[rows, cols], _], _, grad, 1 =>
      tab cols fun c => sumTo rows fun r => grad.getD (r * cols + c) 0
  | .biasAdd, _, _, grad, _ => grad
  | _, _, _, _, _ => []
where
  activate (operation : Operation) (x grad : List F) : List F :=
    tab grad.length fun i => grad.getD i 0 * activationFactor operation (x.getD i 0)

theorem productKernel_eq {grad other : List F} (h : other.length = grad.length) :
    productKernel grad other =
      .ok (tab grad.length fun i => grad.getD i 0 * other.getD i 0) := by
  refine fill_eq _ fun i hi => ?_
  rw [load_of_lt 0 hi, load_of_lt 0 (by omega)]
  rfl

theorem activationKernel_eq {operation : Operation} {input grad : List F}
    (h : input.length = grad.length) :
    activationKernel operation input grad =
      .ok (tab grad.length fun i =>
        grad.getD i 0 * activationFactor operation (input.getD i 0)) := by
  refine fill_eq _ fun i hi => ?_
  rw [load_of_lt 0 hi, load_of_lt 0 (by omega)]
  rfl

theorem mseGradientKernel_eq {scale : F} {prediction target : List F}
    (h : target.length = prediction.length) :
    mseGradientKernel scale prediction target = .ok (mseGradient scale prediction target) := by
  refine fill_eq _ fun i hi => ?_
  rw [load_of_lt 0 hi, load_of_lt 0 (by omega)]
  rfl

theorem transposeKernel_eq {rows cols : Nat} {input : List F} (hlen : input.length = rows * cols)
    (hbound : rows * cols < 2 ^ 63) :
    transposeKernel rows cols input = .ok (transposeData rows cols input) := by
  rw [transposeData_eq_tab 0 hlen]
  suffices h : ∃ out, transposeKernel rows cols input = .ok out ∧
      Marked (cols * rows) (fun i => input.getD (i % rows * cols + i / rows) 0) (fun _ => 0)
        (fun i => i % rows < rows) out by
    obtain ⟨out, hout, hmark⟩ := h
    rw [hout, hmark.all fun i hi => grid_mod_lt hi]
  unfold transposeKernel
  refine loop_inv (fun row out => Marked (cols * rows)
    (fun i => input.getD (i % rows * cols + i / rows) 0) (fun _ => 0) (fun i => i % rows < row) out)
    (Marked.start _ _ (by simp)) ?_
  intro row hrow out hout
  obtain ⟨out', hout', hmark⟩ := loop_inv (n := cols) (s := out)
    (b := fun output col => do
      let value ← load input (← index row cols col)
      store output (← index col rows row) value)
    (fun col out => Marked (cols * rows) (fun i => input.getD (i % rows * cols + i / rows) 0)
      (fun _ => 0) (fun i => i % rows < row ∨ i % rows = row ∧ i / rows < col) out)
    (hout.congr fun j _ => by simp) (by
      intro col hcol out hout
      have hin := grid_lt hrow hcol
      have hpos := grid_lt hcol hrow
      have hswap : cols * rows = rows * cols := Nat.mul_comm _ _
      rw [index_of_lt (by omega), index_of_lt (by omega)]
      simp only [bind, Except.bind]
      rw [load_of_lt 0 (show row * cols + col < input.length by omega)]
      refine hout.store hpos ?_ fun j _ => ?_
      · simp only [grid_mod hrow, grid_div hrow]
      · rw [grid_eq_iff hrow]
        omega)
  refine ⟨out', hout', hmark.congr fun j hj => ?_⟩
  have := grid_div_lt hj
  omega

theorem loop_rows {α β : Type} (rows cols : Nat) (p : Nat → Except Fault β)
    (body : β → List α → Nat → Nat → Except Fault (List α)) (s : Nat → β) (f : Nat → α) (d : α)
    (hp : ∀ row < rows, p row = .ok (s row))
    (h : ∀ row < rows, ∀ col < cols, ∀ out, body (s row) out row col =
      store out (row * cols + col) (f (row * cols + col))) :
    (loop rows (List.replicate (rows * cols) d) fun out row => do
      let s ← p row
      loop cols out fun out col => body s out row col) = .ok (tab (rows * cols) f) := by
  suffices hex : ∃ out, (loop rows (List.replicate (rows * cols) d) fun out row => do
      let s ← p row
      loop cols out fun out col => body s out row col) = .ok out ∧
      Marked (rows * cols) f (fun _ => d) (fun i => i < rows * cols) out by
    obtain ⟨out, hout, hmark⟩ := hex
    rw [hout, hmark.all fun _ hi => hi]
  refine loop_inv (fun row out => Marked (rows * cols) f (fun _ => d) (fun i => i < row * cols) out)
    (Marked.start _ _ (by simp)) ?_
  intro row hrow out hout
  simp only [hp row hrow, bind, Except.bind]
  obtain ⟨out', hout', hmark⟩ := loop_inv (n := cols) (s := out)
    (b := fun out col => body (s row) out row col)
    (fun col out => Marked (rows * cols) f (fun _ => d) (fun i => i < row * cols + col) out)
    (by simpa using hout) (by
      intro col hcol out hout
      rw [h row hrow col hcol out]
      exact hout.store (grid_lt hrow hcol) rfl fun j _ => by omega)
  refine ⟨out', hout', hmark.congr fun j _ => ?_⟩
  rw [Nat.add_mul, Nat.one_mul]

theorem loop_grid {α : Type} {rows cols : Nat} {body : List α → Nat → Nat → Except Fault (List α)}
    (f : Nat → α) (d : α)
    (h : ∀ row < rows, ∀ col < cols, ∀ out, body out row col =
      store out (row * cols + col) (f (row * cols + col))) :
    (loop rows (List.replicate (rows * cols) d) fun out row =>
      loop cols out fun out col => body out row col) = .ok (tab (rows * cols) f) :=
  loop_rows rows cols (fun _ => .ok ()) (fun _ => body) (fun _ => ()) f d (fun _ _ => rfl) h

section Matmul
variable {m k n : Nat} {grad : List F}

theorem matmulLeftKernel_eq {right : List F} (hg : grad.length = m * n)
    (hr : right.length = k * n) (hmk : m * k < 2 ^ 63) (hkn : k * n < 2 ^ 63)
    (hmn : m * n < 2 ^ 63) :
    matmulLeftKernel m k n grad right = .ok (tab (m * k) fun i => sumTo n fun c =>
      grad.getD (i / k * n + c) 0 * right.getD (i % k * n + c) 0) := by
  unfold matmulLeftKernel
  rw [index_of_lt (by omega)]
  simp only [bind, Except.bind, Nat.add_zero]
  refine loop_grid _ _ fun row hrow inner hinner out => ?_
  have hpos := grid_lt hrow hinner
  rw [sumLoop_eq (fun c => grad.getD (row * n + c) 0 * right.getD (inner * n + c) 0)]
  · rw [index_of_lt (by omega)]
    simp only [grid_div hinner, grid_mod hinner]
  · intro c hc
    have hgpos := grid_lt hrow hc
    have hrpos := grid_lt hinner hc
    rw [index_of_lt (by omega), index_of_lt (by omega)]
    simp only []
    rw [load_of_lt 0 (by omega), load_of_lt 0 (by omega)]
    rfl

theorem matmulRightKernel_eq {left : List F} (hg : grad.length = m * n)
    (hl : left.length = m * k) (hmk : m * k < 2 ^ 63) (hkn : k * n < 2 ^ 63)
    (hmn : m * n < 2 ^ 63) :
    matmulRightKernel m k n grad left = .ok (tab (k * n) fun i => sumTo m fun r =>
      left.getD (r * k + i / n) 0 * grad.getD (r * n + i % n) 0) := by
  unfold matmulRightKernel
  rw [index_of_lt (by omega)]
  simp only [bind, Except.bind, Nat.add_zero]
  refine loop_grid _ _ fun inner hinner col hcol out => ?_
  have hpos := grid_lt hinner hcol
  rw [sumLoop_eq (fun r => left.getD (r * k + inner) 0 * grad.getD (r * n + col) 0)]
  · rw [index_of_lt (by omega)]
    simp only [grid_div hcol, grid_mod hcol]
  · intro r hr
    have hlpos := grid_lt hr hinner
    have hgpos := grid_lt hr hcol
    rw [index_of_lt (by omega), index_of_lt (by omega)]
    simp only []
    rw [load_of_lt 0 (by omega), load_of_lt 0 (by omega)]
    rfl

end Matmul

/-- After `row` rows column `c` holds the sum of its first `row` entries. -/
theorem biasGradientKernel_eq {rows cols : Nat} {grad : List F} (hg : grad.length = rows * cols)
    (hbound : rows * cols < 2 ^ 63) :
    biasGradientKernel rows cols grad =
      .ok (tab cols fun c => sumTo rows fun r => grad.getD (r * cols + c) 0) := by
  let sums (row : Nat) (c : Nat) : F := sumTo row fun r => grad.getD (r * cols + c) 0
  have hinit : List.replicate cols (0 : F) = tab cols (sums 0) :=
    tab_eq_of_length List.length_replicate fun i hi => by simp [sums]
  have hrow : ∀ row < rows,
      (loop cols (tab cols (sums row)) fun values col => do
        store values col ((← load values col) + (← load grad (← index row cols col)))) =
        .ok (tab cols (sums (row + 1))) := by
    intro row hrow
    obtain ⟨out, hout, hmark⟩ := loop_inv (n := cols) (s := tab cols (sums row))
      (b := fun values col => do
        store values col ((← load values col) + (← load grad (← index row cols col))))
      (fun col out => Marked cols (sums (row + 1)) (sums row) (fun i => i < col) out)
      ⟨length_tab _ _, fun j hj => by rw [getElem?_tab_of_lt _ hj, if_neg (Nat.not_lt_zero j)]⟩ (by
        intro col hcol out hout
        have hpos := grid_lt hrow hcol
        rw [hout.load hcol, if_neg (Nat.lt_irrefl _), index_of_lt (by omega)]
        simp only [bind, Except.bind]
        rw [load_of_lt 0 (show row * cols + col < grad.length by omega)]
        exact hout.store hcol (sumTo_succ row _).symm fun j _ => by omega)
    rw [hout, hmark.all fun _ hi => hi]
  unfold biasGradientKernel
  rw [hinit]
  exact loop_eq (fun row => tab cols (sums row)) hrow

theorem swiGluGradientKernel_eq {rows half : Nat} {input grad : List F}
    (hlen : input.length = rows * (2 * half)) (hg : grad.length = rows * half)
    (hbound : rows * (2 * half) < 2 ^ 63) :
    swiGluGradientKernel rows (2 * half) half input grad =
      .ok (tab input.length (swiGluGradient half input grad)) := by
  rw [hlen]
  suffices h : ∃ out, swiGluGradientKernel rows (2 * half) half input grad = .ok out ∧
      Marked (rows * (2 * half)) (swiGluGradient half input grad) (fun _ => 0)
        (fun i => i < rows * (2 * half)) out by
    obtain ⟨out, hout, hmark⟩ := h
    rw [hout, hmark.all fun _ hi => hi]
  have hsmall : rows * half ≤ rows * (2 * half) := Nat.mul_le_mul_left _ (by omega)
  unfold swiGluGradientKernel
  rw [hlen]
  refine loop_inv (fun row out => Marked (rows * (2 * half)) (swiGluGradient half input grad)
    (fun _ => 0) (fun i => i < row * (2 * half)) out) (Marked.start _ _ (by simp)) ?_
  intro row hrow out hout
  have hrowle : row * (2 * half) ≤ rows * (2 * half) := Nat.mul_le_mul_right _ hrow.le
  have hbase : row * (2 * half) + 2 * half ≤ rows * (2 * half) := by
    calc row * (2 * half) + 2 * half = (row + 1) * (2 * half) := by ring
      _ ≤ rows * (2 * half) := Nat.mul_le_mul_right _ hrow
  have hrowle' : row * half ≤ rows * half := Nat.mul_le_mul_right _ hrow.le
  rw [index_of_lt (by omega), index_of_lt (by omega)]
  simp only [bind, Except.bind, Nat.add_zero]
  -- Row `row` has its first `col` entries in either half.
  let written (col i : Nat) : Prop := i < row * (2 * half) + col ∨
    row * (2 * half) + half ≤ i ∧ i < row * (2 * half) + half + col
  have hdec : ∀ col, DecidablePred (written col) := fun col i => by
    unfold written
    infer_instance
  obtain ⟨out', hout', hmark⟩ := loop_inv (n := half) (s := out)
    (b := fun values col => do
      let a ← load input (row * (2 * half) + col)
      let b ← load input (row * (2 * half) + (half + col))
      let upstreamValue ← load grad (row * half + col)
      let values ← store values (row * (2 * half) + col) (upstreamValue * b *
        (1 / (1 + Scalar.exp (-a)) * (1 + a * (1 - 1 / (1 + Scalar.exp (-a))))))
      store values (row * (2 * half) + (half + col)) (upstreamValue *
        (a * (1 / (1 + Scalar.exp (-a))))))
    (fun col out => Marked (rows * (2 * half)) (swiGluGradient half input grad) (fun _ => 0)
      (written col) out)
    (hout.congr fun j _ => by simp only [written]; omega) (by
      intro col hcol out hout
      have hgpos := grid_lt hrow hcol
      have hleft : col < 2 * half := by omega
      have hright : half + col < 2 * half := by omega
      rw [load_of_lt 0 (show row * (2 * half) + col < input.length by omega),
        load_of_lt 0 (show row * (2 * half) + (half + col) < input.length by omega),
        load_of_lt 0 (show row * half + col < grad.length by omega)]
      have hdec' : DecidablePred fun i => written col i ∨ i = row * (2 * half) + col :=
        fun i => instDecidableOr
      obtain ⟨mid, hmid, hmark⟩ := hout.store (e := fun i => written col i ∨
        i = row * (2 * half) + col) (grid_lt hrow hleft) (v := grad.getD (row * half + col) 0 *
          input.getD (row * (2 * half) + (half + col)) 0 *
          activationFactor .silu (input.getD (row * (2 * half) + col) 0)) (by
          simp only [swiGluGradient, grid_div hleft, grid_mod hleft, if_pos hcol])
        fun j _ => Iff.rfl
      simp only [activationFactor] at hmid
      simp only [bind, Except.bind]
      rw [hmid]
      refine hmark.store (grid_lt hrow hright) ?_ fun j _ => ?_
      · simp only [swiGluGradient, grid_div hright, grid_mod hright]
        rw [if_neg (by omega), Nat.add_sub_cancel_left]
        rfl
      · simp only [written]
        omega)
  refine ⟨out', hout', hmark.congr fun j _ => ?_⟩
  have hstep : (row + 1) * (2 * half) = row * (2 * half) + 2 * half := by ring
  rw [hstep]
  simp only [written]
  omega

section CrossEntropy
variable {batch classes : Nat} {logits target : List F}

def rowDenominator (logits : List F) (classes row : Nat) : F :=
  sumTo classes fun col =>
    Scalar.exp (logits.getD (row * classes + col) 0 - Training.rowMax logits classes row)

def crossEntropyLogitsGradient (classes : Nat) (scale : F) (logits target : List F) (i : Nat) : F :=
  scale * (Scalar.exp (logits.getD i 0 - Training.rowMax logits classes (i / classes)) /
    rowDenominator logits classes (i / classes) - target.getD i 0)

def crossEntropyTargetGradient (classes : Nat) (scale : F) (logits : List F) (i : Nat) : F :=
  -scale * (logits.getD i 0 - (Scalar.log (rowDenominator logits classes (i / classes)) +
    Training.rowMax logits classes (i / classes)))

theorem logitsRowMax_eq {row : Nat} (hrow : row < batch) (hclasses : 0 < classes)
    (hlen : logits.length = batch * classes) (hbound : batch * classes < 2 ^ 63) :
    logitsRowMax logits row classes = .ok (Training.rowMax logits classes row) :=
  Training.maxLogit_eq hrow hclasses hlen hbound

theorem logitsRowDenominator_eq {row : Nat} (hrow : row < batch)
    (hlen : logits.length = batch * classes) (hbound : batch * classes < 2 ^ 63) :
    logitsRowDenominator logits row classes (Training.rowMax logits classes row) =
      .ok (rowDenominator logits classes row) := by
  apply sumLoop_eq
  intro col hcol
  have hpos := grid_lt hrow hcol
  rw [index_of_lt (by omega)]
  simp only [bind, Except.bind]
  rw [load_of_lt 0 (by omega)]
  rfl

theorem crossEntropyLogitsKernel_eq (scale : F) (hclasses : 0 < classes)
    (hl : logits.length = batch * classes) (ht : target.length = batch * classes)
    (hbound : batch * classes < 2 ^ 63) :
    crossEntropyLogitsKernel batch classes scale logits target =
      .ok (tab (batch * classes) (crossEntropyLogitsGradient classes scale logits target)) := by
  unfold crossEntropyLogitsKernel
  rw [hl]
  have h := loop_rows batch classes (fun row => do
      let maxLogit ← logitsRowMax logits row classes
      let denominator ← logitsRowDenominator logits row classes maxLogit
      return (maxLogit, denominator))
    (fun s values row col => do
      let position ← index row classes col
      let probability := Scalar.exp ((← load logits position) - s.1) / s.2
      store values position (scale * (probability - (← load target position))))
    (fun row => (Training.rowMax logits classes row, rowDenominator logits classes row))
    (crossEntropyLogitsGradient classes scale logits target) (0 : F) ?_ ?_
  · simpa only [bind_assoc, pure_bind] using h
  · intro row hrow
    simp only [logitsRowMax_eq hrow hclasses hl hbound, logitsRowDenominator_eq hrow hl hbound,
      bind, Except.bind]
    rfl
  · intro row hrow col hcol out
    have hpos := grid_lt hrow hcol
    rw [index_of_lt (by omega)]
    simp only [bind, Except.bind]
    rw [load_of_lt 0 (by omega), load_of_lt 0 (by omega), crossEntropyLogitsGradient,
      grid_div hcol]

theorem crossEntropyTargetKernel_eq (scale : F) (hclasses : 0 < classes)
    (hl : logits.length = batch * classes) (ht : target.length = batch * classes)
    (hbound : batch * classes < 2 ^ 63) :
    crossEntropyTargetKernel batch classes scale logits target =
      .ok (tab (batch * classes) (crossEntropyTargetGradient classes scale logits)) := by
  unfold crossEntropyTargetKernel
  rw [ht]
  have h := loop_rows batch classes (fun row => do
      let maxLogit ← logitsRowMax logits row classes
      let denominator ← logitsRowDenominator logits row classes maxLogit
      return Scalar.log denominator + maxLogit)
    (fun s values row col => do
      let position ← index row classes col
      store values position (-scale * ((← load logits position) - s)))
    (fun row => Scalar.log (rowDenominator logits classes row) +
      Training.rowMax logits classes row)
    (crossEntropyTargetGradient classes scale logits) (0 : F) ?_ ?_
  · simpa only [bind_assoc, pure_bind] using h
  · intro row hrow
    simp only [logitsRowMax_eq hrow hclasses hl hbound, logitsRowDenominator_eq hrow hl hbound,
      bind, Except.bind]
    rfl
  · intro row hrow col hcol out
    have hpos := grid_lt hrow hcol
    rw [index_of_lt (by omega)]
    simp only [bind, Except.bind]
    rw [load_of_lt 0 (by omega), crossEntropyTargetGradient, grid_div hcol]

end CrossEntropy

end Tensora.Autograd
