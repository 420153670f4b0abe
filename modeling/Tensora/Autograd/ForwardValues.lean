import Tensora.Tensor.HeapSteps
import Tensora.Training.Operations

/-! The value each operation computes from its operands' contents, and the kernels
that compute it without leaving their arrays or the index range. -/
namespace Tensora
open CheckedLoop
open Precision (widen narrow)

variable {F D : Type}

structure Functions (F : Type) where
  activation : Operation → F → F
  crossEntropy : Nat → Nat → List F → List F → F

section Values
variable [Arith F] [Arith D] [Precision F D]

def swiGluValue (silu : F → F) (half : Nat) (input : List F) (i : Nat) : F :=
  let base := i / half * (2 * half)
  silu (input.getD (base + i % half) 0) * input.getD (base + (half + i % half)) 0

variable (D) in
def mseValue (prediction target : List F) : F :=
  narrow ((sumTo prediction.length fun i =>
    ((widen (prediction.getD i 0) - widen (target.getD i 0)) *
      (widen (prediction.getD i 0) - widen (target.getD i 0)) : D)) / (prediction.length : D))

variable (D) in
/-- The contents of a result from the dimensions and the contents of its operands. -/
def forwardValues (functions : Functions F) :
    Operation → List (List Nat) → List (List F) → List F
  | .identity, _, [x] => x
  | .reshape, _, [x] => x
  | .transpose2D, [[rows, cols]], [x] => transposeData rows cols x
  | .add, _, [x, y] => tab x.length fun i => x.getD i 0 + y.getD i 0
  | .multiply, _, [x, y] => tab x.length fun i => x.getD i 0 * y.getD i 0
  | .sum, _, [x] => [sumTo x.length fun i => x.getD i 0]
  | .matmul, [[m, k], [_, n]], [x, y] =>
      tab (m * n) fun i => sumTo k fun j => x.getD (i / n * k + j) 0 * y.getD (j * n + i % n) 0
  | .relu, _, [x] => x.map (functions.activation .relu)
  | .sigmoid, _, [x] => x.map (functions.activation .sigmoid)
  | .tanh, _, [x] => x.map (functions.activation .tanh)
  | .gelu, _, [x] => x.map (functions.activation .gelu)
  | .silu, _, [x] => x.map (functions.activation .silu)
  | .swiGlu, [dims], [x] =>
      let half := dims.getLastD 0 / 2
      tab (x.length / (2 * half) * half) (swiGluValue (functions.activation .silu) half x)
  | .mse, _, [x, y] => [mseValue D x y]
  | .crossEntropy, [[batch, classes], _], [x, y] => [functions.crossEntropy batch classes x y]
  | .biasAdd, [[rows, cols], _], [x, b] =>
      tab (rows * cols) fun i => x.getD i 0 + b.getD (i % cols) 0
  | _, _, _ => []

variable (D) in
theorem forwardValues_activation (functions : Functions F) {operation : Operation}
    (h : operation ∈ [Operation.relu, .sigmoid, .tanh, .gelu, .silu]) (dims : List (List Nat))
    (x : List F) :
    forwardValues D functions operation dims [x] = x.map (functions.activation operation) := by
  simp only [List.mem_cons, List.not_mem_nil, or_false] at h
  obtain rfl | rfl | rfl | rfl | rfl := h <;> simp only [forwardValues]

end Values

namespace Training

def activationForward [Scalar F] : Operation → F → F
  | .relu => reluForward
  | .sigmoid => sigmoidForward
  | .tanh => tanhForward
  | .gelu => geluForward
  | _ => siluForward

variable (F D) in
def codeFunctions [Scalar F] [Scalar D] [Precision F D] : Functions F where
  activation := activationForward
  crossEntropy := fun batch classes logits target =>
    match crossEntropyKernel D batch classes logits target with
    | .ok value => value
    | .error _ => 0

theorem zipKernel_eq [Zero F] (combine : F → F → F) {left right : List F}
    (h : right.length = left.length) :
    CpuBackend.zipKernel combine left.length left right =
      .ok (tab left.length fun i => combine (left.getD i 0) (right.getD i 0)) := by
  refine fill_eq _ fun i hi => ?_
  rw [load_of_lt 0 hi, load_of_lt 0 (by omega)]
  rfl

theorem mapKernel_eq (forward : F → F) (input : List F) :
    mapKernel forward input = .ok (input.map forward) := by
  cases input with
  | nil => rfl
  | cons d rest =>
      have hfill : mapKernel forward (d :: rest) =
          .ok (tab (d :: rest).length fun i => forward ((d :: rest).getD i d)) := by
        refine fill_eq _ fun i hi => ?_
        rw [load_of_lt d hi]
        rfl
      rw [hfill]
      conv_rhs => rw [eq_tab_getD (d :: rest) d]
      simp only [tab, List.map_map]
      rfl

theorem sumKernel_eq [Arith F] (input : List F) :
    CpuBackend.sumKernel input = sumTo input.length fun i => input.getD i 0 := by
  unfold CpuBackend.sumKernel sumTo
  conv_lhs => rw [eq_tab_getD input 0]
  rw [tab, List.foldl_map]

section Matmul
variable [Arith F] {m k n : Nat} {left right : List F}

/-- How many of its products entry `i` holds before pass `(row, inner, col)`. -/
private def progress (k n row inner col i : Nat) : Nat :=
  if i / n < row then k
  else if i / n = row then (if i % n < col then inner + 1 else inner)
  else 0

/-- The accumulation adds the products of an entry in the order of `inner`. -/
theorem matmulKernel_eq (hl : left.length = m * k) (hr : right.length = k * n)
    (hmk : m * k < 2 ^ 63) (hkn : k * n < 2 ^ 63) (hmn : m * n < 2 ^ 63) :
    CpuBackend.matmulKernel m k n left right = .ok (tab (m * n) fun i =>
      sumTo k fun j => left.getD (i / n * k + j) 0 * right.getD (j * n + i % n) 0) := by
  let term (i j : Nat) : F := left.getD (i / n * k + j) 0 * right.getD (j * n + i % n) 0
  let state (row inner col : Nat) : List F :=
    tab (m * n) fun i => sumTo (progress k n row inner col i) (term i)
  have hinit : List.replicate (m * n) (0 : F) = state 0 0 0 := by
    refine tab_eq_of_length List.length_replicate fun i hi => ?_
    simp [progress]
  have hfinal : state m 0 0 = tab (m * n) fun i => sumTo k (term i) := by
    refine tab_congr fun i hi => ?_
    rw [progress, if_pos (grid_div_lt hi)]
  have hcol : ∀ row < m, ∀ inner < k, ∀ col < n,
      (do let rightValue ← load right (← index inner n col)
          let position ← index row n col
          store (state row inner col) position
            ((← load (state row inner col) position) +
              left.getD (row * k + inner) 0 * rightValue)) =
        .ok (state row inner (col + 1)) := by
    intro row hrow inner hinner col hcol
    have hin := grid_lt hinner hcol
    have hout := grid_lt hrow hcol
    rw [index_of_lt (by omega), index_of_lt (by omega)]
    simp only [bind, Except.bind]
    rw [load_of_lt 0 (show inner * n + col < right.length by omega)]
    simp only [state]
    rw [load_tab _ hout]
    simp only
    rw [store_tab _ _ hout]
    congr 1
    refine tab_congr fun i hi => ?_
    by_cases hi' : i = row * n + col
    · subst hi'
      rw [if_pos rfl]
      simp only [progress, grid_div hcol, grid_mod hcol, Nat.lt_irrefl, if_false, if_true,
        Nat.lt_succ_self]
      rw [sumTo_succ]
      simp only [term, grid_div hcol, grid_mod hcol]
    · rw [if_neg hi']
      congr 1
      have hne : ¬(i / n = row ∧ i % n = col) := fun h => hi' ((grid_eq_iff hcol).mpr h)
      simp only [progress]
      by_cases hrow' : i / n = row
      · have hcol' : i % n ≠ col := fun h => hne ⟨hrow', h⟩
        have hiff : i % n < col + 1 ↔ i % n < col := by omega
        simp only [hrow', Nat.lt_irrefl, if_false, if_true, hiff]
      · simp only [hrow', if_false]
  have hinner : ∀ row < m, ∀ inner < k,
      (do let leftValue ← load left (← index row k inner)
          loop n (state row inner 0) fun output col => do
            let rightValue ← load right (← index inner n col)
            let position ← index row n col
            store output position ((← load output position) + leftValue * rightValue)) =
        .ok (state row (inner + 1) 0) := by
    intro row hrow inner hinner
    have hin := grid_lt hrow hinner
    rw [index_of_lt (by omega)]
    simp only [bind, Except.bind]
    rw [load_of_lt 0 (show row * k + inner < left.length by omega)]
    refine (loop_eq (state row inner) fun col hc => hcol row hrow inner hinner col hc).trans ?_
    congr 1
    refine tab_congr fun i hi => ?_
    congr 1
    have hmod := grid_mod_lt hi
    simp only [progress, hmod, if_true, Nat.not_lt_zero, if_false]
  have hrow : ∀ row < m,
      (loop k (state row 0 0) fun output inner => do
        let leftValue ← load left (← index row k inner)
        loop n output fun output col => do
          let rightValue ← load right (← index inner n col)
          let position ← index row n col
          store output position ((← load output position) + leftValue * rightValue)) =
        .ok (state (row + 1) 0 0) := by
    intro row hrow
    refine (loop_eq (fun inner => state row inner 0)
      fun inner hi => hinner row hrow inner hi).trans ?_
    congr 1
    refine tab_congr fun i hi => ?_
    congr 1
    simp only [progress, Nat.not_lt_zero, if_false]
    by_cases hrow' : i / n = row
    · simp [hrow']
    · have hiff : i / n < row + 1 ↔ i / n < row := by omega
      simp [hrow', hiff]
  unfold CpuBackend.matmulKernel
  rw [hinit]
  exact (loop_eq (fun row => state row 0 0) hrow).trans (by rw [hfinal])

end Matmul

theorem swiGluKernel_eq [Scalar F] {rows half : Nat} {input : List F}
    (hlen : input.length = rows * (2 * half)) (hbound : rows * (2 * half) < 2 ^ 63) :
    swiGluKernel rows (2 * half) half input =
      .ok (tab (rows * half) (swiGluValue siluForward half input)) := by
  have hsmall : rows * half ≤ rows * (2 * half) := Nat.mul_le_mul_left _ (by omega)
  suffices h : ∃ out, swiGluKernel rows (2 * half) half input = .ok out ∧
      Marked (rows * half) (swiGluValue siluForward half input) (fun _ => 0)
        (fun i => i < rows * half) out by
    obtain ⟨out, hout, hmark⟩ := h
    rw [hout, hmark.all fun _ hi => hi]
  unfold swiGluKernel
  refine loop_inv (fun row out => Marked (rows * half) (swiGluValue siluForward half input)
    (fun _ => 0) (fun i => i < row * half) out) (Marked.start _ _ (by simp)) ?_
  intro row hrow out hout
  have hrowle : row * (2 * half) ≤ rows * (2 * half) := Nat.mul_le_mul_right _ hrow.le
  have hbase : row * (2 * half) + 2 * half ≤ rows * (2 * half) := by
    calc row * (2 * half) + 2 * half = (row + 1) * (2 * half) := by ring
      _ ≤ rows * (2 * half) := Nat.mul_le_mul_right _ hrow
  have hrowle' : row * half ≤ rows * half := Nat.mul_le_mul_right _ hrow.le
  rw [index_of_lt (by omega), index_of_lt (by omega)]
  simp only [bind, Except.bind, Nat.add_zero]
  obtain ⟨out', hout', hmark⟩ := loop_inv (n := half) (s := out)
    (b := fun values col => do
      let a ← load input (row * (2 * half) + col)
      let b ← load input (row * (2 * half) + (half + col))
      store values (row * half + col) (siluForward a * b))
    (fun col out => Marked (rows * half) (swiGluValue siluForward half input) (fun _ => 0)
      (fun i => i < row * half + col) out) (by simpa using hout) (by
      intro col hcol out hout
      have hpos := grid_lt hrow hcol
      rw [load_of_lt 0 (show row * (2 * half) + col < input.length by omega),
        load_of_lt 0 (show row * (2 * half) + (half + col) < input.length by omega)]
      refine hout.store hpos ?_ fun j _ => by omega
      simp only [swiGluValue, grid_div hcol, grid_mod hcol])
  refine ⟨out', hout', hmark.congr fun j _ => ?_⟩
  rw [Nat.add_mul, Nat.one_mul]

theorem mseKernel_eq [Arith F] [Arith D] [Precision F D] {prediction target : List F}
    (hlen : target.length = prediction.length) :
    mseKernel D prediction target = .ok (mseValue D prediction target) := by
  unfold mseKernel
  rw [sumLoop_eq (fun i => ((widen (prediction.getD i 0) - widen (target.getD i 0)) *
      (widen (prediction.getD i 0) - widen (target.getD i 0)) : D)) ?_]
  · rfl
  · intro i hi
    rw [load_of_lt 0 hi, load_of_lt 0 (by omega)]
    rfl

theorem biasKernel_eq [Arith F] {rows cols : Nat} {matrix bias : List F}
    (hm : matrix.length = rows * cols) (hb : bias.length = cols) (hbound : rows * cols < 2 ^ 63) :
    biasKernel rows cols matrix bias =
      .ok (tab (rows * cols) fun i => matrix.getD i 0 + bias.getD (i % cols) 0) := by
  suffices h : ∃ out, biasKernel rows cols matrix bias = .ok out ∧
      Marked (rows * cols) (fun i => matrix.getD i 0 + bias.getD (i % cols) 0)
        (fun i => matrix.getD i 0) (fun i => i < rows * cols) out by
    obtain ⟨out, hout, hmark⟩ := h
    rw [hout, hmark.all fun _ hi => hi]
  unfold biasKernel
  refine loop_inv (fun row out => Marked (rows * cols)
    (fun i => matrix.getD i 0 + bias.getD (i % cols) 0) (fun i => matrix.getD i 0)
    (fun i => i < row * cols) out) (Marked.start_of _ _ hm (by simp)) ?_
  intro row hrow out hout
  obtain ⟨out', hout', hmark⟩ := loop_inv (n := cols) (s := out)
    (b := fun values col => do
      let position ← index row cols col
      store values position ((← load values position) + (← load bias col)))
    (fun col out => Marked (rows * cols) (fun i => matrix.getD i 0 + bias.getD (i % cols) 0)
      (fun i => matrix.getD i 0) (fun i => i < row * cols + col) out) (by simpa using hout) (by
      intro col hcol out hout
      have hpos := grid_lt hrow hcol
      rw [index_of_lt (by omega)]
      simp only [bind, Except.bind]
      rw [hout.load hpos, load_of_lt 0 (show col < bias.length by omega), if_neg (by omega)]
      refine hout.store hpos ?_ fun j _ => by omega
      simp only [grid_mod hcol])
  refine ⟨out', hout', hmark.congr fun j _ => ?_⟩
  rw [Nat.add_mul, Nat.one_mul]

section CrossEntropy
variable [Scalar F]

/-- The largest entry of a row, in the order the loop compares. -/
def rowMax (logits : List F) (classes row : Nat) : F :=
  (List.range (classes - 1)).foldl
    (fun maxLogit i => maximum maxLogit (logits.getD (row * classes + (i + 1)) 0))
    (logits.getD (row * classes) 0)

variable {rows classes : Nat} {logits : List F}

theorem maxLogit_eq {row : Nat} (hrow : row < rows) (hclasses : 0 < classes)
    (hlen : logits.length = rows * classes) (hbound : rows * classes < 2 ^ 63) :
    maxLogit logits row classes = .ok (rowMax logits classes row) := by
  have hzero := grid_lt hrow hclasses
  unfold maxLogit
  rw [index_of_lt (by omega)]
  simp only [bind, Except.bind]
  rw [load_of_lt 0 (show row * classes + 0 < logits.length by omega)]
  apply loop_foldl
  intro i hi m
  have hpos : row * classes + (i + 1) < rows * classes := grid_lt hrow (by omega)
  rw [index_of_lt (by omega)]
  simp only []
  rw [load_of_lt 0 (by omega)]
  rfl

section Double
variable [Scalar D] [Precision F D]

variable (D) in
def rowLogDenominator (logits : List F) (classes row : Nat) : D :=
  Scalar.log (sumTo classes fun col =>
    Scalar.exp (widen (logits.getD (row * classes + col) 0 - rowMax logits classes row))) +
    widen (rowMax logits classes row)

variable (D) in
def crossEntropyValue (rows classes : Nat) (logits target : List F) : F :=
  narrow ((List.range rows).foldl (fun total row =>
    (List.range classes).foldl (fun total col =>
      total - widen (target.getD (row * classes + col) 0) *
        (widen (logits.getD (row * classes + col) 0) - rowLogDenominator D logits classes row))
      total) (0 : D) / (rows : D))

theorem crossEntropyKernel_eq {target : List F} (hclasses : 0 < classes)
    (hl : logits.length = rows * classes) (ht : target.length = rows * classes)
    (hbound : rows * classes < 2 ^ 63) :
    crossEntropyKernel D rows classes logits target =
      .ok (crossEntropyValue D rows classes logits target) := by
  unfold crossEntropyKernel
  rw [loop_foldl fun total row => (List.range classes).foldl (fun total col =>
      total - widen (target.getD (row * classes + col) 0) *
        (widen (logits.getD (row * classes + col) 0) - rowLogDenominator D logits classes row))
      total]
  · rfl
  intro row hrow total
  simp only [maxLogit_eq hrow hclasses hl hbound, bind, Except.bind]
  rw [sumLoop_eq fun col =>
    Scalar.exp (widen (logits.getD (row * classes + col) 0 - rowMax logits classes row))]
  · apply loop_foldl
    intro col hcol total
    have hpos := grid_lt hrow hcol
    rw [index_of_lt (by omega)]
    simp only []
    rw [load_of_lt 0 (by omega), load_of_lt 0 (by omega)]
    rfl
  · intro col hcol
    have hpos := grid_lt hrow hcol
    rw [index_of_lt (by omega)]
    simp only []
    rw [load_of_lt 0 (by omega)]
    rfl

theorem crossEntropy_codeFunctions {target : List F} (hclasses : 0 < classes)
    (hl : logits.length = rows * classes) (ht : target.length = rows * classes)
    (hbound : rows * classes < 2 ^ 63) :
    (codeFunctions F D).crossEntropy rows classes logits target =
      crossEntropyValue D rows classes logits target := by
  simp only [codeFunctions, crossEntropyKernel_eq hclasses hl ht hbound]

end Double

end CrossEntropy

end Training

end Tensora
