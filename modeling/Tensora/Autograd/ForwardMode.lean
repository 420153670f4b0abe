import Tensora.Autograd.ApplySpecs
import Tensora.Autograd.SweepBalance
import Mathlib.Algebra.BigOperators.Field
import Mathlib.Algebra.DualNumber

/-! Forward mode: the forward operations run over dual numbers. What they compute on the
infinitesimal parts is what the local gradients of `Backward` are adjoint to. -/
namespace Tensora
open CheckedLoop Finset TrivSqZeroExt

variable {K : Type} [Field K]

instance dualArith : Arith (DualNumber K) where
  toZero := inferInstance
  toOne := inferInstance
  toAdd := inferInstance
  toSub := inferInstance
  toNeg := inferInstance
  toMul := inferInstance
  toDiv := ⟨fun x y => x * y⁻¹⟩
  toNatCast := inferInstance

instance dualPrecision : Precision (DualNumber K) (DualNumber K) where
  widen := id
  narrow := id

/-- The activations have the derivatives `slope`. The cross-entropy loss has no rule here: it is
lifted as a constant. -/
def dualFunctions [Given K] (slope : Operation → K → K) : Functions (DualNumber K) where
  activation := fun operation x =>
    inl (Training.activationForward operation x.fst) + inr (slope operation x.fst * x.snd)
  crossEntropy := fun batch classes logits target =>
    inl ((Training.codeFunctions K K).crossEntropy batch classes (logits.map fst) (target.map fst))

/-- The local derivatives of the activations are taken as given: they are the factors that
`Backward` applies. -/
def GivenSlopes [Given K] (slope : Operation → K → K) : Prop :=
  ∀ operation ∈ [Operation.relu, .sigmoid, .tanh, .gelu, .silu], ∀ x,
    Autograd.activationFactor operation x = slope operation x

def primal (x : List (DualNumber K)) : List K := x.map fst

def infinitesimal (x : List (DualNumber K)) : List K := x.map snd

omit [Field K] in
@[simp] theorem length_primal (x : List (DualNumber K)) : (primal x).length = x.length := by
  simp [primal]

theorem getD_map_zero {α β : Type} [Zero α] [Zero β] {f : α → β} (hf : f 0 = 0) (x : List α)
    (i : Nat) :
    (x.map f).getD i 0 = f (x.getD i 0) := by
  rw [List.getD_eq_getElem?_getD, List.getD_eq_getElem?_getD, List.getElem?_map]
  cases x[i]? with
  | none => exact hf.symm
  | some v => rfl

@[simp] theorem getD_primal (x : List (DualNumber K)) (i : Nat) :
    (primal x).getD i 0 = (x.getD i 0).fst :=
  getD_map_zero fst_zero x i

@[simp] theorem getD_infinitesimal (x : List (DualNumber K)) (i : Nat) :
    (infinitesimal x).getD i 0 = (x.getD i 0).snd :=
  getD_map_zero snd_zero x i

theorem map_tab {α β : Type} (g : α → β) (n : Nat) (f : Nat → α) :
    (tab n f).map g = tab n fun i => g (f i) := by
  simp [tab]

theorem fst_sumTo (n : Nat) (f : Nat → DualNumber K) :
    (sumTo n f).fst = sumTo n fun i => (f i).fst := by
  rw [sumTo_eq_sum, sumTo_eq_sum, fst_sum]

theorem snd_sumTo (n : Nat) (f : Nat → DualNumber K) :
    (sumTo n f).snd = ∑ i ∈ range n, (f i).snd := by
  rw [sumTo_eq_sum, snd_sum]

omit [Field K] in
@[simp] theorem primal_tab (n : Nat) (f : Nat → DualNumber K) :
    primal (tab n f) = tab n fun i => (f i).fst :=
  map_tab fst n f

omit [Field K] in
@[simp] theorem infinitesimal_tab (n : Nat) (f : Nat → DualNumber K) :
    infinitesimal (tab n f) = tab n fun i => (f i).snd :=
  map_tab snd n f

omit [Field K] in
@[simp] theorem primal_singleton (v : DualNumber K) : primal [v] = [v.fst] := rfl

omit [Field K] in
@[simp] theorem infinitesimal_singleton (v : DualNumber K) : infinitesimal [v] = [v.snd] := rfl

theorem getD_map_of_lt {α β : Type} [Zero α] [Zero β] (f : α → β) {x : List α} {i : Nat}
    (hi : i < x.length) : (x.map f).getD i 0 = f (x.getD i 0) := by
  simp [hi]

theorem getD_replicate {n i : Nat} (hi : i < n) (v : K) : (List.replicate n v).getD i 0 = v := by
  simp [hi]

@[simp] theorem fst_activation [Given K] (slope : Operation → K → K) (operation : Operation)
    (v : DualNumber K) : ((dualFunctions slope).activation operation v).fst =
      Training.activationForward operation v.fst := by
  simp [dualFunctions]

@[simp] theorem snd_activation [Given K] (slope : Operation → K → K) (operation : Operation)
    (v : DualNumber K) :
    ((dualFunctions slope).activation operation v).snd = slope operation v.fst * v.snd := by
  simp [dualFunctions]

theorem fst_div_natCast (x : DualNumber K) (n : Nat) :
    (x / (Arith.toNatCast.natCast n : DualNumber K)).fst = x.fst / (n : K) := by
  change (x * (n : DualNumber K)⁻¹).fst = _
  rw [fst_mul, fst_inv, fst_natCast, div_eq_mul_inv]

theorem snd_div_natCast (x : DualNumber K) (n : Nat) :
    (x / (Arith.toNatCast.natCast n : DualNumber K)).snd = x.snd / (n : K) := by
  change (x * (n : DualNumber K)⁻¹).snd = _
  rw [DualNumber.snd_mul, fst_inv, snd_inv, fst_natCast, snd_natCast]
  simp [div_eq_mul_inv]

section Rules
variable [Given K] {slope : Operation → K → K}

/-- An operation over dual numbers: it keeps the primal values, and its local gradients are the
adjoint of what it does to the infinitesimal parts. -/
structure Rule (slope : Operation → K → K) (operation : Operation) (dims : List (List Nat))
    (result : List Nat)
    (operands : List (List (DualNumber K))) : Prop where
  value : primal (forwardValues (DualNumber K) (dualFunctions slope) operation dims operands) =
    forwardValues K (Training.codeFunctions K K) operation dims (operands.map primal)
  adjoint : ∀ grad : List K, grad.length = result.prod →
    pairing result.prod grad
        (infinitesimal
          (forwardValues (DualNumber K) (dualFunctions slope) operation dims operands)) =
      ((dims.zip operands).zipIdx.map fun e => pairing e.1.1.prod
        (Autograd.localGradient operation dims (operands.map primal) grad e.2)
        (infinitesimal e.1.2)).sum
  sized : ∀ grad : List K, grad.length = result.prod → ∀ p j, (p, j) ∈ dims.zipIdx →
    (Autograd.localGradient operation dims (operands.map primal) grad j).length = p.prod

theorem Rule.unary {operation : Operation} {p d : List Nat} {x : List (DualNumber K)}
    (value : primal (forwardValues (DualNumber K) (dualFunctions slope) operation [p] [x]) =
      forwardValues K (Training.codeFunctions K K) operation [p] [primal x])
    (adjoint : ∀ grad : List K, grad.length = d.prod →
      pairing d.prod grad
          (infinitesimal (forwardValues (DualNumber K) (dualFunctions slope) operation [p] [x])) =
        pairing p.prod (Autograd.localGradient operation [p] [primal x] grad 0) (infinitesimal x))
    (sized : ∀ grad : List K, grad.length = d.prod →
      (Autograd.localGradient operation [p] [primal x] grad 0).length = p.prod) :
    Rule slope operation [p] d [x] where
  value := value
  adjoint := by
    intro grad hgrad
    simpa using adjoint grad hgrad
  sized := by
    intro grad hgrad p' j hp
    obtain ⟨rfl, rfl⟩ : p' = p ∧ j = 0 := by simpa using hp
    exact sized grad hgrad

theorem Rule.binary {operation : Operation} {p q d : List Nat} {x y : List (DualNumber K)}
    (value : primal (forwardValues (DualNumber K) (dualFunctions slope) operation [p, q] [x, y]) =
      forwardValues K (Training.codeFunctions K K) operation [p, q] [primal x, primal y])
    (adjoint : ∀ grad : List K, grad.length = d.prod →
      pairing d.prod grad
          (infinitesimal
            (forwardValues (DualNumber K) (dualFunctions slope) operation [p, q] [x, y])) =
        pairing p.prod (Autograd.localGradient operation [p, q] [primal x, primal y] grad 0)
            (infinitesimal x) +
          pairing q.prod (Autograd.localGradient operation [p, q] [primal x, primal y] grad 1)
            (infinitesimal y))
    (sized : ∀ grad : List K, grad.length = d.prod →
      (Autograd.localGradient operation [p, q] [primal x, primal y] grad 0).length = p.prod ∧
      (Autograd.localGradient operation [p, q] [primal x, primal y] grad 1).length = q.prod) :
    Rule slope operation [p, q] d [x, y] where
  value := value
  adjoint := by
    intro grad hgrad
    simpa using adjoint grad hgrad
  sized := by
    intro grad hgrad p' j hp
    obtain ⟨hsized₀, hsized₁⟩ := sized grad hgrad
    have hcases : p' = p ∧ j = 0 ∨ p' = q ∧ j = 1 := by simpa using hp
    obtain ⟨rfl, rfl⟩ | ⟨rfl, rfl⟩ := hcases
    · exact hsized₀
    · exact hsized₁

variable {x y : List (DualNumber K)}

theorem rule_identity (p : List Nat) : Rule slope .identity [p] p [x] :=
  Rule.unary rfl (fun _ _ => rfl) fun _ hgrad => hgrad

theorem rule_reshape {p d : List Nat} (hd : d.prod = p.prod) : Rule slope .reshape [p] d [x] := by
  refine Rule.unary rfl (fun grad _ => ?_) fun grad hgrad => hgrad.trans hd
  rw [hd]
  rfl

theorem rule_transpose {rows cols : Nat} (hx : x.length = [rows, cols].prod) :
    Rule slope .transpose2D [[rows, cols]] [cols, rows] [x] := by
  have hlen : x.length = rows * cols := by simpa using hx
  have hlen' : (primal x).length = rows * cols := by simpa using hx
  refine Rule.unary ?_ (fun grad hgrad => ?_) fun grad hgrad => ?_
  · simp only [forwardValues, transposeData_eq_tab 0 hlen, transposeData_eq_tab 0 hlen', primal_tab,
      getD_primal]
  · have hg : grad.length = cols * rows := by simpa using hgrad
    simp only [forwardValues, Autograd.localGradient, transposeData_eq_tab 0 hlen,
      transposeData_eq_tab 0 hg, infinitesimal_tab, pairing_tab_right, pairing_tab_left,
      List.prod_cons, List.prod_nil, Nat.mul_one, getD_infinitesimal]
    -- entry `(c, r)` of the transpose is entry `(r, c)` of the matrix
    rw [sum_grid_index cols rows fun i c r => grad.getD i 0 * (x.getD (r * cols + c) 0).snd,
      sum_grid_index rows cols fun i r c => grad.getD (c * rows + r) 0 * (x.getD i 0).snd, sum_comm]
  · have hg : grad.length = cols * rows := by simpa using hgrad
    simpa [Autograd.localGradient] using transposeData_length hg

theorem rule_add {d : List Nat} (hx : x.length = d.prod) : Rule slope .add [d, d] d [x, y] := by
  refine Rule.binary ?_ (fun grad hgrad => ?_) fun grad hgrad => ⟨hgrad, hgrad⟩
  · simp only [forwardValues, primal_tab, fst_add, getD_primal, length_primal]
  · simp only [forwardValues, Autograd.localGradient, infinitesimal_tab, hx, pairing_tab_right,
      snd_add, mul_add, sum_add_distrib]
    simp only [pairing, getD_infinitesimal]

theorem rule_multiply {d : List Nat} (hx : x.length = d.prod) :
    Rule slope .multiply [d, d] d [x, y] := by
  refine Rule.binary ?_ (fun grad hgrad => ?_) fun grad hgrad => ⟨?_, ?_⟩
  · simp only [forwardValues, primal_tab, fst_mul, getD_primal, length_primal]
  · simp only [forwardValues, Autograd.localGradient, infinitesimal_tab, hx, hgrad,
      pairing_tab_right, pairing_tab_left, DualNumber.snd_mul, getD_infinitesimal, getD_primal]
    rw [← sum_add_distrib]
    apply sum_congr rfl
    intro i _
    ring
  · simp only [Autograd.localGradient, length_tab, hgrad]
  · simp only [Autograd.localGradient, length_tab, hgrad]

theorem rule_sum {p : List Nat} (hx : x.length = p.prod) : Rule slope .sum [p] [] [x] := by
  refine Rule.unary ?_ (fun grad hgrad => ?_) fun grad hgrad => ?_
  · simp only [forwardValues, primal_singleton, length_primal, getD_primal, fst_sumTo]
  · simp only [forwardValues, Autograd.localGradient, infinitesimal_singleton, List.prod_nil,
      pairing_one, List.getD_cons_zero, snd_sumTo, hx, length_primal, mul_sum]
    apply sum_congr rfl
    intro i hi
    rw [getD_replicate (mem_range.mp hi), getD_infinitesimal]
  · simp only [Autograd.localGradient, List.length_replicate, length_primal, hx]

theorem rule_matmul {m k n : Nat} : Rule slope .matmul [[m, k], [k, n]] [m, n] [x, y] := by
  refine Rule.binary ?_ (fun grad hgrad => ?_) fun grad hgrad => ⟨?_, ?_⟩
  · simp only [forwardValues, primal_tab, fst_sumTo, fst_mul, getD_primal]
  · simp only [forwardValues, Autograd.localGradient, infinitesimal_tab, pairing_tab_right,
      pairing_tab_left, DualNumber.snd_mul, getD_infinitesimal, getD_primal,
      List.prod_cons, List.prod_nil, Nat.mul_one, sumTo_eq_sum, snd_sum, mul_add, sum_add_distrib]
    rw [sum_grid_index m n fun i r c => grad.getD i 0 * ∑ j ∈ range k,
        (x.getD (r * k + j) 0).fst * (y.getD (j * n + c) 0).snd,
      sum_grid_index m n fun i r c => grad.getD i 0 * ∑ j ∈ range k,
        (x.getD (r * k + j) 0).snd * (y.getD (j * n + c) 0).fst,
      sum_grid_index m k fun i r j => (∑ c ∈ range n,
        grad.getD (r * n + c) 0 * (y.getD (j * n + c) 0).fst) * (x.getD i 0).snd,
      sum_grid_index k n fun i j c => (∑ r ∈ range m,
        (x.getD (r * k + j) 0).fst * grad.getD (r * n + c) 0) * (y.getD i 0).snd]
    rw [sum_product_left m k n (fun r c => grad.getD (r * n + c) 0)
        (fun r j => (x.getD (r * k + j) 0).snd) fun j c => (y.getD (j * n + c) 0).fst,
      sum_product_right m k n (fun r c => grad.getD (r * n + c) 0)
        (fun r j => (x.getD (r * k + j) 0).fst) fun j c => (y.getD (j * n + c) 0).snd, add_comm]
  · simp only [Autograd.localGradient, length_tab, List.prod_cons, List.prod_nil, Nat.mul_one]
  · simp only [Autograd.localGradient, length_tab, List.prod_cons, List.prod_nil, Nat.mul_one]

theorem rule_biasAdd {rows cols : Nat} :
    Rule slope .biasAdd [[rows, cols], [cols]] [rows, cols] [x, y] := by
  refine Rule.binary ?_ (fun grad hgrad => ?_) fun grad hgrad => ⟨?_, ?_⟩
  · simp only [forwardValues, primal_tab, fst_add, getD_primal]
  · simp only [forwardValues, Autograd.localGradient, infinitesimal_tab, pairing_tab_right,
      pairing_tab_left, snd_add, List.prod_cons, List.prod_nil, Nat.mul_one, mul_add,
      sum_add_distrib, getD_infinitesimal]
    congr 1
    · simp only [pairing, getD_infinitesimal]
    · rw [sum_grid_index rows cols fun i _ c => grad.getD i 0 * (y.getD c 0).snd, sum_comm]
      apply sum_congr rfl
      intro c _
      rw [sumTo_eq_sum, sum_mul]
  · simpa [Autograd.localGradient] using hgrad
  · simp [Autograd.localGradient]

theorem rule_activation (given : GivenSlopes slope) {operation : Operation} {d : List Nat}
    (h : operation ∈ [Operation.relu, .sigmoid, .tanh, .gelu, .silu])
    (hx : x.length = d.prod)
    (hlocal : ∀ grad : List K, Autograd.localGradient operation [d] [primal x] grad 0 =
      Autograd.localGradient.activate operation (primal x) grad) :
    Rule slope operation [d] d [x] := by
  refine Rule.unary ?_ (fun grad hgrad => ?_) fun grad hgrad => ?_
  · rw [forwardValues_activation _ _ h, forwardValues_activation _ _ h]
    simp only [primal, List.map_map]
    apply List.map_congr_left
    intro v _
    rw [Function.comp_apply, fst_activation]
    rfl
  · rw [forwardValues_activation _ _ h, hlocal, Autograd.localGradient.activate, hgrad,
      pairing_tab_left]
    apply sum_congr rfl
    intro i hi
    have hlt : i < x.length := hx ▸ mem_range.mp hi
    rw [getD_infinitesimal, getD_infinitesimal, getD_primal, getD_map_of_lt _ hlt]
    rw [snd_activation, given operation h]
    ring
  · rw [hlocal, Autograd.localGradient.activate, length_tab, hgrad]

theorem rule_swiGlu (given : GivenSlopes slope) {front : List Nat} {half : Nat} (hhalf : 0 < half)
    (hx : x.length = (front ++ [2 * half]).prod) :
    Rule slope .swiGlu [front ++ [2 * half]] (front ++ [half]) [x] := by
  have hlen : x.length = front.prod * (2 * half) := by simpa using hx
  have htwice : 2 * half / 2 = half := by omega
  have hrows : front.prod * (2 * half) / (2 * half) = front.prod :=
    Nat.mul_div_cancel _ (by omega)
  have hsilu : ∀ v, Autograd.activationFactor .silu v = slope .silu v := given .silu (by simp)
  refine Rule.unary ?_ (fun grad hgrad => ?_) fun grad hgrad => ?_
  · simp only [forwardValues, primal_tab, length_primal]
    apply tab_congr
    intro i _
    simp only [swiGluValue, Training.codeFunctions, fst_mul, fst_activation, getD_primal]
  · simp only [forwardValues, Autograd.localGradient, infinitesimal_tab, List.getLastD_concat,
      htwice,
      length_primal, hlen, hrows, List.prod_append, List.prod_cons, List.prod_nil, Nat.mul_one,
      pairing_tab_right, pairing_tab_left, getD_infinitesimal, swiGluValue, Autograd.swiGluGradient,
      getD_primal, DualNumber.snd_mul, fst_activation, snd_activation, Training.activationForward,
      hsilu]
    -- both halves of a row read its gradient
    rw [sum_grid_index front.prod half fun i r c => grad.getD i 0 *
        (Training.siluForward (x.getD (r * (2 * half) + c) 0).fst *
            (x.getD (r * (2 * half) + (half + c)) 0).snd +
          slope .silu (x.getD (r * (2 * half) + c) 0).fst *
            (x.getD (r * (2 * half) + c) 0).snd * (x.getD (r * (2 * half) + (half + c)) 0).fst),
      sum_grid_index front.prod (2 * half) fun i r c => (if c < half then
          grad.getD (r * half + c) 0 * (x.getD (r * (2 * half) + (half + c)) 0).fst *
            slope .silu (x.getD (r * (2 * half) + c) 0).fst
        else grad.getD (r * half + (c - half)) 0 *
          Training.siluForward (x.getD (r * (2 * half) + (c - half)) 0).fst) * (x.getD i 0).snd]
    apply sum_congr rfl
    intro r _
    rw [two_mul, sum_range_add, ← sum_add_distrib]
    apply sum_congr rfl
    intro c hc
    have hlow : c < half := mem_range.mp hc
    have hhigh : ¬half + c < half := by omega
    rw [if_pos hlow, if_neg hhigh, Nat.add_sub_cancel_left]
    ring
  · simp only [Autograd.localGradient, length_tab, length_primal, hx]

theorem rule_mse {d : List Nat} (hx : x.length = d.prod) : Rule slope .mse [d, d] [] [x, y] := by
  refine Rule.binary ?_ (fun grad hgrad => ?_) fun grad hgrad => ⟨?_, ?_⟩
  · simp only [forwardValues, primal_singleton, mseValue, length_primal, getD_primal]
    change [((sumTo x.length _ : DualNumber K) / _).fst] = [(sumTo x.length _ : K) / _]
    rw [fst_div_natCast, fst_sumTo]
    rfl
  · simp only [forwardValues, Autograd.localGradient, infinitesimal_singleton, List.prod_nil,
      pairing_one, List.getD_cons_zero, Autograd.mseGradient, hx, length_primal, pairing_tab_left,
      mseValue, getD_infinitesimal, getD_primal]
    have hsum : ((sumTo d.prod fun i => (x.getD i 0 - y.getD i 0) * (x.getD i 0 - y.getD i 0) :
          DualNumber K) / (Arith.toNatCast.natCast d.prod : DualNumber K)).snd =
        (∑ i ∈ range d.prod, (1 + 1) * ((x.getD i 0).fst - (y.getD i 0).fst) *
          ((x.getD i 0).snd - (y.getD i 0).snd)) / (d.prod : K) := by
      rw [snd_div_natCast, snd_sumTo]
      congr 1
      apply sum_congr rfl
      intro i _
      rw [DualNumber.snd_mul, fst_sub, snd_sub]
      ring
    refine (congrArg (grad.getD 0 0 * ·) hsum).trans ?_
    simp only [sum_div, mul_sum]
    rw [← sum_add_distrib]
    apply sum_congr rfl
    intro i _
    have htwo : (two : K) = 1 + 1 := rfl
    rw [htwo]
    ring
  · simp only [Autograd.localGradient, Autograd.mseGradient, length_tab, length_primal, hx]
  · simp only [Autograd.localGradient, Autograd.mseGradient, length_tab, length_primal, hx]

theorem rule_one (given : GivenSlopes slope) {operation : Operation} {p d : List Nat}
    (shapes : OpShapes operation [p] d)
    (hx : x.length = p.prod) : Rule slope operation [p] d [x] := by
  cases operation with
  | identity =>
      obtain rfl : d = p := shapes
      exact rule_identity d
  | reshape => exact rule_reshape shapes
  | transpose2D =>
      obtain ⟨rows, cols, rfl, rfl⟩ := shapes
      exact rule_transpose hx
  | sum =>
      obtain rfl : d = [] := shapes
      exact rule_sum hx
  | swiGlu =>
      obtain ⟨front, half, hhalf, rfl, rfl⟩ := shapes
      exact rule_swiGlu given hhalf hx
  | relu | sigmoid | tanh | gelu | silu =>
      obtain rfl : d = p := shapes
      exact rule_activation given (by simp) hx fun _ => rfl
  | _ => exact shapes.elim

theorem rule_two {operation : Operation} {p q d : List Nat} (shapes : OpShapes operation [p, q] d)
    (hloss : operation ≠ .crossEntropy) (hx : x.length = p.prod) :
    Rule slope operation [p, q] d [x, y] := by
  cases operation with
  | add =>
      obtain ⟨rfl, rfl⟩ := shapes
      exact rule_add hx
  | multiply =>
      obtain ⟨rfl, rfl⟩ := shapes
      exact rule_multiply hx
  | matmul =>
      obtain ⟨m, k, n, rfl, rfl, rfl⟩ := shapes
      exact rule_matmul
  | mse =>
      obtain ⟨rfl, rfl⟩ := shapes
      exact rule_mse hx
  | biasAdd =>
      obtain ⟨rows, cols, rfl, rfl, rfl⟩ := shapes
      exact rule_biasAdd
  | crossEntropy => exact absurd rfl hloss
  | _ => exact shapes.elim

/-- Every operation but the cross-entropy loss follows its rule. -/
theorem rule (given : GivenSlopes slope) {operation : Operation} {dims : List (List Nat)}
    {result : List Nat}
    {operands : List (List (DualNumber K))} (shapes : OpShapes operation dims result)
    (hloss : operation ≠ .crossEntropy)
    (hlen : List.Forall₂ (fun x d => x.length = d.prod) operands dims) :
    Rule slope operation dims result operands := by
  have harity := shapes.length
  obtain hone | htwo : operation.arity = 1 ∨ operation.arity = 2 := by
    cases operation <;> simp [Operation.arity]
  · obtain ⟨p, rfl⟩ := List.length_eq_one_iff.mp (harity.trans hone)
    obtain ⟨x, rest, hx, hrest, rfl⟩ := List.forall₂_cons_right_iff.mp hlen
    obtain rfl := List.forall₂_nil_right_iff.mp hrest
    exact rule_one given shapes hx
  · obtain ⟨p, q, rfl⟩ := List.length_eq_two.mp (harity.trans htwo)
    obtain ⟨x, rest, hx, hrest, rfl⟩ := List.forall₂_cons_right_iff.mp hlen
    obtain ⟨y, rest, -, hnil, rfl⟩ := List.forall₂_cons_right_iff.mp hrest
    obtain rfl := List.forall₂_nil_right_iff.mp hnil
    exact rule_two shapes hloss hx

end Rules

section Tapes
variable [Given K]

namespace Tape

/-- The recorded expression of a tensor: what was not recorded is a leaf. -/
def expression {α : Type} (t : Tape K) (leaf : TensorId → List α)
    (operate : Operation → List (List Nat) → List (List α) → List α) : Nat → TensorId → List α
  | 0, _ => []
  | fuel + 1, id =>
      match t.node id with
      | none => leaf id
      | some (operation, parents) =>
          operate operation (parents.map t.dims) (parents.map (t.expression leaf operate fuel))

def evaluate (t : Tape K) (values : TensorId → List K) (id : TensorId) : List K :=
  t.expression values (forwardValues K (Training.codeFunctions K K)) (id + 1) id

def lifted (t : Tape K) (seed : TensorId → Nat → K) (id : TensorId) : List (DualNumber K) :=
  tab (t.size id) fun i => inl ((t.contents id).getD i 0) + inr (seed id i)

def dual (t : Tape K) (slope : Operation → K → K) (seed : TensorId → Nat → K) (id : TensorId) :
    List (DualNumber K) :=
  t.expression (t.lifted seed) (forwardValues (DualNumber K) (dualFunctions slope)) (id + 1) id

def along (leaf : TensorId) (i : Nat) : TensorId → Nat → K := fun id j =>
  if id = leaf ∧ j = i then 1 else 0

/-- The derivative of a scalar root in entry `i` of a leaf, in forward mode. -/
def derivative (t : Tape K) (slope : Operation → K → K) (root leaf : TensorId) (i : Nat) : K :=
  ((t.dual slope (along leaf i) root).getD 0 0).snd

/-- Nothing the root is computed from is a cross-entropy loss, and every recorded tensor below it
has the value of its operation. -/
structure Computed (t : Tape K) (root : TensorId) : Prop where
  loss : ∀ id ∈ t.order root, ∀ operation parents, t.node id = some (operation, parents) →
    operation ≠ .crossEntropy
  values : ∀ id ∈ t.order root, id ≠ root → ∀ operation parents,
    t.node id = some (operation, parents) → t.contents id =
      forwardValues K (Training.codeFunctions K K) operation (parents.map t.dims)
        (parents.map t.contents)
  lengths : ∀ id ∈ t.order root, (t.contents id).length = t.size id

end Tape

end Tapes

end Tensora
