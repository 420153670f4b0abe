import Tensora.Lib.CheckedLoop
import Mathlib.Algebra.BigOperators.Ring.Finset
import Mathlib.Algebra.BigOperators.Intervals
import Mathlib.Tactic.Ring

/-! The pairing of two arrays, and sums over the entries of a matrix stored row by row. -/
namespace CheckedLoop
open Finset

section Grid
variable {M : Type} [AddCommMonoid M]

theorem sum_grid (rows cols : Nat) (f : Nat → M) :
    ∑ i ∈ range (rows * cols), f i = ∑ r ∈ range rows, ∑ c ∈ range cols, f (r * cols + c) := by
  induction rows with
  | zero => simp
  | succ rows ih =>
      rw [Nat.succ_mul, sum_range_add, ih, sum_range_succ]

theorem sum_grid_index (rows cols : Nat) (f : Nat → Nat → Nat → M) :
    ∑ i ∈ range (rows * cols), f i (i / cols) (i % cols) =
      ∑ r ∈ range rows, ∑ c ∈ range cols, f (r * cols + c) r c := by
  rw [sum_grid]
  apply sum_congr rfl
  intro r _
  apply sum_congr rfl
  intro c hc
  rw [grid_div (mem_range.mp hc), grid_mod (mem_range.mp hc)]

end Grid

section Product
variable {R : Type} [CommSemiring R] (m k n : Nat) (g a b : Nat → Nat → R)

theorem sum_product_left : ∑ r ∈ range m, ∑ c ∈ range n, g r c * ∑ j ∈ range k, a r j * b j c =
    ∑ r ∈ range m, ∑ j ∈ range k, (∑ c ∈ range n, g r c * b j c) * a r j := by
  apply sum_congr rfl
  intro r _
  simp only [mul_sum, sum_mul]
  rw [sum_comm]
  apply sum_congr rfl
  intro j _
  apply sum_congr rfl
  intro c _
  ring

theorem sum_product_right : ∑ r ∈ range m, ∑ c ∈ range n, g r c * ∑ j ∈ range k, a r j * b j c =
    ∑ j ∈ range k, ∑ c ∈ range n, (∑ r ∈ range m, a r j * g r c) * b j c := by
  rw [sum_product_left, sum_comm]
  apply sum_congr rfl
  intro j _
  simp only [sum_mul]
  rw [sum_comm]
  apply sum_congr rfl
  intro c _
  apply sum_congr rfl
  intro r _
  ring

end Product

section Pairing
variable {R : Type} [CommSemiring R]

def pairing (n : Nat) (x y : List R) : R := ∑ i ∈ range n, x.getD i 0 * y.getD i 0

theorem pairing_tab_left (n : Nat) (f : Nat → R) (y : List R) :
    pairing n (tab n f) y = ∑ i ∈ range n, f i * y.getD i 0 := by
  apply sum_congr rfl
  intro i hi
  rw [getD_tab _ _ (mem_range.mp hi)]

theorem pairing_tab_right (n : Nat) (x : List R) (f : Nat → R) :
    pairing n x (tab n f) = ∑ i ∈ range n, x.getD i 0 * f i := by
  apply sum_congr rfl
  intro i hi
  rw [getD_tab _ _ (mem_range.mp hi)]

theorem pairing_tab_add (n : Nat) (x x' y : List R) :
    pairing n (tab n fun i => x.getD i 0 + x'.getD i 0) y = pairing n x y + pairing n x' y := by
  rw [pairing_tab_left]
  simp only [pairing, add_mul, sum_add_distrib]

theorem pairing_one (x y : List R) : pairing 1 x y = x.getD 0 0 * y.getD 0 0 := by
  simp only [pairing, sum_range_one]

theorem pairing_zero {n : Nat} (x : List R) {y : List R} (hy : ∀ i < n, y.getD i 0 = 0) :
    pairing n x y = 0 := by
  apply sum_eq_zero
  intro i hi
  rw [hy i (mem_range.mp hi), mul_zero]

theorem pairing_unit {n j : Nat} (hj : j < n) (x : List R) {y : List R}
    (hy : ∀ i < n, y.getD i 0 = if i = j then 1 else 0) : pairing n x y = x.getD j 0 := by
  unfold pairing
  rw [sum_eq_single_of_mem j (mem_range.mpr hj)]
  · rw [hy j hj, if_pos rfl, mul_one]
  · intro i hi hne
    rw [hy i (mem_range.mp hi), if_neg hne, mul_zero]

end Pairing

end CheckedLoop
