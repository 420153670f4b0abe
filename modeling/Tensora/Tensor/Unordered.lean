import Tensora.Lib.Lockstep
import Tensora.Tensor.Formed

/-! Programs on memories that are the same but for the mutations recorded, while no allocation
fails: they end in the same way and leave such memories. -/
namespace Tensora
open ProgramLogic

variable {F α : Type}

def Allocator.Lasts (a : Allocator) : Prop := ∀ k, a.count ≤ k → a.fails k = false

theorem Allocator.Lasts.next {a : Allocator} (h : a.Lasts) :
    Allocator.Lasts { a with count := a.count + 1 } :=
  fun k hk => h k ((Nat.le_succ _).trans hk)

structure Memory.Same (m m' : Memory F) : Prop where
  heap : m'.heap.erased = m.heap.erased
  lasts : m.allocator.Lasts ∧ m'.allocator.Lasts

theorem lockstep_allocate_same : Lockstep Memory.Same (allocate : Mem F Unit) allocate := by
  intro m m' h
  unfold allocate
  simp only [h.lasts.1 _ (Nat.le_refl _), h.lasts.2 _ (Nat.le_refl _), Bool.false_eq_true, if_false]
  exact ⟨rfl, h.heap, h.lasts.1.next, h.lasts.2.next⟩

theorem Formed.lockstep_same {x : Mem F α} (hx : Formed x) : Lockstep Memory.Same x x := by
  induction hx with
  | pure a => exact .pure a
  | throw e => exact .throw e
  | bind _ _ hx hf => exact hx.bind hf
  | tryCatch _ _ hx hh => exact hx.tryCatch hh
  | allocate => exact lockstep_allocate_same
  | heap => exact fun m m' h => ⟨h.heap.symm, h⟩
  | edit g hg =>
      refine Lockstep.modify fun m m' h => ⟨?_, h.lasts⟩
      rw [← hg m'.heap, h.heap, hg]

end Tensora
