import Tensora.Runtime.Runtime
import Tensora.Tensor.Formed
import Tensora.Tensor.MemoryLogic

/-! Programs that learn of the allocator only whether each of their allocations
succeeds. Two runs of such a program agree as long as the same allocations fail. -/
namespace Tensora

class Allocating (σ : Type) where
  allocator : σ → Allocator
  withAllocator : σ → Allocator → σ
  allocator_with : ∀ s a, allocator (withAllocator s a) = a
  with_with : ∀ s a b, withAllocator (withAllocator s a) b = withAllocator s b
  with_allocator : ∀ s, withAllocator s (allocator s) = s

open Allocating

variable {ε σ α β F D : Type}

instance : Allocating (Memory F) where
  allocator := Memory.allocator
  withAllocator m a := { m with allocator := a }
  allocator_with _ _ := rfl
  with_with _ _ _ := rfl
  with_allocator _ := rfl

instance : Allocating (Runtime F D) where
  allocator s := s.memory.allocator
  withAllocator s a := { s with memory := { s.memory with allocator := a } }
  allocator_with _ _ := rfl
  with_with _ _ _ := rfl
  with_allocator _ := rfl

def Allocator.Agrees (a b : Allocator) (n : Nat) : Prop :=
  ∀ i < n, b.fails (b.count + i) = a.fails (a.count + i)

def outcome (r : Except ε α) (s : σ) : EStateM.Result ε σ α :=
  match r with
  | .ok a => .ok a s
  | .error e => .error e s

/-- From a state, a program makes some number of allocations and ends in some way,
whatever the allocator, as long as these allocations end as they do in that state. -/
def Oblivious [Allocating σ] (x : EStateM ε σ α) : Prop :=
  ∀ s, ∃ n r s', ∀ b, (allocator s).Agrees b n →
    x (withAllocator s b) = outcome r (withAllocator s' (b.after n))

section Rules
variable [Allocating σ] {x : EStateM ε σ α} {f : α → EStateM ε σ β} {s s' : σ}

theorem Allocator.Agrees.refl (a : Allocator) (n : Nat) : a.Agrees a n := fun _ _ => rfl

theorem Allocator.Agrees.mono {a b : Allocator} {n m : Nat} (h : a.Agrees b m) (hle : n ≤ m) :
    a.Agrees b n := fun i hi => h i (hi.trans_le hle)

theorem Allocator.Agrees.later {a b : Allocator} {n m : Nat} (h : a.Agrees b (n + m)) :
    (a.after n).Agrees (b.after n) m := by
  intro i hi
  simp only [Allocator.after, Nat.add_assoc]
  exact h (n + i) (Nat.add_lt_add_left hi n)

namespace Oblivious

theorem of_silent (h : ∀ s, ∃ r s', ∀ b, x (withAllocator s b) = outcome r (withAllocator s' b)) :
    Oblivious x := by
  intro s
  obtain ⟨r, s', hx⟩ := h s
  exact ⟨0, r, s', fun b _ => hx b⟩

theorem pure (a : α) : Oblivious (pure a : EStateM ε σ α) :=
  of_silent fun s => ⟨.ok a, s, fun _ => rfl⟩

theorem throw (e : ε) : Oblivious (throw e : EStateM ε σ α) :=
  of_silent fun s => ⟨.error e, s, fun _ => rfl⟩

theorem bind (hx : Oblivious x) (hf : ∀ a, Oblivious (f a)) : Oblivious (x >>= f) := by
  intro s
  obtain ⟨n, r, s', hx⟩ := hx s
  cases r with
  | error e =>
      refine ⟨n, .error e, s', fun b hb => ?_⟩
      change EStateM.bind x f _ = _
      unfold EStateM.bind
      rw [hx b hb]
      rfl
  | ok a =>
      obtain ⟨m, r', s'', hf⟩ := hf a (withAllocator s' ((allocator s).after n))
      refine ⟨n + m, r', s'', fun b hb => ?_⟩
      change EStateM.bind x f _ = _
      unfold EStateM.bind
      rw [hx b (hb.mono (Nat.le_add_right n m))]
      have hrest := hf (b.after n) (by rw [allocator_with]; exact hb.later)
      rw [with_with, Allocator.after_after] at hrest
      exact hrest

theorem map (g : α → β) (hx : Oblivious x) : Oblivious (g <$> x) := by
  rw [map_eq_pure_bind]
  exact hx.bind fun a => pure (g a)

theorem tryCatch {handle : ε → EStateM ε σ α} (hx : Oblivious x) (hh : ∀ e, Oblivious (handle e)) :
    Oblivious (tryCatch x handle) := by
  intro s
  obtain ⟨n, r, s', hx⟩ := hx s
  cases r with
  | ok a =>
      refine ⟨n, .ok a, s', fun b hb => ?_⟩
      change EStateM.tryCatch x handle _ = _
      unfold EStateM.tryCatch
      rw [hx b hb]
      rfl
  | error e =>
      obtain ⟨m, r', s'', hh⟩ := hh e (withAllocator s' ((allocator s).after n))
      refine ⟨n + m, r', s'', fun b hb => ?_⟩
      change EStateM.tryCatch x handle _ = _
      unfold EStateM.tryCatch
      rw [hx b (hb.mono (Nat.le_add_right n m))]
      have hrest := hh (b.after n) (by rw [allocator_with]; exact hb.later)
      rw [with_with, Allocator.after_after] at hrest
      exact hrest

theorem ite {c : Prop} [Decidable c] {y : EStateM ε σ α} (hx : c → Oblivious x)
    (hy : ¬c → Oblivious y) : Oblivious (if c then x else y) := by
  split
  · exact hx ‹_›
  · exact hy ‹_›

theorem get_bind {f : σ → EStateM ε σ β} (hf : ∀ s, Oblivious (f s))
    (hs : ∀ s b, f (withAllocator s b) = f s) : Oblivious (get >>= f) := by
  intro s
  obtain ⟨n, r, s', h⟩ := hf s s
  refine ⟨n, r, s', fun b hb => ?_⟩
  change f (withAllocator s b) (withAllocator s b) = _
  rw [hs]
  exact h b hb

theorem modify {g : σ → σ} (hg : ∀ s b, g (withAllocator s b) = withAllocator (g s) b) :
    Oblivious (modify g : EStateM ε σ PUnit) :=
  of_silent fun s => ⟨.ok ⟨⟩, g s, fun b => by
    change EStateM.Result.ok _ (g _) = _
    rw [hg]
    rfl⟩

theorem foldlM {g : β → α → EStateM ε σ β} (hg : ∀ b a, Oblivious (g b a)) (xs : List α) (b : β) :
    Oblivious (xs.foldlM g b) := by
  induction xs generalizing b with
  | nil => exact pure b
  | cons a xs ih =>
      rw [List.foldlM_cons]
      exact (hg b a).bind ih

theorem forM {g : α → EStateM ε σ PUnit} (hg : ∀ a, Oblivious (g a)) (xs : List α) :
    Oblivious (xs.forM g) := by
  induction xs with
  | nil => exact pure PUnit.unit
  | cons a xs ih => exact (hg a).bind fun _ => ih

end Oblivious

/-- A run leaves the allocator it started with, some allocations later. -/
theorem Oblivious.ran (hx : Oblivious x) (s : σ) :
    ∃ n r s', x s = outcome r s' ∧ allocator s' = (allocator s).after n ∧
      ∀ b, (allocator s).Agrees b n →
        x (withAllocator s b) = outcome r (withAllocator s' (b.after n)) := by
  obtain ⟨n, r, s', h⟩ := hx s
  refine ⟨n, r, withAllocator s' ((allocator s).after n), ?_, allocator_with _ _, fun b hb => ?_⟩
  · rw [← h _ (Allocator.Agrees.refl _ n), with_allocator]
  · rw [with_with]
    exact h b hb

end Rules

section Primitives
variable [Allocating σ]

theorem oblivious_failIf (condition : Prop) [Decidable condition] (e : Failure) :
    Oblivious (failIf condition e : EStateM Failure σ Unit) :=
  Oblivious.ite (fun _ => .throw e) fun _ => .pure ()

theorem oblivious_allocationGuard (operation : String) {x : EStateM Failure σ α}
    (hx : Oblivious x) : Oblivious (allocationGuard operation x) := by
  refine hx.tryCatch fun e => ?_
  cases e <;> exact .throw _

theorem oblivious_allocate : Oblivious (allocate : Mem F Unit) := by
  intro m
  cases hfail : m.allocator.fails m.allocator.count with
  | false =>
      refine ⟨1, .ok (), m, fun b hb => ?_⟩
      have h := hb 0 Nat.one_pos
      simp only [Nat.add_zero] at h
      have h' : b.fails b.count = false := h.trans hfail
      simp only [allocate, Allocating.withAllocator, h', Bool.false_eq_true, if_false, outcome,
        Allocator.after]
  | true =>
      refine ⟨1, .error .badAlloc, m, fun b hb => ?_⟩
      have h := hb 0 Nat.one_pos
      simp only [Nat.add_zero] at h
      have h' : b.fails b.count = true := h.trans hfail
      simp only [allocate, Allocating.withAllocator, h', if_true, outcome, Allocator.after]

theorem Formed.oblivious {x : Mem F α} (hx : Formed x) : Oblivious x := by
  induction hx with
  | pure a => exact .pure a
  | throw e => exact .throw e
  | bind _ _ hx hf => exact hx.bind hf
  | tryCatch _ _ hx hh => exact hx.tryCatch hh
  | allocate => exact oblivious_allocate
  | heap => exact .of_silent fun m => ⟨.ok m.heap.erased, m, fun _ => rfl⟩
  | edit g _ => exact .modify fun _ _ => rfl

theorem oblivious_onMemory {x : Mem F α} (hx : Formed x) :
    Oblivious (onMemory x : Native F D α) := by
  intro s
  obtain ⟨n, r, m, h⟩ := hx.oblivious s.memory
  refine ⟨n, r, { s with memory := m }, fun b hb => ?_⟩
  have hrun : x (withAllocator s b).memory = outcome r (withAllocator m (b.after n)) := h b hb
  unfold onMemory
  rw [hrun]
  cases r <;> rfl

theorem oblivious_onRegistry (x : RegistryM α) : Oblivious (onRegistry x : Native F D α) := by
  refine .of_silent fun s => ?_
  cases hx : x s.registry with
  | ok a r =>
      refine ⟨.ok a, { s with registry := r }, fun b => ?_⟩
      simp only [onRegistry, Allocating.withAllocator, hx, outcome]
  | error e r =>
      refine ⟨.error e, { s with registry := r }, fun b => ?_⟩
      simp only [onRegistry, Allocating.withAllocator, hx, outcome]

theorem oblivious_insertHandle (type : HandleType) (object : Nat) :
    Oblivious (insertHandle type object : Native F D Nat) := by
  intro s
  have hrun : ∀ b, insertHandle type object (withAllocator s b) =
      onRegistry (HandleRegistry.insert type (some object) (!b.fails b.count))
        (withAllocator s (b.after 1)) := fun _ => rfl
  have hsame : ∀ b, (allocator s).Agrees b 1 → b.fails b.count =
      s.memory.allocator.fails s.memory.allocator.count := fun b hb => hb 0 Nat.one_pos
  cases hx : HandleRegistry.insert type (some object)
      (!s.memory.allocator.fails s.memory.allocator.count) s.registry with
  | ok a r =>
      refine ⟨1, .ok a, { s with registry := r }, fun b hb => ?_⟩
      rw [hrun, hsame b hb]
      simp only [onRegistry, withAllocator, hx, outcome]
  | error e r =>
      refine ⟨1, .error e, { s with registry := r }, fun b hb => ?_⟩
      rw [hrun, hsame b hb]
      simp only [onRegistry, withAllocator, hx, outcome]

end Primitives

end Tensora
