import Mathlib.Data.List.Nodup

/-! Folding a list in another order: steps of which any two may be taken in either order lead to
the same state, up to a relation and while an invariant holds. -/
namespace Reordering

variable {σ α : Type}

/-- Steps for the elements of `U` that keep `I`, respect `R`, and commute up to it. -/
structure Commutes (R : σ → σ → Prop) (I : σ → Prop) (U : α → Prop) (f : σ → α → σ) : Prop where
  refl : ∀ s, R s s
  trans : ∀ {s t u}, R s t → R t u → R s u
  keeps : ∀ {s a}, U a → I s → I (f s a)
  respects : ∀ {s t a}, U a → I s → I t → R s t → R (f s a) (f t a)
  comm : ∀ {s a b}, U a → U b → a ≠ b → I s → R (f (f s a) b) (f (f s b) a)

variable {R : σ → σ → Prop} {I : σ → Prop} {U : α → Prop} {f : σ → α → σ} {xs ys : List α}
  {s t : σ}

theorem Commutes.foldl_keeps (c : Commutes R I U f) (hU : ∀ a ∈ xs, U a) (hs : I s) :
    I (xs.foldl f s) := by
  induction xs generalizing s with
  | nil => exact hs
  | cons a xs ih =>
      exact ih (fun b hb => hU b (List.mem_cons_of_mem _ hb)) (c.keeps (hU a List.mem_cons_self) hs)

theorem Commutes.foldl_respects (c : Commutes R I U f) (hU : ∀ a ∈ xs, U a) (hs : I s) (ht : I t)
    (h : R s t) : R (xs.foldl f s) (xs.foldl f t) := by
  induction xs generalizing s t with
  | nil => exact h
  | cons a xs ih =>
      have ha := hU a List.mem_cons_self
      exact ih (fun b hb => hU b (List.mem_cons_of_mem _ hb)) (c.keeps ha hs) (c.keeps ha ht)
        (c.respects ha hs ht h)

theorem Commutes.foldl_perm (c : Commutes R I U f) (hperm : xs.Perm ys) (hU : ∀ a ∈ xs, U a)
    (hnodup : xs.Nodup) (hs : I s) (ht : I t) (h : R s t) :
    R (xs.foldl f s) (ys.foldl f t) := by
  induction hperm generalizing s t with
  | nil => exact h
  | cons a _ ih =>
      have ha := hU a List.mem_cons_self
      exact ih (fun b hb => hU b (List.mem_cons_of_mem _ hb)) (List.nodup_cons.mp hnodup).2
        (c.keeps ha hs) (c.keeps ha ht) (c.respects ha hs ht h)
  | swap a b xs =>
      have hb := hU b List.mem_cons_self
      have ha := hU a (List.mem_cons_of_mem _ List.mem_cons_self)
      have hne : b ≠ a := fun heq =>
        (List.nodup_cons.mp hnodup).1 (heq ▸ List.mem_cons_self)
      -- the first two are taken in the other order, the rest as they come
      refine c.foldl_respects
        (fun x hx => hU x (List.mem_cons_of_mem _ (List.mem_cons_of_mem _ hx)))
        (c.keeps ha (c.keeps hb hs)) (c.keeps hb (c.keeps ha ht)) ?_
      exact c.trans (c.comm hb ha hne hs) (c.respects hb (c.keeps ha hs) (c.keeps ha ht)
        (c.respects ha hs ht h))
  | trans hfirst _ ih ih' =>
      exact c.trans (ih hU hnodup hs hs (c.refl s))
        (ih' (fun a ha => hU a (hfirst.mem_iff.mpr ha)) (hfirst.nodup_iff.mp hnodup) hs ht h)

end Reordering
