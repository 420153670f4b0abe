import Tensora.Lib.ProgramLogic

/-! Two programs over two states, run in lockstep: they end in the same way, with the same
result, and a relation between the states holds before and after. -/
namespace ProgramLogic

variable {ε σ τ α β : Type}

/-- Outcomes of one kind, with one result or error, in related states. -/
def Matched (R : σ → τ → Prop) : EStateM.Result ε σ α → EStateM.Result ε τ α → Prop
  | .ok a s, .ok b t => a = b ∧ R s t
  | .error e s, .error e' t => e = e' ∧ R s t
  | _, _ => False

def Lockstep (R : σ → τ → Prop) (x : EStateM ε σ α) (y : EStateM ε τ α) : Prop :=
  ∀ s t, R s t → Matched R (x s) (y t)

section Rules
variable {R : σ → τ → Prop} {x : EStateM ε σ α} {y : EStateM ε τ α}
  {f : α → EStateM ε σ β} {g : α → EStateM ε τ β} {s : σ} {t : τ}

theorem Matched.mono {R' : σ → τ → Prop} {r : EStateM.Result ε σ α} {r' : EStateM.Result ε τ α}
    (h : Matched R r r') (hR : ∀ s t, R s t → R' s t) : Matched R' r r' := by
  cases r <;> cases r'
  · exact ⟨h.1, hR _ _ h.2⟩
  · exact h.elim
  · exact h.elim
  · exact ⟨h.1, hR _ _ h.2⟩

theorem Matched.bind_of {R' : σ → τ → Prop} (hx : Matched R (x s) (y t))
    (he : ∀ s' t', R s' t' → R' s' t')
    (hf : ∀ a s' t', x s = .ok a s' → y t = .ok a t' → R s' t' →
      Matched R' (f a s') (g a t')) : Matched R' ((x >>= f) s) ((y >>= g) t) := by
  change Matched R' (EStateM.bind x f s) (EStateM.bind y g t)
  unfold EStateM.bind
  cases hxs : x s with
  | ok a s' =>
      cases hyt : y t with
      | ok b t' =>
          rw [hxs, hyt] at hx
          obtain ⟨rfl, hR⟩ := hx
          exact hf a s' t' hxs hyt hR
      | error e t' => rw [hxs, hyt] at hx; exact hx.elim
  | error e s' =>
      cases hyt : y t with
      | ok b t' => rw [hxs, hyt] at hx; exact hx.elim
      | error e' t' => rw [hxs, hyt] at hx; exact ⟨hx.1, he _ _ hx.2⟩

theorem Matched.bind (hx : Matched R (x s) (y t)) (hf : ∀ a, Lockstep R (f a) (g a)) :
    Matched R ((x >>= f) s) ((y >>= g) t) :=
  hx.bind_of (fun _ _ hR => hR) fun a s' t' _ _ hR => hf a s' t' hR

/-- One side fails with an error that the other does not end with. -/
theorem not_matched {e : ε} (hx : wp x (fun _ _ => False) (fun e' _ => e' = e) s)
    (hy : wp y (fun _ _ => True) (fun e' _ => e' ≠ e) t) : ¬Matched R (x s) (y t) := by
  intro h
  obtain ⟨_, s', hxs, rfl⟩ := error_of_wp hx
  rw [hxs] at h
  cases hyt : y t with
  | ok b t' => rw [hyt] at h; exact h
  | error e' t' =>
      rw [hyt] at h
      exact wp_of_error hy hyt h.1.symm

namespace Lockstep

theorem pure (a : α) : Lockstep R (pure a : EStateM ε σ α) (pure a : EStateM ε τ α) :=
  fun _ _ hR => ⟨rfl, hR⟩

theorem throw (e : ε) : Lockstep R (throw e : EStateM ε σ α) (throw e : EStateM ε τ α) :=
  fun _ _ hR => ⟨rfl, hR⟩

theorem bind (hx : Lockstep R x y) (hf : ∀ a, Lockstep R (f a) (g a)) :
    Lockstep R (x >>= f) (y >>= g) :=
  fun s t hR => (hx s t hR).bind hf

theorem ite {c : Prop} [Decidable c] {x' : EStateM ε σ α} {y' : EStateM ε τ α}
    (hx : c → Lockstep R x y) (hx' : ¬c → Lockstep R x' y') :
    Lockstep R (if c then x else x') (if c then y else y') := by
  split
  · exact hx ‹_›
  · exact hx' ‹_›

theorem get_bind {f : σ → EStateM ε σ β} {g : τ → EStateM ε τ β}
    (hf : ∀ s t, R s t → Matched R (f s s) (g t t)) : Lockstep R (get >>= f) (get >>= g) := hf

theorem modify {f : σ → σ} {g : τ → τ} (hf : ∀ s t, R s t → R (f s) (g t)) :
    Lockstep R (modify f : EStateM ε σ PUnit) (modify g) := fun s t hR => ⟨rfl, hf s t hR⟩

theorem tryCatch {handle : ε → EStateM ε σ α} {handle' : ε → EStateM ε τ α}
    (hx : Lockstep R x y) (hh : ∀ e, Lockstep R (handle e) (handle' e)) :
    Lockstep R (tryCatch x handle) (tryCatch y handle') := by
  intro s t hR
  have h := hx s t hR
  change Matched R (EStateM.tryCatch x handle s) (EStateM.tryCatch y handle' t)
  unfold EStateM.tryCatch
  cases hxs : x s with
  | ok a s' =>
      cases hyt : y t with
      | ok b t' => rw [hxs, hyt] at h; exact h
      | error e t' => rw [hxs, hyt] at h; exact h.elim
  | error e s' =>
      cases hyt : y t with
      | ok b t' => rw [hxs, hyt] at h; exact h.elim
      | error e' t' =>
          rw [hxs, hyt] at h
          obtain ⟨rfl, hR'⟩ := h
          exact hh e s' t' hR'

theorem foldlM {f : β → α → EStateM ε σ β} {g : β → α → EStateM ε τ β}
    (hf : ∀ b a, Lockstep R (f b a) (g b a)) (xs : List α) (b : β) :
    Lockstep R (xs.foldlM f b) (xs.foldlM g b) := by
  induction xs generalizing b with
  | nil => exact pure b
  | cons a xs ih =>
      rw [List.foldlM_cons, List.foldlM_cons]
      exact (hf b a).bind ih

theorem forM {f : α → EStateM ε σ PUnit} {g : α → EStateM ε τ PUnit}
    (hf : ∀ a, Lockstep R (f a) (g a)) (xs : List α) : Lockstep R (xs.forM f) (xs.forM g) := by
  induction xs with
  | nil => exact pure PUnit.unit
  | cons a xs ih => exact (hf a).bind fun _ => ih

end Lockstep

end Rules

end ProgramLogic
