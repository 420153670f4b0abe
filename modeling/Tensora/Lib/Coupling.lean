import Tensora.Lib.Lockstep

/-! Two programs side by side that need not return the same: their results are related, and so are
the states before and after. Both throw the same, or neither throws. -/
namespace ProgramLogic

variable {ε σ τ α β α' β' γ δ : Type}

def Paired (V : α → β → Prop) (Q : σ → τ → Prop) :
    EStateM.Result ε σ α → EStateM.Result ε τ β → Prop
  | .ok a s, .ok b t => V a b ∧ Q s t
  | .error e s, .error e' t => e = e' ∧ Q s t
  | _, _ => False

def Coupled (P : σ → τ → Prop) (V : α → β → Prop) (Q : σ → τ → Prop) (x : EStateM ε σ α)
    (y : EStateM ε τ β) : Prop :=
  ∀ s t, P s t → Paired V Q (x s) (y t)

section Rules
variable {P Q R : σ → τ → Prop} {V : α → β → Prop} {W : α' → β' → Prop} {x : EStateM ε σ α}
  {y : EStateM ε τ β} {f : α → EStateM ε σ α'} {g : β → EStateM ε τ β'} {s : σ} {t : τ}

theorem Paired.mono {V' : α → β → Prop} {Q' : σ → τ → Prop} {r : EStateM.Result ε σ α}
    {r' : EStateM.Result ε τ β} (h : Paired V Q r r') (hV : ∀ a b, V a b → V' a b)
    (hQ : ∀ s t, Q s t → Q' s t) : Paired V' Q' r r' := by
  cases r <;> cases r'
  · exact ⟨hV _ _ h.1, hQ _ _ h.2⟩
  · exact h.elim
  · exact h.elim
  · exact ⟨h.1, hQ _ _ h.2⟩

theorem paired_iff_matched {r : EStateM.Result ε σ α} {r' : EStateM.Result ε τ α} :
    Paired (· = ·) Q r r' ↔ Matched Q r r' := by
  cases r <;> cases r' <;> exact Iff.rfl

theorem Lockstep.of_coupled {y : EStateM ε τ α} (h : Coupled Q (· = ·) Q x y) :
    Lockstep Q x y := fun s t hQ => paired_iff_matched.mp (h s t hQ)

/-- Two outcomes that are paired, each with what is known of it alone. -/
theorem Paired.and {x : EStateM ε σ α} {y : EStateM ε τ β} {I : σ → Prop} {J : τ → Prop}
    (h : Paired V Q (x s) (y t)) (hx : wp x (fun _ => I) (fun _ => I) s)
    (hy : wp y (fun _ => J) (fun _ => J) t) :
    Paired V (fun s t => Q s t ∧ I s ∧ J t) (x s) (y t) := by
  unfold wp at hx hy
  cases hs : x s <;> cases ht : y t <;> rw [hs, ht] at h <;> rw [hs] at hx <;> rw [ht] at hy
  · exact ⟨h.1, h.2, hx, hy⟩
  · exact h.elim
  · exact h.elim
  · exact ⟨h.1, h.2, hx, hy⟩

theorem Paired.bind (h : Paired V Q (x s) (y t)) (hQ : ∀ s t, Q s t → R s t)
    (hf : ∀ a b, V a b → Coupled Q W R (f a) (g b)) :
    Paired W R ((x >>= f) s) ((y >>= g) t) := by
  change Paired W R (EStateM.bind x f s) (EStateM.bind y g t)
  unfold EStateM.bind
  cases hs : x s <;> cases ht : y t <;> rw [hs, ht] at h
  · exact hf _ _ h.1 _ _ h.2
  · exact h.elim
  · exact h.elim
  · exact ⟨h.1, hQ _ _ h.2⟩

namespace Coupled

theorem pure {a : α} {b : β} (h : V a b) :
    Coupled Q V Q (pure a : EStateM ε σ α) (pure b : EStateM ε τ β) := fun _ _ hQ => ⟨h, hQ⟩

theorem throw (e : ε) : Coupled Q V Q (throw e : EStateM ε σ α) (throw e : EStateM ε τ β) :=
  fun _ _ hQ => ⟨rfl, hQ⟩

theorem of_lockstep {y : EStateM ε τ α} (h : Lockstep Q x y) : Coupled Q (· = ·) Q x y :=
  fun s t hQ => paired_iff_matched.mpr (h s t hQ)

theorem mono {P' Q' : σ → τ → Prop} {V' : α → β → Prop} (h : Coupled P V Q x y)
    (hP : ∀ s t, P' s t → P s t) (hV : ∀ a b, V a b → V' a b) (hQ : ∀ s t, Q s t → Q' s t) :
    Coupled P' V' Q' x y := fun s t hP' => (h s t (hP s t hP')).mono hV hQ

/-- Less is asked of the states before than the two programs leave. -/
theorem weaken {P' : σ → τ → Prop} (h : Coupled P V Q x y) (hP : ∀ s t, P' s t → P s t) :
    Coupled P' V Q x y := h.mono hP (fun _ _ hV => hV) fun _ _ hQ => hQ

theorem bind (hx : Coupled P V Q x y) (hQ : ∀ s t, Q s t → R s t)
    (hf : ∀ a b, V a b → Coupled Q W R (f a) (g b)) : Coupled P W R (x >>= f) (y >>= g) :=
  fun s t hP => (hx s t hP).bind hQ hf

theorem seq (hx : Coupled P V P x y) (hPR : ∀ s t, P s t → R s t)
    (hf : ∀ a b, V a b → Coupled P W R (f a) (g b)) : Coupled P W R (x >>= f) (y >>= g) :=
  hx.bind hPR hf

theorem map {V' : γ → δ → Prop} {f : α → γ} {g : β → δ} (hx : Coupled P V Q x y)
    (hf : ∀ a b, V a b → V' (f a) (g b)) : Coupled P V' Q (f <$> x) (g <$> y) := by
  intro s t hP
  have h := hx s t hP
  change Paired V' Q (EStateM.map f x s) (EStateM.map g y t)
  unfold EStateM.map
  cases hs : x s <;> cases ht : y t <;> rw [hs, ht] at h
  · exact ⟨hf _ _ h.1, h.2⟩
  · exact h.elim
  · exact h.elim
  · exact h

theorem get_bind {f : σ → EStateM ε σ α'} {g : τ → EStateM ε τ β'}
    (hf : ∀ s t, P s t → Paired W R (f s s) (g t t)) : Coupled P W R (get >>= f) (get >>= g) := hf

theorem modify {f : σ → σ} {g : τ → τ} (hf : ∀ s t, P s t → Q (f s) (g t)) :
    Coupled P (· = ·) Q (modify f : EStateM ε σ PUnit) (modify g) := fun s t hP => ⟨rfl, hf s t hP⟩

theorem ite {c : Prop} [Decidable c] {x' : EStateM ε σ α} {y' : EStateM ε τ β}
    (hx : c → Coupled P V Q x y) (hx' : ¬c → Coupled P V Q x' y') :
    Coupled P V Q (if c then x else x') (if c then y else y') := by
  split
  · exact hx ‹_›
  · exact hx' ‹_›

theorem tryCatch {handle : ε → EStateM ε σ α} {handle' : ε → EStateM ε τ β}
    (hx : Coupled P V Q x y) (hQ : ∀ s t, Q s t → R s t)
    (hh : ∀ e, Coupled Q V R (handle e) (handle' e)) :
    Coupled P V R (tryCatch x handle) (tryCatch y handle') := by
  intro s t hP
  have h := hx s t hP
  change Paired V R (EStateM.tryCatch x handle s) (EStateM.tryCatch y handle' t)
  unfold EStateM.tryCatch
  cases hs : x s <;> cases ht : y t <;> rw [hs, ht] at h
  · exact ⟨h.1, hQ _ _ h.2⟩
  · exact h.elim
  · exact h.elim
  · obtain ⟨rfl, hQ'⟩ := h
    exact hh _ _ _ hQ'

end Coupled

end Rules

end ProgramLogic
