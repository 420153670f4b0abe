import Mathlib.Logic.Basic

/-! Weakest preconditions for programs that keep their state when they fail.
`wp x Q E s` says that `x`, started in `s`, ends in `Q` when it returns and in
`E` when it throws. The state of a failed run is part of the statement, so
atomicity on error paths is an ordinary postcondition. -/
namespace ProgramLogic

variable {ε σ α β γ : Type}

def wp (x : EStateM ε σ α) (Q : α → σ → Prop) (E : ε → σ → Prop) (s : σ) : Prop :=
  match x s with
  | .ok a s' => Q a s'
  | .error e s' => E e s'

theorem wp_of_ok {x : EStateM ε σ α} {Q : α → σ → Prop} {E : ε → σ → Prop} {s s' : σ} {a : α}
    (h : wp x Q E s) (hx : x s = .ok a s') : Q a s' := by
  simpa only [wp, hx] using h

theorem wp_of_error {x : EStateM ε σ α} {Q : α → σ → Prop} {E : ε → σ → Prop} {s s' : σ} {e : ε}
    (h : wp x Q E s) (hx : x s = .error e s') : E e s' := by
  simpa only [wp, hx] using h

theorem wp_eq_of_ok {x : EStateM ε σ α} {Q : α → σ → Prop} {E : ε → σ → Prop} {s s' : σ} {a : α}
    (hx : x s = .ok a s') : wp x Q E s ↔ Q a s' := by
  simp only [wp, hx]

theorem wp_eq_of_error {x : EStateM ε σ α} {Q : α → σ → Prop} {E : ε → σ → Prop} {s s' : σ} {e : ε}
    (hx : x s = .error e s') : wp x Q E s ↔ E e s' := by
  simp only [wp, hx]

theorem ok_of_wp {x : EStateM ε σ α} {Q : α → σ → Prop} {s : σ}
    (h : wp x Q (fun _ _ => False) s) : ∃ a s', x s = .ok a s' ∧ Q a s' := by
  unfold wp at h
  cases hx : x s with
  | ok a s' => rw [hx] at h; exact ⟨a, s', rfl, h⟩
  | error e s' => rw [hx] at h; exact h.elim

theorem error_of_wp {x : EStateM ε σ α} {E : ε → σ → Prop} {s : σ}
    (h : wp x (fun _ _ => False) E s) : ∃ e s', x s = .error e s' ∧ E e s' := by
  unfold wp at h
  cases hx : x s with
  | ok a s' => rw [hx] at h; exact h.elim
  | error e s' => rw [hx] at h; exact ⟨e, s', rfl, h⟩

theorem wp_any {x : EStateM ε σ α} {s : σ} : wp x (fun _ _ => True) (fun _ _ => True) s := by
  unfold wp
  cases x s <;> trivial

@[simp] theorem wp_pure (a : α) (Q : α → σ → Prop) (E : ε → σ → Prop) (s : σ) :
    wp (pure a) Q E s ↔ Q a s := Iff.rfl

@[simp] theorem wp_throw (e : ε) (Q : α → σ → Prop) (E : ε → σ → Prop) (s : σ) :
    wp (throw e) Q E s ↔ E e s := Iff.rfl

@[simp] theorem wp_get (Q : σ → σ → Prop) (E : ε → σ → Prop) (s : σ) :
    wp get Q E s ↔ Q s s := Iff.rfl

@[simp] theorem wp_modify (f : σ → σ) (Q : PUnit → σ → Prop) (E : ε → σ → Prop) (s : σ) :
    wp (modify f) Q E s ↔ Q ⟨⟩ (f s) := Iff.rfl

@[simp] theorem wp_bind (x : EStateM ε σ α) (f : α → EStateM ε σ β)
    (Q : β → σ → Prop) (E : ε → σ → Prop) (s : σ) :
    wp (x >>= f) Q E s ↔ wp x (fun a s' => wp (f a) Q E s') E s := by
  change wp (EStateM.bind x f) Q E s ↔ _
  unfold wp EStateM.bind
  cases x s <;> rfl

theorem wp_bind_of_ok {x : EStateM ε σ α} {f : α → EStateM ε σ β} {Q : β → σ → Prop}
    {E : ε → σ → Prop} {s s' : σ} {a : α} (hx : x s = .ok a s') (hf : wp (f a) Q E s') :
    wp (x >>= f) Q E s := by
  rw [wp_bind]
  unfold wp
  rw [hx]
  exact hf

@[simp] theorem wp_map (x : EStateM ε σ α) (f : α → β)
    (Q : β → σ → Prop) (E : ε → σ → Prop) (s : σ) :
    wp (f <$> x) Q E s ↔ wp x (fun a s' => Q (f a) s') E s := by
  change wp (EStateM.map f x) Q E s ↔ _
  unfold wp EStateM.map
  cases x s <;> rfl

theorem wp_mono {x : EStateM ε σ α} {Q Q' : α → σ → Prop} {E E' : ε → σ → Prop} {s : σ}
    (h : wp x Q E s) (hQ : ∀ a s', Q a s' → Q' a s') (hE : ∀ e s', E e s' → E' e s') :
    wp x Q' E' s := by
  unfold wp at h ⊢
  cases hx : x s with
  | ok a s' => rw [hx] at h; exact hQ a s' h
  | error e s' => rw [hx] at h; exact hE e s' h

theorem wp_and {x : EStateM ε σ α} {Q Q' : α → σ → Prop} {E E' : ε → σ → Prop} {s : σ}
    (h : wp x Q E s) (h' : wp x Q' E' s) :
    wp x (fun a s => Q a s ∧ Q' a s) (fun e s => E e s ∧ E' e s) s := by
  unfold wp at h h' ⊢
  cases hx : x s with
  | ok a s' => rw [hx] at h h'; exact ⟨h, h'⟩
  | error e s' => rw [hx] at h h'; exact ⟨h, h'⟩

/-- The rule for one statement of a program: its own specification, then the
rest of the program from every state that specification allows. -/
theorem wp_seq {x : EStateM ε σ α} {f : α → EStateM ε σ β} {P : α → σ → Prop}
    {Q : β → σ → Prop} {E R : ε → σ → Prop} {s : σ}
    (h : wp x P R s) (hE : ∀ e s', R e s' → E e s')
    (hf : ∀ a s', P a s' → wp (f a) Q E s') : wp (x >>= f) Q E s := by
  rw [wp_bind]
  exact wp_mono h hf hE

theorem wp_ite {c : Prop} [Decidable c] {x y : EStateM ε σ α}
    {Q : α → σ → Prop} {E : ε → σ → Prop} {s : σ}
    (ht : c → wp x Q E s) (hf : ¬c → wp y Q E s) : wp (if c then x else y) Q E s := by
  split
  · exact ht ‹_›
  · exact hf ‹_›

theorem wp_tryCatch {x : EStateM ε σ α} {handle : ε → EStateM ε σ α} {P : ε → σ → Prop}
    {Q : α → σ → Prop} {E : ε → σ → Prop} {s : σ}
    (h : wp x Q P s) (hh : ∀ e s', P e s' → wp (handle e) Q E s') :
    wp (tryCatch x handle) Q E s := by
  change wp (EStateM.tryCatch x handle) Q E s
  unfold wp EStateM.tryCatch at *
  cases hx : x s with
  | ok a s' => rw [hx] at h; exact h
  | error e s' => rw [hx] at h; exact hh e s' h

theorem wp_tryCatch_of_error {x : EStateM ε σ α} {handle : ε → EStateM ε σ α}
    {Q : α → σ → Prop} {E : ε → σ → Prop} {s s' : σ} {e : ε} (hx : x s = .error e s') :
    wp (tryCatch x handle) Q E s ↔ wp (handle e) Q E s' := by
  change wp (EStateM.tryCatch x handle) Q E s ↔ _
  unfold wp EStateM.tryCatch
  rw [hx]
  rfl

theorem wp_tryCatch_of_ok {x : EStateM ε σ α} {handle : ε → EStateM ε σ α}
    {Q : α → σ → Prop} {E : ε → σ → Prop} {s s' : σ} {a : α} (hx : x s = .ok a s') :
    wp (tryCatch x handle) Q E s ↔ Q a s' := by
  change wp (EStateM.tryCatch x handle) Q E s ↔ _
  unfold wp EStateM.tryCatch
  rw [hx]

/-- Loop rule: `I done rest` holds between the processed prefix and the rest. -/
theorem wp_foldlM {f : β → α → EStateM ε σ β} {E : ε → σ → Prop} {Q : β → σ → Prop}
    (I : List α → List α → β → σ → Prop) (xs : List α) {b : β} {s : σ}
    (h0 : I [] xs b s)
    (hstep : ∀ done x rest b s, xs = done ++ x :: rest → I done (x :: rest) b s →
      wp (f b x) (fun b' s' => I (done ++ [x]) rest b' s') E s)
    (hend : ∀ b s, I xs [] b s → Q b s) : wp (xs.foldlM f b) Q E s := by
  suffices H : ∀ (rest done : List α) (b : β) (s : σ), xs = done ++ rest → I done rest b s →
      wp (rest.foldlM f b) Q E s from H xs [] b s rfl h0
  intro rest
  induction rest with
  | nil =>
      intro done b s hxs hI
      rw [List.append_nil] at hxs
      subst hxs
      exact hend b s hI
  | cons x rest ih =>
      intro done b s hxs hI
      rw [List.foldlM_cons]
      refine wp_seq (hstep done x rest b s hxs hI) (fun _ _ he => he) ?_
      intro b' s' hI'
      exact ih (done ++ [x]) b' s' (by simp [hxs]) hI'

theorem wp_forM {f : α → EStateM ε σ PUnit} {E : ε → σ → Prop} {Q : PUnit → σ → Prop}
    (I : List α → List α → σ → Prop) (xs : List α) {s : σ} (h0 : I [] xs s)
    (hstep : ∀ done x rest s, xs = done ++ x :: rest → I done (x :: rest) s →
      wp (f x) (fun _ s' => I (done ++ [x]) rest s') E s)
    (hend : ∀ s, I xs [] s → Q ⟨⟩ s) : wp (xs.forM f) Q E s := by
  suffices H : ∀ (rest done : List α) (s : σ), xs = done ++ rest → I done rest s →
      wp (rest.forM f) Q E s from H xs [] s rfl h0
  intro rest
  induction rest with
  | nil =>
      intro done s hxs hI
      rw [List.append_nil] at hxs
      subst hxs
      exact hend s hI
  | cons x rest ih =>
      intro done s hxs hI
      change wp (f x >>= fun _ => rest.forM f) Q E s
      refine wp_seq (hstep done x rest s hxs hI) (fun _ _ he => he) fun _ s' hI' => ?_
      exact ih (done ++ [x]) s' (by simp [hxs]) hI'

theorem wp_mapM {f : α → EStateM ε σ β} {E : ε → σ → Prop} {Q : List β → σ → Prop}
    (I : List α → List β → σ → Prop) (xs : List α) {s : σ}
    (h0 : I [] [] s)
    (hstep : ∀ done x rest ys s, xs = done ++ x :: rest → I done ys s →
      wp (f x) (fun y s' => I (done ++ [x]) (ys ++ [y]) s') E s)
    (hend : ∀ ys s, I xs ys s → Q ys s) : wp (xs.mapM f) Q E s := by
  suffices H : ∀ (rest done : List α) (ys : List β) (s : σ) (Q : List β → σ → Prop),
      xs = done ++ rest → I done ys s → (∀ zs s, I xs (ys ++ zs) s → Q zs s) →
      wp (rest.mapM f) Q E s from H xs [] [] s Q rfl h0 (by simpa using hend)
  intro rest
  induction rest with
  | nil =>
      intro done ys s Q hxs hI hQ
      rw [List.append_nil] at hxs
      subst hxs
      rw [List.mapM_nil]
      exact hQ [] s (by simpa using hI)
  | cons x rest ih =>
      intro done ys s Q hxs hI hQ
      rw [List.mapM_cons]
      refine wp_seq (hstep done x rest ys s hxs hI) (fun _ _ he => he) ?_
      intro y s' hI'
      rw [wp_bind]
      exact ih (done ++ [x]) (ys ++ [y]) s' (fun zs s => Q (y :: zs) s) (by simp [hxs]) hI'
        (fun zs s hz => hQ (y :: zs) s (by simpa using hz))

end ProgramLogic
