import Tensora.Tensor.Memory

/-! Triples over heaps, for any allocator. `Spec x h Q E X` says what `x` leaves
from the heap `h`: `Q` when it returns, `E` when it rejects its input, and `X`
when an allocation fails on the way. Which allocations fail is never assumed. -/
namespace Tensora
open ProgramLogic CheckedLoop

variable {F α β : Type}

structure Allocator.Ran (a a' : Allocator) : Prop where
  fails : a'.fails = a.fails
  count : a.count ≤ a'.count

def Allocator.Outage (a a' : Allocator) : Prop :=
  ∃ k, a.count ≤ k ∧ k < a'.count ∧ a.fails k = true

def Allocator.after (a : Allocator) (n : Nat) : Allocator := { a with count := a.count + n }

@[simp] theorem Allocator.after_zero (a : Allocator) : a.after 0 = a := rfl

@[simp] theorem Allocator.after_after (a : Allocator) (n m : Nat) :
    (a.after n).after m = a.after (n + m) := by
  simp only [after, Nat.add_assoc]

/-- `std::bad_alloc`, or the status it is turned into. -/
def Failure.IsResource : Failure → Prop
  | .badAlloc => True
  | .status .outOfMemory _ => True
  | _ => False

theorem Allocator.Ran.refl (a : Allocator) : a.Ran a := ⟨rfl, Nat.le_refl _⟩

theorem Allocator.Ran.trans {a b c : Allocator} (h : a.Ran b) (h' : b.Ran c) : a.Ran c :=
  ⟨h'.fails.trans h.fails, h.count.trans h'.count⟩

theorem Allocator.Outage.earlier {a b c : Allocator} (h : a.Ran b) (h' : b.Outage c) :
    a.Outage c := by
  obtain ⟨k, hle, hlt, hk⟩ := h'
  exact ⟨k, h.count.trans hle, hlt, by rw [← h.fails]; exact hk⟩

def Spec (x : Mem F α) (h : Heap F) (Q : α → Heap F → Prop) (E : Failure → Heap F → Prop)
    (X : Heap F → Prop) : Prop :=
  ∀ a : Allocator, wp x (fun r m => a.Ran m.allocator ∧ Q r m.heap)
    (fun e m => a.Ran m.allocator ∧
      (E e m.heap ∨ a.Outage m.allocator ∧ e.IsResource ∧ X m.heap)) ⟨h, a⟩

/-- A program that changes nothing and fails only for lack of memory. -/
abbrev Observes (x : Mem F α) (h : Heap F) (Q : α → Prop) : Prop :=
  Spec x h (fun r h' => h' = h ∧ Q r) (fun _ _ => False) (fun h' => h' = h)

section Rules
variable {x : Mem F α} {f : α → Mem F β} {h : Heap F} {Q Q' : α → Heap F → Prop}
  {R : β → Heap F → Prop} {E E' : Failure → Heap F → Prop} {X X' : Heap F → Prop}

theorem Spec.mono (hx : Spec x h Q E X) (hQ : ∀ r h', Q r h' → Q' r h')
    (hE : ∀ e h', E e h' → E' e h') (hX : ∀ h', X h' → X' h') : Spec x h Q' E' X' := by
  intro a
  refine wp_mono (hx a) (fun r m ⟨hran, hq⟩ => ⟨hran, hQ _ _ hq⟩) ?_
  rintro e m ⟨hran, he | ⟨hout, hres, hx⟩⟩
  · exact ⟨hran, Or.inl (hE _ _ he)⟩
  · exact ⟨hran, Or.inr ⟨hout, hres, hX _ hx⟩⟩

theorem Spec.and {Q' : α → Heap F → Prop} (hx : Spec x h Q E X)
    (hx' : Spec x h Q' (fun _ _ => True) fun _ => True) :
    Spec x h (fun r h' => Q r h' ∧ Q' r h') E X := by
  intro a
  refine wp_mono (wp_and (hx a) (hx' a)) ?_ fun _ _ he => he.1
  rintro r m ⟨⟨hran, hq⟩, -, hq'⟩
  exact ⟨hran, hq, hq'⟩

theorem Spec.bind (hx : Spec x h Q E X) (hf : ∀ r h', Q r h' → Spec (f r) h' R E X) :
    Spec (x >>= f) h R E X := by
  intro a
  rw [wp_bind]
  refine wp_mono (hx a) ?_ (fun e m he => he)
  rintro r ⟨h', b⟩ ⟨hran, hq⟩
  refine wp_mono (hf r h' hq b) (fun r' m ⟨hran', hr⟩ => ⟨hran.trans hran', hr⟩) ?_
  rintro e m ⟨hran', he | ⟨hout, hres, hx'⟩⟩
  · exact ⟨hran.trans hran', Or.inl he⟩
  · exact ⟨hran.trans hran', Or.inr ⟨hout.earlier hran, hres, hx'⟩⟩

theorem spec_pure {r : α} (hq : Q r h) : Spec (pure r : Mem F α) h Q E X :=
  fun a => ⟨Allocator.Ran.refl a, hq⟩

theorem spec_throw {e : Failure} (he : E e h) : Spec (throw e : Mem F α) h Q E X :=
  fun a => ⟨Allocator.Ran.refl a, Or.inl he⟩

theorem spec_ite {c : Prop} [Decidable c] {y : Mem F α} (ht : c → Spec x h Q E X)
    (hf : ¬c → Spec y h Q E X) : Spec (if c then x else y) h Q E X := by
  split
  · exact ht ‹_›
  · exact hf ‹_›

theorem Observes.bind {P : α → Prop} (hx : Observes x h P) (hX : X h)
    (hf : ∀ r, P r → Spec (f r) h R E X) : Spec (x >>= f) h R E X := by
  refine Spec.bind (Q := fun r h' => h' = h ∧ P r) ?_ ?_
  · refine hx.mono (fun r h' hq => hq) (fun e h' he => he.elim) ?_
    rintro h' rfl
    exact hX
  · rintro r h' ⟨rfl, hp⟩
    exact hf r hp

theorem spec_failIf_bind {c : Prop} [Decidable c] {e : Failure} {y : Unit → Mem F β}
    (he : c → E e h) (hy : ¬c → Spec (y ()) h R E X) : Spec (failIf c e >>= y) h R E X := by
  unfold failIf
  split
  · exact fun a => ⟨Allocator.Ran.refl a, Or.inl (he ‹_›)⟩
  · exact hy ‹_›

theorem spec_failIf {c : Prop} [Decidable c] {e : Failure} {Q : Unit → Heap F → Prop}
    (he : c → E e h) (hq : ¬c → Q () h) : Spec (failIf c e : Mem F Unit) h Q E X := by
  unfold failIf
  split
  · exact fun a => ⟨Allocator.Ran.refl a, Or.inl (he ‹_›)⟩
  · exact fun a => ⟨Allocator.Ran.refl a, hq ‹_›⟩

theorem Spec.ok (hx : Spec x h Q (fun _ _ => False) X) {a : Allocator}
    (ha : ∀ k, a.count ≤ k → a.fails k = false) :
    ∃ r m, x ⟨h, a⟩ = .ok r m ∧ a.Ran m.allocator ∧ Q r m.heap := by
  refine ok_of_wp (wp_mono (hx a) (fun r m hq => hq) ?_)
  rintro e m ⟨-, hfalse | ⟨⟨k, hle, -, hk⟩, -⟩⟩
  · exact hfalse
  · rw [ha k hle] at hk
    cases hk

theorem spec_foldlM {f : β → α → Mem F β} {Q : β → Heap F → Prop}
    (I : List α → List α → β → Heap F → Prop) (xs : List α) {b : β} (h0 : I [] xs b h)
    (hstep : ∀ done x rest b h, xs = done ++ x :: rest → I done (x :: rest) b h →
      Spec (f b x) h (fun b' h' => I (done ++ [x]) rest b' h') E X)
    (hend : ∀ b h, I xs [] b h → Q b h) : Spec (xs.foldlM f b) h Q E X := by
  suffices H : ∀ (rest done : List α) (b : β) (h : Heap F), xs = done ++ rest →
      I done rest b h → Spec (rest.foldlM f b) h Q E X from H xs [] b h rfl h0
  intro rest
  induction rest with
  | nil =>
      intro done b h hxs hI
      rw [List.append_nil] at hxs
      subst hxs
      exact spec_pure (hend b h hI)
  | cons x rest ih =>
      intro done b h hxs hI
      rw [List.foldlM_cons]
      refine Spec.bind (hstep done x rest b h hxs hI) fun b' h' hI' => ?_
      exact ih (done ++ [x]) b' h' (by simp [hxs]) hI'

theorem spec_forM {f : α → Mem F PUnit} {Q : PUnit → Heap F → Prop}
    (I : List α → List α → Heap F → Prop) (xs : List α) (h0 : I [] xs h)
    (hstep : ∀ done x rest h, xs = done ++ x :: rest → I done (x :: rest) h →
      Spec (f x) h (fun _ h' => I (done ++ [x]) rest h') E X)
    (hend : ∀ h, I xs [] h → Q ⟨⟩ h) : Spec (xs.forM f) h Q E X := by
  suffices H : ∀ (rest done : List α) (h : Heap F), xs = done ++ rest →
      I done rest h → Spec (rest.forM f) h Q E X from H xs [] h rfl h0
  intro rest
  induction rest with
  | nil =>
      intro done h hxs hI
      rw [List.append_nil] at hxs
      subst hxs
      exact spec_pure (hend h hI)
  | cons x rest ih =>
      intro done h hxs hI
      change Spec (f x >>= fun _ => rest.forM f) h Q E X
      refine Spec.bind (hstep done x rest h hxs hI) fun _ h' hI' => ?_
      exact ih (done ++ [x]) h' (by simp [hxs]) hI'

theorem spec_mapM {f : α → Mem F β} {P : α → β → Prop} (xs : List α)
    (hstep : ∀ x ∈ xs, Spec (f x) h (fun r h' => h' = h ∧ P x r) E X) :
    Spec (xs.mapM f) h (fun rs h' => h' = h ∧ List.Forall₂ P xs rs) E X := by
  induction xs with
  | nil => exact spec_pure ⟨rfl, List.Forall₂.nil⟩
  | cons x xs ih =>
      rw [List.mapM_cons]
      refine Spec.bind (hstep x (by simp)) ?_
      rintro r _ ⟨rfl, hr⟩
      refine Spec.bind (ih fun y hy => hstep y (by simp [hy])) ?_
      rintro rs _ ⟨rfl, hrs⟩
      exact spec_pure ⟨rfl, List.Forall₂.cons hr hrs⟩

end Rules

section Primitives
variable {h : Heap F} {Q : α → Heap F → Prop} {E : Failure → Heap F → Prop} {X : Heap F → Prop}

theorem wp_allocate (Q : Unit → Memory F → Prop) (E : Failure → Memory F → Prop) (h : Heap F)
    (a : Allocator) : wp allocate Q E ⟨h, a⟩ ↔
      (a.fails a.count = true → E .badAlloc ⟨h, a.after 1⟩) ∧
        (a.fails a.count = false → Q () ⟨h, a.after 1⟩) := by
  unfold wp allocate Allocator.after
  by_cases hk : a.fails a.count = true <;> simp [hk]

theorem observes_allocate (h : Heap F) : Observes (allocate : Mem F Unit) h fun _ => True := by
  intro a
  have hran : a.Ran { a with count := a.count + 1 } := ⟨rfl, Nat.le_succ _⟩
  unfold wp allocate
  by_cases hk : a.fails a.count = true
  · simp only [hk, if_true]
    exact ⟨hran, Or.inr ⟨⟨a.count, Nat.le_refl _, Nat.lt_succ_self _, hk⟩, trivial, trivial⟩⟩
  · simp only [hk]
    exact ⟨hran, rfl, trivial⟩

theorem observes_allocateFloats (h : Heap F) {size : Nat} (hsize : size ≤ kMaxFloats) :
    Observes (allocateFloats size : Mem F Unit) h fun _ => True := by
  unfold allocateFloats
  exact spec_failIf_bind (fun hlt => absurd hlt (Nat.not_lt.mpr hsize)) fun _ => observes_allocate h

theorem spec_allocateFloats (h : Heap F) (size : Nat) :
    Spec (allocateFloats size : Mem F Unit) h (fun _ h' => h' = h ∧ size ≤ kMaxFloats)
      (fun e h' => h' = h ∧ e = .lengthError ∧ kMaxFloats < size) (fun h' => h' = h) := by
  unfold allocateFloats
  refine spec_failIf_bind (fun hlt => ⟨rfl, rfl, hlt⟩) fun hle => ?_
  exact (observes_allocate h).mono (fun _ _ hq => ⟨hq.1, Nat.le_of_not_lt hle⟩)
    (fun _ _ he => he.elim) fun _ hx => hx

def guarded (operation : String) : Failure → Failure
  | .badAlloc => outOfMemory (operation ++ ": allocation failed")
  | .lengthError => outOfMemory (operation ++ ": allocation size is too large")
  | failure => failure

theorem wp_allocationGuard {σ : Type} {x : EStateM Failure σ α} {Q : α → σ → Prop}
    {E : Failure → σ → Prop} {s : σ} (operation : String)
    (hx : wp x Q (fun e s' => E (guarded operation e) s') s) :
    wp (allocationGuard operation x) Q E s := by
  refine wp_tryCatch hx ?_
  rintro e s' he
  cases e <;> exact he

theorem spec_allocationGuard {x : Mem F α} (operation : String)
    (hx : Spec x h Q (fun e h' => E (guarded operation e) h') X) :
    Spec (allocationGuard operation x) h Q E X := by
  intro a
  refine wp_tryCatch (hx a) ?_
  rintro e m ⟨hran, he⟩
  have hthrow : ∀ e' : Failure, e' = guarded operation e →
      (a.Ran m.allocator ∧ (E e' m.heap ∨ a.Outage m.allocator ∧ e'.IsResource ∧ X m.heap)) := by
    rintro e' rfl
    refine ⟨hran, he.imp id fun ⟨hout, hres, hX⟩ => ⟨hout, ?_, hX⟩⟩
    cases e with
    | status code message => exact hres
    | badAlloc => trivial
    | lengthError => trivial
    | _ => exact hres.elim
  cases e with
  | badAlloc => exact hthrow _ rfl
  | lengthError => exact hthrow _ rfl
  | _ => exact hthrow _ rfl

theorem observes_allocationGuard {x : Mem F α} {P : α → Prop} (operation : String)
    (hx : Observes x h P) : Observes (allocationGuard operation x) h P :=
  spec_allocationGuard operation hx

theorem observes_getHeap (h : Heap F) : Observes (getHeap : Mem F (Heap F)) h fun r => r = h :=
  fun a => ⟨Allocator.Ran.refl a, rfl, rfl⟩

theorem spec_modifyHeap (g : Heap F → Heap F) {Q : PUnit → Heap F → Prop} (hq : Q ⟨⟩ (g h)) :
    Spec (modifyHeap g) h Q E X :=
  fun a => ⟨Allocator.Ran.refl a, hq⟩

theorem deref_eq {m : Memory F} {id : TensorId} {t : Tensor}
    (ht : m.heap.tensors[id]? = some t) : (deref id : Mem F Tensor) m = .ok t m := by
  have hrun : wp (deref id : Mem F Tensor) (fun r m' => r = t ∧ m' = m) (fun _ _ => False) m := by
    simp only [deref, getHeap, wp_bind, wp_get, wp_pure, ht, and_self]
  obtain ⟨_, _, hx, rfl, rfl⟩ := ok_of_wp hrun
  exact hx

theorem spec_deref {id : TensorId} {t : Tensor} (ht : h.tensors[id]? = some t) :
    Spec (deref id : Mem F Tensor) h (fun r h' => h' = h ∧ r = t) (fun _ _ => False)
      fun _ => False := by
  unfold deref
  refine Spec.bind (Q := fun r h' => h' = h ∧ r = h) (fun a => ⟨Allocator.Ran.refl a, rfl, rfl⟩) ?_
  rintro _ _ ⟨rfl, rfl⟩
  simp only [ht]
  exact spec_pure ⟨rfl, rfl⟩

theorem observes_deref {id : TensorId} {t : Tensor} (ht : h.tensors[id]? = some t) :
    Observes (deref id : Mem F Tensor) h fun r => r = t :=
  (spec_deref ht).mono (fun _ _ hq => hq) (fun _ _ he => he) fun _ hx => hx.elim

theorem spec_storageValues {t : Tensor} {values : List F}
    (hs : h.storages[t.storage]? = some values) :
    Spec (storageValues t : Mem F (List F)) h (fun r h' => h' = h ∧ r = values)
      (fun _ _ => False) fun _ => False := by
  unfold storageValues
  refine Spec.bind (Q := fun r h' => h' = h ∧ r = h) (fun a => ⟨Allocator.Ran.refl a, rfl, rfl⟩) ?_
  rintro _ _ ⟨rfl, rfl⟩
  simp only [hs]
  exact spec_pure ⟨rfl, rfl⟩

theorem observes_storageValues {t : Tensor} {values : List F}
    (hs : h.storages[t.storage]? = some values) :
    Observes (storageValues t : Mem F (List F)) h fun r => r = values :=
  (spec_storageValues hs).mono (fun _ _ hq => hq) (fun _ _ he => he) fun _ hx => hx.elim

theorem observes_version {t : Tensor} {c : VersionCounter}
    (hc : h.counters[t.versionCounter]? = some c) :
    Observes (version t : Mem F Nat) h fun r => r = c.value := by
  unfold version
  refine (observes_getHeap h).bind rfl ?_
  rintro _ rfl
  simp only [hc]
  exact spec_pure ⟨rfl, rfl⟩

theorem observes_identity {t : Tensor} {c : VersionCounter}
    (hc : h.counters[t.versionCounter]? = some c) :
    Observes (identity t : Mem F Nat) h fun r => r = c.identity := by
  unfold identity
  refine (observes_getHeap h).bind rfl ?_
  rintro _ rfl
  simp only [hc]
  exact spec_pure ⟨rfl, rfl⟩

theorem observes_checked {kernel : Except Fault α} {r : α} (hk : kernel = .ok r) :
    Observes (checked kernel : Mem F α) h fun r' => r' = r := by
  subst hk
  exact spec_pure ⟨rfl, rfl⟩

theorem observes_validatedShape {dims : List Nat} (hd : ValidDims dims) :
    Observes (validatedShape (dims.map Int.ofNat) : Mem F ShapeInfo) h
      fun s => s = canonicalShape dims := by
  unfold validatedShape
  refine (observes_allocate h).bind rfl fun _ _ => ?_
  rw [validateShape_of_valid hd]
  exact spec_pure ⟨rfl, rfl⟩

theorem spec_validatedShape (h : Heap F) (dims : List Int) :
    Spec (validatedShape dims : Mem F ShapeInfo) h
      (fun s h' => h' = h ∧ s.Canonical ∧ dims = s.dimensions.map Int.ofNat)
      (fun e h' => h' = h ∧ validateShape dims = .error e) (fun h' => h' = h) := by
  unfold validatedShape
  refine (observes_allocate h).bind rfl fun _ _ => ?_
  cases hv : validateShape dims with
  | ok s => exact spec_pure ⟨rfl, validateShape_ok hv⟩
  | error e => exact spec_throw ⟨rfl, rfl⟩

theorem observes_cpuStorageFilled (h : Heap F) {numel : Nat} (value : F) (hn : numel ≤ kMaxFloats) :
    Observes (cpuStorageFilled numel value : Mem F (List F)) h
      fun xs => xs = List.replicate numel value := by
  unfold cpuStorageFilled
  refine observes_allocationGuard _ ?_
  exact (observes_allocateFloats h hn).bind rfl fun _ _ => spec_pure ⟨rfl, rfl⟩

theorem observes_cpuStorageFromData (h : Heap F) {data : List F} (hn : data.length ≤ kMaxFloats) :
    Observes (cpuStorageFromData data data.length : Mem F (List F)) h fun xs => xs = data := by
  unfold cpuStorageFromData
  refine observes_allocationGuard _ ?_
  refine (observes_allocateFloats h hn).bind rfl fun _ _ => ?_
  refine spec_failIf_bind (fun hlt => absurd hlt (Nat.lt_irrefl _)) fun _ => ?_
  exact spec_pure ⟨rfl, List.take_length⟩

end Primitives

end Tensora
