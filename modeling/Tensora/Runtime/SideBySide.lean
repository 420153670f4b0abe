import Tensora.Lib.Lockstep
import Tensora.Runtime.RegistryHistory
import Tensora.Tensor.Oblivious

/-! Two states side by side that differ only in their optimizers and in which allocations
they have made. A call that has nothing to do with optimizers runs in lockstep on both and
leaves the optimizers of both alone. -/
namespace Tensora
open ProgramLogic Allocating

variable {F D α β : Type}

theorem lockstep_failIf {σ τ : Type} {R : σ → τ → Prop} (condition : Prop) [Decidable condition]
    (e : Failure) : Lockstep R (failIf condition e : EStateM Failure σ Unit)
      (failIf condition e : EStateM Failure τ Unit) :=
  Lockstep.ite (fun _ => .throw e) fun _ => .pure ()

def HandleType.isOptimizer : HandleType → Bool
  | .optimizer | .parameterOptimizer => true
  | _ => false

def Entry.Like (e e' : Entry) : Prop :=
  e = e' ∨ e.type.isOptimizer = true ∧ e'.type.isOptimizer = true ∧ e.refs = e'.refs

theorem Entry.Like.of_type {e e' : Entry} (h : e.Like e') {type : HandleType}
    (htype : type.isOptimizer = false) : e = e' ∨ e.type ≠ type ∧ e'.type ≠ type := by
  rcases h with rfl | ⟨he, he', -⟩
  · exact Or.inl rfl
  · refine Or.inr ⟨?_, ?_⟩
    · rintro rfl
      rw [htype] at he
      cases he
    · rintro rfl
      rw [htype] at he'
      cases he'

namespace HandleRegistry

/-- Registries that differ only in what some optimizer handles stand for. -/
structure Like (r r' : HandleRegistry) : Prop where
  entries : List.Forall₂ (fun p q => p.1 = q.1 ∧ p.2.Like q.2) r.entries r'.entries
  nextHandle : r.nextHandle = r'.nextHandle

variable {r r' : HandleRegistry}

theorem Like.refl (r : HandleRegistry) : r.Like r :=
  ⟨List.forall₂_same.mpr fun _ _ => ⟨rfl, Or.inl rfl⟩, rfl⟩

theorem Like.find (h : r.Like r') (handle : Nat) :
    r.find handle = none ∧ r'.find handle = none ∨
      ∃ e e', r.find handle = some e ∧ r'.find handle = some e' ∧ e.Like e' := by
  obtain ⟨entries, _⟩ := r
  obtain ⟨entries', _⟩ := r'
  have hall := h.entries
  unfold HandleRegistry.find
  simp only at hall ⊢
  induction hall with
  | nil => exact Or.inl ⟨rfl, rfl⟩
  | @cons p q ps qs hpq _ ih =>
      obtain ⟨k, e⟩ := p
      obtain ⟨k', e'⟩ := q
      obtain ⟨rfl, hlike⟩ := hpq
      simp only [List.lookup_cons]
      by_cases hk : handle = k
      · subst hk
        simp only [beq_self_eq_true]
        exact Or.inr ⟨e, e', rfl, rfl, hlike⟩
      · simp only [beq_eq_false_iff_ne.mpr hk]
        exact ih ⟨‹_›, h.nextHandle⟩

theorem Like.set (h : r.Like r') (handle : Nat) {e e' : Entry} (he : e.Like e') :
    (r.set handle e).Like (r'.set handle e') where
  entries := by
    refine List.forall₂_map_left_iff.mpr (List.forall₂_map_right_iff.mpr (h.entries.imp ?_))
    rintro ⟨k, x⟩ ⟨k', x'⟩ ⟨rfl, hx⟩
    simp only
    split
    · exact ⟨rfl, he⟩
    · exact ⟨rfl, hx⟩
  nextHandle := h.nextHandle

theorem Like.erase (h : r.Like r') (handle : Nat) : (r.erase handle).Like (r'.erase handle) where
  entries := by
    refine List.rel_filter ?_ h.entries
    rintro ⟨k, x⟩ ⟨k', x'⟩ ⟨rfl, -⟩
    exact Iff.rfl
  nextHandle := h.nextHandle

section Operations
variable {type : HandleType} {handle : Nat}

theorem lockstep_lookup (htype : type.isOptimizer = false) :
    Lockstep Like (lookup handle type) (lookup handle type) := by
  refine Lockstep.bind (lockstep_failIf _ _) fun _ => ?_
  refine Lockstep.get_bind fun r r' hlike => ?_
  rcases hlike.find handle with ⟨h, h'⟩ | ⟨e, e', h, h', he⟩
  · rw [h, h']
    exact ⟨rfl, hlike⟩
  · rw [h, h']
    rcases he.of_type htype with rfl | ⟨hne, hne'⟩
    · exact (Lockstep.bind (lockstep_failIf _ _) fun _ => .pure _)
        r r' hlike
    · simp only [failIf, hne, hne', ne_eq, not_false_eq_true, if_true]
      exact ⟨rfl, hlike⟩

theorem lockstep_retain (htype : type.isOptimizer = false) :
    Lockstep Like (retain handle type) (retain handle type) := by
  refine Lockstep.bind (lockstep_failIf _ _) fun _ => ?_
  refine Lockstep.get_bind fun r r' hlike => ?_
  rcases hlike.find handle with ⟨h, h'⟩ | ⟨e, e', h, h', he⟩
  · rw [h, h']
    exact ⟨rfl, hlike⟩
  · rw [h, h']
    rcases he.of_type htype with rfl | ⟨hne, hne'⟩
    · refine (Lockstep.bind (lockstep_failIf _ _) fun _ => ?_)
        r r' hlike
      refine Lockstep.bind (Lockstep.bind (lockstep_failIf _ _)
        fun _ => .pure _) fun refs => ?_
      exact Lockstep.modify fun _ _ h => h.set handle (Or.inl rfl)
    · simp only [failIf, hne, hne', ne_eq, not_false_eq_true, if_true]
      exact ⟨rfl, hlike⟩

theorem lockstep_release (htype : type.isOptimizer = false) :
    Lockstep Like (release handle type) (release handle type) := by
  refine Lockstep.bind (lockstep_failIf _ _) fun _ => ?_
  refine Lockstep.get_bind fun r r' hlike => ?_
  rcases hlike.find handle with ⟨h, h'⟩ | ⟨e, e', h, h', he⟩
  · rw [h, h']
    exact ⟨rfl, hlike⟩
  · rw [h, h']
    rcases he.of_type htype with rfl | ⟨hne, hne'⟩
    · refine (Lockstep.bind (lockstep_failIf _ _) fun _ => ?_)
        r r' hlike
      refine Lockstep.bind (Lockstep.bind (lockstep_failIf _ _)
        fun _ => .pure _) fun refs => ?_
      refine Lockstep.bind (Lockstep.modify fun _ _ h => h.set handle (Or.inl rfl)) fun _ => ?_
      exact Lockstep.ite (fun _ => Lockstep.modify fun _ _ h => h.erase handle) fun _ => .pure _
    · simp only [failIf, hne, hne', ne_eq, not_false_eq_true, if_true]
      exact ⟨rfl, hlike⟩

theorem lockstep_insert {type' : HandleType} {object object' : Nat} (allocated : Bool)
    (hsame : (⟨type, 1, object⟩ : Entry).Like ⟨type', 1, object'⟩) :
    Lockstep Like (insert type (some object) allocated)
      (insert type' (some object') allocated) := by
  refine Lockstep.get_bind fun r r' hlike => ?_
  rw [hlike.nextHandle]
  refine (Lockstep.bind (lockstep_failIf _ _) fun _ => ?_) r r' hlike
  refine Lockstep.bind (Lockstep.modify fun _ _ h => ⟨h.entries, by simp only [h.nextHandle]⟩)
    fun _ => ?_
  refine Lockstep.bind (lockstep_failIf _ _) fun _ => ?_
  refine Lockstep.get_bind fun r₁ r₁' hlike₁ => ?_
  have hfind : (r₁.find r'.nextHandle).isNone = (r₁'.find r'.nextHandle).isNone := by
    rcases hlike₁.find r'.nextHandle with ⟨h, h'⟩ | ⟨e, e', h, h', -⟩
    · rw [h, h']
    · rw [h, h']
      rfl
  rw [hfind]
  have hrest : Lockstep Like
      (do validateInsertion (r₁'.find r'.nextHandle).isNone
          return r'.nextHandle : RegistryM Nat)
      (do validateInsertion (r₁'.find r'.nextHandle).isNone
          return r'.nextHandle) := (lockstep_failIf _ _).bind fun _ => .pure _
  split
  · have hpush : Lockstep Like
        (modify fun r => { r with entries := (r'.nextHandle, ⟨type, 1, object⟩) :: r.entries } :
          RegistryM PUnit)
        (modify fun r => { r with entries := (r'.nextHandle, ⟨type', 1, object'⟩) :: r.entries }) :=
      Lockstep.modify fun _ _ h => ⟨.cons ⟨rfl, hsame⟩ h.entries, h.nextHandle⟩
    exact (hpush.bind fun _ => hrest) r₁ r₁' hlike₁
  · exact hrest r₁ r₁' hlike₁

end Operations

def Keeping (r₀ r : HandleRegistry) : Prop :=
  ∀ handle e, r₀.find handle = some e → e.type.isOptimizer = true → r.find handle = some e

def Spares (program : RegistryM α) : Prop :=
  ∀ r, wp program (fun _ r' => r.Keeping r') (fun _ r' => r.Keeping r') r

theorem Keeping.refl (r : HandleRegistry) : r.Keeping r := fun _ _ h _ => h

theorem Keeping.trans {r₀ r₁ r₂ : HandleRegistry} (h : r₀.Keeping r₁) (h' : r₁.Keeping r₂) :
    r₀.Keeping r₂ := fun handle e hfind he => h' handle e (h handle e hfind he) he

theorem keeping_of_find {r r' : HandleRegistry} {handle : Nat} {e : Entry}
    (hfind : r.find handle = some e) (he : e.type.isOptimizer = false)
    (hr : ∀ k, k ≠ handle → r'.find k = r.find k) : r.Keeping r' := by
  intro k e' hk he'
  refine (hr k ?_).trans hk
  rintro rfl
  obtain rfl := Option.some.inj (hfind.symm.trans hk)
  rw [he] at he'
  cases he'

section Spared
variable {type : HandleType} {handle : Nat}

theorem spares_lookup : Spares (lookup handle type) := by
  intro r
  unfold lookup
  rw [wp_bind, wp_failIf]
  refine ⟨fun _ => .refl r, fun _ => ?_⟩
  rw [wp_bind, wp_get]
  split
  · exact .refl r
  · rw [wp_bind, wp_failIf]
    exact ⟨fun _ => .refl r, fun _ => .refl r⟩

theorem spares_retain (htype : type.isOptimizer = false) : Spares (retain handle type) := by
  intro r
  unfold retain incrementReferenceCount
  rw [wp_bind, wp_failIf]
  refine ⟨fun _ => .refl r, fun _ => ?_⟩
  rw [wp_bind, wp_get]
  split
  · exact .refl r
  · rename_i entry hfind
    simp only [wp_bind, wp_failIf, wp_pure, wp_modify, not_not]
    refine ⟨fun _ => .refl r, fun hentry => ⟨fun _ => .refl r, fun _ => ?_⟩⟩
    refine keeping_of_find hfind (hentry ▸ htype) fun k hk => ?_
    rw [find_set _ _ _ _ (by rw [hfind]; rfl), if_neg hk]

theorem spares_release (htype : type.isOptimizer = false) : Spares (release handle type) := by
  intro r
  unfold release decrementReferenceCount
  rw [wp_bind, wp_failIf]
  refine ⟨fun _ => .refl r, fun _ => ?_⟩
  rw [wp_bind, wp_get]
  split
  · exact .refl r
  · rename_i entry hfind
    simp only [wp_bind, wp_failIf, wp_pure, wp_modify, not_not]
    refine ⟨fun _ => .refl r, fun hentry => ⟨fun _ => .refl r, fun _ => ?_⟩⟩
    have hset : ∀ k, k ≠ handle →
        (r.set handle { entry with refs := entry.refs - 1 }).find k = r.find k := fun k hk => by
      rw [find_set _ _ _ _ (by rw [hfind]; rfl), if_neg hk]
    refine wp_ite (fun _ => ?_) fun _ => keeping_of_find hfind (hentry ▸ htype) hset
    rw [wp_modify]
    refine keeping_of_find hfind (hentry ▸ htype) fun k hk => ?_
    rw [find_erase, if_neg hk, hset k hk]

theorem spares_insert (object : Nat) (allocated : Bool) :
    Spares (insert type (some object) allocated) := by
  intro r
  unfold insert
  simp only [wp_bind, wp_get, validateNextHandle, wp_failIf, wp_modify, validateInsertion]
  refine ⟨fun _ => .refl r, fun _ => ⟨fun _ _ _ h _ => h, fun _ => ?_⟩⟩
  split
  · rename_i hnew
    simp only [wp_bind, wp_modify, wp_failIf, wp_pure]
    have hpushed : ∀ entries, entries = (r.nextHandle, (⟨type, 1, object⟩ : Entry)) :: r.entries →
        r.Keeping ⟨entries, add64 r.nextHandle 1⟩ := by
      rintro _ rfl k e hk -
      have hne : (k == r.nextHandle) = false := by
        refine beq_eq_false_iff_ne.mpr ?_
        rintro rfl
        rw [show r.find r.nextHandle = none from Option.isNone_iff_eq_none.mp hnew] at hk
        cases hk
      simpa only [find, List.lookup_cons, hne] using hk
    exact ⟨fun _ => hpushed _ rfl, fun _ => hpushed _ rfl⟩
  · simp only [wp_bind, wp_failIf, wp_pure]
    exact ⟨fun _ _ _ h _ => h, fun _ _ _ h _ => h⟩

end Spared

end HandleRegistry

def Allocator.Matches (a b : Allocator) : Prop := ∀ n, a.Agrees b n

theorem Allocator.Matches.after {a b : Allocator} (h : a.Matches b) (n : Nat) :
    (a.after n).Matches (b.after n) := fun m => (h (n + m)).later

theorem Allocator.Matches.fails {a b : Allocator} (h : a.Matches b) :
    b.fails b.count = a.fails a.count := h 1 0 Nat.one_pos

def Runtime.Keeping (s₀ s : Runtime F D) : Prop :=
  ∀ (i : Nat) (state : Training.LinearState), s₀.modules[i]? = some state →
    ∃ training, s.modules[i]? = some { state with training := training }

/-- Alike but for their optimizers, which are those of two given states. -/
structure Beside (s₀ t₀ s t : Runtime F D) : Prop where
  heap : t.heap = s.heap
  allocations : s.memory.allocator.Matches t.memory.allocator
  registry : s.registry.Like t.registry
  modules : t.modules = s.modules
  rng : t.rng = s.rng
  files : t.files = s.files
  keeping : s₀.Keeping s
  left : s.optimizers = s₀.optimizers ∧ s.parameterOptimizers = s₀.parameterOptimizers
  right : t.optimizers = t₀.optimizers ∧ t.parameterOptimizers = t₀.parameterOptimizers
  handles : s₀.registry.Keeping s.registry ∧ t₀.registry.Keeping t.registry

theorem Runtime.Keeping.refl (s : Runtime F D) : s.Keeping s :=
  fun _ state h => ⟨state.training, h⟩

theorem Beside.refl (s : Runtime F D) : Beside s s s s :=
  ⟨rfl, fun _ => .refl _ _, .refl _, rfl, rfl, rfl, .refl s, ⟨rfl, rfl⟩, ⟨rfl, rfl⟩, .refl _,
    .refl _⟩

section Programs
variable {s₀ t₀ : Runtime F D}

theorem lockstep_onMemory {program : Mem F α} (hp : Formed program) :
    Lockstep (Beside s₀ t₀) (onMemory program) (onMemory program) := by
  intro s t h
  obtain ⟨n, r, m, hrun⟩ := hp.oblivious s.memory
  have hs := hrun s.memory.allocator (.refl _ n)
  have ht := hrun t.memory.allocator (h.allocations n)
  have hmemory : t.memory = withAllocator s.memory t.memory.allocator := by
    have hheap : t.memory.heap = s.memory.heap := h.heap
    change t.memory = ⟨s.memory.heap, t.memory.allocator⟩
    rw [← hheap]
  have hself : withAllocator s.memory s.memory.allocator = s.memory := rfl
  rw [hself] at hs
  rw [← hmemory] at ht
  unfold onMemory
  rw [hs, ht]
  have hafter := h.allocations.after n
  cases r with
  | ok a =>
    exact ⟨rfl, rfl, hafter, h.registry, h.modules, h.rng, h.files, h.keeping, h.left, h.right,
      h.handles⟩
  | error e =>
    exact ⟨rfl, rfl, hafter, h.registry, h.modules, h.rng, h.files, h.keeping, h.left, h.right,
      h.handles⟩

theorem lockstep_onRegistry {program program' : RegistryM α}
    (hp : Lockstep HandleRegistry.Like program program') (hspares : HandleRegistry.Spares program)
    (hspares' : HandleRegistry.Spares program') :
    Lockstep (Beside s₀ t₀) (onRegistry program) (onRegistry program') := by
  intro s t h
  have hrun := hp s.registry t.registry h.registry
  specialize hspares s.registry
  specialize hspares' t.registry
  unfold wp at hspares hspares'
  unfold onRegistry
  cases hs : program s.registry with
  | ok a r =>
      cases ht : program' t.registry with
      | ok b r' =>
          rw [hs, ht] at hrun
          rw [hs] at hspares
          rw [ht] at hspares'
          exact ⟨hrun.1, h.heap, h.allocations, hrun.2, h.modules, h.rng, h.files, h.keeping,
            h.left, h.right, h.handles.1.trans hspares, h.handles.2.trans hspares'⟩
      | error e r' => rw [hs, ht] at hrun; exact hrun.elim
  | error e r =>
      cases ht : program' t.registry with
      | ok b r' => rw [hs, ht] at hrun; exact hrun.elim
      | error e' r' =>
          rw [hs, ht] at hrun
          rw [hs] at hspares
          rw [ht] at hspares'
          exact ⟨hrun.1, h.heap, h.allocations, hrun.2, h.modules, h.rng, h.files, h.keeping,
            h.left, h.right, h.handles.1.trans hspares, h.handles.2.trans hspares'⟩

theorem lockstep_insertHandle {type type' : HandleType} {object object' : Nat}
    (hsame : (⟨type, 1, object⟩ : Entry).Like ⟨type', 1, object'⟩) :
    Lockstep (Beside s₀ t₀) (insertHandle type object) (insertHandle type' object') := by
  refine Lockstep.get_bind fun s t h => ?_
  rw [h.allocations.fails]
  refine Matched.bind ⟨rfl, ?_⟩ fun _ =>
    lockstep_onRegistry (HandleRegistry.lockstep_insert _ hsame) (HandleRegistry.spares_insert _ _)
      (HandleRegistry.spares_insert _ _)
  exact ⟨h.heap, h.allocations.after 1, h.registry, h.modules, h.rng, h.files, h.keeping, h.left,
    h.right, h.handles⟩

theorem lockstep_insertTensor (tensor : TensorId) :
    Lockstep (Beside s₀ t₀) (insertTensor tensor) (insertTensor tensor) :=
  lockstep_insertHandle (Or.inl rfl)

theorem lockstep_lookupTensor (handle : Nat) :
    Lockstep (Beside s₀ t₀) (lookupTensor handle) (lookupTensor handle) :=
  lockstep_onRegistry (HandleRegistry.lockstep_lookup rfl) HandleRegistry.spares_lookup
    HandleRegistry.spares_lookup

theorem lockstep_lookupModule (handle : Nat) :
    Lockstep (Beside s₀ t₀) (lookupModule handle) (lookupModule handle) := by
  refine (lockstep_onRegistry (HandleRegistry.lockstep_lookup rfl) HandleRegistry.spares_lookup
    HandleRegistry.spares_lookup).bind fun object => ?_
  refine Lockstep.get_bind fun s t h => ?_
  rw [h.modules]
  cases s.modules[object]? with
  | none => exact Lockstep.throw _ s t h
  | some state => exact Lockstep.pure _ s t h

theorem lockstep_allocationGuard (operation : String) {x y : Native F D α}
    (h : Lockstep (Beside s₀ t₀) x y) :
    Lockstep (Beside s₀ t₀) (allocationGuard operation x) (allocationGuard operation y) := by
  refine h.tryCatch fun e => ?_
  cases e <;> exact Lockstep.throw _

end Programs

end Tensora
