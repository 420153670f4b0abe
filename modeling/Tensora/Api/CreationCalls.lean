import Tensora.Api.MutatingCalls
import Tensora.Api.ObliviousCalls
import Tensora.Runtime.Insertion
import Tensora.Training.AssignMany
import Tensora.Training.CreateSpecs

/-! Creating either optimizer: when it returns, and the state it leaves. -/
namespace Tensora
open ProgramLogic

variable {F D α : Type}

def Runtime.Later (s s' : Runtime F D) : Prop :=
  ∃ n, s' = { s with memory := ⟨s.heap, s.memory.allocator.after n⟩ }

namespace Runtime.Later
variable {s s' s'' : Runtime F D}

theorem refl (s : Runtime F D) : s.Later s := ⟨0, rfl⟩

theorem trans (h : s.Later s') (h' : s'.Later s'') : s.Later s'' := by
  obtain ⟨n, rfl⟩ := h
  obtain ⟨m, rfl⟩ := h'
  exact ⟨n + m, by simp only [Allocator.after_after]; rfl⟩

theorem heap_eq (h : s.Later s') : s'.heap = s.heap := by
  obtain ⟨n, rfl⟩ := h
  rfl

theorem ok (h : s.Later s') (ok : s.Ok) : s'.Ok := by
  obtain ⟨n, rfl⟩ := h
  exact ok.onHeap (Evolves.refl ok.wellFormed)

theorem lasting (h : s.Later s') (hmem : Api.Lasting s) : Api.Lasting s' := by
  obtain ⟨n, rfl⟩ := h
  exact fun k hk => hmem k ((Nat.le_add_right _ n).trans hk)

end Runtime.Later

namespace Api
open Training
variable {s : Runtime F D}

theorem wp_leaves {program : Mem F α} {T : α → Prop} {P : Failure → Prop}
    (hp : Spec program s.heap (fun r h' => h' = s.heap ∧ T r) (fun e h' => h' = s.heap ∧ P e)
      fun h' => h' = s.heap) :
    wp (onMemory program) (fun r s' => s.Later s' ∧ T r)
      (fun e s' => s.Later s' ∧ (¬Lasting s ∨ P e)) s := by
  have hran : ∀ a' : Allocator, s.memory.allocator.Ran a' →
      ∃ n, a' = s.memory.allocator.after n := by
    rintro ⟨count, fails⟩ h
    obtain ⟨n, hn⟩ := Nat.exists_eq_add_of_le h.count
    have hfails : fails = s.memory.allocator.fails := h.fails
    simp only at hn
    exact ⟨n, by rw [hn, hfails]; rfl⟩
  rw [wp_onMemory]
  refine wp_mono (hp s.memory.allocator) ?_ ?_
  · rintro r ⟨h', a'⟩ ⟨ran, hheap, ht⟩
    obtain ⟨n, rfl⟩ := hran a' ran
    simp only at hheap
    subst hheap
    exact ⟨⟨n, rfl⟩, ht⟩
  · rintro e ⟨h', a'⟩ ⟨ran, he⟩
    obtain ⟨n, rfl⟩ := hran a' ran
    have hheap : h' = s.heap := he.elim And.left fun hx => hx.2.2
    subst hheap
    refine ⟨⟨n, rfl⟩, he.symm.imp (fun hx hmem => ?_) And.right⟩
    obtain ⟨⟨k, hle, -, hk⟩, -⟩ := hx
    rw [hmem k hle] at hk
    cases hk

theorem wp_insertHandle_withEntry (type : HandleType) (object : Nat) :
    wp (insertHandle type object : Native F D Nat)
      (fun handle s' => s.registry.refuses = none ∧ handle = s.registry.nextHandle ∧
        ∃ s₁, s.Later s₁ ∧ s' = { s₁ with registry := s.registry.withEntry type object })
      (fun e s' => s'.heap = s.heap ∧ (¬Lasting s ∨ s.registry.refuses = some e)) s := by
  unfold insertHandle
  simp only [wp_bind, wp_get, wp_modify, wp_onRegistry]
  refine wp_mono (HandleRegistry.wp_insert_withEntry s.registry type object _) ?_ ?_
  · rintro handle _ ⟨hnone, rfl, rfl⟩
    exact ⟨hnone, rfl, _, ⟨1, rfl⟩, rfl⟩
  · rintro e _ ⟨-, hlost | hrefused⟩
    · refine ⟨rfl, Or.inl fun hmem => ?_⟩
      rw [hmem _ (Nat.le_refl _)] at hlost
      cases hlost
    · exact ⟨rfl, Or.inr hrefused⟩

theorem wp_leaves_seq {β : Type} {program : Mem F α} {f : α → Native F D β} {T : α → Prop}
    {P : Failure → Prop} {Q : β → Runtime F D → Prop} {E : Failure → Runtime F D → Prop}
    {s₁ : Runtime F D} (later : s.Later s₁)
    (hp : Spec program s.heap (fun r h' => h' = s.heap ∧ T r) (fun e h' => h' = s.heap ∧ P e)
      fun h' => h' = s.heap)
    (he : ∀ e s', s.Later s' → ¬Lasting s ∨ P e → E e s')
    (hf : ∀ r s₂, s.Later s₂ → T r → wp (f r) Q E s₂) : wp (onMemory program >>= f) Q E s₁ := by
  rw [← later.heap_eq] at hp
  refine wp_seq (wp_leaves hp) ?_ ?_
  · rintro e s' ⟨hlater, hlost⟩
    exact he e s' (later.trans hlater) (hlost.imp (fun hlost hmem => hlost (later.lasting hmem)) id)
  · rintro r s₂ ⟨hlater, ht⟩
    exact hf r s₂ (later.trans hlater) ht

theorem wp_reads_seq {β : Type} {program : Mem F α} {f : α → Native F D β} {T : α → Prop}
    {Q : β → Runtime F D → Prop} {E : Failure → Runtime F D → Prop} {s₁ : Runtime F D}
    (later : s.Later s₁) (hp : Observes program s.heap T)
    (he : ∀ e s', s.Later s' → ¬Lasting s → E e s')
    (hf : ∀ r s₂, s.Later s₂ → T r → wp (f r) Q E s₂) : wp (onMemory program >>= f) Q E s₁ :=
  wp_leaves_seq later (hp.mono (fun _ _ hq => hq) (fun _ _ hfalse => hfalse.elim) fun _ hx => hx)
    (fun e s' hlater hlost => he e s' hlater (hlost.resolve_right id)) hf

/-- How a creation that was not completed ends: nothing but the tables of objects has
changed, and memory ran out or the given reason holds. -/
def Uncreated (s : Runtime F D) (reason : Failure → Prop) (e : Failure) (s' : Runtime F D) : Prop :=
  s'.heap = s.heap ∧ (¬Lasting s ∨ reason e)

theorem uncreated_lost {reason : Failure → Prop} {e : Failure} {s' : Runtime F D}
    (later : s.Later s') (hlost : ¬Lasting s) : Uncreated s reason e s' :=
  ⟨later.heap_eq, Or.inl hlost⟩

theorem wp_guard_uncreated {reason : Failure → Prop} (operation : String) {x : Native F D α}
    {Q : α → Runtime F D → Prop} {s₁ : Runtime F D}
    (hreason : ∀ e, reason e → ∃ code message, e = .status code message)
    (hx : wp x Q (Uncreated s reason) s₁) :
    wp (allocationGuard operation x) Q (Uncreated s reason) s₁ := by
  refine wp_tryCatch hx ?_
  rintro e s' ⟨hheap, hlost | hr⟩
  · cases e <;> exact ⟨hheap, Or.inl hlost⟩
  · obtain ⟨code, message, rfl⟩ := hreason e hr
    exact ⟨hheap, Or.inr hr⟩

theorem status_of_refuses {r : HandleRegistry} {e : Failure} (h : r.refuses = some e) :
    ∃ code message, e = .status code message := by
  unfold HandleRegistry.refuses at h
  split at h
  · exact ⟨_, _, (Option.some.inj h).symm⟩
  · split at h
    · exact ⟨_, _, (Option.some.inj h).symm⟩
    · cases h

theorem of_replied {x : Native F D Nat} {handle : Nat} {s' : Runtime F D}
    (h : (x >>= fun r => pure (Reply.handle r : Reply F)) s = .ok (.handle handle) s') :
    x s = .ok handle s' := by
  change EStateM.bind x _ s = _ at h
  unfold EStateM.bind at h
  cases hx : x s with
  | ok r s₁ => rw [hx] at h; cases h; rfl
  | error e s₁ => rw [hx] at h; cases h

section Bound
variable [Zero F] [Scalar D]

def newOptimizer (h : Heap F) (kind : OptimizerKind) (object : Nat) (state : LinearState)
    (hyper : Hyperparameters D) : OptimizerState F D where
  kind := kind
  module := object
  hyper := hyper
  moments := ⟨0, zeroBuffers h state.parameters,
    if kind = .sgd then [] else zeroBuffers h state.parameters⟩

def Registered (s₁ : Runtime F D) (type : HandleType) (object handle : Nat) (s' : Runtime F D) :
    Prop :=
  s₁.registry.refuses = none ∧ handle = s₁.registry.nextHandle ∧
    ∃ s₂, s₁.Later s₂ ∧ s' = { s₂ with registry := s₁.registry.withEntry type object }

omit [Zero F] [Scalar D] in
theorem Registered.objectOf {s₁ s' : Runtime F D} {type : HandleType} {object handle : Nat}
    (h : Registered s₁ type object handle s') : s'.objectOf handle type = some object := by
  obtain ⟨hnone, rfl, s₂, -, rfl⟩ := h
  have hne : s₁.registry.nextHandle ≠ 0 := by
    intro hzero
    rw [HandleRegistry.refuses, if_pos (Or.inl hzero)] at hnone
    cases hnone
  rw [Runtime.objectOf, if_neg hne, HandleRegistry.find_withEntry]
  simp only [Option.bind_some, if_true]

omit [Zero F] [Scalar D] in
theorem wp_register (type : HandleType) (object : Nat) (s₁ : Runtime F D)
    {reason : Failure → Prop} (hheap : s₁.heap = s.heap) (hmem : Lasting s → Lasting s₁)
    (hreason : ∀ e, s₁.registry.refuses = some e → reason e) :
    wp (insertHandle type object) (fun handle s' => Registered s₁ type object handle s')
      (Uncreated s reason) s₁ := by
  refine wp_mono (wp_insertHandle_withEntry type object) (fun _ _ hq => hq) ?_
  rintro e s' ⟨hheap', hlost | hrefused⟩
  · exact ⟨hheap'.trans hheap, Or.inl fun hm => hlost (hmem hm)⟩
  · exact ⟨hheap'.trans hheap, Or.inr (hreason e hrefused)⟩

theorem wp_createOptimizer (ok : s.Ok) (module : Nat) (kind : OptimizerKind)
    (hyper : Hyperparameters D) :
    wp (createOptimizer module kind hyper)
      (fun handle s' => accepts kind hyper = true ∧ ∃ object state s₁,
        s.moduleAt module = some (object, state) ∧ s.Later s₁ ∧
        Registered { s₁ with optimizers :=
          s.optimizers ++ [newOptimizer s.heap kind object state hyper] }
          .optimizer s.optimizers.length handle s')
      (Uncreated s fun e => accepts kind hyper = false ∧ e.code = some .invalidArgument ∨
        s.moduleAt module = none ∨ s.registry.refuses = some e) s := by
  unfold createOptimizer
  refine wp_seq (checks_hyperparameters kind hyper s) ?_ ?_
  · rintro e _ ⟨rfl, hcode, haccept⟩
    exact ⟨rfl, Or.inr (Or.inl ⟨haccept, hcode⟩)⟩
  rintro _ s ⟨rfl, haccept⟩
  cases hm : s.moduleAt module with
  | none =>
      refine wp_seq (wp_lookupModule_or s module) ?_ ?_
      · rintro e _ rfl
        exact ⟨rfl, Or.inr (Or.inr (Or.inl rfl))⟩
      · rintro r _ ⟨-, hr⟩
        rw [hm] at hr
        cases hr
  | some found =>
      obtain ⟨object, state⟩ := found
      refine wp_seq (wp_lookupModule hm) (fun _ _ he => he.elim) ?_
      rintro _ s ⟨rfl, rfl⟩
      have u := (ok.modules state (List.mem_of_getElem? (Runtime.get_moduleAt hm))).updatable
      have hv : ∀ p ∈ state.parameters, s.heap.Visible p := fun p hp => (u p hp).1
      have hfits : ∀ p ∈ state.parameters, (s.heap.dims p).prod ≤ kMaxFloats := fun p hp =>
        (hv p hp).fits ok.wellFormed
      -- only the refusal of a handle can be the reason from here on
      refine wp_mono (E := Uncreated s fun e => s.registry.refuses = some e) ?_ (fun _ _ hq => hq)
        fun e s' he => ⟨he.1, he.2.imp id fun hr => Or.inr (Or.inr hr)⟩
      refine wp_guard_uncreated _ (fun e hr => status_of_refuses hr) ?_
      refine wp_reads_seq (.refl s) (observes_allocate _) (fun _ _ => uncreated_lost) ?_
      rintro _ s₁ later₁ -
      refine wp_reads_seq later₁ (observes_allocate _) (fun _ _ => uncreated_lost) ?_
      rintro _ s₂ later₂ -
      refine wp_reads_seq later₂ (spec_sizes ok.wellFormed hv) (fun _ _ => uncreated_lost) ?_
      rintro _ s₃ later₃ rfl
      refine wp_reads_seq later₃ (observes_allocate _) (fun _ _ => uncreated_lost) ?_
      rintro _ s₄ later₄ -
      refine wp_reads_seq later₄ (observes_allocate _) (fun _ _ => uncreated_lost) ?_
      rintro _ s₅ later₅ -
      refine wp_reads_seq later₅ (spec_zeroMoments hfits) (fun _ _ => uncreated_lost) ?_
      rintro _ s₆ later₆ rfl
      have hlast : ∀ (second : List (List F)) (s' : Runtime F D), s.Later s' →
          second = (if kind = .sgd then [] else zeroBuffers s.heap state.parameters) →
          wp (do
            let optimizer := (← get).optimizers.length
            modify fun r => { r with optimizers := r.optimizers ++ [{
              kind := kind
              module := object
              hyper := hyper
              moments := ⟨0, zeroBuffers s.heap state.parameters, second⟩ }] }
            insertHandle .optimizer optimizer : Native F D Nat)
          (fun handle s' => accepts kind hyper = true ∧ ∃ object' state' s₁,
            some (object, state) = some (object', state') ∧ s.Later s₁ ∧
            Registered { s₁ with optimizers :=
              s.optimizers ++ [newOptimizer s.heap kind object' state' hyper] }
              .optimizer s.optimizers.length handle s')
          (Uncreated s fun e => s.registry.refuses = some e) s' := by
        rintro _ s' later rfl
        obtain ⟨n, hs'⟩ := id later
        rw [wp_bind, wp_get, wp_bind, wp_modify]
        have hlength : s'.optimizers = s.optimizers := by rw [hs']
        have hregistry : s'.registry = s.registry := by rw [hs']
        rw [hlength]
        refine wp_mono (wp_register (s := s) .optimizer _ _ later.heap_eq later.lasting
          fun e he => (hregistry ▸ he :)) ?_ fun _ _ he => he
        rintro handle s'' hr
        exact ⟨haccept, object, state, s', rfl, later, hr⟩
      by_cases hk : kind = .sgd
      · rw [if_pos hk, pure_bind]
        exact hlast [] s₆ later₆ (if_pos hk).symm
      · rw [if_neg hk]
        refine wp_reads_seq later₆ (spec_zeroMoments hfits) (fun _ _ => uncreated_lost) ?_
        rintro _ s₇ later₇ rfl
        exact hlast _ s₇ later₇ (if_neg hk).symm

end Bound

structure Trainable (s : Runtime F D) (handles : List Nat) (ids : List TensorId) : Prop where
  resolved : List.Forall₂ (fun handle id => s.objectOf handle .tensor = some id) handles ids
  distinct : ids.Nodup
  graded : ∃ id ∈ ids, s.heap.requiresGrad id = true

abbrev Resolve (s : Runtime F D) (handles : List Nat) (ids : List TensorId) : Prop :=
  List.Forall₂ (fun handle id => s.objectOf handle .tensor = some id) handles ids

structure Collected (s : Runtime F D) (done : List Nat) (r : List TensorId × List TensorId) :
    Prop where
  resolved : Resolve s done r.1.reverse
  distinct : r.1.Nodup
  kept : r.2 = r.1.reverse.filter s.heap.requiresGrad

theorem Resolve.unique {handles : List Nat} {ids ids' : List TensorId} (r : Resolve s handles ids)
    (r' : Resolve s handles ids') : ids = ids' := by
  induction r generalizing ids' with
  | nil =>
      cases r'
      rfl
  | cons hid _ ih =>
      cases r' with
      | cons hid' hrest =>
          rw [Option.some.inj (hid.symm.trans hid'), ih hrest]

theorem Resolve.snoc {done : List Nat} {handle : Nat} {ids : List TensorId} {id : TensorId}
    (r : Resolve s done ids) (hid : s.objectOf handle .tensor = some id) :
    Resolve s (done ++ [handle]) (ids ++ [id]) :=
  List.rel_append r (List.Forall₂.cons hid List.Forall₂.nil)

theorem Resolve.handle {handles : List Nat} {ids : List TensorId} (r : Resolve s handles ids)
    {id : TensorId} (hid : id ∈ ids) : ∃ handle, s.objectOf handle .tensor = some id := by
  induction r with
  | nil => cases hid
  | cons hfirst _ ih =>
      rcases List.mem_cons.mp hid with rfl | hrest
      · exact ⟨_, hfirst⟩
      · exact ih hrest

theorem Trainable.next {handles done rest : List Nat} {handle : Nat} {ids : List TensorId}
    (t : Trainable s handles ids) (hsplit : handles = done ++ handle :: rest)
    {seen : List TensorId} (r : Resolve s done seen) :
    ∃ id, s.objectOf handle .tensor = some id ∧ id ∉ seen := by
  have hlen : done.length < handles.length := by rw [hsplit]; simp
  have hlen' : done.length < ids.length := t.resolved.length_eq ▸ hlen
  have htake := List.forall₂_take done.length t.resolved
  have hdrop := List.forall₂_drop done.length t.resolved
  rw [hsplit, List.take_left] at htake
  rw [hsplit, List.drop_left, List.drop_eq_getElem_cons hlen'] at hdrop
  cases hdrop with
  | cons hid _ =>
      refine ⟨_, hid, ?_⟩
      rw [Resolve.unique r htake]
      exact fun hmem => List.disjoint_take_drop t.distinct (Nat.le_refl _) hmem
        (by rw [List.drop_eq_getElem_cons hlen']; exact List.mem_cons_self)

theorem wp_collectParameter (ok : s.Ok) {handles done rest : List Nat} {handle : Nat}
    (hsplit : handles = done ++ handle :: rest) {r : List TensorId × List TensorId}
    (c : Collected s done r) (operation : String) {s₁ : Runtime F D} (later : s.Later s₁) :
    wp (collectParameter operation r handle)
      (fun r' s' => s.Later s' ∧ Collected s (done ++ [handle]) r')
      (Uncreated s fun _ => ∀ ids, ¬Trainable s handles ids) s₁ := by
  obtain ⟨seen, out⟩ := r
  have hobject : s₁.objectOf handle .tensor = s.objectOf handle .tensor := by
    obtain ⟨n, rfl⟩ := later
    rfl
  unfold collectParameter lookupTensor
  refine wp_lookupObject_or handle .tensor (fun hnone e => ?_) fun id hid => ?_
  · refine ⟨later.heap_eq, Or.inr fun ids t => ?_⟩
    obtain ⟨id, hid, -⟩ := t.next hsplit c.resolved
    rw [hobject, hid] at hnone
    cases hnone
  rw [hobject] at hid
  have hv := ok.visible hid
  obtain ⟨t, ht⟩ := hv.get
  refine wp_reads_seq later (observes_allocate _) (fun _ _ => uncreated_lost) ?_
  rintro _ s₂ later₂ -
  rw [wp_bind, wp_failIf]
  refine ⟨fun hdup => ⟨later₂.heap_eq, Or.inr fun ids tr => ?_⟩, fun hnew => ?_⟩
  · obtain ⟨id', hid', hnew⟩ := tr.next hsplit c.resolved
    obtain rfl := Option.some.inj (hid.symm.trans hid')
    exact hnew (List.mem_reverse.mpr hdup)
  have hresolved : Resolve s (done ++ [handle]) (id :: seen).reverse := by
    rw [List.reverse_cons]
    exact c.resolved.snoc hid
  have hdistinct : (id :: seen).Nodup := List.nodup_cons.mpr ⟨hnew, c.distinct⟩
  have hkept : out = seen.reverse.filter s.heap.requiresGrad := c.kept
  refine wp_reads_seq later₂ (Autograd.observes_requiresGrad ht) (fun _ _ => uncreated_lost) ?_
  rintro _ s₃ later₃ rfl
  cases hgraded : s.heap.requiresGrad id with
  | false =>
      refine ⟨later₃, hresolved, hdistinct, ?_⟩
      simp [List.filter_append, hgraded, hkept]
  | true =>
      refine wp_reads_seq later₃ (observes_allocate _) (fun _ _ => uncreated_lost) ?_
      rintro _ s₄ later₄ -
      refine ⟨later₄, hresolved, hdistinct, ?_⟩
      simp [List.filter_append, hgraded, hkept]

structure Kept (s : Runtime F D) (handles : List Nat) (out ids : List TensorId) : Prop where
  resolved : Resolve s handles ids
  distinct : ids.Nodup
  kept : out = ids.filter s.heap.requiresGrad

theorem Kept.visible {handles : List Nat} {out ids : List TensorId} (k : Kept s handles out ids)
    (ok : s.Ok) {p : TensorId} (hp : p ∈ out) : s.heap.Visible p := by
  rw [k.kept] at hp
  obtain ⟨handle, hid⟩ := k.resolved.handle (List.mem_of_mem_filter hp)
  exact ok.visible hid

theorem Kept.trainable {handles : List Nat} {out ids ids' : List TensorId}
    (k : Kept s handles out ids) (tr : Trainable s handles ids') :
    out = ids'.filter s.heap.requiresGrad := by
  rw [k.kept, Resolve.unique k.resolved tr.resolved]

theorem wp_collectParameters (ok : s.Ok) (handles : Option (List Nat)) (operation : String) :
    wp (collectParameters handles operation)
      (fun out s' => s.Later s' ∧ ∃ hs ids, handles = some hs ∧ Kept s hs out ids)
      (Uncreated s fun _ => ∀ hs ids, handles = some hs → ¬Trainable s hs ids) s := by
  unfold collectParameters
  split
  · exact ⟨rfl, Or.inr fun hs ids hsome => by cases hsome⟩
  · refine ⟨rfl, Or.inr fun hs ids hsome tr => ?_⟩
    cases hsome
    obtain ⟨id, hid, -⟩ := tr.graded
    cases tr.resolved
    cases hid
  · rename_i hs _
    have hloop : wp (hs.foldlM (collectParameter operation) ([], []))
        (fun r s' => s.Later s' ∧ Collected s hs r)
        (Uncreated s fun _ => ∀ ids, ¬Trainable s hs ids) s := by
      refine wp_foldlM (fun done _ r s' => s.Later s' ∧ Collected s done r) hs
        ⟨.refl s, List.Forall₂.nil, List.nodup_nil, rfl⟩ ?_ fun _ _ hI => hI
      rintro done handle rest r s₁ hsplit ⟨later, c⟩
      exact wp_collectParameter ok hsplit c operation later
    refine wp_seq hloop ?_ ?_
    · rintro e s' ⟨hheap, hreason⟩
      refine ⟨hheap, hreason.imp id fun hr hs' ids hsome => ?_⟩
      cases hsome
      exact hr ids
    · rintro ⟨seen, out⟩ s₁ ⟨later, c⟩
      rw [wp_bind, wp_failIf]
      refine ⟨fun hempty => ⟨later.heap_eq, Or.inr fun hs' ids hsome tr => ?_⟩,
        fun _ => ⟨later, hs, _, rfl, c.resolved, List.nodup_reverse.mpr c.distinct, c.kept⟩⟩
      cases hsome
      obtain ⟨id, hid, hgraded⟩ := tr.graded
      have hmem : id ∈ out := by
        have hkept : out = seen.reverse.filter s.heap.requiresGrad := c.kept
        rw [hkept, Resolve.unique c.resolved tr.resolved]
        exact List.mem_filter.mpr ⟨hid, hgraded⟩
      rw [List.isEmpty_iff.mp hempty] at hmem
      cases hmem

section Free
variable [Zero F] [Scalar D]

def newParameterOptimizer (h : Heap F) (kind : OptimizerKind) (parameters : List TensorId)
    (hyper : Hyperparameters D) : ParameterOptimizerState F D where
  kind := kind
  parameters := parameters
  hyper := hyper
  moments := ⟨0, zeroBuffers h parameters, zeroBuffers h parameters⟩

theorem wp_createForTensors (ok : s.Ok) (handles : Option (List Nat)) (kind : OptimizerKind)
    (hyper : Hyperparameters D) :
    wp (createForTensors handles kind hyper)
      (fun handle s' => accepts kind hyper = true ∧ ∃ parameters s₁,
        (∃ hs ids, handles = some hs ∧ Kept s hs parameters ids) ∧
        Updatable s.heap parameters ∧ s.Later s₁ ∧
        Registered { s₁ with parameterOptimizers :=
          s.parameterOptimizers ++ [newParameterOptimizer s.heap kind parameters hyper] }
          .parameterOptimizer s.parameterOptimizers.length handle s')
      (Uncreated s fun e => accepts kind hyper = false ∧ e.code = some .invalidArgument ∨
        (∀ hs ids, handles = some hs → Trainable s hs ids →
          ¬Updatable s.heap (ids.filter s.heap.requiresGrad)) ∨
        s.registry.refuses = some e) s := by
  unfold createForTensors
  refine wp_seq (checks_tensorHyperparameters kind hyper s) ?_ ?_
  · rintro e _ ⟨rfl, hcode, haccept⟩
    exact ⟨rfl, Or.inr (Or.inl ⟨haccept, hcode⟩)⟩
  rintro _ s ⟨rfl, haccept⟩
  refine wp_seq (wp_collectParameters ok handles _) ?_ ?_
  · rintro e s' ⟨hheap, hreason⟩
    exact ⟨hheap, hreason.imp id fun hr => Or.inr (Or.inl fun hs ids hsome tr =>
      absurd tr (hr hs ids hsome))⟩
  rintro parameters s₁ ⟨later₁, hs, ids, rfl, hkept⟩
  have hv : ∀ p ∈ parameters, s.heap.Visible p := fun p hp => hkept.visible ok hp
  refine wp_reads_seq later₁ (observes_allocationGuard _ (observes_allocate _))
    (fun _ _ => uncreated_lost) ?_
  rintro _ s₂ later₂ -
  refine wp_leaves_seq (T := fun r => Updatable s.heap parameters ∧
      r = (zeroBuffers s.heap parameters, zeroBuffers s.heap parameters))
    (P := fun _ => ∃ p ∈ parameters, s.heap.contiguous p = false) later₂
    ((spec_initializeCpuMoments ok.wellFormed hv _).mono (fun _ _ hq => hq)
      (fun _ _ he => ⟨he.1, he.2.2⟩) fun _ hx => hx) ?_ ?_
  · rintro e s' later hreason
    refine ⟨later.heap_eq, hreason.imp id ?_⟩
    rintro ⟨p, hp, hrow⟩
    refine Or.inr (Or.inl fun hs' ids' hsome tr u => ?_)
    cases hsome
    rw [hkept.trainable tr] at hp
    rw [(u p hp).2] at hrow
    cases hrow
  rintro _ s₃ later₃ ⟨hu, rfl⟩
  obtain ⟨n, hs₃⟩ := id later₃
  have hlength : s₃.parameterOptimizers = s.parameterOptimizers := by rw [hs₃]
  have hregistry : s₃.registry = s.registry := by rw [hs₃]
  rw [wp_bind, wp_get, wp_bind, wp_modify, hlength]
  have hreason : ∀ e, s₃.registry.refuses = some e → s.registry.refuses = some e :=
    fun e he => hregistry ▸ he
  refine wp_mono (wp_register (s := s) .parameterOptimizer _ _ later₃.heap_eq later₃.lasting
    hreason) ?_ ?_
  · rintro handle s' hr
    exact ⟨haccept, parameters, s₃, ⟨hs, ids, rfl, hkept⟩, hu, later₃, hr⟩
  · rintro e s' ⟨hheap, hreason⟩
    exact ⟨hheap, hreason.imp id fun hr => Or.inr (Or.inr hr)⟩

end Free

end Api

end Tensora
