import Tensora.Api.Calls
import Tensora.Runtime.RegistryHistory
import Tensora.Training.CreationSpecs
import Tensora.Training.OptimizerSpecs

/-! The invariant of the whole state. Every call keeps it, and either extends the
tables with what it recorded or records nothing. -/
namespace Tensora
open ProgramLogic

variable {F D α β : Type}

def Sized (h : Heap F) (parameters : List TensorId) (buffers : List (List F)) : Prop :=
  List.Forall₂ (fun p buffer => buffer.length = (h.dims p).prod) parameters buffers

/-- An SGD optimizer bound to a module has no second moments. -/
structure Moments.Fits (h : Heap F) (kind : OptimizerKind) (parameters : List TensorId)
    (moments : Moments F) : Prop where
  first : Sized h parameters moments.firstMoment
  second : kind ≠ .sgd → Sized h parameters moments.secondMoment

def Updatable (h : Heap F) (parameters : List TensorId) : Prop :=
  ∀ p ∈ parameters, h.Visible p ∧ h.contiguous p = true

structure OptimizerState.Ok (h : Heap F) (modules : List Training.LinearState)
    (state : OptimizerState F D) : Prop where
  bound : ∃ module, modules[state.module]? = some module ∧
    state.moments.Fits h state.kind module.parameters

structure ParameterOptimizerState.Ok (h : Heap F) (state : ParameterOptimizerState F D) : Prop where
  updatable : Updatable h state.parameters
  fits : state.moments.Fits h state.kind state.parameters
  distinct : state.parameters.Nodup

/-- No entry of a registry stands under a handle that is still to be issued. -/
structure HandleRegistry.Bounded (r : HandleRegistry) : Prop where
  pos : 0 < r.nextHandle
  le : r.nextHandle ≤ maxU64
  unissued : ∀ handle, r.nextHandle ≤ handle → r.find handle = none

/-- Handles and optimizers refer to tensors a program may hold, modules to sound parameters. -/
structure Runtime.Ok (s : Runtime F D) : Prop where
  wellFormed : WellFormed s.heap
  versioned : Versioned s.heap
  tensors : ∀ handle entry, s.registry.find handle = some entry → entry.type = .tensor →
    s.heap.Visible entry.object
  modules : ∀ state ∈ s.modules, Training.LinearState.Ok s.heap state
  optimizers : ∀ state ∈ s.optimizers, state.Ok s.heap s.modules
  parameterOptimizers : ∀ state ∈ s.parameterOptimizers, state.Ok s.heap
  handles : s.registry.Bounded

theorem Training.LinearState.Ok.evolve {h h' : Heap F} {state : LinearState} (ok : state.Ok h)
    (e : Evolves h h') : state.Ok h' where
  weight_visible := e.visible _ ok.weight_visible
  weight_dims := by rw [e.dims_eq ok.weight_visible.1, ok.weight_dims]
  weight_rowMajor := by rw [e.contiguous_eq ok.weight_visible.1, ok.weight_rowMajor]
  useBias := ok.useBias
  bias_visible := fun b hb => e.visible _ (ok.bias_visible b hb)
  bias_dims := fun b hb => by rw [e.dims_eq (ok.bias_visible b hb).1, ok.bias_dims b hb]
  bias_rowMajor := fun b hb => by
    rw [e.contiguous_eq (ok.bias_visible b hb).1, ok.bias_rowMajor b hb]
  separate := by
    intro b t t' hb ht ht'
    have hw := List.getElem?_eq_getElem ok.weight_visible.1
    have hbias := List.getElem?_eq_getElem (ok.bias_visible b hb).1
    obtain ⟨m, hm⟩ := e.tensors _ _ hw
    obtain ⟨m', hm'⟩ := e.tensors _ _ hbias
    obtain rfl := Option.some.inj (ht.symm.trans hm)
    obtain rfl := Option.some.inj (ht'.symm.trans hm')
    exact (ok.separate b _ _ hb hw hbias :)

theorem Training.LinearState.Ok.updatable {h : Heap F} {state : LinearState} (ok : state.Ok h) :
    Updatable h state.parameters := by
  have hweight := And.intro ok.weight_visible ok.weight_rowMajor
  intro p hp
  unfold LinearState.parameters at hp
  split at hp
  · rcases List.mem_cons.mp hp with rfl | hp
    · exact hweight
    · have hb := Option.mem_toList.mp hp
      exact ⟨ok.bias_visible p hb, ok.bias_rowMajor p hb⟩
  · rw [List.mem_singleton.mp hp]
    exact hweight

section Evolve
variable {h h' : Heap F} {parameters : List TensorId}

theorem Updatable.evolve (u : Updatable h parameters) (e : Evolves h h') :
    Updatable h' parameters := fun p hp =>
  ⟨e.visible p (u p hp).1, (e.contiguous_eq (u p hp).1.1).trans (u p hp).2⟩

theorem Sized.evolve {buffers : List (List F)} (z : Sized h parameters buffers)
    (u : Updatable h parameters) (e : Evolves h h') : Sized h' parameters buffers :=
  ((List.forall₂_and_left _ _).mpr ⟨u, z⟩).imp fun p _ hp => by rw [hp.2, e.dims_eq hp.1.1.1]

theorem Moments.Fits.evolve {kind : OptimizerKind} {moments : Moments F}
    (m : moments.Fits h kind parameters) (u : Updatable h parameters) (e : Evolves h h') :
    moments.Fits h' kind parameters :=
  ⟨m.first.evolve u e, fun hk => (m.second hk).evolve u e⟩

theorem OptimizerState.Ok.evolve {modules : List Training.LinearState}
    {state : OptimizerState F D} (ok : state.Ok h modules)
    (hm : ∀ module ∈ modules, Training.LinearState.Ok h module) (e : Evolves h h') :
    state.Ok h' modules := by
  obtain ⟨module, hget, hfits⟩ := ok.bound
  exact ⟨module, hget, hfits.evolve (hm module (List.mem_of_getElem? hget)).updatable e⟩

theorem ParameterOptimizerState.Ok.evolve {state : ParameterOptimizerState F D} (ok : state.Ok h)
    (e : Evolves h h') : state.Ok h' :=
  ⟨ok.updatable.evolve e, ok.fits.evolve ok.updatable e, ok.distinct⟩

end Evolve

namespace Runtime.Ok
variable {s s' : Runtime F D}

/-- A step of the heap alone keeps the invariant. -/
theorem onHeap (ok : s.Ok) {m : Memory F} (e : Evolves s.heap m.heap) :
    Runtime.Ok { s with memory := m } where
  wellFormed := e.wellFormed
  versioned := e.versioned ok.versioned
  tensors := fun k entry hfind htype => e.visible _ (ok.tensors k entry hfind htype)
  modules := fun state hstate => (ok.modules state hstate).evolve e
  optimizers := fun state hstate => (ok.optimizers state hstate).evolve ok.modules e
  parameterOptimizers := fun state hstate => (ok.parameterOptimizers state hstate).evolve e
  handles := ok.handles

theorem withRegistry (ok : s.Ok) {r : HandleRegistry}
    (hr : ∀ k entry, r.find k = some entry → entry.type = .tensor →
      ∃ k' entry', s.registry.find k' = some entry' ∧ entry'.type = .tensor ∧
        entry'.object = entry.object) (hb : r.Bounded) :
    Runtime.Ok { s with registry := r } where
  wellFormed := ok.wellFormed
  versioned := ok.versioned
  tensors := by
    intro k entry hfind htype
    obtain ⟨k', entry', hfind', htype', hobj⟩ := hr k entry hfind htype
    rw [← hobj]
    exact ok.tensors k' entry' hfind' htype'
  modules := ok.modules
  optimizers := ok.optimizers
  parameterOptimizers := ok.parameterOptimizers
  handles := hb

end Runtime.Ok

structure Chained (R : Heap F → Heap F → Prop) : Prop where
  refl : ∀ {h}, WellFormed h → R h h
  trans : ∀ {h h' h''}, R h h' → R h' h'' → R h h''
  evolves : ∀ {h h'}, WellFormed h → R h h' → Evolves h h'

theorem chained_unrecorded : Chained (Unrecorded (F := F)) :=
  ⟨Unrecorded.refl, Unrecorded.trans, fun _ r => r.evolves⟩

theorem chained_touches (T : StorageId → Prop) : Chained (Touches (F := F) T) :=
  ⟨Touches.refl T, Touches.trans, fun _ r => r.unrecorded.evolves⟩

theorem chained_forwarded [Scalar F] [Scalar D] [Precision F D] :
    Chained (Forwarded D (F := F)) :=
  ⟨Forwarded.refl, Forwarded.trans, fun wf f => f.evolves wf⟩

def Keeps (R : Heap F → Heap F → Prop) (x : Native F D α) (s : Runtime F D)
    (Q : α → Runtime F D → Prop) : Prop :=
  wp x (fun r s' => s'.Ok ∧ R s.heap s'.heap ∧ Q r s') (fun _ s' => s'.Ok ∧ R s.heap s'.heap) s

section Rules
variable {R : Heap F → Heap F → Prop} {s : Runtime F D} {x : Native F D α}
  {f : α → Native F D β} {Q : α → Runtime F D → Prop} {P : β → Runtime F D → Prop}

theorem Keeps.mono {Q' : α → Runtime F D → Prop} (hx : Keeps R x s Q)
    (hq : ∀ r s', Q r s' → Q' r s') : Keeps R x s Q' :=
  wp_mono hx (fun _ _ h => ⟨h.1, h.2.1, hq _ _ h.2.2⟩) fun _ _ h => h

theorem Keeps.bind (c : Chained R) (hx : Keeps R x s Q)
    (hf : ∀ r s', s'.Ok → R s.heap s'.heap → Q r s' → Keeps R (f r) s' P) :
    Keeps R (x >>= f) s P := by
  refine wp_seq hx (fun _ _ he => he) ?_
  rintro r s' ⟨ok, hr, hq⟩
  exact wp_mono (hf r s' ok hr hq) (fun _ _ h => ⟨h.1, c.trans hr h.2.1, h.2.2⟩)
    fun _ _ h => ⟨h.1, c.trans hr h.2⟩

theorem keeps_pure (c : Chained R) (ok : s.Ok) {r : α} (hq : Q r s) :
    Keeps R (pure r : Native F D α) s Q := ⟨ok, c.refl ok.wellFormed, hq⟩

theorem keeps_throw (c : Chained R) (ok : s.Ok) (e : Failure) :
    Keeps R (throw e : Native F D α) s Q := ⟨ok, c.refl ok.wellFormed⟩

theorem keeps_failIf (c : Chained R) (ok : s.Ok) (condition : Prop) [Decidable condition]
    (e : Failure) : Keeps R (failIf condition e : Native F D Unit) s
      fun _ s' => s' = s ∧ ¬condition := by
  unfold Keeps
  rw [wp_failIf]
  exact ⟨fun _ => ⟨ok, c.refl ok.wellFormed⟩, fun h => ⟨ok, c.refl ok.wellFormed, rfl, h⟩⟩

theorem keeps_onMemory (c : Chained R) (ok : s.Ok) {program : Mem F α}
    {T : α → Heap F → Prop}
    (hp : Spec program s.heap (fun r h' => R s.heap h' ∧ T r h') (fun _ h' => R s.heap h')
      (R s.heap)) :
    Keeps R (onMemory program : Native F D α) s fun r s' => T r s'.heap := by
  unfold Keeps
  rw [wp_onMemory]
  refine wp_mono (hp s.memory.allocator) ?_ ?_
  · rintro r m ⟨-, hr, ht⟩
    exact ⟨ok.onHeap (c.evolves ok.wellFormed hr), hr, ht⟩
  · rintro e m ⟨-, he⟩
    have hr : R s.heap m.heap := he.elim id fun h => h.2.2
    exact ⟨ok.onHeap (c.evolves ok.wellFormed hr), hr⟩

theorem keeps_observes (c : Chained R) (ok : s.Ok) {program : Mem F α} {T : α → Prop}
    (hp : Spec program s.heap (fun r h' => h' = s.heap ∧ T r) (fun _ h' => h' = s.heap)
      (fun h' => h' = s.heap)) :
    Keeps R (onMemory program : Native F D α) s fun r s' => s'.heap = s.heap ∧ T r := by
  refine keeps_onMemory (T := fun r h' => h' = s.heap ∧ T r) c ok (hp.mono ?_ ?_ ?_)
  · rintro r h' ⟨rfl, ht⟩
    exact ⟨c.refl ok.wellFormed, rfl, ht⟩
  · rintro e h' rfl
    exact c.refl ok.wellFormed
  · rintro h' rfl
    exact c.refl ok.wellFormed

theorem keeps_allocationGuard (operation : String) (hx : Keeps R x s Q) :
    Keeps R (allocationGuard operation x) s Q := by
  refine wp_tryCatch hx ?_
  rintro e s' h
  cases e <;> exact h

theorem keeps_get (c : Chained R) (ok : s.Ok) :
    Keeps R (get : Native F D (Runtime F D)) s fun r s' => s' = s ∧ r = s :=
  ⟨ok, c.refl ok.wellFormed, rfl, rfl⟩

theorem keeps_modify (c : Chained R) (ok : s.Ok) {g : Runtime F D → Runtime F D}
    (hheap : (g s).heap = s.heap) (hok : (g s).Ok) :
    Keeps R (modify g : Native F D PUnit) s fun _ s' => s' = g s := by
  refine ⟨hok, ?_, rfl⟩
  rw [hheap]
  exact c.refl ok.wellFormed

theorem keeps_foldlM (c : Chained R) {g : β → α → Native F D β} {xs : List α} {b : β} (ok : s.Ok)
    (I : β → Runtime F D → Prop) (hb : I b s)
    (hstep : ∀ b, ∀ x ∈ xs, ∀ s', s'.Ok → R s.heap s'.heap → I b s' → Keeps R (g b x) s' I) :
    Keeps R (xs.foldlM g b) s I := by
  induction xs generalizing b s with
  | nil => exact keeps_pure c ok hb
  | cons x xs ih =>
      rw [List.foldlM_cons]
      refine Keeps.bind c (hstep b x (by simp) s ok (c.refl ok.wellFormed) hb) ?_
      intro b' s' ok' hr hI
      exact ih ok' hI fun b x hx s'' ok'' hr' => hstep b x (by simp [hx]) s'' ok'' (c.trans hr hr')

theorem keeps_forM (c : Chained R) {g : α → Native F D PUnit} {xs : List α} (ok : s.Ok)
    (hstep : ∀ x ∈ xs, ∀ s', s'.Ok → R s.heap s'.heap → Keeps R (g x) s' fun _ _ => True) :
    Keeps R (xs.forM g) s fun _ _ => True := by
  induction xs generalizing s with
  | nil => exact keeps_pure c ok trivial
  | cons x xs ih =>
      change Keeps R (g x >>= fun _ => xs.forM g) s _
      refine Keeps.bind c (hstep x (by simp) s ok (c.refl ok.wellFormed)) ?_
      intro _ s' ok' hr _
      exact ih ok' fun x hx s'' ok'' hr' => hstep x (by simp [hx]) s'' ok'' (c.trans hr hr')

end Rules

namespace HandleRegistry

theorem wp_insert_find (r : HandleRegistry) (type : HandleType) (object : Nat) (allocated : Bool) :
    wp (insert type (some object) allocated)
      (fun handle r' => (handle ≠ 0 ∧ r'.find handle = some ⟨type, 1, object⟩) ∧
        ∀ k entry, r'.find k = some entry → r.find k = some entry ∨ entry = ⟨type, 1, object⟩)
      (fun _ r' => r'.entries = r.entries) r := by
  unfold insert
  simp only [wp_bind, wp_get, validateNextHandle, wp_failIf, wp_modify, validateInsertion]
  refine ⟨fun _ => trivial, fun hnext => ⟨fun _ => trivial, fun _ => ?_⟩⟩
  split
  · rename_i hnew
    simp only [wp_bind, wp_modify, wp_failIf, wp_pure]
    refine ⟨fun hbad => absurd hbad (by simp [hnew]), fun _ =>
      ⟨⟨fun hzero => hnext (Or.inl hzero), List.lookup_cons_self⟩, fun k entry hfind => ?_⟩⟩
    by_cases hk : k = r.nextHandle
    · subst hk
      simp only [find, List.lookup_cons_self, Option.some.injEq] at hfind
      exact Or.inr hfind.symm
    · have hne : (k == r.nextHandle) = false := by simpa using hk
      simp only [find, List.lookup_cons, hne] at hfind
      exact Or.inl hfind
  · rename_i hold
    simp only [wp_bind, wp_failIf, wp_pure]
    refine ⟨fun _ => trivial, fun hbad => absurd (by simp [hold]) hbad⟩

theorem wp_insert_bounded {r : HandleRegistry} (b : r.Bounded) (type : HandleType) (object : Nat)
    (allocated : Bool) :
    wp (insert type (some object) allocated) (fun _ r' => r'.Bounded) (fun _ r' => r'.Bounded)
      r := by
  have hle := b.le
  unfold insert
  simp only [wp_bind, wp_get, validateNextHandle, wp_failIf, wp_modify, validateInsertion]
  refine ⟨fun _ => b, fun hnext => ?_⟩
  have hadd : add64 r.nextHandle 1 = r.nextHandle + 1 := by
    unfold add64
    unfold maxU64 at hle hnext
    omega
  have hlt : r.nextHandle + 1 ≤ maxU64 := by omega
  simp only [hadd]
  have hlater : (⟨r.entries, r.nextHandle + 1⟩ : HandleRegistry).Bounded :=
    ⟨Nat.succ_pos _, hlt, fun handle hhandle => b.unissued handle ((Nat.le_succ _).trans hhandle)⟩
  refine ⟨fun _ => hlater, fun _ => ?_⟩
  split
  · simp only [wp_bind, wp_modify, wp_failIf, wp_pure]
    have hnew : HandleRegistry.Bounded
        ⟨(r.nextHandle, ⟨type, 1, object⟩) :: r.entries, r.nextHandle + 1⟩ := by
      refine ⟨Nat.succ_pos _, hlt, fun handle (hhandle : r.nextHandle + 1 ≤ handle) => ?_⟩
      have hne : (handle == r.nextHandle) = false := by
        simp only [beq_eq_false_iff_ne]
        omega
      simp only [find, List.lookup_cons, hne]
      exact b.unissued handle (by omega)
    exact ⟨fun _ => hnew, fun _ => hnew⟩
  · simp only [wp_bind, wp_failIf, wp_pure]
    exact ⟨fun _ => hlater, fun _ => hlater⟩

end HandleRegistry

/-- What a handle of the given type stands for. -/
def Runtime.objectOf (s : Runtime F D) (handle : Nat) (type : HandleType) : Option Nat :=
  if handle = 0 then none
  else (s.registry.find handle).bind fun entry =>
    if entry.type = type then some entry.object else none

theorem Runtime.Ok.visible {s : Runtime F D} (ok : s.Ok) {handle : Nat} {id : TensorId}
    (h : s.objectOf handle .tensor = some id) : s.heap.Visible id := by
  unfold Runtime.objectOf at h
  split at h
  · cases h
  obtain ⟨entry, hfind, hentry⟩ := Option.bind_eq_some_iff.mp h
  split at hentry
  · rename_i htype
    cases hentry
    exact ok.tensors handle entry hfind htype
  · cases hentry

def Runtime.moduleAt (s : Runtime F D) (handle : Nat) : Option (Nat × Training.LinearState) :=
  (s.objectOf handle .module).bind fun object => s.modules[object]?.map fun state => (object, state)

def Runtime.optimizerAt (s : Runtime F D) (handle : Nat) : Option (Nat × OptimizerState F D) :=
  (s.objectOf handle .optimizer).bind fun object =>
    s.optimizers[object]?.map fun state => (object, state)

def Runtime.parameterOptimizerAt (s : Runtime F D) (handle : Nat) :
    Option (Nat × ParameterOptimizerState F D) :=
  (s.objectOf handle .parameterOptimizer).bind fun object =>
    s.parameterOptimizers[object]?.map fun state => (object, state)

private theorem get_of_at {table : List α} {object? : Option Nat} {r : Nat × α}
    (h : (object?.bind fun object => table[object]?.map fun state => (object, state)) = some r) :
    table[r.1]? = some r.2 := by
  obtain ⟨object, -, hget⟩ := Option.bind_eq_some_iff.mp h
  obtain ⟨state, hstate, rfl⟩ := Option.map_eq_some_iff.mp hget
  exact hstate

theorem Runtime.get_moduleAt {s : Runtime F D} {handle : Nat} {r : Nat × Training.LinearState}
    (h : s.moduleAt handle = some r) : s.modules[r.1]? = some r.2 := get_of_at h

theorem Runtime.get_optimizerAt {s : Runtime F D} {handle : Nat} {r : Nat × OptimizerState F D}
    (h : s.optimizerAt handle = some r) : s.optimizers[r.1]? = some r.2 := get_of_at h

theorem Runtime.get_parameterOptimizerAt {s : Runtime F D} {handle : Nat}
    {r : Nat × ParameterOptimizerState F D} (h : s.parameterOptimizerAt handle = some r) :
    s.parameterOptimizers[r.1]? = some r.2 := get_of_at h

section Handles
variable {R : Heap F → Heap F → Prop} {s : Runtime F D}

theorem keeps_lookupTensor (c : Chained R) (ok : s.Ok) (handle : Nat) :
    Keeps R (lookupTensor handle : Native F D TensorId) s
      fun r s' => s' = s ∧ s.heap.Visible r := by
  unfold Keeps lookupTensor
  rw [wp_onRegistry]
  refine wp_mono (HandleRegistry.wp_lookup s.registry handle .tensor) ?_ ?_
  · rintro object r' ⟨rfl, -, entry, hfind, htype, rfl⟩
    exact ⟨ok, c.refl ok.wellFormed, rfl, ok.tensors handle entry hfind htype⟩
  · rintro e r' rfl
    exact ⟨ok, c.refl ok.wellFormed⟩

/-- A new entry for a tensor a program may hold, or for an object of another type. -/
theorem keeps_insertHandle (c : Chained R) (ok : s.Ok) (type : HandleType) (object : Nat)
    (hv : type = .tensor → s.heap.Visible object) :
    Keeps R (insertHandle type object : Native F D Nat) s
      fun handle s' => s'.objectOf handle type = some object ∧ s'.heap = s.heap := by
  have hok : ∀ (m : Memory F) (r' : HandleRegistry), m.heap = s.heap →
      (∀ k entry, r'.find k = some entry →
        s.registry.find k = some entry ∨ entry = ⟨type, 1, object⟩) → r'.Bounded →
      Runtime.Ok { s with memory := m, registry := r' } := by
    intro m r' hm hr hb
    have ok' := ok.onHeap (m := m) (by rw [hm]; exact Evolves.refl ok.wellFormed)
    refine ⟨ok'.wellFormed, ok'.versioned, ?_, ok'.modules, ok'.optimizers,
      ok'.parameterOptimizers, hb⟩
    intro k entry hfind htype
    rcases hr k entry hfind with hold | rfl
    · exact ok'.tensors k entry hold htype
    · change m.heap.Visible object
      rw [hm]
      exact hv htype
  unfold Keeps insertHandle
  simp only [wp_bind, wp_get, wp_modify, wp_onRegistry]
  refine wp_mono (wp_and (HandleRegistry.wp_insert_find s.registry type object _)
    (HandleRegistry.wp_insert_bounded ok.handles type object _)) ?_ ?_
  · rintro handle r' ⟨⟨⟨hzero, hfind⟩, hr⟩, hb⟩
    refine ⟨hok _ r' rfl hr hb, c.refl ok.wellFormed, ?_, rfl⟩
    rw [Runtime.objectOf, if_neg hzero, hfind, Option.bind_some, if_pos rfl]
  · rintro e r' ⟨hr, hb⟩
    refine ⟨hok _ r' rfl (fun k entry hfind => Or.inl ?_) hb, c.refl ok.wellFormed⟩
    simpa only [HandleRegistry.find, hr] using hfind

theorem keeps_insertTensor (c : Chained R) (ok : s.Ok) {object : TensorId}
    (hv : s.heap.Visible object) :
    Keeps R (insertTensor object : Native F D Nat) s
      fun handle s' => s'.objectOf handle .tensor = some object ∧ s'.heap = s.heap :=
  keeps_insertHandle c ok .tensor object fun _ => hv

theorem keeps_onRegistry (c : Chained R) (ok : s.Ok) {program : RegistryM Unit}
    (hp : wp program (fun _ r' => r'.nextHandle = s.registry.nextHandle ∧
        ∀ k entry, r'.find k = some entry →
          ∃ entry', s.registry.find k = some entry' ∧ entry'.type = entry.type ∧
            entry'.object = entry.object) (fun _ r' => r' = s.registry) s.registry) :
    Keeps R (onRegistry program : Native F D Unit) s fun _ _ => True := by
  unfold Keeps
  rw [wp_onRegistry]
  refine wp_mono hp ?_ ?_
  · rintro _ r' ⟨hnext, hr⟩
    refine ⟨ok.withRegistry (fun k entry hfind htype => ?_)
      ⟨hnext ▸ ok.handles.pos, hnext ▸ ok.handles.le, ?_⟩,
      c.refl ok.wellFormed, trivial⟩
    · obtain ⟨entry', hfind', htype', hobj⟩ := hr k entry hfind
      exact ⟨k, entry', hfind', htype'.trans htype, hobj⟩
    · intro handle hhandle
      cases hfind : r'.find handle with
      | none => rfl
      | some entry =>
          obtain ⟨entry', hfind', -⟩ := hr handle entry hfind
          rw [ok.handles.unissued handle (hnext ▸ hhandle)] at hfind'
          cases hfind'
  · rintro e r' rfl
    exact ⟨ok, c.refl ok.wellFormed⟩

theorem keeps_retain (c : Chained R) (ok : s.Ok) (handle : Nat) (type : HandleType) :
    Keeps R (onRegistry (HandleRegistry.retain handle type) : Native F D Unit) s
      fun _ _ => True := by
  refine keeps_onRegistry c ok (wp_mono (HandleRegistry.wp_retain s.registry handle type) ?_
    fun _ _ he => he)
  rintro _ _ ⟨old, hold, -, rfl⟩
  refine ⟨rfl, fun k entry hfind => ?_⟩
  rw [HandleRegistry.find_set _ _ _ _ (by rw [hold]; rfl)] at hfind
  by_cases hk : k = handle
  · rw [if_pos hk] at hfind
    cases hfind
    exact ⟨old, by rw [hk, hold], rfl, rfl⟩
  · rw [if_neg hk] at hfind
    exact ⟨entry, hfind, rfl, rfl⟩

theorem keeps_release (c : Chained R) (ok : s.Ok) (handle : Nat) (type : HandleType) :
    Keeps R (onRegistry (HandleRegistry.release handle type) : Native F D Unit) s
      fun _ _ => True := by
  refine keeps_onRegistry c ok (wp_mono (HandleRegistry.wp_release s.registry handle type) ?_
    fun _ _ he => he)
  rintro _ _ ⟨old, hold, -, -, rfl⟩
  refine ⟨by split <;> rfl, fun k entry hfind => ?_⟩
  split at hfind
  · rw [HandleRegistry.find_erase] at hfind
    by_cases hk : k = handle
    · rw [if_pos hk] at hfind
      cases hfind
    · rw [if_neg hk] at hfind
      exact ⟨entry, hfind, rfl, rfl⟩
  · rw [HandleRegistry.find_set _ _ _ _ (by rw [hold]; rfl)] at hfind
    by_cases hk : k = handle
    · rw [if_pos hk] at hfind
      cases hfind
      exact ⟨old, by rw [hk, hold], rfl, rfl⟩
    · rw [if_neg hk] at hfind
      exact ⟨entry, hfind, rfl, rfl⟩

theorem keeps_lookupObject {f : Nat → Native F D α} {Q : α → Runtime F D → Prop} (c : Chained R)
    (ok : s.Ok) (handle : Nat) (type : HandleType)
    (hf : ∀ object, s.objectOf handle type = some object → Keeps R (f object) s Q) :
    Keeps R (onRegistry (HandleRegistry.lookup handle type) >>= f) s Q := by
  unfold Keeps
  rw [wp_bind, wp_onRegistry]
  refine wp_mono (HandleRegistry.wp_lookup s.registry handle type) ?_ ?_
  · rintro object r' ⟨rfl, hpos, entry, hfind, htype, rfl⟩
    refine hf entry.object ?_
    rw [Runtime.objectOf, if_neg (by omega), hfind, Option.bind_some, if_pos htype]
  · rintro e r' rfl
    exact ⟨ok, c.refl ok.wellFormed⟩

theorem keeps_lookupModule (c : Chained R) (ok : s.Ok) (handle : Nat) :
    Keeps R (lookupModule handle : Native F D _) s
      fun r s' => s' = s ∧ s.moduleAt handle = some r := by
  refine keeps_lookupObject c ok handle .module fun object hobject => ?_
  refine Keeps.bind c (keeps_get c ok) ?_
  rintro s _ ok - ⟨rfl, rfl⟩
  cases hget : s.modules[object]? with
  | none => exact keeps_throw c ok _
  | some state =>
      exact keeps_pure c ok ⟨rfl, by rw [Runtime.moduleAt, hobject, Option.bind_some, hget]; rfl⟩

theorem wp_lookupObject {f : Nat → Native F D α} {Q : α → Runtime F D → Prop}
    {E : Failure → Runtime F D → Prop} {handle object : Nat} {type : HandleType}
    (h : s.objectOf handle type = some object) (hf : wp (f object) Q E s) :
    wp (onRegistry (HandleRegistry.lookup handle type) >>= f) Q E s := by
  unfold Runtime.objectOf at h
  split at h
  · cases h
  rename_i hzero
  obtain ⟨entry, hfind, hentry⟩ := Option.bind_eq_some_iff.mp h
  split at hentry
  · rename_i htype
    cases hentry
    simp only [HandleRegistry.lookup, wp_bind, wp_onRegistry, wp_failIf, wp_get, hzero, hfind,
      wp_pure, htype, ne_eq, not_true_eq_false, false_implies, not_false_eq_true, true_implies,
      true_and]
    exact hf
  · cases hentry

theorem wp_lookupObject_or {f : Nat → Native F D α} {Q : α → Runtime F D → Prop}
    {E : Failure → Runtime F D → Prop} (handle : Nat) (type : HandleType)
    (he : s.objectOf handle type = none → ∀ e, E e s)
    (hf : ∀ object, s.objectOf handle type = some object → wp (f object) Q E s) :
    wp (onRegistry (HandleRegistry.lookup handle type) >>= f) Q E s := by
  cases hobject : s.objectOf handle type with
  | some object => exact wp_lookupObject hobject (hf object hobject)
  | none =>
      rw [wp_bind, wp_onRegistry]
      refine wp_mono (HandleRegistry.wp_lookup s.registry handle type) ?_ ?_
      · rintro object r' ⟨rfl, hpos, entry, hfind, htype, rfl⟩
        rw [Runtime.objectOf, if_neg (by omega), hfind, Option.bind_some, if_pos htype] at hobject
        cases hobject
      · rintro e r' rfl
        exact he hobject e

theorem wp_lookupModule_or (s : Runtime F D) (handle : Nat) :
    wp (lookupModule handle : Native F D _) (fun r s' => s' = s ∧ s.moduleAt handle = some r)
      (fun _ s' => s' = s) s := by
  refine wp_lookupObject_or handle .module (fun _ _ => rfl) fun object hobject => ?_
  rw [wp_bind, wp_get]
  cases hget : s.modules[object]? with
  | none => exact rfl
  | some state => exact ⟨rfl, by rw [Runtime.moduleAt, hobject, Option.bind_some, hget]; rfl⟩

theorem wp_lookupOptimizer_or (s : Runtime F D) (handle : Nat) :
    wp (lookupOptimizer handle : Native F D _)
      (fun r s' => s' = s ∧ s.optimizerAt handle = some r) (fun _ s' => s' = s) s := by
  refine wp_lookupObject_or handle .optimizer (fun _ _ => rfl) fun object hobject => ?_
  rw [wp_bind, wp_get]
  cases hget : s.optimizers[object]? with
  | none => exact rfl
  | some state => exact ⟨rfl, by rw [Runtime.optimizerAt, hobject, Option.bind_some, hget]; rfl⟩

theorem wp_lookupParameterOptimizer_or (s : Runtime F D) (handle : Nat) :
    wp (lookupParameterOptimizer handle : Native F D _)
      (fun r s' => s' = s ∧ s.parameterOptimizerAt handle = some r) (fun _ s' => s' = s) s := by
  refine wp_lookupObject_or handle .parameterOptimizer (fun _ _ => rfl) fun object hobject => ?_
  rw [wp_bind, wp_get]
  cases hget : s.parameterOptimizers[object]? with
  | none => exact rfl
  | some state =>
      exact ⟨rfl, by rw [Runtime.parameterOptimizerAt, hobject, Option.bind_some, hget]; rfl⟩

theorem wp_lookupModule {handle : Nat} {r : Nat × Training.LinearState}
    (h : s.moduleAt handle = some r) :
    wp (lookupModule handle : Native F D _) (fun r' s' => r' = r ∧ s' = s)
      (fun _ _ => False) s := by
  obtain ⟨object, hobject, hget⟩ := Option.bind_eq_some_iff.mp h
  obtain ⟨state, hstate, rfl⟩ := Option.map_eq_some_iff.mp hget
  refine wp_lookupObject hobject ?_
  rw [wp_bind, wp_get]
  simp only [hstate, wp_pure, and_self]

theorem wp_lookupOptimizer {handle : Nat} {r : Nat × OptimizerState F D}
    (h : s.optimizerAt handle = some r) :
    wp (lookupOptimizer handle : Native F D _) (fun r' s' => r' = r ∧ s' = s) (fun _ _ => False)
      s := by
  obtain ⟨object, hobject, hget⟩ := Option.bind_eq_some_iff.mp h
  obtain ⟨state, hstate, rfl⟩ := Option.map_eq_some_iff.mp hget
  refine wp_lookupObject hobject ?_
  rw [wp_bind, wp_get]
  simp only [hstate, wp_pure, and_self]

theorem wp_lookupParameterOptimizer {handle : Nat} {r : Nat × ParameterOptimizerState F D}
    (h : s.parameterOptimizerAt handle = some r) :
    wp (lookupParameterOptimizer handle : Native F D _) (fun r' s' => r' = r ∧ s' = s)
      (fun _ _ => False) s := by
  obtain ⟨object, hobject, hget⟩ := Option.bind_eq_some_iff.mp h
  obtain ⟨state, hstate, rfl⟩ := Option.map_eq_some_iff.mp hget
  refine wp_lookupObject hobject ?_
  rw [wp_bind, wp_get]
  simp only [hstate, wp_pure, and_self]

theorem keeps_lookupOptimizer (c : Chained R) (ok : s.Ok) (handle : Nat) :
    Keeps R (lookupOptimizer handle : Native F D _) s
      fun r s' => s' = s ∧ s.optimizerAt handle = some r := by
  refine keeps_lookupObject c ok handle .optimizer fun object hobject => ?_
  refine Keeps.bind c (keeps_get c ok) ?_
  rintro s _ ok - ⟨rfl, rfl⟩
  cases hget : s.optimizers[object]? with
  | none => exact keeps_throw c ok _
  | some state =>
      exact keeps_pure c ok
        ⟨rfl, by rw [Runtime.optimizerAt, hobject, Option.bind_some, hget]; rfl⟩

theorem keeps_lookupParameterOptimizer (c : Chained R) (ok : s.Ok) (handle : Nat) :
    Keeps R (lookupParameterOptimizer handle : Native F D _) s
      fun r s' => s' = s ∧ s.parameterOptimizerAt handle = some r := by
  refine keeps_lookupObject c ok handle .parameterOptimizer fun object hobject => ?_
  refine Keeps.bind c (keeps_get c ok) ?_
  rintro s _ ok - ⟨rfl, rfl⟩
  cases hget : s.parameterOptimizers[object]? with
  | none => exact keeps_throw c ok _
  | some state =>
      exact keeps_pure c ok
        ⟨rfl, by rw [Runtime.parameterOptimizerAt, hobject, Option.bind_some, hget]; rfl⟩

end Handles

end Tensora
