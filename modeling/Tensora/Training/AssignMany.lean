import Tensora.Api.Invariant

/-! `AssignMany`: a batch is validated and staged without a write, and committed
without a failure. -/
namespace Tensora
open CheckedLoop ProgramLogic

variable {F D : Type}

/-- After the assignments `done`: their targets hold their values under new
versions, without gradients; other storages, versions and gradients are as in `h`. -/
structure Assigned (h : Heap F) (done : List (TensorId × List F)) (h' : Heap F) : Prop where
  unrecorded : Unrecorded h h'
  targets : ∀ p ∈ done, p.1 < h.tensors.length
  contents : ∀ p ∈ done, h'.contents p.1 = p.2
  storages : ∀ s : StorageId, some s ∉ done.map (fun p => h.storageOf p.1) →
    h'.storages[s]? = h.storages[s]?
  versions : ∀ id, id < h.tensors.length →
    h'.version id = if h.storageOf id ∈ done.map (fun p => h.storageOf p.1)
      then add64 (h.version id) 1 else h.version id
  gradients : ∀ id, h'.gradient id = if id ∈ done.map Prod.fst then none else h.gradient id
  writes : ∀ s : StorageId, some s ∉ done.map (fun p => h.storageOf p.1) →
    h'.mutations.count s = h.mutations.count s

section Commit
variable {h h' : Heap F} {done : List (TensorId × List F)}

theorem Assigned.start (wf : WellFormed h) : Assigned h [] h where
  unrecorded := Unrecorded.refl wf
  targets := by simp
  contents := by simp
  storages := fun _ _ => rfl
  versions := fun _ _ => by simp
  gradients := fun _ => by simp
  writes := fun _ _ => rfl

theorem Heap.gradient_written (t : Tensor) (values : List F) (id : TensorId) :
    (h.written t values).gradient id = h.gradient id := rfl

theorem Heap.version_written {t t' : Tensor} (wf : WellFormed h) {i id : TensorId}
    (ht : h.tensors[i]? = some t) (ht' : h.tensors[id]? = some t') (values : List F) :
    (h.written t values).version id =
      if t'.storage = t.storage then add64 (h.version id) 1 else h.version id := by
  have hp := wf.placed i t ht
  have hp' := wf.placed id t' ht'
  obtain ⟨values', hs', -⟩ := hp'.stored
  have hlt : t'.versionCounter < h.counters.length := by
    rw [hp'.counter, wf.counters]
    exact (List.getElem?_eq_some_iff.mp hs').1
  rw [hp'.counter] at hlt
  have hc := List.getElem?_eq_getElem hlt
  have ht'' : (h.written t values).tensors[id]? = some t' := ht'
  simp only [Heap.version, ht', ht'', Heap.get_counters_written hp, hp'.counter, hc]
  by_cases heq : t'.storage = t.storage
  · rw [if_pos heq, if_pos heq]
    rfl
  · rw [if_neg heq, if_neg heq]

/-- One more target, over a storage none of the others uses. -/
theorem Assigned.snoc (a : Assigned h done h') {id : TensorId} {values : List F}
    (hv : h.Visible id) (hc : h.contiguous id = true) (hlen : values.length = (h.dims id).prod)
    (hnew : h.storageOf id ∉ done.map fun p => h.storageOf p.1) :
    Assigned h (done ++ [(id, values)]) (h'.assigned id values) := by
  have e := a.unrecorded.evolves
  have wf' := e.wellFormed
  obtain ⟨t, ht⟩ := hv.get
  obtain ⟨m, ht'⟩ := e.tensors id t ht
  have hstore : h.storageOf id = some t.storage := by
    simp only [Heap.storageOf, ht, Option.map_some]
  have hlen' : values.length = Tensor.numel { t with autogradMeta := m } := by
    rw [hlen, ← e.dims_eq hv.1]
    exact (Heap.Visible.numel wf' ht').symm
  have hrow : t.shape.strides = rowMajorStrides t.shape.dimensions := by
    have := e.contiguous_eq hv.1
    rw [hc, Heap.contiguous_of ht'] at this
    exact (Tensor.isContiguous_iff (wf'.placed id _ ht').layout).mp this
  rw [Heap.assigned_of ht']
  refine ⟨?_, ?_, ?_, ?_, ?_, ?_, ?_⟩
  · rw [← Heap.assigned_of ht']
    exact a.unrecorded.trans (Unrecorded.assigned wf' (e.visible id hv) ht' hlen')
  · intro p hp
    rcases List.mem_append.mp hp with hold | hlast
    · exact a.targets p hold
    · rw [List.mem_singleton.mp hlast]
      exact hv.1
  · intro p hp
    rw [Heap.contents_cleared, Heap.contents_written]
    rcases List.mem_append.mp hp with hold | hlast
    · rw [Heap.contents_setStorage_of_ne, a.contents p hold]
      intro tp htp heq
      refine hnew (List.mem_map.mpr ⟨p, hold, ?_⟩)
      rw [hstore, ← e.storageOf (a.targets p hold), Heap.storageOf, htp, Option.map_some, heq]
    · rw [List.mem_singleton.mp hlast]
      exact Heap.contents_setStorage_self wf' ht' hrow hlen'
  · intro s hs
    rw [List.map_append, List.mem_append, not_or] at hs
    have hne : t.storage ≠ s := by
      rintro rfl
      exact hs.2 (by simp [hstore])
    rw [← a.storages s hs.1]
    exact List.getElem?_set_ne hne
  · intro i hi
    obtain ⟨ti, hti⟩ : ∃ t, h.tensors[i]? = some t := ⟨_, List.getElem?_eq_getElem hi⟩
    obtain ⟨mi, hti'⟩ := e.tensors i ti hti
    have hstorei : h.storageOf i = some ti.storage := by
      simp only [Heap.storageOf, hti, Option.map_some]
    rw [Heap.version_cleared, Heap.version_written wf' ht' hti', a.versions i hi, hstorei]
    simp only [List.map_append, List.map_cons, List.map_nil, List.mem_append, List.mem_singleton,
      hstore, Option.some.injEq]
    by_cases heq : ti.storage = t.storage
    · rw [if_pos heq, if_neg (by rw [heq, ← hstore]; exact hnew), if_pos (Or.inr heq)]
    · rw [if_neg heq]
      simp only [heq, or_false]
  · intro i
    rw [Heap.gradient_cleared]
    by_cases hi : i = id
    · rw [hi, Function.update_self, if_pos (by simp)]
    · rw [Function.update_of_ne hi, Heap.gradient_written, a.gradients i]
      have hiff : i ∈ (done ++ [(id, values)]).map Prod.fst ↔ i ∈ done.map Prod.fst := by
        rw [List.map_append, List.mem_append]
        exact or_iff_left fun hmem => hi (List.mem_singleton.mp hmem)
      simp only [hiff]
  · intro s hs
    rw [List.map_append, List.mem_append, not_or] at hs
    have hne : t.storage ≠ s := by
      rintro rfl
      exact hs.2 (by simp [hstore])
    rw [← a.writes s hs.1]
    exact List.count_cons_of_ne hne

end Commit

namespace Training
variable {h : Heap F}

def staged (h : Heap F) (pairs : List (TensorId × TensorId)) : List (TensorId × List F) :=
  pairs.map fun p => (p.1, h.contents p.2)

theorem spec_stageAssignment {pair : TensorId × TensorId} (wf : WellFormed h)
    (hv : h.Visible pair.1) (hs : h.Visible pair.2) :
    Spec (stageAssignment pair : Mem F (TensorId × List F)) h
      (fun r h' => h' = h ∧ r = (pair.1, h.contents pair.2) ∧ h.contiguous pair.1 = true)
      (fun _ h' => h' = h) (fun h' => h' = h) := by
  obtain ⟨t, ht⟩ := hv.get
  obtain ⟨ts, hts⟩ := hs.get
  unfold stageAssignment
  refine (Autograd.observes_readLogicalCpuValues wf hts "tensor_assign_many").bind rfl ?_
  rintro _ rfl
  refine Spec.bind ((Autograd.spec_mutableCpuValues wf ht "tensor_assign_many").mono
    (fun _ _ hq => hq) (fun _ _ he => he.1) fun _ hx => hx) ?_
  rintro _ _ ⟨rfl, hc, -, -⟩
  exact spec_pure ⟨rfl, rfl, (Heap.contiguous_of ht).trans hc⟩

structure Batch.Ok (h : Heap F) (batch : Batch) : Prop where
  targets : ∀ p ∈ batch.pairs, h.Visible p.1
  sources : ∀ p ∈ batch.pairs, h.Visible p.2
  shapes : ∀ p ∈ batch.pairs, h.dims p.1 = h.dims p.2
  separate : (batch.pairs.map fun p => h.storageOf p.1).Nodup

theorem Batch.Ok.snoc {batch : Batch} (ok : batch.Ok h) {target source : TensorId}
    {identities : List Nat} (ht : h.Visible target) (hs : h.Visible source)
    (hd : h.dims target = h.dims source)
    (hnew : h.storageOf target ∉ batch.pairs.map fun p => h.storageOf p.1) :
    Batch.Ok h ⟨identities, batch.pairs ++ [(target, source)]⟩ where
  targets := by
    intro p hp
    rcases List.mem_append.mp hp with hold | hlast
    · exact ok.targets p hold
    · rw [List.mem_singleton.mp hlast]
      exact ht
  sources := by
    intro p hp
    rcases List.mem_append.mp hp with hold | hlast
    · exact ok.sources p hold
    · rw [List.mem_singleton.mp hlast]
      exact hs
  shapes := by
    intro p hp
    rcases List.mem_append.mp hp with hold | hlast
    · exact ok.shapes p hold
    · rw [List.mem_singleton.mp hlast]
      exact hd
  separate := by
    rw [List.map_append, List.nodup_append]
    refine ⟨ok.separate, by simp, fun a ha b hb => ?_⟩
    rw [List.mem_singleton.mp hb]
    rintro rfl
    exact hnew ha

theorem spec_assignBatch {batch : Batch} (wf : WellFormed h) (ok : batch.Ok h) :
    Spec (assignBatch batch : Mem F Unit) h
      (fun _ h' => Assigned h (staged h batch.pairs) h') (fun _ h' => h' = h)
      (fun h' => h' = h) := by
  unfold assignBatch
  refine (observes_allocationGuard _ ((observes_allocate h).bind rfl fun _ _ =>
    observes_allocate h)).bind rfl fun _ _ => ?_
  refine Spec.bind (spec_mapM batch.pairs fun p hp =>
    spec_stageAssignment wf (ok.targets p hp) (ok.sources p hp)) ?_
  rintro values h ⟨rfl, hvalues⟩
  have hboth : List.Forall₂ (fun p r => h.contiguous p.1 = true ∧ (p.1, h.contents p.2) = r)
      batch.pairs values := hvalues.imp fun p r hr => ⟨hr.2, hr.1.symm⟩
  obtain ⟨hrow, hmade⟩ := (List.forall₂_and_left _ _).mp hboth
  have hstaged : staged h batch.pairs = values := by
    rw [staged, ← List.forall₂_eq_eq_eq, List.forall₂_map_left_iff]
    exact hmade
  rw [← hstaged]
  refine (spec_forM (E := fun _ _ => False) (X := fun _ => False)
    (fun done _ h' => Assigned h done h') _ (Assigned.start wf) ?_ fun _ ha => ha).mono
    (fun _ _ hq => hq) (fun _ _ he => he.elim) fun _ hx => hx.elim
  rintro done ⟨id, values⟩ rest h' hsplit ha
  have hmem : (id, values) ∈ staged h batch.pairs := by rw [hsplit]; simp
  obtain ⟨p, hp, heq⟩ := List.mem_map.mp hmem
  obtain ⟨rfl, rfl⟩ := Prod.mk.inj heq
  have hv := ok.targets p hp
  have e := ha.unrecorded.evolves
  have hlen : (h.contents p.2).length = (h.dims p.1).prod := by
    rw [(ok.sources p hp).length wf, ok.shapes p hp]
  have hnew : h.storageOf p.1 ∉ done.map fun p => h.storageOf p.1 := by
    have hnodup := ok.separate
    have hmap : (batch.pairs.map fun p => h.storageOf p.1) =
        (staged h batch.pairs).map fun p => h.storageOf p.1 := by
      rw [staged, List.map_map]
      rfl
    rw [hmap, hsplit, List.map_append, List.map_cons] at hnodup
    intro hin
    exact (List.nodup_append.mp hnodup).2.2 _ hin _ (by simp) rfl
  obtain ⟨t, ht⟩ := (e.visible _ hv).get
  refine (spec_commitAssignment e.wellFormed (e.visible _ hv) ht ?_).mono ?_ (fun _ _ he => he)
    fun _ hx => hx
  · rw [hlen, ← e.dims_eq hv.1]
    exact (Heap.Visible.numel e.wellFormed ht).symm
  · rintro _ _ rfl
    exact ha.snoc hv (hrow p hp) hlen hnew

end Training

def Runtime.Resolves (s : Runtime F D) (handle : Nat) (id : TensorId) : Prop :=
  s.objectOf handle .tensor = some id

def Runtime.Idle (s s' : Runtime F D) : Prop :=
  ∃ a, s' = { s with memory := { s.memory with allocator := a } }

section Idle
variable {s s' s'' : Runtime F D}

theorem Runtime.Idle.refl (s : Runtime F D) : s.Idle s := ⟨s.memory.allocator, rfl⟩

theorem Runtime.Idle.trans (x : s.Idle s') (y : s'.Idle s'') : s.Idle s'' := by
  obtain ⟨a, rfl⟩ := x
  obtain ⟨b, rfl⟩ := y
  exact ⟨b, rfl⟩

theorem Runtime.Idle.heap_eq (x : s.Idle s') : s'.heap = s.heap := by
  obtain ⟨a, rfl⟩ := x
  rfl

theorem Runtime.Idle.resolves_iff (x : s.Idle s') {handle : Nat} {id : TensorId} :
    s'.Resolves handle id ↔ s.Resolves handle id := by
  obtain ⟨a, rfl⟩ := x
  exact Iff.rfl

theorem Runtime.Idle.ok (x : s.Idle s') (ok : s.Ok) : s'.Ok := by
  obtain ⟨a, rfl⟩ := x
  exact ok.onHeap (Evolves.refl ok.wellFormed)

theorem Runtime.Ok.resolved (ok : s.Ok) {handle : Nat} {id : TensorId}
    (hr : s.Resolves handle id) : s.heap.Visible id := by
  unfold Runtime.Resolves Runtime.objectOf at hr
  split at hr
  · cases hr
  obtain ⟨entry, hfind, hentry⟩ := Option.bind_eq_some_iff.mp hr
  split at hentry
  · rename_i htype
    cases hentry
    exact ok.tensors handle entry hfind htype
  · cases hentry

theorem wp_lookupTensor (s : Runtime F D) (handle : Nat) :
    wp (lookupTensor handle) (fun id s' => s' = s ∧ s.Resolves handle id)
      (fun _ s' => s' = s) s := by
  unfold lookupTensor
  rw [wp_onRegistry]
  refine wp_mono (HandleRegistry.wp_lookup s.registry handle .tensor) ?_ ?_
  · rintro object r' ⟨rfl, hpos, entry, hfind, htype, rfl⟩
    refine ⟨rfl, ?_⟩
    rw [Runtime.Resolves, Runtime.objectOf, if_neg (by omega), hfind, Option.bind_some,
      if_pos htype]
  · rintro e r' rfl
    rfl

theorem wp_onMemory_idle {α : Type} {program : Mem F α} {T : α → Prop}
    (hp : Spec program s.heap (fun r h' => h' = s.heap ∧ T r) (fun _ h' => h' = s.heap)
      (fun h' => h' = s.heap)) :
    wp (onMemory program : Native F D α) (fun r s' => s.Idle s' ∧ T r)
      (fun _ s' => s.Idle s') s := by
  rw [wp_onMemory]
  refine wp_mono (hp s.memory.allocator) ?_ ?_
  · rintro r ⟨h', a⟩ ⟨-, rfl, ht⟩
    exact ⟨⟨a, rfl⟩, ht⟩
  · rintro e ⟨h', a⟩ ⟨-, he⟩
    obtain rfl : h' = s.heap := he.elim id fun hx => hx.2.2
    exact ⟨a, rfl⟩

end Idle

/-- The identity of the counter a tensor shares with its aliases. -/
def Heap.identity (h : Heap F) (id : TensorId) : Nat :=
  match h.tensors[id]? with
  | none => 0
  | some t =>
      match h.counters[t.versionCounter]? with
      | none => 0
      | some c => c.identity

theorem Heap.identity_of_storageOf {h : Heap F} (wf : WellFormed h) {id id' : TensorId}
    (hid : id < h.tensors.length) (hid' : id' < h.tensors.length)
    (heq : h.storageOf id = h.storageOf id') : h.identity id = h.identity id' := by
  obtain ⟨t, ht⟩ : ∃ t, h.tensors[id]? = some t := ⟨_, List.getElem?_eq_getElem hid⟩
  obtain ⟨t', ht'⟩ : ∃ t, h.tensors[id']? = some t := ⟨_, List.getElem?_eq_getElem hid'⟩
  simp only [storageOf, ht, ht', Option.map_some, Option.some.injEq] at heq
  simp only [identity, ht, ht', (wf.placed id t ht).counter, (wf.placed id' t' ht').counter, heq]

namespace Training
variable {s : Runtime F D}

theorem spec_tensorIdentity {h : Heap F} (wf : WellFormed h) {id : TensorId} (hv : h.Visible id) :
    Spec (tensorIdentity id : Mem F Nat) h (fun r h' => h' = h ∧ r = h.identity id)
      (fun _ h' => h' = h) (fun h' => h' = h) := by
  obtain ⟨t, ht⟩ := hv.get
  have hp := wf.placed id t ht
  obtain ⟨values, hs, -⟩ := hp.stored
  have hlt : t.versionCounter < h.counters.length := by
    rw [hp.counter, wf.counters]
    exact (List.getElem?_eq_some_iff.mp hs).1
  have hc := List.getElem?_eq_getElem hlt
  have hid : h.identity id = h.counters[t.versionCounter].identity := by
    simp only [Heap.identity, ht, hc]
  unfold tensorIdentity
  refine (observes_deref ht).bind rfl ?_
  rintro t rfl
  refine (observes_identity hc).bind rfl ?_
  rintro _ rfl
  exact spec_failIf_bind (fun _ => rfl) fun _ => spec_pure ⟨rfl, hid.symm⟩

structure Validated (s : Runtime F D) (handles : List (Nat × Nat)) (batch : Batch) : Prop where
  ok : batch.Ok s.heap
  identities : ∀ p ∈ batch.pairs, s.heap.identity p.1 ∈ batch.identities
  resolved : List.Forall₂ (fun handle p => s.Resolves handle.1 p.1 ∧ s.Resolves handle.2 p.2)
    handles batch.pairs

theorem wp_validateAssignment (ok : s.Ok) {done : List (Nat × Nat)} {batch : Batch}
    (v : Validated s done batch) (handles : Nat × Nat) {s' : Runtime F D} (hs : s.Idle s') :
    wp (validateAssignment batch handles)
      (fun batch' s'' => s.Idle s'' ∧ Validated s (done ++ [handles]) batch')
      (fun _ s'' => s.Idle s'') s' := by
  unfold validateAssignment
  refine wp_seq (wp_lookupTensor s' handles.1) ?_ ?_
  · rintro e _ rfl
    exact hs
  rintro target s' ⟨rfl, ht⟩
  refine wp_seq (wp_lookupTensor _ handles.2) ?_ ?_
  · rintro e _ rfl
    exact hs
  rintro source s' ⟨rfl, hsrc⟩
  have ok' := hs.ok ok
  have wf := ok'.wellFormed
  have hvt := ok'.resolved ht
  have hvs := ok'.resolved hsrc
  obtain ⟨t, htt⟩ := hvt.get
  obtain ⟨u, htu⟩ := hvs.get
  refine wp_mono (wp_onMemory_idle (T := fun batch' => s'.heap.dims target = s'.heap.dims source ∧
    s'.heap.identity target ∉ batch.identities ∧
    batch' = ⟨s'.heap.identity target :: batch.identities, batch.pairs ++ [(target, source)]⟩) ?_)
    ?_ ?_
  · refine (observes_deref htt).bind rfl ?_
    rintro t rfl
    refine (observes_deref htu).bind rfl ?_
    rintro u rfl
    unfold validatePair
    rw [bind_assoc]
    refine spec_failIf_bind (fun _ => rfl) fun hshape => ?_
    rw [bind_assoc]
    refine spec_failIf_bind (fun _ => rfl) fun _ => ?_
    refine spec_failIf_bind (fun _ => rfl) fun _ => ?_
    refine Spec.bind (spec_tensorIdentity wf hvt) ?_
    rintro _ _ ⟨rfl, rfl⟩
    refine (observes_allocationGuard _ (observes_allocate _)).bind rfl fun _ _ => ?_
    refine spec_failIf_bind (fun _ => rfl) fun hnew => ?_
    refine spec_pure ⟨rfl, ?_, hnew, rfl⟩
    rw [Heap.dims_of htt, Heap.dims_of htu]
    exact sameShape_iff.mp (by simpa using hshape)
  · rintro _ s'' ⟨hidle, hdims, hnew, rfl⟩
    rw [hs.heap_eq] at hdims hnew hvt hvs
    refine ⟨hs.trans hidle, ?_, ?_, ?_⟩
    · refine v.ok.snoc hvt hvs hdims fun hmem => hnew ?_
      obtain ⟨p, hp, heq⟩ := List.mem_map.mp hmem
      rw [← Heap.identity_of_storageOf ok.wellFormed (v.ok.targets p hp).1 hvt.1 heq]
      exact v.identities p hp
    · intro p hp
      rcases List.mem_append.mp hp with hold | hlast
      · exact List.mem_cons_of_mem _ (v.identities p hold)
      · rw [List.mem_singleton.mp hlast, hs.heap_eq]
        exact List.mem_cons_self
    · refine List.rel_append v.resolved (List.Forall₂.cons ⟨?_, ?_⟩ List.Forall₂.nil)
      · exact hs.resolves_iff.mp ht
      · exact hs.resolves_iff.mp hsrc
  · exact fun _ _ hidle => hs.trans hidle

def Resolved (s : Runtime F D) (targets sources : Option (List Nat)) (count : Nat)
    (pairs : List (TensorId × TensorId)) : Prop :=
  List.Forall₂ (fun handle p => s.Resolves handle.1 p.1 ∧ s.Resolves handle.2 p.2)
    (((targets.getD []).zip (sources.getD [])).take count) pairs

theorem wp_assignMany (ok : s.Ok) (targets sources : Option (List Nat)) (count : Nat) :
    wp (assignMany targets sources count)
      (fun _ s' => ∃ a h', ∃ batch : Batch, s' = { s with memory := ⟨h', a⟩ } ∧
        Resolved s targets sources count batch.pairs ∧ batch.pairs.length = count ∧
        batch.Ok s.heap ∧ Assigned s.heap (staged s.heap batch.pairs) h')
      (fun _ s' => s.Idle s') s := by
  have hempty : Batch.Ok s.heap ⟨[], []⟩ := ⟨by simp, by simp, by simp, by simp⟩
  unfold assignMany
  refine wp_ite (fun hzero => ?_) fun hcount => ?_
  · subst hzero
    exact ⟨s.memory.allocator, s.heap, ⟨[], []⟩, rfl, by simp [Resolved], rfl, hempty,
      Assigned.start ok.wellFormed⟩
  split
  · rename_i targets sources
    refine wp_seq (wp_onMemory_idle (T := fun _ => True) ?_) (fun _ _ he => he) ?_
    · refine spec_allocationGuard _ (spec_failIf_bind (fun _ => rfl) fun _ => ?_)
      refine (observes_allocate _).bind rfl fun _ _ => ?_
      exact (observes_allocate _).mono (fun _ _ hq => hq) (fun _ _ he => he.elim) fun _ hx => hx
    rintro _ s₁ ⟨hs₁, -⟩
    refine wp_seq (P := fun _ s' => s' = s₁ ∧ count ≤ targets.length ∧ count ≤ sources.length)
      (R := fun _ s' => s' = s₁) ?_ ?_ ?_
    · rw [wp_failIf]
      exact ⟨fun _ => rfl, fun h => ⟨rfl, by omega, by omega⟩⟩
    · rintro _ _ rfl
      exact hs₁
    rintro _ _ ⟨rfl, htargets, hsources⟩
    refine wp_seq (P := fun batch s' => s.Idle s' ∧
      Validated s ((targets.zip sources).take count) batch) (R := fun _ s' => s.Idle s') ?_
      (fun _ _ he => he) ?_
    · refine wp_foldlM (fun done _ batch s' => s.Idle s' ∧ Validated s done batch) _
        ⟨hs₁, hempty, by simp, List.Forall₂.nil⟩ ?_ fun _ _ h => h
      rintro done handles rest batch s' - ⟨hs', v⟩
      exact wp_validateAssignment ok v handles hs'
    rintro batch s' ⟨hs', v⟩
    rw [wp_onMemory]
    refine wp_mono (spec_assignBatch (hs'.ok ok).wellFormed (by rw [hs'.heap_eq]; exact v.ok)
      s'.memory.allocator) ?_ ?_
    · rintro _ ⟨h', a⟩ ⟨-, ha⟩
      refine ⟨a, h', batch, ?_, v.resolved, ?_, v.ok, ?_⟩
      · obtain ⟨b, rfl⟩ := hs'
        rfl
      · rw [← v.resolved.length_eq, List.length_take, List.length_zip]
        omega
      · rwa [hs'.heap_eq] at ha
    · rintro e ⟨h', a⟩ ⟨-, he⟩
      obtain rfl : h' = s'.memory.heap := he.elim id fun hx => hx.2.2
      exact hs'.trans ⟨a, rfl⟩
  · exact Runtime.Idle.refl s

end Training

end Tensora
