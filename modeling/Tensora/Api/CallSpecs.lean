import Tensora.Api.Invariant

/-! Each call keeps the invariant. The calls that make tensors only extend the
tables; the others record no operation. -/
namespace Tensora.Api
open ProgramLogic Training

variable {F D : Type} [Scalar F] [Scalar D] [Precision F D] {s : Runtime F D}

/-- What a call may do, whatever it replies. -/
abbrev Stays (R : Heap F → Heap F → Prop) {α : Type} (x : Native F D α) (s : Runtime F D) : Prop :=
  Keeps R x s fun _ _ => True

section Making

theorem makes_dispatchedUnary {h : Heap F} {operation : TensorId → Mem F TensorId} {id : TensorId}
    (wf : WellFormed h) (hv : h.Visible id) (hop : Makes D (operation id) h) :
    Makes D (dispatchedUnary operation id) h := by
  obtain ⟨t, ht⟩ := hv.get
  unfold dispatchedUnary
  refine (observes_deref ht).bind (Forwarded.refl wf) ?_
  rintro t rfl
  exact spec_failIf_bind (fun _ => Forwarded.refl wf) fun _ => hop

theorem makes_dispatched {h : Heap F} {operation : TensorId → TensorId → Mem F TensorId}
    {left right : TensorId} (wf : WellFormed h) (hl : h.Visible left) (hr : h.Visible right)
    (hop : Makes D (operation left right) h) : Makes D (dispatched operation left right) h := by
  obtain ⟨l, hl⟩ := hl.get
  obtain ⟨r, hr⟩ := hr.get
  unfold dispatched
  refine (observes_deref hl).bind (Forwarded.refl wf) ?_
  rintro l rfl
  refine (observes_deref hr).bind (Forwarded.refl wf) ?_
  rintro r rfl
  refine spec_failIf_bind (fun _ => Forwarded.refl wf) fun _ => ?_
  exact spec_failIf_bind (fun _ => Forwarded.refl wf) fun _ => hop

variable (D) in
theorem keeps_make (ok : s.Ok) {x : Mem F TensorId} (hx : Makes D x s.heap) :
    Keeps (Forwarded D) (onMemory x : Native F D TensorId) s fun r s' => s'.heap.Visible r :=
  keeps_onMemory chained_forwarded ok hx

theorem stays_insertTensor (ok : s.Ok) {object : TensorId} (hv : s.heap.Visible object) :
    Stays (Forwarded D) (do return .handle (← insertTensor object) : Native F D (Reply F)) s :=
  Keeps.bind chained_forwarded (keeps_insertTensor chained_forwarded ok hv)
    fun _ _ ok' _ _ => keeps_pure chained_forwarded ok' trivial

theorem stays_makeAndInsert (ok : s.Ok) {x : Mem F TensorId} (hx : Makes D x s.heap) :
    Stays (Forwarded D) (do
      let result ← onMemory x
      return .handle (← insertTensor result) : Native F D (Reply F)) s :=
  Keeps.bind chained_forwarded (keeps_make D ok hx) fun _ _ ok' _ hv => stays_insertTensor ok' hv

theorem stays_runUnary (ok : s.Ok) (tensor : Nat) {operation : TensorId → Mem F TensorId}
    (hop : ∀ id, s.heap.Visible id → Makes D (operation id) s.heap) :
    Stays (Forwarded D) (runUnary tensor operation) s := by
  unfold runUnary
  refine Keeps.bind chained_forwarded (keeps_lookupTensor chained_forwarded ok tensor) ?_
  rintro id s ok - ⟨rfl, hv⟩
  exact stays_makeAndInsert ok (hop id hv)

theorem stays_runBinary (ok : s.Ok) (left right : Nat)
    {operation : TensorId → TensorId → Mem F TensorId}
    (hop : ∀ l r, s.heap.Visible l → s.heap.Visible r → Makes D (operation l r) s.heap) :
    Stays (Forwarded D) (runBinary left right operation) s := by
  unfold runBinary
  refine Keeps.bind chained_forwarded (keeps_lookupTensor chained_forwarded ok left) ?_
  rintro l s ok - ⟨rfl, hl⟩
  refine Keeps.bind chained_forwarded (keeps_lookupTensor chained_forwarded ok right) ?_
  rintro r s ok - ⟨rfl, hr⟩
  exact stays_makeAndInsert ok (hop l r hl hr)

omit [Scalar F] [Scalar D] [Precision F D] in
theorem keeps_validatedShape {R : Heap F → Heap F → Prop} (c : Chained R) (ok : s.Ok)
    (dims : List Int) :
    Keeps R (onMemory (validatedShape dims) : Native F D ShapeInfo) s
      fun shape s' => s'.heap = s.heap ∧ shape.Canonical ∧ dims = shape.dimensions.map Int.ofNat :=
  keeps_observes c ok ((spec_validatedShape s.heap dims).mono (fun _ _ hq => hq)
    (fun _ _ he => he.1) fun _ hx => hx)

theorem stays_tensorFromF32 (ok : s.Ok) (data : List F) (dims : List Int) :
    Stays (Forwarded D) (tensorFromF32 data dims) s := by
  unfold tensorFromF32
  refine Keeps.bind chained_forwarded (keeps_validatedShape chained_forwarded ok dims) ?_
  rintro shape s ok - ⟨-, hshape, -⟩
  refine Keeps.bind chained_forwarded (keeps_failIf chained_forwarded ok _ _) ?_
  rintro _ s ok - ⟨rfl, hlen⟩
  exact stays_makeAndInsert ok
    (CpuBackend.makes_fromData ok.wellFormed hshape (not_not.mp hlen).symm)

theorem stays_tensorFullF32 (ok : s.Ok) (dims : List Int) (value : F) :
    Stays (Forwarded D) (tensorFullF32 dims value) s := by
  unfold tensorFullF32
  refine Keeps.bind chained_forwarded (keeps_validatedShape chained_forwarded ok dims) ?_
  rintro shape s ok - ⟨-, hshape, -⟩
  exact stays_makeAndInsert ok (CpuBackend.makes_full ok.wellFormed hshape value)

theorem stays_tensorReshape (ok : s.Ok) (tensor : Nat) (dims : List Int) :
    Stays (Forwarded D) (tensorReshape tensor dims) s := by
  unfold tensorReshape
  refine Keeps.bind chained_forwarded (keeps_validatedShape chained_forwarded ok dims) ?_
  rintro shape s ok - ⟨-, hshape, -⟩
  exact stays_runUnary ok tensor fun id hv => makes_dispatchedUnary ok.wellFormed hv
    ((CpuBackend.forwards_reshape ok.wellFormed hv hshape).makes ok.wellFormed)

theorem stays_moduleForward (ok : s.Ok) (module input : Nat) :
    Stays (Forwarded D) (do
      let object ← lookupTensor input
      fetchAndInsert (Training.forward module object) : Native F D (Reply F)) s := by
  refine Keeps.bind chained_forwarded (keeps_lookupTensor chained_forwarded ok input) ?_
  rintro id s ok - ⟨rfl, hv⟩
  unfold fetchAndInsert Training.forward
  rw [bind_assoc]
  refine Keeps.bind chained_forwarded (keeps_lookupModule chained_forwarded ok module) ?_
  rintro ⟨object, state⟩ s ok - ⟨rfl, hstate⟩
  refine stays_makeAndInsert ok ?_
  refine (spec_moduleForward ok.wellFormed hv (ok.modules state
    (List.mem_of_getElem? (Runtime.get_moduleAt hstate)))).mono
    ?_ ?_ fun _ hx => hx
  · rintro r h' ⟨-, hprod⟩
    exact hprod.forwarded ok.wellFormed
  · rintro e _ ⟨rfl, -⟩
    exact Forwarded.refl ok.wellFormed

end Making

section Modules

omit [Scalar D] [Precision F D] in
theorem keeps_drawUniform {R : Heap F → Heap F → Prop} (c : Chained R) (ok : s.Ok) (count : Nat)
    (bound : F) : Keeps R (drawUniform count bound : Native F D (List F)) s
      fun values s' => s'.heap = s.heap ∧ values.length = count := by
  unfold drawUniform
  refine Keeps.bind c (keeps_get c ok) ?_
  rintro s _ ok - ⟨rfl, rfl⟩
  refine Keeps.bind c (keeps_modify c ok rfl ⟨ok.wellFormed, ok.versioned, ok.tensors, ok.modules,
    ok.optimizers, ok.parameterOptimizers, ok.handles⟩) ?_
  rintro _ _ ok - rfl
  exact keeps_pure c ok ⟨rfl, by simp⟩

omit [Scalar F] [Scalar D] [Precision F D] in
theorem keeps_allocateFloats {R : Heap F → Heap F → Prop} (c : Chained R) (ok : s.Ok) (size : Nat) :
    Keeps R (onMemory (allocateFloats size) : Native F D Unit) s
      fun _ s' => s'.heap = s.heap ∧ size ≤ kMaxFloats :=
  keeps_observes c ok ((spec_allocateFloats s.heap size).mono (fun _ _ hq => hq)
    (fun _ _ he => he.1) fun _ hx => hx)

omit [Scalar F] [Scalar D] [Precision F D] in
theorem keeps_allocate {R : Heap F → Heap F → Prop} (c : Chained R) (ok : s.Ok) :
    Keeps R (onMemory allocate : Native F D Unit) s fun _ s' => s'.heap = s.heap :=
  (keeps_observes c ok (T := fun _ => True) ((observes_allocate s.heap).mono (fun _ _ hq => hq)
    (fun _ _ he => he.elim) fun _ hx => hx)).mono fun _ _ hq => hq.1

abbrev parameterMeta : AutogradMeta :=
  { requiresGrad := true, isLeaf := true, gradient := none, gradFn := none }

theorem keeps_makeParameter (ok : s.Ok) {shape : ShapeInfo} {values : List F}
    (hs : shape.Canonical) (hlen : values.length = shape.numel) (hfits : shape.numel ≤ kMaxFloats) :
    Keeps (Forwarded D) (onMemory (makeParameter shape values) : Native F D TensorId) s
      fun r s' => r = s.heap.tensors.length ∧
        s'.heap = s.heap.pushFresh (canonicalShape shape.dimensions) values (some parameterMeta) ∧
        s.heap.Pushable s'.heap ⟨canonicalShape shape.dimensions, s.heap.storages.length, .float32,
          .cpu, 0, 0, s.heap.counters.length, some parameterMeta⟩ := by
  have hspec := spec_makeParameter (h := s.heap) hs hlen hfits
  rw [hs.numel_eq] at hlen hfits
  have hpush := pushable_fresh ok.wellFormed (canonicalShape_canonical hs.valid).layout hlen hfits
    (metaPushable_leaf s.heap shape.dimensions true)
  have hplain := pushable_fresh ok.wellFormed (canonicalShape_canonical hs.valid).layout hlen hfits
    (metaPushable_none s.heap shape.dimensions)
  refine keeps_onMemory chained_forwarded ok (T := fun r h' => r = s.heap.tensors.length ∧
    h' = s.heap.pushFresh (canonicalShape shape.dimensions) values (some parameterMeta) ∧
    s.heap.Pushable h' ⟨canonicalShape shape.dimensions, s.heap.storages.length, .float32,
      .cpu, 0, 0, s.heap.counters.length, some parameterMeta⟩) (hspec.mono ?_ ?_ ?_)
  · rintro r _ ⟨rfl, rfl⟩
    exact ⟨forwarded_plain ok.wellFormed hpush rfl, rfl, rfl, hpush⟩
  · exact fun _ _ he => he.elim
  · rintro _ (hidled | rfl)
    · exact hidled.forwarded ok.wellFormed
    · exact forwarded_plain ok.wellFormed hplain rfl

omit [Scalar F] [Scalar D] [Precision F D] in
theorem dimensions_of_ofNat {dims : List Int} {dims' : List Nat} (h : dims = dims'.map Int.ofNat) :
    dims' = dims.map Int.toNat := by
  rw [h, List.map_map]
  exact (List.map_id dims').symm

structure RowMajor (h : Heap F) (id : TensorId) (dims : List Nat) : Prop where
  visible : h.Visible id
  dims_eq : h.dims id = dims
  contiguous : h.contiguous id = true

omit [Scalar F] [Scalar D] [Precision F D] in
theorem RowMajor.evolve {h h' : Heap F} {id : TensorId} {dims : List Nat} (r : RowMajor h id dims)
    (e : Evolves h h') : RowMajor h' id dims where
  visible := e.visible _ r.visible
  dims_eq := (e.dims_eq r.visible.1).trans r.dims_eq
  contiguous := (e.contiguous_eq r.visible.1).trans r.contiguous

omit [Scalar F] [Scalar D] [Precision F D] in
theorem rowMajor_of_pushable {h h' : Heap F} {t : Tensor} {dims : List Nat} (wf : WellFormed h)
    (hp : h.Pushable h' t) (hs : t.shape = canonicalShape dims) :
    RowMajor h' h.tensors.length dims where
  visible := hp.last_visible wf
  dims_eq := by
    rw [Heap.dims_of hp.last, hs]
    rfl
  contiguous := by
    rw [Heap.contiguous_of hp.last]
    refine (Tensor.isContiguous_iff ((hp.wellFormed wf).placed _ t hp.last).layout).mpr ?_
    rw [hs]
    rfl

omit [Scalar F] [Scalar D] [Precision F D] in
theorem keeps_addModule {R : Heap F → Heap F → Prop} (c : Chained R) (ok : s.Ok)
    {state : LinearState} (hstate : state.Ok s.heap) :
    Keeps R (do let object ← addModule state; insertHandle .module object : Native F D Nat) s
      fun _ _ => True := by
  unfold addModule
  rw [bind_assoc]
  refine Keeps.bind c (keeps_get c ok) ?_
  rintro s _ ok - ⟨rfl, rfl⟩
  rw [bind_assoc]
  refine Keeps.bind c (keeps_modify c ok rfl ⟨ok.wellFormed, ok.versioned, ok.tensors, ?_,
    fun state hmem => ?_, ok.parameterOptimizers, ok.handles⟩) ?_
  · intro state' hmem
    rcases List.mem_append.mp hmem with hold | hone
    · exact ok.modules state' hold
    · rw [List.mem_singleton.mp hone]
      exact hstate
  · obtain ⟨module, hget, hfits⟩ := (ok.optimizers state hmem).bound
    exact ⟨module, (List.getElem?_append_left (List.getElem?_eq_some_iff.mp hget).1).trans hget,
      hfits⟩
  · rintro _ _ ok' - rfl
    exact (keeps_insertHandle c ok' .module _ fun hne => by cases hne).mono fun _ _ _ => trivial

theorem stays_linearCreate (ok : s.Ok) (inFeatures outFeatures : Int) (useBias : Bool) :
    Stays (Forwarded D) (do
      return .handle (← linearCreate inFeatures outFeatures useBias) : Native F D (Reply F)) s := by
  have c := chained_forwarded (F := F) (D := D)
  refine Keeps.bind c (Q := fun _ _ => True) ?_ fun _ _ ok _ _ => keeps_pure c ok trivial
  unfold linearCreate validateModuleDimensions
  rw [bind_assoc]
  refine Keeps.bind c (keeps_failIf c ok _ _) ?_
  rintro _ s ok - ⟨rfl, hpos⟩
  rw [bind_assoc]
  refine Keeps.bind c (keeps_failIf c ok _ _) ?_
  rintro _ s ok - ⟨rfl, -⟩
  refine Keeps.bind c (keeps_failIf c ok _ _) ?_
  rintro _ s ok - ⟨rfl, -⟩
  refine Keeps.bind c (keeps_validatedShape c ok _) ?_
  rintro weightShape s ok - ⟨-, hshape, hdims⟩
  have hwdims := dimensions_of_ofNat hdims
  refine keeps_allocationGuard _ ?_
  refine Keeps.bind c (keeps_allocateFloats c ok _) ?_
  rintro _ s ok - ⟨-, hfits⟩
  refine Keeps.bind c (keeps_drawUniform c ok _ _) ?_
  rintro weightValues s ok - ⟨-, hweight⟩
  cases useBias with
  | false =>
      refine Keeps.bind c (Q := fun _ _ => True) (keeps_pure c ok trivial) ?_
      rintro _ s ok - -
      refine Keeps.bind c (keeps_allocate c ok) ?_
      rintro _ s ok - -
      refine Keeps.bind c (keeps_makeParameter ok hshape hweight hfits) ?_
      rintro _ s₁ ok₁ - ⟨rfl, -, hpush⟩
      refine Keeps.bind c (Q := fun r s' => r = none ∧ s' = s₁) (keeps_pure c ok₁ ⟨rfl, rfl⟩) ?_
      rintro _ _ ok₁ - ⟨rfl, rfl⟩
      have hw := rowMajor_of_pushable ok.wellFormed hpush rfl
      exact keeps_addModule c ok₁ {
        weight_visible := hw.visible
        weight_dims := by rw [hw.dims_eq, hwdims]; rfl
        weight_rowMajor := hw.contiguous
        useBias := rfl
        bias_visible := fun _ hsome => by cases hsome
        bias_dims := fun _ hsome => by cases hsome
        bias_rowMajor := fun _ hsome => by cases hsome
        separate := fun _ _ _ hsome => by cases hsome }
  | true =>
      refine Keeps.bind c (keeps_allocateFloats c ok _) ?_
      rintro _ s ok - ⟨-, hbfits⟩
      refine Keeps.bind c (keeps_drawUniform c ok _ _) ?_
      rintro biasValues s ok - ⟨-, hbias⟩
      refine Keeps.bind c (keeps_allocate c ok) ?_
      rintro _ s ok - -
      refine Keeps.bind c (keeps_makeParameter ok hshape hweight hfits) ?_
      rintro _ s₁ ok₁ - ⟨rfl, -, hpush⟩
      refine Keeps.bind c (keeps_validatedShape c ok₁ _) ?_
      rintro biasShape s₂ ok₂ - ⟨hheap, hbshape, hbdims⟩
      have hbdims := dimensions_of_ofNat hbdims
      rw [map_eq_pure_bind, bind_assoc]
      refine Keeps.bind c (keeps_makeParameter ok₂ hbshape ?_ ?_) ?_
      · rw [hbshape.numel_eq, hbdims, hbias]
        simp
      · rw [hbshape.numel_eq, hbdims]
        simpa using hbfits
      rintro _ s₃ ok₃ hf ⟨rfl, -, hpush'⟩
      rw [pure_bind]
      have e := c.evolves ok₂.wellFormed hf
      rw [← hheap] at hpush
      have hw := (rowMajor_of_pushable ok.wellFormed hpush rfl).evolve e
      have hb := rowMajor_of_pushable ok₂.wellFormed hpush' rfl
      exact keeps_addModule c ok₃ {
        weight_visible := hw.visible
        weight_dims := by rw [hw.dims_eq, hwdims]; rfl
        weight_rowMajor := hw.contiguous
        useBias := rfl
        bias_visible := fun b hsome => by cases hsome; exact hb.visible
        bias_dims := fun b hsome => by cases hsome; rw [hb.dims_eq, hbdims]; rfl
        bias_rowMajor := fun b hsome => by cases hsome; exact hb.contiguous
        separate := by
          rintro _ t t' ⟨⟩ ht ht'
          obtain rfl := Option.some.inj (hpush'.last.symm.trans ht')
          obtain ⟨m, hm⟩ := e.tensors _ _ hpush.last
          obtain rfl := Option.some.inj (hm.symm.trans ht)
          obtain ⟨values, hval, -⟩ := (ok₂.wellFormed.placed _ _ hpush.last).stored
          exact Nat.ne_of_lt (List.getElem?_eq_some_iff.mp hval).1 }

end Modules

end Tensora.Api
