import Tensora.Autograd.ForwardValues

/-! What a recorded operation leaves behind: one more tensor with the operation's
value, and a grad node that saved the versions its parents have. -/
namespace Tensora
open CheckedLoop

variable {F D : Type}

section Produced
variable [Scalar F] [Scalar D] [Precision F D]

variable (D) in
structure Recorded (h : Heap F) (id : TensorId) (node : GradNode) : Prop where
  versions : node.parentVersions = node.parents.map h.version
  value : h.contents id = forwardValues D (Training.codeFunctions F D) node.operation
    (node.parents.map h.dims) (node.parents.map h.contents)

variable (D) in
/-- What forward operations do, however many and however they end. -/
structure Forwarded (h h' : Heap F) : Prop where
  extension : h.Extends h'
  wellFormed : WellFormed h'
  ungraded : ∀ id, h.tensors.length ≤ id → h'.gradient id = none
  recorded : ∀ id node, h.tensors.length ≤ id → h'.gradFn id = some node → Recorded D h' id node

variable (D) in
structure Produced (h h' : Heap F) (operation : Operation) (parents : List TensorId)
    (dims : List Nat) : Prop where
  pushed : ∃ t, h.Pushable h' t ∧ t.shape.dimensions = dims ∧
    t.autogradMeta = h.nodeMeta operation parents
  visible : ∀ p ∈ parents, h.Visible p
  shapes : OpShapes operation (parents.map h.dims) dims
  rowMajor : operation ≠ .transpose2D → h'.contiguous h.tensors.length = true
  value : h'.contents h.tensors.length = forwardValues D (Training.codeFunctions F D) operation
    (parents.map h.dims) (parents.map h.contents)

theorem Recorded.extend {h h' : Heap F} {id : TensorId} {node : GradNode}
    (r : Recorded D h id node) (wf : WellFormed h) (e : h.Extends h')
    (hid : id < h.tensors.length) (hparents : ∀ p ∈ node.parents, p < h.tensors.length) :
    Recorded D h' id node where
  versions := by
    rw [r.versions]
    exact (List.map_congr_left fun p hp => e.version wf (hparents p hp)).symm
  value := by
    rw [e.contents wf hid, r.value]
    congr 1
    · exact (List.map_congr_left fun p hp => e.dims (hparents p hp)).symm
    · exact (List.map_congr_left fun p hp => e.contents wf (hparents p hp)).symm

theorem Heap.Idled.forwarded {h h' : Heap F} (x : h.Idled h') (wf : WellFormed h) :
    Forwarded D h h' where
  extension := x.extends
  wellFormed := x.wellFormed wf
  ungraded := by
    intro id hid
    rw [← x.tensors] at hid
    cases hg : h'.gradient id with
    | none => rfl
    | some g => exact absurd (Heap.gradient_lt hg) (Nat.not_lt.mpr hid)
  recorded := by
    intro id node hid hn
    rw [← x.tensors] at hid
    exact absurd (Heap.gradFn_lt hn) (Nat.not_lt.mpr hid)

theorem Forwarded.refl {h : Heap F} (wf : WellFormed h) : Forwarded D h h :=
  (Heap.Idled.refl h).forwarded wf

theorem Forwarded.trans {h h' h'' : Heap F} (a : Forwarded D h h') (b : Forwarded D h' h'') :
    Forwarded D h h'' where
  extension := a.extension.trans b.extension
  wellFormed := b.wellFormed
  ungraded := by
    intro id hid
    rcases Nat.lt_or_ge id h'.tensors.length with hlt | hge
    · rw [b.extension.gradient hlt]
      exact a.ungraded id hid
    · exact b.ungraded id hge
  recorded := by
    intro id node hid hn
    rcases Nat.lt_or_ge id h'.tensors.length with hlt | hge
    · rw [b.extension.gradFn hlt] at hn
      refine (a.recorded id node hid hn).extend a.wellFormed b.extension hlt fun p hp => ?_
      exact (a.wellFormed.parent_visible hn hp).1
    · exact b.recorded id node hge hn

theorem Forwarded.visible {h h' : Heap F} (a : Forwarded D h h') {id : TensorId}
    (hv : h.Visible id) : h'.Visible id := by
  refine ⟨hv.1.trans_le a.extension.length_le, fun leaf hg => ?_⟩
  rcases Nat.lt_or_ge leaf h.tensors.length with hlt | hge
  · rw [a.extension.gradient hlt] at hg
    exact hv.2 leaf hg
  · rw [a.ungraded leaf hge] at hg
    cases hg

namespace Produced
variable {h h' : Heap F} {operation : Operation} {parents : List TensorId} {dims : List Nat}
  (p : Produced D h h' operation parents dims)
include p

theorem extension : h.Extends h' := by
  obtain ⟨t, hp, -⟩ := p.pushed
  exact hp.extension

theorem length : h'.tensors.length = h.tensors.length + 1 := by
  obtain ⟨t, hp, -⟩ := p.pushed
  exact hp.length

theorem dims_eq : h'.dims h.tensors.length = dims := by
  obtain ⟨t, hp, hd, -⟩ := p.pushed
  rw [Heap.dims_of hp.last, hd]

theorem meta_eq : h'.autogradMeta h.tensors.length = h.nodeMeta operation parents := by
  obtain ⟨t, hp, -, hm⟩ := p.pushed
  rw [Heap.autogradMeta_of hp.last, hm]

theorem wellFormed (wf : WellFormed h) : WellFormed h' := by
  obtain ⟨t, hp, -⟩ := p.pushed
  exact hp.wellFormed wf

theorem result_visible (wf : WellFormed h) : h'.Visible h.tensors.length := by
  obtain ⟨t, hp, -⟩ := p.pushed
  exact hp.last_visible wf

theorem gradFn_eq : h'.gradFn h.tensors.length =
    if parents.any h.requiresGrad then some ⟨operation, parents, parents.map h.version⟩
    else none := by
  rw [Heap.gradFn, p.meta_eq, Heap.nodeMeta]
  split <;> rfl

theorem forwarded (wf : WellFormed h) : Forwarded D h h' where
  extension := p.extension
  wellFormed := p.wellFormed wf
  ungraded := by
    intro id hid
    cases hg : h'.gradient id with
    | none => rfl
    | some g =>
        obtain ⟨t, hp, -⟩ := p.pushed
        exact absurd (Heap.gradient_lt (hp.gradient hg)) (Nat.not_lt.mpr hid)
  recorded := by
    intro id node hid hn
    have hlt := Heap.gradFn_lt hn
    rw [p.length] at hlt
    obtain rfl : id = h.tensors.length := Nat.le_antisymm (Nat.lt_succ_iff.mp hlt) hid
    rw [p.gradFn_eq] at hn
    split at hn
    · cases hn
      have hdims : parents.map h'.dims = parents.map h.dims :=
        List.map_congr_left fun q hq => p.extension.dims (p.visible q hq).1
      have hcontents : parents.map h'.contents = parents.map h.contents :=
        List.map_congr_left fun q hq => p.extension.contents wf (p.visible q hq).1
      refine ⟨?_, ?_⟩
      · exact List.map_congr_left fun q hq => (p.extension.version wf (p.visible q hq).1).symm
      · simp only [hdims, hcontents]
        exact p.value
    · cases hn

end Produced

theorem produced_fresh {h : Heap F} (wf : WellFormed h) {operation : Operation}
    {parents : List TensorId} {dims : List Nat} {values : List F}
    (hv : ∀ p ∈ parents, h.Visible p) (hs : OpShapes operation (parents.map h.dims) dims)
    (hd : ValidDims dims) (hlen : values.length = dims.prod) (hfits : dims.prod ≤ kMaxFloats)
    (hvalue : values = forwardValues D (Training.codeFunctions F D) operation
      (parents.map h.dims) (parents.map h.contents)) :
    Produced D h (h.pushFresh (canonicalShape dims) values (h.nodeMeta operation parents))
      operation parents dims where
  pushed := ⟨_, pushable_fresh wf (canonicalShape_canonical hd).layout hlen hfits
    (metaPushable_node hv hs), rfl, rfl⟩
  visible := hv
  shapes := hs
  rowMajor := fun _ => by
    have hpush := pushable_fresh wf (canonicalShape_canonical hd).layout hlen hfits
      (metaPushable_node hv hs)
    rw [Heap.contiguous_of hpush.last]
    exact (Tensor.isContiguous_iff (canonicalShape_canonical hd).layout).mpr rfl
  value := by
    rw [contents_pushFresh wf hd hlen hfits (metaPushable_node hv hs)]
    exact hvalue

/-- A plain tensor: what an operation leaves when it fails before it is recorded. -/
theorem forwarded_plain {h h' : Heap F} {t : Tensor} (wf : WellFormed h) (p : h.Pushable h' t)
    (hmeta : t.gradFn = none) : Forwarded D h h' where
  extension := p.extension
  wellFormed := p.wellFormed wf
  ungraded := by
    intro id hid
    cases hg : h'.gradient id with
    | none => rfl
    | some g => exact absurd (Heap.gradient_lt (p.gradient hg)) (Nat.not_lt.mpr hid)
  recorded := by
    intro id node hid hn
    have hlt := Heap.gradFn_lt hn
    rw [p.length] at hlt
    obtain rfl : id = h.tensors.length := Nat.le_antisymm (Nat.lt_succ_iff.mp hlt) hid
    rw [Heap.gradFn_of p.last, hmeta] at hn
    cases hn

end Produced

section Visible
variable {h : Heap F}

theorem WellFormed.fits (wf : WellFormed h) {id : TensorId} {t : Tensor}
    (ht : h.tensors[id]? = some t) : (h.dims id).prod ≤ kMaxFloats := by
  have hp := wf.placed id t ht
  rw [Heap.dims_of ht, ← hp.layout.numel_eq]
  exact hp.fits

theorem Heap.Visible.fits {id : TensorId} (wf : WellFormed h) (hv : h.Visible id) :
    (h.dims id).prod ≤ kMaxFloats := by
  obtain ⟨t, ht⟩ := hv.get
  exact wf.fits ht

theorem Heap.Visible.valid {id : TensorId} (wf : WellFormed h) (hv : h.Visible id) :
    ValidDims (h.dims id) := by
  obtain ⟨t, ht⟩ := hv.get
  exact wf.dims_valid ht

theorem Heap.Visible.length {id : TensorId} (wf : WellFormed h) (hv : h.Visible id) :
    (h.contents id).length = (h.dims id).prod := by
  obtain ⟨t, ht⟩ := hv.get
  exact wf.length_contents ht

theorem Heap.Visible.numel {id : TensorId} (wf : WellFormed h) {t : Tensor}
    (ht : h.tensors[id]? = some t) : t.numel = (h.dims id).prod := by
  rw [Heap.dims_of ht]
  exact (wf.placed id t ht).layout.numel_eq

end Visible

namespace Autograd

section Triples
variable {h : Heap F}

theorem spec_makeSharedTensor (h : Heap F) (shape : ShapeInfo) (values : List F) :
    Spec (makeSharedTensor shape values) h
      (fun r h' => r = h.tensors.length ∧ h' = h.pushFresh shape values none)
      (fun _ _ => False) h.Idled := by
  unfold makeSharedTensor
  refine (observes_allocate h).bind (Heap.Idled.refl h) fun _ _ => ?_
  refine (observes_allocate h).bind (Heap.Idled.refl h) fun _ _ => ?_
  refine (observes_getHeap h).bind (Heap.Idled.refl h) ?_
  rintro h rfl
  refine Spec.bind (Q := fun _ h' => h' = h.drawIdentity) (spec_modifyHeap _ rfl) ?_
  rintro _ _ rfl
  refine (observes_allocate _).bind (Or.inr rfl) fun _ _ => ?_
  refine (observes_getHeap _).bind (Or.inr rfl) ?_
  rintro _ rfl
  exact Spec.bind (spec_modifyHeap _ rfl) fun _ h' hh' => spec_pure ⟨rfl, hh'⟩

theorem spec_makeCpuTensor {shape : ShapeInfo} {values : List F} (hd : ValidDims shape.dimensions)
    (hn : shape.numel = shape.dimensions.prod) (hlen : values.length = shape.dimensions.prod)
    (hfits : shape.dimensions.prod ≤ kMaxFloats) :
    Spec (makeCpuTensor shape values) h
      (fun r h' => r = h.tensors.length ∧
        h' = h.pushFresh (canonicalShape shape.dimensions) values none)
      (fun _ _ => False) h.Idled := by
  unfold makeCpuTensor
  refine spec_failIf_bind (fun hne => absurd (hlen.trans hn.symm) hne) fun _ => ?_
  refine (observes_allocate h).bind (Heap.Idled.refl h) fun _ _ => ?_
  rw [validateShape_of_valid hd]
  simp only
  refine spec_failIf_bind (fun hne => absurd hn.symm hne) fun _ => ?_
  rw [hn, ← hlen]
  refine (observes_cpuStorageFromData h (by rw [hlen]; exact hfits)).bind (Heap.Idled.refl h) ?_
  rintro _ rfl
  exact spec_allocationGuard _ (spec_makeSharedTensor h _ _)

theorem spec_makeCpuFull {shape : ShapeInfo} (value : F) (hfits : shape.numel ≤ kMaxFloats) :
    Spec (makeCpuFull shape value) h
      (fun r h' => r = h.tensors.length ∧
        h' = h.pushFresh shape (List.replicate shape.numel value) none)
      (fun _ _ => False) h.Idled := by
  unfold makeCpuFull
  refine (observes_cpuStorageFilled h value hfits).bind (Heap.Idled.refl h) ?_
  rintro _ rfl
  exact spec_allocationGuard _ (spec_makeSharedTensor h _ _)

theorem spec_cloneDetached {id : TensorId} (wf : WellFormed h) (hid : id < h.tensors.length) :
    Spec (cloneDetached id) h
      (fun r h' => r = h.tensors.length ∧
        h' = h.pushFresh (canonicalShape (h.dims id)) (h.contents id) none)
      (fun _ _ => False) h.Idled := by
  have ht := List.getElem?_eq_getElem hid
  unfold cloneDetached
  refine (observes_readLogicalCpuValues wf ht "autograd_clone").bind (Heap.Idled.refl h) ?_
  rintro _ rfl
  refine (observes_deref ht).bind (Heap.Idled.refl h) ?_
  rintro _ rfl
  have hd := Heap.dims_of ht
  rw [hd]
  refine spec_makeCpuTensor ?_ (wf.placed id _ ht).layout.numel_eq ?_ ?_
  · exact (wf.placed id _ ht).layout.valid
  · rw [wf.length_contents ht, hd]
  · rw [← hd]
    exact wf.fits ht

theorem spec_cloneAsLeaf {id : TensorId} (wf : WellFormed h) (hv : h.Visible id)
    (requiresGrad : Bool) :
    Spec (cloneAsLeaf id requiresGrad) h
      (fun r h' => r = h.tensors.length ∧ h' = h.pushFresh (canonicalShape (h.dims id))
        (h.contents id) (some ⟨requiresGrad, true, none, none⟩))
      (fun _ _ => False) (fun h' => h.Idled h' ∨
        h' = h.pushFresh (canonicalShape (h.dims id)) (h.contents id) none) := by
  unfold cloneAsLeaf
  refine Spec.bind ((spec_cloneDetached wf hv.1).mono (fun _ _ hq => hq) (fun _ _ he => he)
    fun _ hx => Or.inl hx) ?_
  rintro _ _ ⟨rfl, rfl⟩
  refine (observes_allocate _).bind (Or.inr rfl) fun _ _ => ?_
  have hlast : (h.pushFresh (canonicalShape (h.dims id)) (h.contents id) none).tensors[
      h.tensors.length]? = some _ := List.getElem?_concat_length
  refine Spec.bind (Q := fun _ h' => h' = h.pushFresh (canonicalShape (h.dims id))
    (h.contents id) (some ⟨requiresGrad, true, none, none⟩)) ?_ ?_
  · unfold setAutogradMeta
    refine (observes_deref hlast).bind (Or.inr rfl) fun _ _ => ?_
    exact spec_modifyHeap _ (Heap.setMeta_pushFresh h _ _ none _)
  · rintro _ _ rfl
    exact spec_pure ⟨rfl, rfl⟩

theorem observes_version (wf : WellFormed h) {id : TensorId} (hid : id < h.tensors.length) :
    Observes (do version (← deref id) : Mem F Nat) h fun v => v = h.version id := by
  have ht := List.getElem?_eq_getElem hid
  have hp := wf.placed id _ ht
  obtain ⟨values, hs, -⟩ := hp.stored
  have hlt : h.tensors[id].versionCounter < h.counters.length := by
    rw [hp.counter, wf.counters]
    exact (List.getElem?_eq_some_iff.mp hs).1
  have hc := List.getElem?_eq_getElem hlt
  refine (observes_deref ht).bind rfl ?_
  rintro _ rfl
  refine (Tensora.observes_version hc).mono (fun r h' hr => ⟨hr.1, ?_⟩) (fun _ _ he => he)
    fun _ hx => hx
  rw [hr.2]
  simp only [Heap.version, ht, hc]

theorem observes_anyRequiresGrad {parents : List TensorId}
    (hp : ∀ p ∈ parents, p < h.tensors.length) :
    Observes (anyRequiresGrad parents : Mem F Bool) h fun b => b = parents.any h.requiresGrad := by
  induction parents with
  | nil => exact spec_pure ⟨rfl, rfl⟩
  | cons parent parents ih =>
      rw [anyRequiresGrad]
      refine (observes_requiresGrad (List.getElem?_eq_getElem (hp parent (by simp)))).bind rfl ?_
      rintro _ rfl
      refine spec_ite (fun htrue => spec_pure ⟨rfl, by simp [htrue]⟩) fun hfalse => ?_
      refine (ih fun p hmem => hp p (by simp [hmem])).mono (fun r h' hr => ⟨hr.1, ?_⟩)
        (fun _ _ he => he) fun _ hx => hx
      simpa [hfalse] using hr.2

theorem spec_attachNode (wf : WellFormed h) {result : TensorId} {operation : Operation}
    {parents : List TensorId} (hr : result < h.tensors.length)
    (hp : ∀ p ∈ parents, p < h.tensors.length) :
    Spec (attachNode result operation parents) h
      (fun _ h' => h' = if (h.nodeMeta operation parents).isSome then
        h.setMeta result (h.nodeMeta operation parents) else h)
      (fun _ _ => False) (fun h' => h' = h) := by
  unfold attachNode
  refine (observes_anyRequiresGrad hp).bind rfl ?_
  rintro _ rfl
  refine spec_ite (fun hany => ?_) fun hnone => ?_
  · refine (observes_allocate h).bind rfl fun _ _ => ?_
    refine (observes_allocate h).bind rfl fun _ _ => ?_
    have hversions : Observes
        (parents.mapM fun parent => do version (← deref parent) : Mem F (List Nat)) h
        fun vs => vs = parents.map h.version := by
      clear hany
      induction parents with
      | nil => exact spec_pure ⟨rfl, rfl⟩
      | cons parent parents ih =>
          rw [List.mapM_cons]
          refine Observes.bind (observes_version wf (hp parent (by simp))) rfl ?_
          rintro _ rfl
          refine Observes.bind (ih fun p hmem => hp p (by simp [hmem])) rfl ?_
          rintro _ rfl
          exact spec_pure ⟨rfl, rfl⟩
    refine Observes.bind hversions rfl ?_
    rintro _ rfl
    refine (observes_allocate h).bind rfl fun _ _ => ?_
    unfold setAutogradMeta
    refine (observes_deref (List.getElem?_eq_getElem hr)).bind rfl fun _ _ => ?_
    refine spec_modifyHeap _ ?_
    simp [Heap.nodeMeta, hany]
  · refine spec_pure ?_
    simp [Heap.nodeMeta, hnone]

theorem spec_recordUnary (wf : WellFormed h) {result : TensorId} {operation : Operation}
    {input : TensorId} (hr : result < h.tensors.length) (hi : input < h.tensors.length) :
    Spec (recordUnary operation input result) h
      (fun _ h' => h' = if (h.nodeMeta operation [input]).isSome then
        h.setMeta result (h.nodeMeta operation [input]) else h)
      (fun _ _ => False) (fun h' => h' = h) := by
  unfold recordUnary
  refine (observes_requiresGrad (List.getElem?_eq_getElem hi)).bind rfl ?_
  rintro _ rfl
  refine spec_ite (fun hany => ?_) fun hnone => ?_
  · refine (observes_allocate h).bind rfl fun _ _ => ?_
    exact spec_attachNode wf hr (by simpa using hi)
  · refine spec_pure ?_
    simp [Heap.nodeMeta, hnone]

theorem spec_recordBinary (wf : WellFormed h) {result : TensorId} {operation : Operation}
    {left right : TensorId} (hr : result < h.tensors.length) (hleft : left < h.tensors.length)
    (hright : right < h.tensors.length) :
    Spec (recordBinary operation left right result) h
      (fun _ h' => h' = if (h.nodeMeta operation [left, right]).isSome then
        h.setMeta result (h.nodeMeta operation [left, right]) else h)
      (fun _ _ => False) (fun h' => h' = h) := by
  unfold recordBinary
  refine (observes_requiresGrad (List.getElem?_eq_getElem hleft)).bind rfl ?_
  rintro _ rfl
  refine (observes_requiresGrad (List.getElem?_eq_getElem hright)).bind rfl ?_
  rintro _ rfl
  refine spec_ite (fun hany => ?_) fun hnone => ?_
  · refine (observes_allocate h).bind rfl fun _ _ => ?_
    exact spec_attachNode wf hr (by simp [hleft, hright])
  · refine spec_pure ?_
    have hnone' : ([left, right].any h.requiresGrad) = false := by simpa using hnone
    simp [Heap.nodeMeta, hnone']

end Triples

end Autograd

section Finish
variable [Scalar F] [Scalar D] [Precision F D]
variable {h : Heap F} {operation : Operation} {parents : List TensorId} {dims : List Nat}

omit [Scalar F] in
theorem nodeMeta_extend {h' : Heap F} (wf : WellFormed h) (e : h.Extends h')
    (hv : ∀ p ∈ parents, h.Visible p) : h'.nodeMeta operation parents =
      h.nodeMeta operation parents := by
  have hany : parents.any h'.requiresGrad = parents.any h.requiresGrad := by
    rw [Bool.eq_iff_iff, List.any_eq_true, List.any_eq_true]
    exact exists_congr fun p => and_congr_right fun hp => by rw [e.requiresGrad (hv p hp).1]
  have hversion : parents.map h'.version = parents.map h.version :=
    List.map_congr_left fun p hp => e.version wf (hv p hp).1
  simp only [Heap.nodeMeta, hany, hversion]

theorem spec_makeRecorded {make : Mem F TensorId} {record : TensorId → Mem F Unit}
    {plain : Heap F} {finish : Option AutogradMeta → Heap F} {t : Tensor} (wf : WellFormed h)
    (hv : ∀ p ∈ parents, h.Visible p)
    (hmake : Spec make h (fun r h' => r = h.tensors.length ∧ h' = plain)
      (fun _ _ => False) h.Idled)
    (hpush : h.Pushable plain t) (hmeta : t.autogradMeta = none)
    (hfinish : ∀ m, plain.setMeta h.tensors.length m = finish m) (hplain : finish none = plain)
    (hrecord : WellFormed plain → ∀ r < plain.tensors.length, Spec (record r) plain
      (fun _ h' => h' = if (plain.nodeMeta operation parents).isSome then
        plain.setMeta r (plain.nodeMeta operation parents) else plain)
      (fun _ _ => False) (fun h' => h' = plain))
    (hprod : Produced D h (finish (h.nodeMeta operation parents)) operation parents dims) :
    Spec (do let out ← make; record out; return out) h
      (fun r h' => r = h.tensors.length ∧ Produced D h h' operation parents dims)
      (fun _ _ => False) (Forwarded D h) := by
  refine Spec.bind (hmake.mono (fun _ _ hq => hq) (fun _ _ he => he) ?_) ?_
  · exact fun _ hx => hx.forwarded wf
  · rintro _ plain ⟨rfl, rfl⟩
    have wf' := hpush.wellFormed wf
    have hlast : h.tensors.length < plain.tensors.length := by
      rw [hpush.length]
      exact Nat.lt_succ_self _
    refine Spec.bind ((hrecord wf' _ hlast).mono (fun _ _ hq => hq) (fun _ _ he => he) ?_) ?_
    · rintro _ rfl
      exact forwarded_plain wf hpush (by simp [Tensor.gradFn, hmeta])
    · rintro _ _ rfl
      refine spec_pure ⟨rfl, ?_⟩
      rw [nodeMeta_extend wf hpush.extension hv, hfinish]
      cases hm : h.nodeMeta operation parents with
      | none =>
          rw [hm] at hprod
          simpa [hplain] using hprod
      | some m =>
          rw [hm] at hprod
          simpa using hprod

abbrev Records (record : TensorId → Mem F Unit) (operation : Operation)
    (parents : List TensorId) : Prop :=
  ∀ plain : Heap F, WellFormed plain → ∀ r < plain.tensors.length,
    (∀ p ∈ parents, p < plain.tensors.length) →
    Spec (record r) plain
      (fun _ h' => h' = if (plain.nodeMeta operation parents).isSome then
        plain.setMeta r (plain.nodeMeta operation parents) else plain)
      (fun _ _ => False) (fun h' => h' = plain)

omit [Scalar F] in
theorem records_unary (operation : Operation) (input : TensorId) :
    Records (Autograd.recordUnary operation input : TensorId → Mem F Unit) operation [input] :=
  fun _ wf _ hr hp => Autograd.spec_recordUnary wf hr (hp input (by simp))

omit [Scalar F] in
theorem records_binary (operation : Operation) (left right : TensorId) :
    Records (Autograd.recordBinary operation left right : TensorId → Mem F Unit) operation
      [left, right] :=
  fun _ wf _ hr hp =>
    Autograd.spec_recordBinary wf hr (hp left (by simp)) (hp right (by simp))

theorem spec_materialize {make : Mem F TensorId} {record : TensorId → Mem F Unit}
    {values : List F} (wf : WellFormed h) (hv : ∀ p ∈ parents, h.Visible p)
    (hs : OpShapes operation (parents.map h.dims) dims) (hd : ValidDims dims)
    (hlen : values.length = dims.prod) (hfits : dims.prod ≤ kMaxFloats)
    (hvalue : values = forwardValues D (Training.codeFunctions F D) operation
      (parents.map h.dims) (parents.map h.contents))
    (hmake : Spec make h
      (fun r h' => r = h.tensors.length ∧ h' = h.pushFresh (canonicalShape dims) values none)
      (fun _ _ => False) h.Idled)
    (hrecord : Records record operation parents) :
    Spec (do let out ← make; record out; return out) h
      (fun r h' => r = h.tensors.length ∧ Produced D h h' operation parents dims)
      (fun _ _ => False) (Forwarded D h) := by
  have hpush := pushable_fresh wf (canonicalShape_canonical hd).layout hlen hfits
    (metaPushable_none h dims)
  refine spec_makeRecorded wf hv hmake hpush rfl
    (fun m => Heap.setMeta_pushFresh h (canonicalShape dims) values none m) rfl ?_
    (produced_fresh wf hv hs hd hlen hfits hvalue)
  intro wf' r hr
  refine hrecord _ wf' r hr fun p hp => ?_
  exact (hv p hp).1.trans_le hpush.extension.length_le

theorem spec_view {make : Mem F TensorId} {record : TensorId → Mem F Unit} {id : TensorId}
    {source : Tensor} {shape : ShapeInfo} (wf : WellFormed h)
    (hsource : h.tensors[id]? = some source) (hid : h.Visible id)
    (hv : ∀ p ∈ parents, h.Visible p)
    (hs : OpShapes operation (parents.map h.dims) shape.dimensions) (hlayout : shape.Layout)
    (hn : shape.numel = source.numel)
    (hrow : operation ≠ .transpose2D → shape.strides = rowMajorStrides shape.dimensions)
    (hvalue : (h.pushView shape source (h.nodeMeta operation parents)).contents h.tensors.length =
      forwardValues D (Training.codeFunctions F D) operation
        (parents.map h.dims) (parents.map h.contents))
    (hmake : Spec make h
      (fun r h' => r = h.tensors.length ∧ h' = h.pushView shape source none)
      (fun _ _ => False) (fun h' => h' = h))
    (hrecord : Records record operation parents) :
    Spec (do let out ← make; record out; return out) h
      (fun r h' => r = h.tensors.length ∧ Produced D h h' operation parents shape.dimensions)
      (fun _ _ => False) (Forwarded D h) := by
  have hpush := pushable_view wf hsource hid hlayout hn (metaPushable_none h shape.dimensions)
  have hmade : Spec make h
      (fun r h' => r = h.tensors.length ∧ h' = h.pushView shape source none)
      (fun _ _ => False) h.Idled :=
    hmake.mono (fun _ _ hq => hq) (fun _ _ he => he) fun _ => Or.inl
  refine spec_makeRecorded wf hv hmade hpush rfl
    (fun m => Heap.setMeta_pushView h shape source none m) rfl ?_ ?_
  · intro wf' r hr
    refine hrecord _ wf' r hr fun p hp => ?_
    exact (hv p hp).1.trans_le hpush.extension.length_le
  · exact {
      pushed := ⟨_, pushable_view wf hsource hid hlayout hn (metaPushable_node hv hs), rfl, rfl⟩
      visible := hv
      shapes := hs
      rowMajor := fun hop => by
        have hpush := pushable_view wf hsource hid hlayout hn (metaPushable_node hv hs)
        rw [Heap.contiguous_of hpush.last]
        exact (Tensor.isContiguous_iff hlayout).mpr (hrow hop)
      value := hvalue }

end Finish

end Tensora
