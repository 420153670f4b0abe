import Tensora.Tensor.HeapSteps

/-! What each write to the tables leaves alone: scratch tensors added, the storage
of an owned tensor overwritten, the gradient of a leaf replaced. -/
namespace Tensora
open CheckedLoop

variable {F : Type}

structure Plain (h h' : Heap F) : Prop where
  extension : h.Extends h'
  wellFormed : WellFormed h'
  added : ∀ id t, h'.tensors[id]? = some t → h.tensors.length ≤ id →
    t.autogradMeta = none ∧ h.storages.length ≤ t.storage

namespace Plain
variable {h h' h'' : Heap F}

theorem idled (wf : WellFormed h) (x : h.Idled h') : Plain h h' where
  extension := x.extends
  wellFormed := x.wellFormed wf
  added := by
    intro id t ht hle
    rw [x.tensors] at ht
    exact absurd (List.getElem?_eq_some_iff.mp ht).1 (Nat.not_lt.mpr hle)

theorem refl (wf : WellFormed h) : Plain h h := idled wf (Heap.Idled.refl h)

theorem trans (a : Plain h h') (b : Plain h' h'') : Plain h h'' where
  extension := a.extension.trans b.extension
  wellFormed := b.wellFormed
  added := by
    intro id t ht hle
    rcases Nat.lt_or_ge id h'.tensors.length with hlt | hge
    · rw [b.extension.get_of_lt hlt] at ht
      exact a.added id t ht hle
    · obtain ⟨hm, hs⟩ := b.added id t ht hge
      exact ⟨hm, a.extension.storages.length_le.trans hs⟩

theorem fresh_of_layout (wf : WellFormed h) {shape : ShapeInfo} {values : List F}
    (hlayout : shape.Layout) (hlen : values.length = shape.numel)
    (hfits : shape.numel ≤ kMaxFloats) :
    Plain h (h.pushFresh shape values none) := by
  have hp := pushable_fresh wf hlayout hlen hfits (metaPushable_none h shape.dimensions)
  refine ⟨hp.extension, hp.wellFormed wf, fun id t ht hle => ?_⟩
  rcases hp.get_cases ht with hold | ⟨-, rfl⟩
  · exact absurd (List.getElem?_eq_some_iff.mp hold).1 (Nat.not_lt.mpr hle)
  · exact ⟨rfl, Nat.le_refl _⟩

theorem fresh (wf : WellFormed h) {dims : List Nat} {values : List F} (hd : ValidDims dims)
    (hlen : values.length = dims.prod) (hfits : dims.prod ≤ kMaxFloats) :
    Plain h (h.pushFresh (canonicalShape dims) values none) :=
  fresh_of_layout wf (canonicalShape_canonical hd).layout hlen hfits

section Facts
variable (p : Plain h h')
include p

theorem autogradMeta_eq {id : TensorId} : h'.autogradMeta id = h.autogradMeta id := by
  rcases Nat.lt_or_ge id h.tensors.length with hlt | hge
  · exact p.extension.autogradMeta hlt
  · have hnone : h.autogradMeta id = none := by
      rw [Heap.autogradMeta, List.getElem?_eq_none hge]
      rfl
    rw [hnone]
    cases ht : h'.tensors[id]? with
    | none => simp [Heap.autogradMeta, ht]
    | some t => rw [Heap.autogradMeta_of ht, (p.added id t ht hge).1]

theorem gradient_eq {id : TensorId} : h'.gradient id = h.gradient id := by
  rw [Heap.gradient, p.autogradMeta_eq, Heap.gradient]

theorem gradFn_eq {id : TensorId} : h'.gradFn id = h.gradFn id := by
  rw [Heap.gradFn, p.autogradMeta_eq, Heap.gradFn]

theorem requiresGrad_eq {id : TensorId} : h'.requiresGrad id = h.requiresGrad id := by
  simp only [Heap.requiresGrad, p.autogradMeta_eq]

theorem visible {id : TensorId} (hv : h.Visible id) : h'.Visible id :=
  ⟨hv.1.trans_le p.extension.length_le, fun leaf hg => hv.2 leaf (by rwa [p.gradient_eq] at hg)⟩

theorem added_visible (wf : WellFormed h) {id : TensorId} (hle : h.tensors.length ≤ id)
    (hlt : id < h'.tensors.length) : h'.Visible id := by
  refine ⟨hlt, fun leaf hg => ?_⟩
  rw [p.gradient_eq] at hg
  obtain ⟨⟨t, ht, -⟩, -⟩ := wf.owned leaf id hg
  exact absurd (List.getElem?_eq_some_iff.mp ht).1 (Nat.not_lt.mpr hle)

theorem owned (wf : WellFormed h) {g : TensorId} {dims : List Nat} (ho : Owned h g dims) :
    Owned h' g dims where
  tensor := by
    obtain ⟨t, ht, hm, hshape, hunique⟩ := ho.tensor
    refine ⟨t, p.extension.get ht, hm, hshape, fun id t' ht' hs => ?_⟩
    rcases Nat.lt_or_ge id h.tensors.length with hlt | hge
    · rw [p.extension.get_of_lt hlt] at ht'
      exact hunique id t' ht' hs
    · have hnew := (p.added id t' ht' hge).2
      obtain ⟨values, hval, -⟩ := (wf.placed g t ht).stored
      have hold : t.storage < h.storages.length := (List.getElem?_eq_some_iff.mp hval).1
      rw [← hs] at hold
      exact absurd hold (Nat.not_lt.mpr hnew)
  not_parent := by
    intro id node hn
    rw [p.gradFn_eq] at hn
    exact ho.not_parent id node hn

theorem gradientContents_eq (wf : WellFormed h) : h'.gradientContents = h.gradientContents := by
  funext leaf
  rw [Heap.gradientContents, Heap.gradientContents, p.gradient_eq]
  cases hg : h.gradient leaf with
  | none => rfl
  | some g =>
      obtain ⟨⟨t, ht, -⟩, -⟩ := wf.owned leaf g hg
      rw [Option.map_some, Option.map_some,
        p.extension.contents wf (List.getElem?_eq_some_iff.mp ht).1]

end Facts

theorem fresh_owned (wf : WellFormed h) {dims : List Nat} {values : List F} (hd : ValidDims dims)
    (hlen : values.length = dims.prod) (hfits : dims.prod ≤ kMaxFloats) :
    Owned (h.pushFresh (canonicalShape dims) values none) h.tensors.length dims := by
  have hp := pushable_fresh wf (canonicalShape_canonical hd).layout hlen hfits
    (metaPushable_none h dims)
  have plain := Plain.fresh wf hd hlen hfits
  refine ⟨⟨_, hp.last, rfl, rfl, fun id t' ht' hs => ?_⟩, fun id node hn hmem => ?_⟩
  · rcases hp.get_cases ht' with hold | ⟨rfl, -⟩
    · obtain ⟨values', hval, -⟩ := (wf.placed id t' hold).stored
      have hlt := (List.getElem?_eq_some_iff.mp hval).1
      exact absurd hs (Nat.ne_of_lt hlt)
    · rfl
  · rw [plain.gradFn_eq] at hn
    have := (wf.parent_visible hn hmem).1
    exact Nat.lt_irrefl _ this

end Plain

namespace Owned
variable {h : Heap F} {g : TensorId} {dims : List Nat} {t : Tensor} {values : List F}

theorem lt (ho : Owned h g dims) : g < h.tensors.length := by
  obtain ⟨t, ht, -⟩ := ho.tensor
  exact (List.getElem?_eq_some_iff.mp ht).1

theorem dims_eq (ho : Owned h g dims) : h.dims g = dims := by
  obtain ⟨t, ht, -, hshape, -⟩ := ho.tensor
  rw [Heap.dims_of ht, hshape]
  rfl

theorem contiguous (wf : WellFormed h) (ho : Owned h g dims) : h.contiguous g = true := by
  obtain ⟨t, ht, -, hshape, -⟩ := ho.tensor
  rw [Heap.contiguous_of ht]
  refine (Tensor.isContiguous_iff (wf.placed g t ht).layout).mpr ?_
  rw [hshape]
  rfl

theorem setStorage (ho : Owned h g dims) (s : StorageId) (values : List F) :
    Owned (h.setStorage s values) g dims := ⟨ho.tensor, ho.not_parent⟩

end Owned

namespace Heap
variable {h : Heap F} {values : List F}

theorem placed_setStorage {t : Tensor} (hp : Placed h t) {s : StorageId}
    (hlen : ∀ old, h.storages[s]? = some old → old.length = values.length) :
    Placed (h.setStorage s values) t where
  device := hp.device
  deviceIndex := hp.deviceIndex
  offset := hp.offset
  counter := hp.counter
  layout := hp.layout
  fits := hp.fits
  stored := by
    obtain ⟨old, hold, hn⟩ := hp.stored
    simp only [Heap.setStorage, List.getElem?_set]
    by_cases hs : s = t.storage
    · subst hs
      rw [if_pos rfl, if_pos (List.getElem?_eq_some_iff.mp hold).1]
      exact ⟨values, rfl, (hlen old hold).symm.trans hn⟩
    · rw [if_neg hs]
      exact ⟨old, hold, hn⟩

/-- The invariant of the metadata depends on the tables only through the dimensions. -/
theorem metaOk_of_dims {h' : Heap F} {id : TensorId} {m : AutogradMeta} (hd : h'.dims = h.dims)
    (hm : MetaOk h id m) : MetaOk h' id m := by
  unfold MetaOk at hm ⊢
  cases hn : m.gradFn with
  | none => simpa only [hn] using hm
  | some node =>
      simp only [hn] at hm ⊢
      obtain ⟨hreq, hleaf, hgrad, hnode⟩ := hm
      refine ⟨hreq, hleaf, hgrad, hnode.versions, hnode.earlier, ?_⟩
      rw [hd]
      exact hnode.shapes

theorem wellFormed_of_tables {h' : Heap F} (wf : WellFormed h) (ht : h'.tensors = h.tensors)
    (hs : h'.storages = h.storages) (hc : h'.counters.length = h.counters.length) :
    WellFormed h' := by
  have hmeta : h'.autogradMeta = h.autogradMeta := by
    funext id
    simp only [Heap.autogradMeta, ht]
  have hdims : h'.dims = h.dims := by
    funext id
    simp only [Heap.dims, ht]
  have hgrad : h'.gradient = h.gradient := by
    funext id
    simp only [Heap.gradient, hmeta]
  refine ⟨?_, fun id t hget => ?_, fun id m hm => ?_, fun leaf g hg => ?_, ?_⟩
  · rw [hc, hs]
    exact wf.counters
  · rw [ht] at hget
    have hp := wf.placed id t hget
    refine ⟨hp.device, hp.deviceIndex, hp.offset, hp.counter, hp.layout, ?_, hp.fits⟩
    rw [hs]
    exact hp.stored
  · rw [hmeta] at hm
    exact metaOk_of_dims hdims (wf.recorded id m hm)
  · rw [hgrad] at hg
    have ho := wf.owned leaf g hg
    refine ⟨?_, fun id node hn => ?_⟩
    · rw [ht, hdims]
      exact ho.tensor
    · rw [Heap.gradFn, hmeta] at hn
      exact ho.not_parent id node hn
  · rw [hgrad]
    exact wf.unique

theorem wellFormed_setStorage (wf : WellFormed h) {s : StorageId}
    (hlen : ∀ old, h.storages[s]? = some old → old.length = values.length) :
    WellFormed (h.setStorage s values) where
  counters := by
    rw [Heap.setStorage, List.length_set]
    exact wf.counters
  placed := fun id t ht => placed_setStorage (wf.placed id t ht) hlen
  recorded := fun id m hm => metaOk_of_dims (h := h) rfl (wf.recorded id m hm)
  owned := fun leaf g hg => (wf.owned leaf g hg).setStorage s values
  unique := wf.unique

theorem Accounted.setStorage (a : h.Accounted) (s : StorageId) (values : List F) :
    (h.setStorage s values).Accounted where
  draws := a.draws.imp fun _ d => d.congr rfl rfl
  next := a.next
  backed := fun s' hs => a.backed s' (by rwa [Heap.setStorage, List.length_set] at hs)

/-- A vector is replaced by one of its length. -/
theorem constructedBytes_setStorage {s : StorageId} {old : List F}
    (hold : h.storages[s]? = some old)
    (hlen : old.length = values.length) :
    (h.setStorage s values).constructedBytes = h.constructedBytes := by
  obtain ⟨hlt, rfl⟩ := List.getElem?_eq_some_iff.mp hold
  unfold constructedBytes Heap.setStorage
  congr 1
  apply List.ext_getElem
  · simp
  · intro i _ hi
    simp only [List.getElem_map, List.getElem_set]
    split
    · subst i
      rw [byteSize, byteSize, hlen]
    · rfl

theorem Charged.setStorage {freed : Nat} (c : h.Charged freed) {s : StorageId} {old : List F}
    (hold : h.storages[s]? = some old) (hlen : old.length = values.length) :
    (h.setStorage s values).Charged freed := by
  rw [Charged, constructedBytes_setStorage hold hlen]
  exact c

theorem read_setStorage_of_ne {t : Tensor} {s : StorageId} (hs : t.storage ≠ s) :
    (h.setStorage s values).read t = h.read t := by
  simp only [Heap.read, Heap.setStorage, List.getD_eq_getElem?_getD, List.getElem?_set,
    if_neg (Ne.symm hs)]

theorem contents_setStorage_of_ne {id : TensorId} {s : StorageId}
    (hs : ∀ t, h.tensors[id]? = some t → t.storage ≠ s) :
    (h.setStorage s values).contents id = h.contents id := by
  cases ht : h.tensors[id]? with
  | none => simp only [Heap.contents, Heap.setStorage, ht]
  | some t =>
      have ht' : (h.setStorage s values).tensors[id]? = some t := ht
      rw [contents_of ht', contents_of ht, read_setStorage_of_ne (hs t ht)]

theorem contents_setStorage_self {id : TensorId} {t : Tensor} (wf : WellFormed h)
    (ht : h.tensors[id]? = some t) (hc : t.shape.strides = rowMajorStrides t.shape.dimensions)
    (hlen : values.length = t.numel) :
    (h.setStorage t.storage values).contents id = values := by
  have hp := wf.placed id t ht
  obtain ⟨old, hold, hn⟩ := hp.stored
  have ht' : (h.setStorage t.storage values).tensors[id]? = some t := ht
  rw [contents_of ht']
  refine (placed_setStorage hp fun old' hold' => ?_).read_contiguous ?_ hc
  · obtain rfl : old = old' := Option.some.inj (hold.symm.trans hold')
    rw [hn, hlen]
  · simp only [Heap.setStorage]
    rw [List.getElem?_set_self (List.getElem?_eq_some_iff.mp hold).1]

structure Overwritten (h h' : Heap F) (g : TensorId) (values : List F) : Prop where
  tensors : h'.tensors = h.tensors
  counters : h'.counters = h.counters
  mutations : h'.mutations = h.mutations
  wellFormed : WellFormed h'
  accounted : h.Accounted → h'.Accounted
  charged : ∀ freed, h.Charged freed → h'.Charged freed
  contents : h'.contents = Function.update h.contents g values

theorem overwritten {g : TensorId} {dims : List Nat} {t : Tensor} (wf : WellFormed h)
    (ho : Owned h g dims) (ht : h.tensors[g]? = some t) (hlen : values.length = dims.prod) :
    h.Overwritten (h.setStorage t.storage values) g values := by
  obtain ⟨t', ht', -, hshape, hunique⟩ := ho.tensor
  obtain rfl : t = t' := Option.some.inj (ht.symm.trans ht')
  have hp := wf.placed g t ht
  have hnumel : values.length = t.numel := by
    rw [hlen, Tensor.numel, hp.layout.numel_eq, hshape]
    rfl
  obtain ⟨old, hold, hn⟩ := hp.stored
  refine ⟨rfl, rfl, rfl, wellFormed_setStorage wf fun old' hold' => ?_,
    fun a => a.setStorage _ _, fun _ c => c.setStorage hold (hn.trans hnumel.symm), ?_⟩
  · obtain rfl : old = old' := Option.some.inj (hold.symm.trans hold')
    rw [hn, hnumel]
  · funext id
    by_cases hid : id = g
    · subst hid
      rw [Function.update_self]
      exact contents_setStorage_self wf ht (by rw [hshape]; rfl) hnumel
    · rw [Function.update_of_ne hid]
      exact contents_setStorage_of_ne fun t' ht' hs => hid (hunique id t' ht' hs)

namespace Overwritten
variable {h' : Heap F} {g : TensorId} (o : h.Overwritten h' g values)
include o

theorem autogradMeta_eq {id : TensorId} : h'.autogradMeta id = h.autogradMeta id := by
  simp only [Heap.autogradMeta, o.tensors]

theorem gradient_eq {id : TensorId} : h'.gradient id = h.gradient id := by
  rw [Heap.gradient, o.autogradMeta_eq, Heap.gradient]

theorem gradFn_eq {id : TensorId} : h'.gradFn id = h.gradFn id := by
  rw [Heap.gradFn, o.autogradMeta_eq, Heap.gradFn]

theorem visible {id : TensorId} (hv : h.Visible id) : h'.Visible id :=
  ⟨by rw [o.tensors]; exact hv.1, fun leaf hg => hv.2 leaf (by rwa [o.gradient_eq] at hg)⟩

theorem owned {g' : TensorId} {dims : List Nat} (ho : Owned h g' dims) : Owned h' g' dims where
  tensor := by
    rw [o.tensors]
    exact ho.tensor
  not_parent := by
    intro id node hn
    rw [o.gradFn_eq] at hn
    exact ho.not_parent id node hn

end Overwritten

theorem get_setMeta {id : TensorId} {m : Option AutogradMeta} {i : TensorId} :
    (h.setMeta id m).tensors[i]? =
      if i = id then h.tensors[i]?.map fun t => { t with autogradMeta := m }
      else h.tensors[i]? := by
  simp only [setMeta, List.getElem?_modify]
  by_cases hi : i = id
  · subst hi
    simp
  · simp [hi, Ne.symm hi]

theorem autogradMeta_setMeta {id : TensorId} {m : Option AutogradMeta} (hid : id < h.tensors.length)
    {i : TensorId} :
    (h.setMeta id m).autogradMeta i = if i = id then m else h.autogradMeta i := by
  simp only [Heap.autogradMeta, get_setMeta]
  by_cases hi : i = id
  · subst hi
    rw [if_pos rfl, if_pos rfl, List.getElem?_eq_getElem hid]
    rfl
  · rw [if_neg hi, if_neg hi]

theorem placed_setMeta {id : TensorId} {m : Option AutogradMeta} {t : Tensor} (hp : Placed h t) :
    Placed (h.setMeta id m) t := ⟨hp.device, hp.deviceIndex, hp.offset, hp.counter, hp.layout,
      hp.stored, hp.fits⟩

theorem contents_setMeta {id : TensorId} {m : Option AutogradMeta} (i : TensorId) :
    (h.setMeta id m).contents i = h.contents i := by
  simp only [Heap.contents, get_setMeta]
  by_cases hi : i = id
  · rw [if_pos hi]
    cases h.tensors[i]? <;> rfl
  · rw [if_neg hi]
    rfl

theorem dims_setMeta {id : TensorId} {m : Option AutogradMeta} (i : TensorId) :
    (h.setMeta id m).dims i = h.dims i := by
  simp only [Heap.dims, get_setMeta]
  by_cases hi : i = id
  · rw [if_pos hi]
    cases h.tensors[i]? <;> rfl
  · rw [if_neg hi]

theorem length_setMeta (id : TensorId) (m : Option AutogradMeta) :
    (h.setMeta id m).tensors.length = h.tensors.length := by
  simp [setMeta]

theorem Accounted.setMeta (a : h.Accounted) (id : TensorId) (m : Option AutogradMeta) :
    (h.setMeta id m).Accounted where
  draws := a.draws.imp fun _ d => d.congr rfl rfl
  next := a.next
  backed := by
    intro s hs
    obtain ⟨t, ht, hstorage⟩ := a.backed s hs
    obtain ⟨i, hi⟩ := List.mem_iff_getElem?.mp ht
    by_cases hid : i = id
    · refine ⟨{ t with autogradMeta := m }, List.mem_of_getElem? (i := i) ?_, hstorage⟩
      rw [get_setMeta, if_pos hid, hi]
      rfl
    · refine ⟨t, List.mem_of_getElem? (i := i) ?_, hstorage⟩
      rw [get_setMeta, if_neg hid, hi]

theorem setMeta_self {id : TensorId} {m : AutogradMeta} (hm : h.autogradMeta id = some m) :
    h.setMeta id (some m) = h := by
  have htensors : (h.setMeta id (some m)).tensors = h.tensors := by
    apply List.ext_getElem?
    intro i
    rw [get_setMeta]
    by_cases hi : i = id
    · subst hi
      rw [if_pos rfl]
      cases ht : h.tensors[i]? with
      | none => rfl
      | some t =>
          rw [autogradMeta_of ht] at hm
          simp only [Option.map_some, ← hm]
    · rw [if_neg hi]
  cases h
  simp only [setMeta] at htensors ⊢
  rw [htensors]

end Heap

/-- The metadata of a tensor replaced; its node, if it has one, stays. -/
structure Retagged (h h' : Heap F) (id : TensorId) (m : AutogradMeta) : Prop where
  tensors : h' = h.setMeta id (some m)
  lt : id < h.tensors.length
  node : m.gradFn = h.gradFn id

namespace Retagged
variable {h h' : Heap F} {id : TensorId} {m : AutogradMeta} (r : Retagged h h' id m)
include r

theorem autogradMeta_eq (i : TensorId) :
    h'.autogradMeta i = if i = id then some m else h.autogradMeta i := by
  rw [r.tensors, Heap.autogradMeta_setMeta r.lt]

theorem settled (z : h.Settled) (hm : m.requiresGrad = false → m.gradient = none) :
    h'.Settled := by
  intro i hoff
  rw [Heap.requiresGrad, r.autogradMeta_eq] at hoff
  rw [Heap.gradient, r.autogradMeta_eq]
  by_cases hi : i = id
  · rw [if_pos hi] at hoff ⊢
    exact hm hoff
  · rw [if_neg hi] at hoff ⊢
    exact z i hoff

theorem gradFn_eq (i : TensorId) : h'.gradFn i = h.gradFn i := by
  rw [Heap.gradFn, r.autogradMeta_eq]
  by_cases hi : i = id
  · subst hi
    rw [if_pos rfl, Option.bind_some, r.node]
  · rw [if_neg hi, Heap.gradFn]

theorem gradient_eq (i : TensorId) :
    h'.gradient i = if i = id then m.gradient else h.gradient i := by
  rw [Heap.gradient, r.autogradMeta_eq]
  by_cases hi : i = id
  · rw [if_pos hi, if_pos hi, Option.bind_some]
  · rw [if_neg hi, if_neg hi, Heap.gradient]

theorem owned {g : TensorId} {dims : List Nat} (ho : Owned h g dims) (hne : g ≠ id) :
    Owned h' g dims where
  tensor := by
    obtain ⟨t, ht, hm, hshape, hunique⟩ := ho.tensor
    refine ⟨t, ?_, hm, hshape, fun i t' ht' hs => ?_⟩
    · rw [r.tensors, Heap.get_setMeta, if_neg hne, ht]
    · rw [r.tensors, Heap.get_setMeta] at ht'
      by_cases hi : i = id
      · rw [if_pos hi] at ht'
        cases hti : h.tensors[i]? with
        | none => rw [hti] at ht'; cases ht'
        | some ti =>
            rw [hti] at ht'
            cases ht'
            exact hunique i ti hti hs
      · rw [if_neg hi] at ht'
        exact hunique i t' ht' hs
  not_parent := by
    intro i node hn
    rw [r.gradFn_eq] at hn
    exact ho.not_parent i node hn

theorem wellFormed (wf : WellFormed h) (hv : h.Visible id) (hmeta : h.gradFn id = none)
    (hleaf : m.isLeaf = true)
    (hgrad : ∀ g, m.gradient = some g → Owned h g (h.dims id) ∧ g ≠ id ∧
      ∀ leaf, h.gradient leaf = some g → leaf = id) : WellFormed h' where
  counters := by
    rw [r.tensors]
    exact wf.counters
  placed := by
    intro i t ht
    rw [r.tensors, Heap.get_setMeta] at ht
    have hplaced : Placed h t := by
      by_cases hi : i = id
      · rw [if_pos hi] at ht
        cases hti : h.tensors[i]? with
        | none => rw [hti] at ht; cases ht
        | some ti =>
            rw [hti] at ht
            cases ht
            have hp := wf.placed i ti hti
            exact ⟨hp.device, hp.deviceIndex, hp.offset, hp.counter, hp.layout, hp.stored, hp.fits⟩
      · rw [if_neg hi] at ht
        exact wf.placed i t ht
    rw [r.tensors]
    exact Heap.placed_setMeta hplaced
  recorded := by
    intro i m' hm
    rw [r.autogradMeta_eq] at hm
    by_cases hi : i = id
    · rw [if_pos hi] at hm
      cases hm
      have hnode : m.gradFn = none := r.node.trans hmeta
      unfold MetaOk
      simp only [hnode]
      exact hleaf
    · rw [if_neg hi] at hm
      refine Heap.metaOk_of_dims ?_ (wf.recorded i m' hm)
      funext j
      rw [r.tensors, Heap.dims_setMeta]
  owned := by
    intro leaf g hg
    have hd : h'.dims leaf = h.dims leaf := by rw [r.tensors, Heap.dims_setMeta]
    rw [r.gradient_eq] at hg
    rw [hd]
    by_cases hl : leaf = id
    · subst hl
      rw [if_pos rfl] at hg
      obtain ⟨ho, hne, -⟩ := hgrad g hg
      exact r.owned ho hne
    · rw [if_neg hl] at hg
      refine r.owned (wf.owned leaf g hg) ?_
      rintro rfl
      exact hv.2 leaf hg
  unique := by
    intro leaf leaf' g hg hg'
    rw [r.gradient_eq] at hg hg'
    by_cases hl : leaf = id
    · by_cases hl' : leaf' = id
      · rw [hl, hl']
      · rw [if_pos hl] at hg
        rw [if_neg hl'] at hg'
        exact absurd ((hgrad g hg).2.2 leaf' hg') hl'
    · rw [if_neg hl] at hg
      by_cases hl' : leaf' = id
      · rw [if_pos hl'] at hg'
        exact absurd ((hgrad g hg').2.2 leaf hg) hl
      · rw [if_neg hl'] at hg'
        exact wf.unique leaf leaf' g hg hg'

end Retagged

end Tensora
