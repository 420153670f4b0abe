import Tensora.Tensor.HeapInvariant

/-! What the programs of the core do to the tables: they append tensors, with or
without a storage of their own. Everything already there reads as before. -/
namespace Tensora
open CheckedLoop

variable {F : Type}

namespace Heap

def pushFresh (h : Heap F) (shape : ShapeInfo) (values : List F)
    (autogradMeta : Option AutogradMeta) : Heap F :=
  { h with
    storages := h.storages ++ [values]
    counters := h.counters ++ [{ value := 0, identity := h.nextIdentity }]
    tensors := h.tensors ++ [{
      shape := shape
      storage := h.storages.length
      dtype := .float32
      device := .cpu
      deviceIndex := 0
      storageOffset := 0
      versionCounter := h.counters.length
      autogradMeta := autogradMeta }]
    nextIdentity := add64 h.nextIdentity 1
    drawn := h.drawn + 1
    liveBytes := add64 h.liveBytes (byteSize values) }

def pushView (h : Heap F) (shape : ShapeInfo) (source : Tensor)
    (autogradMeta : Option AutogradMeta) : Heap F :=
  { h with tensors := h.tensors ++ [{ source with shape := shape, autogradMeta := autogradMeta }] }

def nodeMeta (h : Heap F) (operation : Operation) (parents : List TensorId) :
    Option AutogradMeta :=
  if parents.any h.requiresGrad then
    some {
      requiresGrad := true
      isLeaf := false
      gradient := none
      gradFn := some {
        operation := operation
        parents := parents
        parentVersions := parents.map h.version } }
  else none

private theorem modify_last {α : Type} (xs : List α) (x : α) (f : α → α) :
    (xs ++ [x]).modify xs.length f = xs ++ [f x] := by
  induction xs with
  | nil => rfl
  | cons y ys ih => simp [List.modify_succ_cons, ih]

theorem setMeta_pushFresh (h : Heap F) (shape : ShapeInfo) (values : List F)
    (m m' : Option AutogradMeta) :
    (h.pushFresh shape values m).setMeta h.tensors.length m' = h.pushFresh shape values m' := by
  simp [setMeta, pushFresh, modify_last]

theorem setMeta_pushView (h : Heap F) (shape : ShapeInfo) (source : Tensor)
    (m m' : Option AutogradMeta) :
    (h.pushView shape source m).setMeta h.tensors.length m' = h.pushView shape source m' := by
  simp [setMeta, pushView, modify_last]

private theorem prefix_get {α : Type} {xs ys : List α} (h : xs <+: ys) {i : Nat} {x : α}
    (hx : xs[i]? = some x) : ys[i]? = some x := by
  obtain ⟨zs, rfl⟩ := h
  rw [List.getElem?_append_left (List.getElem?_eq_some_iff.mp hx).1]
  exact hx

def CountersGrow (counters counters' : List VersionCounter) : Prop :=
  ∃ fresh, counters' = counters ++ fresh ∧ ∀ c ∈ fresh, c.value = 0

theorem CountersGrow.refl (counters : List VersionCounter) : CountersGrow counters counters :=
  ⟨[], (List.append_nil _).symm, by simp⟩

theorem CountersGrow.trans {a b c : List VersionCounter} (x : CountersGrow a b)
    (y : CountersGrow b c) : CountersGrow a c := by
  obtain ⟨fresh, rfl, hx⟩ := x
  obtain ⟨fresh', rfl, hy⟩ := y
  refine ⟨fresh ++ fresh', List.append_assoc _ _ _, fun c hc => ?_⟩
  exact (List.mem_append.mp hc).elim (hx c) (hy c)

theorem CountersGrow.isPrefix {a b : List VersionCounter} (x : CountersGrow a b) : a <+: b := by
  obtain ⟨fresh, rfl, -⟩ := x
  exact List.prefix_append _ _

theorem CountersGrow.get {a b : List VersionCounter} (x : CountersGrow a b) {c : CounterId}
    {counter : VersionCounter} (hc : a[c]? = some counter) : b[c]? = some counter :=
  prefix_get x.isPrefix hc

theorem Accounted.pushFresh {h : Heap F} (a : h.Accounted) (shape : ShapeInfo) (values : List F)
    (m : Option AutogradMeta) : (h.pushFresh shape values m).Accounted where
  draws := by
    obtain ⟨draw, hdraw⟩ := a.draws
    have hkept : ∀ c < h.counters.length,
        Function.update draw h.counters.length h.drawn c = draw c :=
      fun c hc => Function.update_of_ne (Nat.ne_of_lt hc) _ _
    have hlast : Function.update draw h.counters.length h.drawn h.counters.length = h.drawn :=
      Function.update_self _ _ _
    refine ⟨Function.update draw h.counters.length h.drawn, ?_, ?_, ?_⟩
    · intro c counter hc
      simp only [Heap.pushFresh, List.getElem?_append] at hc
      split at hc
      · rename_i hlt
        rw [hkept c hlt]
        exact hdraw.identity c counter hc
      · rename_i hle
        obtain ⟨hlt, rfl⟩ := List.getElem?_eq_some_iff.mp hc
        have hc : c = h.counters.length :=
          Nat.le_antisymm (Nat.sub_eq_zero_iff_le.mp (Nat.lt_one_iff.mp hlt)) (Nat.not_lt.mp hle)
        rw [List.getElem_singleton, hc, hlast]
        exact a.next
    · intro c c' hlt hc'
      rw [Heap.pushFresh, List.length_append, List.length_singleton] at hc'
      rcases Nat.lt_succ_iff_lt_or_eq.mp hc' with hold | rfl
      · rw [hkept c (hlt.trans hold), hkept c' hold]
        exact hdraw.increasing c c' hlt hold
      · rw [hkept c hlt, hlast]
        exact hdraw.lt c hlt
    · intro c hc
      rw [Heap.pushFresh, List.length_append, List.length_singleton] at hc
      rcases Nat.lt_succ_iff_lt_or_eq.mp hc with hold | rfl
      · rw [hkept c hold]
        exact Nat.lt_succ_of_lt (hdraw.lt c hold)
      · rw [hlast]
        exact Nat.lt_succ_self _
  next := by
    simp only [Heap.pushFresh, a.next, add64]
    omega
  backed := by
    intro s hs
    simp only [Heap.pushFresh, List.length_append, List.length_singleton] at hs ⊢
    rcases Nat.lt_succ_iff_lt_or_eq.mp hs with hold | rfl
    · obtain ⟨t, ht, hstorage⟩ := a.backed s hold
      exact ⟨t, List.mem_append_left _ ht, hstorage⟩
    · exact ⟨_, List.mem_append_right _ (List.mem_singleton_self _), rfl⟩

theorem Charged.pushFresh {h : Heap F} {freed : Nat} (c : h.Charged freed) (shape : ShapeInfo)
    (values : List F) (m : Option AutogradMeta) : (h.pushFresh shape values m).Charged freed := by
  unfold Heap.Charged at c ⊢
  simp only [Heap.pushFresh, constructedBytes, List.map_append, List.map_singleton,
    List.sum_append, List.sum_singleton, add64] at c ⊢
  omega

/-- Every table of `h` is a prefix of the table of `h'`. -/
structure Extends (h h' : Heap F) : Prop where
  tensors : h.tensors <+: h'.tensors
  storages : h.storages <+: h'.storages
  counters : CountersGrow h.counters h'.counters
  mutations : h'.mutations = h.mutations
  accounted : h.Accounted → h'.Accounted
  charged : ∀ freed, h.Charged freed → h'.Charged freed

theorem Extends.refl (h : Heap F) : h.Extends h :=
  ⟨List.prefix_refl _, List.prefix_refl _, CountersGrow.refl _, rfl, fun a => a, fun _ c => c⟩

theorem Extends.trans {h h' h'' : Heap F} (a : h.Extends h') (b : h'.Extends h'') :
    h.Extends h'' :=
  ⟨a.tensors.trans b.tensors, a.storages.trans b.storages, a.counters.trans b.counters,
    b.mutations.trans a.mutations, fun x => b.accounted (a.accounted x),
    fun freed c => b.charged freed (a.charged freed c)⟩

theorem extends_pushFresh (h : Heap F) (shape : ShapeInfo) (values : List F)
    (m : Option AutogradMeta) : h.Extends (h.pushFresh shape values m) :=
  ⟨List.prefix_append _ _, List.prefix_append _ _, ⟨_, rfl, by simp⟩, rfl,
    fun a => a.pushFresh shape values m, fun _ c => c.pushFresh shape values m⟩

theorem extends_pushView (h : Heap F) (shape : ShapeInfo) (source : Tensor)
    (m : Option AutogradMeta) : h.Extends (h.pushView shape source m) where
  tensors := List.prefix_append _ _
  storages := List.prefix_refl _
  counters := CountersGrow.refl _
  mutations := rfl
  accounted := by
    intro a
    refine ⟨a.draws.imp fun _ d => d.congr rfl rfl, a.next, fun s hs => ?_⟩
    obtain ⟨t, ht, hstorage⟩ := a.backed s hs
    exact ⟨t, List.mem_append_left _ ht, hstorage⟩
  charged := fun _ c => c

def Idled (h h' : Heap F) : Prop := h' = h ∨ h' = h.drawIdentity

theorem Idled.refl (h : Heap F) : h.Idled h := Or.inl rfl

theorem extends_drawIdentity (h : Heap F) : h.Extends h.drawIdentity where
  tensors := List.prefix_refl _
  storages := List.prefix_refl _
  counters := CountersGrow.refl _
  mutations := rfl
  accounted := by
    intro a
    refine ⟨a.draws.imp fun _ d => ⟨d.identity, d.increasing, fun c hc => ?_⟩, ?_, a.backed⟩
    · exact Nat.lt_succ_of_lt (d.lt c hc)
    · simp only [drawIdentity, a.next, add64]
      omega
  charged := fun _ c => c

private theorem prefix_get_of_lt {α : Type} {xs ys : List α} (h : xs <+: ys) {i : Nat}
    (hi : i < xs.length) : ys[i]? = xs[i]? := by
  obtain ⟨zs, rfl⟩ := h
  exact List.getElem?_append_left hi

namespace Extends
variable {h h' : Heap F} (e : h.Extends h')
include e

theorem length_le : h.tensors.length ≤ h'.tensors.length := e.tensors.length_le

theorem get {id : TensorId} {t : Tensor} (ht : h.tensors[id]? = some t) :
    h'.tensors[id]? = some t := prefix_get e.tensors ht

theorem get_of_lt {id : TensorId} (hid : id < h.tensors.length) :
    h'.tensors[id]? = h.tensors[id]? := prefix_get_of_lt e.tensors hid

theorem storage {s : StorageId} {values : List F} (hs : h.storages[s]? = some values) :
    h'.storages[s]? = some values := prefix_get e.storages hs

theorem counter {c : CounterId} {counter : VersionCounter} (hc : h.counters[c]? = some counter) :
    h'.counters[c]? = some counter := e.counters.get hc

theorem read {t : Tensor} (ht : Placed h t) : h'.read t = h.read t := by
  obtain ⟨values, hs, -⟩ := ht.stored
  simp only [Heap.read, List.getD_eq_getElem?_getD, hs, e.storage hs]

theorem placed {t : Tensor} (ht : Placed h t) : Placed h' t where
  device := ht.device
  deviceIndex := ht.deviceIndex
  offset := ht.offset
  counter := ht.counter
  layout := ht.layout
  stored := by
    obtain ⟨values, hs, hlen⟩ := ht.stored
    exact ⟨values, e.storage hs, hlen⟩
  fits := ht.fits

theorem dims {id : TensorId} (hid : id < h.tensors.length) : h'.dims id = h.dims id := by
  simp only [Heap.dims, e.get_of_lt hid]

theorem contiguous {id : TensorId} (hid : id < h.tensors.length) :
    h'.contiguous id = h.contiguous id := by
  simp only [Heap.contiguous, e.get_of_lt hid]

theorem autogradMeta {id : TensorId} (hid : id < h.tensors.length) :
    h'.autogradMeta id = h.autogradMeta id := by
  simp only [Heap.autogradMeta, e.get_of_lt hid]

theorem gradFn {id : TensorId} (hid : id < h.tensors.length) : h'.gradFn id = h.gradFn id := by
  simp only [Heap.gradFn, e.autogradMeta hid]

theorem gradient {id : TensorId} (hid : id < h.tensors.length) :
    h'.gradient id = h.gradient id := by
  simp only [Heap.gradient, e.autogradMeta hid]

theorem requiresGrad {id : TensorId} (hid : id < h.tensors.length) :
    h'.requiresGrad id = h.requiresGrad id := by
  simp only [Heap.requiresGrad, e.autogradMeta hid]

theorem contents (wf : WellFormed h) {id : TensorId} (hid : id < h.tensors.length) :
    h'.contents id = h.contents id := by
  have ht := List.getElem?_eq_getElem hid
  rw [contents_of ht, contents_of (e.get ht), e.read (wf.placed id _ ht)]

theorem version (wf : WellFormed h) {id : TensorId} (hid : id < h.tensors.length) :
    h'.version id = h.version id := by
  have ht := List.getElem?_eq_getElem hid
  have hp := wf.placed id _ ht
  obtain ⟨values, hs, -⟩ := hp.stored
  have hlt : h.tensors[id].versionCounter < h.counters.length := by
    rw [hp.counter, wf.counters]
    exact (List.getElem?_eq_some_iff.mp hs).1
  have hc := List.getElem?_eq_getElem hlt
  simp only [Heap.version, ht, e.get ht, hc, e.counter hc]

theorem nodeOk {id : TensorId} {node : GradNode} (hid : id < h.tensors.length)
    (hn : NodeOk h id node) : NodeOk h' id node where
  versions := hn.versions
  earlier := hn.earlier
  shapes := by
    have hparents : node.parents.map h'.dims = node.parents.map h.dims :=
      List.map_congr_left fun p hp => e.dims ((hn.earlier p hp).trans hid)
    rw [hparents, e.dims hid]
    exact hn.shapes

end Extends

theorem gradient_lt {h : Heap F} {id g : TensorId} (hg : h.gradient id = some g) :
    id < h.tensors.length := by
  unfold gradient at hg
  cases hm : h.autogradMeta id with
  | none => simp [hm] at hg
  | some m => exact lt_of_meta hm

theorem gradFn_lt {h : Heap F} {id : TensorId} {node : GradNode} (hn : h.gradFn id = some node) :
    id < h.tensors.length := by
  unfold gradFn at hn
  cases hm : h.autogradMeta id with
  | none => simp [hm] at hn
  | some m => exact lt_of_meta hm

end Heap

theorem WellFormed.drawIdentity {h : Heap F} (wf : WellFormed h) : WellFormed h.drawIdentity where
  counters := wf.counters
  placed := fun id t ht => (Heap.extends_drawIdentity h).placed (wf.placed id t ht)
  recorded := by
    intro id m hm
    have hok := wf.recorded id m hm
    unfold MetaOk at hok ⊢
    cases hn : m.gradFn with
    | none => simpa only [hn] using hok
    | some node =>
        simp only [hn] at hok ⊢
        have hnode := (Heap.extends_drawIdentity h).nodeOk (Heap.lt_of_meta hm) hok.2.2.2
        exact ⟨hok.1, hok.2.1, hok.2.2.1, hnode⟩
  owned := fun leaf g hg => ⟨(wf.owned leaf g hg).tensor, (wf.owned leaf g hg).not_parent⟩
  unique := wf.unique

theorem Heap.Idled.extends {h h' : Heap F} (x : h.Idled h') : h.Extends h' := by
  rcases x with rfl | rfl
  · exact Heap.Extends.refl h'
  · exact Heap.extends_drawIdentity h

theorem Heap.Idled.wellFormed {h h' : Heap F} (x : h.Idled h') (wf : WellFormed h) :
    WellFormed h' := by
  rcases x with rfl | rfl
  · exact wf
  · exact wf.drawIdentity

theorem Heap.Idled.tensors {h h' : Heap F} (x : h.Idled h') : h'.tensors = h.tensors := by
  rcases x with rfl | rfl <;> rfl

structure Heap.Pushable (h h' : Heap F) (t : Tensor) : Prop where
  tensors : h'.tensors = h.tensors ++ [t]
  extension : h.Extends h'
  counters : h'.counters.length = h'.storages.length
  placed : Placed h' t
  recorded : ∀ m, t.autogradMeta = some m → MetaOk h' h.tensors.length m
  plain : t.gradient = none
  unshared : ∀ leaf g tg, h.gradient leaf = some g → h.tensors[g]? = some tg →
    tg.storage ≠ t.storage
  parents : ∀ node, t.gradFn = some node → ∀ p ∈ node.parents, h.Visible p

namespace Heap.Pushable
variable {h h' : Heap F} {t : Tensor} (p : h.Pushable h' t)
include p

theorem last : h'.tensors[h.tensors.length]? = some t := by
  rw [p.tensors, List.getElem?_append_right (Nat.le_refl _), Nat.sub_self]
  rfl

theorem length : h'.tensors.length = h.tensors.length + 1 := by
  rw [p.tensors, List.length_append, List.length_singleton]

theorem get_cases {id : TensorId} {t' : Tensor} (ht : h'.tensors[id]? = some t') :
    h.tensors[id]? = some t' ∨ id = h.tensors.length ∧ t' = t := by
  have hlt := (List.getElem?_eq_some_iff.mp ht).1
  rw [p.length] at hlt
  rcases Nat.lt_succ_iff_lt_or_eq.mp hlt with hid | hid
  · rw [p.extension.get_of_lt hid] at ht
    exact Or.inl ht
  · subst hid
    rw [p.last] at ht
    exact Or.inr ⟨rfl, (Option.some.inj ht).symm⟩

theorem gradient {id g : TensorId} (hg : h'.gradient id = some g) : h.gradient id = some g := by
  have hlt := gradient_lt hg
  rw [p.length] at hlt
  rcases Nat.lt_succ_iff_lt_or_eq.mp hlt with hid | hid
  · rwa [p.extension.gradient hid] at hg
  · subst hid
    rw [gradient_of p.last, p.plain] at hg
    cases hg

theorem wellFormed (wf : WellFormed h) : WellFormed h' where
  counters := p.counters
  placed := by
    intro id t' ht
    rcases p.get_cases ht with ht | ⟨-, rfl⟩
    · exact p.extension.placed (wf.placed id t' ht)
    · exact p.placed
  recorded := by
    intro id m hm
    have hlt := lt_of_meta hm
    rw [p.length] at hlt
    rcases Nat.lt_succ_iff_lt_or_eq.mp hlt with hid | hid
    · rw [p.extension.autogradMeta hid] at hm
      have hok := wf.recorded id m hm
      unfold MetaOk at hok ⊢
      cases hn : m.gradFn with
      | none => simpa only [hn] using hok
      | some node =>
          simp only [hn] at hok ⊢
          exact ⟨hok.1, hok.2.1, hok.2.2.1, p.extension.nodeOk hid hok.2.2.2⟩
    · subst hid
      rw [autogradMeta_of p.last] at hm
      exact p.recorded m hm
  owned := by
    intro leaf g hg
    have hg' := p.gradient hg
    have hlt := gradient_lt hg'
    obtain ⟨⟨tg, htg, hmeta, hshape, hunique⟩, hparent⟩ := wf.owned leaf g hg'
    rw [p.extension.dims hlt]
    refine ⟨⟨tg, p.extension.get htg, hmeta, hshape, ?_⟩, ?_⟩
    · intro id t' ht hs
      rcases p.get_cases ht with ht | ⟨-, rfl⟩
      · exact hunique id t' ht hs
      · exact absurd hs.symm (p.unshared leaf g tg hg' htg)
    · intro id node hn
      have hid := gradFn_lt hn
      rw [p.length] at hid
      rcases Nat.lt_succ_iff_lt_or_eq.mp hid with hid | hid
      · rw [p.extension.gradFn hid] at hn
        exact hparent id node hn
      · subst hid
        rw [gradFn_of p.last] at hn
        exact fun hmem => (p.parents node hn g hmem).2 leaf hg'
  unique := fun leaf leaf' g hg hg' => wf.unique leaf leaf' g (p.gradient hg) (p.gradient hg')

theorem last_visible (wf : WellFormed h) : h'.Visible h.tensors.length := by
  refine ⟨by rw [p.length]; exact Nat.lt_succ_self _, fun leaf hg => ?_⟩
  obtain ⟨⟨tg, htg, -⟩, -⟩ := wf.owned leaf _ (p.gradient hg)
  have := (List.getElem?_eq_some_iff.mp htg).1
  omega

end Heap.Pushable

section Appending
variable {h : Heap F} (wf : WellFormed h)
include wf

def MetaPushable (h : Heap F) (dims : List Nat) (m : Option AutogradMeta) : Prop :=
  ∀ m', m = some m' → m'.gradient = none ∧
    match m'.gradFn with
    | none => m'.isLeaf = true
    | some node =>
        m'.requiresGrad = true ∧ m'.isLeaf = false ∧
        node.parents.length = node.parentVersions.length ∧
        (∀ p ∈ node.parents, h.Visible p) ∧
        OpShapes node.operation (node.parents.map h.dims) dims

omit wf in
theorem metaPushable_none (h : Heap F) (dims : List Nat) : MetaPushable h dims none := by
  intro m' hm
  cases hm

omit wf in
theorem metaPushable_leaf (h : Heap F) (dims : List Nat) (requiresGrad : Bool) :
    MetaPushable h dims (some ⟨requiresGrad, true, none, none⟩) := by
  rintro m' hm
  cases hm
  exact ⟨rfl, rfl⟩

omit wf in
theorem metaPushable_node {operation : Operation} {parents : List TensorId} {dims : List Nat}
    (hv : ∀ p ∈ parents, h.Visible p) (hs : OpShapes operation (parents.map h.dims) dims) :
    MetaPushable h dims (h.nodeMeta operation parents) := by
  intro m' hm
  unfold Heap.nodeMeta at hm
  split at hm
  · cases hm
    exact ⟨rfl, rfl, rfl, by simp, hv, hs⟩
  · cases hm

omit wf in
theorem MetaPushable.recorded {h' : Heap F} {t : Tensor} {m : Option AutogradMeta}
    (hm : MetaPushable h t.shape.dimensions m) (htensors : h'.tensors = h.tensors ++ [t])
    (e : h.Extends h') : ∀ m', m = some m' → MetaOk h' h.tensors.length m' := by
  intro m' hm'
  obtain ⟨hgrad, hok⟩ := hm m' hm'
  have hlast : h'.dims h.tensors.length = t.shape.dimensions := by
    simp [Heap.dims, htensors]
  unfold MetaOk
  cases hn : m'.gradFn with
  | none => simpa only [hn] using hok
  | some node =>
      simp only [hn] at hok ⊢
      obtain ⟨hreq, hleaf, hlen, hv, hs⟩ := hok
      refine ⟨hreq, hleaf, hgrad, hlen, fun p hp => (hv p hp).1, ?_⟩
      have hparents : node.parents.map h'.dims = node.parents.map h.dims :=
        List.map_congr_left fun p hp => e.dims (hv p hp).1
      rw [hparents, hlast]
      exact hs

theorem pushable_fresh {shape : ShapeInfo} {values : List F} {m : Option AutogradMeta}
    (hlayout : shape.Layout) (hlen : values.length = shape.numel) (hfits : shape.numel ≤ kMaxFloats)
    (hm : MetaPushable h shape.dimensions m) :
    h.Pushable (h.pushFresh shape values m) {
      shape := shape
      storage := h.storages.length
      dtype := .float32
      device := .cpu
      deviceIndex := 0
      storageOffset := 0
      versionCounter := h.counters.length
      autogradMeta := m } where
  tensors := rfl
  extension := h.extends_pushFresh shape values m
  counters := by simp [Heap.pushFresh, wf.counters]
  placed := {
    device := rfl
    deviceIndex := rfl
    offset := rfl
    counter := wf.counters
    layout := hlayout
    stored := ⟨values, by simp [Heap.pushFresh], hlen⟩
    fits := hfits }
  recorded := hm.recorded (h := h) rfl (h.extends_pushFresh shape values m)
  plain := by
    cases m with
    | none => rfl
    | some m' => exact (hm m' rfl).1
  unshared := by
    intro leaf g tg hg htg heq
    obtain ⟨values', hs, -⟩ := (wf.placed g tg htg).stored
    have hlt := (List.getElem?_eq_some_iff.mp hs).1
    exact Nat.ne_of_lt hlt heq
  parents := by
    intro node hn p hp
    cases m with
    | none => cases hn
    | some m' =>
        have hok := (hm m' rfl).2
        simp only [Tensor.gradFn, Option.bind_some] at hn
        simp only [hn] at hok
        exact hok.2.2.2.1 p hp

theorem pushable_view {id : TensorId} {source : Tensor} {shape : ShapeInfo}
    {m : Option AutogradMeta} (hs : h.tensors[id]? = some source) (hv : h.Visible id)
    (hlayout : shape.Layout) (hn : shape.numel = source.numel)
    (hm : MetaPushable h shape.dimensions m) :
    h.Pushable (h.pushView shape source m) { source with shape := shape, autogradMeta := m } where
  tensors := rfl
  extension := h.extends_pushView shape source m
  counters := wf.counters
  placed := by
    have hp := wf.placed id source hs
    exact {
      device := hp.device
      deviceIndex := hp.deviceIndex
      offset := hp.offset
      counter := hp.counter
      layout := hlayout
      stored := by
        obtain ⟨values, hval, hlen⟩ := hp.stored
        exact ⟨values, hval, hlen.trans hn.symm⟩
      fits := hn.trans_le hp.fits }
  recorded := hm.recorded (h := h) rfl (h.extends_pushView shape source m)
  plain := by
    cases m with
    | none => rfl
    | some m' => exact (hm m' rfl).1
  unshared := by
    intro leaf g tg hg htg heq
    obtain ⟨⟨tg', htg', -, -, hunique⟩, -⟩ := wf.owned leaf g hg
    obtain rfl : tg = tg' := Option.some.inj (htg.symm.trans htg')
    obtain rfl := hunique id source hs heq.symm
    exact hv.2 leaf hg
  parents := by
    intro node hn p hp
    cases m with
    | none => cases hn
    | some m' =>
        have hok := (hm m' rfl).2
        simp only [Tensor.gradFn, Option.bind_some] at hn
        simp only [hn] at hok
        exact hok.2.2.2.1 p hp

end Appending

theorem contents_pushFresh {h : Heap F} (wf : WellFormed h) {dims : List Nat} {values : List F}
    {m : Option AutogradMeta} (hd : ValidDims dims) (hlen : values.length = dims.prod)
    (hfits : dims.prod ≤ kMaxFloats) (hm : MetaPushable h dims m) :
    (h.pushFresh (canonicalShape dims) values m).contents h.tensors.length = values := by
  have p := pushable_fresh wf (canonicalShape_canonical hd).layout hlen hfits hm
  rw [Heap.contents_of p.last]
  exact p.placed.read_contiguous (by simp [Heap.pushFresh]) rfl

theorem contents_pushFilled {h : Heap F} (wf : WellFormed h) {shape : ShapeInfo} (value : F)
    (hlayout : shape.Layout) (hfits : shape.numel ≤ kMaxFloats) :
    (h.pushFresh shape (List.replicate shape.numel value) none).contents h.tensors.length =
      List.replicate shape.numel value := by
  have p := pushable_fresh wf hlayout (List.length_replicate (a := value)) hfits
    (metaPushable_none h shape.dimensions)
  have hval : (h.pushFresh shape (List.replicate shape.numel value) none).storages[
      h.storages.length]? = some (List.replicate shape.numel value) := by
    simp [Heap.pushFresh]
  rw [Heap.contents_of p.last, p.placed.read_eq value hval]
  refine (tab_eq_of_length List.length_replicate fun i hi => ?_).symm
  have hlt : i < shape.numel := by rwa [List.length_replicate] at hi
  have hidx : _ < shape.numel := p.placed.index_lt hlt
  rw [List.getElem_replicate, List.getD_eq_getElem?_getD, List.getElem?_replicate, if_pos hidx]
  rfl

theorem contents_reshapeView {h : Heap F} (wf : WellFormed h) {id : TensorId} {source : Tensor}
    {dims : List Nat} {m : Option AutogradMeta} (hs : h.tensors[id]? = some source)
    (hv : h.Visible id) (hd : ValidDims dims) (hn : dims.prod = source.numel)
    (hc : source.isContiguous = true) (hm : MetaPushable h dims m) :
    (h.pushView (canonicalShape dims) source m).contents h.tensors.length = h.contents id := by
  have p := pushable_view wf hs hv (canonicalShape_canonical hd).layout hn hm
  have hp := wf.placed id source hs
  obtain ⟨values, hval, -⟩ := hp.stored
  rw [Heap.contents_of p.last, Heap.contents_of hs,
    hp.read_contiguous hval ((Tensor.isContiguous_iff hp.layout).mp hc)]
  exact p.placed.read_contiguous hval rfl

private theorem transpose_index_lt {rows cols i : Nat} (hi : i < cols * rows) :
    i % rows * cols + i / rows < rows * cols := by
  have hrows : 0 < rows := Nat.pos_of_ne_zero fun h0 => by simp [h0] at hi
  have hdiv : i / rows < cols := (Nat.div_lt_iff_lt_mul hrows).mpr hi
  calc i % rows * cols + i / rows < i % rows * cols + cols := by omega
    _ = (i % rows + 1) * cols := by ring
    _ ≤ rows * cols := Nat.mul_le_mul_right _ (Nat.mod_lt i hrows)

theorem transposeData_eq_tab {rows cols : Nat} {data : List F} (d : F)
    (hlen : data.length = rows * cols) :
    transposeData rows cols data =
      tab (cols * rows) fun i => data.getD (i % rows * cols + i / rows) d := by
  unfold transposeData tab
  rw [← List.filterMap_eq_map]
  refine List.filterMap_congr fun i hi => ?_
  have hlt := transpose_index_lt (List.mem_range.mp hi)
  rw [Function.comp_apply, List.getD_eq_getElem?_getD, List.getElem?_eq_getElem (by omega),
    Option.getD_some]

theorem transposeData_nil (rows cols : Nat) : transposeData rows cols ([] : List F) = [] := by
  simp [transposeData]

theorem transposeData_length {rows cols : Nat} {data : List F} (hlen : data.length = rows * cols) :
    (transposeData rows cols data).length = cols * rows := by
  cases data with
  | nil =>
      rw [transposeData_nil, List.length_nil, Nat.mul_comm, ← hlen]
      rfl
  | cons d data => rw [transposeData_eq_tab d hlen, length_tab]

theorem transposeData_getElem? {rows cols r c : Nat} {data : List F}
    (hlen : data.length = rows * cols) (hr : r < rows) (hc : c < cols) :
    (transposeData rows cols data)[c * rows + r]? = data[r * cols + c]? := by
  have hlt : c * rows + r < cols * rows := by
    calc c * rows + r < c * rows + rows := by omega
      _ = (c + 1) * rows := by ring
      _ ≤ cols * rows := Nat.mul_le_mul_right _ hc
  have hmod : (c * rows + r) % rows = r := by
    rw [Nat.mul_comm, Nat.mul_add_mod, Nat.mod_eq_of_lt hr]
  have hdiv : (c * rows + r) / rows = c := by
    rw [Nat.mul_comm, Nat.mul_add_div (by omega), Nat.div_eq_of_lt hr, Nat.add_zero]
  have hin := transpose_index_lt hlt
  rw [hmod, hdiv] at hin
  cases data with
  | nil => simp [transposeData_nil]
  | cons d data =>
      rw [transposeData_eq_tab d hlen, getElem?_tab_of_lt _ hlt, hmod, hdiv,
        List.getD_eq_getElem?_getD, List.getElem?_eq_getElem (by omega), Option.getD_some]

theorem transposeData_transposeData {rows cols : Nat} {data : List F}
    (hlen : data.length = rows * cols) :
    transposeData cols rows (transposeData rows cols data) = data := by
  have hlen' := transposeData_length hlen
  apply List.ext_getElem?
  intro i
  by_cases hi : i < rows * cols
  · have hcols : 0 < cols := Nat.pos_of_ne_zero fun h0 => by simp [h0] at hi
    have hdiv : i / cols < rows := (Nat.div_lt_iff_lt_mul hcols).mpr hi
    have hmod := Nat.mod_lt i hcols
    have hsplit : i / cols * cols + i % cols = i := Nat.div_add_mod' i cols
    have hstep := transposeData_getElem? hlen' hmod hdiv
    have hback := transposeData_getElem? hlen hdiv hmod
    rw [hsplit] at hstep hback
    rw [hstep, hback]
  · rw [List.getElem?_eq_none (by rw [transposeData_length hlen']; omega),
      List.getElem?_eq_none (by omega)]

theorem contents_transposeView {h : Heap F} (wf : WellFormed h) {id : TensorId} {source : Tensor}
    {rows cols : Nat} {shape : ShapeInfo} {m : Option AutogradMeta}
    (hs : h.tensors[id]? = some source) (hv : h.Visible id)
    (hdims : source.shape.dimensions = [rows, cols])
    (hshape : shape = { source.shape with
      dimensions := [cols, rows], strides := source.shape.strides.reverse })
    (hm : MetaPushable h shape.dimensions m) :
    (h.pushView shape source m).contents h.tensors.length =
      transposeData rows cols (h.contents id) := by
  have hp := wf.placed id source hs
  have hlayout : shape.Layout := hp.layout.swapped hdims hshape
  have hnumel : shape.numel = source.numel := by rw [hshape]; rfl
  have p := pushable_view wf hs hv hlayout hnumel hm
  obtain ⟨values, hval, hlen⟩ := hp.stored
  have hcount : values.length = rows * cols := by
    have := hp.layout.numel_eq
    rw [hdims] at this
    rw [hlen]
    simpa [Tensor.numel] using this
  rw [Heap.contents_of p.last, Heap.contents_of hs]
  rcases hp.layout.strides_eq with hc | ⟨r, c, hd, hc⟩
  · have hrows : (source.shape.strides) = [cols, 1] := by
      rw [hc, hdims]
      simp [rowMajorStrides]
    rw [hp.read_contiguous hval hc]
    exact p.placed.read_transposed hval (by simp [hshape]) (by simp [hshape, hrows])
  · rw [hdims] at hd
    simp only [List.cons.injEq, and_true] at hd
    obtain ⟨rfl, rfl⟩ := hd
    rw [hp.read_transposed hval hdims hc,
      transposeData_transposeData (by rw [hcount, Nat.mul_comm])]
    exact p.placed.read_contiguous hval (by simp [hshape, hc, rowMajorStrides])

end Tensora
