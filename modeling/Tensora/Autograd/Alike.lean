import Tensora.Autograd.BackwardSpecs
import Tensora.Autograd.Evolution

/-! Tables that differ only in where the elements of their tensors lie in memory. What is recorded
over one is recorded over the other, and `Backward` cannot tell them apart. -/
namespace Tensora
open CheckedLoop Autograd

variable {F D : Type}

/-- The same logical values and graph, with the same nodes current and the same gradients. -/
structure Alike (h k : Heap F) : Prop where
  length : k.tensors.length = h.tensors.length
  tape : k.tape = h.tape
  current : k.currentAt = h.currentAt
  gradients : k.gradientContents = h.gradientContents

namespace Alike
variable {h k h' k' : Heap F} (a : Alike h k)
include a

theorem dims : k.dims = h.dims := congrArg Tape.dims a.tape

theorem contents : k.contents = h.contents := congrArg Tape.contents a.tape

theorem requiresGrad : k.requiresGrad = h.requiresGrad := congrArg Tape.requiresGrad a.tape

theorem backwardReject (root : TensorId) :
    Tensora.backwardReject k root = Tensora.backwardReject h root := by
  have hcurrent : k.current root = h.current root := by
    rw [Heap.current, Heap.current, a.tape, a.current]
  rw [Tensora.backwardReject, Tensora.backwardReject, a.dims, a.requiresGrad, hcurrent]

theorem sweep [Scalar F] (root : TensorId) :
    k.tape.sweep k.gradientContents root = h.tape.sweep h.gradientContents root := by
  rw [a.tape, a.gradients]

end Alike

section Growth
variable {h h' : Heap F}

theorem Heap.Extends.currentAt (e : h.Extends h') (wf : WellFormed h) {id : TensorId}
    (hid : id < h.tensors.length) : h'.currentAt id = h.currentAt id := by
  unfold Heap.currentAt
  rw [e.gradFn hid]
  cases hn : h.gradFn id with
  | none => rfl
  | some node =>
      have hversions : node.parents.map h'.version = node.parents.map h.version :=
        List.map_congr_left fun p hp => e.version wf (wf.parent_visible hn hp).1
      simp only [hversions]

theorem Heap.Extends.gradientContents (e : h.Extends h') (wf : WellFormed h) {id : TensorId}
    (hid : id < h.tensors.length) : h'.gradientContents id = h.gradientContents id := by
  rw [Heap.gradientContents, Heap.gradientContents, e.gradient hid]
  cases hg : h.gradient id with
  | none => rfl
  | some g =>
      obtain ⟨t, ht, -⟩ := (wf.owned id g hg).tensor
      exact congrArg some (e.contents wf (List.getElem?_eq_some_iff.mp ht).1)

variable [Scalar F] [Scalar D] [Precision F D] {k k' : Heap F} {operation : Operation}
  {parents : List TensorId} {dims : List Nat}

namespace Produced
variable (p : Produced D h h' operation parents dims)
include p

theorem old_or_new (id : TensorId) :
    id < h.tensors.length ∨ id = h.tensors.length ∨ h'.tensors[id]? = none := by
  rcases Nat.lt_trichotomy id h.tensors.length with hlt | heq | hgt
  · exact Or.inl hlt
  · exact Or.inr (Or.inl heq)
  · refine Or.inr (Or.inr (List.getElem?_eq_none ?_))
    rw [p.length]
    exact hgt

theorem currentAt_new (wf : WellFormed h) : h'.currentAt h.tensors.length = true := by
  have hversions : parents.map h'.version = parents.map h.version :=
    List.map_congr_left fun q hq => p.extension.version wf (p.visible q hq).1
  rw [Heap.currentAt, p.gradFn_eq]
  split
  · rfl
  · rename_i node hnode
    split at hnode
    · cases hnode
      simp [hversions]
    · cases hnode

theorem tapeNode_new : h'.tape.node h.tensors.length =
    if parents.any h.requiresGrad then some (operation, parents) else none := by
  change (h'.gradFn h.tensors.length).map _ = _
  rw [p.gradFn_eq]
  split <;> rfl

theorem requiresGrad_new : h'.requiresGrad h.tensors.length = parents.any h.requiresGrad := by
  rw [Heap.requiresGrad, p.meta_eq, Heap.nodeMeta]
  cases parents.any h.requiresGrad <;> rfl

theorem gradientContents_new : h'.gradientContents h.tensors.length = none := by
  have hgradient : h'.gradient h.tensors.length = none := by
    rw [Heap.gradient, p.meta_eq, Heap.nodeMeta]
    split <;> rfl
  rw [Heap.gradientContents, hgradient]
  rfl

end Produced

theorem Alike.produced (a : Alike h k) (wf : WellFormed h) (wf' : WellFormed k)
    (p : Produced D h h' operation parents dims) (q : Produced D k k' operation parents dims) :
    Alike h' k' := by
  have hlen := a.length
  have hany : parents.any k.requiresGrad = parents.any h.requiresGrad := by rw [a.requiresGrad]
  have hcases : ∀ {α : Type} (f g : TensorId → α),
      (∀ id < h.tensors.length, f id = g id) → f h.tensors.length = g h.tensors.length →
      (∀ id, h'.tensors[id]? = none → k'.tensors[id]? = none → f id = g id) → f = g := by
    intro α f g hold hnew hnone
    funext id
    rcases p.old_or_new id with hid | rfl | hid
    · exact hold id hid
    · exact hnew
    · have hlength : k'.tensors.length = h'.tensors.length := by rw [p.length, q.length, hlen]
      refine hnone id hid (List.getElem?_eq_none ?_)
      rw [hlength]
      exact List.getElem?_eq_none_iff.mp hid
  have hold : ∀ id, id < h.tensors.length → id < k.tensors.length := fun id hid => by rwa [hlen]
  refine ⟨by rw [p.length, q.length, hlen], ?_, ?_, ?_⟩
  · have hdims : k'.dims = h'.dims := by
      refine hcases _ _ (fun id hid => ?_) ?_ fun id hh hk => ?_
      · rw [q.extension.dims (hold id hid), p.extension.dims hid, a.dims]
      · rw [p.dims_eq, ← hlen, q.dims_eq]
      · rw [Heap.dims, Heap.dims, hh, hk]
    have hcontents : k'.contents = h'.contents := by
      refine hcases _ _ (fun id hid => ?_) ?_ fun id hh hk => ?_
      · rw [q.extension.contents wf' (hold id hid), p.extension.contents wf hid, a.contents]
      · rw [p.value, ← hlen, q.value, a.dims, a.contents]
      · rw [Heap.contents, Heap.contents, hh, hk]
    have hnode : k'.tape.node = h'.tape.node := by
      refine hcases _ _ (fun id hid => ?_) ?_ fun id hh hk => ?_
      · have hsame := congrFun (congrArg Tape.node a.tape) id
        change (k'.gradFn id).map _ = (h'.gradFn id).map _
        rw [q.extension.gradFn (hold id hid), p.extension.gradFn hid]
        exact hsame
      · rw [p.tapeNode_new, ← hlen, q.tapeNode_new, hany]
      · simp only [Heap.tape, Heap.gradFn, Heap.autogradMeta, hh, hk]
    have hrequires : k'.requiresGrad = h'.requiresGrad := by
      refine hcases _ _ (fun id hid => ?_) ?_ fun id hh hk => ?_
      · rw [q.extension.requiresGrad (hold id hid), p.extension.requiresGrad hid, a.requiresGrad]
      · rw [p.requiresGrad_new, ← hlen, q.requiresGrad_new, hany]
      · simp only [Heap.requiresGrad, Heap.autogradMeta, hh, hk]
    change Tape.mk k'.dims k'.contents k'.tape.node k'.requiresGrad = h'.tape
    rw [hdims, hcontents, hnode, hrequires]
    rfl
  · refine hcases _ _ (fun id hid => ?_) ?_ fun id hh hk => ?_
    · rw [q.extension.currentAt wf' (hold id hid), p.extension.currentAt wf hid, a.current]
    · rw [p.currentAt_new wf, ← hlen, q.currentAt_new wf']
    · simp only [Heap.currentAt, Heap.gradFn, Heap.autogradMeta, hh, hk]
      rfl
  · refine hcases _ _ (fun id hid => ?_) ?_ fun id hh hk => ?_
    · rw [q.extension.gradientContents wf' (hold id hid), p.extension.gradientContents wf hid,
        a.gradients]
    · rw [p.gradientContents_new, ← hlen, q.gradientContents_new]
    · simp only [Heap.gradientContents, Heap.gradient, Heap.autogradMeta, hh, hk]
      rfl

end Growth

section Straight

/-- Every tensor row-major in a storage of its own, mutated as often as the one it had. -/
def Heap.straight (h : Heap F) : Heap F :=
  { h with
    mutations := (List.range h.tensors.length).flatMap fun id =>
      List.replicate ((h.storageOf id).elim 0 h.mutations.count) id
    storages := h.tensors.map h.read
    counters := h.tensors.map fun t => h.counters.getD t.versionCounter ⟨0, 0⟩
    tensors := h.tensors.mapIdx fun id t => { t with
      shape := canonicalShape t.shape.dimensions
      storage := id
      storageOffset := 0
      versionCounter := id } }

variable {h : Heap F}

theorem Heap.straight_none {id : TensorId} (ht : h.tensors[id]? = none) :
    h.straight.tensors[id]? = none := by
  simp only [Heap.straight, List.getElem?_mapIdx, ht]
  rfl

theorem Heap.straight_get {id : TensorId} {t : Tensor} (ht : h.tensors[id]? = some t) :
    h.straight.tensors[id]? = some { t with
      shape := canonicalShape t.shape.dimensions
      storage := id
      storageOffset := 0
      versionCounter := id } := by
  simp only [Heap.straight, List.getElem?_mapIdx, ht]
  rfl

theorem Heap.straight_of_get {id : TensorId} {t : Tensor} (ht : h.straight.tensors[id]? = some t) :
    ∃ t₀, h.tensors[id]? = some t₀ ∧ t = { t₀ with
      shape := canonicalShape t₀.shape.dimensions
      storage := id
      storageOffset := 0
      versionCounter := id } := by
  cases ht₀ : h.tensors[id]? with
  | none =>
      rw [Heap.straight_none ht₀] at ht
      cases ht
  | some t₀ => exact ⟨t₀, rfl, Option.some.inj (ht.symm.trans (Heap.straight_get ht₀))⟩

theorem Heap.dims_straight (h : Heap F) : h.straight.dims = h.dims := by
  funext id
  cases ht : h.tensors[id]? with
  | none => rw [Heap.dims, Heap.dims, Heap.straight_none ht, ht]
  | some t => rw [Heap.dims_of ht, Heap.dims_of (Heap.straight_get ht)]; rfl

theorem Heap.autogradMeta_straight (h : Heap F) : h.straight.autogradMeta = h.autogradMeta := by
  funext id
  cases ht : h.tensors[id]? with
  | none => rw [Heap.autogradMeta, Heap.autogradMeta, Heap.straight_none ht, ht]
  | some t => rw [Heap.autogradMeta_of ht, Heap.autogradMeta_of (Heap.straight_get ht)]

theorem Heap.gradFn_straight (h : Heap F) : h.straight.gradFn = h.gradFn := by
  funext id
  rw [Heap.gradFn, Heap.autogradMeta_straight, Heap.gradFn]

theorem Heap.gradient_straight (h : Heap F) : h.straight.gradient = h.gradient := by
  funext id
  rw [Heap.gradient, Heap.autogradMeta_straight, Heap.gradient]

theorem Heap.requiresGrad_straight (h : Heap F) : h.straight.requiresGrad = h.requiresGrad := by
  funext id
  rw [Heap.requiresGrad, Heap.autogradMeta_straight, Heap.requiresGrad]

theorem WellFormed.straight (wf : WellFormed h) : WellFormed h.straight where
  counters := by simp [Heap.straight]
  placed := by
    intro id t ht
    obtain ⟨t₀, ht₀, rfl⟩ := Heap.straight_of_get ht
    have hp := wf.placed id t₀ ht₀
    have hnumel : (h.read t₀).length = t₀.shape.dimensions.prod := by
      rw [hp.length_read]
      exact hp.layout.numel_eq
    refine ⟨hp.device, hp.deviceIndex, rfl, rfl,
      (canonicalShape_canonical hp.layout.valid).layout, ⟨h.read t₀, ?_, hnumel⟩, ?_⟩
    · change (h.tensors.map h.read)[id]? = _
      rw [List.getElem?_map, ht₀]
      rfl
    · change t₀.shape.dimensions.prod ≤ _
      rw [← hp.layout.numel_eq]
      exact hp.fits
  recorded := by
    intro id m hm
    rw [Heap.autogradMeta_straight] at hm
    have hok := wf.recorded id m hm
    unfold MetaOk at hok ⊢
    cases hn : m.gradFn with
    | none => simpa only [hn] using hok
    | some node =>
        simp only [hn] at hok ⊢
        obtain ⟨hrequires, hleaf, hgradient, hnode⟩ := hok
        refine ⟨hrequires, hleaf, hgradient, hnode.versions, hnode.earlier, ?_⟩
        rw [Heap.dims_straight]
        exact hnode.shapes
  owned := by
    intro leaf g hg
    rw [Heap.gradient_straight] at hg
    have howned := wf.owned leaf g hg
    obtain ⟨t, ht, hmeta, hshape, -⟩ := howned.tensor
    rw [Heap.dims_straight]
    refine ⟨⟨_, Heap.straight_get ht, hmeta, ?_, fun id t' ht' hstorage => ?_⟩, ?_⟩
    · change canonicalShape t.shape.dimensions = _
      rw [hshape]
      rfl
    · obtain ⟨t₀, -, rfl⟩ := Heap.straight_of_get ht'
      exact hstorage
    · rw [Heap.gradFn_straight]
      exact howned.not_parent
  unique := by
    rw [Heap.gradient_straight]
    exact wf.unique

theorem count_flatMap_replicate (times : Nat → Nat) (n c : Nat) :
    ((List.range n).flatMap fun id => List.replicate (times id) id).count c =
      if c < n then times c else 0 := by
  induction n with
  | zero => simp
  | succ n ih =>
      rw [List.range_succ, List.flatMap_append, List.count_append, ih]
      simp only [List.flatMap_cons, List.flatMap_nil, List.append_nil, List.count_replicate,
        beq_iff_eq]
      rcases Nat.lt_trichotomy c n with hlt | rfl | hgt
      · rw [if_pos hlt, if_neg (Nat.ne_of_gt hlt), if_pos (Nat.lt_succ_of_lt hlt), Nat.add_zero]
      · simp
      · rw [if_neg (Nat.not_lt_of_gt hgt), if_neg (Nat.ne_of_lt hgt), if_neg (by omega)]

theorem Versioned.straight (v : Versioned h) (wf : WellFormed h) : Versioned h.straight where
  value := by
    intro c counter hc
    have hcounter : (h.tensors.map fun t => h.counters.getD t.versionCounter ⟨0, 0⟩)[c]? =
        some counter := hc
    rw [List.getElem?_map] at hcounter
    obtain ⟨t, ht, rfl⟩ := Option.map_eq_some_iff.mp hcounter
    have hlt := (List.getElem?_eq_some_iff.mp ht).1
    obtain ⟨values, hstored, -⟩ := (wf.placed c t ht).stored
    have hstorage := (List.getElem?_eq_some_iff.mp hstored).1
    rw [← wf.counters] at hstorage
    have hold := List.getElem?_eq_getElem hstorage
    have hcount : h.straight.mutations.count c = h.mutations.count t.storage := by
      change ((List.range _).flatMap _).count c = _
      rw [count_flatMap_replicate, if_pos hlt, Heap.storageOf, ht]
      rfl
    rw [hcount, (wf.placed c t ht).counter, List.getD_eq_getElem?_getD, hold]
    exact v.value t.storage _ hold
  known := by
    intro c hc
    obtain ⟨id, hid, hmem⟩ := List.mem_flatMap.mp hc
    rw [List.eq_of_mem_replicate hmem]
    simpa [Heap.straight] using hid

theorem Heap.contents_straight (wf : WellFormed h) : h.straight.contents = h.contents := by
  funext id
  cases ht : h.tensors[id]? with
  | none => rw [Heap.contents, Heap.contents, Heap.straight_none ht, ht]
  | some t =>
      have hs := Heap.straight_get ht
      have hstored : h.straight.storages[id]? = some (h.read t) := by
        change (h.tensors.map h.read)[id]? = _
        rw [List.getElem?_map, ht]
        rfl
      rw [Heap.contents_of ht, Heap.contents_of hs]
      exact (wf.straight.placed id _ hs).read_contiguous hstored rfl

theorem Heap.version_straight (h : Heap F) : h.straight.version = h.version := by
  funext id
  cases ht : h.tensors[id]? with
  | none => rw [Heap.version, Heap.version, Heap.straight_none ht, ht]
  | some t =>
      have hcounter : h.straight.counters[id]? =
          some (h.counters.getD t.versionCounter ⟨0, 0⟩) := by
        change (h.tensors.map _)[id]? = _
        rw [List.getElem?_map, ht]
        rfl
      simp only [Heap.version, Heap.straight_get ht, ht, hcounter, List.getD_eq_getElem?_getD]
      cases h.counters[t.versionCounter]? <;> rfl

theorem Heap.contiguous_straight (wf : WellFormed h) {id : TensorId}
    (hid : id < h.tensors.length) : h.straight.contiguous id = true := by
  have hs := Heap.straight_get (List.getElem?_eq_getElem hid)
  rw [Heap.contiguous_of hs]
  exact (Tensor.isContiguous_iff (wf.straight.placed id _ hs).layout).mpr rfl

theorem alike_straight (wf : WellFormed h) : Alike h h.straight where
  length := by simp [Heap.straight]
  tape := by
    unfold Heap.tape
    rw [Heap.dims_straight, Heap.contents_straight wf, Heap.gradFn_straight,
      Heap.requiresGrad_straight]
  current := by
    funext id
    rw [Heap.currentAt, Heap.currentAt, Heap.gradFn_straight, Heap.version_straight]
  gradients := by
    funext id
    rw [Heap.gradientContents, Heap.gradientContents, Heap.gradient_straight,
      Heap.contents_straight wf]

end Straight

end Tensora
