import Tensora.Tensor.Layout
import Tensora.Tensor.MemoryLogic
import Tensora.Autograd.Record

/-! The invariant of the object tables, and what reading a tensor means in a heap
that satisfies it. -/
namespace Tensora
open CheckedLoop ProgramLogic

variable {F : Type}

namespace Heap

def dims (h : Heap F) (id : TensorId) : List Nat :=
  match h.tensors[id]? with
  | none => []
  | some t => t.shape.dimensions

def autogradMeta (h : Heap F) (id : TensorId) : Option AutogradMeta :=
  h.tensors[id]?.bind Tensor.autogradMeta

def gradFn (h : Heap F) (id : TensorId) : Option GradNode :=
  (h.autogradMeta id).bind AutogradMeta.gradFn

def gradient (h : Heap F) (id : TensorId) : Option TensorId :=
  (h.autogradMeta id).bind AutogradMeta.gradient

def requiresGrad (h : Heap F) (id : TensorId) : Bool :=
  match h.autogradMeta id with
  | none => false
  | some m => m.requiresGrad

def isLeaf (h : Heap F) (id : TensorId) : Bool :=
  match h.autogradMeta id with
  | none => true
  | some m => m.isLeaf

def version (h : Heap F) (id : TensorId) : Nat :=
  match h.tensors[id]? with
  | none => 0
  | some t =>
      match h.counters[t.versionCounter]? with
      | none => 0
      | some c => c.value

def contiguous (h : Heap F) (id : TensorId) : Bool :=
  match h.tensors[id]? with
  | none => false
  | some t => t.isContiguous

def gradientContents (h : Heap F) (leaf : TensorId) : Option (List F) :=
  (h.gradient leaf).map h.contents

/-- Held by a program: it exists and is nobody's gradient. -/
def Visible (h : Heap F) (id : TensorId) : Prop :=
  id < h.tensors.length ∧ ∀ leaf, h.gradient leaf ≠ some id

end Heap

/-- The shapes each operation relates: its parents' and its result's. -/
def OpShapes : Operation → List (List Nat) → List Nat → Prop
  | .identity, [p], d => d = p
  | .reshape, [p], d => d.prod = p.prod
  | .transpose2D, [p], d => ∃ rows cols, p = [rows, cols] ∧ d = [cols, rows]
  | .add, [l, r], d => l = d ∧ r = d
  | .multiply, [l, r], d => l = d ∧ r = d
  | .sum, [_], d => d = []
  | .matmul, [l, r], d => ∃ m k n, l = [m, k] ∧ r = [k, n] ∧ d = [m, n]
  | .relu, [p], d => d = p
  | .sigmoid, [p], d => d = p
  | .tanh, [p], d => d = p
  | .gelu, [p], d => d = p
  | .silu, [p], d => d = p
  | .swiGlu, [p], d => ∃ front half, 0 < half ∧ p = front ++ [2 * half] ∧ d = front ++ [half]
  | .mse, [p, t], d => p = t ∧ d = []
  | .crossEntropy, [l, t], d => l = t ∧ (∃ batch classes, l = [batch, classes]) ∧ d = []
  | .biasAdd, [m, b], d => ∃ rows cols, m = [rows, cols] ∧ b = [cols] ∧ d = [rows, cols]
  | _, _, _ => False

/-- A tensor over a storage it covers completely. -/
structure Placed (h : Heap F) (t : Tensor) : Prop where
  device : t.device = .cpu
  deviceIndex : t.deviceIndex = 0
  offset : t.storageOffset = 0
  counter : t.versionCounter = t.storage
  layout : t.shape.Layout
  stored : ∃ values, h.storages[t.storage]? = some values ∧ values.length = t.numel
  fits : t.numel ≤ kMaxFloats

structure NodeOk (h : Heap F) (id : TensorId) (node : GradNode) : Prop where
  versions : node.parents.length = node.parentVersions.length
  earlier : ∀ p ∈ node.parents, p < id
  shapes : OpShapes node.operation (node.parents.map h.dims) (h.dims id)

/-- A leaf, or the result of a recorded operation. -/
def MetaOk (h : Heap F) (id : TensorId) (m : AutogradMeta) : Prop :=
  match m.gradFn with
  | none => m.isLeaf = true
  | some node =>
      m.requiresGrad = true ∧ m.isLeaf = false ∧ m.gradient = none ∧ NodeOk h id node

/-- A row-major tensor whose storage nothing else uses and no node refers to. -/
structure Owned (h : Heap F) (g : TensorId) (dims : List Nat) : Prop where
  tensor : ∃ t, h.tensors[g]? = some t ∧ t.autogradMeta = none ∧ t.shape = canonicalShape dims ∧
    ∀ (id : TensorId) (t' : Tensor), h.tensors[id]? = some t' → t'.storage = t.storage → id = g
  not_parent : ∀ id node, h.gradFn id = some node → g ∉ node.parents

structure WellFormed (h : Heap F) : Prop where
  counters : h.counters.length = h.storages.length
  placed : ∀ (id : TensorId) (t : Tensor), h.tensors[id]? = some t → Placed h t
  recorded : ∀ id m, h.autogradMeta id = some m → MetaOk h id m
  owned : ∀ leaf g, h.gradient leaf = some g → Owned h g (h.dims leaf)
  unique : ∀ leaf leaf' g, h.gradient leaf = some g → h.gradient leaf' = some g → leaf = leaf'

/-- A tensor whose flag is off holds no gradient. -/
def Heap.Settled (h : Heap F) : Prop := ∀ id, h.requiresGrad id = false → h.gradient id = none

theorem Heap.Settled.congr {h h' : Heap F} (z : h.Settled)
    (hm : ∀ id, h'.autogradMeta id = h.autogradMeta id) : h'.Settled := by
  intro id hoff
  rw [Heap.requiresGrad, hm] at hoff
  rw [Heap.gradient, hm]
  exact z id hoff

/-- Before the identity of counter `c`, `draw c` others were drawn. -/
structure Heap.Drawn (h : Heap F) (draw : CounterId → Nat) : Prop where
  identity : ∀ (c : CounterId) (counter : VersionCounter), h.counters[c]? = some counter →
    counter.identity = (draw c + 1) % 2 ^ 64
  increasing : ∀ c c' : CounterId, c < c' → c' < h.counters.length → draw c < draw c'
  lt : ∀ c < h.counters.length, draw c < h.drawn

theorem Heap.Drawn.congr {h h' : Heap F} {draw : CounterId → Nat} (d : h.Drawn draw)
    (hcounters : h'.counters = h.counters) (hdrawn : h'.drawn = h.drawn) : h'.Drawn draw where
  identity := by
    rw [hcounters]
    exact d.identity
  increasing := by
    rw [hcounters]
    exact d.increasing
  lt := by
    rw [hcounters, hdrawn]
    exact d.lt

/-- Identities are handed out in order, at most one for each counter, and no storage is without a
tensor. -/
structure Heap.Accounted (h : Heap F) : Prop where
  draws : ∃ draw, h.Drawn draw
  next : h.nextIdentity = (h.drawn + 1) % 2 ^ 64
  backed : ∀ s, s < h.storages.length → ∃ t ∈ h.tensors, t.storage = s

def Heap.constructedBytes (h : Heap F) : Nat := (h.storages.map byteSize).sum

/-- The live bytes are those of the storages constructed, less the `freed` ones. -/
def Heap.Charged (h : Heap F) (freed : Nat) : Prop :=
  (h.liveBytes : Int) = (h.constructedBytes - freed : Int) % 2 ^ 64

theorem Placed.index_lt {h : Heap F} {t : Tensor} (ht : Placed h t) {i : Nat} (hi : i < t.numel) :
    t.logicalStorageIndex i < t.numel :=
  (Tensor.logicalStorageIndex_bijOn ht.layout ht.offset).mapsTo hi

/-- Logical reading never meets the end of the storage. -/
theorem Placed.read_eq {h : Heap F} {t : Tensor} (ht : Placed h t) (d : F) {values : List F}
    (hs : h.storages[t.storage]? = some values) :
    h.read t = tab t.numel fun i => values.getD (t.logicalStorageIndex i) d := by
  obtain ⟨values', hs', hlen⟩ := ht.stored
  obtain rfl : values = values' := Option.some.inj (hs.symm.trans hs')
  unfold Heap.read tab
  rw [List.getD_eq_getElem?_getD, hs, Option.getD_some, ← List.filterMap_eq_map]
  refine List.filterMap_congr fun i hi => ?_
  have hlt := ht.index_lt (List.mem_range.mp hi)
  rw [Function.comp_apply, List.getD_eq_getElem?_getD, List.getElem?_eq_getElem (by omega),
    Option.getD_some]

theorem Placed.length_read {h : Heap F} {t : Tensor} (ht : Placed h t) :
    (h.read t).length = t.numel := by
  obtain ⟨values, hs, hlen⟩ := ht.stored
  cases values with
  | nil =>
      have hzero : t.numel = 0 := by simpa using hlen.symm
      simp [Heap.read, hzero]
  | cons d values => rw [ht.read_eq d hs, length_tab]

theorem Placed.read_contiguous {h : Heap F} {t : Tensor} (ht : Placed h t) {values : List F}
    (hs : h.storages[t.storage]? = some values)
    (hc : t.shape.strides = rowMajorStrides t.shape.dimensions) : h.read t = values := by
  obtain ⟨values', hs', hlen⟩ := ht.stored
  obtain rfl : values = values' := Option.some.inj (hs.symm.trans hs')
  cases values with
  | nil =>
      have hzero : t.numel = 0 := by simpa using hlen.symm
      simp [Heap.read, hzero]
  | cons d rest =>
      rw [ht.read_eq d hs, eq_tab_getD (d :: rest) d, hlen]
      refine tab_congr fun i hi => ?_
      rw [Tensor.logicalStorageIndex_contiguous ht.layout hc ht.offset hi, ← hlen, ← eq_tab_getD]

def transposeData (rows cols : Nat) (data : List F) : List F :=
  (List.range (cols * rows)).filterMap fun i => data[i % rows * cols + i / rows]?

theorem Placed.read_transposed {h : Heap F} {t : Tensor} (ht : Placed h t) {values : List F}
    {rows cols : Nat} (hs : h.storages[t.storage]? = some values)
    (hd : t.shape.dimensions = [rows, cols]) (hc : t.shape.strides = [1, rows]) :
    h.read t = transposeData cols rows values := by
  have hn : t.numel = rows * cols := by
    have := ht.layout.numel_eq
    rw [hd] at this
    simpa [Tensor.numel] using this
  unfold Heap.read transposeData
  rw [List.getD_eq_getElem?_getD, hs, Option.getD_some, hn]
  refine List.filterMap_congr fun i hi => ?_
  rw [Tensor.logicalStorageIndex_transposed ht.layout hd hc ht.offset
    (by rw [hn]; exact List.mem_range.mp hi)]

theorem Heap.contents_of {h : Heap F} {id : TensorId} {t : Tensor} (ht : h.tensors[id]? = some t) :
    h.contents id = h.read t := by
  simp only [Heap.contents, ht]

theorem Heap.dims_of {h : Heap F} {id : TensorId} {t : Tensor} (ht : h.tensors[id]? = some t) :
    h.dims id = t.shape.dimensions := by
  simp only [Heap.dims, ht]

theorem Heap.autogradMeta_of {h : Heap F} {id : TensorId} {t : Tensor}
    (ht : h.tensors[id]? = some t) : h.autogradMeta id = t.autogradMeta := by
  simp only [Heap.autogradMeta, ht, Option.bind_some]

theorem Heap.requiresGrad_of {h : Heap F} {id : TensorId} {t : Tensor}
    (ht : h.tensors[id]? = some t) : h.requiresGrad id = t.requiresGrad := by
  cases hm : t.autogradMeta <;>
    simp [Heap.requiresGrad, Tensor.requiresGrad, Heap.autogradMeta_of ht, hm]

theorem Heap.contiguous_of {h : Heap F} {id : TensorId} {t : Tensor}
    (ht : h.tensors[id]? = some t) :
    h.contiguous id = t.isContiguous := by
  simp only [Heap.contiguous, ht]

theorem Heap.gradFn_of {h : Heap F} {id : TensorId} {t : Tensor} (ht : h.tensors[id]? = some t) :
    h.gradFn id = t.gradFn := by
  rw [Heap.gradFn, Heap.autogradMeta_of ht, Tensor.gradFn]

theorem Heap.gradient_of {h : Heap F} {id : TensorId} {t : Tensor} (ht : h.tensors[id]? = some t) :
    h.gradient id = t.gradient := by
  rw [Heap.gradient, Heap.autogradMeta_of ht, Tensor.gradient]

theorem Heap.Visible.get {h : Heap F} {id : TensorId} (hv : h.Visible id) :
    ∃ t, h.tensors[id]? = some t := ⟨_, List.getElem?_eq_getElem hv.1⟩

theorem Heap.lt_of_meta {h : Heap F} {id : TensorId} {m : AutogradMeta}
    (hm : h.autogradMeta id = some m) :
    id < h.tensors.length := by
  by_contra hle
  rw [Heap.autogradMeta, List.getElem?_eq_none (Nat.le_of_not_lt hle)] at hm
  cases hm

section WellFormed
variable {h : Heap F} (wf : WellFormed h)
include wf

theorem WellFormed.length_contents {id : TensorId} {t : Tensor} (ht : h.tensors[id]? = some t) :
    (h.contents id).length = (h.dims id).prod := by
  have hp := wf.placed id t ht
  rw [Heap.contents_of ht, Heap.dims_of ht, hp.length_read]
  exact hp.layout.numel_eq

theorem WellFormed.dims_valid {id : TensorId} {t : Tensor} (ht : h.tensors[id]? = some t) :
    ValidDims (h.dims id) := by
  rw [Heap.dims_of ht]
  exact (wf.placed id t ht).layout.valid

theorem WellFormed.node {id : TensorId} {node : GradNode} (hn : h.gradFn id = some node) :
    h.requiresGrad id = true ∧ h.isLeaf id = false ∧ h.gradient id = none ∧ NodeOk h id node := by
  unfold Heap.gradFn at hn
  cases hm : h.autogradMeta id with
  | none => rw [hm] at hn; cases hn
  | some m =>
      rw [hm, Option.bind_some] at hn
      have hok := wf.recorded id m hm
      simp only [MetaOk, hn] at hok
      refine ⟨?_, ?_, ?_, hok.2.2.2⟩
      · simp only [Heap.requiresGrad, hm, hok.1]
      · simp only [Heap.isLeaf, hm, hok.2.1]
      · simp only [Heap.gradient, hm, Option.bind_some, hok.2.2.1]

theorem WellFormed.parent_visible {id : TensorId} {node : GradNode} (hn : h.gradFn id = some node)
    {p : TensorId} (hp : p ∈ node.parents) : h.Visible p := by
  have hlt : id < h.tensors.length := by
    cases hm : h.autogradMeta id with
    | none => simp [Heap.gradFn, hm] at hn
    | some m => exact Heap.lt_of_meta hm
  refine ⟨((wf.node hn).2.2.2.earlier p hp).trans hlt, fun leaf hg => ?_⟩
  exact (wf.owned leaf p hg).not_parent id node hn hp

end WellFormed

section Observations
variable {h : Heap F}

theorem Tensor.copyToHostF32_eq {m : Memory F} {t : Tensor} (ht : Placed m.heap t) {capacity : Nat}
    (hcap : t.numel ≤ capacity) :
    (t.copyToHostF32 capacity : Mem F (List F)) m = .ok (m.heap.read t) m := by
  obtain ⟨values, hs, hlen⟩ := ht.stored
  have hdtype : t.dtype = .float32 := by cases t.dtype; rfl
  have hrun : wp (t.copyToHostF32 capacity : Mem F (List F))
      (fun r m' => r = m.heap.read t ∧ m' = m) (fun _ _ => False) m := by
    simp only [Tensor.copyToHostF32, storageValues, getHeap, wp_bind, wp_get, wp_pure, wp_failIf,
      hs, hdtype, ne_eq, not_true_eq_false, false_implies, not_false_eq_true, true_implies,
      true_and]
    refine ⟨fun hlt => absurd hlt (Nat.not_lt.mpr hcap), fun _ => ?_⟩
    refine wp_ite (fun hfast => ?_) fun _ => ?_
    · have hc := (Tensor.isContiguous_iff ht.layout).mp hfast.1
      simp only [cpuStorageCopyToHostF32, wp_bind, wp_failIf, wp_pure, hlen, not_true_eq_false,
        false_implies, not_false_eq_true, true_implies, true_and]
      refine ⟨fun hlt => absurd hlt (Nat.not_lt.mpr hcap), fun _ => ?_⟩
      exact ⟨(ht.read_contiguous hs hc).symm, trivial⟩
    · rw [wp_bind, wp_failIf]
      refine ⟨fun hdev => ?_, fun _ => ?_⟩
      · rcases hdev with hdev | hdev
        · exact hdev ht.device
        · exact hdev ht.deviceIndex
      have hread : ∀ i ∈ List.range t.numel, ∃ x, values[t.logicalStorageIndex i]? = some x :=
        fun i hi => ⟨_, List.getElem?_eq_getElem (by
          have := ht.index_lt (List.mem_range.mp hi)
          omega)⟩
      have hvals : m.heap.read t =
          (List.range t.numel).filterMap fun i => values[t.logicalStorageIndex i]? := by
        simp only [Heap.read, List.getD_eq_getElem?_getD, hs, Option.getD_some]
      rw [hvals]
      generalize List.range t.numel = indices at hread
      clear hvals
      induction indices with
      | nil => exact ⟨rfl, rfl⟩
      | cons i indices ih =>
          obtain ⟨x, hx⟩ := hread i (by simp)
          rw [List.mapM_cons, List.filterMap_cons]
          simp only [hx, pure_bind]
          refine wp_seq (ih fun j hj => hread j (by simp [hj])) (fun _ _ he => he) ?_
          rintro _ _ ⟨rfl, rfl⟩
          exact ⟨rfl, rfl⟩
  obtain ⟨_, _, hx, rfl, rfl⟩ := ok_of_wp hrun
  exact hx

theorem Tensor.observes_copyToHostF32 {t : Tensor} (ht : Placed h t) {capacity : Nat}
    (hcap : t.numel ≤ capacity) :
    Observes (t.copyToHostF32 capacity : Mem F (List F)) h fun xs => xs = h.read t := by
  intro a
  unfold wp
  rw [Tensor.copyToHostF32_eq (m := ⟨h, a⟩) ht hcap]
  exact ⟨Allocator.Ran.refl a, rfl, rfl⟩

end Observations

namespace Autograd

section Observations
variable {h : Heap F} {id : TensorId} {t : Tensor}

theorem spec_ensureCpuFloat32 (ht : Placed h t) (operation : String) :
    Spec (ensureCpuFloat32 t operation : Mem F Unit) h (fun _ h' => h' = h) (fun _ _ => False)
      fun _ => False := by
  unfold ensureCpuFloat32
  refine spec_failIf_bind (fun hdev => ?_) fun _ => ?_
  · rcases hdev with hdev | hdev
    · exact hdev ht.device
    · exact hdev ht.deviceIndex
  · exact spec_failIf (fun hne => hne (by cases t.dtype; rfl)) fun _ => rfl

theorem observes_ensureCpuFloat32 (ht : Placed h t) (operation : String) :
    Observes (ensureCpuFloat32 t operation : Mem F Unit) h fun _ => True :=
  (spec_ensureCpuFloat32 ht operation).mono (fun _ _ hq => ⟨hq, trivial⟩) (fun _ _ he => he)
    fun _ hx => hx.elim

theorem wp_readLogicalCpuValues (wf : WellFormed h) (ht : h.tensors[id]? = some t)
    (operation : String) (a : Allocator) :
    wp (readLogicalCpuValues id operation : Mem F (List F))
      (fun xs m => a.fails a.count = false ∧ xs = h.contents id ∧ m = ⟨h, a.after 1⟩)
      (fun e m => a.fails a.count = true ∧
        e = outOfMemory (operation ++ ": allocation failed") ∧ m = ⟨h, a.after 1⟩) ⟨h, a⟩ := by
  have hp := wf.placed id t ht
  have hfits : ¬t.numel > kMaxFloats := Nat.not_lt.mpr hp.fits
  unfold readLogicalCpuValues
  refine wp_bind_of_ok (deref_eq (m := ⟨h, a⟩) ht) ?_
  refine wp_seq (P := fun _ m => m = ⟨h, a⟩) (R := fun _ _ => False) ?_ (fun _ _ he => he.elim) ?_
  · simp only [ensureCpuFloat32, wp_bind, wp_failIf, hp.device, hp.deviceIndex, ne_eq,
      not_true_eq_false, or_self, false_implies, not_false_eq_true, true_implies, true_and]
  rintro _ _ rfl
  refine wp_seq (P := fun _ m => a.fails a.count = false ∧ m = ⟨h, a.after 1⟩)
    (wp_allocationGuard operation ?_) (fun _ _ he => he) ?_
  · simp only [allocateFloats, wp_bind, wp_failIf, hfits, false_implies, not_false_eq_true,
      true_implies, true_and, wp_allocate]
    exact ⟨fun hfail => ⟨hfail, rfl, trivial⟩, fun hok => ⟨hok, trivial⟩⟩
  rintro _ _ ⟨hok, rfl⟩
  have hcopy := Tensor.copyToHostF32_eq (m := ⟨h, a.after 1⟩) hp (Nat.le_refl _)
  unfold wp
  rw [hcopy]
  exact ⟨hok, (Heap.contents_of ht).symm, rfl⟩

theorem observes_readLogicalCpuValues (wf : WellFormed h) (ht : h.tensors[id]? = some t)
    (operation : String) :
    Observes (readLogicalCpuValues id operation : Mem F (List F)) h
      fun xs => xs = h.contents id := by
  have hp := wf.placed id t ht
  unfold readLogicalCpuValues
  refine (observes_deref ht).bind rfl ?_
  rintro t rfl
  refine (observes_ensureCpuFloat32 hp operation).bind rfl fun _ _ => ?_
  refine (observes_allocationGuard operation (observes_allocateFloats h hp.fits)).bind rfl
    fun _ _ => ?_
  rw [Heap.contents_of ht]
  exact Tensor.observes_copyToHostF32 hp (Nat.le_refl _)

theorem spec_directAccess {access : TensorId → String → Mem F (List F)}
    {rejected partialExtent : String}
    (haccess : ∀ id operation, access id operation = do
      let t ← deref id
      ensureCpuFloat32 t operation
      failIf (¬t.isContiguous ∨ t.storageOffset ≠ 0) (invalidArgument (operation ++ rejected))
      let values ← storageValues t
      failIf (values.length ≠ t.numel) (invalidArgument (operation ++ partialExtent))
      return values)
    (wf : WellFormed h) (ht : h.tensors[id]? = some t) (operation : String) :
    Spec (access id operation) h
      (fun xs h' => h' = h ∧ t.isContiguous = true ∧ xs = h.contents id ∧
        h.storages[t.storage]? = some xs)
      (fun e h' => h' = h ∧ t.isContiguous = false ∧ e = invalidArgument (operation ++ rejected))
      (fun _ => False) := by
  have hp := wf.placed id t ht
  obtain ⟨values, hs, hlen⟩ := hp.stored
  rw [haccess]
  refine Spec.bind ((spec_deref ht).mono (fun _ _ hq => hq) (fun _ _ he => he.elim)
    fun _ hx => hx) ?_
  rintro t h ⟨rfl, rfl⟩
  refine Spec.bind ((spec_ensureCpuFloat32 hp operation).mono (fun _ _ hq => hq)
    (fun _ _ he => he.elim) fun _ hx => hx) ?_
  rintro _ h rfl
  refine spec_failIf_bind (fun hbad => ?_) fun hok => ?_
  · rcases hbad with hbad | hbad
    · exact ⟨rfl, by simpa using hbad, rfl⟩
    · exact absurd hp.offset hbad
  · have hc : t.isContiguous = true := by
      by_contra hne
      exact hok (Or.inl hne)
    refine Spec.bind ((spec_storageValues hs).mono (fun _ _ hq => hq) (fun _ _ he => he.elim)
      fun _ hx => hx) ?_
    rintro values h ⟨rfl, rfl⟩
    refine spec_failIf_bind (fun hne => absurd hlen hne) fun _ => ?_
    refine spec_pure ⟨rfl, hc, ?_, hs⟩
    rw [Heap.contents_of ht, hp.read_contiguous hs ((Tensor.isContiguous_iff hp.layout).mp hc)]

theorem spec_cpuValues (wf : WellFormed h) (ht : h.tensors[id]? = some t) (operation : String) :
    Spec (cpuValues id operation : Mem F (List F)) h
      (fun xs h' => h' = h ∧ t.isContiguous = true ∧ xs = h.contents id ∧
        h.storages[t.storage]? = some xs)
      (fun e h' => h' = h ∧ t.isContiguous = false ∧
        e = invalidArgument (operation ++ ": direct storage access requires a contiguous tensor"))
      (fun h' => h' = h) :=
  (spec_directAccess (fun _ _ => rfl) wf ht operation).mono (fun _ _ hq => hq) (fun _ _ he => he)
    fun _ hx => hx.elim

theorem directAccess_eq {access : TensorId → String → Mem F (List F)}
    {rejected partialExtent : String}
    (haccess : ∀ id operation, access id operation = do
      let t ← deref id
      ensureCpuFloat32 t operation
      failIf (¬t.isContiguous ∨ t.storageOffset ≠ 0) (invalidArgument (operation ++ rejected))
      let values ← storageValues t
      failIf (values.length ≠ t.numel) (invalidArgument (operation ++ partialExtent))
      return values)
    {m : Memory F} (wf : WellFormed m.heap) (ht : m.heap.tensors[id]? = some t)
    (hc : t.isContiguous = true) (operation : String) :
    access id operation m = .ok (m.heap.contents id) m := by
  have hp := wf.placed id t ht
  obtain ⟨values, hs, hlen⟩ := hp.stored
  have hrun : wp (access id operation)
      (fun r m' => r = m.heap.contents id ∧ m' = m) (fun _ _ => False) m := by
    simp only [haccess, ensureCpuFloat32, storageValues, deref, getHeap, wp_bind, wp_get, wp_pure,
      wp_failIf, ht, hs, hp.device, hp.deviceIndex, hp.offset, hc, hlen, ne_eq,
      not_true_eq_false, or_self, false_implies, not_false_eq_true, true_implies, and_true,
      true_and]
    rw [Heap.contents_of ht, hp.read_contiguous hs ((Tensor.isContiguous_iff hp.layout).mp hc)]
  obtain ⟨_, _, hx, rfl, rfl⟩ := ok_of_wp hrun
  exact hx

theorem cpuValues_eq {m : Memory F} (wf : WellFormed m.heap) (ht : m.heap.tensors[id]? = some t)
    (hc : t.isContiguous = true) (operation : String) :
    (cpuValues id operation : Mem F (List F)) m = .ok (m.heap.contents id) m :=
  directAccess_eq (fun _ _ => rfl) wf ht hc operation

theorem mutableCpuValues_eq {m : Memory F} (wf : WellFormed m.heap)
    (ht : m.heap.tensors[id]? = some t) (hc : t.isContiguous = true) (operation : String) :
    (mutableCpuValues id operation : Mem F (List F)) m = .ok (m.heap.contents id) m :=
  directAccess_eq (fun _ _ => rfl) wf ht hc operation

theorem spec_mutableCpuValues (wf : WellFormed h) (ht : h.tensors[id]? = some t)
    (operation : String) :
    Spec (mutableCpuValues id operation : Mem F (List F)) h
      (fun xs h' => h' = h ∧ t.isContiguous = true ∧ xs = h.contents id ∧
        h.storages[t.storage]? = some xs)
      (fun e h' => h' = h ∧ t.isContiguous = false ∧
        e = invalidArgument (operation ++ ": mutable storage access requires a contiguous tensor"))
      (fun h' => h' = h) :=
  (spec_directAccess (fun _ _ => rfl) wf ht operation).mono (fun _ _ hq => hq) (fun _ _ he => he)
    fun _ hx => hx.elim

theorem observes_requiresGrad (ht : h.tensors[id]? = some t) :
    Observes (requiresGrad id : Mem F Bool) h fun b => b = h.requiresGrad id := by
  unfold requiresGrad
  refine (observes_deref ht).bind rfl ?_
  rintro t rfl
  exact spec_pure ⟨rfl, (Heap.requiresGrad_of ht).symm⟩

end Observations

end Autograd

end Tensora
