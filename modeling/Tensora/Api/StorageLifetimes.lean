import Mathlib.Algebra.Order.BigOperators.Group.List
import Tensora.Api.Runs
import Tensora.Api.Sample

/-! What live storages hold. A storage is charged to `live_bytes_` when it is constructed and
taken off it when it is destroyed, each time at the size its vector has then. -/
namespace Tensora
open Training

variable {F D : Type}

namespace Heap

/-- `CpuStorage::byte_size` of a storage. -/
def bytesOf (h : Heap F) (id : StorageId) : Nat := byteSize (h.storages.getD id [])

/-- `CpuStorage::~CpuStorage`. -/
def destroyStorage (h : Heap F) (id : StorageId) : Heap F :=
  { h with liveBytes := sub64 h.liveBytes (h.bytesOf id) }

theorem constructedBytes_eq (h : Heap F) :
    h.constructedBytes = ((List.range h.storages.length).map h.bytesOf).sum := by
  unfold constructedBytes
  congr 1
  apply List.ext_getElem
  · simp
  · intro i hi _
    rw [List.length_map] at hi
    simp only [List.getElem_map, List.getElem_range, bytesOf, List.getD_eq_getElem?_getD,
      List.getElem?_eq_getElem hi, Option.getD_some]

theorem Charged.destroyStorage {h : Heap F} {freed : Nat} (c : h.Charged freed) (id : StorageId) :
    (h.destroyStorage id).Charged (h.bytesOf id + freed) := by
  have hbytes : (h.destroyStorage id).constructedBytes = h.constructedBytes := rfl
  have hlive : (h.destroyStorage id).liveBytes = sub64 h.liveBytes (h.bytesOf id) := rfl
  unfold Charged at c ⊢
  rw [hbytes, hlive, sub64]
  omega

end Heap

theorem Evolves.length_storage {h h' : Heap F} (e : Evolves h h') (wf : WellFormed h)
    (a : h.Accounted) {id : StorageId} {values : List F} (hs : h.storages[id]? = some values) :
    ∃ values', h'.storages[id]? = some values' ∧ values'.length = values.length := by
  obtain ⟨t, hmem, rfl⟩ := a.backed id (List.getElem?_eq_some_iff.mp hs).1
  obtain ⟨tensor, ht⟩ := List.mem_iff_getElem?.mp hmem
  obtain ⟨m, hm⟩ := e.tensors tensor t ht
  obtain ⟨old, hold, hlen⟩ := (wf.placed tensor t ht).stored
  obtain ⟨new, hnew, hlen'⟩ := (e.wellFormed.placed tensor _ hm).stored
  obtain rfl : values = old := Option.some.inj (hs.symm.trans hold)
  exact ⟨new, hnew, hlen'.trans hlen.symm⟩

theorem Evolves.bytesOf {h h' : Heap F} (e : Evolves h h') (wf : WellFormed h) (a : h.Accounted)
    {id : StorageId} (hid : id < h.storages.length) : h'.bytesOf id = h.bytesOf id := by
  have hs := List.getElem?_eq_getElem hid
  obtain ⟨values', hs', hlen⟩ := e.length_storage wf a hs
  simp only [Heap.bytesOf, List.getD_eq_getElem?_getD, hs, hs', Option.getD_some, byteSize, hlen]

/-- The invariant does not look at the live bytes. -/
theorem Runtime.Ok.destroyStorage {s : Runtime F D} (ok : s.Ok) (id : StorageId) :
    Runtime.Ok { s with memory := { s.memory with heap := s.heap.destroyStorage id } } where
  wellFormed := Heap.wellFormed_of_tables ok.wellFormed rfl rfl rfl
  versioned := ⟨ok.versioned.value, ok.versioned.known⟩
  tensors := ok.tensors
  modules := fun state hmem =>
    have h := ok.modules state hmem
    ⟨h.weight_visible, h.weight_dims, h.weight_rowMajor, h.useBias, h.bias_visible, h.bias_dims,
      h.bias_rowMajor, h.separate⟩
  optimizers := fun state hmem =>
    have ⟨module, hm, hfits⟩ := (ok.optimizers state hmem).bound
    ⟨module, hm, hfits.first, hfits.second⟩
  parameterOptimizers := fun state hmem =>
    have h := ok.parameterOptimizers state hmem
    ⟨h.updatable, ⟨h.fits.first, h.fits.second⟩, h.distinct⟩
  handles := ok.handles

namespace Api

/-- The core build with the storages whose last owner is gone. -/
structure Process (F D : Type) where
  runtime : Runtime F D
  destroyed : List StorageId

namespace Process
variable {p q : Process F D}

def heap (p : Process F D) : Heap F := p.runtime.heap

def live (p : Process F D) : List StorageId :=
  (List.range p.heap.storages.length).filter fun id => id ∉ p.destroyed

def liveSize (p : Process F D) : Nat := (p.live.map p.heap.bytesOf).sum

def freed (p : Process F D) : Nat := (p.destroyed.map p.heap.bytesOf).sum

def destroy (p : Process F D) (id : StorageId) : Process F D where
  runtime := { p.runtime with
    memory := { p.runtime.memory with heap := p.heap.destroyStorage id } }
  destroyed := id :: p.destroyed

section Steps
variable [Scalar F] [Scalar D] [Precision F D] [FloatBits F]

/-- A call, or the end of a live storage. Which storages lose their last owner, and when,
is left open. -/
inductive Step : Process F D → Process F D → Prop where
  | call (p : Process F D) (call : Call F D) : Step p { p with runtime := after p.runtime call }
  | destroy (p : Process F D) (id : StorageId) (hlive : id ∈ p.live) : Step p (p.destroy id)

def Reaches : Process F D → Process F D → Prop := Relation.ReflTransGen Step

def Reachable (p : Process F D) : Prop :=
  ∃ fails files, Reaches ⟨Runtime.initial fails files, []⟩ p

end Steps

structure Balanced (p : Process F D) : Prop where
  ok : p.runtime.Ok
  accounted : p.heap.Accounted
  charged : p.heap.Charged p.freed
  distinct : p.destroyed.Nodup
  constructed : ∀ id ∈ p.destroyed, id < p.heap.storages.length

theorem mem_live {id : StorageId} :
    id ∈ p.live ↔ id < p.heap.storages.length ∧ id ∉ p.destroyed := by
  simp [live]

theorem Balanced.liveSize_add (b : p.Balanced) :
    p.liveSize + p.freed = p.heap.constructedBytes := by
  have hsplit : (p.live ++ p.destroyed).Perm (List.range p.heap.storages.length) := by
    refine (List.perm_ext_iff_of_nodup ?_ List.nodup_range).mpr fun id => ?_
    · refine List.nodup_append.mpr ⟨List.nodup_range.filter _, b.distinct, ?_⟩
      rintro id hid _ hid' rfl
      exact (mem_live.mp hid).2 hid'
    · rw [List.mem_append, mem_live, List.mem_range]
      constructor
      · rintro (⟨hlt, -⟩ | hmem)
        · exact hlt
        · exact b.constructed id hmem
      · intro hlt
        by_cases hmem : id ∈ p.destroyed
        · exact Or.inr hmem
        · exact Or.inl ⟨hlt, hmem⟩
  rw [Heap.constructedBytes_eq, ← (hsplit.map p.heap.bytesOf).sum_eq, List.map_append,
    List.sum_append]
  rfl

theorem Balanced.liveBytes_eq (b : p.Balanced) : p.heap.liveBytes = p.liveSize % 2 ^ 64 := by
  have hcharged : (p.heap.liveBytes : Int) =
      (p.heap.constructedBytes - p.freed : Int) % 2 ^ 64 := b.charged
  rw [← b.liveSize_add] at hcharged
  omega

theorem bytesOf_le {id : StorageId} (hlive : id ∈ p.live) :
    p.heap.bytesOf id ≤ p.liveSize :=
  List.single_le_sum (fun _ _ => Nat.zero_le _) _ (List.mem_map_of_mem hlive)

theorem Balanced.destroy (b : p.Balanced) {id : StorageId} (hlive : id ∈ p.live) :
    (p.destroy id).Balanced := by
  obtain ⟨hlt, hnew⟩ := mem_live.mp hlive
  have accounted : (p.heap.destroyStorage id).Accounted :=
    ⟨b.accounted.draws.imp fun _ d => d.congr rfl rfl, b.accounted.next, b.accounted.backed⟩
  refine ⟨b.ok.destroyStorage id, accounted,
    b.charged.destroyStorage id, List.nodup_cons.mpr ⟨hnew, b.distinct⟩, fun id' hmem => ?_⟩
  rcases List.mem_cons.mp hmem with rfl | hmem
  · exact hlt
  · exact b.constructed id' hmem

section Runs
variable [Scalar F] [Scalar D] [Precision F D] [FloatBits F]

theorem Balanced.call (b : p.Balanced) (call : Call F D) :
    Balanced { p with runtime := after p.runtime call } := by
  obtain ⟨ok, hm⟩ := after_moves b.ok call
  have e := Call.Moves.evolves b.ok hm
  have hbytes : ∀ id, id < p.heap.storages.length →
      (after p.runtime call).heap.bytesOf id = p.heap.bytesOf id :=
    fun id hid => e.bytesOf b.ok.wellFormed b.accounted hid
  refine ⟨ok, e.accounted b.accounted, ?_, b.distinct, fun id hmem => ?_⟩
  · have hfreed : freed { p with runtime := after p.runtime call } = p.freed := by
      unfold freed
      congr 1
      exact List.map_congr_left fun id hmem => hbytes id (b.constructed id hmem)
    rw [hfreed]
    exact e.charged p.freed b.charged
  · have hs := List.getElem?_eq_getElem (b.constructed id hmem)
    obtain ⟨values', hs', -⟩ := e.length_storage b.ok.wellFormed b.accounted hs
    exact (List.getElem?_eq_some_iff.mp hs').1

theorem Balanced.step (b : p.Balanced) (hstep : Step p q) :
    q.Balanced ∧ ∀ (id : StorageId) (values : List F), p.heap.storages[id]? = some values →
      ∃ values', q.heap.storages[id]? = some values' ∧ values'.length = values.length := by
  cases hstep with
  | call call =>
      have e := Call.Moves.evolves b.ok (after_moves b.ok call).2
      exact ⟨b.call call, fun id values hs => e.length_storage b.ok.wellFormed b.accounted hs⟩
  | destroy id hlive => exact ⟨b.destroy hlive, fun _ values hs => ⟨values, hs, rfl⟩⟩

theorem Balanced.run (b : p.Balanced) (hrun : Reaches p q) :
    q.Balanced ∧ ∀ (id : StorageId) (values : List F), p.heap.storages[id]? = some values →
      ∃ values', q.heap.storages[id]? = some values' ∧ values'.length = values.length := by
  induction hrun with
  | refl => exact ⟨b, fun _ values hs => ⟨values, hs, rfl⟩⟩
  | tail _ hstep ih =>
      obtain ⟨b', hkept⟩ := ih
      obtain ⟨b'', hkept'⟩ := b'.step hstep
      refine ⟨b'', fun id values hs => ?_⟩
      obtain ⟨values', hs', hlen⟩ := hkept id values hs
      obtain ⟨values'', hs'', hlen'⟩ := hkept' id values' hs'
      exact ⟨values'', hs'', hlen'.trans hlen⟩

theorem Reachable.balanced (hp : p.Reachable) : p.Balanced := by
  obtain ⟨fails, files, hrun⟩ := hp
  have hstart : Balanced (⟨Runtime.initial fails files, []⟩ : Process F D) :=
    ⟨ok_initial fails files, accounted_empty, rfl, List.nodup_nil, fun _ hmem => by cases hmem⟩
  exact (hstart.run hrun).1

/-- In every state the live bytes are those of the live storages, in 64 bits; as these lie apart
in a 64-bit address space, the counter is exact and covers whichever storage goes next; and no
step changes the number of elements of a storage. -/
theorem live_bytes_exact (hp : p.Reachable) (hrun : Reaches p q) :
    q.heap.liveBytes = q.liveSize % 2 ^ 64 ∧
      (q.liveSize < 2 ^ 64 → q.heap.liveBytes = q.liveSize ∧
        ∀ id ∈ q.live, q.heap.bytesOf id ≤ q.heap.liveBytes) ∧
      ∀ (id : StorageId) (values : List F), p.heap.storages[id]? = some values →
        ∃ values', q.heap.storages[id]? = some values' ∧ values'.length = values.length := by
  obtain ⟨b, hkept⟩ := hp.balanced.run hrun
  refine ⟨b.liveBytes_eq, fun hfits => ?_, hkept⟩
  have hexact := b.liveBytes_eq.trans (Nat.mod_eq_of_lt hfits)
  refine ⟨hexact, fun id hlive => ?_⟩
  rw [hexact]
  exact bytesOf_le hlive

end Runs

def twoTensors : Process Word Word :=
  ⟨sampleRun [.tensorFromF32 [1, 2] [2], .tensorCloneDetached 1], []⟩

theorem live_bytes_exact_two :
    twoTensors.heap.liveBytes = 16 ∧ (twoTensors.destroy 0).heap.liveBytes = 8 := by
  have hfirst : Step (⟨sampleRun [], []⟩ : Process Word Word)
      ⟨sampleRun [.tensorFromF32 [1, 2] [2]], []⟩ := Step.call _ (.tensorFromF32 [1, 2] [2])
  have hsecond : Step ⟨sampleRun [.tensorFromF32 [1, 2] [2]], []⟩ twoTensors :=
    Step.call _ (.tensorCloneDetached 1)
  have hreachable : twoTensors.Reachable :=
    ⟨fun _ => false, emptyDisk, (Relation.ReflTransGen.single hfirst).tail hsecond⟩
  have hdestroyed : Reaches twoTensors (twoTensors.destroy 0) :=
    Relation.ReflTransGen.single (Step.destroy _ 0 (by decide +kernel))
  refine ⟨(live_bytes_exact hreachable .refl).1.trans ?_,
    (live_bytes_exact hreachable hdestroyed).1.trans ?_⟩
  · decide +kernel
  · decide +kernel

end Process

end Api

end Tensora
