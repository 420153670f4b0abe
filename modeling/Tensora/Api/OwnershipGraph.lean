import Tensora.Api.StorageLifetimes
import Tensora.Lib.Releases

/-! Who owns whom in the core build, and what is left once no handle is: the references have
no cycle, so counting them frees every storage. -/
namespace Tensora
open Training Acyclicity Releases

variable {F D : Type}

/-- What is held by a `shared_ptr`, and the registry's entries. -/
inductive Item where
  | handle (handle : Nat)
  | tensor (id : TensorId)
  | autogradMeta (id : TensorId)
  | gradNode (id : TensorId)
  | storage (id : StorageId)
  | versionCounter (id : CounterId)
  | module (object : Nat)
  | optimizer (object : Nat)
  | parameterOptimizer (object : Nat)
  deriving DecidableEq, Repr

def Entry.item (entry : Entry) : Option Item :=
  match entry.type with
  | .tensor => some (.tensor entry.object)
  | .module => some (.module entry.object)
  | .optimizer => some (.optimizer entry.object)
  | .parameterOptimizer => some (.parameterOptimizer entry.object)
  | _ => none

/-- The owning references of a state. -/
inductive Owns (s : Runtime F D) : Item → Item → Prop where
  | entry {handle : Nat} {entry : Entry} {item : Item} (hfind : s.registry.find handle = some entry)
      (hitem : entry.item = some item) : Owns s (.handle handle) item
  | storage {id : TensorId} {t : Tensor} (ht : s.heap.tensors[id]? = some t) :
      Owns s (.tensor id) (.storage t.storage)
  | versionCounter {id : TensorId} {t : Tensor} (ht : s.heap.tensors[id]? = some t) :
      Owns s (.tensor id) (.versionCounter t.versionCounter)
  | autogradMeta {id : TensorId} {m : AutogradMeta} (hm : s.heap.autogradMeta id = some m) :
      Owns s (.tensor id) (.autogradMeta id)
  | gradient {id g : TensorId} (hg : s.heap.gradient id = some g) :
      Owns s (.autogradMeta id) (.tensor g)
  | gradFn {id : TensorId} {node : GradNode} (hn : s.heap.gradFn id = some node) :
      Owns s (.autogradMeta id) (.gradNode id)
  | parent {id p : TensorId} {node : GradNode} (hn : s.heap.gradFn id = some node)
      (hp : p ∈ node.parents) : Owns s (.gradNode id) (.tensor p)
  | weight {object : Nat} {state : LinearState} (hs : s.modules[object]? = some state) :
      Owns s (.module object) (.tensor state.weight)
  | bias {object : Nat} {state : LinearState} {b : TensorId} (hs : s.modules[object]? = some state)
      (hb : state.bias = some b) : Owns s (.module object) (.tensor b)
  | module {object : Nat} {state : OptimizerState F D} (hs : s.optimizers[object]? = some state) :
      Owns s (.optimizer object) (.module state.module)
  | parameter {object : Nat} {state : ParameterOptimizerState F D} {p : TensorId}
      (hs : s.parameterOptimizers[object]? = some state) (hp : p ∈ state.parameters) :
      Owns s (.parameterOptimizer object) (.tensor p)

/-- Below a tensor with metadata stand its metadata, its node and the tensors before it; a gradient
has no metadata. -/
def ownershipRank (h : Heap F) : Item → Nat
  | .storage _ | .versionCounter _ => 0
  | .tensor id => if (h.autogradMeta id).isSome then 3 * id + 4 else 1
  | .autogradMeta id => 3 * id + 3
  | .gradNode id => 3 * id + 2
  | .module _ | .parameterOptimizer _ => 3 * h.tensors.length + 5
  | .optimizer _ => 3 * h.tensors.length + 6
  | .handle _ => 3 * h.tensors.length + 7

theorem ownershipRank_tensor_le (h : Heap F) (id : TensorId) :
    ownershipRank h (.tensor id) ≤ 3 * id + 4 := by
  simp only [ownershipRank]
  split
  · exact Nat.le_refl _
  · exact Nat.le_add_left 1 (3 * id + 3)

theorem ownershipRank_tensor_lt {h : Heap F} {id : TensorId} (hv : h.Visible id) :
    ownershipRank h (.tensor id) < 3 * h.tensors.length + 5 := by
  have hle := ownershipRank_tensor_le h id
  have hlt := hv.1
  exact Nat.lt_of_le_of_lt hle (Nat.add_lt_add_of_le_of_lt
    (Nat.mul_le_mul_left 3 (Nat.le_of_lt hlt)) (by decide))

theorem Owns.rank_lt {s : Runtime F D} (ok : s.Ok) {x y : Item} (h : Owns s x y) :
    ownershipRank s.heap y < ownershipRank s.heap x := by
  have wf := ok.wellFormed
  cases h with
  | @entry handle entry _ hfind hitem =>
      unfold Entry.item at hitem
      split at hitem
      · rename_i htype
        cases hitem
        exact (ownershipRank_tensor_lt (ok.tensors handle entry hfind htype)).trans
          (Nat.add_lt_add_left (by decide) _)
      all_goals cases hitem
      all_goals exact Nat.add_lt_add_left (by decide) _
  | storage ht =>
      simp only [ownershipRank]
      split <;> exact Nat.succ_pos _
  | versionCounter ht =>
      simp only [ownershipRank]
      split <;> exact Nat.succ_pos _
  | @autogradMeta id m hm =>
      have hsome : (s.heap.autogradMeta id).isSome = true := by rw [hm]; rfl
      simp only [ownershipRank, hsome, if_true]
      exact Nat.lt_succ_self _
  | @gradient id g hg =>
      obtain ⟨t, ht, hmeta, -⟩ := (wf.owned id g hg).tensor
      have hnone : (s.heap.autogradMeta g).isSome = false := by
        rw [Heap.autogradMeta_of ht, hmeta]
        rfl
      simp only [ownershipRank, hnone, Bool.false_eq_true, if_false]
      exact Nat.lt_of_lt_of_le (by decide : 1 < 3) (Nat.le_add_left 3 _)
  | gradFn hn => exact Nat.lt_succ_self _
  | @parent id p node hn hp =>
      have hlt : p < id := (wf.node hn).2.2.2.earlier p hp
      have hle := ownershipRank_tensor_le s.heap p
      have hmul : 3 * (p + 1) ≤ 3 * id := Nat.mul_le_mul_left 3 hlt
      change ownershipRank s.heap (.tensor p) < 3 * id + 2
      exact Nat.lt_of_le_of_lt hle (Nat.lt_of_lt_of_le (Nat.lt_succ_self _)
        (Nat.add_le_add_right hmul 2))
  | weight hs =>
      exact ownershipRank_tensor_lt (ok.modules _ (List.mem_of_getElem? hs)).weight_visible
  | bias hs hb =>
      exact ownershipRank_tensor_lt ((ok.modules _ (List.mem_of_getElem? hs)).bias_visible _ hb)
  | module hs => exact Nat.lt_succ_self _
  | parameter hs hp =>
      exact ownershipRank_tensor_lt
        ((ok.parameterOptimizers _ (List.mem_of_getElem? hs)).updatable _ hp).1

theorem acyclic_owns {s : Runtime F D} (ok : s.Ok) : Acyclic (Owns s) :=
  acyclic_of_rank (ownershipRank s.heap) fun _ _ h => h.rank_lt ok

def Present (s : Runtime F D) : Item → Prop
  | .handle handle => (s.registry.find handle).isSome
  | .tensor id => id < s.heap.tensors.length
  | .autogradMeta id => (s.heap.autogradMeta id).isSome
  | .gradNode id => (s.heap.gradFn id).isSome
  | .storage id => id < s.heap.storages.length
  | .versionCounter id => id < s.heap.counters.length
  | .module object => object < s.modules.length
  | .optimizer object => object < s.optimizers.length
  | .parameterOptimizer object => object < s.parameterOptimizers.length

def Runtime.items (s : Runtime F D) : List Item :=
  s.registry.entries.map (fun entry => .handle entry.1) ++
    (List.range s.heap.tensors.length).flatMap
      (fun id => [.tensor id, .autogradMeta id, .gradNode id]) ++
    (List.range s.heap.storages.length).map .storage ++
    (List.range s.heap.counters.length).map .versionCounter ++
    (List.range s.modules.length).map .module ++
    (List.range s.optimizers.length).map .optimizer ++
    (List.range s.parameterOptimizers.length).map .parameterOptimizer

theorem mem_items {s : Runtime F D} {x : Item} (h : Present s x) : x ∈ s.items := by
  unfold Runtime.items
  cases x with
  | handle handle =>
      obtain ⟨entry, hmem, hkey⟩ := List.lookup_isSome_iff.mp h
      have hentry : Item.handle handle ∈
          s.registry.entries.map fun entry => Item.handle entry.1 :=
        List.mem_map.mpr ⟨entry, hmem, by rw [beq_iff_eq.mp hkey]⟩
      simp [hentry]
  | tensor id => simpa [Present] using h
  | autogradMeta id =>
      obtain ⟨m, hm⟩ := Option.isSome_iff_exists.mp h
      simpa using Heap.lt_of_meta hm
  | gradNode id =>
      obtain ⟨node, hn⟩ := Option.isSome_iff_exists.mp h
      simpa using Heap.gradFn_lt hn
  | storage id => simpa [Present] using h
  | versionCounter id => simpa [Present] using h
  | module object => simpa [Present] using h
  | optimizer object => simpa [Present] using h
  | parameterOptimizer object => simpa [Present] using h

theorem finite_present (s : Runtime F D) : {x | Present s x}.Finite :=
  s.items.finite_toSet.subset fun _ h => mem_items h

namespace Api

/-- A process with the items whose last owner is gone, storages apart. -/
structure Census (F D : Type) where
  process : Process F D
  released : List Item

namespace Census
variable {c c' : Census F D}

def runtime (c : Census F D) : Runtime F D := c.process.runtime

def Gone (c : Census F D) : Item → Prop
  | .storage id => id ∈ c.process.destroyed
  | x => x ∈ c.released

def live (c : Census F D) : Set Item := {x | Present c.runtime x ∧ ¬c.Gone x}

def release (c : Census F D) : Item → Census F D
  | .storage id => { c with process := c.process.destroy id }
  | x => { c with released := x :: c.released }

/-- The last owner of an item is gone. Handles go by calls only. -/
def Releases (c c' : Census F D) : Prop :=
  ∃ x, (∀ handle, x ≠ .handle handle) ∧ Free (Owns c.runtime) c.live x ∧ c' = c.release x

theorem owns_release (c : Census F D) (x : Item) : Owns (c.release x).runtime = Owns c.runtime := by
  cases x
  case storage id =>
    funext y z
    refine propext ⟨fun h => ?_, fun h => ?_⟩
    · cases h <;> constructor <;> assumption
    · cases h <;> constructor <;> assumption
  all_goals rfl

theorem present_release (c : Census F D) (x y : Item) :
    Present (c.release x).runtime y ↔ Present c.runtime y := by
  cases x
  case storage id => cases y <;> exact Iff.rfl
  all_goals exact Iff.rfl

theorem gone_release (c : Census F D) (x y : Item) :
    (c.release x).Gone y ↔ y = x ∨ c.Gone y := by
  cases x <;> cases y <;> simp [release, Gone, Process.destroy]

theorem live_release (c : Census F D) (x : Item) : (c.release x).live = c.live \ {x} := by
  ext y
  simp only [live, Set.mem_ofPred_eq, Set.mem_sdiff, Set.mem_singleton_iff, present_release,
    gone_release, not_or]
  exact ⟨fun h => ⟨⟨h.1, h.2.2⟩, h.2.1⟩, fun h => ⟨h.1.1, h.2, h.1.2⟩⟩

theorem finite_live (c : Census F D) : c.live.Finite :=
  (finite_present c.runtime).subset fun _ h => h.1

section Steps
variable [Scalar F] [Scalar D] [Precision F D] [FloatBits F]

inductive Step : Census F D → Census F D → Prop where
  | call (c : Census F D) (call : Call F D) :
      Step c { c with process := { c.process with runtime := after c.runtime call } }
  | release {c c' : Census F D} (h : Releases c c') : Step c c'

def Reachable (c : Census F D) : Prop :=
  ∃ fails files, Relation.ReflTransGen Step ⟨⟨Runtime.initial fails files, []⟩, []⟩ c

theorem reachable_run (fails : Nat → Bool) (files : FileSystem) (calls : List (Call F D)) :
    Reachable (⟨⟨run (Runtime.initial fails files) calls, []⟩, []⟩ : Census F D) := by
  refine ⟨fails, files, ?_⟩
  generalize (Runtime.initial fails files : Runtime F D) = s
  induction calls generalizing s with
  | nil => exact .refl
  | cons call calls ih => exact (ih (after s call)).head (.call _ call)

theorem Step.process_reachable (h : Step c c') (hc : c.process.Reachable) :
    c'.process.Reachable := by
  obtain ⟨fails, files, hrun⟩ := hc
  cases h with
  | call call => exact ⟨fails, files, hrun.tail (.call _ call)⟩
  | release h =>
      obtain ⟨x, -, ⟨⟨hpresent, hgone⟩, -⟩, rfl⟩ := h
      cases x
      case storage id =>
        exact ⟨fails, files, hrun.tail (.destroy _ id (Process.mem_live.mpr ⟨hpresent, hgone⟩))⟩
      all_goals exact ⟨fails, files, hrun⟩

theorem Reachable.process_reachable (hc : c.Reachable) : c.process.Reachable := by
  obtain ⟨fails, files, hrun⟩ := hc
  induction hrun with
  | refl => exact ⟨fails, files, .refl⟩
  | tail _ hstep ih => exact hstep.process_reachable ih

theorem process_reachable_of_releases (hc : c.process.Reachable)
    (h : Relation.ReflTransGen Releases c c') : c'.process.Reachable := by
  induction h with
  | refl => exact hc
  | tail _ hstep ih => exact (Step.release hstep).process_reachable ih

end Steps

theorem kept_of_releases (h : Relation.ReflTransGen Releases c c') :
    Owns c'.runtime = Owns c.runtime ∧ c'.runtime.registry = c.runtime.registry := by
  induction h with
  | refl => exact ⟨rfl, rfl⟩
  | tail _ hstep ih =>
      obtain ⟨x, -, -, rfl⟩ := hstep
      refine ⟨(owns_release _ x).trans ih.1, Eq.trans ?_ ih.2⟩
      cases x <;> rfl

theorem not_handle (hnone : ∀ handle, c.runtime.registry.find handle = none) {x : Item}
    (hx : x ∈ c.live) (handle : Nat) : x ≠ .handle handle := by
  rintro rfl
  have hpresent : (c.runtime.registry.find handle).isSome = true := hx.1
  rw [hnone handle] at hpresent
  cases hpresent

theorem releases_of_drains (hnone : ∀ handle, c.runtime.registry.find handle = none)
    {live : Set Item} (h : Relation.ReflTransGen (Release (Owns c.runtime)) c.live live) :
    ∃ c', Relation.ReflTransGen Releases c c' ∧ c'.live = live := by
  induction h with
  | refl => exact ⟨c, .refl, rfl⟩
  | tail _ hstep ih =>
      obtain ⟨c', hrun, rfl⟩ := ih
      obtain ⟨x, hfree, rfl⟩ := hstep
      obtain ⟨howns, hregistry⟩ := kept_of_releases hrun
      refine ⟨c'.release x, hrun.tail ⟨x, fun handle => ?_, ?_, rfl⟩, live_release c' x⟩
      · refine not_handle (fun handle => ?_) hfree.1 handle
        rw [hregistry]
        exact hnone handle
      · rw [howns]
        exact hfree

/-- The owning references of a reachable state have no cycle. So when no handle is left,
dropping what nothing owns can go on until nothing is left, and however it goes on, when it
stops no storage is alive and the live bytes are what they were at the start. -/
theorem no_ownership_cycles [Scalar F] [Scalar D] [Precision F D] [FloatBits F] (hc : c.Reachable) :
    Acyclic (Owns c.runtime) ∧
    ((∀ handle, c.runtime.registry.find handle = none) →
      (∃ c', Relation.ReflTransGen Releases c c' ∧ c'.live = ∅) ∧
      ∀ c', Relation.ReflTransGen Releases c c' → (∀ c'', ¬Releases c' c'') →
        c'.process.live = [] ∧ c'.process.heap.liveBytes = (Heap.empty F).liveBytes) := by
  have hreachable := hc.process_reachable
  have hacyclic : Acyclic (Owns c.runtime) := acyclic_owns hreachable.balanced.ok
  refine ⟨hacyclic, fun hnone => ⟨releases_of_drains hnone (drains hacyclic c.finite_live),
    fun c' hrun hstuck => ?_⟩⟩
  obtain ⟨howns, hregistry⟩ := kept_of_releases hrun
  have hnone' : ∀ handle, c'.runtime.registry.find handle = none := by
    rw [hregistry]
    exact hnone
  have hempty : c'.live = ∅ := by
    refine eq_empty_of_stuck (howns ▸ hacyclic) c'.finite_live fun x hfree => ?_
    exact hstuck (c'.release x) ⟨x, not_handle hnone' hfree.1, hfree, rfl⟩
  have hlive : c'.process.live = [] := by
    refine List.eq_nil_iff_forall_not_mem.mpr fun id hid => ?_
    obtain ⟨hlt, hkept⟩ := Process.mem_live.mp hid
    have hmem : Item.storage id ∈ c'.live := ⟨hlt, hkept⟩
    rw [hempty] at hmem
    exact hmem
  refine ⟨hlive, ?_⟩
  rw [(process_reachable_of_releases hreachable hrun).balanced.liveBytes_eq, Process.liveSize,
    hlive]
  rfl

def releasedCalls : List (Call Word Word) :=
  [.tensorFromF32 [1, 2] [2], .tensorWithRequiresGrad 1 true, .tensorMultiply 2 2, .tensorSum 3,
    .tensorBackward 4, .tensorRelease 4, .tensorRelease 1, .tensorRelease 3, .tensorRelease 2]

theorem no_ownership_cycles_square : ∃ c' : Census Word Word,
    Relation.ReflTransGen Releases ⟨⟨sampleRun releasedCalls, []⟩, []⟩ c' ∧ c'.live = ∅ := by
  have hc : Reachable (⟨⟨sampleRun releasedCalls, []⟩, []⟩ : Census Word Word) := by
    rw [sampleRun]
    exact reachable_run _ _ releasedCalls
  have hnone : (sampleRun releasedCalls).registry.entries = [] := by decide +kernel
  have hfind : ∀ handle, (sampleRun releasedCalls).registry.find handle = none := by
    intro handle
    rw [HandleRegistry.find, hnone]
    rfl
  generalize sampleRun releasedCalls = s at *
  exact ((no_ownership_cycles hc).2 hfind).1

end Census

end Api

end Tensora
