import Tensora.Api.CreationCalls
import Tensora.Api.Isolation
import Tensora.Api.Sample

/-! The parameters an optimizer over tensors is created with. The creation tells tensors
apart by their objects, and two objects can be views of one storage. -/
namespace Tensora
open ProgramLogic

variable {F D : Type}

namespace Api
open Training

variable {s : Runtime F D}

def TrainableApart {α : Type} (h : Heap F) (key : TensorId → α) (ids : List TensorId) : Prop :=
  ids.Pairwise fun p q => h.requiresGrad p = true → h.requiresGrad q = true → key p ≠ key q

theorem nodup_map_kept {α : Type} (h : Heap F) (key : TensorId → α) (ids : List TensorId) :
    ((ids.filter h.requiresGrad).map key).Nodup ↔ TrainableApart h key ids := by
  unfold List.Nodup TrainableApart
  rw [List.pairwise_map, List.pairwise_filter]

section Creation
variable [Scalar F] [Scalar D] [Precision F D] [FloatBits F]

/-- The parameters are the tensors of the list that require grad, and they share a storage
exactly if two such tensors of the list do. -/
theorem parameters_share_iff (hs : Reachable s) {handles : List Nat} {kind : OptimizerKind}
    {hyper : Hyperparameters D} {handle : Nat} {s' : Runtime F D}
    (hcreated : exec (.createForTensors (some handles) kind hyper) s = .ok (.handle handle) s') :
    ∃ object o ids, s'.parameterOptimizerAt handle = some (object, o) ∧
      Resolve s handles ids ∧ s'.heap = s.heap ∧
      o.parameters = ids.filter s.heap.requiresGrad ∧
      ((o.parameters.map s'.heap.storageOf).Nodup ↔
        TrainableApart s.heap s.heap.storageOf ids) ∧
      ((o.parameters.map s'.heap.identity).Nodup ↔
        TrainableApart s.heap s.heap.identity ids) ∧
      ((o.parameters.map s'.heap.identity).Nodup → (o.parameters.map s'.heap.storageOf).Nodup) := by
  have ok := hs.ok
  obtain ⟨-, parameters, s₁, ⟨_, ids, ⟨⟩, hkept⟩, -, ⟨n, rfl⟩, hregistered⟩ :=
    wp_of_ok (wp_createForTensors ok (some handles) kind hyper) (of_replied hcreated)
  have hfound := hregistered.objectOf
  obtain ⟨-, -, s₂, ⟨k, rfl⟩, rfl⟩ := hregistered
  refine ⟨s.parameterOptimizers.length,
    newParameterOptimizer s.heap kind parameters hyper, ids, ?_, hkept.resolved, rfl, hkept.kept,
    ?_, ?_, ?_⟩
  · rw [Runtime.parameterOptimizerAt, hfound]
    simp
  · change (parameters.map s.heap.storageOf).Nodup ↔ _
    rw [hkept.kept]
    exact nodup_map_kept _ _ _
  · change (parameters.map s.heap.identity).Nodup ↔ _
    rw [hkept.kept]
    exact nodup_map_kept _ _ _
  · change (parameters.map s.heap.identity).Nodup → (parameters.map s.heap.storageOf).Nodup
    unfold List.Nodup
    rw [List.pairwise_map, List.pairwise_map]
    intro h
    refine List.Pairwise.imp_of_mem (fun {p q} hp hq hne hsame => hne ?_) h
    exact Heap.identity_of_storageOf ok.wellFormed (hkept.visible ok hp).1
      (hkept.visible ok hq).1 hsame

end Creation

def twoViewsCalls : List (Call Word Word) :=
  [.tensorFromF32 [1, 2] [2], .tensorReshape 1 [2], .tensorSetRequiresGrad 1 true,
    .tensorSetRequiresGrad 2 true]

def plainSgd : Hyperparameters Word := ⟨1, 0, 0, 0, 0, 0⟩

def twoViewsRun : Runtime Word Word :=
  sampleRun (twoViewsCalls ++ [.createForTensors (some [1, 2]) .sgd plainSgd])

/-- The creation takes two views of one storage, which the assignment of a batch rejects; one
step then takes the learning rate off the shared elements twice. -/
theorem parameters_share_views :
    returns (sampleRun twoViewsCalls) (.createForTensors (some [1, 2]) .sgd plainSgd) = true ∧
      returns (sampleRun twoViewsCalls) (.tensorAssignMany (some [1, 2]) (some [1, 2]) 2) = false ∧
      (twoViewsRun.parameterOptimizerAt 3).map (fun r =>
        r.2.parameters.map twoViewsRun.heap.identity) = some [1, 1] ∧
      (run twoViewsRun [.tensorSum 1, .tensorBackward 4, .tensorSum 2, .tensorBackward 5,
        .parameterOptimizerStep 3]).heap.contents 0 = [-1, 0] := by
  refine ⟨?_, ?_, ?_, ?_⟩
  all_goals decide +kernel

theorem parameters_share_iff_views : ∃ (s' : Runtime Word Word) (object : Nat)
    (o : ParameterOptimizerState Word Word) (ids : List TensorId),
    s'.parameterOptimizerAt 3 = some (object, o) ∧
      Resolve (sampleRun twoViewsCalls) [1, 2] ids ∧
      o.parameters = ids.filter (sampleRun twoViewsCalls).heap.requiresGrad ∧
      ((o.parameters.map s'.heap.storageOf).Nodup ↔ TrainableApart (sampleRun twoViewsCalls).heap
        (sampleRun twoViewsCalls).heap.storageOf ids) := by
  have hexec := ok_of_replyOf (by decide +kernel : replyOf (sampleRun twoViewsCalls)
    (.createForTensors (some [1, 2]) .sgd plainSgd) = some (.handle 3))
  have hs : Reachable (sampleRun twoViewsCalls) := ⟨_, _, _, rfl⟩
  obtain ⟨object, o, ids, ho, hids, -, hkept, hshare, -⟩ := parameters_share_iff hs hexec
  exact ⟨_, object, o, ids, ho, hids, hkept, hshare⟩

end Api
end Tensora
