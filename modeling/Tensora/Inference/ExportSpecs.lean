import Tensora.Inference.Export
import Tensora.Tensor.HeapInvariant

/-! Exports never reject a tensor of the core, and hand over its storage as it lies in memory. -/
namespace Tensora.Inference

variable {F : Type} {h : Heap F} {id : TensorId} {t : Tensor}

/-- The reading both exports share: the checks hold, and the storage is copied whole. -/
private theorem observes_export (wf : WellFormed h) (ht : h.tensors[id]? = some t)
    (unsupportedType inconsistent : Failure) :
    Observes (do
      let t ← deref id
      failIf (t.dtype ≠ .float32) unsupportedType
      allocateFloats t.numel
      let values ← cpuStorageCopyToHostF32 (← storageValues t) t.numel
      failIf (values.length ≠ t.numel) inconsistent
      return (values, t.shape.dimensions) : Mem F (List F × List Nat)) h
      fun r => h.storages[t.storage]? = some r.1 ∧ r.2 = h.dims id := by
  have hp := wf.placed id t ht
  obtain ⟨values, hs, hlen⟩ := hp.stored
  refine (observes_deref ht).bind rfl ?_
  rintro t rfl
  refine spec_failIf_bind (fun hne => absurd (by cases t.dtype; rfl) hne) fun _ => ?_
  refine (observes_allocateFloats h hp.fits).bind rfl fun _ _ => ?_
  refine (observes_storageValues hs).bind rfl ?_
  rintro values rfl
  unfold cpuStorageCopyToHostF32
  rw [bind_assoc]
  refine spec_failIf_bind (fun hlt => absurd hlt (by omega)) fun _ => ?_
  rw [pure_bind]
  refine spec_failIf_bind (fun hne => absurd hlen hne) fun _ => ?_
  exact spec_pure ⟨rfl, hs, (Heap.dims_of ht).symm⟩

theorem observes_tensorToHost (wf : WellFormed h) (ht : h.tensors[id]? = some t) :
    Observes (tensorToHost id : Mem F (List F × List Nat)) h
      fun r => h.storages[t.storage]? = some r.1 ∧ r.2 = h.dims id :=
  observes_export wf ht _ _

theorem observes_tensorToTorch (wf : WellFormed h) (ht : h.tensors[id]? = some t) :
    Observes (tensorToTorch id : Mem F (List F × List Nat)) h
      fun r => h.storages[t.storage]? = some r.1 ∧ r.2 = h.dims id :=
  observes_export wf ht _ _

end Tensora.Inference
