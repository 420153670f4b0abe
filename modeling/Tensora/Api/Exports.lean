import Tensora.Api.Runs
import Tensora.Api.Sample
import Tensora.Inference.ExportSpecs

/-! What ONNX Runtime and LibTorch are handed for a tensor with CPU storage, against what copying
the tensor out returns. -/
namespace Tensora
open ProgramLogic Inference

variable {F D : Type}

/-- A transposed view of a matrix that equals its transpose, element by element in memory. -/
def SelfTransposed (t : Tensor) (values : List F) : Prop :=
  ∃ rows cols, t.shape.dimensions = [rows, cols] ∧ t.shape.strides = [1, rows] ∧
    transposeData cols rows values = values

/-- The storage as it lies in memory is the logical contents only in these two cases. -/
theorem Placed.read_eq_values_iff {h : Heap F} {t : Tensor} (ht : Placed h t) {values : List F}
    (hs : h.storages[t.storage]? = some values) :
    h.read t = values ↔ t.isContiguous = true ∨ SelfTransposed t values := by
  constructor
  · intro hread
    rcases ht.layout.strides_eq with hstrides | ⟨rows, cols, hd, hstrides⟩
    · exact Or.inl ((Tensor.isContiguous_iff ht.layout).mpr hstrides)
    · rw [ht.read_transposed hs hd hstrides] at hread
      exact Or.inr ⟨rows, cols, hd, hstrides, hread⟩
  · rintro (hcontiguous | ⟨rows, cols, hd, hstrides, hself⟩)
    · exact ht.read_contiguous hs ((Tensor.isContiguous_iff ht.layout).mp hcontiguous)
    · rw [ht.read_transposed hs hd hstrides, hself]

namespace Inference

def exports : List (TensorId → Mem F (List F × List Nat)) := [tensorToHost, tensorToTorch]

theorem observes_exports {h : Heap F} {id : TensorId} {t : Tensor} (wf : WellFormed h)
    (ht : h.tensors[id]? = some t) {handOver : TensorId → Mem F (List F × List Nat)}
    (hexport : handOver ∈ exports) :
    Observes (handOver id) h fun r => h.storages[t.storage]? = some r.1 ∧ r.2 = h.dims id := by
  simp only [exports, List.mem_cons, List.not_mem_nil, or_false] at hexport
  rcases hexport with rfl | rfl
  · exact observes_tensorToHost wf ht
  · exact observes_tensorToTorch wf ht

end Inference

namespace Api
variable [Scalar F] [Scalar D] [Precision F D] [Training.FloatBits F] {s : Runtime F D}

/-- What is handed over is the tensor's contents exactly for a row-major tensor and for a transposed
view of data that is its own transpose. -/
theorem exports_agree_iff (hs : Reachable s) {id : TensorId} {t : Tensor}
    (ht : s.heap.tensors[id]? = some t) {handOver : TensorId → Mem F (List F × List Nat)}
    (hexport : handOver ∈ exports) :
    (Lasting s → ∃ buffer shape m, handOver id s.memory = .ok (buffer, shape) m) ∧
    ∀ buffer shape m contents m', handOver id s.memory = .ok (buffer, shape) m →
      t.copyToHostF32 t.numel m = .ok contents m' →
      ((buffer = contents ∧ shape = t.shape.dimensions) ↔
        t.isContiguous = true ∨
          ∃ values, s.heap.storages[t.storage]? = some values ∧ SelfTransposed t values) := by
  have wf := hs.ok.wellFormed
  have hp := wf.placed id t ht
  have hobserves := observes_exports wf ht hexport
  refine ⟨?_, ?_⟩
  · intro hmem
    obtain ⟨r, m, hrun, -⟩ := hobserves.ok hmem
    exact ⟨r.1, r.2, m, hrun⟩
  · intro buffer shape m contents m' hrun hcopy
    obtain ⟨-, hheap, hvalues, hshape⟩ := wp_of_ok (hobserves s.memory.allocator) hrun
    have hp' : Placed m.heap t := by rwa [hheap]
    rw [Tensor.copyToHostF32_eq hp' (Nat.le_refl _)] at hcopy
    cases hcopy
    rw [hheap]
    have hagree := hp.read_eq_values_iff hvalues
    constructor
    · rintro ⟨hbuffer, -⟩
      exact (hagree.mp hbuffer.symm).imp_right fun hself => ⟨buffer, hvalues, hself⟩
    · intro hlayout
      refine ⟨(hagree.mpr (hlayout.imp_right ?_)).symm, hshape.trans (Heap.dims_of ht)⟩
      rintro ⟨values, hsame, hself⟩
      rwa [Option.some.inj (hvalues.symm.trans hsame)]

def returned {α : Type} (program : Mem F α) (m : Memory F) : Option α :=
  match program m with
  | .ok result _ => some result
  | .error _ _ => none

def transposeCalls : List (Call Word Word) :=
  [.tensorFromF32 [1, 2, 3, 4, 5, 6] [2, 3], .tensorTranspose2D 1]

/-- Both exports hand over the matrix under the shape of its transpose. -/
theorem exports_disagree_transposed : Reachable (sampleRun transposeCalls) ∧
    (∀ handOver ∈ exports, returned (handOver 1) (sampleRun transposeCalls).memory =
      some ([1, 2, 3, 4, 5, 6], [3, 2])) ∧
    returned (do (← deref 1).copyToHostF32 6) (sampleRun transposeCalls).memory =
      some [1, 4, 2, 5, 3, 6] :=
  ⟨⟨_, _, _, rfl⟩, by decide +kernel⟩

theorem exports_agree_iff_matrix :
    ∃ buffer shape m, tensorToHost 1 (sampleRun transposeCalls).memory = .ok (buffer, shape) m := by
  have hs : Reachable (sampleRun transposeCalls) := ⟨_, _, _, rfl⟩
  have ht := List.getElem?_eq_getElem
    (by decide +kernel : 1 < (sampleRun transposeCalls).heap.tensors.length)
  exact (exports_agree_iff hs ht (List.mem_cons_self ..)).1 (lasting_sampleRun _)

end Api

end Tensora
