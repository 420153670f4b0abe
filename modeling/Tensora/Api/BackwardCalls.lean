import Tensora.Api.Runs
import Tensora.Api.Sample

/-! `tensor_backward` in any reachable state: when it returns, what its errors are, and
what it leaves on the leaves. -/
namespace Tensora

variable {F D : Type}

namespace Api
open ProgramLogic Autograd

variable {s : Runtime F D}

theorem exec_onTensor {α : Type} {handle : Nat} {root : TensorId}
    (hroot : s.objectOf handle .tensor = some root) (program : TensorId → Mem F α)
    (reply : α → Reply F) :
    (do let object ← lookupTensor handle
        let result ← onMemory (program object)
        return reply result : Native F D (Reply F)) s =
      match program root s.memory with
      | .ok r m => .ok (reply r) { s with memory := m }
      | .error e m => .error e { s with memory := m } := by
  have hlookup : (lookupTensor handle : Native F D TensorId) s = .ok root s := by
    have h : wp (lookupTensor handle : Native F D TensorId) (fun r s' => r = root ∧ s' = s)
        (fun _ _ => False) s := by
      have := wp_lookupObject (f := pure) (Q := fun r s' => r = root ∧ s' = s)
        (E := fun _ _ => False) hroot ⟨rfl, rfl⟩
      rwa [bind_pure] at this
    obtain ⟨_, _, hx, rfl, rfl⟩ := ok_of_wp h
    exact hx
  change EStateM.bind _ _ s = _
  unfold EStateM.bind
  rw [hlookup]
  change EStateM.bind _ _ s = _
  unfold EStateM.bind onMemory
  cases program root s.memory <;> rfl

variable [Scalar F] [Scalar D] [Precision F D] [Training.FloatBits F]

theorem exec_tensorBackward {handle : Nat} {root : TensorId}
    (hroot : s.objectOf handle .tensor = some root) :
    exec (.tensorBackward handle) s =
      match backwardTrace root s.memory with
      | .ok _ m => .ok .done { s with memory := m }
      | .error e m => .error e { s with memory := m } := by
  have hb : backward root s.memory = match backwardTrace root s.memory with
      | .ok _ m => .ok () m
      | .error e m => .error e m := by
    change EStateM.bind (backwardTrace root) _ s.memory = _
    unfold EStateM.bind
    cases backwardTrace root s.memory <;> rfl
  refine (exec_onTensor hroot backward fun _ => .done).trans ?_
  rw [hb]
  cases backwardTrace root s.memory <;> rfl

def Saved (h : Heap F) (root : TensorId) : Prop :=
  ∀ id, PostOrder.Reaches h.tape.parents root id → ∀ node, h.gradFn id = some node →
    node.parentVersions = node.parents.map h.version

omit [Scalar F] [Scalar D] [Precision F D] [Training.FloatBits F] in
theorem saved_iff (ok : s.Ok) (root : TensorId) :
    Saved s.heap root ↔ s.heap.current root = true := by
  rw [Heap.current_iff]
  exact forall_congr' fun id => imp_congr (Tape.mem_order ok.wellFormed.tape).symm Iff.rfl

omit [Scalar F] [Scalar D] [Precision F D] [Training.FloatBits F] in
theorem backwardReject_none (ok : s.Ok) (root : TensorId) :
    backwardReject s.heap root = none ↔
      (s.heap.dims root).prod = 1 ∧ s.heap.requiresGrad root = true ∧ Saved s.heap root := by
  rw [saved_iff ok, backwardReject]
  split
  · simp [*]
  split
  · simp [*]
  split
  · simp [*]
  · rename_i h₁ h₂ h₃
    simp only [not_not, Bool.not_eq_false] at h₁ h₂ h₃
    simp [h₁, h₂, h₃]

omit [Scalar F] [Scalar D] [Precision F D] [Training.FloatBits F] in
theorem backwardReject_some {h : Heap F} {root : TensorId} {e : Failure}
    (he : backwardReject h root = some e) :
    e = invalidShape "tensor_backward: loss tensor must contain one value" ∨
    e = invalidArgument "tensor_backward: tensor does not require gradients" ∨
    e = staleError := by
  unfold backwardReject at he
  split at he
  · exact Or.inl (Option.some.inj he).symm
  split at he
  · exact Or.inr (Or.inl (Option.some.inj he).symm)
  split at he
  · exact Or.inr (Or.inr (Option.some.inj he).symm)
  · cases he

omit [Scalar D] [Precision F D] [Training.FloatBits F] in
theorem backward_outcome (ok : s.Ok) (hmem : Lasting s) {root : TensorId}
    (hv : s.heap.Visible root) :
    wp (backwardTrace root) (fun trace m => backwardReject s.heap root = none ∧
        Backs s.heap m.heap ∧
        m.heap.gradientContents = (s.heap.tape.sweep s.heap.gradientContents root).leaves ∧
        trace = s.heap.tape.applications (s.heap.tape.order root))
      (fun e m => m.heap = s.heap ∧ backwardReject s.heap root = some e) s.memory := by
  refine wp_mono (spec_backwardTrace ok.wellFormed hv s.memory.allocator) (fun _ _ hq => hq.2) ?_
  rintro e m ⟨-, he | ⟨⟨k, hle, -, hk⟩, -⟩⟩
  · exact he
  · rw [hmem k hle] at hk
    cases hk

/-- `Backward` returns exactly on a scalar that requires grad and whose graph is current;
its only errors are the rejections of these three; it visits each reachable tensor once;
and a leaf's gradient is row-major, of the leaf's shape, in a storage of its own. -/
theorem backward_returns_iff (hs : Reachable s) (hmem : Lasting s) {handle : Nat}
    {root : TensorId} (hroot : s.objectOf handle .tensor = some root) :
    ((∃ reply s', exec (.tensorBackward handle) s = .ok reply s') ↔
      (s.heap.dims root).prod = 1 ∧ s.heap.requiresGrad root = true ∧ Saved s.heap root) ∧
    (∀ e s', exec (.tensorBackward handle) s = .error e s' →
      e = invalidShape "tensor_backward: loss tensor must contain one value" ∨
      e = invalidArgument "tensor_backward: tensor does not require gradients" ∨
      e = staleError) ∧
    (∃ traversal m, buildTopology s.heap.tensors.length root ⟨[], []⟩ s.memory =
        .ok traversal m ∧ traversal.topology.Nodup ∧
      ∀ id, id ∈ traversal.topology ↔ PostOrder.Reaches s.heap.tape.parents root id) ∧
    (∀ leaf g, s.heap.gradient leaf = some g → ∃ t, s.heap.tensors[g]? = some t ∧
      t.shape.dimensions = s.heap.dims leaf ∧
      t.shape.strides = rowMajorStrides t.shape.dimensions ∧ t.storageOffset = 0 ∧
      ∀ other, other ≠ g → s.heap.storageOf other ≠ some t.storage) := by
  have ok := hs.ok
  have hv := ok.visible hroot
  have hrun := backward_outcome ok hmem hv
  have hexec := exec_tensorBackward (D := D) hroot
  rw [← backwardReject_none ok]
  refine ⟨⟨?_, fun haccept => ?_⟩, ?_, ?_, ?_⟩
  · rintro ⟨reply, s', h⟩
    rw [hexec] at h
    cases hb : backwardTrace root s.memory with
    | ok trace m => exact (wp_of_ok hrun hb).1
    | error e m => rw [hb] at h; cases h
  · cases hb : backwardTrace root s.memory with
    | ok trace m => exact ⟨.done, _, by rw [hexec, hb]⟩
    | error e m =>
        have hreject := (wp_of_error hrun hb).2
        rw [haccept] at hreject
        cases hreject
  · intro e s' h
    rw [hexec] at h
    cases hb : backwardTrace root s.memory with
    | ok trace m => rw [hb] at h; cases h
    | error e' m =>
        rw [hb] at h
        cases h
        exact backwardReject_some (wp_of_error hrun hb).2
  · obtain ⟨traversal, m, hrun, -, -, horder⟩ := (observes_topology ok.wellFormed hv).ok hmem
    refine ⟨traversal, m, hrun, ?_, fun id => ?_⟩
    · rw [← List.nodup_reverse, horder]
      exact Tape.nodup_order ok.wellFormed.tape root
    · rw [← List.mem_reverse, horder]
      exact Tape.mem_order ok.wellFormed.tape
  · intro leaf g hg
    obtain ⟨t, ht, -, hshape, halone⟩ := (ok.wellFormed.owned leaf g hg).tensor
    refine ⟨t, ht, by rw [hshape]; rfl, by rw [hshape]; rfl, (ok.wellFormed.placed g t ht).offset,
      fun other hne hsame => ?_⟩
    obtain ⟨t', ht', hstorage⟩ := Option.map_eq_some_iff.mp hsame
    exact hne (halone other t' ht' hstorage)

def squareCalls : List (Call Word Word) :=
  [.tensorFromF32 [1, 2] [2], .tensorWithRequiresGrad 1 true, .tensorMultiply 2 2, .tensorSum 3]

theorem backward_returns_iff_square :
    ∃ reply s', exec (.tensorBackward 4) (sampleRun squareCalls) = .ok reply s' :=
  have hs : Reachable (sampleRun squareCalls) := ⟨_, _, _, rfl⟩
  (backward_returns_iff hs (lasting_sampleRun _) (by decide +kernel)).1.mpr
    ⟨by decide +kernel, by decide +kernel, (saved_iff hs.ok 3).mpr (by decide +kernel)⟩

end Api
end Tensora
