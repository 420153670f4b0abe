import Tensora.Api.BackwardCalls
import Tensora.Autograd.StopPoints

/-! What a call of `Backward` that fails leaves on the leaves, for every way its allocations can
end. -/
namespace Tensora.Api
open ProgramLogic Autograd Allocating

variable {F D : Type} {s : Runtime F D} {handle : Nat} {root : TensorId}

/-- Nothing that requires grad comes after a leaf that does, in the order of `Backward`'s loop. -/
def PublishesLast (h : Heap F) (root : TensorId) : Prop :=
  (h.tape.order root).Pairwise fun earlier later =>
    h.tape.isLeaf earlier = true → h.requiresGrad later = false

instance (h : Heap F) (root : TensorId) : Decidable (PublishesLast h root) :=
  inferInstanceAs (Decidable ((h.tape.order root).Pairwise _))

/-- The leaves `Backward` would write hold no gradient yet. -/
def Ungraded (h : Heap F) (root : TensorId) : Prop :=
  ∀ leaf ∈ h.tape.order root, h.tape.isLeaf leaf = true → h.gradient leaf = none

/-- With whatever allocator, a call that fails leaves every stored gradient as it was. -/
def AllOrNothing [Scalar F] [Scalar D] [Precision F D] [Training.FloatBits F] (s : Runtime F D)
    (handle : Nat) : Prop :=
  ∀ (a : Allocator) e s', exec (.tensorBackward handle) (withAllocator s a) = .error e s' →
    s'.heap.gradientContents = s.heap.gradientContents

section Stopping
variable [Scalar F] {h : Heap F}

theorem gradients_of_stopped {h' : Heap F} (hlast : PublishesLast h root)
    (hstop : Stopped h root h') : h'.gradientContents = h.gradientContents := by
  obtain ⟨-, hsame | ⟨-, done, id, rest, horder, hreq, hleaves⟩⟩ := hstop
  · exact hsame
  · rw [hleaves]
    funext leaf
    refine Tape.flow_leaves_of_notMem fun hmem => ?_
    rw [PublishesLast, horder, List.pairwise_append] at hlast
    have hpair := hlast.2.2 leaf hmem id List.mem_cons_self
    by_contra hleaf
    rw [hpair (by simpa using hleaf)] at hreq
    cases hreq

theorem exists_written (wf : WellFormed h) (hv : h.Visible root)
    (haccept : backwardReject h root = none) (hlast : ¬PublishesLast h root)
    (hfresh : Ungraded h root) :
    ∃ (a : Allocator) (e : Failure) (m : Memory F), backwardTrace root ⟨h, a⟩ = .error e m ∧
      m.heap.gradientContents ≠ h.gradientContents := by
  rw [PublishesLast, List.pairwise_iff_getElem] at hlast
  simp only [not_forall, exists_prop] at hlast
  obtain ⟨i, j, hi, hj, hij, hleaf, hreq⟩ := hlast
  have horder : h.tape.order root =
      (h.tape.order root).take j ++ (h.tape.order root)[j] :: (h.tape.order root).drop (j + 1) := by
    rw [← List.drop_eq_getElem_cons hj, List.take_append_drop]
  obtain ⟨front, middle, hsplit⟩ : ∃ front middle,
      (h.tape.order root).take j = front ++ (h.tape.order root)[i] :: middle :=
    List.append_of_mem (List.mem_take_iff_getElem.mpr ⟨i, by omega, rfl⟩)
  obtain ⟨a, e, m, hrun, hleaves⟩ :=
    exists_stopped wf hv haccept horder (by simpa using hreq)
  refine ⟨a, e, m, hrun, fun hsame => ?_⟩
  rw [hsplit] at hleaves horder
  rw [List.append_assoc] at horder
  obtain ⟨grad, -, hwritten⟩ : ∃ grad, _ ∧ (h.tape.flow h.gradientContents root
      (front ++ (h.tape.order root)[i] :: middle)).leaves (h.tape.order root)[i] =
        some (addTo _ grad) := Tape.flow_leaves_after wf.tape horder hleaf
  have hnone := hfresh _ (List.getElem_mem hi) hleaf
  rw [← hleaves, hsame, Heap.gradientContents, hnone] at hwritten
  cases hwritten

end Stopping

variable [Scalar F] [Scalar D] [Precision F D] [Training.FloatBits F]

/-- A call of `Backward` that fails has left no gradient behind if it is rejected, or if nothing
that requires grad comes after a leaf; and unless the leaves hold gradients already, only then. -/
theorem backward_all_or_nothing (hs : Reachable s)
    (hroot : s.objectOf handle .tensor = some root) :
    (backwardReject s.heap root ≠ none ∨ PublishesLast s.heap root → AllOrNothing s handle) ∧
    (Ungraded s.heap root → AllOrNothing s handle →
      backwardReject s.heap root ≠ none ∨ PublishesLast s.heap root) := by
  have wf := hs.ok.wellFormed
  have hv := hs.ok.visible hroot
  have hexec := fun a : Allocator => exec_tensorBackward (s := withAllocator s a) hroot
  have hmemory : ∀ a : Allocator, (withAllocator s a).memory = ⟨s.heap, a⟩ := fun _ => rfl
  refine ⟨fun hcondition a e s' h => ?_, fun hfresh hall => ?_⟩
  · rw [hexec, hmemory] at h
    have hrun := spec_backwardTrace_stopped wf hv a
    cases hx : backwardTrace root ⟨s.heap, a⟩ with
    | ok trace m => rw [hx] at h; cases h
    | error e' m =>
        rw [hx] at h
        cases h
        obtain ⟨-, ⟨hheap, hreject⟩ | ⟨-, -, hstop⟩⟩ := wp_of_error hrun hx
        · exact congrArg Heap.gradientContents hheap
        · rcases hcondition with hreject | hlast
          · obtain ⟨-, hsame | ⟨haccept, -⟩⟩ := hstop
            · exact hsame
            · exact absurd haccept hreject
          · exact gradients_of_stopped hlast hstop
  · by_contra hneither
    rw [not_or, not_not] at hneither
    obtain ⟨a, e, m, hrun, hne⟩ := exists_written wf hv hneither.1 hneither.2 hfresh
    refine hne (hall a e { s with memory := m } ?_)
    rw [hexec, hmemory, hrun]
    rfl

def oneLeafCalls : List (Call Word Word) :=
  [.tensorFromF32 [3, 4] [2], .tensorWithRequiresGrad 1 true, .tensorSum 2]

theorem backward_all_or_nothing_sum : AllOrNothing (sampleRun oneLeafCalls) 3 :=
  (backward_all_or_nothing ⟨_, _, _, rfl⟩
    (by decide +kernel : (sampleRun oneLeafCalls).objectOf 3 .tensor = some 2)).1
    (Or.inr (by decide +kernel))

def twoLeafCalls : List (Call Word Word) :=
  [.tensorFromF32 [3] [1], .tensorWithRequiresGrad 1 true, .tensorFromF32 [5] [1],
    .tensorWithRequiresGrad 3 true, .tensorMultiply 2 4]

/-- The gradient of the second factor is stored, and there is no memory for that of the first. -/
theorem backward_stores_half : ∃ e s',
    exec (.tensorBackward 5) (withAllocator (sampleRun twoLeafCalls) ⟨0, fun k => k == 48⟩) =
      .error e s' ∧
    (sampleRun twoLeafCalls).objectOf 2 .tensor = some 1 ∧
    (sampleRun twoLeafCalls).objectOf 4 .tensor = some 3 ∧
    (sampleRun twoLeafCalls).heap.gradientContents 1 = none ∧
    (sampleRun twoLeafCalls).heap.gradientContents 3 = none ∧
    s'.heap.gradientContents 1 = none ∧ s'.heap.gradientContents 3 = some [3] := by
  obtain ⟨e, hexec⟩ := error_of_returns (by decide +kernel :
    returns (withAllocator (sampleRun twoLeafCalls) ⟨0, fun k => k == 48⟩) (.tensorBackward 5) =
      false)
  refine ⟨e, _, hexec, ?_, ?_, ?_, ?_, ?_, ?_⟩
  · decide +kernel
  · decide +kernel
  · decide +kernel
  · decide +kernel
  · decide +kernel
  · decide +kernel

end Tensora.Api
