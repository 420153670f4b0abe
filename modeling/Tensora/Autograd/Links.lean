import Tensora.Autograd.Evolution
import Tensora.Training.CreationSpecs

/-! The recorded graph of CPU storage as paths: what an operation's result leads to,
what later calls keep of it, and that a backward pass follows every path to its end. -/
namespace Tensora
open Relation

variable {F D : Type} [Scalar F] [Scalar D] [Precision F D] {h h' : Heap F}

def Heap.Reaches (h : Heap F) (root id : TensorId) : Prop :=
    PostOrder.Reaches h.tape.parents root id

structure Links (h h' : Heap F) (parents : List TensorId) (result : TensorId) : Prop where
  requiresGrad : h'.requiresGrad result = parents.any h.requiresGrad
  reaches : ∀ p ∈ parents, h.requiresGrad p = true → h'.Reaches result p

def Linked (x : Mem F TensorId) (h : Heap F) (parents : List TensorId) : Prop :=
  Spec x h (fun r h' => Evolves h h' ∧ h'.Visible r ∧ Links h h' parents r)
    (fun _ h' => Evolves h h') (Evolves h)

omit [Scalar F] in
theorem Evolves.reaches (e : Evolves h h') (wf : WellFormed h) {root id : TensorId}
    (hroot : root < h.tensors.length) (hreach : h.Reaches root id) : h'.Reaches root id := by
  have hkept : h'.Reaches root id ∧ id < h.tensors.length := by
    induction hreach with
    | refl => exact ⟨ReflTransGen.refl, hroot⟩
    | @tail middle id _ hedge ih =>
        obtain ⟨hpath, hlt⟩ := ih
        obtain ⟨node, hn, hmem⟩ := Heap.gradFn_of_parent hedge
        refine ⟨hpath.tail ?_, (wf.parent_visible hn hmem).1⟩
        rw [← e.gradFn middle hlt] at hn
        rw [Heap.tape_parents hn]
        exact hmem
  exact hkept.1

theorem Produced.links {operation : Operation} {parents : List TensorId} {dims : List Nat}
    (p : Produced D h h' operation parents dims) : Links h h' parents h.tensors.length where
  requiresGrad := by
    rw [Heap.requiresGrad, p.meta_eq, Heap.nodeMeta]
    cases hany : parents.any h.requiresGrad <;> simp
  reaches := by
    intro q hq hreq
    have hany : parents.any h.requiresGrad = true := List.any_eq_true.mpr ⟨q, hq, hreq⟩
    have hn := p.gradFn_eq
    rw [if_pos hany] at hn
    refine ReflTransGen.single ?_
    rw [Heap.tape_parents hn]
    exact hq

theorem Forwards.linked {x : Mem F TensorId} {reject : Option Failure} {operation : Operation}
    {parents : List TensorId} {dims : List Nat} (wf : WellFormed h)
    (f : Forwards D x h reject operation parents dims) : Linked x h parents := by
  refine f.mono ?_ ?_ fun _ hx => hx.evolves wf
  · rintro r h' ⟨-, rfl, hprod⟩
    exact ⟨(hprod.forwarded wf).evolves wf, hprod.result_visible wf, hprod.links⟩
  · rintro e _ ⟨rfl, -⟩
    exact Evolves.refl wf

theorem linked_moduleForward (D : Type) [Scalar D] [Precision F D] {state : Training.LinearState}
    {input : TensorId} (wf : WellFormed h) (hv : h.Visible input) (hs : state.Ok h) :
    Linked (Training.moduleForward state input) h (input :: state.weight :: state.bias.toList) := by
  refine (Training.spec_moduleForward (D := D) wf hv hs).mono ?_ ?_ fun _ hx => hx.evolves wf
  · rintro r h' ⟨-, hlinear⟩
    obtain ⟨hforwarded, hvisible⟩ := hlinear.forwarded wf
    refine ⟨hforwarded.evolves wf, hvisible, ?_⟩
    obtain ⟨middle, hprod, hrest⟩ := hlinear
    have hproduct := hprod.links
    cases hbias : state.bias with
    | none =>
        rw [hbias] at hrest
        obtain ⟨rfl, rfl⟩ := hrest
        exact hproduct
    | some bias =>
        rw [hbias] at hrest
        obtain ⟨rfl, hsum⟩ := hrest
        have hflag : middle.requiresGrad bias = h.requiresGrad bias :=
          hprod.extension.requiresGrad (hs.bias_visible bias hbias).1
        have hsumLinks := hsum.links
        refine ⟨?_, fun p hp hreq => ?_⟩
        · rw [hsumLinks.requiresGrad]
          simp [hproduct.requiresGrad, hflag, Bool.or_assoc]
        · have hin : p ∈ [input, state.weight] ∨ p = bias := by simpa [or_assoc] using hp
          rcases hin with hin | rfl
          · -- through the product, which requires grad because `p` does
            have hmiddle : middle.requiresGrad h.tensors.length = true := by
              rw [hproduct.requiresGrad]
              exact List.any_eq_true.mpr ⟨p, hin, hreq⟩
            have hpath := hproduct.reaches p hin hreq
            have hkept := ((hsum.forwarded (hprod.wellFormed wf)).evolves
              (hprod.wellFormed wf)).reaches (hprod.wellFormed wf) (hprod.result_visible wf).1 hpath
            exact (hsumLinks.reaches _ (by simp) hmiddle).trans hkept
          · exact hsumLinks.reaches p (by simp) (hflag.trans hreq)
  · rintro e _ ⟨rfl, -⟩
    exact Evolves.refl wf

omit [Scalar F] in
theorem WellFormed.leaf_of_requires (wf : WellFormed h) {id : TensorId} (hleaf : h.isLeaf id = true)
    (hreq : h.requiresGrad id = true) : h.tape.isLeaf id = true := by
  unfold Tape.isLeaf
  rw [Heap.tape_requiresGrad, hreq, Bool.true_and]
  cases hn : h.gradFn id with
  | none => rw [Heap.tape_node_none hn]; rfl
  | some node =>
      rw [(wf.node hn).2.1] at hleaf
      cases hleaf

/-- Every leaf on a path from the root that asks for a gradient has one afterwards. -/
theorem spec_backward_delivers (wf : WellFormed h) {root : TensorId} (hv : h.Visible root) :
    Spec (Autograd.backward root) h
      (fun _ h' => Evolves h h' ∧ ∀ leaf, h.Reaches root leaf → h.isLeaf leaf = true →
        h.requiresGrad leaf = true → (h'.gradient leaf).isSome = true)
      (fun _ h' => Evolves h h') (Evolves h) := by
  unfold Autograd.backward
  refine Spec.bind ((spec_backwardTrace wf hv).mono (fun _ _ hq => hq) ?_ ?_) ?_
  · rintro e _ ⟨rfl, -⟩
    exact Evolves.refl wf
  · exact fun _ hx => hx.1.evolves
  · rintro trace h' ⟨-, hbacks, hleaves, -⟩
    refine spec_pure ⟨hbacks.evolves, fun leaf hreach hleaf hreq => ?_⟩
    obtain ⟨l, r, hsplit⟩ := List.append_of_mem ((Tape.mem_order wf.tape).mpr hreach)
    have hsplit' : h.tape.order root = l ++ leaf :: (r ++ []) := by rw [hsplit, List.append_nil]
    obtain ⟨grad, -, hstored⟩ : ∃ grad, _ ∧
        (h.tape.flow h.gradientContents root (l ++ leaf :: r)).leaves leaf =
          some (addTo (h.gradientContents leaf) grad) :=
      Tape.flow_leaves_after wf.tape hsplit' (wf.leaf_of_requires hleaf hreq)
    have hsome : (h'.gradientContents leaf).isSome = true := by
      rw [hleaves, Tape.sweep, hsplit, hstored]
      rfl
    simpa [Heap.gradientContents] using hsome

end Tensora
