import Tensora.Autograd.Evolution
import Tensora.Training.Checkpoint
import Tensora.Training.Optimizer
import Tensora.Training.StateTransaction

/-! What the calls that write in place leave: parameter updates, restored
parameters, committed assignments, cleared gradients, changed flags. -/
namespace Tensora
open CheckedLoop

variable {F D : Type} {h h' : Heap F}

def Heap.cleared (h : Heap F) (id : TensorId) : Heap F :=
  { h with tensors := h.tensors.modify id Tensor.ungraded }

theorem Tensor.ungraded_of_none {t : Tensor} (hm : t.autogradMeta = none) : t.ungraded = t := by
  cases t
  simp only at hm
  subst hm
  rfl

namespace Heap

theorem get_cleared (id i : TensorId) :
    (h.cleared id).tensors[i]? =
      if i = id then h.tensors[i]?.map Tensor.ungraded else h.tensors[i]? := by
  simp only [cleared, List.getElem?_modify]
  by_cases hi : i = id
  · subst hi
    simp
  · simp [hi, Ne.symm hi]

theorem length_cleared (id : TensorId) :
    (h.cleared id).tensors.length = h.tensors.length := by
  simp [cleared]

theorem cleared_none {id : TensorId} (hm : h.autogradMeta id = none) : h.cleared id = h := by
  have htensors : (h.cleared id).tensors = h.tensors := by
    apply List.ext_getElem?
    intro i
    rw [get_cleared]
    by_cases hi : i = id
    · subst hi
      rw [if_pos rfl]
      cases ht : h.tensors[i]? with
      | none => rfl
      | some t =>
          rw [autogradMeta_of ht] at hm
          rw [Option.map_some, Tensor.ungraded_of_none hm]
    · rw [if_neg hi]
  cases h
  simp only [cleared] at htensors ⊢
  rw [htensors]

theorem cleared_some {id : TensorId} {m : AutogradMeta} (hm : h.autogradMeta id = some m) :
    h.cleared id = h.setMeta id (some { m with gradient := none }) := by
  have htensors : (h.cleared id).tensors =
      (h.setMeta id (some { m with gradient := none })).tensors := by
    apply List.ext_getElem?
    intro i
    rw [get_cleared, get_setMeta]
    by_cases hi : i = id
    · subst hi
      rw [if_pos rfl, if_pos rfl]
      cases ht : h.tensors[i]? with
      | none => rfl
      | some t =>
          rw [autogradMeta_of ht] at hm
          simp only [Option.map_some, Tensor.ungraded, hm]
    · rw [if_neg hi, if_neg hi]
  cases h
  simp only [cleared, setMeta] at htensors ⊢
  rw [htensors]

theorem cleared_cases (wf : WellFormed h) (id : TensorId) :
    h.cleared id = h ∨ ∃ m, h.autogradMeta id = some m ∧ m.gradFn = none ∧
      Retagged h (h.cleared id) id { m with gradient := none } := by
  cases hm : h.autogradMeta id with
  | none => exact Or.inl (cleared_none hm)
  | some m =>
      have htag := cleared_some hm
      cases hn : m.gradFn with
      | some node =>
          refine Or.inl ?_
          have hok := wf.recorded id m hm
          simp only [MetaOk, hn] at hok
          have hsame : { m with gradient := none } = m := by
            cases m
            simp only at hok
            rw [hok.2.2.1]
          rw [htag, hsame, setMeta_self hm]
      | none =>
          refine Or.inr ⟨m, rfl, hn, htag, lt_of_meta hm, ?_⟩
          rw [gradFn, hm, Option.bind_some]

theorem gradient_cleared (id : TensorId) :
    (h.cleared id).gradient = Function.update h.gradient id none := by
  funext i
  by_cases hi : i = id
  · subst hi
    rw [Function.update_self]
    simp only [gradient, autogradMeta, get_cleared, if_pos]
    cases h.tensors[i]? with
    | none => rfl
    | some t => cases hm : t.autogradMeta <;> simp [Tensor.ungraded, hm]
  · rw [Function.update_of_ne hi]
    simp only [gradient, autogradMeta, get_cleared, if_neg hi]

theorem contents_cleared (id i : TensorId) : (h.cleared id).contents i = h.contents i := by
  simp only [contents, get_cleared]
  by_cases hi : i = id
  · rw [if_pos hi]
    cases h.tensors[i]? <;> rfl
  · rw [if_neg hi]
    rfl

theorem version_cleared (id i : TensorId) : (h.cleared id).version i = h.version i := by
  simp only [version, get_cleared]
  by_cases hi : i = id
  · rw [if_pos hi]
    cases h.tensors[i]? <;> rfl
  · rw [if_neg hi]
    rfl

end Heap

theorem Unrecorded.cleared (wf : WellFormed h) {id : TensorId} (hv : h.Visible id) :
    Unrecorded h (h.cleared id) := by
  rcases Heap.cleared_cases wf id with heq | ⟨m, hm, hn, htag⟩
  · rw [heq]
    exact Unrecorded.refl wf
  · have hok := wf.recorded id m hm
    simp only [MetaOk, hn] at hok
    refine Unrecorded.of_length (htag.evolves wf hv ?_ hok (fun g hg => ?_) fun _ => rfl)
      (Heap.length_cleared id)
    · rw [Heap.gradFn, hm, Option.bind_some, hn]
    · cases hg

namespace Autograd

theorem spec_clearGradient {id : TensorId} (hv : h.Visible id) :
    Spec (clearGradient id : Mem F Unit) h (fun _ h' => h' = h.cleared id)
      (fun _ _ => False) (fun _ => False) := by
  obtain ⟨t, ht⟩ := hv.get
  have hmeta := Heap.autogradMeta_of ht
  unfold clearGradient
  refine Spec.bind (spec_deref ht) ?_
  rintro t h ⟨rfl, rfl⟩
  cases hm : t.autogradMeta with
  | none =>
      rw [hm] at hmeta
      exact spec_pure (Heap.cleared_none hmeta).symm
  | some m =>
      rw [hm] at hmeta
      exact spec_modifyHeap _ (Heap.cleared_some hmeta).symm

end Autograd

namespace Training

theorem spec_setRequiresGrad (T : StorageId → Prop) (wf : WellFormed h) {id : TensorId}
    (hv : h.Visible id)
    (requiresGrad : Bool) :
    Spec (setRequiresGrad id requiresGrad : Mem F Unit) h (fun _ h' => Touches T h h')
      (fun _ h' => h' = h) (fun h' => h' = h) := by
  obtain ⟨t, ht⟩ := hv.get
  have hmeta := Heap.autogradMeta_of ht
  have hset : ∀ m : AutogradMeta, h.gradFn id = none → m.gradFn = none → m.isLeaf = true →
      (∀ g, m.gradient = some g → h.gradient id = some g) →
      (m.requiresGrad = false → m.gradient = none) →
      Spec (Autograd.setAutogradMeta id m : Mem F Unit) h (fun _ h' => Touches T h h')
        (fun _ h' => h' = h) (fun h' => h' = h) := by
    intro m hn hfn hleaf hgrad hoff
    unfold Autograd.setAutogradMeta
    refine (observes_deref ht).bind rfl fun _ _ => ?_
    refine spec_modifyHeap _ ?_
    have htag : Retagged h (h.setMeta id (some m)) id m := ⟨rfl, hv.1, hfn.trans hn.symm⟩
    exact Touches.of_mutations
      (Unrecorded.of_length (htag.evolves wf hv hn hleaf hgrad hoff) (Heap.length_setMeta id _)) rfl
  unfold setRequiresGrad
  refine (observes_deref ht).bind rfl ?_
  rintro t rfl
  cases hm : t.autogradMeta with
  | none =>
      rw [hm] at hmeta
      refine spec_ite (fun _ => ?_) fun _ => spec_pure (Touches.refl T wf)
      refine spec_allocationGuard _ ((observes_allocate h).bind rfl fun _ _ => ?_)
      exact hset _ (by rw [Heap.gradFn, hmeta]; rfl) rfl rfl (fun _ hg => by cases hg)
        fun _ => rfl
  | some m =>
      rw [hm] at hmeta
      have hok := wf.recorded id m hmeta
      refine spec_failIf_bind (fun _ => rfl) fun hleaf => ?_
      have hn : m.gradFn = none := by
        unfold MetaOk at hok
        cases hn : m.gradFn with
        | none => rfl
        | some node =>
            simp only [hn] at hok
            exact absurd (by simp [hok.2.1]) hleaf
      refine hset _ (by rw [Heap.gradFn, hmeta, Option.bind_some, hn]) hn
        (by simpa using hleaf) ?_ ?_
      · intro g hg
        rw [Heap.gradient, hmeta, Option.bind_some]
        cases requiresGrad with
        | true => exact hg
        | false => cases hg
      · intro hoff
        rw [show requiresGrad = false from hoff]
        rfl

end Training

def Heap.assigned (h : Heap F) (id : TensorId) (values : List F) : Heap F :=
  match h.tensors[id]? with
  | none => h
  | some t => (h.written t values).cleared id

theorem Heap.assigned_of {id : TensorId} {t : Tensor} (ht : h.tensors[id]? = some t)
    (values : List F) : h.assigned id values = (h.written t values).cleared id := by
  simp only [assigned, ht]

theorem Unrecorded.written (wf : WellFormed h) {id : TensorId} {t : Tensor} {values : List F}
    (ht : h.tensors[id]? = some t) (hlen : values.length = t.numel) :
    Unrecorded h (h.written t values) :=
  Unrecorded.of_length (evolves_written wf ht hlen) rfl

theorem Unrecorded.assigned (wf : WellFormed h) {id : TensorId} (hv : h.Visible id) {t : Tensor}
    {values : List F} (ht : h.tensors[id]? = some t) (hlen : values.length = t.numel) :
    Unrecorded h (h.assigned id values) := by
  rw [Heap.assigned_of ht]
  have hw := Unrecorded.written wf ht hlen
  exact hw.trans (Unrecorded.cleared hw.evolves.wellFormed (hw.evolves.visible id hv))

theorem Touches.cleared (T : StorageId → Prop) (wf : WellFormed h) {id : TensorId}
    (hv : h.Visible id) : Touches T h (h.cleared id) :=
  Touches.of_mutations (Unrecorded.cleared wf hv) rfl

theorem Touches.written {T : StorageId → Prop} (wf : WellFormed h) {id : TensorId} {t : Tensor}
    {values : List F} (ht : h.tensors[id]? = some t) (hlen : values.length = t.numel)
    (hT : T t.storage) : Touches T h (h.written t values) where
  unrecorded := Unrecorded.written wf ht hlen
  writes := by
    intro s hs
    have hne : t.storage ≠ s := by
      rintro rfl
      exact hs hT
    exact List.count_cons_of_ne hne

theorem Touches.assigned {T : StorageId → Prop} (wf : WellFormed h) {id : TensorId}
    (hv : h.Visible id) {t : Tensor} {values : List F} (ht : h.tensors[id]? = some t)
    (hlen : values.length = t.numel) (hT : T t.storage) : Touches T h (h.assigned id values) := by
  rw [Heap.assigned_of ht]
  have hw := Touches.written wf ht hlen hT
  have e := hw.unrecorded.evolves
  exact hw.trans (Touches.cleared T e.wellFormed (e.visible id hv))

theorem spec_write (h : Heap F) (t : Tensor) (values : List F) :
    Spec (do mutateStorage t values; incrementVersion t : Mem F Unit) h
      (fun _ h' => h' = h.written t values) (fun _ _ => False) (fun _ => False) := by
  unfold mutateStorage incrementVersion
  refine Spec.bind (Q := fun _ h' => h' = h.mutate t.storage values) (spec_modifyHeap _ rfl) ?_
  rintro _ _ rfl
  exact spec_modifyHeap _ rfl

namespace Training

theorem spec_commitAssignment {id : TensorId} {t : Tensor} {values : List F} (wf : WellFormed h)
    (hv : h.Visible id) (ht : h.tensors[id]? = some t) (hlen : values.length = t.numel) :
    Spec (commitAssignment (id, values) : Mem F Unit) h
      (fun _ h' => h' = h.assigned id values) (fun _ _ => False) (fun _ => False) := by
  obtain ⟨old, hold, hn⟩ := (wf.placed id t ht).stored
  have hw := evolves_written wf ht hlen
  rw [Heap.assigned_of ht]
  unfold commitAssignment
  refine Spec.bind (spec_deref ht) ?_
  rintro t h ⟨rfl, rfl⟩
  refine Spec.bind (spec_storageValues hold) ?_
  rintro current h ⟨rfl, rfl⟩
  refine spec_failIf_bind (fun hlt => absurd hlt (by simp only; omega)) fun _ => ?_
  have hwhole : values ++ current.drop values.length = values := by
    rw [hlen, ← hn, List.drop_length, List.append_nil]
  simp only [hwhole]
  rw [← bind_assoc]
  refine Spec.bind (spec_write h t values) ?_
  rintro _ _ rfl
  exact Autograd.spec_clearGradient (hw.visible id hv)

theorem spec_restoreParameter {id : TensorId} {t : Tensor} {values : List F} (wf : WellFormed h)
    (hv : h.Visible id) (ht : h.tensors[id]? = some t) (hc : h.contiguous id = true)
    (hlen : values.length = t.numel) :
    Spec (restoreParameter id values : Mem F Unit) h
      (fun _ h' => h' = h.assigned id values) (fun _ _ => False) (fun _ => False) := by
  have hw := evolves_written wf ht hlen
  rw [Heap.assigned_of ht]
  unfold restoreParameter
  refine Spec.bind (Q := fun _ h' => h' = h) ?_ ?_
  · refine (Autograd.spec_directAccess (fun _ _ => rfl) wf ht "module_load").mono
      (fun _ _ hq => hq.1) ?_ fun _ hx => hx
    rintro e _ ⟨rfl, hbad, -⟩
    rw [Heap.contiguous_of ht, hbad] at hc
    cases hc
  rintro _ h rfl
  refine Spec.bind (spec_deref ht) ?_
  rintro t h ⟨rfl, rfl⟩
  rw [← bind_assoc]
  refine Spec.bind (spec_write h t values) ?_
  rintro _ _ rfl
  exact Autograd.spec_clearGradient (hw.visible id hv)

end Training

end Tensora
