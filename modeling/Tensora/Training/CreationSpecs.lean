import Tensora.Training.LinearSpecs
import Tensora.Training.Module

/-! Operations that give a program one more tensor: those that record a node, and
those that make data, copies and leaves. -/
namespace Tensora
open CheckedLoop

variable {F D : Type} [Scalar F] [Scalar D] [Precision F D] {h : Heap F}

variable (D) in
def Makes (x : Mem F TensorId) (h : Heap F) : Prop :=
  Spec x h (fun r h' => Forwarded D h h' ∧ h'.Visible r) (fun _ h' => Forwarded D h h')
    (Forwarded D h)

theorem Forwards.makes {x : Mem F TensorId} {reject : Option Failure} {operation : Operation}
    {parents : List TensorId} {dims : List Nat} (wf : WellFormed h)
    (f : Forwards D x h reject operation parents dims) : Makes D x h := by
  refine f.mono ?_ ?_ fun _ hx => hx
  · rintro r h' ⟨-, rfl, hprod⟩
    exact ⟨hprod.forwarded wf, hprod.result_visible wf⟩
  · rintro e _ ⟨rfl, -⟩
    exact Forwarded.refl wf

theorem makes_fresh {x : Mem F TensorId} {dims : List Nat} {values : List F}
    {m : Option AutogradMeta} (wf : WellFormed h) (hd : ValidDims dims)
    (hlen : values.length = dims.prod) (hfits : dims.prod ≤ kMaxFloats)
    (hm : MetaPushable h dims m) (hnode : m.bind AutogradMeta.gradFn = none)
    (hx : Spec x h (fun r h' => r = h.tensors.length ∧
        h' = h.pushFresh (canonicalShape dims) values m) (fun _ h' => h' = h)
      (fun h' => h.Idled h' ∨ h' = h.pushFresh (canonicalShape dims) values none)) :
    Makes D x h := by
  have hpush := pushable_fresh wf (canonicalShape_canonical hd).layout hlen hfits hm
  have hplain := pushable_fresh wf (canonicalShape_canonical hd).layout hlen hfits
    (metaPushable_none h dims)
  refine hx.mono ?_ ?_ ?_
  · rintro r _ ⟨rfl, rfl⟩
    exact ⟨forwarded_plain wf hpush hnode, hpush.last_visible wf⟩
  · rintro e _ rfl
    exact Forwarded.refl wf
  · rintro _ (hidled | rfl)
    · exact hidled.forwarded wf
    · exact forwarded_plain wf hplain rfl

namespace CpuBackend

omit [Scalar F] in
theorem spec_fromData {shape : ShapeInfo} {data : List F} (hs : shape.Canonical)
    (hlen : data.length = shape.numel) :
    Spec (fromData shape data) h
      (fun r h' => shape.numel ≤ kMaxFloats ∧ r = h.tensors.length ∧
        h' = h.pushFresh (canonicalShape shape.dimensions) data none)
      (fun _ h' => h' = h ∧ kMaxFloats < shape.numel) h.Idled := by
  unfold fromData
  refine Spec.bind (Q := fun r h' => h' = h ∧ r = data ∧ shape.numel ≤ kMaxFloats) ?_ ?_
  · unfold cpuStorageFromData
    refine spec_allocationGuard _ (Spec.bind ((spec_allocateFloats h shape.numel).mono
      (fun _ _ hq => hq) (fun _ _ he => ⟨he.1, he.2.2⟩) fun _ hx => Or.inl hx) ?_)
    rintro _ _ ⟨rfl, hfits⟩
    refine spec_failIf_bind (fun hlt => absurd hlt (by omega)) fun _ => ?_
    exact spec_pure ⟨rfl, by rw [← hlen, List.take_length], hfits⟩
  · rintro _ _ ⟨rfl, rfl, hfits⟩
    refine (spec_makeTensor hs.valid hs.numel_eq (hlen.trans hs.numel_eq)).mono
      (fun r h' hq => ⟨hfits, hq⟩) (fun _ _ he => he.elim) fun _ hx => hx

omit [Scalar F] in
theorem spec_full {shape : ShapeInfo} (hs : shape.Canonical) (value : F) :
    Spec (full shape value) h
      (fun r h' => shape.numel ≤ kMaxFloats ∧ r = h.tensors.length ∧
        h' = h.pushFresh (canonicalShape shape.dimensions) (List.replicate shape.numel value) none)
      (fun _ h' => h' = h ∧ kMaxFloats < shape.numel) h.Idled := by
  unfold full
  refine Spec.bind (Q := fun r h' => h' = h ∧ r = List.replicate shape.numel value ∧
    shape.numel ≤ kMaxFloats) ?_ ?_
  · unfold cpuStorageFilled
    refine spec_allocationGuard _ (Spec.bind ((spec_allocateFloats h shape.numel).mono
      (fun _ _ hq => hq) (fun _ _ he => ⟨he.1, he.2.2⟩) fun _ hx => Or.inl hx) ?_)
    rintro _ _ ⟨rfl, hfits⟩
    exact spec_pure ⟨rfl, rfl, hfits⟩
  · rintro _ _ ⟨rfl, rfl, hfits⟩
    refine (spec_makeTensor hs.valid hs.numel_eq
      (by rw [List.length_replicate, hs.numel_eq])).mono
      (fun r h' hq => ⟨hfits, hq⟩) (fun _ _ he => he.elim) fun _ hx => hx

theorem makes_fromData {shape : ShapeInfo} {data : List F} (wf : WellFormed h)
    (hs : shape.Canonical) (hlen : data.length = shape.numel) :
    Makes D (fromData shape data) h := by
  refine (spec_fromData hs hlen).mono ?_ ?_ ?_
  · rintro r _ ⟨hfits, rfl, rfl⟩
    rw [hs.numel_eq] at hfits hlen
    have hpush := pushable_fresh wf (canonicalShape_canonical hs.valid).layout hlen hfits
      (metaPushable_none h shape.dimensions)
    exact ⟨forwarded_plain wf hpush rfl, hpush.last_visible wf⟩
  · rintro e _ ⟨rfl, -⟩
    exact Forwarded.refl wf
  · exact fun _ hx => hx.forwarded wf

theorem makes_full {shape : ShapeInfo} (wf : WellFormed h) (hs : shape.Canonical) (value : F) :
    Makes D (full shape value) h := by
  refine (spec_full hs value).mono ?_ ?_ ?_
  · rintro r _ ⟨hfits, rfl, rfl⟩
    rw [hs.numel_eq] at hfits ⊢
    have hlen : (List.replicate shape.dimensions.prod value).length = shape.dimensions.prod :=
      List.length_replicate
    have hpush := pushable_fresh wf (canonicalShape_canonical hs.valid).layout hlen hfits
      (metaPushable_none h shape.dimensions)
    exact ⟨forwarded_plain wf hpush rfl, hpush.last_visible wf⟩
  · rintro e _ ⟨rfl, -⟩
    exact Forwarded.refl wf
  · exact fun _ hx => hx.forwarded wf

end CpuBackend

namespace Autograd

theorem makes_cloneDetached {id : TensorId} (wf : WellFormed h) (hid : id < h.tensors.length) :
    Makes D (cloneDetached id) h := by
  have ht := List.getElem?_eq_getElem hid
  refine makes_fresh wf (wf.dims_valid ht) (wf.length_contents ht) (wf.fits ht)
    (metaPushable_none h _) rfl ((spec_cloneDetached wf hid).mono (fun _ _ hq => hq)
      (fun _ _ he => he.elim) fun _ hx => Or.inl hx)

theorem makes_cloneAsLeaf {id : TensorId} (wf : WellFormed h) (hv : h.Visible id)
    (requiresGrad : Bool) : Makes D (cloneAsLeaf id requiresGrad) h :=
  makes_fresh wf (hv.valid wf) (hv.length wf) (hv.fits wf)
    (metaPushable_leaf h _ requiresGrad) rfl ((spec_cloneAsLeaf wf hv requiresGrad).mono
      (fun _ _ hq => hq) (fun _ _ he => he.elim) fun _ hx => hx)

theorem makes_gradientSnapshot {id : TensorId} (wf : WellFormed h) (hv : h.Visible id) :
    Makes D (gradientSnapshot id) h := by
  obtain ⟨t, ht⟩ := hv.get
  unfold gradientSnapshot
  refine (observes_deref ht).bind (Forwarded.refl wf) ?_
  rintro t rfl
  cases hg : t.gradient with
  | none => exact spec_throw (Forwarded.refl wf)
  | some g =>
      obtain ⟨⟨tg, htg, -⟩, -⟩ := wf.owned id g (by rw [Heap.gradient_of ht, hg])
      exact makes_cloneDetached wf (List.getElem?_eq_some_iff.mp htg).1

end Autograd

namespace Training

omit [Scalar F] in
theorem spec_makeParameter {shape : ShapeInfo} {values : List F} (hs : shape.Canonical)
    (hlen : values.length = shape.numel) (hfits : shape.numel ≤ kMaxFloats) :
    Spec (makeParameter shape values) h
      (fun r h' => r = h.tensors.length ∧ h' = h.pushFresh (canonicalShape shape.dimensions)
        values (some ⟨true, true, none, none⟩))
      (fun _ _ => False) (fun h' => h.Idled h' ∨
        h' = h.pushFresh (canonicalShape shape.dimensions) values none) := by
  unfold makeParameter
  rw [hs.numel_eq] at hlen hfits
  refine Spec.bind ((Autograd.spec_makeCpuTensor (h := h) hs.valid hs.numel_eq hlen hfits).mono
    (fun _ _ hq => hq) (fun _ _ he => he) fun _ hx => Or.inl hx) ?_
  rintro _ _ ⟨rfl, rfl⟩
  refine (observes_allocate _).bind (Or.inr rfl) fun _ _ => ?_
  have hlast : (h.pushFresh (canonicalShape shape.dimensions) values none).tensors[
      h.tensors.length]? = some _ := List.getElem?_concat_length
  refine Spec.bind (Q := fun _ h' => h' = h.pushFresh (canonicalShape shape.dimensions)
    values (some ⟨true, true, none, none⟩)) ?_ ?_
  · unfold Autograd.setAutogradMeta
    refine (observes_deref hlast).bind (Or.inr rfl) fun _ _ => ?_
    exact spec_modifyHeap _ (Heap.setMeta_pushFresh h _ _ none _)
  · rintro _ _ rfl
    exact spec_pure ⟨rfl, rfl⟩

end Training

end Tensora
