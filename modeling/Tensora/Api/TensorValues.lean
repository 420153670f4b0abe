import Tensora.Api.MutatingCalls
import Tensora.Api.Isolation
import Tensora.Api.ViewSequences

/-! What the tensor calls of the C ABI compute, on the dimensions and the row-major elements of
the tensors that handles name. -/
namespace Tensora.Api
open ProgramLogic Training

variable {F D : Type}

def resultDims : Operation → List (List Nat) → List Nat
  | .sum, _ | .mse, _ | .crossEntropy, _ => []
  | .transpose2D, [dims] => CpuBackend.swapFirstTwo dims
  | .matmul, [left, right] => CpuBackend.matmulDims left right
  | .swiGlu, [dims] => swiGluDims dims
  | _, dims => dims.headD []

variable (D) in
def applied [Scalar F] [Scalar D] [Precision F D] (operation : Operation)
    (operands : List (List Nat × List F)) : List Nat × List F :=
  (resultDims operation (operands.map Prod.fst),
    forwardValues D (codeFunctions F D) operation (operands.map Prod.fst)
      (operands.map Prod.snd))

def Call.applies : Call F D → Option (Operation × List Nat)
  | .tensorToDevice tensor _ _ => some (.identity, [tensor])
  | .tensorTranspose2D tensor => some (.transpose2D, [tensor])
  | .tensorAdd left right => some (.add, [left, right])
  | .tensorMultiply left right => some (.multiply, [left, right])
  | .tensorSum tensor => some (.sum, [tensor])
  | .tensorMatmul left right => some (.matmul, [left, right])
  | .tensorRelu tensor => some (.relu, [tensor])
  | .tensorSigmoid tensor => some (.sigmoid, [tensor])
  | .tensorTanh tensor => some (.tanh, [tensor])
  | .tensorGelu tensor => some (.gelu, [tensor])
  | .tensorSilu tensor => some (.silu, [tensor])
  | .tensorSwiGlu tensor => some (.swiGlu, [tensor])
  | .mseLoss prediction target => some (.mse, [prediction, target])
  | .crossEntropyLoss logits target => some (.crossEntropy, [logits, target])
  | _ => none

def Hands (P : List Nat × List F → Prop) (reply : Reply F) (s' : Runtime F D) : Prop :=
  ∃ handle viewed, reply = .handle handle ∧ Views s' handle viewed ∧ P viewed

section Calls
variable [Scalar F] [Scalar D] [Precision F D] {s : Runtime F D}

theorem keeps_runBinary_gives (ok : s.Ok) {left right : Nat}
    {program : TensorId → TensorId → Mem F TensorId}
    {reject : TensorId → TensorId → Option Failure} {operation : Operation}
    {dims : TensorId → TensorId → List Nat}
    (hforwards : ∀ l r, s.heap.Visible l → s.heap.Visible r →
      Forwards D (program l r) s.heap (reject l r) operation [l, r] (dims l r)) :
    Keeps (Forwarded D) (runBinary left right program) s fun reply s' =>
      ∃ l r, s.objectOf left .tensor = some l ∧ s.objectOf right .tensor = some r ∧
        reject l r = none ∧ Gives D s operation [l, r] (dims l r) reply s' := by
  have c := chained_forwarded (F := F) (D := D)
  unfold Keeps
  refine wp_lookupObject_or left .tensor (fun _ e => ⟨ok, c.refl ok.wellFormed⟩) fun l hl => ?_
  refine wp_lookupObject_or right .tensor (fun _ e => ⟨ok, c.refl ok.wellFormed⟩) fun r hr => ?_
  refine Keeps.mono (keeps_forwardAndInsert ok (hforwards l r (ok.visible hl) (ok.visible hr))) ?_
  intro reply s' h
  exact ⟨l, r, hl, hr, h.1, h.2⟩

section Views
variable {operation : Operation} {viewed viewed' : List Nat × List F}

theorem keeps_runUnary_views (ok : s.Ok) {tensor : Nat} {program : TensorId → Mem F TensorId}
    {reject : TensorId → Option Failure} (hview : Views s tensor viewed)
    (hforwards : ∀ id, s.heap.Visible id → Forwards D (program id) s.heap (reject id) operation
      [id] (resultDims operation [s.heap.dims id])) :
    Keeps (Forwarded D) (runUnary tensor program) s
      (Hands (· = applied D operation [viewed])) := by
  obtain ⟨id, hobject, rfl⟩ := hview
  refine Keeps.mono (keeps_runUnary_gives ok hforwards) ?_
  intro reply s' h
  obtain ⟨id', hobject', -, hgives⟩ := h
  obtain rfl : id' = id := Option.some.inj (hobject'.symm.trans hobject)
  obtain ⟨handle, hreply, hviews⟩ := views_of_gives hgives
  exact ⟨handle, _, hreply, hviews, rfl⟩

theorem keeps_runBinary_views (ok : s.Ok) {left right : Nat}
    {program : TensorId → TensorId → Mem F TensorId}
    {reject : TensorId → TensorId → Option Failure} (hleft : Views s left viewed)
    (hright : Views s right viewed')
    (hforwards : ∀ l r, s.heap.Visible l → s.heap.Visible r → Forwards D (program l r) s.heap
      (reject l r) operation [l, r] (resultDims operation [s.heap.dims l, s.heap.dims r])) :
    Keeps (Forwarded D) (runBinary left right program) s
      (Hands (· = applied D operation [viewed, viewed'])) := by
  obtain ⟨l, hl, rfl⟩ := hleft
  obtain ⟨r, hr, rfl⟩ := hright
  refine Keeps.mono (keeps_runBinary_gives ok hforwards) ?_
  intro reply s' h
  obtain ⟨l', r', hl', hr', -, hgives⟩ := h
  obtain rfl : l' = l := Option.some.inj (hl'.symm.trans hl)
  obtain rfl : r' = r := Option.some.inj (hr'.symm.trans hr)
  obtain ⟨handle, hreply, hviews⟩ := views_of_gives hgives
  exact ⟨handle, _, hreply, hviews, rfl⟩

end Views

variable [FloatBits F]

omit [FloatBits F] [Scalar F] [Scalar D] [Precision F D] in
theorem only_operand {operation operation' : Operation} {tensor : Nat} {handles : List Nat}
    {operands : List (List Nat × List F)}
    (h : some (operation', [tensor]) = some (operation, handles))
    (hviews : List.Forall₂ (Views s) handles operands) :
    operation' = operation ∧ ∃ viewed, operands = [viewed] ∧ Views s tensor viewed := by
  cases h
  cases hviews with
  | cons hview hrest =>
      cases hrest
      exact ⟨rfl, _, rfl, hview⟩

omit [FloatBits F] [Scalar F] [Scalar D] [Precision F D] in
theorem both_operands {operation operation' : Operation} {left right : Nat} {handles : List Nat}
    {operands : List (List Nat × List F)}
    (h : some (operation', [left, right]) = some (operation, handles))
    (hviews : List.Forall₂ (Views s) handles operands) :
    operation' = operation ∧ ∃ viewed viewed', operands = [viewed, viewed'] ∧
      Views s left viewed ∧ Views s right viewed' := by
  cases h
  cases hviews with
  | cons hleft hrest =>
      cases hrest with
      | cons hright hrest =>
          cases hrest
          exact ⟨rfl, _, _, rfl, hleft, hright⟩

/-- A call computes its operation on what its operands are. -/
theorem keeps_exec_applies (ok : s.Ok) {call : Call F D} {operation : Operation}
    {handles : List Nat} {operands : List (List Nat × List F)}
    (happlies : call.applies = some (operation, handles))
    (hviews : List.Forall₂ (Views s) handles operands) :
    Keeps (Forwarded D) (exec call) s (Hands (· = applied D operation operands)) := by
  have wf := ok.wellFormed
  cases call with
  | tensorToDevice tensor device deviceIndex =>
      obtain ⟨rfl, viewed, rfl, hview⟩ := only_operand happlies hviews
      exact keeps_runUnary_views ok hview fun _ hv => forwards_transfer wf hv device deviceIndex
  | tensorTranspose2D tensor =>
      obtain ⟨rfl, viewed, rfl, hview⟩ := only_operand happlies hviews
      exact keeps_runUnary_views ok hview fun _ hv =>
        forwards_dispatchedUnary wf hv (CpuBackend.forwards_transpose2D wf hv)
  | tensorSum tensor =>
      obtain ⟨rfl, viewed, rfl, hview⟩ := only_operand happlies hviews
      exact keeps_runUnary_views ok hview fun _ hv =>
        forwards_dispatchedUnary wf hv (CpuBackend.forwards_sum wf hv)
  | tensorRelu tensor =>
      obtain ⟨rfl, viewed, rfl, hview⟩ := only_operand happlies hviews
      exact keeps_runUnary_views ok hview fun _ hv => forwards_relu wf hv
  | tensorSigmoid tensor =>
      obtain ⟨rfl, viewed, rfl, hview⟩ := only_operand happlies hviews
      exact keeps_runUnary_views ok hview fun _ hv => forwards_sigmoid wf hv
  | tensorTanh tensor =>
      obtain ⟨rfl, viewed, rfl, hview⟩ := only_operand happlies hviews
      exact keeps_runUnary_views ok hview fun _ hv => forwards_tanh wf hv
  | tensorGelu tensor =>
      obtain ⟨rfl, viewed, rfl, hview⟩ := only_operand happlies hviews
      exact keeps_runUnary_views ok hview fun _ hv => forwards_gelu wf hv
  | tensorSilu tensor =>
      obtain ⟨rfl, viewed, rfl, hview⟩ := only_operand happlies hviews
      exact keeps_runUnary_views ok hview fun _ hv => forwards_silu wf hv
  | tensorSwiGlu tensor =>
      obtain ⟨rfl, viewed, rfl, hview⟩ := only_operand happlies hviews
      exact keeps_runUnary_views ok hview fun _ hv => forwards_swiGlu wf hv
  | tensorAdd left right =>
      obtain ⟨rfl, viewed, viewed', rfl, hleft, hright⟩ := both_operands happlies hviews
      exact keeps_runBinary_views ok hleft hright fun _ _ hl hr =>
        forwards_dispatched wf hl hr (CpuBackend.forwards_add wf hl hr)
  | tensorMultiply left right =>
      obtain ⟨rfl, viewed, viewed', rfl, hleft, hright⟩ := both_operands happlies hviews
      exact keeps_runBinary_views ok hleft hright fun _ _ hl hr =>
        forwards_dispatched wf hl hr (CpuBackend.forwards_multiply wf hl hr)
  | tensorMatmul left right =>
      obtain ⟨rfl, viewed, viewed', rfl, hleft, hright⟩ := both_operands happlies hviews
      exact keeps_runBinary_views ok hleft hright fun _ _ hl hr =>
        forwards_dispatched wf hl hr (CpuBackend.forwards_matmul wf hl hr)
  | mseLoss prediction target =>
      obtain ⟨rfl, viewed, viewed', rfl, hleft, hright⟩ := both_operands happlies hviews
      exact keeps_runBinary_views ok hleft hright fun _ _ hl hr => forwards_mseLoss wf hl hr
  | crossEntropyLoss logits target =>
      obtain ⟨rfl, viewed, viewed', rfl, hleft, hright⟩ := both_operands happlies hviews
      exact keeps_runBinary_views ok hleft hright fun _ _ hl hr =>
        forwards_crossEntropyLoss wf hl hr
  | _ => cases happlies

omit [FloatBits F] in
theorem keeps_makeAndInsert_views (ok : s.Ok) {x : Mem F TensorId}
    {P : List Nat × List F → Prop} (hmakes : Makes D x s.heap)
    (hx : Spec x s.heap (fun r h' => P (h'.dims r, h'.contents r)) (fun _ _ => True)
      fun _ => True) :
    Keeps (Forwarded D) (do
      let result ← onMemory x
      return .handle (← insertTensor result) : Native F D (Reply F)) s (Hands P) := by
  have c := chained_forwarded (F := F) (D := D)
  refine Keeps.bind c (keeps_onMemory (T := fun r h' => h'.Visible r ∧
    P (h'.dims r, h'.contents r)) c ok ((hmakes.and hx).mono
      (fun _ _ hq => ⟨hq.1.1, hq.1.2, hq.2⟩) (fun _ _ he => he) fun _ hX => hX)) ?_
  intro result s₁ ok₁ _ h
  refine Keeps.bind c (keeps_insertTensor c ok₁ h.1) ?_
  intro handle s₂ ok₂ _ h'
  refine keeps_pure c ok₂ ⟨handle, _, rfl, ⟨result, h'.1, rfl⟩, ?_⟩
  rw [h'.2]
  exact h.2

omit [FloatBits F] [Scalar F] [Scalar D] [Precision F D] in
theorem viewed_pushFresh {h : Heap F} (wf : WellFormed h) {dims : List Nat} {values : List F}
    {m : Option AutogradMeta} (hd : ValidDims dims) (hlen : values.length = dims.prod)
    (hfits : dims.prod ≤ kMaxFloats) (hm : MetaPushable h dims m) :
    ((h.pushFresh (canonicalShape dims) values m).dims h.tensors.length,
      (h.pushFresh (canonicalShape dims) values m).contents h.tensors.length) = (dims, values) := by
  have hpush := pushable_fresh wf (canonicalShape_canonical hd).layout hlen hfits hm
  rw [contents_pushFresh wf hd hlen hfits hm, Heap.dims_of hpush.last]
  rfl

theorem keeps_full_views (ok : s.Ok) (dims : List Int) (value : F) :
    Keeps (Forwarded D) (exec (.tensorFullF32 dims value : Call F D)) s (Hands
      (· = (dims.map Int.toNat, List.replicate (dims.map Int.toNat).prod value))) := by
  have c := chained_forwarded (F := F) (D := D)
  refine Keeps.bind c (keeps_validatedShape c ok dims) ?_
  intro shape s₁ ok₁ _ h
  have wf := ok₁.wellFormed
  have hshape := h.2.1
  refine keeps_makeAndInsert_views ok₁ (CpuBackend.makes_full wf hshape value) ?_
  refine (CpuBackend.spec_full hshape value).mono ?_ (fun _ _ _ => trivial) fun _ _ => trivial
  intro r h' hmade
  obtain ⟨hfits, rfl, rfl⟩ := hmade
  rw [hshape.numel_eq] at hfits ⊢
  rw [viewed_pushFresh wf hshape.valid List.length_replicate hfits (metaPushable_none _ _),
    ← dimensions_of_ofNat h.2.2]

theorem keeps_withRequiresGrad_views (ok : s.Ok) {tensor : Nat} {requiresGrad : Bool}
    {viewed : List Nat × List F} (hview : Views s tensor viewed) :
    Keeps (Forwarded D) (exec (.tensorWithRequiresGrad tensor requiresGrad : Call F D)) s
      (Hands (· = viewed)) := by
  obtain ⟨id, hobject, rfl⟩ := hview
  have wf := ok.wellFormed
  have hv := ok.visible hobject
  refine wp_lookupObject hobject ?_
  refine keeps_makeAndInsert_views ok (Autograd.makes_cloneAsLeaf wf hv requiresGrad) ?_
  refine (Autograd.spec_cloneAsLeaf wf hv requiresGrad).mono ?_ (fun _ _ _ => trivial)
    fun _ _ => trivial
  intro r h' hmade
  obtain ⟨rfl, rfl⟩ := hmade
  exact viewed_pushFresh wf (hv.valid wf) (hv.length wf) (hv.fits wf)
    (metaPushable_leaf s.heap _ requiresGrad)

theorem keeps_grad_views (ok : s.Ok) {tensor : Nat} {viewed : List Nat × List F}
    (hview : Views s tensor viewed) :
    Keeps (Forwarded D) (exec (.tensorGrad tensor : Call F D)) s
      (Hands fun gradient => gradient.1 = viewed.1) := by
  obtain ⟨id, hobject, rfl⟩ := hview
  have wf := ok.wellFormed
  have hv := ok.visible hobject
  obtain ⟨t, ht⟩ := hv.get
  refine wp_lookupObject hobject ?_
  refine keeps_makeAndInsert_views ok (Autograd.makes_gradientSnapshot wf hv) ?_
  unfold Autograd.gradientSnapshot
  refine (observes_deref ht).bind trivial ?_
  intro t' heq
  rw [heq]
  cases hgradient : t.gradient with
  | none => exact spec_throw trivial
  | some g =>
      have howned := wf.owned id g (by rw [Heap.gradient_of ht, hgradient])
      refine (Autograd.spec_cloneDetached wf howned.lt).mono ?_ (fun _ _ _ => trivial)
        fun _ _ => trivial
      intro r h' hmade
      obtain ⟨rfl, rfl⟩ := hmade
      obtain ⟨tg, htg⟩ := howned.tensor
      exact (congrArg Prod.fst (viewed_pushFresh wf (wf.dims_valid htg.1)
        (wf.length_contents htg.1) (wf.fits htg.1) (metaPushable_none _ _))).trans howned.dims_eq

end Calls

end Tensora.Api
