import Tensora.Api.CallSpecs

/-! The calls that record an operation: a new handle, and the tensor it names. -/
namespace Tensora.Api
open ProgramLogic Training

variable {F D : Type} [Scalar F] [Scalar D] [Precision F D] {s : Runtime F D}

section Dispatch
variable {h : Heap F} {operation : Operation} {reject : Option Failure} {dims : List Nat}

theorem forwards_dispatchedUnary {program : TensorId → Mem F TensorId} {id : TensorId}
    (wf : WellFormed h) (hv : h.Visible id)
    (hop : Forwards D (program id) h reject operation [id] dims) :
    Forwards D (dispatchedUnary program id) h reject operation [id] dims := by
  obtain ⟨t, ht⟩ := hv.get
  have hdevice := (wf.placed id t ht).device
  unfold dispatchedUnary
  refine (observes_deref ht).bind (Forwarded.refl wf) ?_
  rintro t rfl
  exact spec_failIf_bind (fun hne => absurd hdevice hne) fun _ => hop

theorem forwards_dispatched {program : TensorId → TensorId → Mem F TensorId}
    {left right : TensorId} (wf : WellFormed h) (hl : h.Visible left) (hr : h.Visible right)
    (hop : Forwards D (program left right) h reject operation [left, right] dims) :
    Forwards D (dispatched program left right) h reject operation [left, right] dims := by
  obtain ⟨l, hl⟩ := hl.get
  obtain ⟨r, hr⟩ := hr.get
  have hleft := wf.placed left l hl
  have hright := wf.placed right r hr
  unfold dispatched
  refine (observes_deref hl).bind (Forwarded.refl wf) ?_
  rintro l rfl
  refine (observes_deref hr).bind (Forwarded.refl wf) ?_
  rintro r rfl
  refine spec_failIf_bind (fun hne => ?_) fun _ => ?_
  · rcases hne with hne | hne
    · exact absurd (hleft.device.trans hright.device.symm) hne
    · exact absurd (hleft.deviceIndex.trans hright.deviceIndex.symm) hne
  · exact spec_failIf_bind (fun hne => absurd hleft.device hne) fun _ => hop

end Dispatch

variable (D) in
def Gives (s : Runtime F D) (operation : Operation) (parents : List TensorId) (dims : List Nat)
    (reply : Reply F) (s' : Runtime F D) : Prop :=
  ∃ handle, reply = .handle handle ∧ s'.objectOf handle .tensor = some s.heap.tensors.length ∧
    Produced D s.heap s'.heap operation parents dims

theorem keeps_forwardAndInsert (ok : s.Ok) {x : Mem F TensorId} {reject : Option Failure}
    {operation : Operation} {parents : List TensorId} {dims : List Nat}
    (hx : Forwards D x s.heap reject operation parents dims) :
    Keeps (Forwarded D) (do
      let result ← onMemory x
      return .handle (← insertTensor result) : Native F D (Reply F)) s
      fun reply s' => reject = none ∧ Gives D s operation parents dims reply s' := by
  have c := chained_forwarded (F := F) (D := D)
  refine Keeps.bind c (keeps_onMemory c ok (T := fun r h' => reject = none ∧
    r = s.heap.tensors.length ∧ Produced D s.heap h' operation parents dims) (hx.mono ?_ ?_ ?_)) ?_
  · intro r h' hq
    exact ⟨hq.2.2.forwarded ok.wellFormed, hq⟩
  · rintro _ _ ⟨rfl, -⟩
    exact Forwarded.refl ok.wellFormed
  · exact fun _ hX => hX
  rintro _ s₁ ok₁ - ⟨haccept, rfl, hproduced⟩
  refine Keeps.bind c (keeps_insertTensor c ok₁ (hproduced.result_visible ok.wellFormed)) ?_
  rintro handle s₂ ok₂ - ⟨hobject, hheap⟩
  refine keeps_pure c ok₂ ⟨haccept, handle, rfl, hobject, ?_⟩
  rw [hheap]
  exact hproduced

omit [Scalar F] [Scalar D] [Precision F D] in
theorem keeps_onMemory_handles {α : Type} {R : Heap F → Heap F → Prop} {program : Mem F α}
    {Q : α → Runtime F D → Prop} (hx : Keeps R (onMemory program : Native F D α) s Q) :
    Keeps R (onMemory program : Native F D α) s fun r s' =>
      Q r s' ∧ ∀ handle type, s'.objectOf handle type = s.objectOf handle type := by
  unfold Keeps at hx ⊢
  rw [wp_onMemory] at hx ⊢
  refine wp_mono hx ?_ fun _ _ he => he
  rintro r m ⟨ok, hr, hq⟩
  exact ⟨ok, hr, hq, fun _ _ => rfl⟩

theorem keeps_runUnary_gives (ok : s.Ok) {tensor : Nat} {program : TensorId → Mem F TensorId}
    {reject : TensorId → Option Failure} {operation : Operation} {dims : TensorId → List Nat}
    (hforwards : ∀ id, s.heap.Visible id →
      Forwards D (program id) s.heap (reject id) operation [id] (dims id)) :
    Keeps (Forwarded D) (runUnary tensor program) s fun reply s' =>
      ∃ id, s.objectOf tensor .tensor = some id ∧ reject id = none ∧
        Gives D s operation [id] (dims id) reply s' := by
  have c := chained_forwarded (F := F) (D := D)
  refine wp_lookupObject_or tensor .tensor (fun _ e => ⟨ok, c.refl ok.wellFormed⟩) fun id hid => ?_
  refine Keeps.mono (keeps_forwardAndInsert ok (hforwards id (ok.visible hid))) ?_
  rintro reply s' ⟨haccept, hgives⟩
  exact ⟨id, hid, haccept, hgives⟩

end Tensora.Api
