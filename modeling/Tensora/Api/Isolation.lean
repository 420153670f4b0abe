import Tensora.Api.Runs
import Tensora.Api.Sample

/-! Mutation isolation: a call changes the contents of its targets' aliases at most, and
copies alias nothing that existed before them. -/
namespace Tensora
open ProgramLogic

variable {F D : Type}

def Copies (x : Mem F TensorId) (h : Heap F) : Prop :=
  Spec x h (fun r h' => h'.storageOf r = some h.storages.length) (fun _ _ => True) fun _ => True

theorem Heap.storageOf_pushFresh (h : Heap F) (shape : ShapeInfo) (values : List F)
    (m : Option AutogradMeta) :
    (h.pushFresh shape values m).storageOf h.tensors.length = some h.storages.length := by
  simp [Heap.storageOf, Heap.pushFresh]

theorem Heap.storageOf_setMeta (h : Heap F) (id other : TensorId) (m : Option AutogradMeta) :
    (h.setMeta id m).storageOf other = h.storageOf other := by
  rw [Heap.storageOf, Heap.get_setMeta, Heap.storageOf]
  split
  · cases h.tensors[other]? <;> rfl
  · rfl

theorem WellFormed.storageOf_lt {h : Heap F} (wf : WellFormed h) {id : TensorId} {s : StorageId}
    (hs : h.storageOf id = some s) : s < h.storages.length := by
  obtain ⟨t, ht, rfl⟩ := Option.map_eq_some_iff.mp hs
  obtain ⟨values, hv, -⟩ := (wf.placed id t ht).stored
  exact (List.getElem?_eq_some_iff.mp hv).1

section Copying
variable {h : Heap F} {id : TensorId}

theorem copies_cloneDetached (wf : WellFormed h) (hv : h.Visible id) :
    Copies (Autograd.cloneDetached id) h := by
  refine (Autograd.spec_cloneDetached wf hv.1).mono ?_ (fun _ _ _ => trivial) fun _ _ => trivial
  rintro _ _ ⟨rfl, rfl⟩
  exact h.storageOf_pushFresh _ _ _

theorem copies_cloneAsLeaf (wf : WellFormed h) (hv : h.Visible id) (requiresGrad : Bool) :
    Copies (Autograd.cloneAsLeaf id requiresGrad) h := by
  refine (Autograd.spec_cloneAsLeaf wf hv requiresGrad).mono ?_ (fun _ _ _ => trivial)
    fun _ _ => trivial
  rintro _ _ ⟨rfl, rfl⟩
  exact h.storageOf_pushFresh _ _ _

theorem copies_gradientSnapshot (wf : WellFormed h) (hv : h.Visible id) :
    Copies (Autograd.gradientSnapshot id) h := by
  obtain ⟨t, ht⟩ := hv.get
  unfold Autograd.gradientSnapshot
  refine (observes_deref ht).bind trivial ?_
  rintro t rfl
  cases hg : t.gradient with
  | none => exact spec_throw trivial
  | some g =>
      have hg' : h.gradient id = some g := by rw [Heap.gradient_of ht, hg]
      refine (Autograd.spec_cloneDetached wf (wf.owned id g hg').lt).mono ?_ (fun _ _ _ => trivial)
        fun _ _ => trivial
      rintro _ _ ⟨rfl, rfl⟩
      exact h.storageOf_pushFresh _ _ _

theorem copies_transfer (wf : WellFormed h) (hv : h.Visible id) (device : Device)
    (deviceIndex : Int) : Copies (Training.transfer id device deviceIndex) h := by
  unfold Training.transfer
  refine spec_failIf_bind (fun _ => trivial) fun _ => ?_
  refine spec_failIf_bind (fun _ => trivial) fun _ => ?_
  refine spec_failIf_bind (fun _ => trivial) fun _ => ?_
  refine Spec.bind ((Autograd.spec_cloneDetached wf hv.1).mono (fun _ _ hq => hq)
    (fun _ _ _ => trivial) fun _ _ => trivial) ?_
  rintro _ h' ⟨rfl, hh'⟩
  have hpush : h.Pushable h' ⟨canonicalShape (h.dims id), h.storages.length, .float32, .cpu, 0, 0,
      h.counters.length, none⟩ := by
    rw [hh']
    exact pushable_fresh wf (canonicalShape_canonical (hv.valid wf)).layout (hv.length wf)
      (hv.fits wf) (metaPushable_none h _)
  have hstorage : h'.storageOf h.tensors.length = some h.storages.length := by
    rw [hh', Heap.storageOf_pushFresh]
  refine Spec.bind ((Autograd.spec_recordUnary (hpush.wellFormed wf) (hpush.last_visible wf).1
    (hv.1.trans_le hpush.extension.length_le)).mono (fun _ _ hq => hq) (fun _ _ _ => trivial)
    fun _ _ => trivial) ?_
  rintro _ _ rfl
  refine spec_pure ?_
  split
  · rw [Heap.storageOf_setMeta, hstorage]
  · exact hstorage

end Copying

namespace Api
open Training

/-- The calls whose result is a copy of what they read. -/
def Call.copies : Call F D → Bool
  | .tensorToDevice .. | .tensorCloneDetached .. | .tensorWithRequiresGrad .. | .tensorGrad .. =>
      true
  | _ => false

variable [Scalar F] [Scalar D] [Precision F D] {s : Runtime F D}

/-- A new handle for a tensor that aliases none of those that were there. -/
def Separate (s : Runtime F D) (reply : Reply F) (s' : Runtime F D) : Prop :=
  ∃ handle id, reply = .handle handle ∧ s'.objectOf handle .tensor = some id ∧
    s'.heap.Visible id ∧ s'.heap.storageOf id = some s.heap.storages.length

theorem keeps_runUnary_copies (ok : s.Ok) (tensor : Nat) {operation : TensorId → Mem F TensorId}
    (hop : ∀ id, s.heap.Visible id → Makes D (operation id) s.heap ∧
      Copies (operation id) s.heap) :
    Keeps (Forwarded D) (runUnary tensor operation : Native F D (Reply F)) s (Separate s) := by
  have c := chained_forwarded (F := F) (D := D)
  unfold runUnary
  refine Keeps.bind c (keeps_lookupTensor c ok tensor) ?_
  rintro id s ok - ⟨rfl, hv⟩
  obtain ⟨hmakes, hcopies⟩ := hop id hv
  refine Keeps.bind c (keeps_onMemory (T := fun r h' => h'.Visible r ∧
    h'.storageOf r = some s.heap.storages.length) c ok ((hmakes.and hcopies).mono
      (fun _ _ hq => ⟨hq.1.1, hq.1.2, hq.2⟩) (fun _ _ he => he) fun _ hx => hx)) ?_
  rintro r s₁ ok₁ - ⟨hr, hstorage⟩
  refine Keeps.bind c (keeps_insertTensor c ok₁ hr) ?_
  rintro handle s₂ ok₂ - ⟨hobject, hheap⟩
  refine keeps_pure c ok₂ ⟨handle, r, rfl, hobject, ?_, ?_⟩
  · rw [hheap]
    exact hr
  · rw [hheap, hstorage]

variable [FloatBits F]

theorem keeps_exec_copies (ok : s.Ok) {call : Call F D} (hcall : call.copies = true) :
    Keeps (Forwarded D) (exec call) s (Separate s) := by
  have wf := ok.wellFormed
  cases call with
  | tensorToDevice tensor device deviceIndex =>
      exact keeps_runUnary_copies ok tensor fun id hv =>
        ⟨(forwards_transfer wf hv device deviceIndex).makes wf,
          copies_transfer wf hv device deviceIndex⟩
  | tensorCloneDetached tensor =>
      exact keeps_runUnary_copies ok tensor fun id hv =>
        ⟨Autograd.makes_cloneDetached wf hv.1, copies_cloneDetached wf hv⟩
  | tensorWithRequiresGrad tensor requiresGrad =>
      exact keeps_runUnary_copies ok tensor fun id hv =>
        ⟨Autograd.makes_cloneAsLeaf wf hv requiresGrad, copies_cloneAsLeaf wf hv requiresGrad⟩
  | tensorGrad tensor =>
      exact keeps_runUnary_copies ok tensor fun id hv =>
        ⟨Autograd.makes_gradientSnapshot wf hv, copies_gradientSnapshot wf hv⟩
  | _ => cases hcall

/-- No target of the call shares its storage with the tensor. -/
def Call.avoids (call : Call F D) (s : Runtime F D) (id : TensorId) : Prop :=
  ∀ target ∈ call.targets s, s.heap.storageOf target ≠ s.heap.storageOf id

def Avoids (s : Runtime F D) : List (Call F D) → TensorId → Prop
  | [], _ => True
  | call :: calls, id => call.avoids s id ∧ Avoids (after s call) calls id

theorem after_contents (ok : s.Ok) (call : Call F D) {id : TensorId} (hv : s.heap.Visible id)
    (havoid : call.avoids s id) : (after s call).heap.contents id = s.heap.contents id := by
  have hm := (after_moves ok call).2
  obtain ⟨t, ht⟩ := hv.get
  unfold Call.Moves at hm
  split at hm
  · exact hm.extension.contents ok.wellFormed hv.1
  · refine hm.unrecorded.evolves.contents id t hv ht (hm.writes t.storage ?_)
    rintro ⟨target, hmem, hstorage⟩
    refine havoid target hmem ?_
    rw [hstorage, Heap.storageOf, ht]
    rfl

theorem run_contents (ok : s.Ok) {calls : List (Call F D)} {id : TensorId}
    (hv : s.heap.Visible id) (havoid : Avoids s calls id) :
    (run s calls).heap.contents id = s.heap.contents id := by
  induction calls generalizing s with
  | nil => rfl
  | cons call calls ih =>
      obtain ⟨ok', hm⟩ := after_moves ok call
      have e := Call.Moves.evolves ok hm
      exact (ih ok' (e.visible id hv) havoid.2).trans (after_contents ok call hv havoid.1)

/-- The contents of a tensor held through a handle change only by a call one of whose
targets aliases it, and a copy never aliases a tensor older than itself. -/
theorem mutation_isolation (hs : Reachable s) :
    (∀ (call : Call F D) (handle : Nat) (id : TensorId), s.objectOf handle .tensor = some id →
      call.avoids s id → (after s call).heap.contents id = s.heap.contents id) ∧
    (∀ (call : Call F D) (reply : Reply F) (s' : Runtime F D), call.copies = true →
      exec call s = .ok reply s' →
      ∃ handle id, reply = .handle handle ∧ s'.objectOf handle .tensor = some id ∧
        ∀ calls, (∀ old, old < s.heap.tensors.length →
            (run s' calls).heap.storageOf old ≠ (run s' calls).heap.storageOf id) ∧
          (Avoids s' calls id → (run s' calls).heap.contents id = s'.heap.contents id)) := by
  have ok := hs.ok
  refine ⟨fun call handle id hobject havoid => after_contents ok call (ok.visible hobject) havoid,
    fun call reply s' hcall hexec => ?_⟩
  obtain ⟨ok', hf, handle, id, hreply, hobject, hv, hstorage⟩ :=
    wp_of_ok (keeps_exec_copies ok hcall) hexec
  have e := hf.evolves ok.wellFormed
  refine ⟨handle, id, hreply, hobject, fun calls => ⟨fun old hold heq => ?_, run_contents ok' hv⟩⟩
  have e' := (run_evolves ok' calls).2
  rw [e'.storageOf hv.1, e'.storageOf (hold.trans_le e.length_le), e.storageOf hold,
    hstorage] at heq
  exact Nat.lt_irrefl _ (ok.wellFormed.storageOf_lt heq)

/-- A tensor, its clone, and another tensor; the first is then assigned the third. -/
theorem mutation_isolation_clone :
    let s := sampleRun [.tensorFromF32 [1, 2] [2], .tensorCloneDetached 1,
      .tensorFromF32 [3, 4] [2]]
    (after s (.tensorAssignMany (some [1]) (some [3]) 1)).heap.contents 1 = s.heap.contents 1 :=
  (mutation_isolation ⟨_, _, _, rfl⟩).1 _ 2 1 (by decide +kernel)
    (by unfold Call.avoids; decide +kernel)

end Api

end Tensora
