import Tensora.Api.BackwardCalls
import Tensora.Api.CreationCalls
import Tensora.Api.ForwardCalls
import Tensora.Autograd.Alike
import Tensora.Lib.Lockstep

/-! Where the elements of its operands lie in memory shows in a call's outcome only when the call
reads a storage directly. -/
namespace Tensora
open ProgramLogic Autograd

variable {F D : Type}

/-- States alike but for the layout of tensors, with memory to spare. -/
structure Twin (s t : Runtime F D) : Prop where
  ok : s.Ok
  ok' : t.Ok
  heap : Alike s.heap t.heap
  registry : t.registry = s.registry
  modules : t.modules = s.modules
  lasting : Api.Lasting s
  lasting' : Api.Lasting t

namespace Twin
variable {s t : Runtime F D} (w : Twin s t)
include w

theorem objectOf (handle : Nat) (type : HandleType) :
    t.objectOf handle type = s.objectOf handle type := by
  rw [Runtime.objectOf, Runtime.objectOf, w.registry]

theorem length : t.heap.tensors.length = s.heap.tensors.length := w.heap.length

theorem onHeap {m m' : Memory F} (e : Evolves s.heap m.heap) (e' : Evolves t.heap m'.heap)
    (a : Alike m.heap m'.heap) (ran : s.memory.allocator.Ran m.allocator)
    (ran' : t.memory.allocator.Ran m'.allocator) :
    Twin { s with memory := m } { t with memory := m' } where
  ok := w.ok.onHeap e
  ok' := w.ok'.onHeap e'
  heap := a
  registry := w.registry
  modules := w.modules
  lasting := fun k hk => by
    change m.allocator.fails k = false
    rw [ran.fails]
    exact w.lasting k (ran.count.trans hk)
  lasting' := fun k hk => by
    change m'.allocator.fails k = false
    rw [ran'.fails]
    exact w.lasting' k (ran'.count.trans hk)

end Twin

theorem Alike.linear [Scalar F] [Scalar D] [Precision F D] {h k h' k' : Heap F} (a : Alike h k)
    (wf : WellFormed h) (wf' : WellFormed k) {state : Training.LinearState}
    {input result result' : TensorId}
    (p : Training.LinearProduced D h h' state input result)
    (q : Training.LinearProduced D k k' state input result') : result = result' ∧ Alike h' k' := by
  obtain ⟨middle, hp, hrest⟩ := p
  obtain ⟨middle', hq, hrest'⟩ := q
  rw [a.dims] at hq
  have a' := a.produced wf wf' hp hq
  cases hbias : state.bias with
  | none =>
      rw [hbias] at hrest hrest'
      obtain ⟨rfl, rfl⟩ := hrest
      obtain ⟨rfl, rfl⟩ := hrest'
      exact ⟨a.length.symm, a'⟩
  | some bias =>
      rw [hbias] at hrest hrest'
      obtain ⟨rfl, hp'⟩ := hrest
      obtain ⟨rfl, hq'⟩ := hrest'
      rw [a.length, a'.dims] at hq'
      exact ⟨a'.length.symm, a'.produced (hp.wellFormed wf) (hq.wellFormed wf') hp' hq'⟩

namespace Api
open Training

theorem objectOf_of_lookup {s s' : Runtime F D} {handle object : Nat} {type : HandleType}
    (h : (onRegistry (HandleRegistry.lookup handle type) : Native F D Nat) s = .ok object s') :
    s.objectOf handle type = some object := by
  have hrun := wp_lookupObject_or (s := s) (f := pure)
    (Q := fun object _ => s.objectOf handle type = some object) (E := fun _ _ => True)
    handle type (fun _ _ => trivial) fun object hobject => hobject
  rw [bind_pure] at hrun
  exact (wp_of_ok hrun h :)

def shapeReject (dims : List Int) : Option Failure :=
  match validateShape dims with
  | .ok _ => none
  | .error e => some e

theorem spec_shapeReject (h : Heap F) (dims : List Int) : Spec (validatedShape dims) h
    (fun shape h' => shapeReject dims = none ∧ h' = h ∧ validateShape dims = .ok shape)
    (fun e h' => h' = h ∧ shapeReject dims = some e) (fun h' => h' = h) := by
  unfold validatedShape shapeReject
  refine (observes_allocate h).bind rfl fun _ _ => ?_
  cases validateShape dims with
  | ok shape => exact spec_pure ⟨rfl, rfl, rfl⟩
  | error e => exact spec_throw ⟨rfl, rfl⟩

section Steps
variable {s t : Runtime F D} (w : Twin s t)
include w

theorem matched_lookup (handle : Nat) (type : HandleType) :
    Matched (fun s' t' => s' = s ∧ t' = t)
      ((onRegistry (HandleRegistry.lookup handle type) : Native F D Nat) s)
      ((onRegistry (HandleRegistry.lookup handle type) : Native F D Nat) t) := by
  have hkept := HandleRegistry.wp_lookup s.registry handle type
  unfold wp at hkept
  unfold onRegistry
  rw [w.registry]
  cases hrun : HandleRegistry.lookup handle type s.registry with
  | ok object r =>
      rw [hrun] at hkept
      rw [hkept.1]
      exact ⟨rfl, rfl, by rw [← w.registry]⟩
  | error e r =>
      rw [hrun] at hkept
      rw [hkept]
      exact ⟨rfl, rfl, by rw [← w.registry]⟩

theorem matched_lookupModule (module : Nat) :
    Matched (fun s' t' => s' = s ∧ t' = t) ((lookupModule module : Native F D _) s)
      (lookupModule module t) := by
  refine (matched_lookup w module .module).bind fun object => Lockstep.get_bind ?_
  rintro s' t' ⟨rfl, rfl⟩
  rw [w.modules]
  cases s'.modules[object]? with
  | none => exact Lockstep.throw _ _ _ ⟨rfl, rfl⟩
  | some state => exact Lockstep.pure _ _ _ ⟨rfl, rfl⟩

theorem matched_insertTensor {object : TensorId} (hv : s.heap.Visible object)
    (hv' : t.heap.Visible object) :
    Matched Twin ((insertTensor object : Native F D Nat) s) (insertTensor object t) := by
  have hok := keeps_insertTensor chained_unrecorded w.ok hv
  have hok' := keeps_insertTensor chained_unrecorded w.ok' hv'
  have hmem := w.lasting _ (Nat.le_refl _)
  have hmem' := w.lasting' _ (Nat.le_refl _)
  have hlater : ∀ u : Runtime F D, (insertTensor object : Native F D Nat) u =
      onRegistry (HandleRegistry.insert .tensor (some object)
        (!u.memory.allocator.fails u.memory.allocator.count))
        { u with memory := ⟨u.heap, u.memory.allocator.after 1⟩ } := fun _ => rfl
  unfold Keeps at hok hok'
  rw [wp, hlater, hmem, onRegistry] at hok
  rw [wp, hlater, hmem', onRegistry] at hok'
  rw [hlater, hlater, hmem, hmem', onRegistry, onRegistry]
  simp only [w.registry] at hok' ⊢
  have htwin : ∀ r : HandleRegistry,
      Runtime.Ok { s with memory := ⟨s.heap, s.memory.allocator.after 1⟩, registry := r } →
      Runtime.Ok { t with memory := ⟨t.heap, t.memory.allocator.after 1⟩, registry := r } →
      Twin { s with memory := ⟨s.heap, s.memory.allocator.after 1⟩, registry := r }
        { t with memory := ⟨t.heap, t.memory.allocator.after 1⟩, registry := r } := by
    intro r ok ok'
    exact ⟨ok, ok', w.heap, rfl, w.modules, fun k hk => w.lasting k ((Nat.le_succ _).trans hk),
      fun k hk => w.lasting' k ((Nat.le_succ _).trans hk)⟩
  cases hrun : HandleRegistry.insert .tensor (some object) (!false) s.registry with
  | ok handle r =>
      rw [hrun] at hok hok'
      exact ⟨rfl, htwin r hok.1 hok'.1⟩
  | error e r =>
      rw [hrun] at hok hok'
      exact ⟨rfl, htwin r hok.1 hok'.1⟩

theorem matched_onMemory {α : Type} {x y : Mem F α} {reject : Option Failure}
    {Q Q' : α → Heap F → Prop} {X X' : Heap F → Prop}
    (hx : Spec x s.heap (fun r h' => reject = none ∧ Q r h')
      (fun e h' => h' = s.heap ∧ reject = some e) X)
    (hy : Spec y t.heap (fun r h' => reject = none ∧ Q' r h')
      (fun e h' => h' = t.heap ∧ reject = some e) X')
    (hq : ∀ r h' r' k', Q r h' → Q' r' k' → r = r' ∧ Alike h' k' ∧ Evolves s.heap h' ∧
      Evolves t.heap k') :
    Matched Twin ((onMemory x : Native F D α) s) (onMemory y t) := by
  have hxs := hx s.memory.allocator
  have hyt := hy t.memory.allocator
  have hlost : ∀ {u : Runtime F D} {a : Allocator}, Lasting u → ¬u.memory.allocator.Outage a := by
    rintro u a hmem ⟨k, hle, -, hk⟩
    rw [hmem k hle] at hk
    cases hk
  have hm : (⟨s.heap, s.memory.allocator⟩ : Memory F) = s.memory := rfl
  have hm' : (⟨t.heap, t.memory.allocator⟩ : Memory F) = t.memory := rfl
  unfold wp at hxs hyt
  rw [hm] at hxs
  rw [hm'] at hyt
  unfold onMemory
  cases hrun : x s.memory with
  | ok r m =>
      rw [hrun] at hxs
      obtain ⟨ran, haccept, hQ⟩ := hxs
      cases hrun' : y t.memory with
      | ok r' m' =>
          rw [hrun'] at hyt
          obtain ⟨ran', -, hQ'⟩ := hyt
          obtain ⟨hr, a, e, e'⟩ := hq r m.heap r' m'.heap hQ hQ'
          exact ⟨hr, w.onHeap e e' a ran ran'⟩
      | error e m' =>
          rw [hrun'] at hyt
          obtain ⟨-, ⟨-, hreject⟩ | ⟨hout, -⟩⟩ := hyt
          · rw [haccept] at hreject
            cases hreject
          · exact absurd hout (hlost w.lasting')
  | error e m =>
      rw [hrun] at hxs
      obtain ⟨ran, ⟨hheap, hreject⟩ | ⟨hout, -⟩⟩ := hxs
      · cases hrun' : y t.memory with
        | ok r' m' =>
            rw [hrun'] at hyt
            rw [hyt.2.1] at hreject
            cases hreject
        | error e' m' =>
            rw [hrun'] at hyt
            obtain ⟨ran', ⟨hheap', hreject'⟩ | ⟨hout, -⟩⟩ := hyt
            · refine ⟨Option.some.inj (hreject.symm.trans hreject'), ?_⟩
              have a : Alike m.heap m'.heap := by
                rw [hheap, hheap']
                exact w.heap
              refine w.onHeap ?_ ?_ a ran ran'
              · rw [hheap]
                exact Evolves.refl w.ok.wellFormed
              · rw [hheap']
                exact Evolves.refl w.ok'.wellFormed
            · exact absurd hout (hlost w.lasting')
      · exact absurd hout (hlost w.lasting)

theorem matched_makeAndInsert {x y : Mem F TensorId} {reject : Option Failure}
    {Q Q' : TensorId → Heap F → Prop} {X X' : Heap F → Prop}
    (hx : Spec x s.heap (fun r h' => reject = none ∧ Q r h')
      (fun e h' => h' = s.heap ∧ reject = some e) X)
    (hy : Spec y t.heap (fun r h' => reject = none ∧ Q' r h')
      (fun e h' => h' = t.heap ∧ reject = some e) X')
    (hq : ∀ r h' r' k', Q r h' → Q' r' k' → r = r' ∧ Alike h' k' ∧ Evolves s.heap h' ∧
      Evolves t.heap k')
    (hv : ∀ r h', Q r h' → h'.Visible r) (hv' : ∀ r k', Q' r k' → k'.Visible r) :
    Matched Twin
      ((do let result ← onMemory x; return .handle (← insertTensor result) :
        Native F D (Reply F)) s)
      ((do let result ← onMemory y; return .handle (← insertTensor result) :
        Native F D (Reply F)) t) := by
  refine (matched_onMemory w hx hy hq).bind_of (fun _ _ w' => w') fun r s₁ t₁ hrun hrun' w₁ => ?_
  have hsource : wp (onMemory x : Native F D TensorId) (fun r s' => s'.heap.Visible r)
      (fun _ _ => True) s := by
    rw [wp_onMemory]
    exact wp_mono (hx s.memory.allocator) (fun r m h => hv r m.heap h.2.2) fun _ _ _ => trivial
  have htarget : wp (onMemory y : Native F D TensorId) (fun r s' => s'.heap.Visible r)
      (fun _ _ => True) t := by
    rw [wp_onMemory]
    exact wp_mono (hy t.memory.allocator) (fun r m h => hv' r m.heap h.2.2) fun _ _ _ => trivial
  have hvisible : s₁.heap.Visible r := (wp_of_ok hsource hrun :)
  have hvisible' : t₁.heap.Visible r := (wp_of_ok htarget hrun' :)
  refine (matched_insertTensor w₁ hvisible hvisible').bind_of
    (fun _ _ w' => w') fun handle s₂ t₂ _ _ w₂ => ?_
  exact ⟨rfl, w₂⟩

section Forward
variable [Scalar F] [Scalar D] [Precision F D] {operation : Operation}
  {parents : List TensorId} {dims : List Nat} {reject : Option Failure}

theorem matched_forwardAndInsert {x y : Mem F TensorId}
    (hx : Forwards D x s.heap reject operation parents dims)
    (hy : Forwards D y t.heap reject operation parents dims) :
    Matched Twin
      ((do let result ← onMemory x; return .handle (← insertTensor result) :
        Native F D (Reply F)) s)
      ((do let result ← onMemory y; return .handle (← insertTensor result) :
        Native F D (Reply F)) t) := by
  have wf := w.ok.wellFormed
  have wf' := w.ok'.wellFormed
  refine matched_makeAndInsert w hx hy ?_ ?_ ?_
  · rintro r h' r' k' ⟨rfl, p⟩ ⟨rfl, q⟩
    exact ⟨w.length.symm, w.heap.produced wf wf' p q, (p.forwarded wf).evolves wf,
      (q.forwarded wf').evolves wf'⟩
  · rintro r h' ⟨rfl, p⟩
    exact p.result_visible wf
  · rintro r k' ⟨rfl, q⟩
    exact q.result_visible wf'

theorem matched_runUnary {tensor : Nat} {program : TensorId → Mem F TensorId}
    (hforward : ∀ id, s.objectOf tensor .tensor = some id → s.heap.Visible id →
      t.heap.Visible id → ∃ reject operation dims,
        Forwards D (program id) s.heap reject operation [id] dims ∧
        Forwards D (program id) t.heap reject operation [id] dims) :
    Matched Twin ((runUnary tensor program : Native F D (Reply F)) s)
      (runUnary tensor program t) := by
  refine (matched_lookup w tensor .tensor).bind_of ?_ ?_
  · rintro _ _ ⟨rfl, rfl⟩
    exact w
  · rintro id _ _ hlookup hlookup' ⟨rfl, rfl⟩
    have hid := objectOf_of_lookup hlookup
    obtain ⟨reject, operation, dims, hx, hy⟩ := hforward id hid (w.ok.visible hid)
      (w.ok'.visible (objectOf_of_lookup hlookup'))
    exact matched_forwardAndInsert w hx hy

theorem matched_runBinary {left right : Nat} {program : TensorId → TensorId → Mem F TensorId}
    (hforward : ∀ l r, s.objectOf left .tensor = some l → s.objectOf right .tensor = some r →
      s.heap.Visible l → s.heap.Visible r → t.heap.Visible l → t.heap.Visible r →
      ∃ reject operation dims,
        Forwards D (program l r) s.heap reject operation [l, r] dims ∧
        Forwards D (program l r) t.heap reject operation [l, r] dims) :
    Matched Twin ((runBinary left right program : Native F D (Reply F)) s)
      (runBinary left right program t) := by
  refine (matched_lookup w left .tensor).bind_of ?_ ?_
  · rintro _ _ ⟨rfl, rfl⟩
    exact w
  rintro l _ _ hleft hleft' ⟨rfl, rfl⟩
  refine (matched_lookup w right .tensor).bind_of ?_ ?_
  · rintro _ _ ⟨rfl, rfl⟩
    exact w
  rintro r _ _ hright hright' ⟨rfl, rfl⟩
  have hl := objectOf_of_lookup hleft
  have hr := objectOf_of_lookup hright
  obtain ⟨reject, operation, dims, hx, hy⟩ := hforward l r hl hr (w.ok.visible hl)
    (w.ok.visible hr) (w.ok'.visible (objectOf_of_lookup hleft'))
    (w.ok'.visible (objectOf_of_lookup hright'))
  exact matched_forwardAndInsert w hx hy

theorem matched_moduleForward (module input : Nat) :
    Matched Twin
      ((do let object ← lookupTensor input
           fetchAndInsert (Training.forward module object) : Native F D (Reply F)) s)
      ((do let object ← lookupTensor input
           fetchAndInsert (Training.forward module object) : Native F D (Reply F)) t) := by
  refine (matched_lookup w input .tensor).bind_of ?_ ?_
  · rintro _ _ ⟨rfl, rfl⟩
    exact w
  rintro id _ _ hlookup hlookup' ⟨rfl, rfl⟩
  have hv := w.ok.visible (objectOf_of_lookup hlookup)
  have hv' := w.ok'.visible (objectOf_of_lookup hlookup')
  unfold fetchAndInsert Training.forward
  rw [bind_assoc]
  refine (matched_lookupModule w module).bind_of ?_ ?_
  · rintro _ _ ⟨rfl, rfl⟩
    exact w
  rintro ⟨object, state⟩ _ _ hmodule hmodule' ⟨rfl, rfl⟩
  obtain ⟨-, -, -, hmoduleAt⟩ :=
    wp_of_ok (keeps_lookupModule chained_unrecorded w.ok module) hmodule
  obtain ⟨-, -, -, hmoduleAt'⟩ :=
    wp_of_ok (keeps_lookupModule chained_unrecorded w.ok' module) hmodule'
  have wf := w.ok.wellFormed
  have wf' := w.ok'.wellFormed
  have hs := w.ok.modules state (List.mem_of_getElem? (Runtime.get_moduleAt hmoduleAt))
  have ht := w.ok'.modules state (List.mem_of_getElem? (Runtime.get_moduleAt hmoduleAt'))
  have hspec := spec_moduleForward (D := D) wf' hv' ht
  rw [w.heap.dims] at hspec
  refine matched_makeAndInsert w (spec_moduleForward (D := D) wf hv hs) hspec ?_ ?_ ?_
  · intro r h' r' k' p q
    obtain ⟨hr, a⟩ := w.heap.linear wf wf' p q
    exact ⟨hr, a, (p.forwarded wf).1.evolves wf, (q.forwarded wf').1.evolves wf'⟩
  · exact fun r h' p => (p.forwarded wf).2
  · exact fun r k' q => (q.forwarded wf').2

theorem matched_tensorReshape (tensor : Nat) (dims : List Int) :
    Matched Twin ((tensorReshape tensor dims : Native F D (Reply F)) s)
      (tensorReshape tensor dims t) := by
  refine (matched_onMemory w (spec_shapeReject s.heap dims) (spec_shapeReject t.heap dims)
    ?_).bind_of (fun _ _ w' => w') fun shape s₁ t₁ hrun _ w₁ => ?_
  · rintro shape _ shape' _ ⟨rfl, hshape⟩ ⟨rfl, hshape'⟩
    rw [hshape] at hshape'
    cases hshape'
    exact ⟨rfl, w.heap, Evolves.refl w.ok.wellFormed, Evolves.refl w.ok'.wellFormed⟩
  have hcanonical : shape.Canonical := by
    obtain ⟨-, -, -, h, -⟩ := wp_of_ok (keeps_validatedShape chained_unrecorded w.ok dims) hrun
    exact h
  refine matched_runUnary w₁ fun id _ hv hv' => ?_
  have hx := CpuBackend.forwards_reshape (D := D) w₁.ok.wellFormed hv hcanonical
  have hy := CpuBackend.forwards_reshape (D := D) w₁.ok'.wellFormed hv' hcanonical
  rw [w₁.heap.dims] at hy
  exact ⟨_, _, _, forwards_dispatchedUnary w₁.ok.wellFormed hv hx,
    forwards_dispatchedUnary w₁.ok'.wellFormed hv' hy⟩

end Forward

end Steps

section Calls
variable [Scalar F] [Scalar D] [Precision F D] [FloatBits F] {s t : Runtime F D}

/-- States in which every tensor reads the same, and after which `Backward` ends alike and delivers
the same gradients, whatever it starts from. -/
def Agrees (s t : Runtime F D) : Prop :=
  Alike s.heap t.heap ∧ ∀ root,
    Matched (fun s' t' => t'.heap.gradientContents = s'.heap.gradientContents)
      (exec (.tensorBackward root) s) (exec (.tensorBackward root) t)

theorem matched_backward (w : Twin s t) (handle : Nat) :
    Matched (fun s' t' => t'.heap.gradientContents = s'.heap.gradientContents)
      (exec (.tensorBackward handle) s) (exec (.tensorBackward handle) t) := by
  cases hroot : s.objectOf handle .tensor with
  | none =>
      refine (matched_lookup w handle .tensor).bind_of ?_ ?_
      · rintro _ _ ⟨rfl, rfl⟩
        exact w.heap.gradients
      · rintro id _ _ hlookup - -
        rw [objectOf_of_lookup hlookup] at hroot
        cases hroot
  | some root =>
      have hroot' := (w.objectOf handle .tensor).trans hroot
      have hrun := backward_outcome w.ok w.lasting (w.ok.visible hroot)
      have hrun' := backward_outcome w.ok' w.lasting' (w.ok'.visible hroot')
      have hreject := w.heap.backwardReject root
      rw [exec_tensorBackward hroot, exec_tensorBackward hroot']
      unfold wp at hrun hrun'
      cases hb : backwardTrace root s.memory with
      | ok trace m =>
          rw [hb] at hrun
          cases hb' : backwardTrace root t.memory with
          | ok trace' m' =>
              rw [hb'] at hrun'
              refine ⟨rfl, ?_⟩
              change m'.heap.gradientContents = m.heap.gradientContents
              rw [hrun.2.2.1, hrun'.2.2.1, w.heap.sweep]
          | error e m' =>
              rw [hb'] at hrun'
              rw [hreject, hrun.1] at hrun'
              cases hrun'.2
      | error e m =>
          rw [hb] at hrun
          cases hb' : backwardTrace root t.memory with
          | ok trace' m' =>
              rw [hb'] at hrun'
              rw [← hreject, hrun'.1] at hrun
              cases hrun.2
          | error e' m' =>
              rw [hb'] at hrun'
              refine ⟨?_, ?_⟩
              · rw [hreject, hrun.2] at hrun'
                exact Option.some.inj hrun'.2
              · change m'.heap.gradientContents = m.heap.gradientContents
                rw [hrun.1, hrun'.1, w.heap.gradients]

theorem agrees_of_twin (w : Twin s t) : Agrees s t := ⟨w.heap, matched_backward w⟩

end Calls

def Call.isOperation : Call F D → Bool
  | .tensorReshape _ _ | .tensorTranspose2D _ | .tensorAdd _ _ | .tensorMultiply _ _ => true
  | .tensorSum _ | .tensorMatmul _ _ | .tensorRelu _ | .tensorSigmoid _ | .tensorTanh _ => true
  | .tensorGelu _ | .tensorSilu _ | .tensorSwiGlu _ | .mseLoss _ _ => true
  | .crossEntropyLoss _ _ | .moduleForward _ _ => true
  | _ => false

def lossReads (s : Runtime F D) (left right : Nat) (ranked : List Nat → Bool) : List TensorId :=
  match s.objectOf left .tensor, s.objectOf right .tensor with
  | some l, some r => if s.heap.dims l = s.heap.dims r ∧ ranked (s.heap.dims l) then [l, r] else []
  | _, _ => []

/-- The tensors a call reads straight from their storage. -/
def directReads (s : Runtime F D) : Call F D → List TensorId
  | .tensorRelu tensor | .tensorSigmoid tensor | .tensorTanh tensor =>
      (s.objectOf tensor .tensor).toList
  | .mseLoss prediction target => lossReads s prediction target fun _ => true
  | .crossEntropyLoss logits oneHotTarget =>
      lossReads s logits oneHotTarget fun dims => dims.length == 2
  | _ => []

theorem lossReads_eq (ranked : List Nat → Bool) {s : Runtime F D} {left right : Nat}
    {l r : TensorId} (hl : s.objectOf left .tensor = some l)
    (hr : s.objectOf right .tensor = some r) (heq : s.heap.dims l = s.heap.dims r)
    (hranked : ranked (s.heap.dims l) = true) : lossReads s left right ranked = [l, r] := by
  rw [lossReads, hl, hr]
  exact if_pos ⟨heq, hranked⟩

theorem mem_lossReads {s : Runtime F D} {left right : Nat} {ranked : List Nat → Bool}
    {id : TensorId} (hid : id ∈ lossReads s left right ranked) :
    ∃ l r, s.objectOf left .tensor = some l ∧ s.objectOf right .tensor = some r ∧
      s.heap.dims l = s.heap.dims r ∧ ranked (s.heap.dims l) = true ∧ id ∈ [l, r] := by
  unfold lossReads at hid
  split at hid
  · rename_i l r hl hr
    split at hid
    · rename_i h
      exact ⟨l, r, hl, hr, h.1, h.2, hid⟩
    · cases hid
  · cases hid

/-- The layout of a loss's operands matters only after its shape checks. -/
theorem lossReject_congr {name message : String} {left right : List Nat} {ranked : Option Failure}
    {a b a' b' : Bool} (h : left = right → ranked = none → a = a' ∧ b = b') :
    lossReject name message left right ranked a b =
      lossReject name message left right ranked a' b' := by
  unfold lossReject
  split
  · rfl
  · rename_i heq
    cases ranked with
    | some failure => rfl
    | none =>
        obtain ⟨rfl, rfl⟩ := h (not_not.mp heq) rfl
        rfl

theorem crossEntropyRanked_none {dims : List Nat} :
    crossEntropyRanked dims = none ↔ dims.length = 2 := by
  unfold crossEntropyRanked
  split
  · simp
  · rename_i hne
    refine ⟨fun h => (by cases h), fun hlen => ?_⟩
    obtain ⟨a, b, rfl⟩ := List.length_eq_two.mp hlen
    exact absurd rfl (hne a b)

section Guards
variable [Scalar F] [Scalar D] [Precision F D] [FloatBits F] {s t : Runtime F D}

theorem matched_exec (w : Twin s t) {call : Call F D} (hop : call.isOperation = true)
    (hreads : ∀ id ∈ directReads s call, s.heap.contiguous id = t.heap.contiguous id) :
    Matched Twin (exec call s) (exec call t) := by
  have wf := w.ok.wellFormed
  have wf' := w.ok'.wellFormed
  have hdims := w.heap.dims
  cases call
  case tensorReshape tensor dims => exact matched_tensorReshape w tensor dims
  case tensorTranspose2D tensor =>
    refine matched_runUnary w fun id _ hv hv' => ⟨_, _, _, forwards_dispatchedUnary wf hv
      (CpuBackend.forwards_transpose2D wf hv), forwards_dispatchedUnary wf' hv' ?_⟩
    rw [← hdims]
    exact CpuBackend.forwards_transpose2D wf' hv'
  case tensorAdd left right =>
    refine matched_runBinary w fun l r _ _ hl hr hl' hr' => ⟨_, _, _, forwards_dispatched wf hl hr
      (CpuBackend.forwards_add wf hl hr), forwards_dispatched wf' hl' hr' ?_⟩
    rw [← hdims]
    exact CpuBackend.forwards_add wf' hl' hr'
  case tensorMultiply left right =>
    refine matched_runBinary w fun l r _ _ hl hr hl' hr' => ⟨_, _, _, forwards_dispatched wf hl hr
      (CpuBackend.forwards_multiply wf hl hr), forwards_dispatched wf' hl' hr' ?_⟩
    rw [← hdims]
    exact CpuBackend.forwards_multiply wf' hl' hr'
  case tensorSum tensor =>
    exact matched_runUnary w fun id _ hv hv' => ⟨_, _, _, forwards_dispatchedUnary wf hv
      (CpuBackend.forwards_sum wf hv), forwards_dispatchedUnary wf' hv'
        (CpuBackend.forwards_sum wf' hv')⟩
  case tensorMatmul left right =>
    refine matched_runBinary w fun l r _ _ hl hr hl' hr' => ⟨_, _, _, forwards_dispatched wf hl hr
      (CpuBackend.forwards_matmul wf hl hr), forwards_dispatched wf' hl' hr' ?_⟩
    rw [← hdims]
    exact CpuBackend.forwards_matmul wf' hl' hr'
  case tensorGelu tensor =>
    refine matched_runUnary w fun id _ hv hv' => ⟨_, _, _, forwards_gelu wf hv, ?_⟩
    rw [← hdims]
    exact forwards_gelu wf' hv'
  case tensorSilu tensor =>
    refine matched_runUnary w fun id _ hv hv' => ⟨_, _, _, forwards_silu wf hv, ?_⟩
    rw [← hdims]
    exact forwards_silu wf' hv'
  case tensorSwiGlu tensor =>
    refine matched_runUnary w fun id _ hv hv' => ⟨_, _, _, forwards_swiGlu wf hv, ?_⟩
    rw [← hdims]
    exact forwards_swiGlu wf' hv'
  case moduleForward module input => exact matched_moduleForward w module input
  case tensorRelu tensor =>
    refine matched_runUnary w fun id hid hv hv' => ⟨_, _, _, forwards_relu wf hv, ?_⟩
    rw [← hdims, hreads id (by rw [directReads, hid]; exact List.mem_singleton_self id)]
    exact forwards_relu wf' hv'
  case tensorSigmoid tensor =>
    refine matched_runUnary w fun id hid hv hv' => ⟨_, _, _, forwards_sigmoid wf hv, ?_⟩
    rw [← hdims, hreads id (by rw [directReads, hid]; exact List.mem_singleton_self id)]
    exact forwards_sigmoid wf' hv'
  case tensorTanh tensor =>
    refine matched_runUnary w fun id hid hv hv' => ⟨_, _, _, forwards_tanh wf hv, ?_⟩
    rw [← hdims, hreads id (by rw [directReads, hid]; exact List.mem_singleton_self id)]
    exact forwards_tanh wf' hv'
  case mseLoss prediction target =>
    refine matched_runBinary w fun l r hl hr hv hv₁ hv' hv₁' => ⟨_, _, _,
      forwards_mseLoss wf hv hv₁, ?_⟩
    have hsame : mseReject (s.heap.dims l) (s.heap.dims r) (s.heap.contiguous l)
        (s.heap.contiguous r) = mseReject (s.heap.dims l) (s.heap.dims r) (t.heap.contiguous l)
        (t.heap.contiguous r) := by
      refine lossReject_congr fun heq _ => ?_
      have hread : directReads s (.mseLoss prediction target : Call F D) = [l, r] :=
        lossReads_eq (fun _ => true) hl hr heq rfl
      rw [hread] at hreads
      exact ⟨hreads l (by simp), hreads r (by simp)⟩
    rw [hsame, ← hdims]
    exact forwards_mseLoss wf' hv' hv₁'
  case crossEntropyLoss logits target =>
    refine matched_runBinary w fun l r hl hr hv hv₁ hv' hv₁' => ⟨_, _, _,
      forwards_crossEntropyLoss wf hv hv₁, ?_⟩
    have hsame : crossEntropyReject (s.heap.dims l) (s.heap.dims r) (s.heap.contiguous l)
        (s.heap.contiguous r) = crossEntropyReject (s.heap.dims l) (s.heap.dims r)
        (t.heap.contiguous l) (t.heap.contiguous r) := by
      refine lossReject_congr fun heq hranked => ?_
      have hread : directReads s (.crossEntropyLoss logits target : Call F D) = [l, r] :=
        lossReads_eq (fun dims => dims.length == 2) hl hr heq
          (beq_iff_eq.mpr (crossEntropyRanked_none.mp hranked))
      rw [hread] at hreads
      exact ⟨hreads l (by simp), hreads r (by simp)⟩
    rw [hsame, ← hdims]
    exact forwards_crossEntropyLoss wf' hv' hv₁'
  all_goals cases hop

/-! A rejection shows. -/

section Rejections
variable {operation : Operation} {parents : List TensorId} {dims : List Nat} {x : Mem F TensorId}

omit [FloatBits F] in
theorem wp_forwardAndInsert_rejects (hmem : Lasting s) {e : Failure}
    (hx : Forwards D x s.heap (some e) operation parents dims) :
    wp (do let result ← onMemory x; return .handle (← insertTensor result) : Native F D (Reply F))
      (fun _ _ => False) (fun e' _ => e' = e) s := by
  refine wp_seq (P := fun _ _ => False) (R := fun e' _ => e' = e) ?_ (fun _ _ he => he)
    fun _ _ h => h.elim
  rw [wp_onMemory]
  refine wp_mono (hx s.memory.allocator) (fun r m hq => ?_) ?_
  · cases hq.2.1
  · rintro e' m ⟨-, ⟨-, he⟩ | ⟨⟨k, hle, -, hk⟩, -⟩⟩
    · exact (Option.some.inj he).symm
    · rw [hmem k hle] at hk
      cases hk

omit [FloatBits F] in
theorem wp_forwardAndInsert_accepts (hmem : Lasting s)
    (hx : Forwards D x s.heap none operation parents dims) :
    wp (do let result ← onMemory x; return .handle (← insertTensor result) : Native F D (Reply F))
      (fun _ _ => True) (fun e' _ => s.registry.refuses = some e') s := by
  refine wp_seq (P := fun _ s' => Lasting s' ∧ s'.registry = s.registry) (R := fun _ _ => False) ?_
    (fun _ _ he => he.elim) ?_
  · rw [wp_onMemory]
    refine wp_mono (hx s.memory.allocator) ?_ ?_
    · rintro r m ⟨ran, -⟩
      refine ⟨fun k hk => ?_, rfl⟩
      change m.allocator.fails k = false
      rw [ran.fails]
      exact hmem k (ran.count.trans hk)
    · rintro e' m ⟨-, ⟨-, he⟩ | ⟨⟨k, hle, -, hk⟩, -⟩⟩
      · cases he
      · rw [hmem k hle] at hk
        cases hk
  · rintro r s' ⟨hmem', hregistry⟩
    refine wp_seq (wp_insertHandle_withEntry .tensor r) ?_ fun _ _ _ => trivial
    rintro e' s'' ⟨-, hlost | hrefused⟩
    · exact absurd hmem' hlost
    · rw [← hregistry]
      exact hrefused

end Rejections

omit [Scalar F] [Scalar D] [Precision F D] [FloatBits F] in
theorem not_matched_forward {name : String} {x y : Native F D (Reply F)}
    (hx : wp x (fun _ _ => False) (fun e' _ => e' = directAccessError name) s)
    (hy : wp y (fun _ _ => True) (fun e' _ => t.registry.refuses = some e') t)
    {R : Runtime F D → Runtime F D → Prop} : ¬Matched R (x s) (y t) := by
  refine not_matched hx (wp_mono hy (fun _ _ _ => trivial) fun e' _ hrefused => ?_)
  rintro rfl
  unfold HandleRegistry.refuses at hrefused
  split at hrefused
  · cases hrefused
  · split at hrefused <;> cases hrefused

omit [FloatBits F] in
theorem not_matched_runUnary (w : Twin s t) {tensor : Nat} {id : TensorId}
    (hobject : s.objectOf tensor .tensor = some id) {name : String}
    {program : TensorId → Mem F TensorId} {operation : Operation} {dims dims' : List Nat}
    (hx : Forwards D (program id) s.heap (some (directAccessError name)) operation [id] dims)
    (hy : Forwards D (program id) t.heap none operation [id] dims')
    {R : Runtime F D → Runtime F D → Prop} :
    ¬Matched R ((runUnary tensor program : Native F D (Reply F)) s) (runUnary tensor program t) :=
  not_matched_forward (wp_lookupObject hobject (wp_forwardAndInsert_rejects w.lasting hx))
    (wp_lookupObject ((w.objectOf tensor .tensor).trans hobject)
      (wp_forwardAndInsert_accepts w.lasting' hy))

omit [FloatBits F] in
theorem not_matched_runBinary (w : Twin s t) {left right : Nat} {l r : TensorId}
    (hleft : s.objectOf left .tensor = some l) (hright : s.objectOf right .tensor = some r)
    {name : String} {program : TensorId → TensorId → Mem F TensorId} {operation : Operation}
    {dims dims' : List Nat}
    (hx : Forwards D (program l r) s.heap (some (directAccessError name)) operation [l, r] dims)
    (hy : Forwards D (program l r) t.heap none operation [l, r] dims')
    {R : Runtime F D → Runtime F D → Prop} :
    ¬Matched R ((runBinary left right program : Native F D (Reply F)) s)
      (runBinary left right program t) :=
  not_matched_forward
    (wp_lookupObject hleft (wp_lookupObject hright (wp_forwardAndInsert_rejects w.lasting hx)))
    (wp_lookupObject ((w.objectOf left .tensor).trans hleft)
      (wp_lookupObject ((w.objectOf right .tensor).trans hright)
        (wp_forwardAndInsert_accepts w.lasting' hy)))

omit [FloatBits F] in
theorem not_matched_activation (w : Twin s t) {tensor : Nat} {id : TensorId}
    (hobject : s.objectOf tensor .tensor = some id) {program : TensorId → Mem F TensorId}
    {operation : Operation}
    (hforwards : ∀ h : Heap F, WellFormed h → h.Visible id →
      Forwards D (program id) h (activationReject (h.contiguous id)) operation [id] (h.dims id))
    (hfalse : s.heap.contiguous id = false) (htrue : t.heap.contiguous id = true)
    {R : Runtime F D → Runtime F D → Prop} :
    ¬Matched R ((runUnary tensor program : Native F D (Reply F)) s)
      (runUnary tensor program t) := by
  have hx := hforwards s.heap w.ok.wellFormed (w.ok.visible hobject)
  have hy := hforwards t.heap w.ok'.wellFormed
    (w.ok'.visible ((w.objectOf tensor .tensor).trans hobject))
  rw [hfalse] at hx
  rw [htrue] at hy
  exact not_matched_runUnary w hobject hx hy

omit [FloatBits F] in
theorem not_matched_loss (ranked : List Nat → Option Failure) (w : Twin s t) {left right : Nat}
    {l r : TensorId}
    (hleft : s.objectOf left .tensor = some l) (hright : s.objectOf right .tensor = some r)
    {name message : String}
    {program : TensorId → TensorId → Mem F TensorId} {operation : Operation}
    (hforwards : ∀ h : Heap F, WellFormed h → h.Visible l → h.Visible r →
      Forwards D (program l r) h (lossReject name message (h.dims l) (h.dims r)
        (ranked (h.dims l)) (h.contiguous l) (h.contiguous r)) operation [l, r] [])
    (heq : s.heap.dims l = s.heap.dims r) (hranked : ranked (s.heap.dims l) = none)
    (hfalse : ∃ id ∈ [l, r], s.heap.contiguous id = false)
    (htrue : ∀ id ∈ [l, r], t.heap.contiguous id = true)
    {R : Runtime F D → Runtime F D → Prop} :
    ¬Matched R ((runBinary left right program : Native F D (Reply F)) s)
      (runBinary left right program t) := by
  have hx := hforwards s.heap w.ok.wellFormed (w.ok.visible hleft) (w.ok.visible hright)
  have hy := hforwards t.heap w.ok'.wellFormed
    (w.ok'.visible ((w.objectOf left .tensor).trans hleft))
    (w.ok'.visible ((w.objectOf right .tensor).trans hright))
  have hrejects : lossReject name message (s.heap.dims l) (s.heap.dims r)
      (ranked (s.heap.dims l)) (s.heap.contiguous l) (s.heap.contiguous r) =
        some (directAccessError name) := by
    have hsome : (s.heap.contiguous l && s.heap.contiguous r) = false := by
      obtain ⟨id, hid, hf⟩ := hfalse
      rcases List.mem_pair.mp hid with rfl | rfl
      · rw [hf, Bool.false_and]
      · rw [hf, Bool.and_false]
    unfold lossReject
    rw [if_neg (not_not.mpr heq), hranked]
    simp only [hsome]
    rfl
  have haccepts : lossReject name message (t.heap.dims l) (t.heap.dims r)
      (ranked (t.heap.dims l)) (t.heap.contiguous l) (t.heap.contiguous r) = none := by
    rw [w.heap.dims, htrue l (by simp), htrue r (by simp), hranked]
    simp [lossReject, heq]
  rw [hrejects] at hx
  rw [haccepts] at hy
  exact not_matched_runBinary w hleft hright hx hy

theorem contiguous_of_matched (w : Twin s t) {call : Call F D}
    {R : Runtime F D → Runtime F D → Prop}
    (hmatched : Matched R (exec call s) (exec call t))
    (hstraight : ∀ id ∈ directReads s call, t.heap.contiguous id = true) :
    ∀ id ∈ directReads s call, s.heap.contiguous id = true := by
  intro id hid
  by_contra hfalse
  have hfalse : s.heap.contiguous id = false := by simpa using hfalse
  have htrue := hstraight id hid
  revert hmatched
  cases call
  case tensorRelu tensor =>
    exact not_matched_activation w (Option.mem_toList.mp hid)
      (fun h wf hv => forwards_relu wf hv) hfalse htrue
  case tensorSigmoid tensor =>
    exact not_matched_activation w (Option.mem_toList.mp hid)
      (fun h wf hv => forwards_sigmoid wf hv) hfalse htrue
  case tensorTanh tensor =>
    exact not_matched_activation w (Option.mem_toList.mp hid)
      (fun h wf hv => forwards_tanh wf hv) hfalse htrue
  case mseLoss prediction target =>
    have hread : id ∈ lossReads s prediction target fun _ => true := hid
    obtain ⟨l, r, hl, hr, heq, hranked, hmem⟩ := mem_lossReads hread
    refine not_matched_loss (fun _ => none) w hl hr
      (fun h wf hv hv' => forwards_mseLoss wf hv hv') heq rfl ⟨id, hmem, hfalse⟩ ?_
    rwa [directReads, lossReads_eq _ hl hr heq hranked] at hstraight
  case crossEntropyLoss logits target =>
    have hread : id ∈ lossReads s logits target fun dims => dims.length == 2 := hid
    obtain ⟨l, r, hl, hr, heq, hranked, hmem⟩ := mem_lossReads hread
    refine not_matched_loss crossEntropyRanked w hl hr
      (fun h wf hv hv' => forwards_crossEntropyLoss wf hv hv') heq
      (crossEntropyRanked_none.mpr (beq_iff_eq.mp hranked)) ⟨id, hmem, hfalse⟩ ?_
    rwa [directReads, lossReads_eq _ hl hr heq hranked] at hstraight
  all_goals cases hid

end Guards

section Main
variable {s : Runtime F D}

/-- The state with every tensor row-major in a storage of its own. -/
def straight (s : Runtime F D) : Runtime F D :=
  { s with memory := ⟨s.heap.straight, s.memory.allocator⟩ }

theorem ok_straight (ok : s.Ok) : (straight s).Ok := by
  have wf := ok.wellFormed
  have hvisible : ∀ id, s.heap.Visible id → s.heap.straight.Visible id := by
    intro id hv
    refine ⟨?_, ?_⟩
    · rw [(alike_straight wf).length]
      exact hv.1
    · rw [Heap.gradient_straight]
      exact hv.2
  have hrow : ∀ id, s.heap.Visible id → s.heap.straight.contiguous id = true :=
    fun id hv => Heap.contiguous_straight wf hv.1
  have hsized : ∀ {parameters : List TensorId} {buffers : List (List F)},
      Sized s.heap parameters buffers → Sized s.heap.straight parameters buffers := by
    intro parameters buffers hz
    unfold Sized
    rw [Heap.dims_straight]
    exact hz
  refine ⟨wf.straight, ok.versioned.straight wf, ?_, ?_, ?_, ?_, ok.handles⟩
  · exact fun handle entry hfind htype => hvisible _ (ok.tensors handle entry hfind htype)
  · intro state hmem
    have hs := ok.modules state hmem
    have hdims : (straight s).heap.dims = s.heap.dims := Heap.dims_straight s.heap
    refine ⟨hvisible _ hs.weight_visible, ?_, hrow _ hs.weight_visible, hs.useBias,
      fun b hb => hvisible _ (hs.bias_visible b hb), fun b hb => ?_,
      fun b hb => hrow _ (hs.bias_visible b hb), ?_⟩
    · rw [hdims]
      exact hs.weight_dims
    · rw [hdims]
      exact hs.bias_dims b hb
    · intro b t t' hb ht ht' hstorage
      obtain ⟨t₀, ht₀, rfl⟩ := Heap.straight_of_get ht
      obtain ⟨t₁, ht₁, rfl⟩ := Heap.straight_of_get ht'
      have hsame : state.weight = b := hstorage
      rw [hsame, ht₁] at ht₀
      refine hs.separate b t₀ t₁ hb ?_ ht₁ (congrArg Tensor.storage (Option.some.inj ht₀.symm))
      rw [hsame, ht₁, ht₀]
  · intro state hmem
    obtain ⟨module, hget, hfits⟩ := (ok.optimizers state hmem).bound
    exact ⟨module, hget, hsized hfits.first, fun hk => hsized (hfits.second hk)⟩
  · intro state hmem
    have hs := ok.parameterOptimizers state hmem
    exact ⟨fun p hp => ⟨hvisible p (hs.updatable p hp).1, hrow p (hs.updatable p hp).1⟩,
      ⟨hsized hs.fits.first, fun hk => hsized (hs.fits.second hk)⟩, hs.distinct⟩

theorem twin_straight (ok : s.Ok) (hmem : Lasting s) : Twin s (straight s) where
  ok := ok
  ok' := ok_straight ok
  heap := alike_straight ok.wellFormed
  registry := rfl
  modules := rfl
  lasting := hmem
  lasting' := hmem

variable [Scalar F] [Scalar D] [Precision F D] [FloatBits F]

/-- A call on tensors ends as it would on row-major tensors with the same contents, with the same
values and the same gradients from any `Backward` that follows, exactly when what it reads straight
from a storage is row-major. -/
theorem layout_transparent_iff (hs : Reachable s) (hmem : Lasting s) {call : Call F D}
    (hop : call.isOperation = true) :
    (∃ t, Twin s t ∧ ∀ id < s.heap.tensors.length, t.heap.contiguous id = true) ∧
    ∀ t, Twin s t → (∀ id ∈ directReads s call, t.heap.contiguous id = true) →
      (Matched Agrees (exec call s) (exec call t) ↔
        ∀ id ∈ directReads s call, s.heap.contiguous id = true) := by
  refine ⟨⟨straight s, twin_straight hs.ok hmem, fun id hid =>
    Heap.contiguous_straight hs.ok.wellFormed hid⟩, fun t w hstraight => ⟨fun hmatched => ?_,
      fun hreads => ?_⟩⟩
  · exact contiguous_of_matched w hmatched hstraight
  · refine (matched_exec w hop fun id hid => ?_).mono fun _ _ w' => agrees_of_twin w'
    rw [hreads id hid, hstraight id hid]

end Main

def transposedCalls : List (Call Word Word) :=
  [.tensorFromF32 [1, 2, 3, 4] [2, 2], .tensorTranspose2D 1, .tensorFromF32 [1, 3, 2, 4] [2, 2]]

/-- An activation returns on a tensor and fails on a transposed view with the same contents. -/
theorem layout_shows_relu : Reachable (sampleRun transposedCalls) ∧
    (sampleRun transposedCalls).heap.dims 1 = (sampleRun transposedCalls).heap.dims 2 ∧
    (sampleRun transposedCalls).heap.contents 1 = (sampleRun transposedCalls).heap.contents 2 ∧
    returns (sampleRun transposedCalls) (.tensorRelu 3) = true ∧
    returns (sampleRun transposedCalls) (.tensorGelu 2) = true ∧
    returns (sampleRun transposedCalls) (.tensorRelu 2) = false :=
  ⟨⟨_, _, _, rfl⟩, by decide +kernel, by decide +kernel, by decide +kernel, by decide +kernel,
    by decide +kernel⟩

theorem layout_transparent_iff_gelu :
    ∃ t, Twin (sampleRun transposedCalls) t ∧
      Matched Agrees (exec (.tensorGelu 2) (sampleRun transposedCalls))
        (exec (.tensorGelu 2) t) := by
  have hs : Reachable (sampleRun transposedCalls) := ⟨_, _, _, rfl⟩
  have h := layout_transparent_iff hs (lasting_sampleRun _)
    (rfl : (Call.tensorGelu 2 : Call Word Word).isOperation = true)
  obtain ⟨⟨t, w, -⟩, hiff⟩ := h
  refine ⟨t, w, (hiff t w ?_).mpr ?_⟩
  · intro id hid
    cases hid
  · intro id hid
    cases hid

end Api

end Tensora
