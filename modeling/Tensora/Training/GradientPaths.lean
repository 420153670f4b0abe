import Tensora.Autograd.Links
import Tensora.Training.TorchBridge

/-! Both autograd graphs as one, and what each differentiable call adds to it: a result
requires grad and leads to the operands that do, as long as none of those is copied
out of CPU storage into LibTorch. -/
namespace Tensora.Bridge
open Relation ProgramLogic Training

/-- What the autograd engines identify tensors by. -/
inductive Node {F : Type} (lib : LibTorch F) where
  | cpu (id : TensorId)
  | torch (ref : lib.Ref)

section Nodes
variable {F : Type} {lib : LibTorch F}

def Node.cpu? : Node lib → Option TensorId
  | .cpu id => some id
  | .torch _ => none

def TensorObject.node : TensorObject lib → Node lib
  | .cpu id => .cpu id
  | .torch t => .torch t.value

namespace World

def heap (w : World lib) : Heap F := w.memory.heap

def requiresGrad (w : World lib) : Node lib → Bool
  | .cpu id => w.heap.requiresGrad id
  | .torch r => lib.requiresGrad w.torch r

def isLeaf (w : World lib) : Node lib → Bool
  | .cpu id => w.heap.isLeaf id
  | .torch r => lib.isLeaf w.torch r

def hasGradient (w : World lib) : Node lib → Bool
  | .cpu id => (w.heap.gradient id).isSome
  | .torch r => lib.hasGradient w.torch r

/-- No edge leads from one engine's graph into the other's. -/
def Feeds (w : World lib) : Node lib → Node lib → Prop
  | .cpu id, .cpu p => p ∈ w.heap.tape.parents id
  | .torch r, .torch o => o ∈ lib.inputs w.torch r
  | _, _ => False

def Reaches (w : World lib) : Node lib → Node lib → Prop := ReflTransGen w.Feeds

def Holds (w : World lib) : Node lib → Prop
  | .cpu id => w.heap.Visible id
  | .torch r => lib.live w.torch r

structure Same (w w' : World lib) : Prop where
  heap : w'.heap = w.heap
  torch : w'.torch = w.torch

/-- What any call may do: tensors keep their place in both graphs. -/
structure Quiet (w w' : World lib) : Prop where
  heap : Evolves w.heap w'.heap
  torch : lib.Grows w.torch w'.torch

end World

/-- The result requires grad exactly when an operand does, and leads to each that does. -/
structure Connects (w w' : World lib) (operands : List (Node lib)) (result : Node lib) : Prop where
  requiresGrad : w'.requiresGrad result = operands.any w.requiresGrad
  reaches : ∀ o ∈ operands, w.requiresGrad o = true → w'.Reaches result o

/-- What a call on `operands` leaves that copies `converted` out of CPU storage: it
connects its result exactly when none of those requires grad. -/
structure Settled (w : World lib) (operands : List (Node lib)) (converted : List TensorId)
    (result : Node lib) (w' : World lib) : Prop where
  quiet : w.Quiet w'
  holds : w'.Holds result
  connects : Connects w w' operands result ↔ ∀ id ∈ converted, w.heap.requiresGrad id = false

def Records (x : BridgeM lib (TensorObject lib)) (w : World lib) (operands : List (Node lib))
    (converted : List TensorId) : Prop :=
  wp x (fun r w' => Settled w operands converted r.node w') (fun _ w' => w.Quiet w') w

end Nodes

section Paths
variable {F α β : Type} {lib : LibTorch F} {w w' w'' : World lib}

namespace World

theorem Quiet.refl (wf : WellFormed w.heap) : w.Quiet w := ⟨Evolves.refl wf, LibTorch.Grows.refl _⟩

theorem Quiet.trans (a : w.Quiet w') (b : w'.Quiet w'') : w.Quiet w'' :=
  ⟨a.heap.trans b.heap, a.torch.trans b.torch⟩

theorem Quiet.holds (q : w.Quiet w') {n : Node lib} (hn : w.Holds n) : w'.Holds n := by
  cases n with
  | cpu id => exact q.heap.visible id hn
  | torch r => exact q.torch.live r hn

theorem reaches_cpu {id : TensorId} {n : Node lib} (h : w.Reaches (.cpu id) n) :
    ∃ p, n = .cpu p ∧ w.heap.Reaches id p := by
  induction h with
  | refl => exact ⟨id, rfl, ReflTransGen.refl⟩
  | @tail middle n _ hedge ih =>
      obtain ⟨p, rfl, hpath⟩ := ih
      cases n with
      | cpu q => exact ⟨q, rfl, hpath.tail hedge⟩
      | torch r => exact hedge.elim

theorem reaches_torch {r : lib.Ref} {n : Node lib} (h : w.Reaches (.torch r) n) :
    ∃ o, n = .torch o ∧ lib.Reaches w.torch r o := by
  induction h with
  | refl => exact ⟨r, rfl, ReflTransGen.refl⟩
  | @tail middle n _ hedge ih =>
      obtain ⟨o, rfl, hpath⟩ := ih
      cases n with
      | cpu id => exact hedge.elim
      | torch o' => exact ⟨o', rfl, hpath.tail hedge⟩

theorem reaches_of_cpu {id p : TensorId} (h : w.heap.Reaches id p) :
    w.Reaches (.cpu id) (.cpu p) :=
  ReflTransGen.lift Node.cpu (fun _ _ hedge => hedge) _ _ h

theorem reaches_of_torch {r o : lib.Ref} (h : lib.Reaches w.torch r o) :
    w.Reaches (.torch r) (.torch o) :=
  ReflTransGen.lift Node.torch (fun _ _ hedge => hedge) _ _ h

theorem Quiet.reaches (doc : lib.Documented) (q : w.Quiet w') (wf : WellFormed w.heap)
    {n o : Node lib} (hn : w.Holds n) (hpath : w.Reaches n o) : w'.Reaches n o := by
  cases n with
  | cpu id =>
      obtain ⟨p, rfl, hcpu⟩ := reaches_cpu hpath
      exact reaches_of_cpu (q.heap.reaches wf hn.1 hcpu)
  | torch r =>
      obtain ⟨o, rfl, htorch⟩ := reaches_torch hpath
      exact reaches_of_torch (q.torch.reaches doc hn htorch).1

end World

theorem wp_onMemory {program : Mem F α} {Q : α → World lib → Prop} {E : Failure → World lib → Prop}
    {P : α → Heap F → Prop} {R : Failure → Heap F → Prop} {X : Heap F → Prop}
    (hx : Spec program w.heap P R X) (hQ : ∀ a m, P a m.heap → Q a { w with memory := m })
    (hE : ∀ e m, R e m.heap ∨ X m.heap → E e { w with memory := m }) :
    wp (onMemory program) Q E w := by
  have h := hx w.memory.allocator
  have hm : (⟨w.heap, w.memory.allocator⟩ : Memory F) = w.memory := rfl
  rw [hm] at h
  unfold wp onMemory at *
  cases hp : program w.memory with
  | ok a m =>
      rw [hp] at h
      exact hQ a m h.2
  | error e m =>
      rw [hp] at h
      exact hE e m (h.2.imp id fun hout => hout.2.2)

theorem wp_onTorch {program : EStateM Failure lib.State α} {Q : α → World lib → Prop}
    {E : Failure → World lib → Prop} {P : α → lib.State → Prop} {R : Failure → lib.State → Prop}
    (hx : wp program P R w.torch) (hQ : ∀ a s, P a s → Q a { w with torch := s })
    (hE : ∀ e s, R e s → E e { w with torch := s }) : wp (onTorch program) Q E w := by
  unfold wp onTorch at *
  cases hp : program w.torch with
  | ok a s =>
      rw [hp] at hx
      exact hQ a s hx
  | error e s =>
      rw [hp] at hx
      exact hE e s hx

def Looks (x : BridgeM lib α) (w : World lib) (T : α → Prop) : Prop :=
  wp x (fun a w' => w.Same w' ∧ T a) (fun _ w' => w.Same w') w

theorem looks_pure {a : α} {T : α → Prop} (ha : T a) : Looks (pure a : BridgeM lib α) w T :=
  ⟨⟨rfl, rfl⟩, ha⟩

theorem looks_throw (e : Failure) {T : α → Prop} : Looks (throw e : BridgeM lib α) w T :=
  ⟨rfl, rfl⟩

theorem looks_get {T : World lib → Prop} (hw : T w) : Looks (get : BridgeM lib _) w T :=
  ⟨⟨rfl, rfl⟩, hw⟩

theorem looks_failIf (c : Prop) [Decidable c] (e : Failure) :
    Looks (failIf c e : BridgeM lib Unit) w fun _ => ¬c := by
  unfold failIf
  split
  · exact looks_throw e
  · exact looks_pure ‹_›

theorem looks_ofExcept (x : Except Failure α) :
    Looks (MonadExcept.ofExcept x : BridgeM lib α) w fun _ => True := by
  cases x with
  | ok a => exact looks_pure trivial
  | error e => exact looks_throw e

theorem looks_onMemory {program : Mem F α} {T : α → Prop}
    (hx : Spec program w.heap (fun a h' => h' = w.heap ∧ T a) (fun _ h' => h' = w.heap)
      fun h' => h' = w.heap) : Looks (onMemory program) w T := by
  refine wp_onMemory hx (fun a m h => ⟨⟨h.1, rfl⟩, h.2⟩) ?_
  rintro e m (h | h)
  · exact ⟨h, rfl⟩
  · exact ⟨h, rfl⟩

theorem looks_bind {x : BridgeM lib α} {f : α → BridgeM lib β} {T : α → Prop} {T' : β → Prop}
    (hx : Looks x w T) (hf : ∀ a w', w.Same w' → T a → Looks (f a) w' T') :
    Looks (x >>= f) w T' := by
  refine wp_seq hx (fun _ _ he => he) ?_
  rintro a w' ⟨hsame, ha⟩
  have htrans : ∀ w'', w'.Same w'' → w.Same w'' := fun w'' h =>
    ⟨h.heap.trans hsame.heap, h.torch.trans hsame.torch⟩
  exact wp_mono (hf a w' hsame ha) (fun b w'' h => ⟨htrans w'' h.1, h.2⟩)
    fun e w'' h => htrans w'' h

end Paths

end Tensora.Bridge
