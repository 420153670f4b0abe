import Mathlib.Logic.Relation
import Tensora.Tensor.Memory

/-! What the native code calls of LibTorch, as a parameter, and the documented
behaviour of its autograd graph that the bridge relies on. -/
namespace Tensora.Training
open Relation ProgramLogic

/-- `c10::DeviceType`, as far as the bridge tells its values apart. -/
inductive DeviceType where
  | cpu
  | cuda
  | hip
  | mps
  | xpu
  | other
  deriving DecidableEq, Repr

structure TorchDevice where
  type : DeviceType
  index : Int
  deriving DecidableEq, Repr

/-- The expressions the bridge evaluates under `GuardTorch`. -/
inductive TorchExpression where
  /-- `value.reshape(dimensions).clone()` -/
  | reshape (dimensions : List Nat)
  /-- `value.transpose(0, 1).contiguous()` -/
  | transpose
  /-- `value.to(target)`, cloned when that is where the value already is -/
  | moved (target : TorchDevice)
  | sum
  | relu
  | sigmoid
  | tanh
  | gelu
  | silu
  /-- `torch::silu(a) * b` for the halves of the last dimension -/
  | swiGlu (half : Nat)
  | add
  | multiply
  | matmul
  | mseLoss
  /-- `-(target * log_softmax(logits, 1)).sum(1).mean()` -/
  | crossEntropyLoss
  /-- `torch::nn::Linear::forward` on the input and the parameters -/
  | linear
  deriving DecidableEq, Repr

/-- The library: its state, its tensors and what can be asked of them. `inputs` are
the tensors the edges of a tensor's `grad_fn` lead to. -/
structure LibTorch (F : Type) where
  State : Type
  Ref : Type
  start : State
  live : State → Ref → Prop
  sizes : State → Ref → List Nat
  device : State → Ref → TorchDevice
  requiresGrad : State → Ref → Bool
  isLeaf : State → Ref → Bool
  hasGradient : State → Ref → Bool
  inputs : State → Ref → List Ref
  accelerator : Option DeviceType
  acceleratorCount : Int
  /-- `torch::from_blob(values, dimensions).clone()` -/
  fromBlobClone : List F → List Nat → EStateM Failure State Ref
  evaluate : TorchExpression → List Ref → EStateM Failure State Ref
  /-- `value.detach().clone()` -/
  detachClone : Ref → EStateM Failure State Ref
  setRequiresGrad : Ref → Bool → EStateM Failure State Unit
  /-- `value.mutable_grad() = torch::Tensor()` -/
  resetGradient : Ref → EStateM Failure State Unit
  backward : Ref → EStateM Failure State Unit

namespace LibTorch
variable {F : Type} (lib : LibTorch F)

/-- The tensors a backward pass from `root` meets. -/
def Reaches (s : lib.State) : lib.Ref → lib.Ref → Prop := ReflTransGen fun r o => o ∈ lib.inputs s r

structure Grows (s s' : lib.State) : Prop where
  live : ∀ r, lib.live s r → lib.live s' r
  isLeaf : ∀ r, lib.live s r → lib.isLeaf s' r = lib.isLeaf s r
  inputs : ∀ r, lib.live s r → lib.inputs s' r = lib.inputs s r

structure Extends (s s' : lib.State) : Prop where
  grows : lib.Grows s s'
  requiresGrad : ∀ r, lib.live s r → lib.requiresGrad s' r = lib.requiresGrad s r

/-- What LibTorch documents. A copy of foreign memory and a detached copy have no
history; an expression's result requires grad when one of its operands does, and leads
to those; a backward pass leaves a gradient on every leaf it meets that asks for one. -/
structure Documented : Prop where
  inputs_live : ∀ s r o, lib.live s r → o ∈ lib.inputs s r → lib.live s o
  fromBlobClone : ∀ values dimensions s, wp (lib.fromBlobClone values dimensions)
    (fun r s' => lib.Extends s s' ∧ lib.live s' r ∧ lib.requiresGrad s' r = false)
    (fun _ s' => lib.Extends s s') s
  evaluate : ∀ expression operands s, (∀ o ∈ operands, lib.live s o) →
    wp (lib.evaluate expression operands)
      (fun r s' => lib.Extends s s' ∧ lib.live s' r ∧
        lib.requiresGrad s' r = operands.any (lib.requiresGrad s) ∧
        ∀ o ∈ operands, lib.requiresGrad s o = true → lib.Reaches s' r o)
      (fun _ s' => lib.Extends s s') s
  detachClone : ∀ r s, lib.live s r → wp (lib.detachClone r)
    (fun r' s' => lib.Extends s s' ∧ lib.live s' r' ∧ lib.isLeaf s' r' = true)
    (fun _ s' => lib.Extends s s') s
  setRequiresGrad : ∀ r flag s, lib.live s r → lib.isLeaf s r = true →
    wp (lib.setRequiresGrad r flag)
      (fun _ s' => lib.Grows s s' ∧ lib.requiresGrad s' r = flag) (fun _ s' => lib.Grows s s') s
  resetGradient : ∀ r s, lib.live s r → wp (lib.resetGradient r)
    (fun _ s' => lib.Extends s s') (fun _ s' => lib.Extends s s') s
  backward : ∀ root s, lib.live s root → wp (lib.backward root)
    (fun _ s' => lib.Extends s s' ∧ ∀ leaf, lib.Reaches s root leaf → lib.isLeaf s leaf = true →
      lib.requiresGrad s leaf = true → lib.hasGradient s' leaf = true)
    (fun _ s' => lib.Grows s s') s

variable {lib} {s s' s'' : lib.State}

theorem Grows.refl (s : lib.State) : lib.Grows s s :=
  ⟨fun _ hr => hr, fun _ _ => rfl, fun _ _ => rfl⟩

theorem Grows.trans (a : lib.Grows s s') (b : lib.Grows s' s'') : lib.Grows s s'' where
  live := fun r hr => b.live r (a.live r hr)
  isLeaf := fun r hr => (b.isLeaf r (a.live r hr)).trans (a.isLeaf r hr)
  inputs := fun r hr => (b.inputs r (a.live r hr)).trans (a.inputs r hr)

theorem Extends.refl (s : lib.State) : lib.Extends s s := ⟨Grows.refl s, fun _ _ => rfl⟩

theorem Extends.trans (a : lib.Extends s s') (b : lib.Extends s' s'') : lib.Extends s s'' where
  grows := a.grows.trans b.grows
  requiresGrad := fun r hr =>
    (b.requiresGrad r (a.grows.live r hr)).trans (a.requiresGrad r hr)

theorem Grows.reaches (doc : lib.Documented) (g : lib.Grows s s') {r o : lib.Ref}
    (hr : lib.live s r) (hreach : lib.Reaches s r o) : lib.Reaches s' r o ∧ lib.live s o := by
  induction hreach with
  | refl => exact ⟨ReflTransGen.refl, hr⟩
  | @tail middle o _ hedge ih =>
      obtain ⟨hreach', hlive⟩ := ih
      refine ⟨hreach'.tail ?_, doc.inputs_live s middle o hlive hedge⟩
      rw [g.inputs middle hlive]
      exact hedge

end LibTorch

end Tensora.Training
