import Tensora.Lib.PostOrder
import Tensora.Training.LibTorch

/-! A small autograd engine that behaves as LibTorch documents: tensors are numbered
in the order they are made, and only their sizes, flags and edges are kept. -/
namespace Tensora.Training
open Relation ProgramLogic

structure SampleTensor where
  sizes : List Nat
  device : TorchDevice
  requiresGrad : Bool
  isLeaf : Bool
  hasGradient : Bool
  inputs : List Nat

structure SampleState where
  count : Nat
  tensor : Nat → SampleTensor
  earlier : ∀ i, ∀ o ∈ (tensor i).inputs, o < i

namespace SampleState

def mark (s : SampleState) (f : Nat → SampleTensor → Bool × Bool) : SampleState where
  count := s.count
  tensor := fun i => { s.tensor i with
    requiresGrad := (f i (s.tensor i)).1
    hasGradient := (f i (s.tensor i)).2 }
  earlier := s.earlier

def push (s : SampleState) (t : SampleTensor) : SampleState where
  count := s.count + 1
  tensor := Function.update s.tensor s.count
    { t with inputs := t.inputs.filter fun o => decide (o < s.count) }
  earlier := by
    intro i o ho
    by_cases hi : i = s.count
    · subst hi
      rw [Function.update_self] at ho
      simpa using (List.mem_filter.mp ho).2
    · rw [Function.update_of_ne hi] at ho
      exact s.earlier i o ho

end SampleState

def sampleSizes : TorchExpression → List (List Nat) → List Nat
  | .reshape dimensions, _ => dimensions
  | .transpose, d :: _ => d.reverse
  | .swiGlu half, d :: _ => d.dropLast ++ [half]
  | .matmul, [l, r] => [l.headD 0, r.getLastD 0]
  | .linear, input :: weight :: _ => [input.headD 0, weight.headD 0]
  | .sum, _ | .mseLoss, _ | .crossEntropyLoss, _ => []
  | _, d :: _ => d
  | _, [] => []

def sampleDevice : TorchExpression → List TorchDevice → TorchDevice
  | .moved target, _ => target
  | _, device :: _ => device
  | _, [] => ⟨.cpu, -1⟩

def sampleTorch (F : Type) : LibTorch F where
  State := SampleState
  Ref := Nat
  start := { count := 0, tensor := fun _ => ⟨[], ⟨.cpu, -1⟩, false, true, false, []⟩,
             earlier := by rintro i o ⟨⟩ }
  live s r := r < s.count
  sizes s r := (s.tensor r).sizes
  device s r := (s.tensor r).device
  requiresGrad s r := (s.tensor r).requiresGrad
  isLeaf s r := (s.tensor r).isLeaf
  hasGradient s r := (s.tensor r).hasGradient
  inputs s r := (s.tensor r).inputs
  accelerator := none
  acceleratorCount := 0
  fromBlobClone _ dimensions s :=
    .ok s.count (s.push ⟨dimensions, ⟨.cpu, -1⟩, false, true, false, []⟩)
  evaluate expression operands s :=
    let flag := operands.any fun o => (s.tensor o).requiresGrad
    .ok s.count (s.push {
      sizes := sampleSizes expression (operands.map fun o => (s.tensor o).sizes)
      device := sampleDevice expression (operands.map fun o => (s.tensor o).device)
      requiresGrad := flag
      isLeaf := !flag
      hasGradient := false
      inputs := operands.filter fun o => (s.tensor o).requiresGrad })
  detachClone r s := .ok s.count
    (s.push ⟨(s.tensor r).sizes, (s.tensor r).device, false, true, false, []⟩)
  setRequiresGrad r flag s :=
    .ok () (s.mark fun i t => (if i = r then flag else t.requiresGrad, t.hasGradient))
  resetGradient r s := .ok () (s.mark fun i t => (t.requiresGrad, t.hasGradient && i != r))
  backward root s :=
    let order := PostOrder.postOrder (fun r => (s.tensor r).inputs) (root + 1) root
    .ok () (s.mark fun i t =>
      (t.requiresGrad, t.hasGradient || (t.isLeaf && t.requiresGrad && decide (i ∈ order))))

variable {F : Type} {s : SampleState}

namespace SampleState

theorem tensor_push (t : SampleTensor) {r : Nat} (hr : r < s.count) :
    (s.push t).tensor r = s.tensor r :=
  Function.update_of_ne (Nat.ne_of_lt hr) _ _

theorem tensor_pushed (t : SampleTensor) : (s.push t).tensor s.count =
    { t with inputs := t.inputs.filter fun o => decide (o < s.count) } :=
  Function.update_self _ _ _

theorem mem_inputs_pushed {t : SampleTensor} {o : Nat} (ho : o ∈ t.inputs) (hlt : o < s.count) :
    o ∈ ((s.push t).tensor s.count).inputs := by
  rw [tensor_pushed]
  exact List.mem_filter.mpr ⟨ho, decide_eq_true hlt⟩

theorem extends_push (t : SampleTensor) : (sampleTorch F).Extends s (s.push t) where
  grows := {
    live := fun _ hr => Nat.lt_succ_of_lt hr
    isLeaf := fun _ hr => congrArg SampleTensor.isLeaf (tensor_push t hr)
    inputs := fun _ hr => congrArg SampleTensor.inputs (tensor_push t hr) }
  requiresGrad := fun _ hr => congrArg SampleTensor.requiresGrad (tensor_push t hr)

theorem grows_mark (f : Nat → SampleTensor → Bool × Bool) :
    (sampleTorch F).Grows s (s.mark f) where
  live := fun _ hr => hr
  isLeaf := fun _ _ => rfl
  inputs := fun _ _ => rfl

theorem extends_mark {f : Nat → SampleTensor → Bool × Bool}
    (hf : ∀ i t, (f i t).1 = t.requiresGrad) :
    (sampleTorch F).Extends s (s.mark f) :=
  ⟨grows_mark f, fun r _ => hf r (s.tensor r)⟩

theorem hasGradient_backward (s : SampleState) (root : Nat) {leaf : Nat}
    (hreach : PostOrder.Reaches (fun r => (s.tensor r).inputs) root leaf)
    (hleaf : (s.tensor leaf).isLeaf = true) (hreq : (s.tensor leaf).requiresGrad = true) :
    ((s.tensor leaf).hasGradient || ((s.tensor leaf).isLeaf && (s.tensor leaf).requiresGrad &&
      decide (leaf ∈ PostOrder.postOrder (fun r => (s.tensor r).inputs) (root + 1) root))) =
        true := by
  have hmem := (PostOrder.mem_postOrder id (fun r o ho => s.earlier r o ho)
    (Nat.lt_succ_self root)).mpr hreach
  rw [hleaf, hreq, decide_eq_true hmem]
  exact Bool.or_true _

end SampleState

open SampleState in
theorem sampleTorch_documented : (sampleTorch F).Documented where
  inputs_live := fun s r o hr ho => (s.earlier r o ho).trans hr
  fromBlobClone := fun values dimensions s =>
    ⟨extends_push _, Nat.lt_succ_self _, congrArg SampleTensor.requiresGrad (tensor_pushed _)⟩
  evaluate := by
    intro expression (operands : List Nat) (s : SampleState) hlive
    refine ⟨extends_push _, Nat.lt_succ_self _,
      congrArg SampleTensor.requiresGrad (tensor_pushed _), fun (o : Nat) ho hreq => ?_⟩
    refine ReflTransGen.single (mem_inputs_pushed ?_ (hlive o ho))
    exact List.mem_filter.mpr ⟨ho, hreq⟩
  detachClone := fun r s _ =>
    ⟨extends_push _, Nat.lt_succ_self _, congrArg SampleTensor.isLeaf (tensor_pushed _)⟩
  setRequiresGrad := fun r flag s _ _ => ⟨grows_mark _, if_pos rfl⟩
  resetGradient := fun r s _ => extends_mark fun _ _ => rfl
  backward := fun root s _ => ⟨extends_mark fun _ _ => rfl, fun _ => hasGradient_backward s root⟩

end Tensora.Training
