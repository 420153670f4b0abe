import Tensora.Api.Calls
import Tensora.Training.LibTorch

/-! The differentiable calls where a tensor may have CPU or LibTorch storage: the
dispatcher, the conversions, and both implementations of the training bridge. -/
namespace Tensora.Bridge
open Training

/-- Whether `TENSORA_WITH_TORCH` is defined. -/
inductive Build where
  | core
  | libtorch
  deriving DecidableEq, Repr

/-- A tensor with LibTorch storage, as `WrapTorchTensor` makes it. -/
structure TorchTensor {F : Type} (lib : LibTorch F) where
  value : lib.Ref
  shape : ShapeInfo
  device : Device
  deviceIndex : Int

inductive TensorObject {F : Type} (lib : LibTorch F) where
  | cpu (id : TensorId)
  | torch (tensor : TorchTensor lib)

structure World {F : Type} (lib : LibTorch F) where
  memory : Memory F
  torch : lib.State

abbrev BridgeM {F : Type} (lib : LibTorch F) := EStateM Failure (World lib)

structure Description where
  kind : StorageKind
  shape : ShapeInfo
  device : Device
  deviceIndex : Int

section Conversions
variable {F α : Type} {lib : LibTorch F}

def onMemory (program : Mem F α) : BridgeM lib α := fun w =>
  match program w.memory with
  | .ok a m => .ok a { w with memory := m }
  | .error e m => .error e { w with memory := m }

def onTorch (program : EStateM Failure lib.State α) : BridgeM lib α := fun w =>
  match program w.torch with
  | .ok a s => .ok a { w with torch := s }
  | .error e s => .error e { w with torch := s }

def describe : TensorObject lib → BridgeM lib Description
  | .cpu id => do
      let t ← onMemory (deref id)
      return ⟨.cpu, t.shape, t.device, t.deviceIndex⟩
  | .torch t => return ⟨.torch, t.shape, t.device, t.deviceIndex⟩

def matchesAccelerator : Device → DeviceType → Bool
  | .cuda, .cuda | .mps, .mps | .xpu, .xpu | .hip, .hip => true
  | _, _ => false

/-- `DeviceCountFromSnapshot`. -/
def deviceCount (lib : LibTorch F) (device : Device) : Except Failure Nat :=
  if device = .cpu then .ok 1
  else match lib.accelerator with
    | none => .ok 0
    | some accelerator =>
        if !matchesAccelerator device accelerator then .ok 0
        else if lib.acceleratorCount < 0 then
          .error (internalError "device_count: accelerator returned a negative count")
        else .ok lib.acceleratorCount.toNat

/-- The largest `c10::DeviceIndex`. -/
def maxDeviceIndex : Int := 127

/-- `TorchDeviceFromSnapshot`. -/
def torchDevice (lib : LibTorch F) (device : Device) (deviceIndex : Int) :
    Except Failure TorchDevice := do
  if device = .cpu then
    if deviceIndex ≠ 0 then
      throw (invalidArgument "torch device: CPU device index must be zero")
    return ⟨.cpu, -1⟩
  if deviceIndex < 0 then
    throw (invalidArgument "torch device: accelerator index cannot be negative")
  if device = .mps ∧ deviceIndex ≠ 0 then
    throw (invalidArgument "torch device: MPS device index must be zero")
  if maxDeviceIndex < deviceIndex then
    throw (invalidArgument "torch device: accelerator index exceeds LibTorch range")
  let count ← deviceCount lib device
  if (count : Int) ≤ deviceIndex then
    throw (unsupported "torch device: requested accelerator is not available")
  return match device with
    | .mps => ⟨.mps, -1⟩
    | .xpu => ⟨.xpu, deviceIndex⟩
    -- ROCm builds expose their tensors as CUDA ones
    | _ => ⟨.cuda, deviceIndex⟩

def mapTorchDevice (lib : LibTorch F) (device : TorchDevice) : Except Failure (Device × Int) := do
  match device.type with
  | .cpu => return (.cpu, 0)
  | .mps => return (.mps, 0)
  | .other => throw (unsupported "wrap torch tensor: unsupported Torch device")
  | type =>
      if device.index < 0 then
        throw (internalError "wrap torch tensor: accelerator has no device index")
      if type = .xpu then return (.xpu, device.index)
      return (if lib.accelerator = some .hip then .hip else .cuda, device.index)

def tensorToTorch : TensorObject lib → BridgeM lib lib.Ref
  | .torch t => return t.value
  | .cpu id => do
      let (values, dimensions) ← onMemory (Inference.tensorToTorch id)
      onTorch (lib.fromBlobClone values dimensions)

def wrapTorchTensor (value : lib.Ref) : BridgeM lib (TensorObject lib) := do
  let s := (← get).torch
  let shape ← onMemory (validatedShape ((lib.sizes s value).map Int.ofNat))
  let (device, deviceIndex) ← MonadExcept.ofExcept (mapTorchDevice lib (lib.device s value))
  return .torch { value, shape, device, deviceIndex }

def wrapResult (expression : TorchExpression) (values : List lib.Ref) :
    BridgeM lib (TensorObject lib) := do
  let value ← onTorch (lib.evaluate expression values)
  wrapTorchTensor value

def torchUnary (expression : TorchExpression) (tensor : TensorObject lib) :
    BridgeM lib (TensorObject lib) := do
  let value ← tensorToTorch tensor
  wrapResult expression [value]

def torchBinary (expression : TorchExpression) (left right : TensorObject lib) :
    BridgeM lib (TensorObject lib) := do
  let a ← tensorToTorch left
  let b ← tensorToTorch right
  wrapResult expression [a, b]

/-- A function of the CPU backend or of the core bridge. Those read `CpuStorage` only. -/
def onCpu (operation : TensorId → Mem F TensorId) :
    TensorObject lib → BridgeM lib (TensorObject lib)
  | .cpu id => .cpu <$> onMemory (operation id)
  | .torch _ => throw (unsupported "tensor is not backed by CPU storage")

def onCpuPair (operation : TensorId → TensorId → Mem F TensorId) :
    TensorObject lib → TensorObject lib → BridgeM lib (TensorObject lib)
  | .cpu left, .cpu right => .cpu <$> onMemory (operation left right)
  | _, _ => throw (unsupported "tensor is not backed by CPU storage")

end Conversions

namespace Dispatcher
variable {F : Type} {lib : LibTorch F}

inductive Backend where
  | cpu
  | torch
  deriving DecidableEq, Repr

/-- `Dispatcher::For`. -/
def forDevice (build : Build) (device : Device) : BridgeM lib Backend :=
  if device = .cpu then return .cpu
  else match build with
    | .libtorch => return .torch
    | .core => throw (unsupported "dispatcher: requested device is not supported")

def forTensor (build : Build) (tensor : TensorObject lib) : BridgeM lib Backend := do
  let t ← describe tensor
  if build = .libtorch ∧ t.kind = .torch then return .torch
  forDevice build t.device

def forTensors (build : Build) (left right : TensorObject lib) : BridgeM lib Backend := do
  let l ← describe left
  let r ← describe right
  failIf (l.device ≠ r.device ∨ l.deviceIndex ≠ r.deviceIndex)
    (invalidArgument "dispatcher: input tensors must use the same device")
  if build = .libtorch ∧ (l.kind = .torch ∨ r.kind = .torch) then return .torch
  forDevice build l.device

end Dispatcher

namespace TorchBackend
variable {F : Type} {lib : LibTorch F}

def reshape (tensor : TensorObject lib) (shape : ShapeInfo) : BridgeM lib (TensorObject lib) := do
  failIf ((← describe tensor).shape.numel ≠ shape.numel)
    (invalidShape "reshape: target shape must preserve element count")
  torchUnary (.reshape shape.dimensions) tensor

def transpose2D (tensor : TensorObject lib) : BridgeM lib (TensorObject lib) := do
  failIf ((← describe tensor).shape.dimensions.length ≠ 2)
    (invalidShape "transpose: requires a rank-2 tensor")
  torchUnary .transpose tensor

def elementwise (name : String) (expression : TorchExpression) (left right : TensorObject lib) :
    BridgeM lib (TensorObject lib) := do
  failIf (!sameShape (← describe left).shape (← describe right).shape)
    (invalidShape (name ++ ": input shapes must match"))
  torchBinary expression left right

def add (left right : TensorObject lib) : BridgeM lib (TensorObject lib) :=
  elementwise "add" .add left right

def multiply (left right : TensorObject lib) : BridgeM lib (TensorObject lib) :=
  elementwise "multiply" .multiply left right

def sum (tensor : TensorObject lib) : BridgeM lib (TensorObject lib) := torchUnary .sum tensor

def matmul (left right : TensorObject lib) : BridgeM lib (TensorObject lib) := do
  match (← describe left).shape.dimensions, (← describe right).shape.dimensions with
  | [_, inner], [rows, _] => do
      failIf (inner ≠ rows) (invalidShape "matmul: inner dimensions must match")
      torchBinary .matmul left right
  | _, _ => throw (invalidShape "matmul: requires rank-2 tensors")

end TorchBackend

section Training
variable {F : Type} {lib : LibTorch F}

/-- A Linear module of either build; LibTorch's holds its parameters itself. -/
inductive Layer (lib : LibTorch F) where
  | core (state : LinearState)
  | torch (weight : lib.Ref) (bias : Option lib.Ref)

/-- `Transfer`, in the LibTorch build. -/
def torchTransfer (tensor : TensorObject lib) (device : Device) (deviceIndex : Int) :
    BridgeM lib (TensorObject lib) := do
  let target ← MonadExcept.ofExcept (torchDevice lib device deviceIndex)
  torchUnary (.moved target) tensor

/-- `EnsureSameDevice`, then `SameShape`. -/
def ensureAlike (name shapes : String) (left right : TensorObject lib) :
    BridgeM lib Description := do
  let l ← describe left
  let r ← describe right
  failIf (l.device ≠ r.device ∨ l.deviceIndex ≠ r.deviceIndex)
    (invalidArgument (name ++ ": tensors must use the same device"))
  failIf (!sameShape l.shape r.shape) (invalidShape shapes)
  return l

/-- `MseLoss`, in the LibTorch build. -/
def torchMseLoss (prediction target : TensorObject lib) : BridgeM lib (TensorObject lib) := do
  let _ ← ensureAlike "mse_loss" "mse_loss: prediction and target shapes must match"
    prediction target
  torchBinary .mseLoss prediction target

/-- `CrossEntropyLoss`, in the LibTorch build. -/
def torchCrossEntropyLoss (logits oneHotTarget : TensorObject lib) :
    BridgeM lib (TensorObject lib) := do
  let l ← ensureAlike "cross_entropy_loss"
    "cross_entropy_loss: logits and one-hot target shapes must match" logits oneHotTarget
  failIf (l.shape.dimensions.length ≠ 2)
    (invalidShape "cross_entropy_loss: initial contract requires rank-2 tensors")
  torchBinary .crossEntropyLoss logits oneHotTarget

def torchSwiGlu (tensor : TensorObject lib) : BridgeM lib (TensorObject lib) := do
  let value ← tensorToTorch tensor
  match (lib.sizes (← get).torch value).getLast? with
  | none => throw (invalidShape "tensor_swiglu: input must have rank at least one")
  | some width => do
      failIf (width = 0 ∨ width % 2 ≠ 0)
        (invalidShape "tensor_swiglu: final dimension must be positive and even")
      wrapResult (.swiGlu (width / 2)) [value]

/-- `ModuleForward`, in the LibTorch build. -/
def torchForward (weight : lib.Ref) (bias : Option lib.Ref) (input : TensorObject lib) :
    BridgeM lib (TensorObject lib) := do
  let value ← tensorToTorch input
  wrapResult .linear (value :: weight :: bias.toList)

/-- A call that produces a tensor from others and is meant to be differentiated through. -/
inductive Operation (lib : LibTorch F) where
  | reshape (tensor : TensorObject lib) (dims : List Int)
  | transpose2D (tensor : TensorObject lib)
  | sum (tensor : TensorObject lib)
  | relu (tensor : TensorObject lib)
  | sigmoid (tensor : TensorObject lib)
  | tanh (tensor : TensorObject lib)
  | gelu (tensor : TensorObject lib)
  | silu (tensor : TensorObject lib)
  | swiGlu (tensor : TensorObject lib)
  | transfer (tensor : TensorObject lib) (device : Device) (deviceIndex : Int)
  | add (left right : TensorObject lib)
  | multiply (left right : TensorObject lib)
  | matmul (left right : TensorObject lib)
  | mseLoss (prediction target : TensorObject lib)
  | crossEntropyLoss (logits oneHotTarget : TensorObject lib)
  | moduleForward (layer : Layer lib) (input : TensorObject lib)

/-- A function the bridge of each build has its own of. -/
def byBuild (build : Build) (core libtorch : BridgeM lib (TensorObject lib)) :
    BridgeM lib (TensorObject lib) :=
  match build with
  | .core => core
  | .libtorch => libtorch

/-- The activations of `nn_v2`, which look at the storage. -/
def byStorage (build : Build) (tensor : TensorObject lib)
    (core libtorch : BridgeM lib (TensorObject lib)) : BridgeM lib (TensorObject lib) :=
  match build, tensor with
  | .libtorch, .torch _ => libtorch
  | _, _ => core

def byBackend (dispatched : BridgeM lib Dispatcher.Backend)
    (cpu torch : BridgeM lib (TensorObject lib)) : BridgeM lib (TensorObject lib) := do
  match ← dispatched with
  | .cpu => cpu
  | .torch => torch

variable (D : Type) [Scalar F] [Scalar D] [Precision F D]

open Dispatcher in
def exec (build : Build) : Operation lib → BridgeM lib (TensorObject lib)
  | .reshape t dims => do
      let shape ← onMemory (validatedShape dims)
      byBackend (forTensor build t) (onCpu (fun id => CpuBackend.reshape id shape) t)
        (TorchBackend.reshape t shape)
  | .transpose2D t =>
      byBackend (forTensor build t) (onCpu CpuBackend.transpose2D t) (TorchBackend.transpose2D t)
  | .sum t => byBackend (forTensor build t) (onCpu CpuBackend.sum t) (TorchBackend.sum t)
  | .relu t => byBuild build (onCpu relu t) (torchUnary .relu t)
  | .sigmoid t => byBuild build (onCpu sigmoid t) (torchUnary .sigmoid t)
  | .tanh t => byBuild build (onCpu tanhOf t) (torchUnary .tanh t)
  | .gelu t => byStorage build t (onCpu gelu t) (torchUnary .gelu t)
  | .silu t => byStorage build t (onCpu silu t) (torchUnary .silu t)
  | .swiGlu t => byStorage build t (onCpu swiGlu t) (torchSwiGlu t)
  | .transfer t device deviceIndex =>
      byBuild build (onCpu (fun id => transfer id device deviceIndex) t)
        (torchTransfer t device deviceIndex)
  | .add l r => byBackend (forTensors build l r) (onCpuPair CpuBackend.add l r)
      (TorchBackend.add l r)
  | .multiply l r => byBackend (forTensors build l r) (onCpuPair CpuBackend.multiply l r)
      (TorchBackend.multiply l r)
  | .matmul l r => byBackend (forTensors build l r) (onCpuPair CpuBackend.matmul l r)
      (TorchBackend.matmul l r)
  | .mseLoss p t => byBuild build (onCpuPair (Training.mseLoss D) p t) (torchMseLoss p t)
  | .crossEntropyLoss l t =>
      byBuild build (onCpuPair (Training.crossEntropyLoss D) l t) (torchCrossEntropyLoss l t)
  | .moduleForward (.core state) input =>
      byBuild build (onCpu (moduleForward state) input) (throw .danglingReference)
  | .moduleForward (.torch weight bias) input =>
      byBuild build (throw .danglingReference) (torchForward weight bias input)

omit [Scalar D] [Precision F D] [Scalar F] in
variable (lib) in
/-- `CpuBackend::FromData`: host data always starts in CPU storage. -/
def fromData (shape : ShapeInfo) (data : List F) : BridgeM lib (TensorObject lib) :=
  .cpu <$> onMemory (CpuBackend.fromData shape data)

def setRequiresGrad (tensor : TensorObject lib) (flag : Bool) : BridgeM lib Unit :=
  match tensor with
  | .cpu id => onMemory (Training.setRequiresGrad id flag)
  | .torch t => do
      failIf (!lib.isLeaf (← get).torch t.value) (invalidArgument
        "tensor_set_requires_grad: only leaf tensors may change requiresGrad")
      onTorch (lib.setRequiresGrad t.value flag)
      if !flag && lib.hasGradient (← get).torch t.value then onTorch (lib.resetGradient t.value)

def withRequiresGrad (build : Build) (tensor : TensorObject lib) (flag : Bool) :
    BridgeM lib (TensorObject lib) :=
  byBuild build (onCpu (fun id => Training.withRequiresGrad id flag) tensor) do
    let value ← tensorToTorch tensor
    let leaf ← onTorch (lib.detachClone value)
    onTorch (lib.setRequiresGrad leaf flag)
    wrapTorchTensor leaf

/-- `Backward`: each storage has its own engine. -/
def backward : TensorObject lib → BridgeM lib Unit
  | .cpu id => onMemory (Autograd.backward id)
  | .torch t => do
      failIf (t.shape.numel ≠ 1)
        (invalidShape "tensor_backward: loss tensor must contain one value")
      failIf (!lib.requiresGrad (← get).torch t.value)
        (invalidArgument "tensor_backward: tensor does not require gradients")
      onTorch (lib.backward t.value)

end Training

end Tensora.Bridge
