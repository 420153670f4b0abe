import Tensora.Dart.NativeRuntime

/-! The Dart class `Tensor` and the losses, over the native library. -/
namespace Tensora.Dart
open Adoption (Handle Thrown DartDevice HostM Host Wrapper onNative attempt)

variable {F D α : Type}

abbrev TensorM (F D : Type) := HostM (Process F D)

/-- `try x finally y`. -/
def tryFinally {σ : Type} (x : HostM σ α) (y : HostM σ Unit) : HostM σ α := do
  let outcome ← attempt x
  y
  match outcome with
  | .ok a => return a
  | .error thrown => throw thrown

/-- `DType.nativeStorageImplemented`. -/
def nativeStorageImplemented (dtype : Adoption.DType) : Bool := dtype = .float32

variable [Scalar F] [Scalar D] [Precision F D] [Training.FloatBits F]

/-- `NativeRuntime.instance`. -/
def runtime : Adoption.NativeRuntime (Process F D) where
  shape := NativeRuntime.shape
  dtype := NativeRuntime.dtype
  device := NativeRuntime.device
  numel := NativeRuntime.numel
  attach _ := return
  tensorRelease handle p :=
    match NativeRuntime.release handle p with
    | .ok _ p => (none, p)
    | .error thrown p => (some thrown, p)

namespace DartTensor

def ensureLive (operation : String) (tensor : Nat) : TensorM F D Wrapper := do
  match (← get).tensors[tensor]? with
  | none => throw (.rangeError tensor)
  | some wrapper => do
      if wrapper.disposed then
        throw (tensoraException "DisposedTensorException" "Tensor has already been disposed."
          ("tensor." ++ operation))
      return wrapper

def ofOne (operation : String) (method : Handle → DartM F D Handle) (tensor : Nat) :
    TensorM F D Nat := do
  let wrapper ← ensureLive operation tensor
  runtime.adopt (← onNative (method wrapper.handle))

def ofTwo (operation : String) (method : Handle → Handle → DartM F D Handle) (tensor other : Nat) :
    TensorM F D Nat := do
  let left ← ensureLive operation tensor
  let right ← ensureLive operation other
  runtime.adopt (← onNative (method left.handle right.handle))

def validateCreation (dtype : Adoption.DType) (operation : String) : TensorM F D Unit := do
  if !nativeStorageImplemented dtype then
    throw (tensoraException "UnsupportedOperationException"
      "Tensor creation currently supports only DType.float32 native storage."
      ("tensor." ++ operation))

def adoptCreatedHandle (hostHandle : Handle) (target : DartDevice) : TensorM F D Nat :=
  if target.kind = .cpu then runtime.adopt hostHandle
  else tryFinally
    (do runtime.adopt (← onNative (NativeRuntime.toDevice target hostHandle)))
    (runtime.release hostHandle)

/-- `$shape` in a message. -/
def shapeText (shape : DartShape) : String := "Shape(" ++ toString shape.dimensions ++ ")"

def fromList (values : List D) (shape : DartShape) (dtype : Adoption.DType)
    (device : DartDevice) : TensorM F D Nat := do
  validateCreation dtype "fromList"
  if (values.length : Int) ≠ shape.numel.toInt then
    throw (tensoraException "InvalidShapeException"
      ("Input contains " ++ toString values.length ++ " values, but " ++ shapeText shape
        ++ " requires " ++ toString shape.numel ++ ".") "tensor.fromList")
  let hostHandle ← onNative (NativeRuntime.createFromList values shape)
  adoptCreatedHandle hostHandle device

def full (shape : DartShape) (value : D) (dtype : Adoption.DType) (device : DartDevice) :
    TensorM F D Nat := do
  validateCreation dtype "full"
  let hostHandle ← onNative (NativeRuntime.full shape value)
  adoptCreatedHandle hostHandle device

def zeros (shape : DartShape) (dtype : Adoption.DType) (device : DartDevice) : TensorM F D Nat :=
  full shape 0 dtype device

def ones (shape : DartShape) (dtype : Adoption.DType) (device : DartDevice) : TensorM F D Nat :=
  full shape 1 dtype device

def requiresGrad (tensor : Nat) : TensorM F D Bool := do
  let wrapper ← ensureLive "requiresGrad" tensor
  onNative (NativeTrainingRuntime.requiresGrad wrapper.handle)

/-- `Tensor.to`. -/
def toDevice (tensor : Nat) (target : DartDevice) : TensorM F D Nat :=
  ofOne "to" (NativeRuntime.toDevice target) tensor

def withRequiresGrad (tensor : Nat) (value : Bool) : TensorM F D Nat :=
  ofOne "withRequiresGrad" (NativeTrainingRuntime.withRequiresGrad value) tensor

def reshape (tensor : Nat) (newShape : DartShape) : TensorM F D Nat :=
  ofOne "reshape" (NativeRuntime.reshape newShape) tensor

def transpose (tensor : Nat) : TensorM F D Nat :=
  ofOne "transpose" NativeRuntime.transpose2D tensor

def add (tensor other : Nat) : TensorM F D Nat := ofTwo "add" NativeRuntime.add tensor other

def multiply (tensor other : Nat) : TensorM F D Nat :=
  ofTwo "multiply" NativeRuntime.multiply tensor other

def sum (tensor : Nat) : TensorM F D Nat := ofOne "sum" NativeRuntime.sum tensor

def matmul (tensor other : Nat) : TensorM F D Nat :=
  ofTwo "matmul" NativeRuntime.matmul tensor other

def relu (tensor : Nat) : TensorM F D Nat := ofOne "relu" NativeTrainingRuntime.relu tensor

def sigmoid (tensor : Nat) : TensorM F D Nat :=
  ofOne "sigmoid" NativeTrainingRuntime.sigmoid tensor

def tanh (tensor : Nat) : TensorM F D Nat := ofOne "tanh" NativeTrainingRuntime.tanh tensor

def gelu (tensor : Nat) : TensorM F D Nat := ofOne "gelu" NativeTrainingRuntime.gelu tensor

def silu (tensor : Nat) : TensorM F D Nat := ofOne "silu" NativeTrainingRuntime.silu tensor

def swiglu (tensor : Nat) : TensorM F D Nat := ofOne "swiglu" NativeTrainingRuntime.swiglu tensor

def backward (tensor : Nat) : TensorM F D Unit := do
  let wrapper ← ensureLive "backward" tensor
  let _ ← onNative (NativeTrainingRuntime.backward wrapper.handle)

def grad (tensor : Nat) : TensorM F D Nat := ofOne "grad" NativeTrainingRuntime.grad tensor

def toList (tensor : Nat) : TensorM F D (List D) := do
  let wrapper ← ensureLive "toList" tensor
  onNative (NativeRuntime.copyToHost wrapper.handle wrapper.shape.numel)

def dispose (tensor : Nat) : TensorM F D Unit := runtime.dispose tensor

/-- `nativeHandleForRuntime`, with the capability every caller in the library passes. -/
def nativeHandle (tensor : Nat) : TensorM F D Handle := do
  return (← ensureLive "nativeHandle" tensor).handle

end DartTensor

namespace Losses

def ofHandles (method : Handle → Handle → DartM F D Handle) (left right : Nat) :
    TensorM F D Nat := do
  let leftHandle ← DartTensor.nativeHandle left
  let rightHandle ← DartTensor.nativeHandle right
  let handle ← onNative (method leftHandle rightHandle)
  runtime.adoptNativeHandleForRuntime handle .nativeTensorAdoptionToken

def mse (prediction target : Nat) : TensorM F D Nat :=
  ofHandles NativeTrainingRuntime.mseLoss prediction target

def crossEntropy (logits oneHotTarget : Nat) : TensorM F D Nat :=
  ofHandles NativeTrainingRuntime.crossEntropyLoss logits oneHotTarget

end Losses

/-- What a program does with its tensors, which it knows by the order they were made in. -/
inductive Request (D : Type) where
  | fromList (values : List D) (shape : DartShape) (dtype : Adoption.DType) (device : DartDevice)
  | full (shape : DartShape) (value : D) (dtype : Adoption.DType) (device : DartDevice)
  | zeros (shape : DartShape) (dtype : Adoption.DType) (device : DartDevice)
  | ones (shape : DartShape) (dtype : Adoption.DType) (device : DartDevice)
  | requiresGrad (tensor : Nat)
  | toDevice (tensor : Nat) (target : DartDevice)
  | withRequiresGrad (tensor : Nat) (value : Bool)
  | reshape (tensor : Nat) (newShape : DartShape)
  | transpose (tensor : Nat)
  | add (tensor other : Nat)
  | multiply (tensor other : Nat)
  | sum (tensor : Nat)
  | matmul (tensor other : Nat)
  | relu (tensor : Nat)
  | sigmoid (tensor : Nat)
  | tanh (tensor : Nat)
  | gelu (tensor : Nat)
  | silu (tensor : Nat)
  | swiglu (tensor : Nat)
  | backward (tensor : Nat)
  | grad (tensor : Nat)
  | toList (tensor : Nat)
  | dispose (tensor : Nat)
  | mse (prediction target : Nat)
  | crossEntropy (logits oneHotTarget : Nat)

inductive Answer (D : Type) where
  | tensor (tensor : Nat)
  | flag (value : Bool)
  | values (values : List D)
  | done
  deriving DecidableEq

def perform : Request D → TensorM F D (Answer D)
  | .fromList values shape dtype device =>
      return .tensor (← DartTensor.fromList values shape dtype device)
  | .full shape value dtype device => return .tensor (← DartTensor.full shape value dtype device)
  | .zeros shape dtype device => return .tensor (← DartTensor.zeros shape dtype device)
  | .ones shape dtype device => return .tensor (← DartTensor.ones shape dtype device)
  | .requiresGrad tensor => return .flag (← DartTensor.requiresGrad tensor)
  | .toDevice tensor target => return .tensor (← DartTensor.toDevice tensor target)
  | .withRequiresGrad tensor value => return .tensor (← DartTensor.withRequiresGrad tensor value)
  | .reshape tensor newShape => return .tensor (← DartTensor.reshape tensor newShape)
  | .transpose tensor => return .tensor (← DartTensor.transpose tensor)
  | .add tensor other => return .tensor (← DartTensor.add tensor other)
  | .multiply tensor other => return .tensor (← DartTensor.multiply tensor other)
  | .sum tensor => return .tensor (← DartTensor.sum tensor)
  | .matmul tensor other => return .tensor (← DartTensor.matmul tensor other)
  | .relu tensor => return .tensor (← DartTensor.relu tensor)
  | .sigmoid tensor => return .tensor (← DartTensor.sigmoid tensor)
  | .tanh tensor => return .tensor (← DartTensor.tanh tensor)
  | .gelu tensor => return .tensor (← DartTensor.gelu tensor)
  | .silu tensor => return .tensor (← DartTensor.silu tensor)
  | .swiglu tensor => return .tensor (← DartTensor.swiglu tensor)
  | .backward tensor => do
      DartTensor.backward tensor
      return .done
  | .grad tensor => return .tensor (← DartTensor.grad tensor)
  | .toList tensor => return .values (← DartTensor.toList tensor)
  | .dispose tensor => do
      DartTensor.dispose tensor
      return .done
  | .mse prediction target => return .tensor (← Losses.mse prediction target)
  | .crossEntropy logits oneHotTarget => return .tensor (← Losses.crossEntropy logits oneHotTarget)

def initialHost (fails callocFails : Nat → Bool) (files : FileSystem) : Host (Process F D) where
  native := ⟨Runtime.initial fails files, ⟨0, callocFails⟩⟩
  tensors := []
  events := []

def performed (s : Host (Process F D)) (request : Request D) : Host (Process F D) :=
  match perform request s with
  | .ok _ s' => s'
  | .error _ s' => s'

def answer (s : Host (Process F D)) (request : Request D) : Option (Answer D) :=
  match perform request s with
  | .ok a _ => some a
  | .error _ _ => none

def performAll (s : Host (Process F D)) : List (Request D) →
    List (Option (Answer D)) × Host (Process F D)
  | [] => ([], s)
  | request :: requests =>
      let (answers, s') := performAll (performed s request) requests
      (answer s request :: answers, s')

variable (F) in
def runProgram (fails callocFails : Nat → Bool) (files : FileSystem) (requests : List (Request D)) :
    List (Option (Answer D)) × Host (Process F D) :=
  performAll (initialHost fails callocFails files) requests

end Tensora.Dart
