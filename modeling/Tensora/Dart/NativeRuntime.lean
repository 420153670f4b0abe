import Tensora.Api.Metadata
import Tensora.Tensor.HandleAdoption

/-! `NativeRuntime` and `NativeTrainingRuntime`, the Dart classes that call the C ABI. -/
namespace Tensora.Dart
open Adoption (Handle Thrown DartDevice)

variable {F D α : Type}

/-- The native library, and the native memory Dart's own `calloc` takes. -/
structure Process (F D : Type) where
  runtime : Runtime F D
  calloc : Allocator

abbrev DartM (F D : Type) := EStateM Thrown (Process F D)

/-- One `calloc`. What it returns is freed in a `finally` and does not outlive its function. -/
def calloc : DartM F D Unit := fun p =>
  let p' := { p with calloc := { p.calloc with count := p.calloc.count + 1 } }
  if p.calloc.fails p.calloc.count then
    .error (.other "ArgumentError: Could not allocate bytes.") p'
  else .ok () p'

def statusOf : StatusCode → Nat
  | .invalidArgument => 1
  | .invalidShape => 2
  | .outOfMemory => 3
  | .unsupported => 4
  | .invalidHandle => 5
  | .internalError => 6
  | .modelError => 7

/-- `AbiGuard`: the status, and the message left for `ts_last_error_message`. The text of a
`std::length_error` is the library's own. Nothing is promised after a fault. -/
def abiGuard (abi : String) : Failure → Option (Nat × String)
  | .status code message =>
      some (statusOf code, if message.isEmpty then abi ++ ": failed" else message)
  | .badAlloc => some (statusOf .outOfMemory, abi ++ ": native allocation failed")
  | .lengthError => some (statusOf .internalError, abi ++ ": length_error")
  | .exception what => some (statusOf .internalError, abi ++ ": " ++ what)
  | .fault _ | .danglingReference | .recursionLimit => none

/-- `TensoraException.toString`. -/
def tensoraException (runtimeType message operation : String) : Thrown :=
  .other (runtimeType ++ "(" ++ operation ++ "): " ++ message)

/-- `ArgumentError.value`, without the value it shows. -/
def argumentError (name message : String) : Thrown :=
  .other ("Invalid argument (" ++ name ++ "): " ++ message)

/-- The `switch` of `_check`. -/
def exceptionOf (operation : String) : Nat × String → Thrown
  | (1, message) => tensoraException "InvalidArgumentException" message operation
  | (2, message) => tensoraException "InvalidShapeException" message operation
  | (3, message) => tensoraException "OutOfMemoryException" message operation
  | (4, message) => tensoraException "UnsupportedOperationException" message operation
  | (5, message) => .nativeRuntime message operation
  | (6, message) => .nativeRuntime message operation
  | (status, message) =>
      .nativeRuntime ("Unknown native status " ++ toString status ++ ": " ++ message) operation

/-- A call through the ABI and `_check` of its status. -/
def check (operation abi : String) (call : Native F D α) : DartM F D α := fun p =>
  match call p.runtime with
  | .ok a s => .ok a { p with runtime := s }
  | .error failure s =>
      .error (((abiGuard abi failure).map (exceptionOf operation)).getD (.other "undefined"))
        { p with runtime := s }

def outputValue : Api.Reply F → Handle
  | .handle handle => handle
  | _ => 0

/-- `_newHandle` of `NativeRuntime`, `_newObjectHandle` of `NativeTrainingRuntime`. -/
def newHandleOr (null operation abi : String) (call : Native F D (Api.Reply F)) :
    DartM F D Handle := do
  calloc
  let reply ← check operation abi call
  if outputValue reply = 0 then throw (.nativeRuntime null operation)
  return outputValue reply

def withDimensions (shape : DartShape) (operation : List Int → DartM F D α) : DartM F D α := do
  if shape.dimensions.length = 0 then operation []
  else do
    calloc
    operation (shape.dimensions.map Int64.toInt)

/-- An index crosses the ABI as an `Int32`. -/
def int32 (index : Int64) : Int := index.toInt32.toInt

namespace NativeRuntime

def newHandle (operation abi : String) (call : Native F D (Api.Reply F)) : DartM F D Handle :=
  newHandleOr "Native runtime returned a null tensor handle on success." operation abi call

/-- `List<int>.generate` over the dimensions, and the `Shape` of them. -/
def shapeOf (dims : List Nat) : DartM F D DartShape :=
  match DartShape.make (dims.map Int64.ofNat) with
  | .ok shape => return shape
  | .error error => throw (.nativeRuntime ("Native runtime returned invalid shape metadata: "
      ++ "Invalid argument (" ++ error.name ++ "): " ++ error.message) "tensor.shape")

def shape (handle : Handle) : DartM F D DartShape := do
  calloc
  let rank ← check "tensor.rank" "tensor_rank" (Api.tensorRank handle)
  if rank > DartShape.maxRank then
    throw (.nativeRuntime ("Native runtime returned rank " ++ toString rank ++ " above 32.")
      "tensor.shape")
  if rank = 0 then do
    calloc
    let (returnedRank, _) ← check "tensor.shape" "tensor_shape" (Api.tensorShape handle 0)
    if returnedRank ≠ 0 then
      throw (.nativeRuntime "Native tensor rank changed while reading metadata." "tensor.shape")
    shapeOf []
  else do
    calloc
    calloc
    let (returnedRank, dims) ← check "tensor.shape" "tensor_shape" (Api.tensorShape handle rank)
    if returnedRank ≠ rank then
      throw (.nativeRuntime "Native tensor rank changed while reading metadata." "tensor.shape")
    shapeOf dims

def dtype (handle : Handle) : DartM F D Adoption.DType := do
  calloc
  let code ← check "tensor.dtype" "tensor_dtype" (Api.tensorDType handle)
  if code = 1 then return .float32
  throw (.nativeRuntime ("Native runtime returned unknown dtype code " ++ toString code ++ ".")
    "tensor.dtype")

/-- The `switch` of `device`. -/
def deviceOf (kind : Nat) (index : Int) : DartM F D DartDevice :=
  let invalid (name : String) : DartM F D DartDevice :=
    throw (.nativeRuntime ("Native " ++ name ++ " tensor returned invalid device index "
      ++ toString index ++ ".") "tensor.device")
  match kind with
  | 1 => if index = 0 then return ⟨.cpu, 0⟩ else invalid "CPU"
  | 2 => if index ≥ 0 then return ⟨.cuda, Int64.ofInt index⟩ else invalid "CUDA"
  | 3 => if index = 0 then return ⟨.mps, 0⟩ else invalid "MPS"
  | 4 => if index ≥ 0 then return ⟨.xpu, Int64.ofInt index⟩ else invalid "XPU"
  | 5 => if index ≥ 0 then return ⟨.hip, Int64.ofInt index⟩ else invalid "HIP"
  | code => throw (.nativeRuntime ("Native runtime returned unknown device code "
      ++ toString code ++ ".") "tensor.device")

def device (handle : Handle) : DartM F D DartDevice := do
  calloc
  calloc
  let kind ← check "tensor.device" "tensor_device" (Api.tensorDevice handle)
  let index ← check "tensor.deviceIndex" "tensor_device_index" (Api.tensorDeviceIndex handle)
  deviceOf kind index

def numel (handle : Handle) : DartM F D Int64 := do
  calloc
  return Int64.ofNat (← check "tensor.numel" "tensor_numel" (Api.tensorNumel handle))

section Calls
variable [Scalar F] [Scalar D] [Precision F D] [Training.FloatBits F]
open Api (exec)

def createFromList (values : List D) (shape : DartShape) : DartM F D Handle := do
  calloc
  withDimensions shape fun dims =>
    newHandle "tensor.fromList" "tensor_from_f32"
      (exec (.tensorFromF32 (values.map Precision.narrow) dims))

def full (shape : DartShape) (value : D) : DartM F D Handle :=
  withDimensions shape fun dims =>
    newHandle "tensor.full" "tensor_full_f32" (exec (.tensorFullF32 dims (Precision.narrow value)))

def toDevice (device : DartDevice) (handle : Handle) : DartM F D Handle :=
  newHandle "tensor.to" "tensor_to_device"
    (exec (.tensorToDevice handle device.kind (int32 device.index)))

def reshape (shape : DartShape) (handle : Handle) : DartM F D Handle :=
  withDimensions shape fun dims =>
    newHandle "tensor.reshape" "tensor_reshape" (exec (.tensorReshape handle dims))

def transpose2D (handle : Handle) : DartM F D Handle :=
  newHandle "tensor.transpose" "tensor_transpose2d" (exec (.tensorTranspose2D handle))

def add (left right : Handle) : DartM F D Handle :=
  newHandle "tensor.add" "tensor_add" (exec (.tensorAdd left right))

def multiply (left right : Handle) : DartM F D Handle :=
  newHandle "tensor.multiply" "tensor_multiply" (exec (.tensorMultiply left right))

def sum (handle : Handle) : DartM F D Handle :=
  newHandle "tensor.sum" "tensor_sum" (exec (.tensorSum handle))

def matmul (left right : Handle) : DartM F D Handle :=
  newHandle "tensor.matmul" "tensor_matmul" (exec (.tensorMatmul left right))

def copied : Api.Reply F → List F
  | .values values => values
  | _ => []

def copyToHost (handle : Handle) (numel : Int64) : DartM F D (List D) := do
  calloc
  calloc
  let reply ← check "tensor.toList" "tensor_copy_to_host_f32"
    (exec (.tensorCopyToHostF32 handle numel.toInt.toNat))
  if (copied reply).length ≠ numel.toInt.toNat then
    throw (.nativeRuntime ("Native copy wrote " ++ toString (copied reply).length
      ++ " elements; expected " ++ toString numel ++ ".") "tensor.toList")
  return (copied reply).map Precision.widen

def release (handle : Handle) : DartM F D (Api.Reply F) :=
  check "tensor.dispose" "tensor_release" (exec (.tensorRelease handle))

end Calls

end NativeRuntime

namespace NativeTrainingRuntime

variable [Scalar F] [Scalar D] [Precision F D] [Training.FloatBits F]
open Api (exec Call)

def newObjectHandle (operation abi : String) (call : Call F D) : DartM F D Handle :=
  newHandleOr "Native runtime returned a null handle on success." operation abi (exec call)

def cloneDetached (tensor : Handle) : DartM F D Handle :=
  newObjectHandle "tensor.cloneDetached" "tensor_clone_detached" (.tensorCloneDetached tensor)

def withRequiresGrad (requiresGrad : Bool) (tensor : Handle) : DartM F D Handle :=
  newObjectHandle "tensor.withRequiresGrad" "tensor_with_requires_grad"
    (.tensorWithRequiresGrad tensor requiresGrad)

def outputFlag : Api.Reply F → Bool
  | .flag value => value
  | _ => false

def requiresGrad (tensor : Handle) : DartM F D Bool := do
  calloc
  return outputFlag (← check "tensor.requiresGrad" "tensor_requires_grad"
    (exec (.tensorRequiresGrad tensor)))

def backward (tensor : Handle) : DartM F D (Api.Reply F) :=
  check "tensor.backward" "tensor_backward" (exec (.tensorBackward tensor))

def grad (tensor : Handle) : DartM F D Handle :=
  newObjectHandle "tensor.grad" "tensor_grad" (.tensorGrad tensor)

def relu (tensor : Handle) : DartM F D Handle :=
  newObjectHandle "tensor.relu" "tensor_relu" (.tensorRelu tensor)

def sigmoid (tensor : Handle) : DartM F D Handle :=
  newObjectHandle "tensor.sigmoid" "tensor_sigmoid" (.tensorSigmoid tensor)

def tanh (tensor : Handle) : DartM F D Handle :=
  newObjectHandle "tensor.tanh" "tensor_tanh" (.tensorTanh tensor)

def gelu (tensor : Handle) : DartM F D Handle :=
  newObjectHandle "tensor.gelu" "tensor_gelu" (.tensorGelu tensor)

def silu (tensor : Handle) : DartM F D Handle :=
  newObjectHandle "tensor.silu" "tensor_silu" (.tensorSilu tensor)

def swiglu (tensor : Handle) : DartM F D Handle :=
  newObjectHandle "tensor.swiglu" "tensor_swiglu" (.tensorSwiGlu tensor)

def mseLoss (prediction target : Handle) : DartM F D Handle :=
  newObjectHandle "loss.mse" "mse_loss" (.mseLoss prediction target)

def crossEntropyLoss (logits target : Handle) : DartM F D Handle :=
  newObjectHandle "loss.crossEntropy" "cross_entropy_loss" (.crossEntropyLoss logits target)

def checkCall (operation abi : String) (call : Call F D) : DartM F D Unit := do
  let _ ← check operation abi (exec call)

def manualSeed (seed : Int64) : DartM F D Unit := do
  if seed < 0 then throw (argumentError "seed" "must be non-negative")
  checkCall "training.manualSeed" "manual_seed" (.manualSeed seed.toInt.toNat)

def outputNumber : Api.Reply F → Nat
  | .number value => value
  | _ => 0

def tensorIdentity (tensor : Handle) : DartM F D Nat := do
  calloc
  let reply ← check "tensor.identity" "tensor_identity" (exec (.tensorIdentity tensor))
  if outputNumber reply = 0 then
    throw (.nativeRuntime "Native runtime returned identity 0 on success." "tensor.identity")
  return outputNumber reply

def assignMany (targets sources : List Handle) : DartM F D Unit := do
  if targets.length ≠ sources.length then
    throw (.other "Tensor state assignment requires equal target and source counts.")
  if targets.isEmpty then return
  calloc
  calloc
  checkCall "tensor.assignMany" "tensor_assign_many"
    (.tensorAssignMany (some targets) (some sources) targets.length)

def setRequiresGrad (tensor : Handle) (requiresGrad : Bool) : DartM F D Unit :=
  checkCall "tensor.setRequiresGrad" "tensor_set_requires_grad"
    (.tensorSetRequiresGrad tensor requiresGrad)

def createLinear (inFeatures outFeatures : Int64) (bias : Bool) : DartM F D Handle := do
  if inFeatures ≤ 0 then throw (argumentError "inFeatures" "must be positive")
  if outFeatures ≤ 0 then throw (argumentError "outFeatures" "must be positive")
  newObjectHandle "linear.create" "linear_create"
    (.linearCreate inFeatures.toInt outFeatures.toInt bias)

def moduleForward (module input : Handle) : DartM F D Handle :=
  newObjectHandle "module.forward" "module_forward" (.moduleForward module input)

def moduleSetTraining (module : Handle) (training : Bool) : DartM F D Unit :=
  checkCall "module.setTraining" "module_set_training" (.moduleSetTraining module training)

def moduleToDevice (module : Handle) (device : DartDevice) : DartM F D Unit :=
  checkCall "module.to" "module_to_device"
    (.moduleToDevice module device.kind (int32 device.index))

def moduleCount (operation abi : String) (call : Call F D) : DartM F D Nat := do
  calloc
  return outputNumber (← check operation abi (exec call))

def moduleParameterCount (module : Handle) : DartM F D Nat :=
  moduleCount "module.parameterCount" "module_parameter_count" (.moduleParameterCount module)

def moduleBufferCount (module : Handle) : DartM F D Nat :=
  moduleCount "module.bufferCount" "module_buffer_count" (.moduleBufferCount module)

def moduleParameterAt (module : Handle) (index : Nat) : DartM F D Handle :=
  newObjectHandle "module.parameterAt" "module_parameter_at" (.moduleParameterAt module index)

def moduleBufferAt (module : Handle) (index : Nat) : DartM F D Handle :=
  newObjectHandle "module.bufferAt" "module_buffer_at" (.moduleBufferAt module index)

/-- The characters `String.trim` takes away. -/
def isWhitespace (c : Char) : Bool :=
  (9 ≤ c.toNat ∧ c.toNat ≤ 13) ∨ (0x2000 ≤ c.toNat ∧ c.toNat ≤ 0x200a) ∨
    c.toNat ∈ [0x20, 0x85, 0xa0, 0x1680, 0x2028, 0x2029, 0x202f, 0x205f, 0x3000, 0xfeff]

def withPath (path : String) (operation abi : String) (call : Call F D) : DartM F D Unit := do
  if path.toList.all isWhitespace then throw (argumentError "path" "must not be empty")
  -- `toNativeUtf8`
  calloc
  checkCall operation abi call

def moduleSave (module : Handle) (path : String) : DartM F D Unit :=
  withPath path "module.save" "module_save" (.moduleSave module path)

def moduleLoad (module : Handle) (path : String) : DartM F D Unit :=
  withPath path "module.load" "module_load" (.moduleLoad module path)

def moduleRelease (module : Handle) : DartM F D Unit :=
  checkCall "module.dispose" "module_release" (.moduleRelease module)

def createSgd (module : Handle) (hyper : Hyperparameters D) : DartM F D Handle :=
  newObjectHandle "optimizer.sgd" "sgd_create" (.optimizerCreate module .sgd hyper)

def createAdam (module : Handle) (hyper : Hyperparameters D) (decoupled : Bool) :
    DartM F D Handle :=
  if decoupled then
    newObjectHandle "optimizer.adamW" "adamw_create" (.optimizerCreate module .adamW hyper)
  else newObjectHandle "optimizer.adam" "adam_create" (.optimizerCreate module .adam hyper)

def withTensorHandles (handles : List Handle) (operation abi : String) (kind : OptimizerKind)
    (hyper : Hyperparameters D) : DartM F D Handle := do
  if handles.isEmpty then throw (argumentError "handles" "must not be empty")
  calloc
  newObjectHandle operation abi (.createForTensors (some handles) kind hyper)

def createParameterSgd (parameterHandles : List Handle) (hyper : Hyperparameters D) :
    DartM F D Handle :=
  withTensorHandles parameterHandles "optimizer.parameterSgd" "sgd_create_for_tensors" .sgd hyper

def createParameterAdam (parameterHandles : List Handle) (hyper : Hyperparameters D)
    (decoupled : Bool) : DartM F D Handle :=
  if decoupled then withTensorHandles parameterHandles "optimizer.parameterAdamW"
    "adamw_create_for_tensors" .adamW hyper
  else withTensorHandles parameterHandles "optimizer.parameterAdam"
    "adam_create_for_tensors" .adam hyper

def optimizerZeroGrad (optimizer : Handle) : DartM F D Unit :=
  checkCall "optimizer.zeroGrad" "optimizer_zero_grad" (.optimizerZeroGrad optimizer)

def optimizerStep (optimizer : Handle) : DartM F D Unit :=
  checkCall "optimizer.step" "optimizer_step" (.optimizerStep optimizer)

def optimizerRelease (optimizer : Handle) : DartM F D Unit :=
  checkCall "optimizer.dispose" "optimizer_release" (.optimizerRelease optimizer)

def parameterOptimizerZeroGrad (optimizer : Handle) : DartM F D Unit :=
  checkCall "optimizer.parameterZeroGrad" "parameter_optimizer_zero_grad"
    (.parameterOptimizerZeroGrad optimizer)

def parameterOptimizerStep (optimizer : Handle) : DartM F D Unit :=
  checkCall "optimizer.parameterStep" "parameter_optimizer_step"
    (.parameterOptimizerStep optimizer)

def parameterOptimizerRelease (optimizer : Handle) : DartM F D Unit :=
  checkCall "optimizer.parameterDispose" "parameter_optimizer_release"
    (.parameterOptimizerRelease optimizer)

end NativeTrainingRuntime

end Tensora.Dart
