import Tensora.Autograd.Backward
import Tensora.Inference.Export
import Tensora.Training.Checkpoint
import Tensora.Training.Optimizer
import Tensora.Training.StateTransaction

/-! The C ABI of the training core, one call at a time. A call that fails keeps
the state it failed in. -/
namespace Tensora.Api

variable {F D : Type}

/-- The ABI calls on tensors, modules and optimizers, with non-null pointers. -/
inductive Call (F D : Type) where
  | tensorFromF32 (data : List F) (dims : List Int)
  | tensorFullF32 (dims : List Int) (value : F)
  | tensorCopyToHostF32 (tensor capacity : Nat)
  | tensorToDevice (tensor : Nat) (device : Device) (deviceIndex : Int)
  | tensorReshape (tensor : Nat) (dims : List Int)
  | tensorTranspose2D (tensor : Nat)
  | tensorAdd (left right : Nat)
  | tensorMultiply (left right : Nat)
  | tensorSum (tensor : Nat)
  | tensorMatmul (left right : Nat)
  | tensorRetain (tensor : Nat)
  | tensorRelease (tensor : Nat)
  | manualSeed (seed : Nat)
  | tensorIdentity (tensor : Nat)
  | tensorCloneDetached (tensor : Nat)
  | tensorAssignMany (targets sources : Option (List Nat)) (count : Nat)
  | tensorWithRequiresGrad (tensor : Nat) (requiresGrad : Bool)
  | tensorRequiresGrad (tensor : Nat)
  | tensorSetRequiresGrad (tensor : Nat) (requiresGrad : Bool)
  | tensorBackward (tensor : Nat)
  | tensorGrad (tensor : Nat)
  | tensorRelu (tensor : Nat)
  | tensorSigmoid (tensor : Nat)
  | tensorTanh (tensor : Nat)
  | tensorGelu (tensor : Nat)
  | tensorSilu (tensor : Nat)
  | tensorSwiGlu (tensor : Nat)
  | mseLoss (prediction target : Nat)
  | crossEntropyLoss (logits oneHotTarget : Nat)
  | linearCreate (inFeatures outFeatures : Int) (useBias : Bool)
  | moduleForward (module input : Nat)
  | moduleSetTraining (module : Nat) (training : Bool)
  | moduleToDevice (module : Nat) (device : Device) (deviceIndex : Int)
  | moduleParameterCount (module : Nat)
  | moduleParameterAt (module index : Nat)
  | moduleBufferCount (module : Nat)
  | moduleBufferAt (module index : Nat)
  | moduleSave (module : Nat) (path : String)
  | moduleLoad (module : Nat) (path : String)
  | moduleRelease (module : Nat)
  | optimizerCreate (module : Nat) (kind : OptimizerKind) (hyper : Hyperparameters D)
  | optimizerZeroGrad (optimizer : Nat)
  | optimizerStep (optimizer : Nat)
  | optimizerRelease (optimizer : Nat)
  | createForTensors (parameters : Option (List Nat)) (kind : OptimizerKind)
      (hyper : Hyperparameters D)
  | parameterOptimizerZeroGrad (optimizer : Nat)
  | parameterOptimizerStep (optimizer : Nat)
  | parameterOptimizerRelease (optimizer : Nat)

/-- What a call writes through its output pointers. -/
inductive Reply (F : Type) where
  | done
  | handle (handle : Nat)
  | number (value : Nat)
  | flag (value : Bool)
  | values (values : List F)
  deriving DecidableEq, Repr

/-- `RunTrainingUnary` and the unary calls of the tensor ABI. -/
def runUnary (tensor : Nat) (operation : TensorId → Mem F TensorId) : Native F D (Reply F) := do
  let object ← lookupTensor tensor
  let result ← onMemory (operation object)
  return .handle (← insertTensor result)

/-- `RunTrainingBinary` and `RunBinaryOperation`. -/
def runBinary (left right : Nat) (operation : TensorId → TensorId → Mem F TensorId) :
    Native F D (Reply F) := do
  let leftObject ← lookupTensor left
  let rightObject ← lookupTensor right
  let result ← onMemory (operation leftObject rightObject)
  return .handle (← insertTensor result)

/-- `Dispatcher::ForTensors`, then the backend's function. -/
def dispatched (operation : TensorId → TensorId → Mem F TensorId) (left right : TensorId) :
    Mem F TensorId := do
  let l ← deref left
  let r ← deref right
  failIf (l.device ≠ r.device ∨ l.deviceIndex ≠ r.deviceIndex)
    (invalidArgument "dispatcher: input tensors must use the same device")
  failIf (l.device ≠ .cpu) (unsupported "dispatcher: requested device is not supported")
  operation left right

/-- `Dispatcher::ForTensor`, then the backend's function. -/
def dispatchedUnary (operation : TensorId → Mem F TensorId) (tensor : TensorId) :
    Mem F TensorId := do
  failIf ((← deref tensor).device ≠ .cpu)
    (unsupported "dispatcher: requested device is not supported")
  operation tensor

/-- A new handle for an object some other object owns. -/
def fetchAndInsert (fetch : Native F D TensorId) : Native F D (Reply F) := do
  let result ← fetch
  return .handle (← insertTensor result)

def tensorFromF32 (data : List F) (dims : List Int) : Native F D (Reply F) := do
  let shape ← onMemory (validatedShape dims)
  failIf (shape.numel ≠ data.length) (invalidArgument
    "tensor_from_f32: data length must equal validated shape element count")
  let result ← onMemory (CpuBackend.fromData shape data)
  return .handle (← insertTensor result)

def tensorFullF32 (dims : List Int) (value : F) : Native F D (Reply F) := do
  let shape ← onMemory (validatedShape dims)
  let result ← onMemory (CpuBackend.full shape value)
  return .handle (← insertTensor result)

def tensorReshape (tensor : Nat) (dims : List Int) : Native F D (Reply F) := do
  let shape ← onMemory (validatedShape dims)
  runUnary tensor (dispatchedUnary fun object => CpuBackend.reshape object shape)

def tensorCopyToHostF32 (tensor capacity : Nat) : Native F D (Reply F) := do
  let object ← lookupTensor tensor
  onMemory do
    let t ← deref object
    failIf (capacity < t.numel) (invalidArgument
      "tensor_copy_to_host_f32: output capacity is smaller than tensor")
    return .values (← t.copyToHostF32 capacity)

variable [Scalar F] [Scalar D] [Precision F D] [Training.FloatBits F]

def exec : Call F D → Native F D (Reply F)
  | .tensorFromF32 data dims => tensorFromF32 data dims
  | .tensorFullF32 dims value => tensorFullF32 dims value
  | .tensorCopyToHostF32 tensor capacity => tensorCopyToHostF32 tensor capacity
  | .tensorToDevice tensor device deviceIndex =>
      runUnary tensor fun object => Training.transfer object device deviceIndex
  | .tensorReshape tensor dims => tensorReshape tensor dims
  | .tensorTranspose2D tensor => runUnary tensor (dispatchedUnary CpuBackend.transpose2D)
  | .tensorAdd left right => runBinary left right (dispatched CpuBackend.add)
  | .tensorMultiply left right => runBinary left right (dispatched CpuBackend.multiply)
  | .tensorSum tensor => runUnary tensor (dispatchedUnary CpuBackend.sum)
  | .tensorMatmul left right => runBinary left right (dispatched CpuBackend.matmul)
  | .tensorRetain tensor => do
      onRegistry (HandleRegistry.retain tensor .tensor)
      return .done
  | .tensorRelease tensor => do
      onRegistry (HandleRegistry.release tensor .tensor)
      return .done
  | .manualSeed seed => do
      Training.manualSeed seed
      return .done
  | .tensorIdentity tensor => do
      let object ← lookupTensor tensor
      return .number (← onMemory (Training.tensorIdentity object))
  | .tensorCloneDetached tensor => runUnary tensor Training.cloneDetached
  | .tensorAssignMany targets sources count => do
      Training.assignMany targets sources count
      return .done
  | .tensorWithRequiresGrad tensor requiresGrad =>
      runUnary tensor fun object => Training.withRequiresGrad object requiresGrad
  | .tensorRequiresGrad tensor => do
      let object ← lookupTensor tensor
      return .flag (← onMemory (Autograd.requiresGrad object))
  | .tensorSetRequiresGrad tensor requiresGrad => do
      let object ← lookupTensor tensor
      onMemory (Training.setRequiresGrad object requiresGrad)
      return .done
  | .tensorBackward tensor => do
      let object ← lookupTensor tensor
      onMemory (Autograd.backward object)
      return .done
  | .tensorGrad tensor => runUnary tensor Autograd.gradientSnapshot
  | .tensorRelu tensor => runUnary tensor Training.relu
  | .tensorSigmoid tensor => runUnary tensor Training.sigmoid
  | .tensorTanh tensor => runUnary tensor Training.tanhOf
  | .tensorGelu tensor => runUnary tensor Training.gelu
  | .tensorSilu tensor => runUnary tensor Training.silu
  | .tensorSwiGlu tensor => runUnary tensor Training.swiGlu
  | .mseLoss prediction target => runBinary prediction target (Training.mseLoss D)
  | .crossEntropyLoss logits oneHotTarget =>
      runBinary logits oneHotTarget (Training.crossEntropyLoss D)
  | .linearCreate inFeatures outFeatures useBias => do
      return .handle (← Training.linearCreate inFeatures outFeatures useBias)
  | .moduleForward module input => do
      let object ← lookupTensor input
      fetchAndInsert (Training.forward module object)
  | .moduleSetTraining module training => do
      Training.moduleSetTraining module training
      return .done
  | .moduleToDevice module device deviceIndex => do
      Training.moduleToDevice module device deviceIndex
      return .done
  | .moduleParameterCount module => do
      return .number (← Training.moduleParameterCount module)
  | .moduleParameterAt module index => fetchAndInsert (Training.moduleParameterAt module index)
  | .moduleBufferCount module => do
      return .number (← Training.moduleBufferCount module)
  | .moduleBufferAt module index => fetchAndInsert (Training.moduleBufferAt module index)
  | .moduleSave module path => do
      Training.moduleSave module path
      return .done
  | .moduleLoad module path => do
      Training.moduleLoad module path
      return .done
  | .moduleRelease module => do
      onRegistry (HandleRegistry.release module .module)
      return .done
  | .optimizerCreate module kind hyper => do
      return .handle (← Training.createOptimizer module kind hyper)
  | .optimizerZeroGrad optimizer => do
      Training.optimizerZeroGrad optimizer
      return .done
  | .optimizerStep optimizer => do
      Training.optimizerStep optimizer
      return .done
  | .optimizerRelease optimizer => do
      onRegistry (HandleRegistry.release optimizer .optimizer)
      return .done
  | .createForTensors parameters kind hyper => do
      return .handle (← Training.createForTensors parameters kind hyper)
  | .parameterOptimizerZeroGrad optimizer => do
      Training.zeroGrad optimizer
      return .done
  | .parameterOptimizerStep optimizer => do
      Training.cpuStep optimizer
      return .done
  | .parameterOptimizerRelease optimizer => do
      onRegistry (HandleRegistry.release optimizer .parameterOptimizer)
      return .done

def after (s : Runtime F D) (call : Call F D) : Runtime F D :=
  match exec call s with
  | .ok _ s' => s'
  | .error _ s' => s'

def run (s : Runtime F D) (calls : List (Call F D)) : Runtime F D := calls.foldl after s

/-- A state some sequence of calls leads to, whatever allocations fail on the way. -/
def Reachable (s : Runtime F D) : Prop :=
  ∃ fails files calls, s = run (Runtime.initial fails files) calls

end Tensora.Api
