import Tensora.Backends.CpuBackend

/-! The forward operations of the training core: transfers, activations, losses
and the linear layer's arithmetic. -/
namespace Tensora.Training
open CheckedLoop
open Scalar (less lessEq exp tanh erf log kInvSqrt2)
open Precision (widen narrow)

variable {F D : Type}

def transfer (tensor : TensorId) (device : Device) (deviceIndex : Int) : Mem F TensorId := do
  failIf (deviceIndex < 0)
    (invalidArgument "tensor_to_device: device index must be non-negative")
  failIf (device ≠ .cpu) (unsupported
    "tensor_to_device: requested accelerator is not available in the core-only build")
  failIf (deviceIndex ≠ 0) (invalidArgument "tensor_to_device: CPU device index must be zero")
  let out ← Autograd.cloneDetached tensor
  Autograd.recordUnary .identity tensor out
  return out

def withRequiresGrad (tensor : TensorId) (requiresGrad : Bool) : Mem F TensorId :=
  Autograd.cloneAsLeaf tensor requiresGrad

section Activations
variable [Scalar F]

def reluForward (x : F) : F := maximum 0 x

/-- Two branches on the sign, so that `exp` never overflows. -/
def sigmoidForward (value : F) : F :=
  if lessEq 0 value then
    let expValue := exp (-value)
    1 / (1 + expValue)
  else
    let expValue := exp value
    expValue / (1 + expValue)

def tanhForward (x : F) : F := tanh x

def geluForward (x : F) : F := half * x * (1 + erf (x * kInvSqrt2))

def siluForward (x : F) : F :=
  let sigmoid := 1 / (1 + exp (-x))
  x * sigmoid

/-- The operations `MakeActivation` accepts. -/
def bridgeActivation : Operation → Option (F → F)
  | .relu => some reluForward
  | .sigmoid => some sigmoidForward
  | .tanh => some tanhForward
  | _ => none

def mapKernel (forward : F → F) (input : List F) : Except Fault (List F) :=
  fill input.length fun index => do return forward (← load input index)

def makeActivation (tensor : TensorId) (operation : Operation) : Mem F TensorId := do
  let input ← Autograd.cpuValues tensor "activation"
  allocate
  match bridgeActivation operation with
  | none => throw (internalError "activation: unsupported operation")
  | some forward => do
      let values ← checked (mapKernel forward input)
      let out ← Autograd.makeCpuTensor (← deref tensor).shape values
      Autograd.recordUnary operation tensor out
      return out

def relu (tensor : TensorId) : Mem F TensorId := makeActivation tensor .relu
def sigmoid (tensor : TensorId) : Mem F TensorId := makeActivation tensor .sigmoid
def tanhOf (tensor : TensorId) : Mem F TensorId := makeActivation tensor .tanh

/-- `CpuUnary`: unlike `MakeActivation` it reads its operand in logical order. -/
def cpuUnary (tensor : TensorId) (operation : Operation) (operationName : String)
    (forward : F → F) : Mem F TensorId := do
  Autograd.ensureCpuFloat32 (← deref tensor) operationName
  let input ← Autograd.readLogicalCpuValues tensor operationName
  allocationGuard operationName allocate
  let values ← checked (mapKernel forward input)
  let out ← Autograd.makeCpuTensor (← deref tensor).shape values
  Autograd.recordUnary operation tensor out
  return out

def gelu (tensor : TensorId) : Mem F TensorId := cpuUnary tensor .gelu "tensor_gelu" geluForward
def silu (tensor : TensorId) : Mem F TensorId := cpuUnary tensor .silu "tensor_silu" siluForward

def swiGluKernel (rows width half : Nat) (input : List F) : Except Fault (List F) :=
  loop rows (List.replicate (rows * half) 0) fun values row => do
    let inputBase ← index row width 0
    let outputBase ← index row half 0
    loop half values fun values col => do
      let a ← load input (inputBase + col)
      let b ← load input (inputBase + (half + col))
      store values (outputBase + col) (siluForward a * b)

def swiGlu (tensor : TensorId) : Mem F TensorId := do
  let t ← deref tensor
  Autograd.ensureCpuFloat32 t "tensor_swiglu"
  match t.shape.dimensions.getLast? with
  | none => throw (invalidShape "tensor_swiglu: input must have rank at least one")
  | some width => do
      failIf (width = 0 ∨ width % 2 ≠ 0)
        (invalidShape "tensor_swiglu: final dimension must be positive and even")
      let half := width / 2
      let rows := t.numel / width
      let outputShape ← validatedShape ((t.shape.dimensions.dropLast ++ [half]).map Int.ofNat)
      let input ← Autograd.readLogicalCpuValues tensor "tensor_swiglu"
      allocationGuard "tensor_swiglu" allocate
      let values ← checked (swiGluKernel rows width half input)
      let out ← Autograd.makeCpuTensor outputShape values
      Autograd.recordUnary .swiGlu tensor out
      return out

end Activations

section SquaredError
variable [Arith F] [Arith D] [Precision F D]

variable (D) in
/-- The squared error is summed and divided in double precision. -/
def mseKernel (prediction target : List F) : Except Fault F := do
  let squaredError ← sumLoop prediction.length fun index => do
    let difference : D := widen (← load prediction index) - widen (← load target index)
    return difference * difference
  return narrow (squaredError / (prediction.length : D))

end SquaredError

section Losses
variable [Scalar F] [Scalar D] [Precision F D]

def makeScalar (value : F) : Mem F TensorId := do
  let scalar ← validatedShape []
  allocate
  Autograd.makeCpuTensor scalar [value]

variable (D) in
def mseLoss (prediction target : TensorId) : Mem F TensorId := do
  let p ← deref prediction
  let t ← deref target
  Autograd.ensureCpuFloat32 p "mse_loss"
  Autograd.ensureCpuFloat32 t "mse_loss"
  failIf (!sameShape p.shape t.shape)
    (invalidShape "mse_loss: prediction and target shapes must match")
  let predictionValues ← Autograd.cpuValues prediction "mse_loss"
  let targetValues ← Autograd.cpuValues target "mse_loss"
  let value ← checked (mseKernel D predictionValues targetValues)
  let out ← makeScalar value
  Autograd.recordBinary .mse prediction target out
  return out

def maxLogit (logits : List F) (row classes : Nat) : Except Fault F := do
  let first ← load logits (← index row classes 0)
  loop (classes - 1) first fun maxLogit i => do
    return maximum maxLogit (← load logits (← index row classes (i + 1)))

variable (D) in
def crossEntropyKernel (batch classes : Nat) (logits target : List F) : Except Fault F := do
  let total : D ← loop batch 0 fun total row => do
    let maxLogit ← maxLogit logits row classes
    let denominator : D ← sumLoop classes fun col => do
      return exp (widen ((← load logits (← index row classes col)) - maxLogit))
    let logDenominator := log denominator + widen maxLogit
    loop classes total fun total col => do
      let position ← index row classes col
      return total -
        widen (← load target position) * (widen (← load logits position) - logDenominator)
  return narrow (total / (batch : D))

variable (D) in
def crossEntropyLoss (logits oneHotTarget : TensorId) : Mem F TensorId := do
  let l ← deref logits
  let t ← deref oneHotTarget
  Autograd.ensureCpuFloat32 l "cross_entropy_loss"
  Autograd.ensureCpuFloat32 t "cross_entropy_loss"
  failIf (!sameShape l.shape t.shape)
    (invalidShape "cross_entropy_loss: logits and one-hot target shapes must match")
  match l.shape.dimensions with
  | [batch, classes] => do
      let logitsValues ← Autograd.cpuValues logits "cross_entropy_loss"
      let targetValues ← Autograd.cpuValues oneHotTarget "cross_entropy_loss"
      let value ← checked (crossEntropyKernel D batch classes logitsValues targetValues)
      let out ← makeScalar value
      Autograd.recordBinary .crossEntropy logits oneHotTarget out
      return out
  | _ => throw (invalidShape "cross_entropy_loss: initial contract requires rank-2 tensors")

end Losses

section Linear
variable [Arith F]

def biasKernel (rows cols : Nat) (matrix bias : List F) : Except Fault (List F) :=
  loop rows matrix fun values row =>
    loop cols values fun values col => do
      let position ← index row cols col
      store values position ((← load values position) + (← load bias col))

def addBias (matrix bias : TensorId) : Mem F TensorId := do
  let m ← deref matrix
  let b ← deref bias
  match m.shape.dimensions, b.shape.dimensions with
  | [rows, cols], [width] => do
      failIf (width ≠ cols) (internalError "linear_forward: bias width mismatch")
      let matrixValues ← Autograd.cpuValues matrix "linear_forward"
      let biasValues ← Autograd.cpuValues bias "linear_forward"
      allocate
      let values ← checked (biasKernel rows cols matrixValues biasValues)
      let out ← Autograd.makeCpuTensor m.shape values
      Autograd.recordBiasAdd matrix bias out
      return out
  | _, _ => throw (internalError "linear_forward: invalid internal bias shapes")

structure LinearState where
  inFeatures : Nat
  outFeatures : Nat
  useBias : Bool
  training : Bool
  weight : TensorId
  bias : Option TensorId
  deriving DecidableEq, Repr

def validateModuleInput (state : LinearState) (input : TensorId) : Mem F Unit := do
  let t ← deref input
  Autograd.ensureCpuFloat32 t "module_forward"
  match t.shape.dimensions with
  | [_, features] =>
      failIf (features ≠ state.inFeatures)
        (invalidShape "module_forward: input feature dimension does not match Linear")
  | _ => throw (invalidShape "module_forward: Linear currently requires rank-2 input")

def moduleForward (state : LinearState) (input : TensorId) : Mem F TensorId := do
  validateModuleInput state input
  let linear ← CpuBackend.matmul input state.weight
  match state.useBias, state.bias with
  | false, _ => return linear
  | true, some bias => addBias linear bias
  | true, none => throw .danglingReference

end Linear

end Tensora.Training
