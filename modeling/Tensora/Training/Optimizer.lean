import Tensora.Training.Module

/-! The two optimizers of the core build: the one bound to a module and the one
over a list of tensors. Their update loops are the same code twice, so both are
`updateParameter` with the caller's way of reading a gradient. -/
namespace Tensora

def OptimizerKind.operation : OptimizerKind → String
  | .sgd => "sgd_create"
  | .adam => "adam_create"
  | .adamW => "adamw_create"

def OptimizerKind.tensorOperation : OptimizerKind → String
  | .sgd => "sgd_create_for_tensors"
  | .adam => "adam_create_for_tensors"
  | .adamW => "adamw_create_for_tensors"

def Moments.nextStep {F : Type} (moments : Moments F) : Moments F :=
  { moments with step := add64 moments.step 1 }

def Moments.setAt {F : Type} (moments : Moments F) (index : Nat) (first : List F)
    (second : Option (List F)) : Moments F :=
  { moments with
    firstMoment := moments.firstMoment.set index first
    secondMoment := match second with
      | some second => moments.secondMoment.set index second
      | none => moments.secondMoment }

namespace Training
open CheckedLoop
open Scalar (less lessEq isFinite sqrt pow)
open Precision (widen narrow)

variable {F D : Type}

section Validation
variable [Scalar D]

def validatePositiveFinite (value : D) (message : String) : Native F D Unit :=
  failIf (!isFinite value || lessEq value 0) (invalidArgument message)

def validateNonNegativeFinite (value : D) (message : String) : Native F D Unit :=
  failIf (!isFinite value || less value 0) (invalidArgument message)

def validateBeta (value : D) (message : String) : Native F D Unit :=
  failIf (!isFinite value || less value 0 || lessEq 1 value) (invalidArgument message)

/-- The checks of `CreateOptimizer`. -/
def validateHyperparameters (kind : OptimizerKind) (hyper : Hyperparameters D) :
    Native F D Unit := do
  let operation := kind.operation
  validatePositiveFinite hyper.learningRate
    (operation ++ ": learning_rate must be finite and positive")
  validateNonNegativeFinite hyper.weightDecay
    (operation ++ ": weight_decay must be finite and non-negative")
  match kind with
  | .sgd =>
      validateNonNegativeFinite hyper.momentum
        (operation ++ ": momentum must be finite and non-negative")
  | .adam | .adamW => do
      validateBeta hyper.beta1 (operation ++ ": beta1 must be finite in [0, 1)")
      validateBeta hyper.beta2 (operation ++ ": beta2 must be finite in [0, 1)")
      validatePositiveFinite hyper.epsilon (operation ++ ": epsilon must be finite and positive")

/-- The checks of `nn_v2_optimizer::Create`. -/
def validateTensorHyperparameters (kind : OptimizerKind) (hyper : Hyperparameters D) :
    Native F D Unit := do
  let operation := kind.tensorOperation
  validatePositiveFinite hyper.learningRate
    (operation ++ ": learning rate must be finite and positive")
  validateNonNegativeFinite hyper.weightDecay
    (operation ++ ": weight decay must be finite and non-negative")
  match kind with
  | .sgd =>
      validateNonNegativeFinite hyper.momentum
        (operation ++ ": momentum must be finite and non-negative")
  | .adam | .adamW => do
      validateBeta hyper.beta1 (operation ++ ": beta values must be finite in [0, 1)")
      validateBeta hyper.beta2 (operation ++ ": beta values must be finite in [0, 1)")
      validatePositiveFinite hyper.epsilon (operation ++ ": epsilon must be finite and positive")

end Validation

section Creation
variable [Zero F] [Scalar D]

/-- `count` vectors of zeros, one for each parameter. -/
def zeroMoments (sizes : List Nat) : Mem F (List (List F)) :=
  sizes.mapM fun size => do
    allocateFloats size
    return List.replicate size 0

def createOptimizer (module : Nat) (kind : OptimizerKind) (hyper : Hyperparameters D) :
    Native F D Nat := do
  validateHyperparameters kind hyper
  let (object, moduleState) ← lookupModule module
  allocationGuard (kind.operation) do
    onMemory allocate
    onMemory allocate
    let sizes ← onMemory (moduleState.parameters.mapM fun parameter => do
      return (← deref parameter).numel)
    onMemory allocate
    onMemory allocate
    let firstMoment ← onMemory (zeroMoments sizes)
    let secondMoment ←
      if kind = .sgd then pure [] else onMemory (zeroMoments sizes)
    let optimizer := (← get).optimizers.length
    modify fun s => { s with optimizers := s.optimizers ++ [{
      kind := kind
      module := object
      hyper := hyper
      moments := { step := 0, firstMoment := firstMoment, secondMoment := secondMoment } }] }
    insertHandle .optimizer optimizer

/-- One turn of the loop of `CollectParameters`: the pointers seen and the kept parameters. -/
def collectParameter (operation : String) (collected : List TensorId × List TensorId)
    (handle : Nat) : Native F D (List TensorId × List TensorId) := do
  let (seen, out) := collected
  let parameter ← lookupTensor handle
  onMemory allocate
  failIf (parameter ∈ seen) (invalidArgument (operation ++ ": duplicate parameter tensor"))
  if ← onMemory (Autograd.requiresGrad parameter) then do
    onMemory allocate
    return (parameter :: seen, out ++ [parameter])
  else return (parameter :: seen, out)

def collectParameters (handles : Option (List Nat)) (operation : String) :
    Native F D (List TensorId) := do
  match handles with
  | none | some [] =>
      throw (invalidArgument (operation ++ ": parameter collection must not be empty"))
  | some handles => do
      let (_, out) ← handles.foldlM (collectParameter operation) ([], [])
      failIf out.isEmpty
        (invalidArgument (operation ++ ": no trainable parameters remain after filtering"))
      return out

def initializeCpuMoments (parameters : List TensorId) (operation : String) :
    Mem F (List (List F) × List (List F)) :=
  allocationGuard operation do
    allocate
    allocate
    parameters.foldlM (fun (first, second) parameter => do
      let values ← Autograd.mutableCpuValues parameter operation
      allocateFloats values.length
      allocateFloats values.length
      return (first ++ [List.replicate values.length 0],
        second ++ [List.replicate values.length 0]))
      ([], [])

def createForTensors (handles : Option (List Nat)) (kind : OptimizerKind)
    (hyper : Hyperparameters D) : Native F D Nat := do
  let operation := kind.tensorOperation
  validateTensorHyperparameters kind hyper
  let parameters ← collectParameters handles operation
  onMemory (allocationGuard operation allocate)
  let (firstMoment, secondMoment) ← onMemory (initializeCpuMoments parameters operation)
  let optimizer := (← get).parameterOptimizers.length
  modify fun s => { s with parameterOptimizers := s.parameterOptimizers ++ [{
    kind := kind
    parameters := parameters
    hyper := hyper
    moments := { step := 0, firstMoment := firstMoment, secondMoment := secondMoment } }] }
  insertHandle .parameterOptimizer optimizer

end Creation

section Update
variable [Scalar F] [Scalar D] [Precision F D]

/-- With momentum, `first` is read and written; without, it is not touched. -/
def sgdKernel (hyper : Hyperparameters D) (values gradient first : List F) :
    Except Fault (List F × List F) :=
  loop values.length (values, first) fun (values, first) index => do
    let value ← load values index
    let gradValue : D := widen (← load gradient index) + hyper.weightDecay * widen value
    if less 0 hyper.momentum then do
      let moment : F := narrow (hyper.momentum * widen (← load first index) + gradValue)
      let first ← store first index moment
      let values ← store values index (narrow (widen value - hyper.learningRate * widen moment))
      return (values, first)
    else do
      let values ← store values index (narrow (widen value - hyper.learningRate * gradValue))
      return (values, first)

def adamElement (kind : OptimizerKind) (hyper : Hyperparameters D) (beta1Power beta2Power : D)
    (value gradient first second : F) : F × F × F :=
  let parameterValue : D :=
    if kind = .adamW ∧ less 0 hyper.weightDecay then
      widen value * (1 - hyper.learningRate * hyper.weightDecay)
    else widen value
  let gradValue : D :=
    if kind = .adam then widen gradient + hyper.weightDecay * widen value else widen gradient
  let firstValue := hyper.beta1 * widen first + (1 - hyper.beta1) * gradValue
  let secondValue := hyper.beta2 * widen second + (1 - hyper.beta2) * gradValue * gradValue
  let firstHat := firstValue / (1 - beta1Power)
  let secondHat := secondValue / (1 - beta2Power)
  (narrow (parameterValue - hyper.learningRate * firstHat / (sqrt secondHat + hyper.epsilon)),
    narrow firstValue, narrow secondValue)

def adamKernel (kind : OptimizerKind) (hyper : Hyperparameters D) (step : Nat)
    (values gradient first second : List F) : Except Fault (List F × List F × List F) :=
  let beta1Power := pow hyper.beta1 (step : D)
  let beta2Power := pow hyper.beta2 (step : D)
  loop values.length (values, first, second) fun (values, first, second) index => do
    let (value, moment1, moment2) :=
      adamElement kind hyper beta1Power beta2Power (← load values index) (← load gradient index)
        (← load first index) (← load second index)
    return (← store values index value, ← store first index moment1, ← store second index moment2)

def updateKernel (kind : OptimizerKind) (hyper : Hyperparameters D) (step : Nat)
    (values gradient first : List F) (second : Option (List F)) :
    Except Fault (List F × List F × Option (List F)) :=
  match kind with
  | .sgd => do
      let (values, first) ← sgdKernel hyper values gradient first
      return (values, first, second)
  | .adam | .adamW => do
      match second with
      | none => throw .outOfRange
      | some second => do
          let (values, first, second) ← adamKernel kind hyper step values gradient first second
          return (values, first, some second)

/-- The part of the loop body that works on memory: the parameter's new moments,
or nothing when it is skipped. -/
def updateParameter (kind : OptimizerKind) (hyper : Hyperparameters D) (operation : String)
    (readGradient : TensorId → String → Mem F (List F)) (step : Nat) (parameter : TensorId)
    (first : Option (List F)) (second : Option (List F)) :
    Mem F (Option (List F × Option (List F))) := do
  match (← deref parameter).gradient with
  | none => return none
  | some gradient => do
      let values ← Autograd.mutableCpuValues parameter operation
      let gradientValues ← readGradient gradient operation
      failIf (values.length ≠ gradientValues.length)
        (internalError (operation ++ ": gradient size mismatch"))
      match first with
      | none => throw (.fault .outOfRange)
      | some first => do
          let (values, first, second) ←
            checked (updateKernel kind hyper step values gradientValues first second)
          let t ← deref parameter
          mutateStorage t values
          incrementVersion t
          return some (first, second)

end Update

section Steps

def getOptimizer (object : Nat) : Native F D (OptimizerState F D) := do
  match (← get).optimizers[object]? with
  | some state => pure state
  | none => throw .danglingReference

def setMoments (object : Nat) (f : Moments F → Moments F) : Native F D Unit :=
  modify fun s => { s with
    optimizers := s.optimizers.modify object fun state =>
      { state with moments := f state.moments } }

def getParameterOptimizer (object : Nat) : Native F D (ParameterOptimizerState F D) := do
  match (← get).parameterOptimizers[object]? with
  | some state => pure state
  | none => throw .danglingReference

def setParameterMoments (object : Nat) (f : Moments F → Moments F) : Native F D Unit :=
  modify fun s => { s with
    parameterOptimizers := s.parameterOptimizers.modify object fun state =>
      { state with moments := f state.moments } }

def moduleOf (state : OptimizerState F D) : Native F D LinearState := do
  match (← get).modules[state.module]? with
  | some module => pure module
  | none => throw .danglingReference

def optimizerZeroGrad (optimizer : Nat) : Native F D Unit := do
  let (_, state) ← lookupOptimizer optimizer
  let module ← moduleOf state
  onMemory allocate
  module.parameters.forM fun parameter => onMemory (Autograd.clearGradient parameter)

def zeroGrad (optimizer : Nat) : Native F D Unit := do
  let (_, state) ← lookupParameterOptimizer optimizer
  state.parameters.forM fun parameter => onMemory (Autograd.clearGradient parameter)

variable [Scalar F] [Scalar D] [Precision F D]

/-- The loop body of `OptimizerStep`. -/
def optimizerStepAt (object : Nat) (parameter : TensorId) (index : Nat) : Native F D Unit := do
  let state ← getOptimizer object
  let moments := state.moments
  let updated ← onMemory (updateParameter state.kind state.hyper "optimizer_step"
    Autograd.cpuValues moments.step parameter moments.firstMoment[index]?
    moments.secondMoment[index]?)
  match updated with
  | none => pure ()
  | some (first, second) => setMoments object fun moments => moments.setAt index first second

/-- The step counter is advanced before the first parameter is looked at. -/
def optimizerStep (optimizer : Nat) : Native F D Unit := do
  let (object, state) ← lookupOptimizer optimizer
  let module ← moduleOf state
  onMemory allocate
  setMoments object Moments.nextStep
  module.parameters.zipIdx.forM fun (parameter, index) => optimizerStepAt object parameter index

/-- The loop body of `CpuStep`. -/
def cpuStepAt (object : Nat) (parameter : TensorId) (index : Nat) : Native F D Unit := do
  let state ← getParameterOptimizer object
  let moments := state.moments
  let updated ← onMemory (updateParameter state.kind state.hyper "parameter_optimizer_step"
    Autograd.readLogicalCpuValues moments.step parameter moments.firstMoment[index]?
    moments.secondMoment[index]?)
  match updated with
  | none => pure ()
  | some (first, second) =>
      setParameterMoments object fun moments => moments.setAt index first second

def cpuStep (optimizer : Nat) : Native F D Unit := do
  let (object, state) ← lookupParameterOptimizer optimizer
  setParameterMoments object Moments.nextStep
  state.parameters.zipIdx.forM fun (parameter, index) => cpuStepAt object parameter index

end Steps

end Training

end Tensora
