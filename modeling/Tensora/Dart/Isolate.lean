import Tensora.Dart.Tensor
import Tensora.Training.CreateSpecs

/-! The other Dart objects of an isolate: modules and optimizers, which own native handles of
their own, and parameters, which own tensors. -/
namespace Tensora.Dart
open Adoption (Handle Thrown DartDevice Host onNative)
open Training (positiveFinite nonNegativeFinite betaFinite)

variable {F D α : Type}

inductive OwnerClass where
  | module
  | optimizer
  | parameterOptimizer
  deriving DecidableEq

structure Owner where
  handle : Handle
  disposed : Bool
  attached : Bool

def Owner.detached (_ : Owner) : Owner := ⟨0, true, false⟩

structure Parameter where
  tensor : Nat
  identity : Nat
  disposed : Bool

/-- The tensors with the native library, the objects of each class, and the parameters. -/
structure Isolate (F D : Type) where
  host : Host (Process F D)
  owners : OwnerClass → List Owner
  parameters : List Parameter

abbrev IsolateM (F D : Type) := EStateM Thrown (Isolate F D)

def onHost (x : TensorM F D α) : IsolateM F D α := fun s =>
  match x s.host with
  | .ok a host => .ok a { s with host := host }
  | .error thrown host => .error thrown { s with host := host }

def onLibrary (x : DartM F D α) : IsolateM F D α := onHost (onNative x)

def setOwners (owners : OwnerClass → List Owner) (kind : OwnerClass) (objects : List Owner) :
    OwnerClass → List Owner :=
  fun k => if k = kind then objects else owners k

variable [Scalar F] [Scalar D] [Precision F D] [Training.FloatBits F]

def OwnerClass.type : OwnerClass → HandleType
  | .module => .module
  | .optimizer => .optimizer
  | .parameterOptimizer => .parameterOptimizer

def OwnerClass.release (kind : OwnerClass) (handle : Handle) : DartM F D Unit :=
  match kind with
  | .module => NativeTrainingRuntime.moduleRelease handle
  | .optimizer => NativeTrainingRuntime.optimizerRelease handle
  | .parameterOptimizer => NativeTrainingRuntime.parameterOptimizerRelease handle

/-- What `_ensureLive` of each class throws. -/
def OwnerClass.disposedError (kind : OwnerClass) (operation : String) : Thrown :=
  match kind with
  | .module => tensoraException "DisposedTensorException" "Module has already been disposed."
      ("module." ++ operation)
  | .optimizer => .nativeRuntime "Optimizer has already been disposed."
      ("optimizer." ++ operation)
  | .parameterOptimizer =>
      .stateError ("Parameter optimizer has already been disposed: " ++ operation)

namespace Owner

def ensureLive (kind : OwnerClass) (operation : String) (object : Nat) : IsolateM F D Handle := do
  match ((← get).owners kind)[object]? with
  | none => throw (.rangeError object)
  | some owner => do
      if owner.disposed then throw (kind.disposedError operation)
      return owner.handle

def create (kind : OwnerClass) (handle : Handle) : IsolateM F D Nat := do
  let s ← get
  modify fun s =>
    { s with owners := setOwners s.owners kind (s.owners kind ++ [⟨handle, false, true⟩]) }
  return (s.owners kind).length

def dispose (kind : OwnerClass) (object : Nat) : IsolateM F D Unit := do
  match ((← get).owners kind)[object]? with
  | none => throw (.rangeError object)
  | some owner => do
      if owner.disposed then return
      onLibrary (kind.release owner.handle)
      modify fun s =>
        { s with owners := setOwners s.owners kind ((s.owners kind).set object owner.detached) }

/-- The finalizer of an object that nothing refers to any more. It ignores the status. -/
def finalize (kind : OwnerClass) (object : Nat) : IsolateM F D Unit := do
  match ((← get).owners kind)[object]? with
  | none => return
  | some owner => do
      if owner.attached then
        tryCatch (onLibrary (kind.release owner.handle)) fun _ => return
        modify fun s =>
          { s with owners := setOwners s.owners kind ((s.owners kind).set object owner.detached) }

end Owner

def DartTensor.finalize (tensor : Nat) : TensorM F D Unit := do
  match (← get).tensors[tensor]? with
  | none => return
  | some wrapper => do
      if wrapper.attached then
        runtime.releaseFromFinalizer wrapper.handle
        modify fun s => { s with tensors := s.tensors.set tensor wrapper.detached }

namespace Linear

def create (inFeatures outFeatures : Int64) (bias : Bool) : IsolateM F D Nat := do
  Owner.create .module (← onLibrary
    (NativeTrainingRuntime.createLinear inFeatures outFeatures bias))

end Linear

namespace Module
open Owner (ensureLive)

/-- `Module.call`. -/
def call (module input : Nat) : IsolateM F D Nat := do
  let handle ← ensureLive .module "forward" module
  let inputHandle ← onHost (DartTensor.nativeHandle input)
  let output ← onLibrary (NativeTrainingRuntime.moduleForward handle inputHandle)
  onHost (runtime.adoptNativeHandleForRuntime output .nativeTensorAdoptionToken)

def train (module : Nat) : IsolateM F D Unit := do
  onLibrary (NativeTrainingRuntime.moduleSetTraining (← ensureLive .module "train" module) true)

def eval (module : Nat) : IsolateM F D Unit := do
  onLibrary (NativeTrainingRuntime.moduleSetTraining (← ensureLive .module "eval" module) false)

/-- `Module.to`. -/
def toDevice (module : Nat) (device : DartDevice) : IsolateM F D Unit := do
  onLibrary (NativeTrainingRuntime.moduleToDevice (← ensureLive .module "to" module) device)

def parameters (module : Nat) : IsolateM F D (List Nat) := do
  let handle ← ensureLive .module "parameters" module
  let count ← onLibrary (NativeTrainingRuntime.moduleParameterCount handle)
  onHost (runtime.collectModuleTensors count (NativeTrainingRuntime.moduleParameterAt handle))

def buffers (module : Nat) : IsolateM F D (List Nat) := do
  let handle ← ensureLive .module "buffers" module
  let count ← onLibrary (NativeTrainingRuntime.moduleBufferCount handle)
  onHost (runtime.collectModuleTensors count (NativeTrainingRuntime.moduleBufferAt handle))

def save (module : Nat) (path : String) : IsolateM F D Unit := do
  onLibrary (NativeTrainingRuntime.moduleSave (← ensureLive .module "save" module) path)

def load (module : Nat) (path : String) : IsolateM F D Unit := do
  onLibrary (NativeTrainingRuntime.moduleLoad (← ensureLive .module "load" module) path)

end Module

namespace Optimizer
open Owner (ensureLive)

def validatePositiveFinite (value : D) (name : String) : IsolateM F D Unit := do
  if !positiveFinite value then throw (argumentError name "must be finite and positive")

def validateNonNegativeFinite (value : D) (name : String) : IsolateM F D Unit := do
  if !nonNegativeFinite value then throw (argumentError name "must be finite and non-negative")

def validateBeta (value : D) (name : String) : IsolateM F D Unit := do
  if !betaFinite value then throw (argumentError name "must be finite in [0, 1)")

/-- The factory of `SGD`. -/
def sgd (module : Nat) (hyper : Hyperparameters D) : IsolateM F D Nat := do
  let handle ← ensureLive .module "optimizer" module
  validatePositiveFinite hyper.learningRate "learningRate"
  validateNonNegativeFinite hyper.momentum "momentum"
  validateNonNegativeFinite hyper.weightDecay "weightDecay"
  Owner.create .optimizer (← onLibrary (NativeTrainingRuntime.createSgd handle hyper))

/-- The factories of `Adam` and, decoupled, `AdamW`. -/
def adam (module : Nat) (hyper : Hyperparameters D) (decoupled : Bool) : IsolateM F D Nat := do
  let handle ← ensureLive .module "optimizer" module
  validatePositiveFinite hyper.learningRate "learningRate"
  validateBeta hyper.beta1 "beta1"
  validateBeta hyper.beta2 "beta2"
  validatePositiveFinite hyper.epsilon "epsilon"
  validateNonNegativeFinite hyper.weightDecay "weightDecay"
  Owner.create .optimizer (← onLibrary (NativeTrainingRuntime.createAdam handle hyper decoupled))

def zeroGrad (optimizer : Nat) : IsolateM F D Unit := do
  onLibrary (NativeTrainingRuntime.optimizerZeroGrad
    (← ensureLive .optimizer "zeroGrad" optimizer))

def step (optimizer : Nat) : IsolateM F D Unit := do
  onLibrary (NativeTrainingRuntime.optimizerStep (← ensureLive .optimizer "step" optimizer))

end Optimizer

namespace Parameter

def ensureLive (operation : String) (parameter : Nat) : IsolateM F D Parameter := do
  match (← get).parameters[parameter]? with
  | none => throw (.rangeError parameter)
  | some object => do
      if object.disposed then
        throw (tensoraException "DisposedTensorException" "Parameter has already been disposed."
          ("parameter." ++ operation))
      return object

def fromTensor (tensor : Nat) : IsolateM F D Nat := do
  let handle ← onHost (DartTensor.nativeHandle tensor)
  let identity ← onLibrary (NativeTrainingRuntime.tensorIdentity handle)
  let s ← get
  modify fun s => { s with parameters := s.parameters ++ [⟨tensor, identity, false⟩] }
  return s.parameters.length

def setRequiresGrad (parameter : Nat) (value : Bool) : IsolateM F D Unit := do
  let object ← ensureLive (if value then "unfreeze" else "freeze") parameter
  let handle ← onHost (DartTensor.nativeHandle object.tensor)
  onLibrary (NativeTrainingRuntime.setRequiresGrad handle value)

def freeze (parameter : Nat) : IsolateM F D Unit := setRequiresGrad parameter false

def unfreeze (parameter : Nat) : IsolateM F D Unit := setRequiresGrad parameter true

def grad (parameter : Nat) : IsolateM F D Nat := do
  let object ← ensureLive "grad" parameter
  onHost (DartTensor.grad object.tensor)

def snapshot (parameter : Nat) : IsolateM F D Nat := do
  let object ← ensureLive "snapshot" parameter
  let handle ← onHost (DartTensor.nativeHandle object.tensor)
  let cloned ← onLibrary (NativeTrainingRuntime.cloneDetached handle)
  onHost (runtime.adoptNativeHandleForRuntime cloned .nativeTensorAdoptionToken)

def internalReplaceTensor (parameter replacement : Nat) : IsolateM F D Unit := do
  let object ← ensureLive "replaceTensor" parameter
  let replacementHandle ← onHost (DartTensor.nativeHandle replacement)
  let replacementIdentity ← onLibrary (NativeTrainingRuntime.tensorIdentity replacementHandle)
  if replacementIdentity ≠ object.identity then do
    onHost (DartTensor.dispose replacement)
    throw (.nativeRuntime "Native module move changed parameter identity."
      "parameter.replaceTensor")
  modify fun s =>
    { s with parameters := s.parameters.set parameter { object with tensor := replacement } }
  onHost (DartTensor.dispose object.tensor)

def dispose (parameter : Nat) : IsolateM F D Unit := do
  match (← get).parameters[parameter]? with
  | none => throw (.rangeError parameter)
  | some object => do
      if object.disposed then return
      onHost (DartTensor.dispose object.tensor)
      modify fun s =>
        { s with parameters := s.parameters.set parameter { object with disposed := true } }

end Parameter

namespace NativeParameterOptimizer
open Owner (ensureLive)

/-- `_parameterHandles`, of one parameter. -/
def parameterHandle (parameter : Nat) : IsolateM F D Handle := do
  match (← get).parameters[parameter]? with
  | none => throw (.rangeError parameter)
  | some object => do
      if object.disposed then throw (.other "Optimizer parameters must not be disposed.")
      onHost (DartTensor.nativeHandle object.tensor)

def parameterHandles (parameters : List Nat) : IsolateM F D (List Handle) := do
  let handles ← parameters.mapM parameterHandle
  if handles.isEmpty then throw (argumentError "parameters" "must not be empty")
  return handles

def sgd (parameters : List Nat) (hyper : Hyperparameters D) : IsolateM F D Nat := do
  let handles ← parameterHandles parameters
  Owner.create .parameterOptimizer
    (← onLibrary (NativeTrainingRuntime.createParameterSgd handles hyper))

def adam (parameters : List Nat) (hyper : Hyperparameters D) (decoupled : Bool) :
    IsolateM F D Nat := do
  let handles ← parameterHandles parameters
  Owner.create .parameterOptimizer
    (← onLibrary (NativeTrainingRuntime.createParameterAdam handles hyper decoupled))

def zeroGrad (optimizer : Nat) : IsolateM F D Unit := do
  onLibrary (NativeTrainingRuntime.parameterOptimizerZeroGrad
    (← ensureLive .parameterOptimizer "zeroGrad" optimizer))

def step (optimizer : Nat) : IsolateM F D Unit := do
  onLibrary (NativeTrainingRuntime.parameterOptimizerStep
    (← ensureLive .parameterOptimizer "step" optimizer))

end NativeParameterOptimizer

namespace NativeTensorState

def identity (tensor : Nat) : IsolateM F D Nat := do
  onLibrary (NativeTrainingRuntime.tensorIdentity (← onHost (DartTensor.nativeHandle tensor)))

def cloneDetached (tensor : Nat) : IsolateM F D Nat := do
  let handle ← onHost (DartTensor.nativeHandle tensor)
  let cloned ← onLibrary (NativeTrainingRuntime.cloneDetached handle)
  onHost (runtime.adoptNativeHandleForRuntime cloned .nativeTensorAdoptionToken)

def assignMany (targets sources : List Nat) : IsolateM F D Unit := do
  if targets.length ≠ sources.length then
    throw (.other "State assignment requires equal target and source counts.")
  if targets.isEmpty then return
  let handles ← (targets.zip sources).mapM fun pair => do
    let target ← onHost (DartTensor.nativeHandle pair.1)
    let source ← onHost (DartTensor.nativeHandle pair.2)
    return (target, source)
  onLibrary (NativeTrainingRuntime.assignMany (handles.map Prod.fst) (handles.map Prod.snd))

end NativeTensorState

/-- What a program does in an isolate. An object is finalized when nothing refers to it any more,
so that the program does not name it afterwards. -/
inductive IsolateRequest (D : Type) where
  | tensor (request : Request D)
  | manualSeed (seed : Int64)
  | linear (inFeatures outFeatures : Int64) (bias : Bool)
  | call (module input : Nat)
  | train (module : Nat)
  | eval (module : Nat)
  | moduleToDevice (module : Nat) (device : DartDevice)
  | parameters (module : Nat)
  | buffers (module : Nat)
  | save (module : Nat) (path : String)
  | load (module : Nat) (path : String)
  | sgd (module : Nat) (hyper : Hyperparameters D)
  | adam (module : Nat) (hyper : Hyperparameters D) (decoupled : Bool)
  | zeroGrad (optimizer : Nat)
  | step (optimizer : Nat)
  | fromTensor (tensor : Nat)
  | freeze (parameter : Nat)
  | unfreeze (parameter : Nat)
  | parameterGrad (parameter : Nat)
  | snapshot (parameter : Nat)
  | replaceTensor (parameter replacement : Nat)
  | disposeParameter (parameter : Nat)
  | parameterSgd (parameters : List Nat) (hyper : Hyperparameters D)
  | parameterAdam (parameters : List Nat) (hyper : Hyperparameters D) (decoupled : Bool)
  | parameterZeroGrad (optimizer : Nat)
  | parameterStep (optimizer : Nat)
  | identity (tensor : Nat)
  | cloneDetached (tensor : Nat)
  | assignMany (targets sources : List Nat)
  | dispose (kind : OwnerClass) (object : Nat)
  | finalize (kind : OwnerClass) (object : Nat)
  | finalizeTensor (tensor : Nat)

inductive IsolateAnswer (D : Type) where
  | tensor (answer : Answer D)
  | tensors (tensors : List Nat)
  | object (object : Nat)
  | number (value : Nat)
  | done
  deriving DecidableEq

def Isolate.perform : IsolateRequest D → IsolateM F D (IsolateAnswer D)
  | .tensor request => return .tensor (← onHost (Dart.perform request))
  | .manualSeed seed => do
      onLibrary (NativeTrainingRuntime.manualSeed seed)
      return .done
  | .linear inFeatures outFeatures bias =>
      return .object (← Linear.create inFeatures outFeatures bias)
  | .call module input => return .tensor (Answer.tensor (← Module.call module input))
  | .train module => do
      Module.train module
      return .done
  | .eval module => do
      Module.eval module
      return .done
  | .moduleToDevice module device => do
      Module.toDevice module device
      return .done
  | .parameters module => return .tensors (← Module.parameters module)
  | .buffers module => return .tensors (← Module.buffers module)
  | .save module path => do
      Module.save module path
      return .done
  | .load module path => do
      Module.load module path
      return .done
  | .sgd module hyper => return .object (← Optimizer.sgd module hyper)
  | .adam module hyper decoupled => return .object (← Optimizer.adam module hyper decoupled)
  | .zeroGrad optimizer => do
      Optimizer.zeroGrad optimizer
      return .done
  | .step optimizer => do
      Optimizer.step optimizer
      return .done
  | .fromTensor tensor => return .object (← Parameter.fromTensor tensor)
  | .freeze parameter => do
      Parameter.freeze parameter
      return .done
  | .unfreeze parameter => do
      Parameter.unfreeze parameter
      return .done
  | .parameterGrad parameter => return .tensor (Answer.tensor (← Parameter.grad parameter))
  | .snapshot parameter => return .tensor (Answer.tensor (← Parameter.snapshot parameter))
  | .replaceTensor parameter replacement => do
      Parameter.internalReplaceTensor parameter replacement
      return .done
  | .disposeParameter parameter => do
      Parameter.dispose parameter
      return .done
  | .parameterSgd parameters hyper =>
      return .object (← NativeParameterOptimizer.sgd parameters hyper)
  | .parameterAdam parameters hyper decoupled =>
      return .object (← NativeParameterOptimizer.adam parameters hyper decoupled)
  | .parameterZeroGrad optimizer => do
      NativeParameterOptimizer.zeroGrad optimizer
      return .done
  | .parameterStep optimizer => do
      NativeParameterOptimizer.step optimizer
      return .done
  | .identity tensor => return .number (← NativeTensorState.identity tensor)
  | .cloneDetached tensor =>
      return .tensor (Answer.tensor (← NativeTensorState.cloneDetached tensor))
  | .assignMany targets sources => do
      NativeTensorState.assignMany targets sources
      return .done
  | .dispose kind object => do
      Owner.dispose kind object
      return .done
  | .finalize kind object => do
      Owner.finalize kind object
      return .done
  | .finalizeTensor tensor => do
      onHost (DartTensor.finalize tensor)
      return .done

def initialIsolate (fails callocFails : Nat → Bool) (files : FileSystem) : Isolate F D where
  host := initialHost fails callocFails files
  owners _ := []
  parameters := []

def Isolate.performed (s : Isolate F D) (request : IsolateRequest D) : Isolate F D :=
  match Isolate.perform request s with
  | .ok _ s' => s'
  | .error _ s' => s'

def runIsolate (s : Isolate F D) (requests : List (IsolateRequest D)) : Isolate F D :=
  requests.foldl Isolate.performed s

end Tensora.Dart
