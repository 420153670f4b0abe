import Tensora.Dart.Isolate

/-! The package `tensora_optim`: optimizers over groups of parameters, each group with a native
optimizer of its own. -/
namespace Tensora.Optim
open Adoption (Thrown)
open Dart (Isolate IsolateM Owner argumentError)
open Training (positiveFinite nonNegativeFinite betaFinite FloatBits)

variable {F D : Type}

/-- Parameters by their positions in the isolate, and the overrides of the hyperparameters. -/
structure ParameterGroup (D : Type) where
  parameters : List Nat
  learningRate : Option D
  momentum : Option D
  beta1 : Option D
  beta2 : Option D
  epsilon : Option D
  weightDecay : Option D

/-- `nativeOptimizers` has one for each group. -/
structure Optimizer (D : Type) where
  groups : List (ParameterGroup D)
  nativeOptimizers : List Nat
  disposed : Bool

def parameterObject (parameter : Nat) : IsolateM F D Dart.Parameter := do
  match (← get).parameters[parameter]? with
  | none => throw (.rangeError parameter)
  | some object => return object

/-- `identities.add`, where what is there already is an error. -/
def addIdentity (message : String) (identities : List Nat) (identity : Nat) :
    IsolateM F D (List Nat) := do
  if identity ∈ identities then throw (.other message)
  return identity :: identities

section Checks
variable [Scalar D]

def positive (value : D) (name : String) : IsolateM F D Unit := do
  if !positiveFinite value then throw (argumentError name "must be finite and positive")

def nonNegative (value : D) (name : String) : IsolateM F D Unit := do
  if !nonNegativeFinite value then throw (argumentError name "must be finite and non-negative")

def beta (value : D) (name : String) : IsolateM F D Unit := do
  if !betaFinite value then throw (argumentError name "must be finite in [0, 1)")

def validatePositive (value : Option D) (name : String) : IsolateM F D Unit :=
  value.forM fun value => positive value name

def validateNonNegative (value : Option D) (name : String) : IsolateM F D Unit :=
  value.forM fun value => nonNegative value name

def validateBeta (value : Option D) (name : String) : IsolateM F D Unit :=
  value.forM fun value => beta value name

def validateAdamDefaults (given : Hyperparameters D) : IsolateM F D Unit := do
  positive given.learningRate "learningRate"
  beta given.beta1 "beta1"
  beta given.beta2 "beta2"
  positive given.epsilon "epsilon"
  nonNegative given.weightDecay "weightDecay"

def ParameterGroup.make (group : ParameterGroup D) : IsolateM F D (ParameterGroup D) := do
  if group.parameters.isEmpty then throw (argumentError "parameters" "must not be empty")
  let _ ← group.parameters.foldlM (fun seen parameter => do
    let object ← parameterObject parameter
    if object.disposed then throw (.other "Optimizer parameters must not be disposed.")
    addIdentity "ParameterGroup contains a duplicate parameter." seen object.identity) []
  validatePositive group.learningRate "learningRate"
  validateNonNegative group.momentum "momentum"
  validateBeta group.beta1 "beta1"
  validateBeta group.beta2 "beta2"
  validatePositive group.epsilon "epsilon"
  validateNonNegative group.weightDecay "weightDecay"
  return group

end Checks

def validatedGroups (groups : List (ParameterGroup D)) :
    IsolateM F D (List (ParameterGroup D)) := do
  if groups.isEmpty then throw (argumentError "groups" "must not be empty")
  let _ ← groups.foldlM (fun identities group =>
    group.parameters.foldlM (fun identities parameter => do
      let object ← parameterObject parameter
      addIdentity "A parameter may belong to only one optimizer group." identities
        object.identity) identities) []
  return groups

variable [Scalar F] [Scalar D] [Precision F D] [FloatBits F]

/-- The loop of `_createNativeGroups` with its `catch`, from the optimizers created so far. -/
def createNativeGroups (create : ParameterGroup D → IsolateM F D Nat) :
    List (ParameterGroup D) → List Nat → IsolateM F D (List Nat)
  | [], created => return created
  | group :: groups, created => do
      let optimizer ← tryCatch (create group) fun thrown => do
        created.reverse.forM (Owner.dispose .parameterOptimizer)
        throw thrown
      createNativeGroups create groups (created ++ [optimizer])

namespace Optimizer

def ensureLive (optimizer : Optimizer D) (operation : String) : IsolateM F D Unit := do
  if optimizer.disposed then
    throw (.stateError ("Optimizer has already been disposed: " ++ operation))

def zeroGrad (optimizer : Optimizer D) : IsolateM F D Unit := do
  optimizer.ensureLive "zeroGrad"
  optimizer.nativeOptimizers.forM Dart.NativeParameterOptimizer.zeroGrad

def step (optimizer : Optimizer D) : IsolateM F D Unit := do
  optimizer.ensureLive "step"
  optimizer.nativeOptimizers.forM Dart.NativeParameterOptimizer.step

def dispose (optimizer : Optimizer D) : IsolateM F D (Optimizer D) := do
  if optimizer.disposed then return optimizer
  optimizer.nativeOptimizers.reverse.forM (Owner.dispose .parameterOptimizer)
  return { optimizer with disposed := true }

/-- What the factories share once they have checked their own arguments. -/
def overGroups (create : ParameterGroup D → IsolateM F D Nat) (groups : List (ParameterGroup D)) :
    IsolateM F D (Optimizer D) := do
  let validated ← validatedGroups groups
  let native ← createNativeGroups create validated []
  return ⟨validated, native, false⟩

end Optimizer

namespace SGD

def hyper (given : Hyperparameters D) (group : ParameterGroup D) : Hyperparameters D where
  learningRate := group.learningRate.getD given.learningRate
  momentum := group.momentum.getD given.momentum
  beta1 := 0
  beta2 := 0
  epsilon := 0
  weightDecay := group.weightDecay.getD given.weightDecay

def ofGroups (given : Hyperparameters D) (groups : List (ParameterGroup D)) :
    IsolateM F D (Optimizer D) := do
  positive given.learningRate "learningRate"
  nonNegative given.momentum "momentum"
  nonNegative given.weightDecay "weightDecay"
  Optimizer.overGroups (fun group =>
    Dart.NativeParameterOptimizer.sgd group.parameters (hyper given group)) groups

/-- The group of the factory over a list of parameters. -/
def group (given : Hyperparameters D) (parameters : List Nat) : ParameterGroup D where
  parameters := parameters
  learningRate := some given.learningRate
  momentum := some given.momentum
  beta1 := none
  beta2 := none
  epsilon := none
  weightDecay := some given.weightDecay

def ofParameters (given : Hyperparameters D) (parameters : List Nat) :
    IsolateM F D (Optimizer D) := do
  ofGroups given [← (group given parameters).make]

end SGD

namespace Adam

def hyper (given : Hyperparameters D) (group : ParameterGroup D) : Hyperparameters D where
  learningRate := group.learningRate.getD given.learningRate
  momentum := 0
  beta1 := group.beta1.getD given.beta1
  beta2 := group.beta2.getD given.beta2
  epsilon := group.epsilon.getD given.epsilon
  weightDecay := group.weightDecay.getD given.weightDecay

def ofGroups (given : Hyperparameters D) (groups : List (ParameterGroup D)) :
    IsolateM F D (Optimizer D) := do
  validateAdamDefaults given
  Optimizer.overGroups (fun group =>
    Dart.NativeParameterOptimizer.adam group.parameters (hyper given group) false) groups

def group (given : Hyperparameters D) (parameters : List Nat) : ParameterGroup D where
  parameters := parameters
  learningRate := some given.learningRate
  momentum := none
  beta1 := some given.beta1
  beta2 := some given.beta2
  epsilon := some given.epsilon
  weightDecay := some given.weightDecay

def ofParameters (given : Hyperparameters D) (parameters : List Nat) :
    IsolateM F D (Optimizer D) := do
  ofGroups given [← (group given parameters).make]

end Adam

namespace AdamW

def ofGroups (given : Hyperparameters D) (groups : List (ParameterGroup D)) :
    IsolateM F D (Optimizer D) := do
  validateAdamDefaults given
  Optimizer.overGroups (fun group =>
    Dart.NativeParameterOptimizer.adam group.parameters (Adam.hyper given group) true) groups

def ofParameters (given : Hyperparameters D) (parameters : List Nat) :
    IsolateM F D (Optimizer D) := do
  ofGroups given [← (Adam.group given parameters).make]

end AdamW

end Tensora.Optim
