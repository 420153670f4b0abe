import Tensora.Lib.OrderedMap
import Tensora.Nn.DeviceMoves

/-! The named parameters of a tree of modules, snapshots of them, and loading a snapshot. -/
namespace Tensora.Nn
open ProgramLogic

variable {V : Type}

inductive DType where
  | float16
  | bfloat16
  | float32
  | float64
  | int8
  | uint8
  | int16
  | int32
  | int64
  | boolean
  deriving DecidableEq, Repr

/-- A `Tensor` wrapper. Its values are those of the native tensor with this identity. -/
structure TensorObject where
  identity : Nat
  shape : List Nat
  dtype : DType
  device : Device
  disposed : Bool
  deriving DecidableEq, Repr

/-- A `Parameter` holds a tensor that has its identity. -/
structure Parameter where
  tensor : TensorObject
  disposed : Bool
  identity : Nat
  same : tensor.identity = identity

/-- The built-in leaves: `Linear`, and layers without state. None of them has buffers. -/
inductive Layer where
  | linear (weight : Parameter) (bias : Option Parameter)
  | stateless

structure NamedParameter where
  name : String
  parameter : Parameter

structure Store (V : Type) where
  values : Nat → V
  next : Nat

abbrev StoreM (V : Type) := EStateM Thrown (Store V)

/-- What the native runtime does: what cloning a tensor throws, and the assignment of many. -/
structure NativeState (V : Type) where
  cloneDetached : Nat → Store V → Option Thrown
  assignMany : List Nat → List Nat → StoreM V Unit

def joinPath (path name : String) : String :=
  if name = "" then path
  else if path = "" then name
  else path ++ "." ++ name

/-- `internalRegisteredParameters`. -/
def Layer.registeredParameters : Layer → List NamedParameter
  | .linear weight bias =>
      ⟨"weight", weight⟩ :: (bias.map fun bias => ⟨"bias", bias⟩).toList
  | .stateless => []

def addParameter (collected : List NamedParameter × List Nat) (entry : NamedParameter) :
    List NamedParameter × List Nat :=
  if entry.parameter.identity ∈ collected.2 then collected
  else (collected.1 ++ [entry], entry.parameter.identity :: collected.2)

mutual

def Module.collectParameters : Module Layer → String → List NamedParameter × List Nat →
    StoreM V (List NamedParameter × List Nat)
  | .leaf _ layer, path, collected =>
      return layer.registeredParameters.foldl (fun collected entry =>
        addParameter collected ⟨joinPath path entry.name, entry.parameter⟩) collected
  | .sequential _ children, path, collected => collectChildren children 0 path collected
  | .model _ failure root, path, collected => do
      ensureMaterialized failure
      root.collectParameters (joinPath path "") collected

def collectChildren : List (Module Layer) → Nat → String → List NamedParameter × List Nat →
    StoreM V (List NamedParameter × List Nat)
  | [], _, _, collected => return collected
  | child :: rest, index, path, collected => do
      let collected ← child.collectParameters (joinPath path index.repr) collected
      collectChildren rest (index + 1) path collected

end

def Module.namedParameters (module : Module Layer) : StoreM V (List NamedParameter) := do
  ensureLive module.node "namedParameters"
  ensureMaterialized module.failure
  let (output, _) ← module.collectParameters "" ([], [])
  return output

structure StateDict where
  entries : OrderedMap String TensorObject
  disposed : Bool

def cloneDetached (native : NativeState V) (tensor : TensorObject) : StoreM V TensorObject := do
  throwIf (tensor.disposed = true)
    (.disposedTensor "Tensor has already been disposed." "tensor.nativeHandle")
  let s ← get
  match native.cloneDetached tensor.identity s with
  | some thrown => throw thrown
  | none => do
      modify fun s =>
        { values := fun identity =>
            if identity = s.next then s.values tensor.identity else s.values identity
          next := s.next + 1 }
      return { tensor with identity := s.next }

def Parameter.snapshot (native : NativeState V) (parameter : Parameter) :
    StoreM V TensorObject := do
  throwIf (parameter.disposed = true)
    (.disposedTensor "Parameter has already been disposed." "parameter.snapshot")
  cloneDetached native parameter.tensor

/-- The loop of `stateDict`. Its `catch` block disposes of wrappers that nobody else has. -/
def takeSnapshots (native : NativeState V) :
    List NamedParameter → OrderedMap String TensorObject →
    StoreM V (OrderedMap String TensorObject)
  | [], snapshots => return snapshots
  | entry :: rest, snapshots => do
      let snapshot ← entry.parameter.snapshot native
      takeSnapshots native rest (snapshots.set entry.name snapshot)

def Module.stateDict (native : NativeState V) (module : Module Layer) : StoreM V StateDict := do
  ensureLive module.node "stateDict"
  let named ← module.namedParameters
  let snapshots ← takeSnapshots native named .empty
  return ⟨snapshots, false⟩

/-- The order of `compareTo` on strings is that of their UTF-16 code units. -/
def codeUnits (text : String) : List Nat :=
  text.toList.flatMap fun char =>
    if char.toNat < 0x10000 then [char.toNat]
    else [0xD800 + (char.toNat - 0x10000) / 0x400, 0xDC00 + (char.toNat - 0x10000) % 0x400]

def sorted (keys : List String) : List String :=
  keys.mergeSort fun left right => decide (codeUnits left ≤ codeUnits right)

def listText (keys : List String) : String := "[" ++ ", ".intercalate keys ++ "]"

structure StateLoadResult where
  missingKeys : List String
  unexpectedKeys : List String
  deriving DecidableEq, Repr

def StateLoadResult.isSuccess (result : StateLoadResult) : Bool :=
  result.missingKeys.isEmpty && result.unexpectedKeys.isEmpty

def nullCheck {α : Type} : Option α → StoreM V α
  | some value => return value
  | none => throw (.other "Null check operator used on a null value")

/-- The loop of `loadStateDict` over the common keys. -/
def collectTensors (targets : OrderedMap String Parameter)
    (state : OrderedMap String TensorObject) :
    List String → List TensorObject → List TensorObject →
    StoreM V (List TensorObject × List TensorObject)
  | [], targetTensors, sourceTensors => return (targetTensors, sourceTensors)
  | key :: rest, targetTensors, sourceTensors => do
      let source ← nullCheck (state.get? key)
      let target ← nullCheck (targets.get? key)
      throwIf (target.disposed = true)
        (.disposedTensor "Parameter has already been disposed." "parameter.shape")
      throwIf (source.shape ≠ target.tensor.shape ∨ source.dtype ≠ target.tensor.dtype ∨
          source.device ≠ target.tensor.device)
        (.invalidArgument ("StateDict entry " ++ key ++ " has incompatible tensor metadata.")
          "module.loadStateDict")
      collectTensors targets state rest (targetTensors ++ [target.tensor])
        (sourceTensors ++ [source])

/-- The handles `NativeTensorState.assignMany` reads, in pairs. -/
def readHandles : List TensorObject → List TensorObject → StoreM V Unit
  | target :: targets, source :: sources => do
      throwIf (target.disposed = true)
        (.disposedTensor "Tensor has already been disposed." "tensor.nativeHandle")
      throwIf (source.disposed = true)
        (.disposedTensor "Tensor has already been disposed." "tensor.nativeHandle")
      readHandles targets sources
  | _, _ => return

/-- `NativeTensorState.assignMany`. -/
def assignMany (native : NativeState V) (targets sources : List TensorObject) : StoreM V Unit := do
  throwIf (targets.length ≠ sources.length)
    (.other "State assignment requires equal target and source counts.")
  if targets.isEmpty = true then return
  readHandles targets sources
  native.assignMany (targets.map TensorObject.identity) (sources.map TensorObject.identity)

def Module.loadStateDict (native : NativeState V) (module : Module Layer) (state : StateDict)
    (strict : Bool) : StoreM V StateLoadResult := do
  ensureLive module.node "loadStateDict"
  let named ← module.namedParameters
  let targets := OrderedMap.empty.setAll (named.map fun entry => (entry.name, entry.parameter))
  throwIf (state.disposed = true) (.other "StateDict has already been disposed.")
  let missing := sorted (targets.keys.filter (· ∉ state.entries.keys))
  let unexpected := sorted (state.entries.keys.filter (· ∉ targets.keys))
  let result : StateLoadResult := ⟨missing, unexpected⟩
  throwIf (strict = true ∧ result.isSuccess = false) (.invalidArgument
    ("StateDict keys are incompatible: missing=" ++ listText missing ++ ", unexpected=" ++
      listText unexpected ++ ".") "module.loadStateDict")
  let common := sorted (targets.keys.filter (· ∈ state.entries.keys))
  let (targetTensors, sourceTensors) ← collectTensors targets state.entries common [] []
  assignMany native targetTensors sourceTensors
  return result

end Tensora.Nn
