import Tensora.Runtime.Runtime

/-! The state operations of NN V2: identity, detached clones, requires-grad
control, and the assignment of many tensors in one transaction. -/
namespace Tensora.Training

variable {F D : Type}

def tensorIdentity (tensor : TensorId) : Mem F Nat := do
  let identity ← identity (← deref tensor)
  failIf (identity = 0) (internalError "tensor_identity: opaque identity is zero")
  return identity

def cloneDetached (tensor : TensorId) : Mem F TensorId := Autograd.cloneDetached tensor

/-- `SetCoreRequiresGrad`. -/
def setRequiresGrad (tensor : TensorId) (requiresGrad : Bool) : Mem F Unit := do
  match (← deref tensor).autogradMeta with
  | none =>
      if requiresGrad then
        allocationGuard "tensor_set_requires_grad" do
          allocate
          Autograd.setAutogradMeta tensor
            { requiresGrad := true, isLeaf := true, gradient := none, gradFn := none }
  | some autogradMeta => do
      failIf (!autogradMeta.isLeaf) (invalidArgument
        "tensor_set_requires_grad: only leaf tensors may change requiresGrad")
      Autograd.setAutogradMeta tensor { autogradMeta with
        requiresGrad := requiresGrad
        gradient := if requiresGrad then autogradMeta.gradient else none }

/-- Every tensor of the core build has CPU storage, so the backends agree. -/
def validatePair (target source : Tensor) (operation : String) : Mem F Unit := do
  failIf (!sameShape target.shape source.shape)
    (invalidShape (operation ++ ": tensor shape mismatch"))
  failIf (target.dtype ≠ source.dtype) (invalidArgument (operation ++ ": tensor dtype mismatch"))
  failIf (target.device ≠ source.device ∨ target.deviceIndex ≠ source.deviceIndex)
    (invalidArgument (operation ++ ": tensor device mismatch"))

structure Batch where
  identities : List Nat
  pairs : List (TensorId × TensorId)

def validateAssignment (batch : Batch) (handles : Nat × Nat) : Native F D Batch := do
  let target ← lookupTensor handles.1
  let source ← lookupTensor handles.2
  onMemory do
    validatePair (← deref target) (← deref source) "tensor_assign_many"
    let identity ← tensorIdentity target
    allocationGuard "tensor_assign_many" allocate
    failIf (identity ∈ batch.identities)
      (invalidArgument "tensor_assign_many: duplicate target tensor")
    return {
      identities := identity :: batch.identities
      pairs := batch.pairs ++ [(target, source)] }

def stageAssignment (pair : TensorId × TensorId) : Mem F (TensorId × List F) := do
  let staged ← Autograd.readLogicalCpuValues pair.2 "tensor_assign_many"
  let _ ← Autograd.mutableCpuValues pair.1 "tensor_assign_many"
  return (pair.1, staged)

/-- `std::copy` into the target's buffer, then its version and its gradient. -/
def commitAssignment (staged : TensorId × List F) : Mem F Unit := do
  let t ← deref staged.1
  let current ← storageValues t
  failIf (current.length < staged.2.length) (.fault .outOfRange)
  mutateStorage t (staged.2 ++ current.drop staged.2.length)
  incrementVersion t
  Autograd.clearGradient staged.1

/-- Nothing is written before every source is read and every target resolved. -/
def assignBatch (batch : Batch) : Mem F Unit := do
  allocationGuard "tensor_assign_many" do
    allocate
    allocate
  let staged ← batch.pairs.mapM stageAssignment
  staged.forM commitAssignment

/-- The arrays may be null; they hold at least `count` handles otherwise. -/
def assignMany (targets sources : Option (List Nat)) (count : Nat) : Native F D Unit := do
  if count = 0 then pure ()
  else match targets, sources with
    | some targets, some sources => do
        onMemory (allocationGuard "tensor_assign_many" do
          failIf (count > maxI64 / 16) .lengthError
          allocate
          allocate)
        failIf (targets.length < count ∨ sources.length < count) (.fault .outOfRange)
        let batch ← ((targets.zip sources).take count).foldlM validateAssignment ⟨[], []⟩
        onMemory (assignBatch batch)
    | _, _ => throw (invalidArgument "tensor_assign_many: tensor arrays are null")

end Tensora.Training
