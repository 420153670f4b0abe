import Tensora.Tensor.Memory

/-! Reading and building CPU tensors for autograd, and recording grad nodes. -/
namespace Tensora.Autograd

variable {F : Type}

def ensureCpuFloat32 (t : Tensor) (operation : String) : Mem F Unit := do
  failIf (t.device ≠ .cpu ∨ t.deviceIndex ≠ 0)
    (unsupported (operation ++ ": CPU autograd requires cpu:0"))
  failIf (t.dtype ≠ .float32)
    (unsupported (operation ++ ": CPU autograd currently supports float32 only"))

/-- Direct storage access, limited to canonical tensors. -/
def cpuValues (tensor : TensorId) (operation : String) : Mem F (List F) := do
  let t ← deref tensor
  ensureCpuFloat32 t operation
  failIf (¬t.isContiguous ∨ t.storageOffset ≠ 0)
    (invalidArgument (operation ++ ": direct storage access requires a contiguous tensor"))
  let values ← storageValues t
  failIf (values.length ≠ t.numel)
    (invalidArgument (operation ++ ": direct access requires full logical storage extent"))
  return values

/-- The same checks before a write; the result is what the storage holds. -/
def mutableCpuValues (tensor : TensorId) (operation : String) : Mem F (List F) := do
  let t ← deref tensor
  ensureCpuFloat32 t operation
  failIf (¬t.isContiguous ∨ t.storageOffset ≠ 0)
    (invalidArgument (operation ++ ": mutable storage access requires a contiguous tensor"))
  let values ← storageValues t
  failIf (values.length ≠ t.numel)
    (invalidArgument (operation ++ ": mutable access to aliased sub-storage is not supported"))
  return values

def readLogicalCpuValues (tensor : TensorId) (operation : String) : Mem F (List F) := do
  let t ← deref tensor
  ensureCpuFloat32 t operation
  allocationGuard operation (allocateFloats t.numel)
  t.copyToHostF32 t.numel

def makeCpuTensor (shape : ShapeInfo) (values : List F) : Mem F TensorId := do
  failIf (values.length ≠ shape.numel)
    (internalError "autograd: gradient value count does not match shape")
  allocate
  match validateShape (shape.dimensions.map Int.ofNat) with
  | .error _ =>
      throw (internalError "autograd: could not canonicalize materialized gradient shape")
  | .ok materializedShape => do
      failIf (materializedShape.numel ≠ shape.numel)
        (internalError "autograd: could not canonicalize materialized gradient shape")
      let storage ← cpuStorageFromData values shape.numel
      allocationGuard "autograd tensor" (makeSharedTensor materializedShape storage)

/-- Keeps the given strides: the caller's shape is not canonicalized. -/
def makeCpuFull (shape : ShapeInfo) (value : F) : Mem F TensorId := do
  let storage ← cpuStorageFilled shape.numel value
  allocationGuard "autograd tensor" (makeSharedTensor shape storage)

def cloneDetached (source : TensorId) : Mem F TensorId := do
  let values ← readLogicalCpuValues source "autograd_clone"
  makeCpuTensor (← deref source).shape values

def requiresGrad (tensor : TensorId) : Mem F Bool := do
  return (← deref tensor).requiresGrad

def setAutogradMeta (tensor : TensorId) (autogradMeta : AutogradMeta) : Mem F Unit := do
  let _ ← deref tensor
  modifyHeap fun h => h.setMeta tensor (some autogradMeta)

def cloneAsLeaf (source : TensorId) (requiresGrad : Bool) : Mem F TensorId := do
  let out ← cloneDetached source
  allocate
  setAutogradMeta out
    { requiresGrad := requiresGrad, isLeaf := true, gradient := none, gradFn := none }
  return out

def anyRequiresGrad : List TensorId → Mem F Bool
  | [] => pure false
  | parent :: parents => do
      if ← requiresGrad parent then pure true else anyRequiresGrad parents

def attachNode (result : TensorId) (operation : Operation) (parents : List TensorId) :
    Mem F Unit := do
  if ← anyRequiresGrad parents then do
    allocate
    allocate
    let parentVersions ← parents.mapM fun parent => do version (← deref parent)
    allocate
    setAutogradMeta result {
      requiresGrad := true
      isLeaf := false
      gradient := none
      gradFn := some {
        operation := operation, parents := parents, parentVersions := parentVersions } }

def recordUnary (operation : Operation) (input result : TensorId) : Mem F Unit := do
  if ← requiresGrad input then do
    allocate
    attachNode result operation [input]

def recordBinary (operation : Operation) (left right result : TensorId) : Mem F Unit := do
  if (← requiresGrad left) || (← requiresGrad right) then do
    allocate
    attachNode result operation [left, right]

def recordBiasAdd (matrix bias result : TensorId) : Mem F Unit :=
  recordBinary .biasAdd matrix bias result

def copyGradient (gradient : TensorId) : Mem F TensorId := cloneDetached gradient

section Accumulation
variable [Add F]

def addInPlace (destination source : TensorId) : Mem F Unit := do
  failIf (!sameShape (← deref destination).shape (← deref source).shape)
    (internalError "autograd: gradient accumulation shape mismatch")
  let destinationValues ← mutableCpuValues destination "autograd_accumulate"
  let sourceValues ← readLogicalCpuValues source "autograd_accumulate"
  let values ← checked <| CheckedLoop.fill destinationValues.length fun index => do
    return (← CheckedLoop.load destinationValues index) + (← CheckedLoop.load sourceValues index)
  let t ← deref destination
  modifyHeap fun h => h.setStorage t.storage values

/-- `Accumulate`: the new contents of the destination pointer. -/
def accumulate (destination : Option TensorId) (contribution : TensorId) : Mem F TensorId := do
  match destination with
  | none => copyGradient contribution
  | some destination => do
      addInPlace destination contribution
      return destination

end Accumulation

def validateSavedVersions (node : GradNode) : Mem F Unit := do
  failIf (node.parents.length ≠ node.parentVersions.length)
    (internalError "autograd: corrupt saved-version metadata")
  (node.parents.zip node.parentVersions).forM fun (parent, saved) => do
    failIf ((← version (← deref parent)) ≠ saved)
      (invalidArgument "autograd: a saved tensor alias was modified before backward")

def gradientSnapshot (tensor : TensorId) : Mem F TensorId := do
  match (← deref tensor).gradient with
  | none => throw (invalidArgument "tensor_grad: gradient is not available")
  | some gradient => copyGradient gradient

def clearGradient (tensor : TensorId) : Mem F Unit := do
  match (← deref tensor).autogradMeta with
  | none => pure ()
  | some autogradMeta =>
      modifyHeap fun h => h.setMeta tensor (some { autogradMeta with gradient := none })

end Tensora.Autograd
