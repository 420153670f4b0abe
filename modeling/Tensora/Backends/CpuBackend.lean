import Tensora.Autograd.Record

/-! The CPU backend: materialized tensors, views and the five arithmetic operations. -/
namespace Tensora.CpuBackend
open CheckedLoop

variable {F : Type}

def makeTensor (shape : ShapeInfo) (storage : List F) : Mem F TensorId := do
  allocate
  match validateShape (shape.dimensions.map Int.ofNat) with
  | .error _ =>
      throw (internalError "cpu backend: materialized tensor shape/storage contract is invalid")
  | .ok materializedShape => do
      failIf (materializedShape.numel ≠ shape.numel ∨ storage.length ≠ shape.numel)
        (internalError "cpu backend: materialized tensor shape/storage contract is invalid")
      allocationGuard "cpu backend tensor" (makeSharedTensor materializedShape storage)

def makeView (shape : ShapeInfo) (source : TensorId) : Mem F TensorId := do
  let t ← deref source
  allocationGuard "cpu backend view" do
    allocate
    let h ← getHeap
    modifyHeap fun h => h.newView shape t
    return h.tensors.length

def ensureCpuFloat32 (t : Tensor) (operation : String) : Mem F Unit := do
  failIf (t.device ≠ .cpu ∨ t.deviceIndex ≠ 0)
    (unsupported (operation ++ ": CPU backend requires cpu:0"))
  failIf (t.dtype ≠ .float32) (unsupported (operation ++ ": only float32 is supported"))

def logicalValues (tensor : TensorId) (operation : String) : Mem F (List F) := do
  let t ← deref tensor
  ensureCpuFloat32 t operation
  allocationGuard operation (allocateFloats t.numel)
  t.copyToHostF32 t.numel

def fromData (shape : ShapeInfo) (data : List F) : Mem F TensorId := do
  let storage ← cpuStorageFromData data shape.numel
  makeTensor shape storage

def full (shape : ShapeInfo) (value : F) : Mem F TensorId := do
  let storage ← cpuStorageFilled shape.numel value
  makeTensor shape storage

def reshape (tensor : TensorId) (shape : ShapeInfo) : Mem F TensorId := do
  let t ← deref tensor
  ensureCpuFloat32 t "reshape"
  failIf (t.numel ≠ shape.numel)
    (invalidShape "reshape: target shape must preserve element count")
  let out ←
    if t.isContiguous then makeView shape tensor
    else do
      let values ← logicalValues tensor "reshape"
      let storage ← cpuStorageFromData values t.numel
      makeTensor shape storage
  Autograd.recordUnary .reshape tensor out
  return out

/-- The first two entries exchanged, as `std::swap` does. -/
def swapFirstTwo {α : Type} : List α → List α
  | a :: b :: rest => b :: a :: rest
  | xs => xs

def transpose2D (tensor : TensorId) : Mem F TensorId := do
  let t ← deref tensor
  ensureCpuFloat32 t "transpose"
  failIf (t.shape.dimensions.length ≠ 2)
    (invalidShape "transpose: Milestone 1 requires a rank-2 tensor")
  let outputShape := { t.shape with
    dimensions := swapFirstTwo t.shape.dimensions
    strides := swapFirstTwo t.shape.strides }
  let out ← makeView outputShape tensor
  Autograd.recordUnary .transpose2D tensor out
  return out

/-- The loop of `Add` and `Multiply`. -/
def zipKernel (combine : F → F → F) (size : Nat) (left right : List F) : Except Fault (List F) :=
  fill size fun index => do
    return combine (← load left index) (← load right index)

/-- `Add` and `Multiply` differ in their operator, messages and recorded operation. -/
def elementwise (name : String) (operation : Operation) (combine : F → F → F)
    (left right : TensorId) : Mem F TensorId := do
  let l ← deref left
  let r ← deref right
  ensureCpuFloat32 l name
  ensureCpuFloat32 r name
  failIf (!sameShape l.shape r.shape)
    (invalidShape (name ++ ": Milestone 1 elementwise operations require equal shapes"))
  let leftValues ← logicalValues left name
  let rightValues ← logicalValues right name
  allocationGuard "cpu storage" (allocateFloats l.numel)
  let result ← checked (zipKernel combine l.numel leftValues rightValues)
  let out ← makeTensor l.shape result
  Autograd.recordBinary operation left right out
  return out

section Arithmetic
variable [Arith F]

def add (left right : TensorId) : Mem F TensorId :=
  elementwise "add" .add (· + ·) left right

def multiply (left right : TensorId) : Mem F TensorId :=
  elementwise "multiply" .multiply (· * ·) left right

def sumKernel (input : List F) : F := input.foldl (· + ·) 0

def sum (tensor : TensorId) : Mem F TensorId := do
  let t ← deref tensor
  ensureCpuFloat32 t "sum"
  let input ← logicalValues tensor "sum"
  let scalarShape ← validatedShape []
  let storage ← cpuStorageFilled 1 (sumKernel input)
  let out ← makeTensor scalarShape storage
  Autograd.recordUnary .sum tensor out
  return out

def matmulKernel (m k n : Nat) (left right : List F) : Except Fault (List F) :=
  loop m (List.replicate (m * n) 0) fun output row =>
    loop k output fun output inner => do
      let leftValue ← load left (← index row k inner)
      loop n output fun output col => do
        let rightValue ← load right (← index inner n col)
        let position ← index row n col
        store output position ((← load output position) + leftValue * rightValue)

def matmul (left right : TensorId) : Mem F TensorId := do
  let l ← deref left
  let r ← deref right
  ensureCpuFloat32 l "matmul"
  ensureCpuFloat32 r "matmul"
  match l.shape.dimensions, r.shape.dimensions with
  | [m, k], [rightK, n] => do
      failIf (k ≠ rightK) (invalidShape "matmul: inner dimensions must match")
      let leftValues ← logicalValues left "matmul"
      let rightValues ← logicalValues right "matmul"
      let outputShape ← validatedShape [m, n]
      allocationGuard "cpu storage" (allocateFloats outputShape.numel)
      let output ← checked (matmulKernel m k n leftValues rightValues)
      let out ← makeTensor outputShape output
      Autograd.recordBinary .matmul left right out
      return out
  | _, _ => throw (invalidShape "matmul: Milestone 1 requires rank-2 tensors")

end Arithmetic

end Tensora.CpuBackend
