import Tensora.Tensor.Scalar
import Tensora.Tensor.Shape

/-! The objects of the core build. A `shared_ptr` is a position in the table of
its kind; tables only grow, so a position names one object for a whole run.
Objects nothing refers to any more stay in their tables. -/
namespace Tensora

abbrev TensorId := Nat
abbrev StorageId := Nat
abbrev CounterId := Nat

inductive DType where
  | float32
  deriving DecidableEq, Repr

inductive Device where
  | cpu
  | cuda
  | mps
  | xpu
  | hip
  deriving DecidableEq, Repr

inductive StorageKind where
  | cpu
  | torch
  deriving DecidableEq, Repr

inductive Operation where
  | identity
  | reshape
  | transpose2D
  | add
  | multiply
  | sum
  | matmul
  | relu
  | sigmoid
  | tanh
  | gelu
  | silu
  | swiGlu
  | mse
  | crossEntropy
  | biasAdd
  deriving DecidableEq, Repr

structure GradNode where
  operation : Operation
  parents : List TensorId
  parentVersions : List Nat
  deriving DecidableEq, Repr

/-- Owned by exactly one tensor, so it is stored in it. -/
structure AutogradMeta where
  requiresGrad : Bool
  isLeaf : Bool
  gradient : Option TensorId
  gradFn : Option GradNode
  deriving DecidableEq, Repr

structure VersionCounter where
  value : Nat
  identity : Nat
  deriving DecidableEq, Repr

structure Tensor where
  shape : ShapeInfo
  storage : StorageId
  dtype : DType
  device : Device
  deviceIndex : Int
  storageOffset : Nat
  versionCounter : CounterId
  autogradMeta : Option AutogradMeta
  deriving DecidableEq, Repr

/-- `nextIdentity` is `next_tensor_identity` and `liveBytes` is `CpuStorage::live_bytes_`. The
last two are read by no function: `mutations` lists, newest first, the storages a mutator has
written, and `drawn` counts the identities drawn. -/
structure Heap (F : Type) where
  storages : List (List F)
  counters : List VersionCounter
  tensors : List Tensor
  nextIdentity : Nat
  liveBytes : Nat
  mutations : List StorageId
  drawn : Nat
  deriving DecidableEq

/-- Which of the program's allocations fail is arbitrary. -/
structure Allocator where
  count : Nat
  fails : Nat → Bool

structure Memory (F : Type) where
  heap : Heap F
  allocator : Allocator

abbrev Mem (F : Type) := EStateM Failure (Memory F)

def Heap.empty (F : Type) : Heap F where
  storages := []
  counters := []
  tensors := []
  nextIdentity := 1
  liveBytes := 0
  mutations := []
  drawn := 0

namespace Tensor

def numel (t : Tensor) : Nat := t.shape.numel

def requiresGrad (t : Tensor) : Bool :=
  match t.autogradMeta with
  | none => false
  | some autogradMeta => autogradMeta.requiresGrad

def gradFn (t : Tensor) : Option GradNode := t.autogradMeta.bind AutogradMeta.gradFn

def gradient (t : Tensor) : Option TensorId := t.autogradMeta.bind AutogradMeta.gradient

/-- Strides are checked against the expected ones from the last dimension backwards. -/
def isContiguous (t : Tensor) : Bool :=
  ((t.shape.dimensions.zip t.shape.strides).foldr
    (fun (dimension, stride) (contiguous, expectedStride) =>
      (contiguous && stride == expectedStride, mul64 expectedStride dimension))
    (true, 1)).1

def logicalStorageIndex (t : Tensor) (logicalIndex : Nat) : Nat :=
  ((t.shape.dimensions.zip t.shape.strides).foldr
    (fun (dimension, stride) (remaining, storageIndex) =>
      (remaining / dimension, add64 storageIndex (mul64 (remaining % dimension) stride)))
    (logicalIndex, t.storageOffset)).2

end Tensor

section Primitives
variable {F α : Type}

/-- One operation that may throw `std::bad_alloc`. -/
def allocate : Mem F Unit := fun m =>
  let m' := { m with allocator := { m.allocator with count := m.allocator.count + 1 } }
  if m.allocator.fails m.allocator.count then .error .badAlloc m' else .ok () m'

/-- `std::vector<float>::max_size()`. -/
def kMaxFloats : Nat := 2 ^ 61 - 1

/-- The buffer of a `std::vector<float>` of `size` elements. -/
def allocateFloats (size : Nat) : Mem F Unit := do
  failIf (size > kMaxFloats) .lengthError
  allocate

def getHeap : Mem F (Heap F) := do return (← get).heap

def modifyHeap (f : Heap F → Heap F) : Mem F Unit :=
  modify fun m => { m with heap := f m.heap }

def deref (id : TensorId) : Mem F Tensor := do
  match (← getHeap).tensors[id]? with
  | some t => pure t
  | none => throw .danglingReference

/-- `std::dynamic_pointer_cast<CpuStorage>(tensor.storage())->values()`. -/
def storageValues (t : Tensor) : Mem F (List F) := do
  match (← getHeap).storages[t.storage]? with
  | some values => pure values
  | none => throw .danglingReference

def version (t : Tensor) : Mem F Nat := do
  match (← getHeap).counters[t.versionCounter]? with
  | some counter => pure counter.value
  | none => throw .danglingReference

def identity (t : Tensor) : Mem F Nat := do
  match (← getHeap).counters[t.versionCounter]? with
  | some counter => pure counter.identity
  | none => throw .danglingReference

/-- The logical row-major contents of a tensor. -/
def Heap.read (h : Heap F) (t : Tensor) : List F :=
  let values := h.storages.getD t.storage []
  (List.range t.numel).filterMap fun i => values[t.logicalStorageIndex i]?

def Heap.contents (h : Heap F) (id : TensorId) : List F :=
  match h.tensors[id]? with
  | none => []
  | some t => h.read t

def byteSize (values : List F) : Nat := mul64 values.length 4

/-- `next_tensor_identity.fetch_add(1)`. -/
def Heap.drawIdentity (h : Heap F) : Heap F :=
  { h with nextIdentity := add64 h.nextIdentity 1, drawn := h.drawn + 1 }

def Heap.newTensor (h : Heap F) (shape : ShapeInfo) (values : List F) (identity : Nat) : Heap F :=
  { h with
    storages := h.storages ++ [values]
    counters := h.counters ++ [{ value := 0, identity := identity }]
    tensors := h.tensors ++ [{
      shape := shape
      storage := h.storages.length
      dtype := .float32
      device := .cpu
      deviceIndex := 0
      storageOffset := 0
      versionCounter := h.counters.length
      autogradMeta := none }]
    liveBytes := add64 h.liveBytes (byteSize values) }

/-- A tensor over the storage and version counter of `source`. -/
def Heap.newView (h : Heap F) (shape : ShapeInfo) (source : Tensor) : Heap F :=
  { h with tensors := h.tensors ++ [{ source with shape := shape, autogradMeta := none }] }

def Heap.setMeta (h : Heap F) (id : TensorId) (autogradMeta : Option AutogradMeta) : Heap F :=
  { h with tensors := h.tensors.modify id fun t => { t with autogradMeta := autogradMeta } }

def Heap.setStorage (h : Heap F) (id : StorageId) (values : List F) : Heap F :=
  { h with storages := h.storages.set id values }

def Heap.bumpVersion (h : Heap F) (id : CounterId) : Heap F :=
  { h with counters := h.counters.modify id fun c => { c with value := add64 c.value 1 } }

/-- A mutator's write of the whole value vector of a storage. -/
def Heap.mutate (h : Heap F) (id : StorageId) (values : List F) : Heap F :=
  { h.setStorage id values with mutations := id :: h.mutations }

/-- `std::make_shared<Tensor>(shape, storage)`: the tensor, its version counter, and the anchor of
its identity, which is drawn before the anchor is allocated. -/
def makeSharedTensor (shape : ShapeInfo) (values : List F) : Mem F TensorId := do
  allocate
  allocate
  let identity := (← getHeap).nextIdentity
  modifyHeap Heap.drawIdentity
  allocate
  let h ← getHeap
  modifyHeap fun h => h.newTensor shape values identity
  return h.tensors.length

def incrementVersion (t : Tensor) : Mem F Unit :=
  modifyHeap fun h => h.bumpVersion t.versionCounter

def mutateStorage (t : Tensor) (values : List F) : Mem F Unit :=
  modifyHeap fun h => h.mutate t.storage values

/-- `ValidateShape` with the vectors it builds. -/
def validatedShape (dims : List Int) : Mem F ShapeInfo := do
  allocate
  match validateShape dims with
  | .ok shape => pure shape
  | .error failure => throw failure

/-- `CpuStorage::Filled`: the vector a storage will own. -/
def cpuStorageFilled (numel : Nat) (value : F) : Mem F (List F) :=
  allocationGuard "cpu storage" do
    allocateFloats numel
    return List.replicate numel value

/-- `CpuStorage::FromData`: `numel` values copied from `data`. -/
def cpuStorageFromData (data : List F) (numel : Nat) : Mem F (List F) :=
  allocationGuard "cpu storage" do
    allocateFloats numel
    failIf (data.length < numel) (.fault .outOfRange)
    return data.take numel

/-- `CpuStorage::CopyToHostF32`, the raw storage contents. -/
def cpuStorageCopyToHostF32 (values : List F) (capacity : Nat) : Mem F (List F) := do
  failIf (capacity < values.length)
    (invalidArgument "cpu storage: output capacity is too small")
  return values

def Tensor.copyToHostF32 (t : Tensor) (capacity : Nat) : Mem F (List F) := do
  failIf (t.dtype ≠ .float32) (unsupported "tensor copy: tensor dtype is not float32")
  failIf (capacity < t.numel)
    (invalidArgument "tensor copy: output capacity is smaller than tensor")
  let values ← storageValues t
  if t.isContiguous ∧ t.storageOffset = 0 ∧ byteSize values = t.shape.byteSize then do
    let written ← cpuStorageCopyToHostF32 values capacity
    failIf (written.length ≠ t.numel)
      (internalError "tensor copy: storage returned an inconsistent element count")
    return written
  else do
    failIf (t.device ≠ .cpu ∨ t.deviceIndex ≠ 0)
      (unsupported "tensor copy: non-contiguous accelerator views are not qualified yet")
    (List.range t.numel).mapM fun logicalIndex =>
      match values[t.logicalStorageIndex logicalIndex]? with
      | some value => pure value
      | none => throw (internalError "tensor copy: view layout exceeds backing storage")

end Primitives

end Tensora
