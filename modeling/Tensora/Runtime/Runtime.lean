import Tensora.Runtime.HandleRegistry
import Tensora.Training.Operations

/-! The state of the whole core build, and the two parts of it that programs of
the memory and of the registry run on. -/
namespace Tensora

structure Hyperparameters (D : Type) where
  learningRate : D
  momentum : D
  beta1 : D
  beta2 : D
  epsilon : D
  weightDecay : D

inductive OptimizerKind where
  | sgd
  | adam
  | adamW
  deriving DecidableEq, Repr

structure Moments (F : Type) where
  step : Nat
  firstMoment : List (List F)
  secondMoment : List (List F)

/-- `OptimizerState`, bound to a module. -/
structure OptimizerState (F D : Type) where
  kind : OptimizerKind
  module : Nat
  hyper : Hyperparameters D
  moments : Moments F

/-- `nn_v2_optimizer::State`, over a list of tensors. -/
structure ParameterOptimizerState (F D : Type) where
  kind : OptimizerKind
  parameters : List TensorId
  hyper : Hyperparameters D
  moments : Moments F

/-- The engine's seed and how many numbers it has drawn since. -/
structure Rng where
  seed : Nat
  draws : Nat
  deriving DecidableEq, Repr

/-- A file holds at most `capacity` bytes. -/
structure FileSystem where
  contents : String → Option (List UInt8)
  writable : String → Bool
  capacity : Nat

structure Runtime (F D : Type) where
  memory : Memory F
  registry : HandleRegistry
  modules : List Training.LinearState
  optimizers : List (OptimizerState F D)
  parameterOptimizers : List (ParameterOptimizerState F D)
  rng : Rng
  files : FileSystem

abbrev Native (F D : Type) := EStateM Failure (Runtime F D)

variable {F D α : Type}

def Runtime.heap (s : Runtime F D) : Heap F := s.memory.heap

def Runtime.initial (fails : Nat → Bool) (files : FileSystem) : Runtime F D where
  memory := { heap := Heap.empty F, allocator := { count := 0, fails := fails } }
  registry := HandleRegistry.initial
  modules := []
  optimizers := []
  parameterOptimizers := []
  rng := { seed := 0, draws := 0 }
  files := files

def onMemory (program : Mem F α) : Native F D α := fun s =>
  match program s.memory with
  | .ok a m => .ok a { s with memory := m }
  | .error e m => .error e { s with memory := m }

def onRegistry (program : RegistryM α) : Native F D α := fun s =>
  match program s.registry with
  | .ok a r => .ok a { s with registry := r }
  | .error e r => .error e { s with registry := r }

/-- `HandleRegistry::Insert`, with the node it allocates taken from the allocator. -/
def insertHandle (type : HandleType) (object : Nat) : Native F D Nat := do
  let allocator := (← get).memory.allocator
  modify fun s => { s with memory := { s.memory with
    allocator := { allocator with count := allocator.count + 1 } } }
  onRegistry (HandleRegistry.insert type (some object) (!allocator.fails allocator.count))

def lookupTensor (handle : Nat) : Native F D TensorId :=
  onRegistry (HandleRegistry.lookup handle .tensor)

def insertTensor (tensor : TensorId) : Native F D Nat := insertHandle .tensor tensor

def lookupModule (handle : Nat) : Native F D (Nat × Training.LinearState) := do
  let object ← onRegistry (HandleRegistry.lookup handle .module)
  match (← get).modules[object]? with
  | some state => pure (object, state)
  | none => throw .danglingReference

def lookupOptimizer (handle : Nat) : Native F D (Nat × OptimizerState F D) := do
  let object ← onRegistry (HandleRegistry.lookup handle .optimizer)
  match (← get).optimizers[object]? with
  | some state => pure (object, state)
  | none => throw .danglingReference

def lookupParameterOptimizer (handle : Nat) : Native F D (Nat × ParameterOptimizerState F D) := do
  let object ← onRegistry (HandleRegistry.lookup handle .parameterOptimizer)
  match (← get).parameterOptimizers[object]? with
  | some state => pure (object, state)
  | none => throw .danglingReference

open ProgramLogic

@[simp] theorem wp_onMemory (program : Mem F α) (Q : α → Runtime F D → Prop)
    (E : Failure → Runtime F D → Prop) (s : Runtime F D) :
    wp (onMemory program) Q E s ↔
      wp program (fun a m => Q a { s with memory := m }) (fun e m => E e { s with memory := m })
        s.memory := by
  unfold wp onMemory
  cases program s.memory <;> rfl

@[simp] theorem wp_onRegistry (program : RegistryM α) (Q : α → Runtime F D → Prop)
    (E : Failure → Runtime F D → Prop) (s : Runtime F D) :
    wp (onRegistry program) Q E s ↔
      wp program (fun a r => Q a { s with registry := r }) (fun e r => E e { s with registry := r })
        s.registry := by
  unfold wp onRegistry
  cases program s.registry <;> rfl

end Tensora
