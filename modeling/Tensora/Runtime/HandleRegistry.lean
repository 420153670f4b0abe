import Tensora.Core.Status

/-! The handle registry: typed, reference-counted entries under handles that are
never reused. -/
namespace Tensora

inductive HandleType where
  | tensor
  | runtimeReserved
  | module
  | optimizer
  | inferenceSession
  | parameterOptimizer
  deriving DecidableEq, Repr

/-- `object` stands for the registered `shared_ptr<void>`. -/
structure Entry where
  type : HandleType
  refs : Nat
  object : Nat
  deriving DecidableEq, Repr

/-- `entries` holds at most one entry for a handle. -/
structure HandleRegistry where
  entries : List (Nat × Entry)
  nextHandle : Nat
  deriving DecidableEq, Repr

abbrev RegistryM := EStateM Failure HandleRegistry

namespace HandleRegistry

def initial : HandleRegistry where
  entries := []
  nextHandle := 1

def find (registry : HandleRegistry) (handle : Nat) : Option Entry :=
  registry.entries.lookup handle

def set (registry : HandleRegistry) (handle : Nat) (entry : Entry) : HandleRegistry :=
  { registry with
    entries := registry.entries.map fun p => if p.1 = handle then (handle, entry) else p }

def erase (registry : HandleRegistry) (handle : Nat) : HandleRegistry :=
  { registry with entries := registry.entries.filter fun p => p.1 ≠ handle }

def validateNextHandle (nextHandle : Nat) : RegistryM Unit :=
  failIf (nextHandle = 0 ∨ nextHandle = maxU64)
    (internalError "handle registry: handle identifier space exhausted")

def validateInsertion (inserted : Bool) : RegistryM Unit :=
  failIf (!inserted) (internalError "handle registry: duplicate handle identifier")

def incrementReferenceCount (refs : Nat) : RegistryM Nat := do
  failIf (refs = maxU64) (internalError "handle registry: reference count overflow")
  return refs + 1

def decrementReferenceCount (refs : Nat) : RegistryM Nat := do
  failIf (refs = 0) (internalError "handle registry: corrupted zero reference count")
  return refs - 1

/-- `allocated` tells whether the node `emplace` allocates was obtained. The
handle number is spent before the node is allocated. -/
def insert (type : HandleType) (object : Option Nat) (allocated : Bool) : RegistryM Nat := do
  match object with
  | none => throw (invalidArgument "handle registry: cannot register null object")
  | some object => do
      let handle := (← get).nextHandle
      validateNextHandle handle
      modify fun registry => { registry with nextHandle := add64 registry.nextHandle 1 }
      failIf (!allocated) .badAlloc
      let inserted := ((← get).find handle).isNone
      if inserted then
        modify fun registry => { registry with
          entries := (handle, { type := type, refs := 1, object := object }) :: registry.entries }
      validateInsertion inserted
      return handle

def retain (handle : Nat) (expectedType : HandleType) : RegistryM Unit := do
  failIf (handle = 0) (invalidHandle "handle registry: handle 0 is invalid")
  match (← get).find handle with
  | none => throw (invalidHandle "handle registry: cannot retain unknown/released handle")
  | some entry => do
      failIf (entry.type ≠ expectedType) (invalidHandle "handle registry: handle type mismatch")
      let refs ← incrementReferenceCount entry.refs
      modify fun registry => registry.set handle { entry with refs := refs }

def release (handle : Nat) (expectedType : HandleType) : RegistryM Unit := do
  failIf (handle = 0) (invalidHandle "handle registry: handle 0 is invalid")
  match (← get).find handle with
  | none => throw (invalidHandle "handle registry: cannot release unknown/released handle")
  | some entry => do
      failIf (entry.type ≠ expectedType) (invalidHandle "handle registry: handle type mismatch")
      let refs ← decrementReferenceCount entry.refs
      modify fun registry => registry.set handle { entry with refs := refs }
      if refs = 0 then modify fun registry => registry.erase handle

def lookup (handle : Nat) (expectedType : HandleType) : RegistryM Nat := do
  failIf (handle = 0) (invalidHandle "handle registry: handle 0 is invalid")
  match (← get).find handle with
  | none => throw (invalidHandle "handle registry: unknown or released handle")
  | some entry => do
      failIf (entry.type ≠ expectedType) (invalidHandle "handle registry: handle type mismatch")
      return entry.object

def count (registry : HandleRegistry) (type : HandleType) : Nat :=
  (registry.entries.filter fun p => p.2.type = type).length

end HandleRegistry

end Tensora
