import Tensora.Nn.ModuleTree

/-! Module objects that own each other: containers take their children when they are made, models
take what their `build` returns when they are first used. -/
namespace Tensora.Nn
open ProgramLogic

/-- A model has its `_materializedRoot` and its `_building`. -/
inductive Kind where
  | leaf
  | sequential (children : List Nat)
  | model (root : Option Nat) (building : Bool)
  deriving DecidableEq, Repr

/-- `internalRegisteredChildren`. -/
def Kind.children : Kind → List Nat
  | .leaf => []
  | .sequential children => children
  | .model root _ => root.toList

def Kind.withBuilding : Kind → Bool → Kind
  | .model root _, building => .model root building
  | kind, _ => kind

def Kind.withRoot : Kind → Nat → Kind
  | .model _ building, root => .model (some root) building
  | kind, _ => kind

structure Object where
  runtimeType : String
  kind : Kind
  owner : Option Nat
  disposed : Bool
  deriving DecidableEq, Repr

/-- The objects made so far have the numbers below `next`; `materialized` are the models that
were given a root, newest first. -/
structure Objects where
  object : Nat → Object
  next : Nat
  materialized : List Nat

namespace Objects

def children (h : Objects) (module : Nat) : List Nat := (h.object module).kind.children

def owner (h : Objects) (module : Nat) : Option Nat := (h.object module).owner

def update (h : Objects) (module : Nat) (change : Object → Object) : Objects :=
  { h with
    object := fun other => if other = module then change (h.object other) else h.object other }

def setOwner (h : Objects) (module : Nat) (owner : Option Nat) : Objects :=
  h.update module fun object => { object with owner }

def setDisposed (h : Objects) (module : Nat) : Objects :=
  h.update module fun object => { object with disposed := true }

def setBuilding (h : Objects) (model : Nat) (building : Bool) : Objects :=
  h.update model fun object => { object with kind := object.kind.withBuilding building }

def setRoot (h : Objects) (model root : Nat) : Objects :=
  { h.update model fun object => { object with kind := object.kind.withRoot root } with
    materialized := model :: h.materialized }

def allocate (h : Objects) (runtimeType : String) (kind : Kind) : Objects :=
  { h.update h.next fun _ => ⟨runtimeType, kind, none, false⟩ with next := h.next + 1 }

end Objects

inductive Operation where
  | sequential (children : List Nat)
  | materialize (model : Nat)
  | dispose (module : Nat)

structure Event where
  operation : Operation
  thrown : Option Thrown
  before : Objects
  after : Objects

structure Session where
  objects : Objects
  events : List Event

abbrev OwnerM := EStateM Thrown Session

inductive Command where
  | newLeaf (runtimeType : String)
  | newModel (runtimeType : String)
  | newSequential (children : List Nat)
  | materialize (module : Nat)
  | dispose (module : Nat)

/-- User code: it sees how each of its calls ended, and all the objects. -/
inductive Script where
  | returns (module : Nat)
  | throws (thrown : Thrown)
  | call (command : Command) (next : Except Thrown Nat → Objects → Script)

/-- The `build` of each model, and what disposing of a module's own resources throws. -/
structure Code where
  build : Nat → Objects → Script
  onDispose : Nat → Objects → Option Thrown

def Session.change (s : Session) (f : Objects → Objects) : Session :=
  { s with objects := f s.objects }

def modifyObjects (f : Objects → Objects) : OwnerM Unit := modify fun s => s.change f

def getObjects : OwnerM Objects := do return (← get).objects

def logged {α : Type} (operation : Operation) (body : OwnerM α) : OwnerM α := fun s =>
  match body s with
  | .ok result s' =>
      .ok result { s' with events := ⟨operation, none, s.objects, s'.objects⟩ :: s'.events }
  | .error thrown s' =>
      .error thrown
        { s' with events := ⟨operation, some thrown, s.objects, s'.objects⟩ :: s'.events }

/-- `try` with a `finally` block. -/
def finally_ (body : OwnerM Unit) (cleanup : OwnerM Unit) : OwnerM Unit := do
  tryCatch body fun thrown => do
    cleanup
    throw thrown
  cleanup

def argumentError (message : String) : Thrown := .other ("Invalid argument(s): " ++ message)

def stackOverflow : Thrown := .other "Stack Overflow"

/-- Code can only name objects that exist. -/
def ensureMade (module : Nat) : OwnerM Unit := do
  let h ← getObjects
  throwIf (h.next ≤ module) (.other "no such object")

def internalAttachOwner (module owner : Nat) : OwnerM Unit := do
  let h ← getObjects
  throwIf ((h.object module).disposed = true)
    (.disposedTensor "Module has already been disposed." "module.attachOwner")
  throwIf (owner = module) (argumentError "A module cannot own itself.")
  throwIf (h.owner module ≠ none) (argumentError
    ("Module " ++ (h.object module).runtimeType ++ " already belongs to another owning path."))
  modifyObjects fun h => h.setOwner module (some owner)

def internalDetachOwner (module owner : Nat) : OwnerM Unit :=
  modifyObjects fun h => if h.owner module = some owner then h.setOwner module none else h

def detachAll (sequential : Nat) : List Nat → OwnerM Unit
  | [] => return
  | child :: rest => do
      internalDetachOwner child sequential
      detachAll sequential rest

/-- The loop of the `Sequential` factory. -/
def attachAll (sequential : Nat) : List Nat → List Nat → OwnerM Unit
  | [], _ => return
  | child :: rest, attached => do
      tryCatch
        (do
          let h ← getObjects
          throwIf ((h.object child).disposed = true)
            (argumentError "Sequential cannot own a disposed child.")
          internalAttachOwner child sequential)
        fun thrown => do
          detachAll sequential attached.reverse
          throw thrown
      attachAll sequential rest (attached ++ [child])

def newSequential (children : List Nat) : OwnerM Nat := do
  let h ← getObjects
  modifyObjects fun h => h.allocate "Sequential" (.sequential children)
  attachAll h.next children []
  return h.next

/-- A loop over children that skips those it has seen. -/
def disposeChildren (dispose : Nat → OwnerM Unit) : List Nat → List Nat → OwnerM Unit
  | [], _ => return
  | child :: rest, seen => do
      if child ∈ seen then disposeChildren dispose rest seen else do
        dispose child
        disposeChildren dispose rest (child :: seen)

/-- `Module.dispose`. Here and below the first argument bounds the depth of the calls. -/
def dispose (code : Code) : Nat → Nat → OwnerM Unit
  | 0, _ => throw stackOverflow
  | stack + 1, module => do
      let h ← getObjects
      if (h.object module).disposed = true then return
      modifyObjects fun h => h.setDisposed module
      disposeChildren (dispose code stack) (h.children module) []
      let h ← getObjects
      match code.onDispose module h with
      | some thrown => throw thrown
      | none => modifyObjects fun h => h.setOwner module none

/-- The loop of `internalContainsModule` over the children. -/
def containsAny (contains : Nat → List Nat → OwnerM (Bool × List Nat)) :
    List Nat → List Nat → OwnerM (Bool × List Nat)
  | [], visited => return (false, visited)
  | child :: rest, visited => do
      let (found, visited) ← contains child visited
      if found = true then return (true, visited)
      containsAny contains rest visited

mutual

def internalEnsureMaterialized (code : Code) : Nat → Nat → OwnerM Unit
  | 0, _ => throw stackOverflow
  | stack + 1, module => do
      let h ← getObjects
      match (h.object module).kind with
      | .model none building => logged (.materialize module) do
          throwIf (building = true) (.invalidArgument
            "Model.build() recursively attempted to materialize the same model." "model.build")
          modifyObjects fun h => h.setBuilding module true
          finally_
            (do
              let h ← getObjects
              let candidate ← runScript code stack (code.build module h)
              throwIf (candidate = module)
                (.invalidArgument "Model.build() cannot return the model itself." "model.build")
              let h ← getObjects
              throwIf ((h.object candidate).disposed = true)
                (.invalidArgument "Model.build() returned a disposed module." "model.build")
              throwIf (h.owner candidate ≠ none) (.invalidArgument
                "Model.build() returned a module already owned by another path." "model.build")
              let (found, _) ← internalContainsModule code stack module candidate []
              throwIf (found = true)
                (.invalidArgument "Model.build() created a cyclic module graph." "model.build")
              internalAttachOwner candidate module
              modifyObjects fun h => h.setRoot module candidate)
            (modifyObjects fun h => h.setBuilding module false)
      | _ => return

def internalContainsModule (code : Code) : Nat → Nat → Nat → List Nat → OwnerM (Bool × List Nat)
  | 0, _, _, _ => throw stackOverflow
  | stack + 1, target, module, visited =>
      if module ∈ visited then return (false, visited) else
      if module = target then return (true, module :: visited) else do
      internalEnsureMaterialized code stack module
      let h ← getObjects
      containsAny (internalContainsModule code stack target) (h.children module) (module :: visited)

def runScript (code : Code) : Nat → Script → OwnerM Nat
  | 0, _ => throw stackOverflow
  | _ + 1, .returns module => do
      ensureMade module
      return module
  | _ + 1, .throws thrown => throw thrown
  | stack + 1, .call command next => do
      let outcome ← tryCatch (Except.ok <$> runCommand code stack command) fun thrown =>
        return .error thrown
      let h ← getObjects
      runScript code stack (next outcome h)

def runCommand (code : Code) : Nat → Command → OwnerM Nat
  | 0, _ => throw stackOverflow
  | _ + 1, .newLeaf runtimeType => do
      let h ← getObjects
      modifyObjects fun h => h.allocate runtimeType .leaf
      return h.next
  | _ + 1, .newModel runtimeType => do
      let h ← getObjects
      modifyObjects fun h => h.allocate runtimeType (.model none false)
      return h.next
  | _ + 1, .newSequential children => do
      children.forM ensureMade
      logged (.sequential children) (newSequential children)
  | stack + 1, .materialize module => do
      ensureMade module
      internalEnsureMaterialized code stack module
      return module
  | stack + 1, .dispose module => do
      ensureMade module
      logged (.dispose module) (dispose code stack module)
      return module

end

def Objects.empty : Objects := ⟨fun _ => ⟨"", .leaf, none, false⟩, 0, []⟩

end Tensora.Nn
