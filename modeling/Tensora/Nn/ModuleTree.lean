import Tensora.Lib.ProgramLogic

/-! Trees of neural-network modules: containers that run their children in order, models around
the tree they build, and leaves of any kind. -/
namespace Tensora.Nn

inductive Thrown where
  | disposedTensor (message operation : String)
  | invalidArgument (message operation : String)
  | unsupportedOperation (message operation : String)
  | nativeRuntime (message operation : String)
  | other (what : String)
  deriving DecidableEq, Repr

/-- The identity of a module object, and its `_disposed`. -/
structure Node where
  id : Nat
  disposed : Bool
  deriving DecidableEq, Repr

/-- `failure` is what materializing the model throws; without one it has built `root`. -/
inductive Module (L : Type) where
  | leaf (node : Node) (layer : L)
  | sequential (node : Node) (children : List (Module L))
  | model (node : Node) (failure : Option Thrown) (root : Module L)

variable {L σ : Type}

namespace Module

def node : Module L → Node
  | .leaf node _ => node
  | .sequential node _ => node
  | .model node _ _ => node

/-- What materializing the module itself throws. -/
def failure : Module L → Option Thrown
  | .model _ failure _ => failure
  | _ => none

mutual

/-- The module objects of the tree, in the order of a traversal. -/
def ids : Module L → List Nat
  | .leaf node _ => [node.id]
  | .sequential node children => node.id :: idsOf children
  | .model node _ root => node.id :: root.ids

def idsOf : List (Module L) → List Nat
  | [] => []
  | child :: rest => child.ids ++ idsOf rest

end

mutual

def leaves : Module L → List (Node × L)
  | .leaf node layer => [(node, layer)]
  | .sequential _ children => leavesOf children
  | .model _ _ root => root.leaves

def leavesOf : List (Module L) → List (Node × L)
  | [] => []
  | child :: rest => child.leaves ++ leavesOf rest

end

mutual

def failures : Module L → List Thrown
  | .leaf _ _ => []
  | .sequential _ children => failuresOf children
  | .model _ failure root => failure.toList ++ root.failures

def failuresOf : List (Module L) → List Thrown
  | [] => []
  | child :: rest => child.failures ++ failuresOf rest

end

mutual

theorem leaves_sublist : (module : Module L) →
    (module.leaves.map fun leaf => leaf.1.id).Sublist module.ids
  | .leaf node _ => List.Sublist.refl [node.id]
  | .sequential node children => (leavesOf_sublist children).cons node.id
  | .model node _ root => (leaves_sublist root).cons node.id

theorem leavesOf_sublist : (children : List (Module L)) →
    ((leavesOf children).map fun leaf => leaf.1.id).Sublist (idsOf children)
  | [] => List.Sublist.refl []
  | child :: rest => by
      unfold leavesOf idsOf
      rw [List.map_append]
      exact (leaves_sublist child).append (leavesOf_sublist rest)

end

end Module

def throwIf (condition : Prop) [Decidable condition] (thrown : Thrown) : EStateM Thrown σ Unit :=
  if condition then throw thrown else pure ()

def ensureLive (node : Node) (operation : String) : EStateM Thrown σ Unit :=
  throwIf (node.disposed = true)
    (.disposedTensor "Module has already been disposed." ("module." ++ operation))

/-- `internalEnsureMaterialized` of a model. -/
def ensureMaterialized (failure : Option Thrown) : EStateM Thrown σ Unit :=
  match failure with
  | none => pure ()
  | some thrown => throw thrown

open ProgramLogic

@[simp] theorem wp_throwIf (condition : Prop) [Decidable condition] (thrown : Thrown)
    (Q : Unit → σ → Prop) (E : Thrown → σ → Prop) (s : σ) :
    wp (throwIf condition thrown) Q E s ↔
      (condition → E thrown s) ∧ (¬condition → Q () s) := by
  unfold throwIf
  by_cases h : condition <;> simp [h]

theorem wp_ensureLive {node : Node} {operation : String} {Q : Unit → σ → Prop}
    {E : Thrown → σ → Prop} {s : σ} (hq : Q () s) (he : ∀ thrown, E thrown s) :
    wp (ensureLive node operation) Q E s := by
  unfold ensureLive
  rw [wp_throwIf]
  exact ⟨fun _ => he _, fun _ => hq⟩

theorem wp_ensureMaterialized {failure : Option Thrown} {Q : Unit → σ → Prop}
    {E : Thrown → σ → Prop} {s : σ} (hq : Q () s) (he : ∀ thrown, E thrown s) :
    wp (ensureMaterialized failure) Q E s := by
  cases failure with
  | none => exact hq
  | some thrown => exact he thrown

end Tensora.Nn
