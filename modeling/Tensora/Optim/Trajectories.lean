import Tensora.Api.Sample
import Tensora.Optim.Cleanup
import Tensora.Optim.Partitions

/-! The trajectories of the parameters: they do not depend on how the parameters are divided into
groups, and a construction that fails midway leaves no native optimizer behind. -/
namespace Tensora.Optim
open ProgramLogic Training
open Adoption (Thrown)
open Dart (Isolate IsolateM IsolateAnswer Ledger shiftedTensor shiftedWrapper)
open Api (Part)

variable {F D : Type}

structure ParameterView (F : Type) where
  values : List F
  gradient : Option (List F)
  version : Nat
  requiresGrad : Bool
  deriving DecidableEq

def viewOf (s : Isolate F D) (parameter : Nat) : Option (ParameterView F) :=
  (tensorOf s parameter).map fun id =>
    { values := (runtimeOf s).heap.contents id
      gradient := ((runtimeOf s).heap.gradient id).map (runtimeOf s).heap.contents
      version := (runtimeOf s).heap.version id
      requiresGrad := (runtimeOf s).heap.requiresGrad id }

section Course
variable {n k room : Nat} {kind : OptimizerKind} {hyper : Hyperparameters D}
  {optimizer optimizer' : Optimizer D} {parts parts' : List Part} {s t : Isolate F D}

theorem Driven.tensorOf_eq (h : Driven n k kind hyper optimizer optimizer' parts parts' room s t)
    (parameter : Nat) : tensorOf t parameter = tensorOf s parameter := by
  have hhandle : handleOf t parameter = (handleOf s parameter).map (shift n k) := by
    unfold handleOf
    rw [h.parameters, h.hosts.tensors]
    cases s.parameters[parameter]? with
    | none => rfl
    | some object =>
        simp only [Option.bind_some, List.getElem?_map]
        split
        · rfl
        · cases s.host.tensors[object.tensor]? with
          | none => rfl
          | some wrapper =>
              cases hdisposed : wrapper.disposed <;>
                simp [shiftedTensor, shiftedWrapper, hdisposed]
  have hobject : ∀ handle, (runtimeOf t).objectOf (shift n k handle) .tensor =
      (runtimeOf s).objectOf handle .tensor := by
    intro handle
    unfold Runtime.objectOf
    simp only [shift_eq_zero]
    rcases h.hosts.native.runtime.registry.shifted.cases handle with
      ⟨hfind, hfind'⟩ | ⟨e, e', hfind, hfind', he⟩
    · change (runtimeOf s).registry.find handle = none at hfind
      change (runtimeOf t).registry.find (shift n k handle) = none at hfind'
      rw [hfind, hfind']
    · change (runtimeOf s).registry.find handle = some e at hfind
      change (runtimeOf t).registry.find (shift n k handle) = some e' at hfind'
      rw [hfind, hfind']
      have htensor : HandleType.tensor.isOptimizer = false := rfl
      rcases he.of_type htensor with rfl | ⟨hne, hne'⟩
      · rfl
      · simp only [Option.bind_some, hne, hne', if_false]
  unfold tensorOf
  rw [hhandle, Option.bind_map]
  exact congrArg (Option.bind _) (funext hobject)

theorem Driven.viewOf_eq (h : Driven n k kind hyper optimizer optimizer' parts parts' room s t)
    (parameter : Nat) : viewOf t parameter = viewOf s parameter := by
  have hheap : (runtimeOf t).heap.erased = (runtimeOf s).heap.erased := h.hosts.native.runtime.heap
  have hview : ∀ s : Isolate F D, viewOf s parameter = (tensorOf s parameter).map fun id =>
      { values := (runtimeOf s).heap.erased.contents id
        gradient := ((runtimeOf s).heap.erased.gradient id).map (runtimeOf s).heap.erased.contents
        version := (runtimeOf s).heap.erased.version id
        requiresGrad := (runtimeOf s).heap.erased.requiresGrad id } := fun _ => rfl
  rw [hview, hview, h.tensorOf_eq, hheap]

variable [Scalar F] [Scalar D] [Precision F D] [FloatBits F]

def answerOf (result : EStateM.Result Thrown (Isolate F D) (IsolateAnswer D)) :
    Except Thrown (IsolateAnswer D) :=
  match result with
  | .ok answer _ => .ok answer
  | .error thrown _ => .error thrown

def Optimizer.answers (optimizer : Optimizer D) (s : Isolate F D) :
    List (Act D) → List (Except Thrown (IsolateAnswer D))
  | [] => []
  | act :: acts => answerOf (optimizer.act act s) :: optimizer.answers (optimizer.acted s act) acts

/-- What can be read of a parameter, before each act and at the end. -/
def Optimizer.trajectory (optimizer : Optimizer D) (s : Isolate F D) (parameter : Nat) :
    List (Act D) → List (Option (ParameterView F))
  | [] => [viewOf s parameter]
  | act :: acts =>
      viewOf s parameter :: optimizer.trajectory (optimizer.acted s act) parameter acts

/-- Two optimizers are answered alike and take the parameters along the same trajectories. -/
structure SameCourse (parameters : List Nat) (acts : List (Act D)) (optimizer : Optimizer D)
    (s : Isolate F D) (optimizer' : Optimizer D) (t : Isolate F D) : Prop where
  answers : optimizer'.answers t acts = optimizer.answers s acts
  trajectories : ∀ p ∈ parameters, optimizer'.trajectory t p acts = optimizer.trajectory s p acts

omit [Scalar F] [Scalar D] [Precision F D] [FloatBits F] in
theorem answerOf_eq {R : Isolate F D → Isolate F D → Prop}
    {x y : EStateM.Result Thrown (Isolate F D) (IsolateAnswer D)} (h : Matched R x y) :
    answerOf y = answerOf x := by
  cases x <;> cases y
  · exact congrArg Except.ok h.1.symm
  · exact h.elim
  · exact h.elim
  · exact congrArg Except.error h.1.symm

theorem Driven.course (parameters : List Nat) {acts : List (Act D)}
    (h : Driven n k kind hyper optimizer optimizer' parts parts' (room + 2 * acts.length) s t) :
    SameCourse parameters acts optimizer s optimizer' t := by
  induction acts generalizing s t with
  | nil => exact ⟨rfl, fun p _ => congrArg (fun view => [view]) (h.viewOf_eq p)⟩
  | cons act acts ih =>
      have hroom : room + 2 * (act :: acts).length = room + 2 * acts.length + 2 := by
        rw [List.length_cons]
        omega
      rw [hroom] at h
      have hact := h.act act
      obtain ⟨hanswers, htrajectories⟩ := ih (acted_of_matched hact)
      exact ⟨congrArg₂ List.cons (answerOf_eq hact) hanswers, fun p hp =>
        congrArg₂ List.cons (h.viewOf_eq p) (htrajectories p hp)⟩

end Course

section Transparency
variable [Scalar F] [Scalar D] [Precision F D] [FloatBits F] {s : Isolate F D}
  {kind : OptimizerKind} {given : Hyperparameters D} {groups : List (ParameterGroup D)}

/-- What a program of an isolate can lead to, whichever allocations fail. -/
def Reached (s : Isolate F D) : Prop :=
  ∃ fails callocFails files requests,
    s = Dart.runIsolate (Dart.initialIsolate fails callocFails files) requests

omit [Scalar F] [Scalar D] [Precision F D] [FloatBits F] in
/-- From here on no allocation fails, and there are handles for `room` more. -/
structure Unfailing (room : Nat) (s : Isolate F D) : Prop where
  memory : (runtimeOf s).memory.allocator.Lasts
  calloc : s.host.native.calloc.Lasts
  room : (runtimeOf s).registry.nextHandle + room < maxU64

/-- Both constructions give optimizers that take the parameters along the same trajectories, or
both throw. -/
inductive Agree (parameters : List Nat) (acts : List (Act D)) :
    EStateM.Result Thrown (Isolate F D) (Optimizer D) →
    EStateM.Result Thrown (Isolate F D) (Optimizer D) → Prop where
  | returned {optimizer optimizer' : Optimizer D} {s t : Isolate F D}
      (course : SameCourse parameters acts optimizer s optimizer' t) :
      Agree parameters acts (.ok optimizer s) (.ok optimizer' t)
  | thrown (thrown thrown' : Thrown) (s t : Isolate F D) :
      Agree parameters acts (.error thrown s) (.error thrown' t)

/-- The checks pass, and the creation for one of the groups throws. -/
structure CreationFails (kind : OptimizerKind) (given : Hyperparameters D) (s : Isolate F D)
    (groups : List (ParameterGroup D)) (thrown : Thrown) : Prop where
  checked : checksOf kind given s = .ok () s
  validated : validatedGroups groups s = .ok groups s
  fails : FailsAt (createOf kind given) s groups thrown

theorem Reached.ledger (h : Reached s) : Ledger 0 s := by
  obtain ⟨fails, callocFails, files, requests, rfl⟩ := h
  exact (Dart.ledger_initial fails callocFails files).run requests

theorem Partition.agree (l : Ledger 0 s) {whole : ParameterGroup D}
    (p : Partition kind given s whole groups) {acts : List (Act D)}
    (u : Unfailing (groups.length + 2 * acts.length) s) :
    Agree whole.parameters acts (ofGroups kind given [whole] s) (ofGroups kind given groups s) := by
  obtain ⟨store, r⟩ := l.tensors
  cases groups with
  | nil =>
      -- no group and no parameter: one construction throws for the first, the other for the second
      have hempty : whole.parameters = [] := List.perm_nil.mp p.parts
      obtain ⟨_, _, hleft, -⟩ := error_of_wp (wp_ofGroups_empty kind given (s := s) hempty)
      obtain ⟨_, _, hright, -⟩ := error_of_wp (wp_ofGroups_nil kind given (s := s))
      rw [hleft, hright]
      exact .thrown _ _ _ _
  | cons group rest =>
      have hne : group :: rest ≠ [] := List.cons_ne_nil _ _
      have hroom := u.room
      rw [List.length_cons] at hroom
      have a : Ample (0 + 2 * acts.length + [whole].length) s :=
        ⟨r.ok, u.memory, u.calloc, by rw [List.length_singleton]; omega⟩
      have a' : Ample (0 + 2 * acts.length + (group :: rest).length) s :=
        ⟨r.ok, u.memory, u.calloc, by rw [List.length_cons]; omega⟩
      have hself : ∀ group ∈ [whole], hyperOf kind given group = hyperOf kind given whole :=
        List.forall_mem_singleton.mpr rfl
      have hleft := wp_ofGroups a (List.cons_ne_nil _ _) hself
        (List.forall_mem_singleton.mpr (p.graded_whole hne))
      have hright := wp_ofGroups a' hne p.equal p.graded
      unfold wp at hleft hright
      cases hs : ofGroups kind given [whole] s <;>
        cases ht : ofGroups kind given (group :: rest) s <;> rw [hs] at hleft <;>
        rw [ht] at hright
      · obtain ⟨-, parts, c⟩ := hleft
        obtain ⟨-, parts', c'⟩ := hright
        exact .returned ((driven_of_constructed l List.length_cons p c c').course _)
      · exact absurd ((p.constructible_iff hne).mp hleft.1) hright
      · exact absurd ((p.constructible_iff hne).mpr hright.1) hleft
      · exact .thrown _ _ _ _

theorem CreationFails.undone (l : Ledger 0 s) {thrown : Thrown}
    (h : CreationFails kind given s groups thrown) :
    ∃ t, ofGroups kind given groups s = .error thrown t ∧ SameNatives s t := by
  have hcreate : ∀ group, ∃ hyper,
      createOf kind given group = (nativeOf kind hyper group.parameters : IsolateM F D Nat) :=
    fun group => ⟨hyperOf kind given group, rfl⟩
  obtain ⟨t, hrun, hsame⟩ := createNativeGroups_undone l hcreate h.fails
  refine ⟨t, ?_, hsame⟩
  rw [ofGroups_eq, bind_eq h.checked]
  unfold Optimizer.overGroups
  rw [bind_eq h.validated]
  change EStateM.bind (createNativeGroups _ groups []) _ s = _
  rw [EStateM.bind, hrun]

theorem creationFails_of_error (haccept : accepts kind given = true) (hne : groups ≠ [])
    (hidentified : Identified s (groups.flatMap ParameterGroup.parameters)) {thrown : Thrown}
    {t : Isolate F D} (h : ofGroups kind given groups s = .error thrown t) :
    ∃ thrown, CreationFails kind given s groups thrown := by
  have hchecked : checksOf kind given s = .ok () s := by
    obtain ⟨_, _, hrun, rfl, -⟩ := ok_of_wp (wp_mono (verifies_checksOf kind given s)
      (fun _ _ h => h) fun _ _ h => Bool.false_ne_true (h.2.symm.trans haccept))
    exact hrun
  have hvalidated : validatedGroups groups s = .ok groups s := by
    obtain ⟨_, _, hrun, rfl, rfl, -⟩ := ok_of_wp (wp_mono (wp_validatedGroups (s := s) hne)
      (fun _ _ h => h) fun _ _ h => h.2 hidentified)
    exact hrun
  rw [ofGroups_eq, bind_eq hchecked] at h
  unfold Optimizer.overGroups at h
  rw [bind_eq hvalidated] at h
  change EStateM.bind (createNativeGroups _ groups []) _ s = _ at h
  cases hx : createNativeGroups (createOf kind given) groups [] s with
  | ok _ _ =>
      rw [EStateM.bind, hx] at h
      cases h
  | error e t' =>
      obtain ⟨thrown, hfails⟩ := failsAt_of_error [] rfl hx
      exact ⟨thrown, hchecked, hvalidated, hfails⟩

theorem partition_transparent (reached : Reached s) (kind : OptimizerKind)
    (given : Hyperparameters D) (groups : List (ParameterGroup D)) :
    (∀ whole acts, Partition kind given s whole groups →
      Unfailing (groups.length + 2 * acts.length) s →
      Agree whole.parameters acts (ofGroups kind given [whole] s)
        (ofGroups kind given groups s)) ∧
    ∀ thrown, CreationFails kind given s groups thrown →
      ∃ t, ofGroups kind given groups s = .error thrown t ∧ SameNatives s t :=
  ⟨fun _ _ p u => p.agree reached.ledger u, fun _ h => h.undone reached.ledger⟩

end Transparency

section Sample

def twoLeaves : List (Dart.IsolateRequest Word) :=
  [.tensor (.fromList [3] ⟨[1], 1⟩ .float32 ⟨.cpu, 0⟩), .tensor (.withRequiresGrad 0 true),
    .tensor (.fromList [5] ⟨[1], 1⟩ .float32 ⟨.cpu, 0⟩), .tensor (.withRequiresGrad 2 true),
    .fromTensor 1, .fromTensor 3]

def twoParameters (fails : Nat → Bool) : Isolate Word Word :=
  Dart.runIsolate (Dart.initialIsolate fails (fun _ => false) emptyDisk) twoLeaves

theorem reached_twoParameters (fails : Nat → Bool) : Reached (twoParameters fails) :=
  ⟨fails, fun _ => false, emptyDisk, twoLeaves, rfl⟩

def groupOf (parameters : List Nat) : ParameterGroup Word where
  parameters := parameters
  learningRate := none
  momentum := none
  beta1 := none
  beta2 := none
  epsilon := none
  weightDecay := none

def rolling : Hyperparameters Word := ⟨1, 1, 0, 0, 0, 0⟩

theorem partition_twoParameters {fails : Nat → Bool}
    (hdistinct : ((([0, 1] : List Nat).filterMap (tensorOf (twoParameters fails))).map
      (runtimeOf (twoParameters fails)).heap.identity).Nodup)
    (hfirst : trainable (twoParameters fails) [0] ≠ [])
    (hsecond : trainable (twoParameters fails) [1] ≠ []) :
    Partition .sgd rolling (twoParameters fails) (groupOf [0, 1]) [groupOf [0], groupOf [1]] where
  parts := .refl _
  equal := List.forall_mem_cons.mpr ⟨rfl, List.forall_mem_singleton.mpr rfl⟩
  distinct := hdistinct
  graded := List.forall_mem_cons.mpr ⟨hfirst, List.forall_mem_singleton.mpr hsecond⟩

def oneStep : List (Act Word) :=
  [.tensor (.multiply 1 3), .tensor (.sum 4), .tensor (.backward 5), .step]

def twoSteps : List (Act Word) :=
  oneStep ++ [.zeroGrad, .tensor (.multiply 1 3), .tensor (.sum 6), .tensor (.backward 7), .step]

def valuesOf (acts : List (Act Word)) (parameter : Nat) :
    EStateM.Result Thrown (Isolate Word Word) (Optimizer Word) → List (Option (List Word))
  | .ok optimizer s => (optimizer.trajectory s parameter acts).map (·.map ParameterView.values)
  | .error _ _ => []

theorem Agree.valuesOf_eq {parameters : List Nat} {acts : List (Act Word)} {p : Nat}
    {x y : EStateM.Result Thrown (Isolate Word Word) (Optimizer Word)}
    (h : Agree parameters acts x y) (hp : p ∈ parameters) :
    valuesOf acts p y = valuesOf acts p x := by
  cases h with
  | returned course => exact congrArg (List.map _) (course.trajectories p hp)
  | thrown => rfl

theorem error_of_valuesOf {acts : List (Act Word)} {p : Nat}
    {x : EStateM.Result Thrown (Isolate Word Word) (Optimizer Word)} (h : valuesOf acts p x = []) :
    ∃ thrown t, x = .error thrown t := by
  cases x with
  | ok optimizer s => cases acts <;> cases h
  | error thrown t => exact ⟨thrown, t, rfl⟩

theorem partition_transparent_two :
    Agree (groupOf [0, 1]).parameters twoSteps
      (ofGroups .sgd rolling [groupOf [0, 1]] (twoParameters fun _ => false))
      (ofGroups .sgd rolling [groupOf [0], groupOf [1]] (twoParameters fun _ => false)) ∧
    valuesOf twoSteps 1
        (ofGroups .sgd rolling [groupOf [0], groupOf [1]] (twoParameters fun _ => false)) =
      [some [5], some [5], some [5], some [5], some [2], some [2], some [2], some [2], some [2],
        some [1]] ∧
    ∃ thrown t, ofGroups .sgd rolling [groupOf [0], groupOf [1]] (twoParameters (· == 43)) =
      .error thrown t ∧ SameNatives (twoParameters (· == 43)) t := by
  refine ⟨?_, by decide +kernel, ?_⟩
  · refine (partition_transparent (reached_twoParameters _) .sgd rolling
      [groupOf [0], groupOf [1]]).1 (groupOf [0, 1]) twoSteps
        (partition_twoParameters (by decide +kernel) (by decide +kernel) (by decide +kernel)) ?_
    exact ⟨fun _ _ => rfl, fun _ _ => rfl, by decide +kernel⟩
  · have hnone : valuesOf oneStep 0 (ofGroups .sgd rolling [groupOf [0], groupOf [1]]
        (twoParameters (· == 43))) = [] := by decide +kernel
    obtain ⟨_, _, herror⟩ := error_of_valuesOf hnone
    obtain ⟨thrown, hfails⟩ := creationFails_of_error rfl (List.cons_ne_nil _ _)
      ⟨by decide +kernel, by decide +kernel⟩ herror
    exact ⟨thrown, (partition_transparent (reached_twoParameters _) .sgd rolling
      [groupOf [0], groupOf [1]]).2 thrown hfails⟩

/-- Only the steps of the groups come to the allocation that fails, in the second of them. -/
theorem partition_transparent_fails : ¬∀ s : Isolate Word Word, Reached s →
    ∀ kind given groups whole acts, Partition kind given s whole groups →
      Agree whole.parameters acts (ofGroups kind given [whole] s)
        (ofGroups kind given groups s) := by
  intro h
  have hagree := h (twoParameters (· == 140)) (reached_twoParameters _) .sgd rolling
    [groupOf [0], groupOf [1]] (groupOf [0, 1]) oneStep
    (partition_twoParameters (by decide +kernel) (by decide +kernel) (by decide +kernel))
  have hvalues := hagree.valuesOf_eq (p := 1) (by decide)
  revert hvalues
  decide +kernel

end Sample

end Tensora.Optim
