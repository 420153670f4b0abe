import Tensora.Api.GroupedOptimizers
import Tensora.Optim.Optimizer

/-! The loops of `zeroGrad` and `step` over the native optimizers of the groups: each goes through
the parts of the parameters one after the other. -/
namespace Tensora.Optim
open Dart (Isolate IsolateM Owner DartM Process)
open Api (Part TrainsPart Team PartStepped Cleared exec)
open ProgramLogic Training

variable {F D : Type}

def runtimeOf (s : Isolate F D) : Runtime F D := s.host.native.runtime

def withRuntime (s : Isolate F D) (runtime : Runtime F D) : Isolate F D :=
  { s with host := { s.host with native := { s.host.native with runtime := runtime } } }

/-- The native optimizer at this position is live and holds the handle of the part. -/
def Owns (owners : List Owner) (object : Nat) (part : Part) : Prop :=
  ∃ owner : Owner, owners[object]? = some owner ∧ owner.disposed = false ∧
    owner.handle = part.handle

variable {s : Isolate F D} {object : Nat} {part : Part}

theorem ensureLive_eq (h : Owns (s.owners .parameterOptimizer) object part) (operation : String) :
    (Owner.ensureLive .parameterOptimizer operation object : IsolateM F D _) s =
      .ok part.handle s := by
  obtain ⟨owner, hget, hlive, hhandle⟩ := h
  have hensure : wp (Owner.ensureLive .parameterOptimizer operation object : IsolateM F D _)
      (fun handle s' => s' = s ∧ handle = part.handle) (fun _ _ => False) s := by
    unfold Owner.ensureLive
    rw [wp_bind, wp_get, hget]
    exact wp_ite (fun hdisposed => absurd hdisposed (by rw [hlive]; exact Bool.false_ne_true))
      fun _ => ⟨rfl, hhandle⟩
  obtain ⟨_, _, hrun, rfl, rfl⟩ := ok_of_wp hensure
  exact hrun

variable [Scalar F] [Scalar D] [Precision F D] [FloatBits F]

theorem checkCall_eq (operation abi : String) {call : Api.Call F D} {runtime : Runtime F D}
    {reply : Api.Reply F} (h : exec call (runtimeOf s) = .ok reply runtime) :
    (Dart.onLibrary (Dart.NativeTrainingRuntime.checkCall operation abi call) : IsolateM F D Unit)
      s = .ok () (withRuntime s runtime) := by
  have hcheck : (Dart.check operation abi (exec call) : DartM F D _) s.host.native =
      .ok reply { s.host.native with runtime := runtime } := by
    unfold Dart.check
    rw [show exec call s.host.native.runtime = .ok reply runtime from h]
  have hcall : (Dart.NativeTrainingRuntime.checkCall operation abi call : DartM F D Unit)
      s.host.native = .ok () { s.host.native with runtime := runtime } := by
    unfold Dart.NativeTrainingRuntime.checkCall
    change EStateM.bind (Dart.check operation abi (exec call)) _ s.host.native = _
    rw [EStateM.bind, hcheck]
    rfl
  unfold Dart.onLibrary Dart.onHost Adoption.onNative
  rw [hcall]
  rfl

omit [Scalar F] [Scalar D] [Precision F D] [FloatBits F] in
theorem bind_eq {α β : Type} {x : IsolateM F D α} {f : α → IsolateM F D β} {a : α}
    {s₁ : Isolate F D} (h : x s = .ok a s₁) : (x >>= f) s = f a s₁ := by
  change EStateM.bind x f s = _
  rw [EStateM.bind, h]

theorem nativeStep_eq (h : Owns (s.owners .parameterOptimizer) object part) {runtime : Runtime F D}
    (hexec : exec (.parameterOptimizerStep part.handle) (runtimeOf s) = .ok .done runtime) :
    (Dart.NativeParameterOptimizer.step object : IsolateM F D Unit) s =
      .ok () (withRuntime s runtime) := by
  unfold Dart.NativeParameterOptimizer.step
  rw [bind_eq (ensureLive_eq h "step")]
  exact checkCall_eq _ _ hexec

theorem nativeZeroGrad_eq (h : Owns (s.owners .parameterOptimizer) object part)
    {runtime : Runtime F D}
    (hexec : exec (.parameterOptimizerZeroGrad part.handle) (runtimeOf s) = .ok .done runtime) :
    (Dart.NativeParameterOptimizer.zeroGrad object : IsolateM F D Unit) s =
      .ok () (withRuntime s runtime) := by
  unfold Dart.NativeParameterOptimizer.zeroGrad
  rw [bind_eq (ensureLive_eq h "zeroGrad")]
  exact checkCall_eq _ _ hexec

section Loops
variable {kind : OptimizerKind} {hyper : Hyperparameters D} {slots : Slots F} {step : Nat}
  {natives : List Nat} {parts : List Part}

/-- What stepping every part leaves. -/
structure Stepped (kind : OptimizerKind) (hyper : Hyperparameters D) (slots : Slots F)
    (step : Nat) (s : Runtime F D) (parts : List Part) (s' : Runtime F D) : Prop where
  ok : s'.Ok
  lasts : s'.memory.allocator.Lasts
  registry : s'.registry = s.registry
  heap : s'.heap =
    ((Part.trained parts).foldl (stepSlot kind hyper (add64 step 1)) (s.heap, slots)).1
  trains : ∀ part ∈ parts, TrainsPart kind hyper
    ((Part.trained parts).foldl (stepSlot kind hyper (add64 step 1)) (s.heap, slots)).2
    (add64 step 1) s' part
  others : ∀ (other : Part) slots' step', other.object ∉ parts.map Part.object →
    TrainsPart kind hyper slots' step' s other → TrainsPart kind hyper slots' step' s' other

theorem trained_cons (part : Part) (parts : List Part) :
    Part.trained (part :: parts) = part.parameters ++ Part.trained parts := rfl

theorem stepLoop_eq (ok : (runtimeOf s).Ok) (hlasts : (runtimeOf s).memory.allocator.Lasts)
    (howns : List.Forall₂ (Owns (s.owners .parameterOptimizer)) natives parts)
    (team : Team kind hyper slots step (runtimeOf s) parts) :
    ∃ runtime, (natives.forM Dart.NativeParameterOptimizer.step : IsolateM F D Unit) s =
        .ok () (withRuntime s runtime) ∧
      Stepped kind hyper slots step (runtimeOf s) parts runtime := by
  generalize howners : s.owners .parameterOptimizer = owners at howns
  induction howns generalizing s slots with
  | nil => exact ⟨runtimeOf s, rfl, ok, hlasts, rfl, rfl, fun _ h => absurd h List.not_mem_nil,
      fun _ _ _ _ t => t⟩
  | @cons object part natives parts hfirst hrest ih =>
      obtain ⟨hobjects, hrestObjects⟩ := List.nodup_cons.mp team.objects
      obtain ⟨hnodup, hrestNodup, hdisjoint⟩ := List.nodup_append'.mp team.distinct
      obtain ⟨runtime₁, hexec, hone⟩ :=
        Api.exec_step_part ok hlasts hnodup (team.trains part List.mem_cons_self)
      -- the parts to come have kept their moments
      have hkept : ∀ other ∈ parts, ∀ p ∈ other.parameters,
          (part.parameters.foldl (stepSlot kind hyper (add64 step 1)) ((runtimeOf s).heap, slots)).2
            p = slots p := by
        intro other hother p hp
        refine foldl_stepSlot_of_not_mem kind hyper (fun hmem => ?_) _
        exact hdisjoint hmem (List.mem_flatMap.mpr ⟨other, hother, hp⟩)
      have hteam : Team kind hyper (part.parameters.foldl (stepSlot kind hyper (add64 step 1))
          ((runtimeOf s).heap, slots)).2 step runtime₁ parts := by
        refine ⟨fun other hother => ?_, hrestObjects, hrestNodup⟩
        refine TrainsPart.congr (hone.others other _ _ (fun heq => hobjects ?_)
          (team.trains other (List.mem_cons_of_mem _ hother))) (hkept other hother)
        exact heq ▸ List.mem_map_of_mem hother
      obtain ⟨runtime, hloop, h⟩ :=
        ih (s := withRuntime s runtime₁) hone.ok hone.lasts hteam howners
      have hfold : (Part.trained (part :: parts)).foldl (stepSlot kind hyper (add64 step 1))
          ((runtimeOf s).heap, slots) = (Part.trained parts).foldl
            (stepSlot kind hyper (add64 step 1)) (runtime₁.heap, (part.parameters.foldl
              (stepSlot kind hyper (add64 step 1)) ((runtimeOf s).heap, slots)).2) := by
        rw [trained_cons, List.foldl_append, hone.heap]
      refine ⟨runtime, (bind_eq (nativeStep_eq (howners ▸ hfirst) hexec)).trans hloop, h.ok,
        h.lasts, h.registry.trans hone.registry, ?_, ?_, ?_⟩
      · rw [hfold]
        exact h.heap
      · rw [hfold]
        refine List.forall_mem_cons.mpr ⟨?_, h.trains⟩
        refine TrainsPart.congr (h.others part _ _ hobjects hone.trains) fun p hp => ?_
        exact foldl_stepSlot_of_not_mem kind hyper (fun hmem => hdisjoint hp hmem) _
      · intro other slots' step' hother t
        obtain ⟨hne, hnone⟩ := not_or.mp (mt List.mem_cons.mpr hother)
        exact h.others other _ _ hnone (hone.others other _ _ hne t)

theorem zeroGradLoop_eq (ok : (runtimeOf s).Ok)
    (hlasts : (runtimeOf s).memory.allocator.Lasts)
    (howns : List.Forall₂ (Owns (s.owners .parameterOptimizer)) natives parts)
    (htrains : ∀ part ∈ parts, TrainsPart kind hyper slots step (runtimeOf s) part) :
    ∃ runtime, (natives.forM Dart.NativeParameterOptimizer.zeroGrad : IsolateM F D Unit) s =
        .ok () (withRuntime s runtime) ∧
      Cleared (runtimeOf s) (Part.trained parts) runtime := by
  generalize howners : s.owners .parameterOptimizer = owners at howns
  induction howns generalizing s with
  | nil =>
      exact ⟨runtimeOf s, rfl, ok, .refl ok.wellFormed, hlasts, rfl, rfl, fun _ _ _ _ _ t => t⟩
  | @cons object part natives parts hfirst hrest ih =>
      obtain ⟨runtime₁, hexec, hone⟩ :=
        Api.exec_clear_part ok hlasts (htrains part List.mem_cons_self)
      obtain ⟨runtime, hloop, h⟩ := ih (s := withRuntime s runtime₁) hone.ok hone.lasts
        (fun other hother => hone.trains _ _ _ _ _ (htrains other (List.mem_cons_of_mem _ hother)))
        howners
      refine ⟨runtime, (bind_eq (nativeZeroGrad_eq (howners ▸ hfirst) hexec)).trans hloop, h.ok,
        hone.evolves.trans h.evolves, h.lasts, h.registry.trans hone.registry, ?_,
        fun _ _ _ _ _ t => h.trains _ _ _ _ _ (hone.trains _ _ _ _ _ t)⟩
      rw [trained_cons, List.foldl_append, ← hone.heap]
      exact h.heap

end Loops

end Tensora.Optim
