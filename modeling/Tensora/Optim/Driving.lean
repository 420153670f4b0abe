import Tensora.Dart.ShiftedPrograms
import Tensora.Optim.Loops

/-! Two optimizers over the same parameters, divided into other groups, in two isolates that go on
alike: every request, `zeroGrad` and `step` ends alike in both and leaves the tensors the same. -/
namespace Tensora.Optim
open ProgramLogic Training
open Dart (Isolate IsolateM IsolateAnswer Request Hosts Alongside)
open Api (Part Team)

variable {F D : Type}

/-- What a program does that trains with an optimizer. -/
inductive Act (D : Type) where
  | tensor (request : Request D)
  | zeroGrad
  | step

section Runs
variable [Scalar F] [Scalar D] [Precision F D] [FloatBits F]

def Optimizer.act (optimizer : Optimizer D) : Act D → IsolateM F D (IsolateAnswer D)
  | .tensor request => return .tensor (← Dart.onHost (Dart.perform request))
  | .zeroGrad => do
      optimizer.zeroGrad
      return .done
  | .step => do
      optimizer.step
      return .done

def Optimizer.acted (optimizer : Optimizer D) (s : Isolate F D) (act : Act D) : Isolate F D :=
  match optimizer.act act s with
  | .ok _ s' => s'
  | .error _ s' => s'

end Runs

/-- The parts of the native optimizers, their positions, and what they are to keep. -/
structure Drives (kind : OptimizerKind) (hyper : Hyperparameters D) (slots : Slots F) (step : Nat)
    (natives : List Nat) (parts : List Part) (s : Isolate F D) : Prop where
  owns : List.Forall₂ (Owns (s.owners .parameterOptimizer)) natives parts
  team : Team kind hyper slots step (runtimeOf s) parts
  apart : Apart (Part.trained parts) (runtimeOf s).heap

structure Driven (n k : Nat) (kind : OptimizerKind) (hyper : Hyperparameters D)
    (optimizer optimizer' : Optimizer D) (parts parts' : List Part) (room : Nat)
    (s t : Isolate F D) : Prop where
  hosts : Hosts n k (runtimeOf s) (runtimeOf t) room s.host t.host
  parameters : t.parameters = s.parameters
  live : optimizer.disposed = false ∧ optimizer'.disposed = false
  perm : (Part.trained parts).Perm (Part.trained parts')
  drives : ∃ slots step, Drives kind hyper slots step optimizer.nativeOptimizers parts s ∧
    Drives kind hyper slots step optimizer'.nativeOptimizers parts' t

section Acts
variable {n k room : Nat} {kind : OptimizerKind} {hyper : Hyperparameters D}
  {optimizer optimizer' : Optimizer D} {parts parts' : List Part} {s t : Isolate F D}

theorem Drives.resumes {slots : Slots F} {step : Nat} {natives : List Nat}
    (d : Drives kind hyper slots step natives parts s)
    {host : Adoption.Host (Dart.Process F D)}
    (h : (runtimeOf s).Resumes host.native.runtime) :
    Drives kind hyper slots step natives parts { s with host := host } :=
  ⟨d.owns, d.team.of_keeping h.handles h.optimizers, d.apart.evolve h.evolves⟩

variable [Scalar F] [Scalar D] [Precision F D] [FloatBits F]

theorem Driven.tensor (h : Driven n k kind hyper optimizer optimizer' parts parts' (room + 2) s t)
    (request : Request D) :
    Matched (Driven n k kind hyper optimizer optimizer' parts parts' room)
      ((do return .tensor (← Dart.onHost (Dart.perform request)) :
        IsolateM F D (IsolateAnswer D)) s)
      ((do return .tensor (← Dart.onHost (Dart.perform request)) :
        IsolateM F D (IsolateAnswer D)) t) := by
  have hrun := Dart.coupled_perform request s.host t.host h.hosts
  have hnext : ∀ host host', Hosts n k (runtimeOf s) (runtimeOf t) room host host' →
      Driven n k kind hyper optimizer optimizer' parts parts' room { s with host := host }
        { t with host := host' } := by
    intro host host' hhosts
    obtain ⟨slots, step, hleft, hright⟩ := h.drives
    have hresumes := hhosts.native.left
    have hresumes' := hhosts.native.right
    exact ⟨⟨⟨hhosts.native.runtime, hhosts.native.calloc, .refl hresumes.ok, .refl hresumes'.ok⟩,
      hhosts.tensors⟩, h.parameters, h.live, h.perm, slots, step, hleft.resumes hresumes,
      hright.resumes hresumes'⟩
  change Matched _ (EStateM.bind (Dart.onHost _) _ s) (EStateM.bind (Dart.onHost _) _ t)
  unfold EStateM.bind Dart.onHost
  cases hs : Dart.perform request s.host <;> cases ht : Dart.perform request t.host <;>
    rw [hs, ht] at hrun
  · exact ⟨congrArg IsolateAnswer.tensor hrun.1, hnext _ _ hrun.2⟩
  · exact hrun.elim
  · exact hrun.elim
  · exact ⟨hrun.1, hnext _ _ hrun.2⟩

omit [Scalar F] [Scalar D] [Precision F D] [FloatBits F] in
theorem Driven.withRuntimes (h : Driven n k kind hyper optimizer optimizer' parts parts' room s t)
    {runtime runtime' : Runtime F D} (hheap : runtime'.heap.erased = runtime.heap.erased)
    (ok : runtime.Ok ∧ runtime'.Ok)
    (hlasts : runtime.memory.allocator.Lasts ∧ runtime'.memory.allocator.Lasts)
    (hregistry : runtime.registry = (runtimeOf s).registry ∧
      runtime'.registry = (runtimeOf t).registry)
    (hdrives : ∃ slots step,
      Drives kind hyper slots step optimizer.nativeOptimizers parts (withRuntime s runtime) ∧
      Drives kind hyper slots step optimizer'.nativeOptimizers parts' (withRuntime t runtime')) :
    Driven n k kind hyper optimizer optimizer' parts parts' room (withRuntime s runtime)
      (withRuntime t runtime') where
  hosts := by
    refine ⟨⟨⟨hheap, hlasts, ?_⟩, h.hosts.native.calloc, .refl ok.1, .refl ok.2⟩, h.hosts.tensors⟩
    change HandleRegistry.Ahead n k room runtime.registry runtime'.registry
    rw [hregistry.1, hregistry.2]
    exact h.hosts.native.runtime.registry
  parameters := h.parameters
  live := h.live
  perm := h.perm
  drives := hdrives

omit [Scalar F] [Scalar D] [Precision F D] [FloatBits F] in
theorem ensureLive_live (hlive : optimizer.disposed = false) (operation : String) :
    (optimizer.ensureLive operation : IsolateM F D Unit) s = .ok () s := by
  unfold Optimizer.ensureLive
  rw [hlive]
  rfl

theorem optimizerStep_eq (hlive : optimizer.disposed = false) {s' : Isolate F D}
    (h : (optimizer.nativeOptimizers.forM Dart.NativeParameterOptimizer.step : IsolateM F D Unit)
      s = .ok () s') : (optimizer.step : IsolateM F D Unit) s = .ok () s' :=
  (bind_eq (ensureLive_live hlive "step")).trans h

theorem optimizerZeroGrad_eq (hlive : optimizer.disposed = false) {s' : Isolate F D}
    (h : (optimizer.nativeOptimizers.forM Dart.NativeParameterOptimizer.zeroGrad :
      IsolateM F D Unit) s = .ok () s') : (optimizer.zeroGrad : IsolateM F D Unit) s = .ok () s' :=
  (bind_eq (ensureLive_live hlive "zeroGrad")).trans h

theorem Driven.step (h : Driven n k kind hyper optimizer optimizer' parts parts' room s t) :
    Matched (Driven n k kind hyper optimizer optimizer' parts parts' room)
      ((optimizer.step : IsolateM F D Unit) s) ((optimizer'.step : IsolateM F D Unit) t) := by
  have hperm := h.perm
  obtain ⟨slots, step, d, d'⟩ := h.drives
  obtain ⟨runtime, hleft, hstepped⟩ :=
    stepLoop_eq h.hosts.native.left.ok h.hosts.native.runtime.lasts.1 d.owns d.team
  obtain ⟨runtime', hright, hstepped'⟩ :=
    stepLoop_eq h.hosts.native.right.ok h.hosts.native.runtime.lasts.2 d'.owns d'.team
  have hcommutes : Reordering.Commutes SameSlots
      (fun state : Heap F × Slots F => Apart (Part.trained parts) state.1)
      (· ∈ Part.trained parts) (stepSlot kind hyper (add64 step 1)) := commutes_stepSlot _ _ _
  have hapart : Apart (Part.trained parts) (runtimeOf t).heap := d'.apart.perm hperm.symm
  have hsame := hcommutes.foldl_perm hperm (fun _ hp => hp) d.team.distinct
    (s := ((runtimeOf s).heap, slots)) (t := ((runtimeOf t).heap, slots)) d.apart hapart
    ⟨h.hosts.native.runtime.heap, rfl⟩
  have hkept := hcommutes.foldl_keeps (s := ((runtimeOf s).heap, slots)) (fun _ hp => hp) d.apart
  have hcommutes' : Reordering.Commutes SameSlots
      (fun state : Heap F × Slots F => Apart (Part.trained parts') state.1)
      (· ∈ Part.trained parts') (stepSlot kind hyper (add64 step 1)) := commutes_stepSlot _ _ _
  have hkept' := hcommutes'.foldl_keeps (s := ((runtimeOf t).heap, slots)) (fun _ hp => hp) d'.apart
  rw [optimizerStep_eq h.live.1 hleft, optimizerStep_eq h.live.2 hright]
  refine ⟨rfl, h.withRuntimes ?_ ⟨hstepped.ok, hstepped'.ok⟩ ⟨hstepped.lasts, hstepped'.lasts⟩
    ⟨hstepped.registry, hstepped'.registry⟩ ⟨_, _, ⟨d.owns, ⟨hstepped.trains, d.team.objects,
      d.team.distinct⟩, hstepped.heap ▸ hkept⟩, ⟨d'.owns, ⟨?_, d'.team.objects, d'.team.distinct⟩,
        hstepped'.heap ▸ hkept'⟩⟩⟩
  · rw [hstepped.heap, hstepped'.heap]
    exact hsame.1
  · rw [← hsame.2]
    exact hstepped'.trains

theorem Driven.zeroGrad (h : Driven n k kind hyper optimizer optimizer' parts parts' room s t) :
    Matched (Driven n k kind hyper optimizer optimizer' parts parts' room)
      ((optimizer.zeroGrad : IsolateM F D Unit) s)
      ((optimizer'.zeroGrad : IsolateM F D Unit) t) := by
  have hperm := h.perm
  obtain ⟨slots, step, d, d'⟩ := h.drives
  obtain ⟨runtime, hleft, hcleared⟩ :=
    zeroGradLoop_eq h.hosts.native.left.ok h.hosts.native.runtime.lasts.1 d.owns d.team.trains
  obtain ⟨runtime', hright, hcleared'⟩ :=
    zeroGradLoop_eq h.hosts.native.right.ok h.hosts.native.runtime.lasts.2 d'.owns d'.team.trains
  have hsame := (commutes_cleared (F := F)).foldl_perm hperm (fun _ _ => trivial) d.team.distinct
    trivial trivial h.hosts.native.runtime.heap
  rw [optimizerZeroGrad_eq h.live.1 hleft, optimizerZeroGrad_eq h.live.2 hright]
  refine ⟨rfl, h.withRuntimes ?_ ⟨hcleared.ok, hcleared'.ok⟩ ⟨hcleared.lasts, hcleared'.lasts⟩
    ⟨hcleared.registry, hcleared'.registry⟩ ⟨slots, step, ⟨d.owns, ⟨?_, d.team.objects,
      d.team.distinct⟩, d.apart.evolve hcleared.evolves⟩, ⟨d'.owns, ⟨?_, d'.team.objects,
        d'.team.distinct⟩, d'.apart.evolve hcleared'.evolves⟩⟩⟩
  · rw [hcleared.heap, hcleared'.heap]
    exact hsame
  · exact fun part hpart => hcleared.trains _ _ _ _ _ (d.team.trains part hpart)
  · exact fun part hpart => hcleared'.trains _ _ _ _ _ (d'.team.trains part hpart)

omit [Scalar F] [Scalar D] [Precision F D] [FloatBits F] in
theorem Driven.less
    (h : Driven n k kind hyper optimizer optimizer' parts parts' (room + 2) s t) :
    Driven n k kind hyper optimizer optimizer' parts parts' room s t :=
  ⟨h.hosts.less.less, h.parameters, h.live, h.perm, h.drives⟩

omit [Scalar F] [Scalar D] [Precision F D] [FloatBits F] in
theorem matched_done {x y : IsolateM F D Unit} {R : Isolate F D → Isolate F D → Prop}
    (h : Matched R (x s) (y t)) :
    Matched R ((do x; return .done : IsolateM F D (IsolateAnswer D)) s)
      ((do y; return .done : IsolateM F D (IsolateAnswer D)) t) := by
  change Matched R (EStateM.bind x _ s) (EStateM.bind y _ t)
  unfold EStateM.bind
  cases hs : x s <;> cases ht : y t <;> rw [hs, ht] at h
  · exact ⟨rfl, h.2⟩
  · exact h.elim
  · exact h.elim
  · exact h

/-- An act takes two handles at most. -/
theorem Driven.act (h : Driven n k kind hyper optimizer optimizer' parts parts' (room + 2) s t)
    (act : Act D) : Matched (Driven n k kind hyper optimizer optimizer' parts parts' room)
      (optimizer.act act s) (optimizer'.act act t) := by
  cases act with
  | tensor request => exact h.tensor request
  | zeroGrad => exact matched_done h.less.zeroGrad
  | step => exact matched_done h.less.step

theorem acted_of_matched {R : Isolate F D → Isolate F D → Prop} {act : Act D}
    (h : Matched R (optimizer.act act s) (optimizer'.act act t)) :
    R (optimizer.acted s act) (optimizer'.acted t act) := by
  unfold Optimizer.acted
  cases hs : optimizer.act act s <;> cases ht : optimizer'.act act t <;> rw [hs, ht] at h
  · exact h.2
  · exact h.elim
  · exact h.elim
  · exact h.2

end Acts

end Tensora.Optim
