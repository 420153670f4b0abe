import Tensora.Api.OptimizerCalls
import Tensora.Tensor.Unordered
import Tensora.Training.GroupedSteps

/-! Native optimizers over the parts of a list of parameters: what stepping or clearing one part
does to it and to the others. -/
namespace Tensora.Api
open Training

variable {F D : Type}

/-- The handle of an optimizer over tensors, its position, and the tensors it trains. -/
structure Part where
  handle : Nat
  object : Nat
  parameters : List TensorId

def Part.trained (parts : List Part) : List TensorId := parts.flatMap Part.parameters

/-- The optimizer of the part keeps these moments, after `step` steps. -/
def TrainsPart (kind : OptimizerKind) (hyper : Hyperparameters D) (slots : Slots F) (step : Nat)
    (s : Runtime F D) (part : Part) : Prop :=
  ∃ optimizer, s.parameterOptimizerAt part.handle = some (part.object, optimizer) ∧
    optimizer.parameters = part.parameters ∧ optimizer.kind = kind ∧ optimizer.hyper = hyper ∧
    optimizer.moments.Keeps slots step part.parameters

/-- Every part has an optimizer of its own, and no parameter is in two of them. -/
structure Team (kind : OptimizerKind) (hyper : Hyperparameters D) (slots : Slots F) (step : Nat)
    (s : Runtime F D) (parts : List Part) : Prop where
  trains : ∀ part ∈ parts, TrainsPart kind hyper slots step s part
  objects : (parts.map Part.object).Nodup
  distinct : (Part.trained parts).Nodup

variable {kind : OptimizerKind} {hyper : Hyperparameters D} {slots slots' : Slots F} {step : Nat}
  {s s' : Runtime F D} {part other : Part} {parts : List Part}

theorem TrainsPart.congr (t : TrainsPart kind hyper slots step s part)
    (h : ∀ p ∈ part.parameters, slots' p = slots p) : TrainsPart kind hyper slots' step s part := by
  obtain ⟨optimizer, hat, hp, hkind, hhyper, hkeeps⟩ := t
  exact ⟨optimizer, hat, hp, hkind, hhyper, hkeeps.congr h⟩

theorem TrainsPart.of_keeping (t : TrainsPart kind hyper slots step s part)
    (hkeep : s.registry.Keeping s'.registry)
    (hsame : s'.parameterOptimizers = s.parameterOptimizers) :
    TrainsPart kind hyper slots step s' part := by
  obtain ⟨optimizer, hat, hrest⟩ := t
  exact ⟨optimizer, parameterOptimizerAt_of_keeping hat hkeep hsame, hrest⟩

theorem Team.of_keeping (t : Team kind hyper slots step s parts)
    (hkeep : s.registry.Keeping s'.registry)
    (hsame : s'.parameterOptimizers = s.parameterOptimizers) :
    Team kind hyper slots step s' parts :=
  ⟨fun part hpart => (t.trains part hpart).of_keeping hkeep hsame, t.objects, t.distinct⟩

theorem TrainsPart.withParameterMoments (t : TrainsPart kind hyper slots step s other)
    {object : Nat} (hne : other.object ≠ object) (state : Heap F × Moments F) (a : Allocator) :
    TrainsPart kind hyper slots step (s.withParameterMoments object state a) other := by
  obtain ⟨optimizer, hat, hrest⟩ := t
  refine ⟨optimizer, ?_, hrest⟩
  obtain ⟨object', hobject, hget⟩ := Option.bind_eq_some_iff.mp hat
  refine Option.bind_eq_some_iff.mpr ⟨object', hobject, ?_⟩
  obtain ⟨state', hstate, heq⟩ := Option.map_eq_some_iff.mp hget
  cases heq
  have hne' : object ≠ other.object := Ne.symm hne
  simp only [Runtime.withParameterMoments, List.getElem?_modify_ne _ _ hne', hstate,
    Option.map_some]

variable [Scalar F] [Scalar D] [Precision F D] [FloatBits F]

structure PartStepped (kind : OptimizerKind) (hyper : Hyperparameters D) (slots : Slots F)
    (step : Nat) (s : Runtime F D) (part : Part) (s' : Runtime F D) : Prop where
  ok : s'.Ok
  lasts : s'.memory.allocator.Lasts
  registry : s'.registry = s.registry
  heap : s'.heap = (part.parameters.foldl (stepSlot kind hyper (add64 step 1)) (s.heap, slots)).1
  trains : TrainsPart kind hyper
    (part.parameters.foldl (stepSlot kind hyper (add64 step 1)) (s.heap, slots)).2 (add64 step 1)
    s' part
  others : ∀ (other : Part) slots' step', other.object ≠ part.object →
    TrainsPart kind hyper slots' step' s other → TrainsPart kind hyper slots' step' s' other

theorem exec_step_part (ok : s.Ok) (hlasts : s.memory.allocator.Lasts)
    (hnodup : part.parameters.Nodup) (t : TrainsPart kind hyper slots step s part) :
    ∃ s', exec (.parameterOptimizerStep part.handle) s = .ok .done s' ∧
      PartStepped kind hyper slots step s part s' := by
  obtain ⟨optimizer, hat, hp, hkind, hhyper, hkeeps⟩ := t
  have hexec := exec_parameterOptimizerStep ok hat fun i _ => hlasts _ (Nat.le_add_right _ i)
  rw [hp, hkind, hhyper] at hexec
  obtain ⟨hheap, hnext⟩ := stepAll_slot (h := s.heap) kind hyper hnodup hkeeps
  have hok := (after_moves ok (.parameterOptimizerStep part.handle)).1
  rw [after_of_ok hexec] at hok
  refine ⟨_, hexec, hok, fun i hi => hlasts i ((Nat.le_add_right _ _).trans hi), rfl, hheap, ?_, ?_⟩
  · exact ⟨_, parameterOptimizerAt_withMoments hat _ _, hp, hkind, hhyper, hnext⟩
  · exact fun other slots' step' hne t => t.withParameterMoments hne _ _

omit [Scalar F] [Scalar D] [Precision F D] [FloatBits F] in
theorem clearGradient_eq {m : Memory F} {p : TensorId} (hv : m.heap.Visible p) :
    (Autograd.clearGradient p : Mem F Unit) m = .ok () ⟨m.heap.cleared p, m.allocator⟩ := by
  obtain ⟨t, ht⟩ := hv.get
  have hmeta := Heap.autogradMeta_of ht
  change EStateM.bind (deref p) _ m = _
  rw [EStateM.bind, deref_eq ht]
  cases hm : t.autogradMeta with
  | none =>
      rw [hm] at hmeta
      rw [Heap.cleared_none hmeta]
      simp only [hm]
      rfl
  | some autogradMeta =>
      rw [hm] at hmeta
      rw [Heap.cleared_some hmeta]
      simp only [hm]
      rfl

omit [Scalar F] [FloatBits F] in
theorem evolves_cleared {h : Heap F} {ps : List TensorId} (wf : WellFormed h)
    (hv : ∀ p ∈ ps, h.Visible p) : Evolves h (ps.foldl Heap.cleared h) := by
  induction ps generalizing h with
  | nil => exact .refl wf
  | cons p ps ih =>
      have e := (Unrecorded.cleared wf (hv p List.mem_cons_self)).evolves
      exact e.trans (ih e.wellFormed fun q hq => e.visible q (hv q (List.mem_cons_of_mem _ hq)))

omit [Scalar F] [Scalar D] [Precision F D] [FloatBits F] in
theorem clearAll_eq {ps : List TensorId} (wf : WellFormed s.heap)
    (hv : ∀ p ∈ ps, s.heap.Visible p) :
    (clearAll ps : Native F D (Reply F)) s =
      .ok .done { s with memory := ⟨ps.foldl Heap.cleared s.heap, s.memory.allocator⟩ } := by
  induction ps generalizing s with
  | nil => rfl
  | cons p ps ih =>
      have hp := hv p List.mem_cons_self
      have e := (Unrecorded.cleared wf hp).evolves
      have hfirst : (onMemory (Autograd.clearGradient p) : Native F D Unit) s =
          .ok () { s with memory := ⟨s.heap.cleared p, s.memory.allocator⟩ } := by
        unfold onMemory
        rw [clearGradient_eq hp]
        rfl
      have hrest := ih (s := { s with memory := ⟨s.heap.cleared p, s.memory.allocator⟩ })
        e.wellFormed fun q hq => e.visible q (hv q (List.mem_cons_of_mem _ hq))
      change EStateM.bind (EStateM.bind (onMemory (Autograd.clearGradient p)) _) _ s = _
      rw [EStateM.bind, EStateM.bind, hfirst]
      exact hrest

structure Cleared (s : Runtime F D) (ps : List TensorId) (s' : Runtime F D) : Prop where
  ok : s'.Ok
  evolves : Evolves s.heap s'.heap
  lasts : s'.memory.allocator.Lasts
  registry : s'.registry = s.registry
  heap : s'.heap = ps.foldl Heap.cleared s.heap
  trains : ∀ (kind : OptimizerKind) (hyper : Hyperparameters D) slots step other,
    TrainsPart kind hyper slots step s other → TrainsPart kind hyper slots step s' other

theorem exec_clear_part (ok : s.Ok) (hlasts : s.memory.allocator.Lasts)
    (t : TrainsPart kind hyper slots step s part) :
    ∃ s', exec (.parameterOptimizerZeroGrad part.handle) s = .ok .done s' ∧
      Cleared s part.parameters s' := by
  obtain ⟨optimizer, hat, hp, -⟩ := t
  have hstate := ok.parameterOptimizers _
    (List.mem_of_getElem? (Runtime.get_parameterOptimizerAt hat))
  have hexec := exec_parameterOptimizerZeroGrad hat
  have hvisible : ∀ p ∈ optimizer.parameters, s.heap.Visible p := fun p hp =>
    (hstate.updatable p hp).1
  rw [clearAll_eq ok.wellFormed hvisible] at hexec
  have hok := (after_moves ok (.parameterOptimizerZeroGrad part.handle)).1
  rw [after_of_ok hexec] at hok
  refine ⟨_, hexec, hok, evolves_cleared ok.wellFormed hvisible, hlasts, rfl, ?_,
    fun _ _ _ _ _ t => t⟩
  rw [← hp]
  rfl

end Tensora.Api
