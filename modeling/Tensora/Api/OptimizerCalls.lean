import Tensora.Api.Runs
import Tensora.Api.SideBySideCalls
import Tensora.Training.StepSpecs

/-! The calls on optimizers: what they leave while memory lasts, and what keeps an optimizer
under its handle. -/
namespace Tensora
open ProgramLogic

variable {F D : Type}

namespace Api
open Training

variable {s s' : Runtime F D} {handle : Nat}

theorem objectOf_of_keeping {type : HandleType} {object : Nat} (htype : type.isOptimizer = true)
    (h : s.objectOf handle type = some object) (hkeep : s.registry.Keeping s'.registry) :
    s'.objectOf handle type = some object := by
  unfold Runtime.objectOf at h ⊢
  by_cases hzero : handle = 0
  · simp [hzero] at h
  · rw [if_neg hzero] at h ⊢
    obtain ⟨entry, hfind, hentry⟩ := Option.bind_eq_some_iff.mp h
    by_cases hentryType : entry.type = type
    · rw [hkeep handle entry hfind (hentryType ▸ htype)]
      exact hentry
    · simp [hentryType] at hentry

theorem optimizerAt_of_keeping {r : Nat × OptimizerState F D}
    (h : s.optimizerAt handle = some r) (hkeep : s.registry.Keeping s'.registry)
    (hsame : s'.optimizers = s.optimizers) : s'.optimizerAt handle = some r := by
  obtain ⟨object, hobject, hget⟩ := Option.bind_eq_some_iff.mp h
  rw [Runtime.optimizerAt, objectOf_of_keeping rfl hobject hkeep, hsame]
  exact hget

theorem parameterOptimizerAt_of_keeping {r : Nat × ParameterOptimizerState F D}
    (h : s.parameterOptimizerAt handle = some r) (hkeep : s.registry.Keeping s'.registry)
    (hsame : s'.parameterOptimizers = s.parameterOptimizers) :
    s'.parameterOptimizerAt handle = some r := by
  obtain ⟨object, hobject, hget⟩ := Option.bind_eq_some_iff.mp h
  rw [Runtime.parameterOptimizerAt, objectOf_of_keeping rfl hobject hkeep, hsame]
  exact hget

theorem optimizerAt_withMoments {object : Nat} {optimizer : OptimizerState F D}
    (h : s.optimizerAt handle = some (object, optimizer)) (state : Heap F × Moments F)
    (a : Allocator) : (s.withMoments object state a).optimizerAt handle =
      some (object, { optimizer with moments := state.2 }) := by
  have hget := Runtime.get_optimizerAt h
  obtain ⟨object', hobject, hstate⟩ := Option.bind_eq_some_iff.mp h
  obtain ⟨_, -, heq⟩ := Option.map_eq_some_iff.mp hstate
  obtain rfl : object' = object := congrArg Prod.fst heq
  refine Option.bind_eq_some_iff.mpr ⟨object', hobject, ?_⟩
  simp only [Runtime.withMoments, List.getElem?_modify_eq]
  rw [hget]
  rfl

theorem parameterOptimizerAt_withMoments {object : Nat} {optimizer : ParameterOptimizerState F D}
    (h : s.parameterOptimizerAt handle = some (object, optimizer)) (state : Heap F × Moments F)
    (a : Allocator) : (s.withParameterMoments object state a).parameterOptimizerAt handle =
      some (object, { optimizer with moments := state.2 }) := by
  have hget := Runtime.get_parameterOptimizerAt h
  obtain ⟨object', hobject, hstate⟩ := Option.bind_eq_some_iff.mp h
  obtain ⟨_, -, heq⟩ := Option.map_eq_some_iff.mp hstate
  obtain rfl : object' = object := congrArg Prod.fst heq
  refine Option.bind_eq_some_iff.mpr ⟨object', hobject, ?_⟩
  simp only [Runtime.withParameterMoments, List.getElem?_modify_eq]
  rw [hget]
  rfl

section Outcomes
variable [Scalar F] [Scalar D] [Precision F D] [FloatBits F] {object : Nat}

omit [Scalar F] [Scalar D] [Precision F D] [FloatBits F] in
theorem Lasting.next (hmem : Lasting s) (i : Nat) :
    s.memory.allocator.fails (s.memory.allocator.count + i) = false :=
  hmem _ (Nat.le_add_right _ i)

theorem exec_optimizerStep (ok : s.Ok)
    (hlasts : s.memory.allocator.fails s.memory.allocator.count = false)
    {optimizer : OptimizerState F D} {module : LinearState}
    (ho : s.optimizerAt handle = some (object, optimizer))
    (hm : s.modules[optimizer.module]? = some module) :
    exec (.optimizerStep handle) s = .ok .done (s.withMoments object
      (stepAll optimizer.kind optimizer.hyper module.parameters (s.heap, optimizer.moments))
      (s.memory.allocator.after 1)) := by
  have hstep : wp (exec (.optimizerStep handle)) (fun reply s' => reply = .done ∧
      s' = s.withMoments object (stepAll optimizer.kind optimizer.hyper module.parameters
        (s.heap, optimizer.moments)) (s.memory.allocator.after 1)) (fun _ _ => False) s := by
    refine wp_seq (wp_optimizerStep ok ho hm) ?_ ?_
    · rintro e _ ⟨-, hfails, -⟩
      rw [hlasts] at hfails
      cases hfails
    · rintro _ _ ⟨-, rfl, -⟩
      exact ⟨rfl, rfl⟩
  obtain ⟨reply, s', hexec, rfl, rfl⟩ := ok_of_wp hstep
  exact hexec

theorem exec_parameterOptimizerStep (ok : s.Ok) {optimizer : ParameterOptimizerState F D}
    (ho : s.parameterOptimizerAt handle = some (object, optimizer))
    (hlasts : ∀ i < gradedCount s.heap optimizer.parameters.zipIdx,
      s.memory.allocator.fails (s.memory.allocator.count + i) = false) :
    exec (.parameterOptimizerStep handle) s = .ok .done (s.withParameterMoments object
      (stepAll optimizer.kind optimizer.hyper optimizer.parameters (s.heap, optimizer.moments))
      (s.memory.allocator.after (gradedCount s.heap optimizer.parameters.zipIdx))) := by
  have hstep : wp (exec (.parameterOptimizerStep handle)) (fun reply s' => reply = .done ∧
      s' = s.withParameterMoments object (stepAll optimizer.kind optimizer.hyper
        optimizer.parameters (s.heap, optimizer.moments))
        (s.memory.allocator.after (gradedCount s.heap optimizer.parameters.zipIdx)))
      (fun _ _ => False) s := by
    refine wp_seq (wp_cpuStep ok ho) ?_ ?_
    · rintro e _ ⟨-, done, entry, rest, hsplit, hgraded, hfails, -⟩
      rw [hlasts _ (gradedCount_lt s.heap hsplit hgraded)] at hfails
      cases hfails
    · rintro _ _ ⟨-, rfl, -⟩
      exact ⟨rfl, rfl⟩
  obtain ⟨reply, s', hexec, rfl, rfl⟩ := ok_of_wp hstep
  exact hexec

def clearAll (parameters : List TensorId) : Native F D (Reply F) := do
  parameters.forM fun parameter => onMemory (Autograd.clearGradient parameter)
  return .done

omit [Scalar F] [Scalar D] [Precision F D] [FloatBits F] in
theorem bind_of_wp {α β : Type} {x : Native F D α} {f : α → Native F D β} {a : α}
    {s₁ : Runtime F D} (h : wp x (fun r s' => r = a ∧ s' = s₁) (fun _ _ => False) s) :
    (x >>= f) s = f a s₁ := by
  obtain ⟨r, s', hx, rfl, rfl⟩ := ok_of_wp h
  change EStateM.bind x f s = _
  rw [EStateM.bind, hx]

omit [Scalar F] [Scalar D] [Precision F D] [FloatBits F] in
theorem lockstep_clearAll (parameters : List TensorId) :
    Lockstep (Beside s s') (clearAll parameters) (clearAll parameters) :=
  (Lockstep.forM (fun p => lockstep_onMemory (Autograd.formed_clearGradient p)) parameters).bind
    fun _ => .pure _

theorem exec_optimizerZeroGrad (hmem : Lasting s) {optimizer : OptimizerState F D}
    {module : LinearState} (ho : s.optimizerAt handle = some (object, optimizer))
    (hm : s.modules[optimizer.module]? = some module) :
    exec (.optimizerZeroGrad handle) s = clearAll module.parameters
      { s with memory := ⟨s.heap, s.memory.allocator.after 1⟩ } := by
  have hallocate : wp (onMemory allocate : Native F D Unit) (fun r s' => r = () ∧
      s' = { s with memory := ⟨s.heap, s.memory.allocator.after 1⟩ }) (fun _ _ => False) s := by
    rw [wp_onMemory]
    refine (wp_allocate _ _ s.heap s.memory.allocator).mpr ⟨fun hfail => ?_, fun _ => ⟨rfl, rfl⟩⟩
    rw [hmem _ (Nat.le_refl _)] at hfail
    cases hfail
  change (optimizerZeroGrad handle >>= fun _ => pure Reply.done) s = _
  unfold optimizerZeroGrad
  rw [bind_assoc, bind_of_wp (wp_lookupOptimizer ho), bind_assoc, bind_of_wp (wp_moduleOf hm),
    bind_assoc, bind_of_wp hallocate]
  rfl

theorem exec_parameterOptimizerZeroGrad {optimizer : ParameterOptimizerState F D}
    (ho : s.parameterOptimizerAt handle = some (object, optimizer)) :
    exec (.parameterOptimizerZeroGrad handle) s = clearAll optimizer.parameters s := by
  change (zeroGrad handle >>= fun _ => pure Reply.done) s = _
  unfold zeroGrad
  rw [bind_assoc, bind_of_wp (wp_lookupParameterOptimizer ho)]
  rfl

theorem after_of_ok {call : Call F D} {reply : Reply F} {s' : Runtime F D}
    (h : exec call s = .ok reply s') : after s call = s' := by
  unfold after
  rw [h]

end Outcomes

end Api

end Tensora
