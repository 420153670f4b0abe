import Tensora.Api.Runs
import Tensora.Api.Sample
import Tensora.Training.StepSpecs

/-! When a step of the optimizer over tensors that fails leaves everything as it was: the
counter moves before anything can fail, so only when it cannot fail at all. -/
namespace Tensora
open ProgramLogic

variable {F D : Type}

namespace Training

theorem nextStep_ne (moments : Moments F) : moments.nextStep.step ≠ moments.step := by
  simp only [Moments.nextStep, add64]
  omega

end Training

namespace Api
open Training

variable {s : Runtime F D}

def StepLasts (s : Runtime F D) (handle : Nat) : Prop :=
  ∀ object optimizer, s.parameterOptimizerAt handle = some (object, optimizer) →
    ∀ i < gradedCount s.heap optimizer.parameters.zipIdx,
      s.memory.allocator.fails (s.memory.allocator.count + i) = false

structure Unstepped (s s' : Runtime F D) : Prop where
  heap : s'.heap = s.heap
  optimizers : s'.parameterOptimizers = s.parameterOptimizers

variable [Scalar F] [Scalar D] [Precision F D] [FloatBits F]

theorem wp_exec_parameterOptimizerStep {Q : Reply F → Runtime F D → Prop}
    {E : Failure → Runtime F D → Prop} (handle : Nat)
    (h : wp (cpuStep handle) (fun _ s' => Q .done s') E s) :
    wp (exec (.parameterOptimizerStep handle)) Q E s :=
  wp_seq h (fun _ _ he => he) fun _ _ hq => hq

theorem StepLasts.unstepped (ok : s.Ok) {handle : Nat} (hlasts : StepLasts s handle) :
    wp (exec (.parameterOptimizerStep handle)) (fun _ _ => True)
      (fun _ s' => Unstepped s s') s := by
  refine wp_exec_parameterOptimizerStep handle ?_
  cases ho : s.parameterOptimizerAt handle with
  | none =>
      unfold cpuStep
      refine wp_seq (wp_lookupParameterOptimizer_or s handle) ?_ ?_
      · rintro _ _ rfl
        exact ⟨rfl, rfl⟩
      · rintro r _ ⟨rfl, hr⟩
        rw [ho] at hr
        cases hr
  | some found =>
      refine wp_mono (wp_cpuStep ok ho) (fun _ _ _ => trivial) ?_
      rintro e s' ⟨-, done, entry, rest, hsplit, hgraded, hfails, -⟩
      rw [hlasts _ _ ho _ (gradedCount_lt s.heap hsplit hgraded)] at hfails
      cases hfails

/-- A step with a failing allocation returns an error, with its counter moved. -/
theorem step_moved (ok : s.Ok) {handle object : Nat} {optimizer : ParameterOptimizerState F D}
    (ho : s.parameterOptimizerAt handle = some (object, optimizer)) {i : Nat}
    (hi : i < gradedCount s.heap optimizer.parameters.zipIdx)
    (hfails : s.memory.allocator.fails (s.memory.allocator.count + i) = true) :
    ∃ e s', exec (.parameterOptimizerStep handle) s = .error e s' ∧
      s'.parameterOptimizers ≠ s.parameterOptimizers := by
  refine error_of_wp (wp_exec_parameterOptimizerStep handle (wp_mono (wp_cpuStep ok ho) ?_ ?_))
  · rintro _ s' ⟨-, -, hlast⟩
    rw [hlast i hi] at hfails
    cases hfails
  · rintro e s' ⟨-, done, entry, rest, -, -, -, -, rfl⟩ heq
    have hget := Runtime.get_parameterOptimizerAt ho
    have hstep := congrArg (fun optimizers : List (ParameterOptimizerState F D) =>
      optimizers[object]?.map fun optimizer => optimizer.moments.step) heq
    simp only [Runtime.withParameterMoments, List.getElem?_modify_eq] at hget hstep
    rw [hget] at hstep
    simp only [Option.map_eq_map, Option.map_some, Option.some.injEq, step_foldl] at hstep
    exact nextStep_ne _ hstep

/-- A step that does not return leaves every parameter, version, moment and counter as it
was exactly when no gradient it has to copy runs out of memory. -/
theorem parameterStep_atomic_iff (hs : Reachable s) (handle : Nat) :
    (∀ e s', exec (.parameterOptimizerStep handle) s = .error e s' → Unstepped s s') ↔
      StepLasts s handle := by
  refine ⟨fun hatomic object optimizer ho i hi => ?_, fun hlasts e s' h => ?_⟩
  · by_contra hfails
    obtain ⟨e, s', h, hmoved⟩ := step_moved hs.ok ho hi (by simpa using hfails)
    exact hmoved (hatomic e s' h).optimizers
  · exact wp_of_error (E := fun _ s' => Unstepped s s') (hlasts.unstepped hs.ok) h

def twoLeavesCalls : List (Call Word Word) :=
  [.tensorFromF32 [3] [1], .tensorWithRequiresGrad 1 true, .tensorFromF32 [5] [1],
    .tensorWithRequiresGrad 3 true, .tensorAdd 2 4, .tensorSum 5, .tensorBackward 6,
    .createForTensors (some [2, 4]) .sgd ⟨1, 0, 0, 0, 0, 0⟩]

def shortRun : Runtime Word Word :=
  run (Runtime.initial (fun k => k == (sampleRun twoLeavesCalls).memory.allocator.count + 1)
    emptyDisk) twoLeavesCalls

/-- The first leaf is updated by a step that reports an error. -/
theorem parameterStep_atomic_fails :
    ∃ e s', exec (.parameterOptimizerStep 7) shortRun = .error e s' ∧
    s'.heap.contents 1 ≠ shortRun.heap.contents 1 ∧
    s'.heap.contents 3 = shortRun.heap.contents 3 := by
  obtain ⟨e, h⟩ := error_of_returns
    (by decide +kernel : returns shortRun (.parameterOptimizerStep 7) = false)
  exact ⟨e, _, h, by decide +kernel, by decide +kernel⟩

theorem reachable_short : Reachable shortRun := ⟨_, _, _, rfl⟩

theorem parameterStep_atomic_iff_short :
    ¬∀ e s', exec (.parameterOptimizerStep 7) shortRun = .error e s' → Unstepped shortRun s' := by
  intro hatomic
  have hlasts := (parameterStep_atomic_iff reachable_short 7).mp hatomic
  have hcount : (shortRun.parameterOptimizerAt 7).map (fun found =>
      decide (1 < gradedCount shortRun.heap found.2.parameters.zipIdx)) = some true := by
    decide +kernel
  obtain ⟨⟨object, optimizer⟩, ho, hlt⟩ := Option.map_eq_some_iff.mp hcount
  have hfails := hlasts object optimizer ho 1 (of_decide_eq_true hlt)
  revert hfails
  decide +kernel

end Api

end Tensora
