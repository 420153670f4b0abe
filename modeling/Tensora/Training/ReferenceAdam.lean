import Mathlib.Algebra.Order.Ring.Defs
import Mathlib.Tactic.Ring
import Tensora.Training.CreateSpecs
import Tensora.Training.StepEffects

/-! Adam and AdamW as recurrences of one number and the gradients it receives. In exact
arithmetic one update of the code is one step of them, if the exponents of its bias
correction count the updates of that number. -/
namespace Tensora
open CheckedLoop

/-- One number trained by Adam: its value, its moments and the updates it has had. -/
structure Reference (K : Type) where
  value : K
  first : K
  second : K
  updates : Nat

namespace Reference
variable {K : Type} [Field K]

def start (value : K) : Reference K := ⟨value, 0, 0, 0⟩

/-- Adam adds the decay to the gradient, AdamW takes it off the value. -/
def update (sqrt : K → K) (decoupled : Bool) (hyper : Hyperparameters K) (r : Reference K)
    (gradient : K) : Reference K :=
  let decay := hyper.weightDecay * r.value
  let gradient := if decoupled then gradient else gradient + decay
  let value := if decoupled then r.value - hyper.learningRate * decay else r.value
  let first := hyper.beta1 * r.first + (1 - hyper.beta1) * gradient
  let second := hyper.beta2 * r.second + (1 - hyper.beta2) * gradient ^ 2
  let updates := r.updates + 1
  let unbiasedFirst := first / (1 - hyper.beta1 ^ updates)
  let unbiasedSecond := second / (1 - hyper.beta2 ^ updates)
  ⟨value - hyper.learningRate * (unbiasedFirst / (sqrt unbiasedSecond + hyper.epsilon)), first,
    second, updates⟩

def run (sqrt : K → K) (decoupled : Bool) (hyper : Hyperparameters K) (value : K)
    (gradients : List K) : Reference K :=
  gradients.foldl (update sqrt decoupled hyper) (start value)

theorem run_snoc (sqrt : K → K) (decoupled : Bool) (hyper : Hyperparameters K) (value : K)
    (gradients : List K) (gradient : K) :
    run sqrt decoupled hyper value (gradients ++ [gradient]) =
      (run sqrt decoupled hyper value gradients).update sqrt decoupled hyper gradient := by
  simp [run]

theorem updates_run (sqrt : K → K) (decoupled : Bool) (hyper : Hyperparameters K) (value : K)
    (gradients : List K) :
    (run sqrt decoupled hyper value gradients).updates = gradients.length := by
  induction gradients using List.reverseRecOn with
  | nil => rfl
  | append_singleton gradients gradient ih =>
      rw [run_snoc, List.length_append, List.length_singleton, ← ih]
      rfl

end Reference

structure Documented (K : Type) [Field K] [LinearOrder K] [Given K] : Prop where
  less : ∀ a b : K, Given.less a b = decide (a < b)
  pow : ∀ (x : K) (n : Nat), Given.pow x (n : K) = x ^ n

namespace Training
variable {K : Type} [Field K] [LinearOrder K] [Given K]

theorem weightDecay_nonneg (d : Documented K) {kind : OptimizerKind} {hyper : Hyperparameters K}
    (h : accepts kind hyper = true) : 0 ≤ hyper.weightDecay := by
  have hdecay : nonNegativeFinite hyper.weightDecay = true := by
    unfold accepts at h
    simp only [Bool.and_eq_true] at h
    exact h.1.2
  have hless : Scalar.less hyper.weightDecay 0 = false := by
    simpa [nonNegativeFinite] using (Bool.and_eq_true_iff.mp hdecay).2
  change Given.less hyper.weightDecay 0 = false at hless
  rw [d.less] at hless
  exact not_lt.mp (of_decide_eq_false hless)

theorem updatedElement_eq (d : Documented K) {kind : OptimizerKind} (hkind : kind ≠ .sgd)
    {hyper : Hyperparameters K} (hdecay : 0 ≤ hyper.weightDecay) (r : Reference K) (gradient : K) :
    updatedElement kind hyper (r.updates + 1) r.value gradient r.first r.second =
      let next := r.update Given.sqrt (kind = .adamW) hyper gradient
      (next.value, next.first, next.second) := by
  have hpow : ∀ x : K, Scalar.pow x ((r.updates + 1 : Nat) : K) = x ^ (r.updates + 1) :=
    fun x => d.pow x _
  cases kind with
  | sgd => exact absurd rfl hkind
  | adam =>
      simp only [updatedElement, adamElement, Reference.update, hpow, Precision.widen,
        Precision.narrow, id, if_true, reduceCtorEq, false_and, if_false, decide_false,
        Bool.false_eq_true, mul_div_assoc, mul_assoc, sq]
      rfl
  | adamW =>
      simp only [updatedElement, adamElement, Reference.update, hpow, Precision.widen,
        Precision.narrow, id, if_true, reduceCtorEq, if_false, decide_true, true_and,
        mul_div_assoc, mul_assoc, sq]
      -- without decay the code does not scale the value at all
      have hvalue : (if Scalar.less 0 hyper.weightDecay = true then
          r.value * (1 - hyper.learningRate * hyper.weightDecay) else r.value) =
          r.value - hyper.learningRate * (hyper.weightDecay * r.value) := by
        have hless : Scalar.less 0 hyper.weightDecay = true ↔ 0 < hyper.weightDecay := by
          change Given.less 0 hyper.weightDecay = true ↔ _
          rw [d.less, decide_eq_true_eq]
        split
        · ring
        · rename_i hnot
          rw [hless] at hnot
          rw [le_antisymm (not_lt.mp hnot) hdecay]
          ring
      rw [hvalue]
      rfl

def elementGradients (gradients : List (List K)) (j : Nat) : List K :=
  gradients.map fun gradient => gradient.getD j 0

def referenceAt (kind : OptimizerKind) (hyper : Hyperparameters K) (values : List K)
    (gradients : List (List K)) (j : Nat) : Reference K :=
  Reference.run Given.sqrt (kind = .adamW) hyper (values.getD j 0) (elementGradients gradients j)

/-- A parameter that began with `values` and received `gradients` holds, element by element,
the value and the moments of the recurrence. -/
structure Follows (kind : OptimizerKind) (hyper : Hyperparameters K) (values : List K)
    (gradients : List (List K)) (state : List K × List K × Option (List K)) : Prop where
  contents : state.1 = tab values.length fun j => (referenceAt kind hyper values gradients j).value
  first : state.2.1 = tab values.length fun j => (referenceAt kind hyper values gradients j).first
  second : state.2.2 =
    some (tab values.length fun j => (referenceAt kind hyper values gradients j).second)

omit [LinearOrder K] in
theorem updates_referenceAt (kind : OptimizerKind) (hyper : Hyperparameters K) (values : List K)
    (gradients : List (List K)) (j : Nat) :
    (referenceAt kind hyper values gradients j).updates = gradients.length := by
  rw [referenceAt, Reference.updates_run, elementGradients, List.length_map]

omit [LinearOrder K] in
theorem Follows.start (kind : OptimizerKind) (hyper : Hyperparameters K) (values : List K) :
    Follows kind hyper values []
      (values, List.replicate values.length 0, some (List.replicate values.length 0)) := by
  have hzeros : List.replicate values.length (0 : K) = tab values.length fun _ => 0 := by
    simp [tab]
  rw [hzeros]
  exact ⟨eq_tab_getD values 0, rfl, rfl⟩

theorem Follows.update (d : Documented K) {kind : OptimizerKind} (hkind : kind ≠ .sgd)
    {hyper : Hyperparameters K} (hdecay : 0 ≤ hyper.weightDecay) {values : List K}
    {gradients : List (List K)} {state : List K × List K × Option (List K)}
    (f : Follows kind hyper values gradients state) (gradient : List K) :
    Follows kind hyper values (gradients ++ [gradient])
      (updatedArrays kind hyper (gradients.length + 1) state.1 gradient state.2.1 state.2.2) := by
  have hnext : ∀ j, referenceAt kind hyper values (gradients ++ [gradient]) j =
      (referenceAt kind hyper values gradients j).update Given.sqrt (kind = .adamW) hyper
        (gradient.getD j 0) := by
    intro j
    rw [referenceAt, elementGradients, List.map_append]
    exact Reference.run_snoc _ _ _ _ _ _
  have helement : ∀ j, j < values.length →
      updatedElement kind hyper (gradients.length + 1) (state.1.getD j 0) (gradient.getD j 0)
          (state.2.1.getD j 0) ((state.2.2.getD []).getD j 0) =
        let next := referenceAt kind hyper values (gradients ++ [gradient]) j
        (next.value, next.first, next.second) := by
    intro j hj
    rw [f.contents, f.first, f.second, Option.getD_some, getD_tab _ _ hj, getD_tab _ _ hj,
      getD_tab _ _ hj, hnext, ← updates_referenceAt kind hyper values gradients j]
    exact updatedElement_eq d hkind hdecay _ _
  have hlen : state.1.length = values.length := by rw [f.contents, length_tab]
  simp only [updatedArrays, hlen, if_neg hkind]
  refine ⟨tab_congr fun j hj => ?_, tab_congr fun j hj => ?_,
    congrArg some (tab_congr fun j hj => ?_)⟩
  · rw [helement j hj]
  · rw [helement j hj]
  · rw [helement j hj]

end Training

end Tensora
