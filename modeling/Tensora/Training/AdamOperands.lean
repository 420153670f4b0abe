import Mathlib.Algebra.Order.Field.Basic
import Tensora.Training.ReferenceAdam

/-! The operands of an update by Adam, in exact arithmetic: with hyperparameters that a
creation accepts it divides by positive numbers only, and takes no root of a negative one. -/
namespace Tensora
open CheckedLoop

structure DocumentedRoot (K : Type) [Field K] [LinearOrder K] [Given K] : Prop
    extends Documented K where
  lessEq : ∀ a b : K, Given.lessEq a b = decide (a ≤ b)
  sqrt_nonneg : ∀ a : K, 0 ≤ a → 0 ≤ Given.sqrt a

namespace Training
variable {K : Type} [Field K] [Given K]

/-- The gradient of an update: Adam adds the decay to it. -/
def decayedGradient (kind : OptimizerKind) (hyper : Hyperparameters K) (value gradient : K) : K :=
  if kind = .adam then gradient + hyper.weightDecay * value else gradient

/-- The value of an update: AdamW takes the decay off it. -/
def decayedValue (kind : OptimizerKind) (hyper : Hyperparameters K) (value : K) : K :=
  if kind = .adamW ∧ Given.less 0 hyper.weightDecay then
    value * (1 - hyper.learningRate * hyper.weightDecay)
  else value

def secondAfter (kind : OptimizerKind) (hyper : Hyperparameters K)
    (value gradient second : K) : K :=
  hyper.beta2 * second + (1 - hyper.beta2) * decayedGradient kind hyper value gradient *
    decayedGradient kind hyper value gradient

/-- The second moment with its bias corrected, of which the root is taken. -/
def secondHat (kind : OptimizerKind) (hyper : Hyperparameters K) (step : Nat)
    (value gradient second : K) : K :=
  secondAfter kind hyper value gradient second / (1 - Given.pow hyper.beta2 (step : K))

/-- Where the operands of an update stand in the code. -/
theorem updatedElement_operands {kind : OptimizerKind} (hkind : kind ≠ .sgd)
    (hyper : Hyperparameters K) (step : Nat) (value gradient first second : K) :
    updatedElement kind hyper step value gradient first second =
      let firstAfter := hyper.beta1 * first +
        (1 - hyper.beta1) * decayedGradient kind hyper value gradient
      (decayedValue kind hyper value -
          hyper.learningRate * (firstAfter / (1 - Given.pow hyper.beta1 (step : K))) /
            (Given.sqrt (secondHat kind hyper step value gradient second) + hyper.epsilon),
        firstAfter, secondAfter kind hyper value gradient second) := by
  cases kind with
  | sgd => exact absurd rfl hkind
  | adam => rfl
  | adamW => rfl

variable [LinearOrder K]

/-- The operands of one update are in the range of its operations. -/
structure Defined (kind : OptimizerKind) (hyper : Hyperparameters K) (step : Nat)
    (value gradient second : K) : Prop where
  firstCorrection : 0 < 1 - Given.pow hyper.beta1 (step : K)
  secondCorrection : 0 < 1 - Given.pow hyper.beta2 (step : K)
  before : 0 ≤ second
  after : 0 ≤ secondAfter kind hyper value gradient second
  radicand : 0 ≤ secondHat kind hyper step value gradient second
  denominator : 0 < Given.sqrt (secondHat kind hyper step value gradient second) + hyper.epsilon

structure Ranged (hyper : Hyperparameters K) : Prop where
  beta1 : 0 ≤ hyper.beta1 ∧ hyper.beta1 < 1
  beta2 : 0 ≤ hyper.beta2 ∧ hyper.beta2 < 1
  epsilon : 0 < hyper.epsilon

theorem range_of_betaFinite (d : DocumentedRoot K) {beta : K} (h : betaFinite beta = true) :
    0 ≤ beta ∧ beta < 1 := by
  have hless : Scalar.less beta 0 = false ∧ Scalar.lessEq 1 beta = false := by
    simpa [betaFinite, and_assoc] using (And.intro (Bool.and_eq_true_iff.mp
      (Bool.and_eq_true_iff.mp h).1).2 (Bool.and_eq_true_iff.mp h).2)
  obtain ⟨hnonneg, hlt⟩ := hless
  change Given.less beta 0 = false at hnonneg
  change Given.lessEq 1 beta = false at hlt
  rw [d.less] at hnonneg
  rw [d.lessEq] at hlt
  exact ⟨not_lt.mp (of_decide_eq_false hnonneg), not_le.mp (of_decide_eq_false hlt)⟩

theorem pos_of_positiveFinite (d : DocumentedRoot K) {value : K}
    (h : positiveFinite value = true) : 0 < value := by
  have hpos : Scalar.lessEq value 0 = false := by
    simpa using (Bool.and_eq_true_iff.mp h).2
  change Given.lessEq value 0 = false at hpos
  rw [d.lessEq] at hpos
  exact not_le.mp (of_decide_eq_false hpos)

theorem ranged_of_accepts (d : DocumentedRoot K) {kind : OptimizerKind} (hkind : kind ≠ .sgd)
    {hyper : Hyperparameters K} (h : accepts kind hyper = true) : Ranged hyper := by
  have hchecked : (betaFinite hyper.beta1 = true ∧ betaFinite hyper.beta2 = true) ∧
      positiveFinite hyper.epsilon = true := by
    unfold accepts at h
    cases kind with
    | sgd => exact absurd rfl hkind
    | adam => simpa only [Bool.and_eq_true] using (Bool.and_eq_true_iff.mp h).2
    | adamW => simpa only [Bool.and_eq_true] using (Bool.and_eq_true_iff.mp h).2
  exact ⟨range_of_betaFinite d hchecked.1.1, range_of_betaFinite d hchecked.1.2,
    pos_of_positiveFinite d hchecked.2⟩

variable [IsStrictOrderedRing K]

theorem correction_pos (d : DocumentedRoot K) {beta : K} (h : 0 ≤ beta ∧ beta < 1) {step : Nat}
    (hstep : 0 < step) : 0 < 1 - Given.pow beta (step : K) := by
  rw [d.pow]
  exact sub_pos.mpr (pow_lt_one₀ h.1 h.2 (Nat.pos_iff_ne_zero.mp hstep))

omit [Given K] in
theorem secondAfter_nonneg {kind : OptimizerKind} {hyper : Hyperparameters K} (r : Ranged hyper)
    (value gradient : K) {second : K} (hsecond : 0 ≤ second) :
    0 ≤ secondAfter kind hyper value gradient second := by
  have hweight : 0 ≤ 1 - hyper.beta2 := sub_nonneg.mpr r.beta2.2.le
  unfold secondAfter
  rw [mul_assoc]
  exact add_nonneg (mul_nonneg r.beta2.1 hsecond) (mul_nonneg hweight (mul_self_nonneg _))

theorem defined (d : DocumentedRoot K) {kind : OptimizerKind} {hyper : Hyperparameters K}
    (r : Ranged hyper) {step : Nat} (hstep : 0 < step) (value gradient : K) {second : K}
    (hsecond : 0 ≤ second) : Defined kind hyper step value gradient second := by
  have hcorrection := correction_pos d r.beta2 hstep
  have hafter : 0 ≤ secondAfter kind hyper value gradient second :=
    secondAfter_nonneg r value gradient hsecond
  have hhat : 0 ≤ secondHat kind hyper step value gradient second :=
    div_nonneg hafter hcorrection.le
  exact ⟨correction_pos d r.beta1 hstep, hcorrection, hsecond, hafter, hhat,
    add_pos_of_nonneg_of_pos (d.sqrt_nonneg _ hhat) r.epsilon⟩

def NonNegative (buffers : List (List K)) : Prop := ∀ buffer ∈ buffers, ∀ x ∈ buffer, 0 ≤ x

omit [Given K] [IsStrictOrderedRing K] in
theorem NonNegative.getD {buffers : List (List K)} (h : NonNegative buffers) (i j : Nat) :
    0 ≤ ((buffers[i]?).getD []).getD j 0 := by
  rw [List.getD_eq_getElem?_getD]
  cases hx : ((buffers[i]?).getD [])[j]? with
  | none => exact le_refl _
  | some x =>
      cases hb : buffers[i]? with
      | none => rw [hb] at hx; cases hx
      | some buffer =>
          rw [hb] at hx
          exact h buffer (List.mem_of_getElem? hb) x (List.mem_of_getElem? hx)

theorem nonNegative_updatedArrays {kind : OptimizerKind} (hkind : kind ≠ .sgd)
    {hyper : Hyperparameters K} (r : Ranged hyper) {buffers : List (List K)}
    (hbuffers : NonNegative buffers) (step : Nat) (values gradient first : List K) (i : Nat) :
    ∃ second, (updatedArrays kind hyper step values gradient first buffers[i]?).2.2 = some second ∧
      ∀ x ∈ second, 0 ≤ x := by
  refine ⟨_, if_neg hkind, fun x hx => ?_⟩
  obtain ⟨j, -, rfl⟩ := List.mem_map.mp hx
  simp only [updatedElement_operands hkind]
  exact secondAfter_nonneg r _ _ (hbuffers.getD i j)

omit [Given K] [IsStrictOrderedRing K] in
theorem nonNegative_setAt {moments : Moments K} (h : NonNegative moments.secondMoment) (i : Nat)
    (first : List K) {second : List K} (hsecond : ∀ x ∈ second, 0 ≤ x) :
    NonNegative (moments.setAt i first (some second)).secondMoment := by
  intro buffer hbuffer
  rcases List.mem_or_eq_of_mem_set hbuffer with hold | rfl
  · exact h buffer hold
  · exact hsecond

theorem nonNegative_stepParameter {kind : OptimizerKind} (hkind : kind ≠ .sgd)
    {hyper : Hyperparameters K} (r : Ranged hyper) {state : Heap K × Moments K}
    (h : NonNegative state.2.secondMoment) (entry : TensorId × Nat) :
    NonNegative (stepParameter kind hyper state entry).2.secondMoment := by
  unfold stepParameter
  cases state.1.gradient entry.1 with
  | none => exact h
  | some g =>
      obtain ⟨second, hsecond, hnonneg⟩ := nonNegative_updatedArrays hkind r h state.2.step
        (state.1.contents entry.1) (state.1.contents g)
        (state.2.firstMoment.getD entry.2 []) entry.2
      simp only [hsecond]
      exact nonNegative_setAt h _ _ hnonneg

theorem nonNegative_foldl {kind : OptimizerKind} (hkind : kind ≠ .sgd)
    {hyper : Hyperparameters K} (r : Ranged hyper) (entries : List (TensorId × Nat))
    {state : Heap K × Moments K} (h : NonNegative state.2.secondMoment) :
    NonNegative (entries.foldl (stepParameter kind hyper) state).2.secondMoment := by
  induction entries generalizing state with
  | nil => exact h
  | cons entry entries ih => exact ih (nonNegative_stepParameter hkind r h entry)

end Training

end Tensora
