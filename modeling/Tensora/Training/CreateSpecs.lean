import Tensora.Training.StepSpecs

/-! Creating an optimizer: what the validations accept, and the zero moments. -/
namespace Tensora
open ProgramLogic CheckedLoop

variable {F D : Type}

namespace Training
open Scalar (less lessEq isFinite)

section Validation
variable [Scalar D]

def positiveFinite (value : D) : Bool := isFinite value && !lessEq value 0
def nonNegativeFinite (value : D) : Bool := isFinite value && !less value 0
def betaFinite (value : D) : Bool := isFinite value && !less value 0 && !lessEq 1 value

def accepts (kind : OptimizerKind) (hyper : Hyperparameters D) : Bool :=
  positiveFinite hyper.learningRate && nonNegativeFinite hyper.weightDecay &&
    match kind with
    | .sgd => nonNegativeFinite hyper.momentum
    | .adam | .adamW =>
        betaFinite hyper.beta1 && betaFinite hyper.beta2 && positiveFinite hyper.epsilon

abbrev Checks (x : Native F D Unit) (accepted : Bool) : Prop :=
  ∀ s, wp x (fun _ s' => s' = s ∧ accepted = true)
    (fun e s' => s' = s ∧ e.code = some .invalidArgument ∧ accepted = false) s

omit [Scalar D] in
theorem checks_failIf {condition : Prop} [Decidable condition] {message : String} {accepted : Bool}
    (h : ¬condition ↔ accepted = true) :
    Checks (failIf condition (invalidArgument message) : Native F D Unit) accepted := by
  intro s
  rw [wp_failIf]
  exact ⟨fun hc => ⟨rfl, rfl, by simpa using fun ha => h.mpr ha hc⟩, fun hc => ⟨rfl, h.mp hc⟩⟩

omit [Scalar D] in
theorem Checks.andThen {x : Native F D Unit} {y : Unit → Native F D Unit} {a b : Bool}
    (hx : Checks x a) (hy : Checks (y ()) b) : Checks (x >>= y) (a && b) := by
  intro s
  refine wp_seq (hx s) (fun _ _ he => ⟨he.1, he.2.1, by rw [he.2.2]; rfl⟩) ?_
  rintro _ s ⟨rfl, ha⟩
  rw [ha]
  exact hy s

theorem checks_positive (value : D) (message : String) :
    Checks (validatePositiveFinite value message : Native F D Unit) (positiveFinite value) :=
  checks_failIf (by simp [positiveFinite])

theorem checks_nonNegative (value : D) (message : String) :
    Checks (validateNonNegativeFinite value message : Native F D Unit) (nonNegativeFinite value) :=
  checks_failIf (by simp [nonNegativeFinite])

theorem checks_beta (value : D) (message : String) :
    Checks (validateBeta value message : Native F D Unit) (betaFinite value) :=
  checks_failIf (by simp [betaFinite, and_assoc])

/-- The two validations differ in their messages only. -/
theorem checks_hyperparameters (kind : OptimizerKind) (hyper : Hyperparameters D) :
    Checks (validateHyperparameters kind hyper : Native F D Unit) (accepts kind hyper) := by
  unfold accepts
  rw [Bool.and_assoc]
  refine (checks_positive _ _).andThen ((checks_nonNegative _ _).andThen ?_)
  cases kind with
  | sgd => exact checks_nonNegative _ _
  | adam =>
      rw [Bool.and_assoc]
      exact (checks_beta _ _).andThen ((checks_beta _ _).andThen (checks_positive _ _))
  | adamW =>
      rw [Bool.and_assoc]
      exact (checks_beta _ _).andThen ((checks_beta _ _).andThen (checks_positive _ _))

theorem checks_tensorHyperparameters (kind : OptimizerKind) (hyper : Hyperparameters D) :
    Checks (validateTensorHyperparameters kind hyper : Native F D Unit) (accepts kind hyper) := by
  unfold accepts
  rw [Bool.and_assoc]
  refine (checks_positive _ _).andThen ((checks_nonNegative _ _).andThen ?_)
  cases kind with
  | sgd => exact checks_nonNegative _ _
  | adam =>
      rw [Bool.and_assoc]
      exact (checks_beta _ _).andThen ((checks_beta _ _).andThen (checks_positive _ _))
  | adamW =>
      rw [Bool.and_assoc]
      exact (checks_beta _ _).andThen ((checks_beta _ _).andThen (checks_positive _ _))

end Validation

section Moments
variable [Zero F] {h : Heap F} {parameters : List TensorId}

def zeroBuffers (h : Heap F) (parameters : List TensorId) : List (List F) :=
  parameters.map fun p => List.replicate (h.dims p).prod 0

theorem sized_zeroBuffers : Sized h parameters (zeroBuffers h parameters) := by
  unfold Sized zeroBuffers
  rw [List.forall₂_map_right_iff, List.forall₂_same]
  exact fun p _ => List.length_replicate

private theorem eq_map_of_forall₂ {α β : Type} {f : α → β} {xs : List α} {ys : List β}
    (h : List.Forall₂ (fun x y => f x = y) xs ys) : ys = xs.map f := by
  induction h with
  | nil => rfl
  | cons hxy _ ih => rw [List.map_cons, hxy, ih]

omit [Zero F] in
theorem spec_sizes (wf : WellFormed h) (hp : ∀ p ∈ parameters, h.Visible p) :
    Observes (parameters.mapM fun p => do return (← deref p).numel : Mem F (List Nat)) h
      fun sizes => sizes = parameters.map fun p => (h.dims p).prod := by
  refine (spec_mapM (P := fun p n => (h.dims p).prod = n) parameters fun p hmem => ?_).mono ?_
    (fun _ _ he => he) fun _ hx => hx
  · obtain ⟨t, ht⟩ := (hp p hmem).get
    refine (observes_deref ht).bind rfl ?_
    rintro t rfl
    exact spec_pure ⟨rfl, (Heap.Visible.numel wf ht).symm⟩
  · rintro sizes _ ⟨rfl, hsizes⟩
    exact ⟨rfl, eq_map_of_forall₂ hsizes⟩

theorem spec_zeroMoments (hfits : ∀ p ∈ parameters, (h.dims p).prod ≤ kMaxFloats) :
    Observes (zeroMoments (parameters.map fun p => (h.dims p).prod) : Mem F (List (List F))) h
      fun buffers => buffers = zeroBuffers h parameters := by
  unfold zeroMoments
  refine (spec_mapM (P := fun n buffer => List.replicate n 0 = buffer) _ fun n hn => ?_).mono ?_
    (fun _ _ he => he) fun _ hx => hx
  · obtain ⟨p, hp, rfl⟩ := List.mem_map.mp hn
    refine (observes_allocateFloats h (hfits p hp)).bind rfl fun _ _ => ?_
    exact spec_pure ⟨rfl, rfl⟩
  · rintro buffers _ ⟨rfl, hbuffers⟩
    rw [List.forall₂_map_left_iff] at hbuffers
    exact ⟨rfl, eq_map_of_forall₂ hbuffers⟩

theorem spec_initializeCpuMoments (wf : WellFormed h) (hp : ∀ p ∈ parameters, h.Visible p)
    (operation : String) :
    Spec (initializeCpuMoments parameters operation : Mem F (List (List F) × List (List F))) h
      (fun r h' => h' = h ∧ Updatable h parameters ∧
        r = (zeroBuffers h parameters, zeroBuffers h parameters))
      (fun e h' => h' = h ∧ e.code = some .invalidArgument ∧
        ∃ p ∈ parameters, h.contiguous p = false) (fun h' => h' = h) := by
  unfold initializeCpuMoments
  refine spec_allocationGuard _ ?_
  refine (observes_allocate h).bind rfl fun _ _ => ?_
  refine (observes_allocate h).bind rfl fun _ _ => ?_
  refine spec_foldlM (fun done _ r h' => h' = h ∧ Updatable h done ∧
    r = (zeroBuffers h done, zeroBuffers h done)) _ ⟨rfl, by simp [Updatable], rfl⟩ ?_
    fun _ _ hI => hI
  rintro done p rest ⟨first, second⟩ _ hsplit ⟨rfl, hu, hr⟩
  cases hr
  have hmem : p ∈ parameters := by rw [hsplit]; simp
  have hv := hp p hmem
  obtain ⟨t, ht⟩ := hv.get
  refine Spec.bind ((Autograd.spec_mutableCpuValues wf ht operation).mono (fun _ _ hq => hq) ?_
    fun _ hx => hx) ?_
  · rintro e _ ⟨rfl, hc, rfl⟩
    exact ⟨rfl, rfl, p, hmem, (Heap.contiguous_of ht).trans hc⟩
  rintro values h ⟨rfl, hc, rfl, -⟩
  have hlen := hv.length wf
  have hfits : (h.contents p).length ≤ kMaxFloats := by
    rw [hlen]
    exact hv.fits wf
  refine (observes_allocateFloats h hfits).bind rfl fun _ _ => ?_
  refine (observes_allocateFloats h hfits).bind rfl fun _ _ => ?_
  refine spec_pure ⟨rfl, fun q hq => ?_, ?_⟩
  · rcases List.mem_append.mp hq with hold | hlast
    · exact hu q hold
    · rw [List.mem_singleton.mp hlast]
      exact ⟨hv, (Heap.contiguous_of ht).trans hc⟩
  · rw [hlen, zeroBuffers, zeroBuffers, List.map_append]
    rfl

end Moments

end Training

end Tensora
