import Tensora.Api.CreationCalls
import Tensora.Api.OptimizerCalls

/-! What one call does to an optimizer of either table: nothing, unless it creates the
optimizer with zero moments or takes a step of it, whole or broken off. -/
namespace Tensora
open ProgramLogic

variable {F D α β : Type}

inductive Place where
  | ofModule (object : Nat)
  | ofTensors (object : Nat)
  deriving DecidableEq, Repr

/-- What an optimizer keeps from creation on, and what its steps change. -/
structure Held (F D : Type) where
  kind : OptimizerKind
  hyper : Hyperparameters D
  moments : Moments F

def Runtime.heldAt (s : Runtime F D) : Place → Option (Held F D)
  | .ofModule object => s.optimizers[object]?.map fun o => ⟨o.kind, o.hyper, o.moments⟩
  | .ofTensors object => s.parameterOptimizers[object]?.map fun o => ⟨o.kind, o.hyper, o.moments⟩

def Runtime.SameTables (s s' : Runtime F D) : Prop :=
  s'.optimizers = s.optimizers ∧ s'.parameterOptimizers = s.parameterOptimizers

theorem Runtime.SameTables.trans {s s' s'' : Runtime F D} (h : s.SameTables s')
    (h' : s'.SameTables s'') : s.SameTables s'' := ⟨h'.1.trans h.1, h'.2.trans h.2⟩

theorem Runtime.SameTables.heldAt {s s' : Runtime F D} (h : s.SameTables s') (place : Place) :
    s'.heldAt place = s.heldAt place := by
  cases place with
  | ofModule object => rw [Runtime.heldAt, Runtime.heldAt, h.1]
  | ofTensors object => rw [Runtime.heldAt, Runtime.heldAt, h.2]

def LeavesTables (x : Native F D α) : Prop :=
  ∀ s, wp x (fun _ s' => s.SameTables s') (fun _ s' => s.SameTables s') s

section Rules
variable {x : Native F D α} {f : α → Native F D β}

theorem leavesTables_bind (hx : LeavesTables x) (hf : ∀ r, LeavesTables (f r)) :
    LeavesTables (x >>= f) := by
  intro s
  refine wp_seq (hx s) (fun _ _ he => he) fun r s₁ h => ?_
  exact wp_mono (hf r s₁) (fun _ _ h' => h.trans h') fun _ _ h' => h.trans h'

theorem leavesTables_pure (r : α) : LeavesTables (pure r : Native F D α) := fun _ => ⟨rfl, rfl⟩

theorem leavesTables_onMemory (program : Mem F α) :
    LeavesTables (onMemory program : Native F D α) := by
  intro s
  rw [wp_onMemory]
  unfold wp
  cases program s.memory <;> exact ⟨rfl, rfl⟩

theorem wp_onMemory_result {program : Mem F α} {T : α → Prop} {s : Runtime F D}
    (h : wp program (fun r _ => T r) (fun _ _ => True) s.memory) :
    wp (onMemory program) (fun r s' => s.SameTables s' ∧ T r) (fun _ s' => s.SameTables s') s := by
  rw [wp_onMemory]
  exact wp_mono h (fun _ _ ht => ⟨⟨rfl, rfl⟩, ht⟩) fun _ _ _ => ⟨rfl, rfl⟩

theorem leavesTables_onRegistry (program : RegistryM α) :
    LeavesTables (onRegistry program : Native F D α) := by
  intro s
  rw [wp_onRegistry]
  unfold wp
  cases program s.registry <;> exact ⟨rfl, rfl⟩

theorem leavesTables_insertHandle (type : HandleType) (object : Nat) :
    LeavesTables (insertHandle type object : Native F D Nat) := by
  intro s
  unfold insertHandle
  simp only [wp_bind, wp_get, wp_modify]
  exact leavesTables_onRegistry _ _

theorem leavesTables_lookupModule (handle : Nat) :
    LeavesTables (lookupModule handle : Native F D _) := by
  intro s
  refine wp_mono (wp_lookupModule_or s handle) ?_ ?_
  · rintro _ _ ⟨rfl, -⟩
    exact ⟨rfl, rfl⟩
  · rintro _ _ rfl
    exact ⟨rfl, rfl⟩

theorem leavesTables_failIf (condition : Prop) [Decidable condition] (e : Failure) :
    LeavesTables (failIf condition e : Native F D Unit) := by
  intro s
  rw [wp_failIf]
  exact ⟨fun _ => ⟨rfl, rfl⟩, fun _ => ⟨rfl, rfl⟩⟩

theorem leavesTables_forM {g : α → Native F D PUnit} (hg : ∀ r, LeavesTables (g r))
    (entries : List α) : LeavesTables (entries.forM g) := by
  intro s
  refine wp_forM (fun _ _ s' => s.SameTables s') entries ⟨rfl, rfl⟩ ?_ fun _ h => h
  rintro _ entry _ s₁ - h
  exact wp_mono (hg entry s₁) (fun _ _ h' => h.trans h') fun _ _ h' => h.trans h'

theorem leavesTables_foldlM {g : β → α → Native F D β} (hg : ∀ b r, LeavesTables (g b r))
    (entries : List α) (b : β) : LeavesTables (entries.foldlM g b) := by
  intro s
  refine wp_foldlM (fun _ _ _ s' => s.SameTables s') entries ⟨rfl, rfl⟩ ?_ fun _ _ h => h
  rintro _ entry _ b s₁ - h
  exact wp_mono (hg b entry s₁) (fun _ _ h' => h.trans h') fun _ _ h' => h.trans h'

theorem wp_leavesTables_seq {Q : β → Runtime F D → Prop} {E : Failure → Runtime F D → Prop}
    {s s₁ : Runtime F D} (same : s.SameTables s₁) (hx : LeavesTables x)
    (he : ∀ e s', s.SameTables s' → E e s')
    (hf : ∀ r s', s.SameTables s' → wp (f r) Q E s') : wp (x >>= f) Q E s₁ :=
  wp_seq (hx s₁) (fun e s' h => he e s' (same.trans h)) fun r s' h => hf r s' (same.trans h)

end Rules

namespace Api
open Training

def Zeros [Zero F] (buffers : List (List F)) : Prop := ∀ buffer ∈ buffers, ∀ x ∈ buffer, x = 0

section Zeros
variable [Zero F]

theorem Zeros.snoc {buffers : List (List F)} (h : Zeros buffers) (n : Nat) :
    Zeros (buffers ++ [List.replicate n 0]) := by
  intro buffer hbuffer x hx
  rcases List.mem_append.mp hbuffer with hold | hlast
  · exact h buffer hold x hx
  · rw [List.mem_singleton.mp hlast] at hx
    exact List.eq_of_mem_replicate hx

theorem zeros_zeroMoments (sizes : List Nat) (m : Memory F) :
    wp (zeroMoments sizes) (fun r _ => Zeros r) (fun _ _ => True) m := by
  refine wp_mapM (fun _ buffers _ => Zeros buffers) sizes (fun _ hmem => by cases hmem) ?_
    fun _ _ h => h
  rintro _ size _ buffers m - h
  refine wp_seq wp_any (fun _ _ _ => trivial) fun _ _ _ => ?_
  exact h.snoc size

theorem zeros_initializeCpuMoments (parameters : List TensorId) (operation : String)
    (m : Memory F) :
    wp (initializeCpuMoments parameters operation) (fun r _ => Zeros r.1 ∧ Zeros r.2)
      (fun _ _ => True) m := by
  unfold initializeCpuMoments
  refine wp_allocationGuard operation ?_
  refine wp_seq wp_any (fun _ _ _ => trivial) fun _ _ _ => ?_
  refine wp_seq wp_any (fun _ _ _ => trivial) fun _ _ _ => ?_
  refine wp_foldlM (fun _ _ r _ => Zeros r.1 ∧ Zeros r.2) parameters
    ⟨fun _ hmem => (by cases hmem), fun _ hmem => (by cases hmem)⟩ ?_ fun _ _ h => h
  rintro _ parameter _ ⟨first, second⟩ m - ⟨hfirst, hsecond⟩
  refine wp_seq wp_any (fun _ _ _ => trivial) fun values _ _ => ?_
  refine wp_seq wp_any (fun _ _ _ => trivial) fun _ _ _ => ?_
  refine wp_seq wp_any (fun _ _ _ => trivial) fun _ _ _ => ?_
  exact ⟨hfirst.snoc _, hsecond.snoc _⟩

variable [Scalar D]

structure Fresh (kind : OptimizerKind) (hyper : Hyperparameters D) (held : Held F D) : Prop where
  accepted : accepts kind hyper = true
  created : held.kind = kind ∧ held.hyper = hyper
  step : held.moments.step = 0
  first : Zeros held.moments.firstMoment
  second : Zeros held.moments.secondMoment

def Adds (kind : OptimizerKind) (hyper : Hyperparameters D) (s s' : Runtime F D) : Prop :=
  ∀ place held, s'.heldAt place = some held → s.heldAt place = some held ∨ Fresh kind hyper held

theorem adds_of_sameTables {kind : OptimizerKind} {hyper : Hyperparameters D}
    {s s' : Runtime F D} (h : s.SameTables s') : Adds kind hyper s s' := by
  intro place held hheld
  rw [h.heldAt] at hheld
  exact Or.inl hheld

omit [Zero F] [Scalar D] in
theorem getElem?_snoc {xs : List α} {x y : α} {i : Nat} (h : (xs ++ [x])[i]? = some y) :
    xs[i]? = some y ∨ y = x := by
  rcases Nat.lt_trichotomy i xs.length with hlt | rfl | hgt
  · rw [List.getElem?_append_left hlt] at h
    exact Or.inl h
  · rw [List.getElem?_concat_length] at h
    exact Or.inr (Option.some.inj h).symm
  · rw [List.getElem?_eq_none (by simp; omega)] at h
    cases h

variable {s : Runtime F D}

theorem adds_optimizer {kind : OptimizerKind} {hyper : Hyperparameters D} {s₁ s₂ : Runtime F D}
    (same : s.SameTables s₁) (haccept : accepts kind hyper = true) {module : Nat}
    {first second : List (List F)} (hfirst : Zeros first) (hsecond : Zeros second)
    (htables : Runtime.SameTables { s₁ with optimizers :=
      s₁.optimizers ++ [⟨kind, module, hyper, ⟨0, first, second⟩⟩] } s₂) :
    Adds kind hyper s s₂ := by
  intro place held hheld
  rw [htables.heldAt] at hheld
  cases place with
  | ofModule object =>
      obtain ⟨o, ho, rfl⟩ := Option.map_eq_some_iff.mp hheld
      rcases getElem?_snoc ho with hold | rfl
      · rw [same.1] at hold
        exact Or.inl (by rw [Runtime.heldAt, hold]; rfl)
      · exact Or.inr ⟨haccept, ⟨rfl, rfl⟩, rfl, hfirst, hsecond⟩
  | ofTensors object => exact Or.inl ((same.heldAt (.ofTensors object)).symm.trans hheld)

theorem adds_parameterOptimizer {kind : OptimizerKind} {hyper : Hyperparameters D}
    {s₁ s₂ : Runtime F D} (same : s.SameTables s₁) (haccept : accepts kind hyper = true)
    {parameters : List TensorId} {first second : List (List F)} (hfirst : Zeros first)
    (hsecond : Zeros second)
    (htables : Runtime.SameTables { s₁ with parameterOptimizers :=
      s₁.parameterOptimizers ++ [⟨kind, parameters, hyper, ⟨0, first, second⟩⟩] } s₂) :
    Adds kind hyper s s₂ := by
  intro place held hheld
  rw [htables.heldAt] at hheld
  cases place with
  | ofModule object => exact Or.inl ((same.heldAt (.ofModule object)).symm.trans hheld)
  | ofTensors object =>
      obtain ⟨o, ho, rfl⟩ := Option.map_eq_some_iff.mp hheld
      rcases getElem?_snoc ho with hold | rfl
      · rw [same.2] at hold
        exact Or.inl (by rw [Runtime.heldAt, hold]; rfl)
      · exact Or.inr ⟨haccept, ⟨rfl, rfl⟩, rfl, hfirst, hsecond⟩

theorem wp_createOptimizer_adds (module : Nat) (kind : OptimizerKind) (hyper : Hyperparameters D)
    (s : Runtime F D) :
    wp (createOptimizer module kind hyper) (fun _ s' => Adds kind hyper s s')
      (fun _ s' => Adds kind hyper s s') s := by
  unfold createOptimizer
  refine wp_seq (checks_hyperparameters kind hyper s) ?_ ?_
  · rintro _ _ ⟨rfl, -⟩
    exact fun _ _ h => Or.inl h
  rintro _ s ⟨rfl, haccept⟩
  have hsame : ∀ (e : Failure) s', s.SameTables s' → Adds kind hyper s s' :=
    fun _ _ h => adds_of_sameTables h
  refine wp_leavesTables_seq ⟨rfl, rfl⟩ (leavesTables_lookupModule module) hsame ?_
  rintro ⟨object, state⟩ s₁ same
  refine wp_allocationGuard _ ?_
  refine wp_leavesTables_seq same (leavesTables_onMemory _) hsame fun _ s₂ same => ?_
  refine wp_leavesTables_seq same (leavesTables_onMemory _) hsame fun _ s₃ same => ?_
  refine wp_leavesTables_seq same (leavesTables_onMemory _) hsame fun sizes s₄ same => ?_
  refine wp_leavesTables_seq same (leavesTables_onMemory _) hsame fun _ s₅ same => ?_
  refine wp_leavesTables_seq same (leavesTables_onMemory _) hsame fun _ s₆ same => ?_
  have hzeros : ∀ s' : Runtime F D, wp (onMemory (zeroMoments sizes) : Native F D (List (List F)))
      (fun r s'' => s'.SameTables s'' ∧ Zeros r) (fun _ s'' => s'.SameTables s'') s' := fun s' =>
    wp_onMemory_result (zeros_zeroMoments sizes s'.memory)
  refine wp_seq (hzeros s₆) (fun e s' h => hsame e s' (same.trans h)) ?_
  rintro first s₇ ⟨hsame₇, hfirst⟩
  have hlast : ∀ (second : List (List F)) (s' : Runtime F D), s.SameTables s' → Zeros second →
      wp (do
        let optimizer := (← get).optimizers.length
        modify fun r => { r with optimizers := r.optimizers ++ [{
          kind := kind
          module := object
          hyper := hyper
          moments := ⟨0, first, second⟩ }] }
        insertHandle .optimizer optimizer : Native F D Nat)
      (fun _ s' => Adds kind hyper s s') (fun _ s' => Adds kind hyper s s') s' := by
    intro second s' same hsecond
    rw [wp_bind, wp_get, wp_bind, wp_modify]
    refine wp_mono (leavesTables_insertHandle _ _ _) ?_ ?_
    · exact fun _ _ h => adds_optimizer same haccept hfirst hsecond h
    · exact fun _ _ h => adds_optimizer same haccept hfirst hsecond h
  by_cases hk : kind = .sgd
  · rw [if_pos hk, pure_bind]
    exact hlast [] s₇ (same.trans hsame₇) fun _ hmem => by cases hmem
  · rw [if_neg hk]
    refine wp_seq (hzeros s₇) (fun e s' h => hsame e s' ((same.trans hsame₇).trans h)) ?_
    rintro second s₈ ⟨hsame₈, hsecond⟩
    exact hlast second s₈ ((same.trans hsame₇).trans hsame₈) hsecond

omit [Zero F] [Scalar D] in
theorem leavesTables_collectParameters (handles : Option (List Nat)) (operation : String) :
    LeavesTables (collectParameters handles operation : Native F D _) := by
  unfold collectParameters
  split
  · exact fun _ => ⟨rfl, rfl⟩
  · exact fun _ => ⟨rfl, rfl⟩
  · refine leavesTables_bind (leavesTables_foldlM (fun r handle => ?_) _ _) fun _ =>
      leavesTables_bind (leavesTables_failIf _ _) fun _ => leavesTables_pure _
    refine leavesTables_bind (leavesTables_onRegistry _) fun id =>
      leavesTables_bind (leavesTables_onMemory _) fun _ =>
        leavesTables_bind (leavesTables_failIf _ _) fun _ =>
          leavesTables_bind (leavesTables_onMemory _) fun graded => ?_
    cases graded with
    | false => exact leavesTables_pure _
    | true => exact leavesTables_bind (leavesTables_onMemory _) fun _ => leavesTables_pure _

theorem wp_createForTensors_adds (handles : Option (List Nat)) (kind : OptimizerKind)
    (hyper : Hyperparameters D) (s : Runtime F D) :
    wp (createForTensors handles kind hyper) (fun _ s' => Adds kind hyper s s')
      (fun _ s' => Adds kind hyper s s') s := by
  unfold createForTensors
  refine wp_seq (checks_tensorHyperparameters kind hyper s) ?_ ?_
  · rintro _ _ ⟨rfl, -⟩
    exact fun _ _ h => Or.inl h
  rintro _ s ⟨rfl, haccept⟩
  have hsame : ∀ (e : Failure) s', s.SameTables s' → Adds kind hyper s s' :=
    fun _ _ h => adds_of_sameTables h
  refine wp_leavesTables_seq ⟨rfl, rfl⟩ (leavesTables_collectParameters _ _) hsame ?_
  intro parameters s₁ same
  refine wp_leavesTables_seq same (leavesTables_onMemory _) hsame fun _ s₂ same => ?_
  refine wp_seq (wp_onMemory_result (zeros_initializeCpuMoments parameters _ s₂.memory))
    (fun e s' h => hsame e s' (same.trans h)) ?_
  rintro ⟨first, second⟩ s₃ ⟨hsame₃, hfirst, hsecond⟩
  rw [wp_bind, wp_get, wp_bind, wp_modify]
  refine wp_mono (leavesTables_insertHandle _ _ _) ?_ ?_
  · exact fun _ _ h => adds_parameterOptimizer (same.trans hsame₃) haccept hfirst hsecond h
  · exact fun _ _ h => adds_parameterOptimizer (same.trans hsame₃) haccept hfirst hsecond h

end Zeros

def Call.stepped (s : Runtime F D) : Call F D → Option Place
  | .optimizerStep optimizer => (s.optimizerAt optimizer).map fun r => .ofModule r.1
  | .parameterOptimizerStep optimizer =>
      (s.parameterOptimizerAt optimizer).map fun r => .ofTensors r.1
  | _ => none

def trainedAt (s : Runtime F D) : Place → List TensorId
  | .ofModule object =>
      (((s.optimizers[object]?).bind fun o => s.modules[o.module]?).map
        LinearState.parameters).getD []
  | .ofTensors object =>
      ((s.parameterOptimizers[object]?).map ParameterOptimizerState.parameters).getD []

variable {s s' : Runtime F D} {place : Place} {held : Held F D}

theorem heldAt_withMoments {object : Nat} {o : OptimizerState F D}
    (ho : s.optimizers[object]? = some o) (state : Heap F × Moments F) (a : Allocator) :
    (s.withMoments object state a).heldAt (.ofModule object) =
      some ⟨o.kind, o.hyper, state.2⟩ := by
  simp only [Runtime.heldAt, Runtime.withMoments, List.getElem?_modify_eq, ho, Option.map_eq_map,
    Option.map_some]

theorem heldAt_withMoments_of_ne {object : Nat} (hne : place ≠ .ofModule object)
    (state : Heap F × Moments F) (a : Allocator) :
    (s.withMoments object state a).heldAt place = s.heldAt place := by
  cases place with
  | ofModule other =>
      have hother : object ≠ other := fun heq => hne (by rw [heq])
      simp only [Runtime.heldAt, Runtime.withMoments, List.getElem?_modify_ne _ _ hother]
  | ofTensors other => rfl

theorem heldAt_withParameterMoments {object : Nat} {o : ParameterOptimizerState F D}
    (ho : s.parameterOptimizers[object]? = some o) (state : Heap F × Moments F) (a : Allocator) :
    (s.withParameterMoments object state a).heldAt (.ofTensors object) =
      some ⟨o.kind, o.hyper, state.2⟩ := by
  simp only [Runtime.heldAt, Runtime.withParameterMoments, List.getElem?_modify_eq, ho,
    Option.map_eq_map, Option.map_some]

theorem heldAt_withParameterMoments_of_ne {object : Nat} (hne : place ≠ .ofTensors object)
    (state : Heap F × Moments F) (a : Allocator) :
    (s.withParameterMoments object state a).heldAt place = s.heldAt place := by
  cases place with
  | ofModule other => rfl
  | ofTensors other =>
      have hother : object ≠ other := fun heq => hne (by rw [heq])
      simp only [Runtime.heldAt, Runtime.withParameterMoments, List.getElem?_modify_ne _ _ hother]

section Steps
variable [Scalar F] [Scalar D] [Precision F D]

structure SteppedTo (s s' : Runtime F D) (place : Place) (held : Held F D)
    (done : List (TensorId × Nat)) : Prop where
  heap : s'.heap =
    (done.foldl (stepParameter held.kind held.hyper) (s.heap, held.moments.nextStep)).1
  stepped : s'.heldAt place = some { held with moments :=
    (done.foldl (stepParameter held.kind held.hyper) (s.heap, held.moments.nextStep)).2 }
  others : ∀ other, other ≠ place → s'.heldAt other = s.heldAt other

/-- A step that did not count, or that went through the first of the parameters. -/
def StepsFrom (s s' : Runtime F D) (place : Place) (held : Held F D) : Prop :=
  s'.heap = s.heap ∧ s.SameTables s' ∨
    ∃ done rest, (trainedAt s place).zipIdx = done ++ rest ∧ SteppedTo s s' place held done

theorem steppedTo_withMoments {object : Nat} {o : OptimizerState F D}
    (ho : s.optimizers[object]? = some o) (done : List (TensorId × Nat)) (a : Allocator) :
    SteppedTo s (s.withMoments object (done.foldl (stepParameter o.kind o.hyper)
      (s.heap, o.moments.nextStep)) a) (.ofModule object) ⟨o.kind, o.hyper, o.moments⟩ done where
  heap := rfl
  stepped := heldAt_withMoments ho _ _
  others := fun _ hne => heldAt_withMoments_of_ne hne _ _

theorem steppedTo_withParameterMoments {object : Nat} {o : ParameterOptimizerState F D}
    (ho : s.parameterOptimizers[object]? = some o) (done : List (TensorId × Nat)) (a : Allocator) :
    SteppedTo s (s.withParameterMoments object (done.foldl (stepParameter o.kind o.hyper)
      (s.heap, o.moments.nextStep)) a) (.ofTensors object) ⟨o.kind, o.hyper, o.moments⟩ done where
  heap := rfl
  stepped := heldAt_withParameterMoments ho _ _
  others := fun _ hne => heldAt_withParameterMoments_of_ne hne _ _

theorem wp_optimizerStep_from (ok : s.Ok) {handle object : Nat} {o : OptimizerState F D}
    (ho : s.optimizerAt handle = some (object, o)) :
    wp (optimizerStep handle)
      (fun _ s' => StepsFrom s s' (.ofModule object) ⟨o.kind, o.hyper, o.moments⟩)
      (fun _ s' => StepsFrom s s' (.ofModule object) ⟨o.kind, o.hyper, o.moments⟩) s := by
  have hget := Runtime.get_optimizerAt ho
  obtain ⟨module, hm, -⟩ := (ok.optimizers o (List.mem_of_getElem? hget)).bound
  refine wp_mono (wp_optimizerStep ok ho hm) ?_ ?_
  · rintro _ _ ⟨-, rfl, -⟩
    refine Or.inr ⟨module.parameters.zipIdx, [], ?_, steppedTo_withMoments hget _ _⟩
    rw [trainedAt, hget, Option.bind_some, hm, List.append_nil]
    rfl
  · rintro _ _ ⟨-, -, rfl⟩
    exact Or.inl ⟨rfl, rfl, rfl⟩

theorem wp_cpuStep_from (ok : s.Ok) {handle object : Nat} {o : ParameterOptimizerState F D}
    (ho : s.parameterOptimizerAt handle = some (object, o)) :
    wp (cpuStep handle)
      (fun _ s' => StepsFrom s s' (.ofTensors object) ⟨o.kind, o.hyper, o.moments⟩)
      (fun _ s' => StepsFrom s s' (.ofTensors object) ⟨o.kind, o.hyper, o.moments⟩) s := by
  have hget := Runtime.get_parameterOptimizerAt ho
  have htrained : trainedAt s (.ofTensors object) = o.parameters := by
    rw [trainedAt, hget]
    rfl
  refine wp_mono (wp_cpuStep ok ho) ?_ ?_
  · rintro _ _ ⟨-, rfl, -⟩
    refine Or.inr ⟨o.parameters.zipIdx, [], ?_, steppedTo_withParameterMoments hget _ _⟩
    rw [htrained, List.append_nil]
  · rintro _ _ ⟨-, done, entry, rest, hsplit, -, -, -, rfl⟩
    refine Or.inr ⟨done, entry :: rest, ?_, steppedTo_withParameterMoments hget _ _⟩
    rw [htrained, hsplit]

end Steps

section Calls

theorem leavesTables_optimizerZeroGrad (handle : Nat) :
    LeavesTables (optimizerZeroGrad handle : Native F D Unit) := by
  intro s
  unfold optimizerZeroGrad
  refine wp_seq (wp_lookupOptimizer_or s handle) ?_ ?_
  · rintro _ _ rfl
    exact ⟨rfl, rfl⟩
  rintro ⟨object, state⟩ s ⟨rfl, -⟩
  have hmodule : LeavesTables (moduleOf state : Native F D LinearState) := by
    intro s
    unfold moduleOf
    rw [wp_bind, wp_get]
    split <;> exact ⟨rfl, rfl⟩
  refine leavesTables_bind hmodule (fun module => ?_) s
  exact leavesTables_bind (leavesTables_onMemory _) fun _ =>
    leavesTables_forM (fun _ => leavesTables_onMemory _) _

theorem leavesTables_zeroGrad (handle : Nat) :
    LeavesTables (zeroGrad handle : Native F D Unit) := by
  intro s
  unfold zeroGrad
  refine wp_seq (wp_lookupParameterOptimizer_or s handle) ?_ ?_
  · rintro _ _ rfl
    exact ⟨rfl, rfl⟩
  rintro _ s ⟨rfl, -⟩
  exact leavesTables_forM (fun _ => leavesTables_onMemory _) _ s

variable [Scalar F] [Scalar D] [Precision F D] [FloatBits F]

omit [Scalar F] [Scalar D] [Precision F D] [FloatBits F] in
theorem wp_replied {x : Native F D α} {P : Runtime F D → Prop} (reply : α → Reply F)
    (h : wp x (fun _ s' => P s') (fun _ s' => P s') s) :
    wp (do let r ← x; return reply r : Native F D (Reply F)) (fun _ s' => P s')
      (fun _ s' => P s') s :=
  wp_seq h (fun _ _ he => he) fun _ _ hp => hp

theorem after_of_wp (call : Call F D) {P : Runtime F D → Prop}
    (h : wp (exec call) (fun _ s' => P s') (fun _ s' => P s') s) : P (after s call) := by
  unfold after
  unfold wp at h
  cases hx : exec call s <;> rw [hx] at h <;> exact h

theorem after_stepped (ok : s.Ok) {call : Call F D} (hstepped : call.stepped s = some place)
    (hheld : s.heldAt place = some held) : StepsFrom s (after s call) place held := by
  cases call with
  | optimizerStep optimizer =>
      obtain ⟨⟨object, o⟩, ho, rfl⟩ := Option.map_eq_some_iff.mp hstepped
      rw [Runtime.heldAt, Runtime.get_optimizerAt ho] at hheld
      obtain rfl := Option.some.inj hheld
      exact after_of_wp (.optimizerStep optimizer)
        (wp_replied (fun _ => .done) (wp_optimizerStep_from ok ho))
  | parameterOptimizerStep optimizer =>
      obtain ⟨⟨object, o⟩, ho, rfl⟩ := Option.map_eq_some_iff.mp hstepped
      rw [Runtime.heldAt, Runtime.get_parameterOptimizerAt ho] at hheld
      obtain rfl := Option.some.inj hheld
      exact after_of_wp (.parameterOptimizerStep optimizer)
        (wp_replied (fun _ => .done) (wp_cpuStep_from ok ho))
  | _ => cases hstepped

omit [Scalar F] [Scalar D] [Precision F D] [FloatBits F] in
theorem heldAt_of_stepped {call : Call F D} (hstepped : call.stepped s = some place) :
    ∃ held, s.heldAt place = some held := by
  cases call with
  | optimizerStep optimizer =>
      obtain ⟨⟨object, o⟩, ho, rfl⟩ := Option.map_eq_some_iff.mp hstepped
      exact ⟨_, by rw [Runtime.heldAt, Runtime.get_optimizerAt ho]; rfl⟩
  | parameterOptimizerStep optimizer =>
      obtain ⟨⟨object, o⟩, ho, rfl⟩ := Option.map_eq_some_iff.mp hstepped
      exact ⟨_, by rw [Runtime.heldAt, Runtime.get_parameterOptimizerAt ho]; rfl⟩
  | _ => cases hstepped

theorem after_unstepped {call : Call F D} (hcall : call.onOptimizer = true)
    (hstepped : call.stepped s = none) :
    s.SameTables (after s call) ∨ ∃ kind hyper, Adds kind hyper s (after s call) := by
  cases call with
  | optimizerCreate module kind hyper =>
      exact Or.inr ⟨kind, hyper, after_of_wp _ (wp_replied Reply.handle
        (wp_createOptimizer_adds module kind hyper s))⟩
  | createForTensors handles kind hyper =>
      exact Or.inr ⟨kind, hyper, after_of_wp _ (wp_replied Reply.handle
        (wp_createForTensors_adds handles kind hyper s))⟩
  | optimizerZeroGrad optimizer =>
      exact Or.inl (after_of_wp _ (wp_replied (fun _ => .done)
        (leavesTables_optimizerZeroGrad optimizer s)))
  | parameterOptimizerZeroGrad optimizer =>
      exact Or.inl (after_of_wp _ (wp_replied (fun _ => .done)
        (leavesTables_zeroGrad optimizer s)))
  | optimizerRelease optimizer =>
      exact Or.inl (after_of_wp _ (wp_replied (fun _ => .done) (leavesTables_onRegistry _ s)))
  | parameterOptimizerRelease optimizer =>
      exact Or.inl (after_of_wp _ (wp_replied (fun _ => .done) (leavesTables_onRegistry _ s)))
  | optimizerStep optimizer =>
      refine Or.inl (after_of_wp _ (wp_replied (fun _ => .done) ?_))
      refine wp_seq (wp_lookupOptimizer_or s optimizer) ?_ ?_
      · rintro _ _ rfl
        exact ⟨rfl, rfl⟩
      · rintro r _ ⟨-, hr⟩
        rw [Call.stepped, hr] at hstepped
        cases hstepped
  | parameterOptimizerStep optimizer =>
      refine Or.inl (after_of_wp _ (wp_replied (fun _ => .done) ?_))
      refine wp_seq (wp_lookupParameterOptimizer_or s optimizer) ?_ ?_
      · rintro _ _ rfl
        exact ⟨rfl, rfl⟩
      · rintro r _ ⟨-, hr⟩
        rw [Call.stepped, hr] at hstepped
        cases hstepped
  | _ => cases hcall

/-- What a call does to the optimizers: it leaves them, creates one, or steps one. -/
theorem after_tables (ok : s.Ok) (call : Call F D) :
    s.SameTables (after s call) ∨ (∃ kind hyper, Adds kind hyper s (after s call)) ∨
      ∃ place held, call.stepped s = some place ∧ s.heldAt place = some held ∧
        StepsFrom s (after s call) place held := by
  cases hcall : call.onOptimizer with
  | false => exact Or.inl (after_beside hcall s).left
  | true =>
      cases hstepped : call.stepped s with
      | none => exact (after_unstepped hcall hstepped).imp id Or.inl
      | some place =>
          obtain ⟨held, hheld⟩ := heldAt_of_stepped hstepped
          exact Or.inr (Or.inr ⟨place, held, rfl, hheld, after_stepped ok hstepped hheld⟩)

end Calls

end Api

end Tensora
