import Tensora.Api.CreationCalls
import Tensora.Api.OptimizerCalls
import Tensora.Api.Sample

/-! The optimizer of a module and the one over the list of the module's parameters: a
training loop goes through the same states with either. -/
namespace Tensora
open ProgramLogic

variable {F D : Type}

/-- Moments an optimizer makes the same use of: SGD has none for the second. -/
structure Moments.Like (kind : OptimizerKind) (m m' : Moments F) : Prop where
  step : m'.step = m.step
  first : m'.firstMoment = m.firstMoment
  second : kind ≠ .sgd → m'.secondMoment = m.secondMoment

theorem Moments.Like.setAt {kind : OptimizerKind} {m m' : Moments F} (hm : m.Like kind m') (i : Nat)
    {first first' : List F} {second second' : Option (List F)} (hfirst : first' = first)
    (hsecond : kind ≠ .sgd → second' = second) :
    (m.setAt i first second).Like kind (m'.setAt i first' second') where
  step := hm.step
  first := by
    simp only [Moments.setAt, hfirst, hm.first]
  second := by
    intro hk
    simp only [Moments.setAt, hsecond hk, hm.second hk]

namespace Training
variable [Scalar F] [Scalar D] [Precision F D] {kind : OptimizerKind} (hyper : Hyperparameters D)

theorem updatedArrays_like {m m' : Moments F} (hm : m.Like kind m') (values gradient : List F)
    (i : Nat) :
    (updatedArrays kind hyper m'.step values gradient (m'.firstMoment.getD i [])
        m'.secondMoment[i]?).1 =
      (updatedArrays kind hyper m.step values gradient (m.firstMoment.getD i [])
        m.secondMoment[i]?).1 ∧
    (updatedArrays kind hyper m'.step values gradient (m'.firstMoment.getD i [])
        m'.secondMoment[i]?).2.1 =
      (updatedArrays kind hyper m.step values gradient (m.firstMoment.getD i [])
        m.secondMoment[i]?).2.1 ∧
    (kind ≠ .sgd →
      (updatedArrays kind hyper m'.step values gradient (m'.firstMoment.getD i [])
          m'.secondMoment[i]?).2.2 =
        (updatedArrays kind hyper m.step values gradient (m.firstMoment.getD i [])
          m.secondMoment[i]?).2.2) := by
  rw [hm.step, hm.first]
  by_cases hk : kind = .sgd
  · subst hk
    exact ⟨rfl, rfl, fun hne => absurd rfl hne⟩
  · rw [hm.second hk]
    exact ⟨rfl, rfl, fun _ => rfl⟩

theorem stepParameter_like {h : Heap F} {m m' : Moments F} (hm : m.Like kind m')
    (entry : TensorId × Nat) :
    (stepParameter kind hyper (h, m') entry).1 = (stepParameter kind hyper (h, m) entry).1 ∧
      (stepParameter kind hyper (h, m) entry).2.Like kind
        (stepParameter kind hyper (h, m') entry).2 := by
  unfold stepParameter
  cases h.gradient entry.1 with
  | none => exact ⟨rfl, hm⟩
  | some g =>
      obtain ⟨hvalues, hfirst, hsecond⟩ :=
        updatedArrays_like hyper hm (h.contents entry.1) (h.contents g) entry.2
      exact ⟨by simp only [hvalues], hm.setAt entry.2 hfirst hsecond⟩

theorem stepAll_like (parameters : List TensorId) (h : Heap F) {m m' : Moments F}
    (hm : m.Like kind m') :
    (stepAll kind hyper parameters (h, m')).1 = (stepAll kind hyper parameters (h, m)).1 ∧
      (stepAll kind hyper parameters (h, m)).2.Like kind
        (stepAll kind hyper parameters (h, m')).2 := by
  have hfold : ∀ (entries : List (TensorId × Nat)) (h : Heap F) (m m' : Moments F),
      m.Like kind m' →
      (entries.foldl (stepParameter kind hyper) (h, m')).1 =
          (entries.foldl (stepParameter kind hyper) (h, m)).1 ∧
        (entries.foldl (stepParameter kind hyper) (h, m)).2.Like kind
          (entries.foldl (stepParameter kind hyper) (h, m')).2 := by
    intro entries
    induction entries with
    | nil => exact fun _ _ _ hm => ⟨rfl, hm⟩
    | cons entry entries ih =>
        intro h m m' hm
        obtain ⟨hheap, hlike⟩ := stepParameter_like hyper (h := h) hm entry
        have hrest := ih (stepParameter kind hyper (h, m) entry).1 _ _ hlike
        rw [List.foldl_cons, List.foldl_cons]
        rw [show stepParameter kind hyper (h, m') entry =
          ((stepParameter kind hyper (h, m) entry).1,
            (stepParameter kind hyper (h, m') entry).2) from Prod.ext hheap rfl]
        exact hrest
  exact hfold _ h _ _ ⟨by simp only [Moments.nextStep, hm.step], hm.first, hm.second⟩

end Training

namespace Api
open Training

/-- Two calls end alike: with one reply, or with one status code. -/
def SameOutcome (r r' : EStateM.Result Failure (Runtime F D) (Reply F)) : Prop :=
  match r, r' with
  | .ok reply _, .ok reply' _ => reply = reply'
  | .error e _, .error e' _ => e.code = e'.code
  | _, _ => False

/-- The call on the optimizer over tensors that is made in place of one on a module's. -/
def Call.overTensors : Call F D → Call F D
  | .optimizerZeroGrad optimizer => .parameterOptimizerZeroGrad optimizer
  | .optimizerStep optimizer => .parameterOptimizerStep optimizer
  | call => call

def Call.trains (handle : Nat) (call : Call F D) : Prop :=
  call.onOptimizer = false ∨ call = .optimizerZeroGrad handle ∨ call = .optimizerStep handle

/-- The same values, versions, gradients and graph, and two optimizers of one state: the
left one is bound to a module, the right one is over the module's parameters. -/
structure SameTraining (handle : Nat) (s t : Runtime F D) : Prop where
  heap : t.heap = s.heap
  optimizers : ∃ object optimizer module object' optimizer',
    s.optimizerAt handle = some (object, optimizer) ∧
    s.modules[optimizer.module]? = some module ∧
    t.parameterOptimizerAt handle = some (object', optimizer') ∧
    optimizer'.parameters = module.parameters ∧ optimizer'.kind = optimizer.kind ∧
    optimizer'.hyper = optimizer.hyper ∧
    optimizer.moments.Like optimizer.kind optimizer'.moments

structure Together (handle : Nat) (s t : Runtime F D) : Prop where
  ok : s.Ok ∧ t.Ok
  lasting : Lasting s ∧ Lasting t
  training : SameTraining handle s t
  registry : s.registry.Like t.registry
  modules : t.modules = s.modules
  rng : t.rng = s.rng
  files : t.files = s.files

section Together
variable {s t s' t' : Runtime F D} {handle : Nat}

theorem Lasting.matches (hs : Lasting s) (ht : Lasting t) :
    s.memory.allocator.Matches t.memory.allocator :=
  fun _ _ _ => (ht.next _).trans (hs.next _).symm

theorem Together.beside (h : Together handle s t) : Beside s t s t :=
  ⟨h.training.heap, h.lasting.1.matches h.lasting.2, h.registry, h.modules, h.rng, h.files, .refl s,
    ⟨rfl, rfl⟩, ⟨rfl, rfl⟩, .refl _, .refl _⟩

theorem Together.after_beside (h : Together handle s t) (hb : Beside s t s' t')
    (ok : s'.Ok ∧ t'.Ok) (hmem : Lasting s' ∧ Lasting t') : Together handle s' t' := by
  obtain ⟨object, optimizer, module, object', optimizer', ho, hm, ho', hp, hk, hh, hl⟩ :=
    h.training.optimizers
  obtain ⟨training, hm'⟩ := hb.keeping _ _ hm
  refine ⟨ok, hmem,
    ⟨hb.heap, object, optimizer, _, object', optimizer', ?_, hm', ?_, hp, hk, hh, hl⟩,
    hb.registry, hb.modules, hb.rng, hb.files⟩
  · exact optimizerAt_of_keeping ho hb.handles.1 hb.left.1
  · exact parameterOptimizerAt_of_keeping ho' hb.handles.2 hb.right.2

theorem SameOutcome.of_matched {R : Runtime F D → Runtime F D → Prop}
    {r r' : EStateM.Result Failure (Runtime F D) (Reply F)} (h : Matched R r r') :
    SameOutcome r r' := by
  cases r <;> cases r'
  · exact h.1
  · exact h.elim
  · exact h.elim
  · exact congrArg Failure.code h.1

variable [Scalar F] [Scalar D] [Precision F D] [FloatBits F]

theorem after_of_matched {R : Runtime F D → Runtime F D → Prop} {call call' : Call F D}
    (h : Matched R (exec call s) (exec call' t)) : R (after s call) (after t call') := by
  unfold after
  cases hs : exec call s <;> cases ht : exec call' t <;> rw [hs, ht] at h
  · exact h.2
  · exact h.elim
  · exact h.elim
  · exact h.2

theorem Together.of_matched (h : Together handle s t) {call call' : Call F D}
    (hm : Matched (Beside s t) (exec call s) (exec call' t)) :
    SameOutcome (exec call s) (exec call' t) ∧ Together handle (after s call) (after t call') :=
  ⟨.of_matched hm, h.after_beside (after_of_matched hm)
    ⟨(after_moves h.ok.1 call).1, (after_moves h.ok.2 call').1⟩
    ⟨h.lasting.1.run [call], h.lasting.2.run [call']⟩⟩

theorem together_other (h : Together handle s t) {call : Call F D}
    (hcall : call.onOptimizer = false) :
    SameOutcome (exec call s) (exec call.overTensors t) ∧
      Together handle (after s call) (after t call.overTensors) := by
  have hsame : call.overTensors = call := by
    cases call <;> first | rfl | cases hcall
  rw [hsame]
  exact h.of_matched (lockstep_exec hcall s t h.beside)

theorem together_zeroGrad (h : Together handle s t) :
    SameOutcome (exec (.optimizerZeroGrad handle) s) (exec (.parameterOptimizerZeroGrad handle) t) ∧
      Together handle (after s (.optimizerZeroGrad handle))
        (after t (.parameterOptimizerZeroGrad handle)) := by
  obtain ⟨object, optimizer, module, object', optimizer', ho, hm, ho', hp, -⟩ :=
    h.training.optimizers
  refine h.of_matched ?_
  rw [exec_optimizerZeroGrad h.lasting.1 ho hm, exec_parameterOptimizerZeroGrad ho', hp]
  -- the list of parameters takes the left run one allocation further
  refine lockstep_clearAll _ _ _ { h.beside with heap := h.training.heap, allocations := ?_ }
  exact fun _ k _ => (h.lasting.2.next k).trans
    (h.lasting.1 _ (by simp only [Allocator.after]; omega)).symm

theorem together_step (h : Together handle s t) :
    SameOutcome (exec (.optimizerStep handle) s) (exec (.parameterOptimizerStep handle) t) ∧
      Together handle (after s (.optimizerStep handle))
        (after t (.parameterOptimizerStep handle)) := by
  obtain ⟨object, optimizer, module, object', optimizer', ho, hm, ho', hp, hk, hh, hl⟩ :=
    h.training.optimizers
  have hleft := exec_optimizerStep h.ok.1 (h.lasting.1.next 0) ho hm
  have hright := exec_parameterOptimizerStep h.ok.2 ho' fun i _ => h.lasting.2.next i
  have hok := And.intro (after_moves h.ok.1 (.optimizerStep handle)).1
    (after_moves h.ok.2 (.parameterOptimizerStep handle)).1
  have hmem := And.intro (h.lasting.1.run [.optimizerStep handle])
    (h.lasting.2.run [.parameterOptimizerStep handle])
  rw [hp, hk, hh, h.training.heap] at hright
  obtain ⟨hheap, hlike⟩ := stepAll_like optimizer.hyper module.parameters s.heap hl
  refine ⟨by rw [hleft, hright]; rfl, ?_⟩
  change (after s (.optimizerStep handle)).Ok ∧ (after t (.parameterOptimizerStep handle)).Ok at hok
  change Lasting (after s (.optimizerStep handle)) ∧
    Lasting (after t (.parameterOptimizerStep handle)) at hmem
  rw [after_of_ok hleft, after_of_ok hright] at hok hmem ⊢
  exact ⟨hok, hmem, ⟨hheap, object, _, module, object', _, optimizerAt_withMoments ho _ _, hm,
    parameterOptimizerAt_withMoments ho' _ _, hp, hk, hh, hlike⟩, h.registry, h.modules, h.rng,
    h.files⟩

theorem together_call (h : Together handle s t) {call : Call F D} (hcall : call.trains handle) :
    SameOutcome (exec call s) (exec call.overTensors t) ∧
      Together handle (after s call) (after t call.overTensors) := by
  rcases hcall with hother | rfl | rfl
  · exact together_other h hother
  · exact together_zeroGrad h
  · exact together_step h

theorem together_run (h : Together handle s t) {calls : List (Call F D)}
    (hcalls : ∀ call ∈ calls, call.trains handle) :
    Together handle (run s calls) (run t (calls.map Call.overTensors)) := by
  induction calls generalizing s t with
  | nil => exact h
  | cons call calls ih =>
      exact ih (together_call h (hcalls call List.mem_cons_self)).2
        fun call' hmem => hcalls call' (List.mem_cons_of_mem _ hmem)

end Together

section Creation
variable {s : Runtime F D} {kind : OptimizerKind} {hyper : Hyperparameters D}

theorem trainable_parameters (ok : s.Ok) {module object : Nat} {state : LinearState}
    (hm : s.moduleAt module = some (object, state)) {handles : List Nat}
    (hresolved : List.Forall₂ (fun handle id => s.objectOf handle .tensor = some id) handles
      state.parameters)
    (hgraded : ∀ id ∈ state.parameters, s.heap.requiresGrad id = true) :
    Trainable s handles state.parameters where
  resolved := hresolved
  distinct := by
    have hstate := ok.modules state (List.mem_of_getElem? (Runtime.get_moduleAt hm))
    unfold LinearState.parameters
    split
    · cases hb : state.bias with
      | none => simp
      | some b =>
          obtain ⟨t, ht⟩ := hstate.weight_visible.get
          have hne : state.weight ≠ b := by
            rintro rfl
            exact hstate.separate _ t t hb ht ht rfl
          simpa using hne
    · simp
  graded := ⟨state.weight, by unfold LinearState.parameters; split <;> simp,
    hgraded _ (by unfold LinearState.parameters; split <;> simp)⟩

variable [Scalar F] [Scalar D]

/-- Hyperparameters that are not accepted are what is rejected first. -/
theorem createOptimizer_rejects (haccept : accepts kind hyper = false) (module : Nat) :
    wp (createOptimizer module kind hyper) (fun _ _ => False)
      (fun e _ => e.code = some .invalidArgument) s := by
  unfold createOptimizer
  refine wp_seq (checks_hyperparameters kind hyper s) (fun _ _ he => he.2.1) ?_
  rintro _ _ ⟨-, htrue⟩
  rw [haccept] at htrue
  cases htrue

theorem createForTensors_rejects (haccept : accepts kind hyper = false)
    (handles : Option (List Nat)) :
    wp (createForTensors handles kind hyper) (fun _ _ => False)
      (fun e _ => e.code = some .invalidArgument) s := by
  unfold createForTensors
  refine wp_seq (checks_tensorHyperparameters kind hyper s) (fun _ _ he => he.2.1) ?_
  rintro _ _ ⟨-, htrue⟩
  rw [haccept] at htrue
  cases htrue

variable [Precision F D] [FloatBits F]

structure Entered (s : Runtime F D) (type : HandleType) (object handle : Nat) (s' : Runtime F D) :
    Prop where
  issued : s.registry.refuses = none
  handle_eq : handle = s.registry.nextHandle
  found : s'.objectOf handle type = some object
  heap : s'.heap = s.heap
  registry : s'.registry = s.registry.withEntry type object
  modules : s'.modules = s.modules
  rng : s'.rng = s.rng
  files : s'.files = s.files

theorem wp_optimizerCreate (kind : OptimizerKind) (hyper : Hyperparameters D) (ok : s.Ok)
    (hmem : Lasting s) (haccept : accepts kind hyper = true)
    {module object : Nat} {state : LinearState} (hm : s.moduleAt module = some (object, state)) :
    wp (exec (.optimizerCreate module kind hyper))
      (fun reply s' => ∃ handle, reply = .handle handle ∧
        Entered s .optimizer s.optimizers.length handle s' ∧
        s'.optimizers = s.optimizers ++ [newOptimizer s.heap kind object state hyper])
      (fun e _ => s.registry.refuses = some e) s := by
  refine wp_seq (wp_createOptimizer ok module kind hyper) ?_ ?_
  · rintro e _ ⟨-, hlost | ⟨hreject, -⟩ | hnone | hrefused⟩
    · exact absurd hmem hlost
    · rw [haccept] at hreject
      cases hreject
    · rw [hm] at hnone
      cases hnone
    · exact hrefused
  · rintro handle s' ⟨-, object', state', s₁, hm', ⟨n, rfl⟩, hregistered⟩
    have hfound := hregistered.objectOf
    obtain ⟨hnone, rfl, s₂, ⟨k, rfl⟩, rfl⟩ := hregistered
    cases hm.symm.trans hm'
    exact ⟨_, rfl, ⟨hnone, rfl, hfound, rfl, rfl, rfl, rfl, rfl⟩, rfl⟩

theorem wp_parameterOptimizerCreate (kind : OptimizerKind) (hyper : Hyperparameters D) (ok : s.Ok)
    (hmem : Lasting s)
    (haccept : accepts kind hyper = true) {handles : List Nat} {ids : List TensorId}
    (htrain : Trainable s handles ids) (hu : Updatable s.heap (ids.filter s.heap.requiresGrad)) :
    wp (exec (.createForTensors (some handles) kind hyper))
      (fun reply s' => ∃ handle, reply = .handle handle ∧
        Entered s .parameterOptimizer s.parameterOptimizers.length handle s' ∧
        s'.parameterOptimizers =
          s.parameterOptimizers ++
            [newParameterOptimizer s.heap kind (ids.filter s.heap.requiresGrad) hyper])
      (fun e _ => s.registry.refuses = some e) s := by
  refine wp_seq (wp_createForTensors ok (some handles) kind hyper) ?_ ?_
  · rintro e _ ⟨-, hlost | ⟨hreject, -⟩ | hbad | hrefused⟩
    · exact absurd hmem hlost
    · rw [haccept] at hreject
      cases hreject
    · exact absurd hu (hbad handles ids rfl htrain)
    · exact hrefused
  · rintro handle s' ⟨-, parameters, s₁, ⟨handles', ids', hsome, hkept⟩, -, ⟨n, rfl⟩, hregistered⟩
    cases hsome
    have hfound := hregistered.objectOf
    obtain ⟨hnone, rfl, s₂, ⟨k, rfl⟩, rfl⟩ := hregistered
    obtain rfl := hkept.trainable htrain
    exact ⟨_, rfl, ⟨hnone, rfl, hfound, rfl, rfl, rfl, rfl, rfl⟩, rfl⟩

omit [Scalar D] [Precision F D] [FloatBits F] in
theorem together_entered {handle object : Nat} {state : LinearState} {s₁ s₂ : Runtime F D}
    (ok : s₁.Ok ∧ s₂.Ok) (hmem : Lasting s₁ ∧ Lasting s₂)
    (hget : s.modules[object]? = some state)
    (hleft : Entered s .optimizer s.optimizers.length handle s₁)
    (hnew : s₁.optimizers = s.optimizers ++ [newOptimizer s.heap kind object state hyper])
    (hright : Entered s .parameterOptimizer s.parameterOptimizers.length handle s₂)
    (hnew' : s₂.parameterOptimizers =
      s.parameterOptimizers ++ [newParameterOptimizer s.heap kind state.parameters hyper]) :
    Together handle s₁ s₂ where
  ok := ok
  lasting := hmem
  training := by
    refine ⟨hright.heap.trans hleft.heap.symm, s.optimizers.length,
      newOptimizer s.heap kind object state hyper, state, s.parameterOptimizers.length,
      newParameterOptimizer s.heap kind state.parameters hyper, ?_, ?_, ?_, rfl, rfl, rfl, ?_⟩
    · rw [Runtime.optimizerAt, hleft.found, hnew]
      simp
    · rw [hleft.modules]
      exact hget
    · rw [Runtime.parameterOptimizerAt, hright.found, hnew']
      simp
    · exact ⟨rfl, rfl, fun hk => (if_neg hk).symm⟩
  registry := by
    rw [hleft.registry, hright.registry]
    exact ⟨.cons ⟨rfl, Or.inr ⟨rfl, rfl, rfl⟩⟩ (HandleRegistry.Like.refl s.registry).entries, rfl⟩
  modules := hright.modules.trans hleft.modules.symm
  rng := hright.rng.trans hleft.rng.symm
  files := hright.files.trans hleft.files.symm

/-- The two creations end alike, and start the two runs together. -/
theorem together_created (ok : s.Ok) (hmem : Lasting s) {module object : Nat} {state : LinearState}
    {handles : List Nat} (hm : s.moduleAt module = some (object, state))
    (htrain : Trainable s handles state.parameters)
    (hgraded : state.parameters.filter s.heap.requiresGrad = state.parameters) :
    SameOutcome (exec (.optimizerCreate module kind hyper) s)
        (exec (.createForTensors (some handles) kind hyper) s) ∧
      ∀ handle s₁ s₂, exec (.optimizerCreate module kind hyper) s = .ok (.handle handle) s₁ →
        exec (.createForTensors (some handles) kind hyper) s = .ok (.handle handle) s₂ →
        Together handle s₁ s₂ := by
  have hu := (ok.modules state (List.mem_of_getElem? (Runtime.get_moduleAt hm))).updatable
  cases haccept : accepts kind hyper with
  | false =>
      -- both stop at the first hyperparameter they do not take
      have hfirst : wp (exec (.optimizerCreate module kind hyper)) (fun _ _ => False)
          (fun e _ => e.code = some .invalidArgument) s :=
        wp_seq (createOptimizer_rejects haccept module) (fun _ _ he => he) fun _ _ hq => hq.elim
      have hsecond : wp (exec (.createForTensors (some handles) kind hyper)) (fun _ _ => False)
          (fun e _ => e.code = some .invalidArgument) s :=
        wp_seq (createForTensors_rejects haccept (some handles)) (fun _ _ he => he)
          fun _ _ hq => hq.elim
      obtain ⟨e, s₁, hleft, hcode⟩ := error_of_wp hfirst
      obtain ⟨e', s₂, hright, hcode'⟩ := error_of_wp hsecond
      rw [hleft, hright]
      exact ⟨hcode.trans hcode'.symm, fun handle _ _ h => by cases h⟩
  | true =>
      have hleft := wp_optimizerCreate kind hyper ok hmem haccept hm
      have hright := wp_parameterOptimizerCreate kind hyper ok hmem haccept htrain
        (hgraded.symm ▸ hu)
      rw [hgraded] at hright
      have hok := And.intro (after_moves ok (.optimizerCreate module kind hyper)).1
        (after_moves ok (.createForTensors (some handles) kind hyper)).1
      have hlasting := And.intro (hmem.run [.optimizerCreate module kind hyper])
        (hmem.run [.createForTensors (some handles) kind hyper])
      change (after s _).Ok ∧ (after s _).Ok at hok
      change Lasting (after s _) ∧ Lasting (after s _) at hlasting
      unfold wp at hleft hright
      cases hl : exec (.optimizerCreate module kind hyper) s with
      | ok reply s₁ =>
          rw [hl] at hleft
          obtain ⟨handle, rfl, hentered, hnew⟩ := hleft
          cases hr : exec (.createForTensors (some handles) kind hyper) s with
          | ok reply' s₂ =>
              rw [hr] at hright
              obtain ⟨handle', rfl, hentered', hnew'⟩ := hright
              obtain rfl := hentered.handle_eq.trans hentered'.handle_eq.symm
              rw [after_of_ok hl, after_of_ok hr] at hok hlasting
              refine ⟨rfl, ?_⟩
              rintro _ _ _ ⟨⟩ ⟨⟩
              exact together_entered hok hlasting (Runtime.get_moduleAt hm) hentered hnew hentered'
                hnew'
          | error e' s₂ =>
              rw [hr] at hright
              rw [hentered.issued] at hright
              cases hright
      | error e s₁ =>
          rw [hl] at hleft
          refine ⟨?_, fun _ _ _ h => by cases h⟩
          cases hr : exec (.createForTensors (some handles) kind hyper) s with
          | ok reply' s₂ =>
              rw [hr] at hright
              obtain ⟨handle', -, hentered', -⟩ := hright
              rw [hentered'.issued] at hleft
              cases hleft
          | error e' s₂ =>
              rw [hr] at hright
              exact congrArg Failure.code (Option.some.inj (hleft.symm.trans hright))

end Creation

/-- A training loop run with the optimizer of a module and one run with the optimizer over
the module's parameters end every call alike and keep everything they compute equal. -/
theorem optimizers_agree [Scalar F] [Scalar D] [Precision F D] [FloatBits F] {s : Runtime F D}
    (hs : Reachable s) (hmem : Lasting s) {module object : Nat} {state : LinearState}
    {handles : List Nat} (hm : s.moduleAt module = some (object, state))
    (hresolved : List.Forall₂ (fun handle id => s.objectOf handle .tensor = some id) handles
      state.parameters)
    (hgraded : ∀ id ∈ state.parameters, s.heap.requiresGrad id = true) (kind : OptimizerKind)
    (hyper : Hyperparameters D) :
    SameOutcome (exec (.optimizerCreate module kind hyper) s)
        (exec (.createForTensors (some handles) kind hyper) s) ∧
      ∀ handle s₁ s₂, exec (.optimizerCreate module kind hyper) s = .ok (.handle handle) s₁ →
        exec (.createForTensors (some handles) kind hyper) s = .ok (.handle handle) s₂ →
        ∀ calls, (∀ call ∈ calls, call.trains handle) →
          SameTraining handle (run s₁ calls) (run s₂ (calls.map Call.overTensors)) ∧
          ∀ call, call.trains handle → SameOutcome (exec call (run s₁ calls))
            (exec call.overTensors (run s₂ (calls.map Call.overTensors))) := by
  have ok := hs.ok
  obtain ⟨hcreate, htogether⟩ :=
    together_created ok hmem hm (trainable_parameters ok hm hresolved hgraded)
      (List.filter_eq_self.mpr hgraded)
  refine ⟨hcreate, fun handle s₁ s₂ hleft hright calls hcalls => ?_⟩
  have h := together_run (htogether handle s₁ s₂ hleft hright) hcalls
  exact ⟨h.training, fun call hcall => (together_call h hcall).1⟩

def layerCalls : List (Call Word Word) :=
  [.linearCreate 2 1 true, .moduleParameterAt 1 0, .moduleParameterAt 1 1]

def unitRate : Hyperparameters Word := ⟨1, 0, 0, 0, 0, 0⟩

def passCalls : List (Call Word Word) :=
  [.tensorFromF32 [1, 2] [1, 2], .moduleForward 1 5, .tensorSum 6, .tensorBackward 7]

def boundCalls : List (Call Word Word) :=
  layerCalls ++ [.optimizerCreate 1 .sgd unitRate] ++ passCalls

def freeCalls : List (Call Word Word) :=
  layerCalls ++ [.createForTensors (some [2, 3]) .sgd unitRate] ++ passCalls

def refusedRun (calls : List (Call Word Word)) : Runtime Word Word :=
  run (Runtime.initial (fun k => k == (sampleRun freeCalls).memory.allocator.count + 1) emptyDisk)
    calls

/-- Accepted hyperparameters of Adam, which keep no moments from one step to the next. -/
def unitEpsilon : Hyperparameters Word := ⟨10, 0, 0, 0, 1, 0⟩

def boundRun : Runtime Word Word :=
  after (sampleRun layerCalls) (.optimizerCreate 1 .adam unitEpsilon)

def freeRun : Runtime Word Word :=
  after (sampleRun layerCalls) (.createForTensors (some [2, 3]) .adam unitEpsilon)

def stepCalls : List (Call Word Word) := passCalls ++ [.optimizerStep 4]

/-- Both creations return the handle 4; a pass and a step move the weights of both alike, and
both clear their gradients with one outcome. -/
theorem optimizers_agree_layer :
    (SameOutcome (exec (.optimizerCreate 1 .adam unitEpsilon) (sampleRun layerCalls))
        (exec (.createForTensors (some [2, 3]) .adam unitEpsilon) (sampleRun layerCalls)) ∧
      SameTraining 4 (run boundRun stepCalls) (run freeRun (stepCalls.map Call.overTensors)) ∧
      SameOutcome (exec (.optimizerZeroGrad 4) (run boundRun stepCalls))
        (exec (.parameterOptimizerZeroGrad 4) (run freeRun (stepCalls.map Call.overTensors)))) ∧
      returns (run boundRun passCalls) (.optimizerStep 4) = true ∧
      boundRun.heap.contents 0 = [0, 0] ∧ (run boundRun stepCalls).heap.contents 0 = [-5, -4] := by
  have hm : (sampleRun layerCalls).moduleAt 1 = some (0, ⟨2, 1, true, true, 0, some 1⟩) := by
    decide +kernel
  have hresolved : List.Forall₂ (fun handle id =>
      (sampleRun layerCalls).objectOf handle .tensor = some id) [2, 3] [0, 1] :=
    .cons (by decide +kernel) (.cons (by decide +kernel) .nil)
  have hgraded : ∀ id ∈ [0, 1], (sampleRun layerCalls).heap.requiresGrad id = true := by
    decide +kernel
  have hbound : exec (.optimizerCreate 1 .adam unitEpsilon) (sampleRun layerCalls) =
      .ok (.handle 4) boundRun := ok_of_replyOf (by decide +kernel)
  have hfree : exec (.createForTensors (some [2, 3]) .adam unitEpsilon) (sampleRun layerCalls) =
      .ok (.handle 4) freeRun := ok_of_replyOf (by decide +kernel)
  have hmoved : returns (run boundRun passCalls) (.optimizerStep 4) = true ∧
      boundRun.heap.contents 0 = [0, 0] ∧
      (run boundRun stepCalls).heap.contents 0 = [-5, -4] := by
    decide +kernel
  have htrains : ∀ call ∈ stepCalls, call.trains 4 := by
    intro call hcall
    simp only [stepCalls, passCalls, List.cons_append, List.nil_append, List.mem_cons,
      List.not_mem_nil, or_false] at hcall
    rcases hcall with rfl | rfl | rfl | rfl | rfl
    · exact .inl rfl
    · exact .inl rfl
    · exact .inl rfl
    · exact .inl rfl
    · exact .inr (.inr rfl)
  have hs : Reachable (sampleRun layerCalls) := ⟨_, _, _, rfl⟩
  have hmem := lasting_sampleRun layerCalls
  -- the states stay names from here on, not runs to evaluate
  generalize sampleRun layerCalls = s, boundRun = s₁, freeRun = s₂ at *
  obtain ⟨hcreate, htogether⟩ := optimizers_agree hs hmem hm hresolved hgraded .adam unitEpsilon
  obtain ⟨htraining, houtcome⟩ := htogether 4 s₁ s₂ hbound hfree stepCalls htrains
  exact ⟨⟨hcreate, htraining, houtcome (.optimizerZeroGrad 4) (.inr (.inl rfl))⟩, hmoved⟩

/-- Under SGD one optimizer holds no second moments and the other holds zeros; and when
memory runs out only the one that copies its gradients fails. -/
theorem optimizers_differ :
    ((after (sampleRun layerCalls) (.optimizerCreate 1 .sgd unitRate)).optimizerAt 4).map
        (fun r => r.2.moments.secondMoment) = some [] ∧
      ((after (sampleRun layerCalls) (.createForTensors (some [2, 3]) .sgd unitRate)
        ).parameterOptimizerAt 4).map (fun r => r.2.moments.secondMoment) = some [[0, 0], [0]] ∧
      returns (refusedRun boundCalls) (.optimizerStep 4) = true ∧
      returns (refusedRun freeCalls) (.parameterOptimizerStep 4) = false := by
  decide +kernel

end Api

end Tensora
