import Tensora.Api.Invariant

/-! A whole optimizer step, as a fold over the parameters on the heap and the moments
alone. Both optimizers run it; only the one over tensors can stop in the middle. -/
namespace Tensora
open CheckedLoop ProgramLogic

variable {F D : Type}

def Heap.within (h : Heap F) (ids : List TensorId) (storage : StorageId) : Prop :=
  ∃ id ∈ ids, h.storageOf id = some storage

def Heap.graded (h : Heap F) (id : TensorId) : Bool := (h.gradient id).isSome

namespace Training
variable [Scalar F] [Scalar D] [Precision F D]

/-- One parameter of a step: skipped without a gradient, updated with one. -/
def stepParameter (kind : OptimizerKind) (hyper : Hyperparameters D) (state : Heap F × Moments F)
    (entry : TensorId × Nat) : Heap F × Moments F :=
  match state.1.gradient entry.1 with
  | none => state
  | some g =>
      let arrays := updatedArrays kind hyper state.2.step (state.1.contents entry.1)
        (state.1.contents g) (state.2.firstMoment.getD entry.2 []) state.2.secondMoment[entry.2]?
      (state.1.updated entry.1 arrays.1, state.2.setAt entry.2 arrays.2.1 arrays.2.2)

def stepAll (kind : OptimizerKind) (hyper : Hyperparameters D) (parameters : List TensorId)
    (state : Heap F × Moments F) : Heap F × Moments F :=
  parameters.zipIdx.foldl (stepParameter kind hyper) (state.1, state.2.nextStep)

structure Stepping (h : Heap F) (kind : OptimizerKind) (parameters : List TensorId)
    (state : Heap F × Moments F) : Prop where
  touches : Touches (h.within parameters) h state.1
  fits : state.2.Fits state.1 kind parameters
  gradients : ∀ id, state.1.gradient id = h.gradient id

variable {h : Heap F} {kind : OptimizerKind} {hyper : Hyperparameters D}
  {parameters : List TensorId} {state : Heap F × Moments F}

omit [Scalar F] [Scalar D] [Precision F D] in
theorem buffers_of_fits {h : Heap F} {moments : Moments F} {p : TensorId} {i : Nat}
    (m : moments.Fits h kind parameters) (hp : parameters[i]? = some p) :
    ∃ first, moments.firstMoment[i]? = some first ∧
      Buffers kind (h.dims p).prod first moments.secondMoment[i]? := by
  have hget : ∀ buffers : List (List F), Sized h parameters buffers →
      ∃ buffer, buffers[i]? = some buffer ∧ buffer.length = (h.dims p).prod := by
    intro buffers hsized
    obtain ⟨hlen, hall⟩ := List.forall₂_iff_get.mp hsized
    obtain ⟨hi, hpi⟩ := List.getElem?_eq_some_iff.mp hp
    have hi' : i < buffers.length := hlen ▸ hi
    refine ⟨buffers[i], List.getElem?_eq_getElem hi', ?_⟩
    rw [← hpi]
    exact hall i hi hi'
  obtain ⟨first, hfirst, hlen⟩ := hget _ m.first
  exact ⟨first, hfirst, hlen, fun hk => hget _ (m.second hk)⟩

omit [Scalar F] [Scalar D] [Precision F D] in
theorem sized_set {h : Heap F} {buffers : List (List F)} {i : Nat} {buffer : List F} {p : TensorId}
    (z : Sized h parameters buffers) (hp : parameters[i]? = some p)
    (hlen : buffer.length = (h.dims p).prod) : Sized h parameters (buffers.set i buffer) := by
  obtain ⟨hl, hall⟩ := List.forall₂_iff_get.mp z
  refine List.forall₂_iff_get.mpr ⟨by rw [List.length_set, hl], fun j hj hj' => ?_⟩
  rw [List.get_eq_getElem, List.get_eq_getElem, List.getElem_set]
  split
  · rename_i heq
    subst heq
    rw [hlen, ← (List.getElem?_eq_some_iff.mp hp).2]
  · exact hall j hj (by rwa [List.length_set] at hj')

omit [Scalar F] [Scalar D] [Precision F D] in
theorem Stepping.start {moments : Moments F} (wf : WellFormed h)
    (m : moments.Fits h kind parameters) :
    Stepping h kind parameters (h, moments.nextStep) where
  touches := Touches.refl _ wf
  fits := ⟨m.first, m.second⟩
  gradients := fun _ => rfl

omit [Scalar F] [Scalar D] [Precision F D] in
theorem fits_setAt {h : Heap F} {moments : Moments F} {i : Nat} {p : TensorId}
    {first : List F} {second : Option (List F)} (m : moments.Fits h kind parameters)
    (hp : parameters[i]? = some p) (hb : Buffers kind (h.dims p).prod first second) :
    (moments.setAt i first second).Fits h kind parameters where
  first := sized_set m.first hp hb.first
  second := by
    intro hk
    obtain ⟨xs, rfl, hlen⟩ := hb.second hk
    exact sized_set (m.second hk) hp hlen

theorem Stepping.next (g : Stepping h kind parameters state) (u : Updatable h parameters)
    {entry : TensorId × Nat} (hp : parameters[entry.2]? = some entry.1) :
    Stepping h kind parameters (stepParameter kind hyper state entry) := by
  obtain ⟨h', moments⟩ := state
  obtain ⟨p, i⟩ := entry
  have e := g.touches.unrecorded.evolves
  simp only at hp e
  have hid := (u p (List.mem_of_getElem? hp)).1
  have hv := e.visible p hid
  have hlen := hv.length e.wellFormed
  unfold stepParameter
  cases hg : h'.gradient p with
  | none =>
      exact g
  | some grad =>
      have hb := buffers_updated kind hyper moments.step (h'.contents p) (h'.contents grad)
        (moments.firstMoment.getD i []) moments.secondMoment[i]?
      have ht : Touches (h.within parameters) h'
        (h'.updated p (updatedArrays kind hyper moments.step
          (h'.contents p) (h'.contents grad) (moments.firstMoment.getD i [])
          moments.secondMoment[i]?).1) := by
        refine Touches.updated e.wellFormed hv.1 (length_updatedArrays.trans hlen) fun s hs => ?_
        exact ⟨p, List.mem_of_getElem? hp, by rw [← e.storageOf hid.1, hs]⟩
      have e' := ht.unrecorded.evolves
      rw [hlen, ← e'.dims_eq hv.1] at hb
      refine ⟨g.touches.trans ht, fits_setAt (g.fits.evolve (u.evolve e) e') hp hb, fun id => ?_⟩
      exact (Heap.gradient_updated p _ id).trans (g.gradients id)

theorem stepParameter_of {entry : TensorId × Nat} {moments : Moments F} {first : List F}
    (hfirst : moments.firstMoment[entry.2]? = some first) {r : Option (List F × Option (List F))}
    {h' : Heap F}
    (hr : Updates kind hyper moments.step h entry.1 first moments.secondMoment[entry.2]? r h') :
    stepParameter kind hyper (h, moments) entry = (h', match r with
      | none => moments
      | some (first, second) => moments.setAt entry.2 first second) := by
  unfold Updates at hr
  unfold stepParameter
  cases hg : h.gradient entry.1 with
  | none =>
      rw [hg] at hr
      obtain ⟨rfl, rfl⟩ := hr
      rfl
  | some g =>
      rw [hg] at hr
      obtain ⟨rfl, rfl⟩ := hr
      simp only [List.getD_eq_getElem?_getD, hfirst, Option.getD_some]

theorem step_stepParameter (state : Heap F × Moments F) (entry : TensorId × Nat) :
    (stepParameter kind hyper state entry).2.step = state.2.step := by
  unfold stepParameter
  split <;> rfl

theorem step_foldl (entries : List (TensorId × Nat)) (state : Heap F × Moments F) :
    (entries.foldl (stepParameter kind hyper) state).2.step = state.2.step := by
  induction entries generalizing state with
  | nil => rfl
  | cons entry entries ih => rw [List.foldl_cons, ih, step_stepParameter]

def gradedCount (h : Heap F) (entries : List (TensorId × Nat)) : Nat :=
  entries.countP fun entry => h.graded entry.1

omit [Scalar F] [Scalar D] [Precision F D] in
theorem gradedCount_lt (h : Heap F) {entries done rest : List (TensorId × Nat)}
    {entry : TensorId × Nat} (hsplit : entries = done ++ entry :: rest)
    (hgraded : h.graded entry.1 = true) : gradedCount h done < gradedCount h entries := by
  rw [hsplit, gradedCount, gradedCount, List.countP_append, List.countP_cons, if_pos hgraded]
  omega

/-- What one turn of a step's loop does, in a state given by the heap, the moments and
the allocator. -/
def Turns (at' : Heap F × Moments F → Allocator → Runtime F D) (h : Heap F) (kind : OptimizerKind)
    (hyper : Hyperparameters D) (parameters : List TensorId) (cost : Nat)
    (body : TensorId × Nat → Native F D Unit) : Prop :=
  ∀ (entry : TensorId × Nat) (state : Heap F × Moments F) (a : Allocator),
    parameters[entry.2]? = some entry.1 → Stepping h kind parameters state →
    wp (body entry)
      (fun _ s' => (h.graded entry.1 = true → 0 < cost → a.fails a.count = false) ∧
        s' = at' (stepParameter kind hyper state entry)
          (if h.graded entry.1 then a.after cost else a))
      (fun e s' => h.graded entry.1 = true ∧ 0 < cost ∧ a.fails a.count = true ∧ e.IsResource ∧
        s' = at' state (a.after cost)) (at' state a)

theorem wp_stepLoop {at' : Heap F × Moments F → Allocator → Runtime F D} {cost : Nat}
    {body : TensorId × Nat → Native F D Unit} (hcost : cost ≤ 1) (u : Updatable h parameters)
    (hbody : Turns at' h kind hyper parameters cost body) (g : Stepping h kind parameters state)
    (a : Allocator) :
    wp (parameters.zipIdx.forM body)
      (fun _ s' => Stepping h kind parameters
        (parameters.zipIdx.foldl (stepParameter kind hyper) state) ∧
        s' = at' (parameters.zipIdx.foldl (stepParameter kind hyper) state)
          (a.after (cost * gradedCount h parameters.zipIdx)) ∧
        ∀ k < cost * gradedCount h parameters.zipIdx, a.fails (a.count + k) = false)
      (fun e s' => 0 < cost ∧ e.IsResource ∧ ∃ done entry rest,
        parameters.zipIdx = done ++ entry :: rest ∧ h.graded entry.1 = true ∧
        a.fails (a.count + gradedCount h done) = true ∧
        Stepping h kind parameters (done.foldl (stepParameter kind hyper) state) ∧
        s' = at' (done.foldl (stepParameter kind hyper) state) (a.after (gradedCount h done + 1)))
      (at' state a) := by
  refine wp_forM (fun done _ s' =>
    Stepping h kind parameters (done.foldl (stepParameter kind hyper) state) ∧
      s' = at' (done.foldl (stepParameter kind hyper) state) (a.after (cost * gradedCount h done)) ∧
      ∀ k < cost * gradedCount h done, a.fails (a.count + k) = false) _ ⟨g, rfl, ?_⟩ ?_ ?_
  · intro k hk
    simp [gradedCount] at hk
  · rintro done entry rest _ hsplit ⟨hg, rfl, hok⟩
    have hentry : parameters[entry.2]? = some entry.1 := by
      have hmem : entry ∈ parameters.zipIdx := by rw [hsplit]; simp
      exact List.mem_zipIdx_iff_getElem?.mp hmem
    refine wp_mono (hbody entry _ _ hentry hg) ?_ ?_
    · rintro _ _ ⟨hfails, rfl⟩
      rw [List.foldl_append]
      refine ⟨hg.next u hentry, ?_, ?_⟩
      · congr 1
        by_cases hgr : h.graded entry.1 = true
        · rw [if_pos hgr, Allocator.after_after]
          simp [gradedCount, hgr, Nat.mul_add]
        · rw [if_neg hgr]
          simp [gradedCount, hgr]
      · intro k hk
        by_cases hgr : h.graded entry.1 = true
        · simp only [gradedCount, List.countP_append, List.countP_singleton, hgr, if_true,
            Nat.mul_add, Nat.mul_one] at hk
          rcases Nat.lt_or_ge k (cost * gradedCount h done) with hlt | hge
          · exact hok k hlt
          · have hpos : 0 < cost := by
              simp only [gradedCount] at hge
              omega
            have hkeq : k = cost * gradedCount h done := by
              simp only [gradedCount] at hge ⊢
              omega
            rw [hkeq]
            exact hfails hgr hpos
        · simp only [gradedCount, List.countP_append, List.countP_singleton, hgr] at hk
          exact hok k (by simpa [gradedCount] using hk)
    · rintro e _ ⟨hgr, hpos, hfails, hres, rfl⟩
      have hone : cost = 1 := by omega
      subst hone
      refine ⟨Nat.one_pos, hres, done, entry, rest, hsplit, hgr, ?_, hg, ?_⟩
      · simpa only [Nat.one_mul, Allocator.after] using hfails
      · rw [Allocator.after_after, Nat.one_mul]
  · rintro _ ⟨hg, rfl, hok⟩
    exact ⟨hg, rfl, hok⟩

end Training

def Runtime.withMoments (s : Runtime F D) (object : Nat) (state : Heap F × Moments F)
    (a : Allocator) : Runtime F D :=
  { s with
    memory := ⟨state.1, a⟩
    optimizers := s.optimizers.modify object fun optimizer =>
      { optimizer with moments := state.2 } }

def Runtime.withParameterMoments (s : Runtime F D) (object : Nat) (state : Heap F × Moments F)
    (a : Allocator) : Runtime F D :=
  { s with
    memory := ⟨state.1, a⟩
    parameterOptimizers := s.parameterOptimizers.modify object fun optimizer =>
      { optimizer with moments := state.2 } }

namespace Training
variable [Scalar F] [Scalar D] [Precision F D] {s : Runtime F D} {object : Nat}

private theorem modify_self {α : Type} {xs : List α} {i : Nat} {x : α} {f : α → α}
    (hx : xs[i]? = some x) (hf : f x = x) : xs.modify i f = xs := by
  apply List.ext_getElem?
  intro j
  rw [List.getElem?_modify]
  by_cases hj : i = j
  · subst hj
    simp [hx, hf]
  · simp [hj]

section Tensors
variable {optimizer : ParameterOptimizerState F D}

omit [Scalar F] [Scalar D] [Precision F D] in
theorem withParameterMoments_self (ho : s.parameterOptimizers[object]? = some optimizer) :
    s.withParameterMoments object (s.heap, optimizer.moments) s.memory.allocator = s := by
  have hself : (s.parameterOptimizers.modify object fun state =>
      { state with moments := optimizer.moments }) = s.parameterOptimizers := modify_self ho rfl
  simp only [Runtime.withParameterMoments, hself]
  rfl

omit [Scalar F] [Scalar D] [Precision F D] in
theorem wp_getParameterOptimizer (ho : s.parameterOptimizers[object]? = some optimizer)
    (state : Heap F × Moments F) (a : Allocator) :
    wp (getParameterOptimizer object)
      (fun r s' => r = { optimizer with moments := state.2 } ∧
        s' = s.withParameterMoments object state a) (fun _ _ => False)
      (s.withParameterMoments object state a) := by
  have hget : (s.withParameterMoments object state a).parameterOptimizers[object]? =
      some { optimizer with moments := state.2 } := by
    simp [Runtime.withParameterMoments, ho]
  unfold getParameterOptimizer
  rw [wp_bind, wp_get]
  simp only [hget, wp_pure, and_self]

omit [Scalar F] [Scalar D] [Precision F D] in
theorem wp_setParameterMoments (object : Nat) (f : Moments F → Moments F)
    (state : Heap F × Moments F)
    (a : Allocator) :
    wp (setParameterMoments object f)
      (fun _ s' => s' = s.withParameterMoments object (state.1, f state.2) a) (fun _ _ => False)
      (s.withParameterMoments object state a) := by
  unfold setParameterMoments
  rw [wp_modify]
  simp only [Runtime.withParameterMoments, List.modify_modify_eq]
  rfl

theorem turns_cpuStepAt (ho : s.parameterOptimizers[object]? = some optimizer)
    (u : Updatable s.heap optimizer.parameters) :
    Turns (s.withParameterMoments object) s.heap optimizer.kind optimizer.hyper
      optimizer.parameters 1 fun entry => cpuStepAt object entry.1 entry.2 := by
  rintro ⟨p, i⟩ ⟨h, moments⟩ a hp g
  have e := g.touches.unrecorded.evolves
  have u' := u.evolve e p (List.mem_of_getElem? hp)
  obtain ⟨first, hfirst, hb⟩ := buffers_of_fits g.fits hp
  have hgraded : (h.gradient p).isSome = s.heap.graded p := by rw [Heap.graded, ← g.gradients p]
  unfold cpuStepAt
  refine wp_seq (wp_getParameterOptimizer ho _ _) (fun _ _ he => he.elim) ?_
  rintro _ _ ⟨rfl, rfl⟩
  simp only at hp hfirst ⊢
  rw [hfirst, wp_bind, wp_onMemory]
  refine wp_mono (wp_updateParameter readsGradient_readLogical e.wellFormed u'.1 u'.2 hb a) ?_ ?_
  · rintro r m ⟨hr, ha⟩
    rw [stepParameter_of hfirst hr]
    rw [hgraded] at ha
    have hstate : { s.withParameterMoments object (h, moments) a with memory := m } =
        s.withParameterMoments object (m.heap, moments)
          (if s.heap.graded p then a.after 1 else a) := by
      by_cases hgr : s.heap.graded p = true
      · rw [if_pos hgr] at ha ⊢
        rw [← ha.2]
        rfl
      · rw [if_neg hgr] at ha ⊢
        rw [← ha]
        rfl
    have hfails : s.heap.graded p = true → 0 < 1 → a.fails a.count = false := fun hgr hpos => by
      rw [if_pos hgr] at ha
      exact ha.1 hpos
    rw [hstate]
    cases r with
    | none => exact ⟨hfails, rfl⟩
    | some updated =>
        refine wp_mono (wp_setParameterMoments _ _ _ _) ?_ fun _ _ he => he.elim
        rintro _ _ rfl
        exact ⟨hfails, rfl⟩
  · rintro e m ⟨hgr, hpos, hfail, hres, rfl⟩
    exact ⟨hgraded ▸ hgr, hpos, hfail, hres, rfl⟩

theorem wp_cpuStep (ok : s.Ok) {handle : Nat}
    (ho : s.parameterOptimizerAt handle = some (object, optimizer)) :
    wp (cpuStep handle)
      (fun _ s' => Stepping s.heap optimizer.kind optimizer.parameters
          (stepAll optimizer.kind optimizer.hyper optimizer.parameters
            (s.heap, optimizer.moments)) ∧
        s' = s.withParameterMoments object
          (stepAll optimizer.kind optimizer.hyper optimizer.parameters (s.heap, optimizer.moments))
          (s.memory.allocator.after (gradedCount s.heap optimizer.parameters.zipIdx)) ∧
        ∀ k < gradedCount s.heap optimizer.parameters.zipIdx,
          s.memory.allocator.fails (s.memory.allocator.count + k) = false)
      (fun e s' => e.IsResource ∧ ∃ done entry rest,
        optimizer.parameters.zipIdx = done ++ entry :: rest ∧ s.heap.graded entry.1 = true ∧
        s.memory.allocator.fails (s.memory.allocator.count + gradedCount s.heap done) = true ∧
        Stepping s.heap optimizer.kind optimizer.parameters (done.foldl
          (stepParameter optimizer.kind optimizer.hyper) (s.heap, optimizer.moments.nextStep)) ∧
        s' = s.withParameterMoments object (done.foldl
            (stepParameter optimizer.kind optimizer.hyper) (s.heap, optimizer.moments.nextStep))
          (s.memory.allocator.after (gradedCount s.heap done + 1))) s := by
  have hget := Runtime.get_parameterOptimizerAt ho
  have hok := ok.parameterOptimizers optimizer (List.mem_of_getElem? hget)
  unfold cpuStep
  refine wp_seq (wp_lookupParameterOptimizer ho) (fun _ _ he => he.elim) ?_
  rintro _ s ⟨rfl, rfl⟩
  have hset := wp_setParameterMoments (s := s) object Moments.nextStep
    (s.heap, optimizer.moments) s.memory.allocator
  rw [withParameterMoments_self hget] at hset
  refine wp_seq hset (fun _ _ he => he.elim) ?_
  rintro _ _ rfl
  refine wp_mono (wp_stepLoop (Nat.le_refl 1) hok.updatable (turns_cpuStepAt hget hok.updatable)
    (Stepping.start ok.wellFormed hok.fits) s.memory.allocator) ?_ ?_
  · rintro _ s' ⟨hg, hs, hfails⟩
    rw [Nat.one_mul] at hs hfails
    exact ⟨hg, hs, hfails⟩
  · rintro e s' ⟨-, hres, hstop⟩
    exact ⟨hres, hstop⟩

end Tensors

section Module
variable {optimizer : OptimizerState F D}

omit [Scalar F] [Scalar D] [Precision F D] in
theorem withMoments_self (ho : s.optimizers[object]? = some optimizer) (a : Allocator) :
    s.withMoments object (s.heap, optimizer.moments) a = { s with memory := ⟨s.heap, a⟩ } := by
  have hself : (s.optimizers.modify object fun state =>
      { state with moments := optimizer.moments }) = s.optimizers := modify_self ho rfl
  simp only [Runtime.withMoments, hself]

omit [Scalar F] [Scalar D] [Precision F D] in
theorem wp_getOptimizer (ho : s.optimizers[object]? = some optimizer)
    (state : Heap F × Moments F) (a : Allocator) :
    wp (getOptimizer object)
      (fun r s' => r = { optimizer with moments := state.2 } ∧ s' = s.withMoments object state a)
      (fun _ _ => False) (s.withMoments object state a) := by
  have hget : (s.withMoments object state a).optimizers[object]? =
      some { optimizer with moments := state.2 } := by
    simp [Runtime.withMoments, ho]
  unfold getOptimizer
  rw [wp_bind, wp_get]
  simp only [hget, wp_pure, and_self]

omit [Scalar F] [Scalar D] [Precision F D] in
theorem wp_setMoments (object : Nat) (f : Moments F → Moments F) (state : Heap F × Moments F)
    (a : Allocator) :
    wp (setMoments object f)
      (fun _ s' => s' = s.withMoments object (state.1, f state.2) a) (fun _ _ => False)
      (s.withMoments object state a) := by
  unfold setMoments
  rw [wp_modify]
  simp only [Runtime.withMoments, List.modify_modify_eq]
  rfl

omit [Scalar F] [Scalar D] [Precision F D] in
theorem wp_moduleOf {module : LinearState} (hm : s.modules[optimizer.module]? = some module) :
    wp (moduleOf optimizer) (fun r s' => r = module ∧ s' = s) (fun _ _ => False) s := by
  unfold moduleOf
  rw [wp_bind, wp_get]
  simp only [hm, wp_pure, and_self]

/-- One turn of the loop of `OptimizerStep`: reading the gradient costs nothing. -/
theorem turns_optimizerStepAt {parameters : List TensorId}
    (ho : s.optimizers[object]? = some optimizer) (u : Updatable s.heap parameters) :
    Turns (s.withMoments object) s.heap optimizer.kind optimizer.hyper parameters 0
      fun entry => optimizerStepAt object entry.1 entry.2 := by
  rintro ⟨p, i⟩ ⟨h, moments⟩ a hp g
  have e := g.touches.unrecorded.evolves
  have u' := u.evolve e p (List.mem_of_getElem? hp)
  obtain ⟨first, hfirst, hb⟩ := buffers_of_fits g.fits hp
  unfold optimizerStepAt
  refine wp_seq (wp_getOptimizer ho _ _) (fun _ _ he => he.elim) ?_
  rintro _ _ ⟨rfl, rfl⟩
  simp only at hp hfirst ⊢
  rw [hfirst, wp_bind, wp_onMemory]
  refine wp_mono (wp_updateParameter readsGradient_cpuValues e.wellFormed u'.1 u'.2 hb a) ?_ ?_
  · rintro r m ⟨hr, ha⟩
    rw [stepParameter_of hfirst hr]
    have ha' : m.allocator = a := by
      split at ha
      · exact ha.2
      · exact ha
    have hstate : { s.withMoments object (h, moments) a with memory := m } =
        s.withMoments object (m.heap, moments) (if s.heap.graded p then a.after 0 else a) := by
      rw [Allocator.after_zero, ite_self, ← ha']
      rfl
    rw [hstate]
    cases r with
    | none => exact ⟨fun _ hpos => absurd hpos (Nat.lt_irrefl 0), rfl⟩
    | some updated =>
        refine wp_mono (wp_setMoments _ _ _ _) ?_ fun _ _ he => he.elim
        rintro _ _ rfl
        exact ⟨fun _ hpos => absurd hpos (Nat.lt_irrefl 0), rfl⟩
  · rintro e m ⟨-, hpos, -⟩
    exact absurd hpos (Nat.lt_irrefl 0)

/-- `OptimizerStep`: once the list of parameters is built nothing can fail. -/
theorem wp_optimizerStep (ok : s.Ok) {handle : Nat} {module : LinearState}
    (ho : s.optimizerAt handle = some (object, optimizer))
    (hm : s.modules[optimizer.module]? = some module) :
    wp (optimizerStep handle)
      (fun _ s' => Stepping s.heap optimizer.kind module.parameters
          (stepAll optimizer.kind optimizer.hyper module.parameters (s.heap, optimizer.moments)) ∧
        s' = s.withMoments object
          (stepAll optimizer.kind optimizer.hyper module.parameters (s.heap, optimizer.moments))
          (s.memory.allocator.after 1) ∧
        s.memory.allocator.fails s.memory.allocator.count = false)
      (fun e s' => e.IsResource ∧
        s.memory.allocator.fails s.memory.allocator.count = true ∧
        s' = { s with memory := ⟨s.heap, s.memory.allocator.after 1⟩ }) s := by
  have hget := Runtime.get_optimizerAt ho
  have hok := ok.optimizers optimizer (List.mem_of_getElem? hget)
  obtain ⟨module', hm', hfits⟩ := hok.bound
  obtain rfl := Option.some.inj (hm.symm.trans hm')
  have u := (ok.modules module (List.mem_of_getElem? hm)).updatable
  unfold optimizerStep
  refine wp_seq (wp_lookupOptimizer ho) (fun _ _ he => he.elim) ?_
  rintro _ s ⟨rfl, rfl⟩
  refine wp_seq (wp_moduleOf hm) (fun _ _ he => he.elim) ?_
  rintro _ s ⟨rfl, rfl⟩
  rw [wp_bind, wp_onMemory]
  refine (wp_allocate _ _ s.heap s.memory.allocator).mpr
    ⟨fun hfail => ⟨trivial, hfail, rfl⟩, fun hok => ?_⟩
  have hset := wp_setMoments (s := s) object Moments.nextStep
    (s.heap, optimizer.moments) (s.memory.allocator.after 1)
  rw [withMoments_self hget] at hset
  refine wp_seq hset (fun _ _ he => he.elim) ?_
  rintro _ _ rfl
  refine wp_mono (wp_stepLoop (Nat.zero_le 1) u (turns_optimizerStepAt hget u)
    (Stepping.start ok.wellFormed hfits) (s.memory.allocator.after 1)) ?_ ?_
  · rintro _ s' ⟨hg, hs, -⟩
    rw [Nat.zero_mul, Allocator.after_zero] at hs
    exact ⟨hg, hs, hok⟩
  · rintro e s' ⟨hpos, -⟩
    exact absurd hpos (Nat.lt_irrefl 0)

end Module

end Training

end Tensora
