import Tensora.Api.CallSpecs
import Tensora.Training.AssignMany
import Tensora.Training.CreateSpecs
import Tensora.Training.SaveSpecs

/-! The calls that record no operation: those that leave the tables as they are, and
those that write to declared targets. -/
namespace Tensora.Api
open ProgramLogic Training

variable {F D : Type} {s : Runtime F D}

section Quiet
variable {R : Heap F → Heap F → Prop} (c : Chained R)
include c

theorem stays_reply {α : Type} {x : Native F D α} (reply : α → Reply F)
    (hx : Stays R x s) : Stays R (do let r ← x; return reply r : Native F D (Reply F)) s :=
  Keeps.bind c hx fun _ _ ok' _ _ => keeps_pure c ok' trivial

theorem stays_tensorCopyToHostF32 (ok : s.Ok) (tensor capacity : Nat) :
    Stays R (tensorCopyToHostF32 tensor capacity) s := by
  unfold tensorCopyToHostF32
  refine Keeps.bind c (keeps_lookupTensor c ok tensor) ?_
  rintro id s ok - ⟨rfl, hv⟩
  obtain ⟨t, ht⟩ := hv.get
  refine (keeps_observes c ok (T := fun _ => True) ?_).mono fun _ _ _ => trivial
  refine (observes_deref ht).bind rfl ?_
  rintro t rfl
  refine spec_failIf_bind (fun _ => rfl) fun hcap => ?_
  refine (Tensor.observes_copyToHostF32 (ok.wellFormed.placed _ _ ht) (Nat.not_lt.mp hcap)).bind
    rfl fun _ _ => ?_
  exact spec_pure ⟨rfl, trivial⟩

theorem stays_tensorIdentity (ok : s.Ok) (tensor : Nat) :
    Stays R (do
      let object ← lookupTensor tensor
      return .number (← onMemory (Training.tensorIdentity object)) : Native F D (Reply F)) s := by
  refine Keeps.bind c (keeps_lookupTensor c ok tensor) ?_
  rintro id s ok - ⟨rfl, hv⟩
  refine Keeps.bind c (keeps_observes c ok (T := fun _ => True)
    ((spec_tensorIdentity ok.wellFormed hv).mono (fun _ _ hq => ⟨hq.1, trivial⟩) (fun _ _ he => he)
      fun _ hx => hx)) fun _ _ ok' _ _ => keeps_pure c ok' trivial

theorem stays_tensorRequiresGrad (ok : s.Ok) (tensor : Nat) :
    Stays R (do
      let object ← lookupTensor tensor
      return .flag (← onMemory (Autograd.requiresGrad object)) : Native F D (Reply F)) s := by
  refine Keeps.bind c (keeps_lookupTensor c ok tensor) ?_
  rintro id s ok - ⟨rfl, hv⟩
  obtain ⟨t, ht⟩ := hv.get
  refine Keeps.bind c (keeps_observes c ok (T := fun _ => True)
    ((Autograd.observes_requiresGrad ht).mono (fun _ _ hq => ⟨hq.1, trivial⟩)
      (fun _ _ he => he.elim) fun _ hx => hx)) fun _ _ ok' _ _ => keeps_pure c ok' trivial

theorem stays_moduleSetTraining (ok : s.Ok) (module : Nat) (training : Bool) :
    Stays R (Training.moduleSetTraining module training) s := by
  unfold Training.moduleSetTraining
  refine Keeps.bind c (keeps_lookupModule c ok module) ?_
  rintro ⟨object, state⟩ s ok - ⟨rfl, -⟩
  refine (keeps_modify c ok rfl ⟨ok.wellFormed, ok.versioned, ok.tensors, ?_, ?_,
    ok.parameterOptimizers, ok.handles⟩).mono fun _ _ _ => trivial
  · intro state' hmem
    obtain ⟨i, hi⟩ := List.mem_iff_getElem?.mp hmem
    rw [List.getElem?_modify] at hi
    obtain ⟨old, hold, rfl⟩ := Option.map_eq_some_iff.mp hi
    have hok := ok.modules old (List.mem_of_getElem? hold)
    split
    · exact ⟨hok.weight_visible, hok.weight_dims, hok.weight_rowMajor, hok.useBias,
        hok.bias_visible, hok.bias_dims, hok.bias_rowMajor, hok.separate⟩
    · exact hok
  · intro optimizer hmem
    obtain ⟨bound, hget, hfits⟩ := (ok.optimizers optimizer hmem).bound
    refine ⟨_, (List.getElem?_modify _ _ _ _).trans (by rw [hget]; rfl), ?_⟩
    split
    · exact hfits
    · exact hfits

theorem stays_moduleToDevice (ok : s.Ok) (module : Nat) (device : Device) (deviceIndex : Int) :
    Stays R (Training.moduleToDevice module device deviceIndex) s := by
  unfold Training.moduleToDevice
  refine Keeps.bind c (keeps_lookupModule c ok module) ?_
  rintro _ s ok - ⟨rfl, -⟩
  refine Keeps.bind c (keeps_failIf c ok _ _) ?_
  rintro _ s ok - ⟨rfl, -⟩
  refine Keeps.bind c (keeps_failIf c ok _ _) ?_
  rintro _ s ok - ⟨rfl, -⟩
  exact (keeps_failIf c ok _ _).mono fun _ _ _ => trivial

theorem stays_moduleParameterCount (ok : s.Ok) (module : Nat) :
    Stays R (Training.moduleParameterCount module) s := by
  unfold Training.moduleParameterCount
  refine Keeps.bind c (keeps_lookupModule c ok module) ?_
  rintro _ s ok - -
  exact keeps_pure c ok trivial

theorem stays_moduleBufferCount (ok : s.Ok) (module : Nat) :
    Stays R (Training.moduleBufferCount module) s := by
  unfold Training.moduleBufferCount
  refine Keeps.bind c (keeps_lookupModule c ok module) ?_
  rintro _ s ok - -
  exact keeps_pure c ok trivial

theorem stays_fetchAndInsert (fetch : Native F D TensorId)
    (hf : Keeps R fetch s fun r s' => s'.heap.Visible r) :
    Stays R (fetchAndInsert fetch) s := by
  unfold fetchAndInsert
  refine Keeps.bind c hf fun id s' ok' _ hv => ?_
  exact stays_reply c _ ((keeps_insertTensor c ok' hv).mono fun _ _ _ => trivial)

theorem keeps_moduleParameterAt (ok : s.Ok) (module index : Nat) :
    Keeps R (Training.moduleParameterAt module index) s fun r s' => s'.heap.Visible r := by
  unfold Training.moduleParameterAt
  refine Keeps.bind c (keeps_lookupModule c ok module) ?_
  rintro ⟨object, state⟩ s ok - ⟨rfl, hm⟩
  have hok := ok.modules state (List.mem_of_getElem? (Runtime.get_moduleAt hm))
  simp only
  split
  · exact keeps_pure c ok hok.weight_visible
  · rename_i bias _ hb
    exact keeps_pure c ok (hok.bias_visible bias hb)
  · exact keeps_throw c ok _

theorem keeps_moduleBufferAt (ok : s.Ok) (module index : Nat) :
    Keeps R (Training.moduleBufferAt module index) s fun r s' => s'.heap.Visible r := by
  unfold Training.moduleBufferAt
  refine Keeps.bind c (keeps_lookupModule c ok module) ?_
  rintro _ s ok - -
  exact keeps_throw c ok _

theorem stays_moduleSave [FloatBits F] (ok : s.Ok) (module : Nat) (path : String) :
    Stays R (Training.moduleSave module path) s := by
  unfold Training.moduleSave
  refine Keeps.bind c (keeps_failIf c ok _ _) ?_
  rintro _ s ok - ⟨rfl, -⟩
  refine Keeps.bind c (keeps_lookupModule c ok module) ?_
  rintro ⟨object, state⟩ s ok - ⟨rfl, hm⟩
  have hok := ok.modules state (List.mem_of_getElem? (Runtime.get_moduleAt hm))
  have hrefl := c.refl ok.wellFormed
  refine wp_mono (wp_saveState ok.wellFormed hok path) ?_ ?_
  · rintro _ _ ⟨rfl, -⟩
    exact ⟨ok.withFile _, hrefl, trivial⟩
  · rintro e _ (⟨rfl, -⟩ | ⟨⟨left, rfl⟩, -⟩)
    · exact ⟨ok, hrefl⟩
    · exact ⟨ok.withFile _, hrefl⟩

end Quiet

section Creation
variable [Zero F] [Scalar D] {R : Heap F → Heap F → Prop} (c : Chained R)
include c

omit [Zero F] [Scalar D] in
theorem keeps_checks (ok : s.Ok) {x : Native F D Unit} {accepted : Bool} (hx : Checks x accepted) :
    Keeps R x s fun _ s' => s' = s := by
  refine wp_mono (hx s) ?_ ?_
  · rintro _ _ ⟨rfl, -⟩
    exact ⟨ok, c.refl ok.wellFormed, rfl⟩
  · rintro _ _ ⟨rfl, -⟩
    exact ⟨ok, c.refl ok.wellFormed⟩

omit [Zero F] [Scalar D] in
theorem keeps_reads (ok : s.Ok) {h : Heap F} (hs : s.heap = h) {α : Type} {x : Mem F α}
    {T : α → Prop} (hx : Observes x h T) :
    Keeps R (onMemory x : Native F D α) s
      fun r s' => (s'.heap = h ∧ s'.modules = s.modules) ∧ T r := by
  subst hs
  unfold Keeps
  rw [wp_onMemory]
  refine wp_mono (hx s.memory.allocator) ?_ ?_
  · rintro r ⟨h', a⟩ ⟨-, rfl, ht⟩
    exact ⟨ok.onHeap (Evolves.refl ok.wellFormed), c.refl ok.wellFormed, ⟨rfl, rfl⟩, ht⟩
  · rintro e ⟨h', a⟩ ⟨-, he⟩
    obtain rfl : h' = s.memory.heap := he.elim False.elim fun hx => hx.2.2
    exact ⟨ok.onHeap (Evolves.refl ok.wellFormed), c.refl ok.wellFormed⟩

theorem stays_createOptimizer (ok : s.Ok) (module : Nat) (kind : OptimizerKind)
    (hyper : Hyperparameters D) :
    Stays R (createOptimizer module kind hyper : Native F D Nat) s := by
  unfold createOptimizer
  refine Keeps.bind c (keeps_checks c ok (checks_hyperparameters kind hyper)) ?_
  rintro _ s ok - rfl
  refine Keeps.bind c (keeps_lookupModule c ok module) ?_
  rintro ⟨object, state⟩ s ok - ⟨rfl, hm⟩
  have hget := Runtime.get_moduleAt hm
  have u := (ok.modules state (List.mem_of_getElem? hget)).updatable
  have hv : ∀ p ∈ state.parameters, s.heap.Visible p := fun p hp => (u p hp).1
  have hfits : ∀ p ∈ state.parameters, (s.heap.dims p).prod ≤ kMaxFloats := fun p hp =>
    (hv p hp).fits ok.wellFormed
  refine keeps_allocationGuard _ ?_
  refine Keeps.bind c (keeps_reads c ok rfl (observes_allocate _)) ?_
  rintro _ s₁ ok₁ - ⟨⟨h₁, m₁⟩, -⟩
  refine Keeps.bind c (keeps_reads c ok₁ h₁ (observes_allocate _)) ?_
  rintro _ s₂ ok₂ - ⟨⟨h₂, m₂⟩, -⟩
  refine Keeps.bind c (keeps_reads c ok₂ h₂ (spec_sizes ok.wellFormed hv)) ?_
  rintro _ s₃ ok₃ - ⟨⟨h₃, m₃⟩, rfl⟩
  refine Keeps.bind c (keeps_reads c ok₃ h₃ (observes_allocate _)) ?_
  rintro _ s₄ ok₄ - ⟨⟨h₄, m₄⟩, -⟩
  refine Keeps.bind c (keeps_reads c ok₄ h₄ (observes_allocate _)) ?_
  rintro _ s₅ ok₅ - ⟨⟨h₅, m₅⟩, -⟩
  refine Keeps.bind c (keeps_reads c ok₅ h₅ (spec_zeroMoments hfits)) ?_
  rintro _ s₆ ok₆ - ⟨⟨h₆, m₆⟩, rfl⟩
  have hlast : ∀ (second : List (List F)) (s' : Runtime F D), s'.Ok → s'.heap = s.heap →
      s'.modules = s.modules → (kind ≠ .sgd → second = zeroBuffers s.heap state.parameters) →
      Stays R (do
        let optimizer := (← get).optimizers.length
        modify fun r => { r with optimizers := r.optimizers ++ [{
          kind := kind
          module := object
          hyper := hyper
          moments := ⟨0, zeroBuffers s.heap state.parameters, second⟩ }] }
        insertHandle .optimizer optimizer : Native F D Nat) s' := by
    intro second s' ok' hheap hmodules hsecond
    refine Keeps.bind c (keeps_get c ok') ?_
    rintro s' _ ok' - ⟨rfl, rfl⟩
    refine Keeps.bind c (keeps_modify c ok' rfl ⟨ok'.wellFormed, ok'.versioned, ok'.tensors,
      ok'.modules, fun optimizer hmem => ?_, ok'.parameterOptimizers, ok'.handles⟩) ?_
    · rcases List.mem_append.mp hmem with hold | hone
      · exact ok'.optimizers optimizer hold
      · rw [List.mem_singleton.mp hone]
        refine ⟨state, hmodules ▸ hget, ?_, fun hk => ?_⟩
        · change Sized s'.heap state.parameters (zeroBuffers s.heap state.parameters)
          rw [hheap]
          exact sized_zeroBuffers
        · change Sized s'.heap state.parameters second
          rw [hheap, hsecond hk]
          exact sized_zeroBuffers
    · rintro _ _ ok' - rfl
      exact (keeps_insertHandle c ok' .optimizer _ fun hne => by cases hne).mono
        fun _ _ _ => trivial
  have hm₆ : s₆.modules = s.modules := by rw [m₆, m₅, m₄, m₃, m₂, m₁]
  by_cases hk : kind = .sgd
  · rw [if_pos hk]
    refine Keeps.bind c (Q := fun r s' => s' = s₆ ∧ r = []) (keeps_pure c ok₆ ⟨rfl, rfl⟩) ?_
    rintro _ s₆ ok₆ - ⟨rfl, rfl⟩
    exact hlast [] s₆ ok₆ h₆ hm₆ fun hne => absurd hk hne
  · rw [if_neg hk]
    refine Keeps.bind c (keeps_reads c ok₆ h₆ (spec_zeroMoments hfits)) ?_
    rintro _ s₇ ok₇ - ⟨⟨h₇, m₇⟩, rfl⟩
    exact hlast _ s₇ ok₇ h₇ (m₇.trans hm₆) fun _ => rfl

structure Collects (h : Heap F) (r : List TensorId × List TensorId) : Prop where
  visible : ∀ p ∈ r.2, h.Visible p
  distinct : r.2.Nodup
  seen : ∀ p ∈ r.2, p ∈ r.1

omit [Zero F] [Scalar D] in
theorem keeps_collectParameter (ok : s.Ok) (operation : String)
    (collected : List TensorId × List TensorId) (handle : Nat)
    (hc : Collects s.heap collected) :
    Keeps R (collectParameter operation collected handle : Native F D _) s
      fun r s' => s'.heap = s.heap ∧ Collects s.heap r := by
  unfold collectParameter
  refine Keeps.bind c (keeps_lookupTensor c ok handle) ?_
  rintro id s ok - ⟨rfl, hv⟩
  obtain ⟨t, ht⟩ := hv.get
  refine Keeps.bind c (keeps_reads c ok rfl (observes_allocate _)) ?_
  rintro _ s₁ ok₁ - ⟨⟨h₁, -⟩, -⟩
  refine Keeps.bind c (keeps_failIf c ok₁ _ _) ?_
  rintro _ s₁ ok₁ - ⟨rfl, hnew⟩
  refine Keeps.bind c (keeps_reads c ok₁ h₁ (Autograd.observes_requiresGrad ht)) ?_
  rintro required s₂ ok₂ - ⟨⟨h₂, -⟩, -⟩
  cases required with
  | false =>
      exact keeps_pure c ok₂ ⟨h₂, hc.visible, hc.distinct, fun p hp =>
        List.mem_cons_of_mem _ (hc.seen p hp)⟩
  | true =>
      refine Keeps.bind c (keeps_reads c ok₂ h₂ (observes_allocate _)) ?_
      rintro _ s₃ ok₃ - ⟨⟨h₃, -⟩, -⟩
      refine keeps_pure c ok₃ ⟨h₃, fun p hp => ?_, ?_, fun p hp => ?_⟩
      · rcases List.mem_append.mp hp with hold | hlast
        · exact hc.visible p hold
        · rw [List.mem_singleton.mp hlast]
          exact hv
      · exact hc.distinct.append (List.nodup_singleton _) (by
          simpa using fun hmem => hnew (hc.seen id hmem))
      · rcases List.mem_append.mp hp with hold | hlast
        · exact List.mem_cons_of_mem _ (hc.seen p hold)
        · rw [List.mem_singleton.mp hlast]
          exact List.mem_cons_self

omit [Zero F] [Scalar D] in
theorem keeps_collectParameters (ok : s.Ok) (handles : Option (List Nat)) (operation : String) :
    Keeps R (collectParameters handles operation : Native F D _) s
      fun r s' => s'.heap = s.heap ∧ (∀ p ∈ r, s.heap.Visible p) ∧ r.Nodup := by
  unfold collectParameters
  split
  · exact keeps_throw c ok _
  · exact keeps_throw c ok _
  · refine Keeps.bind c (keeps_foldlM c ok (fun r s' => s'.heap = s.heap ∧
      Collects s.heap r) ⟨rfl, by simp, List.nodup_nil, by simp⟩ ?_) ?_
    · rintro collected handle - s' ok' - ⟨hheap, hc⟩
      refine (keeps_collectParameter c ok' operation collected handle
        (by rw [hheap]; exact hc)).mono ?_
      rintro r s'' ⟨hheap', hc'⟩
      exact ⟨hheap'.trans hheap, by rw [← hheap]; exact hc'⟩
    · rintro ⟨seen, out⟩ s' ok' - ⟨hheap, hc⟩
      refine Keeps.bind c (keeps_failIf c ok' _ _) ?_
      rintro _ s' ok' - ⟨rfl, -⟩
      exact keeps_pure c ok' ⟨hheap, hc.visible, hc.distinct⟩

theorem stays_createForTensors (ok : s.Ok) (handles : Option (List Nat)) (kind : OptimizerKind)
    (hyper : Hyperparameters D) :
    Stays R (createForTensors handles kind hyper : Native F D Nat) s := by
  unfold createForTensors
  refine Keeps.bind c (keeps_checks c ok (checks_tensorHyperparameters kind hyper)) ?_
  rintro _ s ok - rfl
  refine Keeps.bind c (keeps_collectParameters c ok handles _) ?_
  rintro parameters s₁ ok₁ - ⟨h₁, hv, hdistinct⟩
  rw [← h₁] at hv
  refine Keeps.bind c (keeps_reads c ok₁ rfl
    (observes_allocationGuard _ (observes_allocate _))) ?_
  rintro _ s₂ ok₂ - ⟨⟨h₂, -⟩, -⟩
  rw [← h₂] at hv
  refine Keeps.bind c (keeps_observes c ok₂ (T := fun r => Updatable s₂.heap parameters ∧
    r = (zeroBuffers s₂.heap parameters, zeroBuffers s₂.heap parameters))
    ((spec_initializeCpuMoments ok₂.wellFormed hv _).mono (fun _ _ hq => hq)
      (fun _ _ he => he.1) fun _ hx => hx)) ?_
  rintro _ s₃ ok₃ - ⟨h₃, hu, rfl⟩
  refine Keeps.bind c (keeps_get c ok₃) ?_
  rintro s₃ _ ok₃ - ⟨rfl, rfl⟩
  refine Keeps.bind c (keeps_modify c ok₃ rfl ⟨ok₃.wellFormed, ok₃.versioned, ok₃.tensors,
    ok₃.modules, ok₃.optimizers, fun optimizer hmem => ?_, ok₃.handles⟩) ?_
  · rcases List.mem_append.mp hmem with hold | hone
    · exact ok₃.parameterOptimizers optimizer hold
    · rw [List.mem_singleton.mp hone]
      rw [← h₃] at hu
      refine ⟨hu, ⟨?_, fun _ => ?_⟩, hdistinct⟩
      · change Sized s₃.heap parameters (zeroBuffers s₂.heap parameters)
        rw [h₃]
        exact sized_zeroBuffers
      · change Sized s₃.heap parameters (zeroBuffers s₂.heap parameters)
        rw [h₃]
        exact sized_zeroBuffers
  · rintro _ _ ok' - rfl
    exact (keeps_insertHandle c ok' .parameterOptimizer _ fun hne => by cases hne).mono
      fun _ _ _ => trivial

end Creation

end Tensora.Api

namespace Tensora
open ProgramLogic

variable {F D : Type}

def Api.Call.targets (s : Runtime F D) : Api.Call F D → List TensorId
  | .tensorAssignMany targets _ count =>
      ((targets.getD []).take count).filterMap fun handle => s.objectOf handle .tensor
  | .moduleLoad module _ => (s.moduleAt module).elim [] fun r => r.2.parameters
  | .optimizerStep optimizer =>
      ((s.optimizerAt optimizer).bind fun r => s.modules[r.2.module]?).elim []
        Training.LinearState.parameters
  | .parameterOptimizerStep optimizer =>
      (s.parameterOptimizerAt optimizer).elim [] fun r => r.2.parameters
  | _ => []

section Steps
variable {s : Runtime F D} {object : Nat} {state : Heap F × Moments F}

theorem Runtime.Ok.withMoments (ok : s.Ok) {optimizer : OptimizerState F D}
    {module : Training.LinearState} (ho : s.optimizers[object]? = some optimizer)
    (hm : s.modules[optimizer.module]? = some module)
    (g : Training.Stepping s.heap optimizer.kind module.parameters state) (a : Allocator) :
    (s.withMoments object state a).Ok := by
  have e := g.touches.unrecorded.evolves
  have ok' := ok.onHeap (m := ⟨state.1, a⟩) e
  refine ⟨ok'.wellFormed, ok'.versioned, ok'.tensors, ok'.modules, ?_, ok'.parameterOptimizers,
    ok'.handles⟩
  intro optimizer' hmem
  obtain ⟨i, hi⟩ := List.mem_iff_getElem?.mp hmem
  simp only [Runtime.withMoments, List.getElem?_modify] at hi
  obtain ⟨old, hold, rfl⟩ := Option.map_eq_some_iff.mp hi
  split
  · rename_i heq
    subst heq
    obtain rfl := Option.some.inj (ho.symm.trans hold)
    exact ⟨module, hm, g.fits⟩
  · exact ok'.optimizers old (List.mem_of_getElem? hold)

theorem Runtime.Ok.withParameterMoments (ok : s.Ok) {optimizer : ParameterOptimizerState F D}
    (ho : s.parameterOptimizers[object]? = some optimizer)
    (g : Training.Stepping s.heap optimizer.kind optimizer.parameters state) (a : Allocator) :
    (s.withParameterMoments object state a).Ok := by
  have e := g.touches.unrecorded.evolves
  have ok' := ok.onHeap (m := ⟨state.1, a⟩) e
  refine ⟨ok'.wellFormed, ok'.versioned, ok'.tensors, ok'.modules, ok'.optimizers, ?_,
    ok'.handles⟩
  intro optimizer' hmem
  obtain ⟨i, hi⟩ := List.mem_iff_getElem?.mp hmem
  simp only [Runtime.withParameterMoments, List.getElem?_modify] at hi
  obtain ⟨old, hold, rfl⟩ := Option.map_eq_some_iff.mp hi
  split
  · rename_i heq
    subst heq
    obtain rfl := Option.some.inj (ho.symm.trans hold)
    have hok := ok.parameterOptimizers _ (List.mem_of_getElem? ho)
    exact ⟨hok.updatable.evolve e, g.fits, hok.distinct⟩
  · exact ok'.parameterOptimizers old (List.mem_of_getElem? hold)

end Steps

namespace Api
open Training
variable {s : Runtime F D}

section Mutators
variable [Scalar F]

omit [Scalar F] in
theorem stays_setRequiresGrad (T : StorageId → Prop) (ok : s.Ok) (tensor : Nat)
    (requiresGrad : Bool) :
    Stays (Touches T) (do
      let object ← lookupTensor tensor
      onMemory (Training.setRequiresGrad object requiresGrad) : Native F D Unit) s := by
  have c := chained_touches (F := F) T
  refine Keeps.bind c (keeps_lookupTensor c ok tensor) ?_
  rintro id s ok - ⟨rfl, hv⟩
  refine (keeps_onMemory (T := fun _ _ => True) c ok
    ((Training.spec_setRequiresGrad T ok.wellFormed hv requiresGrad).mono
      (fun _ _ hq => ⟨hq, trivial⟩) ?_ ?_)).mono fun _ _ _ => trivial
  · rintro _ _ rfl
    exact Touches.refl T ok.wellFormed
  · rintro _ rfl
    exact Touches.refl T ok.wellFormed

theorem stays_backward (T : StorageId → Prop) (ok : s.Ok) (tensor : Nat) :
    Stays (Touches T) (do
      let object ← lookupTensor tensor
      onMemory (Autograd.backward object) : Native F D Unit) s := by
  have c := chained_touches (F := F) T
  refine Keeps.bind c (keeps_lookupTensor c ok tensor) ?_
  rintro id s ok - ⟨rfl, hv⟩
  refine (keeps_onMemory (T := fun _ _ => True) c ok ?_).mono fun _ _ _ => trivial
  refine Spec.bind ((spec_backwardTrace ok.wellFormed hv).mono (fun _ _ hq => hq) ?_ ?_) ?_
  · rintro _ _ ⟨rfl, -⟩
    exact Touches.refl T ok.wellFormed
  · rintro _ ⟨hb, -⟩
    exact Touches.of_backs hb
  · rintro _ _ ⟨-, hb, -⟩
    exact spec_pure ⟨Touches.of_backs hb, trivial⟩

omit [Scalar F] in
theorem stays_clearAll (T : StorageId → Prop) (ok : s.Ok) {parameters : List TensorId}
    (hp : ∀ p ∈ parameters, s.heap.Visible p) :
    Stays (Touches T) (parameters.forM fun parameter =>
      onMemory (Autograd.clearGradient parameter) : Native F D Unit) s := by
  have c := chained_touches (F := F) T
  refine keeps_forM c ok fun p hmem s' ok' ht => ?_
  have hv := ht.unrecorded.evolves.visible p (hp p hmem)
  refine (keeps_onMemory (T := fun _ _ => True) c ok' ((Autograd.spec_clearGradient hv).mono ?_
    (fun _ _ he => he.elim) fun _ hx => hx.elim)).mono fun _ _ _ => trivial
  rintro _ _ rfl
  exact ⟨Touches.cleared T ok'.wellFormed hv, trivial⟩

omit [Scalar F] in
theorem stays_optimizerZeroGrad (T : StorageId → Prop) (ok : s.Ok) (optimizer : Nat) :
    Stays (Touches T) (optimizerZeroGrad optimizer : Native F D Unit) s := by
  have c := chained_touches (F := F) T
  unfold optimizerZeroGrad
  refine Keeps.bind c (keeps_lookupOptimizer c ok optimizer) ?_
  rintro ⟨object, state⟩ s ok - ⟨rfl, ho⟩
  obtain ⟨module, hm, -⟩ := (ok.optimizers state
    (List.mem_of_getElem? (Runtime.get_optimizerAt ho))).bound
  have u := (ok.modules module (List.mem_of_getElem? hm)).updatable
  refine Keeps.bind c (Q := fun r s' => r = module ∧ s' = s) ?_ ?_
  · refine wp_mono (wp_moduleOf hm) ?_ fun _ _ he => he.elim
    rintro _ _ ⟨rfl, rfl⟩
    exact ⟨ok, Touches.refl T ok.wellFormed, rfl, rfl⟩
  rintro _ s ok - ⟨rfl, rfl⟩
  refine Keeps.bind c (keeps_reads c ok rfl (observes_allocate _)) ?_
  rintro _ s₁ ok₁ - ⟨⟨h₁, -⟩, -⟩
  exact stays_clearAll T ok₁ fun p hp => by rw [h₁]; exact (u p hp).1

omit [Scalar F] in
theorem stays_zeroGrad (T : StorageId → Prop) (ok : s.Ok) (optimizer : Nat) :
    Stays (Touches T) (zeroGrad optimizer : Native F D Unit) s := by
  have c := chained_touches (F := F) T
  unfold zeroGrad
  refine Keeps.bind c (keeps_lookupParameterOptimizer c ok optimizer) ?_
  rintro ⟨object, state⟩ s ok - ⟨rfl, ho⟩
  have hok := ok.parameterOptimizers state
    (List.mem_of_getElem? (Runtime.get_parameterOptimizerAt ho))
  exact stays_clearAll T ok fun p hp => (hok.updatable p hp).1

end Mutators

section Steps
variable [Scalar F] [Scalar D] [Precision F D]

theorem stays_optimizerStep (ok : s.Ok) (optimizer : Nat) :
    Stays (Touches (s.heap.within ((Call.optimizerStep optimizer).targets s)))
      (optimizerStep optimizer) s := by
  cases ho : s.optimizerAt optimizer with
  | none =>
      have c := chained_touches (F := F) (s.heap.within ((Call.optimizerStep optimizer).targets s))
      unfold optimizerStep
      refine Keeps.bind c (keeps_lookupOptimizer c ok optimizer) ?_
      rintro r s ok - ⟨rfl, hsome⟩
      rw [ho] at hsome
      cases hsome
  | some r =>
      obtain ⟨object, state⟩ := r
      have hget := Runtime.get_optimizerAt ho
      obtain ⟨module, hm, -⟩ := (ok.optimizers state (List.mem_of_getElem? hget)).bound
      have htargets : (Call.optimizerStep optimizer).targets s = module.parameters := by
        simp only [Call.targets, ho, Option.bind_some, hm, Option.elim_some]
      rw [htargets]
      refine wp_mono (wp_optimizerStep ok ho hm) ?_ ?_
      · rintro _ _ ⟨g, rfl, -⟩
        exact ⟨ok.withMoments hget hm g _, g.touches, trivial⟩
      · rintro e _ ⟨-, -, rfl⟩
        exact ⟨ok.onHeap (Evolves.refl ok.wellFormed), Touches.refl _ ok.wellFormed⟩

theorem stays_cpuStep (ok : s.Ok) (optimizer : Nat) :
    Stays (Touches (s.heap.within ((Call.parameterOptimizerStep optimizer).targets s)))
      (cpuStep optimizer) s := by
  cases ho : s.parameterOptimizerAt optimizer with
  | none =>
      have c := chained_touches (F := F)
        (s.heap.within ((Call.parameterOptimizerStep optimizer).targets s))
      unfold cpuStep
      refine Keeps.bind c (keeps_lookupParameterOptimizer c ok optimizer) ?_
      rintro r s ok - ⟨rfl, hsome⟩
      rw [ho] at hsome
      cases hsome
  | some r =>
      obtain ⟨object, state⟩ := r
      have hget := Runtime.get_parameterOptimizerAt ho
      have htargets : (Call.parameterOptimizerStep optimizer).targets s = state.parameters := by
        simp only [Call.targets, ho, Option.elim_some]
      rw [htargets]
      refine wp_mono (wp_cpuStep ok ho) ?_ ?_
      · rintro _ _ ⟨g, rfl, -⟩
        exact ⟨ok.withParameterMoments hget g _, g.touches, trivial⟩
      · rintro e _ ⟨-, done, entry, rest, -, -, -, g, rfl⟩
        exact ⟨ok.withParameterMoments hget g _, g.touches⟩

end Steps

section Loads

theorem Resolved.targets {targets sources : Option (List Nat)} {count : Nat}
    {pairs : List (TensorId × TensorId)} (r : Resolved s targets sources count pairs) :
    ∀ p ∈ pairs,
      p.1 ∈ (Call.tensorAssignMany (F := F) (D := D) targets sources count).targets s := by
  intro p hp
  obtain ⟨i, hi, rfl⟩ := List.getElem_of_mem hp
  obtain ⟨hlen, hall⟩ := List.forall₂_iff_get.mp r
  have hi' := hlen ▸ hi
  obtain ⟨handle, hmem, hr⟩ : ∃ handle ∈ ((targets.getD []).zip (sources.getD [])).take count,
      s.Resolves handle.1 pairs[i].1 := ⟨_, List.getElem_mem hi', (hall i hi' hi).1⟩
  rw [List.zip_eq_zipWith, List.take_zipWith, ← List.zip_eq_zipWith] at hmem
  exact List.mem_filterMap.mpr ⟨_, (List.of_mem_zip hmem).1, hr⟩

theorem stays_assignMany (ok : s.Ok) (targets sources : Option (List Nat)) (count : Nat) :
    Stays (Touches (s.heap.within ((Call.tensorAssignMany targets sources count).targets s)))
      (assignMany targets sources count : Native F D Unit) s := by
  refine wp_mono (wp_assignMany ok targets sources count) ?_ ?_
  · rintro _ _ ⟨a, h', batch, rfl, hresolved, -, -, ha⟩
    have ht : Touches (s.heap.within ((Call.tensorAssignMany targets sources count).targets s))
        s.heap h' := by
      refine ⟨ha.unrecorded, fun storage hs => ha.writes storage fun hmem => hs ?_⟩
      obtain ⟨q, hq, hstorage⟩ := List.mem_map.mp hmem
      obtain ⟨p, hp, rfl⟩ := List.mem_map.mp hq
      exact ⟨p.1, Resolved.targets hresolved p hp, hstorage⟩
    exact ⟨ok.onHeap ha.unrecorded.evolves, ht, trivial⟩
  · rintro e _ hidle
    exact ⟨hidle.ok ok, by rw [hidle.heap_eq]; exact Touches.refl _ ok.wellFormed⟩

theorem touches_restored {h : Heap F} {state : LinearState} {weight bias : List F}
    (wf : WellFormed h) (ok : state.Ok h)
    (hw : weight.length = state.inFeatures * state.outFeatures)
    (hb : bias.length = state.outFeatures) :
    Touches (h.within state.parameters) h (state.restored h weight bias) := by
  have huse := ok.useBias
  obtain ⟨t, ht⟩ := ok.weight_visible.get
  have hwithin : ∀ p ∈ state.parameters, ∀ t, h.tensors[p]? = some t →
      h.within state.parameters t.storage := fun p hp t ht =>
    ⟨p, hp, by rw [Heap.storageOf, ht]; rfl⟩
  have hweight : state.weight ∈ state.parameters := by
    unfold LinearState.parameters
    split <;> simp
  have first : Touches (h.within state.parameters) h (h.assigned state.weight weight) := by
    refine Touches.assigned wf ok.weight_visible ht ?_ (hwithin _ hweight t ht)
    rw [hw, Heap.Visible.numel wf ht, ok.weight_dims]
    simp
  unfold LinearState.restored
  cases hbias : state.bias with
  | none => exact first
  | some b =>
      have hmem : b ∈ state.parameters := by
        rw [hbias] at huse
        rw [LinearState.parameters, huse, hbias]
        simp
      have e := first.unrecorded.evolves
      have hv := e.visible b (ok.bias_visible b hbias)
      obtain ⟨tb, htb⟩ := hv.get
      refine first.trans (Touches.assigned e.wellFormed hv htb ?_ ?_)
      · rw [hb, Heap.Visible.numel e.wellFormed htb, e.dims_eq (ok.bias_visible b hbias).1,
          ok.bias_dims b hbias]
        simp
      · refine ⟨b, hmem, ?_⟩
        rw [← e.storageOf (ok.bias_visible b hbias).1, Heap.storageOf, htb]
        rfl

theorem stays_moduleLoad [FloatBits F] (ok : s.Ok) (module : Nat) (path : String) :
    Stays (Touches (s.heap.within ((Call.moduleLoad module path).targets s)))
      (moduleLoad module path : Native F D Unit) s := by
  have c := chained_touches (F := F) (s.heap.within ((Call.moduleLoad module path).targets s))
  unfold moduleLoad
  refine Keeps.bind c (keeps_failIf c ok _ _) ?_
  rintro _ s ok - ⟨rfl, -⟩
  refine Keeps.bind c (keeps_lookupModule c ok module) ?_
  rintro ⟨object, state⟩ s ok - ⟨rfl, hm⟩
  have hstate := ok.modules state (List.mem_of_getElem? (Runtime.get_moduleAt hm))
  have htargets : (Call.moduleLoad module path).targets s = state.parameters := by
    simp only [Call.targets, hm, Option.elim_some]
  rw [htargets] at c ⊢
  refine Keeps.bind c (keeps_get c ok) ?_
  rintro s _ ok - ⟨rfl, rfl⟩
  cases hfile : s.files.contents path with
  | none => exact keeps_throw c ok _
  | some stream =>
      refine (keeps_onMemory (T := fun _ _ => True) c ok
        ((spec_loadParameters ok.wellFormed hstate).mono ?_ ?_ ?_)).mono fun _ _ _ => trivial
      · rintro _ _ ⟨flag, weight, bias, -, -, -, -, rfl⟩
        exact ⟨touches_restored ok.wellFormed hstate (length_decodeFloats _ _)
          (length_decodeFloats _ _), trivial⟩
      · rintro _ _ rfl
        exact Touches.refl _ ok.wellFormed
      · rintro _ rfl
        exact Touches.refl _ ok.wellFormed

end Loads

end Api

end Tensora
