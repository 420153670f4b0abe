import Tensora.Autograd.BackwardSpecs
import Tensora.Autograd.FormedGraph
import Tensora.Tensor.Oblivious

/-! Where `Backward` can run out of memory: at every tensor of its order that requires grad, as
the turn of such a tensor begins with an allocation. -/
namespace Tensora
open ProgramLogic Autograd

variable {F α β : Type}

def Still (x : Mem F α) : Prop := ∀ m, wp x (fun _ m' => m' = m) (fun _ m' => m' = m) m

/-- When the next allocation fails so does the program, and the tables are what they were. -/
def Needs (x : Mem F α) : Prop :=
  ∀ m, m.allocator.fails m.allocator.count = true →
    wp x (fun _ _ => False) (fun _ m' => m'.heap = m.heap) m

section Rules
variable {x : Mem F α} {f : α → Mem F β}

namespace Still

theorem pure (a : α) : Still (pure a : Mem F α) := fun _ => rfl

theorem throw (e : Failure) : Still (throw e : Mem F α) := fun _ => rfl

theorem bind (hx : Still x) (hf : ∀ a, Still (f a)) : Still (x >>= f) := by
  refine fun m => wp_seq (hx m) (fun _ _ he => he) ?_
  rintro a _ rfl
  exact hf a _

theorem failIf (condition : Prop) [Decidable condition] (e : Failure) :
    Still (failIf condition e : Mem F Unit) := by
  intro m
  rw [wp_failIf]
  exact ⟨fun _ => rfl, fun _ => rfl⟩

theorem forM {g : α → Mem F PUnit} (hg : ∀ a, Still (g a)) (xs : List α) : Still (xs.forM g) := by
  induction xs with
  | nil => exact pure _
  | cons x xs ih => exact bind (hg x) fun _ => ih

theorem getHeap : Still (getHeap : Mem F (Heap F)) := fun _ => rfl

theorem deref (id : TensorId) : Still (deref id : Mem F Tensor) := by
  refine getHeap.bind fun h => ?_
  cases h.tensors[id]? with
  | some t => exact pure t
  | none => exact throw _

theorem storageValues (t : Tensor) : Still (storageValues t : Mem F (List F)) := by
  refine getHeap.bind fun h => ?_
  cases h.storages[t.storage]? with
  | some values => exact pure values
  | none => exact throw _

theorem version (t : Tensor) : Still (version t : Mem F Nat) := by
  refine getHeap.bind fun h => ?_
  cases h.counters[t.versionCounter]? with
  | some counter => exact pure _
  | none => exact throw _

end Still

namespace Needs

theorem throw (e : Failure) : Needs (throw e : Mem F α) := fun _ _ => rfl

theorem allocate : Needs (allocate : Mem F Unit) := by
  intro m hfails
  unfold wp Tensora.allocate
  rw [if_pos hfails]

theorem bind (hx : Needs x) : Needs (x >>= f) :=
  fun m hfails => wp_seq (hx m hfails) (fun _ _ he => he) fun _ _ h => h.elim

theorem after (hx : Still x) (hf : ∀ a, Needs (f a)) : Needs (x >>= f) := by
  intro m hfails
  refine wp_seq (hx m) (fun _ _ he => by rw [he]) ?_
  rintro a _ rfl
  exact hf a _ hfails

theorem allocationGuard (operation : String) (hx : Needs x) :
    Needs (allocationGuard operation x) := by
  intro m hfails
  refine wp_tryCatch (hx m hfails) fun e m' hheap => ?_
  cases e <;> exact hheap

end Needs

end Rules

namespace Autograd

theorem still_ensureCpuFloat32 (t : Tensor) (operation : String) :
    Still (ensureCpuFloat32 t operation : Mem F Unit) :=
  (Still.failIf _ _).bind fun _ => .failIf _ _

theorem still_mutableCpuValues (tensor : TensorId) (operation : String) :
    Still (mutableCpuValues tensor operation : Mem F (List F)) :=
  (Still.deref tensor).bind fun t => (still_ensureCpuFloat32 t operation).bind fun _ =>
    (Still.failIf _ _).bind fun _ => (Still.storageValues t).bind fun _ =>
      (Still.failIf _ _).bind fun _ => .pure _

theorem still_validateSavedVersions (node : GradNode) :
    Still (validateSavedVersions node : Mem F Unit) :=
  (Still.failIf _ _).bind fun _ =>
  .forM (fun (p : TensorId × Nat) => (Still.deref p.1).bind fun t =>
    (Still.version t).bind fun _ => .failIf _ _) _

theorem needs_readLogicalCpuValues (tensor : TensorId) (operation : String) :
    Needs (readLogicalCpuValues tensor operation : Mem F (List F)) :=
  .after (.deref tensor) fun t => .after (still_ensureCpuFloat32 t operation) fun _ =>
    .bind (.allocationGuard operation (.after (.failIf _ _) fun _ => .allocate))

section Accumulation
variable [Add F]

theorem needs_accumulate (destination : Option TensorId) (contribution : TensorId) :
    Needs (accumulate destination contribution : Mem F TensorId) := by
  cases destination with
  | none => exact .bind (needs_readLogicalCpuValues contribution _)
  | some destination =>
      exact .bind (.after (.deref _) fun _ => .after (.deref _) fun _ =>
        .after (.failIf _ _) fun _ => .after (still_mutableCpuValues destination _) fun _ =>
          .bind (needs_readLogicalCpuValues contribution _))

end Accumulation

variable [Scalar F]

theorem needs_accumulateLeaf (leaf gradient : TensorId) :
    Needs (accumulateLeaf leaf gradient : Mem F Unit) := by
  refine .after (.deref leaf) fun t => ?_
  cases t.autogradMeta with
  | none => exact .throw _
  | some autogradMeta => exact .bind (needs_accumulate _ gradient)

theorem needs_applyNode (node : GradNode) (upstream : TensorId) :
    Needs (applyNode node upstream : Mem F _) :=
  .after (still_validateSavedVersions node) fun _ => .bind (needs_readLogicalCpuValues upstream _)

theorem wp_sweepStep_needs {sweep : Sweep F} {id upstream : TensorId} {m : Memory F} {t : Tensor}
    {autogradMeta : AutogradMeta} (hg : sweep.gradients id = some upstream)
    (ht : m.heap.tensors[id]? = some t) (hm : t.autogradMeta = some autogradMeta)
    (hwork : (autogradMeta.requiresGrad && autogradMeta.isLeaf) = true ∨ autogradMeta.gradFn ≠ none)
    (hfails : m.allocator.fails m.allocator.count = true) :
    wp (sweepStep sweep id) (fun _ _ => False) (fun _ m' => m'.heap = m.heap) m := by
  unfold sweepStep
  rw [hg]
  refine wp_bind_of_ok (deref_eq ht) ?_
  rw [hm]
  by_cases hleaf : (autogradMeta.requiresGrad && autogradMeta.isLeaf) = true
  · simp only [hleaf, if_true]
    exact (needs_accumulateLeaf id upstream).bind m hfails
  · obtain ⟨node, hnode⟩ := Option.ne_none_iff_exists'.mp (hwork.resolve_left hleaf)
    simp only [hleaf, hnode]
    exact (Needs.after .getHeap fun _ => (needs_applyNode node upstream).bind) m hfails

/-- `Backward` up to a position of its order, with what is left of the order. -/
def backwardFront (root : TensorId) (n : Nat) : Mem F (List TensorId × Sweep F) := do
  let (order, sweep) ← backwardPrefix root
  let sweep ← (order.take n).foldlM sweepStep sweep
  return (order.drop n, sweep)

theorem backwardTrace_front (root : TensorId) (n : Nat) : (backwardTrace root : Mem F _) = do
    let (rest, sweep) ← backwardFront root n
    let sweep ← rest.foldlM sweepStep sweep
    return sweep.applied := by
  rw [backwardTrace_eq, backwardFront, bind_assoc]
  refine congrArg _ (funext fun p => ?_)
  rw [bind_assoc]
  simp only [pure_bind]
  rw [← bind_assoc, ← List.foldlM_append, List.take_append_drop]

theorem formed_backwardFront (root : TensorId) (n : Nat) :
    Formed (backwardFront root n : Mem F _) := by
  refine Formed.bind ?_ fun p => (Formed.foldlM formed_sweepStep _ _).bind fun _ => .pure _
  exact (formed_deref root).bind fun _ => (formed_failIf _ _).bind fun _ =>
    (formed_failIf _ _).bind fun _ => .read (fun _ =>
      (formed_buildTopology _ _ _).bind fun _ => (formed_validateTopology _).bind fun _ =>
        (formed_makeCpuFull _ _).bind fun _ => formed_allocate.bind fun _ => .pure _) fun _ => rfl

end Autograd

section Stops
variable [Scalar F] {h : Heap F} {root : TensorId}

theorem spec_backwardFront (wf : WellFormed h) (hv : h.Visible root) {done rest : List TensorId}
    (horder : h.tape.order root = done ++ rest) :
    Spec (backwardFront root done.length) h
      (fun p h' => p.1 = rest ∧ Sweeping h h' p.2
        (h.tape.flow h.gradientContents root done).gradients
        (h.tape.flow h.gradientContents root done).leaves)
      (fun e _ => backwardReject h root = some e) (fun _ => True) := by
  unfold backwardFront
  refine Spec.bind ((spec_backwardPrefix wf hv).mono (fun _ _ hq => hq) (fun _ _ he => he.2)
    fun _ _ => trivial) ?_
  rintro ⟨order, sweep⟩ h' prepared
  obtain rfl : order = done ++ rest := prepared.order.trans horder
  simp only [List.take_left, List.drop_left]
  refine Spec.bind ((spec_sweepFront wf hv prepared.current prepared.requires prepared.sweeping
    prepared.applied horder).mono (fun _ _ hq => hq) (fun _ _ he => he.elim)
    fun _ _ => trivial) ?_
  rintro sweep' h'' ⟨s, -⟩
  exact spec_pure ⟨rfl, s⟩

omit [Scalar F] in
theorem Backs.has_work {h' : Heap F} (b : Backs h h') (hv : h'.Visible root)
    (hreq : h.requiresGrad root = true) : ∃ t autogradMeta, h'.tensors[root]? = some t ∧
      t.autogradMeta = some autogradMeta ∧
      ((autogradMeta.requiresGrad && autogradMeta.isLeaf) = true ∨ autogradMeta.gradFn ≠ none) := by
  obtain ⟨t, ht⟩ := hv.get
  rw [← b.requiresGrad_eq, Heap.requiresGrad] at hreq
  cases hm : h'.autogradMeta root with
  | none => rw [hm] at hreq; cases hreq
  | some m =>
      rw [hm] at hreq
      have hok := b.wellFormed.recorded root m hm
      refine ⟨t, m, ht, by rw [← Heap.autogradMeta_of ht, hm], ?_⟩
      unfold MetaOk at hok
      cases hn : m.gradFn with
      | none =>
          rw [hn] at hok
          simp only at hok hreq
          exact Or.inl (by rw [hreq, hok]; rfl)
      | some node => exact Or.inr (Option.some_ne_none node)

/-- A call that is not rejected can be stopped at every tensor that requires grad, with the leaves
before it already written. -/
theorem exists_stopped (wf : WellFormed h) (hv : h.Visible root)
    (haccept : backwardReject h root = none) {done rest : List TensorId} {id : TensorId}
    (horder : h.tape.order root = done ++ id :: rest) (hreq : h.requiresGrad id = true) :
    ∃ (a : Allocator) (e : Failure) (m : Memory F), backwardTrace root ⟨h, a⟩ = .error e m ∧
      m.heap.gradientContents = (h.tape.flow h.gradientContents root done).leaves := by
  -- with memory to spare the turn is reached after some number of allocations
  have hfront : wp (backwardFront root done.length) (fun p m => p.1 = id :: rest ∧
      Sweeping h m.heap p.2 (h.tape.flow h.gradientContents root done).gradients
        (h.tape.flow h.gradientContents root done).leaves) (fun _ _ => False)
      ⟨h, ⟨0, fun _ => false⟩⟩ := by
    refine wp_mono (spec_backwardFront wf hv horder ⟨0, fun _ => false⟩) (fun _ _ hq => hq.2) ?_
    rintro e m ⟨-, hreject | ⟨⟨k, -, -, hk⟩, -⟩⟩
    · rw [haccept] at hreject
      cases hreject
    · cases hk
  obtain ⟨⟨left, sweep⟩, m₁, hrun, hleft, s⟩ := ok_of_wp hfront
  obtain ⟨n, r, m', hall⟩ := (formed_backwardFront root done.length).oblivious
    (⟨h, ⟨0, fun _ => false⟩⟩ : Memory F)
  have hlasting := hall ⟨0, fun _ => false⟩ (.refl _ n)
  change backwardFront root done.length ⟨h, ⟨0, fun _ => false⟩⟩ = _ at hlasting
  rw [hrun] at hlasting
  cases r with
  | error e => cases hlasting
  | ok p =>
      obtain ⟨rfl, hm⟩ := EStateM.Result.ok.inj hlasting
      have hheap : m₁.heap = m'.heap := by rw [hm]; rfl
      -- the same allocations, and the next one fails
      let b : Allocator := ⟨0, fun k => k == n⟩
      have hagree : (⟨0, fun _ => false⟩ : Allocator).Agrees b n := by
        intro i hi
        simp only [b, Nat.zero_add, beq_eq_false_iff_ne]
        exact Nat.ne_of_lt hi
      have hstopped : backwardFront root done.length ⟨h, b⟩ =
          .ok (left, sweep) ⟨m'.heap, b.after n⟩ := hall b hagree
      have hfails : (b.after n).fails (b.after n).count = true := by simp [b, Allocator.after]
      have hv' : m'.heap.Visible id := by
        rw [← hheap]
        exact s.backs.visible id (wf.order_visible hv (by rw [horder]; simp))
      obtain ⟨upstream, hup⟩ : ∃ upstream, sweep.gradients id = some upstream := by
        have hsome : ((h.tape.flow h.gradientContents root done).gradients id).isSome = true :=
          Tape.flow_isSome_at wf.tape horder hreq
        rw [← s.held, Option.isSome_map] at hsome
        exact Option.isSome_iff_exists.mp hsome
      obtain ⟨t, autogradMeta, ht, hmeta, hwork⟩ := (hheap ▸ s.backs).has_work hv' hreq
      have hfailed : wp (backwardTrace root) (fun _ _ => False)
          (fun _ m => m.heap = m'.heap) ⟨h, b⟩ := by
        rw [backwardTrace_front root done.length]
        refine wp_bind_of_ok hstopped ?_
        simp only at hleft
        rw [hleft]
        simp only [List.foldlM_cons, bind_assoc]
        exact wp_seq (wp_sweepStep_needs (m := ⟨m'.heap, b.after n⟩) hup ht hmeta hwork hfails)
          (fun _ _ he => he) fun _ _ he => he.elim
      obtain ⟨e, m, hx, hm⟩ := error_of_wp hfailed
      exact ⟨b, e, m, hx, by rw [hm, ← hheap, s.leaves]⟩

end Stops

end Tensora
