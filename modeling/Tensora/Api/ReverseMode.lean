import Tensora.Api.SavedVersions
import Tensora.Autograd.PartialDerivatives

/-! Over exact arithmetic `Backward` adds to every leaf the derivative of the root in it, and
`k` calls add it `k` times. -/
namespace Tensora
open CheckedLoop

variable {K : Type} [Field K] [Given K]

section Heaps
variable {F : Type} {h h' : Heap F}

theorem WellFormed.node_visible (wf : WellFormed h) {id : TensorId} {node : GradNode}
    (hn : h.gradFn id = some node) : h.Visible id := by
  refine ⟨Heap.gradFn_lt hn, fun leaf hg => ?_⟩
  obtain ⟨t, ht, hplain, -⟩ := (wf.owned leaf id hg).tensor
  rw [Heap.gradFn, Heap.autogradMeta_of ht, hplain] at hn
  cases hn

theorem WellFormed.length_gradient (wf : WellFormed h) {leaf : TensorId} {gradient : List F}
    (hg : h.gradientContents leaf = some gradient) : gradient.length = (h.dims leaf).prod := by
  obtain ⟨g, hstored, rfl⟩ := Option.map_eq_some_iff.mp hg
  obtain ⟨t, ht, -, hshape, -⟩ := (wf.owned leaf g hstored).tensor
  rw [wf.length_contents ht, Heap.dims_of ht, hshape]
  rfl

theorem Heap.isLeaf_lt {id : TensorId} (hleaf : h.tape.isLeaf id = true) :
    id < h.tensors.length := by
  by_contra hge
  have hnone : h.requiresGrad id = false := by
    rw [Heap.requiresGrad, Heap.autogradMeta, List.getElem?_eq_none (Nat.not_lt.mp hge)]
    rfl
  simp [Tape.isLeaf, hnone] at hleaf

theorem Backs.isLeaf_eq (b : Backs h h') : h'.tape.isLeaf = h.tape.isLeaf := by
  funext id
  simp only [Tape.isLeaf, Heap.tape, b.requiresGrad_eq, b.gradFn_eq]

theorem Backs.parents_eq (b : Backs h h') : h'.tape.parents = h.tape.parents := by
  funext id
  simp only [Tape.parents, Heap.tape, b.gradFn_eq]

theorem Backs.agree [Field F] (b : Backs h h') (wf : WellFormed h) {root : TensorId}
    (hv : h.Visible root) : Tape.Agree h.tape h'.tape root where
  node := by
    funext id
    simp only [Heap.tape, b.gradFn_eq]
  requiresGrad := funext b.requiresGrad_eq
  dims := fun id hid => b.dims_eq (wf.order_visible hv hid).1
  contents := fun id hid => b.contents id (wf.order_visible hv hid)

end Heaps

def Heap.gradientEntry (h : Heap K) (leaf : TensorId) (i : Nat) : K :=
  Tape.entry (h.gradientContents leaf) i

namespace Api
open ProgramLogic Autograd

variable [Training.FloatBits K] {s₀ s s' : Runtime K K} {handle : Nat} {root : TensorId}

omit [Training.FloatBits K] in
/-- A result that no program wrote to since still has its value, its parents having kept theirs. -/
theorem Since.computed {s₁ : Runtime K K} {id : TensorId} {node : GradNode}
    (h : Since s₁ s id node) (hid : s₁.heap.gradFn id = some node)
    (hresult : ¬WrittenSince s₁ s id) (hparents : ∀ p ∈ node.parents, ¬WrittenSince s₁ s p) :
    s.heap.contents id = forwardValues K (Training.codeFunctions K K) node.operation
      (node.parents.map s.heap.dims) (node.parents.map s.heap.contents) := by
  have hkept : ∀ p, s₁.heap.Visible p → ¬WrittenSince s₁ s p →
      s.heap.contents p = s₁.heap.contents p := by
    intro p hv hnot
    obtain ⟨t, ht⟩ := hv.get
    refine h.evolves.contents p t hv ht (le_antisymm ?_ ?_)
    · exact Nat.not_lt.mp fun hlt => hnot ⟨t, ht, hlt⟩
    · exact h.evolves.mutations.sublist.count_le t.storage
  rw [hkept id (h.ok.wellFormed.node_visible hid) hresult, h.recorded.value]
  congr 1
  · apply List.map_congr_left
    intro p hp
    exact (h.evolves.dims_eq (h.parents p hp).1).symm
  · apply List.map_congr_left
    intro p hp
    exact (hkept p (h.parents p hp) (hparents p hp)).symm

/-- The storage of a tensor was written so often between two states that its version counter, of
64 bits, may have come round. -/
def CameRound (s₁ s₂ : Runtime K K) (p : TensorId) : Prop :=
  ∃ t, s₁.heap.tensors[p]? = some t ∧
    s₁.heap.mutations.count t.storage + 2 ^ 64 ≤ s₂.heap.mutations.count t.storage

omit [Training.FloatBits K] in
theorem Since.unwritten {s₁ s₂ : Runtime K K} {id p : TensorId} {node : GradNode}
    (h : Since s₁ s₂ id node) (ok₂ : s₂.Ok) (hp : p ∈ node.parents) (hround : ¬CameRound s₁ s₂ p)
    (heq : s₂.heap.version p = s₁.heap.version p) : ¬WrittenSince s₁ s₂ p := by
  obtain ⟨t, ht⟩ := (h.parents p hp).get
  obtain ⟨m, ht₂⟩ := h.evolves.tensors p t ht
  have hle := h.evolves.mutations.sublist.count_le t.storage
  have hlt : s₂.heap.mutations.count t.storage < s₁.heap.mutations.count t.storage + 2 ^ 64 :=
    Nat.not_le.mp fun hge => hround ⟨t, ht, hge⟩
  rw [ok₂.versioned.version ok₂.wellFormed ht₂, h.ok.versioned.version h.ok.wellFormed ht] at heq
  change s₂.heap.mutations.count t.storage % _ = _ at heq
  rintro ⟨t', ht', hwritten⟩
  obtain rfl := Option.some.inj (ht.symm.trans ht')
  omega

/-- What the root is computed from is as it was recorded: no cross-entropy loss, no operand whose
version may have come round since it was used, and no result written since it was recorded. -/
structure Undisturbed (s₀ s : Runtime K K) (calls : List (Call K K)) (root : TensorId) : Prop where
  loss : ∀ id node, PostOrder.Reaches s.heap.tape.parents root id →
    s.heap.gradFn id = some node → node.operation ≠ .crossEntropy
  operands : ∀ id node p front call back, PostOrder.Reaches s.heap.tape.parents root id →
    s.heap.gradFn id = some node → p ∈ node.parents → calls = front ++ call :: back →
    CreatedBy s₀ front call id → ¬CameRound (after (run s₀ front) call) s p
  results : ∀ id node front call back, PostOrder.Reaches s.heap.tape.parents root id →
    id ≠ root → s.heap.gradFn id = some node → calls = front ++ call :: back →
    CreatedBy s₀ front call id → ¬WrittenSince (after (run s₀ front) call) s id

theorem Undisturbed.computed {calls : List (Call K K)}
    (hinitial : ∃ fails files, s₀ = Runtime.initial fails files) (hs : s = run s₀ calls)
    (hv : s.heap.Visible root) (hkept : Undisturbed s₀ s calls root) (hsaved : Saved s.heap root) :
    s.heap.tape.Computed root := by
  obtain ⟨fails, files, hinitial⟩ := hinitial
  have ok₀ : s₀.Ok := hinitial ▸ ok_initial fails files
  have ok : s.Ok := hs ▸ (run_evolves ok₀ calls).1
  have wf := ok.wellFormed
  have hnode : ∀ id operation parents, s.heap.tape.node id = some (operation, parents) →
      ∃ node, s.heap.gradFn id = some node ∧ node.operation = operation ∧
        node.parents = parents := by
    intro id operation parents hn
    obtain ⟨node, hgradFn, heq⟩ := Option.map_eq_some_iff.mp hn
    cases heq
    exact ⟨node, hgradFn, rfl, rfl⟩
  refine ⟨fun id hid operation parents hn => ?_, fun id hid hne operation parents hn => ?_,
    fun id hid => ?_⟩
  · obtain ⟨node, hgradFn, rfl, rfl⟩ := hnode id operation parents hn
    exact hkept.loss id node ((Tape.mem_order wf.tape).mp hid) hgradFn
  · obtain ⟨node, hgradFn, rfl, rfl⟩ := hnode id operation parents hn
    have hreach := (Tape.mem_order wf.tape).mp hid
    obtain ⟨front, call, back, hcalls, hcreated⟩ :=
      exists_createdBy (hinitial ▸ Nat.zero_le id : s₀.heap.tensors.length ≤ id)
        (hs ▸ Heap.gradFn_lt hgradFn)
    have hsince := hcreated.since ok₀ (hcalls ▸ hs ▸ hgradFn)
    rw [← hcalls, ← hs] at hsince
    have hfn : (after (run s₀ front) call).heap.gradFn id = some node := by
      rw [← hsince.evolves.gradFn id hcreated.2, hgradFn]
    have hversions : node.parents.map s.heap.version =
        node.parents.map (after (run s₀ front) call).heap.version := by
      rw [← hsaved id hreach node hgradFn, hsince.recorded.versions]
    refine hsince.computed hfn
      (hkept.results id node front call back hreach hne hgradFn hcalls hcreated) fun p hp => ?_
    exact hsince.unwritten ok hp
      (hkept.operands id node p front call back hreach hgradFn hp hcalls hcreated)
      (List.map_inj_left.mp hversions p hp)
  · obtain ⟨t, ht⟩ := (wf.order_visible hv hid).get
    exact wf.length_contents ht

omit [Field K] [Given K] [Training.FloatBits K] in
theorem visible_of_forall₂ (ok : s.Ok) {handles roots : List Nat}
    (hroots : List.Forall₂ (fun handle root => s.objectOf handle .tensor = some root) handles roots)
    (hmem : root ∈ roots) : s.heap.Visible root := by
  induction hroots with
  | nil => cases hmem
  | cons hobject _ ih =>
      rcases List.mem_cons.mp hmem with rfl | hrest
      · exact ok.visible hobject
      · exact ih hrest

theorem ok_of_initial {calls : List (Call K K)}
    (hinitial : ∃ fails files, s₀ = Runtime.initial fails files) (hs : s = run s₀ calls) :
    s.Ok := by
  obtain ⟨fails, files, rfl⟩ := hinitial
  exact hs ▸ (run_evolves (ok_initial fails files) calls).1

omit [Field K] [Given K] [Training.FloatBits K] in
theorem saved_of_backs {h h' : Heap K} (b : Backs h h') (wf : WellFormed h)
    (hsaved : Saved h' root) : Saved h root := by
  intro id hreach node hn
  rw [hsaved id (by rwa [b.parents_eq]) node ((b.gradFn_eq id).trans hn)]
  apply List.map_congr_left
  intro p hp
  exact b.version_eq wf (wf.parent_visible hn hp).1

theorem accepted_of_returns (ok : s.Ok) (hroot : s.objectOf handle .tensor = some root)
    (hreturns : returns s (.tensorBackward handle) = true) :
    backwardReject s.heap root = none := by
  have hspec := spec_backwardTrace ok.wellFormed (ok.visible hroot) s.memory.allocator
  obtain ⟨reply, hexec⟩ := ok_of_returns hreturns
  rw [exec_tensorBackward hroot] at hexec
  cases hb : backwardTrace root s.memory with
  | error e m => rw [hb] at hexec; cases hexec
  | ok trace m => exact (wp_of_ok hspec hb).2.1

/-- What calls of `Backward` on some roots do: to every leaf they add the derivatives, and every
other gradient stays. -/
structure Accumulated (slope : Operation → K → K) (s s' : Runtime K K) (roots : List TensorId) :
    Prop where
  ok : s'.Ok
  objects : ∀ handle, s'.objectOf handle .tensor = s.objectOf handle .tensor
  backs : Backs s.heap s'.heap
  added : ∀ leaf, s.heap.tape.isLeaf leaf = true → ∀ i < (s.heap.dims leaf).prod,
    s'.heap.gradientEntry leaf i = s.heap.gradientEntry leaf i +
      (roots.map fun root => s.heap.tape.derivative slope root leaf i).sum
  others : ∀ id, (∀ root ∈ roots, PostOrder.Reaches s.heap.tape.parents root id →
    s.heap.tape.isLeaf id = false) → s'.heap.gradientContents id = s.heap.gradientContents id

variable {slope : Operation → K → K} {roots : List TensorId}

theorem backward_differentiates (given : GivenSlopes slope) (ok : s.Ok)
    (hroot : s.objectOf handle .tensor = some root) (c : s.heap.tape.Computed root)
    (hreturns : returns s (.tensorBackward handle) = true) :
    Accumulated slope s (after s (.tensorBackward handle)) [root] ∧
      ∃ trace m, backwardTrace root s.memory = .ok trace m ∧
        s.heap.tape.AppliedOnce root trace := by
  have hv := ok.visible hroot
  have wf := ok.wellFormed
  have hspec := spec_backwardTrace wf hv s.memory.allocator
  have ok' := (after_moves ok (.tensorBackward handle)).1
  obtain ⟨reply, hexec⟩ := ok_of_returns hreturns
  rw [exec_tensorBackward hroot] at hexec
  cases hb : backwardTrace root s.memory with
  | error e m => rw [hb] at hexec; cases hexec
  | ok trace m =>
      rw [hb] at hexec
      have hafter : after s (.tensorBackward handle) = { s with memory := m } := by
        injection hexec with _ hstate
        exact hstate.symm
      rw [hafter] at ok' ⊢
      obtain ⟨-, haccept, hbacks, hleaves, htrace⟩ := wp_of_ok hspec hb
      have hsize := ((backwardReject_none ok root).mp haccept).1
      refine ⟨⟨ok', fun _ => rfl, hbacks, fun leaf hleaf i hi => ?_, fun id hkeep => ?_⟩, trace, m,
        rfl, htrace ▸ Tape.appliedOnce wf.tape⟩
      · rw [List.map_singleton, List.sum_singleton]
        change Tape.entry (m.heap.gradientContents leaf) i = _
        rw [hleaves]
        exact Tape.sweep_leaf given wf.tape c hsize hleaf
          (fun gradient hg => wf.length_gradient hg) hi
      · change m.heap.gradientContents id = _
        rw [hleaves]
        refine Tape.flow_leaves_of_notMem fun hid => ?_
        exact hkeep root List.mem_cons_self ((Tape.mem_order wf.tape).mp hid)

omit [Training.FloatBits K] in
theorem Accumulated.refl (ok : s.Ok) : Accumulated slope s s [] where
  ok := ok
  objects := fun _ => rfl
  backs := Backs.refl ok.wellFormed
  added := by
    intro leaf _ i _
    rw [List.map_nil, List.sum_nil, add_zero]
  others := fun _ _ => rfl

omit [Training.FloatBits K] in
theorem Accumulated.trans {s'' : Runtime K K} (a : Accumulated slope s s' [root])
    (b : Accumulated slope s' s'' roots) (ok : s.Ok)
    (hvisible : ∀ root ∈ roots, s.heap.Visible root) :
    Accumulated slope s s'' (root :: roots) where
  ok := b.ok
  objects := fun handle => (b.objects handle).trans (a.objects handle)
  backs := a.backs.trans b.backs
  added := by
    intro leaf hleaf i hi
    have hderivatives : (roots.map fun root => s'.heap.tape.derivative slope root leaf i) =
        roots.map fun root => s.heap.tape.derivative slope root leaf i := by
      apply List.map_congr_left
      intro root hmem
      exact (a.backs.agree ok.wellFormed (hvisible root hmem)).derivative ok.wellFormed.tape
        a.ok.wellFormed.tape leaf i
    have hdims : s'.heap.dims leaf = s.heap.dims leaf := a.backs.dims_eq (Heap.isLeaf_lt hleaf)
    have hleaf' : s'.heap.tape.isLeaf leaf = true := by rwa [a.backs.isLeaf_eq]
    rw [b.added leaf hleaf' i (by rwa [hdims]), a.added leaf hleaf i hi, hderivatives,
      List.map_singleton, List.sum_singleton, List.map_cons, List.sum_cons, add_assoc]
  others := by
    intro id hkeep
    have hrest : s''.heap.gradientContents id = s'.heap.gradientContents id := by
      apply b.others
      intro root hmem hreach
      rw [a.backs.isLeaf_eq]
      rw [a.backs.parents_eq] at hreach
      exact hkeep root (List.mem_cons_of_mem _ hmem) hreach
    rw [hrest]
    apply a.others
    intro root' hmem hreach
    rw [List.mem_singleton.mp hmem] at hreach
    exact hkeep root List.mem_cons_self hreach

def backwards (s : Runtime K K) (handles : List Nat) : Runtime K K :=
  run s (handles.map .tensorBackward)

def AllReturn (s : Runtime K K) (handles : List Nat) : Prop :=
  ∀ n (h : n < handles.length),
    returns (backwards s (handles.take n)) (.tensorBackward (handles.get ⟨n, h⟩)) = true

theorem backwards_accumulate (given : GivenSlopes slope) (ok : s.Ok) {handles : List Nat}
    (hroots : List.Forall₂ (fun handle root => s.objectOf handle .tensor = some root) handles roots)
    (hcomputed : ∀ root ∈ roots, Saved s.heap root → s.heap.tape.Computed root)
    (hreturns : AllReturn s handles) : Accumulated slope s (backwards s handles) roots := by
  induction handles generalizing s roots with
  | nil =>
      cases hroots
      exact .refl ok
  | cons handle handles ih =>
      obtain ⟨root, roots, hroot, hrest, rfl⟩ := List.forall₂_cons_left_iff.mp hroots
      have hfirst := hreturns 0 (Nat.zero_lt_succ _)
      have hsaved := ((backwardReject_none ok root).mp (accepted_of_returns ok hroot hfirst)).2.2
      have first := (backward_differentiates given ok hroot
        (hcomputed root List.mem_cons_self hsaved) hfirst).1
      have hvisible : ∀ root ∈ roots, s.heap.Visible root := by
        intro root hmem
        exact visible_of_forall₂ ok hrest hmem
      refine first.trans (ih first.ok ?_ ?_ fun n h => ?_) ok hvisible
      · exact hrest.imp fun _ _ hobject => (first.objects _).trans hobject
      · intro root hmem hlater
        have hbefore := saved_of_backs first.backs ok.wellFormed hlater
        exact (first.backs.agree ok.wellFormed (hvisible root hmem)).computed ok.wellFormed.tape
          (hcomputed root (List.mem_cons_of_mem _ hmem) hbefore)
      · exact hreturns (n + 1) (Nat.succ_lt_succ h)

/-- Any calls of `Backward` in a row that return, on whichever roots, add to every entry of every
leaf the derivatives of all the roots in it, and leave every other gradient as it is. -/
theorem gradients_accumulate (given : GivenSlopes slope) {calls : List (Call K K)}
    (hinitial : ∃ fails files, s₀ = Runtime.initial fails files) (hs : s = run s₀ calls)
    {handles : List Nat}
    (hroots : List.Forall₂ (fun handle root => s.objectOf handle .tensor = some root) handles roots)
    (hkept : ∀ root ∈ roots, Undisturbed s₀ s calls root) (hreturns : AllReturn s handles) :
    (∀ leaf, s.heap.tape.isLeaf leaf = true → ∀ i < (s.heap.dims leaf).prod,
      (backwards s handles).heap.gradientEntry leaf i = s.heap.gradientEntry leaf i +
        (roots.map fun root => s.heap.tape.derivative slope root leaf i).sum) ∧
    (∀ id, (∀ root ∈ roots, PostOrder.Reaches s.heap.tape.parents root id →
      s.heap.tape.isLeaf id = false) →
        (backwards s handles).heap.gradientContents id = s.heap.gradientContents id) := by
  have ok : s.Ok := ok_of_initial hinitial hs
  have acc := backwards_accumulate given ok hroots (fun root hmem hsaved =>
    (hkept root hmem).computed hinitial hs (visible_of_forall₂ ok hroots hmem) hsaved) hreturns
  exact ⟨acc.added, acc.others⟩

/-- However the graph was recorded, and however its operands are shared, `k` calls of `Backward`
that return add to every entry of every leaf `k` times the forward-mode derivative of the root in
it; each call applies every reachable node once, after all of its consumers. -/
theorem backward_adds_derivative (given : GivenSlopes slope) {calls : List (Call K K)}
    (hinitial : ∃ fails files, s₀ = Runtime.initial fails files) (hs : s = run s₀ calls)
    (hroot : s.objectOf handle .tensor = some root) (hkept : Undisturbed s₀ s calls root) (k : Nat)
    (hreturns : ∀ j < k,
      returns (backwards s (List.replicate j handle)) (.tensorBackward handle) = true) :
    (∀ leaf, s.heap.tape.isLeaf leaf = true → ∀ i < (s.heap.dims leaf).prod,
      (backwards s (List.replicate k handle)).heap.gradientEntry leaf i =
        s.heap.gradientEntry leaf i + k * s.heap.tape.derivative slope root leaf i) ∧
    (∀ j < k, ∃ trace m,
      backwardTrace root (backwards s (List.replicate j handle)).memory = .ok trace m ∧
        s.heap.tape.AppliedOnce root trace) := by
  have ok : s.Ok := ok_of_initial hinitial hs
  have hv := ok.visible hroot
  have hacc : ∀ j ≤ k, Accumulated slope s (backwards s (List.replicate j handle))
      (List.replicate j root) := by
    intro j hj
    refine backwards_accumulate given ok ?_ ?_ fun n hn => ?_
    · exact List.forall₂_iff_get.mpr ⟨by simp, fun i _ _ => by simpa using hroot⟩
    · intro id hmem hsaved
      obtain rfl := (List.mem_replicate.mp hmem).2
      exact hkept.computed hinitial hs hv hsaved
    · rw [List.length_replicate] at hn
      rw [List.take_replicate, Nat.min_eq_left hn.le]
      simpa using hreturns n (hn.trans_le hj)
  refine ⟨fun leaf hleaf i hi => ?_, fun j hj => ?_⟩
  · rw [(hacc k (Nat.le_refl k)).added leaf hleaf i hi, List.map_replicate, List.sum_replicate,
      nsmul_eq_mul]
  · have acc := hacc j hj.le
    have hroot' := (acc.objects handle).trans hroot
    have hsaved' :=
      ((backwardReject_none acc.ok root).mp (accepted_of_returns acc.ok hroot' (hreturns j hj))).2.2
    have c := hkept.computed hinitial hs hv (saved_of_backs acc.backs ok.wellFormed hsaved')
    have hagree := acc.backs.agree ok.wellFormed hv
    obtain ⟨trace, m, htrace, happlied⟩ := (backward_differentiates given acc.ok hroot'
      (hagree.computed ok.wellFormed.tape c) (hreturns j hj)).2
    exact ⟨trace, m, htrace, hagree.appliedOnce happlied⟩

theorem undisturbed_of_unwritten {calls : List (Call K K)} (hnone : s.heap.mutations = [])
    (hloss : ∀ id node, s.heap.gradFn id = some node → node.operation ≠ .crossEntropy) :
    Undisturbed s₀ s calls root where
  loss := fun id node _ hn => hloss id node hn
  operands := by
    rintro id node p front call back - - - - - ⟨t, -, hge⟩
    rw [hnone, List.count_nil] at hge
    omega
  results := by
    rintro id node front call back - - - - - ⟨t, -, hlt⟩
    rw [hnone, List.count_nil] at hlt
    omega

/-- The derivative of ReLU away from zero, and the factors of the code for the other activations. -/
def stepSlope (operation : Operation) (x : ℚ) : ℚ :=
  if operation = .relu then if 0 < x then 1 else 0 else activationFactor operation x

theorem given_stepSlope : GivenSlopes stepSlope := by
  intro operation _ x
  unfold stepSlope
  split
  · rename_i hrelu
    have hless : Scalar.less 0 x = decide (0 < x) := rfl
    simp [hrelu, activationFactor, hless]
  · rfl

/-- `relu x * x`, summed, and `x`, summed: the leaf is an operand of three nodes. -/
def rectifiedCalls : List (Call ℚ ℚ) := [.tensorFromF32 [2, -3] [2],
  .tensorWithRequiresGrad 1 true, .tensorRelu 2, .tensorMultiply 3 2, .tensorSum 4, .tensorSum 2]

theorem unrecorded_loss {h : Heap ℚ} {n : Nat} (hlength : h.tensors.length = n)
    (hall : ∀ id < n, ∀ node, h.gradFn id = some node → node.operation ≠ .crossEntropy) :
    ∀ id node, h.gradFn id = some node → node.operation ≠ .crossEntropy := by
  intro id node hn
  have hlt := Heap.gradFn_lt hn
  rw [hlength] at hlt
  exact hall id hlt node hn

/-- One call on each of the two sums, and another on the first. -/
theorem gradients_accumulate_rectified : let s := rationalRun rectifiedCalls
    (backwards s [5, 6, 5]).heap.gradientEntry 1 0 = 0 + (4 + (1 + (4 + 0))) ∧
      (backwards s [5, 6, 5]).heap.gradientContents 2 = s.heap.gradientContents 2 := by
  intro s
  have hlength : s.heap.tensors.length = 6 := by decide +kernel
  have hnone : s.heap.mutations = [] := by decide +kernel
  have hloss := unrecorded_loss hlength (by decide +kernel)
  have hroots : List.Forall₂ (fun handle root => s.objectOf handle .tensor = some root) [5, 6, 5]
      [4, 5, 4] := .cons (by decide +kernel) (.cons (by decide +kernel)
    (.cons (by decide +kernel) .nil))
  have hreturns : AllReturn s [5, 6, 5] := by
    unfold AllReturn
    decide +kernel
  obtain ⟨hadded, hothers⟩ := gradients_accumulate (s := s) given_stepSlope ⟨_, _, rfl⟩ rfl hroots
    (fun root _ => undisturbed_of_unwritten hnone hloss) hreturns
  have hentry := hadded 1 (by decide +kernel) 0 (by decide +kernel)
  have hfirst : s.heap.tape.derivative stepSlope 4 1 0 = 4 := by decide +kernel
  have hsecond : s.heap.tape.derivative stepSlope 5 1 0 = 1 := by decide +kernel
  have hstart : s.heap.gradientEntry 1 0 = 0 := by decide +kernel
  simp only [List.map_cons, List.map_nil, List.sum_cons, List.sum_nil, hfirst, hsecond, hstart]
    at hentry
  refine ⟨hentry, hothers 2 fun root _ _ => ?_⟩
  decide +kernel

/-- Two calls on the same root, at `x = 2` and at `x = -3`. -/
theorem backward_adds_derivative_rectified : let s := rationalRun rectifiedCalls
    (backwards s (List.replicate 2 5)).heap.gradientEntry 1 0 = 0 + (2 : Nat) * 4 ∧
      (backwards s (List.replicate 2 5)).heap.gradientEntry 1 1 = 0 + (2 : Nat) * 0 := by
  intro s
  have hlength : s.heap.tensors.length = 6 := by decide +kernel
  have hnone : s.heap.mutations = [] := by decide +kernel
  have hloss := unrecorded_loss hlength (by decide +kernel)
  have hreturns : ∀ j < 2,
      returns (backwards s (List.replicate j 5)) (.tensorBackward 5) = true := by decide +kernel
  have hroot : s.objectOf 5 .tensor = some 4 := by decide +kernel
  obtain ⟨hadded, -⟩ := backward_adds_derivative (s := s) given_stepSlope ⟨_, _, rfl⟩ rfl hroot
    (undisturbed_of_unwritten hnone hloss) 2 hreturns
  have hpositive := hadded 1 (by decide +kernel) 0 (by decide +kernel)
  have hnegative := hadded 1 (by decide +kernel) 1 (by decide +kernel)
  have hfirst : s.heap.tape.derivative stepSlope 4 1 0 = 4 := by decide +kernel
  have hsecond : s.heap.tape.derivative stepSlope 4 1 1 = 0 := by decide +kernel
  have hstart : s.heap.gradientEntry 1 0 = 0 ∧ s.heap.gradientEntry 1 1 = 0 := by decide +kernel
  rw [hfirst, hstart.1] at hpositive
  rw [hsecond, hstart.2] at hnegative
  exact ⟨hpositive, hnegative⟩

/-- `y = x * x` is assigned 7 before it is multiplied with `x` once more. -/
def overwrittenCalls : List (Call ℚ ℚ) := [.tensorFromF32 [2] [1], .tensorWithRequiresGrad 1 true,
  .tensorMultiply 2 2, .tensorFromF32 [7] [1], .tensorAssignMany (some [3]) (some [4]) 1,
  .tensorMultiply 3 2, .tensorSum 5]

def powerCalls : List (Call ℚ ℚ) := [.tensorFromF32 [2] [1], .tensorWithRequiresGrad 1 true,
  .tensorMultiply 2 2, .tensorMultiply 3 3, .tensorFromF32 [7] [1]]

def assignLeaf : Call ℚ ℚ := .tensorAssignMany (some [2]) (some [5]) 1

def powerHeap (version : Nat) (x : ℚ) (written : List StorageId) : Heap ℚ :=
  let single (i : Nat) (m : Option AutogradMeta) : Tensor :=
    ⟨⟨[1], [1], 1, 4⟩, i, .float32, .cpu, 0, 0, i, m⟩
  let product (operand : TensorId) : AutogradMeta :=
    ⟨true, false, none, some ⟨.multiply, [operand, operand], [0, 0]⟩⟩
  ⟨[[2], [x], [4], [16], [7]], [⟨0, 1⟩, ⟨version, 2⟩, ⟨0, 3⟩, ⟨0, 4⟩, ⟨0, 5⟩],
    [single 0 none, single 1 (some ⟨true, true, none, none⟩), single 2 (some (product 1)),
      single 3 (some (product 2)), single 4 none], 6, 20, written, 5⟩

def powerRegistry : HandleRegistry where
  entries := [(5, ⟨.tensor, 1, 4⟩), (4, ⟨.tensor, 1, 3⟩), (3, ⟨.tensor, 1, 2⟩),
    (2, ⟨.tensor, 1, 1⟩), (1, ⟨.tensor, 1, 0⟩)]
  nextHandle := 6

def powerAt (s : Runtime ℚ ℚ) (version : Nat) (x : ℚ) (written : List StorageId) (count : Nat) :
    Runtime ℚ ℚ :=
  { s with
    memory := ⟨powerHeap version x written, ⟨count, fun _ => false⟩⟩
    registry := powerRegistry }

theorem powerAt_self {s : Runtime ℚ ℚ} {count : Nat} (hheap : s.memory.heap = powerHeap 0 2 [])
    (hregistry : s.registry = powerRegistry)
    (hallocator : s.memory.allocator = ⟨count, fun _ => false⟩) : powerAt s 0 2 [] count = s := by
  rw [powerAt, ← hheap, ← hregistry, ← hallocator]

theorem after_assignLeaf (s : Runtime ℚ ℚ) (version : Nat) (x : ℚ) (written : List StorageId)
    (count : Nat) : after (powerAt s version x written count) assignLeaf =
      powerAt s (add64 version 1) 7 (1 :: written) (count + 6) := rfl

theorem run_assignLeaf (s : Runtime ℚ ℚ) (x : ℚ) (count n : Nat) : ∃ written count',
    run (powerAt s 0 x [] count) (List.replicate (n + 1) assignLeaf) =
      powerAt s ((n + 1) % 2 ^ 64) 7 written count' := by
  induction n with
  | zero =>
      refine ⟨[1], count + 6, ?_⟩
      rw [List.replicate_one, run, List.foldl_cons, List.foldl_nil, after_assignLeaf]
      rfl
  | succ n ih =>
      obtain ⟨written, count', hrun⟩ := ih
      refine ⟨1 :: written, count' + 6, ?_⟩
      rw [List.replicate_succ', run, List.foldl_append]
      change after (run (powerAt s 0 x [] count) (List.replicate (n + 1) assignLeaf)) assignLeaf = _
      rw [hrun, after_assignLeaf, add64, Nat.mod_add_mod]

/-- A run to that state, and 2^64 assignments of its leaf. -/
def roundRun : Runtime ℚ ℚ := run (rationalRun powerCalls) (List.replicate (2 ^ 64) assignLeaf)

theorem roundRun_eq : ∃ s written count, roundRun = powerAt s 0 7 written count := by
  obtain ⟨count, hcount⟩ : ∃ count, (rationalRun powerCalls).memory.allocator =
      ⟨count, fun _ => false⟩ := by
    obtain ⟨count, h⟩ := run_allocator (Runtime.initial (fun _ => false) emptyDisk) powerCalls
    unfold rationalRun
    exact ⟨0 + count, h⟩
  have hheap : (rationalRun powerCalls).memory.heap = powerHeap 0 2 [] := by decide +kernel
  have hregistry : (rationalRun powerCalls).registry = powerRegistry := by decide +kernel
  have hself := powerAt_self hheap hregistry hcount
  obtain ⟨written, count', hrun⟩ := run_assignLeaf (rationalRun powerCalls) 2 count (2 ^ 64 - 1)
  rw [hself, Nat.sub_add_cancel Nat.one_le_two_pow, Nat.mod_self] at hrun
  exact ⟨_, written, count', hrun⟩

/-- `Backward` accepts both graphs. In the first it adds 7 + 2 * 2 * 2 where the derivative of
`x * x * x` is 12; in the second, where 2^64 writes have brought the version of `x` round, it
multiplies `2 * x` with the square of the old value. -/
theorem derivative_missed : GivenSlopes stepSlope ∧
    (let s := rationalRun overwrittenCalls
    returns s (.tensorBackward 6) = true ∧ s.objectOf 6 .tensor = some 5 ∧
      s.heap.tape.isLeaf 1 = true ∧ s.heap.tape.derivative stepSlope 5 1 0 = 12 ∧
      s.heap.gradientEntry 1 0 = 0 ∧ (after s (.tensorBackward 6)).heap.gradientEntry 1 0 = 15) ∧
    returns roundRun (.tensorBackward 4) = true ∧ roundRun.objectOf 4 .tensor = some 3 ∧
      roundRun.heap.tape.isLeaf 1 = true ∧ roundRun.heap.tape.derivative stepSlope 3 1 0 = 1372 ∧
      roundRun.heap.gradientEntry 1 0 = 0 ∧
      (after roundRun (.tensorBackward 4)).heap.gradientEntry 1 0 = 112 := by
  refine ⟨given_stepSlope, by decide +kernel, ?_⟩
  have hstart : Reachable (rationalRun powerCalls) := ⟨_, _, _, rfl⟩
  have ok : roundRun.Ok := (hstart.run _).ok
  have hmem : Lasting roundRun := (lasting_rationalRun powerCalls).run _
  obtain ⟨s, written, count, hround⟩ := roundRun_eq
  generalize roundRun = r at *
  have hroot : r.objectOf 4 .tensor = some 3 := by rw [hround]; rfl
  have htape : r.heap.tape = (powerHeap 0 7 []).tape := by rw [hround]; rfl
  have hgradients : r.heap.gradientContents = (powerHeap 0 7 []).gradientContents := by
    rw [hround]
    rfl
  have haccept : backwardReject r.heap 3 = none := by rw [hround]; rfl
  have hentry : r.heap.gradientEntry 1 0 = 0 := by
    rw [Heap.gradientEntry, hgradients]
    decide +kernel
  have hoverwritten :
      Tape.entry ((r.heap.tape.sweep r.heap.gradientContents 3).leaves 1) 0 = 112 := by
    rw [htape, hgradients]
    decide +kernel
  have houtcome := backward_outcome ok hmem (ok.visible hroot)
  have hexec := exec_tensorBackward (D := ℚ) hroot
  cases hb : backwardTrace 3 r.memory with
  | error e m =>
      have hreject := (wp_of_error houtcome hb).2
      rw [haccept] at hreject
      cases hreject
  | ok trace m =>
      rw [hb] at hexec
      refine ⟨?_, hroot, ?_, ?_, hentry, ?_⟩
      · rw [returns, hexec]
      · rw [htape]
        decide +kernel
      · rw [htape]
        decide +kernel
      · rw [after, hexec]
        change Tape.entry (m.heap.gradientContents 1) 0 = 112
        rw [(wp_of_ok houtcome hb).2.2.1]
        exact hoverwritten

/-- Over the reals the amount added is the partial derivative of the recorded expression. -/
theorem backward_adds_partial [Given ℝ] [Training.FloatBits ℝ] (a : StandardFunctions)
    (o : RealOrder) {s₀ s : Runtime ℝ ℝ} {calls : List (Call ℝ ℝ)}
    (hinitial : ∃ fails files, s₀ = Runtime.initial fails files) (hs : s = run s₀ calls)
    (hroot : s.objectOf handle .tensor = some root) (hkept : Undisturbed s₀ s calls root)
    (smooth : s.heap.tape.Smooth root)
    (hreturns : returns s (.tensorBackward handle) = true) :
    ∀ leaf, s.heap.tape.isLeaf leaf = true → ∀ i < (s.heap.dims leaf).prod,
      HasDerivAt (fun v => (s.heap.tape.evaluate (s.heap.tape.moved leaf i v) root).getD 0 0)
        ((after s (.tensorBackward handle)).heap.gradientEntry leaf i -
          s.heap.gradientEntry leaf i) ((s.heap.contents leaf).getD i 0) := by
  intro leaf hleaf i hi
  have ok : s.Ok := ok_of_initial hinitial hs
  have given : GivenSlopes (Autograd.activationFactor (F := ℝ)) := fun _ _ _ => rfl
  have hsaved := ((backwardReject_none ok root).mp (accepted_of_returns ok hroot hreturns)).2.2
  have c := hkept.computed hinitial hs (ok.visible hroot) hsaved
  have step := (backward_differentiates given ok hroot c hreturns).1
  rw [step.added leaf hleaf i hi, List.map_singleton, List.sum_singleton, add_sub_cancel_left]
  exact Tape.hasDerivAt_evaluate given a o ok.wellFormed.tape c smooth hi

omit [Field K] [Given K] [Training.FloatBits K] in
theorem smooth_of_noRelu {h : Heap ℝ} {root : TensorId}
    (hnone : ∀ id node, h.gradFn id = some node → node.operation ≠ .relu) :
    h.tape.Smooth root := by
  intro id _ parents hn
  obtain ⟨node, hgradFn, heq⟩ := Option.map_eq_some_iff.mp hn
  exact absurd (Prod.mk.inj heq).1 (hnone id node hgradFn)

section Gated

@[reducible] noncomputable local instance realFunctions : Given ℝ := standardGiven

noncomputable local instance realBits : Training.FloatBits ℝ where
  bits _ := 0
  ofBits _ := 0

noncomputable def gatedCalls : List (Call ℝ ℝ) := [.tensorFromF32 [1, 0] [2],
  .tensorWithRequiresGrad 1 true, .tensorSigmoid 2, .tensorMultiply 2 3, .tensorSum 4]

noncomputable def gatedRun : Runtime ℝ ℝ :=
  run (Runtime.initial (fun _ => false) emptyDisk) gatedCalls

theorem backward_adds_partial_gated :
    HasDerivAt (fun v => (gatedRun.heap.tape.evaluate (gatedRun.heap.tape.moved 1 0 v) 4).getD 0 0)
      ((after gatedRun (.tensorBackward 5)).heap.gradientEntry 1 0 -
        gatedRun.heap.gradientEntry 1 0) ((gatedRun.heap.contents 1).getD 0 0) := by
  have o : RealOrder := fun x y => decide_eq_true_iff
  have hlength : gatedRun.heap.tensors.length = 5 := by decide +kernel
  have hnone : gatedRun.heap.mutations.length = 0 := by decide +kernel
  have hall : ∀ id < 5, (gatedRun.heap.gradFn id).all fun node =>
      decide (node.operation ≠ .crossEntropy ∧ node.operation ≠ .relu) := by decide +kernel
  have hoperation : ∀ id node, gatedRun.heap.gradFn id = some node →
      node.operation ≠ .crossEntropy ∧ node.operation ≠ .relu := by
    intro id node hn
    have hlt := Heap.gradFn_lt hn
    rw [hlength] at hlt
    simpa [hn] using hall id hlt
  have hkept : Undisturbed (Runtime.initial (fun _ => false) emptyDisk) gatedRun gatedCalls 4 :=
    undisturbed_of_unwritten (List.length_eq_zero_iff.mp hnone) fun id node hn =>
      (hoperation id node hn).1
  have smooth : gatedRun.heap.tape.Smooth 4 :=
    smooth_of_noRelu fun id node hn => (hoperation id node hn).2
  have hroot : gatedRun.objectOf 5 .tensor = some 4 := by decide +kernel
  have hreturns : returns gatedRun (.tensorBackward 5) = true := by decide +kernel
  have hleaf : gatedRun.heap.tape.isLeaf 1 = true := by decide +kernel
  have hsize : 0 < (gatedRun.heap.dims 1).prod := by decide +kernel
  exact backward_adds_partial (s := gatedRun) standardFunctions o ⟨_, _, rfl⟩ rfl hroot
    hkept smooth hreturns 1 hleaf 0 hsize

end Gated

end Api

end Tensora
