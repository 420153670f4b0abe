import Tensora.Autograd.ForwardMode

/-! What a reverse sweep adds to a leaf is the forward-mode derivative of the root. -/
namespace Tensora
open CheckedLoop Finset TrivSqZeroExt

variable {K : Type} [Field K] [Given K]

namespace Tape
variable {t : Tape K} {root : TensorId} {slope : Operation → K → K} {seed : TensorId → Nat → K}

omit [Field K] [Given K] in
theorem mem_order_parent (wf : t.WellFormed) {id p : TensorId} (hid : id ∈ t.order root)
    (hp : p ∈ t.parents id) : p ∈ t.order root :=
  (mem_order wf).mpr (((mem_order wf).mp hid).tail hp)

omit [Field K] [Given K] in
theorem le_root (wf : t.WellFormed) {id : TensorId} (hid : id ∈ t.order root) : id ≤ root := by
  have hreach := (mem_order wf).mp hid
  induction hreach with
  | refl => exact Nat.le_refl root
  | tail _ hp ih => exact (wf.earlier _ _ hp).le.trans (ih ((mem_order wf).mpr ‹_›))

omit [Field K] [Given K] in
theorem parent_ne_root (wf : t.WellFormed) {id p : TensorId} (hid : id ∈ t.order root)
    (hp : p ∈ t.parents id) : p ≠ root :=
  Nat.ne_of_lt ((wf.earlier id p hp).trans_le (le_root wf hid))

section Expression
variable {α : Type} {leaf : TensorId → List α}
  {operate : Operation → List (List Nat) → List (List α) → List α}

omit [Field K] [Given K] in
/-- The fuel only has to exceed the tensor. -/
theorem expression_fuel (wf : t.WellFormed) {fuel fuel' : Nat} {id : TensorId} (h : id < fuel)
    (h' : id < fuel') : t.expression leaf operate fuel id = t.expression leaf operate fuel' id := by
  induction fuel generalizing fuel' id with
  | zero => exact absurd h (Nat.not_lt_zero id)
  | succ fuel ih =>
      cases fuel' with
      | zero => exact absurd h' (Nat.not_lt_zero id)
      | succ fuel' =>
          unfold expression
          cases hn : t.node id with
          | none => rfl
          | some node =>
              obtain ⟨operation, parents⟩ := node
              simp only
              congr 1
              apply List.map_congr_left
              intro p hp
              have hlt : p < id := wf.earlier id p (by rwa [parents_of_node hn])
              exact ih (Nat.lt_of_lt_of_le hlt (Nat.lt_succ_iff.mp h))
                (Nat.lt_of_lt_of_le hlt (Nat.lt_succ_iff.mp h'))

omit [Field K] [Given K] in
theorem expression_node (wf : t.WellFormed) {id : TensorId} {operation : Operation}
    {parents : List TensorId} (hn : t.node id = some (operation, parents)) :
    t.expression leaf operate (id + 1) id = operate operation (parents.map t.dims)
      (parents.map fun p => t.expression leaf operate (p + 1) p) := by
  simp only [expression, hn]
  congr 1
  apply List.map_congr_left
  intro p hp
  have hlt : p < id := wf.earlier id p (by rwa [parents_of_node hn])
  exact expression_fuel wf hlt (Nat.lt_succ_self p)

end Expression

theorem dual_leaf {id : TensorId} (hn : t.node id = none) :
    t.dual slope seed id = t.lifted seed id := by
  simp only [dual, expression, hn]

theorem dual_node (wf : t.WellFormed) {id : TensorId} {operation : Operation}
    {parents : List TensorId} (hn : t.node id = some (operation, parents)) :
    t.dual slope seed id =
      forwardValues (DualNumber K) (dualFunctions slope) operation (parents.map t.dims)
      (parents.map (t.dual slope seed)) :=
  expression_node wf hn

theorem evaluate_leaf {values : TensorId → List K} {id : TensorId} (hn : t.node id = none) :
    t.evaluate values id = values id := by
  simp only [evaluate, expression, hn]

theorem evaluate_node (wf : t.WellFormed) {values : TensorId → List K} {id : TensorId}
    {operation : Operation} {parents : List TensorId}
    (hn : t.node id = some (operation, parents)) :
    t.evaluate values id = forwardValues K (Training.codeFunctions K K) operation
      (parents.map t.dims) (parents.map (t.evaluate values)) :=
  expression_node wf hn

omit [Given K] in
theorem infinitesimal_lifted (id : TensorId) (i : Nat) :
    (infinitesimal (t.lifted seed id)).getD i 0 = if i < t.size id then seed id i else 0 := by
  rw [lifted, infinitesimal_tab]
  simp only [snd_add, snd_inl, snd_inr, zero_add]
  rw [List.getD_eq_getElem?_getD, getElem?_tab]
  split <;> rfl

omit [Given K] in
theorem primal_lifted {id : TensorId} (hlen : (t.contents id).length = t.size id) :
    primal (t.lifted seed id) = t.contents id := by
  rw [lifted, primal_tab]
  simp only [fst_add, fst_inl, fst_inr, add_zero]
  rw [← hlen]
  exact (eq_tab_getD (t.contents id) 0).symm

theorem primal_dual (given : GivenSlopes slope) (wf : t.WellFormed) (c : t.Computed root)
    {id : TensorId} (hid : id ∈ t.order root) (hne : id ≠ root) :
    primal (t.dual slope seed id) = t.contents id := by
  induction id using Nat.strongRecOn with
  | ind id ih =>
      cases hn : t.node id with
      | none =>
          rw [dual_leaf hn, primal_lifted (c.lengths id hid)]
      | some node =>
          obtain ⟨operation, parents⟩ := node
          have hparents : ∀ p ∈ parents, primal (t.dual slope seed p) = t.contents p := by
            intro p hp
            have hp' : p ∈ t.parents id := by rwa [parents_of_node hn]
            exact ih p (wf.earlier id p hp') (mem_order_parent wf hid hp')
              (parent_ne_root wf hid hp')
          rw [dual_node wf hn, c.values id hid hne operation parents hn]
          refine (rule given (wf.shapes id operation parents hn)
            (c.loss id hid operation parents hn)
            ?_).value.trans ?_
          · rw [List.forall₂_map_left_iff, List.forall₂_map_right_iff, List.forall₂_same]
            intro p hp
            rw [← length_primal, hparents p hp]
            exact wf.lengths id p (by rwa [parents_of_node hn])
          · rw [List.map_map]
            congr 1
            exact List.map_congr_left hparents

theorem rule_node (given : GivenSlopes slope) (wf : t.WellFormed) (c : t.Computed root)
    {id : TensorId}
    (hid : id ∈ t.order root) {operation : Operation} {parents : List TensorId}
    (hn : t.node id = some (operation, parents)) :
    Rule slope operation (parents.map t.dims) (t.dims id) (parents.map (t.dual slope seed)) := by
  refine rule given (wf.shapes id operation parents hn) (c.loss id hid operation parents hn) ?_
  rw [List.forall₂_map_left_iff, List.forall₂_map_right_iff, List.forall₂_same]
  intro p hp
  have hp' : p ∈ t.parents id := by rwa [parents_of_node hn]
  rw [← length_primal,
    primal_dual given wf c (mem_order_parent wf hid hp') (parent_ne_root wf hid hp')]
  exact wf.lengths id p hp'

theorem map_primal (given : GivenSlopes slope) (wf : t.WellFormed) (c : t.Computed root)
    {id : TensorId}
    (hid : id ∈ t.order root) {operation : Operation} {parents : List TensorId}
    (hn : t.node id = some (operation, parents)) :
    (parents.map (t.dual slope seed)).map primal = parents.map t.contents := by
  rw [List.map_map]
  apply List.map_congr_left
  intro p hp
  have hp' : p ∈ t.parents id := by rwa [parents_of_node hn]
  exact primal_dual given wf c (mem_order_parent wf hid hp') (parent_ne_root wf hid hp')

/-- The infinitesimal parts are tangents the sweep carries. -/
theorem linearized (given : GivenSlopes slope) (wf : t.WellFormed) (c : t.Computed root)
    (hseed : ∀ id, t.requiresGrad id = false → ∀ i, seed id i = 0) :
    t.Linearized root fun id => infinitesimal (t.dual slope seed id) where
  adjoint := by
    intro id hid operation parents hn grad hgrad
    have rule :
        Rule slope operation (parents.map t.dims) (t.dims id) (parents.map (t.dual slope seed)) :=
      rule_node given wf c hid hn
    have hrule := rule.adjoint grad hgrad
    rw [map_primal given wf c hid hn, ← dual_node wf hn] at hrule
    refine hrule.trans ?_
    rw [handed, List.zip_map', List.zipIdx_map, List.map_map]
    rfl
  sized := by
    intro id hid operation parents hn grad hgrad p j hpj
    have rule :
        Rule slope operation (parents.map t.dims) (t.dims id) (parents.map (t.dual slope seed)) :=
      rule_node given wf c hid hn
    have hrule := rule.sized grad hgrad (t.dims p) j
    rw [map_primal given wf c hid hn, List.zipIdx_map] at hrule
    exact hrule (List.mem_map.mpr ⟨(p, j), hpj, rfl⟩)
  constant := by
    intro id hid hreq i
    have hn : t.node id = none := by
      cases hn : t.node id with
      | none => rfl
      | some node =>
          rw [wf.requires id node.1 node.2 hn] at hreq
          cases hreq
    rw [dual_leaf hn, infinitesimal_lifted, hseed id hreq]
    split <;> rfl

def entry (stored : Option (List K)) (i : Nat) : K := (stored.getD []).getD i 0

omit [Given K] in
theorem entry_addTo {stored : Option (List K)} {contribution : List K} {n i : Nat}
    (h : ∀ gradient, stored = some gradient → gradient.length = n) (hi : i < n) :
    entry (some (addTo stored contribution)) i = entry stored i + contribution.getD i 0 := by
  cases stored with
  | none => simp [entry, addTo]
  | some gradient =>
      simp only [entry, addTo, Option.getD_some, h gradient rfl]
      rw [getD_tab _ _ hi]

theorem derivative_eq (t : Tape K) (slope : Operation → K → K) (root leaf : TensorId) (i : Nat) :
    t.derivative slope root leaf i = (infinitesimal (t.dual slope (along leaf i) root)).getD 0 0 :=
  (getD_infinitesimal _ _).symm

/-- The sweep adds to every entry of every leaf the derivative of the root in it. -/
theorem sweep_leaf (given : GivenSlopes slope) (wf : t.WellFormed) (c : t.Computed root)
    (hroot : t.size root = 1)
    {leaves : TensorId → Option (List K)} {leaf : TensorId} (hleaf : t.isLeaf leaf = true)
    (hstored : ∀ gradient, leaves leaf = some gradient → gradient.length = t.size leaf)
    {i : Nat} (hi : i < t.size leaf) :
    entry ((t.sweep leaves root).leaves leaf) i =
      entry (leaves leaf) i + t.derivative slope root leaf i := by
  have hparts : t.requiresGrad leaf = true ∧ t.node leaf = none := by
    simpa [isLeaf, Option.isNone_iff_eq_none] using hleaf
  obtain ⟨hreq, hnode⟩ := hparts
  have hseed : ∀ id, t.requiresGrad id = false →
    ∀ j, (along leaf i : TensorId → Nat → K) id j = 0 := by
    intro id hoff j
    have hne : id ≠ leaf := by
      rintro rfl
      rw [hreq] at hoff
      cases hoff
    simp [along, hne]
  have hbalance : ∑ id ∈ (t.order root).toFinset with t.node id = none,
      t.owed (fun id => infinitesimal (t.dual slope (along leaf i) id)) id
        ((t.sweep leaves root).gradients id) = t.derivative slope root leaf i :=
    (sweep_balanced wf (linearized given wf c hseed) hroot).trans
      (derivative_eq t slope root leaf i).symm
  have htangent : ∀ id, t.node id = none →
    ∀ j, (infinitesimal (t.dual slope (along leaf i) id)).getD j 0 =
      if j < t.size id then along leaf i id j else 0 := by
    intro id hn j
    rw [dual_leaf hn, infinitesimal_lifted]
  have hother : ∀ id, t.node id = none → id ≠ leaf → ∀ stored,
      t.owed (fun id => infinitesimal (t.dual slope (along leaf i) id)) id stored = 0 := by
    intro id hn hne stored
    cases stored with
    | none => rfl
    | some gradient =>
        apply pairing_zero
        intro j _
        rw [htangent id hn]
        simp [along, hne]
  by_cases hmem : leaf ∈ t.order root
  · rw [sum_eq_single_of_mem leaf (by simp [hmem, hnode])
      fun id hid hne => hother id (mem_filter.mp hid).2 hne _] at hbalance
    obtain ⟨l, r, hsplit⟩ := List.append_of_mem hmem
    have hsplit' : t.order root = l ++ leaf :: (r ++ []) := by rw [List.append_nil, hsplit]
    obtain ⟨grad, hgrad, hstore⟩ : ∃ grad, (t.flow leaves root l).gradients leaf = some grad ∧
        (t.flow leaves root (l ++ leaf :: r)).leaves leaf = some (addTo (leaves leaf) grad) :=
      flow_leaves_after wf hsplit' hleaf
    have hend : (t.sweep leaves root).gradients leaf = some grad := by
      rw [sweep, hsplit, flow_gradients_after wf hsplit', hgrad]
    rw [hend] at hbalance
    have hread : pairing (t.size leaf) grad (infinitesimal (t.dual slope (along leaf i) leaf)) =
        grad.getD i 0 := by
      apply pairing_unit hi
      intro j hj
      rw [htangent leaf hnode, if_pos hj]
      simp [along]
    rw [sweep, hsplit, hstore, entry_addTo hstored hi, ← hbalance]
    exact congrArg _ hread.symm
  · have hzero : t.derivative slope root leaf i = 0 := by
      rw [← hbalance]
      apply sum_eq_zero
      intro id hid
      obtain ⟨hid, hn⟩ := mem_filter.mp hid
      refine hother id hn ?_ _
      rintro rfl
      exact hmem (List.mem_toFinset.mp hid)
    rw [hzero, add_zero, sweep, flow_leaves_of_notMem fun h => absurd h hmem]

structure Agree (t t' : Tape K) (root : TensorId) : Prop where
  node : t'.node = t.node
  requiresGrad : t'.requiresGrad = t.requiresGrad
  dims : ∀ id ∈ t.order root, t'.dims id = t.dims id
  contents : ∀ id ∈ t.order root, t'.contents id = t.contents id

section Agree
variable {t' : Tape K} (a : Agree t t' root)
include a

omit [Field K] [Given K] in
theorem Agree.parents : t'.parents = t.parents := by
  funext id
  simp only [Tape.parents, a.node]

omit [Field K] [Given K] in
theorem Agree.order : t'.order root = t.order root := by
  rw [Tape.order, Tape.order, a.parents]

theorem Agree.dual (wf : t.WellFormed) (wf' : t'.WellFormed) {id : TensorId}
    (hid : id ∈ t.order root) : t'.dual slope seed id = t.dual slope seed id := by
  induction id using Nat.strongRecOn with
  | ind id ih =>
      cases hn : t.node id with
      | none =>
          have hn' : t'.node id = none := by rw [a.node, hn]
          rw [dual_leaf hn, dual_leaf hn', lifted, lifted, size, size, a.dims id hid,
            a.contents id hid]
      | some node =>
          obtain ⟨operation, parents⟩ := node
          have hn' : t'.node id = some (operation, parents) := by rw [a.node, hn]
          have hparents : ∀ p ∈ parents, p < id ∧ p ∈ t.order root := by
            intro p hp
            have hp' : p ∈ t.parents id := by rwa [parents_of_node hn]
            exact ⟨wf.earlier id p hp', mem_order_parent wf hid hp'⟩
          rw [dual_node wf hn, dual_node wf' hn']
          congr 1
          · apply List.map_congr_left
            intro p hp
            exact a.dims p (hparents p hp).2
          · apply List.map_congr_left
            intro p hp
            exact ih p (hparents p hp).1 (hparents p hp).2

theorem Agree.derivative (wf : t.WellFormed) (wf' : t'.WellFormed) (leaf : TensorId) (i : Nat) :
    t'.derivative slope root leaf i = t.derivative slope root leaf i := by
  obtain ⟨rest, hrest⟩ := t.order_head root
  rw [derivative_eq, derivative_eq, a.dual wf wf' (by simp [hrest])]

theorem Agree.computed (wf : t.WellFormed) (c : t.Computed root) : t'.Computed root where
  loss := by
    intro id hid operation parents hn
    rw [a.order] at hid
    exact c.loss id hid operation parents (by rwa [← a.node])
  values := by
    intro id hid hne operation parents hn
    rw [a.order] at hid
    rw [a.node] at hn
    have hparents : ∀ p ∈ parents, p ∈ t.order root := fun p hp =>
      mem_order_parent wf hid (by rwa [parents_of_node hn])
    rw [a.contents id hid, c.values id hid hne operation parents hn]
    congr 1
    · apply List.map_congr_left
      intro p hp
      exact (a.dims p (hparents p hp)).symm
    · apply List.map_congr_left
      intro p hp
      exact (a.contents p (hparents p hp)).symm
  lengths := by
    intro id hid
    rw [a.order] at hid
    rw [size, a.dims id hid, a.contents id hid]
    exact c.lengths id hid

end Agree

section Applications

omit [Field K] [Given K] in
theorem applications_tensors (ids : List TensorId) :
    (t.applications ids).map (·.tensor) = ids.filter fun id => (t.node id).isSome := by
  induction ids with
  | nil => rfl
  | cons id ids ih =>
      unfold applications at ih ⊢
      rw [List.filterMap_cons, List.filter_cons]
      cases hn : t.node id with
      | none => simpa using ih
      | some node => simpa using ih

/-- A node is applied once, after every node that has it as a parent, and hands one gradient along
each edge to a parent that requires grad. -/
structure AppliedOnce (t : Tape K) (root : TensorId) (trace : List (Autograd.Application K)) :
    Prop where
  nodup : (trace.map (·.tensor)).Nodup
  reached : ∀ id, id ∈ trace.map (·.tensor) ↔
    PostOrder.Reaches t.parents root id ∧ (t.node id).isSome = true
  consumers : ∀ front application back, trace = front ++ application :: back →
    ∀ consumer, PostOrder.Reaches t.parents root consumer →
      application.tensor ∈ t.parents consumer → consumer ∈ front.map (·.tensor)
  edges : ∀ application ∈ trace,
    application.contributed = (t.parents application.tensor).filter t.requiresGrad

omit [Field K] [Given K] in
theorem appliedOnce (wf : t.WellFormed) : t.AppliedOnce root (t.applications (t.order root)) where
  nodup := by
    rw [applications_tensors]
    exact (nodup_order wf root).filter _
  reached := by
    intro id
    rw [applications_tensors, List.mem_filter, mem_order wf]
  consumers := by
    intro front application back hsplit consumer hreach hparent
    obtain ⟨l, rest, horder, hfront, hrest⟩ := List.filterMap_eq_append_iff.mp hsplit
    obtain ⟨skipped, id, r, hskip, hnone, hid, -⟩ := List.filterMap_eq_cons_iff.mp hrest
    obtain ⟨node, hn, rfl⟩ := Option.map_eq_some_iff.mp hid
    have hnode : (t.node consumer).isSome = true := by
      cases hc : t.node consumer with
      | none => simp [parents, hc] at hparent
      | some node => rfl
    have hat : t.order root = (l ++ skipped) ++ id :: r := by rw [horder, hskip, List.append_assoc]
    have hnd := nodup_order wf root
    have hbefore : consumer ∈ l ++ skipped := by
      have hmem : consumer ∈ t.order root := (mem_order wf).mpr hreach
      rw [hat] at hmem
      rcases List.mem_append.mp hmem with hl | hr
      · exact hl
      · rcases List.mem_cons.mp hr with rfl | hr
        · exact absurd (wf.earlier consumer consumer hparent) (Nat.lt_irrefl _)
        · obtain ⟨r₁, r₂, rfl⟩ := List.append_of_mem hr
          have hsplit' : t.order root = (l ++ skipped ++ id :: r₁) ++ consumer :: r₂ := by
            rw [hat]
            simp
          have hafter : id ∈ r₂ := parents_after wf hsplit' hparent
          rw [hat] at hnd
          exact absurd (List.mem_append_right r₁ (List.mem_cons_of_mem consumer hafter))
            (List.nodup_cons.mp (List.nodup_append.mp hnd).2.1).1
    have happlied : consumer ∈ l := by
      rcases List.mem_append.mp hbefore with hl | hs
      · exact hl
      · obtain ⟨node', hn'⟩ := Option.isSome_iff_exists.mp hnode
        have := hnone consumer hs
        rw [hn'] at this
        cases this
    have htensors := applications_tensors (t := t) l
    rw [← hfront]
    unfold applications at htensors
    rw [htensors]
    exact List.mem_filter.mpr ⟨happlied, hnode⟩
  edges := by
    intro application happ
    obtain ⟨id, -, happ⟩ := List.mem_filterMap.mp happ
    obtain ⟨node, hn, rfl⟩ := Option.map_eq_some_iff.mp happ
    simp only [parents_of_node hn]

omit [Field K] [Given K] in
theorem Agree.appliedOnce {t' : Tape K} (a : Agree t t' root)
    {trace : List (Autograd.Application K)} (h : t'.AppliedOnce root trace) :
    t.AppliedOnce root trace := by
  obtain ⟨nodup, reached, consumers, edges⟩ := h
  rw [a.parents] at reached consumers edges
  rw [a.node] at reached
  rw [a.requiresGrad] at edges
  exact ⟨nodup, reached, consumers, edges⟩

end Applications

end Tape

end Tensora
