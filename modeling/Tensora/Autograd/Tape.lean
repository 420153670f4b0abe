import Tensora.Autograd.Gradients
import Tensora.Lib.PostOrder

/-! What a reverse sweep computes, without storages: the recorded graph is a tape,
and the sweep a fold of pure steps over the reversed post-order. -/
namespace Tensora
open CheckedLoop

variable {F : Type}

/-- The recorded graph and the values its nodes read. -/
structure Tape (F : Type) where
  dims : TensorId → List Nat
  contents : TensorId → List F
  node : TensorId → Option (Operation × List TensorId)
  requiresGrad : TensorId → Bool

def Heap.tape (h : Heap F) : Tape F where
  dims := h.dims
  contents := h.contents
  node := fun id => (h.gradFn id).map fun node => (node.operation, node.parents)
  requiresGrad := h.requiresGrad

/-- The gradients delivered so far, and the gradient stored on each leaf. -/
structure Flow (F : Type) where
  gradients : TensorId → Option (List F)
  leaves : TensorId → Option (List F)

def addTo [Zero F] [Add F] (stored : Option (List F)) (contribution : List F) : List F :=
  match stored with
  | none => contribution
  | some values => tab values.length fun i => values.getD i 0 + contribution.getD i 0

def deliverTo [Zero F] [Add F] (gradients : TensorId → Option (List F))
    (contribution : TensorId × List F) : TensorId → Option (List F) :=
  Function.update gradients contribution.1
    (some (addTo (gradients contribution.1) contribution.2))

namespace Tape

def parents (t : Tape F) (id : TensorId) : List TensorId :=
  match t.node id with
  | none => []
  | some (_, parents) => parents

def isLeaf (t : Tape F) (id : TensorId) : Bool := t.requiresGrad id && (t.node id).isNone

/-- The order `Backward` applies nodes in. -/
def order (t : Tape F) (root : TensorId) : List TensorId :=
  (PostOrder.postOrder t.parents (root + 1) root).reverse

structure WellFormed (t : Tape F) : Prop where
  earlier : ∀ id, ∀ p ∈ t.parents id, p < id
  requires : ∀ id operation parents, t.node id = some (operation, parents) →
    t.requiresGrad id = true
  shapes : ∀ id operation parents, t.node id = some (operation, parents) →
    OpShapes operation (parents.map t.dims) (t.dims id)
  lengths : ∀ id, ∀ p ∈ t.parents id, (t.contents p).length = (t.dims p).prod

section Sweep
variable [Scalar F]

def contributions (t : Tape F) (operation : Operation) (parents : List TensorId) (grad : List F) :
    List (TensorId × List F) :=
  (parents.zipIdx.filter fun (p, _) => t.requiresGrad p).map fun (p, j) =>
    (p, Autograd.localGradient operation (parents.map t.dims) (parents.map t.contents) grad j)

def flowStep (t : Tape F) (flow : Flow F) (id : TensorId) : Flow F :=
  match flow.gradients id with
  | none => flow
  | some grad => {
      gradients := match t.node id with
        | none => flow.gradients
        | some (operation, parents) =>
            (t.contributions operation parents grad).foldl deliverTo flow.gradients
      leaves := if t.isLeaf id then
          Function.update flow.leaves id (some (addTo (flow.leaves id) grad))
        else flow.leaves }

def start (leaves : TensorId → Option (List F)) (root : TensorId) : Flow F where
  gradients := Function.update (fun _ => none) root (some [1])
  leaves := leaves

def flow (t : Tape F) (leaves : TensorId → Option (List F)) (root : TensorId)
    (ids : List TensorId) : Flow F :=
  ids.foldl t.flowStep (start leaves root)

def sweep (t : Tape F) (leaves : TensorId → Option (List F)) (root : TensorId) : Flow F :=
  t.flow leaves root (t.order root)

end Sweep

def applications (t : Tape F) (ids : List TensorId) : List (Autograd.Application F) :=
  ids.filterMap fun id => (t.node id).map fun (_, parents) => {
    tensor := id
    operands := parents.map t.contents
    contributed := parents.filter t.requiresGrad }

end Tape

namespace Tape
variable {t : Tape F}

section Order
variable (wf : t.WellFormed) {root : TensorId}
include wf

theorem nodup_order (root : TensorId) : (t.order root).Nodup :=
  List.nodup_reverse.mpr
    (PostOrder.nodup_postOrder id (fun id p hp => wf.earlier id p hp) (Nat.lt_succ_self root))

theorem mem_order {id : TensorId} : id ∈ t.order root ↔ PostOrder.Reaches t.parents root id := by
  rw [order, List.mem_reverse]
  exact PostOrder.mem_postOrder (fun id => id) (fun id p hp => wf.earlier id p hp)
    (Nat.lt_succ_self root)

theorem parents_after {l r : List TensorId} {id : TensorId} (h : t.order root = l ++ id :: r)
    {p : TensorId} (hp : p ∈ t.parents id) : p ∈ r := by
  have hrev : PostOrder.postOrder t.parents (root + 1) root = r.reverse ++ id :: l.reverse := by
    have := congrArg List.reverse h
    rw [order, List.reverse_reverse] at this
    simpa using this
  have hc := PostOrder.closed_postOrder (fun id => id) (fun id p hp => wf.earlier id p hp)
    (Nat.lt_succ_self root) _ _ _ hrev p hp
  exact List.mem_reverse.mp hc

omit wf in
theorem order_head (t : Tape F) (root : TensorId) : ∃ rest, t.order root = root :: rest := by
  obtain ⟨front, hfront⟩ := PostOrder.postOrder_last t.parents (Nat.succ_pos root)
  exact ⟨front.reverse, by rw [order, hfront]; simp⟩

theorem consumer_before {l r : List TensorId} {id : TensorId} (h : t.order root = l ++ id :: r)
    (hne : id ≠ root) : ∃ c ∈ l, id ∈ t.parents c := by
  have hmem : id ∈ t.order root := by rw [h]; simp
  rcases Relation.ReflTransGen.cases_tail ((mem_order wf).mp hmem) with heq | ⟨c, hc, hstep⟩
  · exact absurd heq.symm (fun h => hne h.symm)
  · refine ⟨c, ?_, hstep⟩
    have hcmem : c ∈ t.order root := (mem_order wf).mpr hc
    have hnd := nodup_order wf root
    rw [h] at hcmem hnd
    rcases List.mem_append.mp hcmem with hl | hr
    · exact hl
    · exfalso
      rcases List.mem_cons.mp hr with rfl | hr
      · exact Nat.lt_irrefl _ (wf.earlier c c hstep)
      · obtain ⟨r₁, r₂, rfl⟩ := List.append_of_mem hr
        have hsplit : t.order root = (l ++ id :: r₁) ++ c :: r₂ := by rw [h]; simp
        have hafter := parents_after wf hsplit hstep
        have hnd' := (List.nodup_append.mp hnd).2.1
        exact (List.nodup_cons.mp hnd').1 (by simp [hafter])

end Order

section Gradients
variable [Scalar F]

omit [Scalar F] in
@[simp] theorem parents_of_node {id : TensorId} {operation : Operation} {ps : List TensorId}
    (h : t.node id = some (operation, ps)) : t.parents id = ps := by
  simp only [parents, h]

theorem deliverTo_isSome (gradients : TensorId → Option (List F)) (c : TensorId × List F)
    (id : TensorId) :
    (deliverTo gradients c id).isSome = true ↔ (gradients id).isSome = true ∨ id = c.1 := by
  unfold deliverTo
  by_cases h : id = c.1
  · subst h
    simp
  · simp [h]

theorem foldl_deliverTo_isSome (cs : List (TensorId × List F))
    (gradients : TensorId → Option (List F)) (id : TensorId) :
    (cs.foldl deliverTo gradients id).isSome = true ↔
      (gradients id).isSome = true ∨ id ∈ cs.map Prod.fst := by
  induction cs generalizing gradients with
  | nil => simp
  | cons c cs ih =>
      rw [List.foldl_cons, ih, deliverTo_isSome, List.map_cons, List.mem_cons, or_assoc]

theorem foldl_deliverTo_of_notMem {cs : List (TensorId × List F)} {id : TensorId}
    (h : id ∉ cs.map Prod.fst) (gradients : TensorId → Option (List F)) :
    cs.foldl deliverTo gradients id = gradients id := by
  induction cs generalizing gradients with
  | nil => rfl
  | cons c cs ih =>
      rw [List.map_cons, List.mem_cons, not_or] at h
      rw [List.foldl_cons, ih h.2, deliverTo, Function.update_of_ne h.1]

theorem mem_contributions {operation : Operation} {ps : List TensorId} {grad : List F}
    {id : TensorId} :
    id ∈ (t.contributions operation ps grad).map Prod.fst ↔ id ∈ ps ∧ t.requiresGrad id = true := by
  simp only [contributions, List.map_map, List.mem_map, List.mem_filter, Function.comp_apply]
  constructor
  · rintro ⟨⟨p, j⟩, ⟨hmem, hreq⟩, rfl⟩
    exact ⟨List.fst_mem_of_mem_zipIdx hmem, hreq⟩
  · rintro ⟨hmem, hreq⟩
    obtain ⟨j, hj, rfl⟩ := List.mem_iff_getElem.mp hmem
    have hmem := List.mk_mem_zipIdx_iff_getElem?.mpr (List.getElem?_eq_getElem hj)
    exact ⟨(ps[j], j), ⟨hmem, hreq⟩, rfl⟩

theorem flowStep_gradients_of_notMem {flow : Flow F} {id p : TensorId}
    (h : p ∉ t.parents id) : (t.flowStep flow id).gradients p = flow.gradients p := by
  unfold flowStep
  cases hg : flow.gradients id with
  | none => rfl
  | some grad =>
      simp only
      cases hn : t.node id with
      | none => rfl
      | some node =>
          obtain ⟨operation, ps⟩ := node
          rw [parents_of_node hn] at h
          exact foldl_deliverTo_of_notMem (fun hmem => h (mem_contributions.mp hmem).1) _

theorem flowStep_gradients_isSome {flow : Flow F} {id p : TensorId}
    (h : (flow.gradients p).isSome = true) : ((t.flowStep flow id).gradients p).isSome = true := by
  unfold flowStep
  cases hg : flow.gradients id with
  | none => exact h
  | some grad =>
      simp only
      cases hn : t.node id with
      | none => exact h
      | some node => exact (foldl_deliverTo_isSome _ _ _).mpr (Or.inl h)

variable {leaves : TensorId → Option (List F)} {root : TensorId}

theorem flow_snoc (ids : List TensorId) (id : TensorId) :
    t.flow leaves root (ids ++ [id]) = t.flowStep (t.flow leaves root ids) id := by
  simp [flow]

/-- Whatever requires grad has received its gradient when its turn comes. -/
theorem flow_isSome (wf : t.WellFormed) {l r : List TensorId} (h : t.order root = l ++ r)
    (id : TensorId) (hreq : t.requiresGrad id = true)
    (hid : id = root ∨ ∃ c ∈ l, id ∈ t.parents c) :
    ((t.flow leaves root l).gradients id).isSome = true := by
  induction l using List.reverseRecOn generalizing r id with
  | nil =>
      obtain rfl : id = root := by simpa using hid
      simp [flow, start]
  | append_singleton l c ih =>
      rw [flow_snoc]
      rw [List.append_assoc, List.singleton_append] at h
      by_cases hbefore : id = root ∨ ∃ c ∈ l, id ∈ t.parents c
      · exact flowStep_gradients_isSome (ih h id hreq hbefore)
      · have hpar : id ∈ t.parents c := by
          rw [not_or] at hbefore
          rcases hid with hroot | ⟨c', hc', hp⟩
          · exact absurd hroot hbefore.1
          · rcases List.mem_append.mp hc' with hl | hc
            · exact absurd ⟨c', hl, hp⟩ hbefore.2
            · rwa [List.mem_singleton.mp hc] at hp
        cases hn : t.node c with
        | none => simp [parents, hn] at hpar
        | some node =>
            obtain ⟨operation, ps⟩ := node
            have hc : ((t.flow leaves root l).gradients c).isSome = true := by
              refine ih h c (wf.requires c _ _ hn) ?_
              by_cases hroot : c = root
              · exact Or.inl hroot
              · exact Or.inr (consumer_before wf h hroot)
            obtain ⟨grad, hgrad⟩ := Option.isSome_iff_exists.mp hc
            unfold flowStep
            simp only [hgrad, hn]
            rw [parents_of_node hn] at hpar
            exact (foldl_deliverTo_isSome _ _ _).mpr (Or.inr (mem_contributions.mpr ⟨hpar, hreq⟩))

theorem flow_isSome_at (wf : t.WellFormed) {l r : List TensorId} {id : TensorId}
    (h : t.order root = l ++ id :: r) (hreq : t.requiresGrad id = true) :
    ((t.flow leaves root l).gradients id).isSome = true := by
  refine flow_isSome wf h id hreq ?_
  by_cases hroot : id = root
  · exact Or.inl hroot
  · exact Or.inr (consumer_before wf h hroot)

theorem flow_none (hroot : t.requiresGrad root = true) (l : List TensorId) {id : TensorId}
    (hreq : t.requiresGrad id = false) : (t.flow leaves root l).gradients id = none := by
  induction l using List.reverseRecOn with
  | nil =>
      have hne : id ≠ root := by
        rintro rfl
        rw [hroot] at hreq
        cases hreq
      simp [flow, start, Function.update_of_ne hne]
  | append_singleton l c ih =>
      rw [flow_snoc]
      unfold flowStep
      cases hg : (t.flow leaves root l).gradients c with
      | none => exact ih
      | some grad =>
          simp only
          cases hn : t.node c with
          | none => exact ih
          | some node =>
              simp only
              rw [foldl_deliverTo_of_notMem, ih]
              intro hmem
              rw [(mem_contributions.mp hmem).2] at hreq
              cases hreq

theorem flow_gradients_after (wf : t.WellFormed) {l m r : List TensorId} {id : TensorId}
    (h : t.order root = l ++ id :: (m ++ r)) :
    (t.flow leaves root (l ++ id :: m)).gradients id = (t.flow leaves root l).gradients id := by
  induction m using List.reverseRecOn generalizing r with
  | nil =>
      rw [flow_snoc]
      exact flowStep_gradients_of_notMem fun hp => Nat.lt_irrefl _ (wf.earlier id id hp)
  | append_singleton m c ih =>
      rw [← List.cons_append, ← List.append_assoc, flow_snoc,
        flowStep_gradients_of_notMem, ih (r := c :: r) (by simpa using h)]
      intro hp
      have hsplit : t.order root = (l ++ id :: m) ++ c :: r := by simpa using h
      have hafter := parents_after wf hsplit hp
      have hnd := nodup_order wf root
      rw [h] at hnd
      exact (List.nodup_cons.mp (List.nodup_append.mp hnd).2.1).1 (by simp [hafter])

theorem flowStep_leaves_of_ne {flow : Flow F} {id p : TensorId} (h : p = id → t.isLeaf id = false) :
    (t.flowStep flow id).leaves p = flow.leaves p := by
  unfold flowStep
  cases hg : flow.gradients id with
  | none => rfl
  | some grad =>
      by_cases hp : p = id
      · simp [h hp]
      · by_cases hl : t.isLeaf id = true
        · simp [hl, Function.update_of_ne hp]
        · simp [hl]

theorem flow_leaves_of_notMem {l : List TensorId} {p : TensorId} (h : p ∈ l → t.isLeaf p = false) :
    (t.flow leaves root l).leaves p = leaves p := by
  induction l using List.reverseRecOn with
  | nil => rfl
  | append_singleton l c ih =>
      rw [flow_snoc, flowStep_leaves_of_ne, ih fun hmem => h (by simp [hmem])]
      rintro rfl
      exact h (by simp)

theorem flow_leaves_after (wf : t.WellFormed) {l m r : List TensorId} {id : TensorId}
    (h : t.order root = l ++ id :: (m ++ r)) (hleaf : t.isLeaf id = true) :
    ∃ grad, (t.flow leaves root l).gradients id = some grad ∧
      (t.flow leaves root (l ++ id :: m)).leaves id = some (addTo (leaves id) grad) := by
  have hreq : t.requiresGrad id = true := by
    unfold isLeaf at hleaf
    simp only [Bool.and_eq_true] at hleaf
    exact hleaf.1
  have hsome : ((t.flow leaves root l).gradients id).isSome = true := flow_isSome_at wf h hreq
  obtain ⟨grad, hgrad⟩ := Option.isSome_iff_exists.mp hsome
  have hnd := nodup_order wf root
  rw [h] at hnd
  refine ⟨grad, hgrad, ?_⟩
  induction m using List.reverseRecOn generalizing r with
  | nil =>
      rw [flow_snoc, flowStep]
      simp only [hgrad, hleaf, if_true, Function.update_self]
      rw [flow_leaves_of_notMem]
      exact fun hmem => absurd rfl ((List.nodup_append.mp hnd).2.2 id hmem id (by simp))
  | append_singleton m c ih =>
      rw [← List.cons_append, ← List.append_assoc, flow_snoc, flowStep_leaves_of_ne]
      · exact ih (r := c :: r) (by simpa using h) (by simpa using hnd)
      · rintro rfl
        exact absurd (List.nodup_append.mp hnd).2.1 (by simp)

end Gradients

end Tape

end Tensora
