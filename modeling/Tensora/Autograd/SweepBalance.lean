import Tensora.Autograd.Tape
import Tensora.Lib.Pairing

/-! The balance of a reverse sweep. If at every node the gradients handed to the parents
pair with the parents' tangents to what the upstream gradient pairs to with the node's,
the gradients still to be swept always pair to the root's tangent. -/
namespace Tensora
open CheckedLoop Finset

variable {K : Type} [Field K]

namespace Tape
variable {t : Tape K} {root : TensorId} {tangent : TensorId → List K}

def size (t : Tape K) (id : TensorId) : Nat := (t.dims id).prod

def owed (t : Tape K) (tangent : TensorId → List K) (id : TensorId) : Option (List K) → K
  | none => 0
  | some gradient => pairing (t.size id) gradient (tangent id)

def Sized (t : Tape K) (gradients : TensorId → Option (List K)) : Prop :=
  ∀ id gradient, gradients id = some gradient → gradient.length = t.size id

theorem owed_addTo {id : TensorId} {stored : Option (List K)} {contribution : List K}
    (h : ∀ gradient, stored = some gradient → gradient.length = t.size id) :
    t.owed tangent id (some (addTo stored contribution)) =
      t.owed tangent id stored + pairing (t.size id) contribution (tangent id) := by
  cases stored with
  | none => exact (zero_add _).symm
  | some gradient =>
      simp only [owed, addTo, h gradient rfl]
      exact pairing_tab_add (t.size id) gradient contribution (tangent id)

theorem length_addTo {n : Nat} {stored : Option (List K)} {contribution : List K}
    (h : ∀ gradient, stored = some gradient → gradient.length = n)
    (hc : contribution.length = n) : (addTo stored contribution).length = n := by
  cases stored with
  | none => exact hc
  | some gradient =>
      simp only [addTo, length_tab]
      exact h gradient rfl

theorem Sized.deliverTo {gradients : TensorId → Option (List K)} (hsized : t.Sized gradients)
    {c : TensorId × List K} (hc : c.2.length = t.size c.1) : t.Sized (deliverTo gradients c) := by
  intro id gradient hg
  unfold Tensora.deliverTo at hg
  by_cases hid : id = c.1
  · subst hid
    rw [Function.update_self] at hg
    rw [← Option.some.inj hg]
    exact length_addTo (hsized c.1) hc
  · rw [Function.update_of_ne hid] at hg
    exact hsized id gradient hg

theorem sum_owed_deliverTo {gradients : TensorId → Option (List K)} (hsized : t.Sized gradients)
    {pending : Finset TensorId} {c : TensorId × List K} (hmem : c.1 ∈ pending) :
    ∑ id ∈ pending, t.owed tangent id (deliverTo gradients c id) =
      ∑ id ∈ pending, t.owed tangent id (gradients id) +
        pairing (t.size c.1) c.2 (tangent c.1) := by
  have hother : ∑ id ∈ pending.erase c.1, t.owed tangent id (deliverTo gradients c id) =
      ∑ id ∈ pending.erase c.1, t.owed tangent id (gradients id) := by
    apply sum_congr rfl
    intro id hid
    rw [Tensora.deliverTo, Function.update_of_ne (ne_of_mem_erase hid)]
  rw [← add_sum_erase pending _ hmem, ← add_sum_erase pending _ hmem, hother, Tensora.deliverTo,
    Function.update_self, owed_addTo (hsized c.1)]
  ring

theorem sum_owed_foldl {pending : Finset TensorId} (cs : List (TensorId × List K))
    {gradients : TensorId → Option (List K)} (hsized : t.Sized gradients)
    (hcs : ∀ c ∈ cs, c.1 ∈ pending ∧ c.2.length = t.size c.1) :
    t.Sized (cs.foldl deliverTo gradients) ∧
    ∑ id ∈ pending, t.owed tangent id (cs.foldl deliverTo gradients id) =
      ∑ id ∈ pending, t.owed tangent id (gradients id) +
        (cs.map fun c => pairing (t.size c.1) c.2 (tangent c.1)).sum := by
  induction cs generalizing gradients with
  | nil => exact ⟨hsized, by simp⟩
  | cons c cs ih =>
      obtain ⟨hmem, hlen⟩ := hcs c (by simp)
      obtain ⟨hs, hsum⟩ := ih (hsized.deliverTo hlen) fun c' hc' => hcs c' (by simp [hc'])
      refine ⟨hs, ?_⟩
      rw [List.foldl_cons, hsum, sum_owed_deliverTo hsized hmem, List.map_cons, List.sum_cons,
        add_assoc]

variable [Given K]

/-- What a node hands to its parents pairs to, whether or not they require grad. -/
def handed (t : Tape K) (tangent : TensorId → List K) (operation : Operation)
    (parents : List TensorId) (grad : List K) : K :=
  (parents.zipIdx.map fun entry => pairing (t.size entry.1)
    (Autograd.localGradient operation (parents.map t.dims) (parents.map t.contents) grad entry.2)
    (tangent entry.1)).sum

/-- Tangents that every node of the sweep carries over from its parents, and that vanish where
no gradient goes. -/
structure Linearized (t : Tape K) (root : TensorId) (tangent : TensorId → List K) : Prop where
  adjoint : ∀ id ∈ t.order root, ∀ operation parents, t.node id = some (operation, parents) →
    ∀ grad : List K, grad.length = t.size id →
      pairing (t.size id) grad (tangent id) = t.handed tangent operation parents grad
  sized : ∀ id ∈ t.order root, ∀ operation parents, t.node id = some (operation, parents) →
    ∀ grad : List K, grad.length = t.size id → ∀ p j, (p, j) ∈ parents.zipIdx →
      (Autograd.localGradient operation (parents.map t.dims) (parents.map t.contents) grad
        j).length = t.size p
  constant : ∀ id ∈ t.order root, t.requiresGrad id = false → ∀ i, (tangent id).getD i 0 = 0

/-- What is kept back from the parents that do not require grad pairs to nothing. -/
theorem sum_contributions (lin : t.Linearized root tangent) {operation : Operation}
    {parents : List TensorId} (hps : ∀ p ∈ parents, p ∈ t.order root) (grad : List K) :
    ((t.contributions operation parents grad).map fun c =>
      pairing (t.size c.1) c.2 (tangent c.1)).sum = t.handed tangent operation parents grad := by
  unfold contributions handed
  rw [List.map_map]
  generalize hg : (fun j => Autograd.localGradient operation (parents.map t.dims)
    (parents.map t.contents) grad j) = gradientOf
  have hsplit : ∀ entries : List (TensorId × Nat), (∀ e ∈ entries, e.1 ∈ t.order root) →
      (((entries.filter fun e => t.requiresGrad e.1).map
        fun e => pairing (t.size e.1) (gradientOf e.2) (tangent e.1)).sum : K) =
      (entries.map fun e => pairing (t.size e.1) (gradientOf e.2) (tangent e.1)).sum := by
    intro entries hentries
    induction entries with
    | nil => rfl
    | cons e entries ih =>
        have hrest := ih fun e' he' => hentries e' (by simp [he'])
        rw [List.filter_cons]
        cases hreq : t.requiresGrad e.1 with
        | true => simp only [if_true, List.map_cons, List.sum_cons, hrest]
        | false =>
            have hzero := lin.constant e.1 (hentries e (by simp)) hreq
            simp only [Bool.false_eq_true, if_false, hrest, List.map_cons, List.sum_cons,
              pairing_zero _ fun i _ => hzero i, zero_add]
  subst hg
  exact hsplit parents.zipIdx fun e he => hps e.1 (List.fst_mem_of_mem_zipIdx he)

def pending (t : Tape K) (root : TensorId) (done : List TensorId) : Finset TensorId :=
  (t.order root).toFinset.filter fun id => id ∉ done ∨ t.node id = none

variable {leaves : TensorId → Option (List K)}

theorem start_balanced (t : Tape K) (tangent : TensorId → List K)
    (leaves : TensorId → Option (List K))
    (hroot : t.size root = 1) :
    t.Sized (start leaves root).gradients ∧
    ∑ id ∈ t.pending root [], t.owed tangent id ((start leaves root).gradients id) =
      (tangent root).getD 0 0 := by
  constructor
  · intro id gradient hg
    unfold start at hg
    by_cases hid : id = root
    · subst hid
      simp only [Function.update_self, Option.some.injEq] at hg
      rw [← hg, hroot]
      rfl
    · simp [Function.update_of_ne hid] at hg
  · have hmem : root ∈ t.pending root [] := by
      obtain ⟨rest, hrest⟩ := t.order_head root
      simp [pending, hrest]
    rw [sum_eq_single_of_mem root hmem]
    · simp only [start, Function.update_self, owed, hroot, pairing_one, List.getD_cons_zero,
        one_mul]
    · intro id _ hne
      simp [start, Function.update_of_ne hne, owed]

/-- Before each turn the gradients not yet handed on pair to the root's tangent. -/
theorem flow_balanced (wf : t.WellFormed) (lin : t.Linearized root tangent)
    (hroot : t.size root = 1) {l r : List TensorId} (h : t.order root = l ++ r) :
    t.Sized (t.flow leaves root l).gradients ∧
    ∑ id ∈ t.pending root l, t.owed tangent id ((t.flow leaves root l).gradients id) =
      (tangent root).getD 0 0 := by
  induction l using List.reverseRecOn generalizing r with
  | nil => exact start_balanced t tangent leaves hroot
  | append_singleton l c ih =>
      rw [List.append_assoc, List.singleton_append] at h
      obtain ⟨hsized, hsum⟩ := ih h
      have hc : c ∈ t.order root := by simp [h]
      have hnd := nodup_order wf root
      have hfresh : c ∉ l := by
        rw [h] at hnd
        intro hl
        exact (List.nodup_append.mp hnd).2.2 c hl c (by simp) rfl
      rw [flow_snoc]
      cases hn : t.node c with
      | none =>
          have hsame : t.pending root (l ++ [c]) = t.pending root l := by
            ext id
            simp only [pending, mem_filter, List.mem_append, List.mem_singleton, not_or]
            constructor
            · rintro ⟨hid, ⟨hl, -⟩ | hnone⟩
              · exact ⟨hid, Or.inl hl⟩
              · exact ⟨hid, Or.inr hnone⟩
            · rintro ⟨hid, hl | hnone⟩
              · by_cases heq : id = c
                · exact ⟨hid, Or.inr (heq ▸ hn)⟩
                · exact ⟨hid, Or.inl ⟨hl, heq⟩⟩
              · exact ⟨hid, Or.inr hnone⟩
          have hgradients : (t.flowStep (t.flow leaves root l) c).gradients =
              (t.flow leaves root l).gradients := by
            funext id
            exact flowStep_gradients_of_notMem (by simp [parents, hn])
          rw [hgradients, hsame]
          exact ⟨hsized, hsum⟩
      | some node =>
          obtain ⟨operation, ps⟩ := node
          have hreq := wf.requires c operation ps hn
          obtain ⟨grad, hgrad⟩ := Option.isSome_iff_exists.mp
            (flow_isSome_at wf h hreq)
          have hlen : grad.length = t.size c := hsized c grad hgrad
          have hps : ∀ p ∈ ps, p ∈ r := fun p hp => parents_after wf h (by rwa [parents_of_node hn])
          have hpending : t.pending root (l ++ [c]) = (t.pending root l).erase c := by
            ext id
            simp only [pending, mem_filter, mem_erase, List.mem_append, List.mem_singleton, not_or]
            constructor
            · rintro ⟨hid, ⟨hl, hne⟩ | hnone⟩
              · exact ⟨hne, hid, Or.inl hl⟩
              · refine ⟨?_, hid, Or.inr hnone⟩
                rintro rfl
                rw [hn] at hnone
                cases hnone
            · rintro ⟨hne, hid, hl | hnone⟩
              · exact ⟨hid, Or.inl ⟨hl, hne⟩⟩
              · exact ⟨hid, Or.inr hnone⟩
          have hstep : (t.flowStep (t.flow leaves root l) c).gradients =
              (t.contributions operation ps grad).foldl deliverTo
                (t.flow leaves root l).gradients := by
            unfold flowStep
            simp only [hgrad, hn]
          have hcs : ∀ e ∈ t.contributions operation ps grad,
              e.1 ∈ t.pending root (l ++ [c]) ∧ e.2.length = t.size e.1 := by
            intro e he
            obtain ⟨⟨p, j⟩, hpj, rfl⟩ := List.mem_map.mp he
            have hzip := (List.mem_filter.mp hpj).1
            have hp := hps p (List.fst_mem_of_mem_zipIdx hzip)
            refine ⟨?_, lin.sized c hc operation ps hn grad hlen p j hzip⟩
            have hafter : p ∉ l ++ [c] := by
              rw [h, ← List.singleton_append, ← List.append_assoc] at hnd
              intro hl
              exact (List.nodup_append.mp hnd).2.2 p hl p hp rfl
            simp only [pending, mem_filter, List.mem_toFinset, h]
            exact ⟨by simp [hp], Or.inl hafter⟩
          obtain ⟨hsized', hsum'⟩ := sum_owed_foldl _ hsized hcs
          rw [hstep]
          refine ⟨hsized', ?_⟩
          have hmem : c ∈ t.pending root l := by
            simp only [pending, mem_filter, List.mem_toFinset]
            exact ⟨hc, Or.inl hfresh⟩
          rw [← add_sum_erase _ _ hmem, hgrad] at hsum
          have horder : ∀ p ∈ ps, p ∈ t.order root := fun p hp => by simp [h, hps p hp]
          rw [hsum', sum_contributions lin horder, hpending,
            ← lin.adjoint c hc operation ps hn grad hlen, add_comm]
          exact hsum

/-- At the end only the tensors without a node hold their gradients. -/
theorem sweep_balanced (wf : t.WellFormed) (lin : t.Linearized root tangent)
    (hroot : t.size root = 1) :
    ∑ id ∈ (t.order root).toFinset with t.node id = none,
      t.owed tangent id ((t.sweep leaves root).gradients id) = (tangent root).getD 0 0 := by
  have hall : ∑ id ∈ t.pending root (t.order root),
      t.owed tangent id ((t.sweep leaves root).gradients id) = (tangent root).getD 0 0 :=
    (flow_balanced wf lin hroot (List.append_nil _).symm).2
  rw [← hall]
  have hpending : t.pending root (t.order root) =
      (t.order root).toFinset.filter fun id => t.node id = none := by
    ext id
    simp only [pending, mem_filter, List.mem_toFinset]
    constructor
    · rintro ⟨hid, hdone | hnone⟩
      · exact absurd hid hdone
      · exact ⟨hid, hnone⟩
    · rintro ⟨hid, hnone⟩
      exact ⟨hid, Or.inr hnone⟩
  rw [hpending]

end Tape

end Tensora
