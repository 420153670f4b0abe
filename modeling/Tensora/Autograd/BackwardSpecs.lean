import Tensora.Autograd.ApplySpecs

/-! `Backward` computes the sweep of the tape it starts from. It rejects a root
that is not a scalar, does not require grad, or depends on a stale node, and
changes nothing then; else it returns unless it runs out of memory. -/
namespace Tensora
open CheckedLoop Autograd

variable {F : Type}

def Heap.currentAt (h : Heap F) (id : TensorId) : Bool :=
  match h.gradFn id with
  | none => true
  | some node => node.parentVersions == node.parents.map h.version

def Heap.current (h : Heap F) (root : TensorId) : Bool := (h.tape.order root).all h.currentAt

def backwardReject (h : Heap F) (root : TensorId) : Option Failure :=
  if (h.dims root).prod ≠ 1 then
    some (invalidShape "tensor_backward: loss tensor must contain one value")
  else if h.requiresGrad root = false then
    some (invalidArgument "tensor_backward: tensor does not require gradients")
  else if h.current root = false then some staleError
  else none

section Tape
variable {h : Heap F}

@[simp] theorem Heap.tape_contents (h : Heap F) : h.tape.contents = h.contents := rfl
@[simp] theorem Heap.tape_dims (h : Heap F) : h.tape.dims = h.dims := rfl
@[simp] theorem Heap.tape_requiresGrad (h : Heap F) : h.tape.requiresGrad = h.requiresGrad := rfl

theorem Heap.tape_node {id : TensorId} {node : GradNode} (hn : h.gradFn id = some node) :
    h.tape.node id = some (node.operation, node.parents) := by
  simp only [Heap.tape, hn, Option.map_some]

theorem Heap.tape_node_none {id : TensorId} (hn : h.gradFn id = none) : h.tape.node id = none := by
  simp only [Heap.tape, hn, Option.map_none]

theorem Heap.tape_parents {id : TensorId} {node : GradNode} (hn : h.gradFn id = some node) :
    h.tape.parents id = node.parents := by
  simp only [Tape.parents, Heap.tape_node hn]

theorem Heap.gradFn_of_parent {id p : TensorId} (hp : p ∈ h.tape.parents id) :
    ∃ node, h.gradFn id = some node ∧ p ∈ node.parents := by
  cases hn : h.gradFn id with
  | none => simp [Tape.parents, Heap.tape_node_none hn] at hp
  | some node =>
      rw [Heap.tape_parents hn] at hp
      exact ⟨node, rfl, hp⟩

theorem WellFormed.tape (wf : WellFormed h) : h.tape.WellFormed where
  earlier := by
    intro id p hp
    obtain ⟨node, hn, hmem⟩ := Heap.gradFn_of_parent hp
    exact (wf.node hn).2.2.2.earlier p hmem
  requires := by
    intro id operation parents hnode
    cases hn : h.gradFn id with
    | none => simp [Heap.tape_node_none hn] at hnode
    | some node => exact (wf.node hn).1
  shapes := by
    intro id operation parents hnode
    cases hn : h.gradFn id with
    | none => simp [Heap.tape_node_none hn] at hnode
    | some node =>
        rw [Heap.tape_node hn] at hnode
        cases hnode
        exact (wf.node hn).2.2.2.shapes
  lengths := by
    intro id p hp
    obtain ⟨node, hn, hmem⟩ := Heap.gradFn_of_parent hp
    obtain ⟨t, ht⟩ := (wf.parent_visible hn hmem).get
    exact wf.length_contents ht

theorem WellFormed.order_visible (wf : WellFormed h) {root id : TensorId} (hv : h.Visible root)
    (hid : id ∈ h.tape.order root) : h.Visible id := by
  rcases Relation.ReflTransGen.cases_tail ((Tape.mem_order wf.tape).mp hid) with heq | ⟨c, -, hp⟩
  · rw [heq]
    exact hv
  · obtain ⟨node, hn, hmem⟩ := Heap.gradFn_of_parent hp
    exact wf.parent_visible hn hmem

theorem Heap.current_iff {root : TensorId} : h.current root = true ↔
    ∀ id ∈ h.tape.order root, ∀ node, h.gradFn id = some node →
      node.parentVersions = node.parents.map h.version := by
  unfold Heap.current
  rw [List.all_eq_true]
  refine forall₂_congr fun id _ => ?_
  unfold Heap.currentAt
  cases h.gradFn id with
  | none => simp
  | some node => simp

end Tape

section Traversal
variable {h : Heap F}

theorem spec_buildTopology (wf : WellFormed h) (fuel : Nat) :
    ∀ id traversal, id < fuel → id < h.tensors.length →
      Observes (buildTopology fuel id traversal : Mem F Traversal) h fun r =>
        (⟨r.visited, r.topology⟩ : PostOrder.Progress TensorId) =
          PostOrder.visit h.tape.parents fuel id ⟨traversal.visited, traversal.topology⟩ := by
  induction fuel with
  | zero => exact fun id _ hlt => absurd hlt (Nat.not_lt_zero _)
  | succ fuel ih =>
      intro id traversal hlt hid
      obtain ⟨t, ht⟩ : ∃ t, h.tensors[id]? = some t := ⟨_, List.getElem?_eq_getElem hid⟩
      unfold buildTopology PostOrder.visit
      refine (observes_allocate h).bind rfl fun _ _ => ?_
      refine spec_ite (fun hmem => ?_) fun hmem => ?_
      · rw [if_pos hmem]
        exact spec_pure ⟨rfl, rfl⟩
      rw [if_neg hmem]
      refine (observes_deref ht).bind rfl ?_
      rintro t rfl
      have hfold : ∀ (ps : List TensorId) (entered : Traversal),
          (∀ p ∈ ps, p < fuel ∧ p < h.tensors.length) →
          Observes (ps.foldlM (fun traversal parent => buildTopology fuel parent traversal)
            entered : Mem F Traversal) h fun r =>
            (⟨r.visited, r.topology⟩ : PostOrder.Progress TensorId) =
              ps.foldl (fun s b => PostOrder.visit h.tape.parents fuel b s)
                ⟨entered.visited, entered.topology⟩ := by
        intro ps
        induction ps with
        | nil => exact fun entered _ => spec_pure ⟨rfl, rfl⟩
        | cons p ps ihps =>
            intro entered hps
            obtain ⟨hfuel, hlen⟩ := hps p (by simp)
            rw [List.foldlM_cons, List.foldl_cons]
            refine (ih p entered hfuel hlen).bind rfl fun next hnext => ?_
            rw [← hnext]
            exact ihps next fun q hq => hps q (by simp [hq])
      rw [← Heap.gradFn_of ht]
      cases hn : h.gradFn id with
      | none =>
          simp only [pure_bind, Tape.parents, Heap.tape_node_none hn, List.foldl_nil]
          refine (observes_allocate h).bind rfl fun _ _ => ?_
          exact spec_pure ⟨rfl, rfl⟩
      | some node =>
          rw [Heap.tape_parents hn]
          refine (hfold node.parents ⟨id :: traversal.visited, traversal.topology⟩ fun p hp =>
            ⟨?_, ?_⟩).bind rfl fun explored hexplored => ?_
          · exact Nat.lt_of_lt_of_le ((wf.node hn).2.2.2.earlier p hp) (Nat.lt_succ_iff.mp hlt)
          · exact (wf.parent_visible hn hp).1
          · refine (observes_allocate h).bind rfl fun _ _ => ?_
            refine spec_pure ⟨rfl, ?_⟩
            rw [← hexplored]

/-- The traversal of `Backward` is the tape's order, reversed. -/
theorem observes_topology (wf : WellFormed h) {root : TensorId} (hv : h.Visible root) :
    Observes (buildTopology h.tensors.length root ⟨[], []⟩ : Mem F Traversal) h
      fun r => r.topology.reverse = h.tape.order root := by
  refine (spec_buildTopology wf h.tensors.length root ⟨[], []⟩ hv.1 hv.1).mono
    (fun r h' hq => ⟨hq.1, ?_⟩) (fun _ _ he => he) fun _ hx => hx
  have hvisit := hq.2
  rw [PostOrder.visit_eq id (fun a p hp => wf.tape.earlier a p hp) _ (root + 1) root _
    hv.1 (Nat.lt_succ_self root)] at hvisit
  rw [Tape.order, PostOrder.postOrder, ← hvisit]

theorem spec_validateTopology (wf : WellFormed h) {ids : List TensorId}
    (hids : ∀ id ∈ ids, id < h.tensors.length) :
    Spec (validateTopology ids : Mem F Unit) h
      (fun _ h' => h' = h ∧ ids.all h.currentAt = true)
      (fun e h' => h' = h ∧ ids.all h.currentAt = false ∧ e = staleError) (fun h' => h' = h) := by
  unfold validateTopology
  induction ids with
  | nil => exact spec_pure ⟨rfl, rfl⟩
  | cons id ids ih =>
      have hrest := ih fun i hi => hids i (by simp [hi])
      obtain ⟨t, ht⟩ : ∃ t, h.tensors[id]? = some t :=
        ⟨_, List.getElem?_eq_getElem (hids id (by simp))⟩
      change Spec (_ >>= fun _ => ids.forM _) h _ _ _
      have hstep : Spec (do
            match (← deref id).gradFn with
            | none => pure ()
            | some node => validateSavedVersions node : Mem F Unit) h
          (fun _ h' => h' = h ∧ h.currentAt id = true)
          (fun e h' => h' = h ∧ h.currentAt id = false ∧ e = staleError) (fun h' => h' = h) := by
        refine (observes_deref ht).bind rfl ?_
        rintro t rfl
        rw [← Heap.gradFn_of ht]
        unfold Heap.currentAt
        cases hn : h.gradFn id with
        | none => exact spec_pure ⟨rfl, rfl⟩
        | some node =>
            refine (spec_validateSavedVersions wf (wf.node hn).2.2.2.versions fun p hp =>
              (wf.parent_visible hn hp).1).mono ?_ ?_ fun _ hx => hx
            · rintro _ _ ⟨rfl, heq⟩
              exact ⟨rfl, beq_iff_eq.mpr heq⟩
            · rintro e _ ⟨rfl, hne, rfl⟩
              exact ⟨rfl, beq_eq_false_iff_ne.mpr hne, rfl⟩
      refine Spec.bind (hstep.mono (fun _ _ hq => hq) ?_ fun _ hx => hx) ?_
      · rintro e _ ⟨rfl, hc, rfl⟩
        exact ⟨rfl, by rw [List.all_cons, hc]; rfl, rfl⟩
      · rintro _ _ ⟨rfl, hc⟩
        rw [List.all_cons, hc, Bool.true_and]
        exact hrest

end Traversal

section Loop
variable [Scalar F] {h₀ h : Heap F}

theorem contributions_fst {t : Tape F} {operation : Operation} {ps : List TensorId}
    {grad : List F} :
    (t.contributions operation ps grad).map Prod.fst = ps.filter t.requiresGrad := by
  have hzip (ps : List TensorId) (k : Nat) :
      ((ps.zipIdx k).filter fun entry => t.requiresGrad entry.1).map Prod.fst =
        ps.filter t.requiresGrad := by
    induction ps generalizing k with
    | nil => rfl
    | cons p ps ih =>
        rw [List.zipIdx_cons, List.filter_cons, List.filter_cons]
        by_cases hp : t.requiresGrad p = true
        · simp only [hp, if_true, List.map_cons, ih]
        · simp only [hp]
          exact ih (k + 1)
  simp only [Tape.contributions, List.map_map]
  exact hzip ps 0

theorem Backs.contributions_eq (b : Backs h₀ h) (operation : Operation) {ps : List TensorId}
    (hps : ∀ p ∈ ps, h₀.Visible p) (grad : List F) :
    h.tape.contributions operation ps grad = h₀.tape.contributions operation ps grad := by
  have hdims : ps.map h.dims = ps.map h₀.dims :=
    List.map_congr_left fun p hp => b.dims_eq (hps p hp).1
  have hcontents : ps.map h.contents = ps.map h₀.contents :=
    List.map_congr_left fun p hp => b.contents p (hps p hp)
  have hreq : h.requiresGrad = h₀.requiresGrad := funext b.requiresGrad_eq
  simp only [Tape.contributions, Heap.tape_dims, Heap.tape_contents, Heap.tape_requiresGrad, hdims,
    hcontents, hreq]

theorem spec_deliverAll {sweep : Sweep F} {gradients leaves : TensorId → Option (List F)}
    (s : Sweeping h₀ h sweep gradients leaves) (cs : List GradientContribution)
    (expected : List (TensorId × List F))
    (hcs : List.Forall₂ (fun c e => c.parent = e.1 ∧ Offered h₀ h sweep c e.2) cs expected) :
    Spec (cs.foldlM deliver sweep) h
      (fun sweep' h' => Sweeping h₀ h' sweep' (expected.foldl deliverTo gradients) leaves ∧
        sweep'.applied = sweep.applied)
      (fun _ _ => False) (fun h' => Backs h₀ h' ∧ h'.gradientContents = leaves) := by
  induction cs generalizing h sweep gradients expected with
  | nil =>
      obtain rfl := List.forall₂_nil_left_iff.mp hcs
      exact spec_pure ⟨s, rfl⟩
  | cons c cs ih =>
      obtain ⟨e, rest, ⟨hparent, hoffer⟩, hrest, rfl⟩ := List.forall₂_cons_left_iff.mp hcs
      rw [List.foldlM_cons, List.foldl_cons]
      refine Spec.bind (spec_deliver s hoffer) ?_
      rintro sweep' h' ⟨s', happlied, hwait⟩
      rw [hparent] at s'
      refine (ih s' rest (hrest.imp fun c' e' hc' => ⟨hc'.1, hwait c' _ hc'.2⟩)).mono ?_
        (fun _ _ he => he) fun _ hx => hx
      rintro sweep'' h'' ⟨s'', happlied'⟩
      exact ⟨s'', happlied'.trans happlied⟩

/-- One turn of the loop is one step of the flow. -/
theorem spec_sweepStep (wf : WellFormed h₀) {sweep : Sweep F} {flow : Flow F} {id : TensorId}
    (s : Sweeping h₀ h sweep flow.gradients flow.leaves) (hv : h₀.Visible id)
    (hcurrent : h₀.currentAt id = true)
    (hreached : h₀.gradFn id ≠ none → (flow.gradients id).isSome = true) :
    Spec (sweepStep sweep id) h
      (fun sweep' h' => Sweeping h₀ h' sweep' (h₀.tape.flowStep flow id).gradients
          (h₀.tape.flowStep flow id).leaves ∧
        sweep'.applied = sweep.applied ++ h₀.tape.applications [id])
      (fun _ _ => False) (fun h' => Backs h₀ h' ∧ h'.gradientContents = flow.leaves) := by
  have wf' := s.backs.wellFormed
  have hX : Backs h₀ h ∧ h.gradientContents = flow.leaves := ⟨s.backs, s.leaves⟩
  have hheld := s.held id
  unfold sweepStep Tape.flowStep
  cases hg : sweep.gradients id with
  | none =>
      rw [hg] at hheld
      rw [← hheld]
      refine spec_pure ⟨s, ?_⟩
      cases hn : h₀.gradFn id with
      | none => simp [Tape.applications, Heap.tape_node_none hn]
      | some node =>
          rw [← hheld] at hreached
          exact absurd (hreached (by simp [hn])) (by simp)
  | some upstream =>
      rw [hg, Option.map_some] at hheld
      rw [← hheld]
      simp only
      have hup := s.owned id upstream hg
      obtain ⟨t, ht⟩ := (s.backs.visible id hv).get
      refine (observes_deref ht).bind hX ?_
      rintro t rfl
      rw [← Heap.autogradMeta_of ht]
      have hfn := s.backs.gradFn_eq id
      have hreq := s.backs.requiresGrad_eq id
      cases hm : h.autogradMeta id with
      | none =>
          have hn : h₀.gradFn id = none := by rw [← hfn, Heap.gradFn, hm]; rfl
          have hr : h₀.requiresGrad id = false := by rw [← hreq, Heap.requiresGrad, hm]
          simp only [Heap.tape_node_none hn, Tape.isLeaf, Heap.tape_requiresGrad, hr,
            Bool.false_and]
          exact spec_pure ⟨s, by simp [Tape.applications, Heap.tape_node_none hn]⟩
      | some m =>
          have hok := wf'.recorded id m hm
          have hmr : m.requiresGrad = h₀.requiresGrad id := by
            rw [← hreq, Heap.requiresGrad, hm]
          have hmn : m.gradFn = h₀.gradFn id := by rw [← hfn, Heap.gradFn, hm, Option.bind_some]
          unfold MetaOk at hok
          rw [hmn] at hok
          simp only
          cases hn : h₀.gradFn id with
          | none =>
              rw [hn] at hok
              simp only at hok
              simp only [hok, Bool.and_true, hmn, hn, Heap.tape_node_none hn, Tape.isLeaf,
                Heap.tape_requiresGrad, Option.isNone_none, hmr]
              have happ : h₀.tape.applications [id] = [] := by
                simp [Tape.applications, Heap.tape_node_none hn]
              rw [happ, List.append_nil]
              by_cases hr : h₀.requiresGrad id = true
              · rw [if_pos hr, if_pos hr]
                refine Spec.bind
                  (spec_accumulateLeaf s hv hm (hmr.trans hr) (hmn.trans hn) hok hg) ?_
                intro _ h' s'
                exact spec_pure ⟨s', rfl⟩
              · rw [if_neg hr, if_neg hr]
                exact spec_pure ⟨s, rfl⟩
          | some node =>
              rw [hn] at hok
              simp only at hok
              have hps : ∀ p ∈ node.parents, h₀.Visible p := fun p hp => wf.parent_visible hn hp
              have hsaved : node.parentVersions = node.parents.map h.version := by
                have hcur : node.parentVersions = node.parents.map h₀.version := by
                  simpa [Heap.currentAt, hn] using hcurrent
                rw [hcur]
                exact List.map_congr_left fun p hp => (s.backs.version_eq wf (hps p hp).1).symm
              have hnode : h.gradFn id = some node := hfn.trans hn
              have hdims : h.dims upstream = h.dims id := by
                rw [hup.dims_eq, s.backs.dims_eq hv.1]
              simp only [hok.2.1, Bool.and_false, hmn, hn, Tape.isLeaf, Heap.tape_node hn,
                Option.isNone_some]
              refine (observes_getHeap h).bind hX ?_
              rintro h rfl
              refine Spec.bind ((spec_applyNode wf' hnode hsaved hup.lt hdims).mono
                (fun _ _ hq => hq) (fun _ _ he => he) ?_) ?_
              · intro h' plain
                have s' := s.plain plain
                exact ⟨s'.backs, s'.leaves⟩
              intro cs h' e
              have s' := s.plain e.plain
              rw [s.backs.contributions_eq node.operation hps] at e
              have hparents : cs.map (·.parent) = node.parents.filter h₀.tape.requiresGrad := by
                rw [← contributions_fst, ← List.forall₂_eq_eq_eq, List.forall₂_map_left_iff,
                  List.forall₂_map_right_iff]
                exact e.made.imp fun c x hc => hc.1
              have hknown : ∀ c ∈ cs, c.parent < h₀.tensors.length := by
                intro c hc
                have hmem : c.parent ∈ node.parents.filter h₀.tape.requiresGrad := by
                  rw [← hparents]
                  exact List.mem_map_of_mem hc
                exact (hps _ (List.mem_of_mem_filter hmem)).1
              have hwait : List.Forall₂ (fun c e => c.parent = e.1 ∧ Offered h₀ h' sweep c e.2) cs
                  (h₀.tape.contributions node.operation node.parents (h.contents upstream)) := by
                refine ((List.forall₂_and_left _ _).mpr ⟨hknown, e.made⟩).imp ?_
                rintro c x ⟨hpl, hparent, hle, hlt, hd, hc⟩
                refine ⟨hparent, hlt, ?_, hc, fun id' hid' => ?_⟩
                · rw [hd, s.backs.dims_eq hpl]
                · exact Nat.not_lt.mpr hle (s.owned id' _ hid').lt
              refine Spec.bind (spec_deliverAll s' cs _ hwait) ?_
              rintro sweep' h'' ⟨s'', happlied⟩
              have hcontents : node.parents.map h.contents = node.parents.map h₀.contents :=
                List.map_congr_left fun p hp => s.backs.contents p (hps p hp)
              refine spec_pure ⟨?_, ?_⟩
              · rw [if_neg Bool.false_ne_true]
                exact ⟨s''.backs, s''.leaves, s''.held, s''.owned, s''.scratch, s''.distinct⟩
              · simp only [happlied, Tape.applications, List.filterMap_cons, List.filterMap_nil,
                  Heap.tape_node hn, Option.map_some, hcontents, hparents, Heap.tape_contents]

theorem spec_sweepFront (wf : WellFormed h₀) {root : TensorId} {sweep : Sweep F}
    (hv : h₀.Visible root)
    (hcurrent : h₀.current root = true) (hroot : h₀.requiresGrad root = true)
    (s : Sweeping h₀ h sweep (Tape.start h₀.gradientContents root).gradients h₀.gradientContents)
    (happlied : sweep.applied = []) {front back : List TensorId}
    (hfront : h₀.tape.order root = front ++ back) :
    Spec (front.foldlM sweepStep sweep) h
      (fun sweep' h' => Sweeping h₀ h' sweep'
          (h₀.tape.flow h₀.gradientContents root front).gradients
          (h₀.tape.flow h₀.gradientContents root front).leaves ∧
        sweep'.applied = h₀.tape.applications front)
      (fun _ _ => False)
      (fun h' => Backs h₀ h' ∧ ∃ done id rest, h₀.tape.order root = done ++ id :: rest ∧
        h₀.requiresGrad id = true ∧
        h'.gradientContents = (h₀.tape.flow h₀.gradientContents root done).leaves) := by
  refine spec_foldlM (fun done _ sweep h =>
    Sweeping h₀ h sweep (h₀.tape.flow h₀.gradientContents root done).gradients
      (h₀.tape.flow h₀.gradientContents root done).leaves ∧
      sweep.applied = h₀.tape.applications done) _ ⟨s, happlied⟩ ?_ ?_
  · rintro done id rest sweep h hsplit ⟨s, happlied⟩
    have horder : h₀.tape.order root = done ++ id :: (rest ++ back) := by
      rw [hfront, hsplit, List.append_assoc, List.cons_append]
    have hmem : id ∈ h₀.tape.order root := by rw [horder]; simp
    have hstep := spec_sweepStep wf s (wf.order_visible hv hmem)
      (List.all_eq_true.mp hcurrent id hmem) fun hn => by
        obtain ⟨node, hnode⟩ := Option.ne_none_iff_exists'.mp hn
        exact Tape.flow_isSome_at wf.tape horder (wf.node hnode).1
    have hnext : ∀ sweep' h', Sweeping h₀ h' sweep'
          (h₀.tape.flowStep (h₀.tape.flow h₀.gradientContents root done) id).gradients
          (h₀.tape.flowStep (h₀.tape.flow h₀.gradientContents root done) id).leaves ∧
        sweep'.applied = sweep.applied ++ h₀.tape.applications [id] →
        Sweeping h₀ h' sweep' (h₀.tape.flow h₀.gradientContents root (done ++ [id])).gradients
          (h₀.tape.flow h₀.gradientContents root (done ++ [id])).leaves ∧
        sweep'.applied = h₀.tape.applications (done ++ [id]) := by
      rintro sweep' h' ⟨s', happlied'⟩
      rw [Tape.flow_snoc]
      refine ⟨s', ?_⟩
      rw [happlied', happlied, Tape.applications, Tape.applications, Tape.applications,
        List.filterMap_append]
    cases hgrad : h₀.requiresGrad id with
    | true =>
        refine hstep.mono hnext (fun _ _ he => he) ?_
        rintro h' ⟨hb, hleaves⟩
        exact ⟨hb, done, id, rest ++ back, horder, hgrad, hleaves⟩
    | false =>
        -- nothing reaches it, so its turn allocates nothing
        have hnone : sweep.gradients id = none := by
          have hheld := s.held id
          rw [Tape.flow_none hroot done hgrad] at hheld
          exact Option.map_eq_none_iff.mp hheld
        have hskip : (sweepStep sweep id : Mem F (Sweep F)) = pure sweep := by
          unfold sweepStep
          rw [hnone]
        rw [hskip] at hstep ⊢
        intro a
        have h := hstep a
        rw [ProgramLogic.wp_pure] at h ⊢
        exact ⟨h.1, hnext _ _ h.2⟩
  · exact fun _ _ hdone => hdone

theorem spec_sweep (wf : WellFormed h₀) {root : TensorId} {sweep : Sweep F} (hv : h₀.Visible root)
    (hcurrent : h₀.current root = true) (hroot : h₀.requiresGrad root = true)
    (s : Sweeping h₀ h sweep (Tape.start h₀.gradientContents root).gradients h₀.gradientContents)
    (happlied : sweep.applied = []) :
    Spec ((h₀.tape.order root).foldlM sweepStep sweep) h
      (fun sweep' h' => Backs h₀ h' ∧
        h'.gradientContents = (h₀.tape.sweep h₀.gradientContents root).leaves ∧
        sweep'.applied = h₀.tape.applications (h₀.tape.order root))
      (fun _ _ => False)
      (fun h' => Backs h₀ h' ∧ ∃ done id rest, h₀.tape.order root = done ++ id :: rest ∧
        h₀.requiresGrad id = true ∧
        h'.gradientContents = (h₀.tape.flow h₀.gradientContents root done).leaves) := by
  refine (spec_sweepFront wf hv hcurrent hroot s happlied (List.append_nil _).symm).mono ?_
    (fun _ _ he => he) fun _ hx => hx
  rintro sweep' h' ⟨s', happlied'⟩
  exact ⟨s'.backs, s'.leaves, happlied'⟩

end Loop

section Backward
variable [Scalar F] {h : Heap F}

omit [Scalar F] in
theorem ShapeInfo.Layout.eq_canonical {s : ShapeInfo} (hs : s.Layout) (hn : s.dimensions.prod = 1) :
    s = canonicalShape s.dimensions := by
  rcases hs.strides_eq with hrow | ⟨rows, cols, hd, hcol⟩
  · exact (hs.canonical hrow).eq
  · rw [hd] at hn
    simp only [List.prod_cons, List.prod_nil, Nat.mul_one] at hn
    obtain rfl : rows = 1 := Nat.eq_one_of_mul_eq_one_right hn
    obtain rfl : cols = 1 := Nat.eq_one_of_mul_eq_one_left hn
    refine (hs.canonical ?_).eq
    rw [hcol, hd]
    rfl

/-- What `Backward` leaves when it runs out of memory: the leaves reached so far
have their gradients, the others do not. -/
def Interrupted (h : Heap F) (root : TensorId) (h' : Heap F) : Prop :=
  Backs h h' ∧ ∃ done rest, h.tape.order root = done ++ rest ∧ rest ≠ [] ∧
    (backwardReject h root = none ∨ done = []) ∧
    h'.gradientContents = (h.tape.flow h.gradientContents root done).leaves

/-- Where exactly it stopped: before the first leaf, or at a tensor that requires grad. -/
def Stopped (h : Heap F) (root : TensorId) (h' : Heap F) : Prop :=
  Backs h h' ∧ (h'.gradientContents = h.gradientContents ∨ backwardReject h root = none ∧
    ∃ done id rest, h.tape.order root = done ++ id :: rest ∧ h.requiresGrad id = true ∧
      h'.gradientContents = (h.tape.flow h.gradientContents root done).leaves)

theorem Stopped.interrupted {root : TensorId} {h' : Heap F} (hstop : Stopped h root h') :
    Interrupted h root h' := by
  obtain ⟨hbacks, hsame | ⟨haccept, done, id, rest, horder, -, hleaves⟩⟩ := hstop
  · obtain ⟨rest, hrest⟩ := h.tape.order_head root
    exact ⟨hbacks, [], root :: rest, hrest, by simp, Or.inr rfl, hsame⟩
  · exact ⟨hbacks, done, id :: rest, horder, by simp, Or.inl haccept, hleaves⟩

/-- `Backward` up to its loop: the order of the loop, and the root's gradient. -/
def backwardPrefix (root : TensorId) : Mem F (List TensorId × Sweep F) := do
  let r ← deref root
  failIf (r.numel ≠ 1)
    (invalidShape "tensor_backward: loss tensor must contain one value")
  failIf (!r.requiresGrad)
    (invalidArgument "tensor_backward: tensor does not require gradients")
  let fuel := (← getHeap).tensors.length
  let traversal ← buildTopology fuel root ⟨[], []⟩
  validateTopology traversal.topology
  let rootGradient ← makeCpuFull r.shape 1
  allocate
  return (traversal.topology.reverse, Sweep.put ⟨fun _ => none, []⟩ root rootGradient)

theorem backwardTrace_eq (root : TensorId) : (backwardTrace root : Mem F _) = do
    let (order, sweep) ← backwardPrefix root
    let sweep ← order.foldlM sweepStep sweep
    return sweep.applied := by
  simp only [backwardTrace, backwardPrefix, bind_assoc, pure_bind]

structure Prepared (h : Heap F) (root : TensorId) (p : List TensorId × Sweep F) (h' : Heap F) :
    Prop where
  accepted : backwardReject h root = none
  current : h.current root = true
  requires : h.requiresGrad root = true
  order : p.1 = h.tape.order root
  sweeping : Sweeping h h' p.2 (Tape.start h.gradientContents root).gradients h.gradientContents
  applied : p.2.applied = []

theorem spec_backwardPrefix (wf : WellFormed h) {root : TensorId} (hv : h.Visible root) :
    Spec (backwardPrefix root) h (Prepared h root)
      (fun e h' => h' = h ∧ backwardReject h root = some e)
      (fun h' => Backs h h' ∧ h'.gradientContents = h.gradientContents) := by
  have hX : Backs h h ∧ h.gradientContents = h.gradientContents := ⟨Backs.refl wf, rfl⟩
  obtain ⟨t, ht⟩ := hv.get
  have hp := wf.placed root t ht
  have hn : t.numel = (h.dims root).prod := Heap.Visible.numel wf ht
  unfold backwardPrefix
  refine (observes_deref ht).bind hX ?_
  rintro t rfl
  rw [hn, ← Heap.requiresGrad_of ht]
  refine spec_failIf_bind (fun hne => ⟨rfl, by rw [backwardReject, if_pos hne]⟩) fun hone => ?_
  refine spec_failIf_bind (fun hreq => ?_) fun hreq => ?_
  · refine ⟨rfl, ?_⟩
    rw [backwardReject, if_neg hone, if_pos (by simpa using hreq)]
  refine (observes_getHeap h).bind hX ?_
  rintro h rfl
  refine (observes_topology wf hv).bind hX fun traversal htopology => ?_
  have hmem : ∀ id ∈ traversal.topology, id < h.tensors.length := by
    intro id hid
    refine (wf.order_visible hv ?_).1
    rw [← htopology]
    exact List.mem_reverse.mpr hid
  have hall : traversal.topology.all h.currentAt = h.current root := by
    rw [Heap.current, ← htopology, List.all_reverse]
  refine Spec.bind ((spec_validateTopology wf hmem).mono (fun _ _ hq => hq) ?_ ?_) ?_
  · rintro e _ ⟨rfl, hstale, rfl⟩
    rw [hall] at hstale
    refine ⟨rfl, ?_⟩
    rw [backwardReject, if_neg hone, if_neg (by simpa using hreq), if_pos hstale]
  · rintro _ rfl
    exact hX
  rintro _ h ⟨rfl, hcurrent⟩
  rw [hall] at hcurrent
  have haccept : backwardReject h root = none := by
    rw [backwardReject, if_neg hone, if_neg (by simpa using hreq), if_neg (by simp [hcurrent])]
  have hone' : (h.dims root).prod = 1 := not_not.mp hone
  have hshape : t.shape = canonicalShape (h.dims root) := by
    rw [Heap.dims_of ht] at hone' ⊢
    exact hp.layout.eq_canonical hone'
  rw [hshape]
  have hd := hv.valid wf
  have hlen : ([1] : List F).length = (h.dims root).prod := by rw [hone']; rfl
  have hfits : (h.dims root).prod ≤ kMaxFloats := hv.fits wf
  have hfilled : List.replicate (canonicalShape (h.dims root)).numel (1 : F) = [1] := by
    rw [canonicalShape, hone']
    rfl
  refine Spec.bind ((spec_makeCpuFull (h := h) 1 hfits).mono (fun _ _ hq => hq)
    (fun _ _ he => he.elim) ?_) ?_
  · intro h' hx
    have plain := Plain.idled wf hx
    exact ⟨(Backs.refl wf).plain plain, plain.gradientContents_eq wf⟩
  rintro g h' ⟨rfl, hh'⟩
  rw [hfilled] at hh'
  have plain : Plain h h' := hh' ▸ Plain.fresh wf hd hlen hfits
  have howned : Owned h' h.tensors.length (h.dims root) := hh' ▸ Plain.fresh_owned wf hd hlen hfits
  have hcontents : h'.contents h.tensors.length = [1] :=
    hh' ▸ contents_pushFresh wf hd hlen hfits (metaPushable_none h _)
  have hbacks := (Backs.refl wf).plain plain
  have hnone : Sweeping h h ⟨fun _ => none, []⟩ (fun _ => none) h.gradientContents := {
    backs := Backs.refl wf
    leaves := rfl
    held := fun _ => rfl
    owned := fun _ _ hg => by cases hg
    scratch := fun _ _ hg => by cases hg
    distinct := fun _ _ _ hg => by cases hg }
  have hstart : Sweeping h h' (Sweep.put ⟨fun _ => none, []⟩ root h.tensors.length)
      (Tape.start h.gradientContents root).gradients h.gradientContents :=
    (hnone.plain plain).put_fresh howned hcontents (Nat.le_refl _)
      (plain.added_visible wf (Nat.le_refl _) howned.lt).2 fun _ hg => by cases hg
  refine (observes_allocate h').bind ⟨hbacks, plain.gradientContents_eq wf⟩ fun _ _ => ?_
  exact spec_pure ⟨haccept, hcurrent, by simpa using hreq, htopology, hstart, rfl⟩

theorem spec_backwardTrace_stopped (wf : WellFormed h) {root : TensorId} (hv : h.Visible root) :
    Spec (backwardTrace root) h
      (fun trace h' => backwardReject h root = none ∧ Backs h h' ∧
        h'.gradientContents = (h.tape.sweep h.gradientContents root).leaves ∧
        trace = h.tape.applications (h.tape.order root))
      (fun e h' => h' = h ∧ backwardReject h root = some e) (Stopped h root) := by
  rw [backwardTrace_eq]
  refine Spec.bind ((spec_backwardPrefix wf hv).mono (fun _ _ hq => hq) (fun _ _ he => he) ?_) ?_
  · rintro h' ⟨hbacks, hsame⟩
    exact ⟨hbacks, Or.inl hsame⟩
  rintro ⟨order, sweep⟩ h' prepared
  obtain rfl : order = h.tape.order root := prepared.order
  refine Spec.bind ((spec_sweep wf hv prepared.current prepared.requires prepared.sweeping
    prepared.applied).mono (fun _ _ hq => hq) (fun _ _ he => he.elim) ?_) ?_
  · rintro h'' ⟨hb, hstop⟩
    exact ⟨hb, Or.inr ⟨prepared.accepted, hstop⟩⟩
  · rintro sweep h'' ⟨hb, hleaves, happlied⟩
    exact spec_pure ⟨prepared.accepted, hb, hleaves, happlied⟩

theorem spec_backwardTrace (wf : WellFormed h) {root : TensorId} (hv : h.Visible root) :
    Spec (backwardTrace root) h
      (fun trace h' => backwardReject h root = none ∧ Backs h h' ∧
        h'.gradientContents = (h.tape.sweep h.gradientContents root).leaves ∧
        trace = h.tape.applications (h.tape.order root))
      (fun e h' => h' = h ∧ backwardReject h root = some e) (Interrupted h root) :=
  (spec_backwardTrace_stopped wf hv).mono (fun _ _ hq => hq) (fun _ _ he => he)
    fun _ hstop => hstop.interrupted

end Backward

end Tensora
