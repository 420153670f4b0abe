import Tensora.Autograd.ActivationDerivatives
import Tensora.Autograd.ReverseMode

/-! Over the reals the forward-mode derivative of a tape is the partial derivative of the
expression it recorded. -/
namespace Tensora
open CheckedLoop Finset TrivSqZeroExt

def RealOrder [Given ℝ] : Prop := ∀ x y : ℝ, Given.less x y = true ↔ x < y

structure Varies (x : ℝ → List ℝ) (d : List (DualNumber ℝ)) (c : ℝ) : Prop where
  length : ∀ v, (x v).length = d.length
  partials : ∀ i, HasDerivAt (fun v => (x v).getD i 0) (d.getD i 0).snd c

structure Tracks (x : ℝ → List ℝ) (d : List (DualNumber ℝ)) (c : ℝ) : Prop extends
    Varies x d c where
  value : x c = primal d

section Arrays
variable {x y : ℝ → List ℝ} {d e : List (DualNumber ℝ)} {c : ℝ}

theorem Tracks.entry (f : Tracks x d c) (i : Nat) : (x c).getD i 0 = (d.getD i 0).fst := by
  rw [f.value, getD_primal]

theorem Varies.tab {n : Nat} {f : ℝ → Nat → ℝ} {g : Nat → DualNumber ℝ}
    (h : ∀ i < n, HasDerivAt (fun v => f v i) (g i).snd c) :
    Varies (fun v => CheckedLoop.tab n (f v)) (CheckedLoop.tab n g) c where
  length := by
    intro v
    simp only [length_tab]
  partials := by
    intro i
    by_cases hi : i < n
    · simp only [getD_tab _ _ hi]
      exact h i hi
    · simp only [List.getD_eq_getElem?_getD, getElem?_tab, if_neg hi, Option.getD_none, snd_zero]
      exact hasDerivAt_const c 0

theorem Varies.singleton {f : ℝ → ℝ} {g : DualNumber ℝ} (h : HasDerivAt f g.snd c) :
    Varies (fun v => [f v]) [g] c := by
  have htab : Varies (fun v => CheckedLoop.tab 1 fun _ => f v) (CheckedLoop.tab 1 fun _ => g) c :=
    Varies.tab fun _ _ => h
  exact htab

theorem Tracks.mul (f : Tracks x d c) (f' : Tracks y e c) (i j : Nat) :
    HasDerivAt (fun v => (x v).getD i 0 * (y v).getD j 0) (d.getD i 0 * e.getD j 0).snd c := by
  have h := (f.partials i).mul (f'.partials j)
  rw [f.entry, f'.entry] at h
  rw [DualNumber.snd_mul, add_comm]
  exact h

theorem Tracks.comp (f : Tracks x d c) (i : Nat) {g : ℝ → ℝ} {g' : ℝ}
    (hg : HasDerivAt g g' (d.getD i 0).fst) :
    HasDerivAt (fun v => g ((x v).getD i 0)) (g' * (d.getD i 0).snd) c := by
  rw [← f.entry] at hg
  exact hg.comp c (f.partials i)

end Arrays

section Operations
variable [Given ℝ] {slope : Operation → ℝ → ℝ} {x y : ℝ → List ℝ} {d e : List (DualNumber ℝ)}
  {c : ℝ}

omit [Given ℝ] in
theorem Tracks.map (f : Tracks x d c) {g : ℝ → ℝ} {g' : DualNumber ℝ → DualNumber ℝ}
    (h : ∀ i < d.length, HasDerivAt (fun v => g ((x v).getD i 0)) (g' (d.getD i 0)).snd c) :
    Varies (fun v => (x v).map g) (d.map g') c := by
  have hx : ∀ v, (x v).map g = CheckedLoop.tab d.length fun i => g ((x v).getD i 0) := by
    intro v
    conv_lhs => rw [eq_tab_getD (x v) 0]
    rw [map_tab, f.length]
  have hd : d.map g' = CheckedLoop.tab d.length fun i => g' (d.getD i 0) := by
    conv_lhs => rw [eq_tab_getD d 0]
    rw [map_tab]
  simp only [hx]
  rw [hd]
  exact Varies.tab h

theorem hasDerivAt_lifted (given : GivenSlopes slope) (a : StandardFunctions) (o : RealOrder)
    {operation : Operation} (hmem : operation ∈ [Operation.relu, .sigmoid, .tanh, .gelu, .silu])
    (v : DualNumber ℝ) (hkink : operation = .relu → v.fst ≠ 0) :
    HasDerivAt (Training.activationForward operation : ℝ → ℝ) (slope operation v.fst) v.fst := by
  rw [← given operation hmem]
  have hcases := List.mem_cons.mp hmem
  rcases hcases with rfl | hsmooth
  · have hne := hkink rfl
    rcases lt_or_gt_of_ne hne with hneg | hpos
    · have hfactor : Autograd.activationFactor .relu v.fst = 0 := by
        have hnot : Given.less 0 v.fst = false := by
          rw [Bool.eq_false_iff]
          exact fun h => lt_asymm hneg ((o 0 v.fst).mp h)
        simp only [Autograd.activationFactor, Scalar.less, hnot, Bool.false_eq_true, if_false]
      rw [hfactor]
      refine (hasDerivAt_const v.fst (0 : ℝ)).congr_of_eventuallyEq ?_
      filter_upwards [Iio_mem_nhds hneg] with w hw
      have hnot : Given.less 0 w = false := by
        rw [Bool.eq_false_iff]
        exact fun h => lt_asymm hw ((o 0 w).mp h)
      simp only [Training.activationForward, Training.reluForward, maximum, Scalar.less, hnot,
        Bool.false_eq_true, if_false]
    · have hfactor : Autograd.activationFactor .relu v.fst = 1 := by
        have hless : Given.less 0 v.fst = true := (o 0 v.fst).mpr hpos
        simp only [Autograd.activationFactor, Scalar.less, hless, if_true]
      rw [hfactor]
      refine (hasDerivAt_id v.fst).congr_of_eventuallyEq ?_
      filter_upwards [Ioi_mem_nhds hpos] with w hw
      have hless : Given.less 0 w = true := (o 0 w).mpr hw
      simp only [Training.activationForward, Training.reluForward, maximum, Scalar.less, hless,
        if_true, id]
  · exact Autograd.hasDerivAt_activationForward a hsmooth v.fst

theorem Tracks.gated (f : Tracks x d c) (given : GivenSlopes slope) (a : StandardFunctions)
    (o : RealOrder) (i j : Nat) :
    HasDerivAt (fun v => (Training.codeFunctions ℝ ℝ).activation .silu ((x v).getD i 0) *
        (x v).getD j 0)
      ((dualFunctions slope).activation .silu (d.getD i 0) * d.getD j 0).snd c := by
  have hlifted : HasDerivAt (Training.activationForward .silu : ℝ → ℝ)
      (slope .silu (d.getD i 0).fst) (d.getD i 0).fst :=
    hasDerivAt_lifted given a o (by simp) (d.getD i 0) fun h => by cases h
  have hsilu : HasDerivAt (fun v => (Training.codeFunctions ℝ ℝ).activation .silu ((x v).getD i 0))
      (slope .silu (d.getD i 0).fst * (d.getD i 0).snd) c := f.comp i hlifted
  have h := hsilu.mul (f.partials j)
  rw [f.entry, f.entry] at h
  rw [DualNumber.snd_mul, fst_activation, snd_activation, add_comm]
  exact h

theorem varies_one (given : GivenSlopes slope) (a : StandardFunctions) (o : RealOrder)
    {operation : Operation} {p r : List Nat} (shapes : OpShapes operation [p] r)
    (hd : d.length = p.prod)
    (hkink : operation = .relu → ∀ i < d.length, (d.getD i 0).fst ≠ 0) (f : Tracks x d c) :
    Varies (fun v => forwardValues ℝ (Training.codeFunctions ℝ ℝ) operation [p] [x v])
      (forwardValues (DualNumber ℝ) (dualFunctions slope) operation [p] [d]) c := by
  cases operation with
  | identity => exact f.toVaries
  | reshape => exact f.toVaries
  | transpose2D =>
      obtain ⟨rows, cols, rfl, rfl⟩ := shapes
      have hlen : d.length = rows * cols := by simpa using hd
      simp only [forwardValues, transposeData_eq_tab 0 hlen,
        fun v => transposeData_eq_tab 0 ((f.length v).trans hlen)]
      exact Varies.tab fun i _ => f.partials _
  | sum =>
      simp only [forwardValues, f.length]
      refine Varies.singleton ?_
      rw [snd_sumTo]
      simp only [sumTo_eq_sum]
      exact HasDerivAt.fun_sum fun i _ => f.partials i
  | swiGlu =>
      simp only [forwardValues, f.length]
      refine Varies.tab fun i _ => ?_
      exact f.gated given a o _ _
  | relu | sigmoid | tanh | gelu | silu =>
      refine f.map fun i hi => ?_
      rw [snd_activation]
      exact f.comp i (hasDerivAt_lifted given a o (by simp) (d.getD i 0) fun h => hkink h i hi)
  | _ => exact shapes.elim

theorem varies_two {operation : Operation} {p q r : List Nat}
    (shapes : OpShapes operation [p, q] r) (hloss : operation ≠ .crossEntropy)
    (f : Tracks x d c) (f' : Tracks y e c) :
    Varies (fun v => forwardValues ℝ (Training.codeFunctions ℝ ℝ) operation [p, q] [x v, y v])
      (forwardValues (DualNumber ℝ) (dualFunctions slope) operation [p, q] [d, e]) c := by
  cases operation with
  | add =>
      simp only [forwardValues, f.length]
      exact Varies.tab fun i _ => (f.partials i).add (f'.partials i)
  | multiply =>
      simp only [forwardValues, f.length]
      exact Varies.tab fun i _ => f.mul f' i i
  | matmul =>
      obtain ⟨m, k, n, rfl, rfl, rfl⟩ := shapes
      simp only [forwardValues]
      refine Varies.tab fun i _ => ?_
      rw [snd_sumTo]
      simp only [sumTo_eq_sum]
      exact HasDerivAt.fun_sum fun j _ => f.mul f' _ _
  | mse =>
      simp only [forwardValues, mseValue, f.length]
      refine Varies.singleton ?_
      have hsum : HasDerivAt (fun v => (∑ i ∈ range d.length, ((x v).getD i 0 - (y v).getD i 0) *
            ((x v).getD i 0 - (y v).getD i 0)) / (d.length : ℝ))
          ((∑ i ∈ range d.length, ((d.getD i 0 - e.getD i 0) * (d.getD i 0 - e.getD i 0)).snd) /
            (d.length : ℝ)) c := by
        refine HasDerivAt.div_const (HasDerivAt.fun_sum fun i _ => ?_) _
        have hsub := (f.partials i).sub (f'.partials i)
        have h := hsub.mul hsub
        simp only [Pi.sub_apply, f.entry, f'.entry] at h
        rw [DualNumber.snd_mul, fst_sub, snd_sub, add_comm]
        exact h
      have hsnd := snd_div_natCast (sumTo d.length fun i => (d.getD i 0 - e.getD i 0) *
        (d.getD i 0 - e.getD i 0)) d.length
      rw [snd_sumTo] at hsnd
      rw [← hsnd] at hsum
      simp only [← sumTo_eq_sum] at hsum
      exact hsum
  | biasAdd =>
      obtain ⟨rows, cols, rfl, rfl, rfl⟩ := shapes
      simp only [forwardValues]
      exact Varies.tab fun i _ => (f.partials i).add (f'.partials _)
  | crossEntropy => exact absurd rfl hloss
  | _ => exact shapes.elim

theorem varies (given : GivenSlopes slope) (a : StandardFunctions) (o : RealOrder)
    {operation : Operation} {dims : List (List Nat)} {r : List Nat}
    (shapes : OpShapes operation dims r)
    (hloss : operation ≠ .crossEntropy) {xs : List (ℝ → List ℝ)} {ds : List (List (DualNumber ℝ))}
    (hlen : List.Forall₂ (fun d p => d.length = p.prod) ds dims)
    (hkink : operation = .relu → ∀ d ∈ ds, ∀ i < d.length, (d.getD i 0).fst ≠ 0)
    (hfollows : List.Forall₂ (fun x d => Tracks x d c) xs ds) :
    Varies (fun v => forwardValues ℝ (Training.codeFunctions ℝ ℝ) operation dims
        (xs.map fun x => x v))
      (forwardValues (DualNumber ℝ) (dualFunctions slope) operation dims ds) c := by
  have harity := shapes.length
  obtain hone | htwo : operation.arity = 1 ∨ operation.arity = 2 := by
    cases operation <;> simp [Operation.arity]
  · obtain ⟨p, rfl⟩ := List.length_eq_one_iff.mp (harity.trans hone)
    obtain ⟨d, rest, hd, hrest, rfl⟩ := List.forall₂_cons_right_iff.mp hlen
    obtain rfl := List.forall₂_nil_right_iff.mp hrest
    obtain ⟨x, rest, hx, hnil, rfl⟩ := List.forall₂_cons_right_iff.mp hfollows
    obtain rfl := List.forall₂_nil_right_iff.mp hnil
    exact varies_one given a o shapes hd (fun h => hkink h d (by simp)) hx
  · obtain ⟨p, q, rfl⟩ := List.length_eq_two.mp (harity.trans htwo)
    obtain ⟨d, rest, -, hrest, rfl⟩ := List.forall₂_cons_right_iff.mp hlen
    obtain ⟨e, rest, -, hnil, rfl⟩ := List.forall₂_cons_right_iff.mp hrest
    obtain rfl := List.forall₂_nil_right_iff.mp hnil
    obtain ⟨x, rest, hx, hxrest, rfl⟩ := List.forall₂_cons_right_iff.mp hfollows
    obtain ⟨y, rest, hy, hxnil, rfl⟩ := List.forall₂_cons_right_iff.mp hxrest
    obtain rfl := List.forall₂_nil_right_iff.mp hxnil
    exact varies_two shapes hloss hx hy

end Operations

namespace Tape
variable [Given ℝ] {slope : Operation → ℝ → ℝ} {t : Tape ℝ} {root : TensorId}

/-- No ReLU below the root reads a zero. -/
def Smooth (t : Tape ℝ) (root : TensorId) : Prop :=
  ∀ id ∈ t.order root, ∀ parents, t.node id = some (.relu, parents) →
    ∀ p ∈ parents, ∀ i < t.size p, (t.contents p).getD i 0 ≠ 0

def moved (t : Tape ℝ) (leaf : TensorId) (i : Nat) (v : ℝ) : TensorId → List ℝ :=
  Function.update t.contents leaf ((t.contents leaf).set i v)

omit [Given ℝ] in
theorem tracks_lifted {leaf id : TensorId} {i : Nat} (hlen : (t.contents id).length = t.size id)
    (hi : i < t.size leaf) : Tracks (fun v => t.moved leaf i v id) (t.lifted (along leaf i) id)
      ((t.contents leaf).getD i 0) := by
  by_cases hid : id = leaf
  · subst hid
    have hset : ∀ v, t.moved id i v id = (t.contents id).set i v := fun v =>
      Function.update_self id _ _
    refine ⟨⟨fun v => ?_, fun j => ?_⟩, ?_⟩
    · rw [hset, List.length_set, hlen, lifted, length_tab]
    · simp only [hset, getD_set (hlen ▸ hi)]
      rw [← getD_infinitesimal, infinitesimal_lifted]
      by_cases hj : j = i
      · subst hj
        simpa [along, hi] using hasDerivAt_id' _
      · have hzero : (if j < t.size id then along id i id j else 0 : ℝ) = 0 := by
          simp [along, hj]
        rw [hzero]
        simp only [if_neg hj]
        exact hasDerivAt_const _ _
    · rw [hset, primal_lifted hlen]
      exact List.set_getElem_self (hlen ▸ hi) ▸ by simp [List.getElem?_eq_getElem (hlen ▸ hi)]
  · have hsame : ∀ v, t.moved leaf i v id = t.contents id := fun v =>
      Function.update_of_ne hid _ _
    refine ⟨⟨fun v => ?_, fun j => ?_⟩, ?_⟩
    · rw [hsame, hlen, lifted, length_tab]
    · simp only [hsame]
      rw [← getD_infinitesimal, infinitesimal_lifted]
      have hzero : (if j < t.size id then along leaf i id j else 0 : ℝ) = 0 := by
        simp [along, hid]
      rw [hzero]
      exact hasDerivAt_const _ _
    · rw [hsame, primal_lifted hlen]

theorem tracks_dual (given : GivenSlopes slope) (a : StandardFunctions) (o : RealOrder)
    (wf : t.WellFormed) (c : t.Computed root) (smooth : t.Smooth root) {leaf : TensorId}
    {i : Nat}
    (hi : i < t.size leaf) {id : TensorId} (hid : id ∈ t.order root) :
    Tracks (fun v => t.evaluate (t.moved leaf i v) id) (t.dual slope (along leaf i) id)
      ((t.contents leaf).getD i 0) := by
  induction id using Nat.strongRecOn with
  | ind id ih =>
      cases hn : t.node id with
      | none =>
          simp only [evaluate_leaf hn, dual_leaf hn]
          exact tracks_lifted (c.lengths id hid) hi
      | some node =>
          obtain ⟨operation, parents⟩ := node
          have hparents : ∀ p ∈ parents, p < id ∧ p ∈ t.order root ∧ p ≠ root := by
            intro p hp
            have hp' : p ∈ t.parents id := by rwa [parents_of_node hn]
            exact ⟨wf.earlier id p hp', mem_order_parent wf hid hp', parent_ne_root wf hid hp'⟩
          have hrule : Rule slope operation (parents.map t.dims) (t.dims id)
              (parents.map (t.dual slope (along leaf i))) := rule_node given wf c hid hn
          have hfollows : ∀ p ∈ parents, Tracks (fun v => t.evaluate (t.moved leaf i v) p)
              (t.dual slope (along leaf i) p) ((t.contents leaf).getD i 0) := fun p hp =>
            ih p (hparents p hp).1 (hparents p hp).2.1
          have hlen : ∀ p ∈ parents, (t.dual slope (along leaf i) p).length = t.size p := by
            intro p hp
            rw [← length_primal, primal_dual given wf c (hparents p hp).2.1 (hparents p hp).2.2]
            exact c.lengths p (hparents p hp).2.1
          have hlens : List.Forall₂ (fun d p => d.length = p.prod)
              (parents.map (t.dual slope (along leaf i))) (parents.map t.dims) := by
            rw [List.forall₂_map_left_iff, List.forall₂_map_right_iff, List.forall₂_same]
            exact hlen
          have hfollow : List.Forall₂ (fun x d => Tracks x d ((t.contents leaf).getD i 0))
              (parents.map fun p v => t.evaluate (t.moved leaf i v) p)
              (parents.map (t.dual slope (along leaf i))) := by
            rw [List.forall₂_map_left_iff, List.forall₂_map_right_iff, List.forall₂_same]
            exact hfollows
          have hkink : operation = .relu → ∀ d ∈ parents.map (t.dual slope (along leaf i)),
              ∀ j < d.length, (d.getD j 0).fst ≠ 0 := by
            rintro rfl d hd j hj
            obtain ⟨p, hp, rfl⟩ := List.mem_map.mp hd
            rw [← getD_primal, primal_dual given wf c (hparents p hp).2.1 (hparents p hp).2.2]
            exact smooth id hid parents hn p hp j (by rwa [← hlen p hp])
          have hvaries := varies given a o (wf.shapes id operation parents hn)
            (c.loss id hid operation parents hn) hlens hkink hfollow
          simp only [List.map_map, Function.comp_def] at hvaries
          simp only [evaluate_node wf hn, dual_node wf hn]
          refine ⟨hvaries, ?_⟩
          rw [hrule.value, List.map_map]
          congr 1
          apply List.map_congr_left
          intro p hp
          exact (hfollows p hp).value

/-- The forward-mode derivative is the partial derivative of the recorded expression. -/
theorem hasDerivAt_evaluate (given : GivenSlopes slope) (a : StandardFunctions) (o : RealOrder)
    (wf : t.WellFormed) (c : t.Computed root) (smooth : t.Smooth root) {leaf : TensorId}
    {i : Nat}
    (hi : i < t.size leaf) :
    HasDerivAt (fun v => (t.evaluate (t.moved leaf i v) root).getD 0 0)
      (t.derivative slope root leaf i) ((t.contents leaf).getD i 0) := by
  obtain ⟨rest, hrest⟩ := t.order_head root
  exact (tracks_dual given a o wf c smooth hi (by simp [hrest])).partials 0

end Tape

end Tensora
