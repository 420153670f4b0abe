import Tensora.Autograd.CrossEntropyDerivative
import Tensora.Api.Runs
import Tensora.Api.Sample

/-! What `cross_entropy_loss` returns and what its node hands to the logits and to the
target, against the partial derivatives of the one by the others. -/
namespace Tensora
open CheckedLoop Finset ProgramLogic

theorem IsGradient.congr {f f' : List ℝ → ℝ} {x g : List ℝ}
    (h : ∀ y : List ℝ, y.length = x.length → f y = f' y) :
    IsGradient f x g ↔ IsGradient f' x g := by
  have hset : ∀ i v, f (x.set i v) = f' (x.set i v) := fun i v => h _ List.length_set
  constructor
  · rintro ⟨hlen, hpartials⟩
    refine ⟨hlen, fun i hi => ?_⟩
    simpa only [hset] using hpartials i hi
  · rintro ⟨hlen, hpartials⟩
    refine ⟨hlen, fun i hi => ?_⟩
    simpa only [hset] using hpartials i hi

namespace Autograd
open Training (crossEntropyLoss codeFunctions crossEntropy_codeFunctions forwards_crossEntropyLoss)

variable {F : Type}

def handed (h : Heap F) (out : List GradientContribution) : List (TensorId × List F) :=
  out.map fun c => (c.parent, h.contents c.gradient)

theorem Emitted.handed_eq [Scalar F] {h h' : Heap F} {out : List GradientContribution}
    {expected : List (TensorId × List F)} (e : Emitted h h' out expected) :
    handed h' out = expected := by
  obtain ⟨-, hmade⟩ := e
  induction hmade with
  | nil => rfl
  | cons hc _ ih =>
      obtain ⟨hparent, -, -, -, hcontents⟩ := hc
      rw [handed, List.map_cons, hparent, hcontents]
      exact congrArg _ ih

section Node
variable [Scalar F] {h : Heap F} {id upstream : TensorId} {node : GradNode}

theorem current_of_applyNode (wf : WellFormed h) (hn : h.gradFn id = some node)
    {allocator : Allocator} {out : List GradientContribution} {m : Memory F}
    (hrun : applyNode node upstream ⟨h, allocator⟩ = .ok out m) :
    node.parentVersions = node.parents.map h.version := by
  obtain ⟨-, -, -, hok⟩ := wf.node hn
  by_contra hstale
  have hvalidate := spec_validateSavedVersions wf hok.versions
    (fun p hp => (wf.parent_visible hn hp).1) allocator
  have hfails :
      wp (applyNode node upstream) (fun _ _ => False) (fun _ _ => True) ⟨h, allocator⟩ := by
    unfold applyNode
    rw [wp_bind]
    refine wp_mono hvalidate ?_ fun _ _ _ => trivial
    rintro _ m ⟨-, -, hcurrent⟩
    exact absurd hcurrent hstale
  exact wp_of_ok hfails hrun

end Node

section Loss
variable [Given ℝ] {h : Heap ℝ} {logits target : TensorId} {batch classes : Nat}

/-- The function the forward call computes, of any logits and any target. -/
noncomputable abbrev lossOf (batch classes : Nat) (logits target : List ℝ) : ℝ :=
  (codeFunctions ℝ ℝ).crossEntropy batch classes logits target

theorem lossOf_eq (a : RealFunctions) (hclasses : 0 < classes) (hbound : batch * classes < 2 ^ 63)
    {x y : List ℝ} (hx : x.length = batch * classes) (hy : y.length = batch * classes) :
    lossOf batch classes x y = torchCrossEntropyLoss batch classes x y := by
  rw [lossOf, crossEntropy_codeFunctions hclasses hx hy hbound]
  exact crossEntropyValue_real a hclasses x y

/-- The forward call returns the value of that function, and the node hands the target its
derivative; it hands the logits theirs exactly if every row of the target sums to one. -/
theorem crossEntropy_gradient (a : RealFunctions) (wf : WellFormed h) (hl : h.Visible logits)
    (ht : h.Visible target) (hdl : h.dims logits = [batch, classes])
    (hdt : h.dims target = [batch, classes]) :
    (∀ allocator loss m, crossEntropyLoss ℝ logits target ⟨h, allocator⟩ = .ok loss m →
      m.heap.contents loss = [lossOf batch classes (h.contents logits) (h.contents target)]) ∧
    lossOf batch classes (h.contents logits) (h.contents target) =
      torchCrossEntropyLoss batch classes (h.contents logits) (h.contents target) ∧
    ∀ id node upstream allocator out m, h.gradFn id = some node →
      node.operation = .crossEntropy → node.parents = [logits, target] →
      upstream < h.tensors.length → h.dims upstream = h.dims id →
      applyNode node upstream ⟨h, allocator⟩ = .ok out m →
      ∃ u left right, h.contents upstream = [u] ∧
        handed m.heap out = offer h logits left ++ offer h target right ∧
        ((h.requiresGrad logits = true → IsGradient
            (fun x => u * lossOf batch classes x (h.contents target)) (h.contents logits) left) ∧
          (h.requiresGrad target = true → IsGradient
            (fun y => u * lossOf batch classes (h.contents logits) y) (h.contents target) right) ↔
          (h.requiresGrad logits = true →
            u = 0 ∨ Normalized batch classes (h.contents target))) := by
  have hvalid := hl.valid wf
  have hll := hl.length wf
  have hlt := ht.length wf
  rw [hdl] at hvalid hll
  rw [hdt] at hlt
  have hclasses : 0 < classes := hvalid.pos classes (by simp)
  have hbatch : 0 < batch := hvalid.pos batch (by simp)
  have hbound := hvalid.prod_lt
  simp only [List.prod_cons, List.prod_nil, Nat.mul_one] at hll hlt hbound
  have hlarge : batch * classes < 2 ^ 63 := by omega
  refine ⟨?_, lossOf_eq a hclasses hlarge hll hlt, ?_⟩
  · intro allocator loss m hrun
    obtain ⟨-, -, rfl, produced⟩ := wp_of_ok (forwards_crossEntropyLoss wf hl ht allocator) hrun
    rw [produced.value]
    simp only [List.map_cons, List.map_nil, hdl]
    rfl
  · intro id node upstream allocator out m hn hop hps hu hd hrun
    obtain ⟨-, -, -, hok⟩ := wf.node hn
    have hshapes := hok.shapes
    rw [hop, hps] at hshapes
    have hscalar : h.dims id = [] := hshapes.2.2
    have hlen := wf.length_contents (List.getElem?_eq_getElem hu)
    rw [hd, hscalar, List.prod_nil] at hlen
    obtain ⟨u, hupstream⟩ := List.length_eq_one_iff.mp hlen
    have happly := spec_applyNode wf hn (current_of_applyNode wf hn hrun) hu hd
    obtain ⟨-, hemitted⟩ := wp_of_ok (happly allocator) hrun
    refine ⟨u, tab (batch * classes) (crossEntropyLogitsGradient classes (u / batch)
        (h.contents logits) (h.contents target)),
      tab (batch * classes) (crossEntropyTargetGradient classes (u / batch) (h.contents logits)),
      hupstream, ?_, ?_⟩
    · rw [hemitted.handed_eq, hop, hps, contributions_two, hupstream, hdl]
      simp only [localGradient, List.getD_cons_zero, valuesOf,
        crossEntropyLogitsKernel_eq _ hclasses hll hlt hlarge,
        crossEntropyTargetKernel_eq _ hclasses hll hlt hlarge]
    · have hlogits := IsGradient.congr (x := h.contents logits)
        (f := fun x => u * lossOf batch classes x (h.contents target))
        (g := tab (batch * classes) (crossEntropyLogitsGradient classes (u / batch)
          (h.contents logits) (h.contents target)))
        fun x hx => congrArg (u * ·) (lossOf_eq a hclasses hlarge (hx.trans hll) hlt)
      have htarget := IsGradient.congr (x := h.contents target)
        (f := fun y => u * lossOf batch classes (h.contents logits) y)
        (g := tab (batch * classes) (crossEntropyTargetGradient classes (u / batch)
          (h.contents logits)))
        fun y hy => congrArg (u * ·) (lossOf_eq a hclasses hlarge hll (hy.trans hlt))
      rw [hlogits, htarget, logitsGradient_isGradient a hclasses hbatch hll u]
      exact and_iff_left fun _ => targetGradient_isGradient a hclasses hlt u

end Loss

open Classical in
/-- The real functions; the others are the identity. -/
noncomputable instance realGiven : Given ℝ where
  less a b := decide (a < b)
  lessEq a b := decide (a ≤ b)
  isFinite _ := true
  exp := Real.exp
  log := Real.log
  tanh a := a
  erf a := a
  sqrt := Real.sqrt
  pow a _ := a
  kInvSqrt2 := 1
  kInvSqrt2Pi := 1
  uniform _ _ bound := bound

theorem realFunctions : RealFunctions where
  exp _ := rfl
  log _ _ := rfl

instance realBits : Training.FloatBits ℝ where
  bits _ := 0
  ofBits _ := 0

/-- One class of weight two: the loss is zero whatever its logit, its gradient is not. -/
theorem crossEntropy_unnormalized :
    (∀ logit : ℝ, Training.crossEntropyKernel ℝ 1 1 [logit] [(2 : ℝ)] = .ok 0) ∧
      crossEntropyLogitsKernel 1 1 (1 / ((1 : Nat) : ℝ)) [0] [2] = .ok [-1] := by
  constructor
  · intro logit
    rw [Training.crossEntropyKernel_eq (by decide) rfl rfl (by decide),
      crossEntropyValue_real realFunctions (by decide)]
    simp [torchCrossEntropyLoss, rowOf]
  · rw [crossEntropyLogitsKernel_eq _ (by decide) rfl rfl (by decide)]
    have hentry : crossEntropyLogitsGradient 1 (1 / ((1 : Nat) : ℝ)) [0] [2] 0 = -1 := by
      rw [logitsGradient_real realFunctions]
      simp only [LogSumExp.softmax, rowOf, Nat.div_one, Nat.mod_one, range_one, sum_singleton,
        zero_mul, zero_add, List.getD_cons_zero, Real.exp_zero, Nat.cast_one]
      norm_num
    exact congrArg (fun entry => Except.ok [entry]) hentry

noncomputable def twoClassRun : Runtime ℝ ℝ :=
  Api.run (Runtime.initial (fun _ => false) emptyDisk)
    [.tensorFromF32 [0, 1] [1, 2], .tensorWithRequiresGrad 1 true, .tensorFromF32 [1, 0] [1, 2],
      .crossEntropyLoss 2 3, .tensorFromF32 [1] []]

theorem crossEntropy_gradient_twoClasses : ∃ node out m,
    twoClassRun.heap.gradFn 3 = some node ∧ applyNode node 4 twoClassRun.memory = .ok out m ∧
      ∃ u left right, twoClassRun.heap.contents 4 = [u] ∧
        handed m.heap out = offer twoClassRun.heap 1 left ++ offer twoClassRun.heap 2 right ∧
        ((twoClassRun.heap.requiresGrad 1 = true → IsGradient
            (fun x => u * lossOf 1 2 x (twoClassRun.heap.contents 2))
            (twoClassRun.heap.contents 1) left) ∧
          (twoClassRun.heap.requiresGrad 2 = true → IsGradient
            (fun y => u * lossOf 1 2 (twoClassRun.heap.contents 1) y)
            (twoClassRun.heap.contents 2) right) ↔
          (twoClassRun.heap.requiresGrad 1 = true →
            u = 0 ∨ Normalized 1 2 (twoClassRun.heap.contents 2))) := by
  have hs : Api.Reachable twoClassRun := ⟨_, _, _, rfl⟩
  have hlast : Api.Lasting twoClassRun := Api.Lasting.run (fun _ _ => rfl) _
  have hsome : (twoClassRun.heap.gradFn 3).isSome = true := by decide +kernel
  have hrecord : (twoClassRun.heap.gradFn 3).map (fun node => (node.operation, node.parents,
      decide (node.parentVersions = node.parents.map twoClassRun.heap.version))) =
      some (.crossEntropy, [1, 2], true) := by decide +kernel
  have hu : 4 < twoClassRun.heap.tensors.length := by decide +kernel
  have hd : twoClassRun.heap.dims 4 = twoClassRun.heap.dims 3 := by decide +kernel
  have hdl : twoClassRun.heap.dims 1 = [1, 2] := by decide +kernel
  have hdt : twoClassRun.heap.dims 2 = [1, 2] := by decide +kernel
  -- the run itself is not unfolded any further
  generalize twoClassRun = s at *
  have wf := hs.ok.wellFormed
  obtain ⟨node, hn⟩ := Option.isSome_iff_exists.mp hsome
  rw [hn, Option.map_some, Option.some_inj, Prod.mk.injEq, Prod.mk.injEq, decide_eq_true_eq]
    at hrecord
  obtain ⟨hop, hps, hcurrent⟩ := hrecord
  have hl : s.heap.Visible 1 := wf.parent_visible hn (by simp [hps])
  have ht : s.heap.Visible 2 := wf.parent_visible hn (by simp [hps])
  obtain ⟨out, m, hrun, -⟩ := (spec_applyNode wf hn hcurrent hu hd).ok hlast
  have h := crossEntropy_gradient realFunctions wf hl ht hdl hdt
  exact ⟨node, out, m, hn, hrun, h.2.2 3 node 4 _ out m hn hop hps hu hd hrun⟩

end Autograd
end Tensora
