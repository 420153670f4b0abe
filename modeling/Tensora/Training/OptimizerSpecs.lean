import Tensora.Training.MutatorSpecs

/-! One parameter of an optimizer step: the update loops element by element, and
what their writes leave. -/
namespace Tensora
open CheckedLoop ProgramLogic

variable {F D : Type}

namespace Training
open Scalar (less sqrt pow)
open Precision (widen narrow)

section Kernels
variable [Scalar F] [Scalar D] [Precision F D]

def sgdElement (hyper : Hyperparameters D) (value gradient first : F) : F × F :=
  let gradValue : D := widen gradient + hyper.weightDecay * widen value
  if less 0 hyper.momentum then
    let moment : F := narrow (hyper.momentum * widen first + gradValue)
    (narrow (widen value - hyper.learningRate * widen moment), moment)
  else (narrow (widen value - hyper.learningRate * gradValue), first)

def updatedElement (kind : OptimizerKind) (hyper : Hyperparameters D) (step : Nat)
    (value gradient first second : F) : F × F × F :=
  match kind with
  | .sgd =>
      let (value, first) := sgdElement hyper value gradient first
      (value, first, second)
  | .adam | .adamW =>
      adamElement kind hyper (pow hyper.beta1 (step : D)) (pow hyper.beta2 (step : D))
        value gradient first second

private def upTo (n i : Nat) (new old : Nat → F) : List F :=
  tab n fun j => if j < i then new j else old j

omit [Scalar F] in
private theorem upTo_zero (n : Nat) (new old : Nat → F) : upTo n 0 new old = tab n old :=
  tab_congr fun j _ => if_neg (Nat.not_lt_zero j)

omit [Scalar F] in
private theorem upTo_all (n : Nat) (new old : Nat → F) : upTo n n new old = tab n new :=
  tab_congr fun _ hj => if_pos hj

omit [Scalar F] in
private theorem load_upTo {n i : Nat} (new old : Nat → F) (hi : i < n) :
    load (upTo n i new old) i = .ok (old i) := by
  rw [upTo, load_tab _ hi, if_neg (Nat.lt_irrefl i)]

omit [Scalar F] in
private theorem store_upTo {n i : Nat} (new old : Nat → F) (hi : i < n) :
    store (upTo n i new old) i (new i) = .ok (upTo n (i + 1) new old) := by
  rw [upTo, store_tab _ _ hi, upTo]
  congr 1
  refine tab_congr fun j _ => ?_
  by_cases hj : j = i
  · rw [if_pos hj, if_pos (by omega), hj]
  · rw [if_neg hj]
    by_cases hlt : j < i
    · rw [if_pos hlt, if_pos (by omega)]
    · rw [if_neg hlt, if_neg (by omega)]

private theorem load_getD {xs : List F} {n i : Nat} (hlen : xs.length = n) (hi : i < n) :
    load xs i = .ok (xs.getD i 0) := load_of_lt 0 (by omega)

theorem sgdKernel_eq {hyper : Hyperparameters D} {values gradient first : List F}
    (hg : gradient.length = values.length) (hf : first.length = values.length) :
    sgdKernel hyper values gradient first = .ok
      (tab values.length fun i =>
        (sgdElement hyper (values.getD i 0) (gradient.getD i 0) (first.getD i 0)).1,
      tab values.length fun i =>
        (sgdElement hyper (values.getD i 0) (gradient.getD i 0) (first.getD i 0)).2) := by
  have hv := eq_tab_getD values 0
  have hm := eq_tab_getD first 0
  rw [hf] at hm
  let new := fun i => sgdElement hyper (values.getD i 0) (gradient.getD i 0) (first.getD i 0)
  let stateAt := fun i =>
    (upTo values.length i (fun j => (new j).1) fun j => values.getD j 0,
      upTo values.length i (fun j => (new j).2) fun j => first.getD j 0)
  have hstart : (values, first) = stateAt 0 := by
    simp only [stateAt, upTo_zero]
    rw [← hv, ← hm]
  unfold sgdKernel
  rw [hstart]
  refine (loop_eq stateAt fun i hi => ?_).trans (by simp only [stateAt, upTo_all, new])
  have hload := load_getD hg hi
  have hvalue := store_upTo (fun j => (new j).1) (fun j => values.getD j 0) hi
  have hmoment := store_upTo (fun j => (new j).2) (fun j => first.getD j 0) hi
  simp only [stateAt, load_upTo _ _ hi, hload, bind, Except.bind]
  simp only [new, sgdElement] at hvalue hmoment ⊢
  by_cases hmom : less 0 hyper.momentum = true
  · simp only [hmom, if_true] at hvalue hmoment ⊢
    simp only [hmoment, hvalue, pure, Except.pure]
  · simp only [hmom] at hvalue hmoment ⊢
    simp only [Bool.false_eq_true, if_false] at hvalue hmoment ⊢
    simp only [hvalue, pure, Except.pure]
    congr 2
    refine tab_congr fun j _ => ?_
    simp

theorem adamKernel_eq {kind : OptimizerKind} {hyper : Hyperparameters D} {step : Nat}
    {values gradient first second : List F} (hg : gradient.length = values.length)
    (hf : first.length = values.length) (hs : second.length = values.length) :
    adamKernel kind hyper step values gradient first second =
      let element := fun i => adamElement kind hyper (pow hyper.beta1 (step : D))
        (pow hyper.beta2 (step : D)) (values.getD i 0) (gradient.getD i 0) (first.getD i 0)
        (second.getD i 0)
      .ok (tab values.length fun i => (element i).1, tab values.length fun i => (element i).2.1,
        tab values.length fun i => (element i).2.2) := by
  have hv := eq_tab_getD values 0
  have hm := eq_tab_getD first 0
  have hm' := eq_tab_getD second 0
  rw [hf] at hm
  rw [hs] at hm'
  let new := fun i => adamElement kind hyper (pow hyper.beta1 (step : D))
    (pow hyper.beta2 (step : D)) (values.getD i 0) (gradient.getD i 0) (first.getD i 0)
    (second.getD i 0)
  let stateAt := fun i =>
    (upTo values.length i (fun j => (new j).1) fun j => values.getD j 0,
      upTo values.length i (fun j => (new j).2.1) fun j => first.getD j 0,
      upTo values.length i (fun j => (new j).2.2) fun j => second.getD j 0)
  have hstart : (values, first, second) = stateAt 0 := by
    simp only [stateAt, upTo_zero]
    rw [← hv, ← hm, ← hm']
  unfold adamKernel
  simp only
  rw [hstart]
  refine (loop_eq stateAt fun i hi => ?_).trans (by simp only [stateAt, upTo_all, new])
  have hload := load_getD hg hi
  have hvalue := store_upTo (fun j => (new j).1) (fun j => values.getD j 0) hi
  have hmoment := store_upTo (fun j => (new j).2.1) (fun j => first.getD j 0) hi
  have hmoment' := store_upTo (fun j => (new j).2.2) (fun j => second.getD j 0) hi
  simp only [stateAt, load_upTo _ _ hi, hload, bind, Except.bind]
  simp only [new] at hvalue hmoment hmoment' ⊢
  simp only [hvalue, hmoment, hmoment', pure, Except.pure]

/-- The moment buffers an update needs: SGD has no use for the second. -/
structure Buffers (kind : OptimizerKind) (n : Nat) (first : List F) (second : Option (List F)) :
    Prop where
  first : first.length = n
  second : kind ≠ .sgd → ∃ xs, second = some xs ∧ xs.length = n

def updatedArrays (kind : OptimizerKind) (hyper : Hyperparameters D) (step : Nat)
    (values gradient first : List F) (second : Option (List F)) :
    List F × List F × Option (List F) :=
  let element := fun i => updatedElement kind hyper step (values.getD i 0)
    (gradient.getD i 0) (first.getD i 0) ((second.getD []).getD i 0)
  (tab values.length fun i => (element i).1, tab values.length fun i => (element i).2.1,
    if kind = .sgd then second else some (tab values.length fun i => (element i).2.2))

theorem updateKernel_eq {kind : OptimizerKind} {hyper : Hyperparameters D} {step : Nat}
    {values gradient first : List F} {second : Option (List F)}
    (hg : gradient.length = values.length) (hb : Buffers kind values.length first second) :
    updateKernel kind hyper step values gradient first second =
      .ok (updatedArrays kind hyper step values gradient first second) := by
  cases kind with
  | sgd =>
      simp only [updateKernel, sgdKernel_eq hg hb.first, updatedArrays, updatedElement, bind,
        Except.bind, if_true]
      rfl
  | adam =>
      obtain ⟨xs, rfl, hlen⟩ := hb.second (by simp)
      simp only [updateKernel, adamKernel_eq hg hb.first hlen, updatedArrays, updatedElement, bind,
        Except.bind, Option.getD_some]
      rfl
  | adamW =>
      obtain ⟨xs, rfl, hlen⟩ := hb.second (by simp)
      simp only [updateKernel, adamKernel_eq hg hb.first hlen, updatedArrays, updatedElement, bind,
        Except.bind, Option.getD_some]
      rfl

theorem length_updatedArrays {kind : OptimizerKind} {hyper : Hyperparameters D} {step : Nat}
    {values gradient first : List F} {second : Option (List F)} :
    (updatedArrays kind hyper step values gradient first second).1.length = values.length :=
  length_tab _ _

theorem buffers_updated (kind : OptimizerKind) (hyper : Hyperparameters D) (step : Nat)
    (values gradient first : List F) (second : Option (List F)) :
    Buffers kind values.length (updatedArrays kind hyper step values gradient first second).2.1
      (updatedArrays kind hyper step values gradient first second).2.2 where
  first := length_tab _ _
  second := fun hk => ⟨_, if_neg hk, length_tab _ _⟩

end Kernels

end Training

section Parameter
variable {h : Heap F}

/-- A parameter's storage written and its version bumped; its gradient stays. -/
def Heap.updated (h : Heap F) (id : TensorId) (values : List F) : Heap F :=
  match h.tensors[id]? with
  | none => h
  | some t => h.written t values

theorem Heap.updated_of {id : TensorId} {t : Tensor} (ht : h.tensors[id]? = some t)
    (values : List F) : h.updated id values = h.written t values := by
  simp only [updated, ht]

theorem Heap.gradient_updated (id : TensorId) (values : List F) (i : TensorId) :
    (h.updated id values).gradient i = h.gradient i := by
  unfold Heap.updated
  cases h.tensors[id]? <;> rfl

theorem Touches.updated {T : StorageId → Prop} (wf : WellFormed h) {id : TensorId}
    (hid : id < h.tensors.length) {values : List F} (hlen : values.length = (h.dims id).prod)
    (hT : ∀ s, h.storageOf id = some s → T s) : Touches T h (h.updated id values) := by
  have ht := List.getElem?_eq_getElem hid
  rw [Heap.updated_of ht]
  refine Touches.written wf ht ?_ (hT _ (by rw [Heap.storageOf, ht]; rfl))
  rw [hlen, ← wf.length_contents ht, Heap.contents_of ht, (wf.placed _ _ ht).length_read]

namespace Training
variable [Scalar F] [Scalar D] [Precision F D]

def Updates (kind : OptimizerKind) (hyper : Hyperparameters D) (step : Nat) (h : Heap F)
    (parameter : TensorId) (first : List F) (second : Option (List F))
    (r : Option (List F × Option (List F))) (h' : Heap F) : Prop :=
  match h.gradient parameter with
  | none => r = none ∧ h' = h
  | some g =>
      let arrays := updatedArrays kind hyper step (h.contents parameter) (h.contents g) first second
      r = some arrays.2 ∧ h' = h.updated parameter arrays.1

/-- How an update reads a gradient: with one allocation or with none. -/
def ReadsGradient (readGradient : TensorId → String → Mem F (List F)) (cost : Nat) : Prop :=
  ∀ (h : Heap F) (g : TensorId) (dims : List Nat) (operation : String) (a : Allocator),
    WellFormed h → Owned h g dims →
    wp (readGradient g operation)
      (fun xs m => (0 < cost → a.fails a.count = false) ∧ xs = h.contents g ∧ m = ⟨h, a.after cost⟩)
      (fun e m => 0 < cost ∧ a.fails a.count = true ∧ e.IsResource ∧ m = ⟨h, a.after cost⟩) ⟨h, a⟩

omit [Scalar F] in
theorem readsGradient_cpuValues : ReadsGradient (F := F) Autograd.cpuValues 0 := by
  intro h g dims operation a wf ho
  obtain ⟨t, ht, -, hs, -⟩ := ho.tensor
  have hrow : t.isContiguous = true := by
    refine (Tensor.isContiguous_iff (wf.placed _ _ ht).layout).mpr ?_
    rw [hs]
    rfl
  unfold wp
  rw [Autograd.cpuValues_eq (m := ⟨h, a⟩) wf ht hrow]
  exact ⟨fun hlt => absurd hlt (Nat.lt_irrefl 0), rfl, rfl⟩

omit [Scalar F] in
theorem readsGradient_readLogical : ReadsGradient (F := F) Autograd.readLogicalCpuValues 1 := by
  intro h g dims operation a wf ho
  obtain ⟨t, ht, -⟩ := ho.tensor
  refine wp_mono (Autograd.wp_readLogicalCpuValues wf ht operation a) ?_ ?_
  · rintro xs m ⟨hok, hxs, hm⟩
    exact ⟨fun _ => hok, hxs, hm⟩
  · rintro _ m ⟨hfail, rfl, hm⟩
    exact ⟨Nat.one_pos, hfail, trivial, hm⟩

/-- A row-major parameter with buffers of its size is updated unless its gradient
cannot be read for want of memory. -/
theorem wp_updateParameter {kind : OptimizerKind} {hyper : Hyperparameters D} {operation : String}
    {readGradient : TensorId → String → Mem F (List F)} {cost step : Nat} {parameter : TensorId}
    {first : List F} {second : Option (List F)} (hread : ReadsGradient readGradient cost)
    (wf : WellFormed h) (hv : h.Visible parameter) (hc : h.contiguous parameter = true)
    (hb : Buffers kind (h.dims parameter).prod first second) (a : Allocator) :
    wp (updateParameter kind hyper operation readGradient step parameter (some first) second)
      (fun r m => Updates kind hyper step h parameter first second r m.heap ∧
        if (h.gradient parameter).isSome then
          (0 < cost → a.fails a.count = false) ∧ m.allocator = a.after cost
        else m.allocator = a)
      (fun e m => (h.gradient parameter).isSome = true ∧ 0 < cost ∧ a.fails a.count = true ∧
        e.IsResource ∧ m = ⟨h, a.after cost⟩) ⟨h, a⟩ := by
  obtain ⟨t, ht⟩ := hv.get
  have hlen := hv.length wf
  unfold updateParameter Updates
  refine wp_bind_of_ok (deref_eq (m := ⟨h, a⟩) ht) ?_
  rw [← Heap.gradient_of ht]
  cases hg : h.gradient parameter with
  | none => exact ⟨⟨rfl, rfl⟩, rfl⟩
  | some g =>
      have howned := wf.owned parameter g hg
      refine wp_bind_of_ok (Autograd.mutableCpuValues_eq (m := ⟨h, a⟩) wf ht
        ((Heap.contiguous_of ht).symm.trans hc) operation) ?_
      refine wp_seq (hread h g _ operation a wf howned) (fun _ _ he => ⟨rfl, he⟩) ?_
      rintro _ _ ⟨hok, rfl, rfl⟩
      have hsize : (h.contents g).length = (h.contents parameter).length := by
        obtain ⟨tg, htg, -, hshape, -⟩ := howned.tensor
        rw [wf.length_contents htg, hlen, Heap.dims_of htg, hshape]
        rfl
      rw [wp_bind, wp_failIf]
      refine ⟨fun hne => absurd hsize.symm hne, fun _ => ?_⟩
      rw [← hlen] at hb
      refine wp_seq (wp_checked (updateKernel_eq hsize hb) (And.intro rfl rfl)
        (Q := fun r m => r = updatedArrays kind hyper step (h.contents parameter) (h.contents g)
          first second ∧ m = ⟨h, a.after cost⟩)) (fun _ _ he => False.elim he) ?_
      rintro _ _ ⟨rfl, rfl⟩
      refine wp_bind_of_ok (deref_eq (m := ⟨h, a.after cost⟩) ht) ?_
      exact ⟨⟨rfl, (Heap.updated_of ht _).symm⟩, hok, rfl⟩

end Training

end Parameter

end Tensora
