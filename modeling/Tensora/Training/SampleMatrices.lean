import Mathlib.Algebra.BigOperators.Group.Finset.Piecewise
import Tensora.Training.TorchLinear

/-! A library of matrices that computes a Linear layer as LibTorch documents. Tensors are numbered
in the order they are made, and nothing is differentiated. -/
namespace Tensora.Bridge
open ProgramLogic CheckedLoop Training

structure SampleMatrix (F : Type) where
  sizes : List Nat
  values : List F
  length_values : values.length = sizes.prod
  device : TorchDevice

section Values
variable {F : Type} [Arith F]

def exactProduct (rows inner cols : Nat) (left right : List F) : List F :=
  tab (rows * cols) fun i =>
    sumTo inner fun j => left.getD (i / cols * inner + j) 0 * right.getD (j * cols + i % cols) 0

theorem length_exactProduct (rows inner cols : Nat) (left right : List F) :
    (exactProduct rows inner cols left right).length = ([rows, cols] : List Nat).prod := by
  simp [exactProduct]

theorem length_addRows {rows cols : Nat} {values : List F}
    (h : values.length = ([rows, cols] : List Nat).prod) (bias : Option (List F)) :
    (addRows rows cols values bias).length = ([rows, cols] : List Nat).prod := by
  cases bias with
  | none => exact h
  | some bias => simp [addRows]

def sampleEvaluate : TorchExpression → List (SampleMatrix F) → Option (SampleMatrix F)
  | .moved target, [m] => some { m with device := target }
  | .matmul, [l, r] =>
      match l.sizes, r.sizes with
      | [rows, inner], [_, cols] =>
          some ⟨[rows, cols], exactProduct rows inner cols l.values r.values,
          length_exactProduct _ _ _ _ _, l.device⟩
      | _, _ => none
  | .linear, x :: w :: bias =>
      match x.sizes, w.sizes with
      | [rows, inFeatures], [outFeatures, _] => some ⟨[rows, outFeatures],
          addRows rows outFeatures (exactProduct rows inFeatures outFeatures x.values
            (transposeData outFeatures inFeatures w.values)) (bias.head?.map SampleMatrix.values),
          length_addRows (length_exactProduct _ _ _ _ _) _, x.device⟩
      | _, _ => none
  | _, _ => none

end Values

section Library
variable {F : Type}

def lookUp {α : Type} (f : SampleMatrix F → α) (default : α) (s : List (SampleMatrix F))
    (r : Nat) : α :=
  ((s[r]?).map f).getD default

theorem lookUp_of {α : Type} {f : SampleMatrix F → α} {default : α} {s : List (SampleMatrix F)}
    {r : Nat} {m : SampleMatrix F} (h : s[r]? = some m) : lookUp f default s r = f m := by
  rw [lookUp, h]
  rfl

theorem lookUp_append {α : Type} {f : SampleMatrix F → α} {default : α}
    {s : List (SampleMatrix F)} {r : Nat} (hr : r < s.length) (m : SampleMatrix F) :
    lookUp f default (s ++ [m]) r = lookUp f default s r := by
  rw [lookUp, lookUp, List.getElem?_append_left hr]

variable (F) [Arith F]

def sampleMatrices : LibTorch F where
  State := List (SampleMatrix F)
  Ref := Nat
  start := []
  live s r := r < s.length
  sizes := lookUp SampleMatrix.sizes []
  device := lookUp SampleMatrix.device ⟨.cpu, -1⟩
  requiresGrad _ _ := false
  isLeaf _ _ := true
  hasGradient _ _ := false
  inputs _ _ := []
  accelerator := none
  acceleratorCount := 0
  fromBlobClone values dimensions s :=
    if h : values.length = dimensions.prod then
      .ok s.length (s ++ [⟨dimensions, values, h, ⟨.cpu, -1⟩⟩])
    else .error (internalError "from_blob: wrong number of values") s
  evaluate expression operands s :=
    match sampleEvaluate expression (operands.filterMap fun r => s[r]?) with
    | some m => .ok s.length (s ++ [m])
    | none => .error (internalError "expression cannot be evaluated") s
  detachClone r s := .ok r s
  setRequiresGrad _ _ s := .ok () s
  resetGradient _ s := .ok () s
  backward _ s := .ok () s

def sampleContents : Contents (sampleMatrices F) where
  values := lookUp SampleMatrix.values []
  product := exactProduct

variable {F}

theorem is_of {s : List (SampleMatrix F)} {r : Nat} {m : SampleMatrix F} (h : s[r]? = some m) :
    (sampleContents F).Is s r m.sizes m.values m.device :=
  ⟨(List.getElem?_eq_some_iff.mp h).1, lookUp_of h, lookUp_of h, lookUp_of h⟩

theorem exists_of_is {s : List (SampleMatrix F)} {r : Nat} {sizes : List Nat} {values : List F}
    {device : TorchDevice} (h : (sampleContents F).Is s r sizes values device) :
    ∃ m, s[r]? = some m ∧ m.sizes = sizes ∧ m.values = values ∧ m.device = device := by
  obtain ⟨hlive, hsizes, hvalues, hdevice⟩ := h
  have hget := List.getElem?_eq_getElem (hlive : r < s.length)
  exact ⟨_, hget, (lookUp_of hget).symm.trans hsizes, (lookUp_of hget).symm.trans hvalues,
    (lookUp_of hget).symm.trans hdevice⟩

theorem makes_append {program : EStateM Failure (List (SampleMatrix F)) Nat}
    {s : List (SampleMatrix F)} {m : SampleMatrix F} (h : program s = .ok s.length (s ++ [m])) :
    (sampleContents F).Makes False program m.sizes m.values m.device s := by
  unfold Contents.Makes wp
  rw [h]
  refine ⟨?_, is_of List.getElem?_concat_length⟩
  constructor
  · intro (r : Nat) (hr : r < s.length)
    change r < (s ++ [m]).length
    simp only [List.length_append]
    omega
  all_goals exact fun r hr => lookUp_append hr m

theorem sampleContents_documented : (sampleContents F).Documented False where
  length_values := by
    intro (s : List (SampleMatrix F)) (r : Nat) hr
    have hget := List.getElem?_eq_getElem (hr : r < s.length)
    have h := is_of hget
    rw [h.values_eq, h.sizes_eq]
    exact (s[r]).length_values
  fromBlobClone := fun values dimensions s hlen =>
    makes_append (m := ⟨dimensions, values, hlen, ⟨.cpu, -1⟩⟩) (dif_pos hlen)
  moved := by
    intro target (r : Nat) sizes values device (s : List (SampleMatrix F)) h
    obtain ⟨m, hget, rfl, rfl, -⟩ := exists_of_is h
    refine makes_append (m := { m with device := target }) ?_
    simp [sampleMatrices, sampleEvaluate, hget]
  matmul := by
    intro (left : Nat) (right : Nat) rows inner cols l r device (s : List (SampleMatrix F)) hl hr
    obtain ⟨ml, hgetl, hsizes, rfl, rfl⟩ := exists_of_is hl
    obtain ⟨mr, hgetr, hsizes', rfl, -⟩ := exists_of_is hr
    refine makes_append (m := ⟨[rows, cols], exactProduct rows inner cols ml.values mr.values,
      length_exactProduct _ _ _ _ _, ml.device⟩) ?_
    simp [sampleMatrices, sampleEvaluate, hgetl, hgetr, hsizes, hsizes']
  linear := by
    intro (input : Nat) (weight : Nat) (bias : Option Nat) rows inFeatures outFeatures x w b device
      (s : List (SampleMatrix F)) hx hw hb
    obtain ⟨mx, hgetx, hsizes, rfl, rfl⟩ := exists_of_is hx
    obtain ⟨mw, hgetw, hsizes', rfl, -⟩ := exists_of_is hw
    refine makes_append (m := ⟨[rows, outFeatures], addRows rows outFeatures
      (exactProduct rows inFeatures outFeatures mx.values
        (transposeData outFeatures inFeatures mw.values)) b,
      length_addRows (length_exactProduct _ _ _ _ _) b, mx.device⟩) ?_
    cases bias <;> cases b
    case none.none =>
        simp [sampleMatrices, sampleEvaluate, hgetx, hgetw, hsizes, hsizes']
    case some.some r values =>
        obtain ⟨mb, hgetb, -, rfl, -⟩ := exists_of_is hb
        simp [sampleMatrices, sampleEvaluate, hgetx, hgetw, hgetb, hsizes, hsizes']
    all_goals exact hb.elim

end Library

theorem sampleContents_exact (K : Type) [Field K] (bias : Option (List K)) :
    (sampleContents K).Exact bias where
  product_unit := by
    intro inner cols i data hi hlen
    simp only [sampleContents, exactProduct, Nat.one_mul]
    refine tab_congr fun j hj => ?_
    rw [sumTo_congr (g := fun k => if k = i then data.getD (i * cols + j) 0 else 0)]
    · rw [sumTo_eq_sum]
      exact (Finset.sum_ite_eq' _ _ _).trans (if_pos (Finset.mem_range.mpr hi))
    · intro k hk
      rw [Nat.div_eq_of_lt hj, Nat.zero_mul, Nat.zero_add, Nat.mod_eq_of_lt hj, unitRow,
        getD_tab _ _ hk]
      split
      · rename_i heq
        rw [heq, one_mul]
      · rw [zero_mul]
  cancel := fun _ _ _ _ h => add_right_cancel h

end Tensora.Bridge
