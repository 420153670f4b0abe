import Mathlib.Algebra.BigOperators.Group.List.Basic
import Mathlib.Algebra.Order.BigOperators.GroupWithZero.List
import Mathlib.Tactic.NormNum
import Mathlib.Tactic.Ring
import Tensora.Core.Status

/-! Shape metadata and its validation. -/
namespace Tensora

def kMaxTensorRank : Nat := 32

structure ShapeInfo where
  dimensions : List Nat
  strides : List Nat
  numel : Nat
  byteSize : Nat
  deriving DecidableEq, Repr

/-- The element count over the dimensions from index `i` on, front to back. -/
def countElements (i numel : Nat) : List Int → Except Failure Nat
  | [] => .ok numel
  | dim :: dims =>
      if dim ≤ 0 then
        .error (invalidShape ("shape: dimension " ++ toString i ++ " must be positive, got " ++
          toString dim))
      else if numel > maxI64 / dim.toNat then
        .error (invalidShape "shape: element count overflows supported int64 range")
      else countElements (i + 1) (mul64 numel dim.toNat) dims

/-- Strides filled from the last dimension backwards, and the next outer stride. -/
def fillStrides : List Nat → List Nat × Nat
  | [] => ([], 1)
  | dim :: dims =>
      let (strides, stride) := fillStrides dims
      (stride :: strides, mul64 stride dim)

def validateShape (dims : List Int) : Except Failure ShapeInfo := do
  if dims.length > kMaxTensorRank then
    .error (invalidShape ("shape: rank " ++ toString dims.length ++
      " exceeds Milestone 1 limit " ++ toString kMaxTensorRank))
  let numel ← countElements 0 1 dims
  if numel > maxU64 / 4 then
    .error (invalidShape "shape: float32 allocation byte size overflows size_t")
  .ok {
    dimensions := dims.map Int.toNat
    strides := (fillStrides (dims.map Int.toNat)).1
    numel := numel
    byteSize := mul64 numel 4 }

/-- `SameShape`: equal dimensions, whatever the strides. -/
def sameShape (left right : ShapeInfo) : Bool := left.dimensions == right.dimensions

def rowMajorStrides : List Nat → List Nat
  | [] => []
  | _ :: dims => dims.prod :: rowMajorStrides dims

structure ValidDims (dims : List Nat) : Prop where
  rank : dims.length ≤ kMaxTensorRank
  pos : ∀ d ∈ dims, 0 < d
  bound : dims.prod ≤ maxU64 / 4

/-- The metadata `validateShape` computes for its dimensions. -/
structure ShapeInfo.Canonical (s : ShapeInfo) : Prop where
  valid : ValidDims s.dimensions
  numel_eq : s.numel = s.dimensions.prod
  strides_eq : s.strides = rowMajorStrides s.dimensions
  byteSize_eq : s.byteSize = 4 * s.numel

def canonicalShape (dims : List Nat) : ShapeInfo where
  dimensions := dims
  strides := rowMajorStrides dims
  numel := dims.prod
  byteSize := 4 * dims.prod

@[simp] theorem length_rowMajorStrides (dims : List Nat) :
    (rowMajorStrides dims).length = dims.length := by
  induction dims with
  | nil => rfl
  | cons d dims ih => simp [rowMajorStrides, ih]

theorem ValidDims.tail {d : Nat} {dims : List Nat} (h : ValidDims (d :: dims)) :
    ValidDims dims where
  rank := by
    have := h.rank
    simp only [List.length_cons] at this
    omega
  pos := fun e he => h.pos e (by simp [he])
  bound := by
    have hd := h.pos d (by simp)
    have hb := h.bound
    rw [List.prod_cons] at hb
    exact (Nat.le_mul_of_pos_left _ hd).trans hb

theorem ValidDims.prod_pos {dims : List Nat} (h : ValidDims dims) : 0 < dims.prod :=
  List.prod_pos h.pos

theorem ValidDims.prod_lt {dims : List Nat} (h : ValidDims dims) : dims.prod < 2 ^ 62 := by
  have := h.bound
  norm_num [maxU64] at this ⊢
  omega

theorem fillStrides_eq {dims : List Nat} (h : ValidDims dims) :
    fillStrides dims = (rowMajorStrides dims, dims.prod) := by
  induction dims with
  | nil => rfl
  | cons d dims ih =>
      have hlt := h.prod_lt
      rw [List.prod_cons, Nat.mul_comm] at hlt
      simp only [fillStrides, ih h.tail, rowMajorStrides, List.prod_cons]
      rw [mul64_of_lt (hlt.trans (by norm_num)), Nat.mul_comm]

theorem countElements_ok {dims : List Int} {i numel n : Nat} (hn : numel ≤ maxI64)
    (h : countElements i numel dims = .ok n) :
    (∀ d ∈ dims, 0 < d) ∧ n = numel * (dims.map Int.toNat).prod ∧ n ≤ maxI64 := by
  induction dims generalizing i numel with
  | nil =>
      cases h
      simpa using hn
  | cons d dims ih =>
      unfold countElements at h
      split at h
      · cases h
      · rename_i hd
        split at h
        · cases h
        · rename_i hfit
          have hpos : 0 < d.toNat := by omega
          have hle : numel * d.toNat ≤ maxI64 :=
            (Nat.le_div_iff_mul_le hpos).mp (Nat.le_of_not_gt hfit)
          have hlt : numel * d.toNat < 2 ^ 64 := hle.trans_lt (by norm_num [maxI64])
          rw [mul64_of_lt hlt] at h
          obtain ⟨hds, hnum, hbound⟩ := ih hle h
          refine ⟨?_, ?_, hbound⟩
          · intro e he
            rcases List.mem_cons.mp he with rfl | he
            · omega
            · exact hds e he
          · rw [hnum, List.map_cons, List.prod_cons, Nat.mul_assoc]

theorem countElements_of_valid {dims : List Nat} {i numel : Nat}
    (hpos : ∀ d ∈ dims, 0 < d) (hle : numel * dims.prod ≤ maxI64) :
    countElements i numel (dims.map Int.ofNat) = .ok (numel * dims.prod) := by
  induction dims generalizing i numel with
  | nil => simp [countElements]
  | cons d dims ih =>
      have hd : 0 < d := hpos d (by simp)
      have htail : 0 < dims.prod := List.prod_pos fun e he => hpos e (by simp [he])
      rw [List.prod_cons, ← Nat.mul_assoc] at hle
      have hfit : numel * d ≤ maxI64 := (Nat.le_mul_of_pos_right _ htail).trans hle
      have hnot : ¬numel > maxI64 / d := Nat.not_lt.mpr ((Nat.le_div_iff_mul_le hd).mpr hfit)
      rw [List.map_cons, countElements, if_neg (by simp; omega)]
      simp only [Int.ofNat_eq_natCast, Int.toNat_natCast, if_neg hnot]
      rw [mul64_of_lt (hfit.trans_lt (by norm_num [maxI64])),
        ih (fun e he => hpos e (by simp [he])) hle, List.prod_cons, Nat.mul_assoc]

theorem validateShape_ok {dims : List Int} {s : ShapeInfo} (h : validateShape dims = .ok s) :
    s.Canonical ∧ dims = s.dimensions.map Int.ofNat := by
  unfold validateShape at h
  split at h
  · cases h
  rename_i hrank
  cases hcount : countElements 0 1 dims with
  | error e => simp [hcount, bind, Except.bind] at h
  | ok n =>
      simp only [hcount, bind, Except.bind] at h
      split at h
      · cases h
      rename_i hbytes
      cases h
      obtain ⟨hpos, hnum, -⟩ := countElements_ok (by norm_num [maxI64]) hcount
      rw [Nat.one_mul] at hnum
      have hvalid : ValidDims (dims.map Int.toNat) := {
        rank := by simpa using Nat.le_of_not_gt hrank
        pos := by
          intro d hd
          obtain ⟨e, he, rfl⟩ := List.mem_map.mp hd
          have := hpos e he
          omega
        bound := by rw [← hnum]; exact Nat.le_of_not_gt hbytes }
      refine ⟨⟨hvalid, hnum, ?_, ?_⟩, ?_⟩
      · rw [fillStrides_eq hvalid]
      · have := hvalid.prod_lt
        dsimp only
        rw [mul64_of_lt (by omega), Nat.mul_comm]
      · rw [List.map_map]
        conv_lhs => rw [← List.map_id dims]
        refine List.map_congr_left fun d hd => ?_
        have := hpos d hd
        simp only [id_eq, Function.comp_apply, Int.ofNat_eq_natCast]
        omega

theorem validateShape_of_valid {dims : List Nat} (h : ValidDims dims) :
    validateShape (dims.map Int.ofNat) = .ok (canonicalShape dims) := by
  have hlt := h.prod_lt
  have hcount : countElements 0 1 (dims.map Int.ofNat) = .ok dims.prod := by
    simpa using countElements_of_valid (i := 0) h.pos
      (show 1 * dims.prod ≤ maxI64 by norm_num [maxI64]; omega)
  have hback : (dims.map Int.ofNat).map Int.toNat = dims := by
    simp [List.map_map, Function.comp_def]
  unfold validateShape
  rw [if_neg (by simpa using h.rank)]
  simp only [hcount, bind, Except.bind, hback]
  rw [if_neg (Nat.not_lt.mpr h.bound), fillStrides_eq h, mul64_of_lt (by omega)]
  simp [canonicalShape, Nat.mul_comm]

theorem canonicalShape_canonical {dims : List Nat} (h : ValidDims dims) :
    (canonicalShape dims).Canonical := ⟨h, rfl, rfl, rfl⟩

theorem ShapeInfo.Canonical.eq {s : ShapeInfo} (h : s.Canonical) :
    s = canonicalShape s.dimensions := by
  obtain ⟨dimensions, strides, numel, byteSize⟩ := s
  obtain ⟨-, hn, hs, hb⟩ := h
  simp only at hn hs hb
  subst hn hs hb
  rfl

theorem sameShape_iff {left right : ShapeInfo} :
    sameShape left right = true ↔ left.dimensions = right.dimensions := by
  simp [sameShape]

end Tensora
