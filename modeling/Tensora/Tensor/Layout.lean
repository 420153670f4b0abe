import Mathlib.Data.Set.Function
import Tensora.Tensor.Memory

/-! The layouts tensors can have: row-major, or a rank-2 matrix read by columns.
Over either, logical indices name every element of the storage once. -/
namespace Tensora
open CheckedLoop

/-- Metadata of a tensor: row-major, or the transposed view of a row-major matrix. -/
structure ShapeInfo.Layout (s : ShapeInfo) : Prop where
  valid : ValidDims s.dimensions
  numel_eq : s.numel = s.dimensions.prod
  byteSize_eq : s.byteSize = 4 * s.numel
  strides_eq : s.strides = rowMajorStrides s.dimensions ∨
    ∃ rows cols, s.dimensions = [rows, cols] ∧ s.strides = [1, rows]

theorem ShapeInfo.Canonical.layout {s : ShapeInfo} (h : s.Canonical) : s.Layout where
  valid := h.valid
  numel_eq := h.numel_eq
  byteSize_eq := h.byteSize_eq
  strides_eq := Or.inl h.strides_eq

theorem ShapeInfo.Layout.canonical {s : ShapeInfo} (h : s.Layout)
    (hs : s.strides = rowMajorStrides s.dimensions) : s.Canonical :=
  ⟨h.valid, h.numel_eq, hs, h.byteSize_eq⟩

theorem ShapeInfo.Layout.swapped {s s' : ShapeInfo} {rows cols : Nat} (h : s.Layout)
    (hdims : s.dimensions = [rows, cols])
    (hs' : s' = { s with dimensions := [cols, rows], strides := s.strides.reverse }) :
    s'.Layout := by
  subst hs'
  have hvalid := h.valid
  rw [hdims] at hvalid
  refine ⟨⟨hvalid.rank, ?_, ?_⟩, ?_, h.byteSize_eq, ?_⟩
  · intro d hd
    apply hvalid.pos d
    simp only [List.mem_cons, List.not_mem_nil, or_false] at hd ⊢
    exact hd.symm
  · simpa [Nat.mul_comm] using hvalid.bound
  · simpa [hdims, Nat.mul_comm] using h.numel_eq
  · rcases h.strides_eq with hs | ⟨r, c, hd, hs⟩
    · right
      exact ⟨cols, rows, rfl, by simp [hs, hdims, rowMajorStrides]⟩
    · left
      rw [hdims] at hd
      simp only [List.cons.injEq, and_true] at hd
      obtain ⟨rfl, rfl⟩ := hd
      simp [hs, rowMajorStrides]

namespace Tensor

theorem contiguous_fold {dims strides : List Nat} (h : ValidDims dims)
    (hlen : strides.length = dims.length) :
    (dims.zip strides).foldr
      (fun (dimension, stride) (contiguous, expectedStride) =>
        (contiguous && stride == expectedStride, mul64 expectedStride dimension)) (true, 1) =
      (decide (strides = rowMajorStrides dims), dims.prod) := by
  induction dims generalizing strides with
  | nil =>
      have hs : strides = [] := by simpa using hlen
      subst hs
      simp [rowMajorStrides]
  | cons d dims ih =>
      cases strides with
      | nil => simp at hlen
      | cons s strides =>
          have hlt := h.prod_lt
          rw [List.prod_cons, Nat.mul_comm] at hlt
          rw [List.zip_cons_cons, List.foldr_cons, ih h.tail (by simpa using hlen)]
          simp only [rowMajorStrides, List.cons.injEq, List.prod_cons]
          rw [mul64_of_lt (hlt.trans (by norm_num)), Nat.mul_comm]
          simp [Bool.and_comm, beq_eq_decide, Bool.decide_and]

theorem isContiguous_iff {t : Tensor} (h : t.shape.Layout) :
    t.isContiguous = true ↔ t.shape.strides = rowMajorStrides t.shape.dimensions := by
  have hlen : t.shape.strides.length = t.shape.dimensions.length := by
    rcases h.strides_eq with hs | ⟨r, c, hd, hs⟩
    · rw [hs, length_rowMajorStrides]
    · simp [hd, hs]
  unfold isContiguous
  rw [contiguous_fold h.valid hlen]
  simp

theorem rowMajor_fold {dims : List Nat} (h : ValidDims dims) (i offset : Nat)
    (hoff : offset < 2 ^ 63) :
    (dims.zip (rowMajorStrides dims)).foldr
      (fun (dimension, stride) (remaining, storageIndex) =>
        (remaining / dimension, add64 storageIndex (mul64 (remaining % dimension) stride)))
      (i, offset) = (i / dims.prod, offset + i % dims.prod) := by
  induction dims with
  | nil => simp [rowMajorStrides, Nat.mod_one]
  | cons d dims ih =>
      have hlt := h.prod_lt
      have hpos := h.tail.prod_pos
      have hd := h.pos d (by simp)
      have hmod := Nat.mod_lt (i / dims.prod) hd
      have hrest := Nat.mod_lt i hpos
      have hterm : i / dims.prod % d * dims.prod + dims.prod ≤ d * dims.prod := by
        calc i / dims.prod % d * dims.prod + dims.prod
            = (i / dims.prod % d + 1) * dims.prod := by ring
          _ ≤ d * dims.prod := Nat.mul_le_mul_right _ hmod
      rw [List.prod_cons] at hlt
      simp only [rowMajorStrides, List.zip_cons_cons, List.foldr_cons, ih h.tail, List.prod_cons]
      rw [mul64_of_lt (by omega), add64_of_lt (by omega), Nat.div_div_eq_div_mul,
        Nat.mul_comm d dims.prod, Nat.mod_mul, Nat.mul_comm (i / dims.prod % d)]
      simp only [Nat.add_assoc]

theorem logicalStorageIndex_contiguous {t : Tensor} (h : t.shape.Layout)
    (hs : t.shape.strides = rowMajorStrides t.shape.dimensions) (hoff : t.storageOffset = 0)
    {i : Nat} (hi : i < t.numel) : t.logicalStorageIndex i = i := by
  have hi' : i < t.shape.dimensions.prod := by rw [← h.numel_eq]; exact hi
  unfold logicalStorageIndex
  rw [hs, rowMajor_fold h.valid i _ (by omega), hoff]
  simp [Nat.mod_eq_of_lt hi']

theorem logicalStorageIndex_transposed {t : Tensor} {rows cols : Nat} (h : t.shape.Layout)
    (hd : t.shape.dimensions = [rows, cols]) (hs : t.shape.strides = [1, rows])
    (hoff : t.storageOffset = 0) {i : Nat} (hi : i < t.numel) :
    t.logicalStorageIndex i = i % cols * rows + i / cols := by
  have hvalid := h.valid
  rw [hd] at hvalid
  have hlt := hvalid.prod_lt
  have hn : t.numel = rows * cols := by
    have := h.numel_eq
    rw [hd] at this
    simpa [numel] using this
  have hcols : 0 < cols := hvalid.pos cols (by simp)
  have hrows : 0 < rows := hvalid.pos rows (by simp)
  rw [hn] at hi
  have hdiv : i / cols < rows := (Nat.div_lt_iff_lt_mul hcols).mpr hi
  have hmod : i % cols < cols := Nat.mod_lt i hcols
  have hterm : i % cols * rows + rows ≤ rows * cols := by
    calc i % cols * rows + rows = (i % cols + 1) * rows := by ring
      _ ≤ cols * rows := Nat.mul_le_mul_right _ hmod
      _ = rows * cols := Nat.mul_comm _ _
  simp only [List.prod_cons, List.prod_nil, Nat.mul_one] at hlt
  unfold logicalStorageIndex
  rw [hd, hs, hoff]
  simp only [List.zip_cons_cons, List.zip_nil_left, List.foldr_cons, List.foldr_nil]
  have hcol : mul64 (i % cols) rows = i % cols * rows := mul64_of_lt (by omega)
  have hrow : mul64 (i / cols) 1 = i / cols := by
    rw [mul64_of_lt (by omega), Nat.mul_one]
  have hbase : add64 0 (i % cols * rows) = i % cols * rows := by
    rw [add64_of_lt (by omega), Nat.zero_add]
  rw [Nat.mod_eq_of_lt hdiv, hcol, hrow, hbase, add64_of_lt (by omega)]

/-- Logical indices below `numel` are a bijection onto the storage's positions. -/
theorem logicalStorageIndex_bijOn {t : Tensor} (h : t.shape.Layout) (hoff : t.storageOffset = 0) :
    Set.BijOn t.logicalStorageIndex (Set.Iio t.numel) (Set.Iio t.numel) := by
  rcases h.strides_eq with hs | ⟨rows, cols, hd, hs⟩
  · refine (Set.bijOn_id _).congr fun i hi => ?_
    exact (logicalStorageIndex_contiguous h hs hoff hi).symm
  · have hvalid := h.valid
    rw [hd] at hvalid
    have hn : t.numel = rows * cols := by
      have := h.numel_eq
      rw [hd] at this
      simpa [numel] using this
    have hcols : 0 < cols := hvalid.pos cols (by simp)
    have hrows : 0 < rows := hvalid.pos rows (by simp)
    have hidx : ∀ i ∈ Set.Iio t.numel, t.logicalStorageIndex i = i % cols * rows + i / cols :=
      fun i hi => logicalStorageIndex_transposed h hd hs hoff hi
    have hback : ∀ i < rows * cols, (i % cols * rows + i / cols) % rows * cols +
        (i % cols * rows + i / cols) / rows = i := by
      intro i hi
      have hdiv : i / cols < rows := (Nat.div_lt_iff_lt_mul hcols).mpr hi
      rw [Nat.mul_comm (i % cols), Nat.mul_add_mod, Nat.mod_eq_of_lt hdiv,
        Nat.mul_add_div hrows, Nat.div_eq_of_lt hdiv, Nat.add_zero]
      exact Nat.div_add_mod' i cols
    have hrange : ∀ r c, r < rows → c < cols → c * rows + r < rows * cols := by
      intro r c hr hc
      calc c * rows + r < c * rows + rows := by omega
        _ = (c + 1) * rows := by ring
        _ ≤ cols * rows := Nat.mul_le_mul_right _ hc
        _ = rows * cols := Nat.mul_comm _ _
    refine ⟨fun i hi => ?_, fun i hi j hj hij => ?_, fun j hj => ?_⟩
    · rw [Set.mem_Iio, hidx i hi, hn]
      rw [Set.mem_Iio, hn] at hi
      exact hrange _ _ ((Nat.div_lt_iff_lt_mul hcols).mpr hi) (Nat.mod_lt i hcols)
    · rw [hidx i hi, hidx j hj] at hij
      rw [Set.mem_Iio, hn] at hi hj
      rw [← hback i hi, ← hback j hj, hij]
    · rw [Set.mem_Iio, hn] at hj
      have hjd : j / rows < cols := (Nat.div_lt_iff_lt_mul hrows).mpr (by rwa [Nat.mul_comm])
      have hlt : j % rows * cols + j / rows < rows * cols := by
        have := hrange (j / rows) (j % rows)
        calc j % rows * cols + j / rows < j % rows * cols + cols := by omega
          _ = (j % rows + 1) * cols := by ring
          _ ≤ rows * cols := Nat.mul_le_mul_right _ (Nat.mod_lt j hrows)
      refine ⟨j % rows * cols + j / rows, by rw [Set.mem_Iio, hn]; exact hlt, ?_⟩
      rw [hidx _ (by rw [Set.mem_Iio, hn]; exact hlt), Nat.mul_comm (j % rows),
        Nat.mul_add_mod, Nat.mod_eq_of_lt hjd, Nat.mul_add_div hcols, Nat.div_eq_of_lt hjd,
        Nat.add_zero]
      exact Nat.div_add_mod' j rows

end Tensor

end Tensora
