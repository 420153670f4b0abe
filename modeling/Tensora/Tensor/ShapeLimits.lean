import Mathlib.Algebra.BigOperators.Ring.Finset
import Tensora.Tensor.Shape

/-! Shape validation at the limits of its integers: every product is exact, what is accepted is
what fits, and the shapes of the language above accept it too. -/
namespace Tensora
open ProgramLogic

variable {σ : Type}

/-- A product in an unsigned type whose largest value is `limit`; it may not wrap. -/
def exactProduct (limit a b : Nat) : EStateM Failure σ Nat :=
  if a * b ≤ limit then pure (a * b) else throw (.fault .overflow)

def countInto (i numel : Nat) : List Int64 → EStateM Failure σ Nat
  | [] => return numel
  | dim :: dims => do
      failIf (dim.toInt ≤ 0) (invalidShape ("shape: dimension " ++ toString i ++
        " must be positive, got " ++ toString dim.toInt))
      failIf (numel > maxI64 / dim.toInt.toNat)
        (invalidShape "shape: element count overflows supported int64 range")
      let product ← exactProduct maxU64 numel dim.toInt.toNat
      countInto (i + 1) product dims

/-- `if (i > 0) stride *= dim;` -/
def outerStride (i stride dim : Nat) : EStateM Failure σ Nat :=
  if i > 0 then exactProduct maxU64 stride dim else pure stride

/-- The loop that fills the strides from the back, at the dimensions from index `i` on. -/
def stridesInto (i : Nat) : List Nat → EStateM Failure σ (List Nat × Nat)
  | [] => return ([], 1)
  | dim :: dims => do
      let (strides, stride) ← stridesInto (i + 1) dims
      let outer ← outerStride i stride dim
      return (stride :: strides, outer)

/-- The end of `ValidateShape`, from the count on. -/
def describeInto (sizeMax : Nat) (dimensions : List Nat) (numel : Nat) :
    EStateM Failure ShapeInfo Unit := do
  failIf (numel > sizeMax / 4)
    (invalidShape "shape: float32 allocation byte size overflows size_t")
  let (strides, _) ← stridesInto 0 dimensions
  let byteSize ← exactProduct sizeMax numel 4
  set
    { dimensions := dimensions, strides := strides,
      numel := numel, byteSize := byteSize : ShapeInfo }

/-- `ValidateShape` where `SIZE_MAX` is `sizeMax`; the state is what `out` points to. -/
def validateShapeInto (sizeMax : Nat) (dims : List Int64) : EStateM Failure ShapeInfo Unit := do
  failIf (dims.length > kMaxTensorRank) (invalidShape ("shape: rank " ++ toString dims.length ++
    " exceeds Milestone 1 limit " ++ toString kMaxTensorRank))
  let numel ← countInto 0 1 dims
  describeInto sizeMax (dims.map fun dim => dim.toInt.toNat) numel

structure DartShape where
  dimensions : List Int64
  numel : Int64
  deriving DecidableEq

/-- `ArgumentError.value`, with the name and the message it is given. -/
structure ArgumentError where
  name : String
  message : String
  deriving DecidableEq, Repr

namespace DartShape

def maxRank : Nat := 32
def maxNumel : Int64 := 0x7fffffffffffffff

/-- Dart's integers wrap at 64 bits. -/
def countDimensions (index : Nat) (count : Int64) : List Int64 → Except ArgumentError Int64
  | [] => .ok count
  | dimension :: rest =>
      if dimension ≤ 0 then
        .error ⟨"dimensions[" ++ toString index ++ "]", "Tensor dimensions must be positive."⟩
      else if count > maxNumel / dimension then
        .error ⟨"dimensions", "Tensor element count exceeds the supported int64 range."⟩
      else countDimensions (index + 1) (count * dimension) rest

/-- The constructor of `Shape`. -/
def make (dimensions : List Int64) : Except ArgumentError DartShape :=
  if dimensions.length > maxRank then
    .error ⟨"dimensions", "Tensor rank cannot exceed 32."⟩
  else
    match countDimensions 0 1 dimensions with
    | .ok count => .ok ⟨dimensions, count⟩
    | .error error => .error error

end DartShape

def elements (dims : List Int64) : Int := (dims.map Int64.toInt).prod

/-- The dimensions a runtime with this `SIZE_MAX` can hold a tensor of. -/
structure Admissible (sizeMax : Nat) (dims : List Int64) : Prop where
  rank : dims.length ≤ kMaxTensorRank
  pos : ∀ dim ∈ dims, 0 < dim.toInt
  bound : elements dims ≤ (min (2 ^ 63 - 1) (sizeMax / 4) : Nat)

theorem wp_exactProduct {limit a b : Nat} (fits : a * b ≤ limit) (Q : Nat → σ → Prop)
    (E : Failure → σ → Prop) (s : σ) : wp (exactProduct limit a b) Q E s ↔ Q (a * b) s := by
  unfold exactProduct
  rw [if_pos fits, wp_pure]

theorem wp_countInto {dims : List Int64} {i numel : Nat} (small : numel ≤ maxI64)
    (Q : Nat → σ → Prop) (E : Failure → σ → Prop) (s : σ) :
    wp (countInto i numel dims) Q E s ↔
      match countElements i numel (dims.map Int64.toInt) with
      | .ok n => Q n s
      | .error failure => E failure s := by
  induction dims generalizing i numel with
  | nil => rfl
  | cons dim dims ih =>
      rw [List.map_cons, countElements, countInto]
      simp only [wp_bind, wp_failIf]
      by_cases negative : dim.toInt ≤ 0
      · simp [negative]
      · by_cases large : numel > maxI64 / dim.toInt.toNat
        · simp only [negative, large, if_true, if_false, false_implies, true_implies,
            not_false_eq_true, not_true_eq_false, true_and, and_true]
        · have positive : 0 < dim.toInt.toNat := by omega
          have fits : numel * dim.toInt.toNat ≤ maxI64 :=
            (Nat.le_div_iff_mul_le positive).mp (Nat.le_of_not_gt large)
          have exact : numel * dim.toInt.toNat ≤ maxU64 := fits.trans (by norm_num [maxI64, maxU64])
          have narrow : numel * dim.toInt.toNat < 2 ^ 64 :=
            exact.trans_lt (by norm_num [maxU64])
          simp only [negative, large, false_implies, not_false_eq_true, true_implies, true_and,
            if_false, wp_exactProduct exact, mul64_of_lt narrow]
          exact ih fits

theorem spec_stridesInto {dims : List Nat} {i : Nat} (pos : ∀ dim ∈ dims, 0 < dim)
    (fits : dims.prod ≤ maxU64) (s : σ) :
    wp (stridesInto i dims)
      (fun result s' => s' = s ∧ result.1 = rowMajorStrides dims ∧ (0 < i → result.2 = dims.prod))
      (fun _ _ => False) s := by
  induction dims generalizing i with
  | nil => exact ⟨rfl, rfl, fun _ => rfl⟩
  | cons dim dims ih =>
      have first : 0 < dim := pos dim List.mem_cons_self
      rw [List.prod_cons] at fits
      have inner : dims.prod ≤ maxU64 := (Nat.le_mul_of_pos_left _ first).trans fits
      rw [stridesInto, wp_bind]
      refine wp_mono (ih (i := i + 1) (fun d h => pos d (by simp [h])) inner) ?_ (fun _ _ h => h)
      rintro ⟨strides, stride⟩ s' ⟨rfl, rfl, outer⟩
      have whole : stride = dims.prod := outer (Nat.succ_pos i)
      dsimp only
      rw [wp_bind, whole, outerStride]
      by_cases outermost : i > 0
      · rw [if_pos outermost, wp_exactProduct (by rwa [Nat.mul_comm])]
        exact ⟨rfl, rfl, fun _ => by rw [List.prod_cons, Nat.mul_comm]⟩
      · rw [if_neg outermost]
        exact ⟨rfl, rfl, fun inside => absurd inside outermost⟩

theorem wp_describeInto {sizeMax : Nat} {dimensions : List Nat}
    (pos : ∀ dim ∈ dimensions, 0 < dim) (fits : dimensions.prod ≤ maxU64)
    (Q : Unit → ShapeInfo → Prop) (E : Failure → ShapeInfo → Prop) (out : ShapeInfo) :
    wp (describeInto sizeMax dimensions dimensions.prod) Q E out ↔
      if dimensions.prod > sizeMax / 4 then
        E (invalidShape "shape: float32 allocation byte size overflows size_t") out
      else Q () {
        dimensions := dimensions
        strides := rowMajorStrides dimensions
        numel := dimensions.prod
        byteSize := dimensions.prod * 4 } := by
  obtain ⟨⟨strides, stride⟩, _, run, rfl, rfl, -⟩ :=
    ok_of_wp (spec_stridesInto (i := 0) pos fits out)
  unfold describeInto
  rw [wp_bind, wp_failIf]
  split
  · rename_i large
    exact ⟨fun h => h.1 large, fun h => ⟨fun _ => h, fun small => absurd large small⟩⟩
  · rename_i small
    have bytes : dimensions.prod * 4 ≤ sizeMax := by omega
    rw [wp_bind, wp_eq_of_ok run]
    dsimp only
    rw [wp_bind, wp_exactProduct bytes]
    exact ⟨fun h => h.2 small, fun h => ⟨fun large => absurd large small, fun _ => h⟩⟩

theorem elements_eq {dims : List Int64} (pos : ∀ dim ∈ dims, 0 < dim.toInt) :
    elements dims = ((dims.map fun dim => dim.toInt.toNat).prod : Nat) := by
  unfold elements
  rw [Nat.cast_list_prod, List.map_map]
  congr 1
  apply List.map_congr_left
  intro dim member
  have := pos dim member
  simp only [Function.comp_apply]
  omega

theorem countElements_returned {dims : List Int} {i numel : Nat} {failure : Failure}
    (h : countElements i numel dims = .error failure) : failure.Returned := by
  induction dims generalizing i numel with
  | nil => cases h
  | cons dim dims ih =>
      unfold countElements at h
      split at h
      · cases h
        exact ⟨_, _, rfl⟩
      · split at h
        · cases h
          exact ⟨_, _, rfl⟩
        · exact ih h

structure Counted (dims : List Int64) (n : Nat) : Prop where
  pos : ∀ dim ∈ dims, 0 < dim.toInt
  exact : (n : Int) = elements dims
  small : n ≤ maxI64

namespace Counted
variable {dims : List Int64} {n : Nat}

theorem positive (h : Counted dims n) : ∀ dim ∈ dims.map (fun dim => dim.toInt.toNat), 0 < dim := by
  intro dim member
  obtain ⟨signed, inside, rfl⟩ := List.mem_map.mp member
  have := h.pos signed inside
  omega

theorem eq_prod (h : Counted dims n) : n = (dims.map fun dim => dim.toInt.toNat).prod := by
  have whole := elements_eq h.pos
  rw [← h.exact] at whole
  exact Int.ofNat_inj.mp whole

theorem prod_le (h : Counted dims n) : (dims.map fun dim => dim.toInt.toNat).prod ≤ maxU64 := by
  rw [← h.eq_prod]
  exact h.small.trans (by norm_num [maxI64, maxU64])

end Counted

theorem toInt_of_pos {dims : List Int64} (pos : ∀ dim ∈ dims, 0 < dim.toInt) :
    (dims.map fun dim => dim.toInt.toNat).map Int.ofNat = dims.map Int64.toInt := by
  rw [List.map_map]
  apply List.map_congr_left
  intro dim member
  have := pos dim member
  simp only [Function.comp_apply, Int.ofNat_eq_natCast]
  omega

theorem countElements_counted {dims : List Int64} {n : Nat}
    (h : countElements 0 1 (dims.map Int64.toInt) = .ok n) : Counted dims n := by
  obtain ⟨pos, exact, small⟩ := countElements_ok (by norm_num [maxI64]) h
  have positive : ∀ dim ∈ dims, 0 < dim.toInt :=
    fun dim member => pos dim.toInt (List.mem_map_of_mem member)
  refine ⟨positive, ?_, small⟩
  rw [elements_eq positive, exact, Nat.one_mul, List.map_map]
  rfl

theorem countElements_rejects {dims : List Int64} {failure : Failure}
    (h : countElements 0 1 (dims.map Int64.toInt) = .error failure)
    (pos : ∀ dim ∈ dims, 0 < dim.toInt) : 2 ^ 63 - 1 < elements dims := by
  by_contra small
  rw [elements_eq pos] at small
  rw [← toInt_of_pos pos, countElements_of_valid] at h
  · cases h
  · intro dim member
    obtain ⟨whole, inside, rfl⟩ := List.mem_map.mp member
    have := pos whole inside
    omega
  · rw [Nat.one_mul]
    have limit : (2 ^ 63 - 1 : Int) = (maxI64 : Nat) := by norm_num [maxI64]
    rw [limit, not_lt] at small
    exact Int.ofNat_le.mp small

namespace DartShape

theorem toInt_limit {dim : Int64} (pos : 0 < dim.toInt) :
    (maxNumel / dim).toInt = (maxI64 / dim.toInt.toNat : Nat) := by
  have largest : maxNumel.toInt = (maxI64 : Nat) := by decide
  have whole : dim.toInt = (dim.toInt.toNat : Nat) := by omega
  rw [Int64.toInt_div_of_ne_left maxNumel dim (by decide), largest, whole, Int.toNat_natCast]
  exact (Int.tdiv_eq_ediv_of_nonneg (Int.natCast_nonneg _)).trans (Int.natCast_ediv _ _).symm

theorem toInt_product {count dim : Int64} {numel : Nat} (same : count.toInt = numel)
    (pos : 0 < dim.toInt) (fits : numel * dim.toInt.toNat ≤ maxI64) :
    (count * dim).toInt = (numel * dim.toInt.toNat : Nat) := by
  have whole : dim.toInt = (dim.toInt.toNat : Nat) := by omega
  have exact : count.toInt * dim.toInt = (numel * dim.toInt.toNat : Nat) := by
    rw [same, Nat.cast_mul, ← whole]
  rw [Int64.toInt_mul, exact]
  norm_num only [maxI64] at fits
  exact Int.bmod_eq_of_le (by omega) (by omega)

/-- Where the native count succeeds, so does the one with wrapping signed integers. -/
theorem countDimensions_of_ok {dims : List Int64} {i index numel n : Nat} {count : Int64}
    (same : count.toInt = numel) (small : numel ≤ maxI64)
    (h : countElements i numel (dims.map Int64.toInt) = .ok n) :
    ∃ total, countDimensions index count dims = .ok total ∧ total.toInt = n := by
  induction dims generalizing i index numel count with
  | nil =>
      cases h
      exact ⟨count, rfl, same⟩
  | cons dim dims ih =>
      rw [List.map_cons, countElements] at h
      split at h
      · cases h
      · rename_i positive
        split at h
        · cases h
        · rename_i large
          have pos : 0 < dim.toInt := by omega
          have fits : numel * dim.toInt.toNat ≤ maxI64 :=
            (Nat.le_div_iff_mul_le (by omega)).mp (Nat.le_of_not_gt large)
          have notNegative : ¬dim ≤ 0 := by
            rw [Int64.le_iff_toInt_le]
            exact not_le.mpr pos
          have notLarge : ¬count > maxNumel / dim := by
            rw [gt_iff_lt, Int64.lt_iff_toInt_lt, toInt_limit pos, same]
            exact fun above => large (Int.ofNat_lt.mp above)
          rw [countDimensions, if_neg notNegative, if_neg notLarge]
          rw [mul64_of_lt (fits.trans_lt (by norm_num [maxI64]))] at h
          exact ih (toInt_product same pos fits) fits h

end DartShape

/-- Validation decides exactly whether a shape fits, with no product that wraps: a wrapped one would
fail with a fault, and every failure here is a status that leaves the output as it was. -/
theorem validateShapeInto_exact (sizeMax : Nat) (dims : List Int64) (out : ShapeInfo) :
    wp (validateShapeInto sizeMax dims)
      (fun _ info =>
        Admissible sizeMax dims ∧ info.dimensions.map Int.ofNat = dims.map Int64.toInt ∧
        (info.numel : Int) = elements dims ∧ info.byteSize = 4 * info.numel ∧
        info.strides = rowMajorStrides info.dimensions ∧
        ∃ shape, DartShape.make dims = .ok shape ∧ shape.dimensions = dims ∧
          shape.numel.toInt = info.numel)
      (fun failure info => ¬Admissible sizeMax dims ∧ info = out ∧ failure.Returned) out := by
  unfold validateShapeInto
  rw [wp_bind, wp_failIf]
  refine ⟨fun long => ⟨fun h => absurd h.rank (not_le.mpr long), rfl, _, _, rfl⟩, fun short => ?_⟩
  rw [wp_bind, wp_countInto (by norm_num [maxI64])]
  cases count : countElements 0 1 (dims.map Int64.toInt) with
  | error failure =>
      refine ⟨fun h => ?_, rfl, countElements_returned count⟩
      have := countElements_rejects count h.pos
      have := h.bound
      omega
  | ok n =>
      have counted := countElements_counted count
      dsimp only
      rw [counted.eq_prod, wp_describeInto counted.positive counted.prod_le, ← counted.eq_prod]
      split
      · refine ⟨fun h => ?_, rfl, _, _, rfl⟩
        have := h.bound
        rw [← counted.exact] at this
        omega
      · refine ⟨⟨not_lt.mp short, counted.pos, ?_⟩, toInt_of_pos counted.pos, counted.exact,
          Nat.mul_comm n 4, rfl, ?_⟩
        · have small := counted.small
          rw [← counted.exact]
          norm_num only [maxI64] at small
          omega
        · have one : (1 : Int64).toInt = (1 : Nat) := by decide
          obtain ⟨total, made, same⟩ :
              ∃ total, DartShape.countDimensions 0 1 dims = .ok total ∧ total.toInt = n :=
            DartShape.countDimensions_of_ok one (by norm_num [maxI64]) count
          refine ⟨⟨dims, total⟩, ?_, rfl, same⟩
          rw [DartShape.make, if_neg (show ¬dims.length > DartShape.maxRank from short), made]

/-- On a 64-bit platform this is the validation the rest of the model uses. -/
theorem wp_validateShapeInto (dims : List Int64) (Q : Unit → ShapeInfo → Prop)
    (E : Failure → ShapeInfo → Prop) (out : ShapeInfo) :
    wp (validateShapeInto maxU64 dims) Q E out ↔
      match validateShape (dims.map Int64.toInt) with
      | .ok info => Q () info
      | .error failure => E failure out := by
  unfold validateShapeInto
  rw [wp_bind, wp_failIf]
  by_cases long : dims.length > kMaxTensorRank
  · simp only [validateShape, List.length_map, long, if_true, true_implies, not_true_eq_false,
      false_implies, and_true]
    rfl
  · simp only [long, false_implies, not_false_eq_true, true_implies, true_and]
    rw [wp_bind, wp_countInto (by norm_num [maxI64])]
    cases count : countElements 0 1 (dims.map Int64.toInt) with
    | error failure =>
        simp only [validateShape, List.length_map, long, if_false, count, bind, Except.bind]
    | ok n =>
        have counted := countElements_counted count
        dsimp only
        rw [counted.eq_prod, wp_describeInto counted.positive counted.prod_le]
        split
        · rename_i large
          rw [← counted.eq_prod] at large
          simp only [validateShape, List.length_map, long, if_false, count, bind, Except.bind,
            large, if_true]
        · rename_i small
          rw [← toInt_of_pos counted.pos,
            validateShape_of_valid ⟨?_, counted.positive, not_lt.mp small⟩]
          · rw [canonicalShape, Nat.mul_comm]
          · simpa using long

end Tensora
