import Tensora.Lib.CheckedLoop
import Mathlib.Tactic.Common

/-! Datasets and the loader that hands them out in batches. A Dart `int` is an `Int64`. -/
namespace Tensora.Data

variable {T : Type}

/-- `ArgumentError.value`, with the value it names, the `IndexError` of `checkValidIndex` and the
`RangeError` of a negative length. -/
inductive DataError (T : Type) where
  | argumentValue (value : Int64 ⊕ List T) (name message : String)
  | index (index : Int64) (name : String) (length : Int64)
  | negative (value : Int64) (name : String)
  deriving DecidableEq, Repr

/-- `Dataset<T>`. -/
structure Dataset (T : Type) where
  length : Int64
  get : Int64 → Except (DataError T) T

/-- The dataset is fixed: it reads back the elements of one list. -/
structure Dataset.Holds (dataset : Dataset T) (xs : List T) : Prop where
  length : dataset.length = .ofNat xs.length
  get : ∀ i (hi : i < xs.length), dataset.get (.ofNat i) = .ok xs[i]

/-- `ListDataset<T>`. -/
def listDataset (values : List T) : Dataset T where
  length := .ofNat values.length
  get index :=
    if index < 0 then throw (.index index "index" (.ofNat values.length))
    else match values[index.toNatClampNeg]? with
      | some value => pure value
      | none => throw (.index index "index" (.ofNat values.length))

structure Batch (T : Type) where
  startIndex : Int64
  values : List T
  notNegative : ¬ startIndex < 0
  notEmpty : values.isEmpty = false

/-- The constructor of `Batch<T>`. -/
def Batch.create (startIndex : Int64) (values : List T) : Except (DataError T) (Batch T) :=
  if hstart : startIndex < 0 then throw (.argumentValue (.inl startIndex) "startIndex" "negative")
  else match hvalues : values.isEmpty with
    | true => throw (.argumentValue (.inr values) "values" "must not be empty")
    | false => pure ⟨startIndex, values, hstart, hvalues⟩

structure DataLoader (T : Type) where
  dataset : Dataset T
  batchSize : Int64
  dropLast : Bool
  positive : ¬ batchSize ≤ 0

/-- The constructor of `DataLoader<T>`. -/
def DataLoader.create (dataset : Dataset T) (batchSize : Int64) (dropLast : Bool) :
    Except (DataError T) (DataLoader T) :=
  if h : batchSize ≤ 0 then
    throw (.argumentValue (.inl batchSize) "batchSize" "must be positive")
  else pure ⟨dataset, batchSize, dropLast, h⟩

/-- What a generator does: it yields and goes on, it ends or it throws. `unfinished` is the model
out of fuel. -/
inductive Iteration (T : Type) where
  | done
  | thrown (error : DataError T)
  | unfinished
  | yield (batch : Batch T) (rest : Iteration T)

def Iteration.ofList : List (Batch T) → Iteration T
  | [] => .done
  | batch :: rest => .yield batch (ofList rest)

/-- `List.generate`. -/
def generate (count : Int64) (generator : Int64 → Except (DataError T) T) :
    Except (DataError T) (List T) :=
  if count < 0 then throw (.negative count "length")
  else (List.range count.toNatClampNeg).mapM fun offset => generator (.ofNat offset)

namespace DataLoader

/-- The body of the loop of `batches` for one `start`. -/
def batchAt (loader : DataLoader T) (start remaining : Int64) : Except (DataError T) (Batch T) := do
  let count := if remaining < loader.batchSize then remaining else loader.batchSize
  let values ← generate count fun offset => loader.dataset.get (start + offset)
  Batch.create start values

def batchesFrom (loader : DataLoader T) : Nat → Int64 → Iteration T
  | 0, _ => .unfinished
  | fuel + 1, start =>
      if start < loader.dataset.length then
        let remaining := loader.dataset.length - start
        if loader.dropLast = true ∧ remaining < loader.batchSize then .done
        else match loader.batchAt start remaining with
          | .error error => .thrown error
          | .ok batch => .yield batch (loader.batchesFrom fuel (start + loader.batchSize))
      else .done

/-- `batches`, with a bound on the number of rounds of its loop. -/
def batches (loader : DataLoader T) (fuel : Nat) : Iteration T :=
  loader.batchesFrom fuel 0

end DataLoader

theorem listDataset_holds {xs : List T} (hlength : xs.length < 2 ^ 63) :
    (listDataset xs).Holds xs := by
  refine ⟨rfl, fun i hi => ?_⟩
  have hread : (Int64.ofNat i).toNatClampNeg = i :=
    Int64.toNatClampNeg_ofNat_of_lt (by omega)
  have hsign : ¬ Int64.ofNat i < 0 := by
    rw [Int64.lt_iff_toInt_lt, Int64.toInt_ofNat_of_lt (by omega)]
    simp
  unfold listDataset
  simp only [hread, if_neg hsign, List.getElem?_eq_getElem hi]
  rfl

theorem ofNat_lt_ofNat {a b : Nat} (ha : a < 2 ^ 63) (hb : b < 2 ^ 63) :
    Int64.ofNat a < Int64.ofNat b ↔ a < b := by
  rw [Int64.lt_iff_toInt_lt, Int64.toInt_ofNat_of_lt ha, Int64.toInt_ofNat_of_lt hb]
  omega

theorem not_ofNat_lt_zero {a : Nat} (ha : a < 2 ^ 63) : ¬ Int64.ofNat a < 0 := by
  have := (ofNat_lt_ofNat ha (b := 0) (by omega)).not
  simpa using this

theorem Batch.create_eq {s : Nat} {values : List T} (hs : s < 2 ^ 63) (hvalues : values ≠ []) :
    ∃ batch : Batch T, Batch.create (.ofNat s) values = .ok batch ∧
      batch.startIndex = .ofNat s ∧ batch.values = values := by
  unfold Batch.create
  rw [dif_neg (not_ofNat_lt_zero hs)]
  split
  · rename_i hempty
    exact absurd (List.isEmpty_iff.mp hempty) hvalues
  · exact ⟨_, rfl, rfl, rfl⟩

theorem take_drop_eq_tab (xs : List T) (d : T) {s count : Nat} (hin : s + count ≤ xs.length) :
    (xs.drop s).take count = CheckedLoop.tab count fun i => xs.getD (s + i) d := by
  refine CheckedLoop.tab_eq_of_length ?_ fun i hi => ?_
  · rw [List.length_take, List.length_drop]
    omega
  · rw [List.length_take, List.length_drop] at hi
    have hi' : s + i < xs.length := by omega
    rw [List.getElem_take, List.getElem_drop, List.getD_eq_getElem?_getD,
      List.getElem?_eq_getElem hi', Option.getD_some]

theorem generate_eq {dataset : Dataset T} {xs : List T} (hdataset : dataset.Holds xs)
    {s count : Nat} (hin : s + count ≤ xs.length) (hs : s < xs.length)
    (hlength : xs.length < 2 ^ 63) :
    (generate (.ofNat count) fun offset => dataset.get (.ofNat s + offset))
      = .ok ((xs.drop s).take count) := by
  have hcount : count < 2 ^ 63 := by omega
  unfold generate
  rw [if_neg (not_ofNat_lt_zero hcount), Int64.toNatClampNeg_ofNat_of_lt hcount,
    take_drop_eq_tab xs xs[s] hin]
  apply CheckedLoop.mapM_eq
  intro offset hoffset
  have hi : s + offset < xs.length := by
    have := List.mem_range.mp hoffset
    omega
  show dataset.get (.ofNat s + .ofNat offset) = _
  rw [← Int64.ofNat_add, hdataset.get _ hi, List.getD_eq_getElem?_getD,
    List.getElem?_eq_getElem hi, Option.getD_some]

/-- What the batches yielded from `s` on have to do with the elements `rest` that are left there;
`missing` are the elements no batch holds. -/
structure Cut (size : Nat) (dropLast : Bool) (s : Nat) (rest missing : List T)
    (bs : List (Batch T)) : Prop where
  elements : bs.flatMap Batch.values ++ missing = rest
  start : ∀ before batch after, bs = before ++ batch :: after →
    batch.startIndex.toInt = ((s + (before.flatMap Batch.values).length : Nat) : Int)
  full : ∀ before batch after, bs = before ++ batch :: after →
    after ≠ [] ∨ dropLast = true → batch.values.length = size
  kept : dropLast = false → missing = []
  dropped : missing.length < size

theorem Cut.nil {size s : Nat} {dropLast : Bool} {rest : List T}
    (hkept : dropLast = false → rest = []) (hdropped : rest.length < size) :
    Cut size dropLast s rest rest [] where
  elements := rfl
  start before batch after h := by simp at h
  full before batch after h := by simp at h
  kept := hkept
  dropped := hdropped

theorem Cut.cons {size s : Nat} {dropLast : Bool} {rest missing : List T} {batch : Batch T}
    {bs : List (Batch T)} (hstart : batch.startIndex.toInt = (s : Nat))
    (hvalues : batch.values = rest.take size)
    (hsize : size ≤ rest.length ∨ dropLast = false)
    (hnext : Cut size dropLast (s + size) (rest.drop size) missing bs) :
    Cut size dropLast s rest missing (batch :: bs) := by
  have hlength : bs ≠ [] ∨ dropLast = true → batch.values.length = size := by
    intro h
    rw [hvalues, List.length_take]
    rcases hsize with hsize | hsize
    · omega
    · rcases h with h | h
      · obtain ⟨next, bs, rfl⟩ := List.exists_cons_of_ne_nil h
        have helements := congrArg List.length hnext.elements
        have hpos : next.values.length ≠ 0 := by
          have := next.notEmpty
          intro hzero
          rw [List.length_eq_zero_iff.mp hzero] at this
          exact Bool.noConfusion this
        simp only [List.flatMap_cons, List.length_append, List.length_drop] at helements
        omega
      · rw [hsize] at h
        exact Bool.noConfusion h
  refine ⟨?_, ?_, ?_, hnext.kept, hnext.dropped⟩
  · rw [List.flatMap_cons, List.append_assoc, hnext.elements, hvalues, List.take_append_drop]
  · intro before found after h
    rcases before with _ | ⟨first, before⟩
    · obtain ⟨rfl, rfl⟩ := List.cons.inj h
      simpa using hstart
    · obtain ⟨rfl, hbs⟩ := List.cons.inj h
      rw [hnext.start before found after hbs, List.flatMap_cons, List.length_append,
        hlength (.inl (by rw [hbs]; simp))]
      omega
  · intro before found after h hmore
    rcases before with _ | ⟨first, before⟩
    · obtain ⟨rfl, rfl⟩ := List.cons.inj h
      exact hlength hmore
    · obtain ⟨rfl, hbs⟩ := List.cons.inj h
      exact hnext.full before found after hbs hmore

structure DataLoader.Serves (loader : DataLoader T) (xs : List T) (size : Nat) : Prop where
  dataset : loader.dataset.Holds xs
  length : xs.length < 2 ^ 62
  batchSize : loader.batchSize = .ofNat size
  bound : size < 2 ^ 63
  positive : 0 < size

namespace DataLoader

variable {loader : DataLoader T} {xs : List T} {s size : Nat}

theorem serves (hdataset : loader.dataset.Holds xs) (hlength : xs.length < 2 ^ 62) :
    loader.Serves xs loader.batchSize.toInt.toNat := by
  have hpositive : 0 < loader.batchSize.toInt := by
    have := loader.positive
    rw [Int64.le_iff_toInt_le] at this
    simpa using this
  have hbound := loader.batchSize.toInt_lt
  have hcast : ((loader.batchSize.toInt.toNat : Nat) : Int) = loader.batchSize.toInt :=
    Int.toNat_of_nonneg hpositive.le
  refine ⟨hdataset, hlength, ?_, by omega, by omega⟩
  rw [← Int64.toInt_inj, Int64.toInt_ofNat_of_lt (by omega), hcast]

namespace Serves

theorem batchAt_eq (h : loader.Serves xs size) (hs : s < xs.length) :
    ∃ batch, loader.batchAt (.ofNat s) (.ofNat (xs.length - s)) = .ok batch ∧
      batch.startIndex.toInt = s ∧ batch.values = (xs.drop s).take size := by
  have hlength := h.length
  have hpositive := h.positive
  have hcount : (if Int64.ofNat (xs.length - s) < loader.batchSize then .ofNat (xs.length - s)
      else loader.batchSize) = Int64.ofNat (min (xs.length - s) size) := by
    have hless := ofNat_lt_ofNat (a := xs.length - s) (by omega) h.bound
    rw [h.batchSize]
    split
    · rename_i hlt
      rw [min_eq_left (hless.mp hlt).le]
    · rename_i hlt
      rw [min_eq_right (not_lt.mp fun hlt' => hlt (hless.mpr hlt'))]
  have htake : (xs.drop s).take (min (xs.length - s) size) = (xs.drop s).take size := by
    rw [List.take_eq_take_iff, List.length_drop]
    omega
  have hnonempty : (xs.drop s).take size ≠ [] := by
    rw [← List.length_pos_iff_ne_nil, List.length_take, List.length_drop]
    omega
  obtain ⟨batch, hbatch, hstart, hvalues⟩ :=
    Batch.create_eq (s := s) (by omega) hnonempty
  refine ⟨batch, ?_, ?_, hvalues⟩
  · unfold batchAt
    simp only [hcount]
    rw [generate_eq h.dataset (by omega) hs (by omega), htake]
    exact hbatch
  · rw [hstart, Int64.toInt_ofNat_of_lt (by omega)]

theorem guard_iff (h : loader.Serves xs size) (hs : s < 2 ^ 63) :
    Int64.ofNat s < loader.dataset.length ↔ s < xs.length := by
  have := h.length
  rw [h.dataset.length]
  exact ofNat_lt_ofNat hs (by omega)

theorem short_iff (h : loader.Serves xs size) :
    Int64.ofNat (xs.length - s) < loader.batchSize ↔ xs.length - s < size := by
  have := h.length
  rw [h.batchSize]
  exact ofNat_lt_ofNat (by omega) h.bound

theorem remaining_eq (h : loader.Serves xs size) (hs : s < xs.length) :
    loader.dataset.length - Int64.ofNat s = .ofNat (xs.length - s) := by
  rw [h.dataset.length, Int64.ofNat_sub _ _ hs.le]

theorem batchesFrom_end (h : loader.Serves xs size) (hs : s < 2 ^ 63) (hend : xs.length ≤ s)
    (fuel : Nat) : loader.batchesFrom (fuel + 1) (.ofNat s) = .done := by
  unfold batchesFrom
  rw [if_neg fun hless => absurd ((h.guard_iff hs).mp hless) (not_lt.mpr hend)]

theorem batchesFrom_drop (h : loader.Serves xs size) (hs : s < xs.length)
    (hdrop : loader.dropLast = true) (hshort : xs.length - s < size) (fuel : Nat) :
    loader.batchesFrom (fuel + 1) (.ofNat s) = .done := by
  have := h.length
  unfold batchesFrom
  simp only [h.remaining_eq hs]
  rw [if_pos ((h.guard_iff (by omega)).mpr hs), if_pos ⟨hdrop, h.short_iff.mpr hshort⟩]

theorem batchesFrom_yield (h : loader.Serves xs size) (hs : s < xs.length)
    (hyield : ¬ (loader.dropLast = true ∧ xs.length - s < size)) {batch : Batch T}
    (hbatch : loader.batchAt (.ofNat s) (.ofNat (xs.length - s)) = .ok batch) (fuel : Nat) :
    loader.batchesFrom (fuel + 1) (.ofNat s)
      = .yield batch (loader.batchesFrom fuel (.ofNat (s + size))) := by
  have := h.length
  rw [batchesFrom]
  simp only [h.remaining_eq hs, hbatch]
  rw [if_pos ((h.guard_iff (by omega)).mpr hs),
    if_neg fun hdrop => hyield ⟨hdrop.1, h.short_iff.mp hdrop.2⟩, h.batchSize, Int64.ofNat_add]

/-- The loop from `s` on. It starts at 0 and a later `s` is at least `size`, so that the last
increment, which may go far past the end of the dataset, stays below the limit of the integers. -/
theorem batchesFrom_cut (h : loader.Serves xs size) (hs : s < 2 ^ 63)
    (hfirst : s = 0 ∨ size ≤ s) :
    ∃ bs missing, Cut size loader.dropLast s (xs.drop s) missing bs ∧
      ∀ fuel, xs.length - s < fuel → loader.batchesFrom fuel (.ofNat s) = .ofList bs := by
  have hlength := h.length
  have hbound := h.bound
  have hpositive := h.positive
  induction hleft : xs.length - s using Nat.strong_induction_on generalizing s with
  | _ left ih =>
    rcases Nat.lt_or_ge s xs.length with hend | hend
    · by_cases hdrop : loader.dropLast = true ∧ xs.length - s < size
      · refine ⟨[], xs.drop s, Cut.nil (fun hkept => ?_) ?_, fun fuel hfuel => ?_⟩
        · rw [hdrop.1] at hkept
          exact Bool.noConfusion hkept
        · rw [List.length_drop]
          exact hdrop.2
        · obtain ⟨fuel, rfl⟩ := Nat.exists_eq_add_of_lt hfuel
          exact h.batchesFrom_drop hend hdrop.1 hdrop.2 _
      · obtain ⟨batch, hbatch, hstart, hvalues⟩ := h.batchAt_eq hend
        obtain ⟨bs, missing, hcut, hrun⟩ :=
          ih (xs.length - (s + size)) (by omega) (s := s + size) (by omega) (by omega) rfl
        refine ⟨batch :: bs, missing, Cut.cons hstart hvalues ?_ ?_, fun fuel hfuel => ?_⟩
        · rw [List.length_drop]
          by_cases hlast : loader.dropLast = true
          · exact .inl (not_lt.mp fun hshort => hdrop ⟨hlast, hshort⟩)
          · exact .inr (Bool.not_eq_true _ ▸ hlast)
        · rw [List.drop_drop]
          exact hcut
        · obtain ⟨fuel, rfl⟩ := Nat.exists_eq_add_of_lt hfuel
          rw [h.batchesFrom_yield hend hdrop hbatch, hrun _ (by omega)]
          rfl
    · refine ⟨[], [], ?_, fun fuel hfuel => ?_⟩
      · rw [List.drop_of_length_le hend]
        exact Cut.nil (fun _ => rfl) hpositive
      · obtain ⟨fuel, rfl⟩ := Nat.exists_eq_add_of_lt hfuel
        exact h.batchesFrom_end hs hend _

end Serves

/-- The batches partition a fixed dataset, whatever the batch size and the flag. -/
theorem batches_partition (hdataset : loader.dataset.Holds xs) (hlength : xs.length < 2 ^ 62) :
    ∃ bs missing, (∀ fuel, xs.length < fuel → loader.batches fuel = .ofList bs) ∧
      bs.flatMap Batch.values ++ missing = xs ∧
      (∀ before batch after, bs = before ++ batch :: after →
        batch.startIndex.toInt = (((before.flatMap Batch.values).length : Nat) : Int) ∧
        batch.values ≠ [] ∧
        (after ≠ [] ∨ loader.dropLast = true →
          ((batch.values.length : Nat) : Int) = loader.batchSize.toInt)) ∧
      (loader.dropLast = false → missing = []) ∧
      ((missing.length : Nat) : Int) < loader.batchSize.toInt := by
  have h := serves hdataset hlength
  have hsize : ((loader.batchSize.toInt.toNat : Nat) : Int) = loader.batchSize.toInt := by
    have := h.positive
    omega
  obtain ⟨bs, missing, hcut, hrun⟩ := h.batchesFrom_cut (s := 0) (by omega) (.inl rfl)
  refine ⟨bs, missing, hrun, hcut.elements, fun before batch after hbs => ⟨?_, ?_, ?_⟩,
    hcut.kept, ?_⟩
  · rw [hcut.start before batch after hbs, Nat.zero_add]
  · exact fun hempty => by simpa [hempty] using batch.notEmpty
  · intro hfull
    rw [hcut.full before batch after hbs hfull, hsize]
  · rw [← hsize]
    exact Int.ofNat_lt.mpr hcut.dropped

def pairs : DataLoader Nat := ⟨listDataset [10, 20, 30], 2, true, by decide⟩

theorem batches_partition_pairs :
    ∃ bs missing, (∀ fuel, 3 < fuel → pairs.batches fuel = .ofList bs) ∧
      bs.flatMap Batch.values ++ missing = [10, 20, 30] ∧
      ((missing.length : Nat) : Int) < (2 : Int64).toInt := by
  obtain ⟨bs, missing, hrun, helements, -, -, hmissing⟩ :=
    @batches_partition Nat pairs [10, 20, 30] (listDataset_holds (by decide)) (by decide)
  exact ⟨bs, missing, hrun, helements, hmissing⟩

example : pairs.batches 2 = .yield ⟨0, [10, 20], by decide, rfl⟩ .done := by rfl

example :
    (DataLoader.create (listDataset [10, 20, 30]) 9223372036854775807 false).map (batches · 2)
      = .ok (.yield ⟨0, [10, 20, 30], by decide, rfl⟩ .done) := by
  rfl

end DataLoader

end Tensora.Data
