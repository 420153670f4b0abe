import Mathlib.Algebra.BigOperators.Group.Finset.Basic
import Mathlib.Data.List.Basic

/-! Counted loops over flat arrays with checked accesses. A load or store
outside the array, and an index that leaves the machine range, is a fault; the
rules below compute a loop whose accesses are in range as a table of values. -/
namespace CheckedLoop

inductive Fault where
  | outOfRange
  | overflow
  deriving DecidableEq, Repr

variable {α β S : Type}

def load (xs : List α) (i : Nat) : Except Fault α :=
  match xs[i]? with
  | some x => .ok x
  | none => .error .outOfRange

def store (xs : List α) (i : Nat) (x : α) : Except Fault (List α) :=
  if i < xs.length then .ok (xs.set i x) else .error .outOfRange

/-- `row * width + col` in signed 64-bit arithmetic. -/
def index (row width col : Nat) : Except Fault Nat :=
  if row * width + col < 2 ^ 63 then .ok (row * width + col) else .error .overflow

def loop (n : Nat) (s : β) (body : β → Nat → Except Fault β) : Except Fault β :=
  (List.range n).foldlM body s

/-- `for (i < n) out[i] = f(i)` into a fresh array of `n` elements. -/
def fill (n : Nat) (f : Nat → Except Fault α) : Except Fault (List α) :=
  (List.range n).mapM f

/-- The accumulator loop `value = 0; for (i < n) value += f(i)`. -/
def sumLoop [Zero S] [Add S] (n : Nat) (f : Nat → Except Fault S) : Except Fault S :=
  loop n 0 fun value i => do return value + (← f i)

def tab (n : Nat) (f : Nat → α) : List α := (List.range n).map f

def sumTo [Zero S] [Add S] (n : Nat) (f : Nat → S) : S :=
  (List.range n).foldl (fun value i => value + f i) 0

@[simp] theorem length_tab (n : Nat) (f : Nat → α) : (tab n f).length = n := by simp [tab]

theorem getElem?_tab (n : Nat) (f : Nat → α) (i : Nat) :
    (tab n f)[i]? = if i < n then some (f i) else none := by
  unfold tab
  by_cases h : i < n
  · simp [h]
  · simp [h]

theorem getElem?_tab_of_lt {n i : Nat} (f : Nat → α) (h : i < n) : (tab n f)[i]? = some (f i) := by
  rw [getElem?_tab, if_pos h]

@[simp] theorem getElem_tab {n i : Nat} (f : Nat → α) (h : i < (tab n f).length) :
    (tab n f)[i] = f i := by
  simp [tab]

theorem getD_tab {n i : Nat} (f : Nat → α) (d : α) (h : i < n) : (tab n f).getD i d = f i := by
  rw [List.getD_eq_getElem?_getD, getElem?_tab_of_lt f h, Option.getD_some]

theorem tab_congr {n : Nat} {f g : Nat → α} (h : ∀ i < n, f i = g i) : tab n f = tab n g :=
  List.map_congr_left fun i hi => h i (List.mem_range.mp hi)

theorem tab_eq_of_length {n : Nat} {f : Nat → α} {xs : List α} (hlen : xs.length = n)
    (h : ∀ i (hi : i < xs.length), xs[i] = f i) : xs = tab n f := by
  apply List.ext_getElem
  · rw [hlen, length_tab]
  · intro i hi _
    rw [getElem_tab]
    exact h i hi

theorem eq_tab_getD (xs : List α) (d : α) : xs = tab xs.length fun i => xs.getD i d := by
  refine tab_eq_of_length rfl fun i hi => ?_
  rw [List.getD_eq_getElem?_getD, List.getElem?_eq_getElem hi, Option.getD_some]

theorem set_tab {n i : Nat} (f : Nat → α) (x : α) :
    (tab n f).set i x = tab n fun j => if j = i then x else f j := by
  apply List.ext_getElem?
  intro j
  rw [List.getElem?_set, getElem?_tab, getElem?_tab, length_tab]
  by_cases hij : i = j
  · subst hij
    simp
  · have hji : j ≠ i := fun h => hij h.symm
    simp [hij, hji]

theorem load_of_lt {xs : List α} {i : Nat} (d : α) (h : i < xs.length) :
    load xs i = .ok (xs.getD i d) := by
  unfold load
  rw [List.getD_eq_getElem?_getD, List.getElem?_eq_getElem h, Option.getD_some]

theorem load_tab {n i : Nat} (f : Nat → α) (h : i < n) : load (tab n f) i = .ok (f i) := by
  unfold load
  rw [getElem?_tab_of_lt f h]

theorem store_tab {n i : Nat} (f : Nat → α) (x : α) (h : i < n) :
    store (tab n f) i x = .ok (tab n fun j => if j = i then x else f j) := by
  unfold store
  rw [if_pos (by simpa using h), set_tab]

theorem index_of_lt {row width col : Nat} (h : row * width + col < 2 ^ 63) :
    index row width col = .ok (row * width + col) := if_pos h

/-- A loop is computed by exhibiting its state before every pass. -/
theorem loop_eq {n : Nat} {body : β → Nat → Except Fault β} (g : Nat → β)
    (h : ∀ i < n, body (g i) i = .ok (g (i + 1))) : loop n (g 0) body = .ok (g n) := by
  unfold loop
  induction n with
  | zero => rfl
  | succ n ih =>
      rw [List.range_succ, List.foldlM_append, ih fun i hi => h i (Nat.lt_succ_of_lt hi)]
      have hn := h n (Nat.lt_succ_self n)
      simp only [List.foldlM_cons, List.foldlM_nil, bind, Except.bind, hn, pure, Except.pure]

theorem loop_inv {n : Nat} {s : β} {b : β → Nat → Except Fault β} (I : Nat → β → Prop)
    (h0 : I 0 s) (hstep : ∀ i < n, ∀ s, I i s → ∃ s', b s i = .ok s' ∧ I (i + 1) s') :
    ∃ s', loop n s b = .ok s' ∧ I n s' := by
  unfold loop
  induction n with
  | zero => exact ⟨s, rfl, h0⟩
  | succ n ih =>
      obtain ⟨t, ht, hI⟩ := ih fun i hi => hstep i (Nat.lt_succ_of_lt hi)
      obtain ⟨s', hs', hI'⟩ := hstep n (Nat.lt_succ_self n) t hI
      refine ⟨s', ?_, hI'⟩
      rw [List.range_succ, List.foldlM_append, ht]
      simp only [List.foldlM_cons, List.foldlM_nil, bind, Except.bind, hs', pure, Except.pure]

theorem loop_foldl {n : Nat} {s : β} {body : β → Nat → Except Fault β} (f : β → Nat → β)
    (h : ∀ i < n, ∀ s, body s i = .ok (f s i)) :
    loop n s body = .ok ((List.range n).foldl f s) := by
  refine loop_eq (fun i => (List.range i).foldl f s) fun i hi => ?_
  rw [h i hi, List.range_succ, List.foldl_append]
  rfl

/-- The elements in `done` have their final value `f`, the others still `d`. -/
structure Marked (n : Nat) (f d : Nat → α) (done : Nat → Prop) [DecidablePred done]
    (out : List α) : Prop where
  length : out.length = n
  value : ∀ j < n, out[j]? = some (if done j then f j else d j)

section Marked
variable {n : Nat} {f d : Nat → α} {done e : Nat → Prop} [DecidablePred done]
  [DecidablePred e] {out : List α}

theorem Marked.start (f : Nat → α) (d : α) (h : ∀ j < n, ¬done j) :
    Marked n f (fun _ => d) done (List.replicate n d) where
  length := List.length_replicate
  value := by
    intro j hj
    rw [if_neg (h j hj), List.getElem?_replicate, if_pos hj]

theorem Marked.start_of (f : Nat → α) (d : α) (hlen : out.length = n) (h : ∀ j < n, ¬done j) :
    Marked n f (fun j => out.getD j d) done out where
  length := hlen
  value := by
    intro j hj
    rw [if_neg (h j hj), List.getD_eq_getElem?_getD, List.getElem?_eq_getElem (by omega),
      Option.getD_some]

theorem Marked.congr (m : Marked n f d done out) (h : ∀ j < n, e j ↔ done j) :
    Marked n f d e out where
  length := m.length
  value := by
    intro j hj
    rw [m.value j hj]
    simp only [h j hj]

theorem Marked.load (m : Marked n f d done out) {i : Nat} (hi : i < n) :
    load out i = .ok (if done i then f i else d i) := by
  unfold CheckedLoop.load
  rw [m.value i hi]

theorem Marked.store (m : Marked n f d done out) {p : Nat} (hp : p < n) {v : α} (hv : v = f p)
    (h : ∀ j < n, e j ↔ done j ∨ j = p) :
    ∃ out', store out p v = .ok out' ∧ Marked n f d e out' := by
  refine ⟨out.set p v, if_pos (by rw [m.length]; exact hp), ?_, ?_⟩
  · rw [List.length_set, m.length]
  · intro j hj
    rw [List.getElem?_set]
    by_cases hpj : p = j
    · subst hpj
      rw [if_pos rfl, if_pos (by rw [m.length]; exact hp), hv, if_pos ((h p hp).mpr (Or.inr rfl))]
    · rw [if_neg hpj, m.value j hj]
      have : e j ↔ done j := by
        rw [h j hj]
        exact or_iff_left fun hjp => hpj hjp.symm
      simp only [this]

theorem Marked.all (m : Marked n f d done out) (h : ∀ j < n, done j) : out = tab n f := by
  refine tab_eq_of_length m.length fun i hi => ?_
  have hin : i < n := by rw [← m.length]; exact hi
  have hval := m.value i hin
  rw [if_pos (h i hin), List.getElem?_eq_getElem hi] at hval
  exact Option.some.inj hval

end Marked

theorem grid_lt {rows cols r c : Nat} (hr : r < rows) (hc : c < cols) :
    r * cols + c < rows * cols := by
  calc r * cols + c < r * cols + cols := by omega
    _ = (r + 1) * cols := by rw [Nat.add_mul, Nat.one_mul]
    _ ≤ rows * cols := Nat.mul_le_mul_right _ hr

theorem grid_div {cols r c : Nat} (hc : c < cols) : (r * cols + c) / cols = r := by
  rw [Nat.mul_comm, Nat.mul_add_div (by omega), Nat.div_eq_of_lt hc, Nat.add_zero]

theorem grid_mod {cols r c : Nat} (hc : c < cols) : (r * cols + c) % cols = c := by
  rw [Nat.mul_comm, Nat.mul_add_mod, Nat.mod_eq_of_lt hc]

theorem grid_cols_pos {rows cols i : Nat} (hi : i < rows * cols) : 0 < cols :=
  Nat.pos_of_ne_zero fun h0 => by simp [h0] at hi

theorem grid_div_lt {rows cols i : Nat} (hi : i < rows * cols) : i / cols < rows :=
  (Nat.div_lt_iff_lt_mul (grid_cols_pos hi)).mpr hi

theorem grid_mod_lt {rows cols i : Nat} (hi : i < rows * cols) : i % cols < cols :=
  Nat.mod_lt i (grid_cols_pos hi)

theorem grid_eq_iff {cols r c i : Nat} (hc : c < cols) :
    i = r * cols + c ↔ i / cols = r ∧ i % cols = c := by
  constructor
  · rintro rfl
    exact ⟨grid_div hc, grid_mod hc⟩
  · rintro ⟨rfl, rfl⟩
    exact (Nat.div_add_mod' i cols).symm

theorem mapM_eq {ε : Type} {xs : List β} {f : β → Except ε α} (g : β → α)
    (h : ∀ x ∈ xs, f x = .ok (g x)) : xs.mapM f = .ok (xs.map g) := by
  induction xs with
  | nil => rfl
  | cons x xs ih =>
      rw [List.mapM_cons, h x (by simp), ih fun y hy => h y (by simp [hy])]
      rfl

theorem fill_eq {n : Nat} {f : Nat → Except Fault α} (g : Nat → α)
    (h : ∀ i < n, f i = .ok (g i)) : fill n f = .ok (tab n g) :=
  mapM_eq g fun i hi => h i (List.mem_range.mp hi)

section Sum
variable [Zero S] [Add S]

@[simp] theorem sumTo_zero (f : Nat → S) : sumTo 0 f = 0 := rfl

theorem sumTo_succ (n : Nat) (f : Nat → S) : sumTo (n + 1) f = sumTo n f + f n := by
  simp [sumTo, List.range_succ]

theorem sumTo_congr {n : Nat} {f g : Nat → S} (h : ∀ i < n, f i = g i) : sumTo n f = sumTo n g := by
  induction n with
  | zero => rfl
  | succ n ih =>
      rw [sumTo_succ, sumTo_succ, ih fun i hi => h i (Nat.lt_succ_of_lt hi),
        h n (Nat.lt_succ_self n)]

theorem sumLoop_eq {n : Nat} {f : Nat → Except Fault S} (g : Nat → S)
    (h : ∀ i < n, f i = .ok (g i)) : sumLoop n f = .ok (sumTo n g) := by
  unfold sumLoop
  refine loop_eq (fun i => sumTo i g) fun i hi => ?_
  rw [h i hi]
  change Except.ok (sumTo i g + g i) = _
  rw [sumTo_succ]

end Sum

theorem sumTo_eq_sum [AddCommMonoid S] (n : Nat) (f : Nat → S) :
    sumTo n f = ∑ i ∈ Finset.range n, f i := by
  induction n with
  | zero => rfl
  | succ n ih => rw [sumTo_succ, Finset.sum_range_succ, ih]

end CheckedLoop
