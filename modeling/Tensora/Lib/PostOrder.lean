import Mathlib.Logic.Relation
import Mathlib.Data.List.Basic

/-! Depth-first post-order over a graph whose edges lower a rank. -/
namespace PostOrder
open Relation

variable {α : Type} [DecidableEq α]

structure Progress (α : Type) where
  visited : List α
  order : List α

def visit (next : α → List α) : Nat → α → Progress α → Progress α
  | 0, _, s => s
  | fuel + 1, a, s =>
      if a ∈ s.visited then s
      else
        let s' := (next a).foldl (fun s b => visit next fuel b s) ⟨a :: s.visited, s.order⟩
        ⟨s'.visited, s'.order ++ [a]⟩

def postOrder (next : α → List α) (fuel : Nat) (a : α) : List α :=
  (visit next fuel a ⟨[], []⟩).order

def Closed (next : α → List α) (order : List α) : Prop :=
  ∀ l a r, order = l ++ a :: r → ∀ b ∈ next a, b ∈ l

def Reaches (next : α → List α) : α → α → Prop := ReflTransGen fun a b => b ∈ next a

variable {next : α → List α}

omit [DecidableEq α] in
theorem Closed.mem {order : List α} (hc : Closed next order) {a b : α} (ha : a ∈ order)
    (hb : b ∈ next a) : b ∈ order := by
  obtain ⟨l, r, rfl⟩ := List.append_of_mem ha
  exact List.mem_append_left _ (hc l a r rfl b hb)

omit [DecidableEq α] in
theorem Closed.reaches {order : List α} (hc : Closed next order) {a b : α} (ha : a ∈ order)
    (h : Reaches next a b) : b ∈ order := by
  induction h with
  | refl => exact ha
  | tail _ hstep ih => exact hc.mem ih hstep

omit [DecidableEq α] in
theorem Closed.snoc {order : List α} (hc : Closed next order) {a : α}
    (ha : ∀ b ∈ next a, b ∈ order) : Closed next (order ++ [a]) := by
  intro l x r heq b hb
  rcases List.append_eq_append_iff.mp heq with ⟨m, rfl, hm⟩ | ⟨m, rfl, hm⟩
  · cases m with
    | nil =>
        simp only [List.nil_append, List.cons.injEq] at hm
        rw [List.append_nil]
        exact ha b (by rw [hm.1]; exact hb)
    | cons y m =>
        simp only [List.cons_append, List.cons.injEq] at hm
        have := hm.2
        simp at this
  · cases m with
    | nil =>
        simp only [List.nil_append, List.cons.injEq] at hm
        have hmem := ha b (by rw [← hm.1]; exact hb)
        simpa using hmem
    | cons y m =>
        simp only [List.cons_append, List.cons.injEq] at hm
        obtain ⟨rfl, -⟩ := hm
        exact hc l x m rfl b hb

structure Grown (s s' : Progress α) (new : List α) : Prop where
  order : s'.order = s.order ++ new
  visited : ∀ x, x ∈ s'.visited ↔ x ∈ s.visited ∨ x ∈ new
  nodup : new.Nodup
  fresh : ∀ x ∈ new, x ∉ s.visited

omit [DecidableEq α] in
theorem Grown.refl (s : Progress α) : Grown s s [] :=
  ⟨(List.append_nil _).symm, fun _ => by simp, List.nodup_nil, fun _ h => absurd h (by simp)⟩

omit [DecidableEq α] in
theorem Grown.trans {s s' s'' : Progress α} {new new' : List α} (g : Grown s s' new)
    (g' : Grown s' s'' new') : Grown s s'' (new ++ new') where
  order := by rw [g'.order, g.order, List.append_assoc]
  visited := fun x => by rw [g'.visited, g.visited, List.mem_append, or_assoc]
  nodup := List.nodup_append.mpr ⟨g.nodup, g'.nodup, fun x hx y hy hxy =>
    g'.fresh y hy ((g.visited y).mpr (Or.inr (hxy ▸ hx)))⟩
  fresh := by
    intro x hx hs
    rcases List.mem_append.mp hx with h | h
    · exact g.fresh x h hs
    · exact g'.fresh x h ((g.visited x).mpr (Or.inl hs))

variable {rank : α → Nat}

def Open (rank : α → Nat) (bound : Nat) (s : Progress α) : Prop :=
  ∀ x ∈ s.visited, x ∈ s.order ∨ bound < rank x

def Visits (next : α → List α) (a : α) (s s' : Progress α) : Prop :=
  ∃ new, Grown s s' new ∧ a ∈ s'.order ∧ Closed next s'.order ∧ ∀ x ∈ new, Reaches next a x

theorem foldl_visit (rank : α → Nat) (bound : Nat) {fuel : Nat}
    (ih : ∀ b s, rank b < bound → Open rank (rank b) s → Closed next s.order →
      Visits next b s (visit next fuel b s)) (bs : List α) :
    ∀ s : Progress α, (∀ b ∈ bs, rank b < bound) → (∀ x ∈ s.visited, x ∈ s.order ∨ bound ≤ rank x) →
      Closed next s.order →
      ∃ new, Grown s (bs.foldl (fun s b => visit next fuel b s) s) new ∧
        Closed next (bs.foldl (fun s b => visit next fuel b s) s).order ∧
        (∀ b ∈ bs, b ∈ (bs.foldl (fun s b => visit next fuel b s) s).order) ∧
        ∀ x ∈ new, ∃ b ∈ bs, Reaches next b x := by
  induction bs with
  | nil => exact fun s _ _ hc => ⟨[], Grown.refl s, hc, by simp, by simp⟩
  | cons b bs ihbs =>
      intro s hlt hopen hc
      have hb := hlt b (by simp)
      obtain ⟨new, g, hmem, hc', hreach⟩ := ih b s hb
        (fun x hx => (hopen x hx).imp id fun h => Nat.lt_of_lt_of_le hb h) hc
      obtain ⟨new', g', hc'', hall, hreach'⟩ := ihbs (visit next fuel b s)
        (fun c hmem => hlt c (by simp [hmem])) (by
          intro x hx
          rcases (g.visited x).mp hx with h | h
          · refine (hopen x h).imp (fun h => ?_) id
            rw [g.order]
            exact List.mem_append_left _ h
          · left
            rw [g.order]
            exact List.mem_append_right _ h) hc'
      rw [List.foldl_cons]
      refine ⟨new ++ new', g.trans g', hc'', ?_, ?_⟩
      · intro c hmem'
        rcases List.mem_cons.mp hmem' with rfl | h
        · rw [g'.order]
          exact List.mem_append_left _ hmem
        · exact hall c h
      · intro x hx
        rcases List.mem_append.mp hx with h | h
        · exact ⟨b, by simp, hreach x h⟩
        · obtain ⟨c, hcmem, hcx⟩ := hreach' x h
          exact ⟨c, by simp [hcmem], hcx⟩

/-- Induction on the fuel: the successors of `a` have less rank, so they are
either left already or still to be entered. -/
theorem visit_visits (hrank : ∀ a, ∀ b ∈ next a, rank b < rank a) (fuel : Nat) :
    ∀ a s, rank a < fuel → Open rank (rank a) s → Closed next s.order →
      Visits next a s (visit next fuel a s) := by
  induction fuel with
  | zero => exact fun a s hlt => absurd hlt (Nat.not_lt_zero _)
  | succ fuel ih =>
      intro a s hlt hopen hc
      unfold visit
      by_cases hmem : a ∈ s.visited
      · rw [if_pos hmem]
        refine ⟨[], Grown.refl s, ?_, hc, by simp⟩
        exact (hopen a hmem).resolve_right (Nat.lt_irrefl _)
      · rw [if_neg hmem]
        obtain ⟨new, g, hc', hall, hreach⟩ := foldl_visit rank (rank a)
          (fun b s hb => ih b s (by omega)) (next a) ⟨a :: s.visited, s.order⟩ (hrank a) (by
            intro x hx
            rcases List.mem_cons.mp hx with rfl | h
            · exact Or.inr (Nat.le_refl _)
            · exact (hopen x h).imp id Nat.le_of_lt) hc
        have hfresh : a ∉ new := fun h => g.fresh a h (by simp)
        refine ⟨new ++ [a], ⟨?_, ?_, ?_, ?_⟩, by simp, hc'.snoc hall, ?_⟩
        · simp only [g.order, List.append_assoc]
        · intro x
          simp only [g.visited, List.mem_cons, List.mem_append, List.not_mem_nil, or_false]
          tauto
        · exact List.nodup_append.mpr ⟨g.nodup, by simp, by
            rintro x hx y hy rfl
            exact hfresh (by simpa using (List.mem_singleton.mp hy ▸ hx))⟩
        · intro x hx
          rcases List.mem_append.mp hx with h | h
          · exact fun hs => g.fresh x h (by simp [hs])
          · rw [List.mem_singleton.mp h]
            exact hmem
        · intro x hx
          rcases List.mem_append.mp hx with h | h
          · obtain ⟨b, hb, hbx⟩ := hreach x h
            exact ReflTransGen.head hb hbx
          · rw [List.mem_singleton.mp h]
            exact ReflTransGen.refl

theorem visit_eq (rank : α → Nat) (hrank : ∀ a, ∀ b ∈ next a, rank b < rank a) (fuel : Nat) :
    ∀ fuel' a s, rank a < fuel → rank a < fuel' → visit next fuel a s = visit next fuel' a s := by
  induction fuel with
  | zero => exact fun fuel' a s hlt => absurd hlt (Nat.not_lt_zero _)
  | succ fuel ih =>
      intro fuel' a s hlt hlt'
      obtain ⟨fuel', rfl⟩ : ∃ k, fuel' = k + 1 := ⟨fuel' - 1, by omega⟩
      unfold visit
      rw [List.foldl_ext _ _ _ fun s b hb => ih fuel' b s (by have := hrank a b hb; omega)
        (by have := hrank a b hb; omega)]

section Order
variable (rank) (hrank : ∀ a, ∀ b ∈ next a, rank b < rank a) {fuel : Nat} {a : α}
  (hfuel : rank a < fuel)
include hrank hfuel

theorem visits_root : Visits next a ⟨[], []⟩ (visit next fuel a ⟨[], []⟩) :=
  visit_visits hrank fuel a ⟨[], []⟩ hfuel (by simp [Open]) (by simp [Closed])

theorem closed_postOrder : Closed next (postOrder next fuel a) := by
  obtain ⟨-, -, -, hc, -⟩ := visits_root rank hrank hfuel
  exact hc

theorem nodup_postOrder : (postOrder next fuel a).Nodup := by
  obtain ⟨new, g, -⟩ := visits_root rank hrank hfuel
  rw [postOrder, g.order]
  exact g.nodup

theorem mem_postOrder {x : α} : x ∈ postOrder next fuel a ↔ Reaches next a x := by
  obtain ⟨new, g, hmem, hc, hreach⟩ := visits_root rank hrank hfuel
  constructor
  · intro hx
    rw [postOrder, g.order, List.nil_append] at hx
    exact hreach x hx
  · exact fun h => hc.reaches hmem h

end Order

theorem postOrder_last (next : α → List α) {fuel : Nat} {a : α} (hfuel : 0 < fuel) :
    ∃ front, postOrder next fuel a = front ++ [a] := by
  obtain ⟨fuel, rfl⟩ : ∃ k, fuel = k + 1 := ⟨fuel - 1, by omega⟩
  exact ⟨_, rfl⟩

end PostOrder
