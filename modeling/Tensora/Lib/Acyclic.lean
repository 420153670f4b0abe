import Mathlib.Logic.Relation

/-! Relations without cycles, and the ways of adding to one that keep it without. -/
namespace Acyclicity
open Relation

variable {α : Type*} {r r' : α → α → Prop}

def Acyclic (r : α → α → Prop) : Prop := ∀ x, ¬TransGen r x x

theorem Acyclic.mono (h : Acyclic r) (hle : ∀ x y, r' x y → r x y) : Acyclic r' :=
  fun x hx => h x (TransGen.mono hle x x hx)

theorem acyclic_of_rank (rank : α → Nat) (h : ∀ x y, r x y → rank y < rank x) : Acyclic r := by
  have hpath : ∀ {x y}, TransGen r x y → rank y < rank x := by
    intro x y hxy
    induction hxy with
    | single hstep => exact h _ _ hstep
    | tail _ hstep ih => exact Nat.lt_trans (h _ _ hstep) ih
  exact fun x hx => Nat.lt_irrefl _ (hpath hx)

theorem Acyclic.of_swap (h : Acyclic r) (hle : ∀ x y, r' x y → r y x) : Acyclic r' := by
  intro x hx
  exact h x (transGen_swap.mp (TransGen.mono hle x x hx))

theorem not_reaches_of_closed {P : α → Prop} (hclosed : ∀ x y, r x y → P x → P y) {a b : α}
    (ha : P a) (hb : ¬P b) : ¬ReflTransGen r a b := by
  intro hreach
  apply hb
  induction hreach with
  | refl => exact ha
  | tail _ hstep ih => exact hclosed _ _ hstep (ih fun h => hb (hclosed _ _ hstep h))

/-- A path that may use a new edge from `a` to `b` either does not, or passes through both. -/
theorem transGen_add_edge {a b : α} (hno : ¬ReflTransGen r b a)
    (hadd : ∀ x y, r' x y → r x y ∨ x = a ∧ y = b) {x y : α} (h : TransGen r' x y) :
    TransGen r x y ∨ ReflTransGen r x a ∧ ReflTransGen r b y := by
  induction h with
  | single hstep =>
    rcases hadd _ _ hstep with hold | ⟨rfl, rfl⟩
    · exact .inl (.single hold)
    · exact .inr ⟨.refl, .refl⟩
  | tail _ hstep ih =>
    rcases hadd _ _ hstep with hold | ⟨rfl, rfl⟩
    · rcases ih with ih | ih
      · exact .inl (ih.tail hold)
      · exact .inr ⟨ih.1, ih.2.tail hold⟩
    · rcases ih with ih | ih
      · exact .inr ⟨ih.to_reflTransGen, .refl⟩
      · exact absurd ih.2 hno

theorem Acyclic.add_edge (h : Acyclic r) {a b : α} (hno : ¬ReflTransGen r b a)
    (hadd : ∀ x y, r' x y → r x y ∨ x = a ∧ y = b) : Acyclic r' := by
  intro x hx
  rcases transGen_add_edge hno hadd hx with hold | ⟨hfrom, hto⟩
  · exact h x hold
  · exact hno (hto.trans hfrom)

theorem Acyclic.add_source (h : Acyclic r) {a : α} (hnone : ∀ x, ¬r' x a)
    (hadd : ∀ x y, r' x y → r x y ∨ x = a) : Acyclic r' := by
  have hpath : ∀ {x y}, x ≠ a → TransGen r' x y → TransGen r x y := by
    intro x y hx hxy
    induction hxy with
    | single hstep => exact .single ((hadd _ _ hstep).resolve_right hx)
    | @tail y z hpath hstep ih =>
      refine ih.tail ((hadd _ _ hstep).resolve_right ?_)
      rintro rfl
      obtain ⟨w, -, hlast⟩ := TransGen.tail'_iff.mp hpath
      exact hnone w hlast
  intro x hx
  obtain ⟨w, -, hlast⟩ := TransGen.tail'_iff.mp hx
  have hne : x ≠ a := by
    rintro rfl
    exact hnone w hlast
  exact h x (hpath hne hx)

end Acyclicity
