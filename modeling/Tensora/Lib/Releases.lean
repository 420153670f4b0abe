import Mathlib.Data.Set.Card
import Mathlib.Data.Set.Finite.Basic
import Mathlib.Order.WellFounded
import Tensora.Lib.Acyclic

/-! Reference counting: an object goes when nothing alive owns it. Without ownership cycles
everything goes, in whatever order it does. -/
namespace Releases
open Relation Acyclicity

variable {α : Type*} {owns : α → α → Prop} {live live' : Set α}

def Free (owns : α → α → Prop) (live : Set α) (x : α) : Prop :=
  x ∈ live ∧ ∀ y ∈ live, ¬owns y x

def Release (owns : α → α → Prop) (live live' : Set α) : Prop :=
  ∃ x, Free owns live x ∧ live' = live \ {x}

/-- Where no path leads back, an object is left that nothing owns. -/
theorem exists_free (h : Acyclic owns) (hfinite : live.Finite) (hne : live.Nonempty) :
    ∃ x, Free owns live x := by
  have : Finite live := hfinite
  have : IsTrans live fun x y => TransGen owns x.1 y.1 := ⟨fun _ _ _ => TransGen.trans⟩
  have : Std.Irrefl fun x y : live => TransGen owns x.1 y.1 := ⟨fun x => h x.1⟩
  have hwf := Finite.wellFounded_of_trans_of_irrefl fun x y : live => TransGen owns x.1 y.1
  obtain ⟨x, hx⟩ := hne
  obtain ⟨m, -, hm⟩ := hwf.has_min Set.univ ⟨⟨x, hx⟩, trivial⟩
  exact ⟨m.1, m.2, fun y hy howns => hm ⟨y, hy⟩ trivial (.single howns)⟩

theorem eq_empty_of_stuck (h : Acyclic owns) (hfinite : live.Finite)
    (hstuck : ∀ x, ¬Free owns live x) : live = ∅ := by
  by_contra hne
  obtain ⟨x, hx⟩ := exists_free h hfinite (Set.nonempty_iff_ne_empty.mpr hne)
  exact hstuck x hx

theorem Release.ncard (hfinite : live.Finite) (hr : Release owns live live') :
    live'.ncard + 1 = live.ncard := by
  obtain ⟨x, hx, rfl⟩ := hr
  exact Set.ncard_sdiff_singleton_add_one hx.1 hfinite

/-- Some sequence of releases leaves nothing. -/
theorem drains (h : Acyclic owns) (hfinite : live.Finite) :
    ReflTransGen (Release owns) live ∅ := by
  induction hn : live.ncard generalizing live with
  | zero =>
      rw [(Set.ncard_eq_zero hfinite).mp hn]
  | succ n ih =>
      have hne : live.Nonempty := by
        rw [Set.nonempty_iff_ne_empty]
        rintro rfl
        simp at hn
      obtain ⟨x, hx⟩ := exists_free h hfinite hne
      have hrelease : Release owns live (live \ {x}) := ⟨x, hx, rfl⟩
      have hcard := hrelease.ncard hfinite
      exact (ih hfinite.sdiff (by omega)).head hrelease

end Releases
