import Tensora.Lib.Coupling
import Tensora.Runtime.SideBySide
import Tensora.Tensor.Unordered

/-! Two states side by side of which one has issued more handles than the other: the first
handles are the same, and every later one is a fixed number further on. -/
namespace Tensora
open ProgramLogic

variable {F D α : Type}

/-- The handle in the second state of what is `handle` in the first, when the second has issued
`k` more after `n`. -/
def shift (n k handle : Nat) : Nat := if handle ≤ n then handle else handle + k

section Shift
variable {n k handle handle' : Nat}

theorem shift_of_lt (h : n < handle) : shift n k handle = handle + k := if_neg (Nat.not_le.mpr h)

@[simp] theorem shift_eq_zero : shift n k handle = 0 ↔ handle = 0 := by
  unfold shift
  split
  · exact Iff.rfl
  · omega

theorem shift_inj : shift n k handle = shift n k handle' ↔ handle = handle' := by
  unfold shift
  split <;> split <;> omega

end Shift

theorem lockstep_failIf_iff {σ τ : Type} {R : σ → τ → Prop} {condition condition' : Prop}
    [Decidable condition] [Decidable condition'] {e : Failure} (h : condition ↔ condition') :
    Lockstep R (failIf condition e : EStateM Failure σ Unit)
      (failIf condition' e : EStateM Failure τ Unit) := by
  unfold failIf
  by_cases hc : condition
  · rw [if_pos hc, if_pos (h.mp hc)]
    exact .throw e
  · rw [if_neg hc, if_neg (mt h.mpr hc)]
    exact .pure ()

namespace HandleRegistry

/-- Every handle stands for the same in both, but for those of optimizers. -/
structure Shifted (n k : Nat) (r r' : HandleRegistry) : Prop where
  find : ∀ handle, Option.Rel Entry.Like (r.find handle) (r'.find (shift n k handle))
  next : r'.nextHandle = r.nextHandle + k
  past : n < r.nextHandle

/-- So that the second can issue `room` more handles. -/
structure Ahead (n k room : Nat) (r r' : HandleRegistry) : Prop where
  shifted : r.Shifted n k r'
  room : r'.nextHandle + room < maxU64

variable {n k room handle : Nat} {type : HandleType} {r r' : HandleRegistry}

theorem Shifted.cases (h : r.Shifted n k r') (handle : Nat) :
    r.find handle = none ∧ r'.find (shift n k handle) = none ∨
      ∃ e e', r.find handle = some e ∧ r'.find (shift n k handle) = some e' ∧ e.Like e' := by
  have hrel := h.find handle
  generalize hleft : r.find handle = left at hrel
  generalize hright : r'.find (shift n k handle) = right at hrel
  cases hrel with
  | none => exact Or.inl ⟨rfl, rfl⟩
  | some hlike => exact Or.inr ⟨_, _, rfl, rfl, hlike⟩

theorem Shifted.next_eq (h : r.Shifted n k r') : r'.nextHandle = shift n k r.nextHandle := by
  rw [h.next, shift_of_lt h.past]

theorem Shifted.set (h : r.Shifted n k r') {e e' : Entry} (hfind : (r.find handle).isSome)
    (hfind' : (r'.find (shift n k handle)).isSome) (he : e.Like e') :
    (r.set handle e).Shifted n k (r'.set (shift n k handle) e') where
  find := by
    intro other
    rw [find_set _ _ _ _ hfind, find_set _ _ _ _ hfind']
    simp only [shift_inj]
    split
    · exact .some he
    · exact h.find other
  next := h.next
  past := h.past

theorem Shifted.erase (h : r.Shifted n k r') :
    (r.erase handle).Shifted n k (r'.erase (shift n k handle)) where
  find := by
    intro other
    rw [find_erase, find_erase]
    simp only [shift_inj]
    split
    · exact .none
    · exact h.find other
  next := h.next
  past := h.past

theorem Ahead.less (h : r.Ahead n k (room + 1) r') : r.Ahead n k room r' :=
  ⟨h.shifted, by have := h.room; omega⟩

theorem lockstep_lookup_shift (htype : type.isOptimizer = false) :
    Lockstep (Ahead n k room) (lookup handle type) (lookup (shift n k handle) type) := by
  refine Lockstep.bind (lockstep_failIf_iff shift_eq_zero.symm) fun _ =>
    Lockstep.get_bind fun r r' h => ?_
  rcases h.shifted.cases handle with ⟨hfind, hfind'⟩ | ⟨e, e', hfind, hfind', he⟩
  · rw [hfind, hfind']
    exact ⟨rfl, h⟩
  · rw [hfind, hfind']
    rcases he.of_type htype with rfl | ⟨hne, hne'⟩
    · exact (Lockstep.bind (lockstep_failIf _ _) fun _ => .pure _) r r' h
    · simp only [failIf, hne, hne', ne_eq, not_false_eq_true, if_true]
      exact ⟨rfl, h⟩

theorem coupled_release_shift (htype : type.isOptimizer = false) :
    Coupled (Ahead n k room) (· = ·) (Ahead n k room) (release handle type)
      (release (shift n k handle) type) := by
  refine Coupled.seq (.of_lockstep (lockstep_failIf_iff shift_eq_zero.symm)) (fun _ _ h => h)
    fun _ _ _ => Coupled.get_bind fun r r' h => ?_
  rcases h.shifted.cases handle with ⟨hfind, hfind'⟩ | ⟨e, e', hfind, hfind', he⟩
  · rw [hfind, hfind']
    exact ⟨rfl, h⟩
  · rw [hfind, hfind']
    rcases he.of_type htype with rfl | ⟨hne, hne'⟩
    · -- the two registries are those of before until the count is written
      let P : HandleRegistry → HandleRegistry → Prop := fun q q' => q = r ∧ q' = r'
      have hP : ∀ q q', P q q' → Ahead n k room q q' := by
        rintro _ _ ⟨rfl, rfl⟩
        exact h
      refine (Coupled.seq (P := P) (.of_lockstep (lockstep_failIf _ _)) hP fun _ _ _ => ?_) r r'
        ⟨rfl, rfl⟩
      refine Coupled.seq (.of_lockstep ((lockstep_failIf _ _).bind fun _ => .pure _)) hP ?_
      rintro refs _ rfl
      refine Coupled.bind (Q := Ahead n k room) (Coupled.modify ?_) (fun _ _ h => h) fun _ _ _ => ?_
      · rintro _ _ ⟨rfl, rfl⟩
        exact ⟨h.shifted.set (by rw [hfind]; rfl) (by rw [hfind']; rfl) (Or.inl rfl), h.room⟩
      · exact .ite (fun _ => Coupled.modify fun _ _ h => ⟨h.shifted.erase, h.room⟩)
          fun _ => .pure rfl
    · simp only [failIf, hne, hne', ne_eq, not_false_eq_true, if_true]
      exact ⟨rfl, h⟩

theorem coupled_insert_shift (object : Nat) :
    Coupled (Ahead n k (room + 1)) (fun handle handle' => handle' = shift n k handle)
      (Ahead n k room) (insert type (some object) true) (insert type (some object) true) := by
  refine Coupled.get_bind fun r r' h => ?_
  have hroom := h.room
  have hnext := h.shifted.next
  have hpast := h.shifted.past
  have hadd : ∀ next, next < maxU64 → add64 next 1 = next + 1 := fun next hlt =>
    Nat.mod_eq_of_lt (by unfold maxU64 at hlt; omega)
  let P : HandleRegistry → HandleRegistry → Prop := fun q q' => q = r ∧ q' = r'
  let Q : HandleRegistry → HandleRegistry → Prop := fun q q' =>
    Ahead n k room q q' ∧ q.find = r.find ∧ q'.find = r'.find
  have hQ : ∀ q q', Q q q' → Ahead n k room q q' := fun _ _ h => h.1
  have hvalid : Lockstep P (validateNextHandle r.nextHandle) (validateNextHandle r'.nextHandle) :=
    lockstep_failIf_iff ⟨fun hbad => absurd hbad (by omega), fun hbad => absurd hbad (by omega)⟩
  refine (Coupled.seq (P := P) (.of_lockstep hvalid) ?_ fun _ _ _ => ?_) r r' ⟨rfl, rfl⟩
  · rintro _ _ ⟨rfl, rfl⟩
    exact h.less
  refine Coupled.bind (Q := Q) (Coupled.modify ?_) hQ fun _ _ _ => ?_
  · rintro r r' ⟨rfl, rfl⟩
    refine ⟨⟨⟨h.shifted.find, ?_, ?_⟩, ?_⟩, rfl, rfl⟩
    · simp only [hadd _ (by omega : r.nextHandle < maxU64),
        hadd _ (by omega : r'.nextHandle < maxU64)]
      omega
    · simp only [hadd _ (by omega : r.nextHandle < maxU64)]
      omega
    · simp only [hadd _ (by omega : r'.nextHandle < maxU64)]
      omega
  refine Coupled.seq (.of_lockstep (lockstep_failIf _ _)) hQ fun _ _ _ => ?_
  refine Coupled.get_bind fun q q' hq => ?_
  have hnew : (q.find r.nextHandle).isNone = (q'.find r'.nextHandle).isNone := by
    rw [hq.2.1, hq.2.2, h.shifted.next_eq]
    rcases h.shifted.cases r.nextHandle with ⟨hfind, hfind'⟩ | ⟨e, e', hfind, hfind', -⟩
    · rw [hfind, hfind']
    · rw [hfind, hfind']
      rfl
  rw [hnew]
  have hlast : Coupled (Ahead n k room) (fun handle handle' => handle' = shift n k handle)
      (Ahead n k room)
      (do validateInsertion (q'.find r'.nextHandle).isNone
          return r.nextHandle : RegistryM Nat)
      (do validateInsertion (q'.find r'.nextHandle).isNone
          return r'.nextHandle) :=
    Coupled.seq (.of_lockstep (lockstep_failIf _ _)) (fun _ _ h => h)
      fun _ _ _ => .pure h.shifted.next_eq
  split
  · refine (Coupled.bind (Q := Ahead n k room) (Coupled.modify ?_) (fun _ _ h => h)
      fun _ _ _ => hlast) q q' hq.1
    intro p p' hp
    refine ⟨⟨fun handle => ?_, hp.shifted.next, hp.shifted.past⟩, hp.room⟩
    by_cases hhandle : handle = r.nextHandle
    · rw [hhandle, ← h.shifted.next_eq]
      simp only [find, List.lookup_cons_self]
      exact .some (Or.inl rfl)
    · have hne : (handle == r.nextHandle) = false := by simpa using hhandle
      have hne' : (shift n k handle == r'.nextHandle) = false := by
        rw [h.shifted.next_eq]
        simpa [shift_inj] using hhandle
      simp only [find, List.lookup_cons, hne, hne']
      exact hp.shifted.find handle
  · exact hlast q q' hq.1

end HandleRegistry

/-- Two states that go on alike while no allocation fails, the second with room for `room` more
handles. -/
structure Abreast (n k room : Nat) (s t : Runtime F D) : Prop where
  heap : t.heap.erased = s.heap.erased
  lasts : s.memory.allocator.Lasts ∧ t.memory.allocator.Lasts
  registry : s.registry.Ahead n k room t.registry

section Programs
variable {n k room handle : Nat}

theorem Abreast.less {s t : Runtime F D} (h : Abreast n k (room + 1) s t) :
    Abreast n k room s t := ⟨h.heap, h.lasts, h.registry.less⟩

theorem coupled_onMemory {program : Mem F α} (hp : Formed program) :
    Coupled (Abreast n k room) (· = ·) (Abreast n k room) (onMemory program : Native F D α)
      (onMemory program) := by
  intro s t h
  have hrun := hp.lockstep_same s.memory t.memory ⟨h.heap, h.lasts⟩
  unfold onMemory
  cases hs : program s.memory <;> cases ht : program t.memory <;> rw [hs, ht] at hrun
  · exact ⟨hrun.1, hrun.2.heap, hrun.2.lasts, h.registry⟩
  · exact hrun.elim
  · exact hrun.elim
  · exact ⟨hrun.1, hrun.2.heap, hrun.2.lasts, h.registry⟩

theorem coupled_onRegistry {β : Type} {room' : Nat} {V : α → β → Prop} {program : RegistryM α}
    {program' : RegistryM β}
    (hp : Coupled (HandleRegistry.Ahead n k room) V (HandleRegistry.Ahead n k room') program
      program') :
    Coupled (Abreast n k room) V (Abreast n k room') (onRegistry program : Native F D α)
      (onRegistry program') := by
  intro s t h
  have hrun := hp s.registry t.registry h.registry
  unfold onRegistry
  cases hs : program s.registry <;> cases ht : program' t.registry <;> rw [hs, ht] at hrun
  · exact ⟨hrun.1, h.heap, h.lasts, hrun.2⟩
  · exact hrun.elim
  · exact hrun.elim
  · exact ⟨hrun.1, h.heap, h.lasts, hrun.2⟩

theorem coupled_lookupTensor :
    Coupled (Abreast n k room) (· = ·) (Abreast n k room) (lookupTensor handle : Native F D _)
      (lookupTensor (shift n k handle)) :=
  coupled_onRegistry (.of_lockstep (HandleRegistry.lockstep_lookup_shift rfl))

theorem coupled_insertTensor (tensor : TensorId) :
    Coupled (Abreast n k (room + 1)) (fun handle handle' => handle' = shift n k handle)
      (Abreast n k room) (insertTensor tensor : Native F D Nat) (insertTensor tensor) := by
  refine Coupled.get_bind fun s t h => ?_
  rw [h.lasts.1 _ (Nat.le_refl _), h.lasts.2 _ (Nat.le_refl _)]
  refine Paired.bind (V := (· = ·)) (Q := Abreast n k (room + 1)) ⟨rfl, ?_⟩ (fun _ _ h => h.less)
    fun _ _ _ => coupled_onRegistry (HandleRegistry.coupled_insert_shift tensor)
  exact ⟨h.heap, ⟨h.lasts.1.next, h.lasts.2.next⟩, h.registry⟩

end Programs

end Tensora
