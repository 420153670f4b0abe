import Tensora.Runtime.Insertion

/-! Who holds which handles: a list of handles of one type that is all the registry has of it,
each of them held once. -/
namespace Tensora.HandleRegistry
open ProgramLogic

structure Issued (type : HandleType) (handle : Nat) (r r' : HandleRegistry) : Prop where
  nonzero : handle ≠ 0
  new : r.find handle = none
  entries : ∃ object, r'.entries = (handle, ⟨type, 1, object⟩) :: r.entries

theorem find_congr {r r' : HandleRegistry} (h : r'.entries = r.entries) : r'.find = r.find := by
  funext handle
  unfold find
  rw [h]

theorem Issued.of_entries {type : HandleType} {handle : Nat} {r r₁ r' : HandleRegistry}
    (h : Issued type handle r₁ r') (hentries : r₁.entries = r.entries) :
    Issued type handle r r' where
  nonzero := h.nonzero
  new := by rw [← find_congr hentries, h.new]
  entries := by rw [← hentries]; exact h.entries

/-- `handles` are the handles of this type, and each is held once. -/
structure Holds (r : HandleRegistry) (type : HandleType) (handles : List Nat) : Prop where
  distinct : handles.Nodup
  nonzero : ∀ handle ∈ handles, handle ≠ 0
  once : ∀ handle ∈ handles, ∃ object, r.find handle = some ⟨type, 1, object⟩
  all : ∀ handle entry, r.find handle = some entry → entry.type = type → handle ∈ handles

variable {r r' : HandleRegistry} {type : HandleType} {handles handles' : List Nat} {handle : Nat}

theorem holds_initial (type : HandleType) : Holds initial type [] where
  distinct := List.nodup_nil
  nonzero := by simp
  once := by simp
  all := by
    intro handle entry hfind
    cases hfind

namespace Holds

theorem perm (h : Holds r type handles) (hperm : handles.Perm handles') :
    Holds r type handles' where
  distinct := hperm.nodup_iff.mp h.distinct
  nonzero := fun handle hmem => h.nonzero handle (hperm.mem_iff.mpr hmem)
  once := fun handle hmem => h.once handle (hperm.mem_iff.mpr hmem)
  all := fun handle entry hfind htype => hperm.mem_iff.mp (h.all handle entry hfind htype)

theorem of_entries (h : Holds r type handles) (hentries : r'.entries = r.entries) :
    Holds r' type handles where
  distinct := h.distinct
  nonzero := h.nonzero
  once := by
    rw [find_congr hentries]
    exact h.once
  all := by
    rw [find_congr hentries]
    exact h.all

end Holds

theorem Issued.find {type : HandleType} (h : Issued type handle r r') (handle' : Nat) :
    (handle' = handle → ∃ object, r'.find handle' = some ⟨type, 1, object⟩) ∧
    (handle' ≠ handle → r'.find handle' = r.find handle') := by
  obtain ⟨object, hentries⟩ := h.entries
  unfold HandleRegistry.find
  rw [hentries, List.lookup_cons]
  constructor
  · intro heq
    rw [heq, beq_self_eq_true]
    exact ⟨object, rfl⟩
  · intro hne
    rw [beq_eq_false_iff_ne.mpr hne]

theorem Issued.ne_of_find {type : HandleType} {handle' : Nat} {entry : Entry}
    (h : Issued type handle r r') (hfind : r.find handle' = some entry) : handle' ≠ handle := by
  intro heq
  rw [heq, h.new] at hfind
  cases hfind

theorem Holds.issued (h : Holds r type handles) (hissued : Issued type handle r r') :
    Holds r' type (handle :: handles) where
  distinct := by
    refine List.nodup_cons.mpr ⟨fun hmem => ?_, h.distinct⟩
    obtain ⟨object, hfind⟩ := h.once handle hmem
    exact hissued.ne_of_find hfind rfl
  nonzero := List.forall_mem_cons.mpr ⟨hissued.nonzero, h.nonzero⟩
  once := by
    refine List.forall_mem_cons.mpr ⟨(hissued.find handle).1 rfl, fun handle' hmem => ?_⟩
    obtain ⟨object, hfind⟩ := h.once handle' hmem
    exact ⟨object, ((hissued.find handle').2 (hissued.ne_of_find hfind)).trans hfind⟩
  all := by
    intro handle' entry hfind htype
    by_cases heq : handle' = handle
    · exact heq ▸ List.mem_cons_self
    · rw [(hissued.find handle').2 heq] at hfind
      exact List.mem_cons_of_mem _ (h.all handle' entry hfind htype)

theorem Holds.issued_other {type' : HandleType} (h : Holds r type handles)
    (hissued : Issued type' handle r r') (hne : type' ≠ type) : Holds r' type handles where
  distinct := h.distinct
  nonzero := h.nonzero
  once := by
    intro handle' hmem
    obtain ⟨object, hfind⟩ := h.once handle' hmem
    exact ⟨object, ((hissued.find handle').2 (hissued.ne_of_find hfind)).trans hfind⟩
  all := by
    intro handle' entry hfind htype
    by_cases heq : handle' = handle
    · obtain ⟨object, hnew⟩ := (hissued.find handle').1 heq
      rw [hnew] at hfind
      cases hfind
      exact absurd htype hne
    · rw [(hissued.find handle').2 heq] at hfind
      exact h.all handle' entry hfind htype

theorem Holds.release (h : Holds r type (handle :: handles)) :
    wp (HandleRegistry.release handle type)
      (fun _ r' => r' = r.erase handle ∧ Holds r' type handles) (fun _ _ => False) r := by
  obtain ⟨object, hfind⟩ := h.once handle List.mem_cons_self
  have hnonzero := h.nonzero handle List.mem_cons_self
  have hnotin := (List.nodup_cons.mp h.distinct).1
  refine wp_mono (wp_release_last hnonzero hfind) ?_ fun _ _ he => he
  rintro _ _ rfl
  refine ⟨rfl, (List.nodup_cons.mp h.distinct).2, fun k hmem =>
    h.nonzero k (List.mem_cons_of_mem _ hmem), fun k hmem => ?_, fun k entry hk htype => ?_⟩
  · have hne : k ≠ handle := by
      intro heq
      exact hnotin (heq ▸ hmem)
    obtain ⟨object', hfind'⟩ := h.once k (List.mem_cons_of_mem _ hmem)
    exact ⟨object', by rw [find_erase, if_neg hne, hfind']⟩
  · rw [find_erase] at hk
    split at hk
    · cases hk
    · rename_i hne
      exact (List.mem_cons.mp (h.all k entry hk htype)).resolve_left hne

theorem Holds.erase_other {type' : HandleType} {object : Nat} (h : Holds r type handles)
    (hfind : r.find handle = some ⟨type', 1, object⟩) (hne : type' ≠ type) :
    Holds (r.erase handle) type handles where
  distinct := h.distinct
  nonzero := h.nonzero
  once := by
    intro k hmem
    obtain ⟨object', hfind'⟩ := h.once k hmem
    refine ⟨object', ?_⟩
    rw [find_erase, if_neg ?_, hfind']
    intro heq
    rw [heq, hfind] at hfind'
    cases hfind'
    exact hne rfl
  all := by
    intro k entry hk htype
    rw [find_erase] at hk
    split at hk
    · cases hk
    · exact h.all k entry hk htype

theorem Holds.count_eq (h : Holds r type handles) (hkeys : (r.entries.map Prod.fst).Nodup) :
    r.count type = handles.length := by
  have hperm : ((r.entries.filter fun p => p.2.type = type).map Prod.fst).Perm handles := by
    refine (List.perm_ext_iff_of_nodup (hkeys.sublist (List.filter_sublist.map _)) h.distinct).mpr
      fun handle => ?_
    simp only [List.mem_map, List.mem_filter, decide_eq_true_eq]
    constructor
    · intro hmem
      obtain ⟨⟨k, entry⟩, ⟨hentry, htype⟩, rfl⟩ := hmem
      exact h.all k entry ((mem_entries hkeys).mp hentry) htype
    · intro hmem
      obtain ⟨object, hfind⟩ := h.once handle hmem
      exact ⟨(handle, _), ⟨(mem_entries hkeys).mpr hfind, rfl⟩, rfl⟩
  rw [count, ← hperm.length_eq, List.length_map]

theorem Issued.keys {type : HandleType} (h : Issued type handle r r')
    (hkeys : (r.entries.map Prod.fst).Nodup) : (r'.entries.map Prod.fst).Nodup := by
  obtain ⟨object, hentries⟩ := h.entries
  rw [hentries, List.map_cons]
  exact List.nodup_cons.mpr ⟨find_eq_none.mp h.new, hkeys⟩

end Tensora.HandleRegistry
