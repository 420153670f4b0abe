import Tensora.Runtime.RegistryHistory

/-! Entries of a registry that are added one by one and taken away again. -/
namespace Tensora.HandleRegistry
open ProgramLogic

def refuses (r : HandleRegistry) : Option Failure :=
  if r.nextHandle = 0 ∨ r.nextHandle = maxU64 then
    some (internalError "handle registry: handle identifier space exhausted")
  else if (r.find r.nextHandle).isSome then
    some (internalError "handle registry: duplicate handle identifier")
  else none

def withEntry (r : HandleRegistry) (type : HandleType) (object : Nat) : HandleRegistry where
  entries := (r.nextHandle, ⟨type, 1, object⟩) :: r.entries
  nextHandle := add64 r.nextHandle 1

theorem wp_insert_withEntry (r : HandleRegistry) (type : HandleType) (object : Nat)
    (allocated : Bool) :
    wp (insert type (some object) allocated)
      (fun handle r' => r.refuses = none ∧ handle = r.nextHandle ∧ r' = r.withEntry type object)
      (fun e r' => r'.entries = r.entries ∧ (allocated = false ∨ r.refuses = some e)) r := by
  unfold insert refuses
  simp only [wp_bind, wp_get, validateNextHandle, wp_failIf, wp_modify, validateInsertion]
  refine ⟨fun hnext => ⟨trivial, Or.inr (if_pos hnext)⟩, fun hnext =>
    ⟨fun hlost => ⟨trivial, ?_⟩, fun _ => ?_⟩⟩
  · exact Or.inl (by simpa using hlost)
  · rw [if_neg hnext]
    cases hfind : r.find r.nextHandle with
    | none =>
        have hfind' : HandleRegistry.find { r with nextHandle := add64 r.nextHandle 1 }
            r.nextHandle = none := hfind
        simp only [hfind', Option.isNone_none, if_true, wp_bind, wp_modify, wp_failIf, wp_pure]
        refine ⟨fun hbad => absurd hbad (by simp), fun _ => ⟨?_, trivial, rfl⟩⟩
        simp
    | some entry =>
        have hfind' : HandleRegistry.find { r with nextHandle := add64 r.nextHandle 1 }
            r.nextHandle = some entry := hfind
        simp only [hfind', Option.isNone_some, Bool.false_eq_true, if_false, wp_bind, wp_failIf]
        exact ⟨fun _ => ⟨trivial, Or.inr (by simp)⟩, fun hgood => absurd (by simp) hgood⟩

theorem find_withEntry (r : HandleRegistry) (type : HandleType) (object : Nat) :
    (r.withEntry type object).find r.nextHandle = some ⟨type, 1, object⟩ :=
  List.lookup_cons_self

theorem find_withEntry_of_ne (r : HandleRegistry) (type : HandleType) (object : Nat) {handle : Nat}
    (hne : handle ≠ r.nextHandle) : (r.withEntry type object).find handle = r.find handle := by
  simp only [find, withEntry, List.lookup_cons, beq_eq_false_iff_ne.mpr hne]

theorem insert_ok {r r' : HandleRegistry} {type : HandleType} {object : Option Nat}
    {allocated : Bool} {handle : Nat} (h : insert type object allocated r = .ok handle r') :
    ∃ o, object = some o ∧ r.refuses = none ∧ handle = r.nextHandle ∧ r' = r.withEntry type o := by
  cases object with
  | none => cases h
  | some o =>
      have hinserted := wp_of_ok (wp_insert_withEntry r type o allocated) h
      exact ⟨o, rfl, hinserted⟩

theorem insert_error {r r' : HandleRegistry} {type : HandleType} {object : Option Nat}
    {allocated : Bool} {e : Failure} (h : insert type object allocated r = .error e r') :
    r'.entries = r.entries := by
  cases object with
  | none =>
      cases h
      rfl
  | some o => exact (wp_of_error (wp_insert_withEntry r type o allocated) h).1

theorem refuses_eq_none {r : HandleRegistry} (h : r.refuses = none) :
    r.nextHandle ≠ 0 ∧ r.find r.nextHandle = none := by
  unfold refuses at h
  split at h
  · cases h
  · rename_i hnext
    split at h
    · cases h
    · rename_i hfind
      exact ⟨fun hzero => hnext (Or.inl hzero), by simpa using hfind⟩

theorem find_eq_none {r : HandleRegistry} {handle : Nat} :
    r.find handle = none ↔ handle ∉ r.entries.map Prod.fst := by
  unfold find
  induction r.entries with
  | nil => simp
  | cons p entries ih =>
      obtain ⟨key, entry⟩ := p
      by_cases h : handle = key
      · subst h
        simp
      · have hne : (handle == key) = false := by simpa using h
        rw [List.lookup_cons, hne, List.map_cons, List.mem_cons, not_or]
        simp only [h, not_false_eq_true, true_and]
        exact ih

structure Fresh (r : HandleRegistry) (added : List (Nat × Entry)) : Prop where
  nonzero : ∀ p ∈ added, p.1 ≠ 0
  distinct : (added.map Prod.fst).Nodup
  new : ∀ p ∈ added, r.find p.1 = none

def adding (r : HandleRegistry) (added : List (Nat × Entry)) : List (Nat × Entry) :=
  added.reverse ++ r.entries

section Added
variable {r r' : HandleRegistry} {added : List (Nat × Entry)}

theorem find_adding (h : Fresh r added) (hentries : r'.entries = r.adding added) {handle : Nat}
    {entry : Entry} (hmem : (handle, entry) ∈ added) : r'.find handle = some entry := by
  have hkeys : (added.reverse.map Prod.fst).Nodup := by
    rw [List.map_reverse]
    exact List.nodup_reverse.mpr h.distinct
  have hfind : find ⟨added.reverse, 0⟩ handle = some entry :=
    (mem_entries hkeys).mp (List.mem_reverse.mpr hmem)
  unfold find at hfind ⊢
  rw [hentries, adding, List.lookup_append, hfind]
  rfl

theorem Fresh.insert (h : Fresh r added) (hentries : r'.entries = r.adding added)
    (hnone : r'.refuses = none) (entry : Entry) :
    Fresh r (added ++ [(r'.nextHandle, entry)]) := by
  obtain ⟨hzero, hfind⟩ := refuses_eq_none hnone
  rw [find_eq_none, hentries, adding, List.map_append, List.mem_append, not_or] at hfind
  have hadded : r'.nextHandle ∉ added.map Prod.fst := by
    intro hmem
    apply hfind.1
    simpa using hmem
  constructor
  · intro p hp
    rcases List.mem_append.mp hp with hp | hp
    · exact h.nonzero p hp
    · rw [List.mem_singleton.mp hp]
      exact hzero
  · rw [List.map_append, List.map_singleton]
    apply h.distinct.append (List.nodup_singleton _)
    intro key hkey hlast
    rw [List.mem_singleton.mp hlast] at hkey
    exact hadded hkey
  · intro p hp
    rcases List.mem_append.mp hp with hp | hp
    · exact h.new p hp
    · rw [List.mem_singleton.mp hp, find_eq_none]
      exact hfind.2

theorem adding_concat (r : HandleRegistry) (added : List (Nat × Entry)) (p : Nat × Entry) :
    r.adding (added ++ [p]) = p :: r.adding added := by
  simp [adding]

theorem wp_release_added {type : HandleType} {handle object : Nat} {rest : List (Nat × Entry)}
    (h : Fresh r ((handle, ⟨type, 1, object⟩) :: rest))
    (hentries : r'.entries = r.adding ((handle, ⟨type, 1, object⟩) :: rest)) :
    wp (release handle type) (fun _ r'' => Fresh r rest ∧ r''.entries = r.adding rest)
      (fun _ _ => False) r' := by
  have hfind := find_adding h hentries (List.mem_cons_self ..)
  have hfresh : Fresh r rest := ⟨fun p hp => h.nonzero p (List.mem_cons_of_mem _ hp),
    (List.nodup_cons.mp h.distinct).2, fun p hp => h.new p (List.mem_cons_of_mem _ hp)⟩
  have hothers : ∀ p ∈ r.adding rest, p.1 ≠ handle := by
    intro p hp heq
    rcases List.mem_append.mp hp with hp | hp
    · apply (List.nodup_cons.mp h.distinct).1
      exact List.mem_map.mpr ⟨p, List.mem_reverse.mp hp, heq⟩
    · apply find_eq_none.mp (h.new _ (List.mem_cons_self ..))
      exact List.mem_map.mpr ⟨p, hp, heq⟩
  have herase : (r'.erase handle).entries = r.adding rest := by
    have hsplit : r'.entries = rest.reverse ++ (handle, ⟨type, 1, object⟩) :: r.entries := by
      rw [hentries, adding, List.reverse_cons, List.append_assoc, List.singleton_append]
    rw [erase, hsplit, List.filter_append, List.filter_cons_of_neg (by simp),
      ← List.filter_append]
    apply List.filter_eq_self.mpr
    exact fun p hp => by simpa using hothers p hp
  unfold release
  simp only [wp_bind, wp_failIf, wp_get, hfind, decrementReferenceCount, wp_pure, wp_modify]
  refine ⟨fun hzero => absurd hzero (h.nonzero _ (List.mem_cons_self ..)), fun _ => ?_⟩
  refine ⟨fun htype => absurd rfl htype, fun _ =>
    ⟨fun hrefs => absurd hrefs (by simp), fun _ => ?_⟩⟩
  apply wp_ite
  · intro _
    refine ⟨hfresh, ?_⟩
    change ((r'.set handle _).erase handle).entries = _
    rw [erase_set, herase]
  · exact fun hpos => absurd trivial hpos

end Added

end Tensora.HandleRegistry
