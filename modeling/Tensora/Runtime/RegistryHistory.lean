import Mathlib.Data.List.Nodup
import Tensora.Runtime.HandleRegistry

/-! What a registry says about the operations that led to it. A history is the
list of requests with their outcomes; the table is a function of it. -/
namespace Tensora.HandleRegistry
open ProgramLogic

inductive Request where
  | insert (type : HandleType) (object : Option Nat) (allocated : Bool)
  | retain (handle : Nat) (type : HandleType)
  | release (handle : Nat) (type : HandleType)
  | lookup (handle : Nat) (type : HandleType)
  | count (type : HandleType)

/-- The number a request returns: a handle, an object or a count. -/
def perform : Request → RegistryM Nat
  | .insert type object allocated => insert type object allocated
  | .retain handle type => do
      retain handle type
      return 0
  | .release handle type => do
      release handle type
      return 0
  | .lookup handle type => lookup handle type
  | .count type => do return (← get).count type

inductive Event where
  | inserted (handle : Nat) (type : HandleType) (object : Nat)
  | retained (handle : Nat)
  | released (handle : Nat)
  deriving DecidableEq

def eventOf (request : Request) (result : Nat) : List Event :=
  match request with
  | .insert type (some object) _ => [.inserted result type object]
  | .insert _ none _ => []
  | .retain handle _ => [.retained handle]
  | .release handle _ => [.released handle]
  | .lookup _ _ => []
  | .count _ => []

/-- A registry with the successful operations that led to it, oldest first. -/
structure Recorded where
  registry : HandleRegistry
  history : List Event

def record (r : Recorded) (request : Request) : Recorded :=
  match perform request r.registry with
  | .ok result registry => ⟨registry, r.history ++ eventOf request result⟩
  | .error _ registry => ⟨registry, r.history⟩

def recordAll (requests : List Request) : Recorded := requests.foldl record ⟨initial, []⟩

def issued (history : List Event) : List (Nat × HandleType × Nat) :=
  history.filterMap fun
    | .inserted handle type object => some (handle, type, object)
    | _ => none

/-- One for the insertion, plus the retains, minus the releases. -/
def references (history : List Event) (handle : Nat) : Int :=
  1 + (history.count (.retained handle) : Int) - (history.count (.released handle) : Int)

@[simp] theorem issued_append (history rest : List Event) :
    issued (history ++ rest) = issued history ++ issued rest := List.filterMap_append

@[simp] theorem issued_inserted (handle object : Nat) (type : HandleType) :
    issued [.inserted handle type object] = [(handle, type, object)] := rfl

@[simp] theorem issued_retained (handle : Nat) : issued [.retained handle] = [] := rfl

@[simp] theorem issued_released (handle : Nat) : issued [.released handle] = [] := rfl

@[simp] theorem references_inserted (history : List Event) (handle handle' object : Nat)
    (type : HandleType) :
    references (history ++ [.inserted handle' type object]) handle = references history handle := by
  simp [references]

theorem references_retained (history : List Event) (handle handle' : Nat) :
    references (history ++ [.retained handle']) handle =
      references history handle + if handle' = handle then 1 else 0 := by
  by_cases h : handle' = handle
  · subst h
    simp [references]
    omega
  · simp [references, h]

theorem references_released (history : List Event) (handle handle' : Nat) :
    references (history ++ [.released handle']) handle =
      references history handle - if handle' = handle then 1 else 0 := by
  by_cases h : handle' = handle
  · subst h
    simp [references]
    omega
  · simp [references, h]

theorem find_set (registry : HandleRegistry) (handle k : Nat) (entry : Entry)
    (h : (registry.find handle).isSome) :
    (registry.set handle entry).find k = if k = handle then some entry else registry.find k := by
  obtain ⟨entries, next⟩ := registry
  simp only [find, set] at h ⊢
  induction entries with
  | nil => simp at h
  | cons p entries ih =>
      obtain ⟨key, old⟩ := p
      by_cases hkey : key = handle
      · subst hkey
        by_cases hk : k = key
        · simp [hk]
        · have hb : (k == key) = false := by simpa using hk
          simp only [List.map_cons, if_true, List.lookup_cons, hb, if_neg hk]
          clear ih h
          induction entries with
          | nil => rfl
          | cons q entries ih =>
              obtain ⟨key', old'⟩ := q
              by_cases hq : key' = key
              · subst hq
                simpa [List.lookup_cons, hb] using ih
              · simp only [List.map_cons, if_neg hq, List.lookup_cons, ih]
      · have hb : (handle == key) = false := by simpa using Ne.symm hkey
        rw [List.lookup_cons, hb] at h
        simp only [List.map_cons, if_neg hkey, List.lookup_cons, ih h]
        by_cases hk : k = key
        · subst hk
          simp [hkey]
        · have hb' : (k == key) = false := by simpa using hk
          simp only [hb']

theorem find_erase (registry : HandleRegistry) (handle k : Nat) :
    (registry.erase handle).find k = if k = handle then none else registry.find k := by
  obtain ⟨entries, next⟩ := registry
  simp only [find, erase]
  induction entries with
  | nil => simp
  | cons p entries ih =>
      obtain ⟨key, old⟩ := p
      by_cases hkey : key = handle
      · subst hkey
        simp only [List.filter_cons, ne_eq, not_true_eq_false, decide_false, Bool.false_eq_true,
          if_false, List.lookup_cons]
        rw [show (List.filter (fun p => decide (¬p.1 = key)) entries) =
          List.filter (fun p => decide (p.1 ≠ key)) entries from rfl, ih]
        by_cases hk : k = key
        · simp [hk]
        · have hb : (k == key) = false := by simpa using hk
          simp [hb, hk]
      · simp only [List.filter_cons, ne_eq, hkey, not_false_eq_true, decide_true, if_true,
          List.lookup_cons]
        by_cases hk : k = key
        · subst hk
          simp [hkey]
        · have hb : (k == key) = false := by simpa using hk
          simpa [hb] using ih

theorem keys_set (registry : HandleRegistry) (handle : Nat) (entry : Entry) :
    (registry.set handle entry).entries.map Prod.fst = registry.entries.map Prod.fst := by
  simp only [set, List.map_map]
  refine List.map_congr_left fun p _ => ?_
  by_cases h : p.1 = handle <;> simp [h]

theorem keys_erase (registry : HandleRegistry) (handle : Nat) :
    ((registry.erase handle).entries.map Prod.fst).Sublist (registry.entries.map Prod.fst) :=
  List.filter_sublist.map _

theorem mem_entries {registry : HandleRegistry} (hkeys : (registry.entries.map Prod.fst).Nodup)
    {handle : Nat} {entry : Entry} :
    (handle, entry) ∈ registry.entries ↔ registry.find handle = some entry := by
  obtain ⟨entries, next⟩ := registry
  simp only [find] at hkeys ⊢
  induction entries with
  | nil => simp
  | cons p entries ih =>
      obtain ⟨key, old⟩ := p
      rw [List.map_cons, List.nodup_cons] at hkeys
      rw [List.lookup_cons, List.mem_cons]
      by_cases hk : handle = key
      · subst hk
        have hnot : (handle, entry) ∉ entries := fun hmem =>
          hkeys.1 (List.mem_map.mpr ⟨_, hmem, rfl⟩)
        simp [hnot, eq_comm]
      · have hb : (handle == key) = false := by simpa using hk
        simp [hb, hk, ih hkeys.2]

/-- A handle has an entry exactly while its references are positive. -/
structure Ledger (registry : HandleRegistry) (history : List Event) : Prop where
  next_pos : 0 < registry.nextHandle
  next_le : registry.nextHandle ≤ maxU64
  keys : (registry.entries.map Prod.fst).Nodup
  handles : ((issued history).map Prod.fst).Nodup
  issued_range : ∀ i ∈ issued history, 0 < i.1 ∧ i.1 < registry.nextHandle
  events_range : ∀ handle, registry.nextHandle ≤ handle → references history handle = 1
  entry : ∀ handle entry, registry.find handle = some entry ↔
    (handle, entry.type, entry.object) ∈ issued history ∧
      references history handle = entry.refs ∧ 0 < entry.refs

section Operations
variable {r : HandleRegistry} {history : List Event}

theorem Ledger.find_next (h : Ledger r history) : r.find r.nextHandle = none := by
  cases hfind : r.find r.nextHandle with
  | none => rfl
  | some entry =>
      have hissued := ((h.entry _ _).mp hfind).1
      have := (h.issued_range _ hissued).2
      omega

theorem wp_insert (h : Ledger r history) (type : HandleType) (object : Option Nat)
    (allocated : Bool) :
    wp (insert type object allocated)
      (fun handle r' => handle = r.nextHandle ∧ r.nextHandle < maxU64 ∧ ∃ o, object = some o ∧
        r' = ⟨(r.nextHandle, ⟨type, 1, o⟩) :: r.entries, r.nextHandle + 1⟩)
      (fun _ r' => r' = r ∨ r.nextHandle < maxU64 ∧ r' = { r with nextHandle := r.nextHandle + 1 })
      r := by
  have hpos := h.next_pos
  have hle := h.next_le
  cases object with
  | none => simp [insert]
  | some o =>
      simp only [insert, validateNextHandle, validateInsertion, wp_bind, wp_get, wp_failIf,
        wp_modify]
      refine ⟨fun _ => Or.inl trivial, fun hnext => ?_⟩
      have hlt : r.nextHandle < maxU64 := by omega
      have hadd : add64 r.nextHandle 1 = r.nextHandle + 1 :=
        add64_of_lt (by simp only [maxU64] at hlt; omega)
      have hfresh :
          (find { r with nextHandle := r.nextHandle + 1 } r.nextHandle).isNone = true := by
        simpa [find] using h.find_next
      rw [hadd]
      refine ⟨fun _ => Or.inr ⟨hlt, rfl⟩, fun _ => ?_⟩
      simp [hfresh, hlt]

theorem wp_retain (r : HandleRegistry) (handle : Nat) (type : HandleType) :
    wp (retain handle type)
      (fun _ r' => ∃ entry, r.find handle = some entry ∧ entry.type = type ∧
        r' = r.set handle { entry with refs := entry.refs + 1 })
      (fun _ r' => r' = r) r := by
  simp only [retain, wp_bind, wp_failIf, wp_get]
  refine ⟨fun _ => trivial, fun _ => ?_⟩
  cases hfind : r.find handle with
  | none => exact rfl
  | some entry =>
      simp only [incrementReferenceCount, wp_bind, wp_failIf, wp_pure, wp_modify]
      refine ⟨fun _ => trivial, fun htype => ⟨fun _ => trivial, fun _ => ?_⟩⟩
      exact ⟨entry, rfl, by simpa using htype, rfl⟩

theorem erase_set (r : HandleRegistry) (handle : Nat) (entry : Entry) :
    (r.set handle entry).erase handle = r.erase handle := by
  obtain ⟨entries, next⟩ := r
  simp only [erase, set, mk.injEq, and_true]
  induction entries with
  | nil => rfl
  | cons p entries ih =>
      by_cases hkey : p.1 = handle
      · simpa [hkey] using ih
      · simpa [hkey] using ih

theorem wp_release (r : HandleRegistry) (handle : Nat) (type : HandleType) :
    wp (release handle type)
      (fun _ r' => ∃ entry, r.find handle = some entry ∧ entry.type = type ∧ 0 < entry.refs ∧
        r' = if entry.refs = 1 then r.erase handle
          else r.set handle { entry with refs := entry.refs - 1 })
      (fun _ r' => r' = r) r := by
  simp only [release, wp_bind, wp_failIf, wp_get]
  refine ⟨fun _ => trivial, fun _ => ?_⟩
  cases hfind : r.find handle with
  | none => exact rfl
  | some entry =>
      simp only [decrementReferenceCount, wp_bind, wp_failIf, wp_pure, wp_modify]
      refine ⟨fun _ => trivial, fun htype => ⟨fun _ => trivial, fun hrefs => ?_⟩⟩
      have hty : entry.type = type := by simpa using htype
      refine wp_ite (fun hzero => ?_) fun hpos => ?_
      · refine ⟨entry, rfl, hty, by omega, ?_⟩
        rw [if_pos (by omega)]
        exact erase_set r handle _
      · exact ⟨entry, rfl, hty, by omega, by rw [if_neg (by omega)]⟩

theorem wp_release_last {r : HandleRegistry} {handle : Nat} {type : HandleType} {object : Nat}
    (hnonzero : handle ≠ 0) (hfind : r.find handle = some ⟨type, 1, object⟩) :
    wp (release handle type) (fun _ r' => r' = r.erase handle) (fun _ _ => False) r := by
  unfold release
  simp only [wp_bind, wp_failIf, wp_get, hfind, decrementReferenceCount, wp_pure, wp_modify]
  refine ⟨fun hzero => absurd hzero hnonzero, fun _ => ⟨fun htype => absurd rfl htype, fun _ =>
    ⟨fun hrefs => absurd hrefs Nat.one_ne_zero, fun _ => ?_⟩⟩⟩
  refine wp_ite (fun _ => ?_) fun hpos => absurd trivial hpos
  rw [wp_modify, erase_set]

theorem wp_lookup (r : HandleRegistry) (handle : Nat) (type : HandleType) :
    wp (lookup handle type)
      (fun object r' => r' = r ∧ 0 < handle ∧
        ∃ entry, r.find handle = some entry ∧ entry.type = type ∧ entry.object = object)
      (fun _ r' => r' = r) r := by
  simp only [lookup, wp_bind, wp_failIf, wp_get]
  refine ⟨fun _ => trivial, fun hzero => ?_⟩
  cases hfind : r.find handle with
  | none => exact rfl
  | some entry =>
      simp only [wp_bind, wp_failIf, wp_pure]
      exact ⟨fun _ => trivial, fun htype =>
        ⟨trivial, by omega, entry, rfl, by simpa using htype, rfl⟩⟩

theorem Ledger.bump (h : Ledger r history) (hlt : r.nextHandle < maxU64) :
    Ledger { r with nextHandle := r.nextHandle + 1 } history where
  next_pos := Nat.succ_pos _
  next_le := hlt
  keys := h.keys
  handles := h.handles
  issued_range := fun i hi => ⟨(h.issued_range i hi).1, Nat.lt_succ_of_lt (h.issued_range i hi).2⟩
  events_range := fun handle hle => h.events_range handle (Nat.le_of_succ_le hle)
  entry := h.entry

theorem Ledger.inserted (h : Ledger r history) (hlt : r.nextHandle < maxU64) (type : HandleType)
    (object : Nat) :
    Ledger ⟨(r.nextHandle, ⟨type, 1, object⟩) :: r.entries, r.nextHandle + 1⟩
      (history ++ [.inserted r.nextHandle type object]) where
  next_pos := Nat.succ_pos _
  next_le := hlt
  keys := by
    rw [List.map_cons, List.nodup_cons]
    refine ⟨fun hmem => ?_, h.keys⟩
    obtain ⟨⟨key, entry⟩, hp, rfl⟩ := List.mem_map.mp hmem
    rw [mem_entries h.keys, h.find_next] at hp
    cases hp
  handles := by
    rw [issued_append, issued_inserted, List.map_append, List.map_singleton]
    refine h.handles.append (List.nodup_singleton _) fun k hk hk' => ?_
    obtain ⟨i, hi, rfl⟩ := List.mem_map.mp hk
    have := (h.issued_range i hi).2
    have := List.mem_singleton.mp hk'
    omega
  issued_range := by
    intro i hi
    rw [issued_append, issued_inserted] at hi
    rcases List.mem_append.mp hi with hi | hi
    · have := h.issued_range i hi
      exact ⟨this.1, Nat.lt_succ_of_lt this.2⟩
    · rw [List.mem_singleton.mp hi]
      exact ⟨h.next_pos, Nat.lt_succ_self _⟩
  events_range := by
    intro handle hle
    rw [references_inserted]
    exact h.events_range handle (Nat.le_of_succ_le hle)
  entry := by
    intro handle entry
    rw [issued_append, issued_inserted, references_inserted]
    by_cases hk : handle = r.nextHandle
    · subst hk
      have hnot : ∀ x, (r.nextHandle, x) ∉ issued history := fun x hx =>
        absurd (h.issued_range _ hx).2 (Nat.lt_irrefl _)
      have href := h.events_range _ (Nat.le_refl r.nextHandle)
      obtain ⟨type', refs, object'⟩ := entry
      simp only [find, List.lookup_cons, BEq.rfl, Option.some.injEq, Entry.mk.injEq,
        List.mem_append, hnot, List.mem_singleton, Prod.mk.injEq, true_and, false_or, href]
      constructor
      · rintro ⟨rfl, rfl, rfl⟩
        simp
      · rintro ⟨⟨rfl, rfl⟩, hrefs, -⟩
        exact ⟨rfl, by omega, rfl⟩
    · have hb : (handle == r.nextHandle) = false := by simpa using hk
      have := h.entry handle entry
      simp only [find] at this
      simp [find, List.lookup_cons, hb, hk, this]

theorem Ledger.adjust {history' : List Event} {r' : HandleRegistry} {handle : Nat} {old : Entry}
    (h : Ledger r history) (hold : r.find handle = some old)
    (hnext : r'.nextHandle = r.nextHandle) (hkeys : (r'.entries.map Prod.fst).Nodup)
    (hissued : issued history' = issued history)
    (hother : ∀ k, k ≠ handle → references history' k = references history k)
    (hfind : ∀ k, k ≠ handle → r'.find k = r.find k)
    (hself : ∀ entry, r'.find handle = some entry ↔ entry.type = old.type ∧
      entry.object = old.object ∧ references history' handle = entry.refs ∧ 0 < entry.refs) :
    Ledger r' history' where
  next_pos := by rw [hnext]; exact h.next_pos
  next_le := by rw [hnext]; exact h.next_le
  keys := hkeys
  handles := by rw [hissued]; exact h.handles
  issued_range := by rw [hissued, hnext]; exact h.issued_range
  events_range := by
    intro k hk
    rw [hnext] at hk
    have hlt := (h.issued_range _ ((h.entry _ _).mp hold).1).2
    rw [hother k (by dsimp only at hlt; omega)]
    exact h.events_range k hk
  entry := by
    intro k entry
    rw [hissued]
    by_cases hk : k = handle
    · subst hk
      rw [hself]
      have hmem := ((h.entry _ _).mp hold).1
      constructor
      · rintro ⟨htype, hobject, href⟩
        rw [htype, hobject]
        exact ⟨hmem, href⟩
      · rintro ⟨hin, href⟩
        -- the handle was issued once, so its type and object are the old entry's
        have heq := List.inj_on_of_nodup_map h.handles hin hmem rfl
        simp only [Prod.mk.injEq, true_and] at heq
        exact ⟨heq.1, heq.2, href⟩
    · rw [hfind k hk, hother k hk]
      exact h.entry k entry

theorem Ledger.retained (h : Ledger r history) {handle : Nat} {old : Entry}
    (hold : r.find handle = some old) :
    Ledger (r.set handle { old with refs := old.refs + 1 })
      (history ++ [.retained handle]) := by
  have hrefs := ((h.entry _ _).mp hold).2.1
  have hfind := fun k => find_set r handle k { old with refs := old.refs + 1 }
  have hsome : (r.find handle).isSome := by simp [hold]
  refine h.adjust hold rfl (by rw [keys_set]; exact h.keys) (by simp) ?_ ?_ ?_
  · intro k hk
    rw [references_retained, if_neg (Ne.symm hk), add_zero]
  · intro k hk
    rw [hfind k hsome, if_neg hk]
  · intro entry
    rw [hfind handle hsome, if_pos rfl, references_retained, if_pos rfl, hrefs]
    obtain ⟨type, refs, object⟩ := entry
    simp only [Option.some.injEq, Entry.mk.injEq]
    constructor
    · rintro ⟨rfl, rfl, rfl⟩
      simp
    · rintro ⟨rfl, rfl, hval, -⟩
      exact ⟨rfl, by omega, rfl⟩

theorem Ledger.released (h : Ledger r history) {handle : Nat} {old : Entry}
    (hold : r.find handle = some old) :
    Ledger (if old.refs = 1 then r.erase handle
      else r.set handle { old with refs := old.refs - 1 }) (history ++ [.released handle]) := by
  obtain ⟨-, hrefs, hpos⟩ := (h.entry _ _).mp hold
  have hsome : (r.find handle).isSome := by simp [hold]
  have hother : ∀ k, k ≠ handle →
      references (history ++ [.released handle]) k = references history k := by
    intro k hk
    rw [references_released, if_neg (Ne.symm hk), sub_zero]
  split
  · rename_i hone
    refine h.adjust hold rfl (h.keys.sublist (keys_erase r handle)) (by simp) hother ?_ ?_
    · intro k hk
      rw [find_erase, if_neg hk]
    · intro entry
      rw [find_erase, if_pos rfl, references_released, if_pos rfl, hrefs]
      constructor
      · intro hnone
        cases hnone
      · rintro ⟨-, -, hval, hgt⟩
        omega
  · rename_i hmore
    have hfind := fun k => find_set r handle k { old with refs := old.refs - 1 }
    refine h.adjust hold rfl (by rw [keys_set]; exact h.keys) (by simp) hother ?_ ?_
    · intro k hk
      rw [hfind k hsome, if_neg hk]
    · intro entry
      rw [hfind handle hsome, if_pos rfl, references_released, if_pos rfl, hrefs]
      obtain ⟨type, refs, object⟩ := entry
      simp only [Option.some.injEq, Entry.mk.injEq]
      constructor
      · rintro ⟨rfl, rfl, rfl⟩
        exact ⟨rfl, rfl, by omega, by omega⟩
      · rintro ⟨rfl, rfl, hval, -⟩
        exact ⟨rfl, by omega, rfl⟩

end Operations

/-- A failed request leaves every entry as it was. -/
theorem perform_error_entries {r r' : HandleRegistry} {history : List Event} {failure : Failure}
    (h : Ledger r history) (request : Request) (hx : perform request r = .error failure r') :
    r'.entries = r.entries := by
  cases request with
  | insert type object allocated =>
      rcases wp_of_error (wp_insert h type object allocated) hx with rfl | ⟨-, rfl⟩ <;> rfl
  | retain handle type =>
      have hw : wp (perform (.retain handle type)) (fun _ _ => True) (fun _ r' => r' = r) r := by
        rw [perform, wp_bind]
        exact wp_mono (wp_retain r handle type) (fun _ _ _ => trivial) fun _ _ he => he
      rw [wp_of_error hw hx]
  | release handle type =>
      have hw : wp (perform (.release handle type)) (fun _ _ => True) (fun _ r' => r' = r) r := by
        rw [perform, wp_bind]
        exact wp_mono (wp_release r handle type) (fun _ _ _ => trivial) fun _ _ he => he
      rw [wp_of_error hw hx]
  | lookup handle type => rw [wp_of_error (wp_lookup r handle type) hx]
  | count type => cases hx

theorem record_ledger {s : Recorded} (h : Ledger s.registry s.history) (request : Request) :
    Ledger (record s request).registry (record s request).history := by
  suffices H : wp (perform request)
      (fun result r' => Ledger r' (s.history ++ eventOf request result))
      (fun _ r' => Ledger r' s.history) s.registry by
    unfold record
    cases hx : perform request s.registry with
    | ok result r' =>
        have hok := wp_of_ok H hx
        exact hok
    | error failure r' =>
        have herror := wp_of_error H hx
        exact herror
  cases request with
  | insert type object allocated =>
      refine wp_mono (wp_insert h type object allocated) ?_ ?_
      · rintro handle r' ⟨rfl, hlt, o, rfl, rfl⟩
        exact h.inserted hlt type o
      · rintro - r' (rfl | ⟨hlt, rfl⟩)
        · exact h
        · exact h.bump hlt
  | retain handle type =>
      rw [perform, wp_bind]
      refine wp_mono (wp_retain s.registry handle type) ?_ ?_
      · rintro - r' ⟨entry, hfind, -, rfl⟩
        exact h.retained hfind
      · rintro - r' rfl
        exact h
  | release handle type =>
      rw [perform, wp_bind]
      refine wp_mono (wp_release s.registry handle type) ?_ ?_
      · rintro - r' ⟨entry, hfind, -, -, rfl⟩
        exact h.released hfind
      · rintro - r' rfl
        exact h
  | lookup handle type =>
      refine wp_mono (wp_lookup s.registry handle type) ?_ ?_
      · rintro object r' ⟨rfl, -⟩
        simpa [eventOf] using h
      · rintro - r' rfl
        exact h
  | count type =>
      rw [perform, wp_bind, wp_get, wp_pure]
      simpa [eventOf] using h

theorem ledger_initial : Ledger initial [] where
  next_pos := Nat.one_pos
  next_le := by decide
  keys := List.nodup_nil
  handles := List.nodup_nil
  issued_range := by simp [issued]
  events_range := by simp [references]
  entry := by simp [find, initial, issued]

theorem recordAll_ledger (requests : List Request) :
    Ledger (recordAll requests).registry (recordAll requests).history := by
  suffices H : ∀ (requests : List Request) (s : Recorded), Ledger s.registry s.history →
      Ledger (requests.foldl record s).registry (requests.foldl record s).history from
    H requests _ ledger_initial
  intro requests
  induction requests with
  | nil => exact fun s h => h
  | cons request requests ih => exact fun s h => ih _ (record_ledger h request)

/-- Whether `Lookup` resolves a handle as a type, to an object. -/
def Resolves (r : HandleRegistry) (handle : Nat) (type : HandleType) (object : Nat) : Prop :=
  ∃ r', lookup handle type r = .ok object r'

def liveHandles (history : List Event) (type : HandleType) : List Nat :=
  ((issued history).filter fun i => i.2.1 = type ∧ 0 < references history i.1).map Prod.fst

theorem Ledger.resolves_iff {r : HandleRegistry} {history : List Event} (h : Ledger r history)
    (handle : Nat) (type : HandleType) (object : Nat) :
    Resolves r handle type object ↔
      (handle, type, object) ∈ issued history ∧ 0 < references history handle := by
  constructor
  · rintro ⟨r', hx⟩
    obtain ⟨-, -, entry, hfind, rfl, rfl⟩ := wp_of_ok (wp_lookup r handle type) hx
    obtain ⟨hissued, href, hpos⟩ := (h.entry _ _).mp hfind
    exact ⟨hissued, by omega⟩
  · rintro ⟨hissued, href⟩
    obtain ⟨refs, hrefs⟩ := Int.eq_ofNat_of_zero_le (Int.le_of_lt href)
    have hrefsPos : 0 < refs := by omega
    have hfind := (h.entry handle ⟨type, refs, object⟩).mpr ⟨hissued, hrefs, hrefsPos⟩
    have hpos : handle ≠ 0 := Nat.ne_of_gt (h.issued_range _ hissued).1
    have hw : wp (lookup handle type) (fun o _ => o = object) (fun _ _ => False) r := by
      simp [lookup, hpos, hfind]
    obtain ⟨o, r', hx, rfl⟩ := ok_of_wp hw
    exact ⟨r', hx⟩

theorem Ledger.count_eq {r : HandleRegistry} {history : List Event} (h : Ledger r history)
    (type : HandleType) : r.count type = (liveHandles history type).length := by
  have hperm : ((r.entries.filter fun p => p.2.type = type).map Prod.fst).Perm
      (liveHandles history type) := by
    refine (List.perm_ext_iff_of_nodup (h.keys.sublist (List.filter_sublist.map _))
      (h.handles.sublist (List.filter_sublist.map _))).mpr fun handle => ?_
    simp only [List.mem_map, List.mem_filter, decide_eq_true_eq]
    constructor
    · rintro ⟨⟨handle, entry⟩, ⟨hmem, htype⟩, rfl⟩
      obtain ⟨hissued, href, hpos⟩ := (h.entry _ _).mp ((mem_entries h.keys).mp hmem)
      exact ⟨_, ⟨hissued, htype, by dsimp only; omega⟩, rfl⟩
    · rintro ⟨⟨handle, type', object⟩, ⟨hissued, htype, href⟩, rfl⟩
      obtain ⟨refs, hrefs⟩ := Int.eq_ofNat_of_zero_le (Int.le_of_lt href)
      have hpos : 0 < refs := by dsimp only at hrefs href; omega
      have hfind := (h.entry handle ⟨type', refs, object⟩).mpr ⟨hissued, hrefs, hpos⟩
      exact ⟨(handle, _), ⟨(mem_entries h.keys).mpr hfind, htype⟩, rfl⟩
  rw [count, ← hperm.length_eq, List.length_map]

/-- The registry after any sequence of requests, against the history of those
that succeeded. -/
theorem registry_state_machine (requests : List Request) :
    let s := recordAll requests
    (∀ handle type, (∃ object, Resolves s.registry handle type object) ↔
      (∃ object, (handle, type, object) ∈ issued s.history) ∧ 0 < references s.history handle) ∧
    (∀ i ∈ issued s.history, i.1 ≠ 0) ∧
    ((issued s.history).map Prod.fst).Nodup ∧
    (∀ request failure r', perform request s.registry = .error failure r' →
      r'.entries = s.registry.entries) ∧
    (∀ type, s.registry.count type = (liveHandles s.history type).length) := by
  have h := recordAll_ledger requests
  refine ⟨fun handle type => ?_, fun i hi => Nat.ne_of_gt (h.issued_range i hi).1, h.handles,
    fun request failure r' hx => perform_error_entries h request hx, h.count_eq⟩
  simp only [h.resolves_iff, exists_and_right]

end Tensora.HandleRegistry
