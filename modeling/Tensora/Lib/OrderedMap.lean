import Mathlib.Data.List.Nodup

/-! Maps that keep the order in which their keys came. -/

structure OrderedMap (κ α : Type*) where
  entries : List (κ × α)
  nodup : (entries.map Prod.fst).Nodup

namespace OrderedMap
variable {κ α : Type*} [DecidableEq κ]

def keys (m : OrderedMap κ α) : List κ := m.entries.map Prod.fst

def empty : OrderedMap κ α := ⟨[], List.nodup_nil⟩

def get? (m : OrderedMap κ α) (key : κ) : Option α :=
  (m.entries.find? fun entry => entry.1 = key).map Prod.snd

/-- A key that is there keeps its place. -/
def set (m : OrderedMap κ α) (key : κ) (value : α) : OrderedMap κ α :=
  if h : key ∈ m.keys then
    { entries := m.entries.map fun entry => if entry.1 = key then (key, value) else entry
      nodup := by
        have hkeys : (m.entries.map fun entry => if entry.1 = key then (key, value) else entry).map
            Prod.fst = m.entries.map Prod.fst := by
          rw [List.map_map]
          apply List.map_congr_left
          intro entry _
          by_cases heq : entry.1 = key
          · simp [heq]
          · simp [heq]
        rw [hkeys]
        exact m.nodup }
  else
    { entries := m.entries ++ [(key, value)]
      nodup := by
        rw [List.map_append]
        exact m.nodup.append (List.nodup_singleton key)
          (List.disjoint_singleton.mpr h) }

def erase (m : OrderedMap κ α) (key : κ) : OrderedMap κ α where
  entries := m.entries.filter fun entry => entry.1 ≠ key
  nodup := m.nodup.sublist (List.filter_sublist.map Prod.fst)

def setAll (m : OrderedMap κ α) (entries : List (κ × α)) : OrderedMap κ α :=
  entries.foldl (fun m entry => m.set entry.1 entry.2) m

theorem entries_set_of_new {m : OrderedMap κ α} {key : κ} (h : key ∉ m.keys) (value : α) :
    (m.set key value).entries = m.entries ++ [(key, value)] := by
  unfold set
  rw [dif_neg h]

theorem entries_setAll {m : OrderedMap κ α} {entries : List (κ × α)}
    (h : (m.keys ++ entries.map Prod.fst).Nodup) :
    (m.setAll entries).entries = m.entries ++ entries := by
  induction entries generalizing m with
  | nil => exact (List.append_nil _).symm
  | cons entry rest ih =>
      have hnew : entry.1 ∉ m.keys := by
        intro hmem
        exact (List.nodup_append.mp h).2.2 _ hmem _ List.mem_cons_self rfl
      have hentries := entries_set_of_new hnew entry.2
      have hkeys : (m.set entry.1 entry.2).keys = m.keys ++ [entry.1] := by
        unfold keys
        rw [hentries, List.map_append]
        rfl
      change (setAll (m.set entry.1 entry.2) rest).entries = _
      rw [ih, hentries, List.append_assoc, List.singleton_append]
      rw [hkeys, List.append_assoc]
      exact h

theorem get?_eq_some_iff {m : OrderedMap κ α} {key : κ} {value : α} :
    m.get? key = some value ↔ (key, value) ∈ m.entries := by
  unfold get?
  rw [Option.map_eq_some_iff]
  constructor
  · rintro ⟨entry, hfind, rfl⟩
    have hkey : entry.1 = key := by simpa using List.find?_some hfind
    rw [← hkey]
    exact List.mem_of_find?_eq_some hfind
  · intro hmem
    have hsome : (m.entries.find? fun entry => entry.1 = key).isSome = true := by
      rw [List.find?_isSome]
      exact ⟨_, hmem, by simp⟩
    obtain ⟨entry, hfind⟩ := Option.isSome_iff_exists.mp hsome
    have hkey : entry.1 = key := by simpa using List.find?_some hfind
    have hsame : entry = (key, value) :=
      List.inj_on_of_nodup_map m.nodup (List.mem_of_find?_eq_some hfind) hmem hkey
    exact ⟨entry, hfind, congrArg Prod.snd hsame⟩

theorem exists_get?_of_mem {m : OrderedMap κ α} {key : κ} (h : key ∈ m.keys) :
    ∃ value, m.get? key = some value := by
  obtain ⟨entry, hmem, rfl⟩ := List.mem_map.mp h
  exact ⟨entry.2, get?_eq_some_iff.mpr hmem⟩

theorem mem_keys_of_get? {m : OrderedMap κ α} {key : κ} {value : α} (h : m.get? key = some value) :
    key ∈ m.keys :=
  List.mem_map.mpr ⟨_, get?_eq_some_iff.mp h, rfl⟩

theorem get?_eq_none_iff {m : OrderedMap κ α} {key : κ} : m.get? key = none ↔ key ∉ m.keys := by
  constructor
  · intro h member
    obtain ⟨value, found⟩ := exists_get?_of_mem member
    rw [h] at found
    cases found
  · intro absent
    cases h : m.get? key with
    | none => rfl
    | some value => exact absurd (mem_keys_of_get? h) absent

theorem get?_erase_iff {m : OrderedMap κ α} {erased key : κ} {value : α} :
    (m.erase erased).get? key = some value ↔ key ≠ erased ∧ m.get? key = some value := by
  rw [get?_eq_some_iff, get?_eq_some_iff, erase, List.mem_filter]
  simp [and_comm]

theorem get?_set_of_new_iff {m : OrderedMap κ α} {new key : κ} {inserted value : α}
    (h : new ∉ m.keys) :
    (m.set new inserted).get? key = some value ↔
      m.get? key = some value ∨ key = new ∧ value = inserted := by
  rw [get?_eq_some_iff, get?_eq_some_iff, entries_set_of_new h, List.mem_append]
  simp

end OrderedMap
