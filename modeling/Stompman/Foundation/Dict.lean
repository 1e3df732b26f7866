import Mathlib.Data.List.Nodup
import Mathlib.Data.List.Perm.Basic

/-!
# Insertion-ordered dictionaries

A dictionary is a list of entries whose keys are pairwise distinct.  Assignment to a present key
keeps its position and assignment to a new key appends, so the entries stay in insertion order.
Two dictionaries are equal as maps when they hold the same items in some order.
-/

namespace Foundation

/-- An insertion-ordered dictionary. -/
structure Dict (κ ν : Type) where
  /-- Items in insertion order. -/
  entries : List (κ × ν)
  /-- No key occurs twice. -/
  nodup_keys : (entries.map Prod.fst).Nodup
  deriving DecidableEq

namespace Dict

variable {κ ν : Type} [DecidableEq κ]

/-- The empty dictionary. -/
def empty : Dict κ ν := ⟨[], List.nodup_nil⟩

/-- Keys in insertion order. -/
def keys (dict : Dict κ ν) : List κ := dict.entries.map Prod.fst

/-- Values in insertion order. -/
def values (dict : Dict κ ν) : List ν := dict.entries.map Prod.snd

/-- The value stored under a key. -/
def get? (dict : Dict κ ν) (key : κ) : Option ν := dict.entries.lookup key

/-- Membership of a key. -/
def contains (dict : Dict κ ν) (key : κ) : Bool := (dict.get? key).isSome

/-- Replace the value of one key in a list of entries. -/
def replaceEntry (key : κ) (value : ν) : List (κ × ν) → List (κ × ν)
  | [] => []
  | entry :: entries =>
      if entry.1 = key then (key, value) :: entries else entry :: replaceEntry key value entries

theorem lookup_cons_of_ne {query head : κ} (differs : query ≠ head) (value : ν)
    (entries : List (κ × ν)) : ((head, value) :: entries).lookup query = entries.lookup query := by
  rw [List.lookup_cons, beq_eq_false_iff_ne.mpr differs]

theorem map_fst_replaceEntry (key : κ) (value : ν) (entries : List (κ × ν)) :
    (replaceEntry key value entries).map Prod.fst = entries.map Prod.fst := by
  induction entries with
  | nil => rfl
  | cons entry entries ih =>
      by_cases same : entry.1 = key
      · simp [replaceEntry, same]
      · simp [replaceEntry, same, ih]

theorem get?_isSome_iff (dict : Dict κ ν) (key : κ) :
    (dict.get? key).isSome ↔ key ∈ dict.keys := by
  simp only [get?, List.lookup_isSome_iff, keys, List.mem_map, beq_iff_eq]
  constructor
  · rintro ⟨entry, member, rfl⟩
    exact ⟨entry, member, rfl⟩
  · rintro ⟨entry, member, rfl⟩
    exact ⟨entry, member, rfl⟩

/-- Assignment `dict[key] = value`. -/
def set (dict : Dict κ ν) (key : κ) (value : ν) : Dict κ ν :=
  if present : dict.contains key then
    ⟨replaceEntry key value dict.entries, by
      rw [map_fst_replaceEntry]
      exact dict.nodup_keys⟩
  else
    ⟨dict.entries ++ [(key, value)], by
      have absent : key ∉ dict.keys := by
        rwa [contains, get?_isSome_iff] at present
      rw [List.map_append, List.nodup_append]
      refine ⟨dict.nodup_keys, List.nodup_singleton _, ?_⟩
      intro left left_mem right right_mem same
      simp only [List.map_cons, List.map_nil, List.mem_singleton] at right_mem
      exact absent (by rwa [← right_mem, ← same])⟩

/-- Deletion of a key, if present. -/
def erase (dict : Dict κ ν) (key : κ) : Dict κ ν :=
  ⟨dict.entries.filter fun entry => entry.1 ≠ key,
    dict.nodup_keys.sublist (List.filter_sublist.map Prod.fst)⟩

/-- Assign a list of items one after another. -/
def update (dict : Dict κ ν) (items : List (κ × ν)) : Dict κ ν :=
  items.foldl (fun current item => current.set item.1 item.2) dict

/-- Equality of dictionaries as maps: the same items, whatever the insertion order. -/
def Equal (left right : Dict κ ν) : Prop := left.entries.Perm right.entries

instance [DecidableEq ν] (left right : Dict κ ν) : Decidable (left.Equal right) :=
  inferInstanceAs (Decidable (left.entries.Perm right.entries))

theorem get?_eq_some_iff (dict : Dict κ ν) (key : κ) (value : ν) :
    dict.get? key = some value ↔ (key, value) ∈ dict.entries := by
  obtain ⟨entries, nodup⟩ := dict
  simp only [get?]
  induction entries with
  | nil => simp
  | cons entry entries ih =>
      obtain ⟨head, first⟩ := entry
      rw [List.map_cons, List.nodup_cons] at nodup
      by_cases same : key = head
      · subst same
        simp only [List.lookup_cons_self, Option.some.injEq, List.mem_cons, Prod.mk.injEq,
          true_and]
        constructor
        · intro equal
          exact .inl equal.symm
        · rintro (equal | member)
          · exact equal.symm
          · exact absurd (List.mem_map_of_mem member) nodup.1
      · rw [lookup_cons_of_ne same, ih nodup.2]
        simp [same]

theorem mem_values_iff (dict : Dict κ ν) (value : ν) :
    value ∈ dict.values ↔ ∃ key, dict.get? key = some value := by
  simp only [get?_eq_some_iff, values, List.mem_map]
  constructor
  · rintro ⟨entry, member, rfl⟩
    exact ⟨entry.1, member⟩
  · rintro ⟨key, member⟩
    exact ⟨(key, value), member, rfl⟩

theorem get?_eq_none_iff (dict : Dict κ ν) (key : κ) :
    dict.get? key = none ↔ key ∉ dict.keys := by
  rw [← get?_isSome_iff]
  cases dict.get? key <;> simp

theorem contains_iff (dict : Dict κ ν) (key : κ) : dict.contains key = true ↔ key ∈ dict.keys := by
  rw [contains, get?_isSome_iff]

theorem entries_set_of_absent (dict : Dict κ ν) {key : κ} (value : ν)
    (absent : key ∉ dict.keys) : (dict.set key value).entries = dict.entries ++ [(key, value)] := by
  have missing : dict.contains key = false := by
    rw [← Bool.not_eq_true, contains_iff]
    exact absent
  simp [set, missing]

theorem lookup_replaceEntry (key query : κ) (value : ν) (entries : List (κ × ν)) :
    (replaceEntry key value entries).lookup query =
      if query = key ∧ key ∈ entries.map Prod.fst then some value else entries.lookup query := by
  induction entries with
  | nil => simp [replaceEntry]
  | cons entry entries ih =>
      obtain ⟨head, first⟩ := entry
      by_cases same : head = key
      · subst same
        by_cases hit : query = head
        · simp [replaceEntry, hit]
        · simp [replaceEntry, hit, lookup_cons_of_ne]
      · by_cases hit : query = head
        · subst hit
          simp [replaceEntry, same]
        · have key_mem : key ∈ ((head, first) :: entries).map Prod.fst ↔
              key ∈ entries.map Prod.fst := by
            rw [List.map_cons, List.mem_cons]
            exact or_iff_right (Ne.symm same)
          simp only [replaceEntry, same, if_false, lookup_cons_of_ne hit, ih, key_mem]

@[simp]
theorem get?_set (dict : Dict κ ν) (key query : κ) (value : ν) :
    (dict.set key value).get? query = if query = key then some value else dict.get? query := by
  by_cases present : dict.contains key
  · have member : key ∈ dict.entries.map Prod.fst := (contains_iff dict key).mp present
    simp [set, present, get?, lookup_replaceEntry, member]
  · have absent : key ∉ dict.keys := by rwa [contains_iff] at present
    rw [get?, entries_set_of_absent dict value absent, List.lookup_append]
    by_cases hit : query = key
    · subst hit
      have missing : dict.entries.lookup query = none := (get?_eq_none_iff dict query).mpr absent
      simp [missing]
    · simp [hit, get?, lookup_cons_of_ne hit]

theorem mem_entries_set (dict : Dict κ ν) {key : κ} {value : ν} {item : κ × ν}
    (member : item ∈ (dict.set key value).entries) : item = (key, value) ∨ item ∈ dict.entries := by
  obtain ⟨name, content⟩ := item
  rw [← get?_eq_some_iff, get?_set] at member
  split at member
  · rename_i same
    obtain rfl := Option.some.inj member
    exact .inl (by rw [same])
  · exact .inr ((get?_eq_some_iff dict name content).mp member)

@[simp]
theorem get?_empty (key : κ) : (empty : Dict κ ν).get? key = none := rfl

@[simp]
theorem get?_erase (dict : Dict κ ν) (key query : κ) :
    (dict.erase key).get? query = if query = key then none else dict.get? query := by
  obtain ⟨entries, nodup⟩ := dict
  simp only [erase, get?]
  clear nodup
  induction entries with
  | nil => simp
  | cons entry entries ih =>
      obtain ⟨head, first⟩ := entry
      by_cases same : head = key
      · subst same
        rw [List.filter_cons_of_neg (by simp), ih]
        by_cases hit : query = head
        · simp [hit]
        · simp [hit, lookup_cons_of_ne hit]
      · rw [List.filter_cons_of_pos (by simpa using same)]
        by_cases hit : query = head
        · subst hit
          simp [same]
        · rw [lookup_cons_of_ne hit, lookup_cons_of_ne hit, ih]

end Dict

end Foundation
