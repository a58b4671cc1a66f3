import Mathlib

/-!
# Maps that remember the order of insertion

A `LinkedMap` is a list of entries with distinct keys. A new key goes to the end, an old one
keeps its place.

Main results:
* `get?_eq_some_iff`: a lookup finds exactly the entries.
* `entries_set_of_notMem`, `remove_set_of_notMem`: setting a new key, and undoing it.
* `remove_split`: what `remove` does.
* `get?_set`, `get?_remove`: a lookup after an update.
-/

/-- Entries with distinct keys, in order of insertion. -/
structure LinkedMap (α β : Type*) where
  entries : List (α × β)
  nodupKeys : (entries.map Prod.fst).Nodup
deriving DecidableEq

namespace LinkedMap

variable {α β : Type*}

/-- The map without entries. -/
def empty : LinkedMap α β := ⟨[], List.nodup_nil⟩

instance : Inhabited (LinkedMap α β) := ⟨empty⟩

/-- The keys, in order. -/
def keys (m : LinkedMap α β) : List α := m.entries.map Prod.fst

/-- The values, in the order of their keys. -/
def values (m : LinkedMap α β) : List β := m.entries.map Prod.snd

@[simp] theorem entries_empty : (empty : LinkedMap α β).entries = [] := rfl

@[simp] theorem values_empty : (empty : LinkedMap α β).values = [] := rfl

theorem mem_keys_of_mem {m : LinkedMap α β} {k : α} {v : β} (h : (k, v) ∈ m.entries) :
    k ∈ m.keys :=
  List.mem_map.mpr ⟨(k, v), h, rfl⟩

theorem eq_of_entries {m m' : LinkedMap α β} (h : m.entries = m'.entries) : m = m' := by
  cases m
  cases m'
  cases h
  rfl

/-- Removes the entries that pass a test. -/
def removeWhere (m : LinkedMap α β) (test : α → β → Bool) : LinkedMap α β :=
  ⟨m.entries.filter fun entry => !test entry.1 entry.2,
    m.nodupKeys.sublist (List.filter_sublist.map Prod.fst)⟩

theorem mem_entries_removeWhere {m : LinkedMap α β} {test : α → β → Bool} {entry : α × β} :
    entry ∈ (m.removeWhere test).entries ↔ entry ∈ m.entries ∧ test entry.1 entry.2 = false :=
  List.mem_filter.trans (and_congr_right fun _ => by simp)

variable [DecidableEq α]

/-- The value of a key. -/
def get? (m : LinkedMap α β) (k : α) : Option β :=
  (m.entries.find? fun entry => entry.1 = k).map Prod.snd

/-- The entries without the one of a key. -/
def removeEntry (k : α) (entries : List (α × β)) : List (α × β) :=
  entries.filter fun entry => entry.1 ≠ k

/-- The entries with the value of a key replaced. -/
def replaceEntry (k : α) (v : β) (entries : List (α × β)) : List (α × β) :=
  entries.map fun entry => if entry.1 = k then (k, v) else entry

theorem keys_replaceEntry (k : α) (v : β) (entries : List (α × β)) :
    (replaceEntry k v entries).map Prod.fst = entries.map Prod.fst := by
  refine List.map_map.trans (List.map_congr_left fun entry _ => ?_)
  by_cases hk : entry.1 = k
  · simp [hk]
  · simp [hk]

/-- Removes a key. -/
def remove (m : LinkedMap α β) (k : α) : LinkedMap α β :=
  ⟨removeEntry k m.entries, m.nodupKeys.sublist (List.filter_sublist.map Prod.fst)⟩

/-- Sets the value of a key. -/
def set (m : LinkedMap α β) (k : α) (v : β) : LinkedMap α β :=
  if h : k ∈ m.keys then
    ⟨replaceEntry k v m.entries, by rw [keys_replaceEntry]; exact m.nodupKeys⟩
  else
    ⟨m.entries ++ [(k, v)], by
      rw [List.map_append]
      exact m.nodupKeys.append (List.nodup_singleton k) (by simpa [keys] using h)⟩

/-! ## Lookup -/

theorem mem_of_get? {m : LinkedMap α β} {k : α} {v : β} (h : m.get? k = some v) :
    (k, v) ∈ m.entries := by
  obtain ⟨entry, hfind, rfl⟩ := Option.map_eq_some_iff.mp h
  have hkey : entry.1 = k := by simpa using List.find?_some hfind
  rw [← hkey]
  exact List.mem_of_find?_eq_some hfind

theorem get?_of_mem {m : LinkedMap α β} {k : α} {v : β} (h : (k, v) ∈ m.entries) :
    m.get? k = some v := by
  obtain ⟨pre, post, hsplit⟩ := List.append_of_mem h
  have hnodup := m.nodupKeys
  rw [hsplit, List.map_append, List.map_cons] at hnodup
  have hpre : ∀ entry ∈ pre, ¬entry.1 = k := by
    intro entry hentry hk
    exact (List.nodup_append.mp hnodup).2.2 entry.1 (List.mem_map_of_mem hentry) k
      (List.mem_cons_self) hk
  have hnone : pre.find? (fun entry => decide (entry.1 = k)) = none := by
    simpa using hpre
  show (m.entries.find? fun entry => decide (entry.1 = k)).map Prod.snd = some v
  rw [hsplit, List.find?_append, hnone]
  simp

theorem get?_eq_some_iff {m : LinkedMap α β} {k : α} {v : β} :
    m.get? k = some v ↔ (k, v) ∈ m.entries :=
  ⟨mem_of_get?, get?_of_mem⟩

theorem notMem_keys_of_get? {m : LinkedMap α β} {k : α} (h : m.get? k = none) : k ∉ m.keys := by
  intro hk
  obtain ⟨⟨k', v⟩, hmem, rfl⟩ := List.mem_map.mp hk
  rw [get?_of_mem hmem] at h
  exact Option.some_ne_none _ h

theorem get?_of_notMem_keys {m : LinkedMap α β} {k : α} (h : k ∉ m.keys) : m.get? k = none := by
  rw [Option.eq_none_iff_forall_ne_some]
  intro v hv
  exact h (mem_keys_of_mem (mem_of_get? hv))

theorem get?_eq_none_iff {m : LinkedMap α β} {k : α} : m.get? k = none ↔ k ∉ m.keys :=
  ⟨notMem_keys_of_get?, get?_of_notMem_keys⟩

/-! ## Updates -/

theorem entries_set_of_mem {m : LinkedMap α β} {k : α} (v : β) (h : k ∈ m.keys) :
    (m.set k v).entries = replaceEntry k v m.entries :=
  congrArg entries (dif_pos h)

theorem entries_set_of_notMem {m : LinkedMap α β} {k : α} (v : β) (h : k ∉ m.keys) :
    (m.set k v).entries = m.entries ++ [(k, v)] :=
  congrArg entries (dif_neg h)

theorem values_set_of_notMem {m : LinkedMap α β} {k : α} (v : β) (h : k ∉ m.keys) :
    (m.set k v).values = m.values ++ [v] := by
  show (m.set k v).entries.map Prod.snd = m.values ++ [v]
  rw [entries_set_of_notMem v h, List.map_append]
  rfl

theorem keys_set_of_notMem {m : LinkedMap α β} {k : α} (v : β) (h : k ∉ m.keys) :
    (m.set k v).keys = m.keys ++ [k] := by
  show (m.set k v).entries.map Prod.fst = m.keys ++ [k]
  rw [entries_set_of_notMem v h, List.map_append]
  rfl

theorem keys_remove_subset (m : LinkedMap α β) (k : α) : (m.remove k).keys ⊆ m.keys :=
  (List.filter_sublist.map Prod.fst).subset

theorem mem_of_mem_remove {m : LinkedMap α β} {k : α} {entry : α × β}
    (h : entry ∈ (m.remove k).entries) : entry ∈ m.entries :=
  (List.mem_filter.mp h).1

theorem ne_of_mem_remove {m : LinkedMap α β} {k : α} {entry : α × β}
    (h : entry ∈ (m.remove k).entries) : entry.1 ≠ k := by
  simpa using (List.mem_filter.mp h).2

theorem removeEntry_of_notMem {k : α} {entries : List (α × β)} (h : k ∉ entries.map Prod.fst) :
    removeEntry k entries = entries := by
  refine List.filter_eq_self.mpr fun entry hentry => ?_
  have hne : entry.1 ≠ k := fun hk => h (hk ▸ List.mem_map_of_mem hentry)
  simpa using hne

theorem removeEntry_append (k : α) (pre post : List (α × β)) :
    removeEntry k (pre ++ post) = removeEntry k pre ++ removeEntry k post :=
  List.filter_append ..

theorem removeEntry_cons_self (k : α) (v : β) (post : List (α × β)) :
    removeEntry k ((k, v) :: post) = removeEntry k post :=
  List.filter_cons_of_neg (by simp)

/-- Removing a key that was new undoes setting it. -/
theorem remove_set_of_notMem {m : LinkedMap α β} {k : α} (v : β) (h : k ∉ m.keys) :
    (m.set k v).remove k = m := by
  refine eq_of_entries ?_
  show removeEntry k (m.set k v).entries = m.entries
  rw [entries_set_of_notMem v h, removeEntry_append, removeEntry_cons_self,
    removeEntry_of_notMem h]
  exact List.append_nil _

/-- Removing a key takes its entry out of the list. -/
theorem remove_split {m : LinkedMap α β} {k : α} {v : β} (h : m.get? k = some v) :
    ∃ pre post, m.entries = pre ++ (k, v) :: post ∧ (m.remove k).entries = pre ++ post := by
  obtain ⟨pre, post, hsplit⟩ := List.append_of_mem (mem_of_get? h)
  have hnodup := m.nodupKeys
  rw [hsplit, List.map_append, List.map_cons] at hnodup
  obtain ⟨-, htail, hdisj⟩ := List.nodup_append.mp hnodup
  refine ⟨pre, post, hsplit, ?_⟩
  have hpre : k ∉ pre.map Prod.fst := fun hk => hdisj k hk k List.mem_cons_self rfl
  have hpost : k ∉ post.map Prod.fst := (List.nodup_cons.mp htail).1
  show removeEntry k m.entries = pre ++ post
  rw [hsplit, removeEntry_append, removeEntry_cons_self, removeEntry_of_notMem hpre,
    removeEntry_of_notMem hpost]

/-! ## Lookups after an update -/

theorem get?_remove (m : LinkedMap α β) (k k' : α) :
    (m.remove k).get? k' = if k' = k then none else m.get? k' := by
  split
  case isTrue h =>
    refine get?_of_notMem_keys fun hmem => ?_
    obtain ⟨entry, hentry, hkey⟩ := List.mem_map.mp hmem
    exact ne_of_mem_remove hentry (hkey.trans h)
  case isFalse h =>
    cases hget : m.get? k' with
    | none =>
      exact get?_of_notMem_keys fun hmem =>
        notMem_keys_of_get? hget (keys_remove_subset m k hmem)
    | some v =>
      have hmem := mem_of_get? hget
      exact get?_of_mem (List.mem_filter.mpr ⟨hmem, by simpa using h⟩)

theorem mem_entries_set {m : LinkedMap α β} {k : α} {v : β} {entry : α × β} :
    entry ∈ (m.set k v).entries ↔ entry = (k, v) ∨ entry ∈ m.entries ∧ entry.1 ≠ k := by
  by_cases h : k ∈ m.keys
  · rw [entries_set_of_mem v h]
    refine List.mem_map.trans ?_
    constructor
    · rintro ⟨old, hold, rfl⟩
      by_cases hkey : old.1 = k
      · exact .inl (if_pos hkey)
      · rw [if_neg hkey]
        exact .inr ⟨hold, hkey⟩
    · rintro (rfl | ⟨hentry, hkey⟩)
      · obtain ⟨old, hold, hkey⟩ := List.mem_map.mp h
        exact ⟨old, hold, if_pos hkey⟩
      · exact ⟨entry, hentry, if_neg hkey⟩
  · rw [entries_set_of_notMem v h, List.mem_append, List.mem_singleton]
    constructor
    · rintro (hentry | rfl)
      · exact .inr ⟨hentry, fun hkey => h (hkey ▸ List.mem_map_of_mem hentry)⟩
      · exact .inl rfl
    · rintro (rfl | ⟨hentry, -⟩)
      · exact .inr rfl
      · exact .inl hentry

theorem get?_set (m : LinkedMap α β) (k k' : α) (v : β) :
    (m.set k v).get? k' = if k' = k then some v else m.get? k' := by
  split
  case isTrue h => exact get?_of_mem (mem_entries_set.mpr (.inl (by rw [h])))
  case isFalse h =>
    cases hget : m.get? k' with
    | some w =>
      exact get?_of_mem (mem_entries_set.mpr (.inr ⟨mem_of_get? hget, h⟩))
    | none =>
      refine get?_of_notMem_keys fun hmem => ?_
      obtain ⟨entry, hentry, hkey⟩ := List.mem_map.mp hmem
      rcases mem_entries_set.mp hentry with rfl | ⟨hold, -⟩
      · exact h hkey.symm
      · exact notMem_keys_of_get? hget (hkey ▸ List.mem_map_of_mem hold)

theorem get?_removeWhere (m : LinkedMap α β) (test : α → β → Bool) (k : α) :
    (m.removeWhere test).get? k = (m.get? k).filter (!test k ·) := by
  refine Option.ext fun v => ?_
  rw [get?_eq_some_iff, mem_entries_removeWhere, ← get?_eq_some_iff, Option.filter_eq_some_iff]
  simp

theorem mem_keys_iff {m : LinkedMap α β} {k : α} : k ∈ m.keys ↔ ∃ v, m.get? k = some v := by
  constructor
  · intro h
    obtain ⟨⟨k', v⟩, hmem, rfl⟩ := List.mem_map.mp h
    exact ⟨v, get?_of_mem hmem⟩
  · rintro ⟨v, h⟩
    exact mem_keys_of_mem (mem_of_get? h)

/-! ## Keys after an update -/

theorem mem_keys_set {m : LinkedMap α β} {k k' : α} {v : β} :
    k' ∈ (m.set k v).keys ↔ k' = k ∨ k' ∈ m.keys := by
  rw [mem_keys_iff, mem_keys_iff, get?_set]
  split
  case isTrue h => simp [h]
  case isFalse h => simp [h]

theorem mem_keys_remove {m : LinkedMap α β} {k k' : α} :
    k' ∈ (m.remove k).keys ↔ k' ≠ k ∧ k' ∈ m.keys := by
  rw [mem_keys_iff, mem_keys_iff, get?_remove]
  split
  case isTrue h => simp [h]
  case isFalse h => simp [h]

theorem mem_keys_removeWhere {m : LinkedMap α β} {test : α → β → Bool} {k : α} :
    k ∈ (m.removeWhere test).keys ↔ ∃ v, m.get? k = some v ∧ test k v = false := by
  simp only [mem_keys_iff, get?_removeWhere, Option.filter_eq_some_iff, Bool.not_eq_true']

end LinkedMap
