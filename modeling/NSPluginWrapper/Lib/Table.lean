import Mathlib.Data.List.AList

/-! Hash tables: what is found by a value, how many entries there are, and
    what changes leave. -/

namespace NSPluginWrapper.Lib

universe u v

/-- A table with at most one value for a key. -/
abbrev Table (κ : Type u) (β : Type v) := AList fun _ : κ => β

namespace Table
variable {κ : Type u} {β : Type v} {t : Table κ β} {k : κ} {v : β}

def size (t : Table κ β) : Nat := t.entries.length

/-- A key whose value meets a condition. -/
def find (t : Table κ β) (p : β → Bool) : Option κ := (t.entries.find? fun e => p e.2).map (·.1)

@[simp] theorem size_empty : size (∅ : Table κ β) = 0 := rfl

variable [DecidableEq κ]

theorem size_insert_le (t : Table κ β) (k : κ) (v : β) : size (t.insert k v) ≤ t.size + 1 := by
  have hkeys := congrArg List.length (AList.keys_insert (a := k) (b := v) t)
  rw [AList.keys, List.keys, List.length_map, List.length_cons] at hkeys
  have herase : (t.keys.erase k).length ≤ t.keys.length := List.erase_sublist.length_le
  rw [AList.keys, List.keys, List.length_map] at herase
  rw [size, hkeys]
  exact Nat.succ_le_succ herase

theorem lookup_insert (t : Table κ β) (k k' : κ) (v : β) :
    (t.insert k v).lookup k' = if k' = k then some v else t.lookup k' := by
  split
  · rename_i hk
    rw [hk]
    exact AList.lookup_insert t
  · rename_i hk
    exact AList.lookup_insert_ne hk

theorem lookup_erase (t : Table κ β) (k k' : κ) : (t.erase k).lookup k' = if k' = k then none else t.lookup k' := by
  split
  · rename_i hk
    rw [hk]
    exact AList.lookup_erase k t
  · rename_i hk
    exact AList.lookup_erase_ne hk

/-- What is found is there. -/
theorem find_some {p : β → Bool} (h : t.find p = some k) : ∃ v, t.lookup k = some v ∧ p v = true := by
  obtain ⟨e, he, rfl⟩ := Option.map_eq_some_iff.mp h
  have hp := List.find?_some he
  exact ⟨e.2, AList.mem_lookup_iff.mpr (List.mem_of_find?_eq_some he), hp⟩

/-- Nothing is found where nothing meets the condition. -/
theorem find_eq_none {p : β → Bool} : t.find p = none ↔ ∀ k v, t.lookup k = some v → p v = false := by
  rw [find, Option.map_eq_none_iff, List.find?_eq_none]
  constructor
  · intro h k v hv
    exact Bool.eq_false_iff.mpr (h ⟨k, v⟩ (AList.mem_lookup_iff.mp hv))
  · intro h e he hp
    have := h e.1 e.2 (AList.mem_lookup_iff.mpr he)
    rw [this] at hp
    cases hp

/-! ### Changes -/

inductive Change (κ : Type u) (β : Type v) where
  | insert (key : κ) (value : β)
  | erase (key : κ)

def Change.key : Change κ β → κ
  | .insert key _ => key
  | .erase key => key

def change (t : Table κ β) : Change κ β → Table κ β
  | .insert key value => t.insert key value
  | .erase key => t.erase key

/-- One change after the other. -/
def changes (t : Table κ β) (cs : List (Change κ β)) : Table κ β := cs.foldl change t

variable {cs ds : List (Change κ β)} {t' : Table κ β}

theorem changes_append : t.changes (cs ++ ds) = (t.changes cs).changes ds := List.foldl_append

theorem lookup_change_self (c : Change κ β) : (t.change c).lookup c.key = (t'.change c).lookup c.key := by
  cases c with
  | insert key value => simp [change, Change.key]
  | erase key => simp [change, Change.key]

theorem lookup_change_of_ne {c : Change κ β} (h : k ≠ c.key) : (t.change c).lookup k = t.lookup k := by
  cases c with
  | insert key value => exact (lookup_insert ..).trans (if_neg h)
  | erase key => exact (lookup_erase ..).trans (if_neg h)

/-- What is found under a key is a matter of what was found there. -/
theorem lookup_changes_congr (h : t.lookup k = t'.lookup k) : (t.changes cs).lookup k = (t'.changes cs).lookup k := by
  induction cs generalizing t t' with
  | nil => exact h
  | cons c cs ih =>
    apply ih
    rcases eq_or_ne k c.key with rfl | hne
    · exact lookup_change_self c
    · rw [lookup_change_of_ne hne, lookup_change_of_ne hne, h]

theorem lookup_changes_of_mem (h : k ∈ cs.map Change.key) : (t.changes cs).lookup k = (t'.changes cs).lookup k := by
  induction cs generalizing t t' with
  | nil => cases h
  | cons c cs ih =>
    rcases eq_or_ne k c.key with rfl | hne
    · show ((t.change c).changes cs).lookup c.key = ((t'.change c).changes cs).lookup c.key
      exact lookup_changes_congr (lookup_change_self c)
    · exact ih ((List.mem_cons.mp h).resolve_left hne)

theorem lookup_changes_of_not_mem (h : k ∉ cs.map Change.key) : (t.changes cs).lookup k = t.lookup k := by
  induction cs generalizing t with
  | nil => rfl
  | cons c cs ih =>
    rw [List.map_cons, List.mem_cons, not_or] at h
    exact (ih h.2).trans (lookup_change_of_ne h.1)

end Table
end NSPluginWrapper.Lib
