import Mathlib.Logic.Function.Basic
import NSPluginWrapper.Lib.Table

/-! Tables that find things by a key of their own: what is put in has the key from then on, what is taken out has
    none any more. -/

namespace NSPluginWrapper.Lib.Table

variable {κ ι : Type*} [DecidableEq κ] {t : Table κ ι} {key key' : ι → Option κ} {k : κ} {i j : ι}

/-- The table has each thing under its key, and nothing that has no key. -/
def Indexes (t : Table κ ι) (key : ι → Option κ) : Prop := ∀ k i, t.lookup k = some i ↔ key i = some k

theorem Indexes.lookup (h : t.Indexes key) (hk : key i = some k) : t.lookup k = some i := (h k i).mpr hk

theorem Indexes.key_eq (h : t.Indexes key) (hl : t.lookup k = some i) : key i = some k := (h k i).mp hl

theorem Indexes.inj (h : t.Indexes key) (hi : key i = some k) (hj : key j = some k) : i = j :=
  Option.some.inj ((h.lookup hi).symm.trans (h.lookup hj))

theorem indexes_empty (h : ∀ i, key i = none) : Indexes (∅ : Table κ ι) key := by
  intro k i
  rw [h i, AList.lookup_empty]
  simp

/-- Only the keys matter. -/
theorem Indexes.congr (h : t.Indexes key) (hk : ∀ i, key' i = key i) : t.Indexes key' := by
  rwa [funext hk]

variable [DecidableEq ι]

/-- Something new comes under a key that is not in use. -/
theorem Indexes.insert (h : t.Indexes key) (hi : key i = none) (hk : t.lookup k = none) :
    Indexes (AList.insert k i t) (Function.update key i (some k)) := by
  intro k' j
  rw [lookup_insert]
  rcases eq_or_ne j i with rfl | hj
  · rw [Function.update_self]
    split
    · rename_i hk'
      simp [hk']
    · rename_i hk'
      have hno : t.lookup k' ≠ some j := fun hl => by
        rw [h.key_eq hl] at hi
        cases hi
      simp [hno, Ne.symm hk']
  · rw [Function.update_of_ne hj]
    split
    · rename_i hk'
      subst hk'
      refine iff_of_false (fun heq => hj (Option.some.inj heq).symm) fun hkey => ?_
      rw [h.lookup hkey] at hk
      cases hk
    · exact h k' j

/-- What is taken out has no key any more. -/
theorem Indexes.erase (h : t.Indexes key) (hi : key i = some k) :
    Indexes (AList.erase k t) (Function.update key i none) := by
  intro k' j
  rw [lookup_erase]
  rcases eq_or_ne j i with rfl | hj
  · rw [Function.update_self]
    split
    · simp
    · rename_i hk'
      refine iff_of_false (fun hl => hk' ?_) (by simp)
      rw [h.key_eq hl] at hi
      exact Option.some.inj hi
  · rw [Function.update_of_ne hj]
    split
    · rename_i hk'
      subst hk'
      exact iff_of_false (by simp) fun hkey => hj (h.inj hkey hi)
    · exact h k' j

end NSPluginWrapper.Lib.Table
