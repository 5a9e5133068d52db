import Mathlib.Data.List.Basic

/-! Lists as stores of numbered cells, which `List.modify` updates one at a time. -/

namespace NSPluginWrapper.Lib

variable {α : Type*} {β : Type*} {f : α → α} {l : List α} {i : Nat}

/-- What an update does to a field of its cell it does to the list of the fields. -/
theorem map_modify {g : α → β} {f' : β → β} (h : ∀ a, g (f a) = f' (g a)) :
    (l.modify i f).map g = (l.map g).modify i f' := by
  apply List.ext_getElem?
  intro j
  rw [List.getElem?_map, List.getElem?_modify, List.getElem?_modify, List.getElem?_map]
  split
  · simp [Option.map_map, Function.comp_def, h]
  · simp

/-- An update that keeps a field keeps the list of the fields. -/
theorem map_modify_of_eq {g : α → β} (h : ∀ a, g (f a) = g a) : (l.modify i f).map g = l.map g :=
  (map_modify h).trans (List.modify_id i (l.map g))

/-- A field of any cell after an update of one, 0 where there is no cell. -/
theorem field_modify {g : α → Nat} (l : List α) (i j : Nat) (f : α → α) :
    (((l.modify i f)[j]?).map g).getD 0 = if j = i then ((l[i]?).map fun a => g (f a)).getD 0 else ((l[j]?).map g).getD 0 := by
  rw [List.getElem?_modify]
  by_cases hij : i = j
  · subst hij
    cases l[i]? <;> simp
  · simp [hij, Ne.symm hij]

/-- A property of every cell but one, to which the update brings that one too. -/
theorem forall_mem_modify {P : α → Prop} (hl : ∀ j a, j ≠ i → l[j]? = some a → P a)
    (hf : ∀ a, l[i]? = some a → P (f a)) : ∀ a ∈ l.modify i f, P a := by
  intro a ha
  obtain ⟨j, hj⟩ := List.mem_iff_getElem?.mp ha
  rw [List.getElem?_modify] at hj
  split at hj
  · rename_i hij
    subst hij
    obtain ⟨b, hb, rfl⟩ := Option.map_eq_some_iff.mp hj
    exact hf b hb
  · rename_i hij
    exact hl j a (Ne.symm hij) (by simpa using hj)

/-- An update changes a count by what it makes of its own cell. -/
theorem countP_modify {P : α → Bool} {a : α} (h : l[i]? = some a) :
    (l.modify i f).countP P + (P a).toNat = l.countP P + (P (f a)).toNat := by
  induction l generalizing i with
  | nil => cases h
  | cons b l ih =>
    cases i with
    | zero =>
      cases h
      rw [List.modify_zero_cons, List.countP_cons, List.countP_cons]
      cases P a <;> cases P (f a) <;> simp
    | succ i =>
      have hrest := ih (i := i) h
      rw [List.modify_succ_cons, List.countP_cons, List.countP_cons]
      omega

/-- Where at most one cell counts, two that count are one. -/
theorem eq_of_countP_le_one {P : α → Bool} {a b : α} {j : Nat} (h : l.countP P ≤ 1) (hi : l[i]? = some a)
    (hj : l[j]? = some b) (ha : P a = true) (hb : P b = true) : i = j := by
  induction l generalizing i j with
  | nil => cases hi
  | cons c l ih =>
    rw [List.countP_cons] at h
    -- A second cell that counts makes two of them.
    have hrest {k : Nat} {d : α} (hk : l[k]? = some d) (hd : P d = true) : 0 < l.countP P :=
      List.countP_pos_iff.mpr ⟨d, List.mem_of_getElem? hk, hd⟩
    cases i with
    | zero =>
      cases hi
      rw [if_pos ha] at h
      cases j with
      | zero => rfl
      | succ j =>
        have := hrest hj hb
        omega
    | succ i =>
      cases j with
      | zero =>
        cases hj
        rw [if_pos hb] at h
        have := hrest hi ha
        omega
      | succ j => exact congrArg _ (ih (by omega) hi hj)

end NSPluginWrapper.Lib
