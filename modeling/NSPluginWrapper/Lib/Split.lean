import Mathlib.Data.List.Basic

/-! The parts of a text between its delimiters, where an empty text has none. -/

namespace NSPluginWrapper.Lib

variable {α : Type} {str part : List α} {parts : List (List α)} {delimiter : α}

/-- The text of the parts, and a delimiter more. -/
theorem intercalate_append_nil (h : parts ≠ []) :
    [delimiter].intercalate parts ++ [delimiter] = [delimiter].intercalate (parts ++ [[]]) := by
  induction parts with
  | nil => exact absurd rfl h
  | cons part parts ih =>
    rw [List.cons_append, List.intercalate_cons_of_ne_nil (List.append_ne_nil_of_right_ne_nil parts (List.cons_ne_nil [] []))]
    cases parts with
    | nil => rw [List.intercalate_singleton, List.nil_append, List.intercalate_singleton, List.append_nil]
    | cons next parts =>
      rw [← ih (List.cons_ne_nil next parts), List.intercalate_cons_cons, List.append_assoc]

theorem mem_intercalate {a : α} (h : a ∈ [delimiter].intercalate parts) : a = delimiter ∨ ∃ part ∈ parts, a ∈ part := by
  induction parts with
  | nil => exact absurd h List.not_mem_nil
  | cons part parts ih =>
    cases parts with
    | nil =>
      rw [List.intercalate_singleton] at h
      exact .inr ⟨part, List.mem_cons_self, h⟩
    | cons next parts =>
      rw [List.intercalate_cons_cons, List.mem_append, List.mem_append, List.mem_singleton] at h
      rcases h with (h | h) | h
      · exact .inr ⟨part, List.mem_cons_self, h⟩
      · exact .inl h
      · rcases ih h with h | ⟨other, hother, h⟩
        · exact .inl h
        · exact .inr ⟨other, List.mem_cons_of_mem part hother, h⟩

variable [DecidableEq α]

def splitParts (str : List α) (delimiter : α) : List (List α) := if str = [] then [] else str.splitOn delimiter

theorem splitParts_of_ne_nil (h : str ≠ []) : splitParts str delimiter = str.splitOn delimiter := by
  rw [splitParts, if_neg h]

/-- What is joined is split again, as long as there is any of it. -/
theorem splitParts_intercalate (h : ∀ part ∈ parts, delimiter ∉ part) (hne : [delimiter].intercalate parts ≠ []) :
    splitParts ([delimiter].intercalate parts) delimiter = parts := by
  rw [splitParts_of_ne_nil hne]
  apply List.splitOn_intercalate delimiter h
  rintro rfl
  exact hne rfl

/-- A part is a piece of the text without a delimiter. -/
theorem of_mem_splitOn (h : part ∈ str.splitOn delimiter) : delimiter ∉ part ∧ ∀ a ∈ part, a ∈ str := by
  induction str generalizing part with
  | nil =>
    rw [List.splitOn_nil, List.mem_singleton] at h
    subst h
    exact ⟨List.not_mem_nil, fun a ha => ha⟩
  | cons b str ih =>
    rw [List.splitOn_cons_eq_if_modifyHead] at h
    by_cases hb : b = delimiter
    · rw [if_pos (by simpa using hb), List.mem_cons] at h
      rcases h with rfl | h
      · exact ⟨List.not_mem_nil, fun a ha => absurd ha List.not_mem_nil⟩
      · exact ⟨(ih h).1, fun a ha => List.mem_cons_of_mem b ((ih h).2 a ha)⟩
    · rw [if_neg (by simpa using hb)] at h
      obtain ⟨first, rest, hsplit⟩ := List.exists_cons_of_ne_nil (List.splitOn_ne_nil delimiter str)
      rw [hsplit, List.modifyHead_cons, List.mem_cons] at h
      rw [hsplit] at ih
      rcases h with rfl | h
      · obtain ⟨hplain, hsub⟩ := ih List.mem_cons_self
        refine ⟨fun hmem => ?_, fun a ha => ?_⟩
        · rcases List.mem_cons.mp hmem with rfl | hmem
          · exact hb rfl
          · exact hplain hmem
        · rcases List.mem_cons.mp ha with rfl | ha
          · exact List.mem_cons_self
          · exact List.mem_cons_of_mem b (hsub a ha)
      · obtain ⟨hplain, hsub⟩ := ih (List.mem_cons_of_mem first h)
        exact ⟨hplain, fun a ha => List.mem_cons_of_mem b (hsub a ha)⟩

theorem of_mem_splitParts (h : part ∈ splitParts str delimiter) : delimiter ∉ part ∧ ∀ a ∈ part, a ∈ str := by
  rw [splitParts] at h
  split at h
  · exact absurd h List.not_mem_nil
  · exact of_mem_splitOn h

end NSPluginWrapper.Lib
