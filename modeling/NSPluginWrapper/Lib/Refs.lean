import Mathlib.Logic.Function.Basic

/-! Reference counts: cells that are freed when nothing refers to them any more. -/

namespace NSPluginWrapper.Lib

universe u v
variable {ι : Type u} {β : Type v} {count : β → Nat} {isFreed : β → Bool} {cells : ι → Option β} {refs refs' : ι → Nat}
  {i : ι} {c c' : β}

/-- Each cell has as its count the number of references to it, and is freed when that is 0; what is not there is not
    referred to. -/
structure Refs (count : β → Nat) (isFreed : β → Bool) (cells : ι → Option β) (refs : ι → Nat) : Prop where
  absent : ∀ i, cells i = none → refs i = 0
  count : ∀ i c, cells i = some c → count c = refs i
  freed : ∀ i c, cells i = some c → (isFreed c = true ↔ refs i = 0)

namespace Refs

/-- What is referred to is there. -/
theorem live (h : Refs count isFreed cells refs) (hi : refs i ≠ 0) :
    ∃ c, cells i = some c ∧ isFreed c = false ∧ count c = refs i := by
  cases hc : cells i with
  | none => exact absurd (h.absent i hc) hi
  | some c =>
    refine ⟨c, rfl, ?_, h.count i c hc⟩
    exact Bool.eq_false_iff.mpr fun hf => hi ((h.freed i c hc).mp hf)

theorem pos_of_live (h : Refs count isFreed cells refs) (hc : cells i = some c) (hf : isFreed c = false) : 0 < refs i := by
  refine Nat.pos_of_ne_zero fun hz => ?_
  rw [(h.freed i c hc).mpr hz] at hf
  cases hf

theorem congr (h : Refs count isFreed cells refs) (hr : ∀ i, refs' i = refs i) : Refs count isFreed cells refs' := by
  rwa [funext hr]

variable [DecidableEq ι]

/-- One cell and the references to it change. -/
theorem put (h : Refs count isFreed cells refs) (hother : ∀ j, j ≠ i → refs' j = refs j) (hc : count c' = refs' i)
    (hf : isFreed c' = true ↔ refs' i = 0) : Refs count isFreed (Function.update cells i (some c')) refs' where
  absent := by
    intro j hj
    by_cases hji : j = i
    · subst hji
      simp at hj
    · rw [Function.update_of_ne hji] at hj
      rw [hother j hji, h.absent j hj]
  count := by
    intro j c hj
    by_cases hji : j = i
    · subst hji
      rw [Function.update_self] at hj
      cases hj
      exact hc
    · rw [Function.update_of_ne hji] at hj
      rw [hother j hji, h.count j c hj]
  freed := by
    intro j c hj
    by_cases hji : j = i
    · subst hji
      rw [Function.update_self] at hj
      cases hj
      exact hf
    · rw [Function.update_of_ne hji] at hj
      rw [hother j hji, h.freed j c hj]

end Refs
end NSPluginWrapper.Lib
