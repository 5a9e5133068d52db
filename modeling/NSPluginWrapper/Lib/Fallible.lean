import Mathlib.Logic.Basic

/-! Programs that may stop with an error: what a run that does not stop has gone through, and which errors there are. -/

namespace NSPluginWrapper.Lib

variable {ε α β : Type} {x y : Except ε α} {f : α → Except ε β} {p : ε → Prop}

theorem bind_ok {b : β} : x >>= f = .ok b ↔ ∃ a, x = .ok a ∧ f a = .ok b := by
  cases x with
  | error e => simp [bind, Except.bind]
  | ok a => simp [bind, Except.bind]

theorem bind_eq_ok {b : β} : x.bind f = .ok b ↔ ∃ a, x = .ok a ∧ f a = .ok b := bind_ok

theorem map_eq_ok {g : α → β} {b : β} : x.map g = .ok b ↔ ∃ a, x = .ok a ∧ g a = b := by
  cases x with
  | error e => simp [Except.map]
  | ok a => simp [Except.map]

/-- Every error is one of some. -/
def StopsWith (p : ε → Prop) (x : Except ε α) : Prop := ∀ e, x = .error e → p e

namespace StopsWith

theorem ok (a : α) : StopsWith p (.ok a : Except ε α) := by
  rintro e ⟨⟩

theorem error {e : ε} (h : p e) : StopsWith p (.error e : Except ε α) := by
  rintro _ ⟨⟩
  exact h

theorem bind (hx : StopsWith p x) (hf : ∀ a, StopsWith p (f a)) : StopsWith p (x >>= f) := by
  cases x with
  | error e =>
    rintro _ ⟨⟩
    exact hx e rfl
  | ok a => exact hf a

theorem ite {c : Prop} [Decidable c] (hx : StopsWith p x) (hy : StopsWith p y) : StopsWith p (if c then x else y) := by
  split
  · exact hx
  · exact hy

end StopsWith

end NSPluginWrapper.Lib
