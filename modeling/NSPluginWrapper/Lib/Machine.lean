import Mathlib.Logic.Relation

/-! Labelled transition systems: reachable states, runs whose steps all meet a guard, and the rules that
    carry a fact of one step over a whole run. -/

namespace NSPluginWrapper.Lib

universe u v

/-- A transition system with labelled steps. -/
structure Machine (σ : Type u) (ε : Type v) where
  init : σ → Prop
  step : σ → ε → σ → Prop

namespace Machine
variable {σ : Type u} {ε : Type v}

/-- The states a machine reaches. -/
inductive Reachable (m : Machine σ ε) : σ → Prop where
  | init {s : σ} : m.init s → Reachable m s
  | step {s t : σ} {e : ε} : Reachable m s → m.step s e t → Reachable m t

/-- The machine that takes only the steps meeting `guard`, which reads the state before the step. -/
def restrict (m : Machine σ ε) (guard : σ → ε → Prop) : Machine σ ε where
  init := m.init
  step s e t := guard s e ∧ m.step s e t

/-- One step of a machine, whatever its label. -/
def Next (m : Machine σ ε) (s t : σ) : Prop := ∃ e, m.step s e t

/-- `t` follows from `s` by any number of steps. -/
def Leads (m : Machine σ ε) : σ → σ → Prop := Relation.ReflTransGen m.Next

variable {m : Machine σ ε} {guard guard' : σ → ε → Prop} {s t u : σ} {e : ε}

/-- One more step, by its label. -/
theorem Reachable.next (h : m.Reachable s) (e : ε) (hs : m.step s e t) : m.Reachable t := h.step hs

/-- An invariant holds of every reachable state. -/
theorem Reachable.invariant (inv : σ → Prop) (base : ∀ s, m.init s → inv s)
    (keep : ∀ s e t, m.Reachable s → inv s → m.step s e t → inv t) (h : m.Reachable s) : inv s := by
  induction h with
  | init hs => exact base _ hs
  | step hr hs ih => exact keep _ _ _ hr ih hs

/-- A fact that every step keeps holds after any number of steps. -/
theorem Leads.invariant (inv : σ → Prop) (keep : ∀ s e t, inv s → m.step s e t → inv t) (h : m.Leads s t)
    (hs : inv s) : inv t := by
  induction h with
  | refl => exact hs
  | tail _ hn ih =>
    obtain ⟨e, he⟩ := hn
    exact keep _ _ _ ih he

theorem Leads.refl (s : σ) : m.Leads s s := Relation.ReflTransGen.refl

theorem Leads.of_step (h : m.step s e t) : m.Leads s t := Relation.ReflTransGen.single ⟨e, h⟩

theorem Leads.tail (h : m.Leads s t) (hs : m.step t e u) : m.Leads s u := Relation.ReflTransGen.tail h ⟨e, hs⟩

theorem Reachable.leads (hr : m.Reachable s) (h : m.Leads s t) : m.Reachable t :=
  h.invariant m.Reachable (fun _ _ _ hr hs => hr.step hs) hr

/-- A guarded run is a run. -/
theorem Reachable.of_restrict (h : (m.restrict guard).Reachable s) : m.Reachable s := by
  induction h with
  | init hs => exact .init hs
  | step _ hs ih => exact ih.step hs.2

/-- A stronger guard allows fewer runs. -/
theorem Reachable.restrict_mono (hg : ∀ s e, guard s e → guard' s e) (h : (m.restrict guard).Reachable s) :
    (m.restrict guard').Reachable s := by
  induction h with
  | init hs => exact .init hs
  | step _ hs ih => exact ih.step ⟨hg _ _ hs.1, hs.2⟩

end Machine
end NSPluginWrapper.Lib
