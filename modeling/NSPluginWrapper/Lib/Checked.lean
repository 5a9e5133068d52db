import Mathlib.Data.List.Basic

/-! Programs that say what they rely on. Between the operations of a state monad stand checks, which the program is
    wrong without, and notes, which tell facts of its input. `Judged` says that a run goes wrong just where its input
    has a fact that is not allowed, `Refines` that it is otherwise a run of another program, and the rules compose
    them. -/

namespace NSPluginWrapper.Lib

/-- A program over the operations of `EStateM ε σ`, with notes of type `φ`. -/
inductive Checked (ε σ φ α : Type) : Type 1 where
  | done (a : α)
  | op {β : Type} (r : EStateM ε σ β) (next : β → Checked ε σ φ α)
  | note (f : φ) (next : Checked ε σ φ α)
  | check (p : Bool) (next : Checked ε σ φ α)

namespace Checked
variable {ε σ φ α β : Type}

def bind : Checked ε σ φ α → (α → Checked ε σ φ β) → Checked ε σ φ β
  | done a, k => k a
  | op r next, k => op r fun b => (next b).bind k
  | note f next, k => note f (next.bind k)
  | check p next, k => check p (next.bind k)

instance : Monad (Checked ε σ φ) where
  pure := done
  bind := bind

def lift (r : EStateM ε σ α) : Checked ε σ φ α := op r done

/-- A check that is not met ends the run with `wrong`. -/
def run (wrong : ε) : Checked ε σ φ α → EStateM ε σ α
  | done a => pure a
  | op r next => r >>= fun b => (next b).run wrong
  | note _ next => next.run wrong
  | check p next => if p then next.run wrong else throw wrong

/-- The facts of its input that a run comes to. -/
def notes : Checked ε σ φ α → σ → List φ
  | done _, _ => []
  | op r next, s =>
    match r s with
    | .ok b t => (next b).notes t
    | .error _ _ => []
  | note f next, s => f :: next.notes s
  | check p next, s => if p then next.notes s else []

variable {wrong : ε} {inv : σ → Prop} {ok : φ → Prop}

/-- The run goes wrong. -/
def Wrong (wrong : ε) (r : EStateM ε σ α) (s : σ) : Prop := ∃ t, r s = .error wrong t

/-- Where `inv` holds, which runs keep, a run goes wrong exactly if it comes to a fact that is not allowed. -/
def Judged (wrong : ε) (inv : σ → Prop) (ok : φ → Prop) (d : Checked ε σ φ α) : Prop :=
  ∀ s, inv s → (Wrong wrong (d.run wrong) s ↔ ∃ f ∈ d.notes s, ¬ok f) ∧ ∀ a t, d.run wrong s = .ok a t → inv t

/-- An operation that never goes wrong, and what it gives. -/
def Sound (wrong : ε) (inv : σ → Prop) (post : α → Prop) (r : EStateM ε σ α) : Prop :=
  ∀ s, inv s → ¬Wrong wrong r s ∧ ∀ a t, r s = .ok a t → inv t ∧ post a

/-! ### Operations -/

theorem Sound.pure {post : α → Prop} {a : α} (ha : post a) : Sound wrong inv post (pure a : EStateM ε σ α) := by
  intro s hs
  refine ⟨fun ⟨t, ht⟩ => (by cases ht), fun b t ht => ?_⟩
  cases ht
  exact ⟨hs, ha⟩

theorem Sound.throw {post : α → Prop} {e : ε} (he : e ≠ wrong) : Sound wrong inv post (throw e : EStateM ε σ α) := by
  intro s _
  refine ⟨fun ⟨t, ht⟩ => ?_, fun b t ht => by cases ht⟩
  cases ht
  exact he rfl

theorem Sound.bind {post : α → Prop} {post' : β → Prop} {r : EStateM ε σ α} {k : α → EStateM ε σ β}
    (hr : Sound wrong inv post r) (hk : ∀ a, post a → Sound wrong inv post' (k a)) :
    Sound wrong inv post' (r >>= k) := by
  intro s hs
  obtain ⟨hsafe, hpost⟩ := hr s hs
  simp only [Wrong, Bind.bind, EStateM.bind] at hsafe ⊢
  cases h : r s with
  | ok a t =>
    obtain ⟨ht, ha⟩ := hpost a t h
    exact hk a ha t ht
  | error e t =>
    refine ⟨fun ⟨u, hu⟩ => ?_, fun b u hu => by cases hu⟩
    cases hu
    exact hsafe ⟨t, h⟩

theorem Sound.map {post : α → Prop} {r : EStateM ε σ α} (hr : Sound wrong inv post r) {post' : β → Prop} {f : α → β}
    (hf : ∀ a, post a → post' (f a)) : Sound wrong inv post' (f <$> r) := by
  intro s hs
  obtain ⟨hsafe, hpost⟩ := hr s hs
  simp only [Wrong, Functor.map, EStateM.map] at hsafe ⊢
  cases h : r s with
  | ok a t =>
    obtain ⟨ht, ha⟩ := hpost a t h
    refine ⟨fun ⟨u, hu⟩ => (by cases hu), fun b u hu => ?_⟩
    cases hu
    exact ⟨ht, hf a ha⟩
  | error e t =>
    refine ⟨fun ⟨u, hu⟩ => ?_, fun b u hu => by cases hu⟩
    cases hu
    exact hsafe ⟨t, h⟩

/-! ### Programs -/

theorem Judged.done (a : α) : Judged wrong inv ok (.done a) := by
  intro s hs
  refine ⟨⟨fun ⟨t, ht⟩ => (by cases ht), fun ⟨f, hf, _⟩ => (by cases hf)⟩, fun a' t ht => ?_⟩
  cases ht
  exact hs

theorem Judged.op {post : β → Prop} {r : EStateM ε σ β} {next : β → Checked ε σ φ α} (hr : Sound wrong inv post r)
    (hnext : ∀ b, post b → Judged wrong inv ok (next b)) : Judged wrong inv ok (.op r next) := by
  intro s hs
  obtain ⟨hsafe, hpost⟩ := hr s hs
  cases h : r s with
  | ok b t =>
    obtain ⟨ht, hb⟩ := hpost b t h
    have hrun : (Checked.op r next).run wrong s = (next b).run wrong t := by
      simp only [run, Bind.bind, EStateM.bind, h]
    have hnotes : (Checked.op r next).notes s = (next b).notes t := by simp only [notes, h]
    rw [Wrong, hrun, hnotes]
    exact hnext b hb t ht
  | error e t =>
    have hrun : (Checked.op r next).run wrong s = .error e t := by simp only [run, Bind.bind, EStateM.bind, h]
    have hnotes : (Checked.op r next).notes s = [] := by simp only [notes, h]
    rw [Wrong, hrun, hnotes]
    refine ⟨⟨fun ⟨u, hu⟩ => ?_, fun ⟨f, hf, _⟩ => (by cases hf)⟩, fun a u hu => by cases hu⟩
    cases hu
    exact absurd ⟨t, h⟩ hsafe

/-- A check that is met. -/
theorem Judged.check {p : Bool} {d : Checked ε σ φ α} (hp : p = true) (hd : Judged wrong inv ok d) :
    Judged wrong inv ok (.check p d) := by
  subst hp
  exact hd

/-- A check that is met just where the fact noted before it is allowed. -/
theorem Judged.note_check {f : φ} {p : Bool} {d : Checked ε σ φ α} (hp : p = true ↔ ok f)
    (hd : p = true → Judged wrong inv ok d) : Judged wrong inv ok (.note f (.check p d)) := by
  intro s hs
  cases p with
  | true =>
    obtain ⟨hiff, hinv⟩ := hd rfl s hs
    refine ⟨hiff.trans ⟨fun ⟨g, hg, hbad⟩ => ⟨g, List.mem_cons_of_mem _ hg, hbad⟩, fun ⟨g, hg, hbad⟩ => ?_⟩, hinv⟩
    rcases List.mem_cons.mp hg with rfl | hg
    · exact absurd (hp.mp rfl) hbad
    · exact ⟨g, hg, hbad⟩
  | false =>
    have hbad : ¬ok f := fun hok => Bool.false_ne_true (hp.mpr hok)
    exact ⟨⟨fun _ => ⟨f, List.mem_cons_self, hbad⟩, fun _ => ⟨s, rfl⟩⟩, fun a t ht => by cases ht⟩

theorem run_bind (d : Checked ε σ φ α) (k : α → Checked ε σ φ β) :
    (d >>= k).run wrong = d.run wrong >>= fun a => (k a).run wrong := by
  induction d with
  | done a => rfl
  | op r next ih =>
    funext s
    change ((Checked.op r fun b => (next b).bind k).run wrong) s = _
    simp only [run, Bind.bind, EStateM.bind] at ih ⊢
    cases h : r s with
    | ok b t => exact congrFun (ih b) t
    | error e t => rfl
  | note f next ih => exact ih
  | check p next ih =>
    cases p with
    | true => exact ih
    | false => rfl

theorem notes_bind (d : Checked ε σ φ α) (k : α → Checked ε σ φ β) (s : σ) : (d >>= k).notes s =
    d.notes s ++ match d.run wrong s with
      | .ok a t => (k a).notes t
      | .error _ _ => [] := by
  induction d generalizing s with
  | done a => rfl
  | op r next ih =>
    change (Checked.op r fun b => (next b).bind k).notes s = _
    simp only [run, notes, Bind.bind, EStateM.bind] at ih ⊢
    cases h : r s with
    | ok b t => exact ih b t
    | error e t => rfl
  | note f next ih => exact congrArg (f :: ·) (ih s)
  | check p next ih =>
    cases p with
    | true => exact ih s
    | false => rfl

theorem Judged.bind {d : Checked ε σ φ α} {k : α → Checked ε σ φ β} (hd : Judged wrong inv ok d)
    (hk : ∀ a, Judged wrong inv ok (k a)) : Judged wrong inv ok (d >>= k) := by
  intro s hs
  obtain ⟨hiff, hinv⟩ := hd s hs
  have hnotes := @notes_bind _ _ _ _ _ wrong d k s
  cases h : d.run wrong s with
  | ok a t =>
    have hgood : ∀ f ∈ d.notes s, ok f := fun f hf => by
      by_contra hbad
      obtain ⟨u, hu⟩ := hiff.mpr ⟨f, hf, hbad⟩
      rw [h] at hu
      cases hu
    have hrun : (d >>= k).run wrong s = (k a).run wrong t := by
      rw [run_bind]
      simp only [Bind.bind, EStateM.bind, h]
    rw [h] at hnotes
    obtain ⟨hiff', hinv'⟩ := hk a t (hinv a t h)
    rw [Wrong, hrun, hnotes]
    refine ⟨hiff'.trans ⟨fun ⟨f, hf, hbad⟩ => ⟨f, List.mem_append_right _ hf, hbad⟩, fun ⟨f, hf, hbad⟩ => ?_⟩, hinv'⟩
    rcases List.mem_append.mp hf with hf | hf
    · exact absurd (hgood f hf) hbad
    · exact ⟨f, hf, hbad⟩
  | error e t =>
    have hrun : (d >>= k).run wrong s = .error e t := by
      rw [run_bind]
      simp only [Bind.bind, EStateM.bind, h]
    rw [h] at hnotes
    simp only [List.append_nil] at hnotes
    rw [Wrong, hrun, hnotes]
    refine ⟨⟨fun ⟨u, hu⟩ => ?_, fun hbad => ?_⟩, fun a u hu => by cases hu⟩
    · cases hu
      exact hiff.mp ⟨t, h⟩
    · obtain ⟨u, hu⟩ := hiff.mpr hbad
      rw [h] at hu
      cases hu
      exact ⟨_, rfl⟩

theorem Judged.lift {post : α → Prop} {r : EStateM ε σ α} (hr : Sound wrong inv post r) :
    Judged wrong inv ok (Checked.lift r) := Judged.op hr fun b _ => .done b

theorem Judged.map {d : Checked ε σ φ α} (hd : Judged wrong inv ok d) (f : α → β) : Judged wrong inv ok (f <$> d) :=
  hd.bind fun a => .done (f a)

/-! ### Programs that do not say what they rely on -/

/-- Where neither goes wrong, a run is one of `r`. -/
def Refines (wrong : ε) (d : Checked ε σ φ α) (r : EStateM ε σ α) : Prop :=
  ∀ s, Wrong wrong (d.run wrong) s ∨ Wrong wrong r s ∨ d.run wrong s = r s

theorem Refines.done (a : α) : Refines wrong (.done a : Checked ε σ φ α) (pure a) := fun _ => .inr (.inr rfl)

theorem Refines.note_check {f : φ} {p : Bool} {d : Checked ε σ φ α} {r : EStateM ε σ α}
    (h : p = true → Refines wrong d r) : Refines wrong (.note f (.check p d)) r := by
  cases p with
  | true => exact h rfl
  | false => exact fun s => .inl ⟨s, rfl⟩

theorem Refines.check {p : Bool} {d : Checked ε σ φ α} {r : EStateM ε σ α} (h : p = true → Refines wrong d r) :
    Refines wrong (.check p d) r := by
  cases p with
  | true => exact h rfl
  | false => exact fun s => .inl ⟨s, rfl⟩

theorem Refines.lift (r : EStateM ε σ α) : Refines wrong (Checked.lift r : Checked ε σ φ α) r := by
  intro s
  simp only [Checked.lift, Wrong, run, Bind.bind, EStateM.bind]
  cases r s with
  | ok b t => exact .inr (.inr rfl)
  | error e t => exact .inr (.inr rfl)

theorem Refines.bind {d : Checked ε σ φ α} {r : EStateM ε σ α} {k : α → Checked ε σ φ β} {k' : α → EStateM ε σ β}
    (hd : Refines wrong d r) (hk : ∀ a, Refines wrong (k a) (k' a)) : Refines wrong (d >>= k) (r >>= k') := by
  intro s
  rw [run_bind]
  rcases hd s with ⟨t, ht⟩ | ⟨t, ht⟩ | h
  · exact .inl ⟨t, by simp only [Bind.bind, EStateM.bind, ht]⟩
  · exact .inr (.inl ⟨t, by simp only [Bind.bind, EStateM.bind, ht]⟩)
  · simp only [Wrong, Bind.bind, EStateM.bind, h]
    cases r s with
    | ok a t => exact hk a t
    | error e t => exact .inr (.inr rfl)

theorem Refines.map {d : Checked ε σ φ α} {r : EStateM ε σ α} (hd : Refines wrong d r) (f : α → β) :
    Refines wrong (f <$> d) (f <$> r) := by
  intro s
  change Wrong wrong ((d >>= fun a => .done (f a)).run wrong) s ∨ _ ∨ (d >>= fun a => .done (f a)).run wrong s = _
  rw [run_bind]
  rcases hd s with ⟨t, ht⟩ | ⟨t, ht⟩ | h
  · exact .inl ⟨t, by simp only [Bind.bind, EStateM.bind, ht]⟩
  · exact .inr (.inl ⟨t, by simp only [Functor.map, EStateM.map, ht]⟩)
  · refine .inr (.inr ?_)
    simp only [Bind.bind, EStateM.bind, Functor.map, EStateM.map, h]
    cases r s <;> rfl

end Checked
end NSPluginWrapper.Lib
