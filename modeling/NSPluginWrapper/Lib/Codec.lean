import Mathlib.Data.List.Basic

/-! Writers and readers of byte streams. A writer appends bytes to what a sink has taken, a reader takes
    bytes from the front of what a source still holds; both may fail and keep their state then. `Writes`
    and `Reads` say what they do while their stream is live, and the rules below compose them. -/

namespace NSPluginWrapper.Lib

/-- What a state that takes bytes has taken, and when it goes on taking them. -/
structure Sink (σ : Type) where
  taken : σ → List UInt8
  live : σ → Prop

/-- What a state that gives bytes still holds, and when it goes on giving them. -/
structure Source (σ : Type) where
  held : σ → List UInt8
  live : σ → Prop

section Rules
variable {ε σ α β : Type} {K : Sink σ} {S : Source σ}

/-- On a live sink `w` succeeds with `a` and the sink takes exactly `bs`. -/
def Writes (K : Sink σ) (w : EStateM ε σ α) (bs : List UInt8) (a : α) : Prop :=
  ∀ s, K.live s → ∃ t, w s = .ok a t ∧ K.live t ∧ K.taken t = K.taken s ++ bs

/-- On a live source that holds `bs` in front, `r` succeeds with `a` and takes exactly `bs`. -/
def Reads (S : Source σ) (r : EStateM ε σ α) (bs : List UInt8) (a : α) : Prop :=
  ∀ s rest, S.live s → S.held s = bs ++ rest → ∃ t, r s = .ok a t ∧ S.live t ∧ S.held t = rest

theorem Writes.pure (a : α) : Writes (ε := ε) K (pure a) [] a := fun s hs =>
  ⟨s, rfl, hs, (List.append_nil _).symm⟩

theorem Writes.bind {w : EStateM ε σ α} {f : α → EStateM ε σ β} {bs cs : List UInt8} {a : α} {b : β}
    (hw : Writes K w bs a) (hf : Writes K (f a) cs b) : Writes K (w >>= f) (bs ++ cs) b := fun s hs => by
  obtain ⟨t, ht, htl, hbs⟩ := hw s hs
  obtain ⟨u, hu, hul, hcs⟩ := hf t htl
  refine ⟨u, ?_, hul, by rw [hcs, hbs, List.append_assoc]⟩
  simp only [Bind.bind, EStateM.bind, ht, hu]

theorem Reads.pure (a : α) : Reads (ε := ε) S (pure a) [] a := fun s _ hs hbs => ⟨s, rfl, hs, hbs⟩

theorem Reads.bind {r : EStateM ε σ α} {f : α → EStateM ε σ β} {bs cs : List UInt8} {a : α} {b : β}
    (hr : Reads S r bs a) (hf : Reads S (f a) cs b) : Reads S (r >>= f) (bs ++ cs) b := fun s rest hs hbs => by
  obtain ⟨t, ht, htl, hrest⟩ := hr s (cs ++ rest) hs (by rw [hbs, List.append_assoc])
  obtain ⟨u, hu, hul, hrest'⟩ := hf t rest htl hrest
  refine ⟨u, ?_, hul, hrest'⟩
  simp only [Bind.bind, EStateM.bind, ht, hu]

/-- A last step that only computes. -/
theorem Reads.map {r : EStateM ε σ α} {bs : List UInt8} {a : α} (hr : Reads S r bs a) (f : α → β) :
    Reads S (f <$> r) bs (f a) := fun s rest hs hbs => by
  obtain ⟨t, ht, htl, hrest⟩ := hr s rest hs hbs
  refine ⟨t, ?_, htl, hrest⟩
  simp only [Functor.map, EStateM.map, ht]

/-- A last step that gives back what was read. -/
theorem Reads.map_eq {r : EStateM ε σ α} {bs : List UInt8} {a : α} (hr : Reads S r bs a) {f : α → β} {b : β}
    (h : f a = b) : Reads S (f <$> r) bs b := h ▸ hr.map f

/-- A step that takes nothing does not show in what is written. -/
theorem Writes.bind_nil {w : EStateM ε σ α} {f : α → EStateM ε σ β} {cs : List UInt8} {a : α} {b : β}
    (hw : Writes K w [] a) (hf : Writes K (f a) cs b) : Writes K (w >>= f) cs b := hw.bind hf

theorem Writes.bind_pure {w : EStateM ε σ α} {f : α → EStateM ε σ β} {bs : List UInt8} {a : α} {b : β}
    (hw : Writes K w bs a) (hf : Writes K (f a) [] b) : Writes K (w >>= f) bs b := by
  have h := hw.bind hf
  rwa [List.append_nil] at h

theorem Reads.bind_nil {r : EStateM ε σ α} {f : α → EStateM ε σ β} {cs : List UInt8} {a : α} {b : β}
    (hr : Reads S r [] a) (hf : Reads S (f a) cs b) : Reads S (r >>= f) cs b := hr.bind hf

theorem Reads.bind_pure {r : EStateM ε σ α} {f : α → EStateM ε σ β} {bs : List UInt8} {a : α} {b : β}
    (hr : Reads S r bs a) (hf : Reads S (f a) [] b) : Reads S (r >>= f) bs b := by
  have h := hr.bind hf
  rwa [List.append_nil] at h

/-! ### Lists -/

/-- Writes the values of a list in order, the first one at index `i`. -/
def writeFrom (w : Nat → α → EStateM ε σ Unit) : Nat → List α → EStateM ε σ Unit
  | _, [] => Pure.pure ()
  | i, x :: xs => do
    w i x
    writeFrom w (i + 1) xs

/-- Reads `n` values in order, the first one at index `i`. -/
def readFrom (r : Nat → EStateM ε σ α) : Nat → Nat → EStateM ε σ (List α)
  | _, 0 => Pure.pure []
  | i, n + 1 => do
    let x ← r i
    let xs ← readFrom r (i + 1) n
    Pure.pure (x :: xs)

/-! ### Writers that stop -/

/-- On a live sink `w` stops with the error `e`. -/
def Stops (K : Sink σ) (w : EStateM ε σ α) (e : ε) : Prop :=
  ∀ s, K.live s → ∃ t, w s = .error e t

variable {e : ε}

theorem Stops.bind {w : EStateM ε σ α} (hw : Stops K w e) (f : α → EStateM ε σ β) : Stops K (w >>= f) e := fun s hs => by
  obtain ⟨t, ht⟩ := hw s hs
  exact ⟨t, by simp only [Bind.bind, EStateM.bind, ht]⟩

theorem Writes.stops {w : EStateM ε σ α} {f : α → EStateM ε σ β} {bs : List UInt8} {a : α} (hw : Writes K w bs a)
    (hf : Stops K (f a) e) : Stops K (w >>= f) e := fun s hs => by
  obtain ⟨t, ht, htl, -⟩ := hw s hs
  obtain ⟨u, hu⟩ := hf t htl
  exact ⟨u, by simp only [Bind.bind, EStateM.bind, ht, hu]⟩

/-- A list stops at its index `j` when the values before are written. -/
theorem Stops.at {w : Nat → α → EStateM ε σ Unit} (xs : List α) (i j : Nat) (hj : j < xs.length)
    (hbefore : ∀ x ∈ xs, ∀ k < i + j, ∃ bs, Writes K (w k x) bs ()) (hstop : ∀ x ∈ xs, Stops K (w (i + j) x) e) :
    Stops K (writeFrom w i xs) e := by
  induction xs generalizing i j with
  | nil => exact absurd hj (Nat.not_lt_zero j)
  | cons x xs ih =>
    have hx : x ∈ x :: xs := List.mem_cons_self ..
    cases j with
    | zero => exact (hstop x hx).bind _
    | succ j =>
      have hsum : i + (j + 1) = i + 1 + j := by omega
      rw [hsum] at hbefore hstop
      obtain ⟨bs, hw⟩ := hbefore x hx i (by omega)
      exact hw.stops (ih (i + 1) j (Nat.lt_of_succ_lt_succ hj) (fun y hy => hbefore y (List.mem_cons_of_mem _ hy))
        fun y hy => hstop y (List.mem_cons_of_mem _ hy))

/-- On a live source that holds `bs` in front, `r` stops with one of the errors `E`. -/
def Rejects (S : Source σ) (r : EStateM ε σ α) (bs : List UInt8) (E : ε → Prop) : Prop :=
  ∀ s rest, S.live s → S.held s = bs ++ rest → ∃ e t, r s = .error e t ∧ E e

variable {E : ε → Prop}

theorem Rejects.throw (h : E e) (bs : List UInt8) : Rejects (α := α) S (throw e) bs E := fun s _ _ _ => ⟨e, s, rfl, h⟩

theorem Rejects.bind {r : EStateM ε σ α} {bs : List UInt8} (hr : Rejects S r bs E) (f : α → EStateM ε σ β) :
    Rejects S (r >>= f) bs E := fun s rest hs hbs => by
  obtain ⟨e, t, ht, he⟩ := hr s rest hs hbs
  exact ⟨e, t, by simp only [Bind.bind, EStateM.bind, ht], he⟩

theorem Reads.rejects {r : EStateM ε σ α} {f : α → EStateM ε σ β} {bs cs : List UInt8} {a : α} (hr : Reads S r bs a)
    (hf : Rejects S (f a) cs E) : Rejects S (r >>= f) (bs ++ cs) E := fun s rest hs hbs => by
  obtain ⟨t, ht, htl, hrest⟩ := hr s (cs ++ rest) hs (by rw [hbs, List.append_assoc])
  obtain ⟨e, u, hu, he⟩ := hf t rest htl hrest
  exact ⟨e, u, by simp only [Bind.bind, EStateM.bind, ht, hu], he⟩

/-- More bytes behind change nothing. -/
theorem Rejects.append {r : EStateM ε σ α} {bs : List UInt8} (hr : Rejects S r bs E) (cs : List UInt8) :
    Rejects S r (bs ++ cs) E := fun s rest hs hbs => hr s (cs ++ rest) hs (by rw [hbs, List.append_assoc])

/-- On a live source that holds `bs` in front, `r` succeeds with `a` and takes exactly `bs`, or stops with one of
    the errors `E`. -/
def Tries (S : Source σ) (r : EStateM ε σ α) (bs : List UInt8) (a : α) (E : ε → Prop) : Prop :=
  ∀ s rest, S.live s → S.held s = bs ++ rest →
    (∃ t, r s = .ok a t ∧ S.live t ∧ S.held t = rest) ∨ ∃ e t, r s = .error e t ∧ E e

theorem Reads.tries {r : EStateM ε σ α} {bs : List UInt8} {a : α} (hr : Reads S r bs a) : Tries S r bs a E :=
  fun s rest hs hbs => Or.inl (hr s rest hs hbs)

theorem Tries.bind {r : EStateM ε σ α} {f : α → EStateM ε σ β} {bs cs : List UInt8} {a : α} {b : β}
    (hr : Tries S r bs a E) (hf : Tries S (f a) cs b E) : Tries S (r >>= f) (bs ++ cs) b E := fun s rest hs hbs => by
  rcases hr s (cs ++ rest) hs (by rw [hbs, List.append_assoc]) with ⟨t, ht, htl, hrest⟩ | ⟨e, t, ht, he⟩
  · rcases hf t rest htl hrest with ⟨u, hu, hul, hrest'⟩ | ⟨e, u, hu, he⟩
    · exact Or.inl ⟨u, by simp only [Bind.bind, EStateM.bind, ht, hu], hul, hrest'⟩
    · exact Or.inr ⟨e, u, by simp only [Bind.bind, EStateM.bind, ht, hu], he⟩
  · exact Or.inr ⟨e, t, by simp only [Bind.bind, EStateM.bind, ht], he⟩

theorem Tries.bind_pure {r : EStateM ε σ α} {f : α → EStateM ε σ β} {bs : List UInt8} {a : α} {b : β}
    (hr : Tries S r bs a E) (hf : Tries S (f a) [] b E) : Tries S (r >>= f) bs b E := by
  have h := hr.bind hf
  rwa [List.append_nil] at h

theorem Tries.map {r : EStateM ε σ α} {bs : List UInt8} {a : α} (hr : Tries S r bs a E) (f : α → β) :
    Tries S (f <$> r) bs (f a) E := fun s rest hs hbs => by
  rcases hr s rest hs hbs with ⟨t, ht, htl, hrest⟩ | ⟨e, t, ht, he⟩
  · exact Or.inl ⟨t, by simp only [Functor.map, EStateM.map, ht], htl, hrest⟩
  · exact Or.inr ⟨e, t, by simp only [Functor.map, EStateM.map, ht], he⟩

/-- What a writer writes is determined where anything is live. -/
theorem Writes.unique {w : EStateM ε σ α} {bs cs : List UInt8} {a b : α} (h : Writes K w bs a) (h' : Writes K w cs b)
    {s : σ} (hs : K.live s) : bs = cs := by
  obtain ⟨t, ht, -, hbs⟩ := h s hs
  obtain ⟨u, hu, -, hcs⟩ := h' s hs
  obtain ⟨-, rfl⟩ := EStateM.Result.ok.inj (ht.symm.trans hu)
  exact List.append_cancel_left (hbs.symm.trans hcs)

/-! ### What every outcome keeps -/

/-- The state that is left, whatever came of it. -/
def left : EStateM.Result ε σ α → σ
  | .ok _ t => t
  | .error _ t => t

/-- `P` holds afterwards where it held before, also of what an error leaves. -/
def Keeps (P : σ → Prop) (w : EStateM ε σ α) : Prop := ∀ s, P s → P (left (w s))

variable {P : σ → Prop}

theorem Keeps.pure (a : α) : Keeps P (Pure.pure (f := EStateM ε σ) a) := fun _ hs => hs

theorem Keeps.bind {w : EStateM ε σ α} {f : α → EStateM ε σ β} (hw : Keeps P w) (hf : ∀ a, Keeps P (f a)) :
    Keeps P (w >>= f) := fun s hs => by
  have hleft := hw s hs
  simp only [Bind.bind, EStateM.bind]
  cases h : w s with
  | ok a t =>
    rw [h] at hleft
    exact hf a t hleft
  | error e t =>
    rw [h] at hleft
    exact hleft

/-! ### What every error is -/

/-- Whatever the state, the errors `w` stops with are among `E`. -/
def Raises (w : EStateM ε σ α) (E : ε → Prop) : Prop := ∀ s e t, w s = .error e t → E e

/-- Whatever the state, `w` stops with one of the errors `E`. -/
def Fails (w : EStateM ε σ α) (E : ε → Prop) : Prop := ∀ s, ∃ e t, w s = .error e t ∧ E e

variable {F : ε → Prop}

theorem Raises.pure (a : α) : Raises (Pure.pure (f := EStateM ε σ) a) E := fun _ _ _ h => nomatch h

theorem Raises.throw (h : E e) : Raises (α := α) (σ := σ) (throw e) E := fun _ _ _ ht => by
  cases ht
  exact h

theorem Fails.throw (h : E e) : Fails (α := α) (σ := σ) (throw e) E := fun s => ⟨e, s, rfl, h⟩

theorem Raises.bind {w : EStateM ε σ α} {f : α → EStateM ε σ β} (hw : Raises w E) (hf : ∀ a, Raises (f a) E) :
    Raises (w >>= f) E := fun s e t h => by
  simp only [Bind.bind, EStateM.bind] at h
  cases hs : w s with
  | ok a u =>
    rw [hs] at h
    exact hf a u e t h
  | error e' u =>
    rw [hs] at h
    cases h
    exact hw s e t hs

theorem Fails.bind {w : EStateM ε σ α} (hw : Fails w E) (f : α → EStateM ε σ β) : Fails (w >>= f) E := fun s => by
  obtain ⟨e, t, ht, he⟩ := hw s
  exact ⟨e, t, by simp only [Bind.bind, EStateM.bind, ht], he⟩

theorem Raises.fails {w : EStateM ε σ α} {f : α → EStateM ε σ β} (hw : Raises w E) (hf : ∀ a, Fails (f a) E) :
    Fails (w >>= f) E := fun s => by
  cases hs : w s with
  | ok a u =>
    obtain ⟨e, t, ht, he⟩ := hf a u
    exact ⟨e, t, by simp only [Bind.bind, EStateM.bind, hs, ht], he⟩
  | error e u => exact ⟨e, u, by simp only [Bind.bind, EStateM.bind, hs], hw s e u hs⟩

theorem Raises.mono {w : EStateM ε σ α} (hw : Raises w E) (h : ∀ e, E e → F e) : Raises w F :=
  fun s e t ht => h e (hw s e t ht)

theorem Fails.mono {w : EStateM ε σ α} (hw : Fails w E) (h : ∀ e, E e → F e) : Fails w F := fun s => by
  obtain ⟨e, t, ht, he⟩ := hw s
  exact ⟨e, t, ht, h e he⟩

theorem Raises.all {w : Nat → α → EStateM ε σ Unit} (h : ∀ i x, Raises (w i x) E) (xs : List α) (i : Nat) :
    Raises (writeFrom w i xs) E := by
  induction xs generalizing i with
  | nil => exact .pure ()
  | cons x xs ih => exact (h i x).bind fun _ => ih (i + 1)

/-- A list fails with any of its values. -/
theorem Fails.all {w : Nat → α → EStateM ε σ Unit} (h : ∀ i x, Raises (w i x) E) {xs : List α} {x : α} (hx : x ∈ xs)
    (hfails : ∀ i, Fails (w i x) E) (i : Nat) : Fails (writeFrom w i xs) E := by
  induction xs generalizing i with
  | nil => cases hx
  | cons y ys ih =>
    rcases List.mem_cons.mp hx with rfl | hx
    · exact (hfails i).bind _
    · exact (h i y).fails fun _ => ih hx (i + 1)

end Rules

/-! ### A writer with its reader -/

/-- A value that a writer writes and a reader gets back, as `b`, from the same bytes. -/
structure Carried {ε σ τ α β : Type} (K : Sink σ) (S : Source τ) (w : EStateM ε σ α) (a : α)
    (r : EStateM ε τ β) (bs : List UInt8) (b : β) : Prop where
  writes : Writes K w bs a
  reads : Reads S r bs b

/-- What `w` writes is what `r` reads as `b`, whatever the bytes are. -/
def Exchanges {ε σ τ β : Type} (K : Sink σ) (S : Source τ) (w : EStateM ε σ Unit) (r : EStateM ε τ β) (b : β) :
    Prop :=
  ∃ bs, Carried K S w () r bs b

namespace Exchanges
variable {ε σ τ α β γ : Type} {K : Sink σ} {S : Source τ} {w v : EStateM ε σ Unit} {r : EStateM ε τ β}
  {g : β → EStateM ε τ γ} {b : β} {c : γ}

theorem pure (b : β) : Exchanges (ε := ε) K S (Pure.pure ()) (Pure.pure b) b := ⟨[], .pure (), .pure b⟩

theorem bind (h : Exchanges K S w r b) (h' : Exchanges K S v (g b) c) :
    Exchanges K S (do w; v) (r >>= g) c := by
  obtain ⟨bs, hw, hr⟩ := h
  obtain ⟨cs, hv, hg⟩ := h'
  exact ⟨bs ++ cs, hw.bind hv, hr.bind hg⟩

theorem map (h : Exchanges K S w r b) (f : β → γ) : Exchanges K S w (f <$> r) (f b) := by
  obtain ⟨bs, hw, hr⟩ := h
  exact ⟨bs, hw, hr.map f⟩

theorem map_eq (h : Exchanges K S w r b) {f : β → γ} (hf : f b = c) : Exchanges K S w (f <$> r) c := hf ▸ h.map f

/-- What the reader does with the value, taking nothing more. -/
theorem then_read (h : Exchanges K S w r b) (hg : Reads S (g b) [] c) : Exchanges K S w (r >>= g) c := by
  obtain ⟨bs, hw, hr⟩ := h
  exact ⟨bs, hw, hr.bind_pure hg⟩

/-- A check before a writer that passes. -/
theorem after_write (hv : Writes K v [] ()) (h : Exchanges K S w r b) : Exchanges K S (do v; w) r b := by
  obtain ⟨bs, hw, hr⟩ := h
  exact ⟨bs, hv.bind_nil hw, hr⟩

/-- A check before a reader that passes. -/
theorem after_read {q : EStateM ε τ α} {a : α} {f : α → EStateM ε τ β} (hq : Reads S q [] a)
    (h : Exchanges K S w (f a) b) : Exchanges K S w (q >>= f) b := by
  obtain ⟨bs, hw, hr⟩ := h
  exact ⟨bs, hw, hq.bind_nil hr⟩

/-- A writer that stops exchanges nothing. -/
theorem not_of_stops {e : ε} (h : Stops K w e) {s : σ} (hs : K.live s) : ¬Exchanges K S w r b := fun ⟨_, hw, _⟩ => by
  obtain ⟨t, ht⟩ := h s hs
  obtain ⟨u, hu, -⟩ := hw s hs
  rw [ht] at hu
  exact nomatch hu

/-- A list whose every value is exchanged, wherever it stands. -/
theorem all {w : Nat → α → EStateM ε σ Unit} {r : Nat → EStateM ε τ β} {d : α → β} (xs : List α) (i : Nat)
    (h : ∀ x ∈ xs, ∀ j < i + xs.length, Exchanges K S (w j x) (r j) (d x)) :
    Exchanges K S (writeFrom w i xs) (readFrom r i xs.length) (xs.map d) := by
  induction xs generalizing i with
  | nil => exact .pure []
  | cons x xs ih =>
    have hx : Exchanges K S (w i x) (r i) (d x) := h x (List.mem_cons_self ..) i (by simp)
    have hxs := ih (i + 1) fun y hy j hj => h y (List.mem_cons_of_mem _ hy) j (by
      rw [List.length_cons]
      omega)
    exact hx.bind (hxs.map (List.cons (d x)))

end Exchanges
end NSPluginWrapper.Lib
