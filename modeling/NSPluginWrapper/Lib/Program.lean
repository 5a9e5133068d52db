/-! Programs of two parties that call each other's functions. A program runs where its calls are made in some other way;
    the rule at the end says when such a run is the run in which every function is called directly. -/

namespace NSPluginWrapper.Lib

/-- Functions, with what each takes and gives. -/
structure Interface where
  Op : Type
  Params : Op → Type
  Result : Op → Type

/-- A program with a state of its own, which it reads and writes, and functions that it calls. -/
inductive Program (I : Interface) (W α : Type) where
  | done (a : α)
  | read (k : W → Program I W α)
  | write (w : W) (rest : Program I W α)
  | call (op : I.Op) (p : I.Params op) (k : I.Result op → Program I W α)

section
variable {I : Interface} {W α σ : Type}

/-- The run of a program whose state is part of a larger one, and whose calls may fail. -/
def Program.run (get : σ → W) (set : W → σ → σ) (call : (op : I.Op) → I.Params op → σ → Option (I.Result op × σ)) :
    Program I W α → σ → Option (α × σ)
  | .done a, s => some (a, s)
  | .read k, s => (k (get s)).run get set call s
  | .write w rest, s => rest.run get set call (set w s)
  | .call op p k, s => (call op p s).bind fun (r, s) => (k r).run get set call s

end

/-- What becomes of the parameters and the result of a call, which calls are answered before they are made, and which
    ones may be made and return. -/
structure Convention (I : Interface) where
  gate : (op : I.Op) → I.Params op → Option (I.Result op)
  Permits : (op : I.Op) → I.Params op → Prop
  seen : (op : I.Op) → I.Params op → I.Params op
  Returns : (op : I.Op) → I.Params op → I.Result op → Prop
  got : (op : I.Op) → I.Params op → I.Result op → I.Result op

section
variable {S W : Type} {other : S → S} {I : S → Interface} (convention : (s : S) → Convention (I s))
  (body : (s : S) → (op : (I s).Op) → (I s).Params op → Program (I (other s)) W ((I s).Result op))

/-- The run of a program of a party, with the states of the party and of the other one. Every function is called directly,
    and may call back. -/
inductive Runs : (s : S) → {α : Type} → Program (I (other s)) W α → W × W → α → W × W → Prop where
  | done {s : S} {α : Type} (a : α) (w : W × W) : Runs s (.done a) w a w
  | read {s : S} {α : Type} {k : W → Program (I (other s)) W α} {w w' : W × W} {a : α} (h : Runs s (k w.1) w a w') :
      Runs s (.read k) w a w'
  | write {s : S} {α : Type} {v : W} {rest : Program (I (other s)) W α} {w w' : W × W} {a : α}
      (h : Runs s rest (v, w.2) a w') : Runs s (.write v rest) w a w'
  | refused {s : S} {α : Type} {op : (I (other s)).Op} {p : (I (other s)).Params op}
      {k : (I (other s)).Result op → Program (I (other s)) W α} {r : (I (other s)).Result op} {w w' : W × W} {a : α}
      (hgate : (convention (other s)).gate op p = some r) (h : Runs s (k r) w a w') : Runs s (.call op p k) w a w'
  | call {s : S} {α : Type} {op : (I (other s)).Op} {p : (I (other s)).Params op}
      {k : (I (other s)).Result op → Program (I (other s)) W α} {r : (I (other s)).Result op} {w w₁ w' : W × W} {a : α}
      (hgate : (convention (other s)).gate op p = none) (hpermits : (convention (other s)).Permits op p)
      (hbody : Runs (other s) (body (other s) op ((convention (other s)).seen op p)) w.swap r w₁)
      (hreturns : (convention (other s)).Returns op p r)
      (h : Runs s (k ((convention (other s)).got op p r)) w₁.swap a w') : Runs s (.call op p k) w a w'

variable {convention body} {σ κ : Type}

/-- The run `program` of a party, from the states `w` to `w'`, is a run over a larger state. Calls nest no deeper than the
    number that `call` is given. -/
def Simulated (Ready : κ → W × W → σ → Prop) (get : σ → W) (set : W → σ → σ) {J : Interface}
    (call : Nat → (op : J.Op) → J.Params op → σ → Option (J.Result op × σ)) {α : Type} (program : Program J W α)
    (w : W × W) (a : α) (w' : W × W) : Prop :=
  ∃ n, ∀ m, n ≤ m → ∀ c s, Ready c w s → ∃ s', program.run get set (call m) s = some (a, s') ∧ Ready c w' s'

/-- Where every call is the run of its function, every run is. The induction is on the run. -/
theorem Runs.simulated {Ready : κ → W × W → σ → Prop} {get : σ → W} {set : W → σ → σ}
    {call : Nat → (s : S) → (op : (I (other s)).Op) → (I (other s)).Params op → σ → Option ((I (other s)).Result op × σ)}
    (hget : ∀ c w s, Ready c w s → get s = w.1) (hset : ∀ c w s v, Ready c w s → Ready c (v, w.2) (set v s))
    (hrefused : ∀ n s op p r t, (convention (other s)).gate op p = some r → call (n + 1) s op p t = some (r, t))
    (hcall : ∀ s op p r w w₁, (convention (other s)).gate op p = none → (convention (other s)).Permits op p →
      (convention (other s)).Returns op p r →
      Simulated Ready get set (fun n => call n (other s)) (body (other s) op ((convention (other s)).seen op p)) w.swap r w₁ →
      ∃ n, ∀ m, n ≤ m → ∀ c t, Ready c w t → ∃ t', call m s op p t = some ((convention (other s)).got op p r, t') ∧ Ready c w₁.swap t')
    {s : S} {α : Type} {program : Program (I (other s)) W α} {w w' : W × W} {a : α} (h : Runs convention body s program w a w') :
    Simulated Ready get set (fun n => call n s) program w a w' := by
  induction h with
  | done a w => exact ⟨0, fun m _ c t ht => ⟨t, rfl, ht⟩⟩
  | read h ih =>
    obtain ⟨n, hn⟩ := ih
    refine ⟨n, fun m hm c t ht => ?_⟩
    obtain ⟨t', hrun, ht'⟩ := hn m hm c t ht
    refine ⟨t', ?_, ht'⟩
    rw [Program.run, hget c _ t ht]
    exact hrun
  | write h ih =>
    obtain ⟨n, hn⟩ := ih
    exact ⟨n, fun m hm c t ht => hn m hm c _ (hset c _ t _ ht)⟩
  | refused hgate h ih =>
    obtain ⟨n, hn⟩ := ih
    refine ⟨n + 1, fun m hm c t ht => ?_⟩
    obtain ⟨m, rfl⟩ := Nat.exists_eq_add_of_le' (Nat.le_trans (Nat.le_add_left 1 n) hm)
    obtain ⟨t', hrun, ht'⟩ := hn (m + 1) (Nat.le_trans (Nat.le_add_right n 1) hm) c t ht
    refine ⟨t', ?_, ht'⟩
    dsimp only [Program.run]
    rw [hrefused m _ _ _ _ t hgate]
    exact hrun
  | call hgate hpermits hbody hreturns h ihbody ih =>
    obtain ⟨n, hn⟩ := hcall _ _ _ _ _ _ hgate hpermits hreturns ihbody
    obtain ⟨n', hn'⟩ := ih
    refine ⟨max n n', fun m hm c t ht => ?_⟩
    obtain ⟨t₁, hcalled, ht₁⟩ := hn m (Nat.le_trans (Nat.le_max_left ..) hm) c t ht
    obtain ⟨t', hrun, ht'⟩ := hn' m (Nat.le_trans (Nat.le_max_right ..) hm) c t₁ ht₁
    refine ⟨t', ?_, ht'⟩
    dsimp only [Program.run]
    rw [hcalled]
    exact hrun

end
end NSPluginWrapper.Lib
