import Mathlib.Logic.Basic

/-! Loops over a list that change a state and may be left early: what they keep, and what they collect. -/

namespace NSPluginWrapper.Lib

variable {α σ ρ : Type}

/-- A step gives what the loop is left with, if it is left. -/
def runEach (step : α → σ → Option ρ × σ) : List α → σ → Option ρ × σ
  | [], s => (none, s)
  | a :: as, s =>
    match step a s with
    | (some r, s) => (some r, s)
    | (none, s) => runEach step as s

variable {step : α → σ → Option ρ × σ} {as bs : List α} {s t : σ}

@[simp] theorem runEach_nil : runEach step [] s = (none, s) := rfl

theorem runEach_cons (a : α) (as : List α) (s : σ) : runEach step (a :: as) s =
    match step a s with
    | (some r, s) => (some r, s)
    | (none, s) => runEach step as s := rfl

/-- A step that does not leave the loop. -/
theorem runEach_cons_none {a : α} (h : step a s = (none, t)) : runEach step (a :: as) s = runEach step as t := by
  rw [runEach_cons, h]

theorem runEach_cons_some {a : α} {r : ρ} (h : step a s = (some r, t)) : runEach step (a :: as) s = (some r, t) := by
  rw [runEach_cons, h]

/-- A relation that every step keeps to, the loop keeps to. -/
theorem runEach_rel {R : σ → σ → Prop} (refl : ∀ s, R s s) (trans : ∀ {s t u}, R s t → R t u → R s u)
    (h : ∀ a ∈ as, ∀ s, R s (step a s).2) (s : σ) : R s (runEach step as s).2 := by
  induction as generalizing s with
  | nil => exact refl s
  | cons a as ih =>
    obtain ⟨ha, has⟩ := List.forall_mem_cons.mp h
    rw [runEach_cons]
    have hstep := ha s
    rcases hr : step a s with ⟨r, t⟩
    rw [hr] at hstep
    cases r with
    | some r => exact hstep
    | none => exact trans hstep (ih has t)

/-- A loop that no step leaves comes to the end of its list. -/
theorem runEach_none (h : ∀ a ∈ as, ∀ s, (step a s).1 = none) (s : σ) : (runEach step as s).1 = none := by
  induction as generalizing s with
  | nil => rfl
  | cons a as ih =>
    obtain ⟨ha, has⟩ := List.forall_mem_cons.mp h
    have hstep := ha s
    rcases hr : step a s with ⟨r, t⟩
    rw [hr] at hstep
    cases hstep
    rw [runEach_cons_none hr]
    exact ih has t

/-- The rest of the list, where the loop has not been left. -/
theorem runEach_append (as bs : List α) (s : σ) : runEach step (as ++ bs) s =
    match runEach step as s with
    | (some r, t) => (some r, t)
    | (none, t) => runEach step bs t := by
  induction as generalizing s with
  | nil => rfl
  | cons a as ih =>
    rw [List.cons_append, runEach_cons, runEach_cons]
    rcases step a s with ⟨r, t⟩
    cases r with
    | some r => rfl
    | none => exact ih t

/-- A loop in a loop is one through all of the lists. -/
theorem runEach_flatMap {β : Type} (f : β → List α) (bs : List β) (s : σ) :
    runEach (fun b => runEach step (f b)) bs s = runEach step (bs.flatMap f) s := by
  induction bs generalizing s with
  | nil => rfl
  | cons b bs ih =>
    rw [List.flatMap_cons, runEach_append, runEach_cons]
    rcases runEach step (f b) s with ⟨r, t⟩
    cases r with
    | some r => rfl
    | none => exact ih t

theorem runEach_map {β : Type} (step : α → σ → Option ρ × σ) (f : β → α) (bs : List β) (s : σ) :
    runEach (fun b => step (f b)) bs s = runEach step (bs.map f) s := by
  induction bs generalizing s with
  | nil => rfl
  | cons b bs ih =>
    rw [List.map_cons, runEach_cons, runEach_cons]
    rcases step (f b) s with ⟨r, t⟩
    cases r with
    | some r => rfl
    | none => exact ih t

/-! ### Loops that collect what they find, the last first -/

section Collecting

variable {ε β : Type} {turn : List β → α → Except ε (List β)} {found : α → Option β}

theorem foldlM_flatMap {γ : Type} (f : γ → List α) (cs : List γ) (acc : List β) :
    (cs.flatMap f).foldlM turn acc = cs.foldlM (fun acc c => (f c).foldlM turn acc) acc := by
  induction cs generalizing acc with
  | nil => rfl
  | cons c cs ih =>
    rw [List.flatMap_cons, List.foldlM_append, List.foldlM_cons]
    exact bind_congr ih

/-- What the loop has in the end, where no turn ends it. -/
theorem foldlM_collect (h : ∀ a ∈ as, ∀ acc, turn acc a = .ok ((found a).toList ++ acc)) (acc : List β) :
    as.foldlM turn acc = .ok ((as.filterMap found).reverse ++ acc) := by
  induction as generalizing acc with
  | nil => rfl
  | cons a as ih =>
    obtain ⟨ha, has⟩ := List.forall_mem_cons.mp h
    rw [List.foldlM_cons, ha acc]
    refine (ih has ((found a).toList ++ acc)).trans ?_
    rw [List.filterMap_cons]
    cases found a with
    | none => rfl
    | some b => rw [List.reverse_cons, List.append_assoc, Option.toList_some]

/-- The first turn that ends it. -/
theorem foldlM_collect_error {a : α} {e : ε} (h : ∀ b ∈ as, ∀ acc, turn acc b = .ok ((found b).toList ++ acc))
    (he : ∀ acc, turn acc a = .error e) (bs : List α) (acc : List β) : (as ++ a :: bs).foldlM turn acc = .error e := by
  rw [List.foldlM_append, foldlM_collect h]
  show turn _ a >>= _ = _
  rw [he]
  rfl

end Collecting

end NSPluginWrapper.Lib
