import Mathlib.Data.List.Basic
import Mathlib.Data.List.ReduceOption

/-! A search through a list that may give the rest of the list up, and one that goes through all of it. -/

namespace NSPluginWrapper.Lib

/-- What one try comes to: it ends the search, goes on to the rest, or gives the rest up. -/
inductive Attempt (ρ : Type) where
  | ends (r : ρ)
  | next
  | last
  deriving Repr, DecidableEq

variable {α β ρ : Type}

/-- What is found by a try. -/
@[simp] def Attempt.found : Attempt ρ → Option ρ
  | .ends r => some r
  | .next | .last => none

def tryEach (f : α → Attempt ρ) : List α → Option ρ
  | [] => none
  | a :: as =>
    match f a with
    | .ends r => some r
    | .next => tryEach f as
    | .last => none

/-- What is given up would have found nothing. -/
theorem tryEach_eq_findSome? {f : α → Attempt ρ} {as : List α} (h : ∀ a ∈ as, f a = .last → ∀ c ∈ as, (f c).found = none) :
    tryEach f as = as.findSome? fun a => (f a).found := by
  induction as with
  | nil => rfl
  | cons a as ih =>
    rw [tryEach, List.findSome?_cons]
    cases ha : f a with
    | ends r => rfl
    | next => exact ih fun c hc hlast d hd => h c (List.mem_cons_of_mem a hc) hlast d (List.mem_cons_of_mem a hd)
    | last =>
      symm
      exact List.findSome?_eq_none_iff.mpr fun c hc => h a List.mem_cons_self ha c (List.mem_cons_of_mem a hc)

/-- A search in each of several lists is one through all of them. -/
theorem findSome?_flatMap (f : α → List β) (g : β → Option ρ) (as : List α) :
    (as.flatMap f).findSome? g = as.findSome? fun a => (f a).findSome? g := by
  induction as with
  | nil => rfl
  | cons a as ih =>
    rw [List.flatMap_cons, List.findSome?_append, List.findSome?_cons, ih]
    cases (f a).findSome? g with
    | none => rfl
    | some r => rfl

theorem findSome?_congr {f g : α → Option ρ} {as : List α} (h : ∀ a ∈ as, f a = g a) : as.findSome? f = as.findSome? g := by
  induction as with
  | nil => rfl
  | cons a as ih =>
    obtain ⟨ha, has⟩ := List.forall_mem_cons.mp h
    rw [List.findSome?_cons, List.findSome?_cons, ha, ih has]

theorem findSome?_reduceOption (f : α → Option ρ) (as : List (Option α)) :
    as.reduceOption.findSome? f = as.findSome? fun o => o.bind f := by
  induction as with
  | nil => rfl
  | cons o as ih =>
    cases o with
    | none =>
      rw [List.reduceOption_cons_of_none, ih, List.findSome?_cons]
      rfl
    | some a =>
      rw [List.reduceOption_cons_of_some, List.findSome?_cons, List.findSome?_cons, ih]
      rfl

/-- What is made of the first that there is. -/
theorem findSome?_if (p : α → Bool) (g : α → ρ) (as : List α) :
    (as.findSome? fun a => if p a then some (g a) else none) = (as.find? p).map g := by
  rw [← List.findSome?_guard, List.map_findSome?]
  refine findSome?_congr fun a _ => ?_
  rw [Function.comp_apply, Option.guard]
  split
  · rfl
  · rfl

end NSPluginWrapper.Lib
