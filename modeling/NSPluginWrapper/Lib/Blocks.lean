import Mathlib.Data.List.Nodup
import Mathlib.Data.List.Range
import Mathlib.Data.List.Perm.Basic

/-! Blocks that are made and released, by number in the order they were made. What a program holds accounts for the
    rest: a block that is neither held nor released is lost, one that is released twice is in neither list. -/

namespace NSPluginWrapper.Lib

structure Blocks where
  made : Nat
  released : List Nat
  deriving Repr, DecidableEq

namespace Blocks
variable {l : Blocks} {held held' : List Nat} {b : Nat}

def empty : Blocks := ⟨0, []⟩

/-- The new block is `l.made`. -/
def make (l : Blocks) : Blocks := { l with made := l.made + 1 }

def release (l : Blocks) (b : Nat) : Blocks := { l with released := b :: l.released }

/-- What is given up together. -/
def releaseAll (l : Blocks) : List Nat → Blocks
  | [] => l
  | b :: bs => (l.release b).releaseAll bs

/-- Each block is held or was released, once. -/
def Balanced (l : Blocks) (held : List Nat) : Prop := (held ++ l.released).Perm (List.range l.made)

theorem balanced_empty : Balanced empty [] := List.Perm.refl []

theorem Balanced.perm (h : l.Balanced held) (hp : held'.Perm held) : l.Balanced held' :=
  (hp.append_right _).trans h

theorem Balanced.make (h : l.Balanced held) : l.make.Balanced (l.made :: held) := by
  have hlast : (l.made :: List.range l.made).Perm (List.range (l.made + 1)) := by
    rw [List.range_succ]
    exact (List.perm_append_singleton _ _).symm
  exact (List.Perm.cons _ h).trans hlast

theorem Balanced.release (h : l.Balanced (b :: held)) : (l.release b).Balanced held :=
  List.perm_middle.trans h

theorem Balanced.releaseAll (h : l.Balanced (held' ++ held)) : (l.releaseAll held').Balanced held := by
  induction held' generalizing l with
  | nil => exact h
  | cons b bs ih => exact ih h.release

theorem Balanced.nodup (h : l.Balanced held) : (held ++ l.released).Nodup :=
  h.nodup_iff.mpr List.nodup_range

/-- When nothing is held any more, each block was released exactly once. -/
theorem Balanced.count_eq_one (h : l.Balanced []) (hb : b < l.made) : l.released.count b = 1 :=
  List.count_eq_one_of_mem h.nodup (h.mem_iff.mpr (List.mem_range.mpr hb))

end Blocks
end NSPluginWrapper.Lib
