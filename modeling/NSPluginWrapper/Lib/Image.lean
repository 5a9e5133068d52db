import Mathlib.Data.List.Basic
import Mathlib.Data.UInt

/-! A block of bytes that is written to and searched: what stands at an offset, and what a write leaves. -/

namespace NSPluginWrapper.Lib

/-- `bs` stand at `ofs`. -/
def At (mem : List UInt8) (ofs : Nat) (bs : List UInt8) : Prop := bs <+: mem.drop ofs

instance (mem : List UInt8) (ofs : Nat) (bs : List UInt8) : Decidable (At mem ofs bs) :=
  inferInstanceAs (Decidable (bs <+: mem.drop ofs))

/-- `mem` with `bs` written at `ofs`, where there is room for them. -/
def write (mem : List UInt8) (ofs : Nat) (bs : List UInt8) : List UInt8 :=
  mem.take ofs ++ bs ++ mem.drop (ofs + bs.length)

/-- The least significant byte first. -/
def le64 (w : UInt64) : List UInt8 :=
  [UInt8.ofNat w.toNat, UInt8.ofNat (w.toNat / 2 ^ 8), UInt8.ofNat (w.toNat / 2 ^ 16), UInt8.ofNat (w.toNat / 2 ^ 24),
    UInt8.ofNat (w.toNat / 2 ^ 32), UInt8.ofNat (w.toNat / 2 ^ 40), UInt8.ofNat (w.toNat / 2 ^ 48),
    UInt8.ofNat (w.toNat / 2 ^ 56)]

def ofLe64 (bs : List UInt8) : UInt64 := UInt64.ofNat (bs.foldr (fun b n => b.toNat + 2 ^ 8 * n) 0)

@[simp] theorem length_le64 (w : UInt64) : (le64 w).length = 8 := rfl

@[simp] theorem ofLe64_le64 (w : UInt64) : ofLe64 (le64 w) = w := by
  apply UInt64.toNat_inj.mp
  have hw : w.toNat < 2 ^ 64 := w.toNat_lt
  simp only [ofLe64, le64, List.foldr_cons, List.foldr_nil, UInt8.toNat_ofNat', UInt64.toNat_ofNat']
  omega

variable {mem bs bs' : List UInt8} {ofs a : Nat}

theorem at_iff : At mem ofs bs ↔ ∀ i < bs.length, mem[ofs + i]? = bs[i]? := by
  rw [At, List.prefix_iff_getElem?]
  simp only [List.getElem?_drop]
  constructor
  · intro h i hi
    rw [h i hi, List.getElem?_eq_getElem hi]
  · intro h i hi
    rw [h i hi, List.getElem?_eq_getElem hi]

theorem At.length_le (h : At mem ofs bs) (hne : bs ≠ []) : ofs + bs.length ≤ mem.length := by
  have hle := List.IsPrefix.length_le h
  have hpos := List.length_pos_iff.mpr hne
  rw [List.length_drop] at hle
  omega

theorem At.take (h : At mem ofs bs) : (mem.drop ofs).take bs.length = bs := (List.prefix_iff_eq_take.mp h).symm

theorem At.of_append (h : At mem ofs (bs ++ bs')) : At mem ofs bs := (List.prefix_append _ _).trans h

theorem At.of_append_right (h : At mem ofs (bs ++ bs')) : At mem (ofs + bs.length) bs' := by
  obtain ⟨t, ht⟩ := h
  refine ⟨t, ?_⟩
  rw [← List.drop_drop, ← ht, List.append_assoc, List.drop_left]

/-- The bytes up to a terminator. -/
theorem At.takeWhile {s : List UInt8} (h : At mem ofs (s ++ [0])) (hs : ∀ b ∈ s, b ≠ 0) :
    (mem.drop ofs).takeWhile (· ≠ 0) = s := by
  obtain ⟨t, ht⟩ := h
  rw [← ht, List.append_assoc, List.takeWhile_append_of_pos fun b hb => by simpa using hs b hb]
  simp

theorem length_write (h : ofs + bs.length ≤ mem.length) : (write mem ofs bs).length = mem.length := by
  simp only [write, List.length_append, List.length_take, List.length_drop]
  omega

theorem write_at (h : ofs ≤ mem.length) : At (write mem ofs bs) ofs bs := by
  refine ⟨mem.drop (ofs + bs.length), ?_⟩
  have htake : (mem.take ofs).length = ofs := List.length_take_of_le h
  rw [write, List.append_assoc, List.drop_left' htake]

/-- What lies outside of a write stays. -/
theorem getElem?_write (h : ofs + bs.length ≤ mem.length) (ha : a < ofs ∨ ofs + bs.length ≤ a) :
    (write mem ofs bs)[a]? = mem[a]? := by
  have htake : (mem.take ofs).length = ofs := List.length_take_of_le (by omega)
  have hleft : (mem.take ofs ++ bs).length = ofs + bs.length := by rw [List.length_append, htake]
  rw [write]
  rcases ha with ha | ha
  · rw [List.append_assoc, List.getElem?_append_left (by omega), List.getElem?_take_of_lt ha]
  · rw [List.getElem?_append_right (by omega), List.getElem?_drop, hleft]
    congr 1
    omega

theorem At.write (hat : At mem a bs') (h : ofs + bs.length ≤ mem.length) (hd : a + bs'.length ≤ ofs ∨ ofs + bs.length ≤ a) :
    At (Lib.write mem ofs bs) a bs' := by
  rw [at_iff] at hat ⊢
  intro i hi
  rw [getElem?_write h (by omega), hat i hi]

/-! ### Fields -/

/-- A string in a field of `n` bytes, with zeros behind it. -/
def pad (n : Nat) (s : List UInt8) : List UInt8 := s ++ List.replicate (n - s.length) 0

theorem length_pad {n : Nat} {s : List UInt8} (h : s.length ≤ n) : (pad n s).length = n := by
  rw [pad, List.length_append, List.length_replicate, Nat.add_sub_cancel' h]

theorem mem_pad {n : Nat} {s : List UInt8} {x : UInt8} (h : x ∈ pad n s) : x ∈ s ∨ x = 0 :=
  (List.mem_append.mp h).imp_right List.eq_of_mem_replicate

theorem At.append (h : At mem ofs bs) (pre : List UInt8) : At (pre ++ mem) (pre.length + ofs) bs := by
  rw [At, ← List.drop_drop, List.drop_left]
  exact h

theorem At.append_right (h : At mem ofs bs) (post : List UInt8) : At (mem ++ post) ofs bs := by
  by_cases hofs : ofs ≤ mem.length
  · rw [At, List.drop_append_of_le_length hofs]
    exact h.trans (List.prefix_append _ _)
  · have hnil : mem.drop ofs = [] := List.drop_eq_nil_of_le (Nat.le_of_not_le hofs)
    rw [At, hnil, List.prefix_nil] at h
    rw [h]
    exact List.nil_prefix

theorem at_append_pad {n : Nat} {s : List UInt8} (h : s.length < n) (pre : List UInt8) :
    At (pre ++ pad n s) pre.length (s ++ [0]) := by
  rw [At, List.drop_left, pad]
  obtain ⟨k, hk⟩ := Nat.exists_eq_succ_of_ne_zero (Nat.sub_ne_zero_of_lt h)
  rw [hk, List.replicate_succ]
  exact ⟨List.replicate k 0, by simp⟩

/-! ### Comparing -/

/-- strcmp() of the string that stands at the beginning with a known one, none where it runs off the end. -/
def strcmp : List UInt8 → List UInt8 → Option Bool
  | [], _ => none
  | b :: _, [] => some (b == 0)
  | b :: mem, c :: str => if b = c then strcmp mem str else some false

/-- It runs off the end of what is a beginning of the other string. -/
theorem strcmp_eq (mem str : List UInt8) :
    strcmp mem str = if mem <+: str then none else some (decide (str ++ [0] <+: mem)) := by
  induction mem generalizing str with
  | nil => simp [strcmp]
  | cons b mem ih =>
    cases str with
    | nil => simp [strcmp, List.cons_prefix_cons, eq_comm, Bool.beq_eq_decide_eq]
    | cons c str =>
      rw [strcmp]
      split
      · rename_i hbc
        simp [ih, hbc, List.cons_prefix_cons]
      · rename_i hbc
        simp [List.cons_prefix_cons, hbc, Ne.symm hbc]

/-! ### Pieces -/

section Pieces
variable {d s str : List UInt8} {m : Nat}

theorem take_drop_of_prefix (h : d <+: s) (hle : a + m ≤ d.length) : (d.drop a).take m = (s.drop a).take m := by
  obtain ⟨t, rfl⟩ := h
  rw [List.drop_append_of_le_length (by omega), List.take_append_of_le_length]
  rw [List.length_drop]
  omega

/-- What of a string can be told within a piece is told of the whole. -/
theorem at_of_prefix (h : d <+: s) (hd : ¬d.drop ofs <+: str) : At d ofs (str ++ [0]) ↔ At s ofs (str ++ [0]) := by
  constructor
  · intro hat
    obtain ⟨t, rfl⟩ := h
    exact hat.append_right t
  · intro hat
    have hofs : ofs ≤ d.length := Nat.le_of_not_le fun hle => hd (by simp [List.drop_eq_nil_of_le hle])
    obtain ⟨t, rfl⟩ := h
    rw [At, List.drop_append_of_le_length hofs] at hat
    rcases List.prefix_or_prefix_of_prefix hat (List.prefix_append _ t) with hpre | hpre
    · exact hpre
    · rcases List.prefix_concat_iff.mp hpre with heq | hpre
      · rw [At, heq]
      · exact absurd hpre hd

end Pieces

end NSPluginWrapper.Lib
