import Mathlib.Data.List.Basic
import Mathlib.Data.UInt

/-! Text in bytes: the lines that fgets() reads, the word and the number that sscanf() finds in one, and a
    number as printf() writes it. -/

namespace NSPluginWrapper.Lib

/-- The bytes of an ASCII text. -/
def ascii (s : String) : List UInt8 := s.toList.map Char.toUInt8

abbrev newline : UInt8 := 10
abbrev blank : UInt8 := 32

/-- `n` bytes, or fewer where a line ends. -/
def takeLine : Nat → List UInt8 → List UInt8 × List UInt8
  | 0, bs => ([], bs)
  | _ + 1, [] => ([], [])
  | n + 1, b :: bs => if b = newline then ([b], bs) else (b :: (takeLine n bs).1, (takeLine n bs).2)

/-- fgets(): what comes before the terminator, and what is left. -/
def fgets (size : Int) (fp : List UInt8) : Option (List UInt8 × List UInt8) :=
  if size ≤ 0 then none
  else if size = 1 then some ([], fp)
  else if fp = [] then none
  else some (takeLine (size - 1).toNat fp)

def isSpace (b : UInt8) : Bool := b == blank || (9 ≤ b && b ≤ 13)

def isDigit (b : UInt8) : Bool := 48 ≤ b && b ≤ 57

/-- "%s". -/
def scanWord (bs : List UInt8) : Option (List UInt8 × List UInt8) :=
  let bs := bs.dropWhile isSpace
  let word := bs.takeWhile (!isSpace ·)
  if word = [] then none else some (word, bs.drop word.length)

def ofDigits (digits : List UInt8) : Nat := digits.foldl (fun n b => 10 * n + (b.toNat - 48)) 0

/-- The sign of a number, and its digits. -/
def scanSign : List UInt8 → Bool × List UInt8
  | 43 :: bs => (false, bs)
  | 45 :: bs => (true, bs)
  | bs => (false, bs)

/-- "%d": a number is read as a `long`, whose range it does not leave, and stored in an `int`. -/
def scanInt (bs : List UInt8) : Option Int :=
  let (negative, bs) := scanSign (bs.dropWhile isSpace)
  let digits := bs.takeWhile isDigit
  if digits = [] then none
  else
    let n : Int := if negative then -ofDigits digits else ofDigits digits
    some ((max (-2 ^ 63) (min n (2 ^ 63 - 1))).bmod (2 ^ 32))

/-- sscanf() with "%s %d", where it finds both. -/
def scanWordInt (line : List UInt8) : Option (List UInt8 × Int) := do
  let (word, rest) ← scanWord line
  let n ← scanInt rest
  some (word, n)

/-- A number that is not negative, in decimal. -/
def decimal (n : Nat) : List UInt8 := (Nat.toDigits 10 n).map Char.toUInt8

/-! ### Lines -/

/-- No newline, unless it is the last byte. -/
def OneLine (bs : List UInt8) : Prop := newline ∉ bs.dropLast

instance (bs : List UInt8) : Decidable (OneLine bs) := inferInstanceAs (Decidable (_ ∉ _))

variable {bs s rest line : List UInt8} {n : Nat} {size : Int}

theorem OneLine.cons {b : UInt8} (hb : b ≠ newline) (h : OneLine bs) : OneLine (b :: bs) := by
  cases bs with
  | nil => exact List.not_mem_nil
  | cons c cs =>
    rw [OneLine, List.dropLast_cons_cons, List.mem_cons, not_or]
    exact ⟨hb.symm, h⟩

theorem OneLine.of_prefix (h : OneLine bs) (hp : s <+: bs) : OneLine s := by
  intro hm
  apply h
  obtain ⟨t, rfl⟩ := hp
  cases t with
  | nil => rwa [List.append_nil]
  | cons c cs =>
    rw [List.dropLast_append_cons]
    exact List.mem_append_left _ ((List.dropLast_sublist s).subset hm)

theorem OneLine.tail {b : UInt8} (h : OneLine (b :: bs)) : OneLine bs := by
  cases bs with
  | nil => exact List.not_mem_nil
  | cons c cs =>
    rw [OneLine, List.dropLast_cons_cons, List.mem_cons, not_or] at h
    exact h.2

theorem takeLine_oneLine (n : Nat) (bs : List UInt8) : OneLine (takeLine n bs).1 := by
  fun_induction takeLine n bs with
  | case1 => exact List.not_mem_nil
  | case2 => exact List.not_mem_nil
  | case3 => exact List.not_mem_nil
  | case4 n b bs hb ih => exact ih.cons hb

theorem length_takeLine_le (n : Nat) (bs : List UInt8) : (takeLine n bs).1.length ≤ n := by
  fun_induction takeLine n bs with
  | case1 => exact Nat.le_refl 0
  | case2 => exact Nat.zero_le _
  | case3 => exact Nat.succ_le_succ (Nat.zero_le _)
  | case4 n b bs hb ih => exact Nat.succ_le_succ ih

theorem takeLine_append (n : Nat) (bs : List UInt8) : (takeLine n bs).1 ++ (takeLine n bs).2 = bs := by
  fun_induction takeLine n bs with
  | case1 => rfl
  | case2 => rfl
  | case3 => rfl
  | case4 n b bs hb ih => rw [List.cons_append, ih]

/-- As many bytes as there are on one line are read as they are. -/
theorem takeLine_length (h : OneLine s) (rest : List UInt8) : takeLine s.length (s ++ rest) = (s, rest) := by
  induction s with
  | nil => simp [takeLine]
  | cons b s ih =>
    rw [List.length_cons, List.cons_append, takeLine]
    split
    · rename_i hb
      cases s with
      | nil => rfl
      | cons c s =>
        have hmem : newline ∈ (b :: c :: s).dropLast := by rw [List.dropLast_cons_cons, hb]; exact List.mem_cons_self
        exact absurd hmem h
    · rw [ih h.tail]

/-- A line that fits is read to its end. -/
theorem takeLine_line (h : newline ∉ line) (hn : line.length < n) :
    takeLine n (line ++ newline :: rest) = (line ++ [newline], rest) := by
  induction line generalizing n with
  | nil =>
    obtain ⟨n, rfl⟩ := Nat.exists_eq_succ_of_ne_zero (Nat.ne_of_gt hn)
    simp [takeLine]
  | cons b line ih =>
    obtain ⟨n, rfl⟩ := Nat.exists_eq_succ_of_ne_zero (Nat.ne_of_gt (Nat.zero_lt_of_lt hn))
    obtain ⟨hb, hline⟩ := List.ne_and_not_mem_of_not_mem_cons h
    rw [List.cons_append, takeLine, if_neg hb.symm, ih hline (Nat.lt_of_succ_lt_succ hn), List.cons_append]

theorem fgets_some (h : fgets size bs = some (line, rest)) :
    OneLine line ∧ line.length < size ∧ line ++ rest = bs ∧ (1 < size → line ≠ []) := by
  rw [fgets] at h
  split at h
  · cases h
  split at h
  · rename_i _ h1
    cases h
    refine ⟨List.not_mem_nil, ?_, rfl, fun h => ?_⟩
    · rw [List.length_nil]
      omega
    · omega
  split at h
  · cases h
  · rename_i h0 h1 hbs
    have hline : (takeLine (size - 1).toNat bs).1 = line := congrArg Prod.fst (Option.some.inj h)
    have hrest : (takeLine (size - 1).toNat bs).2 = rest := congrArg Prod.snd (Option.some.inj h)
    subst hline hrest
    have hlen := length_takeLine_le (size - 1).toNat bs
    refine ⟨takeLine_oneLine _ _, by omega, takeLine_append _ _, fun hsize hnil => ?_⟩
    obtain ⟨k, hk⟩ := Nat.exists_eq_succ_of_ne_zero (show (size - 1).toNat ≠ 0 by omega)
    obtain ⟨b, bs, rfl⟩ := List.exists_cons_of_ne_nil hbs
    rw [hk, takeLine] at hnil
    split at hnil <;> cases hnil

theorem fgets_line (h : newline ∉ line) (hsize : line.length + 1 < size) :
    fgets size (line ++ newline :: rest) = some (line ++ [newline], rest) := by
  rw [fgets, if_neg (by omega), if_neg (by omega), if_neg (by simp), takeLine_line h (by omega)]

theorem fgets_length (h : OneLine s) (hrest : rest ≠ []) : fgets (s.length + 1) (s ++ rest) = some (s, rest) := by
  rw [fgets, if_neg (by omega)]
  split
  · have hs : s = [] := List.eq_nil_of_length_eq_zero (by omega)
    rw [hs, List.nil_append]
  · rw [if_neg (by simp [hrest]), Int.add_sub_cancel, Int.toNat_natCast, takeLine_length h]

/-! ### Numbers -/

theorem toNat_of_isDigit {c : Char} (h : c.isDigit = true) :
    c.toUInt8.toNat = c.toNat ∧ 48 ≤ c.toNat ∧ c.toNat ≤ 57 := by
  simp only [Char.isDigit, ge_iff_le, Bool.and_eq_true, decide_eq_true_eq, UInt32.le_iff_toNat_le] at h
  obtain ⟨h0, h9⟩ := h
  have hlow : ('0' : Char).val.toNat = 48 := rfl
  have hhigh : ('9' : Char).val.toNat = 57 := rfl
  have hbyte : c.toUInt8.toNat = c.val.toNat % 256 := UInt32.toNat_toUInt8 c.val
  have hval : c.toNat = c.val.toNat := rfl
  omega

theorem mem_decimal {b : UInt8} (h : b ∈ decimal n) : isDigit b = true ∧ isSpace b = false ∧ b ≠ newline := by
  obtain ⟨c, hc, rfl⟩ := List.mem_map.mp h
  obtain ⟨hbyte, h0, h9⟩ := toNat_of_isDigit (Nat.isDigit_of_mem_toDigits (by decide) (by decide) hc)
  generalize c.toUInt8 = b at hbyte ⊢
  have h48 : (48 : UInt8) ≤ b := by rw [UInt8.le_iff_toNat_le, hbyte]; exact h0
  have h57 : b ≤ 57 := by rw [UInt8.le_iff_toNat_le, hbyte]; exact h9
  have h13 : ¬b ≤ 13 := fun h => absurd (UInt8.le_trans h48 h) (by decide)
  refine ⟨by simp [isDigit, h48, h57], ?_, fun hb => h13 (hb ▸ by decide)⟩
  have h32 : b ≠ blank := fun hb => absurd (hb ▸ h48) (by decide)
  simp [isSpace, h13, h32]

theorem ofDigits_decimal (n : Nat) : ofDigits (decimal n) = n := by
  rw [ofDigits, decimal, List.foldl_map]
  conv_rhs => rw [← Nat.ofDigitChars_ten_toDigits (n := n), Nat.ofDigitChars]
  apply List.foldl_ext
  intro a c hc
  obtain ⟨hbyte, -, -⟩ := toNat_of_isDigit (Nat.isDigit_of_mem_toDigits (by decide) (by decide) hc)
  rw [hbyte]
  rfl

theorem decimal_ne_nil (n : Nat) : decimal n ≠ [] := by
  rw [decimal, Ne, List.map_eq_nil_iff]
  exact Nat.toDigits_ne_nil

theorem length_decimal_le {k : Nat} (hk : 0 < k) : (decimal n).length ≤ k ↔ n < 10 ^ k := by
  rw [decimal, List.length_map]
  exact Nat.length_toDigits_le_iff (by decide) hk

theorem scanWord_append {word : List UInt8} (hne : word ≠ []) (hword : ∀ b ∈ word, isSpace b = false) (rest : List UInt8) :
    scanWord (word ++ blank :: rest) = some (word, blank :: rest) := by
  obtain ⟨b, w, rfl⟩ := List.exists_cons_of_ne_nil hne
  have hdrop : ((b :: w) ++ blank :: rest).dropWhile isSpace = (b :: w) ++ blank :: rest := by
    rw [List.cons_append, List.dropWhile_cons_of_neg (by simp [hword b List.mem_cons_self])]
  have htake : ((b :: w) ++ blank :: rest).takeWhile (!isSpace ·) = b :: w := by
    rw [List.takeWhile_append_of_pos fun c hc => by simp [hword c hc]]
    simp [isSpace]
  rw [scanWord, hdrop, htake, if_neg hne, List.drop_left]

theorem scanInt_decimal (hn : n < 2 ^ 31) : scanInt (blank :: decimal n) = some (n : Int) := by
  obtain ⟨b, w, hw⟩ := List.exists_cons_of_ne_nil (decimal_ne_nil n)
  have hb : isDigit b = true ∧ isSpace b = false ∧ b ≠ newline := mem_decimal (by rw [hw]; exact List.mem_cons_self)
  have hdrop : (blank :: decimal n).dropWhile isSpace = decimal n := by
    rw [List.dropWhile_cons_of_pos (by rfl), hw, List.dropWhile_cons_of_neg (by simp [hb.2.1])]
  have hsign : scanSign (decimal n) = (false, decimal n) := by
    rw [hw, scanSign]
    · intro bs hbs
      rw [(List.cons.inj hbs).1] at hb
      exact absurd hb.1 (by decide)
    · intro bs hbs
      rw [(List.cons.inj hbs).1] at hb
      exact absurd hb.1 (by decide)
  have htake : (decimal n).takeWhile isDigit = decimal n := by
    rw [← List.append_nil (decimal n), List.takeWhile_append_of_pos fun c hc => (mem_decimal hc).1]
    rfl
  rw [scanInt, hdrop, hsign]
  simp only [htake, if_neg (decimal_ne_nil n), ofDigits_decimal]
  have hmod : ((n : Int)).bmod (2 ^ 32) = n := Int.bmod_eq_of_le (by omega) (by omega)
  rw [if_neg (by decide), Int.min_eq_left (by omega), Int.max_eq_right (by omega), hmod]

/-- A word and the number after it are found again. -/
theorem scanWordInt_decimal {word : List UInt8} (hne : word ≠ []) (hword : ∀ b ∈ word, isSpace b = false)
    (hn : n < 2 ^ 31) : scanWordInt (word ++ blank :: decimal n) = some (word, (n : Int)) := by
  rw [scanWordInt, scanWord_append hne hword]
  simp [scanInt_decimal hn]

end NSPluginWrapper.Lib
