import NSPluginWrapper.Plugin.Expand
import NSPluginWrapper.Theorems.Marshal

/-! What strexpand() makes of a path, character by character and variable by variable. A value is copied without a look
    at the room that is left for it, and a character that fills the buffer up to the terminator is refused. -/

namespace NSPluginWrapper

/-- A character that stands for itself, or a variable. -/
inductive Token where
  | char (ch : UInt8)
  | var (name : List UInt8) (value : CString)
  deriving Repr, DecidableEq

namespace Token

def text : Token → List UInt8
  | char ch => [ch]
  | var name _ => percent :: (name ++ [percent])

def value : Token → List UInt8
  | char ch => [ch]
  | var _ value => value.bytes

def Valid (vars : List Var) : Token → Prop
  | char ch => ch ≠ percent
  | var name value => percent ∉ name ∧ Var.find vars name = some value

end Token

abbrev Tokens := List Token

namespace Tokens

def text (ts : Tokens) : List UInt8 := ts.flatMap Token.text

def expansion (ts : Tokens) : List UInt8 := ts.flatMap Token.value

/-- Every variable has a name that fits `var`, and behind every character there is a byte left besides the terminator's.
    `room` is what is left of `dstlen - 1`. -/
def Copies (room : Int) : Tokens → Prop
  | [] => True
  | .char _ :: ts => 2 ≤ room ∧ Copies (room - 1) ts
  | .var name value :: ts => name.length < varSize ∧ Copies (room - value.bytes.length) ts

/-- Before a value comes that the room is too small for, there is a character that fills it, or a name that does not
    fit `var`. -/
def Stops (room : Int) : Tokens → Prop
  | [] => False
  | .char _ :: ts => 0 ≤ room ∧ (room ≤ 1 ∨ Stops (room - 1) ts)
  | .var name value :: ts => varSize ≤ name.length ∨
      0 ≤ cInt value.bytes.length ∧ cInt value.bytes.length ≤ room + 1 ∧ Stops (room - cInt value.bytes.length) ts

@[simp] theorem text_nil : text [] = [] := rfl

@[simp] theorem text_cons (t : Token) (ts : Tokens) : text (t :: ts) = t.text ++ text ts := rfl

@[simp] theorem expansion_nil : expansion [] = [] := rfl

@[simp] theorem expansion_cons (t : Token) (ts : Tokens) : expansion (t :: ts) = t.value ++ expansion ts := rfl

end Tokens

/-! ### One token -/

section
variable {dstlen srclen : Int} {vars : List Var} {i : Nat} {rest dst name : List UInt8} {ch : UInt8} {value : CString}
  {ts : Tokens}

theorem loop_end (h : ¬(i : Int) < srclen) : strexpandLoop dstlen srclen vars i rest dst =
    if dstlen ≤ dst.length then .error .overwrite else .ok ⟨some 0, dst ++ [0], i⟩ := by
  rw [strexpandLoop.eq_def, if_neg h]

theorem loop_char (h : (i : Int) < srclen) (hch : ch ≠ percent) : strexpandLoop dstlen srclen vars i (ch :: rest) dst =
    if dstlen ≤ dst.length then .error .overwrite
    else if dstlen - 1 ≤ dst.length + 1 then .ok ⟨some (-1), dst ++ [ch], i + 1⟩
    else strexpandLoop dstlen srclen vars (i + 1) rest (dst ++ [ch]) := by
  rw [strexpandLoop, if_pos h]
  simp only [if_pos hch]

theorem loop_var (h : (i : Int) < srclen) (hname : percent ∉ name) (hfind : Var.find vars name = some value)
    (hlen : name.length < 2 ^ 31) :
    strexpandLoop dstlen srclen vars i (percent :: (name ++ [percent] ++ rest)) dst =
      if varSize ≤ name.length then .ok ⟨none, dst, i + 2 + name.length⟩
      else if cInt value.bytes.length < 0 ∨ dstlen < dst.length + cInt value.bytes.length then .error .overwrite
      else strexpandLoop dstlen srclen vars (i + 2 + name.length) rest
        (dst ++ value.bytes.take (cInt value.bytes.length).toNat) := by
  have hstr : (name ++ [percent] ++ rest).takeWhile (· ≠ percent) = name := by
    have hall : ∀ b ∈ name, decide (b ≠ percent) = true := by
      intro b hb
      simp only [ne_eq, decide_not, Bool.not_eq_true', decide_eq_false_iff_not]
      rintro rfl
      exact hname hb
    rw [List.append_assoc, List.takeWhile_append_of_pos hall]
    simp
  have hterm : name.length ≠ (name ++ [percent] ++ rest).length := by simp
  rw [strexpandLoop, if_pos h]
  simp only [ne_eq, not_true_eq_false, if_false, hstr, if_neg hterm, cInt_of_lt hlen, List.take_length, hfind, Int.toNat_natCast]
  by_cases hsize : varSize ≤ name.length
  · rw [if_pos hsize, if_pos (.inr (by exact_mod_cast hsize))]
  · rw [if_neg hsize, if_neg (by omega)]
    simp


/-! ### All of them -/

/-- What the loop is at: the tokens that are left, behind `i`, up to `srclen`. -/
structure At (srclen : Int) (vars : List Var) (i : Nat) (ts : Tokens) : Prop where
  ends : (i : Int) + ts.text.length = srclen
  small : srclen < 2 ^ 31
  valid : ∀ t ∈ ts, t.Valid vars

theorem At.next {t : Token} (h : At srclen vars i (t :: ts)) :
    (i : Int) < srclen ∧ t.Valid vars ∧ At srclen vars (i + t.text.length) ts := by
  have hends := h.ends
  obtain ⟨hvalid, hrest⟩ := List.forall_mem_cons.mp h.valid
  have hpos : 0 < t.text.length := by cases t <;> simp [Token.text]
  rw [Tokens.text_cons, List.length_append] at hends
  exact ⟨by omega, hvalid, ⟨by omega, h.small, hrest⟩⟩

/-- The next token, by its kind. -/
theorem At.char (h : At srclen vars i (.char ch :: ts)) (dstlen : Int) (dst tail : List UInt8) :
    At srclen vars (i + 1) ts ∧ strexpandLoop dstlen srclen vars i (Tokens.text (.char ch :: ts) ++ tail) dst =
      if dstlen ≤ dst.length then .error .overwrite
      else if dstlen - 1 ≤ dst.length + 1 then .ok ⟨some (-1), dst ++ [ch], i + 1⟩
      else strexpandLoop dstlen srclen vars (i + 1) (ts.text ++ tail) (dst ++ [ch]) := by
  obtain ⟨hlt, hch, hnext⟩ := h.next
  exact ⟨hnext, loop_char hlt hch⟩

theorem At.var (h : At srclen vars i (.var name value :: ts)) (dstlen : Int) (dst tail : List UInt8) :
    At srclen vars (i + 2 + name.length) ts ∧
      strexpandLoop dstlen srclen vars i (Tokens.text (.var name value :: ts) ++ tail) dst =
        if varSize ≤ name.length then .ok ⟨none, dst, i + 2 + name.length⟩
        else if cInt value.bytes.length < 0 ∨ dstlen < dst.length + cInt value.bytes.length then .error .overwrite
        else strexpandLoop dstlen srclen vars (i + 2 + name.length) (ts.text ++ tail)
          (dst ++ value.bytes.take (cInt value.bytes.length).toNat) := by
  obtain ⟨hlt, ⟨hname, hfind⟩, hnext⟩ := h.next
  have hends := hnext.ends
  have hsmall := hnext.small
  have hlen : (Token.var name value).text.length = 2 + name.length := by
    simp only [Token.text, List.length_cons, List.length_append, List.length_nil]
    omega
  rw [hlen, ← Nat.add_assoc] at hnext
  refine ⟨hnext, ?_⟩
  rw [← loop_var hlt hname hfind (by omega), Tokens.text_cons, Token.text]
  simp

/-- What room there is behind what was copied. -/
theorem room_append (dstlen : Int) (dst copied : List UInt8) :
    dstlen - 1 - ((dst ++ copied).length : Int) = dstlen - 1 - dst.length - copied.length := by
  rw [List.length_append]
  omega

theorem length_copied {n : Int} (hlow : 0 ≤ n) (hn : n = cInt value.bytes.length) :
    ((value.bytes.take n.toNat).length : Int) = n := by
  have hle : n ≤ value.bytes.length := by
    rw [hn, cInt, Int.bmod_def]
    omega
  rw [List.length_take]
  omega

/-- All of the expansion is copied. -/
theorem loop_copies (h : At srclen vars i ts) (hcopies : ts.Copies (dstlen - 1 - dst.length))
    (hfits : dst.length + ts.expansion.length < dstlen) (hdst : dstlen < 2 ^ 31) (tail : List UInt8) :
    strexpandLoop dstlen srclen vars i (ts.text ++ tail) dst = .ok ⟨some 0, dst ++ ts.expansion ++ [0], srclen.toNat⟩ := by
  induction ts generalizing i dst with
  | nil =>
    have hends := h.ends
    simp only [Tokens.text_nil, List.length_nil, Tokens.expansion_nil] at hends hfits
    have hi : i = srclen.toNat := by omega
    rw [loop_end (by omega), if_neg (by omega), Tokens.expansion_nil, List.append_nil, hi]
  | cons t ts ih =>
    simp only [Tokens.expansion_cons, List.length_append] at hfits
    cases t with
    | char ch =>
      obtain ⟨hroom, hrest⟩ := hcopies
      obtain ⟨hnext, hloop⟩ := h.char dstlen dst tail
      rw [hloop, if_neg (by omega), if_neg (by omega), ih hnext]
      · simp [Token.value]
      · rw [room_append]
        exact hrest
      · rw [List.length_append]
        simp only [Token.value] at hfits
        omega
    | var name value =>
      obtain ⟨hname, hrest⟩ := hcopies
      obtain ⟨hnext, hloop⟩ := h.var dstlen dst tail
      simp only [Token.value] at hfits
      have hint : cInt value.bytes.length = value.bytes.length := cInt_of_lt (by omega)
      rw [hloop, if_neg (by omega), hint, if_neg (by omega), Int.toNat_natCast, List.take_length, ih hnext]
      · simp [Token.value]
      · rw [room_append]
        exact hrest
      · rw [List.length_append]
        omega

/-- Somewhere a character fills what room there is, or a name is too long. -/
theorem loop_refuses (h : At srclen vars i ts) (hcopies : ¬ts.Copies (dstlen - 1 - dst.length))
    (hfits : dst.length + ts.expansion.length < dstlen) (hdst : dstlen < 2 ^ 31) (tail : List UInt8) :
    ∃ o, strexpandLoop dstlen srclen vars i (ts.text ++ tail) dst = .ok o ∧ o.result ≠ some 0 := by
  induction ts generalizing i dst with
  | nil => exact absurd trivial hcopies
  | cons t ts ih =>
    simp only [Tokens.expansion_cons, List.length_append] at hfits
    cases t with
    | char ch =>
      obtain ⟨hnext, hloop⟩ := h.char dstlen dst tail
      rw [hloop, if_neg (by omega)]
      by_cases hroom : dstlen - 1 ≤ dst.length + 1
      · exact ⟨_, if_pos hroom, nofun⟩
      · rw [if_neg hroom]
        refine ih hnext (fun hrest => hcopies ⟨by omega, ?_⟩) ?_
        · rw [room_append] at hrest
          exact hrest
        · rw [List.length_append]
          simp only [Token.value] at hfits
          omega
    | var name value =>
      obtain ⟨hnext, hloop⟩ := h.var dstlen dst tail
      simp only [Token.value] at hfits
      have hint : cInt value.bytes.length = value.bytes.length := cInt_of_lt (by omega)
      rw [hloop]
      by_cases hname : varSize ≤ name.length
      · exact ⟨_, if_pos hname, nofun⟩
      · rw [if_neg hname, hint, if_neg (by omega), Int.toNat_natCast, List.take_length]
        refine ih hnext (fun hrest => hcopies ⟨by omega, ?_⟩) ?_
        · rw [room_append] at hrest
          exact hrest
        · rw [List.length_append]
          omega

/-- The loop leaves before it writes too much. -/
theorem loop_stops (h : At srclen vars i ts) (hstops : ts.Stops (dstlen - 1 - dst.length)) (tail : List UInt8) :
    ∃ o, strexpandLoop dstlen srclen vars i (ts.text ++ tail) dst = .ok o ∧ o.result ≠ some 0 ∧ o.consumed ≤ srclen := by
  induction ts generalizing i dst with
  | nil => exact absurd hstops id
  | cons t ts ih =>
    cases t with
    | char ch =>
      obtain ⟨hroom, hrest⟩ := hstops
      obtain ⟨hnext, hloop⟩ := h.char dstlen dst tail
      have hends := hnext.ends
      rw [hloop, if_neg (by omega)]
      by_cases hfull : dstlen - 1 ≤ dst.length + 1
      · exact ⟨_, if_pos hfull, nofun, by simp only; omega⟩
      · rw [if_neg hfull]
        refine ih hnext ?_
        rw [room_append]
        exact hrest.resolve_left (by omega)
    | var name value =>
      obtain ⟨hnext, hloop⟩ := h.var dstlen dst tail
      have hends := hnext.ends
      rw [hloop]
      by_cases hname : varSize ≤ name.length
      · exact ⟨_, if_pos hname, nofun, by simp only; omega⟩
      · obtain ⟨hlow, hhigh, hrest⟩ := hstops.resolve_left hname
        rw [if_neg hname, if_neg (by omega)]
        refine ih hnext ?_
        rw [room_append, length_copied hlow rfl]
        exact hrest

/-- If it does not, it writes too much, or comes to the end of the source. -/
theorem loop_overruns (h : At srclen vars i ts) (hstops : ¬ts.Stops (dstlen - 1 - dst.length)) (tail : List UInt8) {o : Expanded}
    (ho : strexpandLoop dstlen srclen vars i (ts.text ++ tail) dst = .ok o) : o.result = some 0 := by
  induction ts generalizing i dst with
  | nil =>
    have hends := h.ends
    simp only [Tokens.text_nil, List.length_nil] at hends
    rw [loop_end (by omega)] at ho
    split at ho
    · cases ho
    · cases ho
      rfl
  | cons t ts ih =>
    cases t with
    | char ch =>
      obtain ⟨hnext, hloop⟩ := h.char dstlen dst tail
      rw [hloop] at ho
      split at ho
      · cases ho
      · rename_i hroom
        by_cases hfull : dstlen - 1 ≤ dst.length + 1
        · exact absurd ⟨by omega, .inl (by omega)⟩ hstops
        · rw [if_neg hfull] at ho
          refine ih hnext (fun hrest => hstops ⟨by omega, .inr ?_⟩) ho
          rw [room_append] at hrest
          exact hrest
    | var name value =>
      obtain ⟨hnext, hloop⟩ := h.var dstlen dst tail
      rw [hloop] at ho
      split at ho
      · rename_i hname
        exact absurd (.inl hname) hstops
      split at ho
      · cases ho
      · rename_i hcopied
        refine ih hnext (fun hrest => hstops (.inr ⟨by omega, by omega, ?_⟩)) ho
        rw [room_append, length_copied (by omega) rfl] at hrest
        exact hrest

end

/-! ### Any source -/

/-- How much of the source is meant. -/
def givenLength (src : CString) (srclen : Int32) : Nat := if srclen ≤ 0 then src.bytes.length else srclen.toInt.toNat

/-- What is meant lies in the string, and consists of these tokens. -/
structure Spelled (vars : List Var) (src : CString) (srclen : Int32) (ts : Tokens) : Prop where
  within : givenLength src srclen ≤ src.bytes.length
  text : src.bytes.take (givenLength src srclen) = ts.text
  valid : ∀ t ∈ ts, t.Valid vars

/-- Nothing is read or written where it should not be, the result is 0 exactly if there is room for the expansion, and
    then that is what was written. -/
def ExpandsRight (dstlen : Int32) (src : CString) (srclen : Int32) (vars : List Var) (ts : Tokens) : Prop :=
  ∃ o, strexpand dstlen src srclen vars = .ok o ∧ o.consumed ≤ givenLength src srclen ∧
    (o.result = some 0 ↔ ts.expansion.length + 1 ≤ dstlen.toInt) ∧ (o.result = some 0 → o.dst = ts.expansion ++ [0])

/-- An expansion that fits is copied, and one that does not is stopped in time; or the length of the source has become
    negative, and nothing was to be copied. -/
def Expandable (dstlen : Int32) (src : CString) (srclen : Int32) (ts : Tokens) : Prop :=
  dstlen < 1 ∨
    (sourceLength src srclen = givenLength src srclen ∧
      (ts.expansion.length < dstlen.toInt → ts.Copies (dstlen.toInt - 1)) ∧
      (dstlen.toInt ≤ ts.expansion.length → ts.Stops (dstlen.toInt - 1))) ∨
    sourceLength src srclen ≤ 0 ∧ ts.expansion = []

section
variable {dstlen srclen : Int32} {src : CString} {vars : List Var} {ts : Tokens}

theorem Spelled.start (h : Spelled vars src srclen ts) (hlen : sourceLength src srclen = givenLength src srclen) :
    At (sourceLength src srclen) vars 0 ts ∧ ts.text ++ src.bytes.drop (givenLength src srclen) = src.bytes := by
  refine ⟨⟨?_, ?_, h.valid⟩, ?_⟩
  · rw [← h.text, List.length_take, Nat.min_eq_left h.within, hlen]
    exact Int.zero_add _
  · rw [sourceLength]
    split
    · exact Int.bmod_lt (by decide)
    · exact srclen.toInt_lt
  · rw [← h.text, List.take_append_drop]

theorem strexpand_of_pos (h : ¬dstlen < 1) : strexpand dstlen src srclen vars =
    strexpandLoop dstlen.toInt (sourceLength src srclen) vars 0 src.bytes [] := if_neg h

theorem pos_of_not_lt_one (h : ¬dstlen < 1) : 1 ≤ dstlen.toInt := by
  rw [Int32.lt_iff_toInt_lt] at h
  exact Int.not_lt.mp h

/-- The whole of what is meant is gone through. -/
theorem Spelled.right_iff (h : Spelled vars src srclen ts) (hdst : ¬dstlen < 1)
    (hlen : sourceLength src srclen = givenLength src srclen) : ExpandsRight dstlen src srclen vars ts ↔
      (ts.expansion.length < dstlen.toInt → ts.Copies (dstlen.toInt - 1)) ∧
        (dstlen.toInt ≤ ts.expansion.length → ts.Stops (dstlen.toInt - 1)) := by
  obtain ⟨hat, hsrc⟩ := h.start hlen
  have hpos := pos_of_not_lt_one hdst
  have hmax := dstlen.toInt_lt
  have hroom : dstlen.toInt - 1 - ([] : List UInt8).length = dstlen.toInt - 1 := by simp
  rw [ExpandsRight, strexpand_of_pos hdst, ← hsrc]
  constructor
  · rintro ⟨o, ho, -, hresult, -⟩
    refine ⟨fun hfits => ?_, fun hlong => ?_⟩
    · by_contra hcopies
      obtain ⟨o', ho', hne⟩ := loop_refuses hat (by rwa [hroom]) (by simpa using hfits) hmax _
      cases ho.symm.trans ho'
      exact hne (hresult.mpr (by omega))
    · by_contra hstops
      have hzero := hresult.mp (loop_overruns hat (by rwa [hroom]) _ ho)
      omega
  · rintro ⟨hcopies, hstops⟩
    by_cases hfits : ts.expansion.length < dstlen.toInt
    · refine ⟨_, loop_copies hat (by rw [hroom]; exact hcopies hfits) (by simpa using hfits) hmax _, ?_, ?_, ?_⟩
      · simp [hlen]
      · exact iff_of_true rfl (by omega)
      · simp
    · obtain ⟨o, ho, hne, hconsumed⟩ := loop_stops hat (by rw [hroom]; exact hstops (by omega)) (src.bytes.drop (givenLength src srclen))
      refine ⟨o, ho, ?_, iff_of_false hne (by omega), fun hzero => absurd hzero hne⟩
      rw [hlen] at hconsumed
      exact_mod_cast hconsumed

/-- A length that has become negative: nothing is copied. -/
theorem right_of_nonpos (hdst : ¬dstlen < 1) (hlen : sourceLength src srclen ≤ 0) :
    ExpandsRight dstlen src srclen vars ts ↔ ts.expansion = [] := by
  have hpos := pos_of_not_lt_one hdst
  have hrun : strexpand dstlen src srclen vars = .ok ⟨some 0, [0], 0⟩ := by
    rw [strexpand_of_pos hdst, loop_end (by simpa using hlen), if_neg (by simp; omega)]
    rfl
  rw [ExpandsRight]
  constructor
  · rintro ⟨o, ho, -, -, hcopied⟩
    cases hrun.symm.trans ho
    simpa using hcopied rfl
  · intro hempty
    refine ⟨_, hrun, Nat.zero_le _, iff_of_true rfl ?_, fun _ => ?_⟩
    · rw [hempty]
      simpa using hpos
    · rw [hempty]
      rfl

/-- strexpand() does what it should in these cases, and in no others but where the length of a whole source has come
    back to a positive `int`. -/
theorem strexpand_right (h : Spelled vars src srclen ts) :
    (Expandable dstlen src srclen ts → ExpandsRight dstlen src srclen vars ts) ∧
      (sourceLength src srclen = givenLength src srclen ∨ sourceLength src srclen ≤ 0 →
        ExpandsRight dstlen src srclen vars ts → Expandable dstlen src srclen ts) := by
  by_cases hdst : dstlen < 1
  · refine ⟨fun _ => ⟨_, if_pos hdst, Nat.zero_le _, iff_of_false nofun ?_, nofun⟩, fun _ _ => .inl hdst⟩
    rw [Int32.lt_iff_toInt_lt] at hdst
    have : dstlen.toInt < 1 := hdst
    omega
  · refine ⟨fun hexp => ?_, fun hlen hright => ?_⟩
    · rcases hexp with hsmall | ⟨hlen, hcond⟩ | ⟨hlen, hempty⟩
      · exact absurd hsmall hdst
      · exact (h.right_iff hdst hlen).mpr hcond
      · exact (right_of_nonpos hdst hlen).mpr hempty
    · rcases hlen with hlen | hlen
      · exact .inr (.inl ⟨hlen, (h.right_iff hdst hlen).mp hright⟩)
      · exact .inr (.inr ⟨hlen, (right_of_nonpos hdst hlen).mp hright⟩)

end

/-- A variable `A` for `xy`. -/
def shortVars : List Var := [⟨.ofBytes [65], some (.ofBytes [120, 121])⟩]

theorem shortVars_valid : (Token.var [65] (.ofBytes [120, 121])).Valid shortVars := ⟨by decide, rfl⟩

/-- `/%A%` in five bytes. -/
theorem strexpand_right_once : ExpandsRight 5 (.ofBytes [47, 37, 65, 37]) 4 shortVars
    [.char 47, .var [65] (.ofBytes [120, 121])] := by
  have hspelled : Spelled shortVars (.ofBytes [47, 37, 65, 37]) 4 [.char 47, .var [65] (.ofBytes [120, 121])] := by
    refine ⟨by decide, rfl, ?_⟩
    intro t ht
    rcases List.mem_cons.mp ht with rfl | ht
    · exact (by decide : (47 : UInt8) ≠ percent)
    · cases List.mem_singleton.mp ht
      exact shortVars_valid
  refine (strexpand_right hspelled).1 (.inr (.inl ⟨rfl, fun _ => ⟨by decide, by decide, trivial⟩, fun hlong => ?_⟩))
  exact absurd hlong (by decide)

/-- In two bytes `%A%` leaves no room for the terminator, which is written all the same. -/
theorem strexpand_overruns : ¬∀ dstlen src srclen vars ts, Spelled vars src srclen ts →
    ExpandsRight dstlen src srclen vars ts := by
  intro h
  have hspelled : Spelled shortVars (.ofBytes [37, 65, 37]) 0 [.var [65] (.ofBytes [120, 121])] := by
    refine ⟨by decide, rfl, ?_⟩
    intro t ht
    cases List.mem_singleton.mp ht
    exact shortVars_valid
  rcases (strexpand_right hspelled).2 (.inl (by decide)) (h 2 _ _ _ _ hspelled) with hsmall | ⟨-, -, hstops⟩ | ⟨-, hempty⟩
  · exact absurd hsmall (by decide)
  · rcases hstops (by decide) with hname | ⟨-, -, hnone⟩
    · exact absurd hname (by decide)
    · exact hnone
  · cases hempty

end NSPluginWrapper
