import Mathlib.Data.List.TakeWhile
import NSPluginWrapper.Plugin.Javascript

/-! What on_stream_close_cb reads of a javascript: url. The strings are found as they are quoted; one that is not closed
    has the loop go on behind the terminator. -/

namespace NSPluginWrapper
open Lib

namespace Javascript
variable {ch : UInt8} {code code' inner lead rest str text t : List UInt8} {r : Option (List UInt8)}

def Blank (bs : List UInt8) : Prop := ∀ ch ∈ bs, gAsciiIsspace ch = true

/-- Any number of terms with blanks around them, and what their strings make together. -/
inductive Concatenation : List UInt8 → List UInt8 → Prop where
  | nil : Concatenation [] []
  | blank {ch : UInt8} {code text : List UInt8} : gAsciiIsspace ch = true → Concatenation code text →
      Concatenation (ch :: code) text
  | term {inner str code text : List UInt8} : Blank inner → quote ∉ str → Concatenation code text →
      Concatenation (plus :: (inner ++ quote :: (str ++ quote :: code))) (str ++ text)

/-- After some terms, a string is not closed that has at least one character. -/
inductive Unclosed : List UInt8 → Prop where
  | here {inner str : List UInt8} : Blank inner → quote ∉ str → str ≠ [] →
      Unclosed (plus :: (inner ++ quote :: str))
  | blank {ch : UInt8} {code : List UInt8} : gAsciiIsspace ch = true → Unclosed code → Unclosed (ch :: code)
  | term {inner str code : List UInt8} : Blank inner → quote ∉ str → Unclosed code →
      Unclosed (plus :: (inner ++ quote :: (str ++ quote :: code)))

/-! ### Scans -/

theorem dropWhile_blank (h : Blank inner) (hch : gAsciiIsspace ch = false) :
    (inner ++ ch :: code).dropWhile gAsciiIsspace = ch :: code := by
  rw [List.dropWhile_append_of_pos h, List.dropWhile_cons_of_neg (by simp [hch])]

theorem ne_quote (h : quote ∉ str) : ∀ ch ∈ str, decide (ch ≠ quote) = true := by
  intro ch hch
  rw [decide_eq_true_eq]
  rintro rfl
  exact h hch

theorem dropWhile_string (code : List UInt8) (h : quote ∉ str) :
    (str ++ quote :: code).dropWhile (· ≠ quote) = quote :: code ∧
      (str ++ quote :: code).takeWhile (· ≠ quote) = str := by
  rw [List.dropWhile_append_of_pos (ne_quote h), List.takeWhile_append_of_pos (ne_quote h)]
  simp

/-- A scan stops at the end, or at the first character that is not skipped. -/
theorem dropWhile_cases (p : UInt8 → Bool) (bs : List UInt8) : (bs.dropWhile p = [] ∧ ∀ b ∈ bs, p b = true) ∨
    ∃ b rest, bs.dropWhile p = b :: rest ∧ p b = false ∧ bs = bs.takeWhile p ++ b :: rest := by
  cases h : bs.dropWhile p with
  | nil => exact .inl ⟨rfl, List.dropWhile_eq_nil_iff.mp h⟩
  | cons b rest =>
    refine .inr ⟨b, rest, rfl, ?_, ?_⟩
    · have hhead := List.head_dropWhile_not p (l := bs) (by simp [h])
      simpa [h] using hhead
    · rw [← h, List.takeWhile_append_dropWhile]

theorem blank_takeWhile : Blank (code.takeWhile gAsciiIsspace) :=
  fun _ hch => List.all_eq_true.mp List.all_takeWhile _ hch

theorem quote_notMem_takeWhile : quote ∉ str.takeWhile (· ≠ quote) := by
  intro hmem
  simpa using List.all_eq_true.mp List.all_takeWhile _ hmem

/-! ### One round -/

theorem nextString_blank (h : gAsciiIsspace ch = true) : nextString (ch :: code) = nextString code := by
  rw [nextString, List.dropWhile_cons_of_pos h, nextString]

theorem nextString_term (h : Blank inner) (hstr : quote ∉ str) :
    nextString (plus :: (inner ++ quote :: (str ++ quote :: code))) = .ok (.string str code) := by
  obtain ⟨hdrop, htake⟩ := dropWhile_string code hstr
  rw [nextString, List.dropWhile_cons_of_neg (by decide)]
  dsimp only
  rw [if_neg (by simp), dropWhile_blank h (by decide)]
  dsimp only
  rw [if_neg (by simp), hdrop, htake]

theorem nextString_unclosed (h : Blank inner) (hstr : quote ∉ str) (hne : str ≠ []) :
    nextString (plus :: (inner ++ quote :: str)) = .error .overread := by
  rw [nextString, List.dropWhile_cons_of_neg (by decide)]
  dsimp only
  rw [if_neg (by simp), dropWhile_blank h (by decide)]
  dsimp only
  rw [if_neg (by simp [hne]), List.dropWhile_eq_nil_iff.mpr (ne_quote hstr)]

/-- What a round says of the code, by its outcome. -/
def Reads (code : List UInt8) : Except Fault Item → Prop
  | .ok .done => Blank code
  | .ok .malformed => True
  | .ok (.string str rest) => ∃ lead inner, Blank lead ∧ Blank inner ∧ quote ∉ str ∧
      code = lead ++ plus :: (inner ++ quote :: (str ++ quote :: rest))
  | .error _ => ∃ lead inner str, Blank lead ∧ Blank inner ∧ quote ∉ str ∧ str ≠ [] ∧
      code = lead ++ plus :: (inner ++ quote :: str)

theorem nextString_reads (code : List UInt8) : Reads code (nextString code) := by
  rw [nextString]
  rcases dropWhile_cases gAsciiIsspace code with ⟨hnil, hblank⟩ | ⟨ch₁, jscode, hcons, -, hcode⟩
  · rw [hnil]
    exact hblank
  rw [hcons]
  dsimp only
  split
  · trivial
  · rename_i hplus
    obtain ⟨rfl, -⟩ : ch₁ = plus ∧ jscode ≠ [] := by simpa using hplus
    rcases dropWhile_cases gAsciiIsspace jscode with ⟨hnil, -⟩ | ⟨ch₂, quoted, hcons', -, hjscode⟩
    · rw [hnil]
      trivial
    rw [hcons']
    dsimp only
    split
    · trivial
    · rename_i hquote
      obtain ⟨rfl, hne⟩ : ch₂ = quote ∧ quoted ≠ [] := by simpa using hquote
      rcases dropWhile_cases (· ≠ quote) quoted with ⟨hnil, hall⟩ | ⟨ch₃, rest, hcons'', hstop, hquoted⟩
      · rw [hnil]
        refine ⟨_, _, quoted, blank_takeWhile, blank_takeWhile, fun hmem => ?_, hne, hjscode ▸ hcode⟩
        simpa using hall quote hmem
      · obtain rfl : ch₃ = quote := by simpa using hstop
        rw [hcons'']
        refine ⟨code.takeWhile gAsciiIsspace, jscode.takeWhile gAsciiIsspace, blank_takeWhile, blank_takeWhile, quote_notMem_takeWhile, ?_⟩
        rw [← hquoted, ← hjscode]
        exact hcode

/-! ### The loop -/

theorem concatenate_eq (code text : List UInt8) : concatenate code text = match nextString code with
    | .error e => .error e
    | .ok .done => .ok (some text)
    | .ok .malformed => .ok none
    | .ok (.string str rest) => concatenate rest (text ++ str) := by
  rw [concatenate]
  split <;> rename_i h <;> simp [h]

theorem concatenate_blank (h : gAsciiIsspace ch = true) : concatenate (ch :: code) text = concatenate code text := by
  rw [concatenate_eq, nextString_blank h, ← concatenate_eq]

theorem concatenate_term (h : Blank inner) (hstr : quote ∉ str) :
    concatenate (plus :: (inner ++ quote :: (str ++ quote :: code))) text = concatenate code (text ++ str) := by
  rw [concatenate_eq, nextString_term h hstr]

theorem Concatenation.accepted (h : Concatenation code t) : concatenate code text = .ok (some (text ++ t)) := by
  induction h generalizing text with
  | nil => rw [concatenate_eq, List.append_nil]; rfl
  | blank hch _ ih => rw [concatenate_blank hch, ih]
  | term hinner hstr _ ih => rw [concatenate_term hinner hstr, ih, List.append_assoc]

theorem Unclosed.overread (h : Unclosed code) : concatenate code text = .error .overread := by
  induction h generalizing text with
  | here hinner hstr hne => rw [concatenate_eq, nextString_unclosed hinner hstr hne]
  | blank hch _ ih => rw [concatenate_blank hch, ih]
  | term hinner hstr _ ih => rw [concatenate_term hinner hstr, ih]

theorem Concatenation.behind (hlead : Blank lead) (h : Concatenation code t) : Concatenation (lead ++ code) t := by
  induction lead with
  | nil => exact h
  | cons ch lead ih =>
    obtain ⟨hch, hlead⟩ := List.forall_mem_cons.mp hlead
    exact .blank hch (ih hlead)

theorem Unclosed.behind (hlead : Blank lead) (h : Unclosed code) : Unclosed (lead ++ code) := by
  induction lead with
  | nil => exact h
  | cons ch lead ih =>
    obtain ⟨hch, hlead⟩ := List.forall_mem_cons.mp hlead
    exact .blank hch (ih hlead)

/-- What the loop says of the code, by its outcome. -/
theorem concatenate_reads (code text : List UInt8) :
    (∀ r, concatenate code text = .ok (some r) → ∃ t, Concatenation code t ∧ r = text ++ t) ∧
      ((∃ e, concatenate code text = .error e) → Unclosed code) := by
  induction hn : code.length using Nat.strong_induction_on generalizing code text with
  | _ n ih =>
    have hreads := nextString_reads code
    rw [concatenate_eq]
    cases hnext : nextString code with
    | error e =>
      rw [hnext] at hreads
      obtain ⟨lead, inner, str, hlead, hinner, hstr, hne, rfl⟩ := hreads
      exact ⟨nofun, fun _ => (Unclosed.here hinner hstr hne).behind hlead⟩
    | ok item =>
      rw [hnext] at hreads
      cases item with
      | done =>
        refine ⟨?_, nofun⟩
        rintro _ ⟨⟩
        refine ⟨[], ?_, by simp⟩
        simpa using Concatenation.nil.behind hreads
      | malformed => exact ⟨nofun, nofun⟩
      | string str rest =>
        obtain ⟨hok, herror⟩ := ih _ (hn ▸ nextString_shorter hnext) rest (text ++ str) rfl
        obtain ⟨lead, inner, hlead, hinner, hstr, rfl⟩ := hreads
        refine ⟨fun r hr => ?_, fun he => ((herror he).term hinner hstr).behind hlead⟩
        obtain ⟨t, ht, rfl⟩ := hok r hr
        exact ⟨str ++ t, (ht.term hinner hstr).behind hlead, List.append_assoc ..⟩

/-- All strings of a concatenation are closed. -/
theorem Concatenation.closed (h : Concatenation code t) : ¬Unclosed code := by
  intro hopen
  have hok : concatenate code [] = _ := h.accepted
  rw [hopen.overread] at hok
  cases hok

/-! ### The url -/

/-- A javascript: url that starts with top.location, and the code behind that. -/
def TopLocation (url : CString) (jscode : List UInt8) : Prop :=
  ∃ scheme location, url.bytes = scheme ++ location ++ jscode ∧ scheme.map gAsciiTolower = ascii "javascript:" ∧
    location.map gAsciiTolower = ascii "top.location"

theorem startsWith_append (code lower : List UInt8) (h : str.map gAsciiTolower = lower) :
    startsWith (str ++ code) lower = true ∧ (str ++ code).drop lower.length = code := by
  have hlen : lower.length = str.length := by
    rw [← h, List.length_map]
  rw [startsWith, hlen, List.take_left, List.drop_left]
  simpa using h

theorem TopLocation.javascript {url : CString} (h : TopLocation url code) (src : Option CString) :
    javascript src url = some <$> concatenate code ((src.map CString.bytes).getD []) := by
  obtain ⟨scheme, location, hurl, hscheme, hlocation⟩ := h
  obtain ⟨hstarts, hdrop⟩ := startsWith_append (location ++ code) _ hscheme
  obtain ⟨hstarts', hdrop'⟩ := startsWith_append code _ hlocation
  have hlen : (ascii "javascript:").length = 11 := rfl
  have hlen' : (ascii "top.location").length = 12 := rfl
  rw [hlen] at hdrop
  rw [hlen'] at hdrop'
  rw [Javascript.javascript, hurl, List.append_assoc, if_pos hstarts, hdrop]
  dsimp only
  rw [if_pos hstarts', hdrop']

/-- No byte behind the terminator is read, and a text is delivered for a concatenation only: the url of the page, and
    the strings. -/
def Parsed (src : Option CString) (url : CString) (jscode : List UInt8) : Prop :=
  ∃ r, javascript src url = .ok (some r) ∧
    ∀ text, r = some text ↔ ∃ t, Concatenation jscode t ∧ text = (src.map CString.bytes).getD [] ++ t

/-- The code is parsed right unless it ends in an open string. -/
theorem javascript_parsed_iff (src : Option CString) (url : CString) (jscode : List UInt8) (h : TopLocation url jscode) :
    Parsed src url jscode ↔ ¬Unclosed jscode := by
  obtain ⟨hok, herror⟩ := concatenate_reads jscode ((src.map CString.bytes).getD [])
  rw [Parsed, h.javascript]
  constructor
  · rintro ⟨r, hr, -⟩ hopen
    rw [hopen.overread] at hr
    cases hr
  · intro hclosed
    cases hres : concatenate jscode ((src.map CString.bytes).getD []) with
    | error e => exact absurd (herror ⟨e, hres⟩) hclosed
    | ok r =>
      refine ⟨r, rfl, fun text => ⟨?_, ?_⟩⟩
      · rintro rfl
        exact hok text hres
      · rintro ⟨t, ht, rfl⟩
        rw [ht.accepted] at hres
        cases hres
        rfl

def topLocation (jscode : List UInt8) : CString := .ofBytes (ascii "javascript:top.location" ++ jscode)

theorem topLocation_located (jscode : List UInt8) (h : (0 : UInt8) ∉ jscode) : TopLocation (topLocation jscode) jscode := by
  refine ⟨ascii "javascript:", ascii "top.location", ?_, by decide, by decide⟩
  have hall : ∀ b ∈ ascii "javascript:top.location" ++ jscode, decide (b ≠ 0) = true := by
    have hnone : (ascii "javascript:top.location").all (fun b => decide (b ≠ 0)) = true := by decide
    refine List.forall_mem_append.mpr ⟨List.all_eq_true.mp hnone, fun b hb => ?_⟩
    rw [decide_eq_true_eq]
    rintro rfl
    exact h hb
  exact (List.takeWhile_eq_self_iff.mpr hall : (topLocation jscode).bytes = _)

/-- One string, with a blank before each of its quotes and its plus. -/
theorem javascript_parsed_once : Parsed none (topLocation [32, 43, 32, 34, 98, 34]) [32, 43, 32, 34, 98, 34] := by
  refine (javascript_parsed_iff none _ _ (topLocation_located _ (by decide))).mpr (Concatenation.closed (t := [98]) ?_)
  exact .blank rfl (@Concatenation.term [32] [98] [] [] (by simp [Blank, gAsciiIsspace]) (by decide) .nil)

/-- The string is not closed, and the loop goes on behind the url. -/
theorem javascript_overread : ¬ ∀ src url jscode, TopLocation url jscode → Parsed src url jscode := by
  intro h
  have hlocated := topLocation_located [43, 34, 97] (by decide)
  obtain ⟨r, hr, -⟩ := h none _ _ hlocated
  have hopen : Unclosed [43, 34, 97] := @Unclosed.here [] [97] nofun (by decide) nofun
  rw [hlocated.javascript, hopen.overread] at hr
  cases hr

end Javascript
end NSPluginWrapper
