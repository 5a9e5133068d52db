import NSPluginWrapper.Plugin.Detect
import NSPluginWrapper.Theorems.Expand

/-! The search for a viewer leaves out the systems, or the architectures, that a path does not tell apart. It finds what
    trying every path for every pair of them finds, in the same order. -/

namespace NSPluginWrapper
open Lib

/-! ### A path that does not name a variable -/

section
variable {dstlen srclen : Int} {vars others : List Var} {whole rest dst : List UInt8}

/-- Variables are looked up where they are in what is gone through. -/
def Agree (whole : List UInt8) (srclen : Int) (vars others : List Var) : Prop :=
  ∀ (i : Nat) (name : List UInt8), (i : Int) < srclen → Lib.At whole i (percent :: (name ++ [percent])) →
    Var.find vars name = Var.find others name

theorem at_takeWhile (hstr : (rest.takeWhile (· ≠ percent)).length ≠ rest.length) {i : Nat}
    (hrest : whole.drop i = percent :: rest) : Lib.At whole i (percent :: (rest.takeWhile (· ≠ percent) ++ [percent])) := by
  rw [Lib.At, hrest, List.cons_prefix_cons]
  refine ⟨rfl, ?_⟩
  have hsplit := List.takeWhile_append_dropWhile (p := (· ≠ percent)) (l := rest)
  cases hdrop : rest.dropWhile (· ≠ percent) with
  | nil =>
    rw [hdrop, List.append_nil] at hsplit
    exact absurd (congrArg List.length hsplit) hstr
  | cons c tail =>
    have hc : c = percent := by
      have hhead := List.head?_dropWhile_not (· ≠ percent) rest
      rw [hdrop] at hhead
      simpa using hhead
    rw [hdrop, hc] at hsplit
    exact ⟨tail, by rw [List.append_assoc]; exact hsplit⟩

theorem strexpandLoop_agree (h : Agree whole srclen vars others) (hsmall : whole.length < 2 ^ 31) {i : Nat}
    (hrest : whole.drop i = rest) :
    strexpandLoop dstlen srclen vars i rest dst = strexpandLoop dstlen srclen others i rest dst := by
  induction hn : rest.length using Nat.strong_induction_on generalizing i rest dst with
  | _ n ih =>
    subst hn
    rw [strexpandLoop.eq_def, strexpandLoop.eq_def _ _ others]
    by_cases hi : (i : Int) < srclen
    swap
    · rw [if_neg hi, if_neg hi]
    rw [if_pos hi, if_pos hi]
    cases rest with
    | nil => rfl
    | cons ch rest =>
      have hnext (k : Nat) : whole.drop (i + 1 + k) = rest.drop k := by
        rw [← List.drop_drop, ← List.drop_drop, hrest]
        rfl
      have hloop (k : Nat) (d : List UInt8) : strexpandLoop dstlen srclen vars (i + 1 + k) (rest.drop k) d =
          strexpandLoop dstlen srclen others (i + 1 + k) (rest.drop k) d := by
        refine ih (rest.drop k).length ?_ (hnext k) rfl
        rw [List.length_drop, List.length_cons]
        omega
      have hlen : rest.length < 2 ^ 31 := by
        have hle := congrArg List.length hrest
        rw [List.length_drop, List.length_cons] at hle
        omega
      dsimp only
      by_cases hch : ch = percent
      swap
      · have hone : strexpandLoop dstlen srclen vars (i + 1) rest (dst ++ [ch]) =
            strexpandLoop dstlen srclen others (i + 1) rest (dst ++ [ch]) := hloop 0 (dst ++ [ch])
        rw [if_pos hch, if_pos hch, hone]
      · subst hch
        rw [if_neg (not_not_intro rfl), if_neg (not_not_intro rfl)]
        by_cases hterm : (rest.takeWhile (· ≠ percent)).length = rest.length
        · rw [if_pos hterm, if_pos hterm]
        · have hint : cInt (rest.takeWhile (· ≠ percent)).length = (rest.takeWhile (· ≠ percent)).length :=
            cInt_of_lt ((List.takeWhile_prefix _).length_le.trans_lt hlen)
          have hfind := h i _ hi (at_takeWhile hterm hrest)
          have hskip (d : List UInt8) := hloop ((rest.takeWhile (· ≠ percent)).length + 1) d
          simp only [← Nat.add_assoc, Nat.add_right_comm i 1] at hskip
          rw [if_neg hterm, if_neg hterm, hint, Int.toNat_natCast, List.take_length, hfind]
          cases Var.find others (rest.takeWhile (· ≠ percent)) with
          | none => rfl
          | some value =>
            simp only [Nat.add_right_comm i 2]
            rw [hskip]
theorem strexpand_agree {dstlen srclen : Int32} {src : CString} {vars others : List Var}
    (h : Agree src.bytes (sourceLength src srclen) vars others) (hsmall : src.bytes.length < 2 ^ 31) :
    strexpand dstlen src srclen vars = strexpand dstlen src srclen others := by
  rw [strexpand, strexpand, strexpandLoop_agree h hsmall List.drop_zero]

end

/-! ### What a path names -/

section
variable {str substr paths spec name : List UInt8} {len pos : Nat} {arch arch' os os' : CString}

theorem strstr_le (h : Lib.At str pos substr) : ∃ k ≤ pos, strstr str substr = some k := by
  induction str generalizing pos with
  | nil =>
    have hnil : substr = [] := by simpa [Lib.At] using h
    exact ⟨0, Nat.zero_le _, by rw [strstr, hnil]; rfl⟩
  | cons c rest ih =>
    by_cases hprefix : substr.isPrefixOf (c :: rest) = true
    · exact ⟨0, Nat.zero_le _, by rw [strstr, if_pos hprefix]⟩
    · cases pos with
      | zero => exact absurd (List.isPrefixOf_iff_prefix.mpr h) hprefix
      | succ pos =>
        obtain ⟨k, hk, hrest⟩ : ∃ k ≤ pos, strstr rest substr = some k := ih h
        exact ⟨k + 1, Nat.succ_le_succ hk, by rw [strstr, if_neg hprefix]; simp [hrest]⟩

/-- Where it is not found, it is not within the characters that are meant. -/
theorem strnstr_none (h : strnstr str len substr = none) (hat : Lib.At str pos substr) : 0 < len ∧ len < pos + substr.length := by
  obtain ⟨k, hk, hfound⟩ := strstr_le hat
  rw [strnstr, hfound] at h
  by_cases hbeyond : 0 < len ∧ len < k + substr.length
  · exact ⟨hbeyond.1, by omega⟩
  · simp [hbeyond] at h

/-- A part of NPW_VIEWER_PATHS, up to the next colon. -/
structure IsSpec (spec : List UInt8) (len : Nat) : Prop where
  small : spec.length < 2 ^ 31
  unterminated : ∀ b ∈ spec, b ≠ 0
  length : len = (spec.takeWhile (· ≠ colon)).length

theorem viewerPathSpecs_isSpec (hsmall : paths.length < 2 ^ 31) (hz : ∀ b ∈ paths, b ≠ 0) :
    ∀ p ∈ viewerPathSpecs paths, IsSpec p.1 p.2 := by
  induction hn : paths.length using Nat.strong_induction_on generalizing paths with
  | _ n ih =>
    subst hn
    have hself : IsSpec paths (paths.takeWhile (· ≠ colon)).length := ⟨hsmall, hz, rfl⟩
    intro p hp
    rw [viewerPathSpecs] at hp
    split at hp
    · rename_i hlt
      have hdrop := List.length_drop (i := (paths.takeWhile (· ≠ colon)).length + 1) (l := paths)
      rcases List.mem_cons.mp hp with rfl | hp
      · exact hself
      · refine ih _ ?_ ?_ (fun b hb => hz b (List.mem_of_mem_drop hb)) rfl p hp
        · omega
        · omega
    · cases List.mem_singleton.mp hp
      exact hself

theorem find_detectVars : Var.find (detectVars arch os) name =
    if name = ascii "ARCH" then some arch else if name = ascii "OS" then some os else none := by
  by_cases harch : name = ascii "ARCH"
  · subst harch
    rfl
  · by_cases hos : name = ascii "OS"
    · subst hos
      rfl
    · rw [if_neg harch, if_neg hos]
      have ha : ((CString.ofBytes (ascii "ARCH")).bytes == name) = false := by simpa using fun h => harch h.symm
      have ho : ((CString.ofBytes (ascii "OS")).bytes == name) = false := by simpa using fun h => hos h.symm
      simp [Var.find, detectVars, ha, ho]

theorem IsSpec.len_le (h : IsSpec spec len) : len ≤ spec.length := h.length ▸ (List.takeWhile_prefix _).length_le

theorem IsSpec.bytes (h : IsSpec spec len) : (CString.ofBytes spec).bytes = spec :=
  List.takeWhile_eq_self_iff.mpr fun b hb => by simpa using h.unterminated b hb

theorem IsSpec.toInt (h : IsSpec spec len) : (Int32.ofNat len).toInt = len :=
  Int32.toInt_ofNat_of_lt (h.len_le.trans_lt h.small)

theorem IsSpec.not_le_zero (h : IsSpec spec len) (hpos : 0 < len) : ¬Int32.ofNat len ≤ 0 := by
  rw [Int32.le_iff_toInt_le, h.toInt]
  have hzero : (0 : Int32).toInt = 0 := rfl
  omega

theorem IsSpec.sourceLength (h : IsSpec spec len) (hpos : 0 < len) : sourceLength (.ofBytes spec) (.ofNat len) = len := by
  rw [NSPluginWrapper.sourceLength, if_neg (h.not_le_zero hpos), h.toInt]

theorem IsSpec.givenLength (h : IsSpec spec len) (hpos : 0 < len) : givenLength (.ofBytes spec) (.ofNat len) = len := by
  rw [NSPluginWrapper.givenLength, if_neg (h.not_le_zero hpos), h.toInt, Int.toNat_natCast]

/-- What comes after a path is a colon. -/
theorem IsSpec.ends_with_colon (h : IsSpec spec len) {c : UInt8} (hc : spec[len]? = some c) : c = colon := by
  have hsplit := List.takeWhile_append_dropWhile (p := (· ≠ colon)) (l := spec)
  have hhead := List.head?_dropWhile_not (· ≠ colon) spec
  rw [← hsplit, List.getElem?_append_right (h.length ▸ Nat.le_refl _), ← h.length, Nat.sub_self] at hc
  rw [List.head?_eq_getElem?, hc] at hhead
  simpa using hhead

/-- Up to the colon, a name that is not found is not expanded. -/
theorem IsSpec.not_at (h : IsSpec spec len) (hnone : strnstr spec len (percent :: (name ++ [percent])) = none)
    (hname : colon ∉ name) (hlt : (pos : Int) < NSPluginWrapper.sourceLength (.ofBytes spec) (.ofNat len)) :
    ¬Lib.At spec pos (percent :: (name ++ [percent])) := by
  intro hat
  obtain ⟨hpos, hbeyond⟩ := strnstr_none hnone hat
  rw [h.sourceLength hpos] at hlt
  have hget := at_iff.mp hat (len - pos) (by omega)
  have hlen : pos + (len - pos) = len := by omega
  have hsome := List.getElem?_eq_getElem (l := percent :: (name ++ [percent])) (i := len - pos) (by omega)
  rw [hlen, hsome] at hget
  have hcolon := h.ends_with_colon hget
  have hmem : colon ∈ percent :: (name ++ [percent]) := hcolon ▸ List.getElem_mem _
  have hne : colon ≠ percent := by simp [colon, percent]
  simp [hname, hne] at hmem

theorem IsSpec.agree_os (h : IsSpec spec len) (hnone : strnstr spec len (ascii "%OS%") = none) :
    Agree spec (NSPluginWrapper.sourceLength (.ofBytes spec) (.ofNat len)) (detectVars arch os) (detectVars arch os') := by
  intro i n hi hat
  rw [find_detectVars, find_detectVars]
  by_cases hos : n = ascii "OS"
  · subst hos
    exact absurd hat (h.not_at hnone (by decide) hi)
  · rw [if_neg hos, if_neg hos]

theorem IsSpec.agree_arch (h : IsSpec spec len) (hnone : strnstr spec len (ascii "%ARCH%") = none) :
    Agree spec (NSPluginWrapper.sourceLength (.ofBytes spec) (.ofNat len)) (detectVars arch os) (detectVars arch' os) := by
  intro i n hi hat
  rw [find_detectVars, find_detectVars]
  by_cases harch : n = ascii "ARCH"
  · subst harch
    exact absurd hat (h.not_at hnone (by decide) hi)
  · rw [if_neg harch, if_neg harch]

end

/-! ### The search -/

namespace DetectHost

variable (host : DetectHost) {spec : List UInt8} {len : Nat} {arch arch' os os' : CString}

/-- What ends the search, of what comes of a path. -/
def ends : ViewerTry → Option DetectResult
  | .stops e => some (.error e)
  | .runs target => some (.ok (.ok target))
  | .absent | .refuses => none

/-- Nothing is found in a path that has not been found in the same path. -/
theorem ends_none_of_expand (hexpand : expandViewerPath spec len (detectVars arch os) = expandViewerPath spec len (detectVars arch' os'))
    (h : ends (host.tryViewer spec len arch os) = none) : ends (host.tryViewer spec len arch' os') = none := by
  rw [tryViewer] at h ⊢
  rw [← hexpand]
  cases hx : expandViewerPath spec len (detectVars arch os) with
  | error e =>
    rw [hx] at h
    cases h
  | ok r =>
    rw [hx] at h
    cases r with
    | none => rfl
    | some viewerPath =>
      dsimp only at h ⊢
      by_cases haccess : (!host.access viewerPath) = true
      · rw [if_pos haccess]
        rfl
      · rw [if_neg haccess] at h ⊢
        by_cases hok : host.isPluginViewerOk viewerPath = true
        · rw [if_pos hok] at h
          cases h
        · rw [if_neg hok]
          rfl

theorem expandViewerPath_agree {vars others : List Var} (h : IsSpec spec len)
    (hagree : Agree spec (sourceLength (.ofBytes spec) (.ofNat len)) vars others) :
    expandViewerPath spec len vars = expandViewerPath spec len others := by
  have hexpand : strexpand viewerPathLen (.ofBytes spec) (.ofNat len) vars = strexpand viewerPathLen (.ofBytes spec) (.ofNat len) others := by
    apply strexpand_agree
    · rw [h.bytes]
      exact hagree
    · rw [h.bytes]
      exact h.small
  simp only [expandViewerPath, hexpand]

theorem tryOs_found (o : Option CString) :
    (host.tryOs spec len arch o).found = o.bind fun os => ends (host.tryViewer spec len arch os) := by
  cases o with
  | none => rfl
  | some os =>
    rw [tryOs, Option.bind_some]
    cases host.tryViewer spec len arch os with
    | refuses =>
      by_cases hnone : strnstr spec len (ascii "%OS%") = none
      · simp [hnone, ends]
      · simp [hnone, ends]
    | _ => rfl

theorem tryOs_last {o : Option CString} (h : host.tryOs spec len arch o = .last) :
    ∃ os, o = some os ∧ ends (host.tryViewer spec len arch os) = none ∧ strnstr spec len (ascii "%OS%") = none := by
  cases o with
  | none => cases h
  | some os =>
    rw [tryOs] at h
    cases htry : host.tryViewer spec len arch os with
    | refuses =>
      rw [htry] at h
      by_cases hnone : strnstr spec len (ascii "%OS%") = none
      · exact ⟨os, rfl, by rw [htry]; rfl, hnone⟩
      · simp [hnone] at h
    | _ =>
      rw [htry] at h
      cases h

/-- Every system is tried, of those that are known. -/
theorem tryOs_all (hspec : IsSpec spec len) (oss : List (Option CString)) :
    tryEach (host.tryOs spec len arch) oss = oss.findSome? fun o => o.bind fun os => ends (host.tryViewer spec len arch os) := by
  rw [tryEach_eq_findSome?]
  · exact findSome?_congr fun o _ => host.tryOs_found o
  · intro o _ hlast o' _
    obtain ⟨os, rfl, hends, hnone⟩ := host.tryOs_last hlast
    rw [tryOs_found]
    cases o' with
    | none => rfl
    | some os' => exact host.ends_none_of_expand (expandViewerPath_agree hspec (hspec.agree_os hnone)) hends

theorem tryArch_found (oss : List (Option CString)) (a : Option CString) :
    (host.tryArch spec len oss a).found = a.bind fun arch => tryEach (host.tryOs spec len arch) oss := by
  cases a with
  | none => rfl
  | some arch =>
    rw [tryArch, Option.bind_some]
    cases tryEach (host.tryOs spec len arch) oss with
    | some r => rfl
    | none =>
      by_cases hnone : strnstr spec len (ascii "%ARCH%") = none
      · simp [hnone]
      · simp [hnone]

theorem tryArch_last {oss : List (Option CString)} {a : Option CString} (h : host.tryArch spec len oss a = .last) :
    ∃ arch, a = some arch ∧ tryEach (host.tryOs spec len arch) oss = none ∧ strnstr spec len (ascii "%ARCH%") = none := by
  cases a with
  | none => cases h
  | some arch =>
    rw [tryArch] at h
    cases hos : tryEach (host.tryOs spec len arch) oss with
    | some r =>
      rw [hos] at h
      cases h
    | none =>
      rw [hos] at h
      by_cases hnone : strnstr spec len (ascii "%ARCH%") = none
      · exact ⟨arch, rfl, hos, hnone⟩
      · simp [hnone] at h

theorem tryArch_all (hspec : IsSpec spec len) (archs oss : List (Option CString)) :
    tryEach (host.tryArch spec len oss) archs =
      archs.findSome? fun a => a.bind fun arch => oss.findSome? fun o => o.bind fun os => ends (host.tryViewer spec len arch os) := by
  rw [tryEach_eq_findSome?]
  · refine findSome?_congr fun a _ => ?_
    rw [tryArch_found]
    cases a with
    | none => rfl
    | some arch => exact host.tryOs_all hspec oss
  · intro a _ hlast a' _
    obtain ⟨arch, rfl, hends, hnone⟩ := host.tryArch_last hlast
    rw [tryArch_found]
    cases a' with
    | none => rfl
    | some arch' =>
      rw [Option.bind_some]
      rw [tryOs_all _ hspec, List.findSome?_eq_none_iff] at hends ⊢
      intro o ho
      cases o with
      | none => rfl
      | some os =>
        exact host.ends_none_of_expand (expandViewerPath_agree hspec (hspec.agree_arch hnone)) (hends _ ho)

end DetectHost

/-! ### Every candidate -/

/-- A path to be tried for an architecture and a system. -/
structure Candidate where
  spec : List UInt8
  len : Nat
  arch : CString
  os : CString
  deriving Repr, DecidableEq

namespace DetectHost

variable (host : DetectHost)

/-- Every path, for each architecture, for each system that is known. -/
def candidates (target : PluginTarget) : List Candidate :=
  (viewerPathSpecs host.npwViewerPaths.bytes).flatMap fun p => (targetArchTable target).reduceOption.flatMap fun arch =>
    (targetOsTable target).reduceOption.map fun os => ⟨p.1, p.2, arch, os⟩

/-- The first candidate that ends the search. -/
def searchAll (target : PluginTarget) : DetectResult :=
  (((host.candidates target).findSome? fun c => ends (host.tryViewer c.spec c.len c.arch c.os)).getD (.ok .notFound))

theorem spec_all (target : PluginTarget) :
    ((viewerPathSpecs host.npwViewerPaths.bytes).findSome? fun p =>
        tryEach (host.tryArch p.1 p.2 (targetOsTable target)) (targetArchTable target)) =
      (host.candidates target).findSome? fun c => ends (host.tryViewer c.spec c.len c.arch c.os) := by
  rw [candidates, findSome?_flatMap]
  refine findSome?_congr fun p hp => ?_
  have hspec := viewerPathSpecs_isSpec host.npwViewerPaths_small host.npwViewerPaths.unterminated p hp
  rw [host.tryArch_all hspec, findSome?_flatMap, findSome?_reduceOption]
  refine findSome?_congr fun a _ => ?_
  cases a with
  | none => rfl
  | some arch =>
    rw [Option.bind_some, Option.bind_some, List.findSome?_map, findSome?_reduceOption]
    rfl

end DetectHost

theorem DetectHost.detectPluginViewer_all (host : DetectHost) (target : PluginTarget) :
    host.detectPluginViewer target = if host.isNative target then .ok .native else host.searchAll target := by
  rw [detectPluginViewer, host.spec_all, searchAll]
  by_cases hnative : host.isNative target = true
  · rw [if_pos hnative, if_pos hnative]
  · rw [if_neg hnative, if_neg hnative]
    cases (host.candidates target).findSome? fun c => ends (host.tryViewer c.spec c.len c.arch c.os) with
    | none => rfl
    | some r => rfl

/-- What the search leaves out would not have ended it. -/
theorem viewer_search_leaves_nothing (host : DetectHost) (target : PluginTarget) :
    host.detectPluginViewer target = if host.isNative target then .ok .native else host.searchAll target :=
  host.detectPluginViewer_all target

/-! ### Paths that are well formed -/

/-- What a path is made of: characters, and where the architecture and the system stand. -/
inductive PathPart where
  | char (ch : UInt8)
  | arch
  | os
  deriving Repr, DecidableEq

namespace PathPart

def text : PathPart → List UInt8
  | char ch => [ch]
  | arch => ascii "%ARCH%"
  | os => ascii "%OS%"

def token (archName osName : CString) : PathPart → Token
  | char ch => .char ch
  | arch => .var (ascii "ARCH") archName
  | os => .var (ascii "OS") osName

/-- A character that stands for itself. -/
def Plain : PathPart → Prop
  | char ch => ch ≠ 0 ∧ ch ≠ percent ∧ ch ≠ colon
  | arch | os => True

instance : (part : PathPart) → Decidable part.Plain
  | char _ => inferInstanceAs (Decidable (_ ∧ _))
  | arch | os => isTrue trivial

variable {part : PathPart} {archName osName : CString}

theorem token_text : (part.token archName osName).text = part.text := by
  cases part <;> rfl

theorem token_valid (h : part.Plain) : (part.token archName osName).Valid (detectVars archName osName) := by
  cases part with
  | char ch => exact h.2.1
  | arch => exact ⟨by decide, rfl⟩
  | os => exact ⟨by decide, rfl⟩

theorem token_name : ∀ name value, part.token archName osName = .var name value → name.length < varSize := by
  intro name value h
  cases part with
  | char ch => cases h
  | arch =>
    cases h
    decide
  | os =>
    cases h
    decide

end PathPart

structure ViewerPath where
  parts : List PathPart
  plain : ∀ part ∈ parts, part.Plain
  nonempty : parts ≠ []

namespace ViewerPath

def text (path : ViewerPath) : List UInt8 := path.parts.flatMap PathPart.text

def tokens (path : ViewerPath) (arch os : CString) : Tokens := path.parts.map (PathPart.token arch os)

/-- The viewer that the path stands for. -/
def viewer (path : ViewerPath) (arch os : CString) : List UInt8 := (path.tokens arch os).expansion ++ (ascii "/" ++ npwViewer)

variable {path : ViewerPath} {arch os : CString} {tail : List UInt8}

theorem tokens_text : (path.tokens arch os).text = path.text := by
  rw [Tokens.text, tokens, List.flatMap_map, text]
  exact List.flatMap_congr fun part _ => PathPart.token_text

theorem mem_text {b : UInt8} (h : b ∈ path.text) : b ≠ 0 ∧ b ≠ colon := by
  obtain ⟨part, hpart, hb⟩ := List.mem_flatMap.mp h
  cases part with
  | char ch =>
    cases List.mem_singleton.mp hb
    have hplain := path.plain _ hpart
    exact ⟨hplain.1, hplain.2.2⟩
  | arch => simpa using List.all_eq_true.mp (by decide : (ascii "%ARCH%").all (fun b => b ≠ 0 ∧ b ≠ colon) = true) b hb
  | os => simpa using List.all_eq_true.mp (by decide : (ascii "%OS%").all (fun b => b ≠ 0 ∧ b ≠ colon) = true) b hb

theorem text_pos : 0 < path.text.length := by
  obtain ⟨part, hpart⟩ := List.exists_mem_of_ne_nil _ path.nonempty
  obtain ⟨b, hb⟩ : ∃ b, b ∈ part.text := by
    cases part with
    | char ch => exact ⟨ch, List.mem_singleton_self ch⟩
    | arch => exact ⟨percent, by decide⟩
    | os => exact ⟨percent, by decide⟩
  exact List.length_pos_of_mem (List.mem_flatMap.mpr ⟨part, hpart, hb⟩)

theorem expansion_ne_zero : ∀ b ∈ (path.tokens arch os).expansion, b ≠ 0 := by
  intro b hb
  obtain ⟨token, htoken, hb⟩ := List.mem_flatMap.mp hb
  obtain ⟨part, hpart, rfl⟩ := List.mem_map.mp htoken
  cases part with
  | char ch =>
    cases List.mem_singleton.mp hb
    exact (path.plain _ hpart).1
  | arch => exact arch.unterminated b hb
  | os => exact os.unterminated b hb

/-- What there is room for behind every character is copied. -/
theorem copies_of_room {room : Int} {ts : Tokens} (hname : ∀ name value, Token.var name value ∈ ts → name.length < varSize)
    (hroom : (ts.expansion.length : Int) + 1 ≤ room) : ts.Copies room := by
  induction ts generalizing room with
  | nil => trivial
  | cons token ts ih =>
    rw [Tokens.expansion_cons, List.length_append] at hroom
    have hrest : ∀ name value, Token.var name value ∈ ts → name.length < varSize :=
      fun name value hmem => hname name value (List.mem_cons_of_mem _ hmem)
    cases token with
    | char ch =>
      simp only [Token.value, List.length_singleton] at hroom
      exact ⟨by omega, ih hrest (by omega)⟩
    | var name value =>
      simp only [Token.value] at hroom
      exact ⟨hname _ _ List.mem_cons_self, ih hrest (by omega)⟩

/-- A path that is there for an architecture and a system, with the viewer in it. -/
def Fits (path : ViewerPath) (arch os : CString) : Prop := (path.viewer arch os).length + 1 < pathMax

instance : Decidable (path.Fits arch os) := inferInstanceAs (Decidable (_ < _))

theorem isSpec (hsmall : (path.text ++ tail).length < 2 ^ 31) (hz : ∀ b ∈ tail, b ≠ 0) (htail : tail.head?.all (· == colon)) :
    IsSpec (path.text ++ tail) path.text.length := by
  refine ⟨hsmall, ?_, ?_⟩
  · intro b hb
    exact (List.mem_append.mp hb).elim (fun hb => (mem_text hb).1) (hz b)
  · rw [List.takeWhile_append_of_pos fun b hb => by simpa using (mem_text hb).2]
    cases tail with
    | nil => simp
    | cons c tail => simp_all

theorem expand (hspec : IsSpec (path.text ++ tail) path.text.length) (hfits : path.Fits arch os) :
    expandViewerPath (path.text ++ tail) path.text.length (detectVars arch os) = .ok (some (path.viewer arch os)) := by
  have hlen : (ascii "/" ++ npwViewer).length = 9 := rfl
  have hpath : pathMax = 4096 := rfl
  rw [Fits, viewer, List.length_append, hlen] at hfits
  have hlength := hspec.sourceLength text_pos
  have hgiven := hspec.givenLength text_pos
  have hspelled : Spelled (detectVars arch os) (.ofBytes (path.text ++ tail)) (.ofNat path.text.length) (path.tokens arch os) := by
    refine ⟨?_, ?_, ?_⟩
    · rw [hgiven, hspec.bytes]
      exact hspec.len_le
    · rw [hgiven, hspec.bytes, tokens_text, List.take_left]
    · intro token htoken
      obtain ⟨part, hpart, rfl⟩ := List.mem_map.mp htoken
      exact PathPart.token_valid (path.plain part hpart)
  have hmax : viewerPathLen.toInt = 4087 := rfl
  obtain ⟨o, ho, -, hzero, hdst⟩ : ExpandsRight viewerPathLen (.ofBytes (path.text ++ tail)) (.ofNat path.text.length)
      (detectVars arch os) (path.tokens arch os) := by
    refine (strexpand_right hspelled).1 (.inr (.inl ⟨?_, fun _ => ?_, fun hlong => ?_⟩))
    · rw [hlength, hgiven]
    · refine copies_of_room (fun name value hmem => ?_) (by omega)
      obtain ⟨part, -, heq⟩ := List.mem_map.mp hmem
      exact PathPart.token_name name value heq
    · omega
  have hresult : o.result = some 0 := hzero.mpr (by omega)
  have hbytes : (CString.ofBytes o.dst).bytes = (path.tokens arch os).expansion := by
    rw [hdst hresult]
    exact congrArg CString.bytes (CString.ofBytes_terminated ⟨_, expansion_ne_zero⟩)
  simp only [expandViewerPath, ho, hresult, hbytes]
  rw [if_neg (lt_irrefl 0), if_neg (by rw [List.length_append, hlen]; omega), viewer]

theorem takeWhile_text : (path.text ++ tail).takeWhile (· ≠ colon) = path.text ++ tail.takeWhile (· ≠ colon) :=
  List.takeWhile_append_of_pos fun b hb => by simpa using (mem_text hb).2

theorem specs_last : viewerPathSpecs path.text = [(path.text, path.text.length)] := by
  have hall : path.text.takeWhile (· ≠ colon) = path.text := by simpa using @takeWhile_text path []
  rw [viewerPathSpecs, hall, if_neg (lt_irrefl _)]

theorem specs_colon : viewerPathSpecs (path.text ++ colon :: tail) =
    (path.text ++ colon :: tail, path.text.length) :: viewerPathSpecs tail := by
  have hall : (path.text ++ colon :: tail).takeWhile (· ≠ colon) = path.text := by
    rw [takeWhile_text]
    simp
  have hdrop : (path.text ++ colon :: tail).drop (path.text.length + 1) = tail := by
    rw [List.drop_length_add_append]
    rfl
  rw [viewerPathSpecs, hall, if_pos (by simp), hdrop]

/-- NPW_VIEWER_PATHS, with these paths in it. -/
def joined (paths : List ViewerPath) : List UInt8 := List.intercalate [colon] (paths.map text)

theorem joined_ne_zero (paths : List ViewerPath) : ∀ b ∈ joined paths, b ≠ 0 := by
  induction paths with
  | nil => simp [joined]
  | cons path paths ih =>
    cases paths with
    | nil =>
      intro b hb
      have hmem : b ∈ path.text := by simpa [joined] using hb
      exact (mem_text hmem).1
    | cons next paths =>
      intro b hb
      rw [joined, List.map_cons, List.map_cons, List.intercalate_cons_cons, List.append_assoc] at hb
      rcases List.mem_append.mp hb with hb | hb
      · exact (mem_text hb).1
      · rcases List.mem_append.mp hb with hb | hb
        · rw [List.mem_singleton.mp hb]
          decide
        · exact ih b hb

/-- The paths between colons, one by one. -/
theorem findSome?_specs {ρ : Type} (f : List UInt8 × Nat → Option ρ) (g : ViewerPath → Option ρ) {paths : List ViewerPath}
    (hne : paths ≠ []) (hsmall : (joined paths).length < 2 ^ 31)
    (h : ∀ path ∈ paths, ∀ tail, IsSpec (path.text ++ tail) path.text.length → f (path.text ++ tail, path.text.length) = g path) :
    (viewerPathSpecs (joined paths)).findSome? f = paths.findSome? g := by
  induction paths with
  | nil => exact absurd rfl hne
  | cons path paths ih =>
    cases paths with
    | nil =>
      have hself := h path List.mem_cons_self []
      rw [List.append_nil] at hself
      have hspec : IsSpec (path.text ++ []) path.text.length := isSpec (by simpa [joined] using hsmall) (by simp) rfl
      rw [joined, List.map_singleton, List.intercalate_singleton, specs_last, List.findSome?_cons, List.findSome?_cons,
        hself (by simpa using hspec)]
      rfl
    | cons next paths =>
      have hjoined : joined (path :: next :: paths) = path.text ++ colon :: joined (next :: paths) := by
        simp [joined, List.intercalate_cons_cons]
      have hz := joined_ne_zero (path :: next :: paths)
      rw [hjoined] at hsmall hz ⊢
      have hspec := isSpec hsmall (fun b hb => hz b (List.mem_append_right _ hb)) rfl
      have hrest := ih (by simp) (by simp at hsmall ⊢; omega) fun p hp => h p (List.mem_cons_of_mem _ hp)
      rw [specs_colon, List.findSome?_cons, List.findSome?_cons, h path List.mem_cons_self _ hspec, hrest]

end ViewerPath

/-- A viewer that is tried: where it is, and for what. -/
structure ViewerChoice where
  path : ViewerPath
  arch : CString
  os : CString

namespace ViewerChoice

def viewer (c : ViewerChoice) : List UInt8 := c.path.viewer c.arch c.os

def target (c : ViewerChoice) : PluginTarget := ⟨c.arch, c.os, .ofBytes c.viewer⟩

/-- It is there, and runs the plugin. -/
def isRight (host : DetectHost) (c : ViewerChoice) : Bool := host.access c.viewer && host.isPluginViewerOk c.viewer

/-- Every path for each architecture for each system, of those that are known. -/
def all (paths : List ViewerPath) (target : PluginTarget) : List ViewerChoice :=
  paths.flatMap fun path => (targetArchTable target).reduceOption.flatMap fun arch =>
    (targetOsTable target).reduceOption.map fun os => ⟨path, arch, os⟩

variable {host : DetectHost} {c : ViewerChoice} {tail : List UInt8} {paths : List ViewerPath} {pluginInfo : PluginTarget}

theorem tryViewer_ends (hspec : IsSpec (c.path.text ++ tail) c.path.text.length) (hfits : c.path.Fits c.arch c.os) :
    DetectHost.ends (host.tryViewer (c.path.text ++ tail) c.path.text.length c.arch c.os) =
      if c.isRight host then some (.ok (.ok c.target)) else none := by
  rw [DetectHost.tryViewer, ViewerPath.expand hspec hfits, isRight, viewer]
  cases haccess : host.access (c.path.viewer c.arch c.os) with
  | false => simp [haccess, DetectHost.ends]
  | true =>
    cases hok : host.isPluginViewerOk (c.path.viewer c.arch c.os) with
    | false => simp [haccess, hok, DetectHost.ends]
    | true => simp [haccess, hok, DetectHost.ends, target, viewer]

/-- The search through what is meant by NPW_VIEWER_PATHS. -/
theorem searchAll_choices (hpaths : host.npwViewerPaths.bytes = ViewerPath.joined paths) (hne : paths ≠ [])
    (hfits : ∀ c ∈ all paths pluginInfo, c.path.Fits c.arch c.os) :
    host.searchAll pluginInfo = (((all paths pluginInfo).find? (isRight host)).map fun c => .ok (.ok c.target)).getD (.ok .notFound) := by
  have hsmall := host.npwViewerPaths_small
  rw [DetectHost.searchAll, DetectHost.candidates, ← findSome?_if, all, findSome?_flatMap, findSome?_flatMap, hpaths]
  rw [hpaths] at hsmall
  congr 1
  refine ViewerPath.findSome?_specs _ _ hne hsmall fun path hpath tail hspec => ?_
  rw [findSome?_flatMap, findSome?_flatMap]
  refine findSome?_congr fun arch harch => ?_
  rw [List.findSome?_map, List.findSome?_map]
  refine findSome?_congr fun os hos => ?_
  refine tryViewer_ends (c := ⟨path, arch, os⟩) hspec (hfits _ ?_)
  exact List.mem_flatMap.mpr ⟨path, hpath, List.mem_flatMap.mpr ⟨arch, harch, List.mem_map_of_mem hos⟩⟩

end ViewerChoice

theorem viewer_found_first (host : DetectHost) (paths : List ViewerPath) (target : PluginTarget)
    (hnative : host.isNative target = false) (hpaths : host.npwViewerPaths.bytes = ViewerPath.joined paths) (hne : paths ≠ [])
    (hfits : ∀ c ∈ ViewerChoice.all paths target, c.path.Fits c.arch c.os) :
    host.detectPluginViewer target =
      .ok (((ViewerChoice.all paths target).find? (ViewerChoice.isRight host)).elim .notFound fun c => .ok c.target) := by
  rw [host.detectPluginViewer_all, hnative, if_neg Bool.false_ne_true, ViewerChoice.searchAll_choices hpaths hne hfits]
  cases (ViewerChoice.all paths target).find? (ViewerChoice.isRight host) with
  | none => rfl
  | some c => rfl

/-! ### A viewer for Linux on the same machine -/

/-- `/%ARCH%/%OS%`. -/
def bothNamed : ViewerPath where
  parts := [.char 47, .arch, .char 47, .os]
  plain := by decide
  nonempty := by simp

/-- There is one viewer, and it runs everything. -/
def oneViewer : DetectHost where
  hostArch := .ofBytes (ascii "x86_64")
  hostOs := .ofBytes (ascii "linux")
  npwViewerPaths := .ofBytes (ascii "/%ARCH%/%OS%")
  npwViewerPaths_small := by decide
  allowNative := false
  access := fun path => path == ascii "/i386/linux/npviewer"
  isPluginViewerOk := fun _ => true

/-- Of a plugin for another system. -/
def solarisTarget : PluginTarget := ⟨.ofBytes (ascii "i386"), .ofBytes (ascii "solaris"), .ofBytes []⟩

theorem viewer_found_first_once : oneViewer.detectPluginViewer solarisTarget =
    .ok (.ok ⟨.ofBytes (ascii "i386"), .ofBytes (ascii "linux"), .ofBytes (ascii "/i386/linux/npviewer")⟩) :=
  viewer_found_first oneViewer [bothNamed] solarisTarget (by decide) (by decide) (by simp) (by decide)

end NSPluginWrapper
