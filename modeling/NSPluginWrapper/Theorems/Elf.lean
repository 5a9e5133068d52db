import NSPluginWrapper.Lib.Fallible
import NSPluginWrapper.Plugin.Elf

/-! What the walk over an ELF file reads, and what it answers where all of that was loaded. -/

namespace NSPluginWrapper
open Lib

variable {data strtab symtab : Loaded} {ofs : Nat} {str : List UInt8} {l : ElfLayout} {big : Bool}

/-! ### Names -/

/-- A comparison with `str` ends within what was loaded. -/
def Loaded.Decides (data : Loaded) (ofs : Nat) (str : List UInt8) : Prop := ∃ d, data = some d ∧ ¬d.drop ofs <+: str

/-- `str` stands there. -/
def Loaded.Has (data : Loaded) (ofs : Nat) (str : List UInt8) : Prop := ∃ d, data = some d ∧ At d ofs (str ++ [0])

instance (data : Loaded) (ofs : Nat) (str : List UInt8) : Decidable (data.Has ofs str) :=
  match data with
  | none => isFalse (by rintro ⟨d, hd, -⟩; cases hd)
  | some d => decidable_of_iff (At d ofs (str ++ [0]))
      ⟨fun h => ⟨d, rfl, h⟩, by rintro ⟨_, hd, h⟩; cases hd; exact h⟩

theorem Loaded.Decides.strcmp (h : data.Decides ofs str) : data.strcmp ofs str = .ok (decide (data.Has ofs str)) := by
  obtain ⟨d, rfl, hnot⟩ := h
  have hhas : Loaded.Has (some d) ofs str ↔ str ++ [0] <+: d.drop ofs := by
    constructor
    · rintro ⟨_, hd, hat⟩
      cases hd
      exact hat
    · intro hat
      exact ⟨d, rfl, hat⟩
  simp [Loaded.strcmp, strcmp_eq, hnot, hhas]

theorem Loaded.strcmp_ok {b : Bool} : data.strcmp ofs str = .ok b ↔ data.Decides ofs str ∧ b = decide (data.Has ofs str) := by
  constructor
  · intro h
    have hdecides : data.Decides ofs str := by
      cases data with
      | none => cases h
      | some d =>
        refine ⟨d, rfl, fun hpre => ?_⟩
        rw [Loaded.strcmp, strcmp_eq, if_pos hpre] at h
        cases h
    rw [hdecides.strcmp] at h
    exact ⟨hdecides, (Except.ok.inj h).symm⟩
  · rintro ⟨hdecides, rfl⟩
    exact hdecides.strcmp

/-- Where one string stands, any other is told from it. -/
theorem Loaded.Has.decides (h : data.Has ofs str) {str' : List UInt8} (hstr' : (0 : UInt8) ∉ str') : data.Decides ofs str' := by
  obtain ⟨d, rfl, hat⟩ := h
  refine ⟨d, rfl, fun hpre => hstr' ?_⟩
  exact (hat.trans hpre).subset (List.mem_append_right _ (List.mem_singleton_self _))

/-- The names of the sections, none where they were not loaded. -/
def Sections.loaded (secs : Sections) (i : Nat) : Loaded := (secs[i]?).bind (·.2)

variable {secs rest : Sections} {shstrndx : Nat} {isType : Nat → Bool} {name : List UInt8}

theorem sdata_strcmp {b : Bool} :
    (secs.sdata shstrndx >>= fun names => names.strcmp ofs str) = .ok b ↔
      (secs.loaded shstrndx).Decides ofs str ∧ b = decide ((secs.loaded shstrndx).Has ofs str) := by
  rw [Sections.sdata, Sections.loaded]
  cases secs[shstrndx]? with
  | none =>
    refine iff_of_false (by rintro ⟨⟩) ?_
    rintro ⟨⟨d, hd, -⟩, -⟩
    cases hd
  | some sec =>
    exact Loaded.strcmp_ok

/-- Every name that is compared is decided: those of the sections of a type, up to the first that is the one. -/
def NamesReadable (secs : Sections) (shstrndx : Nat) (isType : Nat → Bool) (name : List UInt8) (rest : Sections) : Prop :=
  ∀ pre sec post, rest = pre ++ sec :: post → isType sec.1.type →
    (∀ x ∈ pre, isType x.1.type → ¬(secs.loaded shstrndx).Has x.1.name name) → (secs.loaded shstrndx).Decides sec.1.name name

/-- A section of a type and a name. -/
def IsNamed (secs : Sections) (shstrndx : Nat) (isType : Nat → Bool) (name : List UInt8) (sec : Shdr × Loaded) : Bool :=
  isType sec.1.type && decide ((secs.loaded shstrndx).Has sec.1.name name)

theorem namesReadable_cons {sec : Shdr × Loaded} :
    NamesReadable secs shstrndx isType name (sec :: rest) ↔
      (isType sec.1.type → (secs.loaded shstrndx).Decides sec.1.name name) ∧
        (IsNamed secs shstrndx isType name sec = false → NamesReadable secs shstrndx isType name rest) := by
  constructor
  · intro h
    refine ⟨fun htype => h [] sec rest rfl htype (by simp), fun hnamed pre sec' post heq htype hpre => ?_⟩
    refine h (sec :: pre) sec' post (by rw [heq]; rfl) htype fun x hx hxtype => ?_
    rcases List.mem_cons.mp hx with rfl | hx
    · simpa [IsNamed, hxtype] using hnamed
    · exact hpre x hx hxtype
  · rintro ⟨hsec, hrest⟩ pre sec' post heq htype hpre
    cases pre with
    | nil =>
      obtain ⟨rfl, -⟩ := List.cons.inj heq
      exact hsec htype
    | cons x pre =>
      obtain ⟨rfl, htail⟩ := List.cons.inj heq
      refine hrest ?_ pre sec' post htail htype fun y hy => hpre y (List.mem_cons_of_mem _ hy)
      have hx := hpre sec (List.mem_cons_self ..)
      by_cases hxtype : isType sec.1.type = true
      · simpa [IsNamed, hxtype] using hx hxtype
      · simp [IsNamed, hxtype]

theorem findSection_ok {found : Option (Shdr × Loaded)} :
    findSection secs shstrndx isType name rest = .ok found ↔
      NamesReadable secs shstrndx isType name rest ∧ found = rest.find? (IsNamed secs shstrndx isType name) := by
  induction rest with
  | nil =>
    rw [findSection]
    constructor
    · intro h
      refine ⟨fun pre sec post heq => ?_, (Except.ok.inj h).symm⟩
      simp at heq
    · rintro ⟨-, rfl⟩
      rfl
  | cons sec rest ih =>
    obtain ⟨sec, data⟩ := sec
    rw [findSection, namesReadable_cons, List.find?_cons]
    by_cases htype : isType sec.type = true
    · rw [if_pos htype]
      constructor
      · intro h
        obtain ⟨names, hnames, h⟩ := bind_ok.mp h
        obtain ⟨b, hb, h⟩ := bind_ok.mp h
        obtain ⟨hdecides, hb⟩ := sdata_strcmp.mp (bind_ok.mpr ⟨names, hnames, hb⟩)
        have hnamed : IsNamed secs shstrndx isType name (sec, data) = b := by rw [IsNamed, htype, hb]; rfl
        cases b with
        | true =>
          rw [hnamed]
          exact ⟨⟨fun _ => hdecides, by simp⟩, (Except.ok.inj h).symm⟩
        | false =>
          obtain ⟨hrest, hfound⟩ := ih.mp h
          rw [hnamed]
          exact ⟨⟨fun _ => hdecides, fun _ => hrest⟩, hfound⟩
      · rintro ⟨⟨hdecides, hrest⟩, hfound⟩
        obtain ⟨names, hnames, hb⟩ := bind_ok.mp (sdata_strcmp.mpr ⟨hdecides htype, rfl⟩)
        have hnamed : IsNamed secs shstrndx isType name (sec, data) =
            decide ((secs.loaded shstrndx).Has sec.name name) := by rw [IsNamed, htype]; rfl
        refine bind_ok.mpr ⟨names, hnames, bind_ok.mpr ⟨_, hb, ?_⟩⟩
        rw [hnamed] at hrest hfound
        cases hhas : decide ((secs.loaded shstrndx).Has sec.name name) with
        | true =>
          rw [hhas] at hfound
          rw [hfound]
          rfl
        | false =>
          rw [hhas] at hrest hfound
          exact ih.mpr ⟨hrest rfl, hfound⟩
    · have hnot : IsNamed secs shstrndx isType name (sec, data) = false := by simp [IsNamed, htype]
      rw [if_neg htype, ih, hnot]
      simp [htype]

/-! ### Symbols -/

theorem isOneOf_ok {names : List (List UInt8)} (hnames : ∀ name ∈ names, (0 : UInt8) ∉ name) {b : Bool} :
    isOneOf strtab ofs names = .ok b ↔
      (∀ name ∈ names, strtab.Decides ofs name) ∧ b = names.any fun name => decide (strtab.Has ofs name) := by
  induction names with
  | nil =>
    rw [isOneOf]
    simp [eq_comm]
  | cons name names ih =>
    rw [List.forall_mem_cons] at hnames
    rw [isOneOf, bind_ok, List.forall_mem_cons, List.any_cons]
    simp only [Loaded.strcmp_ok]
    by_cases hname : strtab.Has ofs name
    · have hrest : ∀ name' ∈ names, strtab.Decides ofs name' := fun name' hname' => hname.decides (hnames.2 name' hname')
      have hdecides := hname.decides hnames.1
      have hforall : (∀ x ∈ names, strtab.Decides ofs x) ↔ True := iff_of_true hrest trivial
      simp [hname, hdecides, hforall, eq_comm]
    · simp [hname, ih hnames.2, and_assoc]

theorem npNames_terminated : ∀ name ∈ npNames, (0 : UInt8) ∉ name := by decide

/-- The names of the symbols that count are decided. -/
def SymReadable (strtab : Loaded) (sym : Sym) : Prop :=
  sym.bind = stbGlobal → (sym.type = sttObject → strtab.Decides sym.name npwPluginName) ∧
    (sym.type = sttFunc → ∀ name ∈ npNames, strtab.Decides sym.name name)

/-- A global function of a name. -/
def IsFunc (strtab : Loaded) (name : List UInt8) (sym : Sym) : Bool :=
  sym.bind == stbGlobal && sym.type == sttFunc && decide (strtab.Has sym.name name)

def IsNpFunc (strtab : Loaded) (sym : Sym) : Bool := npNames.any fun name => IsFunc strtab name sym

/-- A global object NPW_Plugin. -/
def IsNpwPlugin (strtab : Loaded) (sym : Sym) : Bool :=
  sym.bind == stbGlobal && sym.type == sttObject && decide (strtab.Has sym.name npwPluginName)

/-- A choice between two results. -/
theorem choice_ok {α : Type} {x : Elf Bool} {a b r : α} :
    (x >>= fun c => if c then .ok a else .ok b) = Except.ok r ↔ ∃ c, x = .ok c ∧ r = if c then a else b := by
  rw [bind_ok]
  refine exists_congr fun c => and_congr_right fun _ => ?_
  cases c <;> simp [eq_comm]

theorem countSym_ok {sym : Sym} {n : Nat} {w : Bool} {r : Nat × Bool} :
    countSym strtab sym n w = .ok r ↔
      SymReadable strtab sym ∧ r = (n + (IsNpFunc strtab sym).toNat, w || IsNpwPlugin strtab sym) := by
  rw [countSym, SymReadable]
  by_cases hbind : sym.bind = stbGlobal
  swap
  · have hno : IsNpFunc strtab sym = false := by simp [IsNpFunc, IsFunc, hbind]
    have hplugin : IsNpwPlugin strtab sym = false := by simp [IsNpwPlugin, hbind]
    simp [hbind, hno, hplugin, eq_comm]
  by_cases hobject : sym.type = sttObject
  · have hno : IsNpFunc strtab sym = false := by simp [IsNpFunc, IsFunc, hobject]
    have hplugin : IsNpwPlugin strtab sym = decide (strtab.Has sym.name npwPluginName) := by
      simp [IsNpwPlugin, hbind, hobject]
    rw [if_neg (not_not.mpr hbind), if_pos hobject, choice_ok, hno, hplugin]
    simp only [Loaded.strcmp_ok]
    cases decide (strtab.Has sym.name npwPluginName) <;> simp [hbind, hobject]
  have hplugin : IsNpwPlugin strtab sym = false := by simp [IsNpwPlugin, hobject]
  rw [if_neg (not_not.mpr hbind), if_neg hobject, hplugin]
  by_cases hfunc : sym.type = sttFunc
  · have hany : IsNpFunc strtab sym = npNames.any fun name => decide (strtab.Has sym.name name) := by
      simp [IsNpFunc, IsFunc, hbind, hfunc]
    rw [if_neg (not_not.mpr hfunc), choice_ok, hany]
    simp only [isOneOf_ok npNames_terminated]
    cases npNames.any fun name => decide (strtab.Has sym.name name) <;> simp [hbind, hfunc]
  · have hno : IsNpFunc strtab sym = false := by simp [IsNpFunc, IsFunc, hfunc]
    simp [hfunc, hobject, hno, eq_comm]

/-- The symbol `j` of a table. -/
def ElfLayout.symOf (l : ElfLayout) (big : Bool) (symtab : Loaded) (j : Nat) : Sym :=
  l.sym big ((symtab.getD []).drop (j * l.symSize))

/-- It was loaded, and its name can be told. -/
def SymsReadable (l : ElfLayout) (big : Bool) (symtab strtab : Loaded) (js : List Nat) : Prop :=
  ∀ j ∈ js, (∃ d, symtab = some d ∧ (j + 1) * l.symSize ≤ d.length) ∧ SymReadable strtab (l.symOf big symtab j)

theorem symAt_ok {j : Nat} {sym : Sym} :
    l.symAt big symtab j = .ok sym ↔
      (∃ d, symtab = some d ∧ (j + 1) * l.symSize ≤ d.length) ∧ sym = l.symOf big symtab j := by
  cases symtab with
  | none => simp [ElfLayout.symAt]
  | some d =>
    rw [ElfLayout.symAt, ElfLayout.symOf]
    by_cases hd : (j + 1) * l.symSize ≤ d.length
    · simp [hd, eq_comm]
    · simp [hd]

theorem countSyms_ok {n i count : Nat} {w : Bool} {r : Nat × Bool} :
    l.countSyms big symtab strtab n i count w = .ok r ↔
      SymsReadable l big symtab strtab (List.range' i n) ∧
        r = (count + (List.range' i n).countP fun j => IsNpFunc strtab (l.symOf big symtab j),
          w || (List.range' i n).any fun j => IsNpwPlugin strtab (l.symOf big symtab j)) := by
  induction n generalizing i count w with
  | zero =>
    rw [ElfLayout.countSyms]
    simp [SymsReadable, eq_comm]
  | succ n ih =>
    rw [ElfLayout.countSyms, bind_ok, List.range'_succ, SymsReadable, List.forall_mem_cons, List.countP_cons, List.any_cons]
    constructor
    · rintro ⟨sym, hsym, h⟩
      obtain ⟨hloaded, rfl⟩ := symAt_ok.mp hsym
      obtain ⟨⟨count', w'⟩, hcount, h⟩ := bind_ok.mp h
      obtain ⟨hreadable, hcount⟩ := countSym_ok.mp hcount
      obtain ⟨rfl, rfl⟩ := Prod.mk.inj hcount
      obtain ⟨hrest, rfl⟩ := ih.mp h
      refine ⟨⟨⟨hloaded, hreadable⟩, hrest⟩, ?_⟩
      cases IsNpFunc strtab (l.symOf big symtab i) <;> simp [Bool.or_assoc, Nat.add_assoc, Nat.add_comm 1]
    · rintro ⟨⟨⟨hloaded, hreadable⟩, hrest⟩, rfl⟩
      refine ⟨_, symAt_ok.mpr ⟨hloaded, rfl⟩, bind_ok.mpr ⟨_, countSym_ok.mpr ⟨hreadable, rfl⟩, ih.mpr ⟨hrest, ?_⟩⟩⟩
      cases IsNpFunc strtab (l.symOf big symtab i) <;> simp [Bool.or_assoc, Nat.add_assoc, Nat.add_comm 1]

/-- What the symbols are asked for: three global functions of the names of a plugin, and not the object of a wrapper. -/
def ElfLayout.Counted (l : ElfLayout) (big : Bool) (symtab strtab : Loaded) (n : Nat) : Bool :=
  ((List.range n).countP fun j => IsNpFunc strtab (l.symOf big symtab j)) == 3 &&
    !(List.range n).any fun j => IsNpwPlugin strtab (l.symOf big symtab j)

theorem sdata_ok {i : Nat} {data : Loaded} : secs.sdata i = .ok data ↔ i < secs.length ∧ data = secs.loaded i := by
  rw [Sections.sdata, Sections.loaded]
  by_cases hi : i < secs.length
  · simp [hi, eq_comm]
  · simp [hi]

theorem isPluginSyms_ok {sec : Shdr} {b : Bool} :
    l.isPluginSyms big secs sec symtab = .ok b ↔
      (sec.link < secs.length ∧ SymsReadable l big symtab (secs.loaded sec.link) (List.range (l.nbSyms sec))) ∧
        b = l.Counted big symtab (secs.loaded sec.link) (l.nbSyms sec) := by
  rw [ElfLayout.isPluginSyms, bind_ok, ElfLayout.Counted, List.range_eq_range']
  constructor
  · rintro ⟨_, hstrtab, h⟩
    obtain ⟨hlink, rfl⟩ := sdata_ok.mp hstrtab
    obtain ⟨r, hcount, h⟩ := bind_ok.mp h
    obtain ⟨hreadable, rfl⟩ := countSyms_ok.mp hcount
    refine ⟨⟨hlink, hreadable⟩, ?_⟩
    simpa using (Except.ok.inj h).symm
  · rintro ⟨⟨hlink, hreadable⟩, hb⟩
    refine ⟨_, sdata_ok.mpr ⟨hlink, rfl⟩, bind_ok.mpr ⟨_, countSyms_ok.mpr ⟨hreadable, rfl⟩, ?_⟩⟩
    simp [hb]

/-! ### The target -/

/-- Where the OS/ABI byte says nothing, the names of the version sections can be told. -/
def TargetReadable (osabi : Option UInt8) (secs : Sections) (e : Ehdr) : Prop :=
  targetOsOf osabi = none → NamesReadable secs e.shstrndx isSunwVersion (ascii ".SUNW_version") secs

theorem fillPluginInfo_ok {osabi : Option UInt8} {e : Ehdr} :
    (∃ info, fillPluginInfo osabi secs e = .ok info) ↔ TargetReadable osabi secs e := by
  rw [fillPluginInfo, TargetReadable]
  cases targetOsOf osabi with
  | some os => simp
  | none =>
    constructor
    · rintro ⟨info, h⟩ -
      obtain ⟨found, hfound, -⟩ := bind_ok.mp h
      exact (findSection_ok.mp hfound).1
    · intro h
      have hfound := findSection_ok.mpr ⟨h rfl, rfl⟩
      cases hnamed : secs.find? (IsNamed secs e.shstrndx isSunwVersion (ascii ".SUNW_version")) with
      | none =>
        rw [hnamed] at hfound
        exact ⟨_, bind_ok.mpr ⟨_, hfound, rfl⟩⟩
      | some sec =>
        rw [hnamed] at hfound
        exact ⟨_, bind_ok.mpr ⟨_, hfound, rfl⟩⟩

/-! ### The file -/

namespace ElfHost

variable (h : ElfHost) (l : ElfLayout)

/-- The layout of a file that is looked at, none where the first bytes are not those of an ELF file. -/
def layout : Option ElfLayout :=
  if !h.readsIdent || h.file.length < 16 then none
  else if h.file.take 4 ≠ elfMagic then none
  else if h.file[eiClass]? = some elf32.elfClass then some elf32
  else if h.file[eiClass]? = some elf64.elfClass then some elf64
  else none

def header : Ehdr := l.ehdr h.big h.file

/-- The header is that of a shared object. -/
structure Accepted : Prop where
  read : h.readsEhdr = true
  long : l.ehdrSize ≤ h.file.length
  type : (h.header l).type = etDyn
  version : (h.header l).version = evCurrent

/-- What the table of the section headers has loaded, and where that leaves the file. -/
def loadedHeaders : Loaded × Nat :=
  h.loadData 0 l.ehdrSize (h.header l).shoff ((h.header l).shnum * l.shdrSize)

/-- The sections of a table that was loaded. -/
def loadedSections : Sections :=
  let shdrs := (List.range (h.header l).shnum).map fun i =>
    l.shdr h.big (((h.loadedHeaders l).1.getD []).drop (i * l.shdrSize))
  shdrs.zip (h.loadSections shdrs 1 (h.loadedHeaders l).2)

/-- The symbols, where there are any. -/
def dynsym : Option (Shdr × Loaded) :=
  (h.loadedSections l).find? (IsNamed (h.loadedSections l) (h.header l).shstrndx (· == shtDynsym) (ascii ".dynsym"))

/-- All that the walk over the file uses was loaded, and every name that it compares can be told within that. -/
structure Readable (out : Bool) : Prop where
  headers : (h.header l).shnum ≠ 0 → (h.loadedHeaders l).1 ≠ none ∧ h.callocs = true
  names : NamesReadable (h.loadedSections l) (h.header l).shstrndx (· == shtDynsym) (ascii ".dynsym") (h.loadedSections l)
  symbols : ∀ sec symtab, h.dynsym l = some (sec, symtab) →
    sec.link < (h.loadedSections l).length ∧
      SymsReadable l h.big symtab ((h.loadedSections l).loaded sec.link) (List.range (l.nbSyms sec))
  target : out = true → TargetReadable h.file[eiOsabi]? (h.loadedSections l) (h.header l)

/-- The symbols are those of a plugin. -/
def recognised : Bool :=
  (h.dynsym l).any fun sec => l.Counted h.big sec.2 ((h.loadedSections l).loaded sec.1.link) (l.nbSyms sec.1)

variable {h l} {out : Bool}

theorem sections_ok :
    h.sections l (h.header l) = .ok secs ↔
      ((h.header l).shnum ≠ 0 → (h.loadedHeaders l).1 ≠ none ∧ h.callocs = true) ∧ secs = h.loadedSections l := by
  rw [sections, loadedSections, ← loadedHeaders]
  rcases h.loadedHeaders l with ⟨shdrs, pos⟩
  dsimp only
  by_cases hnone : (h.header l).shnum = 0
  · rw [if_pos hnone, hnone]
    constructor
    · intro heq
      exact ⟨fun hne => absurd rfl hne, (Except.ok.inj heq).symm⟩
    · rintro ⟨-, rfl⟩
      rfl
  · rw [if_neg hnone]
    cases shdrs with
    | none => simp [hnone]
    | some shdrs =>
      cases h.callocs with
      | false => simp [hnone]
      | true => simp [eq_comm]

/-- The answer of the symbols that were found. -/
theorem found_ok {b : Bool} :
    (match h.dynsym l with
      | none => .ok false
      | some (sec, symtab) => l.isPluginSyms h.big (h.loadedSections l) sec symtab) = Except.ok b ↔
      (∀ sec symtab, h.dynsym l = some (sec, symtab) →
        sec.link < (h.loadedSections l).length ∧
          SymsReadable l h.big symtab ((h.loadedSections l).loaded sec.link) (List.range (l.nbSyms sec))) ∧
        b = h.recognised l := by
  rw [recognised]
  cases h.dynsym l with
  | none => simp [eq_comm]
  | some sec =>
    obtain ⟨sec, symtab⟩ := sec
    rw [Option.any_some]
    refine isPluginSyms_ok.trans (and_congr_left fun _ => ⟨?_, fun hread => hread sec symtab rfl⟩)
    rintro hread _ _ heq
    cases heq
    exact hread

/-- What is done with a header that is accepted. -/
theorem isElfPluginFd_accepted (ha : h.Accepted l) (hclass : h.file[eiClass]? = some l.elfClass) :
    h.isElfPluginFd l out = (h.sections l (h.header l) >>= fun secs =>
      findSection secs (h.header l).shstrndx (· == shtDynsym) (ascii ".dynsym") secs >>= fun found =>
      (match found with
        | none => .ok false
        | some (sec, symtab) => l.isPluginSyms h.big secs sec symtab) >>= fun ret =>
      if out then fillPluginInfo h.file[eiOsabi]? secs (h.header l) >>= fun info => .ok (ret, some info)
      else .ok (ret, none)) := by
  have hread : ¬(!h.readsEhdr || decide (h.file.length < l.ehdrSize)) = true := by simp [ha.read, ha.long]
  have htype : (l.ehdr h.big h.file).type = etDyn := ha.type
  have hversion : (l.ehdr h.big h.file).version = evCurrent := ha.version
  rw [isElfPluginFd, if_neg hread, if_neg (not_not.mpr hclass), if_neg (not_not.mpr htype), if_neg (not_not.mpr hversion)]
  refine bind_congr fun secs => bind_congr fun found => ?_
  rcases found with _ | ⟨sec, symtab⟩
  · rfl
  · rfl

theorem isElfPluginFd_ok (ha : h.Accepted l) (hclass : h.file[eiClass]? = some l.elfClass) {p : Bool → Prop} :
    (∃ r, h.isElfPluginFd l out = .ok r ∧ p r.1) ↔ h.Readable l out ∧ p (h.recognised l) := by
  rw [isElfPluginFd_accepted ha hclass]
  constructor
  · rintro ⟨r, hr, hp⟩
    obtain ⟨secs, hsecs, hr⟩ := bind_ok.mp hr
    obtain ⟨hheaders, rfl⟩ := sections_ok.mp hsecs
    obtain ⟨found, hfound, hr⟩ := bind_ok.mp hr
    obtain ⟨hnames, rfl⟩ := findSection_ok.mp hfound
    obtain ⟨b, hb, hr⟩ := bind_ok.mp hr
    obtain ⟨hsymbols, rfl⟩ := found_ok.mp hb
    cases out with
    | false =>
      cases hr
      exact ⟨⟨hheaders, hnames, hsymbols, by simp⟩, hp⟩
    | true =>
      obtain ⟨info, hinfo, hr⟩ := bind_ok.mp hr
      cases hr
      exact ⟨⟨hheaders, hnames, hsymbols, fun _ => fillPluginInfo_ok.mp ⟨info, hinfo⟩⟩, hp⟩
  · rintro ⟨hread, hp⟩
    have hsecs := sections_ok.mpr ⟨hread.headers, rfl⟩
    have hfound := findSection_ok.mpr ⟨hread.names, rfl⟩
    have hb := found_ok.mpr ⟨hread.symbols, rfl⟩
    cases out with
    | false => exact ⟨_, bind_ok.mpr ⟨_, hsecs, bind_ok.mpr ⟨_, hfound, bind_ok.mpr ⟨_, hb, rfl⟩⟩⟩, hp⟩
    | true =>
      obtain ⟨info, hinfo⟩ := fillPluginInfo_ok.mpr (hread.target rfl)
      exact ⟨_, bind_ok.mpr ⟨_, hsecs, bind_ok.mpr ⟨_, hfound, bind_ok.mpr ⟨_, hb, bind_ok.mpr ⟨info, hinfo, rfl⟩⟩⟩⟩, hp⟩

theorem layout_class (hl : h.layout = some l) : h.file[eiClass]? = some l.elfClass := by
  rw [layout] at hl
  split at hl
  · cases hl
  split at hl
  · cases hl
  split at hl
  · cases hl
    assumption
  split at hl
  · cases hl
    assumption
  · cases hl

theorem isPluginFd_layout (hl : h.layout = some l) : h.isPluginFd out = h.isElfPluginFd l out := by
  rw [layout] at hl
  rw [isPluginFd]
  split at hl
  · cases hl
  rename_i hident
  rw [if_neg hident]
  split at hl
  · cases hl
  rename_i hmagic
  rw [if_neg hmagic]
  split at hl
  · rename_i hclass
    cases hl
    rw [if_pos hclass]
  rename_i hclass
  rw [if_neg hclass]
  split at hl
  · rename_i hclass
    cases hl
    rw [if_pos hclass]
  · cases hl

theorem isPluginFd_no_layout (hl : h.layout = none) : h.isPluginFd out = .ok (false, none) := by
  rw [layout] at hl
  rw [isPluginFd]
  split at hl
  · rw [if_pos ‹_›]
  rw [if_neg ‹_›]
  split at hl
  · rw [if_pos ‹_›]
  rw [if_neg ‹_›]
  split at hl
  · cases hl
  rw [if_neg ‹_›]
  split at hl
  · cases hl
  · rw [if_neg ‹_›]

theorem isElfPluginFd_rejected (ha : ¬h.Accepted l) : h.isElfPluginFd l out = .ok (false, none) := by
  rw [isElfPluginFd]
  dsimp only
  split
  · rfl
  rename_i hread
  split
  · rfl
  split
  · rfl
  rename_i htype
  split
  · rfl
  rename_i hversion
  refine absurd ⟨?_, ?_, not_not.mp htype, not_not.mp hversion⟩ ha
  · refine Bool.of_not_eq_false fun hfails => hread ?_
    rw [hfails]
    rfl
  · exact Nat.le_of_not_lt fun hshort => hread (by simp [hshort])

/-- What the answer is, and of which files there is one. -/
theorem isPluginFd_ok {p : Bool → Prop} :
    (∃ r, h.isPluginFd out = .ok r ∧ p r.1) ↔
      (∀ l, h.layout = some l → h.Accepted l → h.Readable l out ∧ p (h.recognised l)) ∧
        ((∀ l, h.layout = some l → ¬h.Accepted l) → p false) := by
  cases hl : h.layout with
  | none =>
    rw [isPluginFd_no_layout hl]
    simp
  | some l =>
    rw [isPluginFd_layout hl]
    by_cases ha : h.Accepted l
    · rw [isElfPluginFd_ok ha (layout_class hl)]
      constructor
      · intro hr
        refine ⟨?_, fun hno => absurd ha (hno l rfl)⟩
        rintro l' ⟨⟩ -
        exact hr
      · rintro ⟨hr, -⟩
        exact hr l rfl ha
    · rw [isElfPluginFd_rejected ha]
      constructor
      · rintro ⟨r, hr, hp⟩
        cases hr
        refine ⟨?_, fun _ => hp⟩
        rintro l' ⟨⟩ ha'
        exact absurd ha' ha
      · rintro ⟨-, hp⟩
        refine ⟨_, rfl, hp ?_⟩
        rintro l' ⟨⟩
        exact ha

/-! ### Well-formed files -/

abbrev shtNull : Nat := 0
abbrev shtStrtab : Nat := 3
abbrev shnXindex : Nat := 0xffff

section Spec
variable (h l)

/-- The header of a section as it stands in the file. -/
def fileShdr (i : Nat) : Shdr := l.shdr h.big (h.file.drop ((h.header l).shoff + i * l.shdrSize))

/-- How many sections there are. Of more than the header can say, the first section holds the number. -/
def sectionCount : Nat :=
  if (h.header l).shnum = 0 ∧ (h.header l).shoff ≠ 0 then (h.fileShdr l 0).size else (h.header l).shnum

def nameSection : Nat :=
  if (h.header l).shstrndx = shnXindex then (h.fileShdr l 0).link else (h.header l).shstrndx

/-- What stands in a section. -/
def fileData (i : Nat) : List UInt8 := (h.file.drop (h.fileShdr l i).offset).take (h.fileShdr l i).size

def fileSym (i j : Nat) : Sym := l.sym h.big ((h.fileData l i).drop (j * l.symSize))

def symCount (i : Nat) : Nat := (h.fileShdr l i).size / l.symSize

def IsDynsym (i : Nat) : Prop := i < h.sectionCount l ∧ (h.fileShdr l i).type = shtDynsym

/-- An index into a string table, where zero is none. -/
def IsIndex (name i : Nat) : Prop := name ≠ 0 → name < (h.fileShdr l i).size

/-- The section headers, and what they say of the file and of one another. -/
structure WellFormed : Prop where
  table : (h.header l).shoff + h.sectionCount l * l.shdrSize ≤ h.file.length
  within : ∀ i < h.sectionCount l, (h.fileShdr l i).type ≠ shtNull → (h.fileShdr l i).type ≠ shtNobits →
    (h.fileShdr l i).offset + (h.fileShdr l i).size ≤ h.file.length
  names : h.sectionCount l ≠ 0 →
    h.nameSection l < h.sectionCount l ∧ (h.fileShdr l (h.nameSection l)).type = shtStrtab
  named : ∀ i < h.sectionCount l, h.IsIndex l (h.fileShdr l i).name (h.nameSection l)
  links : ∀ i < h.sectionCount l, (h.fileShdr l i).type ≠ shtNull → (h.fileShdr l i).link < h.sectionCount l
  strings : ∀ i, h.IsDynsym l i → (h.fileShdr l (h.fileShdr l i).link).type = shtStrtab
  symbols : ∀ i, h.IsDynsym l i → ∀ j < h.symCount l i, h.IsIndex l (h.fileSym l i j).name (h.fileShdr l i).link
  terminated : ∀ i < h.sectionCount l, (h.fileShdr l i).type = shtStrtab → (h.fileShdr l i).size ≠ 0 →
    h.file[(h.fileShdr l i).offset + (h.fileShdr l i).size - 1]? = some 0

end Spec

/-- The header of a shared object, with one section header that the file ends before. -/
def cutOffFile : List UInt8 :=
  elfMagic ++ [1, 1, 1, 0, 0, 0, 0, 0, 0, 0, 0, 0] ++ [3, 0, 3, 0, 1, 0, 0, 0, 0, 0, 0, 0, 0, 0, 0, 0] ++ [0, 16, 0, 0] ++
    [0, 0, 0, 0, 52, 0, 32, 0, 0, 0, 40, 0, 1, 0, 0, 0]

theorem cutOffFile_lt : cutOffFile.length < 2 ^ 63 := by decide

def cutOff : ElfHost := ⟨cutOffFile, true, true, true, true, fun _ => none, cutOffFile_lt⟩

end ElfHost

end NSPluginWrapper
