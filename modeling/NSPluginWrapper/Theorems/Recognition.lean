import NSPluginWrapper.Theorems.Elf

/-! Which well-formed shared objects are recognised as plugins: what was loaded is what stands in the file. -/

namespace NSPluginWrapper
open Lib

/-! ### Members -/

section Members
variable {big : Bool} {bs : List UInt8} {ofs size m : Nat} {l : ElfLayout}

theorem member_take (h : ofs + size ≤ m) : member big (bs.take m) ofs size = member big bs ofs size := by
  rw [member, member, List.drop_take, List.take_take, Nat.min_eq_left (Nat.le_sub_of_add_le' h)]

theorem number_lt (bs : List UInt8) : number big bs < 2 ^ (8 * bs.length) := by
  have hfold : ∀ bs : List UInt8, bs.foldr (fun b n => b.toNat + 2 ^ 8 * n) 0 < 2 ^ (8 * bs.length) := by
    intro bs
    induction bs with
    | nil => simp
    | cons b bs ih =>
      have hb := b.toNat_lt
      rw [List.foldr_cons, List.length_cons, Nat.mul_add, Nat.pow_add]
      omega
  rw [number]
  cases big with
  | false => exact hfold bs
  | true => simpa using hfold bs.reverse

theorem member_lt (big : Bool) (bs : List UInt8) (ofs size : Nat) : member big bs ofs size < 2 ^ (8 * size) := by
  refine lt_of_lt_of_le (number_lt _) (Nat.pow_le_pow_right (by decide) (Nat.mul_le_mul_left 8 ?_))
  rw [List.length_take]
  exact Nat.min_le_left _ _

theorem shdr_take (hl : l = elf32 ∨ l = elf64) : l.shdr big (bs.take l.shdrSize) = l.shdr big bs := by
  rcases hl with rfl | rfl
  · simp [ElfLayout.shdr, elf32, member_take]
  · simp [ElfLayout.shdr, elf64, member_take]

theorem sym_take (hl : l = elf32 ∨ l = elf64) : l.sym big (bs.take l.symSize) = l.sym big bs := by
  rcases hl with rfl | rfl
  · simp [ElfLayout.sym, elf32, member_take]
  · simp [ElfLayout.sym, elf64, member_take]

end Members

namespace ElfHost

variable {h : ElfHost} {l : ElfLayout} {out : Bool} {d str : List UInt8} {data : Loaded} {k j ofs : Nat}

/-! ### What was loaded -/

theorem loadData_some {i pos offset size : Nat} (hd : (h.loadData i pos offset size).1 = some d) (hoffset : offset < 2 ^ 63) :
    d <+: h.file.drop offset ∧ d.length = size % 2 ^ 32 := by
  rw [loadData] at hd
  split at hd
  · cases hd
  rw [if_pos hoffset] at hd
  dsimp only at hd
  split at hd
  · rename_i hlength
    cases hd
    exact ⟨List.take_prefix _ _, hlength⟩
  · cases hd

theorem loadSections_some {sec : Shdr} {secs : List Shdr} {i pos : Nat} (hsec : secs[k]? = some sec) :
    ∃ data, (h.loadSections secs i pos)[k]? = some data ∧
      ∀ d, data = some d → sec.type ≠ shtNobits ∧
        (sec.offset < 2 ^ 63 → d <+: h.file.drop sec.offset ∧ d.length = sec.size % 2 ^ 32) := by
  induction secs generalizing k i pos with
  | nil => cases hsec
  | cons head secs ih =>
    rw [loadSections]
    by_cases hnobits : head.type = shtNobits
    · rw [if_pos hnobits]
      cases k with
      | zero =>
        refine ⟨none, rfl, ?_⟩
        rintro d ⟨⟩
      | succ k => exact ih hsec
    · rw [if_neg hnobits]
      cases k with
      | zero =>
        cases hsec
        exact ⟨_, rfl, fun d hd => ⟨hnobits, loadData_some hd⟩⟩
      | succ k => exact ih hsec

/-! ### Shared objects -/

abbrev shnUndef : Nat := 0

section Spec
variable (h l)

/-- A well-formed shared object in the byte order of the machine. Its dynamic symbol table, where it has one, is the
    section of that type and name. -/
structure SharedObject : Prop where
  magic : h.file.take 4 = elfMagic
  layout : l = elf32 ∨ l = elf64
  elfClass : h.file[eiClass]? = some l.elfClass
  order : h.file[eiData]? = some (if h.littleEndian then elfData2Lsb else 2)
  long : l.ehdrSize ≤ h.file.length
  type : (h.header l).type = etDyn
  version : (h.header l).version = evCurrent
  wellFormed : h.WellFormed l
  unique : ∀ i j, h.IsDynsym l i → h.IsDynsym l j → i = j
  dynsym : ∀ i, h.IsDynsym l i → Lib.At (h.fileData l (h.nameSection l)) (h.fileShdr l i).name (ascii ".dynsym" ++ [0])

/-- The symbol `j` of a table is a global one of a type and a name. -/
def IsEntry (type : Nat) (name : List UInt8) (i j : Nat) : Prop :=
  (h.fileSym l i j).bind = stbGlobal ∧ (h.fileSym l i j).type = type ∧
    Lib.At (h.fileData l (h.fileShdr l i).link) (h.fileSym l i j).name (name ++ [0])

instance (type : Nat) (name : List UInt8) (i j : Nat) : Decidable (h.IsEntry l type name i j) :=
  inferInstanceAs (Decidable (_ ∧ _ ∧ _))

/-- The table defines it: one of the entries is not a reference. -/
def Defines (type : Nat) (name : List UInt8) (i : Nat) : Prop :=
  ∃ j < h.symCount l i, h.IsEntry l type name i j ∧ (h.fileSym l i j).shndx ≠ shnUndef

/-- The dynamic symbol table defines the functions of a plugin, and not the object of a wrapper. -/
def IsPlugin : Prop :=
  ∃ i, h.IsDynsym l i ∧ (∀ name ∈ npNames, h.Defines l sttFunc name i) ∧ ¬h.Defines l sttObject npwPluginName i

/-- Of the entries of a table that are looked at, three are of the functions, and none is of the object, definitions or
    references. -/
def HasThree (i : Nat) : Prop :=
  ((List.range (l.nbSyms (h.fileShdr l i))).countP fun j => npNames.any fun name => decide (h.IsEntry l sttFunc name i j)) =
      3 ∧
    ∀ j < l.nbSyms (h.fileShdr l i), ¬h.IsEntry l sttObject npwPluginName i j

/-- The two headers are read. -/
def readsHeaders : Bool := h.readsIdent && h.readsEhdr

end Spec

theorem shnum_lt (h : ElfHost) (hl : l = elf32 ∨ l = elf64) : (h.header l).shnum * l.shdrSize < 2 ^ 32 := by
  have hlt : (h.header l).shnum < 2 ^ 16 := member_lt _ _ _ _
  rcases hl with rfl | rfl
  · simp only [elf32] at hlt ⊢
    omega
  · simp only [elf64] at hlt ⊢
    omega

theorem sectionCount_eq (hshnum : (h.header l).shnum ≠ 0) : h.sectionCount l = (h.header l).shnum := by
  rw [sectionCount, if_neg (by simp [hshnum])]

namespace SharedObject

variable (ho : h.SharedObject l)
include ho

/-- The headers of the sections are those in the file, and what was loaded of a section stands there. -/
theorem loadedSections (hshnum : (h.header l).shnum ≠ 0) (hloaded : (h.loadedHeaders l).1 ≠ none)
    (hk : k < (h.header l).shnum) :
    ∃ data, (h.loadedSections l)[k]? = some (h.fileShdr l k, data) ∧
      ∀ d, data = some d → (h.fileShdr l k).type ≠ shtNull → d <+: h.fileData l k := by
  obtain ⟨d, hd⟩ := Option.ne_none_iff_exists'.mp hloaded
  have htable := ho.wellFormed.table
  rw [sectionCount_eq hshnum] at htable
  have hshoff : (h.header l).shoff < 2 ^ 63 := by
    have := h.file_lt
    omega
  obtain ⟨hpre, hlength⟩ := loadData_some hd hshoff
  rw [Nat.mod_eq_of_lt (shnum_lt h ho.layout)] at hlength
  have hshdr : l.shdr h.big (d.drop (k * l.shdrSize)) = h.fileShdr l k := by
    have hle : k * l.shdrSize + l.shdrSize ≤ d.length := by
      rw [hlength, ← Nat.succ_mul]
      exact Nat.mul_le_mul_right _ hk
    rw [fileShdr, ← List.drop_drop, ← shdr_take ho.layout, take_drop_of_prefix hpre hle, shdr_take ho.layout]
  have hsec : ((List.range (h.header l).shnum).map fun i =>
      l.shdr h.big (((h.loadedHeaders l).1.getD []).drop (i * l.shdrSize)))[k]? = some (h.fileShdr l k) := by
    rw [List.getElem?_map, List.getElem?_range hk, hd, Option.map_some, Option.getD_some, hshdr]
  obtain ⟨data, hdata, hpiece⟩ := loadSections_some hsec
  refine ⟨data, ?_, fun d hd hnull => ?_⟩
  · rw [ElfHost.loadedSections, List.getElem?_zip_eq_some]
    exact ⟨hsec, hdata⟩
  · obtain ⟨hnobits, hpiece⟩ := hpiece d hd
    have hwithin := ho.wellFormed.within k (by rwa [sectionCount_eq hshnum]) hnull hnobits
    obtain ⟨hpre, hlength⟩ := hpiece (by have := h.file_lt; omega)
    refine List.prefix_take_iff.mpr ⟨hpre, ?_⟩
    rw [hlength]
    exact Nat.mod_le _ _

end SharedObject

/-! ### What was told of it -/

section Told
variable {i : Nat} (hpiece : ∀ d, data = some d → d <+: h.fileData l i)
include hpiece

theorem has_iff (hdecides : data.Decides ofs str) : data.Has ofs str ↔ Lib.At (h.fileData l i) ofs (str ++ [0]) := by
  obtain ⟨d, rfl, hd⟩ := hdecides
  rw [← at_of_prefix (hpiece d rfl) hd]
  constructor
  · rintro ⟨_, heq, hat⟩
    cases heq
    exact hat
  · intro hat
    exact ⟨d, rfl, hat⟩

theorem symOf_eq (hl : l = elf32 ∨ l = elf64) (hloaded : ∃ d, data = some d ∧ (j + 1) * l.symSize ≤ d.length) :
    l.symOf h.big data j = h.fileSym l i j := by
  obtain ⟨d, rfl, hle⟩ := hloaded
  rw [Nat.succ_mul] at hle
  rw [ElfLayout.symOf, Option.getD_some, fileSym, ← sym_take hl, take_drop_of_prefix (hpiece d rfl) hle, sym_take hl]

end Told

section Counted
variable {symtab strtab : Loaded} (hl : l = elf32 ∨ l = elf64)
  (hsymtab : ∀ d, symtab = some d → d <+: h.fileData l k)
  (hstrtab : ∀ d, strtab = some d → d <+: h.fileData l (h.fileShdr l k).link)
include hl hsymtab hstrtab

/-- The symbols that were loaded are counted like the entries of the file. -/
theorem counted_iff (hread : SymsReadable l h.big symtab strtab (List.range (l.nbSyms (h.fileShdr l k)))) :
    l.Counted h.big symtab strtab (l.nbSyms (h.fileShdr l k)) = true ↔ h.HasThree l k := by
  have hfunc : ∀ j ∈ List.range (l.nbSyms (h.fileShdr l k)),
      (IsNpFunc strtab (l.symOf h.big symtab j) = true ↔
        (npNames.any fun name => decide (h.IsEntry l sttFunc name k j)) = true) := by
    intro j hj
    obtain ⟨hloaded, hnames⟩ := hread j hj
    rw [symOf_eq hsymtab hl hloaded] at hnames ⊢
    rw [IsNpFunc, List.any_eq_true, List.any_eq_true]
    refine exists_congr fun name => and_congr_right fun hname => ?_
    rw [IsFunc, Bool.and_eq_true, Bool.and_eq_true, beq_iff_eq, beq_iff_eq, decide_eq_true_iff, decide_eq_true_iff, and_assoc,
      IsEntry]
    refine and_congr_right fun hbind => and_congr_right fun htype => ?_
    exact has_iff hstrtab ((hnames hbind).2 htype name hname)
  have hobject : ∀ j ∈ List.range (l.nbSyms (h.fileShdr l k)),
      (IsNpwPlugin strtab (l.symOf h.big symtab j) = true ↔ h.IsEntry l sttObject npwPluginName k j) := by
    intro j hj
    obtain ⟨hloaded, hnames⟩ := hread j hj
    rw [symOf_eq hsymtab hl hloaded] at hnames ⊢
    rw [IsNpwPlugin, Bool.and_eq_true, Bool.and_eq_true, beq_iff_eq, beq_iff_eq, decide_eq_true_iff, and_assoc, IsEntry]
    refine and_congr_right fun hbind => and_congr_right fun htype => ?_
    exact has_iff hstrtab ((hnames hbind).1 htype)
  rw [ElfLayout.Counted, Bool.and_eq_true, beq_iff_eq, List.countP_congr hfunc, HasThree]
  refine and_congr_right fun _ => ?_
  rw [Bool.not_eq_true', List.any_eq_false]
  constructor
  · intro hno j hj
    rw [← List.mem_range] at hj
    exact fun hentry => hno j hj ((hobject j hj).mpr hentry)
  · intro hno j hj hnpw
    exact hno j (List.mem_range.mp hj) ((hobject j hj).mp hnpw)

end Counted

namespace SharedObject

variable (ho : h.SharedObject l)
include ho

theorem loaded_piece (hshnum : (h.header l).shnum ≠ 0) (hloaded : (h.loadedHeaders l).1 ≠ none) {i : Nat}
    (hi : i < (h.header l).shnum) (hnull : (h.fileShdr l i).type ≠ shtNull) :
    ∀ d, (h.loadedSections l).loaded i = some d → d <+: h.fileData l i := by
  intro d hd
  obtain ⟨data, hdata, hpiece⟩ := ho.loadedSections hshnum hloaded hi
  rw [Sections.loaded, hdata, Option.bind_some] at hd
  exact hpiece d hd hnull

theorem getElem?_loadedSections (hshnum : (h.header l).shnum ≠ 0) (hloaded : (h.loadedHeaders l).1 ≠ none)
    {sec : Shdr × Loaded} (hsec : (h.loadedSections l)[k]? = some sec) :
    k < (h.header l).shnum ∧ sec.1 = h.fileShdr l k := by
  have hk : k < (h.header l).shnum := by
    obtain ⟨hfst, -⟩ := List.getElem?_zip_eq_some.mp hsec
    have hlt := (List.getElem?_eq_some_iff.mp hfst).1
    rwa [List.length_map, List.length_range] at hlt
  obtain ⟨data, hdata, -⟩ := ho.loadedSections hshnum hloaded hk
  obtain rfl := Option.some.inj (hdata.symm.trans hsec)
  exact ⟨hk, rfl⟩

/-- No section before the table is one. -/
theorem split_dynsym (hshnum : (h.header l).shnum ≠ 0) (hloaded : (h.loadedHeaders l).1 ≠ none) (hk : h.IsDynsym l k)
    (hsec : (h.loadedSections l)[k]? = some (h.fileShdr l k, data)) :
    ∃ pre post, h.loadedSections l = pre ++ (h.fileShdr l k, data) :: post ∧ ∀ x ∈ pre, x.1.type ≠ shtDynsym := by
  obtain ⟨hlt, hget⟩ := List.getElem?_eq_some_iff.mp hsec
  refine ⟨(h.loadedSections l).take k, (h.loadedSections l).drop (k + 1), ?_, fun x hx htype => ?_⟩
  · rw [← hget, List.getElem_cons_drop, List.take_append_drop]
  · obtain ⟨i, hi, hx⟩ := List.mem_take_iff_getElem.mp hx
    obtain ⟨hi', hshdr⟩ := ho.getElem?_loadedSections hshnum hloaded (List.getElem?_eq_some_iff.mpr ⟨_, hx⟩)
    rw [hshdr] at htype
    obtain rfl := ho.unique i k ⟨by rwa [sectionCount_eq hshnum], htype⟩ hk
    exact absurd (Nat.lt_of_lt_of_le hi (Nat.min_le_left _ _)) (Nat.lt_irrefl i)

/-- Its name can be told where the names are readable. -/
theorem dynsym_decides (hshnum : (h.header l).shnum ≠ 0) (hread : h.Readable l out) (hk : h.IsDynsym l k) :
    ((h.loadedSections l).loaded (h.header l).shstrndx).Decides (h.fileShdr l k).name (ascii ".dynsym") := by
  have hloaded := (hread.headers hshnum).1
  obtain ⟨data, hdata, -⟩ := ho.loadedSections hshnum hloaded (sectionCount_eq hshnum ▸ hk.1)
  obtain ⟨pre, post, hsplit, hpre⟩ := ho.split_dynsym hshnum hloaded hk hdata
  refine hread.names pre _ post hsplit (beq_iff_eq.mpr hk.2) fun x hx htype => ?_
  exact absurd (beq_iff_eq.mp htype) (hpre x hx)

theorem nameSection_eq (hshnum : (h.header l).shnum ≠ 0) (hloaded : (h.loadedHeaders l).1 ≠ none)
    (hdecides : ((h.loadedSections l).loaded (h.header l).shstrndx).Decides ofs str) :
    h.nameSection l = (h.header l).shstrndx ∧ (h.header l).shstrndx < (h.header l).shnum := by
  have hlt : (h.header l).shnum < 2 ^ 16 := member_lt _ _ _ _
  obtain ⟨d, hd, -⟩ := hdecides
  obtain ⟨sec, hsec, -⟩ := Option.bind_eq_some_iff.mp hd
  obtain ⟨hstr, -⟩ := ho.getElem?_loadedSections hshnum hloaded hsec
  refine ⟨?_, hstr⟩
  rw [nameSection, if_neg]
  rw [shnXindex]
  omega

/-- It has its name in what was loaded. -/
theorem dynsym_has (hshnum : (h.header l).shnum ≠ 0) (hread : h.Readable l out) (hk : h.IsDynsym l k) :
    ((h.loadedSections l).loaded (h.header l).shstrndx).Has (h.fileShdr l k).name (ascii ".dynsym") := by
  have hloaded := (hread.headers hshnum).1
  have hdecides := ho.dynsym_decides hshnum hread hk
  obtain ⟨hname, hlt⟩ := ho.nameSection_eq hshnum hloaded hdecides
  obtain ⟨-, htype⟩ := ho.wellFormed.names (by rwa [sectionCount_eq hshnum])
  rw [hname] at htype
  refine (has_iff (ho.loaded_piece hshnum hloaded hlt (by rw [htype]; decide)) hdecides).mpr ?_
  rw [← hname]
  exact ho.dynsym k hk

/-- The section of the symbols that is found is the table of the file. -/
theorem dynsym_iff (hshnum : (h.header l).shnum ≠ 0) (hread : h.Readable l out)
    (hsec : (h.loadedSections l)[k]? = some (h.fileShdr l k, data)) :
    h.IsDynsym l k ↔ h.dynsym l = some (h.fileShdr l k, data) := by
  have hloaded := (hread.headers hshnum).1
  obtain ⟨hk, -⟩ := ho.getElem?_loadedSections hshnum hloaded hsec
  constructor
  · intro hdynsym
    obtain ⟨pre, post, hsplit, hpre⟩ := ho.split_dynsym hshnum hloaded hdynsym hsec
    refine List.find?_eq_some_iff_append.mpr ⟨?_, pre, post, hsplit, fun x hx => ?_⟩
    · have hhas := ho.dynsym_has hshnum hread hdynsym
      simp [IsNamed, hdynsym.2, hhas]
    · simp [IsNamed, hpre x hx]
  · intro hfound
    have hnamed := List.find?_some hfound
    rw [IsNamed, Bool.and_eq_true, beq_iff_eq] at hnamed
    exact ⟨by rwa [sectionCount_eq hshnum], hnamed.1⟩

/-- It is recognised by the entries of its table. -/
theorem recognised_iff (hshnum : (h.header l).shnum ≠ 0) (hread : h.Readable l out) :
    h.recognised l = true ↔ ∃ k, h.IsDynsym l k ∧ h.HasThree l k := by
  have hloaded := (hread.headers hshnum).1
  have hcounted : ∀ k data, h.IsDynsym l k → (h.loadedSections l)[k]? = some (h.fileShdr l k, data) →
      (l.Counted h.big data ((h.loadedSections l).loaded (h.fileShdr l k).link) (l.nbSyms (h.fileShdr l k)) = true ↔
        h.HasThree l k) := by
    intro k data hk hsec
    have hnull : (h.fileShdr l k).type ≠ shtNull := by rw [hk.2]; decide
    have hlink := ho.wellFormed.links k hk.1 hnull
    have hstrtab : (h.fileShdr l (h.fileShdr l k).link).type ≠ shtNull := by rw [ho.wellFormed.strings k hk]; decide
    rw [sectionCount_eq hshnum] at hlink
    obtain ⟨data', hsec', hpiece⟩ := ho.loadedSections hshnum hloaded (ho.getElem?_loadedSections hshnum hloaded hsec).1
    obtain ⟨-, rfl⟩ := Prod.mk.inj (Option.some.inj (hsec'.symm.trans hsec))
    obtain ⟨-, hsyms⟩ := hread.symbols _ _ ((ho.dynsym_iff hshnum hread hsec).mp hk)
    exact counted_iff ho.layout (fun d hd => hpiece d hd hnull) (ho.loaded_piece hshnum hloaded hlink hstrtab) hsyms
  rw [recognised, Option.any_eq_true]
  constructor
  · rintro ⟨⟨sec, data⟩, hfound, hcount⟩
    obtain ⟨k, hsec⟩ := List.mem_iff_getElem?.mp (List.mem_of_find?_eq_some hfound)
    obtain ⟨hk, rfl⟩ := ho.getElem?_loadedSections hshnum hloaded hsec
    have hdynsym := (ho.dynsym_iff hshnum hread hsec).mpr hfound
    exact ⟨k, hdynsym, (hcounted k data hdynsym hsec).mp hcount⟩
  · rintro ⟨k, hk, hthree⟩
    obtain ⟨data, hsec, -⟩ := ho.loadedSections hshnum hloaded (sectionCount_eq hshnum ▸ hk.1)
    exact ⟨_, (ho.dynsym_iff hshnum hread hsec).mp hk, (hcounted k data hk hsec).mpr hthree⟩

theorem recognised_iff_three (hread : h.Readable l out) :
    h.recognised l = true ↔ (h.header l).shnum ≠ 0 ∧ ∃ k, h.IsDynsym l k ∧ h.HasThree l k := by
  by_cases hshnum : (h.header l).shnum = 0
  · have hnone : h.dynsym l = none := by simp [ElfHost.dynsym, ElfHost.loadedSections, hshnum]
    simp [recognised, hnone, hshnum]
  · rw [ho.recognised_iff hshnum hread]
    simp [hshnum]

theorem layout_accepted (hreads : h.readsHeaders = true) : h.layout = some l ∧ h.Accepted l := by
  obtain ⟨hident, hehdr⟩ := Bool.and_eq_true_iff.mp hreads
  refine ⟨?_, hehdr, ho.long, ho.type, ho.version⟩
  have hlong : ¬h.file.length < 16 := by
    have hle := ho.long
    rcases ho.layout with rfl | rfl
    · simp only [elf32] at hle
      omega
    · simp only [elf64] at hle
      omega
  rw [ElfHost.layout, if_neg (by simp [hident, hlong]), if_neg (not_not.mpr ho.magic), ho.elfClass]
  rcases ho.layout with rfl | rfl
  · rfl
  · rfl

end SharedObject

def objectStrings : List UInt8 :=
  [0] ++ ascii ".dynsym" ++ [0] ++ ascii "NP_GetMIMEDescription" ++ [0] ++ ascii "NP_Initialize" ++ [0] ++
    ascii "NP_Shutdown" ++ [0] ++ ascii ".dynstr" ++ [0, 0, 0, 0]

/-- A global function of a name. -/
def objectSym (name : UInt8) : List UInt8 := [name, 0, 0, 0, 0, 0, 0, 0, 0, 0, 0, 0, 0x12, 0, 0xf1, 0xff]

/-- It defines the functions of a plugin, NP_Initialize in two versions. -/
def versionedFile : List UInt8 :=
  elfMagic ++ [1, 1, 1, 0, 0, 0, 0, 0, 0, 0, 0, 0] ++ [3, 0, 3, 0, 1, 0, 0, 0, 0, 0, 0, 0, 0, 0, 0, 0] ++
    [52, 0, 0, 0, 0, 0, 0, 0, 52, 0, 32, 0, 0, 0, 40, 0, 3, 0, 2, 0] ++
    List.replicate 40 0 ++
    [1, 0, 0, 0, 11, 0, 0, 0, 2, 0, 0, 0, 0, 0, 0, 0, 240, 0, 0, 0, 80, 0, 0, 0, 2, 0, 0, 0, 1, 0, 0, 0, 4, 0, 0, 0, 16, 0, 0, 0] ++
    [57, 0, 0, 0, 3, 0, 0, 0, 2, 0, 0, 0, 0, 0, 0, 0, 172, 0, 0, 0, 68, 0, 0, 0, 0, 0, 0, 0, 0, 0, 0, 0, 1, 0, 0, 0, 0, 0, 0, 0] ++
    objectStrings ++ List.replicate 16 0 ++ [9, 31, 31, 45].flatMap objectSym

theorem versionedFile_lt : versionedFile.length < 2 ^ 63 := by decide +kernel

def versioned : ElfHost := ⟨versionedFile, true, true, true, true, fun _ => none, versionedFile_lt⟩

theorem versioned_dynsym {i : Nat} (hi : versioned.IsDynsym elf32 i) : i = 1 := by
  have hall : ∀ i < versioned.sectionCount elf32, (versioned.fileShdr elf32 i).type = shtDynsym → i = 1 := by decide +kernel
  exact hall i hi.1 hi.2

theorem versioned_wellFormed : versioned.WellFormed elf32 where
  table := by decide +kernel
  within := by decide +kernel
  names := by decide +kernel
  named := by
    simp only [IsIndex]
    decide +kernel
  links := by decide +kernel
  strings := by
    intro i hi
    obtain rfl := versioned_dynsym hi
    decide +kernel
  symbols := by
    intro i hi
    obtain rfl := versioned_dynsym hi
    simp only [IsIndex]
    decide +kernel
  terminated := by decide +kernel

theorem versioned_sharedObject : versioned.SharedObject elf32 where
  magic := by decide +kernel
  layout := .inl rfl
  elfClass := by decide +kernel
  order := by decide +kernel
  long := by decide +kernel
  type := by decide +kernel
  version := by decide +kernel
  wellFormed := versioned_wellFormed
  unique := by
    intro i j hi hj
    rw [versioned_dynsym hi, versioned_dynsym hj]
  dynsym := by
    intro i hi
    obtain rfl := versioned_dynsym hi
    decide +kernel

theorem versioned_isPlugin : versioned.IsPlugin elf32 := by
  refine ⟨1, ?_, ?_, ?_⟩
  · exact ⟨by decide +kernel, by decide +kernel⟩
  · simp only [Defines]
    decide +kernel
  · simp only [Defines]
    decide +kernel

theorem versioned_answer : versioned.isPluginFd false = .ok (false, none) := by decide +kernel

end ElfHost

end NSPluginWrapper
