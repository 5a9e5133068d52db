import NSPluginWrapper.Plugin.Install

/-! npw-config.c and npw-config-template.h: a plugin is recognised by the symbols of an ELF file. A `long` has 64 bits,
    and a block of no bytes is a block. -/

namespace NSPluginWrapper
open Lib

/-- How the walk over a file goes wrong: what could not be loaded is used, or more is read than was loaded. -/
inductive ElfFault where
  | failedLoad
  | outside
  deriving Repr, DecidableEq

abbrev Elf := Except ElfFault

/-! The numbers of elf.h. -/

abbrev eiClass : Nat := 4
abbrev eiData : Nat := 5
abbrev eiOsabi : Nat := 7
abbrev elfData2Lsb : UInt8 := 1
abbrev etDyn : Nat := 3
abbrev evCurrent : Nat := 1
abbrev shtNobits : Nat := 8
abbrev shtDynsym : Nat := 11
abbrev shtSunwVerdef : Nat := 0x6ffffffd
abbrev shtSunwVerneed : Nat := 0x6ffffffe
abbrev stbGlobal : Nat := 1
abbrev sttObject : Nat := 1
abbrev sttFunc : Nat := 2

/-- The structures of one word size: what they measure, and where their members are. An address has `addrSize` bytes;
    `sh_size` and `sh_link` come right behind `sh_offset`, `st_shndx` two bytes behind `st_info`. -/
structure ElfLayout where
  elfClass : UInt8
  ehdrSize : Nat
  shoffOfs : Nat
  shnumOfs : Nat
  addrSize : Nat
  shdrSize : Nat
  offsetOfs : Nat
  symSize : Nat
  infoOfs : Nat
  deriving Repr, DecidableEq

def elf32 : ElfLayout := ⟨1, 52, 32, 48, 4, 40, 16, 16, 12⟩

def elf64 : ElfLayout := ⟨2, 64, 40, 60, 8, 64, 24, 24, 4⟩

structure Ehdr where
  type : Nat
  machine : Nat
  version : Nat
  shoff : Nat
  shnum : Nat
  shstrndx : Nat
  deriving Repr, DecidableEq

structure Shdr where
  name : Nat
  type : Nat
  offset : Nat
  size : Nat
  link : Nat
  deriving Repr, DecidableEq

structure Sym where
  name : Nat
  bind : Nat
  type : Nat
  shndx : Nat
  deriving Repr, DecidableEq

/-- A number in either byte order. -/
def number (big : Bool) (bs : List UInt8) : Nat :=
  (if big then bs.reverse else bs).foldr (fun b n => b.toNat + 2 ^ 8 * n) 0

/-- The member of `size` bytes at `ofs`. -/
def member (big : Bool) (bs : List UInt8) (ofs size : Nat) : Nat := number big ((bs.drop ofs).take size)

namespace ElfLayout

variable (l : ElfLayout) (big : Bool)

def ehdr (bs : List UInt8) : Ehdr where
  type := member big bs 16 2
  machine := member big bs 18 2
  version := member big bs 20 4
  shoff := member big bs l.shoffOfs l.addrSize
  shnum := member big bs l.shnumOfs 2
  shstrndx := member big bs (l.shnumOfs + 2) 2

def shdr (bs : List UInt8) : Shdr where
  name := member big bs 0 4
  type := member big bs 4 4
  offset := member big bs l.offsetOfs l.addrSize
  size := member big bs (l.offsetOfs + l.addrSize) l.addrSize
  link := member big bs (l.offsetOfs + 2 * l.addrSize) 4

def sym (bs : List UInt8) : Sym where
  name := member big bs 0 4
  bind := member big bs l.infoOfs 1 / 16
  type := member big bs l.infoOfs 1 % 16
  shndx := member big bs (l.infoOfs + 2) 2

end ElfLayout

/-- A file, the machine it is looked at on, and what goes wrong there: the reads of the two headers, calloc(), and the
    calls of load_data() that fail, with the position they leave the file at. -/
structure ElfHost where
  file : List UInt8
  littleEndian : Bool
  readsIdent : Bool
  readsEhdr : Bool
  callocs : Bool
  fails : Nat → Option Nat
  file_lt : file.length < 2 ^ 63

/-- What a section has loaded, none where that failed or there is nothing to load. -/
abbrev Loaded := Option (List UInt8)

namespace ElfHost

variable (h : ElfHost) (l : ElfLayout)

/-- The call number `i` of load_data(), with the file at `pos`. lseek() refuses an offset that is negative as a `long`. -/
def loadData (i pos offset size : Nat) : Loaded × Nat :=
  let size := size % 2 ^ 32
  match h.fails i with
  | some pos => (none, pos)
  | none =>
    let pos := if offset < 2 ^ 63 then offset else pos
    let data := (h.file.drop pos).take (min size readMax)
    (if data.length = size then some data else none, pos + data.length)

def loadSections : List Shdr → Nat → Nat → List Loaded
  | [], _, _ => []
  | sec :: secs, i, pos =>
    if sec.type = shtNobits then none :: loadSections secs i pos
    else
      let (data, pos) := h.loadData i pos sec.offset sec.size
      data :: loadSections secs (i + 1) pos

/-- Whether the file's numbers have their most significant byte first, when they are read. -/
def big : Bool := !h.littleEndian && h.file[eiData]? != some elfData2Lsb

end ElfHost

/-! ### Names -/

/-- strcmp() of a string that was loaded with a known one. -/
def Loaded.strcmp (data : Loaded) (ofs : Nat) (str : List UInt8) : Elf Bool :=
  match data with
  | none => .error .failedLoad
  | some data =>
    match Lib.strcmp (data.drop ofs) str with
    | none => .error .outside
    | some equal => .ok equal

/-- The sections and what they have loaded. -/
abbrev Sections := List (Shdr × Loaded)

/-- `sdata[i]`. -/
def Sections.sdata (secs : Sections) (i : Nat) : Elf Loaded :=
  match secs[i]? with
  | none => .error .outside
  | some (_, data) => .ok data

/-- The first of the sections of some types that has a name. -/
def findSection (all : Sections) (shstrndx : Nat) (isType : Nat → Bool) (name : List UInt8) :
    Sections → Elf (Option (Shdr × Loaded))
  | [] => .ok none
  | (sec, data) :: rest =>
    if isType sec.type then do
      let names ← all.sdata shstrndx
      if ← names.strcmp sec.name name then .ok (some (sec, data)) else findSection all shstrndx isType name rest
    else findSection all shstrndx isType name rest

/-! ### Symbols -/

def npwPluginName : List UInt8 := ascii "NPW_Plugin"

/-- The functions of a plugin. -/
def npNames : List (List UInt8) := [ascii "NP_GetMIMEDescription", ascii "NP_Initialize", ascii "NP_Shutdown"]

/-- Whether a string is one of some, compared one after the other. -/
def isOneOf (strtab : Loaded) (ofs : Nat) : List (List UInt8) → Elf Bool
  | [] => .ok false
  | name :: names => do if ← strtab.strcmp ofs name then .ok true else isOneOf strtab ofs names

/-- One round of the loop over the symbols, with `nb_np_syms` and `is_wrapper_plugin`. -/
def countSym (strtab : Loaded) (sym : Sym) (nbNpSyms : Nat) (isWrapperPlugin : Bool) : Elf (Nat × Bool) :=
  if sym.bind ≠ stbGlobal then .ok (nbNpSyms, isWrapperPlugin)
  else if sym.type = sttObject then do
    if ← strtab.strcmp sym.name npwPluginName then .ok (nbNpSyms, true) else .ok (nbNpSyms, isWrapperPlugin)
  else if sym.type ≠ sttFunc then .ok (nbNpSyms, isWrapperPlugin)
  else do
    if ← isOneOf strtab sym.name npNames then .ok (nbNpSyms + 1, isWrapperPlugin) else .ok (nbNpSyms, isWrapperPlugin)

/-- `symtab[i]`. -/
def ElfLayout.symAt (l : ElfLayout) (big : Bool) (symtab : Loaded) (i : Nat) : Elf Sym :=
  match symtab with
  | none => .error .failedLoad
  | some data =>
    if (i + 1) * l.symSize ≤ data.length then .ok (l.sym big (data.drop (i * l.symSize))) else .error .outside

/-- The loop over the symbols from `i` on. -/
def ElfLayout.countSyms (l : ElfLayout) (big : Bool) (symtab strtab : Loaded) : Nat → Nat → Nat → Bool → Elf (Nat × Bool)
  | 0, _, nbNpSyms, isWrapperPlugin => .ok (nbNpSyms, isWrapperPlugin)
  | n + 1, i, nbNpSyms, isWrapperPlugin => do
    let sym ← l.symAt big symtab i
    let (nbNpSyms, isWrapperPlugin) ← countSym strtab sym nbNpSyms isWrapperPlugin
    l.countSyms big symtab strtab n (i + 1) nbNpSyms isWrapperPlugin

/-- `nb_syms`, an `int`. -/
def ElfLayout.nbSyms (l : ElfLayout) (sec : Shdr) : Nat := (cInt (sec.size / l.symSize : Nat)).toNat

/-- The answer of the symbols, of which there are some in the section `.dynsym`. -/
def ElfLayout.isPluginSyms (l : ElfLayout) (big : Bool) (secs : Sections) (sec : Shdr) (symtab : Loaded) : Elf Bool := do
  let strtab ← secs.sdata sec.link
  let (nbNpSyms, isWrapperPlugin) ← l.countSyms big symtab strtab (l.nbSyms sec) 0 0 false
  .ok (nbNpSyms == 3 && !isWrapperPlugin)

/-! ### The target -/

def targetArchOf (machine : Nat) : List UInt8 :=
  if machine = 3 then ascii "i386"
  else if machine = 62 then ascii "x86_64"
  else if machine = 2 then ascii "sparc"
  else if machine = 20 then ascii "ppc"
  else if machine = 21 then ascii "ppc64"
  else []

/-- What the OS/ABI byte says. -/
def targetOsOf (osabi : Option UInt8) : Option (List UInt8) :=
  if osabi = some 3 then some (ascii "linux")
  else if osabi = some 6 then some (ascii "solaris")
  else if osabi = some 9 then some (ascii "freebsd")
  else none

def isSunwVersion (type : Nat) : Bool := type == shtSunwVerdef || type == shtSunwVerneed

/-- `target_arch` and `target_os`, where they are asked for. -/
def fillPluginInfo (osabi : Option UInt8) (secs : Sections) (e : Ehdr) : Elf (List UInt8 × List UInt8) :=
  match targetOsOf osabi with
  | some targetOs => .ok (targetArchOf e.machine, targetOs)
  | none => do
    match ← findSection secs e.shstrndx isSunwVersion (ascii ".SUNW_version") secs with
    | some _ => .ok (targetArchOf e.machine, ascii "solaris")
    | none => .ok (targetArchOf e.machine, [])

/-! ### The file -/

namespace ElfHost

variable (h : ElfHost) (l : ElfLayout)

/-- The section headers and the sections of a header that was accepted. -/
def sections (e : Ehdr) : Elf Sections :=
  let (shdrs, pos) := h.loadData 0 l.ehdrSize e.shoff (e.shnum * l.shdrSize)
  if e.shnum = 0 then .ok []
  else
    match shdrs with
    | none => .error .failedLoad
    | some shdrs =>
      if !h.callocs then .error .failedLoad
      else
        let secs := (List.range e.shnum).map fun i => l.shdr h.big (shdrs.drop (i * l.shdrSize))
        .ok (secs.zip (h.loadSections secs 1 pos))

/-- The answer, and what is filled in of `out_plugin_info`, none where nothing is. -/
def isElfPluginFd (out : Bool) : Elf (Bool × Option (List UInt8 × List UInt8)) :=
  let e := l.ehdr h.big h.file
  if !h.readsEhdr || h.file.length < l.ehdrSize then .ok (false, none)
  else if h.file[eiClass]? ≠ some l.elfClass then .ok (false, none)
  else if e.type ≠ etDyn then .ok (false, none)
  else if e.version ≠ evCurrent then .ok (false, none)
  else do
    let secs ← h.sections l e
    let found ← findSection secs e.shstrndx (· == shtDynsym) (ascii ".dynsym") secs
    let ret ← match found with
      | none => .ok false
      | some (sec, symtab) => l.isPluginSyms h.big secs sec symtab
    if out then do
      let info ← fillPluginInfo h.file[eiOsabi]? secs e
      .ok (ret, some info)
    else .ok (ret, none)

def elfMagic : List UInt8 := [0x7f, 69, 76, 70]

def isPluginFd (out : Bool) : Elf (Bool × Option (List UInt8 × List UInt8)) :=
  if !h.readsIdent || h.file.length < 16 then .ok (false, none)
  else if h.file.take 4 ≠ elfMagic then .ok (false, none)
  else if h.file[eiClass]? = some elf32.elfClass then h.isElfPluginFd elf32 out
  else if h.file[eiClass]? = some elf64.elfClass then h.isElfPluginFd elf64 out
  else .ok (false, none)

end ElfHost

end NSPluginWrapper
