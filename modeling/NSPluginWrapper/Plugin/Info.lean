import NSPluginWrapper.Lib.Stdio
import NSPluginWrapper.Rpc.Message

/-! What a plugin says of itself: npw-viewer.c prints it, and npw-wrapper.c reads it from a pipe. Every block
    that has a size is allocated, and printf() writes all of its text. -/

namespace NSPluginWrapper
open Lib

abbrev NPError := Int16

namespace NPError

def noError : NPError := 0
def genericError : NPError := 1
def invalidFunctableError : NPError := 3

end NPError

/-- The NPPVariables a plugin is asked for before it is initialized. -/
inductive NPPVariable where
  | pluginNameString
  | pluginDescriptionString
  deriving Repr, DecidableEq

/-- The three strings; none is NULL. -/
structure PluginInfo where
  name : Option CString
  description : Option CString
  formats : Option CString
  deriving Repr, DecidableEq

namespace PluginInfo

def unset : PluginInfo := ⟨none, none, none⟩

def strings (info : PluginInfo) : List CString :=
  info.name.toList ++ info.description.toList ++ info.formats.toList

/-- Where `ptag` points to for a tag. -/
def store (info : PluginInfo) (tag : List UInt8) (str : CString) : PluginInfo :=
  if tag = ascii "PLUGIN_NAME" then { info with name := some str }
  else if tag = ascii "PLUGIN_DESC" then { info with description := some str }
  else if tag = ascii "PLUGIN_MIME" then { info with formats := some str }
  else info

end PluginInfo

/-! ### In the viewer -/

/-- The functions that the viewer finds in a plugin, and what the ones that tell something answer. -/
structure PluginLibrary where
  npGetMIMEDescription : Option (Option CString)
  npGetValue : Option (NPPVariable → NPError × Option CString)
  npInitialize : Bool
  npShutdown : Bool

namespace PluginLibrary

def gNPGetMIMEDescription (p : PluginLibrary) : Option CString := p.npGetMIMEDescription.join

def gNPGetValue (p : PluginLibrary) (npVariable : NPPVariable) : NPError × Option CString :=
  match p.npGetValue with
  | none => (NPError.invalidFunctableError, none)
  | some npGetValue => npGetValue npVariable

/-- A string that was given without an error. -/
def value (p : PluginLibrary) (npVariable : NPPVariable) : Option CString :=
  if (p.gNPGetValue npVariable).1 = NPError.noError then (p.gNPGetValue npVariable).2 else none

def isFlashPlayer9Beta1 (p : PluginLibrary) : Bool :=
  match p.value .pluginDescriptionString with
  | some pluginDesc => pluginDesc.bytes == ascii "Shockwave Flash 9.0 d55"
  | none => false

def doTest (p : PluginLibrary) : Nat :=
  if p.npGetMIMEDescription.isNone then 1
  else if !p.npInitialize then 2
  else if !p.npShutdown then 3
  else if p.isFlashPlayer9Beta1 then 4
  else 0

/-- One printf() of `do_info`. -/
def printInfo (tag : String) : Option CString → List UInt8
  | none => []
  | some str => ascii tag ++ blank :: decimal str.bytes.length ++ newline :: str.bytes ++ [newline]

def doInfo (p : PluginLibrary) : Nat × List UInt8 :=
  if p.doTest ≠ 0 then (1, [])
  else
    let pluginName := p.value .pluginNameString
    let pluginDesc := p.value .pluginDescriptionString
    let mimeInfo := p.gNPGetMIMEDescription
    (0, printInfo "PLUGIN_NAME" pluginName ++ printInfo "PLUGIN_DESC" pluginDesc ++ printInfo "PLUGIN_MIME" mimeInfo)

/-- The strings that there are to print. -/
def info (p : PluginLibrary) : PluginInfo where
  name := p.value .pluginNameString
  description := p.value .pluginDescriptionString
  formats := p.gNPGetMIMEDescription

end PluginLibrary

/-! ### In the wrapper -/

theorem length_fgets_lt {size : Int} {fp line rest : List UInt8} (hsize : 1 < size)
    (h : fgets size fp = some (line, rest)) : rest.length < fp.length := by
  obtain ⟨-, -, rfl, hne⟩ := fgets_some h
  rw [List.length_append]
  exact Nat.lt_add_of_pos_left (List.length_pos_iff.mpr (hne hsize))

theorem length_fgets_le {size : Int} {fp line rest : List UInt8} (h : fgets size fp = some (line, rest)) :
    rest.length ≤ fp.length := by
  obtain ⟨-, -, rfl, -⟩ := fgets_some h
  rw [List.length_append]
  exact Nat.le_add_left _ _

/-- sizeof(line). -/
def lineSize : Int := 256

/-- What is left of a line that was too long. -/
def skipLine (fp : List UInt8) : List UInt8 :=
  match _h : fgets lineSize fp with
  | none => fp
  | some (line, rest) => if (CString.ofBytes line).bytes.getLast? = some newline then rest else skipLine rest
termination_by fp.length
decreasing_by exact length_fgets_lt (by decide) _h

theorem length_skipLine_le (fp : List UInt8) : (skipLine fp).length ≤ fp.length := by
  fun_induction skipLine fp with
  | case1 => exact Nat.le_refl _
  | case2 fp line rest h hline => exact length_fgets_le h
  | case3 fp line rest h hline ih => exact ih.trans (length_fgets_le h)

/-- The loop of `plugin_init` over the viewer's output. There is no block of a negative size. -/
def readInfo (fp : List UInt8) (info : PluginInfo) : PluginInfo :=
  match _h : fgets lineSize fp with
  | none => info
  | some (line, rest) =>
    let line := (CString.ofBytes line).bytes
    if line = [] then readInfo rest info
    else if line.getLast? ≠ some newline then readInfo (skipLine rest) info
    else
      match scanWordInt line.dropLast with
      | none => readInfo rest info
      | some (tag, len) =>
        match _h' : fgets (cInt (len + 1)) rest with
        | none => readInfo rest info
        | some (str, rest) => readInfo rest (info.store tag (CString.ofBytes str))
termination_by fp.length
decreasing_by
  · exact length_fgets_lt (by decide) _h
  · exact (length_skipLine_le _).trans_lt (length_fgets_lt (by decide) _h)
  · exact length_fgets_lt (by decide) _h
  · exact length_fgets_lt (by decide) _h
  · exact (length_fgets_le _h').trans_lt (length_fgets_lt (by decide) _h)

end NSPluginWrapper
