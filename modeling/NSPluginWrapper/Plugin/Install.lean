import NSPluginWrapper.Lib.Image
import NSPluginWrapper.Lib.Stdio
import NSPluginWrapper.Rpc.Message

/-! npw-config.c: a wrapper for a plugin is a copy of the master wrapper in which the NPW_PluginInfo named
    NPW_Plugin is patched. Pointers and `time_t` are of 64 bits, and a descriptor is read in place, out of the bytes
    of its file. -/

namespace NSPluginWrapper
open Lib

/-- NPW_PLUGIN_IDENT_SIZE. -/
abbrev identSize : Nat := 32
abbrev pathMax : Nat := 4096
abbrev targetSize : Nat := 65

/-- NPW_FULL_VERSION and NPW_DEFAULT_PLUGIN_PATH of a build, which fit the members of its NPW_Plugin. -/
structure Build where
  fullVersion : CString
  defaultPluginPath : CString
  fullVersion_fits : fullVersion.bytes.length < 26
  defaultPluginPath_fits : defaultPluginPath.bytes.length < pathMax

/-- NPW_PLUGIN_IDENT. -/
def Build.pluginIdent (b : Build) : List UInt8 := ascii "NPW:X:" ++ b.fullVersion.bytes

structure NPWPluginInfo where
  ident : CString
  path : CString
  mtime : Int64
  targetArch : CString
  targetOs : CString
  structVersion : Int8
  viewerPath : CString
  deriving Repr, DecidableEq

namespace NPWPluginInfo

/-! The offsets of the members of the packed structure, and its size. -/

abbrev pathOfs : Nat := identSize
abbrev mtimeOfs : Nat := pathOfs + pathMax
abbrev targetArchOfs : Nat := mtimeOfs + 8
abbrev targetOsOfs : Nat := targetArchOfs + targetSize
abbrev structVersionOfs : Nat := targetOsOfs + targetSize
abbrev viewerPathOfs : Nat := structVersionOfs + 1
abbrev size : Nat := viewerPathOfs + pathMax

end NPWPluginInfo

/-- How an installation stops short: with a return code, or where it leaves the memory that is its own. -/
inductive InstallStop where
  | code (ret : Nat)
  | fault
  deriving Repr, DecidableEq

abbrev Install := Except InstallStop

/-- strcpy() out of `mem` into a member of `size` bytes. -/
def strcpyFrom (mem : List UInt8) (ofs size : Nat) : Install CString :=
  let str := CString.ofBytes (mem.drop ofs)
  if ofs + str.bytes.length < mem.length ∧ str.bytes.length < size then .ok str else .error .fault

def memcpyTo (mem : List UInt8) (ofs : Nat) (bs : List UInt8) : Install (List UInt8) :=
  if ofs + bs.length ≤ mem.length then .ok (write mem ofs bs) else .error .fault

/-- strcpy() into `mem`. -/
def strcpyTo (mem : List UInt8) (ofs : Nat) (str : CString) : Install (List UInt8) := memcpyTo mem ofs (str.bytes ++ [0])

/-! ### Recognising a wrapper -/

/-- What dlsym() finds in a library: three functions, and NPW_Plugin at an offset of the file. -/
structure Handle where
  npInitialize : Bool
  npShutdown : Bool
  npGetMIMEDescription : Bool
  npwPlugin : Option Nat
  deriving Repr, DecidableEq

/-- `plugin_info_version`, of an ident and the `struct_version` beside it. -/
def pluginInfoVersion (ident : CString) (structVersion : Int8) : Int :=
  if ident.bytes.take 6 = ascii "NPW:X:" then structVersion.toInt
  else if ident.bytes.take 10 ≠ ascii "NPW:0.9.90" then 1
  else 0

/-- A member that descriptors have from a version on. -/
def memberFrom (version since : Int) (mem : List UInt8) (ofs size : Nat) : Install CString :=
  if since ≤ version then strcpyFrom mem ofs size else .ok (.ofBytes [])

/-- With an `out_plugin_info`. -/
def isWrapperPluginHandle (handle : Handle) (mem : List UInt8) : Install (Option NPWPluginInfo) :=
  if !handle.npInitialize || !handle.npShutdown || !handle.npGetMIMEDescription then .ok none
  else
    match handle.npwPlugin with
    | none => .ok none
    | some pi => do
      let ident ← strcpyFrom mem pi identSize
      let version := pluginInfoVersion ident (Int8.ofUInt8 (mem[pi + NPWPluginInfo.structVersionOfs]?.getD 0))
      let path ← strcpyFrom mem (pi + NPWPluginInfo.pathOfs) pathMax
      let mtime := Int64.ofUInt64 (ofLe64 ((mem.drop (pi + NPWPluginInfo.mtimeOfs)).take 8))
      let targetArch ← memberFrom version 1 mem (pi + NPWPluginInfo.targetArchOfs) targetSize
      let targetOs ← memberFrom version 1 mem (pi + NPWPluginInfo.targetOsOfs) targetSize
      let viewerPath ← memberFrom version 2 mem (pi + NPWPluginInfo.viewerPathOfs) pathMax
      .ok (some { ident, path, mtime, targetArch, targetOs, structVersion := Int8.ofInt version, viewerPath })

/-! ### Installing one -/

/-- What is known of the target of a plugin. -/
structure PluginTarget where
  targetArch : CString
  targetOs : CString
  viewerPath : CString
  deriving Repr, DecidableEq

/-- What do_install_plugin() is told by the system: the master wrapper's library and its file, how much of it
    read() gives, the plugin's modification time, and the viewer that is_plugin_viewer_available() finds. -/
structure InstallHost where
  dlopen : Option Handle
  image : List UInt8
  opens : Bool
  lseeks : Bool
  mallocs : Bool
  reads : Nat
  stat : Option Int64
  isPluginViewerAvailable : CString → PluginTarget → Option PluginTarget
  setsContents : Bool

/-- No read() gives more. -/
def readMax : Nat := 0x7ffff000

/-- What comes after the last `c`. -/
def strrchr (s : List UInt8) (c : UInt8) : Option (List UInt8) :=
  if c ∈ s then some (s.reverse.takeWhile (· ≠ c)).reverse else none

/-- Both memcmp() of the scan; the ident is as long as the one of the library. -/
def Matches (b : Build) (data : List UInt8) (pluginIdentLength i : Nat) : Prop :=
  At data i b.defaultPluginPath.bytes ∧ At data (i - identSize) ((b.pluginIdent ++ [0]).take pluginIdentLength)

instance (b : Build) (data : List UInt8) (n i : Nat) : Decidable (Matches b data n i) := inferInstanceAs (Decidable (_ ∧ _))

/-- The scan for the descriptor from `i` on, over so many more places. -/
def scan (b : Build) (data : List UInt8) (pluginIdentLength : Nat) : Nat → Nat → Option Nat
  | 0, _ => none
  | places + 1, i => if Matches b data pluginIdentLength i then some i else scan b data pluginIdentLength places (i + 1)

/-- The target of the plugin, found out where some of it is missing. -/
def completeTarget (host : InstallHost) (pluginPath : CString) (pluginInfo : PluginTarget) : Install PluginTarget := do
  let pluginInfo ←
    if pluginInfo.targetArch.bytes = [] ∨ pluginInfo.targetOs.bytes = [] then
      match host.isPluginViewerAvailable pluginPath pluginInfo with
      | none => .error (.code 15)
      | some pluginInfo => .ok pluginInfo
    else .ok pluginInfo
  if pluginInfo.viewerPath.bytes = [] then
    match host.isPluginViewerAvailable pluginPath pluginInfo with
    | none => .error (.code 16)
    | some pluginInfo => .ok pluginInfo
  else .ok pluginInfo

/-- The image with the members of the descriptor at `pi` set. -/
def patchInfo (data : List UInt8) (pi : Nat) (mtime : Int64) (target : PluginTarget) (structVersion : Int8) :
    Install (List UInt8) := do
  let data ← memcpyTo data (pi + NPWPluginInfo.mtimeOfs) (le64 mtime.toUInt64)
  let data ← strcpyTo data (pi + NPWPluginInfo.targetArchOfs) target.targetArch
  let data ← strcpyTo data (pi + NPWPluginInfo.targetOsOfs) target.targetOs
  let data ← memcpyTo data (pi + NPWPluginInfo.structVersionOfs) [structVersion.toUInt8]
  strcpyTo data (pi + NPWPluginInfo.viewerPathOfs) target.viewerPath

/-- A file that was written, and what `plugin_info` holds then. -/
structure Installed where
  path : List UInt8
  contents : List UInt8
  pluginInfo : PluginTarget
  deriving Repr, DecidableEq

/-- The master wrapper's own descriptor, and where its path is in the file. -/
def findDescriptor (b : Build) (host : InstallHost) : Install (NPWPluginInfo × Nat) :=
  match host.dlopen with
  | none => .error (.code 5)
  | some handle => do
    match ← isWrapperPluginHandle handle host.image with
    | none => .error (.code 5)
    | some wPluginInfo =>
      let wSize := host.image.length
      if wPluginInfo.path ≠ b.defaultPluginPath then .error (.code 6)
      else if !host.opens then .error (.code 7)
      else if !host.lseeks then .error (.code 8)
      else if !host.mallocs then .error (.code 9)
      else if min host.reads readMax ≠ wSize then .error (.code 10)
      else
        match scan b host.image wPluginInfo.ident.bytes.length (wSize - pathMax - identSize) identSize with
        | none => .error (.code 11)
        | some ofs => .ok (wPluginInfo, ofs)

/-- The image for a plugin. -/
def patchImage (host : InstallHost) (pluginPath : CString) (pluginInfo : Option PluginTarget) (structVersion : Int8)
    (ofs : Nat) : Install (List UInt8 × PluginTarget) := do
  let data ← strcpyTo host.image ofs pluginPath
  match host.stat, pluginInfo with
  | none, _ => .error (.code 12)
  | some _, none => .error (.code 14)
  | some mtime, some pluginInfo =>
    let pluginInfo ← completeTarget host pluginPath pluginInfo
    let data ← patchInfo data (ofs - identSize) mtime pluginInfo structVersion
    .ok (data, pluginInfo)

def doInstallPlugin (b : Build) (host : InstallHost) (pluginPath : CString) (pluginDir : Option CString)
    (pluginInfo : Option PluginTarget) : Install Installed :=
  match pluginDir, strrchr pluginPath.bytes 47 with
  | none, _ => .error (.code 1)
  | some _, none => .error (.code 2)
  | some pluginDir, some pluginBase => do
    let dPluginPath := pluginDir.bytes ++ ascii "/npwrapper." ++ pluginBase
    if pathMax ≤ dPluginPath.length then .error (.code 3)
    else
      let (wPluginInfo, ofs) ← findDescriptor b host
      let (data, pluginInfo) ← patchImage host pluginPath pluginInfo wPluginInfo.structVersion ofs
      if host.setsContents then .ok { path := dPluginPath, contents := data, pluginInfo } else .error (.code 4)

end NSPluginWrapper
