import NSPluginWrapper.Plugin.Install

/-! npw-config.c: updating a wrapper. A path names an entry of a directory, two paths may name the same one, and
    every entry is a file of its own. What nspluginwrapper has written is seen as the descriptor that it has. -/

namespace NSPluginWrapper
open Lib

/-- `descriptor` is what is_wrapper_plugin() finds, in a library that has what it looks for. -/
structure PluginFile where
  mtime : Int64
  descriptor : Option NPWPluginInfo
  deriving Repr, DecidableEq

abbrev PluginFiles (ι : Type) := ι → Option PluginFile

/-- Where things are: the entry that a path names, the directories of the system, of the user and of root, and which
    entries are in a plugin directory. `reaches` tells the paths that may be searched. -/
structure PluginDirs (ι : Type) where
  resolve : List UInt8 → ι
  reaches : List UInt8 → Bool
  systemMozillaPluginDir : List UInt8
  userMozillaPluginDir : Option (List UInt8)
  rootDir : Option (List UInt8)
  InPluginDir : ι → Prop
  system_in : ∀ name, InPluginDir (resolve (systemMozillaPluginDir ++ ascii "/" ++ name))
  user_in : ∀ dir, userMozillaPluginDir = some dir → ∀ name, InPluginDir (resolve (dir ++ ascii "/" ++ name))

/-- How do_install_plugin() ends where its paths are in order: it stops with an error, or it writes a wrapper. -/
inductive InstallOutcome where
  | stops (ret : Nat) (ret_ne : ret ≠ 0)
  | writes (mtime : Int64) (target : PluginTarget) (structVersion : Int8)

/-- What the steps of an update meet. -/
structure UpdateSteps where
  unlinks : Bool
  systemInstall : InstallOutcome
  makesUserDir : Bool
  userInstall : InstallOutcome

/-- The files, and every file that was removed with what there was at that moment. -/
structure Updating (ι : Type) where
  files : PluginFiles ι
  removals : List (ι × PluginFiles ι)

namespace PluginDirs

variable {ι : Type} [DecidableEq ι] (dirs : PluginDirs ι) (b : Build) (o : UpdateSteps)

/-! ### What the system tells -/

def file (files : PluginFiles ι) (path : List UInt8) : Option PluginFile :=
  if dirs.reaches path then files (dirs.resolve path) else none

def access (files : PluginFiles ι) (path : List UInt8) : Bool := (dirs.file files path).isSome

def stat (files : PluginFiles ι) (path : List UInt8) : Option Int64 := (dirs.file files path).map (·.mtime)

def isWrapperPlugin (files : PluginFiles ι) (pluginPath : List UInt8) : Option NPWPluginInfo :=
  (dirs.file files pluginPath).bind (·.descriptor)

/-- The wrapper of a plugin in a directory, none where its path does not fit. -/
def wrapperPath (pluginDir pluginBase : List UInt8) : Option (List UInt8) :=
  let path := pluginDir ++ ascii "/" ++ (ascii "npwrapper." ++ pluginBase)
  if pathMax ≤ path.length then none else some path

def systemWrapperPath (pluginPath : List UInt8) : Option (List UInt8) :=
  (strrchr pluginPath 47).bind (wrapperPath dirs.systemMozillaPluginDir)

def hasSystemWideWrapperPlugin (files : PluginFiles ι) (pluginPath : List UInt8) (checkIdent : Bool) : Bool :=
  match dirs.systemWrapperPath pluginPath with
  | none => false
  | some sPluginPath =>
    match dirs.stat files pluginPath, dirs.isWrapperPlugin files sPluginPath with
    | some mtime, some pluginInfo =>
      pluginInfo.path.bytes == pluginPath && (if checkIdent then pluginInfo.ident.bytes == b.pluginIdent else true)
        && pluginInfo.mtime == mtime
    | _, _ => false

def isRootOnlyAccessiblePlugin (pluginPath : List UInt8) : Bool :=
  match dirs.rootDir with
  | none => false
  | some dir => (dir ++ ascii "/").isPrefixOf pluginPath

/-! ### Removing and installing -/

def removePlugin (s : Updating ι) (pluginPath : List UInt8) : Nat × Updating ι :=
  if o.unlinks then
    let e := dirs.resolve pluginPath
    (0, { files := Function.update s.files e none, removals := s.removals ++ [(e, s.files)] })
  else (1, s)

/-- The wrapper that an installation writes. -/
def installed (pluginPath : CString) (pluginMtime : Int64) (target : PluginTarget) (structVersion : Int8) : NPWPluginInfo where
  ident := .ofBytes b.pluginIdent
  path := pluginPath
  mtime := pluginMtime
  targetArch := target.targetArch
  targetOs := target.targetOs
  structVersion
  viewerPath := target.viewerPath

def doInstallPlugin (s : Updating ι) (pluginPath : CString) (pluginDir : List UInt8) (outcome : InstallOutcome) :
    Nat × Updating ι :=
  match strrchr pluginPath.bytes 47 with
  | none => (2, s)
  | some pluginBase =>
    match wrapperPath pluginDir pluginBase with
    | none => (3, s)
    | some dPluginPath =>
      match outcome, dirs.stat s.files pluginPath.bytes with
      | .stops ret _, _ => (ret, s)
      | .writes .., none => (12, s)
      | .writes mtime target structVersion, some pluginMtime =>
        let file := { mtime, descriptor := some (installed b pluginPath pluginMtime target structVersion) }
        (0, { s with files := Function.update s.files (dirs.resolve dPluginPath) (some file) })

/-- Into the user's directory, if there is no wrapper for all users. -/
def installUser (s : Updating ι) (pluginPath : CString) : Nat × Updating ι :=
  if dirs.hasSystemWideWrapperPlugin b s.files pluginPath.bytes true then (0, s)
  else
    match dirs.userMozillaPluginDir with
    | none => (1, s)
    | some userPluginDir =>
      if !o.makesUserDir then (1, s) else dirs.doInstallPlugin b s pluginPath userPluginDir o.userInstall

def installPlugin (s : Updating ι) (pluginPath : CString) : Nat × Updating ι :=
  if !dirs.isRootOnlyAccessiblePlugin pluginPath.bytes then
    match dirs.doInstallPlugin b s pluginPath dirs.systemMozillaPluginDir o.systemInstall with
    | (0, s) => (0, s)
    | (_ + 1, s) => dirs.installUser b o s pluginPath
  else dirs.installUser b o s pluginPath

/-! ### Updating -/

/-- `plugin_info` before anything is known. -/
def zeroed : NPWPluginInfo := ⟨.ofBytes [], .ofBytes [], 0, .ofBytes [], .ofBytes [], 0, .ofBytes []⟩

def updatePlugin (s : Updating ι) (pluginPath : List UInt8) : Nat × Updating ι :=
  let pluginInfo := (dirs.isWrapperPlugin s.files pluginPath).getD zeroed
  let path := pluginInfo.path.bytes
  if !dirs.access s.files path then dirs.removePlugin o s pluginPath
  else if dirs.hasSystemWideWrapperPlugin b s.files path true && !dirs.systemMozillaPluginDir.isPrefixOf pluginPath then
    dirs.removePlugin o s pluginPath
  else if dirs.hasSystemWideWrapperPlugin b s.files path false && dirs.isRootOnlyAccessiblePlugin path then
    match dirs.removePlugin o s pluginPath with
    | (0, s) => dirs.installPlugin b o s pluginInfo.path
    | (ret + 1, s) => (ret + 1, s)
  else if (dirs.stat s.files path).any (fun mtime => decide (pluginInfo.mtime < mtime)) then
    dirs.installPlugin b o s pluginInfo.path
  else if pluginInfo.ident.bytes != b.pluginIdent then dirs.installPlugin b o s pluginInfo.path
  else (0, s)

end PluginDirs

end NSPluginWrapper
