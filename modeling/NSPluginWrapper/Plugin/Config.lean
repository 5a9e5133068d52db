import NSPluginWrapper.Lib.Passes
import NSPluginWrapper.Plugin.Detect
import NSPluginWrapper.Plugin.Update

/-! npw-config.c: the program as a whole. main() goes through its options, and a command goes through the plugins that
    it is given, or in automatic mode through the directories of the browsers. -/

namespace NSPluginWrapper
open Lib

/-- `g_verbose`, `g_auto` and `g_allow_native`. -/
structure ConfigFlags where
  verbose : Bool
  auto : Bool
  allowNative : Bool
  deriving Repr, DecidableEq

/-- The flags, the files, and what was printed of the plugins that there are. -/
structure Config (ι : Type) where
  flags : ConfigFlags
  files : Updating ι
  printed : List (List UInt8)

/-- What a path of a plugin meets: what is_plugin() finds out, what the search for a viewer goes by (the flag apart),
    and the steps of an installation or an update. -/
structure Encounter where
  isPlugin : Option PluginTarget
  viewers : DetectHost
  steps : UpdateSteps

/-- What the program runs on: the paths of the wrapper that others are made from, the directories that there are, what
    opendir() and readdir() give for each of those that are looked through, and what each argument meets. -/
structure ConfigHost where
  masterPluginPaths : List (List UInt8)
  access : List UInt8 → Bool
  readdir : Nat → Option (List (List UInt8 × Encounter))
  argument : Nat → Encounter

/-- How the program ends without a return: in error(), with a text, where it follows a NULL pointer, or within the search
    for a viewer. -/
inductive ConfigStop where
  | error (text : List UInt8)
  | fault
  | detect (stop : DetectStop)
  deriving Repr, DecidableEq

/-- The end of a loop or of a function, with what it returns. -/
abbrev ConfigEnd := Except ConfigStop Nat

def slash : List UInt8 := ascii "/"

/-- get_mozilla_plugin_dirs(), where Linux is what it is built for. -/
def defaultDirs : List (List UInt8) :=
  [ascii "/usr/lib/mozilla/plugins", ascii "/usr/lib32/mozilla/plugins", ascii "/usr/lib64/mozilla/plugins",
    ascii "/usr/lib/browser-plugins", ascii "/usr/lib64/browser-plugins", ascii "/usr/lib/firefox/plugins",
    ascii "/usr/lib64/firefox/plugins", ascii "/usr/lib/seamonkey/plugins", ascii "/usr/lib64/seamonkey/plugins",
    ascii "/opt/MozillaFirefox/lib/plugins", ascii "/opt/MozillaFirefox/lib64/plugins", ascii "/usr/lib/nsbrowser/plugins",
    ascii "/usr/lib32/nsbrowser/plugins", ascii "/usr/lib64/nsbrowser/plugins"]

/-- What a command is. -/
inductive OptionCallback where
  | help
  | verbose
  | auto
  | native
  | list
  | update
  | install
  | remove
  deriving Repr, DecidableEq

structure ConfigOption where
  shortOption : UInt8
  longOption : List UInt8
  processCallback : OptionCallback
  terminal : Bool
  deriving Repr, DecidableEq

def configOptions : List ConfigOption :=
  [⟨104, ascii "help", .help, true⟩, ⟨118, ascii "verbose", .verbose, false⟩, ⟨97, ascii "auto", .auto, false⟩,
    ⟨110, ascii "native", .native, false⟩, ⟨108, ascii "list", .list, true⟩, ⟨117, ascii "update", .update, true⟩,
    ⟨105, ascii "install", .install, true⟩, ⟨114, ascii "remove", .remove, true⟩]

def dash : UInt8 := 45

def ConfigOption.isNamed (opt : ConfigOption) (arg : List UInt8) : Bool :=
  arg == [dash, opt.shortOption] || arg == dash :: dash :: opt.longOption

/-! ### Listing a wrapper -/

/-- What strtok() takes from a string, one by one, between colons. -/
def strtok (str : List UInt8) : List (List UInt8) := (str.splitOn colon).filter (· ≠ [])

/-- `%s (%s)`, of what strtok() still takes. -/
def versionString : List (List UInt8) → List (List UInt8)
  | [] => []
  | [version] => [ascii "  Wrapper version string: " ++ version]
  | version :: build :: _ => [ascii "  Wrapper version string: " ++ version ++ ascii " (" ++ build ++ ascii ")"]

/-- Of an ident that starts with NPW. -/
def listVersion (structVersion : Int8) (tokens : List (List UInt8)) : Except ConfigStop (List (List UInt8)) :=
  if 2 ≤ structVersion.toInt then
    match tokens with
    | [] => .error .fault
    | str :: tokens =>
      if str.head? ≠ some 88 then .error (.error (ascii "invalid NPW_PluginInfo format")) else .ok (versionString tokens)
  else .ok (versionString tokens)

def listIdent (info : NPWPluginInfo) : Except ConfigStop (List (List UInt8)) :=
  match strtok info.ident.bytes with
  | [] => .ok []
  | str :: tokens => if str = ascii "NPW" then listVersion info.structVersion tokens else .ok []

/-- The lines for a wrapper. -/
def listPluginLines (pluginPath : List UInt8) (info : NPWPluginInfo) : Except ConfigStop (List (List UInt8)) :=
  let viewer :=
    if 2 ≤ info.structVersion.toInt ∧ info.viewerPath.bytes ≠ [] then [ascii "  Plugin viewer: " ++ info.viewerPath.bytes] else []
  (listIdent info).map fun version => [pluginPath, ascii "  Original plugin: " ++ info.path.bytes] ++ viewer ++ version

/-! ### Commands -/

namespace Config

variable {ι : Type} [DecidableEq ι] (dirs : PluginDirs ι) (b : Build) (host : ConfigHost)

/-- A step of a loop: it leaves the loop, or does not, and changes what there is. -/
abbrev Pass (ι : Type) := Config ι → Option ConfigEnd × Config ι

def mozillaPluginDirs : List (List UInt8) := defaultDirs.filter host.access ++ dirs.userMozillaPluginDir.toList

/-- A wrapper, other than the one that they are made from. -/
def isWrapperPlugin0 (c : Config ι) (pluginPath : List UInt8) : Option NPWPluginInfo :=
  match dirs.isWrapperPlugin c.files.files pluginPath with
  | none => none
  | some info => if pluginPath ∈ host.masterPluginPaths then none else some info

/-- process_plugin_dir() calls back for each entry that readdir() gives. -/
def processPluginDir (visit : List UInt8 → Encounter → Pass ι) (dir : List UInt8 × Nat) : Pass ι := fun c =>
  match host.readdir dir.2 with
  | none => (none, c)
  | some entries => runEach (fun entry => visit (dir.1 ++ slash ++ entry.1) entry.2) entries c

/-- One pass through the directories of the browsers. -/
def autoPass (visit : List UInt8 → Encounter → Pass ι) : Pass ι :=
  runEach (processPluginDir host visit) (mozillaPluginDirs dirs host).zipIdx

/-- A loop ends a command with what it is left with, or with 0. -/
def finish : Option ConfigEnd × Config ι → ConfigEnd × Config ι
  | (some r, c) => (r, c)
  | (none, c) => (.ok 0, c)

def listPlugin (pluginPath : List UInt8) (_ : Encounter) : Pass ι := fun c =>
  match isWrapperPlugin0 dirs host c pluginPath with
  | none => (none, c)
  | some info =>
    match listPluginLines pluginPath info with
    | .error e => (some (.error e), c)
    | .ok lines => (none, { c with printed := c.printed ++ lines })

def processList (c : Config ι) : ConfigEnd × Config ι := finish (autoPass dirs host (listPlugin dirs host) c)

/-- What becomes of the files, where the rest does not change. -/
def withFiles (c : Config ι) : Nat × Updating ι → Nat × Config ι
  | (ret, files) => (ret, { c with files })

/-- A callback of process_plugin_dir(), whose return code nothing looks at. -/
def ignoreReturn : Nat × Config ι → Option ConfigEnd × Config ι
  | (_, c) => (none, c)

/-- A loop over arguments is left with a return code other than 0. -/
def stopOnReturn : Nat × Config ι → Option ConfigEnd × Config ι
  | (0, c) => (none, c)
  | (ret + 1, c) => (some (.ok (ret + 1)), c)

def autoUpdate (pluginPath : List UInt8) (e : Encounter) : Pass ι := fun c =>
  match isWrapperPlugin0 dirs host c pluginPath with
  | none => (none, c)
  | some _ => ignoreReturn (c.withFiles (dirs.updatePlugin b e.steps c.files pluginPath))

def autoRemove (pluginPath : List UInt8) (e : Encounter) : Pass ι := fun c =>
  match isWrapperPlugin0 dirs host c pluginPath with
  | none => (none, c)
  | some _ => ignoreReturn (c.withFiles (dirs.removePlugin e.steps c.files pluginPath))

/-- The search for a viewer, as the flag says. -/
def detect (c : Config ι) (e : Encounter) (target : PluginTarget) : DetectResult :=
  { e.viewers with allowNative := c.flags.allowNative }.detectPluginViewer target

/-- is_compatible_plugin() and install_plugin(). -/
def autoInstall (pluginPath : List UInt8) (e : Encounter) : Pass ι := fun c =>
  match e.isPlugin with
  | none => (none, c)
  | some target =>
    match c.detect e target with
    | .error stop => (some (.error (.detect stop)), c)
    | .ok (.ok _) => ignoreReturn (c.withFiles (dirs.installPlugin b e.steps c.files (.ofBytes pluginPath)))
    | .ok _ => (none, c)

def notAWrapper (pluginPath : List UInt8) : ConfigStop := .error (pluginPath ++ ascii " is not a valid nspluginwrapper plugin")

def argUpdate (arg : List UInt8 × Nat) : Pass ι := fun c =>
  match isWrapperPlugin0 dirs host c arg.1 with
  | none => (some (.error (notAWrapper arg.1)), c)
  | some _ => stopOnReturn (c.withFiles (dirs.updatePlugin b (host.argument arg.2).steps c.files arg.1))

def argRemove (arg : List UInt8 × Nat) : Pass ι := fun c =>
  match isWrapperPlugin0 dirs host c arg.1 with
  | none => (some (.error (notAWrapper arg.1)), c)
  | some _ => stopOnReturn (c.withFiles (dirs.removePlugin (host.argument arg.2).steps c.files arg.1))

def argInstall (arg : List UInt8 × Nat) : Pass ι := fun c =>
  let e := host.argument arg.2
  match e.isPlugin with
  | none => (some (.error (.error (arg.1 ++ ascii " is not a valid NPAPI plugin"))), c)
  | some target =>
    match c.detect e target with
    | .error stop => (some (.error (.detect stop)), c)
    | .ok (.ok _) => stopOnReturn (c.withFiles (dirs.installPlugin b e.steps c.files (.ofBytes arg.1)))
    | .ok .native => (some (.ok 0), c)
    | .ok .notFound => (some (.error (.error (ascii "no appropriate viewer found for " ++ arg.1))), c)

/-- A command takes the directories in automatic mode, and its arguments otherwise. -/
def processArgs (what : List UInt8) (auto : Pass ι) (each : List UInt8 × Nat → Pass ι) (args : List (List UInt8)) (c : Config ι) :
    ConfigEnd × Config ι :=
  if c.flags.auto then finish (auto c)
  else if args.length < 1 then (.error (.error (ascii "expected plugin(s) file name to " ++ what)), c)
  else finish (runEach each args.zipIdx c)

def processUpdate : List (List UInt8) → Config ι → ConfigEnd × Config ι :=
  processArgs (ascii "update") (autoPass dirs host (autoUpdate dirs b host)) (argUpdate dirs b host)

def processInstall : List (List UInt8) → Config ι → ConfigEnd × Config ι :=
  processArgs (ascii "install") (autoPass dirs host (autoInstall dirs b)) (argInstall dirs b host)

def processRemove : List (List UInt8) → Config ι → ConfigEnd × Config ι :=
  processArgs (ascii "remove") (autoPass dirs host (autoRemove dirs host)) (argRemove dirs host)

def processCallback (callback : OptionCallback) (args : List (List UInt8)) (c : Config ι) : ConfigEnd × Config ι :=
  match callback with
  | .help => (.ok 0, c)
  | .verbose => (.ok 0, { c with flags := { c.flags with verbose := true } })
  | .auto => (.ok 0, { c with flags := { c.flags with auto := true } })
  | .native => (.ok 0, { c with flags := { c.flags with allowNative := true } })
  | .list => processList dirs host c
  | .update => processUpdate dirs b host args c
  | .install => processInstall dirs b host args c
  | .remove => processRemove dirs host args c

/-- The loop of main() over the arguments. -/
def processOptions : List (List UInt8) → Config ι → ConfigEnd × Config ι
  | [], c => (.ok 0, c)
  | arg :: args, c =>
    match configOptions.find? (·.isNamed arg) with
    | none => (.ok 1, c)
    | some opt =>
      match processCallback dirs b host opt.processCallback args c with
      | (.error e, c) => (.error e, c)
      | (.ok ret, c) => if opt.terminal then (.ok ret, c) else processOptions args c

def started (files : PluginFiles ι) : Config ι := ⟨⟨false, false, false⟩, ⟨files, []⟩, []⟩

/-- `args` are those after the name of the program. -/
def main (args : List (List UInt8)) (files : PluginFiles ι) : ConfigEnd × Config ι :=
  match args with
  | [] => (.ok 1, started files)
  | arg :: _ => if arg.head? ≠ some dash then (.ok 1, started files) else processOptions dirs b host args (started files)

end Config

end NSPluginWrapper
