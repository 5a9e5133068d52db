import NSPluginWrapper.Lib.Split
import NSPluginWrapper.Lib.Stdio
import NSPluginWrapper.Lib.Table
import NSPluginWrapper.Plugin.Detect
import NSPluginWrapper.Plugin.Javascript
import Mathlib.Data.List.DropRight

/-! npw-player.c: what the player is asked to show and which plugin it uses for that. main() reads descriptors of the
    plugins, and each of these loads the plugins that there are and looks one up, which is started then. -/

namespace NSPluginWrapper
namespace Player
open Lib Javascript

def dot : UInt8 := 46

def comma : UInt8 := 44

def semicolon : UInt8 := 59

def equals : UInt8 := 61

def separator : UInt8 := 47

/-- g_strsplit() without a limit, where nothing is split into nothing. -/
def gStrsplit (str : List UInt8) (delimiter : UInt8) : List (List UInt8) := splitParts str delimiter

/-- What is left from the last `ch` on. -/
def strrchr : List UInt8 → UInt8 → Option (List UInt8)
  | [], _ => none
  | b :: rest, ch =>
    match strrchr rest ch with
    | some found => some found
    | none => if b = ch then some (b :: rest) else none

/-- g_build_filename() of a path and of one name in it. -/
def gBuildFilename (path name : List UInt8) : List UInt8 :=
  let leading := path.takeWhile (· == separator)
  let element := (path.dropWhile (· == separator)).rdropWhile (· == separator)
  leading ++ (if element = [] then name else element ++ (separator :: name))

/-! ### The plugins -/

/-- The `values` of a PluginDataType. -/
structure PluginDataType where
  mime : List UInt8
  extension : List UInt8
  description : List UInt8
  deriving Repr, DecidableEq

/-- What one of the descriptions is split into. -/
def mimeDataTypes (mimeDesc : List UInt8) : List PluginDataType :=
  match gStrsplit mimeDesc colon with
  | mime :: extensions :: description :: _ => (gStrsplit extensions comma).map fun ext => ⟨mime, ext, description⟩
  | _ => []

def dataTypesOf : Option (List UInt8) → List PluginDataType
  | none => []
  | some mimeDesc => (gStrsplit mimeDesc semicolon).flatMap mimeDataTypes

/-- What dlsym() finds in a library, with what NP_GetMIMEDescription() returns each time, if it has that. -/
structure Library where
  npInitialize : Bool
  npShutdown : Bool
  npGetMIMEDescription : Option (Option (List UInt8))
  npGetValue : Bool
  deriving Repr, DecidableEq

/-- What the player runs on. The directories and libraries are those of an absolute path, and there is none without a
    path; a directory that can be read can be changed to. -/
structure PlayerHost where
  homeDir : List UInt8
  mozPluginPath : Option (List UInt8)
  currentDir : List UInt8
  fileExists : List UInt8 → Bool
  isDir : List UInt8 → Bool
  readDir : List UInt8 → Option (List (List UInt8))
  dlopen : List UInt8 → Option Library

/-- How the process ends: in g_error(), in strcmp() with a NULL, or where the vector of an argument is left. -/
inductive PlayerStop where
  | gError (text : List UInt8)
  | nullString
  | overread
  deriving Repr, DecidableEq

/-- The members of a Plugin that the database has set. -/
structure Plugin where
  path : List UInt8
  mimeDescription : Option (List UInt8)
  deriving Repr, DecidableEq

def pluginGetDataTypes (plugin : Plugin) : List PluginDataType := dataTypesOf plugin.mimeDescription

/-- Where a path leads to, from a directory. -/
def resolve (dir path : List UInt8) : List UInt8 :=
  if path.head? = some separator then path else dir ++ (separator :: path)

namespace PlayerHost

variable (host : PlayerHost)

def fileTestIsDir (path : List UInt8) : Bool := path ≠ [] && host.isDir (resolve host.currentDir path)

/-- The paths that get_plugin_dirs() goes through. -/
def pluginPaths : List (List UInt8) :=
  gBuildFilename (gBuildFilename host.homeDir (ascii ".mozilla")) (ascii "plugins") ::
    ((match host.mozPluginPath with
      | none => []
      | some paths => gStrsplit paths colon) ++ [ascii "/usr/lib/mozilla/plugins", ascii "/usr/lib/browser/plugins"])

def gListPrependIfPathExists (dirs : List (List UInt8)) (path : List UInt8) : List (List UInt8) :=
  if host.fileTestIsDir path then path :: dirs else dirs

def getPluginDirs : List (List UInt8) := host.pluginPaths.foldl host.gListPrependIfPathExists []

def isNpapiPlugin (dir path : List UInt8) : Bool :=
  match host.dlopen (resolve dir path) with
  | none => false
  | some library => library.npInitialize && library.npShutdown && library.npGetMIMEDescription.isSome

/-- plugin_new(), which looks for NP_GetValue too. -/
def pluginNew (dir path : List UInt8) : Option Plugin :=
  match host.dlopen (resolve dir path) with
  | none => none
  | some library =>
    match library.npInitialize, library.npShutdown, library.npGetMIMEDescription, library.npGetValue with
    | true, true, some mimeDescription, true => some ⟨path, mimeDescription⟩
    | _, _, _, _ => none

def playerAppLoadPlugin (dir path : List UInt8) (plugins : List Plugin) : Except PlayerStop (List Plugin) :=
  match host.pluginNew dir path with
  | none => .error (.gError (ascii "could not initialize plugin '" ++ path ++ ascii "'"))
  | some plugin => .ok (plugin :: plugins)

/-- One name of a directory, to which it has been changed. -/
def loadName (dirname : List UInt8) (plugins : List Plugin) (name : List UInt8) : Except PlayerStop (List Plugin) :=
  let dir := resolve host.currentDir dirname
  let path := gBuildFilename dirname name
  if host.isNpapiPlugin dir path then host.playerAppLoadPlugin dir path plugins else .ok plugins

def playerAppLoadPlugins (plugins : List Plugin) (dirname : List UInt8) : Except PlayerStop (List Plugin) :=
  match host.readDir (resolve host.currentDir dirname) with
  | none => .ok plugins
  | some names => names.foldlM (host.loadName dirname) plugins

/-- `app->plugins`, when all have been loaded. -/
def appPlugins : Except PlayerStop (List Plugin) := host.getPluginDirs.foldlM host.playerAppLoadPlugins []

end PlayerHost

/-! ### The one that is used -/

def findPluginCustomCb (field : PluginDataType → List UInt8) (value : Option (List UInt8)) (dataType : PluginDataType) :
    Except PlayerStop Bool :=
  match value with
  | none => .error .nullString
  | some value => .ok (field dataType == value)

/-- find_plugin_custom(), with the MIME type of what is found. -/
def findPluginCustom (plugins : List Plugin) (field : PluginDataType → List UInt8) (value : Option (List UInt8)) :
    Except PlayerStop (Option (Plugin × List UInt8)) :=
  plugins.findSomeM? fun plugin => do
    let found ← (pluginGetDataTypes plugin).findM? (findPluginCustomCb field value)
    return found.map fun dataType => (plugin, dataType.mime)

/-- The attributes of a plugin, as a GHashTable. -/
abbrev Attrs := Table (List UInt8) (List UInt8)

def typeName : List UInt8 := ascii "type"

def srcName : List UInt8 := ascii "src"

def findPluginByMime (plugins : List Plugin) (mimeType : List UInt8) : Except PlayerStop (Option (Plugin × List UInt8)) :=
  findPluginCustom plugins PluginDataType.mime (some mimeType)

/-- What follows the last dot. -/
def uriExtension (uri : List UInt8) : Option (List UInt8) := (strrchr uri dot).map List.tail

def findPluginByUri (plugins : List Plugin) (uri : List UInt8) : Except PlayerStop (Option (Plugin × List UInt8)) :=
  findPluginCustom plugins PluginDataType.extension (uriExtension uri)

/-- The lookup of player_app_run(): the plugin, and the attributes that it is started with. -/
def lookupPlugin (plugins : List Plugin) (attrs : Attrs) : Except PlayerStop (Option (Plugin × Attrs)) := do
  match attrs.lookup typeName with
  | some value => return (← findPluginByMime plugins value).map fun found => (found.1, attrs)
  | none =>
    match attrs.lookup srcName with
    | some value => return (← findPluginByUri plugins value).map fun found => (found.1, attrs.insert typeName found.2)
    | none => return none

/-- player_app_run(), up to plugin_start(). -/
def PlayerHost.playerAppRun (host : PlayerHost) (attrs : Attrs) : Except PlayerStop (Plugin × Attrs) := do
  match ← lookupPlugin (← host.appPlugins) attrs with
  | none => throw (.gError (ascii "could not find any plugin to use"))
  | some started => return started

/-! ### The descriptors -/

namespace NPMode
abbrev embed : UInt16 := 1
abbrev full : UInt16 := 2
end NPMode

/-- PluginDescriptor, without the application. -/
structure PluginDescriptor where
  width : UInt32
  height : UInt32
  mode : UInt16
  attrs : Attrs

def pluginDescriptorNew : PluginDescriptor := ⟨640, 480, NPMode.full, ∅⟩

def gAsciiStrdown (str : List UInt8) : List UInt8 := str.map gAsciiTolower

/-- Whether g_ascii_strcasecmp() finds a text to be one in lower case. -/
def isCasecmp (str lower : List UInt8) : Bool := gAsciiStrdown str == lower

def atoi (str : List UInt8) : Int := (scanInt str).getD 0

/-- uri_type_from_url(), where it finds any. -/
def hasUriType (url : List UInt8) : Bool :=
  startsWith url (ascii "file://") || startsWith url (ascii "http://") || startsWith url (ascii "ftp://")

def PlayerHost.sanitizeUrl (host : PlayerHost) (uri : List UInt8) : List UInt8 :=
  if hasUriType uri then uri
  else if !(uri ≠ [] && host.fileExists (resolve host.currentDir uri)) then uri
  else ascii "file://" ++ resolve host.currentDir uri

/-- An argument that is not an option, split by g_strsplit() with a limit of 2. An empty one is split into no more than
    the NULL that ends the vector, and the value would be what comes after that. -/
def PlayerHost.readAttribute (host : PlayerHost) (desc : PluginDescriptor) (arg : List UInt8) :
    Except PlayerStop PluginDescriptor :=
  if arg = [] then .error .overread
  else
    let name := arg.takeWhile (· ≠ equals)
    match arg.drop name.length with
    | [] =>
      if isCasecmp name (ascii "embed") then .ok { desc with mode := NPMode.embed }
      else if isCasecmp name (ascii "full") then .ok { desc with mode := NPMode.full }
      else .ok desc
    | _ :: value =>
      if isCasecmp name (ascii "width") then .ok { desc with width := .ofInt (atoi value) }
      else if isCasecmp name (ascii "height") then .ok { desc with height := .ofInt (atoi value) }
      else
        let value := if isCasecmp name srcName then host.sanitizeUrl value else value
        .ok { desc with attrs := desc.attrs.insert (gAsciiStrdown name) value }

/-- The variables of main() that the arguments set. -/
structure CommandLine where
  verbose : Bool
  fullscreen : Bool
  title : List UInt8
  xid : UInt32
  pluginDescs : List PluginDescriptor
  pluginDesc : Option PluginDescriptor

/-- main() prints the help and returns, or goes on with the descriptors. -/
inductive Parsed where
  | help (status : Nat)
  | line (c : CommandLine)

/-- The descriptor that is being read, added to the others. -/
def CommandLine.addDesc (c : CommandLine) : CommandLine := { c with pluginDescs := c.pluginDescs ++ c.pluginDesc.toList }

inductive PlayerOption where
  | help
  | verbose
  | title
  | gtk
  | backend
  | window
  | fullscreen
  | xid
  | plugin
  deriving Repr, DecidableEq

def playerOption (arg : List UInt8) : Option PlayerOption :=
  if arg = ascii "--help" then some .help
  else if arg = ascii "--verbose" then some .verbose
  else if arg = ascii "--title" then some .title
  else if arg = ascii "--gtk" then some .gtk
  else if arg = ascii "--backend" then some .backend
  else if arg = ascii "--window" then some .window
  else if arg = ascii "--fullscreen" then some .fullscreen
  else if arg = ascii "--xid" then some .xid
  else if arg = ascii "--plugin" then some .plugin
  else none

/-- The loop over the arguments. An option that has a value takes the next argument, if there is one. -/
def PlayerHost.readArgs (host : PlayerHost) : List (List UInt8) → CommandLine → Except PlayerStop Parsed
  | [], c => .ok (.line c)
  | arg :: args, c =>
    match playerOption arg with
    | some .help => .ok (.help 0)
    | some .verbose => readArgs host args { c with verbose := true }
    | some .title =>
      match args with
      | [] => .ok (.line c)
      | title :: args => readArgs host args { c with title := title }
    | some .gtk => readArgs host args c
    | some .backend =>
      match args with
      | [] => .ok (.line c)
      | backend :: args =>
        if backend = ascii "gtk" then readArgs host args c
        else .error (.gError (ascii "unknown backend '" ++ backend ++ ascii "'"))
    | some .window => readArgs host args { c with fullscreen := false }
    | some .fullscreen => readArgs host args { c with fullscreen := true }
    | some .xid =>
      match args with
      | [] => .ok (.line c)
      | xid :: args => readArgs host args { c with xid := .ofInt (atoi xid) }
    | some .plugin => readArgs host args { c.addDesc with pluginDesc := some pluginDescriptorNew }
    | none =>
      match host.readAttribute (c.pluginDesc.getD pluginDescriptorNew) arg with
      | .error e => .error e
      | .ok desc => readArgs host args { c with pluginDesc := some desc }

def commandLine : CommandLine := ⟨false, false, ascii "nspluginplayer", 0, [], none⟩

/-- main(), up to the windows. -/
def PlayerHost.parse (host : PlayerHost) (args : List (List UInt8)) : Except PlayerStop Parsed :=
  match host.readArgs args commandLine with
  | .error e => .error e
  | .ok (.help status) => .ok (.help status)
  | .ok (.line c) =>
    let c := c.addDesc
    if c.pluginDescs = [] then .ok (.help 1) else .ok (.line c)

/-! ### The start -/

/-- What `newp` is called with. -/
structure NewCall where
  mimeType : List UInt8
  mode : UInt16
  args : List (List UInt8 × List UInt8)
  deriving Repr, DecidableEq

def printInt (n : Int) : List UInt8 := if n < 0 then ascii "-" ++ decimal n.natAbs else decimal n.natAbs

/-- The arguments that g_NPP_New() makes of the attributes, in the order in which a GHashTable gives these, and of what
    is a `guint` and printed as an `int`. -/
def newArgs (order : Attrs → List (List UInt8 × List UInt8)) (attrs : Attrs) (w h : UInt32) : List (List UInt8 × List UInt8) :=
  order attrs ++ [(ascii "width", printInt w.toInt32.toInt), (ascii "height", printInt h.toInt32.toInt)]

/-- plugin_start(), where NP_Initialize() has succeeded: no call where there is no MIME type. -/
def pluginStart (order : Attrs → List (List UInt8 × List UInt8)) (desc : PluginDescriptor) (attrs : Attrs) : Option NewCall :=
  (attrs.lookup typeName).map fun mimeType => ⟨mimeType, desc.mode, newArgs order attrs desc.width desc.height⟩

/-- What comes of a descriptor: the plugin that is used, and how its instance is made. -/
def PlayerHost.runDescriptor (host : PlayerHost) (order : Attrs → List (List UInt8 × List UInt8)) (desc : PluginDescriptor) :
    Except PlayerStop (Plugin × Option NewCall) := do
  let (plugin, attrs) ← host.playerAppRun desc.attrs
  return (plugin, pluginStart order desc attrs)

end Player
end NSPluginWrapper
