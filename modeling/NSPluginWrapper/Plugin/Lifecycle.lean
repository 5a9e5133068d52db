import NSPluginWrapper.Plugin.Info
import NSPluginWrapper.Plugin.Wrapper

/-! What a browser calls of the wrapper before and between its instances, where every system call and the
    viewer succeed: the probing calls, NP_Initialize and NP_Shutdown, with what each returns. -/

namespace NSPluginWrapper
open Lib

namespace NPError

def moduleLoadFailedError : NPError := 4
def incompatibleVersionError : NPError := 8
def invalidParam : NPError := 9

end NPError

/-! ### The plugin -/

/-- A plugin that runs in the browser's process. -/
structure DirectPlugin where
  npGetMIMEDescription : Option CString
  npGetValue : Option NPPVariable → NPError × Option (Option CString)

/-- A plugin behind a viewer, the wrapper at its default path, or a plugin that is executed directly. -/
inductive PluginMode where
  | viewer
  | wrapper
  | direct (plugin : DirectPlugin)

/-- What does not change while the wrapper is loaded. `viewerOutput` is what the viewer prints for --info,
    `funcsSize` where the field forceredraw of the browser's functions ends. -/
structure PluginSetup where
  mode : PluginMode
  viewerOutput : List UInt8
  listener : { listener : Listener // listener ≠ .missing }
  funcsSize : Nat
  npwVersion : List UInt8

/-- NPNetscapeFuncs, as far as NP_Initialize checks it. -/
structure NPNetscapeFuncs where
  version : UInt16
  size : UInt16
  deriving Repr, DecidableEq

/-- The wrapper with the strings it has cached. -/
structure Lifecycle where
  wrapper : Wrapper
  info : PluginInfo
  deriving Repr, DecidableEq

namespace Lifecycle

def loaded : Lifecycle := ⟨.loaded, .unset⟩

def initialized (s : Lifecycle) : Int := s.wrapper.initialized

def setInitialized (s : Lifecycle) (initialized : Int) : Lifecycle :=
  { s with wrapper := { s.wrapper with initialized } }

/-! ### Initialization -/

/-- The viewer is asked where no string is cached, and started for NP_Initialize. -/
def pluginInit (setup : PluginSetup) (isNPInitialize : Bool) (s : Lifecycle) : Lifecycle :=
  if s.initialized < 0 then s
  else
    match setup.mode with
    | .wrapper => s.setInitialized (if isNPInitialize then 2 else 1)
    | .direct _ => s.setInitialized 1
    | .viewer =>
      let info := if s.info = .unset then readInfo setup.viewerOutput s.info else s.info
      ⟨s.wrapper.pluginInit isNPInitialize ⟨some (info ≠ .unset), .connected true setup.listener.val⟩, info⟩

/-- The first call that needs the plugin initializes it. -/
def probe (setup : PluginSetup) (s : Lifecycle) : Lifecycle :=
  if s.initialized = 0 then s.pluginInit setup false else s

/-- `rpc_method_invoke_possible` of `g_rpc_connection`. -/
def invokePossible (w : Wrapper) : Bool :=
  match w.rpcConnection with
  | none => false
  | some c => match w.connections[c]? with
    | none => false
    | some conn => conn.rpcMethodInvokePossible

/-- The NP_Initialize of the plugin itself, which succeeds. -/
def gNPInitialize (setup : PluginSetup) (s : Lifecycle) : NPError :=
  match setup.mode with
  | .direct _ => NPError.noError
  | _ => if invokePossible s.wrapper then NPError.noError else NPError.moduleLoadFailedError

/-- NP_Initialize once its arguments are checked. -/
def checkedInitialize (setup : PluginSetup) (s : Lifecycle) : NPError × Lifecycle :=
  let s := s.probe setup
  if s.initialized ≤ 0 then
    (NPError.genericError, s)
  else match setup.mode with
    | .wrapper => (NPError.noError, s)
    | _ =>
      let s := if s.initialized = 0 ∨ s.initialized = 1 then s.pluginInit setup true else s
      if s.initialized ≤ 0 then (NPError.moduleLoadFailedError, s) else (s.gNPInitialize setup, s)

/-- NP_VERSION_MAJOR is 0. -/
def npInitialize (setup : PluginSetup) (mozFuncs : Option NPNetscapeFuncs) (pluginFuncs : Bool) (s : Lifecycle) :
    NPError × Lifecycle :=
  match mozFuncs with
  | none => (NPError.invalidFunctableError, s)
  | some mozFuncs =>
    if pluginFuncs = false then (NPError.invalidFunctableError, s)
    else if mozFuncs.version >>> 8 ≠ 0 then (NPError.incompatibleVersionError, s)
    else if mozFuncs.size.toNat < setup.funcsSize then (NPError.invalidFunctableError, s)
    else s.checkedInitialize setup

def npShutdown (setup : PluginSetup) (s : Lifecycle) : Lifecycle :=
  match setup.mode with
  | .wrapper => s
  | _ => { s with wrapper := s.wrapper.pluginExit }

/-! ### Probing -/

def wrapperName (setup : PluginSetup) : CString := .ofBytes (ascii "NPAPI Plugins Wrapper " ++ setup.npwVersion)

def wrapperDescription : CString :=
  .ofBytes (ascii "<a href=\"http://gwenole.beauchesne.info/projects/nspluginwrapper/\">nspluginwrapper</a>  is a cross-platform NPAPI plugin viewer, in particular for linux/i386 plugins.<br>This <b>beta</b> software is available under the terms of the GNU General Public License.<br>")

def wrapperFormats : CString := .ofBytes (ascii "unknown/mime-type:none:Do not open")

/-- A string that is there is stored without an error. -/
def told : Option CString → NPError × Option (Option CString)
  | none => (NPError.genericError, some none)
  | some str => (NPError.noError, some (some str))

/-- What g_NP_GetValue answers of an initialized plugin: an error code and what it stores, if anything. A
    variable that is none of the two is none here. -/
def valueOf (setup : PluginSetup) (npVariable : Option NPPVariable) (s : Lifecycle) :
    NPError × Option (Option CString) :=
  match setup.mode, npVariable with
  | .direct plugin, npVariable => plugin.npGetValue npVariable
  | _, none => (NPError.invalidParam, none)
  | .wrapper, some .pluginNameString => told (wrapperName setup)
  | .wrapper, some .pluginDescriptionString => told wrapperDescription
  | .viewer, some .pluginNameString => told s.info.name
  | .viewer, some .pluginDescriptionString => told s.info.description

def npGetValue (setup : PluginSetup) (npVariable : Option NPPVariable) (s : Lifecycle) :
    (NPError × Option (Option CString)) × Lifecycle :=
  let s := s.probe setup
  (if s.initialized ≤ 0 then (NPError.genericError, none) else s.valueOf setup npVariable, s)

def formatsOf (setup : PluginSetup) (s : Lifecycle) : Option CString :=
  match setup.mode with
  | .direct plugin => plugin.npGetMIMEDescription
  | .wrapper => some wrapperFormats
  | .viewer => s.info.formats

def npGetMIMEDescription (setup : PluginSetup) (s : Lifecycle) : Option CString × Lifecycle :=
  let s := s.probe setup
  (if s.initialized ≤ 0 then none else s.formatsOf setup, s)

end Lifecycle

/-! ### Runs -/

inductive BrowserCall where
  | npGetMIMEDescription
  | npGetValue (npVariable : Option NPPVariable)
  | npInitialize (mozFuncs : Option NPNetscapeFuncs) (pluginFuncs : Bool)
  | npShutdown
  deriving Repr, DecidableEq

def Lifecycle.exec (setup : PluginSetup) (s : Lifecycle) : BrowserCall → Lifecycle
  | .npGetMIMEDescription => (s.npGetMIMEDescription setup).2
  | .npGetValue npVariable => (s.npGetValue setup npVariable).2
  | .npInitialize mozFuncs pluginFuncs => (s.npInitialize setup mozFuncs pluginFuncs).2
  | .npShutdown => s.npShutdown setup

/-- Every sequence of these calls. -/
def lifecycle (setup : PluginSetup) : Machine Lifecycle BrowserCall where
  init s := s = .loaded
  step s call t := t = s.exec setup call

end NSPluginWrapper
