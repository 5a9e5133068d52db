import NSPluginWrapper.Lib.Machine
import NSPluginWrapper.Rpc.Connection

/-! npw-wrapper.c: what starts a viewer and what ends it. Connections, event sources and viewer processes are
    named by the order in which they were made. -/

namespace NSPluginWrapper
open Lib

/-- A GSource on a connection: its own references, of which the main loop holds one while it is attached. -/
structure RpcSource where
  connection : Nat
  refs : Nat
  attached : Bool
  deriving Repr, DecidableEq

/-- A plugin instance of the browser and the connection it was created on (none is NULL). -/
structure PluginInstance where
  instanceId : Nat
  connection : Option Nat
  deriving Repr, DecidableEq

inductive Listener where
  | glib
  | xt
  | missing
  deriving Repr, DecidableEq

/-- How the start of a viewer ends: no process, a process that cannot be connected to, or a connection, for
    which marshalers, methods and toolkit are known or not. -/
inductive ViewerStart where
  | unforked
  | unreachable
  | connected (registers : Bool) (listener : Listener)
  deriving Repr, DecidableEq

/-- What plugin_init() meets: `info` is none where the viewer cannot be asked for the plugin's data, and else
    whether it tells any. -/
structure Startup where
  info : Option Bool
  viewer : ViewerStart
  deriving Repr, DecidableEq

/-- The globals of the wrapper. `informed` says that the name, the description or the MIME types are cached,
    `xtSources` that the Xt input and block hook are installed. -/
structure Wrapper where
  connections : List Connection
  sources : List RpcSource
  instances : List PluginInstance
  rpcConnection : Option Nat
  rpcSource : Option Nat
  rpcSyncSource : Option Nat
  xtSources : Bool
  initialized : Int
  informed : Bool
  viewerPid : Option Nat
  viewers : Nat
  pluginKilled : Bool
  deriving Repr, DecidableEq

namespace Wrapper

def loaded : Wrapper where
  connections := []
  sources := []
  instances := []
  rpcConnection := none
  rpcSource := none
  rpcSyncSource := none
  xtSources := false
  initialized := 0
  informed := false
  viewerPid := none
  viewers := 0
  pluginKilled := false

def onConnection (w : Wrapper) (c : Nat) (f : Connection → Connection) : Wrapper :=
  { w with connections := w.connections.modify c f }

/-! ### Event sources -/

def gSourceNew (w : Wrapper) (c : Nat) : Wrapper :=
  { w.onConnection c .ref with sources := w.sources ++ [{ connection := c, refs := 1, attached := false }] }

def rpcEventSourceNew (w : Wrapper) (c : Nat) : Wrapper := w.gSourceNew c

def rpcSyncSourceNew (w : Wrapper) (c : Nat) : Wrapper := w.gSourceNew c

/-- `g_source_attach`: the main loop takes a reference. -/
def gSourceAttach (w : Wrapper) (i : Nat) : Wrapper :=
  { w with sources := w.sources.modify i fun s => { s with refs := s.refs + 1, attached := true } }

/-- `g_source_destroy` of an attached source gives the main loop's reference back. The last one runs
    `rpc_event_finalize` or `rpc_sync_finalize`. -/
def gSourceDestroy (w : Wrapper) (i : Nat) : Wrapper :=
  match w.sources[i]? with
  | none => w
  | some s =>
    if !s.attached then w
    else
      let w := { w with sources := w.sources.modify i fun s => { s with refs := s.refs - 1, attached := false } }
      if s.refs = 1 then w.onConnection s.connection .unref else w

/-! ### Starting a viewer -/

def listen (w : Wrapper) (c : Nat) : Listener → Wrapper
  | .glib =>
    let i := w.sources.length
    let w := { (w.rpcEventSourceNew c).gSourceAttach i with rpcSource := some i }
    let j := w.sources.length
    { (w.rpcSyncSourceNew c).gSourceAttach j with rpcSyncSource := some j }
  | .xt => { w with xtSources := true }
  | .missing => w

/-- plugin_init() from the fork on. -/
def startViewer (w : Wrapper) : ViewerStart → Wrapper
  | .unforked => { w with viewerPid := none, rpcConnection := none }
  | .unreachable => { w with viewerPid := some w.viewers, viewers := w.viewers + 1, rpcConnection := none }
  | .connected registers listener =>
    let c := w.connections.length
    let w := { w with viewerPid := some w.viewers, viewers := w.viewers + 1, rpcConnection := some c,
                      connections := w.connections ++ [.rpcInit .client] }
    if !registers then w
    else
      let w := w.listen c listener
      if w.rpcSource = none ∧ w.xtSources = false then w
      else { w.onConnection c fun conn => conn.setErrorCallback .killPlugin with initialized := 2 }

def cacheInfo (w : Wrapper) (info : Option Bool) : Option Wrapper :=
  if w.informed then some w else info.map fun told => { w with informed := told, initialized := 1 }

def pluginInit (w : Wrapper) (isNPInitialize : Bool) (o : Startup) : Wrapper :=
  if w.initialized < 0 then w
  else
    let w := { w with initialized := -1 }
    match w.cacheInfo o.info with
    | none => w
    | some w => if !isNPInitialize then w else w.startViewer o.viewer

/-! ### Ending it -/

def destroyRpcSource (w : Wrapper) : Wrapper :=
  match w.rpcSource with
  | none => w
  | some i => { w.gSourceDestroy i with rpcSource := none }

def destroyRpcSyncSource (w : Wrapper) : Wrapper :=
  match w.rpcSyncSource with
  | none => w
  | some i => { w.gSourceDestroy i with rpcSyncSource := none }

def dropConnection (w : Wrapper) : Wrapper :=
  match w.rpcConnection with
  | none => w
  | some c => { w.onConnection c .pluginExit with rpcConnection := none }

/-- plugin_exit() waits for the viewer to end, and kills it where it has to. -/
def pluginExit (w : Wrapper) : Wrapper :=
  let w := { w with xtSources := false }
  { w.destroyRpcSource.destroyRpcSyncSource.dropConnection with viewerPid := none, initialized := 0 }

def pluginKill (w : Wrapper) : Wrapper := { w.pluginExit with pluginKilled := true }

/-- The error callback: it wants to disarm itself first. -/
def pluginKillCb (w : Wrapper) (c : Nat) : Wrapper :=
  (w.onConnection c fun conn => { conn.setErrorCallback .unset with callbacks := conn.callbacks + 1 }).pluginKill

/-- plugin_start(), up to the NP_Initialize of the new viewer. -/
def pluginStart (w : Wrapper) (o : Startup) : Wrapper :=
  let w := if w.pluginKilled then w else w.pluginKill
  Wrapper.pluginInit { w with pluginKilled := false } true o

/-- `rpc_error` on a connection. -/
def rpcError (w : Wrapper) (c : Nat) (error : Int) : Wrapper :=
  let w := w.onConnection c fun conn => conn.touch.setStatus error
  match w.connections[c]? with
  | none => w
  | some conn =>
    if conn.status = .active ∨ conn.errorCallback = .unset then w else w.pluginKillCb c

/-! ### What the browser calls -/

def npInitialize (w : Wrapper) (o₀ o₁ : Startup) : Wrapper :=
  let w := if w.initialized = 0 then w.pluginInit false o₀ else w
  if w.initialized ≤ 0 then w
  else if w.initialized = 0 ∨ w.initialized = 1 then w.pluginInit true o₁
  else w

/-- g_NPP_New(), once a viewer was started where that is needed. -/
def nppNew (w : Wrapper) (instanceId : Nat) : Wrapper :=
  let plugin : PluginInstance := { instanceId, connection := w.rpcConnection }
  let w := { w with instances := w.instances ++ [plugin] }
  match w.rpcConnection with
  | none => w
  | some c => w.onConnection c .ref

/-- g_NPP_Destroy() after the call to the viewer, with `plugin_instance_finalize`. -/
def nppDestroy (w : Wrapper) (plugin : PluginInstance) : Wrapper :=
  let w := { w with instances := w.instances.erase plugin }
  match plugin.connection with
  | none => w
  | some c => w.onConnection c .unref

end Wrapper

/-- The steps of a wrapper. Every call that can fail on its way is followed by the `rpcError` it reports, on
    whichever connection it used; `sourceRemoved` is a main loop that drops a source whose dispatch returned
    RPC_ERROR_CONNECTION_CLOSED. -/
inductive WrapperEvent where
  | getInfo (o : Startup)
  | npInitialize (o₀ o₁ : Startup)
  | npShutdown
  | pluginStart (o : Startup)
  | nppNew (instanceId : Nat)
  | nppDestroy (plugin : PluginInstance)
  | sourceRemoved (i : Nat)
  | rpcError (c : Nat) (error : Int)
  deriving Repr, DecidableEq

namespace Wrapper

def exec (w : Wrapper) : WrapperEvent → Wrapper
  | .getInfo o => w.pluginInit false o
  | .npInitialize o₀ o₁ => w.npInitialize o₀ o₁
  | .npShutdown => w.pluginExit
  | .pluginStart o => w.pluginStart o
  | .nppNew instanceId => w.nppNew instanceId
  | .nppDestroy plugin => w.nppDestroy plugin
  | .sourceRemoved i => w.gSourceDestroy i
  | .rpcError c error => w.rpcError c error

/-- `rpc_status` of g_rpc_connection is RPC_STATUS_ACTIVE. -/
def isActive (w : Wrapper) : Bool :=
  match w.rpcConnection with
  | none => false
  | some c => match w.connections[c]? with
    | none => false
    | some conn => conn.status == .active

def Enabled (w : Wrapper) : WrapperEvent → Prop
  | .getInfo _ => w.initialized = 0
  | .pluginStart _ => w.isActive = false
  | .nppDestroy plugin => plugin ∈ w.instances
  | .sourceRemoved i => ∃ s, w.sources[i]? = some s ∧ s.attached = true
  | .rpcError c error => c < w.connections.length ∧ error < 0
  | _ => True

end Wrapper

/-- Every run of a wrapper. -/
def wrapper : Machine Wrapper WrapperEvent where
  init w := w = .loaded
  step w e w' := w.Enabled e ∧ w' = w.exec e

end NSPluginWrapper
