import NSPluginWrapper.Lib.Machine
import NSPluginWrapper.Rpc.Connection

/-! npw-viewer.c: what the viewer holds its one connection for. -/

namespace NSPluginWrapper
open Lib

/-- A plugin instance of the viewer, whose NPP there may have been no memory for. -/
structure ViewerInstance where
  instanceId : Nat
  hasNPP : Bool
  deriving Repr, DecidableEq

/-- `ended` says that main() is over. -/
structure Viewer where
  connection : Connection
  instances : List ViewerInstance
  ended : Bool
  deriving Repr, DecidableEq

/-- How far handle_NPP_New() gets: its arguments cannot be read, or there is no memory for the instance or
    for its NPP, or NPP_New is called (whatever it returns). -/
inductive NewOutcome where
  | unread
  | noInstance
  | noNPP
  | called
  deriving Repr, DecidableEq

inductive ViewerEvent where
  | nppNew (instanceId : Nat) (outcome : NewOutcome)
  | nppDestroy (instanceId : Nat) (read : Bool)
  | exit
  deriving Repr, DecidableEq

namespace Viewer

def started : Viewer where
  connection := .rpcInit .server
  instances := []
  ended := false

/-- handle_NPP_New() refers to the connection before it reads its arguments. -/
def handleNPPNew (v : Viewer) (instanceId : Nat) (outcome : NewOutcome) : Viewer :=
  let v := { v with connection := v.connection.ref }
  match outcome with
  | .unread | .noInstance => v
  | .noNPP => { v with instances := v.instances ++ [⟨instanceId, false⟩] }
  | .called => { v with instances := v.instances ++ [⟨instanceId, true⟩] }

/-- handle_NPP_Destroy() drops a reference whatever g_NPP_Destroy() makes of the instance. -/
def handleNPPDestroy (v : Viewer) (instanceId : Nat) (read : Bool) : Viewer :=
  if !read then v
  else
    match v.instances.find? (·.instanceId == instanceId) with
    | none => { v with connection := v.connection.unref }
    | some plugin =>
      if !plugin.hasNPP then { v with connection := v.connection.unref }
      else { v with connection := v.connection.unref, instances := v.instances.erase plugin }

/-- The end of do_main(). -/
def exit (v : Viewer) : Viewer := { v with connection := v.connection.pluginExit, ended := true }

def exec (v : Viewer) : ViewerEvent → Viewer
  | .nppNew instanceId outcome => v.handleNPPNew instanceId outcome
  | .nppDestroy instanceId read => v.handleNPPDestroy instanceId read
  | .exit => v.exit

end Viewer

/-- Every run of a viewer. -/
def viewer : Machine Viewer ViewerEvent where
  init v := v = .started
  step v e v' := v.ended = false ∧ v' = v.exec e

end NSPluginWrapper
