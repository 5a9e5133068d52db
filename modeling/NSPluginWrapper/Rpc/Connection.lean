import NSPluginWrapper.Rpc.Codes

/-! rpc_connection_t: the references to a connection, its status, and the depths of the operations that run
    on it. -/

namespace NSPluginWrapper

inductive ConnectionType where
  | server
  | client
  deriving Repr, DecidableEq

/-- What a connection calls back on an error: the viewer's callback stops its main loop, the wrapper's
    (`plugin_kill_cb`) also drops the reference its owner holds. -/
inductive ErrorCallback where
  | unset
  | stopLoop
  | killPlugin
  deriving Repr, DecidableEq

/-- The fields of a connection its operations read and write. `owned` says that `g_rpc_connection` still
    holds one of the references, `callbacks` counts the runs of the error callback, and `misused` records an
    access after the last reference was dropped. -/
structure Connection where
  type : ConnectionType
  refcnt : Nat
  status : RpcStatus
  errorCallback : ErrorCallback
  dispatchDepth : Int
  invokeDepth : Int
  handleDepth : Int
  isSync : Bool
  pendingSyncDepth : Int
  owned : Bool
  callbacks : Nat
  misused : Bool
  deriving Repr, DecidableEq

namespace Connection

/-- An access to the fields. Two in a row that nothing can come between are one here. -/
def touch (c : Connection) : Connection := { c with misused := c.misused || c.refcnt == 0 }

/-! ### Creation -/

/-- What `rpc_init_server` and `rpc_init_client` make: one reference, which the caller puts in
    `g_rpc_connection`. -/
def rpcInit (type : ConnectionType) : Connection where
  type := type
  refcnt := 1
  status := .active
  errorCallback := .unset
  dispatchDepth := 0
  invokeDepth := 0
  handleDepth := 0
  isSync := false
  pendingSyncDepth := 0
  owned := true
  callbacks := 0
  misused := false

/-- A callback that is set stays. -/
def setErrorCallback (c : Connection) (errorCallback : ErrorCallback) : Connection :=
  match c.errorCallback with
  | .unset => { c.touch with errorCallback }
  | _ => c.touch

/-! ### References -/

def ref (c : Connection) : Connection := { c.touch with refcnt := c.refcnt + 1 }

def unref (c : Connection) : Connection := { c.touch with refcnt := c.refcnt - 1 }

/-- plugin_exit() drops the reference of `g_rpc_connection` and forgets it. Destroying the event sources
    drops none: their creator's reference to each GSource is never given back. -/
def pluginExit (c : Connection) : Connection := if c.owned then { c.unref with owned := false } else c

/-! ### Status -/

def setStatus (c : Connection) (error : Int) : Connection :=
  match c.status with
  | .active =>
    { c with status := if error = RpcError.noError then .active
                       else if error = RpcError.connectionClosed then .closed else .broken }
  | _ => c

def invokeErrorCallback (c : Connection) : Connection :=
  match c.errorCallback with
  | .unset => c
  | .stopLoop => { c with callbacks := c.callbacks + 1 }
  | .killPlugin => { c.pluginExit with callbacks := c.callbacks + 1 }

/-- `rpc_error`, which gives `error` back. -/
def rpcError (c : Connection) (error : Int) : Connection :=
  if (c.touch.setStatus error).status = .active then c.touch.setStatus error
  else (c.touch.setStatus error).invokeErrorCallback

/-! ### Depths -/

def raiseInvoke (c : Connection) : Connection := { c.touch with invokeDepth := c.invokeDepth + 1 }
def lowerInvoke (c : Connection) : Connection := { c.touch with invokeDepth := c.invokeDepth - 1 }
def raiseHandle (c : Connection) : Connection := { c.touch with handleDepth := c.handleDepth + 1 }
def lowerHandle (c : Connection) : Connection := { c.touch with handleDepth := c.handleDepth - 1 }
def raiseDispatch (c : Connection) : Connection := { c.touch with dispatchDepth := c.dispatchDepth + 1 }
def lowerDispatch (c : Connection) : Connection := { c.touch with dispatchDepth := c.dispatchDepth - 1 }

/-! ### Synchronization -/

def setSync (c : Connection) (isSync : Bool) : Connection := { c.touch with isSync }

/-- A MESSAGE_SYNC that has to wait for the event loop. -/
def noteSync (c : Connection) : Connection := { c.touch with pendingSyncDepth := c.invokeDepth }

def clearPendingSync (c : Connection) : Connection := { c.touch with pendingSyncDepth := 0 }

def isSyncMode (c : Connection) : Bool := c.type == .server

def isSyncAllowed (c : Connection) : Bool := !c.isSyncMode && c.pendingSyncDepth == 0

def hasPendingSync (c : Connection) : Bool :=
  !(decide (0 < c.invokeDepth) || decide (0 < c.handleDepth)) && c.pendingSyncDepth != 0

def rpcMethodInvokePossible (c : Connection) : Bool := c.status == .active && c.dispatchDepth == c.handleDepth

end Connection

/-- What `_rpc_dispatch_until` makes of a marker. -/
inductive TagAction where
  | done
  | noteSync
  | dispatch
  | fail (error : Int)
  deriving Repr, DecidableEq

def tagAction (c : Connection) (expected tag : Int32) : TagAction :=
  if tag = expected then .done
  else if tag = RpcMessage.sync then
    if c.isSyncAllowed then .noteSync else .fail RpcError.messageSyncNotAllowed
  else if tag = RpcMessage.start then .dispatch
  else .fail RpcError.messageTypeInvalid

end NSPluginWrapper
