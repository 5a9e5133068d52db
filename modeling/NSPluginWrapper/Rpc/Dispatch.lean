import NSPluginWrapper.Rpc.Calls
import NSPluginWrapper.Rpc.Party

/-! The dispatch of a call on the bytes: `_rpc_dispatch_1` reads the method, runs its handler and tells the
    caller of an error, and `_rpc_dispatch_until` goes from one marker to the next. -/

namespace NSPluginWrapper
open Lib

variable {σ α : Type}

/-- One end of a connection and its socket, with what its handlers share. -/
structure Endpoint (σ : Type) where
  conn : Connection
  incoming : InMessage
  outgoing : OutMessage
  user : σ

/-- A handler returns an error code, or 0. -/
abbrev MethodCallback (σ : Type) := Endpoint σ → Option (Int × Endpoint σ)

/-- The `methods` map of a connection with the handlers themselves. -/
abbrev Methods (σ : Type) := Int32 → Option (MethodCallback σ)

/-- An operation on a message whose error is not routed through `rpc_error`. -/
def unrouted {M : Type} (op : EStateM Failure M α) (c : Connection) (m : M) :
    Option (Except Int α × Connection × M) :=
  match op m with
  | .ok a m => some (.ok a, c, m)
  | .error (.error error) m => some (.error error, c, m)
  | .error .fault _ => none

namespace Endpoint

def receives (e : Endpoint σ) (op : Connection → InMessage → Option (Except Int α × Connection × InMessage)) :
    Option (Except Int α × Endpoint σ) :=
  (op e.conn e.incoming).map fun (result, conn, incoming) => (result, { e with conn, incoming })

def sends (e : Endpoint σ) (op : Connection → OutMessage → Option (Except Int α × Connection × OutMessage)) :
    Option (Except Int α × Endpoint σ) :=
  (op e.conn e.outgoing).map fun (result, conn, outgoing) => (result, { e with conn, outgoing })

end Endpoint

/-- What an operation that returns nothing else comes to as a C `int`. -/
def errorCode : Except Int Unit → Int
  | .ok () => RpcError.noError
  | .error error => error

/-! ### One call -/

/-- The method of a call and the MESSAGE_END behind it. -/
def recvMethod : Recv Int32 := do
  let method ← rpcMessageRecvInt32
  let tag ← rpcMessageRecvInt32
  if tag ≠ RpcMessage.finish then throw (.error RpcError.messageTypeInvalid) else pure method

/-- MESSAGE_FAILURE error-code. -/
def failureMessage (code : Int) : Send Unit := do
  rpcMessageSendInt32 RpcMessage.failure
  rpcMessageSendInt32 (Int32.ofInt code)
  rpcMessageFlush

/-- What a handler returned is told the caller when it is one of the high-level errors. -/
def relay (code : Int) (e : Endpoint σ) : Option (Int × Endpoint σ) :=
  if Party.relayed code then
    match e.sends fun c m => unrouted (failureMessage code) c (rpcMessageInit m) with
    | some (.ok (), e) => some (code, e)
    | some (.error error, e) => some (error, e)
    | none => none
  else
    some (code, e)

/-- The handler of a method, if it has one. -/
def callback (methods : Methods σ) (method : Int32) (e : Endpoint σ) : Option (Int × Endpoint σ) :=
  match methods method with
  | some handler => handler e
  | none => some (RpcError.messageHandlerInvalid, e)

def rpcDispatch1 (methods : Methods σ) (e : Endpoint σ) : Option (Int × Endpoint σ) :=
  match e.receives (unrouted recvMethod) with
  | some (.ok method, e) =>
    match callback methods method e with
    | some (error, e) => if error = RpcError.noError then some (method.toInt, e) else relay error e
    | none => none
  | some (.error error, e) => some (error, e)
  | none => none

/-- The static `_rpc_dispatch`. -/
def rpcDispatchCall (methods : Methods σ) (e : Endpoint σ) : Option (Int × Endpoint σ) :=
  (rpcDispatch1 methods { e with conn := e.conn.raiseDispatch }).map fun (ret, e) =>
    (ret, { e with conn := e.conn.lowerDispatch })

/-! ### One marker -/

/-- How a round of `_rpc_dispatch_until` ends: it goes on, has its marker, or returns an error. -/
inductive Round where
  | again
  | found
  | failed (error : Int)
  deriving Repr, DecidableEq

def rpcDispatchRound (methods : Methods σ) (expected : Int32) (e : Endpoint σ) : Option (Round × Endpoint σ) :=
  match e.receives (unrouted rpcMessageRecvInt32) with
  | some (.error error, e) => some (.failed error, e)
  | none => none
  | some (.ok tag, e) =>
    match tagAction e.conn expected tag with
    | .done => some (.found, e)
    | .noteSync => some (.again, { e with conn := e.conn.noteSync })
    | .fail error => some (.failed error, e)
    | .dispatch => (rpcDispatchCall methods e).map fun (ret, e) => (if ret < 0 then .failed ret else .again, e)

end NSPluginWrapper
