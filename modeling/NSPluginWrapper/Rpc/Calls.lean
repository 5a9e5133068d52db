import NSPluginWrapper.Rpc.Args
import NSPluginWrapper.Rpc.Connection

/-! The messages of a call on the socket: `rpc_method_invoke`, `rpc_method_get_args`,
    `rpc_method_send_reply` and `rpc_method_wait_for_reply`, down to their bytes. -/

namespace NSPluginWrapper
open Lib

variable {V M α : Type}

/-- `rpc_message_init`: an empty buffer on the connection's socket. -/
def rpcMessageInit (m : OutMessage) : OutMessage := { m with buffer := [] }

/-- What an operation on a message comes to; an error is routed through `rpc_error`. -/
def routed (op : EStateM Failure M α) (c : Connection) (m : M) : Option (Except Int α × Connection × M) :=
  match op m with
  | .ok a m => some (.ok a, c, m)
  | .error (.error error) m => some (.error error, c.rpcError error, m)
  | .error .fault _ => none

/-! ### Messages -/

/-- MESSAGE_START method MESSAGE_END [args], flushed before the arguments and after them. -/
def invokeMessage (types : TypeMap V) (method : Int32) (args : List (Arg V)) : Send Unit := do
  rpcMessageSendInt32 RpcMessage.start
  rpcMessageSendInt32 method
  rpcMessageSendInt32 RpcMessage.finish
  rpcMessageFlush
  if args.isEmpty then
    pure ()
  else do
    rpcMessageSendArgs types args
    rpcMessageFlush

/-- MESSAGE_REPLY [args] MESSAGE_END. -/
def replyMessage (types : TypeMap V) (args : List (Arg V)) : Send Unit := do
  rpcMessageSendInt32 RpcMessage.reply
  rpcMessageSendArgs types args
  rpcMessageSendInt32 RpcMessage.finish
  rpcMessageFlush

/-- A receiver that wants no arguments reads none. -/
def replyArgs (types : TypeMap V) (expected : List ArgType) : Recv (List (Arg V)) :=
  if expected.isEmpty then pure [] else rpcMessageRecvArgs types expected

/-- What stands behind MESSAGE_REPLY. -/
def replyBody (types : TypeMap V) (expected : List ArgType) : Recv (List (Arg V)) := do
  let args ← replyArgs types expected
  let tag ← rpcMessageRecvInt32
  if tag ≠ RpcMessage.finish then throw (.error RpcError.messageTypeInvalid) else pure args

/-! ### Operations -/

/-- `_rpc_dispatch_until`, handling at most `fuel` markers. `dispatch` is `_rpc_dispatch`, which runs a
    handler and may read and write any number of messages itself. -/
def rpcDispatchUntil (dispatch : Connection → InMessage → Option (Int × Connection × InMessage)) (expected : Int32) :
    Nat → Connection → InMessage → Option (Except Int Unit × Connection × InMessage)
  | 0, _, _ => none
  | fuel + 1, c, m =>
    match rpcMessageRecvInt32 m with
    | .error (.error error) m => some (.error error, c, m)
    | .error .fault _ => none
    | .ok tag m =>
      match tagAction c expected tag with
      | .done => some (.ok (), c, m)
      | .noteSync => rpcDispatchUntil dispatch expected fuel c.noteSync m
      | .fail error => some (.error error, c, m)
      | .dispatch =>
        match dispatch c m with
        | some (ret, c, m) => if ret < 0 then some (.error ret, c, m) else rpcDispatchUntil dispatch expected fuel c m
        | none => none

def rpcMethodInvoke (types : TypeMap V) (method : Int32) (args : List (Arg V)) (c : Connection) (m : OutMessage) :
    Option (Except Int Unit × Connection × OutMessage) :=
  if c.status = .closed then
    some (.error RpcError.connectionClosed, c.touch, m)
  else
    routed (invokeMessage types method args) c.raiseInvoke (rpcMessageInit m)

def rpcMethodGetArgs (types : TypeMap V) (expected : List ArgType) (c : Connection) (m : InMessage) :
    Option (Except Int (List (Arg V)) × Connection × InMessage) :=
  if c.status = .closed then
    some (.error RpcError.connectionClosed, c.touch, m)
  else
    routed (rpcMessageRecvArgs types expected) c.raiseHandle m

def rpcMethodSendReply (types : TypeMap V) (args : List (Arg V)) (c : Connection) (m : OutMessage) :
    Option (Except Int Unit × Connection × OutMessage) :=
  if c.status = .closed then
    some (.error RpcError.connectionClosed, c.touch, m)
  else
    (routed (replyMessage types args) c.touch (rpcMessageInit m)).map fun (r, c, m) => (r, c.lowerHandle, m)

def rpcMethodWaitForReplyValist (types : TypeMap V)
    (dispatch : Connection → InMessage → Option (Int × Connection × InMessage)) (fuel : Nat)
    (expected : List ArgType) (c : Connection) (m : InMessage) :
    Option (Except Int (List (Arg V)) × Connection × InMessage) :=
  match rpcDispatchUntil dispatch RpcMessage.reply fuel c m with
  | some (.ok (), c, m) => routed (replyBody types expected) c m
  | some (.error error, c, m) => some (.error error, c.rpcError error, m)
  | none => none

def rpcMethodWaitForReply (types : TypeMap V)
    (dispatch : Connection → InMessage → Option (Int × Connection × InMessage)) (fuel : Nat)
    (expected : List ArgType) (c : Connection) (m : InMessage) :
    Option (Except Int (List (Arg V)) × Connection × InMessage) :=
  if c.status = .closed then
    some (.error RpcError.connectionClosed, c.touch, m)
  else
    (rpcMethodWaitForReplyValist types dispatch fuel expected c.touch m).map fun (r, c, m) => (r, c.lowerInvoke, m)

end NSPluginWrapper
