import NSPluginWrapper.Lib.Machine
import NSPluginWrapper.Rpc.Connection

/-! One end of a connection as its operations run: the RPC functions on its call stack, the handlers between
    them, and what each does when user code calls it, when a message arrives and when either goes wrong. A
    message is a list of words here; Rpc.Calls has their bytes. -/

namespace NSPluginWrapper

/-- An error code. -/
abbrev Err := { error : Int // error < 0 }

/-- Which call a message belongs to: the end that invoked it and a number of its own. Nothing on the wire
    says so, and no function looks at it. -/
structure Call where
  caller : ConnectionType
  serial : Nat
  deriving Repr, DecidableEq

/-- The words of the messages, over what argument lists are. -/
inductive Word (A : Type) where
  | marker (tag : Int32)
  | head (call : Call) (method : Int32)
  | args (call : Call) (values : A)
  | body (call : Call) (values : A)
  | code (error : Int)
  deriving Repr, DecidableEq

/-! ### The call stack -/

/-- A caller of `_rpc_dispatch_until`: `rpc_sync`, `_rpc_dispatch_sync` or `rpc_method_wait_for_reply`. -/
inductive Loop where
  | sync
  | dispatchSync
  | wait (call : Call)
  deriving Repr, DecidableEq

def Loop.expected : Loop → Int32
  | .sync => RpcMessage.syncAck
  | .dispatchSync => RpcMessage.syncEnd
  | .wait _ => RpcMessage.reply

/-- A caller of `_rpc_dispatch`. -/
inductive Op where
  | dispatch
  | loop (l : Loop)
  deriving Repr, DecidableEq

/-- How far a handler is: before `rpc_method_get_args`, after it, after `rpc_method_send_reply`. -/
inductive Phase where
  | fresh
  | args
  | replied
  deriving Repr, DecidableEq

/-- A handler that runs, and who dispatched it. Method numbers count from 1. -/
structure Frame where
  op : Op
  call : Call
  method : Int32
  phase : Phase
  positive : 0 < method.toInt
  deriving Repr, DecidableEq

/-- What the innermost function does: user code after an operation that returned `ret`, the step between
    `rpc_method_invoke` and `rpc_method_wait_for_reply`, a read, or nothing after a failed assertion. -/
inductive Ctl where
  | user (ret : Int)
  | invoked (call : Call)
  | marker (loop : Loop)
  | head (op : Op)
  | args
  | body (call : Call)
  | aborted
  deriving Repr, DecidableEq

/-- The `methods` map of a connection. -/
structure MethodMap where
  has : Int32 → Bool
  positive : ∀ m, has m → 0 < m.toInt

/-- One end of a connection. `stack` has the handlers that run, the innermost first. -/
structure Party where
  conn : Connection
  methods : MethodMap
  stack : List Frame
  ctl : Ctl

/-! ### Operations -/

/-- What a send comes to. -/
abbrev Sent := Except Err Unit

namespace Party
variable {A : Type}

/-- Back to user code. -/
def returns (p : Party) (ret : Int) : Party := { p with ctl := .user ret }

/-- An error an operation returns through `rpc_error` as its last act. -/
def fails (p : Party) (error : Int) : Party := { p with conn := p.conn.rpcError error, ctl := .user error }

/-- An error in a caller of `_rpc_dispatch`. `_rpc_dispatch_sync` gives it back as it is. -/
def leave (p : Party) : Op → Int → Party
  | .dispatch, error => p.fails error
  | .loop .sync, error => p.fails error
  | .loop .dispatchSync, error => p.returns error
  | .loop (.wait _), error => { p with conn := (p.conn.rpcError error).lowerInvoke, ctl := .user error }

/-- `_rpc_dispatch` reads the method of a call. -/
def rpcDispatchStart (p : Party) (op : Op) : Party := { p with conn := p.conn.raiseDispatch, ctl := .head op }

/-- `_rpc_dispatch` has `ret` from `_rpc_dispatch_1`. -/
def rpcDispatchEnd (p : Party) (op : Op) (ret : Int) : Party :=
  let p := { p with conn := p.conn.lowerDispatch }
  if ret < 0 then
    p.leave op ret
  else match op with
    | .dispatch => p.returns ret
    | .loop l => { p with ctl := .marker l }

/-- `_rpc_dispatch_sync`, up to its loop. -/
def rpcDispatchSync (p : Party) : Sent → Party × List (Word A)
  | .error error => ({ p with conn := p.conn.touch, ctl := .user error.val }, [])
  | .ok () => ({ p with conn := p.conn.touch, ctl := .marker .dispatchSync }, [.marker RpcMessage.syncAck])

/-- `rpc_dispatch`, from the first marker it reads. -/
def rpcDispatch (p : Party) (tag : Except Err Int32) (sent : Sent) : Party × List (Word A) :=
  match tag with
  | .error error => (p.fails error.val, [])
  | .ok tag =>
    if tag = RpcMessage.sync then p.rpcDispatchSync sent
    else if tag = RpcMessage.start then (p.rpcDispatchStart .dispatch, [])
    else (p.fails RpcError.messageTypeInvalid, [])

/-- `readable` is what the assertion polls. -/
def rpcDispatchPendingSync (p : Party) (readable : Bool) (sent : Sent) : Party × List (Word A) :=
  if 0 < p.conn.invokeDepth ∨ 0 < p.conn.handleDepth ∨ p.conn.pendingSyncDepth = 0 then
    ({ p with conn := p.conn.touch, ctl := .user RpcError.noError }, [])
  else if p.conn.pendingSyncDepth = 1 ∧ readable = false then
    { p with conn := p.conn.clearPendingSync }.rpcDispatchSync sent
  else
    ({ p with ctl := .aborted }, [])

def rpcSync (p : Party) (sent : Sent) : Party × List (Word A) :=
  if p.conn.isSync then
    ({ p with ctl := .aborted }, [])
  else match sent with
    | .error error => (p.fails error.val, [])
    | .ok () => ({ p with conn := p.conn.touch, ctl := .marker .sync }, [.marker RpcMessage.sync])

def rpcEndSync (p : Party) (sent : Sent) : Party × List (Word A) :=
  if p.conn.isSync = false then
    (p.fails RpcError.generic, [])
  else match sent with
    | .error error => (p.fails error.val, [])
    | .ok () =>
      ({ p with conn := p.conn.setSync false, ctl := .user RpcError.noError }, [.marker RpcMessage.syncEnd])

def rpcMethodInvoke (p : Party) (call : Call) (method : Int32) (values : A) (sent : Sent) : Party × List (Word A) :=
  if p.conn.status = .closed then
    ({ p with conn := p.conn.touch, ctl := .user RpcError.connectionClosed }, [])
  else match sent with
    | .error error => ({ p with conn := p.conn.raiseInvoke }.fails error.val, [])
    | .ok () => ({ p with conn := p.conn.raiseInvoke, ctl := .invoked call },
      [.marker RpcMessage.start, .head call method, .args call values])

def rpcMethodWaitForReply (p : Party) (call : Call) : Party :=
  if p.conn.status = .closed then { p with conn := p.conn.touch, ctl := .user RpcError.connectionClosed }
  else { p with conn := p.conn.touch, ctl := .marker (.wait call) }

def rpcMethodGetArgs (p : Party) : Party :=
  if p.conn.status = .closed then { p with conn := p.conn.touch, ctl := .user RpcError.connectionClosed }
  else { p with conn := p.conn.raiseHandle, ctl := .args }

/-- Called by the handler on top of `rest`. -/
def rpcMethodSendReply (p : Party) (f : Frame) (rest : List Frame) (values : A) (sent : Sent) :
    Party × List (Word A) :=
  if p.conn.status = .closed then
    ({ p with conn := p.conn.touch, ctl := .user RpcError.connectionClosed }, [])
  else match sent with
    | .error error => ({ p with conn := (p.conn.rpcError error.val).lowerHandle, ctl := .user error.val }, [])
    | .ok () =>
      ({ p with conn := p.conn.lowerHandle, ctl := .user RpcError.noError, stack := { f with phase := .replied } :: rest },
        [.marker RpcMessage.reply, .body f.call values])

/-- The errors of a handler that `_rpc_dispatch_1` tells the other end. -/
def relayed (code : Int) : Bool :=
  code == RpcError.generic || code == RpcError.errnoSet || code == RpcError.noMemory

/-- The handler on top of `rest` returns `code`. -/
def handlerReturns (p : Party) (f : Frame) (rest : List Frame) (code : Int) (sent : Sent) : Party × List (Word A) :=
  let p := { p with stack := rest }
  if code = RpcError.noError then
    (p.rpcDispatchEnd f.op f.method.toInt, [])
  else if relayed code then
    match sent with
    | .error error => (p.rpcDispatchEnd f.op error.val, [])
    | .ok () => (p.rpcDispatchEnd f.op code, [.marker RpcMessage.failure, .code code])
  else
    (p.rpcDispatchEnd f.op code, [])

/-! ### Reads -/

/-- `_rpc_dispatch_until` has found its marker. -/
def loopEnd (p : Party) : Loop → Party
  | .sync => { p with conn := p.conn.setSync true, ctl := .user RpcError.noError }
  | .dispatchSync => p.returns RpcError.noError
  | .wait call => { p with ctl := .body call }

/-- A marker read by `_rpc_dispatch_until`. -/
def recvMarker (p : Party) (loop : Loop) : Except Err Int32 → Party
  | .error error => p.leave (.loop loop) error.val
  | .ok tag =>
    match tagAction p.conn loop.expected tag with
    | .fail error => p.leave (.loop loop) error
    | .noteSync => { p with conn := p.conn.noteSync }
    | .dispatch => p.rpcDispatchStart (.loop loop)
    | .done => p.loopEnd loop

/-- The method of a call, read by `_rpc_dispatch_1`, which then runs its handler. -/
def recvHead (p : Party) (op : Op) : Except Err (Call × Int32) → Party
  | .error error => p.rpcDispatchEnd op error.val
  | .ok (call, method) =>
    if has : p.methods.has method then
      { p with stack := ⟨op, call, method, .fresh, p.methods.positive method has⟩ :: p.stack
               ctl := .user RpcError.noError }
    else
      p.rpcDispatchEnd op RpcError.messageHandlerInvalid

/-- The arguments, read for the handler on top of `rest`. -/
def recvArgs (p : Party) (f : Frame) (rest : List Frame) : Except Err A → Party
  | .error error => p.fails error.val
  | .ok _ => { p with stack := { f with phase := .args } :: rest, ctl := .user RpcError.noError }

/-- The values of a reply and the MESSAGE_END behind them. -/
def recvBody (p : Party) : Except Err A → Party
  | .error error => { p with conn := (p.conn.rpcError error.val).lowerInvoke, ctl := .user error.val }
  | .ok _ => { p with conn := p.conn.lowerInvoke, ctl := .user RpcError.noError }

end Party

/-! ### Steps -/

/-- A call of user code with what its sends come to, a read with what it finds, or a reference that a plugin
    instance takes or drops. -/
inductive Event (A : Type) where
  | invoke (call : Call) (method : Int32) (values : A) (sent : Sent)
  | waitForReply
  | dispatch (tag : Except Err Int32) (sent : Sent)
  | dispatchPendingSync (readable : Bool) (sent : Sent)
  | sync (sent : Sent)
  | endSync (sent : Sent)
  | getArgs
  | sendReply (values : A) (sent : Sent)
  | ret (code : Int) (sent : Sent)
  | recvMarker (tag : Except Err Int32)
  | recvHead (head : Except Err (Call × Int32))
  | recvArgs (values : Except Err A)
  | recvBody (values : Except Err A)
  | ref
  | unref

/-- What one event does, and the words it sends. -/
def Party.step {A : Type} (p : Party) (e : Event A) : Option (Party × List (Word A)) :=
  match p.ctl, e with
  | .user _, .invoke call method values sent => some (p.rpcMethodInvoke call method values sent)
  | .user _, .dispatch tag sent => some (p.rpcDispatch tag sent)
  | .user _, .dispatchPendingSync readable sent => some (p.rpcDispatchPendingSync readable sent)
  | .user _, .sync sent => some (p.rpcSync sent)
  | .user _, .endSync sent => some (p.rpcEndSync sent)
  | .user _, .getArgs => some (p.rpcMethodGetArgs, [])
  | .user _, .sendReply values sent =>
    match p.stack with
    | f :: rest => some (p.rpcMethodSendReply f rest values sent)
    | [] => none
  | .user _, .ret code sent =>
    match p.stack with
    | f :: rest => some (p.handlerReturns f rest code sent)
    | [] => none
  | .user _, .ref => some ({ p with conn := p.conn.ref }, [])
  | .user _, .unref => some ({ p with conn := p.conn.unref }, [])
  | .invoked call, .waitForReply => some (p.rpcMethodWaitForReply call, [])
  | .marker loop, .recvMarker tag => some (p.recvMarker loop tag, [])
  | .head op, .recvHead head => some (p.recvHead op head, [])
  | .args, .recvArgs values =>
    match p.stack with
    | f :: rest => some (p.recvArgs f rest values, [])
    | [] => none
  | .body _, .recvBody values => some (p.recvBody values, [])
  | _, _ => none

/-- A connection that has just been made, with any number of references to it. -/
structure Connection.Fresh (c : Connection) : Prop where
  referenced : 0 < c.refcnt
  active : c.status = .active
  dispatchDepth : c.dispatchDepth = 0
  invokeDepth : c.invokeDepth = 0
  handleDepth : c.handleDepth = 0
  isSync : c.isSync = false
  pendingSyncDepth : c.pendingSyncDepth = 0
  unmisused : c.misused = false

/-- A connection with whatever its peer and its user code do. -/
def partyMachine (A : Type) : Lib.Machine Party (Event A) where
  init p := p.conn.Fresh ∧ p.stack = [] ∧ p.ctl = .user RpcError.noError
  step p e q := ∃ words, p.step e = some (q, words)

/-! ### Handlers -/

/-- What the handlers of the repository do: read the arguments first, reply at most once and return then, or
    return an error before replying. Other calls come between the arguments and the reply. -/
def Party.Disciplined {A : Type} (p : Party) (e : Event A) : Prop :=
  match p.ctl, p.stack, e with
  | .user _, [], .getArgs | .user _, [], .sendReply .. | .user _, [], .ret .. => False
  | .user _, f :: _, .getArgs => f.phase = .fresh
  | .user _, f :: _, .ret code _ => f.phase = .replied ∧ code = RpcError.noError ∨ f.phase ≠ .replied ∧ code < 0
  | .user _, f :: _, _ => f.phase = .args
  | _, _, _ => True

end NSPluginWrapper
