import NSPluginWrapper.Lib.Program
import NSPluginWrapper.Rpc.Dispatch
import NSPluginWrapper.Rpc.Session

/-! A remote call from end to end: invoke_*() on one side of a connection, handle_*() on the other, and the functions
    behind both, which may call back while the caller waits. -/

namespace NSPluginWrapper
open Lib

/-- A function that is called over a connection: the method, what invoke_*() sends of the parameters and wants back, what
    handle_*() wants and replies, and what either makes of it. Where the call cannot be made, `failed` is returned, and
    `unanswered` where no reply to it comes. -/
structure RemoteFunction (V P R : Type) where
  method : Int32
  invoked : P → List (Arg V)
  expected : List ArgType
  received : List (Arg V) → Option P
  reply : P → R → List (Arg V)
  awaited : P → List ArgType
  answer : P → List (Arg V) → Option R
  failed : R
  unanswered : P → R

section
variable {V P R σ W : Type}

/-- handle_*(). `serve` is the function itself. -/
def RemoteFunction.handle (f : RemoteFunction V P R) (types : TypeMap V) (serve : P → Endpoint σ → Option (R × Endpoint σ)) :
    MethodCallback σ := fun e =>
  match e.receives (rpcMethodGetArgs types f.expected) with
  | some (.ok args, e) =>
    (f.received args).bind fun p =>
    (serve p e).bind fun (r, e) =>
    (e.sends (rpcMethodSendReply types (f.reply p r))).map fun (reply, e) => (errorCode reply, e)
  | some (.error error, e) => some (error, e)
  | none => none

/-! ### Two ends -/

/-- What the coming recv() calls find when so many bytes more have been sent. -/
abbrev Kernel := List UInt8 → InMessage → InMessage

/-- An end with the state of its process, and the other end with its own. -/
abbrev Wire (W : Type) := Endpoint (W × Endpoint W)

namespace Wire

/-- The same, seen from the other end. -/
def swap (e : Wire W) : Wire W :=
  ⟨e.user.2.conn, e.user.2.incoming, e.user.2.outgoing, e.user.2.user, ⟨e.conn, e.incoming, e.outgoing, e.user.1⟩⟩

/-- What the end has sent gets to the other one. -/
def carry (kernel : Kernel) (e : Wire W) : Wire W :=
  { e with
    outgoing := { e.outgoing with sent := [] }
    user := (e.user.1, { e.user.2 with incoming := kernel e.outgoing.sent e.user.2.incoming }) }

def world (e : Wire W) : W := e.user.1

def setWorld (w : W) (e : Wire W) : Wire W := { e with user := (w, e.user.2) }

end Wire

/-- invoke_*(). The other end is waiting for a message, whatever it wants; what it does where the round fails is not told.
    Where this end is called meanwhile, it is the other end's call that runs the round. -/
def RemoteFunction.call (f : RemoteFunction V P R) (types : TypeMap V) (kernel : Kernel) (methods : Methods (W × Endpoint W))
    (p : P) (e : Wire W) : Option (R × Wire W) :=
  if e.conn.rpcMethodInvokePossible then
    match e.sends (rpcMethodInvoke types f.method (f.invoked p)) with
    | some (.ok (), e) =>
      match rpcDispatchRound methods RpcMessage.reply (Wire.swap (Wire.carry kernel e)) with
      | some (.again, e) =>
        match (Wire.swap (Wire.carry kernel e)).receives (rpcMethodWaitForReply types (fun _ _ => none) 1 (f.awaited p)) with
        | some (.ok args, e) => (f.answer p args).map fun r => (r, e)
        | some (.error _, e) => some (f.unanswered p, e)
        | none => none
      | _ => none
    | some (.error _, e) => some (f.failed, e)
    | none => none
  else
    some (f.failed, e)

end

/-! ### All functions -/

/-- The functions that an end provides, with the ones that its connection knows by their methods. -/
structure Remotes (V : Type) extends Interface where
  remote : (op : Op) → RemoteFunction V (Params op) (Result op)
  find : Int32 → Option Op

/-- The handlers that an end has added to its connection. -/
def Remotes.methods {V σ : Type} (I : Remotes V) (types : TypeMap V)
    (serve : (op : I.Op) → I.Params op → Endpoint σ → Option (I.Result op × Endpoint σ)) : Methods σ := fun method =>
  (I.find method).map fun op => (I.remote op).handle types (serve op)

/-- A call that one end makes, of a function whose calls of this end nest to some depth. -/
def wireCall {V W : Type} (remotes : ConnectionType → Remotes V) (types : ConnectionType → TypeMap V) (kernel : Kernel)
    (gate : (side : ConnectionType) → (op : (remotes side).Op) → (remotes side).Params op → Option ((remotes side).Result op))
    (body : (side : ConnectionType) → (op : (remotes side).Op) → (remotes side).Params op →
      Program (remotes side.other).toInterface W ((remotes side).Result op)) :
    Nat → (side : ConnectionType) → (op : (remotes side.other).Op) → (remotes side.other).Params op → Wire W →
      Option ((remotes side.other).Result op × Wire W)
  | 0, _, _, _, _ => none
  | n + 1, side, op, p, e =>
    match gate side.other op p with
    | some r => some (r, e)
    | none =>
      ((remotes side.other).remote op).call (types side) kernel
        ((remotes side.other).methods (types side.other) fun op p =>
          (body side.other op p).run Wire.world Wire.setWorld (wireCall remotes types kernel gate body n side.other)) p e

end NSPluginWrapper
