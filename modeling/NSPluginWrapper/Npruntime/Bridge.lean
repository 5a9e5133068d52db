import Mathlib.Algebra.Group.Nat.Defs
import NSPluginWrapper.Npruntime.Objects

/-! A wrapper and its viewers: each end makes, sends, retains, releases and invalidates objects in any order, and
    the messages to each end come in the order in which they were sent. -/

namespace NSPluginWrapper
open Lib

/-- `incoming` has what each end has still to read. `aborted` is an end that an assertion stopped, `up` says that
    the wrapper has a connection, and `generation` counts its viewers. -/
structure Bridge where
  peer : ConnectionType → Peer
  incoming : ConnectionType → List NPObjectMessage
  aborted : ConnectionType → Bool
  up : Bool
  generation : Nat

/-- What the code of an end does with objects. `possible` is what `rpc_method_invoke_possible` says where a stub is
    to be released. -/
inductive ObjectAct where
  | create
  | retain (r : NPObjectRef)
  | release (r : NPObjectRef) (possible : Bool)
  | send (r : Option NPObjectRef) (passRef : Bool)
  | invalidate (i : Nat) (possible : Bool)
  | free (i : Nat)
  | receive
  deriving Repr, DecidableEq

inductive BridgeEvent where
  | act (side : ConnectionType) (act : ObjectAct)
  | kill
  | start
  deriving Repr, DecidableEq

namespace Peer

/-- The end's own code has a reference. -/
def Has (p : Peer) : NPObjectRef → Prop
  | .local o => ∃ x, p.objects[o]? = some x ∧ 0 < x.held
  | .proxy i => ∃ x, p.proxies[i]? = some x ∧ 0 < x.referenceCount

def retain (p : Peer) : NPObjectRef → Peer
  | .local o => (p.npnRetainObject o).take o
  | .proxy i => p.onProxy i fun x => { x with referenceCount := x.referenceCount + 1 }

def release (p : Peer) (possible : Bool) : NPObjectRef → Peer × List NPObjectMessage
  | .local o => ((p.npnReleaseObject o).give o, [])
  | .proxy i => p.releaseProxy i possible

/-- What an end can do: it uses references it has, and a stub needs a number that is not 0 (another assertion). -/
def Can (p : Peer) : ObjectAct → Prop
  | .create | .receive => True
  | .retain r | .release r _ => p.Has r
  | .send none _ => True
  | .send (some r) _ => p.Has r ∧ ∀ o, r = .local o → p.stubs.length + 1 < 2 ^ 32
  | .invalidate i _ => p.Has (.proxy i)
  | .free i => ∃ x, p.proxies[i]? = some x ∧ x.referenceCount = 0 ∧ x.isFreed = false

/-- An act that reads nothing, with what it sends. -/
def act (p : Peer) : ObjectAct → Peer × List NPObjectMessage
  | .create => (p.npnCreateObject, [])
  | .retain r => (p.retain r, [])
  | .release r possible => p.release possible r
  | .send r passRef =>
    let (p, m) := p.doSendNPObjectHelper passRef r
    (p, [m])
  | .invalidate i possible => p.gNPClassInvalidate i possible
  | .free i => (p.freeProxy i, [])
  | .receive => (p, [])

end Peer

/-- Whether an act asks for the connection. -/
def ObjectAct.calls : ObjectAct → Bool
  | .send .. => true
  | .release _ possible | .invalidate _ possible => possible
  | _ => false

namespace Bridge

/-- A wrapper and a viewer that have just been joined. -/
def joined : Bridge where
  peer := fun _ => .new
  incoming := fun _ => []
  aborted := fun _ => false
  up := true
  generation := 0

/-- `side` once it has become `p`, with `sent` on its way. -/
def after (b : Bridge) (side : ConnectionType) (p : Peer) (sent : List NPObjectMessage) : Bridge :=
  { b with peer := Function.update b.peer side p,
           incoming := Function.update b.incoming side.other (b.incoming side.other ++ sent) }

/-- `side` reads a message. -/
def receive (b : Bridge) (side : ConnectionType) : Bridge :=
  match b.incoming side with
  | [] => b
  | m :: rest =>
    let b := { b with incoming := Function.update b.incoming side rest }
    match (b.peer side).doRecvNPObjectHelper b.generation m with
    | none => { b with aborted := Function.update b.aborted side true }
    | some (p, _) => { b with peer := Function.update b.peer side p }

/-- plugin_kill(): the viewer ends, and what was on its way is lost. -/
def kill (b : Bridge) : Bridge :=
  { b with peer := Function.update b.peer .client (b.peer .client).npruntimeDeactivate,
           incoming := fun _ => [], up := false }

/-- plugin_init(): a viewer has its numbers from 1 again. -/
def start (b : Bridge) : Bridge :=
  { b with peer := Function.update b.peer .server .new, aborted := Function.update b.aborted .server false,
           up := true, generation := b.generation + 1 }

def exec (b : Bridge) : BridgeEvent → Bridge
  | .act side .receive => b.receive side
  | .act side a =>
    let (p, sent) := (b.peer side).act a
    b.after side p sent
  | .kill => b.kill
  | .start => b.start

def Enabled (b : Bridge) : BridgeEvent → Prop
  | .act side a =>
    b.aborted side = false ∧ (side = .server → b.up = true) ∧ (a.calls = true → b.up = true) ∧ (b.peer side).Can a
  | .kill => b.aborted .client = false
  | .start => b.aborted .client = false ∧ b.up = false

end Bridge

/-- Every run of a wrapper and its viewers. -/
def bridge : Machine Bridge BridgeEvent where
  init b := b = .joined
  step b e b' := b.Enabled e ∧ b' = b.exec e

/-- Every run of two ends that stay. -/
def livePeers : Machine Bridge BridgeEvent := bridge.restrict fun _ e => ∃ side a, e = .act side a

end NSPluginWrapper
