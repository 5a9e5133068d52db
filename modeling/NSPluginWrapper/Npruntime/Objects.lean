import Mathlib.Logic.Function.Basic
import NSPluginWrapper.Lib.Machine
import NSPluginWrapper.Rpc.Session

/-! npruntime.c: the objects of one end and the proxies it has for those of the other, by their numbers in the
    order of their making. -/

namespace NSPluginWrapper
open Lib

/-- An object of the end's own classes. `held` counts the references its own code has. -/
structure NPObject where
  referenceCount : Nat
  held : Nat
  deriving Repr, DecidableEq

/-- Stub `id` is entry `id - 1`, and `isLive` while it is in `g_stubs`. `releases` counts the times its reference
    to the object was given back. -/
structure NPObjectStub where
  npobject : Nat
  isLive : Bool
  releases : Nat
  deriving Repr, DecidableEq

/-- A proxy and, for the theorems, the object it was made for, the viewer that was there, and whether the release
    of its stub was sent. `isFreed` comes behind the last reference, when the stub's release was answered. -/
structure NPObjectProxy where
  id : Nat
  referenceCount : Nat
  isValid : Bool
  isFreed : Bool
  target : Nat
  generation : Nat
  released : Bool
  deriving Repr, DecidableEq

/-- An NPObject pointer. -/
inductive NPObjectRef where
  | local (o : Nat)
  | proxy (i : Nat)
  deriving Repr, DecidableEq

/-- What travels of an NPObject, and the call that releases a stub. `target` and `generation` are
    for the theorems. -/
inductive NPObjectMessage where
  | null
  | senderOwned (id target : Nat)
  | receiverOwned (id : Nat) (releaseStub : Bool) (target generation : Nat)
  | deallocate (id : Nat)
  deriving Repr, DecidableEq

/-- `next_id` of npobject_create_stub() is the length of `stubs`. -/
structure Peer where
  objects : List NPObject
  stubs : List NPObjectStub
  proxies : List NPObjectProxy
  gProxies : Nat → Option Nat

namespace Peer

def new : Peer where
  objects := []
  stubs := []
  proxies := []
  gProxies := fun _ => none

def onObject (p : Peer) (o : Nat) (f : NPObject → NPObject) : Peer := { p with objects := p.objects.modify o f }

def onProxy (p : Peer) (i : Nat) (f : NPObjectProxy → NPObjectProxy) : Peer :=
  { p with proxies := p.proxies.modify i f }

/-! ### Objects -/

/-- NPN_CreateObject() of a class of its own. -/
def npnCreateObject (p : Peer) : Peer := { p with objects := p.objects ++ [⟨1, 1⟩] }

def npnRetainObject (p : Peer) (o : Nat) : Peer :=
  p.onObject o fun x => { x with referenceCount := x.referenceCount + 1 }

/-- The last reference frees the object. -/
def npnReleaseObject (p : Peer) (o : Nat) : Peer :=
  p.onObject o fun x => { x with referenceCount := x.referenceCount - 1 }

/-- A reference comes to the end's own code. -/
def take (p : Peer) (o : Nat) : Peer := p.onObject o fun x => { x with held := x.held + 1 }

/-- One leaves it. -/
def give (p : Peer) (o : Nat) : Peer := p.onObject o fun x => { x with held := x.held - 1 }

/-! ### Stubs -/

def npobjectCreateStub (p : Peer) (o : Nat) : Peer × Nat :=
  let p := p.npnRetainObject o
  ({ p with stubs := p.stubs ++ [⟨o, true, 0⟩] }, p.stubs.length + 1)

def npobjectLookupStub (p : Peer) : Nat → Option NPObjectStub
  | 0 => none
  | i + 1 => (p.stubs[i]?).filter (·.isLive)

def npobjectLookupLocal (p : Peer) (id : Nat) : Option Nat := (p.npobjectLookupStub id).map (·.npobject)

def npobjectDestroyStubObj (p : Peer) (id : Nat) (stub : NPObjectStub) : Peer :=
  { p with stubs := p.stubs.modify (id - 1) fun s => { s with isLive := false, releases := s.releases + 1 }
    }.npnReleaseObject stub.npobject

/-- None where the assertion fails. -/
def npobjectDestroyStub (p : Peer) (id : Nat) : Option Peer := (p.npobjectLookupStub id).map (p.npobjectDestroyStubObj id)

def npclassHandleDeallocate (p : Peer) (id : Nat) : Peer :=
  match p.npobjectLookupStub id with
  | none => p
  | some stub => p.npobjectDestroyStubObj id stub

/-! ### Proxies -/

def npobjectCreateProxy (p : Peer) (id target generation : Nat) : Peer × Nat :=
  let proxy : NPObjectProxy := { id, referenceCount := 1, isValid := true, isFreed := false, target, generation,
                                 released := false }
  ({ p with proxies := p.proxies ++ [proxy], gProxies := Function.update p.gProxies id (some p.proxies.length) },
   p.proxies.length)

/-- The end of npobject_destroy_proxy(). -/
def freeProxy (p : Peer) (i : Nat) : Peer :=
  match p.proxies[i]? with
  | none => p
  | some x => { p.onProxy i fun x => { x with isFreed := true } with gProxies := Function.update p.gProxies x.id none }

/-- `npclass_invoke_Deallocate`, if `rpc_method_invoke_possible`. -/
def npclassInvokeDeallocate (p : Peer) (i : Nat) (possible : Bool) : Peer × List NPObjectMessage :=
  match p.proxies[i]? with
  | none => (p, [])
  | some x => if possible then (p.onProxy i fun x => { x with released := true }, [.deallocate x.id]) else (p, [])

/-- NPN_ReleaseObject() of a proxy. The last reference releases the stub of a valid one; `freeProxy` follows the
    answer. -/
def releaseProxy (p : Peer) (i : Nat) (possible : Bool) : Peer × List NPObjectMessage :=
  match p.proxies[i]? with
  | none => (p, [])
  | some x =>
    let p := p.onProxy i fun x => { x with referenceCount := x.referenceCount - 1 }
    if x.referenceCount = 1 ∧ x.isValid = true then p.npclassInvokeDeallocate i possible else (p, [])

def gNPClassInvalidate (p : Peer) (i : Nat) (possible : Bool) : Peer × List NPObjectMessage :=
  match p.proxies[i]? with
  | none => (p, [])
  | some x =>
    if !x.isValid then (p, [])
    else (p.onProxy i fun x => { x with isValid := false }).npclassInvokeDeallocate i possible

/-! ### Messages -/

/-- Whether the proxy is valid is not asked. -/
def doSendNPObjectHelper (p : Peer) (passRef : Bool) : Option NPObjectRef → Peer × NPObjectMessage
  | none => (p, .null)
  | some (.local o) =>
    let (p, id) := p.npobjectCreateStub o
    (if passRef then (p.npnReleaseObject o).give o else p, .senderOwned id o)
  | some (.proxy i) =>
    match p.proxies[i]? with
    | none => (p, .null)
    | some x =>
      if !passRef then (p, .receiverOwned x.id false x.target x.generation)
      else if x.referenceCount = 1 then
        ((p.onProxy i fun x => { x with referenceCount := 0, released := true }).freeProxy i,
          .receiverOwned x.id true x.target x.generation)
      else
        (p.onProxy i fun x => { x with referenceCount := x.referenceCount - 1 },
          .receiverOwned x.id false x.target x.generation)

/-- None where an assertion fails. The receiver owns a reference to what it gets. -/
def doRecvNPObjectHelper (p : Peer) (generation : Nat) : NPObjectMessage → Option (Peer × Option NPObjectRef)
  | .null => some (p, none)
  | .senderOwned id target =>
    let (p, i) := p.npobjectCreateProxy id target generation
    some (p, some (.proxy i))
  | .receiverOwned id releaseStub _ _ =>
    match p.npobjectLookupLocal id with
    | none => none
    | some o =>
      let p := (p.npnRetainObject o).take o
      if releaseStub then (p.npobjectDestroyStub id).map (·, some (.local o)) else some (p, some (.local o))
  | .deallocate id => some (p.npclassHandleDeallocate id, none)

/-! ### The end of the other side -/

/-- What `proxy_deactivate_func` leaves of proxy `i`. -/
def deactivated (p : Peer) (i : Nat) (x : NPObjectProxy) : NPObjectProxy :=
  if p.gProxies x.id = some i then { x with isValid := false } else x

/-- `npruntime_deactivate`: every proxy in the table is invalid then, every stub is destroyed, and both tables are
    new ones. -/
def npruntimeDeactivate (p : Peer) : Peer :=
  let p := { p with proxies := p.proxies.mapIdx p.deactivated, gProxies := fun _ => none }
  (List.range p.stubs.length).foldl (fun p i => p.npclassHandleDeallocate (i + 1)) p

end Peer
end NSPluginWrapper
