import Mathlib.Logic.Function.Basic
import NSPluginWrapper.Rpc.Party

/-! A viewer and a wrapper that are both alive, joined by two FIFO channels. Each step is one of theirs, in any
    order. -/

namespace NSPluginWrapper

def ConnectionType.other : ConnectionType → ConnectionType
  | .server => .client
  | .client => .server

namespace ConnectionType

@[simp] theorem other_other (side : ConnectionType) : side.other.other = side := by cases side <;> rfl
@[simp] theorem other_ne (side : ConnectionType) : side.other ≠ side := by cases side <;> decide
@[simp] theorem ne_other (side : ConnectionType) : side ≠ side.other := by cases side <;> decide

theorem eq_or_other (a side : ConnectionType) : a = side ∨ a = side.other := by
  cases a <;> cases side <;> decide

end ConnectionType

/-- What an end does next: a call of its user code, or the read it is in. -/
inductive Act (A : Type) where
  | invoke (method : Int32) (values : A)
  | waitForReply
  | dispatch
  | dispatchPendingSync
  | sync
  | endSync
  | getArgs
  | sendReply (values : A)
  | ret (code : Int)
  | read
  deriving Repr, DecidableEq

/-- What user code passes to a call and gets from it. -/
inductive Entry (A : Type) where
  | invoked (call : Call) (method : Int32) (values : A)
  | gotArgs (call : Call) (values : A)
  | replied (call : Call) (values : A)
  | returned (call : Call) (values : A)
  | failed (call : Call) (error : Int)
  deriving Repr, DecidableEq

def Entry.call {A : Type} : Entry A → Call
  | .invoked call _ _ | .gotArgs call _ | .replied call _ | .returned call _ | .failed call _ => call

/-- `incoming` has what each end has still to read. The log and the number of steps are kept for the theorems:
    a call is numbered by the step that invokes it. -/
structure Session (A : Type) where
  party : ConnectionType → Party
  incoming : ConnectionType → List (Word A)
  steps : Nat
  log : List (ConnectionType × Entry A)

/-! ### Steps -/

/-- The error that `rpc_method_wait_for_reply` of `call` has just returned. -/
def Party.failure {A : Type} (p : Party) (call : Call) : List (Entry A) :=
  match p.ctl with
  | .user ret => if ret < 0 then [.failed call ret] else []
  | _ => []

/-- What is logged of a step from `p` to `q`. -/
def Party.entries {A : Type} (p : Party) (e : Event A) (q : Party) : List (Entry A) :=
  match p.ctl, p.stack, e with
  | .user _, _, .invoke call method values _ => [.invoked call method values]
  | .args, f :: _, .recvArgs (.ok values) => [.gotArgs f.call values]
  | .user _, f :: _, .sendReply values _ => [.replied f.call values]
  | .body call, _, .recvBody (.ok values) => [.returned call values]
  | .marker (.wait call), _, .recvMarker _ => q.failure call
  | .head (.loop (.wait call)), _, .recvHead _ => q.failure call
  | .user _, ⟨.loop (.wait call), _, _, _, _⟩ :: _, .ret .. => q.failure call
  | _, _, _ => []

namespace Session
variable {A : Type} (s : Session A)

/-- The event of an act, and what is left to read then. No send fails, and what is read is what was sent. A read
    that finds a word of another kind is no step. -/
def event (side : ConnectionType) (act : Act A) : Option (Event A × List (Word A)) :=
  match act, (s.party side).ctl, s.incoming side with
  | .invoke method values, _, ws => some (.invoke ⟨side, s.steps⟩ method values (.ok ()), ws)
  | .waitForReply, _, ws => some (.waitForReply, ws)
  | .dispatch, _, .marker tag :: ws => some (.dispatch (.ok tag) (.ok ()), ws)
  | .dispatchPendingSync, _, ws => some (.dispatchPendingSync (!ws.isEmpty) (.ok ()), ws)
  | .sync, _, ws => some (.sync (.ok ()), ws)
  | .endSync, _, ws => some (.endSync (.ok ()), ws)
  | .getArgs, _, ws => some (.getArgs, ws)
  | .sendReply values, _, ws => some (.sendReply values (.ok ()), ws)
  | .ret code, _, ws => some (.ret code (.ok ()), ws)
  | .read, .marker _, .marker tag :: ws => some (.recvMarker (.ok tag), ws)
  | .read, .head _, .head call method :: ws => some (.recvHead (.ok (call, method)), ws)
  | .read, .args, .args _ values :: ws => some (.recvArgs (.ok values), ws)
  | .read, .body _, .body _ values :: ws => some (.recvBody (.ok values), ws)
  | _, _, _ => none

/-- The session once `side` has become `p`, with `rest` still to read and `words` sent. -/
def after (side : ConnectionType) (p : Party) (rest words : List (Word A)) (entries : List (Entry A)) : Session A where
  party := Function.update s.party side p
  incoming := Function.update (Function.update s.incoming side rest) side.other (s.incoming side.other ++ words)
  steps := s.steps + 1
  log := s.log ++ entries.map (side, ·)

def step (side : ConnectionType) (act : Act A) : Option (Session A) :=
  match s.event side act with
  | none => none
  | some (e, rest) =>
    match (s.party side).step e with
    | none => none
    | some (p, words) => some (s.after side p rest words ((s.party side).entries e p))

/-- Two new ends and empty channels. -/
structure Opened : Prop where
  party : ∀ side, (partyMachine A).init (s.party side) ∧ (s.party side).conn.type = side
  incoming : ∀ side, s.incoming side = []
  steps : s.steps = 0
  log : s.log = []

/-! ### Conforming ends -/

/-- A call the other end has a handler for. The wrapper asks whether it is possible first. -/
def MayInvoke (side : ConnectionType) (method : Int32) : Prop :=
  (s.party side.other).methods.has method = true ∧
  (side = .client → (s.party side).conn.rpcMethodInvokePossible = true)

/-- What user code may do: a handler reads its arguments, may call back, replies and returns. The viewer's event
    loop dispatches or asks for a SYNC; between `rpc_sync` and `rpc_end_sync` it calls. The wrapper calls from
    its event loop, which any of its user code may run. -/
def Conforms (side : ConnectionType) (act : Act A) : Prop :=
  match (s.party side).ctl, (s.party side).stack with
  | .user _, f :: _ =>
    match f.phase, act with
    | .fresh, .getArgs => True
    | .args, .invoke method _ => s.MayInvoke side method
    | .args, .sendReply _ => True
    | .args, .dispatch | .args, .dispatchPendingSync => side = .client
    | .replied, .ret code => code = RpcError.noError
    | _, _ => False
  | .user _, [] =>
    match side, act with
    | .server, .invoke method _ => (s.party side).conn.isSync = true ∧ s.MayInvoke side method
    | .server, .endSync => (s.party side).conn.isSync = true
    | .server, .sync | .server, .dispatch => (s.party side).conn.isSync = false
    | .client, .invoke method _ => s.MayInvoke side method
    | .client, .dispatch | .client, .dispatchPendingSync => True
    | _, _ => False
  | _, _ => True

/-- User code runs: the viewer's is a handler before its reply, or between `rpc_sync` and `rpc_end_sync`. -/
def Running (side : ConnectionType) : Prop :=
  match (s.party side).ctl, (s.party side).stack with
  | .user _, f :: _ => f.phase ≠ .replied
  | .user _, [] => side = .client ∨ (s.party side).conn.isSync = true
  | _, _ => False

/-- An end is in a read. -/
def Reading (side : ConnectionType) : Prop :=
  match (s.party side).ctl with
  | .marker _ | .head _ | .args | .body _ => True
  | _ => False

/-- What is logged of a call. -/
def history (call : Call) : List (ConnectionType × Entry A) :=
  s.log.filter fun x => decide (x.2.call = call)

end Session

/-- Two ends with whatever their user code does. -/
def sessionMachine (A : Type) : Lib.Machine (Session A) (ConnectionType × Act A) where
  init := Session.Opened
  step s x t := s.step x.1 x.2 = some t

/-- Two conforming ends. -/
def conformingSession (A : Type) : Lib.Machine (Session A) (ConnectionType × Act A) :=
  (sessionMachine A).restrict fun s x => s.Conforms x.1 x.2

/-! ### Ends that send no SYNC -/

/-- A call the other end has a handler for, where `rpc_method_invoke_possible` allows it. -/
def Session.MayCall {A : Type} (s : Session A) (side : ConnectionType) (method : Int32) : Prop :=
  (s.party side.other).methods.has method = true ∧ (s.party side).conn.rpcMethodInvokePossible = true

/-- What the user code of either end does without a SYNC: its event loop calls and dispatches, and a handler reads
    its arguments, may call back and replies once. -/
def Session.Gated {A : Type} (s : Session A) (side : ConnectionType) (act : Act A) : Prop :=
  match (s.party side).ctl, (s.party side).stack with
  | .user _, f :: _ =>
    match f.phase, act with
    | .fresh, .getArgs => True
    | .args, .invoke method _ => s.MayCall side method
    | .args, .sendReply _ => True
    | .replied, .ret code => code = RpcError.noError
    | _, _ => False
  | .user _, [] =>
    match act with
    | .invoke method _ => s.MayCall side method
    | .dispatch => True
    | _ => False
  | _, _ => True

/-- Two ends that call as soon as `rpc_method_invoke_possible` allows it. -/
def gatedSession (A : Type) : Lib.Machine (Session A) (ConnectionType × Act A) :=
  (sessionMachine A).restrict fun s x => s.Gated x.1 x.2

/-! ### A viewer that dies -/

/-- What the wrapper does next once the viewer is gone: it reads what had arrived and then `error`, a send comes to
    `sent`, and a poll always finds the end of the stream. -/
def Session.orphan {A : Type} (s : Session A) (act : Act A) (sent : Sent) (error : Err) : Option (Event A × List (Word A)) :=
  match act, (s.party .client).ctl, s.incoming .client with
  | .invoke method values, _, ws => some (.invoke ⟨.client, s.steps⟩ method values sent, ws)
  | .waitForReply, _, ws => some (.waitForReply, ws)
  | .dispatch, _, .marker tag :: ws => some (.dispatch (.ok tag) sent, ws)
  | .dispatch, _, [] => some (.dispatch (.error error) sent, [])
  | .dispatchPendingSync, _, ws => some (.dispatchPendingSync true sent, ws)
  | .getArgs, _, ws => some (.getArgs, ws)
  | .sendReply values, _, ws => some (.sendReply values sent, ws)
  | .ret code, _, ws => some (.ret code sent, ws)
  | .read, .marker _, .marker tag :: ws => some (.recvMarker (.ok tag), ws)
  | .read, .marker _, [] => some (.recvMarker (.error error), [])
  | .read, .head _, .head call method :: ws => some (.recvHead (.ok (call, method)), ws)
  | .read, .head _, [] => some (.recvHead (.error error), [])
  | .read, .args, .args _ values :: ws => some (.recvArgs (.ok values), ws)
  | .read, .args, [] => some (.recvArgs (.error error), [])
  | .read, .body _, .body _ values :: ws => some (.recvBody (.ok values), ws)
  | .read, .body _, [] => some (.recvBody (.error error), [])
  | _, _, _ => none

/-- A session whose viewer may have closed its socket. -/
structure Mortal (A : Type) where
  session : Session A
  dead : Bool

/-- A step of a live session, the death of the viewer when only `arrived` of its words got through, or a step of the
    wrapper after it. -/
inductive MortalAct (A : Type) where
  | live (side : ConnectionType) (act : Act A)
  | die (arrived : Nat)
  | survive (act : Act A) (sent : Sent) (error : Err)

namespace Mortal
variable {A : Type} (m : Mortal A)

def step : MortalAct A → Option (Mortal A)
  | .live side act => if m.dead then none else (m.session.step side act).map fun s => { m with session := s }
  | .die arrived =>
    if m.dead then none
    else some { session := { m.session with
                              incoming := Function.update m.session.incoming .client
                                ((m.session.incoming .client).take arrived) }
                dead := true }
  | .survive act sent error =>
    if m.dead then do
      let (e, rest) ← m.session.orphan act sent error
      let (p, words) ← (m.session.party .client).step e
      pure { m with session := m.session.after .client p rest words ((m.session.party .client).entries e p) }
    else none

/-- Both ends conform as long as both live; what the wrapper does afterwards is left open. -/
def Conforms : MortalAct A → Prop
  | .live side act => m.session.Conforms side act
  | _ => True

/-- What the assertion of `rpc_dispatch_pending_sync` polls. -/
def Readable : Prop := m.dead = true ∨ m.session.incoming .client ≠ []

end Mortal

/-- Two conforming ends until the viewer dies. -/
def mortalSession (A : Type) : Lib.Machine (Mortal A) (MortalAct A) where
  init m := m.session.Opened ∧ m.dead = false
  step m x t := m.Conforms x ∧ m.step x = some t

end NSPluginWrapper
