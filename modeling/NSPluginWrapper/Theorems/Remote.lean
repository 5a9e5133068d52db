import NSPluginWrapper.Rpc.Remote
import NSPluginWrapper.Theorems.Dispatch

/-! One remote call is the run of its function, whatever the function calls back: what comes across is what either end
    takes, and both ends are left as they were. -/

namespace NSPluginWrapper
open Lib

variable {V : Type} {types types' : TypeMap V}

/-! ### Arguments -/

/-- Arguments that one end sends, with what the other end wants of them and gets. -/
inductive ArgsArrive (types types' : TypeMap V) : List (Arg V) → List ArgType → List (Arg V) → Prop where
  | nil : ArgsArrive types types' [] [] []
  | cons {arg got : Arg V} {expected : ArgType} {args gots : List (Arg V)} {rest : List ArgType}
      (h : Exchanged (sendArg types arg) (recvArg types' expected) got) (hrest : ArgsArrive types types' args rest gots) :
      ArgsArrive types types' (arg :: args) (expected :: rest) (got :: gots)

theorem ArgsArrive.each {args gots : List (Arg V)} {expected : List ArgType} (h : ArgsArrive types types' args expected gots) :
    Exchanged (sendEach types args) (recvEach types' expected) gots := by
  induction h with
  | nil => exact .pure []
  | cons h hrest ih => exact h.bind (ih.map (List.cons _))

theorem ArgsArrive.exchanged {args gots : List (Arg V)} {expected : List ArgType} (h : ArgsArrive types types' args expected gots) :
    Exchanged (rpcMessageSendArgs types args) (rpcMessageRecvArgs types' expected) gots := by
  rw [rpcMessageSendArgs, rpcMessageRecvArgs]
  cases h with
  | nil => exact .pure []
  | cons h hrest =>
    refine .bind (marker_exchanged _) ?_
    refine .bind (ArgsArrive.cons h hrest).each ?_
    exact (marker_exchanged _).map fun _ => _

/-- A reply that is sent with some arguments is waited for with others. -/
theorem ArgsArrive.reply {args gots : List (Arg V)} {expected : List ArgType} (h : ArgsArrive types types' args expected gots) :
    ∃ bs, (∀ c m, c.status ≠ .closed → OutMessage.Live m → ∃ t,
        rpcMethodSendReply types args c m = some (.ok (), c.touch.lowerHandle, t) ∧ t.Live ∧ t.sent = m.sent ++ bs) ∧
      ∀ dispatch fuel c m rest, c.status ≠ .closed → InMessage.Live m → m.held = bs ++ rest → ∃ t,
        rpcMethodWaitForReply types' dispatch (fuel + 1) expected c m = some (.ok gots, c.touch.lowerInvoke, t) ∧
          t.Live ∧ t.held = rest := by
  obtain ⟨bs, hw, hr⟩ := h.exchanged
  refine ⟨be32 RpcMessage.reply.toUInt32 ++ (bs ++ be32 RpcMessage.finish.toUInt32), fun c m hc hm => ?_, ?_⟩
  · obtain ⟨t, ht, htl, -, hsent⟩ := replyMessage_sent hw hm
    refine ⟨t, ?_, htl, hsent⟩
    simp only [rpcMethodSendReply, if_neg hc, routed, ht, Option.map_some]
  · intro dispatch fuel c m rest hc hm hheld
    rw [List.append_assoc] at hheld
    obtain ⟨t, ht, htl, hrest⟩ := (int32_delivers RpcMessage.reply).reads m _ hm hheld
    obtain ⟨u, hu, hul, hrest'⟩ := replyBody_reads hr t rest htl hrest
    refine ⟨u, ?_, hul, hrest'⟩
    have hdone : tagAction c.touch RpcMessage.reply RpcMessage.reply = .done := if_pos rfl
    simp only [rpcMethodWaitForReply, if_neg hc, rpcMethodWaitForReplyValist, rpcDispatchUntil, ht, hdone, routed, hu,
      Option.map_some]

/-! ### Ends -/

/-- A connection that is up, on which a call is possible. -/
structure Connection.Calm (c : Connection) : Prop where
  status : c.status = .active
  refcnt : 0 < c.refcnt
  depth : c.dispatchDepth = c.handleDepth

/-- The connection while the handler of a call runs, and while a call is waited for. -/
def Connection.handling (c : Connection) : Connection := c.raiseDispatch.raiseHandle

section
variable {c : Connection} (h : c.Calm)
include h

theorem Connection.Calm.possible : c.rpcMethodInvokePossible = true := by
  rw [Connection.rpcMethodInvokePossible, h.status, h.depth]
  simp

theorem Connection.Calm.open : c.status ≠ .closed := by
  rw [h.status]
  simp

theorem Connection.Calm.raiseInvoke : c.raiseInvoke.Calm :=
  ⟨h.status, h.refcnt, h.depth⟩

theorem Connection.Calm.handling : c.handling.Calm := by
  refine ⟨h.status, h.refcnt, ?_⟩
  change c.dispatchDepth + 1 = c.handleDepth + 1
  rw [h.depth]

theorem Connection.Calm.waited : c.raiseInvoke.touch.lowerInvoke = c := by
  have hne : (c.refcnt == 0) = false := by simpa using Nat.ne_of_gt h.refcnt
  simp only [Connection.raiseInvoke, lowerInvoke, touch, hne, Bool.or_false, Int.add_sub_cancel]

theorem Connection.Calm.handled : c.handling.touch.lowerHandle.lowerDispatch = c := by
  have hne : (c.refcnt == 0) = false := by simpa using Nat.ne_of_gt h.refcnt
  simp only [Connection.handling, raiseDispatch, raiseHandle, lowerHandle, lowerDispatch, touch, hne, Bool.or_false,
    Int.add_sub_cancel]

end

/-- An end with nothing on its sockets. -/
structure Endpoint.Quiet {σ : Type} (e : Endpoint σ) (c : Connection) : Prop where
  conn : e.conn = c
  incoming : e.incoming.Live
  held : e.incoming.held = []
  outgoing : e.outgoing.Live
  sent : e.outgoing.sent = []

/-- An end whose process is in the first state, and the other one with its own. -/
structure Wire.Ready {W : Type} (c : Connection × Connection) (w : W × W) (e : Wire W) : Prop where
  near : e.Quiet c.1
  far : e.user.2.Quiet c.2
  world : e.user.1 = w.1
  farWorld : e.user.2.user = w.2
  calm : c.1.Calm
  farCalm : c.2.Calm

/-- Everything that is sent arrives. -/
def Kernel.Delivers (kernel : Kernel) : Prop :=
  ∀ bs m, InMessage.Live m → (kernel bs m).Live ∧ (kernel bs m).held = m.held ++ bs

theorem Wire.Ready.setWorld {W : Type} {c : Connection × Connection} {w : W × W} {e : Wire W} (h : Wire.Ready c w e) (v : W) :
    Wire.Ready c (v, w.2) (e.setWorld v) :=
  ⟨⟨h.near.conn, h.near.incoming, h.near.held, h.near.outgoing, h.near.sent⟩, h.far, rfl, h.farWorld, h.calm, h.farCalm⟩

/-! ### A call -/

variable {P R W : Type} {f : RemoteFunction V P R} {kernel : Kernel} {methods : Methods (W × Endpoint W)} {p p' : P} {r r' : R}

/-- A request that arrives, with the parameters that the handler makes of it. -/
def RemoteFunction.Requests (f : RemoteFunction V P R) (types types' : TypeMap V) (p p' : P) : Prop :=
  ∃ gots, ArgsArrive types types' (f.invoked p) f.expected gots ∧ f.received gots = some p'

/-- A reply that arrives, with the result that the caller makes of it. -/
def RemoteFunction.Replies (f : RemoteFunction V P R) (types types' : TypeMap V) (p p' : P) (r r' : R) : Prop :=
  ∃ gots, ArgsArrive types' types (f.reply p' r) (f.awaited p) gots ∧ f.answer p gots = some r'

/-- The handler of a request that has come reads it, runs the function and replies. -/
theorem handle_ok {σ : Type} {serve : P → Endpoint σ → Option (R × Endpoint σ)} {bs rs : List UInt8} {gots : List (Arg V)}
    {c : Connection} (hargs : Reads InMessage.source (rpcMessageRecvArgs types' f.expected) bs gots)
    (hreceived : f.received gots = some p')
    (hreply : ∀ c m, c.status ≠ .closed → OutMessage.Live m → ∃ t,
      rpcMethodSendReply types' (f.reply p' r) c m = some (.ok (), c.touch.lowerHandle, t) ∧ t.Live ∧ t.sent = m.sent ++ rs)
    (hc : c.Calm) {after : Endpoint σ → Prop} {e : Endpoint σ} (hconn : e.conn = c.raiseDispatch) (hin : e.incoming.Live)
    (hheld : e.incoming.held = bs)
    (hserve : ∀ t, t.Live → t.held = [] → ∃ e', serve p' { e with conn := c.handling, incoming := t } = some (r, e') ∧
      e'.Quiet c.handling ∧ after e') :
    ∃ e', after e' ∧ e'.Quiet c.handling ∧ ∃ t : OutMessage, t.Live ∧ t.sent = rs ∧
      f.handle types' serve e = some (0, { e' with conn := c.handling.touch.lowerHandle, outgoing := t }) := by
  have hopen : e.conn.status ≠ .closed := by
    rw [hconn]
    exact hc.open
  rw [← List.append_nil bs] at hheld
  obtain ⟨t, ht, htl, hrest⟩ := hargs e.incoming [] hin hheld
  obtain ⟨e', hserved, hquiet, hafter⟩ := hserve t htl hrest
  obtain ⟨u, hu, hul, hsent⟩ := hreply c.handling e'.outgoing hc.handling.open hquiet.outgoing
  refine ⟨e', hafter, hquiet, u, hul, by rw [hsent, hquiet.sent, List.nil_append], ?_⟩
  have hget : rpcMethodGetArgs types' f.expected e.conn e.incoming = some (.ok gots, c.handling, t) := by
    simp only [rpcMethodGetArgs, if_neg hopen, routed, ht]
    rw [hconn, Connection.handling]
  simp only [RemoteFunction.handle, Endpoint.receives, hget, Option.map_some, hreceived, Option.bind_some, hserved,
    Endpoint.sends, hquiet.conn, hu, errorCode]

/-- The caller gets what the function returned, and both ends are as they were. -/
theorem call_ok {serve : P → Wire W → Option (R × Wire W)} (hkernel : kernel.Delivers)
    (hrequest : f.Requests types types' p p') (hreply : f.Replies types types' p p' r r') (hpositive : 0 ≤ f.method.toInt)
    (hmethod : methods f.method = some (f.handle types' serve)) {c : Connection × Connection} {w w₁ : W × W} {e : Wire W}
    (h : Wire.Ready c w e)
    (hserve : ∀ t, Wire.Ready (c.2.handling, c.1.raiseInvoke) w.swap t → ∃ t', serve p' t = some (r, t') ∧
      Wire.Ready (c.2.handling, c.1.raiseInvoke) w₁ t') :
    ∃ e', f.call types kernel methods p e = some (r', e') ∧ Wire.Ready c w₁.swap e' := by
  obtain ⟨gots, harrive, hreceived⟩ := hrequest
  obtain ⟨answers, hback, hanswer⟩ := hreply
  obtain ⟨bs, hw, hr⟩ := harrive.exchanged
  obtain ⟨rs, hsend, hwait⟩ := hback.reply
  have hpossible : e.conn.rpcMethodInvokePossible = true := h.near.conn ▸ h.calm.possible
  -- the request goes out
  obtain ⟨t, ht, htl, hsent⟩ := rpcMethodInvoke_sent hw f.method h.calm.open h.near.outgoing
  rw [h.near.sent, List.nil_append] at hsent
  have hinvoke : e.sends (rpcMethodInvoke types f.method (f.invoked p)) =
      some (.ok (), { e with conn := c.1.raiseInvoke, outgoing := t }) := by
    rw [Endpoint.sends, h.near.conn, ht]
    rfl
  -- the other end runs the handler
  obtain ⟨hin, hheld⟩ := hkernel t.sent e.user.2.incoming h.far.incoming
  replace hheld := hheld.trans (congrArg₂ (· ++ ·) h.far.held hsent)
  have hround : ∃ e', rpcDispatchRound methods RpcMessage.reply
        (Wire.swap (Wire.carry kernel { e with conn := c.1.raiseInvoke, outgoing := t })) =
          some (.again, { e' with conn := e'.conn.lowerDispatch }) ∧
      ∃ (e₂ : Wire W) (u : OutMessage), Wire.Ready (c.2.handling, c.1.raiseInvoke) w₁ e₂ ∧ u.Live ∧ u.sent = rs ∧
        e' = { e₂ with conn := c.2.handling.touch.lowerHandle, outgoing := u } := by
    refine rpcDispatchRound_ok (by decide) hmethod hpositive _ hin hheld fun m hml hmheld => ?_
    let far := Wire.swap (Wire.carry kernel { e with conn := c.1.raiseInvoke, outgoing := t })
    have hstart (u : InMessage) (hul : u.Live) (hu : u.held = []) :
        Wire.Ready (c.2.handling, c.1.raiseInvoke) w.swap { far with conn := c.2.handling, incoming := u } :=
      ⟨⟨rfl, hul, hu, h.far.outgoing, h.far.sent⟩, ⟨rfl, h.near.incoming, h.near.held, htl, rfl⟩, h.farWorld, h.world,
        h.farCalm.handling, h.calm.raiseInvoke⟩
    obtain ⟨e₂, hready, -, u, hul, hus, hrun⟩ := @handle_ok V types' P R f p' r _ serve bs rs gots c.2 hr hreceived hsend
      h.farCalm (fun e' => Wire.Ready (c.2.handling, c.1.raiseInvoke) w₁ e')
      { far with incoming := m, conn := far.conn.raiseDispatch } (congrArg Connection.raiseDispatch h.far.conn) hml hmheld fun u hul hu => by
        obtain ⟨e₂, hrun, hready⟩ := hserve _ (hstart u hul hu)
        exact ⟨e₂, hrun, hready.near, hready⟩
    exact ⟨_, hrun, e₂, u, hready, hul, hus, rfl⟩
  obtain ⟨_, hround, e₂, u, hready, hul, hus, rfl⟩ := hround
  -- the reply comes back
  obtain ⟨hback, hbackheld⟩ := hkernel u.sent e₂.user.2.incoming hready.far.incoming
  replace hbackheld := hbackheld.trans (congrArg₂ (· ++ ·) hready.far.held hus)
  obtain ⟨v, hv, hvl, hvheld⟩ := hwait (fun _ _ => none) 0 c.1.raiseInvoke _ [] h.calm.raiseInvoke.open hback
    (hbackheld.trans (List.append_nil rs).symm)
  have hlast : (Wire.swap (Wire.carry kernel { e₂ with conn := c.2.handling.touch.lowerHandle.lowerDispatch, outgoing := u })).receives
      (rpcMethodWaitForReply types (fun _ _ => none) 1 (f.awaited p)) =
        some (.ok answers, ⟨c.1, v, e₂.user.2.outgoing, (e₂.user.2.user, ⟨c.2, e₂.incoming, { u with sent := [] }, e₂.user.1⟩)⟩) := by
    rw [Endpoint.receives]
    simp only [Wire.swap, Wire.carry, hready.far.conn, hv, Option.map_some, h.calm.waited, h.farCalm.handled]
  refine ⟨⟨c.1, v, e₂.user.2.outgoing, (e₂.user.2.user, ⟨c.2, e₂.incoming, { u with sent := [] }, e₂.user.1⟩)⟩, ?_, ?_⟩
  · simp only [RemoteFunction.call, hpossible, if_true, hinvoke, hround, hlast, hanswer, Option.map_some]
  · exact ⟨⟨rfl, hvl, hvheld, hready.far.outgoing, hready.far.sent⟩, ⟨rfl, hready.near.incoming, hready.near.held, hul, rfl⟩,
      hready.farWorld, hready.world, h.calm, h.farCalm⟩

/-! ### Runs -/

/-- The methods of both ends lead to their functions, and what these take and return comes across as it is told. -/
structure CarriedBy (remotes : ConnectionType → Remotes V) (types : ConnectionType → TypeMap V)
    (convention : (side : ConnectionType) → Convention (remotes side).toInterface) : Prop where
  positive : ∀ side op, 0 ≤ ((remotes side).remote op).method.toInt
  found : ∀ side op, (remotes side).find ((remotes side).remote op).method = some op
  requests : ∀ side op p, (convention side).gate op p = none → (convention side).Permits op p →
    ((remotes side).remote op).Requests (types side.other) (types side) p ((convention side).seen op p)
  replies : ∀ side op p r, (convention side).gate op p = none → (convention side).Permits op p → (convention side).Returns op p r →
    ((remotes side).remote op).Replies (types side.other) (types side) p ((convention side).seen op p) r ((convention side).got op p r)

/-- A run in which functions are called directly is a run over the wire, which leaves both ends as they were. -/
theorem runs_over_wire {remotes : ConnectionType → Remotes V} {types : ConnectionType → TypeMap V}
    {convention : (side : ConnectionType) → Convention (remotes side).toInterface}
    {body : (side : ConnectionType) → (op : (remotes side).Op) → (remotes side).Params op →
      Program (remotes side.other).toInterface W ((remotes side).Result op)}
    (h : CarriedBy remotes types convention) (hkernel : kernel.Delivers) {side : ConnectionType} {α : Type}
    {program : Program (remotes side.other).toInterface W α} {w w' : W × W} {a : α}
    (hrun : @Runs ConnectionType W ConnectionType.other (fun side => (remotes side).toInterface) convention body side α program w a w') :
    Simulated Wire.Ready Wire.world Wire.setWorld
      (fun n => wireCall remotes types kernel (fun side => (convention side).gate) body n side) program w a w' := by
  refine hrun.simulated (fun c w e he => he.world) (fun c w e v he => he.setWorld v) (fun n side op p r e hgate => ?_) ?_
  · dsimp only [wireCall]
    rw [hgate]
  · intro side op p r w w₁ hgate hpermits hreturns ⟨n, hn⟩
    refine ⟨n + 1, fun m hm c e he => ?_⟩
    obtain ⟨m, rfl⟩ := Nat.exists_eq_add_of_le' (Nat.le_trans (Nat.le_add_left 1 n) hm)
    have hother : side.other.other = side := by cases side <;> rfl
    have hrequests := h.requests side.other op p hgate hpermits
    have hreplies := h.replies side.other op p r hgate hpermits hreturns
    rw [hother] at hrequests hreplies
    let serve := fun op p => (body side.other op p).run Wire.world Wire.setWorld
      (wireCall remotes types kernel (fun side => (convention side).gate) body m side.other)
    have hmethod : (remotes side.other).methods (types side.other) serve ((remotes side.other).remote op).method =
        some (((remotes side.other).remote op).handle (types side.other) (serve op)) := by
      rw [Remotes.methods, h.found side.other op]
      rfl
    dsimp only [wireCall]
    rw [hgate]
    exact call_ok hkernel hrequests hreplies (h.positive side.other op) hmethod he fun t ht =>
      hn m (Nat.le_of_succ_le_succ hm) (c.2.handling, c.1.raiseInvoke) t ht

end NSPluginWrapper
