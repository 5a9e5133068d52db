import NSPluginWrapper.Rpc.Dispatch
import NSPluginWrapper.Theorems.Calls
import NSPluginWrapper.Theorems.Connection

/-! Calls come across: what `rpc_method_invoke` puts on the socket makes the other end run the method's
    handler, on the arguments that follow, and the handler's outcome decides how the round ends. -/

namespace NSPluginWrapper
open Lib

variable {V σ : Type}

/-- An error code, below zero as every one is. -/
def Failure.Negative : Failure → Prop
  | .error code => code < 0
  | .fault => False

theorem Failure.negative {code : Int} (h : code < 0) : (Failure.error code).Negative := h

/-! ### The message of a call -/

/-- MESSAGE_START method MESSAGE_END. -/
def callHeader (method : Int32) : List UInt8 :=
  be32 RpcMessage.start.toUInt32 ++ (be32 method.toUInt32 ++ be32 RpcMessage.finish.toUInt32)

/-- The header is on the socket before the arguments are looked at. -/
theorem invokeMessage_header (types : TypeMap V) (method : Int32) (args : List (Arg V)) {m : OutMessage} (hm : m.Live) :
    ∃ t, t.Live ∧ t.buffer = [] ∧ t.sent = m.sent ++ callHeader method ∧
      invokeMessage types method args (rpcMessageInit m) =
        (if args.isEmpty then pure () else do rpcMessageSendArgs types args; rpcMessageFlush) t := by
  obtain ⟨t₁, h₁, hl₁, hstart⟩ := (int32_delivers RpcMessage.start).writes (rpcMessageInit m) hm
  obtain ⟨t₂, h₂, hl₂, hmethod⟩ := (int32_delivers method).writes t₁ hl₁
  obtain ⟨t₃, h₃, hl₃, hfinish⟩ := (int32_delivers RpcMessage.finish).writes t₂ hl₂
  obtain ⟨t, ht, hl, hsent, hbuf⟩ := rpcMessageFlush_live hl₃
  refine ⟨t, hl, hbuf, ?_, by simp only [invokeMessage, bind, EStateM.bind, h₁, h₂, h₃, ht]⟩
  have hinit : OutMessage.sink.taken (rpcMessageInit m) = m.sent := List.append_nil _
  rw [hmethod, hstart, hinit] at hfinish
  rw [hsent, callHeader, ← List.append_assoc, ← List.append_assoc]
  exact hfinish

/-- The message is on the socket when its sender is done. -/
theorem invokeMessage_sent {types : TypeMap V} {args : List (Arg V)} {bs : List UInt8}
    (hargs : Writes OutMessage.sink (rpcMessageSendArgs types args) bs ()) (method : Int32) {m : OutMessage}
    (hm : m.Live) : ∃ t, invokeMessage types method args (rpcMessageInit m) = .ok () t ∧ t.Live ∧
      t.sent = m.sent ++ (callHeader method ++ bs) := by
  obtain ⟨t, hl, hbuf, hheader, hrun⟩ := invokeMessage_header types method args hm
  by_cases hargs' : args.isEmpty
  · have hnil : bs = [] := by
      rw [rpcMessageSendArgs, if_pos hargs'] at hargs
      exact hargs.unique (.pure ()) hl
    refine ⟨t, ?_, hl, by rw [hheader, hnil, List.append_nil]⟩
    rw [hrun, if_pos hargs']
    rfl
  · obtain ⟨u, hu, hul, hbs⟩ := hargs t hl
    obtain ⟨v, hv, hvl, hsent, -⟩ := rpcMessageFlush_live hul
    have htaken : u.taken = t.sent ++ bs := by
      have h : OutMessage.sink.taken t = t.sent := by
        change t.sent ++ t.buffer = t.sent
        rw [hbuf, List.append_nil]
      rw [← h]
      exact hbs
    refine ⟨v, ?_, hvl, by rw [hsent, htaken, hheader, List.append_assoc]⟩
    rw [hrun, if_neg hargs']
    simp only [bind, EStateM.bind, hu, hv]

theorem rpcMethodInvoke_sent {types : TypeMap V} {args : List (Arg V)} {bs : List UInt8}
    (hargs : Writes OutMessage.sink (rpcMessageSendArgs types args) bs ()) (method : Int32) {c : Connection}
    (hc : c.status ≠ .closed) {m : OutMessage} (hm : m.Live) :
    ∃ t, rpcMethodInvoke types method args c m = some (.ok (), c.raiseInvoke, t) ∧ t.Live ∧
      t.sent = m.sent ++ (callHeader method ++ bs) := by
  obtain ⟨t, ht, htl, hsent⟩ := invokeMessage_sent hargs method hm
  exact ⟨t, by simp only [rpcMethodInvoke, if_neg hc, routed, ht], htl, hsent⟩

/-! ### The round that meets it -/

theorem recvMethod_reads (method : Int32) : Reads InMessage.source recvMethod
    (be32 method.toUInt32 ++ be32 RpcMessage.finish.toUInt32) method := by
  refine (int32_delivers method).reads.bind ((int32_delivers _).reads.bind_pure ?_)
  rw [if_neg (not_not_intro rfl)]
  exact .pure method

theorem unrouted_reads {α : Type} {r : Recv α} {bs rest : List UInt8} {a : α} (hr : Reads InMessage.source r bs a)
    (e : Endpoint σ) (he : e.incoming.Live) (hheld : e.incoming.held = bs ++ rest) :
    ∃ t, e.receives (unrouted r) = some (.ok a, { e with incoming := t }) ∧ t.Live ∧ t.held = rest := by
  obtain ⟨t, ht, htl, hrest⟩ := hr e.incoming rest he hheld
  exact ⟨t, by simp only [Endpoint.receives, unrouted, ht, Option.map_some], htl, hrest⟩

/-- What becomes of a handler's outcome. -/
def afterCallback (method : Int32) : Int × Endpoint σ → Option (Int × Endpoint σ)
  | (error, e) => if error = RpcError.noError then some (method.toInt, e) else relay error e

/-- The round of `_rpc_dispatch_until` for a call is the run of its handler. -/
theorem rpcDispatchRound_call {methods : Methods σ} {expected method : Int32} {handler : MethodCallback σ}
    (hexpected : RpcMessage.start ≠ expected) (hhandler : methods method = some handler) (e : Endpoint σ)
    {rest : List UInt8} (he : e.incoming.Live) (hheld : e.incoming.held = callHeader method ++ rest) :
    ∃ t : InMessage, t.Live ∧ t.held = rest ∧ rpcDispatchRound methods expected e =
      ((handler { e with incoming := t, conn := e.conn.raiseDispatch }).bind (afterCallback method)).map fun (ret, e) =>
        (if ret < 0 then .failed ret else .again, { e with conn := e.conn.lowerDispatch }) := by
  rw [callHeader, List.append_assoc] at hheld
  obtain ⟨t₁, h₁, hl₁, hrest₁⟩ := unrouted_reads (int32_delivers RpcMessage.start).reads e he hheld
  obtain ⟨t₂, h₂, hl₂, hrest₂⟩ := unrouted_reads (recvMethod_reads method)
    { e with incoming := t₁, conn := e.conn.raiseDispatch } hl₁ hrest₁
  have haction : tagAction e.conn expected RpcMessage.start = .dispatch := by
    rw [tagAction, if_neg hexpected]
    rfl
  refine ⟨t₂, hl₂, hrest₂, ?_⟩
  simp only [rpcDispatchRound, h₁, haction, rpcDispatchCall, rpcDispatch1, h₂, callback, hhandler, Option.map_map]
  cases handler { e with incoming := t₂, conn := e.conn.raiseDispatch } with
  | none => rfl
  | some result => rfl

/-- A handler that succeeds leaves the loop going. -/
theorem rpcDispatchRound_ok {methods : Methods σ} {expected method : Int32} {handler : MethodCallback σ}
    (hexpected : RpcMessage.start ≠ expected) (hhandler : methods method = some handler)
    (hmethod : 0 ≤ method.toInt) (e : Endpoint σ) {rest : List UInt8} (he : e.incoming.Live)
    (hheld : e.incoming.held = callHeader method ++ rest) {after : Endpoint σ → Prop}
    (h : ∀ t : InMessage, t.Live → t.held = rest → ∃ e',
      handler { e with incoming := t, conn := e.conn.raiseDispatch } = some (0, e') ∧ after e') :
    ∃ e', rpcDispatchRound methods expected e = some (.again, { e' with conn := e'.conn.lowerDispatch }) ∧
      after e' := by
  obtain ⟨t, htl, hrest, hround⟩ := rpcDispatchRound_call hexpected hhandler e he hheld
  obtain ⟨e', hrun, hafter⟩ := h t htl hrest
  refine ⟨e', ?_, hafter⟩
  simp only [hround, hrun, Option.bind_some, afterCallback, if_true, Option.map_some,
    if_neg (Int.not_lt.mpr hmethod)]

theorem failureMessage_sent (code : Int) {m : OutMessage} (hm : m.Live) :
    ∃ t, failureMessage code (rpcMessageInit m) = .ok () t := by
  obtain ⟨t₁, h₁, hl₁, -⟩ := (int32_delivers RpcMessage.failure).writes (rpcMessageInit m) hm
  obtain ⟨t₂, h₂, hl₂, -⟩ := (int32_delivers (Int32.ofInt code)).writes t₁ hl₁
  obtain ⟨t, ht, -⟩ := rpcMessageFlush_live hl₂
  exact ⟨t, by simp only [failureMessage, bind, EStateM.bind, h₁, h₂, ht]⟩

/-- The caller is told, and the handler's code is what dispatch returns. -/
theorem relay_live (code : Int) (e : Endpoint σ) (he : e.outgoing.Live) : ∃ e', relay code e = some (code, e') := by
  unfold relay
  split
  · obtain ⟨t, ht⟩ := failureMessage_sent code he
    exact ⟨{ e with outgoing := t }, by simp only [Endpoint.sends, unrouted, ht, Option.map_some]⟩
  · exact ⟨e, rfl⟩

/-- A handler that fails ends the loop. -/
theorem rpcDispatchRound_failed {methods : Methods σ} {expected method : Int32} {handler : MethodCallback σ}
    (hexpected : RpcMessage.start ≠ expected) (hhandler : methods method = some handler) (e : Endpoint σ)
    {rest : List UInt8} (he : e.incoming.Live) (hheld : e.incoming.held = callHeader method ++ rest)
    (h : ∀ t : InMessage, t.Live → t.held = rest → ∃ error e', error < 0 ∧ e'.outgoing.Live ∧
      handler { e with incoming := t, conn := e.conn.raiseDispatch } = some (error, e')) :
    ∃ error e', rpcDispatchRound methods expected e = some (.failed error, e') := by
  obtain ⟨t, htl, hrest, hround⟩ := rpcDispatchRound_call hexpected hhandler e he hheld
  obtain ⟨error, e', herror, hout, hrun⟩ := h t htl hrest
  obtain ⟨e'', hrelay⟩ := relay_live error e' hout
  refine ⟨error, { e'' with conn := e''.conn.lowerDispatch }, ?_⟩
  simp only [hround, hrun, Option.bind_some, afterCallback, if_neg (Int.ne_of_lt herror), hrelay, Option.map_some,
    if_pos herror]

end NSPluginWrapper
