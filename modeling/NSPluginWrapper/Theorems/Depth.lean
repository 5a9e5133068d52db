import NSPluginWrapper.Theorems.Party

/-! The depth counters of a connection count what runs on it: every handler is a dispatch, a handler between
    its arguments and its reply is a handling, and every call that waits is an invocation. -/

namespace NSPluginWrapper
open Lib

/-! ### What runs -/

def Op.waits : Op → Bool
  | .loop (.wait _) => true
  | _ => false

/-- The dispatches, handlings and invocations of the innermost function itself. -/
def Ctl.dispatching : Ctl → Nat
  | .head _ => 1
  | _ => 0

def Ctl.handling : Ctl → Nat
  | .args => 1
  | _ => 0

def Ctl.invoking : Ctl → Nat
  | .invoked _ | .body _ | .marker (.wait _) => 1
  | .head op => if op.waits then 1 else 0
  | _ => 0

def Frame.handling (f : Frame) : Bool := f.phase == .args

/-- The counters say what runs. -/
structure Balanced (p : Party) : Prop where
  dispatch : p.conn.dispatchDepth = p.stack.length + p.ctl.dispatching
  handle : p.conn.handleDepth = p.stack.countP Frame.handling + p.ctl.handling
  invoke : p.conn.invokeDepth = p.stack.countP (·.op.waits) + p.ctl.invoking
  reading : p.ctl = .args → ∃ f rest, p.stack = f :: rest ∧ f.phase = .fresh

/-! ### What an operation keeps -/

/-- A function that is none of the three by itself. -/
def Ctl.Plain (ctl : Ctl) : Prop := ctl.dispatching = 0 ∧ ctl.handling = 0 ∧ ctl.invoking = 0

theorem Ctl.plain_user (ret : Int) : (Ctl.user ret).Plain := ⟨rfl, rfl, rfl⟩
theorem Ctl.plain_sync : (Ctl.marker .sync).Plain := ⟨rfl, rfl, rfl⟩
theorem Ctl.plain_dispatchSync : (Ctl.marker .dispatchSync).Plain := ⟨rfl, rfl, rfl⟩
theorem Ctl.plain_aborted : Ctl.aborted.Plain := ⟨rfl, rfl, rfl⟩

theorem Ctl.Plain.ne_args {ctl : Ctl} (h : ctl.Plain) : ctl ≠ .args := by
  rintro rfl
  exact absurd h.2.1 (by decide)

/-- Two connections of the same depths. -/
def Connection.SameDepths (c d : Connection) : Prop :=
  d.dispatchDepth = c.dispatchDepth ∧ d.handleDepth = c.handleDepth ∧ d.invokeDepth = c.invokeDepth

namespace Balanced
variable {A : Type} {p : Party}

/-- In a plain function the stack says it all. -/
theorem of_plain (h : Balanced p) (hp : p.ctl.Plain) : p.conn.dispatchDepth = p.stack.length ∧
    p.conn.handleDepth = p.stack.countP Frame.handling ∧ p.conn.invokeDepth = p.stack.countP (·.op.waits) := by
  obtain ⟨hd, hh, hi, -⟩ := h
  rw [hp.1] at hd
  rw [hp.2.1] at hh
  rw [hp.2.2] at hi
  exact ⟨by omega, by omega, by omega⟩

/-- From one plain function to another. -/
theorem plain (h : Balanced p) (hp : p.ctl.Plain) {q : Party} (hq : q.ctl.Plain) (hstack : q.stack = p.stack)
    (hdepths : p.conn.SameDepths q.conn) : Balanced q := by
  obtain ⟨hd, hh, hi⟩ := h.of_plain hp
  refine ⟨?_, ?_, ?_, fun hargs => absurd hargs hq.ne_args⟩
  · rw [hdepths.1, hd, hstack, hq.1]
    omega
  · rw [hdepths.2.1, hh, hstack, hq.2.1]
    omega
  · rw [hdepths.2.2, hi, hstack, hq.2.2]
    omega

theorem rpcDispatchStart (h : Balanced p) {op : Op} (hdispatching : p.ctl.dispatching = 0) (hhandling : p.ctl.handling = 0)
    (hinvoking : p.ctl.invoking = if op.waits then 1 else 0) : Balanced (p.rpcDispatchStart op) := by
  obtain ⟨hd, hh, hi, -⟩ := h
  rw [hdispatching] at hd
  rw [hhandling] at hh
  rw [hinvoking] at hi
  refine ⟨?_, hh, hi, fun hargs => nomatch hargs⟩
  change p.conn.dispatchDepth + 1 = p.stack.length + 1
  omega

/-- `_rpc_dispatch` gives its depth back; an error it leaves the connection active with ends the loop of
    `_rpc_dispatch_sync`. -/
theorem rpcDispatchEnd {op : Op} {ret : Int} (hd : p.conn.dispatchDepth = p.stack.length + 1)
    (hh : p.conn.handleDepth = p.stack.countP Frame.handling)
    (hi : p.conn.invokeDepth = p.stack.countP (·.op.waits) + (if op.waits then 1 else 0 : Nat))
    (ha : (p.rpcDispatchEnd op ret).conn.status = .active) : Balanced (p.rpcDispatchEnd op ret) := by
  have hlow : p.conn.lowerDispatch.dispatchDepth = p.stack.length := by
    change p.conn.dispatchDepth - 1 = p.stack.length
    omega
  have hh' : p.conn.lowerDispatch.handleDepth = p.stack.countP Frame.handling + (0 : Nat) := by
    change p.conn.handleDepth = _
    omega
  unfold Party.rpcDispatchEnd at ha ⊢
  split at ha
  · rename_i hneg
    rw [if_pos hneg]
    obtain ⟨rfl, heq⟩ := Party.leave_active (by omega) ha
    rw [heq]
    exact ⟨hlow, hh', hi, fun hargs => nomatch hargs⟩
  · rename_i hpos
    rw [if_neg hpos]
    cases op with
    | dispatch => exact ⟨hlow, hh', hi, fun hargs => nomatch hargs⟩
    | loop l =>
      refine ⟨hlow, hh', ?_, fun hargs => nomatch hargs⟩
      change p.conn.invokeDepth = _
      rw [hi]
      cases l <;> rfl

theorem handlerReturns (h : Balanced p) {ret : Int} (hctl : p.ctl = .user ret) {f : Frame} {rest : List Frame}
    (hstack : p.stack = f :: rest) {code : Int} {sent : Sent}
    (hcode : f.phase = .replied ∧ code = RpcError.noError ∨ f.phase ≠ .replied ∧ code < 0)
    (hraw : ¬(p.conn.status = .active ∧ f.op = .loop .dispatchSync ∧ f.phase = .args))
    (ha : (p.handlerReturns (A := A) f rest code sent).1.conn.status = .active) :
    Balanced (p.handlerReturns (A := A) f rest code sent).1 := by
  obtain ⟨hd, hh, hi⟩ := h.of_plain (hctl ▸ Ctl.plain_user ret)
  rw [hstack] at hd hh hi
  -- what `_rpc_dispatch` makes of the handler's code, whichever that is
  have hend : ∀ ret : Int, (f.phase = .args → ret < 0) →
      ({ p with stack := rest }.rpcDispatchEnd f.op ret).conn.status = .active →
      Balanced ({ p with stack := rest }.rpcDispatchEnd f.op ret) := by
    intro ret hret ha
    by_cases hargs : f.phase = .args
    · have hneg := hret hargs
      unfold Party.rpcDispatchEnd at ha
      rw [if_pos hneg] at ha
      obtain ⟨hop, heq⟩ := Party.leave_active (by omega) ha
      rw [heq] at ha
      exact absurd ⟨ha, hop, hargs⟩ hraw
    · have hhandling : f.handling = false := by simpa [Frame.handling] using hargs
      refine rpcDispatchEnd ?_ ?_ ?_ ha
      · change p.conn.dispatchDepth = rest.length + 1
        rw [hd, List.length_cons]
        omega
      · change p.conn.handleDepth = rest.countP Frame.handling
        rw [hh, List.countP_cons_of_neg (by simp [hhandling])]
      · change p.conn.invokeDepth = rest.countP (·.op.waits) + (if f.op.waits then 1 else 0 : Nat)
        rw [hi, List.countP_cons]
        omega
  have hneg : f.phase = .args → code < 0 := fun hargs => by
    rcases hcode with ⟨hreplied, -⟩ | ⟨-, hneg⟩
    · rw [hargs] at hreplied
      cases hreplied
    · exact hneg
  unfold Party.handlerReturns at ha ⊢
  by_cases hzero : code = RpcError.noError
  · rw [if_pos hzero] at ha ⊢
    exact hend _ (fun hargs => absurd (hneg hargs) (by rw [hzero]; decide)) ha
  · rw [if_neg hzero] at ha ⊢
    by_cases hrel : Party.relayed code = true
    · rw [if_pos hrel] at ha ⊢
      cases sent with
      | error error => exact hend _ (fun _ => error.property) ha
      | ok => exact hend _ hneg ha
    · rw [if_neg hrel] at ha ⊢
      exact hend _ hneg ha

theorem rpcDispatchSync (h : Balanced p) (hp : p.ctl.Plain) (sent : Sent) :
    Balanced (p.rpcDispatchSync (A := A) sent).1 := by
  cases sent with
  | error error => exact h.plain hp (Ctl.plain_user _) rfl ⟨rfl, rfl, rfl⟩
  | ok => exact h.plain hp Ctl.plain_dispatchSync rfl ⟨rfl, rfl, rfl⟩

theorem rpcDispatch (h : Balanced p) (hp : p.ctl.Plain) (tag : Except Err Int32) (sent : Sent)
    (ha : (p.rpcDispatch (A := A) tag sent).1.conn.status = .active) : Balanced (p.rpcDispatch (A := A) tag sent).1 := by
  cases tag with
  | error error => exact absurd ha (Party.fails_status (Int.ne_of_lt error.property))
  | ok tag =>
    by_cases hsync : tag = RpcMessage.sync
    · rw [hsync, Party.rpcDispatch_sync]
      exact h.rpcDispatchSync hp sent
    · by_cases hstart : tag = RpcMessage.start
      · rw [hstart, Party.rpcDispatch_start]
        exact h.rpcDispatchStart hp.1 hp.2.1 hp.2.2
      · rw [Party.rpcDispatch_other hsync hstart] at ha
        exact absurd ha (Party.fails_status (by decide))

theorem rpcDispatchPendingSync (h : Balanced p) (hp : p.ctl.Plain) (readable : Bool) (sent : Sent) :
    Balanced (p.rpcDispatchPendingSync (A := A) readable sent).1 := by
  unfold Party.rpcDispatchPendingSync
  split
  · exact h.plain hp (Ctl.plain_user _) rfl ⟨rfl, rfl, rfl⟩
  · split
    · exact rpcDispatchSync (h.plain (q := { p with conn := p.conn.clearPendingSync }) hp hp rfl ⟨rfl, rfl, rfl⟩) hp sent
    · exact h.plain hp Ctl.plain_aborted rfl ⟨rfl, rfl, rfl⟩

theorem rpcSync (h : Balanced p) (hp : p.ctl.Plain) (sent : Sent)
    (ha : (p.rpcSync (A := A) sent).1.conn.status = .active) : Balanced (p.rpcSync (A := A) sent).1 := by
  unfold Party.rpcSync at ha ⊢
  by_cases hsync : p.conn.isSync = true
  · rw [if_pos hsync]
    exact h.plain hp Ctl.plain_aborted rfl ⟨rfl, rfl, rfl⟩
  · rw [if_neg hsync] at ha ⊢
    cases sent with
    | error error => exact absurd ha (Party.fails_status (Int.ne_of_lt error.property))
    | ok => exact h.plain hp Ctl.plain_sync rfl ⟨rfl, rfl, rfl⟩

theorem rpcEndSync (h : Balanced p) (hp : p.ctl.Plain) (sent : Sent)
    (ha : (p.rpcEndSync (A := A) sent).1.conn.status = .active) : Balanced (p.rpcEndSync (A := A) sent).1 := by
  unfold Party.rpcEndSync at ha ⊢
  by_cases hsync : p.conn.isSync = false
  · rw [if_pos hsync] at ha
    exact absurd ha (Party.fails_status (by decide))
  · rw [if_neg hsync] at ha ⊢
    cases sent with
    | error error => exact absurd ha (Party.fails_status (Int.ne_of_lt error.property))
    | ok => exact h.plain hp (Ctl.plain_user _) rfl ⟨rfl, rfl, rfl⟩

theorem rpcMethodInvoke (h : Balanced p) (hp : p.ctl.Plain) (call : Call) (method : Int32) (values : A) (sent : Sent)
    (ha : (p.rpcMethodInvoke call method values sent).1.conn.status = .active) :
    Balanced (p.rpcMethodInvoke call method values sent).1 := by
  unfold Party.rpcMethodInvoke at ha ⊢
  split at ha
  · rename_i hclosed
    exact absurd (hclosed.symm.trans ha) (by decide)
  · rename_i hopen
    rw [if_neg hopen]
    cases sent with
    | error error => exact absurd ha (Party.fails_status (Int.ne_of_lt error.property))
    | ok =>
      obtain ⟨hd, hh, hi⟩ := h.of_plain hp
      refine ⟨?_, ?_, ?_, fun hargs => nomatch hargs⟩
      · change p.conn.dispatchDepth = p.stack.length + (0 : Nat)
        omega
      · change p.conn.handleDepth = p.stack.countP Frame.handling + (0 : Nat)
        omega
      · change p.conn.invokeDepth + 1 = p.stack.countP (·.op.waits) + (1 : Nat)
        omega

theorem rpcMethodWaitForReply (h : Balanced p) {call : Call} (hctl : p.ctl = .invoked call)
    (ha : (p.rpcMethodWaitForReply call).conn.status = .active) : Balanced (p.rpcMethodWaitForReply call) := by
  obtain ⟨hd, hh, hi, -⟩ := h
  rw [hctl] at hd hh hi
  unfold Party.rpcMethodWaitForReply at ha ⊢
  split at ha
  · rename_i hclosed
    exact absurd (hclosed.symm.trans ha) (by decide)
  · rename_i hopen
    rw [if_neg hopen]
    exact ⟨hd, hh, hi, fun hargs => nomatch hargs⟩

theorem rpcMethodGetArgs (h : Balanced p) (hp : p.ctl.Plain)
    (hfresh : ∃ f rest, p.stack = f :: rest ∧ f.phase = .fresh)
    (ha : p.rpcMethodGetArgs.conn.status = .active) : Balanced p.rpcMethodGetArgs := by
  obtain ⟨hd, hh, hi⟩ := h.of_plain hp
  unfold Party.rpcMethodGetArgs at ha ⊢
  split at ha
  · rename_i hclosed
    exact absurd (hclosed.symm.trans ha) (by decide)
  · rename_i hopen
    rw [if_neg hopen]
    refine ⟨?_, ?_, ?_, fun _ => hfresh⟩
    · change p.conn.dispatchDepth = p.stack.length + (0 : Nat)
      omega
    · change p.conn.handleDepth + 1 = p.stack.countP Frame.handling + (1 : Nat)
      omega
    · change p.conn.invokeDepth = p.stack.countP (·.op.waits) + (0 : Nat)
      omega

theorem recvArgs (h : Balanced p) (hctl : p.ctl = .args) {f : Frame} {rest : List Frame} (hstack : p.stack = f :: rest)
    (values : Except Err A) (ha : (p.recvArgs f rest values).conn.status = .active) :
    Balanced (p.recvArgs f rest values) := by
  obtain ⟨hd, hh, hi, hfresh⟩ := h
  obtain ⟨f', rest', hstack', hphase⟩ := hfresh hctl
  rw [hstack, List.cons.injEq] at hstack'
  obtain ⟨rfl, rfl⟩ := hstack'
  rw [hctl, hstack] at hd hh hi
  cases values with
  | error error => exact absurd ha (Party.fails_status (Int.ne_of_lt error.property))
  | ok values =>
    refine ⟨hd, ?_, hi, fun hargs => nomatch hargs⟩
    rw [List.countP_cons_of_neg (by simp [Frame.handling, hphase])] at hh
    change p.conn.handleDepth = ((({ f with phase := .args } : Frame) :: rest).countP Frame.handling : Nat) + (0 : Nat)
    rw [List.countP_cons_of_pos (by simp [Frame.handling]), hh, Ctl.handling]
    omega

theorem rpcMethodSendReply (h : Balanced p) (hp : p.ctl.Plain) {f : Frame} {rest : List Frame}
    (hstack : p.stack = f :: rest) (hphase : f.phase = .args) (values : A) (sent : Sent)
    (ha : (p.rpcMethodSendReply f rest values sent).1.conn.status = .active) :
    Balanced (p.rpcMethodSendReply f rest values sent).1 := by
  obtain ⟨hd, hh, hi⟩ := h.of_plain hp
  rw [hstack] at hd hh hi
  unfold Party.rpcMethodSendReply at ha ⊢
  split at ha
  · rename_i hclosed
    exact absurd (hclosed.symm.trans ha) (by decide)
  · rename_i hopen
    rw [if_neg hopen]
    cases sent with
    | error error => exact absurd ha (p.conn.rpcError_status (Int.ne_of_lt error.property))
    | ok =>
      rw [List.countP_cons_of_pos (by simp [Frame.handling, hphase])] at hh
      refine ⟨?_, ?_, ?_, fun hargs => nomatch hargs⟩
      · change p.conn.dispatchDepth = (rest.length + 1 : Nat) + (0 : Nat)
        rw [hd, List.length_cons]
        omega
      · change p.conn.handleDepth - 1 = ((({ f with phase := .replied } : Frame) :: rest).countP Frame.handling : Nat) + (0 : Nat)
        rw [List.countP_cons_of_neg (by simp [Frame.handling])]
        omega
      · change p.conn.invokeDepth = _ + (0 : Nat)
        rw [hi, List.countP_cons, List.countP_cons]
        exact (Int.add_zero _).symm

theorem recvBody (h : Balanced p) {call : Call} (hctl : p.ctl = .body call) (values : Except Err A)
    (ha : (p.recvBody values).conn.status = .active) : Balanced (p.recvBody values) := by
  obtain ⟨hd, hh, hi, -⟩ := h
  rw [hctl] at hd hh hi
  cases values with
  | error error => exact absurd ha (p.conn.rpcError_status (Int.ne_of_lt error.property))
  | ok values =>
    refine ⟨hd, hh, ?_, fun hargs => nomatch hargs⟩
    change p.conn.invokeDepth - 1 = p.stack.countP (·.op.waits) + (0 : Nat)
    rw [hi, Ctl.invoking]
    omega

theorem recvHead (h : Balanced p) {op : Op} (hctl : p.ctl = .head op) (head : Except Err (Call × Int32))
    (ha : (p.recvHead op head).conn.status = .active) : Balanced (p.recvHead op head) := by
  obtain ⟨hd, hh, hi, -⟩ := h
  rw [hctl] at hd hh hi
  have hh' : p.conn.handleDepth = p.stack.countP Frame.handling := hh.trans (Int.add_zero _)
  cases head with
  | error error => exact rpcDispatchEnd hd hh' hi ha
  | ok head =>
    obtain ⟨call, method⟩ := head
    by_cases hhas : p.methods.has method = true
    · rw [Party.recvHead_has hhas]
      let f : Frame := ⟨op, call, method, .fresh, p.methods.positive method hhas⟩
      refine ⟨hd, ?_, ?_, fun hargs => nomatch hargs⟩
      · change p.conn.handleDepth = ((f :: p.stack).countP Frame.handling : Nat) + (0 : Nat)
        rw [List.countP_cons_of_neg (by simp [f, Frame.handling])]
        exact hh
      · change p.conn.invokeDepth = ((f :: p.stack).countP (·.op.waits) : Nat) + (0 : Nat)
        rw [hi, List.countP_cons]
        exact (Int.add_zero _).symm
    · rw [Party.recvHead_hasnot hhas] at ha ⊢
      exact rpcDispatchEnd hd hh' hi ha

theorem recvMarker (h : Balanced p) {l : Loop} (hctl : p.ctl = .marker l) (tag : Except Err Int32)
    (ha : (p.recvMarker l tag).conn.status = .active) : Balanced (p.recvMarker l tag) := by
  have hdispatching : p.ctl.dispatching = 0 := by rw [hctl]; rfl
  have hhandling : p.ctl.handling = 0 := by rw [hctl]; rfl
  have hinvoking : p.ctl.invoking = if (Op.loop l).waits then 1 else 0 := by
    rw [hctl]
    cases l <;> rfl
  have hleave : ∀ error : Int, error < 0 → (p.leave (.loop l) error).conn.status = .active →
      Balanced (p.leave (.loop l) error) := by
    intro error hneg ha
    obtain ⟨hop, heq⟩ := Party.leave_active (Int.ne_of_lt hneg) ha
    rw [heq]
    rw [hop] at hinvoking
    exact h.plain ⟨hdispatching, hhandling, hinvoking⟩ (Ctl.plain_user _) rfl ⟨rfl, rfl, rfl⟩
  cases tag with
  | error error => exact hleave _ error.property ha
  | ok tag =>
    cases haction : tagAction p.conn l.expected tag with
    | fail error =>
      rw [Party.recvMarker_fail haction] at ha ⊢
      exact hleave error (Party.tagAction_fail haction) ha
    | noteSync =>
      rw [Party.recvMarker_noteSync haction]
      exact ⟨h.dispatch, h.handle, h.invoke, h.reading⟩
    | dispatch =>
      rw [Party.recvMarker_dispatch haction]
      exact h.rpcDispatchStart hdispatching hhandling hinvoking
    | done =>
      rw [Party.recvMarker_done haction]
      cases l with
      | sync => exact h.plain ⟨hdispatching, hhandling, hinvoking⟩ (Ctl.plain_user _) rfl ⟨rfl, rfl, rfl⟩
      | dispatchSync => exact h.plain ⟨hdispatching, hhandling, hinvoking⟩ (Ctl.plain_user _) rfl ⟨rfl, rfl, rfl⟩
      | wait call =>
        obtain ⟨hd, hh, hi, -⟩ := h
        rw [hctl] at hd hh hi
        exact ⟨hd, hh, hi, fun hargs => nomatch hargs⟩

end Balanced

/-! ### Runs -/

section
variable {A : Type} {p q : Party} {e : Event A} {words : List (Word A)}

/-- User code that runs under no handler. -/
def Party.AtTopLevel (p : Party) : Prop := p.stack = [] ∧ ∃ ret, p.ctl = .user ret

/-- A handler that the loop of `_rpc_dispatch_sync` itself dispatched returns an error after it has read its
    arguments, on an active connection. -/
def Party.ErrorInSync (p : Party) (e : Event A) : Prop :=
  p.conn.status = .active ∧ ∃ f rest code sent, p.stack = f :: rest ∧ f.op = .loop .dispatchSync ∧ f.phase = .args ∧
    e = .ret code sent ∧ code < 0

/-- A connection whose handlers keep the discipline, and none of them fails in that place. -/
def soundHandlers (A : Type) : Machine Party (Event A) :=
  (partyMachine A).restrict fun p e => p.Disciplined e ∧ ¬p.ErrorInSync e

theorem balanced_init (h : (partyMachine A).init p) : Balanced p := by
  obtain ⟨hfresh, hstack, hctl⟩ := h
  refine ⟨?_, ?_, ?_, fun hargs => ?_⟩
  · rw [hfresh.dispatchDepth, hstack, hctl]
    rfl
  · rw [hfresh.handleDepth, hstack, hctl]
    rfl
  · rw [hfresh.invokeDepth, hstack, hctl]
    rfl
  · rw [hctl] at hargs
    cases hargs

theorem balanced_step (h : Balanced p) (hd : p.Disciplined e) (he : ¬p.ErrorInSync e)
    (hs : p.step e = some (q, words)) (ha : q.conn.status = .active) : Balanced q := by
  have huser : ∀ {ret}, p.ctl = .user ret → p.ctl.Plain := fun hctl => hctl ▸ Ctl.plain_user _
  obtain ⟨r, hr⟩ : ∃ r, r = (q, words) := ⟨_, rfl⟩
  obtain ⟨hq, -⟩ := Prod.mk.inj (hr.trans rfl : (r.1, r.2) = (q, words))
  rw [← hr] at hs
  rw [← hq] at ha ⊢
  cases Party.steps_of_step hs with
  | invoke hctl => exact h.rpcMethodInvoke (huser hctl) _ _ _ _ ha
  | waitForReply hctl => exact h.rpcMethodWaitForReply hctl ha
  | dispatch hctl => exact h.rpcDispatch (huser hctl) _ _ ha
  | dispatchPendingSync hctl => exact h.rpcDispatchPendingSync (huser hctl) _ _
  | sync hctl => exact h.rpcSync (huser hctl) _ ha
  | endSync hctl => exact h.rpcEndSync (huser hctl) _ ha
  | getArgs hctl =>
    refine h.rpcMethodGetArgs (huser hctl) ?_ ha
    cases hstack : p.stack with
    | nil => simp [Party.Disciplined, hctl, hstack] at hd
    | cons f rest =>
      simp only [Party.Disciplined, hctl, hstack] at hd
      exact ⟨f, rest, rfl, hd⟩
  | sendReply hctl hstack =>
    simp only [Party.Disciplined, hctl, hstack] at hd
    exact h.rpcMethodSendReply (huser hctl) hstack hd _ _ ha
  | ret hctl hstack =>
    simp only [Party.Disciplined, hctl, hstack] at hd
    refine h.handlerReturns hctl hstack hd (fun hraw => he ?_) ha
    obtain ⟨hactive, hop, hphase⟩ := hraw
    refine ⟨hactive, _, _, _, _, hstack, hop, hphase, rfl, ?_⟩
    rcases hd with ⟨hreplied, -⟩ | ⟨-, hneg⟩
    · rw [hphase] at hreplied
      cases hreplied
    · exact hneg
  | recvMarker hctl => exact h.recvMarker hctl _ ha
  | recvHead hctl => exact h.recvHead hctl _ ha
  | recvArgs hctl hstack => exact h.recvArgs hctl hstack _ ha
  | recvBody hctl => exact h.recvBody hctl _ ha
  | ref hctl => exact h.plain (huser hctl) (huser hctl) rfl ⟨rfl, rfl, rfl⟩
  | unref hctl => exact h.plain (huser hctl) (huser hctl) rfl ⟨rfl, rfl, rfl⟩

theorem balanced_of_reachable (h : (soundHandlers A).Reachable p) (ha : p.conn.status = .active) : Balanced p := by
  refine h.invariant (fun p => p.conn.status = .active → Balanced p) ?_ ?_ ha
  · exact fun p hp _ => balanced_init (A := A) hp
  · rintro p e q - ih ⟨⟨hd, he⟩, words, hstep⟩ hq
    have hp : p.conn.status = .active := by
      by_contra hne
      rw [Party.step_inactive hne hstep] at hq
      exact hne hq
    exact balanced_step (ih hp) hd he hstep hq

theorem Balanced.handle_le_dispatch (h : Balanced p) : p.conn.handleDepth ≤ p.conn.dispatchDepth := by
  obtain ⟨hd, hh, -, hreading⟩ := h
  have hle := p.stack.countP_le_length (p := Frame.handling)
  by_cases hargs : p.ctl = .args
  · obtain ⟨f, rest, hstack, hphase⟩ := hreading hargs
    have hrest := rest.countP_le_length (p := Frame.handling)
    rw [hargs, hstack, List.countP_cons_of_neg (by simp [Frame.handling, hphase])] at hh
    rw [hargs, hstack, List.length_cons] at hd
    rw [hd, hh, Ctl.handling]
    omega
  · have hzero : p.ctl.handling = 0 := by
      unfold Ctl.handling
      split
      · contradiction
      · rfl
    rw [hzero] at hh
    omega

/-- Handlings are dispatches, and at top level nothing is counted: calls and pending syncs work again. -/
theorem depths_of_reachable (h : (soundHandlers A).Reachable p) (ha : p.conn.status = .active) :
    0 ≤ p.conn.handleDepth ∧ p.conn.handleDepth ≤ p.conn.dispatchDepth ∧
    (p.AtTopLevel → p.conn.invokeDepth = 0 ∧ p.conn.handleDepth = 0 ∧ p.conn.dispatchDepth = 0 ∧
      p.conn.rpcMethodInvokePossible = true ∧ (p.conn.hasPendingSync = true ↔ p.conn.pendingSyncDepth ≠ 0)) := by
  have hb := balanced_of_reachable h ha
  refine ⟨?_, hb.handle_le_dispatch, ?_⟩
  · rw [hb.handle]
    omega
  · rintro ⟨hstack, ret, hctl⟩
    obtain ⟨hd, hh, hi⟩ := hb.of_plain (hctl ▸ Ctl.plain_user ret)
    rw [hstack] at hd hh hi
    change p.conn.dispatchDepth = 0 at hd
    change p.conn.handleDepth = 0 at hh
    change p.conn.invokeDepth = 0 at hi
    refine ⟨hi, hh, hd, ?_, ?_⟩
    · simp [Connection.rpcMethodInvokePossible, ha, hd, hh]
    · simp [Connection.hasPendingSync, hi, hh]

end

/-! ### The handler that leaks a depth -/

/-- The wrapper grants a SYNC and runs a call in it, whose handler is out of memory once it has its
    arguments. -/
theorem depth_leaks : ∃ p, ((partyMachine Unit).restrict Party.Disciplined).Reachable p ∧
    p.conn.status = .active ∧ p.AtTopLevel ∧ p.conn.handleDepth = 1 := by
  have h₀ := Machine.Reachable.init (m := (partyMachine Unit).restrict Party.Disciplined)
    (Party.opened_init (A := Unit) .client .killPlugin)
  have h₁ := h₀.next (.dispatch (.ok RpcMessage.sync) (.ok ())) ⟨trivial, _, rfl⟩
  have h₂ := h₁.next (.recvMarker (.ok RpcMessage.start)) ⟨trivial, _, rfl⟩
  have h₃ := h₂.next (.recvHead (.ok (⟨.server, 0⟩, 1))) ⟨trivial, _, rfl⟩
  have h₄ := h₃.next (.getArgs) ⟨rfl, _, rfl⟩
  have h₅ := h₄.next (.recvArgs (.ok ())) ⟨trivial, _, rfl⟩
  have h₆ := h₅.next (.ret RpcError.noMemory (.ok ())) ⟨Or.inr ⟨nofun, by decide⟩, _, rfl⟩
  exact ⟨_, h₆, rfl, ⟨rfl, _, rfl⟩, rfl⟩

theorem Party.not_errorInSync {A : Type} {p : Party} {e : Event A} (h : ∀ code sent, e = .ret code sent → ¬code < 0) :
    ¬p.ErrorInSync e := by
  rintro ⟨-, -, -, code, sent, -, -, -, he, hneg⟩
  exact h code sent he hneg

/-- The same call when its handler replies, and the end of the SYNC. -/
theorem depths_after_sync : ∃ p : Party, p.AtTopLevel ∧ p.conn.pendingSyncDepth = 0 ∧
    p.conn.invokeDepth = 0 ∧ p.conn.handleDepth = 0 ∧ p.conn.dispatchDepth = 0 ∧
    p.conn.rpcMethodInvokePossible = true := by
  have h₀ := Machine.Reachable.init (m := soundHandlers Unit) (Party.opened_init (A := Unit) .client .killPlugin)
  have h₁ := h₀.next (.dispatch (.ok RpcMessage.sync) (.ok ())) ⟨⟨trivial, Party.not_errorInSync nofun⟩, _, rfl⟩
  have h₂ := h₁.next (.recvMarker (.ok RpcMessage.start)) ⟨⟨trivial, Party.not_errorInSync nofun⟩, _, rfl⟩
  have h₃ := h₂.next (.recvHead (.ok (⟨.server, 0⟩, 1))) ⟨⟨trivial, Party.not_errorInSync nofun⟩, _, rfl⟩
  have h₄ := h₃.next (.getArgs) ⟨⟨rfl, Party.not_errorInSync nofun⟩, _, rfl⟩
  have h₅ := h₄.next (.recvArgs (.ok ())) ⟨⟨trivial, Party.not_errorInSync nofun⟩, _, rfl⟩
  have h₆ := h₅.next (.sendReply () (.ok ())) ⟨⟨rfl, Party.not_errorInSync nofun⟩, _, rfl⟩
  have h₇ := h₆.next (.ret RpcError.noError (.ok ())) ⟨⟨Or.inl ⟨rfl, rfl⟩, Party.not_errorInSync (by
    rintro _ _ ⟨⟩
    decide)⟩, _, rfl⟩
  have h₈ := h₇.next (.recvMarker (.ok RpcMessage.syncEnd)) ⟨⟨trivial, Party.not_errorInSync nofun⟩, _, rfl⟩
  have htop := (depths_of_reachable h₈ rfl).2.2 ⟨rfl, _, rfl⟩
  exact ⟨_, ⟨rfl, _, rfl⟩, rfl, htop.1, htop.2.1, htop.2.2.1, htop.2.2.2.1⟩

end NSPluginWrapper
