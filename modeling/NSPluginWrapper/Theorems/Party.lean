import NSPluginWrapper.Rpc.Party
import NSPluginWrapper.Theorems.Connection

/-! What each operation of a party comes to, by the outcome of its sends and reads. -/

namespace NSPluginWrapper

/-! ### The call an operation waits for -/

def Loop.awaited : Loop → Option Call
  | .wait call => some call
  | _ => none

def Op.awaited : Op → Option Call
  | .loop l => l.awaited
  | .dispatch => none

def Ctl.awaited : Ctl → Option Call
  | .invoked call | .body call => some call
  | .marker l => l.awaited
  | .head op => op.awaited
  | _ => none

namespace Party
variable {A : Type} {p : Party}

/-! ### A new end -/

/-- An end whose methods are all there. -/
def opened (type : ConnectionType) (errorCallback : ErrorCallback) : Party where
  conn := (Connection.rpcInit type).setErrorCallback errorCallback
  methods := ⟨fun m => decide (0 < m.toInt), by simp⟩
  stack := []
  ctl := .user RpcError.noError

theorem opened_init (type : ConnectionType) (errorCallback : ErrorCallback) :
    (partyMachine A).init (opened type errorCallback) :=
  ⟨⟨Nat.one_pos, rfl, rfl, rfl, rfl, rfl, rfl, rfl⟩, rfl, rfl⟩

/-! ### Which operation a step is -/

/-- The operations a party takes a step by, with where it stands before. -/
inductive Steps (p : Party) : Event A → Party × List (Word A) → Prop where
  | invoke {ret call method values sent} : p.ctl = .user ret →
    Steps p (.invoke call method values sent) (p.rpcMethodInvoke call method values sent)
  | waitForReply {call} : p.ctl = .invoked call → Steps p .waitForReply (p.rpcMethodWaitForReply call, [])
  | dispatch {ret tag sent} : p.ctl = .user ret → Steps p (.dispatch tag sent) (p.rpcDispatch tag sent)
  | dispatchPendingSync {ret readable sent} : p.ctl = .user ret →
    Steps p (.dispatchPendingSync readable sent) (p.rpcDispatchPendingSync readable sent)
  | sync {ret sent} : p.ctl = .user ret → Steps p (.sync sent) (p.rpcSync sent)
  | endSync {ret sent} : p.ctl = .user ret → Steps p (.endSync sent) (p.rpcEndSync sent)
  | getArgs {ret} : p.ctl = .user ret → Steps p .getArgs (p.rpcMethodGetArgs, [])
  | sendReply {ret f rest values sent} : p.ctl = .user ret → p.stack = f :: rest →
    Steps p (.sendReply values sent) (p.rpcMethodSendReply f rest values sent)
  | ret {ret f rest code sent} : p.ctl = .user ret → p.stack = f :: rest →
    Steps p (.ret code sent) (p.handlerReturns f rest code sent)
  | recvMarker {l tag} : p.ctl = .marker l → Steps p (.recvMarker tag) (p.recvMarker l tag, [])
  | recvHead {op head} : p.ctl = .head op → Steps p (.recvHead head) (p.recvHead op head, [])
  | recvArgs {f rest values} : p.ctl = .args → p.stack = f :: rest →
    Steps p (.recvArgs values) (p.recvArgs f rest values, [])
  | recvBody {call values} : p.ctl = .body call → Steps p (.recvBody values) (p.recvBody values, [])
  | ref {ret} : p.ctl = .user ret → Steps p .ref ({ p with conn := p.conn.ref }, [])
  | unref {ret} : p.ctl = .user ret → Steps p .unref ({ p with conn := p.conn.unref }, [])

theorem steps_of_step {e : Event A} {r : Party × List (Word A)} (h : p.step e = some r) : p.Steps e r := by
  unfold step at h
  split at h <;> rename_i hctl
  case h_7 => split at h <;> cases h; exact .sendReply hctl ‹_›
  case h_8 => split at h <;> cases h; exact .ret hctl ‹_›
  case h_14 => split at h <;> cases h; exact .recvArgs hctl ‹_›
  case h_16 => cases h
  all_goals cases h
  · exact .invoke hctl
  · exact .dispatch hctl
  · exact .dispatchPendingSync hctl
  · exact .sync hctl
  · exact .endSync hctl
  · exact .getArgs hctl
  · exact .ref hctl
  · exact .unref hctl
  · exact .waitForReply hctl
  · exact .recvMarker hctl
  · exact .recvHead hctl
  · exact .recvBody hctl

/-! ### Errors -/

theorem fails_status {error : Int} (h : error ≠ 0) : (p.fails error).conn.status ≠ .active := p.conn.rpcError_status h

/-- The one caller of `_rpc_dispatch` an error of which leaves the connection active. -/
theorem leave_active {op : Op} {error : Int} (h : error ≠ 0) (ha : (p.leave op error).conn.status = .active) :
    op = .loop .dispatchSync ∧ p.leave op error = p.returns error := by
  match op with
  | .dispatch => exact absurd ha (fails_status h)
  | .loop .sync => exact absurd ha (fails_status h)
  | .loop .dispatchSync => exact ⟨rfl, rfl⟩
  | .loop (.wait call) => exact absurd ha (p.conn.rpcError_status h)

theorem tagAction_fail {c : Connection} {expected tag : Int32} {error : Int}
    (h : tagAction c expected tag = .fail error) : error < 0 := by
  unfold tagAction at h
  split at h
  · cases h
  · split at h
    · split at h <;> cases h
      decide
    · split at h <;> cases h
      decide

/-! ### What only moves one way -/

theorem fails_later (error : Int) : p.conn.Later (p.fails error).conn := p.conn.rpcError_later error

theorem leave_later (op : Op) (error : Int) : p.conn.Later (p.leave op error).conn := by
  match op with
  | .dispatch => exact fails_later error
  | .loop .sync => exact fails_later error
  | .loop .dispatchSync => exact .refl _
  | .loop (.wait call) => exact (p.conn.rpcError_later error).trans (.of_eq rfl rfl rfl rfl)

theorem rpcDispatchEnd_later (op : Op) (ret : Int) : p.conn.Later (p.rpcDispatchEnd op ret).conn := by
  have hlow : p.conn.Later p.conn.lowerDispatch := .of_eq rfl rfl rfl rfl
  unfold rpcDispatchEnd
  split
  · exact hlow.trans (leave_later (p := { p with conn := p.conn.lowerDispatch }) op ret)
  · cases op <;> exact hlow

theorem recvMarker_later (l : Loop) (tag : Except Err Int32) : p.conn.Later (p.recvMarker l tag).conn := by
  unfold recvMarker
  cases tag with
  | error error => exact leave_later _ _
  | ok tag =>
    simp only
    split
    · exact leave_later _ _
    · exact .of_eq rfl rfl rfl rfl
    · exact .of_eq rfl rfl rfl rfl
    · cases l <;> exact .of_eq rfl rfl rfl rfl

/-- No operation takes a run of the callback back or makes a connection active again. -/
theorem step_later {e : Event A} {q : Party} {words : List (Word A)} (hs : p.step e = some (q, words)) :
    p.conn.Later q.conn := by
  obtain ⟨r, hr⟩ : ∃ r, r = (q, words) := ⟨_, rfl⟩
  rw [← hr] at hs
  suffices hlater : p.conn.Later r.1.conn by rw [hr] at hlater; exact hlater
  have hkept {c : Connection} (htype : c.type = p.conn.type) (hc : c.errorCallback = p.conn.errorCallback)
    (hn : c.callbacks = p.conn.callbacks) (hstatus : c.status = p.conn.status) : p.conn.Later c :=
    .of_eq htype hc hn hstatus
  cases steps_of_step hs with
  | invoke =>
    unfold rpcMethodInvoke
    split
    · exact hkept rfl rfl rfl rfl
    · split
      · have hraise : p.conn.Later p.conn.raiseInvoke := hkept rfl rfl rfl rfl
        exact hraise.trans (p.conn.raiseInvoke.rpcError_later _)
      · exact hkept rfl rfl rfl rfl
  | waitForReply =>
    unfold rpcMethodWaitForReply
    split <;> exact hkept rfl rfl rfl rfl
  | @dispatch ret tag sent =>
    unfold rpcDispatch
    split
    · exact fails_later _
    · split
      · cases sent <;> exact hkept rfl rfl rfl rfl
      · split
        · exact hkept rfl rfl rfl rfl
        · exact fails_later _
  | @dispatchPendingSync ret readable sent =>
    unfold rpcDispatchPendingSync
    split
    · exact hkept rfl rfl rfl rfl
    · split
      · cases sent <;> exact hkept rfl rfl rfl rfl
      · exact .refl _
  | sync =>
    unfold rpcSync
    split
    · exact .refl _
    · split
      · exact fails_later _
      · exact hkept rfl rfl rfl rfl
  | endSync =>
    unfold rpcEndSync
    split
    · exact fails_later _
    · split
      · exact fails_later _
      · exact hkept rfl rfl rfl rfl
  | getArgs =>
    unfold rpcMethodGetArgs
    split <;> exact hkept rfl rfl rfl rfl
  | sendReply =>
    unfold rpcMethodSendReply
    split
    · exact hkept rfl rfl rfl rfl
    · split
      · exact (p.conn.rpcError_later _).trans (.of_eq rfl rfl rfl rfl)
      · exact hkept rfl rfl rfl rfl
  | @ret ret f rest code sent =>
    have hend : ∀ ret, p.conn.Later ({ p with stack := rest }.rpcDispatchEnd f.op ret).conn :=
      rpcDispatchEnd_later (p := { p with stack := rest }) f.op
    unfold handlerReturns
    split
    · exact hend _
    · split
      · split <;> exact hend _
      · exact hend _
  | recvMarker => exact recvMarker_later _ _
  | @recvHead op head =>
    unfold recvHead
    split
    · exact rpcDispatchEnd_later _ _
    · split
      · exact .refl _
      · exact rpcDispatchEnd_later _ _
  | @recvArgs f rest values =>
    cases values with
    | error error => exact fails_later _
    | ok => exact .refl _
  | @recvBody call values =>
    cases values with
    | error error => exact (p.conn.rpcError_later _).trans (.of_eq rfl rfl rfl rfl)
    | ok => exact hkept rfl rfl rfl rfl
  | ref => exact hkept rfl rfl rfl rfl
  | unref => exact hkept rfl rfl rfl rfl

/-- No operation makes a connection active again. -/
theorem step_inactive (h : p.conn.status ≠ .active) {e : Event A} {q : Party} {words : List (Word A)}
    (hs : p.step e = some (q, words)) : q.conn.status = p.conn.status := (step_later hs).inactive h

/-! ### The end of a handler -/

/-- A handler that returns is one more end of a dispatch. -/
theorem handlerReturns_eq (f : Frame) (rest : List Frame) (code : Int) (sent : Sent) :
    ∃ ret, (p.handlerReturns (A := A) f rest code sent).1 = { p with stack := rest }.rpcDispatchEnd f.op ret := by
  unfold handlerReturns
  split
  · exact ⟨_, rfl⟩
  · split
    · cases sent with
      | error error => exact ⟨_, rfl⟩
      | ok => exact ⟨_, rfl⟩
    · exact ⟨_, rfl⟩

/-! ### The pending SYNC -/

theorem leave_pending (op : Op) (error : Int) : (p.leave op error).conn.pendingSyncDepth = p.conn.pendingSyncDepth := by
  match op with
  | .dispatch => exact p.conn.rpcError_pendingSyncDepth error
  | .loop .sync => exact p.conn.rpcError_pendingSyncDepth error
  | .loop .dispatchSync => rfl
  | .loop (.wait call) => exact p.conn.rpcError_pendingSyncDepth error

theorem rpcDispatchEnd_pending (op : Op) (ret : Int) :
    (p.rpcDispatchEnd op ret).conn.pendingSyncDepth = p.conn.pendingSyncDepth := by
  unfold rpcDispatchEnd
  split
  · exact leave_pending (p := { p with conn := p.conn.lowerDispatch }) op ret
  · cases op <;> rfl

/-- A SYNC becomes pending only where one is read. -/
theorem step_pending {e : Event A} {r : Party × List (Word A)} (hs : p.step e = some r)
    (he : e ≠ .recvMarker (.ok RpcMessage.sync)) (h : p.conn.pendingSyncDepth = 0) : r.1.conn.pendingSyncDepth = 0 := by
  cases steps_of_step hs with
  | invoke =>
    unfold rpcMethodInvoke
    split
    · exact h
    · split
      · exact (p.conn.raiseInvoke.rpcError_pendingSyncDepth _).trans h
      · exact h
  | waitForReply =>
    unfold rpcMethodWaitForReply
    split <;> exact h
  | @dispatch ret tag sent =>
    unfold rpcDispatch
    split
    · exact (p.conn.rpcError_pendingSyncDepth _).trans h
    · split
      · cases sent <;> exact h
      · split
        · exact h
        · exact (p.conn.rpcError_pendingSyncDepth _).trans h
  | @dispatchPendingSync ret readable sent =>
    unfold rpcDispatchPendingSync
    split
    · exact h
    · split
      · cases sent <;> rfl
      · exact h
  | sync =>
    unfold rpcSync
    split
    · exact h
    · split
      · exact (p.conn.rpcError_pendingSyncDepth _).trans h
      · exact h
  | endSync =>
    unfold rpcEndSync
    split
    · exact (p.conn.rpcError_pendingSyncDepth _).trans h
    · split
      · exact (p.conn.rpcError_pendingSyncDepth _).trans h
      · exact h
  | getArgs =>
    unfold rpcMethodGetArgs
    split <;> exact h
  | sendReply =>
    unfold rpcMethodSendReply
    split
    · exact h
    · split
      · exact (p.conn.rpcError_pendingSyncDepth _).trans h
      · exact h
  | @ret ret f rest code sent =>
    obtain ⟨n, hn⟩ := p.handlerReturns_eq (A := A) f rest code sent
    rw [hn, rpcDispatchEnd_pending]
    exact h
  | @recvMarker l tag =>
    unfold recvMarker
    cases tag with
    | error error => exact (leave_pending _ _).trans h
    | ok tag =>
      simp only
      split
      · exact (leave_pending _ _).trans h
      · rename_i hnote
        obtain rfl : tag = RpcMessage.sync := by
          unfold tagAction at hnote
          split at hnote
          · cases hnote
          · split at hnote
            · assumption
            · split at hnote <;> cases hnote
        exact absurd rfl he
      · exact h
      · cases l <;> exact h
  | @recvHead op head =>
    unfold recvHead
    split
    · exact (rpcDispatchEnd_pending _ _).trans h
    · split
      · exact h
      · exact (rpcDispatchEnd_pending _ _).trans h
  | @recvArgs f rest values =>
    cases values with
    | error error => exact (p.conn.rpcError_pendingSyncDepth _).trans h
    | ok => exact h
  | @recvBody call values =>
    cases values with
    | error error => exact (p.conn.rpcError_pendingSyncDepth _).trans h
    | ok => exact h
  | ref => exact h
  | unref => exact h

/-! ### The call stack -/

@[simp] theorem leave_stack (op : Op) (error : Int) : (p.leave op error).stack = p.stack := by
  match op with
  | .dispatch => rfl
  | .loop .sync => rfl
  | .loop .dispatchSync => rfl
  | .loop (.wait call) => rfl

@[simp] theorem rpcDispatchEnd_stack (op : Op) (ret : Int) : (p.rpcDispatchEnd op ret).stack = p.stack := by
  unfold rpcDispatchEnd
  split
  · exact leave_stack _ _
  · cases op <;> rfl

@[simp] theorem recvMarker_stack (l : Loop) (tag : Except Err Int32) : (p.recvMarker l tag).stack = p.stack := by
  unfold recvMarker
  cases tag with
  | error error => exact leave_stack _ _
  | ok tag =>
    simp only
    split
    · exact leave_stack _ _
    · rfl
    · rfl
    · cases l <;> rfl

/-- What a step does to the handlers: it leaves them, starts one, takes the innermost one further or ends it. -/
inductive StackStep (p q : Party) : Prop where
  | same : q.stack = p.stack → StackStep p q
  | start (f : Frame) : q.stack = f :: p.stack → StackStep p q
  | further (f : Frame) (rest : List Frame) (phase : Phase) : p.stack = f :: rest →
    q.stack = { f with phase } :: rest → StackStep p q
  | stop (f : Frame) (rest : List Frame) (ret : Int) : p.stack = f :: rest →
    q = { p with stack := rest }.rpcDispatchEnd f.op ret → StackStep p q

theorem step_stack {e : Event A} {q : Party} {words : List (Word A)} (hs : p.step e = some (q, words)) :
    StackStep p q := by
  obtain ⟨r, hr⟩ : ∃ r, r = (q, words) := ⟨_, rfl⟩
  rw [← hr] at hs
  obtain rfl : r.1 = q := by rw [hr]
  cases steps_of_step hs with
  | invoke =>
    unfold rpcMethodInvoke
    split
    · exact .same rfl
    · split <;> exact .same rfl
  | waitForReply =>
    unfold rpcMethodWaitForReply
    split <;> exact .same rfl
  | @dispatch ret tag sent =>
    unfold rpcDispatch
    split
    · exact .same rfl
    · split
      · cases sent <;> exact .same rfl
      · split <;> exact .same rfl
  | @dispatchPendingSync ret readable sent =>
    unfold rpcDispatchPendingSync
    split
    · exact .same rfl
    · split
      · cases sent <;> exact .same rfl
      · exact .same rfl
  | sync =>
    unfold rpcSync
    split
    · exact .same rfl
    · split <;> exact .same rfl
  | endSync =>
    unfold rpcEndSync
    split
    · exact .same rfl
    · split <;> exact .same rfl
  | getArgs =>
    unfold rpcMethodGetArgs
    split <;> exact .same rfl
  | sendReply _ hstack =>
    unfold rpcMethodSendReply
    split
    · exact .same rfl
    · split
      · exact .same rfl
      · exact .further _ _ .replied hstack rfl
  | ret _ hstack =>
    obtain ⟨ret, hret⟩ := p.handlerReturns_eq (A := A) _ _ _ _
    exact .stop _ _ ret hstack hret
  | recvMarker => exact .same (recvMarker_stack _ _)
  | @recvHead op head =>
    unfold recvHead
    split
    · exact .same (rpcDispatchEnd_stack _ _)
    · split
      · exact .start _ rfl
      · exact .same (rpcDispatchEnd_stack _ _)
  | @recvArgs f rest values _ hstack =>
    cases values with
    | error error => exact .same rfl
    | ok => exact .further _ _ .args hstack rfl
  | @recvBody call values => cases values <;> exact .same rfl
  | ref => exact .same rfl
  | unref => exact .same rfl

/-! ### Dispatching -/

theorem rpcDispatchEnd_neg {op : Op} {ret : Int} (h : ret < 0) :
    p.rpcDispatchEnd op ret = { p with conn := p.conn.lowerDispatch }.leave op ret := if_pos h

theorem rpcDispatchEnd_dispatch {ret : Int} (h : ¬ret < 0) :
    p.rpcDispatchEnd .dispatch ret = { p with conn := p.conn.lowerDispatch, ctl := .user ret } := if_neg h

theorem rpcDispatchEnd_loop {l : Loop} {ret : Int} (h : ¬ret < 0) :
    p.rpcDispatchEnd (.loop l) ret = { p with conn := p.conn.lowerDispatch, ctl := .marker l } := if_neg h

theorem rpcDispatch_error (error : Err) (sent : Sent) :
    p.rpcDispatch (A := A) (.error error) sent = (p.fails error.val, []) := rfl

theorem rpcDispatch_sync (sent : Sent) :
    p.rpcDispatch (A := A) (.ok RpcMessage.sync) sent = p.rpcDispatchSync sent := rfl

theorem rpcDispatch_start (sent : Sent) :
    p.rpcDispatch (A := A) (.ok RpcMessage.start) sent = (p.rpcDispatchStart .dispatch, []) := rfl

theorem rpcDispatch_other {tag : Int32} (hsync : tag ≠ RpcMessage.sync) (hstart : tag ≠ RpcMessage.start) (sent : Sent) :
    p.rpcDispatch (A := A) (.ok tag) sent = (p.fails RpcError.messageTypeInvalid, []) := by
  simp only [rpcDispatch, hsync, hstart, if_false]

/-! ### Reads -/

theorem recvMarker_fail {l : Loop} {tag : Int32} {error : Int} (h : tagAction p.conn l.expected tag = .fail error) :
    p.recvMarker l (.ok tag) = p.leave (.loop l) error := by
  simp only [recvMarker, h]

theorem recvMarker_noteSync {l : Loop} {tag : Int32} (h : tagAction p.conn l.expected tag = .noteSync) :
    p.recvMarker l (.ok tag) = { p with conn := p.conn.noteSync } := by
  simp only [recvMarker, h]

theorem recvMarker_dispatch {l : Loop} {tag : Int32} (h : tagAction p.conn l.expected tag = .dispatch) :
    p.recvMarker l (.ok tag) = p.rpcDispatchStart (.loop l) := by
  simp only [recvMarker, h]

theorem recvMarker_done {l : Loop} {tag : Int32} (h : tagAction p.conn l.expected tag = .done) :
    p.recvMarker l (.ok tag) = p.loopEnd l := by
  simp only [recvMarker, h]

theorem recvHead_has {op : Op} {call : Call} {method : Int32} (h : p.methods.has method = true) :
    p.recvHead op (.ok (call, method)) =
      { p with stack := ⟨op, call, method, .fresh, p.methods.positive method h⟩ :: p.stack
               ctl := .user RpcError.noError } := dif_pos h

theorem recvHead_hasnot {op : Op} {call : Call} {method : Int32} (h : ¬p.methods.has method = true) :
    p.recvHead op (.ok (call, method)) = p.rpcDispatchEnd op RpcError.messageHandlerInvalid := dif_neg h

end Party
end NSPluginWrapper
