import NSPluginWrapper.Theorems.Party
import NSPluginWrapper.Rpc.Session

/-! What each act of a live session comes to, by what the acting end is in. -/

namespace NSPluginWrapper

namespace Session
variable {A : Type} {s t : Session A} {side : ConnectionType} {act : Act A}

section
variable (s : Session A) (side : ConnectionType) (p : Party) (rest words : List (Word A)) (entries : List (Entry A))

@[simp] theorem after_party_self : (s.after side p rest words entries).party side = p := Function.update_self _ _ _

@[simp] theorem after_party_other : (s.after side p rest words entries).party side.other = s.party side.other :=
  Function.update_of_ne side.other_ne _ _

@[simp] theorem after_incoming_self : (s.after side p rest words entries).incoming side = rest :=
  (Function.update_of_ne side.ne_other _ _).trans (Function.update_self _ _ _)

@[simp] theorem after_incoming_other :
    (s.after side p rest words entries).incoming side.other = s.incoming side.other ++ words := Function.update_self _ _ _

end

/-- The event of each act. -/
inductive Acts (s : Session A) (side : ConnectionType) : Act A → Event A → List (Word A) → Prop where
  | invoke {m a} : Acts s side (.invoke m a) (.invoke ⟨side, s.steps⟩ m a (.ok ())) (s.incoming side)
  | waitForReply : Acts s side .waitForReply .waitForReply (s.incoming side)
  | dispatch {tag ws} : s.incoming side = .marker tag :: ws →
    Acts s side .dispatch (.dispatch (.ok tag) (.ok ())) ws
  | dispatchPendingSync : Acts s side .dispatchPendingSync
    (.dispatchPendingSync (!(s.incoming side).isEmpty) (.ok ())) (s.incoming side)
  | sync : Acts s side .sync (.sync (.ok ())) (s.incoming side)
  | endSync : Acts s side .endSync (.endSync (.ok ())) (s.incoming side)
  | getArgs : Acts s side .getArgs .getArgs (s.incoming side)
  | sendReply {a} : Acts s side (.sendReply a) (.sendReply a (.ok ())) (s.incoming side)
  | ret {code} : Acts s side (.ret code) (.ret code (.ok ())) (s.incoming side)
  | recvMarker {l tag ws} : (s.party side).ctl = .marker l → s.incoming side = .marker tag :: ws →
    Acts s side .read (.recvMarker (.ok tag)) ws
  | recvHead {op c m ws} : (s.party side).ctl = .head op → s.incoming side = .head c m :: ws →
    Acts s side .read (.recvHead (.ok (c, m))) ws
  | recvArgs {c a ws} : (s.party side).ctl = .args → s.incoming side = .args c a :: ws →
    Acts s side .read (.recvArgs (.ok a)) ws
  | recvBody {c c' a ws} : (s.party side).ctl = .body c → s.incoming side = .body c' a :: ws →
    Acts s side .read (.recvBody (.ok a)) ws

theorem acts_of_event {e : Event A} {rest : List (Word A)} (h : s.event side act = some (e, rest)) :
    s.Acts side act e rest := by
  unfold event at h
  split at h <;> cases h
  · exact .invoke
  · exact .waitForReply
  · exact .dispatch ‹_›
  · exact .dispatchPendingSync
  · exact .sync
  · exact .endSync
  · exact .getArgs
  · exact .sendReply
  · exact .ret
  · exact .recvMarker ‹_› ‹_›
  · exact .recvHead ‹_› ‹_›
  · exact .recvArgs ‹_› ‹_›
  · exact .recvBody ‹_› ‹_›

theorem acts_of_step (hs : s.step side act = some t) : ∃ e rest r, s.Acts side act e rest ∧ (s.party side).Steps e r ∧
    (s.party side).step e = some r ∧ t = s.after side r.1 rest r.2 ((s.party side).entries e r.1) := by
  unfold step at hs
  split at hs
  · cases hs
  · split at hs
    · cases hs
    · cases hs
      exact ⟨_, _, _, acts_of_event ‹_›, Party.steps_of_step ‹_›, ‹_›, rfl⟩

/-! ### What is logged -/

/-- `q` is not the end of an operation that failed. -/
def Unfailed (q : Party) : Prop := ∀ ret, q.ctl = .user ret → 0 ≤ ret

theorem failure_nil {q : Party} (h : Unfailed q) (call : Call) : q.failure (A := A) call = [] := by
  unfold Party.failure
  split
  · rename_i ret hret
    have hpos := h ret hret
    exact if_neg (by omega)
  · rfl

section
attribute [local simp] Party.entries
variable {p q : Party} (h : Unfailed q)
include h

theorem entries_recvMarker {l : Loop} (hctl : p.ctl = .marker l) (tag : Except Err Int32) :
    p.entries (A := A) (.recvMarker tag) q = [] := by
  cases l <;> simp [hctl, failure_nil h]

theorem entries_recvHead {op : Op} (hctl : p.ctl = .head op) (head : Except Err (Call × Int32)) :
    p.entries (A := A) (.recvHead head) q = [] := by
  rcases op with _ | l
  · simp [hctl]
  · cases l <;> simp [hctl, failure_nil h]

theorem entries_ret {ret : Int} (hctl : p.ctl = .user ret) (code : Int) (sent : Sent) :
    p.entries (A := A) (.ret code sent) q = [] := by
  unfold Party.entries
  split <;> first | rfl | simp_all [failure_nil h]

end

/-! ### Between two functions, and in a read -/

theorem step_invoked {c : Call} (hctl : (s.party side).ctl = .invoked c) (hopen : (s.party side).conn.status = .active)
    (hs : s.step side act = some t) : t = s.after side
      { s.party side with conn := (s.party side).conn.touch, ctl := .marker (.wait c) } (s.incoming side) [] [] := by
  obtain ⟨e, rest, r, hact, hstep, -, rfl⟩ := acts_of_step hs
  cases hstep with
  | waitForReply h =>
    obtain rfl : c = _ := Ctl.invoked.inj (hctl.symm.trans h)
    cases hact
    simp [Party.rpcMethodWaitForReply, hopen, Party.entries, hctl]
  | _ => simp_all

theorem step_marker {l : Loop} (hctl : (s.party side).ctl = .marker l) (hs : s.step side act = some t) :
    ∃ tag rest, s.incoming side = .marker tag :: rest ∧ t = s.after side ((s.party side).recvMarker l (.ok tag)) rest []
      ((s.party side).entries (.recvMarker (.ok tag)) ((s.party side).recvMarker l (.ok tag))) := by
  obtain ⟨e, rest, r, hact, hstep, -, rfl⟩ := acts_of_step hs
  cases hstep with
  | recvMarker h =>
    obtain rfl : l = _ := Ctl.marker.inj (hctl.symm.trans h)
    cases hact with
    | recvMarker _ hws => exact ⟨_, _, hws, rfl⟩
  | _ => simp_all

theorem step_head {op : Op} (hctl : (s.party side).ctl = .head op) (hs : s.step side act = some t) :
    ∃ c m rest, s.incoming side = .head c m :: rest ∧ t = s.after side ((s.party side).recvHead op (.ok (c, m))) rest []
      ((s.party side).entries (.recvHead (.ok (c, m))) ((s.party side).recvHead op (.ok (c, m)))) := by
  obtain ⟨e, rest, r, hact, hstep, -, rfl⟩ := acts_of_step hs
  cases hstep with
  | recvHead h =>
    obtain rfl : op = _ := Ctl.head.inj (hctl.symm.trans h)
    cases hact with
    | recvHead _ hws => exact ⟨_, _, _, hws, rfl⟩
  | _ => simp_all

theorem step_args (hctl : (s.party side).ctl = .args) {f : Frame} {xs : List Frame}
    (hstack : (s.party side).stack = f :: xs) (hs : s.step side act = some t) :
    ∃ c a rest, s.incoming side = .args c a :: rest ∧ t = s.after side
      { s.party side with stack := { f with phase := .args } :: xs, ctl := .user RpcError.noError } rest []
      [.gotArgs f.call a] := by
  obtain ⟨e, rest, r, hact, hstep, -, rfl⟩ := acts_of_step hs
  cases hstep with
  | recvArgs _ h =>
    obtain ⟨rfl, rfl⟩ := List.cons.inj (hstack.symm.trans h)
    cases hact with
    | recvArgs _ hws =>
      refine ⟨_, _, _, hws, ?_⟩
      simp [Party.recvArgs, Party.entries, hctl, hstack]
  | _ => simp_all

theorem step_body {c : Call} (hctl : (s.party side).ctl = .body c) (hs : s.step side act = some t) :
    ∃ c' a rest, s.incoming side = .body c' a :: rest ∧ t = s.after side
      { s.party side with conn := (s.party side).conn.lowerInvoke, ctl := .user RpcError.noError } rest []
      [.returned c a] := by
  obtain ⟨e, rest, r, hact, hstep, -, rfl⟩ := acts_of_step hs
  cases hstep with
  | recvBody h =>
    cases hact with
    | recvBody _ hws =>
      refine ⟨_, _, _, hws, ?_⟩
      simp [Party.recvBody, Party.entries, hctl]
  | _ => simp_all

/-! ### Calls of user code -/

section
variable {r : Int} (hctl : (s.party side).ctl = .user r) (hopen : (s.party side).conn.status = .active)
include hctl

section
include hopen

theorem step_invoke {m : Int32} {a : A} (hs : s.step side (.invoke m a) = some t) : t = s.after side
    { s.party side with conn := (s.party side).conn.raiseInvoke, ctl := .invoked ⟨side, s.steps⟩ } (s.incoming side)
    [.marker RpcMessage.start, .head ⟨side, s.steps⟩ m, .args ⟨side, s.steps⟩ a] [.invoked ⟨side, s.steps⟩ m a] := by
  simp only [step, event, Party.step, hctl, Party.rpcMethodInvoke, hopen, Party.entries] at hs
  exact (Option.some.inj hs).symm

theorem step_getArgs (hs : s.step side .getArgs = some t) : t = s.after side
    { s.party side with conn := (s.party side).conn.raiseHandle, ctl := .args } (s.incoming side) [] [] := by
  simp only [step, event, Party.step, hctl, Party.rpcMethodGetArgs, hopen, Party.entries] at hs
  exact (Option.some.inj hs).symm

theorem step_sendReply {f : Frame} {xs : List Frame} (hstack : (s.party side).stack = f :: xs) {a : A}
    (hs : s.step side (.sendReply a) = some t) : t = s.after side
    { s.party side with conn := (s.party side).conn.lowerHandle
                        ctl := .user RpcError.noError
                        stack := { f with phase := .replied } :: xs }
    (s.incoming side) [.marker RpcMessage.reply, .body f.call a] [.replied f.call a] := by
  simp only [step, event, Party.step, hctl, hstack, Party.rpcMethodSendReply, hopen, Party.entries] at hs
  exact (Option.some.inj hs).symm

end

theorem step_dispatch (hs : s.step side .dispatch = some t) : ∃ tag rest, s.incoming side = .marker tag :: rest ∧
    t = s.after side ((s.party side).rpcDispatch (A := A) (.ok tag) (.ok ())).1 rest
      ((s.party side).rpcDispatch (.ok tag) (.ok ())).2 [] := by
  obtain ⟨e, rest, r, hact, hstep, -, rfl⟩ := acts_of_step hs
  cases hact with
  | dispatch hws =>
    cases hstep
    refine ⟨_, _, hws, ?_⟩
    simp [Party.entries, hctl]

theorem step_dispatchPendingSync (hs : s.step side .dispatchPendingSync = some t) :
    t = s.after side ((s.party side).rpcDispatchPendingSync (A := A) (!(s.incoming side).isEmpty) (.ok ())).1
      (s.incoming side) ((s.party side).rpcDispatchPendingSync (!(s.incoming side).isEmpty) (.ok ())).2 [] := by
  obtain ⟨e, rest, r, hact, hstep, -, rfl⟩ := acts_of_step hs
  cases hact
  cases hstep
  simp [Party.entries, hctl]

theorem step_sync (hsync : (s.party side).conn.isSync = false) (hs : s.step side .sync = some t) : t = s.after side
    { s.party side with conn := (s.party side).conn.touch, ctl := .marker .sync } (s.incoming side)
    [.marker RpcMessage.sync] [] := by
  simp only [step, event, Party.step, hctl, Party.rpcSync, hsync, Party.entries] at hs
  exact (Option.some.inj hs).symm

theorem step_endSync (hsync : (s.party side).conn.isSync = true) (hs : s.step side .endSync = some t) : t = s.after side
    { s.party side with conn := (s.party side).conn.setSync false, ctl := .user RpcError.noError } (s.incoming side)
    [.marker RpcMessage.syncEnd] [] := by
  simp only [step, event, Party.step, hctl, Party.rpcEndSync, hsync, Party.entries] at hs
  exact (Option.some.inj hs).symm

/-- A handler that has replied returns. -/
theorem step_ret {f : Frame} {xs : List Frame} (hstack : (s.party side).stack = f :: xs)
    (hs : s.step side (.ret RpcError.noError) = some t) : t = s.after side
    ({ s.party side with stack := xs }.rpcDispatchEnd f.op f.method.toInt) (s.incoming side) []
    ((s.party side).entries (A := A) (.ret RpcError.noError (.ok ()))
      ({ s.party side with stack := xs }.rpcDispatchEnd f.op f.method.toInt)) := by
  simp only [step, event, Party.step, hctl, hstack, Party.handlerReturns] at hs
  exact (Option.some.inj hs).symm

end

end Session
end NSPluginWrapper
