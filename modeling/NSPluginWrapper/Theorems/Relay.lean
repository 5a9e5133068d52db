import NSPluginWrapper.Theorems.Errors
import NSPluginWrapper.Theorems.Exclusion

/-! What becomes of a call whose handler fails: `_rpc_dispatch_until` does not know the marker of a failure, so
    `rpc_method_wait_for_reply` returns another error than the handler's, and its connection is broken. -/

namespace NSPluginWrapper
open Lib

/-! ### Handlers that fail -/

section
variable {A : Type}

/-- The handler of `call` has its arguments, has not replied, and may return `code`. -/
def Session.HandlerFails (s : Session A) (side : ConnectionType) (call : Call) (code : Int) : Prop :=
  (∃ ret, (s.party side).ctl = .user ret) ∧
  (∃ f rest, (s.party side).stack = f :: rest ∧ f.call = call ∧ f.phase = .args) ∧ Party.relayed code = true

/-- An entry that tells what `rpc_method_wait_for_reply` returned. -/
def Entry.Ends : Entry A → Prop
  | .returned .. | .failed .. => True
  | _ => False

/-- The wait of `call` has returned the error of its handler, and both connections can still be used. -/
def Session.Relayed (s : Session A) (call : Call) (code : Int) : Prop :=
  (call.caller, .failed call code) ∈ s.log ∧ ∀ side, (s.party side).conn.status = .active

end

/-- What a conforming end may do, and a handler that may fail. -/
def Session.MayStep {A : Type} (s : Session A) (side : ConnectionType) (act : Act A) : Prop :=
  s.Conforms side act ∨ ∃ call code, act = .ret code ∧ s.HandlerFails side call code

/-- Two conforming ends whose handlers may fail. -/
def failingSession (A : Type) : Machine (Session A) (ConnectionType × Act A) :=
  (sessionMachine A).restrict fun s x => s.MayStep x.1 x.2

/-! ### The calls an end waits for -/

/-- `rpc_method_wait_for_reply` of `call` is on the call stack, or comes next. -/
def Party.Awaits (p : Party) (call : Call) : Prop :=
  p.ctl.awaited = some call ∨ ∃ f ∈ p.stack, f.op.awaited = some call

namespace Party
variable {A : Type} {p q : Party} {call : Call}

theorem leave_awaited (op : Op) (error : Int) : (p.leave op error).ctl.awaited = none := by
  match op with
  | .dispatch => rfl
  | .loop .sync => rfl
  | .loop .dispatchSync => rfl
  | .loop (.wait call) => rfl

theorem rpcDispatchEnd_awaited {op : Op} {ret : Int} (h : (p.rpcDispatchEnd op ret).ctl.awaited = some call) :
    op.awaited = some call := by
  by_cases hneg : ret < 0
  · rw [rpcDispatchEnd_neg hneg, leave_awaited] at h
    cases h
  · cases op with
    | dispatch =>
      rw [rpcDispatchEnd_dispatch hneg] at h
      cases h
    | loop l =>
      rw [rpcDispatchEnd_loop hneg] at h
      exact h

/-- An end that waits for a call after a dispatch in `op` waited for it before. -/
theorem Awaits.of_dispatchEnd {op : Op} {ret : Int} (h : (p.rpcDispatchEnd op ret).Awaits call) :
    op.awaited = some call ∨ ∃ f ∈ p.stack, f.op.awaited = some call := by
  rcases h with h | ⟨f, hf, hop⟩
  · exact Or.inl (rpcDispatchEnd_awaited h)
  · rw [rpcDispatchEnd_stack] at hf
    exact Or.inr ⟨f, hf, hop⟩

theorem Awaits.of_stack (h : q.Awaits call) (hctl : q.ctl.awaited = none) (hstack : q.stack = p.stack) :
    p.Awaits call := by
  rcases h with h | ⟨f, hf, hop⟩
  · rw [hctl] at h
    cases h
  · exact Or.inr ⟨f, hstack ▸ hf, hop⟩

theorem Awaits.of_recvMarker {l : Loop} {tag : Except Err Int32} (hctl : p.ctl = .marker l)
    (h : (p.recvMarker l tag).Awaits call) : p.Awaits call := by
  rcases h with h | ⟨f, hf, hop⟩
  · refine Or.inl ?_
    rw [hctl]
    cases tag with
    | error error =>
      rw [recvMarker, leave_awaited] at h
      cases h
    | ok tag =>
      cases ht : tagAction p.conn l.expected tag with
      | fail error =>
        rw [recvMarker_fail ht, leave_awaited] at h
        cases h
      | noteSync =>
        rw [recvMarker_noteSync ht] at h
        exact hctl ▸ h
      | dispatch =>
        rw [recvMarker_dispatch ht] at h
        exact h
      | done =>
        rw [recvMarker_done ht] at h
        cases l <;> exact h
  · rw [recvMarker_stack] at hf
    exact Or.inr ⟨f, hf, hop⟩

theorem Awaits.of_recvHead {op : Op} {head : Except Err (Call × Int32)} (hctl : p.ctl = .head op)
    (h : (p.recvHead op head).Awaits call) : p.Awaits call := by
  have hop (hop : op.awaited = some call) : p.Awaits call := Or.inl (hctl ▸ hop)
  cases head with
  | error error => exact h.of_dispatchEnd.elim hop Or.inr
  | ok head =>
    obtain ⟨c, method⟩ := head
    by_cases hm : p.methods.has method = true
    · rw [recvHead_has hm] at h
      rcases h with h | ⟨f, hf, hf'⟩
      · cases h
      · rcases List.mem_cons.mp hf with rfl | hf
        · exact hop hf'
        · exact Or.inr ⟨f, hf, hf'⟩
    · rw [recvHead_hasnot hm] at h
      exact h.of_dispatchEnd.elim hop Or.inr

/-- An end waits only for what it has invoked. -/
theorem Awaits.of_step {e : Event A} {words : List (Word A)} (hs : p.step e = some (q, words)) (h : q.Awaits call) :
    p.Awaits call ∨ ∃ method values sent, e = .invoke call method values sent := by
  obtain ⟨r, hr⟩ : ∃ r, r = (q, words) := ⟨_, rfl⟩
  rw [← hr] at hs
  obtain rfl : r.1 = q := by rw [hr]
  clear hr
  have hframe {f g : Frame} {rest : List Frame} (hstack : p.stack = f :: rest) (hop : g.op = f.op)
      (hmem : ∃ x ∈ g :: rest, x.op.awaited = some call) : p.Awaits call := by
    obtain ⟨x, hx, hx'⟩ := hmem
    rcases List.mem_cons.mp hx with rfl | hx
    · exact Or.inr ⟨f, hstack ▸ List.mem_cons_self, hop ▸ hx'⟩
    · exact Or.inr ⟨x, hstack ▸ List.mem_cons_of_mem _ hx, hx'⟩
  have hquiet (hq : r.1.ctl.awaited = none ∧ r.1.stack = p.stack) :
      p.Awaits call ∨ ∃ method values sent, e = .invoke call method values sent := Or.inl (h.of_stack hq.1 hq.2)
  cases steps_of_step hs with
  | @invoke ret c method values sent =>
    by_cases hc : c = call
    · subst hc
      exact Or.inr ⟨_, _, _, rfl⟩
    · refine Or.inl ?_
      unfold rpcMethodInvoke at h
      split at h
      · exact h.of_stack rfl rfl
      · cases sent with
        | error error => exact h.of_stack rfl rfl
        | ok =>
          rcases h with h | h
          · exact absurd (Option.some.inj h) hc
          · exact Or.inr h
  | @waitForReply c hctl =>
    refine Or.inl ?_
    unfold rpcMethodWaitForReply at h
    split at h
    · exact h.of_stack rfl rfl
    · rcases h with h | h
      · exact Or.inl (hctl ▸ h)
      · exact Or.inr h
  | @dispatch ret tag sent =>
    refine hquiet ?_
    unfold rpcDispatch
    split
    · exact ⟨rfl, rfl⟩
    · split
      · cases sent <;> exact ⟨rfl, rfl⟩
      · split <;> exact ⟨rfl, rfl⟩
  | @dispatchPendingSync ret readable sent =>
    refine hquiet ?_
    unfold rpcDispatchPendingSync
    split
    · exact ⟨rfl, rfl⟩
    · split
      · cases sent <;> exact ⟨rfl, rfl⟩
      · exact ⟨rfl, rfl⟩
  | @sync ret sent =>
    refine hquiet ?_
    unfold rpcSync
    split
    · exact ⟨rfl, rfl⟩
    · cases sent <;> exact ⟨rfl, rfl⟩
  | @endSync ret sent =>
    refine hquiet ?_
    unfold rpcEndSync
    split
    · exact ⟨rfl, rfl⟩
    · cases sent <;> exact ⟨rfl, rfl⟩
  | getArgs =>
    refine hquiet ?_
    unfold rpcMethodGetArgs
    split <;> exact ⟨rfl, rfl⟩
  | @sendReply ret f rest values sent hctl hstack =>
    refine Or.inl ?_
    unfold rpcMethodSendReply at h
    split at h
    · exact h.of_stack rfl rfl
    · cases sent with
      | error error => exact h.of_stack rfl rfl
      | ok =>
        rcases h with h | h
        · cases h
        · exact hframe (g := { f with phase := .replied }) hstack rfl h
  | @ret ret f rest code sent hctl hstack =>
    obtain ⟨ret, hret⟩ := p.handlerReturns_eq (A := A) f rest code sent
    rw [hret] at h
    rcases h.of_dispatchEnd with hop | ⟨g, hg, hop⟩
    · exact Or.inl (Or.inr ⟨f, hstack ▸ List.mem_cons_self, hop⟩)
    · exact Or.inl (Or.inr ⟨g, hstack ▸ List.mem_cons_of_mem _ hg, hop⟩)
  | recvMarker hctl => exact Or.inl (h.of_recvMarker hctl)
  | recvHead hctl => exact Or.inl (h.of_recvHead hctl)
  | @recvArgs f rest values hctl hstack =>
    cases values with
    | error error => exact Or.inl (h.of_stack rfl rfl)
    | ok =>
      rcases h with h | h
      · cases h
      · exact Or.inl (hframe (g := { f with phase := .args }) hstack rfl h)
  | @recvBody c values =>
    refine hquiet ?_
    cases values <;> exact ⟨rfl, rfl⟩
  | ref hctl =>
    rcases h with h | h
    · exact Or.inl (Or.inl h)
    · exact Or.inl (Or.inr h)
  | unref hctl =>
    rcases h with h | h
    · exact Or.inl (Or.inl h)
    · exact Or.inl (Or.inr h)

/-! ### What is logged of a wait -/

theorem mem_failure {x : Entry A} (h : x ∈ q.failure call) : ∃ ret, q.ctl = .user ret ∧ ret < 0 ∧ x = .failed call ret := by
  unfold failure at h
  split at h
  · rename_i ret hctl
    split at h
    · exact ⟨ret, hctl, ‹_›, List.mem_singleton.mp h⟩
    · cases h
  · cases h

theorem awaits_of_ends {e : Event A} {x : Entry A} (hx : x ∈ p.entries e q) (hends : x.Ends) : p.Awaits x.call := by
  unfold entries at hx
  split at hx
  · obtain rfl := List.mem_singleton.mp hx
    exact hends.elim
  · obtain rfl := List.mem_singleton.mp hx
    exact hends.elim
  · obtain rfl := List.mem_singleton.mp hx
    exact hends.elim
  · rename_i hctl
    obtain rfl := List.mem_singleton.mp hx
    exact Or.inl (hctl ▸ rfl)
  · rename_i hctl
    obtain ⟨ret, -, -, rfl⟩ := mem_failure hx
    exact Or.inl (hctl ▸ rfl)
  · rename_i hctl
    obtain ⟨ret, -, -, rfl⟩ := mem_failure hx
    exact Or.inl (hctl ▸ rfl)
  · rename_i hstack
    obtain ⟨ret, -, -, rfl⟩ := mem_failure hx
    exact Or.inr ⟨_, hstack ▸ List.mem_cons_self, rfl⟩
  · cases hx

/-- `rpc_method_wait_for_reply` returns its errors through `rpc_error`. -/
theorem failed_inactive {e : Event A} {words : List (Word A)} (hs : p.step e = some (q, words)) {error : Int}
    (hx : .failed call error ∈ p.entries e q) : q.conn.status ≠ .active := by
  obtain ⟨r, hr⟩ : ∃ r, r = (q, words) := ⟨_, rfl⟩
  rw [← hr] at hs
  obtain rfl : r.1 = q := by rw [hr]
  clear hr
  have hend {p' : Party} {c : Call} {ret ret' : Int} (hret : (p'.rpcDispatchEnd (.loop (.wait c)) ret').ctl = .user ret)
      (hneg : ret < 0) : (p'.rpcDispatchEnd (.loop (.wait c)) ret').conn.status ≠ .active := by
    have hne : Op.loop (.wait c) ≠ .loop .dispatchSync := by simp
    exact ((Routed.rpcDispatchEnd hne ret').told ret hret hneg).1
  unfold entries at hx
  split at hx
  · cases List.mem_singleton.mp hx
  · cases List.mem_singleton.mp hx
  · cases List.mem_singleton.mp hx
  · cases List.mem_singleton.mp hx
  · rename_i c tag hctl
    obtain ⟨ret, hret, hneg, -⟩ := mem_failure hx
    cases steps_of_step hs with
    | recvMarker hctl' =>
      cases hctl.symm.trans hctl'
      have hne : Loop.wait c ≠ .dispatchSync := by simp
      exact ((Routed.recvMarker hne hctl _).told ret hret hneg).1
  · rename_i head hctl
    obtain ⟨ret, hret, hneg, -⟩ := mem_failure hx
    cases steps_of_step hs with
    | recvHead hctl' =>
      cases hctl.symm.trans hctl'
      rcases head with error | ⟨c, method⟩
      · exact hend hret hneg
      · by_cases hm : p.methods.has method = true
        · rw [recvHead_has hm] at hret
          cases hret
          exact absurd hneg (by decide)
        · simp only [recvHead_hasnot hm] at hret ⊢
          exact hend hret hneg
  · rename_i hstack
    obtain ⟨ret, hret, hneg, -⟩ := mem_failure hx
    cases steps_of_step hs with
    | ret hctl' hstack' =>
      cases hstack.symm.trans hstack'
      obtain ⟨code, hcode⟩ := p.handlerReturns_eq (A := A) _ _ _ _
      rw [hcode] at hret ⊢
      exact hend hret hneg
  · cases hx

end Party

section
variable {A : Type} {s t u : Session A} {side : ConnectionType} {act : Act A} {call : Call} {code : Int}

/-- An end one of whose waits has failed has a broken connection. -/
theorem Session.failed_inactive (h : (sessionMachine A).Reachable s) {error : Int}
    (hx : (side, .failed call error) ∈ s.log) : (s.party side).conn.status ≠ .active := by
  suffices hall : ∀ x ∈ s.log, ∀ error, x.2 = .failed x.2.call error → (s.party x.1).conn.status ≠ .active from
    hall _ hx error rfl
  refine h.invariant (fun s => ∀ x ∈ s.log, ∀ error, x.2 = .failed x.2.call error → (s.party x.1).conn.status ≠ .active)
    ?_ ?_
  · intro s hs x hx
    rw [hs.log] at hx
    cases hx
  · rintro s ⟨side, act⟩ t - ih hs x hx error herror
    obtain ⟨e, rest, r, -, -, hstep, rfl⟩ := Session.acts_of_step hs
    rcases List.mem_append.mp hx with hx | hx
    · have hne := ih x hx error herror
      rcases x.1.eq_or_other side with heq | heq
      · rw [heq] at hne ⊢
        rw [Session.after_party_self, Party.step_inactive hne hstep]
        exact hne
      · rw [heq] at hne ⊢
        rw [Session.after_party_other]
        exact hne
    · obtain ⟨y, hy, rfl⟩ := List.mem_map.mp hx
      rw [Session.after_party_self]
      have hy' : .failed y.call error ∈ (s.party side).entries e r.1 := (show y = .failed y.call error from herror) ▸ hy
      exact Party.failed_inactive hstep hy'

/-- No failure is relayed, whatever the two ends do. -/
theorem Session.not_relayed (h : (sessionMachine A).Reachable s) : ¬s.Relayed call code := by
  rintro ⟨hfailed, hactive⟩
  exact Session.failed_inactive h hfailed (hactive _)

/-! ### Turns of a handler that fails -/

/-- The calls that handlers were dispatched by are open, below the innermost one. -/
theorem Linked.awaited {k : Root} {sd : ConnectionType} {xs ys : List Frame} {op : Op} {os : List (Call × History A)}
    (h : Linked k sd xs ys op os) {c : Call} (hc : op.awaited = some c ∨ ∃ f ∈ xs ++ ys, f.op.awaited = some c) :
    c ∈ os.map Prod.fst := by
  induction h with
  | idle => simp [Op.awaited] at hc
  | syncing => simp [Op.awaited, Loop.awaited] at hc
  | granted => simp [Op.awaited, Loop.awaited] at hc
  | @call k sd xs ys os f values _ _ _ ih =>
    rw [List.map_cons, List.mem_cons]
    rcases hc with hc | ⟨g, hg, hc⟩
    · exact Or.inl (Option.some.inj hc).symm
    · rcases List.mem_cons.mp hg with rfl | hg
      · exact Or.inr (ih (Or.inl hc))
      · exact Or.inr (ih (Or.inr ⟨g, List.mem_append.mpr (List.mem_append.mp hg).symm, hc⟩))

/-- A handler that may fail has the turn, and the end it fails waits for its call. -/
theorem Sound.handlerFails {has : ConnectionType → Int32 → Bool} {k : Root} {pos : ConnectionType → Position}
    {base : ConnectionType → List (Word A)} {os : List (Call × History A)} (h : Sound s has k pos base os)
    (hf : s.HandlerFails side call code) : call.caller = side.other ∧ base side.other = [] ∧
    (∃ m a, s.history call = Handled call m a) ∧ call.serial < s.steps ∧
    ∃ xs, (s.party side.other).At (.waits xs (.loop (.wait call))) ∧ ∀ f ∈ xs, f.op.awaited ≠ some call := by
  obtain ⟨⟨ret, hctl⟩, ⟨f, rest, hstack, rfl, hphase⟩, -⟩ := hf
  have hpos : pos side = .runs (f :: rest) := by
    have hat := h.party side
    generalize pos side = a at hat
    cases hat with
    | runs hs => rw [← hs, hstack]
    | idle hs => cases hstack.symm.trans hs
    | replied g hs hg =>
      cases hstack.symm.trans hs
      cases hphase.symm.trans hg
    | fresh hs hg =>
      cases hstack.symm.trans hs
      cases hphase.symm.trans hg
    | called _ hc => rcases hc with hc | hc <;> cases hctl.symm.trans hc
    | loop _ hc => cases hctl.symm.trans hc
    | invoked _ hc => cases hctl.symm.trans hc
    | head _ hc => cases hctl.symm.trans hc
    | body _ hc => cases hctl.symm.trans hc
  obtain ⟨ys, op, hl, hother, -, hbase⟩ := h.turn.of_runs hpos
  have hat := h.party side.other
  rw [hother] at hat
  have hledger := h.ledger
  cases hl with
  | call _ values hl hcaller =>
    have hnot := (List.nodup_cons.mp hledger.nodup).1
    refine ⟨by rw [hcaller, ConnectionType.other_other], hbase, ⟨f.method, values, ?_⟩, ?_, ys, hat, fun g hg hop => ?_⟩
    · exact hledger.opened _ List.mem_cons_self
    · exact hledger.before _ List.mem_cons_self
    · exact hnot (hl.awaited (Or.inr ⟨g, List.mem_append_left _ hg, hop⟩))

/-! ### The wait of a call whose handler has failed -/

/-- The wait of `call` has a failure to read, behind a SYNC at most. -/
structure Waiting (s : Session A) (call : Call) : Prop where
  position : ∃ xs, (s.party call.caller).At (.waits xs (.loop (.wait call))) ∧ ∀ f ∈ xs, f.op.awaited ≠ some call
  status : (s.party call.caller).conn.status = .active
  incoming : ∃ rest, s.incoming call.caller = .marker RpcMessage.failure :: rest ∨
    (s.party call.caller).conn.isSyncAllowed = true ∧
      s.incoming call.caller = .marker RpcMessage.sync :: .marker RpcMessage.failure :: rest

/-- The wait of `call` has failed, or has nothing else to do. -/
structure Doomed (s : Session A) (call : Call) : Prop where
  logged : ∀ x, (call.caller, x) ∈ s.log → x.call = call → x.Ends → x = .failed call RpcError.messageTypeInvalid
  before : call.serial < s.steps
  wait : Waiting s call ∨
    ¬(s.party call.caller).Awaits call ∧ (call.caller, .failed call RpcError.messageTypeInvalid) ∈ s.log

section
variable {rest : List (Word A)}

theorem waitForReply_step (hctl : (s.party side).ctl = .invoked call) (hopen : (s.party side).conn.status = .active) :
    s.step side .waitForReply = some (s.after side
      { s.party side with conn := (s.party side).conn.touch, ctl := .marker (.wait call) } (s.incoming side) [] []) := by
  simp [Session.step, Session.event, hctl, Party.step, Party.rpcMethodWaitForReply, hopen, Party.entries]

theorem ret_step {f : Frame} {xs : List Frame} {ret : Int} (hctl : (s.party side).ctl = .user ret)
    (hstack : (s.party side).stack = f :: xs) (hop : f.op = .loop (.wait call)) :
    s.step side (.ret RpcError.noError) = some (s.after side
      { s.party side with stack := xs, conn := (s.party side).conn.lowerDispatch, ctl := .marker (.wait call) }
      (s.incoming side) [] []) := by
  have hpositive := f.positive
  have hnonneg : ¬f.method.toInt < 0 := by omega
  have hq := Party.rpcDispatchEnd_loop (p := { s.party side with stack := xs }) (l := .wait call) hnonneg
  rw [← hop] at hq
  have hunfailed : Session.Unfailed { s.party side with stack := xs, conn := (s.party side).conn.lowerDispatch
                                                        ctl := .marker (.wait call) } := nofun
  have hs : s.step side (.ret RpcError.noError) = some (s.after side
      ({ s.party side with stack := xs }.rpcDispatchEnd f.op f.method.toInt) (s.incoming side) []
      ((s.party side).entries (.ret RpcError.noError (.ok ()))
        ({ s.party side with stack := xs }.rpcDispatchEnd f.op f.method.toInt))) := by
    simp only [Session.step, Session.event, Party.step, hctl, hstack, Party.handlerReturns]
    rfl
  rw [hs, hq, Session.entries_ret hunfailed hctl]

section
variable (hctl : (s.party side).ctl = .marker (.wait call))
include hctl

theorem marker_step {tag : Int32} (hws : s.incoming side = .marker tag :: rest) : s.step side .read = some (s.after side
    ((s.party side).recvMarker (.wait call) (.ok tag)) rest []
    ((s.party side).entries (.recvMarker (.ok tag)) ((s.party side).recvMarker (.wait call) (.ok tag)))) := by
  simp only [Session.step, Session.event, hctl, hws, Party.step]

theorem sync_step (hallowed : (s.party side).conn.isSyncAllowed = true)
    (hws : s.incoming side = .marker RpcMessage.sync :: rest) : s.step side .read = some (s.after side
      { s.party side with conn := (s.party side).conn.noteSync } rest [] []) := by
  have hnote : tagAction (s.party side).conn (Loop.wait call).expected RpcMessage.sync = .noteSync := by
    simp [tagAction, Loop.expected, hallowed]
  have hunfailed : Session.Unfailed { s.party side with conn := (s.party side).conn.noteSync } := by
    intro ret hret
    cases hctl.symm.trans hret
  rw [marker_step hctl hws, Party.recvMarker_noteSync hnote, Session.entries_recvMarker hunfailed hctl]

theorem failure_step (hws : s.incoming side = .marker RpcMessage.failure :: rest) :
    s.step side .read = some (s.after side ((s.party side).leave (.loop (.wait call)) RpcError.messageTypeInvalid) rest []
      [.failed call RpcError.messageTypeInvalid]) := by
  have hfail : tagAction (s.party side).conn (Loop.wait call).expected RpcMessage.failure =
      .fail RpcError.messageTypeInvalid := rfl
  have hentries : (s.party side).entries (A := A) (.recvMarker (.ok RpcMessage.failure))
      ((s.party side).leave (.loop (.wait call)) RpcError.messageTypeInvalid) =
        [.failed call RpcError.messageTypeInvalid] := by
    simp [Party.entries, hctl, Party.failure, Party.leave]
  rw [marker_step hctl hws, Party.recvMarker_fail hfail, hentries]

theorem read_of_marker (hs : s.step side act = some t) : act = .read := by
  obtain ⟨e, ws, r, hact, hstep, -, -⟩ := Session.acts_of_step hs
  cases hstep with
  | recvMarker h => cases hact; rfl
  | _ => simp_all

end

theorem waitForReply_of_invoked (hctl : (s.party side).ctl = .invoked call) (hs : s.step side act = some t) :
    act = .waitForReply := by
  obtain ⟨e, ws, r, hact, hstep, -, -⟩ := Session.acts_of_step hs
  cases hstep with
  | waitForReply h => cases hact; rfl
  | _ => simp_all

end

/-! ### Runs after the failure -/

/-- How many steps of its own the wait is from the failure, at most. -/
def Session.delay (s : Session A) (call : Call) : Nat :=
  2 * (s.incoming call.caller).length + if (s.party call.caller).ctl = .marker (.wait call) then 0 else 1

/-- The one step that the end in the wait can take: the wait goes on, or returns the error. -/
structure Waiting.Step (s : Session A) (call : Call) (act : Act A) (t : Session A) : Prop where
  conforms : s.Conforms call.caller act
  step : s.step call.caller act = some t
  only : ∀ act' t', s.MayStep call.caller act' → s.step call.caller act' = some t' → act' = act
  outcome : Waiting t call ∧ t.log = s.log ∧ t.delay call < s.delay call ∨
    ¬(t.party call.caller).Awaits call ∧ t.log = s.log ++ [(call.caller, .failed call RpcError.messageTypeInvalid)]

theorem Waiting.of_marker (hctl : (s.party call.caller).ctl = .marker (.wait call))
    (hnot : ∀ f ∈ (s.party call.caller).stack, f.op.awaited ≠ some call) (hopen : (s.party call.caller).conn.status = .active)
    (hws : ∃ ws, s.incoming call.caller = .marker RpcMessage.failure :: ws ∨
      (s.party call.caller).conn.isSyncAllowed = true ∧
        s.incoming call.caller = .marker RpcMessage.sync :: .marker RpcMessage.failure :: ws) : Waiting s call :=
  ⟨⟨_, .loop rfl hctl, hnot⟩, hopen, hws⟩

theorem Waiting.next (hw : Waiting s call) : ∃ act t, Waiting.Step s call act t := by
  obtain ⟨⟨xs, hat, hnot⟩, hopen, ws, hws⟩ := hw
  generalize hop : Op.loop (.wait call) = op at hat
  generalize ha : Position.waits xs op = a at hat
  cases hat with
  | loop hstack hctl =>
    cases ha
    cases hop
    have hread : s.Conforms call.caller .read := by simp [Session.Conforms, hctl]
    rcases hws with hws | ⟨hallowed, hws⟩
    · refine ⟨_, _, hread, failure_step hctl hws, fun _ _ _ hs => read_of_marker hctl hs, Or.inr ⟨?_, rfl⟩⟩
      rw [Session.after_party_self]
      rintro (hwait | ⟨f, hf, hop⟩)
      · rw [Party.leave_awaited] at hwait
        cases hwait
      · rw [Party.leave_stack, hstack] at hf
        exact hnot f hf hop
    · refine ⟨_, _, hread, sync_step hctl hallowed hws, fun _ _ _ hs => read_of_marker hctl hs, Or.inl ⟨?_, ?_, ?_⟩⟩
      · refine Waiting.of_marker ?_ ?_ ?_ ⟨ws, Or.inl ?_⟩
        · rw [Session.after_party_self, ← hctl]
        · rw [Session.after_party_self]
          exact hstack ▸ hnot
        · rw [Session.after_party_self, ← hopen]
          rfl
        · rw [Session.after_incoming_self]
      · exact List.append_nil _
      · simp only [Session.delay, Session.after_party_self, Session.after_incoming_self, hctl, hws, if_true,
          List.length_cons]
        omega
  | invoked hstack hctl =>
    cases ha
    cases hop
    refine ⟨_, _, ?_, waitForReply_step hctl hopen, fun _ _ _ hs => waitForReply_of_invoked hctl hs, Or.inl ⟨?_, ?_, ?_⟩⟩
    · simp [Session.Conforms, hctl]
    · refine Waiting.of_marker ?_ ?_ ?_ ⟨ws, ?_⟩
      · rw [Session.after_party_self]
      · rw [Session.after_party_self]
        exact hstack ▸ hnot
      · rw [Session.after_party_self, ← hopen]
        rfl
      · rw [Session.after_party_self, Session.after_incoming_self]
        exact hws
    · exact List.append_nil _
    · simp [Session.delay, hctl]
  | idle =>
    cases ha
    cases hop
  | replied f hstack hphase hctl =>
    cases ha
    refine ⟨_, _, ?_, ret_step hctl hstack hop.symm, ?_, Or.inl ⟨?_, ?_, ?_⟩⟩
    · simp [Session.Conforms, hctl, hstack, hphase]
    · rintro act' t' (hc | ⟨c, code, -, -, ⟨g, rest, hstack', -, hphase'⟩, -⟩) -
      · cases act' <;> simp_all [Session.Conforms]
      · cases hstack.symm.trans hstack'
        cases hphase.symm.trans hphase'
    · refine Waiting.of_marker ?_ ?_ ?_ ⟨ws, ?_⟩
      · rw [Session.after_party_self]
      · rw [Session.after_party_self]
        exact hnot
      · rw [Session.after_party_self, ← hopen]
        rfl
      · rw [Session.after_party_self, Session.after_incoming_self]
        exact hws
    · exact List.append_nil _
    · simp [Session.delay, hctl]
  | _ => cases ha

section
variable {p : Party} {rest words : List (Word A)} {entries : List (Entry A)}

theorem other_after_party : (s.after side.other p rest words entries).party side = s.party side :=
  Function.update_of_ne side.ne_other _ _

theorem other_after_incoming : (s.after side.other p rest words entries).incoming side = s.incoming side ++ words := by
  have hself := s.after_incoming_other side.other p rest words entries
  rwa [ConnectionType.other_other] at hself

/-- A step of the other end leaves the wait as it is. -/
theorem Waiting.other (hw : Waiting s call) : Waiting (s.after call.caller.other p rest words entries) call := by
  obtain ⟨hposition, hopen, ws, hws⟩ := hw
  refine ⟨?_, ?_, ws ++ words, ?_⟩
  · rw [other_after_party]
    exact hposition
  · rw [other_after_party]
    exact hopen
  rw [other_after_party, other_after_incoming]
  rcases hws with hws | ⟨hallowed, hws⟩
  · exact Or.inl (by rw [hws]; rfl)
  · exact Or.inr ⟨hallowed, by rw [hws]; rfl⟩

end

theorem Doomed.step (h : Doomed s call) (hmay : s.MayStep side act) (hs : s.step side act = some t) : Doomed t call := by
  obtain ⟨hlogged, hbefore, hwait⟩ := h
  obtain ⟨e, rest, r, hact, -, hstep, ht⟩ := Session.acts_of_step hs
  have hsteps : t.steps = s.steps + 1 := by rw [ht]; rfl
  have hbefore' : call.serial < t.steps := by omega
  rcases side.eq_or_other call.caller with rfl | rfl
  · rcases hwait with hwait | ⟨hnot, hfailed⟩
    · obtain ⟨act', u, hnext⟩ := hwait.next
      obtain rfl := hnext.only _ _ hmay hs
      obtain rfl := Option.some.inj (hs.symm.trans hnext.step)
      rcases hnext.outcome with ⟨hwait', hlog, -⟩ | ⟨hnot, hlog⟩
      · exact ⟨hlog ▸ hlogged, hbefore', Or.inl hwait'⟩
      · refine ⟨fun x hx hcall hends => ?_, hbefore', Or.inr ⟨hnot, ?_⟩⟩
        · rw [hlog, List.mem_append, List.mem_singleton] at hx
          rcases hx with hx | hx
          · exact hlogged x hx hcall hends
          · cases hx
            rfl
        · rw [hlog]
          exact List.mem_append_right _ List.mem_cons_self
    · refine ⟨fun x hx hcall hends => ?_, hbefore', Or.inr ⟨?_, ?_⟩⟩
      · rw [ht] at hx
        rcases List.mem_append.mp hx with hx | hx
        · exact hlogged x hx hcall hends
        · obtain ⟨y, hy, heq⟩ := List.mem_map.mp hx
          cases heq
          have hawaits := Party.awaits_of_ends hy hends
          rw [hcall] at hawaits
          exact absurd hawaits hnot
      · rw [ht, Session.after_party_self]
        intro hwait
        rcases hwait.of_step hstep with hwait | ⟨m, v, sent, he⟩
        · exact hnot hwait
        · cases hact with
          | invoke =>
            rw [← (Event.invoke.inj he).1] at hbefore
            exact Nat.lt_irrefl _ hbefore
          | _ => cases he
      · rw [ht]
        exact List.mem_append_left _ hfailed
  · have hlogged' : ∀ x, (call.caller, x) ∈ t.log → (call.caller, x) ∈ s.log := by
      intro x hx
      rw [ht] at hx
      rcases List.mem_append.mp hx with hx | hx
      · exact hx
      · obtain ⟨y, -, heq⟩ := List.mem_map.mp hx
        exact absurd (congrArg Prod.fst heq) call.caller.other_ne
    refine ⟨fun x hx => hlogged x (hlogged' x hx), hbefore', ?_⟩
    rcases hwait with hwait | ⟨hnot, hfailed⟩
    · exact Or.inl (ht ▸ hwait.other)
    · refine Or.inr ⟨?_, ?_⟩
      · rw [ht, other_after_party]
        exact hnot
      · rw [ht]
        exact List.mem_append_left _ hfailed

/-- The failing handler has sent its failure. -/
theorem Doomed.of_failure (h : InTurn s) (hf : s.HandlerFails side call code) (hs : s.step side (.ret code) = some t) :
    Doomed t call := by
  obtain ⟨has, k, pos, base, os, hsound⟩ := h
  obtain ⟨hcaller, hbase, ⟨m, a, hhistory⟩, hbefore, xs, hat, hnot⟩ := hsound.handlerFails hf
  obtain ⟨⟨ret, hctl⟩, ⟨f, rest, hstack, -, -⟩, hrelayed⟩ := hf
  obtain ⟨e, ws, r, hact, -, hstep, ht⟩ := Session.acts_of_step hs
  obtain ⟨q, hr⟩ : ∃ q, r = (q, [.marker RpcMessage.failure, .code code]) := by
    cases hact
    simp only [Party.step, hctl, hstack, Party.handlerReturns, hrelayed, if_true] at hstep
    by_cases hzero : code = RpcError.noError
    · rw [hzero] at hrelayed
      cases hrelayed
    · rw [if_neg hzero] at hstep
      exact ⟨_, (Option.some.inj hstep).symm⟩
  obtain rfl : side = call.caller.other := by rw [hcaller, ConnectionType.other_other]
  rw [ConnectionType.other_other] at hat hbase
  refine ⟨fun x hx hcall hends => ?_, ?_, Or.inl ⟨⟨xs, ?_, hnot⟩, ?_, [.code code], ?_⟩⟩
  · rw [ht] at hx
    rcases List.mem_append.mp hx with hx | hx
    · have hmem : (call.caller, x) ∈ s.history call := List.mem_filter.mpr ⟨hx, by simpa using hcall⟩
      rw [hhistory] at hmem
      simp only [Handled, Invoked, List.cons_append, List.nil_append, List.mem_cons, Prod.mk.injEq, List.not_mem_nil,
        or_false] at hmem
      rcases hmem with ⟨-, rfl⟩ | ⟨heq, -⟩
      · exact hends.elim
      · exact absurd heq call.caller.ne_other
    · obtain ⟨y, -, heq⟩ := List.mem_map.mp hx
      exact absurd (congrArg Prod.fst heq) call.caller.other_ne
  · rw [ht]
    exact Nat.lt_succ_of_lt hbefore
  · rw [ht, other_after_party]
    exact hat
  · rw [ht, other_after_party]
    exact (hsound.alive call.caller).status
  · rw [ht, other_after_party, other_after_incoming, hr]
    rcases hin : s.incoming call.caller with _ | ⟨x, ws⟩
    · exact Or.inl rfl
    · rcases hsound.channels.head hin with ⟨vs, hvs⟩ | ⟨hclient, rfl, -, hnil, hpending, -, -⟩
      · cases hvs.symm.trans hbase
      · rw [hclient] at hbase ⊢
        obtain rfl := hnil.symm.trans hbase
        refine Or.inr ⟨?_, rfl⟩
        simp [Connection.isSyncAllowed, Connection.isSyncMode, (hsound.alive .client).type, hpending]

/-- The wait can go on until it returns. -/
theorem Waiting.fails (hw : Waiting s call) :
    ∃ u, (failingSession A).Leads s u ∧ (call.caller, .failed call RpcError.messageTypeInvalid) ∈ u.log := by
  generalize hn : s.delay call = n
  induction n using Nat.strong_induction_on generalizing s with
  | _ n ih =>
    obtain ⟨act, t, hnext⟩ := hw.next
    have hstep : (failingSession A).step s (call.caller, act) t := ⟨Or.inl hnext.conforms, hnext.step⟩
    rcases hnext.outcome with ⟨hwait, -, hless⟩ | ⟨-, hlog⟩
    · obtain ⟨u, hleads, hmem⟩ := ih _ (hn ▸ hless) hwait rfl
      exact ⟨u, (Machine.Leads.of_step hstep).trans hleads, hmem⟩
    · refine ⟨t, .of_step hstep, ?_⟩
      rw [hlog]
      exact List.mem_append_right _ List.mem_cons_self

/-! ### No failure is relayed -/

/-- The wait of a call whose handler fails returns no more than a protocol error, and can return it; no failure is
    relayed, even after others. -/
theorem failures_unrelayed (h : (failingSession A).Reachable s) (hf : s.HandlerFails side call code)
    (hs : s.step side (.ret code) = some t) (hl : (failingSession A).Leads t u) : ¬u.Relayed call code ∧
    ((conformingSession A).Reachable s →
      (∀ x, (call.caller, x) ∈ u.log → x.call = call → x.Ends → x = .failed call RpcError.messageTypeInvalid) ∧
      ∃ v, (failingSession A).Leads u v ∧ (call.caller, .failed call RpcError.messageTypeInvalid) ∈ v.log) := by
  have hstep : (failingSession A).step s (side, .ret code) t := ⟨Or.inr ⟨call, code, rfl, hf⟩, hs⟩
  refine ⟨Session.not_relayed ((h.step hstep).leads hl).of_restrict, fun hc => ?_⟩
  have hdoomed : Doomed u call := by
    refine hl.invariant (Doomed · call) ?_ (Doomed.of_failure (inTurn_of_reachable hc) hf hs)
    exact fun s x t hd hs => hd.step hs.1 hs.2
  refine ⟨hdoomed.logged, ?_⟩
  rcases hdoomed.wait with hwait | ⟨-, hfailed⟩
  · exact hwait.fails
  · exact ⟨u, .refl u, hfailed⟩

end

/-- The viewer's handler of a call fails: the wrapper's connection is broken, and the error code is left unread. -/
theorem failure_unknown : ∃ s t u : Session Nat, (conformingSession Nat).Reachable s ∧
    s.HandlerFails .server ⟨.client, 0⟩ RpcError.generic ∧ s.step .server (.ret RpcError.generic) = some t ∧
    (failingSession Nat).Leads t u ∧ (.client, .failed ⟨.client, 0⟩ RpcError.messageTypeInvalid) ∈ u.log ∧
    (∀ side, (u.party side).conn.status = .broken) ∧ u.incoming .client = [.code RpcError.generic] := by
  have h₀ := Machine.Reachable.init (m := conformingSession Nat) Session.opened_init
  have h₁ := h₀.next (.client, .invoke 1 7) ⟨⟨rfl, fun _ => rfl⟩, rfl⟩
  have h₂ := h₁.next (.client, .waitForReply) ⟨trivial, rfl⟩
  have h₃ := h₂.next (.server, .dispatch) ⟨rfl, rfl⟩
  have h₄ := h₃.next (.server, .read) ⟨trivial, rfl⟩
  have h₅ := h₄.next (.server, .getArgs) ⟨trivial, rfl⟩
  have h₆ := h₅.next (.server, .read) ⟨trivial, rfl⟩
  refine ⟨_, _, _, h₆, ⟨⟨_, rfl⟩, ⟨_, _, rfl, rfl, rfl⟩, rfl⟩, rfl,
    .of_step (e := (.client, .read)) ⟨Or.inl trivial, rfl⟩, ?_, fun side => ?_, rfl⟩
  · exact List.mem_append_right _ List.mem_cons_self
  · cases side <;> rfl

/-- The failure on its way. -/
theorem failure_underway : ∃ t : Session Nat, ¬t.Relayed ⟨.client, 0⟩ RpcError.generic ∧
    ∃ v, (failingSession Nat).Leads t v ∧ (.client, .failed ⟨.client, 0⟩ RpcError.messageTypeInvalid) ∈ v.log := by
  have h₀ := Machine.Reachable.init (m := conformingSession Nat) Session.opened_init
  have h₁ := h₀.next (.client, .invoke 1 7) ⟨⟨rfl, fun _ => rfl⟩, rfl⟩
  have h₂ := h₁.next (.client, .waitForReply) ⟨trivial, rfl⟩
  have h₃ := h₂.next (.server, .dispatch) ⟨rfl, rfl⟩
  have h₄ := h₃.next (.server, .read) ⟨trivial, rfl⟩
  have h₅ := h₄.next (.server, .getArgs) ⟨trivial, rfl⟩
  have h₆ := h₅.next (.server, .read) ⟨trivial, rfl⟩
  suffices hfails : ∀ s t : Session Nat, (conformingSession Nat).Reachable s →
      s.HandlerFails .server ⟨.client, 0⟩ RpcError.generic → s.step .server (.ret RpcError.generic) = some t →
      ¬t.Relayed ⟨.client, 0⟩ RpcError.generic ∧ ∃ v, (failingSession Nat).Leads t v ∧
        (.client, .failed ⟨.client, 0⟩ RpcError.messageTypeInvalid) ∈ v.log from
    ⟨_, hfails _ _ h₆ ⟨⟨_, rfl⟩, ⟨_, _, rfl, rfl, rfl⟩, rfl⟩ rfl⟩
  intro s t h hf hs
  obtain ⟨hnot, hfailed⟩ := failures_unrelayed (h.restrict_mono fun _ _ => Or.inl) hf hs (.refl t)
  exact ⟨hnot, (hfailed h).2⟩

end NSPluginWrapper
