import NSPluginWrapper.Theorems.Party

/-! An operation that returns an error has told the owner of its connection, unless its loop is that of
    `_rpc_dispatch_sync`. -/

namespace NSPluginWrapper
open Lib

/-! ### An operation from its call to its return -/

/-- The public operations. -/
def Event.IsOperation {A : Type} : Event A → Prop
  | .invoke .. | .waitForReply | .dispatch .. | .dispatchPendingSync .. | .sync _ | .endSync _ | .getArgs
  | .sendReply .. => True
  | _ => False

/-- Control is back with the caller of an operation. -/
def Ctl.Returned : Ctl → Prop
  | .user _ | .invoked _ => True
  | _ => False

/-- Where the operation called at `s` by `e` gets to, whatever is read and whatever its handlers do. Only the
    frames above those of `s` are its own. -/
inductive Party.Runs {A : Type} (s : Party) (e : Event A) : Party → Prop where
  | call {t words} : s.step e = some (t, words) → Runs s e t
  | step {t u : Party} {e' words} : Runs s e t → ¬(t.stack.length = s.stack.length ∧ t.ctl.Returned) →
    t.step e' = some (u, words) → Runs s e u

/-- The operation called at `s` by `e` returns `ret`. -/
def Party.Returns {A : Type} (s : Party) (e : Event A) (t : Party) (ret : Int) : Prop :=
  s.Runs e t ∧ t.stack.length = s.stack.length ∧ t.ctl = .user ret

/-- `d` is not active, and the error callback has run since `c`. -/
def Connection.Told (c d : Connection) : Prop :=
  d.status ≠ .active ∧ (c.errorCallback ≠ .unset → c.callbacks < d.callbacks)

/-- An error the operation called at `s` returned at `t` is known: the owner has been told, and no later call
    is possible. -/
def Party.FailureTold {A : Type} (s t : Party) : Prop :=
  s.conn.Told t.conn ∧ ∀ u, (partyMachine A).Leads t u → u.conn.rpcMethodInvokePossible = false

/-- The operation that `e` calls gets to `_rpc_dispatch_sync`. -/
def Party.EntersSync {A : Type} (p : Party) : Event A → Prop
  | .dispatch (.ok tag) _ => tag = RpcMessage.sync
  | .dispatchPendingSync readable _ =>
    p.conn.hasPendingSync = true ∧ p.conn.pendingSyncDepth = 1 ∧ readable = false
  | _ => False

/-! ### Errors that go through `rpc_error` -/

namespace Connection
variable {c d e : Connection}

theorem rpcError_told {error : Int} (h : error ≠ 0) : c.Told (c.rpcError error) := by
  refine ⟨c.rpcError_status h, fun hcallback => ?_⟩
  rw [c.rpcError_callbacks h hcallback]
  exact Nat.lt_succ_self _

theorem Later.told (h : c.Later d) (ht : d.Told e) : c.Told e := by
  refine ⟨ht.1, fun hcallback => ?_⟩
  have hlt := ht.2 (h.errorCallback ▸ hcallback)
  exact Nat.lt_of_le_of_lt h.callbacks hlt

theorem Told.later (h : c.Told d) (hl : d.Later e) : c.Told e := by
  refine ⟨?_, fun hcallback => Nat.lt_of_lt_of_le (h.2 hcallback) hl.callbacks⟩
  rw [hl.inactive h.1]
  exact h.1

end Connection

/-- No part of `_rpc_dispatch_sync`. -/
def Ctl.Routed : Ctl → Prop
  | .marker l => l ≠ .dispatchSync
  | .head op => op ≠ .loop .dispatchSync
  | _ => True

/-- From `p` to `q` an operation has come no nearer to `_rpc_dispatch_sync`, and an error it returned is told. -/
structure Routed (p q : Party) : Prop where
  ctl : q.ctl.Routed
  told : ∀ ret, q.ctl = .user ret → ret < 0 → p.conn.Told q.conn

namespace Routed
variable {A : Type} {p q : Party}

/-- Not an error. -/
theorem of_nonneg {ret : Int} (hctl : q.ctl = .user ret) (h : 0 ≤ ret) : Routed p q := by
  refine ⟨hctl ▸ trivial, fun r hr hneg => ?_⟩
  rw [hctl] at hr
  cases hr
  omega

/-- Not at its end. -/
theorem of_ctl (h : q.ctl.Routed) (hne : ∀ ret, q.ctl ≠ .user ret) : Routed p q :=
  ⟨h, fun ret hret => absurd hret (hne ret)⟩

theorem later {p' : Party} (hl : p'.conn.Later p.conn) (h : Routed p q) : Routed p' q :=
  ⟨h.ctl, fun ret hret hneg => hl.told (h.told ret hret hneg)⟩

theorem fails {error : Int} (h : error < 0) : Routed p (p.fails error) :=
  ⟨trivial, fun _ _ _ => Connection.rpcError_told (by omega)⟩

theorem leave {op : Op} (hop : op ≠ .loop .dispatchSync) {error : Int} (h : error < 0) : Routed p (p.leave op error) := by
  match op with
  | .dispatch => exact fails h
  | .loop .sync => exact fails h
  | .loop .dispatchSync => exact absurd rfl hop
  | .loop (.wait call) =>
    have htold : p.conn.Told (p.conn.rpcError error) := Connection.rpcError_told (by omega)
    exact ⟨trivial, fun _ _ _ => htold.later (.of_eq rfl rfl rfl rfl)⟩

theorem rpcDispatchEnd {op : Op} (hop : op ≠ .loop .dispatchSync) (ret : Int) : Routed p (p.rpcDispatchEnd op ret) := by
  have hlow : p.conn.Later p.conn.lowerDispatch := .of_eq rfl rfl rfl rfl
  by_cases hneg : ret < 0
  · rw [Party.rpcDispatchEnd_neg hneg]
    exact (leave (p := { p with conn := p.conn.lowerDispatch }) hop hneg).later hlow
  · cases op with
    | dispatch =>
      rw [Party.rpcDispatchEnd_dispatch hneg]
      exact of_nonneg rfl (by omega)
    | loop l =>
      rw [Party.rpcDispatchEnd_loop hneg]
      refine of_ctl (fun hl => hop ?_) nofun
      rw [hl]

theorem recvMarker {l : Loop} (hl : l ≠ .dispatchSync) (hctl : p.ctl = .marker l) (tag : Except Err Int32) :
    Routed p (p.recvMarker l tag) := by
  have hop : Op.loop l ≠ .loop .dispatchSync := fun h => hl (Op.loop.inj h)
  cases tag with
  | error error => exact leave hop error.property
  | ok tag =>
    cases ht : tagAction p.conn l.expected tag with
    | fail error =>
      rw [Party.recvMarker_fail ht]
      exact leave hop (Party.tagAction_fail ht)
    | noteSync =>
      rw [Party.recvMarker_noteSync ht]
      refine of_ctl ?_ ?_
      · change p.ctl.Routed
        rw [hctl]
        exact hl
      · intro ret h
        cases hctl.symm.trans h
    | dispatch =>
      rw [Party.recvMarker_dispatch ht]
      exact of_ctl hop nofun
    | done =>
      rw [Party.recvMarker_done ht]
      match l with
      | .sync => exact of_nonneg rfl (Int.le_refl 0)
      | .dispatchSync => exact absurd rfl hl
      | .wait call => exact of_ctl trivial nofun

/-- The first step of an operation. -/
theorem call {e : Event A} {words : List (Word A)} (ha : p.conn.status = .active) (he : e.IsOperation)
    (hsync : ¬p.EntersSync e) (hs : p.step e = some (q, words)) : q.stack.length = p.stack.length ∧ Routed p q := by
  obtain ⟨r, hr⟩ : ∃ r, r = (q, words) := ⟨_, rfl⟩
  rw [← hr] at hs
  suffices h : r.1.stack.length = p.stack.length ∧ Routed p r.1 by rw [hr] at h; exact h
  have hopen : ¬p.conn.status = .closed := by rw [ha]; nofun
  cases Party.steps_of_step hs with
  | @invoke ret call method values sent =>
    cases sent with
    | error error =>
      simp only [Party.rpcMethodInvoke, if_neg hopen]
      have hraise : p.conn.Later p.conn.raiseInvoke := .of_eq rfl rfl rfl rfl
      exact ⟨rfl, (fails (p := { p with conn := p.conn.raiseInvoke }) error.property).later hraise⟩
    | ok =>
      simp only [Party.rpcMethodInvoke, if_neg hopen]
      exact ⟨trivial, of_ctl trivial nofun⟩
  | waitForReply =>
    simp only [Party.rpcMethodWaitForReply, if_neg hopen]
    exact ⟨trivial, of_ctl nofun nofun⟩
  | @dispatch ret tag sent =>
    cases tag with
    | error error => exact ⟨rfl, fails error.property⟩
    | ok tag =>
      have htag : tag ≠ RpcMessage.sync := hsync
      by_cases hstart : tag = RpcMessage.start
      · rw [hstart, Party.rpcDispatch_start]
        exact ⟨rfl, of_ctl nofun nofun⟩
      · rw [Party.rpcDispatch_other htag hstart]
        exact ⟨rfl, fails (by decide)⟩
  | @dispatchPendingSync ret readable sent =>
    unfold Party.rpcDispatchPendingSync
    split
    · exact ⟨rfl, of_nonneg rfl (Int.le_refl 0)⟩
    · rename_i hdepths
      split
      · rename_i hpending
        refine absurd ⟨?_, hpending⟩ hsync
        simp only [not_or] at hdepths
        simp [Connection.hasPendingSync, hdepths]
      · exact ⟨rfl, of_ctl trivial nofun⟩
  | @sync ret sent =>
    unfold Party.rpcSync
    split
    · exact ⟨rfl, of_ctl trivial nofun⟩
    · cases sent with
      | error error => exact ⟨rfl, fails error.property⟩
      | ok => exact ⟨rfl, of_ctl nofun nofun⟩
  | @endSync ret sent =>
    unfold Party.rpcEndSync
    split
    · exact ⟨rfl, fails (by decide)⟩
    · cases sent with
      | error error => exact ⟨rfl, fails error.property⟩
      | ok => exact ⟨rfl, of_nonneg rfl (Int.le_refl 0)⟩
  | getArgs =>
    simp only [Party.rpcMethodGetArgs, if_neg hopen]
    exact ⟨trivial, of_ctl trivial nofun⟩
  | @sendReply ret f rest values sent hctl hstack =>
    cases sent with
    | error error =>
      simp only [Party.rpcMethodSendReply, if_neg hopen]
      have herror : error.val < 0 := error.property
      have htold : p.conn.Told (p.conn.rpcError error.val) := Connection.rpcError_told (by omega)
      exact ⟨trivial, trivial, fun _ _ _ => htold.later (.of_eq rfl rfl rfl rfl)⟩
    | ok =>
      simp only [Party.rpcMethodSendReply, if_neg hopen]
      exact ⟨by rw [hstack]; rfl, of_nonneg rfl (Int.le_refl 0)⟩
  | ret => exact he.elim
  | recvMarker => exact he.elim
  | recvHead => exact he.elim
  | recvArgs => exact he.elim
  | recvBody => exact he.elim
  | ref => exact he.elim
  | unref => exact he.elim

/-- What is read for the operation itself. -/
theorem read {e : Event A} {words : List (Word A)} (hctl : p.ctl.Routed) (hret : ¬p.ctl.Returned)
    (hs : p.step e = some (q, words)) :
    (q.stack = p.stack ∨ ∃ f, f.op ≠ .loop .dispatchSync ∧ q.stack = f :: p.stack) ∧ Routed p q ∨
    ∃ f rest, p.stack = f :: rest ∧ q.stack = { f with phase := .args } :: rest ∧ Routed p q := by
  obtain ⟨r, hr⟩ : ∃ r, r = (q, words) := ⟨_, rfl⟩
  rw [← hr] at hs
  obtain rfl : r.1 = q := by rw [hr]
  cases Party.steps_of_step hs with
  | recvMarker h =>
    rw [h] at hctl
    exact Or.inl ⟨Or.inl (Party.recvMarker_stack _ _), recvMarker hctl h _⟩
  | @recvHead op head h =>
    rw [h] at hctl
    have hop : op ≠ .loop .dispatchSync := hctl
    cases head with
    | error error => exact Or.inl ⟨Or.inl (Party.rpcDispatchEnd_stack _ _), rpcDispatchEnd hop _⟩
    | ok head =>
      obtain ⟨call, method⟩ := head
      by_cases hm : p.methods.has method = true
      · rw [Party.recvHead_has hm]
        exact Or.inl ⟨Or.inr ⟨_, hop, rfl⟩, of_nonneg rfl (Int.le_refl 0)⟩
      · simp only [Party.recvHead_hasnot hm]
        exact Or.inl ⟨Or.inl (Party.rpcDispatchEnd_stack _ _), rpcDispatchEnd hop _⟩
  | @recvArgs f rest values h hstack =>
    cases values with
    | error error => exact Or.inl ⟨Or.inl rfl, fails error.property⟩
    | ok => exact Or.inr ⟨f, rest, hstack, rfl, of_nonneg rfl (Int.le_refl 0)⟩
  | @recvBody call values h =>
    cases values with
    | error error =>
      have herror : error.val < 0 := error.property
      have htold : p.conn.Told (p.conn.rpcError error.val) := Connection.rpcError_told (by omega)
      exact Or.inl ⟨Or.inl rfl, trivial, fun _ _ _ => htold.later (.of_eq rfl rfl rfl rfl)⟩
    | ok => exact Or.inl ⟨Or.inl rfl, of_nonneg rfl (Int.le_refl 0)⟩
  | waitForReply h => exact absurd (h ▸ trivial) hret
  | invoke h => exact absurd (h ▸ trivial) hret
  | dispatch h => exact absurd (h ▸ trivial) hret
  | dispatchPendingSync h => exact absurd (h ▸ trivial) hret
  | sync h => exact absurd (h ▸ trivial) hret
  | endSync h => exact absurd (h ▸ trivial) hret
  | getArgs h => exact absurd (h ▸ trivial) hret
  | sendReply h => exact absurd (h ▸ trivial) hret
  | ret h => exact absurd (h ▸ trivial) hret
  | ref h => exact absurd (h ▸ trivial) hret
  | unref h => exact absurd (h ▸ trivial) hret

end Routed

/-! ### Whole operations -/

/-- The operation called at `s` runs, with `s.stack.length` frames below it: by itself, or in a handler it has
    dispatched. -/
inductive Underway (s t : Party) : Prop where
  | self : t.stack.length = s.stack.length → Routed s t → Underway s t
  | handler (above : List Frame) (f : Frame) (below : List Frame) : t.stack = above ++ f :: below →
    below.length = s.stack.length → f.op ≠ .loop .dispatchSync → s.conn.Later t.conn → Underway s t

namespace Underway
variable {A : Type} {s t u : Party} {e : Event A}

theorem step {words : List (Word A)} (h : Underway s t) (hl : s.conn.Later t.conn)
    (hret : ¬(t.stack.length = s.stack.length ∧ t.ctl.Returned)) (hs : t.step e = some (u, words)) : Underway s u := by
  have hlater := hl.trans (Party.step_later hs)
  cases h with
  | self hlen hr =>
    rcases Routed.read hr.ctl (fun h => hret ⟨hlen, h⟩) hs with ⟨hstack | ⟨f, hf, hstack⟩, hu⟩ | ⟨f, rest, hstack, hstack', hu⟩
    · exact .self (by rw [hstack, hlen]) (hu.later hl)
    · exact .handler [] f t.stack hstack hlen hf hlater
    · exact .self (by rw [← hlen, hstack, hstack']; rfl) (hu.later hl)
  | handler above f below hstack hlen hf =>
    cases Party.step_stack hs with
    | same hu => exact .handler above f below (hu.trans hstack) hlen hf hlater
    | start g hu => exact .handler (g :: above) f below (by rw [hu, hstack]; rfl) hlen hf hlater
    | further g rest phase ht hu =>
      rw [hstack] at ht
      cases above with
      | nil =>
        cases ht
        exact .handler [] { f with phase } below hu hlen hf hlater
      | cons a above =>
        cases ht
        exact .handler ({ g with phase } :: above) f below hu hlen hf hlater
    | stop g rest ret ht hu =>
      rw [hstack] at ht
      cases above with
      | nil =>
        -- The outermost handler of the operation returns to it.
        cases ht
        rw [hu]
        refine .self ?_ ?_
        · rw [Party.rpcDispatchEnd_stack]
          exact hlen
        · exact Routed.later (p := { t with stack := below }) hl (Routed.rpcDispatchEnd hf ret)
      | cons a above =>
        cases ht
        refine .handler above f below ?_ hlen hf hlater
        rw [hu, Party.rpcDispatchEnd_stack]
        rfl

theorem of_runs (ha : s.conn.status = .active) (he : e.IsOperation) (hsync : ¬s.EntersSync e) (h : s.Runs e t) :
    Underway s t ∧ s.conn.Later t.conn := by
  induction h with
  | call hs =>
    obtain ⟨hlen, hr⟩ := Routed.call ha he hsync hs
    exact ⟨.self hlen hr, Party.step_later hs⟩
  | step _ hret hs ih =>
    obtain ⟨hu, hl⟩ := ih
    exact ⟨hu.step hl hret hs, hl.trans (Party.step_later hs)⟩

theorem told (h : Underway s t) (hlen : t.stack.length = s.stack.length) {ret : Int} (hctl : t.ctl = .user ret)
    (hneg : ret < 0) : s.conn.Told t.conn := by
  cases h with
  | self _ hr => exact hr.told ret hctl hneg
  | handler above f below hstack hbelow =>
    rw [hstack, List.length_append, List.length_cons] at hlen
    omega

end Underway

section
variable {A : Type} {s : Party} {e : Event A}

theorem invokePossible_of_leads {t u : Party} (h : (partyMachine A).Leads t u) (ht : t.conn.status ≠ .active) :
    u.conn.rpcMethodInvokePossible = false := by
  have hu : u.conn.status ≠ .active := by
    refine h.invariant (fun p => p.conn.status ≠ .active) ?_ ht
    rintro p e q hp ⟨words, hs⟩
    rw [Party.step_inactive hp hs]
    exact hp
  simp [Connection.rpcMethodInvokePossible, hu]

theorem dispatchSync_of_entersSync (he : s.EntersSync e) {r : Party × List (Word A)} (hs : s.step e = some r) :
    ∃ (sent : Sent) (p : Party), p.stack = s.stack ∧ p.conn.status = s.conn.status ∧ r = p.rpcDispatchSync sent := by
  cases Party.steps_of_step hs with
  | @dispatch ret tag sent =>
    cases tag with
    | error error => exact he.elim
    | ok tag =>
      obtain rfl : tag = RpcMessage.sync := he
      exact ⟨sent, s, rfl, rfl, Party.rpcDispatch_sync sent⟩
  | @dispatchPendingSync ret readable sent =>
    obtain ⟨hpending, hone⟩ := he
    have hdepths : ¬(0 < s.conn.invokeDepth ∨ 0 < s.conn.handleDepth ∨ s.conn.pendingSyncDepth = 0) := by
      simpa [Connection.hasPendingSync, not_or, and_assoc] using hpending
    refine ⟨sent, { s with conn := s.conn.clearPendingSync }, rfl, rfl, ?_⟩
    rw [Party.rpcDispatchPendingSync, if_neg hdepths, if_pos hone]
  | _ => exact he.elim

/-- The connection is closed in the loop of `_rpc_dispatch_sync`. -/
theorem fails_untold (he : s.EntersSync e) {r : Party × List (Word A)} (hs : s.step e = some r) :
    ∃ t ret, s.Returns e t ret ∧ ret < 0 ∧ t.conn.status = s.conn.status := by
  obtain ⟨sent, p, hstack, hstatus, rfl⟩ := dispatchSync_of_entersSync he hs
  cases sent with
  | error error => exact ⟨_, error.val, ⟨.call hs, congrArg _ hstack, rfl⟩, error.property, hstatus⟩
  | ok =>
    let closed : Event A := .recvMarker (.error ⟨RpcError.connectionClosed, by decide⟩)
    have hread : (p.rpcDispatchSync (A := A) (.ok ())).1.step closed =
      some ({ p with conn := p.conn.touch }.returns RpcError.connectionClosed, []) := rfl
    have hruns := Party.Runs.step (.call hs) (fun h => h.2) hread
    exact ⟨_, _, ⟨hruns, congrArg _ hstack, rfl⟩, by decide, hstatus⟩

/-- Every error an operation returns is known, unless it gets to `_rpc_dispatch_sync`. -/
theorem failures_told (ha : s.conn.status = .active) (he : e.IsOperation) {r : Party × List (Word A)}
    (hs : s.step e = some r) :
    (∀ t ret, s.Returns e t ret → ret < 0 → Party.FailureTold (A := A) s t) ↔ ¬s.EntersSync e := by
  constructor
  · intro h hsync
    obtain ⟨t, ret, hret, hneg, hstatus⟩ := fails_untold hsync hs
    exact (h t ret hret hneg).1.1 (hstatus.trans ha)
  · rintro hsync t ret ⟨hruns, hlen, hctl⟩ hneg
    have htold := (Underway.of_runs ha he hsync hruns).1.told hlen hctl hneg
    exact ⟨htold, fun u hu => invokePossible_of_leads hu htold.1⟩

end

/-! ### The error nobody is told -/

/-- The wrapper grants a SYNC, and the viewer closes its end. -/
theorem sync_failure_untold : ∃ (s t : Party) (e : Event Unit), (partyMachine Unit).Reachable s ∧
    s.conn.status = .active ∧ s.conn.errorCallback = .killPlugin ∧ e.IsOperation ∧
    s.Returns e t RpcError.connectionClosed ∧ t.conn.status = .active ∧ t.conn.callbacks = 0 := by
  let s := Party.opened .client .killPlugin
  let granted : Event Unit := .dispatch (.ok RpcMessage.sync) (.ok ())
  let closed : Event Unit := .recvMarker (.error ⟨RpcError.connectionClosed, by decide⟩)
  have hgrant : s.step granted = some (s.rpcDispatchSync (.ok ())) := rfl
  have hclose : (s.rpcDispatchSync (A := Unit) (.ok ())).1.step closed = some (s.returns RpcError.connectionClosed, []) :=
    rfl
  have hruns := Party.Runs.step (.call hgrant) (fun h => h.2) hclose
  exact ⟨s, _, granted, .init (Party.opened_init _ _), rfl, rfl, trivial, ⟨hruns, rfl, rfl⟩, rfl, rfl⟩

/-- A reply where a call has to start. -/
theorem unexpected_marker_told : ∃ s t, s.Returns (Event.dispatch (A := Unit) (.ok RpcMessage.reply) (.ok ())) t
    RpcError.messageTypeInvalid ∧ Party.FailureTold (A := Unit) s t := by
  let s := Party.opened .client .killPlugin
  let e : Event Unit := .dispatch (.ok RpcMessage.reply) (.ok ())
  have hsync : ¬s.EntersSync e := by
    intro h
    exact absurd h (show RpcMessage.reply ≠ RpcMessage.sync by decide)
  have hstep : s.step e = some (s.fails RpcError.messageTypeInvalid, []) := rfl
  have hreturns : s.Returns e (s.fails RpcError.messageTypeInvalid) RpcError.messageTypeInvalid :=
    ⟨.call hstep, rfl, rfl⟩
  have he : e.IsOperation := trivial
  exact ⟨s, _, hreturns, (failures_told rfl he hstep).mpr hsync _ _ hreturns (by decide)⟩

end NSPluginWrapper
