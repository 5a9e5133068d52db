import NSPluginWrapper.Theorems.Exclusion

/-! A MESSAGE_SYNC_ACK that had to wait: as long as the viewer lives nothing comes after its SYNC, so both
    assertions of `rpc_dispatch_pending_sync` hold; a viewer that dies before the answer leaves an end of stream to
    read. -/

namespace NSPluginWrapper
open Lib

variable {A : Type} {s : Session A} {m t : Mortal A}

/-- A death that leaves no SYNC unanswered: none is pending, and none is still to be read. -/
def Mortal.Answered (m : Mortal A) : MortalAct A → Prop
  | .die arrived => (m.session.party .client).conn.pendingSyncDepth = 0 ∧
    .marker RpcMessage.sync ∉ (m.session.incoming .client).take arrived
  | _ => True

/-- The wrapper has no SYNC to answer. -/
def Unsynced (s : Session A) : Prop :=
  (s.party .client).conn.pendingSyncDepth = 0 ∧ .marker RpcMessage.sync ∉ s.incoming .client

/-- What is read is the next word. -/
theorem Session.orphan_reads {act : Act A} {sent : Sent} {error : Err} {e : Event A} {rest : List (Word A)}
    (h : s.orphan act sent error = some (e, rest)) : rest <:+ s.incoming .client ∧
    (e = .recvMarker (.ok RpcMessage.sync) → .marker RpcMessage.sync ∈ s.incoming .client) := by
  have hnext {x : Word A} {ws : List (Word A)} (hws : s.incoming .client = x :: ws) : ws <:+ s.incoming .client := by
    rw [hws]
    exact List.suffix_cons x ws
  unfold Session.orphan at h
  split at h <;> cases h
  case h_9 hws =>
    refine ⟨hnext hws, fun he => ?_⟩
    rw [hws, Except.ok.inj (Event.recvMarker.inj he)]
    exact List.mem_cons_self
  all_goals
    refine ⟨?_, nofun⟩
    first | exact List.suffix_rfl | exact hnext ‹_› | exact List.nil_suffix

/-- Without the viewer no SYNC comes. -/
theorem Unsynced.survive (h : Unsynced s) {act : Act A} {sent : Sent} {error : Err} {e : Event A} {rest : List (Word A)}
    (he : s.orphan act sent error = some (e, rest)) {r : Party × List (Word A)}
    (hr : (s.party .client).step e = some r) (entries : List (Entry A)) :
    Unsynced (s.after .client r.1 rest r.2 entries) := by
  obtain ⟨hpending, hsync⟩ := h
  obtain ⟨hsuffix, hread⟩ := Session.orphan_reads he
  refine ⟨?_, ?_⟩
  · rw [Session.after_party_self]
    exact Party.step_pending hr (fun heq => hsync (hread heq)) hpending
  · rw [Session.after_incoming_self]
    exact fun hmem => hsync (hsuffix.subset hmem)

/-- Both ends take their turns, or the wrapper alone has nothing to answer. -/
def Mortal.Orderly (m : Mortal A) : Prop :=
  m.dead = false ∧ InTurn m.session ∨ m.dead = true ∧ Unsynced m.session

theorem Mortal.Orderly.step (h : m.Orderly) {x : MortalAct A} (ha : m.Answered x) (hc : m.Conforms x)
    (hs : m.step x = some t) : t.Orderly := by
  cases x with
  | live side act =>
    rcases h with ⟨halive, hturn⟩ | ⟨hdead, -⟩
    · simp only [Mortal.step, halive] at hs
      obtain ⟨u, hu, rfl⟩ := Option.map_eq_some_iff.mp hs
      exact Or.inl ⟨rfl, inTurn_step hturn hc hu⟩
    · simp [Mortal.step, hdead] at hs
  | die arrived =>
    rcases h with ⟨halive, -⟩ | ⟨hdead, -⟩
    · simp only [Mortal.step, halive] at hs
      obtain rfl := Option.some.inj hs
      refine Or.inr ⟨rfl, ha.1, ?_⟩
      simpa only [Function.update_self] using ha.2
    · simp [Mortal.step, hdead] at hs
  | survive act sent error =>
    rcases h with ⟨halive, -⟩ | ⟨hdead, hunsynced⟩
    · simp [Mortal.step, halive] at hs
    · simp only [Mortal.step, hdead, if_true] at hs
      obtain ⟨⟨e, rest⟩, he, hs⟩ := Option.bind_eq_some_iff.mp hs
      obtain ⟨⟨p, words⟩, hp, hs⟩ := Option.bind_eq_some_iff.mp hs
      obtain rfl := Option.some.inj hs
      exact Or.inr ⟨rfl, hunsynced.survive he hp _⟩

theorem orderly_of_reachable (h : ((mortalSession A).restrict Mortal.Answered).Reachable m) : m.Orderly := by
  refine h.invariant Mortal.Orderly ?_ ?_
  · exact fun m hm => Or.inl ⟨hm.2, inTurn_init hm.1⟩
  · exact fun m x t _ ho hs => ho.step hs.1 hs.2.1 hs.2.2

/-- The event loop of the wrapper runs with a SYNC pending. -/
theorem InTurn.pending (h : InTurn s) (hc : s.Conforms .client .dispatchPendingSync) {ret : Int}
    (hctl : (s.party .client).ctl = .user ret) (hpending : (s.party .client).conn.hasPendingSync = true) :
    (s.party .client).conn.pendingSyncDepth = 1 ∧ s.incoming .client = [] := by
  obtain ⟨has, k, pos, base, os, hsound⟩ := h
  obtain ⟨⟨-, hhandle⟩, hdepth⟩ : (¬0 < (s.party .client).conn.invokeDepth ∧ ¬0 < (s.party .client).conn.handleDepth) ∧
      (s.party .client).conn.pendingSyncDepth ≠ 0 := by
    simpa [Connection.hasPendingSync] using hpending
  obtain ⟨xs, hpos⟩ : ∃ xs, pos .client = .runs xs := by
    have hat := hsound.party .client
    generalize ha : pos .client = a at hat
    cases hat with
    | runs => exact ⟨_, rfl⟩
    | called _ hc' => rcases hc' with hc' | hc' <;> cases hctl.symm.trans hc'
    | loop _ hc' => cases hctl.symm.trans hc'
    | invoked _ hc' => cases hctl.symm.trans hc'
    | idle =>
      obtain ⟨hside, -⟩ := hsound.turn.of_dispatch ha
      cases hside
    | replied f hstack hphase => simp [Session.Conforms, hctl, hstack, hphase] at hc
    | head _ hc' => cases hctl.symm.trans hc'
    | fresh hstack hphase => simp [Session.Conforms, hctl, hstack, hphase] at hc
    | body _ hc' => cases hctl.symm.trans hc'
  obtain ⟨ys, op, hl, -, hbase, -⟩ := hsound.turn.of_runs hpos
  obtain ⟨-, -, hone, hws⟩ := hsound.noted hl hpos hbase hhandle hdepth
  exact ⟨hone, hws⟩

theorem Party.rpcDispatchPendingSync_lives {p : Party} {readable : Bool} {sent : Sent}
    (h : p.conn.hasPendingSync = true → p.conn.pendingSyncDepth = 1 ∧ readable = false) :
    (p.rpcDispatchPendingSync (A := A) readable sent).1.ctl ≠ .aborted := by
  unfold Party.rpcDispatchPendingSync
  split
  · simp
  · rename_i hnone
    have hpending : p.conn.hasPendingSync = true := by simpa [Connection.hasPendingSync, and_assoc] using hnone
    rw [if_pos (h hpending)]
    cases sent <;> rintro ⟨⟩

/-- A call of `rpc_dispatch_pending_sync` by the wrapper. -/
def MortalAct.PendingSync : MortalAct A → Prop
  | .live .client .dispatchPendingSync | .survive .dispatchPendingSync .. => True
  | _ => False

/-- Where the viewer leaves no SYNC unanswered when it dies, both assertions hold and the wrapper lives. -/
theorem pending_sync_answered (h : ((mortalSession A).restrict Mortal.Answered).Reachable m) {x : MortalAct A}
    (hx : x.PendingSync) (hs : (mortalSession A).step m x t) :
    ((m.session.party .client).conn.hasPendingSync = true →
      (m.session.party .client).conn.pendingSyncDepth = 1 ∧ ¬m.Readable) ∧
    (t.session.party .client).ctl ≠ .aborted := by
  obtain ⟨hconforms, hstep⟩ := hs
  rcases orderly_of_reachable h with ⟨halive, hturn⟩ | ⟨hdead, hzero, -⟩
  · obtain ⟨rfl⟩ : x = .live .client .dispatchPendingSync := by
      cases x with
      | live side act =>
        cases side <;> cases act <;> first | rfl | exact hx.elim
      | die => exact hx.elim
      | survive act sent error => simp [Mortal.step, halive] at hstep
    simp only [Mortal.step, halive] at hstep
    obtain ⟨u, hu, rfl⟩ := Option.map_eq_some_iff.mp hstep
    obtain ⟨e, rest, r, hact, hsteps, -, hafter⟩ := Session.acts_of_step hu
    cases hact
    cases hsteps with
    | dispatchPendingSync hctl =>
      have hholds (hpending : (m.session.party .client).conn.hasPendingSync = true) :=
        hturn.pending hconforms hctl hpending
      refine ⟨fun hpending => ⟨(hholds hpending).1, ?_⟩, ?_⟩
      · rintro (hdead | hne)
        · cases halive.symm.trans hdead
        · exact hne (hholds hpending).2
      · rw [hafter, Session.after_party_self]
        refine Party.rpcDispatchPendingSync_lives fun hpending => ⟨(hholds hpending).1, ?_⟩
        rw [(hholds hpending).2]
        rfl
  · have hnot : (m.session.party .client).conn.hasPendingSync = false := by simp [Connection.hasPendingSync, hzero]
    refine ⟨fun hpending => ?_, ?_⟩
    · cases hnot.symm.trans hpending
    · cases x with
      | live side act => simp [Mortal.step, hdead] at hstep
      | die => exact hx.elim
      | survive act sent error =>
        cases act with
        | dispatchPendingSync =>
          simp only [Mortal.step, hdead, if_true] at hstep
          obtain ⟨⟨e, rest⟩, he, hstep⟩ := Option.bind_eq_some_iff.mp hstep
          obtain ⟨⟨p, words⟩, hp, hstep⟩ := Option.bind_eq_some_iff.mp hstep
          cases he
          cases hstep
          obtain ⟨r, hr⟩ : ∃ r, r = (p, words) := ⟨_, rfl⟩
          have hsteps : (m.session.party .client).Steps (.dispatchPendingSync true sent) r :=
            hr ▸ Party.steps_of_step hp
          cases hsteps
          simp only [Session.after_party_self]
          obtain rfl : ((m.session.party .client).rpcDispatchPendingSync (A := A) true sent).1 = p := congrArg Prod.fst hr
          exact Party.rpcDispatchPendingSync_lives fun hpending => absurd (hnot.symm.trans hpending) (by simp)
        | _ => exact hx.elim

/-- The viewer replies to a call, asks for a SYNC behind it and dies: the wrapper notes the SYNC while it waits, and
    aborts at its event loop. -/
theorem pending_sync_aborts : ∃ m t : Mortal Unit, (mortalSession Unit).Reachable m ∧
    (m.session.party .client).conn.hasPendingSync = true ∧
    (mortalSession Unit).step m (.survive .dispatchPendingSync (.ok ()) ⟨RpcError.connectionClosed, by decide⟩) t ∧
    (t.session.party .client).ctl = .aborted := by
  have h₀ := Machine.Reachable.init (m := mortalSession Unit) (s := ⟨Session.opened Unit, false⟩) ⟨Session.opened_init, rfl⟩
  have h₁ := h₀.next (.live .client (.invoke 1 ())) ⟨⟨rfl, fun _ => rfl⟩, rfl⟩
  have h₂ := h₁.next (.live .server .sync) ⟨rfl, rfl⟩
  have h₃ := h₂.next (.live .client .waitForReply) ⟨trivial, rfl⟩
  have h₄ := h₃.next (.live .client .read) ⟨trivial, rfl⟩
  have h₅ := h₄.next (.live .server .read) ⟨trivial, rfl⟩
  have h₆ := h₅.next (.live .server .read) ⟨trivial, rfl⟩
  have h₇ := h₆.next (.live .server .getArgs) ⟨trivial, rfl⟩
  have h₈ := h₇.next (.live .server .read) ⟨trivial, rfl⟩
  have h₉ := h₈.next (.live .server (.sendReply ())) ⟨trivial, rfl⟩
  have h₁₀ := h₉.next (.live .client .read) ⟨trivial, rfl⟩
  have h₁₁ := h₁₀.next (.live .client .read) ⟨trivial, rfl⟩
  have h₁₂ := h₁₁.next (.die 0) ⟨trivial, rfl⟩
  exact ⟨_, _, h₁₂, rfl, ⟨trivial, rfl⟩, rfl⟩

/-- The same with a viewer that lives on. -/
theorem pending_sync_proceeds : ∃ m : Mortal Unit, (m.session.party .client).conn.hasPendingSync = true ∧
    (m.session.party .client).conn.pendingSyncDepth = 1 ∧ ¬m.Readable := by
  have h₀ := Machine.Reachable.init (m := (mortalSession Unit).restrict Mortal.Answered)
    (s := ⟨Session.opened Unit, false⟩) ⟨Session.opened_init, rfl⟩
  have h₁ := h₀.next (.live .client (.invoke 1 ())) ⟨trivial, ⟨rfl, fun _ => rfl⟩, rfl⟩
  have h₂ := h₁.next (.live .server .sync) ⟨trivial, rfl, rfl⟩
  have h₃ := h₂.next (.live .client .waitForReply) ⟨trivial, trivial, rfl⟩
  have h₄ := h₃.next (.live .client .read) ⟨trivial, trivial, rfl⟩
  have h₅ := h₄.next (.live .server .read) ⟨trivial, trivial, rfl⟩
  have h₆ := h₅.next (.live .server .read) ⟨trivial, trivial, rfl⟩
  have h₇ := h₆.next (.live .server .getArgs) ⟨trivial, trivial, rfl⟩
  have h₈ := h₇.next (.live .server .read) ⟨trivial, trivial, rfl⟩
  have h₉ := h₈.next (.live .server (.sendReply ())) ⟨trivial, trivial, rfl⟩
  have h₁₀ := h₉.next (.live .client .read) ⟨trivial, trivial, rfl⟩
  have h₁₁ := h₁₀.next (.live .client .read) ⟨trivial, trivial, rfl⟩
  refine ⟨_, ?_, (pending_sync_answered h₁₁ (x := .live .client .dispatchPendingSync) trivial ⟨trivial, rfl⟩).1 ?_⟩
  · rfl
  · rfl

end NSPluginWrapper
