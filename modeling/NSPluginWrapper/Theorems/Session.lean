import NSPluginWrapper.Theorems.Acts
import NSPluginWrapper.Theorems.Depth
import NSPluginWrapper.Theorems.Turns

/-! Every state that two conforming ends reach is one of their turns, up to functions that have not returned yet
    and a SYNC that has not been read or granted yet. -/

namespace NSPluginWrapper
open Lib

/-! ### From an end to its position -/

/-- An end at a position, apart from what it does by itself: the step from `rpc_method_invoke` to
    `rpc_method_wait_for_reply`, and the return of a handler that has replied. -/
inductive Party.At (p : Party) : Position → Prop where
  | runs {xs ret} : p.stack = xs → p.ctl = .user ret → p.At (.runs xs)
  | called {xs c} : p.stack = xs → p.ctl = .invoked c ∨ p.ctl = .marker (.wait c) → p.At (.called xs c)
  | loop {xs l} : p.stack = xs → p.ctl = .marker l → p.At (.waits xs (.loop l))
  | invoked {xs c} : p.stack = xs → p.ctl = .invoked c → p.At (.waits xs (.loop (.wait c)))
  | idle {ret} : p.stack = [] → p.ctl = .user ret → p.At (.waits [] .dispatch)
  | replied {xs ret} (f : Frame) : p.stack = f :: xs → f.phase = .replied → p.ctl = .user ret → p.At (.waits xs f.op)
  | head {xs op} : p.stack = xs → p.ctl = .head op → p.At (.head xs op)
  | fresh {f xs} : p.stack = f :: xs → f.phase = .fresh → (∃ ret, p.ctl = .user ret) ∨ p.ctl = .args → p.At (.fresh f xs)
  | body {xs c} : p.stack = xs → p.ctl = .body c → p.At (.body xs c)

theorem Party.At.congr {p q : Party} {a : Position} (h : p.At a) (hstack : q.stack = p.stack) (hctl : q.ctl = p.ctl) :
    q.At a := by
  cases h with
  | runs hs hc => exact .runs (hstack.trans hs) (hctl.trans hc)
  | called hs hc => exact .called (hstack.trans hs) (hctl ▸ hc)
  | loop hs hc => exact .loop (hstack.trans hs) (hctl.trans hc)
  | invoked hs hc => exact .invoked (hstack.trans hs) (hctl.trans hc)
  | idle hs hc => exact .idle (hstack.trans hs) (hctl.trans hc)
  | replied f hs hf hc => exact .replied f (hstack.trans hs) hf (hctl.trans hc)
  | head hs hc => exact .head (hstack.trans hs) (hctl.trans hc)
  | fresh hs hf hc => exact .fresh (hstack.trans hs) hf (hctl ▸ hc)
  | body hs hc => exact .body (hstack.trans hs) (hctl.trans hc)

/-- A call that waits has been made. -/
theorem Party.At.waits_of_called {p : Party} {xs : List Frame} {c : Call} (h : p.At (.called xs c)) :
    p.At (.waits xs (.loop (.wait c))) := by
  cases h with
  | called hs hc =>
    rcases hc with hc | hc
    · exact .invoked hs hc
    · exact .loop hs hc

/-- Only an end that waits for a SYNC is in its loop. -/
theorem Party.At.of_sync {p : Party} {xs : List Frame} {op : Op} (h : p.At (.waits xs op))
    (hctl : p.ctl = .marker .sync) : op = .loop .sync := by
  cases h with
  | loop hs hc => cases hctl.symm.trans hc; rfl
  | invoked hs hc => cases hctl.symm.trans hc
  | idle hs hc => cases hctl.symm.trans hc
  | replied f hs hf hc => cases hctl.symm.trans hc

/-! ### The SYNC among the other words -/

/-- A function of the wrapper that no dispatch is part of. -/
def Ctl.Outside : Ctl → Prop
  | .user _ | .invoked _ | .marker (.wait _) => True
  | _ => False

/-- What the wrapper has to read, and the same without a SYNC. The SYNC stands before every other word while the
    wrapper has handled no call since, or behind the message the viewer sent before it. -/
inductive Weave {A : Type} (k : Root) (wrapper viewer : Party) : List (Word A) → List (Word A) → Prop where
  | plain {ws} : k ≠ .syncing → wrapper.conn.pendingSyncDepth = 0 → Weave k wrapper viewer ws ws
  | noted {ws} : k = .syncing → wrapper.conn.pendingSyncDepth = 1 → Weave k wrapper viewer ws ws
  | front {ws} : k = .syncing → wrapper.conn.pendingSyncDepth = 0 → wrapper.stack = [] → wrapper.ctl.Outside →
    Weave k wrapper viewer (.marker RpcMessage.sync :: ws) ws
  | back {ws} : k = .syncing → wrapper.conn.pendingSyncDepth = 0 → ws ≠ [] → viewer.stack = [] →
    viewer.ctl = .marker .sync → Weave k wrapper viewer (ws ++ [.marker RpcMessage.sync]) ws

/-- What both ends have to read. -/
def Channels {A : Type} (k : Root) (party : ConnectionType → Party) (incoming base : ConnectionType → List (Word A)) :
    Prop :=
  incoming .server = base .server ∧ Weave k (party .client) (party .server) (incoming .client) (base .client)

/-- A step of one end that the place of a SYNC does not depend on. -/
structure Keeps (p q : Party) : Prop where
  pending : q.conn.pendingSyncDepth = p.conn.pendingSyncDepth
  outside : p.stack = [] → p.ctl.Outside → q.stack = [] ∧ q.ctl.Outside
  syncing : p.ctl ≠ .marker .sync

section
variable {A : Type} {k : Root} {s : Session A} {base : ConnectionType → List (Word A)} {side : ConnectionType} {q : Party}

/-! ### Channels as the ends go on -/

theorem Weave.keeps_wrapper {w v : Party} {ws us : List (Word A)} (h : Weave k w v ws us) (hq : Keeps w q) :
    Weave k q v ws us := by
  cases h with
  | plain hk hp => exact .plain hk (hq.pending.trans hp)
  | noted hk hp => exact .noted hk (hq.pending.trans hp)
  | front hk hp hstack hout => exact .front hk (hq.pending.trans hp) (hq.outside hstack hout).1 (hq.outside hstack hout).2
  | back hk hp hne hstack hctl => exact .back hk (hq.pending.trans hp) hne hstack hctl

theorem Weave.keeps_viewer {w v : Party} {ws us : List (Word A)} (h : Weave k w v ws us)
    (hv : us = [] ∨ v.ctl ≠ .marker .sync) : Weave k w q ws us := by
  cases h with
  | plain hk hp => exact .plain hk hp
  | noted hk hp => exact .noted hk hp
  | front hk hp hstack hout => exact .front hk hp hstack hout
  | back hk hp hne hstack hctl =>
    rcases hv with hnil | hctl'
    · exact absurd hnil hne
    · exact absurd hctl hctl'

/-- A step that neither reads nor sends. -/
theorem Channels.quiet (h : Channels k s.party s.incoming base) (hq : Keeps (s.party side) q)
    {entries : List (Entry A)} {t : Session A} (ht : t = s.after side q (s.incoming side) [] entries) :
    Channels k t.party t.incoming base := by
  subst ht
  obtain ⟨hserver, hclient⟩ := h
  cases side with
  | server =>
    refine ⟨?_, ?_⟩
    · simpa [Session.after, ConnectionType.other] using hserver
    · simpa [Session.after, ConnectionType.other] using hclient.keeps_viewer (Or.inr hq.syncing)
  | client =>
    refine ⟨?_, ?_⟩
    · simpa [Session.after, ConnectionType.other] using hserver
    · simpa [Session.after, ConnectionType.other] using hclient.keeps_wrapper hq

/-- A message sent while no SYNC is waited for. -/
theorem Weave.append {w v : Party} {ws us : List (Word A)} (h : Weave k w v ws us) (hv : v.ctl ≠ .marker .sync)
    (words : List (Word A)) : Weave k w q (ws ++ words) (us ++ words) := by
  cases h with
  | plain hk hp => exact .plain hk hp
  | noted hk hp => exact .noted hk hp
  | front hk hp hstack hout => exact .front hk hp hstack hout
  | back hk hp hne hstack hctl => exact absurd hctl hv

theorem Channels.sent (h : Channels k s.party s.incoming base) (hq : Keeps (s.party side) q) {words : List (Word A)}
    {entries : List (Entry A)} {t : Session A} (ht : t = s.after side q (s.incoming side) words entries) :
    Channels k t.party t.incoming (Function.update base side.other (base side.other ++ words)) := by
  subst ht
  obtain ⟨hserver, hclient⟩ := h
  cases side with
  | server =>
    refine ⟨?_, ?_⟩
    · simpa [Session.after, ConnectionType.other] using hserver
    · simpa [Session.after, ConnectionType.other] using hclient.append hq.syncing words
  | client =>
    refine ⟨?_, ?_⟩
    · simpa [Session.after, ConnectionType.other] using hserver
    · simpa [Session.after, ConnectionType.other] using hclient.keeps_wrapper hq

/-- What is read first is the first of the other words, or the SYNC. -/
theorem Channels.head (h : Channels k s.party s.incoming base) {x : Word A} {rest : List (Word A)}
    (hws : s.incoming side = x :: rest) : (∃ vs, base side = x :: vs) ∨
    side = .client ∧ x = .marker RpcMessage.sync ∧ k = .syncing ∧ base .client = rest ∧
    (s.party .client).conn.pendingSyncDepth = 0 ∧ (s.party .client).stack = [] ∧ (s.party .client).ctl.Outside := by
  obtain ⟨hserver, hclient⟩ := h
  cases side with
  | server => exact Or.inl ⟨rest, hserver ▸ hws⟩
  | client =>
    rw [hws] at hclient
    generalize hus : base .client = us at hclient ⊢
    generalize hxs : x :: rest = xs at hclient
    cases hclient with
    | plain => exact Or.inl ⟨rest, hxs.symm⟩
    | noted => exact Or.inl ⟨rest, hxs.symm⟩
    | front hk hp hstack hout =>
      cases hxs
      exact Or.inr ⟨rfl, rfl, hk, rfl, hp, hstack, hout⟩
    | back hk hp hne hstack hctl =>
      cases us with
      | nil => exact absurd rfl hne
      | cons u us =>
        cases hxs
        exact Or.inl ⟨us, rfl⟩

theorem Weave.taken {w v : Party} {x : Word A} {ws us : List (Word A)} (h : Weave k w v (x :: ws) (x :: us))
    (hx : x ≠ .marker RpcMessage.sync) (hpending : q.conn.pendingSyncDepth = w.conn.pendingSyncDepth)
    (hlast : us = [] → v.stack = [] → v.ctl = .marker .sync → q.stack = [] ∧ q.ctl.Outside) : Weave k q v ws us := by
  generalize hxs : x :: ws = xs at h
  generalize hus : x :: us = ys at h
  cases h with
  | plain hk hp =>
    obtain ⟨-, rfl⟩ := List.cons.inj (hxs.trans hus.symm)
    exact .plain hk (hpending.trans hp)
  | noted hk hp =>
    obtain ⟨-, rfl⟩ := List.cons.inj (hxs.trans hus.symm)
    exact .noted hk (hpending.trans hp)
  | front => exact absurd (List.cons.inj hxs).1 hx
  | back hk hp hne hstack hctl =>
    subst hus
    obtain ⟨-, rfl⟩ := List.cons.inj hxs
    cases us with
    | nil =>
      obtain ⟨hstack', hout⟩ := hlast rfl hstack hctl
      exact .front hk (hpending.trans hp) hstack' hout
    | cons u us => exact .back hk (hpending.trans hp) (List.cons_ne_nil _ _) hstack hctl

theorem Channels.taken (h : Channels k s.party s.incoming base) {x : Word A} {rest vs : List (Word A)}
    (hws : s.incoming side = x :: rest) (hbase : base side = x :: vs) {entries : List (Entry A)} {t : Session A}
    (ht : t = s.after side q rest [] entries) (hx : x ≠ .marker RpcMessage.sync)
    (hpending : q.conn.pendingSyncDepth = (s.party side).conn.pendingSyncDepth)
    (hlast : side = .client → vs = [] → (s.party .server).stack = [] → (s.party .server).ctl = .marker .sync →
      q.stack = [] ∧ q.ctl.Outside)
    (hviewer : side = .server → base .client = [] ∨ (s.party .server).ctl ≠ .marker .sync) :
    Channels k t.party t.incoming (Function.update base side vs) := by
  subst ht
  obtain ⟨hserver, hclient⟩ := h
  cases side with
  | server =>
    refine ⟨?_, ?_⟩
    · rw [hws, hbase] at hserver
      simpa [Session.after, ConnectionType.other] using (List.cons.inj hserver).2
    · simpa [Session.after, ConnectionType.other] using hclient.keeps_viewer (hviewer rfl)
  | client =>
    refine ⟨?_, ?_⟩
    · simpa [Session.after, ConnectionType.other] using hserver
    · rw [hws, hbase] at hclient
      simpa [Session.after, ConnectionType.other] using hclient.taken hx hpending (hlast rfl)

/-! ### Sessions and turns -/

/-- An end that nothing has gone wrong with. -/
structure Alive (side : ConnectionType) (p : Party) : Prop where
  status : p.conn.status = .active
  type : p.conn.type = side
  balanced : Balanced p

/-- The session is at this turn. -/
structure Sound (s : Session A) (has : ConnectionType → Int32 → Bool) (k : Root) (pos : ConnectionType → Position)
    (base : ConnectionType → List (Word A)) (os : List (Call × History A)) : Prop where
  turn : Turn has k pos base os
  party : ∀ side, (s.party side).At (pos side)
  channels : Channels k s.party s.incoming base
  ledger : Ledger s os
  granted : (s.party .server).conn.isSync = true ↔ k = .granted
  alive : ∀ side, Alive side (s.party side)
  methods : ∀ side, (s.party side).methods.has = has side

/-- A conforming handler is one of the repository's, and fails nowhere. -/
theorem disciplined_of_conforms {act : Act A} {e : Event A} {rest : List (Word A)} {r : Party × List (Word A)}
    (hc : s.Conforms side act) (ha : s.Acts side act e rest) (hs : (s.party side).Steps e r) :
    (s.party side).Disciplined e ∧ ∀ code sent, e = .ret code sent → code = RpcError.noError := by
  by_cases huser : ∃ ret, (s.party side).ctl = .user ret
  · obtain ⟨ret, hctl⟩ := huser
    rcases hstack : (s.party side).stack with _ | ⟨f, xs⟩
    · cases ha <;> cases side <;> simp_all [Session.Conforms, Party.Disciplined]
    · rcases hphase : f.phase <;> cases ha <;> simp_all [Session.Conforms, Party.Disciplined]
  · refine ⟨?_, fun code sent he => ?_⟩
    · unfold Party.Disciplined
      split <;> first | trivial | exact absurd ⟨_, ‹_›⟩ huser
    · subst he
      cases hs with
      | ret hctl => exact absurd ⟨_, hctl⟩ huser

theorem alive_step {act : Act A} {t : Session A} (h : Alive side (s.party side)) (hc : s.Conforms side act)
    (hs : s.step side act = some t) (hactive : (t.party side).conn.status = .active) : Alive side (t.party side) := by
  obtain ⟨e, rest, r, hact, hsteps, hstep, rfl⟩ := Session.acts_of_step hs
  obtain ⟨hd, hret⟩ := disciplined_of_conforms hc hact hsteps
  have hnot : ¬(s.party side).ErrorInSync e := by
    refine Party.not_errorInSync fun code sent he hneg => ?_
    rw [hret code sent he] at hneg
    exact absurd hneg (by decide)
  simp only [Session.after, Function.update_self] at hactive ⊢
  exact ⟨hactive, (Party.step_later hstep).type.trans h.type, balanced_step h.balanced hd hnot hstep hactive⟩

/-- A step of `side` that takes the session to another turn. -/
theorem Sound.step {has : ConnectionType → Int32 → Bool} {k k' : Root} {pos pos' : ConnectionType → Position}
    {base base' : ConnectionType → List (Word A)} {os os' : List (Call × History A)} {act : Act A} {t : Session A}
    (h : Sound s has k pos base os) (hc : s.Conforms side act) (hs : s.step side act = some t)
    {rest words : List (Word A)} {entries : List (Entry A)} (ht : t = s.after side q rest words entries)
    (hturn : Turn has k' pos' base' os') (hat : q.At (pos' side)) (hrest : (s.party side.other).At (pos' side.other))
    (hchannels : Channels k' t.party t.incoming base') (hledger : Ledger t os')
    (hgranted : (t.party .server).conn.isSync = true ↔ k' = .granted) (hactive : q.conn.status = .active)
    (hmethods : q.methods = (s.party side).methods) : Sound t has k' pos' base' os' := by
  have hq : t.party side = q := by rw [ht, Session.after_party_self]
  have hother : t.party side.other = s.party side.other := by rw [ht, Session.after_party_other]
  have halive := alive_step (h.alive side) hc hs (hq ▸ hactive)
  refine ⟨hturn, fun x => ?_, hchannels, hledger, hgranted, fun x => ?_, fun x => ?_⟩
  · rcases x.eq_or_other side with rfl | rfl
    · exact hq ▸ hat
    · exact hother ▸ hrest
  · rcases x.eq_or_other side with rfl | rfl
    · exact halive
    · rw [hother]
      exact h.alive _
  · rcases x.eq_or_other side with rfl | rfl
    · rw [hq, hmethods]
      exact h.methods _
    · rw [hother]
      exact h.methods _

/-- The other end stands where it stood. -/
theorem Sound.rest {has : ConnectionType → Int32 → Bool} {k : Root} {pos : ConnectionType → Position}
    {os : List (Call × History A)} (h : Sound s has k pos base os) (a : Position) :
    (s.party side.other).At (Function.update pos side a side.other) := by
  rw [Function.update_of_ne side.other_ne]
  exact h.party _

/-- The session is at one of its turns. -/
def InTurn (s : Session A) : Prop := ∃ has k pos base os, Sound s has k pos base os

section
variable {has : ConnectionType → Int32 → Bool} {pos : ConnectionType → Position} {os : List (Call × History A)}
  {act : Act A} {t : Session A} (h : Sound s has k pos base os) (hc : s.Conforms side act)
  (hs : s.step side act = some t)
include h hc hs

/-- A step that neither opens nor closes a SYNC. -/
theorem Sound.keep {pos' : ConnectionType → Position} {base' : ConnectionType → List (Word A)}
    {os' : List (Call × History A)} {rest words : List (Word A)} {entries : List (Entry A)}
    (ht : t = s.after side q rest words entries) (hturn : Turn has k pos' base' os') (hat : q.At (pos' side))
    (hrest : (s.party side.other).At (pos' side.other)) (hchannels : Channels k t.party t.incoming base') (hledger : Ledger t os') (hactive : q.conn.status = .active)
    (hsync : q.conn.isSync = (s.party side).conn.isSync) (hmethods : q.methods = (s.party side).methods) : InTurn t := by
  have hgranted : (t.party .server).conn.isSync = true ↔ k = .granted := by
    rw [← h.granted, ht]
    cases side with
    | server => rw [Session.after_party_self, hsync]
    | client => exact Iff.rfl
  exact ⟨has, k, pos', base', os', h.step hc hs ht hturn hat hrest hchannels hledger hgranted hactive hmethods⟩

/-- What an end does by itself takes no turn. -/
theorem Sound.quiet (ht : t = s.after side q (s.incoming side) [] []) (hat : q.At (pos side))
    (hkeeps : Keeps (s.party side) q) (hactive : q.conn.status = .active)
    (hsync : q.conn.isSync = (s.party side).conn.isSync) (hmethods : q.methods = (s.party side).methods) : InTurn t := by
  have hledger : Ledger t os := h.ledger.quiet (by rw [ht]; exact List.append_nil _) (by rw [ht]; rfl)
  exact h.keep hc hs ht h.turn hat (h.party _) (h.channels.quiet hkeeps ht) hledger hactive hsync hmethods

/-- The wrapper meets a SYNC while it waits for a reply, at its event loop, and notes it. -/
theorem Sound.note {l : Loop} (hctl : (s.party side).ctl = .marker l) {tag : Int32} {rest : List (Word A)}
    (hws : s.incoming side = .marker tag :: rest) (hbase : ∀ vs, base side ≠ .marker tag :: vs)
    (ht : t = s.after side ((s.party side).recvMarker l (.ok tag)) rest []
      ((s.party side).entries (.recvMarker (.ok tag)) ((s.party side).recvMarker l (.ok tag)))) : InTurn t := by
  rcases h.channels.head hws with ⟨vs, hvs⟩ | ⟨rfl, htag, rfl, hrest, hpending, hstack, hout⟩
  · exact absurd hvs (hbase vs)
  obtain rfl : tag = RpcMessage.sync := by simpa using htag
  obtain ⟨c, rfl⟩ : ∃ c, l = .wait c := by
    rw [hctl] at hout
    cases l with
    | wait c => exact ⟨c, rfl⟩
    | sync => exact hout.elim
    | dispatchSync => exact hout.elim
  have halive := h.alive .client
  have hdepth : (s.party .client).conn.invokeDepth = 1 := by
    rw [halive.balanced.invoke, hstack, hctl]
    rfl
  have hnote : tagAction (s.party .client).conn (Loop.wait c).expected RpcMessage.sync = .noteSync := by
    simp [tagAction, Loop.expected, Connection.isSyncAllowed, Connection.isSyncMode, halive.type, hpending]
  have hq := Party.recvMarker_noteSync hnote
  have hunfailed : Session.Unfailed ((s.party .client).recvMarker (.wait c) (.ok RpcMessage.sync)) := by
    intro ret hret
    rw [hq] at hret
    cases hctl.symm.trans hret
  rw [Session.entries_recvMarker hunfailed hctl, hq] at ht
  have hledger : Ledger t os := h.ledger.quiet (by rw [ht]; exact List.append_nil _) (by rw [ht]; rfl)
  have hchannels : Channels .syncing t.party t.incoming base := by
    obtain ⟨hserver, -⟩ := h.channels
    subst ht
    refine ⟨?_, ?_⟩
    · simpa [Session.after, ConnectionType.other] using hserver
    · have hone : (s.party .client).conn.noteSync.pendingSyncDepth = 1 := hdepth
      simpa [Session.after, ConnectionType.other, hrest] using Weave.noted (A := A) rfl hone
  have hat := (h.party .client).congr (q := { s.party .client with conn := (s.party .client).conn.noteSync }) rfl rfl
  have hgranted : (t.party .server).conn.isSync = true ↔ Root.syncing = .granted := by
    rw [← h.granted, ht]
    rfl
  exact ⟨has, .syncing, pos, base, os,
    h.step hc hs ht h.turn hat (h.party _) hchannels hledger hgranted halive.status rfl⟩

/-- The step of an end that waits: its own, the viewer's request for a SYNC, or the read of the message it waits
    for. -/
inductive WaitStep (s t : Session A) (base : ConnectionType → List (Word A)) (side : ConnectionType) (zs : List Frame) :
    Op → Prop where
  | own {op} : InTurn t → WaitStep s t base side zs op
  | sync : (s.party side).stack = [] →
    t = s.after side { s.party side with conn := (s.party side).conn.touch, ctl := .marker .sync } (s.incoming side)
      [.marker RpcMessage.sync] [] → WaitStep s t base side zs .dispatch
  | marker {l tag vs rest} : (s.party side).stack = zs → (s.party side).ctl = .marker l →
    s.incoming side = .marker tag :: rest → base side = .marker tag :: vs →
    t = s.after side ((s.party side).recvMarker l (.ok tag)) rest []
      ((s.party side).entries (.recvMarker (.ok tag)) ((s.party side).recvMarker l (.ok tag))) →
    WaitStep s t base side zs (.loop l)
  | dispatch {tag vs rest} : (s.party side).stack = zs → s.incoming side = .marker tag :: rest →
    base side = .marker tag :: vs → t = s.after side ((s.party side).rpcDispatch (A := A) (.ok tag) (.ok ())).1 rest
      ((s.party side).rpcDispatch (.ok tag) (.ok ())).2 [] → WaitStep s t base side zs .dispatch

theorem Sound.waitStep {zs : List Frame} {op : Op} (hpos : pos side = .waits zs op) : WaitStep s t base side zs op := by
  have hopen := (h.alive side).status
  have hat := h.party side
  rw [hpos] at hat
  cases hat with
  | @loop _ l hstack hctl =>
    obtain ⟨tag, rest, hws, ht⟩ := Session.step_marker hctl hs
    by_cases hbase : ∃ vs, base side = .marker tag :: vs
    · obtain ⟨vs, hvs⟩ := hbase
      exact .marker hstack hctl hws hvs ht
    · exact .own (h.note hc hs hctl hws (fun vs hvs => hbase ⟨vs, hvs⟩) ht)
  | @invoked _ c hstack hctl =>
    have ht := Session.step_invoked hctl hopen hs
    refine .own (h.quiet hc hs ht ?_ ?_ hopen rfl rfl)
    · rw [hpos]
      exact .loop hstack rfl
    · refine ⟨rfl, fun hnil _ => ⟨hnil, trivial⟩, ?_⟩
      rw [hctl]
      nofun
  | @idle ret hstack hctl =>
    obtain ⟨hside, -, hk⟩ := h.turn.of_dispatch hpos
    subst hside
    have hsync : (s.party .server).conn.isSync = false := by
      rw [Bool.eq_false_iff, ne_eq, h.granted, hk]
      nofun
    cases act with
    | sync => exact .sync hstack (Session.step_sync hctl hsync hs)
    | dispatch =>
      obtain ⟨tag, rest, hws, ht⟩ := Session.step_dispatch hctl hs
      exact .dispatch hstack hws (h.channels.1 ▸ hws) ht
    | _ => simp [Session.Conforms, hctl, hstack, hsync] at hc
  | @replied _ ret f hstack hphase hctl =>
    obtain rfl : act = .ret RpcError.noError := by
      cases act <;> simp_all [Session.Conforms]
    have ht := Session.step_ret hctl hstack hs
    have hpositive := f.positive
    have hnonneg : ¬f.method.toInt < 0 := by omega
    generalize hq : { s.party side with stack := zs }.rpcDispatchEnd f.op f.method.toInt = q at ht
    have hkeeps (hpending : q.conn.pendingSyncDepth = (s.party side).conn.pendingSyncDepth) : Keeps (s.party side) q := by
      refine ⟨hpending, fun hnil => ?_, ?_⟩
      · rw [hstack] at hnil
        cases hnil
      · rw [hctl]
        nofun
    rcases hop : f.op with _ | l
    · rw [hop] at hq hpos
      obtain ⟨-, rfl, -⟩ := h.turn.of_dispatch hpos
      rw [Party.rpcDispatchEnd_dispatch hnonneg] at hq
      subst hq
      have hunfailed : Session.Unfailed { s.party side with stack := [], conn := (s.party side).conn.lowerDispatch
                                                            ctl := .user f.method.toInt } := by
        intro ret hret
        cases hret
        omega
      rw [Session.entries_ret hunfailed hctl] at ht
      refine .own (h.quiet hc hs ht ?_ (hkeeps rfl) hopen rfl rfl)
      rw [hpos]
      exact .idle rfl rfl
    · rw [hop] at hq hpos
      rw [Party.rpcDispatchEnd_loop hnonneg] at hq
      subst hq
      have hunfailed : Session.Unfailed { s.party side with stack := zs, conn := (s.party side).conn.lowerDispatch
                                                            ctl := .marker l } := nofun
      rw [Session.entries_ret hunfailed hctl] at ht
      refine .own (h.quiet hc hs ht ?_ (hkeeps rfl) hopen rfl rfl)
      rw [hpos]
      exact .loop rfl rfl

/-- An end that has just called can only go on to wait, or meet a SYNC. -/
theorem Sound.calledStep {xs : List Frame} {c : Call} (hpos : pos side = .called xs c) (hbase : base side = []) :
    InTurn t := by
  have hopen := (h.alive side).status
  have hat := h.party side
  rw [hpos] at hat
  cases hat with
  | called hstack hctl =>
    rcases hctl with hctl | hctl
    · have ht := Session.step_invoked hctl hopen hs
      refine h.quiet hc hs ht ?_ ?_ hopen rfl rfl
      · rw [hpos]
        exact .called hstack (Or.inr rfl)
      · refine ⟨rfl, fun hnil _ => ⟨hnil, trivial⟩, ?_⟩
        rw [hctl]
        nofun
    · obtain ⟨tag, rest, hws, ht⟩ := Session.step_marker hctl hs
      refine h.note hc hs hctl hws (fun vs hvs => ?_) ht
      rw [hbase] at hvs
      cases hvs

/-- The viewer asks for a SYNC. -/
theorem Sound.sync {zs : List Frame} (hpos : pos side = .waits zs .dispatch) (hstack : (s.party side).stack = [])
    (ht : t = s.after side { s.party side with conn := (s.party side).conn.touch, ctl := .marker .sync }
      (s.incoming side) [.marker RpcMessage.sync] []) : InTurn t := by
  obtain ⟨rfl, rfl, rfl⟩ := h.turn.of_dispatch hpos
  obtain ⟨hturn, hwrapper⟩ := h.turn.sync hpos
  have hledger : Ledger t os := h.ledger.quiet (by rw [ht]; exact List.append_nil _) (by rw [ht]; rfl)
  have hgranted : (t.party .server).conn.isSync = true ↔ Root.syncing = .granted := by
    have hnot : ¬(s.party .server).conn.isSync = true := by
      rw [h.granted]
      nofun
    rw [ht, Session.after_party_self]
    exact ⟨fun hsync => absurd hsync hnot, nofun⟩
  have hchannels : Channels .syncing t.party t.incoming base := by
    obtain ⟨hserver, hclient⟩ := h.channels
    subst ht
    generalize hws : s.incoming .client = ws at hclient
    generalize hus : base .client = us at hclient hwrapper
    have hclient' : (Session.after s .server { s.party .server with conn := (s.party .server).conn.touch, ctl := .marker .sync }
        (s.incoming .server) [.marker RpcMessage.sync] []).incoming .client = ws ++ [.marker RpcMessage.sync] := by
      rw [← hws]
      exact Session.after_incoming_other _ _ _ _ _ _
    refine ⟨(Session.after_incoming_self _ _ _ _ _ _).trans hserver, ?_⟩
    rw [hclient', hus]
    have hat := h.party .client
    cases hclient with
    | plain hk hp =>
      by_cases hnil : ws = []
      · subst hnil
        rcases hwrapper rfl with hpos' | ⟨c, hpos'⟩
        · rw [hpos'] at hat
          cases hat with
          | runs hstack' hctl => exact .front rfl hp hstack' (hctl ▸ trivial)
        · rw [hpos'] at hat
          cases hat with
          | called hstack' hctl =>
            refine .front rfl hp hstack' ?_
            rcases hctl with hctl | hctl
            · exact hctl ▸ trivial
            · exact hctl ▸ trivial
      · exact .back rfl hp hnil hstack rfl
    | noted hk => cases hk
    | front hk => cases hk
    | back hk => cases hk
  have hat : ({ s.party .server with conn := (s.party .server).conn.touch, ctl := .marker .sync } : Party).At
    (Function.update pos .server (.waits [] (.loop .sync)) .server) := by
    rw [Function.update_self]
    exact .loop hstack rfl
  exact ⟨has, .syncing, _, base, os,
    h.step hc hs ht hturn hat (h.rest _) hchannels hledger hgranted (h.alive .server).status rfl⟩

end

end
end NSPluginWrapper
