import NSPluginWrapper.Theorems.Session

/-! How two conforming ends take their turns. -/

namespace NSPluginWrapper
open Lib

section
variable {A : Type} {s t : Session A} {has : ConnectionType → Int32 → Bool} {k : Root}
  {pos : ConnectionType → Position} {base : ConnectionType → List (Word A)} {os os' : List (Call × History A)}
  {side sd : ConnectionType} {act : Act A} {xs ys : List Frame} {op : Op}

theorem Party.At.here {q : Party} {a : Position} (h : q.At a) : q.At (Function.update pos side a side) := by
  rw [Function.update_self]
  exact h

theorem keeps_of_user {p q : Party} {ret : Int} (hctl : p.ctl = .user ret)
    (hpending : q.conn.pendingSyncDepth = p.conn.pendingSyncDepth)
    (houtside : p.stack = [] → q.stack = [] ∧ q.ctl.Outside) : Keeps p q := by
  refine ⟨hpending, fun hnil _ => houtside hnil, ?_⟩
  rw [hctl]
  nofun

/-- Two words that are read first, where the first of the others is no SYNC. -/
theorem Channels.first {x y : Word A} {rest vs : List (Word A)} (h : Channels k s.party s.incoming base)
    (hws : s.incoming side = x :: rest) (hbase : base side = y :: vs) (hx : x ≠ .marker RpcMessage.sync) : x = y := by
  rcases h.head hws with ⟨us, hus⟩ | ⟨-, hsync, -⟩
  · exact (List.cons.inj (hus.symm.trans hbase)).1
  · exact absurd hsync hx

/-! ### From the call to its handler -/

theorem Sound.invoke (h : Sound s has k pos base os) (hl : Linked k sd xs ys op os) (hp : pos sd = .runs xs)
    (hq : pos sd.other = .waits ys op) (hu : base sd = []) (hv : base sd.other = []) {m : Int32} {a : A}
    (hc : s.Conforms sd (.invoke m a)) (hm : has sd.other m = true) (hs : s.step sd (.invoke m a) = some t) : InTurn t := by
  have hopen := (h.alive sd).status
  have hat := h.party sd
  rw [hp] at hat
  cases hat with
  | runs hstack hctl =>
    have ht := Session.step_invoke hctl hopen hs
    have hlog : t.log = s.log ++ [(sd, .invoked ⟨sd, s.steps⟩ m a)] := by rw [ht]; rfl
    have hledger := h.ledger.invoke hlog (by rw [ht]; rfl)
    have hkeeps : Keeps (s.party sd) { s.party sd with conn := (s.party sd).conn.raiseInvoke, ctl := .invoked ⟨sd, s.steps⟩ } :=
      keeps_of_user hctl rfl fun hnil => ⟨hnil, trivial⟩
    refine h.keep hc hs ht ?_ (.here (.called hstack (Or.inl rfl))) (h.rest (.called xs ⟨sd, s.steps⟩))
      (h.channels.sent hkeeps ht) hledger hopen rfl rfl
    exact .calling hl rfl hm (Function.update_self _ _ _) (by simp [hq]) (by simp [hu]) (by simp [hv])

section
variable {c : Call} {m : Int32} {a : A} (h : Sound s has k pos base ((c, Invoked c m a) :: os))
  (hl : Linked k sd xs ys op os) (hcaller : c.caller = sd) (hm : has sd.other m = true)
  (hp : pos sd = .called xs c) (hu : base sd = [])
include h hl hcaller hm hp hu

theorem Sound.started (hv : base sd.other = [.marker RpcMessage.start, .head c m, .args c a])
    (hc : s.Conforms sd.other act) (hs : s.step sd.other act = some t) (hstack : (s.party sd.other).stack = ys)
    {rest : List (Word A)} (hws : s.incoming sd.other = .marker RpcMessage.start :: rest)
    (ht : t = s.after sd.other ((s.party sd.other).rpcDispatchStart op) rest [] []) : InTurn t := by
  have hledger := h.ledger.quiet (t := t) (by rw [ht]; exact List.append_nil _) (by rw [ht]; rfl)
  have hclient : sd.other = .server → base .client = [] := by
    intro hside
    cases sd with
    | client => exact hu
    | server => cases hside
  have hchannels := h.channels.taken hws hv ht (by simp) rfl (fun _ hnil => nomatch hnil)
    (fun hside => Or.inl (hclient hside))
  refine h.keep hc hs ht ?_ (.here (.head hstack rfl)) (h.rest (.head ys op)) hchannels hledger
    (h.alive sd.other).status rfl rfl
  exact .starting hl hcaller hm (by simp [hp]) (Function.update_self _ _ _) (by simp [hu]) (Function.update_self _ _ _)

theorem Sound.start (hq : pos sd.other = .waits ys op)
    (hv : base sd.other = [.marker RpcMessage.start, .head c m, .args c a])
    (hc : s.Conforms sd.other act) (hs : s.step sd.other act = some t) : InTurn t := by
  cases h.waitStep hc hs hq with
  | own hturn => exact hturn
  | sync hstack ht => exact h.sync hc hs hq hstack ht
  | @marker l tag vs rest hstack hctl hws hbase ht =>
    obtain rfl : tag = RpcMessage.start := by
      rw [hv] at hbase
      simpa using (List.cons.inj hbase).1.symm
    have hdispatch : tagAction (s.party sd.other).conn l.expected RpcMessage.start = .dispatch := by
      cases l <;> simp [tagAction, Loop.expected]
    have hstep := Party.recvMarker_dispatch hdispatch
    have hunfailed : Session.Unfailed ((s.party sd.other).recvMarker l (.ok RpcMessage.start)) := by
      rw [hstep]
      rintro _ ⟨⟩
    rw [Session.entries_recvMarker hunfailed hctl, hstep] at ht
    exact h.started hl hcaller hm hp hu hv hc hs hstack hws ht
  | @dispatch tag vs rest hstack hws hbase ht =>
    obtain rfl : tag = RpcMessage.start := by
      rw [hv] at hbase
      simpa using (List.cons.inj hbase).1.symm
    rw [Party.rpcDispatch_start] at ht
    exact h.started hl hcaller hm hp hu hv hc hs hstack hws ht

theorem Sound.headRead (hq : pos sd.other = .head ys op) (hv : base sd.other = [.head c m, .args c a])
    (hc : s.Conforms sd.other act) (hs : s.step sd.other act = some t) : InTurn t := by
  have hat := h.party sd.other
  rw [hq] at hat
  cases hat with
  | head hstack hctl =>
    obtain ⟨c', m', rest, hws, ht⟩ := Session.step_head hctl hs
    obtain ⟨rfl, rfl⟩ := Word.head.inj (h.channels.first hws hv (by simp))
    have hhas : (s.party sd.other).methods.has m' = true := by
      rw [h.methods]
      exact hm
    have hstep : (s.party sd.other).recvHead op (.ok (c', m')) = _ := Party.recvHead_has hhas
    have hunfailed : Session.Unfailed ((s.party sd.other).recvHead op (.ok (c', m'))) := by
      rw [hstep]
      intro ret hret
      cases hret
      exact Int.le_refl 0
    rw [Session.entries_recvHead hunfailed hctl, hstep] at ht
    have hledger := h.ledger.quiet (t := t) (by rw [ht]; exact List.append_nil _) (by rw [ht]; rfl)
    have hviewer : sd.other = .server → (s.party .server).ctl ≠ .marker .sync := by
      intro hside
      rw [← hside, hctl]
      nofun
    have hchannels := h.channels.taken hws hv ht (by simp) rfl (fun _ hnil => nomatch hnil)
      (fun hside => Or.inr (hviewer hside))
    let f : Frame := ⟨op, c', m', .fresh, (s.party sd.other).methods.positive m' hhas⟩
    refine h.keep hc hs ht ?_ (.here (.fresh (f := f) (congrArg _ hstack) rfl (Or.inl ⟨_, rfl⟩))) (h.rest (.fresh f ys))
      hchannels hledger (h.alive sd.other).status rfl rfl
    exact .handling (f := f) hl hcaller (by simp [hp, f]) (Function.update_self _ _ _) (by simp [hu])
      (Function.update_self _ _ _)

end

/-! ### From the handler to its reply -/

theorem Sound.argsRead {f : Frame} {a : A} (h : Sound s has k pos base ((f.call, Invoked f.call f.method a) :: os))
    (hl : Linked k f.call.caller xs ys f.op os) (hp : pos f.call.caller = .called xs f.call)
    (hq : pos f.call.caller.other = .fresh f ys) (hu : base f.call.caller = [])
    (hv : base f.call.caller.other = [.args f.call a]) (hc : s.Conforms f.call.caller.other act)
    (hs : s.step f.call.caller.other act = some t) : InTurn t := by
  generalize hsd : f.call.caller = sd at hl hp hq hu hv hc hs
  have hopen := (h.alive sd.other).status
  have hat := h.party sd.other
  have hcaller := h.party sd
  rw [hp] at hcaller
  rw [hq] at hat
  cases hat with
  | fresh hstack hphase hctl =>
    rcases hctl with ⟨ret, hctl⟩ | hctl
    · obtain rfl : act = .getArgs := by
        cases act <;> simp_all [Session.Conforms]
      have ht := Session.step_getArgs hctl hopen hs
      refine h.quiet hc hs ht ?_ (keeps_of_user hctl rfl fun hnil => ?_) hopen rfl rfl
      · rw [hq]
        exact .fresh hstack hphase (Or.inr rfl)
      · cases hstack.symm.trans hnil
    · obtain ⟨c', a', rest, hws, ht⟩ := Session.step_args hctl hstack hs
      obtain ⟨rfl, rfl⟩ := Word.args.inj (h.channels.first hws hv (by simp))
      have hviewer : (s.party .server).ctl ≠ .marker .sync := by
        rcases ConnectionType.eq_or_other .server sd with hside | hside
        · rw [hside]
          exact fun hsync => absurd (hcaller.waits_of_called.of_sync hsync) (by simp)
        · rw [hside, hctl]
          simp
      have hchannels := h.channels.taken hws hv ht (by simp) rfl (fun _ _ _ hsync => absurd hsync hviewer)
        (fun _ => Or.inr hviewer)
      have hlog : t.log = s.log ++ [(sd.other, .gotArgs f.call a')] := by rw [ht]; rfl
      have hledger := h.ledger.advance rfl hlog (by rw [ht]; rfl)
      have hrest : (s.party sd.other.other).At (Function.update (Function.update pos sd (.waits xs (.loop (.wait f.call))))
          sd.other (.runs ({ f with phase := .args } :: ys)) sd.other.other) := by
        rw [ConnectionType.other_other, Function.update_of_ne sd.ne_other, Function.update_self]
        exact hcaller.waits_of_called
      refine h.keep hc hs ht ?_ (.here (.runs rfl rfl)) hrest hchannels hledger hopen rfl rfl
      rw [← hsd] at hl ⊢
      exact .running (.call { f with phase := .args } a' hl rfl rfl) (Function.update_self _ _ _) (by simp)
        (Function.update_self _ _ _) (by simp [hsd, hu])

theorem Sound.reply (h : Sound s has k pos base os) (hl : Linked k sd xs ys op os) (hp : pos sd = .runs xs)
    (hq : pos sd.other = .waits ys op) (hu : base sd = []) (hv : base sd.other = []) {v : A}
    (hc : s.Conforms sd (.sendReply v)) (hs : s.step sd (.sendReply v) = some t) : InTurn t := by
  have hopen := (h.alive sd).status
  have hat := h.party sd
  rw [hp] at hat
  cases hat with
  | runs hstack hctl =>
    cases hl with
    | idle => simp [Session.Conforms, hctl, hstack] at hc
    | syncing => simp [Session.Conforms, hctl, hstack] at hc
    | granted => simp [Session.Conforms, hctl, hstack] at hc
    | @call _ sd xs ys os f a hl hcaller hphase =>
      subst hcaller
      have ht := Session.step_sendReply hctl hopen hstack hs
      have hlog : t.log = s.log ++ [(f.call.caller.other, .replied f.call v)] := by rw [ht]; rfl
      have hledger := h.ledger.advance rfl hlog (by rw [ht]; rfl)
      have hkeeps : Keeps (s.party f.call.caller.other) { s.party f.call.caller.other with
          conn := (s.party f.call.caller.other).conn.lowerHandle, ctl := .user RpcError.noError
          stack := { f with phase := .replied } :: ys } := by
        refine keeps_of_user hctl rfl fun hnil => ?_
        cases hstack.symm.trans hnil
      refine h.keep hc hs ht ?_ (.here (.replied { f with phase := .replied } rfl rfl rfl)) (h.rest (.waits ys f.op))
        (h.channels.sent hkeeps ht) hledger hopen rfl rfl
      rw [ConnectionType.other_other] at hq hv
      exact .replying hl rfl (by simp [hq]) (Function.update_self _ _ _) (by simp [hv]) (by simp [hu])

section
variable {c : Call} {m : Int32} {a v : A} (h : Sound s has k pos base ((c, Replied c m a v) :: os))
  (hl : Linked k c.caller xs ys op os) (hq : pos c.caller.other = .waits ys op) (hv : base c.caller.other = [])
  (hc : s.Conforms c.caller act) (hs : s.step c.caller act = some t)
include h hl hq hv hc hs

theorem Sound.replyRead (hp : pos c.caller = .waits xs (.loop (.wait c)))
    (hu : base c.caller = [.marker RpcMessage.reply, .body c v]) : InTurn t := by
  have hat := h.party c.caller
  rw [hp] at hat
  cases h.waitStep hc hs hp with
  | own hturn => exact hturn
  | @marker _ tag vs rest hstack hctl hws hbase ht =>
    obtain rfl : tag = RpcMessage.reply := by
      rw [hu] at hbase
      simpa using (List.cons.inj hbase).1.symm
    have hdone : tagAction (s.party c.caller).conn (Loop.wait c).expected RpcMessage.reply = .done := if_pos rfl
    have hstep := Party.recvMarker_done hdone
    have hunfailed : Session.Unfailed ((s.party c.caller).recvMarker (.wait c) (.ok RpcMessage.reply)) := by
      rw [hstep]
      nofun
    rw [Session.entries_recvMarker hunfailed hctl, hstep] at ht
    have hviewer : c.caller = .server → (s.party .server).ctl ≠ .marker .sync := by
      intro hside
      rw [← hside, hctl]
      nofun
    have hchannels := h.channels.taken hws hu ht (by simp) rfl (fun _ hnil => nomatch hnil)
      (fun hside => Or.inr (hviewer hside))
    have hledger := h.ledger.quiet (t := t) (by rw [ht]; exact List.append_nil _) (by rw [ht]; rfl)
    refine h.keep hc hs ht ?_ (.here (.body hstack rfl)) (h.rest (.body xs c)) hchannels hledger
      (h.alive c.caller).status rfl rfl
    exact .returning hl rfl (Function.update_self _ _ _) (by simp [hq]) (Function.update_self _ _ _) (by simp [hv])

theorem Sound.bodyRead (hp : pos c.caller = .body xs c) (hu : base c.caller = [.body c v]) : InTurn t := by
  have hat := h.party c.caller
  have hother := h.party c.caller.other
  rw [hp] at hat
  rw [hq] at hother
  cases hat with
  | body hstack hctl =>
    obtain ⟨c', v', rest, hws, ht⟩ := Session.step_body hctl hs
    obtain ⟨rfl, rfl⟩ := Word.body.inj (h.channels.first hws hu (by simp))
    have hviewer : c'.caller = .server → (s.party .server).ctl ≠ .marker .sync := by
      intro hside
      rw [← hside, hctl]
      nofun
    have hlast : c'.caller = .client → (s.party .server).ctl = .marker .sync → xs = [] := by
      intro hside hsync
      rw [hside] at hother
      obtain rfl := hother.of_sync hsync
      obtain ⟨-, -, hnil, -⟩ := hl.of_sync
      exact hnil
    have hchannels := h.channels.taken hws hu ht (by simp) rfl
      (fun hside _ _ hsync => ⟨hstack.trans (hlast hside hsync), trivial⟩) (fun hside => Or.inr (hviewer hside))
    have hlog : t.log = s.log ++ [(c'.caller, .returned c' v')] := by rw [ht]; rfl
    have hledger := h.ledger.close rfl hlog (by rw [ht]; rfl) (m := m) (a := a) (v := v') rfl
    refine h.keep hc hs ht ?_ (.here (.runs hstack rfl)) (h.rest (.runs xs)) hchannels hledger
      (h.alive c'.caller).status rfl rfl
    exact .running hl (Function.update_self _ _ _) (by simp [hq]) (Function.update_self _ _ _) (by simp [hv])

end

/-- An end that waits with nothing to read. -/
theorem Sound.otherStep (h : Sound s has k pos base os) (hc : s.Conforms side act) (hs : s.step side act = some t)
    (hpos : pos side = .waits xs op) (hbase : base side = []) : InTurn t := by
  cases h.waitStep hc hs hpos with
  | own hturn => exact hturn
  | sync hstack ht => exact h.sync hc hs hpos hstack ht
  | marker _ _ _ hvs => cases hbase.symm.trans hvs
  | dispatch _ _ hvs => cases hbase.symm.trans hvs

/-! ### The viewer's SYNC -/

section
variable (h : Sound s has k pos base os)
include h

/-- The wrapper grants a SYNC. -/
theorem Sound.grant (hk : k = .syncing) {q : Party} {rest : List (Word A)}
    (hl : Linked k .client [] ys op os) (hq : pos .server = .waits ys op) (hv : base .server = [])
    (hc : s.Conforms .client act) (hs : s.step .client act = some t) (hrest : rest = [])
    (ht : t = s.after .client q rest [.marker RpcMessage.syncAck] []) (hstack : q.stack = [])
    (hctl : q.ctl = .marker .dispatchSync) (hpending : q.conn.pendingSyncDepth = 0) (hactive : q.conn.status = .active)
    (hmethods : q.methods = (s.party .client).methods) : InTurn t := by
  subst hk hrest
  obtain ⟨rfl, rfl, hroot⟩ := hl.of_nil
  obtain rfl : op = .loop .sync := by
    rcases hroot with ⟨-, ⟨hk, -⟩ | ⟨-, hop⟩⟩ | ⟨hside, -⟩
    · cases hk
    · exact hop
    · cases hside
  have hledger := h.ledger.quiet (t := t) (by rw [ht]; exact List.append_nil _) (by rw [ht]; rfl)
  let base' : ConnectionType → List (Word A)
    | .client => []
    | .server => [.marker RpcMessage.syncAck]
  have hchannels : Channels .idle t.party t.incoming base' := by
    obtain ⟨hserver, -⟩ := h.channels
    rw [hv] at hserver
    subst ht
    refine ⟨?_, ?_⟩
    · simp [Session.after, ConnectionType.other, hserver, base']
    · have hplain : Weave .idle q (s.party .server) ([] : List (Word A)) [] := .plain (by simp) hpending
      simpa [Session.after, ConnectionType.other, base'] using hplain
  have hgranted : (t.party .server).conn.isSync = true ↔ Root.idle = .granted := by
    have hserver : t.party .server = s.party .server := by
      rw [ht]
      rfl
    rw [hserver, h.granted]
    exact ⟨(by simp), (by simp)⟩
  have hturn : Turn has .idle (Function.update pos .client (.waits [] (.loop .dispatchSync))) base' [] :=
    .granting rfl (Function.update_self _ _ _) hq rfl rfl
  exact ⟨has, .idle, _, base', [], h.step hc hs ht hturn (.here (.loop hstack hctl)) (h.rest _) hchannels hledger hgranted
    hactive hmethods⟩

/-- The viewer has its SYNC. -/
theorem Sound.ackRead (hk : k = .idle) (hos : os = []) (hp : pos .client = .waits [] (.loop .dispatchSync))
    (hq : pos .server = .waits [] (.loop .sync)) (hu : base .client = [])
    (hv : base .server = [.marker RpcMessage.syncAck]) (hc : s.Conforms .server act)
    (hs : s.step .server act = some t) : InTurn t := by
  subst hk hos
  cases h.waitStep hc hs hq with
  | own hturn => exact hturn
  | @marker _ tag vs rest hstack hctl hws hbase ht =>
    obtain ⟨hserver, hclient⟩ := h.channels
    rw [hws, hv] at hserver
    obtain ⟨hack, rfl⟩ := List.cons.inj hserver
    obtain rfl : tag = RpcMessage.syncAck := by simpa using hack
    have hdone : tagAction (s.party .server).conn Loop.sync.expected RpcMessage.syncAck = .done := if_pos rfl
    have hstep := Party.recvMarker_done hdone
    have hunfailed : Session.Unfailed ((s.party .server).recvMarker .sync (.ok RpcMessage.syncAck)) := by
      rw [hstep]
      intro ret hret
      cases hret
      exact Int.le_refl 0
    rw [Session.entries_recvMarker hunfailed hctl, hstep] at ht
    have hledger := h.ledger.quiet (t := t) (by rw [ht]; exact List.append_nil _) (by rw [ht]; rfl)
    let base' : ConnectionType → List (Word A) := fun _ => []
    have hchannels : Channels .granted t.party t.incoming base' := by
      rw [hu] at hclient
      generalize hus : s.incoming .client = us at hclient
      cases hclient with
      | plain hk hpending =>
        subst ht
        refine ⟨?_, ?_⟩
        · simp [Session.after, ConnectionType.other, base']
        · have hplain : Weave .granted (s.party .client) ((s.party .server).loopEnd .sync) ([] : List (Word A)) [] :=
            .plain (by simp) hpending
          simpa [Session.after, ConnectionType.other, base', hus] using hplain
      | noted hk => cases hk
      | front hk => cases hk
      | back hk => cases hk
    have hgranted : (t.party .server).conn.isSync = true ↔ Root.granted = .granted := by
      rw [ht, Session.after_party_self]
      exact ⟨fun _ => rfl, fun _ => rfl⟩
    have hturn : Turn has .granted (Function.update pos .server (.runs [])) base' [] :=
      .running .granted (Function.update_self _ _ _) hp rfl rfl
    exact ⟨has, .granted, _, base', [], h.step hc hs ht hturn (.here (.runs hstack rfl)) (h.rest _) hchannels hledger
      hgranted (h.alive .server).status rfl⟩

/-- What is under way after the end of a synchronous section. -/
def syncEnded : ConnectionType → List (Word A)
  | .client => [.marker RpcMessage.syncEnd]
  | .server => []

theorem Sound.endSync (hl : Linked k .server [] ys op os) (hp : pos .server = .runs []) (hq : pos .client = .waits ys op)
    (hu : base .server = []) (hv : base .client = []) (hc : s.Conforms .server .endSync)
    (hs : s.step .server .endSync = some t) : InTurn t := by
  have hat := h.party .server
  rw [hp] at hat
  cases hat with
  | runs hstack hctl =>
    have hsync : (s.party .server).conn.isSync = true := by simpa [Session.Conforms, hctl, hstack] using hc
    have ht := Session.step_endSync hctl hsync hs
    obtain ⟨rfl, rfl, ⟨hside, -⟩ | ⟨-, rfl, rfl⟩⟩ := hl.of_nil
    · cases hside
    have hledger := h.ledger.quiet (t := t) (by rw [ht]; exact List.append_nil _) (by rw [ht]; rfl)
    have hchannels : Channels .idle t.party t.incoming syncEnded := by
      obtain ⟨hserver, hclient⟩ := h.channels
      rw [hu] at hserver
      rw [hv] at hclient
      generalize hus : s.incoming .client = us at hclient
      cases hclient with
      | plain hk hpending =>
        subst ht
        refine ⟨?_, ?_⟩
        · simpa [Session.after, ConnectionType.other, syncEnded] using hserver
        · have hplain (q : Party) : Weave .idle (s.party .client) q [Word.marker (A := A) RpcMessage.syncEnd]
            [.marker RpcMessage.syncEnd] := .plain (by simp) hpending
          simpa [Session.after, ConnectionType.other, syncEnded, hus] using hplain _
      | noted hk => cases hk
      | front hk => cases hk
      | back hk => cases hk
    have hgranted : (t.party .server).conn.isSync = true ↔ Root.idle = .granted := by
      rw [ht, Session.after_party_self]
      exact ⟨by rintro ⟨⟩, by simp⟩
    have hserver : syncEnded .server = ([] : List (Word A)) := rfl
    have hclient : syncEnded .client = [Word.marker (A := A) RpcMessage.syncEnd] := rfl
    have hturn : Turn has .idle (Function.update pos .server (.waits [] .dispatch)) syncEnded [] :=
      .ending .idle hq (Function.update_self _ _ _) hclient hserver
    exact ⟨has, .idle, _, syncEnded, [], h.step hc hs ht hturn (.here (.idle hstack rfl)) (h.rest _) hchannels hledger
      hgranted (h.alive .server).status rfl⟩

/-- The wrapper's event loop has its turn again. -/
theorem Sound.syncEndRead (hl : Linked k .client [] [] op os) (hp : pos .client = .waits [] (.loop .dispatchSync))
    (hq : pos .server = .waits [] op) (hu : base .client = [.marker RpcMessage.syncEnd]) (hv : base .server = [])
    (hc : s.Conforms .client act) (hs : s.step .client act = some t) : InTurn t := by
  cases h.waitStep hc hs hp with
  | own hturn => exact hturn
  | @marker _ tag vs rest hstack hctl hws hbase ht =>
    obtain rfl : tag = RpcMessage.syncEnd := by
      rw [hu] at hbase
      simpa using (List.cons.inj hbase).1.symm
    have hdone : tagAction (s.party .client).conn Loop.dispatchSync.expected RpcMessage.syncEnd = .done := if_pos rfl
    have hstep := Party.recvMarker_done hdone
    have hunfailed : Session.Unfailed ((s.party .client).recvMarker .dispatchSync (.ok RpcMessage.syncEnd)) := by
      rw [hstep]
      intro ret hret
      cases hret
      exact Int.le_refl 0
    rw [Session.entries_recvMarker hunfailed hctl, hstep] at ht
    have hledger := h.ledger.quiet (t := t) (by rw [ht]; exact List.append_nil _) (by rw [ht]; rfl)
    have hchannels := h.channels.taken hws hu ht (by simp) rfl (fun _ _ _ _ => ⟨hstack, trivial⟩) nofun
    refine h.keep hc hs ht ?_ (.here (.runs hstack rfl)) (h.rest (.runs [])) hchannels hledger (h.alive .client).status rfl rfl
    exact .running hl (Function.update_self _ _ _) hq (Function.update_self _ _ _) hv

/-- No word is left to read when the wrapper has noted a SYNC and comes back to its event loop. -/
theorem Sound.noted (hl : Linked k .client xs ys op os) (hp : pos .client = .runs xs) (hu : base .client = [])
    (hhandle : ¬0 < (s.party .client).conn.handleDepth)
    (hpending : (s.party .client).conn.pendingSyncDepth ≠ 0) :
    xs = [] ∧ k = .syncing ∧ (s.party .client).conn.pendingSyncDepth = 1 ∧ s.incoming .client = [] := by
  have hat := h.party .client
  rw [hp] at hat
  cases hat with
  | runs hstack hctl =>
    refine ⟨?_, ?_⟩
    · have hdepth := (h.alive .client).balanced.handle
      have hall : xs.countP Frame.handling = xs.length := by
        refine List.countP_eq_length.mpr fun f hf => ?_
        simp [Frame.handling, hl.args_of_mem f hf]
      rw [hstack, hctl, hall] at hdepth
      change (s.party .client).conn.handleDepth = xs.length + (0 : Nat) at hdepth
      exact List.length_eq_zero_iff.mp (by omega)
    · obtain ⟨-, hclient⟩ := h.channels
      rw [hu] at hclient
      generalize hws : s.incoming .client = ws at hclient ⊢
      generalize hus : ([] : List (Word A)) = us at hclient
      cases hclient with
      | plain _ hzero => exact absurd hzero hpending
      | noted hk hone => exact ⟨hk, hone, rfl⟩
      | front _ hzero => exact absurd hzero hpending
      | back _ hzero => exact absurd hzero hpending

section
variable (hl : Linked k .client xs ys op os) (hp : pos .client = .runs xs) (hq : pos .server = .waits ys op)
  (hu : base .client = []) (hv : base .server = [])
include hl hp hq hu hv

/-- The wrapper's event loop reads a SYNC. -/
theorem Sound.syncRead (hc : s.Conforms .client .dispatch) (hs : s.step .client .dispatch = some t) : InTurn t := by
  have hopen := (h.alive .client).status
  have hat := h.party .client
  rw [hp] at hat
  cases hat with
  | runs hstack hctl =>
    obtain ⟨tag, rest, hws, ht⟩ := Session.step_dispatch hctl hs
    rcases h.channels.head hws with ⟨vs, hvs⟩ | ⟨-, htag, hk, hrest, hpending, hnil, -⟩
    · cases hu.symm.trans hvs
    · obtain rfl : tag = RpcMessage.sync := by simpa using htag
      obtain rfl : xs = [] := hstack.symm.trans hnil
      rw [Party.rpcDispatch_sync] at ht
      exact h.grant hk hl hq hv hc hs (hrest.symm.trans hu) ht hnil rfl hpending hopen rfl

theorem Sound.pendingSync (hc : s.Conforms .client .dispatchPendingSync)
    (hs : s.step .client .dispatchPendingSync = some t) : InTurn t := by
  have hopen := (h.alive .client).status
  have hat := h.party .client
  rw [hp] at hat
  cases hat with
  | runs hstack hctl =>
    have ht := Session.step_dispatchPendingSync hctl hs
    by_cases hnone : 0 < (s.party .client).conn.invokeDepth ∨ 0 < (s.party .client).conn.handleDepth ∨
        (s.party .client).conn.pendingSyncDepth = 0
    · simp only [Party.rpcDispatchPendingSync, if_pos hnone] at ht
      refine h.quiet hc hs ht ?_ (keeps_of_user hctl rfl fun hnil => ⟨hnil, trivial⟩) hopen rfl rfl
      rw [hp]
      exact .runs hstack rfl
    · have hnone' := hnone
      simp only [not_or] at hnone'
      obtain ⟨-, hhandle, hpending⟩ := hnone'
      obtain ⟨rfl, hk, hone, hws⟩ := h.noted hl hp hu hhandle hpending
      have hgrants : (s.party .client).conn.pendingSyncDepth = 1 ∧ (!(s.incoming .client).isEmpty) = false := by
        rw [hws]
        exact ⟨hone, rfl⟩
      simp only [Party.rpcDispatchPendingSync, if_neg hnone, if_pos hgrants] at ht
      exact h.grant hk hl hq hv hc hs hws ht hstack rfl rfl hopen rfl

end
end

/-! ### Whole turns -/

/-- User code goes on. -/
theorem Sound.runStep (h : Sound s has k pos base os) (hl : Linked k sd xs ys op os) (hp : pos sd = .runs xs)
    (hq : pos sd.other = .waits ys op) (hu : base sd = []) (hv : base sd.other = []) (hc : s.Conforms sd act)
    (hs : s.step sd act = some t) : InTurn t := by
  have hat := h.party sd
  rw [hp] at hat
  cases hat with
  | runs hstack hctl =>
    have hmethods (m : Int32) : (s.party sd.other).methods.has m = true → has sd.other m = true := by
      rw [h.methods]
      exact id
    rcases hxs : xs with _ | ⟨f, zs⟩
    · rw [hxs] at hl hp hstack
      cases sd with
      | server =>
        cases act with
        | invoke m a =>
          have hm : s.MayInvoke .server m := by
            simp only [Session.Conforms, hctl, hstack] at hc
            exact hc.2
          exact h.invoke hl hp hq hu hv hc (hmethods m hm.1) hs
        | endSync => exact h.endSync hl hp hq hu hv hc hs
        | sync =>
          obtain ⟨-, -, ⟨hside, -⟩ | ⟨-, hk, -⟩⟩ := hl.of_nil
          · cases hside
          · simp only [Session.Conforms, hctl, hstack] at hc
            exact absurd (hc.symm.trans (h.granted.mpr hk)) (by decide)
        | dispatch =>
          obtain ⟨-, -, ⟨hside, -⟩ | ⟨-, hk, -⟩⟩ := hl.of_nil
          · cases hside
          · simp only [Session.Conforms, hctl, hstack] at hc
            exact absurd (hc.symm.trans (h.granted.mpr hk)) (by decide)
        | _ => simp [Session.Conforms, hctl, hstack] at hc
      | client =>
        cases act with
        | invoke m a =>
          have hm : s.MayInvoke .client m := by simpa only [Session.Conforms, hctl, hstack] using hc
          exact h.invoke hl hp hq hu hv hc (hmethods m hm.1) hs
        | dispatch => exact h.syncRead hl hp hq hu hv hc hs
        | dispatchPendingSync => exact h.pendingSync hl hp hq hu hv hc hs
        | _ => simp [Session.Conforms, hctl, hstack] at hc
    · have hphase : f.phase = .args := hl.args_of_mem f (hxs ▸ List.mem_cons_self)
      rw [hxs] at hstack
      cases act with
      | invoke m a =>
        have hm : s.MayInvoke sd m := by simpa only [Session.Conforms, hctl, hstack, hphase] using hc
        exact h.invoke hl hp hq hu hv hc (hmethods m hm.1) hs
      | sendReply v => exact h.reply hl hp hq hu hv hc hs
      | dispatch =>
        obtain rfl : sd = .client := by simpa only [Session.Conforms, hctl, hstack, hphase] using hc
        exact h.syncRead hl hp hq hu hv hc hs
      | dispatchPendingSync =>
        obtain rfl : sd = .client := by simpa only [Session.Conforms, hctl, hstack, hphase] using hc
        exact h.pendingSync hl hp hq hu hv hc hs
      | _ => simp [Session.Conforms, hctl, hstack, hphase] at hc

/-- A conforming step takes a session from one of its turns to one of its turns. -/
theorem inTurn_step (h : InTurn s) (hc : s.Conforms side act) (hs : s.step side act = some t) : InTurn t := by
  obtain ⟨has, k, pos, base, os, h⟩ := h
  cases hturn : h.turn with
  | @running sd xs ys op os hl hp hq hu hv =>
    rcases side.eq_or_other sd with rfl | rfl
    · exact h.runStep hl hp hq hu hv hc hs
    · exact h.otherStep hc hs hq hv
  | @calling sd xs ys op os c m a hl hcaller hm hp hq hu hv =>
    rcases side.eq_or_other sd with rfl | rfl
    · exact h.calledStep hc hs hp hu
    · exact h.start hl hcaller hm hp hu hq hv hc hs
  | @starting sd xs ys op os c m a hl hcaller hm hp hq hu hv =>
    rcases side.eq_or_other sd with rfl | rfl
    · exact h.calledStep hc hs hp hu
    · exact h.headRead hl hcaller hm hp hu hq hv hc hs
  | @handling sd xs ys os f a hl hcaller hp hq hu hv =>
    subst hcaller
    rcases side.eq_or_other f.call.caller with rfl | rfl
    · exact h.calledStep hc hs hp hu
    · exact h.argsRead hl hp hq hu hv hc hs
  | @replying sd xs ys op os c m a v hl hcaller hp hq hu hv =>
    subst hcaller
    rcases side.eq_or_other c.caller with rfl | rfl
    · exact h.replyRead hl hq hv hc hs hp hu
    · exact h.otherStep hc hs hq hv
  | @returning sd xs ys op os c m a v hl hcaller hp hq hu hv =>
    subst hcaller
    rcases side.eq_or_other c.caller with rfl | rfl
    · exact h.bodyRead hl hq hv hc hs hp hu
    · exact h.otherStep hc hs hq hv
  | granting hk hp hq hu hv =>
    cases side with
    | client => exact h.otherStep hc hs hp hu
    | server => exact h.ackRead hk rfl hp hq hu hv hc hs
  | ending hl hp hq hu hv =>
    cases side with
    | client => exact h.syncEndRead hl hp hq hu hv hc hs
    | server => exact h.otherStep hc hs hq hv

theorem inTurn_init (h : s.Opened) : InTurn s := by
  let pos : ConnectionType → Position
    | .client => .runs []
    | .server => .waits [] .dispatch
  have hfresh side := (h.party side).1.1
  refine ⟨fun side => (s.party side).methods.has, .idle, pos, fun _ => [], [], ?_, fun side => ?_, ⟨h.incoming _, ?_⟩, ?_,
    ?_, fun side => ?_, fun _ => rfl⟩
  · exact .running .idle rfl rfl rfl rfl
  · obtain ⟨⟨-, hstack, hctl⟩, -⟩ := h.party side
    cases side with
    | client => exact .runs hstack hctl
    | server => exact .idle hstack hctl
  · rw [h.incoming]
    exact .plain (by simp) (hfresh .client).pendingSyncDepth
  · refine ⟨(by simp), (by simp), List.nodup_nil, fun c _ => Or.inl ?_, ?_⟩
    · rw [Session.history, h.log]
      rfl
    · rw [h.log]
      simp
  · rw [(hfresh .server).isSync]
    exact ⟨(by simp), (by simp)⟩
  · exact ⟨(hfresh side).active, (h.party side).2, balanced_init (A := A) (h.party side).1⟩

theorem inTurn_of_reachable (h : (conformingSession A).Reachable s) : InTurn s := by
  refine h.invariant InTurn ?_ ?_
  · exact fun s hs => inTurn_init hs
  · exact fun s x t _ hi hs => inTurn_step hi hs.1 hs.2

end
end NSPluginWrapper
