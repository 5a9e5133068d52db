import NSPluginWrapper.Theorems.Taking

/-! What the turns of a session say: one end at a time runs user code, every call has its own arguments and its
    own reply, and somebody can always go on. -/

namespace NSPluginWrapper
open Lib

section
variable {A : Type} {s t : Session A} {has : ConnectionType → Int32 → Bool} {k : Root}
  {pos : ConnectionType → Position} {base : ConnectionType → List (Word A)} {os : List (Call × History A)}
  {side sd : ConnectionType} {xs zs : List Frame} {op : Op} {c : Call}

/-! ### One end runs user code -/

section
variable (h : Sound s has k pos base os)
include h

theorem Sound.waits_not_running (hpos : pos side = .waits zs op) : ¬s.Running side := by
  have hat := h.party side
  rw [hpos] at hat
  cases hat with
  | loop hstack hctl => simp [Session.Running, hctl]
  | invoked hstack hctl => simp [Session.Running, hctl]
  | idle hstack hctl =>
    obtain ⟨rfl, -, hk⟩ := h.turn.of_dispatch hpos
    have hsync : ¬(s.party .server).conn.isSync = true := by
      rw [h.granted, hk]
      nofun
    simp [Session.Running, hctl, hstack, hsync]
  | replied f hstack hphase hctl => simp [Session.Running, hctl, hstack, hphase]

theorem Sound.called_not_running (hpos : pos side = .called xs c) : ¬s.Running side := by
  have hat := h.party side
  rw [hpos] at hat
  cases hat with
  | called hstack hctl => rcases hctl with hctl | hctl <;> simp [Session.Running, hctl]

/-- One of the two ends does not run user code. -/
theorem Sound.not_running : ∃ side, ¬s.Running side := by
  cases h.turn with
  | running _ _ hq => exact ⟨_, h.waits_not_running hq⟩
  | calling _ _ _ hp => exact ⟨_, h.called_not_running hp⟩
  | starting _ _ _ hp => exact ⟨_, h.called_not_running hp⟩
  | handling _ _ hp => exact ⟨_, h.called_not_running hp⟩
  | replying _ _ hp => exact ⟨_, h.waits_not_running hp⟩
  | returning _ _ _ hq => exact ⟨_, h.waits_not_running hq⟩
  | granting _ hp => exact ⟨_, h.waits_not_running hp⟩
  | ending _ hp => exact ⟨_, h.waits_not_running hp⟩

end

/-- While one end runs user code, the other is in a read, or in a handler that has replied. -/
theorem one_end_runs (h : (conformingSession A).Reachable s) : ∀ side, s.Running side → ¬s.Running side.other := by
  intro side hruns hother
  obtain ⟨_, _, _, _, _, hsound⟩ := inTurn_of_reachable h
  obtain ⟨a, hnot⟩ := hsound.not_running
  rcases a.eq_or_other side with rfl | rfl
  · exact hnot hruns
  · exact hnot hother

/-- A new viewer and a new wrapper. -/
def Session.opened (A : Type) : Session A where
  party
    | .server => Party.opened .server .stopLoop
    | .client => Party.opened .client .killPlugin
  incoming _ := []
  steps := 0
  log := []

theorem Session.opened_init : (conformingSession A).init (Session.opened A) where
  party side := by cases side <;> exact ⟨Party.opened_init _ _, rfl⟩
  incoming _ := rfl
  steps := rfl
  log := rfl

/-- The viewer works between `rpc_sync` and `rpc_end_sync`. -/
theorem viewer_runs : ∃ s : Session Unit, s.Running .server ∧ ¬s.Running .client := by
  have h₀ := Machine.Reachable.init (m := conformingSession Unit) Session.opened_init
  have h₁ := h₀.next (.server, .sync) ⟨rfl, rfl⟩
  have h₂ := h₁.next (.client, .dispatch) ⟨trivial, rfl⟩
  have h₃ := h₂.next (.server, .read) ⟨trivial, rfl⟩
  refine ⟨_, ?_, one_end_runs h₃ .server ?_⟩
  · exact Or.inr rfl
  · exact Or.inr rfl

/-! ### Every call has its reply -/

/-- The innermost operation of an end is `rpc_method_wait_for_reply` of `call`, or about to be. -/
def Party.WaitsFor (p : Party) (call : Call) : Prop :=
  p.ctl = .invoked call ∨ p.ctl = .marker (.wait call) ∨ p.ctl = .body call ∨
  ∃ f rest, p.stack = f :: rest ∧ f.phase = .replied ∧ f.op = .loop (.wait call)

/-- A call is invoked, handled with its own arguments, replied to and returned with that reply, each by its own
    end and once. -/
def Session.InOrder (s : Session A) (call : Call) : Prop :=
  s.history call = [] ∨ ∃ method values reply, s.history call <+: Returned call method values reply

/-- A reply its caller does not have yet is on its way to it, and nothing the caller does comes before. -/
def Session.NotLost (s : Session A) (call : Call) : Prop :=
  ∀ method values reply, s.history call = Replied call method values reply →
    .body call reply ∈ s.incoming call.caller ∧ (s.party call.caller).WaitsFor call

/-- Both ends are in a read that nothing can end. -/
def Session.Deadlocked (s : Session A) : Prop := ∀ side, s.Reading side ∧ s.incoming side = []

theorem Party.At.waitsFor {p : Party} (h : p.At (.waits xs (.loop (.wait c)))) : p.WaitsFor c := by
  generalize hop : Op.loop (.wait c) = op at h
  generalize ha : Position.waits xs op = a at h
  cases h with
  | loop hs hc =>
    cases ha
    cases hop
    exact Or.inr (Or.inl hc)
  | invoked hs hc =>
    cases ha
    cases hop
    exact Or.inl hc
  | idle hs hc =>
    cases ha
    cases hop
  | replied f hs hf hc =>
    cases ha
    exact Or.inr (Or.inr (Or.inr ⟨f, xs, hs, hf, hop.symm⟩))
  | _ => cases ha

/-- What an end has to read includes the words of the turn. -/
theorem Channels.mem (h : Channels k s.party s.incoming base) {x : Word A} (hx : x ∈ base side) : x ∈ s.incoming side := by
  obtain ⟨hserver, hclient⟩ := h
  cases side with
  | server => exact hserver ▸ hx
  | client =>
    generalize hws : s.incoming .client = ws at hclient ⊢
    generalize hus : base .client = us at hclient hx
    cases hclient with
    | plain => exact hx
    | noted => exact hx
    | front => exact List.mem_cons_of_mem _ hx
    | back => exact List.mem_append_left _ hx

/-- The open calls below the one a turn is about have their arguments and no reply. -/
theorem Linked.handled_of_mem {ys : List Frame} (h : Linked k sd xs ys op os) :
    ∀ o ∈ os, ∃ m a, o.2 = Handled o.1 m a := by
  induction h with
  | idle => exact nofun
  | syncing => exact nofun
  | granted => exact nofun
  | call f values _ _ _ ih =>
    intro o ho
    rcases List.mem_cons.mp ho with rfl | ho
    · exact ⟨f.method, values, rfl⟩
    · exact ih o ho

theorem not_replied_of_handled {m m' : Int32} {a a' v : A} : Handled c m a ≠ Replied c m' a' v := by
  simp [Handled, Replied, Invoked]

theorem replied_inj {m m' : Int32} {a a' v v' : A} (h : Replied c m a v = Replied c m' a' v') : v = v' := by
  simp only [Replied, Handled, Invoked, List.cons_append, List.nil_append, List.cons.injEq, Prod.mk.injEq,
    Entry.replied.injEq] at h
  exact h.2.2.1.2.2

/-- A call that has a reply and has not returned is the one the turn is about. -/
theorem Turn.replied (h : Turn has k pos base os) {past : History A} (hmem : (c, past) ∈ os) {m : Int32} {a v : A}
    (hpast : past = Replied c m a v) : .body c v ∈ base c.caller ∧
    (∃ xs, pos c.caller = .waits xs (.loop (.wait c)) ∨ pos c.caller = .body xs c) := by
  have hbelow {sd xs ys op os} (hl : Linked (A := A) k sd xs ys op os) (hmem : (c, past) ∈ os) : False := by
    obtain ⟨m', a', hhandled⟩ := hl.handled_of_mem _ hmem
    exact not_replied_of_handled (hhandled.symm.trans hpast)
  cases h with
  | running hl => exact (hbelow hl hmem).elim
  | calling hl =>
    rcases List.mem_cons.mp hmem with heq | hmem
    · cases heq
      simp [Invoked, Replied, Handled] at hpast
    · exact (hbelow hl hmem).elim
  | starting hl =>
    rcases List.mem_cons.mp hmem with heq | hmem
    · cases heq
      simp [Invoked, Replied, Handled] at hpast
    · exact (hbelow hl hmem).elim
  | handling hl =>
    rcases List.mem_cons.mp hmem with heq | hmem
    · cases heq
      simp [Invoked, Replied, Handled] at hpast
    · exact (hbelow hl hmem).elim
  | replying hl hcaller hp _ hu =>
    rcases List.mem_cons.mp hmem with heq | hmem
    · cases heq
      obtain rfl := replied_inj hpast
      rw [hcaller, hu]
      exact ⟨by simp, _, Or.inl hp⟩
    · exact (hbelow hl hmem).elim
  | returning hl hcaller hp _ hu =>
    rcases List.mem_cons.mp hmem with heq | hmem
    · cases heq
      obtain rfl := replied_inj hpast
      rw [hcaller, hu]
      exact ⟨by simp, _, Or.inr hp⟩
    · exact (hbelow hl hmem).elim
  | granting => cases hmem
  | ending => cases hmem

theorem invoked_prefix (c : Call) (m : Int32) (a v : A) : Invoked c m a <+: Returned c m a v :=
  ((List.prefix_append _ _).trans (List.prefix_append _ _)).trans (List.prefix_append _ _)

theorem handled_prefix (c : Call) (m : Int32) (a v : A) : Handled c m a <+: Returned c m a v :=
  (List.prefix_append _ _).trans (List.prefix_append _ _)

theorem replied_prefix (c : Call) (m : Int32) (a v : A) : Replied c m a v <+: Returned c m a v := List.prefix_append _ _

/-- What is open of a call is a part of it. -/
theorem Turn.prefix_of_mem (h : Turn has k pos base os) {o : Call × History A} (ho : o ∈ os) :
    ∃ m a v, o.2 <+: Returned o.1 m a v := by
  have hbelow {sd xs ys op os} (hl : Linked (A := A) k sd xs ys op os) (ho : o ∈ os) :
      ∃ m a v, o.2 <+: Returned o.1 m a v := by
    obtain ⟨m, a, hhandled⟩ := hl.handled_of_mem o ho
    exact ⟨m, a, a, hhandled ▸ handled_prefix _ _ _ _⟩
  cases h with
  | running hl => exact hbelow hl ho
  | @calling _ _ _ _ _ c m a hl =>
    rcases List.mem_cons.mp ho with rfl | ho
    · exact ⟨m, a, a, invoked_prefix _ _ _ _⟩
    · exact hbelow hl ho
  | @starting _ _ _ _ _ c m a hl =>
    rcases List.mem_cons.mp ho with rfl | ho
    · exact ⟨m, a, a, invoked_prefix _ _ _ _⟩
    · exact hbelow hl ho
  | @handling _ _ _ _ f a hl =>
    rcases List.mem_cons.mp ho with rfl | ho
    · exact ⟨f.method, a, a, invoked_prefix _ _ _ _⟩
    · exact hbelow hl ho
  | @replying _ _ _ _ _ c m a v hl =>
    rcases List.mem_cons.mp ho with rfl | ho
    · exact ⟨m, a, v, replied_prefix _ _ _ _⟩
    · exact hbelow hl ho
  | @returning _ _ _ _ _ c m a v hl =>
    rcases List.mem_cons.mp ho with rfl | ho
    · exact ⟨m, a, v, replied_prefix _ _ _ _⟩
    · exact hbelow hl ho
  | granting => cases ho
  | ending => cases ho

section
variable (h : Sound s has k pos base os)
include h

theorem Sound.inOrder (c : Call) : s.InOrder c := by
  by_cases hmem : c ∈ os.map Prod.fst
  · obtain ⟨o, ho, rfl⟩ := List.mem_map.mp hmem
    obtain ⟨m, a, v, hprefix⟩ := h.turn.prefix_of_mem ho
    rw [← h.ledger.opened o ho] at hprefix
    exact Or.inr ⟨m, a, v, hprefix⟩
  · rcases h.ledger.closed c hmem with hnil | ⟨m, a, v, hdone⟩
    · exact Or.inl hnil
    · exact Or.inr ⟨m, a, v, hdone ▸ List.prefix_rfl⟩

theorem Sound.notLost (c : Call) : s.NotLost c := by
  intro m a v hpast
  by_cases hmem : c ∈ os.map Prod.fst
  · obtain ⟨⟨c, past⟩, ho, rfl⟩ := List.mem_map.mp hmem
    obtain ⟨hword, xs, hpos⟩ := h.turn.replied ho ((h.ledger.opened _ ho).symm.trans hpast)
    refine ⟨h.channels.mem hword, ?_⟩
    have hat := h.party c.caller
    rcases hpos with hpos | hpos
    · rw [hpos] at hat
      exact hat.waitsFor
    · rw [hpos] at hat
      cases hat with
      | body _ hctl => exact Or.inr (Or.inr (Or.inl hctl))
  · rcases h.ledger.closed c hmem with hnil | ⟨m', a', v', hdone⟩
    · cases hpast.symm.trans hnil
    · have hlength := congrArg List.length (hpast.symm.trans hdone)
      cases hlength

/-- Somebody runs, or has a message of the turn to read. -/
theorem Sound.not_deadlocked : ¬s.Deadlocked := by
  intro hdead
  have hword {side : ConnectionType} {x : Word A} {ws : List (Word A)} (hbase : base side = x :: ws) : False := by
    have hmem := h.channels.mem (hbase ▸ List.mem_cons_self : x ∈ base side)
    rw [(hdead side).2] at hmem
    cases hmem
  cases h.turn with
  | @running sd _ _ _ _ _ hp =>
    have hat := h.party sd
    have hread := (hdead sd).1
    rw [hp] at hat
    cases hat with
    | runs _ hctl => simp [Session.Reading, hctl] at hread
  | calling _ _ _ _ _ _ hv => exact hword hv
  | starting _ _ _ _ _ _ hv => exact hword hv
  | handling _ _ _ _ _ hv => exact hword hv
  | replying _ _ _ _ hu => exact hword hu
  | returning _ _ _ _ hu => exact hword hu
  | granting _ _ _ _ hv => exact hword hv
  | ending _ _ _ hu => exact hword hu

end

/-! ### Every read finds its word -/

/-- What there is to read at a position. -/
def Position.Expects : Position → List (Word A) → Prop
  | .runs _, ws => ws = []
  | .called .., ws | .waits .., ws => ws = [] ∨ ∃ tag vs, ws = .marker tag :: vs
  | .head .., ws => ∃ c m a, ws = [.head c m, .args c a]
  | .fresh f _, ws => ∃ a, ws = [.args f.call a]
  | .body _ c, ws => ∃ v, ws = [.body c v]

theorem Turn.expects (h : Turn has k pos base os) (side : ConnectionType) : (pos side).Expects (base side) := by
  have hends {sd : ConnectionType} {a b : Position} {us vs : List (Word A)} (hp : pos sd = a) (hq : pos sd.other = b)
    (hu : base sd = us) (hv : base sd.other = vs) (ha : a.Expects us) (hb : b.Expects vs) :
    (pos side).Expects (base side) := by
    rcases side.eq_or_other sd with rfl | rfl
    · rw [hp, hu]
      exact ha
    · rw [hq, hv]
      exact hb
  cases h with
  | running _ hp hq hu hv => exact hends hp hq hu hv rfl (Or.inl rfl)
  | calling _ _ _ hp hq hu hv => exact hends hp hq hu hv (Or.inl rfl) (Or.inr ⟨_, _, rfl⟩)
  | starting _ _ _ hp hq hu hv => exact hends hp hq hu hv (Or.inl rfl) ⟨_, _, _, rfl⟩
  | handling _ _ hp hq hu hv => exact hends hp hq hu hv (Or.inl rfl) ⟨_, rfl⟩
  | replying _ _ hp hq hu hv => exact hends hp hq hu hv (Or.inr ⟨_, _, rfl⟩) (Or.inl rfl)
  | returning _ _ hp hq hu hv => exact hends hp hq hu hv ⟨_, rfl⟩ (Or.inl rfl)
  | granting _ hp hq hu hv => exact hends hp hq hu hv (Or.inl rfl) (Or.inr ⟨_, _, rfl⟩)
  | ending _ hp hq hu hv => exact hends hp hq hu hv (Or.inr ⟨_, _, rfl⟩) (Or.inl rfl)

/-- What an end reads in a message is the next word of the turn: a SYNC comes only between messages. -/
theorem Sound.next (h : Sound s has k pos base os) (hin : ¬(s.party side).ctl.Outside) {x : Word A} {ws : List (Word A)}
    (hws : s.incoming side = x :: ws) : ∃ vs, base side = x :: vs := by
  rcases h.channels.head hws with hbase | ⟨rfl, -, -, -, -, -, hout⟩
  · exact hbase
  · exact absurd hout hin

theorem Sound.marker_next (h : Sound s has k pos base os) {l : Loop} (hctl : (s.party side).ctl = .marker l)
    (hexpects : base side = [] ∨ ∃ tag vs, base side = .marker tag :: vs) (hne : s.incoming side ≠ []) :
    ∃ t, s.step side .read = some t := by
  obtain ⟨x, ws, hws⟩ := List.exists_cons_of_ne_nil hne
  obtain ⟨tag, rfl⟩ : ∃ tag, x = .marker tag := by
    rcases h.channels.head hws with ⟨vs, hvs⟩ | ⟨-, hx, -⟩
    · rcases hexpects with hnil | ⟨tag, us, hus⟩
      · cases hvs.symm.trans hnil
      · exact ⟨tag, (List.cons.inj (hvs.symm.trans hus)).1⟩
    · exact ⟨_, hx⟩
  simp only [Session.step, Session.event, hctl, hws, Party.step]
  exact ⟨_, rfl⟩

/-- An end that reads and has something to read finds the word it reads for. -/
theorem Sound.read (h : Sound s has k pos base os) (hread : s.Reading side) (hne : s.incoming side ≠ []) :
    ∃ t, s.step side .read = some t := by
  obtain ⟨x, ws, hws⟩ := List.exists_cons_of_ne_nil hne
  have hexpects := h.turn.expects side
  have hat := h.party side
  generalize pos side = a at hat hexpects
  cases hat with
  | runs _ hctl => simp [Session.Reading, hctl] at hread
  | called _ hctl =>
    rcases hctl with hctl | hctl
    · simp [Session.Reading, hctl] at hread
    · exact h.marker_next hctl hexpects hne
  | loop _ hctl => exact h.marker_next hctl hexpects hne
  | invoked _ hctl => simp [Session.Reading, hctl] at hread
  | idle _ hctl => simp [Session.Reading, hctl] at hread
  | replied _ _ _ hctl => simp [Session.Reading, hctl] at hread
  | head _ hctl =>
    obtain ⟨vs, hvs⟩ := h.next (by rw [hctl]; exact id) hws
    obtain ⟨c, m, a, hbase⟩ := hexpects
    obtain ⟨rfl, -⟩ := List.cons.inj (hvs.symm.trans hbase)
    simp only [Session.step, Session.event, hctl, hws, Party.step]
    exact ⟨_, rfl⟩
  | fresh hstack _ hctl =>
    rcases hctl with ⟨_, hctl⟩ | hctl
    · simp [Session.Reading, hctl] at hread
    · obtain ⟨vs, hvs⟩ := h.next (by rw [hctl]; exact id) hws
      obtain ⟨a, hbase⟩ := hexpects
      obtain ⟨rfl, -⟩ := List.cons.inj (hvs.symm.trans hbase)
      simp only [Session.step, Session.event, hctl, hws, Party.step, hstack]
      exact ⟨_, rfl⟩
  | body _ hctl =>
    obtain ⟨vs, hvs⟩ := h.next (by rw [hctl]; exact id) hws
    obtain ⟨v, hbase⟩ := hexpects
    obtain ⟨rfl, -⟩ := List.cons.inj (hvs.symm.trans hbase)
    simp only [Session.step, Session.event, hctl, hws, Party.step]
    exact ⟨_, rfl⟩

/-- Every call gets its own arguments to its handler and its own reply back, once, and no two conforming ends wait
    for each other. -/
theorem replies_matched (h : (conformingSession A).Reachable s) :
    (∀ call, s.InOrder call ∧ s.NotLost call) ∧ ¬s.Deadlocked ∧
    ∀ side, s.Reading side → s.incoming side ≠ [] → ∃ t, s.step side .read = some t := by
  obtain ⟨_, _, _, _, _, hsound⟩ := inTurn_of_reachable h
  exact ⟨fun c => ⟨hsound.inOrder c, hsound.notLost c⟩, hsound.not_deadlocked, fun _ => hsound.read⟩

/-- The wrapper calls the viewer, which calls back before it replies. -/
theorem reply_underway : ∃ s : Session Nat, s.history ⟨.client, 0⟩ = Replied ⟨.client, 0⟩ 1 7 9 ∧
    .body ⟨.client, 0⟩ 9 ∈ s.incoming .client ∧ (s.party .client).WaitsFor ⟨.client, 0⟩ := by
  have h₀ := Machine.Reachable.init (m := conformingSession Nat) Session.opened_init
  have h₁ := h₀.next (.client, .invoke 1 7) ⟨⟨rfl, fun _ => rfl⟩, rfl⟩
  have h₂ := h₁.next (.server, .dispatch) ⟨rfl, rfl⟩
  have h₃ := h₂.next (.server, .read) ⟨trivial, rfl⟩
  have h₄ := h₃.next (.server, .getArgs) ⟨trivial, rfl⟩
  have h₅ := h₄.next (.server, .read) ⟨trivial, rfl⟩
  have h₆ := h₅.next (.server, .invoke 2 5) ⟨⟨rfl, nofun⟩, rfl⟩
  have h₇ := h₆.next (.client, .waitForReply) ⟨trivial, rfl⟩
  have h₈ := h₇.next (.client, .read) ⟨trivial, rfl⟩
  have h₉ := h₈.next (.client, .read) ⟨trivial, rfl⟩
  have h₁₀ := h₉.next (.client, .getArgs) ⟨trivial, rfl⟩
  have h₁₁ := h₁₀.next (.client, .read) ⟨trivial, rfl⟩
  have h₁₂ := h₁₁.next (.client, .sendReply 6) ⟨trivial, rfl⟩
  have h₁₃ := h₁₂.next (.server, .waitForReply) ⟨trivial, rfl⟩
  have h₁₄ := h₁₃.next (.server, .read) ⟨trivial, rfl⟩
  have h₁₅ := h₁₄.next (.server, .read) ⟨trivial, rfl⟩
  have h₁₆ := h₁₅.next (.server, .sendReply 9) ⟨trivial, rfl⟩
  refine ⟨_, ?_, ((replies_matched h₁₆).1 ⟨.client, 0⟩).2 1 7 9 ?_⟩
  · rfl
  · rfl

end
end NSPluginWrapper
