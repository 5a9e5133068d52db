import NSPluginWrapper.Theorems.Acts

/-! The protocol of a session without its delays: whose turn it is, what the other end waits in, and the one
    message that may be under way. -/

namespace NSPluginWrapper

/-! ### Nested calls -/

/-- What the viewer does below the open calls: nothing, wait for its SYNC, or work in it. -/
inductive Root where
  | idle
  | syncing
  | granted
  deriving DecidableEq

abbrev History (A : Type) := List (ConnectionType × Entry A)

section
variable {A : Type}

/-! ### What is known of a call as it goes on -/

def Invoked (call : Call) (method : Int32) (values : A) : History A := [(call.caller, .invoked call method values)]

def Handled (call : Call) (method : Int32) (values : A) : History A :=
  Invoked call method values ++ [(call.caller.other, .gotArgs call values)]

def Replied (call : Call) (method : Int32) (values : A) (reply : A) : History A :=
  Handled call method values ++ [(call.caller.other, .replied call reply)]

def Returned (call : Call) (method : Int32) (values : A) (reply : A) : History A :=
  Replied call method values reply ++ [(call.caller, .returned call reply)]

/-- It is `sd`'s turn, over the handlers `xs`; the other end waits in `op`, over `ys`. Every handler but the ones
    that a SYNC or the viewer's event loop dispatched is dispatched by the call its own caller waits for. -/
inductive Linked : Root → ConnectionType → List Frame → List Frame → Op → List (Call × History A) → Prop where
  | idle : Linked .idle .client [] [] .dispatch []
  | syncing : Linked .syncing .client [] [] (.loop .sync) []
  | granted : Linked .granted .server [] [] (.loop .dispatchSync) []
  | call {k sd xs ys os} (f : Frame) (values : A) : Linked k sd xs ys f.op os → f.call.caller = sd →
    f.phase = .args → Linked k sd.other (f :: ys) xs (.loop (.wait f.call)) ((f.call, Handled f.call f.method values) :: os)

namespace Linked
variable {k : Root} {sd : ConnectionType} {xs ys : List Frame} {os : List (Call × History A)}

/-- Only the viewer's event loop dispatches by itself, when no call is open. -/
theorem of_dispatch (h : Linked k sd xs ys .dispatch os) : k = .idle ∧ sd = .client ∧ xs = [] ∧ ys = [] ∧ os = [] := by
  cases h
  exact ⟨rfl, rfl, rfl, rfl, rfl⟩

theorem of_sync (h : Linked k sd xs ys (.loop .sync) os) :
    k = .syncing ∧ sd = .client ∧ xs = [] ∧ ys = [] ∧ os = [] := by
  cases h
  exact ⟨rfl, rfl, rfl, rfl, rfl⟩

theorem of_dispatchSync (h : Linked k sd xs ys (.loop .dispatchSync) os) :
    k = .granted ∧ sd = .server ∧ xs = [] ∧ ys = [] ∧ os = [] := by
  cases h
  exact ⟨rfl, rfl, rfl, rfl, rfl⟩

/-- Without a handler it is the event loop's turn, or the SYNC's. -/
theorem of_nil {op : Op} (h : Linked k sd [] ys op os) : ys = [] ∧ os = [] ∧
    (sd = .client ∧ (k = .idle ∧ op = .dispatch ∨ k = .syncing ∧ op = .loop .sync) ∨
      sd = .server ∧ k = .granted ∧ op = .loop .dispatchSync) := by
  generalize hxs : ([] : List Frame) = xs at h
  cases h with
  | idle => exact ⟨rfl, rfl, Or.inl ⟨rfl, Or.inl ⟨rfl, rfl⟩⟩⟩
  | syncing => exact ⟨rfl, rfl, Or.inl ⟨rfl, Or.inr ⟨rfl, rfl⟩⟩⟩
  | granted => exact ⟨rfl, rfl, Or.inr ⟨rfl, rfl, rfl⟩⟩
  | call => cases hxs

theorem args_of_mem {op : Op} (h : Linked k sd xs ys op os) : ∀ f ∈ xs, f.phase = .args := by
  suffices hboth : (∀ f ∈ xs, f.phase = .args) ∧ ∀ f ∈ ys, f.phase = .args from hboth.1
  induction h with
  | idle => exact ⟨nofun, nofun⟩
  | syncing => exact ⟨nofun, nofun⟩
  | granted => exact ⟨nofun, nofun⟩
  | call f values _ _ hphase ih =>
    refine ⟨fun g hg => ?_, ih.1⟩
    rcases List.mem_cons.mp hg with rfl | hg
    · exact hphase
    · exact ih.2 g hg

end Linked

/-! ### Turns -/

/-- Where an end stands, over the handlers that run. -/
inductive Position where
  | runs (stack : List Frame)
  | called (stack : List Frame) (call : Call)
  | waits (stack : List Frame) (op : Op)
  | head (stack : List Frame) (op : Op)
  | fresh (f : Frame) (rest : List Frame)
  | body (stack : List Frame) (call : Call)

/-- The states the two ends get to together, with what is still to read and the calls that are open. -/
inductive Turn (has : ConnectionType → Int32 → Bool) (k : Root) (pos : ConnectionType → Position)
    (base : ConnectionType → List (Word A)) : List (Call × History A) → Prop where
  | running {sd xs ys op os} : Linked k sd xs ys op os →
    pos sd = .runs xs → pos sd.other = .waits ys op → base sd = [] → base sd.other = [] → Turn has k pos base os
  | calling {sd xs ys op os} {c : Call} {m : Int32} {a : A} : Linked k sd xs ys op os → c.caller = sd → has sd.other m →
    pos sd = .called xs c → pos sd.other = .waits ys op →
    base sd = [] → base sd.other = [.marker RpcMessage.start, .head c m, .args c a] →
    Turn has k pos base ((c, Invoked c m a) :: os)
  | starting {sd xs ys op os} {c : Call} {m : Int32} {a : A} : Linked k sd xs ys op os → c.caller = sd → has sd.other m →
    pos sd = .called xs c → pos sd.other = .head ys op → base sd = [] → base sd.other = [.head c m, .args c a] →
    Turn has k pos base ((c, Invoked c m a) :: os)
  | handling {sd xs ys os} {f : Frame} {a : A} : Linked k sd xs ys f.op os → f.call.caller = sd →
    pos sd = .called xs f.call → pos sd.other = .fresh f ys → base sd = [] → base sd.other = [.args f.call a] →
    Turn has k pos base ((f.call, Invoked f.call f.method a) :: os)
  | replying {sd xs ys op os} {c : Call} {m : Int32} {a v : A} : Linked k sd xs ys op os → c.caller = sd →
    pos sd = .waits xs (.loop (.wait c)) → pos sd.other = .waits ys op →
    base sd = [.marker RpcMessage.reply, .body c v] → base sd.other = [] → Turn has k pos base ((c, Replied c m a v) :: os)
  | returning {sd xs ys op os} {c : Call} {m : Int32} {a v : A} : Linked k sd xs ys op os → c.caller = sd →
    pos sd = .body xs c → pos sd.other = .waits ys op → base sd = [.body c v] → base sd.other = [] →
    Turn has k pos base ((c, Replied c m a v) :: os)
  | granting : k = .idle → pos .client = .waits [] (.loop .dispatchSync) → pos .server = .waits [] (.loop .sync) →
    base .client = [] → base .server = [.marker RpcMessage.syncAck] → Turn has k pos base []
  | ending {op} : Linked (A := A) k .client [] [] op [] → pos .client = .waits [] (.loop .dispatchSync) →
    pos .server = .waits [] op → base .client = [.marker RpcMessage.syncEnd] → base .server = [] → Turn has k pos base []

/-- Where the viewer waits for nothing, no call is open. -/
theorem Turn.of_dispatch {has : ConnectionType → Int32 → Bool} {k : Root} {pos : ConnectionType → Position}
    {base : ConnectionType → List (Word A)} {os : List (Call × History A)} (h : Turn has k pos base os)
    {side : ConnectionType} {zs : List Frame} (hpos : pos side = .waits zs .dispatch) :
    side = .server ∧ zs = [] ∧ k = .idle := by
  have hlinked {sd xs ys op os'} (hl : Linked (A := A) k sd xs ys op os') (hp : pos sd ≠ .waits zs .dispatch)
    (hq : pos sd.other = .waits ys op ∨ ∃ zs, pos sd.other = .head zs op ∨ ∃ f, pos sd.other = .fresh f zs) :
    side = .server ∧ zs = [] ∧ k = .idle := by
    rcases side.eq_or_other sd with rfl | rfl
    · exact absurd hpos hp
    · rcases hq with hq | ⟨zs', hq | ⟨f, hq⟩⟩
      · cases hpos.symm.trans hq
        obtain ⟨hk, hsd, -, hys, -⟩ := hl.of_dispatch
        exact ⟨by rw [hsd]; rfl, hys, hk⟩
      · cases hpos.symm.trans hq
      · cases hpos.symm.trans hq
  cases h with
  | running hl hp hq => exact hlinked hl (by rw [hp]; nofun) (Or.inl hq)
  | calling hl _ _ hp hq => exact hlinked hl (by rw [hp]; nofun) (Or.inl hq)
  | starting hl _ _ hp hq => exact hlinked hl (by rw [hp]; nofun) (Or.inr ⟨_, Or.inl hq⟩)
  | handling hl _ hp hq => exact hlinked hl (by rw [hp]; nofun) (Or.inr ⟨_, Or.inr ⟨_, hq⟩⟩)
  | replying hl _ hp hq => exact hlinked hl (by rw [hp]; nofun) (Or.inl hq)
  | returning hl _ hp hq => exact hlinked hl (by rw [hp]; nofun) (Or.inl hq)
  | granting _ hp hq =>
    cases side with
    | server => cases hpos.symm.trans hq
    | client => cases hpos.symm.trans hp
  | ending hl hp hq => exact hlinked hl (by rw [hp]; nofun) (Or.inl hq)

/-- Where one end runs, the other waits and nothing is under way. -/
theorem Turn.of_runs {has : ConnectionType → Int32 → Bool} {k : Root} {pos : ConnectionType → Position}
    {base : ConnectionType → List (Word A)} {os : List (Call × History A)} (h : Turn has k pos base os) {xs : List Frame}
    {side : ConnectionType} (hpos : pos side = .runs xs) : ∃ ys op, Linked k side xs ys op os ∧ pos side.other = .waits ys op ∧
    base side = [] ∧ base side.other = [] := by
  have hnot {sd : ConnectionType} {a b : Position} (hp : pos sd = a) (hq : pos sd.other = b) (ha : a ≠ .runs xs)
      (hb : b ≠ .runs xs) : False := by
    rcases side.eq_or_other sd with rfl | rfl
    · exact ha (hp.symm.trans hpos)
    · exact hb (hq.symm.trans hpos)
  cases h with
  | @running sd xs' ys op os hl hp hq hu hv =>
    rcases side.eq_or_other sd with rfl | rfl
    · cases hp.symm.trans hpos
      exact ⟨ys, op, hl, hq, hu, hv⟩
    · cases hq.symm.trans hpos
  | calling _ _ _ hp hq => exact (hnot hp hq nofun nofun).elim
  | starting _ _ _ hp hq => exact (hnot hp hq nofun nofun).elim
  | handling _ _ hp hq => exact (hnot hp hq nofun nofun).elim
  | replying _ _ hp hq => exact (hnot hp hq nofun nofun).elim
  | returning _ _ hp hq => exact (hnot hp hq nofun nofun).elim
  | granting _ hp hq => exact (hnot hp hq nofun nofun).elim
  | ending _ hp hq => exact (hnot hp hq nofun nofun).elim

/-- A viewer that waits for nothing asks for a SYNC: it waits for that now, and the wrapper has something to read
    or no handler open. -/
theorem Turn.sync {has : ConnectionType → Int32 → Bool} {k : Root} {pos : ConnectionType → Position}
    {base : ConnectionType → List (Word A)} {os : List (Call × History A)} (h : Turn has k pos base os)
    {zs : List Frame} (hpos : pos .server = .waits zs .dispatch) :
    Turn has .syncing (Function.update pos .server (.waits zs (.loop .sync))) base os ∧
    (base .client = [] → pos .client = .runs [] ∨ ∃ c, pos .client = .called [] c) := by
  cases h with
  | @running sd xs ys op os hl hp hq hu hv =>
    cases sd with
    | server => cases hpos.symm.trans hp
    | client =>
      cases hpos.symm.trans hq
      obtain ⟨-, -, rfl, rfl, rfl⟩ := hl.of_dispatch
      exact ⟨.running .syncing hp (Function.update_self _ _ _) hu hv, fun _ => Or.inl hp⟩
  | @calling sd xs ys op os c m a hl hc hm hp hq hu hv =>
    cases sd with
    | server => cases hpos.symm.trans hp
    | client =>
      cases hpos.symm.trans hq
      obtain ⟨-, -, rfl, rfl, rfl⟩ := hl.of_dispatch
      exact ⟨.calling .syncing hc hm hp (Function.update_self _ _ _) hu hv, fun _ => Or.inr ⟨c, hp⟩⟩
  | @starting sd xs ys op os c m a hl hc hm hp hq hu hv =>
    cases sd with
    | server => cases hpos.symm.trans hp
    | client => cases hpos.symm.trans hq
  | @handling sd xs ys os f a hl hc hp hq hu hv =>
    cases sd with
    | server => cases hpos.symm.trans hp
    | client => cases hpos.symm.trans hq
  | @replying sd xs ys op os c m a v hl hc hp hq hu hv =>
    cases sd with
    | server => cases hpos.symm.trans hp
    | client =>
      cases hpos.symm.trans hq
      obtain ⟨-, -, rfl, rfl, rfl⟩ := hl.of_dispatch
      exact ⟨.replying .syncing hc hp (Function.update_self _ _ _) hu hv, fun hnil => nomatch hu.symm.trans hnil⟩
  | @returning sd xs ys op os c m a v hl hc hp hq hu hv =>
    cases sd with
    | server => cases hpos.symm.trans hp
    | client =>
      cases hpos.symm.trans hq
      obtain ⟨-, -, rfl, rfl, rfl⟩ := hl.of_dispatch
      exact ⟨.returning .syncing hc hp (Function.update_self _ _ _) hu hv, fun hnil => nomatch hu.symm.trans hnil⟩
  | granting hk hp hq hu hv => cases hpos.symm.trans hq
  | ending hl hp hq hu hv =>
    cases hpos.symm.trans hq
    exact ⟨.ending .syncing hp (Function.update_self _ _ _) hu hv, fun hnil => nomatch hu.symm.trans hnil⟩

/-! ### The books -/

/-- The log tells of every call as much as is open of it, or all of it. -/
structure Ledger (s : Session A) (os : List (Call × History A)) : Prop where
  opened : ∀ o ∈ os, s.history o.1 = o.2
  before : ∀ o ∈ os, o.1.serial < s.steps
  nodup : (os.map Prod.fst).Nodup
  closed : ∀ c ∉ os.map Prod.fst, s.history c = [] ∨ ∃ m a v, s.history c = Returned c m a v
  logged : ∀ x ∈ s.log, x.2.call.serial < s.steps

namespace Ledger
variable {s t : Session A} {os : List (Call × History A)}

theorem quiet (h : Ledger s os) (hlog : t.log = s.log) (hsteps : t.steps = s.steps + 1) : Ledger t os := by
  have hhist : ∀ c, t.history c = s.history c := fun c => by rw [Session.history, Session.history, hlog]
  refine ⟨fun o ho => ?_, fun o ho => ?_, h.nodup, fun c hc => ?_, fun x hx => ?_⟩
  · rw [hhist]
    exact h.opened o ho
  · have hlt := h.before o ho
    omega
  · rw [hhist]
    exact h.closed c hc
  · have hlt := h.logged x (hlog ▸ hx)
    omega

theorem history_self {side : ConnectionType} {e : Entry A} (hlog : t.log = s.log ++ [(side, e)]) {c : Call}
    (hc : e.call = c) : t.history c = s.history c ++ [(side, e)] := by
  rw [Session.history, hlog, List.filter_append, List.filter_cons_of_pos (by simpa using hc), List.filter_nil]
  rfl

theorem history_other {side : ConnectionType} {e : Entry A} (hlog : t.log = s.log ++ [(side, e)]) {c : Call}
    (hc : e.call ≠ c) : t.history c = s.history c := by
  rw [Session.history, hlog, List.filter_append, List.filter_cons_of_neg (by simpa using hc), List.filter_nil,
    List.append_nil]
  rfl

theorem invoke (h : Ledger s os) {side : ConnectionType} {m : Int32} {a : A}
    (hlog : t.log = s.log ++ [(side, .invoked ⟨side, s.steps⟩ m a)]) (hsteps : t.steps = s.steps + 1) :
    Ledger t ((⟨side, s.steps⟩, Invoked ⟨side, s.steps⟩ m a) :: os) := by
  have hnew : (⟨side, s.steps⟩ : Call) ∉ os.map Prod.fst := by
    intro hmem
    obtain ⟨o, ho, hcall⟩ := List.mem_map.mp hmem
    have hlt := h.before o ho
    rw [hcall] at hlt
    exact Nat.lt_irrefl _ hlt
  have hnil : s.history ⟨side, s.steps⟩ = [] := by
    rw [Session.history, List.filter_eq_nil_iff]
    intro x hx hcall
    have hlt := h.logged x hx
    rw [of_decide_eq_true hcall] at hlt
    exact Nat.lt_irrefl _ hlt
  have hother : ∀ c, c ≠ ⟨side, s.steps⟩ → t.history c = s.history c :=
    fun c hc => history_other hlog (Ne.symm hc)
  refine ⟨fun o ho => ?_, fun o ho => ?_, ?_, fun c hc => ?_, fun x hx => ?_⟩
  · rcases List.mem_cons.mp ho with rfl | ho
    · exact (history_self hlog rfl).trans (congrArg (· ++ [(side, Entry.invoked _ m a)]) hnil)
    · rw [hother o.1 fun heq => hnew (List.mem_map.mpr ⟨o, ho, heq⟩)]
      exact h.opened o ho
  · rcases List.mem_cons.mp ho with rfl | ho
    · exact hsteps ▸ Nat.lt_succ_self _
    · have hlt := h.before o ho
      omega
  · rw [List.map_cons, List.nodup_cons]
    exact ⟨hnew, h.nodup⟩
  · rw [List.map_cons, List.mem_cons, not_or] at hc
    rw [hother c hc.1]
    exact h.closed c hc.2
  · rw [hlog, List.mem_append, List.mem_singleton] at hx
    rcases hx with hx | rfl
    · have hlt := h.logged x hx
      omega
    · exact hsteps ▸ Nat.lt_succ_self _

section
variable {c : Call} {past : History A} {side : ConnectionType} {e : Entry A} (h : Ledger s ((c, past) :: os))
  (hcall : e.call = c) (hlog : t.log = s.log ++ [(side, e)]) (hsteps : t.steps = s.steps + 1)
include h hcall hlog hsteps

theorem advance : Ledger t ((c, past ++ [(side, e)]) :: os) := by
  obtain ⟨hnot, hnodup⟩ := List.nodup_cons.mp h.nodup
  have hpast : s.history c = past := h.opened (c, past) List.mem_cons_self
  have hother : ∀ d, d ≠ c → t.history d = s.history d :=
    fun d hd => history_other hlog (hcall ▸ Ne.symm hd)
  have hbefore : c.serial < s.steps := h.before (c, past) List.mem_cons_self
  refine ⟨fun o ho => ?_, fun o ho => ?_, h.nodup, fun d hd => ?_, fun x hx => ?_⟩
  · rcases List.mem_cons.mp ho with rfl | ho
    · rw [history_self hlog hcall, hpast]
    · rw [hother o.1 fun heq => hnot (List.mem_map.mpr ⟨o, ho, heq⟩)]
      exact h.opened o (List.mem_cons_of_mem _ ho)
  · rcases List.mem_cons.mp ho with rfl | ho
    · change c.serial < t.steps
      omega
    · have hlt := h.before o (List.mem_cons_of_mem _ ho)
      omega
  · rw [hother d fun heq => hd (heq ▸ List.mem_cons_self)]
    exact h.closed d hd
  · rw [hlog, List.mem_append, List.mem_singleton] at hx
    rcases hx with hx | rfl
    · have hlt := h.logged x hx
      omega
    · rw [hcall, hsteps]
      omega

theorem close {m : Int32} {a v : A} (hdone : past ++ [(side, e)] = Returned c m a v) : Ledger t os := by
  have hadv := h.advance hcall hlog hsteps
  obtain ⟨hnot, hnodup⟩ := List.nodup_cons.mp hadv.nodup
  refine ⟨fun o ho => hadv.opened o (List.mem_cons_of_mem _ ho),
    fun o ho => hadv.before o (List.mem_cons_of_mem _ ho), hnodup, fun d hd => ?_, hadv.logged⟩
  by_cases hdc : d = c
  · subst hdc
    exact Or.inr ⟨m, a, v, (hadv.opened _ List.mem_cons_self).trans hdone⟩
  · refine hadv.closed d fun hmem => ?_
    rcases List.mem_cons.mp hmem with heq | hmem
    · exact hdc heq
    · exact hd hmem

end
end Ledger

end
end NSPluginWrapper
