import NSPluginWrapper.Theorems.Exclusion

/-! Ends that send no SYNC, so that calls of both may cross on the wire: every call has its own reply as long as no
    reply is sent, or is on its way, while its caller has a newer call open. -/

namespace NSPluginWrapper
open Lib

variable {A : Type}

/-! ### The calls of one end -/

/-- What the log says of the calls that `x` waits for, the newest first: `asks` are not read by the other end, `xs`
    are its handlers that have their arguments, `answers` are replies `x` has not read. -/
structure Half (s : Session A) (has : Int32 → Bool) (x : ConnectionType) (w : List Call) (asks : List (Call × Int32 × A))
    (xs : List Frame) (answers : List (Call × A)) : Prop where
  caller : ∀ c ∈ w, c.caller = x
  nodup : w.Nodup
  sent : ∀ c m a, (c, m, a) ∈ asks → c ∈ w ∧ has m = true ∧ s.history c = Invoked c m a
  handled : ∀ f ∈ xs, f.call ∈ w ∧ ∃ a, s.history f.call = Handled f.call f.method a
  replied : ∀ c v, (c, v) ∈ answers → w.head? = some c ∧ ∃ m a, s.history c = Replied c m a v
  stage : ∀ c ∈ w, (∃ m a, (c, m, a) ∈ asks) ∨ (∃ f ∈ xs, f.call = c) ∨ ∃ v, (c, v) ∈ answers
  unique : (xs.map Frame.call ++ asks.map Prod.fst).Nodup
  once : answers.length ≤ 1
  closed : ∀ c, c.caller = x → c ∈ w ∨ s.history c = [] ∨ ∃ m a v, s.history c = Returned c m a v

namespace Half
variable {s t : Session A} {has : Int32 → Bool} {x y : ConnectionType} {w : List Call} {asks : List (Call × Int32 × A)}
  {xs : List Frame} {answers : List (Call × A)} {c : Call} {m : Int32} {a v : A} {e : Entry A}

/-- A step that does nothing for the calls of `x`. -/
theorem quiet (h : Half s has x w asks xs answers) (hkeep : ∀ c, c.caller = x → t.history c = s.history c) :
    Half t has x w asks xs answers := by
  have hopen : ∀ c ∈ w, t.history c = s.history c := fun c hc => hkeep c (h.caller c hc)
  refine ⟨h.caller, h.nodup, fun c m a hc => ?_, fun f hf => ?_, fun c v hc => ?_, h.stage, h.unique, h.once, fun c hc => ?_⟩
  · obtain ⟨hmem, hhas, hhist⟩ := h.sent c m a hc
    exact ⟨hmem, hhas, (hopen c hmem).trans hhist⟩
  · obtain ⟨hmem, a, hhist⟩ := h.handled f hf
    exact ⟨hmem, a, (hopen _ hmem).trans hhist⟩
  · obtain ⟨hhead, m, a, hhist⟩ := h.replied c v hc
    exact ⟨hhead, m, a, (hopen c (List.mem_of_mem_head? hhead)).trans hhist⟩
  · rw [hkeep c hc]
    exact h.closed c hc

/-- A call that is waited for has a history, and has not returned. -/
theorem opened (h : Half s has x w asks xs answers) (hc : c ∈ w) : s.history c ≠ [] := by
  rcases h.stage c hc with ⟨m, a, hm⟩ | ⟨f, hf, rfl⟩ | ⟨v, hv⟩
  · rw [(h.sent c m a hm).2.2]
    exact List.cons_ne_nil _ _
  · obtain ⟨a, ha⟩ := (h.handled f hf).2
    rw [ha]
    exact List.cons_ne_nil _ _
  · obtain ⟨m, a, ha⟩ := (h.replied c v hv).2
    rw [ha]
    exact List.cons_ne_nil _ _

theorem invoke (h : Half s has x w asks xs []) (hm : has m = true) (hcaller : c.caller = x) (hnil : s.history c = [])
    (hlog : t.log = s.log ++ [(x, .invoked c m a)]) : Half t has x (c :: w) (asks ++ [(c, m, a)]) xs [] := by
  have hnew : ∀ d ∈ w, d ≠ c := by
    rintro d hd rfl
    exact h.opened hd hnil
  have hkeep : ∀ d, d ≠ c → t.history d = s.history d := fun d hd => Ledger.history_other hlog (Ne.symm hd)
  have hself : t.history c = Invoked c m a := by
    have hadd : t.history c = s.history c ++ [(x, .invoked c m a)] := Ledger.history_self hlog rfl
    rw [hadd, hnil, ← hcaller]
    rfl
  refine ⟨fun d hd => ?_, ?_, fun d m' a' hd => ?_, fun f hf => ?_, nofun, fun d hd => ?_, ?_, h.once, fun d hd => ?_⟩
  · rcases List.mem_cons.mp hd with rfl | hd
    · exact hcaller
    · exact h.caller d hd
  · exact List.nodup_cons.mpr ⟨fun hc => hnew c hc rfl, h.nodup⟩
  · rcases List.mem_append.mp hd with hd | hd
    · obtain ⟨hmem, hhas, hhist⟩ := h.sent d m' a' hd
      exact ⟨List.mem_cons_of_mem _ hmem, hhas, (hkeep d (hnew d hmem)).trans hhist⟩
    · cases List.mem_singleton.mp hd
      exact ⟨List.mem_cons_self, hm, hself⟩
  · obtain ⟨hmem, a', hhist⟩ := h.handled f hf
    exact ⟨List.mem_cons_of_mem _ hmem, a', (hkeep _ (hnew _ hmem)).trans hhist⟩
  · rcases List.mem_cons.mp hd with rfl | hd
    · exact Or.inl ⟨m, a, List.mem_append_right _ List.mem_cons_self⟩
    · rcases h.stage d hd with ⟨m', a', hmem⟩ | hf | ⟨v, hv⟩
      · exact Or.inl ⟨m', a', List.mem_append_left _ hmem⟩
      · exact Or.inr (Or.inl hf)
      · cases hv
  · rw [List.map_append, ← List.append_assoc, List.nodup_append]
    refine ⟨h.unique, List.pairwise_singleton _ _, ?_⟩
    rintro d hd _ hc rfl
    obtain rfl := List.mem_singleton.mp hc
    rcases List.mem_append.mp hd with hd | hd
    · obtain ⟨f, hf, rfl⟩ := List.mem_map.mp hd
      exact hnew _ (h.handled f hf).1 rfl
    · obtain ⟨⟨d, m', a'⟩, hask, rfl⟩ := List.mem_map.mp hd
      exact hnew _ (h.sent d m' a' hask).1 rfl
  · by_cases hdc : d = c
    · exact Or.inl (hdc ▸ List.mem_cons_self)
    · rw [hkeep d hdc]
      exact (h.closed d hd).imp_left (List.mem_cons_of_mem _)

/-- The other end has read the arguments of a call. -/
theorem take (h : Half s has x w ((c, m, a) :: asks) xs answers) {f : Frame} (hcall : f.call = c) (hmethod : f.method = m)
    (hlog : t.log = s.log ++ [(x.other, .gotArgs c a)]) : Half t has x w asks (f :: xs) answers := by
  obtain ⟨hmem, -, hinvoked⟩ := h.sent c m a List.mem_cons_self
  have hkeep : ∀ d, d ≠ c → t.history d = s.history d := fun d hd => Ledger.history_other hlog (Ne.symm hd)
  have hself : t.history c = Handled c m a := by
    have hadd : t.history c = s.history c ++ [(x.other, .gotArgs c a)] := Ledger.history_self hlog rfl
    rw [hadd, hinvoked, ← h.caller c hmem]
    rfl
  obtain ⟨hnot, hunique⟩ := List.nodup_cons.mp (List.perm_middle.nodup_iff.mp h.unique)
  refine ⟨h.caller, h.nodup, fun d m' a' hd => ?_, fun g hg => ?_, fun d v hd => ?_, fun d hd => ?_, ?_, h.once, fun d hd => ?_⟩
  · obtain ⟨hopen, hhas, hhist⟩ := h.sent d m' a' (List.mem_cons_of_mem _ hd)
    refine ⟨hopen, hhas, (hkeep d ?_).trans hhist⟩
    rintro rfl
    exact hnot (List.mem_append_right _ (List.mem_map.mpr ⟨_, hd, rfl⟩))
  · rcases List.mem_cons.mp hg with rfl | hg
    · rw [hcall, hmethod]
      exact ⟨hmem, a, hself⟩
    · obtain ⟨hopen, a', hhist⟩ := h.handled g hg
      refine ⟨hopen, a', (hkeep _ ?_).trans hhist⟩
      rintro rfl
      exact hnot (List.mem_append_left _ (List.mem_map.mpr ⟨_, hg, rfl⟩))
  · obtain ⟨hhead, m', a', hhist⟩ := h.replied d v hd
    refine ⟨hhead, m', a', (hkeep d ?_).trans hhist⟩
    rintro rfl
    have hlength := congrArg List.length (hinvoked.symm.trans hhist)
    cases hlength
  · rcases h.stage d hd with ⟨m', a', hmem⟩ | ⟨g, hg, hd⟩ | hv
    · rcases List.mem_cons.mp hmem with heq | hmem
      · cases heq
        exact Or.inr (Or.inl ⟨f, List.mem_cons_self, hcall⟩)
      · exact Or.inl ⟨m', a', hmem⟩
    · exact Or.inr (Or.inl ⟨g, List.mem_cons_of_mem _ hg, hd⟩)
    · exact Or.inr (Or.inr hv)
  · rw [List.map_cons, List.cons_append, hcall]
    exact List.nodup_cons.mpr ⟨hnot, hunique⟩
  · by_cases hdc : d = c
    · exact Or.inl (hdc ▸ hmem)
    · rw [hkeep d hdc]
      exact h.closed d hd

/-- Nothing is on its way to an end whose newest call is handled. -/
theorem answers_nil {f : Frame} (h : Half s has x w asks (f :: xs) answers) (hhead : w.head? = some f.call) : answers = [] := by
  rcases answers with _ | ⟨⟨d, v⟩, answers⟩
  · rfl
  · obtain ⟨hd, m, a, hreplied⟩ := h.replied d v List.mem_cons_self
    obtain ⟨a', hhandled⟩ := (h.handled f List.mem_cons_self).2
    obtain rfl := Option.some.inj (hd.symm.trans hhead)
    exact absurd (hhandled.symm.trans hreplied) not_replied_of_handled

/-- The handler of the newest call replies. -/
theorem reply {f : Frame} (h : Half s has x w asks (f :: xs) answers) (hhead : w.head? = some f.call)
    (hlog : t.log = s.log ++ [(x.other, .replied f.call v)]) : Half t has x w asks xs (answers ++ [(f.call, v)]) := by
  obtain ⟨hmem, a, hhandled⟩ := h.handled f List.mem_cons_self
  obtain rfl := h.answers_nil hhead
  have hkeep : ∀ d, d ≠ f.call → t.history d = s.history d := fun d hd => Ledger.history_other hlog (Ne.symm hd)
  have hself : t.history f.call = Replied f.call f.method a v := by
    have hadd : t.history f.call = s.history f.call ++ [(x.other, .replied f.call v)] := Ledger.history_self hlog rfl
    rw [hadd, hhandled, ← h.caller _ hmem]
    rfl
  obtain ⟨hnot, hunique⟩ := List.nodup_cons.mp h.unique
  refine ⟨h.caller, h.nodup, fun d m' a' hd => ?_, fun g hg => ?_, fun d v' hd => ?_, fun d hd => ?_, hunique, ?_,
    fun d hd => ?_⟩
  · obtain ⟨hopen, hhas, hhist⟩ := h.sent d m' a' hd
    refine ⟨hopen, hhas, (hkeep d ?_).trans hhist⟩
    rintro rfl
    exact hnot (List.mem_append_right _ (List.mem_map.mpr ⟨_, hd, rfl⟩))
  · obtain ⟨hopen, a', hhist⟩ := h.handled g (List.mem_cons_of_mem _ hg)
    refine ⟨hopen, a', (hkeep _ fun heq => ?_).trans hhist⟩
    exact hnot (List.mem_append_left _ (List.mem_map.mpr ⟨g, hg, heq⟩))
  · cases List.mem_singleton.mp hd
    exact ⟨hhead, f.method, a, hself⟩
  · rcases h.stage d hd with hm | ⟨g, hg, rfl⟩ | ⟨v', hv⟩
    · exact Or.inl hm
    · rcases List.mem_cons.mp hg with rfl | hg
      · exact Or.inr (Or.inr ⟨v, List.mem_cons_self⟩)
      · exact Or.inr (Or.inl ⟨g, hg, rfl⟩)
    · cases hv
  · exact Nat.le_refl 1
  · by_cases hdc : d = f.call
    · exact Or.inl (hdc ▸ hmem)
    · rw [hkeep d hdc]
      exact h.closed d hd

/-- The reply is read to its end. -/
theorem ret (h : Half s has x (c :: w) asks xs ((c, v) :: answers)) (hlog : t.log = s.log ++ [(x, .returned c v)]) :
    Half t has x w asks xs answers := by
  obtain ⟨hhead, m, a, hreplied⟩ := h.replied c v List.mem_cons_self
  obtain ⟨hnot, hnodup⟩ := List.nodup_cons.mp h.nodup
  have hcaller := h.caller c List.mem_cons_self
  have hkeep : ∀ d, d ≠ c → t.history d = s.history d := fun d hd => Ledger.history_other hlog (Ne.symm hd)
  have hself : t.history c = Returned c m a v := by
    have hadd : t.history c = s.history c ++ [(x, .returned c v)] := Ledger.history_self hlog rfl
    rw [hadd, hreplied, ← hcaller]
    rfl
  have hnil : answers = [] := List.length_eq_zero_iff.mp (by simpa using h.once)
  have hopen {d : Call} (hd : d ∈ c :: w) (hne : s.history d ≠ s.history c) : d ∈ w ∧ d ≠ c := by
    have hdc : d ≠ c := fun heq => hne (heq ▸ rfl)
    exact ⟨(List.mem_cons.mp hd).resolve_left hdc, hdc⟩
  refine ⟨fun d hd => h.caller d (List.mem_cons_of_mem _ hd), hnodup, fun d m' a' hd => ?_, fun g hg => ?_, ?_, fun d hd => ?_,
    h.unique, ?_, fun d hd => ?_⟩
  · obtain ⟨hmem, hhas, hhist⟩ := h.sent d m' a' hd
    have hne : s.history d ≠ s.history c := by
      rw [hhist, hreplied]
      exact fun heq => nomatch congrArg List.length heq
    exact ⟨(hopen hmem hne).1, hhas, (hkeep d (hopen hmem hne).2).trans hhist⟩
  · obtain ⟨hmem, a', hhist⟩ := h.handled g hg
    have hne : s.history g.call ≠ s.history c := by
      rw [hhist, hreplied]
      exact fun heq => nomatch congrArg List.length heq
    exact ⟨(hopen hmem hne).1, a', (hkeep _ (hopen hmem hne).2).trans hhist⟩
  · rw [hnil]
    nofun
  · rcases h.stage d (List.mem_cons_of_mem _ hd) with hm | hf | ⟨v', hv⟩
    · exact Or.inl hm
    · exact Or.inr (Or.inl hf)
    · rw [hnil] at hv
      cases List.mem_singleton.mp hv
      exact absurd hd hnot
  · rw [hnil]
    exact Nat.zero_le 1
  · by_cases hdc : d = c
    · exact Or.inr (Or.inr ⟨m, a, v, hdc ▸ hself⟩)
    · rw [hkeep d hdc]
      exact (h.closed d hd).imp_left fun hmem => (List.mem_cons.mp hmem).resolve_left hdc

end Half

/-! ### Where an end stands -/

/-- A message that is still to be read, or being read. -/
inductive Msg (A : Type) where
  | call (c : Call) (m : Int32) (a : A)
  | reply (c : Call) (v : A)

namespace Msg

def words : Msg A → List (Word A)
  | .call c m a => [.marker RpcMessage.start, .head c m, .args c a]
  | .reply c v => [.marker RpcMessage.reply, .body c v]

def asked : Msg A → Option (Call × Int32 × A)
  | .call c m a => some (c, m, a)
  | .reply _ _ => none

def answered : Msg A → Option (Call × A)
  | .call _ _ _ => none
  | .reply c v => some (c, v)

theorem filterMap_answered_call (us : List (Msg A)) (c : Call) (m : Int32) (a : A) :
    (us ++ [call c m a]).filterMap answered = us.filterMap answered :=
  List.filterMap_append.trans (List.append_nil _)

theorem filterMap_asked_reply (us : List (Msg A)) (c : Call) (v : A) :
    (us ++ [reply c v]).filterMap asked = us.filterMap asked :=
  List.filterMap_append.trans (List.append_nil _)

end Msg

/-- The calls an end waits for, the newest first. -/
def Party.awaited (p : Party) : List Call := p.ctl.awaited.toList ++ p.stack.filterMap (·.op.awaited)

/-- A dispatch of an event loop, or one in `rpc_method_wait_for_reply`. -/
def Op.Plain : Op → Prop
  | .dispatch | .loop (.wait _) => True
  | _ => False

/-- Over the handlers `xs` that have their arguments, with the messages `ms` not read to their end and the words `ws`
    of them left. -/
inductive Stance (p : Party) (xs : List Frame) (ms : List (Msg A)) (ws : List (Word A)) : Prop where
  | runs {ret} : p.stack = xs → p.ctl = .user ret → ws = ms.flatMap Msg.words → Stance p xs ms ws
  | waits {c} : p.stack = xs → p.ctl = .invoked c ∨ p.ctl = .marker (.wait c) → ws = ms.flatMap Msg.words →
    Stance p xs ms ws
  | replied {f ret} : p.stack = f :: xs → f.phase = .replied → p.ctl = .user ret → ws = ms.flatMap Msg.words →
    Stance p xs ms ws
  | head {op c m a us} : p.stack = xs → p.ctl = .head op → op.Plain → ms = .call c m a :: us →
    ws = .head c m :: .args c a :: us.flatMap Msg.words → Stance p xs ms ws
  | fresh {f a us} : p.stack = f :: xs → f.phase = .fresh → (∃ ret, p.ctl = .user ret) ∨ p.ctl = .args →
    ms = .call f.call f.method a :: us → ws = .args f.call a :: us.flatMap Msg.words → Stance p xs ms ws
  | body {c v us} : p.stack = xs → p.ctl = .body c → ms = .reply c v :: us →
    ws = .body c v :: us.flatMap Msg.words → Stance p xs ms ws

/-- Messages behind the others. -/
theorem Stance.append {p : Party} {xs : List Frame} {ms : List (Msg A)} {ws : List (Word A)} (h : Stance p xs ms ws)
    (new : List (Msg A)) : Stance p xs (ms ++ new) (ws ++ new.flatMap Msg.words) := by
  cases h with
  | runs hs hc hws => exact .runs hs hc (by rw [hws, List.flatMap_append])
  | waits hs hc hws => exact .waits hs hc (by rw [hws, List.flatMap_append])
  | replied hs hf hc hws => exact .replied hs hf hc (by rw [hws, List.flatMap_append])
  | head hs hc hop hms hws =>
    exact .head hs hc hop (by rw [hms, List.cons_append]) (by rw [hws, List.flatMap_append, List.cons_append, List.cons_append])
  | fresh hs hf hc hms hws =>
    exact .fresh hs hf hc (by rw [hms, List.cons_append]) (by rw [hws, List.flatMap_append, List.cons_append])
  | body hs hc hms hws =>
    exact .body hs hc (by rw [hms, List.cons_append]) (by rw [hws, List.flatMap_append, List.cons_append])

/-- A call made after every handler of `xs` began. -/
def Newer (c : Option Call) (xs : List Frame) : Prop := ∀ d ∈ c, ∀ f ∈ xs, f.call.serial < d.serial

/-- Every wait that dispatched a handler is newer than the handlers below it. -/
def Layered : List Frame → Prop
  | [] => True
  | f :: xs => Newer f.op.awaited xs ∧ Layered xs

/-- An end that nothing has gone wrong with. -/
structure Standing (has : Int32 → Bool) (p : Party) (xs : List Frame) (ms : List (Msg A)) (ws : List (Word A)) : Prop where
  stance : Stance p xs ms ws
  status : p.conn.status = .active
  methods : p.methods.has = has
  args : ∀ f ∈ xs, f.phase = .args
  plain : ∀ f ∈ p.stack, f.op.Plain
  newer : Newer p.ctl.awaited p.stack
  layered : Layered p.stack

/-! ### Both ends -/

structure Crossing (s : Session A) (has : ConnectionType → Int32 → Bool) (xs : ConnectionType → List Frame)
    (ms : ConnectionType → List (Msg A)) : Prop where
  standing : ∀ x, Standing (has x) (s.party x) (xs x) (ms x) (s.incoming x)
  half : ∀ x, Half s (has x.other) x (s.party x).awaited ((ms x.other).filterMap Msg.asked) (xs x.other)
    ((ms x).filterMap Msg.answered)
  logged : ∀ e ∈ s.log, e.2.call.serial < s.steps

def Crossed (s : Session A) : Prop := ∃ has xs ms, Crossing s has xs ms

/-- No reply comes to an end that waits for a newer call: a handler replies to the newest call its caller waits for,
    and nobody calls while the newest call it waits for has its reply. -/
def Session.Settled (s : Session A) (x : ConnectionType) : Act A → Prop
  | .invoke .. => ∀ c ∈ (s.party x).awaited.head?, ∀ v, (x.other, .replied c v) ∉ s.log
  | .sendReply _ => ∀ f ∈ (s.party x).stack.head?, (s.party x.other).awaited.head? = some f.call
  | _ => True

section
variable {s t : Session A} {has : ConnectionType → Int32 → Bool} {xs : ConnectionType → List Frame}
  {ms : ConnectionType → List (Msg A)} {x : ConnectionType} {q : Party} {rest words : List (Word A)}
  {entries : List (Entry A)}

/-- `x` has become `q`, over the handlers `zs` and with `us` to read, and sent `new`. -/
theorem Crossing.after (h : Crossing s has xs ms) (zs : List Frame) (us new : List (Msg A)) (ht : t = s.after x q rest words entries)
    (hwords : words = new.flatMap Msg.words) (hq : Standing (has x) q zs us rest)
    (hmine : Half t (has x.other) x q.awaited ((ms x.other ++ new).filterMap Msg.asked) (xs x.other)
      (us.filterMap Msg.answered))
    (htheirs : Half t (has x) x.other (s.party x.other).awaited (us.filterMap Msg.asked) zs
      ((ms x.other ++ new).filterMap Msg.answered))
    (hlogged : ∀ e ∈ t.log, e.2.call.serial < t.steps) : Crossed t := by
  have hself : t.party x = q := by rw [ht, Session.after_party_self]
  have hother : t.party x.other = s.party x.other := by rw [ht, Session.after_party_other]
  have hrest : t.incoming x = rest := by rw [ht, Session.after_incoming_self]
  have hnew : t.incoming x.other = s.incoming x.other ++ new.flatMap Msg.words := by
    rw [ht, Session.after_incoming_other, hwords]
  have hold := h.standing x.other
  refine ⟨has, Function.update xs x zs, Function.update (Function.update ms x us) x.other (ms x.other ++ new),
    fun y => ?_, fun y => ?_, hlogged⟩
  · rcases y.eq_or_other x with rfl | rfl
    · rw [hself, hrest]
      simpa [Function.update_of_ne] using hq
    · rw [hother, hnew]
      simpa [Function.update_of_ne] using
        (⟨hold.stance.append new, hold.status, hold.methods, hold.args, hold.plain, hold.newer, hold.layered⟩ :
          Standing (has x.other) (s.party x.other) (xs x.other) (ms x.other ++ new) _)
  · rcases y.eq_or_other x with rfl | rfl
    · rw [hself]
      simpa [Function.update_of_ne] using hmine
    · rw [hother]
      simpa [Function.update_of_ne] using htheirs

/-- A step that neither sends nor logs anything. -/
theorem Crossing.quiet (h : Crossing s has xs ms) (ht : t = s.after x q rest [] [])
    (hq : Standing (has x) q (xs x) (ms x) rest) (hawaited : q.awaited = (s.party x).awaited) : Crossed t := by
  have hhist : ∀ c, t.history c = s.history c := fun c => by
    rw [ht, Session.history, Session.history]
    simp [Session.after]
  have hmine := (h.half x).quiet fun c _ => hhist c
  have htheirs := (h.half x.other).quiet fun c _ => hhist c
  rw [ConnectionType.other_other] at htheirs
  refine h.after (xs x) (ms x) [] ht rfl hq ?_ ?_ fun e he => ?_
  · rw [List.append_nil, hawaited]
    exact hmine
  · rw [List.append_nil]
    exact htheirs
  · rw [ht] at he ⊢
    have hlt := h.logged e (by simpa [Session.after] using he)
    exact Nat.lt_succ_of_lt hlt

/-! ### Steps of one end -/

/-- A call that has been logged was invoked before. -/
theorem Crossing.before (h : Crossing s has xs ms) {c : Call} (hc : s.history c ≠ []) : c.serial < s.steps := by
  obtain ⟨e, he⟩ := List.exists_mem_of_ne_nil _ hc
  obtain ⟨hlog, hcall⟩ := List.mem_filter.mp he
  have hlt := h.logged e hlog
  rwa [of_decide_eq_true hcall] at hlt

theorem Crossing.handled_before (h : Crossing s has xs ms) : ∀ f ∈ xs x, f.call.serial < s.steps := by
  intro f hf
  have hf' : f ∈ xs x.other.other := by rwa [ConnectionType.other_other]
  exact h.before ((h.half x.other).opened ((h.half x.other).handled f hf').1)

theorem Crossing.logged_snoc (h : Crossing s has xs ms) {e : Entry A} (hlog : t.log = s.log ++ [(x, e)])
    (hsteps : t.steps = s.steps + 1) (he : e.call.serial ≤ s.steps) : ∀ y ∈ t.log, y.2.call.serial < t.steps := by
  intro y hy
  rw [hlog, List.mem_append, List.mem_singleton] at hy
  rcases hy with hy | rfl
  · have hlt := h.logged y hy
    omega
  · simp only
    omega

/-- A reply on its way is for the newest call, and its handler has sent it. -/
theorem Crossing.answered (h : Crossing s has xs ms) {c : Call} {v : A} (hv : .reply c v ∈ ms x) :
    (s.party x).awaited.head? = some c ∧ (x.other, .replied c v) ∈ s.log := by
  obtain ⟨hhead, m, a, hreplied⟩ := (h.half x).replied c v (List.mem_filterMap.mpr ⟨_, hv, rfl⟩)
  have hcaller := (h.half x).caller c (List.mem_of_mem_head? hhead)
  have hmem : (x.other, .replied c v) ∈ s.history c := by
    rw [hreplied, ← hcaller]
    exact List.mem_append_right _ List.mem_cons_self
  exact ⟨hhead, (List.mem_filter.mp hmem).1⟩

section
variable (h : Crossing s has xs ms)
include h

theorem Crossing.invoke (hstack : (s.party x).stack = xs x) {r : Int} (hctl : (s.party x).ctl = .user r)
    (hws : s.incoming x = (ms x).flatMap Msg.words) {m : Int32} {a : A} (hm : (s.party x.other).methods.has m = true)
    (hset : s.Settled x (.invoke m a)) (hs : s.step x (.invoke m a) = some t) : Crossed t := by
  have hold := h.standing x
  have ht := Session.step_invoke hctl hold.status hs
  have hlog : t.log = s.log ++ [(x, .invoked ⟨x, s.steps⟩ m a)] := by rw [ht]; rfl
  have hnil : s.history ⟨x, s.steps⟩ = [] := by
    by_contra hne
    exact Nat.lt_irrefl _ (h.before hne)
  have hnone : (ms x).filterMap Msg.answered = [] := by
    rw [List.filterMap_eq_nil_iff]
    rintro (⟨c, m', a'⟩ | ⟨c, v⟩) hmsg
    · rfl
    · obtain ⟨hhead, hreplied⟩ := h.answered hmsg
      exact absurd hreplied (hset c hhead v)
  have hawaited : (s.party x).awaited = (s.party x).stack.filterMap (·.op.awaited) := by
    simp [Party.awaited, hctl, Ctl.awaited]
  have hhas : has x.other m = true := by rw [← (h.standing x.other).methods, hm]
  have hmine := h.half x
  rw [hnone] at hmine
  refine h.after (xs x) (ms x) [.call ⟨x, s.steps⟩ m a] ht rfl ?_ ?_ ?_ (h.logged_snoc hlog (by rw [ht]; rfl) (Nat.le_refl _))
  · refine ⟨.waits hstack (Or.inl rfl) hws, hold.status, hold.methods, hold.args, hold.plain, ?_, hold.layered⟩
    rintro d hd f hf
    cases hd
    exact h.handled_before f (hstack ▸ hf)
  · rw [List.filterMap_append, hnone]
    have hcall := hmine.invoke hhas rfl hnil hlog
    rw [hawaited] at hcall
    exact hcall
  · have htheirs := (h.half x.other).quiet fun c hc => Ledger.history_other hlog fun heq => x.other_ne (by rw [← hc, ← heq]; rfl)
    rw [ConnectionType.other_other] at htheirs
    rw [Msg.filterMap_answered_call]
    exact htheirs

/-- The words of a message begin with its marker. -/
theorem Crossing.first_message (hws : s.incoming x = (ms x).flatMap Msg.words) {tag : Int32} {rest : List (Word A)}
    (hin : s.incoming x = .marker tag :: rest) : (∃ c m a us, ms x = .call c m a :: us ∧ tag = RpcMessage.start ∧
      rest = .head c m :: .args c a :: us.flatMap Msg.words) ∨
    ∃ c v us, ms x = .reply c v :: us ∧ tag = RpcMessage.reply ∧ rest = .body c v :: us.flatMap Msg.words ∧
      (s.party x).awaited.head? = some c := by
  rcases hms : ms x with _ | ⟨⟨c, m, a⟩ | ⟨c, v⟩, us⟩
  · rw [hin, hms] at hws
    cases hws
  · rw [hin, hms] at hws
    obtain ⟨htag, hrest⟩ := List.cons.inj hws
    exact Or.inl ⟨c, m, a, us, rfl, Word.marker.inj htag, hrest⟩
  · rw [hin, hms] at hws
    obtain ⟨htag, hrest⟩ := List.cons.inj hws
    exact Or.inr ⟨c, v, us, rfl, Word.marker.inj htag, hrest, (h.answered (hms ▸ List.mem_cons_self)).1⟩

/-- An event loop, or a wait, that meets a call dispatches it. -/
theorem Crossing.start (hstack : (s.party x).stack = xs x) {op : Op} (hop : op.Plain)
    (hawaited : op.awaited = (s.party x).ctl.awaited) {c : Call} {m : Int32} {a : A} {us : List (Msg A)}
    (hms : ms x = .call c m a :: us) (ht : t = s.after x ((s.party x).rpcDispatchStart op)
      (.head c m :: .args c a :: us.flatMap Msg.words) [] []) : Crossed t := by
  have hold := h.standing x
  refine h.quiet ht ⟨.head hstack rfl hop hms rfl, hold.status, hold.methods, hold.args, hold.plain, ?_, hold.layered⟩ ?_
  · have hnewer := hold.newer
    rw [← hawaited] at hnewer
    exact hnewer
  · rw [Party.awaited, Party.awaited, ← hawaited]
    rfl

theorem Crossing.markerRead (hstack : (s.party x).stack = xs x) {c : Call} (hctl : (s.party x).ctl = .marker (.wait c))
    (hws : s.incoming x = (ms x).flatMap Msg.words) {act : Act A} (hs : s.step x act = some t) : Crossed t := by
  have hold := h.standing x
  obtain ⟨tag, rest, hin, ht⟩ := Session.step_marker hctl hs
  rcases h.first_message hws hin with ⟨d, m, a, us, hms, rfl, rfl⟩ | ⟨d, v, us, hms, rfl, rfl, hhead⟩
  · have hstart : tagAction (s.party x).conn (Loop.wait c).expected RpcMessage.start = .dispatch := by
      simp [tagAction, Loop.expected]
    have hstep := Party.recvMarker_dispatch hstart
    have hunfailed : Session.Unfailed ((s.party x).recvMarker (.wait c) (.ok RpcMessage.start)) := by
      rw [hstep]
      rintro _ ⟨⟩
    rw [Session.entries_recvMarker hunfailed hctl, hstep] at ht
    exact h.start hstack (show Op.Plain (.loop (.wait c)) from trivial) (by rw [hctl]; rfl) hms ht
  · have hdone : tagAction (s.party x).conn (Loop.wait c).expected RpcMessage.reply = .done := if_pos rfl
    have hstep := Party.recvMarker_done hdone
    have hunfailed : Session.Unfailed ((s.party x).recvMarker (.wait c) (.ok RpcMessage.reply)) := by
      rw [hstep]
      rintro _ ⟨⟩
    rw [Session.entries_recvMarker hunfailed hctl, hstep] at ht
    obtain rfl : c = d := by
      rw [Party.awaited, hctl] at hhead
      exact Option.some.inj hhead
    have hnewer := hold.newer
    rw [hctl] at hnewer
    refine h.quiet ht ⟨.body hstack rfl hms rfl, hold.status, hold.methods, hold.args, hold.plain, hnewer, hold.layered⟩ ?_
    rw [Party.awaited, Party.awaited, hctl]
    rfl

theorem Crossing.dispatch (hstack : (s.party x).stack = xs x) (hnil : xs x = []) {r : Int} (hctl : (s.party x).ctl = .user r)
    (hws : s.incoming x = (ms x).flatMap Msg.words) (hs : s.step x .dispatch = some t) : Crossed t := by
  obtain ⟨tag, rest, hin, ht⟩ := Session.step_dispatch hctl hs
  rcases h.first_message hws hin with ⟨d, m, a, us, hms, rfl, rfl⟩ | ⟨d, v, us, hms, rfl, rfl, hhead⟩
  · rw [Party.rpcDispatch_start] at ht
    exact h.start hstack (show Op.Plain .dispatch from trivial) (by rw [hctl]; rfl) hms ht
  · rw [Party.awaited, hctl, hstack, hnil] at hhead
    cases hhead

theorem Crossing.headRead (hstack : (s.party x).stack = xs x) {op : Op} (hctl : (s.party x).ctl = .head op) (hop : op.Plain)
    {c : Call} {m : Int32} {a : A} {us : List (Msg A)} (hms : ms x = .call c m a :: us)
    (hws : s.incoming x = .head c m :: .args c a :: us.flatMap Msg.words) {act : Act A} (hs : s.step x act = some t) :
    Crossed t := by
  have hold := h.standing x
  obtain ⟨c', m', rest, hin, ht⟩ := Session.step_head hctl hs
  obtain ⟨hhead, rfl⟩ := List.cons.inj (hin.symm.trans hws)
  obtain ⟨rfl, rfl⟩ := Word.head.inj hhead
  have hhas : (s.party x).methods.has m' = true := by
    have hsent := (h.half x.other).sent c' m' a
    rw [ConnectionType.other_other] at hsent
    rw [hold.methods]
    exact (hsent (List.mem_filterMap.mpr ⟨_, hms ▸ List.mem_cons_self, rfl⟩)).2.1
  have hstep : (s.party x).recvHead op (.ok (c', m')) = _ := Party.recvHead_has hhas
  have hunfailed : Session.Unfailed ((s.party x).recvHead op (.ok (c', m'))) := by
    rw [hstep]
    intro ret hret
    cases hret
    exact Int.le_refl 0
  rw [Session.entries_recvHead hunfailed hctl, hstep] at ht
  have hnewer := hold.newer
  rw [hctl] at hnewer
  refine h.quiet ht ⟨.fresh (by rw [hstack]) rfl (Or.inl ⟨_, rfl⟩) hms rfl, hold.status, hold.methods, hold.args,
    fun f hf => ?_, nofun, hnewer, hold.layered⟩ ?_
  · rcases List.mem_cons.mp hf with rfl | hf
    · exact hop
    · exact hold.plain f hf
  · rw [Party.awaited, Party.awaited, hctl]
    cases hop' : op.awaited <;> simp [Ctl.awaited, hop']

theorem Crossing.getArgs {f : Frame} (hstack : (s.party x).stack = f :: xs x) (hphase : f.phase = .fresh) {r : Int}
    (hctl : (s.party x).ctl = .user r) {a : A} {us : List (Msg A)} (hms : ms x = .call f.call f.method a :: us)
    (hws : s.incoming x = .args f.call a :: us.flatMap Msg.words) (hs : s.step x .getArgs = some t) : Crossed t := by
  have hold := h.standing x
  have ht := Session.step_getArgs hctl hold.status hs
  refine h.quiet ht ⟨.fresh hstack hphase (Or.inr rfl) hms hws, hold.status, hold.methods, hold.args, hold.plain, nofun,
    hold.layered⟩ ?_
  rw [Party.awaited, Party.awaited, hctl]
  rfl

theorem Crossing.argsRead {f : Frame} (hstack : (s.party x).stack = f :: xs x) (hctl : (s.party x).ctl = .args) {a : A}
    {us : List (Msg A)} (hms : ms x = .call f.call f.method a :: us)
    (hws : s.incoming x = .args f.call a :: us.flatMap Msg.words) {act : Act A} (hs : s.step x act = some t) :
    Crossed t := by
  have hold := h.standing x
  obtain ⟨c, a', rest, hin, ht⟩ := Session.step_args hctl hstack hs
  obtain ⟨hargs, rfl⟩ := List.cons.inj (hin.symm.trans hws)
  obtain ⟨rfl, rfl⟩ := Word.args.inj hargs
  have hlog : t.log = s.log ++ [(x, .gotArgs f.call a')] := by rw [ht]; rfl
  have htheirs := h.half x.other
  rw [ConnectionType.other_other, hms] at htheirs
  have hcaller : f.call.caller = x.other := htheirs.caller _ (htheirs.sent f.call f.method a' List.mem_cons_self).1
  refine h.after ({ f with phase := .args } :: xs x) us [] ht rfl ?_ ?_ ?_ (h.logged_snoc hlog (by rw [ht]; rfl) ?_)
  · refine ⟨.runs rfl rfl rfl, hold.status, hold.methods, fun g hg => ?_, fun g hg => ?_, nofun, ?_⟩
    · rcases List.mem_cons.mp hg with rfl | hg
      · rfl
      · exact hold.args g hg
    · rcases List.mem_cons.mp hg with rfl | hg
      · exact hold.plain f (hstack ▸ List.mem_cons_self)
      · exact hold.plain g (hstack ▸ List.mem_cons_of_mem _ hg)
    · have hlayered := hold.layered
      rw [hstack] at hlayered
      exact hlayered
  · have hmine := (h.half x).quiet (t := t) fun c hc => Ledger.history_other hlog fun heq =>
      x.ne_other (by rw [← hcaller, ← hc, ← heq]; rfl)
    rw [hms] at hmine
    rw [List.append_nil, Party.awaited]
    rw [Party.awaited, hctl, hstack] at hmine
    exact hmine
  · rw [List.append_nil]
    have hgot : t.log = s.log ++ [(x.other.other, .gotArgs f.call a')] := by rw [ConnectionType.other_other, hlog]
    exact htheirs.take rfl rfl hgot
  · exact Nat.le_of_lt (h.before (htheirs.opened (htheirs.sent f.call f.method a' List.mem_cons_self).1))

theorem Crossing.sendReply {f : Frame} {zs : List Frame} (hstack : (s.party x).stack = f :: zs) (hxs : xs x = f :: zs) {r : Int}
    (hctl : (s.party x).ctl = .user r) (hws : s.incoming x = (ms x).flatMap Msg.words) {v : A}
    (hset : s.Settled x (.sendReply v)) (hs : s.step x (.sendReply v) = some t) : Crossed t := by
  have hold := h.standing x
  have ht := Session.step_sendReply hctl hold.status hstack hs
  have hlog : t.log = s.log ++ [(x, .replied f.call v)] := by rw [ht]; rfl
  have htheirs := h.half x.other
  rw [ConnectionType.other_other, hxs] at htheirs
  have hmem := (htheirs.handled f List.mem_cons_self).1
  have hcaller : f.call.caller = x.other := htheirs.caller _ hmem
  have hhead : (s.party x.other).awaited.head? = some f.call := hset f (by rw [hstack]; rfl)
  refine h.after zs (ms x) [.reply f.call v] ht rfl ?_ ?_ ?_ (h.logged_snoc hlog (by rw [ht]; rfl) ?_)
  · refine ⟨.replied rfl rfl rfl hws, hold.status, hold.methods, fun g hg => ?_, fun g hg => ?_, nofun, ?_⟩
    · exact hold.args g (hxs ▸ List.mem_cons_of_mem _ hg)
    · rcases List.mem_cons.mp hg with rfl | hg
      · exact hold.plain f (hstack ▸ List.mem_cons_self)
      · exact hold.plain g (hstack ▸ List.mem_cons_of_mem _ hg)
    · have hlayered := hold.layered
      rw [hstack] at hlayered
      exact hlayered
  · have hmine := (h.half x).quiet (t := t) fun c hc => Ledger.history_other hlog fun heq =>
      x.ne_other (by rw [← hcaller, ← hc, ← heq]; rfl)
    rw [Msg.filterMap_asked_reply, Party.awaited]
    rw [Party.awaited, hctl, hstack] at hmine
    exact hmine
  · rw [List.filterMap_append]
    have hreplied : t.log = s.log ++ [(x.other.other, .replied f.call v)] := by rw [ConnectionType.other_other, hlog]
    exact htheirs.reply hhead hreplied
  · exact Nat.le_of_lt (h.before (htheirs.opened hmem))

theorem Crossing.ret {f : Frame} (hstack : (s.party x).stack = f :: xs x) {r : Int} (hctl : (s.party x).ctl = .user r)
    (hws : s.incoming x = (ms x).flatMap Msg.words) (hs : s.step x (.ret RpcError.noError) = some t) : Crossed t := by
  have hold := h.standing x
  have ht := Session.step_ret hctl hstack hs
  have hpositive := f.positive
  have hnonneg : ¬f.method.toInt < 0 := by omega
  have hplain := hold.plain f (hstack ▸ List.mem_cons_self)
  have hlayered := hold.layered
  rw [hstack] at hlayered
  obtain ⟨hnewer, hlayered⟩ := hlayered
  have hawaited : (s.party x).awaited = f.op.awaited.toList ++ (xs x).filterMap (·.op.awaited) := by
    rw [Party.awaited, hctl, hstack]
    cases hop : f.op.awaited <;> simp [Ctl.awaited, hop]
  have hrest : ∀ g ∈ xs x, g.op.Plain := fun g hg => hold.plain g (hstack ▸ List.mem_cons_of_mem _ hg)
  generalize hq : { s.party x with stack := xs x }.rpcDispatchEnd f.op f.method.toInt = q at ht
  rcases hop : f.op with _ | _ | _ | c
  · rw [hop, Party.rpcDispatchEnd_dispatch hnonneg] at hq
    subst hq
    have hunfailed : Session.Unfailed { s.party x with stack := xs x, conn := (s.party x).conn.lowerDispatch
                                                       ctl := .user f.method.toInt } := by
      intro ret hret
      cases hret
      omega
    rw [Session.entries_ret hunfailed hctl] at ht
    refine h.quiet ht ⟨.runs rfl rfl hws, hold.status, hold.methods, hold.args, hrest, nofun, hlayered⟩ ?_
    rw [hawaited, hop]
    rfl
  · rw [hop] at hplain
    exact hplain.elim
  · rw [hop] at hplain
    exact hplain.elim
  · rw [hop, Party.rpcDispatchEnd_loop hnonneg] at hq
    subst hq
    have hunfailed : Session.Unfailed { s.party x with stack := xs x, conn := (s.party x).conn.lowerDispatch
                                                       ctl := .marker (.wait c) } := nofun
    rw [Session.entries_ret hunfailed hctl] at ht
    rw [hop] at hnewer
    refine h.quiet ht ⟨.waits rfl (Or.inr rfl) hws, hold.status, hold.methods, hold.args, hrest, hnewer, hlayered⟩ ?_
    rw [hawaited, hop]
    rfl

theorem Crossing.bodyRead (hstack : (s.party x).stack = xs x) {c : Call} (hctl : (s.party x).ctl = .body c) {v : A}
    {us : List (Msg A)} (hms : ms x = .reply c v :: us) (hws : s.incoming x = .body c v :: us.flatMap Msg.words)
    {act : Act A} (hs : s.step x act = some t) : Crossed t := by
  have hold := h.standing x
  obtain ⟨c', v', rest, hin, ht⟩ := Session.step_body hctl hs
  obtain ⟨hbody, rfl⟩ := List.cons.inj (hin.symm.trans hws)
  obtain ⟨rfl, rfl⟩ := Word.body.inj hbody
  have hlog : t.log = s.log ++ [(x, .returned c' v')] := by rw [ht]; rfl
  have hmine := h.half x
  rw [Party.awaited, hctl, hms] at hmine
  have hcaller : c'.caller = x := hmine.caller c' List.mem_cons_self
  refine h.after (xs x) us [] ht rfl ?_ ?_ ?_ (h.logged_snoc hlog (by rw [ht]; rfl) ?_)
  · exact ⟨.runs hstack rfl rfl, hold.status, hold.methods, hold.args, hold.plain, nofun, hold.layered⟩
  · rw [List.append_nil]
    exact hmine.ret hlog
  · have htheirs := (h.half x.other).quiet (t := t) fun d hd => Ledger.history_other hlog fun heq =>
      x.ne_other (by rw [← hd, ← hcaller, ← heq]; rfl)
    rw [ConnectionType.other_other, hms] at htheirs
    rw [List.append_nil]
    exact htheirs
  · exact Nat.le_of_lt (h.before (hmine.opened List.mem_cons_self))

theorem Crossing.step {act : Act A} (hg : s.Gated x act) (hset : s.Settled x act) (hs : s.step x act = some t) :
    Crossed t := by
  have hold := h.standing x
  cases hold.stance with
  | @runs r hstack hctl hws =>
    rcases hxs : xs x with _ | ⟨f, zs⟩
    · rw [hxs] at hstack
      cases act with
      | invoke m a =>
        simp only [Session.Gated, hctl, hstack] at hg
        exact h.invoke (by rw [hstack, hxs]) hctl hws hg.1 hset hs
      | dispatch => exact h.dispatch (by rw [hstack, hxs]) hxs hctl hws hs
      | _ => simp [Session.Gated, hctl, hstack] at hg
    · have hphase : f.phase = .args := hold.args f (hxs ▸ List.mem_cons_self)
      rw [hxs] at hstack
      cases act with
      | invoke m a =>
        simp only [Session.Gated, hctl, hstack, hphase] at hg
        exact h.invoke (by rw [hstack, hxs]) hctl hws hg.1 hset hs
      | sendReply v => exact h.sendReply hstack hxs hctl hws hset hs
      | _ => simp [Session.Gated, hctl, hstack, hphase] at hg
  | @waits c hstack hctl hws =>
    rcases hctl with hctl | hctl
    · have ht := Session.step_invoked hctl hold.status hs
      have hnewer := hold.newer
      rw [hctl] at hnewer
      refine h.quiet ht ⟨.waits hstack (Or.inr rfl) hws, hold.status, hold.methods, hold.args, hold.plain, hnewer,
        hold.layered⟩ ?_
      rw [Party.awaited, Party.awaited, hctl]
      rfl
    · exact h.markerRead hstack hctl hws hs
  | replied hstack hphase hctl hws =>
    obtain rfl : act = .ret RpcError.noError := by
      cases act <;> simp_all [Session.Gated]
    exact h.ret hstack hctl hws hs
  | head hstack hctl hop hms hws => exact h.headRead hstack hctl hop hms hws hs
  | fresh hstack hphase hctl hms hws =>
    rcases hctl with ⟨r, hctl⟩ | hctl
    · obtain rfl : act = .getArgs := by
        cases act <;> simp_all [Session.Gated]
      exact h.getArgs hstack hphase hctl hms hws hs
    · exact h.argsRead hstack hctl hms hws hs
  | body hstack hctl hms hws => exact h.bodyRead hstack hctl hms hws hs

/-! ### What it says of a state -/

theorem Crossing.inOrder (c : Call) : s.InOrder c := by
  have hhalf := h.half c.caller
  rcases hhalf.closed c rfl with hc | hnil | ⟨m, a, v, hdone⟩
  · rcases hhalf.stage c hc with ⟨m, a, hm⟩ | ⟨f, hf, rfl⟩ | ⟨v, hv⟩
    · exact Or.inr ⟨m, a, a, (hhalf.sent c m a hm).2.2 ▸ invoked_prefix c m a a⟩
    · obtain ⟨a, ha⟩ := (hhalf.handled f hf).2
      exact Or.inr ⟨f.method, a, a, ha ▸ handled_prefix _ _ a a⟩
    · obtain ⟨m, a, ha⟩ := (hhalf.replied c v hv).2
      exact Or.inr ⟨m, a, v, ha ▸ replied_prefix c m a v⟩
  · exact Or.inl hnil
  · exact Or.inr ⟨m, a, v, hdone ▸ List.prefix_rfl⟩

/-- An end in a read with nothing to read waits for a call. -/
theorem Crossing.starved (hread : s.Reading x) (hnil : s.incoming x = []) :
    ∃ c, (s.party x).stack = xs x ∧ (s.party x).ctl = .marker (.wait c) ∧ ms x = [] := by
  cases (h.standing x).stance with
  | runs _ hctl => simp [Session.Reading, hctl] at hread
  | @waits c hstack hctl hws =>
    rcases hctl with hctl | hctl
    · simp [Session.Reading, hctl] at hread
    · refine ⟨c, hstack, hctl, ?_⟩
      rcases hms : ms x with _ | ⟨⟨d, m, a⟩ | ⟨d, v⟩, us⟩
      · rfl
      · rw [hnil, hms] at hws
        cases hws
      · rw [hnil, hms] at hws
        cases hws
  | replied _ _ hctl => simp [Session.Reading, hctl] at hread
  | head _ _ _ _ hws => cases hnil.symm.trans hws
  | fresh _ _ _ _ hws => cases hnil.symm.trans hws
  | body _ _ _ hws => cases hnil.symm.trans hws

/-- Of two calls that wait for each other's handlers, each would be newer. -/
theorem Crossing.not_deadlocked : ¬s.Deadlocked := by
  intro hdead
  have hnewer (x : ConnectionType) : ∃ c d, (s.party x).ctl = .marker (.wait c) ∧
      (s.party x.other).ctl = .marker (.wait d) ∧ c.serial < d.serial := by
    obtain ⟨c, -, hctl, hms⟩ := h.starved (hdead x).1 (hdead x).2
    obtain ⟨d, hstack, hctl', hms'⟩ := h.starved (hdead x.other).1 (hdead x.other).2
    have hc : c ∈ (s.party x).awaited := by
      rw [Party.awaited, hctl]
      exact List.mem_cons_self
    have hlater := (h.standing x.other).newer
    rw [hctl'] at hlater
    rcases (h.half x).stage c hc with ⟨m, a, hm⟩ | ⟨f, hf, rfl⟩ | ⟨v, hv⟩
    · rw [hms'] at hm
      cases hm
    · exact ⟨f.call, d, hctl, hctl', hlater d rfl f (hstack ▸ hf)⟩
    · rw [hms] at hv
      cases hv
  obtain ⟨c, d, hc, hd, hlt⟩ := hnewer .server
  obtain ⟨d', c', hd', hc', hlt'⟩ := hnewer .client
  cases hc.symm.trans hc'
  cases hd.symm.trans hd'
  exact Nat.lt_asymm hlt hlt'

/-- An end that reads and has something to read finds the word it reads for. -/
theorem Crossing.read (hread : s.Reading x) (hne : s.incoming x ≠ []) : ∃ t, s.step x .read = some t := by
  cases (h.standing x).stance with
  | runs _ hctl => simp [Session.Reading, hctl] at hread
  | waits hstack hctl hws =>
    rcases hctl with hctl | hctl
    · simp [Session.Reading, hctl] at hread
    · rcases hms : ms x with _ | ⟨⟨d, m, a⟩ | ⟨d, v⟩, us⟩
      · rw [hms] at hws
        exact absurd hws hne
      · rw [hms] at hws
        simp only [Session.step, Session.event, hctl, hws, List.flatMap_cons, Msg.words, List.cons_append, Party.step]
        exact ⟨_, rfl⟩
      · rw [hms] at hws
        simp only [Session.step, Session.event, hctl, hws, List.flatMap_cons, Msg.words, List.cons_append, Party.step]
        exact ⟨_, rfl⟩
  | replied _ _ hctl => simp [Session.Reading, hctl] at hread
  | head _ hctl _ _ hws =>
    simp only [Session.step, Session.event, hctl, hws, Party.step]
    exact ⟨_, rfl⟩
  | fresh hstack _ hctl _ hws =>
    rcases hctl with ⟨r, hctl⟩ | hctl
    · simp [Session.Reading, hctl] at hread
    · simp only [Session.step, Session.event, hctl, hws, Party.step, hstack]
      exact ⟨_, rfl⟩
  | body _ hctl _ hws =>
    simp only [Session.step, Session.event, hctl, hws, Party.step]
    exact ⟨_, rfl⟩

end

theorem crossed_init (hs : (sessionMachine A).init s) : Crossed s := by
  have hparty (x : ConnectionType) : (s.party x).stack = [] ∧ (s.party x).ctl = .user RpcError.noError := (hs.party x).1.2
  have hhist : ∀ c, s.history c = [] := fun c => by rw [Session.history, hs.log, List.filter_nil]
  refine ⟨fun x => (s.party x).methods.has, fun _ => [], fun _ => [], fun x => ?_, fun x => ?_, fun e he => ?_⟩
  · refine ⟨.runs (hparty x).1 (hparty x).2 (hs.incoming x), (hs.party x).1.1.active, rfl, (by simp), ?_, ?_, ?_⟩
    · rw [(hparty x).1]
      simp
    · rw [(hparty x).1]
      exact fun _ _ => by simp
    · rw [(hparty x).1]
      trivial
  · have hnone : (s.party x).awaited = [] := by
      rw [Party.awaited, (hparty x).1, (hparty x).2]
      rfl
    rw [hnone]
    exact ⟨(by simp), List.nodup_nil, (by simp), (by simp), (by simp), (by simp), List.nodup_nil, Nat.zero_le 1, fun c _ => Or.inr (Or.inl (hhist c))⟩
  · rw [hs.log] at he
    cases he

theorem crossed_of_reachable (h : ((gatedSession A).restrict fun s e => s.Settled e.1 e.2).Reachable s) : Crossed s := by
  refine h.invariant Crossed ?_ ?_
  · exact fun s hs => crossed_init hs
  · rintro s e t - ⟨has, xs, ms, hcrossing⟩ ⟨hset, hg, hs⟩
    exact hcrossing.step hg hset hs

/-- Where no reply comes to an end that waits for a newer call, every call gets its own arguments to its handler and
    its own reply back, and nobody waits for ever. -/
theorem replies_uncrossed (h : ((gatedSession A).restrict fun s e => s.Settled e.1 e.2).Reachable s) :
    (∀ call, s.InOrder call) ∧ ¬s.Deadlocked ∧
    ∀ side, s.Reading side → s.incoming side ≠ [] → ∃ t, s.step side .read = some t := by
  obtain ⟨has, xs, ms, hcrossing⟩ := crossed_of_reachable h
  exact ⟨hcrossing.inOrder, hcrossing.not_deadlocked, fun _ => hcrossing.read⟩

end

/-- The calls of both ends cross, and the wrapper's handler calls back: that call gets the reply to the first. -/
theorem reply_crossed : ∃ s : Session Nat, (gatedSession Nat).Reachable s ∧
    s.history ⟨.client, 0⟩ = Replied ⟨.client, 0⟩ 1 5 7 ∧
    s.history ⟨.client, 13⟩ = [(.client, .invoked ⟨.client, 13⟩ 2 9), (.client, .returned ⟨.client, 13⟩ 7)] ∧
    ¬s.InOrder ⟨.client, 13⟩ := by
  have h₀ := Machine.Reachable.init (m := gatedSession Nat) Session.opened_init
  have h₁ := h₀.next (.client, .invoke 1 5) ⟨⟨rfl, rfl⟩, rfl⟩
  have h₂ := h₁.next (.server, .invoke 1 6) ⟨⟨rfl, rfl⟩, rfl⟩
  have h₃ := h₂.next (.client, .waitForReply) ⟨trivial, rfl⟩
  have h₄ := h₃.next (.client, .read) ⟨trivial, rfl⟩
  have h₅ := h₄.next (.client, .read) ⟨trivial, rfl⟩
  have h₆ := h₅.next (.client, .getArgs) ⟨trivial, rfl⟩
  have h₇ := h₆.next (.client, .read) ⟨trivial, rfl⟩
  have h₈ := h₇.next (.server, .waitForReply) ⟨trivial, rfl⟩
  have h₉ := h₈.next (.server, .read) ⟨trivial, rfl⟩
  have h₁₀ := h₉.next (.server, .read) ⟨trivial, rfl⟩
  have h₁₁ := h₁₀.next (.server, .getArgs) ⟨trivial, rfl⟩
  have h₁₂ := h₁₁.next (.server, .read) ⟨trivial, rfl⟩
  have h₁₃ := h₁₂.next (.server, .sendReply 7) ⟨trivial, rfl⟩
  have h₁₄ := h₁₃.next (.client, .invoke 2 9) ⟨⟨rfl, rfl⟩, rfl⟩
  have h₁₅ := h₁₄.next (.client, .waitForReply) ⟨trivial, rfl⟩
  have h₁₆ := h₁₅.next (.client, .read) ⟨trivial, rfl⟩
  have h₁₇ := h₁₆.next (.client, .read) ⟨trivial, rfl⟩
  have hcrossed {s : Session Nat} (h : s.history ⟨.client, 13⟩ =
      [(.client, .invoked ⟨.client, 13⟩ 2 9), (.client, .returned ⟨.client, 13⟩ 7)]) : ¬s.InOrder ⟨.client, 13⟩ := by
    rintro (hnil | ⟨m, a, v, hprefix⟩)
    · cases h.symm.trans hnil
    · rw [h] at hprefix
      simp [Returned, Replied, Handled, Invoked] at hprefix
  exact ⟨_, h₁₇, rfl, rfl, hcrossed rfl⟩

/-- Crossing calls with handlers that only reply. -/
theorem reply_settled : ∃ s : Session Nat, s.history ⟨.client, 0⟩ = Returned ⟨.client, 0⟩ 1 5 7 ∧
    s.InOrder ⟨.server, 1⟩ ∧ ¬s.Deadlocked := by
  have h₀ := Machine.Reachable.init (m := (gatedSession Nat).restrict fun s e => s.Settled e.1 e.2) Session.opened_init
  have h₁ := h₀.next (.client, .invoke 1 5) ⟨nofun, ⟨rfl, rfl⟩, rfl⟩
  have h₂ := h₁.next (.server, .invoke 1 6) ⟨nofun, ⟨rfl, rfl⟩, rfl⟩
  have h₃ := h₂.next (.client, .waitForReply) ⟨trivial, trivial, rfl⟩
  have h₄ := h₃.next (.client, .read) ⟨trivial, trivial, rfl⟩
  have h₅ := h₄.next (.client, .read) ⟨trivial, trivial, rfl⟩
  have h₆ := h₅.next (.client, .getArgs) ⟨trivial, trivial, rfl⟩
  have h₇ := h₆.next (.client, .read) ⟨trivial, trivial, rfl⟩
  have h₈ := h₇.next (.client, .sendReply 8) ⟨fun f hf => Option.some.inj hf ▸ rfl, trivial, rfl⟩
  have h₉ := h₈.next (.client, .ret 0) ⟨trivial, rfl, rfl⟩
  have h₁₀ := h₉.next (.server, .waitForReply) ⟨trivial, trivial, rfl⟩
  have h₁₁ := h₁₀.next (.server, .read) ⟨trivial, trivial, rfl⟩
  have h₁₂ := h₁₁.next (.server, .read) ⟨trivial, trivial, rfl⟩
  have h₁₃ := h₁₂.next (.server, .getArgs) ⟨trivial, trivial, rfl⟩
  have h₁₄ := h₁₃.next (.server, .read) ⟨trivial, trivial, rfl⟩
  have h₁₅ := h₁₄.next (.server, .sendReply 7) ⟨fun f hf => Option.some.inj hf ▸ rfl, trivial, rfl⟩
  have h₁₆ := h₁₅.next (.client, .read) ⟨trivial, trivial, rfl⟩
  have h₁₇ := h₁₆.next (.client, .read) ⟨trivial, trivial, rfl⟩
  obtain ⟨horder, hdead, -⟩ := replies_uncrossed h₁₇
  exact ⟨_, rfl, horder _, hdead⟩

end NSPluginWrapper
