import NSPluginWrapper.Theorems.Depth

/-! Which runs keep a connection until the last function that reads it has returned: those in which the last
    reference goes when nothing but the function that drops it is left. -/

namespace NSPluginWrapper
open Lib

/-! ### References -/

/-- User code has its connection from `g_rpc_connection` or a plugin instance, which each hold a reference, or
    from the dispatcher of its handler, and an instance drops a reference of its own. -/
def Party.Holds {A : Type} (p : Party) (e : Event A) : Prop :=
  match p.ctl, e with
  | .user _, .invoke .. | .user _, .dispatch .. | .user _, .dispatchPendingSync .. | .user _, .sync _
  | .user _, .endSync _ | .user _, .ref => 0 < p.conn.refcnt
  | .user _, .getArgs => p.stack ≠ []
  | .user _, .unref => (if p.conn.owned then 1 else 0) < p.conn.refcnt
  | _, _ => True

/-- The error callback would drop the last reference. -/
def Connection.CallbackFrees (c : Connection) : Prop :=
  c.refcnt = 1 ∧ c.owned = true ∧ c.errorCallback = .killPlugin

/-- An error that `_rpc_dispatch` hands to `op` over the handlers `rest`: the error callback does not run, or
    nothing reads the connection after it. -/
def Op.LastUse (op : Op) (rest : List Frame) : Prop := op = .loop .dispatchSync ∨ rest = [] ∧ op.waits = false

/-- The error callback does not run in this step, and no reference is dropped, or nothing reads the connection
    after that. -/
def Party.LastUse {A : Type} (p : Party) : Event A → Prop
  | .invoke _ _ _ sent => p.conn.status = .closed ∨ sent = .ok () ∨ p.stack = []
  | .dispatch tag _ => tag = .ok RpcMessage.sync ∨ tag = .ok RpcMessage.start ∨ p.stack = []
  | .sync sent => p.conn.isSync = true ∨ sent = .ok () ∨ p.stack = []
  | .endSync sent => p.conn.isSync = true ∧ sent = .ok () ∨ p.stack = []
  | .sendReply _ sent => p.conn.status = .closed ∨ sent = .ok ()
  | .ret code _ => ∀ f rest, p.stack = f :: rest → 0 ≤ code ∨ f.op.LastUse rest
  | .recvMarker tag => ∀ l, p.ctl = .marker l →
    (∃ m, tag = .ok m ∧ ∀ error, tagAction p.conn l.expected m ≠ .fail error) ∨ (Op.loop l).LastUse p.stack
  | .recvHead head => ∀ op, p.ctl = .head op →
    (∃ call m, head = .ok (call, m) ∧ p.methods.has m = true) ∨ op.LastUse p.stack
  | .recvArgs values => ∃ a, values = .ok a
  | .recvBody values => ∃ a, values = .ok a
  | .unref => p.stack = []
  | _ => True

/-- The last reference does not go while a function that will read the connection waits. -/
def Party.Outlasts {A : Type} (p : Party) (e : Event A) : Prop :=
  p.conn.CallbackFrees ∨ e = .unref ∧ p.conn.refcnt = 1 → p.LastUse e

/-! ### What an error does to the references -/

namespace Connection
variable {c d : Connection}

/-- A connection that is there. -/
def Live (c : Connection) : Prop := 0 < c.refcnt ∧ c.misused = false

theorem Live.access (h : c.Live) (hr : d.refcnt = c.refcnt) (hm : d.misused = c.touch.misused) : d.Live := by
  obtain ⟨hpos, hmis⟩ := h
  refine ⟨hr ▸ hpos, ?_⟩
  have hne : c.refcnt ≠ 0 := by omega
  simp [hm, touch, hmis, hne]

theorem Live.pluginExit (h : c.Live) : c.pluginExit.misused = false ∧ c.pluginExit.owned = false ∧
    (¬(c.refcnt = 1 ∧ c.owned = true) → c.pluginExit.Live) := by
  have htouch : c.touch.Live := h.access rfl rfl
  unfold Connection.pluginExit
  split
  · rename_i howned
    refine ⟨htouch.2, rfl, fun hlast => ⟨?_, htouch.2⟩⟩
    have hpos := h.1
    have hne : c.refcnt ≠ 1 := fun hone => hlast ⟨hone, howned⟩
    change 0 < c.refcnt - 1
    omega
  · rename_i howned
    exact ⟨h.2, by simpa using howned, fun _ => h⟩

theorem Live.setStatus (h : c.Live) (error : Int) : (c.setStatus error).Live := by
  unfold Connection.setStatus
  split
  · exact h
  · exact h

theorem setStatus_refs (c : Connection) (error : Int) : (c.setStatus error).refcnt = c.refcnt ∧ (c.setStatus error).owned = c.owned := by
  unfold Connection.setStatus
  split <;> exact ⟨rfl, rfl⟩

/-- `rpc_error` reads nothing after the callback, and frees the connection only through it. -/
theorem Live.rpcError (h : c.Live) (error : Int) : (c.rpcError error).misused = false ∧
    ((c.rpcError error).owned = true → 0 < (c.rpcError error).refcnt) ∧ (¬c.CallbackFrees → (c.rpcError error).Live) := by
  have htouch : c.touch.Live := h.access rfl rfl
  have hset : (c.touch.setStatus error).Live := htouch.setStatus error
  have hkept {d : Connection} (hd : d.Live) : d.misused = false ∧ (d.owned = true → 0 < d.refcnt) ∧
    (¬c.CallbackFrees → d.Live) := ⟨hd.2, fun _ => hd.1, fun _ => hd⟩
  unfold Connection.rpcError
  split
  · exact hkept hset
  · unfold invokeErrorCallback
    split
    · exact hkept hset
    · exact hkept hset
    · rename_i hcallback
      obtain ⟨hmis, howned, hlive⟩ := hset.pluginExit
      refine ⟨hmis, fun h => ?_, fun hlast => hlive fun hone => hlast ?_⟩
      · exact absurd (howned.symm.trans h) (by decide)
      · obtain ⟨hrefcnt, howns⟩ := setStatus_refs c.touch error
        rw [setStatus_errorCallback] at hcallback
        rw [hrefcnt, howns] at hone
        exact ⟨hone.1, hone.2, hcallback⟩

end Connection

/-! ### What a step keeps -/

/-- Nothing has read the connection after its last reference, and nothing on the call stack can. -/
structure Kept (p : Party) : Prop where
  unmisused : p.conn.misused = false
  owned : p.conn.owned = true → 0 < p.conn.refcnt
  freed : p.conn.refcnt = 0 → p.AtTopLevel

namespace Kept
variable {A : Type} {p q : Party}

theorem of_live (h : p.conn.Live) : Kept p := by
  have hpos := h.1
  exact ⟨h.2, fun _ => hpos, fun hzero => by omega⟩

/-- Where something still runs, the connection is there. -/
theorem live (h : Kept p) (hne : ¬p.AtTopLevel) : p.conn.Live := by
  refine ⟨?_, h.unmisused⟩
  by_contra hzero
  exact hne (h.freed (by omega))

theorem fails (h : p.conn.Live) {error : Int} (hlast : p.conn.CallbackFrees → p.stack = []) : Kept (p.fails error) := by
  obtain ⟨hmis, howned, hlive⟩ := h.rpcError error
  refine ⟨hmis, howned, fun hzero => ?_⟩
  by_cases hfrees : p.conn.CallbackFrees
  · exact ⟨hlast hfrees, error, rfl⟩
  · have hpos := (hlive hfrees).1
    change (p.conn.rpcError error).refcnt = 0 at hzero
    omega

theorem leave (h : p.conn.Live) {op : Op} {error : Int} (hlast : p.conn.CallbackFrees → op.LastUse p.stack) :
    Kept (p.leave op error) := by
  match op with
  | .dispatch =>
    refine fails h fun hfrees => ?_
    rcases hlast hfrees with hop | ⟨hstack, -⟩
    · cases hop
    · exact hstack
  | .loop .sync =>
    refine fails h fun hfrees => ?_
    rcases hlast hfrees with hop | ⟨hstack, -⟩
    · cases hop
    · exact hstack
  | .loop .dispatchSync => exact of_live h
  | .loop (.wait call) =>
    have hfrees : ¬p.conn.CallbackFrees := by
      intro hfrees
      rcases hlast hfrees with hop | ⟨-, hwaits⟩
      · cases hop
      · cases hwaits
    exact of_live (((h.rpcError _).2.2 hfrees).access rfl rfl)

theorem rpcDispatchEnd (h : p.conn.Live) {op : Op} {ret : Int}
    (hlast : p.conn.CallbackFrees → 0 ≤ ret ∨ op.LastUse p.stack) : Kept (p.rpcDispatchEnd op ret) := by
  have hlow : p.conn.lowerDispatch.Live := h.access rfl rfl
  by_cases hneg : ret < 0
  · rw [Party.rpcDispatchEnd_neg hneg]
    refine leave (p := { p with conn := p.conn.lowerDispatch }) hlow fun hfrees => ?_
    rcases hlast hfrees with hret | hop
    · omega
    · exact hop
  · cases op with
    | dispatch =>
      rw [Party.rpcDispatchEnd_dispatch hneg]
      exact of_live hlow
    | loop l =>
      rw [Party.rpcDispatchEnd_loop hneg]
      exact of_live hlow

theorem recvMarker (h : p.conn.Live) {l : Loop} {tag : Except Err Int32} (hlast : p.conn.CallbackFrees →
    (∃ m, tag = .ok m ∧ ∀ error, tagAction p.conn l.expected m ≠ .fail error) ∨ (Op.loop l).LastUse p.stack) :
    Kept (p.recvMarker l tag) := by
  cases tag with
  | error error =>
    refine leave h fun hfrees => ?_
    rcases hlast hfrees with ⟨m, hm, -⟩ | hop
    · cases hm
    · exact hop
  | ok tag =>
    cases ht : tagAction p.conn l.expected tag with
    | fail error =>
      rw [Party.recvMarker_fail ht]
      refine leave h fun hfrees => ?_
      rcases hlast hfrees with ⟨m, hm, hne⟩ | hop
      · cases hm
        exact absurd ht (hne error)
      · exact hop
    | noteSync =>
      rw [Party.recvMarker_noteSync ht]
      exact of_live (h.access rfl rfl)
    | dispatch =>
      rw [Party.recvMarker_dispatch ht]
      exact of_live (h.access rfl rfl)
    | done =>
      rw [Party.recvMarker_done ht]
      match l with
      | .sync => exact of_live (h.access rfl rfl)
      | .dispatchSync => exact of_live h
      | .wait call => exact of_live h

theorem recvHead (h : p.conn.Live) {op : Op} {head : Except Err (Call × Int32)} (hlast : p.conn.CallbackFrees →
    (∃ call m, head = .ok (call, m) ∧ p.methods.has m = true) ∨ op.LastUse p.stack) : Kept (p.recvHead op head) := by
  cases head with
  | error error =>
    refine rpcDispatchEnd h fun hfrees => Or.inr ?_
    rcases hlast hfrees with ⟨call, m, hm, -⟩ | hop
    · cases hm
    · exact hop
  | ok head =>
    obtain ⟨call, method⟩ := head
    by_cases hhas : p.methods.has method = true
    · rw [Party.recvHead_has hhas]
      exact of_live h
    · rw [Party.recvHead_hasnot hhas]
      refine rpcDispatchEnd h fun hfrees => Or.inr ?_
      rcases hlast hfrees with ⟨call, m, hm, hhas'⟩ | hop
      · cases hm
        exact absurd hhas' hhas
      · exact hop

theorem handlerReturns (h : p.conn.Live) {f : Frame} {rest : List Frame} {code : Int} {sent : Sent}
    (hlast : p.conn.CallbackFrees → 0 ≤ code ∨ f.op.LastUse rest) :
    Kept (p.handlerReturns (A := A) f rest code sent).1 := by
  have hpositive := f.positive
  have hend {ret : Int} (hret : p.conn.CallbackFrees → 0 ≤ ret ∨ f.op.LastUse rest) :
    Kept ({ p with stack := rest }.rpcDispatchEnd f.op ret) := rpcDispatchEnd (p := { p with stack := rest }) h hret
  unfold Party.handlerReturns
  split
  · exact hend fun _ => Or.inl (by omega)
  · split
    · rename_i hrelayed
      have hneg : code < 0 := by
        simp only [Party.relayed, Bool.or_eq_true, beq_iff_eq] at hrelayed
        rcases hrelayed with (rfl | rfl) | rfl <;> decide
      have hop : p.conn.CallbackFrees → f.op.LastUse rest := by
        intro hfrees
        rcases hlast hfrees with hcode | hop
        · omega
        · exact hop
      cases sent with
      | error error => exact hend fun hfrees => Or.inr (hop hfrees)
      | ok => exact hend fun hfrees => Or.inr (hop hfrees)
    · exact hend hlast

theorem unref (h : p.conn.Live) (hheld : (if p.conn.owned then 1 else 0) < p.conn.refcnt) {ret : Int}
    (hctl : p.ctl = .user ret) (hlast : p.conn.refcnt = 1 → p.stack = []) : Kept { p with conn := p.conn.unref } := by
  have htouch : p.conn.touch.Live := h.access rfl rfl
  refine ⟨htouch.2, fun howned => ?_, fun hzero => ?_⟩
  · change p.conn.owned = true at howned
    rw [howned, if_pos rfl] at hheld
    change 0 < p.conn.refcnt - 1
    omega
  · have hpos := h.1
    change p.conn.refcnt - 1 = 0 at hzero
    exact ⟨hlast (by omega), ret, hctl⟩

end Kept

section
variable {A : Type} {p q : Party}

theorem kept_step {e : Event A} {words : List (Word A)} (h : Kept p) (hholds : p.Holds e) (hlast : p.Outlasts e)
    (hs : p.step e = some (q, words)) : Kept q := by
  have hlast' : p.conn.CallbackFrees → p.LastUse e := fun hfrees => hlast (Or.inl hfrees)
  have hheld (hpos : 0 < p.conn.refcnt) : p.conn.Live := ⟨hpos, h.unmisused⟩
  have hruns {ctl : Ctl} (hctl : p.ctl = ctl) (hne : ∀ ret, ctl ≠ .user ret) : p.conn.Live :=
    h.live fun ⟨_, ret, huser⟩ => hne ret (hctl.symm.trans huser)
  have hhandles {f : Frame} {rest : List Frame} (hstack : p.stack = f :: rest) : p.conn.Live :=
    h.live fun ⟨hnil, _⟩ => absurd (hstack.symm.trans hnil) (List.cons_ne_nil _ _)
  obtain ⟨r, hr⟩ : ∃ r, r = (q, words) := ⟨_, rfl⟩
  rw [← hr] at hs
  obtain rfl : r.1 = q := by rw [hr]
  cases Party.steps_of_step hs with
  | @invoke ret call method values sent hctl =>
    simp only [Party.Holds, hctl] at hholds
    have hlive := hheld hholds
    unfold Party.rpcMethodInvoke
    split
    · exact .of_live (hlive.access rfl rfl)
    · rename_i hopen
      have hraise : p.conn.raiseInvoke.Live := hlive.access rfl rfl
      cases sent with
      | error error =>
        refine Kept.fails (p := { p with conn := p.conn.raiseInvoke }) hraise fun hfrees => ?_
        rcases hlast' hfrees with hclosed | hsent | hstack
        · exact absurd hclosed hopen
        · cases hsent
        · exact hstack
      | ok => exact .of_live hraise
  | waitForReply hctl =>
    have hlive := hruns hctl nofun
    unfold Party.rpcMethodWaitForReply
    split <;> exact .of_live (hlive.access rfl rfl)
  | @dispatch ret tag sent hctl =>
    simp only [Party.Holds, hctl] at hholds
    have hlive := hheld hholds
    cases tag with
    | error error =>
      refine Kept.fails hlive fun hfrees => ?_
      rcases hlast' hfrees with htag | htag | hstack
      · cases htag
      · cases htag
      · exact hstack
    | ok tag =>
      by_cases hsync : tag = RpcMessage.sync
      · rw [hsync, Party.rpcDispatch_sync]
        cases sent <;> exact .of_live (hlive.access rfl rfl)
      · by_cases hstart : tag = RpcMessage.start
        · rw [hstart, Party.rpcDispatch_start]
          exact .of_live (hlive.access rfl rfl)
        · rw [Party.rpcDispatch_other hsync hstart]
          refine Kept.fails hlive fun hfrees => ?_
          rcases hlast' hfrees with htag | htag | hstack
          · exact absurd (Except.ok.inj htag) hsync
          · exact absurd (Except.ok.inj htag) hstart
          · exact hstack
  | @dispatchPendingSync ret readable sent hctl =>
    simp only [Party.Holds, hctl] at hholds
    have hlive := hheld hholds
    have hclear : p.conn.clearPendingSync.Live := hlive.access rfl rfl
    unfold Party.rpcDispatchPendingSync
    split
    · exact .of_live (hlive.access rfl rfl)
    · split
      · cases sent <;> exact .of_live (hclear.access rfl rfl)
      · exact .of_live hlive
  | @sync ret sent hctl =>
    simp only [Party.Holds, hctl] at hholds
    have hlive := hheld hholds
    unfold Party.rpcSync
    split
    · exact .of_live hlive
    · rename_i hnot
      cases sent with
      | error error =>
        refine Kept.fails hlive fun hfrees => ?_
        rcases hlast' hfrees with hsync | hsent | hstack
        · exact absurd hsync hnot
        · cases hsent
        · exact hstack
      | ok => exact .of_live (hlive.access rfl rfl)
  | @endSync ret sent hctl =>
    simp only [Party.Holds, hctl] at hholds
    have hlive := hheld hholds
    unfold Party.rpcEndSync
    split
    · rename_i hnot
      refine Kept.fails hlive fun hfrees => ?_
      rcases hlast' hfrees with ⟨hsync, -⟩ | hstack
      · exact absurd (hsync.symm.trans hnot) (by decide)
      · exact hstack
    · cases sent with
      | error error =>
        refine Kept.fails hlive fun hfrees => ?_
        rcases hlast' hfrees with ⟨-, hsent⟩ | hstack
        · cases hsent
        · exact hstack
      | ok => exact .of_live (hlive.access rfl rfl)
  | getArgs hctl =>
    simp only [Party.Holds, hctl] at hholds
    have hlive := h.live fun ⟨hnil, _⟩ => hholds hnil
    unfold Party.rpcMethodGetArgs
    split <;> exact .of_live (hlive.access rfl rfl)
  | @sendReply ret f rest values sent hctl hstack =>
    have hlive := hhandles hstack
    unfold Party.rpcMethodSendReply
    split
    · exact .of_live (hlive.access rfl rfl)
    · rename_i hopen
      cases sent with
      | error error =>
        have hfrees : ¬p.conn.CallbackFrees := by
          intro hfrees
          rcases hlast' hfrees with hclosed | hsent
          · exact hopen hclosed
          · cases hsent
        exact .of_live (((hlive.rpcError _).2.2 hfrees).access rfl rfl)
      | ok => exact .of_live (hlive.access rfl rfl)
  | ret _ hstack => exact Kept.handlerReturns (hhandles hstack) fun hfrees => hlast' hfrees _ _ hstack
  | recvMarker hctl => exact Kept.recvMarker (hruns hctl nofun) fun hfrees => hlast' hfrees _ hctl
  | recvHead hctl => exact Kept.recvHead (hruns hctl nofun) fun hfrees => hlast' hfrees _ hctl
  | @recvArgs f rest values hctl hstack =>
    have hlive := hhandles hstack
    cases values with
    | error error => exact Kept.fails hlive fun hfrees => absurd (hlast' hfrees) nofun
    | ok => exact .of_live hlive
  | @recvBody call values hctl =>
    have hlive := hruns hctl nofun
    cases values with
    | error error =>
      have hfrees : ¬p.conn.CallbackFrees := fun hfrees => absurd (hlast' hfrees) nofun
      exact .of_live (((hlive.rpcError _).2.2 hfrees).access rfl rfl)
    | ok => exact .of_live (hlive.access rfl rfl)
  | ref hctl =>
    simp only [Party.Holds, hctl] at hholds
    have htouch : p.conn.touch.Live := (hheld hholds).access rfl rfl
    exact .of_live ⟨Nat.succ_pos _, htouch.2⟩
  | unref hctl =>
    simp only [Party.Holds, hctl] at hholds
    have hpos : 0 < p.conn.refcnt := Nat.lt_of_le_of_lt (Nat.zero_le _) hholds
    exact Kept.unref (hheld hpos) hholds hctl fun hone => hlast (Or.inr ⟨rfl, hone⟩)

/-! ### Runs -/

/-- A connection that is used through references. -/
def heldConnection (A : Type) : Machine Party (Event A) := (partyMachine A).restrict Party.Holds

/-- A connection the last reference to which goes last. -/
def lastingConnection (A : Type) : Machine Party (Event A) :=
  (partyMachine A).restrict fun p e => p.Holds e ∧ p.Outlasts e

theorem kept_of_reachable (h : (lastingConnection A).Reachable p) : Kept p := by
  refine h.invariant Kept ?_ ?_
  · rintro p ⟨hfresh, -⟩
    exact .of_live ⟨hfresh.referenced, hfresh.unmisused⟩
  · rintro p e q - hk ⟨⟨hholds, hlast⟩, words, hs⟩
    exact kept_step hk hholds hlast hs

/-- No function reads or writes the connection after its last reference. -/
theorem unmisused_of_reachable (h : (lastingConnection A).Reachable p) : p.conn.misused = false :=
  (kept_of_reachable h).unmisused

end

/-! ### The connection that goes first -/

/-- The viewer dies while the wrapper waits for it with the one reference of `g_rpc_connection`: the callback
    frees the connection, and `rpc_method_wait_for_reply` lowers its depth. -/
theorem freed_while_waiting : ∃ p, (heldConnection Unit).Reachable p ∧ p.conn.refcnt = 0 ∧ p.conn.misused = true := by
  have h₀ := Machine.Reachable.init (m := heldConnection Unit) (Party.opened_init (A := Unit) .client .killPlugin)
  have h₁ := h₀.next (.invoke ⟨.client, 0⟩ 1 () (.ok ())) ⟨Nat.one_pos, _, rfl⟩
  have h₂ := h₁.next (.waitForReply) ⟨trivial, _, rfl⟩
  have h₃ := h₂.next (.recvMarker (.error ⟨RpcError.connectionClosed, by decide⟩)) ⟨trivial, _, rfl⟩
  exact ⟨_, h₃, rfl, rfl⟩

/-- The same with a plugin instance, which lives on. -/
theorem kept_while_waiting : ∃ p : Party, p.conn.refcnt = 1 ∧ p.conn.owned = false ∧ p.conn.callbacks = 1 ∧
    p.conn.misused = false := by
  have h₀ := Machine.Reachable.init (m := lastingConnection Unit) (Party.opened_init (A := Unit) .client .killPlugin)
  have h₁ := h₀.next (.ref) ⟨⟨Nat.one_pos, fun _ => trivial⟩, _, rfl⟩
  have h₂ := h₁.next (.invoke ⟨.client, 0⟩ 1 () (.ok ())) ⟨⟨Nat.two_pos, fun _ => Or.inr (Or.inl rfl)⟩, _, rfl⟩
  have h₃ := h₂.next (.waitForReply) ⟨⟨trivial, fun _ => trivial⟩, _, rfl⟩
  have h₄ := h₃.next (.recvMarker (.error ⟨RpcError.connectionClosed, by decide⟩)) ⟨⟨trivial, by
    rintro (⟨hone, -⟩ | ⟨he, -⟩)
    · exact absurd hone (by decide)
    · cases he⟩, _, rfl⟩
  exact ⟨_, rfl, rfl, rfl, unmisused_of_reachable h₄⟩

end NSPluginWrapper
