import NSPluginWrapper.Theorems.Stubs

/-! References: what each object's count stands for, and the one time the reference of a stub is given back. -/

namespace NSPluginWrapper
open Lib

namespace Peer
variable {p q : Peer} {o id : Nat}

/-- The stubs in the table that hold the object. -/
def stubbed (p : Peer) (o : Nat) : Nat := p.stubs.countP fun s => s.isLive && s.npobject == o

/-- Each object's count is of the references its end's code has and of the stubs that hold it, and each stub gave its
    reference back once if it left the table, else never. -/
structure Accounted (p : Peer) : Prop where
  objects : ∀ o x, p.objects[o]? = some x → x.referenceCount = x.held + p.stubbed o
  stubs : ∀ s ∈ p.stubs, s.npobject < p.objects.length ∧ s.releases = (!s.isLive).toNat

theorem accounted_new : new.Accounted := ⟨nofun, nofun⟩

theorem Accounted.of_eq (h : p.Accounted) (ho : q.objects = p.objects) (hs : q.stubs = p.stubs) : q.Accounted := by
  refine ⟨fun o x hx => ?_, fun s hm => ?_⟩
  · rw [ho] at hx
    rw [stubbed, hs]
    exact h.objects o x hx
  · rw [hs] at hm
    rw [ho]
    exact h.stubs s hm

/-! ### Objects -/

/-- What an update of one object keeps, if it moves the count as the references it stands for move. -/
theorem Accounted.onObject (h : p.Accounted) {f : NPObject → NPObject}
    (hf : ∀ x, p.objects[o]? = some x → x.referenceCount = x.held + p.stubbed o → (f x).referenceCount = (f x).held + p.stubbed o) :
    (p.onObject o f).Accounted := by
  refine ⟨fun o' y hy => ?_, fun s hm => ?_⟩
  · change (p.objects.modify o f)[o']? = some y at hy
    change y.referenceCount = y.held + p.stubbed o'
    by_cases ho : o = o'
    · subst ho
      rw [List.getElem?_modify_eq] at hy
      obtain ⟨x, hx, rfl⟩ := Option.map_eq_some_iff.mp hy
      exact hf x hx (h.objects o x hx)
    · exact h.objects o' y (by simpa [ho] using hy)
  · change s.npobject < (p.objects.modify o f).length ∧ _
    rw [List.length_modify]
    exact h.stubs s hm

theorem onObject_onObject (f g : NPObject → NPObject) :
    (p.onObject o f).onObject o g = p.onObject o fun x => g (f x) := by
  unfold onObject
  simp [List.modify_modify_eq, Function.comp_def]

theorem Accounted.npnCreateObject (h : p.Accounted) : p.npnCreateObject.Accounted := by
  refine ⟨fun o x hx => ?_, fun s hm => ?_⟩
  · change (p.objects ++ [(⟨1, 1⟩ : NPObject)])[o]? = some x at hx
    change x.referenceCount = x.held + p.stubbed o
    rw [List.getElem?_append] at hx
    split at hx
    · exact h.objects o x hx
    · rename_i hge
      have hnone : p.stubbed o = 0 := by
        refine List.countP_eq_zero.mpr fun s hm => ?_
        have := (h.stubs s hm).1
        simp only [Bool.and_eq_true, beq_iff_eq, not_and]
        omega
      obtain ⟨-, rfl⟩ := List.getElem?_eq_some_iff.mp hx
      simp [hnone]
  · obtain ⟨hlt, hrel⟩ := h.stubs s hm
    refine ⟨?_, hrel⟩
    change s.npobject < (p.objects ++ [(⟨1, 1⟩ : NPObject)]).length
    rw [List.length_append]
    omega

/-- A reference more, for the end's own code. -/
theorem Accounted.retain (h : p.Accounted) (o : Nat) : ((p.npnRetainObject o).take o).Accounted := by
  rw [npnRetainObject, take, onObject_onObject]
  refine h.onObject fun x _ hx => ?_
  simp only
  omega

/-- One less. -/
theorem Accounted.release (h : p.Accounted) (hhas : p.Has (.local o)) : ((p.npnReleaseObject o).give o).Accounted := by
  obtain ⟨x₀, hx₀, hpos⟩ := hhas
  rw [npnReleaseObject, give, onObject_onObject]
  refine h.onObject fun x hget hx => ?_
  cases hx₀.symm.trans hget
  simp only
  omega

/-! ### Stubs -/

/-- A new stub holds its object. -/
theorem Accounted.npobjectCreateStub (h : p.Accounted) (ho : o < p.objects.length) : (p.npobjectCreateStub o).1.Accounted := by
  have hmore : ∀ o', (p.npobjectCreateStub o).1.stubbed o' = p.stubbed o' + (o == o').toNat := fun o' => by
    change (p.stubs ++ [(⟨o, true, 0⟩ : NPObjectStub)]).countP _ = _
    rw [List.countP_append, List.countP_singleton]
    cases hoo : o == o' <;> simp [stubbed]
  refine ⟨fun o' y hy => ?_, fun s hm => ?_⟩
  · rw [hmore]
    change (p.objects.modify o _)[o']? = some y at hy
    by_cases hoo : o = o'
    · subst hoo
      rw [List.getElem?_modify_eq] at hy
      obtain ⟨x, hx, rfl⟩ := Option.map_eq_some_iff.mp hy
      have := h.objects o x hx
      simp only [beq_self_eq_true, Bool.toNat_true]
      omega
    · rw [beq_false_of_ne hoo, Bool.toNat_false, Nat.add_zero]
      exact h.objects o' y (by simpa [hoo] using hy)
  · change s ∈ p.stubs ++ [(⟨o, true, 0⟩ : NPObjectStub)] at hm
    change s.npobject < (p.objects.modify o _).length ∧ _
    rw [List.length_modify]
    rcases List.mem_append.mp hm with hm | hm
    · exact h.stubs s hm
    · cases List.mem_singleton.mp hm
      exact ⟨ho, rfl⟩

/-- A stub that leaves the table gives its reference back. -/
theorem Accounted.npobjectDestroyStubObj (h : p.Accounted) {stub : NPObjectStub} (hl : p.npobjectLookupStub id = some stub) :
    (p.npobjectDestroyStubObj id stub).Accounted := by
  cases id with
  | zero => cases hl
  | succ i =>
    obtain ⟨hget, hlive⟩ := Option.filter_eq_some_iff.mp hl
    have hless : ∀ o, (p.npobjectDestroyStubObj (i + 1) stub).stubbed o + (stub.npobject == o).toNat = p.stubbed o := by
      intro o
      have := countP_modify (f := fun s : NPObjectStub => { s with isLive := false, releases := s.releases + 1 })
        (P := fun s => s.isLive && s.npobject == o) hget
      simp only [hlive, Bool.true_and, Bool.false_and, Bool.toNat_false, Nat.add_zero] at this
      exact this
    refine ⟨fun o y hy => ?_, ?_⟩
    · change (p.objects.modify stub.npobject _)[o]? = some y at hy
      have hcount := hless o
      by_cases ho : stub.npobject = o
      · subst ho
        rw [List.getElem?_modify_eq] at hy
        obtain ⟨x, hx, rfl⟩ := Option.map_eq_some_iff.mp hy
        have := h.objects _ x hx
        simp only [beq_self_eq_true, Bool.toNat_true] at hcount ⊢
        omega
      · rw [beq_false_of_ne ho, Bool.toNat_false] at hcount
        have := h.objects o y (by simpa [ho] using hy)
        omega
    · change ∀ s ∈ p.stubs.modify i _, s.npobject < (p.objects.modify stub.npobject _).length ∧ _
      rw [List.length_modify]
      refine forall_mem_modify (fun j s _ hj => h.stubs s (List.mem_of_getElem? hj)) fun s hs => ?_
      cases hget.symm.trans hs
      obtain ⟨hlt, hrel⟩ := h.stubs stub (List.mem_of_getElem? hget)
      refine ⟨hlt, ?_⟩
      rw [hlive] at hrel
      simp [hrel]

theorem Accounted.npclassHandleDeallocate (h : p.Accounted) (id : Nat) : (p.npclassHandleDeallocate id).Accounted := by
  unfold Peer.npclassHandleDeallocate
  split
  · exact h
  · rename_i hl
    exact h.npobjectDestroyStubObj hl

/-! ### Acts -/

theorem Accounted.same (h : p.Accounted) (hs : p.SameOwn q) : q.Accounted := h.of_eq hs.1 hs.2

theorem Accounted.send (h : p.Accounted) (hhas : p.Has (.local o)) (passRef : Bool) :
    (p.doSendNPObjectHelper passRef (some (.local o))).1.Accounted := by
  obtain ⟨x, hx, hpos⟩ := hhas
  have hstub := h.npobjectCreateStub (List.getElem?_eq_some_iff.mp hx).1
  cases passRef with
  | false => exact hstub
  | true =>
    refine hstub.release ⟨{ x with referenceCount := x.referenceCount + 1 }, ?_, hpos⟩
    change (p.objects.modify o _)[o]? = _
    rw [List.getElem?_modify_eq, hx]
    rfl

theorem Accounted.act (h : p.Accounted) {a : ObjectAct} (hcan : p.Can a) : (p.act a).1.Accounted := by
  cases a with
  | create => exact h.npnCreateObject
  | retain r =>
    cases r with
    | «local» o => exact h.retain o
    | proxy i => exact h.of_eq rfl rfl
  | release r possible =>
    cases r with
    | «local» o => exact h.release hcan
    | proxy i => exact h.same (releaseProxy_own i possible)
  | send r passRef =>
    rcases r with _ | ⟨o⟩ | ⟨i⟩
    · exact h
    · exact h.send hcan.1 passRef
    · exact h.same (doSendNPObjectHelper_own i passRef)
  | invalidate i possible => exact h.same (gNPClassInvalidate_own i possible)
  | free i => exact h.same (freeProxy_own i)
  | receive => exact h

theorem Accounted.doRecv {m : NPObjectMessage} {generation : Nat} {r : Option NPObjectRef} (h : p.Accounted)
    (hr : p.doRecvNPObjectHelper generation m = some (q, r)) : q.Accounted := by
  cases m with
  | null =>
    cases hr
    exact h
  | senderOwned id target =>
    cases hr
    exact h.of_eq rfl rfl
  | receiverOwned id releaseStub target g =>
    rw [doRecvNPObjectHelper] at hr
    split at hr
    · cases hr
    · rename_i o _
      dsimp only at hr
      split at hr
      · obtain ⟨q₀, hq₀, heq⟩ := Option.map_eq_some_iff.mp hr
        obtain ⟨stub, hl, rfl⟩ := Option.map_eq_some_iff.mp hq₀
        cases heq
        exact (h.retain o).npobjectDestroyStubObj hl
      · cases hr
        exact h.retain o
  | deallocate id =>
    cases hr
    exact h.npclassHandleDeallocate id

theorem Accounted.npruntimeDeactivate (h : p.Accounted) : p.npruntimeDeactivate.Accounted := by
  unfold Peer.npruntimeDeactivate
  refine List.foldlRecOn _ _ (h.of_eq rfl rfl) fun q hq i _ => ?_
  exact Accounted.npclassHandleDeallocate hq (i + 1)

end Peer

/-! ### Runs -/

/-- The accounts of both ends are right in every run, whatever viewers end and start. -/
theorem bridge_accounted {b : Bridge} (h : bridge.Reachable b) (side : ConnectionType) : (b.peer side).Accounted := by
  refine h.invariant (fun b => ∀ side, (b.peer side).Accounted) ?_ ?_ side
  · rintro b rfl side
    exact Peer.accounted_new
  · rintro b e b' - hb ⟨hen, rfl⟩
    have hupdate {sd : ConnectionType} {p : Peer} (hp : p.Accounted) (side : ConnectionType) :
        (Function.update b.peer sd p side).Accounted := by
      rcases eq_or_ne side sd with rfl | hne
      · rwa [Function.update_self]
      · rw [Function.update_of_ne hne]
        exact hb side
    cases e with
    | act sd a =>
      cases a with
      | receive =>
        change ∀ side, ((b.receive sd).peer side).Accounted
        unfold Bridge.receive
        split
        · exact hb
        · dsimp only
          split
          · exact hb
          · rename_i hr
            exact hupdate ((hb sd).doRecv hr)
      | _ => exact hupdate ((hb sd).act hen.2.2.2)
    | kill => exact hupdate (hb .client).npruntimeDeactivate
    | start => exact hupdate Peer.accounted_new

/-! ### Finalized proxies -/

/-- Where a stub is to be released the connection allows it. -/
def ObjectAct.Granted : ObjectAct → Prop
  | .release _ possible | .invalidate _ possible => possible = true
  | _ => True

/-- No proxy is sent once the release of its stub was, and no release is refused. -/
def Bridge.Granted (b : Bridge) (e : BridgeEvent) : Prop := b.Holds e ∧ ∀ side a, e = .act side a → a.Granted

namespace Peer
variable {p q : Peer} {i id : Nat} {x : NPObjectProxy} {f : NPObjectProxy → NPObjectProxy}

/-- A proxy no call can be made on has released its stub. -/
def Paid (p : Peer) : Prop := ∀ x ∈ p.proxies, x.Dead → x.released = true

theorem Paid.onProxy (h : p.Paid)
    (hf : ∀ x, p.proxies[i]? = some x → (x.Dead → x.released = true) → (f x).Dead → (f x).released = true) :
    (p.onProxy i f).Paid := by
  refine forall_mem_modify (fun j x _ hj => h x (List.mem_of_getElem? hj)) fun x hx => ?_
  exact hf x hx (h x (List.mem_of_getElem? hx))

theorem Paid.freeProxy (h : p.Paid) : (p.freeProxy i).Paid := by
  unfold Peer.freeProxy
  split
  · exact h
  · exact h.onProxy fun x _ hx => hx

/-- A release that is not refused is paid, whatever else became of the proxy. -/
theorem Paid.npclassInvokeDeallocate (h : p.Paid) (f : NPObjectProxy → NPObjectProxy) (hx : p.proxies[i]? = some x) :
    ((p.onProxy i f).npclassInvokeDeallocate i true).1.Paid := by
  unfold Peer.npclassInvokeDeallocate
  have hget : (p.onProxy i f).proxies[i]? = some (f x) := by
    rw [Peer.onProxy, List.getElem?_modify_eq, hx]
    rfl
  rw [hget]
  dsimp only
  rw [if_pos rfl]
  refine forall_mem_modify (fun j y hj hy => ?_) fun y _ _ => rfl
  exact h y (List.mem_of_getElem? (by simpa [Peer.onProxy, Ne.symm hj] using hy))

theorem Paid.releaseProxy (h : p.Paid) (hhas : p.Has (.proxy i)) : (p.releaseProxy i true).1.Paid := by
  obtain ⟨x, hx, hcount⟩ := hhas
  unfold Peer.releaseProxy
  rw [hx]
  dsimp only
  split
  · exact h.npclassInvokeDeallocate _ hx
  · rename_i hlast
    refine h.onProxy fun y hy hpaid hdead => hpaid ?_
    cases hx.symm.trans hy
    rcases hdead with hzero | hv
    · refine .inr ?_
      by_contra hv
      exact hlast ⟨by simp only at hzero; omega, by simpa using hv⟩
    · exact .inr hv

theorem Paid.gNPClassInvalidate (h : p.Paid) : (p.gNPClassInvalidate i true).1.Paid := by
  unfold Peer.gNPClassInvalidate
  split
  · exact h
  · rename_i hx
    split
    · exact h
    · exact h.npclassInvokeDeallocate _ hx

theorem Paid.send (h : p.Paid) {r : Option NPObjectRef} {passRef : Bool} (hcan : p.Can (.send r passRef)) :
    (p.doSendNPObjectHelper passRef r).1.Paid := by
  rcases r with _ | ⟨o⟩ | ⟨i⟩
  · exact h
  · cases passRef <;> exact h
  · obtain ⟨x, hx, hcount⟩ := hcan.1
    unfold Peer.doSendNPObjectHelper
    dsimp only
    rw [hx]
    dsimp only
    split
    · exact h
    · split
      · exact (h.onProxy fun _ _ _ _ => rfl).freeProxy
      · rename_i hmore
        refine h.onProxy fun y hy hpaid hdead => hpaid ?_
        cases hx.symm.trans hy
        rcases hdead with hzero | hv
        · simp only at hzero
          omega
        · exact .inr hv

theorem Paid.act (h : p.Paid) {a : ObjectAct} (hcan : p.Can a) (hg : a.Granted) : (p.act a).1.Paid := by
  cases a with
  | retain r =>
    cases r with
    | «local» o => exact h
    | proxy i =>
      obtain ⟨x, hx, hcount⟩ := hcan
      refine h.onProxy fun y hy hpaid hdead => hpaid (.inr ?_)
      exact hdead.resolve_left (Nat.succ_ne_zero _)
  | release r possible =>
    cases hg
    cases r with
    | «local» o => exact h
    | proxy i => exact h.releaseProxy hcan
  | send r passRef => exact h.send hcan
  | invalidate i possible =>
    cases hg
    exact h.gNPClassInvalidate
  | free i => exact h.freeProxy
  | create | receive => exact h

theorem Paid.doRecv {m : NPObjectMessage} {generation : Nat} {r : Option NPObjectRef} (h : p.Paid)
    (hr : p.doRecvNPObjectHelper generation m = some (q, r)) : q.Paid := by
  rcases doRecv_proxies hr with ⟨id, target, -, hp, -⟩ | ⟨-, hp, -⟩
  · intro x hx hdead
    rw [hp] at hx
    rcases List.mem_append.mp hx with hx | hx
    · exact h x hx hdead
    · cases List.mem_singleton.mp hx
      rcases hdead with h₀ | h₀ <;> cases h₀
  · intro x hx
    exact h x (hp ▸ hx)

end Peer

theorem bridge_paid {b : Bridge} (h : (livePeers.restrict Bridge.Granted).Reachable b) (side : ConnectionType) :
    (b.peer side).Paid := by
  refine h.invariant (fun b => ∀ side, (b.peer side).Paid) ?_ ?_ side
  · rintro b rfl side
    exact nofun
  · rintro b e b' - hb ⟨⟨-, hg⟩, ⟨sd, a, rfl⟩, hen, rfl⟩
    have hupdate {p : Peer} (hp : p.Paid) (side : ConnectionType) : (Function.update b.peer sd p side).Paid := by
      rcases eq_or_ne side sd with rfl | hne
      · rwa [Function.update_self]
      · rw [Function.update_of_ne hne]
        exact hb side
    cases a with
    | receive =>
      change ∀ side, ((b.receive sd).peer side).Paid
      unfold Bridge.receive
      split
      · exact hb
      · dsimp only
        split
        · exact hb
        · rename_i hr
          exact hupdate ((hb sd).doRecv hr)
    | _ => exact hupdate ((hb sd).act hen.2.2.2 (hg sd _ rfl))

/-! ### The accounts of two ends -/

/-- What `p` and the proxies of `q` for its stubs come to. A stub in the table has one holder: a proxy that did not
    release it, a message that tells of it, or a message that releases it; a valid proxy in use is such a holder, and
    the only one. Each stub gives its reference back once, when it leaves the table, and each object's count is of
    the references of its own side and of the stubs that hold it. -/
structure Accounts (p q : Peer) (incoming outgoing : List NPObjectMessage) : Prop where
  holders : ∀ id, (p.npobjectLookupStub id).isSome.toNat =
    q.holding id + outgoing.countP (·.creates id) + incoming.countP (·.releases id)
  stubOf : ∀ (i : Nat) (x : NPObjectProxy), q.proxies[i]? = some x → ¬x.Dead → p.npobjectLookupLocal x.id = some x.target ∧ q.holding x.id = 1
  only : ∀ (i j : Nat) (x y : NPObjectProxy), q.proxies[i]? = some x → q.proxies[j]? = some y → ¬x.Dead → ¬y.Dead → x.id = y.id → i = j
  releases : ∀ s ∈ p.stubs, s.releases = (!s.isLive).toNat
  counts : ∀ (o : Nat) (x : NPObject), p.objects[o]? = some x → x.referenceCount = x.held + p.stubbed o

theorem Tied.balanced {p q : Peer} {incoming outgoing : List NPObjectMessage} (h : Tied p q incoming outgoing)
    (hs : q.Spent) (ha : p.Accounted) : Accounts p q incoming outgoing where
  holders := h.held
  stubOf i x hx hd := by
    have hr : x.released = false := by
      by_contra hr
      exact hd (hs x (List.mem_of_getElem? hx) (by simpa using hr))
    exact ⟨(h.of_holder hx hr).2, (h.of_holder hx hr).1.1⟩
  only i j x y hx hy hdx hdy hid := by
    have hrx : x.released = false := by
      by_contra hr
      exact hdx (hs x (List.mem_of_getElem? hx) (by simpa using hr))
    have hry : y.released = false := by
      by_contra hr
      exact hdy (hs y (List.mem_of_getElem? hy) (by simpa using hr))
    refine eq_of_countP_le_one (P := fun z => !z.released && z.id == x.id) ?_ hx hy ?_ ?_
    · exact Nat.le_of_eq (h.of_holder hx hrx).1.1
    · simp [hrx]
    · simp [hry, hid]
  releases s hm := (ha.stubs s hm).2
  counts := ha.objects

/-- With every stub released and nothing on its way no stub is left, and every reference is one of the object's own
    side. -/
theorem Accounts.drained {p q : Peer} (h : Accounts p q [] []) (hq : ∀ x ∈ q.proxies, x.released = true) :
    (∀ id, p.npobjectLookupStub id = none) ∧
      ∀ (o : Nat) (x : NPObject), p.objects[o]? = some x → x.referenceCount = x.held := by
  have hnone : ∀ id, p.npobjectLookupStub id = none := by
    intro id
    have hheld := h.holders id
    have hzero : q.holding id = 0 := List.countP_eq_zero.mpr fun x hx => by simp [hq x hx]
    rw [hzero] at hheld
    cases hl : p.npobjectLookupStub id with
    | none => rfl
    | some stub => simp [hl] at hheld
  refine ⟨hnone, fun o x hx => ?_⟩
  have hstubbed : p.stubbed o = 0 := by
    refine List.countP_eq_zero.mpr fun s hm => ?_
    obtain ⟨i, hi⟩ := List.mem_iff_getElem?.mp hm
    have hdead := hnone (i + 1)
    rw [Peer.npobjectLookupStub, hi] at hdead
    simp_all [Option.filter]
  rw [h.counts o x hx, hstubbed, Nat.add_zero]

/-- The accounts of two live ends are balanced whatever they do, as long as no proxy is sent whose stub was released.
    Where no release is refused either, no stub and no reference for one is left once all proxies are finalized and
    nothing is on its way. -/
theorem references_balanced {b : Bridge} (h : (livePeers.restrict Bridge.Holds).Reachable b) (side : ConnectionType) :
    Accounts (b.peer side) (b.peer side.other) (b.incoming side) (b.incoming side.other) ∧
    ((livePeers.restrict Bridge.Granted).Reachable b → (∀ side, b.incoming side = []) →
      (∀ x ∈ (b.peer side.other).proxies, x.referenceCount = 0) →
      (∀ id, (b.peer side).npobjectLookupStub id = none) ∧
      ∀ (o : Nat) (x : NPObject), (b.peer side).objects[o]? = some x → x.referenceCount = x.held) := by
  have hkept := bridge_kept h
  have haccounted := bridge_accounted h.of_restrict.of_restrict side
  have hbalanced := (hkept.tied side).balanced (hkept.spent side.other) haccounted
  refine ⟨hbalanced, fun hg hempty hfinal => ?_⟩
  rw [hempty side, hempty side.other] at hbalanced
  exact hbalanced.drained fun x hx => bridge_paid hg side.other x hx (.inl (hfinal x hx))

/-- An object of the viewer goes to the browser, which finalizes its proxy: the stub goes too. -/
theorem finalized_proxy_balanced : ∃ b, livePeers.Reachable b ∧ (b.peer .server).stubs = [⟨0, false, 1⟩] ∧
    ∀ id, (b.peer .server).npobjectLookupStub id = none := by
  have h₀ := Machine.Reachable.init (m := livePeers.restrict Bridge.Granted) (s := .joined) rfl
  have h₁ := h₀.next (.act .server .create)
    ⟨⟨trivial, fun _ _ he => by cases he; trivial⟩, ⟨_, _, rfl⟩, ⟨rfl, fun _ => rfl, nofun, trivial⟩, rfl⟩
  have h₂ := h₁.next (.act .server (.send (some (.local 0)) false)) ⟨⟨trivial, fun _ _ he => by cases he; trivial⟩,
    ⟨_, _, rfl⟩, ⟨rfl, fun _ => rfl, fun _ => rfl, ⟨_, rfl, by decide⟩, fun _ _ => by decide⟩, rfl⟩
  have h₃ := h₂.next (.act .client .receive)
    ⟨⟨trivial, fun _ _ he => by cases he; trivial⟩, ⟨_, _, rfl⟩, ⟨rfl, nofun, nofun, trivial⟩, rfl⟩
  have h₄ := h₃.next (.act .client (.release (.proxy 0) true)) ⟨⟨trivial, fun _ _ he => by cases he; rfl⟩,
    ⟨_, _, rfl⟩, ⟨rfl, nofun, fun _ => rfl, ⟨_, rfl, by decide⟩⟩, rfl⟩
  have h₅ := h₄.next (.act .server .receive)
    ⟨⟨trivial, fun _ _ he => by cases he; trivial⟩, ⟨_, _, rfl⟩, ⟨rfl, fun _ => rfl, nofun, trivial⟩, rfl⟩
  have h := references_balanced (h₅.restrict_mono fun _ _ hg => hg.1) .server
  refine ⟨_, h₅.of_restrict, rfl, (h.2 h₅ (fun side => ?_) fun x hx => ?_).1⟩
  · cases side <;> rfl
  · cases List.mem_singleton.mp hx
    rfl

/-- Refused, the release of the stub is never sent, and the stub stays with its reference. -/
theorem refused_release_leaks : ∃ b, livePeers.Reachable b ∧ (∀ side, b.incoming side = []) ∧
    (∀ side, ∀ x ∈ (b.peer side).proxies, x.isFreed = true) ∧ (b.peer .server).npobjectLookupStub 1 = some ⟨0, true, 0⟩ := by
  have h₀ := Machine.Reachable.init (m := livePeers) (s := .joined) rfl
  have h₁ := h₀.next (.act .server .create) ⟨⟨_, _, rfl⟩, ⟨rfl, fun _ => rfl, nofun, trivial⟩, rfl⟩
  have h₂ := h₁.next (.act .server (.send (some (.local 0)) false))
    ⟨⟨_, _, rfl⟩, ⟨rfl, fun _ => rfl, fun _ => rfl, ⟨_, rfl, by decide⟩, fun _ _ => by decide⟩, rfl⟩
  have h₃ := h₂.next (.act .client .receive) ⟨⟨_, _, rfl⟩, ⟨rfl, nofun, nofun, trivial⟩, rfl⟩
  have h₄ := h₃.next (.act .client (.release (.proxy 0) false))
    ⟨⟨_, _, rfl⟩, ⟨rfl, nofun, nofun, ⟨_, rfl, by decide⟩⟩, rfl⟩
  have h₅ := h₄.next (.act .client (.free 0)) ⟨⟨_, _, rfl⟩, ⟨rfl, nofun, nofun, ⟨_, rfl, rfl, rfl⟩⟩, rfl⟩
  refine ⟨_, h₅, fun side => ?_, fun side x hx => ?_, rfl⟩
  · cases side <;> rfl
  · cases side with
    | server => cases hx
    | client =>
      cases List.mem_singleton.mp hx
      rfl

end NSPluginWrapper
