import NSPluginWrapper.Theorems.Objects

/-! What an end's acts do to the proxies it has and to their table, and which messages they send. -/

namespace NSPluginWrapper
open Lib

namespace Peer
variable {p q : Peer} {i : Nat} {x : NPObjectProxy}

/-! ### What an act makes of the proxies -/

/-- No proxy comes or goes, and each ages. -/
def Ages (p q : Peer) : Prop :=
  q.proxies.length = p.proxies.length ∧
    ∀ (i : Nat) (x : NPObjectProxy), p.proxies[i]? = some x → ∃ y, q.proxies[i]? = some y ∧ x.Ages y

theorem Ages.of_eq (h : q.proxies = p.proxies) : p.Ages q :=
  ⟨congrArg _ h, fun _ x hx => ⟨x, h ▸ hx, .refl x⟩⟩

theorem Ages.trans {r : Peer} (h : p.Ages q) (h' : q.Ages r) : p.Ages r := by
  refine ⟨h'.1.trans h.1, fun i x hx => ?_⟩
  obtain ⟨y, hy, hxy⟩ := h.2 i x hx
  obtain ⟨z, hz, hyz⟩ := h'.2 i y hy
  exact ⟨z, hz, hxy.trans hyz⟩

/-- Each proxy of the later end was there. -/
theorem Ages.back (h : p.Ages q) {y : NPObjectProxy} (hy : q.proxies[i]? = some y) :
    ∃ x, p.proxies[i]? = some x ∧ x.Ages y := by
  obtain ⟨hlt, -⟩ := List.getElem?_eq_some_iff.mp hy
  rw [h.1] at hlt
  obtain ⟨y', hy', hage⟩ := h.2 i _ (List.getElem?_eq_getElem hlt)
  cases hy.symm.trans hy'
  exact ⟨_, List.getElem?_eq_getElem hlt, hage⟩

/-- Neither its number nor its viewer changes. -/
theorem Ages.numbers (h : p.Ages q) :
    q.proxies.map (fun x => (x.id, x.generation)) = p.proxies.map (fun x => (x.id, x.generation)) := by
  apply List.ext_getElem?
  intro i
  rw [List.getElem?_map, List.getElem?_map]
  cases hx : p.proxies[i]? with
  | none => rw [List.getElem?_eq_none (h.1 ▸ List.getElem?_eq_none_iff.mp hx)]
  | some x =>
    obtain ⟨y, hy, hage⟩ := h.2 i x hx
    rw [hy, Option.map_some, Option.map_some, hage.id, hage.generation]

theorem Ages.onProxy {f : NPObjectProxy → NPObjectProxy} (h : ∀ x, p.proxies[i]? = some x → x.Ages (f x)) :
    p.Ages (p.onProxy i f) := by
  refine ⟨List.length_modify f p.proxies i, fun j x hx => ?_⟩
  show ∃ y, (p.proxies.modify i f)[j]? = some y ∧ _
  by_cases hij : i = j
  · subst hij
    exact ⟨f x, by rw [List.getElem?_modify_eq, hx]; rfl, h x hx⟩
  · exact ⟨x, by simp [hij, hx], .refl x⟩

theorem Ages.npclassInvokeDeallocate (h : ∀ x, p.proxies[i]? = some x → x.Dead) (possible : Bool) :
    p.Ages (p.npclassInvokeDeallocate i possible).1 := by
  unfold Peer.npclassInvokeDeallocate
  split
  · exact .of_eq rfl
  · cases possible with
    | false => exact .of_eq rfl
    | true => exact .onProxy fun x hx => ⟨rfl, rfl, rfl, fun hf => hf, fun hv => hv, fun hd => hd, fun _ => .inr (h x hx)⟩

theorem Ages.freeProxy : p.Ages (p.freeProxy i) := by
  unfold Peer.freeProxy
  split
  · exact .of_eq rfl
  · have hmark : p.Ages (p.onProxy i fun x => { x with isFreed := true }) :=
      .onProxy fun x _ => ⟨rfl, rfl, rfl, Bool.noConfusion, fun hv => hv, fun hd => hd, .inl⟩
    exact hmark.trans (.of_eq rfl)

theorem onProxy_get {f : NPObjectProxy → NPObjectProxy} (hx : p.proxies[i]? = some x) {y : NPObjectProxy}
    (hy : (p.onProxy i f).proxies[i]? = some y) : y = f x := by
  rw [Peer.onProxy, List.getElem?_modify_eq, hx] at hy
  cases hy
  rfl

/-- Giving a reference back. -/
theorem Ages.drop : p.Ages (p.onProxy i fun x => { x with referenceCount := x.referenceCount - 1 }) := by
  refine .onProxy fun y _ => ⟨rfl, rfl, rfl, fun hf => hf, fun hv => hv, ?_, .inl⟩
  rintro (hc | hv)
  · exact .inl (by simp [hc])
  · exact .inr hv

theorem Ages.releaseProxy (possible : Bool) : p.Ages (p.releaseProxy i possible).1 := by
  unfold Peer.releaseProxy
  split
  · exact .of_eq rfl
  · rename_i x hx
    dsimp only
    split
    · rename_i hlast
      refine Ages.drop.trans (.npclassInvokeDeallocate (fun y hy => ?_) possible)
      rw [onProxy_get hx hy]
      exact .inl (by simp [hlast.1])
    · exact .drop

theorem Ages.gNPClassInvalidate (possible : Bool) : p.Ages (p.gNPClassInvalidate i possible).1 := by
  unfold Peer.gNPClassInvalidate
  split
  · exact .of_eq rfl
  · rename_i x hx
    split
    · exact .of_eq rfl
    · have hmark : p.Ages (p.onProxy i fun x => { x with isValid := false }) :=
        .onProxy fun y _ => ⟨rfl, rfl, rfl, fun hf => hf, Bool.noConfusion, fun _ => .inr rfl, .inl⟩
      refine hmark.trans (.npclassInvokeDeallocate (fun y hy => ?_) possible)
      rw [onProxy_get hx hy]
      exact .inr rfl

theorem Ages.doSendNPObjectHelper (r : Option NPObjectRef) (passRef : Bool) : p.Ages (p.doSendNPObjectHelper passRef r).1 := by
  cases r with
  | none => exact .of_eq rfl
  | some r =>
    cases r with
    | «local» o => cases passRef <;> exact .of_eq rfl
    | proxy i =>
      unfold Peer.doSendNPObjectHelper
      dsimp only
      split
      · exact .of_eq rfl
      · rename_i x hx
        split
        · exact .of_eq rfl
        · split
          · have hmark : p.Ages (p.onProxy i fun x => { x with referenceCount := 0, released := true }) :=
              .onProxy fun y _ => ⟨rfl, rfl, rfl, fun hf => hf, fun hv => hv, fun _ => .inl rfl, fun _ => .inr (.inl rfl)⟩
            exact hmark.trans .freeProxy
          · exact .drop

/-- Each proxy ages in an act. -/
theorem act_ages {a : ObjectAct} (hcan : p.Can a) : p.Ages (p.act a).1 := by
  cases a with
  | create => exact .of_eq rfl
  | retain r =>
    cases r with
    | «local» o => exact .of_eq rfl
    | proxy i =>
      obtain ⟨x, hx, hcount⟩ := hcan
      refine .onProxy fun y hy => ⟨rfl, rfl, rfl, fun hf => hf, fun hv => hv, ?_, .inl⟩
      cases hx.symm.trans hy
      exact Or.imp (by omega) id
  | release r possible =>
    cases r with
    | «local» o => exact .of_eq rfl
    | proxy i => exact .releaseProxy possible
  | send r passRef => exact .doSendNPObjectHelper r passRef
  | invalidate i possible => exact .gNPClassInvalidate possible
  | free i => exact .freeProxy
  | receive => exact .of_eq rfl

theorem Spent.ages (h : p.Spent) (ha : p.Ages q) : q.Spent := by
  intro y hy hr
  obtain ⟨i, hi⟩ := List.mem_iff_getElem?.mp hy
  obtain ⟨x, hx, hage⟩ := ha.back hi
  exact (hage.released hr).elim (fun hr => hage.dead (h x (List.mem_of_getElem? hx) hr)) id

/-! ### What an act sends, and what it makes of the tables -/

/-- An act and a message it sends. -/
inductive Says (p : Peer) : ObjectAct → NPObjectMessage → Prop where
  | null {r : Option NPObjectRef} {passRef : Bool} : Says p (.send r passRef) .null
  | senderOwned {o : Nat} {passRef : Bool} : Says p (.send (some (.local o)) passRef) (.senderOwned (p.stubs.length + 1) o)
  | receiverOwned {i : Nat} {x : NPObjectProxy} {passRef releaseStub : Bool} : p.proxies[i]? = some x →
      Says p (.send (some (.proxy i)) passRef) (.receiverOwned x.id releaseStub x.target x.generation)
  | deallocate {a : ObjectAct} {id : Nat} : a.calls = true → Says p a (.deallocate id)

theorem Says.calls {a : ObjectAct} {m : NPObjectMessage} (h : p.Says a m) : a.calls = true := by
  cases h with
  | deallocate hc => exact hc
  | _ => rfl

theorem npclassInvokeDeallocate_says {a : ObjectAct} {possible : Bool} (ha : possible = true → a.calls = true) :
    ∀ m ∈ (q.npclassInvokeDeallocate i possible).2, p.Says a m := by
  unfold npclassInvokeDeallocate
  split
  · exact nofun
  · cases possible with
    | false => exact nofun
    | true =>
      intro m hm
      cases List.mem_singleton.mp hm
      exact .deallocate (ha rfl)

theorem act_says (a : ObjectAct) : ∀ m ∈ (p.act a).2, p.Says a m := by
  cases a with
  | create | free i | receive => exact nofun
  | retain r => cases r <;> exact nofun
  | release r possible =>
    cases r with
    | «local» o => exact nofun
    | proxy i =>
      change ∀ m ∈ (p.releaseProxy i possible).2, _
      unfold releaseProxy
      split
      · exact nofun
      · dsimp only
        split
        · exact npclassInvokeDeallocate_says id
        · exact nofun
  | invalidate i possible =>
    change ∀ m ∈ (p.gNPClassInvalidate i possible).2, _
    unfold gNPClassInvalidate
    split
    · exact nofun
    · split
      · exact nofun
      · exact npclassInvokeDeallocate_says id
  | send r passRef =>
    intro m hm
    cases List.mem_singleton.mp hm
    rcases r with _ | ⟨o⟩ | ⟨i⟩
    · exact .null
    · cases passRef <;> exact .senderOwned
    · dsimp only
      split
      · exact .null
      · rename_i hx
        split
        · exact .receiverOwned hx
        · split <;> exact .receiverOwned hx

/-- The proxy an act frees. -/
def frees (p : Peer) : ObjectAct → Option Nat
  | .free i => some i
  | .send (some (.proxy i)) true => (p.proxies[i]?).bind fun x => if x.referenceCount = 1 then some i else none
  | _ => none

/-- The table loses at most the entry under the number of the proxy that is freed. -/
def Unlists (p q : Peer) (freed : Option Nat) : Prop :=
  (freed = none ∧ q.gProxies = p.gProxies) ∨
    ∃ i x, freed = some i ∧ p.proxies[i]? = some x ∧ q.gProxies = Function.update p.gProxies x.id none ∧
      ∀ y, q.proxies[i]? = some y → y.isFreed = true

theorem npclassInvokeDeallocate_table (possible : Bool) : (p.npclassInvokeDeallocate i possible).1.gProxies = p.gProxies := by
  unfold npclassInvokeDeallocate
  split
  · rfl
  · cases possible <;> rfl

theorem releaseProxy_table (possible : Bool) : (p.releaseProxy i possible).1.gProxies = p.gProxies := by
  unfold releaseProxy
  split
  · rfl
  · dsimp only
    split
    · exact npclassInvokeDeallocate_table possible
    · rfl

theorem gNPClassInvalidate_table (possible : Bool) : (p.gNPClassInvalidate i possible).1.gProxies = p.gProxies := by
  unfold gNPClassInvalidate
  split
  · rfl
  · split
    · rfl
    · exact npclassInvokeDeallocate_table possible

/-- Freeing a proxy, whatever else became of it first. -/
theorem freeProxy_unlists {f : NPObjectProxy → NPObjectProxy} (hx : p.proxies[i]? = some x) (hid : (f x).id = x.id) :
    p.Unlists ((p.onProxy i f).freeProxy i) (some i) := by
  have hget : (p.onProxy i f).proxies[i]? = some (f x) := by
    rw [onProxy, List.getElem?_modify_eq, hx]
    rfl
  unfold freeProxy
  rw [hget]
  dsimp only
  refine .inr ⟨i, x, rfl, hx, by rw [hid]; rfl, fun y hy => ?_⟩
  change ((p.proxies.modify i f).modify i _)[i]? = some y at hy
  rw [List.getElem?_modify_eq] at hy
  obtain ⟨z, -, rfl⟩ := Option.map_eq_some_iff.mp hy
  rfl

theorem onProxy_same : p.onProxy i (fun x => x) = p := by
  unfold onProxy
  exact congrArg (fun l => { p with proxies := l }) (List.modify_id i p.proxies)

theorem act_unlists {a : ObjectAct} (hcan : p.Can a) : p.Unlists (p.act a).1 (p.frees a) := by
  cases a with
  | create | receive => exact .inl ⟨rfl, rfl⟩
  | retain r => cases r <;> exact .inl ⟨rfl, rfl⟩
  | release r possible =>
    cases r with
    | «local» o => exact .inl ⟨rfl, rfl⟩
    | proxy i => exact .inl ⟨rfl, releaseProxy_table possible⟩
  | invalidate i possible => exact .inl ⟨rfl, gNPClassInvalidate_table possible⟩
  | free i =>
    obtain ⟨x, hx, -⟩ := hcan
    have hfree := freeProxy_unlists (f := fun x => x) hx rfl
    rwa [onProxy_same] at hfree
  | send r passRef =>
    rcases r with _ | ⟨o⟩ | ⟨i⟩
    · exact .inl ⟨rfl, rfl⟩
    · cases passRef <;> exact .inl ⟨rfl, rfl⟩
    · obtain ⟨x, hx, -⟩ := hcan.1
      cases passRef with
      | false => exact .inl ⟨rfl, by simp [act, doSendNPObjectHelper, hx]⟩
      | true =>
        by_cases hlast : x.referenceCount = 1
        · have hfree := freeProxy_unlists (f := fun x => { x with referenceCount := 0, released := true }) hx rfl
          simpa [act, doSendNPObjectHelper, frees, hx, hlast] using hfree
        · refine .inl ⟨by simp [frees, hx, hlast], ?_⟩
          simp [act, doSendNPObjectHelper, hx, hlast, onProxy]

/-! ### What an act leaves of the end's own objects -/

/-- Only proxies differ. -/
def SameOwn (p q : Peer) : Prop := q.objects = p.objects ∧ q.stubs = p.stubs

theorem npclassInvokeDeallocate_own (i : Nat) (possible : Bool) : p.SameOwn (p.npclassInvokeDeallocate i possible).1 := by
  unfold npclassInvokeDeallocate
  split
  · exact ⟨rfl, rfl⟩
  · cases possible <;> exact ⟨rfl, rfl⟩

theorem freeProxy_own (i : Nat) : p.SameOwn (p.freeProxy i) := by
  unfold freeProxy
  split <;> exact ⟨rfl, rfl⟩

theorem releaseProxy_own (i : Nat) (possible : Bool) : p.SameOwn (p.releaseProxy i possible).1 := by
  unfold releaseProxy
  split
  · exact ⟨rfl, rfl⟩
  · dsimp only
    split
    · exact npclassInvokeDeallocate_own i possible
    · exact ⟨rfl, rfl⟩

theorem gNPClassInvalidate_own (i : Nat) (possible : Bool) : p.SameOwn (p.gNPClassInvalidate i possible).1 := by
  unfold gNPClassInvalidate
  split
  · exact ⟨rfl, rfl⟩
  · split
    · exact ⟨rfl, rfl⟩
    · exact npclassInvokeDeallocate_own i possible

theorem doSendNPObjectHelper_own (i : Nat) (passRef : Bool) :
    p.SameOwn (p.doSendNPObjectHelper passRef (some (.proxy i))).1 := by
  unfold doSendNPObjectHelper
  dsimp only
  split
  · exact ⟨rfl, rfl⟩
  · split
    · exact ⟨rfl, rfl⟩
    · split
      · exact freeProxy_own i
      · exact ⟨rfl, rfl⟩

/-- An act makes no stub, or one that it tells of. -/
theorem act_stubs (a : ObjectAct) :
    ((p.act a).1.stubs = p.stubs ∧ ∀ m ∈ (p.act a).2, ∀ id, m.creates id = false) ∨
      ∃ o, (p.act a).1.stubs = p.stubs ++ [⟨o, true, 0⟩] ∧ (p.act a).2 = [.senderOwned (p.stubs.length + 1) o] := by
  by_cases ha : ∃ o passRef, a = .send (some (.local o)) passRef
  · obtain ⟨o, passRef, rfl⟩ := ha
    refine .inr ⟨o, ?_⟩
    cases passRef <;> exact ⟨rfl, rfl⟩
  · refine .inl ⟨?_, fun m hm id => ?_⟩
    · cases a with
      | create | receive => rfl
      | retain r => cases r <;> rfl
      | release r possible =>
        cases r with
        | «local» o => rfl
        | proxy i => exact (releaseProxy_own i possible).2
      | invalidate i possible => exact (gNPClassInvalidate_own i possible).2
      | free i => exact (freeProxy_own i).2
      | send r passRef =>
        rcases r with _ | ⟨o⟩ | ⟨i⟩
        · rfl
        · exact absurd ⟨o, passRef, rfl⟩ ha
        · exact (doSendNPObjectHelper_own i passRef).2
    · cases act_says a m hm with
      | senderOwned => exact absurd ⟨_, _, rfl⟩ ha
      | _ => rfl

/-! ### What reading does -/

/-- The proxies and their table behind a message. -/
theorem doRecv_proxies {m : NPObjectMessage} {generation : Nat} {r : Option NPObjectRef}
    (hr : p.doRecvNPObjectHelper generation m = some (q, r)) :
    (∃ id target, m = .senderOwned id target ∧ q.proxies = p.proxies ++ [⟨id, 1, true, false, target, generation, false⟩] ∧
      q.gProxies = Function.update p.gProxies id (some p.proxies.length)) ∨
    (∀ id, m.creates id = false) ∧ q.proxies = p.proxies ∧ q.gProxies = p.gProxies := by
  cases m with
  | null =>
    cases hr
    exact .inr ⟨fun _ => rfl, rfl, rfl⟩
  | senderOwned id target =>
    cases hr
    exact .inl ⟨id, target, rfl, rfl, rfl⟩
  | receiverOwned id releaseStub target g =>
    refine .inr ⟨fun _ => rfl, ?_⟩
    rw [doRecvNPObjectHelper] at hr
    split at hr
    · cases hr
    · dsimp only at hr
      split at hr
      · obtain ⟨q₀, hq₀, heq⟩ := Option.map_eq_some_iff.mp hr
        obtain ⟨stub, -, rfl⟩ := Option.map_eq_some_iff.mp hq₀
        cases heq
        exact ⟨rfl, rfl⟩
      · cases hr
        exact ⟨rfl, rfl⟩
  | deallocate id =>
    cases hr
    refine .inr ⟨fun _ => rfl, ?_⟩
    unfold npclassHandleDeallocate
    split <;> exact ⟨rfl, rfl⟩

/-- No stub is made, and none forgets its object. -/
theorem doRecv_stubs {m : NPObjectMessage} {generation : Nat} {r : Option NPObjectRef}
    (hr : p.doRecvNPObjectHelper generation m = some (q, r)) : q.stubs.map (·.npobject) = p.stubs.map (·.npobject) := by
  have hkeep (id : Nat) : (p.stubs.modify (id - 1) fun s => { s with isLive := false, releases := s.releases + 1 }).map
      (·.npobject) = p.stubs.map (·.npobject) := map_modify_of_eq fun _ => rfl
  cases m with
  | null | senderOwned id target =>
    cases hr
    rfl
  | receiverOwned id releaseStub target g =>
    rw [doRecvNPObjectHelper] at hr
    split at hr
    · cases hr
    · dsimp only at hr
      split at hr
      · obtain ⟨q₀, hq₀, heq⟩ := Option.map_eq_some_iff.mp hr
        obtain ⟨stub, -, rfl⟩ := Option.map_eq_some_iff.mp hq₀
        cases heq
        exact hkeep id
      · cases hr
        rfl
  | deallocate id =>
    cases hr
    unfold npclassHandleDeallocate
    split
    · rfl
    · exact hkeep id

/-! ### The end of the other side -/

theorem npclassHandleDeallocate_proxies (id : Nat) : (p.npclassHandleDeallocate id).proxies = p.proxies ∧
    (p.npclassHandleDeallocate id).gProxies = p.gProxies := by
  unfold npclassHandleDeallocate
  split <;> exact ⟨rfl, rfl⟩

theorem npruntimeDeactivate_proxies : p.npruntimeDeactivate.proxies = p.proxies.mapIdx p.deactivated := by
  unfold npruntimeDeactivate
  refine List.foldlRecOn (motive := fun q : Peer => q.proxies = p.proxies.mapIdx p.deactivated) _ _ rfl fun q hq i _ => ?_
  exact (npclassHandleDeallocate_proxies (i + 1)).1.trans hq

theorem deactivated_ages (x : NPObjectProxy) : x.Ages (p.deactivated i x) := by
  unfold deactivated
  split
  · exact ⟨rfl, rfl, rfl, fun hf => hf, Bool.noConfusion, fun _ => .inr rfl, .inl⟩
  · exact .refl x

theorem Ages.npruntimeDeactivate : p.Ages p.npruntimeDeactivate := by
  refine ⟨?_, fun i x hx => ⟨p.deactivated i x, ?_, deactivated_ages x⟩⟩
  · rw [npruntimeDeactivate_proxies, List.length_mapIdx]
  · rw [npruntimeDeactivate_proxies, List.getElem?_mapIdx, hx]
    rfl

/-- A proxy in the table is invalid then. -/
theorem npruntimeDeactivate_invalid (ht : p.gProxies x.id = some i) (hx : p.proxies[i]? = some x) {y : NPObjectProxy}
    (hy : p.npruntimeDeactivate.proxies[i]? = some y) : y.isValid = false := by
  rw [npruntimeDeactivate_proxies, List.getElem?_mapIdx, hx] at hy
  cases hy
  unfold deactivated
  rw [if_pos ht]

end Peer
end NSPluginWrapper
