import NSPluginWrapper.Lib.Cells
import NSPluginWrapper.Npruntime.Bridge

/-! What an end's acts do to its stubs and to the proxies it has, and what they send. -/

namespace NSPluginWrapper
open Lib

namespace NPObjectMessage

/-- The message tells of a new stub. -/
def creates (id : Nat) : NPObjectMessage → Bool
  | .senderOwned i _ => i == id
  | _ => false

/-- The message gives the reference of a stub back. -/
def releases (id : Nat) : NPObjectMessage → Bool
  | .receiverOwned i releaseStub _ _ => releaseStub && i == id
  | .deallocate i => i == id
  | _ => false

/-- The message names a stub that has to be there. -/
def uses (id : Nat) : NPObjectMessage → Bool
  | .receiverOwned i _ _ _ => i == id
  | _ => false

end NPObjectMessage

/-- What of a proxy bears on its stub. -/
def NPObjectProxy.key (x : NPObjectProxy) : Nat × Nat × Bool := (x.id, x.target, x.released)

/-- A proxy no call can be made on any more. -/
def NPObjectProxy.Dead (x : NPObjectProxy) : Prop := x.referenceCount = 0 ∨ x.isValid = false

/-- What becomes of a proxy. -/
structure NPObjectProxy.Ages (x y : NPObjectProxy) : Prop where
  id : y.id = x.id
  target : y.target = x.target
  generation : y.generation = x.generation
  freed : y.isFreed = false → x.isFreed = false
  valid : y.isValid = true → x.isValid = true
  dead : x.Dead → y.Dead
  released : y.released = true → x.released = true ∨ y.Dead

theorem NPObjectProxy.Ages.refl (x : NPObjectProxy) : x.Ages x :=
  ⟨rfl, rfl, rfl, fun h => h, fun h => h, fun h => h, .inl⟩

theorem NPObjectProxy.Ages.trans {x y z : NPObjectProxy} (h : x.Ages y) (h' : y.Ages z) : x.Ages z where
  id := h'.id.trans h.id
  target := h'.target.trans h.target
  generation := h'.generation.trans h.generation
  freed hf := h.freed (h'.freed hf)
  valid hv := h.valid (h'.valid hv)
  dead hd := h'.dead (h.dead hd)
  released hr := (h'.released hr).elim (fun hy => (h.released hy).imp_right h'.dead) .inr

namespace Peer
variable {p q : Peer} {i id o : Nat} {x : NPObjectProxy}

/-- The stub's object, in the table or not. -/
def madeFor (p : Peer) : Nat → Option Nat
  | 0 => none
  | i + 1 => (p.stubs[i]?).map (·.npobject)

/-- The proxies for a stub whose release was not sent. -/
def holding (p : Peer) (id : Nat) : Nat := p.proxies.countP fun x => !x.released && x.id == id

theorem lookupStub_congr (h : q.stubs = p.stubs) (id : Nat) : q.npobjectLookupStub id = p.npobjectLookupStub id := by
  cases id with
  | zero => rfl
  | succ i => rw [npobjectLookupStub, npobjectLookupStub, h]

theorem madeFor_congr (h : q.stubs.map (·.npobject) = p.stubs.map (·.npobject)) (id : Nat) : q.madeFor id = p.madeFor id := by
  cases id with
  | zero => rfl
  | succ i => rw [madeFor, madeFor, ← List.getElem?_map, h, List.getElem?_map]

theorem lookupStub_append (h : q.stubs = p.stubs ++ [⟨o, true, 0⟩]) (id : Nat) :
    q.npobjectLookupStub id = if id = p.stubs.length + 1 then some ⟨o, true, 0⟩ else p.npobjectLookupStub id := by
  cases id with
  | zero => rfl
  | succ i =>
    rw [npobjectLookupStub, h, List.getElem?_append]
    by_cases hlt : i < p.stubs.length
    · rw [if_pos hlt, if_neg (by omega)]
      rfl
    · rw [if_neg hlt]
      by_cases heq : i = p.stubs.length
      · rw [if_pos (by omega), heq, Nat.sub_self]
        rfl
      · rw [if_neg (by omega), npobjectLookupStub, List.getElem?_eq_none (by simp; omega), List.getElem?_eq_none (by omega)]

theorem madeFor_append (h : q.stubs = p.stubs ++ [⟨o, true, 0⟩]) {id target : Nat} (hm : p.madeFor id = some target) :
    q.madeFor id = some target := by
  cases id with
  | zero => cases hm
  | succ i =>
    rw [madeFor] at hm ⊢
    obtain ⟨stub, hstub, heq⟩ := Option.map_eq_some_iff.mp hm
    rw [h, List.getElem?_append_left (List.getElem?_eq_some_iff.mp hstub).1, hstub, Option.map_some, heq]

/-- A stub that is destroyed is no longer in the table; no other is touched. -/
theorem lookupStub_destroy {id : Nat} {stub : NPObjectStub} (h : p.npobjectLookupStub id = some stub) (id' : Nat) :
    (p.npobjectDestroyStubObj id stub).npobjectLookupStub id' = if id' = id then none else p.npobjectLookupStub id' := by
  cases id with
  | zero => cases h
  | succ i =>
    cases id' with
    | zero => rfl
    | succ j =>
      by_cases hij : i = j
      · subst hij
        cases hs : p.stubs[i]? <;> simp [npobjectDestroyStubObj, npobjectLookupStub, npnReleaseObject, onObject, hs]
      · rw [if_neg (by omega)]
        simp [npobjectDestroyStubObj, npobjectLookupStub, npnReleaseObject, onObject, hij]

theorem madeFor_destroy (id : Nat) (stub : NPObjectStub) (id' : Nat) :
    (p.npobjectDestroyStubObj id stub).madeFor id' = p.madeFor id' := by
  have hkeep : ∀ s : NPObjectStub, { s with isLive := false, releases := s.releases + 1 }.npobject = s.npobject :=
    fun _ => rfl
  exact madeFor_congr (map_modify_of_eq hkeep) id'

/-- A stub in the table is one that was made. -/
theorem madeFor_of_lookup {id : Nat} (h : (p.npobjectLookupStub id).isSome = true) : p.npobjectLookupLocal id = p.madeFor id := by
  cases id with
  | zero => cases h
  | succ i =>
    rw [npobjectLookupLocal, madeFor, npobjectLookupStub] at *
    cases hs : p.stubs[i]? with
    | none => simp [hs] at h
    | some stub =>
      rw [hs] at h
      cases hl : stub.isLive <;> simp_all

theorem holding_eq : p.holding id = (p.proxies.map (·.key)).countP fun k => !k.2.2 && k.1 == id := by
  rw [List.countP_map]
  rfl

theorem holding_congr (h : q.proxies.map (·.key) = p.proxies.map (·.key)) : q.holding id = p.holding id := by
  rw [holding_eq, holding_eq, h]

/-- A proxy whose stub's release was sent is of no more use: it lost its last reference, or is invalid. -/
def Spent (p : Peer) : Prop := ∀ x ∈ p.proxies, x.released = true → x.Dead

/-- What an act of an end means to the other one. -/
inductive Moves (p : Peer) : Peer → List NPObjectMessage → Prop where
  | quiet {q : Peer} {sent : List NPObjectMessage} : q.stubs = p.stubs → q.proxies.map (·.key) = p.proxies.map (·.key) →
      (sent = [] ∨ sent = [.null]) → Moves p q sent
  | sendLocal {q : Peer} {o : Nat} : q.stubs = p.stubs ++ [⟨o, true, 0⟩] → q.proxies = p.proxies →
      Moves p q [.senderOwned (p.stubs.length + 1) o]
  | sendProxy {q : Peer} {i : Nat} {x : NPObjectProxy} : q.stubs = p.stubs → q.proxies.map (·.key) = p.proxies.map (·.key) →
      p.proxies[i]? = some x → x.released = false → Moves p q [.receiverOwned x.id false x.target x.generation]
  | releaseStub {q : Peer} {i : Nat} {x : NPObjectProxy} {m : NPObjectMessage} : q.stubs = p.stubs →
      q.proxies.map (·.key) = (p.proxies.map (·.key)).modify i (fun k => (k.1, k.2.1, true)) →
      p.proxies[i]? = some x → x.released = false →
      (m = .receiverOwned x.id true x.target x.generation ∨ m = .deallocate x.id) → Moves p q [m]

theorem onProxy_keys {f : NPObjectProxy → NPObjectProxy} (h : ∀ x, (f x).key = x.key) :
    (p.onProxy i f).proxies.map (·.key) = p.proxies.map (·.key) := map_modify_of_eq h

theorem onProxy_released {f : NPObjectProxy → NPObjectProxy} (h : ∀ x, (f x).key = (x.id, x.target, true)) :
    (p.onProxy i f).proxies.map (·.key) = (p.proxies.map (·.key)).modify i (fun k => (k.1, k.2.1, true)) :=
  map_modify h

theorem freeProxy_stubs : (p.freeProxy i).stubs = p.stubs := by
  unfold freeProxy
  split <;> rfl

theorem freeProxy_keys : (p.freeProxy i).proxies.map (·.key) = p.proxies.map (·.key) := by
  unfold freeProxy
  split
  · rfl
  · exact onProxy_keys fun _ => rfl

/-- Releasing the stub, after what else was done to the proxy. -/
theorem npclassInvokeDeallocate_moves (hkeys : q.proxies.map (·.key) = p.proxies.map (·.key))
    (hstubs : q.stubs = p.stubs) (hx : p.proxies[i]? = some x) (hr : x.released = false)
    (possible : Bool) : p.Moves (q.npclassInvokeDeallocate i possible).1 (q.npclassInvokeDeallocate i possible).2 := by
  have hkey : (q.proxies.map (·.key))[i]? = some x.key := by rw [hkeys, List.getElem?_map, hx, Option.map_some]
  rw [List.getElem?_map] at hkey
  obtain ⟨y, hy, heq⟩ := Option.map_eq_some_iff.mp hkey
  unfold npclassInvokeDeallocate
  rw [hy]
  cases possible with
  | false => exact .quiet hstubs hkeys (.inl rfl)
  | true =>
    obtain hid : y.id = x.id := congrArg (·.1) heq
    refine .releaseStub hstubs ?_ hx hr (.inr (by rw [hid]))
    exact (onProxy_released fun _ => rfl).trans (by rw [hkeys])

/-- A proxy that is in use and valid still holds its stub. -/
theorem Spent.unreleased (h : p.Spent) (hx : p.proxies[i]? = some x) (hcount : 0 < x.referenceCount)
    (hv : x.isValid = true) : x.released = false := by
  by_contra hr
  rcases h x (List.mem_of_getElem? hx) (by simpa using hr) with h₀ | h₀
  · omega
  · rw [hv] at h₀
    cases h₀

theorem releaseProxy_moves (h : p.Spent) (possible : Bool) (hhas : p.Has (.proxy i)) :
    p.Moves (p.releaseProxy i possible).1 (p.releaseProxy i possible).2 := by
  obtain ⟨x, hx, hcount⟩ := hhas
  unfold releaseProxy
  rw [hx]
  dsimp only
  have hkeys : (p.onProxy i fun x => { x with referenceCount := x.referenceCount - 1 }).proxies.map (·.key) =
      p.proxies.map (·.key) := onProxy_keys fun _ => rfl
  split
  · rename_i hlast
    exact npclassInvokeDeallocate_moves hkeys rfl hx (h.unreleased hx hcount hlast.2) possible
  · exact .quiet rfl hkeys (.inl rfl)

theorem gNPClassInvalidate_moves (h : p.Spent) (possible : Bool) (hhas : p.Has (.proxy i)) :
    p.Moves (p.gNPClassInvalidate i possible).1 (p.gNPClassInvalidate i possible).2 := by
  obtain ⟨x, hx, hcount⟩ := hhas
  unfold gNPClassInvalidate
  rw [hx]
  dsimp only
  split
  · exact .quiet rfl rfl (.inl rfl)
  · rename_i hv
    have hkeys : (p.onProxy i fun x => { x with isValid := false }).proxies.map (·.key) = p.proxies.map (·.key) :=
      onProxy_keys fun _ => rfl
    exact npclassInvokeDeallocate_moves hkeys rfl hx (h.unreleased hx hcount (by simpa using hv)) possible

/-- A send whose proxy, where it is one, still holds its stub. -/
def Holds (p : Peer) : ObjectAct → Prop
  | .send (some (.proxy i)) _ => ∀ x, p.proxies[i]? = some x → x.released = false
  | _ => True

theorem doSendNPObjectHelper_moves {r : Option NPObjectRef} {passRef : Bool} (hcan : p.Can (.send r passRef))
    (hh : p.Holds (.send r passRef)) :
    p.Moves (p.doSendNPObjectHelper passRef r).1 [(p.doSendNPObjectHelper passRef r).2] := by
  cases r with
  | none => exact .quiet rfl rfl (.inr rfl)
  | some r =>
    cases r with
    | «local» o =>
      cases passRef with
      | false => exact .sendLocal rfl rfl
      | true => exact .sendLocal rfl rfl
    | proxy i =>
      obtain ⟨x, hx, -⟩ := hcan.1
      have hr := hh x hx
      unfold doSendNPObjectHelper
      dsimp only
      rw [hx]
      dsimp only
      cases passRef with
      | false => exact .sendProxy rfl rfl hx hr
      | true =>
        rw [if_neg (by decide)]
        split
        · refine .releaseStub freeProxy_stubs ?_ hx hr (.inl rfl)
          exact freeProxy_keys.trans (onProxy_released fun _ => rfl)
        · exact .sendProxy rfl (onProxy_keys fun _ => rfl) hx hr

/-- An act that reads nothing moves no stub, makes one, uses one, or releases one. -/
theorem act_moves (h : p.Spent) {a : ObjectAct} (hcan : p.Can a) (hh : p.Holds a) : p.Moves (p.act a).1 (p.act a).2 := by
  cases a with
  | create => exact .quiet rfl rfl (.inl rfl)
  | retain r =>
    cases r with
    | «local» o => exact .quiet rfl rfl (.inl rfl)
    | proxy i => exact .quiet rfl (onProxy_keys fun _ => rfl) (.inl rfl)
  | release r possible =>
    cases r with
    | «local» o => exact .quiet rfl rfl (.inl rfl)
    | proxy i => exact releaseProxy_moves h possible hcan
  | send r passRef => exact doSendNPObjectHelper_moves hcan hh
  | invalidate i possible => exact gNPClassInvalidate_moves h possible hcan
  | free i => exact .quiet freeProxy_stubs freeProxy_keys (.inl rfl)
  | receive => exact .quiet rfl rfl (.inl rfl)

end Peer
end NSPluginWrapper
