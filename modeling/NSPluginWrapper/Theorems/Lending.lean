import NSPluginWrapper.Npruntime.Operations
import NSPluginWrapper.Theorems.Marshal
import NSPluginWrapper.Theorems.Objects

/-! What the arguments of a call do to the references of the two ends: an object of the caller is lent through a stub
    and a proxy that are made for it, an object of the callee is retained, and the release of what was received undoes
    both. -/

namespace NSPluginWrapper
open Lib

namespace Peer
variable {p q : Peer} {i id o : Nat} {x : NPObjectProxy}

/-! ### References -/

def refs (p : Peer) (o : Nat) : Nat := ((p.objects[o]?).map (·.referenceCount)).getD 0

theorem refs_congr (h : q.objects.map (·.referenceCount) = p.objects.map (·.referenceCount)) (o : Nat) :
    q.refs o = p.refs o := by
  rw [refs, refs, ← List.getElem?_map, ← List.getElem?_map, h]

theorem refs_retain {k : Nat} (h : o < p.objects.length) :
    (p.npnRetainObject k).refs o = p.refs o + if o = k then 1 else 0 := by
  have hsome : p.objects[o]? = some (p.objects[o]) := List.getElem?_eq_getElem h
  by_cases hk : k = o
  · subst hk
    simp [refs, npnRetainObject, onObject, hsome]
  · simp [refs, npnRetainObject, onObject, hk, Ne.symm hk]

/-- An object that is there has a reference more. -/
theorem refs_retained (ho : o < p.objects.length) (k : Nat) :
    (p.npnRetainObject o).refs k = p.refs k + if k = o then 1 else 0 := by
  by_cases hk : k < p.objects.length
  · exact refs_retain hk
  · rw [if_neg (by omega), refs, refs, npnRetainObject, onObject, List.getElem?_eq_none (by simpa using hk),
      List.getElem?_eq_none (by omega)]
    rfl

theorem refs_release {k : Nat} : (p.npnReleaseObject k).refs o = p.refs o - if o = k then 1 else 0 := by
  by_cases hk : k = o
  · subst hk
    cases h : p.objects[k]? <;> simp [refs, npnReleaseObject, onObject, h]
  · simp [refs, npnReleaseObject, onObject, hk, Ne.symm hk]

theorem refs_take {k : Nat} : (p.take k).refs o = p.refs o := by
  have hkeep : ∀ x : NPObject, { x with held := x.held + 1 }.referenceCount = x.referenceCount := fun _ => rfl
  exact refs_congr (map_modify_of_eq hkeep) o

theorem refs_give {k : Nat} : (p.give k).refs o = p.refs o := by
  have hkeep : ∀ x : NPObject, { x with held := x.held - 1 }.referenceCount = x.referenceCount := fun _ => rfl
  exact refs_congr (map_modify_of_eq hkeep) o

theorem refs_of_ge (h : p.objects.length ≤ o) : p.refs o = 0 := by
  rw [refs, List.getElem?_eq_none h]
  rfl

/-! ### Looking a number up -/

theorem lookupLocal_congr (h : q.stubs = p.stubs) (id : Nat) : q.npobjectLookupLocal id = p.npobjectLookupLocal id := by
  rw [npobjectLookupLocal, npobjectLookupLocal, lookupStub_congr h]

theorem lookupLocal_append (h : q.stubs = p.stubs ++ [⟨o, true, 0⟩]) (id : Nat) :
    q.npobjectLookupLocal id = if id = p.stubs.length + 1 then some o else p.npobjectLookupLocal id := by
  rw [npobjectLookupLocal, lookupStub_append h]
  split <;> rfl

/-- A number in the table has been given out. -/
theorem lookupLocal_le (h : p.npobjectLookupLocal id = some o) : id ≤ p.stubs.length := by
  cases id with
  | zero => exact Nat.zero_le _
  | succ i =>
    rw [npobjectLookupLocal, npobjectLookupStub] at h
    obtain ⟨stub, hstub, -⟩ := Option.map_eq_some_iff.mp h
    exact (List.getElem?_eq_some_iff.mp (Option.filter_eq_some_iff.mp hstub).1).1

/-- Destroying the stub of a number gives its reference back. -/
theorem handleDeallocate_spec (h : p.npobjectLookupLocal id = some o) :
    (∀ id', (p.npclassHandleDeallocate id).npobjectLookupLocal id' = if id' = id then none else p.npobjectLookupLocal id') ∧
    (∀ k, (p.npclassHandleDeallocate id).refs k = p.refs k - if k = o then 1 else 0) ∧
    (p.npclassHandleDeallocate id).proxies = p.proxies ∧
    (p.npclassHandleDeallocate id).objects.length = p.objects.length ∧
    (p.npclassHandleDeallocate id).stubs.length = p.stubs.length := by
  obtain ⟨stub, hstub, rfl⟩ := Option.map_eq_some_iff.mp h
  have heq : p.npclassHandleDeallocate id = p.npobjectDestroyStubObj id stub := by rw [npclassHandleDeallocate, hstub]
  rw [heq]
  refine ⟨fun id' => ?_, fun k => ?_, rfl, List.length_modify .., List.length_modify ..⟩
  · rw [npobjectLookupLocal, lookupStub_destroy hstub]
    split <;> rfl
  · exact refs_release

theorem destroyStub_eq (h : p.npobjectLookupLocal id = some o) :
    p.npobjectDestroyStub id = some (p.npclassHandleDeallocate id) := by
  obtain ⟨stub, hstub, -⟩ := Option.map_eq_some_iff.mp h
  rw [npobjectDestroyStub, npclassHandleDeallocate, hstub]
  rfl

/-- The last reference to a valid proxy takes its stub with it. -/
theorem releaseObject_last {own other : Peer} {j : Nat} (hx : own.proxies[j]? = some x) (hcount : x.referenceCount = 1)
    (hvalid : x.isValid = true) : ∃ own', own.releaseObject other (.proxy j) = (own', other.npclassHandleDeallocate x.id) ∧
      own'.objects = own.objects ∧ own'.stubs = own.stubs ∧ own'.proxies.length = own.proxies.length ∧
      ∀ k, k ≠ j → own'.proxies[k]? = own.proxies[k]? := by
  obtain ⟨y, hy⟩ : ∃ y, y = { x with referenceCount := x.referenceCount - 1, released := true } := ⟨_, rfl⟩
  obtain ⟨own₁, hown₁⟩ : ∃ own₁, own₁ = (own.onProxy j fun x => { x with referenceCount := x.referenceCount - 1 }).onProxy j
      fun x => { x with released := true } := ⟨_, rfl⟩
  have hrelease : own.releaseProxy j true = (own₁, [.deallocate x.id]) := by
    have hcell : (own.onProxy j fun x => { x with referenceCount := x.referenceCount - 1 }).proxies[j]? =
        some { x with referenceCount := x.referenceCount - 1 } := by simp [onProxy, hx]
    rw [hown₁]
    simp only [releaseProxy, hx, hcount, hvalid, and_self, if_true, npclassInvokeDeallocate, hcell]
  have hcell₁ : own₁.proxies[j]? = some y := by rw [hown₁, hy]; simp [onProxy, hx]
  have hzero : y.referenceCount = 0 := by rw [hy]; simp [hcount]
  refine ⟨own₁.freeProxy j, ?_, ?_, ?_, ?_, fun k hk => ?_⟩
  · simp only [releaseObject, hrelease, hcell₁, hzero, if_true]
    rfl
  all_goals simp only [freeProxy, hcell₁]
  · rw [hown₁]
    rfl
  · rw [hown₁]
    rfl
  · rw [hown₁]
    simp [onProxy]
  · rw [hown₁]
    simp [onProxy, Ne.symm hk]

/-- Another reference to a proxy is only one less. -/
theorem releaseObject_more {own other : Peer} {j : Nat} (hx : own.proxies[j]? = some x) (hcount : 1 < x.referenceCount) :
    own.releaseObject other (.proxy j) = (own.onProxy j fun x => { x with referenceCount := x.referenceCount - 1 }, other) := by
  have hrelease : own.releaseProxy j true = (own.onProxy j fun x => { x with referenceCount := x.referenceCount - 1 }, []) := by
    simp only [releaseProxy, hx]
    rw [if_neg (by omega)]
  have hcell : (own.onProxy j fun x => { x with referenceCount := x.referenceCount - 1 }).proxies[j]? =
      some { x with referenceCount := x.referenceCount - 1 } := by simp [onProxy, hx]
  simp only [releaseObject, hrelease, hcell]
  rw [if_neg (by omega)]
  rfl

end Peer

/-! ### Transfers -/

/-- How an argument came across: as it is, an object of the caller through a new stub and a new proxy, or an object
    of the callee that the caller has a proxy for. -/
inductive Transfer where
  | plain (variant : { variant : NPVariant (Option NPObjectRef) // ∀ r, variant ≠ .object (some r) })
  | lent (o id j : Nat)
  | own (i o : Nat)

namespace Transfer

def given : Transfer → NPVariant (Option NPObjectRef)
  | plain variant => variant.val
  | lent o _ _ => .object (some (.local o))
  | own i _ => .object (some (.proxy i))

def got : Transfer → NPVariant (Option NPObjectRef)
  | plain variant => variant.val.received
  | lent _ _ j => .object (some (.proxy j))
  | own _ o => .object (some (.local o))

def lends (o : Nat) : Transfer → Bool
  | lent k _ _ => k == o
  | _ => false

def owns (o : Nat) : Transfer → Bool
  | own _ k => k == o
  | _ => false

theorem owns_own (i o k : Nat) : (if (own i o).owns k = true then 1 else 0) = if k = o then 1 else 0 := by
  simp [owns, eq_comm (a := k)]

theorem lends_lent (o id j k : Nat) : (if (lent o id j).lends k = true then 1 else 0) = if k = o then 1 else 0 := by
  simp [lends, eq_comm (a := k)]

/-- Two transfers do not share a stub or a proxy. -/
def Apart : Transfer → Transfer → Prop
  | lent _ id j, lent _ id' j' => id ≠ id' ∧ j ≠ j'
  | _, _ => True

theorem Apart.symm {a b : Transfer} (h : a.Apart b) : b.Apart a := by
  cases a <;> cases b <;> first | trivial | exact ⟨Ne.symm h.1, Ne.symm h.2⟩

end Transfer

/-- Where the ends `p` and `q` have come, with the callee holding what came by the transfers `ts`: besides, a
    function may have another reference to a proxy that was there, `old`, or to one that came, `shared`. -/
structure Lending (p q : Peer) (ts : List Transfer) (old shared : Option Nat) (p' q' : Peer) : Prop where
  callerRefs : ∀ o < p.objects.length, p'.refs o = p.refs o + ts.countP (·.lends o)
  calleeRefs : ∀ o < q'.objects.length, q'.refs o = q.refs o + ts.countP (·.owns o)
  callerObjects : p'.objects.length = p.objects.length
  calleeObjects : q.objects.length ≤ q'.objects.length
  callerProxies : p'.proxies = p.proxies
  calleeProxies : ∀ j < q.proxies.length, q'.proxies[j]? = (q.proxies[j]?).map fun x =>
    { x with referenceCount := x.referenceCount + if old = some j then 1 else 0 }
  callerStubs : ∀ id ≤ p.stubs.length, p'.npobjectLookupLocal id = p.npobjectLookupLocal id
  calleeStubs : q'.stubs = q.stubs
  callerCount : p.stubs.length ≤ p'.stubs.length
  calleeCount : q.proxies.length ≤ q'.proxies.length
  lent : ∀ (o id j : Nat), .lent o id j ∈ ts → p.stubs.length < id ∧ q.proxies.length ≤ j ∧
    p'.npobjectLookupLocal id = some o ∧ ∃ x, q'.proxies[j]? = some x ∧ x.id = id ∧ x.isValid = true ∧
      x.referenceCount = 1 + if shared = some j then 1 else 0
  apart : ts.Pairwise Transfer.Apart
  lender : ∀ (o id j : Nat), .lent o id j ∈ ts → o < p.objects.length
  owned : ∀ (i o : Nat), .own i o ∈ ts → o < q'.objects.length
  sharing : ∀ j ∈ shared, ∃ o id, .lent o id j ∈ ts
  holding : ∀ j ∈ old, ∃ x, q.proxies[j]? = some x ∧ 0 < x.referenceCount

namespace Lending
variable {p q p' q' : Peer} {ts : List Transfer} {old shared : Option Nat}

theorem start (p q : Peer) : Lending p q [] none none p q where
  callerRefs _ _ := rfl
  calleeRefs _ _ := rfl
  callerObjects := rfl
  calleeObjects := Nat.le_refl _
  callerProxies := rfl
  calleeProxies j _ := by simp
  callerStubs _ _ := rfl
  calleeStubs := rfl
  callerCount := Nat.le_refl _
  calleeCount := Nat.le_refl _
  lent _ _ _ h := by cases h
  apart := .nil
  lender _ _ _ h := by cases h
  owned _ _ h := by cases h
  sharing _ h := by cases h
  holding _ h := by cases h

/-- What the caller meant by a proxy, it still means. -/
theorem calleeLookup (h : Lending p q ts old shared p' q') (id : Nat) :
    q'.npobjectLookupLocal id = q.npobjectLookupLocal id := Peer.lookupLocal_congr h.calleeStubs id

theorem plain (h : Lending p q ts none none p' q')
    (variant : { variant : NPVariant (Option NPObjectRef) // ∀ r, variant ≠ .object (some r) }) :
    Lending p q (ts ++ [.plain variant]) none none p' q' where
  callerRefs o ho := by
    rw [h.callerRefs o ho, List.countP_append]
    rfl
  calleeRefs o ho := by
    rw [h.calleeRefs o ho, List.countP_append]
    rfl
  callerObjects := h.callerObjects
  calleeObjects := h.calleeObjects
  callerProxies := h.callerProxies
  calleeProxies := h.calleeProxies
  callerStubs := h.callerStubs
  calleeStubs := h.calleeStubs
  callerCount := h.callerCount
  calleeCount := h.calleeCount
  lent o id j hmem := by
    rcases List.mem_append.mp hmem with hmem | hmem
    · exact h.lent o id j hmem
    · cases List.mem_singleton.mp hmem
  apart := List.pairwise_append.mpr ⟨h.apart, List.pairwise_singleton .., fun a _ b hb => by
    rw [List.mem_singleton.mp hb]
    cases a <;> trivial⟩
  lender k id j hmem := by
    rcases List.mem_append.mp hmem with hmem | hmem
    · exact h.lender k id j hmem
    · cases List.mem_singleton.mp hmem
  owned i o hmem := by
    rcases List.mem_append.mp hmem with hmem | hmem
    · exact h.owned i o hmem
    · cases List.mem_singleton.mp hmem
  sharing _ hj := by cases hj
  holding _ hj := by cases hj

/-- An object of the callee is retained for the callee. -/
theorem own (h : Lending p q ts none none p' q') (i : Nat) {o : Nat} (ho : o < q'.objects.length) :
    Lending p q (ts ++ [.own i o]) none none p' ((q'.npnRetainObject o).take o) where
  callerRefs k hk := by
    rw [h.callerRefs k hk, List.countP_append]
    rfl
  calleeRefs k hk := by
    have hk' : k < q'.objects.length := by simpa [Peer.take, Peer.npnRetainObject, Peer.onObject] using hk
    rw [Peer.refs_take, Peer.refs_retain hk', h.calleeRefs k hk', List.countP_append, List.countP_singleton, Transfer.owns_own,
      Nat.add_assoc]
  callerObjects := h.callerObjects
  calleeObjects := by simpa [Peer.take, Peer.npnRetainObject, Peer.onObject] using h.calleeObjects
  callerProxies := h.callerProxies
  calleeProxies := h.calleeProxies
  callerStubs := h.callerStubs
  calleeStubs := h.calleeStubs
  callerCount := h.callerCount
  calleeCount := h.calleeCount
  lent k id j hmem := by
    rcases List.mem_append.mp hmem with hmem | hmem
    · exact h.lent k id j hmem
    · cases List.mem_singleton.mp hmem
  apart := List.pairwise_append.mpr ⟨h.apart, List.pairwise_singleton .., fun a _ b hb => by
    rw [List.mem_singleton.mp hb]
    cases a <;> trivial⟩
  lender k id j hmem := by
    rcases List.mem_append.mp hmem with hmem | hmem
    · exact h.lender k id j hmem
    · cases List.mem_singleton.mp hmem
  owned k o' hmem := by
    rw [Peer.take, Peer.npnRetainObject, Peer.onObject, Peer.onObject, List.length_modify, List.length_modify]
    rcases List.mem_append.mp hmem with hmem | hmem
    · exact h.owned k o' hmem
    · cases List.mem_singleton.mp hmem
      exact ho
  sharing _ hj := by cases hj
  holding _ hj := by cases hj

/-- A stub that is new here is new to all. -/
theorem fresh (h : Lending p q ts old shared p' q') {o id j : Nat} (hmem : .lent o id j ∈ ts) :
    id ≠ p'.stubs.length + 1 ∧ j ≠ q'.proxies.length := by
  obtain ⟨-, -, hlookup, x, hx, -⟩ := h.lent o id j hmem
  have hid := Peer.lookupLocal_le hlookup
  have hj := (List.getElem?_eq_some_iff.mp hx).1
  omega

/-- An object of the caller gets a stub, and the callee a proxy for it. -/
theorem lend (h : Lending p q ts none none p' q') {o : Nat} (ho : o < p.objects.length) {p₁ q₁ : Peer} (hp : p₁ = (p'.npobjectCreateStub o).1)
    (hq : q₁ = (q'.npobjectCreateProxy (p'.stubs.length + 1) o 0).1) :
    Lending p q (ts ++ [.lent o (p'.stubs.length + 1) q'.proxies.length]) none none p₁ q₁ := by
  have hstubs : p₁.stubs = p'.stubs ++ [⟨o, true, 0⟩] := by rw [hp]; rfl
  have hobjects : p₁.objects.length = p'.objects.length := by
    rw [hp]
    exact List.length_modify ..
  have hcell (j : Nat) (hj : j < q'.proxies.length) : q₁.proxies[j]? = q'.proxies[j]? := by
    rw [hq]
    exact List.getElem?_append_left hj
  refine
    { callerRefs := fun k hk => ?_, calleeRefs := fun k hk => ?_, callerObjects := hobjects.trans h.callerObjects,
      calleeObjects := by rw [hq]; exact h.calleeObjects, callerProxies := by rw [hp]; exact h.callerProxies,
      calleeProxies := fun j hj => ?_, callerStubs := fun id hid => ?_,
      calleeStubs := by rw [hq]; exact h.calleeStubs, callerCount := ?_, calleeCount := ?_,
      lent := fun k id j hmem => ?_, apart := ?_,
      lender := fun k id j hmem => ?_, owned := fun k o' hmem => ?_, sharing := fun _ hj => (by cases hj),
      holding := fun _ hj => (by cases hj) }
  · have hrefs : p₁.refs k = (p'.npnRetainObject o).refs k := by rw [hp]; rfl
    rw [hrefs, Peer.refs_retain (by rw [h.callerObjects]; exact hk), h.callerRefs k hk, List.countP_append,
      List.countP_singleton, Transfer.lends_lent, Nat.add_assoc]
  · have hrefs : q₁.refs k = q'.refs k := by rw [hq]; rfl
    have hk' : k < q'.objects.length := by rwa [hq] at hk
    rw [hrefs, h.calleeRefs k hk', List.countP_append]
    rfl
  · rw [hcell j (Nat.lt_of_lt_of_le hj h.calleeCount), h.calleeProxies j hj]
  · rw [Peer.lookupLocal_append hstubs, if_neg (by have := h.callerCount; omega), h.callerStubs id hid]
  · rw [hstubs, List.length_append]
    exact Nat.le_add_right_of_le h.callerCount
  · have hlen : q₁.proxies.length = q'.proxies.length + 1 := by rw [hq]; exact List.length_append ..
    have := h.calleeCount
    omega
  · rcases List.mem_append.mp hmem with hmem | hmem
    · obtain ⟨hid, hj, hlookup, x, hx, hcell'⟩ := h.lent k id j hmem
      refine ⟨hid, hj, ?_, x, ?_, hcell'⟩
      · rw [Peer.lookupLocal_append hstubs, if_neg (h.fresh hmem).1]
        exact hlookup
      · rw [hcell j (List.getElem?_eq_some_iff.mp hx).1]
        exact hx
    · cases List.mem_singleton.mp hmem
      have hnew : q₁.proxies[q'.proxies.length]? = some ⟨p'.stubs.length + 1, 1, true, false, o, 0, false⟩ := by
        rw [hq]
        exact List.getElem?_concat_length ..
      refine ⟨Nat.lt_succ_of_le h.callerCount, h.calleeCount, ?_, _, hnew, rfl, rfl, by simp⟩
      rw [Peer.lookupLocal_append hstubs, if_pos rfl]
  · refine List.pairwise_append.mpr ⟨h.apart, List.pairwise_singleton .., fun a ha b hb => ?_⟩
    rw [List.mem_singleton.mp hb]
    cases a with
    | lent k id j => exact h.fresh ha
    | plain variant => trivial
    | own i k => trivial
  · rcases List.mem_append.mp hmem with hmem | hmem
    · exact h.lender k id j hmem
    · cases List.mem_singleton.mp hmem
      exact ho
  · rcases List.mem_append.mp hmem with hmem | hmem
    · rw [hq]
      exact h.owned k o' hmem
    · cases List.mem_singleton.mp hmem

/-! ### What a function returns -/

/-- A new object. -/
theorem create (h : Lending p q ts none none p' q') :
    Lending p q (ts ++ [.own 0 q'.objects.length]) none none p' q'.npnCreateObject where
  callerRefs k hk := by
    rw [h.callerRefs k hk, List.countP_append]
    rfl
  calleeRefs k hk := by
    have hlen : q'.npnCreateObject.objects.length = q'.objects.length + 1 := List.length_append ..
    rw [List.countP_append, List.countP_singleton, Transfer.owns_own]
    by_cases hnew : k = q'.objects.length
    · have hnone : ts.countP (·.owns k) = 0 := by
        refine List.countP_eq_zero.mpr fun t ht howns => ?_
        cases t with
        | own i o =>
          have := h.owned i o ht
          have := eq_of_beq howns
          omega
        | plain variant => cases howns
        | lent o id j => cases howns
      have hone : q'.npnCreateObject.refs k = 1 := by
        rw [hnew, Peer.refs]
        simp [Peer.npnCreateObject]
      have hzero : q.refs k = 0 := Peer.refs_of_ge (hnew ▸ h.calleeObjects)
      rw [hone, hzero, hnone, if_pos hnew]
    · have hlt : k < q'.objects.length := by omega
      have hsame : q'.npnCreateObject.refs k = q'.refs k := by
        rw [Peer.refs, Peer.refs, Peer.npnCreateObject, List.getElem?_append_left hlt]
      rw [hsame, h.calleeRefs k hlt, if_neg hnew, Nat.add_zero]
  callerObjects := h.callerObjects
  calleeObjects := by
    have hlen : q'.npnCreateObject.objects.length = q'.objects.length + 1 := List.length_append ..
    have := h.calleeObjects
    omega
  callerProxies := h.callerProxies
  calleeProxies := h.calleeProxies
  callerStubs := h.callerStubs
  calleeStubs := h.calleeStubs
  callerCount := h.callerCount
  calleeCount := h.calleeCount
  lent k id j hmem := by
    rcases List.mem_append.mp hmem with hmem | hmem
    · exact h.lent k id j hmem
    · cases List.mem_singleton.mp hmem
  apart := List.pairwise_append.mpr ⟨h.apart, List.pairwise_singleton .., fun a _ b hb => by
    rw [List.mem_singleton.mp hb]
    cases a <;> trivial⟩
  lender k id j hmem := by
    rcases List.mem_append.mp hmem with hmem | hmem
    · exact h.lender k id j hmem
    · cases List.mem_singleton.mp hmem
  owned i o hmem := by
    have hlen : q'.npnCreateObject.objects.length = q'.objects.length + 1 := List.length_append ..
    rcases List.mem_append.mp hmem with hmem | hmem
    · have := h.owned i o hmem
      omega
    · cases List.mem_singleton.mp hmem
      omega
  sharing _ hj := by cases hj
  holding _ hj := by cases hj

/-- A reference to a proxy of the callee that was there, or to one that came. -/
theorem keep (h : Lending p q ts none none p' q') {j : Nat} {q₁ : Peer}
    (hq : q₁ = q'.onProxy j fun x => { x with referenceCount := x.referenceCount + 1 }) :
    ((∃ x, q.proxies[j]? = some x ∧ 0 < x.referenceCount) → Lending p q ts (some j) none p' q₁) ∧
    ((∃ o id, .lent o id j ∈ ts) → Lending p q ts none (some j) p' q₁) := by
  have hcell (k : Nat) : q₁.proxies[k]? = (q'.proxies[k]?).map fun x =>
      { x with referenceCount := x.referenceCount + if some j = some k then 1 else 0 } := by
    rw [hq, Peer.onProxy, List.getElem?_modify]
    by_cases hk : j = k
    · simp [hk]
    · simp [hk]
  have hlen : q₁.proxies.length = q'.proxies.length := by rw [hq]; exact List.length_modify ..
  have hobjects : q₁.objects = q'.objects := by rw [hq]; rfl
  have hrefs (k : Nat) : q₁.refs k = q'.refs k := by rw [Peer.refs, Peer.refs, hobjects]
  have hstubs : q₁.stubs = q.stubs := by rw [hq]; exact h.calleeStubs
  constructor
  · intro hold
    obtain ⟨x, hx, hcount⟩ := hold
    have hj : j < q.proxies.length := (List.getElem?_eq_some_iff.mp hx).1
    refine
      { h with
        calleeRefs := fun k hk => by rw [hrefs]; exact h.calleeRefs k (by rwa [hobjects] at hk)
        calleeObjects := by rw [hobjects]; exact h.calleeObjects
        calleeProxies := fun k hk => ?_
        calleeStubs := hstubs
        calleeCount := by rw [hlen]; exact h.calleeCount
        lent := fun o id k hmem => ?_
        owned := fun i o hmem => by rw [hobjects]; exact h.owned i o hmem
        holding := fun k hk => ?_ }
    · rw [hcell, h.calleeProxies k hk, Option.map_map]
      rfl
    · obtain ⟨hid, hk, hlookup, y, hy, hy'⟩ := h.lent o id k hmem
      refine ⟨hid, hk, hlookup, y, ?_, hy'⟩
      rw [hcell, hy, Option.map_some, if_neg (fun heq => by have := Option.some.inj heq; omega)]
      rfl
    · cases hk
      exact ⟨x, hx, hcount⟩
  · intro hcame
    obtain ⟨o, id, hmem⟩ := hcame
    obtain ⟨-, hj, -⟩ := h.lent o id j hmem
    refine
      { h with
        calleeRefs := fun k hk => by rw [hrefs]; exact h.calleeRefs k (by rwa [hobjects] at hk)
        calleeObjects := by rw [hobjects]; exact h.calleeObjects
        calleeProxies := fun k hk => ?_
        calleeStubs := hstubs
        calleeCount := by rw [hlen]; exact h.calleeCount
        lent := fun o' id' k hmem' => ?_
        owned := fun i o hmem => by rw [hobjects]; exact h.owned i o hmem
        sharing := fun k hk => ?_ }
    · rw [hcell, h.calleeProxies k hk, Option.map_map, if_neg (fun heq => by have := Option.some.inj heq; omega)]
      rfl
    · obtain ⟨hid, hk, hlookup, y, hy, hyid, hyvalid, hycount⟩ := h.lent o' id' k hmem'
      refine ⟨hid, hk, hlookup, { y with referenceCount := y.referenceCount + if some j = some k then 1 else 0 }, ?_,
        hyid, hyvalid, ?_⟩
      · rw [hcell, hy, Option.map_some]
      · dsimp only
        rw [hycount]
        rfl
    · cases hk
      exact ⟨o, id, hmem⟩

/-! ### Releasing -/

theorem releasePlain {variant : { variant : NPVariant (Option NPObjectRef) // ∀ r, variant ≠ .object (some r) }}
    (h : Lending p q (.plain variant :: ts) old shared p' q') : Lending p q ts old shared p' q' where
  callerRefs k hk := by
    rw [h.callerRefs k hk, List.countP_cons]
    rfl
  calleeRefs k hk := by
    rw [h.calleeRefs k hk, List.countP_cons]
    rfl
  callerObjects := h.callerObjects
  calleeObjects := h.calleeObjects
  callerProxies := h.callerProxies
  calleeProxies := h.calleeProxies
  callerStubs := h.callerStubs
  calleeStubs := h.calleeStubs
  callerCount := h.callerCount
  calleeCount := h.calleeCount
  lent o id j hmem := h.lent o id j (List.mem_cons_of_mem _ hmem)
  apart := (List.pairwise_cons.mp h.apart).2
  lender o id j hmem := h.lender o id j (List.mem_cons_of_mem _ hmem)
  owned i o hmem := h.owned i o (List.mem_cons_of_mem _ hmem)
  sharing j hj := by
    obtain ⟨o, id, hmem⟩ := h.sharing j hj
    rcases List.mem_cons.mp hmem with heq | hmem
    · cases heq
    · exact ⟨o, id, hmem⟩
  holding := h.holding

theorem releaseOwn {i o : Nat} (h : Lending p q (.own i o :: ts) old shared p' q') :
    Lending p q ts old shared p' ((q'.npnReleaseObject o).give o) where
  callerRefs k hk := by
    rw [h.callerRefs k hk, List.countP_cons]
    rfl
  calleeRefs k hk := by
    have hk' : k < q'.objects.length := by simpa [Peer.give, Peer.npnReleaseObject, Peer.onObject] using hk
    rw [Peer.refs_give, Peer.refs_release, h.calleeRefs k hk', List.countP_cons, Transfer.owns_own]
    omega
  callerObjects := h.callerObjects
  calleeObjects := by simpa [Peer.give, Peer.npnReleaseObject, Peer.onObject] using h.calleeObjects
  callerProxies := h.callerProxies
  calleeProxies := h.calleeProxies
  callerStubs := h.callerStubs
  calleeStubs := h.calleeStubs
  callerCount := h.callerCount
  calleeCount := h.calleeCount
  lent o id j hmem := h.lent o id j (List.mem_cons_of_mem _ hmem)
  apart := (List.pairwise_cons.mp h.apart).2
  lender o id j hmem := h.lender o id j (List.mem_cons_of_mem _ hmem)
  owned k o' hmem := by
    simpa [Peer.give, Peer.npnReleaseObject, Peer.onObject] using h.owned k o' (List.mem_cons_of_mem _ hmem)
  sharing j hj := by
    obtain ⟨o, id, hmem⟩ := h.sharing j hj
    rcases List.mem_cons.mp hmem with heq | hmem
    · cases heq
    · exact ⟨o, id, hmem⟩
  holding := h.holding

/-- A proxy that nothing else refers to goes, and its stub with it. -/
theorem releaseLent {o id j : Nat} (h : Lending p q (.lent o id j :: ts) old shared p' q') (hshared : shared ≠ some j) :
    ∃ p₁ q₁, q'.releaseObject p' (.proxy j) = (q₁, p₁) ∧ Lending p q ts old shared p₁ q₁ := by
  obtain ⟨hid, hj, hlookup, x, hx, hxid, hvalid, hcount⟩ := h.lent o id j List.mem_cons_self
  rw [if_neg hshared] at hcount
  obtain ⟨q₁, hq, hobjects, hstubs, hlen, hcells⟩ := @Peer.releaseObject_last x q' p' j hx hcount hvalid
  obtain ⟨hlookups, hrefs, hproxies, hcallerObjects, hcallerStubs⟩ := Peer.handleDeallocate_spec (hxid ▸ hlookup)
  obtain ⟨hhead, htail⟩ := List.pairwise_cons.mp h.apart
  refine ⟨_, q₁, hq, ?_⟩
  refine
    { callerRefs := fun k hk => ?_, calleeRefs := fun k hk => ?_, callerObjects := hcallerObjects.trans h.callerObjects,
      calleeObjects := by rw [hobjects]; exact h.calleeObjects, callerProxies := hproxies.trans h.callerProxies,
      calleeProxies := fun k hk => ?_, callerStubs := fun id' hid' => ?_, calleeStubs := hstubs.trans h.calleeStubs,
      callerCount := by rw [hcallerStubs]; exact h.callerCount, calleeCount := by rw [hlen]; exact h.calleeCount,
      lent := fun o' id' j' hmem => ?_, apart := htail,
      lender := fun o' id' j' hmem => h.lender o' id' j' (List.mem_cons_of_mem _ hmem),
      owned := fun i o' hmem => by rw [hobjects]; exact h.owned i o' (List.mem_cons_of_mem _ hmem),
      sharing := fun k hk => ?_, holding := h.holding }
  · rw [hrefs, h.callerRefs k hk, List.countP_cons, Transfer.lends_lent]
    omega
  · have hsame : q₁.refs k = q'.refs k := by rw [Peer.refs, Peer.refs, hobjects]
    rw [hsame, h.calleeRefs k (by rwa [hobjects] at hk), List.countP_cons]
    rfl
  · rw [hcells k (by omega), h.calleeProxies k hk]
  · rw [hlookups, if_neg (by omega), h.callerStubs id' hid']
  · obtain ⟨hid', hj', hlookup', y, hy, hy'⟩ := h.lent o' id' j' (List.mem_cons_of_mem _ hmem)
    have hne : id ≠ id' ∧ j ≠ j' := hhead _ hmem
    refine ⟨hid', hj', ?_, y, ?_, hy'⟩
    · rw [hlookups, hxid, if_neg (Ne.symm hne.1)]
      exact hlookup'
    · rw [hcells j' (Ne.symm hne.2)]
      exact hy
  · obtain ⟨o', id', hmem⟩ := h.sharing k hk
    rcases List.mem_cons.mp hmem with heq | hmem
    · cases heq
      exact absurd hk hshared
    · exact ⟨o', id', hmem⟩

/-- The reference a function has to it keeps a proxy, and its stub. -/
theorem releaseShared {o id j : Nat} (h : Lending p q (.lent o id j :: ts) old (some j) p' q') :
    ∃ q₁, q'.releaseObject p' (.proxy j) = (q₁, p') ∧ Lending p q (ts ++ [.lent o id j]) old none p' q₁ := by
  obtain ⟨hid, hj, hlookup, x, hx, hxid, hvalid, hcount⟩ := h.lent o id j List.mem_cons_self
  rw [if_pos rfl] at hcount
  obtain ⟨q₁, hq₁⟩ : ∃ q₁, q₁ = q'.onProxy j fun x => { x with referenceCount := x.referenceCount - 1 } := ⟨_, rfl⟩
  have hq := @Peer.releaseObject_more x q' p' j hx (by omega)
  rw [← hq₁] at hq
  have hobjects : q₁.objects = q'.objects := by rw [hq₁]; rfl
  have hcells (k : Nat) (hk : k ≠ j) : q₁.proxies[k]? = q'.proxies[k]? := by
    rw [hq₁]
    simp [Peer.onProxy, Ne.symm hk]
  have hcell : q₁.proxies[j]? = some { x with referenceCount := x.referenceCount - 1 } := by
    rw [hq₁]
    simp [Peer.onProxy, hx]
  have hlen : q₁.proxies.length = q'.proxies.length := by rw [hq₁]; exact List.length_modify ..
  obtain ⟨hhead, htail⟩ := List.pairwise_cons.mp h.apart
  refine ⟨q₁, hq, ?_⟩
  refine
    { callerRefs := fun k hk => ?_, calleeRefs := fun k hk => ?_, callerObjects := h.callerObjects,
      calleeObjects := by rw [hobjects]; exact h.calleeObjects, callerProxies := h.callerProxies,
      calleeProxies := fun k hk => ?_, callerStubs := h.callerStubs, calleeStubs := by rw [hq₁]; exact h.calleeStubs,
      callerCount := h.callerCount, calleeCount := by rw [hlen]; exact h.calleeCount,
      lent := fun o' id' j' hmem => ?_, apart := ?_, lender := fun o' id' j' hmem => ?_,
      owned := fun i o' hmem => ?_, sharing := fun _ hk => (by cases hk),
      holding := h.holding }
  · rw [h.callerRefs k hk, List.countP_cons, List.countP_append, List.countP_singleton]
  · have hsame : q₁.refs k = q'.refs k := by rw [Peer.refs, Peer.refs, hobjects]
    rw [hsame, h.calleeRefs k (by rwa [hobjects] at hk), List.countP_cons, List.countP_append]
    rfl
  · rw [hcells k (by omega), h.calleeProxies k hk]
  · rcases List.mem_append.mp hmem with hmem | hmem
    · obtain ⟨hid', hj', hlookup', y, hy, hyid, hyvalid, hycount⟩ := h.lent o' id' j' (List.mem_cons_of_mem _ hmem)
      have hne : id ≠ id' ∧ j ≠ j' := hhead _ hmem
      rw [if_neg (fun heq => hne.2 (Option.some.inj heq))] at hycount
      refine ⟨hid', hj', hlookup', y, ?_, hyid, hyvalid, hycount⟩
      rw [hcells j' (Ne.symm hne.2)]
      exact hy
    · cases List.mem_singleton.mp hmem
      exact ⟨hid, hj, hlookup, _, hcell, hxid, hvalid, by dsimp only; rw [hcount]; rfl⟩
  · refine List.pairwise_append.mpr ⟨htail, List.pairwise_singleton .., fun a ha b hb => ?_⟩
    rw [List.mem_singleton.mp hb]
    exact (hhead a ha).symm
  · rcases List.mem_append.mp hmem with hmem | hmem
    · exact h.lender o' id' j' (List.mem_cons_of_mem _ hmem)
    · cases List.mem_singleton.mp hmem
      exact h.lender o id j List.mem_cons_self
  · rw [hobjects]
    rcases List.mem_append.mp hmem with hmem | hmem
    · exact h.owned i o' (List.mem_cons_of_mem _ hmem)
    · cases List.mem_singleton.mp hmem

theorem releaseVariant_plain (own other : Peer)
    (variant : { variant : NPVariant (Option NPObjectRef) // ∀ r, variant ≠ .object (some r) }) :
    own.releaseVariantValue other variant.val.received = (own, other) := by
  obtain ⟨variant, hplain⟩ := variant
  cases variant with
  | object r =>
    cases r with
    | none => rfl
    | some r => exact absurd rfl (hplain r)
  | _ => rfl

/-- When everything that came has been released, the callee has what its function returns. -/
theorem releaseAll {rs ks : List Transfer} (h : Lending p q (rs ++ ks) old shared p' q')
    (hks : ∀ o id j, .lent o id j ∈ ks → shared ≠ some j) :
    ∃ p₁ q₁ us, q'.releaseVariants p' (rs.map Transfer.got) = (q₁, p₁) ∧ Lending p q us old none p₁ q₁ ∧
      (shared = none ∧ us = ks ∨ ∃ o id j, shared = some j ∧ .lent o id j ∈ rs ∧ us = ks ++ [.lent o id j]) := by
  induction rs generalizing ks shared p' q' with
  | nil =>
    cases shared with
    | none => exact ⟨p', q', ks, rfl, h, .inl ⟨rfl, rfl⟩⟩
    | some j =>
      obtain ⟨o, id, hmem⟩ := h.sharing j rfl
      exact absurd rfl (hks o id j hmem)
  | cons t rs ih =>
    cases t with
    | plain variant =>
      obtain ⟨p₁, q₁, us, hrelease, hus, hcases⟩ := ih h.releasePlain hks
      refine ⟨p₁, q₁, us, ?_, hus, hcases.imp_right fun ⟨o, id, j, hj, hmem, hus⟩ => ⟨o, id, j, hj, .tail _ hmem, hus⟩⟩
      rw [List.map_cons, Peer.releaseVariants, Transfer.got, releaseVariant_plain]
      exact hrelease
    | own i o =>
      obtain ⟨p₁, q₁, us, hrelease, hus, hcases⟩ := ih h.releaseOwn hks
      exact ⟨p₁, q₁, us, hrelease, hus, hcases.imp_right fun ⟨o, id, j, hj, hmem, hus⟩ => ⟨o, id, j, hj, .tail _ hmem, hus⟩⟩
    | lent o id j =>
      by_cases hj : shared = some j
      · subst hj
        rw [List.cons_append] at h
        obtain ⟨q₂, hq₂, hnext⟩ := h.releaseShared
        rw [List.append_assoc] at hnext
        obtain ⟨p₁, q₁, us, hrelease, hus, hcases⟩ := ih hnext fun o id j _ hj => by cases hj
        rcases hcases with ⟨-, hus'⟩ | ⟨o', id', j', hj', -⟩
        · refine ⟨p₁, q₁, us, ?_, hus, .inr ⟨o, id, j, rfl, List.mem_cons_self, hus'⟩⟩
          rw [List.map_cons, Peer.releaseVariants, Transfer.got, Peer.releaseVariantValue, hq₂]
          exact hrelease
        · cases hj'
      · obtain ⟨p₂, q₂, hq₂, hnext⟩ := h.releaseLent hj
        obtain ⟨p₁, q₁, us, hrelease, hus, hcases⟩ := ih hnext hks
        refine ⟨p₁, q₁, us, ?_, hus, hcases.imp_right fun ⟨o, id, j, hj, hmem, hus⟩ => ⟨o, id, j, hj, .tail _ hmem, hus⟩⟩
        rw [List.map_cons, Peer.releaseVariants, Transfer.got, Peer.releaseVariantValue, hq₂]
        exact hrelease

theorem releaseEvery (h : Lending p q ts old shared p' q') :
    ∃ p₁ q₁ us, q'.releaseVariants p' (ts.map Transfer.got) = (q₁, p₁) ∧ Lending p q us old none p₁ q₁ ∧
      (shared = none ∧ us = [] ∨ ∃ o id j, shared = some j ∧ .lent o id j ∈ ts ∧ us = [.lent o id j]) := by
  have hall : Lending p q (ts ++ []) old shared p' q' := by rwa [List.append_nil]
  exact releaseAll hall nofun

end Lending

/-! ### Arguments -/

theorem NPString.carried_iff {string : NPString} : string.carried.isSome ↔ string.Permitted ∧ string.Short := by
  rw [NPString.carried, NPString.Permitted, NPString.Short]
  split <;> simp_all

theorem NPString.carried_eq {string : NPString} (h : string.carried.isSome) : string.carried = some string.received := by
  rw [NPString.carried] at h ⊢
  split at h
  · rename_i hfits
    rw [if_pos hfits]
    rfl
  · cases h

/-- An object of the caller's own. -/
def NPVariant.isLocal : NPVariant (Option NPObjectRef) → Bool
  | .object (some (.local _)) => true
  | _ => false

/-- A variant that comes across: a string has its characters, a proxy its object. -/
def NPVariant.Sendable (p q : Peer) : NPVariant (Option NPObjectRef) → Prop
  | .string value => value.Permitted ∧ value.Short
  | .object (some (.proxy i)) => ∃ x o, p.proxies[i]? = some x ∧ q.npobjectLookupLocal x.id = some o
  | _ => True

/-- What the other end has of it, whose next proxy is the one with number `n`. -/
def NPVariant.arrives (p q : Peer) (n : Nat) : NPVariant (Option NPObjectRef) → NPVariant (Option NPObjectRef)
  | .object (some (.local _)) => .object (some (.proxy n))
  | .object (some (.proxy i)) => .object (((p.proxies[i]?).bind fun x => q.npobjectLookupLocal x.id).map .local)
  | variant => variant.received

/-- The arguments as the other end has them. -/
def arrivedArgs (p q : Peer) : Nat → List (NPVariant (Option NPObjectRef)) → List (NPVariant (Option NPObjectRef))
  | _, [] => []
  | n, variant :: variants => variant.arrives p q n :: arrivedArgs p q (n + variant.isLocal.toNat) variants

/-- The caller's proxy was for that object. -/
def Transfer.Meant (p q : Peer) : Transfer → Prop
  | .own i o => ∃ x, p.proxies[i]? = some x ∧ q.npobjectLookupLocal x.id = some o
  | _ => True

namespace Lending
variable {p q p' q' : Peer} {ts : List Transfer} {old shared : Option Nat}

theorem transfer (h : Lending p q ts none none p' q') (hq : ∀ id o, q.npobjectLookupLocal id = some o → o < q.objects.length)
    {variant : NPVariant (Option NPObjectRef)} (hlocal : ∀ o, variant = .object (some (.local o)) → o < p.objects.length)
    (hsend : variant.Sendable p q) (hroom : variant.isLocal = true → p'.stubs.length + 1 < 2 ^ 32) :
    ∃ p₁ m q₁ t, p'.doSendNPVariantHelper false variant = some (p₁, m) ∧
      q'.doRecvNPVariantHelper m = some (q₁, variant.arrives p q q'.proxies.length) ∧
      Lending p q (ts ++ [t]) none none p₁ q₁ ∧ t.given = variant ∧ t.got = variant.arrives p q q'.proxies.length ∧
      t.Meant p q ∧ p₁.stubs.length = p'.stubs.length + variant.isLocal.toNat ∧
      q₁.proxies.length = q'.proxies.length + variant.isLocal.toNat := by
  have hplain (v : { variant : NPVariant (Option NPObjectRef) // ∀ r, variant ≠ .object (some r) }) := h.plain v
  cases variant with
  | object r =>
    cases r with
    | none => exact ⟨p', .object .null, q', _, rfl, rfl, hplain ⟨.object none, nofun⟩, rfl, rfl, trivial, rfl, rfl⟩
    | some r =>
      cases r with
      | «local» o =>
        refine ⟨_, .object (.senderOwned (p'.stubs.length + 1) o), _, .lent o (p'.stubs.length + 1) q'.proxies.length, ?_,
          rfl, h.lend (hlocal o rfl) rfl rfl, rfl, rfl, trivial, ?_, ?_⟩
        · simp only [Peer.doSendNPVariantHelper, NPVariant.carried, Option.bind_some, NPVariant.withObject,
            Peer.sendNPObject]
          rw [if_pos (hroom rfl)]
          rfl
        · exact List.length_append ..
        · exact List.length_append ..
      | proxy i =>
        obtain ⟨x, o, hx, hlookup⟩ := hsend
        have hx' : p'.proxies[i]? = some x := by rw [h.callerProxies]; exact hx
        have hlookup' : q'.npobjectLookupLocal x.id = some o := (h.calleeLookup x.id).trans hlookup
        have ho := Nat.lt_of_lt_of_le (hq _ _ hlookup) h.calleeObjects
        have harrives : NPVariant.arrives p q q'.proxies.length (.object (some (.proxy i))) = .object (some (.local o)) := by
          simp only [NPVariant.arrives, hx, Option.bind_some, hlookup, Option.map_some]
        refine ⟨p', .object (.receiverOwned x.id false x.target x.generation), _, .own i o, ?_, ?_, h.own i ho, rfl,
          harrives.symm, ⟨x, hx, hlookup⟩, rfl, rfl⟩
        · simp only [Peer.doSendNPVariantHelper, NPVariant.carried, Option.bind_some, NPVariant.withObject,
            Peer.sendNPObject, Peer.doSendNPObjectHelper, hx']
          rfl
        · rw [harrives]
          simp only [Peer.doRecvNPVariantHelper, NPVariant.withObject, Peer.doRecvNPObjectHelper, hlookup']
          rfl
  | string value =>
    have hcarried := NPString.carried_eq (NPString.carried_iff.mpr hsend)
    refine ⟨p', .string value.received, q', _, ?_, rfl, hplain ⟨.string value, nofun⟩, rfl, rfl, trivial, rfl, rfl⟩
    simp only [Peer.doSendNPVariantHelper, NPVariant.carried, hcarried]
    rfl
  | void => exact ⟨p', .void, q', _, rfl, rfl, hplain ⟨.void, nofun⟩, rfl, rfl, trivial, rfl, rfl⟩
  | null => exact ⟨p', .null, q', _, rfl, rfl, hplain ⟨.null, nofun⟩, rfl, rfl, trivial, rfl, rfl⟩
  | bool value => exact ⟨p', .bool value, q', _, rfl, rfl, hplain ⟨.bool value, nofun⟩, rfl, rfl, trivial, rfl, rfl⟩
  | int32 value => exact ⟨p', .int32 value, q', _, rfl, rfl, hplain ⟨.int32 value, nofun⟩, rfl, rfl, trivial, rfl, rfl⟩
  | double value => exact ⟨p', .double value, q', _, rfl, rfl, hplain ⟨.double value, nofun⟩, rfl, rfl, trivial, rfl, rfl⟩
  | other type => exact ⟨p', .other type, q', _, rfl, rfl, hplain ⟨.other type, nofun⟩, rfl, rfl, trivial, rfl, rfl⟩

theorem transferAll (h : Lending p q ts none none p' q') (hq : ∀ id o, q.npobjectLookupLocal id = some o → o < q.objects.length)
    {variants : List (NPVariant (Option NPObjectRef))}
    (hlocals : ∀ variant ∈ variants, ∀ o, variant = .object (some (.local o)) → o < p.objects.length) (hsend : ∀ variant ∈ variants, variant.Sendable p q)
    (hroom : 0 < variants.countP NPVariant.isLocal → p'.stubs.length + variants.countP NPVariant.isLocal < 2 ^ 32) :
    ∃ p₁ ms q₁ us, p'.sendVariants variants = some (p₁, ms) ∧
      q'.recvVariants ms = some (q₁, arrivedArgs p q q'.proxies.length variants) ∧
      Lending p q (ts ++ us) none none p₁ q₁ ∧ us.map Transfer.given = variants ∧
      us.map Transfer.got = arrivedArgs p q q'.proxies.length variants ∧ ∀ t ∈ us, t.Meant p q := by
  induction variants generalizing ts p' q' with
  | nil => exact ⟨p', [], q', [], rfl, rfl, by rwa [List.append_nil], rfl, rfl, nofun⟩
  | cons variant variants ih =>
    rw [List.forall_mem_cons] at hlocals hsend
    rw [List.countP_cons] at hroom
    obtain ⟨p₁, m, q₁, t, hs, hr, hnext, hgiven, hgot, hmeant, hstubs, hproxies⟩ :=
      h.transfer hq hlocals.1 hsend.1 fun hlocal => by
        rw [if_pos hlocal] at hroom
        omega
    have hroom' : 0 < variants.countP NPVariant.isLocal → p₁.stubs.length + variants.countP NPVariant.isLocal < 2 ^ 32 := by
      rw [hstubs]
      cases hlocal : variant.isLocal with
      | true =>
        rw [if_pos hlocal] at hroom
        rw [Bool.toNat_true]
        omega
      | false =>
        rw [if_neg (by rw [hlocal]; exact Bool.false_ne_true)] at hroom
        exact hroom
    obtain ⟨p₂, ms, q₂, us, hs', hr', hlast, hgivens, hgots, hmeants⟩ := ih hnext hlocals.2 hsend.2 hroom'
    rw [hproxies] at hr' hgots
    refine ⟨p₂, m :: ms, q₂, t :: us, ?_, ?_, ?_, ?_, ?_, ?_⟩
    · simp only [Peer.sendVariants, hs, hs', Option.bind_some, Option.map_some]
    · simp only [Peer.recvVariants, hr, hr', Option.bind_some, Option.map_some, arrivedArgs]
    · rwa [List.append_assoc] at hlast
    · rw [List.map_cons, hgiven, hgivens]
    · rw [List.map_cons, hgot, hgots, arrivedArgs]
    · exact List.forall_mem_cons.mpr ⟨hmeant, hmeants⟩

/-- What came across could come. -/
theorem transferred {variant : NPVariant (Option NPObjectRef)} {p₁ q₁ : Peer} {m : NPVariant NPObjectMessage}
    {got : NPVariant (Option NPObjectRef)} (h : Lending p q ts none none p' q')
    (hproxy : ∀ i, variant = .object (some (.proxy i)) → i < p.proxies.length)
    (hsend : p'.doSendNPVariantHelper false variant = some (p₁, m)) (hrecv : q'.doRecvNPVariantHelper m = some (q₁, got)) :
    variant.Sendable p q ∧ (variant.isLocal = true → p'.stubs.length + 1 < 2 ^ 32) := by
  cases variant with
  | object r =>
    cases r with
    | none => exact ⟨trivial, nofun⟩
    | some r =>
      cases r with
      | «local» o =>
        refine ⟨trivial, fun _ => ?_⟩
        simp only [Peer.doSendNPVariantHelper, NPVariant.carried, Option.bind_some, NPVariant.withObject,
          Peer.sendNPObject] at hsend
        split at hsend
        · assumption
        · cases hsend
      | proxy i =>
        refine ⟨?_, nofun⟩
        obtain ⟨x, hx⟩ : ∃ x, p.proxies[i]? = some x := ⟨_, List.getElem?_eq_getElem (hproxy i rfl)⟩
        have hx' : p'.proxies[i]? = some x := by rw [h.callerProxies]; exact hx
        simp only [Peer.doSendNPVariantHelper, NPVariant.carried, Option.bind_some, NPVariant.withObject,
          Peer.sendNPObject, Peer.doSendNPObjectHelper, hx', Bool.not_false, if_true] at hsend
        cases hsend
        simp only [Peer.doRecvNPVariantHelper, NPVariant.withObject, Peer.doRecvNPObjectHelper] at hrecv
        rw [h.calleeLookup] at hrecv
        cases hlookup : q.npobjectLookupLocal x.id with
        | none =>
          rw [hlookup] at hrecv
          cases hrecv
        | some o => exact ⟨x, o, hx, hlookup⟩
  | string value =>
    refine ⟨NPString.carried_iff.mp ?_, nofun⟩
    cases hcarried : value.carried with
    | none =>
      simp only [Peer.doSendNPVariantHelper, NPVariant.carried, hcarried] at hsend
      cases hsend
    | some value' => rfl
  | _ => exact ⟨trivial, nofun⟩

theorem transferredAll {variants : List (NPVariant (Option NPObjectRef))} {p₁ q₁ : Peer} {ms : List (NPVariant NPObjectMessage)}
    {gots : List (NPVariant (Option NPObjectRef))} (h : Lending p q ts none none p' q')
    (hq : ∀ id o, q.npobjectLookupLocal id = some o → o < q.objects.length)
    (hlocals : ∀ variant ∈ variants, ∀ o, variant = .object (some (.local o)) → o < p.objects.length)
    (hproxies : ∀ variant ∈ variants, ∀ i, variant = .object (some (.proxy i)) → i < p.proxies.length)
    (hsend : p'.sendVariants variants = some (p₁, ms)) (hrecv : q'.recvVariants ms = some (q₁, gots)) :
    (∀ variant ∈ variants, variant.Sendable p q) ∧
      (0 < variants.countP NPVariant.isLocal → p'.stubs.length + variants.countP NPVariant.isLocal < 2 ^ 32) := by
  induction variants generalizing ts p' q' ms gots with
  | nil => exact ⟨nofun, nofun⟩
  | cons variant variants ih =>
    rw [List.forall_mem_cons] at hlocals hproxies
    obtain ⟨⟨p₂, m⟩, hs, hrest⟩ := Option.bind_eq_some_iff.mp hsend
    obtain ⟨⟨p₃, ms'⟩, hs', heq⟩ := Option.map_eq_some_iff.mp hrest
    cases heq
    obtain ⟨⟨q₂, got⟩, hr, hrest⟩ := Option.bind_eq_some_iff.mp hrecv
    obtain ⟨⟨q₃, gots'⟩, hr', heq⟩ := Option.map_eq_some_iff.mp hrest
    cases heq
    obtain ⟨hsendable, hroom⟩ := h.transferred hproxies.1 hs hr
    obtain ⟨p₄, m', q₄, t, hs₄, hr₄, hnext, -, -, -, hstubs, -⟩ := h.transfer hq hlocals.1 hsendable hroom
    cases hs.symm.trans hs₄
    cases hr.symm.trans hr₄
    obtain ⟨hsendables, hrooms⟩ := ih hnext hlocals.2 hproxies.2 hs' hr'
    refine ⟨List.forall_mem_cons.mpr ⟨hsendable, hsendables⟩, ?_⟩
    rw [List.countP_cons]
    rw [hstubs] at hrooms
    cases hlocal : variant.isLocal with
    | true =>
      have hone := hroom hlocal
      rw [hlocal, Bool.toNat_true] at hrooms
      rw [if_pos rfl]
      intro _
      rcases Nat.eq_zero_or_pos (variants.countP NPVariant.isLocal) with hzero | hpos
      · omega
      · have := hrooms hpos
        omega
    | false =>
      rw [hlocal, Bool.toNat_false] at hrooms
      rw [if_neg Bool.false_ne_true]
      exact hrooms

/-- What came stands for what was given. -/
theorem means (h : Lending p q ts old shared p' q') {t : Transfer} (hmem : t ∈ ts) (hmeant : t.Meant p q) :
    t.got.map (designated q' p' .callee) = (t.given.map (designated p q .caller)).received := by
  cases t with
  | plain variant =>
    obtain ⟨variant, hplain⟩ := variant
    cases variant with
    | object r =>
      cases r with
      | none => rfl
      | some r => exact absurd rfl (hplain r)
    | _ => rfl
  | lent o id j =>
    obtain ⟨-, -, hlookup, x, hx, hxid, -⟩ := h.lent o id j hmem
    subst hxid
    simp only [Transfer.got, Transfer.given, NPVariant.map, NPVariant.received, designated, hx, hlookup]
  | own i o =>
    obtain ⟨x, hx, hlookup⟩ := hmeant
    simp only [Transfer.got, Transfer.given, NPVariant.map, NPVariant.received, designated, hx, hlookup]

end Lending

/-! ### Results -/

/-- The reference that a result has. -/
def resultRefs (result : NPVariant Designated) (side : CallEnd) (o : Nat) : Nat :=
  if result = .object (.object side o) then 1 else 0

/-- Every count is what it was but for the result's reference. -/
structure Settled (p q : Peer) (result : NPVariant Designated) (p' q' : Peer) : Prop where
  callerRefs : ∀ o, p'.refs o = p.refs o + resultRefs result .caller o
  calleeRefs : ∀ o, q'.refs o = q.refs o + resultRefs result .callee o
  callerProxies : ∀ i < p.proxies.length, p'.proxies[i]? = p.proxies[i]?
  calleeProxies : ∀ j < q.proxies.length, q'.proxies[j]? = q.proxies[j]?

/-- An object that a function may return: one of its own end, or a proxy that it has or was given. -/
def ReturnedObject.Lawful (q : Peer) (given : List (NPVariant (Option NPObjectRef))) : ReturnedObject → Prop
  | .created => True
  | .known (.local o) => o < q.objects.length
  | .known (.proxy j) => (∃ x, q.proxies[j]? = some x ∧ 0 < x.referenceCount) ∨ .object (some (.proxy j)) ∈ given

/-- A result that comes across: a string has its characters, a proxy of the callee its object, and there is a number
    for a stub. -/
def NPVariant.Returnable (p q : Peer) : NPVariant (Option ReturnedObject) → Prop
  | .string value => value.Permitted ∧ value.Short
  | .object (some (.known (.proxy j))) => ∀ x, q.proxies[j]? = some x → ∃ o, p.npobjectLookupLocal x.id = some o
  | .object (some _) => q.stubs.length + 1 < 2 ^ 32
  | _ => True

namespace Lending
variable {p q p' q' : Peer} {ts : List Transfer} {old shared : Option Nat}

theorem callerCounts (h : Lending p q ts old shared p' q') (o : Nat) : p'.refs o = p.refs o + ts.countP (·.lends o) := by
  by_cases ho : o < p.objects.length
  · exact h.callerRefs o ho
  · have hnone : ts.countP (·.lends o) = 0 := by
      refine List.countP_eq_zero.mpr fun t ht hlends => ?_
      cases t with
      | lent k id j =>
        have := h.lender k id j ht
        have := eq_of_beq hlends
        omega
      | plain variant => cases hlends
      | own i k => cases hlends
    rw [Peer.refs_of_ge (by rw [h.callerObjects]; omega), Peer.refs_of_ge (by omega), hnone]

theorem calleeCounts (h : Lending p q ts old shared p' q') (o : Nat) : q'.refs o = q.refs o + ts.countP (·.owns o) := by
  by_cases ho : o < q'.objects.length
  · exact h.calleeRefs o ho
  · have hle := h.calleeObjects
    have hnone : ts.countP (·.owns o) = 0 := by
      refine List.countP_eq_zero.mpr fun t ht howns => ?_
      cases t with
      | own i k =>
        have := h.owned i k ht
        have := eq_of_beq howns
        omega
      | plain variant => cases howns
      | lent k id j => cases howns
    rw [Peer.refs_of_ge (by omega), Peer.refs_of_ge (by omega), hnone]

/-- Without a reference more, the callee's proxies are as they were. -/
theorem calleeKept (h : Lending p q ts none shared p' q') (j : Nat) (hj : j < q.proxies.length) :
    q'.proxies[j]? = q.proxies[j]? := by
  rw [h.calleeProxies j hj]
  cases q.proxies[j]? <;> simp

/-! ### Replies -/

/-- A result without an object. -/
theorem replyPlain (h : Lending p q [] none none p' q') {result : NPVariant (Option NPObjectRef)}
    (hplain : ∀ r, result ≠ .object (some r)) (hstring : ∀ value, result = .string value → value.Permitted ∧ value.Short) :
    ∃ m, q'.doSendNPVariantHelper true result = some (q', m) ∧ p'.doRecvNPVariantHelper m = some (p', result.received) ∧
      Settled p q (result.received.map (designated p' q' .caller)) p' q' := by
  have hsettled (designation : NPVariant Designated) (hnone : ∀ side o, designation ≠ .object (.object side o)) :
      Settled p q designation p' q' := by
    refine ⟨fun o => ?_, fun o => ?_, fun i _ => by rw [h.callerProxies], h.calleeKept⟩
    · rw [h.callerCounts, resultRefs, if_neg (hnone _ _)]
      rfl
    · rw [h.calleeCounts, resultRefs, if_neg (hnone _ _)]
      rfl
  cases result with
  | object r =>
    cases r with
    | none => exact ⟨.object .null, rfl, rfl, hsettled _ nofun⟩
    | some r => exact absurd rfl (hplain r)
  | string value =>
    have hcarried := NPString.carried_eq (NPString.carried_iff.mpr (hstring value rfl))
    refine ⟨.string value.received, ?_, rfl, hsettled _ nofun⟩
    simp only [Peer.doSendNPVariantHelper, NPVariant.carried, hcarried]
    rfl
  | void => exact ⟨.void, rfl, rfl, hsettled _ nofun⟩
  | null => exact ⟨.null, rfl, rfl, hsettled _ nofun⟩
  | bool value => exact ⟨.bool value, rfl, rfl, hsettled _ nofun⟩
  | int32 value => exact ⟨.int32 value, rfl, rfl, hsettled _ nofun⟩
  | double value => exact ⟨.double value, rfl, rfl, hsettled _ nofun⟩
  | other type => exact ⟨.other type, rfl, rfl, hsettled _ nofun⟩

/-- What comes of a result that is an object: the caller's pointer stands for it, and has a reference to it. -/
def Replied (p q p' q' : Peer) (r : NPObjectRef) (designation : Designated) : Prop :=
  ∃ q₁ m p₁ got, q'.doSendNPVariantHelper true (.object (some r)) = some (q₁, m) ∧
    p'.doRecvNPVariantHelper m = some (p₁, .object got) ∧ designated p₁ q₁ .caller got = designation ∧
    Settled p q (.object designation) p₁ q₁

theorem replyOwn {i o : Nat} (h : Lending p q [.own i o] none none p' q') (hroom : q.stubs.length + 1 < 2 ^ 32) :
    Replied p q p' q' (.local o) (.object .callee o) := by
  obtain ⟨q₁, hq₁⟩ : ∃ q₁, q₁ = ((q'.npobjectCreateStub o).1.npnReleaseObject o).give o := ⟨_, rfl⟩
  obtain ⟨p₁, hp₁⟩ : ∃ p₁, p₁ = (p'.npobjectCreateProxy (q'.stubs.length + 1) o 0).1 := ⟨_, rfl⟩
  have hroom' : q'.stubs.length + 1 < 2 ^ 32 := by rw [h.calleeStubs]; exact hroom
  have hstubs : q₁.stubs = q'.stubs ++ [⟨o, true, 0⟩] := by rw [hq₁]; rfl
  have hrefs (k : Nat) : q₁.refs k = q'.refs k := by
    have ho := h.owned i o (List.mem_singleton.mpr rfl)
    rw [hq₁, Peer.refs_give, Peer.refs_release]
    change (q'.npnRetainObject o).refs k - _ = _
    rw [Peer.refs_retained ho]
    omega
  have hproxy : p₁.proxies[p'.proxies.length]? = some ⟨q'.stubs.length + 1, 1, true, false, o, 0, false⟩ := by
    rw [hp₁]
    exact List.getElem?_concat_length ..
  refine ⟨q₁, .object (.senderOwned (q'.stubs.length + 1) o), p₁, some (.proxy p'.proxies.length), ?_, ?_, ?_,
    fun k => ?_, fun k => ?_, fun k hk => ?_, fun j hj => ?_⟩
  · simp only [Peer.doSendNPVariantHelper, NPVariant.carried, Option.bind_some, NPVariant.withObject, Peer.sendNPObject]
    rw [if_pos hroom', hq₁]
    rfl
  · rw [hp₁]
    rfl
  · simp only [designated, hproxy, Peer.lookupLocal_append hstubs, if_true]
  · have hsame : p₁.refs k = p'.refs k := by rw [hp₁]; rfl
    rw [hsame, h.callerCounts, resultRefs, if_neg nofun]
    rfl
  · rw [hrefs, h.calleeCounts, List.countP_singleton, Transfer.owns_own, resultRefs]
    simp [eq_comm]
  · have hlen : k < p'.proxies.length := by rw [h.callerProxies]; exact hk
    rw [← h.callerProxies, hp₁]
    exact List.getElem?_append_left hlen
  · rw [← h.calleeKept j hj, hq₁]
    rfl

theorem replyOld {j o : Nat} {x : NPObjectProxy} (h : Lending p q [] (some j) none p' q') (hx : q.proxies[j]? = some x)
    (hlookup : p.npobjectLookupLocal x.id = some o) (ho : o < p.objects.length) :
    Replied p q p' q' (.proxy j) (.object .caller o) := by
  have hj : j < q.proxies.length := (List.getElem?_eq_some_iff.mp hx).1
  obtain ⟨y, hy⟩ : ∃ y, y = { x with referenceCount := x.referenceCount + 1 } := ⟨_, rfl⟩
  have hcell : q'.proxies[j]? = some y := by rw [h.calleeProxies j hj, hx, if_pos rfl, Option.map_some, hy]
  have hpos : 0 < x.referenceCount := by
    obtain ⟨z, hz, hpos⟩ := h.holding j rfl
    rw [hx] at hz
    cases hz
    exact hpos
  have hmore : y.referenceCount ≠ 1 := by
    rw [hy]
    dsimp only
    omega
  have hlookup' : p'.npobjectLookupLocal x.id = some o := (h.callerStubs _ (Peer.lookupLocal_le hlookup)).trans hlookup
  obtain ⟨q₁, hq₁⟩ : ∃ q₁, q₁ = q'.onProxy j fun x => { x with referenceCount := x.referenceCount - 1 } := ⟨_, rfl⟩
  have hrefs (k : Nat) : ((p'.npnRetainObject o).take o).refs k = p'.refs k + if k = o then 1 else 0 := by
    rw [Peer.refs_take]
    exact Peer.refs_retained (by rw [h.callerObjects]; exact ho) k
  refine ⟨q₁, .object (.receiverOwned x.id false x.target x.generation), (p'.npnRetainObject o).take o, some (.local o), ?_,
    ?_, rfl, fun k => ?_, fun k => ?_, fun k _ => ?_, fun k hk => ?_⟩
  · simp only [Peer.doSendNPVariantHelper, NPVariant.carried, Option.bind_some, NPVariant.withObject, Peer.sendNPObject,
      Peer.doSendNPObjectHelper, hcell, hmore, if_false, Bool.not_true, Bool.false_eq_true, hq₁]
    rw [hy]
    rfl
  · simp only [Peer.doRecvNPVariantHelper, NPVariant.withObject, Peer.doRecvNPObjectHelper, hlookup']
    rfl
  · rw [hrefs, h.callerCounts, resultRefs]
    simp [eq_comm]
  · have hsame : q₁.refs k = q'.refs k := by rw [hq₁]; rfl
    rw [hsame, h.calleeCounts, resultRefs, if_neg nofun]
    rfl
  · exact congrArg (·[k]?) h.callerProxies
  · by_cases hkj : k = j
    · subst hkj
      simp [hq₁, Peer.onProxy, hcell, hx, hy]
    · have hold : q'.proxies[k]? = q.proxies[k]? := by
        rw [h.calleeProxies k hk, if_neg (fun heq => hkj (Option.some.inj heq).symm)]
        cases q.proxies[k]? <;> rfl
      rw [← hold, hq₁]
      simp [Peer.onProxy, Ne.symm hkj]

/-- The proxy that came goes back, and its stub with it. -/
theorem replyLent {o id j : Nat} (h : Lending p q [.lent o id j] none none p' q') :
    Replied p q p' q' (.proxy j) (.object .caller o) := by
  have hmem : Transfer.lent o id j ∈ [Transfer.lent o id j] := List.mem_singleton.mpr rfl
  obtain ⟨-, hj, hlookup, x, hx, rfl, -, hcount⟩ := h.lent o id j hmem
  have ho : o < p'.objects.length := by
    rw [h.callerObjects]
    exact h.lender o x.id j hmem
  obtain ⟨q₁, hq₁⟩ : ∃ q₁, q₁ = (q'.onProxy j fun x => { x with referenceCount := 0, released := true }).freeProxy j :=
    ⟨_, rfl⟩
  have hcell : (q'.onProxy j fun x => { x with referenceCount := 0, released := true }).proxies[j]? =
      some { x with referenceCount := 0, released := true } := by simp [Peer.onProxy, hx]
  obtain ⟨p₁, hp₁⟩ : ∃ p₁, p₁ = (p'.npnRetainObject o).take o := ⟨_, rfl⟩
  have hlookup₁ : p₁.npobjectLookupLocal x.id = some o := by
    rw [hp₁]
    exact hlookup
  obtain ⟨-, hrefs, hproxies, -⟩ := Peer.handleDeallocate_spec hlookup₁
  refine ⟨q₁, .object (.receiverOwned x.id true x.target x.generation), p₁.npclassHandleDeallocate x.id, some (.local o), ?_,
    ?_, rfl, fun k => ?_, fun k => ?_, fun k _ => ?_, fun k hk => ?_⟩
  · simp only [Peer.doSendNPVariantHelper, NPVariant.carried, Option.bind_some, NPVariant.withObject, Peer.sendNPObject,
      Peer.doSendNPObjectHelper, hx, hcount, hq₁, Bool.not_true, Bool.false_eq_true, if_false]
    rfl
  · simp only [Peer.doRecvNPVariantHelper, NPVariant.withObject, Peer.doRecvNPObjectHelper, hlookup, if_true, ← hp₁,
      Peer.destroyStub_eq hlookup₁]
    rfl
  · rw [hrefs, hp₁, Peer.refs_take, Peer.refs_retained ho, h.callerCounts, List.countP_singleton, Transfer.lends_lent,
      resultRefs, Nat.add_sub_cancel]
    simp [eq_comm]
  · have hsame : q₁.refs k = q'.refs k := by
      rw [hq₁]
      simp only [Peer.freeProxy, hcell]
      rfl
    rw [hsame, h.calleeCounts, resultRefs, if_neg nofun]
    rfl
  · rw [hproxies, hp₁]
    exact congrArg (·[k]?) h.callerProxies
  · rw [← h.calleeKept k hk, hq₁]
    simp only [Peer.freeProxy, hcell]
    simp [Peer.onProxy, show j ≠ k by omega]

/-! ### From the function to the caller -/

/-- A proxy among what came is one that was made for an object of the caller. -/
theorem Transfer.got_proxy {t : Transfer} {j : Nat} (h : t.got = .object (some (.proxy j))) : ∃ o id, t = .lent o id j := by
  cases t with
  | plain variant =>
    obtain ⟨variant, hplain⟩ := variant
    cases variant with
    | object r => exact absurd (show NPVariant.object r = _ from h) (hplain _)
    | _ => cases h
  | lent o id k =>
    cases h
    exact ⟨o, id, rfl⟩
  | own i o => cases h

/-- A result that the callee has when it has released what came. -/
def Delivered (p q p' q₁ : Peer) (came : List (NPVariant (Option NPObjectRef))) (result : NPVariant (Option NPObjectRef)) :
    Prop :=
  ∃ p₂ q₂ q₃ m p₄ got, q₁.releaseVariants p' came = (q₂, p₂) ∧ q₂.doSendNPVariantHelper true result = some (q₃, m) ∧
    p₂.doRecvNPVariantHelper m = some (p₄, got) ∧
    got.map (designated p₄ q₃ .caller) = (result.map (designated q₁ p' .callee)).received ∧
    Settled p q (got.map (designated p₄ q₃ .caller)) p₄ q₃

theorem Replied.delivered {p₂ q₁ q₂ : Peer} {came : List (NPVariant (Option NPObjectRef))} {r : NPObjectRef}
    {designation : Designated} (h : Replied p q p₂ q₂ r designation) (hrelease : q₁.releaseVariants p' came = (q₂, p₂))
    (hmeant : designated q₁ p' .callee (some r) = designation) : Delivered p q p' q₁ came (.object (some r)) := by
  obtain ⟨q₃, m, p₄, got, hsend, hrecv, hgot, hsettled⟩ := h
  refine ⟨p₂, q₂, q₃, m, p₄, .object got, hrelease, hsend, hrecv, ?_, ?_⟩
  · simp only [NPVariant.map, NPVariant.received, hgot, hmeant]
  · simpa only [NPVariant.map, hgot] using hsettled

theorem delivered_plain (h : Lending p q ts none none p' q') {result : NPVariant (Option NPObjectRef)}
    (hplain : ∀ r, result ≠ .object (some r)) (hstring : ∀ value, result = .string value → value.Permitted ∧ value.Short) :
    Delivered p q p' q' (ts.map Transfer.got) result := by
  obtain ⟨p₂, q₂, us, hrelease, hus, hcases⟩ := h.releaseEvery
  rcases hcases with ⟨-, rfl⟩ | ⟨o, id, j, hj, -⟩
  · obtain ⟨m, hsend, hrecv, hsettled⟩ := hus.replyPlain hplain hstring
    refine ⟨p₂, q₂, q₂, m, p₂, _, hrelease, hsend, hrecv, ?_, hsettled⟩
    cases result with
    | object r =>
      cases r with
      | none => rfl
      | some r => exact absurd rfl (hplain r)
    | _ => rfl
  · cases hj

theorem delivered_own {i o : Nat} (h : Lending p q (ts ++ [.own i o]) none none p' q') (hroom : q.stubs.length + 1 < 2 ^ 32) :
    Delivered p q p' q' (ts.map Transfer.got) (.object (some (.local o))) := by
  have hks : ∀ (k id j : Nat), .lent k id j ∈ [Transfer.own i o] → (none : Option Nat) ≠ some j := fun _ _ _ _ => nofun
  obtain ⟨p₂, q₂, us, hrelease, hus, hcases⟩ := releaseAll h hks
  rcases hcases with ⟨-, rfl⟩ | ⟨k, id, j, hj, -⟩
  · exact (hus.replyOwn hroom).delivered hrelease rfl
  · cases hj

theorem delivered_old {j o : Nat} {x : NPObjectProxy} (h : Lending p q ts (some j) none p' q') (hx : q.proxies[j]? = some x)
    (hlookup : p.npobjectLookupLocal x.id = some o) (ho : o < p.objects.length) :
    Delivered p q p' q' (ts.map Transfer.got) (.object (some (.proxy j))) := by
  obtain ⟨p₂, q₂, us, hrelease, hus, hcases⟩ := h.releaseEvery
  rcases hcases with ⟨-, rfl⟩ | ⟨k, id, j, hj, -⟩
  · refine (hus.replyOld hx hlookup ho).delivered hrelease ?_
    have hcell := h.calleeProxies j (List.getElem?_eq_some_iff.mp hx).1
    have hlookup' := (h.callerStubs _ (Peer.lookupLocal_le hlookup)).trans hlookup
    rw [hx, Option.map_some] at hcell
    simp only [designated, hcell, hlookup']
  · cases hj

theorem delivered_shared {j : Nat} (h : Lending p q ts none (some j) p' q') :
    Delivered p q p' q' (ts.map Transfer.got) (.object (some (.proxy j))) := by
  obtain ⟨p₂, q₂, us, hrelease, hus, hcases⟩ := h.releaseEvery
  rcases hcases with ⟨hnone, -⟩ | ⟨o, id, k, hk, hmem, rfl⟩
  · cases hnone
  · cases hk
    refine hus.replyLent.delivered hrelease ?_
    obtain ⟨-, -, hlookup, x, hx, hxid, -⟩ := h.lent o id j hmem
    subst hxid
    simp only [designated, hx, hlookup]

/-- Whatever a function returns that comes across is what the caller gets, with its reference and no other. -/
theorem returned (h : Lending p q ts none none p' q') (hp : ∀ id o, p.npobjectLookupLocal id = some o → o < p.objects.length)
    {result : NPVariant (Option ReturnedObject)}
    (hlawful : ∀ r, result = .object (some r) → r.Lawful q (ts.map Transfer.got)) (hcan : result.Returnable p q) :
    ∃ q₁ result', result.withObject (fun r => some (q'.returnObject r)) q' = some (q₁, result') ∧
      Delivered p q p' q₁ (ts.map Transfer.got) result' := by
  cases result with
  | object r =>
    cases r with
    | none => exact ⟨q', .object none, rfl, h.delivered_plain nofun nofun⟩
    | some r =>
      have hr := hlawful r rfl
      cases r with
      | created => exact ⟨_, _, rfl, h.create.delivered_own hcan⟩
      | known r =>
        cases r with
        | «local» o => exact ⟨_, _, rfl, (h.own 0 (Nat.lt_of_lt_of_le hr h.calleeObjects)).delivered_own hcan⟩
        | proxy j =>
          rcases hr with ⟨x, hx, hpos⟩ | hgiven
          · obtain ⟨o, hlookup⟩ := hcan x hx
            exact ⟨_, _, rfl, ((h.keep rfl).1 ⟨x, hx, hpos⟩).delivered_old hx hlookup (hp _ _ hlookup)⟩
          · obtain ⟨t, ht, hgot⟩ := List.mem_map.mp hgiven
            obtain ⟨o, id, rfl⟩ := Transfer.got_proxy hgot
            exact ⟨_, _, rfl, ((h.keep rfl).2 ⟨o, id, ht⟩).delivered_shared⟩
  | string value => exact ⟨q', .string value, rfl, h.delivered_plain nofun fun value' heq => by cases heq; exact hcan⟩
  | void => exact ⟨q', .void, rfl, h.delivered_plain nofun nofun⟩
  | null => exact ⟨q', .null, rfl, h.delivered_plain nofun nofun⟩
  | bool value => exact ⟨q', .bool value, rfl, h.delivered_plain nofun nofun⟩
  | int32 value => exact ⟨q', .int32 value, rfl, h.delivered_plain nofun nofun⟩
  | double value => exact ⟨q', .double value, rfl, h.delivered_plain nofun nofun⟩
  | other type => exact ⟨q', .other type, rfl, h.delivered_plain nofun nofun⟩

/-- A stub of the callee's own object had a number. -/
theorem room_of_sent {i o : Nat} {q₁ : Peer} {m : NPVariant NPObjectMessage} (h : Lending p q [.own i o] none none p' q')
    (hsend : q'.doSendNPVariantHelper true (.object (some (.local o))) = some (q₁, m)) : q.stubs.length + 1 < 2 ^ 32 := by
  rw [← h.calleeStubs]
  simp only [Peer.doSendNPVariantHelper, NPVariant.carried, Option.bind_some, NPVariant.withObject, Peer.sendNPObject] at hsend
  split at hsend
  · assumption
  · cases hsend

/-- What the caller got could be returned. -/
theorem returnable (h : Lending p q ts none none p' q') (hissued : ∀ x ∈ q.proxies, x.id ≤ p.stubs.length)
    {result : NPVariant (Option ReturnedObject)}
    (hlawful : ∀ r, result = .object (some r) → r.Lawful q (ts.map Transfer.got))
    {q₁ q₂ q₃ p₂ p₄ : Peer} {result' got : NPVariant (Option NPObjectRef)} {m : NPVariant NPObjectMessage}
    (hcall : result.withObject (fun r => some (q'.returnObject r)) q' = some (q₁, result'))
    (hrelease : q₁.releaseVariants p' (ts.map Transfer.got) = (q₂, p₂))
    (hsend : q₂.doSendNPVariantHelper true result' = some (q₃, m))
    (hrecv : p₂.doRecvNPVariantHelper m = some (p₄, got)) : result.Returnable p q := by
  have hown {i o : Nat} (hlend : Lending p q (ts ++ [.own i o]) none none p' q₁) (hresult : result' = .object (some (.local o))) :
      q.stubs.length + 1 < 2 ^ 32 := by
    have hks : ∀ (k id j : Nat), .lent k id j ∈ [Transfer.own i o] → (none : Option Nat) ≠ some j := fun _ _ _ _ => nofun
    obtain ⟨p₅, q₅, us, hrelease', hus, hcases⟩ := releaseAll hlend hks
    cases hrelease.symm.trans hrelease'
    rw [hresult] at hsend
    rcases hcases with ⟨-, rfl⟩ | ⟨k, id, j, hj, -⟩
    · exact hus.room_of_sent hsend
    · cases hj
  cases result with
  | string value =>
    cases hcall
    refine NPString.carried_iff.mp ?_
    cases hcarried : value.carried with
    | none =>
      simp only [Peer.doSendNPVariantHelper, NPVariant.carried, hcarried] at hsend
      cases hsend
    | some value' => rfl
  | object r =>
    cases r with
    | none => trivial
    | some r =>
      have hr := hlawful r rfl
      cases r with
      | created =>
        cases hcall
        exact hown h.create rfl
      | known r =>
        cases r with
        | «local» o =>
          cases hcall
          exact hown (h.own 0 (Nat.lt_of_lt_of_le hr h.calleeObjects)) rfl
        | proxy j =>
          cases hcall
          intro x hx
          have hj := (List.getElem?_eq_some_iff.mp hx).1
          have hold : ∃ y, q.proxies[j]? = some y ∧ 0 < y.referenceCount := by
            rcases hr with hold | hgiven
            · exact hold
            · obtain ⟨t, ht, hgot⟩ := List.mem_map.mp hgiven
              obtain ⟨o, id, rfl⟩ := Transfer.got_proxy hgot
              obtain ⟨-, hnew, -⟩ := h.lent o id j ht
              omega
          obtain ⟨p₅, q₅, us, hrelease', hus, hcases⟩ := ((h.keep rfl).1 hold).releaseEvery
          cases hrelease.symm.trans hrelease'
          have hcell : q₂.proxies[j]? = some { x with referenceCount := x.referenceCount + 1 } := by
            rw [hus.calleeProxies j hj, hx, if_pos rfl, Option.map_some]
          have hmore : x.referenceCount + 1 ≠ 1 := by
            obtain ⟨y, hy, hpos⟩ := hold
            rw [hx] at hy
            cases hy
            omega
          simp only [Peer.doSendNPVariantHelper, NPVariant.carried, Option.bind_some, NPVariant.withObject,
            Peer.sendNPObject, Peer.doSendNPObjectHelper, hcell, hmore, if_false, Bool.not_true, Bool.false_eq_true] at hsend
          cases hsend
          simp only [Peer.doRecvNPVariantHelper, NPVariant.withObject, Peer.doRecvNPObjectHelper] at hrecv
          rw [← hus.callerStubs x.id (hissued x (List.mem_of_getElem? hx))]
          cases hlookup : p₂.npobjectLookupLocal x.id with
          | none =>
            rw [hlookup] at hrecv
            cases hrecv
          | some o => exact ⟨o, rfl⟩
  | _ => trivial

end Lending
end NSPluginWrapper
