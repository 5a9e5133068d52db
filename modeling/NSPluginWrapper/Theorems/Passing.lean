import NSPluginWrapper.Lib.Cells
import NSPluginWrapper.Npruntime.Passing
import NSPluginWrapper.Theorems.Composite
import NSPluginWrapper.Theorems.Objects

/-! Whose a reference is after it was sent: an object's is gone whatever became of the message, once the sender has
    come to it; a string is only freed when all was sent. -/

namespace NSPluginWrapper
open Lib

namespace Peer
variable {p q : Peer} {r : NPObjectRef} {o i : Nat}

/-! ### References -/

/-- The references that the end's own code has. -/
def heldBy (p : Peer) : NPObjectRef → Nat
  | .local o => ((p.objects[o]?).map (·.held)).getD 0
  | .proxy i => ((p.proxies[i]?).map (·.referenceCount)).getD 0

/-- An object's count. -/
def countOf (p : Peer) (o : Nat) : Nat := ((p.objects[o]?).map (·.referenceCount)).getD 0

/-- The stubs of an object that hold a reference. -/
def stubsOf (p : Peer) (o : Nat) : Nat := p.stubs.countP fun s => s.isLive && s.npobject == o

/-- One reference to `r` is given up, and no other; apart from the stubs, so much is counted. -/
structure Gives (p q : Peer) (r : NPObjectRef) : Prop where
  held : ∀ r', q.heldBy r' + (if r' = r then 1 else 0) = p.heldBy r'
  counts : ∀ o, q.countOf o + p.stubsOf o + (if r = .local o then 1 else 0) = p.countOf o + q.stubsOf o

/-- One reference to `r` is new, and no other. -/
structure Gains (p q : Peer) (r : NPObjectRef) : Prop where
  held : ∀ r', q.heldBy r' = p.heldBy r' + (if r' = r then 1 else 0)
  counts : ∀ o, q.countOf o + p.stubsOf o = p.countOf o + q.stubsOf o + (if r = .local o then 1 else 0)

/-! ### What each operation does to them -/

theorem heldBy_onObject (p : Peer) (o : Nat) (f : NPObject → NPObject) (r : NPObjectRef) : (p.onObject o f).heldBy r =
    if r = .local o then ((p.objects[o]?).map fun x => (f x).held).getD 0 else p.heldBy r := by
  cases r with
  | «local» o' => simpa [heldBy, onObject] using field_modify (g := NPObject.held) p.objects o o' f
  | proxy i => simp [heldBy, onObject]

theorem countOf_onObject (p : Peer) (o o' : Nat) (f : NPObject → NPObject) : (p.onObject o f).countOf o' =
    if o' = o then ((p.objects[o]?).map fun x => (f x).referenceCount).getD 0 else p.countOf o' :=
  field_modify p.objects o o' f

theorem heldBy_onProxy (p : Peer) (i : Nat) (f : NPObjectProxy → NPObjectProxy) (r : NPObjectRef) : (p.onProxy i f).heldBy r =
    if r = .proxy i then ((p.proxies[i]?).map fun x => (f x).referenceCount).getD 0 else p.heldBy r := by
  cases r with
  | «local» o' => simp [heldBy, onProxy]
  | proxy i' => simpa [heldBy, onProxy] using field_modify (g := NPObjectProxy.referenceCount) p.proxies i i' f

theorem heldBy_freeProxy (p : Peer) (i : Nat) (r : NPObjectRef) : (p.freeProxy i).heldBy r = p.heldBy r := by
  unfold freeProxy
  split
  · rfl
  · rename_i x hx
    refine (heldBy_onProxy p i (fun x => { x with isFreed := true }) r).trans ?_
    split
    · rename_i hr
      rw [hr]
      rfl
    · rfl

theorem freeProxy_objects (p : Peer) (i : Nat) : (p.freeProxy i).objects = p.objects := by
  unfold freeProxy
  split <;> rfl

/-- A new stub. -/
theorem stubsOf_createStub (p : Peer) (o o' : Nat) :
    (p.npobjectCreateStub o).1.stubsOf o' = p.stubsOf o' + if o' = o then 1 else 0 := by
  by_cases ho : o' = o
  · simp [npobjectCreateStub, stubsOf, npnRetainObject, onObject, ho]
  · simp [npobjectCreateStub, stubsOf, npnRetainObject, onObject, ho, Ne.symm ho]

/-- What is read off objects and proxies is the same where they are. -/
theorem heldBy_congr (hobjects : q.objects = p.objects) (hproxies : q.proxies = p.proxies) : q.heldBy r = p.heldBy r := by
  cases r <;> simp [heldBy, hobjects, hproxies]

/-! ### The sender -/

/-- `do_send_NPObject_pass_ref` gives the reference up. -/
theorem passRef_gives (hhas : p.Has r) : p.Gives (p.doSendNPObjectHelper true (some r)).1 r := by
  cases r with
  | «local» o =>
    obtain ⟨x, hx, hheld⟩ := hhas
    have hobjects : (p.doSendNPObjectHelper true (some (.local o))).1.objects =
        (p.onObject o fun x => { x with held := x.held - 1 }).objects := by
      simp only [doSendNPObjectHelper, npobjectCreateStub, npnRetainObject, npnReleaseObject, give, onObject, if_true]
      rw [List.modify_modify_eq, List.modify_modify_eq]
      rfl
    refine ⟨fun r' => ?_, fun o' => ?_⟩
    · rw [heldBy_congr hobjects rfl, heldBy_onObject]
      split
      · rename_i hr
        simp only [hr, heldBy, hx, Option.map_some, Option.getD_some]
        omega
      · rfl
    · have hcount : (p.doSendNPObjectHelper true (some (.local o))).1.countOf o' = p.countOf o' := by
        rw [countOf, hobjects, ← countOf, countOf_onObject]
        split
        · rename_i ho
          rw [ho]
          rfl
        · rfl
      have hstubs := stubsOf_createStub p o o'
      rw [hcount]
      change _ = p.countOf o' + (p.npobjectCreateStub o).1.stubsOf o'
      rw [hstubs]
      by_cases ho : o' = o
      · simp [ho]
        omega
      · have hne : o ≠ o' := Ne.symm ho
        simp [ho, hne]
  | proxy i =>
    obtain ⟨x, hx, hcount⟩ := hhas
    have hsent : (p.doSendNPObjectHelper true (some (.proxy i))).1.objects = p.objects ∧
        (p.doSendNPObjectHelper true (some (.proxy i))).1.stubs = p.stubs ∧
        ∀ r', (p.doSendNPObjectHelper true (some (.proxy i))).1.heldBy r' =
          if r' = .proxy i then x.referenceCount - 1 else p.heldBy r' := by
      simp only [doSendNPObjectHelper, hx, Bool.not_true, Bool.false_eq_true, if_false]
      by_cases hlast : x.referenceCount = 1
      · rw [if_pos hlast]
        refine ⟨freeProxy_objects _ _, freeProxy_stubs, fun r' => ?_⟩
        rw [heldBy_freeProxy, heldBy_onProxy, hx, hlast]
        rfl
      · rw [if_neg hlast]
        refine ⟨rfl, rfl, fun r' => ?_⟩
        rw [heldBy_onProxy, hx]
        rfl
    obtain ⟨hobjects, hstubs, hheld⟩ := hsent
    refine ⟨fun r' => ?_, fun o => ?_⟩
    · rw [hheld]
      split
      · rename_i hr
        simp only [hr, heldBy, hx, Option.map_some, Option.getD_some]
        omega
      · rfl
    · rw [countOf, hobjects, stubsOf, stubsOf, hstubs]
      simp [countOf]

/-! ### The receiver -/

/-- The object of a proxy is there where its stub says. -/
def Finds (q p : Peer) : NPObjectRef → Prop
  | .local _ => True
  | .proxy i => ∃ x o y, p.proxies[i]? = some x ∧ q.npobjectLookupLocal x.id = some o ∧ q.objects[o]? = some y

theorem stubsOf_destroy {id : Nat} {stub : NPObjectStub} (h : q.npobjectLookupStub id = some stub) (o : Nat) :
    (q.npobjectDestroyStubObj id stub).stubsOf o + (if stub.npobject = o then 1 else 0) = q.stubsOf o := by
  cases id with
  | zero => cases h
  | succ i =>
    obtain ⟨hget, hlive⟩ := Option.filter_eq_some_iff.mp h
    have hcount := countP_modify (f := fun s => { s with isLive := false, releases := s.releases + 1 })
      (P := fun s => s.isLive && s.npobject == o) hget
    have hdestroyed : (q.npobjectDestroyStubObj (i + 1) stub).stubsOf o = (q.stubs.modify i fun s =>
      { s with isLive := false, releases := s.releases + 1 }).countP fun s => s.isLive && s.npobject == o := rfl
    rw [hdestroyed, stubsOf]
    by_cases ho : stub.npobject = o
    · simpa [hlive, ho] using hcount
    · have hother : (stub.npobject == o) = false := by simpa using ho
      simpa [hlive, ho, hother] using hcount

/-- The receiver of a retained object. -/
theorem take_gains {o : Nat} {y : NPObject} (hy : q.objects[o]? = some y) : q.Gains ((q.npnRetainObject o).take o) (.local o) := by
  have hobjects : ((q.npnRetainObject o).take o).objects =
      (q.onObject o fun x => { x with referenceCount := x.referenceCount + 1, held := x.held + 1 }).objects := by
    simp only [take, npnRetainObject, onObject]
    rw [List.modify_modify_eq]
    rfl
  refine ⟨fun r' => ?_, fun o' => ?_⟩
  · rw [heldBy_congr hobjects rfl, heldBy_onObject]
    split
    · rename_i hr
      simp [hr, heldBy, hy]
    · rfl
  · rw [countOf, hobjects, ← countOf, countOf_onObject]
    change _ + q.stubsOf o' = _ + q.stubsOf o' + _
    by_cases ho : o' = o
    · simp [ho, countOf, hy]
      omega
    · have hne : o ≠ o' := Ne.symm ho
      simp [ho, hne]

theorem destroyStub_heldBy (q : Peer) (id : Nat) (stub : NPObjectStub) (r : NPObjectRef) :
    (q.npobjectDestroyStubObj id stub).heldBy r = q.heldBy r := by
  refine (heldBy_onObject q stub.npobject (fun x => { x with referenceCount := x.referenceCount - 1 }) r).trans ?_
  split
  · rename_i hr
    rw [hr]
    rfl
  · rfl

/-- The reference of a stub goes with it. -/
theorem Gains.destroyStub {q' : Peer} {id : Nat} {stub : NPObjectStub} (h : q.Gains q' (.local o))
    (hstub : q'.npobjectLookupStub id = some stub) (ho : stub.npobject = o) (hpos : 0 < q'.countOf o) :
    q.Gains (q'.npobjectDestroyStubObj id stub) (.local o) := by
  refine ⟨fun r => ?_, fun o' => ?_⟩
  · rw [destroyStub_heldBy, h.held]
  · have hcounts := h.counts o'
    have hstubs := stubsOf_destroy hstub o'
    have hcount : (q'.npobjectDestroyStubObj id stub).countOf o' = if o' = o then q'.countOf o - 1 else q'.countOf o' := by
      refine (countOf_onObject q' stub.npobject o' (fun x => { x with referenceCount := x.referenceCount - 1 })).trans ?_
      rw [ho]
      split
      · cases hx : q'.objects[o]? <;> simp [countOf, hx]
      · rfl
    rw [hcount]
    by_cases hsame : o' = o
    · subst hsame
      simp only [ho, if_true] at hcounts hstubs ⊢
      omega
    · have hne : o ≠ o' := Ne.symm hsame
      simp only [ho, hne, hsame, NPObjectRef.local.injEq, if_false] at hcounts hstubs ⊢
      omega

theorem said_of_proxy {x : NPObjectProxy} (passRef : Bool) (hx : p.proxies[i]? = some x) : ∃ releaseStub,
    (p.doSendNPObjectHelper passRef (some (.proxy i))).2 = .receiverOwned x.id releaseStub x.target x.generation := by
  simp only [doSendNPObjectHelper, hx]
  cases passRef with
  | false => exact ⟨false, rfl⟩
  | true =>
    by_cases hlast : x.referenceCount = 1
    · exact ⟨true, by simp [hlast]⟩
    · exact ⟨false, by simp [hlast]⟩

/-- What was said of an object comes to the receiver as one reference. -/
theorem received_gains (hhas : p.Has r) (hfinds : q.Finds p r) (passRef : Bool) (generation : Nat) :
    ∃ q' r', q.doRecvNPObjectHelper generation (p.doSendNPObjectHelper passRef (some r)).2 = some (q', some r') ∧ q.Gains q' r' := by
  cases r with
  | «local» o =>
    have hsaid : (p.doSendNPObjectHelper passRef (some (.local o))).2 = .senderOwned (p.stubs.length + 1) o := rfl
    rw [hsaid]
    refine ⟨_, _, rfl, fun r' => ?_, fun o' => rfl⟩
    cases r' with
    | «local» o' => rfl
    | proxy i =>
      simp only [heldBy, List.getElem?_append]
      by_cases hi : i < q.proxies.length
      · have hne : i ≠ q.proxies.length := Nat.ne_of_lt hi
        simp [hi, hne]
      · by_cases heq : i = q.proxies.length
        · simp [heq]
        · have hbeyond : i - q.proxies.length ≠ 0 := by omega
          simp [hi, heq, hbeyond]
  | proxy i =>
    obtain ⟨x, o, y, hx, hfound, hy⟩ := hfinds
    obtain ⟨releaseStub, hsaid⟩ := said_of_proxy passRef hx
    have htake := take_gains hy
    simp only [hsaid, doRecvNPObjectHelper, hfound]
    cases releaseStub with
    | false => exact ⟨_, _, rfl, htake⟩
    | true =>
      obtain ⟨stub, hstub, hnpobject⟩ := Option.map_eq_some_iff.mp hfound
      have hlookup : ((q.npnRetainObject o).take o).npobjectLookupStub x.id = some stub := (lookupStub_congr rfl _).trans hstub
      have hpos : 0 < ((q.npnRetainObject o).take o).countOf o := by
        have hcounts := htake.counts o
        change _ + q.stubsOf o = _ + q.stubsOf o + _ at hcounts
        rw [if_pos rfl] at hcounts
        omega
      refine ⟨((q.npnRetainObject o).take o).npobjectDestroyStubObj x.id stub, .local o, ?_, htake.destroyStub hlookup hnpobject hpos⟩
      simp only [if_true, npobjectDestroyStub, hlookup, Option.map_some]

/-- A receiver that gets one more reference has found the object. -/
theorem finds_of_gains {passRef : Bool} {generation : Nat} {q' : Peer} {r' : NPObjectRef} (hhas : p.Has r)
    (hrecv : q.doRecvNPObjectHelper generation (p.doSendNPObjectHelper passRef (some r)).2 = some (q', some r'))
    (hgains : q.Gains q' r') : q.Finds p r := by
  cases r with
  | «local» o => trivial
  | proxy i =>
    obtain ⟨x, hx, -⟩ := hhas
    obtain ⟨releaseStub, hsaid⟩ := said_of_proxy passRef hx
    simp only [hsaid, doRecvNPObjectHelper] at hrecv
    cases hfound : q.npobjectLookupLocal x.id with
    | none => simp [hfound] at hrecv
    | some o =>
      refine ⟨x, o, ?_⟩
      cases hy : q.objects[o]? with
      | some y => exact ⟨y, hx, hfound, rfl⟩
      | none =>
        exfalso
        have hheld : q'.heldBy (.local o) = 0 ∧ r' = .local o := by
          have hnone : ((q.npnRetainObject o).take o).heldBy (.local o) = 0 := by
            simp [heldBy, take, npnRetainObject, onObject, hy]
          simp only [hfound] at hrecv
          cases releaseStub with
          | false =>
            cases hrecv
            exact ⟨hnone, rfl⟩
          | true =>
            simp only [if_true, npobjectDestroyStub, Option.map_map] at hrecv
            obtain ⟨stub, -, hq⟩ := Option.map_eq_some_iff.mp hrecv
            cases hq
            exact ⟨(destroyStub_heldBy ..).trans hnone, rfl⟩
        have hnew := hgains.held (.local o)
        rw [hheld.1, hheld.2, if_pos rfl] at hnew
        omega

/-! ### An object, and a variant -/

section
variable (p q : Peer) (passRef : Bool) (plugin : UInt32) (m : OutMessage)

/-- What the receiver has of an object, if the send succeeds: one reference more. -/
def Receives (said : NPObjectMessage) (result : EStateM.Result Failure OutMessage Unit) : Prop :=
  ∀ t, result = .ok () t → ∀ generation, ∃ q' r', q.doRecvNPObjectHelper generation said = some (q', some r') ∧ q.Gains q' r'

/-- A sender without pass_ref keeps what it has, but for the reference of a new stub. -/
def Keeps (p' : Peer) (variant : LocalVariant) : Prop :=
  p' = p ∨ ∃ o, variant = .object (some (.local o)) ∧ p' = (p.npobjectCreateStub o).1

/-- The ownership of an object that is sent by itself. -/
structure PassesObject (r : NPObjectRef) : Prop where
  given : passRef = true → p.Gives (p.passNPObject passRef plugin (some r) m).1 r
  received : q.Receives (p.passNPObject passRef plugin (some r) m).2.1 (p.passNPObject passRef plugin (some r) m).2.2
  kept : passRef = false → p.Keeps (p.passNPObject passRef plugin (some r) m).1 (.object (some r))

/-- The ownership of a variant that is sent: unless the process ends there, its string or its reference is given up
    once; and a receiver has one reference. -/
structure Passes (variant : LocalVariant) : Prop where
  string : passRef = true → (∀ t, (p.passNPVariant passRef plugin variant m).result ≠ .error .fault t) →
    (p.passNPVariant passRef plugin variant m).freed = variant.strings
  object : ∀ r, passRef = true → variant = .object (some r) → p.Gives (p.passNPVariant passRef plugin variant m).peer r
  received : ∀ r said, variant = .object (some r) → (p.passNPVariant passRef plugin variant m).said = some said →
    q.Receives said (p.passNPVariant passRef plugin variant m).result
  other : (∀ r, variant ≠ .object (some r)) → (p.passNPVariant passRef plugin variant m).peer = p
  kept : passRef = false → (p.passNPVariant passRef plugin variant m).variant = variant ∧
    (p.passNPVariant passRef plugin variant m).freed = 0 ∧ p.Keeps (p.passNPVariant passRef plugin variant m).peer variant

/-- The fields of an object, as the sender finds them. -/
def objectFields (r : NPObjectRef) : List Primitive :=
  ((p.doSendNPObjectHelper passRef (some r)).2.fields plugin).fields passRef

/-- When ownership passes: no send of a string fails, and that of an object's type does not; and the receiver finds
    the object. -/
def Passable : LocalVariant → Prop
  | .string string => passRef = true → string.utf8Characters ≠ none →
      ∀ code t, sendAll (.uint32 NPVariantType.string :: string.fields) m ≠ .error (.error code) t
  | .object (some r) => (passRef = true → ∃ t, rpcMessageSendUint32 NPVariantType.object m = .ok () t) ∧
      ∀ t, sendAll (.uint32 NPVariantType.object :: p.objectFields passRef plugin r) m = .ok () t → q.Finds p r
  | _ => True

end

variable {passRef : Bool} {plugin : UInt32} {m : OutMessage}

theorem keeps_unpassed (r : NPObjectRef) : p.Keeps (p.doSendNPObjectHelper false (some r)).1 (.object (some r)) := by
  cases r with
  | «local» o => exact .inr ⟨o, rfl, rfl⟩
  | proxy i =>
    refine .inl ?_
    simp only [doSendNPObjectHelper]
    split <;> rfl

/-- An object's reference passes, whatever becomes of the message. -/
theorem passesObject_iff (hhas : p.Has r) : p.PassesObject q passRef plugin m r ↔
    ∀ t, sendAll (p.objectFields passRef plugin r) m = .ok () t → q.Finds p r := by
  have hresult : (p.passNPObject passRef plugin (some r) m).2.2 = sendAll (p.objectFields passRef plugin r) m := by
    rw [objectFields, ← object_sends]
    rfl
  constructor
  · intro h t ht
    obtain ⟨q', r', hrecv, hgains⟩ := h.received t (hresult.trans ht) 0
    exact finds_of_gains hhas hrecv hgains
  · intro h
    refine ⟨?_, fun t ht generation => ?_, ?_⟩
    · rintro rfl
      exact passRef_gives hhas
    · exact received_gains hhas (h t (hresult.symm.trans ht)) passRef generation
    · rintro rfl
      exact keeps_unpassed r

theorem passNPVariant_value {variant : LocalVariant} (hv : ∀ npobj, variant ≠ .object npobj) :
    p.passNPVariant passRef plugin variant m =
      match (do rpcMessageSendUint32 variant.type; passNPVariantValue variant) m with
      | .error e t => ⟨p, variant, 0, none, .error e t⟩
      | .ok _ t => if passRef then ⟨p, .void, variant.strings, none, .ok () t⟩ else ⟨p, variant, 0, none, .ok () t⟩ := by
  rw [passNPVariant]
  cases ht : rpcMessageSendUint32 variant.type m with
  | error e t => rw [seq_of_error ht]
  | ok _ t =>
    rw [seq_of_ok ht]
    cases variant with
    | object npobj => exact absurd rfl (hv npobj)
    | _ => rfl

/-- A variant without an object is sent as a whole before anything is freed. -/
theorem passes_value {variant : LocalVariant} (hv : ∀ npobj, variant ≠ .object npobj) :
    p.Passes q passRef plugin m variant ↔ (passRef = true → variant.strings ≠ 0 → ∀ code t,
      (do rpcMessageSendUint32 variant.type; passNPVariantValue variant) m ≠ .error (.error code) t) := by
  have hrun := @passNPVariant_value p passRef plugin m variant hv
  cases hw : (do rpcMessageSendUint32 variant.type; passNPVariantValue variant) m with
  | ok _ t =>
    rw [hw] at hrun
    refine iff_of_true ⟨?_, ?_, ?_, ?_, ?_⟩ fun _ _ _ _ => by simp
    · rintro rfl -
      rw [hrun]
      rfl
    · exact fun r _ hr => absurd hr (hv _)
    · exact fun r _ hr => absurd hr (hv _)
    · intro _
      rw [hrun]
      cases passRef <;> rfl
    · rintro rfl
      rw [hrun]
      exact ⟨rfl, rfl, .inl rfl⟩
  | error e t =>
    rw [hw] at hrun
    have hkept : (p.passNPVariant passRef plugin variant m).variant = variant ∧
        (p.passNPVariant passRef plugin variant m).freed = 0 ∧ p.Keeps (p.passNPVariant passRef plugin variant m).peer variant := by
      rw [hrun]
      exact ⟨rfl, rfl, .inl rfl⟩
    constructor
    · intro h hpass hstrings code t' heq
      cases heq
      have hfreed := h.string hpass fun t' => by rw [hrun]; simp
      rw [hkept.2.1] at hfreed
      exact hstrings hfreed.symm
    · intro h
      refine ⟨fun hpass hreturns => ?_, fun r _ hr => absurd hr (hv _), fun r _ hr => absurd hr (hv _), fun _ => ?_,
        fun _ => hkept⟩
      · rw [hkept.2.1]
        by_contra hstrings
        cases e with
        | error code => exact h hpass (Ne.symm hstrings) code t rfl
        | fault => exact hreturns t (by rw [hrun])
      · rw [hrun]

/-- Ownership passes exactly in these cases. -/
theorem passes_iff {variant : LocalVariant} (howned : ∀ r, variant = .object (some r) → p.Has r) :
    p.Passes q passRef plugin m variant ↔ p.Passable q passRef plugin m variant := by
  have hplain (hv : ∀ npobj, variant ≠ .object npobj) (hstrings : variant.strings = 0) :
      p.Passes q passRef plugin m variant ↔ True :=
    iff_of_true ((passes_value hv).mpr fun _ hne => absurd hstrings hne) trivial
  cases variant with
  | string string =>
    rw [passes_value fun npobj => by simp]
    have hfields : sendAll (.uint32 NPVariantType.string :: string.fields) =
        (do rpcMessageSendUint32 NPVariantType.string; doSendNPString string) := by
      rw [string_sends]
      rfl
    rw [Passable, hfields]
    have hstrings : (NPVariant.string (O := Option NPObjectRef) string).strings ≠ 0 ↔ string.utf8Characters ≠ none := by
      cases hc : string.utf8Characters <;> simp [NPVariant.strings, hc]
    rw [hstrings]
    rfl
  | object npobj =>
    cases npobj with
    | none =>
      refine iff_of_true ?_ trivial
      have hrun : (p.passNPVariant passRef plugin (.object none) m).peer = p ∧
          (p.passNPVariant passRef plugin (.object none) m).freed = 0 ∧
          (p.passNPVariant passRef plugin (.object none) m).variant = .object none := by
        rw [passNPVariant]
        split <;> exact ⟨rfl, rfl, rfl⟩
      obtain ⟨hpeer, hfreed, hvariant⟩ := hrun
      exact ⟨fun _ _ => hfreed, (by simp), (by simp), fun _ => hpeer, fun _ => ⟨hvariant, hfreed, .inl hpeer⟩⟩
    | some r =>
      have hhas := howned r rfl
      rw [Passable]
      cases ht : rpcMessageSendUint32 NPVariantType.object m with
      | error e t =>
        have hrun : p.passNPVariant passRef plugin (.object (some r)) m = ⟨p, .object (some r), 0, none, .error e t⟩ := by
          simp only [passNPVariant, NPVariant.type, ht]
        have hfails (t' : OutMessage) : sendAll (.uint32 NPVariantType.object :: p.objectFields passRef plugin r) m ≠ .ok () t' := by
          rw [sendAll, Primitive.send, seq_of_error ht]
          simp
        constructor
        · intro h
          refine ⟨fun hpass => ?_, fun t' hsent => absurd hsent (hfails t')⟩
          have hgiven := (h.object r hpass rfl).held r
          rw [hrun, if_pos rfl] at hgiven
          simp at hgiven
        · intro h
          have hkeep : passRef ≠ true := fun hpass => by
            obtain ⟨t', ht'⟩ := h.1 hpass
            cases ht'
          refine ⟨fun hpass => absurd hpass hkeep, fun _ hpass => absurd hpass hkeep, fun _ _ _ hsaid => ?_,
            fun hr => absurd rfl (hr r), fun _ => ?_⟩
          · rw [hrun] at hsaid
            cases hsaid
          · rw [hrun]
            exact ⟨rfl, rfl, .inl rfl⟩
      | ok _ t =>
        have hrun : p.passNPVariant passRef plugin (.object (some r)) m =
            ⟨(p.passNPObject passRef plugin (some r) t).1, .object (some r), 0,
              some (p.passNPObject passRef plugin (some r) t).2.1, (p.passNPObject passRef plugin (some r) t).2.2⟩ := by
          simp only [passNPVariant, NPVariant.type, ht]
        have hrest : sendAll (.uint32 NPVariantType.object :: p.objectFields passRef plugin r) m =
            sendAll (p.objectFields passRef plugin r) t := by
          rw [sendAll, Primitive.send, seq_of_ok ht]
        have hobject : p.PassesObject q passRef plugin t r ↔ _ := passesObject_iff hhas
        simp only [hrest]
        rw [and_iff_right fun _ => ⟨t, rfl⟩, ← hobject]
        constructor
        · intro h
          refine ⟨fun hpass => ?_, ?_, fun hkeep => ?_⟩
          · simpa only [hrun] using h.object r hpass rfl
          · simpa only [hrun] using h.received r _ rfl (by rw [hrun])
          · simpa only [hrun] using (h.kept hkeep).2.2
        · intro h
          refine ⟨fun _ _ => ?_, fun r' hpass hr => ?_, fun r' said hr hsaid => ?_, fun hr => absurd rfl (hr r), fun hkeep => ?_⟩
          · rw [hrun]
            rfl
          · cases hr
            simpa only [hrun] using h.given hpass
          · cases hr
            rw [hrun] at hsaid ⊢
            cases hsaid
            exact h.received
          · rw [hrun]
            exact ⟨rfl, rfl, h.kept hkeep⟩
  | void | null | bool value | int32 value | double value | other type => exact hplain (by simp) rfl

/-- The ownership of what is sent, by itself or in a variant, passes exactly in these cases. -/
theorem ownership_passes {variant : LocalVariant} (howned : ∀ r, variant = .object (some r) → p.Has r) :
    (p.Passes q passRef plugin m variant ↔ p.Passable q passRef plugin m variant) ∧
      ∀ r, variant = .object (some r) → (p.PassesObject q passRef plugin m r ↔
        ∀ t, sendAll (p.objectFields passRef plugin r) m = .ok () t → q.Finds p r) :=
  ⟨passes_iff howned, fun r hr => passesObject_iff (howned r hr)⟩

theorem made_owned : ∀ r, (.object (some (.local 0)) : LocalVariant) = .object (some r) → new.npnCreateObject.Has r := by
  rintro _ ⟨⟩
  exact ⟨_, rfl, Nat.one_pos⟩

/-- An object that has just been made, on an idle socket. -/
theorem ownership_passes_once :
    new.npnCreateObject.Passes new true 0 ⟨[], [], []⟩ (.object (some (.local 0))) ∧
      new.npnCreateObject.PassesObject new true 0 ⟨[], [], []⟩ (.local 0) :=
  ⟨(ownership_passes made_owned).1.mpr ⟨fun _ => ⟨_, rfl⟩, fun _ _ => trivial⟩,
    ((ownership_passes made_owned).2 _ rfl).mpr fun _ _ => trivial⟩

/-- The type does not fit the buffer, the socket is gone, and the reference is kept. -/
theorem ownership_stays : ¬∀ (p q : Peer) (passRef : Bool) (plugin : UInt32) (m : OutMessage) (variant : LocalVariant),
    (∀ r, variant = .object (some r) → p.Has r) → p.Passes q passRef plugin m variant := by
  intro h
  have hpasses := h new.npnCreateObject new true 0 ⟨[], List.replicate 8188 0, [.failed]⟩ _ made_owned
  obtain ⟨t, ht⟩ := ((passes_iff made_owned).mp hpasses).1 rfl
  rw [rpcMessageSendUint32, rpcMessageSendBytes, if_pos] at ht
  · cases ht
  · right
    rw [List.length_replicate]
    decide

end Peer
end NSPluginWrapper
