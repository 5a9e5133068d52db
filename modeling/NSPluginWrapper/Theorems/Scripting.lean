import NSPluginWrapper.Npruntime.Scripting
import NSPluginWrapper.Theorems.Operations

/-! A scripting function that a plugin calls and the browser's function are the same. -/

namespace NSPluginWrapper
open Lib

namespace CallEnds
variable {e : CallEnds} {mozilla : MozillaFuncs} {method : NPNMethod} {r : NPObjectRef} {npobj : Option NPObjectRef}
  {name : NPIdentifier} {args given : List (NPVariant (Option NPObjectRef))}

/-! ### What comes back -/

/-- What the callee does when a function has returned, and the caller with the reply. -/
def answerBack (e : CallEnds) (came : List (NPVariant (Option NPObjectRef))) (outcome : NPClassOutcome) :
    Option (CallEnds × NPClassOutcome) :=
  ((e.release came).reply outcome).bind fun (e, reply) => e.outcome reply

/-- What the caller gets of a result that comes across, whatever the callee had received. -/
theorem answerBack_of_delivered {p q : Peer} {came : List (NPVariant (Option NPObjectRef))} {outcome : NPClassOutcome}
    (hresult : Lending.Delivered p q e.caller e.callee came outcome.result)
    (hknown : ∀ ident ∈ outcome.identifiers, (names e.ids e.calleeIsViewer ident).isSome = true)
    (hcallee : arrayFits outcome.identifiers.length (identifierSize e.calleePointers32) = true)
    (hcaller : arrayFits outcome.identifiers.length (identifierSize e.callerPointers32) = true) :
    ∃ t result identifiers, e.answerBack came outcome =
        some (t, ⟨outcome.ret, result, if outcome.ret then identifiers else []⟩) ∧
      result.map t.callerSees = (outcome.result.map e.calleeSees).received ∧
      identifiers.map t.callerNames = outcome.identifiers.map e.calleeNames ∧
      identifiers.length = outcome.identifiers.length ∧
      Settled p q (result.map t.callerSees) t.caller t.callee := by
  obtain ⟨p₂, q₂, q₃, m, p₄, got, hrelease, hsend, hrecv, hgot, hsettled⟩ := hresult
  obtain ⟨more, hids, hlength, hcarried, -⟩ := identifiers_carried e.ids e.calleeIsViewer outcome.identifiers
  obtain ⟨gots, hgots, hmeans⟩ := hcarried hknown
  have hlengths : gots.length = outcome.identifiers.length := by
    have hmapped := congrArg List.length hmeans
    rwa [List.length_map, List.length_map] at hmapped
  have hreply : (e.release came).reply outcome = some ({ e with caller := p₂, callee := q₃, ids := e.ids ++ more },
      ⟨outcome.ret, m, (doSendNPIdentifiers e.ids e.calleeIsViewer outcome.identifiers).2⟩) := by
    simp only [release, hrelease, reply, hsend, Option.bind_some, hlength, hcallee, if_true, hids]
  refine ⟨{ e with caller := p₄, callee := q₃, ids := e.ids ++ more }, got, gots, ?_, hgot, ?_, hlengths, hsettled⟩
  · simp only [answerBack, hreply, Option.bind_some, CallEnds.outcome, hrecv, hgots, hlengths, hcaller, if_true]
  · rw [callerNames_eq, calleeNames_eq]
    exact hmeans

/-- And what has come back. -/
theorem of_answerBack {came : List (NPVariant (Option NPObjectRef))} {outcome : NPClassOutcome} {back : CallEnds × NPClassOutcome}
    (h : e.answerBack came outcome = some back) :
    back.2.ret = outcome.ret ∧ (back.2.ret = false → back.2.identifiers = []) ∧
    (∀ ident ∈ outcome.identifiers, (names e.ids e.calleeIsViewer ident).isSome = true) ∧
    arrayFits outcome.identifiers.length (identifierSize e.calleePointers32) = true ∧
    arrayFits outcome.identifiers.length (identifierSize e.callerPointers32) = true ∧
    ∃ q₂ p₂ q₃ m p₄ got, e.callee.releaseVariants e.caller came = (q₂, p₂) ∧
      q₂.doSendNPVariantHelper true outcome.result = some (q₃, m) ∧ p₂.doRecvNPVariantHelper m = some (p₄, got) := by
  obtain ⟨more, hids, hlength, -, hcarried⟩ := identifiers_carried e.ids e.calleeIsViewer outcome.identifiers
  obtain ⟨q₂, p₂, hrelease⟩ : ∃ q₂ p₂, e.callee.releaseVariants e.caller came = (q₂, p₂) := ⟨_, _, rfl⟩
  simp only [answerBack, release, hrelease, reply] at h
  obtain ⟨⟨e₃, answer⟩, hreply, h⟩ := Option.bind_eq_some_iff.mp h
  obtain ⟨⟨q₃, m⟩, hsend, hreply⟩ := Option.bind_eq_some_iff.mp hreply
  rw [hlength, hids] at hreply
  split at hreply
  · rename_i hcallee
    cases hreply
    obtain ⟨⟨p₄, got⟩, hrecv, h⟩ := Option.bind_eq_some_iff.mp h
    obtain ⟨gots, hgots, h⟩ := Option.bind_eq_some_iff.mp h
    have hlengths : gots.length = outcome.identifiers.length := by
      have hmapped := congrArg List.length (mapM_some.mp hgots)
      rw [List.length_map, List.length_map, hlength] at hmapped
      exact hmapped.symm
    dsimp only at h
    rw [hlengths] at h
    split at h
    · rename_i hcaller
      cases h
      refine ⟨rfl, fun hret => ?_, hcarried gots hgots, hcallee, hcaller, q₂, p₂, q₃, m, p₄, got, hrelease, hsend, hrecv⟩
      exact if_neg (by rw [hret]; exact Bool.false_ne_true)
    · cases h
  · cases hreply

/-! ### What goes there -/

/-- The wrapper with a request that has come, and the viewer with its reply. -/
def finishNPN (e : CallEnds) (mozilla : MozillaFuncs) (method : NPNMethod) (npobj : Option NPObjectRef) (name : NPIdentifier)
    (given : List (NPVariant (Option NPObjectRef))) : NPNResult :=
  (e.npnCall mozilla method npobj name given).bind fun (e, outcome, calls) =>
    (e.answerBack (.object npobj :: given) outcome).map fun (e, outcome) => (e, outcome, calls)

/-- An object is sent as the first of the arguments would be. -/
theorem sendVariants_cons_object {p p₁ : Peer} {ms : List (NPVariant NPObjectMessage)} :
    p.sendVariants (.object npobj :: args) = some (p₁, ms) ↔
      ∃ p' m ms', p.sendNPObject false npobj = some (p', m) ∧ p'.sendVariants args = some (p₁, ms') ∧ ms = .object m :: ms' := by
  rw [Peer.sendVariants, Peer.doSendNPVariantHelper]
  simp only [NPVariant.carried, Option.bind_some, NPVariant.withObject]
  constructor
  · intro h
    obtain ⟨⟨p', m⟩, hsend, hrest⟩ := Option.bind_eq_some_iff.mp h
    obtain ⟨⟨p'', m'⟩, hobject, heq⟩ := Option.map_eq_some_iff.mp hsend
    cases heq
    obtain ⟨⟨p₂, ms'⟩, hargs, heq⟩ := Option.map_eq_some_iff.mp hrest
    cases heq
    exact ⟨p'', m', ms', hobject, hargs, rfl⟩
  · rintro ⟨p', m, ms', hobject, hargs, rfl⟩
    simp only [hobject, hargs, Option.map_some, Option.bind_some]

theorem recvVariants_cons_object {q q₁ : Peer} {m : NPObjectMessage} {ms : List (NPVariant NPObjectMessage)}
    {came : List (NPVariant (Option NPObjectRef))} :
    q.recvVariants (.object m :: ms) = some (q₁, came) ↔
      ∃ q' npobj given, q.doRecvNPObjectHelper 0 m = some (q', npobj) ∧ q'.recvVariants ms = some (q₁, given) ∧
        came = .object npobj :: given := by
  rw [Peer.recvVariants, Peer.doRecvNPVariantHelper]
  simp only [NPVariant.withObject]
  constructor
  · intro h
    obtain ⟨⟨q', variant⟩, hrecv, hrest⟩ := Option.bind_eq_some_iff.mp h
    obtain ⟨⟨q'', npobj⟩, hobject, heq⟩ := Option.map_eq_some_iff.mp hrecv
    cases heq
    obtain ⟨⟨q₂, given⟩, hargs, heq⟩ := Option.map_eq_some_iff.mp hrest
    cases heq
    exact ⟨q'', npobj, given, hobject, hargs, rfl⟩
  · rintro ⟨q', npobj, given, hobject, hargs, rfl⟩
    simp only [hobject, hargs, Option.map_some, Option.bind_some]

/-- A request whose every part comes across. -/
theorem invokeNPN_of_carried {p₁ q₁ : Peer} {ms : List (NPVariant NPObjectMessage)} {name' : NPIdentifier}
    (hcaller : arrayFits args.length (variantSize e.callerPointers32) = true)
    (hcallee : arrayFits args.length (variantSize e.calleePointers32) = true)
    (hname : doRecvNPIdentifier (e.sentName name).1 e.calleeIsViewer (e.sentName name).2 = some name')
    (hsend : e.caller.sendVariants (.object (some r) :: args) = some (p₁, ms))
    (hrecv : e.callee.recvVariants ms = some (q₁, .object npobj :: given)) :
    e.invokeNPN mozilla method (some r) name args =
      finishNPN { e with caller := p₁, callee := q₁, ids := (e.sentName name).1 } mozilla method npobj name' given := by
  obtain ⟨p', m, ms', hobject, hargs, rfl⟩ := sendVariants_cons_object.mp hsend
  obtain ⟨q', npobj', given', hobject', hargs', heq⟩ := recvVariants_cons_object.mp hrecv
  cases heq
  have hlength := sendVariants_length hargs
  rw [sentName] at hname
  simp only [invokeNPN, hobject, Option.bind_some, hcaller, if_true, hargs, handleNPN, hobject', hname, hlength, hcallee,
    hargs', sentName, finishNPN]
  rw [Option.bind_assoc]
  congr 1
  funext called
  obtain ⟨e₂, outcome, calls⟩ := called
  simp only [answerBack, Option.bind_map, Option.map_bind]
  rfl

/-- What a request that has come across tells. -/
theorem carried_of_invokeNPN {back : CallEnds × NPClassOutcome × List NPNCall}
    (h : e.invokeNPN mozilla method (some r) name args = some back) :
    arrayFits args.length (variantSize e.callerPointers32) = true ∧
    arrayFits args.length (variantSize e.calleePointers32) = true ∧
    (∃ name', doRecvNPIdentifier (e.sentName name).1 e.calleeIsViewer (e.sentName name).2 = some name') ∧
    ∃ p₁ ms q₁ came, e.caller.sendVariants (.object (some r) :: args) = some (p₁, ms) ∧ e.callee.recvVariants ms = some (q₁, came) := by
  rw [invokeNPN] at h
  obtain ⟨⟨p', m⟩, hobject, h⟩ := Option.bind_eq_some_iff.mp h
  dsimp only at h
  split at h
  · rename_i hcaller
    obtain ⟨⟨p₁, ms⟩, hargs, h⟩ := Option.bind_eq_some_iff.mp h
    obtain ⟨⟨e₂, reply, calls⟩, hhandle, -⟩ := Option.bind_eq_some_iff.mp h
    rw [handleNPN] at hhandle
    obtain ⟨⟨q', npobj⟩, hobject', hhandle⟩ := Option.bind_eq_some_iff.mp hhandle
    obtain ⟨name', hname, hhandle⟩ := Option.bind_eq_some_iff.mp hhandle
    split at hhandle
    · rename_i hcallee
      obtain ⟨⟨q₁, given⟩, hargs', -⟩ := Option.bind_eq_some_iff.mp hhandle
      dsimp only at hcallee
      rw [sendVariants_length hargs] at hcallee
      exact ⟨hcaller, hcallee, ⟨name', hname⟩, p₁, .object m :: ms, q₁, .object npobj :: given,
        sendVariants_cons_object.mpr ⟨p', m, ms, hobject, hargs, rfl⟩,
        recvVariants_cons_object.mpr ⟨q', npobj, given, hobject', hargs', rfl⟩⟩
    · cases hhandle
  · cases h

end CallEnds

/-! ### The same call -/

namespace NPNEnds
variable {e : NPNEnds} {method : NPNMethod} {r : NPObjectRef} {name : NPIdentifier} {args : List (NPVariant (Option NPObjectRef))}

/-- Two ends at rest, a plugin that has the object and the arguments that it gives, and a browser whose functions return
    what is theirs to return. -/
structure Ready (e : NPNEnds) (r : NPObjectRef) (args : List (NPVariant (Option NPObjectRef))) : Prop where
  synchronized : ∃ (b : Bridge) (side : ConnectionType), livePeers.Reachable b ∧ (∀ side, b.incoming side = []) ∧
    b.peer side = e.ends.caller ∧ b.peer side.other = e.ends.callee
  lawful : ∀ method f, e.mozilla method = some f → ∀ npobj name given ret, (f npobj name given).result = .object (some ret) →
    ret.Lawful e.ends.callee (.object npobj :: given)
  held : ∀ variant ∈ .object (some r) :: args, ∀ own, variant = .object (some own) → e.ends.caller.Has own

/-- A request that comes across, with its object. -/
structure CanSend (e : NPNEnds) (r : NPObjectRef) (name : NPIdentifier) (args : List (NPVariant (Option NPObjectRef))) : Prop where
  name : (e.ends.callerNames name).isSome = true
  callerFits : arrayFits args.length (variantSize e.ends.callerPointers32) = true
  calleeFits : arrayFits args.length (variantSize e.ends.calleePointers32) = true
  sendable : ∀ variant ∈ .object (some r) :: args, variant.Sendable e.ends.caller e.ends.callee
  room : 0 < ((.object (some r) :: args).countP NPVariant.isLocal) →
    e.ends.caller.stubs.length + ((.object (some r) :: args).countP NPVariant.isLocal) < 2 ^ 32

/-- The object as the wrapper has it: a proxy that is new, or the browser's. -/
def arrivedObject (e : NPNEnds) : NPObjectRef → Option NPObjectRef
  | .local _ => some (.proxy e.ends.callee.proxies.length)
  | .proxy i => ((e.ends.caller.proxies[i]?).bind fun x => e.ends.callee.npobjectLookupLocal x.id).map .local

/-- The arguments as the wrapper has them, which come after the object. -/
def arrived (e : NPNEnds) (r : NPObjectRef) (args : List (NPVariant (Option NPObjectRef))) : List (NPVariant (Option NPObjectRef)) :=
  arrivedArgs e.ends.caller e.ends.callee (e.ends.callee.proxies.length + (NPVariant.object (some r)).isLocal.toNat) args

theorem arrivedArgs_cons (e : NPNEnds) (r : NPObjectRef) (args : List (NPVariant (Option NPObjectRef))) :
    arrivedArgs e.ends.caller e.ends.callee e.ends.callee.proxies.length (.object (some r) :: args) =
      .object (e.arrivedObject r) :: e.arrived r args := by
  rw [arrivedArgs]
  cases r with
  | «local» o => rfl
  | proxy i => rfl

/-- The plugin's class has the function, and so has the browser. -/
def Provides (e : NPNEnds) (method : NPNMethod) (r : NPObjectRef) : Prop :=
  e.hasMember method r = true ∧ (e.mozilla method).isSome = true

/-- Calling a function that the plugin is given is calling the browser's: once, if there is one, for the object that the
    plugin meant and with what it meant, and the plugin gets what was returned, with one reference to it and no other. -/
def Transparent (e : NPNEnds) (method : NPNMethod) (r : NPObjectRef) (name : NPIdentifier)
    (args : List (NPVariant (Option NPObjectRef))) : Prop :=
  ∃ t outcome calls, e.gNPN method (some r) name args = some (t, outcome, calls) ∧
    (e.Provides method r → ∃ call, calls = [call] ∧ call.method = method ∧ call.npobj = e.ends.callerSees (some r) ∧
      call.name = e.ends.callerNames name ∧ call.args = args.map (fun variant => (variant.map e.ends.callerSees).received) ∧
      outcome.ret = call.ret ∧ outcome.result.map t.callerSees = call.result.received ∧
      outcome.identifiers.map t.callerNames = call.identifiers) ∧
    (¬e.Provides method r → calls = [] ∧ outcome = .refused) ∧
    Settled e.ends.caller e.ends.callee (outcome.result.map t.callerSees) t.caller t.callee

/-- What the browser's function is called with, and what it says. -/
def answer (e : NPNEnds) (f : NPNFunction) (method : NPNMethod) (r : NPObjectRef) (name : NPIdentifier)
    (args : List (NPVariant (Option NPObjectRef))) : NPClassAnswer :=
  (f (e.arrivedObject r) (e.ends.arrivedName name) (e.arrived r args)).ofNPN method

theorem Ready.lookups (h : e.Ready r args) :
    (∀ id o, e.ends.caller.npobjectLookupLocal id = some o → o < e.ends.caller.objects.length) ∧
    (∀ id o, e.ends.callee.npobjectLookupLocal id = some o → o < e.ends.callee.objects.length) ∧
    ∀ x ∈ e.ends.callee.proxies, x.id ≤ e.ends.caller.stubs.length := by
  obtain ⟨b, side, hb, -, hcaller, hcallee⟩ := h.synchronized
  have hobjects (side : ConnectionType) (id o : Nat) (hlookup : (b.peer side).npobjectLookupLocal id = some o) :
      o < (b.peer side).objects.length := by
    obtain ⟨stub, hstub, rfl⟩ := Option.map_eq_some_iff.mp hlookup
    refine ((bridge_accounted hb.of_restrict side).stubs stub ?_).1
    cases id with
    | zero => cases hstub
    | succ i => exact List.mem_of_getElem? (Option.filter_eq_some_iff.mp hstub).1
  have hissued := (livePeers_issued hb side.other).1
  rw [ConnectionType.other_other, hcaller, hcallee] at hissued
  exact ⟨hcaller ▸ hobjects side, hcallee ▸ hobjects side.other, hissued⟩

theorem Ready.given (h : e.Ready r args) :
    (∀ variant ∈ .object (some r) :: args, ∀ o, variant = .object (some (.local o)) → o < e.ends.caller.objects.length) ∧
    ∀ variant ∈ .object (some r) :: args, ∀ i, variant = .object (some (.proxy i)) → i < e.ends.caller.proxies.length := by
  constructor
  · intro variant hmem o heq
    obtain ⟨x, hx, -⟩ := h.held variant hmem _ heq
    exact (List.getElem?_eq_some_iff.mp hx).1
  · intro variant hmem i heq
    obtain ⟨x, hx, -⟩ := h.held variant hmem _ heq
    exact (List.getElem?_eq_some_iff.mp hx).1

theorem gNPN_of_hasMember (h : e.hasMember method r = true) (name : NPIdentifier) (args : List (NPVariant (Option NPObjectRef))) :
    e.gNPN method (some r) name args = e.ends.invokeNPN e.mozilla method (some r) name args := by
  rw [gNPN, if_pos h]

theorem gNPN_of_not_hasMember (h : ¬e.hasMember method r = true) (name : NPIdentifier) (args : List (NPVariant (Option NPObjectRef))) :
    e.gNPN method (some r) name args = some (e.ends, .refused, []) := by
  rw [gNPN, if_neg h]

/-- The ends with a request that has come. -/
def sentEnds (e : NPNEnds) (name : NPIdentifier) (caller callee : Peer) : CallEnds :=
  { e.ends with caller, callee, ids := (e.ends.sentName name).1 }

/-- A request that can come across does as it was meant. -/
theorem Ready.sent (h : e.Ready r args) (hsend : e.CanSend r name args) :
    ∃ p₁ q₁ us, Lending e.ends.caller e.ends.callee us none none p₁ q₁ ∧ us.map Transfer.given = .object (some r) :: args ∧
      us.map Transfer.got = .object (e.arrivedObject r) :: e.arrived r args ∧
      (∀ t ∈ us, t.Meant e.ends.caller e.ends.callee) ∧
      names (e.ends.sentName name).1 e.ends.calleeIsViewer (e.ends.arrivedName name) = e.ends.callerNames name ∧
      ∀ method, e.ends.invokeNPN e.mozilla method (some r) name args =
        (e.sentEnds name p₁ q₁).finishNPN e.mozilla method (e.arrivedObject r) (e.ends.arrivedName name) (e.arrived r args) := by
  obtain ⟨-, hq, -⟩ := h.lookups
  obtain ⟨p₁, ms, q₁, us, hs, hr, hlend, hgiven, hgot, hmeant⟩ :=
    (Lending.start e.ends.caller e.ends.callee).transferAll hq h.given.1 hsend.sendable hsend.room
  rw [arrivedArgs_cons] at hr hgot
  obtain ⟨-, -, hbind, hsome⟩ := e.ends.name_carried name
  rw [hsend.name] at hsome
  obtain ⟨name', hname⟩ := Option.isSome_iff_exists.mp hsome
  have harrived : e.ends.arrivedName name = name' := by rw [CallEnds.arrivedName, hname, Option.getD_some]
  refine ⟨p₁, q₁, us, hlend, hgiven, hgot, hmeant, ?_, fun method => ?_⟩
  · rw [harrived]
    rw [hname] at hbind
    exact hbind
  · rw [harrived]
    exact CallEnds.invokeNPN_of_carried hsend.callerFits hsend.calleeFits hname hs hr

/-- A request that came across could. -/
theorem Ready.canSend (h : e.Ready r args) {back : CallEnds × NPClassOutcome × List NPNCall}
    (hback : e.ends.invokeNPN e.mozilla method (some r) name args = some back) : e.CanSend r name args := by
  obtain ⟨-, hq, -⟩ := h.lookups
  obtain ⟨hcaller, hcallee, ⟨name', hname⟩, p₁, ms, q₁, came, hs, hr⟩ := CallEnds.carried_of_invokeNPN hback
  obtain ⟨hsendable, hroom⟩ :=
    (Lending.start e.ends.caller e.ends.callee).transferredAll hq h.given.1 h.given.2 hs hr
  obtain ⟨-, -, -, hsome⟩ := e.ends.name_carried name
  rw [hname] at hsome
  exact ⟨hsome.symm, hcaller, hcallee, hsendable, hroom⟩

/-- The call of a function, as it is told. -/
def madeCall (ends : CallEnds) (callee : Peer) (method : NPNMethod) (npobj : Option NPObjectRef) (name : NPIdentifier)
    (given : List (NPVariant (Option NPObjectRef))) (answer : NPClassAnswer) (result : NPVariant (Option NPObjectRef)) : NPNCall :=
  ⟨method, ends.calleeSees npobj, ends.calleeNames name, given.map (NPVariant.map ends.calleeSees), answer.ret,
    result.map (designated callee ends.caller .callee), answer.identifiers.map ends.calleeNames⟩

theorem npnCall_eq {ends : CallEnds} {mozilla : MozillaFuncs} {f : NPNFunction} (hf : mozilla method = some f)
    {npobj : Option NPObjectRef} {given : List (NPVariant (Option NPObjectRef))} {callee : Peer}
    {result : NPVariant (Option NPObjectRef)}
    (hresult : ((f npobj name given).ofNPN method).result.withObject (fun r => some (ends.callee.returnObject r)) ends.callee =
      some (callee, result)) :
    ends.npnCall mozilla method npobj name given = some ({ ends with callee },
      ⟨((f npobj name given).ofNPN method).ret, result, ((f npobj name given).ofNPN method).identifiers⟩,
      [madeCall ends callee method npobj name given ((f npobj name given).ofNPN method) result]) := by
  simp only [CallEnds.npnCall, hf, hresult, Option.map_some]
  rfl

theorem Ready.lawful_of (h : e.Ready r args) {f : NPNFunction} (hf : e.mozilla method = some f) {ret : ReturnedObject}
    (hret : (e.answer f method r name args).result = .object (some ret)) :
    ret.Lawful e.ends.callee (.object (e.arrivedObject r) :: e.arrived r args) := by
  refine h.lawful method f hf (e.arrivedObject r) (e.ends.arrivedName name) (e.arrived r args) ret ?_
  rw [answer, NPClassAnswer.ofNPN] at hret
  dsimp only at hret
  split at hret
  · exact hret
  · cases hret

/-- The browser's function is called with what was meant, and the plugin gets what it returned. -/
theorem Ready.transparent_some (h : e.Ready r args) (hmember : e.hasMember method r = true) (hsend : e.CanSend r name args)
    {f : NPNFunction} (hf : e.mozilla method = some f)
    (hreturn : e.ends.CanReturn (e.ends.sentName name).1 (e.answer f method r name args)) : e.Transparent method r name args := by
  obtain ⟨p₁, q₁, us, hlend, hgiven, hgot, hmeant, hname, heq⟩ := h.sent hsend
  obtain ⟨hp, -, -⟩ := h.lookups
  obtain ⟨q₂, result, hresult, hdelivered⟩ := hlend.returned hp (fun ret hret => hgot ▸ h.lawful_of hf hret) hreturn.result
  rw [hgot] at hdelivered
  have hmade := @npnCall_eq method (e.ends.arrivedName name) (e.sentEnds name p₁ q₁) e.mozilla f hf (e.arrivedObject r) (e.arrived r args) q₂
    result hresult
  obtain ⟨t, got, identifiers, hback, hgot', hidents, hlength, hsettled⟩ := @CallEnds.answerBack_of_delivered
    (e.sentEnds name p₁ q₂) _ _ _ ⟨(e.answer f method r name args).ret, result, (e.answer f method r name args).identifiers⟩
    hdelivered hreturn.identifiers hreturn.calleeFits hreturn.callerFits
  have hids : (if (e.answer f method r name args).ret then identifiers else []) = identifiers := by
    rcases hreturn.ret with hret | hempty
    · rw [if_pos hret]
    · dsimp only at hlength
      rw [hempty] at hlength
      rw [List.eq_nil_of_length_eq_zero hlength]
      exact ite_self _
  have hfinish : e.gNPN method (some r) name args =
      some (t, ⟨(e.answer f method r name args).ret, got, identifiers⟩, [madeCall (e.sentEnds name p₁ q₁) q₂ method
        (e.arrivedObject r) (e.ends.arrivedName name) (e.arrived r args) (e.answer f method r name args) result]) := by
    rw [gNPN_of_hasMember hmember, heq method, CallEnds.finishNPN, hmade, Option.bind_some]
    dsimp only at hback
    rw [hids] at hback
    exact congrArg (Option.map _) hback
  have hmeans : us.map (fun t => t.got.map (designated q₁ p₁ .callee)) =
      (NPVariant.object (some r) :: args).map fun variant => (variant.map e.ends.callerSees).received := by
    rw [← hgiven, List.map_map]
    exact List.map_congr_left fun t ht => hlend.means ht (hmeant t ht)
  rw [← Function.comp_def, ← List.map_map, hgot, List.map_cons, List.map_cons] at hmeans
  obtain ⟨hobject, hargs⟩ := List.cons.inj hmeans
  refine ⟨t, _, _, hfinish, fun _ => ⟨_, rfl, rfl, ?_, ?_, hargs, rfl, hgot', hidents⟩,
    fun hnot => absurd ⟨hmember, by rw [hf]; rfl⟩ hnot, hsettled⟩
  · exact NPVariant.object.inj hobject
  · exact (congrFun (CallEnds.calleeNames_eq (e.sentEnds name p₁ q₁)) (e.ends.arrivedName name)).trans hname

/-- Where the browser is asked for the function and has none, the plugin is refused and everything is as it was. -/
theorem Ready.transparent_none (h : e.Ready r args) (hmember : e.hasMember method r = true) (hsend : e.CanSend r name args)
    (hf : e.mozilla method = none) (hoptional : method.isOptional = true) : e.Transparent method r name args := by
  obtain ⟨p₁, q₁, us, hlend, -, hgot, -, -, heq⟩ := h.sent hsend
  have hplain : Lending.Delivered e.ends.caller e.ends.callee p₁ q₁ (.object (e.arrivedObject r) :: e.arrived r args) .void :=
    hgot ▸ hlend.delivered_plain (fun r heq => by cases heq) (fun value heq => by cases heq)
  have hmade : (e.sentEnds name p₁ q₁).npnCall e.mozilla method (e.arrivedObject r) (e.ends.arrivedName name) (e.arrived r args) =
      some (e.sentEnds name p₁ q₁, .refused, []) := by
    rw [CallEnds.npnCall, hf]
    exact if_pos hoptional
  obtain ⟨t, result, identifiers, hback, hresult, -, -, hsettled⟩ := @CallEnds.answerBack_of_delivered
    (e.sentEnds name p₁ q₁) _ _ _ .refused hplain (fun ident hmem => absurd hmem List.not_mem_nil) (CallEnds.arrayFits_zero _)
    (CallEnds.arrayFits_zero _)
  have hvoid : result = .void := by
    cases result with
    | void => rfl
    | _ => cases hresult
  subst hvoid
  refine ⟨t, .refused, [], ?_, fun hprovides => ?_, fun _ => ⟨rfl, rfl⟩, hsettled⟩
  · rw [gNPN_of_hasMember hmember, heq method, CallEnds.finishNPN, hmade, Option.bind_some]
    exact congrArg (Option.map _) hback
  · have hsome := hprovides.2
    rw [hf] at hsome
    cases hsome

/-- An object whose class does not have the function is not asked for it. -/
theorem transparent_of_not_hasMember (h : ¬e.hasMember method r = true) : e.Transparent method r name args := by
  refine ⟨e.ends, .refused, [], gNPN_of_not_hasMember h name args, fun hprovides => absurd hprovides.1 h, fun _ => ⟨rfl, rfl⟩, ?_⟩
  exact ⟨fun o => rfl, fun o => rfl, fun i hi => rfl, fun j hj => rfl⟩

/-- A call that is one of the browser's came across, and its answer. -/
theorem Ready.of_transparent (h : e.Ready r args) (hmember : e.hasMember method r = true) (ht : e.Transparent method r name args) :
    e.CanSend r name args ∧ (e.mozilla method = none → method.isOptional = true) ∧
      ∀ f, e.mozilla method = some f → e.ends.CanReturn (e.ends.sentName name).1 (e.answer f method r name args) := by
  obtain ⟨-, -, hissued⟩ := h.lookups
  obtain ⟨t, outcome, calls, hcall, hprovided, -, -⟩ := ht
  rw [gNPN_of_hasMember hmember] at hcall
  have hsend := h.canSend hcall
  obtain ⟨p₁, q₁, us, hlend, -, hgot, -, -, heq⟩ := h.sent hsend
  rw [heq, CallEnds.finishNPN] at hcall
  obtain ⟨⟨e₂, answered, made⟩, hmade, hback⟩ := Option.bind_eq_some_iff.mp hcall
  refine ⟨hsend, fun hnone => ?_, fun f hf => ?_⟩
  · rw [CallEnds.npnCall, hnone] at hmade
    dsimp only at hmade
    split at hmade
    · assumption
    · cases hmade
  · obtain ⟨q₂, result, hresult⟩ := CallEnds.withObject_some (p := q₁) (e.answer f method r name args).result
    have heq' := Option.some.inj (hmade.symm.trans (@npnCall_eq method (e.ends.arrivedName name) (e.sentEnds name p₁ q₁)
      e.mozilla f hf (e.arrivedObject r) (e.arrived r args) q₂ result hresult))
    rw [heq'] at hback
    obtain ⟨⟨t', outcome'⟩, hanswer, hthere⟩ := Option.map_eq_some_iff.mp hback
    cases hthere
    obtain ⟨hret, hidents, hknown, hcallee, hcaller, q₃, p₃, q₄, m, p₄, got, hrelease, hsent, hrecv⟩ :=
      CallEnds.of_answerBack hanswer
    refine ⟨?_, hknown, hcaller, hcallee, ?_⟩
    · exact hlend.returnable hissued (fun ret hr => hgot ▸ h.lawful_of hf hr) hresult (hgot ▸ hrelease) hsent hrecv
    · obtain ⟨call, hlog, -, -, -, -, -, -, hids⟩ := hprovided ⟨hmember, by rw [hf]; rfl⟩
      cases hlog
      cases hr : (e.answer f method r name args).ret with
      | true => exact .inl rfl
      | false =>
        rw [hidents (hret.trans hr)] at hids
        exact .inr (List.map_eq_nil_iff.mp hids.symm)

/-- A plugin with a proxy for an object of the browser, whose functions all return 7. The identifier 1 is the browser's 5. -/
def windowSevens : NPNEnds where
  ends :=
    { caller := { Peer.new with proxies := [⟨1, 1, true, false, 0, 0, false⟩], gProxies := Function.update (fun _ => none) 1 (some 0) }
      callee := { Peer.new with objects := [⟨2, 1⟩], stubs := [⟨0, true, 0⟩] }
      calleeIsViewer := false
      npClass := fun _ => none
      isRegistered := fun _ => false
      ids := [some 5]
      callerPointers32 := false
      calleePointers32 := false
      calls := [] }
  isPlugin := rfl
  mozilla := fun _ => some fun _ _ _ => ⟨true, .int32 7, []⟩
  pluginClass := fun _ => none

theorem windowSevens_ready : windowSevens.Ready (.proxy 0) [.int32 3] where
  synchronized := by
    have h₀ := Machine.Reachable.init (m := livePeers) (s := .joined) rfl
    have h₁ := h₀.next (.act .server .create) ⟨⟨_, _, rfl⟩, ⟨rfl, fun _ => rfl, nofun, trivial⟩, rfl⟩
    have h₂ := h₁.next (.act .server (.send (some (.local 0)) false))
      ⟨⟨_, _, rfl⟩, ⟨rfl, fun _ => rfl, fun _ => rfl, ⟨_, rfl, by decide⟩, fun _ _ => by decide⟩, rfl⟩
    have h₃ := h₂.next (.act .client .receive) ⟨⟨_, _, rfl⟩, ⟨rfl, nofun, nofun, trivial⟩, rfl⟩
    refine ⟨_, .client, h₃, fun side => ?_, rfl, rfl⟩
    cases side <;> rfl
  lawful method f hf npobj name given ret hret := by
    cases hf
    cases hret
  held variant hmem own heq := by
    rcases List.mem_cons.mp hmem with rfl | hmem
    · cases heq
      exact ⟨_, rfl, by decide⟩
    · rw [List.mem_singleton.mp hmem] at heq
      cases heq

end NPNEnds
end NSPluginWrapper
