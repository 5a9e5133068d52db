import NSPluginWrapper.Theorems.Lending
import NSPluginWrapper.Theorems.Accounts

/-! A call through a proxy and a call of the object's class function are the same. -/

namespace NSPluginWrapper
open Lib

/-! ### Identifiers -/

/-- The browser's identifier that an end means. -/
def names (ids : IdTable) (isViewer : Bool) (ident : NPIdentifier) : Option NPIdentifier :=
  if isViewer then ids.lookup ident else some ident

theorem lookup_append {ids more : IdTable} {id ident : NPIdentifier} (h : ids.lookup id = some ident) :
    IdTable.lookup (ids ++ more) id = some ident := by
  cases id with
  | zero => exact h
  | succ id =>
    rw [IdTable.lookup] at h ⊢
    obtain ⟨hlt, -⟩ := List.getElem?_eq_some_iff.mp (Option.join_eq_some_iff.mp h)
    rw [List.getElem?_append_left hlt]
    exact h

/-- The browser's identifier gets a number, or has it, and it is the identifier's. -/
theorem doSendNPIdentifier_wrapper (ids : IdTable) (ident : NPIdentifier) :
    ∃ more, (doSendNPIdentifier ids false ident).1 = ids ++ more ∧
      (doSendNPIdentifier ids false ident).1.lookup (doSendNPIdentifier ids false ident).2 = some ident := by
  unfold doSendNPIdentifier
  by_cases hzero : ident = 0
  · rw [if_pos hzero]
    exact ⟨[], (List.append_nil ids).symm, by rw [hzero]; rfl⟩
  · rw [if_neg hzero, if_neg nofun]
    cases h : ids.idxOf? (some ident) with
    | some id =>
      refine ⟨[], (List.append_nil ids).symm, ?_⟩
      obtain ⟨hlt, hid, -⟩ := List.idxOf?_eq_some_iff.mp h
      change (ids[id]?).join = some ident
      rw [List.getElem?_eq_getElem hlt, hid]
      rfl
    | none =>
      refine ⟨[some ident], rfl, ?_⟩
      change ((ids ++ [some ident])[ids.length]?).join = some ident
      rw [List.getElem?_concat_length]
      rfl

theorem doSendNPIdentifier_viewer (ids : IdTable) (ident : NPIdentifier) :
    doSendNPIdentifier ids true ident = (ids, ident) := by
  unfold doSendNPIdentifier
  by_cases hzero : ident = 0
  · rw [if_pos hzero, hzero]
  · rw [if_neg hzero, if_pos rfl]

/-- What an end means by an identifier, the other does by what it gets, if it gets anything. -/
theorem identifier_carried (ids : IdTable) (isViewer : Bool) (ident : NPIdentifier) :
    ∃ more, (doSendNPIdentifier ids isViewer ident).1 = ids ++ more ∧
      (doRecvNPIdentifier (ids ++ more) (!isViewer) (doSendNPIdentifier ids isViewer ident).2).bind
        (names (ids ++ more) !isViewer) = names ids isViewer ident ∧
      ((doRecvNPIdentifier (ids ++ more) (!isViewer) (doSendNPIdentifier ids isViewer ident).2).isSome =
        (names ids isViewer ident).isSome) := by
  cases isViewer with
  | true =>
    rw [doSendNPIdentifier_viewer]
    refine ⟨[], (List.append_nil ids).symm, ?_, ?_⟩
    · rw [List.append_nil]
      exact Option.bind_fun_some _
    · rw [List.append_nil]
      rfl
  | false =>
    obtain ⟨more, hids, hlookup⟩ := doSendNPIdentifier_wrapper ids ident
    rw [hids] at hlookup
    exact ⟨more, hids, hlookup, rfl⟩

theorem mapM_some {α β : Type} {f : α → Option β} {xs : List α} {ys : List β} :
    xs.mapM f = some ys ↔ xs.map f = ys.map some := by
  induction xs generalizing ys with
  | nil => cases ys <;> simp
  | cons x xs ih =>
    cases ys with
    | nil => simp [List.mapM_cons, Option.bind_eq_some_iff]
    | cons y ys => simp [List.mapM_cons, Option.bind_eq_some_iff, ih]

/-- The numbers of the browser's identifiers. -/
theorem doSendNPIdentifiers_wrapper (ids : IdTable) (idents : List NPIdentifier) :
    ∃ more, (doSendNPIdentifiers ids false idents).1 = ids ++ more ∧
      (doSendNPIdentifiers ids false idents).2.map (doSendNPIdentifiers ids false idents).1.lookup = idents.map some := by
  induction idents generalizing ids with
  | nil => exact ⟨[], (List.append_nil ids).symm, rfl⟩
  | cons ident idents ih =>
    obtain ⟨more, hids, hlookup⟩ := doSendNPIdentifier_wrapper ids ident
    obtain ⟨more', hids', hlookups⟩ := ih (doSendNPIdentifier ids false ident).1
    refine ⟨more ++ more', ?_, ?_⟩
    · rw [doSendNPIdentifiers, hids', hids, List.append_assoc]
    · rw [doSendNPIdentifiers, List.map_cons, List.map_cons, hlookups, hids', lookup_append hlookup]

theorem doSendNPIdentifiers_viewer (ids : IdTable) (idents : List NPIdentifier) :
    doSendNPIdentifiers ids true idents = (ids, idents) := by
  induction idents with
  | nil => rfl
  | cons ident idents ih =>
    rw [doSendNPIdentifiers, doSendNPIdentifier_viewer]
    simp only [ih]

/-- The same for a list, of which all identifiers are known or none comes across. -/
theorem identifiers_carried (ids : IdTable) (isViewer : Bool) (idents : List NPIdentifier) :
    ∃ more, (doSendNPIdentifiers ids isViewer idents).1 = ids ++ more ∧
      (doSendNPIdentifiers ids isViewer idents).2.length = idents.length ∧
      ((∀ ident ∈ idents, (names ids isViewer ident).isSome = true) → ∃ got,
        (doSendNPIdentifiers ids isViewer idents).2.mapM (doRecvNPIdentifier (ids ++ more) !isViewer) = some got ∧
        got.map (names (ids ++ more) !isViewer) = idents.map (names ids isViewer)) ∧
      ∀ got, (doSendNPIdentifiers ids isViewer idents).2.mapM (doRecvNPIdentifier (ids ++ more) !isViewer) = some got →
        ∀ ident ∈ idents, (names ids isViewer ident).isSome = true := by
  cases isViewer with
  | true =>
    rw [doSendNPIdentifiers_viewer]
    refine ⟨[], (List.append_nil ids).symm, rfl, fun hknown => ?_, fun got hgot ident hmem => ?_⟩
    · have hvalues : ∀ ident ∈ idents, ((ids.lookup ident).getD 0 |> some) = ids.lookup ident := by
        intro ident hmem
        obtain ⟨value, hvalue⟩ := Option.isSome_iff_exists.mp (hknown ident hmem)
        change ids.lookup ident = some value at hvalue
        rw [hvalue]
        rfl
      refine ⟨idents.map fun ident => (ids.lookup ident).getD 0, ?_, ?_⟩
      · rw [mapM_some, List.append_nil, List.map_map]
        exact (List.map_congr_left hvalues).symm
      · rw [List.map_map]
        exact List.map_congr_left hvalues
    · rw [mapM_some, List.append_nil] at hgot
      have hin : doRecvNPIdentifier ids (!true) ident ∈ got.map some := hgot ▸ List.mem_map_of_mem hmem
      obtain ⟨value, -, hvalue⟩ := List.mem_map.mp hin
      exact Option.isSome_iff_exists.mpr ⟨value, hvalue.symm⟩
  | false =>
    obtain ⟨more, hids, hlookups⟩ := doSendNPIdentifiers_wrapper ids idents
    have hlength := congrArg List.length hlookups
    rw [List.length_map, List.length_map] at hlength
    rw [hids] at hlookups
    refine ⟨more, hids, hlength, fun _ => ⟨_, mapM_some.mpr rfl, hlookups⟩, fun _ _ _ _ => rfl⟩

/-! ### Two ends that stay -/

/-- Every number an end has been told of was given out by the other. -/
def Bridge.Issued (b : Bridge) : Prop := ∀ side,
  (∀ x ∈ (b.peer side).proxies, x.id ≤ (b.peer side.other).stubs.length) ∧
    ∀ m ∈ b.incoming side, ∀ id, m.creates id = true → id ≤ (b.peer side.other).stubs.length

/-- Whatever an end does that reads nothing. -/
theorem Bridge.Issued.after {b : Bridge} (h : b.Issued) {side : ConnectionType} {p : Peer} {sent : List NPObjectMessage}
    (hproxies : ∀ y ∈ p.proxies, ∃ x ∈ (b.peer side).proxies, y.id = x.id)
    (hstubs : (b.peer side).stubs.length ≤ p.stubs.length)
    (hsent : ∀ m ∈ sent, ∀ id, m.creates id = true → id ≤ p.stubs.length) : (b.after side p sent).Issued := by
  intro sd
  rcases ConnectionType.eq_or_other sd side with rfl | rfl
  · refine ⟨fun y hy => ?_, fun m hm id hid => ?_⟩
    · simp only [Bridge.after, Function.update_self, Function.update_of_ne sd.other_ne] at hy ⊢
      obtain ⟨x, hx, hyx⟩ := hproxies y hy
      rw [hyx]
      exact (h sd).1 x hx
    · simp only [Bridge.after, Function.update_of_ne sd.ne_other, Function.update_of_ne sd.other_ne] at hm ⊢
      exact (h sd).2 m hm id hid
  · have hother := h side.other
    rw [ConnectionType.other_other] at hother
    refine ⟨fun y hy => ?_, fun m hm id hid => ?_⟩
    · simp only [Bridge.after, ConnectionType.other_other, Function.update_self, Function.update_of_ne side.other_ne] at hy ⊢
      exact Nat.le_trans (hother.1 y hy) hstubs
    · simp only [Bridge.after, ConnectionType.other_other, Function.update_self] at hm ⊢
      rcases List.mem_append.mp hm with hm | hm
      · exact Nat.le_trans (hother.2 m hm id hid) hstubs
      · exact hsent m hm id hid

theorem Bridge.Issued.receive {b : Bridge} (h : b.Issued) (side : ConnectionType) : (b.receive side).Issued := by
  unfold Bridge.receive
  split
  · exact h
  · rename_i m rest hin
    have hskip : Bridge.Issued { b with incoming := Function.update b.incoming side rest } := by
      intro sd
      refine ⟨(h sd).1, fun m' hm' => (h sd).2 m' ?_⟩
      dsimp only at hm'
      rcases eq_or_ne sd side with rfl | hne
      · rw [Function.update_self] at hm'
        rw [hin]
        exact List.mem_cons_of_mem m hm'
      · rwa [Function.update_of_ne hne] at hm'
    dsimp only
    split
    · exact hskip
    · rename_i p r hr
      have hlength := congrArg List.length (Peer.doRecv_stubs hr)
      rw [List.length_map, List.length_map] at hlength
      intro sd
      rcases ConnectionType.eq_or_other sd side with rfl | rfl
      · refine ⟨fun y hy => ?_, fun m' hm' id hid => ?_⟩
        · simp only [Function.update_self, Function.update_of_ne sd.other_ne] at hy ⊢
          rcases Peer.doRecv_proxies hr with ⟨id, target, hm, hproxies, -⟩ | ⟨-, hproxies, -⟩
          · rw [hproxies] at hy
            rcases List.mem_append.mp hy with hy | hy
            · exact (h sd).1 y hy
            · cases List.mem_singleton.mp hy
              refine (h sd).2 m (by rw [hin]; exact List.mem_cons_self) id ?_
              rw [hm]
              exact beq_self_eq_true id
          · rw [hproxies] at hy
            exact (h sd).1 y hy
        · simp only [Function.update_of_ne sd.other_ne] at hm' ⊢
          exact (hskip sd).2 m' hm' id hid
      · have hother := hskip side.other
        simp only [ConnectionType.other_other, Function.update_self, Function.update_of_ne side.other_ne] at hother ⊢
        rw [hlength]
        exact hother

theorem Bridge.Issued.act {b : Bridge} (h : b.Issued) {side : ConnectionType} {a : ObjectAct} (hcan : (b.peer side).Can a) :
    (b.after side ((b.peer side).act a).1 ((b.peer side).act a).2).Issued := by
  refine h.after (fun y hy => ?_) ?_ fun m hm id hid => ?_
  · obtain ⟨i, hi⟩ := List.mem_iff_getElem?.mp hy
    obtain ⟨x, hx, hage⟩ := (Peer.act_ages hcan).back hi
    exact ⟨x, List.mem_of_getElem? hx, hage.id⟩
  · rcases Peer.act_stubs (p := b.peer side) a with ⟨hs, -⟩ | ⟨o, hs, -⟩
    · exact Nat.le_of_eq (congrArg List.length hs).symm
    · rw [hs, List.length_append]
      exact Nat.le_add_right ..
  · rcases Peer.act_stubs (p := b.peer side) a with ⟨-, hsent⟩ | ⟨o, hs, hsent⟩
    · rw [hsent m hm id] at hid
      cases hid
    · rw [hsent] at hm
      cases List.mem_singleton.mp hm
      rw [hs, List.length_append]
      exact Nat.le_of_eq (eq_of_beq hid).symm

theorem livePeers_issued {b : Bridge} (h : livePeers.Reachable b) : b.Issued := by
  refine h.invariant Bridge.Issued ?_ ?_
  · rintro b rfl side
    exact ⟨nofun, nofun⟩
  · rintro b e b' - hb ⟨⟨side, a, rfl⟩, hen, rfl⟩
    cases a with
    | receive => exact hb.receive side
    | _ => exact hb.act hen.2.2.2

/-! ### Calls -/

/-- The class has the method, as far as its version goes. -/
structure NPClass.Provides (c : NPClass) (method : NPClassMethod) : Prop where
  function : (c.function method).isSome = true
  hasEnum : method = .enumerate → c.hasEnum = true
  hasCtor : method = .construct → c.hasCtor = true

/-- A class of a version without constructors, with something in the place of one. -/
def NPClass.Outdated (c : NPClass) (method : NPClassMethod) : Prop :=
  method = .construct ∧ c.hasCtor = false ∧ (c.function method).isSome = true

namespace CallEnds
variable {e : CallEnds} {i o : Nat} {c : NPClass} {name : NPIdentifier} {args : List (NPVariant (Option NPObjectRef))}
  {method : NPClassMethod}

/-- Two ends at rest: proxy `i` of the caller is valid and for object `o` of the callee, which is registered where that
    is asked. The functions of its class return what is theirs to return, and the caller has the arguments. -/
structure Ready (e : CallEnds) (i o : Nat) (c : NPClass) (args : List (NPVariant (Option NPObjectRef))) : Prop where
  synchronized : ∃ (b : Bridge) (side : ConnectionType), livePeers.Reachable b ∧ (∀ side, b.incoming side = []) ∧
    b.peer side = e.caller ∧ b.peer side.other = e.callee
  proxy : ∃ x, e.caller.proxies[i]? = some x ∧ x.isValid = true ∧ e.callee.npobjectLookupLocal x.id = some o
  npClass : e.npClass o = some c
  registered : e.calleeIsViewer = true → e.isRegistered o = true
  lawful : ∀ method f, c.function method = some f → ∀ name given r, (f name given).result = .object (some r) →
    r.Lawful e.callee given
  args : ∀ variant ∈ args, ∀ r, variant = .object (some r) → e.caller.Has r

/-- The table when the name of a call was sent, and its number. -/
def sentName (e : CallEnds) (name : NPIdentifier) : IdTable × Nat := doSendNPIdentifier e.ids (!e.calleeIsViewer) name

/-- The name as the callee has it. -/
def arrivedName (e : CallEnds) (name : NPIdentifier) : NPIdentifier :=
  (doRecvNPIdentifier (e.sentName name).1 e.calleeIsViewer (e.sentName name).2).getD 0

/-- A request that comes across: the name is known, the arrays are not too long for an `int`, every argument comes
    across, and there are numbers for stubs. -/
structure CanSend (e : CallEnds) (name : NPIdentifier) (args : List (NPVariant (Option NPObjectRef))) : Prop where
  name : (e.callerNames name).isSome = true
  callerFits : arrayFits args.length (variantSize e.callerPointers32) = true
  calleeFits : arrayFits args.length (variantSize e.calleePointers32) = true
  sendable : ∀ variant ∈ args, variant.Sendable e.caller e.callee
  room : 0 < args.countP NPVariant.isLocal → e.caller.stubs.length + args.countP NPVariant.isLocal < 2 ^ 32

/-- An answer that comes across and says what it returns. -/
structure CanReturn (e : CallEnds) (ids : IdTable) (answer : NPClassAnswer) : Prop where
  result : answer.result.Returnable e.caller e.callee
  identifiers : ∀ ident ∈ answer.identifiers, (names ids e.calleeIsViewer ident).isSome = true
  callerFits : arrayFits answer.identifiers.length (identifierSize e.callerPointers32) = true
  calleeFits : arrayFits answer.identifiers.length (identifierSize e.calleePointers32) = true
  ret : answer.ret = true ∨ answer.identifiers = []

theorem Ready.lookups (h : e.Ready i o c args) :
    (∀ id o, e.caller.npobjectLookupLocal id = some o → o < e.caller.objects.length) ∧
    (∀ id o, e.callee.npobjectLookupLocal id = some o → o < e.callee.objects.length) ∧
    ∀ x ∈ e.callee.proxies, x.id ≤ e.caller.stubs.length := by
  obtain ⟨b, side, hb, -, hcaller, hcallee⟩ := h.synchronized
  have hobjects (side : ConnectionType) (id o : Nat) (hlookup : (b.peer side).npobjectLookupLocal id = some o) :
      o < (b.peer side).objects.length := by
    obtain ⟨stub, hstub, rfl⟩ := Option.map_eq_some_iff.mp hlookup
    refine ((bridge_accounted hb.of_restrict side).stubs stub ?_).1
    cases id with
    | zero => cases hstub
    | succ i => exact List.mem_of_getElem? (Option.filter_eq_some_iff.mp hstub).1
  have hissued := (livePeers_issued hb side.other).1
  rw [ConnectionType.other_other, hcaller, hcallee] at hissued
  exact ⟨hcaller ▸ hobjects side, hcallee ▸ hobjects side.other, hissued⟩

theorem Ready.given (h : e.Ready i o c args) :
    (∀ variant ∈ args, ∀ o, variant = .object (some (.local o)) → o < e.caller.objects.length) ∧
    ∀ variant ∈ args, ∀ i, variant = .object (some (.proxy i)) → i < e.caller.proxies.length := by
  constructor
  · intro variant hmem o heq
    obtain ⟨x, hx, -⟩ := h.args variant hmem _ heq
    exact (List.getElem?_eq_some_iff.mp hx).1
  · intro variant hmem i heq
    obtain ⟨x, hx, -⟩ := h.args variant hmem _ heq
    exact (List.getElem?_eq_some_iff.mp hx).1

/-- What the callee does when a request has come, and the caller with its reply. -/
def finish (e : CallEnds) (method : NPClassMethod) (o : Nat) (name : NPIdentifier)
    (given : List (NPVariant (Option NPObjectRef))) : Option (CallEnds × NPClassOutcome) :=
  (e.call method o name given).bind fun (e, outcome) =>
    ((e.release (.object (some (.local o)) :: given)).reply outcome).bind fun (e, reply) => e.outcome reply

/-- A call through a proxy, when the ends are ready. -/
theorem Ready.gNPClass_eq (h : e.Ready i o c args) (method : NPClassMethod) (name : NPIdentifier) :
    e.gNPClass method (some (.proxy i)) name args =
      if arrayFits args.length (variantSize e.callerPointers32) then
        (e.caller.sendVariants args).bind fun (caller, ms) =>
        (doRecvNPIdentifier (e.sentName name).1 e.calleeIsViewer (e.sentName name).2).bind fun name' =>
        if arrayFits ms.length (variantSize e.calleePointers32) then
          (((e.callee.npnRetainObject o).take o).recvVariants ms).bind fun (callee, given) =>
          finish { e with caller, callee, ids := (e.sentName name).1 } method o name' given
        else
          none
      else
        none := by
  obtain ⟨x, hx, hvalid, hlookup⟩ := h.proxy
  have hproxy : e.caller.isValidNPObjectProxy (some (.proxy i)) = true := by
    simp only [Peer.isValidNPObjectProxy, hx, hvalid]
  have hsent : e.caller.sendNPObject false (some (.proxy i)) =
      some (e.caller, .receiverOwned x.id false x.target x.generation) := by
    simp only [Peer.sendNPObject, Peer.doSendNPObjectHelper, hx, Bool.not_false, if_true]
  have hrecv : e.callee.doRecvNPObjectHelper 0 (.receiverOwned x.id false x.target x.generation) =
      some ((e.callee.npnRetainObject o).take o, some (.local o)) := by
    simp only [Peer.doRecvNPObjectHelper, hlookup]
    rfl
  rw [gNPClass, if_pos hproxy, npclassInvoke, hsent]
  change (if arrayFits args.length (variantSize e.callerPointers32) then _ else none) = _
  congr 1
  refine congrArg _ (funext fun sent => ?_)
  obtain ⟨caller, ms⟩ := sent
  simp only [npclassHandle, hrecv]
  rw [Option.bind_assoc]
  refine congrArg _ (funext fun name' => ?_)
  split
  · rw [Option.bind_assoc]
    refine congrArg _ (funext fun received => ?_)
    obtain ⟨callee, given⟩ := received
    rw [finish, Option.bind_assoc]
    rfl
  · rfl

theorem arrayFits_zero (size : Nat) : arrayFits 0 size = true := by
  rw [arrayFits, Nat.zero_sub, Nat.zero_mul]
  rfl

theorem sendVariants_length {p q : Peer} {variants : List (NPVariant (Option NPObjectRef))}
    {ms : List (NPVariant NPObjectMessage)} (h : p.sendVariants variants = some (q, ms)) : ms.length = variants.length := by
  induction variants generalizing p ms with
  | nil =>
    cases h
    rfl
  | cons variant variants ih =>
    obtain ⟨⟨p', m⟩, -, hrest⟩ := Option.bind_eq_some_iff.mp h
    obtain ⟨⟨p'', ms'⟩, hms, heq⟩ := Option.map_eq_some_iff.mp hrest
    cases heq
    rw [List.length_cons, List.length_cons, ih hms]

/-- The name of a call, behind its way. -/
theorem name_carried (e : CallEnds) (name : NPIdentifier) : ∃ more, (e.sentName name).1 = e.ids ++ more ∧
    (doRecvNPIdentifier (e.sentName name).1 e.calleeIsViewer (e.sentName name).2).bind
      (names (e.sentName name).1 e.calleeIsViewer) = e.callerNames name ∧
    ((doRecvNPIdentifier (e.sentName name).1 e.calleeIsViewer (e.sentName name).2).isSome = (e.callerNames name).isSome) := by
  have hnames : names e.ids (!e.calleeIsViewer) name = e.callerNames name := by
    unfold names callerNames
    cases e.calleeIsViewer <;> rfl
  obtain ⟨more, hids, hbind, hsome⟩ := identifier_carried e.ids (!e.calleeIsViewer) name
  rw [Bool.not_not, hnames] at hbind hsome
  refine ⟨more, hids, ?_, ?_⟩
  · rw [← hids] at hbind
    exact hbind
  · rw [← hids] at hsome
    exact hsome

/-- A request that comes across, comes across as it was meant. -/
theorem Ready.arrived (h : e.Ready i o c args) (hsend : e.CanSend name args) :
    ∃ p₁ q₁ us, Lending e.caller e.callee (.own i o :: us) none none p₁ q₁ ∧ us.map Transfer.given = args ∧
      us.map Transfer.got = arrivedArgs e.caller e.callee e.callee.proxies.length args ∧
      (∀ t ∈ us, t.Meant e.caller e.callee) ∧
      names (e.sentName name).1 e.calleeIsViewer (e.arrivedName name) = e.callerNames name ∧
      ∀ method, e.gNPClass method (some (.proxy i)) name args =
        finish { e with caller := p₁, callee := q₁, ids := (e.sentName name).1 } method o (e.arrivedName name)
          (arrivedArgs e.caller e.callee e.callee.proxies.length args) := by
  obtain ⟨-, hq, -⟩ := h.lookups
  obtain ⟨x, -, -, hlookup⟩ := h.proxy
  have hstart := (Lending.start e.caller e.callee).own i (hq _ _ hlookup)
  obtain ⟨p₁, ms, q₁, us, hs, hr, hlend, hgiven, hgot, hmeant⟩ :=
    hstart.transferAll hq h.given.1 hsend.sendable hsend.room
  obtain ⟨-, -, hbind, hsome⟩ := e.name_carried name
  rw [hsend.name] at hsome
  obtain ⟨name', hname⟩ := Option.isSome_iff_exists.mp hsome
  have harrived : e.arrivedName name = name' := by rw [arrivedName, hname, Option.getD_some]
  refine ⟨p₁, q₁, us, hlend, hgiven, hgot, hmeant, ?_, fun method => ?_⟩
  · rw [harrived]
    rw [hname] at hbind
    exact hbind
  · rw [h.gNPClass_eq, if_pos hsend.callerFits, harrived]
    simp only [hs, hname, Option.bind_some, sendVariants_length hs, hsend.calleeFits, if_true, hr]
    rfl

/-- A request that came across could. -/
theorem Ready.canSend (h : e.Ready i o c args) {r : CallEnds × NPClassOutcome}
    (hr : e.gNPClass method (some (.proxy i)) name args = some r) : e.CanSend name args := by
  obtain ⟨-, hq, -⟩ := h.lookups
  obtain ⟨x, -, -, hlookup⟩ := h.proxy
  have hstart := (Lending.start e.caller e.callee).own i (hq _ _ hlookup)
  obtain ⟨-, -, -, hsome⟩ := e.name_carried name
  rw [h.gNPClass_eq] at hr
  split at hr
  · rename_i hcaller
    obtain ⟨⟨p₁, ms⟩, hs, hr⟩ := Option.bind_eq_some_iff.mp hr
    obtain ⟨name', hname, hr⟩ := Option.bind_eq_some_iff.mp hr
    split at hr
    · rename_i hcallee
      obtain ⟨⟨q₁, given⟩, hrecv, -⟩ := Option.bind_eq_some_iff.mp hr
      obtain ⟨hsendable, hroom⟩ := hstart.transferredAll hq h.given.1 h.given.2 hs hrecv
      rw [hname] at hsome
      rw [sendVariants_length hs] at hcallee
      exact ⟨hsome.symm, hcaller, hcallee, hsendable, hroom⟩
    · cases hr
  · cases hr

theorem callerNames_eq (e : CallEnds) : e.callerNames = names e.ids !e.calleeIsViewer := by
  funext ident
  unfold names callerNames
  cases e.calleeIsViewer <;> rfl

theorem calleeNames_eq (e : CallEnds) : e.calleeNames = names e.ids e.calleeIsViewer := by
  funext ident
  unfold names calleeNames
  cases e.calleeIsViewer <;> rfl

/-- What the caller gets of a result that comes across. -/
theorem finish_of_delivered {p q : Peer} {e₂ : CallEnds} {outcome : NPClassOutcome}
    {given : List (NPVariant (Option NPObjectRef))} (hcall : e.call method o name given = some (e₂, outcome))
    (hresult : Lending.Delivered p q e₂.caller e₂.callee (.object (some (.local o)) :: given) outcome.result)
    (hknown : ∀ ident ∈ outcome.identifiers, (names e₂.ids e₂.calleeIsViewer ident).isSome = true)
    (hcallee : arrayFits outcome.identifiers.length (identifierSize e₂.calleePointers32) = true)
    (hcaller : arrayFits outcome.identifiers.length (identifierSize e₂.callerPointers32) = true) :
    ∃ t result identifiers, e.finish method o name given =
        some (t, ⟨outcome.ret, result, if outcome.ret then identifiers else []⟩) ∧ t.calls = e₂.calls ∧
      result.map t.callerSees = (outcome.result.map e₂.calleeSees).received ∧
      identifiers.map t.callerNames = outcome.identifiers.map e₂.calleeNames ∧
      identifiers.length = outcome.identifiers.length ∧
      Settled p q (result.map t.callerSees) t.caller t.callee := by
  obtain ⟨p₂, q₂, q₃, m, p₄, got, hrelease, hsend, hrecv, hgot, hsettled⟩ := hresult
  obtain ⟨more, hids, hlength, hcarried, -⟩ := identifiers_carried e₂.ids e₂.calleeIsViewer outcome.identifiers
  obtain ⟨gots, hgots, hmeans⟩ := hcarried hknown
  have hlengths : gots.length = outcome.identifiers.length := by
    have := congrArg List.length hmeans
    rwa [List.length_map, List.length_map] at this
  have hreply : (e₂.release (.object (some (.local o)) :: given)).reply outcome =
      some ({ e₂ with caller := p₂, callee := q₃, ids := e₂.ids ++ more },
        ⟨outcome.ret, m, (doSendNPIdentifiers e₂.ids e₂.calleeIsViewer outcome.identifiers).2⟩) := by
    simp only [release, hrelease, reply, hsend, Option.bind_some, hlength, hcallee, if_true, hids]
  refine ⟨{ e₂ with caller := p₄, callee := q₃, ids := e₂.ids ++ more }, got, gots, ?_, rfl, hgot, ?_, hlengths, hsettled⟩
  · simp only [finish, hcall, Option.bind_some, hreply, CallEnds.outcome, hrecv, hgots, hlengths, hcaller, if_true]
  · rw [callerNames_eq, calleeNames_eq]
    exact hmeans

/-- And what has come across. -/
theorem of_finish {e₂ : CallEnds} {outcome : NPClassOutcome} {given : List (NPVariant (Option NPObjectRef))}
    (hcall : e.call method o name given = some (e₂, outcome)) {r : CallEnds × NPClassOutcome}
    (hfinish : e.finish method o name given = some r) :
    r.1.calls = e₂.calls ∧ r.2.ret = outcome.ret ∧ (r.2.ret = false → r.2.identifiers = []) ∧
    (∀ ident ∈ outcome.identifiers, (names e₂.ids e₂.calleeIsViewer ident).isSome = true) ∧
    arrayFits outcome.identifiers.length (identifierSize e₂.calleePointers32) = true ∧
    arrayFits outcome.identifiers.length (identifierSize e₂.callerPointers32) = true ∧
    ∃ q₂ p₂ q₃ m p₄ got, e₂.callee.releaseVariants e₂.caller (.object (some (.local o)) :: given) = (q₂, p₂) ∧
      q₂.doSendNPVariantHelper true outcome.result = some (q₃, m) ∧ p₂.doRecvNPVariantHelper m = some (p₄, got) := by
  obtain ⟨more, hids, hlength, -, hcarried⟩ := identifiers_carried e₂.ids e₂.calleeIsViewer outcome.identifiers
  obtain ⟨q₂, p₂, hrelease⟩ : ∃ q₂ p₂, e₂.callee.releaseVariants e₂.caller (.object (some (.local o)) :: given) = (q₂, p₂) :=
    ⟨_, _, rfl⟩
  simp only [finish, hcall, Option.bind_some, release, hrelease, reply] at hfinish
  obtain ⟨⟨e₃, answer⟩, hreply, hfinish⟩ := Option.bind_eq_some_iff.mp hfinish
  obtain ⟨⟨q₃, m⟩, hsend, hreply⟩ := Option.bind_eq_some_iff.mp hreply
  rw [hlength, hids] at hreply
  split at hreply
  · rename_i hcallee
    cases hreply
    obtain ⟨⟨p₄, got⟩, hrecv, hfinish⟩ := Option.bind_eq_some_iff.mp hfinish
    obtain ⟨gots, hgots, hfinish⟩ := Option.bind_eq_some_iff.mp hfinish
    have hlengths : gots.length = outcome.identifiers.length := by
      have := congrArg List.length (mapM_some.mp hgots)
      rw [List.length_map, List.length_map, hlength] at this
      exact this.symm
    dsimp only at hfinish
    rw [hlengths] at hfinish
    split at hfinish
    · rename_i hcaller
      cases hfinish
      refine ⟨rfl, rfl, fun hret => ?_, hcarried gots hgots, hcallee, hcaller, q₂, p₂, q₃, m, p₄, got, hrelease, hsend, hrecv⟩
      exact if_neg (by rw [hret]; exact Bool.false_ne_true)
    · cases hfinish
  · cases hreply

/-- Calling through the proxy is calling the function of the object's class: once, if the class provides it, with what
    the caller meant, and the caller gets what it returned, with one reference to it and no other. -/
def Transparent (e : CallEnds) (method : NPClassMethod) (i o : Nat) (c : NPClass) (name : NPIdentifier)
    (args : List (NPVariant (Option NPObjectRef))) : Prop :=
  ∃ t outcome, e.gNPClass method (some (.proxy i)) name args = some (t, outcome) ∧
    (c.Provides method → ∃ call, t.calls = e.calls ++ [call] ∧ call.npobj = o ∧ call.method = method ∧
      call.name = e.callerNames name ∧ call.args = args.map (fun variant => (variant.map e.callerSees).received) ∧
      outcome.ret = call.ret ∧ outcome.result.map t.callerSees = call.result.received ∧
      outcome.identifiers.map t.callerNames = call.identifiers) ∧
    (¬c.Provides method → t.calls = e.calls ∧ outcome = .refused) ∧
    Settled e.caller e.callee (outcome.result.map t.callerSees) t.caller t.callee

theorem Ready.function_eq (h : e.Ready i o c args) (method : NPClassMethod) :
    e.function method o = if method = .enumerate ∧ c.hasEnum = false then none else c.function method := by
  have hregistered : (e.calleeIsViewer && !e.isRegistered o) = false := by
    cases hviewer : e.calleeIsViewer with
    | false => rfl
    | true => rw [h.registered hviewer]; rfl
  simp only [function, h.npClass, hregistered, Bool.false_eq_true, if_false]

/-- What is called is what the class provides, or what stands in the place of a constructor. -/
theorem Ready.function_some (h : e.Ready i o c args) {f : NPClassFunction} (hf : e.function method o = some f) :
    c.function method = some f ∧ (c.Provides method ∨ c.Outdated method) := by
  rw [h.function_eq] at hf
  split at hf
  · cases hf
  · rename_i henum
    refine ⟨hf, ?_⟩
    have hsome : (c.function method).isSome = true := by rw [hf]; rfl
    by_cases hctor : method = .construct ∧ c.hasCtor = false
    · exact .inr ⟨hctor.1, hctor.2, hsome⟩
    · refine .inl ⟨hsome, fun hmethod => ?_, fun hmethod => ?_⟩
      · exact Bool.eq_true_of_not_eq_false fun hfalse => henum ⟨hmethod, hfalse⟩
      · exact Bool.eq_true_of_not_eq_false fun hfalse => hctor ⟨hmethod, hfalse⟩

theorem Ready.function_none (h : e.Ready i o c args) (hf : e.function method o = none) :
    ¬c.Provides method ∧ ¬c.Outdated method := by
  rw [h.function_eq] at hf
  constructor
  · intro hprovides
    split at hf
    · rename_i henum
      have := hprovides.hasEnum henum.1
      rw [henum.2] at this
      cases this
    · have := hprovides.function
      rw [hf] at this
      cases this
  · rintro ⟨rfl, -, hsome⟩
    rw [if_neg nofun] at hf
    rw [hf] at hsome
    cases hsome

/-- A function returns what is its to return, also when what it is for was received with the arguments. -/
theorem Ready.lawful_of (h : e.Ready i o c args) {f : NPClassFunction} (hf : c.function method = some f)
    {given : List (NPVariant (Option NPObjectRef))} (variant : NPVariant (Option NPObjectRef)) {r : ReturnedObject}
    (hr : ((f name given).of method).result = .object (some r)) : r.Lawful e.callee (variant :: given) := by
  have hresult : (f name given).result = .object (some r) := by
    unfold NPClassAnswer.of at hr
    dsimp only at hr
    split at hr
    · exact hr
    · cases hr
  have hlawful := h.lawful method f hf name given r hresult
  cases r with
  | created => trivial
  | known r =>
    cases r with
    | «local» k => exact hlawful
    | proxy j => exact hlawful.imp_right (List.mem_cons_of_mem _)

/-- Every function has a result. -/
theorem withObject_some {p : Peer} (result : NPVariant (Option ReturnedObject)) :
    ∃ q got, result.withObject (fun r => some (p.returnObject r)) p = some (q, got) := by
  cases result <;> exact ⟨_, _, rfl⟩

theorem call_eq {f : NPClassFunction} (hf : e.function method o = some f) {given : List (NPVariant (Option NPObjectRef))}
    {callee : Peer} {result : NPVariant (Option NPObjectRef)}
    (hresult : ((f name given).of method).result.withObject (fun r => some (e.callee.returnObject r)) e.callee =
      some (callee, result)) :
    e.call method o name given = some ({ e with
      callee, calls := e.calls ++ [⟨o, method, e.calleeNames name, given.map (NPVariant.map e.calleeSees),
        ((f name given).of method).ret, result.map (designated callee e.caller .callee),
        ((f name given).of method).identifiers.map e.calleeNames⟩] },
      ⟨((f name given).of method).ret, result, ((f name given).of method).identifiers⟩) := by
  simp only [call, hf, hresult, Option.map_some]
  rfl

/-- The arguments that came, with the object they came for. -/
theorem gots_eq {us : List Transfer} (hgot : us.map Transfer.got = arrivedArgs e.caller e.callee e.callee.proxies.length args) :
    (Transfer.own i o :: us).map Transfer.got =
      .object (some (.local o)) :: arrivedArgs e.caller e.callee e.callee.proxies.length args := by
  rw [List.map_cons, hgot]
  rfl

theorem Outdated.not_provides (h : c.Outdated method) : ¬c.Provides method := by
  intro hprovides
  have := hprovides.hasCtor h.1
  rw [h.2.1] at this
  cases this

/-- A call that is one of the function came across, and its answer. -/
theorem Ready.of_transparent (h : e.Ready i o c args) (ht : e.Transparent method i o c name args) :
    e.CanSend name args ∧ ¬c.Outdated method ∧ (c.Provides method → ∀ f, c.function method = some f →
      e.CanReturn (e.sentName name).1
        ((f (e.arrivedName name) (arrivedArgs e.caller e.callee e.callee.proxies.length args)).of method)) := by
  obtain ⟨-, -, hissued⟩ := h.lookups
  obtain ⟨t, outcome, hcall, hprovided, hnot, -⟩ := ht
  have hsend := h.canSend hcall
  obtain ⟨p₁, q₁, us, hlend, -, hgot, -, -, heq⟩ := h.arrived hsend
  rw [heq] at hcall
  refine ⟨hsend, ?_⟩
  cases hf : e.function method o with
  | none =>
    obtain ⟨hprovides, houtdated⟩ := h.function_none hf
    exact ⟨houtdated, fun hp => absurd hp hprovides⟩
  | some f =>
    obtain ⟨hfunction, hcase⟩ := h.function_some hf
    obtain ⟨q₂, result, hresult⟩ := withObject_some (p := q₁)
      ((f (e.arrivedName name) (arrivedArgs e.caller e.callee e.callee.proxies.length args)).of method).result
    have hmade := call_eq (e := { e with caller := p₁, callee := q₁, ids := (e.sentName name).1 }) hf hresult
    obtain ⟨hcalls, hret, hidents, hknown, hcallee, hcaller, q₃, p₃, q₄, m, p₄, got, hrelease, hsent, hrecv⟩ :=
      of_finish hmade hcall
    have hprovides : c.Provides method := by
      refine hcase.resolve_right fun houtdated => ?_
      have hsame := congrArg List.length ((hnot (Outdated.not_provides houtdated)).1.symm.trans hcalls)
      rw [List.length_append, List.length_singleton] at hsame
      exact absurd hsame (Nat.ne_of_lt (Nat.lt_succ_self _))
    refine ⟨fun houtdated => Outdated.not_provides houtdated hprovides, fun _ f' hf' => ?_⟩
    cases hfunction.symm.trans hf'
    refine ⟨?_, hknown, hcaller, hcallee, ?_⟩
    · refine hlend.returnable hissued (fun r hr => ?_) hresult (gots_eq hgot ▸ hrelease) hsent hrecv
      rw [gots_eq hgot]
      exact h.lawful_of hfunction _ hr
    · obtain ⟨call, hlog, -, -, -, -, -, -, hids⟩ := hprovided hprovides
      cases List.append_cancel_left (hlog.symm.trans hcalls)
      cases hr : ((f (e.arrivedName name) (arrivedArgs e.caller e.callee e.callee.proxies.length args)).of method).ret with
      | true => exact .inl rfl
      | false =>
        rw [hidents (hret.trans hr)] at hids
        exact .inr (List.map_eq_nil_iff.mp hids.symm)

/-- Without a function the caller is refused, and everything is as it was. -/
theorem Ready.transparent_none (h : e.Ready i o c args) (hsend : e.CanSend name args) (hf : e.function method o = none) :
    e.Transparent method i o c name args := by
  obtain ⟨p₁, q₁, us, hlend, -, hgot, -, -, heq⟩ := h.arrived hsend
  have hplain : Lending.Delivered e.caller e.callee p₁ q₁
      (.object (some (.local o)) :: arrivedArgs e.caller e.callee e.callee.proxies.length args) .void :=
    gots_eq hgot ▸ hlend.delivered_plain nofun nofun
  obtain ⟨e₁, he₁⟩ : ∃ e₁ : CallEnds, e₁ = { e with caller := p₁, callee := q₁, ids := (e.sentName name).1 } := ⟨_, rfl⟩
  have hmade : e₁.call method o (e.arrivedName name) (arrivedArgs e.caller e.callee e.callee.proxies.length args) =
      some (e₁, .refused) := by
    have hf₁ : e₁.function method o = none := by
      rw [he₁]
      exact hf
    simp only [call, hf₁]
  have hplain₁ : Lending.Delivered e.caller e.callee e₁.caller e₁.callee
      (.object (some (.local o)) :: arrivedArgs e.caller e.callee e.callee.proxies.length args) .void := by
    rw [he₁]
    exact hplain
  obtain ⟨t, result, identifiers, hfinish, hcalls, hresult, -, -, hsettled⟩ :=
    finish_of_delivered hmade hplain₁ nofun (arrayFits_zero _) (arrayFits_zero _)
  have hvoid : result = .void := by
    cases result <;> first | rfl | cases hresult
  rw [hvoid] at hfinish hsettled
  refine ⟨t, .refused, ?_, fun hprovides => absurd hprovides (h.function_none hf).1, fun _ => ⟨?_, rfl⟩, hsettled⟩
  · rw [heq, ← he₁]
    exact hfinish
  · rw [hcalls, he₁]

/-- A function that the class provides is called with what was meant, and the caller gets what it returned. -/
theorem Ready.transparent_some (h : e.Ready i o c args) (hsend : e.CanSend name args) (hprovides : c.Provides method)
    {f : NPClassFunction} (hf : e.function method o = some f)
    (hreturn : e.CanReturn (e.sentName name).1
      ((f (e.arrivedName name) (arrivedArgs e.caller e.callee e.callee.proxies.length args)).of method)) :
    e.Transparent method i o c name args := by
  obtain ⟨p₁, q₁, us, hlend, hgiven, hgot, hmeant, hname, heq⟩ := h.arrived hsend
  obtain ⟨hp, -, -⟩ := h.lookups
  have hlawful (r : ReturnedObject) (hr : ((f (e.arrivedName name)
      (arrivedArgs e.caller e.callee e.callee.proxies.length args)).of method).result = .object (some r)) :
      r.Lawful e.callee ((Transfer.own i o :: us).map Transfer.got) := by
    rw [gots_eq hgot]
    exact h.lawful_of (h.function_some hf).1 _ hr
  obtain ⟨q₂, result, hresult, hdelivered⟩ := hlend.returned hp hlawful hreturn.result
  rw [gots_eq hgot] at hdelivered
  have hmade := call_eq (e := { e with caller := p₁, callee := q₁, ids := (e.sentName name).1 }) hf hresult
  obtain ⟨t, got, identifiers, hfinish, hcalls, hgot', hidents, hlength, hsettled⟩ := finish_of_delivered hmade hdelivered
    hreturn.identifiers hreturn.calleeFits hreturn.callerFits
  have hids : (if ((f (e.arrivedName name) (arrivedArgs e.caller e.callee e.callee.proxies.length args)).of method).ret then
      identifiers else []) = identifiers := by
    rcases hreturn.ret with hret | hempty
    · rw [if_pos hret]
    · dsimp only at hlength
      rw [hempty] at hlength
      rw [List.eq_nil_of_length_eq_zero hlength]
      exact ite_self _
  refine ⟨t, _, (heq method).trans hfinish, fun _ => ⟨_, hcalls, rfl, rfl, ?_, ?_, rfl, hgot', ?_⟩,
    fun hnot => absurd hprovides hnot, hsettled⟩
  · rw [calleeNames_eq]
    exact hname
  · rw [← hgot, ← hgiven, List.map_map, List.map_map]
    exact List.map_congr_left fun t ht => hlend.means (List.mem_cons_of_mem _ ht) (hmeant t ht)
  · rw [hids]
    exact hidents

/-- A call through a proxy that is ready is the call of the function, if and only if the request and the answer come
    across and no constructor is called that the class's version does not have. -/
theorem proxy_transparent (h : e.Ready i o c args) (method : NPClassMethod) (name : NPIdentifier) :
    e.Transparent method i o c name args ↔
      e.CanSend name args ∧ ¬c.Outdated method ∧ (c.Provides method → ∀ f, c.function method = some f →
        e.CanReturn (e.sentName name).1
          ((f (e.arrivedName name) (arrivedArgs e.caller e.callee e.callee.proxies.length args)).of method)) := by
  refine ⟨h.of_transparent, fun ⟨hsend, houtdated, hreturn⟩ => ?_⟩
  cases hf : e.function method o with
  | none => exact h.transparent_none hsend hf
  | some f =>
    obtain ⟨hfunction, hcase⟩ := h.function_some hf
    have hprovides := hcase.resolve_right houtdated
    exact h.transparent_some hsend hprovides hf (hreturn hprovides f hfunction)

/-- An object of the viewer and the browser's proxy for it. All functions of its class return 7. -/
def sevens (structVersion : Nat) : CallEnds where
  caller := { Peer.new with proxies := [⟨1, 1, true, false, 0, 0, false⟩], gProxies := Function.update (fun _ => none) 1 (some 0) }
  callee := { Peer.new with objects := [⟨2, 1⟩], stubs := [⟨0, true, 0⟩] }
  calleeIsViewer := true
  npClass := fun _ => some ⟨structVersion, fun _ => some fun _ _ => ⟨true, .int32 7, []⟩⟩
  isRegistered := fun _ => true
  ids := []
  callerPointers32 := false
  calleePointers32 := false
  calls := []

theorem sevens_ready (structVersion : Nat) :
    (sevens structVersion).Ready 0 0 ⟨structVersion, fun _ => some fun _ _ => ⟨true, .int32 7, []⟩⟩ [] where
  synchronized := by
    have h₀ := Machine.Reachable.init (m := livePeers) (s := .joined) rfl
    have h₁ := h₀.next (.act .server .create) ⟨⟨_, _, rfl⟩, ⟨rfl, fun _ => rfl, nofun, trivial⟩, rfl⟩
    have h₂ := h₁.next (.act .server (.send (some (.local 0)) false))
      ⟨⟨_, _, rfl⟩, ⟨rfl, fun _ => rfl, fun _ => rfl, ⟨_, rfl, by decide⟩, fun _ _ => by decide⟩, rfl⟩
    have h₃ := h₂.next (.act .client .receive) ⟨⟨_, _, rfl⟩, ⟨rfl, nofun, nofun, trivial⟩, rfl⟩
    refine ⟨_, .client, h₃, fun side => ?_, rfl, rfl⟩
    cases side <;> rfl
  proxy := ⟨_, rfl, rfl, rfl⟩
  npClass := rfl
  registered _ := rfl
  lawful method f hf name given r hr := by
    cases hf
    cases hr
  args := nofun

/-- A constructor is called of a class that has one by its version. -/
theorem construct_transparent :
    (sevens 3).Transparent .construct 0 0 ⟨3, fun _ => some fun _ _ => ⟨true, .int32 7, []⟩⟩ 0 [] := by
  refine (proxy_transparent (sevens_ready 3) .construct 0).mpr ⟨⟨rfl, rfl, rfl, nofun, nofun⟩, fun houtdated => ?_, ?_⟩
  · cases houtdated.2.1
  · intro _ f hf
    cases hf
    exact ⟨trivial, nofun, rfl, rfl, .inl rfl⟩

/-- And of one that has none: what stands behind the end of its structure is called. -/
theorem outdated_constructor_called :
    (∃ t, (sevens 2).gNPClassConstruct (some (.proxy 0)) [] = some (t, ⟨true, .int32 7, []⟩) ∧ t.calls.length = 1) ∧
      ¬(sevens 2).Transparent .construct 0 0 ⟨2, fun _ => some fun _ _ => ⟨true, .int32 7, []⟩⟩ 0 [] := by
  refine ⟨⟨_, rfl, rfl⟩, fun ht => ?_⟩
  exact ((sevens_ready 2).of_transparent ht).2.1 ⟨rfl, rfl, rfl⟩

end CallEnds

end NSPluginWrapper
