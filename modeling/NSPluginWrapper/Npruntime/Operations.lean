import NSPluginWrapper.Npapi.Marshal
import NSPluginWrapper.Npruntime.Bridge

/-! npruntime.c: the operations of a class, called through a proxy. The end of the proxy sends its number and the
    arguments, the end of the object calls the function of the object's class, releases what it received and sends the
    result. What the functions do is a parameter; every block is allocated, and where the process does not go on, or a
    message comes across as another one, there is no outcome. -/

namespace NSPluginWrapper

/-! ### Classes -/

/-- On the wrapper's side an address of the browser, on the viewer's the wrapper's number for it; 0 is NULL. -/
abbrev NPIdentifier := Nat

inductive NPClassMethod where
  | hasMethod
  | invoke
  | invokeDefault
  | hasProperty
  | getProperty
  | setProperty
  | removeProperty
  | enumerate
  | construct
  deriving Repr, DecidableEq

/-- An object that a function returns, with a reference to it. -/
inductive ReturnedObject where
  | known (r : NPObjectRef)
  | created
  deriving Repr, DecidableEq

/-- What a function leaves in its results, as far as it has them. -/
structure NPClassAnswer where
  ret : Bool
  result : NPVariant (Option ReturnedObject)
  identifiers : List NPIdentifier

/-- A function that takes no identifier is given NULL, one that takes no arguments none, and setProperty() its value. -/
abbrev NPClassFunction := NPIdentifier → List (NPVariant (Option NPObjectRef)) → NPClassAnswer

/-- `function` is what stands in the place of a member, also behind the end of an older version's structure. -/
structure NPClass where
  structVersion : Nat
  function : NPClassMethod → Option NPClassFunction

/-- NP_CLASS_STRUCT_VERSION_HAS_ENUM. -/
def NPClass.hasEnum (c : NPClass) : Bool := decide (2 ≤ c.structVersion)

/-- NP_CLASS_STRUCT_VERSION_HAS_CTOR. -/
def NPClass.hasCtor (c : NPClass) : Bool := decide (3 ≤ c.structVersion)

def NPClassMethod.givesVariant : NPClassMethod → Bool
  | .invoke | .invokeDefault | .getProperty | .construct => true
  | _ => false

/-- What a method has results for. -/
def NPClassAnswer.of (answer : NPClassAnswer) (method : NPClassMethod) : NPClassAnswer where
  ret := answer.ret
  result := if method.givesVariant then answer.result else .void
  identifiers := if method = .enumerate then answer.identifiers else []

/-! ### Values -/

section
variable {O P S : Type}

def NPVariant.map (f : O → P) : NPVariant O → NPVariant P
  | .void => .void
  | .null => .null
  | .bool value => .bool value
  | .int32 value => .int32 value
  | .double value => .double value
  | .string value => .string value
  | .object value => .object (f value)
  | .other type => .other type

/-- Does something with the object of a variant, if it has one. -/
def NPVariant.withObject (f : O → Option (S × P)) (s : S) : NPVariant O → Option (S × NPVariant P)
  | .void => some (s, .void)
  | .null => some (s, .null)
  | .bool value => some (s, .bool value)
  | .int32 value => some (s, .int32 value)
  | .double value => some (s, .double value)
  | .string value => some (s, .string value)
  | .object value => (f value).map fun (s, m) => (s, .object m)
  | .other type => some (s, .other type)

/-- What comes across of a string: characters where there was NULL for none. One whose length is not that of its
    characters, or not an `int`, does not. -/
def NPString.carried (string : NPString) : Option NPString :=
  let characters := string.utf8Characters.getD []
  if characters.length = string.utf8Length.toNat ∧ string.utf8Length.toNat < 2 ^ 31 then
    some ⟨some characters, string.utf8Length⟩
  else
    none

def NPVariant.carried : NPVariant O → Option (NPVariant O)
  | .string value => value.carried.map .string
  | variant => some variant

/-- The last of so many elements starts where an `int` still counts. -/
def arrayFits (n size : Nat) : Bool := decide ((n - 1) * size < 2 ^ 31)

end

/-! ### Identifiers -/

/-- `g_ids` of the wrapper, number 1 first, as far as it has identifiers. -/
abbrev IdTable := List (Option NPIdentifier)

/-- The browser's identifier for a number, if it has one. -/
def IdTable.lookup (ids : IdTable) : Nat → Option NPIdentifier
  | 0 => some 0
  | id + 1 => (ids[id]?).join

def doSendNPIdentifier (ids : IdTable) (isViewer : Bool) (ident : NPIdentifier) : IdTable × Nat :=
  if ident = 0 then (ids, 0)
  else if isViewer then (ids, ident)
  else
    match ids.idxOf? (some ident) with
    | some id => (ids, id + 1)
    | none => (ids ++ [some ident], ids.length + 1)

/-- None where the assertion fails. -/
def doRecvNPIdentifier (ids : IdTable) (isViewer : Bool) (id : Nat) : Option NPIdentifier :=
  if isViewer then some id else ids.lookup id

def doSendNPIdentifiers (ids : IdTable) (isViewer : Bool) : List NPIdentifier → IdTable × List Nat
  | [] => (ids, [])
  | ident :: idents =>
    let (ids, id) := doSendNPIdentifier ids isViewer ident
    let (ids, rest) := doSendNPIdentifiers ids isViewer idents
    (ids, id :: rest)

/-! ### Objects and variants of an end -/

namespace Peer

/-- None where a number is 0 (npobject_create_stub() counts in 32 bits). -/
def sendNPObject (p : Peer) (passRef : Bool) : Option NPObjectRef → Option (Peer × NPObjectMessage)
  | some (.local o) =>
    if p.stubs.length + 1 < 2 ^ 32 then some (p.doSendNPObjectHelper passRef (some (.local o))) else none
  | r => some (p.doSendNPObjectHelper passRef r)

def doSendNPVariantHelper (p : Peer) (passRef : Bool) (variant : NPVariant (Option NPObjectRef)) :
    Option (Peer × NPVariant NPObjectMessage) :=
  variant.carried.bind fun variant => variant.withObject (p.sendNPObject passRef) p

def doRecvNPVariantHelper (p : Peer) (variant : NPVariant NPObjectMessage) :
    Option (Peer × NPVariant (Option NPObjectRef)) :=
  variant.withObject (p.doRecvNPObjectHelper 0) p

def sendVariants (p : Peer) : List (NPVariant (Option NPObjectRef)) → Option (Peer × List (NPVariant NPObjectMessage))
  | [] => some (p, [])
  | variant :: variants =>
    (p.doSendNPVariantHelper false variant).bind fun (p, m) =>
      (p.sendVariants variants).map fun (p, ms) => (p, m :: ms)

def recvVariants (p : Peer) : List (NPVariant NPObjectMessage) → Option (Peer × List (NPVariant (Option NPObjectRef)))
  | [] => some (p, [])
  | m :: ms =>
    (p.doRecvNPVariantHelper m).bind fun (p, variant) =>
      (p.recvVariants ms).map fun (p, variants) => (p, variant :: variants)

/-- The answer of the other end to what a release sends. -/
def answered (p : Peer) : List NPObjectMessage → Peer
  | [.deallocate id] => p.npclassHandleDeallocate id
  | _ => p

/-- NPN_ReleaseObject() with the other end waiting: a proxy that loses its last reference is freed when its stub's
    release was answered. -/
def releaseObject (own other : Peer) : NPObjectRef → Peer × Peer
  | .local o => ((own.release true (.local o)).1, other)
  | .proxy i =>
    let (own, sent) := own.releaseProxy i true
    let other := other.answered sent
    match own.proxies[i]? with
    | none => (own, other)
    | some x => (if x.referenceCount = 0 then own.freeProxy i else own, other)

/-- `npvariant_clear`. -/
def releaseVariantValue (own other : Peer) : NPVariant (Option NPObjectRef) → Peer × Peer
  | .object (some r) => own.releaseObject other r
  | _ => (own, other)

def releaseVariants (own other : Peer) : List (NPVariant (Option NPObjectRef)) → Peer × Peer
  | [] => (own, other)
  | variant :: variants =>
    let (own, other) := own.releaseVariantValue other variant
    own.releaseVariants other variants

/-- The function's own reference to what it returns. -/
def returnObject (p : Peer) : Option ReturnedObject → Peer × Option NPObjectRef
  | none => (p, none)
  | some .created => (p.npnCreateObject, some (.local p.objects.length))
  | some (.known r) => (p.retain r, some r)

/-- `is_valid_npobject_proxy`. -/
def isValidNPObjectProxy (p : Peer) : Option NPObjectRef → Bool
  | some (.proxy i) => match p.proxies[i]? with
    | some x => x.isValid
    | none => false
  | _ => false

end Peer

/-! ### The two ends of a call -/

inductive CallEnd where
  | caller
  | callee
  deriving Repr, DecidableEq

/-- What an NPObject pointer stands for: NULL, an object of one of the ends, or a proxy's object that is not there. -/
inductive Designated where
  | null
  | object (side : CallEnd) (o : Nat)
  | nothing
  deriving Repr, DecidableEq

/-- A call of a class function: its object, what its arguments stood for then, and what it returned. Identifiers are
    the browser's. -/
structure NPClassCall where
  npobj : Nat
  method : NPClassMethod
  name : Option NPIdentifier
  args : List (NPVariant Designated)
  ret : Bool
  result : NPVariant Designated
  identifiers : List (Option NPIdentifier)

/-- `npClass` and `isRegistered` are about the callee's objects. `calls` are those of its class functions. -/
structure CallEnds where
  caller : Peer
  callee : Peer
  calleeIsViewer : Bool
  npClass : Nat → Option NPClass
  isRegistered : Nat → Bool
  ids : IdTable
  callerPointers32 : Bool
  calleePointers32 : Bool
  calls : List NPClassCall

/-- sizeof(NPVariant). -/
def variantSize (pointers32 : Bool) : Nat := if pointers32 then 12 else 24

/-- sizeof(NPIdentifier). -/
def identifierSize (pointers32 : Bool) : Nat := if pointers32 then 4 else 8

structure NPClassRequest where
  npobj : NPObjectMessage
  name : Nat
  args : List (NPVariant NPObjectMessage)

structure NPClassReply where
  ret : Bool
  result : NPVariant NPObjectMessage
  identifiers : List Nat

/-- What a caller gets. The identifiers are those of `*idents`. -/
structure NPClassOutcome where
  ret : Bool
  result : NPVariant (Option NPObjectRef)
  identifiers : List NPIdentifier

/-- What a caller gets that is refused. -/
def NPClassOutcome.refused : NPClassOutcome := ⟨false, .void, []⟩

/-- What a pointer of an end stands for. -/
def designated (own other : Peer) (side : CallEnd) : Option NPObjectRef → Designated
  | none => .null
  | some (.local o) => .object side o
  | some (.proxy i) =>
    match own.proxies[i]? with
    | none => .nothing
    | some x =>
      match other.npobjectLookupLocal x.id with
      | none => .nothing
      | some o => .object (match side with | .caller => .callee | .callee => .caller) o

namespace CallEnds

def callerSees (e : CallEnds) : Option NPObjectRef → Designated := designated e.caller e.callee .caller

def calleeSees (e : CallEnds) : Option NPObjectRef → Designated := designated e.callee e.caller .callee

/-- The browser's identifier that the caller means. -/
def callerNames (e : CallEnds) (ident : NPIdentifier) : Option NPIdentifier :=
  if e.calleeIsViewer then some ident else e.ids.lookup ident

def calleeNames (e : CallEnds) (ident : NPIdentifier) : Option NPIdentifier :=
  if e.calleeIsViewer then e.ids.lookup ident else some ident

/-! ### The callee -/

/-- The function that is called: of a class that is there, of an object that is registered where that is asked, and of
    the methods only enumerate() is looked up by its version. -/
def function (e : CallEnds) (method : NPClassMethod) (o : Nat) : Option NPClassFunction :=
  match e.npClass o with
  | none => none
  | some c =>
    if e.calleeIsViewer && !e.isRegistered o then none
    else if method = .enumerate ∧ c.hasEnum = false then none
    else c.function method

/-- Calls the function. -/
def call (e : CallEnds) (method : NPClassMethod) (o : Nat) (name : NPIdentifier)
    (args : List (NPVariant (Option NPObjectRef))) : Option (CallEnds × NPClassOutcome) :=
  match e.function method o with
  | none => some (e, .refused)
  | some f =>
    let answer := (f name args).of method
    (answer.result.withObject (fun r => some (e.callee.returnObject r)) e.callee).map fun (callee, result) =>
      let e' := { e with callee }
      let call : NPClassCall :=
        { npobj := o, method, name := e.calleeNames name, args := args.map (NPVariant.map e.calleeSees),
          ret := answer.ret, result := result.map e'.calleeSees, identifiers := answer.identifiers.map e.calleeNames }
      ({ e' with calls := e.calls ++ [call] }, ⟨answer.ret, result, answer.identifiers⟩)

def release (e : CallEnds) (variants : List (NPVariant (Option NPObjectRef))) : CallEnds :=
  let (callee, caller) := e.callee.releaseVariants e.caller variants
  { e with callee, caller }

def reply (e : CallEnds) (outcome : NPClassOutcome) : Option (CallEnds × NPClassReply) :=
  (e.callee.doSendNPVariantHelper true outcome.result).bind fun (callee, result) =>
    let (ids, identifiers) := doSendNPIdentifiers e.ids e.calleeIsViewer outcome.identifiers
    if arrayFits identifiers.length (identifierSize e.calleePointers32) then
      some ({ e with callee, ids }, ⟨outcome.ret, result, identifiers⟩)
    else
      none

/-- The handlers differ in what they receive and send. The object of a request is one of this end. -/
def npclassHandle (e : CallEnds) (method : NPClassMethod) (request : NPClassRequest) :
    Option (CallEnds × NPClassReply) :=
  match e.callee.doRecvNPObjectHelper 0 request.npobj with
  | some (callee, some (.local o)) =>
    (doRecvNPIdentifier e.ids e.calleeIsViewer request.name).bind fun name =>
    if arrayFits request.args.length (variantSize e.calleePointers32) then
      (callee.recvVariants request.args).bind fun (callee, args) =>
      ({ e with callee }.call method o name args).bind fun (e, outcome) =>
      (e.release (.object (some (.local o)) :: args)).reply outcome
    else
      none
  | _ => none

def npclassHandleHasMethod (e : CallEnds) (npobj : NPObjectMessage) (name : Nat) := e.npclassHandle .hasMethod ⟨npobj, name, []⟩

def npclassHandleInvoke (e : CallEnds) (npobj : NPObjectMessage) (name : Nat) (args : List (NPVariant NPObjectMessage)) :=
  e.npclassHandle .invoke ⟨npobj, name, args⟩

def npclassHandleInvokeDefault (e : CallEnds) (npobj : NPObjectMessage) (args : List (NPVariant NPObjectMessage)) :=
  e.npclassHandle .invokeDefault ⟨npobj, 0, args⟩

def npclassHandleHasProperty (e : CallEnds) (npobj : NPObjectMessage) (name : Nat) :=
  e.npclassHandle .hasProperty ⟨npobj, name, []⟩

def npclassHandleGetProperty (e : CallEnds) (npobj : NPObjectMessage) (name : Nat) :=
  e.npclassHandle .getProperty ⟨npobj, name, []⟩

def npclassHandleSetProperty (e : CallEnds) (npobj : NPObjectMessage) (name : Nat) (value : NPVariant NPObjectMessage) :=
  e.npclassHandle .setProperty ⟨npobj, name, [value]⟩

def npclassHandleRemoveProperty (e : CallEnds) (npobj : NPObjectMessage) (name : Nat) :=
  e.npclassHandle .removeProperty ⟨npobj, name, []⟩

def npclassHandleEnumerate (e : CallEnds) (npobj : NPObjectMessage) := e.npclassHandle .enumerate ⟨npobj, 0, []⟩

def npclassHandleConstruct (e : CallEnds) (npobj : NPObjectMessage) (args : List (NPVariant NPObjectMessage)) :=
  e.npclassHandle .construct ⟨npobj, 0, args⟩

/-! ### The caller -/

/-- What NPW_ReallocData() leaves is only there for a call that succeeded. -/
def outcome (e : CallEnds) (reply : NPClassReply) : Option (CallEnds × NPClassOutcome) :=
  (e.caller.doRecvNPVariantHelper reply.result).bind fun (caller, result) =>
  (reply.identifiers.mapM (doRecvNPIdentifier e.ids !e.calleeIsViewer)).bind fun identifiers =>
    if arrayFits identifiers.length (identifierSize e.callerPointers32) then
      some ({ e with caller }, ⟨reply.ret, result, if reply.ret then identifiers else []⟩)
    else
      none

/-- The functions that invoke a method differ in what they send and receive. -/
def npclassInvoke (e : CallEnds) (method : NPClassMethod) (npobj : Option NPObjectRef) (name : NPIdentifier)
    (args : List (NPVariant (Option NPObjectRef))) : Option (CallEnds × NPClassOutcome) :=
  (e.caller.sendNPObject false npobj).bind fun (caller, npobj) =>
  let (ids, name) := doSendNPIdentifier e.ids (!e.calleeIsViewer) name
  if arrayFits args.length (variantSize e.callerPointers32) then
    (caller.sendVariants args).bind fun (caller, args) =>
    ({ e with caller, ids }.npclassHandle method ⟨npobj, name, args⟩).bind fun (e, reply) => e.outcome reply
  else
    none

/-- What the functions of `npclass_bridge` do, on the main thread and with places for the results. -/
def gNPClass (e : CallEnds) (method : NPClassMethod) (npobj : Option NPObjectRef) (name : NPIdentifier)
    (args : List (NPVariant (Option NPObjectRef))) : Option (CallEnds × NPClassOutcome) :=
  if e.caller.isValidNPObjectProxy npobj then e.npclassInvoke method npobj name args else some (e, .refused)

def gNPClassHasMethod (e : CallEnds) (npobj : Option NPObjectRef) (name : NPIdentifier) := e.gNPClass .hasMethod npobj name []

def gNPClassInvoke (e : CallEnds) (npobj : Option NPObjectRef) (name : NPIdentifier)
    (args : List (NPVariant (Option NPObjectRef))) := e.gNPClass .invoke npobj name args

def gNPClassInvokeDefault (e : CallEnds) (npobj : Option NPObjectRef) (args : List (NPVariant (Option NPObjectRef))) :=
  e.gNPClass .invokeDefault npobj 0 args

def gNPClassHasProperty (e : CallEnds) (npobj : Option NPObjectRef) (name : NPIdentifier) :=
  e.gNPClass .hasProperty npobj name []

def gNPClassGetProperty (e : CallEnds) (npobj : Option NPObjectRef) (name : NPIdentifier) :=
  e.gNPClass .getProperty npobj name []

def gNPClassSetProperty (e : CallEnds) (npobj : Option NPObjectRef) (name : NPIdentifier)
    (value : NPVariant (Option NPObjectRef)) := e.gNPClass .setProperty npobj name [value]

def gNPClassRemoveProperty (e : CallEnds) (npobj : Option NPObjectRef) (name : NPIdentifier) :=
  e.gNPClass .removeProperty npobj name []

def gNPClassEnumerate (e : CallEnds) (npobj : Option NPObjectRef) := e.gNPClass .enumerate npobj 0 []

def gNPClassConstruct (e : CallEnds) (npobj : Option NPObjectRef) (args : List (NPVariant (Option NPObjectRef))) :=
  e.gNPClass .construct npobj 0 args

end CallEnds
end NSPluginWrapper
