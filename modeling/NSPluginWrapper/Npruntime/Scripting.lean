import NSPluginWrapper.Npruntime.Operations

/-! npw-viewer.c and npw-wrapper.c: the scripting functions that a plugin is given. The viewer sends the object, of either
    end, the identifier and the arguments, the wrapper calls the browser's function, releases what it received and sends the
    result. What the browser's functions do is a parameter. -/

namespace NSPluginWrapper

inductive NPNMethod where
  | invoke
  | invokeDefault
  | evaluate
  | getProperty
  | setProperty
  | removeProperty
  | hasProperty
  | hasMethod
  | enumerate
  | construct
  deriving Repr, DecidableEq

/-- The member of a class that is asked for before a call, none where only an object is. -/
def NPNMethod.member : NPNMethod → Option NPClassMethod
  | .invoke => some .invoke
  | .invokeDefault => some .invokeDefault
  | .evaluate => none
  | .getProperty => some .getProperty
  | .setProperty => some .setProperty
  | .removeProperty => some .removeProperty
  | .hasProperty => some .hasProperty
  | .hasMethod => some .hasMethod
  | .enumerate => some .enumerate
  | .construct => some .construct

def NPNMethod.givesVariant : NPNMethod → Bool
  | .invoke | .invokeDefault | .evaluate | .getProperty | .construct => true
  | _ => false

/-- Whether a browser without the function is asked for it. -/
def NPNMethod.isOptional : NPNMethod → Bool
  | .enumerate | .construct => true
  | _ => false

/-- A function of the browser, of an object, an identifier, which is NULL where it takes none, and arguments, which are
    also a script or a value. -/
abbrev NPNFunction := Option NPObjectRef → NPIdentifier → List (NPVariant (Option NPObjectRef)) → NPClassAnswer

/-- `mozilla_funcs`. -/
abbrev MozillaFuncs := NPNMethod → Option NPNFunction

/-- What a function has results for. -/
def NPClassAnswer.ofNPN (answer : NPClassAnswer) (method : NPNMethod) : NPClassAnswer where
  ret := answer.ret
  result := if method.givesVariant then answer.result else .void
  identifiers := if method = .enumerate then answer.identifiers else []

/-- A call of a function of the browser, with what everything stood for. Identifiers are the browser's. -/
structure NPNCall where
  method : NPNMethod
  npobj : Designated
  name : Option NPIdentifier
  args : List (NPVariant Designated)
  ret : Bool
  result : NPVariant Designated
  identifiers : List (Option NPIdentifier)

/-- The caller is the viewer and the callee the wrapper. `mozilla` is the browser's, `pluginClass` of the plugin's
    objects. -/
structure NPNEnds where
  ends : CallEnds
  isPlugin : ends.calleeIsViewer = false
  mozilla : MozillaFuncs
  pluginClass : Nat → Option NPClass

/-- The ends after a call, what the plugin gets, and the calls of the browser's functions. -/
abbrev NPNResult := Option (CallEnds × NPClassOutcome × List NPNCall)

namespace CallEnds

/-! ### The wrapper -/

/-- g_NPN_*(): enumerate and construct are looked up, the others called through what may be NULL. -/
def npnCall (e : CallEnds) (mozilla : MozillaFuncs) (method : NPNMethod) (npobj : Option NPObjectRef) (name : NPIdentifier)
    (args : List (NPVariant (Option NPObjectRef))) : NPNResult :=
  match mozilla method with
  | none => if method.isOptional then some (e, .refused, []) else none
  | some f =>
    let answer := (f npobj name args).ofNPN method
    (answer.result.withObject (fun r => some (e.callee.returnObject r)) e.callee).map fun (callee, result) =>
      let e' := { e with callee }
      let call : NPNCall :=
        { method, npobj := e.calleeSees npobj, name := e.calleeNames name, args := args.map (NPVariant.map e.calleeSees),
          ret := answer.ret, result := result.map e'.calleeSees, identifiers := answer.identifiers.map e.calleeNames }
      (e', ⟨answer.ret, result, answer.identifiers⟩, [call])

/-- handle_NPN_*(), which differ in what they receive and send. -/
def handleNPN (e : CallEnds) (mozilla : MozillaFuncs) (method : NPNMethod) (request : NPClassRequest) :
    Option (CallEnds × NPClassReply × List NPNCall) :=
  (e.callee.doRecvNPObjectHelper 0 request.npobj).bind fun (callee, npobj) =>
  (doRecvNPIdentifier e.ids e.calleeIsViewer request.name).bind fun name =>
  if arrayFits request.args.length (variantSize e.calleePointers32) then
    (callee.recvVariants request.args).bind fun (callee, args) =>
    ({ e with callee }.npnCall mozilla method npobj name args).bind fun (e, outcome, calls) =>
    ((e.release (.object npobj :: args)).reply outcome).map fun (e, reply) => (e, reply, calls)
  else
    none

/-! ### The viewer -/

/-- invoke_NPN_*(), which differ in what they send and receive. -/
def invokeNPN (e : CallEnds) (mozilla : MozillaFuncs) (method : NPNMethod) (npobj : Option NPObjectRef) (name : NPIdentifier)
    (args : List (NPVariant (Option NPObjectRef))) : NPNResult :=
  (e.caller.sendNPObject false npobj).bind fun (caller, npobj) =>
  let (ids, name) := doSendNPIdentifier e.ids (!e.calleeIsViewer) name
  if arrayFits args.length (variantSize e.callerPointers32) then
    (caller.sendVariants args).bind fun (caller, args) =>
    ({ e with caller, ids }.handleNPN mozilla method ⟨npobj, name, args⟩).bind fun (e, reply, calls) =>
    (e.outcome reply).map fun (e, outcome) => (e, outcome, calls)
  else
    none

end CallEnds

namespace NPNEnds

/-- Whether the object's class has the member. That of a proxy has all of them. -/
def hasMember (e : NPNEnds) (method : NPNMethod) : NPObjectRef → Bool
  | .proxy _ => true
  | .local o =>
    match method.member with
    | none => true
    | some member =>
      match e.pluginClass o with
      | none => false
      | some c => (c.function member).isSome

/-- The functions that a plugin calls, on the main thread and with an instance. -/
def gNPN (e : NPNEnds) (method : NPNMethod) (npobj : Option NPObjectRef) (name : NPIdentifier)
    (args : List (NPVariant (Option NPObjectRef))) : NPNResult :=
  match npobj with
  | none => some (e.ends, .refused, [])
  | some r => if e.hasMember method r then e.ends.invokeNPN e.mozilla method (some r) name args else some (e.ends, .refused, [])

def gNPNInvoke (e : NPNEnds) (npobj : Option NPObjectRef) (methodName : NPIdentifier)
    (args : List (NPVariant (Option NPObjectRef))) := e.gNPN .invoke npobj methodName args

def gNPNInvokeDefault (e : NPNEnds) (npobj : Option NPObjectRef) (args : List (NPVariant (Option NPObjectRef))) :=
  e.gNPN .invokeDefault npobj 0 args

/-- Without a script there is nothing to evaluate, and no result. -/
def gNPNEvaluate (e : NPNEnds) (npobj : Option NPObjectRef) (script : Option NPString) : NPNResult :=
  match npobj, script with
  | none, _ => some (e.ends, .refused, [])
  | some _, none => some (e.ends, ⟨true, .void, []⟩, [])
  | some r, some script =>
    if script.utf8Length = 0 ∨ script.utf8Characters = none then some (e.ends, ⟨true, .void, []⟩, [])
    else e.gNPN .evaluate (some r) 0 [.string script]

def gNPNGetProperty (e : NPNEnds) (npobj : Option NPObjectRef) (propertyName : NPIdentifier) :=
  e.gNPN .getProperty npobj propertyName []

def gNPNSetProperty (e : NPNEnds) (npobj : Option NPObjectRef) (propertyName : NPIdentifier)
    (value : NPVariant (Option NPObjectRef)) := e.gNPN .setProperty npobj propertyName [value]

def gNPNRemoveProperty (e : NPNEnds) (npobj : Option NPObjectRef) (propertyName : NPIdentifier) :=
  e.gNPN .removeProperty npobj propertyName []

def gNPNHasProperty (e : NPNEnds) (npobj : Option NPObjectRef) (propertyName : NPIdentifier) :=
  e.gNPN .hasProperty npobj propertyName []

def gNPNHasMethod (e : NPNEnds) (npobj : Option NPObjectRef) (methodName : NPIdentifier) :=
  e.gNPN .hasMethod npobj methodName []

def gNPNEnumerate (e : NPNEnds) (npobj : Option NPObjectRef) := e.gNPN .enumerate npobj 0 []

def gNPNConstruct (e : NPNEnds) (npobj : Option NPObjectRef) (args : List (NPVariant (Option NPObjectRef))) :=
  e.gNPN .construct npobj 0 args

end NPNEnds
end NSPluginWrapper
