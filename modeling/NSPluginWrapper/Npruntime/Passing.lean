import NSPluginWrapper.Npapi.Composite
import NSPluginWrapper.Npruntime.Bridge

/-! npw-rpc.c: a variant is sent, with its object's number or its string, and the sender's reference or string may pass
    to the other end with it. -/

namespace NSPluginWrapper

/-- `plugin` is the number of the object's owner, which only the viewer sends. -/
def NPObjectMessage.fields (plugin : UInt32) : NPObjectMessage → NPObjectFields
  | .null | .deallocate _ => ⟨0, 0, 0, false⟩
  | .senderOwned id _ => ⟨1, plugin, UInt32.ofNat id, false⟩
  | .receiverOwned id releaseStub _ _ => ⟨2, 0, UInt32.ofNat id, releaseStub⟩

/-- A variant of an end. -/
abbrev LocalVariant := NPVariant (Option NPObjectRef)

/-- The string that npvariant_clear() frees, one or none. -/
def NPVariant.strings {O : Type} : NPVariant O → Nat
  | .string value => value.utf8Characters.toList.length
  | _ => 0

/-- What sending leaves: the end, the variant, how often its string was freed, what was said of its object, and the
    result. -/
structure Passing where
  peer : Peer
  variant : LocalVariant
  freed : Nat
  said : Option NPObjectMessage
  result : EStateM.Result Failure OutMessage Unit

namespace Peer

/-- `do_send_NPObject_helper`: the reference is gone before anything is sent. -/
def passNPObject (p : Peer) (passRef : Bool) (plugin : UInt32) (npobj : Option NPObjectRef) (m : OutMessage) :
    Peer × NPObjectMessage × EStateM.Result Failure OutMessage Unit :=
  let (p, said) := p.doSendNPObjectHelper passRef npobj
  (p, said, doSendNPObjectFields passRef (said.fields plugin) m)

/-- What follows the type, where it is no object. -/
def passNPVariantValue : LocalVariant → Send Unit
  | .bool value => rpcMessageSendUint32 (if value then 1 else 0)
  | .int32 value => rpcMessageSendInt32 value
  | .double value => rpcMessageSendDouble value
  | .string value => doSendNPString value
  | _ => pure ()

/-- `do_send_NPVariant_helper`. -/
def passNPVariant (p : Peer) (passRef : Bool) (plugin : UInt32) (variant : LocalVariant) (m : OutMessage) : Passing :=
  match rpcMessageSendUint32 variant.type m with
  | .error e m => ⟨p, variant, 0, none, .error e m⟩
  | .ok _ m =>
    match variant with
    | .object npobj =>
      let (p, said, result) := p.passNPObject passRef plugin npobj m
      ⟨p, variant, 0, some said, result⟩
    | _ =>
      match passNPVariantValue variant m with
      | .error e m => ⟨p, variant, 0, none, .error e m⟩
      | .ok _ m =>
        if passRef then ⟨p, .void, variant.strings, none, .ok () m⟩ else ⟨p, variant, 0, none, .ok () m⟩

end Peer
end NSPluginWrapper
