import NSPluginWrapper.Npapi.Event

/-! The marshalers of npw-rpc.c that send a value field by field. -/

namespace NSPluginWrapper

/-- What `do_send_NPObject_helper` found out of an object before it sends anything. -/
structure NPObjectFields where
  type : UInt32
  plugin : UInt32
  npobjId : UInt32
  releaseStub : Bool
  deriving Repr, DecidableEq

def doSendNPWPluginInstance (instanceId : UInt32) : Send Unit := rpcMessageSendUint32 instanceId

/-- The end of `do_send_NPObject_helper`. -/
def doSendNPObjectFields (passRef : Bool) (fields : NPObjectFields) : Send Unit := do
  rpcMessageSendUint32 fields.type
  doSendNPWPluginInstance fields.plugin
  rpcMessageSendUint32 fields.npobjId
  if passRef then rpcMessageSendUint32 (if fields.releaseStub then 1 else 0) else pure ()

/-- Of a string, as many bytes as it says. -/
def NPVariant.WellFormed {O : Type} : NPVariant O → Prop
  | .string value => (value.utf8Characters.getD []).length = value.utf8Length.toNat
  | _ => True

/-- A value of one of these types. -/
inductive Composite where
  | byteRange (ranges : List NPByteRange)
  | savedData (saveArea : Option { saveArea : NPSavedData // saveArea.len.toInt = saveArea.buf.length })
  | rect (rect : NPRect)
  | setWindowCallbackStruct (wsInfo : Option NPSetWindowCallbackStruct)
  | window (window : Option NPWindow)
  | embedPrint (embedPrint : NPEmbedPrint)
  | fullPrint (fullPrint : NPFullPrint)
  | print (printInfo : NPPrint)
  | printData (printData : NPPrintData)
  | event (event : Option XEvent)
  | variant (passRef : Bool) (variant : { variant : NPVariant NPObjectFields // variant.WellFormed })
  | object (passRef : Bool) (object : NPObjectFields)

def Composite.send : Composite → Send Unit
  | .byteRange ranges => doSendNPByteRange ranges
  | .savedData saveArea => doSendNPSavedData (saveArea.map (·.val))
  | .rect x => doSendNPRect x
  | .setWindowCallbackStruct wsInfo => doSendNPSetWindowCallbackStruct wsInfo
  | .window x => doSendNPWindow x
  | .embedPrint x => doSendNPEmbedPrint x
  | .fullPrint x => doSendNPFullPrint x
  | .print printInfo => doSendNPPrint printInfo
  | .printData x => doSendNPPrintData x
  | .event x => doSendNPEvent x
  | .variant passRef x => doSendNPVariant (doSendNPObjectFields passRef) x.val
  | .object passRef x => doSendNPObjectFields passRef x

end NSPluginWrapper
