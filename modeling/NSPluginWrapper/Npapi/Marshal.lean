import NSPluginWrapper.Rpc.Args

/-! The marshalers of npw-rpc.c: what of each NPAPI type goes on the wire, and how the other side builds a
    value from it. A field that does not travel (a display, a platform's print data, a list's addresses) is
    not part of a value here. -/

namespace NSPluginWrapper

/-! ### NPByteRange -/

structure NPByteRange where
  offset : Int32
  length : UInt32
  deriving Repr, DecidableEq

/-- Every range follows a 1, the end of the list is a 0. -/
def doSendNPByteRange : List NPByteRange → Send Unit
  | [] => rpcMessageSendUint32 0
  | range :: next => do
    rpcMessageSendUint32 1
    rpcMessageSendInt32 range.offset
    rpcMessageSendUint32 range.length
    doSendNPByteRange next

def recvByteRanges : Nat → Recv (List NPByteRange)
  | 0 => throw .fault
  | rounds + 1 => do
    let cont ← rpcMessageRecvUint32
    if cont = 0 then
      pure []
    else do
      allocate
      let offset ← rpcMessageRecvInt32
      let length ← rpcMessageRecvUint32
      let next ← recvByteRanges rounds
      pure (⟨offset, length⟩ :: next)

/-- A round takes four bytes or fails, so there are never more rounds than bytes. -/
def doRecvNPByteRange : Recv (List NPByteRange) := fun m => recvByteRanges (m.held.length + 1) m

/-! ### NPSavedData -/

structure NPSavedData where
  len : Int32
  buf : List UInt8
  deriving Repr, DecidableEq

def doSendNPSavedData : Option NPSavedData → Send Unit
  | none => rpcMessageSendInt32 0
  | some saveArea => do
    rpcMessageSendInt32 saveArea.len
    rpcMessageSendBytes saveArea.buf saveArea.len.toInt

def doRecvNPSavedData : Recv (Option NPSavedData) := do
  let len ← rpcMessageRecvInt32
  if len = 0 then
    pure none
  else do
    allocate
    allocate
    (fun buf => some ⟨len, buf⟩) <$> rpcMessageRecvBytes len.toInt

/-! ### NotifyData -/

/-- An address of the plugin's side, which the other side only passes back. -/
def doSendNotifyData (notifyData : UInt64) : Send Unit := rpcMessageSendUint64 notifyData

/-- `pointers32` says that an address here has 32 bits; one that has more aborts the process. -/
def doRecvNotifyData (pointers32 : Bool) : Recv UInt64 := do
  let id ← rpcMessageRecvUint64
  if pointers32 ∧ 2 ^ 32 ≤ id then throw .fault else pure id

/-! ### NPRect -/

structure NPRect where
  top : UInt16
  left : UInt16
  bottom : UInt16
  right : UInt16
  deriving Repr, DecidableEq

def doSendNPRect (rect : NPRect) : Send Unit := do
  rpcMessageSendUint32 rect.top.toUInt32
  rpcMessageSendUint32 rect.left.toUInt32
  rpcMessageSendUint32 rect.bottom.toUInt32
  rpcMessageSendUint32 rect.right.toUInt32

def doRecvNPRect : Recv NPRect := do
  let top ← rpcMessageRecvUint32
  let left ← rpcMessageRecvUint32
  let bottom ← rpcMessageRecvUint32
  let right ← rpcMessageRecvUint32
  pure ⟨top.toUInt16, left.toUInt16, bottom.toUInt16, right.toUInt16⟩

/-! ### NPWindow -/

/-- The visual is the number XVisualIDFromVisual() gives for it, 0 for none; the plugin's side keeps the
    number in place of the address. -/
structure NPSetWindowCallbackStruct where
  type : Int32
  visual : UInt64
  colormap : UInt64
  depth : UInt32
  deriving Repr, DecidableEq

def doSendNPSetWindowCallbackStruct : Option NPSetWindowCallbackStruct → Send Unit
  | some wsInfo => do
    rpcMessageSendUint32 1
    rpcMessageSendInt32 wsInfo.type
    rpcMessageSendUint32 wsInfo.visual.toUInt32
    rpcMessageSendUint32 wsInfo.colormap.toUInt32
    rpcMessageSendUint32 wsInfo.depth
  | none => rpcMessageSendUint32 0

def doRecvNPSetWindowCallbackStruct : Recv (Option NPSetWindowCallbackStruct) := do
  let hasWsInfo ← rpcMessageRecvUint32
  if hasWsInfo = 0 then
    pure none
  else do
    let type ← rpcMessageRecvInt32
    let visualId ← rpcMessageRecvUint32
    let colormap ← rpcMessageRecvUint32
    let depth ← rpcMessageRecvUint32
    allocate
    pure (some ⟨type, visualId.toUInt64, colormap.toUInt64, depth⟩)

/-- `window` is the id of an X window. -/
structure NPWindow where
  window : UInt64
  x : Int32
  y : Int32
  width : UInt32
  height : UInt32
  clipRect : NPRect
  type : Int32
  wsInfo : Option NPSetWindowCallbackStruct
  deriving Repr, DecidableEq

/-- An operation whose error is taken for success. -/
def ignoringError (w : Send Unit) : Send Unit := fun m =>
  match w m with
  | .error (.error _) m => .ok () m
  | result => result

/-- What goes wrong with ws_info is not reported. -/
def doSendNPWindowData (window : NPWindow) : Send Unit := do
  rpcMessageSendUint32 window.window.toUInt32
  rpcMessageSendInt32 window.x
  rpcMessageSendInt32 window.y
  rpcMessageSendUint32 window.width
  rpcMessageSendUint32 window.height
  doSendNPRect window.clipRect
  rpcMessageSendInt32 window.type
  ignoringError (doSendNPSetWindowCallbackStruct window.wsInfo)

def doRecvNPWindowData : Recv NPWindow := do
  let windowId ← rpcMessageRecvUint32
  let x ← rpcMessageRecvInt32
  let y ← rpcMessageRecvInt32
  let width ← rpcMessageRecvUint32
  let height ← rpcMessageRecvUint32
  let clipRect ← doRecvNPRect
  let type ← rpcMessageRecvInt32
  let wsInfo ← doRecvNPSetWindowCallbackStruct
  pure ⟨windowId.toUInt64, x, y, width, height, clipRect, type, wsInfo⟩

def doSendNPWindow : Option NPWindow → Send Unit
  | none => rpcMessageSendUint32 0
  | some window => do
    rpcMessageSendUint32 1
    doSendNPWindowData window

def doRecvNPWindow : Recv (Option NPWindow) := do
  let valid ← rpcMessageRecvUint32
  if valid = 0 then
    pure none
  else do
    allocate
    some <$> doRecvNPWindowData

/-! ### NPPrint -/

/-- NPBool is an `unsigned char`. -/
structure NPFullPrint where
  pluginPrinted : UInt8
  printOne : UInt8
  deriving Repr, DecidableEq

def doSendNPFullPrint (fullPrint : NPFullPrint) : Send Unit := do
  rpcMessageSendUint32 fullPrint.pluginPrinted.toUInt32
  rpcMessageSendUint32 fullPrint.printOne.toUInt32

def doRecvNPFullPrint : Recv NPFullPrint := do
  let pluginPrinted ← rpcMessageRecvUint32
  let printOne ← rpcMessageRecvUint32
  pure ⟨pluginPrinted.toUInt8, printOne.toUInt8⟩

structure NPEmbedPrint where
  window : NPWindow
  deriving Repr, DecidableEq

def doSendNPEmbedPrint (embedPrint : NPEmbedPrint) : Send Unit := doSendNPWindowData embedPrint.window

def doRecvNPEmbedPrint : Recv NPEmbedPrint := NPEmbedPrint.mk <$> doRecvNPWindowData

abbrev npEmbed : UInt16 := 1
abbrev npFull : UInt16 := 2

/-- A print request of one of the two modes, or of a mode that NPAPI does not know. -/
inductive NPPrint where
  | full (fullPrint : NPFullPrint)
  | embed (embedPrint : NPEmbedPrint)
  | other (mode : { mode : UInt16 // mode ≠ npEmbed ∧ mode ≠ npFull })
  deriving Repr, DecidableEq

def NPPrint.mode : NPPrint → UInt16
  | .full _ => npFull
  | .embed _ => npEmbed
  | .other mode => mode.val

def doSendNPPrint (printInfo : NPPrint) : Send Unit := do
  rpcMessageSendUint32 printInfo.mode.toUInt32
  match printInfo with
  | .full fullPrint => doSendNPFullPrint fullPrint
  | .embed embedPrint => doSendNPEmbedPrint embedPrint
  | .other _ => throw (.error RpcError.generic)

def doRecvNPPrint : Recv NPPrint := do
  let mode ← rpcMessageRecvUint32
  if mode = npFull.toUInt32 then
    .full <$> doRecvNPFullPrint
  else if mode = npEmbed.toUInt32 then
    .embed <$> doRecvNPEmbedPrint
  else
    throw (.error RpcError.generic)

/-! ### NPPrintData -/

/-- A piece of a print file, in a buffer of 4096 bytes. -/
structure NPPrintData where
  data : List UInt8
  fits : data.length ≤ 4096
  deriving Repr, DecidableEq

def doSendNPPrintData (printData : NPPrintData) : Send Unit := do
  rpcMessageSendUint32 (UInt32.ofNat printData.data.length)
  rpcMessageSendBytes printData.data printData.data.length

/-- The size is the sender's word. -/
def doRecvNPPrintData : Recv NPPrintData := do
  let size ← rpcMessageRecvUint32
  let data ← rpcMessageRecvBytes (cInt size.toNat)
  if fits : data.length ≤ 4096 then pure ⟨data, fits⟩ else throw .fault

/-! ### NPUTF8 and NPString -/

/-- The terminator travels with the string. -/
def doSendNPUTF8 : Option CString → Send Unit
  | none => throw (.error RpcError.messageArgumentInvalid)
  | some string => do
    let len := cInt (string.bytes.length + 1)
    rpcMessageSendUint32 (Int32.ofInt len).toUInt32
    if 0 < len then rpcMessageSendBytes (string.bytes ++ [0]) len else pure ()

def doRecvNPUTF8 : Recv CString := do
  let len ← rpcMessageRecvUint32
  allocate
  if 0 < len then
    CString.ofBytes <$> rpcMessageRecvBytes (cInt len.toNat)
  else
    pure (.ofBytes [])

structure NPString where
  utf8Characters : Option (List UInt8)
  utf8Length : UInt32
  deriving Repr, DecidableEq

def doSendNPString (string : NPString) : Send Unit := do
  rpcMessageSendUint32 string.utf8Length
  match string.utf8Characters with
  | some characters =>
    if string.utf8Length ≠ 0 then rpcMessageSendBytes characters (cInt string.utf8Length.toNat) else pure ()
  | none => pure ()

def doRecvNPString : Recv NPString := do
  let utf8Length ← rpcMessageRecvUint32
  allocate
  if 0 < utf8Length then
    (fun characters => ⟨some characters, utf8Length⟩) <$> rpcMessageRecvBytes (cInt utf8Length.toNat)
  else
    pure ⟨some [], utf8Length⟩

/-! ### NPVariant -/

/-- A variant, over what its NPObjects are. A number that is no type stands for no value. -/
inductive NPVariant (O : Type) where
  | void
  | null
  | bool (value : Bool)
  | int32 (value : Int32)
  | double (value : Double)
  | string (value : NPString)
  | object (value : O)
  | other (type : { type : UInt32 // 6 < type })
  deriving Repr, DecidableEq

namespace NPVariantType
abbrev void : UInt32 := 0
abbrev null : UInt32 := 1
abbrev bool : UInt32 := 2
abbrev int32 : UInt32 := 3
abbrev double : UInt32 := 4
abbrev string : UInt32 := 5
abbrev object : UInt32 := 6
end NPVariantType

section
variable {O : Type}

def NPVariant.type : NPVariant O → UInt32
  | .void => NPVariantType.void
  | .null => NPVariantType.null
  | .bool _ => NPVariantType.bool
  | .int32 _ => NPVariantType.int32
  | .double _ => NPVariantType.double
  | .string _ => NPVariantType.string
  | .object _ => NPVariantType.object
  | .other type => type.val

/-- `do_send_NPVariant_helper`; what it releases when it passes its reference does not show on the wire. -/
def doSendNPVariant (sendObject : O → Send Unit) (variant : NPVariant O) : Send Unit := do
  rpcMessageSendUint32 variant.type
  match variant with
  | .void | .null | .other _ => pure ()
  | .bool value => rpcMessageSendUint32 (if value then 1 else 0)
  | .int32 value => rpcMessageSendInt32 value
  | .double value => rpcMessageSendDouble value
  | .string value => doSendNPString value
  | .object value => sendObject value

def doRecvNPVariant (recvObject : Recv O) : Recv (NPVariant O) := do
  let type ← rpcMessageRecvUint32
  if other : 6 < type then
    pure (.other ⟨type, other⟩)
  else if type = NPVariantType.void then
    pure .void
  else if type = NPVariantType.null then
    pure .null
  else if type = NPVariantType.bool then
    (fun value => .bool (value != 0)) <$> rpcMessageRecvUint32
  else if type = NPVariantType.int32 then
    .int32 <$> rpcMessageRecvInt32
  else if type = NPVariantType.double then
    .double <$> rpcMessageRecvDouble
  else if type = NPVariantType.string then
    .string <$> doRecvNPString
  else
    .object <$> recvObject

end
end NSPluginWrapper
