import NSPluginWrapper.Npapi.Marshal

/-! NPEvent: the X events a plugin without a window of its own is sent. They are not real ones of the X
    server: an event has a type, the fields that every event has, and the member of the union that its type
    selects. -/

namespace NSPluginWrapper

namespace XEventType
abbrev keyPress : Int32 := 2
abbrev keyRelease : Int32 := 3
abbrev buttonPress : Int32 := 4
abbrev buttonRelease : Int32 := 5
abbrev motionNotify : Int32 := 6
abbrev enterNotify : Int32 := 7
abbrev leaveNotify : Int32 := 8
abbrev focusIn : Int32 := 9
abbrev focusOut : Int32 := 10
abbrev graphicsExpose : Int32 := 13
end XEventType

open XEventType

/-- `is_valid_NPEvent_type`. -/
def isValidNPEventType (type : Int32) : Bool :=
  type == graphicsExpose || type == focusIn || type == focusOut || type == enterNotify || type == leaveNotify ||
  type == motionNotify || type == buttonPress || type == buttonRelease || type == keyPress || type == keyRelease

/-! ### Events -/

/-- The fields of every event but its type. The window of a GraphicsExpose is its drawable. -/
structure XAnyEvent where
  serial : UInt64
  sendEvent : Int32
  display : UInt64
  window : UInt64
  deriving Repr, DecidableEq

structure XGraphicsExposeEvent where
  x : Int32
  y : Int32
  width : Int32
  height : Int32
  count : Int32
  majorCode : Int32
  minorCode : Int32
  deriving Repr, DecidableEq

structure XFocusChangeEvent where
  mode : Int32
  detail : Int32
  deriving Repr, DecidableEq

/-- What the events about a pointer or a key have first. -/
structure XPointerEvent where
  root : UInt64
  subwindow : UInt64
  time : UInt64
  x : Int32
  y : Int32
  xRoot : Int32
  yRoot : Int32
  deriving Repr, DecidableEq

structure XCrossingEvent extends XPointerEvent where
  mode : Int32
  detail : Int32
  sameScreen : Int32
  focus : Int32
  state : UInt32
  deriving Repr, DecidableEq

structure XMotionEvent extends XPointerEvent where
  state : UInt32
  isHint : UInt8
  sameScreen : Int32
  deriving Repr, DecidableEq

structure XButtonEvent extends XPointerEvent where
  state : UInt32
  button : UInt32
  sameScreen : Int32
  deriving Repr, DecidableEq

structure XKeyEvent extends XPointerEvent where
  state : UInt32
  keycode : UInt32
  sameScreen : Int32
  deriving Repr, DecidableEq

/-- The member of the union. -/
inductive XEventBody where
  | graphicsExpose (event : XGraphicsExposeEvent)
  | focusChange (event : XFocusChangeEvent)
  | crossing (event : XCrossingEvent)
  | motion (event : XMotionEvent)
  | button (event : XButtonEvent)
  | key (event : XKeyEvent)
  | other
  deriving Repr, DecidableEq

/-- The types that select a member. -/
def XEventBody.SelectedBy : XEventBody → Int32 → Prop
  | .graphicsExpose _, type => type = XEventType.graphicsExpose
  | .focusChange _, type => type = focusIn ∨ type = focusOut
  | .crossing _, type => type = enterNotify ∨ type = leaveNotify
  | .motion _, type => type = motionNotify
  | .button _, type => type = buttonPress ∨ type = buttonRelease
  | .key _, type => type = keyPress ∨ type = keyRelease
  | .other, type => isValidNPEventType type = false

structure XEvent where
  type : Int32
  any : XAnyEvent
  body : XEventBody
  selected : body.SelectedBy type

/-! ### Sending -/

def doSendXAnyEvent (any : XAnyEvent) : Send Unit := do
  rpcMessageSendUint32 any.serial.toUInt32
  rpcMessageSendUint32 any.sendEvent.toUInt32
  rpcMessageSendUint32 any.window.toUInt32

def doSendXGraphicsExposeEvent (any : XAnyEvent) (event : XGraphicsExposeEvent) : Send Unit := do
  doSendXAnyEvent any
  rpcMessageSendInt32 event.x
  rpcMessageSendInt32 event.y
  rpcMessageSendUint32 event.width.toUInt32
  rpcMessageSendUint32 event.height.toUInt32

def doSendXFocusChangeEvent : Send Unit := pure ()

/-- The common part of the next four. -/
def doSendXPointerEvent (any : XAnyEvent) (event : XPointerEvent) : Send Unit := do
  doSendXAnyEvent any
  rpcMessageSendUint32 event.root.toUInt32
  rpcMessageSendUint32 event.subwindow.toUInt32
  rpcMessageSendUint32 event.time.toUInt32
  rpcMessageSendInt32 event.x
  rpcMessageSendInt32 event.y
  rpcMessageSendInt32 event.xRoot
  rpcMessageSendInt32 event.yRoot

def doSendXCrossingEvent (any : XAnyEvent) (event : XCrossingEvent) : Send Unit := do
  doSendXPointerEvent any event.toXPointerEvent
  rpcMessageSendInt32 event.mode
  rpcMessageSendInt32 event.detail
  rpcMessageSendInt32 event.sameScreen
  rpcMessageSendInt32 event.focus
  rpcMessageSendUint32 event.state

def doSendXMotionEvent (any : XAnyEvent) (event : XMotionEvent) : Send Unit := do
  doSendXPointerEvent any event.toXPointerEvent
  rpcMessageSendUint32 event.state
  rpcMessageSendChar event.isHint
  rpcMessageSendInt32 event.sameScreen

def doSendXButtonEvent (any : XAnyEvent) (event : XButtonEvent) : Send Unit := do
  doSendXPointerEvent any event.toXPointerEvent
  rpcMessageSendUint32 event.state
  rpcMessageSendUint32 event.button
  rpcMessageSendInt32 event.sameScreen

def doSendXKeyEvent (any : XAnyEvent) (event : XKeyEvent) : Send Unit := do
  doSendXPointerEvent any event.toXPointerEvent
  rpcMessageSendUint32 event.state
  rpcMessageSendUint32 event.keycode
  rpcMessageSendInt32 event.sameScreen

def doSendNPEvent : Option XEvent → Send Unit
  | none => throw (.error RpcError.messageArgumentInvalid)
  | some event => do
    if isValidNPEventType event.type = false then
      throw (.error RpcError.messageArgumentInvalid)
    else do
      rpcMessageSendInt32 event.type
      match event.body with
      | .graphicsExpose body => doSendXGraphicsExposeEvent event.any body
      | .focusChange _ => doSendXFocusChangeEvent
      | .crossing body => doSendXCrossingEvent event.any body
      | .motion body => doSendXMotionEvent event.any body
      | .button body => doSendXButtonEvent event.any body
      | .key body => doSendXKeyEvent event.any body
      | .other => throw (.error RpcError.generic)

/-! ### Receiving -/

/-- What memset() leaves. -/
def XAnyEvent.zero : XAnyEvent := ⟨0, 0, 0, 0⟩

/-- The display is filled in by the plugin. -/
def doRecvXAnyEvent : Recv XAnyEvent := do
  let serial ← rpcMessageRecvUint32
  let sendEvent ← rpcMessageRecvUint32
  let window ← rpcMessageRecvUint32
  pure ⟨serial.toUInt64, sendEvent.toInt32, 0, window.toUInt64⟩

def doRecvXGraphicsExposeEvent : Recv (XAnyEvent × XGraphicsExposeEvent) := do
  let any ← doRecvXAnyEvent
  let x ← rpcMessageRecvInt32
  let y ← rpcMessageRecvInt32
  let width ← rpcMessageRecvUint32
  let height ← rpcMessageRecvUint32
  pure (any, ⟨x, y, width.toInt32, height.toInt32, 0, 0, 0⟩)

def doRecvXFocusChangeEvent : Recv (XAnyEvent × XFocusChangeEvent) := pure (.zero, ⟨0, 0⟩)

/-- The common part of the next four. -/
def doRecvXPointerEvent : Recv (XAnyEvent × XPointerEvent) := do
  let any ← doRecvXAnyEvent
  let root ← rpcMessageRecvUint32
  let subwindow ← rpcMessageRecvUint32
  let time ← rpcMessageRecvUint32
  let x ← rpcMessageRecvInt32
  let y ← rpcMessageRecvInt32
  let xRoot ← rpcMessageRecvInt32
  let yRoot ← rpcMessageRecvInt32
  pure (any, ⟨root.toUInt64, subwindow.toUInt64, time.toUInt64, x, y, xRoot, yRoot⟩)

def doRecvXCrossingEvent : Recv (XAnyEvent × XCrossingEvent) := do
  let (any, pointer) ← doRecvXPointerEvent
  let mode ← rpcMessageRecvInt32
  let detail ← rpcMessageRecvInt32
  let sameScreen ← rpcMessageRecvInt32
  let focus ← rpcMessageRecvInt32
  let state ← rpcMessageRecvUint32
  pure (any, ⟨pointer, mode, detail, sameScreen, focus, state⟩)

def doRecvXMotionEvent : Recv (XAnyEvent × XMotionEvent) := do
  let (any, pointer) ← doRecvXPointerEvent
  let state ← rpcMessageRecvUint32
  let isHint ← rpcMessageRecvChar
  let sameScreen ← rpcMessageRecvInt32
  pure (any, ⟨pointer, state, isHint, sameScreen⟩)

def doRecvXButtonEvent : Recv (XAnyEvent × XButtonEvent) := do
  let (any, pointer) ← doRecvXPointerEvent
  let state ← rpcMessageRecvUint32
  let button ← rpcMessageRecvUint32
  let sameScreen ← rpcMessageRecvInt32
  pure (any, ⟨pointer, state, button, sameScreen⟩)

def doRecvXKeyEvent : Recv (XAnyEvent × XKeyEvent) := do
  let (any, pointer) ← doRecvXPointerEvent
  let state ← rpcMessageRecvUint32
  let keycode ← rpcMessageRecvUint32
  let sameScreen ← rpcMessageRecvInt32
  pure (any, ⟨pointer, state, keycode, sameScreen⟩)

def doRecvNPEvent : Recv XEvent := do
  let type ← rpcMessageRecvInt32
  if h : type = graphicsExpose then
    (fun e => ⟨type, e.1, .graphicsExpose e.2, h⟩) <$> doRecvXGraphicsExposeEvent
  else if h : type = focusIn ∨ type = focusOut then
    (fun e => ⟨type, e.1, .focusChange e.2, h⟩) <$> doRecvXFocusChangeEvent
  else if h : type = enterNotify ∨ type = leaveNotify then
    (fun e => ⟨type, e.1, .crossing e.2, h⟩) <$> doRecvXCrossingEvent
  else if h : type = motionNotify then
    (fun e => ⟨type, e.1, .motion e.2, h⟩) <$> doRecvXMotionEvent
  else if h : type = buttonPress ∨ type = buttonRelease then
    (fun e => ⟨type, e.1, .button e.2, h⟩) <$> doRecvXButtonEvent
  else if h : type = keyPress ∨ type = keyRelease then
    (fun e => ⟨type, e.1, .key e.2, h⟩) <$> doRecvXKeyEvent
  else
    throw (.error RpcError.generic)

end NSPluginWrapper
