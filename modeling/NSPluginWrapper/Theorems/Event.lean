import NSPluginWrapper.Npapi.Event
import NSPluginWrapper.Theorems.Marshal

/-! Events come across: each type has one member of the union on both sides, with the same fields in the same
    order. -/

namespace NSPluginWrapper
open Lib XEventType

/-! ### Which events -/

def XPointerEvent.Permitted (event : XPointerEvent) : Prop := Id32 event.root ∧ Id32 event.subwindow

/-- Windows have ids of 32 bits. -/
def XEventBody.Permitted : XEventBody → Prop
  | .crossing event => event.toXPointerEvent.Permitted
  | .motion event => event.toXPointerEvent.Permitted
  | .button event => event.toXPointerEvent.Permitted
  | .key event => event.toXPointerEvent.Permitted
  | _ => True

def XEvent.Permitted (event : XEvent) : Prop := Id32 event.any.window ∧ event.body.Permitted

/-! ### What of an event is received -/

/-- A serial or a time, which travels as 32 bits. -/
def low32 (n : UInt64) : UInt64 := n.toUInt32.toUInt64

def XAnyEvent.received (any : XAnyEvent) : XAnyEvent := { any with serial := low32 any.serial, display := 0 }

def XPointerEvent.received (event : XPointerEvent) : XPointerEvent := { event with time := low32 event.time }

def XEventBody.received : XEventBody → XEventBody
  | .graphicsExpose event => .graphicsExpose { event with count := 0, majorCode := 0, minorCode := 0 }
  | .focusChange _ => .focusChange ⟨0, 0⟩
  | .crossing event => .crossing { event with toXPointerEvent := event.toXPointerEvent.received }
  | .motion event => .motion { event with toXPointerEvent := event.toXPointerEvent.received }
  | .button event => .button { event with toXPointerEvent := event.toXPointerEvent.received }
  | .key event => .key { event with toXPointerEvent := event.toXPointerEvent.received }
  | .other => .other

theorem XEventBody.received_selectedBy {body : XEventBody} {type : Int32} (h : body.SelectedBy type) :
    body.received.SelectedBy type := by
  cases body <;> exact h

/-- The type, and every field that travels; of a FocusIn or a FocusOut, the type only. -/
def XEvent.received (event : XEvent) : XEvent where
  type := event.type
  any := match event.body with
    | .focusChange _ => .zero
    | _ => event.any.received
  body := event.body.received
  selected := XEventBody.received_selectedBy event.selected

/-! ### Members -/

theorem xAnyEvent_exchanged {any : XAnyEvent} (h : Id32 any.window) :
    Exchanged (doSendXAnyEvent any) doRecvXAnyEvent any.received := by
  refine .bind ⟨_, uint32_delivers _⟩ ?_
  refine .bind ⟨_, uint32_delivers _⟩ ?_
  refine .map_eq ⟨_, uint32_delivers _⟩ ?_
  rw [h.eq, Int32.toInt32_toUInt32]
  rfl

theorem xGraphicsExposeEvent_exchanged {any : XAnyEvent} (h : Id32 any.window) (event : XGraphicsExposeEvent) :
    Exchanged (doSendXGraphicsExposeEvent any event) doRecvXGraphicsExposeEvent
      (any.received, { event with count := 0, majorCode := 0, minorCode := 0 }) := by
  refine .bind (xAnyEvent_exchanged h) ?_
  refine .bind ⟨_, int32_delivers _⟩ ?_
  refine .bind ⟨_, int32_delivers _⟩ ?_
  refine .bind ⟨_, uint32_delivers _⟩ ?_
  refine .map_eq ⟨_, uint32_delivers _⟩ ?_
  rw [Int32.toInt32_toUInt32, Int32.toInt32_toUInt32]

theorem xPointerEvent_exchanged {any : XAnyEvent} (h : Id32 any.window) {event : XPointerEvent} (he : event.Permitted) :
    Exchanged (doSendXPointerEvent any event) doRecvXPointerEvent (any.received, event.received) := by
  refine .bind (xAnyEvent_exchanged h) ?_
  refine .bind ⟨_, uint32_delivers _⟩ ?_
  refine .bind ⟨_, uint32_delivers _⟩ ?_
  refine .bind ⟨_, uint32_delivers _⟩ ?_
  refine .bind ⟨_, int32_delivers _⟩ ?_
  refine .bind ⟨_, int32_delivers _⟩ ?_
  refine .bind ⟨_, int32_delivers _⟩ ?_
  refine .map_eq ⟨_, int32_delivers _⟩ ?_
  rw [he.1.eq, he.2.eq]
  rfl

theorem xCrossingEvent_exchanged {any : XAnyEvent} (h : Id32 any.window) {event : XCrossingEvent}
    (he : event.toXPointerEvent.Permitted) : Exchanged (doSendXCrossingEvent any event) doRecvXCrossingEvent
      (any.received, { event with toXPointerEvent := event.toXPointerEvent.received }) := by
  refine .bind (xPointerEvent_exchanged h he) ?_
  refine .bind ⟨_, int32_delivers _⟩ ?_
  refine .bind ⟨_, int32_delivers _⟩ ?_
  refine .bind ⟨_, int32_delivers _⟩ ?_
  refine .bind ⟨_, int32_delivers _⟩ ?_
  exact .map ⟨_, uint32_delivers _⟩ _

theorem xMotionEvent_exchanged {any : XAnyEvent} (h : Id32 any.window) {event : XMotionEvent}
    (he : event.toXPointerEvent.Permitted) : Exchanged (doSendXMotionEvent any event) doRecvXMotionEvent
      (any.received, { event with toXPointerEvent := event.toXPointerEvent.received }) := by
  refine .bind (xPointerEvent_exchanged h he) ?_
  refine .bind ⟨_, uint32_delivers _⟩ ?_
  refine .bind ⟨_, char_delivers _⟩ ?_
  exact .map ⟨_, int32_delivers _⟩ _

theorem xButtonEvent_exchanged {any : XAnyEvent} (h : Id32 any.window) {event : XButtonEvent}
    (he : event.toXPointerEvent.Permitted) : Exchanged (doSendXButtonEvent any event) doRecvXButtonEvent
      (any.received, { event with toXPointerEvent := event.toXPointerEvent.received }) := by
  refine .bind (xPointerEvent_exchanged h he) ?_
  refine .bind ⟨_, uint32_delivers _⟩ ?_
  refine .bind ⟨_, uint32_delivers _⟩ ?_
  exact .map ⟨_, int32_delivers _⟩ _

theorem xKeyEvent_exchanged {any : XAnyEvent} (h : Id32 any.window) {event : XKeyEvent}
    (he : event.toXPointerEvent.Permitted) : Exchanged (doSendXKeyEvent any event) doRecvXKeyEvent
      (any.received, { event with toXPointerEvent := event.toXPointerEvent.received }) := by
  refine .bind (xPointerEvent_exchanged h he) ?_
  refine .bind ⟨_, uint32_delivers _⟩ ?_
  refine .bind ⟨_, uint32_delivers _⟩ ?_
  exact .map ⟨_, int32_delivers _⟩ _

/-! ### Events -/

/-- Every event of a valid type comes across. -/
theorem event_exchanged (event : XEvent) (htype : isValidNPEventType event.type = true) (h : event.Permitted) :
    Exchanged (doSendNPEvent (some event)) doRecvNPEvent event.received := by
  obtain ⟨hwindow, hbody⟩ := h
  obtain ⟨type, any, body, hselected⟩ := event
  simp only [doSendNPEvent, if_neg (by simp [htype] : ¬isValidNPEventType type = false)]
  refine .bind ⟨_, int32_delivers type⟩ ?_
  cases body with
  | graphicsExpose event =>
    obtain rfl : type = XEventType.graphicsExpose := hselected
    exact .map (xGraphicsExposeEvent_exchanged hwindow event) _
  | focusChange event =>
    rcases hselected with rfl | rfl
    · exact .map (.pure _) _
    · exact .map (.pure _) _
  | crossing event =>
    rcases hselected with rfl | rfl
    · exact .map (xCrossingEvent_exchanged hwindow hbody) _
    · exact .map (xCrossingEvent_exchanged hwindow hbody) _
  | motion event =>
    obtain rfl : type = motionNotify := hselected
    exact .map (xMotionEvent_exchanged hwindow hbody) _
  | button event =>
    rcases hselected with rfl | rfl
    · exact .map (xButtonEvent_exchanged hwindow hbody) _
    · exact .map (xButtonEvent_exchanged hwindow hbody) _
  | key event =>
    rcases hselected with rfl | rfl
    · exact .map (xKeyEvent_exchanged hwindow hbody) _
    · exact .map (xKeyEvent_exchanged hwindow hbody) _
  | other => exact absurd htype (by simpa [XEventBody.SelectedBy] using hselected)

/-- A key that was pressed, long after 2^32 other events. -/
theorem keyPress_exchanged : ∃ event : XEvent, event.type = keyPress ∧ event.any.serial = 0x100000007 ∧
    event.received.any.serial = 7 ∧ Exchanged (doSendNPEvent (some event)) doRecvNPEvent event.received := by
  let pointer : XPointerEvent := ⟨0x1e7, 0, 0x5a17b2c3, -3, 14, 640, 480⟩
  let event : XEvent := ⟨keyPress, ⟨0x100000007, 1, 0x7f001234, 0x2400005⟩, .key ⟨pointer, 4, 38, 1⟩, Or.inl rfl⟩
  have hwindow : Id32 0x2400005 := by unfold Id32; decide
  have hpointer : pointer.Permitted := ⟨by unfold Id32; decide, by unfold Id32; decide⟩
  exact ⟨event, rfl, rfl, by decide, event_exchanged event rfl ⟨hwindow, hpointer⟩⟩

end NSPluginWrapper
