import NSPluginWrapper.Npapi.Composite
import NSPluginWrapper.Theorems.Marshal
import NSPluginWrapper.Theorems.Rejection

/-! What the success of a marshaler says: that all fields of the value were handed to the message. A window is
    reported as sent whatever becomes of its ws_info, and a string of 2^31 bytes or more whatever part of it send()
    takes first. -/

namespace NSPluginWrapper
open Lib

/-! ### Single sends -/

/-- One call of `rpc_message_send_*`. -/
inductive Primitive where
  | char (c : UInt8)
  | uint32 (value : UInt32)
  | int32 (value : Int32)
  | double (value : Double)
  | bytes (bytes : List UInt8) (count : Int)

namespace Primitive

def send : Primitive → Send Unit
  | char c => rpcMessageSendChar c
  | uint32 value => rpcMessageSendUint32 value
  | int32 value => rpcMessageSendInt32 value
  | double value => rpcMessageSendDouble value
  | bytes bs count => rpcMessageSendBytes bs count

/-- The bytes that it stands for. -/
def encoding : Primitive → List UInt8
  | char c => [c]
  | uint32 value => be32 value
  | int32 value => be32 value.toUInt32
  | double value => be32 value.negative ++ be32 value.exponent ++ be32 value.mantissa0 ++ be32 value.mantissa1
  | bytes bs _ => bs

/-- A count is that of the bytes. -/
def Counted : Primitive → Prop
  | bytes bs count => count = bs.length
  | _ => True

section
variable {c : UInt8} {n : UInt32} {i : Int32} {d : Double} {bs : List UInt8} {count : Int}

@[simp] theorem counted_char : (char c).Counted := trivial
@[simp] theorem counted_uint32 : (uint32 n).Counted := trivial
@[simp] theorem counted_int32 : (int32 i).Counted := trivial
@[simp] theorem counted_double : (double d).Counted := trivial
@[simp] theorem counted_bytes : (bytes bs count).Counted ↔ count = bs.length := Iff.rfl

end
end Primitive

/-- Several, up to the first that fails. -/
def sendAll : List Primitive → Send Unit
  | [] => pure ()
  | p :: ps => do
    p.send
    sendAll ps

/-- If `w` succeeds, all of `ps` was handed to the message; if one of `ps` fails, `w` returns a negative code. -/
structure Reports (w : Send Unit) (ps : List Primitive) (m : OutMessage) : Prop where
  complete : ∀ t, w m = .ok () t → t.taken = m.taken ++ ps.flatMap Primitive.encoding
  fails : ∀ e t, sendAll ps m = .error e t → ∃ code u, code < 0 ∧ w m = .error (.error code) u

/-- What a success of `w` has handed to the message. -/
def Hands (w : Send Unit) (bs : List UInt8) : Prop := ∀ m t, w m = .ok () t → t.taken = m.taken ++ bs

theorem seq_ok {w v : Send Unit} {m t : OutMessage} (h : (do w; v) m = .ok () t) : ∃ u, w m = .ok () u ∧ v u = .ok () t := by
  simp only [bind, EStateM.bind] at h
  cases hw : w m with
  | ok _ u => exact ⟨u, rfl, by simpa only [hw] using h⟩
  | error e u =>
    rw [hw] at h
    cases h

theorem seq_of_ok {w v : Send Unit} {m u : OutMessage} (h : w m = .ok () u) : (do w; v) m = v u := by
  simp only [bind, EStateM.bind, h]

theorem seq_of_error {w v : Send Unit} {m u : OutMessage} {e : Failure} (h : w m = .error e u) :
    (do w; v) m = .error e u := by simp only [bind, EStateM.bind, h]

namespace Hands
variable {w v : Send Unit} {bs cs : List UInt8}

theorem pure : Hands (Pure.pure ()) [] := fun m t h => by
  cases h
  simp

theorem bind (hw : Hands w bs) (hv : Hands v cs) : Hands (do w; v) (bs ++ cs) := fun m t h => by
  obtain ⟨u, hu, ht⟩ := seq_ok h
  rw [hv u t ht, hw m u hu, List.append_assoc]

end Hands

theorem sendLoop_ok (script : List SendEvent) {bytes : List UInt8} {m t : OutMessage}
    (h : sendLoop script bytes bytes.length m = .ok () t) : t.sent = m.sent ++ bytes ∧ t.buffer = m.buffer := by
  induction script generalizing bytes m with
  | nil =>
    cases h
    simp [sendRoom]
  | cons event es ih =>
    have hagain (h : (if 0 < (bytes.length : Int) then sendLoop es bytes bytes.length m
        else .ok () { m with script := es }) = .ok () t) : t.sent = m.sent ++ bytes ∧ t.buffer = m.buffer := by
      split at h
      · exact ih h
      · rename_i hnot
        have hnil : bytes = [] := List.length_eq_zero_iff.mp (by omega)
        cases h
        simp [hnil]
    cases event with
    | wrote n =>
      have hroom : sendRoom bytes bytes.length = bytes.length := by simp [sendRoom]
      simp only [sendLoop, hroom] at h
      split at h
      · have hlen : (bytes.length : Int) - (min n bytes.length : Nat) = (bytes.drop (min n bytes.length)).length := by
          rw [List.length_drop]
          omega
        rw [hlen] at h
        obtain ⟨hsent, hbuf⟩ := ih h
        refine ⟨?_, hbuf⟩
        rw [hsent, List.append_assoc, List.take_append_drop]
      · have hall : min n bytes.length = bytes.length := by omega
        cases h
        simp [hall]
    | again poll =>
      cases poll with
      | ready => exact hagain h
      | interrupted => exact hagain h
      | timedOut => cases h
      | failed => cases h
    | interrupted => exact hagain h
    | reset => cases h
    | failed => cases h

theorem rpcMessageFlush_ok {m t : OutMessage} (h : rpcMessageFlush m = .ok () t) : t.sent = m.taken ∧ t.buffer = [] := by
  unfold rpcMessageFlush at h
  split at h
  · rename_i hloop
    cases h
    exact ⟨(sendLoop_ok _ hloop).1, rfl⟩
  · cases h

theorem rpcMessageSendBytes_hands (bytes : List UInt8) : Hands (rpcMessageSendBytes bytes bytes.length) bytes := by
  intro m t h
  unfold rpcMessageSendBytes at h
  split at h
  · obtain ⟨u, hflush, hloop⟩ := seq_ok h
    obtain ⟨hsent, hempty⟩ := rpcMessageFlush_ok hflush
    obtain ⟨hsent', hbuf⟩ := sendLoop_ok _ hloop
    simp [OutMessage.taken, hsent', hbuf, hsent, hempty]
  · split at h
    · cases h
    · cases h
      simp [OutMessage.taken]

theorem rpcMessageSendBytes_negative (bytes : List UInt8) : Raises (rpcMessageSendBytes bytes bytes.length) Failure.Negative := by
  intro m e t h
  unfold rpcMessageSendBytes at h
  split at h
  · exact flushed_negative _ _ m e t h
  · rw [if_neg (by omega)] at h
    cases h

theorem Primitive.Counted.hands {p : Primitive} (h : p.Counted) : Hands p.send p.encoding := by
  cases p with
  | char c => exact rpcMessageSendBytes_hands [c]
  | uint32 value => exact rpcMessageSendBytes_hands (be32 value)
  | int32 value => exact rpcMessageSendBytes_hands (be32 value.toUInt32)
  | double value =>
    simp only [encoding, List.append_assoc]
    exact .bind (rpcMessageSendBytes_hands _) <| .bind (rpcMessageSendBytes_hands _) <|
      .bind (rpcMessageSendBytes_hands _) (rpcMessageSendBytes_hands _)
  | bytes bs count =>
    cases h
    exact rpcMessageSendBytes_hands bs

theorem Primitive.Counted.negative {p : Primitive} (h : p.Counted) : Raises p.send Failure.Negative := by
  have hword (value : UInt32) : Raises (rpcMessageSendUint32 value) Failure.Negative :=
    rpcMessageSendBytes_negative (be32 value)
  cases p with
  | char c => exact rpcMessageSendBytes_negative [c]
  | uint32 value => exact hword value
  | int32 value => exact int32_negative value
  | double value => exact (hword _).bind fun _ => (hword _).bind fun _ => (hword _).bind fun _ => hword _
  | bytes bs count =>
    cases h
    exact rpcMessageSendBytes_negative bs

section
variable {ps qs : List Primitive}

@[simp] theorem sendAll_append (ps qs : List Primitive) : sendAll (ps ++ qs) = (do sendAll ps; sendAll qs) := by
  induction ps with
  | nil => simp [sendAll]
  | cons p ps ih => simp [sendAll, ih]

theorem sendAll_hands (h : ∀ p ∈ ps, p.Counted) : Hands (sendAll ps) (ps.flatMap Primitive.encoding) := by
  induction ps with
  | nil => exact .pure
  | cons p ps ih =>
    obtain ⟨hp, hps⟩ := List.forall_mem_cons.mp h
    exact hp.hands.bind (ih hps)

theorem sendAll_negative (h : ∀ p ∈ ps, p.Counted) : Raises (sendAll ps) Failure.Negative := by
  induction ps with
  | nil => exact .pure ()
  | cons p ps ih =>
    obtain ⟨hp, hps⟩ := List.forall_mem_cons.mp h
    exact hp.negative.bind fun _ => ih hps

theorem Failure.Negative.code {e : Failure} (h : e.Negative) : ∃ code, code < 0 ∧ e = .error code := by
  cases e with
  | error code => exact ⟨code, h, rfl⟩
  | fault => cases h

/-- A marshaler that makes these sends and no others. -/
theorem Reports.of_counted (h : ∀ p ∈ ps, p.Counted) (m : OutMessage) : Reports (sendAll ps) ps m where
  complete := sendAll_hands h m
  fails e t ht := by
    obtain ⟨code, hcode, rfl⟩ := (sendAll_negative h m e t ht).code
    exact ⟨code, t, hcode, ht⟩

/-- One that makes them and then refuses the value. -/
theorem Reports.of_throw (h : ∀ p ∈ ps, p.Counted) {code : Int} (m : OutMessage) :
    Reports (do sendAll ps; throw (.error code)) ps m where
  complete t ht := by
    obtain ⟨u, -, hu⟩ := seq_ok ht
    cases hu
  fails e t ht := by
    obtain ⟨code, hcode, rfl⟩ := (sendAll_negative h m e t ht).code
    exact ⟨code, t, hcode, seq_of_error ht⟩

/-- One that refuses the value at once. -/
theorem unsent_reports {code : Int} (m : OutMessage) : Reports (throw (.error code)) [] m where
  complete _ ht := nomatch ht
  fails _ _ ht := nomatch ht

/-- What comes last is reported as sent in any case. -/
theorem ignoring_reports (hps : ∀ p ∈ ps, p.Counted) (hqs : ∀ q ∈ qs, q.Counted) (m : OutMessage) :
    Reports (do sendAll ps; ignoringError (sendAll qs)) (ps ++ qs) m ↔
      ∀ t, sendAll ps m = .ok () t → ∃ u, sendAll qs t = .ok () u := by
  constructor
  · intro h t ht
    cases hq : sendAll qs t with
    | ok _ u => exact ⟨u, rfl⟩
    | error e u =>
      obtain ⟨code, hcode, rfl⟩ := (sendAll_negative hqs t e u hq).code
      have hfails : sendAll (ps ++ qs) m = .error (.error code) u := by rw [sendAll_append, seq_of_ok ht, hq]
      obtain ⟨code', u', -, herror⟩ := h.fails _ _ hfails
      rw [seq_of_ok ht, ignoringError, hq] at herror
      cases herror
  · intro h
    have hsame : (do sendAll ps; ignoringError (sendAll qs)) m = sendAll (ps ++ qs) m := by
      rw [sendAll_append]
      cases hp : sendAll ps m with
      | ok _ t =>
        obtain ⟨u, hu⟩ := h t hp
        rw [seq_of_ok hp, seq_of_ok hp, ignoringError, hu]
      | error e t => rw [seq_of_error hp, seq_of_error hp]
    have hall : ∀ p ∈ ps ++ qs, p.Counted := List.forall_mem_append.mpr ⟨hps, hqs⟩
    obtain ⟨hcomplete, hfails⟩ := Reports.of_counted hall m
    exact ⟨fun t ht => hcomplete t (hsame ▸ ht), fun e t ht => by rw [hsame]; exact hfails e t ht⟩

end

/-! ### The fields of a value -/

def NPByteRange.fields (range : NPByteRange) : List Primitive := [.uint32 1, .int32 range.offset, .uint32 range.length]

def NPSavedData.fields (saveArea : NPSavedData) : List Primitive :=
  [.int32 saveArea.len, .bytes saveArea.buf saveArea.len.toInt]

def NPRect.fields (rect : NPRect) : List Primitive :=
  [.uint32 rect.top.toUInt32, .uint32 rect.left.toUInt32, .uint32 rect.bottom.toUInt32, .uint32 rect.right.toUInt32]

def NPSetWindowCallbackStruct.fields : Option NPSetWindowCallbackStruct → List Primitive
  | none => [.uint32 0]
  | some wsInfo => [.uint32 1, .int32 wsInfo.type, .uint32 wsInfo.visual.toUInt32, .uint32 wsInfo.colormap.toUInt32,
      .uint32 wsInfo.depth]

/-- All but ws_info. -/
def NPWindow.head (window : NPWindow) : List Primitive :=
  [.uint32 window.window.toUInt32, .int32 window.x, .int32 window.y, .uint32 window.width, .uint32 window.height] ++
    window.clipRect.fields ++ [.int32 window.type]

def NPWindow.fields (window : NPWindow) : List Primitive := window.head ++ NPSetWindowCallbackStruct.fields window.wsInfo

def NPFullPrint.fields (fullPrint : NPFullPrint) : List Primitive :=
  [.uint32 fullPrint.pluginPrinted.toUInt32, .uint32 fullPrint.printOne.toUInt32]

def NPPrint.fields (printInfo : NPPrint) : List Primitive := .uint32 printInfo.mode.toUInt32 ::
  match printInfo with
  | .full fullPrint => fullPrint.fields
  | .embed embedPrint => embedPrint.window.fields
  | .other _ => []

def NPPrintData.fields (printData : NPPrintData) : List Primitive :=
  [.uint32 (UInt32.ofNat printData.data.length), .bytes printData.data printData.data.length]

def XAnyEvent.fields (any : XAnyEvent) : List Primitive :=
  [.uint32 any.serial.toUInt32, .uint32 any.sendEvent.toUInt32, .uint32 any.window.toUInt32]

def XPointerEvent.fields (any : XAnyEvent) (event : XPointerEvent) : List Primitive :=
  any.fields ++ [.uint32 event.root.toUInt32, .uint32 event.subwindow.toUInt32, .uint32 event.time.toUInt32,
    .int32 event.x, .int32 event.y, .int32 event.xRoot, .int32 event.yRoot]

def XEventBody.fields (any : XAnyEvent) : XEventBody → List Primitive
  | .graphicsExpose event => any.fields ++
      [.int32 event.x, .int32 event.y, .uint32 event.width.toUInt32, .uint32 event.height.toUInt32]
  | .focusChange _ => []
  | .crossing event => event.toXPointerEvent.fields any ++
      [.int32 event.mode, .int32 event.detail, .int32 event.sameScreen, .int32 event.focus, .uint32 event.state]
  | .motion event => event.toXPointerEvent.fields any ++ [.uint32 event.state, .char event.isHint, .int32 event.sameScreen]
  | .button event => event.toXPointerEvent.fields any ++ [.uint32 event.state, .uint32 event.button, .int32 event.sameScreen]
  | .key event => event.toXPointerEvent.fields any ++ [.uint32 event.state, .uint32 event.keycode, .int32 event.sameScreen]
  | .other => []

/-- An event of an unknown type has none. -/
def XEvent.fields (event : XEvent) : List Primitive :=
  if isValidNPEventType event.type then .int32 event.type :: event.body.fields event.any else []

def NPString.fields (string : NPString) : List Primitive := .uint32 string.utf8Length ::
  match string.utf8Characters with
  | some characters =>
    if string.utf8Length ≠ 0 then [.bytes characters (cInt string.utf8Length.toNat)] else []
  | none => []

def NPObjectFields.fields (passRef : Bool) (object : NPObjectFields) : List Primitive :=
  [.uint32 object.type, .uint32 object.plugin, .uint32 object.npobjId] ++
    if passRef then [.uint32 (if object.releaseStub then 1 else 0)] else []

def NPVariant.fields (passRef : Bool) (variant : NPVariant NPObjectFields) : List Primitive := .uint32 variant.type ::
  match variant with
  | .void | .null | .other _ => []
  | .bool value => [.uint32 (if value then 1 else 0)]
  | .int32 value => [.int32 value]
  | .double value => [.double value]
  | .string value => value.fields
  | .object value => value.fields passRef

def Composite.fields : Composite → List Primitive
  | .byteRange ranges => ranges.flatMap NPByteRange.fields ++ [.uint32 0]
  | .savedData none => [.int32 0]
  | .savedData (some saveArea) => saveArea.val.fields
  | .rect x => x.fields
  | .setWindowCallbackStruct wsInfo => NPSetWindowCallbackStruct.fields wsInfo
  | .window none => [.uint32 0]
  | .window (some x) => .uint32 1 :: x.fields
  | .embedPrint x => x.window.fields
  | .fullPrint x => x.fields
  | .print printInfo => printInfo.fields
  | .printData x => x.fields
  | .event none => []
  | .event (some x) => x.fields
  | .variant passRef x => x.val.fields passRef
  | .object passRef x => x.fields passRef

/-! ### What is sent -/

theorem byteRange_sends (ranges : List NPByteRange) :
    doSendNPByteRange ranges = sendAll (ranges.flatMap NPByteRange.fields ++ [.uint32 0]) := by
  induction ranges with
  | nil => simp [doSendNPByteRange, sendAll, Primitive.send]
  | cons range ranges ih =>
    simp [doSendNPByteRange, ih, NPByteRange.fields, sendAll, Primitive.send]

theorem savedData_sends (saveArea : NPSavedData) : doSendNPSavedData (some saveArea) = sendAll saveArea.fields := by
  simp [doSendNPSavedData, NPSavedData.fields, sendAll, Primitive.send]

theorem rect_sends (rect : NPRect) : doSendNPRect rect = sendAll rect.fields := by
  simp [doSendNPRect, NPRect.fields, sendAll, Primitive.send]

theorem wsInfo_sends (wsInfo : Option NPSetWindowCallbackStruct) :
    doSendNPSetWindowCallbackStruct wsInfo = sendAll (NPSetWindowCallbackStruct.fields wsInfo) := by
  cases wsInfo <;> simp [doSendNPSetWindowCallbackStruct, NPSetWindowCallbackStruct.fields, sendAll, Primitive.send]

theorem windowData_sends (window : NPWindow) : doSendNPWindowData window =
    (do sendAll window.head; ignoringError (sendAll (NPSetWindowCallbackStruct.fields window.wsInfo))) := by
  simp [doSendNPWindowData, NPWindow.head, wsInfo_sends, rect_sends, sendAll, Primitive.send]

theorem fullPrint_sends (fullPrint : NPFullPrint) : doSendNPFullPrint fullPrint = sendAll fullPrint.fields := by
  simp [doSendNPFullPrint, NPFullPrint.fields, sendAll, Primitive.send]

theorem printData_sends (printData : NPPrintData) : doSendNPPrintData printData = sendAll printData.fields := by
  simp [doSendNPPrintData, NPPrintData.fields, sendAll, Primitive.send]

theorem anyEvent_sends (any : XAnyEvent) : doSendXAnyEvent any = sendAll any.fields := by
  simp [doSendXAnyEvent, XAnyEvent.fields, sendAll, Primitive.send]

theorem pointerEvent_sends (any : XAnyEvent) (event : XPointerEvent) :
    doSendXPointerEvent any event = sendAll (event.fields any) := by
  simp [doSendXPointerEvent, XPointerEvent.fields, anyEvent_sends, sendAll, Primitive.send]

theorem event_sends (event : XEvent) (h : isValidNPEventType event.type = true) :
    doSendNPEvent (some event) = sendAll event.fields := by
  have hselected := event.selected
  simp only [doSendNPEvent, XEvent.fields, h]
  cases hb : event.body with
  | graphicsExpose body => simp [doSendXGraphicsExposeEvent, XEventBody.fields, anyEvent_sends, sendAll, Primitive.send]
  | focusChange body => simp [doSendXFocusChangeEvent, XEventBody.fields, sendAll, Primitive.send]
  | crossing body => simp [doSendXCrossingEvent, XEventBody.fields, pointerEvent_sends, sendAll, Primitive.send]
  | motion body => simp [doSendXMotionEvent, XEventBody.fields, pointerEvent_sends, sendAll, Primitive.send]
  | button body => simp [doSendXButtonEvent, XEventBody.fields, pointerEvent_sends, sendAll, Primitive.send]
  | key body => simp [doSendXKeyEvent, XEventBody.fields, pointerEvent_sends, sendAll, Primitive.send]
  | other =>
    rw [hb] at hselected
    cases h.symm.trans hselected

theorem string_sends (string : NPString) : doSendNPString string = sendAll string.fields := by
  simp only [doSendNPString, NPString.fields]
  cases string.utf8Characters with
  | none => simp [sendAll, Primitive.send]
  | some characters => by_cases hlen : string.utf8Length = 0 <;> simp [hlen, sendAll, Primitive.send]

theorem object_sends (passRef : Bool) (object : NPObjectFields) :
    doSendNPObjectFields passRef object = sendAll (object.fields passRef) := by
  cases passRef <;> simp [doSendNPObjectFields, doSendNPWPluginInstance, NPObjectFields.fields, sendAll, Primitive.send]

theorem variant_sends (passRef : Bool) (variant : NPVariant NPObjectFields) :
    doSendNPVariant (doSendNPObjectFields passRef) variant = sendAll (variant.fields passRef) := by
  cases variant <;> simp [doSendNPVariant, NPVariant.fields, string_sends, object_sends, sendAll, Primitive.send]

/-! ### Counts below zero -/

/-- The first send() of these bytes that takes any takes all of them, or fails. -/
def TakesWhole (bytes : List UInt8) : List SendEvent → Prop
  | [] => True
  | .wrote n :: _ => bytes.length ≤ n
  | .again .ready :: _ | .again .interrupted :: _ | .interrupted :: _ => False
  | .again .timedOut :: _ | .again .failed :: _ | .reset :: _ | .failed :: _ => True

/-- One call of send() is all that the loop makes. -/
theorem sendLoop_once {bytes : List UInt8} {count : Int} (hcount : count < 0) (hne : bytes ≠ []) (m : OutMessage) :
    (∃ t, sendLoop m.script bytes count m = .ok () t ∧ t.buffer = m.buffer ∧
      ((TakesWhole bytes m.script ∧ t.sent = m.sent ++ bytes) ∨
        ¬TakesWhole bytes m.script ∧ t.sent.length < m.sent.length + bytes.length)) ∨
      ∃ e t, sendLoop m.script bytes count m = .error e t ∧ TakesWhole bytes m.script := by
  have hpos : 0 < bytes.length := List.length_pos_iff.mpr hne
  have hroom : sendRoom bytes count = bytes.length := if_pos hcount
  match m.script with
  | [] => exact .inl ⟨_, rfl, rfl, .inl ⟨trivial, by simp [hroom]⟩⟩
  | .wrote n :: es =>
    simp only [sendLoop, hroom, if_neg (show ¬0 < count - (min n bytes.length : Nat) by omega)]
    refine .inl ⟨_, rfl, rfl, ?_⟩
    by_cases hall : bytes.length ≤ n
    · exact .inl ⟨hall, by simp [hall]⟩
    · refine .inr ⟨hall, ?_⟩
      simp only [List.length_append, List.length_take]
      omega
  | .again .ready :: es | .again .interrupted :: es | .interrupted :: es =>
    refine .inl ⟨{ m with script := es }, if_neg (by omega), rfl, .inr ⟨id, ?_⟩⟩
    exact Nat.lt_add_of_pos_right hpos
  | .again .timedOut :: es | .again .failed :: es | .reset :: es | .failed :: es => exact .inr ⟨_, _, rfl, trivial⟩

/-- Such a block is reported as it should if it is not copied to the buffer, and is sent as a whole. -/
def SentWhole (value : UInt32) (bytes : List UInt8) (count : Int) (m : OutMessage) : Prop :=
  ∀ t, rpcMessageSendUint32 value m = .ok () t →
    (t.buffer.length + count < 0 ∨ bufSize ≤ t.buffer.length + count) ∧
      ∀ u, rpcMessageFlush t = .ok () u → TakesWhole bytes u.script

theorem sendAll_pair (value : UInt32) (bytes : List UInt8) (count : Int) :
    sendAll [.uint32 value, .bytes bytes count] = (do rpcMessageSendUint32 value; rpcMessageSendBytes bytes count) := by
  simp [sendAll, Primitive.send]

theorem negative_reports {bytes : List UInt8} {count : Int} (hcount : count < 0) (hne : bytes ≠ []) (value : UInt32)
    (m : OutMessage) : Reports (sendAll [.uint32 value, .bytes bytes count]) [.uint32 value, .bytes bytes count] m ↔
      SentWhole value bytes count m := by
  have hvalue : Hands (rpcMessageSendUint32 value) (be32 value) := rpcMessageSendBytes_hands (be32 value)
  have hword : Raises (rpcMessageSendUint32 value) Failure.Negative := rpcMessageSendBytes_negative (be32 value)
  rw [sendAll_pair]
  constructor
  · intro h t ht
    by_cases hbranch : t.buffer.length + count < 0 ∨ bufSize ≤ t.buffer.length + count
    · refine ⟨hbranch, fun u hu => ?_⟩
      rcases sendLoop_once hcount hne u with ⟨v, hv, hbuf, hwhole | ⟨-, hpart⟩⟩ | ⟨e, v, -, hwhole⟩
      · exact hwhole.1
      · have hsent : (do rpcMessageSendUint32 value; rpcMessageSendBytes bytes count) m = .ok () v := by
          rw [seq_of_ok ht, rpcMessageSendBytes, if_pos hbranch, seq_of_ok hu]
          exact hv
        obtain ⟨hflushed, hempty⟩ := rpcMessageFlush_ok hu
        have hall := congrArg List.length (h.complete v hsent)
        have htaken := congrArg List.length (hvalue m t ht)
        simp only [OutMessage.taken, List.length_append, List.flatMap_cons, List.flatMap_nil, Primitive.encoding, hbuf, hempty,
          hflushed, List.length_nil] at hall htaken hpart
        omega
      · exact hwhole
    · -- memcpy() of a negative count
      exfalso
      have hfault : (do rpcMessageSendUint32 value; rpcMessageSendBytes bytes count) m = .error .fault t := by
        rw [seq_of_ok ht, rpcMessageSendBytes, if_neg hbranch, if_pos hcount]
      obtain ⟨code, u, -, herror⟩ := h.fails _ _ (by rw [sendAll_pair, hfault])
      rw [hfault] at herror
      cases herror
  · intro h
    refine ⟨fun v hv => ?_, fun e v hv => ?_⟩
    · obtain ⟨t, ht, hv⟩ := seq_ok hv
      obtain ⟨hbranch, hwhole⟩ := h t ht
      rw [rpcMessageSendBytes, if_pos hbranch] at hv
      obtain ⟨u, hu, hv⟩ := seq_ok hv
      obtain ⟨hflushed, hempty⟩ := rpcMessageFlush_ok hu
      rcases sendLoop_once hcount hne u with ⟨v', hv', hbuf, ⟨-, hsent⟩ | ⟨hnot, -⟩⟩ | ⟨e, v', hv', -⟩
      · cases hv.symm.trans hv'
        have htaken : v.taken = t.taken ++ bytes := by rw [OutMessage.taken, hsent, hbuf, hempty, hflushed, List.append_nil]
        rw [htaken, hvalue m t ht]
        simp [Primitive.encoding]
      · exact absurd (hwhole u hu) hnot
      · cases hv.symm.trans hv'
    · rw [sendAll_pair] at hv
      have hneg : e.Negative := by
        cases ht : rpcMessageSendUint32 value m with
        | error e' t =>
          rw [seq_of_error ht] at hv
          cases hv
          exact hword m e v ht
        | ok _ t =>
          obtain ⟨hbranch, -⟩ := h t ht
          rw [seq_of_ok ht, rpcMessageSendBytes, if_pos hbranch] at hv
          exact flushed_negative _ _ t e v hv
      obtain ⟨code, hcode, rfl⟩ := hneg.code
      exact ⟨code, v, hcode, hv⟩

/-! ### All of them -/

/-- What comes before ws_info is sent, and then no send of ws_info fails. -/
def WsInfoSent (head : List Primitive) (wsInfo : Option NPSetWindowCallbackStruct) (m : OutMessage) : Prop :=
  ∀ t, sendAll head m = .ok () t → ∃ u, sendAll (NPSetWindowCallbackStruct.fields wsInfo) t = .ok () u

/-- The length is sent and then the characters as a whole, where their count is below zero. -/
def NPString.SentWhole (string : NPString) (type : UInt32) (m : OutMessage) : Prop :=
  ∀ t, rpcMessageSendUint32 type m = .ok () t → ∀ characters, string.utf8Characters = some characters →
    NSPluginWrapper.SentWhole string.utf8Length characters (cInt string.utf8Length.toNat) t

/-- When the success of a send can be relied on. -/
def Composite.Reliable (m : OutMessage) : Composite → Prop
  | .window (some x) => WsInfoSent (.uint32 1 :: x.head) x.wsInfo m
  | .embedPrint x => WsInfoSent x.window.head x.window.wsInfo m
  | .print (.embed x) => WsInfoSent (.uint32 npEmbed.toUInt32 :: x.window.head) x.window.wsInfo m
  | .variant _ ⟨.string string, _⟩ => string.Short ∨ string.SentWhole NPVariantType.string m
  | _ => True

theorem wsInfo_counted (wsInfo : Option NPSetWindowCallbackStruct) :
    ∀ p ∈ NPSetWindowCallbackStruct.fields wsInfo, p.Counted := by
  cases wsInfo <;> simp [NPSetWindowCallbackStruct.fields]

theorem head_counted (window : NPWindow) : ∀ p ∈ window.head, p.Counted := by
  simp [NPWindow.head, NPRect.fields]

theorem event_counted (event : XEvent) : ∀ p ∈ event.fields, p.Counted := by
  unfold XEvent.fields
  split
  · cases event.body <;> simp [XEventBody.fields, XPointerEvent.fields, XAnyEvent.fields]
  · simp

theorem byteRanges_counted (ranges : List NPByteRange) :
    ∀ p ∈ ranges.flatMap NPByteRange.fields ++ [.uint32 0], p.Counted := by
  intro p hp
  rcases List.mem_append.mp hp with hp | hp
  · obtain ⟨range, -, hp⟩ := List.mem_flatMap.mp hp
    have hrange : ∀ p ∈ range.fields, p.Counted := by simp [NPByteRange.fields]
    exact hrange p hp
  · cases List.mem_singleton.mp hp
    trivial

theorem object_counted (passRef : Bool) (object : NPObjectFields) : ∀ p ∈ object.fields passRef, p.Counted := by
  cases passRef <;> simp [NPObjectFields.fields]

/-- One send before others. -/
theorem Reports.after {w : Send Unit} {p : Primitive} {ps : List Primitive} (hp : p.Counted) (m : OutMessage) :
    Reports (do p.send; w) (p :: ps) m ↔ ∀ t, p.send m = .ok () t → Reports w ps t := by
  constructor
  · intro h t ht
    refine ⟨fun u hu => ?_, fun e u hu => ?_⟩
    · have hall := h.complete u (by rw [seq_of_ok ht, hu])
      rw [hall, hp.hands m t ht, List.append_assoc]
      rfl
    · obtain ⟨code, v, hcode, hv⟩ := h.fails e u (by rw [sendAll, seq_of_ok ht, hu])
      exact ⟨code, v, hcode, by rwa [seq_of_ok ht] at hv⟩
  · intro h
    refine ⟨fun u hu => ?_, fun e u hu => ?_⟩
    · obtain ⟨t, ht, hu⟩ := seq_ok hu
      rw [(h t ht).complete u hu, hp.hands m t ht, List.append_assoc]
      rfl
    · cases ht : p.send m with
      | ok _ t =>
        rw [sendAll, seq_of_ok ht] at hu
        obtain ⟨code, v, hcode, hv⟩ := (h t ht).fails e u hu
        exact ⟨code, v, hcode, by rw [seq_of_ok ht, hv]⟩
      | error e' t =>
        obtain ⟨code, hcode, rfl⟩ := (hp.negative m e' t ht).code
        exact ⟨code, t, hcode, seq_of_error ht⟩

theorem string_reports {string : NPString} (h : (string.utf8Characters.getD []).length = string.utf8Length.toNat)
    (m : OutMessage) : Reports (doSendNPString string) string.fields m ↔ string.Short ∨
      ∀ characters, string.utf8Characters = some characters →
        SentWhole string.utf8Length characters (cInt string.utf8Length.toNat) m := by
  rw [string_sends]
  by_cases hshort : string.Short
  · have hcount : cInt string.utf8Length.toNat = string.utf8Length.toNat := cInt_of_lt hshort
    refine iff_of_true (Reports.of_counted ?_ m) (.inl hshort)
    cases hc : string.utf8Characters with
    | none => simp [NPString.fields, hc]
    | some characters =>
      have hlen : string.utf8Length.toNat = characters.length := by rw [← h, hc, Option.getD_some]
      by_cases hzero : string.utf8Length = 0
      · simp [NPString.fields, hc, hzero]
      · simp only [NPString.fields, hc, hcount, ne_eq, hzero, not_false_eq_true, if_true]
        simp [hlen]
  · have hlow : 2 ^ 31 ≤ string.utf8Length.toNat := Nat.not_lt.mp hshort
    have hcount := cInt_of_ge hlow string.utf8Length.toNat_lt
    have hhigh := string.utf8Length.toNat_lt
    cases hc : string.utf8Characters with
    | none =>
      rw [hc, Option.getD_none, List.length_nil] at h
      omega
    | some characters =>
      have hlen : string.utf8Length.toNat = characters.length := by rw [← h, hc, Option.getD_some]
      have hne : characters ≠ [] := by
        rintro rfl
        simp [hlen] at hlow
      have hzero : string.utf8Length ≠ 0 := by
        intro hzero
        simp [hzero] at hlow
      have hfields : string.fields = [.uint32 string.utf8Length, .bytes characters (cInt string.utf8Length.toNat)] := by
        simp [NPString.fields, hc, hzero]
      rw [hfields, negative_reports (by omega) hne]
      simp [hshort]

theorem Primitive.Counted.buffers {p : Primitive} (h : p.Counted) : Buffers p.send p.encoding := by
  cases p with
  | char c => exact rpcMessageSendBytes_buffers [c]
  | uint32 value => exact uint32_buffers value
  | int32 value => exact int32_buffers value
  | double value =>
    simp only [encoding, List.append_assoc]
    exact (uint32_buffers _).bind <| (uint32_buffers _).bind <| (uint32_buffers _).bind (uint32_buffers _)
  | bytes bs count =>
    cases h
    exact rpcMessageSendBytes_buffers bs

theorem sendAll_buffers {ps : List Primitive} (h : ∀ p ∈ ps, p.Counted) : Buffers (sendAll ps) (ps.flatMap Primitive.encoding) := by
  induction ps with
  | nil => exact .pure
  | cons p ps ih =>
    obtain ⟨hp, hps⟩ := List.forall_mem_cons.mp h
    exact hp.buffers.bind (ih hps)

/-- No window, and no ws_info. -/
def zeroWindow : NPWindow := ⟨0, 0, 0, 0, 0, ⟨0, 0, 0, 0⟩, 0, none⟩

end NSPluginWrapper
