import NSPluginWrapper.Plugin.Forward
import NSPluginWrapper.Theorems.Event
import NSPluginWrapper.Theorems.Marshal
import NSPluginWrapper.Theorems.Remote

/-! The plugin and the browser may as well be in one process: whatever they call of each other, nested to any depth, is
    done as if the functions were called directly, with what comes across of the parameters and the results. -/

namespace NSPluginWrapper
namespace Forward
open Lib
open Decode (NPValue)

/-! ### What comes across -/

/-- The number where it is in use there, which is for something of that kind. -/
def Side.found (side : Side) (kind : IdEntry) (id : Option UInt32) : Option UInt32 :=
  id.filter fun n => side.ids n = some kind

/-- A number is not in use there for something else. -/
def Side.Agrees (side : Side) (kind : IdEntry) (id : Option UInt32) : Prop := ∀ n ∈ id, ∀ found ∈ side.ids n, found = kind

/-- The NPP with that number. -/
def Side.instanceOf (side : Side) (plugin : Option UInt32) : Option UInt32 := side.npp (side.found .pluginInstance plugin)

/-- An address of the plugin's side is one. -/
def Side.Holds (side : Side) (notifyData : UInt64) : Prop := side.pointers32 = true → notifyData.toNat < 2 ^ 32

/-- Of no bytes, there is no block. -/
def CharArray.seen : CharArray → CharArray
  | .block [] => .null 0
  | buf => buf

def CharArray.Short : CharArray → Prop
  | .null _ => True
  | .block bytes => bytes.length < 2 ^ 31

section
variable {side side' : Side}

theorem recvId_exchanged {kind : IdEntry} {id : Option UInt32} (h : side.Agrees kind id) :
    Exchanged (rpcMessageSendUint32 (id.getD 0)) (side.recvId kind) (side.found kind id) := by
  refine .then_read ⟨_, uint32_delivers _⟩ ?_
  cases id with
  | none =>
    simp only [Option.getD_none, side.zero]
    exact .pure none
  | some n =>
    simp only [Option.getD_some]
    cases hfound : side.ids n with
    | none =>
      have hnone : side.found kind (some n) = none := by simp [Side.found, hfound]
      rw [hnone]
      exact .pure none
    | some found =>
      have hsome : side.found kind (some n) = some n := by simp [Side.found, hfound, h n rfl found hfound]
      rw [hsome]
      simp only [h n rfl found hfound, if_true]
      exact .pure (some n)

theorem user_arrives {types types' : TypeMap NPValue} {t : UserType} {x got : NPValue} {desc desc' : MessageDescriptor NPValue}
    (hsend : types t = some desc) (hrecv : types' t = some desc') (h : Exchanged (desc.sendCallback x) desc'.recvCallback got) :
    Exchanged (sendArg types (.user t x)) (recvArg types' (.user t)) (.user t got) := by
  rw [sendArg_eq]
  refine .bind ⟨_, int32_delivers _⟩ ?_
  have hsame : ¬(Arg.user t x).argType.code ≠ (ArgType.user t).code := not_not_intro rfl
  rw [if_neg hsame]
  simp only [sendValue, recvValue, hsend, hrecv]
  exact h.map _

theorem pluginInstance_arrives {plugin : Option UInt32} (h : side'.Agrees .pluginInstance plugin) :
    Exchanged (sendArg side.types (.user npwPluginInstance (.pluginInstance plugin))) (recvArg side'.types (.user npwPluginInstance))
      (.user npwPluginInstance (.pluginInstance (side'.found .pluginInstance plugin))) :=
  user_arrives rfl rfl ((recvId_exchanged h).map _)

theorem stream_arrives {stream : Option UInt32} (h : side'.Agrees .stream stream) :
    Exchanged (sendArg side.types (.user npStream (.stream stream))) (recvArg side'.types (.user npStream))
      (.user npStream (.stream (side'.found .stream stream))) :=
  user_arrives rfl rfl ((recvId_exchanged h).map _)

theorem byteRange_arrives (rangeList : List NPByteRange) :
    Exchanged (sendArg side.types (.user npByteRange (.byteRange rangeList))) (recvArg side'.types (.user npByteRange))
      (.user npByteRange (.byteRange rangeList)) :=
  user_arrives rfl rfl ((byteRange_exchanged rangeList).map _)

theorem notifyData_arrives {notifyData : UInt64} (h : side'.Holds notifyData) :
    Exchanged (sendArg side.types (.user npNotifyData (.notifyData notifyData))) (recvArg side'.types (.user npNotifyData))
      (.user npNotifyData (.notifyData notifyData)) :=
  user_arrives rfl rfl ((notifyData_exchanged h).map _)

theorem rect_arrives (rect : NPRect) :
    Exchanged (sendArg side.types (.user npRect (.rect rect))) (recvArg side'.types (.user npRect)) (.user npRect (.rect rect)) :=
  user_arrives rfl rfl ((rect_exchanged rect).map _)

theorem event_arrives {event : XEvent} (htype : isValidNPEventType event.type = true) (h : event.Permitted) :
    Exchanged (sendArg side.types (.user npEvent (.event event))) (recvArg side'.types (.user npEvent))
      (.user npEvent (.event event.received)) :=
  user_arrives rfl rfl ((event_exchanged event htype h).map _)

end

section
variable {types types' : TypeMap NPValue}

theorem boolean_arrives (value : Int32) : Exchanged (sendArg types (.boolean value)) (recvArg types' .boolean) (.boolean value) :=
  @arg_exchanged NPValue types' (.boolean value) trivial trivial trivial

theorem int32_arrives (value : Int32) : Exchanged (sendArg types (.int32 value)) (recvArg types' .int32) (.int32 value) :=
  @arg_exchanged NPValue types' (.int32 value) trivial trivial trivial

theorem uint32_arrives (value : UInt32) : Exchanged (sendArg types (.uint32 value)) (recvArg types' .uint32) (.uint32 value) :=
  @arg_exchanged NPValue types' (.uint32 value) trivial trivial trivial

theorem uint64_arrives (value : UInt64) : Exchanged (sendArg types (.uint64 value)) (recvArg types' .uint64) (.uint64 value) :=
  @arg_exchanged NPValue types' (.uint64 value) trivial trivial trivial

theorem string_arrives {str : Option CString} (h : ShortString str) :
    Exchanged (sendArg types (.string str)) (recvArg types' .string) (.string str) :=
  @arg_exchanged NPValue types' (.string str) h trivial trivial

theorem chars_arrive {buf : CharArray} (h : buf.Short) :
    Exchanged (sendArg types buf.arg) (recvArg types' (.array RpcType.char)) buf.seen.arg := by
  cases buf with
  | null len => exact @arg_exchanged NPValue types' (.array (.null RpcType.char len)) trivial trivial trivial
  | block bytes =>
    have harrives := @arg_exchanged NPValue types' (.array (.elements (.char bytes))) ⟨h, trivial⟩ trivial trivial
    cases bytes with
    | nil => exact harrives
    | cons byte bytes => exact harrives

end

/-! ### Parameters -/

/-- The parameters that the browser's function gets. -/
def NPNOp.seen (side : Side) : (op : NPNOp) → op.Params → op.Params
  | userAgent, p => p
  | getValue, p => { p with plugin := side.instanceOf p.plugin }
  | setValue, p => ⟨⟨side.instanceOf p.plugin, p.npVariable⟩, p.value.toUInt32.toUInt64⟩
  | getURL, p => { p with plugin := side.instanceOf p.plugin }
  | getURLNotify, p => { p with request := { p.request with plugin := side.instanceOf p.request.plugin } }
  | postURL, p => ⟨⟨side.instanceOf p.plugin, p.url, p.target⟩, p.buf.seen, p.file⟩
  | postURLNotify, p =>
    ⟨⟨⟨side.instanceOf p.request.plugin, p.request.url, p.request.target⟩, p.request.buf.seen, p.request.file⟩, p.notifyData⟩
  | status, p => { p with plugin := side.instanceOf p.plugin }
  | requestRead, p => { p with stream := side.found .stream p.stream }
  | write, p => ⟨side.instanceOf p.plugin, side.found .stream p.stream, p.buf.seen⟩
  | pushPopupsEnabledState, p => { p with plugin := side.instanceOf p.plugin }
  | popPopupsEnabledState, plugin => side.instanceOf plugin
  | invalidateRect, p => { p with plugin := side.instanceOf p.plugin }
  | getValueForURL, p => ⟨⟨side.instanceOf p.plugin, p.npVariable⟩, p.url⟩
  | setValueForURL, p => ⟨⟨⟨side.instanceOf p.plugin, p.npVariable⟩, p.url⟩, p.value.seen⟩

/-- Strings and blocks are no longer than an `int` counts, numbers are not in use for something else, and a variable is one
    that has no object. -/
def NPNOp.Permits (side : Side) : (op : NPNOp) → op.Params → Prop
  | userAgent, _ => True
  | getValue, p => side.Agrees .pluginInstance p.plugin ∧ (valueType (rpcTypeOfNPNVariable p.npVariable)).isSome = true
  | setValue, p => side.Agrees .pluginInstance p.plugin
  | getURL, p => side.Agrees .pluginInstance p.plugin ∧ ShortString p.url ∧ ShortString p.target
  | getURLNotify, p => side.Agrees .pluginInstance p.request.plugin ∧ ShortString p.request.url ∧ ShortString p.request.target ∧
      side.Holds p.notifyData
  | postURL, p => side.Agrees .pluginInstance p.plugin ∧ ShortString p.url ∧ ShortString p.target ∧ p.buf.Short
  | postURLNotify, p => side.Agrees .pluginInstance p.request.plugin ∧ ShortString p.request.url ∧ ShortString p.request.target ∧
      p.request.buf.Short ∧ side.Holds p.notifyData
  | status, p => side.Agrees .pluginInstance p.plugin ∧ ShortString p.message
  | requestRead, p => side.Agrees .stream p.stream
  | write, p => side.Agrees .pluginInstance p.plugin ∧ side.Agrees .stream p.stream ∧ p.buf.Short
  | pushPopupsEnabledState, p => side.Agrees .pluginInstance p.plugin
  | popPopupsEnabledState, plugin => side.Agrees .pluginInstance plugin
  | invalidateRect, p => side.Agrees .pluginInstance p.plugin
  | getValueForURL, p => side.Agrees .pluginInstance p.plugin ∧ ShortString p.url
  | setValueForURL, p => side.Agrees .pluginInstance p.plugin ∧ ShortString p.url ∧ p.value.Short

section
variable {side other : Side}

theorem NPNOp.requests (op : NPNOp) (p : op.Params) (hgate : op.gate p = none) (h : op.Permits side p) :
    (op.remote side).Requests other.types side.types p (op.seen side p) := by
  cases op with
  | userAgent => exact ⟨_, .nil, rfl⟩
  | getValue =>
    obtain ⟨hplugin, hvariable⟩ := h
    exact ⟨_, .cons (pluginInstance_arrives hplugin) (.cons (uint32_arrives _) .nil), if_pos hvariable⟩
  | setValue =>
    refine ⟨_, .cons (pluginInstance_arrives h) (.cons (uint32_arrives _) (.cons (boolean_arrives _) .nil)), ?_⟩
    simp [remote, NPN.setValue, ofInt16, seen, Side.instanceOf]
  | getURL =>
    obtain ⟨hplugin, hurl, htarget⟩ := h
    exact ⟨_, .cons (pluginInstance_arrives hplugin) (.cons (string_arrives hurl) (.cons (string_arrives htarget) .nil)), rfl⟩
  | getURLNotify =>
    obtain ⟨hplugin, hurl, htarget, hdata⟩ := h
    exact ⟨_, .cons (pluginInstance_arrives hplugin) (.cons (string_arrives hurl) (.cons (string_arrives htarget)
      (.cons (notifyData_arrives hdata) .nil))), rfl⟩
  | postURL =>
    obtain ⟨hplugin, hurl, htarget, hbuf⟩ := h
    refine ⟨_, .cons (pluginInstance_arrives hplugin) (.cons (string_arrives hurl) (.cons (string_arrives htarget)
      (.cons (chars_arrive hbuf) (.cons (boolean_arrives _) .nil)))), ?_⟩
    cases hseen : p.buf.seen <;>
      simp [remote, NPN.postURL, ofInt16, seen, Side.instanceOf, hseen, CharArray.arg]
  | postURLNotify =>
    obtain ⟨hplugin, hurl, htarget, hbuf, hdata⟩ := h
    refine ⟨_, .cons (pluginInstance_arrives hplugin) (.cons (string_arrives hurl) (.cons (string_arrives htarget)
      (.cons (chars_arrive hbuf) (.cons (boolean_arrives _) (.cons (notifyData_arrives hdata) .nil))))), ?_⟩
    cases hseen : p.request.buf.seen <;>
      simp [remote, NPN.postURLNotify, ofInt16, seen, Side.instanceOf, hseen, CharArray.arg]
  | status =>
    obtain ⟨hplugin, hmessage⟩ := h
    exact ⟨_, .cons (pluginInstance_arrives hplugin) (.cons (string_arrives hmessage) .nil), rfl⟩
  | requestRead => exact ⟨_, .cons (stream_arrives h) (.cons (byteRange_arrives _) .nil), rfl⟩
  | write =>
    obtain ⟨hplugin, hstream, hbuf⟩ := h
    refine ⟨_, .cons (pluginInstance_arrives hplugin) (.cons (stream_arrives hstream) (.cons (chars_arrive hbuf) .nil)), ?_⟩
    cases hseen : p.buf.seen <;> simp [remote, NPN.write, ofInt32, seen, Side.instanceOf, hseen, CharArray.arg]
  | pushPopupsEnabledState =>
    refine ⟨_, .cons (pluginInstance_arrives h) (.cons (uint32_arrives _) .nil), ?_⟩
    simp [remote, NPN.pushPopupsEnabledState, ofNothing, seen, Side.instanceOf]
  | popPopupsEnabledState => exact ⟨_, .cons (pluginInstance_arrives h) .nil, rfl⟩
  | invalidateRect =>
    obtain ⟨plugin, invalidRect⟩ := p
    cases invalidRect with
    | none => simp [gate, orElse] at hgate
    | some rect => exact ⟨_, .cons (pluginInstance_arrives h) (.cons (rect_arrives rect) .nil), rfl⟩
  | getValueForURL =>
    obtain ⟨hplugin, hurl⟩ := h
    exact ⟨_, .cons (pluginInstance_arrives hplugin) (.cons (uint32_arrives _) (.cons (string_arrives hurl) .nil)), rfl⟩
  | setValueForURL =>
    obtain ⟨hplugin, hurl, hvalue⟩ := h
    refine ⟨_, .cons (pluginInstance_arrives hplugin) (.cons (uint32_arrives _) (.cons (string_arrives hurl)
      (.cons (chars_arrive hvalue) .nil))), ?_⟩
    cases hseen : p.value.seen <;> simp [remote, NPN.setValueForURL, ofInt16, seen, Side.instanceOf, hseen, CharArray.arg]

end

/-! ### Results -/

def VariableValue.Short : VariableValue → Prop
  | .string str => ShortString str
  | _ => True

/-- A truth value comes as 0 or 1. -/
def VariableValue.got : VariableValue → VariableValue
  | .bool b => .bool (if b = 0 then 0 else 1)
  | value => value

/-- A value of the right type was stored: if it is to be copied, not NULL. -/
structure VariableResult.Stored (r : VariableResult) (type : Int32) (copied : Bool) : Prop where
  type : r.value.type = type
  short : r.value.Short
  copied : copied = true → r.ret = NPError.noError → r.value ≠ .string none

/-- The value that the caller has of a result: without success, none. -/
def URLValue.got (r : URLValue) : URLValue := ⟨r.ret, if r.ret = NPError.noError then r.value.seen else .null r.value.seen.len⟩

section
variable {P : Type} {method : Int32} {invoked : P → List (Arg NPValue)} {expected : List ArgType}
  {received : List (Arg NPValue) → Option P} {types types' : TypeMap NPValue} {p p' : P}

theorem ofInt16_replies {failed : Int16} (r : Int16) :
    (ofInt16 method invoked expected received failed).Replies types types' p p' r r :=
  ⟨_, .cons (int32_arrives _) .nil, by simp [ofInt16]⟩

theorem ofInt32_replies {failed : Int32} (r : Int32) :
    (ofInt32 method invoked expected received failed).Replies types types' p p' r r :=
  ⟨_, .cons (int32_arrives _) .nil, rfl⟩

theorem ofNothing_replies : (ofNothing method invoked expected received).Replies types types' p p' () () := ⟨_, .nil, rfl⟩

theorem toInt32_eq_zero {n : Int16} : n.toInt32 = 0 ↔ n = 0 := by
  rw [← Int32.toInt_inj, ← Int16.toInt_inj]
  simp

theorem bool_eq_zero {b : UInt8} : b.toUInt32.toInt32 = 0 ↔ b = 0 := by
  refine ⟨fun h => ?_, fun h => by rw [h]; rfl⟩
  have hb : b.toUInt32.toInt32.toUInt32.toUInt8 = 0 := by
    rw [h]
    rfl
  simpa using hb

theorem ofVariable_replies {type : P → Int32} {copied : P → Bool} {r : VariableResult} (h : r.Stored (type p) (copied p)) :
    (ofVariable method invoked expected received type copied).Replies types types' p p' r ⟨r.ret, r.value.got⟩ := by
  obtain ⟨ret, value⟩ := r
  obtain ⟨htype, hshort, hcopied⟩ := h
  simp only [RemoteFunction.Replies, ofVariable, ← htype]
  cases value with
  | uint32 n =>
    exact ⟨_, .cons (int32_arrives _) (.cons (uint32_arrives n) .nil), by simp [VariableValue.got]⟩
  | int32 n =>
    exact ⟨_, .cons (int32_arrives _) (.cons (int32_arrives n) .nil), by simp [VariableValue.got]⟩
  | bool b =>
    exact ⟨_, .cons (int32_arrives _) (.cons (boolean_arrives _) .nil), by simp [VariableValue.got, bool_eq_zero]⟩
  | string str =>
    refine ⟨_, .cons (int32_arrives _) (.cons (string_arrives hshort) .nil), ?_⟩
    have hcopy : ¬(copied p = true ∧ ret.toInt32 = 0 ∧ str = none) := fun ⟨hc, hret, hnone⟩ =>
      hcopied hc (toInt32_eq_zero.mp hret) (congrArg _ hnone)
    simp [VariableValue.got, hcopy]

end

/-- What the browser's functions give back: a string no longer than an `int` counts, and what is asked for. -/
def NPNOp.Returns : (op : NPNOp) → op.Params → op.Result → Prop
  | userAgent, _, r => ShortString r
  | getValue, p, r => r.Stored (rpcTypeOfNPNVariable p.npVariable) true
  | getValueForURL, _, r => r.value.Short
  | setValue, _, _ | getURL, _, _ | getURLNotify, _, _ | postURL, _, _ | postURLNotify, _, _ | status, _, _ | requestRead, _, _
  | write, _, _ | pushPopupsEnabledState, _, _ | popPopupsEnabledState, _, _ | invalidateRect, _, _ | setValueForURL, _, _ => True

def NPNOp.got : (op : NPNOp) → op.Result → op.Result
  | getValue, r => ⟨r.ret, r.value.got⟩
  | getValueForURL, r => r.got
  | userAgent, r | setValue, r | getURL, r | getURLNotify, r | postURL, r | postURLNotify, r | status, r | requestRead, r
  | write, r | pushPopupsEnabledState, r | popPopupsEnabledState, r | invalidateRect, r | setValueForURL, r => r

section
variable {side : Side} {types types' : TypeMap NPValue}

theorem getValueForURL_replies {p p' : URLQuery} {r : URLValue} (h : r.value.Short) :
    (NPN.getValueForURL side).Replies types types' p p' r r.got := by
  refine ⟨_, .cons (int32_arrives _) (.cons (chars_arrive h) .nil), ?_⟩
  cases hseen : r.value.seen with
  | null len => simp [NPN.getValueForURL, URLValue.got, hseen, CharArray.arg, CharArray.len]
  | block bytes => simp [NPN.getValueForURL, URLValue.got, hseen, CharArray.arg, CharArray.len, toInt32_eq_zero, NPError.noError]

theorem NPNOp.replies (op : NPNOp) (p p' : op.Params) (r : op.Result) (h : op.Returns p r) :
    (op.remote side).Replies types types' p p' r (op.got r) := by
  cases op with
  | userAgent => exact ⟨_, .cons (string_arrives h) .nil, rfl⟩
  | getValue => exact ofVariable_replies h
  | getValueForURL => exact getValueForURL_replies h
  | setValue => exact ofInt16_replies r
  | getURL => exact ofInt16_replies r
  | getURLNotify => exact ofInt16_replies r
  | postURL => exact ofInt16_replies r
  | postURLNotify => exact ofInt16_replies r
  | requestRead => exact ofInt16_replies r
  | setValueForURL => exact ofInt16_replies r
  | write => exact ofInt32_replies r
  | status => exact ofNothing_replies
  | pushPopupsEnabledState => exact ofNothing_replies
  | popPopupsEnabledState => exact ofNothing_replies
  | invalidateRect => exact ofNothing_replies

end

/-! ### Functions of the plugin -/

/-- The parameters that the plugin's function gets. -/
def NPPOp.seen (side : Side) : (op : NPPOp) → op.Params → op.Params
  | getValue, p => { p with plugin := side.instanceOf p.plugin }
  | urlNotify, p => { p with plugin := side.instanceOf p.plugin }
  | writeReady, p => ⟨side.instanceOf p.plugin, side.found .stream p.stream⟩
  | write, p => ⟨⟨side.instanceOf p.plugin, side.found .stream p.stream⟩, p.offset, p.buf.seen⟩
  | streamAsFile, p => ⟨⟨side.instanceOf p.plugin, side.found .stream p.stream⟩, p.fname⟩
  | handleEvent, p => ⟨side.instanceOf p.plugin,
      { p.event.received with any := { p.event.received.any with display := side.xDisplay } }⟩
  | clearSiteData, p => p

def NPPOp.Permits (side : Side) : (op : NPPOp) → op.Params → Prop
  | getValue, p => side.Agrees .pluginInstance p.plugin ∧ (valueType (rpcTypeOfNPPVariable p.npVariable)).isSome = true
  | urlNotify, p => side.Agrees .pluginInstance p.plugin ∧ ShortString p.url ∧ side.Holds p.notifyData
  | writeReady, p => side.Agrees .pluginInstance p.plugin ∧ side.Agrees .stream p.stream
  | write, p => side.Agrees .pluginInstance p.plugin ∧ side.Agrees .stream p.stream ∧ p.buf.Short
  | streamAsFile, p => side.Agrees .pluginInstance p.plugin ∧ side.Agrees .stream p.stream ∧ ShortString p.fname
  | handleEvent, p => side.Agrees .pluginInstance p.plugin ∧ isValidNPEventType p.event.type = true ∧ p.event.Permitted
  | clearSiteData, p => ShortString p.site

def NPPOp.Returns : (op : NPPOp) → op.Params → op.Result → Prop
  | getValue, p, r => r.Stored (rpcTypeOfNPPVariable p.npVariable) (p.npVariable = NPPVariableId.formValue)
  | urlNotify, _, _ | writeReady, _, _ | write, _, _ | streamAsFile, _, _ | handleEvent, _, _ | clearSiteData, _, _ => True

def NPPOp.got : (op : NPPOp) → op.Result → op.Result
  | getValue, r => ⟨r.ret, r.value.got⟩
  | urlNotify, r | writeReady, r | write, r | streamAsFile, r | handleEvent, r | clearSiteData, r => r

section
variable {side other : Side} {types types' : TypeMap NPValue}

/-- The buffer that is not passed on has no bytes. -/
theorem CharArray.bounded_seen {buf : CharArray} (h : buf.Short) :
    (if buf.len.toInt32 ≤ 0 then CharArray.null buf.len else buf).seen = buf.seen := by
  cases buf with
  | null len =>
    rw [CharArray.len]
    split <;> rfl
  | block bytes =>
    cases bytes with
    | nil => rfl
    | cons byte bytes =>
      have hlen : (CharArray.block (byte :: bytes)).len.toInt32.toInt = (byte :: bytes).length := by
        rw [CharArray.len, UInt32.toInt32_ofNat', Int32.toInt_ofNat_of_lt h]
      rw [if_neg]
      rw [Int32.le_iff_toInt_le, hlen]
      simp

theorem NPPOp.requests (op : NPPOp) (p : op.Params) (h : op.Permits side p) :
    (op.remote side).Requests other.types side.types p (op.seen side p) := by
  cases op with
  | getValue =>
    obtain ⟨hplugin, hvariable⟩ := h
    refine ⟨_, .cons (pluginInstance_arrives hplugin) (.cons (int32_arrives _) .nil), ?_⟩
    simp [remote, NPP.getValue, ofVariable, seen, Side.instanceOf, hvariable]
  | urlNotify =>
    obtain ⟨hplugin, hurl, hdata⟩ := h
    refine ⟨_, .cons (pluginInstance_arrives hplugin) (.cons (string_arrives hurl) (.cons (int32_arrives _)
      (.cons (notifyData_arrives hdata) .nil))), ?_⟩
    simp [remote, NPP.urlNotify, ofNothing, seen, Side.instanceOf]
  | writeReady =>
    obtain ⟨hplugin, hstream⟩ := h
    exact ⟨_, .cons (pluginInstance_arrives hplugin) (.cons (stream_arrives hstream) .nil), rfl⟩
  | write =>
    obtain ⟨hplugin, hstream, hbuf⟩ := h
    have hshort : (if p.buf.len.toInt32 ≤ 0 then CharArray.null p.buf.len else p.buf).Short := by
      split
      · trivial
      · exact hbuf
    refine ⟨_, .cons (pluginInstance_arrives hplugin) (.cons (stream_arrives hstream) (.cons (int32_arrives _)
      (.cons (chars_arrive hshort) .nil))), ?_⟩
    rw [CharArray.bounded_seen hbuf]
    cases hseen : p.buf.seen <;> simp [remote, NPP.write, ofInt32, seen, Side.instanceOf, hseen, CharArray.arg]
  | streamAsFile =>
    obtain ⟨hplugin, hstream, hfname⟩ := h
    exact ⟨_, .cons (pluginInstance_arrives hplugin) (.cons (stream_arrives hstream) (.cons (string_arrives hfname) .nil)), rfl⟩
  | handleEvent =>
    obtain ⟨hplugin, htype, hevent⟩ := h
    exact ⟨_, .cons (pluginInstance_arrives hplugin) (.cons (event_arrives htype hevent) .nil), rfl⟩
  | clearSiteData => exact ⟨_, .cons (string_arrives h) (.cons (uint64_arrives _) (.cons (uint64_arrives _) .nil)), rfl⟩

theorem NPPOp.replies (op : NPPOp) (p p' : op.Params) (r : op.Result) (h : op.Returns p r) :
    (op.remote side).Replies types types' p p' r (op.got r) := by
  cases op with
  | getValue => exact ofVariable_replies h
  | urlNotify => exact ofNothing_replies
  | writeReady => exact ofInt32_replies r
  | write => exact ofInt32_replies r
  | streamAsFile => exact ofNothing_replies
  | handleEvent => exact ofInt16_replies r
  | clearSiteData => exact ofInt16_replies r

end

/-! ### Both -/

/-- What becomes of the calls, and which are permitted. -/
def convention (sides : ConnectionType → Side) : (side : ConnectionType) → Convention (interface side)
  | .server => {
      gate := NPPOp.gate
      Permits := NPPOp.Permits (sides .server)
      seen := NPPOp.seen (sides .server)
      Returns := NPPOp.Returns
      got := fun op _ => op.got }
  | .client => {
      gate := NPNOp.gate
      Permits := NPNOp.Permits (sides .client)
      seen := NPNOp.seen (sides .client)
      Returns := NPNOp.Returns
      got := fun op _ => op.got }

variable {sides : ConnectionType → Side}

theorem gate_eq : (fun side => (convention sides side).gate) = gate := by
  funext side
  cases side <;> rfl

/-- No two functions of an end have one method. -/
theorem found_by_method (side : ConnectionType) (op : (interface side).Op) :
    (remotes sides side).find ((remotes sides side).remote op).method = some op := by
  cases side with
  | client => cases op <;> rfl
  | server => cases op <;> rfl

theorem carried : CarriedBy (remotes sides) (fun side => (sides side).types) (convention sides) where
  positive side op := by
    cases side with
    | client => cases op <;> exact of_decide_eq_true rfl
    | server => cases op <;> exact of_decide_eq_true rfl
  found := found_by_method
  requests side op p hgate h := by
    cases side with
    | client => exact NPNOp.requests op p hgate h
    | server => exact NPPOp.requests op p h
  replies side op p r _ _ h := by
    cases side with
    | client => exact NPNOp.replies op p _ r h
    | server => exact NPPOp.replies op p _ r h

/-- Everything comes in at once. -/
def atOnce : Kernel := fun bs m => { m with script := m.script ++ leftover bs }

theorem atOnce_delivers : atOnce.Delivers := by
  intro bs m hm
  refine ⟨⟨fun e he => ?_, hm.2⟩, by simp [atOnce, InMessage.held]⟩
  rcases List.mem_append.mp he with he | he
  · exact hm.1 e he
  · cases bs with
    | nil => cases he
    | cons b bs =>
      rw [List.mem_singleton.mp he]
      trivial

/-- Instance 7, in both processes. -/
def oneInstance : Side := ⟨fun id => if id = 7 then some .pluginInstance else none, fun _ => true, false, 0, rfl⟩

/-- The browser counts the requests and ends each at once; the plugin keeps what it is told then. -/
def notifying : Functions UInt64
  | .client, NPNOp.getURLNotify => some fun p => .read fun n => .write (n + 1)
      (.call NPPOp.urlNotify ⟨p.request.plugin, p.request.url, 0, p.notifyData⟩ fun _ => .done NPError.noError)
  | .server, NPPOp.urlNotify => some fun p => .write p.notifyData (.done ())
  | _, _ => none

end Forward
end NSPluginWrapper
