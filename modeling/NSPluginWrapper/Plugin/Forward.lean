import NSPluginWrapper.Npapi.Composite
import NSPluginWrapper.Npapi.Decode
import NSPluginWrapper.Plugin.Lifecycle
import NSPluginWrapper.Plugin.Window
import NSPluginWrapper.Rpc.Remote

/-! The functions that npw-viewer.c and npw-wrapper.c pass on to each other as they are called: for each, invoke_*() of one
    and handle_*() of the other, and what their g_*() functions answer by themselves. NULL is `none`, an instance and a
    stream stand for their numbers, and every allocation succeeds. -/

namespace NSPluginWrapper
namespace Forward
open Lib
open Decode (NPValue)

/-! ### Types -/

theorem le_of_builtin {id : Int32} (h : id ∈ builtinTypes) : id ≤ 0 :=
  of_decide_eq_true (List.all_eq_true.mp (by decide : (builtinTypes.all fun id => decide (id ≤ 0)) = true) id h)

/-- A type of npw-rpc.h, whose numbers start at 1. -/
def npType (id : Int32) (h : ¬id ≤ 0) : UserType := ⟨id, fun hid => h (le_of_builtin hid)⟩

def npStream : UserType := npType 2 (by decide)
def npByteRange : UserType := npType 3 (by decide)
def npNotifyData : UserType := npType 5 (by decide)
def npRect : UserType := npType 6 (by decide)
def npEvent : UserType := npType 8 (by decide)
def npwPluginInstance : UserType := npType 20 (by decide)

/-- One of the two processes: what it has under a number, which instances have an NPP, and its display. -/
structure Side where
  ids : UInt32 → Option IdEntry
  hasNPP : UInt32 → Bool
  pointers32 : Bool
  xDisplay : UInt64
  zero : ids 0 = none

/-- id_lookup() of a number for something of that kind. Anything else is used as if it were that. -/
def Side.recvId (side : Side) (kind : IdEntry) : Recv (Option UInt32) := do
  let id ← rpcMessageRecvUint32
  match side.ids id with
  | none => pure none
  | some found => if found = kind then pure (some id) else throw .fault

/-- The bytes of a value: a pointer's, but for a rectangle and an event. -/
def Side.size (side : Side) (id : Int) : Nat := if id = 6 then 8 else (if id = 8 then 24 else 1) * if side.pointers32 then 4 else 8

section
variable (side : Side) (id : Int)

theorem Side.size_pos : 0 < side.size id := by
  unfold size
  grind

theorem Side.size_lt : side.size id < 2 ^ 31 := by
  unfold size
  grind

end

/-- What the functions here use of `message_descs`. -/
def Side.types (side : Side) : TypeMap NPValue := fun t =>
  match t.id.toInt with
  | 2 => some ⟨side.size 2, side.size_pos 2, side.size_lt 2, fun
    | .stream stream => rpcMessageSendUint32 (stream.getD 0)
    | _ => throw .fault, .stream <$> side.recvId .stream⟩
  | 3 => some ⟨side.size 3, side.size_pos 3, side.size_lt 3, fun
    | .byteRange rangeList => doSendNPByteRange rangeList
    | _ => throw .fault, .byteRange <$> doRecvNPByteRange⟩
  | 5 => some ⟨side.size 5, side.size_pos 5, side.size_lt 5, fun
    | .notifyData notifyData => doSendNotifyData notifyData
    | _ => throw .fault, .notifyData <$> doRecvNotifyData side.pointers32⟩
  | 6 => some ⟨side.size 6, side.size_pos 6, side.size_lt 6, fun
    | .rect rect => doSendNPRect rect
    | _ => throw .fault, .rect <$> doRecvNPRect⟩
  | 8 => some ⟨side.size 8, side.size_pos 8, side.size_lt 8, fun
    | .event event => doSendNPEvent (some event)
    | _ => throw .fault, .event <$> doRecvNPEvent⟩
  | 20 => some ⟨side.size 20, side.size_pos 20, side.size_lt 20, fun
    | .pluginInstance plugin => doSendNPWPluginInstance (plugin.getD 0)
    | _ => throw .fault, .pluginInstance <$> side.recvId .pluginInstance⟩
  | _ => none

/-- PLUGIN_INSTANCE_NPP() of an instance that was received. -/
def Side.npp (side : Side) (plugin : Option UInt32) : Option UInt32 := plugin.filter side.hasNPP

/-- `len` and `buf`. -/
inductive CharArray where
  | null (len : UInt32)
  | block (bytes : List UInt8)
  deriving Repr, DecidableEq

namespace CharArray

def len : CharArray → UInt32
  | null len => len
  | block bytes => UInt32.ofNat bytes.length

def arg : CharArray → Arg NPValue
  | null len => .array (.null RpcType.char len)
  | block bytes => .array (.elements (.char bytes))

end CharArray

/-! ### Variables -/

namespace NPNVariable
abbrev netscapeWindow : UInt32 := 3
abbrev javascriptEnabledBool : UInt32 := 4
abbrev asdEnabledBool : UInt32 := 5
abbrev isOfflineBool : UInt32 := 6
abbrev toolkit : UInt32 := 0x1000000d
abbrev supportsXEmbedBool : UInt32 := 14
abbrev windowNPObject : UInt32 := 15
abbrev pluginElementNPObject : UInt32 := 16
abbrev supportsWindowless : UInt32 := 17
abbrev privateModeBool : UInt32 := 18
abbrev supportsAdvancedKeyHandling : UInt32 := 21
abbrev documentOrigin : UInt32 := 22
end NPNVariable

namespace NPPVariableId
abbrev pluginNameString : UInt32 := 1
abbrev pluginDescriptionString : UInt32 := 2
abbrev pluginWindowBool : UInt32 := 3
abbrev pluginTransparentBool : UInt32 := 4
abbrev pluginWindowSize : UInt32 := 6
abbrev pluginTimerInterval : UInt32 := 7
abbrev javascriptPushCallerBool : UInt32 := 12
abbrev pluginKeepLibraryInMemory : UInt32 := 13
abbrev pluginNeedsXEmbed : UInt32 := 14
abbrev pluginScriptableNPObject : UInt32 := 15
abbrev formValue : UInt32 := 16
abbrev pluginUrlRequestsDisplayedBool : UInt32 := 17
abbrev pluginWantsAllNetworkStreams : UInt32 := 18
abbrev pluginNativeAccessibleAtkPlugId : UInt32 := 19
abbrev pluginCancelSrcStream : UInt32 := 20
abbrev supportsAdvancedKeyHandling : UInt32 := 21
abbrev pluginUsesDOMForCursorBool : UInt32 := 22
end NPPVariableId

/-- RPC_TYPE_NP_OBJECT, among the types that follow. -/
abbrev npObjectType : Int32 := 13

open NPNVariable in
def rpcTypeOfNPNVariable (npVariable : UInt32) : Int32 :=
  if npVariable ∈ [javascriptEnabledBool, asdEnabledBool, isOfflineBool, supportsXEmbedBool, supportsWindowless, privateModeBool,
      supportsAdvancedKeyHandling] then RpcType.boolean
  else if npVariable ∈ [toolkit, netscapeWindow] then RpcType.uint32
  else if npVariable = documentOrigin then RpcType.string
  else if npVariable ∈ [windowNPObject, pluginElementNPObject] then npObjectType
  else -1000

open NPPVariableId in
def rpcTypeOfNPPVariable (npVariable : UInt32) : Int32 :=
  if npVariable ∈ [pluginNameString, pluginDescriptionString, formValue, pluginNativeAccessibleAtkPlugId] then RpcType.string
  else if npVariable ∈ [pluginWindowSize, pluginTimerInterval] then RpcType.int32
  else if npVariable ∈ [pluginNeedsXEmbed, pluginWindowBool, pluginTransparentBool, javascriptPushCallerBool,
      pluginKeepLibraryInMemory, pluginUrlRequestsDisplayedBool, pluginWantsAllNetworkStreams, pluginCancelSrcStream,
      supportsAdvancedKeyHandling, pluginUsesDOMForCursorBool] then RpcType.boolean
  else if npVariable = pluginScriptableNPObject then npObjectType
  else -1000

/-- What is where `value` points to. -/
inductive VariableValue where
  | uint32 (n : UInt32)
  | int32 (n : Int32)
  | bool (b : UInt8)
  | string (str : Option CString)
  deriving Repr, DecidableEq

namespace VariableValue

def type : VariableValue → Int32
  | uint32 _ => RpcType.uint32
  | int32 _ => RpcType.int32
  | bool _ => RpcType.boolean
  | string _ => RpcType.string

/-- What a handler starts with. -/
def initial (type : Int32) : VariableValue :=
  if type = RpcType.boolean then bool 0
  else if type = RpcType.string then string none
  else if type = RpcType.int32 then int32 0
  else uint32 0

def arg : VariableValue → Arg NPValue
  | uint32 n => .uint32 n
  | int32 n => .int32 n
  | bool b => .boolean b.toUInt32.toInt32
  | string str => .string str

end VariableValue

/-- The type that a value of a variable has in a reply. Objects are left to the scripting functions. -/
def valueType (type : Int32) : Option ArgType :=
  if type = RpcType.uint32 then some .uint32
  else if type = RpcType.int32 then some .int32
  else if type = RpcType.boolean then some .boolean
  else if type = RpcType.string then some .string
  else none

/-- With the error, what was stored. -/
structure VariableResult where
  ret : NPError
  value : VariableValue
  deriving Repr, DecidableEq

/-! ### Replies -/

section
variable {P : Type} (method : Int32) (invoked : P → List (Arg NPValue)) (expected : List ArgType)
  (received : List (Arg NPValue) → Option P)

/-- A function that returns an error or another short. -/
def ofInt16 (failed : Int16) : RemoteFunction NPValue P Int16 where
  method := method
  invoked := invoked
  expected := expected
  received := received
  reply _ ret := [.int32 ret.toInt32]
  awaited _ := [.int32]
  answer _ args := match args with
    | [.int32 ret] => some ret.toInt16
    | _ => none
  failed := failed
  unanswered _ := failed

def ofInt32 (failed : Int32) : RemoteFunction NPValue P Int32 where
  method := method
  invoked := invoked
  expected := expected
  received := received
  reply _ ret := [.int32 ret]
  awaited _ := [.int32]
  answer _ args := match args with
    | [.int32 ret] => some ret
    | _ => none
  failed := failed
  unanswered _ := failed

def ofNothing : RemoteFunction NPValue P Unit where
  method := method
  invoked := invoked
  expected := expected
  received := received
  reply _ _ := []
  awaited _ := []
  answer _ args := match args with
    | [] => some ()
    | _ => none
  failed := ()
  unanswered _ := ()

/-- NPN_GetValue() and NPP_GetValue(): the type of the value is that of the variable. A caller that is to have a copy of a
    string takes its length first. -/
def ofVariable (type : P → Int32) (copied : P → Bool) : RemoteFunction NPValue P VariableResult where
  method := method
  invoked := invoked
  expected := expected
  received := received
  reply _ r := [.int32 r.ret.toInt32, r.value.arg]
  awaited p := .int32 :: (valueType (type p)).toList
  answer p args := match args with
    | [.int32 ret, .uint32 n] => some ⟨ret.toInt16, .uint32 n⟩
    | [.int32 ret, .int32 n] => some ⟨ret.toInt16, .int32 n⟩
    | [.int32 ret, .boolean b] => some ⟨ret.toInt16, .bool (if b = 0 then 0 else 1)⟩
    | [.int32 ret, .string str] => if copied p ∧ ret = 0 ∧ str = none then none else some ⟨ret.toInt16, .string str⟩
    | _ => none
  failed := ⟨NPError.genericError, .uint32 0⟩
  unanswered p := ⟨NPError.genericError, .initial (type p)⟩

end

/-! ### In the browser -/

structure VariableRequest where
  plugin : Option UInt32
  npVariable : UInt32
  deriving Repr, DecidableEq

structure VariableSetting extends VariableRequest where
  value : UInt64
  deriving Repr, DecidableEq

structure URLRequest where
  plugin : Option UInt32
  url : Option CString
  target : Option CString
  deriving Repr, DecidableEq

structure URLPost extends URLRequest where
  buf : CharArray
  file : UInt8
  deriving Repr, DecidableEq

/-- A request whose end the plugin is to be told of. -/
structure Notified (P : Type) where
  request : P
  notifyData : UInt64
  deriving Repr, DecidableEq

structure StatusText where
  plugin : Option UInt32
  message : Option CString
  deriving Repr, DecidableEq

structure ReadRequest where
  stream : Option UInt32
  rangeList : List NPByteRange
  deriving Repr, DecidableEq

structure WriteRequest where
  plugin : Option UInt32
  stream : Option UInt32
  buf : CharArray
  deriving Repr, DecidableEq

structure PopupsState where
  plugin : Option UInt32
  enabled : UInt8
  deriving Repr, DecidableEq

structure Invalidation where
  plugin : Option UInt32
  invalidRect : Option NPRect
  deriving Repr, DecidableEq

structure URLQuery extends VariableRequest where
  url : Option CString
  deriving Repr, DecidableEq

structure URLSetting extends URLQuery where
  value : CharArray
  deriving Repr, DecidableEq

/-- The error, the length that was stored, and the value where one was. -/
structure URLValue where
  ret : NPError
  value : CharArray
  deriving Repr, DecidableEq

namespace NPN
variable (side : Side)

def userAgent : RemoteFunction NPValue Unit (Option CString) where
  method := 5
  invoked _ := []
  expected := []
  received args := match args with
    | [] => some ()
    | _ => none
  reply _ userAgent := [.string userAgent]
  awaited _ := [.string]
  answer _ args := match args with
    | [.string userAgent] => some userAgent
    | _ => none
  failed := none
  unanswered _ := none

/-- Of a variable that it does not know, the handler aborts the process. -/
def getValue : RemoteFunction NPValue VariableRequest VariableResult :=
  ofVariable 6 (fun p => [.user npwPluginInstance (.pluginInstance p.plugin), .uint32 p.npVariable])
    [.user npwPluginInstance, .uint32]
    (fun
      | [.user _ (.pluginInstance plugin), .uint32 npVariable] =>
        if (valueType (rpcTypeOfNPNVariable npVariable)).isSome then some ⟨side.npp plugin, npVariable⟩ else none
      | _ => none)
    (fun p => rpcTypeOfNPNVariable p.npVariable) fun _ => true

def setValue : RemoteFunction NPValue VariableSetting NPError :=
  ofInt16 7
    (fun p => [.user npwPluginInstance (.pluginInstance p.plugin), .uint32 p.npVariable, .boolean p.value.toUInt32.toInt32])
    [.user npwPluginInstance, .uint32, .boolean]
    (fun
      | [.user _ (.pluginInstance plugin), .uint32 npVariable, .boolean value] =>
        some ⟨⟨side.npp plugin, npVariable⟩, value.toUInt32.toUInt64⟩
      | _ => none)
    NPError.genericError

def getURL : RemoteFunction NPValue URLRequest NPError :=
  ofInt16 8 (fun p => [.user npwPluginInstance (.pluginInstance p.plugin), .string p.url, .string p.target])
    [.user npwPluginInstance, .string, .string]
    (fun
      | [.user _ (.pluginInstance plugin), .string url, .string target] => some ⟨side.npp plugin, url, target⟩
      | _ => none)
    NPError.genericError

def getURLNotify : RemoteFunction NPValue (Notified URLRequest) NPError :=
  ofInt16 9
    (fun p => [.user npwPluginInstance (.pluginInstance p.request.plugin), .string p.request.url, .string p.request.target,
      .user npNotifyData (.notifyData p.notifyData)])
    [.user npwPluginInstance, .string, .string, .user npNotifyData]
    (fun
      | [.user _ (.pluginInstance plugin), .string url, .string target, .user _ (.notifyData notifyData)] =>
        some ⟨⟨side.npp plugin, url, target⟩, notifyData⟩
      | _ => none)
    NPError.genericError

def postURL : RemoteFunction NPValue URLPost NPError :=
  ofInt16 10
    (fun p => [.user npwPluginInstance (.pluginInstance p.plugin), .string p.url, .string p.target, p.buf.arg,
      .boolean p.file.toUInt32.toInt32])
    [.user npwPluginInstance, .string, .string, .array RpcType.char, .boolean]
    (fun
      | [.user _ (.pluginInstance plugin), .string url, .string target, .array (.null _ len), .boolean file] =>
        some ⟨⟨side.npp plugin, url, target⟩, .null len, file.toUInt32.toUInt8⟩
      | [.user _ (.pluginInstance plugin), .string url, .string target, .array (.elements (.char bytes)), .boolean file] =>
        some ⟨⟨side.npp plugin, url, target⟩, .block bytes, file.toUInt32.toUInt8⟩
      | _ => none)
    NPError.genericError

def postURLNotify : RemoteFunction NPValue (Notified URLPost) NPError :=
  ofInt16 11
    (fun p => [.user npwPluginInstance (.pluginInstance p.request.plugin), .string p.request.url, .string p.request.target,
      p.request.buf.arg, .boolean p.request.file.toUInt32.toInt32, .user npNotifyData (.notifyData p.notifyData)])
    [.user npwPluginInstance, .string, .string, .array RpcType.char, .boolean, .user npNotifyData]
    (fun
      | [.user _ (.pluginInstance plugin), .string url, .string target, .array (.null _ len), .boolean file,
          .user _ (.notifyData notifyData)] =>
        some ⟨⟨⟨side.npp plugin, url, target⟩, .null len, file.toUInt32.toUInt8⟩, notifyData⟩
      | [.user _ (.pluginInstance plugin), .string url, .string target, .array (.elements (.char bytes)), .boolean file,
          .user _ (.notifyData notifyData)] =>
        some ⟨⟨⟨side.npp plugin, url, target⟩, .block bytes, file.toUInt32.toUInt8⟩, notifyData⟩
      | _ => none)
    NPError.genericError

def status : RemoteFunction NPValue StatusText Unit :=
  ofNothing 12 (fun p => [.user npwPluginInstance (.pluginInstance p.plugin), .string p.message])
    [.user npwPluginInstance, .string]
    (fun
      | [.user _ (.pluginInstance plugin), .string message] => some ⟨side.npp plugin, message⟩
      | _ => none)

def requestRead : RemoteFunction NPValue ReadRequest NPError :=
  ofInt16 14 (fun p => [.user npStream (.stream p.stream), .user npByteRange (.byteRange p.rangeList)])
    [.user npStream, .user npByteRange]
    (fun
      | [.user _ (.stream stream), .user _ (.byteRange rangeList)] => some ⟨stream, rangeList⟩
      | _ => none)
    NPError.genericError

def write : RemoteFunction NPValue WriteRequest Int32 :=
  ofInt32 17
    (fun p => [.user npwPluginInstance (.pluginInstance p.plugin), .user npStream (.stream p.stream), p.buf.arg])
    [.user npwPluginInstance, .user npStream, .array RpcType.char]
    (fun
      | [.user _ (.pluginInstance plugin), .user _ (.stream stream), .array (.null _ len)] =>
        some ⟨side.npp plugin, stream, .null len⟩
      | [.user _ (.pluginInstance plugin), .user _ (.stream stream), .array (.elements (.char bytes))] =>
        some ⟨side.npp plugin, stream, .block bytes⟩
      | _ => none)
    (-1)

def pushPopupsEnabledState : RemoteFunction NPValue PopupsState Unit :=
  ofNothing 18 (fun p => [.user npwPluginInstance (.pluginInstance p.plugin), .uint32 p.enabled.toUInt32])
    [.user npwPluginInstance, .uint32]
    (fun
      | [.user _ (.pluginInstance plugin), .uint32 enabled] => some ⟨side.npp plugin, enabled.toUInt8⟩
      | _ => none)

def popPopupsEnabledState : RemoteFunction NPValue (Option UInt32) Unit :=
  ofNothing 19 (fun plugin => [.user npwPluginInstance (.pluginInstance plugin)]) [.user npwPluginInstance]
    (fun
      | [.user _ (.pluginInstance plugin)] => some (side.npp plugin)
      | _ => none)

def invalidateRect : RemoteFunction NPValue Invalidation Unit :=
  ofNothing 21
    (fun p => .user npwPluginInstance (.pluginInstance p.plugin) :: (p.invalidRect.map fun rect => .user npRect (.rect rect)).toList)
    [.user npwPluginInstance, .user npRect]
    (fun
      | [.user _ (.pluginInstance plugin), .user _ (.rect rect)] => some ⟨side.npp plugin, some rect⟩
      | _ => none)

/-- Where it fails, only the length is stored. -/
def getValueForURL : RemoteFunction NPValue URLQuery URLValue where
  method := 23
  invoked p := [.user npwPluginInstance (.pluginInstance p.plugin), .uint32 p.npVariable, .string p.url]
  expected := [.user npwPluginInstance, .uint32, .string]
  received args := match args with
    | [.user _ (.pluginInstance plugin), .uint32 npVariable, .string url] => some ⟨⟨side.npp plugin, npVariable⟩, url⟩
    | _ => none
  reply _ r := [.int32 r.ret.toInt32, r.value.arg]
  awaited _ := [.int32, .array RpcType.char]
  answer _ args := match args with
    | [.int32 ret, .array (.null _ len)] => some ⟨ret.toInt16, .null len⟩
    | [.int32 ret, .array (.elements (.char bytes))] =>
      some ⟨ret.toInt16, if ret = 0 then .block bytes else .null (UInt32.ofNat bytes.length)⟩
    | _ => none
  failed := ⟨NPError.genericError, .null 0⟩
  unanswered _ := ⟨NPError.genericError, .null 0⟩

def setValueForURL : RemoteFunction NPValue URLSetting NPError :=
  ofInt16 24
    (fun p => [.user npwPluginInstance (.pluginInstance p.plugin), .uint32 p.npVariable, .string p.url, p.value.arg])
    [.user npwPluginInstance, .uint32, .string, .array RpcType.char]
    (fun
      | [.user _ (.pluginInstance plugin), .uint32 npVariable, .string url, .array (.null _ len)] =>
        some ⟨⟨⟨side.npp plugin, npVariable⟩, url⟩, .null len⟩
      | [.user _ (.pluginInstance plugin), .uint32 npVariable, .string url, .array (.elements (.char bytes))] =>
        some ⟨⟨⟨side.npp plugin, npVariable⟩, url⟩, .block bytes⟩
      | _ => none)
    NPError.genericError

end NPN

/-! ### In the plugin -/

structure EventDelivery where
  plugin : Option UInt32
  event : XEvent

structure URLNotice where
  plugin : Option UInt32
  url : Option CString
  reason : Int16
  notifyData : UInt64
  deriving Repr, DecidableEq

structure WriteQuery where
  plugin : Option UInt32
  stream : Option UInt32
  deriving Repr, DecidableEq

structure DataDelivery extends WriteQuery where
  offset : Int32
  buf : CharArray
  deriving Repr, DecidableEq

structure FileDelivery extends WriteQuery where
  fname : Option CString
  deriving Repr, DecidableEq

structure SiteData where
  site : Option CString
  flags : UInt64
  maxAge : UInt64
  deriving Repr, DecidableEq

namespace NPP
variable (side : Side)

/-- The event that the plugin is handed has its own display. -/
def handleEvent : RemoteFunction NPValue EventDelivery Int16 :=
  ofInt16 33 (fun p => [.user npwPluginInstance (.pluginInstance p.plugin), .user npEvent (.event p.event)])
    [.user npwPluginInstance, .user npEvent]
    (fun
      | [.user _ (.pluginInstance plugin), .user _ (.event event)] =>
        some ⟨side.npp plugin, { event with any := { event.any with display := side.xDisplay } }⟩
      | _ => none)
    0

/-- As NPN_GetValue(), but for the type of the number. -/
def getValue : RemoteFunction NPValue VariableRequest VariableResult :=
  ofVariable 34 (fun p => [.user npwPluginInstance (.pluginInstance p.plugin), .int32 p.npVariable.toInt32])
    [.user npwPluginInstance, .int32]
    (fun
      | [.user _ (.pluginInstance plugin), .int32 npVariable] =>
        if (valueType (rpcTypeOfNPPVariable npVariable.toUInt32)).isSome then some ⟨side.npp plugin, npVariable.toUInt32⟩ else none
      | _ => none)
    (fun p => rpcTypeOfNPPVariable p.npVariable) fun p => p.npVariable = NPPVariableId.formValue

def urlNotify : RemoteFunction NPValue URLNotice Unit :=
  ofNothing 36
    (fun p => [.user npwPluginInstance (.pluginInstance p.plugin), .string p.url, .int32 p.reason.toInt32,
      .user npNotifyData (.notifyData p.notifyData)])
    [.user npwPluginInstance, .string, .int32, .user npNotifyData]
    (fun
      | [.user _ (.pluginInstance plugin), .string url, .int32 reason, .user _ (.notifyData notifyData)] =>
        some ⟨side.npp plugin, url, reason.toInt16, notifyData⟩
      | _ => none)

/-- NPERR_STREAM_BUFSIZ bytes where the plugin does not tell. -/
def writeReady : RemoteFunction NPValue WriteQuery Int32 :=
  ofInt32 39 (fun p => [.user npwPluginInstance (.pluginInstance p.plugin), .user npStream (.stream p.stream)])
    [.user npwPluginInstance, .user npStream]
    (fun
      | [.user _ (.pluginInstance plugin), .user _ (.stream stream)] => some ⟨side.npp plugin, stream⟩
      | _ => none)
    65536

/-- With a length of 0 or less, no buffer is passed on. -/
def write : RemoteFunction NPValue DataDelivery Int32 :=
  ofInt32 40
    (fun p => [.user npwPluginInstance (.pluginInstance p.plugin), .user npStream (.stream p.stream), .int32 p.offset,
      (if p.buf.len.toInt32 ≤ 0 then .null p.buf.len else p.buf).arg])
    [.user npwPluginInstance, .user npStream, .int32, .array RpcType.char]
    (fun
      | [.user _ (.pluginInstance plugin), .user _ (.stream stream), .int32 offset, .array (.null _ len)] =>
        some ⟨⟨side.npp plugin, stream⟩, offset, .null len⟩
      | [.user _ (.pluginInstance plugin), .user _ (.stream stream), .int32 offset, .array (.elements (.char bytes))] =>
        some ⟨⟨side.npp plugin, stream⟩, offset, .block bytes⟩
      | _ => none)
    (-1)

def streamAsFile : RemoteFunction NPValue FileDelivery Unit :=
  ofNothing 41
    (fun p => [.user npwPluginInstance (.pluginInstance p.plugin), .user npStream (.stream p.stream), .string p.fname])
    [.user npwPluginInstance, .user npStream, .string]
    (fun
      | [.user _ (.pluginInstance plugin), .user _ (.stream stream), .string fname] => some ⟨⟨side.npp plugin, stream⟩, fname⟩
      | _ => none)

def clearSiteData : RemoteFunction NPValue SiteData NPError :=
  ofInt16 46 (fun p => [.string p.site, .uint64 p.flags, .uint64 p.maxAge]) [.string, .uint64, .uint64]
    (fun
      | [.string site, .uint64 flags, .uint64 maxAge] => some ⟨site, flags, maxAge⟩
      | _ => none)
    NPError.genericError

end NPP

/-! ### The tables -/

/-- The methods of the browser, of those that the wrapper adds handlers for. -/
inductive NPNOp where
  | userAgent
  | getValue
  | setValue
  | getURL
  | getURLNotify
  | postURL
  | postURLNotify
  | status
  | requestRead
  | write
  | pushPopupsEnabledState
  | popPopupsEnabledState
  | invalidateRect
  | getValueForURL
  | setValueForURL
  deriving Repr, DecidableEq

namespace NPNOp

abbrev Params : NPNOp → Type
  | userAgent => Unit
  | getValue => VariableRequest
  | setValue => VariableSetting
  | getURL => URLRequest
  | getURLNotify => Notified URLRequest
  | postURL => URLPost
  | postURLNotify => Notified URLPost
  | status => StatusText
  | requestRead => ReadRequest
  | write => WriteRequest
  | pushPopupsEnabledState => PopupsState
  | popPopupsEnabledState => Option UInt32
  | invalidateRect => Invalidation
  | getValueForURL => URLQuery
  | setValueForURL => URLSetting

abbrev Result : NPNOp → Type
  | userAgent => Option CString
  | getValue => VariableResult
  | status | pushPopupsEnabledState | popPopupsEnabledState | invalidateRect => Unit
  | write => Int32
  | getValueForURL => URLValue
  | setValue | getURL | getURLNotify | postURL | postURLNotify | requestRead | setValueForURL => NPError

def remote (side : Side) : (op : NPNOp) → RemoteFunction NPValue op.Params op.Result
  | userAgent => NPN.userAgent
  | getValue => NPN.getValue side
  | setValue => NPN.setValue side
  | getURL => NPN.getURL side
  | getURLNotify => NPN.getURLNotify side
  | postURL => NPN.postURL side
  | postURLNotify => NPN.postURLNotify side
  | status => NPN.status side
  | requestRead => NPN.requestRead
  | write => NPN.write side
  | pushPopupsEnabledState => NPN.pushPopupsEnabledState side
  | popPopupsEnabledState => NPN.popPopupsEnabledState side
  | invalidateRect => NPN.invalidateRect side
  | getValueForURL => NPN.getValueForURL side
  | setValueForURL => NPN.setValueForURL side

/-- The `vtable` of npw-wrapper.c. -/
def vtable : List NPNOp :=
  [userAgent, getValue, setValue, getURL, getURLNotify, postURL, postURLNotify, status, requestRead, write,
    pushPopupsEnabledState, popPopupsEnabledState, invalidateRect, getValueForURL, setValueForURL]

end NPNOp

/-- The methods of the plugin, of those that the viewer adds handlers for. -/
inductive NPPOp where
  | getValue
  | urlNotify
  | writeReady
  | write
  | streamAsFile
  | handleEvent
  | clearSiteData
  deriving Repr, DecidableEq

namespace NPPOp

abbrev Params : NPPOp → Type
  | getValue => VariableRequest
  | urlNotify => URLNotice
  | writeReady => WriteQuery
  | write => DataDelivery
  | streamAsFile => FileDelivery
  | handleEvent => EventDelivery
  | clearSiteData => SiteData

abbrev Result : NPPOp → Type
  | getValue => VariableResult
  | urlNotify | streamAsFile => Unit
  | writeReady | write => Int32
  | handleEvent => Int16
  | clearSiteData => NPError

def remote (side : Side) : (op : NPPOp) → RemoteFunction NPValue op.Params op.Result
  | getValue => NPP.getValue side
  | urlNotify => NPP.urlNotify side
  | writeReady => NPP.writeReady side
  | write => NPP.write side
  | streamAsFile => NPP.streamAsFile side
  | handleEvent => NPP.handleEvent side
  | clearSiteData => NPP.clearSiteData

/-- The `vtable` of npw-viewer.c. -/
def vtable : List NPPOp := [getValue, urlNotify, writeReady, write, streamAsFile, handleEvent, clearSiteData]

end NPPOp

/-- The functions that an end has. The viewer is the server of the two. -/
def interface : ConnectionType → Interface
  | .server => ⟨NPPOp, NPPOp.Params, NPPOp.Result⟩
  | .client => ⟨NPNOp, NPNOp.Params, NPNOp.Result⟩

def remote (sides : ConnectionType → Side) : (side : ConnectionType) → (op : (interface side).Op) →
    RemoteFunction NPValue ((interface side).Params op) ((interface side).Result op)
  | .server => NPPOp.remote (sides .server)
  | .client => NPNOp.remote (sides .client)

def vtable : (side : ConnectionType) → List (interface side).Op
  | .server => NPPOp.vtable
  | .client => NPNOp.vtable

def remotes (sides : ConnectionType → Side) (side : ConnectionType) : Remotes NPValue where
  toInterface := interface side
  remote := remote sides side
  find method := (vtable side).find? fun op => (remote sides side op).method == method

/-! ### What is answered without the other end -/

def orElse {R : Type} (refused : Bool) (r : R) : Option R := if refused then some r else none

/-- The g_NPN_*() functions of npw-viewer.c. NPN_GetValue() is g_NPN_GetValue_real(). -/
def NPNOp.gate : (op : NPNOp) → op.Params → Option op.Result
  | userAgent, _ | getValue, _ | status, _ => none
  | setValue, p =>
    if p.plugin.isNone then some NPError.invalidInstanceError
    else orElse (rpcTypeOfNPPVariable p.npVariable != RpcType.boolean) NPError.invalidParam
  | getURL, p => orElse p.plugin.isNone NPError.invalidInstanceError
  | getURLNotify, p => orElse p.request.plugin.isNone NPError.invalidInstanceError
  | postURL, p => orElse p.plugin.isNone NPError.invalidInstanceError
  | postURLNotify, p => orElse p.request.plugin.isNone NPError.invalidInstanceError
  | requestRead, p => orElse (p.stream.isNone || p.rangeList.isEmpty) NPError.invalidParam
  | write, p => orElse (p.plugin.isNone || p.stream.isNone) (-1)
  | pushPopupsEnabledState, p => orElse p.plugin.isNone ()
  | popPopupsEnabledState, plugin => orElse plugin.isNone ()
  | invalidateRect, p => orElse (p.plugin.isNone || p.invalidRect.isNone) ()
  | getValueForURL, p => orElse p.plugin.isNone ⟨NPError.invalidInstanceError, .null 0⟩
  | setValueForURL, p => orElse p.plugin.isNone NPError.invalidInstanceError

/-- The g_NPP_*() functions of npw-wrapper.c. The variables that NPP_GetValue() leaves to NP_GetValue() are not told here. -/
def NPPOp.gate : (op : NPPOp) → op.Params → Option op.Result
  | getValue, p =>
    if p.plugin.isNone then some ⟨NPError.invalidInstanceError, .uint32 0⟩
    else orElse (rpcTypeOfNPPVariable p.npVariable == -1000) ⟨NPError.invalidParam, .uint32 0⟩
  | urlNotify, p => orElse p.plugin.isNone ()
  | writeReady, p => orElse p.plugin.isNone 0
  | write, p => orElse p.plugin.isNone (-1)
  | streamAsFile, p => orElse p.plugin.isNone ()
  | handleEvent, p => orElse p.plugin.isNone NPError.invalidInstanceError
  | clearSiteData, _ => none

def gate : (side : ConnectionType) → (op : (interface side).Op) → (interface side).Params op → Option ((interface side).Result op)
  | .server => NPPOp.gate
  | .client => NPNOp.gate

open NPNVariable in
/-- The handlers and the g_NPN_*() functions of npw-wrapper.c. -/
def NPNOp.refused : (op : NPNOp) → op.Params → Option op.Result
  | getValue, p => orElse
      (p.plugin.isNone && [windowNPObject, pluginElementNPObject, privateModeBool, netscapeWindow].contains p.npVariable)
      ⟨NPError.genericError, .initial (rpcTypeOfNPNVariable p.npVariable)⟩
  | setValue, p => orElse p.plugin.isNone NPError.invalidInstanceError
  | write, p => orElse p.stream.isNone (-1)
  | userAgent, _ | getURL, _ | getURLNotify, _ | postURL, _ | postURLNotify, _ | status, _ | requestRead, _
  | pushPopupsEnabledState, _ | popPopupsEnabledState, _ | invalidateRect, _ | getValueForURL, _ | setValueForURL, _ => none

/-- What they return where the browser lacks the function. -/
def NPNOp.missing : (op : NPNOp) → op.Params → op.Result
  | userAgent, _ => none
  | getValue, p => ⟨NPError.invalidFunctableError, .initial (rpcTypeOfNPNVariable p.npVariable)⟩
  | getValueForURL, _ => ⟨NPError.invalidFunctableError, .null 0⟩
  | write, _ => -1
  | status, _ | pushPopupsEnabledState, _ | popPopupsEnabledState, _ | invalidateRect, _ => ()
  | setValue, _ | getURL, _ | getURLNotify, _ | postURL, _ | postURLNotify, _ | requestRead, _ | setValueForURL, _ =>
    NPError.invalidFunctableError

/-- The g_NPP_*() functions of npw-viewer.c. -/
def NPPOp.refused : (op : NPPOp) → op.Params → Option op.Result
  | getValue, p => orElse p.plugin.isNone ⟨NPError.invalidInstanceError, .initial (rpcTypeOfNPPVariable p.npVariable)⟩
  | urlNotify, p => orElse p.plugin.isNone ()
  | writeReady, p => orElse (p.plugin.isNone || p.stream.isNone) 0
  | write, p => orElse (p.plugin.isNone || p.stream.isNone) (-1)
  | streamAsFile, p => orElse (p.plugin.isNone || p.stream.isNone) ()
  | handleEvent, p => orElse p.plugin.isNone 0
  | clearSiteData, _ => none

def NPPOp.missing : (op : NPPOp) → op.Params → op.Result
  | getValue, p => ⟨NPError.invalidFunctableError, .initial (rpcTypeOfNPPVariable p.npVariable)⟩
  | urlNotify, _ | streamAsFile, _ => ()
  | writeReady, _ | handleEvent, _ => 0
  | write, _ => -1
  | clearSiteData, _ => NPError.invalidFunctableError

def refused : (side : ConnectionType) → (op : (interface side).Op) → (interface side).Params op → Option ((interface side).Result op)
  | .server => NPPOp.refused
  | .client => NPNOp.refused

def missing : (side : ConnectionType) → (op : (interface side).Op) → (interface side).Params op → (interface side).Result op
  | .server => NPPOp.missing
  | .client => NPNOp.missing

/-- NPNetscapeFuncs and NPPluginFuncs: the functions that the browser and the plugin provide, which call each other's. -/
abbrev Functions (W : Type) :=
  (side : ConnectionType) → (op : (interface side).Op) →
    Option ((interface side).Params op → Program (interface side.other) W ((interface side).Result op))

/-- A function with the checks that are made on its side. -/
def checked {W : Type} (functions : Functions W) (side : ConnectionType) (op : (interface side).Op)
    (p : (interface side).Params op) : Program (interface side.other) W ((interface side).Result op) :=
  match refused side op p, functions side op with
  | some r, _ => .done r
  | none, some f => f p
  | none, none => .done (missing side op p)

end Forward
end NSPluginWrapper
