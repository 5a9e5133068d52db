import NSPluginWrapper.Npapi.Ids
import NSPluginWrapper.Npapi.Marshal
import NSPluginWrapper.Plugin.Info

/-! npw-wrapper.c: the calls that take an id before others are done, invoke_NPP_Print and handle_NPN_NewStream, and
    those that run within them. -/

namespace NSPluginWrapper
open Lib

/-- How invoke_NPP_Print() fares with the viewer. -/
inductive PrintOutcome where
  | impossible
  | invokeFails
  | replyFails
  | replies (pluginPrinted : UInt32)
  deriving Repr, DecidableEq

def NPPrint.setPluginPrinted (pluginPrinted : UInt32) : NPPrint → NPPrint
  | .full fullPrint => .full { fullPrint with pluginPrinted := pluginPrinted.toUInt8 }
  | printInfo => printInfo

def NPPrint.supported : NPPrint → Bool
  | .full _ => true
  | .embed _ => true
  | .other _ => false

/-- With a `platformPrint`, NULL is 0. The `nested` calls come from the viewer while it is waited for. -/
def invokeNPPPrint (printInfo : NPPrint) (platformPrint : UInt64) (o : PrintOutcome) (nested : Ids → Ids) (ids : Ids) :
    Ids × NPPrint :=
  if !printInfo.supported then (ids, printInfo)
  else
    let (ids, platformPrintId) := if platformPrint ≠ 0 then ids.create platformPrint else (ids, 0)
    match o with
    | .impossible => (ids, printInfo)
    | .invokeFails => (nested ids, printInfo)
    | .replyFails => (nested ids, printInfo)
    | .replies pluginPrinted =>
      let ids := nested ids
      (if platformPrintId ≠ 0 then ids.remove platformPrintId else ids, printInfo.setPluginPrinted pluginPrinted)

/-- What the browser says of a stream. -/
structure NPStreamData where
  url : Option CString
  «end» : UInt32
  lastmodified : UInt32
  notifyData : UInt64
  headers : Option CString
  deriving Repr, DecidableEq

/-- A stream, and in `pdata` the id of its StreamInstance, none where the wrapper has not set it. -/
structure BrowserStream where
  data : NPStreamData
  pdata : Option Int32
  deriving Repr, DecidableEq

def fakeNPStream : BrowserStream := ⟨⟨none, 0, 0, 0, none⟩, some 0⟩

/-- What NPN_NewStream meets: the browser's function, if it has one, and the address of the StreamInstance. -/
structure NewStreamOutcome where
  newstream : Option (NPError × NPStreamData)
  malloc : Option UInt64
  hasResponseHeaders : Bool
  deriving Repr, DecidableEq

def NPError.outOfMemoryError : NPError := 5

/-- The return value and `*stream`, none where it is not set. -/
def gNPNNewStream (o : NewStreamOutcome) (nested : Ids → Ids) (ids : Ids) : Ids × NPError × Option BrowserStream :=
  match o.newstream with
  | none => (ids, NPError.invalidFunctableError, none)
  | some (ret, stream) =>
    let ids := nested ids
    if ret = NPError.noError then
      match o.malloc with
      | none => (ids, NPError.outOfMemoryError, some ⟨stream, none⟩)
      | some streamPdata =>
        let (ids, streamId) := ids.create streamPdata
        (ids, ret, some ⟨stream, some streamId⟩)
    else (ids, ret, some fakeNPStream)

/-- The arguments of the reply. -/
structure NewStreamReply where
  ret : NPError
  streamId : UInt32
  stream : NPStreamData
  deriving Repr, DecidableEq

/-- The reply, none where it is read from what is not set. -/
def handleNPNNewStream (o : NewStreamOutcome) (nested : Ids → Ids) (ids : Ids) : Ids × Option NewStreamReply :=
  match gNPNNewStream o nested ids with
  | (ids, ret, stream) =>
    (ids, do
      let stream ← stream
      let streamId ← stream.pdata
      let headers := if o.hasResponseHeaders then stream.data.headers else none
      some ⟨ret, streamId.toUInt32, { stream.data with headers }⟩)

/-- Calls one after the other, each with what runs within it. `idCreate` and `idRemove` are what all other functions
    do with the ids. -/
inductive WrapperCalls where
  | done
  | print (printInfo : NPPrint) (platformPrint : UInt64) (o : PrintOutcome) (nested rest : WrapperCalls)
  | newStream (o : NewStreamOutcome) (nested rest : WrapperCalls)
  | idCreate (ptr : UInt64) (rest : WrapperCalls)
  | idRemove (id : Int32) (rest : WrapperCalls)

def WrapperCalls.run : WrapperCalls → Ids → Ids
  | .done, ids => ids
  | .print printInfo platformPrint o nested rest, ids => rest.run (invokeNPPPrint printInfo platformPrint o nested.run ids).1
  | .newStream o nested rest, ids => rest.run (handleNPNNewStream o nested.run ids).1
  | .idCreate ptr rest, ids => rest.run (ids.create ptr).1
  | .idRemove id rest, ids => rest.run (ids.remove id)

end NSPluginWrapper
