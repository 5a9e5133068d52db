import Mathlib.Logic.Function.Basic
import NSPluginWrapper.Lib.Machine
import NSPluginWrapper.Lib.Table

/-! npw-wrapper.c and npw-viewer.c: the streams on both sides, from NPP_NewStream or NPN_NewStream to the calls that
    destroy them, with the calls that run while one of them waits. The records of one stream have its number: the
    NPStream of the browser, the StreamInstance of the wrapper, and the NPStream of the viewer. -/

namespace NSPluginWrapper
open Lib

namespace Streams

/-- A record is used after it was freed. -/
inductive Fault where
  /-- An NPStream of the browser. -/
  | browserStream
  /-- A StreamInstance of the wrapper. -/
  | streamInstance
  /-- An NPStream of the viewer, or its StreamInstance. -/
  | viewerStream
  deriving Repr, DecidableEq

/-- What the browser has done with an NPStream. -/
inductive Phase where
  | opening
  | refused
  | opened
  | closing
  | closed
  deriving Repr, DecidableEq

/-- NPStream of the browser. For the theorems, `ofPlugin` says that NPN_NewStream made it, and `phase` how far it is. -/
structure BrowserStream where
  pdata : Option Nat
  ofPlugin : Bool
  phase : Phase
  isFreed : Bool
  deriving Repr, DecidableEq

/-- StreamInstance of the wrapper. -/
structure StreamInstance where
  stream : Nat
  streamId : UInt32
  isPluginStream : Bool
  isFreed : Bool
  deriving Repr, DecidableEq

/-- NPStream of the viewer, with the StreamInstance in its `ndata`: they are made and freed together. For the theorems,
    `refused` says that the plugin's NPP_NewStream returned an error for it. -/
structure ViewerStream where
  streamId : UInt32
  isPluginStream : Bool
  isFreed : Bool
  refused : Bool
  deriving Repr, DecidableEq

/-- A call that has not returned: of the plugin (`npp`) or of the browser (`npn`), with the stream on both sides. A
    source of the viewer's main loop runs as `npp`, since the wrapper waits meanwhile. -/
inductive Frame where
  | nppNewStream (k : Nat)
  | nppDestroyStream (b v : Nat)
  /-- NPP_WriteReady, NPP_Write or NPP_StreamAsFile. -/
  | nppWrite (b v : Nat)
  | npp
  | npnNewStream
  | npnDestroyStream (v b : Nat)
  /-- NPN_Write or NPN_RequestRead. -/
  | npnWrite (v b : Nat)
  | npn
  deriving Repr, DecidableEq

namespace Frame

/-- The plugin runs, not the browser. -/
def isNPP : Frame → Bool
  | nppNewStream _ | nppDestroyStream .. | nppWrite .. | npp => true
  | npnNewStream | npnDestroyStream .. | npnWrite .. | npn => false

/-- The viewer's stream that is used when the call has returned. -/
def awaits : Frame → Option Nat
  | nppNewStream v | nppDestroyStream _ v | npnDestroyStream v _ => some v
  | _ => none

/-- The browser's stream that the call is about. -/
def about : Frame → Option Nat
  | nppNewStream b | nppDestroyStream b _ | nppWrite b _ | npnDestroyStream _ b | npnWrite _ b => some b
  | _ => none

end Frame
end Streams

open Streams in
/-- `ids` is `g_ids` of the wrapper and `viewerIds` that of the viewer, as far as they have streams. -/
structure Streams where
  browserStreams : Nat → Option BrowserStream
  instances : Nat → Option StreamInstance
  ids : Table UInt32 Nat
  lastId : UInt32
  viewerStreams : Nat → Option ViewerStream
  viewerIds : Table UInt32 Nat
  stack : List Frame

namespace Streams

abbrev Result := Except Fault Streams

def started : Streams := ⟨fun _ => none, fun _ => none, ∅, 0, fun _ => none, ∅, []⟩

def browserStream (s : Streams) (b : Nat) : Except Fault BrowserStream :=
  match s.browserStreams b with
  | some n => if n.isFreed then .error .browserStream else .ok n
  | none => .error .browserStream

def streamInstance (s : Streams) (w : Nat) : Except Fault StreamInstance :=
  match s.instances w with
  | some y => if y.isFreed then .error .streamInstance else .ok y
  | none => .error .streamInstance

def viewerStream (s : Streams) (v : Nat) : Except Fault ViewerStream :=
  match s.viewerStreams v with
  | some x => if x.isFreed then .error .viewerStream else .ok x
  | none => .error .viewerStream

def putBrowserStream (s : Streams) (b : Nat) (n : BrowserStream) : Streams :=
  { s with browserStreams := Function.update s.browserStreams b (some n) }

/-- A StreamInstance of the wrapper is freed, and its id goes first. -/
def freeInstance (s : Streams) (w : Nat) (y : StreamInstance) : Streams :=
  { s with ids := s.ids.erase y.streamId,
           instances := Function.update s.instances w (some { y with isFreed := true }) }

/-- The same in the viewer, with the NPStream. -/
def freeStream (s : Streams) (v : Nat) (x : ViewerStream) : Streams :=
  { s with viewerIds := s.viewerIds.erase x.streamId,
           viewerStreams := Function.update s.viewerStreams v (some { x with isFreed := true }) }

def push (s : Streams) (frame : Frame) : Streams := { s with stack := frame :: s.stack }

/-! ### npw-rpc.c: a stream goes as its id, 0 where it has none -/

/-- do_send_NPStream in the wrapper. -/
def sendToViewer (s : Streams) (b : Nat) : Except Fault UInt32 :=
  (s.browserStream b).bind fun n => n.pdata.elim (.ok 0) fun w => (s.streamInstance w).map (·.streamId)

/-- do_recv_NPStream in the viewer. -/
def receiveInViewer (s : Streams) (id : UInt32) : Except Fault (Option Nat) :=
  (s.viewerIds.lookup id).elim (.ok none) fun v => (s.viewerStream v).map fun _ => some v

/-- do_send_NPStream in the viewer. -/
def sendToWrapper (s : Streams) (v : Nat) : Except Fault UInt32 := (s.viewerStream v).map (·.streamId)

/-- do_recv_NPStream in the wrapper. -/
def receiveInWrapper (s : Streams) (id : UInt32) : Except Fault (Option Nat) :=
  (s.ids.lookup id).elim (.ok none) fun w => (s.streamInstance w).map fun y => some y.stream

/-! ### Streams of the browser -/

/-- id_create() in the wrapper and id_link() in the viewer, with the records of a new stream. -/
def newStream (s : Streams) (k : Nat) (ofPlugin : Bool) (phase : Phase) : Streams :=
  let id := s.lastId + 1
  { s with browserStreams := Function.update s.browserStreams k (some ⟨some k, ofPlugin, phase, false⟩),
           instances := Function.update s.instances k (some ⟨k, id, ofPlugin, false⟩),
           ids := s.ids.insert id k,
           lastId := id,
           viewerStreams := Function.update s.viewerStreams k (some ⟨id, ofPlugin, false, false⟩),
           viewerIds := s.viewerIds.insert id k }

/-- handle_NPP_NewStream behind the plugin's `newstream`, which may be missing and then fails, and the reply in
    invoke_NPP_NewStream: both have `stream->notifyData`. -/
def newstreamReturned (s : Streams) (k : Nat) (ok : Bool) : Result :=
  (s.viewerStream k).bind fun x =>
    (s.browserStream k).map fun n =>
      let phase := if n.phase = .opening then if ok then .opened else .refused else n.phase
      { s with viewerStreams := Function.update s.viewerStreams k (some { x with refused := x.refused || !ok }) }.putBrowserStream k
        { n with phase }

/-- g_NPP_DestroyStream of the wrapper behind the viewer's reply. -/
def nppDestroyed (s : Streams) (b : Nat) : Result :=
  (s.browserStream b).bind fun n =>
    n.pdata.elim (.ok (s.putBrowserStream b { n with phase := .closed })) fun w =>
      (s.streamInstance w).map fun y =>
        (s.freeInstance w y).putBrowserStream b { n with pdata := none, phase := .closed }

/-- g_NPP_DestroyStream as far as the plugin's `destroystream`, which is there or not. -/
def nppDestroyStream (s : Streams) (destroystream : Bool) (b : Nat) : Result :=
  (s.sendToViewer b).bind fun id => (s.browserStream b).bind fun n =>
    let s := s.putBrowserStream b { n with phase := .closing }
    (s.receiveInViewer id).bind fun stream =>
      match if destroystream then stream else none with
      | some v => .ok (s.push (.nppDestroyStream b v))
      | none => s.nppDestroyed b

/-- The rest of the viewer's g_NPP_DestroyStream, and of the wrapper's. -/
def destroystreamReturned (s : Streams) (b v : Nat) : Result :=
  (s.viewerStream v).bind fun x => (s.freeStream v x).nppDestroyed b

/-- g_NPP_Write and the like as far as the plugin's function, which is not called for a stream that is unknown. -/
def nppWrite (s : Streams) (b : Nat) : Result :=
  (s.sendToViewer b).bind fun id => (s.receiveInViewer id).map fun stream =>
    stream.elim s fun v => s.push (.nppWrite b v)

/-! ### Streams of the plugin -/

/-- g_NPN_DestroyStream of the wrapper, as far as `destroystream` of the browser. -/
def freePluginStream (s : Streams) (b : Nat) : Result :=
  (s.browserStream b).bind fun n =>
    n.pdata.elim (.ok s) fun w =>
      (s.streamInstance w).map fun y =>
        if y.isPluginStream then
          (s.freeInstance w y).putBrowserStream b { n with pdata := none, phase := .closing }
        else s

/-- The rest of g_NPN_DestroyStream of the viewer. -/
def npnDestroyed (s : Streams) (v : Nat) : Result :=
  (s.viewerStream v).map fun x => if x.isPluginStream then s.freeStream v x else s

def npnDestroyStream (s : Streams) (v : Nat) : Result :=
  (s.sendToWrapper v).bind fun id => (s.receiveInWrapper id).bind fun stream =>
    stream.elim (s.npnDestroyed v) fun b => (s.freePluginStream b).map (·.push (.npnDestroyStream v b))

/-- The browser is through with a stream of the plugin. -/
def browserDestroyed (s : Streams) (b : Nat) : Streams :=
  match s.browserStreams b with
  | some n => if n.ofPlugin then s.putBrowserStream b { n with phase := .closed } else s
  | none => s

def npnWrite (s : Streams) (v : Nat) : Result :=
  (s.sendToWrapper v).bind fun id => (s.receiveInWrapper id).bind fun stream =>
    stream.elim (.ok s) fun b => (s.browserStream b).map fun _ => s.push (.npnWrite v b)

/-! ### Runs -/

inductive Event where
  | nppNewStream (k : Nat)
  | nppDestroyStream (b : Nat)
  | nppWrite (b : Nat)
  | npp
  | npnNewStream
  | npnDestroyStream (v : Nat)
  | npnWrite (v : Nat)
  | npn
  /-- The plugin returns; `ok` says that there is no error. -/
  | nppReturns (ok : Bool)
  /-- The browser returns, from NPN_NewStream with a stream or with an error. -/
  | npnReturns (stream : Option Nat)
  | browserFrees (b : Nat)
  /-- The wrapper takes an id for something else. -/
  | idCreate
  deriving Repr, DecidableEq

/-- The call that has not returned returns. None where it is one of the other side. -/
def nppReturns (s : Streams) (ok : Bool) : Option Result :=
  match s.stack with
  | .nppNewStream k :: stack => some ({ s with stack }.newstreamReturned k ok)
  | .nppDestroyStream b v :: stack => some ({ s with stack }.destroystreamReturned b v)
  | .nppWrite _ _ :: stack => some (.ok { s with stack })
  | .npp :: stack => some (.ok { s with stack })
  | _ => none

def npnReturns (s : Streams) (stream : Option Nat) : Option Result :=
  match s.stack with
  | .npnNewStream :: stack => some (.ok (stream.elim { s with stack } fun k => { s with stack }.newStream k true .opened))
  | .npnDestroyStream v b :: stack => some (({ s with stack }.browserDestroyed b).npnDestroyed v)
  | .npnWrite _ _ :: stack => some (.ok { s with stack })
  | .npn :: stack => some (.ok { s with stack })
  | _ => none

def exec (s : Streams) (destroystream : Bool) : Event → Option Result
  | .nppNewStream k => some (.ok ((s.newStream k false .opening).push (.nppNewStream k)))
  | .nppDestroyStream b => some (s.nppDestroyStream destroystream b)
  | .nppWrite b => some (s.nppWrite b)
  | .npp => some (.ok (s.push .npp))
  | .npnNewStream => some (.ok (s.push .npnNewStream))
  | .npnDestroyStream v => some (s.npnDestroyStream v)
  | .npnWrite v => some (s.npnWrite v)
  | .npn => some (.ok (s.push .npn))
  | .nppReturns ok => s.nppReturns ok
  | .npnReturns stream => s.npnReturns stream
  | .browserFrees b => some ((s.browserStream b).map fun n => s.putBrowserStream b { n with isFreed := true })
  | .idCreate => some (.ok { s with lastId := s.lastId + 1 })

def pluginRuns (s : Streams) : Bool := s.stack.head?.any Frame.isNPP

/-- A new stream, for which the counter of the ids has not come round to one that a stream still has. -/
def Fresh (s : Streams) (k : Nat) : Prop :=
  s.browserStreams k = none ∧ s.lastId + 1 ≠ 0 ∧ s.ids.lookup (s.lastId + 1) = none ∧
    s.viewerIds.lookup (s.lastId + 1) = none

/-- The browser has a stream of its own on the way to the plugin. -/
def InUse (s : Streams) (b : Nat) : Prop :=
  ∃ n, s.browserStreams b = some n ∧ n.ofPlugin = false ∧ (n.phase = .opening ∨ n.phase = .opened)

/-- The plugin has a stream that it did not refuse. -/
def Given (s : Streams) (v : Nat) : Prop :=
  ∃ x, s.viewerStreams v = some x ∧ x.isFreed = false ∧ x.refused = false

/-- What NPAPI allows: either side calls the other while its own code runs, the browser has NPP_DestroyStream called
    once for a stream and keeps it until the calls about it have returned, and the plugin uses no stream that it
    refused or that is gone. -/
def Allowed (s : Streams) : Event → Prop
  | .nppNewStream k => s.pluginRuns = false ∧ s.Fresh k
  | .nppDestroyStream b | .nppWrite b => s.pluginRuns = false ∧ s.InUse b
  | .npp => s.pluginRuns = false
  | .npnNewStream | .npn => s.pluginRuns = true
  | .npnDestroyStream v | .npnWrite v => s.pluginRuns = true ∧ s.Given v
  | .npnReturns stream => ∀ k, stream = some k → s.Fresh k
  | .browserFrees b => ∃ n, s.browserStreams b = some n ∧ n.isFreed = false ∧
      (n.phase = .refused ∨ n.phase = .closed) ∧ ∀ frame ∈ s.stack, frame.about ≠ some b
  | .nppReturns _ | .idCreate => True

/-- No call waits that uses the viewer's stream once it has returned. -/
def Free (s : Streams) (v : Nat) : Prop := ∀ frame ∈ s.stack, frame.awaits ≠ some v

/-- A stream is destroyed when no call that uses it still waits. -/
def Clear (s : Streams) (destroystream : Bool) : Event → Prop
  | .nppDestroyStream b => destroystream = true → s.Free b
  | .npnDestroyStream v => (s.viewerStreams v).any (·.isPluginStream) = true → s.Free v
  | _ => True

end Streams

/-- Every run of both sides, with a plugin that has a `destroystream` or none. -/
def streams (destroystream : Bool) : Machine (Except Streams.Fault Streams) Streams.Event where
  init s := s = .ok .started
  step s e t := ∃ v, s = .ok v ∧ v.Allowed e ∧ v.exec destroystream e = some t

/-- The runs that destroy a stream only when no call that uses it still waits. -/
def clearStreams (destroystream : Bool) : Machine (Except Streams.Fault Streams) Streams.Event :=
  (streams destroystream).restrict fun s e => ∀ v, s = .ok v → v.Clear destroystream e

end NSPluginWrapper
