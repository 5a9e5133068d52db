import NSPluginWrapper.Plugin.Info
import NSPluginWrapper.Rpc.Message

/-! npw-player.c: a stream of the standalone player. Its callbacks are the idle functions that open it and commit its
    buffers, and those of curl for data and for the end; all run in the main loop. -/

namespace NSPluginWrapper
namespace Player

/-- A callback goes on with a stream that stream_destroy() has freed. -/
inductive Fault where
  | freedStream
  deriving Repr, DecidableEq

inductive UriType where
  | unknown
  | file
  | http
  | ftp
  deriving Repr, DecidableEq

namespace NPStreamType
abbrev normal : UInt16 := 1
abbrev asFile : UInt16 := 3
abbrev asFileOnly : UInt16 := 4
end NPStreamType

/-- The file that NPP_StreamAsFile() is given: the temporary one, with what is in it, or the one of the url. -/
inductive File where
  | temporary (content : List UInt8)
  | url
  deriving Repr, DecidableEq

/-- A call of the plugin. NPP_NewStream tells its result, NPP_Write what it offers and what of it is accepted, and the
    last two the reason, which is either NPRES_DONE or NPRES_NETWORK_ERR. -/
inductive Call where
  | newStream (mimeType : Option String) (ret : NPError)
  | writeReady
  | write (offset : Int) (bytes : List UInt8) (accepted : Int)
  | asFile (file : File)
  | destroyStream (networkErr : Bool)
  | urlNotify (networkErr : Bool)
  deriving Repr, DecidableEq

/-- StreamBuffer. -/
structure Buffer where
  bytes : List UInt8
  offset : Nat
  deriving Repr, DecidableEq

/-- `size` and `offset` are of type `guint`. -/
def Buffer.size (buffer : Buffer) : Nat := buffer.bytes.length

/-- What curl has of a stream: nothing yet, a transfer, one that is done, or nothing any more. -/
inductive Network where
  | idle
  | active
  | done
  | removed
  deriving Repr, DecidableEq

/-- StreamInstance, with the sources of the main loop that are for it. `javascript` is what on_stream_close_cb makes of
    a javascript: url, and `content` the type that get_mime_type_from_content() tells. `calls` and `received`, what the
    network gave, are for the theorems. -/
structure Stream where
  pluginMimeType : Option String
  content : List UInt8 → Option String
  javascript : Option (Option (List UInt8))
  mimeType : Option String
  notifyData : Bool
  stype : UInt16
  uriType : UriType
  active : Bool
  error : Bool
  finish : Bool
  destroy : Bool
  curlHandle : Bool
  tempFile : Option (List UInt8)
  commitSource : Bool
  buffers : List Buffer
  offset : Nat
  isFreed : Bool
  openIdles : Nat
  commitIdles : Nat
  network : Network
  calls : List Call
  received : List UInt8

namespace Stream

def call (s : Stream) (c : Call) : Stream := { s with calls := s.calls ++ [c] }

/-- What of its calls the plugin answers while one callback runs. -/
structure Answers where
  newStream : NPError
  stype : UInt16
  writeReady : Int32
  write : Int32
  deriving Repr, DecidableEq

def gNPPNewStream (s : Stream) (ret : NPError) (stype : UInt16) : Stream :=
  { s.call (.newStream s.mimeType ret) with stype := stype }

/-- `fname` in stream_destroy(). -/
def fname (s : Stream) : File :=
  match s.tempFile with
  | some content => .temporary content
  | none => .url

/-- `status & STREAM_STATUS_DESTROY`: the plugin is told of the end. -/
def tellEnd (s : Stream) : Stream :=
  let s := if s.stype = NPStreamType.asFile ∨ s.stype = NPStreamType.asFileOnly then
      s.call (.asFile s.fname)
    else s
  let s := s.call (.destroyStream s.error)
  if s.notifyData then s.call (.urlNotify s.error) else s

def streamDestroy (s : Stream) : Stream :=
  let s := if s.curlHandle then { s with network := .removed, curlHandle := false } else s
  let s := { s with buffers := [] }
  let s := if s.destroy then s.tellEnd else s
  { s with tempFile := none, mimeType := none, isFreed := true }

def streamCommit (s : Stream) : Stream :=
  if s.commitSource then s else { s with commitSource := true, commitIdles := s.commitIdles + 1 }

def streamScheduleDestroy (s : Stream) (now : Bool) : Stream :=
  streamCommit (if now then { s with destroy := true } else { s with finish := true })

def streamUseNPPWrite (s : Stream) : Bool := !(s.stype = NPStreamType.asFileOnly ∧ s.uriType = .file)

def usesTempFile (s : Stream) : Bool :=
  (s.stype = NPStreamType.asFile ∨ s.stype = NPStreamType.asFileOnly) ∧ s.tempFile.isSome

/-- The temporary file takes what is written, but fwrite() of nothing does not return 1. -/
def streamWrite (s : Stream) (buffer : Buffer) (len : Nat) (write : Int) : Int × Stream :=
  let bytes := (buffer.bytes.drop buffer.offset).take len
  if s.usesTempFile ∧ len = 0 then (-1, s)
  else
    let tempFile := if s.usesTempFile then s.tempFile.map (· ++ bytes) else s.tempFile
    let s := { s with tempFile := tempFile }
    if s.streamUseNPPWrite then (write, s.call (.write (cInt s.offset) bytes write)) else (len, s)

def streamBufferNew (bytes : List UInt8) : Buffer := ⟨bytes.take (bytes.length % 2 ^ 32), 0⟩

/-- The label of on_stream_commit_cb, and what follows it. -/
def forceDestroy (s : Stream) : Stream :=
  let s := { s with commitIdles := s.commitIdles - 1, commitSource := false }
  if s.destroy then s.streamDestroy else s

/-- From where on_stream_commit_cb has done with the first buffer. -/
def concludeCommit (s : Stream) : Stream :=
  let s := if s.buffers = [] ∧ s.finish then { s with destroy := true } else s
  if s.buffers = [] ∨ s.destroy then s.forceDestroy else s

/-- What stream_write() returned for the first buffer. -/
def takeWritten (s : Stream) (buffer : Buffer) (rest : List Buffer) (len : Int) : Stream :=
  if len < 0 then { s with error := true, destroy := true }
  else if 0 < len then
    let offset := (buffer.offset + len.toNat) % 2 ^ 32
    if buffer.size ≤ offset then { s with buffers := rest, offset := (s.offset + len.toNat) % 2 ^ 32 }
    else { s with buffers := { buffer with offset := offset } :: rest }
  else s

def streamWriteReady (s : Stream) (writeReady : Int) : Int × Stream :=
  if s.streamUseNPPWrite then (writeReady, s.call .writeReady) else (0x0fffff, s)

/-- The first buffer of an active stream. -/
def commitBuffer (s : Stream) (buffer : Buffer) (rest : List Buffer) (answers : Answers) : Stream :=
  let (writeReady, s) := s.streamWriteReady answers.writeReady.toInt
  if writeReady < 0 then { s with destroy := true }
  else if 0 < writeReady then
    let (len, s) := s.streamWrite buffer (min (buffer.size - buffer.offset) writeReady.toNat) answers.write.toInt
    s.takeWritten buffer rest len
  else s

/-- NPP_NewStream for a stream with data, from which it gets its type. -/
def startStream (s : Stream) (buffer : Buffer) (answers : Answers) : Stream :=
  { s with mimeType := (s.mimeType <|> s.content buffer.bytes) <|> s.pluginMimeType }.gNPPNewStream
    answers.newStream answers.stype

def onStreamCommitCb (s : Stream) (answers : Answers) : Stream :=
  match s.buffers with
  | [] => s.concludeCommit
  | buffer :: rest =>
    if s.active then (s.commitBuffer buffer rest answers).concludeCommit
    else if answers.newStream ≠ NPError.noError then (s.startStream buffer answers).forceDestroy
    else ({ s.startStream buffer answers with active := true }.commitBuffer buffer rest answers).concludeCommit

def onStreamReadCb (s : Stream) (bytes : List UInt8) : Stream :=
  { s with buffers := s.buffers ++ [streamBufferNew bytes], received := s.received ++ bytes }.streamCommit

/-- What the system gives while a stream is opened: the temporary file, and the handle of curl. -/
structure Opening where
  tempFile : Bool
  curl : Bool
  deriving Repr, DecidableEq

def startTransfer (s : Stream) (opening : Opening) : Stream :=
  if opening.curl then { s with curlHandle := true, network := .active } else s

def onStreamOpenCb (s : Stream) (opening : Opening) : Stream :=
  let s := { s with openIdles := s.openIdles - 1 }
  if s.stype = NPStreamType.normal then s.startTransfer opening
  else if s.stype = NPStreamType.asFile ∨ s.stype = NPStreamType.asFileOnly then
    if s.uriType ≠ .file then
      if opening.tempFile then { s with tempFile := some [] }.startTransfer opening else s
    else s.startTransfer opening
  else s

/-- What is done with a javascript: url, which curl cannot handle. -/
def runJavascript (s : Stream) : Stream :=
  match s.javascript with
  | none => s
  | some text =>
    let s := { s with mimeType := some "text/html" }
    match text with
    | none => s
    | some text => s.onStreamReadCb text

/-- For the transfer of this stream. -/
def onStreamCloseCb (s : Stream) : Stream :=
  let s := { s with network := .done }
  let s := if s.active then s
    else
      let s := s.runJavascript
      if s.buffers = [] then { s with error := true } else s
  s.streamScheduleDestroy false

/-- A new stream; one whose NPP_NewStream fails is freed again. -/
def streamNew (pluginMimeType type : Option String) (content : List UInt8 → Option String)
    (javascript : Option (Option (List UInt8))) (uriType : UriType) (notifyData : Bool) (answers : Answers) : Stream :=
  let s : Stream :=
    { pluginMimeType := pluginMimeType
      content := content
      javascript := javascript
      mimeType := type
      notifyData := notifyData
      stype := NPStreamType.normal
      uriType := uriType
      active := false
      error := false
      finish := false
      destroy := false
      curlHandle := false
      tempFile := none
      commitSource := false
      buffers := []
      offset := 0
      isFreed := false
      openIdles := 0
      commitIdles := 0
      network := .idle
      calls := []
      received := [] }
  if notifyData then { s with openIdles := 1 }
  else
    let s := s.gNPPNewStream answers.newStream answers.stype
    if answers.newStream ≠ NPError.noError then { s with isFreed := true }
    else { s with active := true, openIdles := 1 }

inductive Event where
  | opens (opening : Opening)
  | data (bytes : List UInt8)
  | closes
  | commit (answers : Answers)
  deriving Repr, DecidableEq

/-- What the main loop may call. -/
def Allowed (s : Stream) : Event → Prop
  | .opens _ => 0 < s.openIdles
  | .data _ | .closes => s.network = .active
  | .commit _ => 0 < s.commitIdles

def exec (s : Stream) (e : Event) : Except Fault Stream :=
  if s.isFreed then .error .freedStream
  else .ok <| match e with
    | .opens opening => s.onStreamOpenCb opening
    | .data bytes => s.onStreamReadCb bytes
    | .closes => s.onStreamCloseCb
    | .commit answers => s.onStreamCommitCb answers

end Stream
end Player
end NSPluginWrapper
