import NSPluginWrapper.Lib.Words
import NSPluginWrapper.Rpc.Codes

/-! rpc_message_t: the bytes of a message on the socket. A message is written through a buffer of BUFSIZ
    bytes and read straight from the socket; what the kernel makes of every call is given by a script. -/

namespace NSPluginWrapper
open Lib

/-- How an operation stops short: with an error code, or where the process does not go on (a failed
    assertion, memory that is not its own). -/
inductive Failure where
  | error (code : Int)
  | fault
  deriving Repr, DecidableEq

/-- A number as a C `int` holds it. -/
def cInt (n : Int) : Int := n.bmod (2 ^ 32)

/-- What rpc_poll says of a socket that was not ready. -/
inductive Poll where
  | ready
  | timedOut
  | interrupted
  | failed
  deriving Repr, DecidableEq

/-! ### Sending -/

/-- What one send() comes to. -/
inductive SendEvent where
  | wrote (n : Nat)
  | again (poll : Poll)
  | interrupted
  | reset
  | failed
  deriving Repr, DecidableEq

/-- A message being written: the bytes `sent` so far, the `buffer` up to its offset, and what the coming
    send() calls do; past the script the socket takes everything. -/
structure OutMessage where
  sent : List UInt8
  buffer : List UInt8
  script : List SendEvent
  deriving Repr, DecidableEq

abbrev Send := EStateM Failure OutMessage

/-- BUFSIZ. -/
abbrev bufSize : Nat := 8192

/-- How many bytes send() may take: `count` is a `size_t` there, so a negative one bounds nothing. -/
def sendRoom (bytes : List UInt8) (count : Int) : Nat :=
  if count < 0 then bytes.length else count.toNat

/-- The loop of `_rpc_message_send_bytes`, over what the coming send() calls do. -/
def sendLoop : List SendEvent → List UInt8 → Int → OutMessage → EStateM.Result Failure OutMessage Unit
  | [], bytes, count, m => .ok () { m with sent := m.sent ++ bytes.take (sendRoom bytes count), script := [] }
  | .wrote n :: es, bytes, count, m =>
    let n := min n (sendRoom bytes count)
    let m := { m with sent := m.sent ++ bytes.take n, script := es }
    if 0 < count - n then sendLoop es (bytes.drop n) (count - n) m else .ok () m
  | .again .ready :: es, bytes, count, m | .again .interrupted :: es, bytes, count, m
  | .interrupted :: es, bytes, count, m =>
    if 0 < count then sendLoop es bytes count m else .ok () { m with script := es }
  | .again .timedOut :: es, _, _, m => .error (.error RpcError.messageTimeout) { m with script := es }
  | .reset :: es, _, _, m => .error (.error RpcError.connectionClosed) { m with script := es }
  | .again .failed :: es, _, _, m | .failed :: es, _, _, m =>
    .error (.error RpcError.errnoSet) { m with script := es }

/-- The static `_rpc_message_send_bytes`. -/
def rpcMessageSendBytesRaw (bytes : List UInt8) (count : Int) : Send Unit := fun m =>
  sendLoop m.script bytes count m

/-- The buffer is empty afterwards whatever came of it. -/
def rpcMessageFlush : Send Unit := fun m =>
  match rpcMessageSendBytesRaw m.buffer m.buffer.length m with
  | .ok () m => .ok () { m with buffer := [] }
  | .error e m => .error e { m with buffer := [] }

/-- The bound is compared as a `size_t`: a negative sum is past it. memcpy() of a negative count runs off
    the buffer. -/
def rpcMessageSendBytes (bytes : List UInt8) (count : Int) : Send Unit := fun m =>
  if m.buffer.length + count < 0 ∨ bufSize ≤ m.buffer.length + count then
    (do rpcMessageFlush; rpcMessageSendBytesRaw bytes count) m
  else if count < 0 then
    .error .fault m
  else
    .ok () { m with buffer := m.buffer ++ bytes.take count.toNat }

def rpcMessageSendChar (c : UInt8) : Send Unit := rpcMessageSendBytes [c] 1

def rpcMessageSendUint32 (value : UInt32) : Send Unit := rpcMessageSendBytes (be32 value) 4

def rpcMessageSendInt32 (value : Int32) : Send Unit := rpcMessageSendBytes (be32 value.toUInt32) 4

def rpcMessageSendUint64 (value : UInt64) : Send Unit := do
  rpcMessageSendUint32 (hi32 value)
  rpcMessageSendUint32 (lo32 value)

/-! ### Doubles and strings -/

/-- An IEEE 754 double, as its 64 bits. -/
structure Double where
  bits : UInt64
  deriving Repr, DecidableEq

/-- ieee_double_shape_t's bit fields. -/
def Double.negative (d : Double) : UInt32 := UInt32.ofNat (d.bits.toNat / 2 ^ 63)
def Double.exponent (d : Double) : UInt32 := UInt32.ofNat (d.bits.toNat / 2 ^ 52 % 2 ^ 11)
def Double.mantissa0 (d : Double) : UInt32 := UInt32.ofNat (d.bits.toNat / 2 ^ 32 % 2 ^ 20)
def Double.mantissa1 (d : Double) : UInt32 := UInt32.ofNat (d.bits.toNat % 2 ^ 32)

/-- Each field keeps as many bits of its value as it is wide. -/
def Double.ofParts (negative exponent mantissa0 mantissa1 : UInt32) : Double where
  bits := UInt64.ofNat (negative.toNat % 2 * 2 ^ 63 + exponent.toNat % 2 ^ 11 * 2 ^ 52
    + mantissa0.toNat % 2 ^ 20 * 2 ^ 32 + mantissa1.toNat)

def rpcMessageSendDouble (value : Double) : Send Unit := do
  rpcMessageSendUint32 value.negative
  rpcMessageSendUint32 value.exponent
  rpcMessageSendUint32 value.mantissa0
  rpcMessageSendUint32 value.mantissa1

/-- What a `char *` points to: the bytes before the terminator. -/
structure CString where
  bytes : List UInt8
  unterminated : ∀ b ∈ bytes, b ≠ 0
  deriving Repr, DecidableEq

/-- The string that starts where these bytes do. -/
def CString.ofBytes (bs : List UInt8) : CString where
  bytes := bs.takeWhile (· ≠ 0)
  unterminated := fun b hb => by simpa using List.all_eq_true.mp List.all_takeWhile b hb

@[simp] theorem CString.ofBytes_bytes (s : CString) : CString.ofBytes s.bytes = s := by
  have hs : s.bytes.takeWhile (· ≠ 0) = s.bytes := by
    rw [← List.append_nil s.bytes, List.takeWhile_append_of_pos fun b hb => by simpa using s.unterminated b hb]
    simp
  cases s
  simpa [CString.ofBytes] using hs

/-- NULL is sent as the length -1. -/
def rpcMessageSendString (str : Option CString) : Send Unit := do
  let length : Int := match str with
    | some s => cInt s.bytes.length
    | none => -1
  rpcMessageSendInt32 (Int32.ofInt length)
  match str with
  | some s => if 0 < length then rpcMessageSendBytes s.bytes length else pure ()
  | none => pure ()

/-! ### Receiving -/

/-- What one recv() comes to: the bytes that have arrived, the end of the stream, or an error. -/
inductive RecvEvent where
  | data (b : UInt8) (bs : List UInt8)
  | closed
  | again (poll : Poll)
  | interrupted
  | failed
  deriving Repr, DecidableEq

def RecvEvent.bytes : RecvEvent → List UInt8
  | .data b bs => b :: bs
  | _ => []

/-- A message being read: what the coming recv() calls find, and whether the coming malloc() calls succeed.
    Past the script nothing arrives before the timeout; past `memory` they do. -/
structure InMessage where
  script : List RecvEvent
  memory : List Bool
  deriving Repr, DecidableEq

/-- What has arrived or will. -/
def InMessage.held (m : InMessage) : List UInt8 := m.script.flatMap RecvEvent.bytes

abbrev Recv := EStateM Failure InMessage

/-- The bytes a recv() left behind. -/
def leftover : List UInt8 → List RecvEvent
  | [] => []
  | b :: bs => [.data b bs]

/-- The loop of `_rpc_message_recv_bytes`. A recv() of no bytes returns 0, as at the end of the stream; a
    negative count is a `size_t` past everything that has arrived. -/
def recvLoop : List RecvEvent → Int → List UInt8 → InMessage →
    EStateM.Result Failure InMessage (List UInt8)
  | [], _, _, m => .error (.error RpcError.messageTimeout) { m with script := [] }
  | .data b bs :: es, count, got, m =>
    let n := if count < 0 then bs.length + 1 else min count.toNat (bs.length + 1)
    if n = 0 then .error (.error RpcError.connectionClosed) { m with script := .data b bs :: es }
    else
      let got := got ++ (b :: bs).take n
      if 0 < count - n then recvLoop es (count - n) got m
      else .ok got { m with script := leftover ((b :: bs).drop n) ++ es }
  | .again .ready :: es, count, got, m | .again .interrupted :: es, count, got, m
  | .interrupted :: es, count, got, m =>
    if 0 < count then recvLoop es count got m else .ok got { m with script := es }
  | .closed :: es, _, _, m => .error (.error RpcError.connectionClosed) { m with script := .closed :: es }
  | .again .timedOut :: es, _, _, m => .error (.error RpcError.messageTimeout) { m with script := es }
  | .again .failed :: es, _, _, m | .failed :: es, _, _, m =>
    .error (.error RpcError.errnoSet) { m with script := es }

def rpcMessageRecvBytes (count : Int) : Recv (List UInt8) := fun m => recvLoop m.script count [] m

/-- malloc(), or any call that hands out memory: whether it gave some. -/
def malloc : Recv Bool := fun m =>
  match m.memory with
  | [] => .ok true m
  | ok :: memory => .ok ok { m with memory }

def rpcMessageRecvChar : Recv UInt8 := do
  let bytes ← rpcMessageRecvBytes 1
  pure (bytes.headD 0)

def rpcMessageRecvUint32 : Recv UInt32 := ofBe32 <$> rpcMessageRecvBytes 4

def rpcMessageRecvInt32 : Recv Int32 := do
  let value ← rpcMessageRecvUint32
  pure value.toInt32

def rpcMessageRecvUint64 : Recv UInt64 := do
  let hi ← rpcMessageRecvUint32
  let lo ← rpcMessageRecvUint32
  pure (join32 hi lo)

def rpcMessageRecvDouble : Recv Double := do
  let negative ← rpcMessageRecvUint32
  let exponent ← rpcMessageRecvUint32
  let mantissa0 ← rpcMessageRecvUint32
  let mantissa1 ← rpcMessageRecvUint32
  pure (Double.ofParts negative exponent mantissa0 mantissa1)

/-- A length below -1 asks for a block that starts after `str[length]`. -/
def rpcMessageRecvString : Recv (Option CString) := do
  let length := (← rpcMessageRecvInt32).toInt
  if length = -1 then
    pure none
  else if !(← malloc) then
    throw (.error RpcError.noMemory)
  else if length < 0 then
    throw .fault
  else if 0 < length then
    (some ∘ CString.ofBytes) <$> rpcMessageRecvBytes length
  else
    pure (some (.ofBytes []))

end NSPluginWrapper
