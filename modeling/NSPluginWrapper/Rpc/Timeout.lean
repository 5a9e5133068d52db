import NSPluginWrapper.Rpc.Connection
import NSPluginWrapper.Rpc.Message

/-! rpc.c: how long the connection and a message are waited for. The seconds come from the environment, and are scaled in
    an `int`. -/

namespace NSPluginWrapper
namespace Timeout

/-- atoi() of the C locale, where `long` has 64 bits: too many digits make LONG_MIN or LONG_MAX. -/
def atoi (str : CString) : Int32 :=
  let str := str.bytes.dropWhile fun ch => ch = 32 ∨ (9 ≤ ch ∧ ch ≤ 13)
  let digits := match str with
    | 43 :: str | 45 :: str => str
    | _ => str
  let n : Int := (digits.takeWhile fun ch => 48 ≤ ch ∧ ch ≤ 57).foldl (fun n ch => n * 10 + (ch.toNat - 48)) 0
  .ofInt (max (-2 ^ 63) (min (if str.head? = some 45 then -n else n) (2 ^ 63 - 1)))

/-- A number of seconds that is accepted. -/
structure Seconds where
  toInt32 : Int32
  positive : 0 < toInt32
  deriving DecidableEq

/-- What the two functions below have in common: anything else than a positive number stands for the default. -/
def seconds (timeoutStr : Option CString) (default : Seconds) : Seconds :=
  if h : 0 < (timeoutStr.map atoi).getD 0 then ⟨_, h⟩ else default

/-- The value of NPW_MESSAGE_TIMEOUT, or 30 seconds. -/
def rpcMessageTimeout (timeoutStr : Option CString) : Seconds := seconds timeoutStr ⟨30, by decide⟩

/-- The value of NPW_INIT_TIMEOUT, or 5 seconds. -/
def rpcInitTimeout (timeoutStr : Option CString) : Seconds := seconds timeoutStr ⟨5, by decide⟩

/-! ### Messages -/

inductive PollOp where
  | read
  | write
  deriving Repr, DecidableEq

structure Timeval where
  sec : Int
  usec : Int
  deriving Repr, DecidableEq

/-- What select() is asked for. -/
@[ext]
structure Wait where
  op : PollOp
  tv : Timeval
  deriving Repr, DecidableEq

def rpcPoll (op : PollOp) (timeout : Int32) : Wait := ⟨op, (timeout / 1000000).toInt, (timeout % 1000000).toInt⟩

/-- What select() returns: a positive value, 0, or -1 with errno. -/
inductive Polled where
  | ready
  | timedOut
  | interrupted
  | failed
  deriving Repr, DecidableEq

/-- What send() and recv() do: they move some bytes, find the connection closed, or cannot go on at once, or for good. -/
inductive Moved where
  | bytes (n : Nat)
  | closed
  | again (polled : Polled)
  | interrupted
  | failed
  deriving Repr, DecidableEq

/-- The common loop of _rpc_message_send_bytes() and _rpc_message_recv_bytes(): its result, if it has come to one, and
    the waits that it made. -/
def moveBytes (op : PollOp) (timeout : Seconds) (count : Int) : List Moved → Option Int × List Wait
  | [] => (none, [])
  | moved :: later =>
    match moved with
    | .bytes n => if 0 < count - n then moveBytes op timeout (count - n) later else (some RpcError.noError, [])
    | .closed => (some RpcError.connectionClosed, [])
    | .again polled =>
      let wait := rpcPoll op (timeout.toInt32 * 1000000)
      match polled with
      | .timedOut => (some RpcError.messageTimeout, [wait])
      | .failed => (some RpcError.errnoSet, [wait])
      | .ready | .interrupted =>
        if 0 < count then
          let (result, waits) := moveBytes op timeout count later
          (result, wait :: waits)
        else (some RpcError.noError, [wait])
    | .interrupted => if 0 < count then moveBytes op timeout count later else (some RpcError.noError, [])
    | .failed => (some RpcError.errnoSet, [])

def rpcMessageSendBytes (timeout : Seconds) (count : Int) (moved : List Moved) : Option Int × List Wait :=
  moveBytes .write timeout count moved

def rpcMessageRecvBytes (timeout : Seconds) (count : Int) (moved : List Moved) : Option Int × List Wait :=
  moveBytes .read timeout count moved

/-! ### Connections -/

/-- What connect() does, by its errno. -/
inductive Connected where
  | ok
  | connRefused
  | noEnt
  | failed
  deriving Repr, DecidableEq

/-- What becomes of a connection, and what the attempts to connect it gave. -/
structure Client where
  connection : Option Connection
  attempts : List Connected

/-- The loop, with what is left of `n_connect_attempts`. -/
def connectLoop (connect : Nat → Connected) (i : Nat) : Nat → Client
  | 0 => ⟨none, []⟩
  | n + 1 =>
    match connect i with
    | .ok => ⟨some (.rpcInit .client), [.ok]⟩
    | .failed =>
      if 0 < n then ⟨none, [.failed]⟩
      else
        let client := connectLoop connect (i + 1) n
        { client with attempts := .failed :: client.attempts }
    | connected =>
      let client := connectLoop connect (i + 1) n
      { client with attempts := connected :: client.attempts }

def nConnectAttempts (timeout : Seconds) : Int32 :=
  let n := (timeout.toInt32 * 1000) / 10
  if n = 0 then 1 else n

/-- The connection is there, with its socket. -/
def rpcInitClient (timeout : Seconds) (connect : Nat → Connected) : Client :=
  let n := nConnectAttempts timeout
  if 0 < n then connectLoop connect 0 n.toInt.toNat
  -- the loop is not entered, and the counter is not 0
  else ⟨some (.rpcInit .client), []⟩

end Timeout
end NSPluginWrapper
