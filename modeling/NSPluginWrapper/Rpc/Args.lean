import NSPluginWrapper.Lib.Codec
import NSPluginWrapper.Rpc.Message

/-! Typed argument lists: `rpc_message_send_args` and `rpc_message_recv_args`, over the user types a
    connection has descriptors for. -/

namespace NSPluginWrapper
open Lib

/-! ### Types -/

def builtinTypes : List Int32 :=
  [RpcType.invalid, RpcType.char, RpcType.boolean, RpcType.int32, RpcType.uint32, RpcType.uint64, RpcType.double,
    RpcType.string, RpcType.array]

/-- A number a descriptor may be registered under. -/
structure UserType where
  id : Int32
  notBuiltin : id ∉ builtinTypes
  deriving DecidableEq

/-- rpc_message_descriptor_t, for C values that are `size` bytes wide. -/
structure MessageDescriptor (V : Type) where
  size : Nat
  size_pos : 0 < size
  size_lt : size < 2 ^ 31
  sendCallback : V → Send Unit
  recvCallback : Recv V

/-- The `types` map of a connection. -/
abbrev TypeMap (V : Type) := UserType → Option (MessageDescriptor V)

/-! ### Arguments -/

section
variable {V : Type}

/-- What a non-NULL array argument points to. -/
inductive Elements (V : Type) where
  | char (xs : List UInt8)
  | boolean (xs : List Int32)
  | int32 (xs : List Int32)
  | uint32 (xs : List UInt32)
  | uint64 (xs : List UInt64)
  | double (xs : List Double)
  | string (xs : List (Option CString))
  | user (t : UserType) (xs : List V)

def Elements.type : Elements V → Int32
  | .char _ => RpcType.char
  | .boolean _ => RpcType.boolean
  | .int32 _ => RpcType.int32
  | .uint32 _ => RpcType.uint32
  | .uint64 _ => RpcType.uint64
  | .double _ => RpcType.double
  | .string _ => RpcType.string
  | .user t _ => t.id

def Elements.length : Elements V → Nat
  | .char xs => xs.length
  | .boolean xs | .int32 xs => xs.length
  | .uint32 xs => xs.length
  | .uint64 xs => xs.length
  | .double xs => xs.length
  | .string xs => xs.length
  | .user _ xs => xs.length

/-- The three arguments an array takes: its element type, its size and its address. -/
inductive ArrayArg (V : Type) where
  | null (type : Int32) (size : UInt32)
  | elements (es : Elements V)

def ArrayArg.type : ArrayArg V → Int32
  | .null type _ => type
  | .elements es => es.type

def ArrayArg.size : ArrayArg V → UInt32
  | .null _ size => size
  | .elements es => UInt32.ofNat es.length

inductive Arg (V : Type) where
  | char (c : UInt8)
  | boolean (value : Int32)
  | int32 (value : Int32)
  | uint32 (value : UInt32)
  | uint64 (value : UInt64)
  | double (value : Double)
  | string (str : Option CString)
  | array (a : ArrayArg V)
  | user (t : UserType) (x : V)

/-- A type a receiver asks for. The element type of an array is its caller's word for what it expects. -/
inductive ArgType where
  | char
  | boolean
  | int32
  | uint32
  | uint64
  | double
  | string
  | array (element : Int32)
  | user (t : UserType)

def ArgType.code : ArgType → Int32
  | .char => RpcType.char
  | .boolean => RpcType.boolean
  | .int32 => RpcType.int32
  | .uint32 => RpcType.uint32
  | .uint64 => RpcType.uint64
  | .double => RpcType.double
  | .string => RpcType.string
  | .array _ => RpcType.array
  | .user t => t.id

def Arg.argType : Arg V → ArgType
  | .char _ => .char
  | .boolean _ => .boolean
  | .int32 _ => .int32
  | .uint32 _ => .uint32
  | .uint64 _ => .uint64
  | .double _ => .double
  | .string _ => .string
  | .array a => .array a.type
  | .user t _ => .user t

/-! ### Sending -/

/-- `array[i]` for an `int i`: past 2^31 it is an address before the array. -/
def indexed {σ : Type} (i : Nat) : EStateM Failure σ Unit :=
  if 0 ≤ cInt i then pure () else throw .fault

/-- `&array[i * desc->size]`, an `int` product, in a block of so many bytes. -/
def addressed {σ : Type} (block size i : Nat) : EStateM Failure σ Unit :=
  if 0 ≤ cInt (i * size : Nat) ∧ cInt (i * size : Nat) + size ≤ block then pure () else throw .fault

def sendElements (types : TypeMap V) : Elements V → Send Unit
  | .char xs => rpcMessageSendBytes xs (cInt xs.length)
  | .boolean xs | .int32 xs => writeFrom (fun i x => do indexed i; rpcMessageSendInt32 x) 0 xs
  | .uint32 xs => writeFrom (fun i x => do indexed i; rpcMessageSendUint32 x) 0 xs
  | .uint64 xs => writeFrom (fun i x => do indexed i; rpcMessageSendUint64 x) 0 xs
  | .double xs => writeFrom (fun i x => do indexed i; rpcMessageSendDouble x) 0 xs
  | .string xs => writeFrom (fun i x => do indexed i; rpcMessageSendString x) 0 xs
  | .user t xs =>
    match types t with
    | some desc => writeFrom (fun i x => do addressed (xs.length * desc.size) desc.size i; desc.sendCallback x) 0 xs
    | none => throw (.error RpcError.messageArgumentUnknown)

/-- `is_valid_array` is sent as a char. -/
def sendArray (types : TypeMap V) (a : ArrayArg V) : Send Unit := do
  rpcMessageSendInt32 a.type
  rpcMessageSendUint32 a.size
  match a with
  | .null .. => rpcMessageSendChar 0
  | .elements es =>
    if 0 < a.size then do
      rpcMessageSendChar 1
      sendElements types es
    else
      rpcMessageSendChar 0

def sendArg (types : TypeMap V) (arg : Arg V) : Send Unit := do
  rpcMessageSendInt32 arg.argType.code
  match arg with
  | .char c => rpcMessageSendChar c
  | .boolean value | .int32 value => rpcMessageSendInt32 value
  | .uint32 value => rpcMessageSendUint32 value
  | .uint64 value => rpcMessageSendUint64 value
  | .double value => rpcMessageSendDouble value
  | .string str => rpcMessageSendString str
  | .array a => sendArray types a
  | .user t x =>
    match types t with
    | some desc => desc.sendCallback x
    | none => throw (.error RpcError.messageArgumentUnknown)

def sendEach (types : TypeMap V) : List (Arg V) → Send Unit
  | [] => pure ()
  | arg :: args => do
    sendArg types arg
    sendEach types args

/-- An empty list sends nothing at all. -/
def rpcMessageSendArgs (types : TypeMap V) (args : List (Arg V)) : Send Unit :=
  if args.isEmpty then
    pure ()
  else do
    rpcMessageSendInt32 RpcMessage.args
    sendEach types args
    rpcMessageSendInt32 RpcMessage.finish

/-! ### Receiving -/

/-- A malloc() whose failure is reported. -/
def allocate : Recv Unit := do
  if ← malloc then pure () else throw (.error RpcError.noMemory)

/-- `array_size * desc->size` is an `unsigned int`. -/
def recvElements (types : TypeMap V) (type : Int32) (size : Nat) : Recv (Elements V) :=
  if type = RpcType.char then do
    allocate
    .char <$> rpcMessageRecvBytes (cInt size)
  else if type = RpcType.boolean then do
    allocate
    .boolean <$> readFrom (fun i => do indexed i; rpcMessageRecvInt32) 0 size
  else if type = RpcType.int32 then do
    allocate
    .int32 <$> readFrom (fun i => do indexed i; rpcMessageRecvInt32) 0 size
  else if type = RpcType.uint32 then do
    allocate
    .uint32 <$> readFrom (fun i => do indexed i; rpcMessageRecvUint32) 0 size
  else if type = RpcType.uint64 then do
    allocate
    .uint64 <$> readFrom (fun i => do indexed i; rpcMessageRecvUint64) 0 size
  else if type = RpcType.double then do
    allocate
    .double <$> readFrom (fun i => do indexed i; rpcMessageRecvDouble) 0 size
  else if type = RpcType.string then do
    allocate
    .string <$> readFrom (fun i => do indexed i; rpcMessageRecvString) 0 size
  else if h : type ∉ builtinTypes then
    match types ⟨type, h⟩ with
    | some desc => do
      allocate
      .user ⟨type, h⟩ <$> readFrom (fun i => do
        addressed (size * desc.size % 2 ^ 32) desc.size i
        desc.recvCallback) 0 size
    | none => throw (.error RpcError.messageArgumentUnknown)
  else
    throw (.error RpcError.messageArgumentUnknown)

/-- The elements are those of the type on the wire; the caller's element type is not looked at. -/
def recvArray (types : TypeMap V) : Recv (ArrayArg V) := do
  let type ← rpcMessageRecvInt32
  let size ← rpcMessageRecvUint32
  let valid ← rpcMessageRecvChar
  if valid = 0 then
    pure (.null type size)
  else if size = 0 then
    throw .fault
  else
    .elements <$> recvElements types type size.toNat

def recvValue (types : TypeMap V) : ArgType → Recv (Arg V)
  | .char => .char <$> rpcMessageRecvChar
  | .boolean => .boolean <$> rpcMessageRecvInt32
  | .int32 => .int32 <$> rpcMessageRecvInt32
  | .uint32 => .uint32 <$> rpcMessageRecvUint32
  | .uint64 => .uint64 <$> rpcMessageRecvUint64
  | .double => .double <$> rpcMessageRecvDouble
  | .string => .string <$> rpcMessageRecvString
  | .array _ => .array <$> recvArray types
  | .user t =>
    match types t with
    | some desc => .user t <$> desc.recvCallback
    | none => throw (.error RpcError.messageArgumentUnknown)

def recvArg (types : TypeMap V) (expected : ArgType) : Recv (Arg V) := do
  let type ← rpcMessageRecvInt32
  if type ≠ expected.code then
    throw (.error RpcError.messageArgumentMismatch)
  else
    recvValue types expected

def recvEach (types : TypeMap V) : List ArgType → Recv (List (Arg V))
  | [] => pure []
  | expected :: rest => do
    let arg ← recvArg types expected
    let args ← recvEach types rest
    pure (arg :: args)

/-- A marker that has to come next. -/
def expectMarker (marker : Int32) : Recv Unit := do
  let value ← rpcMessageRecvInt32
  if value ≠ marker then throw (.error RpcError.messageTruncated) else pure ()

def rpcMessageRecvArgs (types : TypeMap V) (expected : List ArgType) : Recv (List (Arg V)) :=
  if expected.isEmpty then
    pure []
  else do
    expectMarker RpcMessage.args
    let args ← recvEach types expected
    expectMarker RpcMessage.finish
    pure args

end
end NSPluginWrapper
