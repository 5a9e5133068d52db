import NSPluginWrapper.Lib.Checked
import NSPluginWrapper.Npapi.Event

/-! The receiving functions once more, with what Rpc.Args and Npapi.Marshal leave out: the blocks they write to, the
    sums and products that size these, and the tables they look numbers up in. A function that has none of them is
    taken from there. -/

namespace NSPluginWrapper
open Lib

/-- What `g_ids` has under a number. -/
inductive IdEntry where
  | pluginInstance
  | stream
  | identifier
  deriving Repr, DecidableEq

/-- The receiving end. `stubs` says whether a stub is in `g_stubs` where so much of a message is left: the table may
    lose one on the way. -/
structure Receiver where
  pointers32 : Bool
  isViewer : Bool
  ids : UInt32 → Option IdEntry
  stubs : InMessage → UInt32 → Bool

/-- The bits of a `size_t`. -/
def Receiver.sizeBits (e : Receiver) : Nat := if e.pointers32 then 32 else 64

/-- The bytes of a pointer. -/
def Receiver.pointer (e : Receiver) : Nat := if e.pointers32 then 4 else 8

/-- What of a message a function goes on with unseen: a length, a count, an address, or what was found under a
    number. -/
inductive Field where
  | stringLength (length : Int32)
  | arraySize (size : UInt32)
  | arrayBytes (size : UInt32) (width bits : Nat)
  | element (i width : Nat)
  | notifyData (pointers32 : Bool) (id : UInt64)
  | printData (arrives : Nat)
  | npStringLength (length : UInt32)
  | pluginInstance (id : UInt32) (found : Option IdEntry)
  | stream (id : UInt32) (found : Option IdEntry)
  | identifier (id : UInt32) (found : Option IdEntry)
  | stub (id : UInt32) (found : Bool)
  | proxy (made : Bool)
  deriving Repr, DecidableEq

abbrev Decode := Checked Failure InMessage Field

namespace Decode

/-! ### Reading -/

/-- The process does not go on where the condition fails, which it does for some fields. -/
def limit (f : Field) (p : Bool) : Decode Unit := Checked.note f (Checked.check p (Checked.done ()))

def check (p : Bool) : Decode Unit := Checked.check p (Checked.done ())

def fail {α : Type} (code : Int) : Decode α := Checked.lift (throw (.error code))

/-- How many bytes rpc_message_recv_bytes() writes, whatever it returns. -/
def arriving (count : Int) : Recv Nat := fun m =>
  match rpcMessageRecvBytes count m with
  | .ok _ t | .error _ t => .ok (m.held.length - t.held.length) m

/-- rpc_message_recv_bytes() to a block of so many bytes. -/
def recvBytes (block : Nat) (count : Int) : Decode (List UInt8) := do
  let n ← Checked.lift (arriving count)
  check (n ≤ block)
  Checked.lift (rpcMessageRecvBytes count)

def recvUint32 : Decode UInt32 := Checked.lift rpcMessageRecvUint32

def recvInt32 : Decode Int32 := Checked.lift rpcMessageRecvInt32

/-- `length + 1` is an int, and `str[length]` is in the block. -/
def rpcMessageRecvString : Decode (Option CString) := do
  let length ← recvInt32
  if length.toInt = -1 then
    pure none
  else do
    limit (.stringLength length) (0 ≤ length.toInt + 1 ∧ length.toInt + 1 < 2 ^ 31)
    let block := (length.toInt + 1).toNat
    Checked.lift allocate
    let bytes ← if 0 < length.toInt then recvBytes block length.toInt else pure []
    check (0 ≤ length.toInt ∧ length.toInt < block)
    pure (some (.ofBytes bytes))

/-! ### Arguments -/

/-- rpc_message_descriptor_t, as far as it receives. -/
structure Descriptor (V : Type) where
  size : Nat
  size_pos : 0 < size
  size_lt : size < 2 ^ 31
  recvCallback : Decode V

section
variable {V α : Type}

/-- Reads `n` values in order, the first one at index `i`. -/
def readFrom (r : Nat → Decode α) : Nat → Nat → Decode (List α)
  | _, 0 => pure []
  | i, n + 1 => do
    let x ← r i
    let xs ← readFrom r (i + 1) n
    pure (x :: xs)

/-- A malloc() of `array_size * sizeof(*array)` bytes, and `array[i]` for an `int i` that is counted up to an
    `array_size` it is compared with as an `unsigned int`. -/
def recvArrayOf (e : Receiver) (width : Nat) (size : UInt32) (r : Decode α) : Decode (List α) := do
  limit (.arrayBytes size width e.sizeBits) (size.toNat * width < 2 ^ e.sizeBits)
  let block := size.toNat * width % 2 ^ e.sizeBits
  Checked.lift allocate
  readFrom (fun i => do
    let x ← r
    limit (.element i 1) (i < 2 ^ 31)
    check (i * width + width ≤ block)
    pure x) 0 size.toNat

/-- `array_size * desc->size` is an `unsigned int`, `i * desc->size` an `int`. -/
def recvArrayBy (desc : Descriptor V) (size : UInt32) : Decode (List V) := do
  limit (.arrayBytes size desc.size 32) (size.toNat * desc.size < 2 ^ 32)
  let block := size.toNat * desc.size % 2 ^ 32
  Checked.lift allocate
  readFrom (fun i => do
    limit (.element i desc.size) (i * desc.size < 2 ^ 31)
    check (i * desc.size + desc.size ≤ block)
    desc.recvCallback) 0 size.toNat

def recvElements (e : Receiver) (descs : UserType → Option (Descriptor V)) (type : Int32) (size : UInt32) :
    Decode (Elements V) :=
  if type = RpcType.char then do
    Checked.lift allocate
    .char <$> recvBytes size.toNat (cInt size.toNat)
  else if type = RpcType.boolean then
    .boolean <$> recvArrayOf e 4 size recvInt32
  else if type = RpcType.int32 then
    .int32 <$> recvArrayOf e 4 size recvInt32
  else if type = RpcType.uint32 then
    .uint32 <$> recvArrayOf e 4 size recvUint32
  else if type = RpcType.uint64 then
    .uint64 <$> recvArrayOf e 8 size (Checked.lift rpcMessageRecvUint64)
  else if type = RpcType.double then
    .double <$> recvArrayOf e 8 size (Checked.lift rpcMessageRecvDouble)
  else if type = RpcType.string then
    .string <$> recvArrayOf e e.pointer size rpcMessageRecvString
  else if h : type ∉ builtinTypes then
    match descs ⟨type, h⟩ with
    | some desc => .user ⟨type, h⟩ <$> recvArrayBy desc size
    | none => fail RpcError.messageArgumentUnknown
  else
    fail RpcError.messageArgumentUnknown

def recvArray (e : Receiver) (descs : UserType → Option (Descriptor V)) : Decode (ArrayArg V) := do
  let type ← recvInt32
  let size ← recvUint32
  let valid ← Checked.lift rpcMessageRecvChar
  if valid = 0 then
    pure (.null type size)
  else do
    limit (.arraySize size) (0 < size)
    .elements <$> recvElements e descs type size

def recvValue (e : Receiver) (descs : UserType → Option (Descriptor V)) : ArgType → Decode (Arg V)
  | .char => .char <$> Checked.lift rpcMessageRecvChar
  | .boolean => .boolean <$> recvInt32
  | .int32 => .int32 <$> recvInt32
  | .uint32 => .uint32 <$> recvUint32
  | .uint64 => .uint64 <$> Checked.lift rpcMessageRecvUint64
  | .double => .double <$> Checked.lift rpcMessageRecvDouble
  | .string => .string <$> rpcMessageRecvString
  | .array _ => .array <$> recvArray e descs
  | .user t =>
    match descs t with
    | some desc => .user t <$> desc.recvCallback
    | none => fail RpcError.messageArgumentUnknown

def recvArg (e : Receiver) (descs : UserType → Option (Descriptor V)) (expected : ArgType) : Decode (Arg V) := do
  let type ← recvInt32
  if type ≠ expected.code then fail RpcError.messageArgumentMismatch else recvValue e descs expected

def recvEach (e : Receiver) (descs : UserType → Option (Descriptor V)) : List ArgType → Decode (List (Arg V))
  | [] => pure []
  | expected :: rest => do
    let arg ← recvArg e descs expected
    let args ← recvEach e descs rest
    pure (arg :: args)

def rpcMessageRecvArgs (e : Receiver) (descs : UserType → Option (Descriptor V)) (expected : List ArgType) :
    Decode (List (Arg V)) :=
  if expected.isEmpty then
    pure []
  else do
    Checked.lift (expectMarker RpcMessage.args)
    let args ← recvEach e descs expected
    Checked.lift (expectMarker RpcMessage.finish)
    pure args

end

/-! ### Blocks of the NPAPI types -/

/-- The size of a block is an `uint32_t`. -/
def doRecvNPSavedData : Decode (Option NPSavedData) := do
  let len ← recvInt32
  if len = 0 then
    pure none
  else do
    Checked.lift allocate
    Checked.lift allocate
    (fun buf => some ⟨len, buf⟩) <$> recvBytes len.toUInt32.toNat len.toInt

def doRecvNotifyData (e : Receiver) : Decode UInt64 := do
  let id ← Checked.lift rpcMessageRecvUint64
  limit (.notifyData e.pointers32 id) (!(e.pointers32 && decide (2 ^ 32 ≤ id)))
  pure id

/-- The buffer is part of the structure. -/
def doRecvNPPrintData : Decode (List UInt8) := do
  let size ← recvUint32
  let n ← Checked.lift (arriving (cInt size.toNat))
  limit (.printData n) (n ≤ 4096)
  Checked.lift (rpcMessageRecvBytes (cInt size.toNat))

def doRecvNPUTF8 : Decode CString := do
  let len ← recvUint32
  Checked.lift allocate
  if 0 < len then
    CString.ofBytes <$> recvBytes len.toNat (cInt len.toNat)
  else
    pure (.ofBytes [])

/-- `UTF8Length + 1` is an `uint32_t`, and `UTF8Characters[UTF8Length]` is in the block. -/
def doRecvNPString : Decode NPString := do
  let utf8Length ← recvUint32
  limit (.npStringLength utf8Length) (utf8Length.toNat + 1 < 2 ^ 32)
  let block := (utf8Length + 1).toNat
  Checked.lift allocate
  let characters ← if 0 < utf8Length then recvBytes block (cInt utf8Length.toNat) else pure []
  check (utf8Length.toNat < block)
  pure ⟨some characters, utf8Length⟩

/-! ### Numbers -/

/-- The instance with that number, if there is one. The pointer is followed to see whether it is valid. -/
def doRecvNPWPluginInstance (e : Receiver) : Decode (Option UInt32) := do
  let instanceId ← recvUint32
  let found := e.ids instanceId
  limit (.pluginInstance instanceId found) (found = none ∨ found = some .pluginInstance)
  pure (found.map fun _ => instanceId)

def doRecvNPP (e : Receiver) : Decode (Option UInt32) := doRecvNPWPluginInstance e

def doRecvNPStream (e : Receiver) : Decode (Option UInt32) := do
  let streamId ← recvUint32
  let found := e.ids streamId
  limit (.stream streamId found) (found = none ∨ found = some .stream)
  pure (found.map fun _ => streamId)

/-- The viewer takes the number for the identifier. -/
def doRecvNPIdentifier (e : Receiver) : Decode UInt32 := do
  let id ← recvUint32
  if id = 0 ∨ e.isViewer = true then
    pure id
  else do
    let found := e.ids id
    limit (.identifier id found) found.isSome
    pure id

inductive ReceivedObject where
  | null
  | proxy (id : UInt32)
  | local (id : UInt32)
  deriving Repr, DecidableEq

namespace NPObjectType
abbrev null : UInt32 := 0
abbrev senderOwned : UInt32 := 1
abbrev receiverOwned : UInt32 := 2
end NPObjectType

/-- The stub that `release_stub` destroys is the one that was just found. -/
def doRecvNPObjectHelper (e : Receiver) (passRef : Bool) : Decode ReceivedObject := do
  let type ← recvUint32
  let _ ← doRecvNPWPluginInstance e
  let npobjId ← recvUint32
  let releaseStub ← if passRef then recvUint32 else pure 0
  if type = NPObjectType.null then
    pure .null
  else if type = NPObjectType.senderOwned then do
    let made ← Checked.lift malloc
    limit (.proxy made) made
    if releaseStub ≠ 0 then fail RpcError.generic else pure (.proxy npobjId)
  else if type = NPObjectType.receiverOwned then do
    let found ← Checked.lift fun m => .ok (e.stubs m npobjId) m
    limit (.stub npobjId found) found
    pure (.local npobjId)
  else
    fail RpcError.generic

def doRecvNPVariantHelper (e : Receiver) (passRef : Bool) : Decode (NPVariant ReceivedObject) := do
  let type ← recvUint32
  if other : 6 < type then
    pure (.other ⟨type, other⟩)
  else if type = NPVariantType.void then
    pure .void
  else if type = NPVariantType.null then
    pure .null
  else if type = NPVariantType.bool then
    (fun value => .bool (value != 0)) <$> recvUint32
  else if type = NPVariantType.int32 then
    .int32 <$> recvInt32
  else if type = NPVariantType.double then
    .double <$> Checked.lift rpcMessageRecvDouble
  else if type = NPVariantType.string then
    .string <$> doRecvNPString
  else
    .object <$> doRecvNPObjectHelper e passRef

/-! ### The table -/

/-- A value of a type that rpc_add_np_marshalers() registers. -/
inductive NPValue where
  | npp (plugin : Option UInt32)
  | stream (stream : Option UInt32)
  | byteRange (rangeList : List NPByteRange)
  | savedData (saveArea : Option NPSavedData)
  | notifyData (notifyData : UInt64)
  | rect (rect : NPRect)
  | window (window : Option NPWindow)
  | event (event : XEvent)
  | print (printInfo : NPPrint)
  | fullPrint (fullPrint : NPFullPrint)
  | embedPrint (embedPrint : NPEmbedPrint)
  | printData (data : List UInt8)
  | object (npobj : ReceivedObject)
  | identifier (id : UInt32)
  | string (string : NPString)
  | variant (variant : NPVariant ReceivedObject)
  | utf8 (string : CString)
  | pluginInstance (plugin : Option UInt32)

/-- `message_descs`, by the RPC_TYPE_* numbers of the types. -/
def messageDescs (e : Receiver) (t : UserType) : Option (Descriptor NPValue) :=
  let p := e.pointer
  have hp : p = 4 ∨ p = 8 := by
    unfold p Receiver.pointer
    split
    · exact .inl rfl
    · exact .inr rfl
  match t.id.toInt with
  | 1 => some ⟨p, by omega, by omega, .npp <$> doRecvNPP e⟩
  | 2 => some ⟨p, by omega, by omega, .stream <$> doRecvNPStream e⟩
  | 3 => some ⟨p, by omega, by omega, .byteRange <$> Checked.lift doRecvNPByteRange⟩
  | 4 => some ⟨p, by omega, by omega, .savedData <$> doRecvNPSavedData⟩
  | 5 => some ⟨p, by omega, by omega, .notifyData <$> doRecvNotifyData e⟩
  | 6 => some ⟨8, by omega, by omega, .rect <$> Checked.lift doRecvNPRect⟩
  | 7 => some ⟨p, by omega, by omega, .window <$> Checked.lift doRecvNPWindow⟩
  | 8 => some ⟨24 * p, by omega, by omega, .event <$> Checked.lift doRecvNPEvent⟩
  | 9 => some ⟨if e.pointers32 then 44 else 64, by split <;> omega, by split <;> omega, .print <$> Checked.lift doRecvNPPrint⟩
  | 10 => some ⟨2 * p, by omega, by omega, .fullPrint <$> Checked.lift doRecvNPFullPrint⟩
  | 11 => some ⟨if e.pointers32 then 40 else 56, by split <;> omega, by split <;> omega,
      .embedPrint <$> Checked.lift doRecvNPEmbedPrint⟩
  | 12 => some ⟨4100, by omega, by omega, .printData <$> doRecvNPPrintData⟩
  | 13 => some ⟨p, by omega, by omega, .object <$> doRecvNPObjectHelper e false⟩
  | 14 => some ⟨p, by omega, by omega, .identifier <$> doRecvNPIdentifier e⟩
  | 15 => some ⟨2 * p, by omega, by omega, .string <$> doRecvNPString⟩
  | 16 => some ⟨if e.pointers32 then 12 else 24, by split <;> omega, by split <;> omega,
      .variant <$> doRecvNPVariantHelper e false⟩
  | 17 => some ⟨p, by omega, by omega, .utf8 <$> doRecvNPUTF8⟩
  | 18 => some ⟨p, by omega, by omega, .object <$> doRecvNPObjectHelper e true⟩
  | 19 => some ⟨if e.pointers32 then 12 else 24, by split <;> omega, by split <;> omega,
      .variant <$> doRecvNPVariantHelper e true⟩
  | 20 => some ⟨p, by omega, by omega, .pluginInstance <$> doRecvNPWPluginInstance e⟩
  | _ => none

/-- What decodes: the functions of the primitive types, of a list of arguments with any signature, and of the table's
    types. -/
inductive Decoding (e : Receiver) : {α : Type} → Decode α → Prop where
  | bytes (count : Nat) : Decoding e (recvBytes count count)
  | char : Decoding e (Checked.lift rpcMessageRecvChar)
  | int32 : Decoding e recvInt32
  | uint32 : Decoding e recvUint32
  | uint64 : Decoding e (Checked.lift rpcMessageRecvUint64)
  | double : Decoding e (Checked.lift rpcMessageRecvDouble)
  | string : Decoding e rpcMessageRecvString
  | args (expected : List ArgType) : Decoding e (rpcMessageRecvArgs e (messageDescs e) expected)
  | type {t : UserType} {desc : Descriptor NPValue} (h : messageDescs e t = some desc) : Decoding e desc.recvCallback

/-- The function comes to an error or to success. -/
def Finishes {α : Type} (d : Decode α) (m : InMessage) : Prop :=
  (∃ a t, d.run .fault m = .ok a t) ∨ ∃ code t, d.run .fault m = .error (.error code) t

end Decode
end NSPluginWrapper
