import Mathlib.Data.Int.Basic

/-! The numbers of rpc.h and rpc.c that travel on the wire or come back from a call. Every one is a C `int`;
    a result below zero is an error. -/

namespace NSPluginWrapper

namespace RpcError
abbrev noError : Int := 0
abbrev generic : Int := -1000
abbrev errnoSet : Int := -1001
abbrev noMemory : Int := -1002
abbrev connectionNull : Int := -1003
abbrev connectionClosed : Int := -1004
abbrev connectionTypeMismatch : Int := -1005
abbrev messageTimeout : Int := -1006
abbrev messageTruncated : Int := -1007
abbrev messageTypeInvalid : Int := -1008
abbrev messageHandlerInvalid : Int := -1009
abbrev messageArgumentMismatch : Int := -1010
abbrev messageArgumentUnknown : Int := -1011
abbrev messageArgumentInvalid : Int := -1012
abbrev messageSyncNotAllowed : Int := -1013
end RpcError

/-! ### RPC_MESSAGE_*: the markers a message is made of -/

namespace RpcMessage
abbrev start : Int32 := -3000
abbrev args : Int32 := -3001
abbrev finish : Int32 := -3002
abbrev ack : Int32 := -3003
abbrev reply : Int32 := -3004
abbrev failure : Int32 := -3005
abbrev sync : Int32 := -3006
abbrev syncEnd : Int32 := -3007
abbrev syncAck : Int32 := -3008
end RpcMessage

/-! ### RPC_TYPE_*: the types an argument is tagged with; `invalid` ends an argument list -/

namespace RpcType
abbrev invalid : Int32 := 0
abbrev char : Int32 := -2000
abbrev boolean : Int32 := -2001
abbrev int32 : Int32 := -2002
abbrev uint32 : Int32 := -2003
abbrev uint64 : Int32 := -2004
abbrev double : Int32 := -2005
abbrev string : Int32 := -2006
abbrev array : Int32 := -2007
end RpcType

/-- RPC_STATUS_*. -/
inductive RpcStatus where
  | broken
  | closed
  | active
  deriving Repr, DecidableEq

end NSPluginWrapper
