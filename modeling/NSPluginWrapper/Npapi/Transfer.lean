import NSPluginWrapper.Lib.Blocks
import NSPluginWrapper.Plugin.Info
import NSPluginWrapper.Rpc.Calls

/-! Buffers that come with a reply are copied again for the caller, who frees them with NPN_MemFree(): the name and the
    password of NPN_GetAuthenticationInfo, and the strings of NPP_GetSitesWithData. -/

namespace NSPluginWrapper
open Lib

namespace Transfer

/-- A copy reads behind its source, recv() is told a negative count, an array is written behind its end, or strlen() is
    given no string. -/
inductive Fault where
  | overread
  | negativeCount
  | overrun
  | noString
  deriving Repr, DecidableEq

def outOfMemoryError : NPError := 5

/-- Memory with what is in it. -/
structure Buffer where
  block : Nat
  bytes : List UInt8
  deriving Repr, DecidableEq

/-- `alloc` tells whether NPN_MemAlloc() returns something. -/
def npwReallocData (alloc : Bool) (ptr : Option (List UInt8)) (size : UInt32) (l : Blocks) :
    Except Fault (NPError × Option Buffer × Blocks) :=
  match ptr with
  | none => .ok (NPError.noError, none, l)
  | some bytes =>
    if !alloc then .ok (outOfMemoryError, none, l)
    else if bytes.length < size.toNat then .error .overread
    else .ok (NPError.noError, some ⟨l.made, bytes.take size.toNat⟩, l.make)

/-! ### NPN_GetAuthenticationInfo -/

/-- What the browser returns, and the wrapper sends. -/
structure Credentials where
  ret : NPError
  username : List UInt8
  password : List UInt8
  deriving Repr, DecidableEq

/-- Which of the allocations succeed: those of rpc_message_recv_args(), and those of NPW_ReallocData(). -/
structure Memory where
  myUsername : Bool
  myPassword : Bool
  username : Bool
  password : Bool
  deriving Repr, DecidableEq

/-- What the caller gets, and the blocks that were made. -/
structure AuthenticationInfo where
  ret : NPError
  username : Option Buffer
  ulen : UInt32
  password : Option Buffer
  plen : UInt32
  blocks : Blocks

/-- An array of RPC_TYPE_CHAR; NULL stands for an empty one. -/
def recvChars (alloc : Bool) (bytes : List UInt8) (l : Blocks) : Except Fault (Except Int (Option Buffer) × Blocks) :=
  if bytes = [] then .ok (.ok none, l)
  else if !alloc then .ok (.error RpcError.noMemory, l)
  else if 2 ^ 31 ≤ bytes.length then .error .negativeCount
  else .ok (.ok (some ⟨l.made, bytes⟩), l.make)

def free (l : Blocks) (buffer : Option Buffer) : Blocks := (buffer.map Buffer.block).elim l l.release

/-- From where the reply is there. The password is copied by the length of the name. -/
def reallocCredentials (memory : Memory) (ret : NPError) (myUsername myPassword : Option Buffer) (ulen plen : UInt32)
    (l : Blocks) : Except Fault AuthenticationInfo :=
  if ret ≠ NPError.noError then .ok ⟨ret, none, ulen, none, plen, l⟩
  else do
    let (ret, username, l) ← npwReallocData memory.username (myUsername.map Buffer.bytes) ulen l
    if ret ≠ NPError.noError then .ok ⟨ret, username, ulen, none, plen, l⟩
    else do
      let (ret, password, l) ← npwReallocData memory.password (myPassword.map Buffer.bytes) ulen l
      let l := if ret = outOfMemoryError then free l username else l
      .ok ⟨ret, username, ulen, password, plen, l⟩

/-- The reply comes, as far as there is memory for it. -/
def invokeNPNGetAuthenticationInfo (memory : Memory) (reply : Credentials) : Except Fault AuthenticationInfo := do
  let ulen := UInt32.ofNat reply.username.length
  let plen := UInt32.ofNat reply.password.length
  match ← recvChars memory.myUsername reply.username .empty with
  | (.error _, l) => .ok ⟨NPError.genericError, none, ulen, none, plen, l⟩
  | (.ok myUsername, l) =>
    match ← recvChars memory.myPassword reply.password l with
    | (.error _, l) => .ok ⟨NPError.genericError, none, ulen, none, plen, l⟩
    | (.ok myPassword, l) => do
      let info ← reallocCredentials memory reply.ret myUsername myPassword ulen plen l
      .ok { info with blocks := free (free info.blocks myUsername) myPassword }

/-- handle_NPN_GetAuthenticationInfo's reply. -/
def credentialsReply {V : Type} (reply : Credentials) : List (Arg V) :=
  [.int32 reply.ret.toInt32, .array (.elements (.char reply.username)), .array (.elements (.char reply.password))]

/-! ### NPP_GetSitesWithData -/

def gNPPGetSitesWithData (getsiteswithdata : Option (Option (List CString))) : Option (List CString) :=
  getsiteswithdata.join

/-- handle_NPP_GetSitesWithData's reply, with the length that g_strv_length() counts. -/
def sitesReply {V : Type} (sites : Option (List CString)) : List (Arg V) :=
  [.array (match sites with
    | none => .null RpcType.string 0
    | some sites => .elements (.string (sites.map some)))]

/-- The entries of the array, each of which may have no memory. -/
def reallocSites (alloc : Nat → Bool) : Nat → List (Option CString) → Blocks → Except Fault (List (Option Buffer) × Blocks)
  | _, [], l => .ok ([], l)
  | _, none :: _, _ => .error .noString
  | i, some site :: sites, l => do
    let (_, out, l) ← npwReallocData (alloc i) (some (site.bytes ++ [0])) (.ofNat site.bytes.length) l
    let (outs, l) ← reallocSites alloc (i + 1) sites l
    .ok (out :: outs, l)

/-- From where the reply is there: the array, with its NULL. `array` tells whether there is memory for it. -/
def convertSites (pointerSize : Nat) (array : Bool) (alloc : Nat → Bool) (siteCount : UInt32)
    (sites : List (Option CString)) : Except Fault (Option (List (Option Buffer))) :=
  if siteCount = 0 ∨ array = false then .ok none
  else if pointerSize * (siteCount + 1).toNat % 2 ^ 32 < pointerSize * (siteCount.toNat + 1) then .error .overrun
  else do
    let (out, _) ← reallocSites alloc 0 sites .empty
    .ok (some (out ++ [none]))

/-- The reply of the plugin, as it was sent. -/
def invokeNPPGetSitesWithData {V : Type} (pointerSize : Nat) (array : Bool) (alloc : Nat → Bool) :
    List (Arg V) → Except Fault (Option (List (Option Buffer)))
  | [.array (.elements (.string sites))] => convertSites pointerSize array alloc (.ofNat sites.length) sites
  | [.array (.null _ siteCount)] => if siteCount = 0 then .ok none else .error .noString
  | _ => .error .noString

end Transfer
end NSPluginWrapper
