import NSPluginWrapper.Rpc.Calls
import NSPluginWrapper.Theorems.Args

/-! Replies come across: what `rpc_method_send_reply` puts on the socket, `rpc_method_wait_for_reply` takes
    off it, with the values of the argument list and nothing of what follows. -/

namespace NSPluginWrapper
open Lib

variable {V : Type}

/-! ### The message of a reply -/

theorem replyArgs_eq (types : TypeMap V) (expected : List ArgType) :
    replyArgs types expected = rpcMessageRecvArgs types expected := by
  rw [replyArgs, rpcMessageRecvArgs]
  split <;> rfl

/-- The message is on the socket when its sender is done, not in a buffer. -/
theorem replyMessage_sent {types : TypeMap V} {args : List (Arg V)} {bs : List UInt8}
    (hargs : Writes OutMessage.sink (rpcMessageSendArgs types args) bs ()) {m : OutMessage} (hm : m.Live) :
    ∃ t, replyMessage types args (rpcMessageInit m) = .ok () t ∧ t.Live ∧ t.buffer = [] ∧
      t.sent = m.sent ++ (be32 RpcMessage.reply.toUInt32 ++ (bs ++ be32 RpcMessage.finish.toUInt32)) := by
  obtain ⟨t₁, h₁, hl₁, hreply⟩ := (int32_delivers RpcMessage.reply).writes (rpcMessageInit m) hm
  obtain ⟨t₂, h₂, hl₂, hbs⟩ := hargs t₁ hl₁
  obtain ⟨t₃, h₃, hl₃, hfinish⟩ := (int32_delivers RpcMessage.finish).writes t₂ hl₂
  obtain ⟨t, ht, htl, hsent, hbuf⟩ := rpcMessageFlush_live hl₃
  have htaken : t₃.taken = m.sent ++ be32 RpcMessage.reply.toUInt32 ++ bs ++ be32 RpcMessage.finish.toUInt32 := by
    have hinit : OutMessage.sink.taken (rpcMessageInit m) = m.sent := List.append_nil _
    rw [hbs, hreply, hinit] at hfinish
    exact hfinish
  refine ⟨t, ?_, htl, hbuf, ?_⟩
  · simp only [replyMessage, bind, EStateM.bind, h₁, h₂, h₃, ht]
  · rw [hsent, htaken, List.append_assoc, List.append_assoc]

theorem replyBody_reads {types : TypeMap V} {expected : List ArgType} {bs : List UInt8} {args : List (Arg V)}
    (hargs : Reads InMessage.source (rpcMessageRecvArgs types expected) bs args) :
    Reads InMessage.source (replyBody types expected) (bs ++ be32 RpcMessage.finish.toUInt32) args := by
  rw [replyBody, replyArgs_eq]
  refine hargs.bind ((int32_delivers _).reads.bind_pure ?_)
  rw [if_neg (not_not_intro rfl)]
  exact .pure args

/-! ### The operations -/

/-- What `rpc_message_send_args` writes, `rpc_message_recv_args` reads with the same signature. -/
def ArgsCross (types : TypeMap V) (args : List (Arg V)) : Prop :=
  Exchanged (rpcMessageSendArgs types args) (rpcMessageRecvArgs types (args.map Arg.argType)) (args.map Arg.received)

/-- What `rpc_method_send_reply` puts on the socket, `rpc_method_wait_for_reply` takes off it, whatever else
    the connections have been through. -/
def ReplyCrosses (types : TypeMap V) (args : List (Arg V)) : Prop :=
  ∃ bs,
    (∀ c m, c.status ≠ .closed → OutMessage.Live m → ∃ t,
      rpcMethodSendReply types args c m = some (.ok (), c.touch.lowerHandle, t) ∧ t.Live ∧ t.sent = m.sent ++ bs) ∧
    (∀ dispatch fuel c m rest, c.status ≠ .closed → InMessage.Live m → m.held = bs ++ rest → ∃ t,
      rpcMethodWaitForReply types dispatch (fuel + 1) (args.map Arg.argType) c m =
        some (.ok (args.map Arg.received), c.touch.lowerInvoke, t) ∧ t.Live ∧ t.held = rest)

theorem replyCrosses_of_argsCross {types : TypeMap V} {args : List (Arg V)} (h : ArgsCross types args) :
    ReplyCrosses types args := by
  obtain ⟨bs, hw, hr⟩ := h
  refine ⟨be32 RpcMessage.reply.toUInt32 ++ (bs ++ be32 RpcMessage.finish.toUInt32), ?_, ?_⟩
  · intro c m hc hm
    obtain ⟨t, ht, htl, -, hsent⟩ := replyMessage_sent hw hm
    refine ⟨t, ?_, htl, hsent⟩
    simp only [rpcMethodSendReply, if_neg hc, routed, ht, Option.map_some]
  · intro dispatch fuel c m rest hc hm hheld
    obtain ⟨t, ht, htl, hrest⟩ := (int32_delivers RpcMessage.reply).reads m _ hm (by
      rw [List.append_assoc] at hheld
      exact hheld)
    obtain ⟨u, hu, hul, hrest'⟩ := replyBody_reads hr t rest htl hrest
    refine ⟨u, ?_, hul, hrest'⟩
    have hdone : tagAction c.touch RpcMessage.reply RpcMessage.reply = .done := if_pos rfl
    simp only [rpcMethodWaitForReply, if_neg hc, rpcMethodWaitForReplyValist, rpcDispatchUntil, ht, hdone, routed, hu,
      Option.map_some]

/-- Argument lists and replies come across, for every list of addressable arguments below 2^31. -/
theorem args_and_replies_cross (types : TypeMap V) (args : List (Arg V)) (hshort : ∀ arg ∈ args, arg.Short)
    (hcarried : ∀ arg ∈ args, arg.Carried types) (haddr : ∀ arg ∈ args, arg.Addressable types) :
    ArgsCross types args ∧ ReplyCrosses types args := by
  have hargs : ArgsCross types args := rpcMessageArgs_exchanged hshort hcarried haddr
  exact ⟨hargs, replyCrosses_of_argsCross hargs⟩

/-! ### One user type, of sixteen bytes -/

def sixteenByteType : UserType := ⟨16, by decide⟩

/-- A type that is sixteen bytes in memory, as NPVariant is, and one on the wire. -/
def sixteenByteTypes : TypeMap UInt8 := fun _ =>
  some ⟨16, by decide, by decide, rpcMessageSendChar, rpcMessageRecvChar⟩

theorem sixteenByteTypes_carries (x : UInt8) : sixteenByteTypes.Carries sixteenByteType x :=
  ⟨_, rfl, _, char_delivers x⟩

/-- One argument of each kind, with arrays that are NULL, empty and of strings that may be NULL. -/
def mixedArgs : List (Arg UInt8) :=
  [.char 65, .boolean 1, .int32 (-7), .uint64 (2 ^ 40), .double ⟨0x7FF8000000000001⟩, .string none,
    .string (some (.ofBytes [104, 105])), .array (.null RpcType.int32 3), .array (.elements (.double [])),
    .array (.elements (.string [none, some (.ofBytes [])])), .array (.elements (.user sixteenByteType [1, 2])),
    .user sixteenByteType 9]

theorem mixedArgs_cross : ArgsCross sixteenByteTypes mixedArgs ∧ ReplyCrosses sixteenByteTypes mixedArgs :=
  args_and_replies_cross sixteenByteTypes mixedArgs
    (by simp [mixedArgs, Arg.Short, ShortString, CString.ofBytes, Elements.length])
    (by simp [mixedArgs, Arg.Carried, sixteenByteTypes_carries])
    (by simp [mixedArgs, Arg.Addressable, sixteenByteTypes])

/-- An array of `n` elements, of `16 * n` bytes. -/
def manyElements (n : Nat) : Arg UInt8 := .array (.elements (.user sixteenByteType (List.replicate n 7)))

theorem manyElements_lost_of {n : Nat} (hlow : 2 ^ 27 < n) (hhigh : n < 2 ^ 31) : (manyElements n).Short ∧
    (manyElements n).Carried sixteenByteTypes ∧ ¬ArgsCross sixteenByteTypes [manyElements n] := by
  have hshort : (manyElements n).Short := ⟨by rw [Elements.length, List.length_replicate]; exact hhigh, trivial⟩
  have hcarried : (manyElements n).Carried sixteenByteTypes := fun x _ => sixteenByteTypes_carries x
  refine ⟨hshort, hcarried, fun h => ?_⟩
  have haddr := (rpcMessageArgs_exchanged_iff (List.forall_mem_singleton.mpr hshort)
    (List.forall_mem_singleton.mpr hcarried)).mp h
  have hoffset := List.forall_mem_singleton.mp haddr _ rfl
  simp only [List.length_replicate] at hoffset
  omega

/-- Far fewer than 2^31 elements, of a type that comes across: the sender runs off the array. -/
theorem manyElements_lost : (manyElements (2 ^ 27 + 1)).Short ∧ (manyElements (2 ^ 27 + 1)).Carried sixteenByteTypes ∧
    ¬ArgsCross sixteenByteTypes [manyElements (2 ^ 27 + 1)] :=
  manyElements_lost_of (by decide) (by decide)

end NSPluginWrapper
