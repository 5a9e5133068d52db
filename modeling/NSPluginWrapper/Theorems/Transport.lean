import Mathlib.Data.List.SplitLengths
import NSPluginWrapper.Rpc.Calls
import NSPluginWrapper.Theorems.Message

/-! The transport of a message: what a sequence of send calls is given is what the receive calls of the other
    end get, in whatever pieces either end asks for it and the kernel moves it. -/

namespace NSPluginWrapper
open Lib

/-! ### Calls -/

/-- A call of one of the `rpc_message_send_*`, or of rpc_message_flush in between. -/
inductive SendCall where
  | bytes (block : List UInt8) (count : Nat) (within : count ≤ block.length)
  | char (c : UInt8)
  | int32 (value : Int32)
  | uint32 (value : UInt32)
  | uint64 (value : UInt64)
  | double (value : Double)
  | string (str : Option CString)
  | flush

namespace SendCall

def send : SendCall → Send Unit
  | .bytes block count _ => rpcMessageSendBytes block count
  | .char c => rpcMessageSendChar c
  | .int32 value => rpcMessageSendInt32 value
  | .uint32 value => rpcMessageSendUint32 value
  | .uint64 value => rpcMessageSendUint64 value
  | .double value => rpcMessageSendDouble value
  | .string str => rpcMessageSendString str
  | .flush => rpcMessageFlush

/-- The bytes a call is given. A string is as long as an `int` says. -/
def given : SendCall → List UInt8
  | .bytes block count _ => block.take count
  | .char c => [c]
  | .int32 value => be32 value.toUInt32
  | .uint32 value => be32 value
  | .uint64 value => be32 (hi32 value) ++ be32 (lo32 value)
  | .double value => be32 value.negative ++ (be32 value.exponent ++ (be32 value.mantissa0 ++ be32 value.mantissa1))
  | .string none => be32 (Int32.ofInt (-1)).toUInt32
  | .string (some s) => be32 (Int32.ofInt (cInt s.bytes.length)).toUInt32 ++ s.bytes.take (cInt s.bytes.length).toNat
  | .flush => []

end SendCall

/-- The message after the calls, those behind a failed one among them. -/
def afterCalls (calls : List SendCall) (m : OutMessage) : OutMessage := calls.foldl (fun m call => left (call.send m)) m

/-! ### The offset -/

theorem sendLoop_buffer (script : List SendEvent) (bytes : List UInt8) (count : Int) (m : OutMessage) :
    (left (sendLoop script bytes count m)).buffer = m.buffer := by
  induction script generalizing bytes count m with
  | nil => rfl
  | cons e es ih =>
    have hagain : (left (if 0 < count then sendLoop es bytes count m else .ok () { m with script := es })).buffer =
        m.buffer := by
      split
      · exact ih bytes count m
      · rfl
    match e with
    | .wrote n =>
      simp only [sendLoop]
      split
      · exact ih _ _ _
      · rfl
    | .again .ready => exact hagain
    | .again .interrupted => exact hagain
    | .interrupted => exact hagain
    | .again .timedOut => rfl
    | .again .failed => rfl
    | .reset => rfl
    | .failed => rfl

theorem rpcMessageFlush_buffer (m : OutMessage) : (left (rpcMessageFlush m)).buffer = [] := by
  rw [rpcMessageFlush]
  cases rpcMessageSendBytesRaw m.buffer m.buffer.length m <;> rfl

/-- The pending offset is within the buffer. -/
def OutMessage.Within (m : OutMessage) : Prop := m.buffer.length < bufSize

theorem rpcMessageFlush_within : Keeps OutMessage.Within rpcMessageFlush := fun m _ => by
  rw [OutMessage.Within, rpcMessageFlush_buffer]
  decide

theorem rpcMessageSendBytes_within (block : List UInt8) (count : Nat) :
    Keeps OutMessage.Within (rpcMessageSendBytes block count) := fun m hm => by
  by_cases h : (bufSize : Int) ≤ m.buffer.length + count
  · have hraw : Keeps OutMessage.Within (rpcMessageSendBytesRaw block count) := fun t ht => by
      rw [OutMessage.Within, ← sendLoop_buffer t.script block count t] at ht
      exact ht
    have hboth := rpcMessageFlush_within.bind (fun _ => hraw) m hm
    rwa [rpcMessageSendBytes, if_pos (.inr h)]
  · rw [rpcMessageSendBytes, if_neg (by omega), if_neg (by omega)]
    simp only [OutMessage.Within, left, List.length_append, List.length_take, Int.toNat_natCast]
    omega

theorem SendCall.send_within (call : SendCall) : Keeps OutMessage.Within call.send := by
  have hword (value : UInt32) : Keeps OutMessage.Within (rpcMessageSendUint32 value) := rpcMessageSendBytes_within _ 4
  cases call with
  | bytes block count _ => exact rpcMessageSendBytes_within block count
  | char c => exact rpcMessageSendBytes_within [c] 1
  | int32 value => exact hword value.toUInt32
  | uint32 value => exact hword value
  | uint64 value => exact (hword _).bind fun _ => hword _
  | double value =>
    refine (hword _).bind fun _ => ?_
    refine (hword _).bind fun _ => ?_
    exact (hword _).bind fun _ => hword _
  | string str =>
    cases str with
    | none => exact (hword _).bind fun _ => .pure ()
    | some s =>
      refine (hword _).bind fun _ => ?_
      simp only
      split
      · obtain ⟨n, hn⟩ := Int.eq_ofNat_of_zero_le (show 0 ≤ cInt s.bytes.length by omega)
        rw [hn]
        exact rpcMessageSendBytes_within s.bytes n
      · exact .pure ()
  | flush => exact rpcMessageFlush_within

/-- Whatever the socket does, and whether calls fail or not. -/
theorem afterCalls_within (calls : List SendCall) {m : OutMessage} (hm : m.Within) : (afterCalls calls m).Within := by
  induction calls generalizing m with
  | nil => exact hm
  | cons call calls ih => exact ih (call.send_within m hm)

/-! ### What is sent -/

/-- Nothing behind `count` bytes is looked at. -/
theorem sendLoop_take (script : List SendEvent) (bytes : List UInt8) (count : Nat) (m : OutMessage) :
    sendLoop script bytes count m = sendLoop script (bytes.take count) count m := by
  have hroom (bs : List UInt8) (n : Nat) : sendRoom bs n = n := by simp [sendRoom]
  induction script generalizing bytes count m with
  | nil => simp only [sendLoop, hroom, List.take_take, Nat.min_self]
  | cons e es ih =>
    cases e with
    | wrote n =>
      simp only [sendLoop, hroom]
      have htake : (bytes.take count).take (min n count) = bytes.take (min n count) := by
        rw [List.take_take, Nat.min_eq_left (Nat.min_le_right n count)]
      have hleft : ((count : Int) - (min n count : Nat)) = (count - min n count : Nat) := by omega
      rw [htake, hleft]
      split
      · rw [List.drop_take, ih]
      · rfl
    | again poll =>
      cases poll with
      | ready => simp only [sendLoop, ih bytes count m]
      | interrupted => simp only [sendLoop, ih bytes count m]
      | timedOut => rfl
      | failed => rfl
    | interrupted => simp only [sendLoop, ih bytes count m]
    | reset => rfl
    | failed => rfl

theorem rpcMessageSendBytes_writes_take (block : List UInt8) {count : Nat} (h : count ≤ block.length) :
    Writes OutMessage.sink (rpcMessageSendBytes block count) (block.take count) () := by
  have hlen : (block.take count).length = count := List.length_take_of_le h
  have hsame : rpcMessageSendBytes block count = rpcMessageSendBytes (block.take count) count := by
    funext m
    have hraw : rpcMessageSendBytesRaw block count = rpcMessageSendBytesRaw (block.take count) count :=
      funext fun t => sendLoop_take t.script block count t
    rw [rpcMessageSendBytes, rpcMessageSendBytes, hraw, Int.toNat_natCast, List.take_take, Nat.min_self]
  have hwrites := rpcMessageSendBytes_writes (block.take count)
  rwa [hlen, ← hsame] at hwrites

theorem cInt_le (n : Nat) : cInt n ≤ n := by
  rw [cInt, Int.bmod_def]
  split <;> omega

theorem SendCall.send_writes (call : SendCall) : Writes OutMessage.sink call.send call.given () := by
  cases call with
  | bytes block count within => exact rpcMessageSendBytes_writes_take block within
  | char c => exact (char_delivers c).writes
  | int32 value => exact (int32_delivers value).writes
  | uint32 value => exact (uint32_delivers value).writes
  | uint64 value => exact (uint64_delivers value).writes
  | double value => exact (double_delivers value).writes
  | string str =>
    cases str with
    | none => exact (int32_delivers _).writes.bind_pure (.pure ())
    | some s =>
      refine (int32_delivers _).writes.bind ?_
      simp only
      split
      · rename_i hpos
        obtain ⟨n, hn⟩ := Int.eq_ofNat_of_zero_le hpos.le
        have hle : n ≤ s.bytes.length := Int.ofNat_le.mp (hn ▸ cInt_le s.bytes.length)
        rw [hn, Int.toNat_natCast]
        exact rpcMessageSendBytes_writes_take s.bytes hle
      · rw [Int.toNat_of_nonpos (by omega), List.take_zero]
        exact .pure ()
  | flush =>
    intro m hm
    obtain ⟨t, ht, htl, hsent, hbuf⟩ := rpcMessageFlush_live hm
    refine ⟨t, ht, htl, ?_⟩
    change t.sent ++ t.buffer = m.taken ++ []
    rw [hsent, hbuf]

theorem sends_write (calls : List SendCall) :
    Writes OutMessage.sink (calls.forM SendCall.send) (calls.flatMap SendCall.given) () := by
  induction calls with
  | nil => exact .pure ()
  | cons call calls ih =>
    rw [List.flatMap_cons]
    exact call.send_writes.bind ih

/-! ### What is received -/

/-- Reads of these sizes cut what arrives into these pieces. -/
theorem recvs_read (counts : List Nat) (hpos : ∀ n ∈ counts, 0 < n) {bs : List UInt8} (hsum : counts.sum ≤ bs.length) :
    Reads InMessage.source (counts.mapM fun n : Nat => rpcMessageRecvBytes n) (bs.take counts.sum) (counts.splitLengths bs) := by
  induction counts generalizing bs with
  | nil => exact .pure []
  | cons n counts ih =>
    have hn : 0 < n := hpos n (List.mem_cons_self ..)
    rw [List.sum_cons] at hsum ⊢
    have hlen : (bs.take n).length = n := List.length_take_of_le (by omega)
    have hrest : counts.sum ≤ (bs.drop n).length := by
      rw [List.length_drop]
      omega
    have hpiece : Reads InMessage.source (rpcMessageRecvBytes n) (bs.take n) (bs.take n) := by
      have hread : Reads InMessage.source (rpcMessageRecvBytes (bs.take n).length) (bs.take n) (bs.take n) :=
        rpcMessageRecvBytes_reads (List.ne_nil_of_length_pos (by omega))
      rwa [hlen] at hread
    have hcounts := ih (fun k hk => hpos k (List.mem_cons_of_mem _ hk)) hrest
    rw [List.mapM_cons, List.splitLengths_cons, List.take_add]
    refine hpiece.bind ?_
    exact hcounts.bind_pure (.pure _)

/-- Calls and a flush at one end, any cut of the stream, any reads at the other: the bytes arrive as they were
    given, and the offset never leaves the buffer. -/
theorem transport_transparent (calls : List SendCall) {socket : OutMessage} (hlive : socket.Live) :
    (∀ other done, done <+: calls → (afterCalls done (rpcMessageInit other)).Within) ∧
    ∃ t, (do calls.forM SendCall.send; rpcMessageFlush) (rpcMessageInit socket) = .ok () t ∧ t.Within ∧
      t.sent = socket.sent ++ calls.flatMap SendCall.given ∧
      ∀ (m : InMessage) (rest : List UInt8), m.Live → m.held = calls.flatMap SendCall.given ++ rest →
        ∀ counts : List Nat, (∀ n ∈ counts, 0 < n) → counts.sum ≤ (calls.flatMap SendCall.given).length →
          ∃ u, (counts.mapM fun n : Nat => rpcMessageRecvBytes n) m =
              .ok (counts.splitLengths (calls.flatMap SendCall.given)) u ∧
            u.held = (calls.flatMap SendCall.given).drop counts.sum ++ rest := by
  have hinit : ∀ other, (rpcMessageInit other).Within := fun other => Nat.zero_lt_succ _
  refine ⟨fun other done _ => afterCalls_within done (hinit other), ?_⟩
  obtain ⟨s, hs, hsl, htaken⟩ := sends_write calls (rpcMessageInit socket) hlive
  obtain ⟨t, ht, -, hsent, hbuf⟩ := rpcMessageFlush_live hsl
  refine ⟨t, ?_, ?_, ?_, ?_⟩
  · simp only [bind, EStateM.bind, hs, ht]
  · rw [OutMessage.Within, hbuf]
    exact Nat.zero_lt_succ _
  · rw [hsent]
    refine htaken.trans ?_
    change socket.sent ++ [] ++ calls.flatMap SendCall.given = _
    rw [List.append_nil]
  · intro m rest hm hheld counts hpos hsum
    rw [← List.take_append_drop counts.sum (calls.flatMap SendCall.given), List.append_assoc] at hheld
    obtain ⟨u, hu, -, hrest⟩ := recvs_read counts hpos hsum m _ hm hheld
    exact ⟨u, hu, hrest⟩

/-- A word behind a byte, written in two parts with an interruption between them and read as two and three bytes. -/
theorem word_transported : ∃ t, (do [SendCall.char 1, .int32 258].forM SendCall.send; rpcMessageFlush)
      (rpcMessageInit ⟨[], [], [.wrote 3, .interrupted]⟩) = .ok () t ∧ t.sent = [1, 0, 0, 1, 2] ∧
    ∃ u, ([2, 3].mapM fun n : Nat => rpcMessageRecvBytes n) ⟨[.data 1 [0, 0], .again .ready, .data 1 [2]], []⟩ =
      .ok [[1, 0], [0, 1, 2]] u ∧ u.held = [] := by
  have hlive : OutMessage.Live ⟨[], [], [.wrote 3, .interrupted]⟩ := by simp [OutMessage.Live, SendEvent.live]
  have hheld : InMessage.Live ⟨[.data 1 [0, 0], .again .ready, .data 1 [2]], []⟩ := by
    simp [InMessage.Live, RecvEvent.live]
  obtain ⟨-, t, ht, -, hsent, hread⟩ := transport_transparent [.char 1, .int32 258] hlive
  obtain ⟨u, hu, hrest⟩ := hread _ [] hheld rfl [2, 3] (by decide) (by decide)
  exact ⟨t, ht, hsent, u, hu, hrest⟩

end NSPluginWrapper
