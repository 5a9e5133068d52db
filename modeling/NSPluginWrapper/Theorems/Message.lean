import Mathlib.Data.List.TakeWhile
import NSPluginWrapper.Lib.Codec
import NSPluginWrapper.Rpc.Message

/-! The byte loops of a message deliver what they are given, however the kernel cuts it up, and each
    primitive is carried: the bytes its sender writes are the ones its receiver reads, with the same value. -/

namespace NSPluginWrapper
open Lib

/-! ### Live messages -/

/-- What leaves the stream going: data, a wait that ends well, an interruption. -/
def SendEvent.live : SendEvent → Prop
  | .wrote _ | .again .ready | .again .interrupted | .interrupted => True
  | .again .timedOut | .again .failed | .reset | .failed => False

def RecvEvent.live : RecvEvent → Prop
  | .data .. | .again .ready | .again .interrupted | .interrupted => True
  | .closed | .again .timedOut | .again .failed | .failed => False

namespace OutMessage

/-- What has been handed to the message, on the socket or still in the buffer. -/
def taken (m : OutMessage) : List UInt8 := m.sent ++ m.buffer

def Live (m : OutMessage) : Prop := ∀ e ∈ m.script, e.live

def sink : Sink OutMessage := ⟨taken, Live⟩

end OutMessage

namespace InMessage

/-- The stream goes on and every allocation succeeds. -/
def Live (m : InMessage) : Prop := (∀ e ∈ m.script, e.live) ∧ ∀ ok ∈ m.memory, ok = true

def source : Source InMessage := ⟨held, Live⟩

end InMessage

/-- A value one side sends and the other receives from the same bytes, as `b`. -/
abbrev Delivers {α : Type} (w : Send Unit) (r : Recv α) (bs : List UInt8) (b : α) : Prop :=
  Carried OutMessage.sink InMessage.source w () r bs b

/-! ### The byte loops -/

theorem sendLoop_live {script : List SendEvent} (hlive : ∀ e ∈ script, e.live) (bytes : List UInt8)
    (m : OutMessage) : ∃ t, sendLoop script bytes bytes.length m = .ok () t ∧ t.Live ∧
      t.sent = m.sent ++ bytes ∧ t.buffer = m.buffer := by
  induction script generalizing bytes m with
  | nil => exact ⟨_, rfl, by simp [OutMessage.Live], by simp [sendRoom], rfl⟩
  | cons e es ih =>
    have he := hlive e (List.mem_cons_self ..)
    have hes : ∀ e ∈ es, e.live := fun e h => hlive e (List.mem_cons_of_mem _ h)
    have hroom : sendRoom bytes bytes.length = bytes.length := by simp [sendRoom]
    -- a call that sent nothing leaves the loop only when there is nothing to send
    have hagain : ∃ t, (if 0 < (bytes.length : Int) then sendLoop es bytes bytes.length m
        else .ok () { m with script := es }) = .ok () t ∧ t.Live ∧ t.sent = m.sent ++ bytes ∧ t.buffer = m.buffer := by
      split
      · exact ih hes bytes m
      · have hnil : bytes = [] := List.length_eq_zero_iff.mp (by omega)
        exact ⟨_, rfl, hes, by simp [hnil], rfl⟩
    match e, he with
    | .wrote n, _ =>
      simp only [sendLoop, hroom]
      split
      · have hlen : ((bytes.length : Int) - (min n bytes.length : Nat)) = (bytes.drop (min n bytes.length)).length := by
          rw [List.length_drop]
          omega
        rw [hlen]
        obtain ⟨t, ht, htl, hsent, hbuf⟩ := ih hes (bytes.drop (min n bytes.length))
          { m with sent := m.sent ++ bytes.take (min n bytes.length), script := es }
        refine ⟨t, ht, htl, ?_, hbuf⟩
        rw [hsent, List.append_assoc, List.take_append_drop]
      · have hall : min n bytes.length = bytes.length := by omega
        exact ⟨_, rfl, hes, by simp [hall], rfl⟩
    | .again .ready, _ => exact hagain
    | .again .interrupted, _ => exact hagain
    | .interrupted, _ => exact hagain

theorem rpcMessageFlush_live {m : OutMessage} (hm : m.Live) :
    ∃ t, rpcMessageFlush m = .ok () t ∧ t.Live ∧ t.sent = m.taken ∧ t.buffer = [] := by
  obtain ⟨t, ht, htl, hsent, -⟩ := sendLoop_live hm m.buffer m
  exact ⟨{ t with buffer := [] }, by simp only [rpcMessageFlush, rpcMessageSendBytesRaw, ht], htl, hsent, rfl⟩

theorem rpcMessageSendBytes_writes (bytes : List UInt8) :
    Writes OutMessage.sink (rpcMessageSendBytes bytes bytes.length) bytes () := fun m hm => by
  by_cases h : (bufSize : Int) ≤ m.buffer.length + bytes.length
  · obtain ⟨t, ht, htl, hsent, hbuf⟩ := rpcMessageFlush_live hm
    obtain ⟨u, hu, hul, hsent', hbuf'⟩ := sendLoop_live htl bytes t
    refine ⟨u, ?_, hul, ?_⟩
    · rw [rpcMessageSendBytes, if_pos (.inr h)]
      simp only [bind, EStateM.bind, ht]
      exact hu
    · change u.sent ++ u.buffer = m.taken ++ bytes
      rw [hsent', hbuf', hbuf, hsent, List.append_nil]
  · refine ⟨{ m with buffer := m.buffer ++ bytes }, ?_, hm, (List.append_assoc ..).symm⟩
    rw [rpcMessageSendBytes, if_neg (by omega), if_neg (by omega), Int.toNat_natCast, List.take_length]

@[simp] theorem leftover_bytes (bs : List UInt8) : (leftover bs).flatMap RecvEvent.bytes = bs := by
  cases bs <;> simp [leftover, RecvEvent.bytes]

theorem recvLoop_live {script : List RecvEvent} (hlive : ∀ e ∈ script, e.live) {bs rest : List UInt8}
    (hbs : bs ≠ []) (hheld : script.flatMap RecvEvent.bytes = bs ++ rest) (got : List UInt8) (m : InMessage) :
    ∃ t, recvLoop script bs.length got m = .ok (got ++ bs) { m with script := t } ∧ (∀ e ∈ t, e.live) ∧
      t.flatMap RecvEvent.bytes = rest := by
  have hpos : 0 < bs.length := List.length_pos_iff.mpr hbs
  induction script generalizing bs got with
  | nil =>
    have hnil : bs ++ rest = [] := hheld.symm
    exact absurd (List.append_eq_nil_iff.mp hnil).1 hbs
  | cons e es ih =>
    have he := hlive e (List.mem_cons_self ..)
    have hes : ∀ e ∈ es, e.live := fun e h => hlive e (List.mem_cons_of_mem _ h)
    have hagain (h : e.bytes = []) : ∃ t, (if 0 < (bs.length : Int) then recvLoop es bs.length got m
        else .ok got { m with script := es }) = .ok (got ++ bs) { m with script := t } ∧ (∀ e ∈ t, e.live) ∧
        t.flatMap RecvEvent.bytes = rest := by
      rw [if_pos (by omega)]
      refine ih hes hbs ?_ got hpos
      rw [← hheld, List.flatMap_cons, h, List.nil_append]
    match e, he with
    | .data b cs, _ =>
      rw [List.flatMap_cons] at hheld
      have hn : min ((bs.length : Int).toNat) (cs.length + 1) = min bs.length (cs.length + 1) := by simp
      simp only [recvLoop, if_neg (show ¬(bs.length : Int) < 0 by omega), hn,
        if_neg (show ¬min bs.length (cs.length + 1) = 0 by omega)]
      -- either the chunk runs out first, or it holds all that is left to read
      rcases List.append_eq_append_iff.mp hheld with ⟨bs', rfl, hes'⟩ | ⟨cs', hcs, rfl⟩
      · rcases eq_or_ne bs' [] with rfl | hne
        · refine ⟨es, ?_, hes, hes'⟩
          rw [if_neg (by simp [RecvEvent.bytes])]
          simp [RecvEvent.bytes, leftover]
        · have hpos' : 0 < bs'.length := List.length_pos_iff.mpr hne
          obtain ⟨t, ht, hlive', hrest⟩ := ih hes hne hes' (got ++ b :: cs) hpos'
          refine ⟨t, ?_, hlive', hrest⟩
          have hmin : min (RecvEvent.bytes (.data b cs) ++ bs').length (cs.length + 1) = cs.length + 1 := by
            simp [RecvEvent.bytes]
          have hleft : (((RecvEvent.bytes (.data b cs) ++ bs').length : Int) - (cs.length + 1 : Nat)) = bs'.length := by
            simp [RecvEvent.bytes]
          rw [hmin, hleft, if_pos (by omega), List.take_of_length_le (by simp), ht, List.append_assoc]
          rfl
      · have hlen : (bs ++ cs').length = cs.length + 1 := by rw [← hcs]; rfl
        rw [List.length_append] at hlen
        have hmin : min bs.length (cs.length + 1) = bs.length := by omega
        have hdata : b :: cs = bs ++ cs' := hcs
        refine ⟨leftover cs' ++ es, ?_, ?_, ?_⟩
        · rw [hmin, if_neg (by omega), hdata, List.take_left', List.drop_left'] <;> rfl
        · intro e h
          rcases List.mem_append.mp h with h | h
          · cases cs' with
            | nil => cases h
            | cons c cs' =>
              rw [leftover, List.mem_singleton] at h
              rw [h]
              trivial
          · exact hes e h
        · rw [List.flatMap_append, leftover_bytes]
    | .again .ready, _ => exact hagain rfl
    | .again .interrupted, _ => exact hagain rfl
    | .interrupted, _ => exact hagain rfl

theorem rpcMessageRecvBytes_reads {bs : List UInt8} (hbs : bs ≠ []) :
    Reads InMessage.source (rpcMessageRecvBytes bs.length) bs bs := fun m rest hm hheld => by
  obtain ⟨t, ht, htl, hrest⟩ := recvLoop_live hm.1 hbs hheld [] m
  exact ⟨{ m with script := t }, ht, ⟨htl, hm.2⟩, hrest⟩

theorem malloc_reads : Reads InMessage.source malloc [] true := fun m rest hm hheld => by
  cases hmem : m.memory with
  | nil => exact ⟨m, by simp only [malloc, hmem], hm, hheld⟩
  | cons ok memory =>
    have hok : ok = true := hm.2 ok (by rw [hmem]; exact List.mem_cons_self ..)
    refine ⟨{ m with memory }, by simp only [malloc, hmem, hok], ⟨hm.1, fun b hb => hm.2 b ?_⟩, hheld⟩
    rw [hmem]
    exact List.mem_cons_of_mem _ hb

/-! ### Primitives -/

theorem char_delivers (c : UInt8) : Delivers (rpcMessageSendChar c) rpcMessageRecvChar [c] c where
  writes := rpcMessageSendBytes_writes [c]
  reads := (rpcMessageRecvBytes_reads (List.cons_ne_nil c [])).map _

theorem uint32_delivers (value : UInt32) :
    Delivers (rpcMessageSendUint32 value) rpcMessageRecvUint32 (be32 value) value where
  writes := rpcMessageSendBytes_writes (be32 value)
  reads := (rpcMessageRecvBytes_reads (be32_ne_nil value)).map_eq (ofBe32_be32 value)

theorem int32_delivers (value : Int32) :
    Delivers (rpcMessageSendInt32 value) rpcMessageRecvInt32 (be32 value.toUInt32) value where
  writes := (uint32_delivers value.toUInt32).writes
  reads := (uint32_delivers value.toUInt32).reads.map_eq (f := UInt32.toInt32) (Int32.toInt32_toUInt32 value)

theorem uint64_delivers (value : UInt64) : Delivers (rpcMessageSendUint64 value) rpcMessageRecvUint64
    (be32 (hi32 value) ++ be32 (lo32 value)) value where
  writes := (uint32_delivers _).writes.bind (uint32_delivers _).writes
  reads := (uint32_delivers _).reads.bind (f := fun hi => join32 hi <$> rpcMessageRecvUint32) <|
    (uint32_delivers _).reads.map_eq (join32_hi32_lo32 value)

@[simp] theorem Double.ofParts_parts (d : Double) :
    Double.ofParts d.negative d.exponent d.mantissa0 d.mantissa1 = d := by
  have hd : d.bits.toNat < 2 ^ 64 := d.bits.toNat_lt
  rw [Double.mk.injEq, ← UInt64.toNat_inj]
  simp only [Double.ofParts, Double.negative, Double.exponent, Double.mantissa0, Double.mantissa1,
    UInt32.toNat_ofNat', UInt64.toNat_ofNat']
  omega

theorem double_delivers (value : Double) : Delivers (rpcMessageSendDouble value) rpcMessageRecvDouble
    (be32 value.negative ++ (be32 value.exponent ++ (be32 value.mantissa0 ++ be32 value.mantissa1))) value where
  writes := (uint32_delivers _).writes.bind <| (uint32_delivers _).writes.bind <|
    (uint32_delivers _).writes.bind (uint32_delivers _).writes
  reads := by
    refine (uint32_delivers _).reads.bind ?_
    refine (uint32_delivers _).reads.bind ?_
    refine (uint32_delivers _).reads.bind ?_
    exact (uint32_delivers _).reads.map_eq (Double.ofParts_parts value)

/-! ### Any stream -/

/-- Whatever arrives, so many bytes are read, or an error stops the loop. -/
theorem recvLoop_cases (script : List RecvEvent) {count : Nat} (hpos : 0 < count) (got : List UInt8) (m : InMessage) :
    (∃ bs t, recvLoop script count got m = .ok (got ++ bs) { m with script := t } ∧ bs.length = count ∧
      script.flatMap RecvEvent.bytes = bs ++ t.flatMap RecvEvent.bytes) ∨
    ∃ code t, recvLoop script count got m = .error (.error code) t := by
  induction script generalizing count got with
  | nil => exact Or.inr ⟨_, _, rfl⟩
  | cons e es ih =>
    have hagain (h : e.bytes = []) : (∃ bs t, (if 0 < (count : Int) then recvLoop es count got m
          else .ok got { m with script := es }) = .ok (got ++ bs) { m with script := t } ∧ bs.length = count ∧
          (e :: es).flatMap RecvEvent.bytes = bs ++ t.flatMap RecvEvent.bytes) ∨
        ∃ code t, (if 0 < (count : Int) then recvLoop es count got m else .ok got { m with script := es }) =
          .error (.error code) t := by
      rw [if_pos (by omega), List.flatMap_cons, h, List.nil_append]
      exact ih hpos got
    match e with
    | .data b cs =>
      have hn : min ((count : Int).toNat) (cs.length + 1) = min count (cs.length + 1) := by simp
      simp only [recvLoop, if_neg (show ¬(count : Int) < 0 by omega), hn,
        if_neg (show ¬min count (cs.length + 1) = 0 by omega), List.flatMap_cons]
      by_cases hmore : cs.length + 1 < count
      · have hmin : min count (cs.length + 1) = cs.length + 1 := by omega
        have hleft : ((count : Int) - (cs.length + 1 : Nat)) = (count - (cs.length + 1) : Nat) := by omega
        rw [hmin, hleft, if_pos (by omega), List.take_of_length_le (by simp)]
        rcases ih (show 0 < count - (cs.length + 1) by omega) (got ++ b :: cs) with ⟨bs, t, ht, hlen, hbs⟩ | h
        · refine Or.inl ⟨b :: cs ++ bs, t, ?_, ?_, ?_⟩
          · rw [ht, List.append_assoc]
          · rw [List.length_append, List.length_cons, hlen]
            omega
          · rw [hbs, List.append_assoc]
            rfl
        · exact Or.inr h
      · have hmin : min count (cs.length + 1) = count := by omega
        rw [hmin, if_neg (by omega)]
        refine Or.inl ⟨(b :: cs).take count, _, rfl, ?_, ?_⟩
        · rw [List.length_take, List.length_cons]
          omega
        · rw [List.flatMap_append, leftover_bytes, ← List.append_assoc, List.take_append_drop]
          rfl
    | .again .ready => exact hagain rfl
    | .again .interrupted => exact hagain rfl
    | .interrupted => exact hagain rfl
    | .closed => exact Or.inr ⟨_, _, rfl⟩
    | .again .timedOut => exact Or.inr ⟨_, _, rfl⟩
    | .again .failed => exact Or.inr ⟨_, _, rfl⟩
    | .failed => exact Or.inr ⟨_, _, rfl⟩

/-- A word is what the next four bytes are. -/
theorem rpcMessageRecvUint32_cases (m : InMessage) :
    (∃ value t, rpcMessageRecvUint32 m = .ok value t ∧ m.held = be32 value ++ t.held) ∨
    ∃ code t, rpcMessageRecvUint32 m = .error (.error code) t := by
  rcases recvLoop_cases m.script (show 0 < 4 by decide) [] m with ⟨bs, t, ht, hlen, hbs⟩ | ⟨code, t, ht⟩
  · refine Or.inl ⟨ofBe32 bs, { m with script := t }, ?_, ?_⟩
    · have hrecv : rpcMessageRecvBytes 4 m = .ok bs { m with script := t } := ht
      simp only [rpcMessageRecvUint32, Functor.map, EStateM.map, hrecv]
    · rw [be32_ofBe32 hlen]
      exact hbs
  · have hrecv : rpcMessageRecvBytes 4 m = .error (.error code) t := ht
    refine Or.inr ⟨code, t, ?_⟩
    simp only [rpcMessageRecvUint32, Functor.map, EStateM.map, hrecv]

theorem rpcMessageRecvInt32_cases (m : InMessage) :
    (∃ value t, rpcMessageRecvInt32 m = .ok value t ∧ m.held = be32 value.toUInt32 ++ t.held) ∨
    ∃ code t, rpcMessageRecvInt32 m = .error (.error code) t := by
  rcases rpcMessageRecvUint32_cases m with ⟨value, t, ht, hheld⟩ | ⟨code, t, ht⟩
  · refine Or.inl ⟨value.toInt32, t, ?_, ?_⟩
    · simp only [rpcMessageRecvInt32, bind, EStateM.bind, ht]
      rfl
    · rw [UInt32.toUInt32_toInt32]
      exact hheld
  · exact Or.inr ⟨code, t, by simp only [rpcMessageRecvInt32, bind, EStateM.bind, ht]⟩

/-! ### Strings -/

theorem cInt_of_lt {n : Nat} (h : n < 2 ^ 31) : cInt n = n := Int.bmod_eq_of_le (by omega) (by omega)

/-- A string on the wire: its length, -1 for NULL, and its bytes. -/
def stringBytes : Option CString → List UInt8
  | none => be32 (Int32.ofInt (-1)).toUInt32
  | some s => be32 (Int32.ofInt s.bytes.length).toUInt32 ++ s.bytes

theorem string_delivers (str : Option CString) (hlen : ∀ s ∈ str, s.bytes.length < 2 ^ 31) :
    Delivers (rpcMessageSendString str) rpcMessageRecvString (stringBytes str) str := by
  cases str with
  | none =>
    refine ⟨?_, ?_⟩
    · exact (int32_delivers _).writes.bind_pure (.pure ())
    · refine (int32_delivers _).reads.bind_pure ?_
      rw [if_pos (by decide)]
      exact .pure none
  | some s =>
    have hs := hlen s rfl
    have hint := cInt_of_lt hs
    have hlength : (Int32.ofInt s.bytes.length).toInt = s.bytes.length := Int32.toInt_ofInt_of_le (by omega) (by omega)
    refine ⟨?_, ?_⟩
    · simp only [rpcMessageSendString, hint, stringBytes]
      refine (int32_delivers _).writes.bind ?_
      split
      · exact rpcMessageSendBytes_writes s.bytes
      · have hnil : s.bytes = [] := List.length_eq_zero_iff.mp (by omega)
        rw [hnil]
        exact .pure ()
    · refine (int32_delivers _).reads.bind ?_
      rw [hlength, if_neg (by omega)]
      refine malloc_reads.bind_nil ?_
      rw [if_neg (by simp), if_neg (by omega)]
      split
      · have hne : s.bytes ≠ [] := List.length_pos_iff.mp (by omega)
        exact (rpcMessageRecvBytes_reads hne).map_eq (by simp)
      · have hnil : s.bytes = [] := List.length_eq_zero_iff.mp (by omega)
        have hstr : CString.ofBytes [] = s := by rw [← hnil, CString.ofBytes_bytes]
        rw [hstr, hnil]
        exact .pure (some s)

end NSPluginWrapper
