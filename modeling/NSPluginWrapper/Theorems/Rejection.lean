import NSPluginWrapper.Npapi.Event
import NSPluginWrapper.Theorems.Dispatch

/-! A value that cannot be encoded: the call it is in fails, and the failure costs the connection, since every
    error of a message goes through `rpc_error`. What was encoded before it has mostly not left the buffer. -/

namespace NSPluginWrapper
open Lib

variable {V : Type}

/-! ### Which errors -/

/-- An error has a code below zero. -/
def Failure.Coded : Failure → Prop
  | .error code => code < 0
  | .fault => True

theorem Failure.coded {code : Int} (h : code < 0) : (Failure.error code).Coded := h

/-- The callbacks return codes below zero, as `rpc_error` asserts. -/
def TypeMap.Coded (types : TypeMap V) : Prop :=
  ∀ t desc, types t = some desc → ∀ x, Raises (desc.sendCallback x) Failure.Coded

theorem Failure.Negative.coded {e : Failure} (h : e.Negative) : e.Coded := by
  cases e with
  | error code => exact h
  | fault => trivial

theorem sendLoop_negative (script : List SendEvent) {bytes : List UInt8} {count : Int} {m t : OutMessage} {e : Failure}
    (h : sendLoop script bytes count m = .error e t) : e.Negative := by
  induction script generalizing bytes count m with
  | nil => cases h
  | cons event es ih =>
    have hagain (h : (if 0 < count then sendLoop es bytes count m else .ok () { m with script := es }) = .error e t) :
        e.Negative := by
      split at h
      · exact ih h
      · cases h
    match event with
    | .wrote n =>
      simp only [sendLoop] at h
      split at h
      · exact ih h
      · cases h
    | .again .ready => exact hagain h
    | .again .interrupted => exact hagain h
    | .interrupted => exact hagain h
    | .again .timedOut => cases h; exact Failure.negative (by decide)
    | .reset => cases h; exact Failure.negative (by decide)
    | .again .failed => cases h; exact Failure.negative (by decide)
    | .failed => cases h; exact Failure.negative (by decide)

theorem rpcMessageFlush_negative : Raises rpcMessageFlush Failure.Negative := by
  intro m e t h
  unfold rpcMessageFlush at h
  split at h
  · cases h
  · rename_i hloop
    cases h
    exact sendLoop_negative _ hloop

theorem flushed_negative (bytes : List UInt8) (count : Int) :
    Raises (do rpcMessageFlush; rpcMessageSendBytesRaw bytes count) Failure.Negative :=
  rpcMessageFlush_negative.bind fun _ _ _ _ h => sendLoop_negative _ h

theorem int32_negative (value : Int32) : Raises (rpcMessageSendInt32 value) Failure.Negative := by
  intro m e t h
  unfold rpcMessageSendInt32 rpcMessageSendBytes at h
  split at h
  · exact flushed_negative _ _ m e t h
  · cases h

theorem rpcMessageSendBytes_coded (bytes : List UInt8) (count : Int) :
    Raises (rpcMessageSendBytes bytes count) Failure.Coded := by
  intro m e t h
  unfold rpcMessageSendBytes at h
  split at h
  · exact (flushed_negative _ _ m e t h).coded
  · split at h
    · cases h
      trivial
    · cases h

theorem int32_coded (value : Int32) : Raises (rpcMessageSendInt32 value) Failure.Coded := rpcMessageSendBytes_coded _ _

theorem uint32_coded (value : UInt32) : Raises (rpcMessageSendUint32 value) Failure.Coded :=
  rpcMessageSendBytes_coded _ _

theorem uint64_coded (value : UInt64) : Raises (rpcMessageSendUint64 value) Failure.Coded :=
  (uint32_coded _).bind fun _ => uint32_coded _

theorem double_coded (value : Double) : Raises (rpcMessageSendDouble value) Failure.Coded :=
  (uint32_coded _).bind fun _ => (uint32_coded _).bind fun _ => (uint32_coded _).bind fun _ => uint32_coded _

theorem string_coded (str : Option CString) : Raises (rpcMessageSendString str) Failure.Coded := by
  unfold rpcMessageSendString
  refine (int32_coded _).bind fun _ => ?_
  cases str with
  | none => exact .pure ()
  | some s =>
    simp only
    split
    · exact rpcMessageSendBytes_coded _ _
    · exact .pure ()

/-! ### Arguments -/

theorem indexed_coded (i : Nat) : Raises (indexed (σ := OutMessage) i) Failure.Coded := by
  unfold indexed
  split
  · exact .pure ()
  · exact .throw trivial

theorem addressed_coded (block size i : Nat) : Raises (addressed (σ := OutMessage) block size i) Failure.Coded := by
  unfold addressed
  split
  · exact .pure ()
  · exact .throw trivial

variable {types : TypeMap V}

theorem sendElements_coded (htypes : types.Coded) (es : Elements V) : Raises (sendElements types es) Failure.Coded := by
  cases es with
  | char xs => exact rpcMessageSendBytes_coded _ _
  | boolean xs => exact .all (fun i x => (indexed_coded i).bind fun _ => int32_coded x) _ _
  | int32 xs => exact .all (fun i x => (indexed_coded i).bind fun _ => int32_coded x) _ _
  | uint32 xs => exact .all (fun i x => (indexed_coded i).bind fun _ => uint32_coded x) _ _
  | uint64 xs => exact .all (fun i x => (indexed_coded i).bind fun _ => uint64_coded x) _ _
  | double xs => exact .all (fun i x => (indexed_coded i).bind fun _ => double_coded x) _ _
  | string xs => exact .all (fun i x => (indexed_coded i).bind fun _ => string_coded x) _ _
  | user t xs =>
    cases ht : types t with
    | none =>
      simp only [sendElements, ht]
      exact .throw (Failure.coded (by decide))
    | some desc =>
      simp only [sendElements, ht]
      exact .all (fun i x => (addressed_coded _ _ i).bind fun _ => htypes t desc ht x) _ _

theorem sendArray_coded (htypes : types.Coded) (a : ArrayArg V) : Raises (sendArray types a) Failure.Coded := by
  unfold sendArray
  refine (int32_coded _).bind fun _ => (uint32_coded _).bind fun _ => ?_
  split
  · exact rpcMessageSendBytes_coded _ _
  · split
    · exact (rpcMessageSendBytes_coded _ _).bind fun _ => sendElements_coded htypes _
    · exact rpcMessageSendBytes_coded _ _

theorem sendArg_coded (htypes : types.Coded) (arg : Arg V) : Raises (sendArg types arg) Failure.Coded := by
  rw [sendArg_eq]
  refine (int32_coded _).bind fun _ => ?_
  cases arg with
  | char c => exact rpcMessageSendBytes_coded _ _
  | boolean value => exact int32_coded value
  | int32 value => exact int32_coded value
  | uint32 value => exact uint32_coded value
  | uint64 value => exact uint64_coded value
  | double value => exact double_coded value
  | string str => exact string_coded str
  | array a => exact sendArray_coded htypes a
  | user t x =>
    cases ht : types t with
    | none =>
      simp only [sendValue, ht]
      exact .throw (Failure.coded (by decide))
    | some desc =>
      simp only [sendValue, ht]
      exact htypes t desc ht x

/-! ### Rejected arguments -/

/-- A value whose type has no descriptor, or one that its own descriptor rejects whatever the socket does. -/
def TypeMap.Rejects (types : TypeMap V) (t : UserType) (x : V) : Prop :=
  ∀ desc, types t = some desc → Fails (desc.sendCallback x) Failure.Coded

/-- An argument that is such a value, or an array with one. The size of an array is an `unsigned int`. -/
def Arg.Rejected (types : TypeMap V) : Arg V → Prop
  | .user t x => types.Rejects t x
  | .array (.elements (.user t xs)) => xs.length < 2 ^ 32 ∧ ∃ x ∈ xs, types.Rejects t x
  | _ => False

theorem sendElements_fails (htypes : types.Coded) {t : UserType} {xs : List V} {x : V} (hx : x ∈ xs)
    (hrejects : types.Rejects t x) : Fails (sendElements types (.user t xs)) Failure.Coded := by
  cases ht : types t with
  | none =>
    simp only [sendElements, ht]
    exact .throw (Failure.coded (by decide))
  | some desc =>
    simp only [sendElements, ht]
    exact .all (fun i x => (addressed_coded _ _ i).bind fun _ => htypes t desc ht x) hx
      (fun i => (addressed_coded _ _ i).fails fun _ => hrejects desc ht) 0

theorem sendArg_fails (htypes : types.Coded) {arg : Arg V} (h : arg.Rejected types) :
    Fails (sendArg types arg) Failure.Coded := by
  rw [sendArg_eq]
  refine (int32_coded _).fails fun _ => ?_
  match arg, h with
  | .user t x, h =>
    cases ht : types t with
    | none =>
      simp only [sendValue, ht]
      exact .throw (Failure.coded (by decide))
    | some desc =>
      simp only [sendValue, ht]
      exact h desc ht
  | .array (.elements (.user t xs)), ⟨hlen, x, hx, hrejects⟩ =>
    have hsize : 0 < (ArrayArg.elements (.user t xs)).size := by
      rw [UInt32.lt_iff_toNat_lt, ArrayArg.size, Elements.length, UInt32.toNat_ofNat', Nat.mod_eq_of_lt hlen]
      exact List.length_pos_of_mem hx
    refine (int32_coded _).fails fun _ => (uint32_coded _).fails fun _ => ?_
    simp only [if_pos hsize]
    exact (rpcMessageSendBytes_coded _ _).fails fun _ => sendElements_fails htypes hx hrejects

/-! ### Argument lists -/

/-- The process does not go on in the middle of this argument. -/
def Arg.Faults (types : TypeMap V) (arg : Arg V) : Prop := ∃ m t, sendArg types arg m = .error .fault t

/-- What stops a list: an error code, or one of its arguments that the process does not survive. -/
def Stopping (types : TypeMap V) (args : List (Arg V)) : Failure → Prop
  | .error code => code < 0
  | .fault => ∃ arg ∈ args, arg.Faults types

theorem sendArg_stopping (htypes : types.Coded) {args : List (Arg V)} {arg : Arg V} (harg : arg ∈ args) :
    Raises (sendArg types arg) (Stopping types args) := by
  intro m e t h
  cases e with
  | error code => exact sendArg_coded htypes arg m _ t h
  | fault => exact ⟨arg, harg, m, t, h⟩

theorem sendEach_fails (htypes : types.Coded) {all args : List (Arg V)} (hall : ∀ arg ∈ args, arg ∈ all)
    (h : ∃ arg ∈ args, arg.Rejected types) : Fails (sendEach types args) (Stopping types all) := by
  induction args with
  | nil => simp at h
  | cons arg args ih =>
    have harg : arg ∈ all := hall arg (List.mem_cons_self ..)
    by_cases hrejected : arg.Rejected types
    · refine Fails.bind (fun m => ?_) _
      obtain ⟨e, t, ht, -⟩ := sendArg_fails htypes hrejected m
      exact ⟨e, t, ht, sendArg_stopping htypes harg m e t ht⟩
    · have hlater : ∃ arg ∈ args, arg.Rejected types := by
        obtain ⟨a, ha, hr⟩ := h
        rcases List.mem_cons.mp ha with rfl | ha
        · exact absurd hr hrejected
        · exact ⟨a, ha, hr⟩
      exact (sendArg_stopping htypes harg).fails fun _ => ih (fun a ha => hall a (List.mem_cons_of_mem _ ha)) hlater

theorem Failure.Negative.stopping {args : List (Arg V)} {e : Failure} (h : e.Negative) : Stopping types args e := by
  cases e with
  | error code => exact h
  | fault => exact h.elim

theorem rpcMessageSendArgs_fails (htypes : types.Coded) {args : List (Arg V)} (h : ∃ arg ∈ args, arg.Rejected types) :
    Fails (rpcMessageSendArgs types args) (Stopping types args) := by
  obtain ⟨arg, harg, -⟩ := id h
  have hne : ¬args.isEmpty := by
    rw [List.isEmpty_iff]
    exact List.ne_nil_of_mem harg
  rw [rpcMessageSendArgs, if_neg hne]
  refine ((int32_negative _).mono fun _ => Failure.Negative.stopping).fails fun _ => ?_
  exact (sendEach_fails htypes (fun _ h => h) h).bind _

theorem invokeMessage_fails (htypes : types.Coded) {args : List (Arg V)} (h : ∃ arg ∈ args, arg.Rejected types)
    (method : Int32) : Fails (invokeMessage types method args) (Stopping types args) := by
  have hmarker (value : Int32) : Raises (rpcMessageSendInt32 value) (Stopping types args) :=
    (int32_negative value).mono fun _ => Failure.Negative.stopping
  obtain ⟨arg, harg, -⟩ := id h
  have hne : ¬args.isEmpty := by
    rw [List.isEmpty_iff]
    exact List.ne_nil_of_mem harg
  refine (hmarker _).fails fun _ => (hmarker _).fails fun _ => (hmarker _).fails fun _ => ?_
  refine (rpcMessageFlush_negative.mono fun _ => Failure.Negative.stopping).fails fun _ => ?_
  rw [if_neg hne]
  exact (rpcMessageSendArgs_fails htypes h).bind _

theorem replyMessage_fails (htypes : types.Coded) {args : List (Arg V)} (h : ∃ arg ∈ args, arg.Rejected types) :
    Fails (replyMessage types args) (Stopping types args) := by
  refine ((int32_negative _).mono fun _ => Failure.Negative.stopping).fails fun _ => ?_
  exact (rpcMessageSendArgs_fails htypes h).bind _

/-! ### What it costs -/

/-- The call returned an error, no other can be made, and the error callback has run; or the process did not
    survive an argument. -/
def Costs (types : TypeMap V) (args : List (Arg V)) (c : Connection) :
    Option (Except Int Unit × Connection × OutMessage) → Prop
  | some (result, c', _) => (∃ error, result = .error error ∧ error < 0) ∧ c'.status ≠ .active ∧
      c'.rpcMethodInvokePossible = false ∧
      (c.status ≠ .closed → c.errorCallback ≠ .unset → c'.callbacks = c.callbacks + 1)
  | none => ∃ arg ∈ args, arg.Faults types

theorem Connection.not_possible {c : Connection} (h : c.status ≠ .active) : c.rpcMethodInvokePossible = false := by
  rw [Connection.rpcMethodInvokePossible, Bool.and_eq_false_iff]
  exact Or.inl (beq_eq_false_iff_ne.mpr h)

theorem Connection.rpcError_counts {c : Connection} {error : Int} (h : error < 0) (hcallback : c.errorCallback ≠ .unset) :
    (c.rpcError error).callbacks = c.callbacks + 1 := rpcError_callbacks c (Int.ne_of_lt h) hcallback

theorem routed_costs {op : Send Unit} {args : List (Arg V)} (h : Fails op (Stopping types args)) {c c' : Connection}
    (herror : c'.errorCallback = c.errorCallback) (hcount : c'.callbacks = c.callbacks) (m : OutMessage) :
    Costs types args c (routed op c' m) := by
  obtain ⟨e, t, ht, he⟩ := h m
  cases e with
  | fault =>
    simp only [routed, ht]
    exact he
  | error code =>
    simp only [routed, ht]
    have hstatus : (c'.rpcError code).status ≠ .active := c'.rpcError_status (Int.ne_of_lt he)
    refine ⟨⟨code, rfl, he⟩, hstatus, Connection.not_possible hstatus, fun _ hcallback => ?_⟩
    rw [← hcount]
    exact Connection.rpcError_counts he (herror ▸ hcallback)

theorem closed_costs {args : List (Arg V)} {c : Connection} (h : c.status = .closed) (m : OutMessage) :
    Costs types args c (some (.error RpcError.connectionClosed, c.touch, m)) := by
  have hstatus : c.touch.status ≠ .active := by simp [h]
  exact ⟨⟨_, rfl, by decide⟩, hstatus, Connection.not_possible hstatus, fun hne => absurd h hne⟩

theorem rpcMethodInvoke_costs (htypes : types.Coded) {args : List (Arg V)} (h : ∃ arg ∈ args, arg.Rejected types)
    (method : Int32) (c : Connection) (m : OutMessage) : Costs types args c (rpcMethodInvoke types method args c m) := by
  unfold rpcMethodInvoke
  split
  · rename_i hclosed
    exact closed_costs hclosed m
  · exact routed_costs (invokeMessage_fails htypes h method) rfl rfl _

/-- Lowering a depth gives nothing back. -/
theorem Costs.lowerHandle {args : List (Arg V)} {c : Connection}
    {result : Option (Except Int Unit × Connection × OutMessage)} (h : Costs types args c result) :
    Costs types args c (result.map fun (r, c, m) => (r, c.lowerHandle, m)) := by
  cases result with
  | none => exact h
  | some result =>
    obtain ⟨herror, hstatus, -, hcallbacks⟩ := h
    exact ⟨herror, hstatus, Connection.not_possible hstatus, hcallbacks⟩

theorem rpcMethodSendReply_costs (htypes : types.Coded) {args : List (Arg V)} (h : ∃ arg ∈ args, arg.Rejected types)
    (c : Connection) (m : OutMessage) : Costs types args c (rpcMethodSendReply types args c m) := by
  unfold rpcMethodSendReply
  split
  · rename_i hclosed
    exact closed_costs hclosed m
  · exact (routed_costs (replyMessage_fails htypes h) rfl rfl _).lowerHandle

/-! ### What has left the buffer -/

/-- Puts `bs` in a buffer that has room for it, and sends nothing. -/
def Buffers (w : Send Unit) (bs : List UInt8) : Prop :=
  ∀ m : OutMessage, m.buffer.length + bs.length < bufSize → w m = .ok () { m with buffer := m.buffer ++ bs }

/-- Puts `bs` there, and stops. -/
def BuffersUntil (w : Send Unit) (bs : List UInt8) (error : Int) : Prop :=
  ∀ m : OutMessage, m.buffer.length + bs.length < bufSize →
    w m = .error (.error error) { m with buffer := m.buffer ++ bs }

theorem Buffers.pure : Buffers (pure ()) [] := fun m _ => by
  rw [List.append_nil]
  rfl

theorem Buffers.bind {w v : Send Unit} {bs cs : List UInt8} (hw : Buffers w bs) (hv : Buffers v cs) :
    Buffers (do w; v) (bs ++ cs) := fun m hm => by
  rw [List.length_append] at hm
  have hcs : (m.buffer ++ bs).length + cs.length < bufSize := by
    rw [List.length_append]
    omega
  simp only [Bind.bind, EStateM.bind, hw m (by omega), hv { m with buffer := m.buffer ++ bs } hcs, List.append_assoc]

theorem Buffers.until {w v : Send Unit} {bs cs : List UInt8} {error : Int} (hw : Buffers w bs)
    (hv : BuffersUntil v cs error) : BuffersUntil (do w; v) (bs ++ cs) error := fun m hm => by
  rw [List.length_append] at hm
  have hcs : (m.buffer ++ bs).length + cs.length < bufSize := by
    rw [List.length_append]
    omega
  simp only [Bind.bind, EStateM.bind, hw m (by omega), hv { m with buffer := m.buffer ++ bs } hcs, List.append_assoc]

theorem BuffersUntil.bind {w : Send Unit} {bs : List UInt8} {error : Int} (hw : BuffersUntil w bs error)
    (f : Unit → Send Unit) : BuffersUntil (w >>= f) bs error := fun m hm => by
  simp only [Bind.bind, EStateM.bind, hw m hm]

theorem BuffersUntil.throw (error : Int) : BuffersUntil (throw (.error error)) [] error := fun m _ => by
  rw [List.append_nil]
  rfl

theorem rpcMessageSendBytes_buffers (bytes : List UInt8) : Buffers (rpcMessageSendBytes bytes bytes.length) bytes :=
  fun m hm => by
    rw [rpcMessageSendBytes, if_neg (by omega), if_neg (by omega), Int.toNat_natCast, List.take_length]

theorem int32_buffers (value : Int32) : Buffers (rpcMessageSendInt32 value) (be32 value.toUInt32) :=
  rpcMessageSendBytes_buffers _

theorem uint32_buffers (value : UInt32) : Buffers (rpcMessageSendUint32 value) (be32 value) :=
  rpcMessageSendBytes_buffers _

/-- A list whose every value is buffered, wherever it stands. -/
theorem Buffers.all {α : Type} {w : Nat → α → Send Unit} (xs : List α) (i : Nat)
    (h : ∀ x ∈ xs, ∀ j < i + xs.length, ∃ bs, Buffers (w j x) bs) : ∃ bs, Buffers (writeFrom w i xs) bs := by
  induction xs generalizing i with
  | nil => exact ⟨[], .pure⟩
  | cons x xs ih =>
    obtain ⟨bs, hbs⟩ := h x (List.mem_cons_self ..) i (by simp)
    obtain ⟨cs, hcs⟩ := ih (i + 1) fun y hy j hj => h y (List.mem_cons_of_mem _ hy) j (by
      rw [List.length_cons]
      omega)
    exact ⟨bs ++ cs, hbs.bind hcs⟩

/-- A value of a user type whose descriptor sends it through the buffer. -/
def TypeMap.Buffered (types : TypeMap V) (t : UserType) (x : V) : Prop :=
  ∃ desc, types t = some desc ∧ ∃ bs, Buffers (desc.sendCallback x) bs

def Arg.Buffered (types : TypeMap V) : Arg V → Prop
  | .array (.elements (.user t xs)) => ∀ x ∈ xs, types.Buffered t x
  | .user t x => types.Buffered t x
  | _ => True

theorem string_buffers {str : Option CString} (hshort : ShortString str) : ∃ bs, Buffers (rpcMessageSendString str) bs := by
  cases str with
  | none => exact ⟨_, (int32_buffers _).bind .pure⟩
  | some s =>
    simp only [rpcMessageSendString, cInt_of_lt (hshort s rfl)]
    split
    · exact ⟨_, (int32_buffers _).bind (rpcMessageSendBytes_buffers s.bytes)⟩
    · exact ⟨_, (int32_buffers _).bind .pure⟩

theorem indexed_buffers {α : Type} {w : α → Send Unit} {xs : List α} (hlen : xs.length < 2 ^ 31)
    (h : ∀ x ∈ xs, ∃ bs, Buffers (w x) bs) : ∃ bs, Buffers (writeFrom (fun i x => do indexed i; w x) 0 xs) bs :=
  Buffers.all xs 0 fun x hx j hj => by
    obtain ⟨bs, hbs⟩ := h x hx
    rw [indexed_eq (by omega)]
    exact ⟨[] ++ bs, Buffers.pure.bind hbs⟩

theorem sendElements_buffers {es : Elements V} (hshort : Arg.Short (.array (.elements es)))
    (haddr : Arg.Addressable types (.array (.elements es))) (hbuffered : Arg.Buffered types (.array (.elements es)))
    (hpos : 0 < es.length) : ∃ bs, Buffers (sendElements types es) bs := by
  have hlen := hshort.1
  match es, hlen, hshort, haddr, hbuffered, hpos with
  | .char xs, hlen, _, _, _, _ =>
    rw [Elements.length] at hlen
    rw [sendElements, cInt_of_lt hlen]
    exact ⟨xs, rpcMessageSendBytes_buffers xs⟩
  | .boolean xs, hlen, _, _, _, _ => exact indexed_buffers hlen fun x _ => ⟨_, int32_buffers x⟩
  | .int32 xs, hlen, _, _, _, _ => exact indexed_buffers hlen fun x _ => ⟨_, int32_buffers x⟩
  | .uint32 xs, hlen, _, _, _, _ => exact indexed_buffers hlen fun x _ => ⟨_, uint32_buffers x⟩
  | .uint64 xs, hlen, _, _, _, _ =>
    exact indexed_buffers hlen fun x _ => ⟨_, (uint32_buffers _).bind (uint32_buffers _)⟩
  | .double xs, hlen, _, _, _, _ =>
    exact indexed_buffers hlen fun x _ =>
      ⟨_, (uint32_buffers _).bind ((uint32_buffers _).bind ((uint32_buffers _).bind (uint32_buffers _)))⟩
  | .string xs, hlen, hshort, _, _, _ => exact indexed_buffers hlen fun x hx => string_buffers (hshort.2 x hx)
  | .user t xs, _, _, haddr, hbuffered, hpos =>
    obtain ⟨x, hx⟩ := List.exists_mem_of_length_pos hpos
    obtain ⟨desc, hdesc, -⟩ := hbuffered x hx
    simp only [sendElements, hdesc]
    refine Buffers.all xs 0 fun y hy j hj => ?_
    obtain ⟨desc', hdesc', bs, hbs⟩ := hbuffered y hy
    rw [hdesc, Option.some.injEq] at hdesc'
    have hlast : xs.length * desc.size = (xs.length - 1) * desc.size + desc.size := by
      rw [← Nat.succ_mul, Nat.succ_eq_add_one, Nat.sub_add_cancel (List.length_pos_of_mem hy)]
    have hoffset : j * desc.size ≤ (xs.length - 1) * desc.size := Nat.mul_le_mul_right _ (by omega)
    have hend := haddr desc hdesc
    rw [addressed_eq (by omega) (by omega)]
    exact ⟨[] ++ bs, Buffers.pure.bind (hdesc' ▸ hbs)⟩

theorem sendArg_buffers {arg : Arg V} (hshort : arg.Short) (haddr : arg.Addressable types)
    (hbuffered : arg.Buffered types) : ∃ bs, Buffers (sendArg types arg) bs := by
  suffices h : ∃ bs, Buffers (sendValue types arg) bs by
    obtain ⟨bs, hbs⟩ := h
    rw [sendArg_eq]
    exact ⟨_, (int32_buffers _).bind hbs⟩
  match arg, hshort, haddr, hbuffered with
  | .char c, _, _, _ => exact ⟨[c], rpcMessageSendBytes_buffers [c]⟩
  | .boolean value, _, _, _ => exact ⟨_, int32_buffers value⟩
  | .int32 value, _, _, _ => exact ⟨_, int32_buffers value⟩
  | .uint32 value, _, _, _ => exact ⟨_, uint32_buffers value⟩
  | .uint64 value, _, _, _ => exact ⟨_, (uint32_buffers _).bind (uint32_buffers _)⟩
  | .double value, _, _, _ =>
    exact ⟨_, (uint32_buffers _).bind ((uint32_buffers _).bind ((uint32_buffers _).bind (uint32_buffers _)))⟩
  | .string str, hshort, _, _ => exact string_buffers hshort
  | .array (.null type size), _, _, _ =>
    exact ⟨_, (int32_buffers _).bind ((uint32_buffers _).bind (rpcMessageSendBytes_buffers [0]))⟩
  | .array (.elements es), hshort, haddr, hbuffered =>
    have hlen := hshort.1
    by_cases hsize : 0 < (ArrayArg.elements es).size
    · have hpos : 0 < es.length := by
        by_contra hzero
        rw [ArrayArg.size, Nat.eq_zero_of_not_pos hzero] at hsize
        exact absurd hsize (by decide)
      obtain ⟨bs, hbs⟩ := sendElements_buffers hshort haddr hbuffered hpos
      simp only [sendValue, sendArray, if_pos hsize]
      exact ⟨_, (int32_buffers _).bind ((uint32_buffers _).bind ((rpcMessageSendBytes_buffers [1]).bind hbs))⟩
    · simp only [sendValue, sendArray, if_neg hsize]
      exact ⟨_, (int32_buffers _).bind ((uint32_buffers _).bind (rpcMessageSendBytes_buffers [0]))⟩
  | .user t x, _, _, ⟨desc, hdesc, bs, hbs⟩ =>
    simp only [sendValue, hdesc]
    exact ⟨bs, hbs⟩

/-- Every list of addressable arguments below 2^31 is buffered where it fits. -/
theorem sendEach_buffers {args : List (Arg V)} (hshort : ∀ arg ∈ args, arg.Short)
    (haddr : ∀ arg ∈ args, arg.Addressable types) (hbuffered : ∀ arg ∈ args, arg.Buffered types) :
    ∃ bs, Buffers (sendEach types args) bs := by
  induction args with
  | nil => exact ⟨[], .pure⟩
  | cons arg args ih =>
    simp only [List.forall_mem_cons] at hshort haddr hbuffered
    obtain ⟨bs, hbs⟩ := sendArg_buffers hshort.1 haddr.1 hbuffered.1
    obtain ⟨cs, hcs⟩ := ih hshort.2 haddr.2 hbuffered.2
    exact ⟨bs ++ cs, hbs.bind hcs⟩

/-! ### The rejected value itself -/

theorem sendEach_append (before after : List (Arg V)) :
    sendEach types (before ++ after) = (do sendEach types before; sendEach types after) := by
  induction before with
  | nil => rfl
  | cons arg before ih => simp only [List.cons_append, sendEach, ih, bind_assoc]

theorem rpcMessageSendArgs_until {before after : List (Arg V)} {bad : Arg V} {bs ps : List UInt8} {error : Int}
    (hbefore : Buffers (sendEach types before) bs) (hbad : BuffersUntil (sendArg types bad) ps error) :
    BuffersUntil (rpcMessageSendArgs types (before ++ bad :: after)) (be32 RpcMessage.args.toUInt32 ++ (bs ++ ps)) error := by
  have hne : ¬(before ++ bad :: after).isEmpty := by simp
  rw [rpcMessageSendArgs, if_neg hne, sendEach_append]
  exact (int32_buffers _).until ((hbefore.until (hbad.bind _)).bind _)

/-- Nothing of a reply has been sent. -/
theorem rpcMethodSendReply_unsent {args : List (Arg V)} {bs : List UInt8} {error : Int}
    (hargs : BuffersUntil (rpcMessageSendArgs types args) bs error) (hfits : 4 + bs.length < bufSize) {c : Connection}
    (hc : c.status ≠ .closed) (m : OutMessage) :
    ∃ c' m', rpcMethodSendReply types args c m = some (.error error, c', m') ∧ m'.sent = m.sent := by
  have hreply : BuffersUntil (replyMessage types args) (be32 RpcMessage.reply.toUInt32 ++ bs) error :=
    (int32_buffers _).until (hargs.bind _)
  have hrun := hreply (rpcMessageInit m) (by
    rw [List.length_append, length_be32, rpcMessageInit, List.length_nil, Nat.zero_add]
    exact hfits)
  refine ⟨(c.touch.rpcError error).lowerHandle,
    { rpcMessageInit m with buffer := (rpcMessageInit m).buffer ++ (be32 RpcMessage.reply.toUInt32 ++ bs) }, ?_, rfl⟩
  simp only [rpcMethodSendReply, if_neg hc, routed, hrun, Option.map_some]

/-- Only the header of a call has been sent. -/
theorem rpcMethodInvoke_unsent {args : List (Arg V)} {bs : List UInt8} {error : Int} (hne : ¬args.isEmpty)
    (hargs : BuffersUntil (rpcMessageSendArgs types args) bs error) (hfits : bs.length < bufSize) (method : Int32)
    {c : Connection} (hc : c.status ≠ .closed) {m : OutMessage} (hm : m.Live) :
    ∃ c' m', rpcMethodInvoke types method args c m = some (.error error, c', m') ∧
      m'.sent = m.sent ++ callHeader method := by
  obtain ⟨t, -, hbuf, hsent, hrun⟩ := invokeMessage_header types method args hm
  have hstop := (hargs.bind fun _ => rpcMessageFlush) t (by rwa [hbuf, List.length_nil, Nat.zero_add])
  rw [if_neg hne] at hrun
  refine ⟨c.raiseInvoke.rpcError error, { t with buffer := t.buffer ++ bs }, ?_, hsent⟩
  simp only [rpcMethodInvoke, if_neg hc, routed, hrun, hstop]

/-- A value that cannot be encoded: the call fails and costs the connection. Where the list up to the value fits
    the buffer, nothing of a reply has been sent and of a call the header. -/
theorem rejected_argument (types : TypeMap V) (htypes : types.Coded) (method : Int32) (before after : List (Arg V))
    (bad : Arg V) (hbad : bad.Rejected types) (c : Connection) (m : OutMessage) :
    Costs types (before ++ bad :: after) c (rpcMethodInvoke types method (before ++ bad :: after) c m) ∧
    Costs types (before ++ bad :: after) c (rpcMethodSendReply types (before ++ bad :: after) c m) ∧
    ∀ (bs ps : List UInt8) (error : Int), Buffers (sendEach types before) bs →
      BuffersUntil (sendArg types bad) ps error → 8 + bs.length + ps.length < bufSize → c.status ≠ .closed →
      (m.Live → ∃ c' m', rpcMethodInvoke types method (before ++ bad :: after) c m = some (.error error, c', m') ∧
        m'.sent = m.sent ++ callHeader method) ∧
      ∃ c' m', rpcMethodSendReply types (before ++ bad :: after) c m = some (.error error, c', m') ∧
        m'.sent = m.sent := by
  have hrejected : ∃ arg ∈ before ++ bad :: after, arg.Rejected types := ⟨bad, by simp, hbad⟩
  refine ⟨rpcMethodInvoke_costs htypes hrejected method c m, rpcMethodSendReply_costs htypes hrejected c m, ?_⟩
  intro bs ps error hbefore hbad hfits hc
  have hargs : BuffersUntil (rpcMessageSendArgs types (before ++ bad :: after)) _ error :=
    rpcMessageSendArgs_until hbefore hbad
  have hlength : (be32 RpcMessage.args.toUInt32 ++ (bs ++ ps)).length = 4 + (bs.length + ps.length) := by simp
  exact ⟨rpcMethodInvoke_unsent (by simp) hargs (by omega) method hc,
    rpcMethodSendReply_unsent hargs (by omega) hc m⟩

/-! ### Values of NPAPI -/

/-- An event of a type that is not among the supported ones, or none at all. -/
theorem event_refused {event : Option XEvent} (h : ∀ e ∈ event, isValidNPEventType e.type = false) :
    BuffersUntil (doSendNPEvent event) [] RpcError.messageArgumentInvalid := by
  cases event with
  | none => exact .throw _
  | some event =>
    rw [doSendNPEvent, if_pos (h event rfl)]
    exact .throw _

theorem utf8_refused : BuffersUntil (doSendNPUTF8 none) [] RpcError.messageArgumentInvalid := .throw _

theorem unknown_refused {t : UserType} (h : types t = none) (x : V) :
    BuffersUntil (sendArg types (.user t x)) (be32 t.id.toUInt32) RpcError.messageArgumentUnknown := by
  have hvalue : BuffersUntil (sendValue types (.user t x)) [] RpcError.messageArgumentUnknown := by
    simp only [sendValue, h]
    exact .throw _
  have hlist := (int32_buffers t.id).until hvalue
  rw [List.append_nil] at hlist
  rw [sendArg_eq]
  exact hlist

/-! ### An exception without a text, an event without a form -/

def RpcType.npUTF8 : UserType := ⟨17, by decide⟩

theorem eight_pos : 0 < 8 := by simp

theorem eight_lt : 8 < 2 ^ 31 := by simp

def utf8Types : TypeMap (Option CString) := fun t =>
  if t = RpcType.npUTF8 then some ⟨8, eight_pos, eight_lt, doSendNPUTF8, some <$> doRecvNPUTF8⟩ else none

theorem utf8Types_coded : utf8Types.Coded := by
  intro t desc hdesc x
  unfold utf8Types at hdesc
  split at hdesc
  · cases hdesc
    cases x with
    | none => exact .throw (Failure.coded (by decide))
    | some string =>
      refine (uint32_coded _).bind fun _ => ?_
      split
      · exact rpcMessageSendBytes_coded _ _
      · exact .pure ()
  · cases hdesc

theorem utf8_rejected : (Arg.user RpcType.npUTF8 none).Rejected utf8Types := by
  intro desc hdesc
  have hutf8 : utf8Types RpcType.npUTF8 = some ⟨8, eight_pos, eight_lt, doSendNPUTF8, some <$> doRecvNPUTF8⟩ := rfl
  rw [hutf8] at hdesc
  cases hdesc
  exact .throw (Failure.coded (by decide))

theorem rejected_utf8 :
    Costs utf8Types [.uint32 1, .user RpcType.npUTF8 none] (.rpcInit .server)
      (rpcMethodInvoke utf8Types 60 [.uint32 1, .user RpcType.npUTF8 none] (.rpcInit .server) ⟨[], [], []⟩) :=
  (rejected_argument utf8Types utf8Types_coded 60 [.uint32 1] [] (.user RpcType.npUTF8 none) utf8_rejected
    (.rpcInit .server) ⟨[], [], []⟩).1

namespace RpcType
def npEvent : UserType := ⟨8, by decide⟩
def npwPluginInstance : UserType := ⟨20, by decide⟩
end RpcType

/-- The two arguments of NPP_HandleEvent. -/
inductive EventArg where
  | plugin (instanceId : UInt32)
  | event (event : Option XEvent)

def handleEventTypes : TypeMap EventArg := fun t =>
  if t = RpcType.npwPluginInstance then some {
    size := 8
    size_pos := eight_pos
    size_lt := eight_lt
    sendCallback := fun
      | .plugin instanceId => rpcMessageSendUint32 instanceId
      | .event _ => throw .fault
    recvCallback := .plugin <$> rpcMessageRecvUint32 }
  else if t = RpcType.npEvent then some {
    size := 192
    size_pos := by decide
    size_lt := by decide
    sendCallback := fun
      | .plugin _ => throw .fault
      | .event event => doSendNPEvent event
    recvCallback := (fun event => .event (some event)) <$> doRecvNPEvent }
  else none

/-- An Expose event. -/
def exposeEvent : XEvent := ⟨12, .zero, .other, rfl⟩

/-- The plugin is asked to handle an Expose: its end has the header of the call, and there will be no other. -/
theorem rejected_event_costs : ∃ c' m', rpcMethodInvoke handleEventTypes 33
      [.user RpcType.npwPluginInstance (.plugin 1), .user RpcType.npEvent (.event (some exposeEvent))]
      (.rpcInit .client) ⟨[], [], []⟩ = some (.error RpcError.messageArgumentInvalid, c', m') ∧
    m'.sent = callHeader 33 ∧ c'.rpcMethodInvokePossible = false := ⟨_, _, rfl, rfl, rfl⟩

end NSPluginWrapper
