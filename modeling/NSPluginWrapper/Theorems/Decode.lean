import NSPluginWrapper.Npapi.Decode
import NSPluginWrapper.Theorems.Message

/-! Decoding keeps to its blocks. Whatever the peer sends, a receiving function comes to an error or a value unless the
    stream has a field that the function has no room for: then, and only then, the process does not go on. -/

namespace NSPluginWrapper
open Lib
open Lib.Checked (Sound Judged Wrong)

/-- The fields a function has room for. -/
def Field.Allowed : Field → Prop
  | .stringLength length => -1 ≤ length.toInt ∧ length.toInt < 2 ^ 31 - 1
  | .arraySize size => 0 < size
  | .arrayBytes size width bits => size.toNat * width < 2 ^ bits
  | .element i width => i * width < 2 ^ 31
  | .notifyData pointers32 id => pointers32 = true → id < 2 ^ 32
  | .printData arrives => arrives ≤ 4096
  | .npStringLength length => length.toNat < 2 ^ 32 - 1
  | .pluginInstance _ found => ∀ entry ∈ found, entry = .pluginInstance
  | .stream _ found => ∀ entry ∈ found, entry = .stream
  | .identifier _ found => found ≠ none
  | .stub _ found => found = true
  | .proxy made => made = true

/-- What recv() returns is an `int`. -/
def InMessage.Small (m : InMessage) : Prop := ∀ e ∈ m.script, e.bytes.length < 2 ^ 31

/-- The calls return an `int`, and fewer than `n` bytes are to come. -/
def InMessage.Below (n : Nat) (m : InMessage) : Prop := m.Small ∧ m.held.length < n

/-- An operation that comes to an error or a value, and gives no bytes back. -/
abbrev Returns {α : Type} (r : Recv α) : Prop := ∀ n, Sound .fault (InMessage.Below n) (fun _ => True) r

/-- A function that goes on exactly as long as it has room. -/
abbrev Guarded {α : Type} (d : Decode α) : Prop := Judged .fault InMessage.Small Field.Allowed d

/-! ### Bytes -/

/-- How many bytes of a message there is room for. -/
def recvRoom (count : Int) : Nat := if count < 0 then 2 ^ 31 - 1 else count.toNat

theorem leftover_small {bs : List UInt8} (h : bs.length < 2 ^ 31) : ∀ e ∈ leftover bs, e.bytes.length < 2 ^ 31 := by
  intro e he
  cases bs with
  | nil => cases he
  | cons b bs =>
    rw [leftover, List.mem_singleton] at he
    rw [he]
    exact h

theorem recvLoop_within (script : List RecvEvent) (hsmall : ∀ e ∈ script, e.bytes.length < 2 ^ 31) (count : Int)
    (got : List UInt8) (m : InMessage) : ∃ t, (∀ e ∈ t, e.bytes.length < 2 ^ 31) ∧
      (t.flatMap RecvEvent.bytes).length ≤ (script.flatMap RecvEvent.bytes).length ∧
      (script.flatMap RecvEvent.bytes).length ≤ (t.flatMap RecvEvent.bytes).length + recvRoom count ∧
      ((∃ bs, recvLoop script count got m = .ok bs { m with script := t }) ∨
        ∃ code, recvLoop script count got m = .error (.error code) { m with script := t }) := by
  induction script generalizing count got with
  | nil => exact ⟨[], hsmall, Nat.le_refl _, Nat.le_add_right .., .inr ⟨_, rfl⟩⟩
  | cons e es ih =>
    have hes : ∀ e ∈ es, e.bytes.length < 2 ^ 31 := fun e h => hsmall e (List.mem_cons_of_mem _ h)
    have hagain (h : e.bytes = []) : ∃ t : List RecvEvent, (∀ e ∈ t, e.bytes.length < 2 ^ 31) ∧
        (t.flatMap RecvEvent.bytes).length ≤ ((e :: es).flatMap RecvEvent.bytes).length ∧
        ((e :: es).flatMap RecvEvent.bytes).length ≤ (t.flatMap RecvEvent.bytes).length + recvRoom count ∧
        ((∃ bs, (if 0 < count then recvLoop es count got m else .ok got { m with script := es }) =
            .ok bs { m with script := t }) ∨
          ∃ code, (if 0 < count then recvLoop es count got m else .ok got { m with script := es }) =
            .error (.error code) { m with script := t }) := by
      rw [List.flatMap_cons, h, List.nil_append]
      split
      · exact ih hes count got
      · exact ⟨es, hes, Nat.le_refl _, Nat.le_add_right .., .inl ⟨_, rfl⟩⟩
    have hstays (code : Int) (h : e.bytes = []) {r : EStateM.Result Failure InMessage (List UInt8)} :
        r = .error (.error code) { m with script := es } → ∃ t : List RecvEvent, (∀ e ∈ t, e.bytes.length < 2 ^ 31) ∧
          (t.flatMap RecvEvent.bytes).length ≤ ((e :: es).flatMap RecvEvent.bytes).length ∧
          ((e :: es).flatMap RecvEvent.bytes).length ≤ (t.flatMap RecvEvent.bytes).length + recvRoom count ∧
          ((∃ bs, r = .ok bs { m with script := t }) ∨ ∃ code, r = .error (.error code) { m with script := t }) := by
      intro hr
      rw [List.flatMap_cons, h, List.nil_append]
      exact ⟨es, hes, Nat.le_refl _, Nat.le_add_right .., .inr ⟨code, hr⟩⟩
    match e with
    | .data b bs =>
      have hdata : (RecvEvent.data b bs).bytes.length < 2 ^ 31 := hsmall _ (List.mem_cons_self ..)
      simp only [RecvEvent.bytes, List.length_cons] at hdata
      obtain ⟨n, hn⟩ : ∃ n, n = if count < 0 then bs.length + 1 else min count.toNat (bs.length + 1) := ⟨_, rfl⟩
      have hroom : n ≤ recvRoom count ∧ n ≤ bs.length + 1 := by
        rw [hn, recvRoom]
        split <;> omega
      simp only [recvLoop, ← hn]
      split
      · exact ⟨.data b bs :: es, hsmall, Nat.le_refl _, Nat.le_add_right .., .inr ⟨_, rfl⟩⟩
      · split
        · -- what is left is to be received from the other events
          have hcount : recvRoom (count - n) + n = recvRoom count ∧ n = bs.length + 1 := by
            simp only [recvRoom]
            split at hn <;> split <;> omega
          obtain ⟨t, ht, hle, hge, hres⟩ := ih hes (count - n) (got ++ (b :: bs).take n)
          refine ⟨t, ht, ?_, ?_, hres⟩ <;> simp only [List.flatMap_cons, List.length_append, RecvEvent.bytes,
            List.length_cons] <;> omega
        · -- the rest of the event stays
          have hlen : ((b :: bs).drop n).length = bs.length + 1 - n := by rw [List.length_drop, List.length_cons]
          refine ⟨leftover ((b :: bs).drop n) ++ es, ?_, ?_, ?_, .inl ⟨_, rfl⟩⟩
          · intro e he
            rcases List.mem_append.mp he with he | he
            · exact leftover_small (by omega) e he
            · exact hes e he
          · simp only [List.flatMap_append, leftover_bytes, List.flatMap_cons, List.length_append, hlen, RecvEvent.bytes,
              List.length_cons]
            omega
          · simp only [List.flatMap_append, leftover_bytes, List.flatMap_cons, List.length_append, hlen, RecvEvent.bytes,
              List.length_cons]
            omega
    | .again .ready => exact hagain rfl
    | .again .interrupted => exact hagain rfl
    | .interrupted => exact hagain rfl
    | .closed => exact ⟨.closed :: es, hsmall, Nat.le_refl _, Nat.le_add_right .., .inr ⟨_, rfl⟩⟩
    | .again .timedOut => exact hstays _ rfl rfl
    | .again .failed => exact hstays _ rfl rfl
    | .failed => exact hstays _ rfl rfl

theorem Returns.sound {α : Type} {r : Recv α} (hr : Returns r) : Sound .fault InMessage.Small (fun _ => True) r := by
  intro m hm
  obtain ⟨hsafe, hpost⟩ := hr (m.held.length + 1) m ⟨hm, Nat.lt_succ_self _⟩
  exact ⟨hsafe, fun a t ht => ⟨(hpost a t ht).1.1, trivial⟩⟩

theorem bytes_returns (count : Int) : Returns (rpcMessageRecvBytes count) := by
  intro n m hm
  obtain ⟨t, ht, hle, -, hres⟩ := recvLoop_within m.script hm.1 count [] m
  have hbelow : InMessage.Below n { m with script := t } := ⟨ht, Nat.lt_of_le_of_lt hle hm.2⟩
  rcases hres with ⟨bs, hbs⟩ | ⟨code, hcode⟩
  · have h : rpcMessageRecvBytes count m = .ok bs { m with script := t } := hbs
    rw [Wrong, h]
    refine ⟨(by rintro ⟨u, hu⟩; cases hu), fun a u hu => ?_⟩
    cases hu
    exact ⟨hbelow, trivial⟩
  · have h : rpcMessageRecvBytes count m = .error (.error code) { m with script := t } := hcode
    rw [Wrong, h]
    exact ⟨(by rintro ⟨u, hu⟩; cases hu), fun a u hu => (by cases hu)⟩

/-- No more bytes arrive than were asked for, or than a call can return. -/
theorem arriving_within (count : Int) :
    Sound .fault InMessage.Small (fun n => n ≤ recvRoom count) (Decode.arriving count) := by
  intro m hm
  obtain ⟨t, -, -, hge, hres⟩ := recvLoop_within m.script hm count [] m
  have hn : Decode.arriving count m = .ok (m.held.length - (t.flatMap RecvEvent.bytes).length) m := by
    rw [Decode.arriving]
    rcases hres with ⟨bs, hbs⟩ | ⟨code, hcode⟩
    · have h : rpcMessageRecvBytes count m = .ok bs { m with script := t } := hbs
      rw [h]
      rfl
    · have h : rpcMessageRecvBytes count m = .error (.error code) { m with script := t } := hcode
      rw [h]
      rfl
  rw [Wrong, hn]
  refine ⟨(by rintro ⟨u, hu⟩; cases hu), fun a u hu => ?_⟩
  cases hu
  exact ⟨hm, Nat.sub_le_iff_le_add'.mpr hge⟩

theorem malloc_returns : Returns malloc := by
  intro n m hm
  rw [Wrong, malloc]
  split
  all_goals
    refine ⟨(by rintro ⟨u, hu⟩; cases hu), fun a u hu => ?_⟩
    cases hu
    exact ⟨hm, trivial⟩

theorem allocate_returns : Returns allocate := by
  refine fun n => (malloc_returns n).bind fun made _ => ?_
  cases made with
  | true => exact .pure trivial
  | false => exact .throw nofun

/-! ### Words and structures -/

theorem uint32_returns : Returns rpcMessageRecvUint32 := fun n => (bytes_returns 4 n).map fun _ _ => trivial

theorem int32_returns : Returns rpcMessageRecvInt32 := fun n => (uint32_returns n).bind fun _ _ => .pure trivial

theorem char_returns : Returns rpcMessageRecvChar := fun n => (bytes_returns 1 n).bind fun _ _ => .pure trivial

theorem uint64_returns : Returns rpcMessageRecvUint64 := fun n =>
  (uint32_returns n).bind fun _ _ => (uint32_returns n).bind fun _ _ => .pure trivial

theorem double_returns : Returns rpcMessageRecvDouble := fun n =>
  (uint32_returns n).bind fun _ _ => (uint32_returns n).bind fun _ _ => (uint32_returns n).bind fun _ _ =>
    (uint32_returns n).bind fun _ _ => .pure trivial

theorem marker_returns (marker : Int32) : Returns (expectMarker marker) := by
  refine fun n => (int32_returns n).bind fun value _ => ?_
  split
  · exact .throw nofun
  · exact .pure trivial

/-- A range takes a word, so that there are rounds enough for the ranges that the bytes make. -/
theorem byteRanges_sound (rounds : Nat) :
    Sound .fault (InMessage.Below rounds) (fun _ => True) (recvByteRanges rounds) := by
  induction rounds with
  | zero => exact fun m hm => absurd hm.2 (Nat.not_lt_zero _)
  | succ rounds ih =>
    intro m hm
    have hrest (cont : UInt32) : Sound .fault (InMessage.Below rounds) (fun _ => True)
        (if cont = 0 then pure [] else do
          allocate
          let offset ← rpcMessageRecvInt32
          let length ← rpcMessageRecvUint32
          let next ← recvByteRanges rounds
          pure (⟨offset, length⟩ :: next) : Recv (List NPByteRange)) := by
      split
      · exact .pure trivial
      · exact (allocate_returns _).bind fun _ _ => (int32_returns _).bind fun _ _ =>
          (uint32_returns _).bind fun _ _ => ih.bind fun _ _ => .pure trivial
    rcases rpcMessageRecvUint32_cases m with ⟨cont, t, ht, hheld⟩ | ⟨code, t, ht⟩
    · have hshrinks : t.held.length < rounds := by
        have hlen := congrArg List.length hheld
        rw [List.length_append, length_be32] at hlen
        have hlt := hm.2
        omega
      have hsmall := ((uint32_returns _ m hm).2 cont t ht).1.1
      obtain ⟨hsafe, hpost⟩ := hrest cont t ⟨hsmall, hshrinks⟩
      simp only [Wrong, recvByteRanges, bind, EStateM.bind, ht] at hsafe hpost ⊢
      refine ⟨hsafe, fun a u hu => ?_⟩
      obtain ⟨hu', -⟩ := hpost a u hu
      exact ⟨⟨hu'.1, Nat.lt_succ_of_lt hu'.2⟩, trivial⟩
    · simp only [Wrong, recvByteRanges, bind, EStateM.bind, ht]
      exact ⟨(by rintro ⟨u, hu⟩; cases hu), fun a u hu => (by cases hu)⟩

theorem byteRange_returns : Returns doRecvNPByteRange := by
  intro n m hm
  obtain ⟨hsafe, hpost⟩ := byteRanges_sound (m.held.length + 1) m ⟨hm.1, Nat.lt_succ_self _⟩
  refine ⟨hsafe, fun a t ht => ?_⟩
  obtain ⟨⟨hsmall, hlt⟩, -⟩ := hpost a t ht
  exact ⟨⟨hsmall, Nat.lt_of_le_of_lt (Nat.le_of_lt_succ hlt) hm.2⟩, trivial⟩

theorem rect_returns : Returns doRecvNPRect := fun n =>
  (uint32_returns n).bind fun _ _ => (uint32_returns n).bind fun _ _ => (uint32_returns n).bind fun _ _ =>
    (uint32_returns n).bind fun _ _ => .pure trivial

theorem wsInfo_returns : Returns doRecvNPSetWindowCallbackStruct := by
  refine fun n => (uint32_returns n).bind fun hasWsInfo _ => ?_
  split
  · exact .pure trivial
  · exact (int32_returns n).bind fun _ _ => (uint32_returns n).bind fun _ _ => (uint32_returns n).bind fun _ _ =>
      (uint32_returns n).bind fun _ _ => (allocate_returns n).bind fun _ _ => .pure trivial

theorem windowData_returns : Returns doRecvNPWindowData := fun n =>
  (uint32_returns n).bind fun _ _ => (int32_returns n).bind fun _ _ => (int32_returns n).bind fun _ _ =>
    (uint32_returns n).bind fun _ _ => (uint32_returns n).bind fun _ _ => (rect_returns n).bind fun _ _ =>
      (int32_returns n).bind fun _ _ => (wsInfo_returns n).bind fun _ _ => .pure trivial

theorem window_returns : Returns doRecvNPWindow := by
  refine fun n => (uint32_returns n).bind fun valid _ => ?_
  split
  · exact .pure trivial
  · exact (allocate_returns n).bind fun _ _ => (windowData_returns n).map fun _ _ => trivial

theorem fullPrint_returns : Returns doRecvNPFullPrint := fun n =>
  (uint32_returns n).bind fun _ _ => (uint32_returns n).bind fun _ _ => .pure trivial

theorem embedPrint_returns : Returns doRecvNPEmbedPrint := fun n => (windowData_returns n).map fun _ _ => trivial

theorem print_returns : Returns doRecvNPPrint := by
  refine fun n => (uint32_returns n).bind fun mode _ => ?_
  split
  · exact (fullPrint_returns n).map fun _ _ => trivial
  · split
    · exact (embedPrint_returns n).map fun _ _ => trivial
    · exact .throw nofun

/-! ### Events -/

theorem anyEvent_returns : Returns doRecvXAnyEvent := fun n =>
  (uint32_returns n).bind fun _ _ => (uint32_returns n).bind fun _ _ => (uint32_returns n).bind fun _ _ => .pure trivial

theorem graphicsExpose_returns : Returns doRecvXGraphicsExposeEvent := fun n =>
  (anyEvent_returns n).bind fun _ _ => (int32_returns n).bind fun _ _ => (int32_returns n).bind fun _ _ =>
    (uint32_returns n).bind fun _ _ => (uint32_returns n).bind fun _ _ => .pure trivial

theorem pointerEvent_returns : Returns doRecvXPointerEvent := fun n =>
  (anyEvent_returns n).bind fun _ _ => (uint32_returns n).bind fun _ _ => (uint32_returns n).bind fun _ _ =>
    (uint32_returns n).bind fun _ _ => (int32_returns n).bind fun _ _ => (int32_returns n).bind fun _ _ =>
      (int32_returns n).bind fun _ _ => (int32_returns n).bind fun _ _ => .pure trivial

theorem crossing_returns : Returns doRecvXCrossingEvent := fun n =>
  (pointerEvent_returns n).bind fun _ _ => (int32_returns n).bind fun _ _ => (int32_returns n).bind fun _ _ =>
    (int32_returns n).bind fun _ _ => (int32_returns n).bind fun _ _ => (uint32_returns n).bind fun _ _ => .pure trivial

theorem motion_returns : Returns doRecvXMotionEvent := fun n =>
  (pointerEvent_returns n).bind fun _ _ => (uint32_returns n).bind fun _ _ => (char_returns n).bind fun _ _ =>
    (int32_returns n).bind fun _ _ => .pure trivial

theorem button_returns : Returns doRecvXButtonEvent := fun n =>
  (pointerEvent_returns n).bind fun _ _ => (uint32_returns n).bind fun _ _ => (uint32_returns n).bind fun _ _ =>
    (int32_returns n).bind fun _ _ => .pure trivial

theorem key_returns : Returns doRecvXKeyEvent := fun n =>
  (pointerEvent_returns n).bind fun _ _ => (uint32_returns n).bind fun _ _ => (uint32_returns n).bind fun _ _ =>
    (int32_returns n).bind fun _ _ => .pure trivial

theorem event_returns : Returns doRecvNPEvent := by
  refine fun n => (int32_returns n).bind fun type _ => ?_
  split
  · exact (graphicsExpose_returns n).map fun _ _ => trivial
  split
  · exact (show Sound _ _ (fun _ => True) _ from .pure trivial).map fun _ _ => trivial
  split
  · exact (crossing_returns n).map fun _ _ => trivial
  split
  · exact (motion_returns n).map fun _ _ => trivial
  split
  · exact (button_returns n).map fun _ _ => trivial
  split
  · exact (key_returns n).map fun _ _ => trivial
  · exact .throw nofun

/-! ### Steps of a function -/

section
variable {α β : Type}

theorem limit_bind {f : Field} {p : Bool} (hp : p = true ↔ f.Allowed) {k : Unit → Decode α}
    (hk : p = true → Guarded (k ())) : Guarded (Decode.limit f p >>= k) := Judged.note_check hp hk

theorem check_bind {p : Bool} (hp : p = true) {k : Unit → Decode α} (hk : Guarded (k ())) :
    Guarded (Decode.check p >>= k) := Judged.check hp hk

theorem lift_bind {r : Recv α} (hr : Returns r) {k : α → Decode β} (hk : ∀ a, Guarded (k a)) :
    Guarded (Checked.lift r >>= k) := Judged.op hr.sound fun a _ => hk a

theorem lift_map {r : Recv α} (hr : Returns r) (f : α → β) : Guarded (f <$> (Checked.lift r : Decode α)) :=
  (Judged.lift hr.sound).map f

theorem fail_guarded (code : Int) : Guarded (Decode.fail (α := α) code) :=
  Judged.lift (show Sound _ _ (fun _ => True) _ from .throw nofun)

theorem recvBytes_guarded {block : Nat} {count : Int} (h : recvRoom count ≤ block) :
    Guarded (Decode.recvBytes block count) := by
  refine Judged.op (arriving_within count) fun n hn => ?_
  refine check_bind (decide_eq_true (Nat.le_trans hn h)) ?_
  exact Judged.lift (bytes_returns count).sound

end

theorem recvRoom_cInt {n : Nat} (h : n < 2 ^ 32) : recvRoom (cInt n) ≤ n := by
  rw [recvRoom, cInt, Int.bmod_def]
  split <;> split <;> omega

theorem toInt_eq_cInt (n : Int32) : n.toInt = cInt n.toUInt32.toNat := BitVec.toInt_eq_toNat_bmod n.toBitVec

theorem string_guarded : Guarded Decode.rpcMessageRecvString := by
  refine lift_bind int32_returns fun length => ?_
  have hlow : -2 ^ 31 ≤ length.toInt := Int32.le_toInt length
  have hhigh : length.toInt < 2 ^ 31 := Int32.toInt_lt length
  split
  · exact .done none
  · refine limit_bind (by simp only [decide_eq_true_eq, Field.Allowed]; omega) fun hroom => ?_
    have hfits := of_decide_eq_true hroom
    have hterminator : 0 ≤ length.toInt ∧ length.toInt < ((length.toInt + 1).toNat : Int) := by omega
    refine lift_bind allocate_returns fun _ => ?_
    split
    · refine (recvBytes_guarded ?_).bind fun bytes => check_bind (decide_eq_true hterminator) (.done _)
      rw [recvRoom]
      split <;> omega
    · exact check_bind (decide_eq_true hterminator) (.done _)

/-! ### Arrays -/

section
variable {V α : Type}

theorem readFrom_guarded {r : Nat → Decode α} (i n : Nat) (hr : ∀ j, j < i + n → Guarded (r j)) :
    Guarded (Decode.readFrom r i n) := by
  induction n generalizing i with
  | zero => exact .done []
  | succ n ih =>
    refine (hr i (by omega)).bind fun x => ?_
    refine (ih (i + 1) fun j hj => hr j (by omega)).bind fun xs => ?_
    exact .done (x :: xs)

/-- An element ends where the block does, or before. -/
theorem element_fits {i n width : Nat} (h : i < n) : i * width + width ≤ n * width := by
  rw [← Nat.succ_mul]
  exact Nat.mul_le_mul_right width h

theorem arrayOf_guarded (e : Receiver) (width : Nat) (size : UInt32) {r : Decode α} (hr : Guarded r) :
    Guarded (Decode.recvArrayOf e width size r) := by
  refine limit_bind (by rw [decide_eq_true_eq, Field.Allowed]) fun hroom => ?_
  have hblock : size.toNat * width % 2 ^ e.sizeBits = size.toNat * width := Nat.mod_eq_of_lt (of_decide_eq_true hroom)
  refine lift_bind allocate_returns fun _ => ?_
  refine readFrom_guarded 0 size.toNat fun i hi => ?_
  refine hr.bind fun x => ?_
  refine limit_bind (by rw [decide_eq_true_eq, Field.Allowed, Nat.mul_one]) fun _ => ?_
  rw [hblock]
  exact check_bind (decide_eq_true (element_fits (by omega))) (.done x)

theorem arrayBy_guarded {desc : Decode.Descriptor V} (size : UInt32) (hdesc : Guarded desc.recvCallback) :
    Guarded (Decode.recvArrayBy desc size) := by
  refine limit_bind (by rw [decide_eq_true_eq, Field.Allowed]) fun hroom => ?_
  have hblock : size.toNat * desc.size % 2 ^ 32 = size.toNat * desc.size := Nat.mod_eq_of_lt (of_decide_eq_true hroom)
  refine lift_bind allocate_returns fun _ => ?_
  refine readFrom_guarded 0 size.toNat fun i hi => ?_
  refine limit_bind (by rw [decide_eq_true_eq, Field.Allowed]) fun _ => ?_
  rw [hblock]
  exact check_bind (decide_eq_true (element_fits (by omega))) hdesc

variable {e : Receiver} {descs : UserType → Option (Decode.Descriptor V)}
  (hdescs : ∀ t desc, descs t = some desc → Guarded desc.recvCallback)

include hdescs

theorem elements_guarded (type : Int32) (size : UInt32) : Guarded (Decode.recvElements e descs type size) := by
  rw [Decode.recvElements]
  split
  · refine lift_bind allocate_returns fun _ => ?_
    exact (recvBytes_guarded (recvRoom_cInt size.toNat_lt)).map _
  split
  · exact (arrayOf_guarded e 4 size (Judged.lift int32_returns.sound)).map _
  split
  · exact (arrayOf_guarded e 4 size (Judged.lift int32_returns.sound)).map _
  split
  · exact (arrayOf_guarded e 4 size (Judged.lift uint32_returns.sound)).map _
  split
  · exact (arrayOf_guarded e 8 size (Judged.lift uint64_returns.sound)).map _
  split
  · exact (arrayOf_guarded e 8 size (Judged.lift double_returns.sound)).map _
  split
  · exact (arrayOf_guarded e e.pointer size string_guarded).map _
  split
  · split
    · next desc hdesc => exact (arrayBy_guarded size (hdescs _ desc hdesc)).map _
    · exact fail_guarded _
  · exact fail_guarded _

theorem array_guarded : Guarded (Decode.recvArray e descs) := by
  refine lift_bind int32_returns fun type => ?_
  refine lift_bind uint32_returns fun size => ?_
  refine lift_bind char_returns fun valid => ?_
  split
  · exact .done _
  · refine limit_bind (by rw [decide_eq_true_eq, Field.Allowed]) fun _ => ?_
    exact (elements_guarded hdescs type size).map _

theorem value_guarded (expected : ArgType) : Guarded (Decode.recvValue e descs expected) := by
  cases expected with
  | char => exact lift_map char_returns _
  | boolean => exact lift_map int32_returns _
  | int32 => exact lift_map int32_returns _
  | uint32 => exact lift_map uint32_returns _
  | uint64 => exact lift_map uint64_returns _
  | double => exact lift_map double_returns _
  | string => exact string_guarded.map _
  | array _ => exact (array_guarded hdescs).map _
  | user t =>
    simp only [Decode.recvValue]
    split
    · next desc hdesc => exact (hdescs t desc hdesc).map _
    · exact fail_guarded _

theorem each_guarded (expected : List ArgType) : Guarded (Decode.recvEach e descs expected) := by
  induction expected with
  | nil => exact .done []
  | cons expected rest ih =>
    refine Judged.bind ?_ fun arg => ?_
    · refine lift_bind int32_returns fun type => ?_
      split
      · exact fail_guarded _
      · exact value_guarded hdescs expected
    · exact ih.bind fun args => .done (arg :: args)

theorem args_guarded (expected : List ArgType) : Guarded (Decode.rpcMessageRecvArgs e descs expected) := by
  rw [Decode.rpcMessageRecvArgs]
  split
  · exact .done []
  · refine lift_bind (marker_returns _) fun _ => ?_
    refine (each_guarded hdescs expected).bind fun args => ?_
    exact lift_bind (marker_returns _) fun _ => .done args

end

/-! ### The types of the table -/

theorem savedData_guarded : Guarded Decode.doRecvNPSavedData := by
  refine lift_bind int32_returns fun len => ?_
  split
  · exact .done none
  · refine lift_bind allocate_returns fun _ => ?_
    refine lift_bind allocate_returns fun _ => ?_
    refine (recvBytes_guarded ?_).map _
    rw [toInt_eq_cInt]
    exact recvRoom_cInt len.toUInt32.toNat_lt

theorem notifyData_guarded (e : Receiver) : Guarded (Decode.doRecvNotifyData e) := by
  refine lift_bind uint64_returns fun id => ?_
  refine limit_bind ?_ fun _ => .done id
  simp only [Field.Allowed, Bool.not_eq_true', Bool.and_eq_false_iff, decide_eq_false_iff_not, UInt64.not_le]
  cases e.pointers32 <;> simp

theorem printData_guarded : Guarded Decode.doRecvNPPrintData := by
  refine lift_bind uint32_returns fun size => ?_
  refine Judged.op (arriving_within _) fun n _ => ?_
  refine limit_bind (by rw [decide_eq_true_eq, Field.Allowed]) fun _ => ?_
  exact Judged.lift (bytes_returns _).sound

theorem utf8_guarded : Guarded Decode.doRecvNPUTF8 := by
  refine lift_bind uint32_returns fun len => ?_
  refine lift_bind allocate_returns fun _ => ?_
  split
  · exact (recvBytes_guarded (recvRoom_cInt len.toNat_lt)).map _
  · exact .done _

theorem npString_guarded : Guarded Decode.doRecvNPString := by
  refine lift_bind uint32_returns fun utf8Length => ?_
  refine limit_bind (by simp only [decide_eq_true_eq, Field.Allowed]; omega) fun hroom => ?_
  have hblock : (utf8Length + 1).toNat = utf8Length.toNat + 1 := by
    rw [UInt32.toNat_add, UInt32.toNat_one]
    exact Nat.mod_eq_of_lt (of_decide_eq_true hroom)
  have hterminator : utf8Length.toNat < (utf8Length + 1).toNat := by omega
  refine lift_bind allocate_returns fun _ => ?_
  split
  · refine (recvBytes_guarded ?_).bind fun characters => check_bind (decide_eq_true hterminator) (.done _)
    exact Nat.le_trans (recvRoom_cInt utf8Length.toNat_lt) (Nat.le_of_lt hterminator)
  · exact check_bind (decide_eq_true hterminator) (.done _)

theorem pluginInstance_guarded (e : Receiver) : Guarded (Decode.doRecvNPWPluginInstance e) := by
  refine lift_bind uint32_returns fun instanceId => ?_
  refine limit_bind ?_ fun _ => .done _
  rw [decide_eq_true_eq, Field.Allowed]
  cases e.ids instanceId <;> simp

theorem stream_guarded (e : Receiver) : Guarded (Decode.doRecvNPStream e) := by
  refine lift_bind uint32_returns fun streamId => ?_
  refine limit_bind ?_ fun _ => .done _
  rw [decide_eq_true_eq, Field.Allowed]
  cases e.ids streamId <;> simp

theorem identifier_guarded (e : Receiver) : Guarded (Decode.doRecvNPIdentifier e) := by
  refine lift_bind uint32_returns fun id => ?_
  split
  · exact .done id
  · refine limit_bind ?_ fun _ => .done id
    rw [Field.Allowed, Option.isSome_iff_ne_none]

theorem lookup_guarded {α β : Type} (f : InMessage → α) {k : α → Decode β} (hk : ∀ a, Guarded (k a)) :
    Guarded (Checked.lift (fun m => .ok (f m) m) >>= k) := by
  refine lift_bind (fun n m hm => ⟨fun ⟨t, ht⟩ => (by cases ht), fun a t ht => ?_⟩) hk
  cases ht
  exact ⟨hm, trivial⟩

theorem object_guarded (e : Receiver) (passRef : Bool) : Guarded (Decode.doRecvNPObjectHelper e passRef) := by
  refine lift_bind uint32_returns fun type => ?_
  refine (pluginInstance_guarded e).bind fun _ => ?_
  refine lift_bind uint32_returns fun npobjId => ?_
  have hlast (releaseStub : UInt32) : Guarded (if type = Decode.NPObjectType.null then pure .null
      else if type = Decode.NPObjectType.senderOwned then do
        let made ← Checked.lift malloc
        Decode.limit (.proxy made) made
        if releaseStub ≠ 0 then Decode.fail RpcError.generic else pure (.proxy npobjId)
      else if type = Decode.NPObjectType.receiverOwned then do
        let found ← Checked.lift fun m => .ok (e.stubs m npobjId) m
        Decode.limit (.stub npobjId found) found
        pure (.local npobjId)
      else
        Decode.fail RpcError.generic : Decode Decode.ReceivedObject) := by
    split
    · exact .done _
    split
    · refine lift_bind malloc_returns fun made => ?_
      refine limit_bind Iff.rfl fun _ => ?_
      split
      · exact fail_guarded _
      · exact .done _
    split
    · refine lookup_guarded _ fun found => ?_
      exact limit_bind Iff.rfl fun _ => .done _
    · exact fail_guarded _
  cases passRef with
  | true => exact lift_bind uint32_returns hlast
  | false => exact hlast 0

theorem variant_guarded (e : Receiver) (passRef : Bool) : Guarded (Decode.doRecvNPVariantHelper e passRef) := by
  refine lift_bind uint32_returns fun type => ?_
  split
  · exact .done _
  split
  · exact .done _
  split
  · exact .done _
  split
  · exact lift_map uint32_returns _
  split
  · exact lift_map int32_returns _
  split
  · exact lift_map double_returns _
  split
  · exact npString_guarded.map _
  · exact (object_guarded e passRef).map _

theorem desc_guarded (e : Receiver) (t : UserType) (desc : Decode.Descriptor Decode.NPValue)
    (h : Decode.messageDescs e t = some desc) : Guarded desc.recvCallback := by
  rw [Decode.messageDescs] at h
  split at h
  case h_21 => cases h
  all_goals
    obtain rfl := Option.some.inj h
  · exact (pluginInstance_guarded e).map _
  · exact (stream_guarded e).map _
  · exact lift_map byteRange_returns _
  · exact savedData_guarded.map _
  · exact (notifyData_guarded e).map _
  · exact lift_map rect_returns _
  · exact lift_map window_returns _
  · exact lift_map event_returns _
  · exact lift_map print_returns _
  · exact lift_map fullPrint_returns _
  · exact lift_map embedPrint_returns _
  · exact printData_guarded.map _
  · exact (object_guarded e false).map _
  · exact (identifier_guarded e).map _
  · exact npString_guarded.map _
  · exact (variant_guarded e false).map _
  · exact utf8_guarded.map _
  · exact (object_guarded e true).map _
  · exact (variant_guarded e true).map _
  · exact (pluginInstance_guarded e).map _

/-! ### Every stream -/

theorem decoding_guarded {e : Receiver} {α : Type} {d : Decode α} (h : Decode.Decoding e d) : Guarded d := by
  cases h with
  | bytes count =>
    refine recvBytes_guarded ?_
    rw [recvRoom, if_neg (by omega)]
    exact Nat.le_refl _
  | char => exact Judged.lift char_returns.sound
  | int32 => exact Judged.lift int32_returns.sound
  | uint32 => exact Judged.lift uint32_returns.sound
  | uint64 => exact Judged.lift uint64_returns.sound
  | double => exact Judged.lift double_returns.sound
  | string => exact string_guarded
  | args expected => exact args_guarded (desc_guarded e) expected
  | type h => exact desc_guarded e _ _ h

/-- A viewer of a 32-bit plugin, with an instance and a stream and no stubs. -/
def plainReceiver : Receiver where
  pointers32 := true
  isViewer := true
  ids := fun id => if id = 1 then some .pluginInstance else if id = 2 then some .stream else none
  stubs := fun _ _ => false

/-- These numbers, as they arrive in one piece. -/
def plainMessage (values : List Int32) : InMessage := ⟨leftover (values.flatMap fun value => be32 value.toUInt32), []⟩

theorem plainMessage_small {values : List Int32} (h : values.length < 2 ^ 29) : (plainMessage values).Small := by
  refine leftover_small ?_
  rw [List.length_flatMap, List.map_congr_left (g := fun _ => 4) fun _ _ => length_be32 _, List.map_const',
    List.sum_replicate_nat]
  omega

end NSPluginWrapper
