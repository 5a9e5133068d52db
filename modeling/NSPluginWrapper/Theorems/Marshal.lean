import NSPluginWrapper.Npapi.Marshal
import NSPluginWrapper.Theorems.Args

/-! The marshalers agree: what a type's sender writes, its receiver builds the same value from, for every value
    NPAPI permits whose strings are shorter than 2^31 bytes. -/

namespace NSPluginWrapper
open Lib

/-! ### Which values -/

/-- A window id, a visual or a colormap, which travel as 32 bits. -/
def Id32 (id : UInt64) : Prop := id.toNat < 2 ^ 32

def NPSetWindowCallbackStruct.Permitted (wsInfo : NPSetWindowCallbackStruct) : Prop :=
  Id32 wsInfo.visual ∧ Id32 wsInfo.colormap

def NPWindow.Permitted (window : NPWindow) : Prop :=
  Id32 window.window ∧ ∀ wsInfo ∈ window.wsInfo, wsInfo.Permitted

def NPPrint.Permitted : NPPrint → Prop
  | .full _ => True
  | .embed embedPrint => embedPrint.window.Permitted
  | .other _ => False

/-- As many bytes as it says. -/
def NPSavedData.Permitted (saveArea : NPSavedData) : Prop := saveArea.len.toInt = saveArea.buf.length

/-- As many bytes as it says, or NULL for none. -/
def NPString.Permitted (string : NPString) : Prop := (string.utf8Characters.getD []).length = string.utf8Length.toNat

def NPString.Short (string : NPString) : Prop := string.utf8Length.toNat < 2 ^ 31

/-- What the receiver has of a string: bytes of its own where the sender had NULL. -/
def NPString.received (string : NPString) : NPString := { string with utf8Characters := some (string.utf8Characters.getD []) }

/-- What the receiver has of a save area: NULL for an empty one. -/
def NPSavedData.received (saveArea : NPSavedData) : Option NPSavedData :=
  if saveArea.len = 0 then none else some saveArea

section
variable {O : Type}

/-- Every kind but objects. -/
def NPVariant.Permitted : NPVariant O → Prop
  | .void | .null | .bool _ | .int32 _ | .double _ => True
  | .string value => value.Permitted
  | .object _ | .other _ => False

def NPVariant.Short : NPVariant O → Prop
  | .string value => value.Short
  | _ => True

def NPVariant.received : NPVariant O → NPVariant O
  | .string value => .string value.received
  | variant => variant

end

theorem Id32.eq {id : UInt64} (h : Id32 id) : id.toUInt32.toUInt64 = id := by
  rw [← UInt64.toNat_inj, UInt32.toNat_toUInt64, UInt64.toNat_toUInt32, Nat.mod_eq_of_lt h]

/-! ### Lists and blocks of bytes -/

/-- A list is carried by at least a byte for each range, whatever more rounds the receiver has. -/
theorem byteRanges_carried (ranges : List NPByteRange) : ∃ bs, ranges.length ≤ bs.length ∧
    ∀ rounds, ranges.length < rounds → Delivers (doSendNPByteRange ranges) (recvByteRanges rounds) bs ranges := by
  induction ranges with
  | nil =>
    refine ⟨be32 0, Nat.zero_le _, fun rounds h => ?_⟩
    obtain ⟨n, rfl⟩ : ∃ n, rounds = n + 1 := ⟨rounds - 1, by omega⟩
    refine ⟨(uint32_delivers 0).writes, (uint32_delivers 0).reads.bind_pure ?_⟩
    rw [if_pos rfl]
    exact .pure []
  | cons range ranges ih =>
    obtain ⟨bs, hlen, hbs⟩ := ih
    refine ⟨be32 1 ++ (be32 range.offset.toUInt32 ++ (be32 range.length ++ bs)), ?_, fun rounds h => ?_⟩
    · simp only [List.length_append, length_be32, List.length_cons]
      omega
    · obtain ⟨n, rfl⟩ : ∃ n, rounds = n + 1 := ⟨rounds - 1, by omega⟩
      have hnext := hbs n (Nat.lt_of_succ_lt_succ h)
      refine ⟨?_, ?_⟩
      · exact (uint32_delivers 1).writes.bind <| (int32_delivers _).writes.bind <|
          (uint32_delivers _).writes.bind hnext.writes
      · refine (uint32_delivers 1).reads.bind ?_
        rw [if_neg (by decide)]
        refine allocate_reads.bind_nil ?_
        refine (int32_delivers _).reads.bind ?_
        refine (uint32_delivers _).reads.bind ?_
        exact hnext.reads.map _

theorem byteRange_exchanged (ranges : List NPByteRange) :
    Exchanged (doSendNPByteRange ranges) doRecvNPByteRange ranges := by
  obtain ⟨bs, hlen, hbs⟩ := byteRanges_carried ranges
  refine ⟨bs, (hbs _ (Nat.lt_succ_self _)).writes, fun m rest hm hheld => ?_⟩
  have hrounds : ranges.length < m.held.length + 1 := by
    have h : m.held = bs ++ rest := hheld
    rw [h, List.length_append]
    omega
  exact (hbs _ hrounds).reads m rest hm hheld

/-- A block of bytes whose length, an `int`, is known to both sides. -/
theorem block_exchanged {α : Type} {bs : List UInt8} {count : Int} (hne : bs ≠ []) (h : count = bs.length)
    {f : List UInt8 → α} {b : α} (hb : f bs = b) :
    Exchanged (rpcMessageSendBytes bs count) (f <$> rpcMessageRecvBytes count) b := by
  rw [h]
  exact .map_eq ⟨bs, rpcMessageSendBytes_writes bs, rpcMessageRecvBytes_reads hne⟩ hb

theorem savedData_exchanged {saveArea : Option NPSavedData} (h : ∀ d ∈ saveArea, d.Permitted) :
    Exchanged (doSendNPSavedData saveArea) doRecvNPSavedData (saveArea.bind NPSavedData.received) := by
  cases saveArea with
  | none =>
    refine .then_read ⟨_, int32_delivers 0⟩ ?_
    rw [if_pos rfl]
    exact .pure none
  | some d =>
    have hd : d.len.toInt = d.buf.length := h d rfl
    by_cases hzero : d.len = 0
    · have hnil : d.buf = [] := by
        rw [hzero] at hd
        exact List.length_eq_zero_iff.mp (Int.ofNat.inj hd.symm)
      obtain ⟨hw, hr⟩ := int32_delivers d.len
      refine ⟨_, hw.bind_pure ?_, hr.bind_pure ?_⟩
      · rw [hd, hnil]
        exact rpcMessageSendBytes_writes []
      · rw [if_pos hzero, Option.bind_some, NPSavedData.received, if_pos hzero]
        exact .pure none
    · have hne : d.buf ≠ [] := fun hnil => hzero <| by
        rw [← Int32.toInt_inj, hd, hnil]
        rfl
      refine .bind ⟨_, int32_delivers d.len⟩ ?_
      rw [if_neg hzero]
      refine .after_read allocate_reads (.after_read allocate_reads ?_)
      refine block_exchanged hne hd ?_
      rw [Option.bind_some, NPSavedData.received, if_neg hzero]

theorem notifyData_exchanged {pointers32 : Bool} {notifyData : UInt64}
    (h : pointers32 = true → notifyData.toNat < 2 ^ 32) :
    Exchanged (doSendNotifyData notifyData) (doRecvNotifyData pointers32) notifyData := by
  refine .then_read ⟨_, uint64_delivers notifyData⟩ ?_
  rw [if_neg fun hfault => ?_]
  · exact .pure _
  · have hlow : 2 ^ 32 ≤ notifyData.toNat := UInt64.le_iff_toNat_le.mp hfault.2
    have hhigh := h hfault.1
    omega

/-! ### Windows -/

theorem rect_exchanged (rect : NPRect) : Exchanged (doSendNPRect rect) doRecvNPRect rect := by
  refine .bind ⟨_, uint32_delivers _⟩ ?_
  refine .bind ⟨_, uint32_delivers _⟩ ?_
  refine .bind ⟨_, uint32_delivers _⟩ ?_
  exact .map_eq ⟨_, uint32_delivers _⟩ (by simp)

theorem wsInfo_exchanged {wsInfo : Option NPSetWindowCallbackStruct} (h : ∀ w ∈ wsInfo, w.Permitted) :
    Exchanged (doSendNPSetWindowCallbackStruct wsInfo) doRecvNPSetWindowCallbackStruct wsInfo := by
  cases wsInfo with
  | none =>
    refine .then_read ⟨_, uint32_delivers 0⟩ ?_
    rw [if_pos rfl]
    exact .pure none
  | some w =>
    obtain ⟨hvisual, hcolormap⟩ := h w rfl
    refine .bind ⟨_, uint32_delivers 1⟩ ?_
    rw [if_neg (by decide)]
    refine .bind ⟨_, int32_delivers _⟩ ?_
    refine .bind ⟨_, uint32_delivers _⟩ ?_
    refine .bind ⟨_, uint32_delivers _⟩ ?_
    refine .then_read ⟨_, uint32_delivers _⟩ ?_
    rw [hvisual.eq, hcolormap.eq]
    exact allocate_reads.bind_nil (.pure _)

theorem ignoringError_writes {w : Send Unit} {bs : List UInt8} (h : Writes OutMessage.sink w bs ()) :
    Writes OutMessage.sink (ignoringError w) bs () := fun m hm => by
  obtain ⟨t, ht, htl, htaken⟩ := h m hm
  exact ⟨t, by simp only [ignoringError, ht], htl, htaken⟩

theorem windowData_exchanged {window : NPWindow} (h : window.Permitted) :
    Exchanged (doSendNPWindowData window) doRecvNPWindowData window := by
  refine .bind ⟨_, uint32_delivers _⟩ ?_
  refine .bind ⟨_, int32_delivers _⟩ ?_
  refine .bind ⟨_, int32_delivers _⟩ ?_
  refine .bind ⟨_, uint32_delivers _⟩ ?_
  refine .bind ⟨_, uint32_delivers _⟩ ?_
  refine .bind (rect_exchanged _) ?_
  refine .bind ⟨_, int32_delivers _⟩ ?_
  obtain ⟨bs, hw, hr⟩ := wsInfo_exchanged h.2
  rw [h.1.eq]
  exact ⟨bs, ignoringError_writes hw, hr.map _⟩

theorem window_exchanged {window : Option NPWindow} (h : ∀ w ∈ window, w.Permitted) :
    Exchanged (doSendNPWindow window) doRecvNPWindow window := by
  cases window with
  | none =>
    refine .then_read ⟨_, uint32_delivers 0⟩ ?_
    rw [if_pos rfl]
    exact .pure none
  | some w =>
    refine .bind ⟨_, uint32_delivers 1⟩ ?_
    rw [if_neg (by decide)]
    exact .after_read allocate_reads ((windowData_exchanged (h w rfl)).map some)

/-! ### Printing -/

theorem fullPrint_exchanged (fullPrint : NPFullPrint) :
    Exchanged (doSendNPFullPrint fullPrint) doRecvNPFullPrint fullPrint := by
  refine .bind ⟨_, uint32_delivers _⟩ ?_
  exact .map_eq ⟨_, uint32_delivers _⟩ (by simp)

theorem embedPrint_exchanged {embedPrint : NPEmbedPrint} (h : embedPrint.window.Permitted) :
    Exchanged (doSendNPEmbedPrint embedPrint) doRecvNPEmbedPrint embedPrint :=
  (windowData_exchanged h).map NPEmbedPrint.mk

theorem print_exchanged {printInfo : NPPrint} (h : printInfo.Permitted) :
    Exchanged (doSendNPPrint printInfo) doRecvNPPrint printInfo := by
  refine .bind ⟨_, uint32_delivers _⟩ ?_
  cases printInfo with
  | full fullPrint =>
    rw [NPPrint.mode, if_pos rfl]
    exact (fullPrint_exchanged fullPrint).map NPPrint.full
  | embed embedPrint =>
    rw [NPPrint.mode, if_neg (by decide), if_pos rfl]
    exact (embedPrint_exchanged h).map NPPrint.embed
  | other mode => exact absurd h id

theorem printData_exchanged {printData : NPPrintData} (h : printData.data ≠ []) :
    Exchanged (doSendNPPrintData printData) doRecvNPPrintData printData := by
  have hfits := printData.fits
  have hsize : (UInt32.ofNat printData.data.length).toNat = printData.data.length := by
    rw [UInt32.toNat_ofNat', Nat.mod_eq_of_lt (by omega)]
  refine .bind ⟨_, uint32_delivers _⟩ ?_
  rw [hsize, cInt_of_lt (by omega)]
  refine .then_read ⟨_, rpcMessageSendBytes_writes _, rpcMessageRecvBytes_reads h⟩ ?_
  rw [dif_pos hfits]
  exact .pure printData

/-! ### Strings and variants -/

theorem CString.ofBytes_terminated (s : CString) : CString.ofBytes (s.bytes ++ [0]) = s := by
  have hbytes : (s.bytes ++ [0]).takeWhile (· ≠ 0) = s.bytes := by
    rw [List.takeWhile_append_of_pos fun b hb => by simpa using s.unterminated b hb]
    simp
  cases s
  simp only [CString.ofBytes, CString.mk.injEq]
  exact hbytes

theorem utf8_exchanged {string : CString} (h : string.bytes.length + 1 < 2 ^ 31) :
    Exchanged (doSendNPUTF8 (some string)) doRecvNPUTF8 string := by
  have hint : cInt (string.bytes.length + 1) = string.bytes.length + 1 := by exact_mod_cast cInt_of_lt h
  have hlen : (Int32.ofInt (string.bytes.length + 1)).toUInt32.toNat = string.bytes.length + 1 := by
    rw [← Nat.cast_succ, Int32.ofInt_eq_ofNat, Int32.toUInt32_ofNat', UInt32.toNat_ofNat', Nat.mod_eq_of_lt (by omega)]
  have hpos : 0 < (Int32.ofInt (string.bytes.length + 1)).toUInt32 := by
    rw [UInt32.lt_iff_toNat_lt, hlen]
    exact Nat.succ_pos _
  simp only [doSendNPUTF8, hint]
  refine .bind ⟨_, uint32_delivers _⟩ ?_
  rw [if_pos (by omega), if_pos hpos, hlen, cInt_of_lt h]
  exact .after_read allocate_reads (block_exchanged (by simp) (by simp) (CString.ofBytes_terminated string))

theorem string_exchanged {string : NPString} (h : string.Permitted) (hshort : string.Short) :
    Exchanged (doSendNPString string) doRecvNPString string.received := by
  have hint : cInt string.utf8Length.toNat = string.utf8Length.toNat := cInt_of_lt hshort
  refine .bind ⟨_, uint32_delivers _⟩ (.after_read allocate_reads ?_)
  by_cases hzero : string.utf8Length = 0
  · have hnil : string.utf8Characters.getD [] = [] := by
      rw [NPString.Permitted, hzero] at h
      exact List.length_eq_zero_iff.mp h
    rw [NPString.received, hnil, hzero, if_neg (by decide)]
    cases string.utf8Characters <;> exact .pure _
  · obtain ⟨characters, hsome⟩ : ∃ characters, string.utf8Characters = some characters := by
      cases hnone : string.utf8Characters with
      | some characters => exact ⟨characters, rfl⟩
      | none =>
        rw [NPString.Permitted, hnone] at h
        exact absurd (UInt32.toNat_inj.mp h.symm) hzero
    have hlen : characters.length = string.utf8Length.toNat := by
      rw [NPString.Permitted, hsome] at h
      exact h
    have hne : characters ≠ [] := fun hnil => hzero <| by
      rw [← UInt32.toNat_inj, ← hlen, hnil]
      rfl
    simp only [hsome, hzero, hint, UInt32.pos_iff_ne_zero, ne_eq, not_false_eq_true, if_true]
    refine block_exchanged hne (by rw [hlen]) ?_
    rw [NPString.received, hsome, Option.getD_some]

theorem variant_exchanged {O : Type} {sendObject : O → Send Unit} {recvObject : Recv O} {variant : NPVariant O}
    (h : variant.Permitted) (hshort : variant.Short) :
    Exchanged (doSendNPVariant sendObject variant) (doRecvNPVariant recvObject) variant.received := by
  refine .bind ⟨_, uint32_delivers _⟩ ?_
  cases variant with
  | void =>
    rw [NPVariant.type, dif_neg (by decide), if_pos rfl]
    exact .pure _
  | null =>
    rw [NPVariant.type, dif_neg (by decide), if_neg (by decide), if_pos rfl]
    exact .pure _
  | bool value =>
    simp only [NPVariant.type]
    exact .map_eq ⟨_, uint32_delivers _⟩ (by cases value <;> rfl)
  | int32 value => exact .map ⟨_, int32_delivers value⟩ NPVariant.int32
  | double value => exact .map ⟨_, double_delivers value⟩ NPVariant.double
  | string value => exact .map (string_exchanged h hshort) NPVariant.string
  | object value => exact absurd h id
  | other type => exact absurd h id

/-! ### All of them -/

/-- Every marshaler pair agrees on every value NPAPI permits, where the bytes of a string are no more than an
    `int` counts and an address fits the pointers of the side that only passes it back. -/
structure MarshalersAgree : Prop where
  byteRange : ∀ ranges : List NPByteRange, Exchanged (doSendNPByteRange ranges) doRecvNPByteRange ranges
  savedData : ∀ saveArea : Option NPSavedData, (∀ d ∈ saveArea, d.Permitted) →
    Exchanged (doSendNPSavedData saveArea) doRecvNPSavedData (saveArea.bind NPSavedData.received)
  notifyData : ∀ (pointers32 : Bool) (notifyData : UInt64), (pointers32 = true → notifyData.toNat < 2 ^ 32) →
    Exchanged (doSendNotifyData notifyData) (doRecvNotifyData pointers32) notifyData
  rect : ∀ rect : NPRect, Exchanged (doSendNPRect rect) doRecvNPRect rect
  window : ∀ window : Option NPWindow, (∀ w ∈ window, w.Permitted) →
    Exchanged (doSendNPWindow window) doRecvNPWindow window
  print : ∀ printInfo : NPPrint, printInfo.Permitted → Exchanged (doSendNPPrint printInfo) doRecvNPPrint printInfo
  printData : ∀ printData : NPPrintData, printData.data ≠ [] →
    Exchanged (doSendNPPrintData printData) doRecvNPPrintData printData
  utf8 : ∀ string : CString, string.bytes.length + 1 < 2 ^ 31 →
    Exchanged (doSendNPUTF8 (some string)) doRecvNPUTF8 string
  string : ∀ string : NPString, string.Permitted → string.Short →
    Exchanged (doSendNPString string) doRecvNPString string.received
  variant : ∀ {O : Type} (sendObject : O → Send Unit) (recvObject : Recv O) (variant : NPVariant O),
    variant.Permitted → variant.Short →
    Exchanged (doSendNPVariant sendObject variant) (doRecvNPVariant recvObject) variant.received

theorem cInt_of_ge {n : Nat} (hlow : 2 ^ 31 ≤ n) (hhigh : n < 2 ^ 32) : cInt n = n - 2 ^ 32 := by
  rw [cInt, Int.bmod_def]
  omega

/-- A length that turns negative as a count skips the buffer. -/
theorem doSendNPString_negative {characters : List UInt8} (hlow : 2 ^ 31 ≤ characters.length)
    (hhigh : characters.length + 4 < 2 ^ 32) (script : List SendEvent) :
    doSendNPString ⟨some characters, UInt32.ofNat characters.length⟩ ⟨[], [], script⟩ =
      (do rpcMessageFlush; rpcMessageSendBytesRaw characters (characters.length - 2 ^ 32))
        ⟨[], be32 (UInt32.ofNat characters.length), script⟩ := by
  have hsize : (UInt32.ofNat characters.length).toNat = characters.length := by
    rw [UInt32.toNat_ofNat', Nat.mod_eq_of_lt (by omega)]
  have hne : UInt32.ofNat characters.length ≠ 0 := fun h => by
    rw [← UInt32.toNat_inj, hsize] at h
    rw [h] at hlow
    exact absurd hlow (by decide)
  have hfirst : rpcMessageSendUint32 (UInt32.ofNat characters.length) ⟨[], [], script⟩ =
      .ok () ⟨[], be32 (UInt32.ofNat characters.length), script⟩ := rfl
  simp only [doSendNPString, bind, EStateM.bind, hfirst, if_pos hne, hsize, cInt_of_ge hlow (by omega)]
  rw [rpcMessageSendBytes, if_pos (.inl (by rw [length_be32]; omega))]
  rfl

/-- What travels of it depends on what the first send() takes, so nothing agrees on it. -/
theorem string_not_exchanged {characters : List UInt8} (hlow : 2 ^ 31 ≤ characters.length)
    (hhigh : characters.length + 4 < 2 ^ 32) {b : NPString} :
    ¬Exchanged (doSendNPString ⟨some characters, UInt32.ofNat characters.length⟩) doRecvNPString b := by
  rintro ⟨bs, hw, -⟩
  obtain ⟨t, ht, -, hall⟩ := hw ⟨[], [], []⟩ (fun _ h => nomatch h)
  obtain ⟨u, hu, -, hpart⟩ := hw ⟨[], [], [.wrote 4, .wrote 0]⟩ (by
    intro e he
    rcases List.mem_cons.mp he with rfl | he
    · trivial
    · rw [List.mem_singleton.mp he]
      trivial)
  rw [doSendNPString_negative hlow hhigh] at ht hu
  have hcount : (characters.length : Int) < 4294967296 := by omega
  have hcount' : ¬(4294967296 : Int) < characters.length := by omega
  simp [bind, EStateM.bind, rpcMessageFlush, rpcMessageSendBytesRaw, sendLoop, sendRoom, hcount, hcount'] at ht hu
  -- everything on an idle socket, the length alone on one that takes four bytes and then none
  subst ht hu
  simp only [OutMessage.sink, OutMessage.taken, List.append_nil, List.nil_append] at hall hpart
  have hlen := congrArg List.length (hall.trans hpart.symm)
  rw [List.length_append, List.length_take, length_be32] at hlen
  omega

/-- `n` letters. -/
def longString (n : Nat) : NPString := ⟨some (List.replicate n 65), UInt32.ofNat n⟩

theorem longString_not_exchanged {n : Nat} (hlow : 2 ^ 31 ≤ n) (hhigh : n + 4 < 2 ^ 32) : (longString n).Permitted ∧
    ¬Exchanged (doSendNPString (longString n)) doRecvNPString (longString n).received := by
  have hlen : (List.replicate n (65 : UInt8)).length = n := List.length_replicate
  refine ⟨?_, ?_⟩
  · rw [NPString.Permitted, longString, Option.getD_some, hlen, UInt32.toNat_ofNat', Nat.mod_eq_of_lt (by omega)]
  · have h := string_not_exchanged (by rwa [hlen]) (by rwa [hlen]) (b := (longString n).received)
    rw [hlen] at h
    exact h

end NSPluginWrapper
