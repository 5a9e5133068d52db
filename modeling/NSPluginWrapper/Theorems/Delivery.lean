import NSPluginWrapper.Theorems.Message
import NSPluginWrapper.Theorems.Player

/-! What the plugin gets of a stream of the player. The bytes come where they belong as long as each buffer is accepted
    whole: of a buffer that is accepted in pieces the offset is wrong, and the temporary file has bytes twice. -/

namespace NSPluginWrapper
open Lib

namespace Player

/-- What the plugin has not taken of a buffer. -/
def Buffer.rest (b : Buffer) : List UInt8 := b.bytes.drop b.offset

namespace Stream
variable {s t : Stream} {a : Answers} {b : Buffer} {rest : List Buffer} {received done : List UInt8} {n : Nat}
  {cs ds : List Call}

/-! ### Writes -/

/-- The calls of NPP_Write offer the bytes of the stream from where the ones before were accepted, and say so. -/
def Contiguous (received : List UInt8) : Nat → List Call → Prop
  | _, [] => True
  | n, .write offset bytes accepted :: cs =>
    offset = n ∧ bytes <+: received.drop n ∧ Contiguous received (n + accepted.toNat) cs
  | n, _ :: cs => Contiguous received n cs

/-- How many bytes were accepted. -/
def taken : List Call → Nat
  | [] => 0
  | .write _ _ accepted :: cs => accepted.toNat + taken cs
  | _ :: cs => taken cs

theorem taken_append : taken (cs ++ ds) = taken cs + taken ds := by
  induction cs with
  | nil => simp [taken]
  | cons c cs ih =>
    cases c <;> simp [taken, ih]
    omega

theorem contiguous_append :
    Contiguous received n (cs ++ ds) ↔ Contiguous received n cs ∧ Contiguous received (n + taken cs) ds := by
  induction cs generalizing n with
  | nil => simp [Contiguous, taken]
  | cons c cs ih =>
    cases c <;> simp [Contiguous, taken, ih, Nat.add_assoc, and_assoc]

/-- More bytes behind the ones offered. -/
theorem Contiguous.more (h : Contiguous received n cs) (bytes : List UInt8) : Contiguous (received ++ bytes) n cs := by
  induction cs generalizing n with
  | nil => trivial
  | cons c cs ih =>
    cases c with
    | write offset offered accepted =>
      obtain ⟨hoffset, hprefix, hrest⟩ := h
      refine ⟨hoffset, hprefix.trans ?_, ih hrest⟩
      rw [List.drop_append]
      exact List.prefix_append ..
    | newStream type ret => exact ih h
    | writeReady => exact ih h
    | asFile file => exact ih h
    | destroyStream networkErr => exact ih h
    | urlNotify networkErr => exact ih h

/-! ### Where the bytes are -/

/-- `done` has been accepted, or is in the url's file anyway, and the buffers have the rest. What is written and what
    the temporary file has is `done`. -/
structure Placed (s : Stream) (done : List UInt8) : Prop where
  received : s.received = done ++ s.buffers.flatMap Buffer.rest
  short : s.received.length < 2 ^ 31
  writes : Contiguous s.received 0 s.calls
  untold : ∀ file, .asFile file ∉ s.calls
  unopened : s.openIdles = 1 → s.received = []
  idle : s.active = false → done = [] ∧ s.stype = NPStreamType.normal
  used : s.streamUseNPPWrite = true →
    s.offset = done.length ∧ taken s.calls = done.length ∧ ∀ b ∈ s.buffers, b.offset = 0
  unused : s.streamUseNPPWrite = false → taken s.calls = 0
  file : ∀ content, s.tempFile = some content → content = done ∧ s.active = true ∧ s.uriType ≠ .file ∧
    (s.stype = NPStreamType.asFile ∨ s.stype = NPStreamType.asFileOnly)

/-- The first buffer is accepted whole; or nothing of it, if there is no temporary file; or NPP_Write is not called. -/
def Whole (s : Stream) (b : Buffer) (a : Answers) : Prop :=
  0 ≤ a.writeReady.toInt ∧ (s.streamUseNPPWrite = true → 0 < a.writeReady.toInt →
    ((b.size : Int) ≤ a.writeReady.toInt ∧ a.write.toInt = b.size) ∨ (a.write.toInt = 0 ∧ s.usesTempFile = false))

theorem streamWrite_used (huse : s.streamUseNPPWrite = true) (len : Nat) (hlen : len ≠ 0) (w : Int) :
    s.streamWrite b len w = (w, { s with
      calls := s.calls ++ [.write (cInt s.offset) (b.rest.take len) w]
      tempFile := if s.usesTempFile then s.tempFile.map (· ++ b.rest.take len) else s.tempFile }) := by
  simp only [streamWrite, hlen, and_false, if_false]
  generalize hfile : (if s.usesTempFile then s.tempFile.map (· ++ (b.bytes.drop b.offset).take len) else s.tempFile) = file
  have huse' : ({ s with tempFile := file } : Stream).streamUseNPPWrite = true := huse
  rw [if_pos huse', call, ← hfile]
  rfl

/-- A call that neither writes nor tells a file. -/
theorem Placed.quiet {c : Call} (h : s.Placed done) (hc : c = .writeReady ∨ ∃ type ret, c = .newStream type ret) :
    Placed { s with calls := s.calls ++ [c] } done := by
  have htaken : taken [c] = 0 := by
    rcases hc with rfl | ⟨type, ret, rfl⟩ <;> rfl
  refine ⟨h.received, h.short, ?_, ?_, h.unopened, h.idle, ?_, ?_, h.file⟩
  · refine contiguous_append.mpr ⟨h.writes, ?_⟩
    rcases hc with rfl | ⟨type, ret, rfl⟩ <;> trivial
  · intro file hmem
    rcases List.mem_append.mp hmem with hmem | hmem
    · exact h.untold file hmem
    · rcases hc with rfl | ⟨type, ret, rfl⟩ <;> simp at hmem
  · intro huse
    obtain ⟨hoffset, htaken', hzero⟩ := h.used huse
    exact ⟨hoffset, by rw [taken_append, htaken', htaken, Nat.add_zero], hzero⟩
  · intro huse
    rw [taken_append, h.unused huse, htaken]

/-- The first buffer, of which nothing was accepted. -/
theorem Placed.refused (h : s.Placed done) (hbuf : s.buffers = b :: rest) (huse : s.streamUseNPPWrite = true) (len : Nat) :
    Placed { s with calls := s.calls ++ [.write (cInt s.offset) (b.rest.take len) 0] } done := by
  obtain ⟨hoffset, htaken, hzero⟩ := h.used huse
  have hshort : done.length < 2 ^ 31 := by
    have hlen := h.short
    rw [h.received, List.length_append] at hlen
    omega
  refine ⟨h.received, h.short, ?_, ?_, h.unopened, h.idle, fun _ => ⟨hoffset, ?_, hzero⟩, ?_, h.file⟩
  · refine contiguous_append.mpr ⟨h.writes, ?_, ?_, trivial⟩
    · rw [hoffset, cInt_of_lt hshort, htaken, Nat.zero_add]
    · rw [htaken, Nat.zero_add, h.received, List.drop_left, hbuf, List.flatMap_cons]
      exact (List.take_prefix len b.rest).trans (List.prefix_append ..)
  · intro file hmem
    rcases List.mem_append.mp hmem with hmem | hmem
    · exact h.untold file hmem
    · simp at hmem
  · rw [taken_append, htaken]
    rfl
  · intro hnot
    exact absurd (huse.symm.trans hnot) (by decide)

/-- The first buffer, which was accepted whole. -/
theorem Placed.accepted (h : s.Placed done) (hbuf : s.buffers = b :: rest) (hactive : s.active = true)
    (huse : s.streamUseNPPWrite = true) :
    Placed { s with
      calls := s.calls ++ [.write (cInt s.offset) b.bytes b.size]
      tempFile := if s.usesTempFile then s.tempFile.map (· ++ b.bytes) else s.tempFile
      buffers := rest
      offset := s.offset + b.size } (done ++ b.bytes) := by
  obtain ⟨hoffset, htaken, hzero⟩ := h.used huse
  have hwhole : b.rest = b.bytes := by
    rw [Buffer.rest, hzero b (by simp [hbuf]), List.drop_zero]
  have hall : s.received = done ++ b.bytes ++ rest.flatMap Buffer.rest := by
    rw [h.received, hbuf, List.flatMap_cons, hwhole, List.append_assoc]
  have hshort : done.length < 2 ^ 31 := by
    have hlen := h.short
    rw [h.received, List.length_append] at hlen
    omega
  refine ⟨hall, h.short, ?_, ?_, h.unopened, by simp [hactive], fun _ => ⟨?_, ?_, ?_⟩, ?_, ?_⟩
  · refine contiguous_append.mpr ⟨h.writes, ?_, ?_, trivial⟩
    · rw [hoffset, cInt_of_lt hshort, htaken, Nat.zero_add]
    · rw [htaken, Nat.zero_add, hall, List.append_assoc, List.drop_left]
      exact List.prefix_append ..
  · intro file hmem
    rcases List.mem_append.mp hmem with hmem | hmem
    · exact h.untold file hmem
    · simp at hmem
  · simp [hoffset, Buffer.size]
  · simp [taken_append, htaken, taken, Buffer.size]
  · intro b' hb'
    exact hzero b' (by simp [hbuf, hb'])
  · intro hnot
    exact absurd (huse.symm.trans hnot) (by decide)
  · intro content hcontent
    cases htemp : s.tempFile with
    | none => simp [htemp] at hcontent
    | some old =>
      obtain ⟨hold, hact, huri, htype⟩ := h.file old htemp
      have huses : s.usesTempFile = true := by simp [usesTempFile, htype, htemp]
      rw [if_pos huses, htemp, Option.map_some, Option.some.injEq] at hcontent
      exact ⟨by rw [← hcontent, hold], hact, huri, htype⟩

/-- The first buffer of a local file that the plugin opens itself. -/
theorem Placed.skipped (h : s.Placed done) (hbuf : s.buffers = b :: rest) (hactive : s.active = true)
    (huse : s.streamUseNPPWrite = false) {buffers : List Buffer} {skip : List UInt8} (offset : Nat)
    (hskip : b.rest ++ rest.flatMap Buffer.rest = skip ++ buffers.flatMap Buffer.rest) :
    Placed { s with buffers := buffers, offset := offset } (done ++ skip) := by
  have hnone : s.tempFile = none := by
    cases htemp : s.tempFile with
    | none => rfl
    | some content =>
      obtain ⟨-, -, huri, -⟩ := h.file content htemp
      simp [streamUseNPPWrite, huri] at huse
  refine ⟨?_, h.short, h.writes, h.untold, h.unopened, by simp [hactive], ?_, h.unused, by simp [hnone]⟩
  · rw [h.received, hbuf, List.flatMap_cons, hskip, List.append_assoc]
  · intro hnot
    exact absurd (huse.symm.trans hnot) (by decide)

theorem Placed.buffer (h : s.Placed done) (hbuf : s.buffers = b :: rest) (hactive : s.active = true) (hb : b.Waiting)
    (hrest : ∀ b ∈ rest, b.Waiting) (hw : s.Whole b a) :
    ∃ feed file buffers offset done', s.commitBuffer b rest a =
      { s with calls := s.calls ++ feed, tempFile := file, buffers := buffers, offset := offset } ∧
      Placed { s with calls := s.calls ++ feed, tempFile := file, buffers := buffers, offset := offset } done' ∧
      ∀ b ∈ buffers, b.Waiting := by
  have hleft := hb.left
  have hsize := hb.size
  have hall : ∀ b ∈ s.buffers, b.Waiting := by
    rw [hbuf]
    exact List.forall_mem_cons.mpr ⟨hb, hrest⟩
  obtain ⟨hnonneg, hwhole⟩ := hw
  cases huse : s.streamUseNPPWrite with
  | false =>
    have hnofile : s.usesTempFile = false := by
      cases htemp : s.tempFile with
      | none => simp [usesTempFile, htemp]
      | some content =>
        obtain ⟨-, -, huri, -⟩ := h.file content htemp
        simp [streamUseNPPWrite, huri] at huse
    obtain ⟨m, hm, hoffered⟩ : ∃ m, m = min (b.size - b.offset) 0x0fffff ∧ 0 < m := ⟨_, rfl, by omega⟩
    have hmod : (b.offset + m) % 2 ^ 32 = b.offset + m := Nat.mod_eq_of_lt (by omega)
    have hcommit : s.commitBuffer b rest a = s.takeWritten b rest m := by
      have huse' : ({ s with tempFile := s.tempFile } : Stream).streamUseNPPWrite = false := huse
      simp [commitBuffer, streamWriteReady, huse, streamWrite, hnofile, ← hm]
    by_cases hlast : b.size ≤ b.offset + m
    · refine ⟨[], s.tempFile, rest, (s.offset + m) % 2 ^ 32, done ++ b.rest, ?_, ?_, hrest⟩
      · rw [hcommit, takeWritten, if_neg (by omega), if_pos (by omega), Int.toNat_natCast, hmod, List.append_nil]
        dsimp only
        rw [if_pos hlast]
      · rw [List.append_nil]
        exact h.skipped hbuf hactive huse _ rfl
    · refine ⟨[], s.tempFile, { b with offset := b.offset + m } :: rest, s.offset, done ++ b.rest.take m, ?_, ?_, ?_⟩
      · rw [hcommit, takeWritten, if_neg (by omega), if_pos (by omega), Int.toNat_natCast, hmod, List.append_nil]
        dsimp only
        rw [if_neg hlast]
      · rw [List.append_nil]
        refine h.skipped hbuf hactive huse _ ?_
        rw [List.flatMap_cons, ← List.append_assoc]
        simp [Buffer.rest, ← List.drop_drop]
      · exact List.forall_mem_cons.mpr ⟨⟨Nat.lt_of_not_le hlast, hsize⟩, hrest⟩
  | true =>
    have hready := h.quiet (c := .writeReady) (.inl rfl)
    rcases eq_or_lt_of_le hnonneg with hzero | hpos
    · refine ⟨[.writeReady], s.tempFile, s.buffers, s.offset, done, ?_, hready, hall⟩
      simp [commitBuffer, streamWriteReady, huse, ← hzero, call]
    · have hwrite := streamWrite_used (s := s.call .writeReady) (b := b) huse
        (min (b.size - b.offset) a.writeReady.toInt.toNat) (by omega) a.write.toInt
      have hcommit : s.commitBuffer b rest a = takeWritten { s with
          calls := (s.calls ++ [.writeReady]) ++ [.write (cInt s.offset)
            (b.rest.take (min (b.size - b.offset) a.writeReady.toInt.toNat)) a.write.toInt]
          tempFile := if s.usesTempFile then
              s.tempFile.map (· ++ b.rest.take (min (b.size - b.offset) a.writeReady.toInt.toNat))
            else s.tempFile } b rest a.write.toInt := by
        rw [commitBuffer, streamWriteReady, if_pos huse]
        dsimp only
        rw [if_neg (by omega), if_pos hpos, hwrite]
        rfl
      rcases hwhole huse hpos with ⟨hfits, haccepted⟩ | ⟨hnothing, hnofile⟩
      · have hstart : b.offset = 0 := (h.used huse).2.2 b (by simp [hbuf])
        have hbytes : b.rest.take (min (b.size - b.offset) a.writeReady.toInt.toNat) = b.bytes := by
          rw [Buffer.rest, hstart, List.drop_zero, List.take_of_length_le]
          simp only [Buffer.size] at hfits ⊢
          omega
        have hsum : s.offset + b.size < 2 ^ 32 := by
          have hlen := h.short
          rw [h.received, hbuf, List.flatMap_cons, List.length_append, List.length_append, ← (h.used huse).1] at hlen
          simp only [Buffer.rest, hstart, List.drop_zero] at hlen
          simp only [Buffer.size]
          omega
        have haccept := hready.accepted (b := b) hbuf hactive huse
        refine ⟨_, _, rest, s.offset + b.size, done ++ b.bytes, ?_, by rw [← List.append_assoc]; exact haccept, hrest⟩
        rw [hcommit, hbytes, haccepted, takeWritten, if_neg (by omega), if_pos (by omega), Int.toNat_natCast, hstart,
          Nat.zero_add, Nat.mod_eq_of_lt hsize]
        dsimp only
        rw [if_pos (le_refl _), Nat.mod_eq_of_lt hsum, List.append_assoc]
        rfl
      · have hrefused := hready.refused (b := b) hbuf huse
          (min (b.size - b.offset) a.writeReady.toInt.toNat)
        refine ⟨_, s.tempFile, s.buffers, s.offset, done, ?_, by rw [← List.append_assoc]; exact hrefused, hall⟩
        rw [hcommit, hnothing, hnofile, takeWritten, if_neg (by omega), if_neg (by omega), if_neg (by decide),
          List.append_assoc]

/-! ### Callbacks -/

/-- What the plugin got is right: the writes, and the temporary file if it is told of one. -/
def Right (s : Stream) : Prop :=
  Contiguous s.received 0 s.calls ∧ ∀ content, .asFile (.temporary content) ∈ s.calls → content = s.received

/-- A stream that has its bytes where they belong, or has come to its end. -/
def Exact (s : Stream) : Prop := (s.Waits ∧ ∃ done, s.Placed done) ∨ s.Gone ∧ s.Right

theorem Placed.right (h : s.Placed done) : s.Right := ⟨h.writes, fun _ hmem => absurd hmem (h.untold _)⟩

theorem contiguous_ending (n : Nat) : Contiguous received n s.ending := by
  rw [ending]
  split <;> split <;> simp [Contiguous]

/-- The temporary file has all of the stream when its name is told. -/
theorem Placed.conclude (h : s.Placed done) (hc : s.Committing) (hb : ∀ b ∈ s.buffers, b.Waiting)
    (hd : s.destroy = false) : s.concludeCommit.Exact := by
  rcases hc.conclude hb with ⟨hlast, hgone, hcalls, -, hreceived⟩ | ⟨-, -, hwaits, source, idles, heq⟩
  · obtain ⟨hnil, -⟩ := hlast.resolve_left (by simp [hd])
    have hall : s.received = done := by
      rw [h.received, hnil, List.flatMap_nil, List.append_nil]
    refine .inr ⟨hgone, ?_, fun content hmem => ?_⟩
    · rw [hreceived, hcalls]
      exact contiguous_append.mpr ⟨h.writes, contiguous_ending _⟩
    · rw [hcalls] at hmem
      rcases List.mem_append.mp hmem with hmem | hmem
      · exact absurd hmem (h.untold _)
      · have hfname : s.fname = .temporary content := by
          rw [ending] at hmem
          split at hmem <;> split at hmem <;> simp at hmem
          · exact hmem.symm
          · exact hmem.symm
        rw [fname] at hfname
        split at hfname
        · rename_i c hcontent
          cases hfname
          rw [(h.file _ hcontent).1, hreceived, hall]
        · cases hfname
  · refine .inl ⟨hwaits, done, ?_⟩
    rw [heq]
    exact ⟨h.received, h.short, h.writes, h.untold, h.unopened, h.idle, h.used, h.unused, h.file⟩

/-- NPP_NewStream says how the plugin wants the stream before anything of it is accepted. -/
theorem Placed.start (h : s.Placed done) (hidle : s.active = false) (mimeType : Option String) (ret : NPError)
    (stype : UInt16) : Placed { { s with mimeType := mimeType }.gNPPNewStream ret stype with active := true } done := by
  have hq := h.quiet (c := .newStream mimeType ret) (.inr ⟨_, _, rfl⟩)
  obtain ⟨hdone, hnormal⟩ := h.idle hidle
  have huse : s.streamUseNPPWrite = true := by
    rw [streamUseNPPWrite, hnormal]
    rfl
  refine ⟨hq.received, hq.short, hq.writes, hq.untold, hq.unopened, nofun, fun _ => hq.used huse, fun _ => ?_, ?_⟩
  · have htaken := (hq.used huse).2.1
    rw [hdone] at htaken
    exact htaken
  · intro content hcontent
    have hactive := (h.file content hcontent).2.1
    simp [hidle] at hactive

/-- The buffers are accepted whole, and all of the stream is shorter than 2 GiB. -/
def Delivered (s : Stream) : Event → Prop
  | .opens _ => True
  | .data bytes => bytes ≠ [] ∧ s.received.length + bytes.length < 2 ^ 31
  | .closes => s.active = false → ∀ text, s.javascript = some (some text) →
    text ≠ [] ∧ s.received.length + text.length < 2 ^ 31
  | .commit answers => ∀ b ∈ s.buffers.head?, (s.active = false → answers.newStream = NPError.noError) ∧
    Whole { s with stype := if s.active then s.stype else answers.stype } b answers

theorem Exact.commit (h : s.Exact) (hc : 0 < s.commitIdles) (hd : s.Delivered (.commit a)) :
    (s.onStreamCommitCb a).Exact := by
  rcases h with ⟨hw, done, hp⟩ | ⟨hgone, -⟩
  · have hcom := hw.committing hc
    cases hbuf : s.buffers with
    | nil =>
      rw [onStreamCommitCb_nil hbuf]
      exact hp.conclude hcom hw.buffers hw.destroy
    | cons b rest =>
      have hwaiting := hw.buffers
      rw [hbuf] at hwaiting
      obtain ⟨hb, hrest⟩ := List.forall_mem_cons.mp hwaiting
      obtain ⟨hnew, hwhole⟩ := hd b (by simp [hbuf])
      -- the first buffer of a stream that is active by now
      have hbuffer : ∀ t : Stream, t.Committing → t.destroy = false → t.Placed done → t.buffers = b :: rest →
          t.active = true → t.Whole b a → (t.commitBuffer b rest a).concludeCommit.Exact := by
        intro t ht hdestroy hpt hbt hact hwt
        obtain ⟨feed, file, buffers, offset, done', heq, hp', hall⟩ := hpt.buffer hbt hact hb hrest hwt
        rw [heq]
        exact hp'.conclude ⟨ht.alive, ht.commits, ht.commitSource, ht.openIdles, ht.handle⟩ hall hdestroy
      cases hact : s.active with
      | true =>
        rw [onStreamCommitCb_active hbuf hact]
        rw [hact, if_pos rfl] at hwhole
        exact hbuffer s hcom hw.destroy hp hbuf hact hwhole
      | false =>
        rw [onStreamCommitCb_start hbuf hact (hnew hact)]
        rw [hact, if_neg (by decide)] at hwhole
        refine hbuffer _ ⟨hcom.alive, hcom.commits, hcom.commitSource, hcom.openIdles, hcom.handle⟩ hw.destroy ?_ hbuf rfl
          hwhole
        exact hp.start hact _ _ _
  · simp [hgone.commitIdles] at hc

theorem streamBufferNew_whole {bytes : List UInt8} (h : bytes.length < 2 ^ 31) : streamBufferNew bytes = ⟨bytes, 0⟩ := by
  rw [streamBufferNew, Nat.mod_eq_of_lt (by omega), List.take_length]

/-- Data arrives behind what there is. -/
theorem Placed.read {bytes : List UInt8} (h : s.Placed done) (hopen : s.openIdles = 0)
    (hshort : s.received.length + bytes.length < 2 ^ 31) (source : Bool) (idles : Nat) :
    Placed { s with
      buffers := s.buffers ++ [streamBufferNew bytes]
      received := s.received ++ bytes
      commitSource := source
      commitIdles := idles } done := by
  rw [streamBufferNew_whole (by omega)]
  refine ⟨?_, ?_, h.writes.more bytes, h.untold, fun hone => ?_, h.idle, fun huse => ?_, h.unused, h.file⟩
  · simp [h.received, Buffer.rest]
  · rw [List.length_append]
    exact hshort
  · exact absurd (hopen.symm.trans hone) (by decide)
  · obtain ⟨hoffset, htaken, hzero⟩ := h.used huse
    exact ⟨hoffset, htaken, List.forall_mem_append.mpr ⟨hzero, by simp⟩⟩

theorem length_mod_pos {bytes : List UInt8} (hne : bytes ≠ []) (hshort : s.received.length + bytes.length < 2 ^ 31) :
    0 < bytes.length % 2 ^ 32 := by
  have hpos := List.length_pos_iff.mpr hne
  rw [Nat.mod_eq_of_lt (by omega)]
  exact hpos

theorem Exact.data {bytes : List UInt8} (h : s.Exact) (hnet : s.network = .active) (hd : s.Delivered (.data bytes)) :
    (s.onStreamReadCb bytes).Exact := by
  rcases h with ⟨hw, done, hp⟩ | ⟨hgone, -⟩
  · have hopen := hw.opened (by simp [hnet])
    obtain ⟨hread, heq⟩ := hw.read hopen (length_mod_pos hd.1 hd.2)
    refine .inl ⟨hread, done, ?_⟩
    rw [heq]
    exact hp.read hopen hd.2 true 1
  · exact absurd hnet hgone.network

theorem startTransfer_cases (opening : Opening) (hnet : s.network = .idle) : ∃ handle network,
    s.startTransfer opening = { s with curlHandle := handle, network := network } ∧
      (network = .active → handle = true) := by
  rw [startTransfer]
  split
  · exact ⟨_, _, rfl, fun _ => rfl⟩
  · exact ⟨s.curlHandle, s.network, rfl, fun hact => by simp [hnet] at hact⟩

/-- A temporary file starts empty, for a remote stream that the plugin wants as a file. -/
theorem onStreamOpenCb_cases {opening : Opening} (h : s.Unopened) : ∃ file handle network, s.onStreamOpenCb opening =
    { s with openIdles := 0, tempFile := file, curlHandle := handle, network := network } ∧
    (network = .active → handle = true) ∧ (file = none ∨ file = some [] ∧ s.uriType ≠ .file ∧
      (s.stype = NPStreamType.asFile ∨ s.stype = NPStreamType.asFileOnly)) := by
  have hclosed : ({ s with openIdles := s.openIdles - 1 } : Stream) = { s with openIdles := 0 } := by
    rw [h.openIdles]
  obtain ⟨handle, network, hstart, hhandle⟩ :=
    startTransfer_cases (s := { s with openIdles := 0 }) opening h.network
  have hleft : s.network = .active → s.curlHandle = true := fun hact => by simp [h.network] at hact
  rw [onStreamOpenCb, hclosed]
  dsimp only
  split
  · exact ⟨s.tempFile, handle, network, hstart, hhandle, .inl h.tempFile⟩
  · split
    · rename_i hfile
      split
      · rename_i huri
        split
        · obtain ⟨handle, network, hstart, hhandle⟩ :=
            startTransfer_cases (s := { s with openIdles := 0, tempFile := some [] }) opening h.network
          exact ⟨some [], handle, network, hstart, hhandle, .inr ⟨rfl, huri, hfile⟩⟩
        · exact ⟨s.tempFile, s.curlHandle, s.network, rfl, hleft, .inl h.tempFile⟩
      · exact ⟨s.tempFile, handle, network, hstart, hhandle, .inl h.tempFile⟩
    · exact ⟨s.tempFile, s.curlHandle, s.network, rfl, hleft, .inl h.tempFile⟩

theorem Exact.opens {opening : Opening} (h : s.Exact) (hopen : 0 < s.openIdles) : (s.onStreamOpenCb opening).Exact := by
  rcases h with ⟨hw, done, hp⟩ | ⟨hgone, -⟩
  · have hun : s.Unopened := by
      rcases hw.opening with hzero | hun
      · omega
      · exact hun
    obtain ⟨file, handle, network, heq, hhandle, hfile⟩ : ∃ file handle network, s.onStreamOpenCb opening =
        { s with openIdles := 0, tempFile := file, curlHandle := handle, network := network } ∧
        (network = .active → handle = true) ∧ (file = none ∨ file = some [] ∧ s.uriType ≠ .file ∧
          (s.stype = NPStreamType.asFile ∨ s.stype = NPStreamType.asFileOnly)) :=
      onStreamOpenCb_cases hun
    rw [heq]
    refine .inl ⟨⟨hw.alive, hw.commits, hw.pending, hw.destroy, .inl rfl, hhandle, hw.buffers⟩, done, ?_⟩
    refine ⟨hp.received, hp.short, hp.writes, hp.untold, nofun, hp.idle, hp.used, hp.unused, ?_⟩
    intro content hcontent
    rcases hfile with hnone | ⟨hsome, huri, htype⟩
    · rw [hnone] at hcontent
      cases hcontent
    · rw [hsome] at hcontent
      cases hcontent
      have hempty : done = [] := by
        have hrec := hp.received
        rw [hp.unopened hun.openIdles] at hrec
        exact (List.append_eq_nil_iff.mp hrec.symm).1
      refine ⟨hempty.symm, ?_, huri, htype⟩
      cases hact : s.active with
      | true => rfl
      | false =>
        have hnormal := (hp.idle hact).2
        rcases htype with ht | ht <;> rw [hnormal] at ht <;> cases ht
  · simp [hgone.openIdles] at hopen

/-- The text of the url is put behind what there is. -/
theorem Placed.runJavascript (h : s.Placed done) (hw : s.Waits) (hopen : s.openIdles = 0)
    (htext : ∀ text, s.javascript = some (some text) → text ≠ [] ∧ s.received.length + text.length < 2 ^ 31) :
    s.runJavascript.Waits ∧ s.runJavascript.openIdles = 0 ∧ s.runJavascript.Placed done := by
  have htyped : ({ s with mimeType := some "text/html" } : Stream).Waits :=
    ⟨hw.alive, hw.commits, hw.pending, hw.destroy, .inl hopen, hw.handle, hw.buffers⟩
  have hplaced : ({ s with mimeType := some "text/html" } : Stream).Placed done :=
    ⟨h.received, h.short, h.writes, h.untold, h.unopened, h.idle, h.used, h.unused, h.file⟩
  rw [Stream.runJavascript]
  split
  · exact ⟨hw, hopen, h⟩
  · rename_i text hsome
    cases text with
    | none => exact ⟨htyped, hopen, hplaced⟩
    | some text =>
      obtain ⟨hne, hshort⟩ := htext text hsome
      obtain ⟨hread, heq⟩ := htyped.read hopen (length_mod_pos hne hshort)
      refine ⟨hread, (onStreamReadCb_keeps).1.trans hopen, ?_⟩
      dsimp only
      rw [heq]
      exact hplaced.read hopen hshort true 1

theorem Exact.schedule (done : List UInt8) (hw : s.Waits) (hopen : s.openIdles = 0) (hp : s.Placed done) :
    (s.streamScheduleDestroy false).Exact := by
  obtain ⟨hwaits, heq⟩ := hw.schedule hopen
  refine .inl ⟨hwaits, done, ?_⟩
  rw [heq]
  exact ⟨hp.received, hp.short, hp.writes, hp.untold, hp.unopened, hp.idle, hp.used, hp.unused, hp.file⟩

theorem Exact.closes (h : s.Exact) (hnet : s.network = .active) (hd : s.Delivered .closes) :
    s.onStreamCloseCb.Exact := by
  rcases h with ⟨hw, done, hp⟩ | ⟨hgone, -⟩
  · have hopen := hw.opened (by simp [hnet])
    have hdone : ({ s with network := .done } : Stream).Waits :=
      ⟨hw.alive, hw.commits, hw.pending, hw.destroy, .inl hopen, nofun, hw.buffers⟩
    have hplaced : ({ s with network := .done } : Stream).Placed done :=
      ⟨hp.received, hp.short, hp.writes, hp.untold, hp.unopened, hp.idle, hp.used, hp.unused, hp.file⟩
    rw [onStreamCloseCb]
    dsimp only
    by_cases hact : s.active = true
    · rw [if_pos hact]
      exact .schedule done hdone hopen hplaced
    · obtain ⟨hwaits, hopen', hp'⟩ := hplaced.runJavascript hdone hopen (hd (by simpa using hact))
      rw [if_neg hact]
      split
      · exact .schedule done ⟨hwaits.alive, hwaits.commits, hwaits.pending, hwaits.destroy, .inl hopen', hwaits.handle,
          hwaits.buffers⟩ hopen' ⟨hp'.received, hp'.short, hp'.writes, hp'.untold, hp'.unopened, hp'.idle,
            hp'.used, hp'.unused, hp'.file⟩
      · exact .schedule done hwaits hopen' hp'
  · exact absurd hnet hgone.network

/-! ### Runs -/

theorem streamNew_exact (plugin type : Option String) (content : List UInt8 → Option String)
    (javascript : Option (Option (List UInt8))) (uriType : UriType) (notifyData : Bool) (a : Answers) :
    (streamNew plugin type content javascript uriType notifyData a).Exact := by
  rcases streamNew_sound plugin type content javascript uriType notifyData a with ⟨hw, -, -⟩ | ⟨hgone, -⟩
  · refine .inl ⟨hw, [], ?_⟩
    cases notifyData with
    | true => exact ⟨rfl, Nat.two_pow_pos 31, trivial, by simp [streamNew], fun _ => rfl, fun _ => ⟨rfl, rfl⟩,
        by simp [streamNew, taken], fun _ => rfl, by rintro _ ⟨⟩⟩
    | false =>
      by_cases hret : a.newStream = NPError.noError
      · have heq := show streamNew plugin type content javascript uriType false a = _ by
          simp only [streamNew, Bool.false_eq_true, if_false, hret, ne_eq, not_true]; rfl
        rw [heq]
        exact ⟨rfl, Nat.two_pow_pos 31, trivial, by simp [gNPPNewStream, call], fun _ => rfl, by rintro ⟨⟩,
          fun _ => ⟨rfl, rfl, by rintro _ ⟨⟩⟩, fun _ => rfl, by rintro _ ⟨⟩⟩
      · have heq := show streamNew plugin type content javascript uriType false a = _ by
          simp only [streamNew, Bool.false_eq_true, if_false, hret, ne_eq, not_false_eq_true, if_true]; rfl
        rw [heq] at hw
        exact absurd hw.alive (by simp)
  · refine .inr ⟨hgone, ?_⟩
    cases notifyData with
    | true => exact ⟨trivial, by simp [streamNew]⟩
    | false =>
      by_cases hret : a.newStream = NPError.noError
      · have heq := show streamNew plugin type content javascript uriType false a = _ by
          simp only [streamNew, Bool.false_eq_true, if_false, hret, ne_eq, not_true]; rfl
        rw [heq]
        exact ⟨trivial, by simp [gNPPNewStream, call]⟩
      · have heq := show streamNew plugin type content javascript uriType false a = _ by
          simp only [streamNew, Bool.false_eq_true, if_false, hret, ne_eq, not_false_eq_true, if_true]; rfl
        rw [heq]
        exact ⟨trivial, by simp [gNPPNewStream, call]⟩

theorem exec_exact {e : Event} (h : s.Exact) (ha : s.Allowed e) (hd : s.Delivered e) : ∃ t, s.exec e = .ok t ∧ t.Exact := by
  have halive : s.isFreed = false := by
    rcases h with ⟨hw, -⟩ | ⟨hgone, -⟩
    · exact hw.alive
    · cases e with
      | opens opening => simp [Allowed, hgone.openIdles] at ha
      | data bytes => exact absurd ha hgone.network
      | closes => exact absurd ha hgone.network
      | commit answers => simp [Allowed, hgone.commitIdles] at ha
  refine ⟨_, by simp only [exec, halive, Bool.false_eq_true, if_false]; rfl, ?_⟩
  cases e with
  | opens opening => exact h.opens ha
  | data bytes => exact h.data ha hd
  | closes => exact h.closes ha hd
  | commit answers => exact h.commit ha hd

/-- The plugin is offered the bytes of the stream where they belong, a temporary file has them all when its name is told,
    and what is accepted brings the stream to its end. -/
structure Delivers (s : Stream) : Prop where
  writes : Contiguous s.received 0 s.calls
  file : ∀ content, .asFile (.temporary content) ∈ s.calls → content = s.received
  progress : s.isFreed = false → s.buffers ≠ [] → 0 < s.commitIdles ∧ ∀ a, s.Accepts a →
    (s.onStreamCommitCb a).isFreed = true ∨ (s.onStreamCommitCb a).remaining < s.remaining
  ends : s.finish = true → s.Ends

theorem Exact.delivers (h : s.Exact) : s.Delivers := by
  rcases h with ⟨hw, done, hp⟩ | ⟨hgone, hwrites, hfile⟩
  · refine ⟨hp.right.1, hp.right.2, fun _ hne => ?_, hw.ends⟩
    have hc : 0 < s.commitIdles := by
      simp [hw.commits, hw.pending (.inl hne)]
    refine ⟨hc, fun a ha => ?_⟩
    rcases commit_progress hw hc ha hne with hfreed | ⟨-, -, hless⟩
    · exact .inl hfreed
    · exact .inr hless
  · refine ⟨hwrites, hfile, fun halive => ?_, fun _ => .freed hgone.freed⟩
    simp [hgone.freed] at halive

end Stream

/-- In a run whose buffers are accepted whole, the plugin gets the stream. -/
theorem stream_delivers {s : Except Fault Stream}
    (h : (playerStream.restrict fun s e => ∀ v, s = .ok v → v.Delivered e).Reachable s) :
    ∃ v, s = .ok v ∧ v.Delivers := by
  have hinv : ∃ v, s = .ok v ∧ v.Exact := by
    refine h.invariant (fun s => ∃ v, s = .ok v ∧ v.Exact) ?_ ?_
    · rintro _ ⟨plugin, type, content, javascript, uriType, notifyData, answers, rfl⟩
      exact ⟨_, rfl, Stream.streamNew_exact plugin type content javascript uriType notifyData answers⟩
    · rintro _ e _ - ⟨v, rfl, hs⟩ ⟨hd, v', hv', ha, rfl⟩
      cases hv'
      exact Stream.exec_exact hs ha (hd v rfl)
  obtain ⟨v, rfl, hs⟩ := hinv
  exact ⟨v, rfl, hs.delivers⟩

/-- Two bytes are accepted at once. -/
theorem stream_delivers_once : ∃ v, (anyStream false).run [.opens ⟨true, true⟩, .data [1, 2], .commit (accepting 2),
    .closes, .commit (accepting 0)] = .ok v ∧ v.Delivers := by
  have h₀ : (playerStream.restrict fun s e => ∀ v, s = .ok v → v.Delivered e).Reachable (.ok (anyStream false)) :=
    .init ⟨_, _, _, _, _, _, _, rfl⟩
  have h₁ := h₀.next (.opens ⟨true, true⟩) ⟨by rintro v ⟨⟩; trivial, _, rfl, Nat.one_pos, rfl⟩
  have h₂ := h₁.next (.data [1, 2]) ⟨by rintro v ⟨⟩; exact ⟨nofun, by decide⟩, _, rfl, rfl, rfl⟩
  have h₃ := h₂.next (.commit (accepting 2)) ⟨(by
    rintro v ⟨⟩ b ⟨⟩
    exact ⟨nofun, by decide, fun _ _ => .inl ⟨by decide, by decide⟩⟩), _, rfl, Nat.one_pos, rfl⟩
  have h₄ := h₃.next .closes ⟨by rintro v ⟨⟩; nofun, _, rfl, rfl, rfl⟩
  have h₅ := h₄.next (.commit (accepting 0)) ⟨by rintro v ⟨⟩; nofun, _, rfl, Nat.one_pos, rfl⟩
  exact stream_delivers h₅

/-- Three bytes that are accepted one after the other are offered at offset 0 each time. -/
theorem stream_misplaced : ¬ ∀ s, playerStream.Reachable s → ∃ v, s = .ok v ∧ v.Delivers := by
  intro h
  have h₀ : playerStream.Reachable (.ok (anyStream false)) := .init ⟨_, _, _, _, _, _, _, rfl⟩
  have h₁ := h₀.next (.opens ⟨true, true⟩) ⟨_, rfl, Nat.one_pos, rfl⟩
  have h₂ := h₁.next (.data [1, 2, 3]) ⟨_, rfl, rfl, rfl⟩
  have h₃ := h₂.next (.commit (accepting 1)) ⟨_, rfl, Nat.one_pos, rfl⟩
  have h₄ := h₃.next (.commit (accepting 1)) ⟨_, rfl, Nat.one_pos, rfl⟩
  obtain ⟨v, hv, hdelivers⟩ := h _ h₄
  have hcalls : v.calls =
      [.newStream none NPError.noError, .writeReady, .write 0 [1, 2, 3] 1, .writeReady, .write 0 [2, 3] 1] := by
    cases hv
    decide +kernel
  have hwrites := hdelivers.writes
  rw [hcalls] at hwrites
  exact absurd hwrites.2.2.1 (by decide)

end Player
end NSPluginWrapper
