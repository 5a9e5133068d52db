import NSPluginWrapper.Lib.Machine
import NSPluginWrapper.Plugin.Player

/-! The calls that the player makes for a stream. They follow the protocol where each stream is opened, started with
    data, and accepted; any other stream is left behind, or destroyed without having been started. -/

namespace NSPluginWrapper
open Lib

namespace Player

/-- A buffer with bytes left. -/
structure Buffer.Waiting (b : Buffer) : Prop where
  left : b.offset < b.size
  size : b.size < 2 ^ 32

/-- NPP_WriteReady and NPP_Write. -/
def Call.Feeds : Call → Prop
  | .writeReady | .write .. => True
  | _ => False

namespace Stream
variable {s t : Stream} {a : Answers} {b : Buffer} {rest : List Buffer}

/-! ### Sources -/

/-- No source is left for the stream. -/
structure Gone (s : Stream) : Prop where
  freed : s.isFreed = true
  openIdles : s.openIdles = 0
  commitIdles : s.commitIdles = 0
  network : s.network ≠ .active

/-- The stream was not opened yet. -/
structure Unopened (s : Stream) : Prop where
  openIdles : s.openIdles = 1
  network : s.network = .idle
  buffers : s.buffers = []
  finish : s.finish = false
  tempFile : s.tempFile = none
  commitSource : s.commitSource = false

/-- A stream that has not been freed: a buffer that waits, and the end, have a commit behind them. -/
structure Waits (s : Stream) : Prop where
  alive : s.isFreed = false
  commits : s.commitIdles = if s.commitSource then 1 else 0
  pending : s.buffers ≠ [] ∨ s.finish = true → s.commitSource = true
  destroy : s.destroy = false
  opening : s.openIdles = 0 ∨ s.Unopened
  handle : s.network = .active → s.curlHandle = true
  buffers : ∀ b ∈ s.buffers, b.Waiting

/-- A stream while its commit runs. -/
structure Committing (s : Stream) : Prop where
  alive : s.isFreed = false
  commits : s.commitIdles = 1
  commitSource : s.commitSource = true
  openIdles : s.openIdles = 0
  handle : s.network = .active → s.curlHandle = true

theorem Waits.committing (h : s.Waits) (hc : 0 < s.commitIdles) : s.Committing := by
  have hsource : s.commitSource = true := by
    have hcommits := h.commits
    split at hcommits
    · assumption
    · omega
  refine ⟨h.alive, by simp [h.commits, hsource], hsource, ?_, h.handle⟩
  rcases h.opening with hopen | hopen
  · exact hopen
  · simp [hopen.commitSource] at hsource

/-- What the plugin is told at the end. -/
def ending (s : Stream) : List Call :=
  (if s.stype = NPStreamType.asFile ∨ s.stype = NPStreamType.asFileOnly then [.asFile s.fname] else []) ++
    .destroyStream s.error :: if s.notifyData then [.urlNotify s.error] else []

theorem tellEnd_eq : s.tellEnd = { s with calls := s.calls ++ s.ending } := by
  by_cases hfile : s.stype = NPStreamType.asFile ∨ s.stype = NPStreamType.asFileOnly
  · cases hn : s.notifyData <;> simp [tellEnd, ending, call, hfile, hn]
  · cases hn : s.notifyData <;> simp [tellEnd, ending, call, hfile, hn]

/-- stream_destroy() takes the transfer with it. -/
theorem streamDestroy_gone (hopen : s.openIdles = 0) (hcommit : s.commitIdles = 0)
    (hhandle : s.network = .active → s.curlHandle = true) : s.streamDestroy.Gone := by
  cases hh : s.curlHandle with
  | false =>
    have hidle : s.network ≠ .active := fun hact => by simp [hhandle hact] at hh
    cases hd : s.destroy <;> exact ⟨by simp [streamDestroy], by simp [streamDestroy, tellEnd_eq, hh, hd, hopen],
      by simp [streamDestroy, tellEnd_eq, hh, hd, hcommit], by simpa [streamDestroy, tellEnd_eq, hh, hd] using hidle⟩
  | true =>
    cases hd : s.destroy <;> exact ⟨by simp [streamDestroy], by simp [streamDestroy, tellEnd_eq, hh, hd, hopen],
      by simp [streamDestroy, tellEnd_eq, hh, hd, hcommit], by simp [streamDestroy, tellEnd_eq, hh, hd]⟩

theorem streamDestroy_calls (hd : s.destroy = true) : s.streamDestroy.calls = s.calls ++ s.ending := by
  cases hh : s.curlHandle <;> simp [streamDestroy, tellEnd_eq, hh, hd, ending, fname]

theorem streamDestroy_keeps : s.streamDestroy.notifyData = s.notifyData ∧ s.streamDestroy.received = s.received := by
  cases hh : s.curlHandle <;> cases hd : s.destroy <;> simp [streamDestroy, tellEnd_eq, hh, hd]

theorem Committing.forceDestroy (h : s.Committing) (hd : s.destroy = true) :
    s.forceDestroy.Gone ∧ s.forceDestroy.calls = s.calls ++ s.ending ∧ s.forceDestroy.notifyData = s.notifyData ∧
      s.forceDestroy.received = s.received := by
  simp only [Stream.forceDestroy, hd, if_true]
  exact ⟨streamDestroy_gone h.openIdles (by simp [h.commits]) h.handle, streamDestroy_calls rfl, streamDestroy_keeps⟩

/-- The commit is the last one of the stream, or its buffers wait for the next. -/
theorem Committing.conclude (h : s.Committing) (hb : ∀ b ∈ s.buffers, b.Waiting) :
    ((s.destroy = true ∨ s.buffers = [] ∧ s.finish = true) ∧ s.concludeCommit.Gone ∧
      s.concludeCommit.calls = s.calls ++ s.ending ∧ s.concludeCommit.notifyData = s.notifyData ∧
      s.concludeCommit.received = s.received) ∨
    (s.destroy = false ∧ (s.buffers = [] → s.finish = false) ∧ s.concludeCommit.Waits ∧
      ∃ source idles, s.concludeCommit = { s with commitSource := source, commitIdles := idles }) := by
  by_cases hlast : s.destroy = true ∨ s.buffers = [] ∧ s.finish = true
  · refine .inl ⟨hlast, ?_⟩
    -- either way the flag is set where the label is reached
    have hset : s.concludeCommit = { s with destroy := true }.forceDestroy := by
      by_cases hend : s.buffers = [] ∧ s.finish = true
      · simp [concludeCommit, hend]
      · have hd := hlast.resolve_right hend
        rw [concludeCommit, if_neg hend]
        simp [hd, Stream.forceDestroy]
    rw [hset]
    exact Committing.forceDestroy ⟨h.alive, h.commits, h.commitSource, h.openIdles, h.handle⟩ rfl
  · obtain ⟨hd, hend⟩ := not_or.mp hlast
    rw [Bool.not_eq_true] at hd
    refine .inr ⟨hd, by simpa using hend, ?_⟩
    by_cases hnil : s.buffers = []
    · have hfin : s.finish = false := by simpa [hnil] using hend
      have heq : s.concludeCommit = { s with commitSource := false, commitIdles := 0 } := by
        simp [concludeCommit, hnil, hfin, Stream.forceDestroy, hd, h.commits]
      rw [heq]
      exact ⟨⟨h.alive, rfl, by simp [hnil, hfin], hd, .inl h.openIdles, h.handle, hb⟩, _, _, rfl⟩
    · have heq : s.concludeCommit = s := by
        simp [concludeCommit, hnil, hd]
      rw [heq]
      exact ⟨⟨h.alive, by simp [h.commits, h.commitSource], fun _ => h.commitSource, hd, .inl h.openIdles, h.handle, hb⟩,
        _, _, rfl⟩

/-! ### The first buffer -/

theorem streamWrite_cases (len : Nat) (w : Int) : ∃ n feed file, s.streamWrite b len w =
    (n, { s with calls := s.calls ++ feed, tempFile := file }) ∧ ∀ c ∈ feed, Call.Feeds c := by
  simp only [streamWrite]
  split
  · exact ⟨_, [], s.tempFile, by rw [List.append_nil], nofun⟩
  · generalize (if s.usesTempFile then s.tempFile.map (· ++ (b.bytes.drop b.offset).take len) else s.tempFile) = file
    split
    · refine ⟨_, _, _, rfl, ?_⟩
      simp [Call.Feeds]
    · exact ⟨_, [], file, by rw [List.append_nil], nofun⟩

theorem streamWriteReady_cases (w : Int) : ∃ n feed, s.streamWriteReady w = (n, { s with calls := s.calls ++ feed }) ∧
    ∀ c ∈ feed, Call.Feeds c := by
  rw [streamWriteReady]
  split
  · refine ⟨_, _, rfl, ?_⟩
    simp [Call.Feeds]
  · exact ⟨_, [], by rw [List.append_nil], nofun⟩

/-- No empty buffer comes to wait. -/
theorem takeWritten_cases (hb : b.Waiting) (hrest : ∀ b ∈ rest, b.Waiting) (n : Int) :
    ∃ error destroy buffers offset, s.takeWritten b rest n =
      { s with error := error, destroy := destroy, buffers := buffers, offset := offset } ∧
        (s.buffers = b :: rest → ∀ b ∈ buffers, b.Waiting) := by
  have hall : s.buffers = b :: rest → ∀ b ∈ s.buffers, b.Waiting := by
    intro heq
    rw [heq]
    exact List.forall_mem_cons.mpr ⟨hb, hrest⟩
  simp only [takeWritten]
  split
  · exact ⟨_, _, _, _, rfl, hall⟩
  · split
    · split
      · exact ⟨_, _, _, _, rfl, fun _ => hrest⟩
      · rename_i hlt
        exact ⟨_, _, _, _, rfl, fun _ => List.forall_mem_cons.mpr ⟨⟨Nat.lt_of_not_le hlt, hb.size⟩, hrest⟩⟩
    · exact ⟨_, _, _, _, rfl, hall⟩

/-- Whatever the plugin answers, only NPP_WriteReady and NPP_Write are called. -/
theorem commitBuffer_cases (hb : b.Waiting) (hrest : ∀ b ∈ rest, b.Waiting) :
    ∃ feed file error destroy buffers offset, s.commitBuffer b rest a = { s with
      calls := s.calls ++ feed, tempFile := file, error := error, destroy := destroy, buffers := buffers,
      offset := offset } ∧ (∀ c ∈ feed, Call.Feeds c) ∧ (s.buffers = b :: rest → ∀ b ∈ buffers, b.Waiting) := by
  have hall : s.buffers = b :: rest → ∀ b ∈ s.buffers, b.Waiting := by
    intro heq
    rw [heq]
    exact List.forall_mem_cons.mpr ⟨hb, hrest⟩
  obtain ⟨ready, asked, heq, hasked⟩ := streamWriteReady_cases (s := s) a.writeReady.toInt
  simp only [commitBuffer, heq]
  split
  · exact ⟨asked, _, _, _, _, _, rfl, hasked, hall⟩
  · split
    · obtain ⟨n, feed, file, hwrite, hfeed⟩ := streamWrite_cases (s := { s with calls := s.calls ++ asked }) (b := b)
        (min (b.size - b.offset) ready.toNat) a.write.toInt
      simp only [hwrite, List.append_assoc]
      obtain ⟨error, destroy, buffers, offset, htaken, hleft⟩ := takeWritten_cases
        (s := { s with calls := s.calls ++ (asked ++ feed), tempFile := file }) hb hrest n
      rw [htaken]
      exact ⟨_, _, _, _, _, _, rfl, List.forall_mem_append.mpr ⟨hasked, hfeed⟩, hleft⟩
    · exact ⟨asked, _, _, _, _, _, rfl, hasked, hall⟩

/-! ### The protocol -/

/-- What may have been called for a stream, by whether it is freed: NPP_NewStream, whose failure ends it, then data, and
    then NPP_StreamAsFile, NPP_DestroyStream and NPP_URLNotify. -/
inductive Protocol (notifyData : Bool) : Bool → List Call → Prop where
  | idle : notifyData = true → Protocol notifyData false []
  | refused (type : Option String) (ret : NPError) : notifyData = false → ret ≠ NPError.noError →
      Protocol notifyData true [.newStream type ret]
  | started (type : Option String) (feed : List Call) : (∀ c ∈ feed, Call.Feeds c) →
      Protocol notifyData false (.newStream type NPError.noError :: feed)
  | ended (type : Option String) (feed : List Call) (file : Option File) (networkErr : Bool) :
      (∀ c ∈ feed, Call.Feeds c) →
      Protocol notifyData true (.newStream type NPError.noError :: feed ++ (file.map Call.asFile).toList ++
        .destroyStream networkErr :: if notifyData then [.urlNotify networkErr] else [])

/-- NPP_NewStream has succeeded if the stream is active, and was not called otherwise. -/
def Told (s : Stream) : Prop :=
  s.active = false ∧ s.calls = [] ∧ s.notifyData = true ∧ (s.finish = true → s.buffers ≠ []) ∨
    s.active = true ∧ ∃ type feed, s.calls = .newStream type NPError.noError :: feed ∧ ∀ c ∈ feed, Call.Feeds c

/-- Something of the stream is still to come. -/
def Awake (s : Stream) : Prop := s.openIdles = 1 ∨ s.network = .active ∨ s.finish = true

/-- A stream that waits in the protocol, or has come to its end. -/
def Sound (s : Stream) : Prop :=
  s.Waits ∧ s.Told ∧ s.Awake ∨ s.Gone ∧ Protocol s.notifyData true s.calls

theorem protocol_ending {type : Option String} {feed : List Call}
    (hcalls : s.calls = .newStream type NPError.noError :: feed) (hfeed : ∀ c ∈ feed, Call.Feeds c) :
    Protocol s.notifyData true (s.calls ++ s.ending) := by
  rw [hcalls, ending]
  by_cases hfile : s.stype = NPStreamType.asFile ∨ s.stype = NPStreamType.asFileOnly
  · have h : Protocol s.notifyData true _ := .ended type feed (some s.fname) s.error hfeed
    simpa [hfile] using h
  · have h : Protocol s.notifyData true _ := .ended type feed none s.error hfeed
    simpa [hfile] using h

/-! ### Callbacks -/

theorem streamCommit_eq (h : s.commitIdles = if s.commitSource then 1 else 0) :
    s.streamCommit = { s with commitSource := true, commitIdles := 1 } := by
  rw [streamCommit]
  split
  · rename_i hsource
    rw [if_pos hsource] at h
    rw [← h, ← hsource]
  · rename_i hsource
    rw [if_neg hsource] at h
    rw [h]

/-- The transfer can be started. -/
def Opens (s : Stream) (opening : Opening) : Prop :=
  opening.curl = true ∧ (s.stype = NPStreamType.normal ∨
    (s.stype = NPStreamType.asFile ∨ s.stype = NPStreamType.asFileOnly) ∧
      (s.uriType = .file ∨ opening.tempFile = true))

theorem Sound.opens {opening : Opening} (h : s.Sound) (hopen : 0 < s.openIdles) (ho : s.Opens opening) :
    (s.onStreamOpenCb opening).Sound := by
  rcases h with ⟨hw, ht, -⟩ | ⟨hgone, -⟩
  · have hun : s.Unopened := by
      rcases hw.opening with hzero | hun
      · omega
      · exact hun
    obtain ⟨hcurl, htype⟩ := ho
    -- the transfer starts, with a temporary file or without
    obtain ⟨file, heq⟩ : ∃ file, s.onStreamOpenCb opening =
        { s with openIdles := 0, tempFile := file, curlHandle := true, network := .active } := by
      rcases htype with hnormal | ⟨hfile, huri⟩
      · exact ⟨s.tempFile, by simp [onStreamOpenCb, startTransfer, hnormal, hcurl, hun.openIdles]⟩
      · have hnormal : s.stype ≠ NPStreamType.normal := by
          rcases hfile with hf | hf <;> rw [hf] <;> decide
        by_cases hlocal : s.uriType = .file
        · exact ⟨s.tempFile, by simp [onStreamOpenCb, startTransfer, hnormal, hfile, hlocal, hcurl, hun.openIdles]⟩
        · have htemp := huri.resolve_left hlocal
          exact ⟨some [], by simp [onStreamOpenCb, startTransfer, hnormal, hfile, hlocal, htemp, hcurl, hun.openIdles]⟩
    rw [heq]
    refine .inl ⟨⟨hw.alive, hw.commits, hw.pending, hw.destroy, .inl rfl, fun _ => rfl, hw.buffers⟩, ht, .inr (.inl rfl)⟩
  · simp [hgone.openIdles] at hopen

theorem streamBufferNew_waiting {bytes : List UInt8} (h : 0 < bytes.length % 2 ^ 32) :
    (streamBufferNew bytes).Waiting := by
  have hlt : bytes.length % 2 ^ 32 < 2 ^ 32 := Nat.mod_lt _ (by omega)
  have hle : bytes.length % 2 ^ 32 ≤ bytes.length := Nat.mod_le _ _
  refine ⟨?_, ?_⟩ <;> simp only [streamBufferNew, Buffer.size, List.length_take, Nat.min_eq_left hle]
  · exact h
  · exact hlt

theorem Waits.opened (h : s.Waits) (hnet : s.network ≠ .idle) : s.openIdles = 0 := by
  rcases h.opening with hzero | hun
  · exact hzero
  · exact absurd hun.network hnet

/-- Data arrives, and a commit is there for it. -/
theorem Waits.read {bytes : List UInt8} (h : s.Waits) (hopen : s.openIdles = 0) (hb : 0 < bytes.length % 2 ^ 32) :
    (s.onStreamReadCb bytes).Waits ∧ s.onStreamReadCb bytes = { s with
      buffers := s.buffers ++ [streamBufferNew bytes], received := s.received ++ bytes, commitSource := true,
      commitIdles := 1 } := by
  have heq : s.onStreamReadCb bytes = { s with
      buffers := s.buffers ++ [streamBufferNew bytes], received := s.received ++ bytes, commitSource := true,
      commitIdles := 1 } := streamCommit_eq h.commits
  rw [heq]
  refine ⟨⟨h.alive, rfl, fun _ => rfl, h.destroy, .inl hopen, h.handle, ?_⟩, rfl⟩
  exact List.forall_mem_append.mpr ⟨h.buffers, by simpa using streamBufferNew_waiting hb⟩

theorem Sound.data {bytes : List UInt8} (h : s.Sound) (hnet : s.network = .active) (hb : 0 < bytes.length % 2 ^ 32) :
    (s.onStreamReadCb bytes).Sound := by
  rcases h with ⟨hw, ht, ha⟩ | ⟨hgone, -⟩
  · obtain ⟨hread, heq⟩ := hw.read (hw.opened (by simp [hnet])) hb
    refine .inl ⟨hread, ?_, ?_⟩
    · rw [heq]
      rcases ht with ⟨hact, hcalls, hn, -⟩ | hstarted
      · exact .inl ⟨hact, hcalls, hn, by simp⟩
      · exact .inr hstarted
    · rw [heq]
      exact .inr (.inl hnet)
  · exact absurd hnet hgone.network

/-- What on_stream_close_cb has to schedule its end with: an active stream, or one with data, be it the text of the url. -/
def Closes (s : Stream) : Prop :=
  s.active = true ∨ (∀ text, s.javascript = some (some text) → 0 < text.length % 2 ^ 32) ∧
    (s.buffers ≠ [] ∨ ∃ text, s.javascript = some (some text))

theorem onStreamReadCb_keeps {bytes : List UInt8} : (s.onStreamReadCb bytes).openIdles = s.openIdles ∧
    (s.onStreamReadCb bytes).buffers = s.buffers ++ [streamBufferNew bytes] ∧
    (s.onStreamReadCb bytes).active = s.active ∧ (s.onStreamReadCb bytes).calls = s.calls ∧
    (s.onStreamReadCb bytes).notifyData = s.notifyData := by
  simp only [onStreamReadCb, streamCommit]
  split <;> simp

/-- The text of the url is a buffer more. -/
theorem Waits.runJavascript (h : s.Waits) (hopen : s.openIdles = 0)
    (htext : ∀ text, s.javascript = some (some text) → 0 < text.length % 2 ^ 32)
    (hbuffers : s.buffers ≠ [] ∨ ∃ text, s.javascript = some (some text)) :
    s.runJavascript.Waits ∧ s.runJavascript.openIdles = 0 ∧ s.runJavascript.buffers ≠ [] ∧
      s.runJavascript.active = s.active ∧ s.runJavascript.calls = s.calls ∧
      s.runJavascript.notifyData = s.notifyData := by
  have htyped : ({ s with mimeType := some "text/html" } : Stream).Waits :=
    ⟨h.alive, h.commits, h.pending, h.destroy, .inl hopen, h.handle, h.buffers⟩
  rw [Stream.runJavascript]
  split
  · rename_i hnone
    exact ⟨h, hopen, by simpa [hnone] using hbuffers, rfl, rfl, rfl⟩
  · rename_i text hsome
    cases text with
    | none => exact ⟨htyped, hopen, by simpa [hsome] using hbuffers, rfl, rfl, rfl⟩
    | some text =>
      obtain ⟨hread, -⟩ := htyped.read hopen (htext text hsome)
      obtain ⟨hopen', hbuffers', hact, hcalls, hnotify⟩ := onStreamReadCb_keeps (s := { s with mimeType := some "text/html" })
       
      exact ⟨hread, hopen'.trans hopen, fun hnil => by rw [hbuffers'] at hnil; simp at hnil, hact, hcalls, hnotify⟩

theorem Waits.schedule (h : s.Waits) (hopen : s.openIdles = 0) :
    (s.streamScheduleDestroy false).Waits ∧
      s.streamScheduleDestroy false = { s with finish := true, commitSource := true, commitIdles := 1 } := by
  have heq : s.streamScheduleDestroy false = { s with finish := true, commitSource := true, commitIdles := 1 } :=
    streamCommit_eq h.commits
  rw [heq]
  exact ⟨⟨h.alive, rfl, fun _ => rfl, h.destroy, .inl hopen, h.handle, h.buffers⟩, rfl⟩

theorem Sound.closes (h : s.Sound) (hnet : s.network = .active) (hc : s.Closes) : s.onStreamCloseCb.Sound := by
  rcases h with ⟨hw, ht, -⟩ | ⟨hgone, -⟩
  · have hopen := hw.opened (by simp [hnet])
    have hdone : ({ s with network := .done } : Stream).Waits :=
      ⟨hw.alive, hw.commits, hw.pending, hw.destroy, .inl hopen, nofun, hw.buffers⟩
    cases hact : s.active with
    | true =>
      obtain ⟨hwaits, heq⟩ := hdone.schedule hopen
      have hclose : s.onStreamCloseCb = ({ s with network := .done } : Stream).streamScheduleDestroy false := by
        simp [onStreamCloseCb, hact]
      rw [hclose]
      refine .inl ⟨hwaits, ?_, ?_⟩
      · rw [heq]
        rcases ht with ⟨hidle, -⟩ | hstarted
        · simp [hact] at hidle
        · exact .inr hstarted
      · rw [heq]
        exact .inr (.inr rfl)
    | false =>
      obtain ⟨htext, hbuffers⟩ := hc.resolve_left (by simp [hact])
      obtain ⟨hrun, hopen', hne, hact', hcalls', hnotify'⟩ := hdone.runJavascript hopen htext hbuffers
      obtain ⟨hwaits, heq⟩ := hrun.schedule hopen'
      have hclose : s.onStreamCloseCb =
          ({ s with network := .done } : Stream).runJavascript.streamScheduleDestroy false := by
        rw [onStreamCloseCb]
        dsimp only
        rw [if_neg (by simp [hact]), if_neg hne]
      rw [hclose]
      refine .inl ⟨hwaits, ?_, ?_⟩
      · rw [heq]
        rcases ht with ⟨-, hcalls, hn, -⟩ | ⟨hactive, -⟩
        · exact .inl ⟨hact'.trans hact, hcalls'.trans hcalls, hnotify'.trans hn, fun _ => hne⟩
        · simp [hact] at hactive
      · rw [heq]
        exact .inr (.inr rfl)
  · exact absurd hnet hgone.network

theorem onStreamCommitCb_nil (hbuf : s.buffers = []) : s.onStreamCommitCb a = s.concludeCommit := by
  rw [onStreamCommitCb, hbuf]

theorem onStreamCommitCb_active (hbuf : s.buffers = b :: rest) (hact : s.active = true) :
    s.onStreamCommitCb a = (s.commitBuffer b rest a).concludeCommit := by
  rw [onStreamCommitCb, hbuf]
  exact if_pos hact

theorem onStreamCommitCb_start (hbuf : s.buffers = b :: rest) (hact : s.active = false)
    (hnew : a.newStream = NPError.noError) : s.onStreamCommitCb a =
      ({ s.startStream b a with active := true }.commitBuffer b rest a).concludeCommit := by
  rw [onStreamCommitCb, hbuf]
  dsimp only
  rw [if_neg (by simp [hact]), if_neg (by simp [hnew])]

/-- An active stream with that much to do. -/
theorem Sound.ofCommitting (hc : s.Committing) (hb : ∀ b ∈ s.buffers, b.Waiting) (hactive : s.active = true)
    (ha : s.Awake) (type : Option String) (feed : List Call)
    (hcalls : s.calls = .newStream type NPError.noError :: feed) (hfeed : ∀ c ∈ feed, Call.Feeds c) :
    s.concludeCommit.Sound := by
  rcases hc.conclude hb with ⟨-, hgone, hend, hnotify, -⟩ | ⟨-, -, hwaits, source, idles, heq⟩
  · exact .inr ⟨hgone, by rw [hend, hnotify]; exact protocol_ending hcalls hfeed⟩
  · refine .inl ⟨hwaits, ?_, ?_⟩
    · rw [heq]
      exact .inr ⟨hactive, type, feed, hcalls, hfeed⟩
    · rw [heq]
      exact ha

/-- The first buffer of an active stream, and what follows it. -/
theorem Sound.ofBuffer (hc : s.Committing) (hb : b.Waiting) (hrest : ∀ b ∈ rest, b.Waiting)
    (hbuf : s.buffers = b :: rest) (hactive : s.active = true) (ha : s.Awake) (type : Option String) (feed : List Call)
    (hcalls : s.calls = .newStream type NPError.noError :: feed) (hfeed : ∀ c ∈ feed, Call.Feeds c) :
    (s.commitBuffer b rest a).concludeCommit.Sound := by
  obtain ⟨feed', file, error, destroy, buffers, offset, heq, hfeed', hleft⟩ :=
    commitBuffer_cases (s := s) (a := a) hb hrest
  rw [heq]
  refine Sound.ofCommitting ⟨hc.alive, hc.commits, hc.commitSource, hc.openIdles, hc.handle⟩ (hleft hbuf) hactive ha
    type (feed ++ feed') ?_ (List.forall_mem_append.mpr ⟨hfeed, hfeed'⟩)
  rw [hcalls, List.cons_append]

theorem Sound.commit (h : s.Sound) (hc : 0 < s.commitIdles)
    (hnew : s.active = false → s.buffers ≠ [] → a.newStream = NPError.noError) : (s.onStreamCommitCb a).Sound := by
  rcases h with ⟨hw, ht, ha⟩ | ⟨hgone, -⟩
  · have hcom := hw.committing hc
    cases hbuf : s.buffers with
    | nil =>
      rw [onStreamCommitCb_nil hbuf]
      rcases ht with ⟨hact, hcalls, hn, hfin⟩ | ⟨hact, type, feed, hcalls, hfeed⟩
      · rcases hcom.conclude hw.buffers with ⟨hlast, -⟩ | ⟨-, -, hwaits, source, idles, hsame⟩
        · rcases hlast with hd | ⟨-, hf⟩
          · simp [hw.destroy] at hd
          · exact absurd hbuf (hfin hf)
        · refine .inl ⟨hwaits, ?_, ?_⟩
          · rw [hsame]
            exact .inl ⟨hact, hcalls, hn, hfin⟩
          · rw [hsame]
            exact ha
      · exact Sound.ofCommitting hcom hw.buffers hact ha type feed hcalls hfeed
    | cons b rest =>
      have hwaiting := hw.buffers
      rw [hbuf] at hwaiting
      obtain ⟨hb, hrest⟩ := List.forall_mem_cons.mp hwaiting
      rcases ht with ⟨hact, hcalls, hn, -⟩ | ⟨hact, type, feed, hcalls, hfeed⟩
      · have hok := hnew hact (by simp [hbuf])
        rw [onStreamCommitCb_start hbuf hact hok]
        refine Sound.ofBuffer ⟨hcom.alive, hcom.commits, hcom.commitSource, hcom.openIdles, hcom.handle⟩ hb hrest hbuf rfl
          ha ((s.mimeType <|> s.content b.bytes) <|> s.pluginMimeType) [] ?_ nofun
        simp [startStream, gNPPNewStream, call, hcalls, hok]
      · rw [onStreamCommitCb_active hbuf hact]
        exact Sound.ofBuffer hcom hb hrest hbuf hact ha type feed hcalls hfeed
  · simp [hgone.commitIdles] at hc

/-! ### The end -/

/-- How many bytes the plugin has not taken. -/
def remaining (s : Stream) : Nat := (s.buffers.map fun b => b.size - b.offset).sum

/-- The plugin starts the stream, is ready, and accepts what it is offered. -/
def Accepts (s : Stream) (a : Answers) : Prop :=
  a.newStream = NPError.noError ∧ 0 < a.writeReady.toInt ∧
    ∀ b ∈ s.buffers.head?, a.write.toInt = min (b.size - b.offset) a.writeReady.toInt.toNat

/-- However the plugin accepts, finitely many commits free the stream. -/
inductive Ends : Stream → Prop where
  | freed {s : Stream} : s.isFreed = true → Ends s
  | commit {s : Stream} : 0 < s.commitIdles → (∀ a, s.Accepts a → Ends (s.onStreamCommitCb a)) → Ends s

/-- Something was offered, and so the file took it. -/
theorem streamWrite_offered {len : Nat} (hlen : len ≠ 0) (w : Int) : ∃ feed file, s.streamWrite b len w =
    (if s.streamUseNPPWrite then w else len, { s with calls := s.calls ++ feed, tempFile := file }) := by
  simp only [streamWrite, hlen, and_false, if_false]
  generalize (if s.usesTempFile then s.tempFile.map (· ++ (b.bytes.drop b.offset).take len) else s.tempFile) = file
  cases huse : s.streamUseNPPWrite with
  | true =>
    refine ⟨[.write (cInt s.offset) ((b.bytes.drop b.offset).take len) w], file, ?_⟩
    have huse' : ({ s with tempFile := file } : Stream).streamUseNPPWrite = true := huse
    rw [if_pos huse', if_pos rfl, call]
  | false =>
    refine ⟨[], file, ?_⟩
    have huse' : ({ s with tempFile := file } : Stream).streamUseNPPWrite = false := huse
    rw [if_neg (by simp [huse']), List.append_nil]
    rfl

/-- What is accepted is gone from the first buffer. -/
theorem takeWritten_accepted (hb : b.Waiting) {n : Nat} (hn : 0 < n) (hle : n ≤ b.size - b.offset) :
    ∃ buffers offset, s.takeWritten b rest n = { s with buffers := buffers, offset := offset } ∧
      (buffers = rest ∨ ∃ o, b.offset < o ∧ o < b.size ∧ buffers = { b with offset := o } :: rest) := by
  have hsize := hb.size
  have hleft := hb.left
  have hmod : (b.offset + n) % 2 ^ 32 = b.offset + n := Nat.mod_eq_of_lt (by omega)
  rw [takeWritten, if_neg (by omega), if_pos (by omega), Int.toNat_natCast, hmod]
  dsimp only
  split
  · exact ⟨rest, _, rfl, .inl rfl⟩
  · exact ⟨_, s.offset, rfl, .inr ⟨b.offset + n, by omega, by omega, rfl⟩⟩

theorem commitBuffer_accepts (hb : b.Waiting) (hready : 0 < a.writeReady.toInt)
    (hwrite : a.write.toInt = min (b.size - b.offset) a.writeReady.toInt.toNat) :
    ∃ feed file buffers offset, s.commitBuffer b rest a =
      { s with calls := s.calls ++ feed, tempFile := file, buffers := buffers, offset := offset } ∧
        (buffers = rest ∨ ∃ o, b.offset < o ∧ o < b.size ∧ buffers = { b with offset := o } :: rest) := by
  have hleft := hb.left
  -- `ready` is as the plugin said, or the constant
  obtain ⟨ready, asked, heq, hready', hlen⟩ : ∃ (ready : Int) (asked : List Call),
      s.streamWriteReady a.writeReady.toInt = (ready, { s with calls := s.calls ++ asked }) ∧ 0 < ready ∧
        (s.streamUseNPPWrite = true → a.write.toInt = min (b.size - b.offset) ready.toNat) := by
    rw [streamWriteReady]
    split
    · exact ⟨_, _, rfl, hready, fun _ => hwrite⟩
    · rename_i huse
      exact ⟨0x0fffff, [], by rw [List.append_nil], by decide, fun h => absurd h huse⟩
  have hoffered : min (b.size - b.offset) ready.toNat ≠ 0 := by omega
  obtain ⟨feed, file, hw⟩ := streamWrite_offered (s := { s with calls := s.calls ++ asked }) (b := b) hoffered a.write.toInt
  have hreturned : (if s.streamUseNPPWrite then a.write.toInt else ((min (b.size - b.offset) ready.toNat : Nat) : Int)) =
      (min (b.size - b.offset) ready.toNat : Nat) := by
    split
    · exact hlen (by assumption)
    · rfl
  obtain ⟨buffers, offset, htaken, hbuffers⟩ := takeWritten_accepted
    (s := { s with calls := s.calls ++ asked ++ feed, tempFile := file }) hb (n := min (b.size - b.offset) ready.toNat)
    (by omega) (Nat.min_le_left ..)
  refine ⟨asked ++ feed, file, buffers, offset, ?_, hbuffers⟩
  rw [commitBuffer, heq]
  dsimp only
  rw [if_neg (by omega), if_pos hready', hw]
  dsimp only
  change takeWritten _ _ _ (if s.streamUseNPPWrite then _ else _) = _
  rw [hreturned, htaken, List.append_assoc]

/-- An accepted commit gets to the end with fewer bytes left, whether the stream was active or is started by it. -/
theorem commit_accepted (hw : s.Waits) (hc : 0 < s.commitIdles) (ha : s.Accepts a) (hbuf : s.buffers = b :: rest) :
    ∃ t : Stream, s.onStreamCommitCb a = t.concludeCommit ∧ t.Committing ∧ t.destroy = false ∧ t.finish = s.finish ∧
      (t.buffers = rest ∨ ∃ o, b.offset < o ∧ o < b.size ∧ t.buffers = { b with offset := o } :: rest) := by
  have hcom := hw.committing hc
  have hb : b.Waiting := hw.buffers b (by simp [hbuf])
  obtain ⟨hnew, hready, hwrite⟩ := ha
  have hwrite := hwrite b (by simp [hbuf])
  cases hact : s.active with
  | true =>
    obtain ⟨feed, file, buffers, offset, heq, hbuffers⟩ := commitBuffer_accepts (s := s) hb hready hwrite
    refine ⟨s.commitBuffer b rest a, onStreamCommitCb_active hbuf hact, ?_⟩
    rw [heq]
    exact ⟨⟨hcom.alive, hcom.commits, hcom.commitSource, hcom.openIdles, hcom.handle⟩, hw.destroy, rfl, hbuffers⟩
  | false =>
    obtain ⟨feed, file, buffers, offset, heq, hbuffers⟩ := commitBuffer_accepts
      (s := { s.startStream b a with active := true }) hb hready hwrite
    refine ⟨_, onStreamCommitCb_start hbuf hact hnew, ?_⟩
    rw [heq]
    exact ⟨⟨hcom.alive, hcom.commits, hcom.commitSource, hcom.openIdles, hcom.handle⟩, hw.destroy, rfl, hbuffers⟩

/-- Every commit that is accepted makes progress. -/
theorem commit_progress (hw : s.Waits) (hc : 0 < s.commitIdles) (ha : s.Accepts a) (hne : s.buffers ≠ []) :
    (s.onStreamCommitCb a).isFreed = true ∨ (s.onStreamCommitCb a).Waits ∧
      (s.onStreamCommitCb a).finish = s.finish ∧ (s.onStreamCommitCb a).remaining < s.remaining := by
  obtain ⟨b, rest, hbuf⟩ := List.exists_cons_of_ne_nil hne
  obtain ⟨t, heq, hcom, hd, hfin, hbuffers⟩ := commit_accepted hw hc ha hbuf
  have hb : b.Waiting := hw.buffers b (by simp [hbuf])
  have hrest : ∀ b ∈ rest, b.Waiting := fun b' hb' => hw.buffers b' (by simp [hbuf, hb'])
  have hwaiting : ∀ b ∈ t.buffers, b.Waiting := by
    rcases hbuffers with hr | ⟨o, -, ho, hr⟩ <;> rw [hr]
    · exact hrest
    · exact List.forall_mem_cons.mpr ⟨⟨ho, hb.size⟩, hrest⟩
  have hless : t.remaining < s.remaining := by
    have hleft := hb.left
    rcases hbuffers with hr | ⟨o, hlt, ho, hr⟩
    · simp only [remaining, hr, hbuf, List.map_cons, List.sum_cons]
      omega
    · simp only [remaining, hr, hbuf, List.map_cons, List.sum_cons, Buffer.size] at ho ⊢
      omega
  rw [heq]
  rcases hcom.conclude hwaiting with ⟨-, hgone, -⟩ | ⟨-, -, hwaits, source, idles, hsame⟩
  · exact .inl hgone.freed
  · refine .inr ⟨hwaits, ?_, ?_⟩
    · rw [hsame]
      exact hfin
    · rw [hsame]
      exact hless

/-- Once the network is done, the plugin only has to accept. -/
theorem Waits.ends (hw : s.Waits) (hfin : s.finish = true) : s.Ends := by
  induction hn : s.remaining using Nat.strong_induction_on generalizing s with
  | _ n ih =>
    have hc : 0 < s.commitIdles := by
      rw [hw.commits, hw.pending (.inr hfin)]
      decide
    refine .commit hc fun a ha => ?_
    cases hbuf : s.buffers with
    | nil =>
      rw [onStreamCommitCb_nil hbuf]
      rcases (hw.committing hc).conclude hw.buffers with ⟨-, hgone, -⟩ | ⟨-, hnot, -⟩
      · exact .freed hgone.freed
      · simp [hnot hbuf] at hfin
    | cons b rest =>
      rcases commit_progress hw hc ha (by simp [hbuf]) with hfreed | ⟨hwaits, hfin', hless⟩
      · exact .freed hfreed
      · exact ih _ (hn ▸ hless) hwaits (hfin'.trans hfin) rfl

/-! ### Runs -/

/-- The steps that the protocol comes through: the transfer starts, data is not empty, a stream that ends is active or
    has data, and NPP_NewStream succeeds when there is some. -/
def Orderly (s : Stream) : Event → Prop
  | .opens opening => s.Opens opening
  | .data bytes => 0 < bytes.length % 2 ^ 32
  | .closes => s.Closes
  | .commit answers => s.active = false → s.buffers ≠ [] → answers.newStream = NPError.noError

/-- The protocol is kept, something is still to come for a stream that is not freed, and its end comes after the
    network's. -/
structure Conforms (s : Stream) : Prop where
  protocol : Protocol s.notifyData s.isFreed s.calls
  pending : s.isFreed = false → 0 < s.openIdles ∨ s.network = .active ∨ 0 < s.commitIdles
  ends : s.finish = true → s.Ends

theorem streamNew_sound (plugin type : Option String) (content : List UInt8 → Option String)
    (javascript : Option (Option (List UInt8))) (uriType : UriType) (notifyData : Bool) (a : Answers) :
    (streamNew plugin type content javascript uriType notifyData a).Sound := by
  cases notifyData with
  | true =>
    refine .inl ⟨⟨rfl, rfl, by simp [streamNew], rfl, .inr ⟨rfl, rfl, rfl, rfl, rfl, rfl⟩, nofun, nofun⟩, ?_, .inl rfl⟩
    exact .inl ⟨rfl, rfl, rfl, nofun⟩
  | false =>
    by_cases hret : a.newStream = NPError.noError
    · have heq := show streamNew plugin type content javascript uriType false a = _ by
        simp only [streamNew, Bool.false_eq_true, if_false, hret, ne_eq, not_true]; rfl
      rw [heq]
      refine .inl ⟨⟨rfl, rfl, by simp [gNPPNewStream, call], rfl, .inr ⟨rfl, rfl, rfl, rfl, rfl, rfl⟩, nofun, nofun⟩, ?_,
        .inl rfl⟩
      exact .inr ⟨rfl, type, [], rfl, nofun⟩
    · have heq := show streamNew plugin type content javascript uriType false a = _ by
        simp only [streamNew, Bool.false_eq_true, if_false, hret, ne_eq, not_false_eq_true, if_true]; rfl
      rw [heq]
      exact .inr ⟨⟨rfl, rfl, rfl, nofun⟩, .refused type a.newStream rfl hret⟩

theorem exec_sound {e : Event} (h : s.Sound) (ha : s.Allowed e) (ho : s.Orderly e) :
    ∃ t, s.exec e = .ok t ∧ t.Sound := by
  have halive : s.isFreed = false := by
    rcases h with ⟨hw, -⟩ | ⟨hgone, -⟩
    · exact hw.alive
    · cases e with
      | opens opening => simp [Allowed, hgone.openIdles] at ha
      | data bytes => exact absurd ha hgone.network
      | closes => exact absurd ha hgone.network
      | commit answers => simp [Allowed, hgone.commitIdles] at ha
  refine ⟨_, by simp only [exec, halive, Bool.false_eq_true, if_false]; rfl, ?_⟩
  cases e with
  | opens opening => exact h.opens ha ho
  | data bytes => exact h.data ha ho
  | closes => exact h.closes ha ho
  | commit answers => exact h.commit ha ho

theorem Sound.conforms (h : s.Sound) : s.Conforms := by
  rcases h with ⟨hw, ht, ha⟩ | ⟨hgone, hprotocol⟩
  · refine ⟨?_, fun _ => ?_, hw.ends⟩
    · rw [hw.alive]
      rcases ht with ⟨-, hcalls, hn, -⟩ | ⟨-, type, feed, hcalls, hfeed⟩
      · rw [hcalls]
        exact .idle hn
      · rw [hcalls]
        exact .started type feed hfeed
    · rcases ha with hopen | hnet | hfin
      · exact .inl (by rw [hopen]; decide)
      · exact .inr (.inl hnet)
      · exact .inr (.inr (by rw [hw.commits, hw.pending (.inr hfin)]; decide))
  · exact ⟨by rw [hgone.freed]; exact hprotocol, fun h => by simp [hgone.freed] at h, fun _ => .freed hgone.freed⟩

end Stream
end Player

/-- The streams of the player: of any type and url, asked for by the plugin or not. -/
def playerStream : Machine (Except Player.Fault Player.Stream) Player.Stream.Event where
  init s := ∃ plugin type content javascript uriType notifyData answers,
    s = .ok (Player.Stream.streamNew plugin type content javascript uriType notifyData answers)
  step s e t := ∃ v, s = .ok v ∧ v.Allowed e ∧ v.exec e = t

namespace Player

/-- In a run of orderly steps no callback comes to a freed stream, and the calls follow the protocol. -/
theorem stream_conforms {s : Except Fault Stream}
    (h : (playerStream.restrict fun s e => ∀ v, s = .ok v → v.Orderly e).Reachable s) :
    ∃ v, s = .ok v ∧ v.Conforms := by
  have hinv : ∃ v, s = .ok v ∧ v.Sound := by
    refine h.invariant (fun s => ∃ v, s = .ok v ∧ v.Sound) ?_ ?_
    · rintro _ ⟨plugin, type, content, javascript, uriType, notifyData, answers, rfl⟩
      exact ⟨_, rfl, Stream.streamNew_sound plugin type content javascript uriType notifyData answers⟩
    · rintro _ e _ - ⟨v, rfl, hs⟩ ⟨ho, v', hv', ha, rfl⟩
      cases hv'
      exact Stream.exec_sound hs ha (ho v rfl)
  obtain ⟨v, rfl, hs⟩ := hinv
  exact ⟨v, rfl, hs.conforms⟩

/-- A plain answer of the plugin, which accepts that many bytes. -/
def accepting (write : Int32) : Stream.Answers := ⟨NPError.noError, NPStreamType.normal, 0x10000, write⟩

/-- A stream of that kind without a type of its own. -/
def anyStream (notifyData : Bool) : Stream :=
  Stream.streamNew none none (fun _ => none) none .http notifyData (accepting 0)

/-- What a run of events leaves. -/
def Stream.run (s : Stream) (es : List Stream.Event) : Except Fault Stream := es.foldlM Stream.exec s

/-- Two bytes arrive and are accepted, and the network is done. -/
theorem stream_conforms_once : ∃ v, (anyStream false).run [.opens ⟨true, true⟩, .data [1, 2], .commit (accepting 2),
    .closes, .commit (accepting 0)] = .ok v ∧ v.Conforms := by
  have h₀ : (playerStream.restrict fun s e => ∀ v, s = .ok v → v.Orderly e).Reachable (.ok (anyStream false)) :=
    .init ⟨_, _, _, _, _, _, _, rfl⟩
  have h₁ := h₀.next (.opens ⟨true, true⟩) ⟨by rintro v ⟨⟩; exact ⟨rfl, .inl rfl⟩, _, rfl, Nat.one_pos, rfl⟩
  have h₂ := h₁.next (.data [1, 2]) ⟨by rintro v ⟨⟩; exact Nat.two_pos, _, rfl, rfl, rfl⟩
  have h₃ := h₂.next (.commit (accepting 2)) ⟨by rintro v ⟨⟩; nofun, _, rfl, Nat.one_pos, rfl⟩
  have h₄ := h₃.next .closes ⟨by rintro v ⟨⟩; exact .inl rfl, _, rfl, rfl, rfl⟩
  have h₅ := h₄.next (.commit (accepting 0)) ⟨by rintro v ⟨⟩; nofun, _, rfl, Nat.one_pos, rfl⟩
  exact stream_conforms h₅

/-- Nothing comes for a stream that the plugin asked for: it is destroyed without having been started. -/
theorem stream_unstarted : ¬ ∀ s, playerStream.Reachable s → ∃ v, s = .ok v ∧ v.Conforms := by
  intro h
  have h₀ : playerStream.Reachable (.ok (anyStream true)) := .init ⟨_, _, _, _, _, _, _, rfl⟩
  have h₁ := h₀.next (.opens ⟨true, true⟩) ⟨_, rfl, Nat.one_pos, rfl⟩
  have h₂ := h₁.next .closes ⟨_, rfl, rfl, rfl⟩
  have h₃ := h₂.next (.commit (accepting 0)) ⟨_, rfl, Nat.one_pos, rfl⟩
  obtain ⟨v, hv, hconforms⟩ := h _ h₃
  cases hv
  have hprotocol : Stream.Protocol true true [.destroyStream true, .urlNotify true] := hconforms.protocol
  cases hprotocol

end Player
end NSPluginWrapper
