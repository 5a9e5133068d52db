import NSPluginWrapper.Lib.Index
import NSPluginWrapper.Plugin.Streams

/-! That no record of a stream is used after it was freed, and that a stream is the same on both sides, where streams
    are destroyed while no call waits that uses them; and what is left of them in the end. -/

namespace NSPluginWrapper
open Lib

namespace Streams
variable {d : Bool} {s t : Streams} {b v w k : Nat} {frame : Frame} {stack : List Frame} {n m : BrowserStream}
  {y z : StreamInstance} {x u : ViewerStream}

/-! ### What holds between the records -/

/-- The id under which a stream is found in the wrapper. -/
def instanceId (s : Streams) (w : Nat) : Option UInt32 :=
  (s.instances w).bind fun y => if y.isFreed then none else some y.streamId

/-- The id under which a stream is found in the viewer. -/
def viewerId (s : Streams) (v : Nat) : Option UInt32 :=
  (s.viewerStreams v).bind fun x => if x.isFreed then none else some x.streamId

/-- Both sides mean one stream, and a `destroystream` that runs is there. -/
def Frame.Agrees (d : Bool) : Frame → Prop
  | .nppDestroyStream b v => b = v ∧ d = true
  | .nppWrite b v | .npnDestroyStream v b | .npnWrite v b => b = v
  | _ => True

/-- The viewer's stream that goes when the call returns. -/
def releases (s : Streams) : Frame → Option Nat
  | .nppDestroyStream _ v => some v
  | .npnDestroyStream v _ => if (s.viewerStreams v).any (·.isPluginStream) then some v else none
  | _ => none

/-- The records of one stream. -/
structure Agree (d : Bool) (k : Nat) (n : BrowserStream) (y : StreamInstance) (x : ViewerStream) : Prop where
  stream : y.stream = k
  streamId : y.streamId = x.streamId
  ne_zero : x.streamId ≠ 0
  isPlugin : y.isPluginStream = n.ofPlugin
  viewerIsPlugin : x.isPluginStream = n.ofPlugin
  pdata : n.pdata = if y.isFreed then none else some k
  instanceFreed : y.isFreed = true ↔ n.phase = .closed ∨ n.phase = .closing ∧ n.ofPlugin = true
  freed : x.isFreed = true → n.phase = .closed
  remains : n.phase = .closed → (x.isFreed = false ↔ n.ofPlugin = false ∧ d = false)
  refused : n.phase = .refused → x.refused = true
  gone : n.isFreed = true → n.phase = .refused ∨ n.phase = .closed

/-- A waiting call is about streams that are there. -/
structure FrameSound (d : Bool) (s : Streams) (frame : Frame) : Prop where
  agrees : frame.Agrees d
  about : ∀ b, frame.about = some b → ∃ n, s.browserStreams b = some n ∧ n.isFreed = false
  awaits : ∀ v, frame.awaits = some v → ∃ x, s.viewerStreams v = some x ∧ x.isFreed = false

/-- No call below one that destroys a stream uses it. -/
def Above (s : Streams) (upper lower : Frame) : Prop := ∀ v, s.releases upper = some v → lower.awaits ≠ some v

/-- The call within which a stream is destroyed. -/
def BrowserStream.closer (n : BrowserStream) (k : Nat) : Frame :=
  if n.ofPlugin then .npnDestroyStream k k else .nppDestroyStream k k

structure Sound (d : Bool) (s : Streams) : Prop where
  ids : s.ids.Indexes s.instanceId
  viewerIds : s.viewerIds.Indexes s.viewerId
  records : ∀ k, (s.browserStreams k = none ∧ s.instances k = none ∧ s.viewerStreams k = none) ∨
    ∃ n y x, s.browserStreams k = some n ∧ s.instances k = some y ∧ s.viewerStreams k = some x ∧ Agree d k n y x
  frames : ∀ frame ∈ s.stack, FrameSound d s frame
  above : s.stack.Pairwise s.Above
  opening : ∀ k n, s.browserStreams k = some n → n.phase = .opening → .nppNewStream k ∈ s.stack
  closing : ∀ k n, s.browserStreams k = some n → n.phase = .closing → n.closer k ∈ s.stack
  destroying : ∀ k n, s.browserStreams k = some n → n.ofPlugin = true → .npnDestroyStream k k ∈ s.stack →
    n.phase = .closing

/-! ### Reading the records -/

theorem browserStream_ok (hn : s.browserStreams b = some n) (hf : n.isFreed = false) : s.browserStream b = .ok n := by
  simp [browserStream, hn, hf]

theorem streamInstance_ok (hy : s.instances w = some y) (hf : y.isFreed = false) : s.streamInstance w = .ok y := by
  simp [streamInstance, hy, hf]

theorem viewerStream_ok (hx : s.viewerStreams v = some x) (hf : x.isFreed = false) : s.viewerStream v = .ok x := by
  simp [viewerStream, hx, hf]

theorem viewerStream_freed (hx : s.viewerStreams v = some x) (hf : x.isFreed = true) :
    s.viewerStream v = .error .viewerStream := by
  simp [viewerStream, hx, hf]

theorem instanceId_eq (hy : s.instances w = some y) : s.instanceId w = if y.isFreed then none else some y.streamId := by
  rw [instanceId, hy]
  rfl

theorem viewerId_eq (hx : s.viewerStreams v = some x) : s.viewerId v = if x.isFreed then none else some x.streamId := by
  rw [viewerId, hx]
  rfl

namespace Sound

/-- A stream that there is has its three records. -/
theorem agree (h : Sound d s) (hn : s.browserStreams k = some n) :
    ∃ y x, s.instances k = some y ∧ s.viewerStreams k = some x ∧ Agree d k n y x := by
  rcases h.records k with ⟨hnone, -, -⟩ | ⟨n', y, x, hn', hy, hx, ha⟩
  · rw [hn] at hnone
    cases hnone
  · rw [hn] at hn'
    cases hn'
    exact ⟨y, x, hy, hx, ha⟩

theorem agree_of_viewer (h : Sound d s) (hx : s.viewerStreams k = some x) :
    ∃ n y, s.browserStreams k = some n ∧ s.instances k = some y ∧ Agree d k n y x := by
  rcases h.records k with ⟨-, -, hnone⟩ | ⟨n, y, x', hn, hy, hx', ha⟩
  · rw [hx] at hnone
    cases hnone
  · rw [hx] at hx'
    cases hx'
    exact ⟨n, y, hn, hy, ha⟩

theorem agree_of_instance (h : Sound d s) (hy : s.instances k = some y) :
    ∃ n x, s.browserStreams k = some n ∧ s.viewerStreams k = some x ∧ Agree d k n y x := by
  rcases h.records k with ⟨-, hnone, -⟩ | ⟨n, y', x, hn, hy', hx, ha⟩
  · rw [hy] at hnone
    cases hnone
  · rw [hy] at hy'
    cases hy'
    exact ⟨n, x, hn, hx, ha⟩

theorem absent (h : Sound d s) (hk : s.browserStreams k = none) : s.instances k = none ∧ s.viewerStreams k = none := by
  rcases h.records k with ⟨-, hy, hx⟩ | ⟨n, -, -, hn, -, -, -⟩
  · exact ⟨hy, hx⟩
  · rw [hk] at hn
    cases hn

end Sound

/-- Where the wrapper has a stream, the viewer has it. -/
theorem Agree.viewer_live (ha : Agree d k n y x) (hy : y.isFreed = false) : x.isFreed = false := by
  cases hx : x.isFreed with
  | false => rfl
  | true =>
    rw [ha.instanceFreed.mpr (.inl (ha.freed hx))] at hy
    cases hy

/-- What the wrapper finds under the id of a stream of the viewer is that stream. -/
theorem Sound.found (h : Sound d s) (hx : s.viewerStreams v = some x) (hf : x.isFreed = false)
    (hl : s.ids.lookup x.streamId = some w) : w = v := by
  have hkey := h.ids.key_eq hl
  cases hy : s.instances w with
  | none =>
    rw [instanceId, hy] at hkey
    cases hkey
  | some y =>
    obtain ⟨n, x', hn, hx', ha⟩ := h.agree_of_instance hy
    rw [instanceId_eq hy] at hkey
    cases hyf : y.isFreed with
    | true => simp [hyf] at hkey
    | false =>
      have hid : y.streamId = x.streamId := by simpa [hyf] using hkey
      have hw : s.viewerId w = some x.streamId := by
        rw [viewerId_eq hx', ha.viewer_live hyf, ← ha.streamId, hid]
        rfl
      have hv : s.viewerId v = some x.streamId := by
        rw [viewerId_eq hx, hf]
        rfl
      exact h.viewerIds.inj hw hv

/-! ### What a step keeps -/

theorem awaits_of_releases {frame : Frame} (h : s.releases frame = some v) : frame.awaits = some v := by
  cases frame with
  | nppDestroyStream b v => exact h
  | npnDestroyStream v b =>
    rw [releases] at h
    split at h
    · exact h
    · cases h
  | _ => cases h

theorem releases_congr {frame : Frame} (h : ∀ v, frame.awaits = some v → t.viewerStreams v = s.viewerStreams v ∨
    (t.viewerStreams v).map (·.isPluginStream) = (s.viewerStreams v).map (·.isPluginStream)) :
    t.releases frame = s.releases frame := by
  cases frame with
  | npnDestroyStream v b =>
    have hany : (t.viewerStreams v).any (·.isPluginStream) = (s.viewerStreams v).any (·.isPluginStream) := by
      rcases h v rfl with heq | heq
      · rw [heq]
      · cases ht : t.viewerStreams v <;> cases hs : s.viewerStreams v <;> simp_all
    rw [releases, releases, hany]
  | _ => rfl

/-- A call begins in which no stream of the plugin is destroyed. -/
theorem Sound.push (h : Sound d s) (hframe : FrameSound d s frame) (habove : ∀ v, s.releases frame = some v → s.Free v)
    (hplugin : ∀ k n, s.browserStreams k = some n → n.ofPlugin = true → frame ≠ .npnDestroyStream k k) :
    Sound d (s.push frame) where
  ids := h.ids
  viewerIds := h.viewerIds
  records := h.records
  frames := by
    intro f hf
    rcases List.mem_cons.mp hf with rfl | hf
    · exact ⟨hframe.agrees, hframe.about, hframe.awaits⟩
    · have := h.frames f hf
      exact ⟨this.agrees, this.about, this.awaits⟩
  above := by
    refine List.pairwise_cons.mpr ⟨fun lower hl v hv => habove v hv lower hl, ?_⟩
    exact h.above.imp fun habove v hv => habove v hv
  opening := fun k n hn hp => List.mem_cons_of_mem _ (h.opening k n hn hp)
  closing := fun k n hn hp => List.mem_cons_of_mem _ (h.closing k n hn hp)
  destroying := by
    intro k n hn hp hmem
    exact h.destroying k n hn hp ((List.mem_cons.mp hmem).resolve_left (hplugin k n hn hp).symm)

/-- A call returns within which no stream opens or closes. -/
theorem Sound.pop (h : Sound d s) (hs : s.stack = frame :: stack)
    (hopening : ∀ k n, s.browserStreams k = some n → n.phase = .opening → frame ≠ .nppNewStream k)
    (hclosing : ∀ k n, s.browserStreams k = some n → n.phase = .closing → frame ≠ n.closer k) :
    Sound d { s with stack } where
  ids := h.ids
  viewerIds := h.viewerIds
  records := h.records
  frames := by
    intro f hf
    have := h.frames f (hs ▸ List.mem_cons_of_mem _ hf)
    exact ⟨this.agrees, this.about, this.awaits⟩
  above := by
    have habove := h.above
    rw [hs] at habove
    exact (List.pairwise_cons.mp habove).2.imp fun habove v hv => habove v hv
  opening := by
    intro k n hn hp
    have hmem := h.opening k n hn hp
    rw [hs] at hmem
    exact (List.mem_cons.mp hmem).resolve_left (hopening k n hn hp).symm
  closing := by
    intro k n hn hp
    have hmem := h.closing k n hn hp
    rw [hs] at hmem
    exact (List.mem_cons.mp hmem).resolve_left (hclosing k n hn hp).symm
  destroying := fun k n hn hp hmem => h.destroying k n hn hp (hs ▸ List.mem_cons_of_mem _ hmem)

theorem awaits_closer : (n.closer k).awaits = some k := by
  rw [BrowserStream.closer]
  split <;> rfl

theorem Sound.releases_eq (h : Sound d s) (hx : t.viewerStreams = Function.update s.viewerStreams k (some u))
    (hplugin : ∀ x, s.viewerStreams k = some x → u.isPluginStream = x.isPluginStream) (hf : frame ∈ s.stack) :
    t.releases frame = s.releases frame := by
  refine releases_congr fun v hv => ?_
  obtain ⟨x, hxv, -⟩ := (h.frames frame hf).awaits v hv
  rw [hx]
  rcases eq_or_ne v k with rfl | hvk
  · rw [Function.update_self, hxv]
    exact .inr (congrArg some (hplugin x hxv))
  · exact .inl (Function.update_of_ne hvk ..)

/-- The records of one stream change, with calls about it that begin or return. -/
theorem Sound.alter (h : Sound d s) (hb : t.browserStreams = Function.update s.browserStreams k (some m))
    (hy : t.instances = Function.update s.instances k (some z))
    (hx : t.viewerStreams = Function.update s.viewerStreams k (some u))
    (hids : t.ids.Indexes t.instanceId) (hvids : t.viewerIds.Indexes t.viewerId) (ha : Agree d k m z u)
    (hframes : ∀ f ∈ t.stack, f ∈ s.stack ∨ f.Agrees d ∧ (∀ b, f.about = some b → b = k) ∧ ∀ v, f.awaits = some v → v = k)
    (habove : t.stack.Pairwise t.Above)
    (hrest : ∀ f ∈ s.stack, f.awaits ≠ none → f.awaits ≠ some k → f ∈ t.stack)
    (hlive : m.isFreed = false ∨ ∀ f ∈ t.stack, f.about ≠ some k)
    (hawait : u.isFreed = false ∨ ∀ f ∈ t.stack, f.awaits ≠ some k)
    (hopening : m.phase = .opening → .nppNewStream k ∈ t.stack)
    (hclosing : m.phase = .closing → m.closer k ∈ t.stack)
    (hdestroying : m.ofPlugin = true → .npnDestroyStream k k ∈ t.stack → m.phase = .closing) : Sound d t where
  ids := hids
  viewerIds := hvids
  records := by
    intro j
    rw [hb, hy, hx]
    rcases eq_or_ne j k with rfl | hj
    · simp only [Function.update_self]
      exact .inr ⟨_, _, _, rfl, rfl, rfl, ha⟩
    · simp only [Function.update_of_ne hj]
      exact h.records j
  frames := by
    intro f hf
    refine ⟨?_, fun b hfb => ?_, fun v hfv => ?_⟩
    · rcases hframes f hf with hs | ⟨hagrees, -, -⟩
      · exact (h.frames f hs).agrees
      · exact hagrees
    · rw [hb]
      rcases eq_or_ne b k with rfl | hbk
      · rw [Function.update_self]
        exact ⟨m, rfl, hlive.resolve_right fun hno => hno f hf hfb⟩
      · rw [Function.update_of_ne hbk]
        rcases hframes f hf with hs | ⟨-, habout, -⟩
        · exact (h.frames f hs).about b hfb
        · exact absurd (habout b hfb) hbk
    · rw [hx]
      rcases eq_or_ne v k with rfl | hvk
      · rw [Function.update_self]
        exact ⟨u, rfl, hawait.resolve_right fun hno => hno f hf hfv⟩
      · rw [Function.update_of_ne hvk]
        rcases hframes f hf with hs | ⟨-, -, hawaits⟩
        · exact (h.frames f hs).awaits v hfv
        · exact absurd (hawaits v hfv) hvk
  above := habove
  opening := by
    intro j n hn hp
    rw [hb] at hn
    rcases eq_or_ne j k with rfl | hj
    · rw [Function.update_self] at hn
      cases hn
      exact hopening hp
    · rw [Function.update_of_ne hj] at hn
      exact hrest _ (h.opening j n hn hp) (by simp [Frame.awaits]) (by simpa [Frame.awaits] using hj)
  closing := by
    intro j n hn hp
    rw [hb] at hn
    rcases eq_or_ne j k with rfl | hj
    · rw [Function.update_self] at hn
      cases hn
      exact hclosing hp
    · rw [Function.update_of_ne hj] at hn
      refine hrest _ (h.closing j n hn hp) ?_ ?_
      · rw [awaits_closer]
        simp
      · rw [awaits_closer]
        simpa using hj
  destroying := by
    intro j n hn hp hmem
    rw [hb] at hn
    rcases eq_or_ne j k with rfl | hj
    · rw [Function.update_self] at hn
      cases hn
      exact hdestroying hp hmem
    · rw [Function.update_of_ne hj] at hn
      rcases hframes _ hmem with hs | ⟨-, -, hawaits⟩
      · exact h.destroying j n hn hp hs
      · exact absurd (hawaits j rfl) hj

/-- The records of one stream change, and calls about it return. -/
theorem Sound.change (h : Sound d s) (hb : t.browserStreams = Function.update s.browserStreams k (some m))
    (hy : t.instances = Function.update s.instances k (some z))
    (hx : t.viewerStreams = Function.update s.viewerStreams k (some u))
    (hids : t.ids.Indexes t.instanceId) (hvids : t.viewerIds.Indexes t.viewerId) (ha : Agree d k m z u)
    (hplugin : ∀ x, s.viewerStreams k = some x → u.isPluginStream = x.isPluginStream)
    (hsub : t.stack.Sublist s.stack)
    (hrest : ∀ f ∈ s.stack, f.awaits ≠ none → f.awaits ≠ some k → f ∈ t.stack)
    (hlive : m.isFreed = false ∨ ∀ f ∈ t.stack, f.about ≠ some k)
    (hawait : u.isFreed = false ∨ ∀ f ∈ t.stack, f.awaits ≠ some k)
    (hopening : m.phase = .opening → .nppNewStream k ∈ t.stack)
    (hclosing : m.phase = .closing → m.closer k ∈ t.stack)
    (hdestroying : m.ofPlugin = true → .npnDestroyStream k k ∈ t.stack → m.phase = .closing) : Sound d t := by
  refine h.alter hb hy hx hids hvids ha (fun f hf => .inl (hsub.mem hf)) ?_ hrest hlive hawait hopening hclosing hdestroying
  refine (h.above.sublist hsub).imp_of_mem fun {upper} _ hu _ habove v hv => habove v ?_
  rwa [h.releases_eq hx hplugin (hsub.mem hu)] at hv

/-- The records of one stream change, and a call about it begins. -/
theorem Sound.enter (h : Sound d s) (hb : t.browserStreams = Function.update s.browserStreams k (some m))
    (hy : t.instances = Function.update s.instances k (some z))
    (hx : t.viewerStreams = Function.update s.viewerStreams k (some u))
    (hids : t.ids.Indexes t.instanceId) (hvids : t.viewerIds.Indexes t.viewerId) (ha : Agree d k m z u)
    (hplugin : ∀ x, s.viewerStreams k = some x → u.isPluginStream = x.isPluginStream)
    (hstack : t.stack = frame :: s.stack) (hagrees : frame.Agrees d) (habout : frame.about = some k)
    (hawaits : frame.awaits = some k) (hfree : ∀ v, t.releases frame = some v → s.Free v)
    (hlive : m.isFreed = false) (hawait : u.isFreed = false)
    (hopening : m.phase = .opening → frame = .nppNewStream k ∨ .nppNewStream k ∈ s.stack)
    (hclosing : m.phase = .closing → m.closer k = frame)
    (hdestroying : m.ofPlugin = true → .npnDestroyStream k k ∈ t.stack → m.phase = .closing) : Sound d t := by
  refine h.alter hb hy hx hids hvids ha ?_ ?_ ?_ (.inl hlive) (.inl hawait) ?_ ?_ hdestroying
  · intro f hf
    rw [hstack] at hf
    rcases List.mem_cons.mp hf with rfl | hf
    · refine .inr ⟨hagrees, fun b hfb => ?_, fun v hfv => ?_⟩
      · rw [habout] at hfb
        exact (Option.some.inj hfb).symm
      · rw [hawaits] at hfv
        exact (Option.some.inj hfv).symm
    · exact .inl hf
  · rw [hstack]
    refine List.pairwise_cons.mpr ⟨fun lower hl v hv => hfree v hv lower hl, ?_⟩
    refine h.above.imp_of_mem fun {upper} _ hu _ habove v hv => habove v ?_
    rwa [h.releases_eq hx hplugin hu] at hv
  · intro f hf _ _
    rw [hstack]
    exact List.mem_cons_of_mem _ hf
  · intro hp
    rw [hstack]
    rcases hopening hp with rfl | hmem
    · exact List.mem_cons_self
    · exact List.mem_cons_of_mem _ hmem
  · intro hp
    rw [hstack, hclosing hp]
    exact List.mem_cons_self

theorem instanceId_of (hy : t.instances = Function.update s.instances k (some z)) :
    t.instanceId = Function.update s.instanceId k (if z.isFreed then none else some z.streamId) := by
  funext j
  rw [instanceId, hy]
  rcases eq_or_ne j k with rfl | hj
  · simp
  · simp [Function.update_of_ne hj, instanceId]

theorem viewerId_of (hx : t.viewerStreams = Function.update s.viewerStreams k (some u)) :
    t.viewerId = Function.update s.viewerId k (if u.isFreed then none else some u.streamId) := by
  funext j
  rw [viewerId, hx]
  rcases eq_or_ne j k with rfl | hj
  · simp
  · simp [Function.update_of_ne hj, viewerId]

/-! ### The steps -/

theorem Sound.fresh (h : Sound d s) (hfresh : s.Fresh k) :
    s.instanceId k = none ∧ s.viewerId k = none ∧ s.viewerStreams k = none := by
  obtain ⟨hy, hx⟩ := h.absent hfresh.1
  refine ⟨?_, ?_, hx⟩
  · rw [instanceId, hy]
    rfl
  · rw [viewerId, hx]
    rfl

theorem Sound.newStream (h : Sound d s) (hfresh : s.Fresh k) : Sound d (s.newStream k true .opened) := by
  obtain ⟨hwrapper, hviewer, hx⟩ := h.fresh hfresh
  refine h.change (k := k) (m := ⟨some k, true, .opened, false⟩) rfl rfl rfl ?_ ?_ ?_ ?_ (.refl _)
    (fun f hf _ _ => hf) (.inl rfl) (.inl rfl) ?_ ?_ ?_
  · rw [instanceId_of rfl]
    exact h.ids.insert hwrapper hfresh.2.2.1
  · rw [viewerId_of rfl]
    exact h.viewerIds.insert hviewer hfresh.2.2.2
  · constructor <;> simp [hfresh.2.1]
  · rw [hx]
    rintro x ⟨⟩
  · rintro ⟨⟩
  · rintro ⟨⟩
  · intro _ hmem
    obtain ⟨x, hsome, -⟩ := (h.frames _ hmem).awaits k rfl
    rw [hx] at hsome
    cases hsome

/-- A call of the browser's own stream, from NPP_NewStream on. -/
theorem Sound.inUse (h : Sound d s) (hb : s.InUse b) : ∃ n y x, s.browserStreams b = some n ∧ s.instances b = some y ∧
    s.viewerStreams b = some x ∧ Agree d b n y x ∧ n.ofPlugin = false ∧ n.isFreed = false ∧ y.isFreed = false ∧
    x.isFreed = false ∧ n.phase ≠ .closed := by
  obtain ⟨n, hn, hown, hphase⟩ := hb
  obtain ⟨y, x, hy, hx, ha⟩ := h.agree hn
  have hopen : n.phase ≠ .closed ∧ n.phase ≠ .closing ∧ n.phase ≠ .refused := by
    rcases hphase with hp | hp <;> simp [hp]
  have hyf : y.isFreed = false := by
    refine Bool.eq_false_iff.mpr fun hf => ?_
    rcases ha.instanceFreed.mp hf with hp | ⟨hp, -⟩
    · exact hopen.1 hp
    · exact hopen.2.1 hp
  have hnf : n.isFreed = false := by
    refine Bool.eq_false_iff.mpr fun hf => ?_
    rcases ha.gone hf with hp | hp
    · exact hopen.2.2 hp
    · exact hopen.1 hp
  exact ⟨n, y, x, hn, hy, hx, ha, hown, hnf, hyf, ha.viewer_live hyf, hopen.1⟩

/-- What goes from the browser to the plugin. -/
theorem Sound.toViewer (h : Sound d s) (hn : s.browserStreams b = some n) (hy : s.instances b = some y)
    (hx : s.viewerStreams b = some x) (ha : Agree d b n y x) (hnf : n.isFreed = false) (hyf : y.isFreed = false) :
    s.sendToViewer b = .ok y.streamId ∧ ∀ s' : Streams, s'.viewerIds = s.viewerIds → s'.viewerStreams = s.viewerStreams →
      s'.receiveInViewer y.streamId = .ok (some b) := by
  have hxf := ha.viewer_live hyf
  have hpdata : n.pdata = some b := by rw [ha.pdata, hyf]; rfl
  refine ⟨?_, fun s' hids hstreams => ?_⟩
  · simp [sendToViewer, browserStream_ok hn hnf, streamInstance_ok hy hyf, hpdata, Except.bind, Except.map]
  · have hkey : s.viewerId b = some y.streamId := by
      rw [viewerId_eq hx, hxf, ha.streamId]
      rfl
    rw [← hstreams] at hx
    rw [receiveInViewer, hids, h.viewerIds.lookup hkey]
    simp [viewerStream_ok hx hxf, Except.map]

/-- Only what the browser says of a stream changes. -/
theorem Sound.changeBrowser (h : Sound d s) (hn : s.browserStreams k = some n) (ha : ∀ y x, s.instances k = some y →
      s.viewerStreams k = some x → Agree d k n y x → Agree d k m y x)
    (hlive : m.isFreed = false ∨ ∀ frame ∈ s.stack, frame.about ≠ some k)
    (hopening : m.phase = .opening → .nppNewStream k ∈ s.stack) (hclosing : m.phase = .closing → m.closer k ∈ s.stack)
    (hdestroying : m.ofPlugin = true → .npnDestroyStream k k ∈ s.stack → m.phase = .closing) :
    Sound d (s.putBrowserStream k m) := by
  obtain ⟨y, x, hy, hx, hagree⟩ := h.agree hn
  have hids : s.instances = Function.update s.instances k (some y) := by rw [← hy, Function.update_eq_self]
  have hstreams : s.viewerStreams = Function.update s.viewerStreams k (some x) := by
    rw [← hx, Function.update_eq_self]
  refine h.change rfl hids hstreams h.ids h.viewerIds (ha y x hy hx hagree) ?_ (.refl _) (fun f hf _ _ => hf) hlive ?_
    hopening hclosing hdestroying
  · intro x' hx'
    rw [hx] at hx'
    cases hx'
    rfl
  · refine or_iff_not_imp_left.mpr fun hxf f hf hawaits => hxf ?_
    obtain ⟨x', hx', hxf'⟩ := (h.frames f hf).awaits k hawaits
    rw [hx] at hx'
    cases hx'
    exact hxf'

theorem Sound.nppNewStream (h : Sound d s) (hfresh : s.Fresh k) :
    Sound d ((s.newStream k false .opening).push (.nppNewStream k)) := by
  obtain ⟨hwrapper, hviewer, hx⟩ := h.fresh hfresh
  refine h.enter (k := k) (m := ⟨some k, false, .opening, false⟩) rfl rfl rfl ?_ ?_ ?_ ?_ rfl trivial rfl rfl
    (fun v hv => by cases hv) rfl rfl (fun _ => .inl rfl) ?_ ?_
  · rw [instanceId_of rfl]
    exact h.ids.insert hwrapper hfresh.2.2.1
  · rw [viewerId_of rfl]
    exact h.viewerIds.insert hviewer hfresh.2.2.2
  · constructor <;> simp [hfresh.2.1]
  · rw [hx]
    rintro x ⟨⟩
  · rintro ⟨⟩
  · rintro ⟨⟩

theorem Sound.newstreamReturned (h : Sound d s) (hs : s.stack = .nppNewStream k :: stack) (ok : Bool) :
    ∃ t, { s with stack }.newstreamReturned k ok = .ok t ∧ Sound d t := by
  have htop := h.frames (.nppNewStream k) (by rw [hs]; exact List.mem_cons_self)
  obtain ⟨n, hn, hnf⟩ := htop.about k rfl
  obtain ⟨x, hx, hxf⟩ := htop.awaits k rfl
  obtain ⟨y, x', hy, hx', ha⟩ := h.agree hn
  rw [hx] at hx'
  cases hx'
  refine ⟨_, by simp only [Streams.newstreamReturned, viewerStream_ok (s := { s with stack }) hx hxf,
    browserStream_ok (s := { s with stack }) hn hnf, Except.bind, Except.map]; rfl, ?_⟩
  refine h.change (k := k) (z := y) rfl (by rw [← hy]; exact (Function.update_eq_self ..).symm) rfl h.ids ?_ ?_ ?_ ?_ ?_ (.inl hnf)
    (.inl hxf) ?_ ?_ ?_
  · rw [viewerId_of rfl]
    refine h.viewerIds.congr fun v => ?_
    rcases eq_or_ne v k with rfl | hv
    · rw [Function.update_self, viewerId_eq hx]
    · rw [Function.update_of_ne hv]
  · refine { ha with instanceFreed := ?_, freed := ?_, remains := ?_, refused := ?_, gone := ?_ }
    · rw [ha.instanceFreed]
      dsimp only
      split
      · rename_i hp
        cases ok <;> simp [hp]
      · rfl
    · intro hf
      rw [hxf] at hf
      cases hf
    · dsimp only
      split
      · cases ok <;> simp
      · exact ha.remains
    · dsimp only
      split
      · cases ok <;> simp
      · intro hp
        simp [ha.refused hp]
    · intro hf
      rw [hnf] at hf
      cases hf
  · intro x' hx'
    rw [hx] at hx'
    cases hx'
    rfl
  · show stack.Sublist s.stack
    rw [hs]
    exact List.sublist_cons_self ..
  · intro f hf _ hne
    rw [hs] at hf
    refine (List.mem_cons.mp hf).resolve_left fun heq => hne ?_
    rw [heq]
    rfl
  · dsimp only
    split
    · cases ok <;> simp
    · intro hp
      contradiction
  · dsimp only
    split
    · cases ok <;> simp
    · intro hp
      have hmem := h.closing k n hn hp
      rw [hs] at hmem
      refine (List.mem_cons.mp hmem).resolve_left ?_
      rw [BrowserStream.closer]
      split <;> simp
  · intro hp hmem
    have hclosing := h.destroying k n hn hp (by rw [hs]; exact List.mem_cons_of_mem _ hmem)
    dsimp only
    rw [if_neg (by rw [hclosing]; simp), hclosing]

/-- The wrapper frees the StreamInstance of a stream, if it has not done so, where the viewer has the record `x`. -/
theorem nppDestroyed_ok (hn : s.browserStreams b = some n) (hnf : n.isFreed = false) (hy : s.instances b = some y)
    (ha : Agree d b n y x) : ∃ t, s.nppDestroyed b = .ok t ∧
      t.browserStreams = Function.update s.browserStreams b (some { n with pdata := none, phase := .closed }) ∧
      t.instances = Function.update s.instances b (some { y with isFreed := true }) ∧
      t.viewerStreams = s.viewerStreams ∧ t.viewerIds = s.viewerIds ∧ t.stack = s.stack ∧
      (s.ids.Indexes s.instanceId → t.ids.Indexes t.instanceId) := by
  cases hyf : y.isFreed with
  | true =>
    have hpdata : n.pdata = none := by rw [ha.pdata, hyf]; rfl
    refine ⟨s.putBrowserStream b { n with phase := .closed }, ?_, ?_, ?_, rfl, rfl, rfl, id⟩
    · simp [nppDestroyed, browserStream_ok hn hnf, Except.bind, hpdata]
    · rw [← hpdata]
      rfl
    · have heq : ({ y with isFreed := true } : StreamInstance) = y := by
        cases y
        cases hyf
        rfl
      rw [heq, ← hy, Function.update_eq_self]
      rfl
  | false =>
    have hpdata : n.pdata = some b := by rw [ha.pdata, hyf]; rfl
    refine ⟨(s.freeInstance b y).putBrowserStream b { n with pdata := none, phase := .closed }, ?_, rfl, rfl, rfl, rfl, rfl,
      fun hids => ?_⟩
    · simp [nppDestroyed, browserStream_ok hn hnf, Except.bind, hpdata, streamInstance_ok hy hyf, Except.map]
    · rw [instanceId_of (s := s) (k := b) rfl]
      refine hids.erase ?_
      rw [instanceId_eq hy, hyf]
      rfl

theorem Sound.destroystreamReturned (h : Sound d s) (hs : s.stack = .nppDestroyStream b v :: stack) :
    ∃ t, { s with stack }.destroystreamReturned b v = .ok t ∧ Sound d t := by
  have htop := h.frames (.nppDestroyStream b v) (by rw [hs]; exact List.mem_cons_self)
  obtain ⟨rfl, hd⟩ : b = v ∧ d = true := htop.agrees
  obtain ⟨n, hn, hnf⟩ := htop.about b rfl
  obtain ⟨x, hx, hxf⟩ := htop.awaits b rfl
  obtain ⟨y, x', hy, hx', ha⟩ := h.agree hn
  rw [hx] at hx'
  cases hx'
  obtain ⟨t, ht, hb, hi, hv, hvids, hstack, hids⟩ :=
    nppDestroyed_ok (s := { s with stack }.freeStream b x) hn hnf hy ha
  have habove := h.above
  rw [hs] at habove
  have hfree : ∀ f ∈ stack, f.awaits ≠ some b := fun f hf => (List.pairwise_cons.mp habove).1 f hf b rfl
  refine ⟨t, ?_, ?_⟩
  · rw [Streams.destroystreamReturned, viewerStream_ok (s := { s with stack }) hx hxf]
    exact ht
  refine h.change hb hi (hv.trans rfl) (hids h.ids) ?_ ?_ ?_ ?_ ?_ (.inl hnf) (.inr ?_) ?_ ?_ ?_
  · rw [hvids, viewerId_of (s := s) (k := b) (hv.trans rfl)]
    refine h.viewerIds.erase ?_
    rw [viewerId_eq hx, hxf]
    rfl
  · exact { ha with
      pdata := rfl
      instanceFreed := by simp
      freed := fun _ => rfl
      remains := by simp [hd]
      refused := by simp
      gone := fun _ => .inr rfl }
  · intro x' hx'
    rw [hx] at hx'
    cases hx'
    rfl
  · rw [hstack, hs]
    exact List.sublist_cons_self ..
  · intro f hf _ hne
    rw [hs] at hf
    rw [hstack]
    refine (List.mem_cons.mp hf).resolve_left fun heq => hne ?_
    rw [heq]
    rfl
  · rw [hstack]
    exact hfree
  · rintro ⟨⟩
  · rintro ⟨⟩
  · intro _ hmem'
    rw [hstack] at hmem'
    exact absurd rfl (hfree _ hmem')

theorem Sound.nppDestroyStream (h : Sound d s) (hb : s.InUse b) (hclear : d = true → s.Free b) :
    ∃ t, s.nppDestroyStream d b = .ok t ∧ Sound d t := by
  obtain ⟨n, y, x, hn, hy, hx, ha, hown, hnf, hyf, hxf, -⟩ := h.inUse hb
  obtain ⟨hsend, hreceive⟩ := h.toViewer hn hy hx ha hnf hyf
  have hput := hreceive (s.putBrowserStream b { n with phase := .closing }) rfl rfl
  cases d with
  | true =>
    refine ⟨(s.putBrowserStream b { n with phase := .closing }).push (.nppDestroyStream b b), ?_, ?_⟩
    · simp [Streams.nppDestroyStream, hsend, browserStream_ok hn hnf, hput, Except.bind]
    · refine h.enter (m := { n with phase := .closing }) (z := y) (u := x) rfl ?_ ?_ h.ids h.viewerIds ?_ ?_ rfl ⟨rfl, rfl⟩ rfl rfl ?_ hnf hxf ?_ ?_ ?_
      · exact hy ▸ (Function.update_eq_self ..).symm
      · exact hx ▸ (Function.update_eq_self ..).symm
      · exact { ha with
          instanceFreed := by simp [hyf, hown]
          freed := fun hf => by rw [hxf] at hf; cases hf
          remains := by simp
          refused := by simp
          gone := fun hf => by rw [hnf] at hf; cases hf }
      · intro x' hx'
        rw [hx] at hx'
        cases hx'
        rfl
      · rintro v' ⟨⟩
        exact hclear rfl
      · rintro ⟨⟩
      · intro _
        rw [BrowserStream.closer]
        simp only [hown]
        rfl
      · intro _ _
        rfl
  | false =>
    have ha' : Agree false b { n with phase := .closing } y x := { ha with
      instanceFreed := by simp [hyf, hown]
      freed := fun hf => by rw [hxf] at hf; cases hf
      remains := by simp
      refused := by simp
      gone := fun hf => by rw [hnf] at hf; cases hf }
    obtain ⟨t, ht, hb', hi, hv, hvids, hstack, hids⟩ := nppDestroyed_ok
      (s := s.putBrowserStream b { n with phase := .closing }) (Function.update_self ..) hnf hy ha'
    refine ⟨t, ?_, ?_⟩
    · simp [Streams.nppDestroyStream, hsend, browserStream_ok hn hnf, hput, Except.bind, ht]
    rw [show (s.putBrowserStream b { n with phase := .closing }).browserStreams =
      Function.update s.browserStreams b (some { n with phase := .closing }) from rfl, Function.update_idem] at hb'
    refine h.change (u := x) hb' hi ?_ (hids h.ids) ?_ ?_ ?_ ?_ ?_ (.inl hnf) (.inl hxf) ?_ ?_ ?_
    · rw [hv, ← hx]
      exact (Function.update_eq_self ..).symm
    · rw [hvids]
      refine h.viewerIds.congr fun v => ?_
      rw [viewerId, hv]
      rfl
    · exact { ha with
        pdata := rfl
        instanceFreed := by simp
        freed := fun _ => rfl
        remains := by simp [hxf, hown]
        refused := by simp
        gone := fun _ => .inr rfl }
    · intro x' hx'
      rw [hx] at hx'
      cases hx'
      rfl
    · rw [hstack]
      exact .refl _
    · intro f hf _ _
      rw [hstack]
      exact hf
    · rintro ⟨⟩
    · rintro ⟨⟩
    · intro hp
      rw [hown] at hp
      cases hp

theorem Sound.nppWrite (h : Sound d s) (hb : s.InUse b) : ∃ t, s.nppWrite b = .ok t ∧ Sound d t := by
  obtain ⟨n, y, x, hn, hy, hx, ha, -, hnf, hyf, hxf, -⟩ := h.inUse hb
  obtain ⟨hsend, hreceive⟩ := h.toViewer hn hy hx ha hnf hyf
  refine ⟨s.push (.nppWrite b b), ?_, h.push ⟨rfl, ?_, ?_⟩ (fun v hv => by cases hv) fun k n _ _ => by simp⟩
  · simp [Streams.nppWrite, hsend, hreceive s rfl rfl, Except.bind, Except.map]
  · rintro b' ⟨⟩
    exact ⟨n, hn, hnf⟩
  · rintro v ⟨⟩

/-- What goes from the plugin to the browser: a stream the wrapper has, or nothing. -/
theorem Sound.toWrapper (h : Sound d s) (hv : s.Given v) : ∃ n y x, s.browserStreams v = some n ∧
    s.instances v = some y ∧ s.viewerStreams v = some x ∧ Agree d v n y x ∧ x.isFreed = false ∧
    s.sendToWrapper v = .ok x.streamId ∧
    (y.isFreed = false → n.isFreed = false ∧ s.receiveInWrapper x.streamId = .ok (some v)) ∧
    (y.isFreed = true → s.receiveInWrapper x.streamId = .ok none) := by
  obtain ⟨x, hx, hxf, hgiven⟩ := hv
  obtain ⟨n, y, hn, hy, ha⟩ := h.agree_of_viewer hx
  refine ⟨n, y, x, hn, hy, hx, ha, hxf, ?_, fun hyf => ⟨?_, ?_⟩, fun hyf => ?_⟩
  · simp [sendToWrapper, viewerStream_ok hx hxf, Except.map]
  · refine Bool.eq_false_iff.mpr fun hf => ?_
    rcases ha.gone hf with hp | hp
    · rw [ha.refused hp] at hgiven
      cases hgiven
    · rw [ha.instanceFreed.mpr (.inl hp)] at hyf
      cases hyf
  · have hkey : s.instanceId v = some x.streamId := by
      rw [instanceId_eq hy, hyf, ha.streamId]
      rfl
    rw [receiveInWrapper, h.ids.lookup hkey]
    simp [streamInstance_ok hy hyf, Except.map, ha.stream]
  · cases hl : s.ids.lookup x.streamId with
    | none => simp [receiveInWrapper, hl]
    | some w =>
      obtain rfl := h.found hx hxf hl
      have hkey := h.ids.key_eq hl
      rw [instanceId_eq hy, hyf] at hkey
      cases hkey

theorem Sound.npnWrite (h : Sound d s) (hv : s.Given v) : ∃ t, s.npnWrite v = .ok t ∧ Sound d t := by
  obtain ⟨n, y, x, hn, hy, hx, ha, hxf, hsend, hthere, hgone⟩ := h.toWrapper hv
  cases hyf : y.isFreed with
  | true =>
    refine ⟨s, ?_, h⟩
    simp [Streams.npnWrite, hsend, hgone hyf, Except.bind]
  | false =>
    obtain ⟨hnf, hreceive⟩ := hthere hyf
    refine ⟨s.push (.npnWrite v v), ?_, h.push ⟨rfl, ?_, ?_⟩ (fun v hv => by cases hv) fun k n _ _ => by simp⟩
    · simp [Streams.npnWrite, hsend, hreceive, browserStream_ok hn hnf, Except.bind, Except.map]
    · rintro b' ⟨⟩
      exact ⟨n, hn, hnf⟩
    · rintro v' ⟨⟩

theorem Sound.npnDestroyStream (h : Sound d s) (hv : s.Given v)
    (hclear : (s.viewerStreams v).any (·.isPluginStream) = true → s.Free v) :
    ∃ t, s.npnDestroyStream v = .ok t ∧ Sound d t := by
  obtain ⟨n, y, x, hn, hy, hx, ha, hxf, hsend, hthere, hgone⟩ := h.toWrapper hv
  cases hyf : y.isFreed with
  | true =>
    -- The wrapper has dropped the stream while the viewer has it: a stream of the browser, with no `destroystream`.
    have hown : x.isPluginStream = false := by
      rw [ha.viewerIsPlugin]
      rcases ha.instanceFreed.mp hyf with hp | ⟨hp, hplugin⟩
      · exact ((ha.remains hp).mp hxf).1
      · have hmem := h.closing v n hn hp
        rw [BrowserStream.closer, hplugin] at hmem
        refine absurd rfl (hclear ?_ _ hmem)
        rw [hx, Option.any_some, ha.viewerIsPlugin, hplugin]
    refine ⟨s, ?_, h⟩
    simp [Streams.npnDestroyStream, hsend, hgone hyf, npnDestroyed, viewerStream_ok hx hxf, hown, Except.bind, Except.map]
  | false =>
    obtain ⟨hnf, hreceive⟩ := hthere hyf
    have hpdata : n.pdata = some v := by rw [ha.pdata, hyf]; rfl
    cases hplugin : y.isPluginStream with
    | true =>
      have hown : n.ofPlugin = true := by rw [← ha.isPlugin, hplugin]
      have hxplugin : x.isPluginStream = true := by rw [ha.viewerIsPlugin, hown]
      refine ⟨((s.freeInstance v y).putBrowserStream v { n with pdata := none, phase := .closing }).push
        (.npnDestroyStream v v), ?_, ?_⟩
      · simp [Streams.npnDestroyStream, hsend, hreceive, freePluginStream, browserStream_ok hn hnf, hpdata,
          streamInstance_ok hy hyf, hplugin, Except.bind, Except.map]
      refine h.enter (z := { y with isFreed := true }) rfl rfl ?_ ?_ h.viewerIds ?_ ?_ rfl rfl rfl rfl ?_ hnf hxf ?_ ?_ ?_
      · exact hx ▸ (Function.update_eq_self ..).symm
      · rw [instanceId_of (s := s) (k := v) rfl]
        refine h.ids.erase ?_
        rw [instanceId_eq hy, hyf]
        rfl
      · exact { ha with
          pdata := rfl
          instanceFreed := by simp [hown]
          freed := fun hf => by rw [hxf] at hf; cases hf
          remains := by simp
          refused := by simp
          gone := fun hf => by rw [hnf] at hf; cases hf }
      · intro x' hx'
        rw [hx] at hx'
        cases hx'
        rfl
      · intro v' hv'
        obtain rfl : v = v' := Option.some.inj (awaits_of_releases hv')
        exact hclear (by rw [hx]; exact hxplugin)
      · rintro ⟨⟩
      · intro _
        rw [BrowserStream.closer]
        simp only [hown]
        rfl
      · intro _ _
        rfl
    | false =>
      have hown : n.ofPlugin = false := by rw [← ha.isPlugin, hplugin]
      refine ⟨s.push (.npnDestroyStream v v), ?_, h.push ⟨rfl, ?_, ?_⟩ ?_ ?_⟩
      · simp [Streams.npnDestroyStream, hsend, hreceive, freePluginStream, browserStream_ok hn hnf, hpdata,
          streamInstance_ok hy hyf, hplugin, Except.bind, Except.map]
      · rintro b' ⟨⟩
        exact ⟨n, hn, hnf⟩
      · rintro v' ⟨⟩
        exact ⟨x, hx, hxf⟩
      · intro v' hv'
        rw [releases, hx, Option.any_some, ha.viewerIsPlugin, hown] at hv'
        cases hv'
      · rintro k n' hn' hown' ⟨⟩
        rw [hn] at hn'
        cases hn'
        rw [hown] at hown'
        cases hown'

theorem Sound.npnDestroyed (h : Sound d s) (hs : s.stack = .npnDestroyStream v b :: stack) :
    ∃ t, ({ s with stack }.browserDestroyed b).npnDestroyed v = .ok t ∧ Sound d t := by
  have hmem : Frame.npnDestroyStream v b ∈ s.stack := by rw [hs]; exact List.mem_cons_self
  have htop := h.frames _ hmem
  obtain rfl : b = v := htop.agrees
  obtain ⟨n, hn, hnf⟩ := htop.about b rfl
  obtain ⟨x, hx, hxf⟩ := htop.awaits b rfl
  obtain ⟨y, x', hy, hx', ha⟩ := h.agree hn
  rw [hx] at hx'
  cases hx'
  cases hown : n.ofPlugin with
  | false =>
    have hplugin : x.isPluginStream = false := by rw [ha.viewerIsPlugin, hown]
    refine ⟨{ s with stack }, ?_, h.pop hs ?_ ?_⟩
    · simp [browserDestroyed, hn, hown, Streams.npnDestroyed, viewerStream, hx, hxf, hplugin, Except.map]
    · simp
    · intro k n' hn' _
      rw [BrowserStream.closer]
      split
      · rename_i hown'
        rintro ⟨⟩
        rw [hn] at hn'
        cases hn'
        rw [hown] at hown'
        cases hown'
      · simp
  | true =>
    have hplugin : x.isPluginStream = true := by rw [ha.viewerIsPlugin, hown]
    have hclosing := h.destroying b n hn hown hmem
    have hyf : y.isFreed = true := ha.instanceFreed.mpr (.inr ⟨hclosing, hown⟩)
    have habove := h.above
    rw [hs] at habove
    have hreleases : s.releases (.npnDestroyStream b b) = some b := by
      rw [releases, hx, Option.any_some, hplugin]
      rfl
    have hfree : ∀ f ∈ stack, f.awaits ≠ some b := fun f hf => (List.pairwise_cons.mp habove).1 f hf b hreleases
    refine ⟨({ s with stack }.putBrowserStream b { n with phase := .closed }).freeStream b x, ?_, ?_⟩
    · simp [browserDestroyed, hn, hown, Streams.npnDestroyed, viewerStream, hx, hxf, hplugin, putBrowserStream, Except.map]
    refine h.change (z := y) (u := { x with isFreed := true }) rfl ?_ rfl h.ids ?_ ?_ ?_ ?_ ?_ (.inl hnf) (.inr hfree) ?_ ?_ ?_
    · exact hy ▸ (Function.update_eq_self ..).symm
    · rw [viewerId_of (s := s) (k := b) rfl]
      refine h.viewerIds.erase ?_
      rw [viewerId_eq hx, hxf]
      rfl
    · exact { ha with
        instanceFreed := by simp [hyf]
        freed := fun _ => rfl
        remains := by simp [hown]
        refused := by simp
        gone := fun _ => .inr rfl }
    · intro x' hx'
      rw [hx] at hx'
      cases hx'
      rfl
    · show stack.Sublist s.stack
      rw [hs]
      exact List.sublist_cons_self ..
    · intro f hf _ hne
      rw [hs] at hf
      refine (List.mem_cons.mp hf).resolve_left fun heq => hne ?_
      rw [heq]
      rfl
    · rintro ⟨⟩
    · rintro ⟨⟩
    · intro _ hmem'
      exact absurd rfl (hfree _ hmem')

theorem Sound.browserFrees (h : Sound d s) (hn : s.browserStreams b = some n)
    (hphase : n.phase = .refused ∨ n.phase = .closed) (hfree : ∀ frame ∈ s.stack, frame.about ≠ some b) :
    Sound d (s.putBrowserStream b { n with isFreed := true }) := by
  refine h.changeBrowser hn (fun y x _ _ ha => ?_) (.inr hfree) ?_ ?_ ?_
  · exact { ha with
      remains := ha.remains
      gone := fun _ => hphase }
  · intro hp
    rcases hphase with hq | hq <;> rw [hq] at hp <;> cases hp
  · intro hp
    rcases hphase with hq | hq <;> rw [hq] at hp <;> cases hp
  · intro _ hmem
    exact absurd rfl (hfree _ hmem)

theorem Sound.popOther (h : Sound d s) (hs : s.stack = frame :: stack) (hframe : frame.awaits = none) :
    Sound d { s with stack } := by
  refine h.pop hs (fun k n _ _ => ?_) fun k n _ _ => ?_
  · rintro rfl
    cases hframe
  · rintro rfl
    rw [awaits_closer] at hframe
    cases hframe

/-- What one step keeps where it destroys no stream that a call waits for. -/
theorem Sound.step {e : Event} {r : Result} (h : Sound d s) (ha : s.Allowed e) (hc : s.Clear d e)
    (he : s.exec d e = some r) : ∃ t, r = .ok t ∧ Sound d t := by
  have hother (frame : Frame) (habout : frame.about = none) (hawaits : frame.awaits = none) (hagrees : frame.Agrees d) :
      Sound d (s.push frame) := by
    refine h.push ⟨hagrees, ?_, ?_⟩ (fun v hv => ?_) fun k n _ _ => ?_
    · simp [habout]
    · simp [hawaits]
    · rw [awaits_of_releases hv] at hawaits
      cases hawaits
    · rintro rfl
      cases hawaits
  cases e with
  | nppNewStream k =>
    cases he
    exact ⟨_, rfl, h.nppNewStream ha.2⟩
  | nppDestroyStream b =>
    cases he
    exact h.nppDestroyStream ha.2 hc
  | nppWrite b =>
    cases he
    exact h.nppWrite ha.2
  | npp =>
    cases he
    exact ⟨_, rfl, hother .npp rfl rfl trivial⟩
  | npnNewStream =>
    cases he
    exact ⟨_, rfl, hother .npnNewStream rfl rfl trivial⟩
  | npnDestroyStream v =>
    cases he
    exact h.npnDestroyStream ha.2 hc
  | npnWrite v =>
    cases he
    exact h.npnWrite ha.2
  | npn =>
    cases he
    exact ⟨_, rfl, hother .npn rfl rfl trivial⟩
  | nppReturns ok =>
    rw [exec, nppReturns] at he
    split at he <;> cases he
    case h_1 k stack hs => exact h.newstreamReturned hs ok
    case h_2 b v stack hs => exact h.destroystreamReturned hs
    case h_3 b v stack hs => exact ⟨_, rfl, h.popOther hs rfl⟩
    case h_4 stack hs => exact ⟨_, rfl, h.popOther hs rfl⟩
  | npnReturns stream =>
    rw [exec, npnReturns] at he
    split at he <;> cases he
    case h_1 stack hs =>
      have hpop : Sound d { s with stack } := h.popOther hs rfl
      cases stream with
      | none => exact ⟨_, rfl, hpop⟩
      | some k => exact ⟨_, rfl, hpop.newStream (ha k rfl)⟩
    case h_2 v b stack hs => exact h.npnDestroyed hs
    case h_3 v b stack hs => exact ⟨_, rfl, h.popOther hs rfl⟩
    case h_4 stack hs => exact ⟨_, rfl, h.popOther hs rfl⟩
  | browserFrees b =>
    obtain ⟨n, hn, hnf, hphase, hfree⟩ := ha
    cases he
    exact ⟨_, by rw [browserStream_ok hn hnf]; rfl, h.browserFrees hn hphase hfree⟩
  | idCreate =>
    cases he
    exact ⟨_, rfl, ⟨h.ids, h.viewerIds, h.records, fun f hf => ⟨(h.frames f hf).agrees, (h.frames f hf).about,
      (h.frames f hf).awaits⟩, h.above.imp fun habove v hv => habove v hv, h.opening, h.closing, h.destroying⟩⟩

theorem sound_started : Sound d started where
  ids := Table.indexes_empty fun _ => rfl
  viewerIds := Table.indexes_empty fun _ => rfl
  records := fun _ => .inl ⟨rfl, rfl, rfl⟩
  frames := by simp [started]
  above := .nil
  opening := by simp [started]
  closing := by simp [started]
  destroying := by simp [started]

theorem clearStreams_sound {r : Result} (h : (clearStreams d).Reachable r) : ∃ s, r = .ok s ∧ Sound d s := by
  refine h.invariant (fun r => ∃ s, r = .ok s ∧ Sound d s) ?_ ?_
  · rintro _ rfl
    exact ⟨_, rfl, sound_started⟩
  · rintro _ e r - ⟨s, rfl, hs⟩ ⟨hclear, s', hs', ha, he⟩
    cases hs'
    exact hs.step ha (hclear s rfl) he

/-- Between the calls, no stream is on its way. -/
theorem Sound.settled (h : Sound d s) (hs : s.stack = []) (hn : s.browserStreams k = some n) :
    n.phase ≠ .opening ∧ n.phase ≠ .closing := by
  refine ⟨fun hp => ?_, fun hp => ?_⟩
  · have hmem := h.opening k n hn hp
    rw [hs] at hmem
    cases hmem
  · have hmem := h.closing k n hn hp
    rw [hs] at hmem
    cases hmem

end Streams

/-- Where a stream is destroyed only when no call that uses it still waits, no record of it is used after it was freed:
    no StreamInstance or NPStream is freed twice, both tables of ids have exactly what was not freed, and what one side
    hands to the other is the stream that is meant. -/
theorem streams_kept {d : Bool} {r : Streams.Result} (h : (clearStreams d).Reachable r) :
    ∃ s, r = .ok s ∧ s.ids.Indexes s.instanceId ∧ s.viewerIds.Indexes s.viewerId ∧
      (∀ frame ∈ s.stack, frame.Agrees d) ∧
      ∀ v x w, s.viewerStreams v = some x → x.isFreed = false → s.ids.lookup x.streamId = some w → w = v := by
  obtain ⟨s, rfl, hs⟩ := Streams.clearStreams_sound h
  exact ⟨s, rfl, hs.ids, hs.viewerIds, fun frame hf => (hs.frames frame hf).agrees, fun v x w hx hf hl => hs.found hx hf hl⟩

/-- A stream that the plugin has accepted. -/
theorem Streams.streams_kept_once : ∃ s : Streams, s.browserStreams 0 = some ⟨some 0, false, .opened, false⟩ ∧
    s.viewerIds.Indexes s.viewerId := by
  have h₀ : (clearStreams true).Reachable (.ok started) := .init rfl
  have h₁ := h₀.next (.nppNewStream 0) ⟨fun _ _ => trivial, _, rfl, ⟨rfl, rfl, by decide, rfl, rfl⟩, rfl⟩
  have h₂ := h₁.next (.nppReturns true) ⟨fun _ _ => trivial, _, rfl, trivial, rfl⟩
  obtain ⟨s, hs, -, hids, -⟩ := streams_kept h₂
  cases hs
  exact ⟨_, rfl, hids⟩

/-- What is left between the calls: both records of a stream that is open, both of one that the plugin refused, which
    nothing frees any more, and the viewer's of one that the browser closed while the plugin has no `destroystream`. -/
theorem streams_accounted {d : Bool} {s : Streams} {k : Nat} {n : Streams.BrowserStream}
    (h : (clearStreams d).Reachable (.ok s)) (hs : s.stack = []) (hn : s.browserStreams k = some n) :
    ∃ y x, s.instances k = some y ∧ s.viewerStreams k = some x ∧
      (y.isFreed = false ↔ n.phase = .opened ∨ n.phase = .refused) ∧
      (x.isFreed = false ↔ n.phase = .opened ∨ n.phase = .refused ∨
        n.phase = .closed ∧ n.ofPlugin = false ∧ d = false) := by
  obtain ⟨_, heq, hsound⟩ := Streams.clearStreams_sound h
  cases heq
  obtain ⟨hopening, hclosing⟩ := hsound.settled hs hn
  obtain ⟨y, x, hy, hx, ha⟩ := hsound.agree hn
  have hyf := ha.instanceFreed
  refine ⟨y, x, hy, hx, ?_, ?_⟩
  · rw [Bool.eq_false_iff, ne_eq, hyf]
    cases hp : n.phase <;> simp_all
  · cases hp : n.phase with
    | closed => simp [ha.remains hp]
    | opened | refused =>
      have hyf' : y.isFreed = false := by
        rw [Bool.eq_false_iff, ne_eq, hyf, hp]
        simp
      simp [ha.viewer_live hyf']
    | opening => exact absurd hp hopening
    | closing => exact absurd hp hclosing

theorem Streams.streams_accounted_refused : ∃ (s : Streams) (y : StreamInstance) (x : ViewerStream),
    s.browserStreams 0 = some ⟨some 0, false, .refused, false⟩ ∧ s.instances 0 = some y ∧ s.viewerStreams 0 = some x ∧
      y.isFreed = false ∧ x.isFreed = false := by
  have h₀ : (clearStreams true).Reachable (.ok started) := .init rfl
  have h₁ := h₀.next (.nppNewStream 0) ⟨fun _ _ => trivial, _, rfl, ⟨rfl, rfl, by decide, rfl, rfl⟩, rfl⟩
  have h₂ := h₁.next (.nppReturns false) ⟨fun _ _ => trivial, _, rfl, trivial, rfl⟩
  obtain ⟨y, x, hy, hx, hyf, hxf⟩ := streams_accounted (k := 0) (n := ⟨some 0, false, .refused, false⟩) h₂ rfl rfl
  exact ⟨_, y, x, rfl, hy, hx, hyf.mpr (.inr rfl), hxf.mpr (.inr (.inl rfl))⟩

end NSPluginWrapper
