import NSPluginWrapper.Lib.Fallible
import NSPluginWrapper.Theorems.Streams

/-! What becomes of a call that waits with a stream that is destroyed meanwhile: it never returns, except into a use of
    what was freed. -/

namespace NSPluginWrapper
open Lib

namespace Streams
variable {d : Bool} {s t : Streams} {b v w k : Nat} {frame : Frame} {stack : List Frame} {n m : BrowserStream}
  {y z : StreamInstance} {x u : ViewerStream} {e : Event}

/-! ### What any step does -/

/-- No record of a stream goes away, and none comes back to life. -/
def Grows (s t : Streams) : Prop := ∀ v x, s.viewerStreams v = some x →
  ∃ u, t.viewerStreams v = some u ∧ u.isPluginStream = x.isPluginStream ∧ (x.isFreed = true → u.isFreed = true)

/-- The viewer has no stream that the browser does not have. -/
def Made (s : Streams) : Prop := ∀ k, s.browserStreams k = none → s.viewerStreams k = none

/-- What is done between the calls. -/
structure Kept (s t : Streams) : Prop where
  grows : Grows s t
  made : Made s → Made t
  stack : t.stack = s.stack

theorem Grows.refl (s : Streams) : Grows s s := fun _ x hx => ⟨x, hx, rfl, id⟩

theorem Grows.trans {r : Streams} (hs : Grows s t) (ht : Grows t r) : Grows s r := by
  intro v x hx
  obtain ⟨u, hu, hplugin, hfreed⟩ := hs v x hx
  obtain ⟨u', hu', hplugin', hfreed'⟩ := ht v u hu
  exact ⟨u', hu', hplugin'.trans hplugin, fun h => hfreed' (hfreed h)⟩

theorem Kept.trans {r : Streams} (hs : Kept s t) (ht : Kept t r) : Kept s r :=
  ⟨hs.grows.trans ht.grows, fun h => ht.made (hs.made h), ht.stack.trans hs.stack⟩

theorem Grows.releases {r : Streams} (h : Grows s r) (hv : s.releases frame = some v)
    (hx : ∃ x, s.viewerStreams v = some x) : r.releases frame = some v := by
  cases frame with
  | npnDestroyStream v' b =>
    obtain rfl : v' = v := Option.some.inj (awaits_of_releases hv)
    obtain ⟨x, hx⟩ := hx
    obtain ⟨u, hu, hplugin, -⟩ := h v' x hx
    rw [Streams.releases, hx] at hv
    rw [Streams.releases, hu, Option.any_some, hplugin]
    exact hv
  | nppDestroyStream b v' => exact hv
  | _ => cases hv

/-- A record of the viewer changes that is there. -/
theorem Kept.viewer {ids : Table UInt32 Nat} (hx : s.viewerStreams k = some x)
    (hplugin : u.isPluginStream = x.isPluginStream) (hfreed : x.isFreed = true → u.isFreed = true) :
    Kept s { s with viewerIds := ids, viewerStreams := Function.update s.viewerStreams k (some u) } where
  grows := by
    intro v x' hx'
    rcases eq_or_ne v k with rfl | hv
    · rw [hx] at hx'
      cases hx'
      exact ⟨u, Function.update_self .., hplugin, hfreed⟩
    · exact ⟨x', (Function.update_of_ne hv ..).trans hx', rfl, id⟩
  made := by
    intro hm j hj
    rcases eq_or_ne j k with rfl | hne
    · rw [hm j hj] at hx
      cases hx
    · exact (Function.update_of_ne hne ..).trans (hm j hj)
  stack := rfl

theorem Kept.put (s : Streams) (b : Nat) (n : BrowserStream) : Kept s (s.putBrowserStream b n) where
  grows := Grows.refl s
  made := by
    intro hm j hj
    refine hm j ?_
    rcases eq_or_ne j b with rfl | hne
    · have hself := (Function.update_self ..).symm.trans hj
      cases hself
    · exact (Function.update_of_ne hne ..).symm.trans hj
  stack := rfl

theorem Kept.freeInstance (s : Streams) (w : Nat) (y : StreamInstance) : Kept s (s.freeInstance w y) :=
  ⟨Grows.refl s, id, rfl⟩

theorem Kept.refl (s : Streams) : Kept s s := ⟨Grows.refl s, id, rfl⟩

theorem viewerStream_eq_ok : s.viewerStream v = .ok x ↔ s.viewerStreams v = some x ∧ x.isFreed = false := by
  rw [viewerStream]
  cases hx : s.viewerStreams v with
  | none => simp
  | some z =>
    cases hf : z.isFreed <;> simp [hf]
    · rintro rfl
      exact hf
    · rintro rfl
      exact hf

theorem browserStream_eq_ok : s.browserStream b = .ok n ↔ s.browserStreams b = some n ∧ n.isFreed = false := by
  rw [browserStream]
  cases hn : s.browserStreams b with
  | none => simp
  | some z =>
    cases hf : z.isFreed <;> simp [hf]
    · rintro rfl
      exact hf
    · rintro rfl
      exact hf

theorem nppDestroyed_kept (h : s.nppDestroyed b = .ok t) : Kept s t := by
  obtain ⟨n, -, hn⟩ := bind_eq_ok.mp h
  cases hp : n.pdata with
  | none =>
    rw [hp] at hn
    cases hn
    exact .put ..
  | some w =>
    rw [hp] at hn
    obtain ⟨y, -, rfl⟩ := map_eq_ok.mp hn
    exact (Kept.freeInstance s w y).trans (.put ..)

theorem freePluginStream_kept (h : s.freePluginStream b = .ok t) : Kept s t := by
  obtain ⟨n, -, hn⟩ := bind_eq_ok.mp h
  cases hp : n.pdata with
  | none =>
    rw [hp] at hn
    cases hn
    exact .refl s
  | some w =>
    rw [hp] at hn
    obtain ⟨y, -, rfl⟩ := map_eq_ok.mp hn
    split
    · exact (Kept.freeInstance s w y).trans (.put ..)
    · exact .refl s

theorem browserDestroyed_kept (s : Streams) (b : Nat) : Kept s (s.browserDestroyed b) := by
  rw [browserDestroyed]
  split
  · split
    · exact .put ..
    · exact .refl s
  · exact .refl s

theorem browserDestroyed_viewerStreams : (s.browserDestroyed b).viewerStreams = s.viewerStreams := by
  rw [browserDestroyed]
  split
  · split <;> rfl
  · rfl

theorem Kept.freeStream (hx : s.viewerStreams v = some x) : Kept s (s.freeStream v x) :=
  .viewer hx rfl fun _ => rfl

/-- g_NPN_DestroyStream of the viewer uses the stream, and frees one of the plugin. -/
theorem npnDestroyed_kept (h : s.npnDestroyed v = .ok t) : Kept s t ∧ ∃ x, s.viewerStreams v = some x ∧
    x.isFreed = false ∧ (x.isPluginStream = true → ∃ u, t.viewerStreams v = some u ∧ u.isFreed = true) := by
  obtain ⟨x, hx, rfl⟩ := map_eq_ok.mp h
  obtain ⟨hx, hf⟩ := viewerStream_eq_ok.mp hx
  cases hp : x.isPluginStream with
  | true =>
    rw [if_pos rfl]
    exact ⟨.freeStream hx, x, hx, hf, fun _ => ⟨_, Function.update_self .., rfl⟩⟩
  | false =>
    rw [if_neg (by simp)]
    exact ⟨.refl s, x, hx, hf, by simp [hp]⟩

theorem destroystreamReturned_kept (h : s.destroystreamReturned b v = .ok t) : Kept s t ∧
    (∃ x, s.viewerStreams v = some x ∧ x.isFreed = false) ∧ ∃ u, t.viewerStreams v = some u ∧ u.isFreed = true := by
  obtain ⟨x, hx, ht⟩ := bind_eq_ok.mp h
  obtain ⟨hx, hf⟩ := viewerStream_eq_ok.mp hx
  have hkept := nppDestroyed_kept ht
  refine ⟨(Kept.freeStream hx).trans hkept, ⟨x, hx, hf⟩, ?_⟩
  obtain ⟨u, hu, -, hfreed⟩ := hkept.grows v _ (Function.update_self ..)
  exact ⟨u, hu, hfreed rfl⟩

theorem newstreamReturned_kept {ok : Bool} (h : s.newstreamReturned k ok = .ok t) : Kept s t ∧
    ∃ x, s.viewerStreams k = some x ∧ x.isFreed = false := by
  obtain ⟨x, hx, ht⟩ := bind_eq_ok.mp h
  obtain ⟨n, -, rfl⟩ := map_eq_ok.mp ht
  obtain ⟨hx, hf⟩ := viewerStream_eq_ok.mp hx
  exact ⟨(Kept.viewer (u := { x with refused := x.refused || !ok }) hx rfl id).trans (.put ..), x, hx, hf⟩

/-- The state in which a call has returned. -/
structure Returned (s t : Streams) (frame : Frame) : Prop where
  stack : s.stack = frame :: t.stack
  grows : Grows s t
  made : Made s → Made t
  awaits : ∀ v, frame.awaits = some v → ∃ x, s.viewerStreams v = some x ∧ x.isFreed = false
  releases : ∀ v, s.releases frame = some v → ∃ u, t.viewerStreams v = some u ∧ u.isFreed = true

theorem Returned.of_kept (hs : s.stack = frame :: stack) (h : Kept { s with stack } t)
    (hawaits : ∀ v, frame.awaits = some v → ∃ x, s.viewerStreams v = some x ∧ x.isFreed = false)
    (hreleases : ∀ v, s.releases frame = some v → ∃ u, t.viewerStreams v = some u ∧ u.isFreed = true) :
    Returned s t frame :=
  ⟨by rw [h.stack]; exact hs, h.grows, h.made, hawaits, hreleases⟩

theorem nppReturns_returned {ok : Bool} (h : s.nppReturns ok = some (.ok t)) : ∃ frame, Returned s t frame := by
  rw [nppReturns] at h
  split at h
  case h_1 k stack hs =>
    obtain ⟨hkept, hx⟩ := newstreamReturned_kept (Option.some.inj h)
    refine ⟨_, .of_kept hs hkept ?_ ?_⟩
    · rintro v ⟨⟩
      exact hx
    · rintro v ⟨⟩
  case h_2 b v stack hs =>
    obtain ⟨hkept, hx, hu⟩ := destroystreamReturned_kept (Option.some.inj h)
    refine ⟨_, .of_kept hs hkept ?_ ?_⟩
    · rintro v ⟨⟩
      exact hx
    · rintro v ⟨⟩
      exact hu
  case h_3 b v stack hs =>
    cases h
    exact ⟨_, .of_kept hs (.refl _) (by simp [Frame.awaits]) (by simp [Streams.releases])⟩
  case h_4 stack hs =>
    cases h
    exact ⟨_, .of_kept hs (.refl _) (by simp [Frame.awaits]) (by simp [Streams.releases])⟩
  case h_5 => cases h

theorem npnReturns_returned {stream : Option Nat} (h : s.npnReturns stream = some (.ok t))
    (ha : s.Allowed (.npnReturns stream)) (hm : Made s) : ∃ frame, Returned s t frame := by
  rw [npnReturns] at h
  split at h
  case h_1 stack hs =>
    cases h
    cases stream with
    | none => exact ⟨_, .of_kept hs (.refl _) (by simp [Frame.awaits]) (by simp [Streams.releases])⟩
    | some k =>
      obtain ⟨hk, -⟩ := ha k rfl
      refine ⟨_, hs, fun v x hx => ?_, fun hm j hj => ?_, by simp [Frame.awaits], by simp [Streams.releases]⟩
      · refine ⟨x, (Function.update_of_ne ?_ ..).trans hx, rfl, id⟩
        rintro rfl
        rw [hm v hk] at hx
        cases hx
      · rcases eq_or_ne j k with rfl | hne
        · have hself := (Function.update_self ..).symm.trans hj
          cases hself
        · exact (Function.update_of_ne hne ..).trans (hm j ((Function.update_of_ne hne ..).symm.trans hj))
  case h_2 v b stack hs =>
    obtain ⟨hkept, x, hx, hf, hu⟩ := npnDestroyed_kept (Option.some.inj h)
    rw [browserDestroyed_viewerStreams] at hx
    refine ⟨_, .of_kept hs ((browserDestroyed_kept _ b).trans hkept) ?_ ?_⟩
    · rintro v ⟨⟩
      exact ⟨x, hx, hf⟩
    · intro v' hv'
      obtain rfl : v = v' := Option.some.inj (awaits_of_releases hv')
      refine hu ?_
      rw [Streams.releases, show s.viewerStreams v = some x from hx, Option.any_some] at hv'
      by_contra hp
      rw [if_neg hp] at hv'
      cases hv'
  case h_3 v b stack hs =>
    cases h
    exact ⟨_, .of_kept hs (.refl _) (by simp [Frame.awaits]) (by simp [Streams.releases])⟩
  case h_4 stack hs =>
    cases h
    exact ⟨_, .of_kept hs (.refl _) (by simp [Frame.awaits]) (by simp [Streams.releases])⟩
  case h_5 => cases h

/-- The state in which a call has begun, or nothing waits that did not before. -/
structure Called (s t : Streams) : Prop where
  stack : ∃ frames, t.stack = frames ++ s.stack
  grows : Grows s t
  made : Made s → Made t

theorem Called.of_kept (h : Kept s t) : Called s t := ⟨⟨[], h.stack⟩, h.grows, h.made⟩

theorem Called.push (h : Kept s t) (frame : Frame) : Called s (t.push frame) :=
  ⟨⟨[frame], congrArg _ h.stack⟩, h.grows, h.made⟩

theorem nppDestroyStream_called (h : s.nppDestroyStream d b = .ok t) : Called s t := by
  obtain ⟨id, -, h⟩ := bind_eq_ok.mp h
  obtain ⟨n, -, h⟩ := bind_eq_ok.mp h
  obtain ⟨stream, -, h⟩ := bind_eq_ok.mp h
  split at h
  · cases h
    exact .push (.put ..) _
  · exact .of_kept ((Kept.put ..).trans (nppDestroyed_kept h))

theorem nppWrite_called (h : s.nppWrite b = .ok t) : Called s t := by
  obtain ⟨id, -, h⟩ := bind_eq_ok.mp h
  obtain ⟨stream, -, rfl⟩ := map_eq_ok.mp h
  cases stream with
  | none => exact .of_kept (.refl s)
  | some v => exact .push (.refl s) _

theorem npnDestroyStream_called (h : s.npnDestroyStream v = .ok t) : Called s t := by
  obtain ⟨id, -, h⟩ := bind_eq_ok.mp h
  obtain ⟨stream, -, h⟩ := bind_eq_ok.mp h
  cases stream with
  | none => exact .of_kept (npnDestroyed_kept h).1
  | some b =>
    obtain ⟨r, hr, rfl⟩ := map_eq_ok.mp h
    exact .push (freePluginStream_kept hr) _

theorem npnWrite_called (h : s.npnWrite v = .ok t) : Called s t := by
  obtain ⟨id, -, h⟩ := bind_eq_ok.mp h
  obtain ⟨stream, -, h⟩ := bind_eq_ok.mp h
  cases stream with
  | none =>
    cases h
    exact .of_kept (.refl s)
  | some b =>
    obtain ⟨n, -, rfl⟩ := map_eq_ok.mp h
    exact .push (.refl s) _

/-- Each step begins calls, or one returns. -/
theorem called_or_returned (h : s.exec d e = some (.ok t)) (ha : s.Allowed e) (hm : Made s) :
    Called s t ∨ ∃ frame, Returned s t frame := by
  cases e with
  | nppNewStream k =>
    cases h
    obtain ⟨-, hk, -⟩ := ha
    refine .inl ⟨⟨[_], rfl⟩, fun v x hx => ?_, fun hm j hj => ?_⟩
    · refine ⟨x, (Function.update_of_ne ?_ ..).trans hx, rfl, id⟩
      rintro rfl
      rw [hm v hk] at hx
      cases hx
    · rcases eq_or_ne j k with rfl | hne
      · have hself := (Function.update_self ..).symm.trans hj
        cases hself
      · exact (Function.update_of_ne hne ..).trans (hm j ((Function.update_of_ne hne ..).symm.trans hj))
  | nppDestroyStream b => exact .inl (nppDestroyStream_called (Option.some.inj h))
  | nppWrite b => exact .inl (nppWrite_called (Option.some.inj h))
  | npnDestroyStream v => exact .inl (npnDestroyStream_called (Option.some.inj h))
  | npnWrite v => exact .inl (npnWrite_called (Option.some.inj h))
  | npp | npnNewStream | npn =>
    cases h
    exact .inl (.push (.refl s) _)
  | nppReturns ok => exact .inr (nppReturns_returned h)
  | npnReturns stream => exact .inr (npnReturns_returned h ha hm)
  | browserFrees b =>
    obtain ⟨n, -, rfl⟩ := map_eq_ok.mp (Option.some.inj h)
    exact .inl (.of_kept (.put ..))
  | idCreate =>
    cases h
    exact .inl (.of_kept ⟨Grows.refl s, id, rfl⟩)

/-! ### Calls that wait for what is gone -/

/-- A call waits with a stream that is gone, or that goes when a call above it returns. -/
def Doomed (v : Nat) (s : Streams) : Prop := ∃ above frame below x, s.stack = above ++ frame :: below ∧
  frame.awaits = some v ∧ s.viewerStreams v = some x ∧
  (x.isFreed = true ∨ ∃ upper ∈ above, s.releases upper = some v)

theorem Doomed.called (h : Doomed v s) (hc : Called s t) : Doomed v t := by
  obtain ⟨above, frame, below, x, hs, hawaits, hx, hgone⟩ := h
  obtain ⟨frames, hstack⟩ := hc.stack
  obtain ⟨u, hu, -, hfreed⟩ := hc.grows v x hx
  refine ⟨frames ++ above, frame, below, u, by rw [hstack, hs, List.append_assoc], hawaits, hu, ?_⟩
  rcases hgone with hf | ⟨upper, hmem, hreleases⟩
  · exact .inl (hfreed hf)
  · exact .inr ⟨upper, List.mem_append_right _ hmem, hc.grows.releases hreleases ⟨x, hx⟩⟩

theorem Doomed.returned (h : Doomed v s) (hr : Returned s t frame) : Doomed v t := by
  obtain ⟨above, waiting, below, x, hs, hawaits, hx, hgone⟩ := h
  have hstack := hr.stack
  rw [hs] at hstack
  obtain ⟨u, hu, -, hfreed⟩ := hr.grows v x hx
  cases above with
  | nil =>
    -- The call that waits would have used the stream.
    obtain ⟨rfl, -⟩ := List.cons.inj hstack
    obtain ⟨x', hx', hf'⟩ := hr.awaits v hawaits
    rw [hx] at hx'
    cases hx'
    rcases hgone with hf | ⟨upper, hmem, -⟩
    · rw [hf] at hf'
      cases hf'
    · cases hmem
  | cons upper above =>
    obtain ⟨rfl, htail⟩ := List.cons.inj hstack
    refine ⟨above, waiting, below, u, htail.symm, hawaits, hu, ?_⟩
    rcases hgone with hf | ⟨upper', hmem, hreleases⟩
    · exact .inl (hfreed hf)
    · rcases List.mem_cons.mp hmem with rfl | hmem
      · obtain ⟨u', hu', hf'⟩ := hr.releases v hreleases
        rw [hu] at hu'
        cases hu'
        exact .inl hf'
      · exact .inr ⟨upper', hmem, hr.grows.releases hreleases ⟨x, hx⟩⟩

/-- A call that waits can return. -/
theorem exists_return (hm : Made s) (hs : s.stack = frame :: stack) : ∃ e r, s.Allowed e ∧ s.exec d e = some r ∧
    ∀ t, r = .ok t → ∃ frame, Returned s t frame := by
  cases hnpp : s.exec d (.nppReturns true) with
  | some r =>
    refine ⟨.nppReturns true, r, trivial, hnpp, ?_⟩
    rintro t rfl
    exact nppReturns_returned hnpp
  | none =>
    have ha : s.Allowed (.npnReturns none) := by
      rintro k ⟨⟩
    cases hnpn : s.exec d (.npnReturns none) with
    | some r =>
      refine ⟨.npnReturns none, r, ha, hnpn, ?_⟩
      rintro t rfl
      exact npnReturns_returned hnpn ha hm
    | none =>
      rw [exec, nppReturns, hs] at hnpp
      rw [exec, npnReturns, hs] at hnpn
      cases frame <;> simp at hnpp hnpn

theorem doomed_leads (h : Doomed v s) (hm : Made s) : ∃ f, (streams d).Leads (.ok s) (.error f) := by
  induction hlen : s.stack.length using Nat.strongRecOn generalizing s with
  | ind len ih =>
    have hcons : ∃ frame stack, s.stack = frame :: stack := by
      obtain ⟨above, frame, below, -, hs, -⟩ := h
      cases above with
      | nil => exact ⟨_, _, hs⟩
      | cons upper above => exact ⟨_, _, hs⟩
    obtain ⟨frame, stack, hs⟩ := hcons
    obtain ⟨e, r, ha, he, hreturned⟩ := exists_return (d := d) hm hs
    have hstep : (streams d).step (.ok s) e r := ⟨s, rfl, ha, he⟩
    cases r with
    | error f => exact ⟨f, .of_step hstep⟩
    | ok t =>
      obtain ⟨frame', hr⟩ := hreturned t rfl
      have hshorter : t.stack.length < len := by
        rw [← hlen, hr.stack]
        exact Nat.lt_succ_self _
      obtain ⟨f, hf⟩ := ih _ hshorter (h.returned hr) (hr.made hm) rfl
      exact ⟨f, Relation.ReflTransGen.head ⟨e, hstep⟩ hf⟩

theorem doomed_stays (h : Doomed v s) (hm : Made s) {r : Result} (hl : (streams d).Leads (.ok s) r) :
    ∀ t, r = .ok t → Doomed v t := by
  have hinv := hl.invariant (fun r => ∀ t, r = .ok t → Doomed v t ∧ Made t) ?_ (by rintro t ⟨⟩; exact ⟨h, hm⟩)
  · exact fun t ht => (hinv t ht).1
  · rintro _ e r hs ⟨s, rfl, ha, he⟩ t rfl
    obtain ⟨hd, hm⟩ := hs s rfl
    rcases called_or_returned he ha hm with hc | ⟨frame, hr⟩
    · exact ⟨hd.called hc, hc.made hm⟩
    · exact ⟨hd.returned hr, hr.made hm⟩

theorem Sound.made (h : Sound d s) : Made s := fun _ hk => (h.absent hk).2

theorem mem_split {frame : Frame} (h : frame ∈ s.stack) : ∃ above below, s.stack = above ++ frame :: below :=
  List.append_of_mem h

/-- What is destroyed while a call waits for it dooms that call. -/
theorem Sound.doomed {r : Result} (h : Sound d s) (ha : s.Allowed e) (hc : ¬ s.Clear d e) (he : s.exec d e = some r) :
    ∃ t v, r = .ok t ∧ Doomed v t ∧ Made t := by
  cases e with
  | nppDestroyStream b =>
    obtain ⟨hd, hfree⟩ : d = true ∧ ¬ s.Free b := by simpa [Clear] using hc
    subst hd
    obtain ⟨frame, hmem, hawaits⟩ : ∃ frame ∈ s.stack, frame.awaits = some b := by
      simpa [Free] using hfree
    obtain ⟨n, y, x, hn, hy, hx, hagree, hown, hnf, hyf, hxf, -⟩ := h.inUse ha.2
    obtain ⟨hsend, hreceive⟩ := h.toViewer hn hy hx hagree hnf hyf
    have hput := hreceive (s.putBrowserStream b { n with phase := .closing }) rfl rfl
    have hr : s.nppDestroyStream true b = .ok ((s.putBrowserStream b { n with phase := .closing }).push
        (.nppDestroyStream b b)) := by
      simp [Streams.nppDestroyStream, hsend, browserStream_ok hn hnf, hput, Except.bind]
    rw [exec, hr] at he
    cases he
    obtain ⟨above, below, hs⟩ := mem_split hmem
    refine ⟨_, b, rfl, ⟨.nppDestroyStream b b :: above, frame, below, x, ?_, hawaits, hx, .inr ⟨_, List.mem_cons_self, rfl⟩⟩,
      (Called.push (.put s b _) _).made h.made⟩
    exact congrArg _ hs
  | npnDestroyStream v =>
    obtain ⟨hplugin, hfree⟩ : (s.viewerStreams v).any (·.isPluginStream) = true ∧ ¬ s.Free v := by simpa [Clear] using hc
    obtain ⟨frame, hmem, hawaits⟩ : ∃ frame ∈ s.stack, frame.awaits = some v := by
      simpa [Free] using hfree
    obtain ⟨n, y, x, hn, hy, hx, hagree, hxf, hsend, hthere, hgone⟩ := h.toWrapper ha.2
    have hxplugin : x.isPluginStream = true := by
      rw [hx] at hplugin
      exact hplugin
    obtain ⟨above, below, hs⟩ := mem_split hmem
    cases hyf : y.isFreed with
    | true =>
      -- The wrapper does not know the stream any more, and the viewer frees it at once.
      have hr : s.npnDestroyStream v = .ok (s.freeStream v x) := by
        simp [Streams.npnDestroyStream, hsend, hgone hyf, Streams.npnDestroyed, viewerStream_ok hx hxf, hxplugin, Except.bind,
          Except.map]
      rw [exec, hr] at he
      cases he
      exact ⟨_, v, rfl, ⟨above, frame, below, _, hs, hawaits, Function.update_self .., .inl rfl⟩,
        (Kept.freeStream hx).made h.made⟩
    | false =>
      obtain ⟨hnf, hreceive⟩ := hthere hyf
      have hpdata : n.pdata = some v := by rw [hagree.pdata, hyf]; rfl
      have hyplugin : y.isPluginStream = true := by rw [hagree.isPlugin, ← hagree.viewerIsPlugin, hxplugin]
      have hr : s.npnDestroyStream v = .ok (((s.freeInstance v y).putBrowserStream v
          { n with pdata := none, phase := .closing }).push (.npnDestroyStream v v)) := by
        simp [Streams.npnDestroyStream, hsend, hreceive, freePluginStream, browserStream_ok hn hnf, hpdata,
          streamInstance_ok hy hyf, hyplugin, Except.bind, Except.map]
      rw [exec, hr] at he
      cases he
      refine ⟨_, v, rfl, ⟨.npnDestroyStream v v :: above, frame, below, x, ?_, hawaits, hx,
        .inr ⟨_, List.mem_cons_self, ?_⟩⟩, ?_⟩
      · exact congrArg _ hs
      · show (if (s.viewerStreams v).any (·.isPluginStream) then some v else none) = some v
        rw [hplugin]
        rfl
      · exact (Called.push ((Kept.freeInstance s v y).trans (.put ..)) _).made h.made
  | _ => exact absurd trivial hc

end Streams

/-- Destroying a stream that a waiting call still uses: that call never returns in a state where all is well, whatever
    else happens, and when the calls return it is a use of what was freed. -/
theorem unclear_streams_fault {d : Bool} {s : Streams} {e : Streams.Event} {r : Streams.Result}
    (h : (clearStreams d).Reachable (.ok s)) (ha : s.Allowed e) (hc : ¬ s.Clear d e) (he : s.exec d e = some r) :
    (∃ f, (streams d).Leads r (.error f)) ∧
      ∃ v, ∀ t, (streams d).Leads r (.ok t) → ∃ frame ∈ t.stack, frame.awaits = some v := by
  obtain ⟨_, heq, hs⟩ := Streams.clearStreams_sound h
  cases heq
  obtain ⟨t, v, rfl, hd, hm⟩ := hs.doomed ha hc he
  refine ⟨Streams.doomed_leads hd hm, v, fun u hu => ?_⟩
  obtain ⟨above, frame, below, -, hstack, hawaits, -⟩ := Streams.doomed_stays hd hm hu u rfl
  exact ⟨frame, by rw [hstack]; exact List.mem_append_right _ List.mem_cons_self, hawaits⟩

/-- The browser has NPP_DestroyStream called from inside NPN_DestroyStream. -/
theorem Streams.unclear_nested_destroy : ∃ r f, (streams true).Reachable r ∧ (streams true).Leads r (.error f) := by
  have h₀ : (clearStreams true).Reachable (.ok started) := .init rfl
  have h₁ := h₀.next (.nppNewStream 0) ⟨fun _ _ => trivial, _, rfl, ⟨rfl, rfl, by decide, rfl, rfl⟩, rfl⟩
  have h₂ := h₁.next (.nppReturns true) ⟨fun _ _ => trivial, _, rfl, trivial, rfl⟩
  have h₃ := h₂.next .npp ⟨fun _ _ => trivial, _, rfl, rfl, rfl⟩
  have h₄ := h₃.next (.npnDestroyStream 0) ⟨fun _ hv => by cases hv; rintro ⟨⟩, _, rfl, ⟨rfl, _, rfl, rfl, rfl⟩, rfl⟩
  have hopened : ∃ n : BrowserStream, some (BrowserStream.mk (some 0) false .opened false) = some n ∧ n.ofPlugin = false ∧
      (n.phase = .opening ∨ n.phase = .opened) := ⟨_, rfl, rfl, .inr rfl⟩
  have hfaults := unclear_streams_fault (e := .nppDestroyStream 0) h₄ ⟨rfl, hopened⟩
    (fun hc => hc rfl _ List.mem_cons_self rfl) rfl
  obtain ⟨⟨f, hf⟩, -⟩ := hfaults
  exact ⟨_, f, h₄.of_restrict.next (.nppDestroyStream 0) ⟨_, rfl, ⟨rfl, hopened⟩, rfl⟩, hf⟩

end NSPluginWrapper
