import NSPluginWrapper.Theorems.InstanceLife

/-! The timers of the instances: when their callbacks run, how often, and under which ids. -/

namespace NSPluginWrapper
open Lib

namespace Instances
variable {s t u : Instances} {i k : Nat} {p q : PluginInstance}

/-! ### What has happened to timers -/

/-- A call of NPN_ScheduleTimer, with the record and the source that it made. -/
structure Scheduled where
  number : Nat
  plugin : Nat
  timerId : UInt32
  repeats : Bool
  sourceId : Nat
  deriving Repr, DecidableEq

def Scheduled.source (a : Scheduled) : Source := ⟨a.sourceId, a.plugin, .timer a.timerId⟩

/-- The timers that were scheduled, those whose callback was called, and those that were unscheduled by their id. -/
structure Journal where
  scheduled : List Scheduled
  called : List Nat
  unscheduled : List Nat

/-- The callback that a step calls. -/
def calledBy (s t : Instances) : List Nat :=
  match t.stack with
  | .timer _ _ number :: stack => if stack = s.stack then [number] else []
  | _ => []

def scheduledBy (s : Instances) : Event → List Scheduled
  | .npnScheduleTimer i repeats =>
    ((s.plugins i).map fun p => ⟨s.lastTimer + 1, i, p.nextTimerId, repeats, s.lastSource + 1⟩).toList
  | _ => []

def Journal.unscheduledBy (j : Journal) : Event → List Nat
  | .npnUnscheduleTimer i timerId => (j.scheduled.filter fun a => a.plugin = i ∧ a.timerId = timerId).map (·.number)
  | _ => []

def Journal.add (j : Journal) (s : Instances) (e : Event) (t : Instances) : Journal where
  scheduled := s.scheduledBy e ++ j.scheduled
  called := s.calledBy t ++ j.called
  unscheduled := j.unscheduledBy e ++ j.unscheduled

/-! ### What is known of a timer -/

def Frame.timer? : Frame → Option (Source × UInt32 × Nat)
  | .timer source timerId number => some (source, timerId, number)
  | _ => none

/-- The callbacks of timers that run. -/
def running (s : Instances) : List (Source × UInt32 × Nat) := s.stack.filterMap Frame.timer?

/-- The sources that wait, and those whose callback runs. -/
def attached (s : Instances) : List Source := s.sources ++ s.running.map (·.1)

/-- A source is of a timer that was scheduled, and no two of an instance have the same id. Where the table has a timer
    under the id of a source, it is the timer of that source, and has not been unscheduled. A timer that does not
    repeat has no source that waits once it was called. -/
structure Timed (s : Instances) (j : Journal) : Prop where
  bare : ∀ i p, s.plugins i = some p → p.npobjects.getD [] = []
  numbers : ∀ a ∈ j.scheduled, a.number ≤ s.lastTimer ∧ a.sourceId ≤ s.lastSource ∧ a.sourceId ≠ 0
  distinct : ∀ a ∈ j.scheduled, ∀ b ∈ j.scheduled, a.number = b.number ∨ a.sourceId = b.sourceId → a = b
  attached : s.attached.Nodup
  framed : ∀ x ∈ s.running, x.1.callback = .timer x.2.1
  known : ∀ source ∈ s.attached, ∃ a ∈ j.scheduled, a.source = source
  alone : ∀ a ∈ j.scheduled, ∀ b ∈ j.scheduled, a.source ∈ s.attached → b.source ∈ s.attached → a.plugin = b.plugin →
    a.timerId = b.timerId → a = b
  tabled : ∀ i timerId timer, s.timer? i timerId = some timer → ∃ a ∈ j.scheduled, a.number = timer.number ∧ a.plugin = i ∧
    a.timerId = timerId ∧ a.repeats = timer.repeats ∧ (timer.sourceId = 0 ∨ timer.sourceId = a.sourceId)
  own : ∀ a ∈ j.scheduled, a.source ∈ s.attached → ∀ timer, s.timer? a.plugin a.timerId = some timer →
    timer.sourceId = a.sourceId
  calls : ∀ n ∈ j.called, n ≤ s.lastTimer
  once : ∀ a ∈ j.scheduled, a.repeats = false → j.called.count a.number ≤ 1
  spent : ∀ a ∈ j.scheduled, a.repeats = false → a.number ∈ j.called → a.source ∉ s.sources
  taken : ∀ n ∈ j.unscheduled, n ≤ s.lastTimer
  gone : ∀ i timerId timer, s.timer? i timerId = some timer → timer.number ∉ j.unscheduled

/-! ### Steps that make no timer and call none -/

/-- Sources, callbacks and timers go. -/
structure Fewer (s t : Instances) : Prop where
  lastTimer : t.lastTimer = s.lastTimer
  lastSource : t.lastSource = s.lastSource
  sources : t.sources.Sublist s.sources
  running : t.running.Sublist s.running
  timers : ∀ i timerId timer, t.timer? i timerId = some timer → s.timer? i timerId = some timer
  bare : (∀ i p, s.plugins i = some p → p.npobjects.getD [] = []) → ∀ i p, t.plugins i = some p → p.npobjects.getD [] = []

namespace Fewer

theorem refl (s : Instances) : Fewer s s := ⟨rfl, rfl, .refl _, .refl _, fun _ _ _ h => h, fun h => h⟩

theorem trans (h : Fewer s t) (h' : Fewer t u) : Fewer s u where
  lastTimer := h'.lastTimer.trans h.lastTimer
  lastSource := h'.lastSource.trans h.lastSource
  sources := h'.sources.trans h.sources
  running := h'.running.trans h.running
  timers _ _ _ ht := h.timers _ _ _ (h'.timers _ _ _ ht)
  bare hs := h'.bare (h.bare hs)

/-- What the timers do not see changes. -/
theorem of_eq (hlt : t.lastTimer = s.lastTimer) (hls : t.lastSource = s.lastSource) (hsrc : t.sources.Sublist s.sources)
    (hrun : t.running.Sublist s.running) (hp : t.plugins = s.plugins) : Fewer s t where
  lastTimer := hlt
  lastSource := hls
  sources := hsrc
  running := hrun
  timers _ _ _ ht := by rwa [timer?, ← hp]
  bare hs := hp ▸ hs

theorem put (hp : s.plugins i = some p)
    (ht : ∀ timerId timer, (q.timers.bind fun timers => timers.lookup timerId) = some timer →
      (p.timers.bind fun timers => timers.lookup timerId) = some timer)
    (hn : p.npobjects.getD [] = [] → q.npobjects.getD [] = []) : Fewer s (s.put i q) where
  lastTimer := rfl
  lastSource := rfl
  sources := .refl _
  running := .refl _
  timers := by
    intro j timerId timer htimer
    rcases eq_or_ne j i with rfl | hji
    · rw [timer?_of_some (Function.update_self ..)] at htimer
      rw [timer?_of_some hp]
      exact ht timerId timer htimer
    · rwa [timer?, put_plugins, Function.update_of_ne hji] at htimer
  bare := by
    intro hs j p' hp'
    rcases eq_or_ne j i with rfl | hji
    · rw [put_plugins, Function.update_self] at hp'
      cases hp'
      exact hn (hs j p hp)
    · rw [put_plugins, Function.update_of_ne hji] at hp'
      exact hs j p' hp'

theorem ref (h : s.ref i = .ok t) : Fewer s t := by
  obtain ⟨p, ha, rfl⟩ := mapped_ok h
  exact .put (access_ok ha).1 (fun _ _ ht => ht) id

theorem unref (h : s.unref i = .ok t) : Fewer s t := by
  obtain ⟨p, ha, rfl⟩ := mapped_ok h
  obtain ⟨hp, -⟩ := access_ok ha
  split
  · unfold finalize
    have hsub : (s.sources.filter fun source => ¬(source.plugin = i ∧ source.id ∈ p.timerSources)).Sublist s.sources :=
      List.filter_sublist
    generalize s.sources.filter _ = sources at hsub ⊢
    refine Fewer.trans (t := { s with sources }) (.of_eq rfl rfl hsub (.refl _) rfl) ?_
    exact .put hp (by simp) (by simp)
  · exact .put hp (fun _ _ ht => ht) id

theorem timerFree {timer : Timer} (h : s.timerFree timer = .ok t) : Fewer s t := by
  unfold Instances.timerFree sourceRemove at h
  split at h
  · cases h
    exact .refl s
  · split at h
    · refine Fewer.trans ?_ (unref h)
      exact .of_eq rfl rfl List.erase_sublist (.refl _) rfl
    · cases h
      exact .of_eq rfl rfl (.refl _) (.refl _) rfl

theorem nppDestroyed (h : s.nppDestroyed i = .ok t) : Fewer s t := by
  obtain ⟨p, hp, -, h⟩ := nppDestroyed_ok h
  refine Fewer.trans ?_ (unref h)
  unfold invalidated
  generalize (if p.instanceId = 0 then s.ids else s.ids.erase p.instanceId) = ids
  refine Fewer.trans (t := { s with ids }) (.of_eq rfl rfl (.refl _) (.refl _) rfl) ?_
  exact .put hp (fun _ _ ht => ht) id

theorem attached (h : Fewer s t) : t.attached.Sublist s.attached := h.sources.append (h.running.map _)

end Fewer

variable {j : Journal}

theorem Timed.fewer (hs : s.Timed j) (h : Fewer s t) : t.Timed j where
  bare := h.bare hs.bare
  numbers := by
    rw [h.lastTimer, h.lastSource]
    exact hs.numbers
  distinct := hs.distinct
  attached := hs.attached.sublist h.attached
  framed x hx := hs.framed x (h.running.subset hx)
  known source hsource := hs.known source (h.attached.subset hsource)
  alone a ha b hb hsa hsb := hs.alone a ha b hb (h.attached.subset hsa) (h.attached.subset hsb)
  tabled i timerId timer ht := hs.tabled i timerId timer (h.timers _ _ _ ht)
  own a ha hsa timer ht := hs.own a ha (h.attached.subset hsa) timer (h.timers _ _ _ ht)
  calls := by
    rw [h.lastTimer]
    exact hs.calls
  once := hs.once
  spent a ha hr hc hmem := hs.spent a ha hr hc (h.sources.subset hmem)
  taken := by
    rw [h.lastTimer]
    exact hs.taken
  gone i timerId timer ht := hs.gone i timerId timer (h.timers _ _ _ ht)

/-! ### NPN_UnscheduleTimer -/

theorem npnUnscheduleTimer_fewer {timerId : UInt32} (h : s.npnUnscheduleTimer i timerId = .ok t) :
    Fewer s t ∧ t.timer? i timerId = none := by
  obtain ⟨p, ha, h⟩ := bound_ok h
  obtain ⟨hp, -⟩ := access_ok ha
  split at h
  · rename_i hnone
    cases h
    exact ⟨.refl s, hnone⟩
  · obtain ⟨s₁, hs₁, h⟩ := bound_ok h
    obtain ⟨-, -, rfl⟩ := mapped_ok h
    have hput : Fewer s (s.put i { p with timers := p.timers.map (AList.erase timerId) }) := by
      refine .put hp (fun id timer ht => ?_) id
      cases htimers : p.timers with
      | none => simp [htimers] at ht
      | some timers =>
        rw [htimers, Option.map_some, Option.bind_some, Table.lookup_erase] at ht
        split at ht
        · cases ht
        · exact ht
    refine ⟨hput.trans (.timerFree hs₁), Option.eq_none_iff_forall_ne_some.mpr fun timer ht => ?_⟩
    have hrest := (Fewer.timerFree hs₁).timers _ _ _ ht
    rw [timer?_of_some (Function.update_self ..)] at hrest
    cases htimers : p.timers with
    | none => simp [htimers] at hrest
    | some timers =>
      rw [htimers, Option.map_some, Option.bind_some, AList.lookup_erase] at hrest
      cases hrest

/-- The timers that had the id are no longer in the table. -/
theorem Timed.unscheduled (hs : s.Timed j) {timerId : UInt32} (hnone : s.timer? i timerId = none) :
    s.Timed { j with unscheduled := j.unscheduledBy (.npnUnscheduleTimer i timerId) ++ j.unscheduled } where
  bare := hs.bare
  numbers := hs.numbers
  distinct := hs.distinct
  attached := hs.attached
  framed := hs.framed
  known := hs.known
  alone := hs.alone
  tabled := hs.tabled
  own := hs.own
  calls := hs.calls
  once := hs.once
  spent := hs.spent
  taken := by
    intro n hn
    rcases List.mem_append.mp hn with hn | hn
    · obtain ⟨a, ha, rfl⟩ := List.mem_map.mp hn
      exact (hs.numbers a (List.mem_of_mem_filter ha)).1
    · exact hs.taken n hn
  gone := by
    intro k id timer ht hn
    rcases List.mem_append.mp hn with hn | hn
    · obtain ⟨b, hb, hbn⟩ := List.mem_map.mp hn
      obtain ⟨hb, hat⟩ := List.mem_filter.mp hb
      obtain ⟨hplugin, hid⟩ := of_decide_eq_true hat
      obtain ⟨a, ha, han, rfl, rfl, -⟩ := hs.tabled k id timer ht
      obtain rfl := hs.distinct a ha b hb (.inl (han.trans hbn.symm))
      rw [hplugin, hid, hnone] at ht
      cases ht
    · exact hs.gone k id timer ht hn

/-! ### NPN_ScheduleTimer -/

/-- g_source_remove() takes the source of a timer away. -/
theorem Timed.timerFree (hs : s.Timed j) {b : Scheduled} (hb : b ∈ j.scheduled) {timer : Timer}
    (htimer : timer.sourceId = b.sourceId) (hsources : t.sources = s.sources) (h : t.timerFree timer = .ok u) :
    b.source ∉ u.sources := by
  intro hmem
  have hold : b.source ∈ s.sources := hsources ▸ (Fewer.timerFree h).sources.subset hmem
  unfold Instances.timerFree sourceRemove at h
  rw [htimer, if_neg (hs.numbers b hb).2.2, hsources] at h
  cases hfind : s.sources.find? (·.id = b.sourceId) with
  | none => exact absurd rfl (of_decide_eq_false (Bool.eq_false_iff.mpr (List.find?_eq_none.mp hfind _ hold)))
  | some source =>
    rw [hfind] at h
    obtain ⟨c, hc, rfl⟩ := hs.known source (List.mem_append_left _ (List.mem_of_find?_eq_some hfind))
    have hid : c.sourceId = b.sourceId := of_decide_eq_true (List.find?_some (p := fun x : Source => decide (x.id = b.sourceId)) hfind)
    obtain rfl := hs.distinct c hc b hb (.inr hid)
    have hrest := (Fewer.unref h).sources.subset hmem
    exact (List.Nodup.of_append_left hs.attached).not_mem_erase hrest

/-- A timer comes, and none of its instance has its id. -/
theorem Timed.schedule (hs : s.Timed j) {a : Scheduled} (hnumber : a.number = s.lastTimer + 1)
    (hsource : a.sourceId = s.lastSource + 1) (hlt : t.lastTimer = s.lastTimer + 1) (hls : t.lastSource = s.lastSource + 1)
    {sources : List Source} (hsources : t.sources = a.source :: sources) (hsub : sources.Sublist s.sources)
    (hrun : t.running.Sublist s.running)
    (hfree : ∀ b ∈ j.scheduled, b.source ∈ sources ∨ b.source ∈ s.running.map (·.1) → b.plugin = a.plugin → b.timerId ≠ a.timerId)
    (htimers : ∀ k id timer, t.timer? k id = some timer →
      k = a.plugin ∧ id = a.timerId ∧ timer = ⟨a.number, a.repeats, a.sourceId⟩ ∨
        (k = a.plugin → id ≠ a.timerId) ∧ s.timer? k id = some timer)
    (hbare : ∀ i p, t.plugins i = some p → p.npobjects.getD [] = []) :
    t.Timed { j with scheduled := a :: j.scheduled } := by
  have hne (b : Scheduled) (hb : b ∈ j.scheduled) : b.number ≠ a.number ∧ b.sourceId ≠ a.sourceId := by
    obtain ⟨hle, hle', -⟩ := hs.numbers b hb
    omega
  have hrest : (sources ++ t.running.map (·.1)).Sublist s.attached := hsub.append (hrun.map _)
  have hattached : t.attached = a.source :: (sources ++ t.running.map (·.1)) := by
    rw [Instances.attached, hsources, List.cons_append]
  -- What was attached has another id.
  have hold (b : Scheduled) (hb : b ∈ j.scheduled) (hmem : b.source ∈ t.attached) :
      b.source ∈ s.attached ∧ (b.plugin = a.plugin → b.timerId ≠ a.timerId) := by
    rw [hattached] at hmem
    rcases List.mem_cons.mp hmem with heq | hmem
    · exact absurd (congrArg Source.id heq) (hne b hb).2
    · refine ⟨hrest.subset hmem, hfree b hb ?_⟩
      exact (List.mem_append.mp hmem).imp_right fun hmem => (hrun.map _).subset hmem
  refine ⟨hbare, ?_, ?_, ?_, fun x hx => hs.framed x (hrun.subset hx), ?_, ?_, ?_, ?_, ?_, ?_, ?_, ?_, ?_⟩
  · intro b hb
    rw [hlt, hls]
    rcases List.mem_cons.mp hb with rfl | hb
    · omega
    · obtain ⟨hle, hle', hz⟩ := hs.numbers b hb
      omega
  · intro b hb c hc heq
    rcases List.mem_cons.mp hb with rfl | hb' <;> rcases List.mem_cons.mp hc with rfl | hc'
    · rfl
    · have := hne c hc'
      omega
    · have := hne b hb'
      omega
    · exact hs.distinct b hb' c hc' heq
  · rw [hattached]
    refine List.nodup_cons.mpr ⟨fun hmem => ?_, hs.attached.sublist hrest⟩
    obtain ⟨b, hb, heq⟩ := hs.known _ (hrest.subset hmem)
    exact (hne b hb).2 (congrArg Source.id heq)
  · intro source hmem
    rw [hattached] at hmem
    rcases List.mem_cons.mp hmem with rfl | hmem
    · exact ⟨a, List.mem_cons_self .., rfl⟩
    · obtain ⟨b, hb, heq⟩ := hs.known _ (hrest.subset hmem)
      exact ⟨b, List.mem_cons_of_mem _ hb, heq⟩
  · intro b hb c hc hsb hsc hplugin hid
    rcases List.mem_cons.mp hb with rfl | hb' <;> rcases List.mem_cons.mp hc with rfl | hc'
    · rfl
    · exact absurd hid.symm ((hold c hc' hsc).2 hplugin.symm)
    · exact absurd hid ((hold b hb' hsb).2 hplugin)
    · exact hs.alone b hb' c hc' (hold b hb' hsb).1 (hold c hc' hsc).1 hplugin hid
  · intro k id timer ht
    rcases htimers k id timer ht with ⟨rfl, rfl, rfl⟩ | ⟨-, ht⟩
    · exact ⟨a, List.mem_cons_self .., rfl, rfl, rfl, rfl, .inr rfl⟩
    · obtain ⟨b, hb, hrest⟩ := hs.tabled k id timer ht
      exact ⟨b, List.mem_cons_of_mem _ hb, hrest⟩
  · intro b hb hsb timer ht
    rcases List.mem_cons.mp hb with rfl | hb
    · rcases htimers _ _ timer ht with ⟨-, -, rfl⟩ | ⟨hno, -⟩
      · rfl
      · exact absurd rfl (hno rfl)
    · obtain ⟨hsb, hother⟩ := hold b hb hsb
      rcases htimers _ _ timer ht with ⟨hplugin, hid, -⟩ | ⟨-, ht⟩
      · exact absurd hid (hother hplugin)
      · exact hs.own b hb hsb timer ht
  · intro n hn
    rw [hlt]
    exact Nat.le_succ_of_le (hs.calls n hn)
  · intro b hb hr
    rcases List.mem_cons.mp hb with rfl | hb
    · have hnew : b.number ∉ j.called := by
        intro hn
        have := hs.calls _ hn
        omega
      rw [List.count_eq_zero.mpr hnew]
      exact Nat.zero_le 1
    · exact hs.once b hb hr
  · intro b hb hr hc hmem
    rw [hsources] at hmem
    rcases List.mem_cons.mp hb with rfl | hb
    · have := hs.calls _ hc
      omega
    · rcases List.mem_cons.mp hmem with heq | hmem
      · exact (hne b hb).2 (congrArg Source.id heq)
      · exact hs.spent b hb hr hc (hsub.subset hmem)
  · intro n hn
    rw [hlt]
    exact Nat.le_succ_of_le (hs.taken n hn)
  · intro k id timer ht hn
    rcases htimers k id timer ht with ⟨-, -, rfl⟩ | ⟨-, ht⟩
    · have := hs.taken _ hn
      dsimp only at this
      omega
    · exact hs.gone k id timer ht hn

/-- A source that waits under the id of the next timer is of the timer in the table, which goes. -/
def Fresh (s : Instances) : Event → Prop
  | .npnScheduleTimer i _ => ∀ p, s.plugins i = some p → ∀ source ∈ s.sources, source.plugin = i →
      source.callback = .timer p.nextTimerId → s.timer? i p.nextTimerId ≠ none
  | _ => True

/-- No callback of a timer under this id runs. -/
theorem Timed.idle (hs : s.Timed j) (hsound : s.Sound) {timerId : UInt32} (hidle : s.Idle i timerId) {b : Scheduled}
    (hmem : b.source ∈ s.running.map (·.1)) (hplugin : b.plugin = i) : b.timerId ≠ timerId := by
  rintro rfl
  obtain ⟨⟨source, timerId, number⟩, hx, heq⟩ := List.mem_map.mp hmem
  obtain ⟨frame, hframe, hsome⟩ := List.mem_filterMap.mp hx
  cases frame with
  | timer source' timerId' number' =>
    cases hsome
    dsimp only at heq
    have hcallback := hs.framed _ hx
    rw [heq] at hcallback hframe
    have hid : b.timerId = timerId := Callback.timer.inj hcallback
    rcases hidle with hnone | ⟨hquiet, -⟩
    · obtain ⟨timer, ht, -⟩ := hsound.running _ _ _ hframe
      rw [← hid] at ht
      rw [← hplugin, show s.timer? b.plugin b.timerId = some timer from ht] at hnone
      cases hnone
    · exact hquiet _ number (hid ▸ hframe) hplugin
  | _ => cases hsome

theorem Timed.npnScheduleTimer (hs : s.Timed j) (hsound : s.Sound) {repeats : Bool}
    (hidle : ∀ p, s.plugins i = some p → s.Idle i p.nextTimerId) (hfresh : s.Fresh (.npnScheduleTimer i repeats))
    (h : s.npnScheduleTimer i repeats = .ok t) :
    t.Timed { j with scheduled := s.scheduledBy (.npnScheduleTimer i repeats) ++ j.scheduled } := by
  obtain ⟨p, ha, h⟩ := bound_ok h
  obtain ⟨hp, -⟩ := access_ok ha
  obtain ⟨s₂, hs₂, h⟩ := bound_ok h
  obtain ⟨s₃, hs₃, rfl⟩ := mapped_ok h
  set timer : Timer := ⟨s.lastTimer + 1, repeats, s.lastSource + 1⟩ with htimer
  set q : PluginInstance :=
    { p with nextTimerId := p.nextTimerId + 1, timers := p.timers.map (AList.insert p.nextTimerId timer) } with hq
  set s₁ : Instances := { s with lastSource := s.lastSource + 1, lastTimer := s.lastTimer + 1 }.put i q with hs₁
  have hfree : Fewer s₁ s₂ := by
    cases hold : s.timer? i p.nextTimerId with
    | none =>
      rw [hold] at hs₂
      have heq : s₁ = s₂ := Except.ok.inj hs₂
      rw [← heq]
      exact .refl s₁
    | some old =>
      rw [hold] at hs₂
      exact .timerFree hs₂
  have hfewer : Fewer s₁ s₃ := hfree.trans (.ref hs₃)
  have hscheduled : s.scheduledBy (.npnScheduleTimer i repeats) = [⟨s.lastTimer + 1, i, p.nextTimerId, repeats, s.lastSource + 1⟩] := by
    rw [scheduledBy, hp]
    rfl
  rw [hscheduled]
  refine hs.schedule rfl rfl hfewer.lastTimer hfewer.lastSource rfl hfewer.sources hfewer.running ?_ ?_ ?_
  · intro b hb hmem hplugin
    rcases hmem with hmem | hmem
    · intro hid
      have hwait : b.source ∈ s.sources := hfewer.sources.subset hmem
      have hsome := hfresh p hp b.source hwait hplugin (congrArg Callback.timer hid)
      obtain ⟨old, hold⟩ := Option.ne_none_iff_exists'.mp hsome
      rw [hold, Option.elim_some] at hs₂
      have hown := hs.own b hb (List.mem_append_left _ hwait) old (by rw [hplugin, hid]; exact hold)
      exact hs.timerFree (t := s₁) hb hown rfl hs₂ ((Fewer.ref hs₃).sources.subset hmem)
    · exact hs.idle hsound (hidle p hp) hmem hplugin
  · intro k id x hx
    have hx := hfewer.timers k id x hx
    rcases eq_or_ne k i with rfl | hki
    · rw [timer?_of_some (Function.update_self ..)] at hx
      rw [timer?_of_some hp]
      cases htimers : p.timers with
      | none => simp [hq, htimers] at hx
      | some timers =>
        rw [hq, htimers, Option.map_some, Option.bind_some, Table.lookup_insert] at hx
        split at hx
        · rename_i hid
          cases hx
          exact .inl ⟨rfl, hid, rfl⟩
        · rename_i hid
          exact .inr ⟨fun _ => hid, hx⟩
    · rw [timer?, hs₁, put_plugins, Function.update_of_ne hki] at hx
      exact .inr ⟨fun h => absurd h hki, hx⟩
  · refine hfewer.bare ?_
    intro k p' hp'
    rcases eq_or_ne k i with rfl | hki
    · rw [hs₁, put_plugins, Function.update_self] at hp'
      cases hp'
      exact hs.bare k p hp
    · rw [hs₁, put_plugins, Function.update_of_ne hki] at hp'
      exact hs.bare k p' hp'

/-! ### The main loop -/

theorem calledBy_of_length (h : t.stack.length ≤ s.stack.length) : s.calledBy t = [] := by
  rw [calledBy]
  split
  · rename_i stack hst
    rw [hst, List.length_cons] at h
    rw [if_neg]
    rintro rfl
    omega
  · rfl

/-- A source goes, or the callback of its timer is called. -/
theorem dispatch_ok {source : Source} (h : s.dispatch source = .ok t) :
    Fewer s t ∧ s.calledBy t = [] ∨
      ∃ timerId timer p, source.callback = .timer timerId ∧ s.plugins source.plugin = some p ∧ p.isValid = true ∧
        s.timer? source.plugin timerId = some timer ∧
        t = { s with sources := s.sources.erase source }.push (.timer source timerId timer.number) := by
  have hgoes : Fewer s { s with sources := s.sources.erase source } := .of_eq rfl rfl List.erase_sublist (.refl _) rfl
  have hunref (h : unref { s with sources := s.sources.erase source } source.plugin = .ok t) :
      Fewer s t ∧ s.calledBy t = [] := by
    refine ⟨hgoes.trans (.unref h), calledBy_of_length ?_⟩
    rw [(unref_spares h).stack]
  obtain ⟨p, ha, h⟩ := bound_ok h
  obtain ⟨hp, -⟩ := access_ok ha
  split at h
  · split at h
    · cases h
      exact .inl ⟨hgoes.trans (.of_eq rfl rfl (.refl _) (.refl _) rfl), rfl⟩
    · exact .inl (hunref h)
  · rename_i timerId hcallback
    split at h
    · rename_i timer htimer
      split at htimer
      · rename_i hv
        cases h
        exact .inr ⟨timerId, timer, p, hcallback, hp, hv, htimer, rfl⟩
      · cases htimer
    · exact .inl (hunref h)

/-- The source of a timer runs the callback of its own timer. -/
theorem Timed.own_number (hs : s.Timed j) {a : Scheduled} (ha : a ∈ j.scheduled) (hsa : a.source ∈ s.attached) {timer : Timer}
    (ht : s.timer? a.plugin a.timerId = some timer) : timer.number = a.number ∧ timer.repeats = a.repeats := by
  obtain ⟨b, hb, hnumber, -, -, hrepeats, hid⟩ := hs.tabled _ _ timer ht
  have hown := hs.own a ha hsa timer ht
  have hz := (hs.numbers a ha).2.2
  have heq : b = a := by
    refine hs.distinct b hb a ha (.inr ?_)
    rcases hid with hid | hid
    · exact absurd (hown.symm.trans hid) hz
    · exact hid.symm.trans hown
  rw [← hnumber, ← hrepeats, heq]
  exact ⟨rfl, rfl⟩

/-- A timer's callback is called. -/
theorem Timed.call (hs : s.Timed j) {source : Source} {timerId : UInt32} {timer : Timer} (hmem : source ∈ s.sources)
    (hcallback : source.callback = .timer timerId) (ht : s.timer? source.plugin timerId = some timer) :
    ({ s with sources := s.sources.erase source }.push (.timer source timerId timer.number)).Timed
      { j with called := timer.number :: j.called } := by
  obtain ⟨a, ha, rfl⟩ := hs.known source (List.mem_append_left _ hmem)
  have hid : a.timerId = timerId := Callback.timer.inj hcallback
  subst hid
  obtain ⟨hnumber, -⟩ := hs.own_number ha (List.mem_append_left _ hmem) ht
  have hsub : (s.sources.erase a.source).Sublist s.sources := List.erase_sublist
  have hgone : a.source ∉ s.sources.erase a.source := (List.Nodup.of_append_left hs.attached).not_mem_erase
  have hperm : ({ s with sources := s.sources.erase a.source }.push (.timer a.source a.timerId timer.number)).attached.Perm
      s.attached := by
    refine List.perm_middle.trans ?_
    exact (List.perm_cons_erase hmem).symm.append_right _
  have hcalled : a.repeats = false → a.number ∉ j.called := fun hr hc => hs.spent a ha hr hc hmem
  refine ⟨hs.bare, hs.numbers, hs.distinct, hperm.nodup_iff.mpr hs.attached, ?_, ?_, ?_, hs.tabled, ?_, ?_, ?_, ?_, hs.taken,
    hs.gone⟩
  · intro x hx
    rcases List.mem_cons.mp hx with rfl | hx
    · rfl
    · exact hs.framed x hx
  · intro source hsource
    exact hs.known source (hperm.subset hsource)
  · intro b hb c hc hsb hsc
    exact hs.alone b hb c hc (hperm.subset hsb) (hperm.subset hsc)
  · intro b hb hsb
    exact hs.own b hb (hperm.subset hsb)
  · intro n hn
    rcases List.mem_cons.mp hn with rfl | hn
    · rw [hnumber]
      exact (hs.numbers a ha).1
    · exact hs.calls n hn
  · intro b hb hr
    dsimp only
    rw [List.count_cons]
    by_cases hab : timer.number = b.number
    · obtain rfl := hs.distinct a ha b hb (.inl (hnumber.symm.trans hab))
      rw [List.count_eq_zero.mpr (hcalled hr), hab]
      simp
    · have hcount := hs.once b hb hr
      simpa [hab] using hcount
  · intro b hb hr hc hwait
    rcases List.mem_cons.mp hc with hc | hc
    · obtain rfl := hs.distinct b hb a ha (.inl (hc.trans hnumber))
      exact hgone hwait
    · exact hs.spent b hb hr hc (hsub.subset hwait)

theorem Timed.dispatch (hs : s.Timed j) {source : Source} (hmem : source ∈ s.sources) (h : s.dispatch source = .ok t) :
    t.Timed { j with called := s.calledBy t ++ j.called } := by
  rcases dispatch_ok h with ⟨hfewer, hnone⟩ | ⟨timerId, timer, p, hcallback, -, -, ht, rfl⟩
  · rw [hnone]
    exact hs.fewer hfewer
  · have hcalled : s.calledBy ({ s with sources := s.sources.erase source }.push (.timer source timerId timer.number)) =
        [timer.number] := if_pos rfl
    rw [hcalled]
    exact hs.call hmem hcallback ht

/-- A timer that ran has no source any more, and no other source has its id. -/
theorem Timed.put_ran (hs : s.Timed j) (hp : s.plugins i = some p) {timerId : UInt32} {timer : Timer}
    (htimer : s.timer? i timerId = some timer)
    (hfree : ∀ a ∈ j.scheduled, a.source ∈ s.attached → a.plugin = i → a.timerId ≠ timerId) :
    (s.put i { p with timers := p.timers.map (AList.insert timerId { timer with sourceId := 0 }) }).Timed j := by
  set t := s.put i { p with timers := p.timers.map (AList.insert timerId { timer with sourceId := 0 }) } with ht
  have htimers : ∀ k id x, t.timer? k id = some x →
      k = i ∧ id = timerId ∧ x = { timer with sourceId := 0 } ∨ (k = i → id ≠ timerId) ∧ s.timer? k id = some x := by
    intro k id x hx
    rcases eq_or_ne k i with rfl | hki
    · rw [timer?_of_some (Function.update_self ..)] at hx
      rw [timer?_of_some hp]
      cases htimers : p.timers with
      | none => simp [htimers] at hx
      | some timers =>
        rw [htimers, Option.map_some, Option.bind_some, Table.lookup_insert] at hx
        split at hx
        · rename_i hid
          cases hx
          exact .inl ⟨rfl, hid, rfl⟩
        · rename_i hid
          exact .inr ⟨fun _ => hid, hx⟩
    · rw [timer?, ht, put_plugins, Function.update_of_ne hki] at hx
      exact .inr ⟨fun h => absurd h hki, hx⟩
  refine ⟨?_, hs.numbers, hs.distinct, hs.attached, hs.framed, hs.known, hs.alone, ?_, ?_, hs.calls, hs.once, hs.spent, hs.taken,
    ?_⟩
  · intro k p' hp'
    rcases eq_or_ne k i with rfl | hki
    · rw [ht, put_plugins, Function.update_self] at hp'
      cases hp'
      exact hs.bare k p hp
    · rw [ht, put_plugins, Function.update_of_ne hki] at hp'
      exact hs.bare k p' hp'
  · intro k id x hx
    rcases htimers k id x hx with ⟨rfl, rfl, rfl⟩ | ⟨-, hx⟩
    · obtain ⟨a, ha, hnumber, hplugin, hid, hrepeats, -⟩ := hs.tabled k id timer htimer
      exact ⟨a, ha, hnumber, hplugin, hid, hrepeats, .inl rfl⟩
    · exact hs.tabled k id x hx
  · intro a ha hsa x hx
    rcases htimers _ _ x hx with ⟨hplugin, hid, -⟩ | ⟨-, hx⟩
    · exact absurd hid (hfree a ha hsa hplugin)
    · exact hs.own a ha hsa x hx
  · intro k id x hx
    rcases htimers k id x hx with ⟨-, -, rfl⟩ | ⟨-, hx⟩
    · exact hs.gone i timerId timer htimer
    · exact hs.gone k id x hx

/-- The source of a timer that repeats waits again. -/
theorem Timed.rearm (hs : s.Timed j) {a : Scheduled} (ha : a ∈ j.scheduled) (hr : a.repeats = true)
    {stack : List Frame} (hperm : s.attached.Perm (a.source :: Instances.attached { s with stack }))
    (hrun : (running { s with stack }).Sublist s.running) :
    Timed { s with stack, sources := a.source :: s.sources } j where
  bare := hs.bare
  numbers := hs.numbers
  distinct := hs.distinct
  attached := hperm.nodup_iff.mp hs.attached
  framed x hx := hs.framed x (hrun.subset hx)
  known source hsource := hs.known source (hperm.symm.subset hsource)
  alone b hb c hc hsb hsc := hs.alone b hb c hc (hperm.symm.subset hsb) (hperm.symm.subset hsc)
  tabled := hs.tabled
  own b hb hsb := hs.own b hb (hperm.symm.subset hsb)
  calls := hs.calls
  once := hs.once
  spent := by
    intro b hb hno hc hmem
    rcases List.mem_cons.mp hmem with heq | hmem
    · obtain rfl := hs.distinct b hb a ha (.inr (congrArg Source.id heq))
      rw [hr] at hno
      cases hno
    · exact hs.spent b hb hno hc hmem
  taken := hs.taken
  gone := hs.gone

theorem Timed.timerDataRan (hs : s.Timed j) {source : Source} {timerId : UInt32} {number : Nat} {stack : List Frame}
    (hst : s.stack = .timer source timerId number :: stack)
    (h : Instances.timerDataRan { s with stack } source timerId number = .ok t) : t.Timed j := by
  have hrunning : s.running = (source, timerId, number) :: running { s with stack } := by rw [running, hst]; rfl
  have hperm : s.attached.Perm (source :: Instances.attached { s with stack }) := by
    rw [Instances.attached, hrunning, List.map_cons]
    exact List.perm_middle
  have hsub : (running { s with stack }).Sublist s.running := by
    rw [hrunning]
    exact List.sublist_cons_self ..
  have hpop : Fewer s { s with stack } := .of_eq rfl rfl (.refl _) hsub rfl
  have hmem : source ∈ s.attached := hperm.symm.subset (List.mem_cons_self ..)
  obtain ⟨a, ha, rfl⟩ := hs.known source hmem
  have hid : a.timerId = timerId := Callback.timer.inj (hs.framed (a.source, timerId, number) (hrunning ▸ List.mem_cons_self ..))
  subst hid
  unfold Instances.timerDataRan at h
  split at h
  · cases h
  rename_i timer htimer
  split at h
  · cases h
  split at h
  · rename_i hrepeats
    split at h
    · exact hs.fewer (hpop.trans (.unref h))
    · cases h
      obtain ⟨-, hr⟩ := hs.own_number ha hmem htimer
      exact hs.rearm ha (hr.symm.trans hrepeats) hperm hsub
  · obtain ⟨p, hp, h⟩ := bound_ok h
    refine Timed.fewer ((hs.fewer hpop).put_ran (access_ok hp).1 htimer fun b hb hsb hplugin hid => ?_) (.unref h)
    obtain rfl := hs.alone b hb a ha (hpop.attached.subset hsb) hmem hplugin hid
    exact (List.nodup_cons.mp (hperm.nodup_iff.mp hs.attached)).1 hsb

/-! ### Instances come and go -/

theorem nppNew_fewer (s : Instances) (i : Nat) (instanceId : UInt32) (npp : Bool) : Fewer s (s.nppNew i instanceId npp) := by
  have hself : (s.nppNew i instanceId npp).plugins i = some ⟨instanceId, 1, true, 0, none, none, false, !npp⟩ := by
    cases npp <;> exact Function.update_self ..
  have hother (k : Nat) (hki : k ≠ i) : (s.nppNew i instanceId npp).plugins k = s.plugins k := by
    cases npp <;> exact Function.update_of_ne hki ..
  refine ⟨by cases npp <;> rfl, by cases npp <;> rfl, by cases npp <;> exact .refl _, by cases npp <;> exact .refl _, ?_, ?_⟩
  · intro k timerId timer ht
    rcases eq_or_ne k i with rfl | hki
    · rw [timer?_of_some hself] at ht
      cases ht
    · rwa [timer?, hother k hki] at ht
  · intro hs k p hp
    rcases eq_or_ne k i with rfl | hki
    · rw [hself] at hp
      cases hp
      rfl
    · rw [hother k hki] at hp
      exact hs k p hp

theorem newpReturned_fewer {ok xtSource : Bool} (h : s.newpReturned i ok xtSource = .ok t) : Fewer s t := by
  obtain ⟨p, ha, rfl⟩ := mapped_ok h
  split
  · exact .put (access_ok ha).1 (by simp) fun _ => rfl
  · exact .put (access_ok ha).1 (fun _ _ ht => ht) id

theorem receive_ok {instanceId : UInt32} {frame : Nat → Frame} (h : s.receive instanceId frame = .ok t) :
    t = s ∨ ∃ k, t = s.push (frame k) := by
  rw [receive] at h
  cases hid : s.ids.lookup instanceId with
  | none =>
    rw [hid] at h
    exact .inl (Except.ok.inj h).symm
  | some k =>
    rw [hid] at h
    obtain ⟨-, -, rfl⟩ := mapped_ok h
    exact .inr ⟨k, rfl⟩

/-! ### Runs -/

/-- The instances come and go, and their timers. -/
def Event.ofTimers : Event → Bool
  | .nppNew .. | .newpReturns .. | .nppDestroy _ | .destroyReturns _ | .npnScheduleTimer .. | .npnUnscheduleTimer .. |
    .dispatch _ | .callbackReturns => true
  | _ => false

/-- Only the main loop calls callbacks. -/
theorem calledBy_eq_nil {e : Event} (he : e.ofTimers = true) (hne : ∀ source, e ≠ .dispatch source)
    (h : s.exec e = some (.ok t)) : s.calledBy t = [] := by
  cases e with
  | nppNew i instanceId npp =>
    cases h
    cases npp
    · exact calledBy_of_length (Nat.le_refl _)
    · rfl
  | newpReturns ok xtSource =>
    simp only [Instances.exec, Instances.returns] at h
    split at h
    · rename_i i stack hst
      obtain ⟨p, -, rfl⟩ := mapped_ok (Option.some.inj h)
      refine calledBy_of_length ?_
      rw [hst]
      split <;> exact Nat.le_succ _
    · cases h
  | nppDestroy instanceId =>
    have h : s.receive instanceId .destroy = .ok t := Option.some.inj h
    rcases receive_ok h with rfl | ⟨k, rfl⟩
    · exact calledBy_of_length (Nat.le_refl _)
    · rfl
  | destroyReturns order =>
    simp only [Instances.exec, Instances.returns] at h
    split at h
    · rename_i i stack hst
      obtain ⟨-, -, h⟩ := bound_ok (Option.some.inj h)
      rcases invalidateNPObjects_ok h with ⟨-, h⟩ | ⟨o, rest, x, -, -, -, rfl⟩
      · obtain ⟨p, -, -, h⟩ := nppDestroyed_ok h
        refine calledBy_of_length ?_
        rw [(unref_spares h).stack, hst]
        exact Nat.le_succ _
      · rfl
    · cases h
  | npnScheduleTimer i repeats =>
    have h : s.npnScheduleTimer i repeats = .ok t := Option.some.inj h
    exact calledBy_of_length (by rw [(npnScheduleTimer_spares h).stack])
  | npnUnscheduleTimer i timerId =>
    have h : s.npnUnscheduleTimer i timerId = .ok t := Option.some.inj h
    exact calledBy_of_length (by rw [(npnUnscheduleTimer_spares h).stack])
  | dispatch source => exact absurd rfl (hne source)
  | callbackReturns =>
    simp only [Instances.exec, Instances.returns] at h
    split at h
    · rename_i source stack hst
      refine calledBy_of_length ?_
      rw [(unref_spares (Option.some.inj h)).stack, hst]
      exact Nat.le_succ _
    · rename_i source timerId number stack hst
      refine calledBy_of_length ?_
      rw [(timerDataRan_spares (Option.some.inj h)).stack, hst]
      exact Nat.le_succ _
    · cases h
  | _ => cases he

theorem Sound.step_timed (hsound : s.Sound) (hs : s.Timed j) {e : Event} (ha : s.Allowed e) (hc : s.Careful e)
    (hfresh : s.Fresh e) (he : e.ofTimers = true) {r : Result} (h : s.exec e = some r) :
    ∃ t, r = .ok t ∧ t.Sound ∧ t.Timed (j.add s e t) := by
  -- Where no timer comes, no callback is called and none is unscheduled, there is nothing to write down.
  have hplain (t : Instances) (hr : s.exec e = some (.ok t)) (hne : ∀ source, e ≠ .dispatch source)
      (hsch : s.scheduledBy e = []) (huns : j.unscheduledBy e = []) : j.add s e t = j := by
    rw [Journal.add, hsch, huns, calledBy_eq_nil he hne hr]
    rfl
  cases e with
  | nppNew i instanceId npp =>
    obtain ⟨t, rfl, hsound⟩ := hsound.exec ha hc rfl h
    refine ⟨t, rfl, hsound, ?_⟩
    rw [hplain t h (by simp) rfl rfl]
    cases h
    exact hs.fewer (nppNew_fewer ..)
  | newpReturns ok xtSource =>
    obtain ⟨t, rfl, hsound⟩ := hsound.exec ha hc rfl h
    refine ⟨t, rfl, hsound, ?_⟩
    rw [hplain t h (by simp) rfl rfl]
    simp only [Instances.exec, Instances.returns] at h
    split at h
    · rename_i i stack hst
      refine hs.fewer (Fewer.trans (t := { s with stack }) ?_ (newpReturned_fewer (Option.some.inj h)))
      exact .of_eq rfl rfl (.refl _) (by rw [running, running, hst]; exact .refl _) rfl
    · cases h
  | nppDestroy instanceId =>
    obtain ⟨t, rfl, hsound⟩ := hsound.exec ha hc rfl h
    refine ⟨t, rfl, hsound, ?_⟩
    rw [hplain t h (by simp) rfl rfl]
    have h : s.receive instanceId .destroy = .ok t := Option.some.inj h
    rcases receive_ok h with rfl | ⟨k, rfl⟩
    · exact hs
    · exact hs.fewer (.of_eq rfl rfl (.refl _) (.refl _) rfl)
  | destroyReturns order =>
    simp only [Instances.exec, Instances.returns] at h hplain
    split at h
    · rename_i i stack hst
      obtain ⟨t, ht, hsound, hd⟩ := hsound.destroyReturned_bare hst ha fun p hp => hs.bare i p hp
      rw [ht] at h
      cases h
      refine ⟨t, rfl, hsound, ?_⟩
      rw [hplain t (by rw [hst]; exact congrArg some ht) (by simp) rfl rfl]
      refine hs.fewer (Fewer.trans (t := markRemaining { s with stack } i) ?_ (.nppDestroyed hd))
      exact .of_eq rfl rfl (.refl _) (by rw [running, running, hst]; exact .refl _) rfl
    · cases h
  | npnScheduleTimer i repeats =>
    obtain ⟨t, rfl, hsound'⟩ := hsound.exec ha hc rfl h
    refine ⟨t, rfl, hsound', ?_⟩
    rw [Journal.add, calledBy_eq_nil he (by simp) h]
    exact hs.npnScheduleTimer hsound hc hfresh (Option.some.inj h)
  | npnUnscheduleTimer i timerId =>
    obtain ⟨t, rfl, hsound⟩ := hsound.exec ha hc rfl h
    refine ⟨t, rfl, hsound, ?_⟩
    rw [Journal.add, calledBy_eq_nil he (by simp) h]
    obtain ⟨hfewer, hnone⟩ := npnUnscheduleTimer_fewer (Option.some.inj h)
    exact (hs.fewer hfewer).unscheduled hnone
  | dispatch source =>
    obtain ⟨t, rfl, hsound⟩ := hsound.exec ha hc rfl h
    exact ⟨t, rfl, hsound, hs.dispatch ha (Option.some.inj h)⟩
  | callbackReturns =>
    obtain ⟨t, rfl, hsound⟩ := hsound.exec ha hc rfl h
    refine ⟨t, rfl, hsound, ?_⟩
    rw [hplain t h (by simp) rfl rfl]
    simp only [Instances.exec, Instances.returns] at h
    split at h
    · rename_i source stack hst
      refine hs.fewer (Fewer.trans (t := { s with stack }) ?_ (.unref (Option.some.inj h)))
      exact .of_eq rfl rfl (.refl _) (by rw [running, running, hst]; exact .refl _) rfl
    · rename_i source timerId number stack hst
      exact hs.timerDataRan hst (Option.some.inj h)
    · cases h
  | _ => cases he

/-- A timer is there as long as the table has it, or its source waits or runs. -/
def IsThere (s : Instances) (a : Scheduled) : Prop :=
  (∃ timer, s.timer? a.plugin a.timerId = some timer ∧ timer.number = a.number) ∨ a.source ∈ s.attached

/-- A callback is only called of a timer in the table of a valid instance, which was not unscheduled; that of a timer that
    does not repeat is called once; and of the timers of an instance no two have the same id. -/
structure Timely (s : Instances) (j : Journal) : Prop where
  called : ∀ e t, e.ofTimers = true → s.Allowed e → s.exec e = some (.ok t) → ∀ n ∈ s.calledBy t, n ∉ j.unscheduled ∧
    ∃ a ∈ j.scheduled, a.number = n ∧ (∃ timer, s.timer? a.plugin a.timerId = some timer ∧ timer.number = n) ∧
      ∃ p, s.plugins a.plugin = some p ∧ p.isValid = true
  once : ∀ a ∈ j.scheduled, a.repeats = false → j.called.count a.number ≤ 1
  distinct : ∀ a ∈ j.scheduled, ∀ b ∈ j.scheduled, s.IsThere a → s.IsThere b → a.plugin = b.plugin → a.timerId = b.timerId →
    a = b

/-- The timer in the table is the one of the source that has its id. -/
theorem Timed.eq_of_timer (hs : s.Timed j) {a b : Scheduled} (ha : a ∈ j.scheduled) (hb : b ∈ j.scheduled)
    (hta : ∃ timer, s.timer? a.plugin a.timerId = some timer ∧ timer.number = a.number) (hsb : b.source ∈ s.attached)
    (hplugin : a.plugin = b.plugin) (hid : a.timerId = b.timerId) : a = b := by
  obtain ⟨timer, ht, hn⟩ := hta
  rw [hplugin, hid] at ht
  obtain ⟨hnumber, -⟩ := hs.own_number hb hsb ht
  exact hs.distinct a ha b hb (.inl (hn.symm.trans hnumber))

theorem Timed.timely (hs : s.Timed j) : s.Timely j where
  called := by
    intro e t he ha h n hn
    by_cases hdispatch : ∃ source, e = .dispatch source
    · obtain ⟨source, rfl⟩ := hdispatch
      rcases dispatch_ok (Option.some.inj h) with ⟨-, hnil⟩ | ⟨timerId, timer, p, hcallback, hp, hv, ht, rfl⟩
      · rw [hnil] at hn
        cases hn
      · obtain rfl : n = timer.number := List.mem_singleton.mp ((congrArg (n ∈ ·) (if_pos rfl)).mp hn)
        obtain ⟨a, hmem, rfl⟩ := hs.known source (List.mem_append_left _ ha)
        have hid : a.timerId = timerId := Callback.timer.inj hcallback
        subst hid
        obtain ⟨hnumber, -⟩ := hs.own_number hmem (List.mem_append_left _ ha) ht
        exact ⟨hs.gone _ _ timer ht, a, hmem, hnumber.symm, ⟨timer, ht, rfl⟩, p, hp, hv⟩
    · rw [calledBy_eq_nil he (fun source heq => hdispatch ⟨source, heq⟩) h] at hn
      cases hn
  once := hs.once
  distinct := by
    intro a ha b hb hta htb hplugin hid
    rcases hta with hta | hsa
    · rcases htb with ⟨timer', ht', hn'⟩ | hsb
      · obtain ⟨timer, ht, hn⟩ := hta
        rw [hplugin, hid, ht'] at ht
        cases ht
        exact hs.distinct a ha b hb (.inl (hn.symm.trans hn'))
      · exact hs.eq_of_timer ha hb hta hsb hplugin hid
    · rcases htb with htb | hsb
      · exact (hs.eq_of_timer hb ha htb hsa hplugin.symm hid.symm).symm
      · exact hs.alone a ha b hb hsa hsb hplugin hid

end Instances

/-- The runs of NPP_New, NPP_Destroy, the timers' functions and the main loop, and what has happened to timers. -/
def instanceTimers : Machine (Except Instances.Fault Instances × Instances.Journal) Instances.Event where
  init x := x = (.ok .started, ⟨[], [], []⟩)
  step x e y := e.ofTimers = true ∧ ∃ v, x.1 = .ok v ∧ v.Allowed e ∧ v.exec e = some y.1 ∧
    y.2 = match y.1 with
      | .ok t => x.2.add v e t
      | .error _ => x.2

open Instances in
/-- In a run in which no timer is unscheduled while its callback runs, no new one has the id of an old one that waits, and
    no step uses an instance that another has freed, timers run as they should. -/
theorem timers_timely {x : Except Fault Instances × Journal}
    (h : (instanceTimers.restrict fun x e => ∀ v, x.1 = .ok v → v.Careful e ∧ v.Fresh e).Reachable x) :
    ∃ v, x.1 = .ok v ∧ v.Timely x.2 := by
  have hinv : ∃ v, x.1 = .ok v ∧ v.Sound ∧ v.Timed x.2 := by
    refine h.invariant (fun x => ∃ v, x.1 = .ok v ∧ v.Sound ∧ v.Timed x.2) ?_ ?_
    · rintro _ rfl
      refine ⟨_, rfl, sound_started, ?_⟩
      constructor <;> simp [started, Instances.attached, running, timer?]
    · rintro ⟨_, j⟩ e ⟨r, j'⟩ - ⟨v, rfl, hsound, htimed⟩ ⟨hg, he, v', hv', ha, hexec, hj⟩
      cases hv'
      obtain ⟨hc, hf⟩ := hg v rfl
      obtain ⟨t, hr, hsound', htimed'⟩ := hsound.step_timed htimed ha hc hf he hexec
      dsimp only at hr hj
      subst hr
      subst hj
      exact ⟨t, rfl, hsound', htimed'⟩
  obtain ⟨v, hv, -, htimed⟩ := hinv
  exact ⟨v, hv, htimed.timely⟩

namespace Instances

/-- NPP_New, and a timer that does not repeat, which is called. -/
theorem timers_timely_once : ∃ v, run started
    [.nppNew 0 1 true, .newpReturns true true, .npnScheduleTimer 0 false, .dispatch ⟨1, 0, .timer 1⟩, .callbackReturns] = .ok v ∧
      v.Timely ⟨[⟨1, 0, 1, false, 1⟩], [1], []⟩ := by
  have h₀ : (instanceTimers.restrict fun x e => ∀ v, x.1 = .ok v → v.Careful e ∧ v.Fresh e).Reachable
      (.ok started, ⟨[], [], []⟩) := .init rfl
  have h₁ := h₀.next (t := (_, _)) (.nppNew 0 1 true)
    ⟨fun _ _ => ⟨trivial, trivial⟩, rfl, _, rfl, newp_allowed _ _ rfl rfl, rfl, rfl⟩
  have h₂ := h₁.next (t := (_, _)) (.newpReturns true true)
    ⟨fun v hv => by cases hv; exact ⟨fun _ _ hst => by cases hst; exact ⟨_, rfl, rfl⟩, trivial⟩, rfl, _, rfl, trivial, rfl, rfl⟩
  have h₃ := h₂.next (t := (_, _)) (.npnScheduleTimer 0 false)
    ⟨fun v hv => by cases hv; exact ⟨fun p hp => .inl (by cases hp; rfl), fun _ _ _ hmem => by cases hmem⟩, rfl, _, rfl,
      ⟨_, rfl, rfl⟩, rfl, rfl⟩
  have h₄ := h₃.next (t := (_, _)) (.dispatch ⟨1, 0, .timer 1⟩)
    ⟨fun _ _ => ⟨trivial, trivial⟩, rfl, _, rfl, List.mem_cons_self .., rfl, rfl⟩
  have h₅ := h₄.next (t := (_, _)) .callbackReturns ⟨fun _ _ => ⟨trivial, trivial⟩, rfl, _, rfl, trivial, rfl, rfl⟩
  exact timers_timely h₅

/-- A timer is unscheduled by its own callback, and read when that has returned. -/
theorem timers_untimely : ¬ ∀ x, instanceTimers.Reachable x → ∃ v, x.1 = .ok v ∧ v.Timely x.2 := by
  intro h
  have h₀ : instanceTimers.Reachable (.ok started, ⟨[], [], []⟩) := .init rfl
  have h₁ := h₀.next (t := (_, _)) (.nppNew 0 1 true) ⟨rfl, _, rfl, newp_allowed _ _ rfl rfl, rfl, rfl⟩
  have h₂ := h₁.next (t := (_, _)) (.newpReturns true true) ⟨rfl, _, rfl, trivial, rfl, rfl⟩
  have h₃ := h₂.next (t := (_, _)) (.npnScheduleTimer 0 true) ⟨rfl, _, rfl, ⟨_, rfl, rfl⟩, rfl, rfl⟩
  have h₄ := h₃.next (t := (_, _)) (.dispatch ⟨1, 0, .timer 1⟩) ⟨rfl, _, rfl, List.mem_cons_self .., rfl, rfl⟩
  have h₅ := h₄.next (t := (_, _)) (.npnUnscheduleTimer 0 1) ⟨rfl, _, rfl, ⟨_, rfl, rfl⟩, rfl, rfl⟩
  have h₆ := h₅.next (t := (_, _)) .callbackReturns ⟨rfl, _, rfl, trivial, rfl, rfl⟩
  obtain ⟨v, hv, -⟩ := h _ h₆
  cases hv

end Instances
end NSPluginWrapper
