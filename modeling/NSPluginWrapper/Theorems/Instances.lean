import NSPluginWrapper.Lib.Refs
import NSPluginWrapper.Plugin.Instances

/-! The life of an instance in the viewer: what its count stands for, and that it is freed behind the last use. -/

namespace NSPluginWrapper
open Lib

namespace Instances
variable {s t : Instances} {i j : Nat} {p q : PluginInstance} {h : Nat → Nat}

/-! ### Who refers to an instance -/

def Frame.holds : Frame → Nat → Bool
  | .npn plugin, i | .printData plugin _, i => plugin = i
  | .asyncCall source, i | .timer source _ _, i => source.plugin = i
  | _, _ => false

/-- NPP_Destroy of the instance. -/
def Frame.destroys : Frame → Nat → Bool
  | .destroy plugin, i | .invalidate plugin _ _, i => plugin = i
  | _, _ => false

/-- The pending calls, the timers, and the calls that run. -/
def holders (s : Instances) (i : Nat) : Nat :=
  s.sources.countP (fun source => source.plugin = i) + s.stack.countP fun frame => frame.holds i

def valid (s : Instances) (i : Nat) : Nat := (s.plugins i).elim 0 fun p => p.isValid.toNat

/-- Each count is of the holders, and of NPP_New as long as the instance is valid. -/
def Balanced (s : Instances) (h : Nat → Nat) : Prop :=
  Refs (·.refcount) (·.isFreed) s.plugins fun i => s.valid i + h i

/-- One holder more. -/
def plus (h : Nat → Nat) (i : Nat) : Nat → Nat := fun j => h j + if i = j then 1 else 0

@[simp] theorem plus_self : plus h i i = h i + 1 := by simp [plus]

theorem plus_of_ne (hji : j ≠ i) : plus h i j = h j := by simp [plus, hji.symm]

/-! ### One record -/

theorem bound_ok {α β : Type} {x : Except Fault α} {f : α → Except Fault β} {b : β} (hb : x.bind f = .ok b) :
    ∃ a, x = .ok a ∧ f a = .ok b := by
  cases x with
  | error => cases hb
  | ok a => exact ⟨a, rfl, hb⟩

@[simp] theorem put_plugins (s : Instances) (i : Nat) (p : PluginInstance) :
    (s.put i p).plugins = Function.update s.plugins i (some p) := rfl
@[simp] theorem put_sources (s : Instances) (i : Nat) (p : PluginInstance) : (s.put i p).sources = s.sources := rfl
@[simp] theorem put_stack (s : Instances) (i : Nat) (p : PluginInstance) : (s.put i p).stack = s.stack := rfl
@[simp] theorem put_ids (s : Instances) (i : Nat) (p : PluginInstance) : (s.put i p).ids = s.ids := rfl

theorem access_eq (hp : s.plugins i = some p) (hf : p.isFreed = false) : s.access i = .ok p := by
  rw [access, hp]
  simp [hf]

theorem access_ok (ha : s.access i = .ok p) : s.plugins i = some p ∧ p.isFreed = false := by
  unfold access at ha
  split at ha
  · rename_i q hq
    split at ha
    · cases ha
    · rename_i hf
      cases ha
      exact ⟨hq, Bool.eq_false_iff.mpr hf⟩
  · cases ha

theorem ref_eq (hp : s.plugins i = some p) (hf : p.isFreed = false) :
    s.ref i = .ok (s.put i { p with refcount := p.refcount + 1 }) := by
  rw [ref, access_eq hp hf]
  rfl

theorem mapped_ok {α β : Type} {x : Except Fault α} {f : α → β} {b : β} (hb : x.map f = .ok b) : ∃ a, x = .ok a ∧ f a = b := by
  cases x with
  | error => cases hb
  | ok a => exact ⟨a, rfl, Except.ok.inj hb⟩

/-- What unref leaves. -/
def dropped (s : Instances) (i : Nat) (p : PluginInstance) : Instances :=
  if p.refcount = 1 then s.finalize i p else s.put i { p with refcount := p.refcount - 1 }

theorem unref_eq (hp : s.plugins i = some p) (hf : p.isFreed = false) : s.unref i = .ok (s.dropped i p) := by
  rw [unref, access_eq hp hf]
  rfl

theorem valid_of_some (hp : s.plugins i = some p) : s.valid i = p.isValid.toNat := by
  rw [valid, hp]
  rfl

theorem valid_put (s : Instances) (i : Nat) (p : PluginInstance) (j : Nat) :
    (s.put i p).valid j = if j = i then p.isValid.toNat else s.valid j := by
  unfold valid
  rw [put_plugins]
  by_cases hji : j = i
  · subst hji
    simp
  · simp [hji]

theorem Balanced.congr (hb : s.Balanced h) {h' : Nat → Nat} (hh : ∀ i, h' i = h i) : s.Balanced h' := by
  rwa [funext hh]

theorem Balanced.of_plugins (hb : s.Balanced h) (ht : t.plugins = s.plugins) : t.Balanced h := by
  unfold Balanced valid at *
  rwa [ht]

theorem Balanced.live (hb : s.Balanced h) (hi : h i ≠ 0) :
    ∃ p, s.plugins i = some p ∧ p.isFreed = false ∧ p.refcount = p.isValid.toNat + h i := by
  obtain ⟨p, hp, hf, hc⟩ := Refs.live hb (i := i) (by omega)
  refine ⟨p, hp, hf, ?_⟩
  rw [hc, valid_of_some hp]

theorem Balanced.refcount (hb : s.Balanced h) (hp : s.plugins i = some p) : p.refcount = p.isValid.toNat + h i := by
  have hc := hb.count i p hp
  simp only [valid_of_some hp] at hc
  exact hc

theorem Balanced.freed (hb : s.Balanced h) (hp : s.plugins i = some p) : p.isFreed = true ↔ p.isValid = false ∧ h i = 0 := by
  have hf := Refs.freed hb i p hp
  simp only [valid_of_some hp] at hf
  rw [hf]
  cases p.isValid <;> simp

/-- A record and its holders change together. -/
theorem Balanced.put (hb : s.Balanced h) {h' : Nat → Nat} (hother : ∀ j, j ≠ i → h' j = h j)
    (hc : q.refcount = q.isValid.toNat + h' i) (hf : q.isFreed = true ↔ q.refcount = 0) : (s.put i q).Balanced h' := by
  refine Refs.put hb ?_ ?_ ?_
  · intro j hji
    simp only [valid_put, if_neg hji, hother j hji]
  · simp only [valid_put, if_true, hc]
  · simp only [valid_put, if_true, hf, hc]

/-- A record changes in what does not count. -/
theorem Balanced.put_same (hb : s.Balanced h) (hp : s.plugins i = some p) (hc : q.refcount = p.refcount)
    (hv : q.isValid = p.isValid) (hf : q.isFreed = p.isFreed) : (s.put i q).Balanced h := by
  refine hb.put (fun _ _ => rfl) ?_ ?_
  · rw [hc, hv]
    exact hb.refcount hp
  · rw [hc, hf, hb.freed hp, hb.refcount hp]
    cases p.isValid <;> simp

theorem Balanced.ref (hb : s.Balanced h) (hp : s.plugins i = some p) (hf : p.isFreed = false) :
    (s.put i { p with refcount := p.refcount + 1 }).Balanced (plus h i) := by
  refine hb.put (fun j hji => plus_of_ne hji) ?_ ?_
  · simp only [plus_self, hb.refcount hp]
    omega
  · simp [hf]

/-- The last reference frees, and there is no source left that goes with it. -/
theorem finalize_eq (hs : s.sources.countP (fun source => source.plugin = i) = 0) :
    s.finalize i p = s.put i { p with refcount := 0, timers := none, npobjects := none, isFreed := true } := by
  have hfilter : s.sources.filter (fun source => ¬ (source.plugin = i ∧ source.id ∈ p.timerSources)) = s.sources := by
    refine List.filter_eq_self.mpr fun source hsource => ?_
    have hne := List.countP_eq_zero.mp hs source hsource
    simp only [decide_eq_true_eq] at hne
    simp [hne]
  rw [finalize, hfilter]

theorem Balanced.unref (hb : s.Balanced (plus h i)) (hs : s.sources.countP (fun source => source.plugin = i) ≤ h i)
    (hp : s.plugins i = some p) : (s.dropped i p).Balanced h := by
  have hc := hb.refcount hp
  rw [plus_self] at hc
  unfold dropped
  split
  · rename_i hone
    obtain ⟨hv, hz⟩ : p.isValid.toNat = 0 ∧ h i = 0 := by omega
    rw [Bool.toNat_eq_zero] at hv
    rw [finalize_eq (Nat.le_zero.mp (hz ▸ hs))]
    refine hb.put (fun j hji => (plus_of_ne hji).symm) ?_ ?_
    · simp [hv, hz]
    · simp
  · rename_i hone
    have hf : p.isFreed = false := by
      refine Bool.eq_false_iff.mpr fun hf => ?_
      have := ((hb.freed hp).mp hf).2
      simp at this
    refine hb.put (fun j hji => (plus_of_ne hji).symm) ?_ ?_
    · change p.refcount - 1 = p.isValid.toNat + h i
      omega
    · change p.isFreed = true ↔ p.refcount - 1 = 0
      simp [hf]
      omega

/-! ### The rest of the state -/

/-- What does not depend on the counts: an id is of a valid instance with that id, an instance is destroyed once at a
    time and is valid until the end, its timers come behind its NPP_New, and a timer that runs is there. -/
structure Ordered (s : Instances) : Prop where
  mapped : ∀ id i, s.ids.lookup id = some i → ∃ p, s.plugins i = some p ∧ p.instanceId = id ∧ p.isValid = true
  given : ∀ i p, s.plugins i = some p → p.isValid = true → p.instanceId ≠ 0
  destroyed : ∀ i, (s.stack.countP fun frame => frame.destroys i) ≤ 1
  destroying : ∀ frame ∈ s.stack, ∀ i, frame.destroys i = true → ∃ p, s.plugins i = some p ∧ p.isValid = true
  newp : ∀ i, s.stack.count (.newp i) ≤ 1
  unfinished : ∀ i, .newp i ∈ s.stack → ∃ p, s.plugins i = some p ∧ p.timers = none
  running : ∀ source timerId number, .timer source timerId number ∈ s.stack →
    ∃ timer, s.timer? source.plugin timerId = some timer ∧ timer.number = number

structure Sound (s : Instances) : Prop extends Ordered s where
  balanced : s.Balanced s.holders

/-- From `s` to `t`, counts change, records are freed, and what only the objects need changes. -/
structure Keeps (s t : Instances) : Prop where
  ids : t.ids = s.ids
  sources : t.sources = s.sources
  stack : t.stack = s.stack
  plugins : ∀ i p, s.plugins i = some p → ∃ q, t.plugins i = some q ∧ q.instanceId = p.instanceId ∧ q.isValid = p.isValid ∧
    q.failed = p.failed ∧ (q.timers = p.timers ∨ q.isFreed = true ∧ q.timers = none)
  absent : ∀ i, s.plugins i = none → t.plugins i = none

theorem Keeps.refl (s : Instances) : Keeps s s := ⟨rfl, rfl, rfl, fun _ p hp => ⟨p, hp, rfl, rfl, rfl, .inl rfl⟩, fun _ => id⟩

theorem Keeps.put (hp : s.plugins i = some p) (hid : q.instanceId = p.instanceId) (hv : q.isValid = p.isValid)
    (hfail : q.failed = p.failed) (ht : q.timers = p.timers ∨ q.isFreed = true ∧ q.timers = none) : Keeps s (s.put i q) where
  ids := rfl
  sources := rfl
  stack := rfl
  plugins := by
    intro j p' hp'
    by_cases hji : j = i
    · subst hji
      rw [hp] at hp'
      cases hp'
      exact ⟨q, Function.update_self .., hid, hv, hfail, ht⟩
    · exact ⟨p', (Function.update_of_ne hji ..).trans hp', rfl, rfl, rfl, .inl rfl⟩
  absent := by
    intro j hj
    have hji : j ≠ i := by
      rintro rfl
      rw [hp] at hj
      cases hj
    exact (Function.update_of_ne hji ..).trans hj

theorem Keeps.dropped (hs : p.refcount = 1 → s.sources.countP (fun source => source.plugin = i) = 0) (hp : s.plugins i = some p) :
    Keeps s (s.dropped i p) := by
  unfold Instances.dropped
  split
  · rename_i hone
    rw [finalize_eq (hs hone)]
    exact .put hp rfl rfl rfl (.inr ⟨rfl, rfl⟩)
  · exact .put hp rfl rfl rfl (.inl rfl)

theorem holders_eq (hsrc : t.sources = s.sources) (hst : t.stack = s.stack) : t.holders = s.holders := by
  funext j
  rw [holders, holders, hsrc, hst]

theorem Keeps.holders (hk : Keeps s t) : t.holders = s.holders := holders_eq hk.sources hk.stack

/-- A timer that runs has a source that holds its instance. -/
theorem holders_pos {source : Source} {timerId : UInt32} {number : Nat} (hmem : .timer source timerId number ∈ s.stack) :
    s.holders source.plugin ≠ 0 := by
  have hpos : 0 < s.stack.countP fun frame => frame.holds source.plugin :=
    List.countP_pos_iff.mpr ⟨_, hmem, decide_eq_true rfl⟩
  rw [Instances.holders]
  omega

theorem timer?_of_some (hp : s.plugins i = some p) (timerId : UInt32) :
    s.timer? i timerId = p.timers.bind fun timers => timers.lookup timerId := by
  rw [timer?, hp]
  rfl

theorem Ordered.keeps (ho : s.Ordered) (hk : Keeps s t) (hb : t.Balanced h) (hle : ∀ i, s.holders i ≤ h i) : t.Ordered where
  mapped := by
    intro id i hi
    rw [hk.ids] at hi
    obtain ⟨p, hp, hid, hv⟩ := ho.mapped id i hi
    obtain ⟨q, hq, hqid, hqv, -⟩ := hk.plugins i p hp
    exact ⟨q, hq, hqid.trans hid, hqv.trans hv⟩
  given := by
    intro i q hq hv
    cases hp : s.plugins i with
    | none =>
      rw [hk.absent i hp] at hq
      cases hq
    | some p =>
      obtain ⟨q', hq', hid, hqv, -⟩ := hk.plugins i p hp
      rw [hq] at hq'
      cases hq'
      rw [hid]
      exact ho.given i p hp (hqv ▸ hv)
  destroyed := hk.stack ▸ ho.destroyed
  destroying := by
    intro frame hframe i hi
    obtain ⟨p, hp, hv⟩ := ho.destroying frame (hk.stack ▸ hframe) i hi
    obtain ⟨q, hq, -, hqv, -⟩ := hk.plugins i p hp
    exact ⟨q, hq, hqv.trans hv⟩
  newp := hk.stack ▸ ho.newp
  unfinished := by
    intro i hi
    obtain ⟨p, hp, ht⟩ := ho.unfinished i (hk.stack ▸ hi)
    obtain ⟨q, hq, -, -, -, htq | ⟨-, htq⟩⟩ := hk.plugins i p hp
    · exact ⟨q, hq, htq.trans ht⟩
    · exact ⟨q, hq, htq⟩
  running := by
    intro source timerId number hmem
    rw [hk.stack] at hmem
    have hpos : h source.plugin ≠ 0 := by
      have := holders_pos hmem
      have := hle source.plugin
      omega
    obtain ⟨q', hq', hf, -⟩ := hb.live hpos
    obtain ⟨timer, ht, hn⟩ := ho.running source timerId number hmem
    refine ⟨timer, ?_, hn⟩
    cases hp : s.plugins source.plugin with
    | none =>
      rw [timer?, hp] at ht
      cases ht
    | some p =>
      obtain ⟨q, hq, -, -, -, htq | ⟨hfq, -⟩⟩ := hk.plugins _ p hp
      · rw [timer?_of_some hp] at ht
        rw [timer?_of_some hq, htq, ht]
      · rw [hq'] at hq
        cases hq
        rw [hf] at hfq
        cases hfq

theorem Sound.keeps (hs : s.Sound) (hk : Keeps s t) (hb : t.Balanced s.holders) : t.Sound := by
  refine ⟨hs.toOrdered.keeps hk hb fun _ => Nat.le_refl _, ?_⟩
  rwa [hk.holders]

/-- Fewer calls wait. -/
theorem Ordered.sublist (ho : s.Ordered) {stack : List Frame} (hsub : stack.Sublist s.stack) : Ordered { s with stack } where
  mapped := ho.mapped
  given := ho.given
  destroyed i := Nat.le_trans (hsub.countP_le ..) (ho.destroyed i)
  destroying frame hframe := ho.destroying frame (hsub.mem hframe)
  newp i := Nat.le_trans (hsub.count_le ..) (ho.newp i)
  unfinished i hi := ho.unfinished i (hsub.mem hi)
  running source timerId number hmem := ho.running source timerId number (hsub.mem hmem)

/-! ### References come and go -/

theorem holders_push (s : Instances) (frame : Frame) (j : Nat) :
    (s.push frame).holders j = s.holders j + if frame.holds j then 1 else 0 := by
  rw [holders, push, List.countP_cons, ← Nat.add_assoc]
  rfl

theorem holders_pop {frame : Frame} {stack : List Frame} (hst : s.stack = frame :: stack) (j : Nat) :
    s.holders j = holders { s with stack } j + if frame.holds j then 1 else 0 := by
  rw [holders, hst, List.countP_cons, ← Nat.add_assoc]
  rfl

/-- What a call held is still counted when it has returned. -/
theorem Sound.pop (hs : s.Sound) {frame : Frame} {stack : List Frame} (hst : s.stack = frame :: stack) :
    Ordered { s with stack } ∧
      Balanced { s with stack } fun j => holders { s with stack } j + if frame.holds j then 1 else 0 := by
  refine ⟨hs.toOrdered.sublist (hst ▸ List.sublist_cons_self ..), ?_⟩
  rw [← funext (holders_pop hst)]
  exact hs.balanced.of_plugins rfl

theorem Sound.pop_free (hs : s.Sound) {frame : Frame} {stack : List Frame} (hst : s.stack = frame :: stack)
    (hfree : ∀ j, frame.holds j = false) : Sound { s with stack } := by
  obtain ⟨ho, hb⟩ := hs.pop hst
  exact ⟨ho, hb.congr fun j => by simp [hfree]⟩

theorem Sound.pop_held (hs : s.Sound) {frame : Frame} {stack : List Frame} (hst : s.stack = frame :: stack)
    (hheld : ∀ j, frame.holds j = decide (i = j)) : Balanced { s with stack } (plus (holders { s with stack }) i) := by
  obtain ⟨-, hb⟩ := hs.pop hst
  exact hb.congr fun j => by simp [plus, hheld]

theorem Ordered.push (ho : s.Ordered) {frame : Frame}
    (hd : ∀ i, frame.destroys i = true →
      (∀ frame' ∈ s.stack, frame'.destroys i = false) ∧ ∃ p, s.plugins i = some p ∧ p.isValid = true)
    (hn : ∀ i, frame = .newp i → .newp i ∉ s.stack ∧ ∃ p, s.plugins i = some p ∧ p.timers = none)
    (hr : ∀ source timerId number, frame = .timer source timerId number →
      ∃ timer, s.timer? source.plugin timerId = some timer ∧ timer.number = number) : (s.push frame).Ordered where
  mapped := ho.mapped
  given := ho.given
  destroyed := by
    intro i
    rw [Instances.push, List.countP_cons]
    split
    · rename_i hi
      have hnone : (s.stack.countP fun frame => frame.destroys i) = 0 :=
        List.countP_eq_zero.mpr fun frame' hmem => by simp [(hd i hi).1 frame' hmem]
      rw [hnone]
    · exact ho.destroyed i
  destroying := by
    intro frame' hmem i hi
    rcases List.mem_cons.mp hmem with rfl | hmem
    · exact (hd i hi).2
    · exact ho.destroying frame' hmem i hi
  newp := by
    intro i
    rw [Instances.push, List.count_cons]
    split
    · rename_i hi
      rw [List.count_eq_zero.mpr (hn i (beq_iff_eq.mp hi)).1]
    · exact ho.newp i
  unfinished := by
    intro i hmem
    rcases List.mem_cons.mp hmem with heq | hmem
    · exact (hn i heq.symm).2
    · exact ho.unfinished i hmem
  running := by
    intro source timerId number hmem
    rcases List.mem_cons.mp hmem with heq | hmem
    · exact hr source timerId number heq.symm
    · exact ho.running source timerId number hmem

/-- A call that has nothing to do with NPP_New, NPP_Destroy and timers. -/
theorem Ordered.push_plain (ho : s.Ordered) {frame : Frame} (hd : ∀ i, frame.destroys i = false)
    (hn : ∀ i, frame ≠ .newp i) (hr : ∀ source timerId number, frame ≠ .timer source timerId number) :
    (s.push frame).Ordered := by
  refine ho.push (fun i hi => ?_) (fun i hi => absurd hi (hn i)) fun source timerId number heq => absurd heq (hr source timerId number)
  rw [hd i] at hi
  cases hi

theorem Sound.push_free (hs : s.Sound) {frame : Frame} (ho : (s.push frame).Ordered) (hfree : ∀ j, frame.holds j = false) :
    (s.push frame).Sound := by
  refine ⟨ho, Balanced.of_plugins (s := s) (hs.balanced.congr fun j => ?_) rfl⟩
  rw [holders_push, hfree]
  rfl

theorem sources_le_holders (s : Instances) (i : Nat) :
    s.sources.countP (fun source => source.plugin = i) ≤ s.holders i := Nat.le_add_right ..

/-- The reference that is dropped was one more than there are holders. -/
theorem unref_sound (ho : s.Ordered) (hb : s.Balanced (plus s.holders i)) :
    ∃ p, s.plugins i = some p ∧ p.isFreed = false ∧ p.refcount = p.isValid.toNat + s.holders i + 1 ∧
      s.unref i = .ok (s.dropped i p) ∧ (s.dropped i p).Sound ∧ Keeps s (s.dropped i p) := by
  obtain ⟨p, hp, hf, hc⟩ := hb.live (i := i) (by simp)
  rw [plus_self] at hc
  have hdropped := hb.unref (sources_le_holders s i) hp
  have hkeeps : Keeps s (s.dropped i p) := by
    refine .dropped (fun hone => ?_) hp
    have := sources_le_holders s i
    omega
  refine ⟨p, hp, hf, by omega, unref_eq hp hf, ⟨ho.keeps hkeeps hdropped fun _ => Nat.le_refl _, ?_⟩, hkeeps⟩
  rwa [hkeeps.holders]

/-- The reference that is taken is for a call. -/
theorem Sound.ref_push (hs : s.Sound) (hl : s.Live i) (frame : Frame) (hheld : ∀ j, frame.holds j = decide (i = j))
    (hd : ∀ i, frame.destroys i = false) (hn : ∀ i, frame ≠ .newp i)
    (hr : ∀ source timerId number, frame ≠ .timer source timerId number) :
    ∃ t, s.ref i = .ok t ∧ (t.push frame).Sound ∧ Keeps s t := by
  obtain ⟨p, hp, hf⟩ := hl
  have hkeeps : Keeps s (s.put i { p with refcount := p.refcount + 1 }) := .put hp rfl rfl rfl (.inl rfl)
  have hb := hs.balanced.ref hp hf
  refine ⟨_, ref_eq hp hf, ⟨?_, ?_⟩, hkeeps⟩
  · exact (hs.toOrdered.keeps hkeeps hb fun j => Nat.le_add_right ..).push_plain hd hn hr
  · refine Balanced.of_plugins (hb.congr fun j => ?_) rfl
    rw [holders_push, hkeeps.holders, hheld]
    simp [plus]

/-! ### Records change, sources come and go -/

theorem Ordered.of_eq (ho : s.Ordered) (hi : t.ids = s.ids) (hp : t.plugins = s.plugins) (hst : t.stack = s.stack) : t.Ordered := by
  obtain ⟨h₁, h₂, h₃, h₄, h₅, h₆, h₇⟩ := ho
  unfold timer? at *
  constructor <;> simp only [hi, hp, hst, timer?] <;> assumption

theorem Sound.of_eq (hs : s.Sound) (hi : t.ids = s.ids) (hp : t.plugins = s.plugins) (hsrc : t.sources = s.sources)
    (hst : t.stack = s.stack) : t.Sound := by
  refine ⟨hs.toOrdered.of_eq hi hp hst, ?_⟩
  rw [holders_eq hsrc hst]
  exact hs.balanced.of_plugins hp

/-- A record changes, with the timers that run still there. -/
theorem Sound.put_timers (hs : s.Sound) (hp : s.plugins i = some p) (hid : q.instanceId = p.instanceId)
    (hc : q.refcount = p.refcount) (hv : q.isValid = p.isValid) (hf : q.isFreed = p.isFreed)
    (hnew : .newp i ∈ s.stack → q.timers = none)
    (hrun : ∀ source timerId number, .timer source timerId number ∈ s.stack → source.plugin = i →
      ∃ timer, (q.timers.bind fun timers => timers.lookup timerId) = some timer ∧ timer.number = number) :
    (s.put i q).Sound where
  mapped := by
    intro id j hj
    obtain ⟨p', hp', hpid, hpv⟩ := hs.mapped id j hj
    by_cases hji : j = i
    · subst hji
      rw [hp] at hp'
      cases hp'
      exact ⟨q, Function.update_self .., hid.trans hpid, hv.trans hpv⟩
    · exact ⟨p', (Function.update_of_ne hji ..).trans hp', hpid, hpv⟩
  given := by
    intro j p' hp' hpv
    by_cases hji : j = i
    · subst hji
      rw [put_plugins, Function.update_self] at hp'
      cases hp'
      rw [hid]
      exact hs.given j p hp (hv ▸ hpv)
    · rw [put_plugins, Function.update_of_ne hji] at hp'
      exact hs.given j p' hp' hpv
  destroyed := hs.destroyed
  destroying := by
    intro frame hframe j hj
    obtain ⟨p', hp', hpv⟩ := hs.destroying frame hframe j hj
    by_cases hji : j = i
    · subst hji
      rw [hp] at hp'
      cases hp'
      exact ⟨q, Function.update_self .., hv.trans hpv⟩
    · exact ⟨p', (Function.update_of_ne hji ..).trans hp', hpv⟩
  newp := hs.newp
  unfinished := by
    intro j hj
    by_cases hji : j = i
    · subst hji
      exact ⟨q, Function.update_self .., hnew hj⟩
    · obtain ⟨p', hp', ht⟩ := hs.unfinished j hj
      exact ⟨p', (Function.update_of_ne hji ..).trans hp', ht⟩
  running := by
    intro source timerId number hmem
    by_cases hji : source.plugin = i
    · obtain ⟨timer, ht, hn⟩ := hrun source timerId number hmem hji
      refine ⟨timer, ?_, hn⟩
      rw [hji, timer?_of_some (Function.update_self ..), ht]
    · obtain ⟨timer, ht, hn⟩ := hs.running source timerId number hmem
      refine ⟨timer, ?_, hn⟩
      rw [← ht, timer?, timer?, put_plugins, Function.update_of_ne hji]
  balanced := hs.balanced.put_same hp hc hv hf

theorem holders_erase {source : Source} (hmem : source ∈ s.sources) :
    s.holders = plus (holders { s with sources := s.sources.erase source }) source.plugin := by
  funext j
  have hperm := (List.perm_cons_erase hmem).countP_eq fun source => source.plugin = j
  rw [List.countP_cons] at hperm
  rw [plus, holders, holders, hperm]
  simp only [decide_eq_true_eq]
  omega

/-- A source goes, with the reference it has. -/
theorem Sound.unref_source (hs : s.Sound) {source : Source} (hmem : source ∈ s.sources) :
    ∃ t, unref { s with sources := s.sources.erase source } source.plugin = .ok t ∧ t.Sound ∧
      Keeps { s with sources := s.sources.erase source } t := by
  have hb := hs.balanced
  rw [holders_erase hmem] at hb
  obtain ⟨p, -, -, -, ht, hsound, hkeeps⟩ := unref_sound (s := { s with sources := s.sources.erase source })
    (hs.toOrdered.of_eq rfl rfl rfl) (hb.of_plugins rfl)
  exact ⟨_, ht, hsound, hkeeps⟩

/-- timer_free() takes at most the one source of the timer. -/
theorem Sound.timerFree (hs : s.Sound) (timer : Timer) :
    ∃ t, s.timerFree timer = .ok t ∧ t.Sound ∧ Keeps { s with sources := t.sources } t ∧
      ∀ i, s.holders i ≤ t.holders i + 1 := by
  unfold Instances.timerFree sourceRemove
  split
  · exact ⟨s, rfl, hs, .refl s, fun i => Nat.le_succ _⟩
  · split
    · rename_i source hfind
      have hmem := List.mem_of_find?_eq_some hfind
      obtain ⟨t, ht, hsound, hkeeps⟩ := hs.unref_source hmem
      refine ⟨t, ht, hsound, ?_, ?_⟩
      · rw [hkeeps.sources]
        exact hkeeps
      · intro i
        rw [hkeeps.holders, holders_erase hmem, plus]
        split <;> omega
    · have hkeeps := Keeps.refl s
      exact ⟨_, rfl, hs.of_eq rfl rfl rfl rfl, ⟨rfl, rfl, rfl, hkeeps.plugins, hkeeps.absent⟩, fun i => Nat.le_succ _⟩

/-- Valid instances are there, and those that something refers to. -/
theorem Sound.live (hs : s.Sound) (hp : s.plugins i = some p) (hi : p.isValid = true ∨ s.holders i ≠ 0) : p.isFreed = false := by
  refine Bool.eq_false_iff.mpr fun hf => ?_
  obtain ⟨hv, hz⟩ := (hs.balanced.freed hp).mp hf
  rcases hi with hi | hi
  · rw [hv] at hi
    cases hi
  · exact hi hz

/-! ### Calls and timers -/

/-- The timer under this id may be freed: its callback does not run, and something else refers to the instance. -/
def Idle (s : Instances) (i : Nat) (timerId : UInt32) : Prop :=
  s.timer? i timerId = none ∨
    (∀ source number, .timer source timerId number ∈ s.stack → source.plugin ≠ i) ∧
      ∃ p, s.plugins i = some p ∧ (p.isValid = true ∨ 1 < p.refcount)

theorem Sound.npnCall (hs : s.Sound) (hl : s.Live i) : ∃ t, (s.ref i).map (·.push (.npn i)) = .ok t ∧ t.Sound := by
  obtain ⟨t, ht, hsound, -⟩ := hs.ref_push hl (.npn i) (fun _ => rfl) (fun _ => rfl) nofun nofun
  rw [ht]
  exact ⟨_, rfl, hsound⟩

theorem Sound.unref_popped (hs : s.Sound) {frame : Frame} {stack : List Frame} (hst : s.stack = frame :: stack)
    (hheld : ∀ j, frame.holds j = decide (i = j)) :
    ∃ p, s.plugins i = some p ∧ p.refcount = p.isValid.toNat + holders { s with stack } i + 1 ∧
      unref { s with stack } i = .ok (dropped { s with stack } i p) ∧ (dropped { s with stack } i p).Sound ∧
      Keeps { s with stack } (dropped { s with stack } i p) := by
  obtain ⟨p, hp, -, hc, ht, hsound, hkeeps⟩ := unref_sound (hs.pop hst).1 (hs.pop_held hst hheld)
  exact ⟨p, hp, hc, ht, hsound, hkeeps⟩

theorem Sound.printData (hs : s.Sound) {pieces : Nat} (hl : pieces ≠ 0 → s.Live i) :
    ∃ t, s.printData i pieces = .ok t ∧ t.Sound := by
  cases pieces with
  | zero => exact ⟨s, rfl, hs⟩
  | succ left =>
    obtain ⟨t, ht, hsound, -⟩ :=
      hs.ref_push (hl left.succ_ne_zero) (.printData i left) (fun _ => rfl) (fun _ => rfl) nofun nofun
    rw [Instances.printData, ht]
    exact ⟨_, rfl, hsound⟩

theorem Sound.printDataReturns (hs : s.Sound) {left : Nat} {stack : List Frame} (hst : s.stack = .printData i left :: stack)
    (hl : left ≠ 0 → ∃ p, s.plugins i = some p ∧ 1 < p.refcount) :
    ∃ t, ((unref { s with stack } i).bind fun s => s.printData i left) = .ok t ∧ t.Sound := by
  obtain ⟨p, hp, hc, ht, hsound, hkeeps⟩ := hs.unref_popped hst fun _ => rfl
  rw [ht]
  refine hsound.printData fun hleft => ?_
  obtain ⟨p', hp', hone⟩ := hl hleft
  rw [hp] at hp'
  cases hp'
  obtain ⟨q, hq, -, hv, -⟩ := hkeeps.plugins i p hp
  refine ⟨q, hq, hsound.live hq ?_⟩
  rw [hv, hkeeps.holders]
  cases hvalid : p.isValid
  · rw [hvalid, Bool.toNat_false] at hc
    exact .inr (by omega)
  · exact .inl rfl

/-- A source comes, with a reference. -/
theorem Sound.ref_source (hs : s.Sound) (hl : s.Live i) :
    ∃ t, s.ref i = .ok t ∧ ∀ source lastSource, source.plugin = i →
      Sound { t with sources := source :: t.sources, lastSource } := by
  obtain ⟨p, hp, hf⟩ := hl
  have hkeeps : Keeps s (s.put i { p with refcount := p.refcount + 1 }) := .put hp rfl rfl rfl (.inl rfl)
  have hb := hs.balanced.ref hp hf
  refine ⟨_, ref_eq hp hf, fun source lastSource hsource => ⟨?_, ?_⟩⟩
  · exact (hs.toOrdered.keeps hkeeps hb fun j => Nat.le_add_right ..).of_eq rfl rfl rfl
  · refine Balanced.of_plugins (hb.congr fun j => ?_) rfl
    rw [holders, List.countP_cons, plus, holders]
    simp only [put_sources, put_stack, hsource, decide_eq_true_eq]
    omega

theorem Sound.npnPluginThreadAsyncCall (hs : s.Sound) (hl : s.Live i) :
    ∃ t, s.npnPluginThreadAsyncCall i = .ok t ∧ t.Sound := by
  obtain ⟨t, ht, hsound⟩ := hs.ref_source hl
  rw [Instances.npnPluginThreadAsyncCall, ht]
  exact ⟨_, rfl, hsound _ _ rfl⟩

/-- Where something else refers to the instance, it outlives a timer. -/
theorem Sound.timerFree_live (hs : s.Sound) (hp : s.plugins i = some p) (hi : p.isValid = true ∨ 1 < p.refcount)
    (timer : Timer) : ∃ t, s.timerFree timer = .ok t ∧ t.Sound ∧ t.Live i := by
  obtain ⟨t, ht, hsound, hkeeps, hle⟩ := hs.timerFree timer
  obtain ⟨q, hq, -, hv, -⟩ := hkeeps.plugins i p hp
  refine ⟨t, ht, hsound, q, hq, hsound.live hq ?_⟩
  rw [hv]
  have hc := hs.balanced.refcount hp
  have := hle i
  cases hvalid : p.isValid
  · rw [hvalid] at hi hc
    simp only [Bool.toNat_false, Bool.false_eq_true, false_or] at hi hc
    exact .inr (by omega)
  · exact .inl rfl

theorem lookup_of_timer? (hp : s.plugins i = some p) {timerId : UInt32} {timer : Timer} (ht : s.timer? i timerId = some timer) :
    ∃ timers, p.timers = some timers ∧ timers.lookup timerId = some timer := by
  rw [timer?_of_some hp] at ht
  exact Option.bind_eq_some_iff.mp ht

/-- Timers under other ids stay. -/
theorem Sound.running_of_ne (hs : s.Sound) (hp : s.plugins i = some p) {timerId : UInt32} (hidle : s.Idle i timerId)
    {f : Table UInt32 Timer → Table UInt32 Timer} (hf : ∀ timers id, id ≠ timerId → (f timers).lookup id = timers.lookup id)
    (source : Source) (id : UInt32) (number : Nat) (hmem : .timer source id number ∈ s.stack) (hsource : source.plugin = i) :
    ∃ timer, ((p.timers.map f).bind fun timers => timers.lookup id) = some timer ∧ timer.number = number := by
  obtain ⟨timer, ht, hn⟩ := hs.running source id number hmem
  rw [hsource] at ht
  have hid : id ≠ timerId := by
    rintro rfl
    rcases hidle with hnone | ⟨hquiet, -⟩
    · rw [ht] at hnone
      cases hnone
    · exact hquiet source number hmem hsource
  obtain ⟨timers, htimers, hlookup⟩ := lookup_of_timer? hp ht
  refine ⟨timer, ?_, hn⟩
  rw [htimers]
  exact (hf timers id hid).trans hlookup

theorem Sound.npnScheduleTimer (hs : s.Sound) (hp : s.plugins i = some p) (hf : p.isFreed = false)
    (hidle : s.Idle i p.nextTimerId) (repeats : Bool) : ∃ t, s.npnScheduleTimer i repeats = .ok t ∧ t.Sound := by
  set timer : Timer := ⟨s.lastTimer + 1, repeats, s.lastSource + 1⟩ with htimer
  set q : PluginInstance :=
    { p with nextTimerId := p.nextTimerId + 1, timers := p.timers.map (AList.insert p.nextTimerId timer) } with hq
  set s₁ : Instances := { s with lastSource := s.lastSource + 1, lastTimer := s.lastTimer + 1 } with hs₁
  have hsound₁ : s₁.Sound := hs.of_eq rfl rfl rfl rfl
  have hput : (s₁.put i q).Sound := by
    refine hsound₁.put_timers (p := p) hp rfl rfl rfl rfl ?_ ?_
    · intro hmem
      obtain ⟨p', hp', ht⟩ := hs.unfinished i hmem
      rw [hp] at hp'
      cases hp'
      rw [hq, ht]
      rfl
    · exact hs.running_of_ne hp hidle fun timers id hne => AList.lookup_insert_ne hne
  have hfree : ∃ t, (s.timer? i p.nextTimerId).elim (.ok (s₁.put i q)) (s₁.put i q).timerFree = .ok t ∧ t.Sound ∧ t.Live i := by
    cases hold : s.timer? i p.nextTimerId with
    | none => exact ⟨_, rfl, hput, q, Function.update_self .., hf⟩
    | some old =>
      rcases hidle with hnone | ⟨-, p', hp', hi⟩
      · rw [hold] at hnone
        cases hnone
      · rw [hp] at hp'
        cases hp'
        exact hput.timerFree_live (Function.update_self ..) hi old
  obtain ⟨t, ht, hsound, hlive⟩ := hfree
  obtain ⟨t', ht', hsound'⟩ := hsound.ref_source hlive
  refine ⟨_, ?_, hsound' ⟨timer.sourceId, i, .timer p.nextTimerId⟩ t'.lastSource rfl⟩
  rw [Instances.npnScheduleTimer, access_eq hp hf]
  simp only [Except.bind, ← htimer, ← hq, ← hs₁]
  rw [ht]
  simp only [ht', Except.map]
  rfl

theorem Sound.npnUnscheduleTimer (hs : s.Sound) (hp : s.plugins i = some p) (hf : p.isFreed = false) {timerId : UInt32}
    (hidle : s.Idle i timerId) : ∃ t, s.npnUnscheduleTimer i timerId = .ok t ∧ t.Sound := by
  cases htimer : s.timer? i timerId with
  | none =>
    refine ⟨s, ?_, hs⟩
    rw [Instances.npnUnscheduleTimer, access_eq hp hf]
    simp only [Except.bind, htimer]
  | some timer =>
    rcases hidle with hnone | ⟨hquiet, p', hp', hi⟩
    · rw [htimer] at hnone
      cases hnone
    rw [hp] at hp'
    cases hp'
    have hput : (s.put i { p with timers := p.timers.map (AList.erase timerId) }).Sound := by
      refine hs.put_timers hp rfl rfl rfl rfl ?_ ?_
      · intro hmem
        obtain ⟨p', hp', ht⟩ := hs.unfinished i hmem
        rw [hp] at hp'
        cases hp'
        simp [ht]
      · exact hs.running_of_ne hp (.inr ⟨hquiet, p, hp, hi⟩) fun timers id hne => AList.lookup_erase_ne hne
    obtain ⟨t, ht, hsound, q, hq, hqf⟩ := hput.timerFree_live (Function.update_self ..) hi timer
    refine ⟨t, ?_, hsound⟩
    rw [Instances.npnUnscheduleTimer, access_eq hp hf]
    simp only [Except.bind, htimer, ht, access_eq hq hqf, Except.map]

theorem Sound.dispatch (hs : s.Sound) {source : Source} (hmem : source ∈ s.sources) :
    ∃ t, s.dispatch source = .ok t ∧ t.Sound := by
  obtain ⟨t, ht, hsound, -⟩ := hs.unref_source hmem
  set s₁ : Instances := { s with sources := s.sources.erase source } with hs₁
  have hb := hs.balanced
  rw [holders_erase hmem, ← hs₁] at hb
  have ho₁ : s₁.Ordered := hs.toOrdered.of_eq rfl rfl rfl
  obtain ⟨p, hp, hf, -⟩ := hb.live (i := source.plugin) (by simp)
  -- The reference of the source is that of the call.
  have hcall (frame : Frame) (ho : (s₁.push frame).Ordered) (hheld : ∀ j, frame.holds j = decide (source.plugin = j)) :
      (s₁.push frame).Sound := by
    refine ⟨ho, Balanced.of_plugins (s := s₁) ((hb.of_plugins rfl).congr fun j => ?_) rfl⟩
    rw [holders_push, hheld, plus]
    simp only [decide_eq_true_eq]
  have ha : s₁.access source.plugin = .ok p := access_eq hp hf
  unfold Instances.dispatch
  simp only [← hs₁, ha, Except.bind]
  split
  · split
    · exact ⟨_, rfl, hcall _ (ho₁.push_plain (fun _ => rfl) nofun nofun) fun _ => rfl⟩
    · exact ⟨t, ht, hsound⟩
  · rename_i timerId hcallback
    split
    · rename_i timer htimer
      have hfound : s₁.timer? source.plugin timerId = some timer := by
        split at htimer
        · exact htimer
        · cases htimer
      refine ⟨_, rfl, hcall _ (ho₁.push nofun nofun fun source' timerId' number heq => ?_) fun _ => rfl⟩
      cases heq
      exact ⟨timer, hfound, rfl⟩
    · exact ⟨t, ht, hsound⟩

theorem Sound.asyncCallReturns (hs : s.Sound) {source : Source} {stack : List Frame}
    (hst : s.stack = .asyncCall source :: stack) : ∃ t, unref { s with stack } source.plugin = .ok t ∧ t.Sound := by
  obtain ⟨p, -, -, ht, hsound, -⟩ := hs.unref_popped hst fun _ => rfl
  exact ⟨_, ht, hsound⟩

/-- A timer that ran has no source any more. -/
theorem Sound.put_ran (hs : s.Sound) (hp : s.plugins i = some p) {timerId : UInt32} {timer : Timer}
    (htimer : s.timer? i timerId = some timer) :
    (s.put i { p with timers := p.timers.map (AList.insert timerId { timer with sourceId := 0 }) }).Sound := by
  refine hs.put_timers hp rfl rfl rfl rfl ?_ ?_
  · intro hmem
    obtain ⟨p', hp', ht⟩ := hs.unfinished i hmem
    rw [hp] at hp'
    cases hp'
    simp [ht]
  · intro source id number hmem hsource
    obtain ⟨timer', htimer', hn⟩ := hs.running source id number hmem
    rw [hsource] at htimer'
    obtain ⟨timers, htimers, hlookup⟩ := lookup_of_timer? hp htimer'
    by_cases hid : id = timerId
    · subst hid
      rw [htimer] at htimer'
      cases htimer'
      exact ⟨{ timer with sourceId := 0 }, by simp [htimers], hn⟩
    · refine ⟨timer', ?_, hn⟩
      rw [htimers]
      exact (AList.lookup_insert_ne hid).trans hlookup

theorem Sound.timerDataRan (hs : s.Sound) {source : Source} {timerId : UInt32} {number : Nat} {stack : List Frame}
    (hst : s.stack = .timer source timerId number :: stack) :
    ∃ t, timerDataRan { s with stack } source timerId number = .ok t ∧ t.Sound := by
  obtain ⟨p, hp, -, ht, hsound, -⟩ := hs.unref_popped hst fun _ => rfl
  have hheld := hs.pop_held hst fun _ => rfl
  obtain ⟨timer, htimer, hn⟩ := hs.running source timerId number (hst ▸ List.mem_cons_self ..)
  have hfound : timer? { s with stack } source.plugin timerId = some timer := htimer
  obtain ⟨p', hp', hf, -⟩ := hheld.live (i := source.plugin) (by simp)
  have hpp : p' = p := Option.some.inj (hp'.symm.trans hp)
  subst hpp
  unfold Instances.timerDataRan
  simp only [hfound, if_neg (not_not.mpr hn)]
  split
  · split
    · exact ⟨_, ht, hsound⟩
    · -- The source waits again.
      refine ⟨_, rfl, (hs.pop hst).1.of_eq rfl rfl rfl, Balanced.of_plugins (hheld.congr fun j => ?_) rfl⟩
      rw [holders, List.countP_cons, plus, holders]
      simp only [decide_eq_true_eq]
      omega
  · have hput := hs.put_ran hp htimer
    have hst' : (s.put source.plugin
        { p' with timers := p'.timers.map (AList.insert timerId { timer with sourceId := 0 }) }).stack =
          .timer source timerId number :: stack := hst
    obtain ⟨q, -, -, ht', hsound', -⟩ := hput.unref_popped hst' fun _ => rfl
    have ha : access { s with stack } source.plugin = .ok p' := access_eq hp hf
    refine ⟨_, ?_, hsound'⟩
    rw [ha]
    exact ht'

/-! ### NPP_New and NPP_Destroy -/

theorem ne_of_absent (hi : s.plugins i = none) (hp : s.plugins j = some p) : j ≠ i := by
  rintro rfl
  rw [hi] at hp
  cases hp

theorem put_of_ne (hi : s.plugins i = none) (hp : s.plugins j = some p) : (s.put i q).plugins j = some p :=
  (Function.update_of_ne (ne_of_absent hi hp) ..).trans hp

/-- A new instance. -/
theorem Sound.put_new (hs : s.Sound) (hi : s.plugins i = none) {instanceId : UInt32} (hid : instanceId ≠ 0)
    (failed : Bool) :
    (put { s with ids := s.ids.insert instanceId i } i ⟨instanceId, 1, true, 0, none, none, false, failed⟩).Sound where
  mapped := by
    intro id j hj
    rw [put_ids, Table.lookup_insert] at hj
    split at hj
    · rename_i heq
      cases hj
      exact ⟨_, Function.update_self .., heq.symm, rfl⟩
    · obtain ⟨p, hp, hpid, hv⟩ := hs.mapped id j hj
      exact ⟨p, put_of_ne hi hp, hpid, hv⟩
  given := by
    intro j p hp hv
    by_cases hji : j = i
    · subst hji
      rw [put_plugins, Function.update_self] at hp
      cases hp
      exact hid
    · rw [put_plugins, Function.update_of_ne hji] at hp
      exact hs.given j p hp hv
  destroyed := hs.destroyed
  destroying := by
    intro frame hframe j hj
    obtain ⟨p, hp, hv⟩ := hs.destroying frame hframe j hj
    exact ⟨p, put_of_ne hi hp, hv⟩
  newp := hs.newp
  unfinished := by
    intro j hj
    obtain ⟨p, hp, ht⟩ := hs.unfinished j hj
    exact ⟨p, put_of_ne hi hp, ht⟩
  running := by
    intro source timerId number hmem
    obtain ⟨timer, ht, hn⟩ := hs.running source timerId number hmem
    obtain ⟨p, hp, -⟩ := Option.bind_eq_some_iff.mp ht
    refine ⟨timer, ?_, hn⟩
    rw [timer?_of_some hp] at ht
    exact (timer?_of_some (put_of_ne hi hp) timerId).trans ht
  balanced := by
    have hzero : s.holders i = 0 := Nat.eq_zero_of_add_eq_zero_left (hs.balanced.absent i hi)
    refine Balanced.put (s := { s with ids := s.ids.insert instanceId i }) (hs.balanced.of_plugins rfl)
      (fun _ _ => rfl) ?_ ?_
    · change 1 = 1 + s.holders i
      rw [hzero]
    · simp

theorem Sound.nppNew (hs : s.Sound) (hi : s.plugins i = none) {instanceId : UInt32} (hid : instanceId ≠ 0)
    (npp : Bool) : (s.nppNew i instanceId npp).Sound := by
  have hput := hs.put_new hi hid (!npp)
  unfold Instances.nppNew
  split
  · refine hput.push_free (hput.toOrdered.push nofun (fun j hj => ?_) nofun) fun _ => rfl
    cases hj
    refine ⟨fun hmem => ?_, _, Function.update_self .., rfl⟩
    obtain ⟨p, hp, -⟩ := hs.unfinished i hmem
    exact absurd rfl (ne_of_absent hi hp)
  · exact hput

theorem Sound.newpReturned (hs : s.Sound) {stack : List Frame} (hst : s.stack = .newp i :: stack) (hl : s.Live i)
    (ok xtSource : Bool) : ∃ t, newpReturned { s with stack } i ok xtSource = .ok t ∧ t.Sound := by
  obtain ⟨p, hp, hf⟩ := hl
  obtain ⟨p', hp', ht⟩ := hs.unfinished i (hst ▸ List.mem_cons_self ..)
  rw [hp] at hp'
  cases hp'
  have hpop : Sound { s with stack } := hs.pop_free hst fun _ => rfl
  have hnew : .newp i ∉ stack := by
    have hcount := hs.newp i
    rw [hst, List.count_cons_self] at hcount
    exact List.count_eq_zero.mp (by omega)
  have hquiet (q : PluginInstance) (source : Source) (timerId : UInt32) (number : Nat) (hmem : .timer source timerId number ∈ stack)
      (hsource : source.plugin = i) :
      ∃ timer, (q.timers.bind fun timers => timers.lookup timerId) = some timer ∧ timer.number = number := by
    obtain ⟨timer, htimer, -⟩ := hs.running source timerId number (hst ▸ List.mem_cons_of_mem _ hmem)
    rw [hsource, timer?_of_some hp, ht] at htimer
    cases htimer
  have ha : access { s with stack } i = .ok p := access_eq hp hf
  unfold Instances.newpReturned
  rw [ha]
  refine ⟨_, rfl, ?_⟩
  dsimp only
  split
  · exact hpop.put_timers hp rfl rfl rfl rfl (fun hmem => absurd hmem hnew) (hquiet _)
  · exact hpop.put_timers hp rfl rfl rfl rfl (fun hmem => absurd hmem hnew) (hquiet _)

/-- An id is of a valid instance. -/
theorem Sound.received (hs : s.Sound) {instanceId : UInt32} (hi : s.ids.lookup instanceId = some i) (frame : Nat → Frame) :
    s.receive instanceId frame = .ok (s.push (frame i)) ∧ ∃ p, s.plugins i = some p ∧ p.isValid = true := by
  obtain ⟨p, hp, -, hv⟩ := hs.mapped instanceId i hi
  refine ⟨?_, p, hp, hv⟩
  rw [receive, hi, Option.elim_some, access_eq hp (hs.live hp (.inl hv))]
  rfl

theorem Sound.nppDestroy (hs : s.Sound) {instanceId : UInt32}
    (hd : ∀ i, s.ids.lookup instanceId = some i → ∀ frame ∈ s.stack, frame.destroys i = false) :
    ∃ t, s.receive instanceId .destroy = .ok t ∧ t.Sound := by
  cases hi : s.ids.lookup instanceId with
  | none => exact ⟨s, by rw [receive, hi]; rfl, hs⟩
  | some i =>
    obtain ⟨ht, hvalid⟩ := hs.received hi .destroy
    refine ⟨_, ht, hs.push_free (hs.toOrdered.push (fun j hj => ?_) nofun nofun) fun _ => rfl⟩
    cases of_decide_eq_true hj
    exact ⟨hd i hi, hvalid⟩

theorem Sound.nppPrint (hs : s.Sound) (instanceId : UInt32) : ∃ t, s.receive instanceId .print = .ok t ∧ t.Sound := by
  cases hi : s.ids.lookup instanceId with
  | none => exact ⟨s, by rw [receive, hi]; rfl, hs⟩
  | some i =>
    obtain ⟨ht, -⟩ := hs.received hi .print
    exact ⟨_, ht, hs.push_free (hs.toOrdered.push_plain (fun _ => rfl) nofun nofun) fun _ => rfl⟩

/-- What invalidating an instance leaves of the state. -/
def invalidated (s : Instances) (i : Nat) (p : PluginInstance) : Instances :=
  { s with ids := if p.instanceId = 0 then s.ids else s.ids.erase p.instanceId }.put i { p with instanceId := 0, isValid := false }

theorem invalidate_eq (hp : s.plugins i = some p) (hf : p.isFreed = false) : s.invalidate i = .ok (s.invalidated i p) := by
  rw [invalidate, access_eq hp hf]
  rfl

/-- An instance that is not valid any more has the reference that was NPP_New's to drop. -/
theorem Sound.invalidated (hs : s.Sound) (hp : s.plugins i = some p) (hv : p.isValid = true)
    (hstack : ∀ frame ∈ s.stack, frame.destroys i = false) :
    (s.invalidated i p).Ordered ∧ (s.invalidated i p).Balanced (plus s.holders i) := by
  have hne : p.instanceId ≠ 0 := hs.given i p hp hv
  have hids : (s.invalidated i p).ids = s.ids.erase p.instanceId := if_neg hne
  have hother {j : Nat} (hji : j ≠ i) : (s.invalidated i p).plugins j = s.plugins j := Function.update_of_ne hji ..
  have hself : (s.invalidated i p).plugins i = some { p with instanceId := 0, isValid := false } := Function.update_self ..
  refine ⟨⟨?_, ?_, hs.destroyed, ?_, hs.newp, ?_, ?_⟩, ?_⟩
  · intro id j hj
    rw [hids, Table.lookup_erase] at hj
    split at hj
    · cases hj
    · rename_i hid
      obtain ⟨q, hq, hqid, hqv⟩ := hs.mapped id j hj
      have hji : j ≠ i := by
        rintro rfl
        rw [hp] at hq
        cases hq
        exact hid hqid.symm
      exact ⟨q, (hother hji).trans hq, hqid, hqv⟩
  · intro j q hq hqv
    by_cases hji : j = i
    · subst hji
      rw [hself] at hq
      cases hq
      cases hqv
    · exact hs.given j q ((hother hji).symm.trans hq) hqv
  · intro frame hframe j hj
    have hji : j ≠ i := by
      rintro rfl
      rw [hstack frame hframe] at hj
      cases hj
    obtain ⟨q, hq, hqv⟩ := hs.destroying frame hframe j hj
    exact ⟨q, (hother hji).trans hq, hqv⟩
  · intro j hj
    obtain ⟨q, hq, ht⟩ := hs.unfinished j hj
    by_cases hji : j = i
    · subst hji
      rw [hp] at hq
      cases hq
      exact ⟨_, hself, ht⟩
    · exact ⟨q, (hother hji).trans hq, ht⟩
  · intro source timerId number hmem
    obtain ⟨timer, ht, hn⟩ := hs.running source timerId number hmem
    refine ⟨timer, ?_, hn⟩
    by_cases hji : source.plugin = i
    · rw [hji] at ht ⊢
      rw [timer?_of_some hp] at ht
      exact (timer?_of_some hself timerId).trans ht
    · rw [timer?, hother hji]
      exact ht
  · have hc := hs.balanced.refcount hp
    rw [hv, Bool.toNat_true] at hc
    refine Balanced.put (s := { s with ids := _ }) (hs.balanced.of_plugins rfl) (fun j hji => plus_of_ne hji) ?_ ?_
    · simp only [plus_self, Bool.toNat_false]
      omega
    · simp [hs.live hp (.inl hv), hc]

theorem Sound.nppDestroyed (hs : s.Sound) (hp : s.plugins i = some p) (hv : p.isValid = true)
    (hstack : ∀ frame ∈ s.stack, frame.destroys i = false) :
    ∃ q, s.nppDestroyed i = .ok (dropped (s.invalidated i p) i q) ∧ (dropped (s.invalidated i p) i q).Sound ∧
      Keeps (s.invalidated i p) (dropped (s.invalidated i p) i q) := by
  obtain ⟨ho, hb⟩ := hs.invalidated hp hv hstack
  obtain ⟨q, -, -, -, ht, hsound, hkeeps⟩ := unref_sound ho hb
  refine ⟨q, ?_, hsound, hkeeps⟩
  rw [Instances.nppDestroyed, invalidate_eq hp (hs.live hp (.inl hv))]
  exact ht

/-- Behind NPP_Destroy there is no other of the instance, and it is still valid. -/
theorem Sound.pop_destroying (hs : s.Sound) {frame : Frame} {stack : List Frame} (hst : s.stack = frame :: stack)
    (hd : frame.destroys i = true) (hfree : ∀ j, frame.holds j = false) :
    Sound { s with stack } ∧ (∃ p, s.plugins i = some p ∧ p.isValid = true) ∧ ∀ frame ∈ stack, frame.destroys i = false := by
  refine ⟨hs.pop_free hst hfree, hs.destroying frame (hst ▸ List.mem_cons_self ..) i hd, fun frame' hmem => ?_⟩
  have hcount := hs.destroyed i
  rw [hst, List.countP_cons, if_pos hd] at hcount
  have hzero : (stack.countP fun frame => frame.destroys i) = 0 := by omega
  simpa using List.countP_eq_zero.mp hzero frame' hmem

theorem Sound.putObject (hs : s.Sound) (o : Nat) (x : Object) : (s.putObject o x).Sound := hs.of_eq rfl rfl rfl rfl

/-- The next object, or the end of g_NPP_Destroy. -/
theorem invalidateNPObjects_ok {order : List Nat} (ht : s.invalidateNPObjects i order = .ok t) :
    order = [] ∧ s.nppDestroyed i = .ok t ∨ ∃ o rest x, order = o :: rest ∧ s.objects o = some x ∧ x.isFreed = false ∧
      t = (s.putObject o { x with invalidated := x.invalidated + 1 }).push (.invalidate i o rest) := by
  unfold invalidateNPObjects at ht
  split at ht
  · exact .inl ⟨rfl, ht⟩
  · split at ht
    · cases ht
    · rename_i x hx
      split at ht
      · cases ht
      · rename_i hf
        cases ht
        exact .inr ⟨_, _, x, rfl, hx, Bool.eq_false_iff.mpr hf, rfl⟩

theorem Sound.invalidateNPObjects (hs : s.Sound) (hp : s.plugins i = some p) (hv : p.isValid = true)
    (hstack : ∀ frame ∈ s.stack, frame.destroys i = false) {order : List Nat} (ht : s.invalidateNPObjects i order = .ok t) :
    t.Sound := by
  obtain ⟨-, ht⟩ | ⟨o, rest, x, -, -, -, rfl⟩ := invalidateNPObjects_ok ht
  · obtain ⟨q, hq, hsound, -⟩ := hs.nppDestroyed hp hv hstack
    rw [hq] at ht
    cases ht
    exact hsound
  · refine (hs.putObject ..).push_free ((hs.putObject ..).toOrdered.push (fun j hj => ?_) nofun nofun) fun _ => rfl
    cases of_decide_eq_true hj
    exact ⟨hstack, p, hp, hv⟩

theorem Sound.destroyReturned (hs : s.Sound) {stack : List Frame} (hst : s.stack = .destroy i :: stack) {order : List Nat}
    (ht : destroyReturned { s with stack } i order = .ok t) : t.Sound := by
  obtain ⟨hpop, ⟨p, hp, hv⟩, hstack⟩ := hs.pop_destroying (i := i) hst (decide_eq_true rfl) fun _ => rfl
  have ha : access { s with stack } i = .ok p := access_eq hp (hs.live hp (.inl hv))
  rw [Instances.destroyReturned, ha] at ht
  have hmark : (markRemaining { s with stack } i).Sound := hpop.of_eq rfl rfl rfl rfl
  exact hmark.invalidateNPObjects hp hv hstack ht

/-- What unregistering an object, and counting it, leaves of the state. -/
def unregistered (s : Instances) (o : Nat) : Instances :=
  npobjectUnregister { s with objects := Function.update s.objects o ((s.objects o).map fun x =>
    { x with unregistered := x.unregistered + (s.owners.lookup o).isSome.toNat }) } o

theorem invalidateReturned_ok {o : Nat} {rest : List Nat} (ht : s.invalidateReturned i o rest = .ok t) :
    ∃ s₁, s₁ = s.unregistered o ∧ s.Live i ∧ s₁.invalidateNPObjects i rest = .ok t := by
  obtain ⟨p, ha, ht⟩ := bound_ok ht
  obtain ⟨hp, hf⟩ := access_ok ha
  exact ⟨_, rfl, ⟨p, hp, hf⟩, ht⟩

theorem Sound.invalidateReturned (hs : s.Sound) {o : Nat} {rest : List Nat} {stack : List Frame}
    (hst : s.stack = .invalidate i o rest :: stack) (ht : invalidateReturned { s with stack } i o rest = .ok t) : t.Sound := by
  obtain ⟨hpop, ⟨p, hp, hv⟩, hstack⟩ := hs.pop_destroying (i := i) hst (decide_eq_true rfl) fun _ => rfl
  obtain ⟨s₁, rfl, -, ht⟩ := invalidateReturned_ok ht
  exact (hpop.of_eq (t := unregistered { s with stack } o) rfl rfl rfl rfl).invalidateNPObjects hp hv hstack ht

/-! ### Objects -/

/-- The table of an instance's objects changes only where it is not gone over. -/
theorem onNPObjects_ok {f : List Nat → List Nat} (ht : s.onNPObjects i f = .ok t) :
    ∃ p, s.plugins i = some p ∧ p.isFreed = false ∧ (t = s ∧ p.npobjects.map f = p.npobjects ∨
      ∃ npobjects, p.npobjects = some npobjects ∧ s.isWalked i = false ∧ t = s.put i { p with npobjects := some (f npobjects) }) := by
  obtain ⟨p, ha, ht⟩ := bound_ok ht
  obtain ⟨hp, hf⟩ := access_ok ha
  refine ⟨p, hp, hf, ?_⟩
  split at ht
  · rename_i hnone
    cases ht
    exact .inl ⟨rfl, by rw [hnone]; rfl⟩
  · rename_i npobjects hnp
    split at ht
    · rename_i hsame
      cases ht
      exact .inl ⟨rfl, by rw [hnp, Option.map_some, hsame]⟩
    · split at ht
      · cases ht
      · rename_i hwalked
        cases ht
        exact .inr ⟨npobjects, hnp, Bool.eq_false_iff.mpr hwalked, rfl⟩

theorem Sound.onNPObjects (hs : s.Sound) {f : List Nat → List Nat} (ht : s.onNPObjects i f = .ok t) : t.Sound := by
  obtain ⟨p, hp, -, ⟨rfl, -⟩ | ⟨npobjects, -, -, rfl⟩⟩ := onNPObjects_ok ht
  · exact hs
  · exact hs.keeps (.put hp rfl rfl rfl (.inl rfl)) (hs.balanced.put_same hp rfl rfl rfl)

theorem npnCreateObject_ok {plugin : Option Nat} {isProxy : Bool} {npobj : Option Nat}
    (ht : s.npnCreateObject plugin isProxy npobj = .ok t) :
    npobj = none ∧ t = s ∨ ∃ o s₁, npobj = some o ∧ s₁ = s.putObject o ⟨isProxy, 1, false, plugin, false, 0, 0⟩ ∧
      (isProxy = true ∧ t = s₁ ∨ isProxy = false ∧ s.owners.lookup o = none ∧
        ∃ s₂, s₂ = { s₁ with owners := s₁.owners.insert o plugin } ∧
          (plugin = none ∧ t = s₂ ∨ ∃ i, plugin = some i ∧ s₂.onNPObjects i (fun npobjects => o :: npobjects) = .ok t)) := by
  cases npobj with
  | none =>
    cases ht
    exact .inl ⟨rfl, rfl⟩
  | some o =>
    refine .inr ⟨o, _, rfl, rfl, ?_⟩
    simp only [Instances.npnCreateObject] at ht
    split at ht
    · rename_i hproxy
      cases ht
      exact .inl ⟨hproxy, rfl⟩
    · rename_i hproxy
      split at ht
      · cases ht
      · rename_i hregistered
        refine .inr ⟨Bool.eq_false_iff.mpr hproxy, Option.not_isSome_iff_eq_none.mp hregistered, _, rfl, ?_⟩
        cases plugin with
        | none =>
          cases ht
          exact .inl ⟨rfl, rfl⟩
        | some i => exact .inr ⟨i, rfl, ht⟩

theorem npnRetainObject_ok {o : Nat} (ht : s.npnRetainObject o = .ok t) :
    ∃ x, s.objects o = some x ∧ x.isFreed = false ∧ t = s.putObject o { x with referenceCount := x.referenceCount + 1 } := by
  unfold npnRetainObject at ht
  split at ht
  · cases ht
  · rename_i x hx
    split at ht
    · cases ht
    · rename_i hf
      cases ht
      exact ⟨x, hx, Bool.eq_false_iff.mpr hf, rfl⟩

/-- The last reference takes the object out of the tables. -/
theorem npnReleaseObject_ok {o : Nat} (ht : s.npnReleaseObject o = .ok t) :
    ∃ x s₁, s.objects o = some x ∧ x.isFreed = false ∧ s₁ = s.putObject o { x with referenceCount := x.referenceCount - 1 } ∧
      (x.referenceCount ≠ 1 ∧ t = s₁ ∨ x.referenceCount = 1 ∧
        ∃ s₂, ((s.owners.lookup o).join = none ∧ s₂ = s₁ ∨
            ∃ i, (s.owners.lookup o).join = some i ∧ s₁.onNPObjects i (fun npobjects => npobjects.erase o) = .ok s₂) ∧
          t = (s₂.npobjectUnregister o).putObject o { x with referenceCount := 0, isFreed := true }) := by
  unfold npnReleaseObject at ht
  split at ht
  · cases ht
  · rename_i x hx
    split at ht
    · cases ht
    · rename_i hf
      refine ⟨x, _, hx, Bool.eq_false_iff.mpr hf, rfl, ?_⟩
      dsimp only at ht
      split at ht
      · rename_i hone
        cases ht
        exact .inl ⟨hone, rfl⟩
      · rename_i hone
        obtain ⟨s₂, hs₂, rfl⟩ := mapped_ok ht
        refine .inr ⟨not_not.mp hone, s₂, ?_, rfl⟩
        change (s.owners.lookup o).join.elim _ _ = _ at hs₂
        cases howner : (s.owners.lookup o).join with
        | none =>
          rw [howner] at hs₂
          cases hs₂
          exact .inl ⟨rfl, rfl⟩
        | some i =>
          rw [howner] at hs₂
          exact .inr ⟨i, rfl, hs₂⟩

theorem Sound.npnCreateObject (hs : s.Sound) {plugin : Option Nat} {isProxy : Bool} {npobj : Option Nat}
    (ht : s.npnCreateObject plugin isProxy npobj = .ok t) : t.Sound := by
  obtain ⟨-, rfl⟩ | ⟨o, s₁, -, rfl, ⟨-, rfl⟩ | ⟨-, -, s₂, rfl, ⟨-, rfl⟩ | ⟨i, -, ht⟩⟩⟩ := npnCreateObject_ok ht
  · exact hs
  · exact hs.putObject ..
  · exact hs.of_eq rfl rfl rfl rfl
  · refine Sound.onNPObjects ?_ ht
    exact hs.of_eq rfl rfl rfl rfl

theorem Sound.npnRetainObject (hs : s.Sound) {o : Nat} (ht : s.npnRetainObject o = .ok t) : t.Sound := by
  obtain ⟨x, -, -, rfl⟩ := npnRetainObject_ok ht
  exact hs.putObject ..

theorem Sound.npnReleaseObject (hs : s.Sound) {o : Nat} (ht : s.npnReleaseObject o = .ok t) : t.Sound := by
  obtain ⟨x, s₁, -, -, rfl, ⟨-, rfl⟩ | ⟨-, s₂, hs₂, rfl⟩⟩ := npnReleaseObject_ok ht
  · exact hs.putObject ..
  · refine Sound.of_eq (s := s₂) ?_ rfl rfl rfl rfl
    obtain ⟨-, rfl⟩ | ⟨i, -, hs₂⟩ := hs₂
    · exact hs.putObject ..
    · exact (hs.putObject ..).onNPObjects hs₂

/-! ### Steps -/

/-- What keeps a step from using a record that was freed: NPP_Destroy is called once for an instance, NPP_New finds it
    when the plugin's has returned, as NPP_Print does where more data is left, and a timer is not taken away while its
    callback runs, or from an instance that only it refers to. -/
def Careful (s : Instances) : Event → Prop
  | .newpReturns _ _ => ∀ i stack, s.stack = .newp i :: stack → s.Live i
  | .nppDestroy instanceId => ∀ i, s.ids.lookup instanceId = some i → ∀ frame ∈ s.stack, frame.destroys i = false
  | .printReturns pieces => ∀ i stack, s.stack = .print i :: stack → pieces ≠ 0 → s.Live i
  | .printDataReturns => ∀ i left stack, s.stack = .printData i left :: stack → left ≠ 0 →
      ∃ p, s.plugins i = some p ∧ 1 < p.refcount
  | .npnScheduleTimer i _ => ∀ p, s.plugins i = some p → s.Idle i p.nextTimerId
  | .npnUnscheduleTimer i timerId => s.Idle i timerId
  | _ => True

/-- Creating and releasing objects, and going over them, has its own conditions. -/
def Event.ofObjects : Event → Bool
  | .destroyReturns _ | .invalidateReturns | .allocateReturns _ | .npnRetainObject _ | .npnReleaseObject _ => true
  | _ => false

/-- A step that has nothing to do with objects finds all it uses. -/
theorem Sound.returns (hs : s.Sound) {e : Event} (hc : s.Careful e) (he : e.ofObjects = false) {r : Result}
    (h : s.returns e = some r) : ∃ t, r = .ok t ∧ t.Sound := by
  cases e with
  | newpReturns ok xtSource =>
    simp only [Instances.returns] at h
    split at h
    · rename_i i stack hst
      cases h
      exact hs.newpReturned hst (hc i stack hst) ok xtSource
    · cases h
  | npnReturns =>
    simp only [Instances.returns] at h
    split at h
    · rename_i i stack hst
      cases h
      obtain ⟨p, -, -, ht, hsound, -⟩ := hs.unref_popped hst fun _ => rfl
      exact ⟨_, ht, hsound⟩
    · cases h
  | printReturns pieces =>
    simp only [Instances.returns] at h
    split at h
    · rename_i i stack hst
      cases h
      exact (hs.pop_free hst fun _ => rfl).printData (hc i stack hst)
    · cases h
  | printDataReturns =>
    simp only [Instances.returns] at h
    split at h
    · rename_i i left stack hst
      cases h
      exact hs.printDataReturns hst (hc i left stack hst)
    · cases h
  | callbackReturns =>
    simp only [Instances.returns] at h
    split at h
    · rename_i source stack hst
      cases h
      exact hs.asyncCallReturns hst
    · rename_i source timerId number stack hst
      cases h
      exact hs.timerDataRan hst
    · cases h
  | destroyReturns | invalidateReturns | allocateReturns | npnRetainObject | npnReleaseObject => cases he
  | _ => cases h

theorem Sound.exec (hs : s.Sound) {e : Event} (ha : s.Allowed e) (hc : s.Careful e) (he : e.ofObjects = false) {r : Result}
    (h : s.exec e = some r) : ∃ t, r = .ok t ∧ t.Sound := by
  cases e with
  | nppNew i instanceId npp =>
    cases h
    obtain ⟨hi, hid, -⟩ := ha
    exact ⟨_, rfl, hs.nppNew hi hid npp⟩
  | nppDestroy instanceId =>
    cases h
    exact hs.nppDestroy hc
  | npnCall i =>
    cases h
    exact hs.npnCall ha
  | nppPrint instanceId =>
    cases h
    exact hs.nppPrint instanceId
  | npnPluginThreadAsyncCall i =>
    cases h
    exact hs.npnPluginThreadAsyncCall ha
  | npnScheduleTimer i repeats =>
    cases h
    obtain ⟨p, hp, hf⟩ := ha
    exact hs.npnScheduleTimer hp hf (hc p hp) repeats
  | npnUnscheduleTimer i timerId =>
    cases h
    obtain ⟨p, hp, hf⟩ := ha
    exact hs.npnUnscheduleTimer hp hf hc
  | dispatch source =>
    cases h
    exact hs.dispatch ha
  | npnCreateObject plugin isProxy =>
    cases h
    exact ⟨_, rfl, hs.push_free (hs.toOrdered.push_plain (fun _ => rfl) nofun nofun) fun _ => rfl⟩
  | destroyReturns | invalidateReturns | allocateReturns | npnRetainObject | npnReleaseObject => cases he
  | newpReturns | npnReturns | printReturns | printDataReturns | callbackReturns => exact hs.returns hc he h

/-- What the steps with objects make of the state is sound. -/
theorem Sound.exec_ofObjects (hs : s.Sound) {e : Event} (he : e.ofObjects = true) (h : s.exec e = some (.ok t)) : t.Sound := by
  cases e with
  | destroyReturns order =>
    simp only [Instances.exec, Instances.returns] at h
    split at h
    · rename_i i stack hst
      exact hs.destroyReturned hst (Option.some.inj h)
    · cases h
  | invalidateReturns =>
    simp only [Instances.exec, Instances.returns] at h
    split at h
    · rename_i i o rest stack hst
      exact hs.invalidateReturned hst (Option.some.inj h)
    · cases h
  | allocateReturns npobj =>
    simp only [Instances.exec, Instances.returns] at h
    split at h
    · rename_i plugin isProxy stack hst
      exact (hs.pop_free hst fun _ => rfl).npnCreateObject (Option.some.inj h)
    · cases h
  | npnRetainObject o => exact hs.npnRetainObject (Option.some.inj h)
  | npnReleaseObject o => exact hs.npnReleaseObject (Option.some.inj h)
  | _ => cases he

theorem sound_started : started.Sound where
  mapped := nofun
  given := nofun
  destroyed _ := Nat.zero_le _
  destroying := nofun
  newp _ := Nat.zero_le _
  unfinished := nofun
  running := nofun
  balanced := ⟨fun _ _ => rfl, nofun, nofun⟩

end Instances
end NSPluginWrapper
