import NSPluginWrapper.Theorems.Instances

/-! Plugin instances from NPP_New to the last reference: each is freed once, behind its last use, its id is its own until
    then, and nothing is called for it once it is invalid. -/

namespace NSPluginWrapper
open Lib

namespace Instances
variable {s t u : Instances} {i j : Nat} {p q : PluginInstance}

/-! ### What a step leaves as it was -/

/-- From `s` to `t` the objects and the calls that wait stay; an instance may be freed. -/
structure Spares (s t : Instances) : Prop where
  objects : t.objects = s.objects
  owners : t.owners = s.owners
  stack : t.stack = s.stack
  plugins : ∀ i p, s.plugins i = some p → ∃ q, t.plugins i = some q ∧ q.isValid = p.isValid ∧ q.failed = p.failed ∧
    (p.isFreed = true → q.isFreed = true) ∧ (q.npobjects = p.npobjects ∨ q.isFreed = true ∧ q.npobjects = none)
  absent : ∀ i, s.plugins i = none → t.plugins i = none

theorem Spares.of_eq (ho : t.objects = s.objects) (hw : t.owners = s.owners) (hst : t.stack = s.stack)
    (hp : t.plugins = s.plugins) : Spares s t :=
  ⟨ho, hw, hst, fun i p hi => ⟨p, by rw [hp, hi], rfl, rfl, id, .inl rfl⟩, fun i hi => by rw [hp, hi]⟩

theorem Spares.refl (s : Instances) : Spares s s := .of_eq rfl rfl rfl rfl

theorem Spares.trans (h : Spares s t) (h' : Spares t u) : Spares s u where
  objects := h'.objects.trans h.objects
  owners := h'.owners.trans h.owners
  stack := h'.stack.trans h.stack
  plugins := by
    intro i p hp
    obtain ⟨q, hq, hv, hfail, hf, hnp⟩ := h.plugins i p hp
    obtain ⟨r, hr, hv', hfail', hf', hnp'⟩ := h'.plugins i q hq
    refine ⟨r, hr, hv'.trans hv, hfail'.trans hfail, fun hpf => hf' (hf hpf), ?_⟩
    rcases hnp' with hnp' | hnp'
    · rcases hnp with hnp | ⟨hqf, hnp⟩
      · exact .inl (hnp'.trans hnp)
      · exact .inr ⟨hf' hqf, hnp'.trans hnp⟩
    · exact .inr hnp'
  absent i hi := h'.absent i (h.absent i hi)

theorem Spares.put (hp : s.plugins i = some p) (hv : q.isValid = p.isValid) (hfail : q.failed = p.failed)
    (hf : p.isFreed = true → q.isFreed = true)
    (hnp : q.npobjects = p.npobjects ∨ q.isFreed = true ∧ q.npobjects = none) : Spares s (s.put i q) where
  objects := rfl
  owners := rfl
  stack := rfl
  plugins := by
    intro j p' hp'
    by_cases hji : j = i
    · subst hji
      rw [hp] at hp'
      cases hp'
      exact ⟨q, Function.update_self .., hv, hfail, hf, hnp⟩
    · exact ⟨p', (Function.update_of_ne hji ..).trans hp', rfl, rfl, id, .inl rfl⟩
  absent j hj := (Function.update_of_ne (ne_of_absent hj hp).symm ..).trans hj

theorem ref_spares (h : s.ref i = .ok t) : Spares s t := by
  obtain ⟨p, ha, rfl⟩ := mapped_ok h
  exact .put (access_ok ha).1 rfl rfl id (.inl rfl)

theorem unref_spares (h : s.unref i = .ok t) : Spares s t := by
  obtain ⟨p, ha, rfl⟩ := mapped_ok h
  obtain ⟨hp, hf⟩ := access_ok ha
  split
  · unfold finalize
    generalize s.sources.filter _ = sources
    refine Spares.trans (t := { s with sources }) (.of_eq rfl rfl rfl rfl) ?_
    exact .put hp rfl rfl (fun _ => rfl) (.inr ⟨rfl, rfl⟩)
  · exact .put hp rfl rfl id (.inl rfl)

theorem timerFree_spares {timer : Timer} (h : s.timerFree timer = .ok t) : Spares s t := by
  unfold timerFree sourceRemove at h
  split at h
  · cases h
    exact .refl s
  · split at h
    · refine Spares.trans ?_ (unref_spares h)
      exact .of_eq rfl rfl rfl rfl
    · cases h
      exact .of_eq rfl rfl rfl rfl

theorem freeOld_spares {old : Option Timer} (h : old.elim (.ok s) s.timerFree = .ok t) : Spares s t := by
  cases old with
  | none =>
    cases h
    exact .refl s
  | some old => exact timerFree_spares h

theorem npnPluginThreadAsyncCall_spares (h : s.npnPluginThreadAsyncCall i = .ok t) : Spares s t := by
  obtain ⟨s₁, hs₁, rfl⟩ := mapped_ok h
  exact (ref_spares hs₁).trans (.of_eq rfl rfl rfl rfl)

theorem npnScheduleTimer_spares {repeats : Bool} (h : s.npnScheduleTimer i repeats = .ok t) : Spares s t := by
  obtain ⟨p, ha, h⟩ := bound_ok h
  obtain ⟨s₂, hs₂, h⟩ := bound_ok h
  obtain ⟨s₃, hs₃, rfl⟩ := mapped_ok h
  refine Spares.trans (Spares.trans ?_ (freeOld_spares hs₂)) ((ref_spares hs₃).trans (.of_eq rfl rfl rfl rfl))
  refine Spares.trans (t := { s with lastSource := s.lastSource + 1, lastTimer := s.lastTimer + 1 })
    (.of_eq rfl rfl rfl rfl) ?_
  exact .put (access_ok ha).1 rfl rfl id (.inl rfl)

theorem npnUnscheduleTimer_spares {timerId : UInt32} (h : s.npnUnscheduleTimer i timerId = .ok t) : Spares s t := by
  obtain ⟨p, ha, h⟩ := bound_ok h
  split at h
  · cases h
    exact .refl s
  · obtain ⟨s₁, hs₁, h⟩ := bound_ok h
    obtain ⟨-, -, rfl⟩ := mapped_ok h
    refine Spares.trans ?_ (timerFree_spares hs₁)
    exact .put (access_ok ha).1 rfl rfl id (.inl rfl)

theorem timerDataRan_spares {source : Source} {timerId : UInt32} {number : Nat}
    (h : s.timerDataRan source timerId number = .ok t) : Spares s t := by
  unfold timerDataRan at h
  split at h
  · cases h
  · split at h
    · cases h
    · split at h
      · split at h
        · exact unref_spares h
        · cases h
          exact .of_eq rfl rfl rfl rfl
      · obtain ⟨p, ha, h⟩ := bound_ok h
        refine Spares.trans ?_ (unref_spares h)
        exact .put (access_ok ha).1 rfl rfl id (.inl rfl)

/-! ### Callbacks -/

/-- A pending call or a timer of the instance runs. -/
def Frame.calls : Frame → Nat → Bool
  | .asyncCall source, i | .timer source _ _, i => source.plugin = i
  | _, _ => false

def callbacks (s : Instances) (i : Nat) : Nat := s.stack.countP fun frame => frame.calls i

/-- NPP_Destroy has invalidated the instance. -/
def Invalid (s : Instances) (i : Nat) : Prop := ∃ p, s.plugins i = some p ∧ p.isValid = false

theorem Spares.invalid (h : Spares s t) (hi : s.Invalid i) : t.Invalid i := by
  obtain ⟨p, hp, hv⟩ := hi
  obtain ⟨q, hq, hqv, -⟩ := h.plugins i p hp
  exact ⟨q, hq, hqv.trans hv⟩

theorem Invalid.put (hi : s.Invalid i) (hp : s.plugins j = some p) (hv : q.isValid = p.isValid) : (s.put j q).Invalid i := by
  obtain ⟨p', hp', hv'⟩ := hi
  by_cases hij : i = j
  · subst hij
    rw [hp] at hp'
    cases hp'
    exact ⟨q, Function.update_self .., hv.trans hv'⟩
  · exact ⟨p', (Function.update_of_ne hij ..).trans hp', hv'⟩

/-- From `s` to `t`, an invalid instance stays so, and nothing is called for it. -/
def Silent (s t : Instances) (i : Nat) : Prop := t.Invalid i ∧ t.callbacks i ≤ s.callbacks i

theorem Silent.trans (h : Silent s t i) (h' : Silent t u i) : Silent s u i := ⟨h'.1, Nat.le_trans h'.2 h.2⟩

theorem Spares.silent (h : Spares s t) (hi : s.Invalid i) : Silent s t i := by
  refine ⟨h.invalid hi, ?_⟩
  rw [callbacks, callbacks, h.stack]

theorem silent_push (hi : s.Invalid i) {frame : Frame} (hframe : frame.calls i = false) : Silent s (s.push frame) i := by
  refine ⟨hi, ?_⟩
  rw [callbacks, push, List.countP_cons, hframe]
  exact Nat.le_refl _

theorem silent_pop (hi : s.Invalid i) {frame : Frame} {stack : List Frame} (hst : s.stack = frame :: stack) :
    Silent s { s with stack } i := by
  refine ⟨hi, ?_⟩
  rw [callbacks, callbacks, hst]
  exact (List.sublist_cons_self ..).countP_le ..

/-- Only the objects change. -/
theorem silent_of_eq (hi : s.Invalid i) (hp : t.plugins = s.plugins) (hst : t.stack = s.stack) : Silent s t i := by
  refine ⟨?_, by rw [callbacks, callbacks, hst]⟩
  obtain ⟨p, hpi, hv⟩ := hi
  exact ⟨p, hp ▸ hpi, hv⟩

theorem invalidated_invalid (hi : s.Invalid i) : (s.invalidated j p).Invalid i := by
  obtain ⟨p', hp', hv'⟩ := hi
  by_cases hij : i = j
  · subst hij
    exact ⟨_, Function.update_self .., rfl⟩
  · exact ⟨p', (Function.update_of_ne hij ..).trans hp', hv'⟩

theorem nppDestroyed_ok (h : s.nppDestroyed j = .ok t) :
    ∃ p, s.plugins j = some p ∧ p.isFreed = false ∧ (s.invalidated j p).unref j = .ok t := by
  obtain ⟨s₁, hs₁, h⟩ := bound_ok h
  obtain ⟨p, ha, rfl⟩ := mapped_ok hs₁
  obtain ⟨hp, hf⟩ := access_ok ha
  exact ⟨p, hp, hf, h⟩

theorem nppDestroyed_silent (h : s.nppDestroyed j = .ok t) (hi : s.Invalid i) : Silent s t i := by
  obtain ⟨p, -, -, h⟩ := nppDestroyed_ok h
  exact Silent.trans ⟨invalidated_invalid hi, Nat.le_refl _⟩ ((unref_spares h).silent (invalidated_invalid hi))

theorem invalidateNPObjects_silent {order : List Nat} (h : s.invalidateNPObjects j order = .ok t) (hi : s.Invalid i) :
    Silent s t i := by
  obtain ⟨-, h⟩ | ⟨o, rest, x, -, -, -, rfl⟩ := invalidateNPObjects_ok h
  · exact nppDestroyed_silent h hi
  · exact silent_push (s := s.putObject _ _) hi rfl

theorem onNPObjects_silent {f : List Nat → List Nat} (h : s.onNPObjects j f = .ok t) (hi : s.Invalid i) : Silent s t i := by
  obtain ⟨p, hp, -, ⟨rfl, -⟩ | ⟨npobjects, -, -, rfl⟩⟩ := onNPObjects_ok h
  · exact ⟨hi, Nat.le_refl _⟩
  · exact ⟨hi.put hp rfl, Nat.le_refl _⟩

theorem npnCreateObject_silent {plugin : Option Nat} {isProxy : Bool} {npobj : Option Nat}
    (h : s.npnCreateObject plugin isProxy npobj = .ok t) (hi : s.Invalid i) : Silent s t i := by
  obtain ⟨-, rfl⟩ | ⟨o, s₁, -, rfl, ⟨-, rfl⟩ | ⟨-, -, s₂, rfl, ⟨-, rfl⟩ | ⟨j, -, h⟩⟩⟩ := npnCreateObject_ok h
  · exact ⟨hi, Nat.le_refl _⟩
  · exact silent_of_eq hi rfl rfl
  · exact silent_of_eq hi rfl rfl
  · have hs₂ : Silent s { s.putObject o ⟨isProxy, 1, false, plugin, false, 0, 0⟩ with owners := s.owners.insert o plugin } i :=
      silent_of_eq hi rfl rfl
    exact hs₂.trans (onNPObjects_silent h hs₂.1)

theorem npnReleaseObject_silent {o : Nat} (h : s.npnReleaseObject o = .ok t) (hi : s.Invalid i) : Silent s t i := by
  obtain ⟨x, s₁, -, -, rfl, ⟨-, rfl⟩ | ⟨-, s₂, hs₂, rfl⟩⟩ := npnReleaseObject_ok h
  · exact silent_of_eq hi rfl rfl
  · have hs₁ : Silent s (s.putObject o { x with referenceCount := x.referenceCount - 1 }) i := silent_of_eq hi rfl rfl
    have hs : Silent s s₂ i := by
      obtain ⟨-, rfl⟩ | ⟨j, -, hs₂⟩ := hs₂
      · exact hs₁
      · exact hs₁.trans (onNPObjects_silent hs₂ hs₁.1)
    exact hs.trans (silent_of_eq hs.1 rfl rfl)

/-- A callback is called for a valid instance. -/
theorem dispatch_silent {source : Source} (h : s.dispatch source = .ok t) (hi : s.Invalid i) : Silent s t i := by
  obtain ⟨p, ha, h⟩ := bound_ok h
  obtain ⟨hp, -⟩ := access_ok ha
  have hs₁ : Silent s { s with sources := s.sources.erase source } i := silent_of_eq hi rfl rfl
  have hne (hv : p.isValid = true) : decide (source.plugin = i) = false := by
    refine decide_eq_false ?_
    rintro rfl
    obtain ⟨p', hp', hv'⟩ := hi
    rw [show s.plugins source.plugin = some p from hp] at hp'
    cases hp'
    rw [hv] at hv'
    cases hv'
  split at h
  · split at h
    · rename_i hv
      cases h
      exact hs₁.trans (silent_push hs₁.1 (hne hv))
    · exact hs₁.trans ((unref_spares h).silent hs₁.1)
  · split at h
    · rename_i htimer
      cases h
      have hv : p.isValid = true := by
        by_contra hv
        rw [if_neg hv] at htimer
        cases htimer
      exact hs₁.trans (silent_push hs₁.1 (hne hv))
    · exact hs₁.trans ((unref_spares h).silent hs₁.1)

theorem receive_silent {instanceId : UInt32} {frame : Nat → Frame} (hframe : ∀ j, (frame j).calls i = false)
    (h : s.receive instanceId frame = .ok t) (hi : s.Invalid i) : Silent s t i := by
  unfold receive at h
  cases hid : s.ids.lookup instanceId with
  | none =>
    rw [hid] at h
    cases h
    exact ⟨hi, Nat.le_refl _⟩
  | some j =>
    rw [hid] at h
    obtain ⟨-, -, rfl⟩ := mapped_ok h
    exact silent_push hi (hframe j)

theorem printData_silent {pieces : Nat} (h : s.printData j pieces = .ok t) (hi : s.Invalid i) : Silent s t i := by
  cases pieces with
  | zero =>
    cases h
    exact ⟨hi, Nat.le_refl _⟩
  | succ left =>
    obtain ⟨s₁, hs₁, rfl⟩ := mapped_ok h
    have hs := (ref_spares hs₁).silent hi
    exact hs.trans (silent_push hs.1 rfl)

theorem newpReturned_silent {ok xtSource : Bool} (h : s.newpReturned j ok xtSource = .ok t) (hi : s.Invalid i) :
    Silent s t i := by
  obtain ⟨p, ha, rfl⟩ := mapped_ok h
  obtain ⟨hp, -⟩ := access_ok ha
  split
  · exact ⟨hi.put hp rfl, Nat.le_refl _⟩
  · exact ⟨hi.put hp rfl, Nat.le_refl _⟩

theorem nppNew_silent (hj : s.plugins j = none) (instanceId : UInt32) (npp : Bool) (hi : s.Invalid i) :
    Silent s (s.nppNew j instanceId npp) i := by
  obtain ⟨p, hp, hv⟩ := hi
  have hput (q : PluginInstance) : Silent s (put { s with ids := s.ids.insert instanceId j } j q) i :=
    ⟨⟨p, put_of_ne hj hp, hv⟩, Nat.le_refl _⟩
  unfold nppNew
  split
  · exact (hput _).trans (silent_push (hput _).1 rfl)
  · exact hput _

theorem returns_silent {e : Event} (h : s.returns e = some (.ok t)) (hi : s.Invalid i) : Silent s t i := by
  -- Whatever returns, there is one call less, and the rest follows.
  have hpop {frame : Frame} {stack : List Frame} (hst : s.stack = frame :: stack)
      (hrest : Invalid { s with stack } i → Silent { s with stack } t i) : Silent s t i :=
    (silent_pop hi hst).trans (hrest hi)
  cases e with
  | newpReturns ok xtSource =>
    simp only [returns] at h
    split at h
    · rename_i hst
      exact hpop hst (newpReturned_silent (Option.some.inj h))
    · cases h
  | destroyReturns order =>
    simp only [returns] at h
    split at h
    · rename_i j stack hst
      refine hpop hst fun hi => ?_
      obtain ⟨-, -, h⟩ := bound_ok (Option.some.inj h)
      have hmark : Silent { s with stack } (markRemaining { s with stack } j) i := silent_of_eq hi rfl rfl
      exact hmark.trans (invalidateNPObjects_silent h hmark.1)
    · cases h
  | invalidateReturns =>
    simp only [returns] at h
    split at h
    · rename_i j o rest stack hst
      refine hpop hst fun hi => ?_
      obtain ⟨s₁, rfl, -, h⟩ := invalidateReturned_ok (Option.some.inj h)
      have hs : Silent { s with stack } (unregistered { s with stack } o) i := silent_of_eq hi rfl rfl
      exact hs.trans (invalidateNPObjects_silent h hs.1)
    · cases h
  | npnReturns =>
    simp only [returns] at h
    split at h
    · rename_i hst
      exact hpop hst (unref_spares (Option.some.inj h)).silent
    · cases h
  | printReturns pieces =>
    simp only [returns] at h
    split at h
    · rename_i hst
      exact hpop hst (printData_silent (Option.some.inj h))
    · cases h
  | printDataReturns =>
    simp only [returns] at h
    split at h
    · rename_i hst
      refine hpop hst fun hi => ?_
      obtain ⟨s₁, hs₁, h⟩ := bound_ok (Option.some.inj h)
      have hs := (unref_spares hs₁).silent hi
      exact hs.trans (printData_silent h hs.1)
    · cases h
  | callbackReturns =>
    simp only [returns] at h
    split at h
    · rename_i hst
      exact hpop hst (unref_spares (Option.some.inj h)).silent
    · rename_i hst
      exact hpop hst (timerDataRan_spares (Option.some.inj h)).silent
    · cases h
  | allocateReturns npobj =>
    simp only [returns] at h
    split at h
    · rename_i hst
      exact hpop hst (npnCreateObject_silent (Option.some.inj h))
    · cases h
  | _ => cases h

/-- No step calls anything for an instance that NPP_Destroy has invalidated. -/
theorem exec_silent {e : Event} (ha : s.Allowed e) (h : s.exec e = some (.ok t)) (hi : s.Invalid i) : Silent s t i := by
  cases e with
  | nppNew j instanceId npp =>
    cases h
    exact nppNew_silent ha.1 instanceId npp hi
  | nppDestroy instanceId => exact receive_silent (fun _ => rfl) (Option.some.inj h) hi
  | npnCall j =>
    obtain ⟨s₁, hs₁, rfl⟩ := mapped_ok (Option.some.inj h)
    have hs := (ref_spares hs₁).silent hi
    exact hs.trans (silent_push hs.1 rfl)
  | nppPrint instanceId => exact receive_silent (fun _ => rfl) (Option.some.inj h) hi
  | npnPluginThreadAsyncCall j => exact (npnPluginThreadAsyncCall_spares (Option.some.inj h)).silent hi
  | npnScheduleTimer j repeats => exact (npnScheduleTimer_spares (Option.some.inj h)).silent hi
  | npnUnscheduleTimer j timerId => exact (npnUnscheduleTimer_spares (Option.some.inj h)).silent hi
  | dispatch source => exact dispatch_silent (Option.some.inj h) hi
  | npnCreateObject plugin isProxy =>
    cases h
    exact silent_push hi rfl
  | npnRetainObject o =>
    obtain ⟨x, -, -, rfl⟩ := npnRetainObject_ok (Option.some.inj h)
    exact silent_of_eq hi rfl rfl
  | npnReleaseObject o => exact npnReleaseObject_silent (Option.some.inj h) hi
  | newpReturns | destroyReturns | invalidateReturns | npnReturns | printReturns | printDataReturns | callbackReturns
  | allocateReturns =>
    simp only [exec] at h
    exact returns_silent h hi

/-! ### Runs without objects -/

/-- No object was made, and NPP_New failed for no instance. -/
structure Plain (s : Instances) : Prop where
  objects : ∀ o, s.objects o = none
  frames : ∀ frame ∈ s.stack, (∀ plugin isProxy, frame ≠ .allocate plugin isProxy) ∧ ∀ i o rest, frame ≠ .invalidate i o rest
  records : ∀ i p, s.plugins i = some p → p.failed = false ∧ p.npobjects.getD [] = []

theorem Plain.spares (hs : s.Plain) (h : Spares s t) : t.Plain where
  objects o := by rw [h.objects, hs.objects]
  frames := h.stack ▸ hs.frames
  records := by
    intro i q hq
    cases hp : s.plugins i with
    | none =>
      rw [h.absent i hp] at hq
      cases hq
    | some p =>
      obtain ⟨q', hq', -, hfail, -, hnp⟩ := h.plugins i p hp
      rw [hq] at hq'
      cases hq'
      obtain ⟨hpf, hpn⟩ := hs.records i p hp
      refine ⟨hfail.trans hpf, ?_⟩
      rcases hnp with hnp | ⟨-, hnp⟩
      · rw [hnp, hpn]
      · rw [hnp]
        rfl

theorem Plain.put (hs : s.Plain) (hq : q.failed = false ∧ q.npobjects.getD [] = []) : (s.put i q).Plain where
  objects := hs.objects
  frames := hs.frames
  records := by
    intro j p hp
    by_cases hji : j = i
    · subst hji
      rw [put_plugins, Function.update_self] at hp
      cases hp
      exact hq
    · rw [put_plugins, Function.update_of_ne hji] at hp
      exact hs.records j p hp

theorem Plain.push (hs : s.Plain) {frame : Frame} (ha : ∀ plugin isProxy, frame ≠ .allocate plugin isProxy)
    (hi : ∀ i o rest, frame ≠ .invalidate i o rest) : (s.push frame).Plain where
  objects := hs.objects
  frames := by
    intro frame' hmem
    rcases List.mem_cons.mp hmem with rfl | hmem
    · exact ⟨ha, hi⟩
    · exact hs.frames frame' hmem
  records := hs.records

theorem Plain.pop (hs : s.Plain) {frame : Frame} {stack : List Frame} (hst : s.stack = frame :: stack) :
    Plain { s with stack } :=
  ⟨hs.objects, fun frame' hmem => hs.frames frame' (hst ▸ List.mem_cons_of_mem _ hmem), hs.records⟩

/-- Every NPP_New succeeds. -/
def Event.Succeeds : Event → Prop
  | .nppNew _ _ npp => npp = true
  | .newpReturns ok xtSource => ok = true ∧ xtSource = true
  | _ => True

theorem Plain.receive (hs : s.Plain) {instanceId : UInt32} {frame : Nat → Frame} (h : s.receive instanceId frame = .ok t)
    (ha : ∀ j plugin isProxy, frame j ≠ .allocate plugin isProxy) (hi : ∀ j i o rest, frame j ≠ .invalidate i o rest) :
    t.Plain := by
  unfold Instances.receive at h
  cases hid : s.ids.lookup instanceId with
  | none =>
    rw [hid] at h
    cases h
    exact hs
  | some j =>
    rw [hid] at h
    obtain ⟨-, -, rfl⟩ := mapped_ok h
    exact hs.push (ha j) (hi j)

theorem Plain.printData (hs : s.Plain) {pieces : Nat} (h : s.printData j pieces = .ok t) : t.Plain := by
  cases pieces with
  | zero =>
    cases h
    exact hs
  | succ left =>
    obtain ⟨s₁, hs₁, rfl⟩ := mapped_ok h
    exact (hs.spares (ref_spares hs₁)).push nofun nofun

theorem Plain.dispatch (hs : s.Plain) {source : Source} (h : s.dispatch source = .ok t) : t.Plain := by
  have hs₁ : Plain { s with sources := s.sources.erase source } := hs.spares (.of_eq rfl rfl rfl rfl)
  obtain ⟨p, -, h⟩ := bound_ok h
  split at h
  · split at h
    · cases h
      exact hs₁.push nofun nofun
    · exact hs₁.spares (unref_spares h)
  · split at h
    · cases h
      exact hs₁.push nofun nofun
    · exact hs₁.spares (unref_spares h)

theorem Plain.newpReturned (hs : s.Plain) (h : s.newpReturned i true true = .ok t) : t.Plain := by
  obtain ⟨p, -, rfl⟩ := mapped_ok h
  exact hs.put ⟨rfl, rfl⟩

theorem Plain.nppDestroyed (hs : s.Plain) (h : s.nppDestroyed i = .ok t) : t.Plain := by
  obtain ⟨p, hp, -, h⟩ := nppDestroyed_ok h
  have hput : (s.invalidated i p).Plain :=
    Plain.put (s := { s with ids := _ }) ⟨hs.objects, hs.frames, hs.records⟩ (hs.records i p hp)
  exact hput.spares (unref_spares h)

/-- Without objects NPP_Destroy comes to its end at once. -/
theorem Sound.destroyReturned_bare (hs : s.Sound) {stack : List Frame} (hst : s.stack = .destroy i :: stack)
    {order : List Nat} (ha : s.Allowed (.destroyReturns order))
    (hbare : ∀ p, s.plugins i = some p → p.npobjects.getD [] = []) :
    ∃ t, Instances.destroyReturned { s with stack } i order = .ok t ∧ t.Sound ∧
      Instances.nppDestroyed (markRemaining { s with stack } i) i = .ok t := by
  obtain ⟨hpop, ⟨p, hp, hv⟩, hstack⟩ := hs.pop_destroying (i := i) hst (decide_eq_true rfl) fun _ => rfl
  have horder : order = [] := by
    have hperm := ha i p stack hst hp
    rw [hbare p hp] at hperm
    exact hperm.eq_nil
  subst horder
  have hmark : (markRemaining { s with stack } i).Sound := hpop.of_eq rfl rfl rfl rfl
  obtain ⟨q, ht, hsound, -⟩ := hmark.nppDestroyed hp hv hstack
  refine ⟨_, ?_, hsound, ht⟩
  have ha : access { s with stack } i = .ok p := access_eq hp (hs.live hp (.inl hv))
  rw [Instances.destroyReturned, ha]
  exact ht

theorem Sound.destroyReturned_plain (hs : s.Sound) (hplain : s.Plain) {stack : List Frame}
    (hst : s.stack = .destroy i :: stack) {order : List Nat} (ha : s.Allowed (.destroyReturns order)) :
    ∃ t, Instances.destroyReturned { s with stack } i order = .ok t ∧ t.Sound ∧ t.Plain := by
  obtain ⟨t, ht, hsound, hd⟩ := hs.destroyReturned_bare hst ha fun p hp => (hplain.records i p hp).2
  have hplain' : (markRemaining { s with stack } i).Plain :=
    ⟨fun o => by simp [markRemaining, hplain.objects], (hplain.pop hst).frames, hplain.records⟩
  exact ⟨t, ht, hsound, hplain'.nppDestroyed hd⟩

theorem Plain.returns (hs : s.Plain) {e : Event} (hsucc : e.Succeeds) (he : e.ofObjects = false)
    (h : s.returns e = some (.ok t)) : t.Plain := by
  cases e with
  | newpReturns ok xtSource =>
    obtain ⟨rfl, rfl⟩ := hsucc
    simp only [Instances.returns] at h
    split at h
    · rename_i hst
      exact (hs.pop hst).newpReturned (Option.some.inj h)
    · cases h
  | npnReturns =>
    simp only [Instances.returns] at h
    split at h
    · rename_i hst
      exact (hs.pop hst).spares (unref_spares (Option.some.inj h))
    · cases h
  | printReturns pieces =>
    simp only [Instances.returns] at h
    split at h
    · rename_i hst
      exact (hs.pop hst).printData (Option.some.inj h)
    · cases h
  | printDataReturns =>
    simp only [Instances.returns] at h
    split at h
    · rename_i hst
      obtain ⟨s₁, hs₁, h⟩ := bound_ok (Option.some.inj h)
      exact ((hs.pop hst).spares (unref_spares hs₁)).printData h
    · cases h
  | callbackReturns =>
    simp only [Instances.returns] at h
    split at h
    · rename_i hst
      exact (hs.pop hst).spares (unref_spares (Option.some.inj h))
    · rename_i hst
      exact (hs.pop hst).spares (timerDataRan_spares (Option.some.inj h))
    · cases h
  | destroyReturns | invalidateReturns | allocateReturns | npnRetainObject | npnReleaseObject => cases he
  | _ => cases h

theorem Plain.exec (hs : s.Plain) {e : Event} (hsucc : e.Succeeds) (he : e.ofObjects = false)
    (hcreate : ∀ plugin isProxy, e ≠ .npnCreateObject plugin isProxy) (h : s.exec e = some (.ok t)) : t.Plain := by
  cases e with
  | nppNew i instanceId npp =>
    cases h
    cases hsucc
    refine Plain.push (Plain.put (s := { s with ids := _ }) ?_ ⟨rfl, rfl⟩) nofun nofun
    exact ⟨hs.objects, hs.frames, hs.records⟩
  | nppDestroy instanceId =>
    have h : s.receive instanceId .destroy = .ok t := Option.some.inj h
    exact hs.receive h nofun nofun
  | npnCall j =>
    obtain ⟨s₁, hs₁, rfl⟩ := mapped_ok (Option.some.inj h)
    exact (hs.spares (ref_spares hs₁)).push nofun nofun
  | nppPrint instanceId =>
    have h : s.receive instanceId .print = .ok t := Option.some.inj h
    exact hs.receive h nofun nofun
  | npnPluginThreadAsyncCall j => exact hs.spares (npnPluginThreadAsyncCall_spares (Option.some.inj h))
  | npnScheduleTimer j repeats => exact hs.spares (npnScheduleTimer_spares (Option.some.inj h))
  | npnUnscheduleTimer j timerId => exact hs.spares (npnUnscheduleTimer_spares (Option.some.inj h))
  | dispatch source => exact hs.dispatch (Option.some.inj h)
  | npnCreateObject plugin isProxy => exact absurd rfl (hcreate plugin isProxy)
  | destroyReturns | invalidateReturns | allocateReturns | npnRetainObject | npnReleaseObject => cases he
  | newpReturns | npnReturns | printReturns | printDataReturns | callbackReturns =>
    simp only [Instances.exec] at h
    exact hs.returns hsucc rfl h

/-- A step without objects, one way or another. -/
theorem Sound.step_plain (hs : s.Sound) (hplain : s.Plain) {e : Event} (ha : s.Allowed e) (hc : s.Careful e)
    (hsucc : e.Succeeds) (hcreate : ∀ plugin isProxy, e ≠ .npnCreateObject plugin isProxy) {r : Result}
    (h : s.exec e = some r) : ∃ t, r = .ok t ∧ t.Sound ∧ t.Plain := by
  cases he : e.ofObjects with
  | false =>
    obtain ⟨t, rfl, hsound⟩ := hs.exec ha hc he h
    exact ⟨t, rfl, hsound, hplain.exec hsucc he hcreate h⟩
  | true =>
    cases e with
    | destroyReturns order =>
      simp only [Instances.exec, Instances.returns] at h
      split at h
      · rename_i hst
        cases h
        exact hs.destroyReturned_plain hplain hst ha
      · cases h
    | invalidateReturns =>
      simp only [Instances.exec, Instances.returns] at h
      split at h
      · rename_i i o rest stack hst
        exact absurd rfl ((hplain.frames _ (hst ▸ List.mem_cons_self ..)).2 i o rest)
      · cases h
    | allocateReturns npobj =>
      simp only [Instances.exec, Instances.returns] at h
      split at h
      · rename_i plugin isProxy stack hst
        exact absurd rfl ((hplain.frames _ (hst ▸ List.mem_cons_self ..)).1 plugin isProxy)
      · cases h
    | npnRetainObject o | npnReleaseObject o =>
      obtain ⟨x, hx, -⟩ := ha
      rw [hplain.objects] at hx
      cases hx
    | _ => cases he

/-! ### The life of an instance -/

/-- A record is freed when its count is 0, which is when NPP_New failed or NPP_Destroy has invalidated the instance
    and nothing else refers to it; until then its id may be its own, and after that it is not. -/
structure Steady (s : Instances) : Prop where
  finalized : ∀ i p, s.plugins i = some p →
    (p.isFreed = true ↔ p.refcount = 0) ∧ (p.isFreed = true ↔ (p.isValid = false ∨ p.failed = true) ∧ s.holders i = 0)
  mapped : ∀ id i, s.ids.lookup id = some i → ∃ p, s.plugins i = some p ∧ p.isFreed = false ∧ p.instanceId = id
  silent : ∀ e t, s.Allowed e → s.exec e = some (.ok t) → ∀ i, s.Invalid i → Silent s t i

theorem Sound.steady (hs : s.Sound) (hplain : s.Plain) : s.Steady where
  finalized := by
    intro i p hp
    have hf := hs.balanced.freed hp
    have hc := hs.balanced.refcount hp
    rw [(hplain.records i p hp).1, hf, hc]
    cases p.isValid <;> simp
  mapped := by
    intro id i hi
    obtain ⟨p, hp, hid, hv⟩ := hs.mapped id i hi
    exact ⟨p, hp, hs.live hp (.inl hv), hid⟩
  silent e t ha h i hi := exec_silent ha h hi

end Instances

/-- The runs without objects: NPP_New, NPP_Destroy, NPN_* functions, pending calls and timers. -/
def instanceLives : Machine (Except Instances.Fault Instances) Instances.Event :=
  viewerInstances.restrict fun _ e => ∀ plugin isProxy, e ≠ .npnCreateObject plugin isProxy

open Instances in
/-- In a run in which NPP_New succeeds, and no step uses a record that another has freed, instances live as they
    should. -/
theorem instances_steady {s : Except Fault Instances}
    (h : (instanceLives.restrict fun s e => e.Succeeds ∧ ∀ v, s = .ok v → v.Careful e).Reachable s) :
    ∃ v, s = .ok v ∧ v.Steady := by
  have hinv : ∃ v, s = .ok v ∧ v.Sound ∧ v.Plain := by
    refine h.invariant (fun s => ∃ v, s = .ok v ∧ v.Sound ∧ v.Plain) ?_ ?_
    · rintro _ rfl
      exact ⟨_, rfl, sound_started, ⟨fun _ => rfl, nofun, nofun⟩⟩
    · rintro _ e t - ⟨v, rfl, hsound, hplain⟩ ⟨⟨hsucc, hc⟩, hcreate, v', hv', ha, hexec⟩
      cases hv'
      exact hsound.step_plain hplain ha (hc v rfl) hsucc hcreate hexec
  obtain ⟨v, rfl, hsound, hplain⟩ := hinv
  exact ⟨v, rfl, hsound.steady hplain⟩

namespace Instances

/-- What a run of events leaves, none of which comes where it cannot. -/
def run (s : Instances) (es : List Event) : Result := es.foldl (fun r e => r.bind fun s => (s.exec e).getD r) (.ok s)

theorem newp_allowed (s : Instances) (i : Nat) (h : s.plugins i = none) (hid : s.ids.lookup 1 = none) :
    s.Allowed (.nppNew i 1 true) := ⟨h, by decide, hid⟩

/-- NPP_New, NPN_PluginThreadAsyncCall and NPP_Destroy, and the main loop comes to the call only then. -/
theorem instances_steady_once : ∃ v, run started
    [.nppNew 0 1 true, .newpReturns true true, .npnPluginThreadAsyncCall 0, .nppDestroy 1, .destroyReturns [],
      .dispatch ⟨1, 0, .asyncCall⟩] = .ok v ∧ v.Steady := by
  have h₀ : (instanceLives.restrict fun s e => e.Succeeds ∧ ∀ v, s = .ok v → v.Careful e).Reachable (.ok started) := .init rfl
  have h₁ := h₀.next (.nppNew 0 1 true) ⟨⟨rfl, fun _ _ => trivial⟩, nofun, _, rfl, newp_allowed _ _ rfl rfl, rfl⟩
  have h₂ := h₁.next (.newpReturns true true)
    ⟨⟨⟨rfl, rfl⟩, fun v hv => by cases hv; exact fun _ _ hst => by cases hst; exact ⟨_, rfl, rfl⟩⟩, nofun, _, rfl, trivial, rfl⟩
  have h₃ := h₂.next (.npnPluginThreadAsyncCall 0) ⟨⟨trivial, fun _ _ => trivial⟩, nofun, _, rfl, ⟨_, rfl, rfl⟩, rfl⟩
  have h₄ := h₃.next (.nppDestroy 1)
    ⟨⟨trivial, fun v hv => by cases hv; exact fun _ _ => nofun⟩, nofun, _, rfl,
      fun _ _ hi hp => by cases hi; cases hp; rfl, rfl⟩
  have h₅ := h₄.next (.destroyReturns []) ⟨⟨trivial, fun _ _ => trivial⟩, nofun, _, rfl,
      fun _ _ _ hst hp => by cases hst; cases hp; exact .refl _, rfl⟩
  have h₆ := h₅.next (.dispatch ⟨1, 0, .asyncCall⟩) ⟨⟨trivial, fun _ _ => trivial⟩, nofun, _, rfl, List.mem_cons_self .., rfl⟩
  exact instances_steady h₆

/-- NPP_New fails: the record is never freed. -/
theorem instances_fail : ¬ ∀ s, instanceLives.Reachable s → ∃ v, s = .ok v ∧ v.Steady := by
  intro h
  have h₀ : instanceLives.Reachable (.ok started) := .init rfl
  have h₁ := h₀.next (.nppNew 0 1 true) ⟨nofun, _, rfl, newp_allowed _ _ rfl rfl, rfl⟩
  have h₂ := h₁.next (.newpReturns false true) ⟨nofun, _, rfl, trivial, rfl⟩
  obtain ⟨v, hv, hsteady⟩ := h _ h₂
  cases hv
  obtain ⟨-, hfreed⟩ := hsteady.finalized 0 _ rfl
  cases hfreed.mpr ⟨.inr rfl, rfl⟩

end Instances
end NSPluginWrapper
