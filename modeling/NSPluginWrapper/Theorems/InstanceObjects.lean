import NSPluginWrapper.Theorems.InstanceLife

/-! The objects that are created for an instance: what g_NPP_Destroy finds of them it invalidates and unregisters once,
    and none names the instance when it is freed. -/

namespace NSPluginWrapper
open Lib

namespace Instances
variable {s t u : Instances} {i j o : Nat} {p q : PluginInstance} {x : Object} {order rest : List Nat}

/-! ### What is known of an object -/

/-- NPP_Destroy has not come to its end. -/
def Standing (s : Instances) (i : Nat) : Prop := ∃ p, s.plugins i = some p ∧ p.isValid = true

/-- Either NPP_Destroy did not find the object alive, and left it alone, or it is done with it. -/
def Object.Settled (x : Object) (owner : Option (Option Nat)) : Prop :=
  (x.remained = false ∧ x.invalidated = 0 ∧ x.unregistered = 0) ∨
    (x.remained = true ∧ x.invalidated = 1 ∧ x.unregistered = 1 ∧ owner = none)

/-- NPP_Destroy found the object alive and has not come to it. -/
def Awaits (s : Instances) (o : Nat) : Prop :=
  ∃ x, s.objects o = some x ∧ x.remained = true ∧ x.invalidated = 0 ∧ x.unregistered = 0

/-- What is registered for the instance are the objects that NPP_Destroy has not unregistered. -/
structure Remains (s : Instances) (i : Nat) (order : List Nat) : Prop where
  nodup : order.Nodup
  owners : ∀ o, s.owners.lookup o = some (some i) ↔ o ∈ order

/-- The call of `invalidate` for `o`. -/
structure Walks (s : Instances) (i o : Nat) (rest : List Nat) : Prop extends Remains s i (o :: rest) where
  current : ∃ x, s.objects o = some x ∧ x.remained = true ∧ x.invalidated = 1 ∧ x.unregistered = 0
  left : ∀ o ∈ rest, s.Awaits o

/-- An object is in the table of owners with the instance it was created for; `plugin->npobjects` has only such ones
    until it is gone over, nothing is left behind that, and each object is invalidated and unregistered once. -/
structure Tracked (s : Instances) : Prop where
  owned : ∀ o w, s.owners.lookup o = some w →
    ∃ x, s.objects o = some x ∧ x.isFreed = false ∧ x.isProxy = false ∧ x.createdFor = w
  listed : ∀ i p npobjects, s.plugins i = some p → p.npobjects = some npobjects → p.isValid = true → s.isWalked i = false →
    npobjects.Nodup ∧ ∀ o ∈ npobjects, s.owners.lookup o = some (some i)
  walked : ∀ i o rest, .invalidate i o rest ∈ s.stack → s.Walks i o rest
  named : ∀ o i, s.owners.lookup o = some (some i) → s.Standing i
  settled : ∀ o x, s.objects o = some x → x.Settled (s.owners.lookup o) ∨
    ∃ i o' rest, .invalidate i o' rest ∈ s.stack ∧ o ∈ o' :: rest

theorem isWalked_iff : s.isWalked i = true ↔ ∃ o rest, .invalidate i o rest ∈ s.stack := by
  rw [isWalked, List.any_eq_true]
  constructor
  · rintro ⟨frame, hmem, hframe⟩
    cases frame with
    | invalidate plugin o rest =>
      cases of_decide_eq_true hframe
      exact ⟨o, rest, hmem⟩
    | _ => cases hframe
  · rintro ⟨o, rest, hmem⟩
    exact ⟨_, hmem, decide_eq_true rfl⟩

theorem isWalked_false : s.isWalked i = false ↔ ∀ o rest, .invalidate i o rest ∉ s.stack := by
  rw [Bool.eq_false_iff, ne_eq, isWalked_iff]
  push Not
  rfl

/-! ### Steps that have nothing to do with objects -/

theorem Spares.standing (h : Spares s t) (hi : s.Standing i) : t.Standing i := by
  obtain ⟨p, hp, hv⟩ := hi
  obtain ⟨q, hq, hqv, -⟩ := h.plugins i p hp
  exact ⟨q, hq, hqv.trans hv⟩

theorem Walks.of_eq (h : s.Walks i o rest) (ho : t.objects = s.objects) (hw : t.owners = s.owners) : t.Walks i o rest := by
  obtain ⟨⟨h₁, h₂⟩, h₃, h₄⟩ := h
  refine ⟨⟨h₁, ?_⟩, ?_, ?_⟩
  · rwa [hw]
  · rwa [ho]
  · unfold Awaits
    rwa [ho]

theorem Tracked.spares (hs : s.Tracked) (h : Spares s t) : t.Tracked where
  owned := by
    rw [h.owners, h.objects]
    exact hs.owned
  listed := by
    intro i q npobjects hq hnp hv hwalk
    have hwalk' : s.isWalked i = false := by rwa [isWalked, ← h.stack]
    cases hp : s.plugins i with
    | none =>
      rw [h.absent i hp] at hq
      cases hq
    | some p =>
      obtain ⟨q', hq', hqv, -, -, hsame | ⟨-, hnone⟩⟩ := h.plugins i p hp
      · rw [hq] at hq'
        cases hq'
        rw [h.owners]
        exact hs.listed i p npobjects hp (hsame.symm.trans hnp) (hqv.symm.trans hv) hwalk'
      · rw [hq] at hq'
        cases hq'
        rw [hnone] at hnp
        cases hnp
  walked i o rest hmem := (hs.walked i o rest (h.stack ▸ hmem)).of_eq h.objects h.owners
  named := by
    intro o i hi
    rw [h.owners] at hi
    exact h.standing (hs.named o i hi)
  settled := by
    rw [h.owners, h.objects, h.stack]
    exact hs.settled

/-- Calls that are not of `invalidate` come and go. -/
theorem Tracked.of_stack (hs : s.Tracked) (ho : t.objects = s.objects) (hw : t.owners = s.owners) (hp : t.plugins = s.plugins)
    (hst : ∀ i o rest, Frame.invalidate i o rest ∈ t.stack ↔ .invalidate i o rest ∈ s.stack) : t.Tracked where
  owned := by
    rw [hw, ho]
    exact hs.owned
  listed := by
    intro i p npobjects hpi hnp hv hwalk
    rw [hw]
    refine hs.listed i p npobjects (hp ▸ hpi) hnp hv ?_
    rw [isWalked_false] at hwalk ⊢
    intro o rest hmem
    exact hwalk o rest ((hst i o rest).mpr hmem)
  walked i o rest hmem := (hs.walked i o rest ((hst i o rest).mp hmem)).of_eq ho hw
  named := by
    intro o i hi
    rw [hw] at hi
    obtain ⟨p, hpi, hv⟩ := hs.named o i hi
    exact ⟨p, hp ▸ hpi, hv⟩
  settled := by
    intro o x hx
    rw [hw]
    obtain hset | ⟨i, o', rest, hmem, hin⟩ := hs.settled o x (ho ▸ hx)
    · exact .inl hset
    · exact .inr ⟨i, o', rest, (hst i o' rest).mpr hmem, hin⟩

theorem Tracked.push (hs : s.Tracked) {frame : Frame} (hframe : ∀ i o rest, frame ≠ .invalidate i o rest) :
    (s.push frame).Tracked := by
  refine hs.of_stack rfl rfl rfl fun i o rest => ?_
  exact ⟨fun hmem => (List.mem_cons.mp hmem).resolve_left fun heq => hframe i o rest heq.symm, List.mem_cons_of_mem _⟩

theorem Tracked.pop (hs : s.Tracked) {frame : Frame} {stack : List Frame} (hst : s.stack = frame :: stack)
    (hframe : ∀ i o rest, frame ≠ .invalidate i o rest) : Tracked { s with stack } := by
  refine hs.of_stack rfl rfl rfl fun i o rest => ?_
  rw [hst]
  exact ⟨List.mem_cons_of_mem _, fun hmem => (List.mem_cons.mp hmem).resolve_left fun heq => hframe i o rest heq.symm⟩

/-- A record changes, with no objects or as many as it had. -/
theorem Tracked.put (hs : s.Tracked) (hv : s.Standing i → q.isValid = true)
    (hnp : ∀ npobjects, q.npobjects = some npobjects → q.isValid = true → s.isWalked i = false →
      npobjects.Nodup ∧ ∀ o ∈ npobjects, s.owners.lookup o = some (some i)) : (s.put i q).Tracked where
  owned := hs.owned
  listed := by
    intro j p npobjects hp hpn hpv hwalk
    by_cases hji : j = i
    · subst hji
      rw [put_plugins, Function.update_self] at hp
      cases hp
      exact hnp npobjects hpn hpv hwalk
    · rw [put_plugins, Function.update_of_ne hji] at hp
      exact hs.listed j p npobjects hp hpn hpv hwalk
  walked i o rest hmem := (hs.walked i o rest hmem).of_eq rfl rfl
  named := by
    intro o j hj
    have hstands := hs.named o j hj
    by_cases hji : j = i
    · subst hji
      exact ⟨q, Function.update_self .., hv hstands⟩
    · obtain ⟨p, hp, hpv⟩ := hstands
      exact ⟨p, (Function.update_of_ne hji ..).trans hp, hpv⟩
  settled := hs.settled

theorem standing_valid (hp : s.plugins i = some p) (hq : q.isValid = p.isValid) (hi : s.Standing i) : q.isValid = true := by
  obtain ⟨p', hp', hv⟩ := hi
  rw [hp] at hp'
  cases hp'
  exact hq.trans hv

theorem Tracked.nppNew (hs : s.Tracked) (i : Nat) (instanceId : UInt32) (npp : Bool) : (s.nppNew i instanceId npp).Tracked := by
  have hids : Tracked { s with ids := s.ids.insert instanceId i } := hs.of_stack rfl rfl rfl fun _ _ _ => .rfl
  have hput := hids.put (i := i) (q := ⟨instanceId, 1, true, 0, none, none, false, !npp⟩) (fun _ => rfl) nofun
  unfold Instances.nppNew
  split
  · exact hput.push nofun
  · exact hput

theorem Tracked.newpReturned (hs : s.Tracked) {ok xtSource : Bool} (h : s.newpReturned i ok xtSource = .ok t) : t.Tracked := by
  obtain ⟨p, ha, rfl⟩ := mapped_ok h
  obtain ⟨hp, -⟩ := access_ok ha
  split
  · refine hs.put (standing_valid hp rfl) fun npobjects hnp _ _ => ?_
    cases hnp
    exact ⟨List.nodup_nil, nofun⟩
  · exact hs.put (standing_valid hp rfl) fun npobjects hnp hv hwalk => hs.listed i p npobjects hp hnp hv hwalk

theorem Tracked.receive (hs : s.Tracked) {instanceId : UInt32} {frame : Nat → Frame} (h : s.receive instanceId frame = .ok t)
    (hframe : ∀ j i o rest, frame j ≠ .invalidate i o rest) : t.Tracked := by
  unfold Instances.receive at h
  cases hid : s.ids.lookup instanceId with
  | none =>
    rw [hid] at h
    cases h
    exact hs
  | some j =>
    rw [hid] at h
    obtain ⟨-, -, rfl⟩ := mapped_ok h
    exact hs.push (hframe j)

/-! ### One object -/

theorem putObject_objects (s : Instances) (o : Nat) (x : Object) :
    (s.putObject o x).objects = Function.update s.objects o (some x) := rfl

theorem putObject_owners (s : Instances) (o : Nat) (x : Object) : (s.putObject o x).owners = s.owners := rfl

/-- An object that is gone over is registered. -/
theorem Tracked.registered (hs : s.Tracked) {o' : Nat} (hmem : .invalidate i o rest ∈ s.stack) (ho : o' ∈ o :: rest) :
    s.owners.lookup o' = some (some i) := ((hs.walked i o rest hmem).owners o').mpr ho

/-- An object changes in its references only. -/
theorem Tracked.putObject (hs : s.Tracked) {y : Object} (hx : s.objects o = some x) (hf : y.isFreed = x.isFreed)
    (hp : y.isProxy = x.isProxy) (hc : y.createdFor = x.createdFor) (hr : y.remained = x.remained)
    (hi : y.invalidated = x.invalidated) (hu : y.unregistered = x.unregistered) : (s.putObject o y).Tracked := by
  have hlookup {o' : Nat} {x' : Object} (hx' : s.objects o' = some x') :
      ∃ y', (s.putObject o y).objects o' = some y' ∧ y'.isFreed = x'.isFreed ∧ y'.isProxy = x'.isProxy ∧
        y'.createdFor = x'.createdFor ∧ y'.remained = x'.remained ∧ y'.invalidated = x'.invalidated ∧
        y'.unregistered = x'.unregistered := by
    by_cases ho : o' = o
    · subst ho
      rw [hx] at hx'
      cases hx'
      exact ⟨y, Function.update_self .., hf, hp, hc, hr, hi, hu⟩
    · exact ⟨x', (Function.update_of_ne ho ..).trans hx', rfl, rfl, rfl, rfl, rfl, rfl⟩
  refine ⟨?_, hs.listed, ?_, hs.named, ?_⟩
  · intro o' w hw
    obtain ⟨x', hx', hf', hp', hc'⟩ := hs.owned o' w hw
    obtain ⟨y', hy', hyf, hyp, hyc, -⟩ := hlookup hx'
    exact ⟨y', hy', hyf.trans hf', hyp.trans hp', hyc.trans hc'⟩
  · intro i' o' rest hmem
    obtain ⟨hremains, ⟨x', hx', h₁, h₂, h₃⟩, hleft⟩ := hs.walked i' o' rest hmem
    refine ⟨⟨hremains.nodup, hremains.owners⟩, ?_, ?_⟩
    · obtain ⟨y', hy', -, -, -, hyr, hyi, hyu⟩ := hlookup hx'
      exact ⟨y', hy', hyr.trans h₁, hyi.trans h₂, hyu.trans h₃⟩
    · intro o'' hmem''
      obtain ⟨x'', hx'', h₁, h₂, h₃⟩ := hleft o'' hmem''
      obtain ⟨y', hy', -, -, -, hyr, hyi, hyu⟩ := hlookup hx''
      exact ⟨y', hy', hyr.trans h₁, hyi.trans h₂, hyu.trans h₃⟩
  · intro o' y' hy'
    by_cases ho : o' = o
    · subst ho
      rw [putObject_objects, Function.update_self] at hy'
      cases hy'
      obtain hset | hin := hs.settled o' x hx
      · left
        unfold Object.Settled
        rw [hr, hi, hu]
        exact hset
      · exact .inr hin
    · rw [putObject_objects, Function.update_of_ne ho] at hy'
      exact hs.settled o' y' hy'

theorem Tracked.npnRetainObject (hs : s.Tracked) (h : s.npnRetainObject o = .ok t) : t.Tracked := by
  obtain ⟨x, hx, -, rfl⟩ := npnRetainObject_ok h
  exact hs.putObject hx rfl rfl rfl rfl rfl rfl

/-- An object that is new is unknown everywhere. -/
theorem Tracked.unknown (hs : s.Tracked) (ho : s.objects o = none) : s.owners.lookup o = none := by
  cases hw : s.owners.lookup o with
  | none => rfl
  | some w =>
    obtain ⟨x, hx, -⟩ := hs.owned o w hw
    rw [ho] at hx
    cases hx

theorem Tracked.putNew (hs : s.Tracked) (ho : s.objects o = none) (isProxy : Bool) (plugin : Option Nat) :
    (s.putObject o ⟨isProxy, 1, false, plugin, false, 0, 0⟩).Tracked := by
  have hne {o' : Nat} {x : Object} (hx : s.objects o' = some x) : o' ≠ o := by
    rintro rfl
    rw [ho] at hx
    cases hx
  have hkept {o' : Nat} {x : Object} (hx : s.objects o' = some x) :
      (s.putObject o ⟨isProxy, 1, false, plugin, false, 0, 0⟩).objects o' = some x :=
    (Function.update_of_ne (hne hx) ..).trans hx
  refine ⟨?_, hs.listed, ?_, hs.named, ?_⟩
  · intro o' w hw
    obtain ⟨x, hx, hrest⟩ := hs.owned o' w hw
    exact ⟨x, hkept hx, hrest⟩
  · intro i' o' rest hmem
    obtain ⟨hremains, ⟨x, hx, hcurrent⟩, hleft⟩ := hs.walked i' o' rest hmem
    refine ⟨⟨hremains.nodup, hremains.owners⟩, ⟨x, hkept hx, hcurrent⟩, fun o'' hmem'' => ?_⟩
    obtain ⟨x'', hx'', hawaits⟩ := hleft o'' hmem''
    exact ⟨x'', hkept hx'', hawaits⟩
  · intro o' y hy
    by_cases ho' : o' = o
    · subst ho'
      rw [putObject_objects, Function.update_self] at hy
      cases hy
      exact .inl (.inl ⟨rfl, rfl, rfl⟩)
    · rw [putObject_objects, Function.update_of_ne ho'] at hy
      exact hs.settled o' y hy

/-- A new object comes into the tables. -/
theorem Tracked.register (hs : s.Tracked) {plugin : Option Nat} (hx : s.objects o = some x) (hf : x.isFreed = false)
    (hp : x.isProxy = false) (hc : x.createdFor = plugin) (hr : x.remained = false ∧ x.invalidated = 0 ∧ x.unregistered = 0)
    (ho : s.owners.lookup o = none) (hplugin : ∀ i, plugin = some i → s.isWalked i = false ∧ s.Standing i) :
    Tracked { s with owners := s.owners.insert o plugin } := by
  have hlookup (o' : Nat) : (s.owners.insert o plugin).lookup o' = if o' = o then some plugin else s.owners.lookup o' :=
    Table.lookup_insert ..
  refine ⟨?_, ?_, ?_, ?_, ?_⟩
  · intro o' w hw
    rw [hlookup] at hw
    split at hw
    · rename_i heq
      cases hw
      rw [heq]
      exact ⟨x, hx, hf, hp, hc⟩
    · exact hs.owned o' w hw
  · intro i p npobjects hpi hnp hv hwalk
    obtain ⟨hnodup, hall⟩ := hs.listed i p npobjects hpi hnp hv hwalk
    refine ⟨hnodup, fun o' hmem => ?_⟩
    rw [hlookup, if_neg, hall o' hmem]
    rintro rfl
    rw [hall _ hmem] at ho
    cases ho
  · intro i o' rest hmem
    obtain ⟨hremains, hcurrent, hleft⟩ := hs.walked i o' rest hmem
    refine ⟨⟨hremains.nodup, fun o'' => ?_⟩, hcurrent, hleft⟩
    rw [← hremains.owners, hlookup]
    split
    · rename_i heq
      subst heq
      rw [ho]
      refine iff_of_false (fun hw => ?_) nofun
      have hwalk := (hplugin i (Option.some.inj hw)).1
      exact isWalked_false.mp hwalk o' rest hmem
    · rfl
  · intro o' i hw
    rw [hlookup] at hw
    split at hw
    · exact (hplugin i (Option.some.inj hw)).2
    · exact hs.named o' i hw
  · intro o' y hy
    by_cases heq : o' = o
    · subst heq
      rw [hx] at hy
      cases hy
      exact .inl (.inl hr)
    · rw [hlookup, if_neg heq]
      exact hs.settled o' y hy

/-- `plugin->npobjects` takes in an object that is registered, or lets one go. -/
theorem Tracked.onNPObjects (hs : s.Tracked) {f : List Nat → List Nat} (h : s.onNPObjects i f = .ok t)
    (hf : ∀ npobjects, (npobjects.Nodup ∧ ∀ o ∈ npobjects, s.owners.lookup o = some (some i)) →
      (f npobjects).Nodup ∧ ∀ o ∈ f npobjects, s.owners.lookup o = some (some i)) : t.Tracked := by
  obtain ⟨p, hp, -, ⟨rfl, -⟩ | ⟨npobjects, hnp, -, rfl⟩⟩ := onNPObjects_ok h
  · exact hs
  · refine hs.put (standing_valid hp rfl) fun npobjects' hnp' hv hwalk => ?_
    cases hnp'
    exact hf npobjects (hs.listed i p npobjects hp hnp hv hwalk)

/-- An object goes, which is in no table but that of the owners, and not gone over. -/
theorem Tracked.free (hs : s.Tracked) (hx : s.objects o = some x)
    (hfree : ∀ i, s.owners.lookup o = some (some i) → s.isWalked i = false ∧
      ∀ p npobjects, s.plugins i = some p → p.npobjects = some npobjects → p.isValid = true → o ∉ npobjects) :
    ((s.npobjectUnregister o).putObject o { x with referenceCount := 0, isFreed := true }).Tracked := by
  have hlookup (o' : Nat) : (s.owners.erase o).lookup o' = if o' = o then none else s.owners.lookup o' :=
    Table.lookup_erase ..
  have hquiet {i o' : Nat} {rest : List Nat} (hmem : .invalidate i o' rest ∈ s.stack) : o ∉ o' :: rest := by
    intro hin
    exact isWalked_false.mp (hfree i (hs.registered hmem hin)).1 o' rest hmem
  have hkept {o' : Nat} (hne : o' ≠ o) :
      ((s.npobjectUnregister o).putObject o { x with referenceCount := 0, isFreed := true }).objects o' = s.objects o' :=
    Function.update_of_ne hne ..
  refine ⟨?_, ?_, ?_, ?_, ?_⟩
  · intro o' w hw
    change (s.owners.erase o).lookup o' = _ at hw
    rw [hlookup] at hw
    split at hw
    · cases hw
    · rename_i hne
      rw [hkept hne]
      exact hs.owned o' w hw
  · intro i p npobjects hp hnp hv hwalk
    obtain ⟨hnodup, hall⟩ := hs.listed i p npobjects hp hnp hv hwalk
    refine ⟨hnodup, fun o' hmem => ?_⟩
    change (s.owners.erase o).lookup o' = _
    rw [hlookup, if_neg, hall o' hmem]
    rintro rfl
    exact (hfree i (hall _ hmem)).2 p npobjects hp hnp hv hmem
  · intro i o' rest hmem
    obtain ⟨hremains, ⟨x', hx', hcurrent⟩, hleft⟩ := hs.walked i o' rest hmem
    have hne {o'' : Nat} (hin : o'' ∈ o' :: rest) : o'' ≠ o := by
      rintro rfl
      exact hquiet hmem hin
    refine ⟨⟨hremains.nodup, fun o'' => ?_⟩, ⟨x', (hkept (hne (List.mem_cons_self ..))).trans hx', hcurrent⟩, fun o'' hin => ?_⟩
    · change (s.owners.erase o).lookup o'' = _ ↔ _
      rw [hlookup, ← hremains.owners]
      split
      · rename_i heq
        subst heq
        exact iff_of_false nofun fun hw => hquiet hmem ((hremains.owners _).mp hw)
      · rfl
    · obtain ⟨x'', hx'', hawaits⟩ := hleft o'' hin
      exact ⟨x'', (hkept (hne (List.mem_cons_of_mem _ hin))).trans hx'', hawaits⟩
  · intro o' i hw
    change (s.owners.erase o).lookup o' = _ at hw
    rw [hlookup] at hw
    split at hw
    · cases hw
    · exact hs.named o' i hw
  · intro o' y hy
    change y.Settled ((s.owners.erase o).lookup o') ∨ _
    rw [hlookup]
    by_cases heq : o' = o
    · subst heq
      rw [if_pos rfl]
      rw [putObject_objects, Function.update_self] at hy
      cases hy
      obtain hset | ⟨i, o'', rest, hmem, hin⟩ := hs.settled o' x hx
      · obtain hleft | ⟨hr, hi, hu, -⟩ := hset
        · exact .inl (.inl hleft)
        · exact .inl (.inr ⟨hr, hi, hu, rfl⟩)
      · exact absurd hin (hquiet hmem)
    · rw [if_neg heq]
      rw [hkept heq] at hy
      exact hs.settled o' y hy

/-- The last reference to an object of an instance goes. -/
theorem Tracked.release (hs : s.Tracked) (h : s.onNPObjects i (fun npobjects => npobjects.erase o) = .ok t)
    (hx : s.objects o = some x) (howner : (s.owners.lookup o).join = some i) (hwalk : s.isWalked i = false) :
    ((t.npobjectUnregister o).putObject o { x with referenceCount := 0, isFreed := true }).Tracked := by
  have ht := hs.onNPObjects h fun npobjects ⟨hnodup, hall⟩ =>
    ⟨hnodup.erase o, fun o' hmem => hall o' (List.mem_of_mem_erase hmem)⟩
  obtain ⟨p, hp, -, ⟨rfl, hsame⟩ | ⟨npobjects, hnp, -, rfl⟩⟩ := onNPObjects_ok h
  · refine ht.free hx fun j hj => ?_
    rw [hj] at howner
    cases howner
    refine ⟨hwalk, fun p' npobjects hp' hnp hv hmem => ?_⟩
    rw [hp] at hp'
    cases hp'
    rw [hnp, Option.map_some] at hsame
    have hnodup := (hs.listed i p npobjects hp hnp hv hwalk).1
    rw [← Option.some.inj hsame] at hmem
    exact hnodup.not_mem_erase hmem
  · refine ht.free hx fun j hj => ?_
    rw [show s.owners.lookup o = some (some j) from hj] at howner
    cases howner
    refine ⟨hwalk, fun p' npobjects' hp' hnp' hv hmem => ?_⟩
    rw [put_plugins, Function.update_self] at hp'
    cases hp'
    cases hnp'
    exact (hs.listed i p npobjects hp hnp hv hwalk).1.not_mem_erase hmem

theorem Tracked.npnReleaseObject (hs : s.Tracked) (h : s.npnReleaseObject o = .ok t)
    (hquiet : ∀ x i, s.objects o = some x → x.referenceCount = 1 → s.owners.lookup o = some (some i) → s.isWalked i = false) :
    t.Tracked := by
  obtain ⟨x, s₁, hx, -, rfl, ⟨-, rfl⟩ | ⟨hone, s₂, hs₂, rfl⟩⟩ := npnReleaseObject_ok h
  · exact hs.putObject hx rfl rfl rfl rfl rfl rfl
  · have hs₁ := hs.putObject (y := { x with referenceCount := x.referenceCount - 1 }) hx rfl rfl rfl rfl rfl rfl
    set y : Object := { x with referenceCount := x.referenceCount - 1 }
    have hy : (s.putObject o y).objects o = some y := Function.update_self ..
    obtain ⟨hnone, rfl⟩ | ⟨i, howner, hs₂⟩ := hs₂
    · refine hs₁.free (x := y) hy fun i howner => ?_
      rw [show s.owners.lookup o = some (some i) from howner] at hnone
      cases hnone
    · have hwalk : s.isWalked i = false := hquiet x i hx hone (Option.join_eq_some_iff.mp howner)
      exact hs₁.release (x := y) hs₂ hy howner hwalk

/-- A registered object is tracked too, where its instance has a table. -/
theorem Tracked.track (hs : s.Tracked) (ho : s.owners.lookup o = none)
    (hs' : Tracked { s with owners := s.owners.insert o (some i) })
    (h : Instances.onNPObjects { s with owners := s.owners.insert o (some i) } i (fun npobjects => o :: npobjects) = .ok t) :
    t.Tracked := by
  obtain ⟨p, hp, -, ⟨rfl, -⟩ | ⟨npobjects, hnp, -, rfl⟩⟩ := onNPObjects_ok h
  · exact hs'
  · refine hs'.put (standing_valid (s := s) hp rfl) fun npobjects' hnp' hv hwalk => ?_
    cases hnp'
    obtain ⟨hnodup, hall⟩ := hs.listed i p npobjects hp hnp hv hwalk
    refine ⟨List.nodup_cons.mpr ⟨fun hmem => ?_, hnodup⟩, fun o' hmem => ?_⟩
    · rw [hall o hmem] at ho
      cases ho
    · rcases List.mem_cons.mp hmem with rfl | hmem
      · exact Table.lookup_insert .. |>.trans (if_pos rfl)
      · exact (hs'.listed i p npobjects hp hnp hv hwalk).2 o' hmem

theorem Tracked.npnCreateObject (hs : s.Tracked) {plugin : Option Nat} {isProxy : Bool} {npobj : Option Nat}
    (h : s.npnCreateObject plugin isProxy npobj = .ok t) (ho : ∀ o, npobj = some o → s.objects o = none)
    (hplugin : isProxy = false → ∀ i, plugin = some i → s.isWalked i = false ∧ s.Standing i) : t.Tracked := by
  obtain ⟨-, rfl⟩ | ⟨o, s₁, rfl, rfl, ⟨-, rfl⟩ | ⟨rfl, hnone, s₂, rfl, hrest⟩⟩ := npnCreateObject_ok h
  · exact hs
  · exact hs.putNew (ho o rfl) ..
  · have hput := hs.putNew (ho o rfl) false plugin
    have hregister := hput.register (Function.update_self ..) rfl rfl rfl ⟨rfl, rfl, rfl⟩ hnone (hplugin rfl)
    obtain ⟨-, rfl⟩ | ⟨i, rfl, h⟩ := hrest
    · exact hregister
    · exact hput.track hnone hregister h

/-! ### NPP_Destroy -/

/-- g_NPP_Destroy has these objects to go over. -/
structure Walking (s : Instances) (i : Nat) (order : List Nat) : Prop extends Remains s i order where
  owned : ∀ o w, s.owners.lookup o = some w →
    ∃ x, s.objects o = some x ∧ x.isFreed = false ∧ x.isProxy = false ∧ x.createdFor = w
  listed : ∀ j p npobjects, j ≠ i → s.plugins j = some p → p.npobjects = some npobjects → p.isValid = true →
    s.isWalked j = false → npobjects.Nodup ∧ ∀ o ∈ npobjects, s.owners.lookup o = some (some j)
  walked : ∀ j o rest, .invalidate j o rest ∈ s.stack → j ≠ i ∧ s.Walks j o rest
  named : ∀ o j, s.owners.lookup o = some (some j) → s.Standing j
  awaits : ∀ o ∈ order, s.Awaits o
  settled : ∀ o x, s.objects o = some x → o ∉ order → x.Settled (s.owners.lookup o) ∨
    ∃ j o' rest, .invalidate j o' rest ∈ s.stack ∧ o ∈ o' :: rest

/-- At the end the instance has no objects and is not valid. -/
theorem Walking.nppDestroyed (hs : s.Walking i []) (h : s.nppDestroyed i = .ok t) : t.Tracked := by
  obtain ⟨p, hp, -, h⟩ := nppDestroyed_ok h
  refine Tracked.spares ?_ (unref_spares h)
  have hother {j : Nat} (hji : j ≠ i) : (s.invalidated i p).plugins j = s.plugins j := Function.update_of_ne hji ..
  have hself : (s.invalidated i p).plugins i = some { p with instanceId := 0, isValid := false } := Function.update_self ..
  refine ⟨hs.owned, ?_, ?_, ?_, ?_⟩
  · intro j q npobjects hq hnp hv hwalk
    by_cases hji : j = i
    · subst hji
      rw [hself] at hq
      cases hq
      cases hv
    · exact hs.listed j q npobjects hji ((hother hji).symm.trans hq) hnp hv hwalk
  · intro j o rest hmem
    exact (hs.walked j o rest hmem).2.of_eq rfl rfl
  · intro o j howner
    have hji : j ≠ i := by
      rintro rfl
      exact absurd ((hs.owners o).mp howner) List.not_mem_nil
    obtain ⟨q, hq, hv⟩ := hs.named o j howner
    exact ⟨q, (hother hji).trans hq, hv⟩
  · intro o x hx
    exact hs.settled o x hx List.not_mem_nil

/-- The call of the next object's `invalidate`. -/
theorem Walking.push (hs : s.Walking i (o :: rest)) (hx : s.objects o = some x) :
    ((s.putObject o { x with invalidated := x.invalidated + 1 }).push (.invalidate i o rest)).Tracked := by
  have hkept {o' : Nat} (hne : o' ≠ o) :
      (s.putObject o { x with invalidated := x.invalidated + 1 }).objects o' = s.objects o' := Function.update_of_ne hne ..
  have hself : (s.putObject o { x with invalidated := x.invalidated + 1 }).objects o =
      some { x with invalidated := x.invalidated + 1 } := Function.update_self ..
  have howner : s.owners.lookup o = some (some i) := (hs.owners o).mpr (List.mem_cons_self ..)
  refine ⟨?_, ?_, ?_, hs.named, ?_⟩
  · intro o' w hw
    obtain ⟨x', hx', hrest⟩ := hs.owned o' w hw
    by_cases hne : o' = o
    · subst hne
      rw [hx] at hx'
      cases hx'
      exact ⟨_, hself, hrest⟩
    · exact ⟨x', (hkept hne).trans hx', hrest⟩
  · intro j p npobjects hp hnp hv hwalk
    rw [isWalked_false] at hwalk
    have hji : j ≠ i := by
      rintro rfl
      exact hwalk o rest (List.mem_cons_self ..)
    exact hs.listed j p npobjects hji hp hnp hv (isWalked_false.mpr fun o' rest' hmem => hwalk o' rest' (List.mem_cons_of_mem _ hmem))
  · intro j o' rest' hmem
    rcases List.mem_cons.mp hmem with heq | hmem
    · cases heq
      obtain ⟨x', hx', hr, hi, hu⟩ := hs.awaits o (List.mem_cons_self ..)
      rw [hx] at hx'
      cases hx'
      refine ⟨⟨hs.nodup, hs.owners⟩, ⟨_, hself, hr, by simp [hi], hu⟩, fun o'' hin => ?_⟩
      have hne : o'' ≠ o := by
        rintro rfl
        exact (List.nodup_cons.mp hs.nodup).1 hin
      obtain ⟨x'', hx'', hawaits⟩ := hs.awaits o'' (List.mem_cons_of_mem _ hin)
      exact ⟨x'', (hkept hne).trans hx'', hawaits⟩
    · obtain ⟨hji, hremains, ⟨x', hx', hcurrent⟩, hleft⟩ := hs.walked j o' rest' hmem
      have hne {o'' : Nat} (hin : o'' ∈ o' :: rest') : o'' ≠ o := by
        rintro rfl
        have hj := (hremains.owners _).mpr hin
        rw [howner] at hj
        exact hji (Option.some.inj (Option.some.inj hj)).symm
      refine ⟨⟨hremains.nodup, hremains.owners⟩, ⟨x', (hkept (hne (List.mem_cons_self ..))).trans hx', hcurrent⟩,
        fun o'' hin => ?_⟩
      obtain ⟨x'', hx'', hawaits⟩ := hleft o'' hin
      exact ⟨x'', (hkept (hne (List.mem_cons_of_mem _ hin))).trans hx'', hawaits⟩
  · intro o' y hy
    by_cases hin : o' ∈ o :: rest
    · exact .inr ⟨i, o, rest, List.mem_cons_self .., hin⟩
    · have hne : o' ≠ o := fun heq => hin (heq ▸ List.mem_cons_self ..)
      obtain hset | ⟨j, o'', rest', hmem, hin'⟩ := hs.settled o' y ((hkept hne).symm.trans hy) hin
      · exact .inl hset
      · exact .inr ⟨j, o'', rest', List.mem_cons_of_mem _ hmem, hin'⟩

theorem Walking.invalidateNPObjects (hs : s.Walking i order) (h : s.invalidateNPObjects i order = .ok t) : t.Tracked := by
  obtain ⟨rfl, h⟩ | ⟨o, rest, x, rfl, hx, -, rfl⟩ := invalidateNPObjects_ok h
  · exact hs.nppDestroyed h
  · exact hs.push hx

/-- Other instances' objects are as they were. -/
theorem Walks.of_others (h : s.Walks j o rest) (ho : ∀ o' x, s.objects o' = some x → s.owners.lookup o' = some (some j) →
      t.objects o' = some x) (hw : ∀ o', t.owners.lookup o' = some (some j) ↔ s.owners.lookup o' = some (some j)) :
    t.Walks j o rest := by
  obtain ⟨⟨hnodup, howners⟩, ⟨x, hx, hcurrent⟩, hleft⟩ := h
  refine ⟨⟨hnodup, fun o' => (hw o').trans (howners o')⟩, ⟨x, ?_, hcurrent⟩, fun o' hin => ?_⟩
  · exact ho o x hx ((howners o).mpr (List.mem_cons_self ..))
  · obtain ⟨x', hx', hawaits⟩ := hleft o' hin
    exact ⟨x', ho o' x' hx' ((howners o').mpr (List.mem_cons_of_mem _ hin)), hawaits⟩

/-- The objects of an instance that g_NPP_Destroy comes to are those it finds in `plugin->npobjects`. -/
def Found (s : Instances) (i : Nat) (order : List Nat) : Prop :=
  ∀ o x, s.objects o = some x → x.createdFor = some i → x.isProxy = false → x.isFreed = false → o ∈ order

theorem markRemaining_objects (s : Instances) (i o : Nat) : (s.markRemaining i).objects o = (s.objects o).map fun x =>
    if x.createdFor = some i ∧ x.isProxy = false ∧ x.isFreed = false then { x with remained := true } else x := rfl

/-- An object that is not the instance's, or not alive, is not marked. -/
theorem markRemaining_other (hx : s.objects o = some x)
    (hother : ¬ (x.createdFor = some i ∧ x.isProxy = false ∧ x.isFreed = false)) : (s.markRemaining i).objects o = some x := by
  rw [markRemaining_objects, hx, Option.map_some, if_neg hother]

theorem Tracked.markRemaining (hs : s.Tracked) {stack : List Frame} (hst : s.stack = .destroy i :: stack)
    (hp : s.plugins i = some p) (hv : p.isValid = true) (hwalk : s.isWalked i = false)
    (horder : order.Perm (p.npobjects.getD [])) (hfound : s.Found i order) :
    Walking (markRemaining { s with stack } i) i order := by
  have hlist : order.Nodup ∧ ∀ o ∈ order, s.owners.lookup o = some (some i) := by
    cases hnp : p.npobjects with
    | none =>
      rw [hnp] at horder
      rw [horder.eq_nil]
      exact ⟨List.nodup_nil, nofun⟩
    | some npobjects =>
      rw [hnp] at horder
      obtain ⟨hnodup, hall⟩ := hs.listed i p npobjects hp hnp hv hwalk
      exact ⟨horder.nodup_iff.mpr hnodup, fun o hmem => hall o (horder.mem_iff.mp hmem)⟩
  have hinvalidate {j o : Nat} {rest : List Nat} (hmem : .invalidate j o rest ∈ stack) : j ≠ i ∧ .invalidate j o rest ∈ s.stack := by
    have hmem' : .invalidate j o rest ∈ s.stack := hst ▸ List.mem_cons_of_mem _ hmem
    refine ⟨?_, hmem'⟩
    rintro rfl
    exact isWalked_false.mp hwalk o rest hmem'
  refine ⟨⟨hlist.1, fun o => ⟨fun howner => ?_, hlist.2 o⟩⟩, ?_, ?_, ?_, hs.named, ?_, ?_⟩
  · obtain ⟨x, hx, hf, hproxy, hfor⟩ := hs.owned o _ howner
    exact hfound o x hx hfor hproxy hf
  · intro o w hw
    obtain ⟨x, hx, hf, hproxy, hfor⟩ := hs.owned o w hw
    rw [markRemaining_objects, show (_ : Instances).objects o = _ from hx, Option.map_some]
    split
    · exact ⟨_, rfl, hf, hproxy, hfor⟩
    · exact ⟨_, rfl, hf, hproxy, hfor⟩
  · intro j q npobjects hji hq hnp hv' hwalk'
    refine hs.listed j q npobjects hq hnp hv' (isWalked_false.mpr fun o rest hmem => ?_)
    rw [hst] at hmem
    rcases List.mem_cons.mp hmem with heq | hmem
    · cases heq
    · exact isWalked_false.mp hwalk' o rest hmem
  · intro j o rest hmem
    obtain ⟨hji, hmem⟩ := hinvalidate hmem
    refine ⟨hji, (hs.walked j o rest hmem).of_others (fun o' x hx howner => ?_) fun _ => .rfl⟩
    obtain ⟨x', hx', -, -, hfor⟩ := hs.owned o' _ howner
    rw [hx] at hx'
    cases hx'
    refine markRemaining_other hx fun hmine => hji ?_
    rw [hfor] at hmine
    exact Option.some.inj hmine.1
  · intro o hmem
    have howner := hlist.2 o hmem
    obtain ⟨x, hx, hf, hproxy, hfor⟩ := hs.owned o _ howner
    refine ⟨{ x with remained := true }, ?_, rfl, ?_⟩
    · rw [markRemaining_objects, show (_ : Instances).objects o = _ from hx, Option.map_some, if_pos ⟨hfor, hproxy, hf⟩]
    · obtain (⟨-, hcounts⟩ | ⟨-, -, -, hnone⟩) | ⟨j, o', rest, hin, hrest⟩ := hs.settled o x hx
      · exact hcounts
      · rw [howner] at hnone
        cases hnone
      · have hj := hs.registered hin hrest
        rw [howner] at hj
        cases hj
        exact absurd hin (isWalked_false.mp hwalk o' rest)
  · intro o y hy hnot
    obtain ⟨x, hx, rfl⟩ := Option.map_eq_some_iff.mp hy
    rw [if_neg fun hmine => hnot (hfound o x hx hmine.1 hmine.2.1 hmine.2.2)]
    obtain hset | ⟨j, o', rest, hin, hrest⟩ := hs.settled o x hx
    · exact .inl hset
    · rw [hst] at hin
      rcases List.mem_cons.mp hin with heq | hin
      · cases heq
      · exact .inr ⟨j, o', rest, hin, hrest⟩

theorem unregistered_self (s : Instances) (o : Nat) : (s.unregistered o).objects o = (s.objects o).map fun x =>
    { x with unregistered := x.unregistered + (s.owners.lookup o).isSome.toNat } := Function.update_self ..

/-- `invalidate` has returned, and the object is unregistered. -/
theorem Tracked.unregistered (hs : s.Tracked) {stack : List Frame} (hst : s.stack = .invalidate i o rest :: stack)
    (hstack : ∀ frame ∈ stack, frame.destroys i = false) : Walking (Instances.unregistered { s with stack } o) i rest := by
  obtain ⟨⟨hnodup, howners⟩, ⟨x, hx, hr, hi, hu⟩, hleft⟩ := hs.walked i o rest (hst ▸ List.mem_cons_self ..)
  obtain ⟨ho, hnodup⟩ := List.nodup_cons.mp hnodup
  have howner : s.owners.lookup o = some (some i) := (howners o).mpr (List.mem_cons_self ..)
  have hlookup (o' : Nat) : (Instances.unregistered { s with stack } o).owners.lookup o' =
      if o' = o then none else s.owners.lookup o' := Table.lookup_erase ..
  have hkept {o' : Nat} (hne : o' ≠ o) : (Instances.unregistered { s with stack } o).objects o' = s.objects o' :=
    Function.update_of_ne hne ..
  have hself : (Instances.unregistered { s with stack } o).objects o = some { x with unregistered := 1 } := by
    rw [unregistered_self, show (_ : Instances).objects o = _ from hx, Option.map_some]
    simp [howner, hu]
  have hinvalidate {j o' : Nat} {rest' : List Nat} (hmem : .invalidate j o' rest' ∈ stack) : j ≠ i := by
    rintro rfl
    exact Bool.false_ne_true ((hstack _ hmem).symm.trans (decide_eq_true rfl))
  have hne {j o' : Nat} (hji : j ≠ i) (hj : s.owners.lookup o' = some (some j)) : o' ≠ o := by
    rintro rfl
    rw [howner] at hj
    exact hji (Option.some.inj (Option.some.inj hj)).symm
  refine ⟨⟨hnodup, fun o' => ?_⟩, ?_, ?_, ?_, ?_, ?_, ?_⟩
  · rw [hlookup]
    split
    · rename_i heq
      exact iff_of_false nofun (heq ▸ ho)
    · rename_i hne
      rw [howners, List.mem_cons, or_iff_right hne]
  · intro o' w hw
    rw [hlookup] at hw
    split at hw
    · cases hw
    · rename_i hne
      rw [hkept hne]
      exact hs.owned o' w hw
  · intro j q npobjects hji hq hnp hv hwalk
    have hwalk' : s.isWalked j = false := by
      refine isWalked_false.mpr fun o' rest' hmem => ?_
      rw [hst] at hmem
      rcases List.mem_cons.mp hmem with heq | hmem
      · cases heq
        exact hji rfl
      · exact isWalked_false.mp hwalk o' rest' hmem
    obtain ⟨hnodup', hall⟩ := hs.listed j q npobjects hq hnp hv hwalk'
    refine ⟨hnodup', fun o' hmem => ?_⟩
    rw [hlookup, if_neg (hne hji (hall o' hmem)), hall o' hmem]
  · intro j o' rest' hmem
    have hji := hinvalidate hmem
    refine ⟨hji, (hs.walked j o' rest' (hst ▸ List.mem_cons_of_mem _ hmem)).of_others ?_ fun o'' => ?_⟩
    · intro o'' x' hx' hj
      rw [hkept (hne hji hj), hx']
    · rw [hlookup]
      split
      · rename_i heq
        subst heq
        exact iff_of_false nofun fun hj => hne hji hj rfl
      · rfl
  · intro o' j hj
    rw [hlookup] at hj
    split at hj
    · cases hj
    · exact hs.named o' j hj
  · intro o' hmem
    obtain ⟨x', hx', hawaits⟩ := hleft o' hmem
    refine ⟨x', (hkept ?_).trans hx', hawaits⟩
    rintro rfl
    exact ho hmem
  · intro o' y hy hnot
    by_cases heq : o' = o
    · subst heq
      rw [hself] at hy
      cases hy
      refine .inl (.inr ⟨hr, hi, rfl, ?_⟩)
      rw [hlookup, if_pos rfl]
    · rw [hkept heq] at hy
      rw [hlookup, if_neg heq]
      obtain hset | ⟨j, o'', rest', hmem, hin⟩ := hs.settled o' y hy
      · exact .inl hset
      · rw [hst] at hmem
        rcases List.mem_cons.mp hmem with hhead | hmem
        · cases hhead
          exact absurd ((List.mem_cons.mp hin).resolve_left heq) hnot
        · exact .inr ⟨j, o'', rest', hmem, hin⟩

/-! ### The table of an instance -/

/-- The objects of a valid instance are in its table, which g_NPP_New makes when the plugin's NPP_New has returned. -/
structure Tabled (s : Instances) : Prop where
  kept : ∀ o x i, s.objects o = some x → x.isFreed = false → x.isProxy = false → x.createdFor = some i →
    ∃ p, s.plugins i = some p ∧ (p.isValid = true → p.isFreed = false → s.isWalked i = false → o ∈ p.npobjects.getD [])
  fresh : ∀ i, .newp i ∈ s.stack → ∃ p, s.plugins i = some p ∧ p.npobjects = none

/-- From `s` to `t` no object is made, and an instance that is valid and not gone over has the table it had. -/
structure Upholds (s t : Instances) : Prop where
  objects : ∀ o y, t.objects o = some y → y.isFreed = false → ∃ x, s.objects o = some x ∧ x.isFreed = false ∧
    x.isProxy = y.isProxy ∧ x.createdFor = y.createdFor
  plugins : ∀ i p, s.plugins i = some p → ∃ q, t.plugins i = some q ∧ (p.npobjects = none → q.npobjects = none) ∧
    (q.isValid = true → q.isFreed = false → t.isWalked i = false →
      p.isValid = true ∧ p.isFreed = false ∧ s.isWalked i = false ∧ q.npobjects = p.npobjects)
  newp : ∀ i, .newp i ∈ t.stack → .newp i ∈ s.stack

theorem Tabled.upholds (hs : s.Tabled) (h : Upholds s t) : t.Tabled where
  kept := by
    intro o y i hy hf hp hc
    obtain ⟨x, hx, hxf, hxp, hxc⟩ := h.objects o y hy hf
    obtain ⟨p, hpi, hin⟩ := hs.kept o x i hx hxf (hxp.trans hp) (hxc.trans hc)
    obtain ⟨q, hq, -, hsame⟩ := h.plugins i p hpi
    refine ⟨q, hq, fun hv hqf hwalk => ?_⟩
    obtain ⟨hpv, hpf, hpw, hnp⟩ := hsame hv hqf hwalk
    rw [hnp]
    exact hin hpv hpf hpw
  fresh := by
    intro i hi
    obtain ⟨p, hp, hnp⟩ := hs.fresh i (h.newp i hi)
    obtain ⟨q, hq, hnone, -⟩ := h.plugins i p hp
    exact ⟨q, hq, hnone hnp⟩

theorem Upholds.of_eq (ho : t.objects = s.objects) (hp : t.plugins = s.plugins)
    (hwalk : ∀ i, t.isWalked i = false → s.isWalked i = false) (hn : ∀ i, .newp i ∈ t.stack → .newp i ∈ s.stack) :
    Upholds s t where
  objects _ y hy hf := ⟨y, ho ▸ hy, hf, rfl, rfl⟩
  plugins i p hpi := ⟨p, hp ▸ hpi, id, fun hv hf hw => ⟨hv, hf, hwalk i hw, rfl⟩⟩
  newp := hn

theorem Spares.upholds (h : Spares s t) : Upholds s t where
  objects _ y hy hf := ⟨y, h.objects ▸ hy, hf, rfl, rfl⟩
  plugins := by
    intro i p hp
    obtain ⟨q, hq, hv, -, hf, hnp⟩ := h.plugins i p hp
    refine ⟨q, hq, fun hnone => ?_, fun hqv hqf hwalk => ⟨hv.symm.trans hqv, ?_, ?_, ?_⟩⟩
    · obtain hnp | ⟨-, hnp⟩ := hnp
      · exact hnp.trans hnone
      · exact hnp
    · exact Bool.eq_false_iff.mpr fun hpf => Bool.eq_false_iff.mp hqf (hf hpf)
    · rwa [isWalked, ← h.stack]
    · obtain hnp | ⟨hfreed, -⟩ := hnp
      · exact hnp
      · rw [hqf] at hfreed
        cases hfreed
  newp i hi := h.stack ▸ hi

theorem isWalked_push {frame : Frame} (hwalk : (s.push frame).isWalked i = false) : s.isWalked i = false :=
  isWalked_false.mpr fun o rest hmem => isWalked_false.mp hwalk o rest (List.mem_cons_of_mem _ hmem)

theorem upholds_push (s : Instances) {frame : Frame} (hn : ∀ i, frame ≠ .newp i) : Upholds s (s.push frame) := by
  refine .of_eq rfl rfl (fun _ => isWalked_push) fun i hi => ?_
  exact (List.mem_cons.mp hi).resolve_left fun heq => hn i heq.symm

theorem upholds_pop {frame : Frame} {stack : List Frame} (hst : s.stack = frame :: stack)
    (hframe : ∀ i o rest, frame ≠ .invalidate i o rest) : Upholds s { s with stack } := by
  refine .of_eq rfl rfl (fun i hwalk => isWalked_false.mpr fun o rest hmem => ?_) fun i hi => hst ▸ List.mem_cons_of_mem _ hi
  rw [hst] at hmem
  rcases List.mem_cons.mp hmem with heq | hmem
  · exact hframe i o rest heq.symm
  · exact isWalked_false.mp hwalk o rest hmem

/-- Objects change in what the table does not depend on. -/
theorem upholds_objects (hp : t.plugins = s.plugins) (hst : t.stack = s.stack)
    (ho : ∀ o y, t.objects o = some y → y.isFreed = false → ∃ x, s.objects o = some x ∧ x.isFreed = false ∧
      x.isProxy = y.isProxy ∧ x.createdFor = y.createdFor) : Upholds s t where
  objects := ho
  plugins _ p hpi := ⟨p, hp ▸ hpi, id, fun hv hf hw => ⟨hv, hf, by rwa [isWalked, ← hst], rfl⟩⟩
  newp i hi := hst ▸ hi

theorem upholds_putObject {y : Object} (hx : s.objects o = some x) (hf : y.isFreed = false → x.isFreed = false)
    (hp : y.isProxy = x.isProxy) (hc : y.createdFor = x.createdFor) : Upholds s (s.putObject o y) := by
  refine upholds_objects rfl rfl fun o' z hz hzf => ?_
  by_cases ho : o' = o
  · subst ho
    rw [putObject_objects, Function.update_self] at hz
    cases hz
    exact ⟨x, hx, hf hzf, hp.symm, hc.symm⟩
  · rw [putObject_objects, Function.update_of_ne ho] at hz
    exact ⟨z, hz, hzf, rfl, rfl⟩

theorem upholds_markRemaining (s : Instances) (i : Nat) : Upholds s (s.markRemaining i) := by
  refine upholds_objects rfl rfl fun o y hy hf => ?_
  obtain ⟨x, hx, rfl⟩ := Option.map_eq_some_iff.mp hy
  refine ⟨x, hx, ?_⟩
  split at hf
  · rename_i hmine
    rw [if_pos hmine]
    exact ⟨hf, rfl, rfl⟩
  · rename_i hother
    rw [if_neg hother]
    exact ⟨hf, rfl, rfl⟩

theorem upholds_invalidated (hp : s.plugins i = some p) : Upholds s (s.invalidated i p) where
  objects _ y hy hf := ⟨y, hy, hf, rfl, rfl⟩
  plugins := by
    intro j q hq
    by_cases hji : j = i
    · subst hji
      rw [hp] at hq
      cases hq
      exact ⟨_, Function.update_self .., id, nofun⟩
    · exact ⟨q, (Function.update_of_ne hji ..).trans hq, id, fun hv hf hw => ⟨hv, hf, hw, rfl⟩⟩
  newp _ hi := hi

/-- The objects of an instance need not be in its table when there is another to go over, or NPP_Destroy ends. -/
theorem upholds_next {stack : List Frame} (hst : s.stack = .invalidate i o rest :: stack) (o' : Nat) (rest' : List Nat) :
    Upholds s (push { s with stack } (.invalidate i o' rest')) := by
  refine .of_eq rfl rfl (fun j hwalk => isWalked_false.mpr fun o'' rest'' hmem => ?_) fun j hj => ?_
  · rw [hst] at hmem
    rcases List.mem_cons.mp hmem with heq | hmem
    · cases heq
      exact isWalked_false.mp hwalk o' rest' (List.mem_cons_self ..)
    · exact isWalked_false.mp hwalk o'' rest'' (List.mem_cons_of_mem _ hmem)
  · rcases List.mem_cons.mp hj with heq | hj
    · cases heq
    · exact hst ▸ List.mem_cons_of_mem _ hj

theorem upholds_ended {stack : List Frame} (hst : s.stack = .invalidate i o rest :: stack) (hp : s.plugins i = some p) :
    Upholds s (Instances.invalidated { s with stack } i p) where
  objects _ y hy hf := ⟨y, hy, hf, rfl, rfl⟩
  plugins := by
    intro j q hq
    by_cases hji : j = i
    · subst hji
      rw [hp] at hq
      cases hq
      exact ⟨_, Function.update_self .., id, nofun⟩
    · refine ⟨q, (Function.update_of_ne hji ..).trans hq, id, fun hv hf hwalk => ⟨hv, hf, ?_, rfl⟩⟩
      refine isWalked_false.mpr fun o' rest' hmem => ?_
      rw [hst] at hmem
      rcases List.mem_cons.mp hmem with heq | hmem
      · cases heq
        exact hji rfl
      · exact isWalked_false.mp hwalk o' rest' hmem
  newp j hj := hst ▸ List.mem_cons_of_mem _ hj

theorem Tabled.invalidateNPObjects (hs : s.Tabled) (h : s.invalidateNPObjects i order = .ok t) : t.Tabled := by
  obtain ⟨-, h⟩ | ⟨o, rest, x, -, hx, -, rfl⟩ := invalidateNPObjects_ok h
  · obtain ⟨p, hp, -, h⟩ := nppDestroyed_ok h
    exact (hs.upholds (upholds_invalidated hp)).upholds (unref_spares h).upholds
  · have hput := hs.upholds (upholds_putObject (y := { x with invalidated := x.invalidated + 1 }) hx id rfl rfl)
    exact hput.upholds (upholds_push _ nofun)

theorem upholds_unregistered (s : Instances) (o : Nat) : Upholds s (s.unregistered o) := by
  refine upholds_objects rfl rfl fun o' y hy hf => ?_
  by_cases ho : o' = o
  · subst ho
    rw [unregistered_self] at hy
    obtain ⟨x, hx, rfl⟩ := Option.map_eq_some_iff.mp hy
    exact ⟨x, hx, hf, rfl, rfl⟩
  · exact ⟨y, (Function.update_of_ne ho ..).symm.trans hy, hf, rfl, rfl⟩

theorem Tabled.invalidateReturned (hs : s.Tabled) {stack : List Frame} (hst : s.stack = .invalidate i o rest :: stack)
    (h : Instances.invalidateReturned { s with stack } i o rest = .ok t) : t.Tabled := by
  obtain ⟨s₁, rfl, -, h⟩ := invalidateReturned_ok h
  have hs₁ : (s.unregistered o).Tabled := hs.upholds (upholds_unregistered s o)
  obtain ⟨-, h⟩ | ⟨o', rest', x, -, hx, -, rfl⟩ := invalidateNPObjects_ok h
  · obtain ⟨p, hp, -, h⟩ := nppDestroyed_ok h
    have hended : Upholds (s.unregistered o) ((Instances.unregistered { s with stack } o).invalidated i p) := upholds_ended hst hp
    exact (hs₁.upholds hended).upholds (unref_spares h).upholds
  · set y : Object := { x with invalidated := x.invalidated + 1 }
    have hput : ((s.unregistered o).putObject o' y).Tabled := hs₁.upholds (upholds_putObject hx id rfl rfl)
    exact hput.upholds (upholds_next (s := (s.unregistered o).putObject o' y) hst o' rest')

theorem Tabled.nppNew (hs : s.Tabled) (hi : s.plugins i = none) (instanceId : UInt32) (npp : Bool) :
    (s.nppNew i instanceId npp).Tabled := by
  set q : PluginInstance := ⟨instanceId, 1, true, 0, none, none, false, !npp⟩
  have hput : (put { s with ids := s.ids.insert instanceId i } i q).Tabled := by
    refine ⟨fun o x j hx hf hp hc => ?_, fun j hj => ?_⟩
    · obtain ⟨p, hpj, hin⟩ := hs.kept o x j hx hf hp hc
      exact ⟨p, put_of_ne hi hpj, hin⟩
    · obtain ⟨p, hpj, hnp⟩ := hs.fresh j hj
      exact ⟨p, put_of_ne hi hpj, hnp⟩
  unfold Instances.nppNew
  split
  · refine ⟨fun o x j hx hf hp hc => ?_, fun j hj => ?_⟩
    · obtain ⟨p, hpj, hin⟩ := hput.kept o x j hx hf hp hc
      exact ⟨p, hpj, fun hv hpf hwalk => hin hv hpf (isWalked_push hwalk)⟩
    · rcases List.mem_cons.mp hj with heq | hj
      · cases heq
        exact ⟨q, Function.update_self .., rfl⟩
      · exact hput.fresh j hj
  · exact hput

/-- The table is made where no object can be missing from it. -/
theorem Tabled.newpReturned (hs : s.Tabled) {stack : List Frame} (hst : s.stack = .newp i :: stack)
    (hnew : .newp i ∉ stack) {ok xtSource : Bool} (h : Instances.newpReturned { s with stack } i ok xtSource = .ok t) :
    t.Tabled := by
  obtain ⟨p, ha, rfl⟩ := mapped_ok h
  have hp : s.plugins i = some p := (access_ok ha).1
  have hpop : Tabled { s with stack } := hs.upholds (upholds_pop hst nofun)
  have hnp : p.npobjects = none := by
    obtain ⟨p', hp', hnp⟩ := hs.fresh i (hst ▸ List.mem_cons_self ..)
    rw [hp] at hp'
    cases hp'
    exact hnp
  have hput (q : PluginInstance) (hv : q.isValid = p.isValid) (hf : q.isFreed = p.isFreed) : (put { s with stack } i q).Tabled := by
    refine ⟨fun o x j hx hxf hproxy hc => ?_, fun j hj => ?_⟩
    · obtain ⟨p', hp', hin⟩ := hpop.kept o x j hx hxf hproxy hc
      by_cases hji : j = i
      · subst hji
        rw [show s.plugins j = some p' from hp'] at hp
        cases hp
        refine ⟨q, Function.update_self .., fun hqv hqf hwalk => ?_⟩
        have hmem := hin (hv.symm.trans hqv) (hf.symm.trans hqf) hwalk
        rw [hnp] at hmem
        cases hmem
      · exact ⟨p', (Function.update_of_ne hji ..).trans hp', hin⟩
    · obtain ⟨p', hp', hnone⟩ := hpop.fresh j hj
      have hji : j ≠ i := by
        rintro rfl
        exact hnew hj
      exact ⟨p', (Function.update_of_ne hji ..).trans hp', hnone⟩
  split
  · exact hput _ rfl rfl
  · exact hput _ rfl rfl

/-- A new object is in the table, or need not be there. -/
theorem Tabled.npnCreateObject (hs : s.Tabled) {plugin : Option Nat} {isProxy : Bool} {npobj : Option Nat}
    (h : s.npnCreateObject plugin isProxy npobj = .ok t)
    (hplugin : npobj ≠ none → isProxy = false → ∀ i, plugin = some i → s.isWalked i = false ∧
      ∃ p, s.plugins i = some p ∧ p.npobjects ≠ none) : t.Tabled := by
  obtain ⟨-, rfl⟩ | ⟨o, s₁, rfl, rfl, ⟨rfl, rfl⟩ | ⟨rfl, -, s₂, rfl, ⟨rfl, rfl⟩ | ⟨i, rfl, h⟩⟩⟩ := npnCreateObject_ok h
  · exact hs
  · -- a proxy
    refine ⟨fun o' x i hx hf hp hc => ?_, hs.fresh⟩
    by_cases ho : o' = o
    · subst ho
      rw [putObject_objects, Function.update_self] at hx
      cases hx
      cases hp
    · rw [putObject_objects, Function.update_of_ne ho] at hx
      exact hs.kept o' x i hx hf hp hc
  · -- of no instance
    refine ⟨fun o' x i hx hf hp hc => ?_, hs.fresh⟩
    change (s.putObject o _).objects o' = some x at hx
    by_cases ho : o' = o
    · subst ho
      rw [putObject_objects, Function.update_self] at hx
      cases hx
      cases hc
    · rw [putObject_objects, Function.update_of_ne ho] at hx
      exact hs.kept o' x i hx hf hp hc
  · obtain ⟨hwalk, p, hp, hnp⟩ := hplugin nofun rfl i rfl
    obtain ⟨npobjects, hnp⟩ := Option.ne_none_iff_exists'.mp hnp
    obtain ⟨p', hp', -, ⟨-, hsame⟩ | ⟨npobjects', hnp', -, rfl⟩⟩ := onNPObjects_ok h
    · rw [show s.plugins i = some p' from hp'] at hp
      cases hp
      rw [hnp, Option.map_some] at hsame
      exact absurd (Option.some.inj hsame) (List.cons_ne_self o npobjects)
    · rw [show s.plugins i = some p' from hp'] at hp
      cases hp
      rw [hnp] at hnp'
      cases hnp'
      refine ⟨fun o' x j hx hf hproxy hc => ?_, fun j hj => ?_⟩
      · change (s.putObject o _).objects o' = some x at hx
        by_cases ho : o' = o
        · subst ho
          rw [putObject_objects, Function.update_self] at hx
          cases hx
          cases hc
          exact ⟨_, Function.update_self .., fun _ _ _ => List.mem_cons_self ..⟩
        · rw [putObject_objects, Function.update_of_ne ho] at hx
          obtain ⟨q, hq, hin⟩ := hs.kept o' x j hx hf hproxy hc
          by_cases hji : j = i
          · subst hji
            rw [show s.plugins j = some p from hp'] at hq
            cases hq
            refine ⟨_, Function.update_self .., fun hv hpf hw => List.mem_cons_of_mem _ ?_⟩
            have hmem := hin hv hpf hw
            rwa [hnp] at hmem
          · exact ⟨q, (Function.update_of_ne hji ..).trans hq, hin⟩
      · obtain ⟨q, hq, hnone⟩ := hs.fresh j hj
        have hji : j ≠ i := by
          rintro rfl
          rw [show s.plugins j = some p from hp'] at hq
          cases hq
          rw [hnp] at hnone
          cases hnone
        exact ⟨q, (Function.update_of_ne hji ..).trans hq, hnone⟩

/-- An object that goes takes only itself out of a table. -/
theorem Tabled.erase (hs : s.Tabled) (h : s.onNPObjects i (fun npobjects => npobjects.erase o) = .ok t) {y : Object}
    (hy : y.isFreed = true) : ((t.npobjectUnregister o).putObject o y).Tabled := by
  obtain ⟨p, hp, -, ht⟩ := onNPObjects_ok h
  have hobjects : t.objects = s.objects := by
    obtain ⟨rfl, -⟩ | ⟨npobjects, -, -, rfl⟩ := ht
    · rfl
    · rfl
  have hstack : t.stack = s.stack := by
    obtain ⟨rfl, -⟩ | ⟨npobjects, -, -, rfl⟩ := ht
    · rfl
    · rfl
  have hkept {j : Nat} {q : PluginInstance} (hq : s.plugins j = some q) : ∃ q', t.plugins j = some q' ∧ q'.isValid = q.isValid ∧
      q'.isFreed = q.isFreed ∧ (q.npobjects = none → q'.npobjects = none) ∧ ∀ o' ≠ o, o' ∈ q.npobjects.getD [] → o' ∈ q'.npobjects.getD [] := by
    obtain ⟨rfl, -⟩ | ⟨npobjects, hnp, -, rfl⟩ := ht
    · exact ⟨q, hq, rfl, rfl, id, fun _ _ => id⟩
    · by_cases hji : j = i
      · subst hji
        rw [hp] at hq
        cases hq
        refine ⟨_, Function.update_self .., rfl, rfl, fun hnone => ?_, fun o' hne hmem => ?_⟩
        · rw [hnp] at hnone
          cases hnone
        · rw [hnp] at hmem
          exact (List.mem_erase_of_ne hne).mpr hmem
      · exact ⟨q, (Function.update_of_ne hji ..).trans hq, rfl, rfl, id, fun _ _ => id⟩
  refine ⟨fun o' x j hx hf hproxy hc => ?_, fun j hj => ?_⟩
  · have hne : o' ≠ o := by
      rintro rfl
      rw [putObject_objects, Function.update_self] at hx
      cases hx
      rw [hy] at hf
      cases hf
    rw [putObject_objects, Function.update_of_ne hne] at hx
    obtain ⟨q, hq, hin⟩ := hs.kept o' x j (hobjects ▸ hx) hf hproxy hc
    obtain ⟨q', hq', hv, hqf, -, hmem⟩ := hkept hq
    refine ⟨q', hq', fun hqv hf' hwalk => hmem o' hne (hin (hv.symm.trans hqv) (hqf.symm.trans hf') ?_)⟩
    rwa [isWalked, ← hstack]
  · obtain ⟨q, hq, hnone⟩ := hs.fresh j (hstack ▸ hj)
    obtain ⟨q', hq', -, -, hsame, -⟩ := hkept hq
    exact ⟨q', hq', hsame hnone⟩

theorem Tabled.npnReleaseObject (hs : s.Tabled) (h : s.npnReleaseObject o = .ok t) : t.Tabled := by
  obtain ⟨x, s₁, hx, hf, rfl, ⟨-, rfl⟩ | ⟨-, s₂, hs₂, rfl⟩⟩ := npnReleaseObject_ok h
  · exact hs.upholds (upholds_putObject hx (fun _ => hf) rfl rfl)
  · have hs₁ := hs.upholds (upholds_putObject (y := { x with referenceCount := x.referenceCount - 1 }) hx (fun _ => hf) rfl rfl)
    obtain ⟨-, rfl⟩ | ⟨i, -, hs₂⟩ := hs₂
    · have hself : (npobjectUnregister (s.putObject o { x with referenceCount := x.referenceCount - 1 }) o).objects o =
          some { x with referenceCount := x.referenceCount - 1 } := Function.update_self ..
      have hs₂ : (npobjectUnregister (s.putObject o { x with referenceCount := x.referenceCount - 1 }) o).Tabled :=
        hs₁.upholds (.of_eq rfl rfl (fun _ => id) fun _ => id)
      exact hs₂.upholds (upholds_putObject hself (fun _ => hf) rfl rfl)
    · exact hs₁.erase hs₂ rfl

theorem Tabled.npnRetainObject (hs : s.Tabled) (h : s.npnRetainObject o = .ok t) : t.Tabled := by
  obtain ⟨x, hx, hf, rfl⟩ := npnRetainObject_ok h
  exact hs.upholds (upholds_putObject hx (fun _ => hf) rfl rfl)

/-! ### Steps -/

/-- What is kept where calls come and go, and instances. -/
structure Closed (P : Instances → Prop) : Prop where
  spares : ∀ s t, P s → Spares s t → P t
  push : ∀ s frame, P s → (∀ i o rest, frame ≠ .invalidate i o rest) → (∀ i, frame ≠ .newp i) → P (s.push frame)
  pop : ∀ s frame stack, P s → s.stack = frame :: stack → (∀ i o rest, frame ≠ .invalidate i o rest) → P { s with stack }

/-- The steps that have nothing to do with objects, other than of NPP_New. -/
def Event.passes : Event → Bool
  | .nppNew .. | .newpReturns .. => false
  | e => !e.ofObjects

variable {P : Instances → Prop}

theorem Closed.receive (hP : Closed P) {instanceId : UInt32} {frame : Nat → Frame} (h : s.receive instanceId frame = .ok t)
    (hi : ∀ j i o rest, frame j ≠ .invalidate i o rest) (hn : ∀ j i, frame j ≠ .newp i) (hs : P s) : P t := by
  unfold Instances.receive at h
  cases hid : s.ids.lookup instanceId with
  | none =>
    rw [hid] at h
    cases h
    exact hs
  | some j =>
    rw [hid] at h
    obtain ⟨-, -, rfl⟩ := mapped_ok h
    exact hP.push s _ hs (hi j) (hn j)

theorem Closed.printData (hP : Closed P) {pieces : Nat} (h : s.printData i pieces = .ok t) (hs : P s) : P t := by
  cases pieces with
  | zero =>
    cases h
    exact hs
  | succ left =>
    obtain ⟨s₁, hs₁, rfl⟩ := mapped_ok h
    exact hP.push s₁ _ (hP.spares s s₁ hs (ref_spares hs₁)) nofun nofun

theorem Closed.dispatch (hP : Closed P) {source : Source} (h : s.dispatch source = .ok t) (hs : P s) : P t := by
  have hs₁ : P { s with sources := s.sources.erase source } := hP.spares s _ hs (.of_eq rfl rfl rfl rfl)
  obtain ⟨p, -, h⟩ := bound_ok h
  split at h
  · split at h
    · cases h
      exact hP.push _ _ hs₁ nofun nofun
    · exact hP.spares _ _ hs₁ (unref_spares h)
  · split at h
    · cases h
      exact hP.push _ _ hs₁ nofun nofun
    · exact hP.spares _ _ hs₁ (unref_spares h)

theorem Closed.returns (hP : Closed P) {e : Event} (he : e.passes = true) (h : s.returns e = some (.ok t)) (hs : P s) : P t := by
  cases e with
  | npnReturns =>
    simp only [Instances.returns] at h
    split at h
    · rename_i hst
      exact hP.spares _ _ (hP.pop s _ _ hs hst (by simp)) (unref_spares (Option.some.inj h))
    · cases h
  | printReturns pieces =>
    simp only [Instances.returns] at h
    split at h
    · rename_i hst
      exact hP.printData (Option.some.inj h) (hP.pop s _ _ hs hst (by simp))
    · cases h
  | printDataReturns =>
    simp only [Instances.returns] at h
    split at h
    · rename_i hst
      obtain ⟨s₁, hs₁, h⟩ := bound_ok (Option.some.inj h)
      exact hP.printData h (hP.spares _ _ (hP.pop s _ _ hs hst (by simp)) (unref_spares hs₁))
    · cases h
  | callbackReturns =>
    simp only [Instances.returns] at h
    split at h
    · rename_i hst
      exact hP.spares _ _ (hP.pop s _ _ hs hst (by simp)) (unref_spares (Option.some.inj h))
    · rename_i hst
      exact hP.spares _ _ (hP.pop s _ _ hs hst (by simp)) (timerDataRan_spares (Option.some.inj h))
    · cases h
  | newpReturns | destroyReturns | invalidateReturns | allocateReturns => cases he
  | _ => cases h

theorem Closed.exec (hP : Closed P) {e : Event} (he : e.passes = true) (h : s.exec e = some (.ok t)) (hs : P s) : P t := by
  cases e with
  | nppDestroy instanceId =>
    have h : s.receive instanceId .destroy = .ok t := Option.some.inj h
    exact hP.receive h nofun nofun hs
  | npnCall j =>
    obtain ⟨s₁, hs₁, rfl⟩ := mapped_ok (Option.some.inj h)
    exact hP.push s₁ _ (hP.spares s s₁ hs (ref_spares hs₁)) nofun nofun
  | nppPrint instanceId =>
    have h : s.receive instanceId .print = .ok t := Option.some.inj h
    exact hP.receive h nofun nofun hs
  | npnPluginThreadAsyncCall j => exact hP.spares s t hs (npnPluginThreadAsyncCall_spares (Option.some.inj h))
  | npnScheduleTimer j repeats => exact hP.spares s t hs (npnScheduleTimer_spares (Option.some.inj h))
  | npnUnscheduleTimer j timerId => exact hP.spares s t hs (npnUnscheduleTimer_spares (Option.some.inj h))
  | dispatch source => exact hP.dispatch (Option.some.inj h) hs
  | npnCreateObject plugin isProxy =>
    cases h
    exact hP.push s _ hs nofun nofun
  | nppNew | newpReturns | destroyReturns | invalidateReturns | allocateReturns | npnRetainObject | npnReleaseObject => cases he
  | npnReturns | printReturns | printDataReturns | callbackReturns =>
    simp only [Instances.exec] at h
    exact hP.returns he h hs

theorem tracked_closed : Closed fun s => s.Tracked ∧ s.Tabled where
  spares _ _ hs h := ⟨hs.1.spares h, hs.2.upholds h.upholds⟩
  push s _ hs hi hn := ⟨hs.1.push hi, hs.2.upholds (upholds_push s hn)⟩
  pop _ _ _ hs hst hi := ⟨hs.1.pop hst hi, hs.2.upholds (upholds_pop hst hi)⟩

/-- What keeps the objects of an instance known: an object is made, and the last reference to one dropped, while the
    table of its instance is not gone over, and made only when the table is there and the instance still valid. -/
def Watchful (s : Instances) : Event → Prop
  | .allocateReturns npobj => ∀ i stack, s.stack = .allocate (some i) false :: stack → npobj ≠ none →
      s.isWalked i = false ∧ ∃ p, s.plugins i = some p ∧ p.isValid = true ∧ p.npobjects ≠ none
  | .npnReleaseObject o => ∀ x i, s.objects o = some x → x.referenceCount = 1 → s.owners.lookup o = some (some i) →
      s.isWalked i = false
  | _ => True

theorem isWalked_of_quiet (hq : ∀ frame ∈ s.stack, frame.destroys i = false) : s.isWalked i = false := by
  refine isWalked_false.mpr fun o rest hmem => ?_
  exact Bool.false_ne_true ((hq _ hmem).symm.trans (decide_eq_true rfl))

/-- All the objects that are left are there, and the instance is. -/
theorem Walking.exists_next (hw : s.Walking i order) (hs : s.Sound) (hp : s.plugins i = some p) (hv : p.isValid = true)
    (hstack : ∀ frame ∈ s.stack, frame.destroys i = false) : ∃ t, s.invalidateNPObjects i order = .ok t := by
  cases order with
  | nil =>
    obtain ⟨q, ht, -⟩ := hs.nppDestroyed hp hv hstack
    exact ⟨_, ht⟩
  | cons o rest =>
    obtain ⟨x, hx, hf, -⟩ := hw.owned o _ ((hw.owners o).mpr (List.mem_cons_self ..))
    rw [Instances.invalidateNPObjects, hx]
    exact ⟨_, if_neg (Bool.eq_false_iff.mp hf)⟩

theorem Sound.destroyReturned_tracked (hs : s.Sound) (hk : s.Tracked) (hb : s.Tabled) {stack : List Frame}
    (hst : s.stack = .destroy i :: stack) (ha : s.Allowed (.destroyReturns order)) :
    ∃ t, Instances.destroyReturned { s with stack } i order = .ok t ∧ t.Tracked ∧ t.Tabled := by
  obtain ⟨hpop, ⟨p, hp, hv⟩, hstack⟩ := hs.pop_destroying (i := i) hst (decide_eq_true rfl) fun _ => rfl
  have hf := hs.live hp (.inl hv)
  have hwalk : s.isWalked i = false := by
    refine isWalked_false.mpr fun o rest hmem => ?_
    rw [hst] at hmem
    rcases List.mem_cons.mp hmem with heq | hmem
    · cases heq
    · exact Bool.false_ne_true ((hstack _ hmem).symm.trans (decide_eq_true rfl))
  have hperm := ha i p stack hst hp
  have hfound : s.Found i order := by
    intro o x hx hc hproxy hxf
    obtain ⟨p', hp', hin⟩ := hb.kept o x i hx hxf hproxy hc
    rw [hp] at hp'
    cases hp'
    exact hperm.mem_iff.mpr (hin hv hf hwalk)
  have hwalking := hk.markRemaining hst hp hv hwalk hperm hfound
  have hmark : (Instances.markRemaining { s with stack } i).Sound := hpop.of_eq rfl rfl rfl rfl
  obtain ⟨t, ht⟩ := hwalking.exists_next hmark hp hv hstack
  refine ⟨t, ?_, hwalking.invalidateNPObjects ht, ?_⟩
  · have ha : access { s with stack } i = .ok p := access_eq hp hf
    rw [Instances.destroyReturned, ha]
    exact ht
  · have hpopped := hb.upholds (upholds_pop hst (by simp))
    exact (hpopped.upholds (upholds_markRemaining _ i)).invalidateNPObjects ht

theorem Sound.invalidateReturned_tracked (hs : s.Sound) (hk : s.Tracked) (hb : s.Tabled) {stack : List Frame}
    (hst : s.stack = .invalidate i o rest :: stack) :
    ∃ t, Instances.invalidateReturned { s with stack } i o rest = .ok t ∧ t.Tracked ∧ t.Tabled := by
  obtain ⟨hpop, ⟨p, hp, hv⟩, hstack⟩ := hs.pop_destroying (i := i) hst (decide_eq_true rfl) fun _ => rfl
  have hwalking := hk.unregistered hst hstack
  have hsound : (Instances.unregistered { s with stack } o).Sound := hpop.of_eq rfl rfl rfl rfl
  obtain ⟨t, ht⟩ := hwalking.exists_next hsound hp hv hstack
  have hreturned : Instances.invalidateReturned { s with stack } i o rest = .ok t := by
    have ha : access (Instances.unregistered { s with stack } o) i = .ok p := access_eq hp (hs.live hp (.inl hv))
    unfold Instances.invalidateReturned
    change (access (Instances.unregistered { s with stack } o) i).bind _ = _
    rw [ha]
    exact ht
  exact ⟨t, hreturned, hwalking.invalidateNPObjects ht, hb.invalidateReturned hst hreturned⟩

theorem onNPObjects_exists (hp : s.plugins i = some p) (hf : p.isFreed = false) (hwalk : s.isWalked i = false)
    (f : List Nat → List Nat) : ∃ t, s.onNPObjects i f = .ok t := by
  rw [Instances.onNPObjects, access_eq hp hf]
  simp only [Except.bind]
  split
  · exact ⟨s, rfl⟩
  · rw [hwalk]
    split
    · exact ⟨s, rfl⟩
    · exact ⟨_, rfl⟩

theorem Sound.npnCreateObject_tracked (hs : s.Sound) (hk : s.Tracked) (hb : s.Tabled) {plugin : Option Nat} {isProxy : Bool}
    {npobj : Option Nat} (ho : ∀ o, npobj = some o → s.objects o = none)
    (hw : npobj ≠ none → isProxy = false → ∀ i, plugin = some i → s.isWalked i = false ∧
      ∃ p, s.plugins i = some p ∧ p.isValid = true ∧ p.npobjects ≠ none) :
    ∃ t, s.npnCreateObject plugin isProxy npobj = .ok t ∧ t.Tracked ∧ t.Tabled := by
  have hplugin (hne : npobj ≠ none) (hproxy : isProxy = false) (i : Nat) (hi : plugin = some i) :
      s.isWalked i = false ∧ ∃ p, s.plugins i = some p ∧ p.npobjects ≠ none := by
    obtain ⟨hwalk, p, hp, -, hnp⟩ := hw hne hproxy i hi
    exact ⟨hwalk, p, hp, hnp⟩
  have hstands (hproxy : isProxy = false) (hne : npobj ≠ none) (i : Nat) (hi : plugin = some i) :
      s.isWalked i = false ∧ s.Standing i := by
    obtain ⟨hwalk, p, hp, hv, -⟩ := hw hne hproxy i hi
    exact ⟨hwalk, p, hp, hv⟩
  suffices hexists : ∃ t, s.npnCreateObject plugin isProxy npobj = .ok t by
    obtain ⟨t, ht⟩ := hexists
    refine ⟨t, ht, ?_, hb.npnCreateObject ht hplugin⟩
    cases npobj with
    | none =>
      cases ht
      exact hk
    | some o => exact hk.npnCreateObject ht ho fun hproxy => hstands hproxy nofun
  cases npobj with
  | none => exact ⟨s, rfl⟩
  | some o =>
    have hnone : s.owners.lookup o = none := hk.unknown (ho o rfl)
    cases isProxy with
    | true => exact ⟨_, rfl⟩
    | false =>
      unfold Instances.npnCreateObject
      simp only [Bool.false_eq_true, if_false]
      rw [if_neg (by simp [putObject_owners, hnone])]
      cases plugin with
      | none => exact ⟨_, rfl⟩
      | some i =>
        obtain ⟨hwalk, p, hp, hv, -⟩ := hw nofun rfl i rfl
        exact onNPObjects_exists (s := { s.putObject o _ with owners := _ }) hp (hs.live hp (.inl hv)) hwalk _

theorem npnRetainObject_exists (hx : s.objects o = some x) (hf : x.isFreed = false) : ∃ t, s.npnRetainObject o = .ok t := by
  rw [Instances.npnRetainObject, hx]
  exact ⟨_, if_neg (Bool.eq_false_iff.mp hf)⟩

theorem Sound.npnReleaseObject_exists (hs : s.Sound) (hk : s.Tracked) (hx : s.objects o = some x) (hf : x.isFreed = false)
    (hw : s.Watchful (.npnReleaseObject o)) : ∃ t, s.npnReleaseObject o = .ok t := by
  rw [Instances.npnReleaseObject, hx]
  dsimp only
  rw [if_neg (Bool.eq_false_iff.mp hf)]
  split
  · exact ⟨_, rfl⟩
  · rename_i hone
    change ∃ t, Except.map _ ((s.owners.lookup o).join.elim _ _) = .ok t
    cases howner : (s.owners.lookup o).join with
    | none => exact ⟨_, rfl⟩
    | some i =>
      have howner := Option.join_eq_some_iff.mp howner
      obtain ⟨p, hp, hv⟩ := hk.named o i howner
      obtain ⟨t, ht⟩ := onNPObjects_exists (s := s.putObject o { x with referenceCount := x.referenceCount - 1 }) hp
        (hs.live hp (.inl hv)) (hw x i hx (not_not.mp hone) howner) fun npobjects => npobjects.erase o
      rw [Option.elim_some, ht]
      exact ⟨_, rfl⟩

/-- Whatever the step, it finds what it uses, and the objects stay known. -/
theorem Sound.step_tracked (hs : s.Sound) (hk : s.Tracked) (hb : s.Tabled) {e : Event} (ha : s.Allowed e)
    (hc : s.Careful e) (hw : s.Watchful e) {r : Result} (h : s.exec e = some r) :
    ∃ t, r = .ok t ∧ t.Sound ∧ t.Tracked ∧ t.Tabled := by
  cases hpasses : e.passes with
  | true =>
    have he : e.ofObjects = false := by
      cases e <;> first | rfl | cases hpasses
    obtain ⟨t, rfl, hsound⟩ := hs.exec ha hc he h
    exact ⟨t, rfl, hsound, tracked_closed.exec hpasses h ⟨hk, hb⟩⟩
  | false =>
    suffices hrest : ∃ t, r = .ok t ∧ (e.ofObjects = false → t.Sound) ∧ t.Tracked ∧ t.Tabled by
      obtain ⟨t, rfl, hsound, hrest⟩ := hrest
      refine ⟨t, rfl, ?_, hrest⟩
      cases he : e.ofObjects with
      | false => exact hsound he
      | true => exact hs.exec_ofObjects he h
    cases e with
    | nppNew i instanceId npp =>
      obtain ⟨hi, hid, -⟩ := ha
      cases h
      exact ⟨_, rfl, fun _ => hs.nppNew hi hid npp, hk.nppNew i instanceId npp, hb.nppNew hi instanceId npp⟩
    | newpReturns ok xtSource =>
      simp only [Instances.exec, Instances.returns] at h
      split at h
      · rename_i i stack hst
        cases h
        obtain ⟨t, ht, hsound⟩ := hs.newpReturned hst (hc i stack hst) ok xtSource
        have hnew : .newp i ∉ stack := by
          have hcount := hs.newp i
          rw [hst, List.count_cons_self] at hcount
          exact List.count_eq_zero.mp (by omega)
        have hpop := hk.pop hst (by simp)
        exact ⟨t, ht, fun _ => hsound, hpop.newpReturned ht, hb.newpReturned hst hnew ht⟩
      · cases h
    | destroyReturns order =>
      simp only [Instances.exec, Instances.returns] at h
      split at h
      · rename_i i stack hst
        cases h
        obtain ⟨t, ht, hrest⟩ := hs.destroyReturned_tracked hk hb hst ha
        exact ⟨t, ht, (by rintro ⟨⟩), hrest⟩
      · cases h
    | invalidateReturns =>
      simp only [Instances.exec, Instances.returns] at h
      split at h
      · rename_i i o rest stack hst
        cases h
        obtain ⟨t, ht, hrest⟩ := hs.invalidateReturned_tracked hk hb hst
        exact ⟨t, ht, (by rintro ⟨⟩), hrest⟩
      · cases h
    | allocateReturns npobj =>
      simp only [Instances.exec, Instances.returns] at h
      split at h
      · rename_i plugin isProxy stack hst
        cases h
        have hguard (hne : npobj ≠ none) (hproxy : isProxy = false) (i : Nat) (hi : plugin = some i) :
            Instances.isWalked { s with stack } i = false ∧
              ∃ p, s.plugins i = some p ∧ p.isValid = true ∧ p.npobjects ≠ none := by
          subst hproxy hi
          obtain ⟨hwalk, hp⟩ := hw i stack hst hne
          refine ⟨isWalked_false.mpr fun o rest hmem => ?_, hp⟩
          exact isWalked_false.mp hwalk o rest (hst ▸ List.mem_cons_of_mem _ hmem)
        obtain ⟨t, ht, hrest⟩ := (hs.pop_free hst fun _ => rfl).npnCreateObject_tracked (hk.pop hst (by simp))
          (hb.upholds (upholds_pop hst (by simp))) ha hguard
        exact ⟨t, ht, (by rintro ⟨⟩), hrest⟩
      · cases h
    | npnRetainObject o =>
      obtain ⟨x, hx, hf⟩ := ha
      cases h
      obtain ⟨t, ht⟩ := npnRetainObject_exists hx hf
      exact ⟨t, ht, (by rintro ⟨⟩), hk.npnRetainObject ht, hb.npnRetainObject ht⟩
    | npnReleaseObject o =>
      obtain ⟨x, hx, hf⟩ := ha
      cases h
      obtain ⟨t, ht⟩ := hs.npnReleaseObject_exists hk hx hf hw
      exact ⟨t, ht, (by rintro ⟨⟩), hk.npnReleaseObject ht hw, hb.npnReleaseObject ht⟩
    | _ => cases hpasses

theorem tracked_started : started.Tracked where
  owned := nofun
  listed := nofun
  walked := nofun
  named := nofun
  settled := nofun

theorem tabled_started : started.Tabled where
  kept := nofun
  fresh := nofun

/-! ### The objects of an instance -/

/-- An object that was alive when the plugin's NPP_Destroy had returned is invalidated and unregistered once by the end
    of g_NPP_Destroy, others never are, and an object is registered for no instance that was freed. -/
structure Attended (s : Instances) : Prop where
  once : ∀ o x i, s.objects o = some x → x.createdFor = some i → s.Invalid i → x.remained = true →
    x.invalidated = 1 ∧ x.unregistered = 1
  untouched : ∀ o x, s.objects o = some x → x.remained = false → x.invalidated = 0 ∧ x.unregistered = 0
  named : ∀ o i, s.owners.lookup o = some (some i) → s.Live i

/-- Nothing is gone over for an instance that is not valid any more. -/
theorem Sound.attended (hs : s.Sound) (hk : s.Tracked) : s.Attended where
  once := by
    intro o x i hx hc hi hr
    obtain (⟨hr', -⟩ | ⟨-, hinvalidated, hunregistered, -⟩) | ⟨j, o', rest, hmem, hin⟩ := hk.settled o x hx
    · rw [hr] at hr'
      cases hr'
    · exact ⟨hinvalidated, hunregistered⟩
    · obtain ⟨x', hx', -, -, hc'⟩ := hk.owned o _ (hk.registered hmem hin)
      rw [hx] at hx'
      cases hx'
      rw [hc] at hc'
      cases hc'
      obtain ⟨p, hp, hv⟩ := hs.destroying _ hmem i (decide_eq_true rfl)
      obtain ⟨p', hp', hv'⟩ := hi
      rw [hp] at hp'
      cases hp'
      rw [hv] at hv'
      cases hv'
  untouched := by
    intro o x hx hr
    obtain (⟨-, hcounts⟩ | ⟨hr', -⟩) | ⟨j, o', rest, hmem, hin⟩ := hk.settled o x hx
    · exact hcounts
    · rw [hr] at hr'
      cases hr'
    · -- what is gone over was found alive
      obtain ⟨-, ⟨x₁, hx₁, hr₁, -⟩, hleft⟩ := hk.walked j o' rest hmem
      rcases List.mem_cons.mp hin with rfl | hin
      · rw [hx] at hx₁
        cases hx₁
        rw [hr] at hr₁
        cases hr₁
      · obtain ⟨x₂, hx₂, hr₂, -⟩ := hleft o hin
        rw [hx] at hx₂
        cases hx₂
        rw [hr] at hr₂
        cases hr₂
  named := by
    intro o i ho
    obtain ⟨p, hp, hv⟩ := hk.named o i ho
    exact ⟨p, hp, hs.live hp (.inl hv)⟩

end Instances

open Instances in
/-- In a run in which objects are made when their instance has its table, and the tables are left alone while they are
    gone over, NPP_Destroy attends to all of them. -/
theorem objects_attended {s : Except Fault Instances}
    (h : (viewerInstances.restrict fun s e => ∀ v, s = .ok v → v.Careful e ∧ v.Watchful e).Reachable s) :
    ∃ v, s = .ok v ∧ v.Attended := by
  have hinv : ∃ v, s = .ok v ∧ v.Sound ∧ v.Tracked ∧ v.Tabled := by
    refine h.invariant (fun s => ∃ v, s = .ok v ∧ v.Sound ∧ v.Tracked ∧ v.Tabled) ?_ ?_
    · rintro _ rfl
      exact ⟨_, rfl, sound_started, tracked_started, tabled_started⟩
    · rintro _ e t - ⟨v, rfl, hsound, htracked, htabled⟩ ⟨hguard, v', hv', ha, hexec⟩
      cases hv'
      obtain ⟨hc, hw⟩ := hguard v rfl
      exact hsound.step_tracked htracked htabled ha hc hw hexec
  obtain ⟨v, rfl, hsound, htracked, -⟩ := hinv
  exact ⟨v, rfl, hsound.attended htracked⟩

namespace Instances

/-- An object is made behind NPP_New, and is alive at NPP_Destroy. -/
theorem objects_attended_once : ∃ v, run started
    [.nppNew 0 1 true, .newpReturns true true, .npnCreateObject (some 0) false, .allocateReturns (some 0), .nppDestroy 1,
      .destroyReturns [0], .invalidateReturns] = .ok v ∧ v.Attended := by
  have h₀ : (viewerInstances.restrict fun s e => ∀ v, s = .ok v → v.Careful e ∧ v.Watchful e).Reachable (.ok started) :=
    .init rfl
  have h₁ := h₀.next (.nppNew 0 1 true) ⟨fun _ _ => ⟨trivial, trivial⟩, _, rfl, newp_allowed _ _ rfl rfl, rfl⟩
  have h₂ := h₁.next (.newpReturns true true)
    ⟨fun v hv => by cases hv; exact ⟨fun _ _ hst => by cases hst; exact ⟨_, rfl, rfl⟩, trivial⟩, _, rfl, trivial, rfl⟩
  have h₃ := h₂.next (.npnCreateObject (some 0) false)
    ⟨fun _ _ => ⟨trivial, trivial⟩, _, rfl, fun _ hi => by cases hi; exact ⟨_, rfl, rfl⟩, rfl⟩
  have h₄ := h₃.next (.allocateReturns (some 0))
    ⟨fun v hv => by
      cases hv
      refine ⟨trivial, fun i stack hst _ => ?_⟩
      cases hst
      exact ⟨rfl, _, rfl, rfl, nofun⟩, _, rfl, fun _ ho => by cases ho; rfl, rfl⟩
  have h₅ := h₄.next (.nppDestroy 1)
    ⟨fun v hv => by cases hv; exact ⟨fun _ _ => nofun, trivial⟩, _, rfl, fun _ _ hi hp => by cases hi; cases hp; rfl, rfl⟩
  have h₆ := h₅.next (.destroyReturns [0]) ⟨fun _ _ => ⟨trivial, trivial⟩, _, rfl,
      fun _ _ _ hst hp => by cases hst; cases hp; exact .refl _, rfl⟩
  have h₇ := h₆.next .invalidateReturns ⟨fun _ _ => ⟨trivial, trivial⟩, _, rfl, trivial, rfl⟩
  exact objects_attended h₇

/-- An object is made inside NPP_New, where there is no table: when the instance is freed it still names it. -/
theorem objects_unattended : ¬ ∀ s, viewerInstances.Reachable s → ∃ v, s = .ok v ∧ v.Attended := by
  intro h
  have h₀ : viewerInstances.Reachable (.ok started) := .init rfl
  have h₁ := h₀.next (.nppNew 0 1 true) ⟨_, rfl, newp_allowed _ _ rfl rfl, rfl⟩
  have h₂ := h₁.next (.npnCreateObject (some 0) false) ⟨_, rfl, fun _ hi => by cases hi; exact ⟨_, rfl, rfl⟩, rfl⟩
  have h₃ := h₂.next (.allocateReturns (some 0)) ⟨_, rfl, fun _ ho => by cases ho; rfl, rfl⟩
  have h₄ := h₃.next (.newpReturns true true) ⟨_, rfl, trivial, rfl⟩
  have h₅ := h₄.next (.nppDestroy 1) ⟨_, rfl, fun _ _ hi hp => by cases hi; cases hp; rfl, rfl⟩
  have h₆ := h₅.next (.destroyReturns []) ⟨_, rfl, fun _ _ _ hst hp => by cases hst; cases hp; exact .refl _, rfl⟩
  obtain ⟨v, hv, hattended⟩ := h _ h₆
  cases hv
  obtain ⟨p, hp, hf⟩ := hattended.named 0 0 rfl
  cases hp
  cases hf

end Instances
end NSPluginWrapper
