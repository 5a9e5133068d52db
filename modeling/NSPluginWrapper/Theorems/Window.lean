import NSPluginWrapper.Lib.Machine
import NSPluginWrapper.Plugin.Window

/-! Which NPP_SetWindow calls the window of an instance survives: one that makes a window must find none from before,
    must bring its attributes, and must get a visual for them. -/

namespace NSPluginWrapper
open Lib

namespace Windows
variable {sys : System} {p : PluginInstance} {l : Blocks} {rest : List Nat} {v : Viewer}

/-- What destroy_window() gives up. -/
def PluginInstance.held (p : PluginInstance) : List Nat :=
  (p.toolkitData.map Toolkit.blocks).getD [] ++ (p.window.wsInfo.map WsInfo.block).toList

/-- The blocks are those of the instance and `rest`, and a toolkit window has its attributes. -/
structure Kept (rest : List Nat) (p : PluginInstance) (l : Blocks) : Prop where
  balanced : l.Balanced (p.held ++ rest)
  attributes : p.toolkitData.isSome → p.window.wsInfo.isSome

/-- A call returns, and the instance is as it should be. -/
def Returns {α : Type} (rest : List Nat) (r : Except Fault (α × PluginInstance × Blocks)) : Prop :=
  ∃ a p l, r = .ok (a, p, l) ∧ Kept rest p l

theorem releaseAll_append (as bs : List Nat) : l.releaseAll (as ++ bs) = (l.releaseAll as).releaseAll bs := by
  induction as generalizing l with
  | nil => rfl
  | cons a as ih => exact ih

theorem Kept.destroyWindow (h : Kept rest p l) : Kept rest (destroyWindow p l).1 (destroyWindow p l).2 := by
  refine ⟨?_, by simp [Windows.destroyWindow]⟩
  have hall := h.balanced.releaseAll
  simpa [Windows.destroyWindow, destroyWindowAttributes, PluginInstance.held, releaseAll_append] using hall

theorem Kept.congr {q : PluginInstance} (h : Kept rest p l) (hinfo : q.window.wsInfo = p.window.wsInfo)
    (htool : q.toolkitData = p.toolkitData) : Kept rest q l :=
  ⟨by rw [PluginInstance.held, hinfo, htool]; exact h.balanced, by rw [hinfo, htool]; exact h.attributes⟩

theorem fixupSizeHints_keeps : (fixupSizeHints sys p).window.wsInfo = p.window.wsInfo ∧
    (fixupSizeHints sys p).toolkitData = p.toolkitData ∧ (fixupSizeHints sys p).isWindowless = p.isWindowless := by
  simp only [fixupSizeHints]
  split
  · simp
  · split
    · split <;> simp
    · simp

/-! ### Making a window -/

/-- gdk has the visual that the attributes name, or the one of the system where they name none. -/
def HasVisual (sys : System) (info : NPSetWindowCallbackStruct) : Prop :=
  (if info.visual ≠ 0 then sys.visual info.visual else sys.systemVisual).isSome

theorem createWindowAttributes_ok {info : NPSetWindowCallbackStruct} (h : HasVisual sys info) :
    ∃ info', createWindowAttributes sys (some info) = .ok info' := by
  obtain ⟨visual, hvisual⟩ := Option.isSome_iff_exists.mp h
  exact ⟨{ info with visual := visual }, by simp only [createWindowAttributes, hvisual]⟩

theorem createToolkit_returns (h : Kept rest p l) (htool : p.toolkitData = none) (hinfo : p.window.wsInfo.isSome) :
    ∃ a p' l', createToolkit sys p l = (a, p', l') ∧ Kept rest p' l' := by
  rw [createToolkit]
  split
  · refine ⟨_, _, _, rfl, ?_, fun _ => hinfo⟩
    have hmade := h.balanced.make.make
    simpa [PluginInstance.held, Toolkit.blocks, htool] using hmade
  · exact ⟨_, _, _, rfl, h⟩

/-- The window of a windowless instance is replaced, any other must have been destroyed. -/
theorem createWindow_returns {window : Window} (h : Kept rest p l) (htool : p.toolkitData = none)
    (hold : p.isWindowless = true ∨ p.window.wsInfo = none)
    (hattr : sys.clone = true → ∃ w ∈ window.wsInfo, HasVisual sys w.info) :
    Returns rest (createWindow sys p window l) := by
  -- the instance without its old attributes
  obtain ⟨p', l', hp', hnone, htool', hbal⟩ : ∃ p' l', (if p.isWindowless then
      ({ p with window := { p.window with wsInfo := none } }, destroyWindowAttributes p.window.wsInfo l)
      else (p, l)) = (p', l') ∧ p'.window.wsInfo = none ∧ p'.toolkitData = none ∧ l'.Balanced rest := by
    have hbal : (p.window.wsInfo.map WsInfo.block).toList = [] → l.Balanced rest := by
      intro hnil
      have hb := h.balanced
      simpa [PluginInstance.held, htool, hnil] using hb
    split
    · refine ⟨_, _, rfl, rfl, htool, ?_⟩
      have hb := h.balanced
      simp only [PluginInstance.held, htool, Option.map_none, Option.getD_none, List.nil_append] at hb
      exact hb.releaseAll
    · rename_i hw
      have hwnone := hold.resolve_left hw
      exact ⟨_, _, rfl, hwnone, htool, hbal (by simp [hwnone])⟩
  have hempty : Kept rest p' l' := ⟨by simpa [PluginInstance.held, hnone, htool'] using hbal, by simp [htool']⟩
  simp only [createWindow, hp', hnone, memClone]
  cases hclone : sys.clone with
  | false => exact ⟨_, _, _, rfl, hempty⟩
  | true =>
    obtain ⟨w, hw, hvisual⟩ := hattr hclone
    obtain ⟨info, hinfo⟩ := createWindowAttributes_ok hvisual
    rw [Option.mem_def] at hw
    let q : PluginInstance := { p' with window := { window with wsInfo := some ⟨l'.made, info⟩ } }
    have hq : Kept rest q l'.make := ⟨by simpa [q, PluginInstance.held, htool'] using hbal.make, fun _ => rfl⟩
    obtain ⟨hkinfo, hktool, -⟩ := fixupSizeHints_keeps (p := q)
    have hkept := hq.congr hkinfo hktool
    simp only [hw, hinfo, Option.isSome_none, Bool.false_eq_true, if_false, if_true, bind, Except.bind]
    split
    · exact ⟨_, _, _, rfl, hkept⟩
    · obtain ⟨a, p'', l'', heq, hk⟩ := createToolkit_returns hkept (by rw [hktool]; exact htool')
        (by rw [hkinfo]; rfl)
      exact ⟨a, p'', l'', congrArg Except.ok heq, hk⟩

/-! ### One call -/

theorem updateWindow_returns (sys : System) (window : Window) (h : Kept rest p l) (htool : p.toolkitData.isSome = true) :
    ∃ a p', updateWindow sys p window = .ok (a, p') ∧ Kept rest p' l := by
  obtain ⟨w, hw⟩ := Option.isSome_iff_exists.mp (h.attributes htool)
  simp only [updateWindow]
  split
  · exact ⟨_, _, rfl, h⟩
  · cases window.wsInfo with
    | none => exact ⟨_, _, rfl, h⟩
    | some given =>
      simp only [hw]
      refine ⟨_, _, rfl, ?_, fun _ => rfl⟩
      have hb := h.balanced
      simpa [PluginInstance.held, hw] using hb

/-- A call with `window` comes to create_window() from `p`. -/
def Creates (p : PluginInstance) (window : NPWindow) : Prop :=
  p.toolkitData = none ∧ (window.window ≠ 0 ∨ window.type = NPWindowType.drawable)

/-- Nothing is left of a window before, and the attributes are there and have a visual. -/
def Creatable (sys : System) (p : PluginInstance) (window : NPWindow) : Prop :=
  (window.type = NPWindowType.drawable ∨ p.window.wsInfo = none) ∧
    (sys.clone = true → ∃ info ∈ window.wsInfo, HasVisual sys info)

theorem showWindow_returns {window : Option Window} (h : Kept rest p l)
    (hc : ∀ w ∈ window, p.toolkitData = none → w.window ≠ 0 ∨ p.isWindowless = true →
      (p.isWindowless = true ∨ p.window.wsInfo = none) ∧ (sys.clone = true → ∃ i ∈ w.wsInfo, HasVisual sys i.info)) :
    Returns rest (showWindow sys p window l) := by
  rw [showWindow]
  split
  · exact ⟨_, _, _, rfl, h⟩
  · rename_i w hw
    obtain ⟨hmem, hshown⟩ := Option.filter_eq_some_iff.mp hw
    cases htool : p.toolkitData with
    | none =>
      obtain ⟨hold, hattr⟩ := hc w hmem htool (by simpa using hshown)
      exact createWindow_returns h htool hold hattr
    | some toolkit =>
      obtain ⟨a, p', heq, hk⟩ := updateWindow_returns sys w h (by rw [htool]; rfl)
      simp only [Option.isSome_some, if_true, heq]
      exact ⟨a, p', l, rfl, hk⟩

/-- Whatever came of the window, it may be destroyed again behind the plugin's call. -/
theorem gNPPSetWindow_returns (sys : System) (setwindow : Bool) (window : Option Window) (h : Kept rest p l)
    (hc : setwindow = true → Returns rest (showWindow sys
      { p with isWindowless := window.any fun w => w.type = NPWindowType.drawable } window l)) :
    ∃ a p' l', gNPPSetWindow sys setwindow (some p) window l = .ok (a, some p', l') ∧ Kept rest p' l' := by
  cases setwindow with
  | false => exact ⟨_, _, _, rfl, h⟩
  | true =>
    obtain ⟨a, p', l', heq, hk⟩ := hc rfl
    simp only [gNPPSetWindow, Bool.not_true, Bool.false_eq_true, if_false, heq, bind, Except.bind]
    split
    · exact ⟨_, _, _, rfl, hk⟩
    · split
      · exact ⟨_, _, _, rfl, hk.destroyWindow⟩
      · exact ⟨_, _, _, rfl, hk⟩

/-! ### Runs -/

/-- The blocks are those of the instance, and there are none without it. -/
def Viewer.Settled (v : Viewer) : Prop :=
  (∀ p ∈ v.plugin, Kept [] p v.blocks) ∧ (v.plugin = none → v.blocks.Balanced [])

/-- The window can be made wherever a call comes to make one. -/
def Viewer.Careful (v : Viewer) : Event → Prop
  | .setWindow sys (some window) => v.setwindow = true → ∀ p ∈ v.plugin, Creates p window → Creatable sys p window
  | _ => True

theorem created_settled (setwindow useXembed : Bool) (width height : UInt32) :
    (created setwindow useXembed width height).Settled := by
  refine ⟨fun p hp => ?_, nofun⟩
  cases hp
  exact ⟨Blocks.balanced_empty, nofun⟩

/-- The attributes that come with the message are one block more. -/
theorem received_balanced (window : NPWindow) {held : List Nat} (h : l.Balanced held) :
    (received window l).2.Balanced (((received window l).1.wsInfo.map WsInfo.block).toList ++ held) := by
  cases hinfo : window.wsInfo with
  | none => simpa [received, hinfo] using h
  | some info => simpa [received, hinfo] using h.make

theorem Kept.received (h : Kept [] p l) (window : NPWindow) :
    Kept ((received window l).1.wsInfo.map WsInfo.block).toList p (received window l).2 := by
  refine ⟨(received_balanced window (h.balanced.perm ?_)).perm List.perm_append_comm, h.attributes⟩
  simp

theorem Kept.release {held : List Nat} (h : Kept held p l) : Kept [] p (l.releaseAll held) :=
  ⟨by simpa using (h.balanced.perm List.perm_append_comm).releaseAll, h.attributes⟩

theorem handleNPPSetWindow_settled {window : Option NPWindow} (hs : v.Settled)
    (hc : v.Careful (.setWindow sys window)) :
    ∃ ret v', handleNPPSetWindow sys v window = .ok (ret, v') ∧ v'.Settled := by
  obtain ⟨setwindow, plugin, l⟩ := v
  cases plugin with
  | none =>
    have hl := hs.2 rfl
    cases window with
    | none => exact ⟨_, _, rfl, nofun, fun _ => hl⟩
    | some window =>
      refine ⟨_, _, rfl, nofun, fun _ => ?_⟩
      have hrec := received_balanced window hl
      exact hrec.releaseAll
  | some p =>
    have hp := hs.1 p rfl
    cases window with
    | none =>
      obtain ⟨a, p', l', heq, hk⟩ := gNPPSetWindow_returns sys setwindow none hp
        fun _ => showWindow_returns (hp.congr rfl rfl) nofun
      simp only [handleNPPSetWindow, heq]
      exact ⟨a, _, rfl, fun q hq => by cases hq; exact hk, nofun⟩
    | some window =>
      have hrec := hp.received window
      obtain ⟨a, p', l', heq, hk⟩ := gNPPSetWindow_returns sys setwindow
        (some (received window l).1) hrec fun hset => showWindow_returns (hrec.congr rfl rfl) (by
          rintro w ⟨⟩ htool hshown
          obtain ⟨hold, hattr⟩ := hc hset p rfl ⟨htool, by simpa [received] using hshown⟩
          refine ⟨by simpa [received] using hold, fun hclone => ?_⟩
          obtain ⟨info, hinfo, hvisual⟩ := hattr hclone
          exact ⟨⟨l.made, info⟩, Option.mem_map_of_mem _ hinfo, hvisual⟩)
      simp only [handleNPPSetWindow, heq, bind, Except.bind]
      exact ⟨a, _, rfl, fun q hq => by cases hq; exact hk.release, nofun⟩

/-- gtk gives up the container, and the toolkit data does not have it any more. -/
theorem containerDestroyed_settled (hs : v.Settled) : (containerDestroyed v).Settled := by
  obtain ⟨setwindow, plugin, l⟩ := v
  rw [containerDestroyed]
  split
  · rename_i p hp
    cases hp
    have hk := hs.1 p rfl
    split
    · rename_i block container htool
      split
      · refine ⟨fun q hq => ?_, nofun⟩
        cases hq
        refine ⟨?_, fun _ => hk.attributes (by rw [htool]; rfl)⟩
        have hb := hk.balanced
        simp only [PluginInstance.held, htool, Toolkit.blocks, Option.map_some, Option.getD_some, Option.toList_some,
          List.cons_append, List.nil_append] at hb
        exact hb.release
      · exact hs
    · exact hs
  · exact hs

theorem gNPPDestroy_settled (hs : v.Settled) : (gNPPDestroy v).Settled := by
  obtain ⟨setwindow, plugin, l⟩ := v
  cases plugin with
  | none => exact hs
  | some p =>
    refine ⟨nofun, fun _ => ?_⟩
    exact (hs.1 p rfl).destroyWindow.balanced

theorem exec_settled {e : Event} (hs : v.Settled) (hc : v.Careful e) : ∃ v', exec v e = .ok v' ∧ v'.Settled := by
  cases e with
  | setWindow sys window =>
    obtain ⟨ret, v', heq, hs'⟩ := handleNPPSetWindow_settled hs hc
    exact ⟨v', by simp only [exec, heq]; rfl, hs'⟩
  | containerDestroyed => exact ⟨_, rfl, containerDestroyed_settled hs⟩
  | destroy => exact ⟨_, rfl, gNPPDestroy_settled hs⟩

end Windows

/-- The calls for one instance, of either toolkit, from behind its NPP_New. -/
def instanceWindows : Machine (Except Windows.Fault Windows.Viewer) Windows.Event where
  init s := ∃ setwindow useXembed width height, s = .ok (Windows.created setwindow useXembed width height)
  step s e t := ∃ v, s = .ok v ∧ Windows.exec v e = t

/-- What was made is the instance's, or was released; each once when there is no instance any more. -/
def Windows.Viewer.Accounted (v : Windows.Viewer) : Prop :=
  (∀ p ∈ v.plugin, v.blocks.Balanced p.held) ∧ (v.plugin = none → ∀ b < v.blocks.made, v.blocks.released.count b = 1)

open Windows in
/-- In a run that makes each window with attributes, a visual, and nothing left of the window before, no assertion
    fails and no attributes are missed, and all that was made is accounted for. -/
theorem windows_settled {s : Except Windows.Fault Windows.Viewer}
    (h : (instanceWindows.restrict fun s e => ∀ v, s = .ok v → v.Careful e).Reachable s) :
    ∃ v, s = .ok v ∧ v.Accounted := by
  have hinv : ∃ v, s = .ok v ∧ v.Settled := by
    refine h.invariant (fun s => ∃ v, s = .ok v ∧ v.Settled) ?_ ?_
    · rintro _ ⟨setwindow, useXembed, width, height, rfl⟩
      exact ⟨_, rfl, created_settled setwindow useXembed width height⟩
    · rintro _ e _ - ⟨v, rfl, hs⟩ ⟨hc, v', hv', rfl⟩
      cases hv'
      exact exec_settled hs (hc v rfl)
  obtain ⟨v, rfl, hs⟩ := hinv
  refine ⟨v, rfl, fun p hp => by simpa using (hs.1 p hp).balanced, fun hnone b hb => ?_⟩
  exact (hs.2 hnone).count_eq_one hb

namespace Windows

/-- Memory and visuals are there for everything. -/
def System.ample : System where
  clone := true
  visual := some
  systemVisual := some 0x21
  windowSize := none
  toolkit := true
  ownWindow := 0x600001
  setwindow := NPError.noError

def windowOf (type : Int32) : NPWindow where
  window := 0x400001
  x := 0
  y := 0
  width := 320
  height := 240
  clipRect := ⟨0, 0, 240, 320⟩
  type := type
  wsInfo := some ⟨1, 0x21, 0x20, 24⟩

/-- What a run of events leaves. -/
def run (v : Viewer) (es : List Event) : Except Fault Viewer := es.foldlM exec v

/-- A window is made, brought up to date, and goes with the instance. -/
theorem windows_settled_once : ∃ v, run (created true true 0 0) [.setWindow .ample (some (windowOf 1)),
    .setWindow .ample (some (windowOf 1)), .destroy] = .ok v ∧ v.Accounted := by
  have h₀ : (instanceWindows.restrict fun s e => ∀ v, s = .ok v → v.Careful e).Reachable (.ok (created true true 0 0)) :=
    .init ⟨_, _, _, _, rfl⟩
  have h₁ := h₀.next (.setWindow .ample (some (windowOf 1))) ⟨(by
    rintro v ⟨⟩ - p ⟨⟩ -
    exact ⟨.inr rfl, fun _ => ⟨_, rfl, rfl⟩⟩), _, rfl, rfl⟩
  have h₂ := h₁.next (.setWindow .ample (some (windowOf 1))) ⟨(by
    rintro v ⟨⟩ - p ⟨⟩ ⟨htool, -⟩
    cases htool), _, rfl, rfl⟩
  have h₃ := h₂.next .destroy ⟨fun _ _ => trivial, _, rfl, rfl⟩
  exact windows_settled h₃

/-- A windowless plugin gets a window of its own: the attributes of before are still there. -/
theorem windows_assert : ¬ ∀ s, instanceWindows.Reachable s → ∃ v, s = .ok v ∧ v.Accounted := by
  intro h
  have h₀ : instanceWindows.Reachable (.ok (created true true 0 0)) := .init ⟨_, _, _, _, rfl⟩
  have h₁ := h₀.next (.setWindow .ample (some (windowOf 2))) ⟨_, rfl, rfl⟩
  have h₂ := h₁.next (.setWindow .ample (some (windowOf 1))) ⟨_, rfl, rfl⟩
  obtain ⟨v, hv, -⟩ := h _ h₂
  cases hv

end Windows
end NSPluginWrapper
