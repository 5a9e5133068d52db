import NSPluginWrapper.Plugin.Lifecycle
import NSPluginWrapper.Theorems.Info
import NSPluginWrapper.Theorems.Wrapper

/-! The states a wrapper is in between the browser's calls. As long as none of them probes a plugin whose
    strings are cached, what each returns does not change. -/

namespace NSPluginWrapper
open Lib

variable {setup : PluginSetup}

/-! ### Starting a viewer -/

namespace Wrapper
variable {w : Wrapper}

theorem gSourceDestroy_informed {i : Nat} : (w.gSourceDestroy i).informed = w.informed := by
  rw [gSourceDestroy_eq]

theorem listen_informed (c : Nat) (listener : Listener) : (w.listen c listener).informed = w.informed := by
  cases listener <;> rfl

/-- A listener that is there is known to plugin_init(). -/
theorem listen_source (c : Nat) {listener : Listener} (h : listener ≠ .missing) :
    ¬((w.listen c listener).rpcSource = none ∧ (w.listen c listener).xtSources = false) := by
  cases listener with
  | glib => exact fun hnone => nomatch hnone.1
  | xt => exact fun hnone => nomatch hnone.2
  | missing => exact absurd rfl h

/-- A connection that can be invoked on. -/
def Open (w : Wrapper) (c : Nat) : Prop := ∃ conn, w.connections[c]? = some conn ∧ conn.rpcMethodInvokePossible = true

theorem Open.onConnection {c : Nat} (h : w.Open c) (d : Nat) {f : Connection → Connection}
    (hf : ∀ conn, (f conn).rpcMethodInvokePossible = conn.rpcMethodInvokePossible) : (w.onConnection d f).Open c := by
  obtain ⟨conn, hconn, hpossible⟩ := h
  by_cases hcd : d = c
  · subst hcd
    refine ⟨f conn, ?_, (hf conn).trans hpossible⟩
    rw [Wrapper.onConnection, List.getElem?_modify_eq, hconn]
    rfl
  · refine ⟨conn, ?_, hpossible⟩
    exact (List.getElem?_modify_ne f _ hcd).trans hconn

theorem Open.listen {c : Nat} (h : w.Open c) (listener : Listener) : (w.listen c listener).Open c := by
  cases listener with
  | glib =>
    have hfirst := h.onConnection c (f := .ref) fun _ => rfl
    exact Open.onConnection (w := { w.onConnection c .ref with sources := _, rpcSource := _ }) hfirst c fun _ => rfl
  | xt => exact h
  | missing => exact h

/-- A viewer that comes up leaves the wrapper initialized, with a connection that can be invoked on. -/
theorem startViewer_connected {listener : Listener} (h : listener ≠ .missing) :
    (w.startViewer (.connected true listener)).initialized = 2 ∧
    (w.startViewer (.connected true listener)).informed = w.informed ∧
    ∃ c, (w.startViewer (.connected true listener)).rpcConnection = some c ∧
      (w.startViewer (.connected true listener)).Open c := by
  have hnew : Wrapper.Open { w with
      viewerPid := some w.viewers, viewers := w.viewers + 1, rpcConnection := some w.connections.length
      connections := w.connections ++ [.rpcInit .client] } w.connections.length :=
    ⟨.rpcInit .client, List.getElem?_concat_length, rfl⟩
  have hopen := (hnew.listen listener).onConnection w.connections.length (f := (·.setErrorCallback .killPlugin)) fun conn => by
    unfold Connection.setErrorCallback
    split <;> rfl
  unfold startViewer
  simp only [Bool.not_true, Bool.false_eq_true, if_false, if_neg (listen_source _ h)]
  exact ⟨trivial, listen_informed _ _, _, listen_rpcConnection _, hopen⟩

/-- The two ways through plugin_init() where the viewer answers and comes up. -/
theorem pluginInit_connected {listener : Listener} (h : listener ≠ .missing) (hinit : 0 ≤ w.initialized) (told : Bool) :
    (w.pluginInit false ⟨some told, .connected true listener⟩).informed = (w.informed || told) ∧
    (w.informed = false → (w.pluginInit false ⟨some told, .connected true listener⟩).initialized = 1) ∧
    (w.pluginInit true ⟨some told, .connected true listener⟩).informed = (w.informed || told) ∧
    (w.pluginInit true ⟨some told, .connected true listener⟩).initialized = 2 ∧
    ∃ c, (w.pluginInit true ⟨some told, .connected true listener⟩).rpcConnection = some c ∧
      (w.pluginInit true ⟨some told, .connected true listener⟩).Open c := by
  cases hinformed : w.informed with
  | true =>
    have hfalse : w.pluginInit false ⟨some told, .connected true listener⟩ = { w with initialized := -1 } := by
      simp [pluginInit, cacheInfo, hinformed, not_lt.mpr hinit]
    have htrue : w.pluginInit true ⟨some told, .connected true listener⟩ =
        Wrapper.startViewer { w with initialized := -1 } (.connected true listener) := by
      simp [pluginInit, cacheInfo, hinformed, not_lt.mpr hinit]
    obtain ⟨h₁, h₂, hopen⟩ := startViewer_connected (w := { w with initialized := -1 }) h
    rw [hfalse, htrue]
    exact ⟨hinformed, fun hno => (nomatch hno), h₂.trans hinformed, h₁, hopen⟩
  | false =>
    have hfalse : w.pluginInit false ⟨some told, .connected true listener⟩ =
        { w with initialized := 1, informed := told } := by
      simp [pluginInit, cacheInfo, hinformed, not_lt.mpr hinit]
    have htrue : w.pluginInit true ⟨some told, .connected true listener⟩ =
        Wrapper.startViewer { w with initialized := 1, informed := told } (.connected true listener) := by
      simp [pluginInit, cacheInfo, hinformed, not_lt.mpr hinit]
    obtain ⟨h₁, h₂, hopen⟩ := startViewer_connected (w := { w with initialized := 1, informed := told }) h
    rw [hfalse, htrue]
    exact ⟨rfl, fun _ => rfl, h₂, h₁, hopen⟩

end Wrapper

/-! ### Settled states -/

/-- What the viewer tells of the plugin. -/
def PluginSetup.told (setup : PluginSetup) : PluginInfo := readInfo setup.viewerOutput .unset

/-- A plugin behind a viewer is known once it is initialized, and its viewer is up where it is started. -/
structure Lifecycle.Known (setup : PluginSetup) (s : Lifecycle) : Prop where
  informed : s.wrapper.informed = decide (s.info ≠ .unset)
  told : s.info = .unset ∨ s.info = setup.told
  known : 0 < s.initialized → s.info = setup.told
  possible : 1 < s.initialized → Lifecycle.invokePossible s.wrapper = true

structure Lifecycle.Settled (setup : PluginSetup) (s : Lifecycle) : Prop where
  initialized : 0 ≤ s.initialized
  viewer : setup.mode = .viewer → s.Known setup

/-- No string is cached of a plugin that has to be initialized. -/
def Lifecycle.Uncached (setup : PluginSetup) (s : Lifecycle) : Prop :=
  setup.mode = .viewer → s.initialized = 0 → s.info = .unset

namespace Lifecycle
variable {s : Lifecycle}

theorem invokePossible_of_open {w : Wrapper} {c : Nat} (hc : w.rpcConnection = some c) (h : w.Open c) :
    invokePossible w = true := by
  obtain ⟨conn, hconn, hpossible⟩ := h
  simp only [invokePossible, hc, hconn, hpossible]

/-- Without a viewer there is nothing to know. -/
theorem settled_of_mode (hmode : setup.mode ≠ .viewer) (h : 0 ≤ s.initialized) : s.Settled setup :=
  ⟨h, fun hviewer => absurd hviewer hmode⟩

theorem loaded_settled : Settled setup .loaded where
  initialized := le_refl _
  viewer _ := ⟨rfl, Or.inl rfl, fun h => absurd h (lt_irrefl 0), fun h => absurd h (by decide)⟩

/-- What plugin_init() caches of a plugin behind a viewer. -/
theorem pluginInit_info (h : s.Known setup) :
    (if s.info = .unset then readInfo setup.viewerOutput s.info else s.info) = setup.told := by
  split
  · rename_i hunset
    rw [hunset]
    rfl
  · rename_i hset
    exact h.told.resolve_left hset

theorem pluginInit_viewer (hmode : setup.mode = .viewer) (hinit : 0 ≤ s.initialized) (h : s.Known setup) (b : Bool) :
    s.pluginInit setup b =
      ⟨s.wrapper.pluginInit b ⟨some (setup.told ≠ .unset), .connected true setup.listener.val⟩, setup.told⟩ := by
  rw [pluginInit, if_neg (not_lt.mpr hinit), hmode]
  simp only [pluginInit_info h]

theorem pluginInit_direct {plugin : DirectPlugin} (hmode : setup.mode = .direct plugin) (hinit : 0 ≤ s.initialized)
    (b : Bool) : s.pluginInit setup b = s.setInitialized 1 := by
  rw [pluginInit, if_neg (not_lt.mpr hinit), hmode]

/-- The strings that are cached are those that are told, whether they were cached before or are now. -/
theorem informed_told (h : s.Known setup) :
    (s.wrapper.informed || decide (setup.told ≠ .unset)) = decide (setup.told ≠ .unset) := by
  rw [h.informed]
  rcases h.told with hunset | htold
  · simp [hunset]
  · simp [htold]

theorem pluginInit_false_settled (h : s.Settled setup) (hu : setup.mode = .viewer → s.info = .unset) :
    (s.pluginInit setup false).Settled setup ∧ 0 < (s.pluginInit setup false).initialized := by
  cases hmode : setup.mode with
  | wrapper =>
    have heq : s.pluginInit setup false = s.setInitialized 1 := by
      simp [pluginInit, not_lt.mpr h.initialized, hmode]
    rw [heq]
    exact ⟨settled_of_mode (by simp [hmode]) one_pos.le, one_pos⟩
  | direct plugin =>
    rw [pluginInit_direct hmode h.initialized]
    exact ⟨settled_of_mode (by simp [hmode]) one_pos.le, one_pos⟩
  | viewer =>
    have hknown := h.viewer hmode
    obtain ⟨hinformed, hone, -⟩ := Wrapper.pluginInit_connected setup.listener.property h.initialized
      (decide (setup.told ≠ .unset))
    have hnot : s.wrapper.informed = false := by simp [hknown.informed, hu hmode]
    have hinit : (s.pluginInit setup false).initialized = 1 := by
      rw [pluginInit_viewer hmode h.initialized hknown]
      exact hone hnot
    refine ⟨⟨by rw [hinit]; decide, fun _ => ?_⟩, by rw [hinit]; decide⟩
    refine ⟨?_, Or.inr ?_, fun _ => ?_, fun hlt => ?_⟩
    · rw [pluginInit_viewer hmode h.initialized hknown]
      exact hinformed.trans (informed_told hknown)
    · rw [pluginInit_viewer hmode h.initialized hknown]
    · rw [pluginInit_viewer hmode h.initialized hknown]
    · rw [hinit] at hlt
      exact absurd hlt (lt_irrefl 1)

theorem pluginInit_true_settled (h : s.Settled setup) (hmode : setup.mode = .viewer) :
    (s.pluginInit setup true).Settled setup ∧ 1 < (s.pluginInit setup true).initialized := by
  have hknown := h.viewer hmode
  obtain ⟨-, -, hinformed, htwo, c, hc, hopen⟩ := Wrapper.pluginInit_connected setup.listener.property h.initialized
    (decide (setup.told ≠ .unset))
  have hinit : (s.pluginInit setup true).initialized = 2 := by
    rw [pluginInit_viewer hmode h.initialized hknown]
    exact htwo
  refine ⟨⟨by rw [hinit]; decide, fun _ => ?_⟩, by rw [hinit]; decide⟩
  refine ⟨?_, Or.inr ?_, fun _ => ?_, fun _ => ?_⟩
  · rw [pluginInit_viewer hmode h.initialized hknown]
    exact hinformed.trans (informed_told hknown)
  · rw [pluginInit_viewer hmode h.initialized hknown]
  · rw [pluginInit_viewer hmode h.initialized hknown]
  · rw [pluginInit_viewer hmode h.initialized hknown]
    exact invokePossible_of_open hc hopen

theorem probe_settled (h : s.Settled setup) (hu : s.Uncached setup) :
    (s.probe setup).Settled setup ∧ 0 < (s.probe setup).initialized := by
  unfold probe
  split
  · rename_i hzero
    exact pluginInit_false_settled h fun hmode => hu hmode hzero
  · rename_i hne
    exact ⟨h, lt_of_le_of_ne h.initialized (Ne.symm hne)⟩

/-! ### What the calls return -/

theorem formatsOf_known (h : s.Settled setup) (hpos : 0 < s.initialized) :
    s.formatsOf setup = formatsOf setup ⟨.loaded, setup.told⟩ := by
  unfold formatsOf
  cases hmode : setup.mode with
  | viewer => simp only [(h.viewer hmode).known hpos]
  | wrapper => rfl
  | direct plugin => rfl

theorem valueOf_known (h : s.Settled setup) (hpos : 0 < s.initialized) (npVariable : Option NPPVariable) :
    s.valueOf setup npVariable = valueOf setup npVariable ⟨.loaded, setup.told⟩ := by
  unfold valueOf
  cases hmode : setup.mode with
  | viewer => simp only [(h.viewer hmode).known hpos]
  | wrapper => rcases npVariable with _ | _ | _ <;> rfl
  | direct plugin => rfl

theorem npGetMIMEDescription_uncached (h : s.Settled setup) (hu : s.Uncached setup) :
    (s.npGetMIMEDescription setup).1 = formatsOf setup ⟨.loaded, setup.told⟩ := by
  obtain ⟨hsettled, hpos⟩ := probe_settled h hu
  simp only [npGetMIMEDescription, if_neg (not_le.mpr hpos)]
  exact formatsOf_known hsettled hpos

theorem npGetValue_uncached (h : s.Settled setup) (hu : s.Uncached setup) (npVariable : Option NPPVariable) :
    (s.npGetValue setup npVariable).1 = valueOf setup npVariable ⟨.loaded, setup.told⟩ := by
  obtain ⟨hsettled, hpos⟩ := probe_settled h hu
  simp only [npGetValue, if_neg (not_le.mpr hpos)]
  exact valueOf_known hsettled hpos npVariable

/-- NP_Initialize of a plugin behind a viewer starts the viewer unless it is up. -/
theorem checkedInitialize_viewer (hmode : setup.mode = .viewer) (h : s.Settled setup) (hu : s.Uncached setup) :
    (s.checkedInitialize setup).1 = NPError.noError ∧ (s.checkedInitialize setup).2.Settled setup := by
  obtain ⟨hsettled, hpos⟩ := probe_settled h hu
  have hup : ∃ t : Lifecycle, t.Settled setup ∧ 1 < t.initialized ∧
      (if (s.probe setup).initialized = 0 ∨ (s.probe setup).initialized = 1 then
        (s.probe setup).pluginInit setup true else s.probe setup) = t := by
    refine ⟨_, ?_, ?_, rfl⟩
    · split
      · exact (pluginInit_true_settled hsettled hmode).1
      · exact hsettled
    · split
      · exact (pluginInit_true_settled hsettled hmode).2
      · omega
  obtain ⟨t, htsettled, hlt, ht⟩ := hup
  have hpossible := (htsettled.viewer hmode).possible hlt
  simp only [checkedInitialize, if_neg (not_le.mpr hpos), hmode, ht, if_neg (show ¬t.initialized ≤ 0 by omega),
    gNPInitialize, hpossible, if_true]
  exact ⟨trivial, htsettled⟩

theorem checkedInitialize_settled (h : s.Settled setup) (hu : s.Uncached setup) :
    (s.checkedInitialize setup).1 = NPError.noError ∧ (s.checkedInitialize setup).2.Settled setup := by
  obtain ⟨hsettled, hpos⟩ := probe_settled h hu
  cases hmode : setup.mode with
  | viewer => exact checkedInitialize_viewer hmode h hu
  | wrapper =>
    simp only [checkedInitialize, if_neg (not_le.mpr hpos), hmode]
    exact ⟨trivial, hsettled⟩
  | direct plugin =>
    have hinit : 0 < (if (s.probe setup).initialized = 0 ∨ (s.probe setup).initialized = 1 then
        (s.probe setup).pluginInit setup true else s.probe setup).initialized := by
      split
      · rw [pluginInit_direct hmode hsettled.initialized]
        exact one_pos
      · exact hpos
    simp only [checkedInitialize, if_neg (not_le.mpr hpos), hmode, if_neg (not_le.mpr hinit), gNPInitialize]
    exact ⟨trivial, settled_of_mode (by simp [hmode]) hinit.le⟩

theorem pluginExit_informed (w : Wrapper) : w.pluginExit.informed = w.informed := by
  have hsource (w : Wrapper) : w.destroyRpcSource.informed = w.informed := by
    unfold Wrapper.destroyRpcSource
    cases w.rpcSource with
    | none => rfl
    | some i => exact Wrapper.gSourceDestroy_informed
  have hsync (w : Wrapper) : w.destroyRpcSyncSource.informed = w.informed := by
    unfold Wrapper.destroyRpcSyncSource
    cases w.rpcSyncSource with
    | none => rfl
    | some i => exact Wrapper.gSourceDestroy_informed
  have hdrop (w : Wrapper) : w.dropConnection.informed = w.informed := by
    unfold Wrapper.dropConnection
    cases w.rpcConnection <;> rfl
  exact (hdrop _).trans ((hsync _).trans (hsource _))

theorem npShutdown_settled (h : s.Settled setup) : (s.npShutdown setup).Settled setup := by
  unfold npShutdown
  cases hmode : setup.mode with
  | wrapper => exact h
  | direct plugin => exact settled_of_mode (by simp [hmode]) (le_refl _)
  | viewer =>
    have hknown := h.viewer hmode
    refine ⟨le_refl _, fun _ => ⟨?_, hknown.told, fun hpos => ?_, fun hlt => ?_⟩⟩
    · exact (pluginExit_informed _).trans hknown.informed
    · exact absurd hpos (lt_irrefl 0)
    · exact absurd hlt (by simp [initialized, Wrapper.pluginExit])

/-- A plugin with cached strings that has been shut down is not initialized by probing it. -/
theorem probe_cached (hmode : setup.mode = .viewer) (h : s.Known setup) (hzero : s.initialized = 0)
    (hcached : s.info ≠ .unset) : (s.probe setup).initialized = -1 := by
  have hinformed : s.wrapper.informed = true := by simp [h.informed, hcached]
  rw [probe, if_pos hzero, pluginInit_viewer hmode hzero.ge h]
  have hinit : ¬s.wrapper.initialized < 0 := not_lt.mpr hzero.ge
  simp [initialized, Wrapper.pluginInit, Wrapper.cacheInfo, hinit, hinformed]

theorem checkedInitialize_cached (hmode : setup.mode = .viewer) (h : s.Known setup) (hzero : s.initialized = 0)
    (hcached : s.info ≠ .unset) : (s.checkedInitialize setup).1 = NPError.genericError := by
  have hprobe := probe_cached hmode h hzero hcached
  have hle : (s.probe setup).initialized ≤ 0 := by rw [hprobe]; decide
  simp only [checkedInitialize, if_pos hle]

theorem npGetMIMEDescription_cached (hmode : setup.mode = .viewer) (h : s.Known setup) (hzero : s.initialized = 0)
    (hcached : s.info ≠ .unset) : (s.npGetMIMEDescription setup).1 = none := by
  have hprobe := probe_cached hmode h hzero hcached
  have hle : (s.probe setup).initialized ≤ 0 := by rw [hprobe]; decide
  simp only [npGetMIMEDescription, if_pos hle]

end Lifecycle

/-! ### Every run -/

/-- The table of a browser that NP_Initialize accepts. -/
def NPNetscapeFuncs.Valid (setup : PluginSetup) (mozFuncs : NPNetscapeFuncs) : Prop :=
  mozFuncs.version >>> 8 = 0 ∧ setup.funcsSize ≤ mozFuncs.size.toNat

/-- A call that initializes a plugin which is not yet, where NP_Initialize is not given up before. -/
def BrowserCall.Probes (setup : PluginSetup) : BrowserCall → Prop
  | .npInitialize mozFuncs pluginFuncs => pluginFuncs = true ∧ ∃ funcs ∈ mozFuncs, funcs.Valid setup
  | .npShutdown => False
  | _ => True

/-- A plugin with cached strings is not probed when it has been shut down. -/
def Lifecycle.Permits (setup : PluginSetup) (s : Lifecycle) (call : BrowserCall) : Prop :=
  call.Probes setup → s.Uncached setup

namespace Lifecycle
variable {s : Lifecycle}

theorem npInitialize_valid {funcs : NPNetscapeFuncs} (hvalid : funcs.Valid setup) :
    s.npInitialize setup (some funcs) true = s.checkedInitialize setup := by
  simp [npInitialize, hvalid.1, not_lt.mpr hvalid.2]

theorem npInitialize_invalid {mozFuncs : Option NPNetscapeFuncs} {pluginFuncs : Bool}
    (h : ¬(BrowserCall.npInitialize mozFuncs pluginFuncs).Probes setup) :
    (s.npInitialize setup mozFuncs pluginFuncs).2 = s := by
  unfold npInitialize
  cases mozFuncs with
  | none => rfl
  | some funcs =>
    simp only
    split
    · rfl
    · rename_i hfuncs
      split
      · rfl
      · rename_i hversion
        split
        · rfl
        · rename_i hsize
          exact absurd ⟨by simpa using hfuncs, funcs, rfl, not_not.mp hversion, not_lt.mp hsize⟩ h

theorem exec_settled (h : s.Settled setup) {call : BrowserCall} (hpermits : s.Permits setup call) :
    (s.exec setup call).Settled setup := by
  cases call with
  | npGetMIMEDescription => exact (probe_settled h (hpermits trivial)).1
  | npGetValue npVariable => exact (probe_settled h (hpermits trivial)).1
  | npShutdown => exact npShutdown_settled h
  | npInitialize mozFuncs pluginFuncs =>
    by_cases hprobes : (BrowserCall.npInitialize mozFuncs pluginFuncs).Probes setup
    · obtain ⟨rfl, funcs, hfuncs, hvalid⟩ := id hprobes
      obtain rfl : mozFuncs = some funcs := hfuncs
      show (s.npInitialize setup (some funcs) true).2.Settled setup
      rw [npInitialize_valid hvalid]
      exact (checkedInitialize_settled h (hpermits hprobes)).2
    · show (s.npInitialize setup mozFuncs pluginFuncs).2.Settled setup
      rw [npInitialize_invalid hprobes]
      exact h

theorem reachable_settled (h : ((lifecycle setup).restrict (Permits setup)).Reachable s) : s.Settled setup := by
  refine h.invariant (Settled setup) ?_ ?_
  · rintro s rfl
    exact loaded_settled
  · rintro s call t - hsettled ⟨hpermits, rfl⟩
    exact exec_settled hsettled hpermits

end Lifecycle

/-- In every run that never probes a plugin with cached strings after a shutdown, NP_Initialize succeeds, and
    the others answer what they answer first. -/
theorem lifecycle_steady (setup : PluginSetup) (s : Lifecycle)
    (h : ((lifecycle setup).restrict (Lifecycle.Permits setup)).Reachable s) (hu : s.Uncached setup) :
    (∀ funcs : NPNetscapeFuncs, funcs.Valid setup → (s.npInitialize setup (some funcs) true).1 = NPError.noError) ∧
    (s.npGetMIMEDescription setup).1 = (Lifecycle.loaded.npGetMIMEDescription setup).1 ∧
    ∀ npVariable, (s.npGetValue setup npVariable).1 = (Lifecycle.loaded.npGetValue setup npVariable).1 := by
  have hsettled := Lifecycle.reachable_settled h
  have hfirst : Lifecycle.loaded.Uncached setup := fun _ _ => rfl
  refine ⟨fun funcs hvalid => ?_, ?_, fun npVariable => ?_⟩
  · rw [Lifecycle.npInitialize_valid hvalid]
    exact (Lifecycle.checkedInitialize_settled hsettled hu).1
  · rw [Lifecycle.npGetMIMEDescription_uncached hsettled hu,
      Lifecycle.npGetMIMEDescription_uncached Lifecycle.loaded_settled hfirst]
  · rw [Lifecycle.npGetValue_uncached hsettled hu, Lifecycle.npGetValue_uncached Lifecycle.loaded_settled hfirst]

/-! ### A plugin that tells its MIME types -/

def PluginSetup.flash : PluginSetup where
  mode := .viewer
  viewerOutput := PluginLibrary.printInfo "PLUGIN_MIME" (some (.ofBytes (ascii "a:b:c")))
  listener := ⟨.glib, by decide⟩
  funcsSize := 176
  npwVersion := ascii "1.4.4"

theorem PluginSetup.flash_told : PluginSetup.flash.told = ⟨none, none, some (.ofBytes (ascii "a:b:c"))⟩ := by
  have hread : CString.Readable (.ofBytes (ascii "a:b:c")) := ⟨by decide, by decide⟩
  have h : readInfo (PluginLibrary.printInfo "PLUGIN_MIME" (some (.ofBytes (ascii "a:b:c"))) ++ []) .unset = _ :=
    readInfo_printInfo isTag_mime hread []
  rw [List.append_nil, readInfo_nil] at h
  exact h

namespace Lifecycle

/-- It was asked for its MIME types once. -/
def asked : Lifecycle := loaded.exec .flash .npGetMIMEDescription

theorem asked_settled : asked.Settled .flash ∧ 0 < asked.initialized := probe_settled loaded_settled fun _ _ => rfl

theorem asked_reachable : ((lifecycle .flash).restrict (Permits .flash)).Reachable asked :=
  (Machine.Reachable.init rfl).next .npGetMIMEDescription ⟨fun _ _ _ => rfl, rfl⟩

theorem asked_uncached : asked.Uncached .flash := fun _ hzero => absurd hzero (ne_of_gt asked_settled.2)

theorem lifecycle_steady_asked : (asked.npGetMIMEDescription .flash).1 = (loaded.npGetMIMEDescription .flash).1 :=
  (lifecycle_steady .flash asked asked_reachable asked_uncached).2.1

/-- Then shut down, it has nothing to tell, and cannot be initialized. -/
theorem lifecycle_fails : ∃ s, (lifecycle .flash).Reachable s ∧
    (s.npInitialize .flash (some ⟨0, 176⟩) true).1 = NPError.genericError ∧
    (s.npGetMIMEDescription .flash).1 = none ∧
    (loaded.npGetMIMEDescription .flash).1 = some (.ofBytes (ascii "a:b:c")) := by
  have hknown := asked_settled.1.viewer rfl
  have hshut : (asked.exec .flash .npShutdown).Known .flash := (npShutdown_settled asked_settled.1).viewer rfl
  have hinfo : (asked.exec .flash .npShutdown).info = PluginSetup.flash.told := hknown.known asked_settled.2
  have hcached : (asked.exec .flash .npShutdown).info ≠ .unset := by
    rw [hinfo, PluginSetup.flash_told]
    exact fun h => nomatch h
  refine ⟨asked.exec .flash .npShutdown, asked_reachable.of_restrict.next .npShutdown rfl, ?_, ?_, ?_⟩
  · rw [npInitialize_valid ⟨by decide, by decide⟩]
    exact checkedInitialize_cached rfl hshut rfl hcached
  · exact npGetMIMEDescription_cached rfl hshut rfl hcached
  · rw [npGetMIMEDescription_uncached loaded_settled fun _ _ => rfl, PluginSetup.flash_told]
    rfl

end Lifecycle

end NSPluginWrapper
