import NSPluginWrapper.Theorems.Wrapper

/-! Late errors: what the error callback of a connection does once the wrapper has another viewer. -/

namespace NSPluginWrapper
open Lib

namespace Wrapper
variable {w w' : Wrapper} {c : Nat} {error : Int}

/-- Nothing the wrapper knows of the viewer there is has changed. -/
def SameViewer (w w' : Wrapper) : Prop :=
  w' = { w with connections := w'.connections } ∧
  ∀ c, w.rpcConnection = some c → w'.connections[c]? = w.connections[c]?

/-- An error whose callback is set comes from the connection in use, or there is no viewer and the callback
    never ran before. -/
def Timely (w : Wrapper) : WrapperEvent → Prop
  | .rpcError c _ => ∀ conn, w.connections[c]? = some conn → conn.errorCallback ≠ .unset →
    w.rpcConnection = some c ∨ w.viewerPid = none ∧ conn.callbacks = 0
  | _ => True

/-- The callback of the connection in use never ran, and no callback ran twice. -/
structure Once (w : Wrapper) : Prop where
  current : ∀ c, w.rpcConnection = some c → w.callbacks[c]? = some 0 ∧ w.viewerPid ≠ none
  most : ∀ n ∈ w.callbacks, n ≤ 1

/-! ### Steps that run no callback -/

/-- `g_rpc_connection` stays, is forgotten, or names a new connection. -/
def Turnover (w w' : Wrapper) : Prop :=
  w'.callbacks = w.callbacks ∧
    (w'.rpcConnection = none ∨ w'.rpcConnection = w.rpcConnection ∧ w'.viewerPid = w.viewerPid) ∨
  w'.callbacks = w.callbacks ++ [0] ∧ w'.rpcConnection = some w.callbacks.length ∧ w'.viewerPid ≠ none

theorem Turnover.of_eq (hc : w'.callbacks = w.callbacks) (hr : w'.rpcConnection = w.rpcConnection)
    (hv : w'.viewerPid = w.viewerPid) : w.Turnover w' := .inl ⟨hc, .inr ⟨hr, hv⟩⟩

theorem Once.turnover (h : w.Once) (ht : w.Turnover w') : w'.Once := by
  rcases ht with ⟨hc, hr⟩ | ⟨hc, hr, hv⟩
  · refine ⟨fun c hcur => ?_, hc ▸ h.most⟩
    rcases hr with hr | ⟨hr, hv⟩
    · rw [hr] at hcur
      cases hcur
    · rw [hc, hv]
      exact h.current c (hr ▸ hcur)
  · refine ⟨fun c hcur => ?_, fun n hn => ?_⟩
    · obtain rfl : w.callbacks.length = c := Option.some.inj (hr.symm.trans hcur)
      exact ⟨by simp [hc], hv⟩
    · rw [hc] at hn
      rcases List.mem_append.mp hn with hn | hn
      · exact h.most n hn
      · obtain rfl := List.mem_singleton.mp hn
        exact Nat.zero_le 1

theorem Once.startViewer (h : w.Once) (v : ViewerStart) : (w.startViewer v).Once := by
  rcases w.startViewer_cases v with ⟨hc, hr⟩ | ⟨hc, hr, hv⟩
  · exact h.turnover (.inl ⟨hc, .inl hr⟩)
  · exact h.turnover (.inr ⟨hc, hr, hv ▸ nofun⟩)

theorem Once.pluginInit (h : w.Once) (b : Bool) (o : Startup) : (w.pluginInit b o).Once :=
  pluginInit_rule (fun _ _ _ h => h.turnover (.of_eq rfl rfl rfl)) (fun _ v h => h.startViewer v) h b o

theorem Once.pluginKill (h : w.Once) : w.pluginKill.Once :=
  h.turnover (.inl ⟨pluginKill_callbacks, .inl pluginKill_rpcConnection⟩)

theorem Once.pluginStart (h : w.Once) (o : Startup) : (w.pluginStart o).Once :=
  pluginStart_rule (fun _ h => h.turnover (.of_eq rfl rfl rfl)) (fun _ b o h => h.pluginInit b o)
    (fun _ h => h.pluginKill) h o

theorem Once.npInitialize (h : w.Once) (o₀ o₁ : Startup) : (w.npInitialize o₀ o₁).Once :=
  npInitialize_rule (fun _ b o h => h.pluginInit b o) h o₀ o₁

theorem Once.nppNew (h : w.Once) (instanceId : Nat) : (w.nppNew instanceId).Once := by
  unfold Wrapper.nppNew
  dsimp only
  split
  · exact h.turnover (.of_eq rfl rfl rfl)
  · exact h.turnover (.of_eq (onConnection_callbacks fun _ => rfl) rfl rfl)

theorem Once.nppDestroy (h : w.Once) (plugin : PluginInstance) : (w.nppDestroy plugin).Once := by
  unfold Wrapper.nppDestroy
  cases plugin.connection with
  | none => exact h.turnover (.of_eq rfl rfl rfl)
  | some c => exact h.turnover (.of_eq (onConnection_callbacks fun _ => rfl) rfl rfl)

/-! ### Errors -/

theorem marked_callbacks : (w.onConnection c fun conn => conn.touch.setStatus error).callbacks = w.callbacks :=
  onConnection_callbacks fun _ => Connection.setStatus_callbacks _ _

theorem pluginKillCb_callbacks : (w.pluginKillCb c).callbacks = w.callbacks.modify c (· + 1) := by
  unfold pluginKillCb
  rw [pluginKill_callbacks]
  apply List.ext_getElem?
  intro j
  simp only [callbacks, onConnection, List.getElem?_map, List.getElem?_modify]
  split
  · cases w.connections[j]? <;> rfl
  · simp

theorem Once.rpcError (h : w.Once) (hc : c < w.connections.length) (herror : error < 0)
    (ht : w.Timely (.rpcError c error)) : (w.rpcError c error).Once := by
  have hconn := List.getElem?_eq_getElem hc
  rcases rpcError_cases herror hconn with ⟨-, heq⟩ | ⟨hset, heq⟩
  · rw [heq]
    exact h.turnover (.of_eq marked_callbacks rfl rfl)
  · have hnever : w.callbacks[c]? = some 0 := by
      rcases ht _ hconn hset with hcur | ⟨-, hnever⟩
      · exact (h.current c hcur).1
      · rw [callbacks, List.getElem?_map, hconn, Option.map_some, hnever]
    rw [heq]
    refine ⟨fun d hd => ?_, fun n hn => ?_⟩
    · rw [pluginKillCb, pluginKill_rpcConnection] at hd
      cases hd
    · rw [pluginKillCb_callbacks, marked_callbacks] at hn
      obtain ⟨j, hj⟩ := List.mem_iff_getElem?.mp hn
      by_cases hjc : c = j
      · subst hjc
        rw [List.getElem?_modify_eq, hnever] at hj
        obtain rfl := Option.some.inj hj
        exact Nat.le_refl 1
      · rw [List.getElem?_modify_ne _ _ hjc] at hj
        exact h.most n (List.mem_of_getElem? hj)

theorem once_step {e : WrapperEvent} (h : w.Once) (ht : w.Timely e) (hs : wrapper.step w e w') : w'.Once := by
  obtain ⟨he, rfl⟩ := hs
  cases e with
  | getInfo o => exact h.pluginInit false o
  | npInitialize o₀ o₁ => exact h.npInitialize o₀ o₁
  | npShutdown => exact h.turnover (.inl ⟨pluginExit_callbacks, .inl pluginExit_rpcConnection⟩)
  | pluginStart o => exact h.pluginStart o
  | nppNew instanceId => exact h.nppNew instanceId
  | nppDestroy plugin => exact h.nppDestroy plugin
  | sourceRemoved i =>
    exact h.turnover (.of_eq gSourceDestroy_callbacks gSourceDestroy_rpcConnection (by rw [exec, gSourceDestroy_eq]))
  | rpcError c error => exact h.rpcError he.1 he.2 ht

theorem once_of_reachable (h : (wrapper.restrict Timely).Reachable w) : w.Once := by
  refine h.invariant Once ?_ ?_
  · rintro _ rfl
    exact ⟨nofun, nofun⟩
  · intro w e w' _ h hs
    exact once_step h hs.1 hs.2

/-- An error on a connection other than the viewer's leaves the viewer alone exactly when it runs no callback. -/
theorem timely_iff (h : w.Once) (hs : wrapper.step w (.rpcError c error) w') :
    w.Timely (.rpcError c error) ↔ (∀ n ∈ w'.callbacks, n ≤ 1) ∧
      (w.rpcConnection ≠ some c → w.viewerPid ≠ none → w.SameViewer w') := by
  refine ⟨fun ht => ⟨(once_step h ht hs).most, fun hother hviewer => ?_⟩, fun ⟨hmost, hsame⟩ => ?_⟩
  · obtain ⟨⟨hc, herror⟩, rfl⟩ := hs
    have hconn := List.getElem?_eq_getElem hc
    rcases rpcError_cases herror hconn with ⟨-, heq⟩ | ⟨hset, -⟩
    · show w.SameViewer (w.rpcError c error)
      rw [heq]
      refine ⟨rfl, fun d hd => List.getElem?_modify_ne _ _ ?_⟩
      rintro rfl
      exact hother hd
    · rcases ht _ hconn hset with hcur | ⟨hnone, -⟩
      · exact absurd hcur hother
      · exact absurd hnone hviewer
  · intro conn hconn hset
    obtain ⟨⟨hc, herror⟩, rfl⟩ := hs
    rcases rpcError_cases herror hconn with ⟨hunset, -⟩ | ⟨-, heq⟩
    · exact absurd hunset hset
    · have hkilled : (w.rpcError c error).viewerPid = none := by rw [heq]; rfl
      by_cases hcur : w.rpcConnection = some c
      · exact .inl hcur
      · by_cases hviewer : w.viewerPid = none
        · refine .inr ⟨hviewer, ?_⟩
          have hrun : (w.rpcError c error).callbacks[c]? = some (conn.callbacks + 1) := by
            rw [heq, pluginKillCb_callbacks, marked_callbacks, List.getElem?_modify_eq, callbacks,
              List.getElem?_map, hconn]
            rfl
          have := hmost _ (List.mem_of_getElem? hrun)
          omega
        · have hsame := (hsame hcur hviewer).1
          have hkept : (w.exec (.rpcError c error)).viewerPid = w.viewerPid := by rw [hsame]
          exact absurd (hkept.symm.trans hkilled) hviewer

end Wrapper

/-- In every run whose errors are timely each callback runs at most once, and no error on another connection
    touches the viewer; the next error that is not timely breaks one of the two. For the setter disarms a
    callback only where there is none. -/
theorem late_errors {w : Wrapper} (h : (wrapper.restrict Wrapper.Timely).Reachable w) :
    (∀ n ∈ w.callbacks, n ≤ 1) ∧
    (∀ c error w', wrapper.step w (.rpcError c error) w' →
      (w.Timely (.rpcError c error) ↔ (∀ n ∈ w'.callbacks, n ≤ 1) ∧
        (w.rpcConnection ≠ some c → w.viewerPid ≠ none → w.SameViewer w'))) ∧
    ∀ conn : Connection, (conn.setErrorCallback .unset).errorCallback = .unset ↔ conn.errorCallback = .unset := by
  have honce := Wrapper.once_of_reachable h
  refine ⟨honce.most, fun c error w' hs => Wrapper.timely_iff honce hs, fun conn => ?_⟩
  unfold Connection.setErrorCallback
  cases hcallback : conn.errorCallback <;> simp [Connection.touch, hcallback]

/-- The viewer dies, the browser starts another, and an error of that one ends it too. -/
theorem timely_errors : ∃ w : Wrapper, w.viewers = 2 ∧ w.callbacks = [1, 1] ∧ ∀ n ∈ w.callbacks, n ≤ 1 := by
  let o : Startup := ⟨some true, .connected true .xt⟩
  have h₀ := Machine.Reachable.init (m := wrapper.restrict Wrapper.Timely) (s := .loaded) rfl
  have h₁ := h₀.next (.npInitialize o o) ⟨trivial, trivial, rfl⟩
  have h₂ := h₁.next (.nppNew 1) ⟨trivial, trivial, rfl⟩
  have h₃ := h₂.next (.rpcError 0 RpcError.connectionClosed) ⟨fun _ _ _ => .inl rfl, ⟨by decide, by decide⟩, rfl⟩
  have h₄ := h₃.next (.pluginStart o) ⟨trivial, rfl, rfl⟩
  have h₅ := h₄.next (.rpcError 1 RpcError.messageTruncated) ⟨fun _ _ _ => .inl rfl, ⟨by decide, by decide⟩, rfl⟩
  refine ⟨_, ?_, ?_, (late_errors h₅).1⟩
  · decide
  · decide

/-- A viewer dies in a call that an instance made inside another: the browser starts a new viewer before the
    outer call gets to the error. -/
theorem late_error_kills : ∃ w w', wrapper.Reachable w ∧ w.rpcConnection = some 1 ∧ w.viewerPid = some 1 ∧
    wrapper.step w (.rpcError 0 RpcError.connectionClosed) w' ∧ w'.viewerPid = none ∧
    w'.callbacks = [2, 0] := by
  let o : Startup := ⟨some true, .connected true .xt⟩
  have h₀ := Machine.Reachable.init (m := wrapper) (s := .loaded) rfl
  have h₁ := h₀.next (.npInitialize o o) ⟨trivial, rfl⟩
  have h₂ := h₁.next (.nppNew 1) ⟨trivial, rfl⟩
  have h₃ := h₂.next (.rpcError 0 RpcError.connectionClosed) ⟨⟨by decide, by decide⟩, rfl⟩
  have h₄ := h₃.next (.pluginStart o) ⟨rfl, rfl⟩
  refine ⟨_, _, h₄, ?_, ?_, ⟨⟨?_, ?_⟩, rfl⟩, ?_, ?_⟩
  · rfl
  · rfl
  · decide
  · decide
  · rfl
  · decide

end NSPluginWrapper
