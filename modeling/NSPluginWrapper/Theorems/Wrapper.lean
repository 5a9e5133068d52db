import NSPluginWrapper.Lib.Cells
import NSPluginWrapper.Plugin.Wrapper
import NSPluginWrapper.Theorems.Connection

/-! What the functions of the wrapper do to its connections and to `g_rpc_connection`. -/

namespace NSPluginWrapper
open Lib

namespace Wrapper
variable {w : Wrapper} {c i : Nat} {f : Connection → Connection}

/-- How often the error callback of each connection ran. -/
def callbacks (w : Wrapper) : List Nat := w.connections.map (·.callbacks)

theorem onConnection_callbacks (h : ∀ conn, (f conn).callbacks = conn.callbacks) :
    (w.onConnection c f).callbacks = w.callbacks := map_modify_of_eq h

/-! ### Sources -/

@[simp] theorem gSourceNew_callbacks : (w.gSourceNew c).callbacks = w.callbacks :=
  onConnection_callbacks fun _ => rfl

@[simp] theorem gSourceDestroy_callbacks : (w.gSourceDestroy i).callbacks = w.callbacks := by
  unfold gSourceDestroy
  cases w.sources[i]? with
  | none => rfl
  | some s =>
    dsimp only
    split
    · rfl
    · split
      · exact onConnection_callbacks fun _ => rfl
      · rfl

/-- Giving a source back changes sources and connections only. -/
theorem gSourceDestroy_eq :
    w.gSourceDestroy i = { w with sources := (w.gSourceDestroy i).sources,
                                  connections := (w.gSourceDestroy i).connections } := by
  unfold gSourceDestroy onConnection
  cases w.sources[i]? with
  | none => rfl
  | some s =>
    dsimp only
    split
    · rfl
    · split <;> rfl

@[simp] theorem gSourceDestroy_rpcConnection : (w.gSourceDestroy i).rpcConnection = w.rpcConnection := by
  rw [gSourceDestroy_eq]

/-! ### The end of a viewer -/

@[simp] theorem destroyRpcSource_callbacks : w.destroyRpcSource.callbacks = w.callbacks := by
  unfold destroyRpcSource
  cases w.rpcSource with
  | none => rfl
  | some i => exact gSourceDestroy_callbacks

@[simp] theorem destroyRpcSyncSource_callbacks : w.destroyRpcSyncSource.callbacks = w.callbacks := by
  unfold destroyRpcSyncSource
  cases w.rpcSyncSource with
  | none => rfl
  | some i => exact gSourceDestroy_callbacks

@[simp] theorem dropConnection_callbacks : w.dropConnection.callbacks = w.callbacks := by
  unfold dropConnection
  cases w.rpcConnection with
  | none => rfl
  | some c =>
    refine onConnection_callbacks fun conn => ?_
    unfold Connection.pluginExit
    split <;> rfl

@[simp] theorem dropConnection_rpcConnection : w.dropConnection.rpcConnection = none := by
  unfold dropConnection
  cases h : w.rpcConnection with
  | none => exact h
  | some c => rfl

@[simp] theorem pluginExit_callbacks : w.pluginExit.callbacks = w.callbacks := by
  show (Wrapper.dropConnection _).callbacks = _
  rw [dropConnection_callbacks, destroyRpcSyncSource_callbacks, destroyRpcSource_callbacks]
  rfl

@[simp] theorem pluginExit_rpcConnection : w.pluginExit.rpcConnection = none := dropConnection_rpcConnection

@[simp] theorem pluginExit_viewerPid : w.pluginExit.viewerPid = none := rfl

@[simp] theorem pluginKill_callbacks : w.pluginKill.callbacks = w.callbacks := pluginExit_callbacks

@[simp] theorem pluginKill_rpcConnection : w.pluginKill.rpcConnection = none := pluginExit_rpcConnection

@[simp] theorem pluginKill_viewerPid : w.pluginKill.viewerPid = none := rfl

/-! ### The start of one -/

theorem listen_callbacks (listener : Listener) : (w.listen c listener).callbacks = w.callbacks := by
  cases listener with
  | glib =>
    show (Wrapper.gSourceNew _ c).callbacks = _
    rw [gSourceNew_callbacks]
    exact gSourceNew_callbacks
  | xt => rfl
  | missing => rfl

theorem listen_rpcConnection (listener : Listener) : (w.listen c listener).rpcConnection = w.rpcConnection := by
  cases listener <;> rfl

theorem listen_viewerPid (listener : Listener) : (w.listen c listener).viewerPid = w.viewerPid := by
  cases listener <;> rfl

/-- A new connection, whose callback never ran, or none; a viewer runs wherever there is a connection. -/
theorem startViewer_cases (v : ViewerStart) :
    ((w.startViewer v).callbacks = w.callbacks ∧ (w.startViewer v).rpcConnection = none) ∨
    ((w.startViewer v).callbacks = w.callbacks ++ [0] ∧
      (w.startViewer v).rpcConnection = some w.callbacks.length ∧
      (w.startViewer v).viewerPid = some w.viewers) := by
  cases v with
  | unforked => exact .inl ⟨rfl, rfl⟩
  | unreachable => exact .inl ⟨rfl, rfl⟩
  | connected registers listener =>
    refine .inr ?_
    have hnew : ∀ w' : Wrapper, w'.connections = w.connections ++ [.rpcInit .client] →
        w'.callbacks = w.callbacks ++ [0] := by
      intro w' h
      simp [callbacks, h, Connection.rpcInit]
    have hlength : w.connections.length = w.callbacks.length := by simp [callbacks]
    unfold startViewer
    dsimp only
    split
    · exact ⟨hnew _ rfl, by rw [hlength], rfl⟩
    · split
      · refine ⟨?_, ?_, ?_⟩
        · rw [listen_callbacks]
          exact hnew _ rfl
        · rw [listen_rpcConnection, hlength]
        · rw [listen_viewerPid]
      · refine ⟨?_, ?_, ?_⟩
        · show (Wrapper.onConnection _ _ _).callbacks = _
          rw [onConnection_callbacks, listen_callbacks]
          · exact hnew _ rfl
          · intro conn
            unfold Connection.setErrorCallback
            split <;> rfl
        · show (Wrapper.listen _ _ _).rpcConnection = _
          rw [listen_rpcConnection, hlength]
        · show (Wrapper.listen _ _ _).viewerPid = _
          rw [listen_viewerPid]

/-! ### Errors -/

/-- An error marks its connection, and then runs the callback where one is set. -/
theorem rpcError_cases {error : Int} (herror : error < 0) {conn : Connection} (hc : w.connections[c]? = some conn) :
    (conn.errorCallback = .unset ∧ w.rpcError c error = w.onConnection c fun conn => conn.touch.setStatus error) ∨
    (conn.errorCallback ≠ .unset ∧
      w.rpcError c error = (w.onConnection c fun conn => conn.touch.setStatus error).pluginKillCb c) := by
  have hmarked : (w.onConnection c fun conn => conn.touch.setStatus error).connections[c]? =
      some (conn.touch.setStatus error) := by
    show (w.connections.modify c _)[c]? = _
    rw [List.getElem?_modify_eq, hc]
    rfl
  have hstatus : (conn.touch.setStatus error).status ≠ .active := Connection.setStatus_status _ (by omega)
  have hcallback : (conn.touch.setStatus error).errorCallback = conn.errorCallback :=
    Connection.setStatus_errorCallback _ _
  unfold rpcError
  dsimp only
  rw [hmarked]
  dsimp only
  rw [hcallback]
  by_cases h : conn.errorCallback = .unset
  · exact .inl ⟨h, by rw [if_pos (.inr h)]⟩
  · exact .inr ⟨h, by rw [if_neg (not_or.mpr ⟨hstatus, h⟩)]⟩

/-! ### Rules for the functions that start and end viewers -/

/-- What the bookkeeping and the start of a viewer keep, plugin_init() keeps. -/
theorem pluginInit_rule {P : Wrapper → Prop} (hset : ∀ w n told, P w → P { w with initialized := n, informed := told })
    (hstart : ∀ w v, P w → P (w.startViewer v)) (h : P w) (b : Bool) (o : Startup) : P (w.pluginInit b o) := by
  unfold pluginInit cacheInfo
  split
  · exact h
  · dsimp only
    split
    · exact hset w (-1) w.informed h
    · rename_i w₁ hw₁
      have h₁ : P w₁ := by
        split at hw₁
        · obtain rfl := Option.some.inj hw₁
          exact hset w (-1) w.informed h
        · obtain ⟨told, -, rfl⟩ := Option.map_eq_some_iff.mp hw₁
          exact hset w 1 told h
      split
      · exact h₁
      · exact hstart w₁ o.viewer h₁

/-- What plugin_init() and plugin_kill() keep, plugin_start() keeps. -/
theorem pluginStart_rule {P : Wrapper → Prop} (hflag : ∀ w, P w → P { w with pluginKilled := false })
    (hinit : ∀ w b o, P w → P (w.pluginInit b o)) (hkill : ∀ w, P w → P w.pluginKill) (h : P w) (o : Startup) :
    P (w.pluginStart o) := by
  unfold pluginStart
  split
  · exact hinit _ _ _ (hflag w h)
  · exact hinit _ _ _ (hflag _ (hkill w h))

/-- What plugin_init() keeps, NP_Initialize() keeps. -/
theorem npInitialize_rule {P : Wrapper → Prop} (hinit : ∀ w b o, P w → P (w.pluginInit b o)) (h : P w)
    (o₀ o₁ : Startup) : P (w.npInitialize o₀ o₁) := by
  have hsecond : ∀ w : Wrapper, P w → P (if w.initialized ≤ 0 then w
      else if w.initialized = 0 ∨ w.initialized = 1 then w.pluginInit true o₁ else w) := by
    intro w h
    split
    · exact h
    · split
      · exact hinit w true o₁ h
      · exact h
  refine hsecond _ ?_
  split
  · exact hinit w false o₀ h
  · exact h

end Wrapper
end NSPluginWrapper
