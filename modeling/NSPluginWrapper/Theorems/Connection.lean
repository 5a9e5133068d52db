import NSPluginWrapper.Rpc.Connection

/-! What the operations on a connection's fields leave alone, and what `rpc_error` makes of its status. -/

namespace NSPluginWrapper.Connection
variable (c : Connection) (error : Int) (isSync : Bool)

/-! ### Status -/

@[simp] theorem touch_status : c.touch.status = c.status := rfl
@[simp] theorem raiseInvoke_status : c.raiseInvoke.status = c.status := rfl
@[simp] theorem lowerInvoke_status : c.lowerInvoke.status = c.status := rfl
@[simp] theorem raiseHandle_status : c.raiseHandle.status = c.status := rfl
@[simp] theorem lowerHandle_status : c.lowerHandle.status = c.status := rfl
@[simp] theorem raiseDispatch_status : c.raiseDispatch.status = c.status := rfl
@[simp] theorem lowerDispatch_status : c.lowerDispatch.status = c.status := rfl
@[simp] theorem setSync_status : (c.setSync isSync).status = c.status := rfl
@[simp] theorem noteSync_status : c.noteSync.status = c.status := rfl
@[simp] theorem clearPendingSync_status : c.clearPendingSync.status = c.status := rfl
@[simp] theorem ref_status : c.ref.status = c.status := rfl
@[simp] theorem unref_status : c.unref.status = c.status := rfl

@[simp] theorem pluginExit_status : c.pluginExit.status = c.status := by
  unfold pluginExit
  split <;> rfl

@[simp] theorem invokeErrorCallback_status : c.invokeErrorCallback.status = c.status := by
  unfold invokeErrorCallback
  split
  · rfl
  · rfl
  · exact c.pluginExit_status

theorem setStatus_status {error : Int} (h : error ≠ 0) : (c.setStatus error).status ≠ .active := by
  unfold setStatus
  split
  · simp only [h, if_false]
    split <;> decide
  · assumption

theorem rpcError_eq {error : Int} (h : error ≠ 0) :
    c.rpcError error = (c.touch.setStatus error).invokeErrorCallback :=
  if_neg (c.touch.setStatus_status h)

/-- `rpc_error` leaves no connection active. -/
theorem rpcError_status {error : Int} (h : error ≠ 0) : (c.rpcError error).status ≠ .active := by
  rw [rpcError_eq c h, invokeErrorCallback_status]
  exact c.touch.setStatus_status h

/-- A status that is no longer active stays. -/
theorem rpcError_status_of_ne (h : c.status ≠ .active) : (c.rpcError error).status = c.status := by
  have hset : c.touch.setStatus error = c.touch := by
    unfold setStatus
    split
    · contradiction
    · rfl
  have hne : ¬c.touch.status = .active := h
  rw [rpcError, hset, if_neg hne, invokeErrorCallback_status, touch_status]

theorem setStatus_callbacks : (c.setStatus error).callbacks = c.callbacks := by
  unfold setStatus
  split <;> rfl

theorem setStatus_errorCallback : (c.setStatus error).errorCallback = c.errorCallback := by
  unfold setStatus
  split <;> rfl

theorem setStatus_type : (c.setStatus error).type = c.type := by
  unfold setStatus
  split <;> rfl

theorem invokeErrorCallback_callbacks (h : c.errorCallback ≠ .unset) :
    c.invokeErrorCallback.callbacks = c.callbacks + 1 := by
  unfold invokeErrorCallback
  split
  · contradiction
  · rfl
  · rfl

/-- The error callback has run when `rpc_error` returns. -/
theorem rpcError_callbacks {error : Int} (h : error ≠ 0) (hcallback : c.errorCallback ≠ .unset) :
    (c.rpcError error).callbacks = c.callbacks + 1 := by
  have hset : (c.touch.setStatus error).errorCallback ≠ .unset := by
    rw [setStatus_errorCallback]
    exact hcallback
  rw [rpcError_eq c h, invokeErrorCallback_callbacks _ hset, setStatus_callbacks]
  rfl

/-! ### What only moves one way -/

/-- The type and the callback stay, its runs are only added to, and a status that is not active stays. -/
structure Later (c d : Connection) : Prop where
  type : d.type = c.type
  errorCallback : d.errorCallback = c.errorCallback
  callbacks : c.callbacks ≤ d.callbacks
  inactive : c.status ≠ .active → d.status = c.status

theorem Later.refl : c.Later c := ⟨rfl, rfl, Nat.le_refl _, fun _ => rfl⟩

theorem Later.trans {c d e : Connection} (h : c.Later d) (h' : d.Later e) : c.Later e where
  type := h'.type.trans h.type
  errorCallback := h'.errorCallback.trans h.errorCallback
  callbacks := Nat.le_trans h.callbacks h'.callbacks
  inactive hne := by
    have hd := h.inactive hne
    rw [h'.inactive (hd ▸ hne), hd]

/-- A change of other fields. -/
theorem Later.of_eq {c d : Connection} (ht : d.type = c.type) (hc : d.errorCallback = c.errorCallback)
    (hn : d.callbacks = c.callbacks) (hs : d.status = c.status) : c.Later d :=
  ⟨ht, hc, hn ▸ Nat.le_refl _, fun _ => hs⟩

theorem invokeErrorCallback_errorCallback : c.invokeErrorCallback.errorCallback = c.errorCallback := by
  unfold invokeErrorCallback
  split
  · rfl
  · rfl
  · unfold pluginExit
    split <;> rfl

theorem invokeErrorCallback_type : c.invokeErrorCallback.type = c.type := by
  unfold invokeErrorCallback
  split
  · rfl
  · rfl
  · unfold pluginExit
    split <;> rfl

theorem invokeErrorCallback_callbacks_le : c.callbacks ≤ c.invokeErrorCallback.callbacks := by
  unfold invokeErrorCallback
  split
  · exact Nat.le_refl _
  · exact Nat.le_succ _
  · exact Nat.le_succ _

theorem rpcError_later : c.Later (c.rpcError error) := by
  refine ⟨?_, ?_, ?_, rpcError_status_of_ne c error⟩
  · unfold rpcError
    split
    · rw [setStatus_type]
      rfl
    · rw [invokeErrorCallback_type, setStatus_type]
      rfl
  · unfold rpcError
    split
    · rw [setStatus_errorCallback]
      rfl
    · rw [invokeErrorCallback_errorCallback, setStatus_errorCallback]
      rfl
  · have hset : (c.touch.setStatus error).callbacks = c.callbacks := setStatus_callbacks _ _
    unfold rpcError
    split
    · exact Nat.le_of_eq hset.symm
    · rw [← hset]
      exact invokeErrorCallback_callbacks_le _

/-! ### The pending SYNC -/

@[simp] theorem rpcError_pendingSyncDepth : (c.rpcError error).pendingSyncDepth = c.pendingSyncDepth := by
  have hset : (c.touch.setStatus error).pendingSyncDepth = c.pendingSyncDepth := by
    unfold setStatus
    split <;> rfl
  unfold rpcError
  split
  · exact hset
  · rw [← hset]
    unfold invokeErrorCallback
    split
    · rfl
    · rfl
    · unfold pluginExit
      split <;> rfl

end NSPluginWrapper.Connection
