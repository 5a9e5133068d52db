import NSPluginWrapper.Rpc.Timeout

/-! The accepted seconds are what is waited for as long as their number of microseconds is an `int`. A number of
    milliseconds that is not makes a connection without a socket that is connected. -/

namespace NSPluginWrapper
namespace Timeout
variable {op : PollOp} {timeout : Seconds} {connect : Nat → Connected} {wait : Wait}

/-! ### Messages -/

theorem moveBytes_waits (count : Int) (moved : List Moved) (h : wait ∈ (moveBytes op timeout count moved).2) :
    wait = rpcPoll op (timeout.toInt32 * 1000000) := by
  induction moved generalizing count with
  | nil => simp [moveBytes] at h
  | cons moved later ih =>
    cases moved with
    | bytes n =>
      rw [moveBytes] at h
      split at h
      · exact ih _ h
      · cases h
    | closed => cases h
    | again polled =>
      cases polled with
      | timedOut => exact List.mem_singleton.mp h
      | failed => exact List.mem_singleton.mp h
      | ready =>
        rw [moveBytes] at h
        dsimp only at h
        split at h
        · rcases List.mem_cons.mp h with heq | hlater
          · exact heq
          · exact ih _ hlater
        · exact List.mem_singleton.mp h
      | interrupted =>
        rw [moveBytes] at h
        dsimp only at h
        split at h
        · rcases List.mem_cons.mp h with heq | hlater
          · exact heq
          · exact ih _ hlater
        · exact List.mem_singleton.mp h
    | interrupted =>
      rw [moveBytes] at h
      split at h
      · exact ih _ h
      · cases h
    | failed => cases h

/-- The wait lasts the seconds if their microseconds are an `int`. -/
theorem rpcPoll_tv_iff : (rpcPoll op (timeout.toInt32 * 1000000)).tv = ⟨timeout.toInt32.toInt, 0⟩ ↔
    timeout.toInt32.toInt ≤ 2147 := by
  have hpos : 0 < timeout.toInt32.toInt := Int32.lt_iff_toInt_lt.mp timeout.positive
  have hsec : (timeout.toInt32 * 1000000 / 1000000).toInt = (timeout.toInt32 * 1000000).toInt.tdiv 1000000 :=
    Int32.toInt_div_of_ne_right _ _ (by decide)
  have husec : (timeout.toInt32 * 1000000 % 1000000).toInt = (timeout.toInt32 * 1000000).toInt.tmod 1000000 :=
    Int32.toInt_mod ..
  have hscaled : (timeout.toInt32 * 1000000).toInt = (timeout.toInt32.toInt * 1000000).bmod (2 ^ 32) :=
    Int32.toInt_mul ..
  simp only [rpcPoll, Timeval.mk.injEq, hsec, husec]
  constructor
  · rintro ⟨hdiv, hmod⟩
    have hsum := Int.mul_tdiv_add_tmod (timeout.toInt32 * 1000000).toInt 1000000
    rw [hdiv, hmod] at hsum
    have hlt := (timeout.toInt32 * 1000000).toInt_lt
    omega
  · intro hle
    rw [Int.bmod_eq_of_le (by omega) (by omega)] at hscaled
    rw [hscaled]
    exact ⟨Int.mul_tdiv_cancel _ (by decide), Int.mul_tmod_left ..⟩

/-! ### Connections -/

/-- The loop leaves a connection behind when one of its attempts was accepted. -/
theorem connectLoop_ok (i n : Nat) (h : (connectLoop connect i n).connection ≠ none) :
    .ok ∈ (connectLoop connect i n).attempts := by
  induction n generalizing i with
  | zero => exact absurd rfl h
  | succ n ih =>
    rw [connectLoop] at h ⊢
    split at h
    · exact List.mem_cons_self
    · dsimp only
      split at h
      · exact absurd rfl h
      · rename_i hzero
        rw [if_neg hzero]
        exact List.mem_cons_of_mem _ (ih _ h)
    · dsimp only
      exact List.mem_cons_of_mem _ (ih _ h)

theorem tdiv_cases (v : Int) : 0 ≤ v ∧ v.tdiv 10 = v / 10 ∨ v < 0 ∧ v.tdiv 10 = -(-v / 10) := by
  rcases Decidable.em (v < 0) with hneg | hnot
  · refine .inr ⟨hneg, ?_⟩
    rw [← Int.tdiv_eq_ediv_of_nonneg (by omega), Int.neg_tdiv, Int.neg_neg]
  · have hnonneg : 0 ≤ v := Int.not_lt.mp hnot
    exact .inl ⟨hnonneg, Int.tdiv_eq_ediv_of_nonneg hnonneg⟩

theorem nConnectAttempts_pos_iff :
    0 < nConnectAttempts timeout ↔ -10 < (timeout.toInt32.toInt * 1000).bmod (2 ^ 32) := by
  have hdiv : (timeout.toInt32 * 1000 / 10).toInt = (timeout.toInt32 * 1000).toInt.tdiv 10 :=
    Int32.toInt_div_of_ne_right _ _ (by decide)
  have hscaled : (timeout.toInt32 * 1000).toInt = (timeout.toInt32.toInt * 1000).bmod (2 ^ 32) := Int32.toInt_mul ..
  rw [hscaled] at hdiv
  have hcases := tdiv_cases ((timeout.toInt32.toInt * 1000).bmod (2 ^ 32))
  have hnone : (0 : Int32).toInt = 0 := rfl
  simp only [nConnectAttempts]
  split
  · rename_i hzero
    rw [hzero, hnone] at hdiv
    refine iff_of_true (by decide) ?_
    omega
  · rename_i hne
    have hne' : (timeout.toInt32 * 1000 / 10).toInt ≠ 0 := fun heq => hne (Int32.toInt_inj.mp heq)
    rw [Int32.lt_iff_toInt_lt, hnone]
    omega

/-- With these values in the environment a connection that is there is connected, and a message is waited for as long as
    was accepted. -/
structure Kept (initTimeout messageTimeout : Option CString) : Prop where
  connected : ∀ connect, (rpcInitClient (rpcInitTimeout initTimeout) connect).connection ≠ none →
    .ok ∈ (rpcInitClient (rpcInitTimeout initTimeout) connect).attempts
  send : ∀ count moved, ∀ wait ∈ (rpcMessageSendBytes (rpcMessageTimeout messageTimeout) count moved).2,
    wait = ⟨.write, (rpcMessageTimeout messageTimeout).toInt32.toInt, 0⟩
  recv : ∀ count moved, ∀ wait ∈ (rpcMessageRecvBytes (rpcMessageTimeout messageTimeout) count moved).2,
    wait = ⟨.read, (rpcMessageTimeout messageTimeout).toInt32.toInt, 0⟩

/-- 2147 seconds are the most that a message can be waited for, and the milliseconds of the connection must not wrap to a
    negative number of attempts. -/
theorem timeouts_kept_iff (initTimeout messageTimeout : Option CString) : Kept initTimeout messageTimeout ↔
    -10 < ((rpcInitTimeout initTimeout).toInt32.toInt * 1000).bmod (2 ^ 32) ∧
      (rpcMessageTimeout messageTimeout).toInt32.toInt ≤ 2147 := by
  rw [← nConnectAttempts_pos_iff]
  constructor
  · rintro ⟨hconnected, -, hrecv⟩
    refine ⟨?_, ?_⟩
    · by_contra hnot
      have hok := hconnected fun _ => .failed
      simp [rpcInitClient, hnot] at hok
    · have hwait := hrecv 1 [.again .timedOut] _ (List.mem_singleton.mpr rfl)
      exact rpcPoll_tv_iff.mp (congrArg Wait.tv hwait)
  · rintro ⟨hinit, hmessage⟩
    refine ⟨fun connect hsome => ?_, fun count moved wait hwait => ?_, fun count moved wait hwait => ?_⟩
    · simp only [rpcInitClient, hinit, if_true] at hsome ⊢
      exact connectLoop_ok _ _ hsome
    · rw [moveBytes_waits count moved hwait]
      exact Wait.ext rfl (rpcPoll_tv_iff.mpr hmessage)
    · rw [moveBytes_waits count moved hwait]
      exact Wait.ext rfl (rpcPoll_tv_iff.mpr hmessage)

/-- 3000 seconds. -/
def fiftyMinutes : CString := ⟨[51, 48, 48, 48], by simp⟩

/-- The microseconds of 3000 seconds wrap to a negative number. -/
theorem timeouts_wrapped : ¬ ∀ initTimeout messageTimeout, Kept initTimeout messageTimeout := by
  intro h
  have hwait := (h none (some fiftyMinutes)).recv 1 [.again .timedOut] _ (List.mem_singleton.mpr rfl)
  have htv := congrArg Wait.tv hwait
  revert htv
  decide

end Timeout
end NSPluginWrapper
