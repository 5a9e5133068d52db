import NSPluginWrapper.Npapi.Transfer
import NSPluginWrapper.Theorems.Calls

/-! Buffers that are copied again. The password comes out right where the name has the same length, and no string of
    the sites has a terminator. -/

namespace NSPluginWrapper
open Lib

namespace Transfer
variable {l : Blocks} {held : List Nat} {bytes : List UInt8} {buffer : Option Buffer} {memory : Memory}
  {reply : Credentials}

/-! ### Buffers -/

def ids (buffer : Option Buffer) : List Nat := (buffer.map Buffer.block).toList

theorem free_balanced (h : l.Balanced (ids buffer ++ held)) : (free l buffer).Balanced held := by
  cases buffer with
  | none => exact h
  | some buffer => exact h.release

/-- A new block stands behind what is freed at the end. -/
theorem make_behind {first second : List Nat} (h : l.Balanced (first ++ (second ++ held))) :
    l.make.Balanced (first ++ (second ++ l.made :: held)) := by
  refine h.make.perm ?_
  rw [← List.append_assoc, ← List.append_assoc]
  exact List.perm_middle

/-- A buffer with these bytes; an empty one is NULL. -/
def Holds (out : Option Buffer) (bytes : List UInt8) : Prop :=
  out.map Buffer.bytes = if bytes = [] then none else some bytes

theorem holds_some (hne : bytes ≠ []) (b : Nat) : Holds (some ⟨b, bytes⟩) bytes := by
  simp [Holds, hne]

theorem toNat_length (h : bytes.length < 2 ^ 31) : (UInt32.ofNat bytes.length).toNat = bytes.length := by
  rw [UInt32.toNat_ofNat', Nat.mod_eq_of_lt (by omega)]

/-- What NPW_ReallocData() makes of a buffer with its own length: no memory, or a buffer like it. -/
theorem npwReallocData_cases {first second : List Nat} (alloc : Bool) (hholds : Holds buffer bytes)
    (hshort : bytes.length < 2 ^ 31) (h : l.Balanced (first ++ (second ++ held))) :
    (bytes ≠ [] ∧ alloc = false ∧ npwReallocData alloc (buffer.map Buffer.bytes) (.ofNat bytes.length) l =
        .ok (outOfMemoryError, none, l)) ∨
      (bytes = [] ∨ alloc = true) ∧ ∃ out l', npwReallocData alloc (buffer.map Buffer.bytes) (.ofNat bytes.length) l =
        .ok (NPError.noError, out, l') ∧ Holds out bytes ∧ l'.Balanced (first ++ (second ++ (ids out ++ held))) := by
  rw [hholds]
  by_cases hne : bytes = []
  · rw [if_pos hne]
    refine .inr ⟨.inl hne, none, l, rfl, ?_, h⟩
    rw [Holds, if_pos hne]
    rfl
  · rw [if_neg hne]
    cases alloc with
    | false => exact .inl ⟨hne, rfl, rfl⟩
    | true =>
      refine .inr ⟨.inr rfl, some ⟨l.made, bytes⟩, l.make, ?_, holds_some hne _, make_behind h⟩
      simp [npwReallocData, toNat_length hshort]

/-! ### Credentials -/

/-- Both buffers are the caller's, or nothing is left of an error. -/
def Carried (reply : Credentials) (r : Except Fault AuthenticationInfo) : Prop :=
  ∃ info, r = .ok info ∧
    (info.ret = NPError.noError ∧ Holds info.username reply.username ∧ info.ulen.toNat = reply.username.length ∧
        Holds info.password reply.password ∧ info.plen.toNat = reply.password.length ∧
        info.blocks.Balanced (ids info.username ++ ids info.password) ∨
      info.ret ≠ NPError.noError ∧ info.blocks.Balanced [])

/-- A password is copied by its own length if it is copied. -/
def Agrees (memory : Memory) (reply : Credentials) : Prop :=
  reply.password ≠ [] → reply.ret = NPError.noError → reply.username = [] ∨ memory.username = true →
    memory.password = true → reply.username.length = reply.password.length

/-- Where the name is received it is short enough, and for a password: there is memory for that too unless the name is
    empty, and if both are copied they have the same length. -/
def Fits (memory : Memory) (reply : Credentials) : Prop :=
  reply.username = [] ∨ memory.myUsername = true → reply.username.length < 2 ^ 31 ∧
    (reply.password ≠ [] → memory.myPassword = false → reply.username = []) ∧
    (reply.password = [] ∨ memory.myPassword = true → reply.password.length < 2 ^ 31 ∧ Agrees memory reply)

/-- What is behind the reply: the copies, and the end of what was received. -/
def settle (memory : Memory) (reply : Credentials) (myUsername myPassword : Option Buffer) (l : Blocks) :
    Except Fault AuthenticationInfo := do
  let info ← reallocCredentials memory reply.ret myUsername myPassword (.ofNat reply.username.length)
    (.ofNat reply.password.length) l
  .ok { info with blocks := free (free info.blocks myUsername) myPassword }

section
variable {myUsername myPassword : Option Buffer}

theorem settle_ok {info : AuthenticationInfo} (hcopy : reallocCredentials memory reply.ret myUsername myPassword
      (.ofNat reply.username.length) (.ofNat reply.password.length) l = .ok info)
    (hinfo : Carried reply (.ok { info with blocks := free (free info.blocks myUsername) myPassword })) :
    Carried reply (settle memory reply myUsername myPassword l) := by
  rw [settle, hcopy]
  exact hinfo

/-- An error before or behind the copies. -/
theorem carried_error {info : AuthenticationInfo} (hret : info.ret ≠ NPError.noError)
    (h : info.blocks.Balanced (ids myUsername ++ (ids myPassword ++ []))) :
    Carried reply (.ok { info with blocks := free (free info.blocks myUsername) myPassword }) :=
  ⟨_, rfl, .inr ⟨hret, free_balanced (free_balanced h)⟩⟩

theorem reallocCredentials_refused (hret : reply.ret ≠ NPError.noError) (ulen plen : UInt32) :
    reallocCredentials memory reply.ret myUsername myPassword ulen plen l = .ok ⟨reply.ret, none, ulen, none, plen, l⟩ :=
  if_pos hret

/-- Behind the copy of the name that of the password, whose failure takes the first one back. -/
theorem reallocCredentials_copied (myPassword : Option Buffer) {out : Option Buffer} {ulen : UInt32} {l' : Blocks} (hret : reply.ret = NPError.noError)
    (hcopy : npwReallocData memory.username (myUsername.map Buffer.bytes) ulen l = .ok (NPError.noError, out, l'))
    (plen : UInt32) : reallocCredentials memory reply.ret myUsername myPassword ulen plen l =
      (npwReallocData memory.password (myPassword.map Buffer.bytes) ulen l').bind fun (ret, password, l) =>
        .ok ⟨ret, out, ulen, password, plen, if ret = outOfMemoryError then free l out else l⟩ := by
  rw [hret, reallocCredentials, if_neg (by simp), hcopy]
  simp only [bind, Except.bind, ne_eq, not_true, if_false]

theorem settle_carried (husername : Holds myUsername reply.username) (hpassword : Holds myPassword reply.password)
    (hshort : reply.username.length < 2 ^ 31) (hshort' : reply.password.length < 2 ^ 31)
    (hl : l.Balanced (ids myUsername ++ (ids myPassword ++ []))) (hagrees : Agrees memory reply) :
    Carried reply (settle memory reply myUsername myPassword l) := by
  by_cases hret : reply.ret = NPError.noError
  · rcases npwReallocData_cases memory.username husername hshort hl with
      ⟨-, -, hcopy⟩ | ⟨hcopied, out, l', hcopy, hout, hl'⟩
    · have hfailed : reallocCredentials memory reply.ret myUsername myPassword (.ofNat reply.username.length)
          (.ofNat reply.password.length) l =
            .ok ⟨outOfMemoryError, none, .ofNat reply.username.length, none, .ofNat reply.password.length, l⟩ := by
        rw [hret, reallocCredentials, if_neg (by simp), hcopy]
        rfl
      exact settle_ok hfailed (carried_error (by simp only; decide) hl)
    · have hboth := reallocCredentials_copied myPassword hret hcopy (.ofNat reply.password.length)
      by_cases hnil : reply.password = []
      · have hnone : myPassword = none := by
          simpa [Holds, hnil] using hpassword
        subst hnone
        refine settle_ok hboth ⟨_, rfl, .inl ⟨rfl, hout, toNat_length hshort, ?_, toNat_length hshort', ?_⟩⟩
        · rw [hnil]
          rfl
        · exact (free_balanced (free_balanced hl') : (free _ none).Balanced _)
      · cases hpass : memory.password with
        | false =>
          have hsome : myPassword.map Buffer.bytes = some reply.password := by
            rw [hpassword, if_neg hnil]
          rw [hpass, hsome] at hboth
          refine settle_ok hboth (carried_error (by simp only; decide) ?_)
          refine free_balanced (hl'.perm ?_)
          simpa using @List.perm_append_comm _ (ids out) (ids myUsername ++ ids myPassword)
        | true =>
          have hsame := hagrees hnil hret hcopied hpass
          rcases npwReallocData_cases memory.password hpassword hshort' hl' with
            ⟨-, hnot, -⟩ | ⟨-, out', l'', hcopy', hout', hl''⟩
          · simp [hpass] at hnot
          · rw [← hsame] at hcopy'
            rw [hcopy'] at hboth
            refine settle_ok hboth ⟨_, rfl, .inl ⟨rfl, hout, toNat_length hshort, hout', toNat_length hshort', ?_⟩⟩
            refine (free_balanced (free_balanced hl'')).perm ?_
            simpa using List.perm_append_comm
  · exact settle_ok (reallocCredentials_refused hret _ _) (carried_error hret hl)

end

theorem recvChars_nil (alloc : Bool) : recvChars alloc [] l = .ok (.ok none, l) := if_pos rfl

theorem recvChars_noMemory (h : bytes ≠ []) : recvChars false bytes l = .ok (.error RpcError.noMemory, l) := by
  rw [recvChars, if_neg h]
  rfl

theorem recvChars_long (h : 2 ^ 31 ≤ bytes.length) : recvChars true bytes l = .error .negativeCount := by
  have hne : bytes ≠ [] := by
    rintro rfl
    simp at h
  rw [recvChars, if_neg hne, if_neg (by simp), if_pos h]

theorem recvChars_short (hne : bytes ≠ []) (h : bytes.length < 2 ^ 31) :
    recvChars true bytes l = .ok (.ok (some ⟨l.made, bytes⟩), l.make) := by
  rw [recvChars, if_neg hne, if_neg (by simp), if_neg (Nat.not_le.mpr h)]

/-- Each of the two arrays is there, or has no memory. -/
theorem recvChars_cases (alloc : Bool) {first : List Nat} (hshort : bytes = [] ∨ alloc = true → bytes.length < 2 ^ 31)
    (h : l.Balanced first) : (bytes ≠ [] ∧ alloc = false ∧ recvChars alloc bytes l = .ok (.error RpcError.noMemory, l)) ∨
      (bytes = [] ∨ alloc = true) ∧ ∃ buffer l', recvChars alloc bytes l = .ok (.ok buffer, l') ∧ Holds buffer bytes ∧
        l'.Balanced (first ++ ids buffer) := by
  by_cases hne : bytes = []
  · subst hne
    exact .inr ⟨.inl rfl, none, l, recvChars_nil alloc, rfl, by simpa [ids] using h⟩
  · cases alloc with
    | false => exact .inl ⟨hne, rfl, recvChars_noMemory hne⟩
    | true =>
      refine .inr ⟨.inr rfl, _, _, recvChars_short hne (hshort (.inr rfl)), holds_some hne _, ?_⟩
      exact h.make.perm List.perm_append_comm

/-- The reply as it is read, and what is done with it. -/
theorem invokeNPNGetAuthenticationInfo_eq (memory : Memory) (reply : Credentials) :
    invokeNPNGetAuthenticationInfo memory reply =
      (recvChars memory.myUsername reply.username .empty).bind fun
        | (.error _, l) => .ok ⟨NPError.genericError, none, .ofNat reply.username.length, none,
            .ofNat reply.password.length, l⟩
        | (.ok myUsername, l) => (recvChars memory.myPassword reply.password l).bind fun
          | (.error _, l) => .ok ⟨NPError.genericError, none, .ofNat reply.username.length, none,
              .ofNat reply.password.length, l⟩
          | (.ok myPassword, l) => settle memory reply myUsername myPassword l := rfl

theorem carried_of_fits (h : Fits memory reply) : Carried reply (invokeNPNGetAuthenticationInfo memory reply) := by
  rw [invokeNPNGetAuthenticationInfo_eq]
  rcases recvChars_cases memory.myUsername (fun hu => (h hu).1) Blocks.balanced_empty with
    ⟨-, -, hrecv⟩ | ⟨hu, myUsername, l, hrecv, husername, hl⟩
  · rw [hrecv]
    exact ⟨_, rfl, .inr ⟨by simp only; decide, Blocks.balanced_empty⟩⟩
  · obtain ⟨hshort, hleak, hpassword⟩ := h hu
    rw [hrecv, Except.bind]
    dsimp only
    rcases recvChars_cases memory.myPassword (fun hp => (hpassword hp).1) hl with
      ⟨hne, hnone, hrecv'⟩ | ⟨hp, myPassword, l', hrecv', hpassword', hl'⟩
    · have hnil : myUsername = none := by
        simpa [Holds, hleak hne hnone] using husername
      subst hnil
      rw [hrecv']
      exact ⟨_, rfl, .inr ⟨by simp only; decide, hl⟩⟩
    · obtain ⟨hshort', hagrees⟩ := hpassword hp
      rw [hrecv']
      exact settle_carried husername hpassword' hshort hshort' (by simpa using hl') hagrees

/-- No two accounts of the same blocks have different lengths. -/
theorem Balanced.length_eq {held' : List Nat} (h : l.Balanced held) (h' : l.Balanced held') : held.length = held'.length := by
  have hlen := (h.trans h'.symm).length_eq
  simpa using hlen

/-- A copy of the password by another length is no copy of it. -/
theorem settle_not_carried {myUsername myPassword : Option Buffer} (husername : Holds myUsername reply.username)
    (hpassword : Holds myPassword reply.password) (hshort : reply.username.length < 2 ^ 31)
    (hl : l.Balanced (ids myUsername ++ (ids myPassword ++ []))) (hnot : ¬Agrees memory reply) :
    ¬Carried reply (settle memory reply myUsername myPassword l) := by
  simp only [Agrees, Classical.not_imp] at hnot
  obtain ⟨hne, hret, hcopied, hpass, hdiffer⟩ := hnot
  have hsome : myPassword.map Buffer.bytes = some reply.password := by
    rw [hpassword, if_neg hne]
  rcases npwReallocData_cases memory.username husername hshort hl with
    ⟨hne', hnone, -⟩ | ⟨-, out, l', hcopy, -, -⟩
  · rcases hcopied with hnil | hok
    · exact absurd hnil hne'
    · simp [hnone] at hok
  · have hboth := reallocCredentials_copied myPassword hret hcopy (.ofNat reply.password.length)
    rw [hsome, hpass] at hboth
    rintro ⟨info, hinfo, hcarried⟩
    rw [settle] at hinfo
    rcases Nat.lt_or_ge reply.password.length reply.username.length with hlt | hge
    · have hover : npwReallocData true (some reply.password) (.ofNat reply.username.length) l' = .error .overread := by
        simp [npwReallocData, toNat_length hshort, hlt]
      rw [hover] at hboth
      rw [hboth] at hinfo
      cases hinfo
    · have htake : npwReallocData true (some reply.password) (.ofNat reply.username.length) l' =
          .ok (NPError.noError, some ⟨l'.made, reply.password.take reply.username.length⟩, l'.make) := by
        simp [npwReallocData, toNat_length hshort, hge]
      rw [htake] at hboth
      rw [hboth] at hinfo
      cases hinfo
      rcases hcarried with ⟨-, -, -, hholds, -⟩ | ⟨hret', -⟩
      · rw [Holds, if_neg hne, Option.map_some, Option.some.injEq] at hholds
        have hlen := congrArg List.length hholds
        rw [List.length_take] at hlen
        omega
      · exact hret' rfl

theorem fits_of_carried (h : Carried reply (invokeNPNGetAuthenticationInfo memory reply)) : Fits memory reply := by
  intro hu
  rw [invokeNPNGetAuthenticationInfo_eq] at h
  have hshort : reply.username.length < 2 ^ 31 := by
    by_contra hlong
    have hne : reply.username ≠ [] := fun hnil => hlong (by simp [hnil])
    rw [hu.resolve_left hne, recvChars_long (Nat.le_of_not_lt hlong)] at h
    obtain ⟨_, hinfo, -⟩ := h
    cases hinfo
  rcases recvChars_cases memory.myUsername (fun _ => hshort) Blocks.balanced_empty with
    ⟨hne, hnone, -⟩ | ⟨-, myUsername, l, hrecv, husername, hl⟩
  · rcases hu with hnil | hok
    · exact absurd hnil hne
    · simp [hnone] at hok
  rw [hrecv, Except.bind] at h
  dsimp only at h
  refine ⟨hshort, fun hne hnone => ?_, fun hp => ?_⟩
  · -- the name is lost with the reply
    rw [hnone, recvChars_noMemory hne] at h
    obtain ⟨info, hinfo, hcarried⟩ := h
    cases hinfo
    rcases hcarried with ⟨hret, -⟩ | ⟨-, hfree⟩
    · exact absurd hret (by simp only; decide)
    · by_contra hne'
      have hlen := Balanced.length_eq hl hfree
      rw [Holds, if_neg hne'] at husername
      obtain ⟨buffer, rfl, -⟩ := Option.map_eq_some_iff.mp husername
      simp [ids] at hlen
  · have hshort' : reply.password.length < 2 ^ 31 := by
      by_contra hlong
      have hne : reply.password ≠ [] := fun hnil => hlong (by simp [hnil])
      rw [hp.resolve_left hne, recvChars_long (Nat.le_of_not_lt hlong)] at h
      obtain ⟨_, hinfo, -⟩ := h
      cases hinfo
    refine ⟨hshort', ?_⟩
    rcases recvChars_cases memory.myPassword (fun _ => hshort') hl with
      ⟨hne, hnone, -⟩ | ⟨-, myPassword, l', hrecv', hpassword, hl'⟩
    · rcases hp with hnil | hok
      · exact absurd hnil hne
      · simp [hnone] at hok
    · by_contra hnot
      rw [hrecv'] at h
      exact settle_not_carried husername hpassword hshort (by simpa using hl') hnot h

/-- The reply of the wrapper comes across. -/
theorem credentials_cross {V : Type} (types : TypeMap V) (hshort : reply.username.length < 2 ^ 31)
    (hshort' : reply.password.length < 2 ^ 31) : ReplyCrosses types (credentialsReply reply) := by
  refine replyCrosses_of_argsCross (rpcMessageArgs_exchanged ?_ ?_ ?_)
  · simp [credentialsReply, Arg.Short, Elements.length]
    exact ⟨hshort, hshort'⟩
  · simp [credentialsReply, Arg.Carried]
  · simp [credentialsReply, Arg.Addressable]

/-! ### Sites -/

variable {sites : List CString} {alloc : Nat → Bool} {i : Nat}

/-- An array with a NULL behind it, of blocks of their own that have the strings and their terminators. -/
def Copied (sites : List CString) (ret : Option (List (Option Buffer))) : Prop :=
  ∃ outs, ret = some (outs.map some ++ [none]) ∧ (outs.map Buffer.block).Nodup ∧
    List.Forall₂ (fun site out => 0 ∈ out.bytes ∧ CString.ofBytes out.bytes = site) sites outs

/-- Only what is before the terminator is copied. -/
theorem reallocSites_unterminated {strings : List (Option CString)} {out : List (Option Buffer)} {l' : Blocks}
    (h : reallocSites alloc i strings l = .ok (out, l')) : ∀ buffer, some buffer ∈ out → 0 ∉ buffer.bytes := by
  induction strings generalizing i l out l' with
  | nil =>
    cases h
    nofun
  | cons string strings ih =>
    cases string with
    | none => cases h
    | some site =>
      rw [reallocSites, npwReallocData] at h
      dsimp only at h
      split at h
      · cases hrest : reallocSites alloc (i + 1) strings l with
        | error e => simp [hrest, bind, Except.bind] at h
        | ok p =>
          simp only [hrest, bind, Except.bind, Except.ok.injEq, Prod.mk.injEq] at h
          obtain ⟨rfl, -⟩ := h
          intro buffer hmem
          exact ih hrest buffer (by simpa using hmem)
      · split at h
        · cases h
        · cases hrest : reallocSites alloc (i + 1) strings l.make with
          | error e => simp [hrest, bind, Except.bind] at h
          | ok p =>
            simp only [hrest, bind, Except.bind, Except.ok.injEq, Prod.mk.injEq] at h
            obtain ⟨rfl, -⟩ := h
            intro buffer hmem
            rcases List.mem_cons.mp hmem with heq | hmem
            · cases heq
              intro hzero
              have hle : (UInt32.ofNat site.bytes.length).toNat ≤ site.bytes.length := by
                rw [UInt32.toNat_ofNat']
                exact Nat.mod_le ..
              rw [List.take_append_of_le_length hle] at hzero
              exact site.unterminated 0 (List.mem_of_mem_take hzero) rfl
            · exact ih hrest buffer hmem

/-- What is read of the reply for a string or more. -/
theorem sitesReply_received {V : Type} (site : CString) (sites : List CString) :
    (sitesReply (V := V) (some (site :: sites))).map Arg.received =
      [.array (.elements (.string ((site :: sites).map some)))] := by
  simp [sitesReply, Arg.received, Elements.length]

theorem not_copied {V : Type} (pointerSize : Nat) (array : Bool) (alloc : Nat → Bool) (site : CString)
    (sites : List CString) (ret : Option (List (Option Buffer)))
    (h : invokeNPPGetSitesWithData pointerSize array alloc
      ((sitesReply (V := V) (some (site :: sites))).map Arg.received) = .ok ret) : ¬Copied (site :: sites) ret := by
  rintro ⟨outs, rfl, -, hall⟩
  rw [sitesReply_received, invokeNPPGetSitesWithData, convertSites] at h
  split at h
  · cases h
  · split at h
    · cases h
    · cases hrest : reallocSites alloc 0 ((site :: sites).map some) .empty with
      | error e =>
        rw [hrest] at h
        cases h
      | ok p =>
        rw [hrest] at h
        simp only [bind, Except.bind, Except.ok.injEq, Option.some.injEq, List.append_cancel_right_eq] at h
        obtain ⟨out, outs, hsite, -, rfl⟩ := List.forall₂_cons_left_iff.mp hall
        refine reallocSites_unterminated hrest out ?_ hsite.1
        simp [h]

/-- With memory for all of them, the entries are blocks of their own with the bytes of the strings. -/
theorem reallocSites_bytes (sites : List CString) (hshort : ∀ site ∈ sites, site.bytes.length < 2 ^ 31) (i : Nat)
    (l : Blocks) : ∃ outs : List Buffer, ∃ l', reallocSites (fun _ => true) i (sites.map some) l = .ok (outs.map some, l') ∧
      outs.map Buffer.bytes = sites.map CString.bytes ∧ (outs.map Buffer.block).Nodup ∧
      ∀ out ∈ outs, l.made ≤ out.block := by
  induction sites generalizing i l with
  | nil => exact ⟨[], l, rfl, rfl, List.nodup_nil, nofun⟩
  | cons site sites ih =>
    obtain ⟨hsite, hsites⟩ := List.forall_mem_cons.mp hshort
    obtain ⟨outs, l', houts, hbytes, hnodup, hmade⟩ := ih hsites (i + 1) l.make
    refine ⟨⟨l.made, site.bytes⟩ :: outs, l', ?_, by simp [hbytes], ?_, ?_⟩
    · have hroom : ¬site.bytes.length + 1 < site.bytes.length := by omega
      simp [reallocSites, npwReallocData, toNat_length hsite, hroom, houts, bind, Except.bind]
    · refine List.nodup_cons.mpr ⟨fun hmem => ?_, hnodup⟩
      obtain ⟨out, hout, hblock⟩ := List.mem_map.mp hmem
      have hle : l.made + 1 ≤ out.block := hmade out hout
      dsimp only at hblock
      omega
    · refine List.forall_mem_cons.mpr ⟨le_refl _, fun out hout => ?_⟩
      exact Nat.le_of_succ_le (hmade out hout)

/-- The array has its NULL and an entry for each string, with all but the terminator. -/
theorem sites_bytes {V : Type} (pointerSize : Nat) (site : CString) (sites : List CString)
    (hshort : ∀ s ∈ site :: sites, s.bytes.length < 2 ^ 31)
    (hsize : pointerSize * (sites.length + 2) < 2 ^ 32) (hcount : sites.length + 2 < 2 ^ 32) :
    ∃ outs : List Buffer, invokeNPPGetSitesWithData pointerSize true (fun _ => true)
        ((sitesReply (V := V) (some (site :: sites))).map Arg.received) = .ok (some (outs.map some ++ [none])) ∧
      outs.map Buffer.bytes = (site :: sites).map CString.bytes ∧ (outs.map Buffer.block).Nodup := by
  obtain ⟨outs, l', houts, hbytes, hnodup, -⟩ := reallocSites_bytes (site :: sites) hshort 0 .empty
  refine ⟨outs, ?_, hbytes, hnodup⟩
  have hlen : (UInt32.ofNat ((site :: sites).map some).length).toNat = sites.length + 1 := by
    rw [UInt32.toNat_ofNat', List.length_map, List.length_cons, Nat.mod_eq_of_lt (by omega)]
  have hnext : (UInt32.ofNat ((site :: sites).map some).length + 1).toNat = sites.length + 2 := by
    rw [UInt32.toNat_add, hlen, show (1 : UInt32).toNat = 1 from rfl, Nat.mod_eq_of_lt (by omega)]
  have hpos : ¬(UInt32.ofNat ((site :: sites).map some).length = 0 ∨ true = false) := by
    rintro (hzero | hfalse)
    · rw [hzero] at hlen
      cases hlen
    · cases hfalse
  rw [sitesReply_received, invokeNPPGetSitesWithData, convertSites, if_neg hpos, hlen, hnext, Nat.mod_eq_of_lt hsize,
    if_neg (Nat.lt_irrefl _), houts]
  rfl

/-- The reply of the plugin comes across. -/
theorem sites_cross {V : Type} (types : TypeMap V) (sites : List CString) (hcount : sites.length < 2 ^ 31)
    (hshort : ∀ site ∈ sites, site.bytes.length < 2 ^ 31) : ReplyCrosses types (sitesReply (some sites)) := by
  refine replyCrosses_of_argsCross (rpcMessageArgs_exchanged ?_ ?_ ?_)
  · simp only [sitesReply, List.mem_singleton, forall_eq, Arg.Short, Elements.length, List.length_map]
    refine ⟨hcount, fun string hstring => ?_⟩
    obtain ⟨site, hsite, rfl⟩ := List.mem_map.mp hstring
    rintro _ ⟨⟩
    exact hshort site hsite
  · simp [sitesReply, Arg.Carried]
  · simp [sitesReply, Arg.Addressable]

/-- The two buffers come out right, or nothing is left of them, where a password that is copied is as long as the name. -/
theorem authentication_carried_iff (memory : Memory) (reply : Credentials) :
    Carried reply (invokeNPNGetAuthenticationInfo memory reply) ↔ Fits memory reply :=
  ⟨fits_of_carried, carried_of_fits⟩

/-- Whatever the sites are, and whatever memory there is, no array comes back that has copies of them. -/
theorem sites_unterminated {V : Type} (pointerSize : Nat) (array : Bool) (alloc : Nat → Bool) (site : CString)
    (sites : List CString) : ¬ ∃ ret, invokeNPPGetSitesWithData pointerSize array alloc
      ((sitesReply (V := V) (some (site :: sites))).map Arg.received) = .ok ret ∧ Copied (site :: sites) ret := by
  rintro ⟨ret, hret, hcopied⟩
  exact not_copied pointerSize array alloc site sites ret hret hcopied

/-- A name of one byte, and a password of two. -/
def shortName : Credentials := ⟨NPError.noError, [117], [112, 119]⟩

/-- The second byte of the password is lost, with memory for everything. -/
theorem authentication_mixed : ¬ ∀ memory reply, Carried reply (invokeNPNGetAuthenticationInfo memory reply) := by
  intro h
  have hfits := fits_of_carried (h ⟨true, true, true, true⟩ shortName)
  have hlen := ((hfits (.inr rfl)).2.2 (.inr rfl)).2 nofun rfl (.inr rfl) rfl
  cases hlen

/-- An empty string has to have its terminator. -/
theorem sites_lost : ¬ ∀ site sites, ∃ ret, invokeNPPGetSitesWithData 8 true (fun _ => true)
    ((sitesReply (V := Unit) (some (site :: sites))).map Arg.received) = .ok ret ∧ Copied (site :: sites) ret := by
  intro h
  obtain ⟨ret, hret, hcopied⟩ := h (.ofBytes []) []
  exact not_copied 8 true (fun _ => true) _ _ ret hret hcopied

end Transfer
end NSPluginWrapper
