import NSPluginWrapper.Theorems.Stubs

/-! Proxies of the browser over kills and restarts of the plugin. A viewer hands its numbers out from 1 again, so a
    proxy that outlives its viewer has a number that another proxy may get. -/

namespace NSPluginWrapper
open Lib

namespace Bridge
variable {b b' : Bridge}

/-- The browser frees no proxy while the table has another one under its number, and sends none of a viewer that is
    gone. -/
def Fresh (b : Bridge) : BridgeEvent → Prop
  | .act .client a =>
    (∀ (i : Nat) (x : NPObjectProxy), (b.peer .client).frees a = some i → (b.peer .client).proxies[i]? = some x →
      ∀ j, (b.peer .client).gProxies x.id = some j → j = i) ∧
    ∀ (i : Nat) (passRef : Bool) (x : NPObjectProxy), a = .send (some (.proxy i)) passRef →
      (b.peer .client).proxies[i]? = some x → x.generation = b.generation
  | _ => True

/-- How often the browser was told of a stub of this viewer, or will be. -/
def told (b : Bridge) (id : Nat) : Nat :=
  (b.peer .client).proxies.countP (fun x => x.generation == b.generation && x.id == id) +
    (b.incoming .client).countP (·.creates id)

/-- What kills and restarts keep. -/
structure Current (b : Bridge) : Prop where
  generations : ∀ x ∈ (b.peer .client).proxies, x.generation ≤ b.generation
  down : b.up = false → ∀ side, b.incoming side = []
  fresh : ∀ id, (b.peer .server).stubs.length < id → b.told id = 0
  once : ∀ id, b.told id ≤ 1
  made : ∀ id target, .senderOwned id target ∈ b.incoming .client → (b.peer .server).madeFor id = some target
  proxies : ∀ x ∈ (b.peer .client).proxies, x.generation = b.generation → (b.peer .server).madeFor x.id = some x.target
  sent : ∀ id releaseStub target g, .receiverOwned id releaseStub target g ∈ b.incoming .server →
    g = b.generation ∧ (b.peer .server).madeFor id = some target
  table : b.up = true → ∀ (i : Nat) (x : NPObjectProxy), (b.peer .client).proxies[i]? = some x → x.isFreed = false →
    x.generation = b.generation → (b.peer .client).gProxies x.id = some i
  valid : ∀ x ∈ (b.peer .client).proxies, x.isFreed = false → x.isValid = true → x.generation = b.generation ∧ b.up = true

theorem current_joined : joined.Current :=
  ⟨nofun, nofun, fun _ _ => rfl, fun _ => Nat.zero_le _, nofun, nofun, nofun, fun _ => nofun, nofun⟩

/-! ### The viewer -/

/-- The viewer made no stub, or the one it tells of. -/
theorem Current.server_after (h : b.Current) (hup : b.up = true) {p : Peer} {sent : List NPObjectMessage}
    (hs : (p.stubs.map (·.npobject) = (b.peer .server).stubs.map (·.npobject) ∧ ∀ m ∈ sent, ∀ id, m.creates id = false) ∨
      ∃ o, p.stubs = (b.peer .server).stubs ++ [⟨o, true, 0⟩] ∧
        sent = [.senderOwned ((b.peer .server).stubs.length + 1) o]) :
    (b.after .server p sent).Current := by
  have hmade : ∀ id target, (b.peer .server).madeFor id = some target → p.madeFor id = some target := by
    intro id target hm
    rcases hs with ⟨hs, -⟩ | ⟨o, hs, -⟩
    · rwa [Peer.madeFor_congr hs]
    · exact Peer.madeFor_append hs hm
  have htold : ∀ id, (b.after .server p sent).told id = b.told id + sent.countP (·.creates id) := by
    intro id
    change _ + (b.incoming .client ++ sent).countP _ = _
    rw [List.countP_append, ← Nat.add_assoc]
    rfl
  refine ⟨h.generations, fun hd => absurd hup (by simp [show b.up = false from hd]), fun id hid => ?_, fun id => ?_,
    fun id target hm => ?_, fun x hx hg => hmade _ _ (h.proxies x hx hg), fun id r target g hm => ?_, h.table, h.valid⟩
  · rw [htold]
    change p.stubs.length < id at hid
    rcases hs with ⟨hs, hsent⟩ | ⟨o, hs, rfl⟩
    · have hlen : p.stubs.length = (b.peer .server).stubs.length := by simpa using congrArg List.length hs
      rw [h.fresh id (hlen ▸ hid), List.countP_eq_zero.mpr fun m hm => by simp [hsent m hm id]]
    · rw [hs, List.length_append, List.length_singleton] at hid
      have hno : NPObjectMessage.creates id (.senderOwned ((b.peer .server).stubs.length + 1) o) = false :=
        beq_false_of_ne (by omega)
      rw [h.fresh id (by omega), List.countP_singleton, hno]
      rfl
  · rw [htold]
    rcases hs with ⟨hs, hsent⟩ | ⟨o, hs, rfl⟩
    · rw [List.countP_eq_zero.mpr fun m hm => by simp [hsent m hm id]]
      exact h.once id
    · rw [List.countP_singleton]
      split
      · rename_i hid
        have hid := eq_of_beq hid
        rw [h.fresh id (by omega)]
      · exact h.once id
  · rcases List.mem_append.mp hm with hm | hm
    · exact hmade _ _ (h.made id target hm)
    · rcases hs with ⟨-, hsent⟩ | ⟨o, hs, rfl⟩
      · have := hsent _ hm id
        simp [NPObjectMessage.creates] at this
      · cases List.mem_singleton.mp hm
        change p.madeFor _ = _
        rw [Peer.madeFor, hs, List.getElem?_append_right (Nat.le_refl _), Nat.sub_self]
        rfl
  · obtain ⟨hg, hm⟩ := h.sent id r target g hm
    exact ⟨hg, hmade _ _ hm⟩

/-- The viewer has read a message. -/
theorem Current.skip (h : b.Current) {m : NPObjectMessage} {rest : List NPObjectMessage} (hin : b.incoming .server = m :: rest) :
    Current { b with incoming := Function.update b.incoming .server rest } where
  generations := h.generations
  down hup side := by
    cases side with
    | client => exact h.down hup .client
    | server =>
      have hnil := h.down hup .server
      rw [hin] at hnil
      cases hnil
  fresh := h.fresh
  once := h.once
  made := h.made
  proxies := h.proxies
  sent id r target g hm := h.sent id r target g (hin ▸ List.mem_cons_of_mem _ hm)
  table := h.table
  valid := h.valid

/-! ### The browser -/

theorem told_congr (hp : (b'.peer .client).proxies.map (fun x => (x.id, x.generation)) =
      (b.peer .client).proxies.map (fun x => (x.id, x.generation)))
    (hg : b'.generation = b.generation) (hin : b'.incoming .client = b.incoming .client) (id : Nat) :
    b'.told id = b.told id := by
  have hcount (l : List NPObjectProxy) (g : Nat) : l.countP (fun x => x.generation == g && x.id == id) =
      (l.map fun x => (x.id, x.generation)).countP fun k => k.2 == g && k.1 == id := by
    rw [List.countP_map]
    rfl
  rw [told, told, hcount, hcount, hp, hg, hin]

/-- The browser's proxies age, and the table loses at most the entry of one that is freed. -/
theorem Current.client_after (h : b.Current) {p : Peer} {sent : List NPObjectMessage} {freed : Option Nat}
    (ha : (b.peer .client).Ages p) (hu : (b.peer .client).Unlists p freed)
    (hfreed : ∀ (i : Nat) (x : NPObjectProxy), freed = some i → (b.peer .client).proxies[i]? = some x →
      ∀ j, (b.peer .client).gProxies x.id = some j → j = i)
    (hsent : ∀ id releaseStub target g, .receiverOwned id releaseStub target g ∈ sent →
      g = b.generation ∧ (b.peer .server).madeFor id = some target)
    (hdown : b.up = false → sent = []) : (b.after .client p sent).Current := by
  have hback : ∀ y ∈ p.proxies, ∃ x ∈ (b.peer .client).proxies, x.Ages y := by
    intro y hy
    obtain ⟨i, hi⟩ := List.mem_iff_getElem?.mp hy
    obtain ⟨x, hx, hage⟩ := ha.back hi
    exact ⟨x, List.mem_of_getElem? hx, hage⟩
  have htold : ∀ id, (b.after .client p sent).told id = b.told id := told_congr ha.numbers rfl rfl
  refine ⟨fun y hy => ?_, fun hup side => ?_, fun id hid => (htold id).trans (h.fresh id hid),
    fun id => Nat.le_trans (Nat.le_of_eq (htold id)) (h.once id), h.made, fun y hy hg => ?_, fun id r target g hm => ?_,
    fun hup i y hy hf hg => ?_, fun y hy hf hv => ?_⟩
  · obtain ⟨x, hx, hage⟩ := hback y hy
    exact hage.generation ▸ h.generations x hx
  · cases side with
    | client => exact h.down hup .client
    | server =>
      change b.incoming .server ++ sent = []
      rw [h.down hup .server, hdown hup]
      rfl
  · obtain ⟨x, hx, hage⟩ := hback y hy
    rw [hage.id, hage.target]
    exact h.proxies x hx (hage.generation ▸ hg)
  · rcases List.mem_append.mp hm with hm | hm
    · exact h.sent id r target g hm
    · exact hsent id r target g hm
  · obtain ⟨x, hx, hage⟩ := ha.back hy
    have hentry := h.table hup i x hx (hage.freed hf) (hage.generation ▸ hg)
    change p.gProxies y.id = some i
    rw [hage.id]
    rcases hu with ⟨-, hsame⟩ | ⟨j, z, hj, hz, hgone, hmark⟩
    · rw [hsame]
      exact hentry
    · rw [hgone, Function.update_apply]
      split
      · rename_i hid
        rw [hid] at hentry
        cases hfreed j z hj hz i hentry
        rw [hmark y hy] at hf
        cases hf
      · exact hentry
  · obtain ⟨x, hx, hage⟩ := hback y hy
    rw [hage.generation]
    exact h.valid x hx (hage.freed hf) (hage.valid hv)

/-- The browser's own objects bear on nothing. -/
theorem Current.client_same (h : b.Current) {p : Peer} (hp : p.proxies = (b.peer .client).proxies)
    (ht : p.gProxies = (b.peer .client).gProxies) : Current { b with peer := Function.update b.peer .client p } := by
  have htold : ∀ id, told { b with peer := Function.update b.peer .client p } id = b.told id :=
    told_congr (congrArg _ hp) rfl rfl
  refine ⟨?_, h.down, fun id hid => (htold id).trans (h.fresh id hid),
    fun id => Nat.le_trans (Nat.le_of_eq (htold id)) (h.once id), h.made, ?_, h.sent, ?_, ?_⟩
  · change ∀ x ∈ p.proxies, _
    rw [hp]
    exact h.generations
  · change ∀ x ∈ p.proxies, _
    rw [hp]
    exact h.proxies
  · change b.up = true → ∀ i x, p.proxies[i]? = some x → _ → _ → p.gProxies x.id = some i
    rw [hp, ht]
    exact h.table
  · change ∀ x ∈ p.proxies, _
    rw [hp]
    exact h.valid

/-- What the browser is not told any more bears on nothing either. -/
theorem Current.client_skip (h : b.Current) (hup : b.up = true) {m : NPObjectMessage} {rest : List NPObjectMessage}
    (hin : b.incoming .client = m :: rest) : Current { b with incoming := Function.update b.incoming .client rest } := by
  have htold : ∀ id, told { b with incoming := Function.update b.incoming .client rest } id ≤ b.told id := by
    intro id
    refine Nat.add_le_add_left ?_ _
    change rest.countP _ ≤ _
    rw [hin, List.countP_cons]
    exact Nat.le_add_right _ _
  exact ⟨h.generations, fun hd => absurd hup (by simp [show b.up = false from hd]),
    fun id hid => Nat.le_zero.mp (h.fresh id hid ▸ htold id), fun id => Nat.le_trans (htold id) (h.once id),
    fun id target hm => h.made id target (hin ▸ List.mem_cons_of_mem _ hm), h.proxies, h.sent, h.table, h.valid⟩

/-- The browser makes a proxy for the stub it is told of, whose number no other proxy of this viewer has. -/
theorem Current.client_new (h : b.Current) (hup : b.up = true) {id target : Nat} {rest : List NPObjectMessage}
    (hin : b.incoming .client = .senderOwned id target :: rest) {p : Peer}
    (hp : p.proxies = (b.peer .client).proxies ++ [⟨id, 1, true, false, target, b.generation, false⟩])
    (ht : p.gProxies = Function.update (b.peer .client).gProxies id (some (b.peer .client).proxies.length)) :
    Current { b with incoming := Function.update b.incoming .client rest, peer := Function.update b.peer .client p } := by
  have hskip := h.client_skip hup hin
  have htold : ∀ id', told { b with incoming := Function.update b.incoming .client rest,
                                    peer := Function.update b.peer .client p } id' = b.told id' := by
    intro id'
    change p.proxies.countP _ + rest.countP _ = _
    rw [told, hin, hp, List.countP_append, List.countP_singleton, List.countP_cons]
    cases hid : id == id' <;> simp [NPObjectMessage.creates, hid]
    omega
  have hother : ∀ x ∈ (b.peer .client).proxies, x.generation = b.generation → x.id ≠ id := by
    intro x hx hg hid
    have honce := h.once id
    have hpos : 0 < (b.peer .client).proxies.countP (fun x => x.generation == b.generation && x.id == id) :=
      List.countP_pos_iff.mpr ⟨x, hx, by simp [hg, hid]⟩
    have hhead : NPObjectMessage.creates id (.senderOwned id target) = true := beq_self_eq_true id
    rw [told, hin, List.countP_cons, if_pos hhead] at honce
    omega
  refine ⟨fun x hx => ?_, hskip.down, fun id' hid => (htold id').trans (h.fresh id' hid),
    fun id' => Nat.le_trans (Nat.le_of_eq (htold id')) (h.once id'), hskip.made, fun x hx hg => ?_, h.sent,
    fun _ i x hx hf hg => ?_, fun x hx hf hv => ?_⟩
  · change x ∈ p.proxies at hx
    rw [hp] at hx
    rcases List.mem_append.mp hx with hx | hx
    · exact h.generations x hx
    · cases List.mem_singleton.mp hx
      exact Nat.le_refl _
  · change x ∈ p.proxies at hx
    rw [hp] at hx
    rcases List.mem_append.mp hx with hx | hx
    · exact h.proxies x hx hg
    · cases List.mem_singleton.mp hx
      exact h.made id target (hin ▸ List.mem_cons_self)
  · change p.proxies[i]? = some x at hx
    change p.gProxies x.id = some i
    rw [hp, List.getElem?_append] at hx
    rw [ht]
    split at hx
    · rw [Function.update_of_ne (hother x (List.mem_of_getElem? hx) hg)]
      exact h.table hup i x hx hf hg
    · rename_i hge
      obtain ⟨hlt, rfl⟩ := List.getElem?_eq_some_iff.mp hx
      rw [List.length_singleton] at hlt
      rw [List.getElem_singleton, Function.update_self]
      exact congrArg some (by omega)
  · change x ∈ p.proxies at hx
    rw [hp] at hx
    rcases List.mem_append.mp hx with hx | hx
    · exact h.valid x hx hf hv
    · cases List.mem_singleton.mp hx
      exact ⟨rfl, hup⟩

/-- The browser reads a message. -/
theorem Current.client_receive (h : b.Current) : (b.receive .client).Current := by
  unfold Bridge.receive
  cases hin : b.incoming .client with
  | nil => exact h
  | cons m rest =>
    have hup : b.up = true := by
      by_contra hd
      have hnil := h.down (by simpa using hd) .client
      rw [hin] at hnil
      cases hnil
    dsimp only
    split
    · exact { h.client_skip hup hin with }
    · rename_i p r hr
      rcases Peer.doRecv_proxies hr with ⟨id, target, rfl, hp, ht⟩ | ⟨-, hp, ht⟩
      · exact h.client_new hup hin hp ht
      · exact (h.client_skip hup hin).client_same hp ht

/-- The viewer reads one. -/
theorem Current.server_receive (h : b.Current) : (b.receive .server).Current := by
  unfold Bridge.receive
  cases hin : b.incoming .server with
  | nil => exact h
  | cons m rest =>
    have hskip := h.skip hin
    dsimp only
    split
    · exact { hskip with }
    · rename_i p r hr
      have hs := Peer.doRecv_stubs hr
      have hlen : p.stubs.length = (b.peer .server).stubs.length := by simpa using congrArg List.length hs
      refine ⟨hskip.generations, hskip.down, fun id hid => ?_, hskip.once, fun id target hm => ?_, fun x hx hg => ?_,
        fun id r target g hm => ?_, hskip.table, hskip.valid⟩
      · change p.stubs.length < id at hid
        exact h.fresh id (hlen ▸ hid)
      · change p.madeFor id = _
        rw [Peer.madeFor_congr hs]
        exact h.made id target hm
      · change p.madeFor x.id = _
        rw [Peer.madeFor_congr hs]
        exact h.proxies x hx hg
      · change g = b.generation ∧ p.madeFor id = _
        rw [Peer.madeFor_congr hs]
        exact hskip.sent id r target g hm

/-! ### Kills and restarts -/

/-- npruntime_deactivate() finds every valid proxy in the table. -/
theorem Current.deactivated (h : b.Current) :
    ∀ y ∈ (b.peer .client).npruntimeDeactivate.proxies, y.isFreed = false → y.isValid = false := by
  intro y hy hf
  obtain ⟨i, hi⟩ := List.mem_iff_getElem?.mp hy
  obtain ⟨x, hx, hage⟩ := Peer.Ages.npruntimeDeactivate.back hi
  by_contra hv
  obtain ⟨hg, hup⟩ := h.valid x (List.mem_of_getElem? hx) (hage.freed hf) (hage.valid (by simpa using hv))
  exact hv (Peer.npruntimeDeactivate_invalid (h.table hup i x hx (hage.freed hf) hg) hx hi)

theorem Current.kill (h : b.Current) : b.kill.Current := by
  have hback : ∀ y ∈ (b.peer .client).npruntimeDeactivate.proxies, ∃ x ∈ (b.peer .client).proxies, x.Ages y := by
    intro y hy
    obtain ⟨i, hi⟩ := List.mem_iff_getElem?.mp hy
    obtain ⟨x, hx, hage⟩ := Peer.Ages.npruntimeDeactivate.back hi
    exact ⟨x, List.mem_of_getElem? hx, hage⟩
  have htold : ∀ id, b.kill.told id ≤ b.told id := by
    intro id
    have hsame : b.kill.told id = { b with incoming := fun _ => [] }.told id := by
      refine told_congr ?_ ?_ ?_ id
      · exact Peer.Ages.npruntimeDeactivate.numbers
      · rfl
      · rfl
    rw [hsame]
    exact Nat.add_le_add_left (Nat.zero_le _) _
  refine ⟨fun y hy => ?_, fun _ _ => rfl, fun id hid => Nat.le_zero.mp (h.fresh id hid ▸ htold id),
    fun id => Nat.le_trans (htold id) (h.once id), nofun, fun y hy hg => ?_, nofun, nofun, fun y hy hf hv => ?_⟩
  · obtain ⟨x, hx, hage⟩ := hback y hy
    exact hage.generation ▸ h.generations x hx
  · obtain ⟨x, hx, hage⟩ := hback y hy
    rw [hage.id, hage.target]
    exact h.proxies x hx (hage.generation ▸ hg)
  · rw [h.deactivated y hy hf] at hv
    cases hv

/-- No proxy is of a viewer that has just started. -/
theorem Current.start (h : b.Current) (hdown : b.up = false) : b.start.Current := by
  have hold : ∀ x ∈ (b.peer .client).proxies, x.generation ≠ b.generation + 1 := by
    intro x hx hg
    have := h.generations x hx
    omega
  have htold : ∀ id, b.start.told id = 0 := by
    intro id
    change (b.peer .client).proxies.countP _ + (b.incoming .client).countP _ = 0
    rw [h.down hdown .client, List.countP_nil, Nat.add_zero]
    exact List.countP_eq_zero.mpr fun x hx => by simp [Bridge.start, hold x hx]
  refine ⟨fun x hx => Nat.le_succ_of_le (h.generations x hx), nofun, fun id _ => htold id, fun id => ?_,
    fun id target hm => ?_, fun x hx hg => absurd hg (hold x hx), fun id r target g hm => ?_,
    fun _ i x hx _ hg => absurd hg (hold x (List.mem_of_getElem? hx)), fun x hx hf hv => ?_⟩
  · rw [htold]
    exact Nat.zero_le 1
  · change _ ∈ b.incoming .client at hm
    rw [h.down hdown .client] at hm
    cases hm
  · change _ ∈ b.incoming .server at hm
    rw [h.down hdown .server] at hm
    cases hm
  · have hup := (h.valid x hx hf hv).2
    rw [hdown] at hup
    cases hup

theorem Current.act {side : ConnectionType} {a : ObjectAct} (h : b.Current) (hen : b.Enabled (.act side a))
    (hfresh : b.Fresh (.act side a)) (ha : a ≠ .receive) :
    (b.after side ((b.peer side).act a).1 ((b.peer side).act a).2).Current := by
  obtain ⟨-, hup, hcalls, hcan⟩ := hen
  have hsaid := Peer.act_says (p := b.peer side) a
  cases side with
  | server =>
    refine h.server_after (hup rfl) ?_
    rcases Peer.act_stubs (p := b.peer .server) a with ⟨hs, hsent⟩ | ⟨o, hs, hsent⟩
    · exact .inl ⟨congrArg _ hs, hsent⟩
    · exact .inr ⟨o, hs, hsent⟩
  | client =>
    refine h.client_after (Peer.act_ages hcan) (Peer.act_unlists hcan) hfresh.1 (fun id r target g hm => ?_) fun hd => ?_
    · cases hsaid _ hm with
      | receiverOwned hx =>
        have hg := hfresh.2 _ _ _ rfl hx
        exact ⟨hg, h.proxies _ (List.mem_of_getElem? hx) hg⟩
    · refine List.eq_nil_iff_forall_not_mem.mpr fun m hm => ?_
      have := hcalls (hsaid m hm).calls
      rw [hd] at this
      cases this

theorem Current.step {e : BridgeEvent} (h : b.Current) (hf : b.Fresh e) (hs : bridge.step b e b') : b'.Current := by
  obtain ⟨hen, rfl⟩ := hs
  cases e with
  | act side a =>
    cases a with
    | receive =>
      cases side with
      | server => exact h.server_receive
      | client => exact h.client_receive
    | _ => exact h.act hen hf nofun
  | kill => exact h.kill
  | start => exact h.start hen.2

/-- The viewers of a run do not come between each other's proxies. A proxy is valid only while its viewer runs; each
    proxy of the running viewer is in the table under its number, whatever was freed; npruntime_deactivate() leaves
    no valid one; and what is sent to the viewer names the object it was made for, if any. -/
structure Apart (b : Bridge) : Prop where
  valid : ∀ x ∈ (b.peer .client).proxies, x.isFreed = false → x.isValid = true → x.generation = b.generation ∧ b.up = true
  listed : b.up = true → ∀ (i : Nat) (x : NPObjectProxy), (b.peer .client).proxies[i]? = some x → x.isFreed = false →
    x.generation = b.generation → (b.peer .client).gProxies x.id = some i
  deactivated : ∀ y ∈ (b.peer .client).npruntimeDeactivate.proxies, y.isFreed = false → y.isValid = false
  resolved : ∀ id releaseStub target g, .receiverOwned id releaseStub target g ∈ b.incoming .server →
    ∀ o, (b.peer .server).npobjectLookupLocal id = some o → g = b.generation ∧ o = target

theorem Current.apart (h : b.Current) : b.Apart where
  valid := h.valid
  listed := h.table
  deactivated := h.deactivated
  resolved id releaseStub target g hm o ho := by
    obtain ⟨hg, hmade⟩ := h.sent id releaseStub target g hm
    obtain ⟨stub, hstub, -⟩ := Option.map_eq_some_iff.mp ho
    rw [Peer.madeFor_of_lookup (by rw [hstub]; rfl), hmade] at ho
    cases ho
    exact ⟨hg, rfl⟩

end Bridge

/-- Over any number of kills and restarts, as long as the browser frees no proxy under whose number the table has
    another one, and sends none of a viewer that is gone. -/
theorem generations_apart {b : Bridge} (h : (bridge.restrict Bridge.Fresh).Reachable b) : b.Apart := by
  refine Bridge.Current.apart (h.invariant Bridge.Current ?_ ?_)
  · rintro b rfl
    exact Bridge.current_joined
  · intro b e b' _ hc hs
    exact hc.step hs.1 hs.2

/-- The proxy of the first viewer is freed before the second one hands its number out again. -/
theorem restarted_proxy_listed : ∃ b, bridge.Reachable b ∧ b.generation = 1 ∧ (b.peer .client).gProxies 1 = some 1 := by
  have h₀ := Machine.Reachable.init (m := bridge.restrict Bridge.Fresh) (s := .joined) rfl
  have h₁ := h₀.next (.act .server .create) ⟨trivial, ⟨rfl, fun _ => rfl, nofun, trivial⟩, rfl⟩
  have h₂ := h₁.next (.act .server (.send (some (.local 0)) false))
    ⟨trivial, ⟨rfl, fun _ => rfl, fun _ => rfl, ⟨_, rfl, by decide⟩, fun _ _ => by decide⟩, rfl⟩
  have h₃ := h₂.next (.act .client .receive)
    ⟨⟨fun _ _ hf => (by cases hf), fun _ _ _ ha => (by cases ha)⟩, ⟨rfl, nofun, nofun, trivial⟩, rfl⟩
  have h₄ := h₃.next .kill ⟨trivial, rfl, rfl⟩
  have h₅ := h₄.next (.act .client (.release (.proxy 0) false))
    ⟨⟨fun _ _ hf => (by cases hf), fun _ _ _ ha => (by cases ha)⟩, ⟨rfl, nofun, nofun, ⟨_, rfl, by decide⟩⟩, rfl⟩
  have h₆ := h₅.next (.act .client (.free 0))
    ⟨⟨fun _ _ _ _ _ hj => (by cases hj), fun _ _ _ ha => (by cases ha)⟩, ⟨rfl, nofun, nofun, ⟨_, rfl, rfl, rfl⟩⟩, rfl⟩
  have h₇ := h₆.next .start ⟨trivial, ⟨rfl, rfl⟩, rfl⟩
  have h₈ := h₇.next (.act .server .create) ⟨trivial, ⟨rfl, fun _ => rfl, nofun, trivial⟩, rfl⟩
  have h₉ := h₈.next (.act .server (.send (some (.local 0)) false))
    ⟨trivial, ⟨rfl, fun _ => rfl, fun _ => rfl, ⟨_, rfl, by decide⟩, fun _ _ => by decide⟩, rfl⟩
  have h₁₀ := h₉.next (.act .client .receive)
    ⟨⟨fun _ _ hf => (by cases hf), fun _ _ _ ha => (by cases ha)⟩, ⟨rfl, nofun, nofun, trivial⟩, rfl⟩
  exact ⟨_, h₁₀.of_restrict, rfl, (generations_apart h₁₀).listed rfl 1 _ rfl rfl rfl⟩

/-- Freed after the restart, the old proxy takes the entry of the new one with it, which the next kill then leaves
    valid; sent, it reaches whatever has its number at the new viewer. -/
theorem outlived_proxy_strays :
    (∃ b, bridge.Reachable b ∧ b.up = false ∧ ∃ x ∈ (b.peer .client).proxies, x.isFreed = false ∧ x.isValid = true) ∧
    ∃ b, bridge.Reachable b ∧ b.generation = 1 ∧ b.incoming .server = [.receiverOwned 1 false 0 0] ∧
      (b.peer .server).npobjectLookupLocal 1 = some 0 := by
  have h₀ := Machine.Reachable.init (m := bridge) (s := .joined) rfl
  have h₁ := h₀.next (.act .server .create) ⟨⟨rfl, fun _ => rfl, nofun, trivial⟩, rfl⟩
  have h₂ := h₁.next (.act .server (.send (some (.local 0)) false))
    ⟨⟨rfl, fun _ => rfl, fun _ => rfl, ⟨_, rfl, by decide⟩, fun _ _ => by decide⟩, rfl⟩
  have h₃ := h₂.next (.act .client .receive) ⟨⟨rfl, nofun, nofun, trivial⟩, rfl⟩
  have h₄ := h₃.next .kill ⟨rfl, rfl⟩
  have h₅ := h₄.next .start ⟨⟨rfl, rfl⟩, rfl⟩
  have h₆ := h₅.next (.act .server .create) ⟨⟨rfl, fun _ => rfl, nofun, trivial⟩, rfl⟩
  have h₇ := h₆.next (.act .server (.send (some (.local 0)) false))
    ⟨⟨rfl, fun _ => rfl, fun _ => rfl, ⟨_, rfl, by decide⟩, fun _ _ => by decide⟩, rfl⟩
  have h₈ := h₇.next (.act .client .receive) ⟨⟨rfl, nofun, nofun, trivial⟩, rfl⟩
  have k₉ := h₈.next (.act .client (.send (some (.proxy 0)) false))
    ⟨⟨rfl, nofun, fun _ => rfl, ⟨_, rfl, by decide⟩, nofun⟩, rfl⟩
  have h₉ := h₈.next (.act .client (.release (.proxy 0) true)) ⟨⟨rfl, nofun, fun _ => rfl, ⟨_, rfl, by decide⟩⟩, rfl⟩
  have h₁₀ := h₉.next (.act .client (.free 0)) ⟨⟨rfl, nofun, nofun, ⟨_, rfl, rfl, rfl⟩⟩, rfl⟩
  have h₁₁ := h₁₀.next .kill ⟨rfl, rfl⟩
  refine ⟨⟨_, h₁₁, rfl, _, List.mem_cons_of_mem _ List.mem_cons_self, rfl, rfl⟩, _, k₉, rfl, rfl, rfl⟩

end NSPluginWrapper
