import Mathlib.Data.List.Count
import NSPluginWrapper.Plugin.Viewer
import NSPluginWrapper.Theorems.Wrapper

/-! Who holds the references to a connection, on either side. -/

namespace NSPluginWrapper
open Lib

namespace Wrapper
variable {w w' : Wrapper} {c i : Nat} {f : Connection → Connection}

/-- Each connection's references, and whether `g_rpc_connection`'s is among them. -/
def ledger (w : Wrapper) : List (Nat × Bool) := w.connections.map fun conn => (conn.refcnt, conn.owned)

/-- The sources ever made on a connection. -/
def made (w : Wrapper) (c : Nat) : Nat := (w.sources.map (·.connection)).count c

/-- The plugin instances on a connection. -/
def instancesOn (w : Wrapper) (c : Nat) : Nat := w.instances.countP (·.connection = some c)

/-- What is true of the references in every run: a source that was made keeps its reference, and so does
    `g_rpc_connection` until plugin_exit(). -/
structure Counted (w : Wrapper) : Prop where
  refcnt : ∀ c n owned, w.ledger[c]? = some (n, owned) → n = owned.toNat + w.made c + w.instancesOn c
  refs : ∀ s ∈ w.sources, s.refs = 1 + s.attached.toNat
  sources : ∀ s ∈ w.sources, s.connection < w.ledger.length
  instances : ∀ p ∈ w.instances, ∀ c, p.connection = some c → c < w.ledger.length
  owned : ∀ c, w.rpcConnection = some c → ∃ n, w.ledger[c]? = some (n, true)

theorem onConnection_ledger {g : Nat × Bool → Nat × Bool}
    (h : ∀ conn, ((f conn).refcnt, (f conn).owned) = g (conn.refcnt, conn.owned)) :
    (w.onConnection c f).ledger = w.ledger.modify c g := map_modify h

theorem onConnection_ledger_of_eq (h : ∀ conn, ((f conn).refcnt, (f conn).owned) = (conn.refcnt, conn.owned)) :
    (w.onConnection c f).ledger = w.ledger := map_modify_of_eq h

/-- A function that moves no reference keeps the account. -/
theorem Counted.of_eq (h : w.Counted) (hl : w'.ledger = w.ledger) (hs : w'.sources = w.sources)
    (hi : w'.instances = w.instances) (hr : w'.rpcConnection = none ∨ w'.rpcConnection = w.rpcConnection) :
    w'.Counted := by
  refine ⟨?_, hs ▸ h.refs, hl ▸ hs ▸ h.sources, hl ▸ hi ▸ h.instances, ?_⟩
  · intro c n owned hc
    have := h.refcnt c n owned (hl ▸ hc)
    rwa [made, instancesOn, hs, hi]
  · intro c hc
    rcases hr with hr | hr
    · rw [hr] at hc
      cases hc
    · rw [hl]
      exact h.owned c (hr ▸ hc)

/-- One connection's count changes by what its holders do. -/
theorem Counted.of_modify (h : w.Counted) {g : Nat → Nat} (hl : w'.ledger = w.ledger.modify c fun x => (g x.1, x.2))
    (hheld : ∀ d n (b : Nat), n = b + w.made d + w.instancesOn d →
      (if c = d then g n else n) = b + w'.made d + w'.instancesOn d)
    (hr : w'.rpcConnection = w.rpcConnection) (hrefs : ∀ s ∈ w'.sources, s.refs = 1 + s.attached.toNat)
    (hsources : ∀ s ∈ w'.sources, s.connection < w.ledger.length)
    (hinstances : ∀ p ∈ w'.instances, ∀ c, p.connection = some c → c < w.ledger.length) : w'.Counted := by
  have hlength : w'.ledger.length = w.ledger.length := by rw [hl, List.length_modify]
  refine ⟨?_, hrefs, hlength ▸ hsources, hlength ▸ hinstances, ?_⟩
  · intro d n owned hd
    rw [hl, List.getElem?_modify] at hd
    split at hd
    · rename_i heq
      subst heq
      obtain ⟨⟨n₀, o₀⟩, h₀, heq⟩ := Option.map_eq_some_iff.mp hd
      obtain ⟨rfl, rfl⟩ := Prod.mk.injEq .. ▸ heq
      simpa using hheld c n₀ _ (h.refcnt c n₀ o₀ h₀)
    · rename_i hne
      simpa [hne] using hheld d n _ (h.refcnt d n owned (by simpa using hd))
  · intro d hd
    obtain ⟨n, hn⟩ := h.owned d (hr ▸ hd)
    rw [hl, List.getElem?_modify, hn]
    split
    · exact ⟨_, rfl⟩
    · exact ⟨_, rfl⟩

/-! ### Sources -/

theorem Counted.gSourceNew (h : w.Counted) (hc : c < w.ledger.length) : (w.gSourceNew c).Counted := by
  refine h.of_modify (g := (· + 1)) (onConnection_ledger fun _ => rfl) ?_ rfl ?_ ?_ h.instances
  · intro d n b hn
    have hmade : (w.gSourceNew c).made d = w.made d + if c = d then 1 else 0 := by
      simp [made, Wrapper.gSourceNew, List.count_append, List.count_singleton]
    rw [hmade]
    show _ = _ + w.instancesOn d
    split <;> omega
  · intro s hs
    rcases List.mem_append.mp hs with hs | hs
    · exact h.refs s hs
    · obtain rfl := List.mem_singleton.mp hs
      rfl
  · intro s hs
    rcases List.mem_append.mp hs with hs | hs
    · exact h.sources s hs
    · obtain rfl := List.mem_singleton.mp hs
      exact hc

/-- An update of a source that keeps its connection and what it counts for. -/
theorem Counted.modifySource (h : w.Counted) {k : RpcSource → RpcSource} (hk : ∀ s, (k s).connection = s.connection)
    (hrefs : ∀ s, w.sources[i]? = some s → (k s).refs = 1 + (k s).attached.toNat) :
    Counted { w with sources := w.sources.modify i k } := by
  have hmade : ∀ d, made { w with sources := w.sources.modify i k } d = w.made d := by
    intro d
    exact congrArg (List.count d) (map_modify_of_eq hk)
  refine ⟨fun d n owned hd => ?_, forall_mem_modify (fun _ s _ hs => h.refs s (List.mem_of_getElem? hs)) hrefs, ?_,
    h.instances, h.owned⟩
  · rw [hmade]
    exact h.refcnt d n owned hd
  · refine forall_mem_modify (fun _ s _ hs => h.sources s (List.mem_of_getElem? hs)) fun s hs => ?_
    rw [hk]
    exact h.sources s (List.mem_of_getElem? hs)

theorem Counted.gSourceAttach (h : w.Counted) (hi : ∀ s, w.sources[i]? = some s → s.attached = false) :
    (w.gSourceAttach i).Counted := by
  refine h.modifySource (fun _ => rfl) fun s hs => ?_
  have := h.refs s (List.mem_of_getElem? hs)
  simp_all

/-- Destroying a source leaves its creator's reference, so that nothing finalizes it. -/
theorem Counted.gSourceDestroy (h : w.Counted) : (w.gSourceDestroy i).Counted := by
  unfold Wrapper.gSourceDestroy
  cases hs : w.sources[i]? with
  | none => exact h
  | some s =>
    have hrefs := h.refs s (List.mem_of_getElem? hs)
    dsimp only
    split
    · exact h
    · rename_i ha
      have ha : s.attached = true := by simpa using ha
      rw [ha] at hrefs
      rw [if_neg (by rw [hrefs]; decide)]
      refine h.modifySource (fun _ => rfl) fun s' hs' => ?_
      obtain rfl := Option.some.inj (hs.symm.trans hs')
      rw [hrefs]
      rfl

/-! ### The end of a viewer -/

theorem Counted.destroyRpcSource (h : w.Counted) : w.destroyRpcSource.Counted := by
  unfold Wrapper.destroyRpcSource
  cases w.rpcSource with
  | none => exact h
  | some i => exact h.gSourceDestroy.of_eq rfl rfl rfl (.inr rfl)

theorem Counted.destroyRpcSyncSource (h : w.Counted) : w.destroyRpcSyncSource.Counted := by
  unfold Wrapper.destroyRpcSyncSource
  cases w.rpcSyncSource with
  | none => exact h
  | some i => exact h.gSourceDestroy.of_eq rfl rfl rfl (.inr rfl)

theorem Counted.dropConnection (h : w.Counted) : w.dropConnection.Counted := by
  unfold Wrapper.dropConnection
  cases hr : w.rpcConnection with
  | none => exact h
  | some c =>
    obtain ⟨n, hn⟩ := h.owned c hr
    have hledger : (w.onConnection c .pluginExit).ledger =
        w.ledger.modify c fun x => if x.2 then (x.1 - 1, false) else x := by
      refine onConnection_ledger fun conn => ?_
      unfold Connection.pluginExit
      cases ho : conn.owned <;> simp [ho, Connection.unref]
    have hlength : (w.onConnection c .pluginExit).ledger.length = w.ledger.length := by
      rw [hledger, List.length_modify]
    refine ⟨fun d m owned hd => ?_, h.refs, hlength ▸ h.sources, hlength ▸ h.instances, nofun⟩
    have hd : (w.onConnection c .pluginExit).ledger[d]? = some (m, owned) := hd
    rw [hledger, List.getElem?_modify] at hd
    split at hd
    · rename_i heq
      subst heq
      rw [hn] at hd
      cases hd
      have := h.refcnt c n true hn
      show n - 1 = false.toNat + w.made c + w.instancesOn c
      rw [this]
      simp only [Bool.toNat_true, Bool.toNat_false]
      omega
    · exact h.refcnt d m owned (by simpa using hd)

theorem Counted.pluginExit (h : w.Counted) : w.pluginExit.Counted := by
  have hx : Counted { w with xtSources := false } := h.of_eq rfl rfl rfl (.inr rfl)
  exact hx.destroyRpcSource.destroyRpcSyncSource.dropConnection.of_eq rfl rfl rfl (.inr rfl)

theorem Counted.pluginKill (h : w.Counted) : w.pluginKill.Counted := h.pluginExit.of_eq rfl rfl rfl (.inr rfl)

/-! ### The start of one -/

/-- A source that is made and attached at once. -/
theorem Counted.attachNew (h : w.Counted) (hc : c < w.ledger.length) :
    ((w.gSourceNew c).gSourceAttach w.sources.length).Counted := by
  refine (h.gSourceNew hc).gSourceAttach fun s hs => ?_
  have hs : (w.sources ++ [{ connection := c, refs := 1, attached := false }])[w.sources.length]? = some s := hs
  rw [List.getElem?_append_right (Nat.le_refl _), Nat.sub_self] at hs
  cases hs
  rfl

theorem attachNew_ledger_length : ((w.gSourceNew c).gSourceAttach i).ledger.length = w.ledger.length := by
  simp [ledger, Wrapper.gSourceAttach, Wrapper.gSourceNew, onConnection]

theorem Counted.listen (h : w.Counted) (hc : c < w.ledger.length) (listener : Listener) :
    (w.listen c listener).Counted := by
  cases listener with
  | glib =>
    have hfirst : Counted { (w.gSourceNew c).gSourceAttach w.sources.length with rpcSource := some w.sources.length } :=
      (h.attachNew hc).of_eq rfl rfl rfl (.inr rfl)
    refine (hfirst.attachNew (c := c) ?_).of_eq rfl rfl rfl (.inr rfl)
    show c < ((w.gSourceNew c).gSourceAttach w.sources.length).ledger.length
    rwa [attachNew_ledger_length]
  | xt => exact h.of_eq rfl rfl rfl (.inr rfl)
  | missing => exact h

/-- A new connection has the one reference of `g_rpc_connection`. -/
theorem Counted.connected (h : w.Counted) (hl : w'.ledger = w.ledger ++ [(1, true)]) (hs : w'.sources = w.sources)
    (hi : w'.instances = w.instances) (hr : w'.rpcConnection = some w.ledger.length) : w'.Counted := by
  refine ⟨?_, hs ▸ h.refs, ?_, ?_, ?_⟩
  · intro c n owned hc
    rw [made, instancesOn, hs, hi]
    rw [hl, List.getElem?_append] at hc
    split at hc
    · exact h.refcnt c n owned hc
    · rename_i hge
      obtain ⟨hlt, hc⟩ := List.getElem?_eq_some_iff.mp hc
      obtain rfl : c = w.ledger.length := by
        simp only [List.length_singleton] at hlt
        omega
      simp only [Nat.sub_self, List.getElem_cons_zero, Prod.mk.injEq] at hc
      obtain ⟨rfl, rfl⟩ := hc
      have hmade : w.made w.ledger.length = 0 := by
        refine List.count_eq_zero.mpr fun hmem => ?_
        obtain ⟨s, hs, heq⟩ := List.mem_map.mp hmem
        exact absurd (h.sources s hs) (by omega)
      have hinstances : w.instancesOn w.ledger.length = 0 := by
        refine List.countP_eq_zero.mpr fun p hp heq => ?_
        exact absurd (h.instances p hp _ (by simpa using heq)) (Nat.lt_irrefl _)
      rw [made] at hmade
      rw [instancesOn] at hinstances
      rw [hmade, hinstances]
      rfl
  · rw [hs, hl, List.length_append]
    exact fun s hs => Nat.lt_add_right _ (h.sources s hs)
  · rw [hi, hl, List.length_append]
    exact fun p hp c hc => Nat.lt_add_right _ (h.instances p hp c hc)
  · intro c hc
    obtain rfl := Option.some.inj (hr.symm.trans hc)
    exact ⟨1, by simp [hl]⟩

theorem Counted.startViewer (h : w.Counted) (v : ViewerStart) : (w.startViewer v).Counted := by
  cases v with
  | unforked => exact h.of_eq rfl rfl rfl (.inl rfl)
  | unreachable => exact h.of_eq rfl rfl rfl (.inl rfl)
  | connected registers listener =>
    have hlength : w.connections.length = w.ledger.length := by simp [ledger]
    unfold Wrapper.startViewer
    dsimp only
    have hnew : Counted { w with viewerPid := some w.viewers, viewers := w.viewers + 1,
                                 rpcConnection := some w.connections.length,
                                 connections := w.connections ++ [.rpcInit .client] } :=
      h.connected (by simp [ledger, Connection.rpcInit]) rfl rfl (by rw [hlength])
    split
    · exact hnew
    · have hlisten := hnew.listen (c := w.connections.length) (by simp [ledger]) listener
      split
      · exact hlisten
      · refine hlisten.of_eq (onConnection_ledger_of_eq fun conn => ?_) rfl rfl (.inr rfl)
        unfold Connection.setErrorCallback
        split <;> rfl

theorem Counted.pluginInit (h : w.Counted) (b : Bool) (o : Startup) : (w.pluginInit b o).Counted :=
  pluginInit_rule (fun _ _ _ h => h.of_eq rfl rfl rfl (.inr rfl)) (fun _ v h => h.startViewer v) h b o

theorem Counted.pluginStart (h : w.Counted) (o : Startup) : (w.pluginStart o).Counted :=
  pluginStart_rule (fun _ h => h.of_eq rfl rfl rfl (.inr rfl)) (fun _ b o h => h.pluginInit b o)
    (fun _ h => h.pluginKill) h o

theorem Counted.npInitialize (h : w.Counted) (o₀ o₁ : Startup) : (w.npInitialize o₀ o₁).Counted :=
  npInitialize_rule (fun _ b o h => h.pluginInit b o) h o₀ o₁

/-! ### Instances -/

theorem Counted.nppNew (h : w.Counted) (instanceId : Nat) : (w.nppNew instanceId).Counted := by
  unfold Wrapper.nppNew
  dsimp only
  cases hr : w.rpcConnection with
  | none =>
    refine ⟨fun c n owned hc => ?_, h.refs, h.sources, ?_, fun c hc => ?_⟩
    · have hinstances : ∀ w' : Wrapper, w'.instances = w.instances ++ [⟨instanceId, none⟩] →
          w'.instancesOn c = w.instancesOn c := fun w' hw' => by simp [instancesOn, hw', List.countP_append]
      show n = owned.toNat + w.made c + _
      rw [hinstances _ rfl]
      exact h.refcnt c n owned hc
    · intro p hp c hc
      rcases List.mem_append.mp hp with hp | hp
      · exact h.instances p hp c hc
      · obtain rfl := List.mem_singleton.mp hp
        cases hc
    · cases hc
  | some c =>
    obtain ⟨n, hn⟩ := h.owned c hr
    have hc : c < w.ledger.length := (List.getElem?_eq_some_iff.mp hn).1
    refine h.of_modify (c := c) (g := (· + 1)) (onConnection_ledger fun _ => rfl) ?_ hr.symm h.refs h.sources ?_
    · intro d m b hm
      have hinstances : ∀ w' : Wrapper, w'.instances = w.instances ++ [⟨instanceId, some c⟩] →
          w'.instancesOn d = w.instancesOn d + if c = d then 1 else 0 := by
        intro w' hw'
        simp [instancesOn, hw', List.countP_append, List.countP_singleton]
      show _ = b + w.made d + _
      rw [hinstances _ rfl]
      split <;> omega
    · intro p hp d hd
      rcases List.mem_append.mp hp with hp | hp
      · exact h.instances p hp d hd
      · obtain rfl := List.mem_singleton.mp hp
        cases hd
        exact hc

theorem Counted.nppDestroy (h : w.Counted) {plugin : PluginInstance} (hp : plugin ∈ w.instances) :
    (w.nppDestroy plugin).Counted := by
  unfold Wrapper.nppDestroy
  dsimp only
  cases hc : plugin.connection with
  | none =>
    refine ⟨fun c n owned hn => ?_, h.refs, h.sources, fun p hp => h.instances p (List.mem_of_mem_erase hp), h.owned⟩
    have hinstances : ∀ w' : Wrapper, w'.instances = w.instances.erase plugin →
        w'.instancesOn c = w.instancesOn c := fun w' hw' => by simp [instancesOn, hw', List.countP_erase, hc]
    show n = owned.toNat + w.made c + _
    rw [hinstances _ rfl]
    exact h.refcnt c n owned hn
  | some c =>
    refine h.of_modify (c := c) (g := (· - 1)) (onConnection_ledger fun _ => rfl) ?_ rfl h.refs h.sources
      fun p hp => h.instances p (List.mem_of_mem_erase hp)
    intro d m b hm
    have hinstances : ∀ w' : Wrapper, w'.instances = w.instances.erase plugin →
        w'.instancesOn d = w.instancesOn d - if c = d then 1 else 0 := by
      intro w' hw'
      simp [instancesOn, hw', List.countP_erase, hc, hp]
    have hpos : c = d → 0 < w.instancesOn d := by
      rintro rfl
      exact List.countP_pos_iff.mpr ⟨plugin, hp, by simpa using hc⟩
    show _ = b + w.made d + _
    rw [hinstances _ rfl]
    split
    · rename_i heq
      have := hpos heq
      omega
    · omega

/-! ### Runs -/

theorem Counted.rpcError (h : w.Counted) (error : Int) : (w.rpcError c error).Counted := by
  have hmarked : Counted (w.onConnection c fun conn => conn.touch.setStatus error) := by
    refine h.of_eq (onConnection_ledger_of_eq fun conn => ?_) rfl rfl (.inr rfl)
    unfold Connection.setStatus
    split <;> rfl
  unfold Wrapper.rpcError
  dsimp only
  split
  · exact hmarked
  · split
    · exact hmarked
    · refine Counted.pluginKill (hmarked.of_eq (onConnection_ledger_of_eq fun conn => ?_) rfl rfl (.inr rfl))
      unfold Connection.setErrorCallback
      split <;> rfl

theorem counted_step {e : WrapperEvent} (h : w.Counted) (hs : wrapper.step w e w') : w'.Counted := by
  obtain ⟨he, rfl⟩ := hs
  cases e with
  | getInfo o => exact h.pluginInit false o
  | npInitialize o₀ o₁ => exact h.npInitialize o₀ o₁
  | npShutdown => exact h.pluginExit
  | pluginStart o => exact h.pluginStart o
  | nppNew instanceId => exact h.nppNew instanceId
  | nppDestroy plugin => exact h.nppDestroy he
  | sourceRemoved i => exact h.gSourceDestroy
  | rpcError c error => exact h.rpcError error

theorem counted_of_reachable (h : wrapper.Reachable w) : w.Counted := by
  refine h.invariant Counted ?_ ?_
  · rintro _ rfl
    exact ⟨fun c n owned hc => by simp [loaded, ledger] at hc, nofun, nofun, nofun, nofun⟩
  · intro w e w' _ h hs
    exact counted_step h hs

/-! ### The account that is asked for -/

/-- The owner's reference. -/
def ownedOn (w : Wrapper) (c : Nat) : Nat := if w.rpcConnection = some c then 1 else 0

/-- The attached event sources of a connection. -/
def attachedOn (w : Wrapper) (c : Nat) : Nat := w.sources.countP fun s => s.attached ∧ s.connection = c

/-- The references to each connection are its owner's, those of its attached sources and those of its plugin
    instances. -/
def Accounted (w : Wrapper) : Prop := ∀ c conn, w.connections[c]? = some conn →
  conn.refcnt = w.ownedOn c + w.attachedOn c + w.instancesOn c

/-- No source was destroyed, and `g_rpc_connection` was not overwritten. -/
structure Unspent (w : Wrapper) : Prop where
  attached : ∀ s ∈ w.sources, s.attached = true
  owner : ∀ c conn, w.connections[c]? = some conn → conn.owned = true → w.rpcConnection = some c

theorem attachedOn_eq : w.attachedOn c = (w.sources.filter (·.connection = c)).countP (·.attached) := by
  rw [attachedOn, List.countP_filter]
  simp only [Bool.decide_and, Bool.decide_eq_true]

theorem made_eq : w.made c = (w.sources.filter (·.connection = c)).length := by
  rw [made, List.count, List.countP_map, List.countP_eq_length_filter]
  congr 2

theorem attachedOn_le : w.attachedOn c ≤ w.made c := by
  rw [attachedOn_eq, made_eq]
  exact List.countP_le_length

theorem attachedOn_eq_made : w.attachedOn c = w.made c ↔ ∀ s ∈ w.sources, s.connection = c → s.attached = true := by
  rw [attachedOn_eq, made_eq, List.countP_eq_length]
  simp only [List.mem_filter, decide_eq_true_eq, and_imp]

/-- The account is right exactly where no holder's reference was lost. -/
theorem accounted_iff (h : w.Counted) : w.Accounted ↔ w.Unspent := by
  have hledger : ∀ (c : Nat) conn, w.connections[c]? = some conn → w.ledger[c]? = some (conn.refcnt, conn.owned) := by
    intro c conn hc
    rw [ledger, List.getElem?_map, hc]
    rfl
  have howned : ∀ c n owned, w.ledger[c]? = some (n, owned) → w.ownedOn c ≤ owned.toNat := by
    intro c n owned hc
    unfold ownedOn
    split
    · rename_i hcur
      obtain ⟨m, hm⟩ := h.owned c hcur
      obtain ⟨-, rfl⟩ := Prod.mk.injEq .. ▸ Option.some.inj (hc.symm.trans hm)
      exact Nat.le_refl 1
    · exact Nat.zero_le _
  refine ⟨fun ha => ⟨fun s hs => ?_, fun c conn hc ho => ?_⟩, fun hu c conn hc => ?_⟩
  · have hlt := h.sources s hs
    rw [ledger, List.length_map] at hlt
    have hconn := List.getElem?_eq_getElem hlt
    have hcount := h.refcnt _ _ _ (hledger _ _ hconn)
    rw [ha _ _ hconn] at hcount
    have := howned _ _ _ (hledger _ _ hconn)
    have := attachedOn_le (w := w) (c := s.connection)
    exact attachedOn_eq_made.mp (by omega) s hs rfl
  · have hcount := h.refcnt _ _ _ (hledger _ _ hc)
    rw [ha _ _ hc, ho] at hcount
    have := attachedOn_le (w := w) (c := c)
    by_contra hcur
    simp only [ownedOn, hcur, if_false, Bool.toNat_true] at hcount
    omega
  · rw [h.refcnt _ _ _ (hledger _ _ hc), attachedOn_eq_made.mpr fun s hs _ => hu.attached s hs]
    have hle := howned _ _ _ (hledger _ _ hc)
    cases ho : conn.owned with
    | false =>
      rw [ho] at hle
      simp only [Bool.toNat_false] at hle ⊢
      omega
    | true =>
      simp [ownedOn, hu.owner c conn hc ho]

/-- plugin_exit() finds no source to destroy. -/
def Unlistened (w : Wrapper) : Prop := w.rpcSource = none ∧ w.rpcSyncSource = none

/-- plugin_init(1) does not get to its fork, or there is no connection to overwrite. -/
def Vacant (w : Wrapper) (o : Startup) : Prop :=
  w.rpcConnection = none ∨ w.initialized < 0 ∨ w.informed = false ∧ o.info = none

/-- A step that destroys no attached source and overwrites no connection. -/
def Released (w : Wrapper) : WrapperEvent → Prop
  | .npInitialize _ o₁ => w.initialized = 1 → w.Vacant o₁
  | .npShutdown => w.Unlistened
  | .pluginStart o => if w.pluginKilled then w.Vacant o else w.Unlistened
  | .sourceRemoved _ => False
  | .rpcError c _ => (∃ conn, w.connections[c]? = some conn ∧ conn.errorCallback ≠ .unset) → w.Unlistened
  | _ => True

theorem Unspent.of_eq (h : w.Unspent) (hs : w'.sources = w.sources)
    (ho : w'.connections.map (·.owned) = w.connections.map (·.owned)) (hr : w'.rpcConnection = w.rpcConnection) :
    w'.Unspent := by
  refine ⟨hs ▸ h.attached, fun c conn hc howned => ?_⟩
  have hown := congrArg (·[c]?) ho
  simp only [List.getElem?_map, hc, Option.map_some, howned] at hown
  obtain ⟨conn₀, hconn₀, howned₀⟩ := Option.map_eq_some_iff.mp hown.symm
  rw [hr]
  exact h.owner c conn₀ hconn₀ howned₀

theorem Unspent.pluginExit (h : w.Unspent) (hu : w.Unlistened) : w.pluginExit.Unspent := by
  have hexit : w.pluginExit =
      { Wrapper.dropConnection { w with xtSources := false } with viewerPid := none, initialized := 0 } := by
    unfold Wrapper.pluginExit Wrapper.destroyRpcSource Wrapper.destroyRpcSyncSource
    simp only [hu.1, hu.2]
  rw [hexit]
  unfold Wrapper.dropConnection
  cases hr : w.rpcConnection with
  | none => exact h.of_eq rfl rfl hr.symm
  | some c =>
    refine ⟨h.attached, fun d conn hd howned => ?_⟩
    have hd : (w.connections.modify c .pluginExit)[d]? = some conn := hd
    rw [List.getElem?_modify] at hd
    split at hd
    · obtain ⟨conn₀, -, rfl⟩ := Option.map_eq_some_iff.mp hd
      unfold Connection.pluginExit at howned
      split at howned
      · cases howned
      · rename_i hnot
        exact absurd howned hnot
    · rename_i hne
      have hcur := h.owner d conn (by simpa using hd) howned
      exact absurd (Option.some.inj (hr.symm.trans hcur)) hne

theorem Unspent.pluginKill (h : w.Unspent) (hu : w.Unlistened) : w.pluginKill.Unspent :=
  (h.pluginExit hu).of_eq rfl rfl rfl

theorem Unspent.attachNew (h : w.Unspent) : ((w.gSourceNew c).gSourceAttach w.sources.length).Unspent := by
  have howned : ((w.gSourceNew c).gSourceAttach w.sources.length).connections.map (·.owned) =
      w.connections.map (·.owned) := map_modify_of_eq fun _ => rfl
  have hsame : { (w.gSourceNew c).gSourceAttach w.sources.length with sources := w.sources }.Unspent := h.of_eq rfl howned rfl
  refine ⟨?_, hsame.owner⟩
  refine forall_mem_modify (fun j s hj hs => ?_) fun _ _ => rfl
  have hs : (w.sources ++ [{ connection := c, refs := 1, attached := false }])[j]? = some s := hs
  rw [List.getElem?_append] at hs
  split at hs
  · exact h.attached s (List.mem_of_getElem? hs)
  · rename_i hge
    rw [List.getElem?_singleton, if_neg (by omega)] at hs
    cases hs

theorem Unspent.listen (h : w.Unspent) (listener : Listener) : (w.listen c listener).Unspent := by
  cases listener with
  | glib =>
    have hfirst : Unspent { (w.gSourceNew c).gSourceAttach w.sources.length with rpcSource := some w.sources.length } :=
      (h.attachNew (c := c)).of_eq rfl rfl rfl
    exact (hfirst.attachNew (c := c)).of_eq rfl rfl rfl
  | xt => exact h.of_eq rfl rfl rfl
  | missing => exact h

theorem Unspent.startViewer (h : w.Unspent) (hr : w.rpcConnection = none) (v : ViewerStart) :
    (w.startViewer v).Unspent := by
  have hnone : ∀ (c : Nat) conn, w.connections[c]? = some conn → conn.owned ≠ true := by
    intro c conn hc howned
    have := h.owner c conn hc howned
    rw [hr] at this
    cases this
  cases v with
  | unforked => exact h.of_eq rfl rfl hr.symm
  | unreachable => exact h.of_eq rfl rfl hr.symm
  | connected registers listener =>
    unfold Wrapper.startViewer
    dsimp only
    have hnew : Unspent { w with viewerPid := some w.viewers, viewers := w.viewers + 1,
                                 rpcConnection := some w.connections.length,
                                 connections := w.connections ++ [.rpcInit .client] } := by
      refine ⟨h.attached, fun c conn hc howned => ?_⟩
      rw [List.getElem?_append] at hc
      split at hc
      · exact absurd howned (hnone c conn hc)
      · obtain ⟨hlt, -⟩ := List.getElem?_eq_some_iff.mp hc
        simp only [List.length_singleton] at hlt
        exact congrArg some (by omega)
    split
    · exact hnew
    · have hlisten := hnew.listen (c := w.connections.length) listener
      split
      · exact hlisten
      · refine hlisten.of_eq rfl (map_modify_of_eq fun conn => ?_) rfl
        unfold Connection.setErrorCallback
        split <;> rfl

theorem Unspent.pluginInit (h : w.Unspent) {b : Bool} {o : Startup} (hv : b = true → w.Vacant o) :
    (w.pluginInit b o).Unspent := by
  have hset : ∀ (n : Int) (told : Bool), Unspent { w with initialized := n, informed := told } := fun _ _ =>
    h.of_eq rfl rfl rfl
  unfold Wrapper.pluginInit cacheInfo
  split
  · exact h
  · rename_i hge
    dsimp only
    split
    · exact hset (-1) w.informed
    · rename_i w₁ hw₁
      have h₁ : w₁.Unspent ∧ w₁.rpcConnection = w.rpcConnection ∧ (w.informed = true ∨ o.info ≠ none) := by
        split at hw₁
        · rename_i hinformed
          obtain rfl := Option.some.inj hw₁
          exact ⟨hset (-1) w.informed, rfl, .inl hinformed⟩
        · obtain ⟨told, htold, rfl⟩ := Option.map_eq_some_iff.mp hw₁
          exact ⟨hset 1 told, rfl, .inr (htold ▸ nofun)⟩
      split
      · exact h₁.1
      · rename_i hb
        refine h₁.1.startViewer ?_ o.viewer
        rcases hv (by simpa using hb) with hnone | hlt | ⟨hinformed, hinfo⟩
        · rw [h₁.2.1, hnone]
        · exact absurd hlt hge
        · rcases h₁.2.2 with h₂ | h₂
          · rw [hinformed] at h₂
            cases h₂
          · exact absurd hinfo h₂

/-- plugin_init() leaves a wrapper that is not as new. -/
theorem pluginInit_initialized {b : Bool} {o : Startup} (h : (w.pluginInit b o).initialized = 0) : False := by
  have hstart : ∀ (w : Wrapper) v, (w.startViewer v).initialized = w.initialized ∨ (w.startViewer v).initialized = 2 := by
    intro w v
    cases v with
    | unforked => exact .inl rfl
    | unreachable => exact .inl rfl
    | connected registers listener =>
      unfold Wrapper.startViewer
      dsimp only
      split
      · exact .inl rfl
      · split
        · exact .inl (by cases listener <;> rfl)
        · exact .inr rfl
  unfold Wrapper.pluginInit cacheInfo at h
  split at h
  · omega
  · dsimp only at h
    split at h
    · cases h
    · rename_i w₁ hw₁
      have h₁ : w₁.initialized = -1 ∨ w₁.initialized = 1 := by
        split at hw₁
        · obtain rfl := Option.some.inj hw₁
          exact .inl rfl
        · obtain ⟨told, -, rfl⟩ := Option.map_eq_some_iff.mp hw₁
          exact .inr rfl
      split at h
      · omega
      · rcases hstart w₁ o.viewer with h₂ | h₂ <;> omega

theorem pluginInit_false_rpcConnection {o : Startup} : (w.pluginInit false o).rpcConnection = w.rpcConnection := by
  unfold Wrapper.pluginInit cacheInfo
  split
  · rfl
  · dsimp only
    split
    · rfl
    · rename_i w₁ hw₁
      split at hw₁
      · obtain rfl := Option.some.inj hw₁
        rfl
      · obtain ⟨told, -, rfl⟩ := Option.map_eq_some_iff.mp hw₁
        rfl

/-- The account holds, and a wrapper as new has no connection. -/
structure Level (w : Wrapper) : Prop where
  unspent : w.Unspent
  idle : w.initialized = 0 → w.rpcConnection = none

theorem Level.npInitialize (h : w.Level) {o₀ o₁ : Startup} (hr : w.initialized = 1 → w.Vacant o₁) :
    (w.npInitialize o₀ o₁).Level := by
  have hsecond : ∀ w : Wrapper, w.Level → (w.initialized = 1 → w.Vacant o₁) → Level (if w.initialized ≤ 0 then w
      else if w.initialized = 0 ∨ w.initialized = 1 then w.pluginInit true o₁ else w) := by
    intro w h hv
    split
    · exact h
    · split
      · rename_i hone
        refine ⟨h.unspent.pluginInit fun _ => ?_, fun hz => (pluginInit_initialized hz).elim⟩
        exact hv (by omega)
      · exact h
  refine hsecond _ ?_ ?_
  · split
    · exact ⟨h.unspent.pluginInit nofun, fun hz => (pluginInit_initialized hz).elim⟩
    · exact h
  · split
    · rename_i hz
      exact fun _ => .inl (pluginInit_false_rpcConnection.trans (h.idle hz))
    · exact hr

theorem Level.pluginStart (h : w.Level) {o : Startup} (hr : if w.pluginKilled then w.Vacant o else w.Unlistened) :
    (w.pluginStart o).Level := by
  refine ⟨?_, fun hz => (pluginInit_initialized hz).elim⟩
  unfold Wrapper.pluginStart
  split
  · rename_i hkilled
    rw [if_pos hkilled] at hr
    have hflag : Unspent { w with pluginKilled := false } := h.unspent.of_eq rfl rfl rfl
    exact hflag.pluginInit fun _ => hr
  · rename_i hkilled
    rw [if_neg hkilled] at hr
    have hflag : Unspent { w.pluginKill with pluginKilled := false } := (h.unspent.pluginKill hr).of_eq rfl rfl rfl
    exact hflag.pluginInit fun _ => .inl (pluginKill_rpcConnection (w := w))

theorem Level.nppNew (h : w.Level) (instanceId : Nat) : (w.nppNew instanceId).Level := by
  unfold Wrapper.nppNew
  dsimp only
  split
  · exact ⟨h.unspent.of_eq rfl rfl rfl, h.idle⟩
  · exact ⟨h.unspent.of_eq rfl (map_modify_of_eq fun _ => rfl) rfl, h.idle⟩

theorem Level.nppDestroy (h : w.Level) (plugin : PluginInstance) : (w.nppDestroy plugin).Level := by
  unfold Wrapper.nppDestroy
  dsimp only
  split
  · exact ⟨h.unspent.of_eq rfl rfl rfl, h.idle⟩
  · exact ⟨h.unspent.of_eq rfl (map_modify_of_eq fun _ => rfl) rfl, h.idle⟩

theorem Level.rpcError (h : w.Level) {error : Int} (hc : c < w.connections.length) (herror : error < 0)
    (hr : w.Released (.rpcError c error)) : (w.rpcError c error).Level := by
  have hconn := List.getElem?_eq_getElem hc
  have hmarked : Unspent (w.onConnection c fun conn => conn.touch.setStatus error) := by
    refine h.unspent.of_eq rfl (map_modify_of_eq fun conn => ?_) rfl
    unfold Connection.setStatus
    split <;> rfl
  rcases rpcError_cases herror hconn with ⟨-, heq⟩ | ⟨hset, heq⟩
  · rw [heq]
    exact ⟨hmarked, h.idle⟩
  · rw [heq]
    have hrun : Unspent ((w.onConnection c fun conn => conn.touch.setStatus error).onConnection c fun conn =>
        { conn.setErrorCallback .unset with callbacks := conn.callbacks + 1 }) := by
      refine hmarked.of_eq rfl (map_modify_of_eq fun conn => ?_) rfl
      unfold Connection.setErrorCallback
      split <;> rfl
    unfold Wrapper.pluginKillCb
    exact ⟨hrun.pluginKill (hr ⟨_, hconn, hset⟩), fun _ => pluginKill_rpcConnection⟩

theorem level_step {e : WrapperEvent} (h : w.Level) (hr : w.Released e) (hs : wrapper.step w e w') : w'.Level := by
  obtain ⟨he, rfl⟩ := hs
  cases e with
  | getInfo o => exact ⟨h.unspent.pluginInit nofun, fun hz => (pluginInit_initialized hz).elim⟩
  | npInitialize o₀ o₁ => exact h.npInitialize hr
  | npShutdown => exact ⟨h.unspent.pluginExit hr, fun _ => pluginExit_rpcConnection⟩
  | pluginStart o => exact h.pluginStart hr
  | nppNew instanceId => exact h.nppNew instanceId
  | nppDestroy plugin => exact h.nppDestroy plugin
  | sourceRemoved i => exact hr.elim
  | rpcError c error => exact h.rpcError he.1 he.2 hr

theorem level_of_reachable (h : (wrapper.restrict Released).Reachable w) : w.Level := by
  refine h.invariant Level ?_ ?_
  · rintro _ rfl
    exact ⟨⟨nofun, fun c conn hc => by simp [loaded] at hc⟩, fun _ => rfl⟩
  · intro w e w' _ h hs
    exact level_step h hs.1 hs.2

/-- Once a source was made on a connection, nothing frees it. -/
theorem unfreed_of_made (h : wrapper.Reachable w) {conn : Connection} (hc : w.connections[c]? = some conn)
    (hmade : 0 < w.made c) : 0 < conn.refcnt := by
  have hcount := (counted_of_reachable h).refcnt c conn.refcnt conn.owned (by rw [ledger, List.getElem?_map, hc]; rfl)
  omega

/-- A connection whose account is right is freed with its last holder, and not before. -/
theorem Accounted.freed_iff (h : w.Accounted) {conn : Connection} (hc : w.connections[c]? = some conn) :
    conn.refcnt = 0 ↔ w.rpcConnection ≠ some c ∧ w.attachedOn c = 0 ∧ w.instancesOn c = 0 := by
  rw [h c conn hc, ownedOn]
  split
  · rename_i hcur
    simp [hcur]
  · rename_i hcur
    simp [hcur]

end Wrapper

/-! ### The viewer -/

namespace Viewer
variable {v v' : Viewer}

/-- The references to the viewer's connection are main()'s and those of its plugin instances. -/
def Accounted (v : Viewer) : Prop := v.connection.refcnt = (!v.ended).toNat + v.instances.length

/-- handle_NPP_New() makes an instance, and handle_NPP_Destroy() finds one to destroy. -/
def Paired (v : Viewer) : ViewerEvent → Prop
  | .nppNew _ outcome => outcome ≠ .unread ∧ outcome ≠ .noInstance
  | .nppDestroy instanceId read =>
    read = true → ∃ plugin, v.instances.find? (·.instanceId == instanceId) = some plugin ∧ plugin.hasNPP = true
  | .exit => True

/-- A step keeps the account exactly where references and instances come and go in pairs. -/
theorem paired_iff {e : ViewerEvent} (h : v.Accounted) (ho : v.connection.owned = !v.ended) (hs : viewer.step v e v') :
    v.Paired e ↔ v'.Accounted := by
  obtain ⟨hlive, rfl⟩ := hs
  have hcount : v.connection.refcnt = 1 + v.instances.length := by
    rw [h, hlive]
    rfl
  cases e with
  | nppNew instanceId outcome =>
    cases outcome <;>
      simp [Paired, Accounted, exec, handleNPPNew, Connection.ref, Connection.touch, hcount, hlive] <;> omega
  | nppDestroy instanceId read =>
    cases read with
    | false => simp [Paired, Accounted, exec, handleNPPDestroy, hcount, hlive]
    | true =>
      cases hfind : v.instances.find? (·.instanceId == instanceId) with
      | none => simp [Paired, Accounted, exec, handleNPPDestroy, Connection.unref, Connection.touch, hfind, hcount, hlive]
      | some plugin =>
        have hmem := List.mem_of_find?_eq_some hfind
        have hpos := List.length_pos_of_mem hmem
        cases hnpp : plugin.hasNPP with
        | false =>
          simp [Paired, Accounted, exec, handleNPPDestroy, Connection.unref, Connection.touch, hfind, hnpp, hcount, hlive]
        | true =>
          simp [Paired, Accounted, exec, handleNPPDestroy, Connection.unref, Connection.touch, hfind, hnpp, hcount, hlive,
            List.length_erase_of_mem hmem]
          omega
  | exit =>
    simp [Paired, Accounted, exec, Viewer.exit, Connection.pluginExit, Connection.unref, Connection.touch, ho, hcount, hlive]

theorem step_owned {e : ViewerEvent} (ho : v.connection.owned = !v.ended) (hs : viewer.step v e v') :
    v'.connection.owned = !v'.ended := by
  obtain ⟨hlive, rfl⟩ := hs
  cases e with
  | nppNew instanceId outcome => cases outcome <;> exact ho
  | nppDestroy instanceId read =>
    unfold exec handleNPPDestroy
    dsimp only
    split
    · exact ho
    · split
      · exact ho
      · split <;> exact ho
  | exit =>
    rw [hlive] at ho
    simp [exec, Viewer.exit, Connection.pluginExit, ho]

theorem accounted_of_reachable (h : (viewer.restrict Paired).Reachable v) : v.Accounted := by
  refine (h.invariant (fun v => v.Accounted ∧ v.connection.owned = !v.ended) ?_ ?_).1
  · rintro _ rfl
    exact ⟨rfl, rfl⟩
  · intro v e v' _ ⟨ha, ho⟩ hs
    exact ⟨(paired_iff ha ho hs.2).mp hs.1, step_owned ho hs.2⟩

end Viewer

/-- The references to a connection on either side, in runs in which no attached source is destroyed, no connection
    overwritten, and each of the viewer's references is for an instance. -/
theorem references_accounted {w : Wrapper} (hw : (wrapper.restrict Wrapper.Released).Reachable w) {v : Viewer}
    (hv : (viewer.restrict Viewer.Paired).Reachable v) :
    (∀ c conn, w.connections[c]? = some conn →
      conn.refcnt = w.ownedOn c + w.attachedOn c + w.instancesOn c ∧
      (conn.refcnt = 0 ↔ w.rpcConnection ≠ some c ∧ w.attachedOn c = 0 ∧ w.instancesOn c = 0)) ∧
    v.connection.refcnt = (!v.ended).toNat + v.instances.length ∧
    (v.connection.refcnt = 0 ↔ v.ended = true ∧ v.instances = []) := by
  have ha := (Wrapper.accounted_iff (Wrapper.counted_of_reachable hw.of_restrict)).mpr (Wrapper.level_of_reachable hw).unspent
  have hviewer := Viewer.accounted_of_reachable hv
  refine ⟨fun c conn hc => ⟨ha c conn hc, ha.freed_iff hc⟩, hviewer, ?_⟩
  rw [Viewer.Accounted] at hviewer
  rw [hviewer]
  cases v.ended <;> simp

/-- On the main loop of GLib plugin_exit() leaves the references of two destroyed sources, and the connection is
    never closed. -/
theorem sources_leak : ∃ w, wrapper.Reachable w ∧ w.rpcConnection = none ∧ w.attachedOn 0 = 0 ∧ w.instancesOn 0 = 0 ∧
    ∃ conn, w.connections[0]? = some conn ∧ conn.refcnt = 2 := by
  let o : Startup := ⟨some true, .connected true .glib⟩
  have h₀ := Machine.Reachable.init (m := wrapper) (s := .loaded) rfl
  have h₁ := h₀.next (.npInitialize o o) ⟨trivial, rfl⟩
  have h₂ := h₁.next .npShutdown ⟨trivial, rfl⟩
  refine ⟨_, h₂, ?_, ?_, ?_, _, rfl, ?_⟩
  · rfl
  · decide
  · decide
  · rfl

/-- With Xt's input the last instance takes the connection with it, and so does the viewer's. -/
theorem references_returned : ∃ w v, wrapper.Reachable w ∧ viewer.Reachable v ∧
    (∃ conn, w.connections[0]? = some conn ∧ conn.refcnt = 0) ∧ v.connection.refcnt = 0 := by
  let o : Startup := ⟨some true, .connected true .xt⟩
  have h₀ := Machine.Reachable.init (m := wrapper.restrict Wrapper.Released) (s := .loaded) rfl
  have h₁ := h₀.next (.npInitialize o o) ⟨nofun, trivial, rfl⟩
  have h₂ := h₁.next (.nppNew 1) ⟨trivial, trivial, rfl⟩
  have h₃ := h₂.next .npShutdown ⟨⟨rfl, rfl⟩, trivial, rfl⟩
  have h₄ := h₃.next (.nppDestroy ⟨1, some 0⟩) ⟨trivial, List.mem_singleton.mpr rfl, rfl⟩
  have k₀ := Machine.Reachable.init (m := viewer.restrict Viewer.Paired) (s := .started) rfl
  have k₁ := k₀.next (.nppNew 1 .called) ⟨⟨nofun, nofun⟩, rfl, rfl⟩
  have k₂ := k₁.next (.nppDestroy 1 true) ⟨fun _ => ⟨_, rfl, rfl⟩, rfl, rfl⟩
  have k₃ := k₂.next .exit ⟨trivial, rfl, rfl⟩
  have h := references_accounted h₄ k₃
  have hfreed := (h.1 0 _ rfl).2.mpr ⟨by decide, by decide, by decide⟩
  have hclosed := h.2.2.mpr ⟨by decide, by decide⟩
  exact ⟨_, _, h₄.of_restrict, k₃.of_restrict, ⟨_, rfl, hfreed⟩, hclosed⟩

end NSPluginWrapper
