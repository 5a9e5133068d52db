import NSPluginWrapper.Theorems.Proxies

/-! Stubs and the proxies for them at the other end, over every run of two live ends. -/

namespace NSPluginWrapper
open Lib

variable {p p' q q' : Peer} {incoming outgoing : List NPObjectMessage} {m : NPObjectMessage}

/-- An end `p` with stubs, and the end `q` with the proxies for them; `incoming` is on its way to `p`, `outgoing` to
    `q`. Each stub has one holder: a proxy, a message that tells of it or a message that releases it. -/
structure Tied (p q : Peer) (incoming outgoing : List NPObjectMessage) : Prop where
  held : ∀ id, (p.npobjectLookupStub id).isSome.toNat =
    q.holding id + outgoing.countP (·.creates id) + incoming.countP (·.releases id)
  order : incoming.Pairwise fun m m' => ∀ id, m.releases id = true → m'.uses id = false
  found : ∀ id releaseStub target generation, .receiverOwned id releaseStub target generation ∈ incoming →
    p.npobjectLookupLocal id = some target
  made : ∀ id target, .senderOwned id target ∈ outgoing → p.madeFor id = some target
  proxies : ∀ k ∈ q.proxies.map (·.key), p.madeFor k.1 = some k.2.1

/-! ### What the end with the stubs does -/

/-- The messages that tell of no new stub. -/
def Uncreating (sent : List NPObjectMessage) : Prop := ∀ m ∈ sent, ∀ id target, m ≠ .senderOwned id target

theorem Uncreating.countP {sent : List NPObjectMessage} (h : Uncreating sent) (id : Nat) :
    sent.countP (·.creates id) = 0 := by
  refine List.countP_eq_zero.mpr fun m hm hc => ?_
  cases m with
  | senderOwned i target => exact h _ hm _ _ rfl
  | _ => cases hc

theorem Tied.of_stubs (h : Tied p q incoming outgoing) (hs : p'.stubs = p.stubs) {sent : List NPObjectMessage}
    (hsent : Uncreating sent) : Tied p' q incoming (outgoing ++ sent) := by
  refine ⟨fun id => ?_, h.order, fun id r target g hm => ?_, fun id target hm => ?_, fun k hk => ?_⟩
  · rw [Peer.lookupStub_congr hs, List.countP_append, hsent.countP, Nat.add_zero]
    exact h.held id
  · rw [Peer.npobjectLookupLocal, Peer.lookupStub_congr hs]
    exact h.found id r target g hm
  · rw [Peer.madeFor_congr (congrArg _ hs)]
    rcases List.mem_append.mp hm with hm | hm
    · exact h.made id target hm
    · exact absurd rfl (hsent _ hm id target)
  · rw [Peer.madeFor_congr (congrArg _ hs)]
    exact h.proxies k hk

theorem Tied.send_local (h : Tied p q incoming outgoing) {o : Nat} (hs : p'.stubs = p.stubs ++ [⟨o, true, 0⟩]) :
    Tied p' q incoming (outgoing ++ [.senderOwned (p.stubs.length + 1) o]) := by
  have hnew : p.npobjectLookupStub (p.stubs.length + 1) = none := by
    rw [Peer.npobjectLookupStub, List.getElem?_eq_none (Nat.le_refl _)]
    rfl
  refine ⟨fun id => ?_, h.order, fun id r target g hm => ?_, fun id target hm => ?_, fun k hk => ?_⟩
  · have hheld := h.held id
    rw [Peer.lookupStub_append hs, List.countP_append, List.countP_singleton]
    by_cases hid : id = p.stubs.length + 1
    · subst hid
      rw [hnew] at hheld
      simp only [Option.isSome_none, Bool.toNat_false] at hheld
      have hone : NPObjectMessage.creates (p.stubs.length + 1) (.senderOwned (p.stubs.length + 1) o) = true :=
        beq_self_eq_true _
      rw [if_pos rfl, if_pos hone]
      simp only [Option.isSome_some, Bool.toNat_true]
      omega
    · have hnone : NPObjectMessage.creates id (.senderOwned (p.stubs.length + 1) o) = false := by
        simpa [NPObjectMessage.creates] using Ne.symm hid
      rw [if_neg hid, hheld, if_neg (by simp [hnone])]
      omega
  · have hfound := h.found id r target g hm
    rw [Peer.npobjectLookupLocal, Peer.lookupStub_append hs]
    split
    · rename_i hid
      subst hid
      rw [Peer.npobjectLookupLocal, hnew] at hfound
      cases hfound
    · exact hfound
  · rcases List.mem_append.mp hm with hm | hm
    · exact Peer.madeFor_append hs (h.made id target hm)
    · cases List.mem_singleton.mp hm
      rw [Peer.madeFor, hs, List.getElem?_append_right (Nat.le_refl _), Nat.sub_self]
      rfl
  · exact Peer.madeFor_append hs (h.proxies k hk)

/-- The end with the stubs reads a message that releases none. -/
theorem Tied.read (h : Tied p q (m :: incoming) outgoing) (hm : ∀ id, m.releases id = false) (hs : p'.stubs = p.stubs) :
    Tied p' q incoming outgoing := by
  have hfirst : Tied p q incoming outgoing := by
    refine ⟨fun id => ?_, h.order.of_cons, fun id r target g hm => h.found id r target g (List.mem_cons_of_mem _ hm),
      h.made, h.proxies⟩
    have := h.held id
    rwa [List.countP_cons_of_neg (by simp [hm id])] at this
  have hnone : Uncreating [] := nofun
  have hquiet := hfirst.of_stubs hs hnone
  rwa [List.append_nil] at hquiet

/-- A stub that a message on its way releases is in the table. -/
theorem Tied.released_found (h : Tied p q (m :: incoming) outgoing) {id : Nat} (hm : m.releases id = true) :
    ∃ stub, p.npobjectLookupStub id = some stub := by
  have := h.held id
  rw [List.countP_cons_of_pos hm] at this
  cases hl : p.npobjectLookupStub id with
  | none =>
    rw [hl] at this
    simp at this
  | some stub => exact ⟨stub, rfl⟩

/-- It reads one that releases a stub, and destroys the stub. -/
theorem Tied.read_release (h : Tied p q (m :: incoming) outgoing) {id : Nat} (hm : m.releases id = true)
    (hother : ∀ id', m.releases id' = true → id' = id) {stub : NPObjectStub} (hl : p.npobjectLookupStub id = some stub)
    (hs : p'.stubs = (p.npobjectDestroyStubObj id stub).stubs) : Tied p' q incoming outgoing := by
  have hmade : ∀ id', p'.madeFor id' = p.madeFor id' := fun id' =>
    (Peer.madeFor_congr (congrArg _ hs) id').trans (Peer.madeFor_destroy id stub id')
  have hlookup : ∀ id', p'.npobjectLookupStub id' = if id' = id then none else p.npobjectLookupStub id' := fun id' =>
    (Peer.lookupStub_congr hs id').trans (Peer.lookupStub_destroy hl id')
  refine ⟨fun id' => ?_, h.order.of_cons, fun id' r target g hmem => ?_, fun id' target hmem => ?_, fun k hk => ?_⟩
  · have hheld := h.held id'
    rw [hlookup]
    by_cases hid : id' = id
    · subst hid
      rw [hl, List.countP_cons, if_pos hm] at hheld
      simp only [Option.isSome_some, Bool.toNat_true] at hheld
      have hrest : q.holding id' + outgoing.countP (·.creates id') + incoming.countP (·.releases id') = 0 := by omega
      rw [if_pos rfl, hrest]
      rfl
    · rw [List.countP_cons_of_neg fun hr => hid (hother id' hr)] at hheld
      rw [if_neg hid, hheld]
  · have huse := List.rel_of_pairwise_cons h.order hmem id hm
    have hid : id' ≠ id := by
      rintro rfl
      simp [NPObjectMessage.uses] at huse
    rw [Peer.npobjectLookupLocal, hlookup, if_neg hid]
    exact h.found id' r target g (List.mem_cons_of_mem _ hmem)
  · rw [hmade]
    exact h.made id' target hmem
  · rw [hmade]
    exact h.proxies k hk

/-! ### What the end with the proxies does -/

/-- A message that neither uses nor releases a stub of its receiver. -/
def Inert (m : NPObjectMessage) : Prop := ∀ id, m.releases id = false ∧ m.uses id = false

theorem Tied.of_keys (h : Tied p q incoming outgoing) (hk : q'.proxies.map (·.key) = q.proxies.map (·.key))
    {sent : List NPObjectMessage} (hsent : ∀ m ∈ sent, Inert m) : Tied p q' (incoming ++ sent) outgoing := by
  refine ⟨fun id => ?_, ?_, fun id r target g hm => ?_, h.made, hk ▸ h.proxies⟩
  · have hnone : sent.countP (·.releases id) = 0 := List.countP_eq_zero.mpr fun m hm => by simp [(hsent m hm id).1]
    rw [Peer.holding_congr hk, List.countP_append, hnone, Nat.add_zero]
    exact h.held id
  · refine List.pairwise_append.mpr ⟨h.order, ?_, fun m _ m' hm' id _ => (hsent m' hm' id).2⟩
    exact List.pairwise_iff_forall_sublist.mpr fun hsub id _ => (hsent _ (hsub.subset (by simp)) id).2
  · rcases List.mem_append.mp hm with hm | hm
    · exact h.found id r target g hm
    · have := (hsent _ hm id).2
      simp [NPObjectMessage.uses] at this

section
variable {i : Nat} {x : NPObjectProxy}

/-- A proxy that holds its stub is the one holder, and the stub is the one it was made for. -/
theorem Tied.of_holder (h : Tied p q incoming outgoing) (hx : q.proxies[i]? = some x) (hr : x.released = false) :
    (q.holding x.id = 1 ∧ outgoing.countP (·.creates x.id) = 0 ∧ incoming.countP (·.releases x.id) = 0) ∧
      p.npobjectLookupLocal x.id = some x.target := by
  have hheld := h.held x.id
  have hpos : 0 < q.holding x.id := List.countP_pos_iff.mpr ⟨x, List.mem_of_getElem? hx, by simp [hr]⟩
  have hlive : (p.npobjectLookupStub x.id).isSome = true := by
    by_contra hnone
    simp only [Bool.not_eq_true] at hnone
    rw [hnone, Bool.toNat_false] at hheld
    omega
  rw [hlive, Bool.toNat_true] at hheld
  refine ⟨by omega, ?_⟩
  rw [Peer.madeFor_of_lookup hlive]
  exact h.proxies x.key (List.mem_map_of_mem (List.mem_of_getElem? hx))

/-- No message on its way releases the stub of such a proxy. -/
theorem Tied.unreleased (h : Tied p q incoming outgoing) (hx : q.proxies[i]? = some x) (hr : x.released = false) :
    ∀ m ∈ incoming, m.releases x.id = false := fun m hm => by
  simpa using List.countP_eq_zero.mp (h.of_holder hx hr).1.2.2 m hm

/-- What is on its way stays in order behind a message that uses the stub of such a proxy. -/
theorem Tied.order_append (h : Tied p q incoming outgoing) (hx : q.proxies[i]? = some x) (hr : x.released = false)
    (hm : ∀ id, m.uses id = true → id = x.id) :
    (incoming ++ [m]).Pairwise fun m m' => ∀ id, m.releases id = true → m'.uses id = false := by
  refine List.pairwise_append.mpr ⟨h.order, List.pairwise_singleton _ _, fun m₀ hm₀ m' hm' id hrel => ?_⟩
  cases List.mem_singleton.mp hm'
  by_contra hu
  rw [Bool.not_eq_false] at hu
  rw [hm id hu, h.unreleased hx hr m₀ hm₀] at hrel
  cases hrel

theorem Tied.send_proxy (h : Tied p q incoming outgoing) (hk : q'.proxies.map (·.key) = q.proxies.map (·.key))
    (hx : q.proxies[i]? = some x) (hr : x.released = false) :
    Tied p q' (incoming ++ [.receiverOwned x.id false x.target x.generation]) outgoing := by
  refine ⟨fun id => ?_, h.order_append hx hr fun id hu => ?_, fun id r target g hm => ?_, h.made, hk ▸ h.proxies⟩
  · rw [Peer.holding_congr hk, List.countP_append]
    exact h.held id
  · exact (eq_of_beq hu).symm
  · rcases List.mem_append.mp hm with hm | hm
    · exact h.found id r target g hm
    · cases List.mem_singleton.mp hm
      exact (h.of_holder hx hr).2

/-- The proxy gives its stub up. -/
theorem Peer.holding_release (hk : q'.proxies.map (·.key) = (q.proxies.map (·.key)).modify i (fun k => (k.1, k.2.1, true)))
    (hx : q.proxies[i]? = some x) (hr : x.released = false) (id : Nat) :
    q'.holding id + (x.id == id).toNat = q.holding id := by
  have hkey : (q.proxies.map (·.key))[i]? = some x.key := by rw [List.getElem?_map, hx, Option.map_some]
  have hcount := countP_modify (f := fun k : Nat × Nat × Bool => (k.1, k.2.1, true))
    (P := fun k => !k.2.2 && k.1 == id) hkey
  rw [← hk, ← Peer.holding_eq, ← Peer.holding_eq] at hcount
  simpa [NPObjectProxy.key, hr] using hcount

theorem Tied.send_release (h : Tied p q incoming outgoing)
    (hk : q'.proxies.map (·.key) = (q.proxies.map (·.key)).modify i (fun k => (k.1, k.2.1, true)))
    (hx : q.proxies[i]? = some x) (hr : x.released = false)
    (hm : m = .receiverOwned x.id true x.target x.generation ∨ m = .deallocate x.id) : Tied p q' (incoming ++ [m]) outgoing := by
  have hrel : ∀ id, m.releases id = (x.id == id) := by
    intro id
    rcases hm with rfl | rfl
    · exact Bool.true_and _
    · rfl
  have huse : ∀ id, m.uses id = true → id = x.id := by
    intro id hu
    rcases hm with rfl | rfl
    · exact (eq_of_beq hu).symm
    · cases hu
  refine ⟨fun id => ?_, h.order_append hx hr huse, fun id r target g hmem => ?_, h.made, fun k hkey => ?_⟩
  · have hheld := h.held id
    have hgone := Peer.holding_release hk hx hr id
    rw [List.countP_append, List.countP_singleton, hrel]
    cases hid : x.id == id <;> simp [hid] at hgone ⊢ <;> omega
  · rcases List.mem_append.mp hmem with hmem | hmem
    · exact h.found id r target g hmem
    · rcases hm with rfl | rfl
      · cases List.mem_singleton.mp hmem
        exact (h.of_holder hx hr).2
      · cases List.mem_singleton.mp hmem
  · rw [hk] at hkey
    refine forall_mem_modify (P := fun k => p.madeFor k.1 = some k.2.1) (fun j k _ hj => ?_) (fun k hi => ?_) k hkey
    · exact h.proxies k (List.mem_of_getElem? hj)
    · exact h.proxies k (List.mem_of_getElem? hi)

end

/-- The end with the proxies makes one for the stub it is told of. -/
theorem Tied.read_new {id target : Nat} (h : Tied p q incoming (.senderOwned id target :: outgoing))
    (hk : q'.proxies.map (·.key) = q.proxies.map (·.key) ++ [(id, target, false)]) : Tied p q' incoming outgoing := by
  refine ⟨fun id' => ?_, h.order, h.found, fun id' target' hm => h.made id' target' (List.mem_cons_of_mem _ hm),
    fun k hkey => ?_⟩
  · have hheld := h.held id'
    have hmore : q'.holding id' = q.holding id' + (id == id').toNat := by
      rw [Peer.holding_eq, Peer.holding_eq, hk, List.countP_append, List.countP_singleton]
      cases id == id' <;> rfl
    rw [List.countP_cons] at hheld
    rw [hheld, hmore]
    cases hid : id == id' <;> simp [NPObjectMessage.creates, hid]
    omega
  · rw [hk] at hkey
    rcases List.mem_append.mp hkey with hkey | hkey
    · exact h.proxies k hkey
    · cases List.mem_singleton.mp hkey
      exact h.made id target List.mem_cons_self

/-- It reads anything else. -/
theorem Tied.read_quiet (h : Tied p q incoming (m :: outgoing)) (hm : ∀ id, m.creates id = false)
    (hk : q'.proxies.map (·.key) = q.proxies.map (·.key)) : Tied p q' incoming outgoing := by
  refine ⟨fun id => ?_, h.order, h.found, fun id target hmem => h.made id target (List.mem_cons_of_mem _ hmem),
    hk ▸ h.proxies⟩
  have hheld := h.held id
  rwa [List.countP_cons_of_neg (by simp [hm id]), ← Peer.holding_congr hk] at hheld

/-! ### Steps -/

theorem Tied.owner_moves {sent : List NPObjectMessage} (h : Tied p q incoming outgoing) (hm : p.Moves p' sent) :
    Tied p' q incoming (outgoing ++ sent) := by
  cases hm with
  | quiet hs _ hsent =>
    refine h.of_stubs hs ?_
    rcases hsent with rfl | rfl <;> simp [Uncreating]
  | sendLocal hs _ => exact h.send_local hs
  | sendProxy hs _ _ _ => exact h.of_stubs hs (by simp [Uncreating])
  | releaseStub hs _ _ _ hm =>
    refine h.of_stubs hs ?_
    rcases hm with rfl | rfl <;> simp [Uncreating]

theorem Tied.holder_moves {sent : List NPObjectMessage} (h : Tied p q incoming outgoing) (hm : q.Moves q' sent) :
    Tied p q' (incoming ++ sent) outgoing := by
  cases hm with
  | quiet _ hk hsent =>
    refine h.of_keys hk ?_
    rcases hsent with rfl | rfl <;> simp [Inert, NPObjectMessage.releases, NPObjectMessage.uses]
  | sendLocal _ hp =>
    exact h.of_keys (congrArg _ hp) (by simp [Inert, NPObjectMessage.releases, NPObjectMessage.uses])
  | sendProxy _ hk hx hr => exact h.send_proxy hk hx hr
  | releaseStub _ hk hx hr hm => exact h.send_release hk hx hr hm

/-- The end with the stubs can read what comes, which names the object its sender's proxy was made for. -/
theorem Tied.owner_reads (h : Tied p q (m :: incoming) outgoing) (generation : Nat) :
    ∃ p' r, p.doRecvNPObjectHelper generation m = some (p', r) ∧ Tied p' q incoming outgoing := by
  cases m with
  | null => exact ⟨p, none, rfl, h.read (fun _ => rfl) rfl⟩
  | senderOwned id target => exact ⟨_, _, rfl, h.read (fun _ => rfl) rfl⟩
  | receiverOwned id releaseStub target g =>
    have hfound := h.found id releaseStub target g List.mem_cons_self
    cases releaseStub with
    | false =>
      refine ⟨(p.npnRetainObject target).take target, some (.local target), ?_, h.read (fun _ => rfl) rfl⟩
      simp [Peer.doRecvNPObjectHelper, hfound]
    | true =>
      have hrel : NPObjectMessage.releases id (.receiverOwned id true target g) = true := beq_self_eq_true id
      obtain ⟨stub, hstub⟩ := h.released_found hrel
      have hkept : ((p.npnRetainObject target).take target).npobjectLookupStub id = some stub :=
        (Peer.lookupStub_congr rfl id).trans hstub
      refine ⟨((p.npnRetainObject target).take target).npobjectDestroyStubObj id stub, some (.local target), ?_, ?_⟩
      · simp [Peer.doRecvNPObjectHelper, hfound, Peer.npobjectDestroyStub, hkept]
      · exact h.read_release hrel (fun id' hid => (eq_of_beq hid).symm) hstub rfl
  | deallocate id =>
    have hrel : NPObjectMessage.releases id (.deallocate id) = true := beq_self_eq_true id
    obtain ⟨stub, hstub⟩ := h.released_found hrel
    refine ⟨p.npobjectDestroyStubObj id stub, none, ?_, ?_⟩
    · simp [Peer.doRecvNPObjectHelper, Peer.npclassHandleDeallocate, hstub]
    · exact h.read_release hrel (fun id' hid => (eq_of_beq hid).symm) hstub rfl

theorem Tied.holder_reads {generation : Nat} {r : Option NPObjectRef} (h : Tied p q incoming (m :: outgoing))
    (hr : q.doRecvNPObjectHelper generation m = some (q', r)) : Tied p q' incoming outgoing := by
  rcases Peer.doRecv_proxies hr with ⟨id, target, rfl, hp, -⟩ | ⟨hm, hp, -⟩
  · refine h.read_new ?_
    rw [hp, List.map_append]
    rfl
  · exact h.read_quiet hm (congrArg _ hp)

/-! ### Runs -/

namespace Bridge
variable {b b' : Bridge} {side : ConnectionType}

/-- What the steps of two ends keep. -/
structure Kept (b : Bridge) : Prop where
  tied : ∀ side, Tied (b.peer side) (b.peer side.other) (b.incoming side) (b.incoming side.other)
  spent : ∀ side, (b.peer side).Spent
  running : ∀ side, b.aborted side = false

/-- No proxy is sent once the release of its stub was. -/
def Holds (b : Bridge) : BridgeEvent → Prop
  | .act side a => (b.peer side).Holds a
  | _ => True

theorem kept_joined : joined.Kept := by
  refine ⟨fun _ => ⟨fun id => ?_, .nil, nofun, nofun, nofun⟩, fun _ => nofun, fun _ => rfl⟩
  cases id <;> rfl

section
variable (b side) (p : Peer) (sent : List NPObjectMessage)

@[simp] theorem after_peer : (b.after side p sent).peer side = p := Function.update_self ..
@[simp] theorem after_peer_other : (b.after side p sent).peer side.other = b.peer side.other :=
  Function.update_of_ne side.other_ne ..
@[simp] theorem after_incoming : (b.after side p sent).incoming side = b.incoming side :=
  Function.update_of_ne side.ne_other ..
@[simp] theorem after_incoming_other : (b.after side p sent).incoming side.other = b.incoming side.other ++ sent :=
  Function.update_self ..

end

/-- A fact of an end and the other one, by its two sides. -/
theorem forall_side {P : ConnectionType → Prop} (side : ConnectionType) (h : P side) (h' : P side.other) : ∀ s, P s :=
  fun s => (s.eq_or_other side).elim (fun hs => hs ▸ h) fun hs => hs ▸ h'

theorem Kept.after (h : b.Kept) {p : Peer} {sent : List NPObjectMessage} (hm : (b.peer side).Moves p sent)
    (hs : p.Spent) : (b.after side p sent).Kept := by
  refine ⟨forall_side side ?_ ?_, forall_side side ?_ ?_, h.running⟩
  · simpa using (h.tied side).owner_moves hm
  · have := h.tied side.other
    rw [side.other_other] at this
    simpa using this.holder_moves hm
  · simpa using hs
  · simpa using h.spent side.other

theorem Kept.receive (h : b.Kept) : (b.receive side).Kept := by
  unfold Bridge.receive
  cases hin : b.incoming side with
  | nil => exact h
  | cons m rest =>
    have howner := h.tied side
    have hholder := h.tied side.other
    rw [side.other_other, hin] at hholder
    rw [hin] at howner
    obtain ⟨p, r, hr, hread⟩ := howner.owner_reads b.generation
    dsimp only
    rw [hr]
    dsimp only
    refine ⟨forall_side side ?_ ?_, forall_side side ?_ ?_, h.running⟩
    · simpa using hread
    · simpa using hholder.holder_reads hr
    · rcases Peer.doRecv_proxies hr with ⟨id, target, -, hp, -⟩ | ⟨-, hp, -⟩
      · intro x hx hrel
        simp only [Function.update_self, hp, List.mem_append, List.mem_singleton] at hx
        rcases hx with hx | rfl
        · exact h.spent side x hx hrel
        · cases hrel
      · simpa [Peer.Spent, hp] using h.spent side
    · simpa using h.spent side.other

theorem Kept.step {e : BridgeEvent} (h : b.Kept) (hh : b.Holds e) (hs : livePeers.step b e b') : b'.Kept := by
  obtain ⟨⟨side, a, rfl⟩, hen, rfl⟩ := hs
  cases a with
  | receive => exact h.receive
  | _ =>
    have hmoves := Peer.act_moves (h.spent side) hen.2.2.2 hh
    exact h.after hmoves ((h.spent side).ages (Peer.act_ages hen.2.2.2))

end Bridge

theorem bridge_kept {b : Bridge} (h : (livePeers.restrict Bridge.Holds).Reachable b) : b.Kept := by
  refine h.invariant Bridge.Kept ?_ ?_
  · rintro b rfl
    exact Bridge.kept_joined
  · intro b e b' _ hk hs
    exact hk.step hs.1 hs.2

/-- Whatever two ends do that never send a proxy whose stub they released, each finds the object it is asked for:
    the one the sender's proxy was made for. -/
theorem received_objects_found {b : Bridge} (h : (livePeers.restrict Bridge.Holds).Reachable b) (side : ConnectionType) :
    b.aborted side = false ∧ ∀ id releaseStub target g rest,
      b.incoming side = .receiverOwned id releaseStub target g :: rest →
        (b.peer side).npobjectLookupLocal id = some target ∧
        ∃ p, (b.peer side).doRecvNPObjectHelper b.generation (.receiverOwned id releaseStub target g) =
          some (p, some (.local target)) := by
  have hkept := bridge_kept h
  refine ⟨hkept.running side, fun id releaseStub target g rest hin => ?_⟩
  have htied := hkept.tied side
  rw [hin] at htied
  have hfound := htied.found id releaseStub target g List.mem_cons_self
  obtain ⟨p, r, hr, -⟩ := htied.owner_reads b.generation
  refine ⟨hfound, p, ?_⟩
  rw [hr]
  simp only [Peer.doRecvNPObjectHelper, hfound] at hr
  cases releaseStub with
  | false =>
    cases hr
    rfl
  | true =>
    obtain ⟨q, -, heq⟩ := Option.map_eq_some_iff.mp hr
    cases heq
    rfl

/-- An object of the viewer goes to the browser and comes back, and its stub goes with it. -/
theorem returned_object_found : ∃ b, livePeers.Reachable b ∧ b.incoming .server = [.receiverOwned 1 true 0 0] ∧
    (b.peer .server).npobjectLookupLocal 1 = some 0 := by
  have h₀ := Machine.Reachable.init (m := livePeers.restrict Bridge.Holds) (s := .joined) rfl
  have h₁ := h₀.next (.act .server .create) ⟨trivial, ⟨_, _, rfl⟩, ⟨rfl, fun _ => rfl, nofun, trivial⟩, rfl⟩
  have h₂ := h₁.next (.act .server (.send (some (.local 0)) false))
    ⟨trivial, ⟨_, _, rfl⟩, ⟨rfl, fun _ => rfl, fun _ => rfl, ⟨_, rfl, by decide⟩, fun _ _ => by decide⟩, rfl⟩
  have h₃ := h₂.next (.act .client .receive) ⟨trivial, ⟨_, _, rfl⟩, ⟨rfl, nofun, nofun, trivial⟩, rfl⟩
  have h₄ := h₃.next (.act .client (.send (some (.proxy 0)) true))
    ⟨fun x hx => by cases hx; rfl, ⟨_, _, rfl⟩, ⟨rfl, nofun, fun _ => rfl, ⟨_, rfl, by decide⟩, nofun⟩, rfl⟩
  exact ⟨_, h₄.of_restrict, rfl, ((received_objects_found h₄ .server).2 1 true 0 0 [] rfl).1⟩

/-- The browser invalidates its proxy for an object of the viewer, which gives the stub up, and passes the proxy on
    to a plugin: the viewer aborts. -/
theorem invalidated_proxy_aborts : ∃ b, livePeers.Reachable b ∧ b.aborted .server = true := by
  have h₀ := Machine.Reachable.init (m := livePeers) (s := .joined) rfl
  have h₁ := h₀.next (.act .server .create) ⟨⟨_, _, rfl⟩, ⟨rfl, fun _ => rfl, nofun, trivial⟩, rfl⟩
  have h₂ := h₁.next (.act .server (.send (some (.local 0)) false))
    ⟨⟨_, _, rfl⟩, ⟨rfl, fun _ => rfl, fun _ => rfl, ⟨_, rfl, by decide⟩, fun _ _ => by decide⟩, rfl⟩
  have h₃ := h₂.next (.act .client .receive) ⟨⟨_, _, rfl⟩, ⟨rfl, nofun, nofun, trivial⟩, rfl⟩
  have h₄ := h₃.next (.act .client (.invalidate 0 true))
    ⟨⟨_, _, rfl⟩, ⟨rfl, nofun, fun _ => rfl, ⟨_, rfl, by decide⟩⟩, rfl⟩
  have h₅ := h₄.next (.act .server .receive) ⟨⟨_, _, rfl⟩, ⟨rfl, fun _ => rfl, nofun, trivial⟩, rfl⟩
  have h₆ := h₅.next (.act .client (.send (some (.proxy 0)) false))
    ⟨⟨_, _, rfl⟩, ⟨rfl, nofun, fun _ => rfl, ⟨_, rfl, by decide⟩, nofun⟩, rfl⟩
  have h₇ := h₆.next (.act .server .receive) ⟨⟨_, _, rfl⟩, ⟨rfl, fun _ => rfl, nofun, trivial⟩, rfl⟩
  exact ⟨_, h₇, rfl⟩

end NSPluginWrapper
