import NSPluginWrapper.Npapi.Ids

/-! One table of ids: as long as no identifier meets an entry of another kind, each keeps the id that it was
    first sent with. -/

namespace NSPluginWrapper
open Lib

/-! ### The counter and the table -/

theorem succ_toInt {id : Int32} (h0 : 0 ≤ id) (h : id < Int32.maxValue) : (id + 1).toInt = id.toInt + 1 := by
  have hlow := Int32.le_iff_toInt_le.mp h0
  have hhigh := Int32.lt_iff_toInt_lt.mp h
  rw [Int32.toInt_maxValue] at hhigh
  rw [Int32.toInt_add, Int32.toInt_one]
  apply Int.bmod_eq_of_le <;> simp at * <;> omega

theorem lt_succ {id : Int32} (h0 : 0 ≤ id) (h : id < Int32.maxValue) : id < id + 1 := by
  rw [Int32.lt_iff_toInt_lt, succ_toInt h0 h]
  exact Int.lt_succ _

theorem key_inj {a b : Int32} (h : a.toUInt32 = b.toUInt32) : a = b := by
  simpa using congrArg UInt32.toInt32 h

namespace Ids
variable {ids : Ids} {order : List UInt32} {ptr ident : UInt64} {key : UInt32}

/-- Every key is an id that was handed out. -/
structure Counted (ids : Ids) : Prop where
  id : 0 ≤ ids.id
  keys : ∀ key ptr, ids.table.lookup key = some ptr → 0 < key.toInt32 ∧ key.toInt32 ≤ ids.id

theorem lookup_create (ids : Ids) (ptr : UInt64) (key : UInt32) :
    (ids.create ptr).1.table.lookup key = if key = (ids.id + 1).toUInt32 then some ptr else ids.table.lookup key :=
  Table.lookup_insert _ _ _ _

theorem Counted.unused (hc : ids.Counted) (h : ids.id < Int32.maxValue) :
    ids.table.lookup (ids.id + 1).toUInt32 = none := by
  cases hp : ids.table.lookup (ids.id + 1).toUInt32 with
  | none => rfl
  | some ptr =>
    obtain ⟨-, hle⟩ := hc.keys _ _ hp
    exact absurd (lt_succ hc.id h) (Int32.not_lt.mpr hle)

/-- What was there stays where it was. -/
theorem Counted.lookup_create_of_some (hc : ids.Counted) (h : ids.id < Int32.maxValue) {key : UInt32} {ptr' : UInt64}
    (hp : ids.table.lookup key = some ptr') : (ids.create ptr).1.table.lookup key = some ptr' := by
  rw [lookup_create, if_neg, hp]
  rintro rfl
  rw [hc.unused h] at hp
  cases hp

theorem Counted.create (hc : ids.Counted) (h : ids.id < Int32.maxValue) (ptr : UInt64) : (ids.create ptr).1.Counted where
  id := Int32.le_trans hc.id (Int32.le_of_lt (lt_succ hc.id h))
  keys := by
    intro key ptr' hp
    rw [lookup_create] at hp
    split at hp
    · rename_i hk
      rw [hk]
      exact ⟨Int32.lt_of_le_of_lt hc.id (lt_succ hc.id h), Int32.le_refl _⟩
    · obtain ⟨hpos, hle⟩ := hc.keys _ _ hp
      exact ⟨hpos, Int32.le_trans hle (Int32.le_of_lt (lt_succ hc.id h))⟩

theorem lookup_remove (ids : Ids) (id : Int32) (key : UInt32) :
    (ids.remove id).table.lookup key = if key = id.toUInt32 then none else ids.table.lookup key :=
  Table.lookup_erase _ _ _

theorem Counted.remove (hc : ids.Counted) (id : Int32) : (ids.remove id).Counted where
  id := hc.id
  keys := by
    intro key ptr hp
    rw [lookup_remove] at hp
    split at hp
    · cases hp
    · exact hc.keys _ _ hp

theorem lookupValue_cases (horder : ∀ key, key ∈ order ↔ key ∈ ids.table) (ptr : UInt64) :
    (∃ key, ids.table.lookup key = some ptr ∧ ids.lookupValue order ptr = key.toInt32) ∨
      (∀ key, ids.table.lookup key ≠ some ptr) ∧ ids.lookupValue order ptr = -1 := by
  unfold lookupValue
  cases hf : order.find? fun key => ids.table.lookup key == some ptr with
  | some key =>
    have hp := List.find?_some hf
    exact .inl ⟨key, beq_iff_eq.mp hp, rfl⟩
  | none =>
    refine .inr ⟨?_, rfl⟩
    intro key hp
    have hmem : key ∈ order := (horder key).mpr (AList.lookup_isSome.mp (by rw [hp]; rfl))
    exact List.find?_eq_none.mp hf key hmem (beq_iff_eq.mpr hp)

/-- An identifier goes under the key of an entry with its value, or under a new one. -/
theorem Counted.send (hc : ids.Counted) (horder : ∀ key, key ∈ order ↔ key ∈ ids.table) {ids' : Ids}
    (h : ids.doSendNPIdentifier order ident = some (ids', key)) :
    (ident = 0 ∧ key = 0 ∧ ids' = ids) ∨ (ident ≠ 0 ∧ ids.table.lookup key = some ident ∧ ids' = ids) ∨
      (ident ≠ 0 ∧ (∀ key, ids.table.lookup key ≠ some ident) ∧ key = (ids.id + 1).toUInt32 ∧ ids' = (ids.create ident).1) := by
  unfold doSendNPIdentifier at h
  split at h
  · rename_i hz
    cases h
    exact .inl ⟨hz, rfl, rfl⟩
  · rename_i hz
    rcases lookupValue_cases horder ident with ⟨k, hk, hv⟩ | ⟨habsent, hv⟩
    · obtain ⟨hpos, -⟩ := hc.keys _ _ hk
      have hneg : ¬ k.toInt32 < 0 := Int32.not_lt.mpr (Int32.le_of_lt hpos)
      simp only [hv, if_neg hneg] at h
      split at h
      · cases h
      · cases h
        exact .inr (.inl ⟨hz, hk, rfl⟩)
    · have hneg : (-1 : Int32) < 0 := by decide
      simp only [hv, if_pos hneg] at h
      split at h
      · cases h
      · cases h
        exact .inr (.inr ⟨hz, habsent, rfl, rfl⟩)

theorem Counted.decode (hc : ids.Counted) (hne : ident ≠ 0) (h : ids.table.lookup key = some ident) :
    ids.doRecvNPIdentifier key = some ident := by
  obtain ⟨hpos, -⟩ := hc.keys _ _ h
  have hkey : key ≠ 0 := by
    rintro rfl
    cases hpos
  rw [doRecvNPIdentifier, if_neg hkey, lookup, UInt32.toUInt32_toInt32, h]
  exact Option.filter_some_pos (decide_eq_true hne)

end Ids

/-! ### Holders and identifiers -/

namespace IdUse
variable {s t : IdUse} {e : IdEvent} {ident : UInt64}

/-- Each identifier that was sent has one id, from which the very identifier is decoded. -/
structure Steady (s : IdUse) : Prop where
  one : ∀ ident id id', (ident, id) ∈ s.sent → (ident, id') ∈ s.sent → id = id'
  decoded : ∀ ident id, (ident, id) ∈ s.sent → s.ids.doRecvNPIdentifier id = some ident

/-- The table has an entry with the value of `ident` that is not the one `ident` was sent under. -/
def Taken (s : IdUse) (ident : UInt64) : Prop := ∃ key, s.ids.table.lookup key = some ident ∧ (ident, key) ∉ s.sent

/-- The step asks for a new id. -/
def Creates (s : IdUse) : IdEvent → Prop
  | .hold .. => True
  | .sendIdentifier ident _ => ident ≠ 0 ∧ ∀ key, s.ids.table.lookup key ≠ some ident
  | _ => False

/-- No identifier is sent while another entry has its value, and there are ids left. -/
structure Apart (s : IdUse) (e : IdEvent) : Prop where
  left : s.Creates e → s.ids.id < Int32.maxValue
  free : ∀ ident order, e = .sendIdentifier ident order → ¬ s.Taken ident

/-- What holds an id holds it alone, and each identifier has an entry of its own. -/
structure Tidy (s : IdUse) : Prop where
  counted : s.ids.Counted
  held : ∀ h ∈ s.holders, s.ids.table.lookup h.id.toUInt32 = some h.ptr
  distinct : (s.holders.map (·.id)).Nodup
  sent : ∀ ident key, (ident, key) ∈ s.sent → (ident = 0 ∧ key = 0) ∨ (ident ≠ 0 ∧ s.ids.table.lookup key = some ident)
  apart : ∀ h ∈ s.holders, ∀ ident, (ident, h.id.toUInt32) ∉ s.sent
  one : ∀ ident key key', (ident, key) ∈ s.sent → (ident, key') ∈ s.sent → key = key'

theorem Tidy.steady (hs : s.Tidy) : s.Steady where
  one := hs.one
  decoded := by
    intro ident key h
    rcases hs.sent _ _ h with ⟨rfl, rfl⟩ | ⟨hne, hp⟩
    · rfl
    · exact hs.counted.decode hne hp

theorem tidy_init : IdUse.Tidy ⟨⟨∅, 0⟩, [], []⟩ where
  counted := ⟨Int32.le_refl _, by simp⟩
  held := by simp
  distinct := List.nodup_nil
  sent := by simp
  apart := by simp
  one := by simp

/-- What is in use is not the next id. -/
theorem Tidy.ne_next (hs : s.Tidy) (h : s.ids.id < Int32.maxValue) {id : Int32} {ptr : UInt64}
    (hp : s.ids.table.lookup id.toUInt32 = some ptr) : id ≠ s.ids.id + 1 := by
  rintro rfl
  rw [hs.counted.unused h] at hp
  cases hp

theorem Tidy.sent_ne_next (hs : s.Tidy) (h : s.ids.id < Int32.maxValue) : (ident, (s.ids.id + 1).toUInt32) ∉ s.sent := by
  intro hmem
  rcases hs.sent _ _ hmem with ⟨-, hz⟩ | ⟨-, hp⟩
  · have hpos := Int32.lt_of_le_of_lt hs.counted.id (lt_succ hs.counted.id h)
    have hzero := congrArg UInt32.toInt32 hz
    rw [Int32.toInt32_toUInt32] at hzero
    rw [hzero] at hpos
    cases hpos
  · rw [hs.counted.unused h] at hp
    cases hp

/-- A new entry disturbs nothing. -/
theorem Tidy.create (hs : s.Tidy) (h : s.ids.id < Int32.maxValue) (ptr : UInt64) :
    IdUse.Tidy { s with ids := (s.ids.create ptr).1 } where
  counted := hs.counted.create h ptr
  held x hx := hs.counted.lookup_create_of_some h (hs.held x hx)
  distinct := hs.distinct
  sent := by
    intro ident key hmem
    rcases hs.sent _ _ hmem with hz | ⟨hne, hp⟩
    · exact .inl hz
    · exact .inr ⟨hne, hs.counted.lookup_create_of_some h hp⟩
  apart := hs.apart
  one := hs.one

theorem Tidy.hold (hs : s.Tidy) (h : s.ids.id < Int32.maxValue) (kind : IdKind) (ptr : UInt64) :
    IdUse.Tidy { s with ids := (s.ids.create ptr).1, holders := ⟨kind, ptr, (s.ids.create ptr).2⟩ :: s.holders } where
  counted := hs.counted.create h ptr
  held := by
    intro x hx
    rcases List.mem_cons.mp hx with rfl | hx
    · exact (Ids.lookup_create _ _ _).trans (if_pos rfl)
    · exact (hs.create h ptr).held x hx
  distinct := by
    refine List.nodup_cons.mpr ⟨?_, hs.distinct⟩
    intro hmem
    obtain ⟨x, hx, hid⟩ := List.mem_map.mp hmem
    exact hs.ne_next h (hs.held x hx) hid
  sent := (hs.create h ptr).sent
  apart := by
    intro x hx ident hmem
    rcases List.mem_cons.mp hx with rfl | hx
    · exact hs.sent_ne_next h hmem
    · exact hs.apart x hx ident hmem
  one := hs.one

/-- Fewer holders are as tidy. -/
theorem Tidy.abandon (hs : s.Tidy) (x : IdHolder) : IdUse.Tidy { s with holders := s.holders.erase x } where
  counted := hs.counted
  held y hy := hs.held y (List.mem_of_mem_erase hy)
  distinct := (List.erase_sublist.map _).nodup hs.distinct
  sent := hs.sent
  apart y hy := hs.apart y (List.mem_of_mem_erase hy)
  one := hs.one

theorem Tidy.id_ne_of_mem_erase (hs : s.Tidy) {x y : IdHolder} (hx : x ∈ s.holders) (hy : y ∈ s.holders.erase x) :
    y.id ≠ x.id := by
  intro hid
  have hnodup := hs.distinct
  rw [((List.perm_cons_erase hx).map (·.id)).nodup_iff] at hnodup
  exact (List.nodup_cons.mp hnodup).1 (List.mem_map.mpr ⟨y, hy, hid⟩)

theorem Tidy.release (hs : s.Tidy) {x : IdHolder} (hx : x ∈ s.holders) :
    IdUse.Tidy { s with ids := s.ids.remove x.id, holders := s.holders.erase x } where
  counted := hs.counted.remove _
  held := by
    intro y hy
    rw [Ids.lookup_remove, if_neg]
    · exact hs.held y (List.mem_of_mem_erase hy)
    · intro hkey
      exact hs.id_ne_of_mem_erase hx hy (key_inj hkey)
  distinct := (hs.abandon x).distinct
  sent := by
    intro ident key hmem
    rcases hs.sent _ _ hmem with hz | ⟨hne, hp⟩
    · exact .inl hz
    · refine .inr ⟨hne, ?_⟩
      rw [Ids.lookup_remove, if_neg, hp]
      rintro rfl
      exact hs.apart x hx ident hmem
  apart := (hs.abandon x).apart
  one := hs.one

/-- An identifier goes under a key that nothing holds, and under the same key as before. -/
theorem Tidy.send (hs : s.Tidy) {key : UInt32} (hp : (ident = 0 ∧ key = 0) ∨ (ident ≠ 0 ∧ s.ids.table.lookup key = some ident))
    (hfree : ∀ x ∈ s.holders, x.id.toUInt32 ≠ key) (hone : ∀ key', (ident, key') ∈ s.sent → key' = key) :
    IdUse.Tidy { s with sent := (ident, key) :: s.sent } where
  counted := hs.counted
  held := hs.held
  distinct := hs.distinct
  sent := by
    intro i k hmem
    rcases List.mem_cons.mp hmem with hnew | hold
    · cases hnew
      exact hp
    · exact hs.sent _ _ hold
  apart := by
    intro x hx i hmem
    rcases List.mem_cons.mp hmem with hnew | hold
    · exact hfree x hx (congrArg Prod.snd hnew)
    · exact hs.apart x hx i hold
  one := by
    intro i k k' h h'
    rcases List.mem_cons.mp h with hnew | hold
    · cases hnew
      rcases List.mem_cons.mp h' with hnew' | hold'
      · exact (congrArg Prod.snd hnew').symm
      · exact (hone k' hold').symm
    · rcases List.mem_cons.mp h' with hnew' | hold'
      · cases hnew'
        exact hone k hold
      · exact hs.one i k k' hold hold'

theorem Tidy.sendIdentifier (hs : s.Tidy) {order : List UInt32} (horder : ∀ key, key ∈ order ↔ key ∈ s.ids.table)
    (ha : s.Apart (.sendIdentifier ident order)) {ids : Ids} {key : UInt32}
    (h : s.ids.doSendNPIdentifier order ident = some (ids, key)) :
    IdUse.Tidy { s with ids, sent := (ident, key) :: s.sent } := by
  rcases hs.counted.send horder h with ⟨rfl, rfl, rfl⟩ | ⟨hne, hp, rfl⟩ | ⟨hne, habsent, rfl, rfl⟩
  · refine hs.send (.inl ⟨rfl, rfl⟩) ?_ ?_
    · intro x hx hz
      obtain ⟨hpos, -⟩ := hs.counted.keys _ _ (hs.held x hx)
      rw [hz] at hpos
      cases hpos
    · intro key' hmem
      rcases hs.sent _ _ hmem with ⟨-, hz⟩ | ⟨hne, -⟩
      · exact hz
      · exact absurd rfl hne
  · have hmem : (ident, key) ∈ s.sent := by
      by_contra hmem
      exact ha.free ident order rfl ⟨key, hp, hmem⟩
    refine hs.send (.inr ⟨hne, hp⟩) ?_ fun key' hmem' => hs.one _ _ _ hmem' hmem
    rintro x hx rfl
    exact hs.apart x hx ident hmem
  · have hleft := ha.left ⟨hne, habsent⟩
    refine (hs.create hleft ident).send (.inr ⟨hne, ?_⟩) ?_ ?_
    · exact (Ids.lookup_create _ _ _).trans (if_pos rfl)
    · intro x hx hkey
      exact hs.ne_next hleft (hs.held x hx) (key_inj hkey)
    · intro key' hmem
      rcases hs.sent _ _ hmem with ⟨hz, -⟩ | ⟨-, hp⟩
      · exact absurd hz hne
      · exact absurd hp (habsent key')

theorem Tidy.step (hs : s.Tidy) (ha : s.Apart e) (h : idUses.step s e t) : t.Tidy := by
  cases e with
  | hold kind ptr =>
    obtain ⟨-, rfl⟩ := h
    exact hs.hold (ha.left trivial) kind ptr
  | release x =>
    obtain ⟨hx, rfl⟩ := h
    exact hs.release hx
  | abandon x =>
    obtain ⟨-, -, rfl⟩ := h
    exact hs.abandon x
  | sendIdentifier ident order =>
    obtain ⟨horder, ids, key, hsend, rfl⟩ := h
    exact hs.sendIdentifier horder ha hsend

end IdUse

/-- In a run in which no identifier is sent while an entry of another kind has its value, and with an id left
    for whatever needs a new one, each identifier keeps its one id and is decoded from it. -/
theorem identifier_ids_steady {s : IdUse} (h : (idUses.restrict IdUse.Apart).Reachable s) : s.Steady := by
  refine IdUse.Tidy.steady (h.invariant IdUse.Tidy ?_ ?_)
  · rintro _ rfl
    exact IdUse.tidy_init
  · rintro s e t - hs ⟨ha, hstep⟩
    exact hs.step ha hstep

namespace IdUse

/-- The only stream has `a`, and nothing was sent. -/
def oneStream (a : UInt64) : IdUse := ⟨(Ids.create ⟨∅, 0⟩ a).1, [⟨.stream, a, 1⟩], []⟩

theorem oneStream_reachable {a : UInt64} (ha : a ≠ 0) : (idUses.restrict Apart).Reachable (oneStream a) := by
  have h₀ : (idUses.restrict Apart).Reachable ⟨⟨∅, 0⟩, [], []⟩ := .init rfl
  exact h₀.next (.hold .stream a) ⟨⟨fun _ => rfl, fun _ _ h => nomatch h⟩, ⟨ha, fun _ _ h => nomatch h⟩, rfl⟩

theorem mem_oneStream (a : UInt64) (key : UInt32) : key ∈ [1] ↔ key ∈ (oneStream a).ids.table :=
  List.mem_singleton.trans (AList.mem_insert (s := ∅) |>.trans (or_iff_left (AList.notMem_empty key))).symm

/-- An identifier that has another value than the stream's address is sent before and after the stream is
    destroyed. -/
theorem identifier_ids_steady_once :
    Steady ⟨⟨(((∅ : Table UInt32 UInt64).insert 1 4096).insert 2 8192).erase 1, 2⟩, [], [(8192, 2), (8192, 2)]⟩ := by
  have h₁ : (idUses.restrict Apart).Reachable (oneStream 4096) := oneStream_reachable (by decide)
  have hfree₁ : ¬ (oneStream 4096).Taken 8192 := by
    rintro ⟨key, hkey, -⟩
    rw [oneStream, Ids.lookup_create] at hkey
    split at hkey <;> simp at hkey
  have h₂ := h₁.next (.sendIdentifier 8192 [1])
    ⟨⟨fun _ => rfl, fun _ _ h => by cases h; exact hfree₁⟩, mem_oneStream 4096, _, 2, rfl, rfl⟩
  have h₃ := h₂.next (.release ⟨.stream, 4096, 1⟩) ⟨⟨nofun, fun _ _ h => nomatch h⟩, by decide, rfl⟩
  have hmem (key : UInt32) : key ∈ [2] ↔ key ∈ (((∅ : Table UInt32 UInt64).insert 1 4096).insert 2 8192).erase 1 := by
    rw [AList.mem_erase, AList.mem_insert, AList.mem_insert, List.mem_singleton]
    constructor
    · rintro rfl
      exact ⟨by decide, .inl rfl⟩
    · rintro ⟨hne, rfl | rfl | hnot⟩
      · rfl
      · exact absurd rfl hne
      · exact absurd hnot (AList.notMem_empty key)
  have hfree₃ : ∀ key, ((((∅ : Table UInt32 UInt64).insert 1 4096).insert 2 8192).erase 1).lookup key = some 8192 →
      ((8192 : UInt64), key) ∈ [((8192 : UInt64), (2 : UInt32))] := by
    intro key hkey
    have hmem₃ := (hmem key).mpr (AList.lookup_isSome.mp (by rw [hkey]; rfl))
    rw [List.mem_singleton.mp hmem₃]
    exact List.mem_singleton.mpr rfl
  have h₄ := h₃.next (.sendIdentifier 8192 [2])
    ⟨⟨fun _ => rfl, fun _ _ h => by cases h; exact fun ⟨key, hkey, hnew⟩ => hnew (hfree₃ key hkey)⟩, hmem, _, 2, rfl, rfl⟩
  exact identifier_ids_steady h₄

/-- The identifier has the stream's address as its value: it goes under the stream's id, and is gone with the
    stream. -/
theorem identifier_ids_fail : ¬ ∀ s : IdUse, idUses.Reachable s → s.Steady := by
  intro h
  have h₁ := (oneStream_reachable (a := 4096) (by decide)).of_restrict
  have h₂ := h₁.next (.sendIdentifier 4096 [1]) ⟨mem_oneStream 4096, _, 1, rfl, rfl⟩
  have h₃ := h₂.next (.release ⟨.stream, 4096, 1⟩) ⟨by decide, rfl⟩
  have hnone := (h _ h₃).decoded 4096 1 (List.mem_singleton.mpr rfl)
  cases hnone

end IdUse
end NSPluginWrapper
