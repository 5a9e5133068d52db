import Mathlib.Data.Nat.Digits.Lemmas
import NSPluginWrapper.Npapi.IdentifierCache
import NSPluginWrapper.Theorems.Message

/-! What the cache holds of an identifier is what the browser says of it, as long as nothing is stored that a call
    did not find out. -/

namespace NSPluginWrapper
open Lib

namespace NPIdentifierCache
variable {b : Browser} {c c' : NPIdentifierCache} {ident : NPIdentifier} {info : NPIdentifierInfo}

/-! ### Its size -/

theorem size_reserve (c : NPIdentifierCache) : (c.reserve 1).size + 1 ≤ npidentifierCacheSize := by
  unfold reserve
  dsimp only
  split
  · exact Nat.le_add_left 1 _
  · rename_i hroom
    exact Nat.le_of_not_lt hroom

theorem size_add (c : NPIdentifierCache) (ident : NPIdentifier) (info : NPIdentifierInfo) :
    (c.add ident info).size ≤ c.size + 1 := by
  cases c with
  | none => exact Nat.zero_le _
  | some t => exact Table.size_insert_le t ident info

theorem size_reserve_add (c : NPIdentifierCache) (ident : NPIdentifier) (info : NPIdentifierInfo) :
    ((c.reserve 1).add ident info).size ≤ npidentifierCacheSize :=
  Nat.le_trans (size_add _ ident info) (size_reserve c)

theorem size_invalidate (c : NPIdentifierCache) : c.invalidate.size = 0 := by cases c <;> rfl

theorem addString_ok {str : Option CString} (h : c.addString ident str = .ok c') :
    ∃ s, str = some s ∧ c' = c.add ident (.string s) := by
  cases str with
  | none => cases h
  | some s =>
    cases h
    exact ⟨s, rfl, rfl⟩

theorem map_ok {α β : Type} {x : Except CacheFault α} {f : α → β} {y : β} (h : x.map f = .ok y) : ∃ a, x = .ok a ∧ y = f a := by
  cases x with
  | error fault => cases h
  | ok a =>
    cases h
    exact ⟨a, rfl, rfl⟩

theorem storeStrings_size {pairs : List (NPIdentifier × Option CString)} (hc : c.size ≤ npidentifierCacheSize)
    (h : storeStrings c pairs = .ok c') : c'.size ≤ npidentifierCacheSize := by
  induction pairs generalizing c with
  | nil =>
    cases h
    exact hc
  | cons pair rest ih =>
    obtain ⟨ident, name⟩ := pair
    rw [storeStrings] at h
    split at h
    · exact ih hc h
    · cases hadd : (c.reserve 1).addString ident name with
      | error fault =>
        rw [hadd] at h
        cases h
      | ok c₁ =>
        rw [hadd] at h
        obtain ⟨s, -, rfl⟩ := addString_ok hadd
        exact ih (size_reserve_add c ident _) h

/-- A call leaves the cache, or stores what it asked for, one entry at a time. -/
theorem cached_size {call : IdentifierCall} {useCache ok : Bool} {answer : IdentifierAnswer} (hc : c.size ≤ npidentifierCacheSize)
    (h : call.cached b useCache c ok = .ok (c', answer)) : c'.size ≤ npidentifierCacheSize := by
  unfold IdentifierCall.cached at h
  split at h
  · cases call with
    | getStringIdentifier name =>
      obtain ⟨⟨c₁, r⟩, hr, heq⟩ := map_ok h
      cases heq
      unfold cachedNPNGetStringIdentifier at hr
      split at hr
      · cases hr
        exact hc
      · obtain ⟨c₂, hadd, heq⟩ := map_ok hr
        cases heq
        obtain ⟨s, -, rfl⟩ := addString_ok hadd
        exact size_reserve_add c _ _
    | getStringIdentifiers names identifiers =>
      obtain ⟨⟨c₁, r⟩, hr, heq⟩ := map_ok h
      cases heq
      obtain ⟨c₂, hstore, heq⟩ := map_ok hr
      cases heq
      exact storeStrings_size hc hstore
    | getIntIdentifier intid =>
      obtain ⟨⟨c₁, r⟩, hr, heq⟩ := map_ok h
      cases heq
      unfold cachedNPNGetIntIdentifier at hr
      split at hr
      · cases hr
        exact hc
      · cases hr
        exact size_reserve_add c _ _
    | identifierIsString ident =>
      obtain ⟨⟨c₁, r⟩, hr, heq⟩ := map_ok h
      cases heq
      unfold cachedNPNIdentifierIsString at hr
      split at hr <;> cases hr <;> exact hc
    | utf8FromIdentifier ident =>
      obtain ⟨⟨c₁, r⟩, hr, heq⟩ := map_ok h
      cases heq
      unfold cachedNPNUTF8FromIdentifier at hr
      split at hr
      · cases hr
        exact hc
      · obtain ⟨c₂, hadd, heq⟩ := map_ok hr
        cases heq
        obtain ⟨s, -, rfl⟩ := addString_ok hadd
        exact size_reserve_add c _ _
    | intFromIdentifier ident =>
      obtain ⟨⟨c₁, r⟩, hr, heq⟩ := map_ok h
      cases heq
      unfold cachedNPNIntFromIdentifier at hr
      split at hr
      · cases hr
      · cases hr
        exact hc
      · cases hr
        exact size_reserve_add c _ _
  · cases h
    exact hc

theorem size_of_reachable {useCache : Bool} (h : (identifierCalls b useCache).Reachable c) : c.size ≤ npidentifierCacheSize := by
  refine h.invariant (fun c => c.size ≤ npidentifierCacheSize) ?_ ?_
  · rintro c rfl
    exact Nat.zero_le _
  · intro c e c' _ hc hs
    cases e with
    | call call ok =>
      obtain ⟨-, answer, hcall⟩ := hs
      exact cached_size hc hcall
    | invalidate =>
      rw [show c' = c.invalidate from hs, size_invalidate]
      exact Nat.zero_le _

/-! ### What it holds -/

/-- What the entry of an identifier says is so. -/
def Tells (b : Browser) (ident : NPIdentifier) : NPIdentifierInfo → Prop
  | .string s => ident = b.getStringIdentifier (some s)
  | .value n => ident = b.getIntIdentifier n

def Faithful (b : Browser) (c : NPIdentifierCache) : Prop := ∀ ident info, c.lookup ident = some info → Tells b ident info

theorem Tells.isString {s : CString} (h : Tells b ident (.string s)) : b.identifierIsString ident = true := by
  rw [show ident = _ from h]
  exact b.string_isString s

theorem Tells.isInt {n : Int32} (h : Tells b ident (.value n)) : b.identifierIsString ident = false := by
  rw [show ident = _ from h]
  exact b.int_isString n

theorem faithful_none : Faithful b none := nofun

theorem Faithful.invalidate (c : NPIdentifierCache) : Faithful b c.invalidate := by
  cases c <;> exact nofun

theorem Faithful.reserve (h : Faithful b c) (n : Nat) : Faithful b (c.reserve n) := by
  unfold NPIdentifierCache.reserve
  dsimp only
  split
  · exact nofun
  · cases c with
    | none => exact nofun
    | some t => exact h

theorem Faithful.add (h : Faithful b c) (htells : Tells b ident info) : Faithful b (c.add ident info) := by
  cases c with
  | none => exact nofun
  | some t =>
    intro ident' info' hlookup
    change (AList.insert ident info t).lookup ident' = some info' at hlookup
    rw [Table.lookup_insert] at hlookup
    split at hlookup
    · rename_i heq
      cases hlookup
      rwa [heq]
    · exact h ident' info' hlookup

/-- What is found for a string or an integer is its identifier. -/
theorem Faithful.find (h : Faithful b c) (hfind : c.find info = some ident) : Tells b ident info := by
  cases c with
  | none => cases hfind
  | some t =>
    have hfind' : t.find (fun npi => decide (npi = info)) = some ident := hfind
    obtain ⟨npi, hlookup, heq⟩ := Table.find_some hfind'
    cases of_decide_eq_true heq
    exact h ident info hlookup

theorem getStringCopy_some {s : CString} : c.getStringCopy ident = some s ↔ c.lookup ident = some (.string s) := by
  unfold getStringCopy
  split
  · rename_i heq
    rw [heq]
    simp
  · rename_i hne
    refine ⟨nofun, fun h => ?_⟩
    exact absurd h (hne s)

theorem Faithful.storeStrings {pairs : List (NPIdentifier × Option CString)} (h : Faithful b c)
    (hpairs : ∀ pair ∈ pairs, ∃ s, pair = (b.getStringIdentifier (some s), some s)) :
    ∃ c', storeStrings c pairs = .ok c' ∧ Faithful b c' := by
  induction pairs generalizing c with
  | nil => exact ⟨c, rfl, h⟩
  | cons pair rest ih =>
    rw [List.forall_mem_cons] at hpairs
    obtain ⟨⟨s, rfl⟩, hrest⟩ := hpairs
    rw [NSPluginWrapper.storeStrings]
    split
    · exact ih h hrest
    · exact ih ((h.reserve 1).add rfl) hrest

end NPIdentifierCache

/-! ### Transparency -/

open NPIdentifierCache

/-- Whether the cached function asks the browser. -/
def IdentifierCall.asks (useCache : Bool) (c : NPIdentifierCache) : IdentifierCall → Bool
  | .getStringIdentifier name => !useCache || (c.find (.string name)).isNone
  | .getStringIdentifiers _ _ => true
  | .getIntIdentifier intid => !useCache || (c.find (.value intid)).isNone
  | .identifierIsString ident | .intFromIdentifier ident => !useCache || (c.lookup ident).isNone
  | .utf8FromIdentifier ident => !useCache || (c.getStringCopy ident).isNone

/-- The call ends and returns what asking the browser would have; what does not ask cannot fail. -/
def IdentifierCall.Transparent (b : Browser) (useCache : Bool) (c : NPIdentifierCache) (call : IdentifierCall) (ok : Bool) : Prop :=
  ∃ c', call.cached b useCache c ok = .ok (c', call.invoke b (ok || !call.asks useCache c))

/-- A call that stores nothing but what it found out: the browser answers where it is asked, all names are there, and
    an identifier is asked for what it is of. -/
def IdentifierCall.Sound (b : Browser) (useCache : Bool) (c : NPIdentifierCache) (ok : Bool) (call : IdentifierCall) : Prop :=
  useCache = true → match call with
    | .getStringIdentifier _ | .getIntIdentifier _ => call.asks useCache c = true → ok = true
    | .getStringIdentifiers names identifiers =>
      (ok = true ∨ identifiers = names.map b.getStringIdentifier) ∧ ∀ name ∈ names, name.isSome = true
    | .identifierIsString _ => True
    | .utf8FromIdentifier ident => b.identifierIsString ident = true ∧ (call.asks useCache c = true → ok = true)
    | .intFromIdentifier ident =>
      b.identifierIsString ident = false ∧ (call.asks useCache c = true → ok = true ∨ b.intFromIdentifier ident = -1)

variable {b : Browser} {c : NPIdentifierCache}

/-- A sound call is answered as the browser would, and the cache stays as it should be. -/
theorem IdentifierCall.cached_faithful {call : IdentifierCall} {ok : Bool} (h : Faithful b c) (hvalid : call.Valid b)
    (hsound : call.Sound b true c ok) :
    ∃ c', call.cached b true c ok = .ok (c', call.invoke b (ok || !call.asks true c)) ∧ Faithful b c' := by
  have hsound := hsound rfl
  cases call with
  | getStringIdentifier name =>
    cases hfind : c.find (.string name) with
    | some ident =>
      have hident : ident = b.getStringIdentifier (some name) := h.find hfind
      refine ⟨c, ?_, h⟩
      simp only [cached, cachedNPNGetStringIdentifier, hfind, asks, invoke, invokeNPNGetStringIdentifier, hident]
      simp [Except.map]
    | none =>
      have hok : ok = true := hsound (by simp [asks, hfind])
      subst hok
      have htells : Tells b (b.getStringIdentifier (some name)) (.string name) := rfl
      refine ⟨_, ?_, (h.reserve 1).add htells⟩
      simp only [cached, cachedNPNGetStringIdentifier, hfind, invoke, invokeNPNGetStringIdentifier]
      rfl
  | getStringIdentifiers names identifiers =>
    obtain ⟨hidents, hnames⟩ := hsound
    have hall : invokeNPNGetStringIdentifiers b ok names identifiers = names.map b.getStringIdentifier := by
      unfold invokeNPNGetStringIdentifiers
      split
      · rfl
      · exact hidents.resolve_left (by assumption)
    have hpairs : ∀ pair ∈ (names.map b.getStringIdentifier).zip names, ∃ s, pair = (b.getStringIdentifier (some s), some s) := by
      have hzip : (names.map b.getStringIdentifier).zip names = names.map fun name => (b.getStringIdentifier name, name) := by
        rw [← List.zip_map', List.map_id']
      rw [hzip]
      intro pair hmem
      obtain ⟨name, hname, rfl⟩ := List.mem_map.mp hmem
      obtain ⟨s, rfl⟩ := Option.isSome_iff_exists.mp (hnames name hname)
      exact ⟨s, rfl⟩
    obtain ⟨c', hstore, hc'⟩ := h.storeStrings hpairs
    refine ⟨c', ?_, hc'⟩
    simp only [cached, cachedNPNGetStringIdentifiers, hall, hstore, asks, invoke, Bool.not_true, Bool.or_false]
    rfl
  | getIntIdentifier intid =>
    cases hfind : c.find (.value intid) with
    | some ident =>
      have hident : ident = b.getIntIdentifier intid := h.find hfind
      refine ⟨c, ?_, h⟩
      simp only [cached, cachedNPNGetIntIdentifier, hfind, asks, invoke, invokeNPNGetIntIdentifier, hident]
      simp [Except.map]
    | none =>
      have hok : ok = true := hsound (by simp [asks, hfind])
      subst hok
      have htells : Tells b (b.getIntIdentifier intid) (.value intid) := rfl
      refine ⟨_, ?_, (h.reserve 1).add htells⟩
      simp only [cached, cachedNPNGetIntIdentifier, hfind, invoke, invokeNPNGetIntIdentifier]
      rfl
  | identifierIsString ident =>
    refine ⟨c, ?_, h⟩
    cases hlookup : c.lookup ident with
    | none =>
      simp only [cached, cachedNPNIdentifierIsString, hlookup, asks, invoke]
      simp [Except.map]
    | some info =>
      have htells := h ident info hlookup
      cases info with
      | string s =>
        simp only [cached, cachedNPNIdentifierIsString, hlookup, asks, invoke, invokeNPNIdentifierIsString, htells.isString]
        simp [Except.map]
      | value n =>
        simp only [cached, cachedNPNIdentifierIsString, hlookup, asks, invoke, invokeNPNIdentifierIsString, htells.isInt]
        simp [Except.map]
  | utf8FromIdentifier ident =>
    obtain ⟨hstring, hasks⟩ := hsound
    cases hcopy : c.getStringCopy ident with
    | some s =>
      have htells : ident = b.getStringIdentifier (some s) := h ident _ (getStringCopy_some.mp hcopy)
      refine ⟨c, ?_, h⟩
      simp only [cached, cachedNPNUTF8FromIdentifier, hcopy, asks, invoke, invokeNPNUTF8FromIdentifier]
      rw [htells, b.string_utf8]
      simp [Except.map]
    | none =>
      have hok : ok = true := hasks (by simp [asks, hcopy])
      subst hok
      rcases hvalid with ⟨s, rfl⟩ | ⟨n, rfl⟩
      · have htells : Tells b (b.getStringIdentifier (some s)) (.string s) := rfl
        refine ⟨_, ?_, (h.reserve 1).add htells⟩
        simp only [cached, cachedNPNUTF8FromIdentifier, hcopy, invoke, invokeNPNUTF8FromIdentifier, b.string_utf8]
        simp [Except.map, addString]
      · rw [b.int_isString] at hstring
        cases hstring
  | intFromIdentifier ident =>
    obtain ⟨hint, hasks⟩ := hsound
    cases hlookup : c.lookup ident with
    | some info =>
      have htells := h ident info hlookup
      cases info with
      | string s =>
        rw [htells.isString] at hint
        cases hint
      | value n =>
        refine ⟨c, ?_, h⟩
        simp only [cached, cachedNPNIntFromIdentifier, hlookup, asks, invoke, invokeNPNIntFromIdentifier]
        rw [show ident = _ from htells, b.int_int]
        simp [Except.map]
    | none =>
      have hok := hasks (by simp [asks, hlookup])
      rcases hvalid with ⟨s, rfl⟩ | ⟨n, rfl⟩
      · rw [b.string_isString] at hint
        cases hint
      · rw [b.int_int] at hok
        have hvalue : invokeNPNIntFromIdentifier b ok (b.getIntIdentifier n) = n := by
          unfold invokeNPNIntFromIdentifier
          split
          · exact b.int_int n
          · exact (hok.resolve_left (by assumption)).symm
        have htells : Tells b (b.getIntIdentifier n) (.value n) := rfl
        refine ⟨_, ?_, (h.reserve 1).add htells⟩
        simp only [cached, cachedNPNIntFromIdentifier, hlookup, hvalue, invoke]
        simp [Except.map, addInt, asks, hlookup, hvalue]

/-- Without a cache there is nothing to go wrong. -/
theorem IdentifierCall.uncached_transparent (call : IdentifierCall) (ok : Bool) : call.Transparent b false c ok := by
  refine ⟨c, ?_⟩
  have hasks : call.asks false c = true := by cases call <;> rfl
  rw [hasks, Bool.not_true, Bool.or_false]
  rfl

def IdentifierEvent.Sound (b : Browser) (useCache : Bool) (c : NPIdentifierCache) : IdentifierEvent → Prop
  | .call asked ok => asked.Sound b useCache c ok
  | .invalidate => True

theorem sound_faithful {useCache : Bool} (h : ((identifierCalls b useCache).restrict (IdentifierEvent.Sound b useCache)).Reachable c) :
    Faithful b c := by
  refine h.invariant (Faithful b) ?_ ?_
  · rintro c rfl
    exact faithful_none
  · rintro c e c' - hc ⟨hsound, hs⟩
    cases e with
    | call call ok =>
      obtain ⟨hvalid, answer, hcall⟩ := hs
      cases useCache with
      | true =>
        obtain ⟨c₁, hcall₁, hc₁⟩ := call.cached_faithful hc hvalid hsound
        cases hcall.symm.trans hcall₁
        exact hc₁
      | false =>
        cases hcall
        exact hc
    | invalidate =>
      rw [show c' = c.invalidate from hs]
      exact Faithful.invalidate c

/-- In a run of sound calls every sound call ends, with the answer the browser would have given, and the cache has never
    more entries than it may. -/
theorem identifiers_transparent {useCache : Bool}
    (h : ((identifierCalls b useCache).restrict (IdentifierEvent.Sound b useCache)).Reachable c) :
    c.size ≤ npidentifierCacheSize ∧ ∀ (call : IdentifierCall) (ok : Bool), call.Valid b → call.Sound b useCache c ok →
      call.Transparent b useCache c ok := by
  refine ⟨size_of_reachable h.of_restrict, fun call ok hvalid hsound => ?_⟩
  cases useCache with
  | true =>
    obtain ⟨c', hcall, -⟩ := call.cached_faithful (sound_faithful h) hvalid hsound
    exact ⟨c', hcall⟩
  | false => exact call.uncached_transparent ok

/-! ### A browser -/

def CString.number (s : CString) : Nat := Nat.ofDigits 257 (s.bytes.map fun x => x.toNat + 1)

def CString.ofNumber (n : Nat) : CString := CString.ofBytes ((Nat.digits 257 n).map fun d => UInt8.ofNat (d - 1))

theorem CString.ofNumber_number (s : CString) : CString.ofNumber s.number = s := by
  have hdigits : Nat.digits 257 s.number = s.bytes.map fun x => x.toNat + 1 := by
    refine Nat.digits_ofDigits 257 (by decide) _ (fun d hd => ?_) fun hne => ?_
    · obtain ⟨x, -, rfl⟩ := List.mem_map.mp hd
      have := x.toNat_lt
      omega
    · rw [List.getLast_map]
      exact Nat.succ_ne_zero _
  rw [CString.ofNumber, hdigits, List.map_map]
  have hbytes : s.bytes.map ((fun d => UInt8.ofNat (d - 1)) ∘ fun x => x.toNat + 1) = s.bytes := by
    refine List.map_id'' (fun x => ?_) s.bytes
    exact UInt8.ofNat_toNat
  rw [hbytes, CString.ofBytes_bytes]

/-- A browser with odd numbers for strings and even ones for integers. -/
def Browser.numbered : Browser where
  getStringIdentifier s := s.elim 0 fun s => 2 * s.number + 1
  getIntIdentifier n := 2 * n.toUInt32.toNat + 2
  identifierIsString ident := decide (ident % 2 = 1)
  utf8FromIdentifier ident := if ident % 2 = 1 then some (.ofNumber (ident / 2)) else none
  intFromIdentifier ident := (UInt32.ofNat (ident / 2 - 1)).toInt32
  string_isString s := by simp
  string_utf8 s := by
    have hodd : (2 * s.number + 1) % 2 = 1 := by omega
    have hhalf : (2 * s.number + 1) / 2 = s.number := by omega
    simp only [Option.elim_some, hodd, hhalf, if_true, CString.ofNumber_number]
  int_isString n := by simp
  int_utf8 n := by
    have heven : (2 * n.toUInt32.toNat + 2) % 2 ≠ 1 := by omega
    exact if_neg heven
  int_int n := by
    rw [show (2 * n.toUInt32.toNat + 2) / 2 - 1 = n.toUInt32.toNat by omega, UInt32.ofNat_toNat, Int32.toInt32_toUInt32]

/-- What was asked for once is found, whether the browser can be reached or not. -/
theorem found_transparent : ∃ c, ((identifierCalls .numbered true).restrict (IdentifierEvent.Sound .numbered true)).Reachable c ∧
    c.size ≤ npidentifierCacheSize ∧ (IdentifierCall.getIntIdentifier 5).Transparent .numbered true c false := by
  have h₀ := Machine.Reachable.init (m := (identifierCalls .numbered true).restrict (IdentifierEvent.Sound .numbered true))
    (s := none) rfl
  have h₁ := h₀.next (.call (.getIntIdentifier 5) true) ⟨fun _ _ => rfl, trivial, _, rfl⟩
  have h := identifiers_transparent h₁
  exact ⟨_, h₁, h.1, h.2 (.getIntIdentifier 5) false trivial fun _ hasks => by cases hasks⟩

/-- The name of an integer's identifier is NULL, and its length is taken. -/
theorem int_name_faults : ∃ c, (identifierCalls .numbered true).Reachable c ∧
    (IdentifierCall.utf8FromIdentifier (Browser.numbered.getIntIdentifier 5)).Valid .numbered ∧
    (IdentifierCall.utf8FromIdentifier (Browser.numbered.getIntIdentifier 5)).cached .numbered true c true = .error .nullString ∧
    ¬(IdentifierCall.utf8FromIdentifier (Browser.numbered.getIntIdentifier 5)).Transparent .numbered true c true := by
  have h₀ := Machine.Reachable.init (m := identifierCalls .numbered true) (s := none) rfl
  have h₁ := h₀.next (.call (.getIntIdentifier 5) true) ⟨trivial, _, rfl⟩
  have hfault : (IdentifierCall.utf8FromIdentifier (Browser.numbered.getIntIdentifier 5)).cached .numbered true
      (some (AList.insert 12 (.value 5) ∅)) true = .error .nullString := rfl
  refine ⟨_, h₁, .inr ⟨5, rfl⟩, hfault, fun ht => ?_⟩
  obtain ⟨c', hc'⟩ := ht
  cases hfault.symm.trans hc'

end NSPluginWrapper
