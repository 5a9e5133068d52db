import NSPluginWrapper.Rpc.Map
import Mathlib.Data.List.Nodup

/-! The tables of a connection: as long as a table that holds something gets the memory it asks for, it is a finite
    map from keys to what was last stored there. -/

namespace NSPluginWrapper
open Lib

namespace RpcMap
variable {α : Type} {map map' : RpcMap α} {used : List (RpcMapEntry α)} {free i : Nat} {key : Int32} {v : α}
  {entry e : RpcMapEntry α}

/-- What a lookup gives. -/
def value (map : RpcMap α) (key : Int32) : Except RpcMapFault (Option α) := (map.lookup key).map (·.2)

/-- The array is `used`, then `free` free slots. -/
structure Laid (map : RpcMap α) (used : List (RpcMapEntry α)) (free : Nat) : Prop where
  cells : map.entries.getD [] = used.map some ++ List.replicate free (some .zero)
  count : map.nEntries = used.length
  max : map.nEntriesMax = used.length + free
  values : ∀ entry ∈ used, entry.value.isSome
  keys : (used.map (·.key)).Nodup

/-- What the entries say a key stands for. -/
def stored (used : List (RpcMapEntry α)) (key : Int32) : Option α := (used.find? fun entry => entry.key == key).bind (·.value)

/-- A finite map: what a lookup gives is what was last stored, and the occupied entries are the first ones, with
    distinct keys. -/
structure Steady (map : RpcMap α) : Prop where
  laid : ∃ used free, map.Laid used free
  lookup : ∀ key, map.value key = .ok (map.last key)

/-- An insertion of a new key into a table without a free slot gets its memory, unless the table is empty. -/
def Provided (map : RpcMap α) (key : Int32) (memory : Bool) : Prop :=
  map.index key = .ok none → map.nEntries = map.nEntriesMax →
    map.nEntriesMax + nEntriesAlloc ≤ intMax ∧ (map.nEntriesMax ≠ 0 → memory = true)

@[simp] theorem inserted_last (map : RpcMap α) (key k : Int32) (v : α) :
    (map.inserted key v).last k = if k = key then some v else map.last k := Function.update_apply ..

/-! ### The entries -/

theorem search_map (p : RpcMapEntry α → Bool) (rest : Cells α) :
    ∀ used : List (RpcMapEntry α), search p used.length (used.map some ++ rest) = .ok (used.findIdx? p)
  | [] => by simp [search]
  | entry :: used => by
    rw [List.findIdx?_cons]
    cases hp : p entry <;> simp [search, hp, search_map p rest used, Except.map]

theorem stored_of_mem (hkeys : (used.map (·.key)).Nodup) (h : entry ∈ used) : stored used entry.key = entry.value := by
  obtain ⟨found, hfound⟩ : ∃ found, used.find? (fun e => e.key == entry.key) = some found := by
    simpa [← Option.isSome_iff_exists] using ⟨entry, h, rfl⟩
  have hkey : found.key = entry.key := by simpa using List.find?_some hfound
  have heq : found = entry := List.inj_on_of_nodup_map hkeys (List.mem_of_find?_eq_some hfound) h hkey
  rw [stored, hfound, heq]
  rfl

theorem stored_set (hkeys : (used.map (·.key)).Nodup) (hi : used[i]? = some entry) (hkey : e.key = entry.key)
    (k : Int32) : stored (used.set i e) k = if k = entry.key then e.value else stored used k := by
  induction used generalizing i with
  | nil => cases hi
  | cons head used ih =>
    rw [List.map_cons, List.nodup_cons] at hkeys
    obtain ⟨hnot, hkeys⟩ := hkeys
    cases i with
    | zero =>
      cases hi
      by_cases hk : entry.key = k
      · simp [stored, hkey, hk]
      · simp [stored, hkey, hk, Ne.symm hk]
    | succ i =>
      have hne : head.key ≠ entry.key := by
        intro he
        exact hnot (List.mem_map.mpr ⟨entry, List.mem_of_getElem? hi, he.symm⟩)
      have hrest := ih hkeys (by simpa using hi)
      by_cases hk : head.key = k
      · subst hk
        simp [stored, hne]
      · simpa [stored, hk] using hrest

theorem stored_append (hnew : ∀ e ∈ used, e.key ≠ key) (k : Int32) :
    stored (used ++ [⟨some v, key, 0⟩]) k = if k = key then some v else stored used k := by
  by_cases hk : k = key
  · subst hk
    have hnone : used.find? (fun e => e.key == k) = none := by simpa using hnew
    simp [stored, hnone]
  · have hkey : (key == k) = false := by simpa using Ne.symm hk
    simp [stored, hkey, hk]

/-! ### The array -/

theorem read_of_cell (h : (map.entries.getD [])[i]? = some (some entry)) : map.read i = .ok entry := by
  cases hcells : map.entries with
  | none => simp [hcells] at h
  | some cells => simp_all [read]

theorem write_of_lt (h : i < (map.entries.getD []).length) (entry : RpcMapEntry α) :
    map.write i entry = .ok { map with entries := some ((map.entries.getD []).set i (some entry)) } := by
  cases hcells : map.entries with
  | none => simp [hcells] at h
  | some cells => simp_all [write]

namespace Laid

theorem index (h : map.Laid used free) (key : Int32) : map.index key = .ok (used.findIdx? fun entry => entry.key == key) := by
  have hcells := h.cells
  cases he : map.entries with
  | none =>
    have hused : used = [] := by simp_all
    simp [RpcMap.index, he, hused]
  | some cells =>
    simp only [he, Option.getD_some] at hcells
    simp [RpcMap.index, he, hcells, h.count, search_map]

theorem freeSlot (h : map.Laid used free) : map.freeSlot = .ok used.length := by
  have hcells := h.cells
  have hmax := h.max
  cases he : map.entries with
  | none =>
    have hused : used = [] ∧ free = 0 := by simp_all
    simp [RpcMap.freeSlot, he, hmax, hused]
  | some cells =>
    simp only [he, Option.getD_some] at hcells
    have hall : cells = (used ++ List.replicate free RpcMapEntry.zero).map some ++ [] := by simp [hcells]
    have hlen : map.nEntriesMax = (used ++ List.replicate free RpcMapEntry.zero).length := by simp [hmax]
    have hnone : used.findIdx? (fun entry => entry.value.isNone) = none := by
      simpa using h.values
    simp only [RpcMap.freeSlot, he]
    rw [hall, hlen, search_map, List.findIdx?_append, hnone]
    cases free with
    | zero => simp [Except.map]
    | succ free => simp [Except.map, List.replicate_succ, RpcMapEntry.zero, List.findIdx?_cons]

theorem cell (h : map.Laid used free) (hi : used[i]? = some entry) : (map.entries.getD [])[i]? = some (some entry) := by
  obtain ⟨hlt, -⟩ := List.getElem?_eq_some_iff.mp hi
  rw [h.cells, List.getElem?_append_left (by simpa using hlt), List.getElem?_map, hi]
  rfl

theorem inserted (h : map.Laid used free) (key : Int32) (v : α) : (map.inserted key v).Laid used free :=
  ⟨h.cells, h.count, h.max, h.values, h.keys⟩

/-- An entry gets another value under its key. -/
theorem write (h : map.Laid used free) (hi : used[i]? = some entry) (hkey : e.key = entry.key)
    (hvalue : e.value.isSome) : ∃ cells, map.write i e = .ok { map with entries := some cells } ∧
      { map with entries := some cells }.Laid (used.set i e) free := by
  obtain ⟨hlt, hentry⟩ := List.getElem?_eq_some_iff.mp hi
  refine ⟨_, write_of_lt (by simp [h.cells]; omega) e, ?_, ?_, ?_, ?_, ?_⟩
  · rw [Option.getD_some, h.cells, List.set_append_left _ _ (by simpa using hlt), List.map_set]
  · rw [h.count, List.length_set]
  · rw [h.max, List.length_set]
  · intro e he
    rcases List.mem_or_eq_of_mem_set he with he | rfl
    · exact h.values e he
    · exact hvalue
  · have hsame : (used.set i e).map (·.key) = used.map (·.key) := by
      have hself := List.set_getElem_self (show i < (used.map (·.key)).length by simpa using hlt)
      rw [List.getElem_map, hentry] at hself
      rw [List.map_set, hkey, hself]
    rw [hsame]
    exact h.keys

/-- A free slot gets a new key. -/
theorem place (h : map.Laid used (free + 1)) (hnew : ∀ e ∈ used, e.key ≠ key) (value : α) :
    ∃ map', map.place used.length key value = .ok (map', RpcError.noError) ∧
      map'.Laid (used ++ [⟨some value, key, 0⟩]) free ∧ map'.last = Function.update map.last key (some value) := by
  rw [RpcMap.place, write_of_lt (by simp [h.cells])]
  refine ⟨_, rfl, ⟨?_, ?_, ?_, ?_, ?_⟩, rfl⟩
  · simp [RpcMap.inserted, h.cells, List.replicate_succ, List.set_append_right]
  · simp [RpcMap.inserted, h.count]
  · simp only [RpcMap.inserted, h.max, List.length_append, List.length_singleton]
    omega
  · intro e he
    rcases List.mem_append.mp he with he | he
    · exact h.values e he
    · cases List.mem_singleton.mp he
      rfl
  · rw [List.map_append, List.nodup_append]
    refine ⟨h.keys, by simp, ?_⟩
    intro k hk k' hk'
    obtain ⟨e, he, rfl⟩ := List.mem_map.mp hk
    cases List.mem_singleton.mp hk'
    exact hnew e he

/-- The array grows, all slots being taken. -/
theorem grow (h : map.Laid used 0) {cells : Cells α}
    (hcells : clear (realloc map.entries (map.nEntriesMax + nEntriesAlloc)) map.nEntries = .ok cells) :
    { map with entries := some cells, nEntriesMax := map.nEntriesMax + nEntriesAlloc }.Laid used nEntriesAlloc := by
  have hlen : map.nEntriesMax = used.length := h.max
  have hgrown : realloc map.entries (map.nEntriesMax + nEntriesAlloc) = used.map some ++ List.replicate nEntriesAlloc none := by
    rw [realloc, h.cells, hlen]
    simp [List.take_of_length_le]
  rw [hgrown, clear, if_pos (by simp [h.count]), h.count] at hcells
  cases hcells
  exact ⟨by simp, h.count, by simp [hlen], h.values, h.keys⟩

theorem clear_ok (h : map.Laid used 0) :
    ∃ cells, clear (realloc map.entries (map.nEntriesMax + nEntriesAlloc)) map.nEntries = .ok cells := by
  refine ⟨_, if_pos ?_⟩
  rw [realloc, h.cells, h.max, h.count]
  simp

end Laid

/-! ### The operations -/

/-- The array is laid out, and holds what was last stored. -/
def Kept (map : RpcMap α) : Prop := ∃ used free, map.Laid used free ∧ ∀ key, map.last key = stored used key

/-- What an operation makes of a table: it fails and stores nothing, or it succeeds. -/
structure Returns (map map' : RpcMap α) (r : Int) : Prop where
  kept : map'.Kept
  error : r = RpcError.noError ∨ r < 0 ∧ map'.last = map.last

theorem Returns.same {r : Int} (h : map.Returns map' r) (hr : r < 0) : map'.last = map.last := by
  rcases h.error with rfl | ⟨-, hsame⟩
  · cases hr
  · exact hsame

theorem kept_new : (new : RpcMap α).Kept := ⟨[], 0, ⟨rfl, rfl, rfl, nofun, .nil⟩, fun _ => rfl⟩

/-- A key is in the table, or it is not. -/
theorem Kept.find (h : map.Kept) (key : Int32) :
    (map.index key = .ok none ∧ map.last key = none) ∨
      ∃ used free i entry, map.Laid used free ∧ (∀ key, map.last key = stored used key) ∧ used[i]? = some entry ∧
        entry.key = key ∧ map.index key = .ok (some i) := by
  obtain ⟨used, free, hlaid, hlast⟩ := h
  cases hi : used.findIdx? (fun entry => entry.key == key) with
  | none =>
    have hnone : used.find? (fun entry => entry.key == key) = none := by simpa using hi
    exact .inl ⟨by rw [hlaid.index, hi], by rw [hlast, stored, hnone]; rfl⟩
  | some i =>
    obtain ⟨hlt, hkey, -⟩ := List.findIdx?_eq_some_iff_getElem.mp hi
    exact .inr ⟨used, free, i, used[i], hlaid, hlast, by simp [hlt], by simpa using hkey, by rw [hlaid.index, hi]⟩

theorem Kept.lookup (h : map.Kept) (key : Int32) : ∃ map', map.lookup key = .ok (map', map.last key) ∧ map'.Kept ∧
    map'.last = map.last ∧ (map.last key = none → map' = map) := by
  rcases h.find key with ⟨hindex, hlast⟩ | ⟨used, free, i, entry, hlaid, hlast, hi, rfl, hindex⟩
  · refine ⟨map, ?_, h, rfl, fun _ => rfl⟩
    rw [RpcMap.lookup, hindex, hlast]
    rfl
  · have hmem := List.mem_of_getElem? hi
    have hvalue := hlaid.values entry hmem
    have hstored := stored_of_mem hlaid.keys hmem
    obtain ⟨cells, hwrite, hkeep⟩ := hlaid.write (e := { entry with useCount := entry.useCount + 1 }) hi rfl hvalue
    refine ⟨_, ?_, ⟨_, _, hkeep, fun key => ?_⟩, rfl, fun hnone => ?_⟩
    · simp only [RpcMap.lookup, hindex, read_of_cell (hlaid.cell hi), hwrite, hlast, hstored, bind, Except.bind, pure, Except.pure]
    · rw [hlast, stored_set (e := { entry with useCount := entry.useCount + 1 }) hlaid.keys hi rfl]
      split
      · rename_i hk
        rw [hk, hstored]
      · rfl
    · rw [hlast, hstored] at hnone
      rw [hnone] at hvalue
      cases hvalue

theorem Kept.insert (h : map.Kept) {memory : Bool} (hprov : map.Provided key memory) (v : α) :
    ∃ map' r, map.insert key v memory = .ok (map', r) ∧ map.Returns map' r := by
  rcases h.find key with ⟨hindex, hlast⟩ | ⟨used, free, i, entry, hlaid, hlast, hi, rfl, hindex⟩
  · obtain ⟨used, free, hlaid, hstored⟩ := h
    have hnew : ∀ e ∈ used, e.key ≠ key := by simpa [hlaid.index] using hindex
    have hslot := hlaid.freeSlot
    have hmax := hlaid.max
    simp only [RpcMap.insert, hindex, hslot, bind, Except.bind, pure, Except.pure]
    cases free with
    | succ free =>
      rw [if_pos (by omega)]
      obtain ⟨map', hplace, hlaid', hlast'⟩ := hlaid.place hnew v
      refine ⟨map', _, hplace, ⟨_, _, hlaid', fun k => ?_⟩, .inl rfl⟩
      rw [hlast', stored_append hnew, Function.update_apply, hstored]
    | zero =>
      obtain ⟨hint, hmemory⟩ := hprov hindex (by rw [hlaid.count, hmax]; rfl)
      rw [if_neg (by omega), if_neg (by omega)]
      cases memory with
      | true =>
        obtain ⟨cells, hcells⟩ := hlaid.clear_ok
        rw [if_pos rfl, hcells]
        obtain ⟨map', hplace, hlaid', hlast'⟩ := (hlaid.grow hcells).place hnew v
        rw [← hlaid.count] at hplace
        refine ⟨map', _, hplace, ⟨_, _, hlaid', fun k => ?_⟩, .inl rfl⟩
        rw [hlast', stored_append hnew, Function.update_apply, hstored]
      | false =>
        have hempty : used = [] := by
          have := not_imp_comm.mp hmemory nofun
          exact List.length_eq_zero_iff.mp (by omega)
        refine ⟨_, _, if_neg nofun, ⟨[], 0, ⟨rfl, ?_, ?_, nofun, .nil⟩, ?_⟩, .inr ⟨by decide, rfl⟩⟩
        · rw [hlaid.count, hempty]
        · rw [hmax, hempty]
        · rw [← hempty]
          exact hstored
  · obtain ⟨cells, hwrite, hkeep⟩ :=
      hlaid.write (e := { entry with value := some v, useCount := 0 }) hi rfl rfl
    refine ⟨_, _, ?_, ⟨⟨_, _, hkeep.inserted entry.key v, fun key => ?_⟩, .inl rfl⟩⟩
    · simp only [RpcMap.insert, hindex, read_of_cell (hlaid.cell hi), hwrite, bind, Except.bind, pure, Except.pure]
    · rw [stored_set (e := { entry with value := some v, useCount := 0 }) hlaid.keys hi rfl, inserted_last, hlast]

theorem Kept.register [DecidableEq α] (h : map.Kept) {block memory : Bool} (hprov : block = true → map.Provided key memory)
    (v : α) : ∃ map' r, map.register key v block memory = .ok (map', r) ∧ map.Returns map' r := by
  obtain ⟨map', hlookup, hkept, hsame, hnone⟩ := h.lookup key
  simp only [RpcMap.register, hlookup, bind, Except.bind, pure, Except.pure]
  cases hlast : map.last key with
  | some desc =>
    refine ⟨_, _, rfl, hkept, ?_⟩
    by_cases hdesc : desc = v
    · exact .inl (if_pos hdesc)
    · refine .inr ⟨?_, hsame⟩
      rw [if_neg hdesc]
      decide
  | none =>
    cases hnone hlast
    cases block with
    | true => exact h.insert (hprov rfl) v
    | false => exact ⟨_, _, rfl, h, .inr ⟨by decide, rfl⟩⟩

theorem Kept.steady (h : map.Kept) : map.Steady := by
  refine ⟨?_, fun key => ?_⟩
  · obtain ⟨used, free, hlaid, -⟩ := h
    exact ⟨used, free, hlaid⟩
  · obtain ⟨map', hlookup, -⟩ := h.lookup key
    rw [value, hlookup]
    rfl

end RpcMap

/-! ### A connection -/

section
variable {γ : Type} [DecidableEq γ]

def ProvidedType (types : RpcMap (RpcMessageDescriptor γ)) (desc : RpcMessageDescriptor γ) (m : Memory) : Prop :=
  m.malloc = true → types.Provided desc.id m.realloc

def ProvidedMethod (methods : RpcMap γ) (desc : RpcMethodDescriptor γ) (m : Memory) : Prop :=
  methods.Provided desc.id m.realloc

/-- Each of several descriptors, when its turn comes. -/
def ProvidedTypes (types : RpcMap (RpcMessageDescriptor γ)) : List (RpcMessageDescriptor γ × Memory) → Prop
  | [] => True
  | (desc, m) :: descs => ProvidedType types desc m ∧
      ∀ types' error, rpcConnectionAddMessageDescriptor types desc m = .ok (types', error) → 0 ≤ error → ProvidedTypes types' descs

def ProvidedMethods (methods : RpcMap γ) : List (RpcMethodDescriptor γ × Memory) → Prop
  | [] => True
  | (desc, m) :: descs => ProvidedMethod methods desc m ∧
      ∀ methods' error, rpcConnectionAddMethodDescriptor methods desc m = .ok (methods', error) →
        error = RpcError.noError → ProvidedMethods methods' descs

theorem addMessageDescriptors_kept {types : RpcMap (RpcMessageDescriptor γ)} (h : types.Kept)
    {descs : List (RpcMessageDescriptor γ × Memory)} (hprov : ProvidedTypes types descs) :
    ∃ types' r, rpcConnectionAddMessageDescriptors types descs = .ok (types', r) ∧ types'.Kept := by
  induction descs generalizing types with
  | nil => exact ⟨_, _, rfl, h⟩
  | cons d descs ih =>
    obtain ⟨hd, hrest⟩ := hprov
    obtain ⟨types', r, hadd, hkept, -⟩ := h.register hd d.1
    have hadd : rpcConnectionAddMessageDescriptor types d.1 d.2 = .ok (types', r) := hadd
    simp only [rpcConnectionAddMessageDescriptors, hadd, bind, Except.bind, pure, Except.pure]
    by_cases hr : r < 0
    · exact ⟨_, _, if_pos hr, hkept⟩
    · rw [if_neg hr]
      exact ih hkept (hrest _ _ hadd (Int.not_lt.mp hr))

theorem addMethodDescriptors_kept {methods : RpcMap γ} (h : methods.Kept) {descs : List (RpcMethodDescriptor γ × Memory)}
    (hprov : ProvidedMethods methods descs) : ∃ methods' r, addMethodDescriptorsLoop methods descs = .ok (methods', r) ∧ methods'.Kept := by
  induction descs generalizing methods with
  | nil => exact ⟨_, _, rfl, h⟩
  | cons d descs ih =>
    obtain ⟨hd, hrest⟩ := hprov
    obtain ⟨methods', r, hadd, hkept, -⟩ := h.register (fun _ => hd) d.1.callback
    have hadd : rpcConnectionAddMethodDescriptor methods d.1 d.2 = .ok (methods', r) := hadd
    simp only [addMethodDescriptorsLoop, hadd, bind, Except.bind, pure, Except.pure]
    by_cases hr : r = RpcError.noError
    · rw [if_neg (not_not.mpr hr)]
      exact ih hkept (hrest _ _ hadd hr)
    · exact ⟨_, _, if_pos hr, hkept⟩

namespace RpcTablesCall

/-- The insertions that a call makes are provided with memory. -/
def Provided (t : RpcTables γ) : RpcTablesCall γ → Prop
  | insertType key _ memory => t.types.Provided key memory
  | insertMethod key _ memory => t.methods.Provided key memory
  | lookupType _ | lookupMethod _ => True
  | addMessageDescriptor desc m => ProvidedType t.types desc m
  | addMethodDescriptor desc m => ProvidedMethod t.methods desc m
  | addMessageDescriptors descs => ProvidedTypes t.types descs
  | addMethodDescriptors descs => ProvidedMethods t.methods descs.reverse

/-- At most one insertion. -/
def Single : RpcTablesCall γ → Prop
  | addMessageDescriptors _ | addMethodDescriptors _ => False
  | _ => True

end RpcTablesCall

namespace RpcTables
open RpcTablesCall
variable {t t' : RpcTables γ} {c : RpcTablesCall γ} {r : Int}

structure Kept (t : RpcTables γ) : Prop where
  types : t.types.Kept
  methods : t.methods.Kept

/-- No lookup tells one from the other. -/
def Same (t t' : RpcTables γ) : Prop := ∀ key, t'.types.value key = t.types.value key ∧ t'.methods.value key = t.methods.value key

theorem Kept.call (h : t.Kept) (hprov : c.Provided t) : ∃ t' r, t.call c = .ok (t', r) ∧ t'.Kept ∧
    (c.Single → r < 0 → t'.types.last = t.types.last ∧ t'.methods.last = t.methods.last) := by
  cases c with
  | insertType key value memory =>
    obtain ⟨types, r, hi, hret⟩ := h.types.insert hprov value
    exact ⟨{ t with types }, r, by rw [RpcTables.call, hi]; rfl, ⟨hret.kept, h.methods⟩, fun _ hr => ⟨hret.same hr, rfl⟩⟩
  | insertMethod key value memory =>
    obtain ⟨methods, r, hi, hret⟩ := h.methods.insert hprov value
    exact ⟨{ t with methods }, r, by rw [RpcTables.call, hi]; rfl, ⟨h.types, hret.kept⟩, fun _ hr => ⟨rfl, hret.same hr⟩⟩
  | lookupType key =>
    obtain ⟨types, hl, hkept, hlast, -⟩ := h.types.lookup key
    exact ⟨{ t with types }, _, by rw [RpcTables.call, hl]; rfl, ⟨hkept, h.methods⟩, fun _ _ => ⟨hlast, rfl⟩⟩
  | lookupMethod key =>
    obtain ⟨methods, hl, hkept, hlast, -⟩ := h.methods.lookup key
    exact ⟨{ t with methods }, _, by rw [RpcTables.call, hl]; rfl, ⟨h.types, hkept⟩, fun _ _ => ⟨rfl, hlast⟩⟩
  | addMessageDescriptor desc m =>
    obtain ⟨types, r, hi, hret⟩ := h.types.register hprov desc
    exact ⟨{ t with types }, r, by rw [RpcTables.call, rpcConnectionAddMessageDescriptor, hi]; rfl, ⟨hret.kept, h.methods⟩,
      fun _ hr => ⟨hret.same hr, rfl⟩⟩
  | addMethodDescriptor desc m =>
    obtain ⟨methods, r, hi, hret⟩ := h.methods.register (fun _ => hprov) desc.callback
    exact ⟨{ t with methods }, r, by rw [RpcTables.call, rpcConnectionAddMethodDescriptor, hi]; rfl, ⟨h.types, hret.kept⟩,
      fun _ hr => ⟨rfl, hret.same hr⟩⟩
  | addMessageDescriptors descs =>
    obtain ⟨types, r, hi, hkept⟩ := addMessageDescriptors_kept h.types hprov
    exact ⟨{ t with types }, r, by rw [RpcTables.call, hi]; rfl, ⟨hkept, h.methods⟩, nofun⟩
  | addMethodDescriptors descs =>
    obtain ⟨methods, r, hi, hkept⟩ := addMethodDescriptors_kept h.methods hprov
    exact ⟨{ t with methods }, r, by rw [RpcTables.call, rpcConnectionAddMethodDescriptors, hi]; rfl, ⟨h.types, hkept⟩, nofun⟩

theorem kept_of_reachable {s : Except RpcMapFault (RpcTables γ)}
    (h : ((rpcTables γ).restrict fun s c => ∀ t, s = .ok t → c.Provided t).Reachable s) : ∃ t, s = .ok t ∧ t.Kept := by
  refine h.invariant (fun s => ∃ t, s = .ok t ∧ t.Kept) ?_ ?_
  · rintro _ rfl
    exact ⟨_, rfl, RpcMap.kept_new, RpcMap.kept_new⟩
  · rintro _ c _ - ⟨t, rfl, hkept⟩ ⟨hprov, t', ht, rfl⟩
    cases ht
    obtain ⟨t', r, hcall, hkept', -⟩ := hkept.call (hprov t rfl)
    exact ⟨t', by rw [hcall]; rfl, hkept'⟩

/-- In a run in which a table that holds something gets the memory it asks for, both tables are finite maps, and a call
    that fails changes no lookup. -/
theorem tables_steady {s : Except RpcMapFault (RpcTables γ)}
    (h : ((rpcTables γ).restrict fun s c => ∀ t, s = .ok t → c.Provided t).Reachable s) :
    ∃ t, s = .ok t ∧ t.types.Steady ∧ t.methods.Steady ∧
      ∀ c t' r, c.Single → c.Provided t → t.call c = .ok (t', r) → r < 0 → t.Same t' := by
  obtain ⟨t, rfl, hkept⟩ := kept_of_reachable h
  refine ⟨t, rfl, hkept.types.steady, hkept.methods.steady, fun c t' r hc hprov hcall hr key => ?_⟩
  obtain ⟨t'', r', hcall', hkept', hsame⟩ := hkept.call hprov
  cases hcall.symm.trans hcall'
  obtain ⟨htypes, hmethods⟩ := hsame hc hr
  rw [hkept'.types.steady.lookup, hkept'.methods.steady.lookup, htypes, hmethods, hkept.types.steady.lookup,
    hkept.methods.steady.lookup]
  exact ⟨rfl, rfl⟩

end RpcTables
end

/-- Two ids are registered, one of them again. -/
theorem tables_steady_once : ∃ t : RpcTables Nat, ((RpcTables.new.call (.addMethodDescriptors
    [(⟨1, 10⟩, ⟨true, true⟩), (⟨2, 20⟩, ⟨true, true⟩)])).bind fun t => t.1.call (.addMethodDescriptor ⟨1, 30⟩ ⟨true, true⟩)).map
      (·.1) = .ok t ∧ t.types.Steady ∧ t.methods.Steady := by
  have h₀ : ((rpcTables Nat).restrict fun s c => ∀ t, s = .ok t → c.Provided t).Reachable (.ok .new) := .init rfl
  have h₁ := h₀.next (.addMethodDescriptors [(⟨1, 10⟩, ⟨true, true⟩), (⟨2, 20⟩, ⟨true, true⟩)])
    ⟨fun t ht => (by
      cases ht
      refine ⟨fun _ _ => ⟨by decide, nofun⟩, fun methods error hadd _ => ?_⟩
      cases hadd
      exact ⟨fun _ => nofun, fun _ _ _ _ => trivial⟩), _, rfl, rfl⟩
  have h₂ := h₁.next (.addMethodDescriptor ⟨1, 30⟩ ⟨true, true⟩) ⟨fun t ht => (by cases ht; exact nofun), _, rfl, rfl⟩
  obtain ⟨t, ht, htypes, hmethods, -⟩ := RpcTables.tables_steady h₂
  exact ⟨t, ht, htypes, hmethods⟩

/-- The eighth key does not get its memory, and the seven others are lost. -/
theorem tables_lost : ¬ ∀ s, (rpcTables Nat).Reachable s → ∃ t, s = .ok t ∧ t.types.Steady ∧ t.methods.Steady := by
  intro h
  have h₀ : (rpcTables Nat).Reachable (.ok .new) := .init rfl
  have h₁ := h₀.next (.addMethodDescriptors
    [(⟨7, 70⟩, ⟨true, true⟩), (⟨6, 60⟩, ⟨true, true⟩), (⟨5, 50⟩, ⟨true, true⟩), (⟨4, 40⟩, ⟨true, true⟩),
      (⟨3, 30⟩, ⟨true, true⟩), (⟨2, 20⟩, ⟨true, true⟩), (⟨1, 10⟩, ⟨true, true⟩)]) ⟨_, rfl, rfl⟩
  have h₂ := h₁.next (.insertMethod 8 80 false) ⟨_, rfl, rfl⟩
  obtain ⟨t, ht, -, hsteady⟩ := h _ h₂
  cases ht
  cases hsteady.lookup 1

end NSPluginWrapper
