import NSPluginWrapper.Lib.Machine
import NSPluginWrapper.Rpc.Codes
import Mathlib.Logic.Function.Basic

/-! rpc.c: the tables that a connection keeps of its types and of its methods. A table is an array that grows by
    seven entries. -/

namespace NSPluginWrapper
open Lib

/-- What a table must not do: leave its array, read what was never written, or count past INT_MAX. -/
inductive RpcMapFault where
  | outOfBounds
  | uninitialised
  | overflow
  deriving Repr, DecidableEq

/-- `value` is none in a free slot. -/
structure RpcMapEntry (α : Type) where
  value : Option α
  key : Int32
  useCount : Int32
  deriving Repr, DecidableEq

/-- What memset() writes. -/
def RpcMapEntry.zero {α : Type} : RpcMapEntry α := ⟨none, 0, 0⟩

/-- N_ENTRIES_ALLOC. -/
def nEntriesAlloc : Nat := 7

def intMax : Nat := 2147483647

structure RpcMap (α : Type) where
  nEntries : Nat
  nEntriesMax : Nat
  /-- NULL, or the array, whose new entries are what the memory held before. -/
  entries : Option (List (Option (RpcMapEntry α)))
  /-- Of each key, what its last successful insertion stored. The code keeps no such thing. -/
  last : Int32 → Option α

namespace RpcMap
variable {α : Type}

/-- rpc_map_new(). -/
def new : RpcMap α := ⟨0, 0, none, fun _ => none⟩

abbrev Cells (α : Type) := List (Option (RpcMapEntry α))

/-- The first of `n` cells whose entry meets `p`. -/
def search (p : RpcMapEntry α → Bool) : Nat → Cells α → Except RpcMapFault (Option Nat)
  | 0, _ => .ok none
  | _ + 1, [] => .error .outOfBounds
  | _ + 1, none :: _ => .error .uninitialised
  | n + 1, some entry :: cells => if p entry then .ok (some 0) else (search p n cells).map (Option.map (· + 1))

/-- _rpc_map_lookup(): where a key is. -/
def index (map : RpcMap α) (key : Int32) : Except RpcMapFault (Option Nat) :=
  match map.entries with
  | none => .ok none
  | some cells => search (fun entry => entry.key == key) map.nEntries cells

def read (map : RpcMap α) (i : Nat) : Except RpcMapFault (RpcMapEntry α) :=
  match map.entries.bind fun cells => cells[i]? with
  | some (some entry) => .ok entry
  | some none => .error .uninitialised
  | none => .error .outOfBounds

def write (map : RpcMap α) (i : Nat) (entry : RpcMapEntry α) : Except RpcMapFault (RpcMap α) :=
  match map.entries with
  | some cells =>
    if i < cells.length then .ok { map with entries := some (cells.set i (some entry)) } else .error .outOfBounds
  | none => .error .outOfBounds

def lookup (map : RpcMap α) (key : Int32) : Except RpcMapFault (RpcMap α × Option α) := do
  match ← map.index key with
  | none => return (map, none)
  | some i =>
    let entry ← map.read i
    return (← map.write i { entry with useCount := entry.useCount + 1 }, entry.value)

/-- The search for a free slot, which gives `nEntriesMax` where there is none. -/
def freeSlot (map : RpcMap α) : Except RpcMapFault Nat :=
  match map.entries with
  | none => .ok map.nEntriesMax
  | some cells => (search (fun entry => entry.value.isNone) map.nEntriesMax cells).map fun i => i.getD map.nEntriesMax

/-- realloc() to `n` entries. -/
def realloc (cells : Option (Cells α)) (n : Nat) : Cells α :=
  let cells := (cells.getD []).take n
  cells ++ List.replicate (n - cells.length) none

/-- memset() of `nEntriesAlloc` entries. -/
def clear (cells : Cells α) (i : Nat) : Except RpcMapFault (Cells α) :=
  if i + nEntriesAlloc ≤ cells.length then
    .ok (cells.take i ++ (List.replicate nEntriesAlloc (some .zero) ++ cells.drop (i + nEntriesAlloc)))
  else .error .outOfBounds

def inserted (map : RpcMap α) (key : Int32) (value : α) : RpcMap α :=
  { map with last := Function.update map.last key (some value) }

/-- The new entry, in slot `i`. -/
def place (map : RpcMap α) (i : Nat) (key : Int32) (value : α) : Except RpcMapFault (RpcMap α × Int) := do
  let map ← map.write i ⟨some value, key, 0⟩
  return ({ map with nEntries := map.nEntries + 1 }.inserted key value, RpcError.noError)

/-- `memory` says whether realloc() succeeds. -/
def insert (map : RpcMap α) (key : Int32) (value : α) (memory : Bool) : Except RpcMapFault (RpcMap α × Int) := do
  match ← map.index key with
  | some i =>
    let entry ← map.read i
    let map ← map.write i { entry with value := some value, useCount := 0 }
    return (map.inserted key value, RpcError.noError)
  | none =>
    let i ← map.freeSlot
    if i < map.nEntriesMax then map.place i key value
    else if intMax < map.nEntriesMax + nEntriesAlloc then .error .overflow
    else if memory then
      let cells ← clear (realloc map.entries (map.nEntriesMax + nEntriesAlloc)) map.nEntries
      { map with entries := some cells, nEntriesMax := map.nEntriesMax + nEntriesAlloc }.place map.nEntries key value
    else return ({ map with entries := none }, RpcError.noMemory)

/-- What an id stands for is not changed by registering it again. `block` says whether the descriptor is
    copied. -/
def register [DecidableEq α] (map : RpcMap α) (id : Int32) (value : α) (block memory : Bool) :
    Except RpcMapFault (RpcMap α × Int) := do
  let (map, found) ← map.lookup id
  match found with
  | some desc => return (map, if desc = value then RpcError.noError else RpcError.generic)
  | none => if block then map.insert id value memory else return (map, RpcError.noMemory)

end RpcMap

/-! ### Descriptors -/

/-- Callbacks are known by their addresses, of type `γ`. -/
structure RpcMessageDescriptor (γ : Type) where
  id : Int32
  size : Int32
  sendCallback : γ
  recvCallback : γ
  deriving Repr, DecidableEq

structure RpcMethodDescriptor (γ : Type) where
  id : Int32
  callback : γ
  deriving Repr, DecidableEq

/-- What malloc() and realloc() give to one registration. -/
structure Memory where
  malloc : Bool
  realloc : Bool
  deriving Repr, DecidableEq

section
variable {γ : Type} [DecidableEq γ]

def rpcConnectionAddMessageDescriptor (types : RpcMap (RpcMessageDescriptor γ)) (desc : RpcMessageDescriptor γ) (m : Memory) :
    Except RpcMapFault (RpcMap (RpcMessageDescriptor γ) × Int) := types.register desc.id desc m.malloc m.realloc

def rpcConnectionAddMethodDescriptor (methods : RpcMap γ) (desc : RpcMethodDescriptor γ) (m : Memory) :
    Except RpcMapFault (RpcMap γ × Int) := methods.register desc.id desc.callback true m.realloc

/-- From the first to the last. -/
def rpcConnectionAddMessageDescriptors (types : RpcMap (RpcMessageDescriptor γ)) :
    List (RpcMessageDescriptor γ × Memory) → Except RpcMapFault (RpcMap (RpcMessageDescriptor γ) × Int)
  | [] => .ok (types, RpcError.noError)
  | (desc, m) :: descs => do
    let (types, error) ← rpcConnectionAddMessageDescriptor types desc m
    if error < 0 then return (types, error) else rpcConnectionAddMessageDescriptors types descs

/-- `descs` come as the loop takes them, from the last to the first. -/
def addMethodDescriptorsLoop (methods : RpcMap γ) :
    List (RpcMethodDescriptor γ × Memory) → Except RpcMapFault (RpcMap γ × Int)
  | [] => .ok (methods, RpcError.noError)
  | (desc, m) :: descs => do
    let (methods, error) ← rpcConnectionAddMethodDescriptor methods desc m
    if error ≠ RpcError.noError then return (methods, error) else addMethodDescriptorsLoop methods descs

def rpcConnectionAddMethodDescriptors (methods : RpcMap γ) (descs : List (RpcMethodDescriptor γ × Memory)) :
    Except RpcMapFault (RpcMap γ × Int) := addMethodDescriptorsLoop methods descs.reverse

end

/-! ### A connection -/

/-- The tables of a connection. -/
structure RpcTables (γ : Type) where
  types : RpcMap (RpcMessageDescriptor γ)
  methods : RpcMap γ

inductive RpcTablesCall (γ : Type) where
  | insertType (key : Int32) (value : RpcMessageDescriptor γ) (memory : Bool)
  | insertMethod (key : Int32) (value : γ) (memory : Bool)
  | lookupType (key : Int32)
  | lookupMethod (key : Int32)
  | addMessageDescriptor (desc : RpcMessageDescriptor γ) (m : Memory)
  | addMethodDescriptor (desc : RpcMethodDescriptor γ) (m : Memory)
  | addMessageDescriptors (descs : List (RpcMessageDescriptor γ × Memory))
  | addMethodDescriptors (descs : List (RpcMethodDescriptor γ × Memory))

namespace RpcTables
variable {γ : Type} [DecidableEq γ]

def new : RpcTables γ := ⟨.new, .new⟩

/-- The tables after a call, and its result; a lookup has none. -/
def call (t : RpcTables γ) : RpcTablesCall γ → Except RpcMapFault (RpcTables γ × Int)
  | .insertType key value memory => (t.types.insert key value memory).map fun (types, r) => ({ t with types }, r)
  | .insertMethod key value memory => (t.methods.insert key value memory).map fun (methods, r) => ({ t with methods }, r)
  | .lookupType key => (t.types.lookup key).map fun (types, _) => ({ t with types }, RpcError.noError)
  | .lookupMethod key => (t.methods.lookup key).map fun (methods, _) => ({ t with methods }, RpcError.noError)
  | .addMessageDescriptor desc m =>
    (rpcConnectionAddMessageDescriptor t.types desc m).map fun (types, r) => ({ t with types }, r)
  | .addMethodDescriptor desc m =>
    (rpcConnectionAddMethodDescriptor t.methods desc m).map fun (methods, r) => ({ t with methods }, r)
  | .addMessageDescriptors descs =>
    (rpcConnectionAddMessageDescriptors t.types descs).map fun (types, r) => ({ t with types }, r)
  | .addMethodDescriptors descs =>
    (rpcConnectionAddMethodDescriptors t.methods descs).map fun (methods, r) => ({ t with methods }, r)

end RpcTables

/-- A connection's tables from when it is made; a call that goes wrong ends the run. -/
def rpcTables (γ : Type) [DecidableEq γ] : Machine (Except RpcMapFault (RpcTables γ)) (RpcTablesCall γ) where
  init s := s = .ok .new
  step s c t := ∃ v, s = .ok v ∧ t = (v.call c).map (·.1)

end NSPluginWrapper
