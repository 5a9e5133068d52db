import NSPluginWrapper.Lib.Machine
import NSPluginWrapper.Lib.Table

/-! utils.c and npw-rpc.c: the ids of the wrapper, one table for instances, streams, print jobs and identifiers,
    from NP_Initialize to NP_Shutdown. -/

namespace NSPluginWrapper
open Lib

/-- `g_ids`, and the counter of id_create(), which goes on from the least `int` where it overflows. -/
structure Ids where
  table : Table UInt32 UInt64
  id : Int32

namespace Ids

def link (ids : Ids) (id : Int32) (ptr : UInt64) : Ids := { ids with table := ids.table.insert id.toUInt32 ptr }

def create (ids : Ids) (ptr : UInt64) : Ids × Int32 :=
  let id := ids.id + 1
  ({ ids with id }.link id ptr, id)

def remove (ids : Ids) (id : Int32) : Ids := { ids with table := ids.table.erase id.toUInt32 }

def lookup (ids : Ids) (id : Int32) : Option UInt64 := ids.table.lookup id.toUInt32

/-- g_hash_table_find() meets the keys in some `order`. -/
def lookupValue (ids : Ids) (order : List UInt32) (ptr : UInt64) : Int32 :=
  ((order.find? fun key => ids.table.lookup key == some ptr).map UInt32.toInt32).getD (-1)

/-- Nothing where an assertion fails. -/
def doSendNPIdentifier (ids : Ids) (order : List UInt32) (ident : UInt64) : Option (Ids × UInt32) :=
  if ident = 0 then
    some (ids, 0)
  else
    let id := ids.lookupValue order ident
    let (ids, id) := if id < 0 then ids.create ident else (ids, id)
    if id = 0 then none else some (ids, id.toUInt32)

def doRecvNPIdentifier (ids : Ids) (id : UInt32) : Option UInt64 :=
  if id = 0 then some 0 else (ids.lookup id.toInt32).filter (· ≠ 0)

end Ids

inductive IdKind where
  | pluginInstance
  | stream
  | print
  deriving Repr, DecidableEq

/-- A PluginInstance or a StreamInstance with its id, or a call of invoke_NPP_Print with `platform_print_id`. -/
structure IdHolder where
  kind : IdKind
  ptr : UInt64
  id : Int32
  deriving Repr, DecidableEq

/-- The ids, what holds one, and the identifiers that the viewer was sent, with the ids they went under. -/
structure IdUse where
  ids : Ids
  holders : List IdHolder
  sent : List (UInt64 × UInt32)

inductive IdEvent where
  /-- g_NPP_New, g_NPN_NewStream, g_NPP_NewStream, and invoke_NPP_Print with a `platformPrint`. -/
  | hold (kind : IdKind) (ptr : UInt64)
  /-- plugin_instance_finalize, g_NPN_DestroyStream, g_NPP_DestroyStream, and the end of invoke_NPP_Print. -/
  | release (h : IdHolder)
  /-- invoke_NPP_Print returns after an error. -/
  | abandon (h : IdHolder)
  | sendIdentifier (ident : UInt64) (order : List UInt32)
  deriving Repr, DecidableEq

/-- malloc() does not give an address that is in use; `platformPrint` is the browser's. -/
def IdUse.Fresh (s : IdUse) (kind : IdKind) (ptr : UInt64) : Prop :=
  ptr ≠ 0 ∧ (kind ≠ .print → ∀ h ∈ s.holders, h.kind ≠ .print → h.ptr ≠ ptr)

/-- Every run of the wrapper as far as it touches the ids. -/
def idUses : Machine IdUse IdEvent where
  init s := s = ⟨⟨∅, 0⟩, [], []⟩
  step s e t := match e with
    | .hold kind ptr =>
      s.Fresh kind ptr ∧
        t = { s with ids := (s.ids.create ptr).1, holders := ⟨kind, ptr, (s.ids.create ptr).2⟩ :: s.holders }
    | .release h => h ∈ s.holders ∧ t = { s with ids := s.ids.remove h.id, holders := s.holders.erase h }
    | .abandon h => h ∈ s.holders ∧ h.kind = .print ∧ t = { s with holders := s.holders.erase h }
    | .sendIdentifier ident order =>
      (∀ key, key ∈ order ↔ key ∈ s.ids.table) ∧ ∃ ids id, s.ids.doSendNPIdentifier order ident = some (ids, id) ∧
        t = { s with ids, sent := (ident, id) :: s.sent }

end NSPluginWrapper
