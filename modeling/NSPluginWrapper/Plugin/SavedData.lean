import NSPluginWrapper.Npapi.Marshal
import NSPluginWrapper.Plugin.Info

/-! npw-wrapper.c and npw-viewer.c: the way of the data that NPP_Destroy saves, to the browser and into a later
    NPP_New, by the blocks that it is in. The functions of the Konqueror thunks are the LONG64 ones. -/

namespace NSPluginWrapper
namespace SavedData

/-- malloc() of a process, NPN_MemAlloc() of the browser and NPN_MemAlloc() of the viewer. -/
inductive Allocator where
  | libc
  | browser
  | npw
  deriving Repr, DecidableEq

/-- An object in memory, which an allocator gave or, with no `source`, the stack. -/
structure Block where
  source : Option Allocator
  size : Nat
  frees : List Allocator
  deriving Repr, DecidableEq

/-- The memory of one process. `overrun` says that more was written to an object than it has room for. -/
structure Heap where
  blocks : List Block
  overrun : Bool
  deriving Repr, DecidableEq

namespace Heap

def empty : Heap := ⟨[], false⟩

def object (heap : Heap) (source : Option Allocator) (size : Nat) : Nat × Heap :=
  (heap.blocks.length, { heap with blocks := heap.blocks ++ [⟨source, size, []⟩] })

def alloc (heap : Heap) (allocator : Allocator) (size : Nat) : Nat × Heap := heap.object (some allocator) size

/-- A structure or bytes of that size. -/
def write (heap : Heap) (block size : Nat) : Heap :=
  { heap with overrun := heap.overrun || heap.blocks[block]?.any fun b => b.size < size }

def free (heap : Heap) (allocator : Allocator) (block : Nat) : Heap :=
  { heap with blocks := heap.blocks.modify block fun b => { b with frees := allocator :: b.frees } }

end Heap

/-- An NPSavedData, whose `data` is in two blocks. -/
structure SaveArea where
  area : Nat
  buf : Nat
  data : NPSavedData
  deriving Repr, DecidableEq

/-- LONG64_NPSavedData. -/
structure SaveArea64 where
  area : Nat
  buf : Nat
  len : Int64
  bytes : List UInt8
  deriving Repr, DecidableEq

/-- sizeof(NPSavedData), by whether pointers have 32 bits. -/
def sizeofNPSavedData (pointers32 : Bool) : Nat := if pointers32 then 8 else 16

def sizeofLong64NPSavedData : Nat := 16

/-- The two sides and what they get from the system. `memalloc` is what the browser's NPN_MemAlloc() comes from,
    `long64` says that the LONG64 functions are in its table and `thunks` is `g_use_long64_thunks`; `ret` is the
    result of the plugin's NPP_Destroy. The allocations are those of do_recv_NPSavedData on the two sides, and the
    one for the LONG64 structure. -/
structure Setup where
  memalloc : Allocator
  long64 : Bool
  thunks : Int
  pointers32 : Bool
  viewer32 : Bool
  ret : NPError
  browserArea : Bool
  browserBuf : Bool
  browserArea64 : Bool
  viewerArea : Bool
  viewerBuf : Bool
  deriving Repr, DecidableEq

/-! ### Between the processes -/

/-- What the data makes of an empty message, on a connection that works. -/
def sent (saveArea : Option NPSavedData) : Option (List UInt8) :=
  match (do doSendNPSavedData saveArea; rpcMessageFlush : Send Unit) ⟨[], [], []⟩ with
  | .ok () m => some m.sent
  | .error .. => none

/-- do_recv_NPSavedData with its blocks. The ones it has got stay behind where it fails. -/
def recvSaveArea (allocator : Allocator) (pointers32 area buf : Bool) (bytes : List UInt8) (heap : Heap) :
    Option (Option SaveArea) × Heap :=
  match rpcMessageRecvInt32 ⟨leftover bytes, []⟩ with
  | .error .. => (none, heap)
  | .ok len m =>
    if len = 0 then (some none, heap)
    else if !area then (none, heap)
    else
      let (i, heap) := heap.alloc allocator (sizeofNPSavedData pointers32)
      if !buf then (none, heap)
      else
        let (j, heap) := heap.alloc allocator len.toUInt32.toNat
        match rpcMessageRecvBytes len.toInt m with
        | .error .. => (none, heap)
        | .ok bytes _ =>
          let heap := (heap.write j bytes.length).write i (sizeofNPSavedData pointers32)
          (some (some ⟨i, j, ⟨len, bytes⟩⟩), heap)

/-! ### npw-viewer.c -/

/-- The plugin gives `saveArea`, in blocks of NPN_MemAlloc(). -/
def handleNPPDestroy (saveArea : Option SaveArea) (heap : Heap) : Option (List UInt8) × Heap :=
  let bytes := sent (saveArea.map SaveArea.data)
  match saveArea with
  | none => (bytes, heap)
  | some saveArea => (bytes, (heap.free .npw saveArea.buf).free .npw saveArea.area)

/-- What the plugin's NPP_New is given, if it is called. -/
def handleNPPNew (setup : Setup) (bytes : List UInt8) (heap : Heap) : Option (Option NPSavedData) × Heap :=
  match recvSaveArea .npw setup.viewer32 setup.viewerArea setup.viewerBuf bytes heap with
  | (none, heap) => (none, heap)
  | (some none, heap) => (some none, heap)
  | (some (some saved), heap) => (some (some saved.data), (heap.free .npw saved.buf).free .npw saved.area)

/-! ### npw-wrapper.c -/

section Wrapper
variable (setup : Setup)

/-- `save` is not NULL. The reply has `ret` and the data. -/
def gNPPDestroy (bytes : List UInt8) (heap : Heap) : NPError × Option SaveArea × Heap :=
  match recvSaveArea setup.memalloc setup.pointers32 setup.browserArea setup.browserBuf bytes heap with
  | (none, heap) => (NPError.genericError, none, heap)
  | (some saveArea, heap) => (setup.ret, saveArea, heap)

/-- What goes to the viewer. The structure and its bytes are given up with free(). -/
def gNPPNew (saved : Option SaveArea) (heap : Heap) : Option (List UInt8) × Heap :=
  let bytes := sent (saved.map SaveArea.data)
  match saved with
  | none => (bytes, heap)
  | some saved => (bytes, (heap.free .libc saved.buf).free .libc saved.area)

/-- `*save` is only set with the thunks. The structure for it is as long as the data. -/
def gLong64NPPDestroy (bytes : List UInt8) (heap : Heap) : NPError × Option SaveArea64 × Heap :=
  match gNPPDestroy setup bytes heap with
  | (ret, saveArea32, heap) =>
    if 0 < setup.thunks then
      match saveArea32 with
      | none => (ret, none, heap)
      | some saveArea32 =>
        if ret = NPError.noError then
          if setup.browserArea64 then
            let (i, heap) := heap.alloc setup.memalloc saveArea32.data.len.toUInt32.toNat
            let heap := heap.write i sizeofLong64NPSavedData
            (ret, some ⟨i, saveArea32.buf, saveArea32.data.len.toInt64, saveArea32.data.buf⟩,
              heap.free .libc saveArea32.area)
          else (ret, none, heap.free .libc saveArea32.area)
        else (ret, none, heap)
    else (ret, none, heap)

/-- `saved32` is an object of the stack. -/
def gLong64NPPNew (saved : Option SaveArea64) (heap : Heap) : Option (List UInt8) × Heap :=
  match saved with
  | none => gNPPNew none heap
  | some saved =>
    let (i, heap) := heap.object none (sizeofNPSavedData setup.pointers32)
    let heap := heap.write i (sizeofNPSavedData setup.pointers32)
    gNPPNew (some ⟨i, saved.buf, ⟨saved.len.toInt32, saved.bytes⟩⟩) heap

end Wrapper

/-! ### The way -/

/-- What there is after both calls: the memory of the two processes, and what the later instance was given. -/
structure Outcome where
  browser : Heap
  viewer : Heap
  given : Option (Option NPSavedData)
  deriving Repr, DecidableEq

/-- The plugin's NPP_Destroy hands `data` back, in two blocks. -/
def handed (viewer32 : Bool) (data : NPSavedData) : SaveArea × Heap :=
  let (i, heap) := Heap.empty.alloc .npw (sizeofNPSavedData viewer32)
  let (j, heap) := heap.alloc .npw data.buf.length
  (⟨i, j, data⟩, (heap.write j data.buf.length).write i (sizeofNPSavedData viewer32))

/-- The later NPP_New reaches the viewer with `bytes`. -/
def Outcome.arrive (setup : Setup) (bytes : Option (List UInt8)) (browser viewer : Heap) : Outcome :=
  match bytes with
  | none => ⟨browser, viewer, none⟩
  | some bytes =>
    match handleNPPNew setup bytes viewer with
    | (given, viewer) => ⟨browser, viewer, given⟩

/-- NPP_Destroy of one instance and NPP_New of the next, with what the browser got. -/
def carry (setup : Setup) (data : NPSavedData) : Outcome :=
  let (saveArea, viewer) := handed setup.viewer32 data
  match handleNPPDestroy (some saveArea) viewer with
  | (none, viewer) => ⟨.empty, viewer, none⟩
  | (some bytes, viewer) =>
    if setup.long64 then
      let (_, save, browser) := gLong64NPPDestroy setup bytes .empty
      let (bytes, browser) := gLong64NPPNew setup save browser
      .arrive setup bytes browser viewer
    else
      let (_, save, browser) := gNPPDestroy setup bytes .empty
      let (bytes, browser) := gNPPNew save browser
      .arrive setup bytes browser viewer

end SavedData
end NSPluginWrapper
