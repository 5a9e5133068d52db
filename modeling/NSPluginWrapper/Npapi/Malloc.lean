import Mathlib.Algebra.Group.Nat.Defs

/-! npw-malloc.c: a block has a header before the user area, and guards on both sides of that where memory is checked. -/

namespace NSPluginWrapper
namespace Malloc

/-- A write outside of the block. -/
inductive Fault where
  | overflow
  deriving Repr, DecidableEq

/-- The size of a pointer, and what is_malloc_check_enabled() answers. -/
structure Build where
  pointerSize : Nat
  mallocCheck : Bool
  deriving Repr, DecidableEq

def mallocMagic : UInt32 := 0x4e50574d

def mallocCheckGuardMark : UInt8 := 69

/-- NPW_MemBlock. -/
structure MemBlock where
  magic : UInt32
  realSize : UInt32
  allocSize : UInt32
  allocLineno : UInt32
  allocFile : Option String
  deriving Repr, DecidableEq

namespace Build

/-- `sizeof(NPW_MemBlock)`. -/
def headerSize (b : Build) : Nat := 16 + b.pointerSize

def guardSize (b : Build) : Nat := if b.mallocCheck then 16 else 0

/-- Where the user area starts in a block. -/
def user (b : Build) : Nat := b.headerSize + b.guardSize

end Build

/-- What a hook returns: an address, and what is in the memory there. -/
structure Raw where
  base : Nat
  bytes : Nat → UInt8

/-- NPW_MallocHooks, of which memfree only takes a block back. -/
structure Hooks where
  memalloc : UInt32 → Option Raw
  memalloc0 : UInt32 → Option Nat

/-- A block of the size that the hook was asked for. `bytes` go by the offset in it; those of the header are apart. -/
structure Block where
  base : Nat
  size : UInt32
  header : MemBlock
  bytes : Nat → UInt8

/-- What is in memory when `len` bytes were written. -/
def written (bytes : Nat → UInt8) (offset len : Nat) (src : Nat → UInt8) (i : Nat) : UInt8 :=
  if offset ≤ i ∧ i < offset + len then src (i - offset) else bytes i

/-- memcpy() into the block. -/
def Block.write (block : Block) (offset len : Nat) (src : Nat → UInt8) : Except Fault Block :=
  if block.size.toNat < offset + len then .error .overflow
  else .ok { block with bytes := written block.bytes offset len src }

def Block.memset (block : Block) (offset : Nat) (c : UInt8) (len : Nat) : Except Fault Block :=
  block.write offset len fun _ => c

/-- `ptr` is an offset in the block. -/
def mallocCheckGuardsInit (b : Build) (block : Block) (ptr : Nat) (size : UInt32) : Except Fault Block :=
  if !b.mallocCheck then .ok block
  else do
    let block ← block.memset (ptr - b.guardSize) mallocCheckGuardMark b.guardSize
    block.memset (ptr + size.toNat) mallocCheckGuardMark b.guardSize

/-- `underflow` and `overflow`. The index `size + i` is of type `uint32_t`. -/
def mallocCheckGuards (b : Build) (block : Block) (ptr : Nat) (size : UInt32) : Nat × Nat :=
  if !b.mallocCheck then (0, 0)
  else ((List.range b.guardSize).countP fun i => block.bytes (ptr - (1 + i)) ≠ mallocCheckGuardMark,
    (List.range b.guardSize).countP fun i => block.bytes (ptr + (size.toNat + i) % 2 ^ 32) ≠ mallocCheckGuardMark)

/-- The sum is converted to a `uint32_t`. -/
def realSize (b : Build) (size : UInt32) : UInt32 := .ofNat (b.headerSize + size.toNat + 2 * b.guardSize)

/-- The block, and the address of its user area. -/
def npwDoMemAlloc (b : Build) (memAllocFunc : UInt32 → Option Raw) (size : UInt32) (file : Option String)
    (lineno : UInt32) : Except Fault (Option (Nat × Block)) :=
  match memAllocFunc (realSize b size) with
  | none => .ok none
  | some raw =>
    if (realSize b size).toNat < b.headerSize then .error .overflow
    else do
      let header := ⟨mallocMagic, realSize b size, size, lineno, file⟩
      let block ← mallocCheckGuardsInit b ⟨raw.base, realSize b size, header, raw.bytes⟩ b.user size
      pure (some (raw.base + b.user, block))

def npwMemAlloc (b : Build) (hooks : Hooks) (size : UInt32) (file : Option String) (lineno : UInt32) :
    Except Fault (Option (Nat × Block)) :=
  npwDoMemAlloc b hooks.memalloc size file lineno

def npwMemAlloc0 (b : Build) (hooks : Hooks) (size : UInt32) (file : Option String) (lineno : UInt32) :
    Except Fault (Option (Nat × Block)) :=
  npwDoMemAlloc b (fun size => (hooks.memalloc0 size).map fun base => ⟨base, fun _ => 0⟩) size file lineno

def npwMemAllocCopy (b : Build) (hooks : Hooks) (size : UInt32) (src : Nat → UInt8) (file : Option String)
    (lineno : UInt32) : Except Fault (Option (Nat × Block)) := do
  match ← npwMemAlloc b hooks size file lineno with
  | none => pure none
  | some (ptr, block) => return some (ptr, ← block.write (ptr - block.base) size.toNat src)

/-- What npw_mem_free() does: it reports so many bytes, and gives a block to the hook, or the pointer to free(). -/
inductive Freed where
  | memfree (mem : Nat) (size : UInt32) (underflow overflow : Nat)
  | libc (ptr : Nat)
  deriving Repr, DecidableEq

/-- `block` is the one that `ptr` is in. -/
def npwMemFree (b : Build) (ptr : Nat) (block : Block) : Freed :=
  if block.header.magic = mallocMagic then
    let (underflow, overflow) := mallocCheckGuards b block (ptr - block.base) block.header.allocSize
    .memfree (ptr - b.user) block.header.realSize underflow overflow
  else .libc ptr

/-- The functions and the macros that make a block. The product of NPW_MemNew() is converted to a `uint32_t`. -/
inductive Request where
  | memAlloc (size : UInt32)
  | memAlloc0 (size : UInt32)
  | memAllocCopy (size : UInt32) (src : Nat → UInt8)
  | memNew (sizeof n : Nat)
  | memNew0 (sizeof n : Nat)

namespace Request

def size : Request → UInt32
  | memAlloc size | memAlloc0 size | memAllocCopy size _ => size
  | memNew sizeof n | memNew0 sizeof n => .ofNat (n * sizeof)

/-- How many bytes are asked for, which is what they make without a conversion. -/
def bytes : Request → Nat
  | memAlloc size | memAlloc0 size | memAllocCopy size _ => size.toNat
  | memNew sizeof n | memNew0 sizeof n => n * sizeof

/-- What the hook returns. -/
def raw (hooks : Hooks) (b : Build) (r : Request) : Option Raw :=
  match r with
  | memAlloc _ | memAllocCopy .. | memNew .. => hooks.memalloc (realSize b r.size)
  | memAlloc0 _ | memNew0 .. => (hooks.memalloc0 (realSize b r.size)).map fun base => ⟨base, fun _ => 0⟩

def alloc (b : Build) (hooks : Hooks) (file : Option String) (lineno : UInt32) :
    Request → Except Fault (Option (Nat × Block))
  | memAlloc size => npwMemAlloc b hooks size file lineno
  | memAlloc0 size => npwMemAlloc0 b hooks size file lineno
  | memAllocCopy size src => npwMemAllocCopy b hooks size src file lineno
  | memNew sizeof n => npwMemAlloc b hooks (.ofNat (n * sizeof)) file lineno
  | memNew0 sizeof n => npwMemAlloc0 b hooks (.ofNat (n * sizeof)) file lineno

end Request
end Malloc
end NSPluginWrapper
