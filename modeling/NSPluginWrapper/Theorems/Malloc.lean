import Mathlib.Data.UInt
import NSPluginWrapper.Npapi.Malloc

/-! Blocks with guards. Where the size of the header, the guards and the user area together is one of 32 bits, the block
    is that long, goes back as it came, and tells every change of a guard. -/

namespace NSPluginWrapper
namespace Malloc
variable {b : Build} {block : Block} {size : UInt32} {raw : Raw} {ptr : Nat} {bytes : Nat → UInt8} {file : Option String}
  {lineno : UInt32}

/-! ### Writes -/

theorem write_fits {offset len : Nat} (h : offset + len ≤ block.size.toNat) (src : Nat → UInt8) :
    block.write offset len src = .ok { block with bytes := written block.bytes offset len src } := by
  rw [Block.write, if_neg (Nat.not_lt.mpr h)]

theorem written_inside {offset len i : Nat} (hi : offset ≤ i) (hlt : i < offset + len) (src : Nat → UInt8) :
    written bytes offset len src i = src (i - offset) := if_pos ⟨hi, hlt⟩

theorem written_outside {offset len i : Nat} (h : i < offset ∨ offset + len ≤ i) (src : Nat → UInt8) :
    written bytes offset len src i = bytes i := if_neg (by omega)

/-- A block with its header and both guards. -/
structure Prepared (b : Build) (size : UInt32) (block : Block) : Prop where
  total : block.size.toNat = b.headerSize + size.toNat + 2 * b.guardSize
  magic : block.header.magic = mallocMagic
  realSize : block.header.realSize = block.size
  allocSize : block.header.allocSize = size
  before : ∀ i, b.headerSize ≤ i → i < b.user → block.bytes i = mallocCheckGuardMark
  after : ∀ i, b.user + size.toNat ≤ i → i < b.user + size.toNat + b.guardSize → block.bytes i = mallocCheckGuardMark

theorem realSize_toNat (h : b.headerSize + size.toNat + 2 * b.guardSize < 2 ^ 32) :
    (realSize b size).toNat = b.headerSize + size.toNat + 2 * b.guardSize := by
  rw [realSize, UInt32.toNat_ofNat', Nat.mod_eq_of_lt h]

/-- The guards are put where the block has room for them. -/
theorem mallocCheckGuardsInit_prepared (block : Block)
    (hsize : block.size.toNat = b.headerSize + size.toNat + 2 * b.guardSize)
    (hmagic : block.header.magic = mallocMagic) (hreal : block.header.realSize = block.size)
    (halloc : block.header.allocSize = size) : ∃ bytes,
      mallocCheckGuardsInit b block b.user size = .ok { block with bytes := bytes } ∧
        Prepared b size { block with bytes := bytes } := by
  cases hcheck : b.mallocCheck with
  | false =>
    have hguard : b.guardSize = 0 := by simp [Build.guardSize, hcheck]
    refine ⟨block.bytes, by simp [mallocCheckGuardsInit, hcheck], hsize, hmagic, hreal, halloc, fun i hi hlt => ?_,
      fun i hi hlt => ?_⟩
    · rw [Build.user, hguard] at hlt
      omega
    · omega
  | true =>
    have huser : b.user - b.guardSize = b.headerSize := by
      rw [Build.user, Nat.add_sub_cancel]
    refine ⟨written (written block.bytes b.headerSize b.guardSize fun _ => mallocCheckGuardMark) (b.user + size.toNat)
      b.guardSize fun _ => mallocCheckGuardMark, ?_, hsize, hmagic, hreal, halloc, fun i hi hlt => ?_, fun i hi hlt => ?_⟩
    · simp only [mallocCheckGuardsInit, hcheck, Bool.not_true, Bool.false_eq_true, if_false, Block.memset, huser]
      rw [write_fits (by omega)]
      simp only [bind, Except.bind]
      rw [write_fits (by simp only [Build.user]; omega)]
    · have hbefore : i < b.user + size.toNat ∨ b.user + size.toNat + b.guardSize ≤ i := by omega
      dsimp only
      rw [written_outside hbefore, written_inside hi hlt]
    · exact written_inside hi hlt fun _ => mallocCheckGuardMark

/-- Writes to the user area leave the rest. -/
theorem Prepared.user (h : Prepared b size block)
    (hbytes : ∀ i, i < b.user ∨ b.user + size.toNat ≤ i → bytes i = block.bytes i) :
    Prepared b size { block with bytes := bytes } := by
  refine ⟨h.total, h.magic, h.realSize, h.allocSize, fun i hi hlt => ?_, fun i hi hlt => ?_⟩
  · exact (hbytes i (.inl hlt)).trans (h.before i hi hlt)
  · exact (hbytes i (.inr hi)).trans (h.after i hi hlt)

/-! ### Allocation -/

theorem npwDoMemAlloc_prepared (file : Option String) (lineno : UInt32) (memAllocFunc : UInt32 → Option Raw)
    (hraw : memAllocFunc (realSize b size) = some raw)
    (hfits : b.headerSize + size.toNat + 2 * b.guardSize < 2 ^ 32) : ∃ block,
      npwDoMemAlloc b memAllocFunc size file lineno = .ok (some (block.base + b.user, block)) ∧ block.base = raw.base ∧
        Prepared b size block := by
  have hsize := realSize_toNat hfits
  obtain ⟨bytes, hinit, hprepared⟩ := mallocCheckGuardsInit_prepared
    ⟨raw.base, realSize b size, ⟨mallocMagic, realSize b size, size, lineno, file⟩, raw.bytes⟩ hsize rfl rfl rfl
  refine ⟨_, ?_, rfl, hprepared⟩
  rw [npwDoMemAlloc, hraw]
  dsimp only
  rw [if_neg (by omega), hinit]
  rfl

namespace Request
variable {r : Request} {hooks : Hooks}

theorem size_toNat (h : r.bytes < 2 ^ 32) : r.size.toNat = r.bytes := by
  cases r with
  | memNew sizeof n => exact (UInt32.toNat_ofNat' ..).trans (Nat.mod_eq_of_lt h)
  | memNew0 sizeof n => exact (UInt32.toNat_ofNat' ..).trans (Nat.mod_eq_of_lt h)
  | _ => rfl

/-- Each of the functions makes a block with guards. -/
theorem alloc_prepared (file : Option String) (lineno : UInt32) {raw : Raw} (hraw : r.raw hooks b = some raw)
    (hfits : b.headerSize + r.size.toNat + 2 * b.guardSize < 2 ^ 32) : ∃ block,
      r.alloc b hooks file lineno = .ok (some (block.base + b.user, block)) ∧ block.base = raw.base ∧
        Prepared b r.size block := by
  cases r with
  | memAllocCopy size src =>
    obtain ⟨block, halloc, hbase, hprepared⟩ := npwDoMemAlloc_prepared file lineno hooks.memalloc hraw hfits
    have hroom := hprepared.total
    refine ⟨{ block with bytes := written block.bytes b.user size.toNat src }, ?_, hbase,
      hprepared.user fun i hi => written_outside hi src⟩
    simp only [Request.alloc, npwMemAllocCopy, npwMemAlloc, Request.size] at halloc hroom ⊢
    simp only [halloc, bind, Except.bind, Nat.add_sub_cancel_left]
    rw [write_fits (by simp only [Build.user]; omega)]
    rfl
  | memAlloc size =>
    obtain ⟨block, halloc, hbase, hprepared⟩ := npwDoMemAlloc_prepared file lineno hooks.memalloc hraw hfits
    exact ⟨block, halloc, hbase, hprepared⟩
  | memNew sizeof n =>
    obtain ⟨block, halloc, hbase, hprepared⟩ := npwDoMemAlloc_prepared file lineno hooks.memalloc hraw hfits
    exact ⟨block, halloc, hbase, hprepared⟩
  | memAlloc0 size =>
    obtain ⟨block, halloc, hbase, hprepared⟩ := npwDoMemAlloc_prepared file lineno
      (fun size => (hooks.memalloc0 size).map fun base => ⟨base, fun _ => 0⟩) hraw hfits
    exact ⟨block, halloc, hbase, hprepared⟩
  | memNew0 sizeof n =>
    obtain ⟨block, halloc, hbase, hprepared⟩ := npwDoMemAlloc_prepared file lineno
      (fun size => (hooks.memalloc0 size).map fun base => ⟨base, fun _ => 0⟩) hraw hfits
    exact ⟨block, halloc, hbase, hprepared⟩

end Request

/-! ### Release -/

theorem countP_range_pos {n : Nat} {p : Nat → Bool} : 0 < (List.range n).countP p ↔ ∃ i < n, p i = true := by
  simp [List.countP_pos_iff]

/-- Each guard byte that is not the mark is counted. -/
theorem mallocCheckGuards_pos (block : Block) (hsize : size.toNat + b.guardSize < 2 ^ 32) :
    (0 < (mallocCheckGuards b block b.user size).1 ↔
      ∃ i, b.headerSize ≤ i ∧ i < b.user ∧ block.bytes i ≠ mallocCheckGuardMark) ∧
    (0 < (mallocCheckGuards b block b.user size).2 ↔
      ∃ i, b.user + size.toNat ≤ i ∧ i < b.user + size.toNat + b.guardSize ∧
        block.bytes i ≠ mallocCheckGuardMark) := by
  cases hcheck : b.mallocCheck with
  | false =>
    have hguard : b.guardSize = 0 := by simp [Build.guardSize, hcheck]
    simp only [mallocCheckGuards, hcheck, Bool.not_false, if_true, Build.user, hguard]
    refine ⟨⟨nofun, ?_⟩, nofun, ?_⟩ <;> rintro ⟨i, hi, hlt, -⟩ <;> omega
  | true =>
    simp only [mallocCheckGuards, hcheck, Bool.not_true, Bool.false_eq_true, if_false, countP_range_pos,
      decide_eq_true_eq]
    refine ⟨⟨?_, ?_⟩, ?_, ?_⟩
    · rintro ⟨i, hi, hne⟩
      refine ⟨_, ?_, ?_, hne⟩ <;> rw [Build.user] <;> omega
    · rintro ⟨i, hi, hlt, hne⟩
      rw [Build.user] at hlt
      refine ⟨b.user - (1 + i), ?_, ?_⟩
      · rw [Build.user]
        omega
      · rwa [show b.user - (1 + (b.user - (1 + i))) = i by rw [Build.user]; omega]
    · rintro ⟨i, hi, hne⟩
      rw [Nat.mod_eq_of_lt (by omega)] at hne
      exact ⟨_, by omega, by omega, hne⟩
    · rintro ⟨i, hi, hlt, hne⟩
      refine ⟨i - (b.user + size.toNat), by omega, ?_⟩
      rwa [Nat.mod_eq_of_lt (by omega), show b.user + (size.toNat + (i - (b.user + size.toNat))) = i by omega]

/-- A block for `requested` bytes at `ptr`, of what the hook returned at `base`: it has room for all of it, and
    npw_mem_free() gives it back and reports what was changed outside of the user area. -/
structure Guarded (b : Build) (base requested : Nat) (ptr : Nat) (block : Block) : Prop where
  room : b.headerSize + requested + 2 * b.guardSize = block.size.toNat
  inside : ptr = base + b.user
  passes : ∀ bytes, (∀ i, i < b.user ∨ b.user + requested ≤ i → bytes i = block.bytes i) →
    npwMemFree b ptr { block with bytes := bytes } = .memfree base block.size 0 0
  reports : ∀ bytes, ∃ underflow overflow,
    npwMemFree b ptr { block with bytes := bytes } = .memfree base block.size underflow overflow ∧
      (0 < underflow ↔ ∃ i, b.headerSize ≤ i ∧ i < b.user ∧ bytes i ≠ block.bytes i) ∧
      (0 < overflow ↔ ∃ i, b.user + requested ≤ i ∧ i < b.user + requested + b.guardSize ∧ bytes i ≠ block.bytes i)

/-- The header is read where the user area starts less what is before it. -/
theorem npwMemFree_prepared (h : Prepared b size block) (bytes : Nat → UInt8) :
    npwMemFree b (block.base + b.user) { block with bytes := bytes } = .memfree block.base block.size
      (mallocCheckGuards b { block with bytes := bytes } b.user size).1
      (mallocCheckGuards b { block with bytes := bytes } b.user size).2 := by
  simp only [npwMemFree, h.magic, if_true, h.allocSize, h.realSize, Nat.add_sub_cancel_left, Nat.add_sub_cancel]

theorem Prepared.guarded (h : Prepared b size block) :
    Guarded b block.base size.toNat (block.base + b.user) block := by
  have hlt := block.size.toNat_lt
  have hshort : size.toNat + b.guardSize < 2 ^ 32 := by
    have hsize := h.total
    omega
  have hreports : ∀ bytes, ∃ underflow overflow,
      npwMemFree b (block.base + b.user) { block with bytes := bytes } =
        .memfree block.base block.size underflow overflow ∧
      (0 < underflow ↔ ∃ i, b.headerSize ≤ i ∧ i < b.user ∧ bytes i ≠ block.bytes i) ∧
      (0 < overflow ↔ ∃ i, b.user + size.toNat ≤ i ∧ i < b.user + size.toNat + b.guardSize ∧
        bytes i ≠ block.bytes i) := by
    intro bytes
    obtain ⟨hunder, hover⟩ := mallocCheckGuards_pos { block with bytes := bytes } hshort
    refine ⟨_, _, npwMemFree_prepared h bytes, hunder.trans ?_, hover.trans ?_⟩
    · refine exists_congr fun i => and_congr_right fun hi => and_congr_right fun hlt => ?_
      rw [h.before i hi hlt]
    · refine exists_congr fun i => and_congr_right fun hi => and_congr_right fun hlt => ?_
      rw [h.after i hi hlt]
  refine ⟨h.total.symm, rfl, fun bytes hbytes => ?_, hreports⟩
  obtain ⟨underflow, overflow, hfree, hunder, hover⟩ := hreports bytes
  have hnone : underflow = 0 := by
    refine Nat.eq_zero_of_not_pos fun hpos => ?_
    obtain ⟨i, -, hlt, hne⟩ := hunder.mp hpos
    exact hne (hbytes i (.inl hlt))
  have hnone' : overflow = 0 := by
    refine Nat.eq_zero_of_not_pos fun hpos => ?_
    obtain ⟨i, hi, -, hne⟩ := hover.mp hpos
    exact hne (hbytes i (.inr hi))
  rw [hfree, hnone, hnone']

/-- The size with the header and the guards has to be one of 32 bits, and so has the product of a macro. -/
theorem mem_alloc_guarded_iff (b : Build) (hooks : Hooks) (r : Request) (file : Option String) (lineno : UInt32) (raw : Raw)
    (h : r.raw hooks b = some raw) :
    (∃ ptr block, r.alloc b hooks file lineno = .ok (some (ptr, block)) ∧ Guarded b raw.base r.bytes ptr block) ↔
      b.headerSize + r.bytes + 2 * b.guardSize < 2 ^ 32 := by
  constructor
  · rintro ⟨ptr, block, -, hguarded⟩
    rw [hguarded.room]
    exact block.size.toNat_lt
  · intro hfits
    have hsize : r.size.toNat = r.bytes := Request.size_toNat (by omega)
    obtain ⟨block, halloc, hbase, hprepared⟩ := Request.alloc_prepared file lineno h (by rw [hsize]; exact hfits)
    refine ⟨_, block, halloc, ?_⟩
    rw [← hsize, ← hbase]
    exact hprepared.guarded

/-- There is memory at 0x1000 for everything. -/
def Hooks.ample : Hooks := ⟨fun _ => some ⟨0x1000, fun _ => 0⟩, fun _ => some 0x1000⟩

theorem mem_alloc_guarded_once : ∃ ptr block, (Request.memNew 8 3).alloc ⟨8, true⟩ Hooks.ample none 0 = .ok (some (ptr, block)) ∧
    Guarded ⟨8, true⟩ 0x1000 24 ptr block :=
  (mem_alloc_guarded_iff ⟨8, true⟩ Hooks.ample (.memNew 8 3) none 0 ⟨0x1000, fun _ => 0⟩ rfl).mpr (by decide)

/-- 2^29 pointers make 2^32 bytes, of which a 32-bit size has none. -/
theorem mem_new_truncated : ¬ ∀ b hooks r file lineno raw, Request.raw hooks b r = some raw →
    ∃ ptr block, r.alloc b hooks file lineno = .ok (some (ptr, block)) ∧ Guarded b raw.base r.bytes ptr block := by
  intro h
  obtain ⟨ptr, block, -, hguarded⟩ := h ⟨8, false⟩ Hooks.ample (.memNew 8 (2 ^ 29)) none 0 ⟨0x1000, fun _ => 0⟩ rfl
  have hroom := hguarded.room
  have hlt := block.size.toNat_lt
  have hbytes : (Request.memNew 8 (2 ^ 29)).bytes = 2 ^ 32 := rfl
  omega

end Malloc
end NSPluginWrapper
