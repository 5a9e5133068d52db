import Mathlib.Data.UInt

/-! Big-endian words: the four bytes of a 32-bit word as a network carries them, and the two halves of a
    64-bit one. -/

namespace NSPluginWrapper.Lib

/-- The bytes of `w`, most significant first. -/
def be32 (w : UInt32) : List UInt8 :=
  [UInt8.ofNat (w.toNat / 2 ^ 24), UInt8.ofNat (w.toNat / 2 ^ 16), UInt8.ofNat (w.toNat / 2 ^ 8), UInt8.ofNat w.toNat]

/-- The word whose big-endian bytes these are. -/
def ofBe32 (bs : List UInt8) : UInt32 :=
  UInt32.ofNat (bs.foldl (fun n b => n * 2 ^ 8 + b.toNat) 0)

@[simp] theorem length_be32 (w : UInt32) : (be32 w).length = 4 := rfl

theorem be32_ne_nil (w : UInt32) : be32 w ≠ [] := List.cons_ne_nil _ _

@[simp] theorem ofBe32_be32 (w : UInt32) : ofBe32 (be32 w) = w := by
  apply UInt32.toNat_inj.mp
  have hw : w.toNat < 2 ^ 32 := w.toNat_lt
  simp only [ofBe32, be32, List.foldl_cons, List.foldl_nil, UInt8.toNat_ofNat', UInt32.toNat_ofNat']
  omega

theorem be32_ofBe32 {bs : List UInt8} (h : bs.length = 4) : be32 (ofBe32 bs) = bs := by
  match bs, h with
  | [a, b, c, d], _ =>
    have ha := a.toNat_lt
    have hb := b.toNat_lt
    have hc := c.toNat_lt
    have hd := d.toNat_lt
    simp only [be32, ofBe32, List.foldl_cons, List.foldl_nil, UInt32.toNat_ofNat', List.cons.injEq, and_true,
      ← UInt8.toNat_inj, UInt8.toNat_ofNat']
    omega

/-- The high and the low word of a 64-bit one. -/
def hi32 (w : UInt64) : UInt32 := UInt32.ofNat (w.toNat / 2 ^ 32)
def lo32 (w : UInt64) : UInt32 := UInt32.ofNat w.toNat

/-- The 64-bit word of two halves. -/
def join32 (hi lo : UInt32) : UInt64 := UInt64.ofNat (hi.toNat * 2 ^ 32 + lo.toNat)

@[simp] theorem join32_hi32_lo32 (w : UInt64) : join32 (hi32 w) (lo32 w) = w := by
  apply UInt64.toNat_inj.mp
  have hw : w.toNat < 2 ^ 64 := w.toNat_lt
  simp only [join32, hi32, lo32, UInt32.toNat_ofNat', UInt64.toNat_ofNat']
  omega

end NSPluginWrapper.Lib
