
namespace Sim8080.Word

def ofBytes (hi lo : UInt8) : UInt16 := hi.toUInt16 * 256 + lo.toUInt16

def hi (w : UInt16) : UInt8 := (w >>> 8).toUInt8

def lo (w : UInt16) : UInt8 := w.toUInt8

theorem ofBytes_hi_lo (w : UInt16) : ofBytes (hi w) (lo w) = w := by
  apply UInt16.toNat_inj.mp
  have hw := w.toNat_lt
  simp only [ofBytes, hi, lo, UInt16.toNat_add, UInt16.toNat_mul, UInt8.toNat_toUInt16,
    UInt16.toNat_toUInt8, UInt16.toNat_shiftRight, Nat.shiftRight_eq_div_pow, UInt16.reduceToNat, Nat.reduceMod,
    Nat.reducePow]
  omega

end Sim8080.Word
