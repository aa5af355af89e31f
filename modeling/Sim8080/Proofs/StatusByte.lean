import Mathlib
import Sim8080.Cpu.Registers

set_option maxRecDepth 100000

namespace Sim8080

theorem forall_byte {P : UInt8 → Prop} (h : ∀ n, n < 256 → P (UInt8.ofNat n)) : ∀ v, P v := by
  intro v
  simpa using h v.toNat v.toNat_lt

namespace Flags

def Fixed (f : UInt8) : Prop := f &&& 0x2A = fixed

instance : DecidablePred Fixed := fun f => inferInstanceAs (Decidable (f &&& 0x2A = fixed))

theorem fixed_fixed : Fixed fixed := by decide

@[simp] theorem fixed_normalize (v : UInt8) : Fixed (normalize v) := by
  revert v
  apply forall_byte
  decide

theorem Fixed.or_mask {f : UInt8} (h : Fixed f) (fl : Flag) : Fixed (f ||| fl.mask) := by
  revert f
  cases fl <;> (apply forall_byte; decide)

theorem Fixed.and_not_mask {f : UInt8} (h : Fixed f) (fl : Flag) : Fixed (f &&& ~~~fl.mask) := by
  revert f
  cases fl <;> (apply forall_byte; decide)

end Flags

namespace Cpu

open Flags

@[simp] theorem fixed_setFlags (s : Cpu) (v : UInt8) : Fixed (s.setFlags v).f :=
  fixed_normalize v

@[simp] theorem fixed_setPsw (s : Cpu) (w : UInt16) : Fixed (s.setPsw w).f :=
  fixed_normalize _

theorem fixed_setFlag {s : Cpu} (h : Fixed s.f) (fl : Flag) (on : Bool) :
    Fixed (s.setFlag fl on).f := by
  cases on
  case false => exact h.and_not_mask fl
  case true => exact h.or_mask fl

end Cpu

end Sim8080
