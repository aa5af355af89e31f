import Mathlib
import Sim8080.Proofs.StatusByte
import Sim8080.Proofs.Datasheet

set_option maxRecDepth 100000

namespace Sim8080

def Flag.bitIndex : Flag → Nat
  | .carry => 0
  | .parity => 2
  | .auxCarry => 4
  | .zero => 6
  | .sign => 7

namespace Datasheet

theorem decode_eq (op : UInt8) : Instr.decode op = decode op := by
  revert op
  apply forall_byte
  decide

theorem length_eq (i : Instr) : length i = i.size := by
  cases i <;> rfl

theorem mask_eq_bit (fl : Flag) (f : UInt8) : (f &&& fl.mask != 0) = bit f fl.bitIndex := by
  revert f
  cases fl <;> (apply forall_byte; decide)

@[simp] theorem flag_eq_bit (s : Cpu) (fl : Flag) : s.flag fl = bit s.f fl.bitIndex :=
  mask_eq_bit fl s.f

theorem holds_eq (cc : Cond) (f : UInt8) : cc.holds f = holds cc f := by
  cases cc <;> simp only [Cond.holds, holds, mask_eq_bit, Flag.bitIndex]

theorem normalize_eq_flagByte (v : UInt8) :
    Flags.normalize v = flagByte (bit v 7) (bit v 6) (bit v 4) (bit v 2) (bit v 0) := by
  revert v
  apply forall_byte
  decide

theorem setFlag_carry {s : Cpu} (h : Flags.Fixed s.f) (cy : Bool) :
    (s.setFlag .carry cy).f = withCarry s.f cy := by
  have key : ∀ f : UInt8, Flags.Fixed f →
      (if cy then f ||| Flag.carry.mask else f &&& ~~~Flag.carry.mask) = withCarry f cy := by
    cases cy <;> (apply forall_byte; decide)
  exact key s.f h

theorem resultFlags_mod (n : Nat) (ac cy : Bool) :
    resultFlags (n % 256) ac cy = resultFlags n ac cy := by
  simp only [resultFlags, Nat.mod_mod]

theorem resultFlags_toNat (n : Nat) (ac cy : Bool) :
    resultFlags (UInt8.ofNat n).toNat ac cy = resultFlags n ac cy := by
  rw [UInt8.toNat_ofNat', resultFlags_mod]

theorem normalize_resultFlags (r : UInt8) (ac cy : Bool) :
    Flags.normalize (Flags.ofResult r ||| Flag.auxCarry.bitIf ac ||| Flag.carry.bitIf cy) =
      resultFlags r.toNat ac cy := by
  revert r
  cases ac <;> cases cy <;> (apply forall_byte; decide)

theorem normalize_logicFlags (r : UInt8) (ac : Bool) :
    Flags.normalize (Flags.ofResult r ||| Flag.auxCarry.bitIf ac) = resultFlags r.toNat ac false := by
  revert r
  cases ac <;> (apply forall_byte; decide)

theorem normalize_ofResult (r : UInt8) :
    Flags.normalize (Flags.ofResult r) = resultFlags r.toNat false false := by
  revert r
  apply forall_byte
  decide

theorem low_nibble (a : UInt8) : (a &&& 0x0F).toNat = a.toNat % 16 := by
  simp only [UInt8.toNat_and, UInt8.reduceToNat]
  exact Nat.and_two_pow_sub_one_eq_mod a.toNat 4

theorem complement_mod (v : UInt8) : (~~~v).toNat % 16 = 15 - v.toNat % 16 := by
  revert v
  apply forall_byte
  decide

theorem complement_eq (a : UInt8) : ~~~a = UInt8.ofNat (255 - a.toNat) := by
  revert a
  apply forall_byte
  decide

theorem bit3_eq (x : UInt8) : (x &&& 0x08 != 0) = x.toNat.testBit 3 := by
  revert x
  apply forall_byte
  decide

theorem add_eq_ofNat (a v : UInt8) (c : Bool) :
    a + v + (if c then 1 else 0) = UInt8.ofNat (a.toNat + v.toNat + c.toNat) := by
  apply UInt8.toNat_inj.mp
  cases c <;> simp

theorem sub_eq_ofNat (a v : UInt8) (c : Bool) :
    a - v - (if c then 1 else 0) = UInt8.ofNat (a.toNat + 256 - v.toNat - c.toNat) := by
  apply UInt8.toNat_inj.mp
  have := v.toNat_lt
  cases c <;> simp [UInt8.toNat_sub] <;> omega

theorem and_eq_ofNat (a v : UInt8) : a &&& v = UInt8.ofNat (a.toNat &&& v.toNat) := by
  apply UInt8.toNat_inj.mp
  simp

theorem or_eq_ofNat (a v : UInt8) : a ||| v = UInt8.ofNat (a.toNat ||| v.toNat) := by
  apply UInt8.toNat_inj.mp
  simp

theorem xor_eq_ofNat (a v : UInt8) : a ^^^ v = UInt8.ofNat (a.toNat ^^^ v.toNat) := by
  apply UInt8.toNat_inj.mp
  simp

theorem add_value (a v : UInt8) (c : Bool) :
    (Alu.add a v c).value = UInt8.ofNat (a.toNat + v.toNat + c.toNat) :=
  add_eq_ofNat a v c

theorem sub_value (a v : UInt8) (c : Bool) :
    (Alu.sub a v c).value = UInt8.ofNat (a.toNat + 256 - v.toNat - c.toNat) :=
  sub_eq_ofNat a v c

theorem add_flags (a v : UInt8) (c : Bool) :
    Flags.normalize (Alu.add a v c).flags =
      resultFlags (a.toNat + v.toNat + c.toNat) (a.toNat % 16 + v.toNat % 16 + c.toNat ≥ 16)
        (a.toNat + v.toNat + c.toNat ≥ 256) := by
  simp only [Alu.add, normalize_resultFlags, add_eq_ofNat, resultFlags_toNat, low_nibble]
  cases c <;> simp only [Bool.toNat_true, Bool.toNat_false, ite_true, ite_false, Bool.false_eq_true] <;>
    congr 1

theorem sub_flags (a v : UInt8) (c : Bool) :
    Flags.normalize (Alu.sub a v c).flags =
      resultFlags (a.toNat + 256 - v.toNat - c.toNat)
        (a.toNat % 16 + (15 - v.toNat % 16) + (1 - c.toNat) ≥ 16) (a.toNat < v.toNat + c.toNat) := by
  simp only [Alu.sub, normalize_resultFlags, sub_eq_ofNat, resultFlags_toNat, low_nibble,
    complement_mod]
  cases c <;> simp only [Bool.toNat_true, Bool.toNat_false, ite_true, ite_false, Bool.false_eq_true] <;>
    congr 1

theorem alu_eq (op : AluOp) (a v : UInt8) (cy : Bool) :
    alu op a v cy = ((Alu.apply op a v cy).value, Flags.normalize (Alu.apply op a v cy).flags) := by
  cases op
  case add | adc =>
    simp only [alu, Alu.apply, add_flags, add_value, Bool.toNat_false]
  case sub | sbb | cmp =>
    simp only [alu, Alu.apply, sub_flags, sub_value, Bool.toNat_false, UInt8.ofNat_toNat]
  case ana =>
    simp only [alu, Alu.apply]
    rw [normalize_logicFlags, bit3_eq, UInt8.toNat_and, UInt8.toNat_or, and_eq_ofNat]
  case xra =>
    simp only [alu, Alu.apply]
    rw [normalize_ofResult, UInt8.toNat_xor, xor_eq_ofNat]
  case ora =>
    simp only [alu, Alu.apply]
    rw [normalize_ofResult, UInt8.toNat_or, or_eq_ofNat]

theorem carry_mask_eq (f : UInt8) : f &&& Flag.carry.mask = Flag.carry.bitIf (bit f 0) := by
  revert f
  apply forall_byte
  decide

-- The old status byte enters only through its carry bit, so after generalizing that bit each
-- statement is about one byte.
theorem increment_eq (v f : UInt8) :
    increment v f = ((Alu.increment v f).value, Flags.normalize (Alu.increment v f).flags) := by
  simp only [increment, Alu.increment, carry_mask_eq]
  generalize bit f 0 = cy
  revert v
  cases cy <;> (apply forall_byte; decide)

theorem decrement_eq (v f : UInt8) :
    decrement v f = ((Alu.decrement v f).value, Flags.normalize (Alu.decrement v f).flags) := by
  simp only [decrement, Alu.decrement, carry_mask_eq]
  generalize bit f 0 = cy
  revert v
  cases cy <;> (apply forall_byte; decide)

theorem decimalAdjust_eq (a f : UInt8) :
    decimalAdjust a f =
      ((Alu.decimalAdjust a f).value, Flags.normalize (Alu.decimalAdjust a f).flags) := by
  simp only [decimalAdjust, Alu.decimalAdjust, mask_eq_bit, Flag.bitIndex]
  generalize bit f 0 = cy
  generalize bit f 4 = ac
  revert a
  cases cy <;> cases ac <;> (apply forall_byte; decide)

theorem rotate_eq (k : Rotation) (a : UInt8) (cy : Bool) : rotate k a cy = Alu.rotate k a cy := by
  revert a
  cases k <;> cases cy <;> (apply forall_byte; decide)

theorem rst_vector (n : Restart) : n.val.toUInt16 * 8 = UInt16.ofNat (8 * n.val) := by
  fin_cases n <;> rfl

end Datasheet

end Sim8080
