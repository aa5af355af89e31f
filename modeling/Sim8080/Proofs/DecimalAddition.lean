import Mathlib
import Sim8080.Proofs.SystemCalls

set_option maxRecDepth 100000

namespace Sim8080

namespace Bcd

def Digits (x : UInt8) : Prop := x.toNat / 16 < 10 ∧ x.toNat % 16 < 10

instance : DecidablePred Digits := fun x =>
  inferInstanceAs (Decidable (x.toNat / 16 < 10 ∧ x.toNat % 16 < 10))

def value (x : UInt8) : Nat := 10 * (x.toNat / 16) + x.toNat % 16

theorem value_lt {x : UInt8} (h : Digits x) : value x < 100 := by
  obtain ⟨h1, h2⟩ := h
  simp only [value]
  omega

def byte (v : Nat) : UInt8 := UInt8.ofNat (16 * (v / 10 % 10) + v % 10)

theorem byte_mod (v : Nat) : byte (v % 100) = byte v := by
  unfold byte
  congr 2 <;> omega

end Bcd

namespace Memory

def decimal (m : Memory) (a : UInt16) : Nat → Nat
  | 0 => 0
  | k + 1 => Bcd.value (m.read a) + 100 * m.decimal (a + 1) k

theorem decimal_one (m : Memory) (a : UInt16) : m.decimal a 1 = Bcd.value (m.read a) := by
  simp [decimal]

def DecimalDigits (m : Memory) (a : UInt16) (k : Nat) : Prop :=
  ∀ i < k, Bcd.Digits (m.read (a + i.toUInt16))

theorem decimal_congr {m m' : Memory} {a : UInt16} {k : Nat}
    (h : ∀ i < k, m'.read (a + i.toUInt16) = m.read (a + i.toUInt16)) :
    m'.decimal a k = m.decimal a k := by
  induction k generalizing a with
  | zero => rfl
  | succ k ih =>
    have h0 : m'.read a = m.read a := by simpa using h 0 (by omega)
    rw [decimal, decimal, h0, ih fun i hi => ?_]
    rw [← add_toUInt16_succ]
    exact h (i + 1) (by omega)

theorem DecimalDigits.head {m : Memory} {a : UInt16} {k : Nat} (h : m.DecimalDigits a (k + 1)) :
    Bcd.Digits (m.read a) := by
  simpa using h 0 (by omega)

theorem DecimalDigits.succ {m : Memory} {a : UInt16} {k : Nat} (h : m.DecimalDigits a (k + 1)) :
    m.DecimalDigits (a + 1) k := fun i hi => by
  rw [← add_toUInt16_succ]
  exact h (i + 1) (by omega)

theorem decimal_add_succ {m : Memory} {a b : UInt16} (ha : Bcd.Digits (m.read a))
    (hb : Bcd.Digits (m.read b)) (k : Nat) (cin : Bool) :
    m.decimal a (k + 1) + m.decimal b (k + 1) + cin.toNat =
      (Bcd.value (m.read a) + Bcd.value (m.read b) + cin.toNat) % 100 +
        100 * (m.decimal (a + 1) k + m.decimal (b + 1) k +
          (decide (100 ≤ Bcd.value (m.read a) + Bcd.value (m.read b) + cin.toNat)).toNat) := by
  have hv : Bcd.value (m.read a) + Bcd.value (m.read b) + cin.toNat < 200 := by
    have := Bool.toNat_le cin
    have := Bcd.value_lt ha
    have := Bcd.value_lt hb
    omega
  simp only [decimal]
  by_cases h100 : 100 ≤ Bcd.value (m.read a) + Bcd.value (m.read b) + cin.toNat
  · simp only [h100, decide_true, Bool.toNat_true]
    omega
  · simp only [h100, decide_false, Bool.toNat_false]
    omega

end Memory

def Apart (a : UInt16) (k : Nat) (b : UInt16) (l : Nat) : Prop :=
  ∀ i < k, ∀ j < l, a + i.toUInt16 ≠ b + j.toUInt16

instance (a : UInt16) (k : Nat) (b : UInt16) (l : Nat) : Decidable (Apart a k b l) :=
  inferInstanceAs (Decidable (∀ i < k, ∀ j < l, _))

theorem Apart.head {a b : UInt16} {k l : Nat} (h : Apart a (k + 1) b l) :
    ∀ j < l, a ≠ b + j.toUInt16 :=
  fun j hj => by simpa using h 0 (by omega) j hj

theorem Apart.succ_left {a b : UInt16} {k l : Nat} (h : Apart a (k + 1) b l) : Apart (a + 1) k b l :=
  fun i hi j hj => by
    rw [← add_toUInt16_succ]
    exact h (i + 1) (by omega) j hj

theorem Apart.succ_right {a b : UInt16} {k l : Nat} (h : Apart a k b (l + 1)) : Apart a k (b + 1) l :=
  fun i hi j hj => by
    rw [← add_toUInt16_succ]
    exact h i hi (j + 1) (by omega)

theorem add_toUInt16_ne {a : UInt16} {i : Nat} (h0 : 0 < i) (hi : i < 65536) : a + i.toUInt16 ≠ a := by
  intro he
  have h := congrArg UInt16.toNat (add_eq_left.mp he)
  simp only [Nat.toUInt16, UInt16.toNat_ofNat', UInt16.reduceToNat] at h
  omega

theorem toUInt8_succ_sub_one (n : Nat) : (n + 1).toUInt8 - 1 = n.toUInt8 := by
  apply UInt8.toNat_inj.mp
  simp only [Nat.toUInt8, UInt8.toNat_sub, UInt8.toNat_ofNat', UInt8.reduceToNat]
  omega

theorem toUInt8_ne_zero {n : Nat} (h0 : 0 < n) (h : n < 256) : n.toUInt8 ≠ 0 := by
  intro he
  have := congrArg UInt8.toNat he
  simp only [Nat.toUInt8, UInt8.toNat_ofNat', UInt8.reduceToNat] at this
  omega

namespace Alu

theorem carry_of_flags (r : UInt8) (ac cy : Bool) :
    (Flags.normalize (Flags.ofResult r ||| Flag.auxCarry.bitIf ac ||| Flag.carry.bitIf cy) &&&
      Flag.carry.mask != 0) = cy := by
  revert r
  cases ac <;> cases cy <;> (apply forall_byte; decide)

theorem auxCarry_of_flags (r : UInt8) (ac cy : Bool) :
    (Flags.normalize (Flags.ofResult r ||| Flag.auxCarry.bitIf ac ||| Flag.carry.bitIf cy) &&&
      Flag.auxCarry.mask != 0) = ac := by
  revert r
  cases ac <;> cases cy <;> (apply forall_byte; decide)

theorem ana_self_carry (a : UInt8) (cy : Bool) :
    (Flags.normalize (apply .ana a a cy).flags &&& Flag.carry.mask != 0) = false := by
  simp only [apply]
  revert a
  apply forall_byte
  decide

theorem decimalAdjust_bits (a f : UInt8) :
    decimalAdjust a f = decimalAdjust a
      (Flag.carry.bitIf (f &&& Flag.carry.mask != 0) ||| Flag.auxCarry.bitIf (f &&& Flag.auxCarry.mask != 0)) := by
  have key : ∀ cy ac : Bool,
      ((Flag.carry.bitIf cy ||| Flag.auxCarry.bitIf ac) &&& Flag.carry.mask != 0) = cy ∧
        ((Flag.carry.bitIf cy ||| Flag.auxCarry.bitIf ac) &&& Flag.auxCarry.mask != 0) = ac := by
    decide
  simp only [decimalAdjust, (key _ _).1, (key _ _).2]

end Alu

theorem adjust_core : ∀ H < 19, ∀ L < 20,
    (Alu.decimalAdjust (UInt8.ofNat (16 * H + L))
      (Flag.carry.bitIf (decide (256 ≤ 16 * H + L)) ||| Flag.auxCarry.bitIf (decide (16 ≤ L)))).value =
        Bcd.byte (10 * H + L) ∧
    (Flags.normalize (Alu.decimalAdjust (UInt8.ofNat (16 * H + L))
      (Flag.carry.bitIf (decide (256 ≤ 16 * H + L)) ||| Flag.auxCarry.bitIf (decide (16 ≤ L)))).flags &&&
        Flag.carry.mask != 0) = decide (100 ≤ 10 * H + L) := by
  decide

namespace Alu

def decimalAdd (x y : UInt8) (cy : Bool) : Result :=
  decimalAdjust (add x y cy).value (Flags.normalize (add x y cy).flags)

theorem decrement_carry_zero (v f : UInt8) :
    (Flags.normalize (decrement v f).flags &&& Flag.carry.mask != 0) = (f &&& Flag.carry.mask != 0) ∧
      Cond.nz.holds (Flags.normalize (decrement v f).flags) = (v - 1 != 0) := by
  simp only [decrement, Datasheet.carry_mask_eq]
  generalize Datasheet.bit f 0 = cy
  revert v
  cases cy <;> (apply forall_byte; decide)

theorem decimalAdd_digits {x y : UInt8} (hx : Bcd.Digits x) (hy : Bcd.Digits y) (cin : Bool) :
    (decimalAdd x y cin).value = Bcd.byte (Bcd.value x + Bcd.value y + cin.toNat) ∧
      (Flags.normalize (decimalAdd x y cin).flags &&& Flag.carry.mask != 0) =
        decide (100 ≤ Bcd.value x + Bcd.value y + cin.toNat) := by
  obtain ⟨hx1, hx2⟩ := hx
  obtain ⟨hy1, hy2⟩ := hy
  -- The sum is sixteen times the sum of the tens plus the sum of the units and the carry.
  have hsum : x.toNat + y.toNat + cin.toNat = 16 * (x.toNat / 16 + y.toNat / 16) +
      (x.toNat % 16 + y.toNat % 16 + cin.toNat) := by omega
  have hval : Bcd.value x + Bcd.value y + cin.toNat = 10 * (x.toNat / 16 + y.toNat / 16) +
      (x.toNat % 16 + y.toNat % 16 + cin.toNat) := by simp only [Bcd.value]; omega
  have hcin : (if cin then 1 else 0) = cin.toNat := by cases cin <;> rfl
  have hc1 : cin.toNat ≤ 1 := Bool.toNat_le cin
  have hflags : decimalAdjust (add x y cin).value (Flags.normalize (add x y cin).flags) =
      decimalAdjust (UInt8.ofNat (16 * (x.toNat / 16 + y.toNat / 16) + (x.toNat % 16 + y.toNat % 16 + cin.toNat)))
        (Flag.carry.bitIf (decide (256 ≤ 16 * (x.toNat / 16 + y.toNat / 16) + (x.toNat % 16 + y.toNat % 16 + cin.toNat))) |||
          Flag.auxCarry.bitIf (decide (16 ≤ x.toNat % 16 + y.toNat % 16 + cin.toNat))) := by
    rw [decimalAdjust_bits]
    simp only [add, carry_of_flags, auxCarry_of_flags, Datasheet.low_nibble, hcin, ← hsum,
      Datasheet.add_eq_ofNat]
    congr 4
  rw [decimalAdd, hflags, hval]
  exact adjust_core _ (by omega) _ (by omega)

end Alu

namespace Board

open MemoryBus

variable {β : Type} [Bus β] [MemoryBus β]

section Stretches

variable {stop : UInt16} {c : Cpu} {m : Memory}

variable (hq : c.iff = false ∨ c.pending = none) (hh : c.halted = false) (hstop : c.pc ≠ stop)
include hq hh hstop

theorem stretch_alu_reg (op : AluOp) (r : Reg) (hop : Instr.decode (m.read c.pc) = .alu op (.reg r)) :
    Stretch β memory (· = stop) c m 1 4
      { c with a := (Alu.apply op c.a (c.reg r) (c.flag .carry)).value,
               f := Flags.normalize (Alu.apply op c.a (c.reg r) (c.flag .carry)).flags,
               pc := c.pc + 1, eiDelay := false } m := by
  refine stretch_step memory_read (fun _ h => h) hq hh hstop fun bus hm => ?_
  rw [hop]
  simp only [perform, accumulate, run_bind, run_cpuState, run_readOperand_reg, run_modifyCpu,
    run_pure, fst_pair, snd_pair]
  refine ⟨?_, hm, by cases r <;> rfl⟩
  cases r <;> simp [Cpu.setFlags, Cpu.reg, Cpu.flag, Instr.size]

theorem stretch_alu_mem (op : AluOp) (hop : Instr.decode (m.read c.pc) = .alu op .mem) :
    Stretch β memory (· = stop) c m 1 7
      { c with a := (Alu.apply op c.a (m.read c.hl) (c.flag .carry)).value,
               f := Flags.normalize (Alu.apply op c.a (m.read c.hl) (c.flag .carry)).flags,
               pc := c.pc + 1, eiDelay := false } m := by
  refine stretch_step memory_read (fun _ h => h) hq hh hstop fun bus hm => ?_
  rw [hop]
  simp only [perform, accumulate, run_bind, run_cpuState, run_readOperand_mem, run_read,
    run_modifyCpu, run_pure, fst_pair, snd_pair, read_fst, memory_read, hm]
  exact ⟨by simp [Cpu.setFlags, Cpu.flag, Cpu.hl, Instr.size], trivial, rfl⟩

theorem stretch_ldax (p : Pair) (hop : Instr.decode (m.read c.pc) = .ldax p) :
    Stretch β memory (· = stop) c m 1 7 { c with a := m.read (c.pair p), pc := c.pc + 1, eiDelay := false } m := by
  refine stretch_step memory_read (fun _ h => h) hq hh hstop fun bus hm => ?_
  rw [hop]
  simp only [perform, run_bind, run_cpuState, run_read, run_modifyCpu, run_pure, fst_pair,
    snd_pair, read_fst, memory_read, hm]
  refine ⟨?_, trivial, rfl⟩
  cases p <;> simp [Cpu.pair, Cpu.bc, Cpu.de, Cpu.hl, Instr.size]

theorem stretch_stax (p : Pair) (hop : Instr.decode (m.read c.pc) = .stax p) :
    Stretch β memory (· = stop) c m 1 7 { c with pc := c.pc + 1, eiDelay := false } (m.write (c.pair p) c.a) := by
  refine stretch_step memory_read (fun _ h => h) hq hh hstop fun bus hm => ?_
  rw [hop]
  simp only [perform, run_bind, run_cpuState, run_write, run_pure, fst_pair, snd_pair,
    memory_write, hm]
  refine ⟨by simp [Instr.size], ?_, rfl⟩
  cases p <;> simp [Cpu.pair, Cpu.bc, Cpu.de, Cpu.hl]

theorem stretch_daa (hop : Instr.decode (m.read c.pc) = .daa) :
    Stretch β memory (· = stop) c m 1 4
      { c with a := (Alu.decimalAdjust c.a c.f).value,
               f := Flags.normalize (Alu.decimalAdjust c.a c.f).flags,
               pc := c.pc + 1, eiDelay := false } m := by
  refine stretch_step memory_read (fun _ h => h) hq hh hstop fun bus hm => ?_
  rw [hop]
  simp only [perform, run_bind, run_cpuState, run_modifyCpu, run_pure, fst_pair, snd_pair]
  exact ⟨by simp [Cpu.setFlags, Instr.size], hm, rfl⟩

theorem stretch_inx (p : Pair) (hop : Instr.decode (m.read c.pc) = .inx p) :
    Stretch β memory (· = stop) c m 1 5 { c.setPair p (c.pair p + 1) with pc := c.pc + 1, eiDelay := false } m := by
  refine stretch_step memory_read (fun _ h => h) hq hh hstop fun bus hm => ?_
  rw [hop]
  simp only [perform, run_bind, run_cpuState, run_modifyCpu, run_pure, fst_pair, snd_pair]
  refine ⟨?_, hm, rfl⟩
  cases p <;> simp [Cpu.setPair, Cpu.pair, Cpu.setBC, Cpu.setDE, Cpu.setHL, Cpu.bc, Cpu.de, Cpu.hl,
    Instr.size]

theorem stretch_dcr (r : Reg) (hop : Instr.decode (m.read c.pc) = .dcr (.reg r)) :
    Stretch β memory (· = stop) c m 1 5
      { c.setReg r (c.reg r - 1) with f := Flags.normalize (Alu.decrement (c.reg r) c.f).flags,
                                       pc := c.pc + 1, eiDelay := false } m := by
  refine stretch_step memory_read (fun _ h => h) hq hh hstop fun bus hm => ?_
  rw [hop]
  simp only [perform, updateOperand, run_bind, run_cpuState, run_readOperand_reg,
    run_writeOperand_reg, run_modifyCpu, run_pure, fst_pair, snd_pair]
  refine ⟨?_, hm, by cases r <;> rfl⟩
  cases r <;> simp [Cpu.setReg, Cpu.reg, Cpu.setFlags, Alu.decrement, Instr.size]

theorem stretch_jmpIf (cc : Cond) (hop : Instr.decode (m.read c.pc) = .jmpIf cc) :
    Stretch β memory (· = stop) c m 1 10
      { c with
        pc := if cc.holds c.f then Word.ofBytes (m.read (c.pc + 2)) (m.read (c.pc + 1)) else c.pc + 3
        eiDelay := false } m := by
  refine stretch_step memory_read (fun _ h => h) hq hh hstop fun bus hm => ?_
  rw [hop]
  by_cases hc : cc.holds c.f
  all_goals
    simp only [perform, hc, run_bind, run_cpuState, run_modifyCpu, run_pure, snd_pair, fst_pair,
      ↓reduceIte, Bool.false_eq_true]
    exact ⟨by simp [Instr.size, operandWord], hm, rfl⟩

end Stretches

def decimalAddition (q : UInt16) : List UInt8 :=
  [0xA7, 0x1A, 0x8E, 0x27, 0x12, 0x13, 0x23, 0x05, 0xC2, Word.lo (q + 1), Word.hi (q + 1)]

def Holds (m : Memory) (q : UInt16) (code : List UInt8) : Prop :=
  ∀ i (h : i < code.length), m.read (q + i.toUInt16) = code[i]

theorem Holds.write {m : Memory} {q : UInt16} {code : List UInt8} (h : Holds m q code) {a : UInt16}
    (ha : ∀ i < code.length, a ≠ q + i.toUInt16) (v : UInt8) : Holds (m.write a v) q code := by
  intro i hi
  rw [Memory.read_write_of_ne _ (ha i hi)]
  exact h i hi

theorem Holds.loop_bytes {m : Memory} {q : UInt16} (h : Holds m q (decimalAddition q)) :
    m.read (q + 1) = 0x1A ∧ m.read (q + 2) = 0x8E ∧ m.read (q + 3) = 0x27 ∧ m.read (q + 4) = 0x12 ∧
    m.read (q + 5) = 0x13 ∧ m.read (q + 6) = 0x23 ∧ m.read (q + 7) = 0x05 ∧ m.read (q + 8) = 0xC2 ∧
    m.read (q + 9) = Word.lo (q + 1) ∧ m.read (q + 10) = Word.hi (q + 1) := by
  have hl : (decimalAddition q).length = 11 := rfl
  exact ⟨h 1 (by omega), h 2 (by omega), h 3 (by omega), h 4 (by omega), h 5 (by omega),
    h 6 (by omega), h 7 (by omega), h 8 (by omega), h 9 (by omega), h 10 (by omega)⟩

theorem ne_stop (q : UInt16) {i : Nat} (hi : i < 11) : q + i.toUInt16 ≠ q + 11 := by
  intro he
  have h := congrArg UInt16.toNat (add_left_cancel he)
  simp only [Nat.toUInt16, UInt16.toNat_ofNat', UInt16.reduceToNat] at h
  omega

section Pass

variable {c : Cpu} {m : Memory} {q : UInt16} (hq : c.iff = false ∨ c.pending = none)
  (hh : c.halted = false) (hcode : Holds m q (decimalAddition q))
include hq hh hcode

theorem stretch_sum (hpc : c.pc = q + 1) :
    Stretch β memory (· = q + 11) c m 4 25
      { c with a := (Alu.decimalAdd (m.read c.de) (m.read c.hl) (c.flag .carry)).value,
               f := Flags.normalize (Alu.decimalAdd (m.read c.de) (m.read c.hl) (c.flag .carry)).flags,
               pc := q + 5, eiDelay := false }
      (m.write c.de (Alu.decimalAdd (m.read c.de) (m.read c.hl) (c.flag .carry)).value) := by
  obtain ⟨r1, r2, r3, r4, -⟩ := hcode.loop_bytes
  have p2 : q + 1 + 1 = q + 2 := by rw [add_assoc]; rfl
  have p3 : q + 2 + 1 = q + 3 := by rw [add_assoc]; rfl
  have p4 : q + 3 + 1 = q + 4 := by rw [add_assoc]; rfl
  have p5 : q + 4 + 1 = q + 5 := by rw [add_assoc]; rfl
  refine ((((stretch_ldax hq hh ?_ .de ?_).trans (stretch_alu_mem (by exact hq) (by exact hh) ?_ .adc ?_)).trans
    (stretch_daa (by exact hq) (by exact hh) ?_ ?_)).trans (stretch_stax (by exact hq) (by exact hh) ?_ .de ?_)).congr
    ?_ ?_
  · rw [hpc]; exact ne_stop q (i := 1) (by omega)
  · rw [hpc, r1]; rfl
  · show c.pc + 1 ≠ _; rw [hpc, p2]; exact ne_stop q (i := 2) (by omega)
  · show Instr.decode (m.read (c.pc + 1)) = _; rw [hpc, p2, r2]; rfl
  · show c.pc + 1 + 1 ≠ _; rw [hpc, p2, p3]; exact ne_stop q (i := 3) (by omega)
  · show Instr.decode (m.read (c.pc + 1 + 1)) = _; rw [hpc, p2, p3, r3]; rfl
  · show c.pc + 1 + 1 + 1 ≠ _; rw [hpc, p2, p3, p4]; exact ne_stop q (i := 4) (by omega)
  · show Instr.decode (m.read (c.pc + 1 + 1 + 1)) = _; rw [hpc, p2, p3, p4, r4]; rfl
  · simp [hpc, p2, p3, p4, p5, Alu.decimalAdd, Alu.apply, Cpu.flag, Cpu.pair, Cpu.hl, Cpu.de]
  · simp [Alu.decimalAdd, Alu.apply, Cpu.flag, Cpu.pair, Cpu.hl, Cpu.de]

theorem stretch_advance (hpc : c.pc = q + 5) :
    Stretch β memory (· = q + 11) c m 4 25
      { (c.setDE (c.de + 1)).setHL (c.hl + 1) with
        b := c.b - 1, f := Flags.normalize (Alu.decrement c.b c.f).flags,
        pc := if c.b - 1 = 0 then q + 11 else q + 1, eiDelay := false } m := by
  obtain ⟨-, -, -, -, r5, r6, r7, r8, r9, r10⟩ := hcode.loop_bytes
  have p6 : q + 5 + 1 = q + 6 := by rw [add_assoc]; rfl
  have p7 : q + 6 + 1 = q + 7 := by rw [add_assoc]; rfl
  have p8 : q + 7 + 1 = q + 8 := by rw [add_assoc]; rfl
  have p9 : q + 8 + 1 = q + 9 := by rw [add_assoc]; rfl
  have p10 : q + 8 + 2 = q + 10 := by rw [add_assoc]; rfl
  have p11 : q + 8 + 3 = q + 11 := by rw [add_assoc]; rfl
  refine ((((stretch_inx hq hh ?_ .de ?_).trans (stretch_inx (by exact hq) (by exact hh) ?_ .hl ?_)).trans
    (stretch_dcr (by exact hq) (by exact hh) ?_ .b ?_)).trans
    (stretch_jmpIf (by exact hq) (by exact hh) ?_ .nz ?_)).congr ?_ rfl
  · rw [hpc]; exact ne_stop q (i := 5) (by omega)
  · rw [hpc, r5]; rfl
  · show c.pc + 1 ≠ _; rw [hpc, p6]; exact ne_stop q (i := 6) (by omega)
  · show Instr.decode (m.read (c.pc + 1)) = _; rw [hpc, p6, r6]; rfl
  · show c.pc + 1 + 1 ≠ _; rw [hpc, p6, p7]; exact ne_stop q (i := 7) (by omega)
  · show Instr.decode (m.read (c.pc + 1 + 1)) = _; rw [hpc, p6, p7, r7]; rfl
  · show c.pc + 1 + 1 + 1 ≠ _; rw [hpc, p6, p7, p8]; exact ne_stop q (i := 8) (by omega)
  · show Instr.decode (m.read (c.pc + 1 + 1 + 1)) = _; rw [hpc, p6, p7, p8, r8]; rfl
  · -- The jump reads its target, `q + 1`, from the two bytes after the opcode.
    have hz := (Alu.decrement_carry_zero c.b c.f).2
    by_cases hb : c.b - 1 = 0
    all_goals
      simp [hpc, p6, p7, p8, p9, p10, p11, r9, r10, hz, hb, Word.ofBytes_hi_lo, Cpu.setPair, Cpu.setReg,
        Cpu.reg, Cpu.setDE, Cpu.setHL, Cpu.pair, Cpu.de, Cpu.hl]

theorem stretch_pass (hpc : c.pc = q + 1) (hde : ∀ i : Nat, i < 11 → c.de ≠ q + i.toUInt16) :
    Stretch β memory (· = q + 11) c m 8 50
      { (c.setDE (c.de + 1)).setHL (c.hl + 1) with
        a := (Alu.decimalAdd (m.read c.de) (m.read c.hl) (c.flag .carry)).value, b := c.b - 1,
        f := Flags.normalize (Alu.decrement c.b
          (Flags.normalize (Alu.decimalAdd (m.read c.de) (m.read c.hl) (c.flag .carry)).flags)).flags,
        pc := if c.b - 1 = 0 then q + 11 else q + 1, eiDelay := false }
      (m.write c.de (Alu.decimalAdd (m.read c.de) (m.read c.hl) (c.flag .carry)).value) :=
  ((stretch_sum hq hh hcode hpc).trans
    (stretch_advance (by exact hq) (by exact hh) (hcode.write hde _) rfl)).congr
    (by simp [Cpu.setDE, Cpu.setHL, Cpu.de, Cpu.hl]) rfl

theorem stretch_pass_digits (hpc : c.pc = q + 1) (hde : ∀ i < 11, c.de ≠ q + i.toUInt16)
    (hx : Bcd.Digits (m.read c.de)) (hy : Bcd.Digits (m.read c.hl)) :
    ∃ f, Stretch β memory (· = q + 11) c m 8 50
        { (c.setDE (c.de + 1)).setHL (c.hl + 1) with
          a := Bcd.byte (Bcd.value (m.read c.de) + Bcd.value (m.read c.hl) + (c.flag .carry).toNat)
          b := c.b - 1, f, pc := if c.b - 1 = 0 then q + 11 else q + 1, eiDelay := false }
        (m.write c.de (Bcd.byte (Bcd.value (m.read c.de) + Bcd.value (m.read c.hl) + (c.flag .carry).toNat))) ∧
      (f &&& Flag.carry.mask != 0) =
        decide (100 ≤ Bcd.value (m.read c.de) + Bcd.value (m.read c.hl) + (c.flag .carry).toNat) := by
  obtain ⟨hsum, hcarry⟩ := Alu.decimalAdd_digits hx hy (c.flag .carry)
  refine ⟨_, by rw [← hsum]; exact stretch_pass hq hh hcode hpc hde, ?_⟩
  rw [(Alu.decrement_carry_zero _ _).1, hcarry]

end Pass

theorem stretch_loop {q : UInt16} (k : Nat) :
    ∀ (c : Cpu) (m : Memory), (c.iff = false ∨ c.pending = none) → c.halted = false →
      Holds m q (decimalAddition q) → c.pc = q + 1 → k < 256 → c.b = (k + 1).toUInt8 →
      m.DecimalDigits c.de (k + 1) → m.DecimalDigits c.hl (k + 1) →
      Apart c.de (k + 1) c.hl (k + 1) → Apart c.de (k + 1) q 11 →
      ∃ a f m', Stretch β memory (· = q + 11) c m (8 * (k + 1)) (50 * (k + 1))
          { (c.setDE (c.de + (k + 1).toUInt16)).setHL (c.hl + (k + 1).toUInt16) with
            a, b := 0, f, pc := q + 11, eiDelay := false } m' ∧
        (f &&& Flag.carry.mask != 0) =
          decide (100 ^ (k + 1) ≤ m.decimal c.de (k + 1) + m.decimal c.hl (k + 1) + (c.flag .carry).toNat) ∧
        (∀ i < k + 1, m'.read (c.de + i.toUInt16) =
          Bcd.byte ((m.decimal c.de (k + 1) + m.decimal c.hl (k + 1) + (c.flag .carry).toNat) / 100 ^ i)) ∧
        ∀ x, k + 1 ≤ (x - c.de).toNat → m'.read x = m.read x := by
  -- Each pass handles the byte pair at `DE` and `HL`; the passes after it see the pointers moved
  -- on, `B` one lower and the carry of that pair.
  induction k with
  | zero =>
    intro c m hq hh hcode hpc _ hb hx hy _ hxp
    obtain ⟨f, hpass, hf⟩ := stretch_pass_digits (β := β) hq hh hcode hpc hxp.head hx.head hy.head
    -- With `B` one, the jump falls through to `q + 11`.
    have hb1 : c.b - 1 = 0 := by rw [hb]; rfl
    refine ⟨_, f, _, hpass.congr (by simp only [hb1, ↓reduceIte]; rfl) rfl, ?_, fun i hi => ?_,
      fun x hx' => ?_⟩
    · simpa [Memory.decimal_one] using hf
    · obtain rfl : i = 0 := by omega
      simp [Memory.decimal_one, Memory.read_write_self]
    · exact Memory.read_write_of_ne _ (fun he => by simp [he] at hx') _
  | succ k ih =>
    intro c m hq hh hcode hpc hk hb hx hy hxy hxp
    obtain ⟨f1, hpass, hf1⟩ := stretch_pass_digits (β := β) hq hh hcode hpc hxp.head hx.head hy.head
    set v := Bcd.value (m.read c.de) + Bcd.value (m.read c.hl) + (c.flag .carry).toNat with hv
    -- After the first pass `B` is `k + 1`, not zero, so the jump goes back to `q + 1`.
    have hb1 : c.b - 1 = (k + 1).toUInt8 := by rw [hb]; exact toUInt8_succ_sub_one (k + 1)
    have hbnz : c.b - 1 ≠ 0 := by rw [hb1]; exact toUInt8_ne_zero (by omega) (by omega)
    set c1 : Cpu := { (c.setDE (c.de + 1)).setHL (c.hl + 1) with
      a := Bcd.byte v, b := c.b - 1, f := f1, pc := q + 1, eiDelay := false } with hc1
    replace hpass : Stretch β memory (· = q + 11) c m 8 50 c1 (m.write c.de (Bcd.byte v)) :=
      hpass.congr (by simp only [hbnz, ↓reduceIte]; rfl) rfl
    have hc1de : c1.de = c.de + 1 := by simp [hc1, Cpu.setDE, Cpu.setHL, Cpu.de, Word.ofBytes_hi_lo]
    have hc1hl : c1.hl = c.hl + 1 := by simp [hc1, Cpu.setDE, Cpu.setHL, Cpu.hl, Word.ofBytes_hi_lo]
    have hc1carry : c1.flag .carry = decide (100 ≤ v) := hf1
    -- The first pass wrote only at `DE`, which neither number has further on.
    have hread : ∀ x, x ≠ c.de → (m.write c.de (Bcd.byte v)).read x = m.read x :=
      fun x hx' => Memory.read_write_of_ne _ (Ne.symm hx') _
    have hnext : ∀ i < k + 1, c.de + 1 + i.toUInt16 ≠ c.de := fun i hi => by
      rw [← add_toUInt16_succ]
      exact add_toUInt16_ne (by omega) (by omega)
    have hyne : ∀ i < k + 1, c.hl + 1 + i.toUInt16 ≠ c.de := fun i hi => by
      rw [← add_toUInt16_succ]
      simpa using (hxy 0 (by omega) (i + 1) (by omega)).symm
    obtain ⟨a, f, m', hs, hcarry, hdig, hframe⟩ := ih c1 (m.write c.de (Bcd.byte v)) hq hh
      (hcode.write hxp.head _) rfl (by omega) hb1
      (by rw [hc1de]; exact fun i hi => (hread _ (hnext i hi)).symm ▸ hx.succ i hi)
      (by rw [hc1hl]; exact fun i hi => (hread _ (hyne i hi)).symm ▸ hy.succ i hi)
      (by rw [hc1de, hc1hl]; exact hxy.succ_left.succ_right) (by rw [hc1de]; exact hxp.succ_left)
    have hX : (m.write c.de (Bcd.byte v)).decimal c1.de (k + 1) = m.decimal (c.de + 1) (k + 1) := by
      rw [hc1de]
      exact Memory.decimal_congr fun i hi => hread _ (hnext i hi)
    have hY : (m.write c.de (Bcd.byte v)).decimal c1.hl (k + 1) = m.decimal (c.hl + 1) (k + 1) := by
      rw [hc1hl]
      exact Memory.decimal_congr fun i hi => hread _ (hyne i hi)
    rw [hX, hY, hc1carry] at hcarry hdig
    -- The whole sum is the first pair's last two digits and a hundred times the sum after it.
    have hT := Memory.decimal_add_succ hx.head hy.head (k + 1) (c.flag .carry)
    rw [← hv] at hT
    refine ⟨a, f, m', ?_, ?_, fun i hi => ?_, fun x hx' => ?_⟩
    · rw [show 8 * (k + 1 + 1) = 8 + 8 * (k + 1) by ring, show 50 * (k + 1 + 1) = 50 + 50 * (k + 1) by ring]
      refine (hpass.trans hs).congr ?_ rfl
      rw [hc1de, hc1hl, add_toUInt16_succ c.de (k + 1), add_toUInt16_succ c.hl (k + 1)]
      simp only [hc1, Cpu.setDE, Cpu.setHL]
    · rw [hcarry, decide_eq_decide, hT, pow_succ]
      omega
    · cases i with
      | zero =>
        have hfar : k + 1 ≤ (c.de - c1.de).toNat := by
          rw [hc1de, sub_add_eq_sub_sub, sub_self, zero_sub]
          simp only [UInt16.toNat_neg, UInt16.toNat_one, UInt16.size]
          omega
        rw [show c.de + (0 : Nat).toUInt16 = c.de by simp, pow_zero, Nat.div_one]
        rw [hframe _ hfar, Memory.read_write_self, ← Bcd.byte_mod, hT, ← Bcd.byte_mod (_ % 100 + _)]
        congr 1
        omega
      | succ i =>
        rw [add_toUInt16_succ, ← hc1de, hdig i (by omega), pow_succ', ← Nat.div_div_eq_div_mul]
        congr 2
        omega
    · have hne : x ≠ c.de := fun he => by simp [he] at hx'
      rw [hframe x (by rw [hc1de, Memory.sub_succ_toNat hne]; omega), hread x hne]

theorem outside_of_apart {a b : UInt16} {k l : Nat} (h : Apart a k b l) {j : Nat} (hj : j < l) :
    k ≤ (b + j.toUInt16 - a).toNat := by
  by_contra hlt
  refine h (b + j.toUInt16 - a).toNat (by omega) j hj ?_
  simp [Nat.toUInt16]

structure Loaded (b : Board β) (q : UInt16) (n : Nat) : Prop where
  pc_eq : b.cpu.pc = q
  code : Holds (memory b.bus) q (decimalAddition q)
  count : b.cpu.b = n.toUInt8
  sum_digits : (memory b.bus).DecimalDigits b.cpu.de n
  addend_digits : (memory b.bus).DecimalDigits b.cpu.hl n
  apart : Apart b.cpu.de n b.cpu.hl n
  apart_code : Apart b.cpu.de n q 11

-- Decimal addition of two numbers of `n` byte pairs (`1 ≤ n ≤ 256`, with `B = n mod 256`) by the
-- loop at `q`, on a processor with interrupts disabled that is not halted: `PC` first reaches `q + 11`
-- after `1 + 8n` steps, which take `4 + 50n` cycles. The bytes at `DE` then hold the decimal digits
-- of the sum modulo `100^n`, the carry says whether the sum reaches `100^n`, `B` is zero, `DE` and
-- `HL` have moved on by `n`, and no other register but `A` and the flags and no other byte of memory
-- has changed.
theorem decimal_addition {q : UInt16} (b : Board β) (n : Nat) (hn : 0 < n) (hn' : n ≤ 256)
    (hq : b.cpu.iff = false ∨ b.cpu.pending = none) (hh : b.cpu.halted = false) (hl : Loaded b q n) :
    (∀ j < 1 + 8 * n, (after j b).cpu.pc ≠ q + 11) ∧ elapsed (1 + 8 * n) b = 4 + 50 * n ∧
      (∃ a f, (after (1 + 8 * n) b).cpu =
        { (b.cpu.setDE (b.cpu.de + n.toUInt16)).setHL (b.cpu.hl + n.toUInt16) with
          a, b := 0, f, pc := q + 11, eiDelay := false }) ∧
      (after (1 + 8 * n) b).cpu.flag .carry =
        decide (100 ^ n ≤ (memory b.bus).decimal b.cpu.de n + (memory b.bus).decimal b.cpu.hl n) ∧
      (∀ i < n, (memory (after (1 + 8 * n) b).bus).read (b.cpu.de + i.toUInt16) =
        Bcd.byte (((memory b.bus).decimal b.cpu.de n + (memory b.bus).decimal b.cpu.hl n) / 100 ^ i)) ∧
      (∀ i < n, (memory (after (1 + 8 * n) b).bus).read (b.cpu.hl + i.toUInt16) =
        (memory b.bus).read (b.cpu.hl + i.toUInt16)) ∧
      ∀ x, n ≤ (x - b.cpu.de).toNat → (memory (after (1 + 8 * n) b).bus).read x = (memory b.bus).read x := by
  obtain ⟨k, rfl⟩ : ∃ k, n = k + 1 := ⟨n - 1, by omega⟩
  have hlen : (decimalAddition q).length = 11 := rfl
  have r0 : (memory b.bus).read q = 0xA7 := by
    simpa [decimalAddition] using hl.code 0 (by omega)
  -- `ANA A` leaves the registers but the flags as they were and clears the carry.
  have hstart : Stretch β memory (· = q + 11) b.cpu (memory b.bus) 1 4 _ _ :=
    stretch_alu_reg hq hh (by rw [hl.pc_eq]; simp) .ana .a (by rw [hl.pc_eq, r0]; rfl)
  set c1 : Cpu :=
    { b.cpu with
      a := (Alu.apply .ana b.cpu.a (b.cpu.reg .a) (b.cpu.flag .carry)).value
      f := Flags.normalize (Alu.apply .ana b.cpu.a (b.cpu.reg .a) (b.cpu.flag .carry)).flags
      pc := b.cpu.pc + 1, eiDelay := false } with hc1
  have hcarry1 : c1.flag .carry = false := Alu.ana_self_carry b.cpu.a _
  obtain ⟨a, f, m', hloop, hcarry, hdig, hframe⟩ := stretch_loop (β := β) k c1 (memory b.bus)
    hq hh hl.code (by rw [hc1, hl.pc_eq]) (by omega) hl.count hl.sum_digits
    hl.addend_digits hl.apart hl.apart_code
  rw [hcarry1, Bool.toNat_false, add_zero] at hcarry hdig
  obtain ⟨hc, hm, ht, hstop⟩ := (hstart.trans hloop) b rfl rfl
  refine ⟨hstop, by rw [ht], ⟨a, f, hc⟩, by rw [Cpu.flag, hc]; exact hcarry,
    fun i hi => by rw [hm]; exact hdig i hi, fun i hi => ?_, fun x hx => by rw [hm]; exact hframe x hx⟩
  rw [hm]
  exact hframe _ (outside_of_apart hl.apart hi)

def bcdMemory : Memory := (Memory.filled 0).writeAll 0x100 (decimalAddition 0x100 ++ [0x45, 0x38])

theorem bcdMemory_read (i : Nat) (hi : i < 13) :
    bcdMemory.read (0x100 + i.toUInt16) = (decimalAddition 0x100 ++ [0x45, 0x38])[i] := by
  rw [bcdMemory, Memory.read_writeAll _ _ _ _ (by decide)]
  interval_cases i <;> rfl

def bcdBoard (halted : Bool) : Board TraceBus :=
  ⟨{ pc := 0x100, b := 1, d := 0x01, e := 0x0B, h := 0x01, l := 0x0C, halted },
    { TraceBus.new with memory := bcdMemory }⟩

theorem bcdBoard_loaded (halted : Bool) : Loaded (bcdBoard halted) 0x100 1 where
  pc_eq := rfl
  code i hi := by
    have hlen : (decimalAddition 0x100).length = 11 := rfl
    rw [show memory (bcdBoard halted).bus = bcdMemory from rfl, bcdMemory_read i (by omega)]
    exact List.getElem_append_left hi
  count := rfl
  sum_digits i hi := by
    obtain rfl : i = 0 := by omega
    rw [show memory (bcdBoard halted).bus = bcdMemory from rfl,
      show (bcdBoard halted).cpu.de + (0 : Nat).toUInt16 = 0x100 + (11 : Nat).toUInt16 by decide +revert,
      bcdMemory_read 11 (by omega)]
    decide
  addend_digits i hi := by
    obtain rfl : i = 0 := by omega
    rw [show memory (bcdBoard halted).bus = bcdMemory from rfl,
      show (bcdBoard halted).cpu.hl + (0 : Nat).toUInt16 = 0x100 + (12 : Nat).toUInt16 by decide +revert,
      bcdMemory_read 12 (by omega)]
    decide
  apart := by decide +revert
  apart_code := by decide +revert

theorem bcdBoard_sum (halted : Bool) :
    (memory (bcdBoard halted).bus).decimal (bcdBoard halted).cpu.de 1 +
      (memory (bcdBoard halted).bus).decimal (bcdBoard halted).cpu.hl 1 = 83 := by
  rw [show memory (bcdBoard halted).bus = bcdMemory from rfl,
    show (bcdBoard halted).cpu.de = 0x100 + (11 : Nat).toUInt16 from rfl,
    show (bcdBoard halted).cpu.hl = 0x100 + (12 : Nat).toUInt16 from rfl,
    Memory.decimal_one, Memory.decimal_one, bcdMemory_read 11 (by omega),
    bcdMemory_read 12 (by omega)]
  rfl

theorem adds_45_and_38 : elapsed 9 (bcdBoard false) = 54 ∧ (after 9 (bcdBoard false)).cpu.pc = 0x10B ∧
    (memory (after 9 (bcdBoard false)).bus).read 0x10B = 0x83 ∧
    (after 9 (bcdBoard false)).cpu.flag .carry = false := by
  obtain ⟨-, ht, ⟨a, f, hc⟩, hcy, hdig, -⟩ :=
    decimal_addition (bcdBoard false) 1 (by decide) (by decide) (Or.inl rfl) rfl (bcdBoard_loaded false)
  rw [bcdBoard_sum] at hcy hdig
  exact ⟨ht, by rw [hc]; rfl, hdig 0 (by omega), hcy⟩

-- A halted processor never leaves the loop's first byte: loaded with all it needs, it idles.
theorem halted_addition_never_finishes :
    ∃ b : Board TraceBus, b.cpu.iff = false ∧ Loaded b 0x100 1 ∧ ∀ j, (after j b).cpu.pc ≠ 0x10B := by
  refine ⟨bcdBoard true, rfl, bcdBoard_loaded true, fun j => ?_⟩
  cases j with
  | zero => decide
  | succ j =>
    rw [after_halted _ (Or.inl rfl) rfl]
    decide

end Board

end Sim8080
