import Mathlib
import Sim8080.Proofs.Arithmetic
import Sim8080.Proofs.Symbolic
import Sim8080.Machine.Context
import Sim8080.Trace

namespace Sim8080

def Bus.WritesCommute (β : Type) [Bus β] : Prop :=
  ∀ (bus : β) (a a' : UInt16) (v v' : UInt8), a ≠ a' →
    Bus.write (Bus.write bus a v) a' v' = Bus.write (Bus.write bus a' v') a v

theorem Memory.write_comm (m : Memory) {a a' : UInt16} (h : a ≠ a') (v v' : UInt8) :
    (m.write a v).write a' v' = (m.write a' v').write a v := by
  have hne : a.toNat ≠ a'.toNat := fun e => h (UInt16.toNat_inj.mp e)
  obtain ⟨⟨data⟩, size_eq⟩ := m
  simp only [Memory.write, ByteArray.set, Memory.mk.injEq, ByteArray.mk.injEq]
  exact Array.set_comm v v' hne

@[simp] theorem Memory.read_write_self (m : Memory) (a : UInt16) (v : UInt8) :
    (m.write a v).read a = v := by
  obtain ⟨⟨data⟩, size_eq⟩ := m
  simp [Memory.write, Memory.read, ByteArray.set, ByteArray.get]

theorem System.writesCommute : Bus.WritesCommute System := by
  intro s a a' v v' h
  obtain ⟨m, d⟩ := s
  show System.mk ((m.write a v).write a' v') d = System.mk ((m.write a' v').write a v) d
  rw [Memory.write_comm m h]

namespace Datasheet

open Board

variable {β : Type} [Bus β]

@[simp] theorem pairValue_eq (s : Cpu) (p : Pair) : pairValue s p = s.pair p := by
  cases p <;> rfl

@[simp] theorem setPairBytes_eq (s : Cpu) (p : Pair) (h l : UInt8) :
    setPairBytes s p h l = s.setPair p (Word.ofBytes h l) := by
  cases p <;> simp only [setPairBytes, Cpu.setPair, Cpu.setBC, Cpu.setDE, Cpu.setHL,
    Word.hi_ofBytes, Word.lo_ofBytes]

@[simp] theorem setPairValue_eq (s : Cpu) (p : Pair) (w : UInt16) :
    setPairValue s p w = s.setPair p w := by
  rw [setPairValue, setPairBytes_eq, Word.ofBytes_hi_lo]

@[simp] theorem pair_hl (s : Cpu) : s.pair .hl = s.hl := rfl

@[simp] theorem hi_hl (s : Cpu) : Word.hi s.hl = s.h := Word.hi_ofBytes _ _

@[simp] theorem lo_hl (s : Cpu) : Word.lo s.hl = s.l := Word.lo_ofBytes _ _

@[simp] theorem hi_de (s : Cpu) : Word.hi s.de = s.d := Word.hi_ofBytes _ _

@[simp] theorem lo_de (s : Cpu) : Word.lo s.de = s.e := Word.lo_ofBytes _ _

@[simp] theorem setHL_ofBytes (s : Cpu) (h l : UInt8) :
    s.setHL (Word.ofBytes h l) = { s with h, l } := by
  simp only [Cpu.setHL, Word.hi_ofBytes, Word.lo_ofBytes]

theorem hi_stackPair (s : Cpu) (p : StackPair) : Word.hi (s.stackPair p) = (stackBytes s p).1 := by
  cases p <;> simp only [Cpu.stackPair, stackBytes, Cpu.bc, Cpu.de, Cpu.hl, Cpu.psw,
    Word.hi_ofBytes]

theorem lo_stackPair (s : Cpu) (p : StackPair) : Word.lo (s.stackPair p) = (stackBytes s p).2 := by
  cases p <;> simp only [Cpu.stackPair, stackBytes, Cpu.bc, Cpu.de, Cpu.hl, Cpu.psw,
    Word.lo_ofBytes]

theorem setStackBytes_eq (s : Cpu) (p : StackPair) (h l : UInt8) :
    setStackBytes s p h l = s.setStackPair p (Word.ofBytes h l) := by
  cases p <;> simp only [setStackBytes, Cpu.setStackPair, Cpu.setBC, Cpu.setDE, Cpu.setHL,
    Cpu.setPsw, Cpu.setFlags, normalize_eq_flagByte, Word.hi_ofBytes, Word.lo_ofBytes]

theorem setFlag_carry_eq {s : Cpu} (h : Flags.Fixed s.f) (cy : Bool) :
    s.setFlag .carry cy = { s with f := withCarry s.f cy } := by
  rw [← setFlag_carry h cy]
  rfl

theorem add_eq_ofNat16 (x y : UInt16) : x + y = UInt16.ofNat (x.toNat + y.toNat) := by
  apply UInt16.toNat_inj.mp
  simp

@[simp] theorem load_eq : (load : Operand → BoardM β UInt8) = readOperand := by
  funext o
  cases o <;> rfl

@[simp] theorem store_eq : (store : Operand → UInt8 → BoardM β Unit) = writeOperand := by
  funext o
  cases o <;> rfl

theorem ne_add_one (x : UInt16) : x ≠ x + 1 := by
  intro h
  have := congrArg UInt16.toNat h
  simp only [UInt16.toNat_add, UInt16.reduceToNat] at this
  omega

theorem xthl_agrees (b2 b3 : UInt8) (b : Board β) (hc : Bus.WritesCommute β) :
    (perform .xthl (Word.ofBytes b3 b2) >>= fun t =>
        pure (if t then Instr.xthl.cycles else Instr.xthl.cyclesNotTaken)).run b =
      (transfer .xthl b2 b3).run b := by
  simp only [perform, transfer, readWord, writeWord, run_bind, run_cpuState, run_read, run_write,
    run_modifyCpu, run_pure, fst_pair, snd_pair, hi_hl, lo_hl, setHL_ofBytes, Instr.cycles,
    Instr.cyclesNotTaken, ↓reduceIte]
  rw [hc _ _ _ _ _ (ne_add_one b.cpu.sp)]

theorem transfer_agrees (i : Instr) (b2 b3 : UInt8) (b : Board β) (hf : Flags.Fixed b.cpu.f)
    (hx : i = .xthl → Bus.WritesCommute β) :
    (perform i (Word.ofBytes b3 b2) >>= fun t => pure (if t then i.cycles else i.cyclesNotTaken)).run b =
      (transfer i b2 b3).run b := by
  cases i
  case xthl => exact xthl_agrees b2 b3 b (hx rfl)
  -- Both sides test the same flag; each branch is then a fixed sequence.
  case retIf cc | jmpIf cc | callIf cc =>
    cases hc : holds cc b.cpu.f <;>
      simp only [perform, transfer, run_push, run_pop, callTo, returnFromStack, holds_eq, hc,
        run_bind, run_cpuState, run_read, run_modifyCpu, run_write, run_pure, fst_pair, snd_pair,
        Instr.cycles, Instr.cyclesNotTaken, ↓reduceIte, Bool.false_eq_true]
  -- The others once their operand fields are split into registers and memory.
  case' inr o | dcr o | mvi o | alu _ o => cases o
  case' mov dst src => cases dst <;> cases src
  all_goals
    simp only [perform, transfer, updateOperand, accumulate, readWord, writeWord, run_push,
      run_pop, callTo, returnFromStack, load_eq, store_eq, run_bind, run_pure, run_cpuState,
      run_modifyCpu, fst_pair, snd_pair, run_read, run_write, run_input, run_output,
      run_readOperand_reg, run_readOperand_mem, run_writeOperand_reg, run_writeOperand_mem,
      pairValue_eq, setPairValue_eq, setPairBytes_eq, pair_hl, hi_hl, lo_hl, hi_de, lo_de,
      hi_stackPair, lo_stackPair, setStackBytes_eq, Cpu.setFlags,
      Cpu.setDE, Cpu.setHL, setFlag_carry_eq, hf, flag_eq_bit, Flag.bitIndex, increment_eq,
      decrement_eq, alu_eq, decimalAdjust_eq, rotate_eq, complement_eq, rst_vector, add_eq_ofNat16,
      Instr.cycles, Instr.cyclesNotTaken, reduceCtorEq, or_false, false_or, or_self, ↓reduceIte,
      Word.hi_ofBytes, Word.lo_ofBytes, gt_iff_lt, ge_iff_le, Nat.lt_iff_add_one_le]

theorem size_cases (i : Instr) : i.size = 1 ∨ i.size = 2 ∨ i.size = 3 := by
  cases i <;> simp only [Instr.size, true_or, or_true]

theorem ofBytes_zero (v : UInt8) : Word.ofBytes 0 v = v.toUInt16 := by
  simp [Word.ofBytes]

set_option maxRecDepth 100000 in
theorem decode_xthl {op : UInt8} (h : Instr.decode op = .xthl) : op = 0xE3 := by
  revert op
  apply forall_byte
  decide

theorem execute_conforms (b : Board β) (hf : Flags.Fixed b.cpu.f)
    (hx : (Bus.read b.bus b.cpu.pc).1 = 0xE3 → Bus.WritesCommute β) :
    Board.execute.run b = Datasheet.execute.run b := by
  simp only [Board.execute, Datasheet.execute, run_bind, run_cpuState, run_read, fst_pair,
    snd_pair, ← decode_eq, length_eq]
  have hx' : Instr.decode (Bus.read b.bus b.cpu.pc).1 = .xthl → Bus.WritesCommute β :=
    fun h => hx (decode_xthl h)
  split
  next h =>
    simp only [h, pure_bind, Nat.reduceLeDiff, Nat.reduceEqDiff, ↓reduceIte]
    rw [run_modifyCpu_bind, run_modifyCpu_bind]
    exact transfer_agrees _ 0 0 _ hf hx'
  next h =>
    simp only [h, pure_bind, Nat.reduceLeDiff, Nat.reduceEqDiff, ↓reduceIte]
    rw [run_read_bind, run_read_bind, run_modifyCpu_bind, run_modifyCpu_bind, ← ofBytes_zero]
    exact transfer_agrees _ _ 0 _ hf hx'
  next h1 h2 =>
    have h : (Instr.decode (Bus.read b.bus b.cpu.pc).1).size = 3 := by
      rcases size_cases (Instr.decode (Bus.read b.bus b.cpu.pc).1) with h | h | h
      · exact absurd h h1
      · exact absurd h h2
      · exact h
    have h2 : b.cpu.pc + 1 + 1 = b.cpu.pc + 2 := by grind
    simp only [h, readWord, bind_assoc, pure_bind, Nat.reduceLeDiff, ↓reduceIte, h2]
    rw [run_read_bind, run_read_bind, run_read_bind, run_read_bind, run_modifyCpu_bind,
      run_modifyCpu_bind]
    exact transfer_agrees _ _ _ _ hf hx'

-- The machine's own bus, from power-on: both hypotheses hold there.
theorem execute_conforms_at_power_on :
    Flags.Fixed Cpu.initial.f ∧
      ((Bus.read (default : System) Cpu.initial.pc).1 = 0xE3 → Bus.WritesCommute System) ∧
      Board.execute.run (⟨Cpu.initial, default⟩ : Board System) =
        Datasheet.execute.run ⟨Cpu.initial, default⟩ :=
  ⟨by decide, fun _ => System.writesCommute,
    execute_conforms _ (by decide) (fun _ => System.writesCommute)⟩

theorem TraceBus.read_eq (t : TraceBus) (a : UInt16) :
    Bus.read t a = (t.memory.read a, { t with log := t.log.push ⟨a, t.memory.read a, .read⟩ }) :=
  rfl

theorem TraceBus.write_eq (t : TraceBus) (a : UInt16) (v : UInt8) :
    Bus.write t a v = { t with memory := t.memory.write a v, log := t.log.push ⟨a, v, .write⟩ } :=
  rfl

theorem xthl_writes_low_byte_first (b : Board TraceBus) (hop : b.bus.memory.read b.cpu.pc = 0xE3) :
    Board.execute.run b ≠ Datasheet.execute.run b := by
  intro h
  have hlog := congrArg (fun r : Nat × Board TraceBus => r.2.bus.log) h
  have hi : Instr.decode 0xE3 = .xthl := rfl
  have hd : decode 0xE3 = .xthl := rfl
  simp only [Board.execute, Datasheet.execute, run_bind, run_cpuState, run_read, run_write,
    run_modifyCpu, run_pure, fst_pair, snd_pair, TraceBus.read_eq, TraceBus.write_eq, hop, hi, hd,
    Instr.size, length, perform, transfer, readWord, writeWord, Nat.reduceLeDiff, Nat.reduceEqDiff,
    ↓reduceIte] at hlog
  -- The fourth access is the first write: to SP on one side, to SP + 1 on the other.
  have hwrites := (Array.push_eq_push.mp hlog).2
  have hfirst := (Array.push_eq_push.mp hwrites).1
  exact ne_add_one _ (congrArg BusCycle.addr hfirst)

-- Exact agreement, bus traffic included, fails for some register file with its fixed status
-- bits in place: `XTHL` at address zero of a recording bus.
theorem execute_differs_on_xthl :
    ∃ b : Board TraceBus, Flags.Fixed b.cpu.f ∧ Board.execute.run b ≠ Datasheet.execute.run b :=
  ⟨⟨Cpu.initial, { TraceBus.new with memory := (Memory.filled 0).write 0 0xE3 }⟩, by decide,
    xthl_writes_low_byte_first _ (Memory.read_write_self _ _ _)⟩

end Datasheet

end Sim8080
