import Mathlib
import Sim8080.Proofs.StatusByte
import Sim8080.Proofs.Symbolic

namespace Sim8080

open Flags

namespace Cpu

@[simp] theorem setReg_pending (s : Cpu) (r : Reg) (v : UInt8) :
    (s.setReg r v).pending = s.pending := by
  cases r <;> rfl

@[simp] theorem setPair_pending (s : Cpu) (p : Pair) (w : UInt16) :
    (s.setPair p w).pending = s.pending := by
  cases p <;> rfl

@[simp] theorem setStackPair_pending (s : Cpu) (p : StackPair) (w : UInt16) :
    (s.setStackPair p w).pending = s.pending := by
  cases p <;> rfl

@[simp] theorem setReg_f (s : Cpu) (r : Reg) (v : UInt8) : (s.setReg r v).f = s.f := by
  cases r <;> rfl

@[simp] theorem setPair_f (s : Cpu) (p : Pair) (w : UInt16) : (s.setPair p w).f = s.f := by
  cases p <;> rfl

theorem fixed_setStackPair {s : Cpu} (h : Fixed s.f) (p : StackPair) (w : UInt16) :
    Fixed (s.setStackPair p w).f := by
  cases p
  case psw => exact fixed_setPsw s w
  all_goals exact h

end Cpu

namespace Board

variable {β : Type} [Bus β]

@[simp] theorem writeOperand_pending (o : Operand) (v : UInt8) (b : Board β) :
    ((writeOperand o v).run b).2.cpu.pending = b.cpu.pending := by
  cases o <;> simp only [run_writeOperand_reg, run_writeOperand_mem, run_write, snd_pair,
    Cpu.setReg_pending]

@[simp] theorem writeOperand_f (o : Operand) (v : UInt8) (b : Board β) :
    ((writeOperand o v).run b).2.cpu.f = b.cpu.f := by
  cases o <;> simp only [run_writeOperand_reg, run_writeOperand_mem, run_write, snd_pair,
    Cpu.setReg_f]

theorem perform_pending (i : Instr) (d : UInt16) (b : Board β) :
    ((perform i d).run b).2.cpu.pending = b.cpu.pending := by
  cases i
  -- A conditional instruction either makes its transfer or does nothing.
  case retIf cc | jmpIf cc | callIf cc =>
    cases hc : cc.holds b.cpu.f <;>
      simp only [perform, hc, ↓reduceIte, Bool.false_eq_true, run_bind, run_cpuState, run_push,
        run_pop, run_modifyCpu, run_pure, fst_pair, snd_pair]
  all_goals simp only [perform, updateOperand, accumulate, readWord, writeWord, run_push, run_pop,
    run_bind, run_pure, run_cpuState, run_modifyCpu, fst_pair, snd_pair, run_read, run_write,
    run_input, run_output, readOperand_cpu, writeOperand_pending, Cpu.setFlags, Cpu.setFlag,
    Cpu.setHL, Cpu.setDE, Cpu.setPair_pending, Cpu.setStackPair_pending]

theorem perform_fixed (i : Instr) (d : UInt16) (b : Board β) (h : Fixed b.cpu.f) :
    Fixed ((perform i d).run b).2.cpu.f := by
  cases i
  case retIf cc | jmpIf cc | callIf cc =>
    cases hc : cc.holds b.cpu.f <;>
      simp only [perform, hc, ↓reduceIte, Bool.false_eq_true, run_bind, run_cpuState, run_push,
        run_pop, run_modifyCpu, run_pure, fst_pair, snd_pair, h]
  all_goals simp only [perform, updateOperand, accumulate, readWord, writeWord, run_push, run_pop,
    run_bind, run_pure, run_cpuState, run_modifyCpu, fst_pair, snd_pair, run_read, run_write,
    run_input, run_output, readOperand_cpu, writeOperand_f, Cpu.fixed_setFlags, Cpu.setHL,
    Cpu.setDE, Cpu.setPair_f, Cpu.fixed_setStackPair, Cpu.fixed_setFlag, h]

theorem execute_pending (b : Board β) : (execute.run b).2.cpu.pending = b.cpu.pending := by
  simp only [execute, run_bind, run_cpuState, run_read, fst_pair, snd_pair]
  split <;> simp only [readWord, run_bind, run_read, run_modifyCpu, run_pure, fst_pair, snd_pair,
    perform_pending]

theorem execute_fixed (b : Board β) (h : Fixed b.cpu.f) : Fixed (execute.run b).2.cpu.f := by
  simp only [execute, run_bind, run_cpuState, run_read, fst_pair, snd_pair]
  split <;> simp only [readWord, run_bind, run_read, run_modifyCpu, run_pure, fst_pair, snd_pair] <;>
    exact perform_fixed _ _ _ h

end Board

end Sim8080
