import Mathlib
import Sim8080.Cpu.Execute

namespace Sim8080

namespace Word

@[simp] theorem hi_ofBytes (h l : UInt8) : hi (ofBytes h l) = h := by
  apply UInt8.toNat_inj.mp
  have := h.toNat_lt
  have := l.toNat_lt
  simp only [ofBytes, hi, UInt16.toNat_toUInt8, UInt16.toNat_shiftRight, UInt16.toNat_add,
    UInt16.toNat_mul, UInt8.toNat_toUInt16, Nat.shiftRight_eq_div_pow, UInt16.reduceToNat,
    Nat.reduceMod, Nat.reducePow]
  omega

@[simp] theorem lo_ofBytes (h l : UInt8) : lo (ofBytes h l) = l := by
  apply UInt8.toNat_inj.mp
  have := h.toNat_lt
  have := l.toNat_lt
  simp only [ofBytes, lo, UInt16.toNat_toUInt8, UInt16.toNat_add, UInt16.toNat_mul,
    UInt8.toNat_toUInt16, UInt16.reduceToNat]
  omega

end Word

namespace Board

variable {β : Type} {α γ : Type}

@[simp] theorem run_bind (x : BoardM β α) (f : α → BoardM β γ) (b : Board β) :
    (x >>= f).run b = (f (x.run b).1).run (x.run b).2 := rfl

@[simp] theorem run_pure (a : α) (b : Board β) : (pure a : BoardM β α).run b = (a, b) := rfl

@[simp] theorem run_cpuState (b : Board β) : cpuState.run b = (b.cpu, b) := rfl

@[simp] theorem run_modifyCpu (g : Cpu → Cpu) (b : Board β) :
    (modifyCpu g).run b = ((), { b with cpu := g b.cpu }) := rfl

theorem run_modifyCpu_bind (g : Cpu → Cpu) (x : BoardM β α) (b : Board β) :
    (modifyCpu g >>= fun _ => x).run b = x.run { b with cpu := g b.cpu } := rfl

-- A run's result lives in `Id`, where the projections of a pair do not reduce by `simp`
-- on their own.
@[simp] theorem fst_pair (a : α) (c : γ) : Prod.fst ((a, c) : Id (α × γ)) = a := rfl

@[simp] theorem snd_pair (a : α) (c : γ) : Prod.snd ((a, c) : Id (α × γ)) = c := rfl

section Bus

variable [Bus β]

@[simp] theorem run_read (a : UInt16) (b : Board β) :
    (read a).run b = ((Bus.read b.bus a).1, { b with bus := (Bus.read b.bus a).2 }) := rfl

theorem run_read_bind (a : UInt16) (f : UInt8 → BoardM β α) (b : Board β) :
    (read a >>= f).run b = (f (Bus.read b.bus a).1).run { b with bus := (Bus.read b.bus a).2 } :=
  rfl

@[simp] theorem run_write (a : UInt16) (v : UInt8) (b : Board β) :
    (write a v).run b = ((), { b with bus := Bus.write b.bus a v }) := rfl

@[simp] theorem run_input (p : UInt8) (b : Board β) :
    (input p).run b = ((Bus.input b.bus p).1, { b with bus := (Bus.input b.bus p).2 }) := rfl

@[simp] theorem run_output (p v : UInt8) (b : Board β) :
    (output p v).run b = ((), { b with bus := Bus.output b.bus p v }) := rfl

@[simp] theorem run_readOperand_reg (r : Reg) (b : Board β) :
    (readOperand (.reg r)).run b = (b.cpu.reg r, b) := rfl

@[simp] theorem run_readOperand_mem (b : Board β) :
    (readOperand .mem).run b = (read b.cpu.hl).run b := rfl

@[simp] theorem run_writeOperand_reg (r : Reg) (v : UInt8) (b : Board β) :
    (writeOperand (.reg r) v).run b = ((), { b with cpu := b.cpu.setReg r v }) := rfl

@[simp] theorem run_writeOperand_mem (v : UInt8) (b : Board β) :
    (writeOperand .mem v).run b = (write b.cpu.hl v).run b := rfl

@[simp] theorem readOperand_cpu (o : Operand) (b : Board β) : ((readOperand o).run b).2.cpu = b.cpu := by
  cases o <;> rfl

theorem run_push (w : UInt16) (b : Board β) :
    (push w).run b =
      ((), ⟨{ b.cpu with sp := b.cpu.sp - 2 },
        Bus.write (Bus.write b.bus (b.cpu.sp - 1) (Word.hi w)) (b.cpu.sp - 2) (Word.lo w)⟩) := by
  have h2 : b.cpu.sp - 1 - 1 = b.cpu.sp - 2 := by grind
  simp only [push, run_bind, run_modifyCpu, run_cpuState, run_write, fst_pair, snd_pair, h2]

theorem run_pop (b : Board β) :
    pop.run b =
      (Word.ofBytes (Bus.read (Bus.read b.bus b.cpu.sp).2 (b.cpu.sp + 1)).1
          (Bus.read b.bus b.cpu.sp).1,
        ⟨{ b.cpu with sp := b.cpu.sp + 2 }, (Bus.read (Bus.read b.bus b.cpu.sp).2 (b.cpu.sp + 1)).2⟩) :=
  rfl

end Bus

end Board

end Sim8080
