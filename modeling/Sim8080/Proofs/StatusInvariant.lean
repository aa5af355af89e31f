import Mathlib
import Sim8080.Proofs.Interrupts
import Sim8080.Cpu.Saved

namespace Sim8080

open Flags

inductive Operation where
  | step
  | execute
  | signal (r : Request)
  | setFlags (v : UInt8)
  | setPsw (w : UInt16)
  | setFlag (fl : Flag) (on : Bool)
  | reset (pc : UInt16)
  | restore (st : SavedCpu)

namespace Operation

variable {β : Type} [Bus β]

def apply : Operation → Board β → Board β
  | step, b => (Board.step.run b).2
  | execute, b => (Board.execute.run b).2
  | signal r, b => { b with cpu := b.cpu.signal r }
  | setFlags v, b => { b with cpu := b.cpu.setFlags v }
  | setPsw w, b => { b with cpu := b.cpu.setPsw w }
  | setFlag fl on, b => { b with cpu := b.cpu.setFlag fl on }
  | reset pc, b => { b with cpu := Cpu.reset pc }
  | restore st, b => { b with cpu := Cpu.ofSaved st }

def run (ops : List Operation) (b : Board β) : Board β := ops.foldl (fun b o => o.apply b) b

theorem fixed_step (b : Board β) (h : Fixed b.cpu.f) : Fixed (Board.step.run b).2.cpu.f := by
  rcases Board.step_cases b with ⟨-, n, -, hs⟩ | ⟨-, -, hs⟩ | ⟨-, -, hs⟩
  · simpa only [hs, Board.interrupted] using h
  · simpa only [hs, Board.passed] using h
  · simpa only [hs] using Board.execute_fixed b.passed h

theorem fixed_apply (o : Operation) (b : Board β) (h : Fixed b.cpu.f) : Fixed (o.apply b).cpu.f := by
  cases o
  case step => exact fixed_step b h
  case execute => exact Board.execute_fixed b h
  case signal r => simpa only [apply, Cpu.signal_eq] using h
  case setFlags v => exact Cpu.fixed_setFlags b.cpu v
  case setPsw w => exact Cpu.fixed_setPsw b.cpu w
  case setFlag fl on => exact Cpu.fixed_setFlag h fl on
  case reset pc => exact fixed_fixed
  case restore st => exact fixed_normalize st.f

theorem fixed_run (ops : List Operation) (b : Board β) (h : Fixed b.cpu.f) :
    Fixed (run ops b).cpu.f := by
  induction ops generalizing b with
  | nil => exact h
  | cons o ops ih => exact ih (o.apply b) (fixed_apply o b h)

-- From power-on, after any operations, the status byte, the low byte of the program status
-- word (which `PUSH PSW` stores) and the saved status byte have bit 1 set and bits 3 and 5
-- clear.
theorem status_byte_fixed (ops : List Operation) (bus : β) :
    let c := (run ops ⟨Cpu.initial, bus⟩).cpu
    Fixed c.f ∧ Fixed (Word.lo (c.stackPair .psw)) ∧ Fixed c.save.f := by
  intro c
  have h : Fixed c.f := fixed_run ops _ fixed_fixed
  refine ⟨h, ?_, h⟩
  simpa only [Cpu.stackPair, Cpu.psw, Word.lo_ofBytes] using h

end Operation

end Sim8080
