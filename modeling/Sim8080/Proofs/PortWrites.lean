import Mathlib
import Sim8080.Proofs.BackgroundRuns

namespace Sim8080

structure Logged (β : Type) where
  bus : β
  outputs : List (UInt8 × UInt8)

namespace Logged

variable {β : Type} [Bus β]

instance : Bus (Logged β) where
  read l a := ((Bus.read l.bus a).1, ⟨(Bus.read l.bus a).2, l.outputs⟩)
  write l a v := ⟨Bus.write l.bus a v, l.outputs⟩
  input l p := ((Bus.input l.bus p).1, ⟨(Bus.input l.bus p).2, l.outputs⟩)
  output l p v := ⟨Bus.output l.bus p v, l.outputs ++ [(p, v)]⟩

instance [MemoryBus β] : MemoryBus (Logged β) where
  memory l := MemoryBus.memory l.bus
  read_fst l a := MemoryBus.read_fst l.bus a
  memory_read l a := MemoryBus.memory_read l.bus a
  memory_write l a v := MemoryBus.memory_write l.bus a v

variable (l : Logged β)

@[simp] theorem outputs_read (a : UInt16) : (Bus.read l a).2.outputs = l.outputs := rfl
@[simp] theorem outputs_write (a : UInt16) (v : UInt8) : (Bus.write l a v).outputs = l.outputs := rfl
@[simp] theorem outputs_input (p : UInt8) : (Bus.input l p).2.outputs = l.outputs := rfl
@[simp] theorem outputs_output (p v : UInt8) :
    (Bus.output l p v).outputs = l.outputs ++ [(p, v)] := rfl

end Logged

def Instr.portWrite (i : Instr) (data : UInt16) (a : UInt8) : Option (UInt8 × UInt8) :=
  match i with
  | .out => some (Word.lo data, a)
  | _ => none

namespace Board

variable {β γ : Type} [Bus β] [Bus γ]

structure BusMap (f : β → γ) : Prop where
  read : ∀ bus a, Bus.read (f bus) a = ((Bus.read bus a).1, f (Bus.read bus a).2)
  write : ∀ bus a v, Bus.write (f bus) a v = f (Bus.write bus a v)
  input : ∀ bus p, Bus.input (f bus) p = ((Bus.input bus p).1, f (Bus.input bus p).2)
  output : ∀ bus p v, Bus.output (f bus) p v = f (Bus.output bus p v)

section Map

variable {f : β → γ} (hf : BusMap f) (c : Cpu) (x : β)
include hf

theorem BusMap.readOperand (o : Operand) :
    (readOperand o).run (⟨c, f x⟩ : Board γ) =
      (((readOperand o).run (⟨c, x⟩ : Board β)).1,
        ⟨((readOperand o).run (⟨c, x⟩ : Board β)).2.cpu, f ((readOperand o).run (⟨c, x⟩ : Board β)).2.bus⟩) := by
  cases o <;> simp only [run_readOperand_reg, run_readOperand_mem, run_read, hf.read]

theorem BusMap.writeOperand (o : Operand) (v : UInt8) :
    (writeOperand o v).run (⟨c, f x⟩ : Board γ) =
      ((), ⟨((writeOperand o v).run (⟨c, x⟩ : Board β)).2.cpu,
        f ((writeOperand o v).run (⟨c, x⟩ : Board β)).2.bus⟩) := by
  cases o <;> simp only [run_writeOperand_reg, run_writeOperand_mem, run_write, hf.write]

theorem BusMap.perform (i : Instr) (d : UInt16) :
    (perform i d).run (⟨c, f x⟩ : Board γ) =
      (((perform i d).run (⟨c, x⟩ : Board β)).1,
        ⟨((perform i d).run (⟨c, x⟩ : Board β)).2.cpu, f ((perform i d).run (⟨c, x⟩ : Board β)).2.bus⟩) := by
  have hr := hf.read
  have hw := hf.write
  have hi := hf.input
  have ho := hf.output
  cases i
  case retIf cc | jmpIf cc | callIf cc =>
    cases hc : cc.holds c.f <;>
      simp only [Board.perform, hc, ↓reduceIte, Bool.false_eq_true, run_bind, run_cpuState, run_push,
        run_pop, run_modifyCpu, run_pure, fst_pair, snd_pair, hr, hw]
  -- `DAD` touches no bus; its carry test's decision procedure still reads the board, which `simp`
  -- leaves alone, so it is closed by unfolding.
  case dad p => rfl
  all_goals simp only [Board.perform, updateOperand, accumulate, readWord, writeWord, run_push,
    run_pop, run_bind, run_pure, run_cpuState, run_modifyCpu, fst_pair, snd_pair, run_read, run_write,
    run_input, run_output, hr, hw, hi, ho, hf.readOperand, hf.writeOperand]

theorem BusMap.execute :
    execute.run (⟨c, f x⟩ : Board γ) =
      ((execute.run (⟨c, x⟩ : Board β)).1,
        ⟨(execute.run (⟨c, x⟩ : Board β)).2.cpu, f (execute.run (⟨c, x⟩ : Board β)).2.bus⟩) := by
  simp only [Board.execute, run_bind, run_cpuState, run_read, fst_pair, snd_pair, hf.read]
  generalize Instr.decode (Bus.read x c.pc).1 = i
  rcases Datasheet.size_cases i with h | h | h
  all_goals simp only [h, readWord, run_bind, run_read, run_pure, run_modifyCpu, fst_pair, snd_pair,
    hf.read, hf.perform]

theorem BusMap.step :
    step.run (⟨c, f x⟩ : Board γ) =
      ((step.run (⟨c, x⟩ : Board β)).1,
        ⟨(step.run (⟨c, x⟩ : Board β)).2.cpu, f (step.run (⟨c, x⟩ : Board β)).2.bus⟩) := by
  rcases step_cases (⟨c, x⟩ : Board β) with ⟨ht, n, hn, hs⟩ | ⟨ht, hh, hs⟩ | ⟨ht, hh, hs⟩
  · rw [hs, step_take (⟨c, f x⟩ : Board γ) ht.1 hn]
    simp only [interrupted, hf.write]
  · rw [hs, step_idle (⟨c, f x⟩ : Board γ) ht hh]
    rfl
  · rw [hs, step_execute (⟨c, f x⟩ : Board γ) ht hh]
    simp only [passed, hf.execute]

end Map

theorem busMap_unlog : BusMap (Logged.bus : Logged β → β) :=
  ⟨fun _ _ => rfl, fun _ _ _ => rfl, fun _ _ => rfl, fun _ _ _ => rfl⟩

def portWrites (b : Board β) : List (UInt8 × UInt8) :=
  (step.run (⟨b.cpu, ⟨b.bus, []⟩⟩ : Board (Logged β))).2.bus.outputs

theorem step_logged (b : Board β) :
    step.run (⟨b.cpu, ⟨b.bus, []⟩⟩ : Board (Logged β)) =
      ((step.run b).1, ⟨(step.run b).2.cpu, ⟨(step.run b).2.bus, b.portWrites⟩⟩) := by
  have h := busMap_unlog.step b.cpu (⟨b.bus, []⟩ : Logged β)
  rw [show (⟨b.cpu, (⟨b.bus, []⟩ : Logged β).bus⟩ : Board β) = b from rfl] at h
  rw [h]
  rfl

section Logged

variable (b : Board (Logged β))

@[simp] theorem readOperand_outputs (o : Operand) :
    ((readOperand o).run b).2.bus.outputs = b.bus.outputs := by
  cases o <;> rfl

@[simp] theorem writeOperand_outputs (o : Operand) (v : UInt8) :
    ((writeOperand o v).run b).2.bus.outputs = b.bus.outputs := by
  cases o <;> rfl

theorem perform_outputs (i : Instr) (d : UInt16) :
    ((perform i d).run b).2.bus.outputs = b.bus.outputs ++ (i.portWrite d b.cpu.a).toList := by
  cases i
  case retIf cc | jmpIf cc | callIf cc =>
    cases hc : cc.holds b.cpu.f <;>
      simp only [Board.perform, hc, ↓reduceIte, Bool.false_eq_true, run_bind, run_cpuState, run_push,
        run_pop, run_modifyCpu, run_pure, fst_pair, snd_pair, Logged.outputs_read,
        Logged.outputs_write, Instr.portWrite, Option.toList_none, List.append_nil]
  all_goals simp only [Board.perform, updateOperand, accumulate, readWord, writeWord, run_push,
    run_pop, run_bind, run_pure, run_cpuState, run_modifyCpu, fst_pair, snd_pair, run_read, run_write,
    run_input, run_output, Logged.outputs_read, Logged.outputs_write, Logged.outputs_input,
    Logged.outputs_output, readOperand_outputs, writeOperand_outputs, readOperand_cpu,
    Instr.portWrite, Option.toList_none, Option.toList_some, List.append_nil]

theorem step_outputs [MemoryBus β] :
    ∃ w : Option (UInt8 × UInt8), (step.run b).2.bus.outputs = b.bus.outputs ++ w.toList := by
  rcases step_cases b with ⟨-, n, -, hs⟩ | ⟨-, -, hs⟩ | ⟨-, -, hs⟩
  · exact ⟨none, by simp [hs, interrupted]⟩
  · exact ⟨none, by simp [hs, passed]⟩
  · -- the fetch only reads, so the instruction starts from the same list
    obtain ⟨bus, hbus, he⟩ := execute_fetch b.passed (·.outputs = b.bus.outputs)
      (fun _ _ h => by rw [Logged.outputs_read, h]) rfl
    rw [hs]
    dsimp only
    rw [he, run_bind, run_pure, snd_pair, perform_outputs, hbus]
    exact ⟨_, rfl⟩

end Logged

theorem portWrites_length_le [MemoryBus β] (b : Board β) : b.portWrites.length ≤ 1 := by
  obtain ⟨w, hw⟩ := step_outputs (⟨b.cpu, ⟨b.bus, []⟩⟩ : Board (Logged β))
  rw [portWrites, hw, List.nil_append]
  cases w <;> simp

end Board

end Sim8080
