import Mathlib
import Sim8080.Proofs.Interrupts
import Sim8080.Proofs.Conformance

namespace Sim8080

namespace Memory

theorem read_write_of_ne (m : Memory) {a a' : UInt16} (h : a ≠ a') (v : UInt8) :
    (m.write a v).read a' = m.read a' := by
  have hne : a.toNat ≠ a'.toNat := fun e => h (UInt16.toNat_inj.mp e)
  obtain ⟨⟨data⟩, size_eq⟩ := m
  simp [Memory.write, Memory.read, ByteArray.set, ByteArray.get, Array.getElem_set, hne]

@[simp] theorem write_read_self (m : Memory) (a : UInt16) : m.write a (m.read a) = m := by
  obtain ⟨⟨data⟩, size_eq⟩ := m
  simp [Memory.write, Memory.read, ByteArray.set, ByteArray.get]

@[simp] theorem write_write_self (m : Memory) (a : UInt16) (v v' : UInt8) :
    (m.write a v).write a v' = m.write a v' := by
  obtain ⟨⟨data⟩, size_eq⟩ := m
  simp [Memory.write, ByteArray.set]

def push (m : Memory) (sp w : UInt16) : Memory :=
  (m.write (sp - 1) (Word.hi w)).write (sp - 2) (Word.lo w)

theorem sub_one_ne_sub_two (sp : UInt16) : sp - 1 ≠ sp - 2 := by
  intro h
  have := congrArg UInt16.toNat h
  simp only [UInt16.toNat_sub, UInt16.reduceToNat] at this
  omega

@[simp] theorem push_read_high (m : Memory) (sp w : UInt16) : (m.push sp w).read (sp - 1) = Word.hi w := by
  rw [push, read_write_of_ne _ (sub_one_ne_sub_two sp).symm, read_write_self]

@[simp] theorem push_read_low (m : Memory) (sp w : UInt16) : (m.push sp w).read (sp - 2) = Word.lo w := by
  rw [push, read_write_self]

theorem push_read_of_ne (m : Memory) (sp w : UInt16) {a : UInt16} (h1 : a ≠ sp - 1)
    (h2 : a ≠ sp - 2) : (m.push sp w).read a = m.read a := by
  rw [push, read_write_of_ne _ (Ne.symm h2), read_write_of_ne _ (Ne.symm h1)]

end Memory

class MemoryBus (β : Type) [Bus β] where
  memory : β → Memory
  read_fst : ∀ bus a, (Bus.read bus a).1 = (memory bus).read a
  memory_read : ∀ bus a, memory (Bus.read bus a).2 = memory bus
  memory_write : ∀ bus a v, memory (Bus.write bus a v) = (memory bus).write a v

attribute [simp] MemoryBus.read_fst MemoryBus.memory_read MemoryBus.memory_write

instance : MemoryBus System where
  memory := System.memory
  read_fst _ _ := rfl
  memory_read _ _ := rfl
  memory_write s _ _ := by cases s; rfl

instance : MemoryBus TraceBus where
  memory := TraceBus.memory
  read_fst _ _ := rfl
  memory_read _ _ := rfl
  memory_write _ _ _ := rfl

namespace Board

open MemoryBus

variable {β : Type} [Bus β]

@[simp] theorem push_cpu (w : UInt16) (b : Board β) :
    ((push w).run b).2.cpu = { b.cpu with sp := b.cpu.sp - 2 } := by
  rw [run_push]

@[simp] theorem pop_cpu (b : Board β) : (pop.run b).2.cpu = { b.cpu with sp := b.cpu.sp + 2 } := by
  rw [run_pop]

variable [MemoryBus β]

@[simp] theorem push_memory (w : UInt16) (b : Board β) :
    memory ((push w).run b).2.bus = (memory b.bus).push b.cpu.sp w := by
  simp only [run_push, memory_write, Memory.push]

@[simp] theorem pop_value (b : Board β) :
    (pop.run b).1 = Word.ofBytes ((memory b.bus).read (b.cpu.sp + 1)) ((memory b.bus).read b.cpu.sp) := by
  simp only [run_pop, read_fst, memory_read]

@[simp] theorem pop_memory (b : Board β) : memory (pop.run b).2.bus = memory b.bus := by
  simp only [run_pop, memory_read]

theorem pop_of_push (w : UInt16) (b : Board β) :
    ((push w >>= fun _ => pop).run b).1 = w ∧ ((push w >>= fun _ => pop).run b).2.cpu = b.cpu ∧
      memory ((push w >>= fun _ => pop).run b).2.bus = (memory b.bus).push b.cpu.sp w := by
  have h1 : b.cpu.sp - 2 + 1 = b.cpu.sp - 1 := by grind
  have h2 : b.cpu.sp - 2 + 2 = b.cpu.sp := by grind
  simp only [run_bind, pop_value, pop_cpu, pop_memory, push_cpu, push_memory, h1, h2,
    Memory.push_read_high, Memory.push_read_low, Word.ofBytes_hi_lo, and_true]

theorem readWord_of_writeWord (a w : UInt16) (b : Board β) :
    ((writeWord a w >>= fun _ => readWord a).run b).1 = w := by
  simp only [writeWord, readWord, run_bind, run_write, run_read, run_pure, fst_pair, snd_pair,
    read_fst, memory_read, memory_write]
  rw [Memory.read_write_self, Memory.read_write_of_ne _ (Datasheet.ne_add_one a).symm,
    Memory.read_write_self, Word.ofBytes_hi_lo]

theorem xthl_run (d : UInt16) (b : Board β) :
    ((perform .xthl d).run b).2.cpu =
        b.cpu.setHL (Word.ofBytes ((memory b.bus).read (b.cpu.sp + 1)) ((memory b.bus).read b.cpu.sp)) ∧
      memory ((perform .xthl d).run b).2.bus =
        ((memory b.bus).write b.cpu.sp b.cpu.l).write (b.cpu.sp + 1) b.cpu.h := by
  simp only [perform, readWord, writeWord, run_bind, run_cpuState, run_read, run_write,
    run_modifyCpu, run_pure, fst_pair, snd_pair, read_fst, memory_read, memory_write,
    Datasheet.hi_hl, Datasheet.lo_hl, and_self]

theorem xthl_twice (d d' : UInt16) (b : Board β) :
    ((perform .xthl d >>= fun _ => perform .xthl d').run b).2.cpu = b.cpu ∧
      memory ((perform .xthl d >>= fun _ => perform .xthl d').run b).2.bus = memory b.bus := by
  obtain ⟨hc1, hm1⟩ := xthl_run d b
  obtain ⟨hc2, hm2⟩ := xthl_run d' (perform .xthl d |>.run b).2
  have hne := Datasheet.ne_add_one b.cpu.sp
  have hsp : ((perform .xthl d).run b).2.cpu.sp = b.cpu.sp := by simp [hc1, Cpu.setHL]
  rw [run_bind, hc2, hm2, hsp, hm1, hc1]
  constructor
  · -- The word read back is the `HL` just stored, so the second exchange restores `HL`.
    rw [Memory.read_write_self, Memory.read_write_of_ne _ hne.symm, Memory.read_write_self]
    simp [Cpu.setHL]
  · simp only [Cpu.setHL, Word.hi_ofBytes, Word.lo_ofBytes]
    rw [Memory.write_comm _ hne.symm, Memory.write_write_self, Memory.write_write_self,
      Memory.write_read_self, Memory.write_read_self]

def operandWord (m : Memory) (pc : UInt16) : Nat → UInt16
  | 1 => 0
  | 2 => (m.read (pc + 1)).toUInt16
  | _ => Word.ofBytes (m.read (pc + 2)) (m.read (pc + 1))

theorem execute_fetch (b : Board β) (Q : β → Prop) (hQ : ∀ bus a, Q bus → Q (Bus.read bus a).2)
    (hb : Q b.bus) :
    ∃ bus, Q bus ∧ execute.run b =
      (perform (Instr.decode ((memory b.bus).read b.cpu.pc))
          (operandWord (memory b.bus) b.cpu.pc (Instr.decode ((memory b.bus).read b.cpu.pc)).size) >>=
        fun t => pure (if t then (Instr.decode ((memory b.bus).read b.cpu.pc)).cycles
          else (Instr.decode ((memory b.bus).read b.cpu.pc)).cyclesNotTaken)).run
      ⟨{ b.cpu with pc := b.cpu.pc + (Instr.decode ((memory b.bus).read b.cpu.pc)).size.toUInt16 }, bus⟩ := by
  simp only [execute, run_bind, run_cpuState, run_read, fst_pair, snd_pair, read_fst]
  generalize hi : Instr.decode ((memory b.bus).read b.cpu.pc) = i
  rcases Datasheet.size_cases i with h | h | h
  · refine ⟨(Bus.read b.bus b.cpu.pc).2, hQ _ _ hb, ?_⟩
    simp only [h, operandWord, pure_bind]
    rfl
  · refine ⟨(Bus.read (Bus.read b.bus b.cpu.pc).2 (b.cpu.pc + 1)).2, hQ _ _ (hQ _ _ hb), ?_⟩
    simp only [h, operandWord, run_bind, run_read, run_pure, fst_pair, snd_pair, read_fst,
      memory_read]
    rfl
  · have h2 : b.cpu.pc + 1 + 1 = b.cpu.pc + 2 := by grind
    refine ⟨(Bus.read (Bus.read (Bus.read b.bus b.cpu.pc).2 (b.cpu.pc + 1)).2 (b.cpu.pc + 2)).2,
      hQ _ _ (hQ _ _ (hQ _ _ hb)), ?_⟩
    simp only [h, operandWord, readWord, run_bind, run_read, run_pure, fst_pair, snd_pair,
      read_fst, memory_read, h2]
    rfl

theorem execute_board (b : Board β) :
    ∃ bus, memory bus = memory b.bus ∧ (execute.run b).2 =
      ((perform (Instr.decode ((memory b.bus).read b.cpu.pc))
          (operandWord (memory b.bus) b.cpu.pc (Instr.decode ((memory b.bus).read b.cpu.pc)).size)).run
        ⟨{ b.cpu with pc := b.cpu.pc + (Instr.decode ((memory b.bus).read b.cpu.pc)).size.toUInt16 },
          bus⟩).2 := by
  obtain ⟨bus, hbus, h⟩ := execute_fetch b (memory · = memory b.bus) (fun _ _ h => by simp [h]) rfl
  exact ⟨bus, hbus, by rw [h, run_bind, run_pure]⟩

structure Entered (b b' : Board β) (r target : UInt16) : Prop where
  sp_eq : b'.cpu.sp = b.cpu.sp - 2
  pc_eq : b'.cpu.pc = target
  memory_eq : memory b'.bus = (memory b.bus).push b.cpu.sp r

structure Returned (b b' : Board β) : Prop where
  sp_eq : b'.cpu.sp = b.cpu.sp + 2
  pc_eq : b'.cpu.pc = Word.ofBytes ((memory b.bus).read (b.cpu.sp + 1)) ((memory b.bus).read b.cpu.sp)
  memory_eq : memory b'.bus = memory b.bus

theorem Entered.congr {b c b' : Board β} {r target : UInt16} (h : Entered c b' r target)
    (hsp : c.cpu.sp = b.cpu.sp) (hm : memory c.bus = memory b.bus) : Entered b b' r target :=
  ⟨hsp ▸ h.sp_eq, h.pc_eq, hsp ▸ hm ▸ h.memory_eq⟩

theorem Returned.congr {b c b' : Board β} (h : Returned c b') (hsp : c.cpu.sp = b.cpu.sp)
    (hm : memory c.bus = memory b.bus) : Returned b b' :=
  ⟨hsp ▸ h.sp_eq, hsp ▸ hm ▸ h.pc_eq, hm ▸ h.memory_eq⟩

theorem Returned.to_return_address {b b' : Board β} {s r : UInt16} (h : Returned b b')
    (hsp : b.cpu.sp = s - 2) (hlo : (memory b.bus).read (s - 2) = Word.lo r)
    (hhi : (memory b.bus).read (s - 1) = Word.hi r) : b'.cpu.pc = r ∧ b'.cpu.sp = s := by
  have h1 : s - 2 + 1 = s - 1 := by grind
  have h2 : s - 2 + 2 = s := by grind
  rw [h.pc_eq, h.sp_eq, hsp, h1, h2, hlo, hhi, Word.ofBytes_hi_lo]
  exact ⟨rfl, rfl⟩

theorem call_entered (d : UInt16) (c : Board β) :
    Entered c ((perform .call d).run c).2 c.cpu.pc d := by
  simp only [perform, run_bind, run_cpuState, run_modifyCpu, run_pure, fst_pair, snd_pair]
  exact ⟨by simp, rfl, by simp⟩

theorem callIf_entered {cc : Cond} (d : UInt16) (c : Board β) (h : cc.holds c.cpu.f) :
    Entered c ((perform (.callIf cc) d).run c).2 c.cpu.pc d := by
  simp only [perform, h, ↓reduceIte, run_bind, run_cpuState, run_modifyCpu, run_pure, fst_pair,
    snd_pair]
  exact ⟨by simp, rfl, by simp⟩

theorem rst_entered (n : Restart) (d : UInt16) (c : Board β) :
    Entered c ((perform (.rst n) d).run c).2 c.cpu.pc (n.val.toUInt16 * 8) := by
  simp only [perform, run_bind, run_cpuState, run_modifyCpu, run_pure, fst_pair, snd_pair]
  exact ⟨by simp, rfl, by simp⟩

theorem interrupted_entered (b : Board β) (n : Restart) :
    Entered b (b.interrupted n) b.cpu.pc (n.val.toUInt16 * 8) :=
  ⟨rfl, rfl, by simp [interrupted, Memory.push]⟩

theorem ret_returned (d : UInt16) (c : Board β) : Returned c ((perform .ret d).run c).2 := by
  simp only [perform, run_bind, run_modifyCpu, run_pure, snd_pair]
  exact ⟨by simp, by simp, by simp⟩

theorem retIf_returned {cc : Cond} (d : UInt16) (c : Board β) (h : cc.holds c.cpu.f) :
    Returned c ((perform (.retIf cc) d).run c).2 := by
  simp only [perform, h, ↓reduceIte, run_bind, run_cpuState, run_modifyCpu, run_pure, fst_pair,
    snd_pair]
  exact ⟨by simp, by simp, by simp⟩

theorem decode_call {op : UInt8} (h : op ∈ [0xCD, 0xDD, 0xED, 0xFD]) : Instr.decode op = .call := by
  simp only [List.mem_cons, List.not_mem_nil, or_false] at h
  rcases h with rfl | rfl | rfl | rfl <;> rfl

theorem decode_callIf (cc : Cond) : Instr.decode ((0xC4 : UInt8) ||| (cc.code <<< 3)) = .callIf cc := by
  cases cc <;> rfl

theorem decode_rst (n : Restart) : Instr.decode ((0xC7 : UInt8) ||| (n.val.toUInt8 <<< 3)) = .rst n := by
  revert n
  decide

theorem decode_ret {op : UInt8} (h : op ∈ [0xC9, 0xD9]) : Instr.decode op = .ret := by
  simp only [List.mem_cons, List.not_mem_nil, or_false] at h
  rcases h with rfl | rfl <;> rfl

theorem decode_retIf (cc : Cond) : Instr.decode ((0xC0 : UInt8) ||| (cc.code <<< 3)) = .retIf cc := by
  cases cc <;> rfl

theorem execute_entered {b : Board β} {i : Instr} {target : UInt16}
    (hi : Instr.decode ((memory b.bus).read b.cpu.pc) = i)
    (h : ∀ c : Board β, c.cpu.f = b.cpu.f →
      Entered c ((perform i (operandWord (memory b.bus) b.cpu.pc i.size)).run c).2 c.cpu.pc target) :
    Entered b (execute.run b).2 (b.cpu.pc + i.size.toUInt16) target := by
  obtain ⟨bus, hbus, hrun⟩ := execute_board b
  rw [hrun, hi]
  exact (h ⟨{ b.cpu with pc := b.cpu.pc + i.size.toUInt16 }, bus⟩ rfl).congr rfl hbus

theorem execute_returned {b : Board β} {i : Instr}
    (hi : Instr.decode ((memory b.bus).read b.cpu.pc) = i)
    (h : ∀ c : Board β, c.cpu.f = b.cpu.f →
      Returned c ((perform i (operandWord (memory b.bus) b.cpu.pc i.size)).run c).2) :
    Returned b (execute.run b).2 := by
  obtain ⟨bus, hbus, hrun⟩ := execute_board b
  rw [hrun, hi]
  exact (h ⟨{ b.cpu with pc := b.cpu.pc + i.size.toUInt16 }, bus⟩ rfl).congr rfl hbus

-- How control passes into and out of subroutines, on every bus whose memory accesses go to a
-- 64K memory, for every stack pointer:
-- * a call (`CALL` or one of its aliases `DDh`, `EDh`, `FDh`), a conditional call whose condition
-- holds, and a restart store the address of the next instruction below the stack pointer, high
-- byte first, move the stack pointer down by two, change no other byte of memory and jump;
-- * so does the acknowledgement of an interrupt, storing the address of the instruction it
-- interrupts;
-- * a return (`RET`, its alias `D9h`, or a conditional return whose condition holds) over the two
-- bytes a call stored goes back to the call's return address, with the stack pointer where it was
-- before the call, and changes no memory;
-- * a pop after a push answers the word pushed and restores the registers, a word read after a
-- word write at the same address answers the word written, and `XTHL` twice restores the
-- registers and the memory.
theorem subroutine_linkage :
    (∀ b : Board β, (memory b.bus).read b.cpu.pc ∈ [0xCD, 0xDD, 0xED, 0xFD] →
      Entered b (execute.run b).2 (b.cpu.pc + 3)
        (Word.ofBytes ((memory b.bus).read (b.cpu.pc + 2)) ((memory b.bus).read (b.cpu.pc + 1)))) ∧
    (∀ (b : Board β) (cc : Cond), (memory b.bus).read b.cpu.pc = (0xC4 : UInt8) ||| (cc.code <<< 3) →
      cc.holds b.cpu.f →
      Entered b (execute.run b).2 (b.cpu.pc + 3)
        (Word.ofBytes ((memory b.bus).read (b.cpu.pc + 2)) ((memory b.bus).read (b.cpu.pc + 1)))) ∧
    (∀ (b : Board β) (n : Restart), (memory b.bus).read b.cpu.pc = (0xC7 : UInt8) ||| (n.val.toUInt8 <<< 3) →
      Entered b (execute.run b).2 (b.cpu.pc + 1) (n.val.toUInt16 * 8)) ∧
    (∀ (b : Board β) (n : Restart), b.cpu.Accepting → b.cpu.pending = some n →
      (step.run b).1.kind = .interrupt ∧ Entered b (step.run b).2 b.cpu.pc (n.val.toUInt16 * 8)) ∧
    (∀ (b : Board β) (s r : UInt16), b.cpu.sp = s - 2 → (memory b.bus).read (s - 2) = Word.lo r →
      (memory b.bus).read (s - 1) = Word.hi r →
      ((memory b.bus).read b.cpu.pc ∈ [0xC9, 0xD9] ∨
        ∃ cc : Cond, (memory b.bus).read b.cpu.pc = (0xC0 : UInt8) ||| (cc.code <<< 3) ∧ cc.holds b.cpu.f) →
      (execute.run b).2.cpu.pc = r ∧ (execute.run b).2.cpu.sp = s ∧
        memory (execute.run b).2.bus = memory b.bus) ∧
    (∀ (w : UInt16) (b : Board β), ((push w >>= fun _ => pop).run b).1 = w ∧
      ((push w >>= fun _ => pop).run b).2.cpu = b.cpu) ∧
    (∀ (a w : UInt16) (b : Board β), ((writeWord a w >>= fun _ => readWord a).run b).1 = w) ∧
    (∀ (d d' : UInt16) (b : Board β),
      ((perform .xthl d >>= fun _ => perform .xthl d').run b).2.cpu = b.cpu ∧
      memory ((perform .xthl d >>= fun _ => perform .xthl d').run b).2.bus = memory b.bus) := by
  refine ⟨?call, ?callIf, ?rst, ?interrupt, ?ret, fun w b => ⟨(pop_of_push w b).1, (pop_of_push w b).2.1⟩,
    readWord_of_writeWord, xthl_twice⟩
  case call =>
    intro b hop
    exact execute_entered (decode_call hop) fun c _ => call_entered _ c
  case callIf =>
    intro b cc hop hc
    exact execute_entered (hop ▸ decode_callIf cc) fun c hf => callIf_entered _ c (hf ▸ hc)
  case rst =>
    intro b n hop
    exact execute_entered (hop ▸ decode_rst n) fun c _ => rst_entered n _ c
  case interrupt =>
    intro b n ha hp
    rw [step_take b ha hp]
    exact ⟨rfl, interrupted_entered b n⟩
  case ret =>
    intro b s r hsp hlo hhi hop
    have hret : Returned b (execute.run b).2 := by
      rcases hop with hop | ⟨cc, hop, hc⟩
      · exact execute_returned (decode_ret hop) fun c _ => ret_returned _ c
      · exact execute_returned (hop ▸ decode_retIf cc) fun c hf => retIf_returned _ c (hf ▸ hc)
    exact ⟨(hret.to_return_address hsp hlo hhi).1, (hret.to_return_address hsp hlo hhi).2,
      hret.memory_eq⟩

end Board

end Sim8080
