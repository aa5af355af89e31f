import Mathlib
import Sim8080.Proofs.Subroutines

namespace Sim8080

theorem add_toUInt16_succ (a : UInt16) (i : Nat) : a + (i + 1).toUInt16 = a + 1 + i.toUInt16 := by
  simp [Nat.toUInt16, add_assoc, add_comm]

namespace Memory

theorem writeAll_cons (m : Memory) (a : UInt16) (v : UInt8) (vs : List UInt8) :
    m.writeAll a (v :: vs) = (m.write a v).writeAll (a + 1) vs := by
  simp only [writeAll, List.zipIdx_cons, List.foldl_cons, List.zipIdx_succ, List.foldl_map,
    add_toUInt16_succ]
  simp

theorem push_return (m : Memory) (sp w : UInt16) :
    Word.ofBytes ((m.push sp w).read (sp - 2 + 1)) ((m.push sp w).read (sp - 2)) = w := by
  have h : sp - 2 + 1 = sp - 1 := by grind
  rw [h, push_read_high, push_read_low, Word.ofBytes_hi_lo]

theorem sub_toNat_ne_zero {x a : UInt16} (h : x ≠ a) : (x - a).toNat ≠ 0 := fun h0 =>
  h (sub_eq_zero.mp (UInt16.toNat_inj.mp h0))

theorem sub_succ_toNat {x a : UInt16} (h : x ≠ a) : (x - (a + 1)).toNat = (x - a).toNat - 1 := by
  have hne := sub_toNat_ne_zero h
  have hx := x.toNat_lt
  have ha := a.toNat_lt
  simp only [UInt16.toNat_sub, UInt16.toNat_add, UInt16.reduceToNat, Nat.reducePow] at hne ⊢
  omega

theorem read_writeAll (m : Memory) (a x : UInt16) (vs : List UInt8) (hl : vs.length ≤ addressSpace) :
    (m.writeAll a vs).read x =
      if h : (x - a).toNat < vs.length then vs[(x - a).toNat] else m.read x := by
  induction vs generalizing a m with
  | nil => simp [writeAll]
  | cons v vs ih =>
    rw [writeAll_cons, ih _ _ (by simp at hl; omega)]
    simp only [List.length_cons] at hl ⊢
    by_cases hx : x = a
    · subst hx
      have h1 : (x - (x + 1)).toNat = 65535 := by
        rw [sub_add_eq_sub_sub, sub_self, zero_sub]
        rfl
      have h2 : ¬65535 < vs.length := by
        simp only [addressSpace] at hl
        omega
      simp [h2, read_write_self]
    · have hne : (x - a).toNat ≠ 0 := sub_toNat_ne_zero hx
      rw [sub_succ_toNat hx, read_write_of_ne _ (Ne.symm hx)]
      by_cases hlt : (x - a).toNat - 1 < vs.length
      · have hlt' : (x - a).toNat < vs.length + 1 := by omega
        simp only [hlt, hlt', dite_true]
        rw [List.getElem_cons (by omega)]
        simp [hne]
      · have hlt' : ¬(x - a).toNat < vs.length + 1 := by omega
        simp only [hlt, hlt', dite_false]

end Memory

namespace TraceBus

def outputs (t : TraceBus) : List (UInt16 × UInt8) :=
  t.log.toList.filterMap fun c => if c.access = .output then some (c.addr, c.data) else none

@[simp] theorem outputs_read (t : TraceBus) (a : UInt16) : (Bus.read t a).2.outputs = t.outputs := by
  simp [Bus.read, outputs]

@[simp] theorem outputs_write (t : TraceBus) (a : UInt16) (v : UInt8) :
    (Bus.write t a v).outputs = t.outputs := by
  simp [Bus.write, outputs]

@[simp] theorem outputs_output (t : TraceBus) (p v : UInt8) :
    (Bus.output t p v).outputs = t.outputs ++ [(p.toUInt16, v)] := by
  simp [Bus.output, outputs]

@[simp] theorem memoryBus_memory (t : TraceBus) : MemoryBus.memory t = t.memory := rfl

@[simp] theorem memory_read (t : TraceBus) (a : UInt16) : (Bus.read t a).2.memory = t.memory := rfl

@[simp] theorem memory_write (t : TraceBus) (a : UInt16) (v : UInt8) :
    (Bus.write t a v).memory = t.memory.write a v := rfl

@[simp] theorem memory_output (t : TraceBus) (p v : UInt8) : (Bus.output t p v).memory = t.memory := rfl

@[simp] theorem read_value (t : TraceBus) (a : UInt16) : (Bus.read t a).1 = t.memory.read a := rfl

def view (t : TraceBus) : Memory × List (UInt16 × UInt8) := (t.memory, t.outputs)

theorem view_read (t : TraceBus) (a : UInt16) : (Bus.read t a).2.view = t.view := by
  simp [view]

end TraceBus

namespace Console

def Installed (m : Memory) : Prop :=
  ∀ p ∈ stubs, ∀ i (h : i < p.2.length), m.read (p.1 + i.toUInt16) = p.2[i]

theorem install_eq (m : Memory) :
    install m = ((m.writeAll 0 warmBoot).writeAll 5 systemEntry).writeAll routineStart routine := by
  simp only [install, stubs, List.foldl_cons, List.foldl_nil]

theorem install_installed (m : Memory) : Installed (install m) := by
  intro p hp i hi
  simp only [stubs, List.mem_cons, List.not_mem_nil, or_false] at hp
  rw [install_eq, Memory.read_writeAll _ _ _ _ (by decide), Memory.read_writeAll _ _ _ _ (by decide),
    Memory.read_writeAll _ _ _ _ (by decide)]
  -- Each piece reads back where it was written; the later pieces lie elsewhere.
  rcases hp with rfl | rfl | rfl
  all_goals
    simp only [warmBoot, systemEntry, routine, List.length_cons, List.length_nil] at hi
    interval_cases i <;> simp [warmBoot, systemEntry, routine, routineStart, UInt16.size]

def Reserved (a : UInt16) : Prop := ∃ p ∈ stubs, (a - p.1).toNat < p.2.length

instance : DecidablePred Reserved := fun a =>
  inferInstanceAs (Decidable (∃ p ∈ stubs, (a - p.1).toNat < p.2.length))

theorem read_install (m : Memory) {a : UInt16} (ha : ¬Reserved a) : (install m).read a = m.read a := by
  simp only [Reserved, stubs, List.mem_cons, List.not_mem_nil, or_false, exists_eq_or_imp,
    exists_eq_left, not_or] at ha
  obtain ⟨h0, h5, hr⟩ := ha
  rw [install_eq, Memory.read_writeAll _ _ _ _ (by decide), dif_neg hr,
    Memory.read_writeAll _ _ _ _ (by decide), dif_neg h5, Memory.read_writeAll _ _ _ _ (by decide),
    dif_neg h0]

theorem Installed.write {m : Memory} (h : Installed m) {a : UInt16} (ha : ¬Reserved a) (v : UInt8) :
    Installed (m.write a v) := by
  intro p hp i hi
  have hne : a ≠ p.1 + i.toUInt16 := by
    rintro rfl
    refine ha ⟨p, hp, ?_⟩
    have hlen : p.2.length ≤ 26 := by
      simp only [stubs, List.mem_cons, List.not_mem_nil, or_false] at hp
      rcases hp with rfl | rfl | rfl <;> decide
    simp only [add_sub_cancel_left, Nat.toUInt16, UInt16.toNat_ofNat']
    omega
  rw [Memory.read_write_of_ne _ hne]
  exact h p hp i hi

theorem Installed.push {m : Memory} (h : Installed m) {sp : UInt16} (h1 : ¬Reserved (sp - 1))
    (h2 : ¬Reserved (sp - 2)) (w : UInt16) : Installed (m.push sp w) :=
  (h.write h1 _).write h2 _

theorem Installed.entry_bytes {m : Memory} (h : Installed m) :
    m.read 5 = 0xC3 ∧ m.read 6 = 0x00 ∧ m.read 7 = 0xFF := by
  have e := h (5, systemEntry) (by simp [stubs])
  exact ⟨e 0 (by decide), e 1 (by decide), e 2 (by decide)⟩

theorem Installed.dispatch_bytes {m : Memory} (h : Installed m) :
    m.read 0xFF00 = 0x79 ∧ m.read 0xFF01 = 0xFE ∧ m.read 0xFF02 = 0x02 ∧ m.read 0xFF03 = 0xCA ∧
    m.read 0xFF04 = 0x0C ∧ m.read 0xFF05 = 0xFF ∧ m.read 0xFF06 = 0xFE ∧ m.read 0xFF07 = 0x09 ∧
    m.read 0xFF08 = 0xCA ∧ m.read 0xFF09 = 0x10 ∧ m.read 0xFF0A = 0xFF ∧ m.read 0xFF0B = 0xC9 ∧
    m.read 0xFF0C = 0x7B ∧ m.read 0xFF0D = 0xD3 ∧ m.read 0xFF0E = 0x01 ∧ m.read 0xFF0F = 0xC9 := by
  have r := h (routineStart, routine) (by simp [stubs])
  exact ⟨r 0 (by decide), r 1 (by decide), r 2 (by decide), r 3 (by decide), r 4 (by decide),
    r 5 (by decide), r 6 (by decide), r 7 (by decide), r 8 (by decide), r 9 (by decide),
    r 10 (by decide), r 11 (by decide), r 12 (by decide), r 13 (by decide), r 14 (by decide),
    r 15 (by decide)⟩

theorem Installed.loop_bytes {m : Memory} (h : Installed m) :
    m.read 0xFF10 = 0x1A ∧ m.read 0xFF11 = 0xFE ∧ m.read 0xFF12 = 0x24 ∧ m.read 0xFF13 = 0xC8 ∧
    m.read 0xFF14 = 0xD3 ∧ m.read 0xFF15 = 0x01 ∧ m.read 0xFF16 = 0x13 ∧ m.read 0xFF17 = 0xC3 ∧
    m.read 0xFF18 = 0x10 ∧ m.read 0xFF19 = 0xFF := by
  have r := h (routineStart, routine) (by simp [stubs])
  exact ⟨r 16 (by decide), r 17 (by decide), r 18 (by decide), r 19 (by decide), r 20 (by decide),
    r 21 (by decide), r 22 (by decide), r 23 (by decide), r 24 (by decide), r 25 (by decide)⟩

def Terminated (m : Memory) (d : UInt16) (k : Nat) : Prop :=
  m.read (d + k.toUInt16) = 0x24 ∧ ∀ i < k, m.read (d + i.toUInt16) ≠ 0x24

def printed (m : Memory) (d : UInt16) (k : Nat) : List (UInt16 × UInt8) :=
  (List.range k).map fun i => (1, m.read (d + i.toUInt16))

theorem Terminated.succ {m : Memory} {d : UInt16} {k : Nat} (h : Terminated m d (k + 1)) :
    Terminated m (d + 1) k := by
  refine ⟨by rw [← add_toUInt16_succ]; exact h.1, fun i hi => ?_⟩
  rw [← add_toUInt16_succ]
  exact h.2 (i + 1) (by omega)

theorem Terminated.unique {m : Memory} {d : UInt16} {k k' : Nat} (h : Terminated m d k)
    (h' : Terminated m d k') : k = k' := by
  rcases lt_trichotomy k k' with hlt | heq | hgt
  · exact absurd h.1 (h'.2 k hlt)
  · exact heq
  · exact absurd h'.1 (h.2 k' hgt)

theorem Terminated.push {m : Memory} {d : UInt16} {k : Nat} (h : Terminated m d k) {sp : UInt16}
    (hs : ∀ i ≤ k, d + i.toUInt16 ≠ sp - 1 ∧ d + i.toUInt16 ≠ sp - 2) (w : UInt16) :
    Terminated (m.push sp w) d k := by
  refine ⟨?_, fun i hi => ?_⟩
  · rw [Memory.push_read_of_ne _ _ _ (hs k le_rfl).1 (hs k le_rfl).2]
    exact h.1
  · rw [Memory.push_read_of_ne _ _ _ (hs i hi.le).1 (hs i hi.le).2]
    exact h.2 i hi

theorem printed_push {m : Memory} {d : UInt16} {k : Nat} {sp : UInt16}
    (hs : ∀ i ≤ k, d + i.toUInt16 ≠ sp - 1 ∧ d + i.toUInt16 ≠ sp - 2) (w : UInt16) :
    printed (m.push sp w) d k = printed m d k := by
  refine List.map_congr_left fun i hi => ?_
  have hi : i ≤ k := (List.mem_range.mp hi).le
  rw [Memory.push_read_of_ne _ _ _ (hs i hi).1 (hs i hi).2]

theorem Installed.terminated {m : Memory} (h : Installed m) (d : UInt16) : ∃ k, Terminated m d k := by
  classical
  have hex : ∃ k : Nat, m.read (d + k.toUInt16) = 0x24 :=
    ⟨(0xFF12 - d).toNat, by simp [h.loop_bytes.2.2.1]⟩
  exact ⟨Nat.find hex, Nat.find_spec hex, fun i hi => Nat.find_min hex hi⟩

end Console

namespace Alu

theorem compare_zero (a v : UInt8) :
    Cond.z.holds (Flags.normalize (sub a v false).flags) = decide (a = v) := by
  have key : ∀ (r : UInt8) (ac cy : Bool),
      Cond.z.holds (Flags.normalize (Flags.ofResult r ||| Flag.auxCarry.bitIf ac ||| Flag.carry.bitIf cy))
        = (r == 0) := by
    intro r ac cy
    simp only [Flags.ofResult]
    generalize (r == 0) = z
    generalize (r &&& 0x80 != 0) = sg
    generalize Flags.evenParity r = p
    cases z <;> cases sg <;> cases p <;> cases ac <;> cases cy <;> decide
  simp only [sub, key, Bool.false_eq_true, ↓reduceIte, sub_zero]
  rw [Bool.eq_iff_iff, beq_iff_eq, decide_eq_true_iff, sub_eq_zero]

set_option maxRecDepth 100000 in
theorem compare_self (v : UInt8) : Flags.normalize (sub v v false).flags = 0x56 := by
  revert v
  apply forall_byte
  decide

end Alu

namespace Board

open MemoryBus

theorem not_taking {c : Cpu} (hq : c.iff = false ∨ c.pending = none) : ¬c.Taking := by
  rintro ⟨⟨hi, -⟩, hp⟩
  rcases hq with h | h <;> simp_all

def after {β : Type} [Bus β] (n : Nat) (b : Board β) : Board β :=
  Nat.iterate (fun b => (step.run b).2) n b

theorem after_add {β : Type} [Bus β] (k k' : Nat) (b : Board β) :
    after (k + k') b = after k' (after k b) := by
  rw [after, after, after, Nat.add_comm, Function.iterate_add_apply]

theorem after_halted {β : Type} [Bus β] (b : Board β) (hq : b.cpu.iff = false ∨ b.cpu.pending = none)
    (hh : b.cpu.halted = true) (n : Nat) : after (n + 1) b = b.passed := by
  induction n with
  | zero => rw [after, Function.iterate_one, step_idle b (not_taking hq) hh]
  | succ n ih =>
    have hq' : b.passed.cpu.iff = false ∨ b.passed.cpu.pending = none := hq
    rw [after_add n.succ 1, ih, after, Function.iterate_one, step_idle _ (not_taking hq') hh]
    rfl

def elapsed {β : Type} [Bus β] : Nat → Board β → Nat
  | 0, _ => 0
  | k + 1, b => (step.run b).1.cycles + elapsed k (step.run b).2

theorem after_succ {β : Type} [Bus β] (k : Nat) (b : Board β) : after (k + 1) b = after k (step.run b).2 := by
  rw [after, Function.iterate_succ_apply]
  rfl

theorem elapsed_add {β : Type} [Bus β] (k k' : Nat) (b : Board β) :
    elapsed (k + k') b = elapsed k b + elapsed k' (after k b) := by
  induction k generalizing b with
  | zero => simp [elapsed, after]
  | succ k ih =>
    rw [Nat.add_right_comm, elapsed, ih, after_succ, elapsed, Nat.add_assoc]

section Stretches

variable {β : Type} [Bus β] {V : Type}

variable (β) in
-- `k` steps from every board with processor `c` whose bus shows `v` through `view`: they take `t`
-- cycles, start at no address that `avoid` holds of, and end with processor `c'` and the bus
-- showing `v'`.
def Stretch (view : β → V) (avoid : UInt16 → Prop) (c : Cpu) (v : V) (k t : Nat) (c' : Cpu) (v' : V) :
    Prop :=
  ∀ b : Board β, b.cpu = c → view b.bus = v →
    (after k b).cpu = c' ∧ view (after k b).bus = v' ∧ elapsed k b = t ∧
      ∀ j < k, ¬avoid (after j b).cpu.pc

variable {view : β → V} {avoid : UInt16 → Prop} {c c' c'' : Cpu} {v v' v'' : V} {k k' t t' : Nat}

theorem Stretch.trans (h : Stretch β view avoid c v k t c' v') (h' : Stretch β view avoid c' v' k' t' c'' v'') :
    Stretch β view avoid c v (k + k') (t + t') c'' v'' := by
  intro b hc hv
  obtain ⟨hc1, hv1, ht1, hp1⟩ := h b hc hv
  obtain ⟨hc2, hv2, ht2, hp2⟩ := h' (after k b) hc1 hv1
  refine ⟨by rw [after_add]; exact hc2, by rw [after_add]; exact hv2,
    by rw [elapsed_add, ht1, ht2], fun j hj => ?_⟩
  by_cases hjk : j < k
  · exact hp1 j hjk
  · -- Past the first stretch, the step count is `k` and some of the second.
    obtain ⟨j', rfl⟩ : ∃ j', j = k + j' := ⟨j - k, by omega⟩
    rw [after_add]
    exact hp2 j' (by omega)

theorem Stretch.congr (h : Stretch β view avoid c v k t c' v') (hc : c' = c'') (hv : v' = v'') :
    Stretch β view avoid c v k t c'' v'' := hc ▸ hv ▸ h

variable [MemoryBus β] in
-- One instruction, seen through a view that reads leave as it is and that tells the memory.
theorem stretch_step {m : Memory} (hread : ∀ bus a, view (Bus.read bus a).2 = view bus)
    (hmem : ∀ bus, view bus = v → memory bus = m)
    (hq : c.iff = false ∨ c.pending = none) (hh : c.halted = false) (hstop : ¬avoid c.pc)
    (h : ∀ bus : β, view bus = v →
      ((perform (Instr.decode (m.read c.pc)) (operandWord m c.pc (Instr.decode (m.read c.pc)).size)).run
          ⟨{ c with pc := c.pc + (Instr.decode (m.read c.pc)).size.toUInt16, eiDelay := false }, bus⟩).2.cpu = c' ∧
        view ((perform (Instr.decode (m.read c.pc)) (operandWord m c.pc (Instr.decode (m.read c.pc)).size)).run
          ⟨{ c with pc := c.pc + (Instr.decode (m.read c.pc)).size.toUInt16, eiDelay := false }, bus⟩).2.bus = v' ∧
        (if ((perform (Instr.decode (m.read c.pc)) (operandWord m c.pc (Instr.decode (m.read c.pc)).size)).run
            ⟨{ c with pc := c.pc + (Instr.decode (m.read c.pc)).size.toUInt16, eiDelay := false }, bus⟩).1
          then (Instr.decode (m.read c.pc)).cycles else (Instr.decode (m.read c.pc)).cyclesNotTaken) = t) :
    Stretch β view avoid c v 1 t c' v' := by
  intro b hc hv
  subst hc
  obtain ⟨bus, hbus, hrun⟩ := execute_fetch b.passed (view · = v) (fun t a h => by rw [hread, h]) hv
  obtain ⟨h1, h2, h3⟩ := h bus hbus
  have hmp : memory b.passed.bus = m := hmem _ hv
  rw [hmp] at hrun
  -- The step executes the instruction at `PC` of the board with the `EI` delay over.
  have hstep := step_execute b (not_taking hq) hh
  rw [hrun, run_bind, run_pure] at hstep
  refine ⟨?_, ?_, ?_, fun j hj => ?_⟩
  · rw [after, Function.iterate_one, hstep]
    exact h1
  · rw [after, Function.iterate_one, hstep]
    exact h2
  · rw [elapsed, elapsed, hstep]
    exact h3
  · obtain rfl : j = 0 := by omega
    exact hstop

end Stretches

structure Shows (b : Board TraceBus) (c : Cpu) (m : Memory) (o : List (UInt16 × UInt8)) : Prop where
  cpu_eq : b.cpu = c
  memory_eq : b.bus.memory = m
  outputs_eq : b.bus.outputs = o

-- Stretches of a run over a trace bus, seen through its memory and its port writes, that may pass
-- any address.
def Block (c : Cpu) (m : Memory) (o : List (UInt16 × UInt8)) (k t : Nat) (c' : Cpu) (m' : Memory)
    (o' : List (UInt16 × UInt8)) : Prop :=
  Stretch TraceBus TraceBus.view (fun _ => False) c (m, o) k t c' (m', o')

section Blocks

variable {c c' c'' : Cpu} {m m' m'' : Memory} {o o' o'' : List (UInt16 × UInt8)} {k k' t t' : Nat}

theorem Block.trans (h : Block c m o k t c' m' o') (h' : Block c' m' o' k' t' c'' m'' o'') :
    Block c m o (k + k') (t + t') c'' m'' o'' :=
  Stretch.trans h h'

theorem Block.congr (h : Block c m o k t c' m' o') (hc : c' = c'') (hm : m' = m'') (ho : o' = o'') :
    Block c m o k t c'' m'' o'' := hc ▸ hm ▸ ho ▸ h

theorem Block.shows (h : Block c m o k t c' m' o') {b : Board TraceBus} (hb : Shows b c m o) :
    Shows (after k b) c' m' o' := by
  obtain ⟨hc, hv, -, -⟩ := h b hb.cpu_eq (by rw [TraceBus.view, hb.memory_eq, hb.outputs_eq])
  exact ⟨hc, congrArg Prod.fst hv, congrArg Prod.snd hv⟩

theorem block_step (hq : c.iff = false ∨ c.pending = none) (hh : c.halted = false)
    (h : ∀ bus : TraceBus, bus.memory = m → bus.outputs = o →
      Shows ((perform (Instr.decode (m.read c.pc)) (operandWord m c.pc (Instr.decode (m.read c.pc)).size)).run
        ⟨{ c with pc := c.pc + (Instr.decode (m.read c.pc)).size.toUInt16, eiDelay := false }, bus⟩).2
        c' m' o' ∧
      (if ((perform (Instr.decode (m.read c.pc)) (operandWord m c.pc (Instr.decode (m.read c.pc)).size)).run
          ⟨{ c with pc := c.pc + (Instr.decode (m.read c.pc)).size.toUInt16, eiDelay := false }, bus⟩).1
        then (Instr.decode (m.read c.pc)).cycles else (Instr.decode (m.read c.pc)).cyclesNotTaken) = t) :
    Block c m o 1 t c' m' o' :=
  stretch_step TraceBus.view_read (fun _ hv => congrArg Prod.fst hv) hq hh not_false fun bus hv => by
    obtain ⟨hs, ht⟩ := h bus (congrArg Prod.fst hv) (congrArg Prod.snd hv)
    exact ⟨hs.cpu_eq, by rw [TraceBus.view, hs.memory_eq, hs.outputs_eq], ht⟩

variable (hq : c.iff = false ∨ c.pending = none) (hh : c.halted = false)
include hq hh

theorem block_call (hop : Instr.decode (m.read c.pc) = .call) :
    Block c m o 1 17
      { c with sp := c.sp - 2, pc := Word.ofBytes (m.read (c.pc + 2)) (m.read (c.pc + 1)), eiDelay := false }
      (m.push c.sp (c.pc + 3)) o := by
  refine block_step hq hh fun bus hm ho => ?_
  rw [hop]
  simp only [perform, run_bind, run_cpuState, run_push, run_modifyCpu, run_pure, snd_pair]
  exact ⟨⟨rfl, by simp [hm, Memory.push, Instr.size], by simp [ho]⟩, rfl⟩

theorem block_jmp (hop : Instr.decode (m.read c.pc) = .jmp) :
    Block c m o 1 10 { c with pc := Word.ofBytes (m.read (c.pc + 2)) (m.read (c.pc + 1)), eiDelay := false }
      m o := by
  refine block_step hq hh fun bus hm ho => ?_
  rw [hop]
  simp only [perform, run_bind, run_cpuState, run_modifyCpu, run_pure, snd_pair]
  exact ⟨⟨rfl, hm, ho⟩, rfl⟩

theorem block_jmpIf (cc : Cond) (hop : Instr.decode (m.read c.pc) = .jmpIf cc) :
    Block c m o 1 10
      { c with
        pc := if cc.holds c.f then Word.ofBytes (m.read (c.pc + 2)) (m.read (c.pc + 1)) else c.pc + 3
        eiDelay := false } m o := by
  refine block_step hq hh fun bus hm ho => ?_
  rw [hop]
  by_cases hc : cc.holds c.f
  all_goals
    simp only [perform, hc, run_bind, run_cpuState, run_modifyCpu, run_pure, snd_pair, ↓reduceIte,
      Bool.false_eq_true]
    exact ⟨⟨by simp [Instr.size, operandWord], hm, ho⟩, rfl⟩

theorem block_movA {r : Reg} (hop : Instr.decode (m.read c.pc) = .mov (.reg .a) (.reg r)) :
    Block c m o 1 5 { c with a := c.reg r, pc := c.pc + 1, eiDelay := false } m o := by
  refine block_step hq hh fun bus hm ho => ?_
  rw [hop]
  simp only [perform, run_bind, run_cpuState, run_readOperand_reg, run_writeOperand_reg, run_pure,
    snd_pair]
  exact ⟨⟨by cases r <;> simp [Cpu.reg, Cpu.setReg, Instr.size], hm, ho⟩, by cases r <;> rfl⟩

theorem block_compare (hop : Instr.decode (m.read c.pc) = .aluImm .cmp) :
    Block c m o 1 7
      { c with f := Flags.normalize (Alu.sub c.a (m.read (c.pc + 1)) false).flags, pc := c.pc + 2,
               eiDelay := false } m o := by
  refine block_step hq hh fun bus hm ho => ?_
  rw [hop]
  simp only [perform, accumulate, run_bind, run_cpuState, run_modifyCpu, run_pure, snd_pair]
  exact ⟨⟨by simp [Cpu.setFlags, Alu.apply, Instr.size, operandWord, Word.lo], hm, ho⟩, rfl⟩

theorem block_out (hop : Instr.decode (m.read c.pc) = .out) :
    Block c m o 1 10 { c with pc := c.pc + 2, eiDelay := false } m (o ++ [((m.read (c.pc + 1)).toUInt16, c.a)]) := by
  refine block_step hq hh fun bus hm ho => ?_
  rw [hop]
  simp only [perform, run_bind, run_cpuState, run_output, run_pure, snd_pair]
  exact ⟨⟨by simp [Instr.size], by simp [hm], by simp [ho, operandWord, Word.lo, Instr.size]⟩, rfl⟩

theorem block_ret (hop : Instr.decode (m.read c.pc) = .ret) :
    Block c m o 1 10
      { c with pc := Word.ofBytes (m.read (c.sp + 1)) (m.read c.sp), sp := c.sp + 2, eiDelay := false }
      m o := by
  refine block_step hq hh fun bus hm ho => ?_
  rw [hop]
  simp only [perform, run_bind, run_pop, run_modifyCpu, run_pure, snd_pair]
  exact ⟨⟨by simp [hm], by simp [hm], by simp [ho]⟩, rfl⟩

theorem block_retIf_taken (cc : Cond) (hop : Instr.decode (m.read c.pc) = .retIf cc)
    (hc : cc.holds c.f) :
    Block c m o 1 11
      { c with pc := Word.ofBytes (m.read (c.sp + 1)) (m.read c.sp), sp := c.sp + 2, eiDelay := false }
      m o := by
  refine block_step hq hh fun bus hm ho => ?_
  rw [hop]
  simp only [perform, hc, run_bind, run_cpuState, run_pop, run_modifyCpu, run_pure, snd_pair,
    ↓reduceIte]
  exact ⟨⟨by simp [hm], by simp [hm], by simp [ho]⟩, rfl⟩

theorem block_retIf_skipped (cc : Cond) (hop : Instr.decode (m.read c.pc) = .retIf cc)
    (hc : cc.holds c.f = false) :
    Block c m o 1 5 { c with pc := c.pc + 1, eiDelay := false } m o := by
  refine block_step hq hh fun bus hm ho => ?_
  rw [hop]
  simp only [perform, hc, run_bind, run_cpuState, run_pure, snd_pair, ↓reduceIte,
    Bool.false_eq_true]
  exact ⟨⟨by simp [Instr.size], hm, ho⟩, rfl⟩

theorem block_ldax (hop : Instr.decode (m.read c.pc) = .ldax .de) :
    Block c m o 1 7 { c with a := m.read c.de, pc := c.pc + 1, eiDelay := false } m o := by
  refine block_step hq hh fun bus hm ho => ?_
  rw [hop]
  simp only [perform, run_bind, run_cpuState, run_read, run_modifyCpu, run_pure, snd_pair, fst_pair]
  exact ⟨⟨by simp [hm, Cpu.pair, Cpu.de, Instr.size], by simp [hm], by simp [ho]⟩, rfl⟩

theorem block_inx (hop : Instr.decode (m.read c.pc) = .inx .de) :
    Block c m o 1 5 { c.setDE (c.de + 1) with pc := c.pc + 1, eiDelay := false } m o := by
  refine block_step hq hh fun bus hm ho => ?_
  rw [hop]
  simp only [perform, run_bind, run_cpuState, run_modifyCpu, run_pure, snd_pair]
  exact ⟨⟨by simp [Cpu.setPair, Cpu.setDE, Cpu.pair, Cpu.de, Instr.size], hm, ho⟩, rfl⟩

theorem enter_system (hI : Console.Installed (m.push c.sp (c.pc + 3))) (hcall : m.read c.pc = 0xCD)
    (hlo : m.read (c.pc + 1) = 0x05) (hhi : m.read (c.pc + 2) = 0x00) :
    Block c m o 2 27 { c with sp := c.sp - 2, pc := 0xFF00, eiDelay := false } (m.push c.sp (c.pc + 3)) o := by
  obtain ⟨e0, e1, e2⟩ := hI.entry_bytes
  refine ((block_call hq hh ?_).trans (block_jmp (by exact hq) (by exact hh) ?_)).congr ?_ rfl rfl
  · rw [hcall]; rfl
  · simp [hlo, hhi, Word.ofBytes, e0]; rfl
  · simp [hlo, hhi, Word.ofBytes, e1, e2]

variable (hI : Console.Installed m)
include hI

theorem dispatch (hpc : c.pc = 0xFF00) :
    Block c m o 3 22
      { c with a := c.c, f := Flags.normalize (Alu.sub c.c 2 false).flags,
               pc := if c.c = 2 then 0xFF0C else 0xFF06, eiDelay := false } m o := by
  obtain ⟨r0, r1, r2, r3, r4, r5, -⟩ := hI.dispatch_bytes
  refine (((block_movA (r := .c) hq hh ?_).trans (block_compare (by exact hq) (by exact hh) ?_)).trans
    (block_jmpIf (by exact hq) (by exact hh) .z ?_)).congr ?_ rfl rfl
  · rw [hpc, r0]; rfl
  · simp [hpc, r1]; rfl
  · simp [hpc, r3]; rfl
  · simp [hpc, r2, r4, r5, Alu.compare_zero, Cpu.reg, Word.ofBytes]

theorem print_char (hpc : c.pc = 0xFF0C) :
    Block c m o 3 25
      { c with a := c.e, pc := Word.ofBytes (m.read (c.sp + 1)) (m.read c.sp), sp := c.sp + 2,
               eiDelay := false } m (o ++ [(1, c.e)]) := by
  obtain ⟨-, -, -, -, -, -, -, -, -, -, -, -, r12, r13, r14, r15⟩ := hI.dispatch_bytes
  refine (((block_movA (r := .e) hq hh ?_).trans (block_out (by exact hq) (by exact hh) ?_)).trans
    (block_ret (by exact hq) (by exact hh) ?_)).congr ?_ rfl ?_
  · rw [hpc, r12]; rfl
  · simp [hpc, r13]; rfl
  · simp [hpc, r15]; rfl
  · simp [Cpu.reg]
  · simp [hpc, r14, Cpu.reg]

theorem dispatch_nine (hpc : c.pc = 0xFF06) :
    Block c m o 2 17
      { c with f := Flags.normalize (Alu.sub c.a 9 false).flags,
               pc := if c.a = 9 then 0xFF10 else 0xFF0B, eiDelay := false } m o := by
  obtain ⟨-, -, -, -, -, -, r6, r7, r8, r9, r10, -⟩ := hI.dispatch_bytes
  refine ((block_compare hq hh ?_).trans (block_jmpIf (by exact hq) (by exact hh) .z ?_)).congr ?_ rfl rfl
  · rw [hpc, r6]; rfl
  · simp [hpc, r8]; rfl
  · simp [hpc, r7, r9, r10, Alu.compare_zero, Word.ofBytes]

theorem loop_exit (hpc : c.pc = 0xFF10) (hd : m.read c.de = 0x24) :
    Block c m o 3 25
      { c with a := 0x24, f := 0x56, pc := Word.ofBytes (m.read (c.sp + 1)) (m.read c.sp),
               sp := c.sp + 2, eiDelay := false } m o := by
  obtain ⟨r0, r1, r2, r3, -⟩ := hI.loop_bytes
  have hz : Cond.z.holds (Flags.normalize (Alu.sub (m.read c.de) (m.read (c.pc + 1 + 1)) false).flags) := by
    simp [hpc, hd, r2, Alu.compare_zero]
  refine (((block_ldax hq hh ?_).trans (block_compare (by exact hq) (by exact hh) ?_)).trans
    (block_retIf_taken (by exact hq) (by exact hh) .z ?_ hz)).congr ?_ rfl rfl
  · rw [hpc, r0]; rfl
  · simp [hpc, r1]; rfl
  · simp [hpc, r3]; rfl
  · simp [hpc, hd, r2, Alu.compare_self]

theorem loop_pass (hpc : c.pc = 0xFF10) (hd : m.read c.de ≠ 0x24) :
    Block c m o 6 44
      { c.setDE (c.de + 1) with
        a := m.read c.de, f := Flags.normalize (Alu.sub (m.read c.de) 0x24 false).flags,
        pc := 0xFF10, eiDelay := false } m (o ++ [(1, m.read c.de)]) := by
  obtain ⟨r0, r1, r2, r3, r4, r5, r6, r7, r8, r9⟩ := hI.loop_bytes
  have hz : Cond.z.holds (Flags.normalize (Alu.sub (m.read c.de) (m.read (c.pc + 1 + 1)) false).flags)
      = false := by
    simp [hpc, hd, r2, Alu.compare_zero]
  refine ((((((block_ldax hq hh ?_).trans (block_compare (by exact hq) (by exact hh) ?_)).trans
    (block_retIf_skipped (by exact hq) (by exact hh) .z ?_ hz)).trans
    (block_out (by exact hq) (by exact hh) ?_)).trans (block_inx (by exact hq) (by exact hh) ?_)).trans
    (block_jmp (by exact hq) (by exact hh) ?_)).congr ?_ rfl ?_
  · rw [hpc, r0]; rfl
  · simp [hpc, r1]; rfl
  · simp [hpc, r3]; rfl
  · simp [hpc, r4]; rfl
  · simp [hpc, r6]; rfl
  · simp [hpc, r7]; rfl
  · simp [hpc, r2, r8, r9, Cpu.setDE, Cpu.de, Word.ofBytes]
  · simp [hpc, r5]

end Blocks

theorem print_loop {m : Memory} (hI : Console.Installed m) (k : Nat) :
    ∀ (c : Cpu) (o : List (UInt16 × UInt8)), (c.iff = false ∨ c.pending = none) → c.halted = false →
      c.pc = 0xFF10 → Console.Terminated m c.de k →
      Block c m o (6 * k + 3) (44 * k + 25)
        { c.setDE (c.de + k.toUInt16) with
          a := 0x24, f := 0x56, pc := Word.ofBytes (m.read (c.sp + 1)) (m.read c.sp), sp := c.sp + 2,
          eiDelay := false }
        m (o ++ Console.printed m c.de k) := by
  -- Each pass moves `DE` on by one, and the text from there has one byte less before its `$`.
  induction k with
  | zero =>
    intro c o hq hh hpc ht
    refine (loop_exit hq hh hI hpc (by simpa using ht.1)).congr ?_ rfl (by simp [Console.printed])
    simp [Cpu.setDE, Cpu.de]
  | succ k ih =>
    intro c o hq hh hpc ht
    have hd : m.read c.de ≠ 0x24 := by simpa using ht.2 0 (Nat.succ_pos k)
    rw [show 6 * (k + 1) + 3 = 6 + (6 * k + 3) by ring, show 44 * (k + 1) + 25 = 44 + (44 * k + 25) by ring]
    refine ((loop_pass hq hh hI hpc hd).trans
      (ih _ _ (by exact hq) (by exact hh) (by rfl) ?_)).congr ?_ rfl ?_
    · simpa [Cpu.setDE, Cpu.de, Word.ofBytes_hi_lo] using ht.succ
    · simp [Cpu.setDE, Cpu.de, Word.ofBytes_hi_lo, add_assoc, add_comm, add_left_comm]
    · simp [Console.printed, List.range_succ_eq_map, Cpu.setDE, Cpu.de, Word.ofBytes_hi_lo, add_assoc, add_left_comm,
        add_comm]

structure AtSystemCall (b : Board TraceBus) : Prop where
  installed : Console.Installed b.bus.memory
  opcode : b.bus.memory.read b.cpu.pc = 0xCD
  target_low : b.bus.memory.read (b.cpu.pc + 1) = 0x05
  target_high : b.bus.memory.read (b.cpu.pc + 2) = 0x00
  slot_high : ¬Console.Reserved (b.cpu.sp - 1)
  slot_low : ¬Console.Reserved (b.cpu.sp - 2)

structure BackFromCall (b b' : Board TraceBus) : Prop where
  pc_eq : b'.cpu.pc = b.cpu.pc + 3
  sp_eq : b'.cpu.sp = b.cpu.sp
  b_eq : b'.cpu.b = b.cpu.b
  c_eq : b'.cpu.c = b.cpu.c
  h_eq : b'.cpu.h = b.cpu.h
  l_eq : b'.cpu.l = b.cpu.l
  memory_eq : b'.bus.memory = b.bus.memory.push b.cpu.sp (b.cpu.pc + 3)

theorem BackFromCall.of_shows {b b' : Board TraceBus} {c' : Cpu} {o' : List (UInt16 × UInt8)}
    (h : Shows b' c' (b.bus.memory.push b.cpu.sp (b.cpu.pc + 3)) o')
    (hpc : c'.pc = Word.ofBytes ((b.bus.memory.push b.cpu.sp (b.cpu.pc + 3)).read (b.cpu.sp - 2 + 1))
      ((b.bus.memory.push b.cpu.sp (b.cpu.pc + 3)).read (b.cpu.sp - 2)))
    (hsp : c'.sp = b.cpu.sp - 2 + 2)
    (hregs : c'.b = b.cpu.b ∧ c'.c = b.cpu.c ∧ c'.h = b.cpu.h ∧ c'.l = b.cpu.l) :
    BackFromCall b b' := by
  obtain ⟨hc, hm, -⟩ := h
  obtain ⟨hb, hc', hh, hl⟩ := hregs
  subst hc
  exact ⟨by rw [hpc, Memory.push_return], by rw [hsp, sub_add_cancel], hb, hc', hh, hl, hm⟩

-- A `CALL 0005h` from a processor that takes no interrupt and is not halted comes back to the
-- instruction after the call with the stack pointer where it was. Function 2 prints `E` on port 1;
-- function 9 prints the bytes from `DE` up to the first `$` and leaves `DE` on it, when no byte of
-- that text is one of the two that hold the return address; any other function prints nothing.
theorem system_call_returns (b : Board TraceBus) (h : AtSystemCall b)
    (hq : b.cpu.iff = false ∨ b.cpu.pending = none) (hh : b.cpu.halted = false) :
    ∃ n, BackFromCall b (after n b) ∧
      (b.cpu.c = 2 → (after n b).bus.outputs = b.bus.outputs ++ [(1, b.cpu.e)]) ∧
      (b.cpu.c = 9 → ∀ k, Console.Terminated b.bus.memory b.cpu.de k →
        (∀ i ≤ k, b.cpu.de + i.toUInt16 ≠ b.cpu.sp - 1 ∧ b.cpu.de + i.toUInt16 ≠ b.cpu.sp - 2) →
        (after n b).bus.outputs = b.bus.outputs ++ Console.printed b.bus.memory b.cpu.de k ∧
          (after n b).cpu.de = b.cpu.de + k.toUInt16 ∧ (after n b).cpu.a = 0x24) ∧
      (b.cpu.c ≠ 2 → b.cpu.c ≠ 9 → (after n b).bus.outputs = b.bus.outputs) := by
  have hb : Shows b b.cpu b.bus.memory b.bus.outputs := ⟨rfl, rfl, rfl⟩
  have hI := h.installed.push h.slot_high h.slot_low (b.cpu.pc + 3)
  -- The call, the jump at 0005h and the test for function 2 are the same for every function.
  have hcall := (enter_system (o := b.bus.outputs) hq hh hI h.opcode h.target_low h.target_high).trans
    (dispatch (by exact hq) (by exact hh) hI rfl)
  by_cases h2 : b.cpu.c = 2
  · have hs := (hcall.trans (print_char (by exact hq) (by exact hh) hI (by simp [h2]))).shows hb
    refine ⟨_, BackFromCall.of_shows hs rfl rfl ⟨rfl, rfl, rfl, rfl⟩, fun _ => ?_,
      fun h9 => absurd (h2.symm.trans h9) (by decide), fun h2' => absurd h2 h2'⟩
    rw [hs.outputs_eq]
  have hnine := hcall.trans (dispatch_nine (by exact hq) (by exact hh) hI (by simp [h2]))
  by_cases h9 : b.cpu.c = 9
  · -- The scan stops at the first `$` of the memory the call left, which the routine provides.
    obtain ⟨k, hk⟩ := hI.terminated b.cpu.de
    have hs := (hnine.trans (print_loop hI k _ _ (by exact hq) (by exact hh) (by simp [h9]) hk)).shows hb
    refine ⟨_, BackFromCall.of_shows hs rfl rfl ⟨rfl, rfl, rfl, rfl⟩, fun h2' => absurd h2' h2,
      fun _ k' hk' havoid => ?_, fun _ h9' => absurd h9 h9'⟩
    obtain rfl : k' = k := (hk'.push havoid _).unique hk
    refine ⟨by rw [hs.outputs_eq, ← Console.printed_push havoid (b.cpu.pc + 3)]; rfl, ?_,
      by rw [hs.cpu_eq]⟩
    rw [hs.cpu_eq]
    simp [Cpu.setDE, Cpu.de, Word.ofBytes_hi_lo]
  · obtain ⟨-, -, -, -, -, -, -, -, -, -, -, r11, -⟩ := hI.dispatch_bytes
    have hs := (hnine.trans (block_ret (by exact hq) (by exact hh) (by simp [h9, r11]; rfl))).shows hb
    exact ⟨_, BackFromCall.of_shows hs rfl rfl ⟨rfl, rfl, rfl, rfl⟩, fun h2' => absurd h2' h2,
      fun h9' => absurd h9' h9, fun _ _ => hs.outputs_eq⟩

def putCharCall (halted : Bool) : Board TraceBus :=
  ⟨{ pc := 0x100, c := 2, e := 0x58, halted },
    { TraceBus.new with memory := Console.install ((Memory.filled 0).writeAll 0x100 [0xCD, 0x05, 0x00]) }⟩

theorem putCharCall_at (halted : Bool) : AtSystemCall (putCharCall halted) := by
  have hcall : ∀ i (h : i < 3), (Console.install ((Memory.filled 0).writeAll 0x100 [0xCD, 0x05, 0x00])).read
      (0x100 + i.toUInt16) = ([0xCD, 0x05, 0x00] : List UInt8)[i] := by
    intro i hi
    rw [Console.read_install _ (by interval_cases i <;> decide), Memory.read_writeAll _ _ _ _ (by decide)]
    interval_cases i <;> rfl
  -- The stack pointer is zero, so the return address goes to FFFEh and FFFFh.
  exact ⟨Console.install_installed _, hcall 0 (by decide), hcall 1 (by decide), hcall 2 (by decide),
    show ¬Console.Reserved (0 - 1) by decide, show ¬Console.Reserved (0 - 2) by decide⟩

-- A processor halted on a system call never returns from it: it idles on the call.
theorem halted_call_never_returns :
    ∃ b : Board TraceBus, AtSystemCall b ∧ b.cpu.iff = false ∧
      ∀ n, (after n b).cpu.pc ≠ b.cpu.pc + 3 := by
  refine ⟨putCharCall true, putCharCall_at true, rfl, fun n => ?_⟩
  cases n with
  | zero => decide
  | succ n =>
    rw [after_halted _ (Or.inl rfl) rfl]
    decide

theorem put_char_call_prints :
    ∃ n, (after n (putCharCall false)).cpu.pc = 0x103 ∧
      (after n (putCharCall false)).bus.outputs = [(1, 0x58)] := by
  obtain ⟨n, hback, h2, -⟩ := system_call_returns _ (putCharCall_at false) (Or.inl rfl) rfl
  exact ⟨n, hback.pc_eq, h2 rfl⟩

end Board

end Sim8080
