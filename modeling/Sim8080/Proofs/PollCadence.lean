import Mathlib
import Sim8080.Proofs.RunLoop

namespace Sim8080

theorem Instr.cycles_le (i : Instr) : i.cycles ≤ 18 := by
  unfold Instr.cycles
  split <;> omega

theorem Instr.cyclesNotTaken_le (i : Instr) : i.cyclesNotTaken ≤ 18 := by
  unfold Instr.cyclesNotTaken
  split
  · omega
  · omega
  · exact Instr.cycles_le _

theorem Instr.cost_le (i : Instr) (taken : Bool) :
    (if taken then i.cycles else i.cyclesNotTaken) ≤ 18 := by
  cases taken
  · exact i.cyclesNotTaken_le
  · exact i.cycles_le

namespace Board

variable {β : Type} [Bus β]

theorem execute_cycles_le (b : Board β) : (execute.run b).1 ≤ 18 := by
  simp only [execute, run_bind, run_cpuState, run_read, fst_pair, snd_pair]
  -- the operand fetch depends on the size; the cost is the instruction's either way
  split <;> simp only [readWord, run_bind, run_read, run_modifyCpu, run_pure, fst_pair, snd_pair] <;>
    exact Instr.cost_le _ _

theorem step_cycles_le (b : Board β) : (step.run b).1.cycles ≤ 18 := by
  rcases step_cases b with ⟨-, _, -, hs⟩ | ⟨-, -, hs⟩ | ⟨-, -, hs⟩
  · rw [hs]; exact (by decide : interruptCycles ≤ 18)
  · rw [hs]; exact (by decide : idleCycles ≤ 18)
  · rw [hs]; exact execute_cycles_le _

end Board

theorem cyclesPerPoll_zero (f : Float) : cyclesPerPoll f 0 = 0 := by
  have hz : (Float.ofNat 0).toModel.unpack = .zero .positive := rfl
  simp only [cyclesPerPoll, Float.toUInt64, Float.mul, Float.Model.toUInt64,
    HMul.hMul, Mul.mul, Float.Model.mul, hz]
  -- Infinity times zero is not-a-number; every other product with zero is a signed zero.
  cases f.toModel.unpack with
  | infinity s => simp only [Float.Model.UnpackedFloat.mul]; decide
  | notANumber => decide
  | zero s => cases s <;> decide
  | finite s m e hm => cases s <;> simp only [Float.Model.UnpackedFloat.mul] <;> decide

namespace Run

variable {σ : Type}

def due (r : Run σ) : Bool := decide (r.pollInterval ≤ r.clock.total - r.lastPoll)

def passStates (ctx : Context σ) (held : Bool) : Nat → Run σ → List (Run σ)
  | 0, _ => []
  | fuel + 1, r =>
    match r.pass ctx held with
    | (_, some _, _) => [r]
    | (_, none, r') => r :: passStates ctx held fuel r'

def pollCycles (ctx : Context σ) (held : Bool) (fuel : Nat) (r : Run σ) : List Nat :=
  ((passStates ctx held fuel r).filter due).map (·.clock.total)

def PollSlack (r : Run σ) : Prop :=
  r.lastPoll ≤ r.clock.total ∧ r.clock.total - r.lastPoll ≤ max r.pollInterval 1 + 17

def PollGap (P a b : Nat) : Prop := a ≤ b ∧ P ≤ b - a ∧ b - a ≤ max P 1 + 17

variable (ctx : Context σ) (held : Bool) (r : Run σ)

theorem poll?_isSome : (r.poll? held).isSome = r.due := by
  unfold poll? due
  by_cases h : r.clock.total - r.lastPoll < r.pollInterval
  · have hn : ¬r.pollInterval ≤ r.clock.total - r.lastPoll := by omega
    simp only [h, hn, ↓reduceIte, Option.isSome_none, decide_false]
  · have hy : r.pollInterval ≤ r.clock.total - r.lastPoll := by omega
    simp only [h, hy, ↓reduceIte, Option.isSome_some, decide_true]

@[simp] theorem save_lastPoll : (r.save ctx).lastPoll = r.lastPoll := by
  obtain ⟨world, h⟩ := save_frame ctx r
  rw [h]

@[simp] theorem save_pollInterval : (r.save ctx).pollInterval = r.pollInterval := by
  obtain ⟨world, h⟩ := save_frame ctx r
  rw [h]

@[simp] theorem load_lastPoll : (r.load ctx).lastPoll = r.lastPoll := by
  obtain ⟨cpu, m, world, h⟩ := load_frame ctx r
  rw [h]

@[simp] theorem load_pollInterval : (r.load ctx).pollInterval = r.pollInterval := by
  obtain ⟨cpu, m, world, h⟩ := load_frame ctx r
  rw [h]

theorem service_polls :
    (r.service ctx held).2.clock = r.clock ∧
      (r.service ctx held).2.pollInterval = r.pollInterval ∧
      ((r.service ctx held).1 = .proceed →
        (r.service ctx held).2.lastPoll = if r.due then r.clock.total else r.lastPoll) := by
  unfold due
  by_cases hdue : r.clock.total - r.lastPoll < r.pollInterval
  case pos =>
    have hn : ¬r.pollInterval ≤ r.clock.total - r.lastPoll := by omega
    simp only [service, hdue, ↓reduceIte, hn, decide_false, Bool.false_eq_true, and_self,
      imp_self]
  case neg =>
    have hy : r.pollInterval ≤ r.clock.total - r.lastPoll := by omega
    simp only [service, hdue, ↓reduceIte, hy, decide_true]
    generalize r.board.bus.device.poll (r.wall r.clock.total) r.clock.total held = a
    rcases a with ⟨q | _ | _, d⟩
    · cases q <;> simp
    · simp
    · simp

theorem advance_polls :
    (r.advance ctx).2.lastPoll = r.lastPoll ∧ (r.advance ctx).2.pollInterval = r.pollInterval := by
  rcases h : Board.step.run r.board with ⟨st, bd⟩
  simp only [advance, h, and_self]

theorem pass_polls {p : Pass} {r' : Run σ} (hp : r.pass ctx held = (p, none, r')) :
    r'.pollInterval = r.pollInterval ∧
      r'.lastPoll = (if r.due then r.clock.total else r.lastPoll) ∧
      r.clock.total ≤ r'.clock.total ∧ r'.clock.total ≤ r.clock.total + 18 := by
  obtain ⟨hc, hi, hl⟩ := service_polls ctx held r
  rcases hs : r.service ctx held with ⟨_ | s, rs⟩
  case stop => simp [pass, hs] at hp
  rw [hs] at hc hi hl
  obtain ⟨hl', hi'⟩ := advance_polls ctx rs
  obtain ⟨hclock, -, -⟩ := advance_counters ctx rs
  have hstep := Board.step_cycles_le rs.board
  rcases ha : rs.advance ctx with ⟨atExit, ra⟩
  rw [ha] at hl' hi' hclock
  have hr : ra = r' := by
    simp only [pass, hs, ha, Prod.mk.injEq] at hp
    exact hp.2.2
  subst hr
  refine ⟨by rw [hi', hi], by rw [hl', hl rfl], ?_, ?_⟩
  all_goals rw [hclock, hc]; omega

theorem pass_slack {p : Pass} {r' : Run σ} (hp : r.pass ctx held = (p, none, r'))
    (h : r.PollSlack) : r'.PollSlack := by
  obtain ⟨hi, hl, hge, hle⟩ := pass_polls ctx held r hp
  unfold PollSlack at h ⊢
  rw [hi, hl]
  unfold due
  by_cases hd : r.pollInterval ≤ r.clock.total - r.lastPoll
  · simp only [hd, decide_true, ↓reduceIte]
    omega
  · simp only [hd, decide_false, Bool.false_eq_true, ↓reduceIte]
    omega

theorem passStates_succ (fuel : Nat) :
    passStates ctx held (fuel + 1) r =
      match r.pass ctx held with
      | (_, some _, _) => [r]
      | (_, none, r') => r :: passStates ctx held fuel r' := rfl

theorem passStates_invariant (I : Run σ → Prop) (fuel : Nat)
    (hstep : ∀ s ∈ passStates ctx held fuel r, ∀ p s', s.pass ctx held = (p, none, s') → I s → I s')
    (h : I r) : ∀ s ∈ passStates ctx held fuel r, I s := by
  induction fuel generalizing r with
  | zero => simp [passStates]
  | succ fuel ih =>
    rw [passStates_succ] at hstep ⊢
    rcases hp : r.pass ctx held with ⟨p, _ | s, r'⟩
    case some => simpa using h
    case none =>
      simp only [hp] at hstep
      have h' : I r' := hstep r List.mem_cons_self p r' hp h
      intro s hs
      rcases List.mem_cons.mp hs with rfl | hs
      · exact h
      · exact ih r' (fun s hs => hstep s (List.mem_cons_of_mem r hs)) h' s hs

theorem passStates_slack (fuel : Nat) (h : r.PollSlack) :
    ∀ s ∈ passStates ctx held fuel r, s.PollSlack ∧ s.pollInterval = r.pollInterval := by
  refine passStates_invariant ctx held r (fun s => s.PollSlack ∧ s.pollInterval = r.pollInterval)
    fuel ?_ ⟨h, rfl⟩
  intro s _ p s' hp ⟨hs, hsi⟩
  exact ⟨pass_slack ctx held s hp hs, (pass_polls ctx held s hp).1.trans hsi⟩

theorem pollCycles_chain (fuel : Nat) (h : r.PollSlack) :
    (r.lastPoll :: pollCycles ctx held fuel r).IsChain (PollGap r.pollInterval) := by
  induction fuel generalizing r with
  | zero => simp [pollCycles, passStates]
  | succ fuel ih =>
    have hgap : r.due → PollGap r.pollInterval r.lastPoll r.clock.total := by
      intro hd
      unfold due at hd
      unfold PollSlack at h
      simp only [decide_eq_true_eq] at hd
      exact ⟨h.1, hd, h.2⟩
    unfold pollCycles
    rw [passStates_succ]
    rcases hp : r.pass ctx held with ⟨p, _ | s, r'⟩
    case some =>
      cases hd : r.due
      · simp [hd]
      · simp [hd, hgap hd]
    case none =>
      obtain ⟨hi, hl, -, -⟩ := pass_polls ctx held r hp
      have ih' := ih r' (pass_slack ctx held r hp h)
      unfold pollCycles at ih'
      rw [hi, hl] at ih'
      cases hd : r.due
      · simpa [hd] using ih'
      · simp only [hd, ↓reduceIte] at ih'
        simp [hd, hgap hd, ih']

theorem lastPoll_eq_latest (fuel : Nat) :
    ∀ i (hi : i < (passStates ctx held fuel r).length),
      (passStates ctx held fuel r)[i].lastPoll =
        ((((passStates ctx held fuel r).take i).filter due).map (·.clock.total)).getLast?.getD
          r.lastPoll := by
  induction fuel generalizing r with
  | zero => simp [passStates]
  | succ fuel ih =>
    rw [passStates_succ]
    rcases hp : r.pass ctx held with ⟨p, _ | s, r'⟩
    case some =>
      intro i hi
      simp only [List.length_singleton, Nat.lt_one_iff] at hi
      subst hi
      simp
    case none =>
      obtain ⟨-, hl, -, -⟩ := pass_polls ctx held r hp
      intro i hi
      cases i with
      | zero => simp
      | succ i =>
        simp only [List.length_cons, Nat.add_lt_add_iff_right] at hi
        simp only [List.getElem_cons_succ, List.take_succ_cons, ih r' i hi, hl]
        cases hd : r.due
        · simp [hd]
        · simp only [List.filter_cons, hd, ↓reduceIte, List.map_cons]
          cases hq : (List.map (·.clock.total)
              (List.filter due (List.take i (passStates ctx held fuel r'))))
          · simp
          · simp [List.getLast?_cons]

theorem pollCycles_of_zero (fuel : Nat) (hP : r.pollInterval = 0) (h : r.PollSlack) :
    pollCycles ctx held fuel r = (passStates ctx held fuel r).map (·.clock.total) := by
  unfold pollCycles
  congr 1
  apply List.filter_eq_self.mpr
  intro s hs
  obtain ⟨-, hsi⟩ := passStates_slack ctx held r fuel h s hs
  simp [due, hsi, hP]

theorem passStates_head (fuel : Nat) (hf : 0 < fuel) :
    (passStates ctx held fuel r).head? = some r := by
  obtain ⟨fuel, rfl⟩ := Nat.exists_eq_add_of_lt hf
  rw [Nat.zero_add, passStates_succ]
  rcases r.pass ctx held with ⟨p, _ | s, r'⟩ <;> rfl

theorem start_polls {entry : Option UInt16} {wall : Nat → Nat} {world : σ}
    (h : start ctx entry wall world = .ok r) :
    r.clock.total = 0 ∧ r.lastPoll = 0 ∧
      ∃ ticks clock, ctx.clock.setResolution ctx.options.clockResolution = .ok (ticks, clock) ∧
        r.pollInterval = cyclesPerPoll ctx.options.isrFreq ticks := by
  unfold start Context.prepare at h
  rcases hsys : ctx.system with e | sys
  case error => simp [hsys, bind, Except.bind] at h
  rcases hres : ctx.clock.setResolution ctx.options.clockResolution with e | ⟨ticks, clock⟩
  case error => simp [hsys, hres, bind, Except.bind, pure, Except.pure] at h
  simp only [hsys, hres, bind, Except.bind, pure, Except.pure, Except.ok.injEq] at h
  subst h
  exact ⟨rfl, rfl, ticks, clock, rfl, rfl⟩

theorem setResolution_unpaced {c : Clock} {ns : Int} (hns : ns < 0) :
    c.setResolution ns = .ok (0, { c with resolution := none }) := by
  have h0 : (ns == 0) = false := by simp; omega
  simp [Clock.setResolution, h0, hns]

structure PollCadence (ctx : Context σ) (held : Bool) (fuel : Nat) (r : Run σ) : Prop where
  interval_of_options : ∃ ticks clock,
    ctx.clock.setResolution ctx.options.clockResolution = .ok (ticks, clock) ∧
      r.pollInterval = cyclesPerPoll ctx.options.isrFreq ticks
  unpaced_interval : ctx.options.clockResolution < 0 → r.pollInterval = 0
  polls_iff : ∀ i (hi : i < (passStates ctx held fuel r).length),
    ((passStates ctx held fuel r)[i].poll? held).isSome ↔
      r.pollInterval ≤ (passStates ctx held fuel r)[i].clock.total -
        ((((passStates ctx held fuel r).take i).filter due).map (·.clock.total)).getLast?.getD 0
  first_of_zero : 0 < fuel → r.pollInterval = 0 → (pollCycles ctx held fuel r).head? = some 0
  first_of_pos : 0 < r.pollInterval → ∀ c ∈ (pollCycles ctx held fuel r).head?,
    r.pollInterval ≤ c ∧ c ≤ r.pollInterval + 17
  gaps : (pollCycles ctx held fuel r).IsChain (PollGap r.pollInterval)
  behind_clock : ∀ s ∈ passStates ctx held fuel r, s.lastPoll ≤ s.clock.total

-- Every run a context starts polls its device as `PollCadence` says.
theorem poll_cadence {entry : Option UInt16} {wall : Nat → Nat} {world : σ}
    (hstart : start ctx entry wall world = .ok r) (fuel : Nat) : r.PollCadence ctx held fuel := by
  obtain ⟨htotal, hlast, ticks, clock, hres, hP⟩ := start_polls ctx r hstart
  have hslack : r.PollSlack := by
    unfold PollSlack
    omega
  have hchain := pollCycles_chain ctx held r fuel hslack
  rw [hlast] at hchain
  refine ⟨⟨ticks, clock, hres, hP⟩, ?_, ?_, ?_, ?_, hchain.tail, ?_⟩
  · intro hneg
    rw [setResolution_unpaced hneg, Except.ok.injEq, Prod.mk.injEq] at hres
    rw [hP, ← hres.1, cyclesPerPoll_zero]
  · intro i hi
    have hl := lastPoll_eq_latest ctx held r fuel i hi
    rw [hlast] at hl
    obtain ⟨-, hsi⟩ := passStates_slack ctx held r fuel hslack _ (List.getElem_mem hi)
    rw [poll?_isSome, ← hl]
    simp [due, hsi]
  · intro hf hP0
    rw [pollCycles_of_zero ctx held r fuel hP0 hslack, List.head?_map,
      passStates_head ctx held r fuel hf]
    simp [htotal]
  · intro hpos c hc
    cases hcs : pollCycles ctx held fuel r with
    | nil => simp [hcs] at hc
    | cons c' rest =>
      rw [hcs] at hchain hc
      simp only [List.head?_cons, Option.mem_def, Option.some.injEq] at hc
      subst hc
      obtain ⟨-, hlo, hhi⟩ := (List.isChain_cons_cons.mp hchain).1
      omega
  · intro s hs
    exact (passStates_slack ctx held r fuel hslack s hs).1.1

theorem poll_cadence_from_reset :
    start ({ lib := default, memory := some (Memory.filled 0), device := some (.scripted {}) } :
        Context Unit) (some 0) (fun _ => 0) () =
        .ok { board := ⟨Cpu.reset 0, ⟨Memory.filled 0, .scripted {}⟩⟩, clock := Clock.new,
              pollInterval := 0, wall := fun _ => 0, world := () } ∧
      PollCadence { lib := default, memory := some (Memory.filled 0), device := some (.scripted {}) }
        false 2
        { board := ⟨Cpu.reset 0, ⟨Memory.filled 0, .scripted {}⟩⟩, clock := Clock.new,
          pollInterval := 0, wall := fun _ => 0, world := () } :=
  ⟨by rfl, poll_cadence _ _ _ (show start _ (some 0) (fun _ => 0) () = _ by rfl) 2⟩

-- An interval of seventeen cycles past the poll interval is not enough when the interval is
-- zero: a run of `XTHL` at address zero, unpaced, is polled at cycles 0 and 18.
theorem poll_gap_exceeds_seventeen :
    ∃ (ctx : Context Unit) (r : Run Unit), start ctx (some 0) (fun _ => 0) () = .ok r ∧
      r.pollInterval = 0 ∧
      ¬(pollCycles ctx false 2 r).IsChain
        fun a b => r.pollInterval ≤ b - a ∧ b - a ≤ r.pollInterval + 17 :=
  ⟨{ lib := default, memory := some ((Memory.filled 0).write 0 0xE3), device := some (.scripted {}) },
    { board := ⟨Cpu.reset 0, ⟨(Memory.filled 0).write 0 0xE3, .scripted {}⟩⟩, clock := Clock.new,
      pollInterval := 0, wall := fun _ => 0, world := () },
    by rfl, rfl, by decide⟩

end Run

end Sim8080
