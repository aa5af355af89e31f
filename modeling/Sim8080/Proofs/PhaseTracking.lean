import Mathlib
import Sim8080.Proofs.PollCadence

namespace Sim8080

namespace Run

variable {σ : Type}

def PhaseTracks (r : Run σ) : Prop := r.phase = if r.board.cpu.halted then .halted else .running

variable (ctx : Context σ) (held : Bool) (r : Run σ)

@[simp] theorem save_board : (r.save ctx).board = r.board := by
  obtain ⟨world, h⟩ := save_frame ctx r
  rw [h]

@[simp] theorem save_phase : (r.save ctx).phase = r.phase := by
  obtain ⟨world, h⟩ := save_frame ctx r
  rw [h]

@[simp] theorem load_phase : (r.load ctx).phase = r.phase := by
  obtain ⟨cpu, m, world, h⟩ := load_frame ctx r
  rw [h]

theorem load_cpu_congr (r' : Run σ) (hs : r'.world = r.world)
    (hm : r'.board.bus.memory = r.board.bus.memory) (hc : r'.board.cpu = r.board.cpu) :
    (r'.load ctx).board.cpu = (r.load ctx).board.cpu := by
  unfold load
  simp only [hs, hm]
  split
  case h_1 => exact hc
  case h_2 =>
    -- the hook answers the same for both; only what it answers decides what is restored
    split
    case h_1 => exact hc
    case h_2 =>
      split
      case h_1 => rfl
      case h_2 => exact hc

theorem service_phase
    (hload : r.poll? held = some (.answer .load) → (r.load ctx).board.cpu.halted = r.board.cpu.halted) :
    (r.service ctx held).2.phase = r.phase ∧
      (r.service ctx held).2.board.cpu.halted = r.board.cpu.halted := by
  by_cases hdue : r.clock.total - r.lastPoll < r.pollInterval
  case pos => simp only [service, hdue, ↓reduceIte, and_self]
  case neg =>
    simp only [poll?, hdue, ↓reduceIte, Option.some.injEq] at hload
    simp only [service, hdue, ↓reduceIte]
    rcases ha : r.board.bus.device.poll (r.wall r.clock.total) r.clock.total held with ⟨q | _ | _, d⟩
    case answer =>
      rw [ha] at hload
      cases q
      case load =>
        refine ⟨by simp, ?_⟩
        have hc := load_cpu_congr ctx r
          { r with lastPoll := r.clock.total, board := ⟨r.board.cpu, ⟨r.board.bus.memory, d⟩⟩ }
          rfl rfl rfl
        exact (congrArg Cpu.halted hc).trans (hload rfl)
      case restart n => simp [Cpu.signal_eq]
      all_goals simp
    all_goals simp

theorem advance_phaseTracks (h : r.PhaseTracks) : (r.advance ctx).2.PhaseTracks := by
  unfold PhaseTracks at h ⊢
  rcases hs : Board.step.run r.board with ⟨st, bd⟩
  simp only [advance, hs]
  cases hb : bd.cpu.halted <;> cases hr : r.board.cpu.halted <;> simp_all

theorem pass_phaseTracks (h : r.PhaseTracks)
    (hload : r.poll? held = some (.answer .load) → (r.load ctx).board.cpu.halted = r.board.cpu.halted) :
    (r.pass ctx held).2.2.PhaseTracks := by
  obtain ⟨hp, hh⟩ := service_phase ctx held r hload
  have hs : (r.service ctx held).2.PhaseTracks := by
    unfold PhaseTracks at h ⊢
    rw [hp, hh, h]
  rcases hsv : r.service ctx held with ⟨_ | s, rs⟩
  all_goals rw [hsv] at hs
  · rcases ha : rs.advance ctx with ⟨atExit, ra⟩
    have := advance_phaseTracks ctx rs hs
    rw [ha] at this
    simpa [pass, hsv, ha] using this
  · simpa [pass, hsv] using hs

theorem phaseTracks_run (fuel : Nat) (h : r.PhaseTracks)
    (hload : ∀ s ∈ passStates ctx held fuel r,
      s.poll? held = some (.answer .load) → (s.load ctx).board.cpu.halted = s.board.cpu.halted) :
    ∀ s ∈ passStates ctx held fuel r, s.PhaseTracks ∧ (s.pass ctx held).2.2.PhaseTracks := by
  have hall := passStates_invariant ctx held r PhaseTracks fuel
    (fun s hs p s' hp hI => by simpa [hp] using pass_phaseTracks ctx held s hI (hload s hs)) h
  intro s hs
  exact ⟨hall s hs, pass_phaseTracks ctx held s (hall s hs) (hload s hs)⟩

theorem start_phaseTracks {entry : Option UInt16} {wall : Nat → Nat} {world : σ}
    (hstart : start ctx entry wall world = .ok r) (hrun : entry.isSome ∨ ctx.cpu.halted = false) :
    r.PhaseTracks := by
  unfold start at hstart
  rcases hp : ctx.prepare with e | ⟨sys, clock, ticks⟩
  case error => simp [hp, bind, Except.bind] at hstart
  simp only [hp, bind, Except.bind, pure, Except.pure, Except.ok.injEq] at hstart
  subst hstart
  unfold PhaseTracks
  cases entry with
  | some pc => rfl
  | none =>
    simp only [Option.isSome_none, Bool.false_eq_true, false_or] at hrun
    simp [hrun]

-- At the end of every pass of a run with fresh registers (or resumed from a processor that is
-- not halted) whose polls never restore a processor with the other halt flag, the phase is
-- `halted` exactly when the processor is, and `running` otherwise.
theorem phase_follows_halt {entry : Option UInt16} {wall : Nat → Nat} {world : σ}
    (hstart : start ctx entry wall world = .ok r) (hrun : entry.isSome ∨ ctx.cpu.halted = false)
    (fuel : Nat)
    (hload : ∀ s ∈ passStates ctx held fuel r,
      s.poll? held = some (.answer .load) → (s.load ctx).board.cpu.halted = s.board.cpu.halted) :
    ∀ s ∈ passStates ctx held fuel r,
      (s.pass ctx held).2.2.phase =
        if (s.pass ctx held).2.2.board.cpu.halted then .halted else .running := fun s hs =>
  (phaseTracks_run ctx held r fuel (start_phaseTracks ctx r hstart hrun) hload s hs).2

theorem phase_follows_halt_from_reset :
    start ({ lib := default, memory := some (Memory.filled 0), device := some (.scripted {}) } :
        Context Unit) (some 0) (fun _ => 0) () =
        .ok { board := ⟨Cpu.reset 0, ⟨Memory.filled 0, .scripted {}⟩⟩, clock := Clock.new,
              pollInterval := 0, wall := fun _ => 0, world := () } ∧
      (some (0 : UInt16)).isSome ∧
      ∀ s ∈ passStates
          ({ lib := default, memory := some (Memory.filled 0), device := some (.scripted {}) } :
            Context Unit) false 2
          { board := ⟨Cpu.reset 0, ⟨Memory.filled 0, .scripted {}⟩⟩, clock := Clock.new,
            pollInterval := 0, wall := fun _ => 0, world := () },
        (s.pass { lib := default, memory := some (Memory.filled 0), device := some (.scripted {}) }
            false).2.2.phase =
          if (s.pass { lib := default, memory := some (Memory.filled 0), device := some (.scripted {}) }
              false).2.2.board.cpu.halted
          then .halted else .running := by
  have hstart :
      start ({ lib := default, memory := some (Memory.filled 0), device := some (.scripted {}) } :
        Context Unit) (some 0) (fun _ => 0) () =
      .ok { board := ⟨Cpu.reset 0, ⟨Memory.filled 0, .scripted {}⟩⟩, clock := Clock.new,
            pollInterval := 0, wall := fun _ => 0, world := () } := by rfl
  refine ⟨hstart, rfl, phase_follows_halt _ false _ hstart (.inl rfl) 2 ?_⟩
  -- The scripted device with an empty script never asks for a load.
  decide

-- Resumed from a halted processor, a run is still `running` after its first pass, in which the
-- processor idles.
theorem phase_running_while_halted :
    ∃ (ctx : Context Unit) (r : Run Unit), start ctx none (fun _ => 0) () = .ok r ∧
      (r.pass ctx false).2.2.board.cpu.halted = true ∧ (r.pass ctx false).2.2.phase = .running :=
  ⟨{ lib := default, cpu := { halted := true }, memory := some (Memory.filled 0),
     device := some (.scripted {}) },
    { board := ⟨{ halted := true }, ⟨Memory.filled 0, .scripted {}⟩⟩, clock := Clock.new,
      pollInterval := 0, wall := fun _ => 0, world := () },
    by rfl, by decide, by decide⟩

end Run

end Sim8080
