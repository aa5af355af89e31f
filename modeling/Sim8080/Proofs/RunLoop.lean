import Mathlib
import Sim8080.Machine.Basic
import Sim8080.Proofs.Interrupts

namespace Sim8080

def Step.Timed (st : Step) : Prop :=
  (st.kind = .interrupt → st.cycles = interruptCycles) ∧ (st.kind = .idle → st.cycles = idleCycles)

def Poll.stop? : Poll → Option Stop
  | .answer .quit => some .finished
  | .pause => some .paused
  | .failure => some .failed
  | .answer _ => none

def Poll.isRestart : Poll → Bool
  | .answer (.restart _) => true
  | _ => false

structure Pass where
  poll : Option Poll
  step : Option Step
  pc : UInt16

namespace Pass

def ends (exit : Option UInt16) (p : Pass) : Option Stop :=
  match p.poll.bind Poll.stop? with
  | some s => some s
  | none => if p.step.map (·.kind) = some .executed ∧ exit = some p.pc then some .finished else none

def cycles (p : Pass) : Nat := (p.step.map (·.cycles)).getD 0

def instructions (p : Pass) : Nat := if p.step.map (·.kind) = some .executed then 1 else 0

def interrupts (p : Pass) : Nat := if (p.poll.map Poll.isRestart).getD false then 1 else 0

end Pass

namespace Run

variable {σ : Type}

def poll? (held : Bool) (r : Run σ) : Option Poll :=
  if r.clock.total - r.lastPoll < r.pollInterval then none
  else some (r.board.bus.device.poll (r.wall r.clock.total) r.clock.total held).1

def pass (ctx : Context σ) (held : Bool) (r : Run σ) : Pass × Option Stop × Run σ :=
  match r.service ctx held with
  | (.stop s, r') => (⟨r.poll? held, none, r'.board.cpu.pc⟩, some s, r')
  | (.proceed, r') =>
    let (atExit, r'') := r'.advance ctx
    (⟨r.poll? held, some (Board.step.run r'.board).1, r''.board.cpu.pc⟩,
      if atExit then some .finished else none, r'')

def journal (ctx : Context σ) (held : Bool) : Nat → Run σ → List Pass
  | 0, _ => []
  | fuel + 1, r =>
    match r.pass ctx held with
    | (p, some _, _) => [p]
    | (p, none, r') => p :: journal ctx held fuel r'

end Run

theorem Clock.total_tick (c : Clock) (n : Nat) : (c.tick n).total = c.total + n := by
  unfold Clock.tick
  dsimp only
  split
  · split <;> rfl
  · rfl

theorem Board.step_timed {β : Type} [Bus β] (b : Board β) : (Board.step.run b).1.Timed := by
  rcases Board.step_cases b with ⟨-, _, -, hs⟩ | ⟨-, -, hs⟩ | ⟨-, -, hs⟩
  all_goals simp [hs, Step.Timed]

namespace Run

variable (ctx : Context σ) (held : Bool) (r : Run σ)

theorem save_frame : ∃ world, r.save ctx = { r with world } := by
  unfold save
  split
  · exact ⟨r.world, rfl⟩
  · exact ⟨_, rfl⟩

@[simp] theorem save_clock : (r.save ctx).clock = r.clock := by
  obtain ⟨world, h⟩ := save_frame ctx r
  rw [h]

@[simp] theorem save_stats : (r.save ctx).stats = r.stats := by
  obtain ⟨world, h⟩ := save_frame ctx r
  rw [h]

theorem load_frame :
    ∃ cpu m world, r.load ctx = { r with board := ⟨cpu, { r.board.bus with memory := m }⟩, world } := by
  unfold load
  split
  · exact ⟨r.board.cpu, r.board.bus.memory, r.world, rfl⟩
  · dsimp only
    split
    · exact ⟨r.board.cpu, r.board.bus.memory, _, rfl⟩
    · split
      · exact ⟨_, _, _, rfl⟩
      · exact ⟨r.board.cpu, r.board.bus.memory, _, rfl⟩

@[simp] theorem load_clock : (r.load ctx).clock = r.clock := by
  obtain ⟨cpu, m, world, h⟩ := load_frame ctx r
  rw [h]

@[simp] theorem load_stats : (r.load ctx).stats = r.stats := by
  obtain ⟨cpu, m, world, h⟩ := load_frame ctx r
  rw [h]

theorem service_next :
    (r.service ctx held).1 =
      match (r.poll? held).bind Poll.stop? with
      | some s => .stop s
      | none => .proceed := by
  by_cases hdue : r.clock.total - r.lastPoll < r.pollInterval
  case pos => simp only [service, poll?, hdue, ↓reduceIte, Option.bind_none]
  case neg =>
    simp only [service, poll?, hdue, ↓reduceIte, Option.bind_some]
    generalize r.board.bus.device.poll (r.wall r.clock.total) r.clock.total held = a
    rcases a with ⟨q | _ | _, d⟩
    · cases q <;> rfl
    · rfl
    · rfl

theorem service_counters :
    (r.service ctx held).2.clock = r.clock ∧
      (r.service ctx held).2.stats.instructions = r.stats.instructions ∧
      (r.service ctx held).2.stats.interrupts =
        r.stats.interrupts + if ((r.poll? held).map Poll.isRestart).getD false then 1 else 0 := by
  by_cases hdue : r.clock.total - r.lastPoll < r.pollInterval
  case pos => simp only [service, poll?, hdue, ↓reduceIte, Option.map_none, Option.getD_none,
    Bool.false_eq_true, Nat.add_zero, and_self]
  case neg =>
    simp only [service, poll?, hdue, ↓reduceIte, Option.map_some, Option.getD_some]
    generalize r.board.bus.device.poll (r.wall r.clock.total) r.clock.total held = a
    rcases a with ⟨q | _ | _, d⟩
    · cases q <;> simp [Poll.isRestart]
    · simp [Poll.isRestart]
    · simp [Poll.isRestart]

theorem advance_counters :
    (r.advance ctx).2.clock.total = r.clock.total + (Board.step.run r.board).1.cycles ∧
      (r.advance ctx).2.stats.instructions =
        r.stats.instructions + (if (Board.step.run r.board).1.kind = .executed then 1 else 0) ∧
      (r.advance ctx).2.stats.interrupts = r.stats.interrupts := by
  rcases h : Board.step.run r.board with ⟨st, bd⟩
  by_cases hk : st.kind = .executed
  all_goals simp [advance, h, hk, Clock.total_tick]

theorem advance_exit :
    (r.advance ctx).1 = ((Board.step.run r.board).1.kind == .executed &&
      ctx.options.exitAddress == some (r.advance ctx).2.board.cpu.pc) ∧
      (r.advance ctx).2.board = (Board.step.run r.board).2 := by
  rcases h : Board.step.run r.board with ⟨st, bd⟩
  simp [advance, h]

theorem pass_ends : (r.pass ctx held).2.1 = (r.pass ctx held).1.ends ctx.options.exitAddress := by
  have hnext := service_next ctx held r
  rcases hs : r.service ctx held with ⟨nx, r'⟩
  rw [hs] at hnext
  cases hstop : (r.poll? held).bind Poll.stop?
  case some s =>
    simp only [hstop] at hnext
    simp [pass, hs, hnext, Pass.ends, hstop]
  case none =>
    simp only [hstop] at hnext
    obtain ⟨hexit, -⟩ := advance_exit ctx r'
    rcases ha : r'.advance ctx with ⟨atExit, r''⟩
    rw [ha] at hexit
    dsimp only at hexit
    simp only [pass, hs, hnext, ha, Pass.ends, hstop]
    subst hexit
    by_cases hk : (Board.step.run r'.board).1.kind = .executed
    all_goals simp [hk]

theorem ends_of_pass {p : Pass} {stop : Option Stop} {r' : Run σ}
    (hp : r.pass ctx held = (p, stop, r')) : p.ends ctx.options.exitAddress = stop := by
  simpa only [hp] using (pass_ends ctx held r).symm

theorem pass_counters :
    (r.pass ctx held).2.2.clock.total = r.clock.total + (r.pass ctx held).1.cycles ∧
      (r.pass ctx held).2.2.stats.instructions =
        r.stats.instructions + (r.pass ctx held).1.instructions ∧
      (r.pass ctx held).2.2.stats.interrupts =
        r.stats.interrupts + (r.pass ctx held).1.interrupts := by
  obtain ⟨hc, hi, hn⟩ := service_counters ctx held r
  have hnext := service_next ctx held r
  rcases hs : r.service ctx held with ⟨nx, r'⟩
  rw [hs] at hc hi hn hnext
  dsimp only at hc hi hn
  cases hstop : (r.poll? held).bind Poll.stop?
  case some s =>
    simp only [hstop] at hnext
    -- A poll that stops the run is not an interrupt request.
    have hq : ((r.poll? held).map Poll.isRestart).getD false = false := by
      rcases hp : r.poll? held with _ | q
      · rfl
      · rw [hp] at hstop
        rcases q with q | _ | _
        · cases q <;> simp_all [Poll.stop?, Poll.isRestart]
        · rfl
        · rfl
    simp [pass, hs, hnext, Pass.cycles, Pass.instructions, Pass.interrupts, hc, hi, hn, hq]
  case none =>
    simp only [hstop] at hnext
    obtain ⟨hc', hi', hn'⟩ := advance_counters ctx r'
    rcases ha : r'.advance ctx with ⟨atExit, r''⟩
    rw [ha] at hc' hi' hn'
    dsimp only at hc' hi' hn'
    simp only [pass, hs, hnext, ha, Pass.cycles, Pass.instructions, Pass.interrupts, hc', hi', hn',
      hc, hi, hn, Option.map_some, Option.getD_some]
    by_cases hk : (Board.step.run r'.board).1.kind = .executed
    all_goals simp [hk]

theorem pass_timed : ∀ st ∈ (r.pass ctx held).1.step, st.Timed := by
  rcases hs : r.service ctx held with ⟨_ | s, r'⟩
  · simpa [pass, hs] using Board.step_timed r'.board
  · simp [pass, hs]

theorem finish_stats : r.finish.stats = { r.stats with cycles := r.clock.total } := by
  unfold finish
  split <;> rfl

theorem go_succ (fuel : Nat) :
    go ctx held (fuel + 1) r =
      match r.pass ctx held with
      | (_, some s, r') => (s, r')
      | (_, none, r') => go ctx held fuel r' := by
  rw [go]
  rcases hs : r.service ctx held with ⟨_ | s, r'⟩
  · rcases ha : r'.advance ctx with ⟨_ | _, r''⟩
    · simp [pass, hs, ha]
    · simp [pass, hs, ha]
  · simp [pass, hs]

theorem go_accumulates (m : Run σ → Nat) (c : Pass → Nat)
    (hm : ∀ r, m (r.pass ctx held).2.2 = m r + c (r.pass ctx held).1) (fuel : Nat) :
    m (go ctx held fuel r).2 = m r + ((journal ctx held fuel r).map c).sum := by
  fun_induction journal ctx held fuel r
  case case1 r => rfl
  case case2 r p s r' hp =>
    have h := hm r
    simp only [go_succ, hp] at h ⊢
    simp [h]
  case case3 fuel r p r' hp ih =>
    have h := hm r
    simp only [go_succ, hp] at h ⊢
    simp only [ih, h, List.map_cons, List.sum_cons, Nat.add_assoc]

theorem journal_forall (P : Pass → Prop) (hP : ∀ r : Run σ, P (r.pass ctx held).1) (fuel : Nat) :
    ∀ p ∈ journal ctx held fuel r, P p := by
  fun_induction journal ctx held fuel r
  case case1 r => simp
  case case2 r p s r' hp =>
    have h := hP r
    simp only [hp] at h
    simpa using h
  case case3 fuel r p r' hp ih =>
    have h := hP r
    simp only [hp] at h
    simpa [h] using ih

theorem journal_dropLast_ends (fuel : Nat) :
    ∀ p ∈ (journal ctx held fuel r).dropLast, p.ends ctx.options.exitAddress = none := by
  fun_induction journal ctx held fuel r
  case case1 r => simp
  case case2 r p s r' hp => simp
  case case3 fuel r p r' hp ih =>
    have h := ends_of_pass ctx held r hp
    cases hj : journal ctx held fuel r'
    case nil => simp
    case cons q qs =>
      rw [hj] at ih
      simpa [List.dropLast, h] using ih

theorem journal_stops (fuel : Nat) :
    (journal ctx held fuel r).length < fuel →
      ∃ p ∈ (journal ctx held fuel r).getLast?, (p.ends ctx.options.exitAddress).isSome := by
  fun_induction journal ctx held fuel r
  case case1 r => simp
  case case2 r p s r' hp =>
    have h := ends_of_pass ctx held r hp
    simp [h]
  case case3 fuel r p r' hp ih =>
    intro hlen
    obtain ⟨q, hq, hend⟩ := ih (by simpa using hlen)
    cases hj : journal ctx held fuel r'
    case nil => simp [hj] at hq
    case cons q' qs =>
      rw [hj] at hq
      exact ⟨q, by simpa [List.getLast?_cons_cons] using hq, hend⟩

theorem go_stop (fuel : Nat) :
    (go ctx held fuel r).1 =
      ((journal ctx held fuel r).getLast?.bind (·.ends ctx.options.exitAddress)).getD .finished := by
  fun_induction journal ctx held fuel r
  case case1 r => rfl
  case case2 r p s r' hp =>
    have h := ends_of_pass ctx held r hp
    simp [go_succ, hp, h]
  case case3 fuel r p r' hp ih =>
    have h := ends_of_pass ctx held r hp
    simp only [go_succ, hp, ih]
    cases hj : journal ctx held fuel r'
    case nil => simp [h]
    case cons q qs => simp [List.getLast?_cons_cons]

-- The loop stops at the first pass that ends the run, with the stop that pass gives, and
-- otherwise finishes when the fuel is used up; every interrupt step takes eleven cycles and every
-- idle step four; the clock gains the cycles of every step, and closing the run records that total
-- with the executed instructions and the interrupt requests answered.
theorem go_stops_and_counts (fuel : Nat) :
    let js := journal ctx held fuel r
    let out := go ctx held fuel r
    (∀ p ∈ js.dropLast, p.ends ctx.options.exitAddress = none) ∧
      (js.length < fuel → ∃ p ∈ js.getLast?, (p.ends ctx.options.exitAddress).isSome) ∧
      out.1 = (js.getLast?.bind (·.ends ctx.options.exitAddress)).getD .finished ∧
      (∀ p ∈ js, ∀ st ∈ p.step, st.Timed) ∧
      out.2.clock.total = r.clock.total + (js.map Pass.cycles).sum ∧
      out.2.finish.stats =
        { cycles := out.2.clock.total
          instructions := r.stats.instructions + (js.map Pass.instructions).sum
          interrupts := r.stats.interrupts + (js.map Pass.interrupts).sum } := by
  intro js out
  have hc := go_accumulates ctx held r (·.clock.total) Pass.cycles
    (fun r => (pass_counters ctx held r).1) fuel
  have hi := go_accumulates ctx held r (·.stats.instructions) Pass.instructions
    (fun r => (pass_counters ctx held r).2.1) fuel
  have hn := go_accumulates ctx held r (·.stats.interrupts) Pass.interrupts
    (fun r => (pass_counters ctx held r).2.2) fuel
  refine ⟨journal_dropLast_ends ctx held r fuel, journal_stops ctx held r fuel,
    go_stop ctx held r fuel, journal_forall ctx held r _ (pass_timed ctx held) fuel, hc, ?_⟩
  rw [finish_stats, ← hi, ← hn]

end Run

end Sim8080
