import Sim8080.Machine.Context

namespace Sim8080

-- A poll hands the device the real time elapsed since the run began, which no program can
-- know in advance: `wall n` is that time, in nanoseconds, when the run has counted `n` cycles.
-- Every step costs cycles, so the polls of a run fall at distinct counts and any readings of
-- the clock are some `wall`.
structure Run (σ : Type) where
  board : Board System
  clock : Clock
  stats : Stats := {}
  lastPoll : Nat := 0
  pollInterval : Nat
  phase : Phase := .running
  wall : Nat → Nat
  world : σ

/-- How a stretch of a run ended. -/
inductive Stop where
  | finished
  | paused
  | failed
  deriving Repr, DecidableEq

/-- Whether a run goes on after a poll. -/
inductive Next where
  | proceed
  | stop (s : Stop)
  deriving Repr, DecidableEq

def Run.fuel : Nat := Nat.pow 2 40

def cyclesPerPoll (isrFreq : Float) (resolutionTicks : Nat) : Nat :=
  (isrFreq * Float.ofNat resolutionTicks).toUInt64.toNat

namespace Run

variable {σ : Type}

def start (ctx : Context σ) (entry : Option UInt16) (wall : Nat → Nat) (world : σ) :
    Except MachineError (Run σ) := do
  let (sys, clock, ticks) ← ctx.prepare
  let cpu := match entry with
    | some pc => Cpu.reset pc
    | none => ctx.cpu
  pure { board := ⟨cpu, sys⟩, clock := clock.reset,
         pollInterval := cyclesPerPoll ctx.options.isrFreq ticks, wall, world }

-- A save request hands the save hook the document of the processor and memory as they are.
def save (ctx : Context σ) (r : Run σ) : Run σ :=
  match ctx.onSave with
  | none => r
  | some hook =>
    let text := ctx.lib.snapshots.toText (ctx.snapshot r.board.cpu r.board.bus.memory)
    { r with world := hook r.world text }

-- A load request restores what the load hook answers, if it answers a document that reads
-- and restores; a failure is ignored.
def load (ctx : Context σ) (r : Run σ) : Run σ :=
  match ctx.onLoad with
  | none => r
  | some hook =>
    let answer := hook r.world
    let r := { r with world := answer.2 }
    match answer.1 with
    | none => r
    | some t =>
      match (Snapshot.ofText ctx.lib.parse ctx.lib.snapshots t).bind
          (·.restore ctx.lib.flate r.board.bus.memory) with
      | .ok (m, cpu) => { r with board := ⟨cpu, { r.board.bus with memory := m }⟩ }
      | .error _ => r

def service (ctx : Context σ) (held : Bool) (r : Run σ) : Next × Run σ :=
  let total := r.clock.total
  if total - r.lastPoll < r.pollInterval then (.proceed, r)
  else
    match r.board.bus.device.poll (r.wall total) total held with
    | (.pause, _) => (.stop .paused, r)
    | (.failure, _) => (.stop .failed, r)
    | (.answer q, d) =>
      let r := { r with lastPoll := total, board := { r.board with bus := { r.board.bus with device := d } } }
      match q with
      | .quit => (.stop .finished, r)
      | .save => (.proceed, r.save ctx)
      | .load => (.proceed, r.load ctx)
      | .nothing => (.proceed, r)
      | .restart n =>
        (.proceed, { r with
          board := { r.board with cpu := r.board.cpu.signal (.restart n) }
          stats := { r.stats with interrupts := r.stats.interrupts + 1 } })

def advance (ctx : Context σ) (r : Run σ) : Bool × Run σ :=
  let wasHalted := r.board.cpu.halted
  let (step, board) := Board.step.run r.board
  let executed := step.kind == .executed
  let halted := board.cpu.halted
  let r := { r with
    board
    clock := r.clock.tick step.cycles
    stats := if executed then { r.stats with instructions := r.stats.instructions + 1 } else r.stats
    phase := if halted != wasHalted then (if halted then .halted else .running) else r.phase }
  (executed && ctx.options.exitAddress == some board.cpu.pc, r)

def go (ctx : Context σ) (held : Bool) : Nat → Run σ → Stop × Run σ
  | 0, r => (.finished, r)
  | fuel + 1, r =>
    match r.service ctx held with
    | (.stop s, r) => (s, r)
    | (.proceed, r) =>
      match r.advance ctx with
      | (true, r) => (.finished, r)
      | (false, r) => go ctx held fuel r

def finish (r : Run σ) : Run σ :=
  let clock := if r.clock.isPaced then r.clock.sync else r.clock
  { r with clock, stats := { r.stats with cycles := clock.total }, phase := .stopped }

def release (r : Run σ) : Run σ :=
  { r with board := { r.board with bus := { r.board.bus with device := r.board.bus.device.release } } }

end Run

def Context.absorb {σ : Type} (ctx : Context σ) (r : Run σ) : Context σ :=
  { ctx with cpu := r.board.cpu, clock := r.clock, memory := some r.board.bus.memory
             device := some r.board.bus.device, stats := r.stats }

end Sim8080
