import Sim8080.Machine.Run

namespace Sim8080

/-- A run in the background. -/
inductive Worker (σ : Type) where
  | paused (ctx : Context σ) (r : Run σ)
  | finished (result : Except MachineError Unit)
  | failed

/-- A machine. -/
structure Machine (σ : Type) where
  context : Context σ
  phase : Phase := .idle
  worker : Option (Worker σ) := none
  world : σ
  held : Bool := false

abbrev MachineM (σ : Type) := ExceptT MachineError (StateM (Machine σ))

namespace Machine

variable {σ : Type}

def new (lib : Libraries) (world : σ) : Machine σ := { context := { lib }, world }

def status (m : Machine σ) : Phase :=
  match m.phase with
  | .idle => if m.context.memory.isSome && m.context.device.isSome then .ready else .idle
  | p => p

def idle (m : Machine σ) : Except MachineError (Context σ) :=
  if m.phase.isActive then .error .busy
  else
    match m.worker with
    | some (.paused ..) => .error .busy
    | _ => .ok m.context

def idleContext : MachineM σ (Context σ) := do
  match (← get).idle with
  | .ok c => pure c
  | .error e => throw e

def modifyContext (f : Context σ → Context σ) : MachineM σ Unit :=
  modify fun m => { m with context := f m.context }

def setMemory (mem : Option Memory) : MachineM σ Unit := do
  let some mem := mem | throw .invalidArgument
  let _ ← idleContext
  modify fun m => { m with context := { m.context with memory := some mem }, phase := .idle }

def setDevice (d : Option Device) : MachineM σ Unit := do
  let some d := d | throw .invalidArgument
  let _ ← idleContext
  modify fun m => { m with context := { m.context with device := some d }, phase := .idle }

def setClockResolution (ns : Int) : MachineM σ Unit := do
  let ctx ← idleContext
  match ctx.clock.setResolution ns with
  | .error _ => throw .clockResolution
  | .ok (_, clock) =>
    modifyContext fun c => { c with clock, options := { c.options with clockResolution := ns } }

def setOptions (files : Files) (text : Option String) : MachineM σ Unit := do
  let ctx ← idleContext
  let options ← match text with
    | some t =>
      match ctx.options.merge ctx.lib.parse ctx.lib.options files t with
      | .ok o => pure o
      | .error e => throw (.options e)
    | none => pure {}
  match ctx.clock.setResolution options.clockResolution with
  | .error _ => throw .clockResolution
  | .ok (_, clock) => modifyContext fun c => { c with clock, options }

def options : MachineM σ Options := return (← idleContext).options

def onSave (hook : σ → String → σ) : MachineM σ Unit := do
  let _ ← idleContext
  modifyContext ({ · with onSave := some hook })

def onLoad (hook : σ → Option String × σ) : MachineM σ Unit := do
  let _ ← idleContext
  modifyContext ({ · with onLoad := some hook })

def carry (m : Machine σ) (ctx : Context σ) (held : Bool) (r : Run σ) : Stop × Run σ :=
  Run.go ctx held Run.fuel { r with world := m.world }

def settle (m : Machine σ) (ctx : Context σ) (stop : Stop) (r : Run σ) : Machine σ :=
  let m := { m with world := r.world }
  match stop with
  | .paused => { m with phase := r.phase }
  | .failed => { m with context := ctx.absorb r, phase := r.phase }
  | .finished =>
    let r := r.finish
    { m with context := ctx.absorb r, phase := .stopped }

def runForeground (entry : Option UInt16) (wall : Nat → Nat) : MachineM σ Unit := do
  let ctx ← idleContext
  let m ← get
  let r ← match Run.start ctx entry wall m.world with
    | .ok r => pure r
    | .error e => throw e
  let (stop, r) := m.carry ctx false r
  let (stop, r) := if stop == .paused then Run.go ctx false Run.fuel r.release else (stop, r)
  set (m.settle ctx stop r)
  if stop == .failed then throw .deviceFailed

def background (ctx : Context σ) (r : Run σ) : MachineM σ Unit :=
  modify fun m =>
    let (stop, r) := m.carry ctx m.held r
    let w := match stop with
      | .paused => Worker.paused ctx r
      | .failed => .failed
      | .finished => .finished (.ok ())
    { m.settle ctx stop r with worker := some w }

def spawn (entry : Option UInt16) (wall : Nat → Nat) : MachineM σ Unit := do
  let m ← get
  if m.worker.isSome then throw .busy
  let ctx ← idleContext
  match Run.start ctx entry wall m.world with
  | .ok r => background ctx r
  | .error e => throw e

def run (pc : UInt16) (wall : Nat → Nat) : MachineM σ Bool := do
  let ctx ← idleContext
  if ctx.options.runAsync then
    spawn (some pc) wall
    pure true
  else
    runForeground (some pc) wall
    pure false

def resume (wall : Nat → Nat) : MachineM σ Unit := runForeground none wall

def runAsync (pc : UInt16) (wall : Nat → Nat) : MachineM σ Unit := spawn (some pc) wall

def release : MachineM σ Unit := do
  modify fun m => { m with held := false }
  match (← get).worker with
  | some (.paused ctx r) => background ctx r.release
  | _ => modifyContext fun c => { c with device := c.device.map Device.release }

def hold : MachineM σ Unit := modify fun m => { m with held := true }

def waitForCompletion : MachineM σ Unit := do
  if let some (.paused ..) := (← get).worker then release
  let m ← get
  match m.worker with
  | none | some (.paused ..) => throw .notRunning
  | some .failed =>
    set { m with worker := none, phase := .stopped }
    throw .runThread
  | some (.finished result) =>
    set { m with worker := none }
    match result with
    | .ok () => pure ()
    | .error e => throw e

def save : MachineM σ String := do
  let ctx ← idleContext
  match ctx.system with
  | .ok sys => pure (ctx.lib.snapshots.toText (ctx.snapshot ctx.cpu sys.memory))
  | .error e => throw e

def load (text : String) : MachineM σ Unit := do
  let ctx ← idleContext
  let sys ← match ctx.system with
    | .ok sys => pure sys
    | .error e => throw e
  match (Snapshot.ofText ctx.lib.parse ctx.lib.snapshots text).bind (·.restore ctx.lib.flate sys.memory) with
  | .ok (mem, cpu) => modifyContext fun c => { c with memory := some mem, cpu }
  | .error e => throw (.snapshot e)

def cpuState : MachineM σ SavedCpu := return (← idleContext).cpu.save

def stats : MachineM σ Stats := return (← idleContext).stats

end Machine

end Sim8080
