import Sim8080.Cpu.Execute
import Sim8080.Snapshot.Document
import Sim8080.Device.Basic
import Sim8080.Options
import Sim8080.Clock

namespace Sim8080

/-- Why a machine operation was refused or failed. -/
inductive MachineError where
  | invalidArgument
  | clockResolution
  | noMemory
  | noDevice
  | busy
  | notRunning
  | runThread
  | deviceFailed
  | options (e : OptionsError)
  | snapshot (e : SnapshotError)

namespace MachineError

def message : MachineError → String
  | invalidArgument => "an argument supplied to the method is invalid"
  | clockResolution => "the clock resolution must be non-zero"
  | noMemory => "no memory controller has been set"
  | noDevice => "no io controller has been set"
  | busy => "the machine is running"
  | notRunning => "no asynchronous run is in progress"
  | runThread => "the run thread terminated abnormally"
  | deviceFailed => "scripted controller panic"
  | options e => e.message
  | snapshot e => e.message

def kind : MachineError → String
  | invalidArgument => "InvalidArgument"
  | clockResolution => "ClockResolution"
  | noMemory => "NoMemoryController"
  | noDevice => "NoIoController"
  | busy => "Busy"
  | notRunning => "NotRunning"
  | runThread => "RunThread"
  | deviceFailed => "panic"
  | options e => "Options." ++ e.kind
  | snapshot e => "Snapshot." ++ e.kind

end MachineError

/-- The phases of a machine's life. -/
inductive Phase where
  | idle
  | ready
  | running
  | halted
  | stopped
  deriving Repr, DecidableEq, Inhabited

namespace Phase

def name : Phase → String
  | idle => "Idle"
  | ready => "Ready"
  | running => "Running"
  | halted => "Halted"
  | stopped => "Stopped"

def isActive : Phase → Bool
  | running | halted => true
  | _ => false

end Phase

/-- The counters of the last run. Halt waits and interrupt acknowledgements are not
instructions. -/
structure Stats where
  cycles : Nat := 0
  instructions : Nat := 0
  interrupts : Nat := 0
  deriving Repr, DecidableEq, Inhabited

/-- Memory and device, as the processor sees them: memory at every address, the device on
every port. -/
structure System where
  memory : Memory
  device : Device
  deriving Inhabited

instance : Bus System where
  read s a := (s.memory.read a, s)
  write s a v := match s with
    | ⟨m, d⟩ => ⟨m.write a v, d⟩
  input s p := match s with
    | ⟨m, d⟩ =>
      let (v, d) := d.read p.toUInt16
      (v, ⟨m, d⟩)
  output s p v := match s with
    | ⟨m, d⟩ => ⟨m, d.write p.toUInt16 v⟩

-- The libraries the machine is built with: a JSON reader, with the JSON forms of options and
-- snapshots, and zlib with CRC-32.
structure Libraries where
  parse : String → Except String Json
  options : Options.Codec
  snapshots : Snapshot.Codec
  flate : Flate
  deriving Inhabited

-- The hooks of a program are closures over state of their own, which the caller may share
-- between them and change between runs: `σ` is that state, and each hook call moves it on.
structure Context (σ : Type) where
  lib : Libraries
  cpu : Cpu := {}
  clock : Clock := Clock.new
  memory : Option Memory := none
  device : Option Device := none
  options : Options := {}
  onSave : Option (σ → String → σ) := none
  onLoad : Option (σ → Option String × σ) := none
  stats : Stats := {}

namespace Context

variable {σ : Type}

def system (ctx : Context σ) : Except MachineError System :=
  match ctx.memory, ctx.device with
  | none, _ => .error .noMemory
  | some _, none => .error .noDevice
  | some m, some d => .ok ⟨m, d⟩

def prepare (ctx : Context σ) : Except MachineError (System × Clock × Nat) := do
  let sys ← ctx.system
  match ctx.clock.setResolution ctx.options.clockResolution with
  | .ok (ticks, clock) => pure (sys, clock, ticks)
  | .error _ => throw .clockResolution

def snapshot (ctx : Context σ) (cpu : Cpu) (m : Memory) : Snapshot :=
  (Snapshot.capture ctx.lib.flate cpu m ctx.options.compressor).withRom ctx.lib.flate m ctx.options.rom

end Context

end Sim8080
