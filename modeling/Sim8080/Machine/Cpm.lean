import Sim8080.Machine.Basic
import Sim8080.Memory.Load

namespace Sim8080

/-- A machine with CP/M memory and a console. -/
structure CpmSystem (σ : Type) where
  machine : Machine σ

namespace CpmSystem

variable {σ : Type}

def new (lib : Libraries) (world : σ) (echo : Bool) : CpmSystem σ :=
  { machine := { context := { lib, memory := some (Console.install (Memory.filled 0))
                              device := some (.console (Console.new echo)) }, world } }

def mapMemory (s : CpmSystem σ) (f : Memory → Memory) : CpmSystem σ :=
  { machine := { s.machine with context := { s.machine.context with
      memory := s.machine.context.memory.map f } } }

def mapConsole (s : CpmSystem σ) (f : Console → Console) : CpmSystem σ :=
  { machine := { s.machine with context := { s.machine.context with
      device := s.machine.context.device.map fun d => match d with
        | .console c => .console (f c)
        | d => d } } }

def console (s : CpmSystem σ) : Console :=
  match s.machine.context.device with
  | some (.console c) => c
  | _ => {}

def memory (s : CpmSystem σ) : Memory := s.machine.context.memory.getD (Memory.filled 0)

def loadProgram (s : CpmSystem σ) (program : List UInt8) : Except LoadError (CpmSystem σ) := do
  let m ← s.memory.load Console.programStart program
  pure (s.mapMemory fun _ => m)

def loadFile (s : CpmSystem σ) (files : Files) (path : String) : Except LoadError (Nat × CpmSystem σ) := do
  let (n, m) ← s.memory.loadFile files path Console.programStart
  pure (n, s.mapMemory fun _ => m)

def run (s : CpmSystem σ) (wall : Nat → Nat) : Except MachineError String × CpmSystem σ :=
  let s := s.mapConsole Console.rearm
  match (Machine.run Console.programStart wall).run s.machine with
  | (.error e, m) => (.error e, { machine := m })
  | (.ok _, m) =>
    let s : CpmSystem σ := { machine := m }
    let (msg, c) := s.console.takeMessage
    (.ok msg, s.mapConsole fun _ => c)

end CpmSystem

end Sim8080
