import Sim8080.Bus
import Sim8080.Memory

namespace Sim8080

/-- The kind of a bus access. -/
inductive Access where
  | read
  | write
  | input
  | output
  deriving Repr, DecidableEq, Inhabited

def Access.name : Access → String
  | .read => "read"
  | .write => "write"
  | .input => "in"
  | .output => "out"

def Access.ofName? : String → Option Access
  | "read" => some .read
  | "write" => some .write
  | "in" => some .input
  | "out" => some .output
  | _ => none

/-- One access: an address (a port number for port accesses), the byte and the kind. -/
structure BusCycle where
  addr : UInt16
  data : UInt8
  access : Access
  deriving Repr, DecidableEq, Inhabited

/-- Memory, input port values and the log of accesses. -/
structure TraceBus where
  memory : Memory
  ports : Array UInt8
  log : Array BusCycle
  deriving Inhabited

namespace TraceBus

def new (fill : UInt8 := 0) : TraceBus :=
  { memory := Memory.filled fill, ports := Array.replicate 256 0, log := #[] }

def portValue (t : TraceBus) (p : UInt8) : UInt8 := t.ports.getD p.toNat 0

def setPort (t : TraceBus) (p : UInt8) (v : UInt8) : TraceBus :=
  { t with ports := t.ports.setIfInBounds p.toNat v }

def clearLog (t : TraceBus) : TraceBus := { t with log := #[] }

instance : Bus TraceBus where
  read t a :=
    let v := t.memory.read a
    (v, { t with log := t.log.push ⟨a, v, .read⟩ })
  write t a v := { t with memory := t.memory.write a v, log := t.log.push ⟨a, v, .write⟩ }
  input t p :=
    let v := t.portValue p
    (v, { t with log := t.log.push ⟨p.toUInt16, v, .input⟩ })
  output t p v := { t with log := t.log.push ⟨p.toUInt16, v, .output⟩ }

end TraceBus

end Sim8080
