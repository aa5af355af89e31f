import Sim8080.Device.Console
import Sim8080.Device.Timer
import Sim8080.Device.Scripted
import Sim8080.Device.Registry

namespace Sim8080

/-- A device on the I/O ports. -/
inductive Device where
  | console (c : Console)
  | timer (t : Timer)
  | scripted (s : Scripted)
  deriving Repr, Inhabited

namespace Device

def ofKind : DeviceKind → Device
  | .console => console (Console.new false)
  | .timer => timer {}

def read : Device → UInt16 → UInt8 × Device
  | console c, p => (c.read p, console c)
  | timer t, p => (t.read p, timer t)
  | scripted s, p =>
    let (v, s) := s.read p
    (v, scripted s)

def write : Device → UInt16 → UInt8 → Device
  | console c, p, v => console (c.write p v)
  | timer t, p, v => timer (t.write p v)
  | scripted s, p, v => scripted (s.write p v)

def poll (d : Device) (timeNs cycles : Nat) (held : Bool) : Poll × Device :=
  match d with
  | console c =>
    let (r, c) := c.poll cycles
    (.answer r, console c)
  | timer t =>
    let (r, t) := t.poll timeNs
    (.answer r, timer t)
  | scripted s =>
    let (p, s) := s.poll cycles held
    (p, scripted s)

def release : Device → Device
  | scripted s => scripted s.release
  | d => d

end Device

end Sim8080
