import Sim8080.Request

namespace Sim8080

def Scripted.keptPolls : Nat := 64

/-- The scripted device. -/
structure Scripted where
  script : List (Nat × Request) := []
  inputs : List (UInt16 × List UInt8) := []
  output : Array UInt8 := #[]
  writes : Array (UInt16 × UInt8) := #[]
  polls : Nat := 0
  pollCycles : Array Nat := #[]
  quit : Bool := false
  pauseAt : Option Nat := none
  released : Bool := false
  failAt : Option Nat := none
  deriving Repr, Inhabited

/-- What a poll of a device comes to. -/
inductive Poll where
  | answer (r : Request)
  | pause
  | failure
  deriving Repr, DecidableEq

namespace Scripted

def read (s : Scripted) (port : UInt16) : UInt8 × Scripted :=
  match s.inputs.find? (·.1 == port) with
  | some (_, b :: rest) =>
    (b, { s with inputs := s.inputs.map fun (p, q) => if p == port then (p, rest) else (p, q) })
  | _ => (0, s)

def write (s : Scripted) (port : UInt16) (v : UInt8) : Scripted :=
  let s := { s with writes := s.writes.push (port, v) }
  if port == 0x00 then { s with quit := true }
  else if port == 0x01 then { s with output := s.output.push v }
  else s

def poll (s : Scripted) (cycles : Nat) (held : Bool) : Poll × Scripted :=
  let n := s.polls + 1
  if held || (s.pauseAt == some n && !s.released) then (.pause, s)
  else if s.failAt == some n then (.failure, s)
  else
    let s := { s with
      polls := n
      pollCycles := if s.pollCycles.size < keptPolls then s.pollCycles.push cycles else s.pollCycles }
    if s.quit then (.answer .quit, s)
    else
      match s.script with
      | (due, r) :: rest => if due ≤ cycles then (.answer r, { s with script := rest }) else (.answer .nothing, s)
      | [] => (.answer .nothing, s)

def release (s : Scripted) : Scripted := { s with released := true }

end Scripted

end Sim8080
