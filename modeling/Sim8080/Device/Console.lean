import Sim8080.Request
import Sim8080.Memory

namespace Sim8080

/-- The CP/M console device. -/
structure Console where
  message : String := ""
  echo : Bool := false
  echoed : String := ""
  quit : Bool := false
  requested : Option Request := none
  saveAt : Option Nat := none
  deriving Repr, Inhabited

namespace Console

def programStart : UInt16 := 0x0100

def routineStart : UInt16 := 0xFF00

def warmBoot : List UInt8 := [0xD3, 0x00, 0x76]

def systemEntry : List UInt8 := [0xC3, 0x00, 0xFF]

def routine : List UInt8 :=
  [0x79, 0xFE, 0x02, 0xCA, 0x0C, 0xFF, 0xFE, 0x09, 0xCA, 0x10, 0xFF, 0xC9,
   0x7B, 0xD3, 0x01, 0xC9,
   0x1A, 0xFE, 0x24, 0xC8, 0xD3, 0x01, 0x13, 0xC3, 0x10, 0xFF]

def stubs : List (UInt16 × List UInt8) :=
  [(0x0000, warmBoot), (0x0005, systemEntry), (routineStart, routine)]

def install (m : Memory) : Memory := stubs.foldl (fun m (a, bs) => m.writeAll a bs) m

def new (echo : Bool := false) : Console := { echo }

def read (_ : Console) (_ : UInt16) : UInt8 := 0

def write (c : Console) (port : UInt16) (v : UInt8) : Console :=
  if port == 0x00 then { c with quit := true }
  else if port == 0x01 then
    let ch := Char.ofNat v.toNat
    { c with message := c.message.push ch
             echoed := if c.echo then c.echoed.push ch else c.echoed }
  else if port == 0xFD then { c with requested := some .load }
  else if port == 0xFE then { c with requested := some .save }
  else c

def poll (c : Console) (cycles : Nat) : Request × Console :=
  if c.quit then (.quit, c)
  else
    match c.requested with
    | some r => (r, { c with requested := none })
    | none =>
      match c.saveAt with
      | some due => if due ≤ cycles then (.save, { c with saveAt := none }) else (.nothing, c)
      | none => (.nothing, c)

def rearm (c : Console) : Console := { c with quit := false, requested := none }

def takeMessage (c : Console) : String × Console := (c.message, { c with message := "" })

end Console

end Sim8080
