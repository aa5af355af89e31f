import Sim8080.Request

namespace Sim8080

/-- The timer device. -/
structure Timer where
  data : UInt8 := 0xAA
  periodNs : Nat := 1000000000
  lastFireNs : Nat := 0
  quit : Bool := false
  queued : List Request := []
  deriving Repr, Inhabited

namespace Timer

def new (periodNs : Nat) : Timer := { periodNs }

def read (t : Timer) (port : UInt16) : UInt8 := if port == 0x01 then t.data else 0

def write (t : Timer) (port : UInt16) (v : UInt8) : Timer :=
  if port == 0x00 then { t with quit := true }
  else if port == 0x01 then { t with data := v }
  else t

def raise (t : Timer) (r : Request) : Timer := { t with queued := t.queued ++ [r] }

def poll (t : Timer) (timeNs : Nat) : Request × Timer :=
  if t.quit then (.quit, t)
  else
    match t.queued with
    | r :: rest => (r, { t with queued := rest })
    | [] =>
      if timeNs - t.lastFireNs ≥ t.periodNs then (.restart 1, { t with lastFireNs := timeNs })
      else (.nothing, t)

end Timer

end Sim8080
