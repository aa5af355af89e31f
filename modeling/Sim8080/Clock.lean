
namespace Sim8080

def standardFrequency : Nat := 2000000

/-- Cycle counting and pacing. -/
structure Clock where
  periodNs : Nat
  resolution : Option Nat := none
  total : Nat := 0
  lastSync : Nat := 0
  deriving Repr, DecidableEq, Inhabited

/-- Why a resolution was refused. -/
inductive ClockError where
  | zeroResolution
  | zeroPeriod
  deriving Repr, DecidableEq

def ClockError.message : ClockError → String
  | .zeroResolution => "the clock resolution must be non-zero"
  | .zeroPeriod => "attempt to divide by zero"

namespace Clock

def new (frequency : Nat := standardFrequency) : Clock :=
  { periodNs := 1000000000 / max frequency 1 }

def setResolution (c : Clock) (ns : Int) : Except ClockError (Nat × Clock) :=
  if ns == 0 then .error .zeroResolution
  else if ns < 0 then .ok (0, { c with resolution := none })
  else if c.periodNs == 0 then .error .zeroPeriod
  else
    let ticks := max 1 (ns.toNat / c.periodNs)
    .ok (ticks, { c with resolution := some ticks })

def resolutionTicks (c : Clock) : Nat := c.resolution.getD 0

def isPaced (c : Clock) : Bool := c.resolution.isSome

def reset (c : Clock) : Clock := { c with total := 0, lastSync := 0 }

def sync (c : Clock) : Clock := { c with lastSync := c.total }

def tick (c : Clock) (n : Nat) : Clock :=
  let c := { c with total := c.total + n }
  match c.resolution with
  | some r => if c.total - c.lastSync ≥ r then c.sync else c
  | none => c

def emulatedNs (c : Clock) : Nat := c.total * c.periodNs

end Clock

end Sim8080
