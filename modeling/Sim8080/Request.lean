import Sim8080.Cpu.Registers

namespace Sim8080

/-- What a device asks of the machine when it is polled. -/
inductive Request where
  | restart (n : Restart)
  | load
  | save
  | quit
  | nothing
  deriving Repr, DecidableEq, Inhabited

namespace Request

def restartNames : List String := ["Zero", "One", "Two", "Three", "Four", "Five", "Six", "Seven"]

def name : Request → String
  | restart n => restartNames.getD n.val ""
  | load => "Load"
  | save => "Save"
  | quit => "Quit"
  | nothing => "NoInterrupt"

def ofRestart? (n : Nat) : Option Request :=
  if h : n < 8 then some (restart ⟨n, h⟩) else none

def ofName? (s : String) : Option Request :=
  match restartNames.idxOf? s with
  | some i => ofRestart? i
  | none =>
    match s with
    | "Load" => some load
    | "Save" => some save
    | "Quit" => some quit
    | "NoInterrupt" => some nothing
    | _ => none

def restart? : Request → Option Restart
  | restart n => some n
  | _ => none

def vector? (r : Request) : Option UInt16 := r.restart?.map fun n => n.val.toUInt16 * 8

end Request

end Sim8080
