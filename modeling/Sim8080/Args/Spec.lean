import Sim8080.Text.Numeral
import Sim8080.Text.Quoted

namespace Sim8080

/-- The arguments of the command, in the order the help text lists them. -/
inductive Arg where
  | program
  | loadAddress
  | start
  | exitAddress
  | controller
  | clockResolution
  | isrFreq
  | uncompressed
  | config
  | loadState
  | saveState
  | verbose
  | listControllers
  | help
  | version
  deriving Repr, DecidableEq, Inhabited

/-- How the value of an argument is read. -/
inductive ValueKind where
  | address
  | text
  | integer
  | real
  | path
  deriving Repr, DecidableEq, Inhabited

/-- What an argument does when it is given. -/
inductive ArgKind where
  | value (k : ValueKind)
  | switch
  | counter
  | help
  | version
  deriving Repr, DecidableEq, Inhabited

namespace Arg

def all : List Arg :=
  [program, loadAddress, start, exitAddress, controller, clockResolution, isrFreq, uncompressed,
   config, loadState, saveState, verbose, listControllers, help, version]

def kind : Arg → ArgKind
  | program | controller => .value .text
  | loadAddress | start | exitAddress => .value .address
  | clockResolution => .value .integer
  | isrFreq => .value .real
  | config | loadState | saveState => .value .path
  | uncompressed | listControllers => .switch
  | verbose => .counter
  | help => .help
  | version => .version

def long : Arg → Option String
  | program => none
  | loadAddress => some "load-address"
  | start => some "start"
  | exitAddress => some "exit-address"
  | controller => some "controller"
  | clockResolution => some "clock-resolution"
  | isrFreq => some "isr-freq"
  | uncompressed => some "uncompressed"
  | config => some "config"
  | loadState => some "load-state"
  | saveState => some "save-state"
  | verbose => some "verbose"
  | listControllers => some "list-controllers"
  | help => some "help"
  | version => some "version"

def short : Arg → Option Char
  | verbose => some 'v'
  | help => some 'h'
  | version => some 'V'
  | _ => none

def valueName : Arg → String
  | program => "PROGRAM"
  | loadAddress => "LOAD_ADDRESS"
  | start => "START"
  | exitAddress => "EXIT_ADDRESS"
  | controller => "CONTROLLER"
  | clockResolution => "CLOCK_RESOLUTION"
  | isrFreq => "ISR_FREQ"
  | config => "CONFIG"
  | loadState => "LOAD_STATE"
  | saveState => "SAVE_STATE"
  | _ => ""

def description : Arg → String
  | program => "Program image: a raw file, `archive.zip`, or `archive.zip:NAME`"
  | loadAddress => "Address the program is loaded at"
  | start => "Entry point (defaults to the load address)"
  | exitAddress => "Stop when PC reaches this address"
  | controller => "I/O controller name (see --list-controllers)"
  | clockResolution => "Emulated nanoseconds between syncs with real time; negative runs unpaced"
  | isrFreq => "Interrupt polls every ISR_FREQ * resolution cycles"
  | uncompressed => "Store snapshot memory without compression"
  | config => "Settings file (defaults to <config dir>/cadence/config.toml)"
  | loadState => "Restore this snapshot and resume instead of starting at --start"
  | saveState => "Write a snapshot here when the run ends"
  | verbose => "More log output (-v debug, -vv trace)"
  | listControllers => "List available I/O controllers and exit"
  | help => "Print help"
  | version => "Print version"

def takesHyphenValues : Arg → Bool
  | clockResolution => true
  | _ => false

def isPositional (a : Arg) : Bool := a.long.isNone

def takesValue (a : Arg) : Bool :=
  match a.kind with
  | .value _ => true
  | _ => false

def ofLong? (name : String) : Option Arg := all.find? (·.long == some name)

def ofShort? (c : Char) : Option Arg := all.find? (·.short == some c)

def render (a : Arg) (required : Bool) : String :=
  match a.long with
  | none => if required then "<" ++ a.valueName ++ ">" else "[" ++ a.valueName ++ "]"
  | some l =>
    match a.kind with
    | .value _ => "--" ++ l ++ " <" ++ a.valueName ++ ">"
    | .counter => "--" ++ l ++ "..."
    | _ => "--" ++ l

def name (a : Arg) : String := a.render false

end Arg

def readAddress (s : String) : Except String UInt16 :=
  let hex :=
    if s.startsWith "0x" || s.startsWith "0X" then some (s.drop 2).toString
    else if s.endsWith "h" || s.endsWith "H" then some (s.dropEnd 1).toString
    else none
  let value := match hex with
    | some digits => Numeral.readInteger digits 16 0 0xFFFF
    | none => Numeral.readInteger s 10 0 0xFFFF
  match value with
  | .ok n => .ok n.toNat.toUInt16
  | .error e => .error ("invalid address " ++ Text.quoted s ++ ": " ++ e.message)

/-- The values of the command line. -/
structure Args where
  program : Option String := none
  loadAddress : Option UInt16 := none
  start : Option UInt16 := none
  exitAddress : Option UInt16 := none
  controller : Option String := none
  clockResolution : Option Int := none
  isrFreq : Option Float := none
  uncompressed : Bool := false
  config : Option String := none
  loadState : Option String := none
  saveState : Option String := none
  verbose : Nat := 0
  listControllers : Bool := false
  deriving Inhabited

/-- Why a value was refused. -/
inductive ValueError where
  | empty
  | invalid (reason : String)
  deriving Repr, DecidableEq, Inhabited

namespace Args

def setValue (a : Args) (arg : Arg) (raw : String) : Except ValueError Args :=
  let address : Except ValueError UInt16 := (readAddress raw).mapError .invalid
  let path : Except ValueError String := if raw.isEmpty then .error .empty else .ok raw
  match arg with
  | .program => .ok { a with program := some raw }
  | .controller => .ok { a with controller := some raw }
  | .loadAddress => address.map fun v => { a with loadAddress := some v }
  | .start => address.map fun v => { a with start := some v }
  | .exitAddress => address.map fun v => { a with exitAddress := some v }
  | .clockResolution =>
    match Numeral.readInteger raw 10 (-9223372036854775808) 9223372036854775807 with
    | .ok v => .ok { a with clockResolution := some v }
    | .error e => .error (.invalid e.message)
  | .isrFreq =>
    match Numeral.readFloat raw with
    | .ok v => .ok { a with isrFreq := some v }
    | .error e => .error (.invalid e.message)
  | .config => path.map fun v => { a with config := some v }
  | .loadState => path.map fun v => { a with loadState := some v }
  | .saveState => path.map fun v => { a with saveState := some v }
  | _ => .ok a

def mark (a : Args) : Arg → Args
  | .uncompressed => { a with uncompressed := true }
  | .listControllers => { a with listControllers := true }
  | .verbose => { a with verbose := min 255 (a.verbose + 1) }
  | _ => a

end Args

end Sim8080
