import Sim8080.Args.Spec
import Sim8080.Command.Settings
import Sim8080.Command.Program
import Sim8080.Machine.Basic
import Sim8080.Memory.Load
import Sim8080.Device.Registry

namespace Sim8080

/-- What the command runs with besides its arguments: the files it can see, the libraries it is
built with (the TOML reader of settings and the zip reader besides the machine's), and the
real time of a run. -/
structure Environment where
  files : Files
  defaultSettings : Option String
  lib : Libraries
  readSettings : String → Except String Settings
  zip : ZipReader
  wall : Nat → Nat

/-- A line the command writes to standard error. -/
inductive Note where
  | text (line : String)
  | stopped (pc : UInt16) (instructions cycles : Nat)
  | drift
  deriving Inhabited

def hexWord (n : Nat) : String :=
  let ds := (Nat.toDigits 16 n).map Char.toUpper
  String.ofList (List.replicate (4 - ds.length) '0' ++ ds)

def Note.render (elapsed drift : String) : Note → String
  | .text line => line
  | .stopped pc instructions cycles =>
    "Stopped at PC=" ++ hexWord pc.toNat ++ " after " ++ toString instructions ++
      " instructions (" ++ toString cycles ++ " cycles) in " ++ elapsed
  | .drift => "Drift: " ++ drift

/-- What a run of the command printed and left behind. -/
structure Transcript where
  stdout : String := ""
  stderr : List Note := []
  files : Files
  failure : Option String := none

def Transcript.stdoutBytes (t : Transcript) : ByteArray :=
  ⟨(t.stdout.toList.map fun c => c.toNat.toUInt8).toArray⟩

abbrev CommandM := ExceptT String (StateM Transcript)

namespace Command

def print (s : String) : CommandM Unit := modify fun t => { t with stdout := t.stdout ++ s }

def note (n : Note) : CommandM Unit := modify fun t => { t with stderr := t.stderr ++ [n] }

def say (line : String) : CommandM Unit := note (.text line)

def attempt {α ε : Type} (message : ε → String) : Except ε α → CommandM α
  | .ok a => pure a
  | .error e => throw (message e)

def operate {α : Type} (m : Machine Unit) (op : MachineM Unit α) : CommandM (α × Machine Unit) :=
  match (ExceptT.run op).run m with
  | (.ok a, m) => pure (a, m)
  | (.error e, _) => throw e.message

def echoed (m : Machine Unit) : String :=
  match m.context.device with
  | some (.console c) => c.echoed
  | _ => ""

def padRight (s : String) (width : Nat) : String :=
  s ++ String.ofList (List.replicate (width - s.length) ' ')

def options (args : Args) (settings : Settings) : Options :=
  let o : Options := {}
  let o := match args.clockResolution <|> settings.clockResolution with
    | some r => { o with clockResolution := r }
    | none => o
  let o := match args.isrFreq <|> settings.isrFreq with
    | some f => { o with isrFreq := f }
    | none => o
  let o := { o with exitAddress := args.exitAddress <|> settings.exitAddress }
  if args.uncompressed then { o with compressor := .stored }
  else match settings.compressor with
    | some c => { o with compressor := c }
    | none => o

def device (entry : RegistryEntry) : Device :=
  match entry.kind with
  | .console => .console (Console.new true)
  | kind => Device.ofKind kind

def execute (env : Environment) (args : Args) : CommandM Unit := do
  if args.listControllers then
    for e in Registry.all do print (padRight e.name 8 ++ " " ++ e.description ++ "\n")
    return
  let settings ← attempt SettingsError.message (Settings.load env.readSettings env.files args.config env.defaultSettings)
  let name := (args.controller <|> settings.controller).getD "cpm"
  let some entry := Registry.find? name
    | throw ("unknown controller " ++ Text.quoted name ++ " (available: " ++ Registry.names ++ ")")
  let some target := args.program | throw "PROGRAM is required"
  let program ← attempt ProgramError.message (Program.load env.zip env.files target)
  let loadAddress := (args.loadAddress <|> settings.loadAddress).getD Console.programStart
  let blank := Memory.filled 0
  let base := if entry.kind == .console then Console.install blank else blank
  let memory ← attempt LoadError.message (base.load loadAddress program.toList)
  let options := options args settings
  let ((), m) ← operate (Machine.new env.lib ()) (Machine.setOptions env.files (some (env.lib.options.toText options)))
  let ((), m) ← operate m (Machine.setMemory (some memory))
  let ((), m) ← operate m (Machine.setDevice (some (device entry)))
  let m ← match args.loadState with
    | some path => do
      let text ← attempt IoError.message (env.files.readText path)
      let ((), m) ← operate m (Machine.load text)
      pure m
    | none => pure m
  let run : MachineM Unit Unit := match args.loadState with
    | some _ => Machine.resume env.wall
    | none => do let _ ← Machine.run (args.start.getD loadAddress) env.wall
  let (result, m) := (ExceptT.run run).run m
  print (echoed m)
  if let .error e := result then throw e.message
  let (stats, m) ← operate m Machine.stats
  let (cpu, m) ← operate m Machine.cpuState
  say ""
  note (.stopped cpu.pc stats.instructions stats.cycles)
  if options.clockResolution > 0 then note .drift
  if let some path := args.saveState then
    let (text, _) ← operate m Machine.save
    let files ← attempt IoError.message ((← get).files.write path text.toUTF8)
    modify fun t => { t with files }
    say ("Snapshot written to " ++ path)

end Command

def Command.run (env : Environment) (args : Args) : Transcript :=
  match (ExceptT.run (Command.execute env args)).run { files := env.files } with
  | (.ok (), t) => t
  | (.error msg, t) => { t with failure := some msg }

end Sim8080
