import Sim8080.Command.Session
import Sim8080.Args.Parse
import Sim8080.Toml.Settings
import Sim8080.Archive.Zip
import Sim8080.Builtin
import Sim8080.Text.Duration

namespace Sim8080

namespace Cli

def gather (fs : Files) (path : String) : IO Files := do
  try
    let bytes ← IO.FS.readBinFile path
    pure (fs.addFile path bytes)
  catch _ =>
    try
      let _ ← IO.FS.Handle.mk path .read
      pure (fs.addDir path)
    catch _ => pure fs

def configDir : IO (Option String) := do
  match ← IO.getEnv "XDG_CONFIG_HOME" with
  | some dir => if dir.startsWith "/" then return some dir else pure ()
  | none => pure ()
  return (← IO.getEnv "HOME").map (· ++ "/.config")

def parentOf (path : String) : Option String :=
  match (path.splitOn "/").dropLast with
  | [] => none
  | [""] => some "/"
  | parts => some ("/".intercalate parts)

def execute (args : Args) : IO UInt32 := do
  let defaultSettings := (← configDir).map (· ++ "/cadence/config.toml")
  let reads := [args.config <|> defaultSettings,
    args.program.map fun p => ((Program.splitArchive? p).map (·.1)).getD p,
    args.loadState, args.saveState.bind parentOf]
  let mut files : Files := {}
  for path in reads.filterMap id do
    files ← gather files path
  let start ← IO.monoNanosNow
  -- the run is computed before it is timed, so the device sees the time the processor would
  -- take at its own rate
  let wall (cycles : Nat) : Nat := cycles * Clock.new.periodNs
  let env : Environment := { files, defaultSettings, lib := Libraries.builtin
                             readSettings := Settings.read, zip := ZipArchive.openEntries, wall }
  let t ← IO.lazyPure fun _ => Command.run env args
  let elapsed := (← IO.monoNanosNow) - start
  let stdout ← IO.getStdout
  stdout.write t.stdoutBytes
  stdout.flush
  for n in t.stderr do
    IO.eprintln (n.render (Duration.text elapsed) (Duration.text 0))
  match t.failure with
  | some msg =>
    IO.eprintln ("Error: " ++ msg)
    return 1
  | none =>
    if let some path := args.saveState then
      if let .ok bytes := t.files.read path then IO.FS.writeBinFile path bytes
    return 0

end Cli

end Sim8080

open Sim8080 in
def main (words : List String) : IO UInt32 := do
  match Args.parse words with
  | .ok args => Cli.execute args
  | .error e =>
    match e with
    | .help | .version =>
      IO.print e.message
      return 0
    | _ =>
      IO.eprint e.message
      return 2
