import Sim8080.Command.Session
import Sim8080.Args.Parse
import Sim8080.Toml.Settings
import Sim8080.Archive.Zip
import Sim8080.Script.Machine

namespace Sim8080

namespace Command

def scratchSettings : String := "<tmp>/xdg/cadence/config.toml"

def outputReport (files : Files) (path : String) : Json :=
  match files.readText path with
  | .ok text => Snapshot.summaryOfText text
  | .error _ => .mkObj [("missing", .bool true)]

def script (input : Json) : Json :=
  let files := Files.ofScript (input.listD "files")
  let files := match input.get? "default_config" with
    | some (.str text) => files.addFile scratchSettings text.toUTF8
    | _ => files
  let words := (input.listD "args").filterMap Json.asString?
  let outputs (fs : Files) : List (String × Json) :=
    match input.get? "outputs" with
    | some (.arr paths) =>
      [("outputs", .arr (paths.map fun p => outputReport fs ((Json.asString? p).getD "")))]
    | _ => []
  match Args.parse words with
  | .error e =>
    .mkObj ([("error", .str "Clap"), ("kind", .str e.kind), ("message", .str e.message),
      ("stdout", .str ""), ("stderr", .str "")] ++ outputs files)
  | .ok args =>
    let env : Environment :=
      { files, defaultSettings := some scratchSettings, lib := Libraries.builtin
        readSettings := Settings.read, zip := ZipArchive.openEntries, wall := Machine.scriptWall }
    let t := Command.run env args
    let streams := [("stdout", Json.str t.stdout), ("stderr", .str ("\n".intercalate (t.stderr.map (·.render "<elapsed>" "<drift>"))))]
    match t.failure with
    | some msg =>
      .mkObj ([("error", .str "Run"), ("message", .str msg)] ++ streams ++ outputs t.files)
    | none => .mkObj ([("ok", .bool true)] ++ streams ++ outputs t.files)

end Command

end Sim8080
