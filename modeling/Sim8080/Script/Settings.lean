import Sim8080.Builtin
import Sim8080.Clock
import Sim8080.Device.Registry
import Sim8080.Json.Access
import Sim8080.Json.Write

namespace Sim8080

namespace Files

def ofScript (entries : List Json) : Files :=
  entries.foldl (fun fs e => match e with
    | .arr #[.str path, content] =>
      match content with
      | .str _ => fs.addFile path ⟨((Json.asBytes? content).getD []).toArray⟩
      | .obj _ =>
        if content.boolD "dir" false then fs.addDir path
        else fs.addFile path (content.stringD "text" "").toUTF8
      | _ => fs
    | _ => fs) {}

end Files

namespace OptionsError

def toJson (e : OptionsError) : Json := .failure ("Options." ++ e.kind) e.message

end OptionsError

namespace Options

def script (input : Json) : Json :=
  let files := Files.ofScript (input.listD "files")
  let fresh := input.boolD "fresh" false
  let (results, _) := (input.listD "merges").foldl (fun (acc, o) m =>
    match m with
    | .null => (acc.push (.mkObj [("options", Options.toJson {})]), ({} : Options))
    | _ =>
      let text := match m with
        | .str s => s
        | j => Json.compact j
      let base : Options := if fresh then {} else o
      match base.merge Libraries.builtin.parse Options.jsonCodec files text with
      | .ok next =>
        let fields := [("options", next.toJson)]
        let fields := if fresh then fields ++ [("validate", .bool (next.validate matches .ok _))]
          else fields
        (acc.push (.mkObj fields), if fresh then o else next)
      | .error e => (acc.push e.toJson, o)) (#[], ({} : Options))
  .mkObj [("results", .arr results)]

end Options

namespace Clock

def report (c : Clock) (result : Json) : Json :=
  .mkObj [("result", result), ("period_ns", .ofNat c.periodNs),
    ("resolution_ticks", .ofNat c.resolutionTicks), ("paced", .bool c.isPaced),
    ("total_ticks", .ofNat c.total), ("emulated_ns", .ofNat c.emulatedNs)]

def script (input : Json) : Json :=
  let c := Clock.new (input.natD "freq" standardFrequency)
  let step (c : Clock) (s : Json) : Except ClockError (Json × Clock) :=
    match s.stringD "do" "" with
    | "resolution" =>
      match c.setResolution (s.intD "ns" 0) with
      | .ok (t, c) => .ok (c.report (.ofNat t), c)
      | .error .zeroResolution =>
        .ok (c.report (.failure "ClockResolution" ClockError.zeroResolution.message), c)
      | .error e => .error e
    | "tick" => let c := c.tick (s.natD "n" 0); .ok (c.report .null, c)
    | "reset" => let c := c.reset; .ok (c.report .null, c)
    | "sync" => let c := c.sync; .ok (c.report .null, c)
    | _ => .ok (c.report .null, c)
  let run := (input.listD "steps").foldlM (fun (acc, c) s => do
    let (r, c) ← step c s
    pure (acc.push r, c)) (#[], c)
  match run with
  | .ok (steps, _) => .mkObj [("steps", .arr steps)]
  | .error e => .failure "panic" e.message

end Clock

namespace Registry

def entryJson (e : RegistryEntry) : Json :=
  .mkObj [("name", .str e.name), ("description", .str e.description)]

def script (input : Json) : Json :=
  .mkObj [("all", .arr (all.map entryJson).toArray),
    ("find", .ofStringOption ((find? (input.stringD "find" "")).map (·.name)))]

end Registry

end Sim8080
