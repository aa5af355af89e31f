import Sim8080.Machine.Cpm
import Sim8080.Script.Machine

namespace Sim8080

namespace CpmSystem

def script (input : Json) : Json := Id.run do
  let files := Files.ofScript (input.listD "files")
  let echo := input.boolD "echo" false
  let s : CpmSystem Shelf := new Libraries.builtin {} echo
  let loaded : Except LoadError (CpmSystem Shelf) := match input.get? "file" with
    | some (.str path) => (s.loadFile files path).map fun (p : Nat × CpmSystem Shelf) => p.2
    | _ => s.loadProgram (input.bytesD "program")
  match loaded with
  | .error e => return e.toJson
  | .ok s =>
  let s := s.mapConsole fun c => { c with saveAt := (input.get? "save_at").bind Json.asNat? }
  let machine := match (Machine.onSave Shelf.saveHook).run s.machine with
    | (_, m) => m
  let s : CpmSystem Shelf := { machine }
  let options := match input.get? "options" with
    | none | some .null => none
    | some j => some (Machine.textOf j)
  let s ← match options with
    | none => pure s
    | some text =>
      match (Machine.setOptions files (some text)).run s.machine with
      | (.ok (), m) => pure { machine := m }
      | (.error e, _) => return e.toJson
  let (runs, s) := (List.range (input.natD "runs" 1)).foldl (fun (acc, s) (_ : Nat) =>
    match CpmSystem.run s Machine.scriptWall with
    | (.ok out, s) => (acc.push (Json.mkObj [("output", .str out)]), s)
    | (.error e, s) => (acc.push e.toJson, s)) ((#[] : Array Json), s)
  let m := s.machine
  let peek := match input.get? "peek" with
    | some p => Json.ofBytes (s.memory.slice (p.natD "addr" 0).toUInt16 (p.natD "len" 0))
    | none => .null
  let fields := [("runs", Json.arr runs), ("stats", m.context.stats.toJson),
    ("cpu", m.context.cpu.save.toJson), ("saves", .arr (m.world.slots.map Snapshot.summaryOfText)),
    ("peek", peek)]
  return .mkObj (if echo then fields ++ [("stdout", .str s.console.echoed)] else fields)

end CpmSystem

end Sim8080
