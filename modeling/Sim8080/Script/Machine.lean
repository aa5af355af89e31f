import Sim8080.Machine.Basic
import Sim8080.Script.Snapshot
import Sim8080.Script.Settings

namespace Sim8080

namespace MachineError

def toJson (e : MachineError) : Json := .failure e.kind e.message

end MachineError

def Stats.toJson (s : Stats) : Json :=
  .mkObj [("cycles", .ofNat s.cycles), ("instructions", .ofNat s.instructions),
    ("interrupts", .ofNat s.interrupts)]

namespace Device

def toJson : Device → Json
  | scripted s =>
    .mkObj [("kind", .str "script"), ("output", Json.ofBytes s.output.toList),
      ("writes", .arr (s.writes.map fun (p, v) => Json.arr #[.ofNat p.toNat, .ofNat v.toNat])),
      ("polls", .ofNat s.polls), ("poll_cycles", .arr (s.pollCycles.map Json.ofNat)),
      ("script_left", .ofNat s.script.length), ("quit", .bool s.quit)]
  | console c => .mkObj [("kind", .str "cpm"), ("message", .str c.message)]
  | timer t => .mkObj [("kind", .str "test"), ("device_data", .ofNat t.data.toNat)]

def requestOf (j : Json) : Request := (Request.ofJson? j).getD .nothing

def ofScript (step : Json) : Except Json Device :=
  match step.stringD "kind" "script" with
  | "cpm" => .ok (console { saveAt := (step.get? "save_at").bind Json.asNat? })
  | "test" =>
    let t := Timer.new (step.natD "period" (Nat.pow 2 64 - 1))
    .ok (timer ((step.listD "raise").foldl (fun t r => t.raise (requestOf r)) t))
  | "registry" =>
    let name := step.stringD "name" ""
    match Registry.find? name with
    | some e => .ok (ofKind e.kind)
    | none => .error (.failure "UnknownController" name)
  | _ =>
    let entry (e : Json) : Option (Nat × Request) := match e with
      | .arr #[c, r] => some ((Json.asNat? c).getD 0, requestOf r)
      | _ => none
    let input (e : Json) : Option (UInt16 × List UInt8) := match e with
      | .arr #[p, bs] => some (((Json.asNat? p).getD 0).toUInt16, (Json.asBytes? bs).getD [])
      | _ => none
    .ok (scripted { script := (step.listD "script").filterMap entry
                    inputs := (step.listD "inputs").filterMap input
                    pauseAt := (step.get? "hold_at_poll").bind Json.asNat?
                    failAt := (step.get? "panic_at_poll").bind Json.asNat? })

end Device

namespace Json

def patch (j : Json) (path : List Json) (v : Json) (remove : Bool) : Json :=
  match path, j with
  | [], _ => v
  | [.str k], .obj ms =>
    if remove then .obj (ms.filter (·.1 != k)) else .obj (insertMember ms k v)
  | [.num (.nat i)], .arr xs =>
    if remove then .arr (xs.extract 0 i)
    else if i < xs.size then .arr (xs.set! i v) else j
  | .str k :: rest, .obj ms =>
    match ms.find? (·.1 == k) with
    | some (_, c) => .obj (insertMember ms k (patch c rest v remove))
    | none => j
  | .num (.nat i) :: rest, .arr xs =>
    match xs[i]? with
    | some c => .arr (xs.set! i (patch c rest v remove))
    | none => j
  | _, _ => j

end Json

-- The state the hooks of a script share with the script: the slot list that saves append to
-- and loads read from, and how many of the saves were the save hook's.
structure Shelf where
  slots : Array String := #[]
  hookSaves : Nat := 0

namespace Shelf

def saveHook (w : Shelf) (text : String) : Shelf :=
  { w with slots := w.slots.push text, hookSaves := w.hookSaves + 1 }

def loadHook (answer : Shelf → Option String) (w : Shelf) : Option String × Shelf := (answer w, w)

end Shelf

namespace Machine

-- The runs of a script are short: the real time they take never reaches a timer's period.
def scriptWall : Nat → Nat := fun _ => 0

abbrev Scripted := ExceptT Json (StateM (Machine Shelf × Files))

def perform {α : Type} (op : MachineM Shelf α) (k : α → Json) : StateM (Machine Shelf × Files) Json :=
  modifyGet fun (m, fs) =>
    match op.run m with
    | (.ok a, m) => (k a, (m, fs))
    | (.error e, m) => (e.toJson, (m, fs))

def performRun {α : Type} (op : MachineM Shelf α) (k : α → Machine Shelf → Json) : Scripted Json := do
  let (m, fs) ← get
  match op.run m with
  | (.ok a, m) =>
    set (m, fs)
    pure (k a m)
  | (.error .deviceFailed, m) =>
    set (m, fs)
    throw (MachineError.deviceFailed.toJson)
  | (.error e, m) =>
    set (m, fs)
    pure e.toJson

def runReport (m : Machine Shelf) : Json :=
  let ctx := m.context
  .mkObj [("ok", .bool true), ("status", .str m.status.name), ("stats", ctx.stats.toJson),
    ("cpu", ctx.cpu.save.toJson), ("io", (ctx.device.map Device.toJson).getD .null)]

def ok : Json := .mkObj [("ok", .bool true)]

def textOf : Json → String
  | .str s => s
  | j => j.compact

def withMemory (f : Memory → Json × Memory) : Scripted Json := do
  let (m, fs) ← get
  match m.context.memory with
  | none => pure .null
  | some mem =>
    let (r, mem) := f mem
    set ({ m with context := { m.context with memory := some mem } }, fs)
    pure r

def withDevice (f : Device → Json × Device) : Scripted Json := do
  let (m, fs) ← get
  match m.context.device with
  | none => pure .null
  | some d =>
    let (r, d) := f d
    set ({ m with context := { m.context with device := some d } }, fs)
    pure r

def deviceCall (step : Json) (d : Device) : Except Json (Json × Device) :=
  let port := (step.natD "port" 0).toUInt16
  match step.stringD "call" "" with
  | "read" =>
    let (v, d) := d.read port
    .ok (.mkObj [("value", .ofNat v.toNat)], d)
  | "write" => .ok (ok, d.write port (step.natD "value" 0).toUInt8)
  | "service" =>
    match d.poll (step.natD "time" 0) (step.natD "cycles" 0) false with
    | (.answer r, d) => .ok (.mkObj [("isr", .str r.name)], d)
    | (.pause, d) => .ok (.mkObj [("isr", .str Request.nothing.name)], d)
    | (.failure, _) => .error MachineError.deviceFailed.toJson
  | "raise" =>
    match d with
    | .timer t => .ok (ok, .timer (t.raise (Device.requestOf (step.field "isr"))))
    | _ => .ok (.null, d)
  | c => .ok (.failure "BadInput" ("unknown call " ++ c), d)

def step (s : Json) : Scripted Json := do
  let pc := (s.natD "pc" 0).toUInt16
  match s.stringD "do" "" with
  | "memory" =>
    match Memory.ofScript s with
    | .error e => pure e.toJson
    | .ok mem => perform (setMemory (some mem)) fun _ => ok
  | "memory_none" => perform (setMemory none) fun _ => ok
  | "io_none" => perform (setDevice none) fun _ => ok
  | "io" =>
    match Device.ofScript s with
    | .error e => pure e
    | .ok d => perform (setDevice (some d)) fun _ => ok
  | "clock_resolution" => perform (setClockResolution (s.intD "ns" 0)) fun _ => ok
  | "set_options" =>
    let fs := (← get).2
    let text := match s.field "json" with
      | .null => none
      | j => some (textOf j)
    perform (setOptions fs text) fun _ => ok
  | "options" => perform options fun o => .mkObj [("options", o.toJson)]
  | "run" =>
    performRun (run pc scriptWall) fun background m =>
      if background then .mkObj [("ok", .bool true), ("async", .bool true), ("returned", .ofNat 0)]
      else runReport m
  | "resume" => performRun (resume scriptWall) fun _ m => runReport m
  | "run_async" => perform (runAsync pc scriptWall) fun _ => ok
  | "hold" => perform hold fun _ => ok
  | "release" => perform release fun _ => ok
  | "wait" => performRun (do release; waitForCompletion) fun _ m => runReport m
  | "await_blocked" =>
    let m := (← get).1
    pure (.mkObj [("blocked", .bool (m.worker matches some (.paused ..)))])
  | "await_stopped" =>
    let _ ← perform release fun _ => .null
    pure (.mkObj [("status", .str (← get).1.status.name)])
  | "status" => pure (.mkObj [("status", .str (← get).1.status.name)])
  | "save" =>
    let (m, fs) ← get
    match save.run m with
    | (.ok text, m) =>
      set ({ m with world := { m.world with slots := m.world.slots.push text } }, fs)
      match Snapshot.summaryOfText text with
      | .obj ms => pure (.obj (Json.insertMember ms "slot" (.ofNat m.world.slots.size)))
      | j => pure j
    | (.error e, m) =>
      set (m, fs)
      pure e.toJson
  | "slot" =>
    let m := (← get).1
    pure (match m.world.slots[s.natD "slot" 0]? with
      | some text => Snapshot.summaryOfText text
      | none => .null)
  | "slots" =>
    let m := (← get).1
    pure (.mkObj [("count", .ofNat m.world.slots.size), ("hook_saves", .ofNat m.world.hookSaves)])
  | "load" =>
    let m := (← get).1
    let text := match s.get? "json" with
      | some j => some (textOf j)
      | none =>
        (m.world.slots[s.natD "slot" 0]?).map fun text =>
          match (s.listD "patch"), Json.parse text with
          | [], _ => text
          | patches, .ok doc =>
            (patches.foldl (fun doc p => match p with
              | .arr #[.arr path, v] => doc.patch path.toList v false
              | .arr #[.arr path, v, .str "remove"] => doc.patch path.toList v true
              | _ => doc) doc).compact
          | _, .error _ => text
    match text with
    | some t => perform (load t) fun _ => ok
    | none => pure (.failure "BadInput" "no such slot")
  | "on_save" => perform (onSave Shelf.saveHook) fun _ => ok
  | "on_load" =>
    let answer : Shelf → Option String := match s.get? "json", (s.get? "slot").bind Json.asNat? with
      | some j, _ => fun _ => some (textOf j)
      | none, some n => fun w => w.slots[n]?
      | none, none => fun _ => none
    perform (onLoad (Shelf.loadHook answer)) fun _ => ok
  | "state" => perform cpuState fun st => .mkObj [("bytes", Json.ofBytes st.toBytes)]
  | "cpu_state" => perform cpuState SavedCpu.toJson
  | "stats" => perform stats Stats.toJson
  | "peek" =>
    withMemory fun mem =>
      (.mkObj [("bytes", Json.ofBytes (mem.slice (s.natD "addr" 0).toUInt16 (s.natD "len" 0)))], mem)
  | "poke" =>
    withMemory fun mem =>
      match mem.load (s.natD "addr" 0).toUInt16 (s.bytesD "bytes") with
      | .ok mem => (ok, mem)
      | .error e => (e.toJson, mem)
  | "clear" => withMemory fun _ => (ok, Memory.filled 0)
  | "mem_service" => withMemory fun mem => (.mkObj [("isr", .str Request.nothing.name)], mem)
  | "load_file" =>
    let fs := (← get).2
    withMemory fun mem =>
      match mem.loadFile fs (s.stringD "path" "") (s.natD "offset" 0).toUInt16 with
      | .ok (n, mem) => (.mkObj [("loaded", .ofNat n)], mem)
      | .error e => (e.toJson, mem)
  | "io_state" => withDevice fun d => (d.toJson, d)
  | "take_message" =>
    withDevice fun d => match d with
      | .console c =>
        let (msg, c) := c.takeMessage
        (.mkObj [("message", .str msg)], .console c)
      | d => (.null, d)
  | "rearm" =>
    withDevice fun d => match d with
      | .console c => (ok, .console c.rearm)
      | d => (.null, d)
  | "io_call" =>
    let (m, fs) ← get
    match m.context.device with
    | none => pure .null
    | some d =>
      match deviceCall s d with
      | .ok (r, d) =>
        set ({ m with context := { m.context with device := some d } }, fs)
        pure r
      | .error e => throw e
  | d => pure (.failure "BadInput" ("unknown step " ++ d))

def script (input : Json) : Json :=
  let files := Files.ofScript (input.listD "files")
  let steps := input.listD "steps"
  let run : Scripted (Array Json) := steps.foldlM (fun acc s => do return acc.push (← step s)) #[]
  match (run.run (Machine.new Libraries.builtin {}, files)).1 with
  | .ok answers => .mkObj [("steps", .arr answers)]
  | .error e => e

end Machine

end Sim8080
