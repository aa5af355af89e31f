import Sim8080.Cpu.Execute
import Sim8080.Json.Derived
import Sim8080.Trace
import Sim8080.Json.Access

namespace Sim8080

namespace Cpu

def toJson (c : Cpu) : Json :=
  .mkObj [("a", .ofNat c.a.toNat), ("b", .ofNat c.b.toNat), ("c", .ofNat c.c.toNat),
    ("d", .ofNat c.d.toNat), ("e", .ofNat c.e.toNat), ("h", .ofNat c.h.toNat),
    ("l", .ofNat c.l.toNat), ("f", .ofNat c.f.toNat), ("sp", .ofNat c.sp.toNat),
    ("pc", .ofNat c.pc.toNat), ("iff", .bool c.iff), ("halted", .bool c.halted),
    ("ei_delay", .bool c.eiDelay), ("pending", .ofNatOption (c.pending.map (·.val))),
    ("sleeping", .bool c.halted)]

def patch (s : Cpu) (j : Json) : Cpu :=
  let byte (k : String) (v : UInt8) : UInt8 := (((j.get? k).bind Json.asNat?).map Nat.toUInt8).getD v
  let word (k : String) (v : UInt16) : UInt16 :=
    (((j.get? k).bind Json.asNat?).map Nat.toUInt16).getD v
  let flag (k : String) (v : Bool) : Bool := ((j.get? k).bind Json.asBool?).getD v
  let s : Cpu :=
    { s with
      a := byte "a" s.a
      b := byte "b" s.b
      c := byte "c" s.c
      d := byte "d" s.d
      e := byte "e" s.e
      h := byte "h" s.h
      l := byte "l" s.l
      sp := word "sp" s.sp
      pc := word "pc" s.pc
      iff := flag "iff" s.iff
      halted := flag "halted" s.halted
      eiDelay := flag "ei_delay" s.eiDelay }
  match (j.get? "f").bind Json.asNat? with
  | some f => s.setFlags f.toUInt8
  | none => s

end Cpu

def BusCycle.toJson (b : BusCycle) : Json :=
  .arr #[.ofNat b.addr.toNat, .ofNat b.data.toNat, .str b.access.name]

def StepKind.name : StepKind → String
  | .executed => "Executed"
  | .interrupt => "Interrupt"
  | .idle => "Idle"

def Request.ofJson? (j : Json) : Option Request :=
  match j with
  | .str s => Request.ofName? s
  | _ => (Json.asNat? j).bind Request.ofRestart?

namespace Probe

abbrev Board := Sim8080.Board TraceBus

def poke (b : Board) (addr : Nat) (bytes : List UInt8) : Board :=
  { b with bus := { b.bus with memory := b.bus.memory.writeAll addr.toUInt16 bytes } }

def setPorts (b : Board) (port : Nat) (bytes : List UInt8) : Board :=
  { b with bus := bytes.zipIdx.foldl (fun t (v, i) => t.setPort (port + i).toUInt8 v) b.bus }

def setup (input : Json) : Board :=
  let b : Board := { cpu := Cpu.initial, bus := TraceBus.new (input.natD "fill" 0).toUInt8 }
  let b := (input.listD "mem").foldl (fun b p => match p with
    | .arr #[a, bs] => poke b ((Json.asNat? a).getD 0) ((Json.asBytes? bs).getD [])
    | _ => b) b
  let b := (input.listD "ports").foldl (fun b p => match p with
    | .arr #[a, bs] => setPorts b ((Json.asNat? a).getD 0) ((Json.asBytes? bs).getD [])
    | _ => b) b
  match input.get? "regs" with
  | some regs => { b with cpu := b.cpu.patch regs }
  | none => b

def single (b : Board) (plain : Bool) (withKind : Bool := true) : Json × Board :=
  let b := { b with bus := b.bus.clearLog }
  let (s, b) := (if plain then (do let n ← Board.execute; pure (Step.mk n .executed))
    else Board.step).run b
  let fields := [("cycles", Json.ofNat s.cycles), ("regs", b.cpu.toJson),
    ("bus", .arr (b.bus.log.map BusCycle.toJson))]
  (.mkObj (if withKind then ("kind", .str s.kind.name) :: fields else fields),
    { b with bus := b.bus.clearLog })

def batch (b : Board) (n : Nat) (plain : Bool) : Json × Board :=
  let (steps, b) := (List.range n).foldl (fun (acc, b) _ =>
    let (s, b) := (if plain then (do let c ← Board.execute; pure (Step.mk c .executed))
      else Board.step).run { b with bus := b.bus.clearLog }
    (acc.push s, b)) (#[], b)
  let count (k : StepKind) := (steps.filter (·.kind == k)).size
  let kinds := [StepKind.executed, .interrupt, .idle].filterMap fun k =>
    if count k > 0 then some (k.name, Json.ofNat (count k)) else none
  (.mkObj [("cycles_total", .ofNat (steps.foldl (· + ·.cycles) 0)), ("count", .ofNat n),
    ("kinds", .mkObj kinds), ("regs", b.cpu.toJson)], { b with bus := b.bus.clearLog })

def command (b : Board) (cmd : Json) : Json × Board :=
  let regs (b : Board) : Json × Board := (.mkObj [("regs", b.cpu.toJson)], b)
  let name := match cmd with
    | .str s => s
    | _ => cmd.stringD "do" ""
  let n := cmd.natD "n" 1
  match name with
  | "step" => if n == 1 then single b false else batch b n false
  | "execute" => if n == 1 then single b true else batch b n true
  | "step_cycles" => single b false false
  | "signal" =>
    match (cmd.get? "isr").bind Request.ofJson? with
    | some r => regs { b with cpu := b.cpu.signal r }
    | none => regs b
  | "reset" => regs { b with cpu := Cpu.reset (cmd.natD "pc" 0).toUInt16 }
  | "set" => regs { b with cpu := b.cpu.patch (cmd.field "regs") }
  | "set_flags" => regs { b with cpu := b.cpu.setFlags (cmd.natD "value" 0).toUInt8 }
  | "set_psw" =>
    let c := b.cpu.setPsw (cmd.natD "value" 0).toUInt16
    (.mkObj [("regs", c.toJson), ("psw", .ofNat c.psw.toNat), ("bc", .ofNat c.bc.toNat),
      ("de", .ofNat c.de.toNat), ("hl", .ofNat c.hl.toNat)], { b with cpu := c })
  | "snapshot" =>
    let st := b.cpu.save
    (.mkObj [("state", st.toJson), ("bytes", .ofBytes st.toBytes)], b)
  | "restore" =>
    let st := cmd.field "state"
    let byte (k : String) : UInt8 := (st.natD k 0).toUInt8
    let saved : SavedCpu :=
      { a := byte "a"
        b := byte "b"
        c := byte "c"
        d := byte "d"
        e := byte "e"
        h := byte "h"
        l := byte "l"
        f := byte "f"
        sp := (st.natD "sp" 0).toUInt16
        pc := (st.natD "pc" 0).toUInt16
        iff := st.boolD "iff" false
        halted := st.boolD "halted" false }
    regs { b with cpu := Cpu.ofSaved saved }
  | "peek" =>
    (.mkObj [("bytes", .ofBytes (b.bus.memory.slice (cmd.natD "addr" 0).toUInt16 (cmd.natD "len" 0)))], b)
  | other => (.mkObj [("error", .str "BadInput"), ("message", .str s!"unknown step {other}")], b)

def run (input : Json) : Json :=
  let (reports, _) := (input.listD "steps").foldl (fun (acc, b) cmd =>
    let (r, b) := command b cmd
    (acc.push r, b)) (#[], setup input)
  .mkObj [("steps", .arr reports)]

end Probe

end Sim8080
