import Sim8080.Json.Schema
import Sim8080.Cpu.Execute
import Sim8080.Trace
import Sim8080.Json.Access

namespace Sim8080

/-- A processor state in a test case. -/
structure CaseState where
  pc : UInt16
  sp : UInt16
  a : UInt8
  b : UInt8
  c : UInt8
  d : UInt8
  e : UInt8
  h : UInt8
  l : UInt8
  f : UInt8
  iff : Bool
  ram : List (UInt16 × UInt8)
  deriving Repr, DecidableEq, Inhabited

/-- A single-step test case. -/
structure TestCase where
  name : String
  initial : CaseState
  final : CaseState
  tStates : Nat
  cycles : List (UInt16 × UInt8 × String)
  ports : List (UInt8 × UInt8)
  deriving Repr, Inhabited

namespace CaseState

def u8 : Json.Schema := .unsigned "u8" 255
def u16 : Json.Schema := .unsigned "u16" 65535

def schema : Json.Schema :=
  .struct "I8080CpuState"
    ([("pc", false, u16), ("sp", false, u16)] ++
      (["a", "b", "c", "d", "e", "h", "l", "f"].map fun n => (n, false, u8)) ++
      [("iff", false, .boolean), ("ram", false, .list (.tuple [u16, u8]))])

def ofJson (j : Json) : CaseState :=
  let byte (k : String) := (j.natD k 0).toUInt8
  { pc := (j.natD "pc" 0).toUInt16, sp := (j.natD "sp" 0).toUInt16
    a := byte "a", b := byte "b", c := byte "c", d := byte "d", e := byte "e", h := byte "h"
    l := byte "l", f := byte "f", iff := j.boolD "iff" false
    ram := (j.listD "ram").map fun p => match p with
      | .arr #[x, y] => (((Json.asNat? x).getD 0).toUInt16, ((Json.asNat? y).getD 0).toUInt8)
      | _ => (0, 0) }

def capture (cpu : Cpu) (ram : List (UInt16 × UInt8)) : CaseState :=
  { pc := cpu.pc, sp := cpu.sp, a := cpu.a, b := cpu.b, c := cpu.c, d := cpu.d, e := cpu.e
    h := cpu.h, l := cpu.l, f := cpu.f, iff := cpu.iff, ram }

def apply (st : CaseState) (cpu : Cpu) (m : Memory) : Cpu × Memory :=
  let cpu := { cpu with pc := st.pc, sp := st.sp, a := st.a, b := st.b, c := st.c, d := st.d
                        e := st.e, h := st.h, l := st.l, iff := st.iff }
  (cpu.setFlags st.f, st.ram.foldl (fun m (a, v) => m.write a v) m)

end CaseState

namespace TestCase

def fileSchema : Json.Schema :=
  .list (.struct "I8080TestCase"
    [("name", false, .string), ("initial", false, CaseState.schema),
     ("final", false, CaseState.schema), ("t_states", false, CaseState.u8),
     ("cycles", false, .list (.tuple [CaseState.u16, CaseState.u8, .string])),
     ("ports", true, .list (.tuple [CaseState.u8, CaseState.u8]))])

def ofJson (j : Json) : TestCase :=
  let pair (p : Json) : List Nat := match p with
    | .arr xs => xs.toList.map fun x => (Json.asNat? x).getD 0
    | _ => []
  { name := j.stringD "name" "", initial := CaseState.ofJson (j.field "initial")
    final := CaseState.ofJson (j.field "final"), tStates := j.natD "t_states" 0
    cycles := (j.listD "cycles").map fun p => match p with
      | .arr #[x, y, .str s] => (((Json.asNat? x).getD 0).toUInt16, ((Json.asNat? y).getD 0).toUInt8, s)
      | _ => (0, 0, "")
    ports := (j.listD "ports").map fun p => match pair p with
      | [x, y] => (x.toUInt8, y.toUInt8)
      | _ => (0, 0) }

/-- What running a case came to. -/
structure Outcome where
  final : CaseState
  tStates : Nat
  cycles : List BusCycle
  pass : Bool

def run (preload : List (UInt16 × List UInt8)) (tc : TestCase) : Outcome :=
  let bus := TraceBus.new 0
  let m := preload.foldl (fun m (a, bs) => m.writeAll a bs) bus.memory
  let (cpu, m) := tc.initial.apply Cpu.initial m
  let bus := tc.ports.foldl (fun t (p, v) => t.setPort p v) { bus with memory := m }
  let (step, board) := Board.step.run ⟨cpu, bus⟩
  let ram := tc.final.ram.map fun (a, _) => (a, board.bus.memory.read a)
  let final := CaseState.capture board.cpu ram
  let log := board.bus.log.toList
  let expected := tc.final
  let same := final.pc == expected.pc && final.sp == expected.sp && final.a == expected.a &&
    final.b == expected.b && final.c == expected.c && final.d == expected.d &&
    final.e == expected.e && final.h == expected.h && final.l == expected.l &&
    final.f == expected.f && final.iff == expected.iff && ram == expected.ram &&
    step.cycles == tc.tStates && log.length == tc.cycles.length &&
    (log.zip tc.cycles).all fun (x, (a, d, op)) => x.addr == a && x.data == d && x.access.name == op
  { final, tStates := step.cycles, cycles := log, pass := same }

end TestCase

end Sim8080
