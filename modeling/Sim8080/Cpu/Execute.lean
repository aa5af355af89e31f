import Sim8080.Cpu.Alu
import Sim8080.Bus
import Sim8080.Request

namespace Sim8080

/-- A processor and the bus it is wired to. -/
structure Board (β : Type) where
  cpu : Cpu
  bus : β

abbrev BoardM (β : Type) := StateM (Board β)

/-- What a step of the processor did. -/
inductive StepKind where
  | executed
  | interrupt
  | idle
  deriving Repr, DecidableEq, Inhabited

/-- A step and the cycles it took. -/
structure Step where
  cycles : Nat
  kind : StepKind
  deriving Repr, DecidableEq, Inhabited

def interruptCycles : Nat := 11

def idleCycles : Nat := 4

namespace Cpu

def signal (s : Cpu) (r : Request) : Cpu :=
  match r.restart? with
  | some n => { s with pending := some n }
  | none => s

end Cpu

namespace Board

variable {β : Type} [Bus β]

def cpuState : BoardM β Cpu := return (← get).cpu

def modifyCpu (f : Cpu → Cpu) : BoardM β Unit := modify fun s => { s with cpu := f s.cpu }

def read (addr : UInt16) : BoardM β UInt8 :=
  modifyGet fun s => let (v, bus) := Bus.read s.bus addr; (v, { s with bus })

def write (addr : UInt16) (v : UInt8) : BoardM β Unit :=
  modify fun s => { s with bus := Bus.write s.bus addr v }

def input (port : UInt8) : BoardM β UInt8 :=
  modifyGet fun s => let (v, bus) := Bus.input s.bus port; (v, { s with bus })

def output (port v : UInt8) : BoardM β Unit :=
  modify fun s => { s with bus := Bus.output s.bus port v }

def readWord (addr : UInt16) : BoardM β UInt16 := do
  let lo ← read addr
  let hi ← read (addr + 1)
  return Word.ofBytes hi lo

def writeWord (addr w : UInt16) : BoardM β Unit := do
  write addr (Word.lo w)
  write (addr + 1) (Word.hi w)

def push (w : UInt16) : BoardM β Unit := do
  modifyCpu fun c => { c with sp := c.sp - 1 }
  write (← cpuState).sp (Word.hi w)
  modifyCpu fun c => { c with sp := c.sp - 1 }
  write (← cpuState).sp (Word.lo w)

def pop : BoardM β UInt16 := do
  let w ← readWord (← cpuState).sp
  modifyCpu fun c => { c with sp := c.sp + 2 }
  return w

def readOperand : Operand → BoardM β UInt8
  | .reg r => return (← cpuState).reg r
  | .mem => do read (← cpuState).hl

def writeOperand : Operand → UInt8 → BoardM β Unit
  | .reg r, v => modifyCpu (·.setReg r v)
  | .mem, v => do write (← cpuState).hl v

def accumulate (op : AluOp) (v : UInt8) : BoardM β Unit :=
  modifyCpu fun c =>
    let r := Alu.apply op c.a v (c.flag .carry)
    { c with a := r.value }.setFlags r.flags

def updateOperand (o : Operand) (f : UInt8 → UInt8 → Alu.Result) : BoardM β Unit := do
  let v ← readOperand o
  let r := f v (← cpuState).f
  writeOperand o r.value
  modifyCpu (·.setFlags r.flags)

def perform (i : Instr) (data : UInt16) : BoardM β Bool := do
  let c ← cpuState
  match i with
  | .nop => return true
  | .hlt => modifyCpu ({ · with halted := true }); return true
  | .lxi p => modifyCpu (·.setPair p data); return true
  | .stax p => write (c.pair p) c.a; return true
  | .ldax p => let v ← read (c.pair p); modifyCpu ({ · with a := v }); return true
  | .shld => writeWord data c.hl; return true
  | .lhld => let w ← readWord data; modifyCpu (·.setHL w); return true
  | .sta => write data c.a; return true
  | .lda => let v ← read data; modifyCpu ({ · with a := v }); return true
  | .inx p => modifyCpu (·.setPair p (c.pair p + 1)); return true
  | .dcx p => modifyCpu (·.setPair p (c.pair p - 1)); return true
  | .dad p =>
    let sum := c.hl.toNat + (c.pair p).toNat
    modifyCpu fun c => (c.setHL (c.hl + c.pair p)).setFlag .carry (sum > 0xFFFF)
    return true
  | .inr o => updateOperand o Alu.increment; return true
  | .dcr o => updateOperand o Alu.decrement; return true
  | .mvi o => writeOperand o (Word.lo data); return true
  | .rotate k =>
    let (r, carry) := Alu.rotate k c.a (c.flag .carry)
    modifyCpu fun c => { c with a := r }.setFlag .carry carry
    return true
  | .daa =>
    let r := Alu.decimalAdjust c.a c.f
    modifyCpu fun c => { c with a := r.value }.setFlags r.flags
    return true
  | .cma => modifyCpu ({ · with a := ~~~c.a }); return true
  | .stc => modifyCpu (·.setFlag .carry true); return true
  | .cmc => modifyCpu (·.setFlag .carry !(c.flag .carry)); return true
  | .mov dst src => let v ← readOperand src; writeOperand dst v; return true
  | .alu op src => let v ← readOperand src; accumulate op v; return true
  | .aluImm op => accumulate op (Word.lo data); return true
  | .ret => let w ← pop; modifyCpu ({ · with pc := w }); return true
  | .jmp => modifyCpu ({ · with pc := data }); return true
  | .call => push c.pc; modifyCpu ({ · with pc := data }); return true
  | .out => output (Word.lo data) c.a; return true
  | .inp => let v ← input (Word.lo data); modifyCpu ({ · with a := v }); return true
  | .xthl =>
    let top ← readWord c.sp
    writeWord c.sp c.hl
    modifyCpu (·.setHL top)
    return true
  | .pchl => modifyCpu ({ · with pc := c.hl }); return true
  | .xchg => modifyCpu fun c => (c.setDE c.hl).setHL c.de; return true
  | .di => modifyCpu ({ · with iff := false }); return true
  | .sphl => modifyCpu ({ · with sp := c.hl }); return true
  | .ei => modifyCpu ({ · with iff := true, eiDelay := true }); return true
  | .retIf cond =>
    if cond.holds c.f then
      let w ← pop
      modifyCpu ({ · with pc := w })
      return true
    else return false
  | .pop p => let w ← pop; modifyCpu (·.setStackPair p w); return true
  | .jmpIf cond =>
    if cond.holds c.f then
      modifyCpu ({ · with pc := data })
      return true
    else return false
  | .callIf cond =>
    if cond.holds c.f then
      push c.pc
      modifyCpu ({ · with pc := data })
      return true
    else return false
  | .push p => push (c.stackPair p); return true
  | .rst n => push c.pc; modifyCpu ({ · with pc := n.val.toUInt16 * 8 }); return true

def execute : BoardM β Nat := do
  let pc := (← cpuState).pc
  let op ← read pc
  let i := Instr.decode op
  let data : UInt16 ← match i.size with
    | 1 => pure 0
    | 2 => do
      let v ← read (pc + 1)
      pure v.toUInt16
    | _ => readWord (pc + 1)
  modifyCpu ({ · with pc := pc + i.size.toUInt16 })
  let taken ← perform i data
  return if taken then i.cycles else i.cyclesNotTaken

def acknowledge : BoardM β (Option Nat) := do
  let c ← cpuState
  if c.eiDelay then
    modifyCpu ({ · with eiDelay := false })
    return none
  else if !c.iff then
    return none
  else
    match c.pending with
    | none => return none
    | some n =>
      modifyCpu ({ · with pending := none, iff := false, halted := false })
      push c.pc
      modifyCpu ({ · with pc := n.val.toUInt16 * 8 })
      return some interruptCycles

def step : BoardM β Step := do
  match ← acknowledge with
  | some cycles => return ⟨cycles, .interrupt⟩
  | none =>
    let c ← cpuState
    if c.halted then
      return ⟨idleCycles, .idle⟩
    else
      let cycles ← execute
      return ⟨cycles, .executed⟩

end Board

end Sim8080
