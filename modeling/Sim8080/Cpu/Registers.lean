import Sim8080.Cpu.Flags
import Sim8080.Cpu.Word

namespace Sim8080

/-- A byte register. -/
inductive Reg where
  | b | c | d | e | h | l | a
  deriving Repr, DecidableEq

/-- A byte operand: a register, or the memory byte addressed by `HL`. -/
inductive Operand where
  | reg (r : Reg)
  | mem
  deriving Repr, DecidableEq

/-- A register pair as named by data instructions. -/
inductive Pair where
  | bc | de | hl | sp
  deriving Repr, DecidableEq

/-- A register pair as named by `PUSH` and `POP`, where the fourth pair is `PSW`. -/
inductive StackPair where
  | bc | de | hl | psw
  deriving Repr, DecidableEq

abbrev Restart := Fin 8

namespace Operand

def ofCode (code : UInt8) : Operand :=
  match code &&& 7 with
  | 0 => reg .b
  | 1 => reg .c
  | 2 => reg .d
  | 3 => reg .e
  | 4 => reg .h
  | 5 => reg .l
  | 6 => mem
  | _ => reg .a

def name : Operand → String
  | reg .b => "B"
  | reg .c => "C"
  | reg .d => "D"
  | reg .e => "E"
  | reg .h => "H"
  | reg .l => "L"
  | reg .a => "A"
  | mem => "M"

def code : Operand → UInt8
  | reg .b => 0
  | reg .c => 1
  | reg .d => 2
  | reg .e => 3
  | reg .h => 4
  | reg .l => 5
  | mem => 6
  | reg .a => 7

end Operand

namespace Pair

def ofCode (code : UInt8) : Pair :=
  match code &&& 3 with
  | 0 => bc
  | 1 => de
  | 2 => hl
  | _ => sp

def name : Pair → String
  | bc => "B"
  | de => "D"
  | hl => "H"
  | sp => "SP"

def code : Pair → UInt8
  | bc => 0
  | de => 1
  | hl => 2
  | sp => 3

end Pair

namespace StackPair

def ofCode (code : UInt8) : StackPair :=
  match code &&& 3 with
  | 0 => bc
  | 1 => de
  | 2 => hl
  | _ => psw

def name : StackPair → String
  | bc => "B"
  | de => "D"
  | hl => "H"
  | psw => "PSW"

def code : StackPair → UInt8
  | bc => 0
  | de => 1
  | hl => 2
  | psw => 3

end StackPair

/-- Registers and interrupt state of the processor.

`iff` enables interrupts, `eiDelay` holds off their acknowledgement for the one instruction
after `EI`, and `pending` is the restart that a device has requested and that waits to be
acknowledged. -/
structure Cpu where
  a : UInt8 := 0
  b : UInt8 := 0
  c : UInt8 := 0
  d : UInt8 := 0
  e : UInt8 := 0
  h : UInt8 := 0
  l : UInt8 := 0
  f : UInt8 := Flags.fixed
  sp : UInt16 := 0
  pc : UInt16 := 0
  iff : Bool := false
  halted : Bool := false
  eiDelay : Bool := false
  pending : Option Restart := none
  deriving Repr, DecidableEq, Inhabited

namespace Cpu

def initial : Cpu := {}

def reset (pc : UInt16) : Cpu := { pc }

def bc (s : Cpu) : UInt16 := Word.ofBytes s.b s.c
def de (s : Cpu) : UInt16 := Word.ofBytes s.d s.e
def hl (s : Cpu) : UInt16 := Word.ofBytes s.h s.l
def psw (s : Cpu) : UInt16 := Word.ofBytes s.a s.f

def setBC (s : Cpu) (w : UInt16) : Cpu := { s with b := Word.hi w, c := Word.lo w }
def setDE (s : Cpu) (w : UInt16) : Cpu := { s with d := Word.hi w, e := Word.lo w }
def setHL (s : Cpu) (w : UInt16) : Cpu := { s with h := Word.hi w, l := Word.lo w }

def setFlags (s : Cpu) (v : UInt8) : Cpu := { s with f := Flags.normalize v }

def setPsw (s : Cpu) (w : UInt16) : Cpu := { s with a := Word.hi w }.setFlags (Word.lo w)

def flag (s : Cpu) (fl : Flag) : Bool := s.f &&& fl.mask != 0

def setFlag (s : Cpu) (fl : Flag) (on : Bool) : Cpu :=
  { s with f := if on then s.f ||| fl.mask else s.f &&& ~~~fl.mask }

def reg (s : Cpu) : Reg → UInt8
  | .b => s.b
  | .c => s.c
  | .d => s.d
  | .e => s.e
  | .h => s.h
  | .l => s.l
  | .a => s.a

def setReg (s : Cpu) (r : Reg) (v : UInt8) : Cpu :=
  match r with
  | .b => { s with b := v }
  | .c => { s with c := v }
  | .d => { s with d := v }
  | .e => { s with e := v }
  | .h => { s with h := v }
  | .l => { s with l := v }
  | .a => { s with a := v }

def pair (s : Cpu) : Pair → UInt16
  | .bc => s.bc
  | .de => s.de
  | .hl => s.hl
  | .sp => s.sp

def setPair (s : Cpu) (p : Pair) (w : UInt16) : Cpu :=
  match p with
  | .bc => s.setBC w
  | .de => s.setDE w
  | .hl => s.setHL w
  | .sp => { s with sp := w }

def stackPair (s : Cpu) : StackPair → UInt16
  | .bc => s.bc
  | .de => s.de
  | .hl => s.hl
  | .psw => s.psw

def setStackPair (s : Cpu) (p : StackPair) (w : UInt16) : Cpu :=
  match p with
  | .bc => s.setBC w
  | .de => s.setDE w
  | .hl => s.setHL w
  | .psw => s.setPsw w

end Cpu

end Sim8080
