import Mathlib
import Sim8080.Cpu.Execute

namespace Sim8080.Datasheet

open Board

def register (n : Nat) : Operand :=
  [.reg .b, .reg .c, .reg .d, .reg .e, .reg .h, .reg .l, .mem, .reg .a].getD n .mem

def registerPair (n : Nat) : Pair := [.bc, .de, .hl, .sp].getD n .sp

def stackPair (n : Nat) : StackPair := [.bc, .de, .hl, .psw].getD n .psw

def operation (n : Nat) : AluOp := [.add, .adc, .sub, .sbb, .ana, .xra, .ora, .cmp].getD n .cmp

def condition (n : Nat) : Cond := [.nz, .z, .nc, .c, .po, .pe, .p, .m].getD n .m

def rotation (n : Nat) : Rotation := [.rlc, .rrc, .ral, .rar].getD n .rar

def decode (op : UInt8) : Instr :=
  let x := op.toNat / 64
  let y := op.toNat / 8 % 8
  let z := op.toNat % 8
  let p := y / 2
  let q := y % 2
  match x, z with
  | 0, 0 => .nop
  | 0, 1 => if q = 0 then .lxi (registerPair p) else .dad (registerPair p)
  | 0, 2 =>
    match q, p with
    | 0, 2 => .shld
    | 0, 3 => .sta
    | 0, _ => .stax (registerPair p)
    | _, 2 => .lhld
    | _, 3 => .lda
    | _, _ => .ldax (registerPair p)
  | 0, 3 => if q = 0 then .inx (registerPair p) else .dcx (registerPair p)
  | 0, 4 => .inr (register y)
  | 0, 5 => .dcr (register y)
  | 0, 6 => .mvi (register y)
  | 0, _ =>
    match y with
    | 4 => .daa
    | 5 => .cma
    | 6 => .stc
    | 7 => .cmc
    | _ => .rotate (rotation y)
  | 1, _ => if y = 6 ∧ z = 6 then .hlt else .mov (register y) (register z)
  | 2, _ => .alu (operation y) (register z)
  | _, 0 => .retIf (condition y)
  | _, 1 =>
    if q = 0 then .pop (stackPair p)
    else
      match p with
      | 0 | 1 => .ret
      | 2 => .pchl
      | _ => .sphl
  | _, 2 => .jmpIf (condition y)
  | _, 3 =>
    match y with
    | 0 | 1 => .jmp
    | 2 => .out
    | 3 => .inp
    | 4 => .xthl
    | 5 => .xchg
    | 6 => .di
    | _ => .ei
  | _, 4 => .callIf (condition y)
  | _, 5 => if q = 0 then .push (stackPair p) else .call
  | _, 6 => .aluImm (operation y)
  | _, _ => .rst ⟨y % 8, Nat.mod_lt _ (by decide)⟩

def length : Instr → Nat
  | .mvi _ | .aluImm _ | .inp | .out => 2
  | .lxi _ | .lhld | .shld | .lda | .sta | .jmp | .jmpIf _ | .call | .callIf _ => 3
  | _ => 1

def bit (v : UInt8) (n : Nat) : Bool := v.toNat.testBit n

def flagByte (s z ac p cy : Bool) : UInt8 :=
  UInt8.ofNat (128 * s.toNat + 64 * z.toNat + 16 * ac.toNat + 4 * p.toNat + 2 + cy.toNat)

def evenParity (v : Nat) : Bool := (List.range 8).countP v.testBit % 2 == 0

def resultFlags (r : Nat) (ac cy : Bool) : UInt8 :=
  flagByte ((r % 256).testBit 7) (r % 256 == 0) ac (evenParity (r % 256)) cy

def withCarry (f : UInt8) (cy : Bool) : UInt8 := flagByte (bit f 7) (bit f 6) (bit f 4) (bit f 2) cy

def holds (cc : Cond) (f : UInt8) : Bool :=
  match cc with
  | .nz => !bit f 6
  | .z => bit f 6
  | .nc => !bit f 0
  | .c => bit f 0
  | .po => !bit f 2
  | .pe => bit f 2
  | .p => !bit f 7
  | .m => bit f 7

def alu (op : AluOp) (a v : UInt8) (cy : Bool) : UInt8 × UInt8 :=
  let a := a.toNat
  let v := v.toNat
  let add (c : Nat) : UInt8 × UInt8 :=
    (UInt8.ofNat (a + v + c), resultFlags (a + v + c) (a % 16 + v % 16 + c ≥ 16) (a + v + c ≥ 256))
  let sub (c : Nat) : UInt8 × UInt8 :=
    (UInt8.ofNat (a + 256 - v - c),
      resultFlags (a + 256 - v - c) (a % 16 + (15 - v % 16) + (1 - c) ≥ 16) (a < v + c))
  match op with
  | .add => add 0
  | .adc => add cy.toNat
  | .sub => sub 0
  | .sbb => sub cy.toNat
  | .ana => (UInt8.ofNat (a &&& v), resultFlags (a &&& v) ((a ||| v).testBit 3) false)
  | .xra => (UInt8.ofNat (a ^^^ v), resultFlags (a ^^^ v) false false)
  | .ora => (UInt8.ofNat (a ||| v), resultFlags (a ||| v) false false)
  | .cmp => (UInt8.ofNat a, (sub 0).2)

def increment (v f : UInt8) : UInt8 × UInt8 :=
  let r := v.toNat + 1
  (UInt8.ofNat r, resultFlags r (r % 16 == 0) (bit f 0))

def decrement (v f : UInt8) : UInt8 × UInt8 :=
  let r := v.toNat + 255
  (UInt8.ofNat r, resultFlags r (r % 16 != 15) (bit f 0))

def decimalAdjust (a f : UInt8) : UInt8 × UInt8 :=
  let a := a.toNat
  let low := if a % 16 > 9 ∨ bit f 4 then 6 else 0
  let high := if (a + low) / 16 > 9 ∨ bit f 0 then 0x60 else 0
  let r := a + low + high
  (UInt8.ofNat r, resultFlags r (a % 16 + low ≥ 16) (bit f 0 ∨ r ≥ 256))

def rotate (k : Rotation) (a : UInt8) (cy : Bool) : UInt8 × Bool :=
  let a := a.toNat
  match k with
  | .rlc => (UInt8.ofNat (2 * a + a / 128), a ≥ 128)
  | .rrc => (UInt8.ofNat (a / 2 + 128 * (a % 2)), a % 2 == 1)
  | .ral => (UInt8.ofNat (2 * a + cy.toNat), a ≥ 128)
  | .rar => (UInt8.ofNat (a / 2 + 128 * cy.toNat), a % 2 == 1)

def pairValue (s : Cpu) : Pair → UInt16
  | .bc => Word.ofBytes s.b s.c
  | .de => Word.ofBytes s.d s.e
  | .hl => Word.ofBytes s.h s.l
  | .sp => s.sp

def setPairBytes (s : Cpu) : Pair → UInt8 → UInt8 → Cpu
  | .bc, h, l => { s with b := h, c := l }
  | .de, h, l => { s with d := h, e := l }
  | .hl, h, l => { s with h, l }
  | .sp, h, l => { s with sp := Word.ofBytes h l }

def setPairValue (s : Cpu) (p : Pair) (w : UInt16) : Cpu := setPairBytes s p (Word.hi w) (Word.lo w)

def stackBytes (s : Cpu) : StackPair → UInt8 × UInt8
  | .bc => (s.b, s.c)
  | .de => (s.d, s.e)
  | .hl => (s.h, s.l)
  | .psw => (s.a, s.f)

def setStackBytes (s : Cpu) : StackPair → UInt8 → UInt8 → Cpu
  | .bc, h, l => { s with b := h, c := l }
  | .de, h, l => { s with d := h, e := l }
  | .hl, h, l => { s with h, l }
  | .psw, h, l => { s with a := h, f := flagByte (bit l 7) (bit l 6) (bit l 4) (bit l 2) (bit l 0) }

variable {β : Type} [Bus β]

def load : Operand → BoardM β UInt8
  | .reg r => return (← cpuState).reg r
  | .mem => do read (← cpuState).hl

def store : Operand → UInt8 → BoardM β Unit
  | .reg r, v => modifyCpu (·.setReg r v)
  | .mem, v => do write (← cpuState).hl v

def callTo (target : UInt16) : BoardM β Unit := do
  let s ← cpuState
  write (s.sp - 1) (Word.hi s.pc)
  write (s.sp - 2) (Word.lo s.pc)
  modifyCpu ({ · with sp := s.sp - 2, pc := target })

def returnFromStack : BoardM β Unit := do
  let s ← cpuState
  let l ← read s.sp
  let h ← read (s.sp + 1)
  modifyCpu ({ · with sp := s.sp + 2, pc := Word.ofBytes h l })

def transfer (i : Instr) (b2 b3 : UInt8) : BoardM β Nat := do
  let s ← cpuState
  let adr := Word.ofBytes b3 b2
  match i with
  | .nop => return 4
  | .hlt => modifyCpu ({ · with halted := true }); return 7
  | .mov dst src =>
    let v ← load src
    store dst v
    return if dst = .mem ∨ src = .mem then 7 else 5
  | .mvi dst => store dst b2; return if dst = .mem then 10 else 7
  | .lxi p => modifyCpu (setPairBytes · p b3 b2); return 10
  | .lda => let v ← read adr; modifyCpu ({ · with a := v }); return 13
  | .sta => write adr s.a; return 13
  | .lhld =>
    let l ← read adr
    let h ← read (adr + 1)
    modifyCpu ({ · with h, l })
    return 16
  | .shld => write adr s.l; write (adr + 1) s.h; return 16
  | .ldax p => let v ← read (pairValue s p); modifyCpu ({ · with a := v }); return 7
  | .stax p => write (pairValue s p) s.a; return 7
  | .xchg => modifyCpu ({ · with d := s.h, e := s.l, h := s.d, l := s.e }); return 4
  | .alu op src =>
    let v ← load src
    let (r, f) := alu op s.a v (bit s.f 0)
    modifyCpu ({ · with a := r, f })
    return if src = .mem then 7 else 4
  | .aluImm op =>
    let (r, f) := alu op s.a b2 (bit s.f 0)
    modifyCpu ({ · with a := r, f })
    return 7
  | .inr o =>
    let v ← load o
    let (r, f) := increment v s.f
    store o r
    modifyCpu ({ · with f })
    return if o = .mem then 10 else 5
  | .dcr o =>
    let v ← load o
    let (r, f) := decrement v s.f
    store o r
    modifyCpu ({ · with f })
    return if o = .mem then 10 else 5
  | .inx p => modifyCpu (setPairValue · p (pairValue s p + 1)); return 5
  | .dcx p => modifyCpu (setPairValue · p (pairValue s p - 1)); return 5
  | .dad p =>
    let sum := (pairValue s .hl).toNat + (pairValue s p).toNat
    modifyCpu fun c =>
      { c with h := Word.hi (UInt16.ofNat sum), l := Word.lo (UInt16.ofNat sum),
               f := withCarry s.f (sum ≥ 65536) }
    return 10
  | .daa =>
    let (r, f) := decimalAdjust s.a s.f
    modifyCpu ({ · with a := r, f })
    return 4
  | .rotate k =>
    let (r, cy) := rotate k s.a (bit s.f 0)
    modifyCpu ({ · with a := r, f := withCarry s.f cy })
    return 4
  | .cma => modifyCpu ({ · with a := UInt8.ofNat (255 - s.a.toNat) }); return 4
  | .stc => modifyCpu ({ · with f := withCarry s.f true }); return 4
  | .cmc => modifyCpu ({ · with f := withCarry s.f !(bit s.f 0) }); return 4
  | .jmp => modifyCpu ({ · with pc := adr }); return 10
  | .jmpIf cc =>
    if holds cc s.f then modifyCpu ({ · with pc := adr })
    return 10
  | .call => callTo adr; return 17
  | .callIf cc => if holds cc s.f then do callTo adr; return 17 else return 11
  | .ret => returnFromStack; return 10
  | .retIf cc => if holds cc s.f then do returnFromStack; return 11 else return 5
  | .rst n => callTo (UInt16.ofNat (8 * n.val)); return 11
  | .pchl => modifyCpu ({ · with pc := pairValue s .hl }); return 5
  | .sphl => modifyCpu ({ · with sp := pairValue s .hl }); return 5
  | .push p =>
    let (h, l) := stackBytes s p
    write (s.sp - 1) h
    write (s.sp - 2) l
    modifyCpu ({ · with sp := s.sp - 2 })
    return 11
  | .pop p =>
    let l ← read s.sp
    let h ← read (s.sp + 1)
    modifyCpu (setStackBytes { · with sp := s.sp + 2 } p h l)
    return 10
  | .xthl =>
    let l ← read s.sp
    let h ← read (s.sp + 1)
    write (s.sp + 1) s.h
    write s.sp s.l
    modifyCpu ({ · with h, l })
    return 18
  | .inp => let v ← input b2; modifyCpu ({ · with a := v }); return 10
  | .out => output b2 s.a; return 10
  | .ei => modifyCpu ({ · with iff := true, eiDelay := true }); return 4
  | .di => modifyCpu ({ · with iff := false }); return 4

def execute : BoardM β Nat := do
  let pc := (← cpuState).pc
  let i := decode (← read pc)
  let b2 ← if 2 ≤ length i then read (pc + 1) else pure 0
  let b3 ← if length i = 3 then read (pc + 2) else pure 0
  modifyCpu ({ · with pc := pc + UInt16.ofNat (length i) })
  transfer i b2 b3

end Sim8080.Datasheet
