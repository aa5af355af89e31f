import Sim8080.Cpu.Registers

namespace Sim8080

/-- The eight accumulator operations of the arithmetic group. -/
inductive AluOp where
  | add | adc | sub | sbb | ana | xra | ora | cmp
  deriving Repr, DecidableEq

/-- The four accumulator rotations. -/
inductive Rotation where
  | rlc | rrc | ral | rar
  deriving Repr, DecidableEq

/-- A branch condition on the flags. -/
inductive Cond where
  | nz | z | nc | c | po | pe | p | m
  deriving Repr, DecidableEq

namespace AluOp

def ofCode (code : UInt8) : AluOp :=
  match code &&& 7 with
  | 0 => add
  | 1 => adc
  | 2 => sub
  | 3 => sbb
  | 4 => ana
  | 5 => xra
  | 6 => ora
  | _ => cmp

def code : AluOp → UInt8
  | add => 0
  | adc => 1
  | sub => 2
  | sbb => 3
  | ana => 4
  | xra => 5
  | ora => 6
  | cmp => 7

def name : AluOp → String
  | add => "ADD"
  | adc => "ADC"
  | sub => "SUB"
  | sbb => "SBB"
  | ana => "ANA"
  | xra => "XRA"
  | ora => "ORA"
  | cmp => "CMP"

def immediateName : AluOp → String
  | add => "ADI"
  | adc => "ACI"
  | sub => "SUI"
  | sbb => "SBI"
  | ana => "ANI"
  | xra => "XRI"
  | ora => "ORI"
  | cmp => "CPI"

end AluOp

namespace Rotation

def ofCode (code : UInt8) : Rotation :=
  match code &&& 3 with
  | 0 => rlc
  | 1 => rrc
  | 2 => ral
  | _ => rar

def code : Rotation → UInt8
  | rlc => 0
  | rrc => 1
  | ral => 2
  | rar => 3

def name : Rotation → String
  | rlc => "RLC"
  | rrc => "RRC"
  | ral => "RAL"
  | rar => "RAR"

end Rotation

namespace Cond

def ofCode (code : UInt8) : Cond :=
  match code &&& 7 with
  | 0 => nz
  | 1 => z
  | 2 => nc
  | 3 => c
  | 4 => po
  | 5 => pe
  | 6 => p
  | _ => m

def code : Cond → UInt8
  | nz => 0
  | z => 1
  | nc => 2
  | c => 3
  | po => 4
  | pe => 5
  | p => 6
  | m => 7

def name : Cond → String
  | nz => "NZ"
  | z => "Z"
  | nc => "NC"
  | c => "C"
  | po => "PO"
  | pe => "PE"
  | p => "P"
  | m => "M"

def holds (cond : Cond) (f : UInt8) : Bool :=
  let isSet (fl : Flag) := f &&& fl.mask != 0
  match cond with
  | nz => !isSet .zero
  | z => isSet .zero
  | nc => !isSet .carry
  | c => isSet .carry
  | po => !isSet .parity
  | pe => isSet .parity
  | p => !isSet .sign
  | m => isSet .sign

end Cond

/-- A decoded instruction. -/
inductive Instr where
  | nop
  | hlt
  | lxi (p : Pair)
  | stax (p : Pair)
  | ldax (p : Pair)
  | shld
  | lhld
  | sta
  | lda
  | inx (p : Pair)
  | dcx (p : Pair)
  | dad (p : Pair)
  | inr (o : Operand)
  | dcr (o : Operand)
  | mvi (o : Operand)
  | rotate (k : Rotation)
  | daa
  | cma
  | stc
  | cmc
  | mov (dst src : Operand)
  | alu (op : AluOp) (src : Operand)
  | aluImm (op : AluOp)
  | ret
  | jmp
  | call
  | out
  | inp
  | xthl
  | pchl
  | xchg
  | di
  | sphl
  | ei
  | retIf (cond : Cond)
  | pop (p : StackPair)
  | jmpIf (cond : Cond)
  | callIf (cond : Cond)
  | push (p : StackPair)
  | rst (n : Restart)
  deriving Repr, DecidableEq

namespace Instr

def decode (op : UInt8) : Instr :=
  let mid := op >>> 3
  let pair := Pair.ofCode (op >>> 4)
  if op &&& 0xC7 == 0x00 then nop
  else if op == 0x76 then hlt
  else if op &&& 0xCF == 0x01 then lxi pair
  else if op == 0x02 || op == 0x12 then stax pair
  else if op == 0x0A || op == 0x1A then ldax pair
  else if op == 0x22 then shld
  else if op == 0x2A then lhld
  else if op == 0x32 then sta
  else if op == 0x3A then lda
  else if op &&& 0xCF == 0x03 then inx pair
  else if op &&& 0xCF == 0x0B then dcx pair
  else if op &&& 0xCF == 0x09 then dad pair
  else if op &&& 0xC7 == 0x04 then inr (Operand.ofCode mid)
  else if op &&& 0xC7 == 0x05 then dcr (Operand.ofCode mid)
  else if op &&& 0xC7 == 0x06 then mvi (Operand.ofCode mid)
  else if op &&& 0xE7 == 0x07 then rotate (Rotation.ofCode mid)
  else if op == 0x27 then daa
  else if op == 0x2F then cma
  else if op == 0x37 then stc
  else if op == 0x3F then cmc
  else if op &&& 0xC0 == 0x40 then mov (Operand.ofCode mid) (Operand.ofCode op)
  else if op &&& 0xC0 == 0x80 then alu (AluOp.ofCode mid) (Operand.ofCode op)
  else if op == 0xC9 || op == 0xD9 then ret
  else if op == 0xC3 || op == 0xCB then jmp
  else if op &&& 0xCF == 0xCD then call
  else if op == 0xD3 then out
  else if op == 0xDB then inp
  else if op == 0xE3 then xthl
  else if op == 0xE9 then pchl
  else if op == 0xEB then xchg
  else if op == 0xF3 then di
  else if op == 0xF9 then sphl
  else if op == 0xFB then ei
  else if op &&& 0xC7 == 0xC0 then retIf (Cond.ofCode mid)
  else if op &&& 0xCF == 0xC1 then pop (StackPair.ofCode (op >>> 4))
  else if op &&& 0xC7 == 0xC2 then jmpIf (Cond.ofCode mid)
  else if op &&& 0xC7 == 0xC4 then callIf (Cond.ofCode mid)
  else if op &&& 0xCF == 0xC5 then push (StackPair.ofCode (op >>> 4))
  else if op &&& 0xC7 == 0xC6 then aluImm (AluOp.ofCode mid)
  else rst ⟨(mid &&& 7).toNat % 8, Nat.mod_lt _ (by decide)⟩

def encode : Instr → UInt8
  | nop => 0x00
  | hlt => 0x76
  | lxi p => (0x01 : UInt8) ||| (p.code <<< 4)
  | stax p => (0x02 : UInt8) ||| (p.code <<< 4)
  | ldax p => (0x0A : UInt8) ||| (p.code <<< 4)
  | shld => 0x22
  | lhld => 0x2A
  | sta => 0x32
  | lda => 0x3A
  | inx p => (0x03 : UInt8) ||| (p.code <<< 4)
  | dcx p => (0x0B : UInt8) ||| (p.code <<< 4)
  | dad p => (0x09 : UInt8) ||| (p.code <<< 4)
  | inr o => (0x04 : UInt8) ||| (o.code <<< 3)
  | dcr o => (0x05 : UInt8) ||| (o.code <<< 3)
  | mvi o => (0x06 : UInt8) ||| (o.code <<< 3)
  | rotate k => (0x07 : UInt8) ||| (k.code <<< 3)
  | daa => 0x27
  | cma => 0x2F
  | stc => 0x37
  | cmc => 0x3F
  | mov dst src => (0x40 : UInt8) ||| (dst.code <<< 3) ||| src.code
  | alu op src => (0x80 : UInt8) ||| (op.code <<< 3) ||| src.code
  | aluImm op => (0xC6 : UInt8) ||| (op.code <<< 3)
  | ret => 0xC9
  | jmp => 0xC3
  | call => 0xCD
  | out => 0xD3
  | inp => 0xDB
  | xthl => 0xE3
  | pchl => 0xE9
  | xchg => 0xEB
  | di => 0xF3
  | sphl => 0xF9
  | ei => 0xFB
  | retIf cond => (0xC0 : UInt8) ||| (cond.code <<< 3)
  | pop p => (0xC1 : UInt8) ||| (p.code <<< 4)
  | jmpIf cond => (0xC2 : UInt8) ||| (cond.code <<< 3)
  | callIf cond => (0xC4 : UInt8) ||| (cond.code <<< 3)
  | push p => (0xC5 : UInt8) ||| (p.code <<< 4)
  | rst n => (0xC7 : UInt8) ||| (n.val.toUInt8 <<< 3)

def size : Instr → Nat
  | lxi _ | shld | lhld | sta | lda | jmp | call | jmpIf _ | callIf _ => 3
  | mvi _ | aluImm _ | out | inp => 2
  | _ => 1

def cycles : Instr → Nat
  | nop => 4
  | hlt => 7
  | lxi _ => 10
  | stax _ | ldax _ => 7
  | shld | lhld => 16
  | sta | lda => 13
  | inx _ | dcx _ => 5
  | dad _ => 10
  | inr .mem | dcr .mem | mvi .mem => 10
  | inr _ | dcr _ => 5
  | mvi _ => 7
  | rotate _ | daa | cma | stc | cmc => 4
  | mov .mem _ | mov _ .mem => 7
  | mov _ _ => 5
  | alu _ .mem => 7
  | alu _ _ => 4
  | aluImm _ => 7
  | ret => 10
  | jmp => 10
  | call => 17
  | out | inp => 10
  | xthl => 18
  | pchl => 5
  | xchg => 4
  | di | ei => 4
  | sphl => 5
  | retIf _ => 11
  | pop _ => 10
  | jmpIf _ => 10
  | callIf _ => 17
  | push _ => 11
  | rst _ => 11

def cyclesNotTaken : Instr → Nat
  | retIf _ => 5
  | callIf _ => 11
  | i => i.cycles

def mnemonic : Instr → String
  | nop => "NOP"
  | hlt => "HLT"
  | lxi p => s!"LXI {p.name},d16"
  | stax p => s!"STAX {p.name}"
  | ldax p => s!"LDAX {p.name}"
  | shld => "SHLD a16"
  | lhld => "LHLD a16"
  | sta => "STA a16"
  | lda => "LDA a16"
  | inx p => s!"INX {p.name}"
  | dcx p => s!"DCX {p.name}"
  | dad p => s!"DAD {p.name}"
  | inr o => s!"INR {o.name}"
  | dcr o => s!"DCR {o.name}"
  | mvi o => s!"MVI {o.name},d8"
  | rotate k => k.name
  | daa => "DAA"
  | cma => "CMA"
  | stc => "STC"
  | cmc => "CMC"
  | mov dst src => s!"MOV {dst.name},{src.name}"
  | alu op src => s!"{op.name} {src.name}"
  | aluImm op => s!"{op.immediateName} d8"
  | ret => "RET"
  | jmp => "JMP a16"
  | call => "CALL a16"
  | out => "OUT d8"
  | inp => "IN d8"
  | xthl => "XTHL"
  | pchl => "PCHL"
  | xchg => "XCHG"
  | di => "DI"
  | sphl => "SPHL"
  | ei => "EI"
  | retIf cond => s!"R{cond.name}"
  | pop p => s!"POP {p.name}"
  | jmpIf cond => s!"J{cond.name} a16"
  | callIf cond => s!"C{cond.name} a16"
  | push p => s!"PUSH {p.name}"
  | rst n => s!"RST {n.val}"

end Instr

/-- An entry of the opcode table. -/
structure OpcodeInfo where
  mnemonic : String
  size : Nat
  cycles : Nat
  cyclesNotTaken : Nat
  deriving Repr, DecidableEq

namespace OpcodeInfo

def ofOpcode (op : UInt8) : OpcodeInfo :=
  let i := Instr.decode op
  { mnemonic := (if i.encode == op then "" else "*") ++ i.mnemonic
    size := i.size
    cycles := i.cycles
    cyclesNotTaken := i.cyclesNotTaken }

def documented (info : OpcodeInfo) : Bool := !info.mnemonic.startsWith "*"

def conditional (info : OpcodeInfo) : Bool := info.cycles != info.cyclesNotTaken

end OpcodeInfo

end Sim8080
