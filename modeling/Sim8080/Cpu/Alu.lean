import Sim8080.Cpu.Instruction

namespace Sim8080.Alu

/-- A result byte with the status byte that goes with it. -/
structure Result where
  value : UInt8
  flags : UInt8
  deriving Repr, DecidableEq

def add (a v : UInt8) (carry : Bool) : Result :=
  let cin : Nat := if carry then 1 else 0
  let r := a + v + (if carry then 1 else 0)
  { value := r
    flags := Flags.ofResult r
      ||| Flag.auxCarry.bitIf ((a &&& 0x0F).toNat + (v &&& 0x0F).toNat + cin > 0x0F)
      ||| Flag.carry.bitIf (a.toNat + v.toNat + cin > 0xFF) }

def sub (a v : UInt8) (borrow : Bool) : Result :=
  let bin : Nat := if borrow then 1 else 0
  let r := a - v - (if borrow then 1 else 0)
  { value := r
    flags := Flags.ofResult r
      ||| Flag.auxCarry.bitIf ((a &&& 0x0F).toNat + ((~~~v) &&& 0x0F).toNat + (1 - bin) > 0x0F)
      ||| Flag.carry.bitIf (a.toNat < v.toNat + bin) }

def apply (op : AluOp) (a v : UInt8) (carry : Bool) : Result :=
  match op with
  | .add => add a v false
  | .adc => add a v carry
  | .sub => sub a v false
  | .sbb => sub a v carry
  | .ana =>
    let r := a &&& v
    { value := r, flags := Flags.ofResult r ||| Flag.auxCarry.bitIf ((a ||| v) &&& 0x08 != 0) }
  | .xra => let r := a ^^^ v; { value := r, flags := Flags.ofResult r }
  | .ora => let r := a ||| v; { value := r, flags := Flags.ofResult r }
  | .cmp => { sub a v false with value := a }

def increment (v f : UInt8) : Result :=
  let r := v + 1
  { value := r
    flags := Flags.ofResult r ||| (f &&& Flag.carry.mask) ||| Flag.auxCarry.bitIf (r &&& 0x0F == 0) }

def decrement (v f : UInt8) : Result :=
  let r := v - 1
  { value := r
    flags := Flags.ofResult r ||| (f &&& Flag.carry.mask)
      ||| Flag.auxCarry.bitIf (r &&& 0x0F != 0x0F) }

def decimalAdjust (a f : UInt8) : Result :=
  let lsb := a &&& 0x0F
  let msb := a >>> 4
  let carryIn := f &&& Flag.carry.mask != 0
  let auxIn := f &&& Flag.auxCarry.mask != 0
  let high := carryIn || msb > 9 || (msb ≥ 9 && lsb > 9)
  let corr : UInt8 := (if auxIn || lsb > 9 then 0x06 else 0) ||| (if high then 0x60 else 0)
  let r := a + corr
  { value := r
    flags := Flags.ofResult r
      ||| Flag.auxCarry.bitIf ((a &&& 0x0F).toNat + (corr &&& 0x0F).toNat > 0x0F)
      ||| Flag.carry.bitIf high }

def rotate (k : Rotation) (a : UInt8) (carry : Bool) : UInt8 × Bool :=
  let cin : UInt8 := if carry then 1 else 0
  match k with
  | .rlc => ((a <<< 1) ||| (a >>> 7), a &&& 0x80 != 0)
  | .rrc => ((a >>> 1) ||| (a <<< 7), a &&& 0x01 != 0)
  | .ral => ((a <<< 1) ||| cin, a &&& 0x80 != 0)
  | .rar => ((a >>> 1) ||| (cin <<< 7), a &&& 0x01 != 0)

end Sim8080.Alu
