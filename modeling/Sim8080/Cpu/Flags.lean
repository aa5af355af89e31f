
namespace Sim8080

/-- A condition flag, named by what it records about the last result. -/
inductive Flag where
  | carry
  | parity
  | auxCarry
  | zero
  | sign
  deriving Repr, DecidableEq

namespace Flag

def mask : Flag → UInt8
  | carry => 0x01
  | parity => 0x04
  | auxCarry => 0x10
  | zero => 0x40
  | sign => 0x80

def bitIf (flag : Flag) (on : Bool) : UInt8 := if on then flag.mask else 0

end Flag

namespace Flags

def writable : UInt8 := 0xD7

def fixed : UInt8 := 0x02

def normalize (v : UInt8) : UInt8 := (v &&& writable) ||| fixed

def evenParity (v : UInt8) : Bool :=
  let x := v ^^^ (v >>> 4)
  let x := x ^^^ (x >>> 2)
  let x := x ^^^ (x >>> 1)
  x &&& 1 == 0

def ofResult (r : UInt8) : UInt8 :=
  Flag.zero.bitIf (r == 0) ||| Flag.sign.bitIf (r &&& 0x80 != 0) ||| Flag.parity.bitIf (evenParity r)

end Flags

end Sim8080
