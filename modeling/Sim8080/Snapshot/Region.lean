import Sim8080.Memory

namespace Sim8080

inductive Compressor where
  | zlib
  | stored
  deriving Repr, DecidableEq, Inhabited

def Compressor.name : Compressor → String
  | zlib => "zlib"
  | stored => "none"

structure Region where
  offset : UInt16
  size : UInt32
  deriving Repr, DecidableEq, Inhabited

namespace Region

def isValid (r : Region) : Bool := r.offset.toNat + r.size.toNat ≤ addressSpace

-- the addresses of a region wrap at the top of memory, valid or not
def bytes (r : Region) (m : Memory) : List UInt8 := m.slice r.offset r.size.toNat

end Region

def hex4 (n : Nat) : String :=
  let ds := Nat.toDigits 16 n
  "0x" ++ String.ofList (List.replicate (4 - ds.length) '0' ++ ds)

def hex8 (n : Nat) : String :=
  let ds := Nat.toDigits 16 n
  "0x" ++ String.ofList (List.replicate (8 - ds.length) '0' ++ ds)

end Sim8080
