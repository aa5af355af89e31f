import Sim8080.Cpu.Instruction
import Sim8080.Request
import Sim8080.Json.Access

namespace Sim8080

namespace OpcodeInfo

def recordText (info : OpcodeInfo) : String :=
  "Instruction \x7b mnemonic: \"" ++ info.mnemonic ++ "\", size: " ++ toString info.size ++
    ", cycles: " ++ toString info.cycles ++ ", cycles_not_taken: " ++
    toString info.cyclesNotTaken ++ " \x7d"

def disassemble (op : UInt8) (data : UInt16) : String :=
  let hex (width : Nat) (n : Nat) : String :=
    let ds := (Nat.toDigits 16 n).map Char.toUpper
    "$" ++ String.ofList (List.replicate (width - ds.length) '0' ++ ds)
  let text := (Instr.decode op).mnemonic
  let text := (text.replace "d16" (hex 4 data.toNat)).replace "a16" (hex 4 data.toNat)
  text.replace "d8" (hex 2 (data.toNat % 256))

def report (op : UInt8) (data : UInt16) (withRecord : Bool) : Json :=
  let info := ofOpcode op
  let fields := [("mnemonic", Json.str info.mnemonic), ("size", .ofNat info.size),
    ("cycles", .ofNat info.cycles), ("cycles_not_taken", .ofNat info.cyclesNotTaken),
    ("documented", .bool info.documented), ("conditional", .bool info.conditional),
    ("disassembly", .str (disassemble op data))]
  .mkObj (if withRecord then ("debug", .str info.recordText) :: fields else fields)

end OpcodeInfo

namespace Request

def report (r : Request) : Json :=
  .mkObj [("name", .str r.name), ("rst", .ofNatOption (r.restart?.map (·.val))),
    ("vector", .ofNatOption (r.vector?.map (·.toNat)))]

end Request

end Sim8080
