
namespace Sim8080.Checksum

def crcBit (c : UInt32) : UInt32 := if c &&& 1 == 1 then (c >>> 1) ^^^ 0xEDB88320 else c >>> 1

def crcEntry (n : Nat) : UInt32 := (List.range 8).foldl (fun c _ => crcBit c) n.toUInt32

def crcTable : Array UInt32 := (Array.range 256).map crcEntry

def crcUpdate (reg : UInt32) (data : ByteArray) : UInt32 :=
  data.foldl (fun c b => (crcTable.getD ((c ^^^ b.toUInt32) &&& 0xFF).toNat 0) ^^^ (c >>> 8)) reg

def crc32 (data : ByteArray) : UInt32 := crcUpdate 0xFFFFFFFF data ^^^ 0xFFFFFFFF

def crc32Concat (parts : List ByteArray) : UInt32 :=
  parts.foldl crcUpdate 0xFFFFFFFF ^^^ 0xFFFFFFFF

def adler32 (data : ByteArray) : UInt32 :=
  let (a, b) := data.foldl (fun (a, b) x =>
    let a := (a + x.toNat) % 65521
    (a, (b + a) % 65521)) (1, 0)
  (b * 65536 + a).toUInt32

end Sim8080.Checksum
