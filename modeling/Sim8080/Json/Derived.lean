import Sim8080.Json.Decode
import Sim8080.Json.Write
import Sim8080.Snapshot.Document
import Sim8080.Options

namespace Sim8080

-- Written documents keep the members of each record in their declared order; values read as
-- maps keep them sorted by key.

namespace Compressor

def decode : Json.Decoder Compressor := Json.variant [("zlib", zlib), ("none", stored)]

def toJson (c : Compressor) : Json := .str c.name

end Compressor

namespace Region

def decode : Json.Decoder Region :=
  Json.record "MemoryRegion"
    [{ name := "offset", store := fun v r => (Json.u16 v).map fun o => { r with offset := o } },
     { name := "size", store := fun v r => (Json.u32 v).map fun s => { r with size := s } }]
    true default

def toJson (r : Region) : Json :=
  .obj #[("offset", .ofNat r.offset.toNat), ("size", .ofNat r.size.toNat)]

end Region

namespace SavedCpu

def toJson (st : SavedCpu) : Json :=
  .obj #[("a", .ofNat st.a.toNat), ("b", .ofNat st.b.toNat), ("c", .ofNat st.c.toNat),
    ("d", .ofNat st.d.toNat), ("e", .ofNat st.e.toNat), ("h", .ofNat st.h.toNat),
    ("l", .ofNat st.l.toNat), ("f", .ofNat st.f.toNat), ("sp", .ofNat st.sp.toNat),
    ("pc", .ofNat st.pc.toNat), ("iff", .bool st.iff), ("halted", .bool st.halted)]

def read : Json.Decoder SavedCpu :=
  let byte (name : String) (set : SavedCpu → UInt8 → SavedCpu) : Json.Field SavedCpu :=
    { name, store := fun v s => (Json.u8 v).map (set s) }
  Json.record "I8080State"
    [byte "a" ({ · with a := · }), byte "b" ({ · with b := · }), byte "c" ({ · with c := · }),
     byte "d" ({ · with d := · }), byte "e" ({ · with e := · }), byte "h" ({ · with h := · }),
     byte "l" ({ · with l := · }), byte "f" ({ · with f := · }),
     { name := "sp", store := fun v s => (Json.u16 v).map ({ s with sp := · }) },
     { name := "pc", store := fun v s => (Json.u16 v).map ({ s with pc := · }) },
     { name := "iff", store := fun v s => (Json.boolean v).map ({ s with iff := · }) },
     { name := "halted", store := fun v s => (Json.boolean v).map ({ s with halted := · }) }]
    false default

end SavedCpu

def Json.byteArray : Json.Decoder ByteArray := fun j => (Json.list Json.u8 j).map List.toByteArray

namespace MemoryImage

def read : Json.Decoder MemoryImage :=
  Json.record "MemoryImage"
    [{ name := "compressor", store := fun v m => (Compressor.decode v).map ({ m with compressor := · }) },
     { name := "size", store := fun v m => (Json.usize v).map ({ m with size := · }) },
     { name := "crc32", store := fun v m => (Json.u32 v).map ({ m with crc32 := · }) },
     { name := "bytes", store := fun v m => (Json.byteArray v).map ({ m with bytes := · }) }]
    false default

def toJson (img : MemoryImage) : Json :=
  .obj #[("compressor", img.compressor.toJson), ("size", .ofNat img.size),
    ("crc32", .ofNat img.crc32.toNat),
    ("bytes", .arr (img.bytes.toList.map fun b => Json.ofNat b.toNat).toArray)]

end MemoryImage

namespace RomDigest

def read : Json.Decoder RomDigest :=
  Json.record "RomDigest"
    [{ name := "regions", store := fun v d => (Json.list Region.decode v).map ({ d with regions := · }) },
     { name := "crc32", store := fun v d => (Json.u32 v).map ({ d with crc32 := · }) }]
    false {}

def toJson (d : RomDigest) : Json :=
  .obj #[("regions", .arr (d.regions.map Region.toJson).toArray), ("crc32", .ofNat d.crc32.toNat)]

end RomDigest

namespace Snapshot

def read : Json.Decoder Snapshot :=
  Json.record "Snapshot"
    [{ name := "format", store := fun v s => (Json.string v).map ({ s with format := · }) },
     { name := "version", store := fun v s => (Json.u32 v).map fun n => { s with version := n.toNat } },
     { name := "cpu", store := fun v s => (SavedCpu.read v).map ({ s with cpu := · }) },
     { name := "memory", store := fun v s => (MemoryImage.read v).map ({ s with memory := · }) },
     { name := "rom", optional := true
       store := fun v s => (RomDigest.read v).map ({ s with rom := · }) }]
    false default

def toJson (s : Snapshot) : Json :=
  .obj #[("format", .str s.format), ("version", .ofNat s.version), ("cpu", s.cpu.toJson),
    ("memory", s.memory.toJson), ("rom", s.rom.toJson)]

def jsonCodec : Codec where
  toText s := s.toJson.compact
  ofValue v := (read v).mapError (·.message)

end Snapshot

namespace Options

def members (o : Options) : List (String × Json) :=
  [("cpu", .str o.cpu), ("clockResolution", .ofInt o.clockResolution),
    ("isrFreq", Json.ofFloat o.isrFreq), ("runAsync", .bool o.runAsync),
    ("exitAddress", match o.exitAddress with
      | some a => .ofNat a.toNat
      | none => .null),
    ("compressor", o.compressor.toJson), ("rom", .arr (o.rom.map Region.toJson).toArray)]

-- The options as a map, its keys sorted.
def toJson (o : Options) : Json := .mkObj o.members

def decode : Json.Decoder Options :=
  Json.record "Options"
    [{ name := "cpu", optional := true,
       store := fun v o => (Json.string v).map fun x => { o with cpu := x } },
     { name := "clockResolution", optional := true,
       store := fun v o => (Json.i64 v).map fun x => { o with clockResolution := x } },
     { name := "isrFreq", optional := true,
       store := fun v o => (Json.f64 v).map fun x => { o with isrFreq := x } },
     { name := "runAsync", optional := true,
       store := fun v o => (Json.boolean v).map fun x => { o with runAsync := x } },
     { name := "exitAddress", optional := true,
       store := fun v o => (Json.option Json.u16 v).map fun x => { o with exitAddress := x } },
     { name := "compressor", optional := true,
       store := fun v o => (Compressor.decode v).map fun x => { o with compressor := x } },
     { name := "rom", optional := true,
       store := fun v o => (Json.list Region.decode v).map fun x => { o with rom := x } }]
    true {}

def jsonCodec : Codec where
  toValue := toJson
  ofValue v := (decode v).mapError (·.message)
  toText o := (Json.obj o.members.toArray).compact

end Options

end Sim8080
