import Sim8080.Snapshot.Image
import Sim8080.Cpu.Saved
import Sim8080.Json.Value

namespace Sim8080

def Snapshot.formatTag : String := "cadence/i8080"

def Snapshot.formatVersion : Nat := 1

structure Snapshot where
  format : String := Snapshot.formatTag
  version : Nat := Snapshot.formatVersion
  cpu : SavedCpu
  memory : MemoryImage
  rom : RomDigest := {}
  deriving Inhabited

namespace Snapshot

-- The JSON library as snapshots use it: a snapshot written as a document, and a document's
-- value read back as a snapshot (or the message of what was refused).
structure Codec where
  toText : Snapshot → String
  ofValue : Json → Except String Snapshot
  deriving Inhabited

def capture (flate : Flate) (cpu : Cpu) (m : Memory) (c : Compressor) : Snapshot :=
  { cpu := cpu.save, memory := MemoryImage.encode flate m.toByteArray c }

def withRom (flate : Flate) (s : Snapshot) (m : Memory) (regions : List Region) : Snapshot :=
  { s with rom := RomDigest.compute flate m regions }

-- The tag and the version are checked on the bare value before the rest is read: a missing
-- or non-text tag reads as empty, a missing or non-integer version as zero.
def ofText (parse : String → Except String Json) (codec : Codec) (text : String) :
    Except SnapshotError Snapshot := do
  let v ← (parse text).mapError .json
  let format := ((v.get? "format").bind Json.asString?).getD ""
  if format != formatTag then throw (.format format)
  let version := ((v.get? "version").bind Json.asNat?).getD 0
  if version != formatVersion then throw (.version version)
  (codec.ofValue v).mapError .json

-- The digest and the image are checked before anything is written.
def restore (flate : Flate) (s : Snapshot) (m : Memory) : Except SnapshotError (Memory × Cpu) := do
  let current := RomDigest.compute flate m s.rom.regions
  if current.crc32 != s.rom.crc32 then throw (.incompatibleRom s.rom.crc32 current.crc32)
  let raw ← s.memory.decode flate
  let m := if h : raw.size = addressSpace then Memory.ofByteArray raw h else m.writeAll 0 raw.toList
  pure (m, Cpu.ofSaved s.cpu)

end Snapshot

end Sim8080
