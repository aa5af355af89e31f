import Sim8080.Snapshot.Region
import Sim8080.Text.Quoted

namespace Sim8080

-- The zlib library that images are stored with. `inflate` gives what a decoder reads from a
-- stream before it ends or fails, with the failure's message; `crc32` is one checksum fed the
-- chunks in order and then summed.
structure Flate where
  deflate : ByteArray → ByteArray
  inflate : ByteArray → ByteArray × Option String
  crc32 : List ByteArray → UInt32
  deriving Inhabited

inductive SnapshotError where
  | json (message : String)
  | format (found : String)
  | version (found : Nat)
  | size (expected actual : Nat)
  | checksum (expected actual : UInt32)
  | codec (message : String)
  | incompatibleRom (expected actual : UInt32)

namespace SnapshotError

def message : SnapshotError → String
  | json m => "malformed snapshot: " ++ m
  | format found => "unsupported snapshot format " ++ Text.quoted found
  | version found => s!"unsupported snapshot version {found} (expected 1)"
  | size expected actual => s!"memory image is {actual} bytes, expected {expected}"
  | checksum expected actual =>
    "memory image checksum " ++ hex8 actual.toNat ++ " does not match " ++ hex8 expected.toNat
  | codec m => "memory image codec failed: " ++ m
  | incompatibleRom expected actual =>
    "snapshot was taken against a different ROM (checksum " ++ hex8 actual.toNat ++
      ", expected " ++ hex8 expected.toNat ++ ")"

def kind : SnapshotError → String
  | json _ => "Json"
  | format _ => "Format"
  | version _ => "Version"
  | size .. => "Size"
  | checksum .. => "Checksum"
  | codec _ => "Codec"
  | incompatibleRom .. => "IncompatibleRom"

end SnapshotError

structure MemoryImage where
  compressor : Compressor
  size : Nat
  crc32 : UInt32
  bytes : ByteArray
  deriving Inhabited

namespace MemoryImage

def encode (flate : Flate) (raw : ByteArray) (c : Compressor) : MemoryImage :=
  { compressor := c, size := raw.size, crc32 := flate.crc32 [raw]
    bytes := match c with
      | .zlib => flate.deflate raw
      | .stored => raw }

-- A decoder read through a limit of `limit` bytes stops there, so a failure further on in
-- the stream is never met.
def inflateAtMost (flate : Flate) (bytes : ByteArray) (limit : Nat) : Except String ByteArray :=
  match flate.inflate bytes with
  | (out, none) => .ok (out.extract 0 limit)
  | (out, some m) => if limit ≤ out.size then .ok (out.extract 0 limit) else .error m

-- The image's bytes as they are read back: one byte past 64K is enough to see an oversized
-- image.
def inflate (flate : Flate) (img : MemoryImage) : Except String ByteArray :=
  match img.compressor with
  | .zlib => inflateAtMost flate img.bytes (addressSpace + 1)
  | .stored => .ok img.bytes

def decode (flate : Flate) (img : MemoryImage) : Except SnapshotError ByteArray := do
  if img.size != addressSpace then throw (.size addressSpace img.size)
  let raw ← (img.inflate flate).mapError .codec
  if raw.size != img.size then throw (.size img.size raw.size)
  let actual := flate.crc32 [raw]
  if actual != img.crc32 then throw (.checksum img.crc32 actual)
  pure raw

end MemoryImage

structure RomDigest where
  regions : List Region := []
  crc32 : UInt32 := 0
  deriving Repr, DecidableEq, Inhabited

def RomDigest.compute (flate : Flate) (m : Memory) (regions : List Region) : RomDigest :=
  { regions, crc32 := flate.crc32 (regions.map fun r => (r.bytes m).toByteArray) }

end Sim8080
