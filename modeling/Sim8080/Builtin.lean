import Sim8080.Json.Read
import Sim8080.Json.Derived
import Sim8080.Codec.Zlib
import Sim8080.Machine.Context

namespace Sim8080

-- The decoder stops one byte past the address space, as far as any image is read, so a
-- failure further on in a stream is not reached.
def Flate.builtin : Flate where
  deflate := Zlib.encode
  inflate bytes :=
    match Zlib.decode bytes (addressSpace + 1) with
    | .ok out => (out, none)
    | .error e => (ByteArray.empty, some e.message)
  crc32 := Checksum.crc32Concat

def Libraries.builtin : Libraries where
  parse text := (Json.parse text).mapError (·.message)
  options := Options.jsonCodec
  snapshots := Snapshot.jsonCodec
  flate := Flate.builtin

end Sim8080
