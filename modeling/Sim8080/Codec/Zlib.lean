import Sim8080.Codec.Inflate

namespace Sim8080

/-- Why a compressed stream does not decode. -/
inductive CodecError where
  | incomplete
  | corrupt
  | badHeader
  | unexpectedEnd
  | gzipChecksum
  deriving Repr, DecidableEq

def CodecError.message : CodecError → String
  | .incomplete => "incomplete deflate stream"
  | .corrupt => "corrupt deflate stream"
  | .badHeader => "invalid gzip header"
  | .unexpectedEnd => "unexpected end of file"
  | .gzipChecksum => "corrupt gzip stream does not have a matching checksum"

def CodecError.ofFailure : Inflate.Failure → CodecError
  | .truncated => .incomplete
  | .corrupt => .corrupt

namespace Zlib

def validHeader (cmf flg : UInt8) : Bool :=
  cmf &&& 0x0F == 8 && cmf >>> 4 ≤ 7 && (cmf.toNat * 256 + flg.toNat) % 31 == 0 && flg &&& 0x20 == 0

def decode (data : ByteArray) (limit : Nat) : Except CodecError ByteArray :=
  if data.size < 2 then .error .incomplete
  else if !validHeader (data.get! 0) (data.get! 1) then .error .corrupt
  else
    match Inflate.run data 2 limit with
    | .error f => .error (CodecError.ofFailure f)
    | .ok (out, .limited) => .ok out
    | .ok (out, .complete next) =>
      if next + 4 > data.size then .error .incomplete
      else
        let stored := (List.range 4).foldl (fun acc i => acc * 256 + (data.get! (next + i)).toNat) 0
        if stored != (Checksum.adler32 out).toNat then .error .corrupt else .ok out

def storedBlocks (data : ByteArray) : ByteArray :=
  let n := data.size
  let count := max 1 ((n + 65534) / 65535)
  (List.range count).foldl (fun acc i =>
    let start := i * 65535
    let len := min 65535 (n - start)
    let last : UInt8 := if i + 1 == count then 1 else 0
    let header := ByteArray.mk #[last, len.toUInt8, (len / 256).toUInt8,
      (65535 - len).toUInt8, ((65535 - len) / 256).toUInt8]
    acc ++ header ++ data.extract start (start + len)) ByteArray.empty

def encode (data : ByteArray) : ByteArray :=
  let adler := (Checksum.adler32 data).toNat
  ByteArray.mk #[0x78, 0x9C] ++ storedBlocks data ++
    ByteArray.mk #[(adler >>> 24).toUInt8, (adler >>> 16).toUInt8, (adler >>> 8).toUInt8,
      adler.toUInt8]

end Zlib

namespace Gzip

def le (data : ByteArray) (i n : Nat) : Nat :=
  (List.range n).foldr (fun k acc => acc * 256 + (data.get! (i + k)).toNat) 0

def skipZero (data : ByteArray) (i : Nat) : Option Nat :=
  ((List.range (data.size - i)).find? fun k => data.get! (i + k) == 0).map (i + · + 1)

def headerEnd (data : ByteArray) : Except CodecError Nat := do
  if data.size < 10 then throw .unexpectedEnd
  if data.get! 0 != 0x1F || data.get! 1 != 0x8B || data.get! 2 != 8 then throw .badHeader
  let flags := data.get! 3
  let i := 10
  let i ← if flags &&& 4 != 0 then
      if i + 2 > data.size then throw .unexpectedEnd
      let len := le data i 2
      if i + 2 + len > data.size then throw .unexpectedEnd
      pure (i + 2 + len)
    else pure i
  let i ← if flags &&& 8 != 0 then
      match skipZero data i with
      | some j => pure j
      | none => throw .unexpectedEnd
    else pure i
  let i ← if flags &&& 16 != 0 then
      match skipZero data i with
      | some j => pure j
      | none => throw .unexpectedEnd
    else pure i
  if flags &&& 2 != 0 then
    if i + 2 > data.size then throw .unexpectedEnd
    let crc := (Checksum.crc32 (data.extract 0 i)).toNat % 65536
    if le data i 2 != crc then throw .badHeader
    pure (i + 2)
  else pure i

def decode (data : ByteArray) : Except CodecError ByteArray := do
  let start ← headerEnd data
  match Inflate.run data start (Nat.pow 2 64) with
  | .error f => throw (CodecError.ofFailure f)
  | .ok (_, .limited) => throw .corrupt
  | .ok (out, .complete next) =>
    if next + 8 > data.size then throw .unexpectedEnd
    if le data next 4 != (Checksum.crc32 out).toNat || le data (next + 4) 4 != out.size % Nat.pow 2 32 then
      throw .gzipChecksum
    pure out

end Gzip

end Sim8080
