import Sim8080.Codec.Inflate
import Sim8080.Command.Program

namespace Sim8080

/-- Why an archive could not be opened. -/
inductive ZipError where
  | io
  | invalid (reason : String)
  | unsupported (reason : String)
  deriving Repr, DecidableEq, Inhabited

def ZipError.message : ZipError → String
  | .io => "i/o error"
  | .invalid r => "invalid Zip archive: " ++ r
  | .unsupported r => "unsupported Zip archive: " ++ r

/-- Why the data of an entry could not be read. -/
inductive EntryError where
  | checksum
  | corrupt
  deriving Repr, DecidableEq, Inhabited

def EntryError.message : EntryError → String
  | .checksum => "Invalid checksum"
  | .corrupt => "corrupt deflate stream"

/-- An entry of the central directory. -/
structure ZipEntry where
  name : String
  flags : Nat
  method : Nat
  crc32 : UInt32
  compressedSize : Nat
  size : Nat
  headerStart : Nat
  deriving Repr, Inhabited

/-- An archive: its bytes and its entries in directory order. -/
structure ZipArchive where
  bytes : ByteArray
  entries : List ZipEntry

namespace Zip

def le (b : ByteArray) (i n : Nat) : Nat :=
  (List.range n).foldr (fun k acc =>
    acc * 256 + (if i + k < b.size then (b.get! (i + k)).toNat else 0)) 0

def codePage437 : String :=
  "ÇüéâäàåçêëèïîìÄÅÉæÆôöòûùÿÖÜ¢£¥₧ƒáíóúñÑªº¿⌐¬½¼¡«»░▒▓│┤╡╢╖╕╣║╗╝╜╛┐└┴┬├─┼╞╟╚╔╩╦╠═╬╧╨╤╥╙╘╒╓╫╪┘┌█▄▌▐▀αßΓπΣσµτΦΘΩδ∞φε∩≡±≥≤⌠⌡÷≈°∙·√ⁿ²■\u00A0"

def decodeName (raw : ByteArray) (utf8 : Bool) : String :=
  if utf8 then (String.fromUTF8? raw).getD (String.ofList (raw.toList.map fun b => Char.ofNat b.toNat))
  else
    let table := codePage437.toList.toArray
    String.ofList (raw.toList.map fun b =>
      if b < 0x80 then Char.ofNat b.toNat else table.getD (b.toNat - 0x80) '?')

def endSignature : Nat := 0x06054b50

def directorySignature : Nat := 0x02014b50

def localSignature : Nat := 0x04034b50

def readEntries (b : ByteArray) (shift : Nat) : Nat → Nat → Except ZipError (List ZipEntry)
  | 0, _ => .ok []
  | count + 1, pos =>
    if pos + 46 > b.size || le b pos 4 != directorySignature then
      .error (.invalid "Invalid Central Directory header")
    else
      let nameLen := le b (pos + 28) 2
      let extraLen := le b (pos + 30) 2
      let commentLen := le b (pos + 32) 2
      let flags := le b (pos + 8) 2
      let entry : ZipEntry :=
        { name := decodeName (b.extract (pos + 46) (pos + 46 + nameLen)) (flags &&& 0x800 != 0)
          flags
          method := le b (pos + 10) 2
          crc32 := (le b (pos + 16) 4).toUInt32
          compressedSize := le b (pos + 20) 4
          size := le b (pos + 24) 4
          headerStart := le b (pos + 42) 4 + shift }
      (readEntries b shift count (pos + 46 + nameLen + extraLen + commentLen)).map (entry :: ·)

def directoryAt (b : ByteArray) (pos : Nat) : Except ZipError (List ZipEntry) :=
  let count := le b (pos + 10) 2
  let dirSize := le b (pos + 12) 4
  let dirOffset := le b (pos + 16) 4
  let commentLen := le b (pos + 20) 2
  if pos + 22 + commentLen > b.size then .error (.invalid "Invalid EOCD comment length")
  else
    match readEntries b 0 count dirOffset with
    | .ok es => .ok es
    | .error e =>
      if dirSize + dirOffset < pos then
        readEntries b (pos - dirSize - dirOffset) count (pos - dirSize)
      else .error e

end Zip

def ZipArchive.ofBytes (b : ByteArray) : Except ZipError ZipArchive :=
  let candidates := if b.size < 22 then [] else
    (List.range (b.size - 21)).reverse.filter fun p => Zip.le b p 4 == Zip.endSignature
  let rec first : List Nat → Option ZipError → Except ZipError ZipArchive
    | [], last => .error (last.getD (.invalid "Could not find EOCD"))
    | p :: ps, last =>
      match Zip.directoryAt b p with
      | .ok entries => .ok { bytes := b, entries }
      | .error e => first ps (some (last.getD e))
  first candidates none

namespace ZipEntry

def isDir (e : ZipEntry) : Bool := e.name.endsWith "/" || e.name.endsWith "\\"

def fileName (e : ZipEntry) : String := ((e.name.splitOn "/").getLast?).getD ""

end ZipEntry

namespace ZipArchive

def dataStart (z : ZipArchive) (e : ZipEntry) : Except ZipError Nat :=
  let b := z.bytes
  let h := e.headerStart
  if e.flags &&& 1 != 0 then .error (.unsupported "Password required to decrypt file")
  else if h + 30 > b.size || Zip.le b h 4 != Zip.localSignature then
    .error (.invalid "Invalid local file header")
  else if e.method != 0 && e.method != 8 then .error (.unsupported "Compression method not supported")
  else .ok (h + 30 + Zip.le b (h + 26) 2 + Zip.le b (h + 28) 2)

def read (z : ZipArchive) (e : ZipEntry) (start : Nat) : Except EntryError ByteArray := do
  let raw := z.bytes.extract start (start + e.compressedSize)
  let data ← if e.method == 0 then .ok raw
    else
      match Inflate.run raw 0 (Nat.pow 2 40) with
      | .ok (out, _) => .ok out
      | .error .corrupt => .error .corrupt
      | .error .truncated => .error .checksum
  if Checksum.crc32 data == e.crc32 then .ok data else .error .checksum

def openEntries : Entry → Except String (List (Except String ArchiveEntry))
  | .dir => .error ZipError.io.message
  | .file bytes =>
    match ofBytes bytes with
    | .error e => .error e.message
    | .ok z => .ok (z.entries.map fun e =>
        match z.dataStart e with
        | .error err => .error err.message
        | .ok start => .ok { name := e.name, isDir := e.isDir, contents := (z.read e start).mapError (·.message) })

end ZipArchive

end Sim8080
