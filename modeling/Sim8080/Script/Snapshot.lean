import Sim8080.Builtin
import Sim8080.Memory.Load
import Sim8080.Device.Console
import Sim8080.Script.Probe
import Sim8080.Json.Write

namespace Sim8080

namespace LoadError

def toJson (e : LoadError) : Json := .failure ("Load." ++ e.kind) e.message

end LoadError

namespace SnapshotError

def toJson (e : SnapshotError) : Json := .failure ("Snapshot." ++ e.kind) e.message

end SnapshotError

namespace Memory

def ofScript (input : Json) : Except LoadError Memory := do
  let m := match input.get? "fill_mod" with
    | some (.arr #[mul, md]) =>
      let mul := (Json.asNat? mul).getD 0
      let md := (Json.asNat? md).getD 0
      tabulate fun i => (i * mul % md).toUInt8
    | _ => filled 0
  let m := if input.boolD "cpm_stubs" false then Console.install m else m
  (input.listD "load").foldlM (fun m entry =>
    match entry with
    | .arr #[a, bs] => m.load ((Json.asNat? a).getD 0).toUInt16 ((Json.asBytes? bs).getD [])
    | _ => pure m) m

end Memory

namespace Snapshot

def summary (doc : Json) : Json :=
  match doc.get? "memory" with
  | some (.obj ms) =>
    let kept := ms.filter (·.1 != "bytes")
    let count := match doc.field "memory" |>.field "bytes" with
      | .arr bs => bs.size
      | _ => 0
    let kept := if ((doc.field "memory").field "compressor").asString? == some "none" then
        Json.insertMember kept "bytes_len" (.ofNat count)
      else kept
    match doc with
    | .obj top => .obj (Json.insertMember top "memory" (.obj kept))
    | _ => doc
  | _ => doc

def summaryOfText (text : String) : Json :=
  match Json.parse text with
  | .ok doc => summary doc
  | .error _ => .null

def decodeReport (img : MemoryImage) : Json :=
  match img.decode Flate.builtin with
  | .ok raw => .mkObj [("len", .ofNat raw.size)]
  | .error e => e.toJson

def compressorTitle : Compressor → String
  | .zlib => "Zlib"
  | .stored => "Stored"

def parseReport (text : String) : Json :=
  match ofText Libraries.builtin.parse jsonCodec text with
  | .error e => e.toJson
  | .ok s =>
    .mkObj [("cpu", s.cpu.toJson), ("format", .str s.format), ("version", .ofNat s.version),
      ("memory", .mkObj [("compressor", .str (compressorTitle s.memory.compressor)),
        ("size", .ofNat s.memory.size), ("crc32", .ofNat s.memory.crc32.toNat),
        ("bytes_len", .ofNat s.memory.bytes.size)]),
      ("rom", s.rom.toJson), ("decode", decodeReport s.memory)]

def regionsOf (j : Json) : List Region :=
  match Json.list Region.decode j with
  | .ok rs => rs
  | .error _ => []

def script (input : Json) : Json :=
  let compressor := match Compressor.decode (input.field "compressor") with
    | .ok c => c
    | .error _ => .zlib
  match input.stringD "action" "" with
  | "parse" =>
    parseReport (match input.field "json" with
      | .str s => s
      | j => j.compact)
  | "decode" =>
    let img : MemoryImage := { compressor, size := input.natD "size" 0
                               crc32 := (input.natD "crc32" 0).toUInt32
                               bytes := (input.bytesD "bytes").toByteArray }
    match img.decode Flate.builtin with
    | .ok raw =>
      .mkObj [("len", .ofNat raw.size), ("nonzero", .ofNat (raw.toList.filter (· != 0)).length),
        ("head", Json.ofBytes (raw.toList.take 16))]
    | .error e => e.toJson
  | "encode" =>
    let raw := (input.bytesD "raw").toByteArray
    let img := MemoryImage.encode Flate.builtin raw compressor
    let fields := [("size", Json.ofNat img.size), ("crc32", .ofNat img.crc32.toNat),
      ("decode", decodeReport img)]
    .mkObj (if compressor == .stored then fields ++ [("bytes", Json.ofBytes img.bytes.toList)] else fields)
  | "capture" =>
    match Memory.ofScript input with
    | .error e => e.toJson
    | .ok m =>
      let cpu := match input.get? "regs" with
        | some regs => Cpu.initial.patch regs
        | none => Cpu.initial
      summary ((capture Flate.builtin cpu m compressor).withRom Flate.builtin m (regionsOf (input.field "rom"))).toJson
  | "rom_digest" =>
    match Memory.ofScript input with
    | .error e => e.toJson
    | .ok m =>
      let regions := regionsOf (input.field "regions")
      .mkObj [("valid", .arr (regions.map fun r => Json.bool r.isValid).toArray),
        ("crc32", .ofNat (RomDigest.compute Flate.builtin m regions).crc32.toNat)]
  | a => .failure "BadInput" ("unknown action " ++ a)

end Snapshot

end Sim8080
