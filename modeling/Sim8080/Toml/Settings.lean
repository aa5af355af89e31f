import Sim8080.Toml.Parse
import Sim8080.Command.Settings
import Sim8080.Json.Decode

namespace Sim8080

namespace Settings

def keys : List String :=
  ["controller", "load-address", "clock-resolution", "isr-freq", "exit-address", "compressor"]

def describe : Toml.Value → String
  | .string s => "string " ++ Text.quoted s
  | .integer i => "integer `" ++ toString i ++ "`"
  | .float x => "floating point `" ++ Json.pointText x ++ "`"
  | .boolean b => "boolean `" ++ toString b ++ "`"
  | .array _ => "sequence"
  | .datetime | .inlineTable .. => "map"

def wrongType (v : Toml.Value) (expected : String) : String :=
  "invalid type: " ++ describe v ++ ", expected " ++ expected

def readAddress (v : Toml.Value) : Except String UInt16 :=
  match v with
  | .integer i =>
    if 0 ≤ i && i ≤ 0xFFFF then .ok i.toNat.toUInt16
    else .error ("invalid value: integer `" ++ toString i ++ "`, expected u16")
  | v => .error (wrongType v "u16")

def readInteger (v : Toml.Value) : Except String Int :=
  match v with
  | .integer i => .ok i
  | v => .error (wrongType v "i64")

def readFloat (v : Toml.Value) : Except String Float :=
  match v with
  | .integer i => .ok (Float.ofInt i)
  | .float x => .ok x
  | v => .error (wrongType v "f64")

def readText (v : Toml.Value) : Except String String :=
  match v with
  | .string s => .ok s
  | v => .error (wrongType v "a string")

def compressorNamed (name : String) : Except String Compressor :=
  match name with
  | "zlib" => .ok .zlib
  | "none" => .ok .stored
  | other => .error ("unknown variant `" ++ other ++ "`, expected `zlib` or `none`")

def readCompressor (v : Toml.Value) (span : Toml.Span) : Except Toml.Error Compressor :=
  let fail {α : Type} (msg : String) (place : Toml.Span) : Except Toml.Error α :=
    .error { span := some place, message := msg }
  match v with
  | .string s => (compressorNamed s).mapError fun msg => { span := some span, message := msg }
  | .inlineTable _ [] => fail "wanted exactly 1 element, found 0 elements" span
  | .inlineTable _ [(k, payload, sp)] =>
    match compressorNamed k.name with
    | .error msg => fail msg k.span
    | .ok c =>
      match payload with
      | .inlineTable _ [] | .array [] => .ok c
      | .inlineTable .. => fail "expected empty table" sp
      | .array _ => fail "expected empty array" sp
      | other => fail ("expected table, found " ++ other.typeName) sp
  | .inlineTable .. => fail "wanted exactly 1 element, more than 1 element" span
  | _ => fail "wanted string or table" span

def itemView : Toml.Item → Toml.Value
  | .value v _ => v
  | .table _ _ entries => .inlineTable false (entries.map fun (k, item) =>
      (k, (match item with
        | .value v _ => v
        | .table .. => .inlineTable false []
        | .tables _ => .array []), k.span))
  | .tables _ => .array []

def set (s : Settings) (k : Toml.Key) (item : Toml.Item) : Except Toml.Error Settings :=
  let span := match item with
    | .value _ sp => sp
    | _ => k.span
  let v := itemView item
  let located {α : Type} (r : Except String α) : Except Toml.Error α :=
    r.mapError fun msg => { span := some span, message := msg }
  match k.name with
  | "controller" => (located (readText v)).map fun x => { s with controller := some x }
  | "load-address" => (located (readAddress v)).map fun x => { s with loadAddress := some x }
  | "clock-resolution" => (located (readInteger v)).map fun x => { s with clockResolution := some x }
  | "isr-freq" => (located (readFloat v)).map fun x => { s with isrFreq := some x }
  | "exit-address" => (located (readAddress v)).map fun x => { s with exitAddress := some x }
  | "compressor" =>
    let c : Except Toml.Error Compressor := match item with
      | .tables _ => .error { span := some span, message := "wanted string or table" }
      | _ => readCompressor v span
    c.map fun x => { s with compressor := some x }
  | other =>
    .error { span := some k.span
             message := "unknown field `" ++ other ++ "`, expected one of " ++
               ", ".intercalate (keys.map fun key => "`" ++ key ++ "`") }

def ofRoot (root : List (Toml.Key × Toml.Item)) : Except Toml.Error Settings :=
  root.foldlM (fun s (k, item) => s.set k item) {}

def read (text : String) : Except String Settings :=
  match Toml.parse text with
  | .error e => .error (e.render text)
  | .ok root => (ofRoot root).mapError (·.render text)

end Settings

end Sim8080
