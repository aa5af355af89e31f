import Sim8080.Decimal.Text
import Sim8080.Text.Quoted

namespace Sim8080.Toml

/-- A stretch of the document: character positions, the end excluded. -/
structure Span where
  start : Nat
  stop : Nat
  deriving Repr, DecidableEq, Inhabited

/-- A key: its name, its text as written (quotes included), and where it stands. -/
structure Key where
  name : String
  raw : String
  span : Span
  deriving Repr, Inhabited

/-- A value. -/
inductive Value where
  | string (s : String)
  | integer (i : Int)
  | float (x : Float)
  | boolean (b : Bool)
  | datetime
  | array (items : List Value)
  | inlineTable (dotted : Bool) (entries : List (Key × Value × Span))
  deriving Inhabited

def Value.typeName : Value → String
  | .string _ => "string"
  | .integer _ => "integer"
  | .float _ => "float"
  | .boolean _ => "boolean"
  | .datetime => "datetime"
  | .array _ => "array"
  | .inlineTable .. => "inline table"

/-- An entry of a table. -/
inductive Item where
  | value (v : Value) (span : Span)
  | table (implicit dotted : Bool) (entries : List (Key × Item))
  | tables (last : List (Key × Item))
  deriving Inhabited

/-- A rule of the format that a document breaks. -/
inductive Clash where
  | duplicate (key : String) (table : Option (List String))
  | extend (path : List String) (actual : String)
  deriving Repr, Inhabited

def Clash.message : Clash → String
  | .duplicate key none => "duplicate key `" ++ key ++ "`"
  | .duplicate key (some []) => "duplicate key `" ++ key ++ "` in document root"
  | .duplicate key (some path) =>
    "duplicate key `" ++ key ++ "` in table `" ++ ".".intercalate path ++ "`"
  | .extend path actual =>
    "dotted key `" ++ ".".intercalate path ++ "` attempted to extend non-table type (" ++ actual ++ ")"

/-- Why a document was not read, and where. -/
structure Error where
  span : Option Span
  message : String
  deriving Repr, Inhabited

def locate (chars : Array Char) (index : Nat) : Nat × Nat :=
  if chars.size == 0 then (0, index)
  else
    let safe := min index (chars.size - 1)
    let before := (chars.extract 0 safe).toList
    let lineStart := before.length - (before.reverse.takeWhile (· != '\n')).length
    let line := (before.take lineStart).count '\n'
    (line, safe - lineStart + (index - safe))

def Error.render (e : Error) (source : String) : String :=
  match e.span with
  | none => e.message ++ "\n"
  | some span =>
    let chars := source.toList.toArray
    let (line, column) := locate chars span.start
    let number := toString (line + 1)
    let content := ((source.splitOn "\n")[line]?).getD ""
    let spanBytes := (String.ofList (chars.extract span.start span.stop).toList).utf8ByteSize
    let width := min spanBytes (content.utf8ByteSize - column)
    let gutter := String.ofList (List.replicate (number.length + 1) ' ')
    "TOML parse error at line " ++ number ++ ", column " ++ toString (column + 1) ++ "\n" ++
      gutter ++ "|\n" ++ number ++ " | " ++ content ++ "\n" ++
      gutter ++ "|" ++ String.ofList (List.replicate (column + 1) ' ') ++
      String.ofList (List.replicate (max 1 width) '^') ++ "\n" ++ e.message ++ "\n"

end Sim8080.Toml
