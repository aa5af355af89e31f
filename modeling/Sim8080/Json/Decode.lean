import Sim8080.Json.Value
import Sim8080.Decimal.Text
import Sim8080.Text.Quoted

namespace Sim8080.Json

def pointText (x : Float) : String :=
  let t := Decimal.plainText x
  if x.isFinite && !t.contains '.' then t ++ ".0" else t

inductive Unexpected where
  | bool (b : Bool)
  | unsigned (n : Nat)
  | signed (n : Int)
  | float (x : Float)
  | str (s : String)
  | unit
  | seq
  | map

def Unexpected.text : Unexpected → String
  | .bool b => s!"boolean `{b}`"
  | .unsigned n => s!"integer `{n}`"
  | .signed n => s!"integer `{n}`"
  | .float x => "floating point `" ++ pointText x ++ "`"
  | .str s => "string " ++ Text.quoted s
  | .unit => "null"
  | .seq => "sequence"
  | .map => "map"

def unexpected : Json → Unexpected
  | null => .unit
  | bool b => .bool b
  | num (.nat n) => .unsigned n
  | num (.neg n) => .signed n
  | num (.float x) => .float x
  | str s => .str s
  | arr _ => .seq
  | obj _ => .map

/-- Why a value does not decode. -/
inductive DecodeError where
  | invalidType (found : Unexpected) (expected : String)
  | invalidValue (found : Unexpected) (expected : String)
  | invalidLength (n : Nat) (expected : String)
  | missingField (name : String)
  | unknownField (name : String) (expected : List String)
  | unknownVariant (name : String) (expected : List String)
  | duplicateField (name : String)

def oneOf (names : List String) : String :=
  let tick (s : String) := "`" ++ s ++ "`"
  match names with
  | [] => ""
  | [a] => tick a
  | [a, b] => tick a ++ " or " ++ tick b
  | _ => "one of " ++ ", ".intercalate (names.map tick)

def DecodeError.message : DecodeError → String
  | .invalidType u e => s!"invalid type: {u.text}, expected {e}"
  | .invalidValue u e => s!"invalid value: {u.text}, expected {e}"
  | .invalidLength n e => s!"invalid length {n}, expected {e}"
  | .missingField f => "missing field `" ++ f ++ "`"
  | .unknownField f [] => "unknown field `" ++ f ++ "`, there are no fields"
  | .unknownField f names => "unknown field `" ++ f ++ "`, expected " ++ oneOf names
  | .unknownVariant v [] => "unknown variant `" ++ v ++ "`, there are no variants"
  | .unknownVariant v names => "unknown variant `" ++ v ++ "`, expected " ++ oneOf names
  | .duplicateField f => "duplicate field `" ++ f ++ "`"

abbrev Decoder (α : Type) := Json → Except DecodeError α

def unsigned (name : String) (max : Nat) : Decoder Nat
  | num (.nat n) => if n ≤ max then .ok n else .error (.invalidValue (.unsigned n) name)
  | num (.neg n) => .error (.invalidValue (.signed n) name)
  | j => .error (.invalidType (unexpected j) name)

def u8 : Decoder UInt8 := fun j => (unsigned "u8" 255 j).map Nat.toUInt8
def u16 : Decoder UInt16 := fun j => (unsigned "u16" 65535 j).map Nat.toUInt16
def u32 : Decoder UInt32 := fun j => (unsigned "u32" (Nat.pow 2 32 - 1) j).map Nat.toUInt32
def u64 : Decoder Nat := unsigned "u64" (Nat.pow 2 64 - 1)
def usize : Decoder Nat := unsigned "usize" (Nat.pow 2 64 - 1)

def i64 : Decoder Int
  | num (.nat n) => if n < Nat.pow 2 63 then .ok n else .error (.invalidValue (.unsigned n) "i64")
  | num (.neg n) => .ok n
  | j => .error (.invalidType (unexpected j) "i64")

def f64 : Decoder Float
  | num (.nat n) => .ok (Float.ofScientific n false 0)
  | num (.neg n) => .ok (-(Float.ofScientific n.natAbs false 0))
  | num (.float x) => .ok x
  | j => .error (.invalidType (unexpected j) "f64")

def boolean : Decoder Bool
  | bool b => .ok b
  | j => .error (.invalidType (unexpected j) "a boolean")

def string : Decoder String
  | str s => .ok s
  | j => .error (.invalidType (unexpected j) "a string")

def list {α : Type} (d : Decoder α) : Decoder (List α)
  | arr xs => xs.toList.mapM d
  | j => .error (.invalidType (unexpected j) "a sequence")

def option {α : Type} (d : Decoder α) : Decoder (Option α)
  | null => .ok none
  | j => (d j).map some

def unitValue : Decoder Unit
  | null => .ok ()
  | j => .error (.invalidType (unexpected j) "unit")

def variant {α : Type} (names : List (String × α)) : Decoder α
  | str s =>
    match names.find? (·.1 == s) with
    | some (_, a) => .ok a
    | none => .error (.unknownVariant s (names.map (·.1)))
  | obj ms =>
    if ms.size != 1 then .error (.invalidValue .map "map with a single key")
    else
      let (k, v) := ms[0]!
      match names.find? (·.1 == k) with
      | some (_, a) => (unitValue v).map fun _ => a
      | none => .error (.unknownVariant k (names.map (·.1)))
  | j => .error (.invalidType (unexpected j) "string or map")

/-- A field of a record being decoded into `σ`: its name, whether it may be absent, and how
its value is stored. -/
structure Field (σ : Type) where
  name : String
  optional : Bool := false
  store : Json → σ → Except DecodeError σ

def record {σ : Type} (name : String) (fields : List (Field σ)) (closed : Bool) (init : σ) :
    Decoder σ
  | obj ms => do
    let (s, seen) ← ms.foldlM (fun (s, seen) (k, v) =>
      match fields.find? (·.name == k) with
      | some f => do
        let s ← f.store v s
        pure (s, k :: seen)
      | none =>
        if closed then .error (.unknownField k (fields.map (·.name))) else pure (s, seen))
      (init, [])
    match fields.find? (fun f => !f.optional && !seen.contains f.name) with
    | some f => .error (.missingField f.name)
    | none => pure s
  | arr xs => do
    let s ← fields.zipIdx.foldlM (fun s (f, i) =>
      match xs[i]? with
      | some v => f.store v s
      | none =>
        if f.optional then pure s
        else .error (.invalidLength i s!"struct {name} with {fields.length} elements")) init
    if xs.size > fields.length then .error (.invalidLength xs.size "fewer elements in array")
    else pure s
  | j => .error (.invalidType (unexpected j) s!"struct {name}")

def ofFloat (x : Float) : Json := if x.isFinite then num (.float x) else null

end Sim8080.Json
