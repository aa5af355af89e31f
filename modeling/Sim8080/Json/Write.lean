import Sim8080.Json.Value
import Sim8080.Decimal.Text

namespace Sim8080.Json

def hexDigit (n : Nat) : Char := "0123456789abcdef".toList.getD n '0'

def escapeChar (c : Char) : String :=
  match c with
  | '"' => "\\\""
  | '\\' => "\\\\"
  | '\x08' => "\\b"
  | '\x0c' => "\\f"
  | '\n' => "\\n"
  | '\r' => "\\r"
  | '\t' => "\\t"
  | c =>
    if c.toNat < 0x20 then "\\u00" ++ String.ofList [hexDigit (c.toNat / 16), hexDigit (c.toNat % 16)]
    else String.singleton c

def quote (s : String) : String :=
  s.foldl (fun acc c => acc ++ escapeChar c) "\"" ++ "\""

def floatText (x : Float) : String :=
  let sign := if x.toBits >>> 63 == 1 then "-" else ""
  if x == 0 then sign ++ "0.0"
  else
    let s := Decimal.shortest x
    let text := s.layout.1
    let kk := s.layout.2
    let n := text.length
    let body :=
      if 0 ≤ s.exponent && kk ≤ 16 then text ++ Decimal.zeros s.exponent.toNat ++ ".0"
      else if 0 < kk && kk ≤ 16 then Decimal.splitAt text kk.toNat
      else if -5 < kk && kk ≤ 0 then "0." ++ Decimal.zeros (-kk).toNat ++ text
      else
        let mant := if n == 1 then text else Decimal.splitAt text 1
        mant ++ "e" ++ toString (kk - 1)
    sign ++ body

def numberText : Number → String
  | .nat n => toString n
  | .neg n => toString n
  | .float x => if x.isFinite then floatText x else "null"

def compact : Json → String
  | null => "null"
  | bool b => if b then "true" else "false"
  | num n => numberText n
  | str s => quote s
  | arr xs => "[" ++ ",".intercalate (xs.map compact).toList ++ "]"
  | obj ms => "\x7b" ++ ",".intercalate (ms.attach.map fun ⟨kv, h⟩ =>
      have := sizeOf_member_lt h
      quote kv.1 ++ ":" ++ compact kv.2).toList ++ "\x7d"

end Sim8080.Json
