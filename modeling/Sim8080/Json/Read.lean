import Sim8080.Json.Value

namespace Sim8080.Json

/-- What is wrong with a JSON text. -/
inductive SyntaxCode where
  | eofWhileParsingList
  | eofWhileParsingObject
  | eofWhileParsingString
  | eofWhileParsingValue
  | expectedColon
  | expectedListCommaOrEnd
  | expectedObjectCommaOrEnd
  | expectedSomeIdent
  | expectedSomeValue
  | invalidEscape
  | invalidNumber
  | numberOutOfRange
  | controlCharacterWhileParsingString
  | keyMustBeAString
  | loneLeadingSurrogateInHexEscape
  | trailingComma
  | trailingCharacters
  | unexpectedEndOfHexEscape
  | recursionLimitExceeded
  deriving Repr, DecidableEq

def SyntaxCode.message : SyntaxCode → String
  | .eofWhileParsingList => "EOF while parsing a list"
  | .eofWhileParsingObject => "EOF while parsing an object"
  | .eofWhileParsingString => "EOF while parsing a string"
  | .eofWhileParsingValue => "EOF while parsing a value"
  | .expectedColon => "expected `:`"
  | .expectedListCommaOrEnd => "expected `,` or `]`"
  | .expectedObjectCommaOrEnd => "expected `,` or `\x7d`"
  | .expectedSomeIdent => "expected ident"
  | .expectedSomeValue => "expected value"
  | .invalidEscape => "invalid escape"
  | .invalidNumber => "invalid number"
  | .numberOutOfRange => "number out of range"
  | .controlCharacterWhileParsingString =>
    "control character (\\u0000-\\u001F) found while parsing a string"
  | .keyMustBeAString => "key must be a string"
  | .loneLeadingSurrogateInHexEscape => "lone leading surrogate in hex escape"
  | .trailingComma => "trailing comma"
  | .trailingCharacters => "trailing characters"
  | .unexpectedEndOfHexEscape => "unexpected end of hex escape"
  | .recursionLimitExceeded => "recursion limit exceeded"

/-- A fault and where it is. -/
structure SyntaxError where
  code : SyntaxCode
  line : Nat
  column : Nat
  deriving Repr, DecidableEq

def SyntaxError.message (e : SyntaxError) : String :=
  s!"{e.code.message} at line {e.line} column {e.column}"

def position (b : ByteArray) (i : Nat) : Nat × Nat :=
  (List.range (min i b.size)).foldl
    (fun (line, col) k => if b.get! k == 10 then (line + 1, 0) else (line, col + 1)) (1, 0)

def u64Max : Nat := Nat.pow 2 64 - 1

def overflows (a d bound : Nat) : Bool := a * 10 + d > bound

def pow10 (k : Nat) : Float := Float.ofScientific 1 false k

def floatOfParts (positive : Bool) (significand : Nat) (exponent : Int) : Option Float :=
  let rec go (fuel : Nat) (f : Float) (e : Int) : Option Float :=
    match fuel with
    | 0 => some f
    | fuel + 1 =>
      if e.natAbs ≤ 308 then
        if e ≥ 0 then
          let g := f * pow10 e.natAbs
          if g.isInf then none else some g
        else some (f / pow10 e.natAbs)
      else if f == 0 then some f
      else if e ≥ 0 then none
      else go fuel (f / pow10 308) (e + 308)
  (go 8 (Float.ofScientific significand false 0) exponent).map fun f => if positive then f else -f

/-- A reader over the bytes of a text. -/
structure Reader where
  bytes : ByteArray

abbrev Parsed (α : Type) := Except SyntaxError (α × Nat)

namespace Reader

variable (r : Reader)

def peek (i : Nat) : Option UInt8 := if i < r.bytes.size then some (r.bytes.get! i) else none

def fail {α : Type} (code : SyntaxCode) (i : Nat) : Except SyntaxError α :=
  let (line, column) := position r.bytes i
  .error ⟨code, line, column⟩

def failAhead {α : Type} (code : SyntaxCode) (i : Nat) : Except SyntaxError α :=
  r.fail code (min (i + 1) r.bytes.size)

def isDigit (c : UInt8) : Bool := 48 ≤ c && c ≤ 57

def skipBlanks (i : Nat) : Nat :=
  let rec go (fuel i : Nat) : Nat :=
    match fuel with
    | 0 => i
    | fuel + 1 =>
      match r.peek i with
      | some 32 | some 10 | some 9 | some 13 => go fuel (i + 1)
      | _ => i
  go (r.bytes.size + 1) i

def skipDigits (i : Nat) : Nat :=
  let rec go (fuel i : Nat) : Nat :=
    match fuel with
    | 0 => i
    | fuel + 1 => match r.peek i with
      | some c => if isDigit c then go fuel (i + 1) else i
      | none => i
  go (r.bytes.size + 1) i

def finish (positive : Bool) (sig : Nat) (exp : Int) (i : Nat) : Parsed Number :=
  match floatOfParts positive sig exp with
  | some f => .ok (.float f, i)
  | none => r.fail .numberOutOfRange i

def exponentOverflow (positive zeroSig positiveExp : Bool) (i : Nat) : Parsed Number :=
  if !zeroSig && positiveExp then r.fail .numberOutOfRange i
  else .ok (.float (if positive then 0 else -0), r.skipDigits i)

def exponent (positive : Bool) (sig : Nat) (start : Int) (i : Nat) : Parsed Number :=
  let i := i + 1
  let (positiveExp, i) := match r.peek i with
    | some 43 => (true, i + 1)
    | some 45 => (false, i + 1)
    | _ => (true, i)
  match r.peek i with
  | none => r.fail .eofWhileParsingValue i
  | some c =>
    if !isDigit c then r.fail .invalidNumber (i + 1)
    else
      let bound : Nat := Nat.pow 2 31 - 1
      let rec digits (fuel : Nat) (e i : Nat) : Parsed Number :=
        match fuel with
        | 0 => .ok (.float 0, i)
        | fuel + 1 =>
          match r.peek i with
          | some c =>
            if isDigit c then
              let d := (c - 48).toNat
              if overflows e d bound then r.exponentOverflow positive (sig == 0) positiveExp (i + 1)
              else digits fuel (e * 10 + d) (i + 1)
            else
              let total := if positiveExp then start + e else start - e
              let total := max (-2147483648 : Int) (min 2147483647 total)
              r.finish positive sig total i
          | none =>
            let total := if positiveExp then start + e else start - e
            let total := max (-2147483648 : Int) (min 2147483647 total)
            r.finish positive sig total i
      digits (r.bytes.size + 1) (c - 48).toNat (i + 1)

def fractionOverflow (positive : Bool) (sig : Nat) (exp : Int) (i : Nat) : Parsed Number :=
  let i := r.skipDigits i
  match r.peek i with
  | some 101 | some 69 => r.exponent positive sig exp i
  | _ => r.finish positive sig exp i

def fraction (positive : Bool) (sig : Nat) (before : Int) (i : Nat) : Parsed Number :=
  let rec digits (fuel : Nat) (sig : Nat) (after : Int) (i : Nat) : Parsed Number :=
    match fuel with
    | 0 => .ok (.float 0, i)
    | fuel + 1 =>
      let rest (sig : Nat) (after : Int) (i : Nat) : Parsed Number :=
        if after == 0 then
          match r.peek i with
          | some _ => r.failAhead .invalidNumber i
          | none => r.failAhead .eofWhileParsingValue i
        else
          match r.peek i with
          | some 101 | some 69 => r.exponent positive sig (before + after) i
          | _ => r.finish positive sig (before + after) i
      match r.peek i with
      | some c =>
        if isDigit c then
          let d := (c - 48).toNat
          if overflows sig d u64Max then r.fractionOverflow positive sig (before + after) i
          else digits fuel (sig * 10 + d) (after - 1) (i + 1)
        else rest sig after i
      | none => rest sig after i
  digits (r.bytes.size + 1) sig 0 (i + 1)

def longInteger (positive : Bool) (sig : Nat) (i : Nat) : Parsed Number :=
  let rec go (fuel : Nat) (exp : Nat) (i : Nat) : Parsed Number :=
    match fuel with
    | 0 => .ok (.float 0, i)
    | fuel + 1 =>
      match r.peek i with
      | some 46 => r.fraction positive sig exp i
      | some 101 | some 69 => r.exponent positive sig exp i
      | some c => if isDigit c then go fuel (exp + 1) (i + 1) else r.finish positive sig exp i
      | none => r.finish positive sig exp i
  go (r.bytes.size + 1) 0 i

def afterInteger (positive : Bool) (sig : Nat) (i : Nat) : Parsed Number :=
  match r.peek i with
  | some 46 => r.fraction positive sig 0 i
  | some 101 | some 69 => r.exponent positive sig 0 i
  | _ =>
    if positive then .ok (.nat sig, i)
    else if sig == 0 || sig > Nat.pow 2 63 then .ok (.float (-(Float.ofScientific sig false 0)), i)
    else .ok (.neg (-(sig : Int)), i)

def number (positive : Bool) (i : Nat) : Parsed Number :=
  match r.peek i with
  | none => r.fail .eofWhileParsingValue i
  | some 48 =>
    match r.peek (i + 1) with
    | some c => if isDigit c then r.failAhead .invalidNumber (i + 1) else r.afterInteger positive 0 (i + 1)
    | none => r.afterInteger positive 0 (i + 1)
  | some c =>
    if !isDigit c then r.fail .invalidNumber (i + 1)
    else
      let rec digits (fuel : Nat) (sig : Nat) (i : Nat) : Parsed Number :=
        match fuel with
        | 0 => .ok (.nat sig, i)
        | fuel + 1 =>
          match r.peek i with
          | some c =>
            if isDigit c then
              let d := (c - 48).toNat
              if overflows sig d u64Max then r.longInteger positive sig i
              else digits fuel (sig * 10 + d) (i + 1)
            else r.afterInteger positive sig i
          | none => r.afterInteger positive sig i
      digits (r.bytes.size + 1) (c - 48).toNat (i + 1)

def hexValue (c : UInt8) : Option Nat :=
  if 48 ≤ c && c ≤ 57 then some (c - 48).toNat
  else if 65 ≤ c && c ≤ 70 then some (c - 55).toNat
  else if 97 ≤ c && c ≤ 102 then some (c - 87).toNat
  else none

def hexEscape (i : Nat) : Parsed Nat :=
  if i + 4 ≤ r.bytes.size then
    let ds := (List.range 4).map fun k => hexValue (r.bytes.get! (i + k))
    match ds with
    | [some a, some b, some c, some d] => .ok (((a * 16 + b) * 16 + c) * 16 + d, i + 4)
    | _ => r.fail .invalidEscape (i + 4)
  else r.fail .eofWhileParsingString r.bytes.size

def utf8 (n : Nat) : List UInt8 := String.utf8EncodeChar (Char.ofNat n)

def unicodeEscape (i : Nat) : Except SyntaxError (List UInt8 × Nat) := do
  let (n, i) ← r.hexEscape i
  if 0xDC00 ≤ n && n ≤ 0xDFFF then r.fail .loneLeadingSurrogateInHexEscape i
  else if n < 0xD800 || n > 0xDBFF then pure (utf8 n, i)
  else
    match r.peek i with
    | none => r.fail .eofWhileParsingString i
    | some c =>
      if c != 92 then r.fail .unexpectedEndOfHexEscape (i + 1)
      else
        match r.peek (i + 1) with
        | none => r.fail .eofWhileParsingString (i + 1)
        | some c =>
          if c != 117 then r.fail .unexpectedEndOfHexEscape (i + 2)
          else
            let (n2, i) ← r.hexEscape (i + 2)
            if n2 < 0xDC00 || n2 > 0xDFFF then r.fail .loneLeadingSurrogateInHexEscape i
            else pure (utf8 ((((n - 0xD800) <<< 10) ||| (n2 - 0xDC00)) + 0x10000), i)

def escape (i : Nat) : Parsed (List UInt8) :=
  match r.peek i with
  | none => r.fail .eofWhileParsingString i
  | some c =>
    match c with
    | 34 => .ok ([34], i + 1)
    | 92 => .ok ([92], i + 1)
    | 47 => .ok ([47], i + 1)
    | 98 => .ok ([8], i + 1)
    | 102 => .ok ([12], i + 1)
    | 110 => .ok ([10], i + 1)
    | 114 => .ok ([13], i + 1)
    | 116 => .ok ([9], i + 1)
    | 117 => r.unicodeEscape (i + 1)
    | _ => r.fail .invalidEscape (i + 1)

def string (i : Nat) : Parsed String :=
  let rec go (fuel : Nat) (acc : ByteArray) (i : Nat) : Parsed String :=
    match fuel with
    | 0 => .ok ("", i)
    | fuel + 1 =>
      match r.peek i with
      | none => r.fail .eofWhileParsingString i
      | some 34 => .ok ((String.fromUTF8? acc).getD "", i + 1)
      | some 92 =>
        match r.escape (i + 1) with
        | .ok (bs, j) => go fuel (bs.foldl ByteArray.push acc) j
        | .error e => .error e
      | some c =>
        if c < 0x20 then r.fail .controlCharacterWhileParsingString (i + 1)
        else go fuel (acc.push c) (i + 1)
  go (r.bytes.size + 1) ByteArray.empty i

def ident (word : List UInt8) (i : Nat) : Except SyntaxError Nat :=
  word.foldlM (fun i c =>
    match r.peek i with
    | none => r.fail .eofWhileParsingValue i
    | some d => if c == d then .ok (i + 1) else r.fail .expectedSomeIdent (i + 1)) i

mutual

def value (fuel depth i : Nat) : Parsed Json :=
  match fuel with
  | 0 => r.fail .recursionLimitExceeded i
  | fuel + 1 =>
    let i := r.skipBlanks i
    match r.peek i with
    | none => r.failAhead .eofWhileParsingValue i
    | some c =>
      match c with
      | 110 => (r.ident [117, 108, 108] (i + 1)).map fun j => (.null, j)
      | 116 => (r.ident [114, 117, 101] (i + 1)).map fun j => (.bool true, j)
      | 102 => (r.ident [97, 108, 115, 101] (i + 1)).map fun j => (.bool false, j)
      | 45 => (r.number false (i + 1)).map fun (n, j) => (.num n, j)
      | 34 => (r.string (i + 1)).map fun (s, j) => (.str s, j)
      | 91 =>
        if depth ≤ 1 then r.failAhead .recursionLimitExceeded i
        else elements fuel (depth - 1) #[] true (i + 1)
      | 123 =>
        if depth ≤ 1 then r.failAhead .recursionLimitExceeded i
        else members fuel (depth - 1) #[] true (i + 1)
      | c =>
        if isDigit c then (r.number true i).map fun (n, j) => (.num n, j)
        else r.failAhead .expectedSomeValue i

def elements (fuel depth : Nat) (acc : Array Json) (first : Bool) (i : Nat) : Parsed Json :=
  match fuel with
  | 0 => r.fail .recursionLimitExceeded i
  | fuel + 1 =>
    let i := r.skipBlanks i
    let element (i : Nat) : Parsed Json :=
      match value fuel depth i with
      | .ok (v, j) => elements fuel depth (acc.push v) false j
      | .error e => .error e
    match r.peek i with
    | none => r.failAhead .eofWhileParsingList i
    | some 93 => .ok (.arr acc, i + 1)
    | some 44 =>
      if first then r.failAhead .expectedSomeValue i
      else
        let j := r.skipBlanks (i + 1)
        match r.peek j with
        | some 93 => r.failAhead .trailingComma j
        | none => r.failAhead .eofWhileParsingValue j
        | some _ => element j
    | some _ => if first then element i else r.failAhead .expectedListCommaOrEnd i

def members (fuel depth : Nat) (acc : Array (String × Json)) (first : Bool) (i : Nat) :
    Parsed Json :=
  match fuel with
  | 0 => r.fail .recursionLimitExceeded i
  | fuel + 1 =>
    let i := r.skipBlanks i
    let member (i : Nat) : Parsed Json :=
      match r.peek i with
      | some 34 =>
        match r.string (i + 1) with
        | .error e => .error e
        | .ok (k, j) =>
          let j := r.skipBlanks j
          match r.peek j with
          | some 58 =>
            match value fuel depth (j + 1) with
            | .ok (v, j) => members fuel depth (Json.insertMember acc k v) false j
            | .error e => .error e
          | some _ => r.failAhead .expectedColon j
          | none => r.failAhead .eofWhileParsingObject j
      | some 125 => r.failAhead .trailingComma i
      | some _ => r.failAhead .keyMustBeAString i
      | none => r.failAhead .eofWhileParsingValue i
    match r.peek i with
    | none => r.failAhead .eofWhileParsingObject i
    | some 125 => .ok (.obj acc, i + 1)
    | some 44 =>
      if first then r.failAhead .keyMustBeAString i
      else member (r.skipBlanks (i + 1))
    | some _ => if first then member i else r.failAhead .expectedObjectCommaOrEnd i

end

end Reader

def parse (text : String) : Except SyntaxError Json :=
  let r : Reader := ⟨text.toUTF8⟩
  match r.value (r.bytes.size + 2) 128 0 with
  | .error e => .error e
  | .ok (v, i) =>
    let j := r.skipBlanks i
    if j < r.bytes.size then r.failAhead .trailingCharacters j else .ok v

end Sim8080.Json
