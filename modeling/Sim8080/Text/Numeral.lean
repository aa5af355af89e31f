import Sim8080.Decimal.Nearest

namespace Sim8080.Numeral

/-- Why text is not an integer in range. -/
inductive IntegerError where
  | empty
  | invalidDigit
  | aboveRange
  | belowRange
  deriving Repr, DecidableEq, Inhabited

def IntegerError.message : IntegerError → String
  | .empty => "cannot parse integer from empty string"
  | .invalidDigit => "invalid digit found in string"
  | .aboveRange => "number too large to fit in target type"
  | .belowRange => "number too small to fit in target type"

def digitValue (radix : Nat) (c : Char) : Option Nat :=
  let v :=
    if '0' ≤ c && c ≤ '9' then some (c.toNat - 48)
    else if 'a' ≤ c && c ≤ 'z' then some (c.toNat - 87)
    else if 'A' ≤ c && c ≤ 'Z' then some (c.toNat - 55)
    else none
  v.filter (· < radix)

def accumulate (radix : Nat) (negative : Bool) (lo hi : Int) : List Char → Int → Except IntegerError Int
  | [], acc => .ok acc
  | c :: cs, acc =>
    match digitValue radix c with
    | none => .error .invalidDigit
    | some d =>
      let next := if negative then acc * radix - d else acc * radix + d
      if next > hi then .error .aboveRange
      else if next < lo then .error .belowRange
      else accumulate radix negative lo hi cs next

def readInteger (s : String) (radix : Nat) (lo hi : Int) : Except IntegerError Int :=
  match s.toList with
  | [] => .error .empty
  | ['+'] | ['-'] => .error .invalidDigit
  | '+' :: cs => accumulate radix false lo hi cs 0
  | '-' :: cs =>
    if lo < 0 then accumulate radix true lo hi cs 0 else accumulate radix false lo hi ('-' :: cs) 0
  | cs => accumulate radix false lo hi cs 0

/-- Why text is not a decimal fraction. -/
inductive FloatError where
  | empty
  | invalid
  deriving Repr, DecidableEq, Inhabited

def FloatError.message : FloatError → String
  | .empty => "cannot parse float from empty string"
  | .invalid => "invalid float literal"

def digitsValue (ds : List Char) : Nat := ds.foldl (fun n c => n * 10 + (c.toNat - 48)) 0

def decimalParts (body : List Char) : Option (Nat × Int) :=
  let whole := body.takeWhile Char.isDigit
  let rest := body.dropWhile Char.isDigit
  let (fraction, rest) := match rest with
    | '.' :: r => (r.takeWhile Char.isDigit, r.dropWhile Char.isDigit)
    | r => ([], r)
  if whole.length + fraction.length == 0 then none
  else
    let m := digitsValue (whole ++ fraction)
    let scale : Int := -(fraction.length : Int)
    match rest with
    | [] => some (m, scale)
    | c :: r =>
      if c != 'e' && c != 'E' then none
      else
        let (negative, ds) := match r with
          | '-' :: ds => (true, ds)
          | '+' :: ds => (false, ds)
          | ds => (false, ds)
        if ds.isEmpty || !ds.all Char.isDigit then none
        else
          let k : Int := digitsValue ds
          some (m, if negative then scale - k else scale + k)

def readFloat (s : String) : Except FloatError Float :=
  match s.toList with
  | [] => .error .empty
  | c :: rest =>
    let (negative, body) :=
      if c == '-' then (true, rest) else if c == '+' then (false, rest) else (false, c :: rest)
    let sign (x : Float) : Float := if negative then -x else x
    if body.isEmpty then .error .invalid
    else
      match decimalParts body with
      | some (m, e) => .ok (sign (Decimal.nearest m e))
      | none =>
        let word := String.ofList (body.map Char.toLower)
        if word == "inf" || word == "infinity" then .ok (sign (Decimal.nearest 1 400))
        else if word == "nan" then .ok (sign (0.0 / 0.0))
        else .error .invalid

end Sim8080.Numeral
