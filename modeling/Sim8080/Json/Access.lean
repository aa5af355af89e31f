import Sim8080.Json.Value

namespace Sim8080.Json

def natD (j : Json) (k : String) (d : Nat) : Nat := ((j.get? k).bind asNat?).getD d

def intD (j : Json) (k : String) (d : Int) : Int := ((j.get? k).bind asInt?).getD d

def boolD (j : Json) (k : String) (d : Bool) : Bool := ((j.get? k).bind asBool?).getD d

def stringD (j : Json) (k : String) (d : String) : String := ((j.get? k).bind asString?).getD d

def hexCharValue (c : Char) : Option Nat :=
  if '0' ≤ c && c ≤ '9' then some (c.toNat - '0'.toNat)
  else if 'a' ≤ c && c ≤ 'f' then some (c.toNat - 'a'.toNat + 10)
  else if 'A' ≤ c && c ≤ 'F' then some (c.toNat - 'A'.toNat + 10)
  else none

def bytesOfHex (s : String) : Option (List UInt8) :=
  let ds := (s.toList.filter (fun c => !c.isWhitespace)).map hexCharValue
  if ds.any Option.isNone then none
  else
    let ns := ds.filterMap id
    let rec pairs : List Nat → Option (List UInt8)
      | [] => some []
      | [_] => none
      | hi :: lo :: rest => (pairs rest).map fun bs => (hi * 16 + lo).toUInt8 :: bs
    pairs ns

def asBytes? : Json → Option (List UInt8)
  | arr xs => xs.toList.mapM fun x => (asNat? x).map Nat.toUInt8
  | str s => bytesOfHex s
  | _ => none

def bytesD (j : Json) (k : String) : List UInt8 := ((j.get? k).bind asBytes?).getD []

def listD (j : Json) (k : String) : List Json := ((j.get? k).bind asArray?).map (·.toList) |>.getD []

def ofBytes (bs : List UInt8) : Json := arr (bs.map (fun b => ofNat b.toNat)).toArray

def ofNatOption : Option Nat → Json
  | some n => ofNat n
  | none => null

def ofStringOption : Option String → Json
  | some s => str s
  | none => null

end Sim8080.Json

namespace Sim8080.Json

def failure (kind message : String) : Json := mkObj [("error", str kind), ("message", str message)]

end Sim8080.Json
