
namespace Sim8080

/-- A JSON number. -/
inductive Number where
  | nat (n : Nat)
  | neg (n : Int)
  | float (x : Float)
  deriving Inhabited

/-- A JSON value. -/
inductive Json where
  | null
  | bool (b : Bool)
  | num (n : Number)
  | str (s : String)
  | arr (xs : Array Json)
  | obj (members : Array (String × Json))
  deriving Inhabited

namespace Json

theorem sizeOf_member_lt {ms : Array (String × Json)} {kv : String × Json} (h : kv ∈ ms) :
    sizeOf kv.2 < 1 + sizeOf ms := by
  have := Array.sizeOf_lt_of_mem h
  cases kv
  simp only [Prod.mk.sizeOf_spec] at this ⊢
  omega

def ofNat (n : Nat) : Json := num (.nat n)

def ofInt (n : Int) : Json := if n < 0 then num (.neg n) else num (.nat n.toNat)

def insertMember (ms : Array (String × Json)) (k : String) (v : Json) :
    Array (String × Json) :=
  let before := ms.filter (·.1 < k)
  let after := ms.filter (k < ·.1)
  before.push (k, v) ++ after

def mkObj (ms : List (String × Json)) : Json :=
  obj (ms.foldl (fun acc (k, v) => insertMember acc k v) #[])

def get? (j : Json) (k : String) : Option Json :=
  match j with
  | obj ms => (ms.find? (·.1 == k)).map (·.2)
  | _ => none

def asString? : Json → Option String
  | str s => some s
  | _ => none

def asNat? : Json → Option Nat
  | num (.nat n) => some n
  | _ => none

def asInt? : Json → Option Int
  | num (.nat n) => some n
  | num (.neg n) => some n
  | _ => none

def asBool? : Json → Option Bool
  | bool b => some b
  | _ => none

def asArray? : Json → Option (Array Json)
  | arr xs => some xs
  | _ => none

def field (j : Json) (k : String) : Json := (j.get? k).getD null

end Json

end Sim8080
