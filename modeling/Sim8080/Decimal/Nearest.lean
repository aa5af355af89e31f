import Sim8080.Decimal.Shortest

namespace Sim8080.Decimal

def floorLog2 (num den : Nat) : Int :=
  let q : Int := (num.log2 : Int) - den.log2
  let below := if 0 ≤ q then num < den * Nat.pow 2 q.toNat else num * Nat.pow 2 (-q).toNat < den
  if below then q - 1 else q

def roundHalfEven (num den : Nat) : Nat :=
  let q := num / den
  let r := num % den
  if 2 * r > den || (2 * r == den && q % 2 == 1) then q + 1 else q

def nearest (m : Nat) (e : Int) : Float :=
  let d : Int := digitCount m
  if m == 0 then 0
  else if d + e > 310 then Float.ofScientific 1 false 400
  else if d + e < -330 then 0
  else
    let num := m * Nat.pow 10 e.toNat
    let den := Nat.pow 10 (-e).toNat
    let exp := max (floorLog2 num den - 52) (-1074)
    let significand :=
      if 0 ≤ exp then roundHalfEven num (den * Nat.pow 2 exp.toNat)
      else roundHalfEven (num * Nat.pow 2 (-exp).toNat) den
    (Float.ofNat significand).scaleB exp

end Sim8080.Decimal
