
namespace Sim8080.Decimal

/-- A decimal `digits · 10^exponent`. -/
structure Scientific where
  digits : Nat
  exponent : Int
  deriving Repr, DecidableEq

/-- A finite double decoded as `mantissa · 2^exponent`, with the width of the rounding
interval below it: the gap to the next smaller double is halved at a power of two. -/
structure Binary where
  mantissa : Nat
  exponent : Int
  lowerHalved : Bool
  deriving Repr

def Binary.ofBits (bits : UInt64) : Binary :=
  let e := ((bits >>> 52) &&& 0x7FF).toNat
  let f := (bits &&& 0xFFFFFFFFFFFFF).toNat
  if e == 0 then { mantissa := f, exponent := -1074, lowerHalved := false }
  else { mantissa := f + Nat.pow 2 52, exponent := (e : Int) - 1075, lowerHalved := f == 0 && e > 1 }

def digitCount (n : Nat) : Nat := (Nat.toDigits 10 n).length

def compareScaled (c : Nat) (p : Int) (x : Nat) (e : Int) : Ordering :=
  let lhs := c * Nat.pow 10 p.toNat * Nat.pow 2 (-e).toNat
  let rhs := x * Nat.pow 2 e.toNat * Nat.pow 10 (-p).toNat
  compare lhs rhs

def floorScaled (m : Nat) (q p : Int) : Nat :=
  (m * Nat.pow 2 q.toNat * Nat.pow 10 (-p).toNat) / (Nat.pow 2 (-q).toNat * Nat.pow 10 p.toNat)

def floorLog10 (m : Nat) (q : Int) : Int :=
  if q ≥ 0 then (digitCount (m * Nat.pow 2 q.toNat) : Int) - 1
  else
    let den := Nat.pow 2 (-q).toNat
    if m ≥ den then (digitCount (m / den) : Int) - 1
    else
      -- the least `j` with `m · 10^j ≥ den`
      let guess := digitCount den - digitCount m
      let j := (((List.range 4).map (fun i => guess + i - 1)).find? (fun j => m * Nat.pow 10 j ≥ den)).getD guess
      (0 : Int) - j

def Scientific.trim (s : Scientific) : Scientific :=
  let rec go (fuel d : Nat) (p : Int) : Scientific :=
    match fuel with
    | 0 => ⟨d, p⟩
    | fuel + 1 => if d != 0 && d % 10 == 0 then go fuel (d / 10) (p + 1) else ⟨d, p⟩
  go (digitCount s.digits) s.digits s.exponent

def Binary.shortest (b : Binary) : Scientific :=
  let m := b.mantissa
  let e := b.exponent - 2
  -- in units of 2^e the value is 4m and the interval runs from `low` to `high`
  let v := 4 * m
  let low := if b.lowerHalved then 4 * m - 1 else 4 * m - 2
  let high := 4 * m + 2
  let inclusive := m % 2 == 0
  let inside (c : Nat) (p : Int) : Bool :=
    let lo := compareScaled c p low e
    let hi := compareScaled c p high e
    if inclusive then lo != .lt && hi != .gt else lo == .gt && hi == .lt
  let k := floorLog10 m b.exponent
  let pick (n : Nat) : Option Scientific :=
    let p := k + 1 - n
    let c₀ := floorScaled m b.exponent p
    let c₁ := c₀ + 1
    match inside c₀ p, inside c₁ p with
    | false, false => none
    | true, false => some ⟨c₀, p⟩
    | false, true => some ⟨c₁, p⟩
    | true, true =>
      -- distances from the value, in units of 10^p · 2^e scaled together
      let d₀ := compareScaled c₀ p v e
      let below := c₀ * Nat.pow 10 p.toNat * Nat.pow 2 (-e).toNat
      let above := c₁ * Nat.pow 10 p.toNat * Nat.pow 2 (-e).toNat
      let value := v * Nat.pow 2 e.toNat * Nat.pow 10 (-p).toNat
      if d₀ == .eq then some ⟨c₀, p⟩
      else if value - below < above - value then some ⟨c₀, p⟩
      else if above - value < value - below then some ⟨c₁, p⟩
      else if c₀ % 2 == 0 then some ⟨c₀, p⟩ else some ⟨c₁, p⟩
  match ((List.range 17).map (· + 1)).findSome? pick with
  | some s => s.trim
  | none => (Scientific.mk (floorScaled m b.exponent (k - 16)) (k - 16)).trim

def shortest (x : Float) : Scientific := (Binary.ofBits x.toBits).shortest

end Sim8080.Decimal
