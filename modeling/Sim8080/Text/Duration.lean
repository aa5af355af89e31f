
namespace Sim8080

namespace Duration

def unitOf (nanos : Nat) : Nat × String :=
  if nanos ≥ 1000000000 then (1000000000, "s")
  else if nanos ≥ 1000000 then (1000000, "ms")
  else if nanos ≥ 1000 then (1000, "µs")
  else (1, "ns")

def thousandths (value scale : Nat) : Nat :=
  let rest := value * 1000 % scale
  value * 1000 / scale + (if 0 < rest && scale ≤ 2 * rest then 1 else 0)

def text (nanos : Nat) : String :=
  let (scale, symbol) := unitOf nanos
  let t := thousandths nanos scale
  let frac := toString (t % 1000)
  toString (t / 1000) ++ "." ++ String.ofList (List.replicate (3 - frac.length) '0') ++ frac ++
    symbol

end Duration

end Sim8080
