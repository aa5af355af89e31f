import Sim8080.Decimal.Shortest

namespace Sim8080.Decimal

def zeros (n : Nat) : String := String.ofList (List.replicate n '0')

def Scientific.layout (s : Scientific) : String × Int :=
  let text := toString s.digits
  (text, (text.length : Int) + s.exponent)

def splitAt (text : String) (k : Nat) : String :=
  String.ofList (text.toList.take k) ++ "." ++ String.ofList (text.toList.drop k)

def plainText (x : Float) : String :=
  if x.isNaN then "NaN"
  else
    let sign := if x.toBits >>> 63 == 1 then "-" else ""
    if x.isInf then sign ++ "inf"
    else if x == 0 then sign ++ "0"
    else
      let s := shortest x
      let (text, kk) := s.layout
      let body :=
        if kk ≤ 0 then "0." ++ zeros (-kk).toNat ++ text
        else if 0 ≤ s.exponent then text ++ zeros s.exponent.toNat
        else splitAt text kk.toNat
      sign ++ body

end Sim8080.Decimal
