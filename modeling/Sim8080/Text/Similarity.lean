
namespace Sim8080.Text

def jaro (a b : String) : Float :=
  let as := a.toList.toArray
  let bs := b.toList.toArray
  let la := as.size
  let lb := bs.size
  if la == 0 && lb == 0 then 1.0
  else if la == 0 || lb == 0 then 0.0
  else
    let range := max la lb / 2 - 1
    let (aFlags, bFlags, hits) := (List.range la).foldl (fun (af, bf, m) i =>
      let lo := i - range
      let hi := min lb (i + range + 1)
      let c := as.getD i ' '
      match (List.range hi).find? (fun j => lo ≤ j && bs.getD j ' ' == c && !bf.getD j true) with
      | some j => (af.set! i true, bf.set! j true, m + 1)
      | none => (af, bf, m)) (Array.replicate la false, Array.replicate lb false, 0)
    if hits == 0 then 0.0
    else
      let aMatched := (List.range la).filter (aFlags.getD · false) |>.map (as.getD · ' ')
      let bMatched := (List.range lb).filter (bFlags.getD · false) |>.map (bs.getD · ' ')
      let t := ((aMatched.zip bMatched).filter fun (x, y) => x != y).length / 2
      let m := hits.toFloat
      (m / la.toFloat + m / lb.toFloat + (hits - t).toFloat / m) / 3.0

end Sim8080.Text
