import Sim8080.Codec.Checksum

namespace Sim8080.Inflate

/-- Why a stream does not decode. -/
inductive Failure where
  | truncated
  | corrupt
  deriving Repr, DecidableEq

/-- Bits of a byte string, read from a bit position on. -/
structure Bits where
  data : ByteArray
  pos : Nat

abbrev Read (α : Type) := Except Failure (α × Bits)

namespace Bits

def take (r : Bits) (n : Nat) : Read Nat :=
  if (r.pos + n + 7) / 8 ≤ r.data.size then
    let v := (List.range n).foldl (fun acc i =>
      let p := r.pos + i
      acc ||| ((((r.data.get! (p / 8)).toNat >>> (p % 8)) &&& 1) <<< i)) 0
    .ok (v, { r with pos := r.pos + n })
  else .error .truncated

def align (r : Bits) : Bits := { r with pos := (r.pos + 7) / 8 * 8 }

def byteOffset (r : Bits) : Nat := r.pos / 8

end Bits

/-- A canonical Huffman code: how many codes of each length, and the symbols in code order. -/
structure Code where
  counts : Array Nat
  symbols : Array Nat

namespace Code

def ofLengths (lengths : Array Nat) : Except Failure Code :=
  let counts := lengths.foldl (fun c l => c.modify l (· + 1)) (Array.replicate 16 0)
  let counts := counts.set! 0 0
  -- the code space left after each length, in units of the longest code
  let left : Int := (List.range 15).foldl (fun left i => left * 2 - counts[i + 1]!) 1
  let used := (lengths.filter (· != 0)).size
  let overSubscribed := (List.range 15).any fun len =>
    ((List.range (len + 1)).foldl (fun left i => left * 2 - (counts[i + 1]! : Int)) 1) < 0
  if (overSubscribed || left != 0) && used > 1 then .error .corrupt
  else
    let symbols := (List.range 16).foldl (fun acc len =>
      if len == 0 then acc
      else acc ++ ((List.range lengths.size).filter (fun s => lengths[s]! == len)).toArray) #[]
    .ok { counts, symbols }

def decode (c : Code) (r : Bits) : Read Nat :=
  let rec go (len code first index : Nat) (r : Bits) (fuel : Nat) : Read Nat :=
    match fuel with
    | 0 => .error .corrupt
    | fuel + 1 =>
      match r.take 1 with
      | .error e => .error e
      | .ok (b, r) =>
        let code := code ||| b
        let count := c.counts[len]!
        if code < first + count then .ok (c.symbols[index + (code - first)]!, r)
        else go (len + 1) (code <<< 1) ((first + count) <<< 1) (index + count) r fuel
  go 1 0 0 0 r 15

end Code

def lengthBase : Array Nat :=
  #[3, 4, 5, 6, 7, 8, 9, 10, 11, 13, 15, 17, 19, 23, 27, 31, 35, 43, 51, 59, 67, 83, 99, 115,
    131, 163, 195, 227, 258]
def lengthExtra : Array Nat :=
  #[0, 0, 0, 0, 0, 0, 0, 0, 1, 1, 1, 1, 2, 2, 2, 2, 3, 3, 3, 3, 4, 4, 4, 4, 5, 5, 5, 5, 0]
def distanceBase : Array Nat :=
  #[1, 2, 3, 4, 5, 7, 9, 13, 17, 25, 33, 49, 65, 97, 129, 193, 257, 385, 513, 769, 1025, 1537,
    2049, 3073, 4097, 6145, 8193, 12289, 16385, 24577]
def distanceExtra : Array Nat :=
  #[0, 0, 0, 0, 1, 1, 2, 2, 3, 3, 4, 4, 5, 5, 6, 6, 7, 7, 8, 8, 9, 9, 10, 10, 11, 11, 12, 12,
    13, 13]

def lengthOrder : List Nat := [16, 17, 18, 0, 8, 7, 9, 6, 10, 5, 11, 4, 12, 3, 13, 2, 14, 1, 15]

def fixedCodes : Except Failure (Code × Code) := do
  let lit := (Array.range 288).map fun s =>
    if s < 144 then 8 else if s < 256 then 9 else if s < 280 then 7 else 8
  pure (← Code.ofLengths lit, ← Code.ofLengths (Array.replicate 32 5))

/-- Output so far and whether the size limit was reached. -/
structure Out where
  bytes : ByteArray
  limit : Nat

def Out.full (o : Out) : Bool := o.bytes.size ≥ o.limit

def Out.copy (o : Out) (dist len : Nat) : Out :=
  (List.range len).foldl (fun o _ =>
    if o.full then o else { o with bytes := o.bytes.push (o.bytes.get! (o.bytes.size - dist)) }) o

def symbols (lit dist : Code) (fuel : Nat) (o : Out) (r : Bits) : Except Failure (Out × Bits) :=
  match fuel with
  | 0 => .error .truncated
  | fuel + 1 =>
    if o.full then .ok (o, r)
    else
      match lit.decode r with
      | .error e => .error e
      | .ok (sym, r) =>
        if sym < 256 then symbols lit dist fuel { o with bytes := o.bytes.push sym.toUInt8 } r
        else if sym == 256 then .ok (o, r)
        else if sym > 285 then .error .corrupt
        else
          let i := sym - 257
          match r.take lengthExtra[i]! with
          | .error e => .error e
          | .ok (extra, r) =>
            let len := lengthBase[i]! + extra
            match dist.decode r with
            | .error e => .error e
            | .ok (dsym, r) =>
              if dsym ≥ 30 then .error .corrupt
              else
                match r.take distanceExtra[dsym]! with
                | .error e => .error e
                | .ok (dextra, r) =>
                  let d := distanceBase[dsym]! + dextra
                  if d > o.bytes.size then .error .corrupt
                  else symbols lit dist fuel (o.copy d len) r

def readLengths (cl : Code) (total : Nat) (fuel : Nat) (acc : Array Nat) (r : Bits) :
    Read (Array Nat) :=
  match fuel with
  | 0 => .error .corrupt
  | fuel + 1 =>
    if acc.size ≥ total then .ok (acc, r)
    else
      match cl.decode r with
      | .error e => .error e
      | .ok (sym, r) =>
        if sym < 16 then readLengths cl total fuel (acc.push sym) r
        else
          let (bits, base, value) :=
            if sym == 16 then (2, 3, acc.back?.getD 0) else if sym == 17 then (3, 3, 0) else (7, 11, 0)
          if sym == 16 && acc.isEmpty then .error .corrupt
          else
            match r.take bits with
            | .error e => .error e
            | .ok (n, r) =>
              let count := base + n
              if acc.size + count > total then .error .corrupt
              else readLengths cl total fuel (acc ++ Array.replicate count value) r

def dynamicCodes (r : Bits) : Except Failure ((Code × Code) × Bits) := do
  let (hlit, r) ← r.take 5
  let (hdist, r) ← r.take 5
  let (hclen, r) ← r.take 4
  let nlit := hlit + 257
  let ndist := hdist + 1
  let (clens, r) ← (List.range (hclen + 4)).foldlM (fun (acc, r) i => do
    let (v, r) ← r.take 3
    pure (acc.set! (lengthOrder.getD i 0) v, r)) (Array.replicate 19 0, r)
  if nlit > 286 || ndist > 30 then throw .corrupt
  let cl ← Code.ofLengths clens
  let (lengths, r) ← readLengths cl (nlit + ndist) (nlit + ndist + 1) #[] r
  let lit ← Code.ofLengths (lengths.extract 0 nlit)
  let dist ← Code.ofLengths (lengths.extract nlit (nlit + ndist))
  pure ((lit, dist), r)

def stored (o : Out) (r : Bits) : Except Failure (Out × Bits) :=
  let r := r.align
  let i := r.byteOffset
  if i + 4 > r.data.size then .error .truncated
  else
    let len := (r.data.get! i).toNat + (r.data.get! (i + 1)).toNat * 256
    let nlen := (r.data.get! (i + 2)).toNat + (r.data.get! (i + 3)).toNat * 256
    if len + nlen != 65535 then .error .corrupt
    else
      let room := o.limit - o.bytes.size
      let n := min len room
      if i + 4 + n > r.data.size then .error .truncated
      else
        let o := { o with bytes := o.bytes ++ r.data.extract (i + 4) (i + 4 + n) }
        if n < len then .ok (o, r) else .ok (o, { r with pos := (i + 4 + len) * 8 })

/-- How a stream ended: with its last block, at the given byte offset, or at the limit. -/
inductive Ending where
  | complete (next : Nat)
  | limited
  deriving Repr, DecidableEq

def blocks (fuel : Nat) (o : Out) (r : Bits) : Except Failure (Out × Ending) :=
  match fuel with
  | 0 => .error .truncated
  | fuel + 1 =>
    if o.full then .ok (o, .limited)
    else
      match r.take 3 with
      | .error e => .error e
      | .ok (header, r) =>
        let last := header &&& 1 == 1
        let next (res : Except Failure (Out × Bits)) : Except Failure (Out × Ending) :=
          match res with
          | .error e => .error e
          | .ok (o, r) =>
            if o.full then .ok (o, .limited)
            else if last then .ok (o, .complete r.align.byteOffset)
            else blocks fuel o r
        match header >>> 1 with
        | 0 => next (stored o r)
        | 1 =>
          match fixedCodes with
          | .ok (lit, dist) => next (symbols lit dist (r.data.size * 8 + 1) o r)
          | .error e => .error e
        | 2 =>
          match dynamicCodes r with
          | .ok ((lit, dist), r) => next (symbols lit dist (r.data.size * 8 + 1) o r)
          | .error e => .error e
        | _ => .error .corrupt

def run (data : ByteArray) (start limit : Nat) : Except Failure (ByteArray × Ending) :=
  match blocks (data.size * 8 + 2) ⟨ByteArray.empty, limit⟩ ⟨data, start * 8⟩ with
  | .ok (o, e) => .ok (o.bytes, e)
  | .error e => .error e

end Sim8080.Inflate
