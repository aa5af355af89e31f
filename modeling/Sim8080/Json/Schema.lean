import Sim8080.Json.Read
import Sim8080.Json.Decode

namespace Sim8080.Json

/-- What is wrong with a text read against a schema. -/
inductive TextFault where
  | malformed (c : SyntaxCode)
  | mismatch (e : DecodeError)

def TextFault.message : TextFault → String
  | .malformed c => c.message
  | .mismatch e => e.message

/-- A fault and where it is. -/
structure TextError where
  fault : TextFault
  line : Nat
  column : Nat

def TextError.message (e : TextError) : String :=
  e.fault.message ++ s!" at line {e.line} column {e.column}"

def TextError.ofSyntax (e : SyntaxError) : TextError := ⟨.malformed e.code, e.line, e.column⟩

/-- The shape of a value. -/
inductive Schema where
  | unsigned (name : String) (max : Nat)
  | boolean
  | string
  | list (elem : Schema)
  | tuple (elems : List Schema)
  | struct (name : String) (fields : List (String × Bool × Schema))

def unexpectedNumber : Number → Unexpected
  | .nat n => .unsigned n
  | .neg n => .signed n
  | .float x => .float x

namespace Reader

variable (r : Reader)

def errAt (f : TextFault) (i : Nat) : TextError :=
  let (line, column) := position r.bytes i
  ⟨f, line, column⟩

def errAhead (f : TextFault) (i : Nat) : TextError := r.errAt f (min (i + 1) r.bytes.size)

def wrongKind (expected : String) (i : Nat) : TextError :=
  let found (u : Unexpected) (j : Nat) := r.errAt (.mismatch (.invalidType u expected)) j
  let word (w : List UInt8) (u : Unexpected) :=
    match r.ident w (i + 1) with
    | .ok j => found u j
    | .error e => .ofSyntax e
  match r.peek i with
  | some 110 => word [117, 108, 108] .unit
  | some 116 => word [114, 117, 101] (.bool true)
  | some 102 => word [97, 108, 115, 101] (.bool false)
  | some 45 =>
    match r.number false (i + 1) with
    | .ok (n, j) => found (unexpectedNumber n) j
    | .error e => .ofSyntax e
  | some 34 =>
    match r.string (i + 1) with
    | .ok (s, j) => found (.str s) j
    | .error e => .ofSyntax e
  | some 91 => found .seq i
  | some 123 => found .map i
  | some c =>
    if isDigit c then
      match r.number true i with
      | .ok (n, j) => found (unexpectedNumber n) j
      | .error e => .ofSyntax e
    else r.errAhead (.malformed .expectedSomeValue) i
  | none => r.errAhead (.malformed .expectedSomeValue) i

def nextElement (first : Bool) (i : Nat) : Except TextError (Option Nat) :=
  let i := r.skipBlanks i
  match r.peek i with
  | none => .error (r.errAhead (.malformed .eofWhileParsingList) i)
  | some 93 => .ok none
  | some c =>
    if first then .ok (some i)
    else if c == 44 then
      let k := r.skipBlanks (i + 1)
      match r.peek k with
      | some 93 => .error (r.errAhead (.malformed .trailingComma) k)
      | none => .error (r.errAhead (.malformed .eofWhileParsingValue) k)
      | some _ => .ok (some k)
    else .error (r.errAhead (.malformed .expectedListCommaOrEnd) i)

def endList (i : Nat) : Except TextError Nat :=
  let i := r.skipBlanks i
  match r.peek i with
  | some 93 => .ok (i + 1)
  | some 44 =>
    let k := r.skipBlanks (i + 1)
    if r.peek k == some 93 then .error (r.errAhead (.malformed .trailingComma) k)
    else .error (r.errAhead (.malformed .trailingCharacters) k)
  | some _ => .error (r.errAhead (.malformed .trailingCharacters) i)
  | none => .error (r.errAhead (.malformed .eofWhileParsingList) i)

def colon (j : Nat) : Except TextError Nat :=
  let m := r.skipBlanks j
  match r.peek m with
  | some 58 => .ok (m + 1)
  | some _ => .error (r.errAhead (.malformed .expectedColon) m)
  | none => .error (r.errAhead (.malformed .eofWhileParsingObject) m)

def nextKey (first : Bool) (i : Nat) : Except TextError (Option Nat) :=
  let i := r.skipBlanks i
  let check (k : Nat) : Except TextError (Option Nat) :=
    match r.peek k with
    | some 34 => .ok (some k)
    | some 125 => .error (r.errAhead (.malformed .trailingComma) k)
    | some _ => .error (r.errAhead (.malformed .keyMustBeAString) k)
    | none => .error (r.errAhead (.malformed .eofWhileParsingValue) k)
  match r.peek i with
  | none => .error (r.errAhead (.malformed .eofWhileParsingObject) i)
  | some 125 => .ok none
  | some c =>
    if c == 44 && !first then check (r.skipBlanks (i + 1))
    else if first then check i
    else .error (r.errAhead (.malformed .expectedObjectCommaOrEnd) i)

def lift {α : Type} : Except SyntaxError α → Except TextError α
  | .ok a => .ok a
  | .error e => .error (.ofSyntax e)

mutual

def read (fuel depth : Nat) (s : Schema) (i : Nat) : Except TextError (Json × Nat) :=
  match fuel with
  | 0 => .error (r.errAt (.malformed .recursionLimitExceeded) i)
  | fuel + 1 =>
    let i := r.skipBlanks i
    match r.peek i with
    | none => .error (r.errAhead (.malformed .eofWhileParsingValue) i)
    | some c =>
      let opening (k : Nat → Except TextError (Json × Nat)) : Except TextError (Json × Nat) :=
        if depth ≤ 1 then .error (r.errAhead (.malformed .recursionLimitExceeded) i) else k (depth - 1)
      match s with
      | .unsigned name max =>
        let check (n : Number) (j : Nat) : Except TextError (Json × Nat) :=
          match n with
          | .nat n =>
            if n ≤ max then .ok (.num (.nat n), j)
            else .error (r.errAt (.mismatch (.invalidValue (.unsigned n) name)) j)
          | .neg n => .error (r.errAt (.mismatch (.invalidValue (.signed n) name)) j)
          | .float x => .error (r.errAt (.mismatch (.invalidType (.float x) name)) j)
        if c == 45 then
          match r.number false (i + 1) with
          | .ok (n, j) => check n j
          | .error e => .error (.ofSyntax e)
        else if isDigit c then
          match r.number true i with
          | .ok (n, j) => check n j
          | .error e => .error (.ofSyntax e)
        else .error (r.wrongKind name i)
      | .boolean =>
        if c == 116 then lift ((r.ident [114, 117, 101] (i + 1)).map fun j => (.bool true, j))
        else if c == 102 then lift ((r.ident [97, 108, 115, 101] (i + 1)).map fun j => (.bool false, j))
        else .error (r.wrongKind "a boolean" i)
      | .string =>
        if c == 34 then lift ((r.string (i + 1)).map fun (t, j) => (.str t, j))
        else .error (r.wrongKind "a string" i)
      | .list elem =>
        if c == 91 then opening fun d =>
          match items fuel d elem #[] true (i + 1) with
          | .ok (xs, j) => .ok (.arr xs, j + 1)
          | .error e => .error e
        else .error (r.wrongKind "a sequence" i)
      | .tuple elems =>
        let expected := s!"a tuple of size {elems.length}"
        if c == 91 then opening fun d =>
          match tupleItems fuel d elems #[] true (i + 1) with
          | .ok (.inl k, j) => .error (r.errAt (.mismatch (.invalidLength k expected)) (j + 1))
          | .ok (.inr xs, j) => (r.endList j).map fun j => (.arr xs, j)
          | .error e => .error e
        else .error (r.wrongKind expected i)
      | .struct name fields =>
        if c == 91 then opening fun d =>
          let expected := s!"struct {name} with {fields.length} elements"
          match seqFields fuel d fields 0 #[] true (i + 1) with
          | .ok (.inl k, j) => .error (r.errAt (.mismatch (.invalidLength k expected)) (j + 1))
          | .ok (.inr ms, j) => (r.endList j).map fun j => (.obj ms, j)
          | .error e => .error e
        else if c == 123 then opening fun d =>
          match recordFields fuel d fields #[] true (i + 1) with
          | .ok (ms, j) =>
            match fields.find? (fun (f, opt, _) => !opt && !ms.any (·.1 == f)) with
            | some (f, _, _) => .error (r.errAt (.mismatch (.missingField f)) (j + 1))
            | none => .ok (.obj ms, j + 1)
          | .error e => .error e
        else .error (r.wrongKind s!"struct {name}" i)

def items (fuel depth : Nat) (elem : Schema) (acc : Array Json) (first : Bool) (i : Nat) :
    Except TextError (Array Json × Nat) :=
  match fuel with
  | 0 => .error (r.errAt (.malformed .recursionLimitExceeded) i)
  | fuel + 1 =>
    match r.nextElement first i with
    | .error e => .error e
    | .ok none => .ok (acc, r.skipBlanks i)
    | .ok (some k) =>
      match read fuel depth elem k with
      | .ok (v, j) => items fuel depth elem (acc.push v) false j
      | .error e => .error e

def tupleItems (fuel depth : Nat) (elems : List Schema) (acc : Array Json) (first : Bool)
    (i : Nat) : Except TextError ((Nat ⊕ Array Json) × Nat) :=
  match fuel, elems with
  | 0, _ => .error (r.errAt (.malformed .recursionLimitExceeded) i)
  | _, [] => .ok (.inr acc, i)
  | fuel + 1, s :: rest =>
    match r.nextElement first i with
    | .error e => .error e
    | .ok none => .ok (.inl acc.size, r.skipBlanks i)
    | .ok (some k) =>
      match read fuel depth s k with
      | .ok (v, j) => tupleItems fuel depth rest (acc.push v) false j
      | .error e => .error e

def seqFields (fuel depth : Nat) (fields : List (String × Bool × Schema)) (index : Nat)
    (acc : Array (String × Json)) (first : Bool) (i : Nat) :
    Except TextError ((Nat ⊕ Array (String × Json)) × Nat) :=
  match fuel, fields with
  | 0, _ => .error (r.errAt (.malformed .recursionLimitExceeded) i)
  | _, [] => .ok (.inr acc, i)
  | fuel + 1, (name, optional, s) :: rest =>
    match r.nextElement first i with
    | .error e => .error e
    | .ok none =>
      if optional then seqFields fuel depth rest (index + 1) acc first i
      else .ok (.inl index, r.skipBlanks i)
    | .ok (some k) =>
      match read fuel depth s k with
      | .ok (v, j) => seqFields fuel depth rest (index + 1) (insertMember acc name v) false j
      | .error e => .error e

def recordFields (fuel depth : Nat) (fields : List (String × Bool × Schema))
    (acc : Array (String × Json)) (first : Bool) (i : Nat) :
    Except TextError (Array (String × Json) × Nat) :=
  match fuel with
  | 0 => .error (r.errAt (.malformed .recursionLimitExceeded) i)
  | fuel + 1 =>
    match r.nextKey first i with
    | .error e => .error e
    | .ok none => .ok (acc, r.skipBlanks i)
    | .ok (some k) =>
      match r.string (k + 1) with
      | .error e => .error (.ofSyntax e)
      | .ok (key, j) =>
        match fields.find? (·.1 == key) with
        | some (_, _, s) =>
          if acc.any (·.1 == key) then
            let m := r.skipBlanks j
            let m := if r.peek m == some 125 then m + 1 else m
            .error (r.errAt (.mismatch (.duplicateField key)) m)
          else
            match r.colon j with
            | .error e => .error e
            | .ok m =>
              match read fuel depth s m with
              | .ok (v, j) => recordFields fuel depth fields (insertMember acc key v) false j
              | .error e => .error e
        | none =>
          match r.colon j with
          | .error e => .error e
          | .ok m =>
            match r.value fuel (r.bytes.size + 2) m with
            | .ok (_, j) => recordFields fuel depth fields acc false j
            | .error e => .error (.ofSyntax e)

end

end Reader

def Schema.parse (s : Schema) (text : String) : Except TextError Json :=
  let r : Reader := ⟨text.toUTF8⟩
  match r.read (r.bytes.size + 2) 128 s 0 with
  | .error e => .error e
  | .ok (v, i) =>
    let j := r.skipBlanks i
    if j < r.bytes.size then .error (r.errAhead (.malformed .trailingCharacters) j) else .ok v

end Sim8080.Json
