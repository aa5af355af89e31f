import Sim8080.Toml.Document
import Sim8080.Text.Numeral

namespace Sim8080.Toml

/-- What a failure says about the construct being read. -/
inductive Context where
  | label (s : String)
  | expected (s : String)
  deriving Repr, Inhabited

/-- A failure: the characters left when it happened, what was being read, and its cause. -/
structure Failure where
  left : Nat
  context : List Context := []
  cause : Option String := none
  deriving Repr, Inhabited

namespace Failure

def push (f : Failure) (c : Context) : Failure := { f with context := f.context ++ [c] }

def message (f : Failure) : String :=
  let label := f.context.findSome? fun
    | .label s => some s
    | .expected _ => none
  let expected := f.context.filterMap fun
    | .expected s => some s
    | .label _ => none
  let parts :=
    (label.map ("invalid " ++ ·)).toList ++
    (if expected.isEmpty then [] else ["expected " ++ ", ".intercalate expected]) ++
    f.cause.toList
  "\n".intercalate parts

end Failure

/-- The answer of a reader. -/
inductive Step (α : Type) where
  | ok (a : α) (rest : List Char)
  | soft (f : Failure)
  | hard (f : Failure)
  deriving Inhabited

namespace Step

def map {α β : Type} (g : α → β) : Step α → Step β
  | ok a r => ok (g a) r
  | soft f => soft f
  | hard f => hard f

def note {α : Type} (c : Context) : Step α → Step α
  | ok a r => ok a r
  | soft f => soft (f.push c)
  | hard f => hard (f.push c)

def cut {α : Type} : Step α → Step α
  | soft f => hard f
  | s => s

end Step

def softAt {α : Type} (rest : List Char) (ctx : List Context := []) (cause : Option String := none) :
    Step α :=
  .soft { left := rest.length, context := ctx, cause }

def hardAt {α : Type} (rest : List Char) (ctx : List Context := []) (cause : Option String := none) :
    Step α :=
  .hard { left := rest.length, context := ctx, cause }

def expectChar (c : Char) : Context := .expected ("`" ++ String.singleton c ++ "`")

def expectNewline : Context := .expected "newline"

def expectDigit : Context := .expected "digit"

def stringExpected : List Context := [.label "string", expectChar '"', expectChar '\'']

def isBlank (c : Char) : Bool := c == ' ' || c == '\t'

def isDigit (c : Char) : Bool := '0' ≤ c && c ≤ '9'

def isHexDigit (c : Char) : Bool := isDigit c || ('a' ≤ c && c ≤ 'f') || ('A' ≤ c && c ≤ 'F')

def isNonAscii (c : Char) : Bool := c.toNat ≥ 0x80

def inRange (c : Char) (lo hi : Nat) : Bool := lo ≤ c.toNat && c.toNat ≤ hi

def isCommentChar (c : Char) : Bool := c == '\t' || inRange c 0x20 0x7E || isNonAscii c

def isBareKeyChar (c : Char) : Bool :=
  ('A' ≤ c && c ≤ 'Z') || ('a' ≤ c && c ≤ 'z') || isDigit c || c == '-' || c == '_'

def isBasicChar (c : Char) : Bool :=
  isBlank c || c.toNat == 0x21 || inRange c 0x23 0x5B || inRange c 0x5D 0x7E || isNonAscii c

def isLiteralChar (c : Char) : Bool :=
  c == '\t' || inRange c 0x20 0x26 || inRange c 0x28 0x7E || isNonAscii c

def skipBlanks (s : List Char) : List Char := s.dropWhile isBlank

def newline? : List Char → Option (List Char)
  | '\n' :: r => some r
  | '\r' :: '\n' :: r => some r
  | _ => none

def newline : List Char → Step Unit
  | '\n' :: r => .ok () r
  | '\r' :: '\n' :: r => .ok () r
  | '\r' :: r => softAt r
  | s => softAt s

def comment? : List Char → Option (List Char)
  | '#' :: r => some (r.dropWhile isCommentChar)
  | _ => none

def lineEnd (s : List Char) : Step Unit :=
  let s := skipBlanks s
  let s := (comment? s).getD s
  match s with
  | [] => .ok () []
  | '\n' :: r => .ok () r
  | '\r' :: '\n' :: r => .ok () r
  | s => softAt s

def gap : Nat → List Char → Step Unit
  | 0, s => .ok () s
  | fuel + 1, s =>
    let s := skipBlanks s
    match s with
    | '#' :: _ =>
      match newline ((comment? s).getD s) with
      | .ok _ r => gap fuel r
      | e => e
    | '\n' :: _ | '\r' :: _ =>
      match newline s with
      | .ok _ r => gap fuel r
      | e => e
    | s => .ok () s

def skipBlankLines : Nat → List Char → List Char
  | 0, s => s
  | fuel + 1, s =>
    match s with
    | c :: r => if isBlank c then skipBlankLines fuel r
      else match newline? s with
        | some r => skipBlankLines fuel r
        | none => s
    | [] => []

def digitsValue (radix : Nat) (ds : List Char) : Nat :=
  ds.foldl (fun n c => n * radix + ((Numeral.digitValue radix c).getD 0)) 0

def hexEscape (n : Nat) (s : List Char) : Step Char :=
  let ds := (s.takeWhile isHexDigit).take n
  if ds.length != n then softAt s
  else
    let v := digitsValue 16 ds
    if v < 0xD800 || (0xDFFF < v && v ≤ 0x10FFFF) then .ok (Char.ofNat v) (s.drop n)
    else softAt s [] (some "value is out of range")

def escape : List Char → Step Char
  | [] => softAt []
  | c :: r =>
    match c with
    | 'b' => .ok '\x08' r
    | 'f' => .ok '\x0c' r
    | 'n' => .ok '\n' r
    | 'r' => .ok '\r' r
    | 't' => .ok '\t' r
    | '\\' => .ok '\\' r
    | '"' => .ok '"' r
    | 'u' => ((hexEscape 4 r).note (.label "unicode 4-digit hex code")).cut
    | 'U' => ((hexEscape 8 r).note (.label "unicode 8-digit hex code")).cut
    | _ =>
      hardAt r ([.label "escape sequence"] ++
        ['b', 'f', 'n', 'r', 't', 'u', 'U', '\\', '"'].map expectChar)

def basicString : Nat → String → List Char → Step String
  | 0, _, s => hardAt s
  | fuel + 1, acc, s =>
    match s with
    | [] => hardAt [] [.label "basic string"]
    | c :: r =>
      if c == '"' then .ok acc r
      else if isBasicChar c then basicString fuel (acc.push c) r
      else if c == '\\' then
        match escape r with
        | .ok ch t => basicString fuel (acc.push ch) t
        | .hard f => .hard f
        | .soft _ => hardAt s [.label "basic string"]
      else hardAt s [.label "basic string"]

def literalString (s : List Char) : Step String :=
  let body := s.takeWhile isLiteralChar
  match s.drop body.length with
  | '\'' :: r => .ok (String.ofList body) r
  | r => hardAt r [.label "literal string"]

def closeQuotes (q : Char) (acc : String) : List Char → Step String
  | a :: b :: r => if a == q && b == q then .ok (acc.push q |>.push q) r
      else if a == q then .ok (acc.push q) (b :: r) else .ok acc (a :: b :: r)
  | [a] => if a == q then .ok (acc.push q) [] else .ok acc [a]
  | [] => .ok acc []

def multiBasic : Nat → String → List Char → Step String
  | 0, _, s => hardAt s
  | fuel + 1, acc, s =>
    match s with
    | '"' :: '"' :: '"' :: r => closeQuotes '"' acc r
    | '"' :: r => multiBasic fuel (acc.push '"') r
    | '\\' :: r =>
      match newline? (skipBlanks r) with
      | some t => multiBasic fuel acc (skipBlankLines t.length t)
      | none =>
        match escape r with
        | .ok ch t => multiBasic fuel (acc.push ch) t
        | .hard f => .hard f
        | .soft _ => hardAt s
    | c :: r =>
      if isBasicChar c then multiBasic fuel (acc.push c) r
      else match newline? s with
        | some t => multiBasic fuel (acc.push '\n') t
        | none => hardAt s
    | [] => hardAt []

def multiLiteral : Nat → String → List Char → Step String
  | 0, _, s => hardAt s
  | fuel + 1, acc, s =>
    match s with
    | '\'' :: '\'' :: '\'' :: r => closeQuotes '\'' acc r
    | '\'' :: r => multiLiteral fuel (acc.push '\'') r
    | c :: r =>
      if isLiteralChar c then multiLiteral fuel (acc.push c) r
      else match newline? s with
        | some t => multiLiteral fuel (acc.push '\n') t
        | none => hardAt s
    | [] => hardAt []

def string (s : List Char) : Step String :=
  match s with
  | '"' :: '"' :: '"' :: r =>
    let r := (newline? r).getD r
    (multiBasic (r.length + 1) "" r).note (.label "multiline basic string")
  | '"' :: r => basicString (r.length + 1) "" r
  | '\'' :: '\'' :: '\'' :: r =>
    let r := (newline? r).getD r
    (multiLiteral (r.length + 1) "" r).note (.label "multiline literal string")
  | '\'' :: r => literalString r
  | s => softAt s

def moreDigits (isD : Char → Bool) : List Char → Step Unit
  | c :: r =>
    if isD c then moreDigits isD r
    else if c == '_' then
      match r with
      | d :: t => if isD d then moreDigits isD t else hardAt r [expectDigit]
      | [] => hardAt [] [expectDigit]
    else .ok () (c :: r)
  | [] => .ok () []

def decInt (s : List Char) : Step Unit :=
  let digits := match s with
    | '+' :: r | '-' :: r => r
    | r => r
  let body : Step Unit := match digits with
    | c :: r =>
      if '1' ≤ c && c ≤ '9' then moreDigits isDigit r
      else if c == '0' then .ok () r
      else softAt digits
    | [] => softAt []
  body.note (.label "integer")

def leadingDigits : List Char → Step Unit
  | c :: r => if isDigit c then moreDigits isDigit r else softAt (c :: r)
  | [] => softAt []

def exponent : List Char → Step Unit
  | c :: r =>
    if c == 'e' || c == 'E' then
      let r := match r with
        | '+' :: t | '-' :: t => t
        | t => t
      (leadingDigits r).cut
    else softAt (c :: r)
  | [] => softAt []

def fraction : List Char → Step Unit
  | '.' :: r => ((leadingDigits r).cut).note expectDigit
  | s => softAt s

def floatText (s : List Char) : Step Unit :=
  match decInt s with
  | .ok _ r =>
    match exponent r with
    | .ok _ t => .ok () t
    | .hard f => .hard f
    | .soft _ =>
      match fraction r with
      | .ok _ t =>
        match exponent t with
        | .ok _ u => .ok () u
        | .hard f => .hard f
        | .soft _ => .ok () t
      | e => e
  | e => e

def infinity : Float := Decimal.nearest 1 400

def specialFloat (s : List Char) : Step Float :=
  let (negative, r) := match s with
    | '+' :: r => (false, r)
    | '-' :: r => (true, r)
    | r => (false, r)
  let sign (x : Float) : Float := if negative then -x else x
  match r with
  | 'i' :: 'n' :: 'f' :: t => .ok (sign infinity) t
  | 'n' :: 'a' :: 'n' :: t => .ok (sign (0.0 / 0.0)) t
  | t => softAt t

def consumed (s rest : List Char) : String :=
  String.ofList ((s.take (s.length - rest.length)).filter (· != '_'))

def float (s : List Char) : Step Float :=
  let read : Step Float := match floatText s with
    | .ok _ r =>
      match Numeral.readFloat (consumed s r) with
      | .ok x => if x == infinity then hardAt s else .ok x r
      | .error _ => hardAt s
    | .hard f => .hard f
    | .soft _ => specialFloat s
  read.note (.label "floating-point number")

def i64Min : Int := -9223372036854775808

def i64Max : Int := 9223372036854775807

def radixInt (radix : Nat) (isD : Char → Bool) (name : String) (start digits : List Char) :
    Step Int :=
  let body : Step Unit := match digits with
    | c :: r => if isD c then moreDigits isD r else hardAt digits
    | [] => hardAt []
  match body.note (.label name) with
  | .ok _ rest =>
    match Numeral.readInteger (consumed digits rest) radix i64Min i64Max with
    | .ok v => .ok v rest
    | .error e => hardAt start [] (some e.message)
  | e => e.cut.map fun _ => 0

def integer (s : List Char) : Step Int :=
  match s with
  | '0' :: 'x' :: r => radixInt 16 isHexDigit "hexadecimal integer" s r
  | '0' :: 'o' :: r => radixInt 8 (fun c => '0' ≤ c && c ≤ '7') "octal integer" s r
  | '0' :: 'b' :: r => radixInt 2 (fun c => c == '0' || c == '1') "binary integer" s r
  | _ =>
    match decInt s with
    | .ok _ r =>
      match Numeral.readInteger (consumed s r) 10 i64Min i64Max with
      | .ok v => .ok v r
      | .error e => hardAt s [] (some e.message)
    | .soft f => .soft f
    | .hard f => .hard f

def fixedDigits (n : Nat) (s : List Char) : Option (Nat × List Char) :=
  let ds := s.take n
  if ds.length == n && ds.all isDigit then some (digitsValue 10 ds, s.drop n) else none

def boundedPair (max : Nat) (s : List Char) : Step Unit :=
  match fixedDigits 2 s with
  | some (v, r) => if v ≤ max then .ok () r else hardAt s [] (some "value is out of range")
  | none => hardAt s

def partialTime (s : List Char) : Step Unit :=
  match fixedDigits 2 s with
  | some (h, ':' :: r) =>
    if h > 23 then softAt s
    else
      match boundedPair 59 r with
      | .ok _ (':' :: t) =>
        match boundedPair 60 t with
        | .ok _ ('.' :: u) =>
          let ds := u.takeWhile isDigit
          if ds.isEmpty then hardAt u else .ok () (u.drop ds.length)
        | e => e
      | .ok _ t => hardAt t
      | e => e
  | some (_, r) => softAt r
  | none => softAt s

def timeOffset : List Char → Step Unit
  | 'Z' :: r | 'z' :: r => .ok () r
  | '+' :: r | '-' :: r =>
    match boundedPair 23 r with
    | .ok _ (':' :: t) => boundedPair 59 t
    | .ok _ t => hardAt t
    | e => e
  | s => softAt s

def fullDate (s : List Char) : Step Unit :=
  match fixedDigits 4 s with
  | none => softAt s
  | some (year, '-' :: r) =>
    match fixedDigits 2 r with
    | none => hardAt r
    | some (month, t) =>
      if month < 1 || month > 12 then hardAt r [] (some "value is out of range")
      else
        match t with
        | '-' :: t =>
          match fixedDigits 2 t with
          | none => hardAt t
          | some (day, u) =>
            let leap := year % 4 == 0 && (year % 100 != 0 || year % 400 == 0)
            let longest := if month == 2 then (if leap then 29 else 28)
              else if month == 4 || month == 6 || month == 9 || month == 11 then 30 else 31
            if day < 1 || day > longest then hardAt t [] (some "value is out of range")
            else .ok () u
        | t => hardAt t
  | some (_, r) => softAt r

def dateTime (s : List Char) : Step Unit :=
  let dated : Step Unit := match fullDate s with
    | .ok _ r =>
      match r with
      | c :: t =>
        if c == 'T' || c == 't' || c == ' ' then
          match partialTime t with
          | .ok _ u =>
            match timeOffset u with
            | .ok _ v => .ok () v
            | .soft _ => .ok () u
            | .hard f => .hard f
          | .soft _ => .ok () r
          | .hard f => .hard f
        else .ok () r
      | [] => .ok () []
    | e => e
  match dated.note (.label "date-time") with
  | .soft _ => (partialTime s).note (.label "time")
  | d => d

def numberLike (s : List Char) : Step Value :=
  match dateTime s with
  | .ok _ r => .ok .datetime r
  | .hard f => .hard f
  | .soft _ =>
    match float s with
    | .ok x r => .ok (.float x) r
    | .hard f => .hard f
    | .soft _ => (integer s).map .integer

def simpleKey (s : List Char) : Step String :=
  match s with
  | '"' :: r => basicString (r.length + 1) "" r
  | '\'' :: r => literalString r
  | _ =>
    let name := s.takeWhile isBareKeyChar
    if name.isEmpty then softAt s else .ok (String.ofList name) (s.drop name.length)

def spanOf (total : Nat) (s rest : List Char) : Span := ⟨total - s.length, total - rest.length⟩

def keyPart (total : Nat) (s : List Char) : Step Key :=
  let s := skipBlanks s
  match simpleKey s with
  | .ok name r =>
    let raw := String.ofList (s.take (s.length - r.length))
    let key : Key := { name, raw, span := spanOf total s r }
    .ok key (skipBlanks r)
  | .soft f => .soft f
  | .hard f => .hard f

def keyParts (total : Nat) : Nat → List Key → List Char → Step (List Key)
  | 0, acc, s => .ok acc s
  | fuel + 1, acc, s =>
    match s with
    | '.' :: r =>
      match keyPart total r with
      | .ok k t => keyParts total fuel (acc ++ [k]) t
      | .soft _ => .ok acc s
      | .hard f => .hard f
    | _ => .ok acc s

def key (total : Nat) (s : List Char) : Step (List Key × Key) :=
  let read : Step (List Key) := match keyPart total s with
    | .ok k r => keyParts total r.length [k] r
    | .soft f => .soft f
    | .hard f => .hard f
  match read.note (.label "key") with
  | .ok ks r => .ok (ks.dropLast, ks.getLast?.getD default) r
  | .soft f => .soft f
  | .hard f => .hard f

def replaceEntry {β : Type} (entries : List (Key × β)) (name : String) (b : β) : List (Key × β) :=
  entries.map fun (k, x) => if k.name == name then (k, b) else (k, x)

def insertInline (whole : List Key) (leaf : Key) (v : Value) (span : Span) :
    Nat → List Key → Bool → List (Key × Value × Span) → Except Clash (List (Key × Value × Span))
  | _, [], dotted, entries =>
    if dotted == whole.isEmpty || entries.any (·.1.name == leaf.name) then
      .error (.duplicate leaf.name none)
    else .ok (entries ++ [(leaf, v, span)])
  | i, k :: ks, _, entries =>
    match entries.find? (·.1.name == k.name) with
    | none =>
      (insertInline whole leaf v span (i + 1) ks true []).map fun sub =>
        entries ++ [(k, .inlineTable true sub, span)]
    | some (_, .inlineTable dot sub, sp) =>
      (insertInline whole leaf v span (i + 1) ks dot sub).map fun sub =>
        entries.map fun (k', x) => if k'.name == k.name then (k', .inlineTable dot sub, sp) else (k', x)
    | some (_, other, _) => .error (.extend ((whole.take (i + 1)).map (·.name)) other.typeName)

mutual

def value (total : Nat) : Nat → List Char → Step Value
  | 0, s => hardAt s
  | fuel + 1, s =>
    match s with
    | '"' :: _ | '\'' :: _ => (string s).map .string
    | '[' :: r => array total fuel r
    | '{' :: r => inlineTable total fuel r
    | c :: r =>
      let word (w : String) (v : Value) : Step Value :=
        if (c :: r).take w.length == w.toList then .ok v ((c :: r).drop w.length)
        else softAt s stringExpected
      if c == '+' || c == '-' || isDigit c then numberLike s
      else if c == '_' then ((integer s).map .integer).note (.expected "leading digit")
      else if c == '.' then ((float s).map .float).note (.expected "leading digit")
      else if c == 't' then word "true" (.boolean true)
      else if c == 'f' then word "false" (.boolean false)
      else if c == 'i' then word "inf" (.float infinity)
      else if c == 'n' then word "nan" (.float (0.0 / 0.0))
      else softAt s stringExpected
    | [] => softAt []

def arrayValue (total : Nat) : Nat → List Char → Step Value
  | 0, s => hardAt s
  | fuel + 1, s =>
    match gap s.length s with
    | .ok _ r =>
      match value total fuel r with
      | .ok v t =>
        match gap t.length t with
        | .ok _ u => .ok v u
        | .soft f => .soft f
        | .hard f => .hard f
      | e => e
    | .soft f => .soft f
    | .hard f => .hard f

def arrayItems (total : Nat) : Nat → List Value → List Char → Step (List Value)
  | 0, acc, s => .ok acc s
  | fuel + 1, acc, s =>
    match s with
    | ',' :: r =>
      match arrayValue total fuel r with
      | .ok v t => arrayItems total fuel (acc ++ [v]) t
      | .soft _ => .ok acc s
      | .hard f => .hard f
    | _ => .ok acc s

def array (total : Nat) : Nat → List Char → Step Value
  | 0, s => hardAt s
  | fuel + 1, s =>
    let items : Step (List Value) := match arrayValue total fuel s with
      | .hard f => .hard f
      | .soft _ => .ok [] s
      | .ok v r =>
        match arrayItems total fuel [v] r with
        | .ok vs (',' :: t) => .ok vs t
        | e => e
    match items with
    | .ok vs r =>
      match gap r.length r with
      | .ok _ (']' :: t) => .ok (.array vs) t
      | .ok _ t => hardAt t [expectChar ']']
      | .soft f | .hard f => .hard f
    | .soft f | .hard f => .hard f

def inlineEntry (total : Nat) : Nat → List Char → Step (List Key × Key × Value × Span)
  | 0, s => hardAt s
  | fuel + 1, s =>
    match key total s with
    | .ok (path, leaf) ('=' :: r) =>
      let r := skipBlanks r
      match value total fuel r with
      | .ok v t => .ok (path, leaf, v, spanOf total r t) (skipBlanks t)
      | .soft f | .hard f => .hard f
    | .ok _ r => hardAt r [expectChar '.', expectChar '=']
    | .soft f => .soft f
    | .hard f => .hard f

def inlineEntries (total : Nat) : Nat → List (List Key × Key × Value × Span) → List Char →
    Step (List (List Key × Key × Value × Span))
  | 0, acc, s => .ok acc s
  | fuel + 1, acc, s =>
    match s with
    | ',' :: r =>
      match inlineEntry total fuel r with
      | .ok e t => inlineEntries total fuel (acc ++ [e]) t
      | .soft _ => .ok acc s
      | .hard f => .hard f
    | _ => .ok acc s

def inlineTable (total : Nat) : Nat → List Char → Step Value
  | 0, s => hardAt s
  | fuel + 1, s =>
    let entries : Step (List (List Key × Key × Value × Span)) := match inlineEntry total fuel s with
      | .hard f => .hard f
      | .soft _ => .ok [] s
      | .ok e r => inlineEntries total fuel [e] r
    match entries with
    | .ok es r =>
      let built := es.foldlM (fun acc (path, leaf, v, sp) =>
        insertInline path leaf v sp 0 path false acc) []
      match built with
      | .error c => hardAt s [] (some c.message)
      | .ok table =>
        match skipBlanks r with
        | '}' :: t => .ok (.inlineTable false table) t
        | t => hardAt t [.label "inline table", expectChar '}']
    | .soft f | .hard f => .hard f

end

/-- The table that entries go into. -/
inductive Current where
  | root
  | table (path : List Key) (entries : List (Key × Item))
  | tables (path : List Key) (entries : List (Key × Item))
  deriving Inhabited

/-- A document as far as it is read. -/
structure Builder where
  root : List (Key × Item) := []
  current : Current := .root
  deriving Inhabited

def alterTable {α : Type} (whole : List Key) (dotted : Bool)
    (f : Bool → List (Key × Item) → Except Clash (List (Key × Item) × α)) :
    Nat → List Key → Bool → List (Key × Item) → Except Clash (List (Key × Item) × α)
  | _, [], reached, entries => f reached entries
  | i, k :: ks, _, entries =>
    match entries.find? (·.1.name == k.name) with
    | none => do
      let (sub, a) ← alterTable whole dotted f (i + 1) ks dotted []
      pure (entries ++ [(k, .table true dotted sub)], a)
    | some (_, .value v _) => .error (.extend ((whole.take (i + 1)).map (·.name)) v.typeName)
    | some (_, .tables last) => do
      let (sub, a) ← alterTable whole dotted f (i + 1) ks false last
      pure (replaceEntry entries k.name (.tables sub), a)
    | some (_, .table imp dot es) => do
      if dotted && !imp then throw (.duplicate k.raw (some ((whole.take i).map (·.name))))
      let (sub, a) ← alterTable whole dotted f (i + 1) ks dot es
      pure (replaceEntry entries k.name (.table imp dot sub), a)

def splitLast (path : List Key) : List Key × Key := (path.dropLast, path.getLast?.getD default)

namespace Builder

def close (b : Builder) : Except Clash Builder :=
  match b.current with
  | .root => .ok b
  | .table path entries =>
    let (parent, leaf) := splitLast path
    let put (_ : Bool) (es : List (Key × Item)) : Except Clash (List (Key × Item) × Unit) :=
      match es.find? (·.1.name == leaf.name) with
      | none => .ok (es ++ [(leaf, .table false false entries)], ())
      | some (_, .table true _ _) => .ok (replaceEntry es leaf.name (.table false false entries), ())
      | some _ => .error (.duplicate leaf.raw (some (parent.map (·.name))))
    (alterTable path false put 0 parent false b.root).map fun (root, _) => { root, current := .root }
  | .tables path entries =>
    let (parent, leaf) := splitLast path
    let put (_ : Bool) (es : List (Key × Item)) : Except Clash (List (Key × Item) × Unit) :=
      match es.find? (·.1.name == leaf.name) with
      | none => .ok (es ++ [(leaf, .tables entries)], ())
      | some (_, .tables _) => .ok (replaceEntry es leaf.name (.tables entries), ())
      | some _ => .error (.duplicate leaf.raw (some (parent.map (·.name))))
    (alterTable path false put 0 parent false b.root).map fun (root, _) => { root, current := .root }

def openTable (b : Builder) (path : List Key) : Except Clash Builder := do
  let b ← b.close
  let (parent, leaf) := splitLast path
  let take (_ : Bool) (es : List (Key × Item)) : Except Clash (List (Key × Item) × List (Key × Item)) :=
    match es.find? (·.1.name == leaf.name) with
    | none => .ok (es, [])
    | some (_, .table true false sub) => .ok (es.filter (·.1.name != leaf.name), sub)
    | some _ => .error (.duplicate leaf.raw (some (parent.map (·.name))))
  let (root, entries) ← alterTable path false take 0 parent false b.root
  pure { root, current := .table path entries }

def openTables (b : Builder) (path : List Key) : Except Clash Builder := do
  let b ← b.close
  let (parent, leaf) := splitLast path
  let make (_ : Bool) (es : List (Key × Item)) : Except Clash (List (Key × Item) × Unit) :=
    match es.find? (·.1.name == leaf.name) with
    | none => .ok (es ++ [(leaf, .tables [])], ())
    | some (_, .tables _) => .ok (es, ())
    | some _ => .error (.duplicate leaf.raw (some (parent.map (·.name))))
  let (root, _) ← alterTable path false make 0 parent false b.root
  pure { root, current := .tables path [] }

def assign (b : Builder) (path : List Key) (leaf : Key) (item : Item) : Except Clash Builder :=
  let (tablePath, entries) : List String × List (Key × Item) := match b.current with
    | .root => ([], b.root)
    | .table p es | .tables p es => (p.map (·.name), es)
  let put (dotted : Bool) (es : List (Key × Item)) : Except Clash (List (Key × Item) × Unit) :=
    if dotted == path.isEmpty then .error (.duplicate leaf.name none)
    else if es.any (·.1.name == leaf.name) then .error (.duplicate leaf.name (some tablePath))
    else .ok (es ++ [(leaf, item)], ())
  (alterTable path true put 0 path false entries).map fun (es, _) =>
    match b.current with
    | .root => { b with root := es }
    | .table p _ => { b with current := .table p es }
    | .tables p _ => { b with current := .tables p es }

end Builder

def header (total : Nat) (s : List Char) : Step (Bool × List Key) :=
  let read : Step (Bool × List Key) := match s with
    | '[' :: '[' :: r =>
      match key total r with
      | .ok (path, leaf) (']' :: ']' :: t) =>
        match lineEnd t with
        | .ok _ u => .ok (true, path ++ [leaf]) u
        | .soft f | .hard f => .hard ((f.push expectNewline).push (expectChar '#'))
      | .ok _ t => hardAt t [expectChar '.', .expected "`]]`"]
      | .soft f | .hard f => .hard f
    | '[' :: r =>
      match key total r with
      | .ok (path, leaf) (']' :: t) =>
        match lineEnd t with
        | .ok _ u => .ok (false, path ++ [leaf]) u
        | .soft f | .hard f => .hard ((f.push expectNewline).push (expectChar '#'))
      | .ok _ t => hardAt t [expectChar '.', expectChar ']']
      | .soft f | .hard f => .hard f
    | s => softAt s
  read.note (.label "table header")

def entry (total : Nat) (s : List Char) : Step (List Key × Key × Value × Span) :=
  match key total s with
  | .ok (path, leaf) ('=' :: r) =>
    let r := skipBlanks r
    match value total (4 * (r.length + 1)) r with
    | .ok v t =>
      match lineEnd t with
      | .ok _ u => .ok (path, leaf, v, spanOf total r t) u
      | .soft f | .hard f => .hard ((f.push expectNewline).push (expectChar '#'))
    | .soft f | .hard f => .hard f
  | .ok _ r => hardAt r [expectChar '.', expectChar '=']
  | .soft f | .hard f => .hard f

def Failure.toError (total : Nat) (f : Failure) : Error :=
  let offset := total - f.left
  { span := some ⟨offset, if offset < total then offset + 1 else offset⟩, message := f.message }

def clashAt (total : Nat) (s : List Char) (c : Clash) (label : Option String := none) : Error :=
  Failure.toError total { left := s.length, context := (label.map Context.label).toList, cause := some c.message }

def entries (total : Nat) : Nat → Builder → List Char → Except Error Builder
  | 0, b, _ => .ok b
  | fuel + 1, b, s =>
    match s with
    | [] => .ok b
    | '#' :: _ =>
      match (comment? s).getD s with
      | [] => .ok b
      | r =>
        match newline? r with
        | some t => entries total fuel b (skipBlanks t)
        | none => .error (Failure.toError total { left := r.length })
    | '[' :: _ =>
      match header total s with
      | .ok (many, path) r =>
        match (if many then b.openTables path else b.openTable path) with
        | .ok b => entries total fuel b (skipBlanks r)
        | .error c => .error (clashAt total s c (some "table header"))
      | .soft f | .hard f => .error (f.toError total)
    | '\n' :: r => entries total fuel b (skipBlanks r)
    | '\r' :: '\n' :: r => entries total fuel b (skipBlanks r)
    | '\r' :: _ => .error (Failure.toError total { left := s.length })
    | _ =>
      match entry total s with
      | .ok (path, leaf, v, span) r =>
        match b.assign path leaf (.value v span) with
        | .ok b => entries total fuel b (skipBlanks r)
        | .error c => .error (clashAt total s c)
      | .soft f | .hard f => .error (f.toError total)

def parse (text : String) : Except Error (List (Key × Item)) := do
  let chars := text.toList
  let total := chars.length
  let s := match chars with
    | c :: r => if c.toNat == 0xFEFF then r else c :: r
    | [] => []
  let b ← entries total (total + 1) {} (skipBlanks s)
  match b.close with
  | .ok b => pure b.root
  | .error c => throw { span := none, message := c.message }

end Sim8080.Toml
