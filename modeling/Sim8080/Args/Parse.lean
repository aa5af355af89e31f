import Sim8080.Args.Usage
import Sim8080.Text.Similarity

namespace Sim8080

/-- Why the command line was not accepted, or the text it asked for. -/
inductive ArgError where
  | help
  | version
  | unknown (word : String) (suggestion : Option Arg) (hint : Bool) (used : List Arg)
  | invalidValue (arg : Arg) (value : String) (reason : String)
  | missingValue (arg : Arg)
  | repeated (arg : Arg)
  | unexpectedValue (arg : Arg) (value : String) (used : List Arg)
  | missingProgram (used : List Arg)
  deriving Repr, Inhabited

namespace ArgError

def kind : ArgError → String
  | help => "DisplayHelp"
  | version => "DisplayVersion"
  | unknown .. => "UnknownArgument"
  | invalidValue .. => "ValueValidation"
  | missingValue _ => "InvalidValue"
  | repeated _ => "ArgumentConflict"
  | unexpectedValue .. => "TooManyValues"
  | missingProgram _ => "MissingRequiredArgument"

def summary : ArgError → String
  | help | version => ""
  | unknown w .. => "unexpected argument '" ++ w ++ "' found"
  | invalidValue a v r => "invalid value '" ++ v ++ "' for '" ++ a.name ++ "': " ++ r
  | missingValue a => "a value is required for '" ++ a.name ++ "' but none was supplied"
  | repeated a => "the argument '" ++ a.name ++ "' cannot be used multiple times"
  | unexpectedValue a v _ =>
    "unexpected value '" ++ v ++ "' for '" ++ a.name ++ "' found; no more were expected"
  | missingProgram _ =>
    "the following required arguments were not provided:\n  " ++ Arg.program.render true

def tips : ArgError → List String
  | unknown _ (some s) _ _ => ["a similar argument exists: '--" ++ s.long.getD "" ++ "'"]
  | unknown w none true _ => ["to pass '" ++ w ++ "' as a value, use '-- " ++ w ++ "'"]
  | _ => []

def usage : ArgError → Option (List Arg)
  | unknown _ _ _ used | unexpectedValue _ _ used | missingProgram used => some used
  | repeated _ => some []
  | _ => none

def message (e : ArgError) : String :=
  match e with
  | help => Usage.helpText
  | version => Usage.versionText
  | _ =>
    let tips := e.tips
    let tipText := if tips.isEmpty then "" else "\n" ++ String.join (tips.map ("\n  tip: " ++ ·))
    let usageText := match e.usage with
      | some used => "\n\n" ++ Usage.line used
      | none => ""
    "error: " ++ e.summary ++ tipText ++ usageText ++ "\n\nFor more information, try '--help'.\n"

end ArgError

/-- The reader's progress through the words. -/
structure ArgReader where
  args : Args := {}
  present : List Arg := []
  pending : Option (Arg × List String) := none
  trailing : Bool := false
  programTaken : Bool := false
  deriving Inhabited

namespace ArgReader

def record (r : ArgReader) (arg : Arg) : ArgReader :=
  { r with present := r.present.erase arg ++ [arg] }

def apply (r : ArgReader) (arg : Arg) (vals : List String) : ArgReader × Option ArgError :=
  let once (k : ArgReader → ArgReader × Option ArgError) :=
    if r.present.contains arg then ({ r with present := r.present.erase arg }, some (.repeated arg))
    else k (r.record arg)
  match arg.kind with
  | .value _ =>
    match vals with
    | [] => (r, some (.missingValue arg))
    | v :: _ =>
      once fun r =>
        match r.args.setValue arg v with
        | .ok args => ({ r with args }, none)
        | .error .empty => (r, some (.missingValue arg))
        | .error (.invalid reason) => (r, some (.invalidValue arg v reason))
  | .switch => once fun r => ({ r with args := r.args.mark arg }, none)
  | .counter => ({ r.record arg with args := r.args.mark arg }, none)
  | .help => (r, some .help)
  | .version => (r, some .version)

def resolve (r : ArgReader) : ArgReader × Option ArgError :=
  match r.pending with
  | none => (r, none)
  | some (arg, vals) => apply { r with pending := none } arg vals

def react (r : ArgReader) (arg : Arg) (vals : List String) : ArgReader × Option ArgError :=
  match r.resolve with
  | (r, some e) => (r, some e)
  | (r, none) => r.apply arg vals

def settle : ArgReader × Option ArgError → Except ArgError ArgReader
  | (_, some e) => .error e
  | (r, none) => .ok r

def awaiting (r : ArgReader) : Option Arg :=
  match r.pending with
  | some (a, []) => if a.isPositional then none else some a
  | _ => none

def suggest (name : String) : Option Arg :=
  let scored := Arg.all.filterMap fun a =>
    a.long.bind fun l =>
      let s := Text.jaro name l
      if s > 0.7 then some (s, a) else none
  (scored.foldl (fun best (s, a) =>
    match best with
    | some (b, _) => if s ≥ b then some (s, a) else best
    | none => some (s, a)) none).map (·.2)

def unknownLong (r : ArgReader) (name : String) : ArgError :=
  let r := r.resolve.1
  let suggestion := suggest name
  let used := match suggestion with
    | some s => if r.present.contains s then r.present else r.present ++ [s]
    | none => r.present
  .unknown ("--" ++ name) suggestion suggestion.isNone used

def longWord (r : ArgReader) (word : String) : Except ArgError ArgReader :=
  let body := (word.drop 2).toString
  let (name, value) := match body.splitOn "=" with
    | n :: v :: rest => (n, some ("=".intercalate (v :: rest)))
    | _ => (body, none)
  match Arg.ofLong? name with
  | none => .error (r.unknownLong name)
  | some arg =>
    if arg.takesValue then
      match value with
      | some v => settle (r.react arg [v])
      | none => (settle r.resolve).map fun r => { r with pending := some (arg, []) }
    else
      match value with
      | some v => .error (.unexpectedValue arg v (r.present ++ [arg]))
      | none => settle (r.react arg [])

def shortWord (r : ArgReader) : List Char → Except ArgError ArgReader
  | [] => .ok r
  | c :: cs =>
    match Arg.ofShort? c with
    | some arg => (settle (r.react arg [])).bind fun r => shortWord r cs
    | none => .error (.unknown ("-" ++ String.singleton c) none true [])

def looksLikeOption (word : String) : Bool := word.startsWith "-" && word != "-" && word != "--"

def positional (r : ArgReader) (word : String) : Except ArgError ArgReader :=
  if r.programTaken then .error (.unknown word none (!r.trailing && looksLikeOption word) [])
  else (settle r.resolve).map fun r => { r with pending := some (.program, [word]), programTaken := true }

def step (r : ArgReader) (word : String) : Except ArgError ArgReader :=
  let asValue := match r.awaiting with
    | some a => a.takesHyphenValues
    | none => false
  if r.trailing then r.positional word
  else if !asValue && word == "--" then .ok { r with trailing := true }
  else if !asValue && word.startsWith "--" then r.longWord word
  else if !asValue && looksLikeOption word then r.shortWord (word.drop 1).toString.toList
  else
    match r.awaiting with
    | some a => .ok { r with pending := some (a, [word]) }
    | none => r.positional word

end ArgReader

def Args.parse (words : List String) : Except ArgError Args := do
  let r ← words.foldlM ArgReader.step {}
  let r ← ArgReader.settle r.resolve
  if r.args.program.isNone && !r.args.listControllers then
    throw (.missingProgram (r.present ++ [.program]))
  pure r.args

end Sim8080
