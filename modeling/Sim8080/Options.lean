import Sim8080.Snapshot.Region
import Sim8080.Json.Value
import Sim8080.Decimal.Text
import Sim8080.Text.Quoted
import Sim8080.Files

namespace Sim8080

structure Options where
  cpu : String := "i8080"
  clockResolution : Int := -1
  isrFreq : Float := 0.0
  runAsync : Bool := false
  exitAddress : Option UInt16 := none
  compressor : Compressor := .zlib
  rom : List Region := []
  deriving Inhabited

inductive OptionsError where
  | json (message : String)
  | io (path : String) (error : IoError)
  | notAnObject
  | cpu (name : String)
  | isrFreq (value : Float)
  | region (offset : UInt16) (size : UInt32)

namespace OptionsError

def message : OptionsError → String
  | json m => "malformed options: " ++ m
  | io p e => s!"failed to read options from {p}: {e.message}"
  | notAnObject => "options must be a JSON object"
  | cpu name => "unsupported cpu " ++ Text.quoted name
  | isrFreq v => "isrFreq must be a finite value >= 0, got " ++ Decimal.plainText v
  | region o s => s!"rom region at {hex4 o.toNat} with size {s} runs past the address space"

def kind : OptionsError → String
  | json _ => "Json"
  | io _ _ => "Io"
  | notAnObject => "NotAnObject"
  | cpu _ => "Cpu"
  | isrFreq _ => "IsrFreq"
  | region _ _ => "Region"

end OptionsError

namespace Options

-- The JSON library as options use it: the options as a value and as text, and a value read
-- back as options (or the message of what was refused).
structure Codec where
  toValue : Options → Json
  ofValue : Json → Except String Options
  toText : Options → String
  deriving Inhabited

def validate (o : Options) : Except OptionsError Unit :=
  if o.cpu != "i8080" then .error (.cpu o.cpu)
  else if !o.isrFreq.isFinite || o.isrFreq < 0 then .error (.isrFreq o.isrFreq)
  else
    match o.rom.find? (!·.isValid) with
    | some r => .error (.region r.offset r.size)
    | none => .ok ()

def source (files : Files) (text : String) : Except OptionsError String :=
  if text.startsWith "file://" then
    let path := (text.drop 7).toString
    match files.readText path with
    | .ok t => pure t
    | .error e => throw (.io path e)
  else pure text

-- The update's members replace those of the options' own value with the same keys (a value
-- that is not an object is read back as it is), and the result is read back and validated.
def mergeValue (codec : Codec) (o : Options) (update : Json) : Except OptionsError Options :=
  match update with
  | .obj ms =>
    let merged := match codec.toValue o with
      | .obj current => Json.obj (ms.foldl (fun acc (k, v) => Json.insertMember acc k v) current)
      | v => v
    match codec.ofValue merged with
    | .ok next => do
      validate next
      pure next
    | .error m => throw (.json m)
  | _ => throw .notAnObject

def merge (parse : String → Except String Json) (codec : Codec) (o : Options) (files : Files)
    (text : String) : Except OptionsError Options := do
  let text ← source files text
  match parse text with
  | .ok update => o.mergeValue codec update
  | .error m => throw (.json m)

def ofText (parse : String → Except String Json) (codec : Codec) (files : Files) (text : String) :
    Except OptionsError Options :=
  merge parse codec {} files text

end Options

end Sim8080
