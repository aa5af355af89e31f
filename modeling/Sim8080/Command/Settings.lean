import Sim8080.Snapshot.Region
import Sim8080.Files

namespace Sim8080

/-- What a settings file sets. -/
structure Settings where
  controller : Option String := none
  loadAddress : Option UInt16 := none
  clockResolution : Option Int := none
  isrFreq : Option Float := none
  exitAddress : Option UInt16 := none
  compressor : Option Compressor := none
  deriving Inhabited

/-- Why the settings could not be read. -/
inductive SettingsError where
  | io (path : String) (e : IoError)
  | parse (path : String) (message : String)

def SettingsError.message : SettingsError → String
  | .io path e => path ++ ": " ++ e.message
  | .parse path m => path ++ ": " ++ m

namespace Settings

-- `read` is the TOML library reading a document as settings, with the message of its error.
def ofFile (read : String → Except String Settings) (files : Files) (path : String) :
    Except SettingsError Settings := do
  let text ← (files.readText path).mapError (.io path)
  (read text).mapError (.parse path)

def load (read : String → Except String Settings) (files : Files) (explicit fallback : Option String) :
    Except SettingsError Settings :=
  match explicit, fallback with
  | some path, _ => ofFile read files path
  | none, some path => if files.exists? path then ofFile read files path else .ok {}
  | none, none => .ok {}

end Settings

end Sim8080
