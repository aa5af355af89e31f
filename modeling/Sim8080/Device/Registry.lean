
namespace Sim8080

/-- The kinds of registered device. -/
inductive DeviceKind where
  | console
  | timer
  deriving Repr, DecidableEq, Inhabited

/-- A registered device: its name, what it does, and its kind. -/
structure RegistryEntry where
  name : String
  description : String
  kind : DeviceKind
  deriving Repr, DecidableEq, Inhabited

namespace Registry

def all : List RegistryEntry :=
  [{ name := "cpm", description := "CP/M console: BDOS output on port 1, quit on port 0",
     kind := .console },
   { name := "test",
     description := "device register on port 1, RST 1 every second, quit on port 0",
     kind := .timer }]

def find? (name : String) : Option RegistryEntry := all.find? (·.name == name)

def names : String := ", ".intercalate (all.map (·.name))

end Registry

end Sim8080
