import Sim8080.Memory
import Sim8080.Files
import Sim8080.Snapshot.Region

namespace Sim8080

/-- Why a program image could not be loaded. -/
inductive LoadError where
  | io (path : String) (e : IoError)
  | tooLarge (offset : UInt16) (len : Nat)
  deriving Repr, DecidableEq

namespace LoadError

def message : LoadError → String
  | io path e => "failed to read " ++ path ++ ": " ++ e.message
  | tooLarge offset len => s!"{len} bytes at " ++ hex4 offset.toNat ++ " exceed the 64K address space"

def kind : LoadError → String
  | io .. => "Io"
  | tooLarge .. => "TooLarge"

end LoadError

namespace Memory

def load (m : Memory) (offset : UInt16) (data : List UInt8) : Except LoadError Memory :=
  if offset.toNat + data.length > addressSpace then .error (.tooLarge offset data.length)
  else .ok (m.writeAll offset data)

def loadFile (m : Memory) (files : Files) (path : String) (offset : UInt16) :
    Except LoadError (Nat × Memory) := do
  let data ← (files.read path).mapError (LoadError.io path)
  let m ← m.load offset data.toList
  pure (data.size, m)

end Memory

end Sim8080
