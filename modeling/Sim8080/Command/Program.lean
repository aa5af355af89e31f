import Sim8080.Files

namespace Sim8080

-- An entry of an archive as the zip library opens it by its index: its full name, whether it
-- is a directory, and its contents read to the end (or the message of the read's error).
structure ArchiveEntry where
  name : String
  isDir : Bool
  contents : Except String ByteArray

-- The zip library reading an archive from what was opened on disk: each entry opened in turn
-- (or the message of the error opening it), or the message of the archive's error.
abbrev ZipReader := Entry → Except String (List (Except String ArchiveEntry))

inductive ProgramError where
  | io (e : IoError)
  | archive (message : String)
  | entry (message : String)
  | missing (name : String)
  | empty (name : String)
  deriving Inhabited

def ProgramError.message : ProgramError → String
  | .io e => "I/O error: " ++ e.message
  | .archive m => "invalid ZIP: " ++ m
  | .entry m => "I/O error: " ++ m
  | .missing name => "no program " ++ name ++ " in archive"
  | .empty name => "program " ++ name ++ " is empty"

namespace Program

def lower (s : String) : String := s.map Char.toLower

def splitArchive? (target : String) : Option (String × String) :=
  let chars := target.toList
  let marker := ".zip:".toList
  let lowered := (lower target).toList
  let hit := (List.range chars.length).find? fun i => (lowered.drop i).take 5 == marker
  hit.bind fun i =>
    let name := String.ofList (chars.drop (i + 5))
    if name.isEmpty then none else some (String.ofList (chars.take (i + 4)), name)

def hasExtension (path ext : String) : Bool :=
  (Files.extension? path).any fun e => lower e == lower ext

def lastComponent (name : String) : String := ((name.splitOn "/").getLast?).getD ""

-- Entries are opened in order until one is wanted; an entry that does not open ends the search.
def scan (name : Option String) : List (Except String ArchiveEntry) → Except ProgramError ByteArray
  | [] => .error (.missing (name.getD "*.com/*.bin"))
  | .error m :: _ => .error (.archive m)
  | .ok e :: rest =>
    let file := lastComponent e.name
    let wanted := match name with
      | some n => lower file == lower n
      | none => hasExtension file "com" || hasExtension file "bin"
    if e.isDir || !wanted then scan name rest
    else
      match e.contents with
      | .error m => .error (.entry m)
      | .ok data => if data.size == 0 then .error (.empty file) else .ok data

def fromArchive (zip : ZipReader) (files : Files) (path : String) (name : Option String) :
    Except ProgramError ByteArray := do
  let opened ← (files.lookup path).mapError .io
  let entries ← (zip opened).mapError .archive
  scan name entries

def load (zip : ZipReader) (files : Files) (target : String) : Except ProgramError ByteArray := do
  match splitArchive? target with
  | some (archive, name) => fromArchive zip files archive (some name)
  | none =>
    let data ← if hasExtension target "zip" then fromArchive zip files target none
      else (files.read target).mapError .io
    if data.size == 0 then throw (.empty target)
    pure data

end Program

end Sim8080
